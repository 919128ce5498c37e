import BbtCoroutine.Sync.CoWaiter

/-!
# Queues of waiters

The primitives keep their waiters in lists and notify them in two ways: `_NotifyOne` pops
until one waiter is notified with effect, `_NotifyAll` notifies every one.  Both change
the wait records only by winning rounds that were still undecided, and no waiter they
have passed is live afterwards.
-/

namespace BbtCoroutine

open Wait

/-- A queue of waiters: a null slot, or the waiter of a wait of a coroutine. -/
abbrev WaitQueue (Co : Type*) := List (Option (Co × ℕ))

variable {Co : Type*} [DecidableEq Co]

/-- One queue of `_NotifyOne`: waiters are popped until one is notified with effect.  The last
component says whether one was. -/
@[grind =] def notifyOneIn : WaitQueue Co → (Co → Wait) → WaitQueue Co × (Co → Wait) × Bool
  | [], w => ([], w, false)
  | none :: q, w => notifyOneIn q w
  | some (c, n) :: q, w =>
    let w' := Function.update w c ((w c).notify n)
    if (w c).live n then (q, w', true) else notifyOneIn q w'

/-- `_NotifyAll` on one queue. -/
@[grind =] def notifyAllIn : WaitQueue Co → (Co → Wait) → (Co → Wait)
  | [], w => w
  | none :: q, w => notifyAllIn q w
  | some (c, n) :: q, w => notifyAllIn q (Function.update w c ((w c).notify n))

/-- Notifying one wait changes the wait records by notifying only. -/
lemma update_notify_notified (w : Co → Wait) (c : Co) (n : ℕ) (k : Co) :
    Notified (w k) (Function.update w c ((w c).notify n) k) := by
  by_cases hk : k = c
  · subst hk
    rw [Function.update_self]
    exact notified_notify _ _
  · rw [Function.update_of_ne hk]
    exact Notified.refl _

/-- `NotifyOne` changes the wait records by notifying only. -/
lemma notifyOneIn_notified (q : WaitQueue Co) (w : Co → Wait) (k : Co) :
    Notified (w k) ((notifyOneIn q w).2.1 k) := by
  induction q generalizing w with
  | nil => exact Notified.refl _
  | cons slot q ih =>
    cases slot with
    | none => exact ih w
    | some e =>
      simp only [notifyOneIn]
      split
      · exact update_notify_notified w e.1 e.2 k
      · exact (update_notify_notified w e.1 e.2 k).trans (ih _)

/-- `NotifyOne` leaves the end of the queue. -/
lemma notifyOneIn_suffix (q : WaitQueue Co) (w : Co → Wait) : (notifyOneIn q w).1 <:+ q := by
  induction q generalizing w with
  | nil => exact List.suffix_rfl
  | cons slot q ih =>
    cases slot with
    | none => exact (ih w).trans (List.suffix_cons _ _)
    | some e =>
      simp only [notifyOneIn]
      split
      · exact List.suffix_cons _ _
      · exact (ih _).trans (List.suffix_cons _ _)

/-- A waiter that is live after `_NotifyOne` is still in the queue. -/
lemma mem_notifyOneIn {q : WaitQueue Co} {w : Co → Wait} {k : Co} {n : ℕ}
    (h : some (k, n) ∈ q) (hl : ((notifyOneIn q w).2.1 k).live n = true) :
    some (k, n) ∈ (notifyOneIn q w).1 := by
  induction q generalizing w with
  | nil => exact h
  | cons slot q ih =>
    cases slot with
    | none => exact ih (by simpa using h) hl
    | some e =>
      have hne : (k, n) ≠ e := by
        rintro rfl
        have hn : Notified ((Function.update w k ((w k).notify n)) k)
            ((notifyOneIn (some (k, n) :: q) w).2.1 k) := by
          simp only [notifyOneIn]
          split
          · exact Notified.refl _
          · exact notifyOneIn_notified q _ k
        have := hn.eq_of_live hl
        rw [this, Function.update_self, live_notify_self] at hl
        cases hl
      have hq : some (k, n) ∈ q := by simpa [hne] using h
      simp only [notifyOneIn] at hl ⊢
      split
      · exact hq
      · rename_i hd
        simp only [hd] at hl
        exact ih hq hl

/-- If `_NotifyOne` finds nobody in a queue, no waiter of the queue was live. -/
lemma not_live_of_notifyOneIn {q : WaitQueue Co} {w : Co → Wait}
    (h : (notifyOneIn q w).2.2 = false) {k : Co} {n : ℕ} (hm : some (k, n) ∈ q) :
    (w k).live n = false := by
  induction q generalizing w with
  | nil => cases hm
  | cons slot q ih =>
    cases slot with
    | none => exact ih h (by simpa using hm)
    | some e =>
      simp only [notifyOneIn] at h
      split at h
      · cases h
      · rename_i hd
        rcases List.mem_cons.mp hm with he | hm
        · cases he
          exact Bool.eq_false_iff.mpr hd
        · have := ih h hm
          by_cases hk : k = e.1
          · subst hk
            rwa [Function.update_self, live_notify_of_dead (Bool.eq_false_iff.mpr hd)] at this
          · rwa [Function.update_of_ne hk] at this

/-- If `_NotifyOne` finds a waiter, it is the first live one: the dead ones before it are dropped,
and its round is won by `Notify`. -/
lemma exists_of_notifyOneIn {q : WaitQueue Co} {w : Co → Wait}
    (h : (notifyOneIn q w).2.2 = true) : ∃ dead k n rest, q = dead ++ some (k, n) :: rest ∧
      (∀ j m, some (j, m) ∈ dead → (w j).live m = false) ∧ (w k).live n = true ∧
      (notifyOneIn q w).1 = rest ∧
      ((notifyOneIn q w).2.1 k).round.won = some pollEventCustom := by
  induction q generalizing w with
  | nil => cases h
  | cons slot q ih =>
    cases slot with
    | none =>
      obtain ⟨dead, k, n, rest, rfl, hd, hk⟩ := ih (w := w) h
      exact ⟨none :: dead, k, n, rest, rfl, fun j m hm => hd j m (by simpa using hm), hk⟩
    | some e =>
      simp only [notifyOneIn] at h ⊢
      split at h
      · rename_i hl
        refine ⟨[], e.1, e.2, q, rfl, by simp, hl, by rw [if_pos hl], ?_⟩
        simp only [hl, if_true, Function.update_self, round_notify]
        exact Round.won_trigger_of_undecided (live_eq_true_iff.mp hl).2.2.2
      · rename_i hd
        rw [if_neg hd]
        have hdead : (w e.1).live e.2 = false := Bool.eq_false_iff.mpr hd
        -- the notified dead waiter leaves the others as live as they were
        have hlive : ∀ j m, (Function.update w e.1 ((w e.1).notify e.2) j).live m =
            (w j).live m := fun j m => by
          by_cases hj : j = e.1
          · rw [hj, Function.update_self, live_notify_of_dead hdead]
          · rw [Function.update_of_ne hj]
        obtain ⟨dead, k, n, rest, rfl, hds, hl, hk⟩ := ih h
        refine ⟨some e :: dead, k, n, rest, rfl, fun j m hm => ?_, hlive k n ▸ hl, hk⟩
        rcases List.mem_cons.mp hm with he | hm
        · cases he
          exact hdead
        · exact hlive j m ▸ hds j m hm

/-- `NotifyAll` changes the wait records by notifying only. -/
lemma notifyAllIn_notified (q : WaitQueue Co) (w : Co → Wait) (k : Co) :
    Notified (w k) (notifyAllIn q w k) := by
  induction q generalizing w with
  | nil => exact Notified.refl _
  | cons slot q ih =>
    cases slot with
    | none => exact ih w
    | some e => exact (update_notify_notified w e.1 e.2 k).trans (ih _)

/-- After `_NotifyAll` no waiter of the queue is live. -/
lemma not_live_notifyAllIn {q : WaitQueue Co} (w : Co → Wait) {k : Co} {n : ℕ}
    (h : some (k, n) ∈ q) : (notifyAllIn q w k).live n = false := by
  induction q generalizing w with
  | nil => cases h
  | cons slot q ih =>
    cases slot with
    | none => exact ih w (by simpa using h)
    | some e =>
      rcases List.mem_cons.mp h with he | hm
      · cases he
        by_contra hl
        rw [Bool.not_eq_false] at hl
        have := (notifyAllIn_notified q (Function.update w k ((w k).notify n)) k).eq_of_live hl
        rw [notifyAllIn, this, Function.update_self, live_notify_self] at hl
        cases hl
      · exact ih _ hm

/-- A live waiter of the queue is decided by `_NotifyAll`. -/
lemma decided_notifyAllIn {q : WaitQueue Co} {w : Co → Wait} {k : Co} {n : ℕ}
    (h : some (k, n) ∈ q) (hl : (w k).live n = true) :
    (notifyAllIn q w k).round.undecided = false := by
  by_contra hu
  rw [Bool.not_eq_false] at hu
  have hd := not_live_notifyAllIn w h
  rw [(notifyAllIn_notified q w k).same hu, hl] at hd
  cases hd

end BbtCoroutine
