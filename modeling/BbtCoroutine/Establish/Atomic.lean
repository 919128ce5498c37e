import BbtCoroutine.Establish.Next

/-!
# The setup of a wait is undone when it fails

An operation that fails before the coroutine has switched out leaves no trace of the attempt, with
one exception: nobody catches what `InitFdEvent` throws when the slot of the descriptor cannot be
made, and the event stays in `m_await_event`.  `atomic_iff` says so for every operation and every
pattern of failures.
-/

namespace BbtCoroutine.Establish

open Effects Code
open BoundedWait (intMax)

/-- An operation that does not get as far as the switch leaves no trace. -/
def Atomic (op : Op) (a : Answer) (s : State) : Prop :=
  (op.run a s).1 ≠ .parked → Restored s (op.run a s).2 ∧ CanWait (op.run a s).2

/-- The operation gets as far as the slot of a descriptor. -/
def Op.ReachesFdSlot (a : Answer) (s : State) : Op → Prop
  | yieldUntilFdReadable fd ms | yieldUntilFdWriteable fd ms => a.ReachesFd fd (ms.getD 0)
  | yieldUntilFdEx fd ms => a.ReachesFd fd ms
  | waitCombined w fd wantFd =>
    a.ReachesFd fd 0 ∧ a.cancelledCustom = false ∧ a.expired = false ∧ 0 < a.remainMs ∧
      (s.slot (.other w) = none ∨ a.final = true) ∧ (wantFd = true ∨ a.remainMs < intMax)
  | _ => False

/-! ## Every operation -/

section

variable {s : State} {a : Answer} {op : Op}

/-- An operation whose every end before the switch is restored is atomic. -/
lemma atomic_of_meets (h : Meets (op.run a) s (fun _ t => Restored s t) (fun t => Restored s t)
    fun _ => True) : Atomic op a s := by
  intro hp
  rcases hr : op.run a s with ⟨o, t⟩
  have h' := (meets_iff hr).mp h
  rw [hr] at hp
  have hres : Restored s t := by
    cases o with
    | ok x => exact h'
    | threw => exact h'
    | parked => exact absurd rfl hp
  exact ⟨hres, canWait_of_awaitEvent hres.awaitEvent⟩

/-- An operation that throws with an awaited event is not atomic. -/
lemma not_atomic_of_meets (h : Meets (op.run a) s (fun _ _ => False)
    (fun t => t.awaitEvent ≠ none) fun _ => False) : ¬Atomic op a s := by
  intro hatomic
  rcases hr : op.run a s with ⟨o, t⟩
  have h' := (meets_iff hr).mp h
  unfold Atomic at hatomic
  rw [hr] at hatomic
  cases o with
  | ok x => exact h'
  | threw => exact h' (hatomic (by rintro ⟨⟩)).1.awaitEvent
  | parked => exact h'

/-- When the remaining time is passed as a timeout. -/
lemma timeoutMs_ne_none : a.timeoutMs ≠ none ↔ a.remainMs < intMax := by
  unfold Answer.timeoutMs
  split
  · rename_i h
    exact iff_of_true (Option.some_ne_none _) h
  · rename_i h
    exact iff_of_false (fun hne => hne rfl) h

/-- What the combined form needs, to get as far as the slot of the descriptor. -/
lemma reachesFdSlot_combined {w : ℕ} {fd : ℤ} {wantFd : Bool} :
    (Op.waitCombined w fd wantFd).ReachesFdSlot a s ↔
      a.cancelRequested = false ∧ a.expired = false ∧
        (s.slot (.other w) = none ∨ a.final = true) ∧ a.CombinedReaches fd wantFd := by
  constructor
  · rintro ⟨⟨hc, he, hcf, -, hfd⟩, hcc, hx, hr, hslot, hw⟩
    exact ⟨hc, hx, hslot, he, hcc, hcf, hfd, hr, hw.imp_right timeoutMs_ne_none.mpr⟩
  · rintro ⟨hc, hx, hslot, he, hcc, hcf, hfd, hr, hw⟩
    exact ⟨⟨hc, he, hcf, le_rfl, hfd⟩, hcc, hx, hr, hslot, hw.imp_right timeoutMs_ne_none.mp⟩

/-- No failure but that of the slot of a descriptor leaves a trace. -/
lemma meets_run (hs : Ready s) (h : ¬(op.ReachesFdSlot a s ∧ a.fails .fdSlot = true)) :
    Meets (op.run a) s (fun _ t => Restored s t) (fun t => Restored s t) fun _ => True := by
  have hundone : ∀ {α : Type} {p : Code State α} (g : α → Result),
      Meets p s (fun _ t => Undone s t) (fun t => Undone s t) (fun _ => True) →
      Meets (g <$> p) s (fun _ t => Restored s t) (fun t => Restored s t) fun _ => True := by
    intro α p g hp
    exact Meets.map (hp.mono (fun _ t h => h.restored hs) (fun t h => h.restored hs) fun _ h => h)
  have hwait : ∀ w timeout heap, Meets (waitIn a w timeout heap) s (fun _ t => Undone s t)
      (fun t => Undone s t) fun _ => True := by
    intro w timeout heap
    exact (meets_waitIn hs.idle).mono (fun _ _ h => h.1) (fun _ h => h) fun _ h => h
  cases op with
  | yieldUntilTimeout ms =>
    refine hundone _ (meets_yieldUntil hs.idle ?_)
    rintro ⟨⟨-, -, -, -, hfd⟩, -⟩
    exact absurd hfd (by decide)
  | yieldUntilFdReadable fd ms => exact hundone _ (meets_yieldUntil hs.idle h)
  | yieldUntilFdWriteable fd ms => exact hundone _ (meets_yieldUntil hs.idle h)
  | yieldUntilFdEx fd ms => exact hundone _ (meets_yieldUntil hs.idle h)
  | wait w => exact hundone _ (hwait _ _ _)
  | waitWithCallback w => exact hundone _ (hwait _ _ _)
  | waitWithTimeout w ms => exact hundone _ (hwait _ _ _)
  | waitWithTimeoutAndCallback w ms => exact hundone _ (hwait _ _ _)
  | waitOptions w => exact hundone _ (meets_waitOptions hs.idle)
  | waitCombined w fd wantFd =>
    refine hundone _ (meets_waitCombined hs.idle ?_)
    rintro hc hx hslot ⟨hreach, hf⟩
    exact h ⟨reachesFdSlot_combined.mpr ⟨hc, hx, hslot, hreach⟩, hf⟩
  | lock => exact Meets.map (meets_lock hs)
  | tryLock ms => exact Meets.map (meets_tryLock hs ms)
  | rLock => exact Meets.map (meets_rwLock hs none)
  | wLock => exact Meets.map (meets_rwLock hs none)
  | tryRLock ms => exact Meets.map (meets_rwLock hs (some ms))
  | tryWLock ms => exact Meets.map (meets_rwLock hs (some ms))
  | condWait => exact Meets.map (meets_condWaitIn hs none)
  | condWaitFor ms => exact Meets.map (meets_condWaitIn hs (some ms))

/-- The failure of the slot of a descriptor leaves the event behind. -/
lemma meets_run_throws (hs : Ready s) (h : op.ReachesFdSlot a s) (hf : a.fails .fdSlot = true) :
    Meets (op.run a) s (fun _ _ => False) (fun t => t.awaitEvent ≠ none) fun _ => False := by
  cases op with
  | yieldUntilFdReadable fd ms => exact Meets.map (meets_yieldUntil_throws h hf)
  | yieldUntilFdWriteable fd ms => exact Meets.map (meets_yieldUntil_throws h hf)
  | yieldUntilFdEx fd ms => exact Meets.map (meets_yieldUntil_throws h hf)
  | waitCombined w fd wantFd =>
    obtain ⟨hc, hx, hslot, hreach⟩ := reachesFdSlot_combined.mp h
    exact Meets.map (meets_waitCombined_throws hs.awaitEvent hc hx hslot hreach hf)
  | _ => exact h.elim

/-- An operation establishes its wait or leaves no trace, exactly if it does not fail to make the
slot of a descriptor. -/
theorem atomic_iff (hs : Ready s) :
    Atomic op a s ↔ ¬(op.ReachesFdSlot a s ∧ a.fails .fdSlot = true) := by
  constructor
  · rintro hatomic ⟨h, hf⟩
    exact not_atomic_of_meets (meets_run_throws hs h hf) hatomic
  · intro h
    exact atomic_of_meets (meets_run hs h)

end

/-- A coroutine that has done nothing yet. -/
lemma ready_start : Ready {} :=
  ⟨rfl, rfl, rfl, rfl, by rintro w k ⟨⟩, by rintro k ⟨⟩, by rintro k ⟨⟩, by rintro k ⟨⟩⟩

/-- A timed lock whose push to the queue throws. -/
theorem atomic_iff_tryLock :
    let a : Answer := { fails := fun site => decide (site = .push) }
    ((Op.tryLock 5).run a {}).1 = .threw ∧ Atomic (.tryLock 5) a {} := by
  refine ⟨rfl, (atomic_iff ready_start).mpr ?_⟩
  rintro ⟨h, -⟩
  exact h

/-- A coroutine that waits for a descriptor, and the slot of the descriptor cannot be made. -/
theorem not_atomic_fdSlot : ¬∀ (op : Op) (a : Answer) (s : State), Ready s → Atomic op a s := by
  intro h
  have hthrew : ((Op.yieldUntilFdReadable 5 none).run
      { fails := fun site => decide (site = .fdSlot) } {}).1 = .threw := by
    rfl
  have hatomic := h (.yieldUntilFdReadable 5 none)
    { fails := fun site => decide (site = .fdSlot) } {} ready_start
  obtain ⟨hres, -⟩ := hatomic (by rw [hthrew]; rintro ⟨⟩)
  cases hres.awaitEvent

end BbtCoroutine.Establish
