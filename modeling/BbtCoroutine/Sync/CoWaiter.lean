import BbtCoroutine.CoPollEvent.Round

/-!
# Waiting coroutines

A coroutine waits in one place at a time, so a model needs one `Wait` record for each
coroutine: the round of the event it awaits, the status of the `CoWaiter` made for this
wait, its cancel flag and the mask it was last resumed with.  The queues of the
synchronisation primitives hold waiters made for earlier waits as well; a waiter is
named by its coroutine and the number of the wait it was made for.

The operations are those of `CoWaiter::WaitWithCallback`, `WaitWithTimeoutAndCallback`
and `Notify` and of the functions of `Coroutine` below them, one for each point where
other parties can act in between.
-/

namespace BbtCoroutine

/-- `CoCondStatus`. -/
inductive CoCondStatus
  | condDefault
  | condFree
  | condWait
  | condActive
  deriving DecidableEq, Repr

/-- What a coroutine waits for. -/
structure Wait where
  /-- How many waits the coroutine has begun; the number of the current one. -/
  n : ℕ := 0
  /-- The event of the current wait. -/
  round : Round := .cancelled
  /-- The waiter of the current wait holds its event in `m_co_event`. -/
  bound : Bool := false
  /-- The `m_run_status` of the waiter of the current wait. -/
  runStatus : CoCondStatus := .condDefault
  /-- The event has a timer. -/
  timed : Bool := false
  /-- `m_cancel_requested`. -/
  cancelRequested : Bool := false
  /-- `m_last_resume_event`. -/
  lastResumeEvent : EventMask := 0
  deriving DecidableEq

namespace Wait

/-- `RegistCustom` in a waiter made for this wait: the event is made and bound. -/
def registCustom (w : Wait) (timed : Bool) : Wait :=
  { w with n := w.n + 1, round := .inited, bound := true, runStatus := .condWait, timed := timed }

/-- The wait ends before the coroutine has yielded: no event is left to wait for. -/
def abandon (w : Wait) : Wait :=
  { w with n := w.n + 1, round := .cancelled, bound := false, runStatus := .condFree }

/-- `_RegistAwaitEvent`: a requested cancel triggers the event first; `fails` says that the
registration itself fails. -/
def registAwaitEvent (w : Wait) (fails : Bool) : Wait :=
  let r := if w.cancelRequested then w.round.trigger pollEventCancelled else w.round
  { w with round := if fails then r.unRegist else r.regist }

/-- `CommitPark` on the awaited event. -/
def commitPark (w : Wait) : Wait :=
  { w with round := w.round.commitPark }

/-- `OnCoPollEvent` stores the mask of the trigger that won. -/
def resume (w : Wait) (m : EventMask) : Wait :=
  { w with lastResumeEvent := m }

/-- The waiter lets go of its event after the wait. -/
def unbind (w : Wait) : Wait :=
  { w with bound := false, runStatus := .condFree }

/-- The waiter made for the wait `n` can still be notified with effect. -/
def live (w : Wait) (n : ℕ) : Bool :=
  w.n == n && w.bound && w.runStatus == .condWait && w.round.undecided

/-- `CoWaiter::Notify` on the waiter made for the wait `n`; it returns `0` exactly when the
waiter is live. -/
def notify (w : Wait) (n : ℕ) : Wait :=
  if w.n = n ∧ w.bound ∧ w.runStatus = .condWait then
    { w with runStatus := .condActive, round := w.round.trigger pollEventCustom }
  else w

/-- The timer of the awaited event fires. -/
def timeout (w : Wait) : Wait :=
  { w with round := w.round.trigger pollEventTimeout }

/-- `RequestCancel` stores its flag. -/
def requestCancel (w : Wait) : Wait :=
  { w with cancelRequested := true }

/-- `RequestCancel` triggers the awaited event. -/
def cancelTrigger (w : Wait) : Wait :=
  { w with round := w.round.trigger pollEventCancelled }

/-- The timer of the awaited event may fire: it is armed with the registration. -/
def timerArmed (w : Wait) : Bool :=
  w.timed && (w.round == .armed || w.round == .parked)

/-- The result of a timed wait from its wake-up mask: a timeout and a cancel count alike. -/
def timedRet (w : Wait) : ℤ :=
  if w.lastResumeEvent &&& (pollEventTimeout ||| pollEventCancelled) ≠ 0 then 1 else 0

/-- When a wait can still be notified. -/
lemma live_eq_true_iff {w : Wait} {n : ℕ} : w.live n = true ↔
    w.n = n ∧ w.bound = true ∧ w.runStatus = .condWait ∧ w.round.undecided = true := by
  simp [live, and_assoc]

@[simp] lemma live_unbind (w : Wait) (n : ℕ) : w.unbind.live n = false := by
  simp [live, unbind]

@[simp] lemma live_abandon (w : Wait) (n : ℕ) : w.abandon.live n = false := by
  simp [live, abandon]

@[simp] lemma round_commitPark (w : Wait) : w.commitPark.round = w.round.commitPark := rfl

@[simp] lemma live_commitPark (w : Wait) (n : ℕ) : w.commitPark.live n = w.live n := by
  simp [live, commitPark]

@[simp] lemma live_timeout (w : Wait) (n : ℕ) : w.timeout.live n = false := by
  simp [live, timeout]

@[simp] lemma live_cancelTrigger (w : Wait) (n : ℕ) : w.cancelTrigger.live n = false := by
  simp [live, cancelTrigger]

@[simp] lemma notify_n (w : Wait) (n : ℕ) : (w.notify n).n = w.n := by
  unfold notify
  split <;> rfl

@[simp] lemma notify_bound (w : Wait) (n : ℕ) : (w.notify n).bound = w.bound := by
  unfold notify
  split <;> rfl

@[simp] lemma notify_cancelRequested (w : Wait) (n : ℕ) :
    (w.notify n).cancelRequested = w.cancelRequested := by
  unfold notify
  split <;> rfl

@[simp] lemma notify_lastResumeEvent (w : Wait) (n : ℕ) :
    (w.notify n).lastResumeEvent = w.lastResumeEvent := by
  unfold notify
  split <;> rfl

/-- After `Notify` the waiter it was called on is not live. -/
@[simp] lemma live_notify_self (w : Wait) (n : ℕ) : (w.notify n).live n = false := by
  unfold notify
  split
  · simp [live]
  · rename_i h
    rw [Bool.eq_false_iff, ne_eq, live_eq_true_iff]
    exact fun h' => h ⟨h'.1, h'.2.1, h'.2.2.1⟩

/-- `Notify` on one waiter leaves the others as they are. -/
lemma notify_of_ne {w : Wait} {n : ℕ} (h : w.n ≠ n) : w.notify n = w := by
  unfold notify
  rw [if_neg fun h' => h h'.1]

/-- `Notify` never makes a waiter live. -/
lemma live_of_notify {w : Wait} {n k : ℕ} (h : (w.notify n).live k = true) :
    w.live k = true ∧ w.notify n = w := by
  by_cases hk : w.n = n
  · rw [live_eq_true_iff, notify_n, hk] at h
    subst hk
    obtain ⟨rfl, h⟩ := h
    have := live_notify_self w w.n
    rw [Bool.eq_false_iff, ne_eq, live_eq_true_iff, notify_n] at this
    exact absurd ⟨rfl, h⟩ this
  · rw [notify_of_ne hk] at h
    exact ⟨h, notify_of_ne hk⟩

/-- `Notify` on a live waiter wins its round with `POLL_EVENT_CUSTOM`. -/
lemma notify_of_live {w : Wait} {n : ℕ} (h : w.live n = true) :
    w.notify n =
      { w with runStatus := .condActive, round := w.round.trigger pollEventCustom } := by
  rw [live_eq_true_iff] at h
  unfold notify
  rw [if_pos ⟨h.1, h.2.1, h.2.2.1⟩]

/-- The round after `Notify`: won by it if the waiter was live, else unchanged. -/
lemma round_notify (w : Wait) (n : ℕ) :
    (w.notify n).round =
      if w.live n then w.round.trigger pollEventCustom else w.round := by
  split
  · rename_i h
    rw [notify_of_live h]
  · rename_i h
    unfold notify
    split
    · rename_i h'
      refine Round.trigger_of_not_undecided ?_
      rw [live_eq_true_iff] at h
      grind
    · rfl

/-- A dead waiter is notified without effect on any other. -/
lemma live_notify_of_dead {w : Wait} {n : ℕ} (h : w.live n = false) (k : ℕ) :
    (w.notify n).live k = w.live k := by
  by_cases hn : w.n = n
  · by_cases hk : w.n = k
    · rw [← hk, hn, live_notify_self, h]
    · rw [live, live, notify_n, beq_false_of_ne hk]
      rfl
  · rw [notify_of_ne hn]

/-- A notification is not mistaken for a timeout. -/
lemma timedRet_resume_custom (w : Wait) : (w.resume pollEventCustom).timedRet = 0 := by
  unfold timedRet
  rw [if_neg]
  simp only [resume]
  decide

/-! ### Several notifications -/

/-- The record `w'` is what any number of calls of `Notify` make of `w`. -/
structure Notified (w w' : Wait) : Prop where
  n : w'.n = w.n
  bound : w'.bound = w.bound
  cancelRequested : w'.cancelRequested = w.cancelRequested
  lastResumeEvent : w'.lastResumeEvent = w.lastResumeEvent
  round : w'.round = w.round ∨
    w.round.undecided = true ∧ w'.round = w.round.trigger pollEventCustom
  same : w'.round.undecided = true → w' = w

/-- A notification may do nothing. -/
lemma Notified.refl (w : Wait) : Notified w w :=
  ⟨rfl, rfl, rfl, rfl, .inl rfl, fun _ => rfl⟩

/-- Two notifications are one. -/
lemma Notified.trans {w w' w'' : Wait} (h : Notified w w') (h' : Notified w' w'') :
    Notified w w'' where
  n := h'.n.trans h.n
  bound := h'.bound.trans h.bound
  cancelRequested := h'.cancelRequested.trans h.cancelRequested
  lastResumeEvent := h'.lastResumeEvent.trans h.lastResumeEvent
  round := by
    rcases h'.round with hr | ⟨hu, hr⟩
    · rw [hr]
      exact h.round
    · have he := h.same hu
      rw [he] at hu hr
      exact .inr ⟨hu, hr⟩
  same hu := by
    have h₁ := h'.same hu
    rw [h₁] at hu
    rw [h₁, h.same hu]

/-- `Notify` changes a wait by notifying only. -/
lemma notified_notify (w : Wait) (n : ℕ) : Notified w (w.notify n) where
  n := notify_n w n
  bound := notify_bound w n
  cancelRequested := notify_cancelRequested w n
  lastResumeEvent := notify_lastResumeEvent w n
  round := by
    rw [round_notify]
    split
    · rename_i h
      exact .inr ⟨(live_eq_true_iff.mp h).2.2.2, rfl⟩
    · exact .inl rfl
  same hu := by
    unfold notify at hu ⊢
    split
    · rename_i h
      simp [h] at hu
    · rfl

/-- A waiter that is still live was not notified. -/
lemma Notified.eq_of_live {w w' : Wait} (h : Notified w w') {n : ℕ} (hl : w'.live n = true) :
    w' = w :=
  h.same (live_eq_true_iff.mp hl).2.2.2

/-! ### One wait, later -/

/-- The record `w'` is `w` at a later point of the same wait: a decided round stays as it was
decided, and the waiter of an undecided one is as live as before. -/
structure Later (w w' : Wait) : Prop where
  n : w'.n = w.n
  bound : w'.bound = w.bound
  undecided : w'.round.undecided = true →
    w.round.undecided = true ∧ w'.runStatus = w.runStatus
  decided : w.round.undecided = false →
    w'.round.undecided = false ∧ w'.round.won = w.round.won

/-- A wait record may stay as it is. -/
lemma Later.refl (w : Wait) : Later w w :=
  ⟨rfl, rfl, fun h => ⟨h, rfl⟩, fun h => ⟨h, rfl⟩⟩

/-- Moving on is transitive. -/
lemma Later.trans {w w' w'' : Wait} (h : Later w w') (h' : Later w' w'') : Later w w'' where
  n := h'.n.trans h.n
  bound := h'.bound.trans h.bound
  undecided hu := by
    obtain ⟨hu', hr'⟩ := h'.undecided hu
    obtain ⟨hu, hr⟩ := h.undecided hu'
    exact ⟨hu, hr'.trans hr⟩
  decided hd := by
    obtain ⟨hd', hw⟩ := h.decided hd
    obtain ⟨hd'', hw'⟩ := h'.decided hd'
    exact ⟨hd'', hw'.trans hw⟩

/-- A wait that is undecided later can be notified as before. -/
lemma Later.live {w w' : Wait} (h : Later w w') (hu : w'.round.undecided = true) (n : ℕ) :
    w'.live n = w.live n := by
  obtain ⟨hu', hr⟩ := h.undecided hu
  rw [Wait.live, Wait.live, h.n, h.bound, hr, hu, hu']

/-- A notification moves a wait record on. -/
lemma Notified.later {w w' : Wait} (h : Notified w w') : Later w w' where
  n := h.n
  bound := h.bound
  undecided hu := by rw [← h.same hu]; exact ⟨hu, rfl⟩
  decided hd := by
    rcases h.round with hr | ⟨hu, -⟩
    · rw [hr]
      exact ⟨hd, rfl⟩
    · rw [hu] at hd
      cases hd

/-- A trigger of the round. -/
lemma later_trigger (w : Wait) (m : EventMask) : Later w { w with round := w.round.trigger m } where
  n := rfl
  bound := rfl
  undecided hu := by simp at hu
  decided hd := by simp [Round.trigger_of_not_undecided hd, hd]

/-- A request to cancel moves a wait record on. -/
lemma later_requestCancel (w : Wait) : Later w w.requestCancel :=
  ⟨rfl, rfl, fun h => ⟨h, rfl⟩, fun h => ⟨h, rfl⟩⟩

/-- A resumption moves a wait record on. -/
lemma later_resume (w : Wait) (m : EventMask) : Later w (w.resume m) :=
  ⟨rfl, rfl, fun h => ⟨h, rfl⟩, fun h => ⟨h, rfl⟩⟩

/-- `CommitPark` moves a wait record on. -/
lemma later_commitPark (w : Wait) : Later w w.commitPark :=
  ⟨rfl, rfl, fun h => ⟨by simpa [commitPark] using h, rfl⟩,
    fun h => ⟨by simpa [commitPark] using h, by simp [commitPark]⟩⟩

/-- A registration that succeeds moves a wait record on. -/
lemma later_registAwaitEvent (w : Wait) : Later w (w.registAwaitEvent false) where
  n := rfl
  bound := rfl
  undecided hu := by
    refine ⟨?_, rfl⟩
    cases hr : w.round <;> cases hc : w.cancelRequested <;>
      simp_all [registAwaitEvent, Round.trigger, Round.regist, Round.undecided]
  decided hd := by
    cases hr : w.round <;> cases hc : w.cancelRequested <;>
      simp_all [registAwaitEvent, Round.trigger, Round.regist, Round.undecided, Round.won]

end Wait

end BbtCoroutine
