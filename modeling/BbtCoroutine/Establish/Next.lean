import BbtCoroutine.Establish.Locks

/-!
# The next wait

A coroutine without an awaited event can establish every wait, if nothing fails.
-/

namespace BbtCoroutine.Establish

open Effects Code
open CoWaiter (Status)

/-- An operation that has to wait and is called with proper arguments. -/
def Op.Waits (s : State) : Op → Prop
  | yieldUntilTimeout ms | tryLock ms | tryRLock ms | tryWLock ms | condWaitFor ms => 0 ≤ ms
  | yieldUntilFdReadable _ ms | yieldUntilFdWriteable _ ms => 0 ≤ ms.getD 0
  | yieldUntilFdEx _ ms => 0 ≤ ms
  | wait w | waitWithCallback w | waitOptions w => s.slot (.other w) = none
  | waitWithTimeout w ms | waitWithTimeoutAndCallback w ms =>
    s.slot (.other w) = none ∧ 0 ≤ ms
  | waitCombined w fd _ => s.slot (.other w) = none ∧ 0 ≤ fd
  | lock | rLock | wLock | condWait => True

/-- Where nothing fails the coroutine can establish its next wait. -/
def CanWait (s : State) : Prop :=
  ∀ op : Op, op.Waits s → (op.run {} s).1 = .parked

section

variable {s : State} {k : ℕ} {w : Obj}

/-- The code parks. -/
def Parks {α : Type} (p : Code State α) (s : State) : Prop :=
  Meets p s (fun _ _ => False) (fun _ => False) fun _ => True

/-- Code that parks ends in the park. -/
lemma Parks.eq {α : Type} {p : Code State α} (h : Parks p s) : (p s).1 = .parked := by
  rcases hp : p s with ⟨o, t⟩
  have h' := (meets_iff hp).mp h
  cases o with
  | ok a => exact h'.elim
  | threw => exact h'.elim
  | parked => rfl

/-- The code returns, with `Q`. -/
def Returns {α : Type} (p : Code State α) (s : State) (Q : α → State → Prop) : Prop :=
  Meets p s Q (fun _ => False) fun _ => False

/-- Code that returns goes on with the code that follows. -/
lemma Returns.andThen {α β : Type} {p : Code State α} {f : α → Code State β} {Q : α → State → Prop}
    {R : β → State → Prop} {E P : State → Prop} (h : Returns p s Q)
    (hf : ∀ x t, Q x t → Meets (f x) t R E P) : Meets (p >>= f) s R E P :=
  Meets.call h hf (fun _ h => h.elim) fun _ h => h.elim

/-- Without a failure an allocation changes nothing. -/
lemma returns_allocate {site : Site} : Returns (allocate {} site) s fun _ t => s = t :=
  Meets.ite (fun h => absurd h Bool.false_ne_true) fun _ => Meets.pure rfl

/-- Without a failure an allocation that may be made changes nothing. -/
lemma returns_allocateIf {heap : Bool} {site : Site} :
    Returns (allocateIf heap {} site) s fun _ t => s = t :=
  Meets.ite (fun _ => returns_allocate) fun _ => Meets.pure rfl

/-- The await event is set. -/
lemma returns_setAwaitEvent (e : Option Obj) :
    Returns (setAwaitEvent e) s fun _ t => t = { s with awaitEvent := e } :=
  meets_setAwaitEvent e

/-- Without a failure the event is made. -/
lemma returns_create : Returns (create {}) s fun k t => k = s.events ∧ t = s.makeEvent := by
  refine returns_allocate.andThen ?_
  rintro - t rfl
  exact Meets.bind (Meets.gets (Meets.bind (Meets.modify (Meets.pure ⟨rfl, rfl⟩))))

/-- `InitFdEvent` succeeds on a fresh event. -/
lemma returns_initFdEvent {fd timeout : ℤ} (hr : s.round k = .inited) (ht : 0 ≤ timeout) :
    Returns (initFdEvent {} k fd timeout) s fun ret t => ret = 0 ∧ s = t := by
  refine Meets.bind (Meets.pure (Meets.bind (Meets.gets (Meets.ite (fun h => ?_) fun _ => ?_))))
  · rcases h with h | h
    · exact absurd hr h
    · exact absurd ht (not_le.mpr h)
  · have hrest : ∀ t, s = t → Returns (do
        triggerIf false k pollEventClosed
        pure (if false then 0 else createEvent {} 4)) t fun ret t => ret = 0 ∧ s = t := by
      rintro t rfl
      exact Meets.bind (Meets.pure (Meets.pure ⟨rfl, rfl⟩))
    refine Meets.bind (Meets.ite (fun _ => ?_) fun _ => Meets.pure (hrest s rfl))
    refine meets_guarded (returns_allocate.andThen ?_)
    rintro - t rfl
    exact Meets.pure (hrest _ (release_hold s _).symm)

/-- The initialisation has succeeded. -/
lemma returns_afterInit {ret : ℤ} (h : ret = 0) :
    Returns (afterInit k ret) s fun e t => e = some k ∧ s = t :=
  Meets.ite (fun hne => absurd h hne) fun _ => Meets.pure ⟨rfl, rfl⟩

/-- `RegistCustom` succeeds, and its event is not triggered. -/
lemma returns_registCustom {timeout : Option ℤ} (hs : s.awaitEvent = none)
    (ht : 0 ≤ timeout.getD 0) :
    Returns (registCustom {} timeout) s fun e t => ∃ k, e = some k ∧ t.round k = .inited := by
  refine Meets.call (F := fun _ => False) (G := fun _ => False) meets_getAwaitEvent ?_
    (fun _ h => h) fun _ h => h
  rintro e t ⟨rfl, rfl⟩
  refine Meets.ite (fun h => absurd hs h) fun _ => returns_create.andThen ?_
  rintro k t ⟨rfl, rfl⟩
  refine (returns_setAwaitEvent _).andThen ?_
  rintro - t rfl
  refine Meets.bind (Meets.bind (Meets.pure (Meets.bind (Meets.gets (Meets.pure ?_)))))
  have hr : s.makeEvent.round s.events = .inited := Function.update_self ..
  refine (returns_afterInit (if_neg (not_not.mpr hr))).andThen ?_
  rintro e t ⟨rfl, rfl⟩
  cases timeout with
  | none => exact Meets.pure ⟨s.events, rfl, hr⟩
  | some ms =>
    refine (returns_initFdEvent
      (s := { s.makeEvent with awaitEvent := some (.own s.events) }) hr ht).andThen ?_
    rintro ret t ⟨h0, rfl⟩
    refine (returns_afterInit h0).mono ?_ (fun _ h => h) fun _ h => h
    rintro e t ⟨rfl, rfl⟩
    exact ⟨s.events, rfl, hr⟩

/-- Without a failure `YieldWithCallback` parks. -/
lemma parks_yieldWithCallback {α : Type} {heap : Bool} :
    Parks (yieldWithCallback {} heap : Code State α) s := by
  refine Meets.bind (Meets.modify (Meets.onThrow (Meets.bind (Meets.onThrow ?_))))
  refine returns_allocateIf.andThen ?_
  rintro - t rfl
  exact Meets.modify (Meets.park trivial)

/-- Without a failure the end of a wait parks. -/
lemma parks_suspendIn {α : Type} {heap : Bool} :
    Parks (suspendIn {} w k heap : Code State α) s := by
  refine Meets.bind (Meets.pure (Meets.onThrow (returns_allocateIf.andThen ?_)))
  rintro - t rfl
  exact parks_yieldWithCallback.mono (fun _ _ h => h) (fun _ h => h.elim) fun _ h => h

/-- Without a failure a wait of `CoWaiter` parks. -/
lemma parks_waitIn {timeout : Option ℤ} {heap : Bool} (hs : s.awaitEvent = none)
    (hw : s.slot w = none) (ht : 0 ≤ timeout.getD 0) : Parks (waitIn {} w timeout heap) s := by
  refine Meets.bind (meets_guarded (Meets.bind (Meets.gets (Meets.ite (fun h => absurd hw h)
    fun _ => ?_))))
  refine (returns_registCustom (s := s.hold .notify) hs ht).andThen ?_
  rintro e t ⟨k, rfl, -⟩
  exact Meets.bind (Meets.modify (Meets.pure parks_suspendIn))

/-- The checks of the forms that return a status are passed. -/
lemma returns_statusEntry {regist : Code State (Status ⊕ ℕ)} (hw : s.slot w = none)
    (h : Returns regist ((s.hold .notify).setSlot w none) fun e _ => ∃ k, e = .inr k) :
    Returns (statusEntry {} w regist) s fun e _ => ∃ k, e = .inr k := by
  refine meets_guarded (Meets.bind (Meets.gets ?_))
  refine Meets.ite (fun h => absurd h Bool.false_ne_true) fun _ => ?_
  refine Meets.ite (fun h => absurd h Bool.false_ne_true) fun _ => ?_
  refine Meets.ite (fun h => absurd hw h.1) fun _ => Meets.bind (Meets.modify (h.andThen ?_))
  rintro e t ⟨k, rfl⟩
  exact Meets.bind (Meets.modify (Meets.pure ⟨k, rfl⟩))

/-- Without a failure `WaitOptions` parks. -/
lemma parks_waitOptions (hs : s.awaitEvent = none) (hw : s.slot w = none) :
    Parks (waitOptions {} w) s := by
  refine (returns_statusEntry hw ?_).andThen ?_
  · refine (returns_registCustom (s := (s.hold .notify).setSlot w none) hs ?_).andThen ?_
    · decide
    · rintro e t ⟨k, rfl, -⟩
      exact Meets.pure ⟨k, rfl⟩
  · rintro e t ⟨k, rfl⟩
    exact parks_suspendIn

/-- Without a failure a combined wait parks. -/
lemma parks_waitCombined {fd : ℤ} {wantFd : Bool} (hs : s.awaitEvent = none)
    (hw : s.slot w = none) (hfd : 0 ≤ fd) : Parks (waitCombined {} w fd wantFd) s := by
  refine Meets.ite (fun h => absurd hfd (not_le.mpr h.2)) fun _ => ?_
  refine (returns_statusEntry hw ?_).andThen ?_
  · refine Meets.ite (fun h => absurd h (by decide)) fun _ => ?_
    refine (returns_registCustom (s := (s.hold .notify).setSlot w none) hs le_rfl).andThen ?_
    rintro e t ⟨k, rfl, hr⟩
    refine Meets.ite (fun h => absurd h.2 (by decide)) fun _ => ?_
    refine (returns_initFdEvent hr (by decide)).andThen ?_
    rintro ret u ⟨h0, rfl⟩
    refine (returns_afterInit h0).andThen ?_
    rintro e u ⟨rfl, rfl⟩
    exact Meets.pure ⟨k, rfl⟩
  · rintro e t ⟨k, rfl⟩
    exact parks_suspendIn

/-- Without a failure `YieldUntil` parks. -/
lemma parks_yieldUntil {fd timeout : ℤ} (ht : 0 ≤ timeout) :
    Parks (yieldUntil {} fd timeout) s := by
  refine Meets.ite (fun h => absurd h Bool.false_ne_true) fun _ => returns_create.andThen ?_
  rintro k t ⟨rfl, rfl⟩
  refine (returns_setAwaitEvent _).andThen ?_
  rintro - t rfl
  refine (returns_initFdEvent (Function.update_self ..) ht).andThen ?_
  rintro ret t ⟨h0, rfl⟩
  refine (returns_afterInit h0).andThen ?_
  rintro e t ⟨rfl, rfl⟩
  exact Meets.ite (fun h => absurd h (Option.some_ne_none _)) fun _ => parks_yieldWithCallback

/-- Without a failure the wait of `CoMutex` parks. -/
lemma parks_waitUnLock {timeout : Option ℤ} (hs : s.awaitEvent = none)
    (ht : 0 ≤ timeout.getD 0) : Parks (waitUnLock {} timeout) s := by
  refine Meets.bind (Meets.onThrow ((returns_registCustom hs ht).mono ?_ (fun _ h => h.elim)
    fun _ h => h.elim))
  rintro e t ⟨k, rfl, -⟩
  refine Meets.onThrow (Meets.ite (fun h => absurd ht (not_le.mpr h)) fun _ => ?_)
  refine returns_allocate.andThen ?_
  rintro - t rfl
  refine Meets.bind (Meets.modify (returns_allocate.andThen ?_))
  rintro - t rfl
  exact parks_yieldWithCallback.mono (fun _ _ h => h.elim) (fun _ h => h.elim) fun _ h => h

/-- Without a failure `Lock` of a taken mutex parks. -/
lemma parks_lock (hs : s.awaitEvent = none) : Parks (lock {}) s := by
  have hwait : Parks (waitUnLock {} none) (s.hold .mutex) := parks_waitUnLock hs le_rfl
  refine Meets.bind (Meets.modify (Meets.ite (fun _ => Meets.bind ?_) fun h => absurd rfl h))
  exact hwait.mono (fun _ _ h => h.elim) (fun _ h => h) fun _ h => h

/-- Without a failure `TryLock` of a taken mutex parks. -/
lemma parks_tryLock {ms : ℤ} (hs : s.awaitEvent = none) (ht : 0 ≤ ms) :
    Parks (tryLock {} ms) s := by
  have hwait : Parks (waitUnLock {} (some ms)) (s.hold .mutex) := parks_waitUnLock hs ht
  refine Meets.bind (Meets.modify (Meets.ite (fun _ => Meets.bind ?_) fun h => absurd rfl h))
  exact hwait.mono (fun _ _ h => h.elim) (fun _ h => h) fun _ h => h

/-- Without a failure the waiter is made. -/
lemma returns_createWaiter :
    Returns (createWaiter {}) s fun w t => w = .own s.waiters ∧ s.makeWaiter = t := by
  refine returns_allocate.andThen ?_
  rintro - t rfl
  exact Meets.bind (Meets.gets (Meets.bind (Meets.modify (Meets.pure ⟨rfl, rfl⟩))))

/-- Without a failure a wait of `CoRWMutex` parks. -/
lemma parks_rwLock {reader : Bool} {timeout : Option ℤ} (hs : s.awaitEvent = none)
    (ht : 0 ≤ timeout.getD 0) : Parks (rwLock {} reader timeout) s := by
  refine Meets.bind (Meets.modify (Meets.ite (fun _ => Meets.bind (Meets.onThrow ?_))
    fun h => absurd rfl h))
  refine returns_allocate.andThen ?_
  rintro - t rfl
  refine Meets.ite (fun h => absurd ht (not_le.mpr h)) fun _ => returns_createWaiter.andThen ?_
  rintro w t ⟨rfl, rfl⟩
  refine returns_allocate.andThen ?_
  rintro - t rfl
  have hslot : ((s.hold .mutex).queueWaiter reader).slot (.own s.waiters) = none :=
    setSlot_self (s := s.hold .mutex) none
  have hwait : Parks (waitIn {} (.own s.waiters) timeout true)
      ((s.hold .mutex).queueWaiter reader) := parks_waitIn hs hslot ht
  refine Meets.bind (Meets.modify (Meets.onThrow ?_))
  exact hwait.mono (fun _ _ h => h.elim) (fun _ h => h.elim) fun _ h => h

/-- Without a failure a wait of `CoCond` parks. -/
lemma parks_condWaitIn {timeout : Option ℤ} (hs : s.awaitEvent = none)
    (ht : 0 ≤ timeout.getD 0) : Parks (condWaitIn {} timeout) s := by
  refine returns_createWaiter.andThen ?_
  rintro w t ⟨rfl, rfl⟩
  refine returns_allocate.andThen ?_
  rintro - t rfl
  exact parks_waitIn hs (setSlot_self none) ht

/-- A coroutine without an awaited event can establish its next wait. -/
lemma canWait_of_awaitEvent (hs : s.awaitEvent = none) : CanWait s := by
  intro op hop
  refine Parks.eq ?_
  cases op with
  | yieldUntilTimeout ms => exact Meets.map (parks_yieldUntil hop)
  | yieldUntilFdReadable fd ms => exact Meets.map (parks_yieldUntil hop)
  | yieldUntilFdWriteable fd ms => exact Meets.map (parks_yieldUntil hop)
  | yieldUntilFdEx fd ms => exact Meets.map (parks_yieldUntil hop)
  | wait w => exact Meets.map (parks_waitIn hs hop le_rfl)
  | waitWithCallback w => exact Meets.map (parks_waitIn hs hop le_rfl)
  | waitWithTimeout w ms => exact Meets.map (parks_waitIn hs hop.1 hop.2)
  | waitWithTimeoutAndCallback w ms => exact Meets.map (parks_waitIn hs hop.1 hop.2)
  | waitOptions w => exact Meets.map (parks_waitOptions hs hop)
  | waitCombined w fd wantFd => exact Meets.map (parks_waitCombined hs hop.1 hop.2)
  | lock => exact Meets.map (parks_lock hs)
  | tryLock ms => exact Meets.map (parks_tryLock hs hop)
  | rLock => exact Meets.map (parks_rwLock hs le_rfl)
  | wLock => exact Meets.map (parks_rwLock hs le_rfl)
  | tryRLock ms => exact Meets.map (parks_rwLock hs hop)
  | tryWLock ms => exact Meets.map (parks_rwLock hs hop)
  | condWait => exact Meets.map (parks_condWaitIn hs le_rfl)
  | condWaitFor ms => exact Meets.map (parks_condWaitIn hs hop)

end

end BbtCoroutine.Establish
