import BbtCoroutine.WaitForWork.Work

/-!
# A sleeping worker misses no task

`NoneMissed` is about the workers that are blocked with their latch not set and nobody on the way to
it.  Nothing in it depends on how long a wait lasts.
-/

namespace BbtCoroutine.WaitForWork

open Transition GlobalPull

variable {T W : Type*} {s t : State T W}

/-! ## The statement -/

/-- The worker is blocked in the wait for its latch, which is not set. -/
def State.Blocked (s : State T W) (p : W) : Prop :=
  (s.worker p).stage = .waiting ∧ (s.worker p).runCondNotify = true

/-- What a worker that sleeps has not missed. -/
structure NoneMissed (s : State T W) : Prop where
  /-- Its own queue is empty, unless a publisher is on its way to the latch. -/
  own : ∀ p, s.Blocked p → ¬ s.Sends p → (s.worker p).coroutineQueue = 0
  /-- The global queues are empty if all active workers sleep, unless a publisher or a retiring
  worker is on its way. -/
  shared : (∀ p ∈ s.activeSnapshot, s.Blocked p ∧ ¬ s.OnTheWay p) → ∀ k, s.globalQueue k = 0
  /-- Its retirement has not been requested, unless who did so is on the way. -/
  retired : ∀ p, s.Blocked p → ¬ s.Sends p → (s.worker p).retireRequested = false
  /-- If the latch is set, then the wait has been notified or is about to be. -/
  signalled : ∀ p, (s.worker p).stage = .waiting → (s.worker p).runCondNotify = false →
    (s.worker p).notified = true ∨ s.Notifies p

/-! ## The runs -/

/-- The invariant is enough. -/
lemma Inv.noneMissed (h : Inv s) : NoneMissed s where
  own p hb hn := by
    by_contra hq
    refine hn ((h.fits p).own ?_ hb.2 hq)
    rw [hb.1]
    rfl
  shared hall k := by
    obtain ⟨p, hp⟩ := List.exists_mem_of_ne_nil _ h.nonempty
    obtain ⟨hb, hn⟩ := hall p hp
    by_contra hk
    have hseen : (s.worker p).seen k := by
      unfold Worker.seen
      rw [hb.1]
      trivial
    obtain hl | ho := (h.fits p).shared hp k hseen hk
    · rw [hb.2] at hl
      cases hl
    · exact hn ho
  retired p hb hn := by
    refine Bool.eq_false_of_not_eq_true fun hr => ?_
    have hw : (s.worker p).stage.waits = true := by
      rw [hb.1]
      rfl
    obtain hl | hs := (h.fits p).retired hw hr
    · rw [hb.2] at hl
      cases hl
    · exact hn hs
  signalled p := (h.fits p).signalled

variable [DecidableEq T] [DecidableEq W]

/-- An agent calls. -/
lemma Inv.call (h : Inv s) {a : Agent T W} {l : Label T W} (hi : s.frame a = .idle)
    (hc : s.calls a = true) (hs : WaitForWork.call s a l = some t) : Inv t := by
  unfold WaitForWork.call at hs
  split at hs
  · split at hs
    · rename_i hex
      obtain rfl := Option.some.inj hs
      exact h.expand hi hex.1 hex.2
    · cases hs
  · split at hs
    · rename_i hsh
      obtain rfl := Option.some.inj hs
      exact h.shrink hi hsh.1 hsh.2.2
    · cases hs
  · obtain rfl := Option.some.inj hs
    exact h.setFrame_of_idle hi trivial
  · obtain rfl := Option.some.inj hs
    exact h.setFrame_of_idle hi trivial
  · split at hs
    · obtain rfl := Option.some.inj hs
      exact h.setFrame_of_idle hi trivial
    · rename_i p
      split at hs
      · obtain rfl := Option.some.inj hs
        -- the worker runs the coroutine that publishes, so it does not sleep
        have hst : (s.worker p).stage = .resume := of_decide_eq_true hc
        have hw : (s.worker p).stage.works = true := by
          rw [hst]
          rfl
        refine h.awake (g := s.globalQueue) (Stage.ne_absent hw) ?_ rfl rfl (fun hx => .inl hx)
          fun _ => .inl
        show (s.worker p).stage.waits = false
        rw [hst]
        rfl
      · obtain rfl := Option.some.inj hs
        exact h.setFrame_of_idle hi trivial
  · cases hs

/-- An agent goes on with its call. -/
lemma Inv.goOn (h : Inv s) {a : Agent T W} {l : Label T W}
    (hs : WaitForWork.goOn s a l = some t) : Inv t := by
  unfold WaitForWork.goOn at hs
  split at hs
  · split at hs
    · rename_i hi
      obtain rfl := Option.some.inj hs
      exact h.beginRetire hi
    · cases hs
  · split at hs
    · rename_i hi
      obtain rfl := Option.some.inj hs
      exact h.requestRetire hi
    · cases hs
  · split at hs
    · rename_i hi
      obtain rfl := Option.some.inj hs
      exact h.commit hi
    · cases hs
  · split at hs
    · rename_i hi
      obtain rfl := Option.some.inj hs
      refine h.setFrame ?_ ?_ ?_ trivial
      all_goals rw [hi]
      · exact fun _ => id
      · exact fun _ _ _ he => by cases he
      · exact fun _ _ he => by cases he
    · rename_i p ps hi
      split at hs
      · obtain rfl := Option.some.inj hs
        exact h.beginEnqueue hi _
      · obtain rfl := Option.some.inj hs
        refine h.setFrame ?_ ?_ ?_ trivial
        all_goals rw [hi]
        · exact fun _ => id
        · exact fun _ _ _ he => by cases he
        · exact fun _ _ he => by cases he
    · cases hs
  · split at hs
    · rename_i hi
      obtain rfl := Option.some.inj hs
      exact h.enqueue hi _ _
    · cases hs
  · split at hs
    · rename_i hi
      obtain rfl := Option.some.inj hs
      exact h.enqueueGlobal hi
    · cases hs
  · split at hs
    · rename_i hi
      obtain rfl := Option.some.inj hs
      exact h.snapshot hi
    · cases hs
  · split at hs
    · rename_i hi
      obtain rfl := Option.some.inj hs
      refine h.setFrame ?_ ?_ ?_ trivial
      all_goals rw [hi]
      · exact fun _ hx => by cases hx
      · exact fun _ _ _ he => by cases he
      · exact fun _ _ he => by cases he
    · rename_i hi
      split at hs
      · cases hs
      · obtain rfl := Option.some.inj hs
        exact h.setLatch hi
    · cases hs
  · split at hs
    · rename_i hi
      obtain rfl := Option.some.inj hs
      exact h.notifyOne hi
    · cases hs
  · cases hs

/-- Every step keeps what holds of the workers and of those who publish. -/
lemma Inv.next (h : Inv s) {l : Label T W} (hs : WaitForWork.next s l = some t) : Inv t := by
  cases l with
  | expand a ps | shrink a ps | publish a p | regist a ps | onActive a k =>
    simp only [WaitForWork.next] at hs
    split at hs
    · rename_i hi
      split at hs
      · rename_i hc
        exact h.call hi hc hs
      · cases hs
    · cases hs
  | beginRetire a | requestRetire a | commit a | beginEnqueue a | enqueue a | enqueueGlobal a
  | snapshot a | setLatch a | notifyOne a =>
    simp only [WaitForWork.next] at hs
    exact h.goOn hs
  | pull p => exact h.pull hs
  | probe p => exact h.probe hs
  | admitPulled p => exact h.admitPulled hs
  | pullDone p => exact h.pullDone hs
  | pick p => exact h.pick hs
  | ready p => exact h.ready hs
  | parked p => exact h.parked hs
  | steal p victim k => exact h.steal hs
  | admitStolen p => exact h.admitStolen hs
  | waitForWork p leased => exact h.waitForWork hs
  | lock p => exact h.lock hs
  | recheckLocal p => exact h.recheckLocal hs
  | wait p => exact h.wait hs
  | wake p timeout => exact h.wake hs
  | driverReturns p => exact h.driverReturns hs
  | retire p => exact h.retire hs
  | drain p k => exact h.drain hs
  | drained p => exact h.drained hs
  | woken p => exact h.woken hs

/-- No worker misses a task in any run. -/
theorem noneMissed_of_reachable (h : (system T W).Reachable s) : NoneMissed s := by
  refine Inv.noneMissed (h.induct (I := Inv) ?_ fun s l t hI hs => hI.next hs)
  rintro s ⟨ps, hps, rfl⟩
  refine ⟨fun p => ?_, fun a => trivial, hps⟩
  have hp : ∀ q : W, (if q ∈ ps then Worker.activated else {}).stage.waits = false := by
    intro q
    split <;> rfl
  refine ⟨?_, ?_, ?_, ?_, ?_⟩
  · dsimp only
    intro h
    split at h <;> cases h
  · dsimp only
    intro h₁ h₂
    split at h₁
    · rename_i hin
      rw [if_pos hin] at h₂
      cases h₂
    · exact absurd rfl h₁
  · intro h
    rw [hp p] at h
    cases h
  · exact fun _ k _ hk => absurd rfl hk
  · dsimp only
    intro h
    split at h <;> cases h

/-- A run in which one worker goes to sleep after its recheck, a thread activates a coroutine and
takes the snapshot, and a coroutine is registered with the worker meanwhile. -/
def missesNothing : List (Label Bool Unit) :=
  [.waitForWork () false, .lock (), .probe (), .probe (), .probe (), .probe (), .pullDone (),
    .recheckLocal (), .onActive (.thread true) coPriorityNormal, .wait (),
    .enqueueGlobal (.thread true), .regist (.thread false) [()], .beginEnqueue (.thread false),
    .snapshot (.thread true), .enqueue (.thread false), .setLatch (.thread true)]

/-- The worker of such a run is woken. -/
theorem noneMissed_of_reachable_missesNothing : ∃ s, (system Bool Unit).Reachable s ∧
    ((s.worker ()).stage = .waiting ∧ (s.worker ()).coroutineQueue = 1 ∧
      s.globalQueue coPriorityNormal = 1) ∧ NoneMissed s := by
  have hend : (system Bool Unit).endsIn
      { worker := fun p => if p ∈ [()] then .activated else {}, activeSnapshot := [()] }
      missesNothing (fun s => (s.worker ()).stage = .waiting ∧
        (s.worker ()).coroutineQueue = 1 ∧ s.globalQueue coPriorityNormal = 1) = true := by decide
  have hstart : (system Bool Unit).start
      { worker := fun p => if p ∈ [()] then .activated else {}, activeSnapshot := [()] } :=
    ⟨[()], List.cons_ne_nil _ _, rfl⟩
  obtain ⟨s, hr, hs⟩ := System.exists_of_endsIn hstart hend
  exact ⟨s, hr, hs, noneMissed_of_reachable hr⟩

end BbtCoroutine.WaitForWork
