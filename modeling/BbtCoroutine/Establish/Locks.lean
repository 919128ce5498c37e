import BbtCoroutine.Establish.Waiters

/-!
# The waits for a lock or a condition

A wait for a lock queues an entry before it yields.  An attempt that fails leaves no entry behind
that could absorb a wake-up, and it does not keep the lock.
-/

namespace BbtCoroutine.Establish

open Effects Code

/-! ## Before and after an attempt -/

/-- The coroutine runs between two operations. -/
structure Ready (s : State) : Prop where
  running : s.runStatus = .running
  awaitEvent : s.awaitEvent = none
  onYield : s.onYield = false
  held : s.held = []
  /-- Only events that were made are in a slot or in a queue, and only waiters that were made. -/
  slot : ∀ w k, s.slot w = some (.own k) → k < s.events
  mutexQueue : ∀ k, some (.own k) ∈ s.mutexQueue → k < s.events
  readQueue : ∀ k, some (.own k) ∈ s.readQueue → k < s.waiters
  writeQueue : ∀ k, some (.own k) ∈ s.writeQueue → k < s.waiters

/-- The attempt that began in `s` has left no trace in `t`. -/
structure Restored (s t : State) : Prop where
  running : t.runStatus = .running
  awaitEvent : t.awaitEvent = none
  onYield : t.onYield = false
  held : t.held = []
  /-- No slot holds an event of the attempt. -/
  slot : ∀ w k, s.events ≤ k → t.slot w ≠ some (.own k)
  /-- An entry of the attempt absorbs no wake-up: its event is decided. -/
  mutexQueue : ∀ k, s.events ≤ k → some (.own k) ∈ t.mutexQueue →
    (t.round k).undecided = false
  /-- The same for waiters: a `Notify` finds the slot empty. -/
  readQueue : ∀ k, s.waiters ≤ k → some (.own k) ∈ t.readQueue → t.slot (.own k) = none
  writeQueue : ∀ k, s.waiters ≤ k → some (.own k) ∈ t.writeQueue → t.slot (.own k) = none

/-! ## The mutexes -/

section

variable {s t : State} {a : Answer} {q : List (Option Obj)} {e : Option Obj}

/-- A coroutine that is ready is idle. -/
lemma Ready.idle (hs : Ready s) : Idle s :=
  ⟨hs.running, hs.awaitEvent, hs.onYield, hs.slot⟩

/-- An attempt that is undone is restored. -/
lemma Undone.restored (h : Undone s t) (hs : Ready s) : Restored s t where
  running := h.runStatus.trans hs.running
  awaitEvent := h.awaitEvent
  onYield := h.onYield.trans hs.onYield
  held := h.held.trans hs.held
  slot := h.slot
  mutexQueue k hk hq := absurd (hs.mutexQueue k (h.mutexQueue ▸ hq)) (not_lt.mpr hk)
  readQueue k hk hq := absurd (hs.readQueue k (h.readQueue ▸ hq)) (not_lt.mpr hk)
  writeQueue k hk hq := absurd (hs.writeQueue k (h.writeQueue ▸ hq)) (not_lt.mpr hk)

/-- The queue of the mutex has grown by nothing that the attempt has made. -/
lemma restored_of_mutexQueue (hs : Ready s) (h : Awaits { s with mutexQueue := q } t none)
    (hq : ∀ k, s.events ≤ k → some (.own k) ∉ q) : Restored s t where
  running := h.runStatus.trans hs.running
  awaitEvent := h.awaitEvent
  onYield := h.onYield.trans hs.onYield
  held := h.held.trans hs.held
  slot w k hk hw := absurd (hs.slot w k ((congrFun h.slot w).symm.trans hw)) (not_lt.mpr hk)
  mutexQueue k hk hmem := by
    rw [h.mutexQueue] at hmem
    exact absurd hmem (hq k hk)
  readQueue k hk hmem := absurd (hs.readQueue k (h.readQueue ▸ hmem)) (not_lt.mpr hk)
  writeQueue k hk hmem := absurd (hs.writeQueue k (h.writeQueue ▸ hmem)) (not_lt.mpr hk)

/-- Dropping the last entry of a waiter that has just been pushed. -/
lemma dropLast_append (q : List (Option Obj)) (o : Obj) :
    dropLast (q ++ [some o]) o = q ++ [none] := by
  unfold dropLast
  rw [if_pos List.getLast?_concat, List.dropLast_concat]

/-- Dropping the entry of a waiter that is not in the queue. -/
lemma dropLast_of_not_mem {o : Obj} (h : some o ∉ q) : dropLast q o = q :=
  if_neg fun hl => h (List.mem_of_getLast? hl)

/-- The handler of a wait for the mutex restores the state. -/
lemma meets_mutexRollback (hs : Ready s) {k : Option ℕ}
    (h : Awaits { s.hold .mutex with mutexQueue := q } t e)
    (hq : ∀ j, s.events ≤ j → some (.own j) ∉ k.elim q fun k => dropLast q (.own k)) :
    Meets (mutexRollback k) t (fun _ t => Restored s t) (fun t => Restored s t)
      fun t => Restored s t := by
  refine Meets.call (F := fun _ => False) (G := fun _ => False) (meets_setAwaitEvent none) ?_
    (fun _ h => h.elim) fun _ h => h.elim
  rintro - u rfl
  refine Meets.bind (Meets.modify (Meets.modify ?_))
  refine restored_of_mutexQueue (q := k.elim q fun k => dropLast q (.own k)) hs ?_ hq
  have hqueue : t.mutexQueue = q := h.mutexQueue
  refine ⟨⟨h.runStatus, h.onYield, ?_, h.events, h.waiters, ?_, h.readQueue, h.writeQueue⟩,
    h.slot, rfl⟩
  · have hheld : t.held = Lock.mutex :: s.held := h.held
    change t.held.erase .mutex = s.held
    rw [hheld]
    exact List.erase_cons_head _ _
  · rw [← hqueue]
    rfl

/-- A wait for the mutex fails without a trace, and returns with the lock held. -/
lemma meets_waitUnLock (hs : Ready s) (timeout : Option ℤ) :
    Meets (waitUnLock a timeout) (s.hold .mutex) (fun _ t => Awaits (s.hold .mutex) t none)
      (fun t => Restored s t) fun _ => True := by
  have hold : ∀ j, s.events ≤ j → some (.own j) ∉ s.mutexQueue := by
    intro j hj hmem
    exact absurd (hs.mutexQueue j hmem) (not_lt.mpr hj)
  refine Meets.bind (Meets.onThrow ?_)
  refine (meets_registCustom (s := s.hold .mutex) (P := fun _ => True) hs.awaitEvent timeout).mono
    ?_ (fun t hT => meets_mutexRollback (k := none) hs hT.1 hold) fun _ h => h
  rintro e t ⟨hT, hnew, -⟩
  cases e with
  | none => exact Meets.pure hT
  | some k =>
    obtain ⟨hk, -⟩ := hnew k rfl
    -- the event has not been queued yet
    have hbefore : ∀ j, s.events ≤ j → some (.own j) ∉ dropLast s.mutexQueue (.own k) := by
      intro j hj
      rw [dropLast_of_not_mem (hold k hk)]
      exact hold j hj
    -- the event has been queued
    have hafter : ∀ j, s.events ≤ j →
        some (.own j) ∉ dropLast (s.mutexQueue ++ [some (.own k)]) (.own k) := by
      intro j hj hmem
      rw [dropLast_append] at hmem
      rcases List.mem_append.mp hmem with hmem | hmem
      · exact hold j hj hmem
      · cases List.mem_singleton.mp hmem
    refine Meets.onThrow (Meets.ite (fun _ => ?_) fun _ => ?_)
    · refine Meets.call (F := fun _ => False) (G := fun _ => False) (meets_setAwaitEvent none) ?_
        (fun _ h => h.elim) fun _ h => h.elim
      rintro - u rfl
      exact Meets.pure ⟨⟨hT.runStatus, hT.onYield, hT.held, hT.events, hT.waiters, hT.mutexQueue,
        hT.readQueue, hT.writeQueue⟩, hT.slot, rfl⟩
    · refine Meets.call meets_allocate ?_ ?_ fun _ h => h
      · rintro - u ⟨rfl, -⟩
        refine Meets.bind (Meets.modify ?_)
        have hpushed : Awaits { s.hold .mutex with mutexQueue := s.mutexQueue ++ [some (.own k)] }
            { t with mutexQueue := t.mutexQueue ++ [some (.own k)] } (some (.own k)) :=
          ⟨⟨hT.runStatus, hT.onYield, hT.held, hT.events, hT.waiters,
            congrArg (· ++ [some (.own k)]) hT.mutexQueue, hT.readQueue, hT.writeQueue⟩,
            hT.slot, hT.awaitEvent⟩
        refine Meets.call meets_allocate ?_ ?_ fun _ h => h
        · rintro - u ⟨rfl, -⟩
          refine (meets_yieldWithCallback (hpushed.runStatus.trans hs.running)
            (hpushed.onYield.trans hs.onYield)).mono (fun _ _ h => h.elim) ?_ fun _ h => h
          intro u hU
          exact meets_mutexRollback (k := some k) hs (hpushed.trans hU) hafter
        · rintro u ⟨rfl, -⟩
          exact meets_mutexRollback (k := some k) hs hpushed hafter
      · rintro u ⟨rfl, -⟩
        exact meets_mutexRollback (k := some k) hs hT hbefore

/-- The lock is given back after a wait that was refused. -/
lemma restored_release (hs : Ready s) (h : Awaits (s.hold .mutex) t none) :
    Restored s (t.release .mutex) :=
  (h.guarded.undone hs.idle).restored hs

/-- `Lock` restores what it has changed, if it does not get the lock. -/
lemma meets_lock (hs : Ready s) :
    Meets (lock a) s (fun _ t => Restored s t) (fun t => Restored s t) fun _ => True := by
  refine Meets.bind (Meets.modify (Meets.ite (fun _ => ?_) fun _ => ?_))
  · refine Meets.call (meets_waitUnLock hs none) ?_ (fun _ h => h) fun _ h => h
    rintro - t -
    exact Meets.bind (Meets.modify (Meets.park trivial))
  · refine Meets.bind (Meets.modify (Meets.pure ?_))
    rw [release_hold]
    exact (hs.idle.awaits.undone hs.idle).restored hs

/-- `TryLock` restores what it has changed, if it does not get the lock. -/
lemma meets_tryLock (hs : Ready s) (ms : ℤ) :
    Meets (tryLock a ms) s (fun _ t => Restored s t) (fun t => Restored s t) fun _ => True := by
  refine Meets.bind (Meets.modify (Meets.ite (fun _ => ?_) fun _ => ?_))
  · refine Meets.call (meets_waitUnLock hs (some ms)) ?_ (fun _ h => h) fun _ h => h
    rintro ret t hT
    exact Meets.bind (Meets.modify (Meets.pure (restored_release hs hT)))
  · refine Meets.bind (Meets.modify (Meets.pure ?_))
    rw [release_hold]
    exact (hs.idle.awaits.undone hs.idle).restored hs

/-- A new waiter is made. -/
def State.makeWaiter (s : State) : State :=
  { s.setSlot (.own s.waiters) none with waiters := s.waiters + 1 }

/-- A waiter is made, or its allocation throws. -/
lemma meets_createWaiter {P : State → Prop} :
    Meets (createWaiter a) s (fun w t => w = .own s.waiters ∧ s.makeWaiter = t)
      (fun t => s = t) P := by
  refine Meets.call meets_allocate ?_ (fun _ h => h.1) fun _ h => h
  rintro - t ⟨rfl, -⟩
  exact Meets.bind (Meets.gets (Meets.bind (Meets.modify (Meets.pure ⟨rfl, rfl⟩))))

/-- A waiter is made, whose slot is empty. -/
lemma Idle.makeWaiter (hs : Idle s) : Idle s.makeWaiter := by
  refine ⟨hs.running, hs.awaitEvent, hs.onYield, fun w k hw => ?_⟩
  by_cases hww : w = .own s.waiters
  · rw [hww] at hw
    cases (setSlot_self (s := s) none).symm.trans hw
  · exact hs.slot w k ((setSlot_of_ne hww).symm.trans hw)

/-- The waiter is queued. -/
def State.queueWaiter (s : State) (reader : Bool) : State :=
  s.makeWaiter.onQueue reader (· ++ [some (.own s.waiters)])

/-- An attempt with a waiter of its own is restored, if no entry of it absorbs a wake-up. -/
lemma restored_of_queueWaiter {reader : Bool} (hs : Ready s) {u : State}
    (h : Undone ((s.hold .mutex).queueWaiter reader) u)
    (ht : t.slot = u.slot ∧ t.mutexQueue = u.mutexQueue ∧ t.runStatus = u.runStatus ∧
      t.awaitEvent = u.awaitEvent ∧ t.onYield = u.onYield ∧ t.held = u.held)
    (hr : ∀ k, s.waiters ≤ k → some (.own k) ∈ t.readQueue → t.slot (.own k) = none)
    (hw : ∀ k, s.waiters ≤ k → some (.own k) ∈ t.writeQueue → t.slot (.own k) = none) :
    Restored s (t.release .mutex) := by
  obtain ⟨hslot, hqueue, hrun, hawait, hyield, hheld⟩ := ht
  refine ⟨hrun.trans (h.runStatus.trans hs.running), hawait.trans h.awaitEvent,
    hyield.trans (h.onYield.trans hs.onYield), ?_, fun w k hk => ?_, fun k hk hmem => ?_, hr, hw⟩
  · have hu : t.held = Lock.mutex :: s.held := hheld.trans h.held
    change t.held.erase .mutex = []
    rw [hu, hs.held]
    rfl
  · change t.slot w ≠ _
    rw [hslot]
    exact h.slot w k hk
  · have hq : t.mutexQueue = s.mutexQueue := hqueue.trans h.mutexQueue
    change some (.own k) ∈ t.mutexQueue at hmem
    rw [hq] at hmem
    exact absurd (hs.mutexQueue k hmem) (not_lt.mpr hk)

/-- Only the new waiter is an entry of the attempt. -/
lemma eq_of_mem_queue {q : List (Option Obj)} {n k : ℕ} (hq : ∀ j, some (.own j) ∈ q → j < n)
    (hk : n ≤ k) {b : Bool} (hmem : some (.own k) ∈ if b then q ++ [some (.own n)] else q) :
    k = n := by
  have hnot : some (Obj.own k) ∉ q := fun h => absurd (hq k h) (not_lt.mpr hk)
  cases b with
  | false => exact absurd hmem hnot
  | true =>
    rcases List.mem_append.mp hmem with hmem | hmem
    · exact absurd hmem hnot
    · cases List.mem_singleton.mp hmem
      rfl

/-- After the handler no entry of the attempt is left. -/
lemma not_mem_dropLast {q : List (Option Obj)} {n k : ℕ} (hq : ∀ j, some (.own j) ∈ q → j < n)
    (hk : n ≤ k) {b : Bool} {l : List (Option Obj)}
    (hl : l = if b then q ++ [some (.own n)] else q) :
    some (.own k) ∉ if b then dropLast l (.own n) else l := by
  have hnot : some (Obj.own k) ∉ q := fun h => absurd (hq k h) (not_lt.mpr hk)
  subst hl
  cases b with
  | false => exact hnot
  | true =>
    rw [if_pos rfl, if_pos rfl, dropLast_append]
    intro hmem
    rcases List.mem_append.mp hmem with hmem | hmem
    · exact hnot hmem
    · cases List.mem_singleton.mp hmem

/-- A wait for the lock fails without a trace, and ends with the lock held. -/
lemma meets_waitRWLock {reader : Bool} (hs : Ready s) (timeout : Option ℤ) :
    Meets (waitRWLock a reader timeout) (s.hold .mutex)
      (fun _ t => Restored s (t.release .mutex)) (fun t => Restored s (t.release .mutex))
      fun _ => True := by
  have hnone : Restored s ((s.hold .mutex).release .mutex) := by
    rw [release_hold]
    exact (hs.idle.awaits.undone hs.idle).restored hs
  have hidle : Idle (s.hold .mutex) := ⟨hs.running, hs.awaitEvent, hs.onYield, hs.slot⟩
  have hmade : Restored s ((s.hold .mutex).makeWaiter.release .mutex) := by
    have hU : Undone (s.hold .mutex).makeWaiter (s.hold .mutex).makeWaiter :=
      hidle.makeWaiter.awaits.undone hidle.makeWaiter
    refine ⟨hs.running, hs.awaitEvent, hs.onYield, ?_, hU.slot, fun k hk hmem => ?_,
      fun k hk hmem => ?_, fun k hk hmem => ?_⟩
    · change (Lock.mutex :: s.held).erase .mutex = []
      rw [hs.held]
      rfl
    · exact absurd (hs.mutexQueue k hmem) (not_lt.mpr hk)
    · exact absurd (hs.readQueue k hmem) (not_lt.mpr hk)
    · exact absurd (hs.writeQueue k hmem) (not_lt.mpr hk)
  refine Meets.ite (fun _ => Meets.pure hnone) fun _ => ?_
  refine Meets.call meets_createWaiter ?_ ?_ fun _ h => h
  swap
  · rintro t rfl
    exact hnone
  rintro w t ⟨rfl, rfl⟩
  refine Meets.call meets_allocate ?_ ?_ fun _ h => h
  swap
  · rintro t ⟨rfl, -⟩
    exact hmade
  rintro - t ⟨rfl, -⟩
  refine Meets.bind (Meets.modify (Meets.onThrow ?_))
  have hqueued : Idle ((s.hold .mutex).queueWaiter reader) :=
    ⟨hs.running, hs.awaitEvent, hs.onYield, hidle.makeWaiter.slot⟩
  have hempty : ((s.hold .mutex).queueWaiter reader).slot (.own s.waiters) = none :=
    setSlot_self (s := s.hold .mutex) none
  refine (meets_waitIn (s := (s.hold .mutex).queueWaiter reader) hqueued).mono ?_ ?_ fun _ h => h
  · rintro ret u ⟨hU, hslot⟩
    refine restored_of_queueWaiter hs hU ⟨rfl, rfl, rfl, rfl, rfl, rfl⟩ (fun k hk hmem => ?_)
      fun k hk hmem => ?_
    · rw [hU.readQueue] at hmem
      rw [eq_of_mem_queue hs.readQueue hk hmem, hslot, hempty]
    · rw [hU.writeQueue] at hmem
      have hmem' : some (.own k) ∈ if !reader then s.writeQueue ++ [some (.own s.waiters)]
          else s.writeQueue := by
        cases reader <;> exact hmem
      rw [eq_of_mem_queue hs.writeQueue hk hmem', hslot, hempty]
  · intro u hU
    refine Meets.modify (restored_of_queueWaiter (t := u.onQueue reader (dropLast · _)) hs hU
      ⟨rfl, rfl, rfl, rfl, rfl, rfl⟩ (fun k hk hmem => ?_) fun k hk hmem => ?_)
    · exact absurd hmem (not_mem_dropLast hs.readQueue hk hU.readQueue)
    · have hl : u.writeQueue = if !reader then s.writeQueue ++ [some (.own s.waiters)]
          else s.writeQueue := by
        rw [hU.writeQueue]
        cases reader <;> rfl
      have hnot := not_mem_dropLast hs.writeQueue hk hl
      cases reader with
      | true => exact absurd hmem hnot
      | false => exact absurd hmem hnot

/-- A lock of `CoRWMutex` restores what it has changed, if it does not get the lock. -/
lemma meets_rwLock {reader : Bool} (hs : Ready s) (timeout : Option ℤ) :
    Meets (rwLock a reader timeout) s (fun _ t => Restored s t) (fun t => Restored s t)
      fun _ => True := by
  have hnone : Restored s ((s.hold .mutex).release .mutex) := by
    rw [release_hold]
    exact (hs.idle.awaits.undone hs.idle).restored hs
  refine Meets.bind (Meets.modify (Meets.ite (fun _ => ?_) fun _ => ?_))
  · refine Meets.bind (Meets.onThrow (Meets.call meets_allocate ?_ ?_ fun _ h => h))
    · rintro - t ⟨rfl, -⟩
      refine (meets_waitRWLock hs timeout).mono ?_ (fun t hT => Meets.modify hT) fun _ h => h
      intro ret t hT
      exact Meets.bind (Meets.modify (Meets.pure hT))
    · rintro t ⟨rfl, -⟩
      exact Meets.modify hnone
  · exact Meets.bind (Meets.modify (Meets.pure hnone))

/-- A wait of `CoCond` restores what it has changed. -/
lemma meets_condWaitIn (hs : Ready s) (timeout : Option ℤ) :
    Meets (condWaitIn a timeout) s (fun _ t => Restored s t) (fun t => Restored s t)
      fun _ => True := by
  have hidle := hs.idle.makeWaiter
  have hrestored : ∀ t, Undone s.makeWaiter t → Restored s t := by
    intro t h
    refine ⟨h.runStatus.trans hs.running, h.awaitEvent, h.onYield.trans hs.onYield,
      h.held.trans hs.held, h.slot, fun k hk hmem => ?_, fun k hk hmem => ?_, fun k hk hmem => ?_⟩
    · rw [h.mutexQueue] at hmem
      exact absurd (hs.mutexQueue k hmem) (not_lt.mpr hk)
    · rw [h.readQueue] at hmem
      exact absurd (hs.readQueue k hmem) (not_lt.mpr hk)
    · rw [h.writeQueue] at hmem
      exact absurd (hs.writeQueue k hmem) (not_lt.mpr hk)
  refine Meets.call meets_createWaiter ?_ ?_ fun _ h => h
  · rintro w t ⟨rfl, rfl⟩
    refine Meets.call meets_allocate ?_ ?_ fun _ h => h
    · rintro - t ⟨rfl, -⟩
      exact (meets_waitIn hidle).mono (fun _ t h => hrestored t h.1) hrestored fun _ h => h
    · rintro t ⟨rfl, -⟩
      exact hrestored _ (hidle.awaits.undone hidle)
  · rintro t rfl
    exact (hs.idle.awaits.undone hs.idle).restored hs

end

end BbtCoroutine.Establish
