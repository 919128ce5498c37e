import BbtCoroutine.CoRWMutex.Steps

/-!
# `CoRWMutex` excludes and counts correctly

A state has two parts that the contract of the lock is about: its `Control`, who holds
`m_mutex` and which point each operation has reached, and its `Core`, the members that
say who is in the lock together with the record of who really is.  The queues and the
wait records are in neither, so notifying changes neither.

Each part has its invariant, `Linked` ties the two together, and every step of a
coroutine keeps all three, whatever fails in the step.  `exclusive_of_reachable` reads
the contract of the lock off them.
-/

namespace BbtCoroutine.CoRWMutex

open Transition

variable {Co : Type*} [DecidableEq Co]

/-! ## Control -/

/-- The points at which an operation holds `m_mutex`. -/
def Pc.holds : Pc → Bool
  | .body _ _ | .wait _ _ | .regist _ _ | .callback _ _ | .settle _ _ | .sysUnLock _ _ _ => true
  | _ => false

/-- The points at which a writer has entered a wait and not yet withdrawn. -/
def Pc.counted : Pc → Bool
  | .commit op | .parked op | .unbind op _ | .relock op _ | .settle op _ => op.writer
  | _ => false

/-- An unlock is under way and has not yet released the lock. -/
def Pc.unlocking (op : Op) : Pc → Prop
  | .sysLock op' | .body op' _ => op' = op ∧ (op = .rUnLock ∨ op = .wUnLock)
  | _ => False

/-- Who enters holds `m_mutex`. -/
lemma Entering.holds {op : Op} {b : Bool} {p : Pc} (h : Entering op b p) : p.holds = true := by
  cases h <;> rfl

/-- A reader that enters is not counted. -/
lemma Entering.counted {op : Op} {b : Bool} {p : Pc} (h : Entering op b p)
    (ho : op.writer = false) : p.counted = false := by
  cases h
  · rfl
  · exact ho

/-- Who holds the internal mutex, what each coroutine did to it, and where it is. -/
structure Control (Co : Type*) where
  mutex : Option Co
  pc : Co → Pc
  sysLocks : Co → ℕ
  sysUnLocks : Co → ℕ

/-- The control part of a state. -/
def State.control (s : State Co) : Control Co :=
  ⟨s.mutex, s.pc, s.sysLocks, s.sysUnLocks⟩

namespace Control

/-- The coroutine `c` goes on at `p`. -/
def goto (x : Control Co) (c : Co) (p : Pc) : Control Co :=
  { x with pc := Function.update x.pc c p }

/-- The coroutine `c` locks the mutex and goes on at `p`. -/
def lock (x : Control Co) (c : Co) (p : Pc) : Control Co :=
  { x with
    mutex := some c
    pc := Function.update x.pc c p
    sysLocks := Function.update x.sysLocks c (x.sysLocks c + 1) }

/-- The coroutine `c` unlocks the mutex and goes on at `p`. -/
def unlock (x : Control Co) (c : Co) (p : Pc) : Control Co :=
  { x with
    mutex := none
    pc := Function.update x.pc c p
    sysUnLocks := Function.update x.sysUnLocks c (x.sysUnLocks c + 1) }

/-- The mutex is held by the one operation that is in a critical section, and every other
coroutine has unlocked it as often as it locked it. -/
structure Inv (x : Control Co) : Prop where
  ok : ∀ k, (x.pc k).Ok
  mutex : ∀ k, x.mutex = some k ↔ (x.pc k).holds = true
  sys : ∀ k, x.sysLocks k = x.sysUnLocks k + if x.mutex = some k then 1 else 0

variable {x : Control Co} {c : Co} {p : Pc}

/-- The points stay in order if the new one is. -/
lemma ok_update (h : x.Inv) (hok : p.Ok) (k : Co) : (Function.update x.pc c p k).Ok := by
  by_cases hk : k = c
  · rwa [hk, Function.update_self]
  · rw [Function.update_of_ne hk]
    exact h.ok k

/-- The coroutine goes on without locking or unlocking. -/
lemma Inv.goto (h : x.Inv) (hok : p.Ok) (hp : p.holds = (x.pc c).holds) : (x.goto c p).Inv where
  ok := ok_update h hok
  mutex k := by
    by_cases hk : k = c
    · subst hk
      simpa [Control.goto, hp] using h.mutex k
    · simpa [Control.goto, hk] using h.mutex k
  sys := h.sys

/-- The coroutine locks the free mutex. -/
lemma Inv.lock (h : x.Inv) (hm : x.mutex = none) (hok : p.Ok) (hp : p.holds = true) :
    (x.lock c p).Inv where
  ok := ok_update h hok
  mutex k := by
    by_cases hk : k = c
    · subst hk
      simp [Control.lock, hp]
    · have := h.mutex k
      simp_all [Control.lock, Ne.symm hk]
  sys k := by
    have := h.sys k
    by_cases hk : k = c
    · subst hk
      simp_all [Control.lock]
    · simp_all [Control.lock, Ne.symm hk]

/-- The holder unlocks the mutex. -/
lemma Inv.unlock (h : x.Inv) (hc : (x.pc c).holds = true) (hok : p.Ok) (hp : p.holds = false) :
    (x.unlock c p).Inv where
  ok := ok_update h hok
  mutex k := by
    have hm := (h.mutex c).mpr hc
    by_cases hk : k = c
    · subst hk
      simp [Control.unlock, hp]
    · have := h.mutex k
      rw [hm] at this
      simp_all [Control.unlock, Ne.symm hk]
  sys k := by
    have hm := (h.mutex c).mpr hc
    have := h.sys k
    by_cases hk : k = c
    · subst hk
      simp_all [Control.unlock]
    · rw [hm] at this
      simp_all [Control.unlock, Ne.symm hk]

end Control

/-! ## Core -/

/-- The members that say who is in the lock, with the record of who is. -/
structure Core (Co : Type*) where
  status : Status
  rlockHoldNum : ℤ
  hasWaitWlock : Bool
  waitWlockNum : ℤ
  readers : List Co
  writers : List Co
  waitingWriters : List Co

/-- The core of a state. -/
def State.core (s : State Co) : Core Co :=
  ⟨s.status, s.rlockHoldNum, s.hasWaitWlock, s.waitWlockNum, s.readers, s.writers,
    s.waitingWriters⟩

namespace Core

/-- The members agree with the record. -/
structure Inv (x : Core Co) : Prop where
  free : x.status = .free → x.readers = [] ∧ x.writers = []
  rlocked : x.status = .rlocked → x.readers ≠ [] ∧ x.writers = []
  wlocked : x.status = .wlocked → x.readers = [] ∧ x.writers.length = 1
  hold : x.rlockHoldNum = x.readers.length
  num : x.waitWlockNum = x.waitingWriters.length
  flag : x.hasWaitWlock = decide (0 < x.waitWlockNum)

end Core

section Projections

omit [DecidableEq Co]

variable (s : State Co) (c : Co)

@[simp] lemma push_core (op : Op) (slot : Option (Co × ℕ)) : (s.push op slot).core = s.core := by
  unfold State.push
  split <;> rfl

@[simp] lemma acquireWrite_core : (s.acquireWrite c).core =
    { s.core with status := .wlocked, writers := s.writers ++ [c] } := rfl

@[simp] lemma push_control (op : Op) (slot : Option (Co × ℕ)) :
    (s.push op slot).control = s.control := by
  unfold State.push
  split <;> rfl

@[simp] lemma acquireWrite_control : (s.acquireWrite c).control = s.control := rfl

variable [DecidableEq Co]

@[simp] lemma withdraw_core : (s.withdraw c).core =
    { s.core with
      waitWlockNum := s.waitWlockNum - 1
      hasWaitWlock := decide (0 < s.waitWlockNum - 1)
      waitingWriters := s.waitingWriters.erase c } := rfl

@[simp] lemma goto_pc_self (p : Pc) : (s.goto c p).pc c = p := Function.update_self ..

/-- The other coroutines stay where they are. -/
lemma goto_pc_of_ne {k : Co} (h : k ≠ c) {p : Pc} : (s.goto c p).pc k = s.pc k :=
  Function.update_of_ne h ..

@[simp] lemma goto_core (p : Pc) : (s.goto c p).core = s.core := rfl
@[simp] lemma setWait_core (w : Wait) : (s.setWait c w).core = s.core := rfl
@[simp] lemma sysLock_core : (s.sysLock c).core = s.core := rfl
@[simp] lemma sysUnLock_core : (s.sysUnLock c).core = s.core := rfl
@[simp] lemma notifyAllReaders_core : s.notifyAllReaders.core = s.core := rfl

@[simp] lemma notifyOne_core : s.notifyOne.core = s.core := by
  unfold State.notifyOne
  dsimp only
  split <;> rfl

@[simp] lemma acquireRead_core : (s.acquireRead c).core =
    { s.core with
      status := .rlocked
      rlockHoldNum := s.rlockHoldNum + 1
      readers := s.readers ++ [c] } := by
  unfold State.acquireRead
  dsimp only
  split <;> rfl

@[simp] lemma rUnLock_core : (s.rUnLock c).core =
    { s.core with
      status := if s.rlockHoldNum - 1 = 0 then .free else .rlocked
      rlockHoldNum := s.rlockHoldNum - 1
      readers := s.readers.erase c } := by
  by_cases h : s.rlockHoldNum - 1 = 0 <;> simp [State.rUnLock, h] <;> rfl

@[simp] lemma wUnLock_core : (s.wUnLock c).core =
    { s.core with status := .free, writers := s.writers.erase c } := by
  unfold State.wUnLock
  dsimp only
  split
  · rw [notifyOne_core]
    rfl
  · split <;> rfl

@[simp] lemma goto_control (p : Pc) : (s.goto c p).control = s.control.goto c p := rfl
@[simp] lemma setWait_control (w : Wait) : (s.setWait c w).control = s.control := rfl
@[simp] lemma notifyAllReaders_control : s.notifyAllReaders.control = s.control := rfl
@[simp] lemma withdraw_control : (s.withdraw c).control = s.control := rfl

@[simp] lemma notifyOne_control : s.notifyOne.control = s.control := by
  unfold State.notifyOne
  dsimp only
  split <;> rfl

@[simp] lemma acquireRead_control : (s.acquireRead c).control = s.control := by
  unfold State.acquireRead
  dsimp only
  split <;> rfl

@[simp] lemma rUnLock_control : (s.rUnLock c).control = s.control := by
  by_cases h : s.rlockHoldNum - 1 = 0 <;> simp [State.rUnLock, h] <;> rfl

@[simp] lemma wUnLock_control : (s.wUnLock c).control = s.control := by
  unfold State.wUnLock
  dsimp only
  split
  · rw [notifyOne_control]
    rfl
  · split <;> rfl

end Projections

/-! ## One step -/

/-- The acquisitions that are about to return 0 are in the records. -/
structure Acquired (s : State Co) : Prop where
  reads : ∀ c op b, s.pc c = .sysUnLock op b (.ret 0) → op.reads = true → c ∈ s.readers
  writes : ∀ c op b, s.pc c = .sysUnLock op b (.ret 0) → op.writes = true → c ∈ s.writers

/-- The invariant of the lock: both parts have theirs, the record of waiting writers is the set of
operations at a counted point, whoever unlocks holds the lock, and so does whoever has locked it. -/
structure Inv (s : State Co) : Prop where
  control : s.control.Inv
  core : s.core.Inv
  nodup : s.waitingWriters.Nodup
  counted : ∀ k, k ∈ s.waitingWriters ↔ (s.pc k).counted = true
  holder : ∀ k op, (s.pc k).unlocking op → s.mayCall k op
  acquired : Acquired s

/-- A coroutine that reads keeps the lock under readers. -/
lemma Inv.rlocked_of_mem {s : State Co} {c : Co} (h : Inv s)
    (hm : c ∈ s.readers) : s.status = .rlocked := by
  have hm : c ∈ s.core.readers := hm
  cases hs : s.status with
  | rlocked => rfl
  | free => simp [(h.core.free hs).1] at hm
  | wlocked => simp [(h.core.wlocked hs).1] at hm

section

variable {s s' : State Co} {c : Co} {f : Fault}

/-- A step keeps the points in order. -/
lemma Step.control (h : Step c f s s') (hI : s.control.Inv) : s'.control.Inv := by
  have hok : (s.pc c).Ok := hI.ok c
  cases h with
  | enter hp hm => exact hI.lock hm (fun h => by cases h) rfl
  | relock hp hm => exact hI.lock hm (by rwa [hp] at hok) rfl
  | leave hp =>
    have hc : (s.control.pc c).holds = true := by simp [State.control, hp, Pc.holds]
    exact hI.unlock hc trivial rfl
  | callback hp =>
    have hc : (s.control.pc c).holds = true := by simp [State.control, hp, Pc.holds]
    rw [hp] at hok
    have := hI.unlock hc (p := .commit _) hok rfl
    unfold State.callback
    split <;> exact this
  | unbind hp =>
    rw [hp] at hok
    rw [State.unbind, goto_control, setWait_control]
    refine hI.goto ?_ ?_
    · split
      · trivial
      · rename_i hne
        exact ⟨hok, fun hr => by simpa [hr] using hne⟩
    · have hc : s.control.pc c = _ := hp
      rw [hc]
      split <;> rfl
  | acquireRead hp ho hb =>
    rw [goto_control, acquireRead_control]
    exact hI.goto trivial hp.holds.symm
  | park hp ho hb =>
    have hc : s.control.pc c = _ := hp
    exact hI.goto ho (by rw [hc]; rfl)
  | acquireWrite hp ho hf hb =>
    have hc : s.control.pc c = _ := hp
    exact hI.goto (x := s.control) trivial (by rw [hc]; rfl)
  | rUnLock hp =>
    have hc : s.control.pc c = _ := hp
    rw [goto_control, rUnLock_control]
    exact hI.goto trivial (by rw [hc]; rfl)
  | wUnLock hp =>
    have hc : s.control.pc c = _ := hp
    rw [goto_control, wUnLock_control]
    exact hI.goto trivial (by rw [hc]; rfl)
  | prepareAbandons hp hr hs =>
    have hc : s.control.pc c = _ := hp
    rw [goto_control, setWait_control, push_control]
    exact hI.goto trivial (by rw [hc]; rfl)
  | prepare hp =>
    have hc : s.control.pc c = _ := hp
    rw [hp] at hok
    rw [goto_control, setWait_control, push_control]
    exact hI.goto hok (by rw [hc]; rfl)
  | again hp ho =>
    have hc : s.control.pc c = _ := hp
    rw [hp] at hok
    exact hI.goto (fun _ => hok.1) (by rw [hc]; rfl)
  | withdrawAgain hp =>
    have hc : s.control.pc c = _ := hp
    exact hI.goto (x := s.control) (fun _ => rfl) (by rw [hc]; rfl)
  | regist hp | commit hp | resume hp hr =>
    have hc : s.control.pc c = _ := hp
    rw [hp] at hok
    exact hI.goto (x := s.control) hok (by rw [hc]; rfl)
  | refuse hp ho | prepareFails hp hr | registFails hp | readerGivesUp hp ho hr hb
  | writerGivesUp hp ho hr hb | withdrawAcquire hp ho hf =>
    have hc : s.control.pc c = _ := hp
    exact hI.goto (x := s.control) trivial (by rw [hc]; rfl)

/-- A reader leaves: it was in the lock, so the lock was held by readers. -/
lemma Core.Inv.rUnLock {x : Core Co} (h : x.Inv) (hm : c ∈ x.readers) :
    Inv { x with
      status := if x.rlockHoldNum - 1 = 0 then .free else .rlocked
      rlockHoldNum := x.rlockHoldNum - 1
      readers := x.readers.erase c } := by
  have hw : x.writers = [] := by
    cases hs : x.status with
    | free => exact (h.free hs).2
    | rlocked => exact (h.rlocked hs).2
    | wlocked => simp [(h.wlocked hs).1] at hm
  have hlen := List.length_erase_of_mem hm
  have hpos := List.length_pos_of_mem hm
  have hhold := h.hold
  refine ⟨fun hs => ⟨?_, hw⟩, fun hs => ⟨fun he => ?_, hw⟩, fun hs => ?_, ?_, h.num, h.flag⟩
  · refine List.length_eq_zero_iff.mp ?_
    by_cases h0 : x.rlockHoldNum - 1 = 0
    · simp only
      omega
    · simp [h0] at hs
  · replace he : x.readers.erase c = [] := he
    rw [he, List.length_nil] at hlen
    rw [if_pos (by omega)] at hs
    cases hs
  · simp only at hs
    split at hs <;> cases hs
  · simp only
    omega

/-- The writer leaves: it was alone in the lock. -/
lemma Core.Inv.wUnLock {x : Core Co} (h : x.Inv) (hm : c ∈ x.writers) :
    Inv { x with status := .free, writers := x.writers.erase c } := by
  have hr : x.readers = [] ∧ x.writers.length = 1 := by
    cases hs : x.status with
    | free => simp [(h.free hs).2] at hm
    | rlocked => simp [(h.rlocked hs).2] at hm
    | wlocked => exact h.wlocked hs
  have hlen := List.length_erase_of_mem hm
  refine ⟨fun _ => ⟨hr.1, List.length_eq_zero_iff.mp ?_⟩, by simp, by simp, h.hold, h.num, h.flag⟩
  simp only
  omega

/-- A waiting writer withdraws. -/
lemma Core.Inv.withdraw {x : Core Co} (h : x.Inv) (hm : c ∈ x.waitingWriters) :
    Inv { x with
      waitWlockNum := x.waitWlockNum - 1
      hasWaitWlock := decide (0 < x.waitWlockNum - 1)
      waitingWriters := x.waitingWriters.erase c } := by
  have hlen := List.length_erase_of_mem hm
  have hpos := List.length_pos_of_mem hm
  have hnum := h.num
  refine ⟨h.free, h.rlocked, h.wlocked, h.hold, ?_, rfl⟩
  simp only
  omega

omit [DecidableEq Co] in
/-- A reader enters. -/
lemma Core.Inv.acquireRead {x : Core Co} (h : x.Inv) (hs : x.status ≠ .wlocked) :
    Inv { x with
      status := .rlocked
      rlockHoldNum := x.rlockHoldNum + 1
      readers := x.readers ++ [c] } := by
  have hw : x.writers = [] := by
    cases hs' : x.status with
    | free => exact (h.free hs').2
    | rlocked => exact (h.rlocked hs').2
    | wlocked => exact absurd hs' hs
  refine ⟨by simp, fun _ => ⟨by simp, hw⟩, by simp, ?_, h.num, h.flag⟩
  simp [h.hold]

omit [DecidableEq Co] in
/-- A writer enters the free lock. -/
lemma Core.Inv.acquireWrite {x : Core Co} (h : x.Inv) (hs : x.status = .free) :
    Inv { x with status := .wlocked, writers := x.writers ++ [c] } := by
  obtain ⟨hr, hw⟩ := h.free hs
  exact ⟨by simp, by simp, fun _ => ⟨hr, by simp [hw]⟩, h.hold, h.num, h.flag⟩

/-- A step keeps the lock in order. -/
lemma Step.core (h : Step c f s s') (hI : Inv s) : s'.core.Inv := by
  have hcore := hI.core
  have hwaiting : (s.pc c).counted = true → c ∈ s.core.waitingWriters := (hI.counted c).mpr
  cases h with
  | acquireRead hp ho hb =>
    rw [goto_core, acquireRead_core]
    exact hcore.acquireRead fun hs => hb (.inl hs)
  | acquireWrite hp ho hf hb =>
    rename_i flag
    have hflag : flag = s.core.hasWaitWlock := by
      rcases hb with rfl | rfl
      · rfl
      · exact hcore.flag.symm
    subst hflag
    exact hcore.acquireWrite hf
  | rUnLock hp =>
    rw [goto_core, rUnLock_core]
    exact hcore.rUnLock (hI.holder c .rUnLock (by simp [hp, Pc.unlocking]))
  | wUnLock hp =>
    rw [goto_core, wUnLock_core]
    exact hcore.wUnLock (hI.holder c .wUnLock (by simp [hp, Pc.unlocking]))
  | callback hp =>
    unfold State.callback
    split
    · have hnum := hcore.num
      refine ⟨hcore.free, hcore.rlocked, hcore.wlocked, hcore.hold, ?_, ?_⟩
      · simp only [State.core] at hnum
        simp [State.core, State.goto, State.sysUnLock, hnum]
      · simp only [State.core] at hnum
        simp only [State.core, State.goto, State.sysUnLock]
        exact (decide_eq_true (by omega)).symm
    · exact hcore
  | withdrawAgain hp =>
    exact hcore.withdraw (hwaiting (by rw [hp]; rfl))
  | writerGivesUp hp ho hr hb =>
    exact hcore.withdraw (hwaiting (by rw [hp]; exact ho))
  | withdrawAcquire hp ho hf =>
    exact (hcore.withdraw (hwaiting (by rw [hp]; exact ho))).acquireWrite hf
  | prepareAbandons hp hr hs => simpa using hcore
  | prepare hp => simpa using hcore
  | _ => exact hcore

/-- A step of one coroutine leaves the others where they are. -/
lemma Step.pc_of_ne (h : Step c f s s') {k : Co} (hk : k ≠ c) : s'.pc k = s.pc k := by
  suffices hc : s'.control.pc k = s.control.pc k from hc
  cases h with
  | callback hp =>
    unfold State.callback
    split <;> exact Function.update_of_ne hk ..
  | acquireRead => simp [Control.goto, hk]
  | rUnLock => simp [Control.goto, hk]
  | wUnLock => simp [Control.goto, hk]
  | prepareAbandons => simp [Control.goto, hk]
  | prepare => simp [Control.goto, hk]
  | _ => exact Function.update_of_ne hk ..

/-- The record of who has entered the lock with the operations `takes`, after a step that leads the
coroutine `c` to the given point: a call of one of them that is about to return 0 has put `c` in,
and a call of `gives` that is about to return 0 has taken `c` out. -/
def Pc.record (takes : Op → Bool) (gives : Op) (c : Co) (holders : List Co) : Pc → List Co
  | .sysUnLock op _ r =>
    if r = .ret 0 then
      if takes op = true then holders ++ [c]
      else if op = gives then holders.erase c else holders
    else holders
  | _ => holders

/-- The record after the step `l` to `t`: nothing but a step of a coroutine changes it. -/
def recordAfter (takes : Op → Bool) (gives : Op) (holders : List Co) (l : Label Co)
    (t : State Co) : List Co :=
  match l with
  | .run c _ => (t.pc c).record takes gives c holders
  | _ => holders

section Record

variable {takes : Op → Bool} {gives op : Op} {l : List Co} {b : Bool} {r : Result}

/-- An operation that is about to return something other than 0 has not changed the record. -/
lemma record_of_ne (hr : r ≠ .ret 0) : (Pc.sysUnLock op b r).record takes gives c l = l :=
  if_neg hr

/-- An operation of another kind has not changed the record. -/
lemma record_of_not (ht : takes op = false) (hg : op ≠ gives) :
    (Pc.sysUnLock op b r).record takes gives c l = l := by
  simp [Pc.record, ht, hg]

/-- An acquisition is put in. -/
lemma record_takes (ht : takes op = true) :
    (Pc.sysUnLock op b (.ret 0)).record takes gives c l = l ++ [c] := by
  simp [Pc.record, ht]

/-- An unlock is taken out. -/
lemma record_gives (ht : takes gives = false) :
    (Pc.sysUnLock gives b (.ret 0)).record takes gives c l = l.erase c := by
  simp [Pc.record, ht]

/-- A step of `c` keeps the others in the record. -/
lemma mem_record_of_ne {k : Co} (hk : k ≠ c) (h : k ∈ l) (p : Pc) :
    k ∈ p.record takes gives c l := by
  cases p with
  | sysUnLock op b r =>
    simp only [Pc.record]
    split_ifs
    · exact List.mem_append_left _ h
    · exact (List.mem_erase_of_ne hk).mpr h
    · exact h
    · exact h
  | _ => exact h

end Record

/-- A step of `c` changes both records as the point that it leads to says. -/
lemma Step.record (h : Step c f s s') :
    s'.core.readers = (s'.pc c).record Op.reads .rUnLock c s.core.readers ∧
      s'.core.writers = (s'.pc c).record Op.writes .wUnLock c s.core.writers := by
  cases h with
  | acquireRead hp ho hb =>
    obtain ⟨-, hw, hne⟩ := Op.reads_cases ho
    rw [goto_core, acquireRead_core, goto_pc_self, record_takes ho, record_of_not hw hne]
    exact ⟨rfl, rfl⟩
  | acquireWrite hp ho hf hb =>
    obtain ⟨hr, hne⟩ := Op.writes_cases ho
    rw [goto_pc_self, record_takes ho, record_of_not hr hne]
    exact ⟨rfl, rfl⟩
  | withdrawAcquire hp ho hf =>
    have ho := Op.writes_of_writer ho
    obtain ⟨hr, hne⟩ := Op.writes_cases ho
    rw [goto_pc_self, record_takes ho, record_of_not hr hne]
    exact ⟨rfl, rfl⟩
  | rUnLock hp =>
    rw [goto_core, rUnLock_core, goto_pc_self, record_gives rfl, record_of_not rfl (by simp)]
    exact ⟨rfl, rfl⟩
  | wUnLock hp =>
    rw [goto_core, wUnLock_core, goto_pc_self, record_gives rfl, record_of_not rfl (by simp)]
    exact ⟨rfl, rfl⟩
  | refuse hp ho | registFails hp =>
    rw [goto_pc_self, record_of_ne (by simp), record_of_ne (by simp)]
    exact ⟨rfl, rfl⟩
  | prepareFails hp hr | readerGivesUp hp ho hr hb | writerGivesUp hp ho hr hb =>
    rw [goto_pc_self, record_of_ne hr, record_of_ne hr]
    exact ⟨rfl, rfl⟩
  | prepareAbandons hp hr hs =>
    rw [goto_pc_self, record_of_ne hr, record_of_ne hr]
    simp
  | prepare hp =>
    rw [goto_pc_self]
    simp [Pc.record]
  | callback hp =>
    unfold State.callback
    split <;> rw [goto_pc_self] <;> exact ⟨rfl, rfl⟩
  | unbind hp =>
    rw [State.unbind, goto_pc_self]
    split <;> exact ⟨rfl, rfl⟩
  | resume hp hr =>
    rw [State.resume, goto_pc_self]
    exact ⟨rfl, rfl⟩
  | _ hp =>
    rw [goto_pc_self]
    exact ⟨rfl, rfl⟩

/-- A step keeps the acquisitions recorded. -/
lemma Step.acquired (h : Step c f s s') (hA : Acquired s) : Acquired s' := by
  obtain ⟨hr, hw⟩ := h.record
  have hr : s'.readers = (s'.pc c).record Op.reads .rUnLock c s.readers := hr
  have hw : s'.writers = (s'.pc c).record Op.writes .wUnLock c s.writers := hw
  refine ⟨fun k op b hk ho => ?_, fun k op b hk ho => ?_⟩
  · rw [hr]
    by_cases hkc : k = c
    · subst hkc
      rw [hk, record_takes ho]
      exact List.mem_append_right _ List.mem_cons_self
    · rw [h.pc_of_ne hkc] at hk
      exact mem_record_of_ne hkc (hA.reads k op b hk ho) _
  · rw [hw]
    by_cases hkc : k = c
    · subst hkc
      rw [hk, record_takes ho]
      exact List.mem_append_right _ List.mem_cons_self
    · rw [h.pc_of_ne hkc] at hk
      exact mem_record_of_ne hkc (hA.writes k op b hk ho) _

/-- A step of one coroutine takes no lock away from the others. -/
lemma Step.mayCall_of_ne (h : Step c f s s') {k : Co} (hk : k ≠ c) {op : Op}
    (hm : s.mayCall k op) : s'.mayCall k op := by
  have key : (k ∈ s.core.readers → k ∈ s'.core.readers) ∧
      (k ∈ s.core.writers → k ∈ s'.core.writers) := by
    cases h with
    | callback hp =>
      unfold State.callback
      split <;> exact ⟨id, id⟩
    | acquireRead =>
      rw [goto_core, acquireRead_core]
      exact ⟨List.mem_append_left _, id⟩
    | acquireWrite | withdrawAcquire => exact ⟨id, List.mem_append_left _⟩
    | rUnLock =>
      rw [goto_core, rUnLock_core]
      exact ⟨(List.mem_erase_of_ne hk).mpr, id⟩
    | wUnLock =>
      rw [goto_core, wUnLock_core]
      exact ⟨id, (List.mem_erase_of_ne hk).mpr⟩
    | prepareAbandons => simp
    | prepare => simp
    | _ => exact ⟨id, id⟩
  cases op with
  | rUnLock => exact key.1 hm
  | wUnLock => exact key.2 hm
  | _ => trivial

/-- Who unlocks may do so. -/
lemma Step.holder (h : Step c f s s') (hI : Inv s) (k : Co) (op : Op)
    (hu : (s'.pc k).unlocking op) : s'.mayCall k op := by
  by_cases hk : k = c
  · subst hk
    cases h with
    | enter hp hm =>
      rw [goto_pc_self] at hu
      exact hI.holder k op (by rw [hp]; exact hu)
    | callback hp =>
      unfold State.callback at hu
      split at hu <;> simp [Pc.unlocking] at hu
    | unbind hp =>
      rw [State.unbind, goto_pc_self] at hu
      split at hu <;> cases hu
    | again hp ho =>
      rw [goto_pc_self, ho] at hu
      obtain ⟨rfl, h | h⟩ := hu <;> cases h
    | withdrawAgain hp =>
      rw [goto_pc_self] at hu
      obtain ⟨rfl, h | h⟩ := hu <;> cases h
    | _ =>
      simp only [State.resume, goto_pc_self] at hu
      cases hu
  · exact h.mayCall_of_ne hk (hI.holder k op (h.pc_of_ne hk ▸ hu))

/-- A step of a coroutine moves it in or out of the counted points exactly when the record of
waiting writers gains or loses it. -/
lemma Step.waiting (h : Step c f s s') (hI : Inv s) :
    s'.waitingWriters.Nodup ∧ ∀ k, k ∈ s'.waitingWriters ↔ (s'.pc k).counted = true := by
  have hin : ∀ p, s.pc c = p → (c ∈ s.waitingWriters ↔ p.counted = true) := fun p hp => by
    rw [← hp, hI.counted c]
  have hne : ∀ {k}, k ≠ c → s'.pc k = s.pc k := h.pc_of_ne
  -- the record and the kind of the point of `c` stay as they are
  have same : ∀ p : Pc, s'.core.waitingWriters = s.core.waitingWriters → s'.pc c = p →
      p.counted = (s.pc c).counted →
      s'.waitingWriters.Nodup ∧ ∀ k, k ∈ s'.waitingWriters ↔ (s'.pc k).counted = true := by
    intro p hw hp hc
    have hw : s'.waitingWriters = s.waitingWriters := hw
    refine ⟨hw ▸ hI.nodup, fun k => ?_⟩
    rw [hw, hI.counted k]
    by_cases hk : k = c
    · rw [hk, hp, hc]
    · rw [h.pc_of_ne hk]
  -- a writer withdraws
  have gone : ∀ p : Pc, s'.waitingWriters = s.waitingWriters.erase c → s'.pc c = p →
      p.counted = false →
      s'.waitingWriters.Nodup ∧ ∀ k, k ∈ s'.waitingWriters ↔ (s'.pc k).counted = true := by
    intro p hw hp hc
    rw [hw]
    refine ⟨hI.nodup.erase c, fun k => ?_⟩
    by_cases hk : k = c
    · rw [hk, hp, hc]
      simp [hI.nodup.not_mem_erase]
    · rw [List.mem_erase_of_ne hk, hI.counted k, h.pc_of_ne hk]
  cases h with
  | @callback op b hp =>
    have hout : c ∉ s.waitingWriters := by
      rw [hI.counted c, hp]
      exact Bool.false_ne_true
    cases ho : op.writer with
    | false =>
      have hs : s.callback c op = (s.sysUnLock c).goto c (.commit op) := by
        simp [State.callback, ho]
      exact same (.commit op) (by rw [hs]; rfl) (by rw [hs]; simp) (by rw [hp]; exact ho)
    | true =>
      have hw : (s.callback c op).waitingWriters = s.waitingWriters ++ [c] := by
        simp [State.callback, ho, State.goto, State.sysUnLock]
      have hc : (s.callback c op).pc c = .commit op := by
        simp [State.callback, ho]
      rw [hw]
      refine ⟨List.nodup_append.mpr ⟨hI.nodup, List.nodup_singleton c, by grind⟩, fun k => ?_⟩
      by_cases hk : k = c
      · rw [hk, hc]
        simpa [Pc.counted] using ho
      · rw [hne hk, ← hI.counted k]
        simp [hk]
  | withdrawAgain hp => exact gone _ rfl (goto_pc_self ..) rfl
  | writerGivesUp hp ho hr hb => exact gone _ rfl (goto_pc_self ..) rfl
  | withdrawAcquire hp ho hf => exact gone _ rfl (goto_pc_self ..) rfl
  | acquireRead hp ho hb =>
    exact same _ (by simp) (goto_pc_self ..) (hp.counted (Op.reads_cases ho).1).symm
  | rUnLock hp => exact same _ (by simp) (goto_pc_self ..) (by rw [hp]; rfl)
  | wUnLock hp => exact same _ (by simp) (goto_pc_self ..) (by rw [hp]; rfl)
  | prepareAbandons hp => exact same _ (by simp) (goto_pc_self ..) (by rw [hp]; rfl)
  | prepare hp => exact same _ (by simp) (goto_pc_self ..) (by rw [hp]; rfl)
  | unbind hp =>
    refine same _ rfl (goto_pc_self ..) ?_
    rw [hp]
    split
    · rename_i hr
      exact hr.2.symm
    · rfl
  | again hp ho | readerGivesUp hp ho hr hb =>
    refine same _ rfl (goto_pc_self ..) ?_
    rw [hp]
    first | exact ho.symm | (rw [ho]; rfl)
  | _ hp => exact same _ rfl (goto_pc_self ..) (by rw [hp]; rfl)

/-- The step lemma of the lock. -/
lemma Inv.step (h : Inv s) (hs : s.step c f = some s') : Inv s' := by
  have hstep := State.step_cases (h.control.ok c) hs
  obtain ⟨hnodup, hcounted⟩ := hstep.waiting h
  exact ⟨hstep.control h.control, hstep.core h, hnodup, hcounted, hstep.holder h,
    hstep.acquired h.acquired⟩

/-- What happens to a wait record alone does not concern the invariant. -/
lemma Inv.setWait (h : Inv s) (w : Wait) : Inv (s.setWait c w) :=
  ⟨h.control, h.core, h.nodup, h.counted, h.holder, ⟨h.acquired.reads, h.acquired.writes⟩⟩

/-- The call of an operation keeps the invariant. -/
lemma Inv.call (h : Inv s) {op : Op} (hp : s.pc c = .idle) (hm : s.mayCall c op) :
    Inv (s.goto c (.sysLock op)) := by
  have hc : s.control.pc c = _ := hp
  have hne : ∀ k o b, (s.goto c (.sysLock op)).pc k = .sysUnLock o b (.ret 0) →
      s.pc k = .sysUnLock o b (.ret 0) := by
    intro k o b hk
    by_cases hkc : k = c
    · rw [hkc, goto_pc_self] at hk
      cases hk
    · rwa [goto_pc_of_ne _ _ hkc] at hk
  refine ⟨h.control.goto trivial (by rw [hc]; rfl), h.core, h.nodup, fun k => ?_, fun k o hu => ?_,
    ⟨fun k o b hk => h.acquired.reads k o b (hne k o b hk),
      fun k o b hk => h.acquired.writes k o b (hne k o b hk)⟩⟩
  · by_cases hk : k = c
    · subst hk
      have := h.counted k
      rw [hp] at this
      rw [goto_pc_self]
      exact this
    · rw [goto_pc_of_ne _ _ hk]
      exact h.counted k
  · by_cases hk : k = c
    · subst hk
      rw [goto_pc_self] at hu
      obtain ⟨rfl, -⟩ := hu
      cases op <;> trivial
    · rw [goto_pc_of_ne _ _ hk] at hu
      have := h.holder k o hu
      cases o <;> trivial

end

/-! ## All runs -/

/-- The invariant holds initially. -/
lemma inv_init : Inv ({} : State Co) where
  control := ⟨fun _ => trivial, fun k => by simp [State.control, Pc.holds],
    fun k => by simp [State.control]⟩
  core := ⟨by simp [State.core], by simp [State.core], by simp [State.core], rfl, rfl, rfl⟩
  nodup := List.nodup_nil
  counted k := by simp [Pc.counted]
  holder k op hu := by cases hu
  acquired := ⟨fun _ _ _ h => (by cases h), fun _ _ _ h => (by cases h)⟩

/-- The step lemma of the system. -/
lemma Inv.next {s s' : State Co} {l : Label Co} (h : Inv s) (hs : next s l = some s') :
    Inv s' := by
  cases l with
  | call c op =>
    simp only [CoRWMutex.next] at hs
    split at hs <;> cases hs
    rename_i hc
    exact h.call hc.1 hc.2
  | run c f => exact h.step hs
  | timer c =>
    simp only [CoRWMutex.next] at hs
    split at hs <;> cases hs
    exact h.setWait _
  | requestCancel c =>
    cases hs
    exact h.setWait _
  | cancelTrigger c =>
    simp only [CoRWMutex.next] at hs
    split at hs <;> cases hs
    exact h.setWait _

/-- The invariant holds in every reachable state. -/
theorem inv_of_reachable {s : State Co} (h : (system Co).Reachable s) : Inv s := by
  refine System.Reachable.induct (I := Inv) ?_ (fun _ _ _ hI hs => hI.next hs) h
  rintro _ rfl
  exact inv_init

/-- The step lemma of the records. -/
lemma Inv.record {s t : State Co} {l : Label Co} (h : Inv s) (hs : CoRWMutex.next s l = some t) :
    t.readers = recordAfter Op.reads .rUnLock s.readers l t ∧
      t.writers = recordAfter Op.writes .wUnLock s.writers l t := by
  cases l with
  | run c f => exact (State.step_cases (h.control.ok c) hs).record
  | call c op | timer c | cancelTrigger c =>
    simp only [CoRWMutex.next] at hs
    split at hs <;> cases hs
    exact ⟨rfl, rfl⟩
  | requestCancel c =>
    cases hs
    exact ⟨rfl, rfl⟩

/-- The contract of the lock, read in a state. -/
structure Exclusive (s : State Co) : Prop where
  /-- Under `WLOCKED` exactly one writer and no reader is in the lock. -/
  wlocked : s.status = .wlocked → s.writers.length = 1 ∧ s.readers = []
  /-- Under `RLOCKED` no writer is in it, and the hold count, which is positive, counts the
  readers in it. -/
  rlocked : s.status = .rlocked → s.writers = [] ∧ s.rlockHoldNum = s.readers.length ∧
    0 < s.rlockHoldNum
  /-- Under `FREE` nobody is in it. -/
  free : s.status = .free → s.writers = [] ∧ s.readers = []
  /-- An acquisition that is about to return 0 is in the lock. -/
  acquired : Acquired s
  /-- Each step puts among the readers the coroutine whose reader acquisition it makes succeed,
  takes out the one whose `RUnLock` it makes succeed, and changes them in no other way. -/
  readers : ∀ l t, next s l = some t → t.readers = recordAfter Op.reads .rUnLock s.readers l t
  /-- Likewise for the writers. -/
  writers : ∀ l t, next s l = some t → t.writers = recordAfter Op.writes .wUnLock s.writers l t
  /-- The counter of waiting writers counts those that have entered a wait and not withdrawn; so
  it never underflows. -/
  waitWlockNum : s.waitWlockNum = s.waitingWriters.length
  /-- A writer is among them once, from its park callback until it has settled the wait. -/
  waitingWriters : s.waitingWriters.Nodup ∧
    ∀ k, k ∈ s.waitingWriters ↔ (s.pc k).counted = true
  /-- The flag is set exactly when the counter is positive. -/
  hasWaitWlock : s.hasWaitWlock = true ↔ 0 < s.waitWlockNum
  /-- Only a coroutine inside a critical section holds the internal mutex. -/
  mutex : ∀ k, s.mutex = some k ↔ (s.pc k).holds = true
  /-- No coroutine unlocks the mutex without having locked it, and none is a lock behind. -/
  sysUnLocks : ∀ k, s.sysLocks k = s.sysUnLocks k + if s.mutex = some k then 1 else 0
  /-- However an operation has ended, the mutex was unlocked as often as it was locked. -/
  released : ∀ k, s.pc k = .idle → s.mutex ≠ some k ∧ s.sysLocks k = s.sysUnLocks k

/-- Whatever the coroutines do, with timeouts, cancels and failing waits, the lock excludes and
counts correctly. -/
theorem exclusive_of_reachable {s : State Co} (h : (system Co).Reachable s) : Exclusive s := by
  have hI := inv_of_reachable h
  have hcore := hI.core
  have hfree : ∀ k, s.pc k = .idle → s.mutex ≠ some k := fun k hk hm => by
    have := (hI.control.mutex k).mp hm
    simp [State.control, hk, Pc.holds] at this
  refine ⟨fun hs => (hcore.wlocked hs).symm, fun hs => ⟨(hcore.rlocked hs).2, hcore.hold, ?_⟩,
    fun hs => (hcore.free hs).symm, hI.acquired, fun l t hs => (hI.record hs).1,
    fun l t hs => (hI.record hs).2, hcore.num, ⟨hI.nodup, hI.counted⟩, ?_, hI.control.mutex,
    hI.control.sys, fun k hk => ⟨hfree k hk, ?_⟩⟩
  · have hpos := List.length_pos_of_ne_nil (hcore.rlocked hs).1
    have hhold := hcore.hold
    simp only [State.core] at hhold hpos
    omega
  · have hflag : s.hasWaitWlock = decide (0 < s.waitWlockNum) := hcore.flag
    rw [hflag, decide_eq_true_iff]
  · have hsys : s.sysLocks k = s.sysUnLocks k + if s.mutex = some k then 1 else 0 :=
      hI.control.sys k
    rwa [if_neg (hfree k hk)] at hsys

/-- A writer waits behind a writer: the lock is exclusive there. -/
theorem exclusive_two_writers : ∃ s : State (Fin 2),
    s.status = .wlocked ∧ s.waitWlockNum = 1 ∧ Exclusive s := by
  have h : (system (Fin 2)).endsIn {} (performs 0 .wLock 3 ++ performs 1 .wLock 6)
      (fun s => s.status = .wlocked ∧ s.waitWlockNum = 1) = true := by decide
  obtain ⟨s, hs, hw, hn⟩ := System.exists_of_endsIn rfl h
  exact ⟨s, hw, hn, exclusive_of_reachable hs⟩

end BbtCoroutine.CoRWMutex
