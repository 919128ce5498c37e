import BbtCoroutine.Sync.EventQueue
import BbtCoroutine.Transition.System

/-!
# A model of `CoMutex`

One mutex and any set of coroutines.  Each coroutine runs at most one operation at a
time; its `Pc` is the point the operation has reached.  The internal `m_mutex` is part
of the state: a coroutine that needs it waits until it is free, holds it through its
critical section, and hands it over to the park callback, which releases it.

The queue holds the events of the waits themselves.  An event is named by its coroutine
and the number of the wait it was made for, and every event keeps its own round, also
after the wait it was made for.

`holders` records who holds the lock; `sysLocks` and `sysUnLocks` count what each
coroutine did to `m_mutex`.  No step depends on any of the three, except that `UnLock` is
called by a holder only.  The deadlock assertion is taken as it is in a release build,
where it only prints.
-/

namespace BbtCoroutine.CoMutex

open Transition

/-- `CoMutexStatus`. -/
inductive Status
  | free
  | locked
  deriving DecidableEq, Repr

/-- The operations of the mutex. -/
inductive Op
  | lock
  | unLock
  | tryLock
  | tryLockFor (ms : ℤ)
  deriving DecidableEq

namespace Op

/-- The wait of the operation has a timer. -/
def timed : Op → Bool
  | tryLockFor _ => true
  | _ => false

/-- `InitFdEvent` refuses a negative timeout. -/
def badTimeout : Op → Bool
  | tryLockFor ms => decide (ms < 0)
  | _ => false

end Op

/-- How an operation ends. -/
inductive Result
  | ret (r : ℤ)
  | threw
  deriving DecidableEq

/-- What goes wrong in a step that can fail. -/
inductive Fault
  | none
  /-- `RegistCustom` or the push throws. -/
  | createThrows
  /-- `RegistCustom` returns null. -/
  | registNull
  /-- Setting up the yield throws after the event was pushed. -/
  | yieldThrows
  /-- `_RegistAwaitEvent` returns `false`. -/
  | registFails
  deriving DecidableEq

/-- The point an operation has reached. -/
inductive Pc
  | idle
  | sysLock (op : Op)
  | body (op : Op)
  | wait (op : Op)
  | regist (op : Op)
  | callback (op : Op)
  | commit (op : Op)
  | parked (op : Op)
  | relock (op : Op)
  | settle (op : Op)
  /-- The wait of a `Lock` could not be made: it lets the others run and tries again. -/
  | retry
  | sysUnLock (op : Op) (r : Result)
  deriving DecidableEq

/-- The state of the mutex and of the coroutines that use it. -/
structure State (Co : Type*) where
  /-- The coroutine that holds `m_mutex`. -/
  mutex : Option Co := none
  status : Status := .free
  lockedCo : Option Co := none
  waitEventQueue : List (Option (Co × ℕ)) := []
  /-- The round of each event. -/
  event : Co × ℕ → Round := fun _ => .inited
  /-- How many events a coroutine has made; the number of the last one. -/
  events : Co → ℕ := fun _ => 0
  /-- The last event has a timer. -/
  timed : Co → Bool := fun _ => false
  cancelRequested : Co → Bool := fun _ => false
  lastResumeEvent : Co → EventMask := fun _ => 0
  pc : Co → Pc := fun _ => .idle
  holders : List Co := []
  sysLocks : Co → ℕ := fun _ => 0
  sysUnLocks : Co → ℕ := fun _ => 0

variable {Co : Type*} [DecidableEq Co]

namespace State

/-! ## Parts of the operations -/

/-- The coroutine `c` goes on at `p`. -/
def goto (s : State Co) (c : Co) (p : Pc) : State Co :=
  { s with pc := Function.update s.pc c p }

/-- `_SysLock`, on a free mutex. -/
def sysLock (s : State Co) (c : Co) : State Co :=
  { s with
    mutex := some c
    sysLocks := Function.update s.sysLocks c (s.sysLocks c + 1) }

/-- `_SysUnLock`. -/
def sysUnLock (s : State Co) (c : Co) : State Co :=
  { s with
    mutex := none
    sysUnLocks := Function.update s.sysUnLocks c (s.sysUnLocks c + 1) }

/-- The event `e` moves on to the round `r`. -/
def setEvent (s : State Co) (e : Co × ℕ) (r : Round) : State Co :=
  { s with event := Function.update s.event e r }

/-- The event of the last wait of `c`. -/
def last (s : State Co) (c : Co) : Co × ℕ :=
  (c, s.events c)

/-- `_NotifyOne`. -/
def notifyOne (s : State Co) : State Co :=
  { s with
    waitEventQueue := (triggerOneIn pollEventCustom s.waitEventQueue s.event).1
    event := (triggerOneIn pollEventCustom s.waitEventQueue s.event).2 }

/-- `_OnLocked`, and the end of the operation. -/
def onLocked (s : State Co) (c : Co) (op : Op) : State Co :=
  { s with
    lockedCo := some c
    status := .locked
    holders := s.holders ++ [c] }.goto c (.sysUnLock op (.ret 0))

/-- `_OnUnLocked`. -/
def onUnLocked (s : State Co) (c : Co) : State Co :=
  { { s with status := .free, holders := s.holders.erase c }.notifyOne with lockedCo := none }

/-- `RegistCustom` has made an event. -/
def registCustom (s : State Co) (c : Co) (op : Op) : State Co :=
  { s with
    event := Function.update s.event (c, s.events c + 1) .inited
    events := Function.update s.events c (s.events c + 1)
    timed := Function.update s.timed c op.timed }

/-- An event or a null slot is pushed. -/
def push (s : State Co) (slot : Option (Co × ℕ)) : State Co :=
  { s with waitEventQueue := s.waitEventQueue ++ [slot] }

/-- Where an operation goes on whose wait could not be made. -/
def failed : Op → Pc
  | .lock => .retry
  | op => .sysUnLock op (.ret (-1))

/-- The critical section an operation starts with, and the head of the loop of `Lock`. -/
def body (s : State Co) (c : Co) : Op → State Co
  | .lock => if s.status = .locked then s.goto c (.wait .lock) else s.onLocked c .lock
  | .unLock => (s.onUnLocked c).goto c (.sysUnLock .unLock (.ret 0))
  | .tryLock =>
    if s.status = .free then s.onLocked c .tryLock
    else s.goto c (.sysUnLock .tryLock (.ret (-1)))
  | .tryLockFor ms =>
    if s.status = .locked then s.goto c (.wait (.tryLockFor ms))
    else s.onLocked c (.tryLockFor ms)

/-- `_WaitUnLock` and `_WaitUnLockUnitlTimeout` up to the yield.  If the yield cannot be set up
the slot of the pushed event is nulled. -/
def prepare (s : State Co) (c : Co) (op : Op) (f : Fault) : State Co :=
  if f = .createThrows then s.goto c (.sysUnLock op .threw)
  else if f = .registNull ∨ op.badTimeout = true then s.goto c (failed op)
  else if f = .yieldThrows then ((s.registCustom c op).push none).goto c (.sysUnLock op .threw)
  else ((s.registCustom c op).push (some (c, s.events c + 1))).goto c (.regist op)

/-- `_RegistAwaitEvent`: a requested cancel triggers the event first.  If the registration fails
the coroutine goes on at once, with the mutex. -/
def regist (s : State Co) (c : Co) (op : Op) (f : Fault) : State Co :=
  let r :=
    if s.cancelRequested c then (s.event (s.last c)).trigger pollEventCancelled
    else s.event (s.last c)
  if f = .registFails then (s.setEvent (s.last c) r.unRegist).goto c (failed op)
  else (s.setEvent (s.last c) r.regist).goto c (.callback op)

/-- The coroutine is resumed with the mask `m`. -/
def resume (s : State Co) (c : Co) (op : Op) (m : EventMask) : State Co :=
  { s with lastResumeEvent := Function.update s.lastResumeEvent c m }.goto c (.relock op)

/-- The wait of a timed operation has timed out; a cancel counts as a timeout. -/
def timedOut (s : State Co) (c : Co) : Prop :=
  s.lastResumeEvent c &&& (pollEventTimeout ||| pollEventCancelled) ≠ 0

/-- Whether a wait has timed out can be computed. -/
instance (s : State Co) (c : Co) : Decidable (s.timedOut c) :=
  inferInstanceAs (Decidable (_ ≠ _))

/-- The critical section after a wait. -/
def settle (s : State Co) (c : Co) : Op → State Co
  | .tryLockFor ms =>
    if s.timedOut c then s.goto c (.sysUnLock (.tryLockFor ms) (.ret 1))
    else if s.status ≠ .free then s.goto c (.sysUnLock (.tryLockFor ms) (.ret (-1)))
    else s.onLocked c (.tryLockFor ms)
  | op => s.body c op

/-- The next step of the coroutine `c`. -/
def step (s : State Co) (c : Co) (f : Fault) : Option (State Co) :=
  match s.pc c with
  | .idle => none
  | .sysLock op => if s.mutex = none then some ((s.sysLock c).goto c (.body op)) else none
  | .body op => some (s.body c op)
  | .wait op => some (s.prepare c op f)
  | .regist op => some (s.regist c op f)
  | .callback op => some ((s.sysUnLock c).goto c (.commit op))
  | .commit op =>
    some ((s.setEvent (s.last c) (s.event (s.last c)).commitPark).goto c (.parked op))
  | .parked op =>
    match s.event (s.last c) with
    | .final m => some (s.resume c op m)
    | _ => none
  | .relock op => if s.mutex = none then some ((s.sysLock c).goto c (.settle op)) else none
  | .settle op => some (s.settle c op)
  | .retry => some ((s.sysUnLock c).goto c (.sysLock .lock))
  | .sysUnLock _ _ => some ((s.sysUnLock c).goto c .idle)

/-- The operation may be called by `c`: `UnLock` is called by a holder. -/
def mayCall (s : State Co) (c : Co) (op : Op) : Prop :=
  op = .unLock → c ∈ s.holders

/-- Whether an operation may be called can be computed. -/
instance (s : State Co) (c : Co) (op : Op) : Decidable (s.mayCall c op) :=
  inferInstanceAs (Decidable (_ → _))

/-- The timer of the last event of `c` may fire: it is armed with the registration. -/
def timerArmed (s : State Co) (c : Co) : Prop :=
  s.timed c = true ∧ (s.event (s.last c) = .armed ∨ s.event (s.last c) = .parked)

/-- Whether a timer is armed can be computed. -/
instance (s : State Co) (c : Co) : Decidable (s.timerArmed c) :=
  inferInstanceAs (Decidable (_ ∧ _))

end State

/-! ## The system -/

/-- The steps of the system: a coroutine calls an operation or goes on, its timer fires, or it is
cancelled in the two steps of `RequestCancel`, the second of which is about an event that the
first one may have found long ago. -/
inductive Label (Co : Type*)
  | call (c : Co) (op : Op)
  | run (c : Co) (f : Fault)
  | timer (c : Co)
  | requestCancel (c : Co)
  | cancelTrigger (c : Co) (n : ℕ)

/-- One step of the system. -/
def next (s : State Co) : Label Co → Option (State Co)
  | .call c op => if s.pc c = .idle ∧ s.mayCall c op then some (s.goto c (.sysLock op)) else none
  | .run c f => s.step c f
  | .timer c =>
    if s.timerArmed c then
      some (s.setEvent (s.last c) ((s.event (s.last c)).trigger pollEventTimeout))
    else none
  | .requestCancel c =>
    some { s with cancelRequested := Function.update s.cancelRequested c true }
  | .cancelTrigger c n =>
    if s.cancelRequested c = true ∧ n ≤ s.events c then
      some (s.setEvent (c, n) ((s.event (c, n)).trigger pollEventCancelled))
    else none

/-- The transition system of one mutex; it starts unlocked, with no operation under way. -/
def system (Co : Type*) [DecidableEq Co] : System (State Co) (Label Co) where
  start s := s = {}
  next := next

/-- The coroutine `c` calls `op` and takes `n` steps in which nothing fails. -/
def performs {Co : Type*} (c : Co) (op : Op) (n : ℕ) : List (Label Co) :=
  .call c op :: List.replicate n (.run c .none)

end BbtCoroutine.CoMutex
