import BbtCoroutine.Sync.WaitQueue

/-!
# A model of `CoRWMutex`

One lock and any set of coroutines.  Each coroutine runs at most one operation at a
time; its `Pc` is the point the operation has reached.  The internal `m_mutex` is part
of the state: a coroutine that needs it waits until it is free, holds it through its
critical section, and hands it over to the park callback, which releases it.

A critical section between two such points is one step.  It touches only members that
the mutex protects and the waiters it notifies, so a timer or a cancel that fires
inside it could as well have fired before it.

`readers`, `writers` and `waitingWriters` record who holds the lock and which writers
have entered a wait and not yet withdrawn; `sysLocks` and `sysUnLocks` count what each
coroutine did to the mutex.  No step depends on any of the five, except that an unlock
is called by a holder only.
-/

namespace BbtCoroutine.CoRWMutex

open Transition

/-- `CoRWMutexStatus`. -/
inductive Status
  | free
  | rlocked
  | wlocked
  deriving DecidableEq, Repr

/-- The operations of the lock. -/
inductive Op
  | rLock
  | wLock
  | rUnLock
  | wUnLock
  | tryRLock
  | tryWLock
  | tryRLockFor (ms : ℤ)
  | tryWLockFor (ms : ℤ)
  deriving DecidableEq

namespace Op

/-- The operations that wait as a writer. -/
def writer : Op → Bool
  | wLock | tryWLockFor _ => true
  | _ => false

/-- The operations whose wait has a timer. -/
def timed : Op → Bool
  | tryRLockFor _ | tryWLockFor _ => true
  | _ => false

/-- A timed operation with a negative limit does not wait. -/
def badTimeout : Op → Bool
  | tryRLockFor ms | tryWLockFor ms => decide (ms < 0)
  | _ => false

end Op

/-- How an operation ends. -/
inductive Result
  | ret (r : ℤ)
  | threw
  deriving DecidableEq

/-- How the wait ends for an operation whose park callback has run. -/
inductive WaitRet
  | notified
  | timedOut
  | threw
  deriving DecidableEq

/-- What goes wrong in a step that can fail. -/
inductive Fault
  | none
  /-- Making or pushing the waiter throws. -/
  | createThrows
  /-- `RegistCustom` returns null. -/
  | registNull
  /-- Setting up the yield throws after the waiter was pushed. -/
  | yieldThrows
  /-- `_RegistAwaitEvent` returns `false`. -/
  | registFails
  /-- The yield throws after the park callback has run. -/
  | lateThrow
  deriving DecidableEq

/-- The point an operation has reached.  `waited` says that it has parked before. -/
inductive Pc
  | idle
  | sysLock (op : Op)
  | body (op : Op) (waited : Bool)
  | wait (op : Op) (waited : Bool)
  | regist (op : Op) (waited : Bool)
  | callback (op : Op) (waited : Bool)
  | commit (op : Op)
  | parked (op : Op)
  | unbind (op : Op) (ret : WaitRet)
  | relock (op : Op) (ret : WaitRet)
  | settle (op : Op) (ret : WaitRet)
  | sysUnLock (op : Op) (waited : Bool) (r : Result)
  deriving DecidableEq

/-- The state of the lock and of the coroutines that use it. -/
structure State (Co : Type*) where
  /-- The coroutine that holds `m_mutex`. -/
  mutex : Option Co := none
  status : Status := .free
  rlockHoldNum : ℤ := 0
  hasWaitWlock : Bool := false
  waitWlockNum : ℤ := 0
  waitReadlockQueue : WaitQueue Co := []
  waitWritelockQueue : WaitQueue Co := []
  wait : Co → Wait := fun _ => {}
  pc : Co → Pc := fun _ => .idle
  readers : List Co := []
  writers : List Co := []
  waitingWriters : List Co := []
  sysLocks : Co → ℕ := fun _ => 0
  sysUnLocks : Co → ℕ := fun _ => 0

variable {Co : Type*} [DecidableEq Co]

namespace State

/-- `_NotifyOne`: the writers come first. -/
def notifyOne (s : State Co) : State Co :=
  let r := notifyOneIn s.waitWritelockQueue s.wait
  if r.2.2 then { s with waitWritelockQueue := r.1, wait := r.2.1 }
  else
    let r' := notifyOneIn s.waitReadlockQueue r.2.1
    { s with waitWritelockQueue := r.1, waitReadlockQueue := r'.1, wait := r'.2.1 }

/-- `_NotifyAll(true)`. -/
def notifyAllReaders (s : State Co) : State Co :=
  { s with waitReadlockQueue := [], wait := notifyAllIn s.waitReadlockQueue s.wait }

/-! ## Parts of the operations -/

/-- The coroutine `c` goes on at `p`. -/
def goto (s : State Co) (c : Co) (p : Pc) : State Co :=
  { s with pc := Function.update s.pc c p }

/-- The wait record of `c` becomes `w`. -/
def setWait (s : State Co) (c : Co) (w : Wait) : State Co :=
  { s with wait := Function.update s.wait c w }

/-- `_SysLock`, on a free mutex. -/
def sysLock (s : State Co) (c : Co) : State Co :=
  { s with
    mutex := some c
    sysLocks := Function.update s.sysLocks c (s.sysLocks c + 1) }

/-- `_SysUnLock`. -/
def sysUnLock (s : State Co) (c : Co) : State Co :=
  { s with
    mutex := none
    sysUnLocks := Function.update s.sysUnLocks c (s.sysUnLocks c + 1) }

/-- A reader may not enter. -/
def readBlocked (s : State Co) : Prop :=
  s.status = .wlocked ∨ s.hasWaitWlock = true

/-- Whether a reader is blocked can be computed. -/
instance (s : State Co) : Decidable s.readBlocked :=
  inferInstanceAs (Decidable (_ ∨ _))

/-- A reader enters; readers behind it are woken unless a writer waits. -/
def acquireRead (s : State Co) (c : Co) : State Co :=
  let s' :=
    { s with
      status := .rlocked
      rlockHoldNum := s.rlockHoldNum + 1
      readers := s.readers ++ [c] }
  if s'.hasWaitWlock then s' else s'.notifyAllReaders

/-- A writer enters. -/
def acquireWrite (s : State Co) (c : Co) : State Co :=
  { s with status := .wlocked, writers := s.writers ++ [c] }

/-- A writer whose wait is over is no longer counted. -/
def withdraw (s : State Co) (c : Co) : State Co :=
  { s with
    waitWlockNum := s.waitWlockNum - 1
    hasWaitWlock := decide (0 < s.waitWlockNum - 1)
    waitingWriters := s.waitingWriters.erase c }

/-- The critical section of `RUnLock`. -/
def rUnLock (s : State Co) (c : Co) : State Co :=
  let num := s.rlockHoldNum - 1
  let s' :=
    { s with
      rlockHoldNum := num
      status := if num = 0 then .free else .rlocked
      readers := s.readers.erase c }
  if s'.status = .free then s'.notifyOne else s'

/-- The critical section of `WUnLock`. -/
def wUnLock (s : State Co) (c : Co) : State Co :=
  let s' := { s with status := .free, writers := s.writers.erase c }
  if s'.waitWritelockQueue ≠ [] then s'.notifyOne
  else if s'.waitReadlockQueue ≠ [] then s'.notifyAllReaders
  else s'

/-- The critical section an operation starts with, and the head of the loops of `RLock` and
`WLock`. -/
def body (s : State Co) (c : Co) (op : Op) (waited : Bool) : State Co :=
  match op with
  | .rLock | .tryRLockFor _ =>
    if s.readBlocked then s.goto c (.wait op waited)
    else (s.acquireRead c).goto c (.sysUnLock op waited (.ret 0))
  | .tryRLock =>
    if s.readBlocked then s.goto c (.sysUnLock op waited (.ret (-1)))
    else (s.acquireRead c).goto c (.sysUnLock op waited (.ret 0))
  | .wLock =>
    if s.status ≠ .free then s.goto c (.wait op waited)
    else
      ({ s with hasWaitWlock := decide (0 < s.waitWlockNum) }.acquireWrite c).goto c
        (.sysUnLock op waited (.ret 0))
  | .tryWLockFor _ =>
    if s.status ≠ .free then s.goto c (.wait op waited)
    else (s.acquireWrite c).goto c (.sysUnLock op waited (.ret 0))
  | .tryWLock =>
    if s.status ≠ .free then s.goto c (.sysUnLock op waited (.ret (-1)))
    else (s.acquireWrite c).goto c (.sysUnLock op waited (.ret 0))
  | .rUnLock => (s.rUnLock c).goto c (.sysUnLock op waited (.ret 0))
  | .wUnLock => (s.wUnLock c).goto c (.sysUnLock op waited (.ret 0))

/-- A slot is pushed on the queue of the operation. -/
def push (s : State Co) (op : Op) (slot : Option (Co × ℕ)) : State Co :=
  if op.writer then { s with waitWritelockQueue := s.waitWritelockQueue ++ [slot] }
  else { s with waitReadlockQueue := s.waitReadlockQueue ++ [slot] }

/-- `_WaitRLock` and its siblings up to the yield.  If the yield cannot be set up the pushed slot
is nulled; if `RegistCustom` returns null the waiter stays in the queue without an event. -/
def prepare (s : State Co) (c : Co) (op : Op) (waited : Bool) (f : Fault) : State Co :=
  let w := s.wait c
  if op.badTimeout then s.goto c (.sysUnLock op waited (.ret (-1)))
  else
    match f with
    | .createThrows => s.goto c (.sysUnLock op waited .threw)
    | .registNull =>
      ((s.push op (some (c, w.n + 1))).setWait c w.abandon).goto c
        (.sysUnLock op waited (.ret (-1)))
    | .yieldThrows =>
      ((s.push op none).setWait c w.abandon).goto c (.sysUnLock op waited .threw)
    | _ =>
      ((s.push op (some (c, w.n + 1))).setWait c (w.registCustom op.timed)).goto c
        (.regist op waited)

/-- `_RegistAwaitEvent`; if it fails the coroutine goes on at once, with the mutex. -/
def regist (s : State Co) (c : Co) (op : Op) (waited : Bool) (f : Fault) : State Co :=
  if f = .registFails then
    (s.setWait c ((s.wait c).registAwaitEvent true).unbind).goto c
      (.sysUnLock op waited (.ret (-1)))
  else (s.setWait c ((s.wait c).registAwaitEvent false)).goto c (.callback op waited)

/-- The park callback: a writer is counted, and the mutex is released. -/
def callback (s : State Co) (c : Co) (op : Op) : State Co :=
  if op.writer then
    ({ s with
        waitWlockNum := s.waitWlockNum + 1
        hasWaitWlock := true
        waitingWriters := s.waitingWriters ++ [c] }.sysUnLock c).goto c (.commit op)
  else (s.sysUnLock c).goto c (.commit op)

/-- How the wait of `op` ended, from the wake-up mask. -/
def waitRet (op : Op) (f : Fault) (w : Wait) : WaitRet :=
  if f = .lateThrow then .threw
  else if op.timed ∧ w.timedRet = 1 then .timedOut else .notified

/-- The coroutine is resumed with the mask `m`. -/
def resume (s : State Co) (c : Co) (op : Op) (f : Fault) (m : EventMask) : State Co :=
  (s.setWait c ((s.wait c).resume m)).goto c (.unbind op (waitRet op f ((s.wait c).resume m)))

/-- The waiter lets go of its event.  A reader whose yield has thrown does not lock again. -/
def unbind (s : State Co) (c : Co) (op : Op) (ret : WaitRet) : State Co :=
  (s.setWait c (s.wait c).unbind).goto c
    (if ret = .threw ∧ op.writer = false then .idle else .relock op ret)

/-- The critical section after a wait. -/
def settle (s : State Co) (c : Co) (op : Op) (ret : WaitRet) : State Co :=
  match op with
  | .wLock =>
    match ret with
    | .threw => (s.withdraw c).goto c (.sysUnLock op true .threw)
    | _ => (s.withdraw c).goto c (.body op true)
  | .tryWLockFor _ =>
    match ret with
    | .threw => (s.withdraw c).goto c (.sysUnLock op true .threw)
    | .timedOut => (s.withdraw c).goto c (.sysUnLock op true (.ret 1))
    | .notified =>
      if s.status ≠ .free then (s.withdraw c).goto c (.sysUnLock op true (.ret (-1)))
      else ((s.withdraw c).acquireWrite c).goto c (.sysUnLock op true (.ret 0))
  | .tryRLockFor _ =>
    match ret with
    | .timedOut => s.goto c (.sysUnLock op true (.ret 1))
    | _ =>
      if s.readBlocked then s.goto c (.sysUnLock op true (.ret (-1)))
      else (s.acquireRead c).goto c (.sysUnLock op true (.ret 0))
  | _ => s.goto c (.body op true)

/-- The next step of the coroutine `c`. -/
def step (s : State Co) (c : Co) (f : Fault) : Option (State Co) :=
  match s.pc c with
  | .idle => none
  | .sysLock op =>
    if s.mutex = none then some ((s.sysLock c).goto c (.body op false)) else none
  | .body op waited => some (s.body c op waited)
  | .wait op waited => some (s.prepare c op waited f)
  | .regist op waited => some (s.regist c op waited f)
  | .callback op _ => some (s.callback c op)
  | .commit op => some ((s.setWait c (s.wait c).commitPark).goto c (.parked op))
  | .parked op =>
    match (s.wait c).round with
    | .final m => some (s.resume c op f m)
    | _ => none
  | .unbind op ret => some (s.unbind c op ret)
  | .relock op ret =>
    if s.mutex = none then some ((s.sysLock c).goto c (.settle op ret)) else none
  | .settle op ret => some (s.settle c op ret)
  | .sysUnLock _ _ _ => some ((s.sysUnLock c).goto c .idle)

/-- The operation `op` may be called by `c`: an unlock is called by a holder. -/
def mayCall (s : State Co) (c : Co) : Op → Prop
  | .rUnLock => c ∈ s.readers
  | .wUnLock => c ∈ s.writers
  | _ => True

/-- Whether an operation may be called can be computed. -/
instance (s : State Co) (c : Co) : DecidablePred (s.mayCall c) := fun op => by
  cases op <;> unfold mayCall <;> infer_instance

end State

/-! ## The system -/

/-- The steps of the system: a coroutine calls an operation or goes on, its timer fires, or it is
cancelled in the two steps of `RequestCancel`. -/
inductive Label (Co : Type*)
  | call (c : Co) (op : Op)
  | run (c : Co) (f : Fault)
  | timer (c : Co)
  | requestCancel (c : Co)
  | cancelTrigger (c : Co)

/-- One step of the system. -/
def next (s : State Co) : Label Co → Option (State Co)
  | .call c op => if s.pc c = .idle ∧ s.mayCall c op then some (s.goto c (.sysLock op)) else none
  | .run c f => s.step c f
  | .timer c =>
    if (s.wait c).timerArmed then some (s.setWait c (s.wait c).timeout) else none
  | .requestCancel c => some (s.setWait c (s.wait c).requestCancel)
  | .cancelTrigger c =>
    if (s.wait c).cancelRequested then some (s.setWait c (s.wait c).cancelTrigger) else none

/-- The transition system of one lock; it starts unlocked, with no operation under way. -/
def system (Co : Type*) [DecidableEq Co] : System (State Co) (Label Co) where
  start s := s = {}
  next := next

/-- The coroutine `c` calls `op` and takes `n` steps in which nothing fails. -/
def performs {Co : Type*} (c : Co) (op : Op) (n : ℕ) : List (Label Co) :=
  .call c op :: List.replicate n (.run c .none)

end BbtCoroutine.CoRWMutex
