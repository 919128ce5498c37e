import BbtCoroutine.Transition.System
import Mathlib.Data.Fintype.Sum
import Mathlib.Tactic.DeriveFintype
import Mathlib.Logic.Function.Basic
import Mathlib.Algebra.Order.Ring.Nat

/-!
# A model of the `CoPool`

The coroutines of a pool, `n` workers and the monitor, run beside any number of calls of
`Submit`, `SubmitWithFuture`, `Release` and `~CoPool`.  Every access to `m_is_running`,
`m_works_queue`, `m_running_co_num` and `m_latch` is a step of its own, and the calls of the
work items are steps as well, so that they may take any time.

A `Submit` makes one work item, which is named by the call.  The queue gives each producer its
own order only, so a `try_dequeue` may return any item; it fails when the queue is empty.  A
wait on `m_cond` may end at any time: a missed notification is sent again by the monitor.

`accepted`, `invoked` and `deleted` are a record of the run, on which no step depends.
-/

namespace BbtCoroutine.CoPool

open Transition

/-! ## The coroutines of the pool -/

/-- The coroutines that `_Start` registers. -/
inductive Member (n : ℕ)
  | work (i : Fin n)
  | monitor
  deriving DecidableEq, Fintype

/-- Where a coroutine of the pool is; `k` is the work item that it has taken. -/
inductive Pc (ι : Type*)
  | created
  | loop
  | dequeue
  | wait
  | invoke (k : ι)
  | invoking (k : ι)
  | handle (k : ι)
  | delete (k : ι)
  | notify
  | sleep
  | leave
  | down
  | done
  deriving DecidableEq

/-- The future of a work item; a `Submit` makes none. -/
inductive Future
  | none
  | pending
  | value
  | exception
  | broken
  deriving DecidableEq

/-- The answers that a step may need from its surroundings. -/
structure Answer (ι : Type*) where
  /-- The item that `try_dequeue` finds. -/
  pick : Option ι := none
  /-- The work or the exception callback throws. -/
  throws : Bool := false
  /-- Making the `Work` fails. -/
  allocFails : Bool := false
  /-- Making the `Work` or its promise throws. -/
  allocThrows : Bool := false
  /-- `enqueue` fails. -/
  enqueueFails : Bool := false

/-- The members of the pool. -/
structure Shared (ι : Type*) where
  isRunning : Bool := true
  works : List ι := []
  runningCoNum : ℤ := 0
  latch : ℤ
  exceptionCallback : Bool := false
  unhandledExceptionCount : ℕ := 0
  future : ι → Future := fun _ => .none
  accepted : ι → Bool := fun _ => false
  invoked : ι → ℕ := fun _ => 0
  deleted : ι → Bool := fun _ => false

variable {ι : Type*} [DecidableEq ι]

namespace Shared

/-- `try_dequeue`. -/
def tryDequeue (sh : Shared ι) : Option ι → Option (Shared ι × Option ι)
  | some k => if k ∈ sh.works then some ({ sh with works := sh.works.erase k }, some k) else none
  | none => if sh.works = [] then some (sh, none) else none

/-- The future of the item `k` becomes `f`, if it has one. -/
def setFuture (sh : Shared ι) (k : ι) (f : Future) : Shared ι :=
  if sh.future k = .none then sh
  else { sh with future := Function.update sh.future k f }

/-- `delete work`: a promise that was not kept breaks. -/
def delete (sh : Shared ι) (k : ι) : Shared ι :=
  { if sh.future k = .pending then sh.setFuture k .broken else sh with
    deleted := Function.update sh.deleted k true }

/-- `_HandleWorkException`; `throws` says that the exception callback throws in turn. -/
def handleWorkException (sh : Shared ι) (k : ι) (throws : Bool) : Shared ι :=
  if sh.future k ≠ .none then sh.setFuture k .exception
  else if sh.exceptionCallback ∧ !throws then sh
  else { sh with unhandledExceptionCount := sh.unhandledExceptionCount + 1 }

end Shared

/-- The body of the loops of `_WorkCo` and `_MonitorCo`. -/
def Member.body {n : ℕ} : Member n → Pc ι
  | work _ => .dequeue
  | monitor => .notify

/-- The next step of a coroutine of the pool: `_WorkCo` or `_MonitorCo`, and the `Down` after
it. -/
def Pc.step {n : ℕ} (m : Member n) (sh : Shared ι) (a : Answer ι) :
    Pc ι → Option (Shared ι × Pc ι)
  | created => some ({ sh with runningCoNum := sh.runningCoNum + 1 }, loop)
  | loop => some (sh, if sh.isRunning then m.body else leave)
  | dequeue => (sh.tryDequeue a.pick).map fun r => (r.1, (r.2.map invoke).getD wait)
  | wait => some (sh, loop)
  | invoke k =>
    some ({ sh with invoked := Function.update sh.invoked k (sh.invoked k + 1) }, invoking k)
  | invoking k => some (if a.throws then (sh, handle k) else (sh.setFuture k .value, delete k))
  | handle k => some (sh.handleWorkException k a.throws, delete k)
  | delete k => some (sh.delete k, loop)
  | notify => some (sh, sleep)
  | sleep => some (sh, loop)
  | leave => some ({ sh with runningCoNum := sh.runningCoNum - 1 }, down)
  | down => some ({ sh with latch := sh.latch - 1 }, done)
  | done => none

/-! ## Calls -/

/-- How far a call of `Submit`, `Release` or `~CoPool` has got. -/
inductive Frame
  | idle
  | submit (withFuture : Bool)
  | check
  | enqueue
  | notify
  | submitted (ok : Bool)
  | threw
  | destroy
  | store
  | poll
  | sleep
  | latch
  | drain
  | released
  deriving DecidableEq

/-- The next step of the call `i`. -/
def Frame.step (sh : Shared ι) (i : ι) (a : Answer ι) : Frame → Option (Shared ι × Frame)
  | idle | submitted _ | threw | released => none
  | submit withFuture =>
    some (if a.allocThrows then (sh, threw)
      else if a.allocFails then (sh, submitted false)
      else ({ sh with
          future := Function.update sh.future i (if withFuture then .pending else .none) }, check))
  | check => some (if sh.isRunning then (sh, enqueue) else (sh.delete i, submitted false))
  | enqueue =>
    some (if a.enqueueFails then (sh.delete i, submitted false)
      else ({ sh with
          works := sh.works ++ [i], accepted := Function.update sh.accepted i true }, notify))
  | notify => some (sh, submitted true)
  | destroy =>
    (sh.tryDequeue a.pick).map fun r => (r.2.map fun k => (r.1.delete k, destroy)).getD (r.1, store)
  | store => some ({ sh with isRunning := false }, poll)
  | poll => some (sh, if sh.runningCoNum ≠ 0 then sleep else latch)
  | sleep => some (sh, poll)
  | latch => if sh.latch ≤ 0 then some (sh, drain) else none
  | drain =>
    (sh.tryDequeue a.pick).map fun r =>
      (r.2.map fun k => (r.1.delete k, drain)).getD (r.1, released)

/-! ## State -/

/-- The state of a pool of `n` workers under the calls `ι`. -/
structure State (n : ℕ) (ι : Type*) where
  shared : Shared ι
  pc : Member n → Pc ι := fun _ => .created
  call : ι → Frame := fun _ => .idle

/-- The entry points of the pool. -/
inductive Call
  | submit
  | submitWithFuture
  | release
  | destroy
  deriving DecidableEq

/-- The first point of a call. -/
def Call.frame : Call → Frame
  | submit => .submit false
  | submitWithFuture => .submit true
  | release => .store
  | destroy => .destroy

/-- The steps of a pool of `n` workers under the calls `ι`. -/
inductive Label (n : ℕ) (ι : Type*)
  | begin (i : ι) (c : Call)
  | setExceptionCallback (set : Bool)
  | call (i : ι) (a : Answer ι)
  | member (m : Member n) (a : Answer ι)

variable {n : ℕ}

/-- One step of a pool. -/
def next (s : State n ι) : Label n ι → Option (State n ι)
  | .begin i c =>
    if s.call i = .idle then some { s with call := Function.update s.call i c.frame } else none
  | .setExceptionCallback set =>
    some { s with shared := { s.shared with exceptionCallback := set } }
  | .call i a =>
    ((s.call i).step s.shared i a).map fun r =>
      { s with shared := r.1, call := Function.update s.call i r.2 }
  | .member m a =>
    ((s.pc m).step m s.shared a).map fun r =>
      { s with shared := r.1, pc := Function.update s.pc m r.2 }

/-- A pool whose coroutines are registered and have not run yet. -/
def init (n : ℕ) (ι : Type*) : State n ι where
  shared := { latch := n + 1 }

/-- The transition system of a pool of `n` workers under the calls `ι`. -/
def system (n : ℕ) (ι : Type*) [DecidableEq ι] : System (State n ι) (Label n ι) where
  start s := s = init n ι
  next := next

/-! ## Released pools -/

namespace State

/-- Some call of `Release` or `~CoPool` has returned. -/
def Released (s : State n ι) : Prop :=
  ∃ i, s.call i = .released

/-- No accepted work item is open: each was invoked once or destroyed, and none is queued. -/
structure Settled (s : State n ι) : Prop where
  settled : ∀ k, s.shared.accepted k = true → s.shared.invoked k = 1 ∨ s.shared.deleted k = true
  works : s.shared.works = []

/-- No work item was invoked twice. -/
def InvokedOnce (s : State n ι) : Prop :=
  ∀ k, s.shared.invoked k ≤ 1

end State

end BbtCoroutine.CoPool
