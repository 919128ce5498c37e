import BbtCoroutine.Sync.CoWaiter
import BbtCoroutine.Transition.System

/-!
# A model of the `DnsResolver`

Coroutines call `Await` again and again, one worker thread runs their jobs, and others request
the cancellation of any coroutine at any time.  A coroutine, or the worker that runs it, moves
at every access to `m_mutex`, to its event or to its waiter; the worker thread of the resolver
moves between the pop of a job, the end of its work and the `Notify` of its waiter.

Each call of `Await` has a waiter and a frame of its own, so a job is named by the coroutine
and the number of its wait.
-/

namespace BbtCoroutine.DnsResolver

open Transition

/-! ## Jobs -/

/-- `kMaxPendingJobs`. -/
def kMaxPendingJobs : ℕ := 256

/-- `EAI_FAIL`. -/
def eaiFail : ℤ := -4

/-- A job: its waiter is the one made for the wait `n` of the coroutine `co`, and its work
refers to the frame of the call that waits there. -/
structure Job (Co : Type*) where
  co : Co
  n : ℕ
  deriving DecidableEq

/-- What the worker thread does. -/
inductive Worker (Co : Type*)
  | none
  | waiting
  | running (job : Job Co)
  | notifying (job : Job Co)
  deriving DecidableEq

/-- The job that the worker thread has taken. -/
def Worker.job {Co : Type*} : Worker Co → List (Job Co)
  | none | waiting => []
  | running job | notifying job => [job]

/-- The members of the resolver. -/
structure Pool (Co : Type*) where
  queue : List (Job Co) := []
  thread : Worker Co := .none
  deriving DecidableEq

namespace Pool

variable {Co : Type*}

/-- `Enqueue`; `fails` says that the thread cannot be created. -/
def enqueue (p : Pool Co) (job : Job Co) (fails : Bool) : Pool Co × Bool :=
  if kMaxPendingJobs ≤ p.queue.length then (p, false)
  else
    match p.thread with
    | .none =>
      -- `m_queue.pop()` takes the front, not the job that was pushed
      if fails then ({ p with queue := (p.queue ++ [job]).tail }, false)
      else ({ queue := p.queue ++ [job], thread := .waiting }, true)
    | _ => ({ p with queue := p.queue ++ [job] }, true)

/-- The jobs that are queued or running. -/
def pending (p : Pool Co) : List (Job Co) :=
  p.queue ++ match p.thread with
    | .running job => [job]
    | _ => []

/-- The jobs that are queued or that the worker thread has not let go of. -/
def jobs (p : Pool Co) : List (Job Co) :=
  p.queue ++ p.thread.job

end Pool

/-! ## Calls -/

/-- Where a coroutine is in `Await`; `result` is what it returned, `none` if it threw. -/
inductive Pc
  | idle
  | await
  | yield
  | yieldThrew
  | regist
  | callback
  | notify
  | commit
  | parked
  | unbind
  | returned (result : Option ℤ)
  deriving DecidableEq

/-- The point lies between `RegistCustom` and `Enqueue`. -/
def Pc.early : Pc → Bool
  | yield | yieldThrew | regist | callback => true
  | _ => false

/-- The call has not been made or has come to its end. -/
def Pc.outside : Pc → Bool
  | idle | returned _ => true
  | _ => false

/-- The answers that a step may need from its surroundings. -/
structure Answer where
  /-- `RegistCustom` makes no event. -/
  registNull : Bool := false
  /-- Storing the callback of the yield throws. -/
  throws : Bool := false
  /-- `_TestFailNextAwaitRegist` was called. -/
  testFail : Bool := false
  /-- The thread of the resolver cannot be created. -/
  threadFails : Bool := false

/-- A coroutine: its wait record, and the variables in the frames of `Await` and of the hook
that called it. -/
structure Frame where
  pc : Pc := .idle
  wait : Wait := {}
  enqueued : Bool := false
  ret : ℤ := eaiFail
  deriving DecidableEq

namespace Frame

/-- A call of `Await` from a hook, with the failure preset. -/
def call (f : Frame) : Frame :=
  { f with pc := .await, enqueued := false, ret := eaiFail }

/-- The round of the wait becomes `r`. -/
def setRound (f : Frame) (r : Round) : Frame :=
  { f with wait := { f.wait with round := r } }

/-- `_RegistAwaitEvent`. -/
def regist (f : Frame) (testFail : Bool) : Frame :=
  let r := if testFail then f.wait.round.unRegist else f.wait.round
  let r := if f.wait.cancelRequested then r.trigger pollEventCancelled else r
  { f.setRound r.regist with pc := if r.registOk then .callback else .unbind }

/-- The next step of a coroutine that is not at `Enqueue`. -/
def step (f : Frame) (a : Answer) : Option Frame :=
  match f.pc with
  | .idle | .callback | .returned _ => none
  | .await =>
    some (if a.registNull then { f with pc := .returned (some (-1)) }
      else { f with pc := .yield, wait := f.wait.registCustom false })
  | .yield => some { f with pc := if a.throws then .yieldThrew else .regist }
  | .yieldThrew =>
    some { f with pc := .returned none, wait := { f.wait.unbind with round := .cancelled } }
  | .regist => some (f.regist a.testFail)
  | .notify => some { f with pc := .commit, wait := f.wait.notify f.wait.n }
  | .commit => some { f with pc := .parked, wait := f.wait.commitPark }
  | .parked =>
    match f.wait.round with
    | .final m => some { f with pc := .unbind, wait := f.wait.resume m }
    | _ => none
  | .unbind =>
    some { f with
      pc := .returned (some (if f.enqueued then 0 else -1))
      wait := f.wait.unbind }

end Frame

/-! ## State -/

/-- The state of the resolver under the coroutines `Co`. -/
structure State (Co : Type*) where
  pool : Pool Co := {}
  frame : Co → Frame := fun _ => {}

namespace State

variable {Co : Type*}

/-- The job of the current call of a coroutine. -/
def job (s : State Co) (c : Co) : Job Co :=
  ⟨c, (s.frame c).wait.n⟩

/-- The call that made the job has returned. -/
def hasReturned (s : State Co) (job : Job Co) : Prop :=
  job.n < (s.frame job.co).wait.n ∨
    job.n = (s.frame job.co).wait.n ∧ (s.frame job.co).pc.outside = true

/-- No job of a call that has returned is queued or running. -/
def Contained (s : State Co) : Prop :=
  ∀ job, s.hasReturned job → job ∉ s.pool.queue ∧ s.pool.thread ≠ .running job

variable [DecidableEq Co]

/-- The coroutine `c` becomes `f`. -/
def setFrame (s : State Co) (c : Co) (f : Frame) : State Co :=
  { s with frame := Function.update s.frame c f }

/-- The callback of the yield up to `Enqueue`. -/
def callback (s : State Co) (c : Co) (a : Answer) : State Co :=
  let r := s.pool.enqueue (s.job c) a.threadFails
  { s with pool := r.1 }.setFrame c
    { s.frame c with enqueued := r.2, pc := if r.2 then .commit else .notify }

/-- The work of a job ends and writes its result into the frame of its call. -/
def work (s : State Co) (job : Job Co) (ret : ℤ) : State Co :=
  { s with pool := { s.pool with thread := .notifying job } }.setFrame job.co
    (if job = s.job job.co then { s.frame job.co with ret := ret } else s.frame job.co)

/-- The worker thread notifies the waiter of a job. -/
def notify (s : State Co) (job : Job Co) : State Co :=
  { s with pool := { s.pool with thread := .waiting } }.setFrame job.co
    { s.frame job.co with wait := (s.frame job.co).wait.notify job.n }

end State

/-- The steps of the resolver and of its callers. -/
inductive Label (Co : Type*)
  | call (c : Co)
  | step (c : Co) (a : Answer)
  /-- `RequestCancel` stores its flag. -/
  | requestCancel (c : Co)
  /-- `RequestCancel` triggers the awaited event. -/
  | cancelTrigger (c : Co)
  /-- The worker thread takes the first job. -/
  | pop
  /-- The work that is running ends with the result `ret`. -/
  | work (ret : ℤ)
  /-- `Notify` by the worker thread. -/
  | notify

variable {Co : Type*} [DecidableEq Co]

/-- One step of the resolver and of its callers. -/
def next (s : State Co) : Label Co → Option (State Co)
  | .call c =>
    if (s.frame c).pc.outside then some (s.setFrame c (s.frame c).call) else none
  | .step c a =>
    if (s.frame c).pc = .callback then some (s.callback c a)
    else ((s.frame c).step a).map (s.setFrame c)
  | .requestCancel c =>
    some (s.setFrame c { s.frame c with wait := (s.frame c).wait.requestCancel })
  | .cancelTrigger c =>
    if (s.frame c).wait.cancelRequested then
      some (s.setFrame c { s.frame c with wait := (s.frame c).wait.cancelTrigger })
    else none
  | .pop =>
    match s.pool.thread, s.pool.queue with
    | .waiting, job :: queue => some { s with pool := { queue, thread := .running job } }
    | _, _ => none
  | .work ret =>
    match s.pool.thread with
    | .running job => some (s.work job ret)
    | _ => none
  | .notify =>
    match s.pool.thread with
    | .notifying job => some (s.notify job)
    | _ => none

/-- The transition system of the resolver under the coroutines `Co`. -/
def system (Co : Type*) [DecidableEq Co] : System (State Co) (Label Co) where
  start s := s = {}
  next := next

end BbtCoroutine.DnsResolver
