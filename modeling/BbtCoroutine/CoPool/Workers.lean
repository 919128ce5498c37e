import BbtCoroutine.CoPool.Model

/-!
# A `CoPool` on the workers of the scheduler

The coroutines of a pool, and the calls that are made by coroutines outside of it, run on the
processers `P`, whose set does not change.  A registered coroutine waits in the local queue of
one processer; an idle processer resumes a coroutine of its own queue, pulls one from the global
queue or steals one from another processer.  A worker keeps its coroutine until it suspends, so
a coroutine that blocks in `CountDownLatch::Wait` keeps its worker.
-/

namespace BbtCoroutine.CoPool

open Transition

variable {n : ℕ} {ι P : Type*}

/-- A coroutine that a worker may run. -/
inductive Co (n : ℕ) (ι : Type*)
  | member (m : Member n)
  | caller (i : ι)
  deriving DecidableEq

/-- Where a coroutine of the pool is. -/
inductive Place (P : Type*)
  | unregistered
  | queued (p : P)
  | global
  | running (p : P)
  | parked
  | final
  deriving DecidableEq

/-- The state of a pool on the processers `P`. -/
structure Placed (n : ℕ) (ι P : Type*) where
  pool : State n ι
  place : Member n → Place P := fun _ => .unregistered
  /-- `m_running_coroutine`. -/
  running : P → Option (Co n ι) := fun _ => none

/-- The steps of a pool on the processers `P`. -/
inductive Action (n : ℕ) (ι P : Type*)
  /-- `_Start` registers a coroutine. -/
  | regist (m : Member n) (p : P)
  | begin (i : ι) (c : Call)
  | setExceptionCallback (set : Bool)
  /-- A call that is made by a thread. -/
  | thread (i : ι) (a : Answer ι)
  /-- The coroutine that the worker runs. -/
  | work (p : P) (a : Answer ι)
  | suspend (p : P)
  /-- A suspended coroutine of the pool is woken: by its own worker, or by way of the global
  queue. -/
  | ready (m : Member n) (p : Option P)
  /-- A pull from the global queue, or a steal. -/
  | fetch (p : P) (m : Member n)
  | resume (p : P) (m : Member n)
  | resumeCaller (p : P) (i : ι)

/-- The points at which a coroutine of the pool may suspend; the work itself may. -/
def Pc.suspends : Pc ι → Bool
  | wait | sleep | invoking _ => true
  | _ => false

/-- The points at which a coroutine that makes a call may suspend: outside of the call, and in
the `bbtco_sleep` of `Release`. -/
def Frame.suspends : Frame → Bool
  | idle | sleep | submitted _ | threw | released => true
  | _ => false

namespace Place

/-- The place where an idle worker may fetch a coroutine from. -/
def fetchable : Place P → Bool
  | queued _ | global => true
  | _ => false

end Place

namespace Placed

variable [DecidableEq ι] [DecidableEq P] (s : Placed n ι P)

/-- The pool makes the step `l`. -/
def step (l : Label n ι) : Option (Placed n ι P) :=
  (next s.pool l).map fun t => { s with pool := t }

/-- The place of a coroutine and what the worker `p` runs. -/
def put (m : Member n) (q : Place P) (p : P) (c : Option (Co n ι)) : Placed n ι P :=
  { s with place := Function.update s.place m q, running := Function.update s.running p c }

/-- A coroutine whose function has returned leaves its worker. -/
def finish (p : P) (m : Member n) : Placed n ι P :=
  if s.pool.pc m = .done then s.put m .final p none else s

/-- The worker `p` runs its coroutine for one step. -/
def work (p : P) (a : Answer ι) : Option (Placed n ι P) :=
  match s.running p with
  | some (.member m) => (s.step (.member m a)).map fun t => t.finish p m
  | some (.caller i) => s.step (.call i a)
  | none => none

/-- The coroutine that the worker `p` runs suspends. -/
def suspend (p : P) : Option (Placed n ι P) :=
  match s.running p with
  | some (.member m) => if (s.pool.pc m).suspends then some (s.put m .parked p none) else none
  | some (.caller i) =>
    if (s.pool.call i).suspends then
      some { s with running := Function.update s.running p none }
    else none
  | none => none

/-- One step of a pool on the processers `P`; `isCo` tells the calls that are made by
coroutines from those that are made by threads. -/
def next [Fintype P] (isCo : ι → Bool) (s : Placed n ι P) : Action n ι P → Option (Placed n ι P)
  | .regist m p =>
    if s.place m = .unregistered then
      some { s with place := Function.update s.place m (.queued p) }
    else none
  | .begin i c => if ∀ m, s.place m ≠ .unregistered then s.step (.begin i c) else none
  | .setExceptionCallback set => s.step (.setExceptionCallback set)
  | .thread i a => if isCo i then none else s.step (.call i a)
  | .work p a => s.work p a
  | .suspend p => s.suspend p
  | .ready m p =>
    if s.place m = .parked then
      some { s with place := Function.update s.place m ((p.map .queued).getD .global) }
    else none
  | .fetch p m =>
    if s.running p = none ∧ (s.place m).fetchable then
      some { s with place := Function.update s.place m (.queued p) }
    else none
  | .resume p m =>
    if s.running p = none ∧ s.place m = .queued p then
      some (s.put m (.running p) p (some (.member m)))
    else none
  | .resumeCaller p i =>
    if isCo i ∧ s.running p = none ∧ ∀ q, s.running q ≠ some (.caller i) then
      some { s with running := Function.update s.running p (some (.caller i)) }
    else none

/-! ## Blocked workers -/

omit [DecidableEq ι] [DecidableEq P] in
/-- The worker `p` is blocked: it runs a `Release` that waits for the latch. -/
def Blocked (p : P) : Prop :=
  ∃ i, s.running p = some (.caller i) ∧ s.pool.call i = .latch

/-- The worker `p` can run a coroutine of the pool: it does, or the coroutine is in a queue that
`p` takes or steals from, or will be when it is woken. -/
def CanRun (p : P) (m : Member n) : Prop :=
  ¬ s.Blocked p ∧ ∀ q, s.place m = .running q → p = q

/-- A worker is blocked by the wait for a coroutine that no other worker can run. -/
def Stuck (p : P) (m : Member n) : Prop :=
  s.Blocked p ∧ s.pool.pc m ≠ .done ∧ ∀ q, s.CanRun q m → q = p

end Placed

/-- A pool on the processers `P` before it is started. -/
def Placed.init (n : ℕ) (ι P : Type*) : Placed n ι P where
  pool := CoPool.init n ι

/-- The transition system of a pool on the processers `P`. -/
def placedSystem (n : ℕ) {ι : Type*} (P : Type*) [DecidableEq ι] [DecidableEq P] [Fintype P]
    (isCo : ι → Bool) : System (Placed n ι P) (Action n ι P) where
  start s := s = Placed.init n ι P
  next := Placed.next isCo

end BbtCoroutine.CoPool
