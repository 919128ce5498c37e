import BbtCoroutine.Transition.System
import Mathlib.Algebra.BigOperators.Fin
import Mathlib.Data.List.Chain

/-!
# A model of the pulls from the global queues

A worker calls `_TryGetCoroutineFromGlobal` again and again, and moves at each access to a global
queue, to its admission and to its local queue.  Meanwhile others enqueue coroutines in the global
queues and take coroutines out of all queues, and the worker may be retired.

A queue is the list of its coroutines; `try_dequeue` may take any of them.  `probes`, `calls`,
`enqueued` and `moved` are a record of the run on which no step depends.
-/

namespace BbtCoroutine.GlobalPull

open Transition

/-- `CO_PRIORITY_COUNT`. -/
abbrev coPriorityCount : ℕ := 4

/-- `CoroutinePriority`. -/
abbrev CoroutinePriority := Fin coPriorityCount

/-- `CO_PRIORITY_CRITICAL`. -/
def coPriorityCritical : CoroutinePriority := 3

/-- Where the cursor goes from `p`. -/
def pullNext (p : CoroutinePriority) : CoroutinePriority :=
  ⟨(p + coPriorityCount - 1) % coPriorityCount, Nat.mod_lt _ (Nat.succ_pos 3)⟩

variable {Co : Type*}

/-- A probe of a global queue: which queues held a coroutine then, what was taken, and whether the
local queue refused it. -/
structure Probe (Co : Type*) where
  priority : CoroutinePriority
  found : CoroutinePriority → Bool
  item : Option Co
  refused : Bool := false

/-- Nothing has come into the local queue. -/
def Probe.dry (p : Probe Co) : Bool :=
  p.item.isNone || p.refused

/-- A call that has returned: its result, its probes, and whether the worker was admitted. -/
structure Call (Co : Type*) where
  alreadyCount : ℕ
  probes : List (Probe Co)
  admitted : Bool

/-- Where the worker is in `_TryGetCoroutineFromGlobal`. -/
inductive Pc (Co : Type*)
  | idle
  | loop
  | admitItem (item : Co) (probe : Probe Co)
  | putBack (item : Co) (probe : Probe Co)

/-- The coroutine that the worker has taken. -/
def Pc.hand : Pc Co → List Co
  | admitItem item _ | putBack item _ => [item]
  | _ => []

/-- The queues and the worker. -/
structure State (Co : Type*) where
  /-- `m_global_coroutine_queue`. -/
  globalQueue : CoroutinePriority → List Co := fun _ => []
  /-- `m_coroutine_queue`. -/
  coroutineQueue : List Co := []
  admissionOpen : Bool := true
  globalPullPriority : CoroutinePriority := coPriorityCritical
  pc : Pc Co := .idle
  alreadyCount : ℕ := 0
  emptyLevels : ℕ := 0
  /-- The probes of the current call, and of all calls. -/
  callProbes : List (Probe Co) := []
  probes : List (Probe Co) := []
  calls : List (Call Co) := []
  /-- What others have enqueued in a global queue, and what they have taken. -/
  enqueued : List Co := []
  moved : List Co := []

namespace State

/-- The global queue `p` becomes `l`. -/
def setQueue (s : State Co) (p : CoroutinePriority) (l : List Co) : State Co :=
  { s with globalQueue := Function.update s.globalQueue p l }

/-- The queues that hold a coroutine. -/
def found (s : State Co) : CoroutinePriority → Bool :=
  fun p => !(s.globalQueue p).isEmpty

/-- The call returns. -/
def ret (s : State Co) (admitted : Bool) : State Co :=
  { s with
    pc := .idle
    calls := s.calls ++ [⟨s.alreadyCount, s.callProbes, admitted⟩] }

/-- `_TryGetCoroutineFromGlobal` is called; a worker that is retired takes nothing. -/
def call (s : State Co) : State Co :=
  let s' := { s with alreadyCount := 0, emptyLevels := 0, callProbes := [] }
  if s.admissionOpen then { s' with pc := .loop } else s'.ret false

/-- The end of an iteration: `pulled` coroutines have come. -/
def iterate (s : State Co) (probe : Probe Co) (pulled : ℕ) : State Co :=
  { s with
    pc := .loop
    alreadyCount := s.alreadyCount + pulled
    emptyLevels := if pulled = 0 then s.emptyLevels + 1 else 0
    callProbes := s.callProbes ++ [probe]
    probes := s.probes ++ [probe] }

/-- The loop goes on. -/
def goesOn (limit : ℕ) (s : State Co) : Bool :=
  s.alreadyCount < limit && s.emptyLevels < coPriorityCount

/-- The cursor is moved, and `try_dequeue` takes the coroutine number `i`. -/
def probe (s : State Co) (i : ℕ) : Option (State Co) :=
  let p := s.globalPullPriority
  let s' := { s with globalPullPriority := pullNext p }
  match s.globalQueue p with
  | [] => some (s'.iterate ⟨p, s.found, none, false⟩ 0)
  | l => l[i]?.map fun item =>
    { s'.setQueue p (l.eraseIdx i) with pc := .admitItem item ⟨p, s.found, some item, false⟩ }

/-- `_EnqueueAdmitted`; `linked` says that the run queue refuses the coroutine. -/
def admitItem (s : State Co) (item : Co) (probe : Probe Co) (linked : Bool) : State Co :=
  if !s.admissionOpen || linked then { s with pc := .putBack item { probe with refused := true } }
  else { s with coroutineQueue := s.coroutineQueue ++ [item] }.iterate probe 1

/-- A refused coroutine goes back to its global queue; `ok` says that `enqueue` succeeds. -/
def putBack (s : State Co) (item : Co) (probe : Probe Co) (ok : Bool) : State Co :=
  if ok then
    (s.setQueue probe.priority (s.globalQueue probe.priority ++ [item])).iterate probe 0
  else s

end State

/-- The steps of the worker, and of the others. -/
inductive Label (Co : Type*)
  | call
  | probe (i : ℕ)
  | admitItem (linked : Bool)
  | putBack (ok : Bool)
  | ret
  | enqueue (p : CoroutinePriority) (item : Co)
  | dequeue (p : CoroutinePriority) (i : ℕ)
  | steal (i : ℕ)
  | retire

/-- One step. -/
def next (limit : ℕ) (s : State Co) : Label Co → Option (State Co)
  | .call =>
    match s.pc with
    | .idle => some s.call
    | _ => none
  | .probe i =>
    match s.pc with
    | .loop => if s.goesOn limit then s.probe i else none
    | _ => none
  | .admitItem linked =>
    match s.pc with
    | .admitItem item probe => some (s.admitItem item probe linked)
    | _ => none
  | .putBack ok =>
    match s.pc with
    | .putBack item probe => some (s.putBack item probe ok)
    | _ => none
  | .ret =>
    match s.pc with
    | .loop => if s.goesOn limit then none else some (s.ret true)
    | _ => none
  | .enqueue p item =>
    some { s.setQueue p (s.globalQueue p ++ [item]) with enqueued := s.enqueued ++ [item] }
  | .dequeue p i =>
    (s.globalQueue p)[i]?.map fun item =>
      { s.setQueue p ((s.globalQueue p).eraseIdx i) with moved := s.moved ++ [item] }
  | .steal i =>
    s.coroutineQueue[i]?.map fun item =>
      { s with coroutineQueue := s.coroutineQueue.eraseIdx i, moved := s.moved ++ [item] }
  | .retire => some { s with admissionOpen := false }

/-- The transition system of a worker that pulls at most `limit` coroutines in a call. -/
def system (Co : Type*) (limit : ℕ) : System (State Co) (Label Co) where
  start s := s = {}
  next := next limit

end BbtCoroutine.GlobalPull
