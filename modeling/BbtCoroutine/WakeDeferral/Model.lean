import BbtCoroutine.Transition.System
import Mathlib.Data.Int.Notation
import Mathlib.Data.Nat.Notation
import Mathlib.Logic.Function.Basic

/-!
# A model of `DriverWakeDeferral`

One thread builds and destroys guards, and asks for wake-ups of drivers.  Its stack has a frame
for each guard that is alive, for each destructor that is in `_WakeProcesserDrivers`, and for each
`Wake` of a driver: the code of the driver may do anything the thread does elsewhere, so it may
build guards of its own and ask for wake-ups too.  A guard is destroyed at the end of its block or
when an exception leaves the block.

The other threads publish and retire processors and bind and unbind drivers at any time.  A
processor whose slot holds a driver is not retired, and a driver is bound to an active processor
only.

The outermost guards are numbered.  `deferred`, `flushed`, `called` and `wakes` are a record of the
run, on which no step depends.
-/

namespace BbtCoroutine.WakeDeferral

open Transition

variable {P : Type*}

/-- A frame of the stack of the thread. -/
inductive Frame (P : Type*)
  /-- A guard is alive. -/
  | scope
  /-- The destructor of the `n`-th outermost guard goes through the processors of the snapshot. -/
  | flushing (n : ℕ) (rest : List P)
  /-- In `Wake` of the driver of `p`. -/
  | waking (p : P)
  deriving DecidableEq

/-- The state of the thread and of the processors. -/
structure State (P : Type*) where
  /-- `m_active_snapshot`. -/
  active : List P := []
  /-- The driver slot of the processor is occupied. -/
  bound : P → Bool := fun _ => false
  /-- `tl_depth`. -/
  depth : ℤ := 0
  /-- `tl_pending`. -/
  pending : Bool := false
  stack : List (Frame P) := []
  /-- The number of outermost guards so far. -/
  scopes : ℕ := 0
  /-- The requests that were deferred while the guard was alive. -/
  deferred : ℕ → List P := fun _ => []
  /-- The snapshots of the flushes that the destructor of the guard has begun. -/
  flushed : ℕ → List (List P) := fun _ => []
  /-- The processors of whose driver that flush has asked the wake-up. -/
  called : ℕ → List P := fun _ => []
  /-- The wake-ups that were issued. -/
  wakes : List P := []

/-- The steps. -/
inductive Label (P : Type*)
  /-- A guard is built. -/
  | enter
  /-- `_WakeDriver`; `granted` says that the lease is acquired. -/
  | request (p : P) (granted : Bool)
  /-- The guard on top of the stack is destroyed. -/
  | exit
  /-- The flush goes on to the next processor. -/
  | flush (granted : Bool)
  /-- The flush is over. -/
  | finish
  /-- `_UnregisterDriver`, up to the terminal wake-up of its leader. -/
  | unregisterDriver (p : P)
  /-- `Wake` returns. -/
  | back
  | publish (p : P)
  | retire (p : P)
  | bind (p : P)
  | unbind (p : P)

namespace State

/-- The code of the runtime or of a driver runs, not the loop of a flush. -/
def runs (s : State P) : Bool :=
  match s.stack with
  | .flushing _ _ :: _ => false
  | _ => true

/-- The driver of the processor is woken. -/
def wake (s : State P) (p : P) : State P :=
  { s with stack := .waking p :: s.stack, wakes := s.wakes ++ [p] }

/-- `Defer` at a positive depth. -/
def defer (s : State P) (p : P) : State P :=
  { s with
    pending := true
    deferred := Function.update s.deferred s.scopes (s.deferred s.scopes ++ [p]) }

/-- `_WakeDriver`. -/
def wakeDriver (s : State P) (p : P) (granted : Bool) : State P :=
  if 0 < s.depth then s.defer p
  else if s.bound p && granted then s.wake p else s

/-- The constructor of the guard. -/
def enter (s : State P) : State P :=
  { s with
    depth := s.depth + 1
    stack := .scope :: s.stack
    scopes := if s.depth ≤ 0 then s.scopes + 1 else s.scopes }

/-- The destructor of the guard over the frames `rest`, up to the loop of
`_WakeProcesserDrivers`. -/
def exit (s : State P) (rest : List (Frame P)) : State P :=
  if 0 < s.depth - 1 then { s with depth := s.depth - 1, stack := rest }
  else if s.pending then
    { s with
      depth := 0
      pending := false
      stack := .flushing s.scopes s.active :: rest
      flushed := Function.update s.flushed s.scopes (s.flushed s.scopes ++ [s.active]) }
  else { s with depth := 0, stack := rest }

/-- The loop of the flush takes the next processor. -/
def advance (s : State P) (n : ℕ) (p : P) (ps : List P) (rest : List (Frame P)) : State P :=
  { s with
    stack := .flushing n ps :: rest
    called := Function.update s.called n (s.called n ++ [p]) }

end State

variable [DecidableEq P]

/-- One step of the thread or of the processors. -/
def next (s : State P) : Label P → Option (State P)
  | .enter => if s.runs then some s.enter else none
  | .request p granted => if s.runs then some (s.wakeDriver p granted) else none
  | .exit =>
    match s.stack with
    | .scope :: rest => some (s.exit rest)
    | _ => none
  | .flush granted =>
    match s.stack with
    | .flushing n (p :: ps) :: rest => some ((s.advance n p ps rest).wakeDriver p granted)
    | _ => none
  | .finish =>
    match s.stack with
    | .flushing _ [] :: rest => some { s with stack := rest }
    | _ => none
  | .unregisterDriver p =>
    if s.runs then
      if 0 < s.depth then some s else if s.bound p then some (s.wake p) else some s
    else none
  | .back =>
    match s.stack with
    | .waking _ :: rest => some { s with stack := rest }
    | _ => none
  | .publish p => if p ∈ s.active then none else some { s with active := s.active ++ [p] }
  | .retire p => if s.bound p then none else some { s with active := s.active.erase p }
  | .bind p =>
    if p ∈ s.active then some { s with bound := Function.update s.bound p true } else none
  | .unbind p => some { s with bound := Function.update s.bound p false }

/-- The runs of a thread that has built no guard yet. -/
def system (P : Type*) [DecidableEq P] : System (State P) (Label P) where
  start s := s = {}
  next := next

end BbtCoroutine.WakeDeferral
