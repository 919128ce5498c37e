import BbtCoroutine.Transition.System
import Mathlib.Data.Multiset.AddSub
import Mathlib.Logic.Function.Basic

/-!
# A model of the driver slot of a `Processer`

Any number of threads bind drivers, call back the bound one and detach it.  What a thread
does between two accesses to the slot or to a binding is one step.  A callback is user
code: while it runs, its thread may enter further calls, so a thread has a stack of frames,
the innermost first.  The thread-local list of leases is the list of the frames that hold
one.

`holders`, `leader`, `terminalWakes` and `succeeded` are a record of the run: the threads
that hold the leases counted by `inflight`, the thread and frame that detach the
generation, how often its terminal wake has started, and whether a detachment has returned
`Ok`.  No step depends on them.
-/

namespace BbtCoroutine.Driver

open Transition

/-- `ProcesserDriverState` of a binding. -/
inductive DriverState
  | bound
  | failed
  | detaching
  deriving DecidableEq

/-- The methods of `IProcesserDriver`. -/
inductive Callback
  | tick
  | wait
  | wake
  deriving DecidableEq

/-- How a callback ends: with `Ok`, with `Failed`, or with an exception. -/
inductive Outcome
  | ok
  | failed
  | throws
  deriving DecidableEq

/-- A call of a thread, at the point that it has reached. -/
inductive Frame
  /-- `_DriverOnTick`, `_WaitForWork` or `_WakeDriver` before it reads the slot. -/
  | enter (c : Callback)
  /-- Before the constructor of the lease. -/
  | lease (c : Callback) (g : ℕ)
  /-- The lease is acquired; the callback has not started. -/
  | granted (c : Callback) (g : ℕ)
  | running (c : Callback) (g : ℕ)
  /-- Before `_DriverFail`. -/
  | fail (c : Callback) (g : ℕ) (exception : Bool)
  /-- Before the destructor of the lease. -/
  | release (g : ℕ)
  /-- `_UnregisterDriver` before it reads the slot. -/
  | unregister (g : ℕ)
  /-- Before the choice between leader and joiner. -/
  | lead (g : ℕ)
  | join (g : ℕ)
  /-- The leader has reserved the terminal wake. -/
  | terminal (g : ℕ)
  | terminalWake (g : ℕ)
  | terminalRelease (g : ℕ)
  /-- The leader waits for the leases. -/
  | drain (g : ℕ)
  | clear (g : ℕ)
  | detach (g : ℕ)
  deriving DecidableEq

namespace Frame

/-- The generation of the lease that the frame has put on the list of its thread. -/
def held : Frame → Option ℕ
  | granted _ g | running _ g | fail _ g _ | release g | terminalWake g | terminalRelease g =>
    some g
  | _ => none

/-- The generation of the lease of the frame that `m_inflight` counts. -/
def counted : Frame → Option ℕ
  | terminal g => some g
  | f => f.held

/-- The generation that the frame, as the leader, detaches. -/
def leads : Frame → Option ℕ
  | terminal g | terminalWake g | terminalRelease g | drain g | clear g | detach g => some g
  | _ => none

/-- User code runs in the frame. -/
def user : Frame → Bool
  | running _ _ | terminalWake _ => true
  | _ => false

end Frame

/-- `ProcesserDriverBinding`. -/
structure Binding (T : Type*) where
  state : DriverState := .bound
  failure : Option Callback := none
  exception : Bool := false
  inflight : ℕ := 0
  terminalWakeReserved : Bool := false
  detached : Bool := false
  holders : Multiset T := 0
  leader : Option (T × Frame) := none
  terminalWakes : ℕ := 0
  succeeded : Bool := false

/-- What the threads share: the slot, the last generation and the bindings of all generations. -/
structure Shared (T : Type*) where
  driverBinding : Option ℕ := none
  driverNextGeneration : ℕ := 0
  binding : ℕ → Binding T := fun _ => {}

/-- `UINT64_MAX`. -/
def generationMax : ℕ := 18446744073709551615

namespace Binding

variable {T : Type*}

/-- The condition of `DriverCallbackLease`. -/
def grants (b : Binding T) (terminal : Bool) : Bool :=
  b.detached = false ∧ (b.state = .bound ∨ (terminal = true ∧ b.state = .detaching) ∨
    (terminal = true ∧ b.state = .failed))

/-- The constructor of a lease that is granted. -/
def acquire (b : Binding T) (t : T) : Binding T :=
  { b with inflight := b.inflight + 1, holders := t ::ₘ b.holders }

/-- The destructor of a lease. -/
def release [DecidableEq T] (b : Binding T) (t : T) : Binding T :=
  { b with inflight := b.inflight - 1, holders := b.holders.erase t }

/-- `_DriverFail`. -/
def driverFail (b : Binding T) (source : Callback) (err : Bool) : Binding T :=
  match b.state with
  | .detaching =>
    if b.failure = none then { b with failure := some source, exception := err } else b
  | .failed => b
  | .bound => { b with state := .failed, failure := some source, exception := err }

/-- The leader reserves the terminal wake. -/
def reserve (b : Binding T) (t : T) (g : ℕ) : Binding T :=
  { b.acquire t with
    state := .detaching
    terminalWakeReserved := true
    leader := some (t, .terminal g) }

/-- The leader goes on. -/
def led (b : Binding T) (t : T) (f : Frame) : Binding T :=
  { b with leader := some (t, f) }

end Binding

namespace Shared

variable {T : Type*}

/-- The binding of the generation `g` becomes `b`. -/
def set (sh : Shared T) (g : ℕ) (b : Binding T) : Shared T :=
  { sh with binding := Function.update sh.binding g b }

@[simp] lemma set_binding_self (sh : Shared T) (g : ℕ) (b : Binding T) :
    (sh.set g b).binding g = b :=
  Function.update_self _ _ _

/-- Setting a binding leaves those of the other generations alone. -/
lemma set_binding_of_ne (sh : Shared T) {g g' : ℕ} (h : g' ≠ g) (b : Binding T) :
    (sh.set g b).binding g' = sh.binding g' :=
  Function.update_of_ne h _ _

/-- `_BindDriver` under the lock of the slot; `active` says whether the processer is active. -/
def bindDriver (sh : Shared T) (active : Bool) : Shared T × Option ℕ :=
  if active = false then (sh, none)
  else if sh.driverBinding ≠ none then (sh, none)
  else if sh.driverNextGeneration = generationMax then (sh, none)
  else
    let gen := sh.driverNextGeneration + 1
    ({ sh.set gen {} with driverBinding := some gen, driverNextGeneration := gen }, some gen)

end Shared

/-- The next step of a frame of `t`, with the frame that it becomes; `below` are the outer frames,
`deferring` says whether the thread defers wakes, `skip` whether a worker that has a lease finds
something to do instead of waiting, and `o` how a callback ends. -/
def Frame.advance {T : Type*} [DecidableEq T] (sh : Shared T) (t : T) (below : List Frame)
    (deferring skip : Bool) (o : Outcome) : Frame → Option (Shared T × Option Frame)
  | enter c =>
    if c = .wake ∧ deferring = true then some (sh, none)
    else some (sh, sh.driverBinding.map (lease c))
  | lease c g =>
    if (sh.binding g).grants false then
      some (sh.set g ((sh.binding g).acquire t), some (granted c g))
    else some (sh, none)
  | granted c g =>
    if c = .wait ∧ skip = true then some (sh, some (release g)) else some (sh, some (running c g))
  | running c g =>
    if c = .wake ∨ o = .ok then some (sh, some (release g))
    else some (sh, some (fail c g (o = .throws)))
  | fail c g err => some (sh.set g ((sh.binding g).driverFail c err), some (release g))
  | release g => some (sh.set g ((sh.binding g).release t), none)
  | unregister g =>
    if sh.driverBinding ≠ some g then some (sh, none)
    else if deferring = true ∨ some g ∈ below.map held then some (sh, none)
    else some (sh, some (lead g))
  | lead g =>
    if (sh.binding g).terminalWakeReserved = false then
      some (sh.set g ((sh.binding g).reserve t g), some (terminal g))
    else some (sh, some (join g))
  | join g =>
    if (sh.binding g).detached then
      some (sh.set g { sh.binding g with succeeded := true }, none)
    else none
  | terminal g =>
    some (sh.set g { (sh.binding g).led t (terminalWake g) with
      terminalWakes := (sh.binding g).terminalWakes + 1 }, some (terminalWake g))
  | terminalWake g =>
    some (sh.set g ((sh.binding g).led t (terminalRelease g)), some (terminalRelease g))
  | terminalRelease g =>
    some (sh.set g (((sh.binding g).release t).led t (drain g)), some (drain g))
  | drain g =>
    if (sh.binding g).inflight = 0 then
      some (sh.set g ((sh.binding g).led t (clear g)), some (clear g))
    else none
  | clear g =>
    some ({ sh.set g ((sh.binding g).led t (detach g)) with
      driverBinding := if sh.driverBinding = some g then none else sh.driverBinding },
      some (detach g))
  | detach g =>
    some (sh.set g { sh.binding g with detached := true, leader := none, succeeded := true }, none)

/-- The state of the system. -/
structure State (T : Type*) where
  shared : Shared T := {}
  stack : T → List Frame := fun _ => []
  /-- The depth of the `DriverWakeDeferral` of a thread. -/
  deferral : T → ℕ := fun _ => 0

/-- The steps of the system. -/
inductive Label (T : Type*)
  /-- `RegisterProcesserDriver`, whose wake follows. -/
  | bind (t : T) (active : Bool)
  | call (t : T) (c : Callback)
  | unregister (t : T) (g : ℕ)
  | defer (t : T)
  | undefer (t : T)
  | run (t : T) (skip : Bool) (o : Outcome)

variable {T : Type*} [DecidableEq T]

namespace State

/-- The thread runs user code, or none of the modelled calls. -/
def free (s : State T) (t : T) : Bool :=
  (s.stack t).head?.all Frame.user

/-- The frames of `t` become `fs`. -/
def setStack (s : State T) (t : T) (fs : List Frame) : State T :=
  { s with stack := Function.update s.stack t fs }

@[simp] lemma setStack_shared (s : State T) (t : T) (fs : List Frame) :
    (s.setStack t fs).shared = s.shared :=
  rfl

@[simp] lemma setStack_stack_self (s : State T) (t : T) (fs : List Frame) :
    (s.setStack t fs).stack t = fs :=
  Function.update_self _ _ _

/-- Setting a stack leaves those of the other threads alone. -/
lemma setStack_stack_of_ne (s : State T) {t t' : T} (h : t' ≠ t) (fs : List Frame) :
    (s.setStack t fs).stack t' = s.stack t' :=
  Function.update_of_ne h _ _

end State

/-- One step of the system. -/
def next (s : State T) : Label T → Option (State T)
  | .bind t active =>
    if s.free t then
      match s.shared.bindDriver active with
      | (sh, none) => some { s with shared := sh }
      | (sh, some _) => some ({ s with shared := sh }.setStack t (.enter .wake :: s.stack t))
    else none
  | .call t c => if s.free t then some (s.setStack t (.enter c :: s.stack t)) else none
  | .unregister t g =>
    if s.free t then some (s.setStack t (.unregister g :: s.stack t)) else none
  | .defer t =>
    if s.free t then some { s with deferral := Function.update s.deferral t (s.deferral t + 1) }
    else none
  | .undefer t =>
    if s.free t then some { s with deferral := Function.update s.deferral t (s.deferral t - 1) }
    else none
  | .run t skip o =>
    match s.stack t with
    | [] => none
    | f :: below =>
      (f.advance s.shared t below (0 < s.deferral t) skip o).map fun r =>
        { s with shared := r.1 }.setStack t (r.2.toList ++ below)

/-- The transition system of the driver slot. -/
def system (T : Type*) [DecidableEq T] : System (State T) (Label T) where
  start s := s = {}
  next := next

end BbtCoroutine.Driver
