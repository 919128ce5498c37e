import BbtCoroutine.Driver.Model
import BbtCoroutine.Transition.WaitFor

/-!
# A model of the drivers of all processers

Every processer has the driver slot of `Driver.Model`, and the threads are shared: a callback
of one driver may call into the driver of another processer, so the frames of a thread
belong to several processers.  A step of a frame is the step of its own slot; of the outer
frames that step sees only those of the same processer, because a lease is compared by its
binding.  On top of the slots are the tests of `Scheduler::UnregisterProcesserDriver`.

A coroutine is resumed and suspended by the loop of its worker only, outside all callbacks.
-/

namespace BbtCoroutine.ProcesserDrivers

open Transition Driver

variable {T P : Type*}

/-- The state of the system. -/
structure State (T P : Type*) where
  processer : P → Shared T := fun _ => {}
  /-- Whether `m_processer_map` has the processer. -/
  processerMap : P → Bool := fun _ => false
  /-- The frames of a thread with their processers, the innermost first. -/
  stack : T → List (P × Frame) := fun _ => []
  /-- The depth of the `DriverWakeDeferral` of a thread. -/
  deferral : T → ℕ := fun _ => 0
  /-- Whether the thread runs a coroutine. -/
  coroutine : T → Bool := fun _ => false

/-- The steps of the system. -/
inductive Label (T P : Type*)
  /-- A worker is added, with its processer. -/
  | add (p : P)
  /-- The processer retires; one that has a driver is not picked. -/
  | retire (p : P)
  /-- `RegisterProcesserDriver`, whose wake follows. -/
  | bind (t : T) (p : P) (active : Bool)
  | call (t : T) (p : P) (c : Callback)
  /-- `UnregisterProcesserDriver` with the token of the processer and the generation. -/
  | unregister (t : T) (p : P) (g : ℕ)
  | resume (t : T)
  | suspend (t : T)
  | defer (t : T)
  | undefer (t : T)
  | run (t : T) (skip : Bool) (o : Outcome)

/-- The frames that belong to the processer `p`. -/
def own [DecidableEq P] (p : P) (fs : List (P × Frame)) : List Frame :=
  (fs.filter fun f => f.1 = p).map Prod.snd

namespace State

variable (s : State T P)

/-- The binding of a processer and a generation. -/
def binding (k : P × ℕ) : Binding T :=
  (s.processer k.1).binding k.2

/-- The thread runs user code, or none of the modelled calls. -/
def free (t : T) : Bool :=
  (s.stack t).head?.all fun f => f.2.user

/-- The frames of `t` become `fs`. -/
def setStack [DecidableEq T] (t : T) (fs : List (P × Frame)) : State T P :=
  { s with stack := Function.update s.stack t fs }

/-- The slot of the processer `p` becomes `sh`. -/
def setProcesser [DecidableEq P] (p : P) (sh : Shared T) : State T P :=
  { s with processer := Function.update s.processer p sh }

@[simp] lemma setProcesser_stack [DecidableEq P] (p : P) (sh : Shared T) :
    (s.setProcesser p sh).stack = s.stack :=
  rfl

@[simp] lemma setProcesser_processer_self [DecidableEq P] (p : P) (sh : Shared T) :
    (s.setProcesser p sh).processer p = sh :=
  Function.update_self _ _ _

/-- Setting a worker leaves the others alone. -/
lemma setProcesser_processer_of_ne [DecidableEq P] {p q : P} (h : p ≠ q) (sh : Shared T) :
    (s.setProcesser q sh).processer p = s.processer p :=
  Function.update_of_ne h _ _

/-- The thread may call `c` of the driver of `p`: the worker of `p` ticks and waits between the
coroutines, and anybody may wake. -/
def mayCall [DecidableEq P] (localProcesser : T → Option P) (t : T) (p : P) (c : Callback) :
    Bool :=
  c = .wake ∨ (localProcesser t = some p ∧ s.stack t = [] ∧ s.coroutine t = false)

/-- `Scheduler::UnregisterProcesserDriver` answers `SelfDetach` before it looks for the
processer. -/
def selfDetach [DecidableEq P] (localProcesser : T → Option P) (t : T) (p : P) : Bool :=
  s.coroutine t = true ∨ localProcesser t = some p

/-- The thread holds a lease of the binding. -/
def Holds (t : T) (k : P × ℕ) : Prop :=
  ∃ f, (k.1, f) ∈ s.stack t ∧ f.counted = some k.2

/-- The next step of the thread is that `_UnregisterDriver` finds nothing to reject. -/
def Begins (t : T) (k : P × ℕ) : Prop :=
  (∃ below, s.stack t = (k.1, .unregister k.2) :: below) ∧
    (s.processer k.1).driverBinding = some k.2 ∧ s.deferral t = 0 ∧ ¬ s.Holds t k

/-- The thread is blocked in `_UnregisterDriver` until the leases of the binding are released: as
the leader it waits for the leases, as a joiner for the leader. -/
def Blocked (t : T) (k : P × ℕ) : Prop :=
  (∃ below, s.stack t = (k.1, .drain k.2) :: below ∧ (s.binding k).inflight ≠ 0) ∨
    ∃ below, s.stack t = (k.1, .join k.2) :: below ∧ (s.binding k).detached = false

end State

variable [DecidableEq T] [DecidableEq P] (localProcesser : T → Option P)

/-- One step of the system; `localProcesser` is the processer of the thread, if it is a worker. -/
def next (s : State T P) : Label T P → Option (State T P)
  | .add p => some { s with processerMap := Function.update s.processerMap p true }
  | .retire p =>
    if (s.processer p).driverBinding = none then
      some { s with processerMap := Function.update s.processerMap p false }
    else none
  | .bind t p active =>
    if s.free t then
      if s.processerMap p then
        match (s.processer p).bindDriver active with
        | (sh, none) => some (s.setProcesser p sh)
        | (sh, some _) => some ((s.setProcesser p sh).setStack t ((p, .enter .wake) :: s.stack t))
      else some s
    else none
  | .call t p c =>
    if s.free t ∧ s.mayCall localProcesser t p c then
      some (s.setStack t ((p, .enter c) :: s.stack t))
    else none
  | .unregister t p g =>
    if s.free t then
      if s.selfDetach localProcesser t p then some s
      else if s.processerMap p = false then some s
      else some (s.setStack t ((p, .unregister g) :: s.stack t))
    else none
  | .resume t =>
    if s.stack t = [] ∧ localProcesser t ≠ none then
      some { s with coroutine := Function.update s.coroutine t true }
    else none
  | .suspend t =>
    if s.stack t = [] then some { s with coroutine := Function.update s.coroutine t false }
    else none
  | .defer t =>
    if s.free t then some { s with deferral := Function.update s.deferral t (s.deferral t + 1) }
    else none
  | .undefer t =>
    if s.free t then some { s with deferral := Function.update s.deferral t (s.deferral t - 1) }
    else none
  | .run t skip o =>
    match s.stack t with
    | [] => none
    | (p, f) :: below =>
      (f.advance (s.processer p) t (own p below) (0 < s.deferral t) skip o).map fun r =>
        (s.setProcesser p r.1).setStack t (r.2.toList.map (Prod.mk p) ++ below)

/-- The transition system of the drivers. -/
def system : System (State T P) (Label T P) where
  start s := s = {}
  next := next localProcesser

/-- A detachment that is not rejected and that begins inside callbacks of other bindings is one of a
binding above theirs. -/
def Nests (r : P × ℕ → P × ℕ → Prop) (s : State T P) (l : Label T P) : Prop :=
  ∀ t skip o k, l = .run t skip o → s.Begins t k → ∀ k', s.Holds t k' → r k' k

end BbtCoroutine.ProcesserDrivers
