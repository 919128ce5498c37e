import BbtCoroutine.Transition.System
import Mathlib.Algebra.Order.Field.Rat
import Mathlib.Data.List.Sort

/-!
# A model of the local run queues

Each worker has a `CfsRunQueue`, which orders its entities by their virtual runtime.  The four
operations are critical sections of the queue; `_EnqueueAdmitted` calls `Enqueue`, the worker
loop calls `Pick` and `Account`, and `Steal` and `_DrainLocalToGlobal` call `Take`.

Virtual runtimes are rationals.  A queue is the list of its entities in the order of the
intrusive set; an entity knows by its hook whether it is linked in a set.  `Book` is a record of
the run on which no step depends, except that no coroutine is enqueued anywhere else while a
worker runs it: it is published only after `Account`.
-/

namespace BbtCoroutine.Cfs

open Transition

/-- A `CfsEntity`; `linked` is the state of its hook. -/
structure CfsEntity where
  serviceUs : ℕ := 0
  vruntime : ℚ := 0
  weight : ℕ := 1
  priority : ℤ := 0
  waiting : Bool := false
  linked : Bool := false

/-- The members of a `CfsRunQueue`. -/
structure CfsRunQueue (E : Type*) where
  queue : List E := []
  running : Option E := none
  floor : ℚ := 0

/-- What has happened to an entity: the queue whose worker runs it, the floor of its queue when
it was entered, the virtual time it has been charged for in all, and how far the floors of its
queues have risen in all while it was in them. -/
structure Book (Q : Type*) where
  worker : Option Q := none
  entry : ℚ := 0
  charged : ℚ := 0
  risen : ℚ := 0

/-- The entities `E` and the queues `Q`. -/
structure State (E Q : Type*) where
  entity : E → CfsEntity := fun _ => {}
  queue : Q → CfsRunQueue E := fun _ => {}
  book : E → Book Q := fun _ => {}

/-- The largest `uint64_t`. -/
def uint64Max : ℕ := 2 ^ 64 - 1

variable {E Q : Type*} [DecidableEq E] [DecidableEq Q]

namespace State

/-- The queue `q` becomes `x`, the entity `e` becomes `y`, and its book `b`. -/
def set (s : State E Q) (q : Q) (x : CfsRunQueue E) (e : E) (y : CfsEntity) (b : Book Q) :
    State E Q where
  entity := Function.update s.entity e y
  queue := Function.update s.queue q x
  book := Function.update s.book e b

/-- Where `upper_bound` puts the entity `e` with the virtual runtime `v`. -/
def insertUpper (s : State E Q) (e : E) (v : ℚ) (l : List E) : List E :=
  l.orderedInsert (fun _ j => v < (s.entity j).vruntime) e

/-- The virtual runtime that `Enqueue` gives to an entity. -/
def entryVruntime (floor : ℚ) (y : CfsEntity) : ℚ :=
  floor + if y.waiting then max 0 y.vruntime else y.vruntime

/-- `Enqueue`, and whether it succeeds. -/
def enqueue (s : State E Q) (q : Q) (e : E) (priority : ℤ) (weight : ℕ) : State E Q × Bool :=
  let x := s.queue q
  let y := s.entity e
  if y.linked ∨ x.running = some e then (s, false)
  else
    let v := entryVruntime x.floor y
    (s.set q { x with queue := s.insertUpper e v x.queue } e
      { y with
        vruntime := v
        priority := priority
        weight := max 1 weight
        waiting := false
        linked := true }
      { s.book e with entry := x.floor }, true)

/-- `Pick`, and the entity that it returns. -/
def pick (s : State E Q) (q : Q) : State E Q × Option E :=
  let x := s.queue q
  match x.running, x.queue with
  | none, e :: l =>
    (s.set q { x with queue := l, running := some e } e { s.entity e with linked := false }
      { s.book e with worker := some q }, some e)
  | _, _ => (s, none)

/-- The virtual time of a run. -/
def charge (weight elapsedUs : ℕ) : ℚ :=
  (max 1 elapsedUs : ℕ) / weight

/-- `m_serviceUs` after a run. -/
def service (serviceUs elapsedUs : ℕ) : ℕ :=
  serviceUs + min (max 1 elapsedUs) (uint64Max - serviceUs)

/-- The floor that `Account` sets for an entity with the virtual runtime `v`. -/
def floorAfter (s : State E Q) (x : CfsRunQueue E) (v : ℚ) : ℚ :=
  max x.floor
    (match x.queue with
    | [] => v
    | j :: _ => min v (s.entity j).vruntime)

/-- `Account`; it terminates the program if the entity does not run. -/
def account (s : State E Q) (q : Q) (e : E) (elapsedUs : ℕ) (waiting : Bool) :
    Option (State E Q) :=
  let x := s.queue q
  let y := s.entity e
  if x.running = some e then
    let v := y.vruntime + charge y.weight elapsedUs
    let floor := s.floorAfter x v
    some (s.set q { x with running := none, floor := floor } e
      { y with
        serviceUs := service y.serviceUs elapsedUs
        vruntime := v - floor
        waiting := waiting }
      { s.book e with
        worker := none
        charged := (s.book e).charged + charge y.weight elapsedUs
        risen := (s.book e).risen + (floor - (s.book e).entry) })
  else none

/-- `Take`, and the entity that it returns. -/
def take (s : State E Q) (q : Q) : State E Q × Option E :=
  let x := s.queue q
  match x.queue with
  | [] => (s, none)
  | e :: l =>
    (s.set q { x with queue := l } e
      { s.entity e with
        vruntime := (s.entity e).vruntime - x.floor
        linked := false }
      { s.book e with risen := (s.book e).risen + (x.floor - (s.book e).entry) }, some e)

end State

/-- The calls. -/
inductive Label (E Q : Type*)
  | enqueue (q : Q) (e : E) (priority : ℤ) (weight : ℕ)
  | pick (q : Q)
  | account (q : Q) (e : E) (elapsedUs : ℕ) (waiting : Bool)
  | take (q : Q)

/-- One call. -/
def next (s : State E Q) : Label E Q → Option (State E Q)
  | .enqueue q e priority weight =>
    match (s.book e).worker with
    | some p => if p = q then some (s.enqueue q e priority weight).1 else none
    | none => some (s.enqueue q e priority weight).1
  | .pick q => some (s.pick q).1
  | .account q e elapsedUs waiting => s.account q e elapsedUs waiting
  | .take q => some (s.take q).1

/-- The transition system of the run queues. -/
def system (E Q : Type*) [DecidableEq E] [DecidableEq Q] : System (State E Q) (Label E Q) where
  start s := s = {}
  next := next

end BbtCoroutine.Cfs
