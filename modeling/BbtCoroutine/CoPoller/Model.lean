import BbtCoroutine.Transition.System
import Mathlib.Data.Nat.Notation
import Mathlib.Logic.Function.Basic

/-!
# A model of the references to an `Event` of the poller

An `Event` is held by the object that created it (`m_event` of a `CoPollEvent` or
`m_pollevent` of an `_EventHelper`), then by the thread that hands it over in
`DeferDestroyEvent`, by the list of deferred events, and by the local vector in which the
driver drops it; a handler holds it while the driver runs the callback.  Whoever drops the
last reference destroys the event.  What the threads do between two accesses to a reference
is one step.

`_CannelAllFdEvent` is called by `_Complete`, by `UnRegist`, by a `Regist` that fails and by
the destructor of the `CoPollEvent`, so any thread may call it at any time.

`destroyed` and `due` are a record of the run: who has destroyed the event, and the events
that were deferred when the present poll step began.  No step depends on them.
-/

namespace BbtCoroutine.CoPoller

open Transition

variable {T E : Type*}

/-- What creates an event. -/
inductive Owner
  | coPollEvent
  | eventHelper
  deriving DecidableEq

/-- The destruction of an event: by which thread, and whether that thread was in the dispatch of
the loop. -/
structure Destruction (T : Type*) where
  thread : T
  inDispatch : Bool
  deriving DecidableEq

/-- What is known of an event besides the lists of the poller. -/
structure Event (T : Type*) where
  created : Bool := false
  kind : Owner := .coPollEvent
  /-- The pointer of the owner holds the event. -/
  owner : Bool := false
  /-- The thread that is in `DeferDestroyEvent` with the reference of the owner. -/
  hand : Option T := none
  /-- The tasks of an `_EventHelper` that have not ended. -/
  tasks : ℕ := 0
  destroyed : List (Destruction T) := []

/-- The stages of a poll step. -/
inductive Stage
  /-- No poll step. -/
  | idle
  /-- In `_BeginDrive`, before the list of deferred events is taken. -/
  | began
  /-- In `_BeginDrive`, while the events that were taken are dropped. -/
  | releasing
  /-- `m_in_poll` is set. -/
  | polling
  deriving DecidableEq

/-- The state of the system. -/
structure State (T E : Type*) where
  event : E → Event T := fun _ => {}
  /-- `m_deferred_destroy`. -/
  deferredDestroy : List E := []
  /-- What the driver has taken from that list and not dropped yet. -/
  taken : List E := []
  /-- `m_driver_tid`. -/
  driverTid : Option T := none
  stage : Stage := .idle
  /-- The event whose handler runs. -/
  handler : Option E := none
  drainOffDriverCnt : ℕ := 0
  drainInPollCnt : ℕ := 0
  due : List E := []

/-- The steps of the system. -/
inductive Label (T E : Type*)
  /-- `CreateEvent`. -/
  | create (e : E) (kind : Owner)
  /-- `_CannelAllFdEvent` takes the event from its `CoPollEvent`. -/
  | cannel (t : T) (e : E)
  /-- `DeferDestroyEvent` under the lock; `oom` says that both `push_back` fail. -/
  | deferDestroy (t : T) (e : E) (oom : Bool)
  /-- `PollOnce` or `PollOnceUntil` is called. -/
  | beginDrive (t : T)
  | take
  | drop (e : E)
  /-- The `InPollGuard` is built. -/
  | poll
  /-- A handler of the event runs, and its weak pointer can be locked. -/
  | handle (e : E)
  /-- The callback of an `_EventHelper` hands its task over. -/
  | submit
  /-- The handler returns. -/
  | leave
  /-- The poll step returns. -/
  | endPoll
  | flush (t : T)
  /-- The task of an `_EventHelper` sets `m_pollevent` to null. -/
  | reset (t : T) (e : E)

namespace State

/-- The event `e` becomes `v`. -/
def setEvent [DecidableEq E] (s : State T E) (e : E) (v : Event T) : State T E :=
  { s with event := Function.update s.event e v }

/-- The references to the event apart from that of a handler. -/
def held [DecidableEq E] (s : State T E) (e : E) : ℕ :=
  (s.event e).owner.toNat + (s.event e).hand.isSome.toNat + s.deferredDestroy.count e +
    s.taken.count e

/-- The thread drops a reference to the event; the last one destroys it. -/
def release [DecidableEq T] [DecidableEq E] (s : State T E) (t : T) (e : E) : State T E :=
  if s.held e = 0 ∧ s.handler ≠ some e then
    let v := s.event e
    s.setEvent e { v with destroyed := v.destroyed ++
      [⟨t, s.driverTid = some t ∧ s.stage = .polling⟩] }
  else s

/-- `FlushDeferredEvents`. -/
def flushDeferredEvents [DecidableEq T] (s : State T E) (t : T) : State T E :=
  if s.driverTid ≠ some t then { s with drainOffDriverCnt := s.drainOffDriverCnt + 1 }
  else if s.stage = .polling then { s with drainInPollCnt := s.drainInPollCnt + 1 }
  else { s with deferredDestroy := [], taken := s.taken ++ s.deferredDestroy }

end State

variable [DecidableEq T] [DecidableEq E]

/-- One step of the system. -/
def next (s : State T E) : Label T E → Option (State T E)
  | .create e kind =>
    if (s.event e).created = false then
      some (s.setEvent e { created := true, kind := kind, owner := true })
    else none
  | .cannel t e =>
    let v := s.event e
    if v.kind = .coPollEvent then
      if v.owner then some (s.setEvent e { v with owner := false, hand := some t })
      else some s
    else none
  | .deferDestroy t e oom =>
    let v := s.event e
    if v.hand = some t then
      let s := s.setEvent e { v with hand := none }
      if oom then some (s.release t e)
      else some { s with deferredDestroy := s.deferredDestroy ++ [e] }
    else none
  | .beginDrive t =>
    if s.stage = .idle ∧ s.taken = [] ∧ (s.driverTid = none ∨ s.driverTid = some t) then
      some { s with driverTid := some t, stage := .began, due := s.deferredDestroy }
    else none
  | .take =>
    if s.stage = .began then
      some { s with
        deferredDestroy := [], taken := s.taken ++ s.deferredDestroy, stage := .releasing }
    else none
  | .drop e =>
    if e ∈ s.taken then
      s.driverTid.map fun d => { s with taken := s.taken.erase e }.release d e
    else none
  | .poll =>
    if s.stage = .releasing ∧ s.taken = [] then some { s with stage := .polling } else none
  | .handle e =>
    if s.stage = .polling ∧ s.handler = none ∧ s.held e ≠ 0 then
      some { s with handler := some e }
    else none
  | .submit =>
    s.handler.bind fun e =>
      let v := s.event e
      if v.kind = .eventHelper then some (s.setEvent e { v with tasks := v.tasks + 1 }) else none
  | .leave =>
    s.handler.bind fun e => s.driverTid.map fun d => { s with handler := none }.release d e
  | .endPoll =>
    if s.stage = .polling ∧ s.handler = none then some { s with stage := .idle } else none
  | .flush t => if s.stage = .began then none else some (s.flushDeferredEvents t)
  | .reset t e =>
    let v := s.event e
    if v.tasks ≠ 0 then
      let s := s.setEvent e { v with tasks := v.tasks - 1, owner := false }
      if v.owner then some (s.release t e) else some s
    else none

/-- The transition system of the poller and its events. -/
def system (T E : Type*) [DecidableEq T] [DecidableEq E] : System (State T E) (Label T E) where
  start s := s = {}
  next := next

/-- The step is not the line of an `_EventHelper` task that gives the event up, and no thread but
the driver outside the dispatch drops an event because it cannot be deferred. -/
def Proper (s : State T E) : Label T E → Prop
  | .reset _ e => (s.event e).owner = false
  | .deferDestroy t _ oom => oom = true → s.driverTid = some t ∧ s.stage ≠ .polling
  | _ => True

/-- Whether a step is proper can be computed. -/
instance Proper.instDecidable (s : State T E) (l : Label T E) : Decidable (Proper s l) :=
  match l with
  | .reset _ e => inferInstanceAs (Decidable ((s.event e).owner = false))
  | .deferDestroy t _ oom =>
    inferInstanceAs (Decidable (oom = true → s.driverTid = some t ∧ s.stage ≠ .polling))
  | .create _ _ | .cannel _ _ | .beginDrive _ | .take | .drop _ | .poll | .handle _ | .submit
  | .leave | .endPoll | .flush _ => isTrue trivial

end BbtCoroutine.CoPoller
