import BbtCoroutine.Coroutine.Model
import BbtCoroutine.FdTable.Slots

/-!
# A model of the waits for descriptors

Coroutines wait for descriptors, each time on a fresh event, while others close the same
numbers, trigger and unregister any event and request cancellations.  A coroutine, or the worker
that runs it, moves at each access to its event, to the table of the descriptors and to
`m_cancel_requested`; the thread that completes an event and the calls of `BeginFdClose` move
likewise.

`closes` counts the calls of `BeginFdClose` that have claimed a number, and `sampled`, the number
of a claim and `wait` are a record of the run: no step depends on them.
-/

namespace BbtCoroutine.FdWait

open Transition
open Coroutine (normalizeTriggerEvent)

/-! ## Events -/

/-- The steps of a wait. -/
inductive Step
  | initFd
  | initSample
  | initClosed
  | initCreate
  | yield
  | registCancel
  | regist
  | registFailed
  /-- The wait has failed, and `m_await_event` is about to be cleared. -/
  | failed
  | trackWaiter
  | registClosed
  | commitPark
  | suspended
  deriving DecidableEq

/-- What the thread that has decided an event still does with it: `_Complete` takes it out of
the table and calls the callback, `UnRegist` only takes it out. -/
inductive Stage
  | none
  | untrack
  | callback
  | called
  | unRegist
  | unRegisted
  deriving DecidableEq

/-- A thread works on the event. -/
def Stage.busy : Stage → Bool
  | untrack | callback | unRegist => true
  | _ => false

/-- A `CoPollEvent` that waits for the number `fd`. -/
structure Event (Co : Type*) where
  owner : Co
  fd : ℤ
  waitEpoch : ℕ := 0
  /-- `m_event` is not null. -/
  event : Bool := false
  round : Round := .inited
  stage : Stage := .none
  /-- The object has been destroyed. -/
  expired : Bool := false
  /-- How often the number had been claimed when the epoch was sampled, and whether it was being
  closed. -/
  sampled : Option (ℕ × Bool) := none
  deriving DecidableEq

namespace Event

variable {Co κ : Type*}

/-- `Trigger`. -/
def trigger (e : Event Co) (m : EventMask) : Event Co :=
  if m = 0 then e
  else
    { e with
      round := e.round.trigger m
      stage := if e.round = .parked then .untrack else e.stage }

/-- `UnRegist`. -/
def unRegist (e : Event Co) : Event Co :=
  if e.round.undecided then
    { e with
      round := .cancelled
      stage := .unRegist }
  else e

/-- `CommitPark`. -/
def commitPark (e : Event Co) : Event Co :=
  { e with
    round := e.round.commitPark
    stage := match e.round with
      | .pending _ => .untrack
      | _ => e.stage }

/-- `_UntrackWaiter` of the event `k`. -/
def untrack [DecidableEq κ] (e : Event Co) (k : κ) (t : FdSlots κ) (expired : κ → Bool) :
    FdSlots κ :=
  if e.fd < 0 then t else t.untrackWaiter expired k e.fd

/-- The event is armed or parked. -/
def listening (e : Event Co) : Bool :=
  e.round == .armed || e.round == .parked

end Event

/-! ## State -/

/-- What the last callback left in the coroutine; `wait` is its event. -/
structure LastWait (κ : Type*) where
  wait : Option κ := none
  resumeEvent : EventMask := -1
  fd : ℤ := -1
  epoch : ℕ := 0
  deriving DecidableEq

/-- A coroutine: it runs, or it is at a step of the wait on an event, which is then its
`m_await_event`. -/
structure CoState (κ : Type*) where
  pc : Option (Step × κ) := none
  cancelRequested : Bool := false
  last : LastWait κ := {}
  deriving DecidableEq

/-- The step at which the coroutine is in its wait on the event `k`. -/
def CoState.stepAt {κ : Type*} [DecidableEq κ] (x : CoState κ) (k : κ) : Option Step :=
  x.pc.bind fun y => if y.2 = k then some y.1 else none

/-- How far a call of `BeginFdClose` has got; `n` is the number of the claim. -/
inductive Frame (κ : Type*)
  | idle
  | begin (fd : ℤ)
  | trigger (fd : ℤ) (n : ℕ) (snapshot : List κ)
  | returned (fd : ℤ) (n : ℕ)
  | refused (fd : ℤ)
  | threw (fd : ℤ)
  deriving DecidableEq

/-- The number that a call has claimed, and the number of that claim. -/
def Frame.claim {κ : Type*} : Frame κ → Option (ℤ × ℕ)
  | trigger fd n _ | returned fd n => some (fd, n)
  | _ => none

/-- The answers that a step may need from its surroundings. -/
structure Answer where
  /-- The timeout is negative. -/
  refused : Bool := false
  /-- `CreateEvent` gives up. -/
  createFails : Bool := false
  /-- Storing the callback of the yield throws. -/
  throws : Bool := false
  /-- `StartListen` fails. -/
  listenFails : Bool := false

/-- The calls `ι`, the coroutines `Co`, the events `κ` and the table. -/
structure State (ι Co κ : Type*) where
  slots : FdSlots κ := fun _ => none
  event : κ → Option (Event Co) := fun _ => none
  co : Co → CoState κ := fun _ => {}
  call : ι → Frame κ := fun _ => .idle
  closes : ℤ → ℕ := fun _ => 0

namespace State

variable {ι Co κ : Type*}

/-- The weak references to the event `k` have no object any more. -/
def expired (s : State ι Co κ) (k : κ) : Bool :=
  match s.event k with
  | none => false
  | some e => e.expired

/-- `FdWaitEpochValid` of the coroutine `c`. -/
def fdWaitEpochValid (s : State ι Co κ) (c : Co) (fd : ℤ) : Bool :=
  let last := (s.co c).last
  if last.resumeEvent &&& pollEventClosed ≠ 0 then false
  else if last.fd < 0 ∨ last.fd ≠ fd then true
  else s.slots.fdEpoch fd == last.epoch

variable [DecidableEq κ]

/-- The event `k` becomes `e`. -/
def setEvent (s : State ι Co κ) (k : κ) (e : Event Co) : State ι Co κ :=
  { s with event := Function.update s.event k (some e) }

/-- What a coroutine does at the step `p` of its wait on `k`: the table, the event and the step
that comes next, `none` if the coroutine goes on running. -/
def waitStep (s : State ι Co κ) (cancelRequested : Bool) (k : κ) (e : Event Co) (a : Answer) :
    Step → Option (FdSlots κ × Event Co × Option Step)
  | .initFd =>
    some (s.slots, e, some (if e.round = .inited ∧ !a.refused then
      if 0 ≤ e.fd then .initSample else .initCreate else .failed))
  | .initSample =>
    let (t, epoch, closing) := s.slots.sample e.fd
    some (t, { e with
      waitEpoch := epoch
      sampled := some (s.closes e.fd, closing) },
      some (if closing then .initClosed else .initCreate))
  | .initClosed => some (s.slots, e.trigger pollEventClosed, some .yield)
  | .initCreate =>
    some (if a.createFails then (s.slots, e, some .failed)
      else (s.slots, { e with event := true }, some .yield))
  | .yield => some (s.slots, e, if a.throws then none else some .registCancel)
  | .registCancel =>
    some (s.slots, if cancelRequested then e.trigger pollEventCancelled else e, some .regist)
  | .regist =>
    match e.round with
    | .pending _ => some (s.slots, e, some .commitPark)
    | .inited =>
      some (if e.event ∧ a.listenFails then
        (s.slots, { e with round := .cancelled }, some .registFailed)
      else (s.slots, { e with round := .armed }, some .trackWaiter))
    | _ => some (s.slots, e, some .failed)
  | .registFailed => some (e.untrack k s.slots s.expired, e, some .failed)
  | .failed => some (s.slots, e, none)
  | .trackWaiter =>
    if e.fd < 0 ∨ e.event = false then some (s.slots, e, some .commitPark)
    else
      match s.slots.trackWaiter s.expired k e.fd e.waitEpoch with
      | (t, true) => some (t, e, some .commitPark)
      | (t, false) => some (t, e, some .registClosed)
  | .registClosed => some (s.slots, e.trigger pollEventClosed, some .commitPark)
  | .commitPark => some (s.slots, e.commitPark, some .suspended)
  | .suspended => if e.stage = .called then some (s.slots, e, none) else none

/-- What the thread that has decided the event `k` does next: the table and the event. -/
def complete (s : State ι Co κ) (k : κ) (e : Event Co) : Option (FdSlots κ × Event Co) :=
  match e.stage with
  | .untrack => some (e.untrack k s.slots s.expired, { e with stage := .callback })
  | .callback => some (s.slots, { e with stage := .called })
  | .unRegist => some (e.untrack k s.slots s.expired, { e with stage := .unRegisted })
  | _ => none

/-- `OnCoPollEvent` for the event `k` stores what it was won with. -/
def lastWait (k : κ) (e : Event Co) (last : LastWait κ) : LastWait κ :=
  match e.stage, e.round.won with
  | .callback, some m => ⟨some k, normalizeTriggerEvent m, e.fd, e.waitEpoch⟩
  | _, _ => last

end State

/-- The steps of the coroutines, of the threads that decide events and of the closes. -/
inductive Label (ι Co κ : Type*)
  | wait (c : Co) (k : κ) (fd : ℤ)
  | step (c : Co) (a : Answer)
  | requestCancel (c : Co)
  | trigger (k : κ) (m : EventMask)
  | unRegist (k : κ)
  | complete (k : κ)
  /-- The last reference to the event is dropped. -/
  | release (k : κ)
  | begin (i : ι) (fd : ℤ)
  /-- A step of a call; `fails` says that an allocation fails. -/
  | call (i : ι) (fails : Bool)
  | endFdClose (fd : ℤ)
  | waitFdCloseReady (fd : ℤ)

section

variable {ι Co κ : Type*} [DecidableEq ι] [DecidableEq Co] [DecidableEq κ]

namespace State

/-- The coroutine `c` becomes `x`. -/
def setCo (s : State ι Co κ) (c : Co) (x : CoState κ) : State ι Co κ :=
  { s with co := Function.update s.co c x }

/-- The call `i` becomes `f`. -/
def setCall (s : State ι Co κ) (i : ι) (f : Frame κ) : State ι Co κ :=
  { s with call := Function.update s.call i f }

/-- The table becomes `t`, the event `k` becomes `e` and the coroutine `c` becomes `x`. -/
def move (s : State ι Co κ) (t : FdSlots κ) (k : κ) (e : Event Co) (c : Co) (x : CoState κ) :
    State ι Co κ :=
  ({ s with slots := t }.setEvent k e).setCo c x

/-- The next step of the coroutine `c`. -/
def stepCo (s : State ι Co κ) (c : Co) (a : Answer) : Option (State ι Co κ) :=
  match (s.co c).pc with
  | none => none
  | some (p, k) =>
    (s.event k).bind fun e =>
      (s.waitStep (s.co c).cancelRequested k e a p).map fun r =>
        s.move r.1 k r.2.1 c { s.co c with pc := r.2.2.map fun p => (p, k) }

/-- The call `i` has claimed the number `fd` and is going to trigger the events `ks`. -/
def claim (s : State ι Co κ) (i : ι) (fd : ℤ) (t : FdSlots κ) (ks : List κ) : State ι Co κ :=
  { s with
    slots := t
    closes := Function.update s.closes fd (s.closes fd + 1) }.setCall i
      (.trigger fd (s.closes fd) ks)

/-- The next step of the call `i`. -/
def stepCall (s : State ι Co κ) (i : ι) (fails : Bool) : Option (State ι Co κ) :=
  match s.call i with
  | .begin fd =>
    if fails then if s.slots.beginAllocates fd then some (s.setCall i (.threw fd)) else none
    else
      match s.slots.beginFdClose s.expired fd with
      | (t, none) => some ({ s with slots := t }.setCall i (.refused fd))
      | (t, some ks) => some (s.claim i fd t ks)
  | .trigger fd n (k :: ks) =>
    (s.event k).map fun e =>
      (s.setEvent k (e.trigger pollEventClosed)).setCall i (.trigger fd n ks)
  | .trigger fd n [] => some (s.setCall i (.returned fd n))
  | _ => none

end State

/-- One step of the system. -/
def next (s : State ι Co κ) : Label ι Co κ → Option (State ι Co κ)
  | .wait c k fd =>
    if (s.co c).pc = none ∧ (s.co c).cancelRequested = false ∧ s.event k = none then
      some (s.move s.slots k { owner := c, fd } c { s.co c with pc := some (.initFd, k) })
    else none
  | .step c a => s.stepCo c a
  | .requestCancel c => some (s.setCo c { s.co c with cancelRequested := true })
  | .trigger k m => (s.event k).map fun e => s.setEvent k (e.trigger m)
  | .unRegist k => (s.event k).map fun e => s.setEvent k e.unRegist
  | .complete k =>
    (s.event k).bind fun e =>
      (s.complete k e).map fun r =>
        s.move r.1 k r.2 e.owner
          { s.co e.owner with last := State.lastWait k e (s.co e.owner).last }
  | .release k =>
    (s.event k).bind fun e =>
      if (s.co e.owner).stepAt k = none ∧ e.stage.busy = false then
        some (s.setEvent k { e with expired := true })
      else none
  | .begin i fd => if s.call i = .idle then some (s.setCall i (.begin fd)) else none
  | .call i fails => s.stepCall i fails
  | .endFdClose fd => some { s with slots := s.slots.endFdClose fd }
  | .waitFdCloseReady _ => some s

/-- The transition system of the calls `ι`, the coroutines `Co` and the events `κ`. -/
def system (ι Co κ : Type*) [DecidableEq ι] [DecidableEq Co] [DecidableEq κ] :
    System (State ι Co κ) (Label ι Co κ) where
  start s := s = {}
  next := next

end

end BbtCoroutine.FdWait
