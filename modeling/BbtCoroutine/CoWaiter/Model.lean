import BbtCoroutine.Coroutine.Model
import BbtCoroutine.Sync.CoWaiter

/-!
# A model of one `CoWaiter`

Any number of calls wait on one waiter, one after the other or at once, or notify it.  A wait
has a round of its own, the event that it makes, so the events are named by the calls.  What a
call does between two accesses to `m_notify_mutex` or to an event is one step; a call that
holds the mutex keeps it from the others over several steps.  Timers, fds, cancellations and
closes trigger the events at any time and without the mutex.

A payload is a value of `V`, whose default is the empty `CoEventValue`.
-/

namespace BbtCoroutine.CoWaiter

open Transition Coroutine

/-! ## Calls -/

/-- The forms of a wait. -/
inductive Form
  | wait
  | waitWithCallback
  | waitWithTimeout
  | waitWithTimeoutAndCallback
  | options
  | combined
  deriving DecidableEq

/-- The form reports a `WaitStatus` or a `CombinedWaitStatus`. -/
def Form.reportsStatus : Form → Bool
  | .options | .combined => true
  | _ => false

/-- `WaitStatus` and `CombinedWaitStatus`. -/
inductive Status
  | completed
  | timedOut
  | cancelled
  | alreadyWaiting
  | invalidContext
  | invalidOptions
  | runtimeUnavailable
  | fdReadable
  | fdWriteable
  deriving DecidableEq

/-- What a wait returns: a number, or a status with the payload it has written, if it has
written one; or it throws. -/
inductive Result (V : Type*)
  | ret (n : ℤ)
  | status (st : Status) (value : Option V)
  | threw
  deriving DecidableEq

/-- Why an event is triggered other than by a `Notify`. -/
inductive Cause
  | timeout
  | readable
  | writeable
  | closed
  | cancelled
  deriving DecidableEq

/-- The mask of such a trigger. -/
def Cause.mask : Cause → EventMask
  | timeout => optTimeout
  | readable => optReadable
  | writeable => optWriteable
  | closed => pollEventClosed
  | cancelled => pollEventCancelled

/-- How far a call has got.  The notifications name the round `e` they are for; `v` is the
payload of `Notify(value)` and `none` for `Notify()`. -/
inductive Frame (ι V : Type*)
  | idle
  | wait (f : Form)
  | create (f : Form)
  | publish (f : Form)
  | yield (f : Form)
  | threw (f : Form)
  | regist (f : Form)
  | commit (f : Form)
  | parked (f : Form)
  | resumed (f : Form) (ok : Bool) (m : EventMask)
  | returned (f : Form) (r : Result V)
  | notify (v : Option V)
  | notifyValue (e : ι) (v : Option V)
  | notifyStatus (e : ι) (v : Option V)
  | notifyTrigger (e : ι) (v : Option V)
  | notifyUnlock (e : ι) (v : Option V) (won : Bool)
  | notified (e : Option ι) (v : Option V) (ret : ℤ)
  deriving DecidableEq

/-- The answers that a step may need from its surroundings. -/
structure Answer where
  invalidContext : Bool := false
  invalidOptions : Bool := false
  cancelRequested : Bool := false
  /-- The clock has reached the deadline. -/
  expired : Bool := false
  /-- `RegistCustom` and `InitFdEvent` succeed. -/
  created : Bool := true
  /-- Storing the callback of the yield throws. -/
  throws : Bool := false
  /-- The registration of the event fails, unless the event is won. -/
  registFails : Bool := false

/-! ## State -/

/-- The members of a `CoPollEvent` that the waiter uses. -/
structure Event (V : Type*) where
  made : Bool := false
  round : Round := .inited
  notifyValue : V

variable {ι V : Type*}

/-- What all calls share. -/
structure Shared (ι V : Type*) where
  /-- The call that holds `m_notify_mutex`. -/
  notifyMutex : Option ι := none
  coEvent : Option ι := none
  runStatus : CoCondStatus := .condDefault
  event : ι → Event V

/-- The state of a waiter under the calls `ι`. -/
structure State (ι V : Type*) where
  shared : Shared ι V
  call : ι → Frame ι V

variable [DecidableEq ι] [Inhabited V]

namespace Shared

/-- The round of an event becomes `r`. -/
def setRound (sh : Shared ι V) (e : ι) (r : Round) : Shared ι V :=
  { sh with event := Function.update sh.event e { sh.event e with round := r } }

/-- `RegistCustom` makes the event of a wait. -/
def make (sh : Shared ι V) (i : ι) : Shared ι V :=
  { sh with event := Function.update sh.event i { made := true, notifyValue := default } }

/-- `SetNotifyValue`. -/
def setNotifyValue (sh : Shared ι V) (e : ι) (v : V) : Shared ι V :=
  { sh with event := Function.update sh.event e { sh.event e with notifyValue := v } }

/-- The clean-up after a wait: only the registration of this wait is undone. -/
def unbind (sh : Shared ι V) (i : ι) : Shared ι V :=
  if sh.coEvent = some i then { sh with coEvent := none, runStatus := .condFree } else sh

end Shared

/-- `IsFinal`. -/
def isFinal : Round → Bool
  | .final _ | .cancelled => true
  | _ => false

/-! ## Results -/

/-- The status of a wait that was resumed with the mask `m`. -/
def Form.resolve (f : Form) (m : EventMask) : Status :=
  if m &&& pollEventCancelled ≠ 0 then .cancelled
  else if m &&& pollEventTimeout ≠ 0 then .timedOut
  else if m &&& pollEventCustom ≠ 0 then .completed
  else if f = .combined ∧ m &&& pollEventReadable ≠ 0 then .fdReadable
  else if f = .combined ∧ m &&& pollEventWriteable ≠ 0 then .fdWriteable
  else .cancelled

/-- What a wait returns at its end; `ok` says that it was suspended. -/
def Form.result (f : Form) (ok : Bool) (m : EventMask) (value : V) : Result V :=
  match f with
  | wait => .ret 0
  | waitWithCallback => .ret (if ok then 0 else -1)
  | waitWithTimeout | waitWithTimeoutAndCallback =>
    .ret (if ok then if m &&& (pollEventTimeout ||| pollEventCancelled) ≠ 0 then 1 else 0
      else -1)
  | options | combined =>
    .status (if ok then f.resolve m else .runtimeUnavailable)
      (some (if ok ∧ m &&& pollEventCustom ≠ 0 then value else default))

/-- What a wait returns that is refused with the status `st`. -/
def Form.refuse (f : Form) (st : Status) : Result V :=
  if f.reportsStatus then .status st none else .ret (-1)

/-! ## Steps -/

/-- The checks at the entry of a wait, under the mutex.  Only the forms that report a status
look at the cancel flag and the deadline and take the slot of a round that is final. -/
def enter (sh : Shared ι V) (i : ι) (a : Answer) (f : Form) : Shared ι V × Frame ι V :=
  if f.reportsStatus ∧ a.cancelRequested then (sh, .returned f (f.refuse .cancelled))
  else if f.reportsStatus ∧ a.expired then (sh, .returned f (f.refuse .timedOut))
  else
    match sh.coEvent with
    | none => ({ sh with notifyMutex := some i }, .create f)
    | some e =>
      if f.reportsStatus ∧ isFinal (sh.event e).round then
        ({ sh with notifyMutex := some i, coEvent := none, runStatus := .condFree }, .create f)
      else (sh, .returned f (f.refuse .alreadyWaiting))

/-- The event of a wait is made, under the mutex.  The combined form looks at the clock once
more. -/
def create (sh : Shared ι V) (i : ι) (a : Answer) (f : Form) : Shared ι V × Frame ι V :=
  if f = .combined ∧ a.expired then
    ({ sh with notifyMutex := none }, .returned f (f.refuse .timedOut))
  else if a.created then (sh.make i, .publish f)
  else ({ sh with notifyMutex := none }, .returned f (f.refuse .runtimeUnavailable))

/-- `_RegistAwaitEvent`. -/
def regist (sh : Shared ι V) (i : ι) (a : Answer) (f : Form) : Shared ι V × Frame ι V :=
  let r := if a.registFails then (sh.event i).round.unRegist else (sh.event i).round.regist
  (sh.setRound i r, if isFinal r then .resumed f false 0 else .commit f)

/-- The check of `Notify`, under the mutex. -/
def notify (sh : Shared ι V) (i : ι) (v : Option V) : Shared ι V × Frame ι V :=
  match sh.coEvent, sh.runStatus with
  | some e, .condWait => ({ sh with notifyMutex := some i }, .notifyValue e v)
  | _, _ => (sh, .notified none v (-1))

/-- The next step of the call `i`. -/
def Frame.step (sh : Shared ι V) (i : ι) (a : Answer) :
    Frame ι V → Option (Shared ι V × Frame ι V)
  | idle | returned _ _ | notified _ _ _ => none
  | wait f =>
    if f.reportsStatus ∧ a.invalidContext then some (sh, returned f (f.refuse .invalidContext))
    else if f = .combined ∧ a.invalidOptions then
      some (sh, returned f (f.refuse .invalidOptions))
    else if sh.notifyMutex = none then some (enter sh i a f)
    else none
  | create f => some (CoWaiter.create sh i a f)
  | publish f =>
    some ({ sh with notifyMutex := none, coEvent := some i, runStatus := .condWait }, yield f)
  | yield f => some (sh, if a.throws then threw f else regist f)
  | threw f => if sh.notifyMutex = none then some (sh.unbind i, returned f .threw) else none
  | regist f => some (CoWaiter.regist sh i a f)
  | commit f => some (sh.setRound i (sh.event i).round.commitPark, parked f)
  | parked f =>
    match (sh.event i).round with
    | .final m => some (sh, resumed f true (normalizeTriggerEvent m))
    | _ => none
  | resumed f ok m =>
    if sh.notifyMutex = none then
      some (sh.unbind i, returned f (f.result ok m (sh.event i).notifyValue))
    else none
  | notify v => if sh.notifyMutex = none then some (CoWaiter.notify sh i v) else none
  | notifyValue e v =>
    some ((v.map (sh.setNotifyValue e)).getD sh, notifyStatus e v)
  | notifyStatus e v => some ({ sh with runStatus := .condActive }, notifyTrigger e v)
  | notifyTrigger e v =>
    some (sh.setRound e ((sh.event e).round.trigger pollEventCustom),
      notifyUnlock e v (sh.event e).round.undecided)
  | notifyUnlock e v won =>
    some ({ sh with notifyMutex := none }, notified (some e) v (if won then 0 else -1))

/-- The steps of a waiter under the calls `ι`. -/
inductive Label (ι V : Type*)
  | wait (i : ι) (f : Form)
  | notify (i : ι) (v : Option V)
  | advance (i : ι) (a : Answer)
  /-- A timer, an fd, a close or a cancellation triggers the event of a wait. -/
  | trigger (e : ι) (c : Cause)
  /-- `CoWaiter::Cancel`. -/
  | cancel

/-- One step of a waiter under the calls `ι`. -/
def next (s : State ι V) : Label ι V → Option (State ι V)
  | .wait i f =>
    match s.call i with
    | .idle => some { s with call := Function.update s.call i (.wait f) }
    | _ => none
  | .notify i v =>
    match s.call i with
    | .idle => some { s with call := Function.update s.call i (.notify v) }
    | _ => none
  | .advance i a =>
    ((s.call i).step s.shared i a).map fun r => ⟨r.1, Function.update s.call i r.2⟩
  | .trigger e c =>
    if (s.shared.event e).made then
      some { s with
        shared := s.shared.setRound e ((s.shared.event e).round.trigger c.mask) }
    else none
  | .cancel => some { s with shared := { s.shared with runStatus := .condFree } }

/-- A waiter on which no call has been made. -/
def init : State ι V := ⟨{ event := fun _ => { notifyValue := default } }, fun _ => .idle⟩

/-- The transition system of a waiter under the calls `ι`. -/
def system (ι V : Type*) [DecidableEq ι] [Inhabited V] : System (State ι V) (Label ι V) where
  start s := s = init
  next := next

end BbtCoroutine.CoWaiter
