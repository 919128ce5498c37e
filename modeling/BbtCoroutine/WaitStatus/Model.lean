import BbtCoroutine.BoundedWait.Model
import BbtCoroutine.CoWaiter.Model

/-!
# A model of the waits that report a status

One coroutine calls `CoWaiter::Wait` with options or with combined options, again and again,
while it is cancelled, notified, timed out, made ready or has its descriptor closed at any
time.  The making of the event is taken apart: from `_SetAwaitEvent` on a cancellation can
trigger an event whose initialisation is still going on, and an event that was triggered is
no longer initialised.

A wait makes an event of its own, and nobody triggers it with effect once it is decided, so
the state keeps the event of the last wait only.  `winner`, `entered` and `lacked` are a
record of the wait: who decided its round, whether it found a cancellation at its entry, and
whether the event could not be made or registered.  No step depends on them.
-/

namespace BbtCoroutine.WaitStatus

open Transition Pollevent
open BoundedWait (Waiting ceilMs toInt intMax fdListenEvents)
open Coroutine (optTimeout optReadable optWriteable normalizeTriggerEvent)
open CoWaiter (Form Status)

/-! ## Who decides a round -/

/-- Who triggers the event of a wait. -/
inductive Cause
  | notify
  | timer
  | readable
  | writeable
  | closed
  | cancelled
  deriving DecidableEq, Repr

namespace Cause

/-- The mask of the trigger. -/
def mask : Cause → EventMask
  | notify => pollEventCustom
  | timer => optTimeout
  | readable => optReadable
  | writeable => optWriteable
  | closed => pollEventClosed
  | cancelled => pollEventCancelled

/-- The status that names the trigger; there is none for a close. -/
def status : Cause → Option Status
  | notify => some .completed
  | timer => some .timedOut
  | readable => some .fdReadable
  | writeable => some .fdWriteable
  | closed => none
  | cancelled => some .cancelled

/-- Who calls the callback of the event with the mask `m`. -/
def ofEvents (m : EventMask) : Cause :=
  if m = optTimeout then timer else if m = optReadable then readable else writeable

end Cause

/-! ## The operations -/

/-- The waits that report a status.  A time is a number of nanoseconds of the steady clock. -/
inductive Op
  | options (deadline : ℤ)
  | combined (fd : ℤ) (wantReadable wantWriteable : Bool) (deadline : ℤ)
  deriving DecidableEq, Repr

namespace Op

/-- The form of the wait. -/
def form : Op → Form
  | options _ => .options
  | combined _ _ _ _ => .combined

/-- `options.deadline`. -/
def deadline : Op → ℤ
  | options d | combined _ _ _ d => d

/-- A descriptor is asked for that is none. -/
def badOptions : Op → Bool
  | options _ => false
  | combined fd r w _ => (r || w) && decide (fd < 0)

/-- The arguments of `InitFdEvent`, if it is called. -/
def fdEvent (op : Op) (timeoutMs : Option ℤ) : Option (ℤ × EventMask × ℤ) :=
  match op with
  | options _ => (Coroutine.Wait.waitOptions timeoutMs).fdEvent
  | combined fd r w _ => (Coroutine.Wait.waitCombined fd (fdListenEvents r w) timeoutMs).fdEvent

end Op

/-- What a step needs to know of its surroundings. -/
structure Answer where
  invalidContext : Bool := false
  /-- The waiter is occupied by an event that is not final. -/
  occupied : Bool := false
  /-- The closing flag of the fd slot. -/
  closing : Bool := false
  /-- `CreateEvent` makes an event. -/
  created : Bool := true
  /-- An allocation of the step throws. -/
  throws : Bool := false
  /-- `StartListen` returns `0`. -/
  listens : Bool := true
  /-- The fd slot accepts the waiter. -/
  tracked : Bool := true
  deriving DecidableEq, Repr

/-! ## State -/

/-- Where the coroutine is. -/
inductive Pc
  | idle
  | entry (op : Op)
  | remaining (op : Op)
  | create (op : Op) (timeoutMs : Option ℤ)
  | initCustom (op : Op) (timeoutMs : Option ℤ)
  | initFd (op : Op) (fd : ℤ) (events : EventMask) (timeout : ℤ)
  | initSample (op : Op) (events : EventMask)
  | initClosed (op : Op)
  | initCreate (op : Op) (events : EventMask)
  | publish (op : Op)
  | yield (op : Op)
  | registCheck (op : Op)
  | regist (op : Op)
  | track (op : Op)
  | commit (op : Op)
  | parked (op : Op)
  | resumed (op : Op) (ok : Bool)
  | returned (op : Op) (st : Status)
  deriving DecidableEq

/-- The event of the wait is in `m_await_event`. -/
def Pc.awaited : Pc → Bool
  | initCustom _ _ | initFd _ _ _ _ | initSample _ _ | initClosed _ | initCreate _ _ | publish _
  | yield _ | registCheck _ | regist _ | track _ | commit _ | parked _ => true
  | _ => false

/-- The event of the wait is in the table of descriptors. -/
def Pc.tracked : Pc → Bool
  | commit _ | parked _ => true
  | _ => false

/-- The coroutine and its wait. -/
structure State where
  /-- The steady clock. -/
  now : ℤ
  cancelRequested : Bool := false
  pc : Pc := .idle
  wait : Waiting := { round := .cancelled }
  /-- `m_co_event` is the event of this wait, and no `Notify` has taken it. -/
  bound : Bool := false
  lastResumeEvent : EventMask := 0
  /-- A wait that threw has left its event in `m_await_event`. -/
  leaked : Bool := false
  winner : Option Cause := none
  entered : Bool := false
  lacked : Bool := false
  deriving DecidableEq

namespace State

/-- The event is triggered by `c`. -/
def trigger (s : State) (c : Cause) : State :=
  { s with
    wait := s.wait.trigger c.mask
    winner := if s.wait.round.undecided then some c else s.winner }

/-- The wait returns without an event. -/
def leave (s : State) (op : Op) (st : Status) : State :=
  { s with pc := .returned op st, wait := { round := .cancelled } }

/-- The checks at the entry of a wait. -/
def enter (s : State) (op : Op) (a : Answer) : State :=
  if a.invalidContext then s.leave op .invalidContext
  else if op.badOptions then s.leave op .invalidOptions
  else if s.cancelRequested then { s.leave op .cancelled with entered := true }
  else if op.deadline ≤ s.now then s.leave op .timedOut
  else if a.occupied then s.leave op .alreadyWaiting
  else { s with pc := .remaining op }

/-- The second reading of the clock.  Only the combined form looks whether time remains. -/
def remain (s : State) (op : Op) : State :=
  let remainMs := ceilMs (op.deadline - s.now)
  if op.form = .combined ∧ remainMs ≤ 0 then s.leave op .timedOut
  else { s with pc := .create op (if remainMs < intMax then some (toInt remainMs) else none) }

/-- `RegistCustom` up to `_SetAwaitEvent`. -/
def create (s : State) (op : Op) (timeoutMs : Option ℤ) (a : Answer) : State :=
  if s.leaked then s.leave op .runtimeUnavailable
  else if a.throws then { s with pc := .idle }
  else { s with wait := {}, pc := .initCustom op timeoutMs }

/-- `InitCustomEvent`, and what comes after it. -/
def initCustom (s : State) (op : Op) (timeoutMs : Option ℤ) : State :=
  if s.wait.round ≠ .inited then s.leave op .runtimeUnavailable
  else
    match op.fdEvent timeoutMs with
    | some (fd, events, timeout) => { s with pc := .initFd op fd events timeout }
    | none => { s with pc := .publish op }

/-- The check of `InitFdEvent`. -/
def initFd (s : State) (op : Op) (fd : ℤ) (events : EventMask) (timeout : ℤ) : State :=
  if s.wait.round ≠ .inited ∨ timeout < 0 ∨ s.wait.event ≠ none then
    s.leave op .runtimeUnavailable
  else
    { s with wait := { s.wait with fd := fd, timeout := timeout }, pc := .initSample op events }

/-- The closing flag is sampled; the slot of the descriptor may have to be made for that. -/
def initSample (s : State) (op : Op) (events : EventMask) (a : Answer) : State :=
  if 0 ≤ s.wait.fd ∧ a.throws = true then { s with pc := .idle, leaked := true }
  else if 0 ≤ s.wait.fd ∧ a.closing = true then { s with pc := .initClosed op }
  else { s with pc := .initCreate op events }

/-- `CreateEvent`. -/
def initCreate (s : State) (op : Op) (events : EventMask) (a : Answer) : State :=
  if a.created then
    { s with
      wait := { s.wait with event := some (Event.new s.wait.fd events) }
      pc := .publish op }
  else { s.leave op .runtimeUnavailable with lacked := true }

/-- `Regist` up to `_TrackWaiter`; if it fails the coroutine goes on at once. -/
def regist (s : State) (op : Op) (a : Answer) : State :=
  match s.wait.regist s.now { listens := a.listens } with
  | some v => { s with wait := v, pc := .track op }
  | none =>
    { s with
      wait := { s.wait with round := s.wait.round.unRegist }
      pc := .resumed op false
      lacked := s.lacked || !a.listens }

/-- `_TrackWaiter` refuses the event. -/
def refused (s : State) (a : Answer) : Prop :=
  0 ≤ s.wait.fd ∧ s.wait.event.isSome = true ∧ a.tracked = false

/-- Whether a wait is refused can be computed. -/
instance (s : State) (a : Answer) : Decidable (s.refused a) :=
  inferInstanceAs (Decidable (_ ∧ _))

/-- The end of a wait. -/
def finish (s : State) (op : Op) (ok : Bool) : State :=
  { s with
    bound := false
    pc := .returned op (if ok then op.form.resolve s.lastResumeEvent else .runtimeUnavailable) }

end State

/-! ## Steps -/

/-- The next step of the coroutine. -/
def Pc.step (s : State) (a : Answer) : Pc → Option State
  | idle | parked _ | returned _ _ => none
  | entry op => some (s.enter op a)
  | remaining op => some (s.remain op)
  | create op ms => some (s.create op ms a)
  | initCustom op ms => some (s.initCustom op ms)
  | initFd op fd events timeout => some (s.initFd op fd events timeout)
  | initSample op events => some (s.initSample op events a)
  | initClosed op => some { s.trigger .closed with pc := publish op }
  | initCreate op events => some (s.initCreate op events a)
  | publish op => some { s with bound := true, pc := yield op }
  | yield op =>
    some (if a.throws then { s with bound := false, pc := idle }
      else { s with pc := registCheck op })
  | registCheck op =>
    some { (if s.cancelRequested then s.trigger .cancelled else s) with pc := regist op }
  | regist op => some (s.regist op a)
  | track op => some { (if s.refused a then s.trigger .closed else s) with pc := commit op }
  | commit op => some { s with wait := s.wait.commitPark, pc := parked op }
  | resumed op ok => some (s.finish op ok)

/-- The steps of a coroutine, of asio and of the other parties. -/
inductive Label
  | advance (ns : ℕ)
  | begin (op : Op)
  | step (a : Answer)
  /-- The coroutine is resumed from a wait that is decided. -/
  | resume
  /-- `RequestCancel` stores its flag. -/
  | requestCancel
  /-- `RequestCancel` triggers the event it has found. -/
  | cancelTrigger
  | notify
  /-- `CoWaiter::Cancel`. -/
  | waiterCancel
  /-- `BeginFdClose` triggers the event it has found. -/
  | close
  | fdReady (w : EventMask × ℕ)
  | timerExpired
  | handle (h : Handler)
  | deliver (d : Delivery)
  deriving DecidableEq

/-- One step. -/
def next (s : State) : Label → Option State
  | .advance ns => some { s with now := s.now + ns }
  | .begin op =>
    match s.pc with
    | .idle | .returned _ _ =>
      some { s with
        pc := .entry op
        wait := { round := .cancelled }
        winner := none
        entered := false
        lacked := false }
    | _ => none
  | .step a => s.pc.step s a
  | .resume =>
    match s.pc, s.wait.round with
    | .parked op, .final m =>
      some { s with lastResumeEvent := normalizeTriggerEvent m, pc := .resumed op true }
    | _, _ => none
  | .requestCancel => some { s with cancelRequested := true }
  | .cancelTrigger =>
    if s.cancelRequested = true ∧ s.pc.awaited = true then some (s.trigger .cancelled) else none
  | .notify => if s.bound then some { s.trigger .notify with bound := false } else none
  | .waiterCancel => some { s with bound := false }
  | .close =>
    if s.pc.tracked = true ∧ 0 ≤ s.wait.fd then some (s.trigger .closed) else none
  | .fdReady w =>
    s.wait.event.bind fun e =>
      if e.fdWaits.contains w then
        some { s with wait := { s.wait with event := some (e.fdReady w) } }
      else none
  | .timerExpired =>
    s.wait.event.bind fun e => e.timerWait.bind fun a =>
      if a.expiry ≤ s.now then
        some { s with wait := { s.wait with event := some (e.timerExpired a) } }
      else none
  | .handle h =>
    s.wait.event.bind fun e =>
      if h ∈ e.queued then some { s with wait := s.wait.handle e h } else none
  | .deliver d =>
    if d ∈ s.wait.delivering then
      some { s with
        wait := s.wait.deliver d
        winner := if s.wait.round.undecided then some (.ofEvents d.events) else s.winner }
    else none

/-- The transition system of the waits: a run starts at any time of the clock. -/
def system : System State Label where
  start s := s = { now := s.now }
  next := next

end BbtCoroutine.WaitStatus
