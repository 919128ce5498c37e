import BbtCoroutine.Pollevent.Event

/-!
# A model of the bounded waits

One coroutine runs one bounded wait after another: the timed waits of `CoWaiter`, its waits
with a deadline, and the operations of `Coroutine`, `CoCond`, `CoMutex`, `CoRWMutex`, `Chan`
and `CoSelect` that rest on them.  A step is cut wherever the clock is read, so that any time
may pass between a check of the deadline, the computation of the remaining time and the
arming of the timer.  What the mutexes, the queues and the other coroutines answer is an
argument of the step.

The callback of an event holds a weak pointer to the `CoPollEvent` it was made for.  An event
therefore reaches no later wait, and the state keeps the event of the last wait only.
-/

namespace BbtCoroutine.BoundedWait

open Transition Pollevent
open Coroutine (optTimeout optReadable optWriteable normalizeTriggerEvent)

/-! ## Time -/

/-- `std::numeric_limits<int>::max()`. -/
def intMax : ℤ := 2147483647

/-- The conversion to an `int`. -/
def toInt (n : ℤ) : ℤ := Int.bmod n (2 ^ 32)

/-- A number that fits stays as it is. -/
lemma toInt_of_le {n : ℤ} (h0 : 0 ≤ n) (hn : n ≤ intMax) : toInt n = n := by
  unfold toInt
  unfold intMax at hn
  rw [Int.bmod_eq_of_le] <;> omega

/-- `std::chrono::ceil<std::chrono::milliseconds>` of a number of nanoseconds. -/
def ceilMs (ns : ℤ) : ℤ := -(-ns / msecNanos)

/-- `gettime_mono`, in milliseconds. -/
def gettimeMono (now : ℤ) : ℤ := now / msecNanos

/-! ## The operations -/

/-- The operations with a time limit: a number of milliseconds, or a deadline of the steady
clock. -/
inductive Op
  | waitWithTimeout (ms : ℤ)
  | waitWithTimeoutAndCallback (ms : ℤ)
  | waitOptions (deadline : ℤ)
  | waitCombined (fd : ℤ) (wantReadable wantWriteable : Bool) (deadline : ℤ)
  | yieldUntilTimeout (ms : ℤ)
  | waitFor (ms : ℤ)
  | tryLock (ms : ℤ)
  | tryRLock (ms : ℤ)
  | tryWLock (ms : ℤ)
  | tryRead (timeout : ℤ)
  | tryWrite (timeout : ℤ)
  | selectRun (timeoutMs : ℤ) (hasDefault : Bool)
  deriving DecidableEq, Repr

/-- What a step needs to know of its surroundings. -/
structure Answer where
  /-- The operation succeeds, or fails for good, without a wait. -/
  ready : Bool := false
  /-- The waiter is occupied by an event that is not final. -/
  occupied : Bool := false
  /-- `IsCancelRequested`. -/
  cancelRequested : Bool := false
  /-- A cancellation triggers the event before it is initialised. -/
  cancelled : Bool := false
  /-- The closing flag of the fd slot. -/
  closing : Bool := false
  /-- `CreateEvent` makes an event. -/
  created : Bool := true
  /-- The yield throws, or `_TestFailNextAwaitRegist` was called. -/
  fails : Bool := false
  /-- `StartListen` returns `0`. -/
  listens : Bool := true
  /-- The fd slot accepts the waiter. -/
  tracked : Bool := true
  deriving DecidableEq, Repr

/-- What an operation does next. -/
inductive Plan
  | return
  /-- The event of this wait is made. -/
  | create (w : Coroutine.Wait)
  /-- The time that remains to the deadline is computed. -/
  | remaining
  /-- The loop of a channel operation is entered. -/
  | loop
  deriving DecidableEq

/-- `CoWaiter::WaitWithTimeout`. -/
def waitWithTimeout (ms : ℤ) (a : Answer) : Plan :=
  if a.occupied then .return else .create (.registCustom (some ms))

/-- `CoWaiter::WaitWithTimeoutAndCallback`. -/
def waitWithTimeoutAndCallback (ms : ℤ) (a : Answer) : Plan :=
  if a.occupied then .return else .create (.registCustom (some ms))

/-- `CoWaiter::WaitWithCallback` on options, up to the check of the deadline. -/
def waitOptions (deadline : ℤ) (now : ℤ) (a : Answer) : Plan :=
  if a.cancelRequested ∨ deadline ≤ now ∨ a.occupied then .return else .remaining

/-- `CoWaiter::WaitWithCallback` on options, from the second reading of the clock. -/
def waitOptionsRemaining (deadline : ℤ) (now : ℤ) : Plan :=
  let remainMs := ceilMs (deadline - now)
  .create (.waitOptions (if remainMs < intMax then some (toInt remainMs) else none))

/-- `CoWaiter::Wait` on combined options, up to the check of the deadline. -/
def waitCombined (fd : ℤ) (wantReadable wantWriteable : Bool) (deadline : ℤ) (now : ℤ)
    (a : Answer) : Plan :=
  if (wantReadable ∨ wantWriteable) ∧ fd < 0 then .return
  else if a.cancelRequested ∨ deadline ≤ now ∨ a.occupied then .return
  else .remaining

/-- `fd_listen_events` of a combined wait. -/
def fdListenEvents (wantReadable wantWriteable : Bool) : EventMask :=
  (if wantReadable then optReadable else 0) ||| (if wantWriteable then optWriteable else 0)

/-- `CoWaiter::Wait` on combined options, from the second reading of the clock. -/
def waitCombinedRemaining (fd : ℤ) (wantReadable wantWriteable : Bool) (deadline : ℤ)
    (now : ℤ) : Plan :=
  let remainMs := ceilMs (deadline - now)
  if remainMs ≤ 0 then .return
  else .create (.waitCombined fd (fdListenEvents wantReadable wantWriteable)
    (if remainMs < intMax then some (toInt remainMs) else none))

/-- `Coroutine::YieldUntilTimeout`. -/
def yieldUntilTimeout (ms : ℤ) (a : Answer) : Plan :=
  if a.cancelRequested then .return else .create (.yieldUntilTimeout ms)

/-- A wait in a waiter made for it. -/
def waitInFresh (ms : ℤ) (a : Answer) : Plan :=
  waitWithTimeoutAndCallback ms { a with occupied := false }

/-- `CoCond::WaitFor`. -/
def waitFor (ms : ℤ) (a : Answer) : Plan :=
  waitInFresh ms a

/-- `CoMutex::TryLock`. -/
def tryLock (ms : ℤ) (a : Answer) : Plan :=
  if a.ready then .return else .create (.registCustom (some ms))

/-- `_WaitRLockWithTimeout` and `_WaitWLockWithTimeout`, after the attempt without a wait. -/
def timedLock (ms : ℤ) (a : Answer) : Plan :=
  if a.ready then .return else if ms < 0 then .return else waitInFresh ms a

/-- `CoRWMutex::TryRLock`. -/
def tryRLock (ms : ℤ) (a : Answer) : Plan :=
  timedLock ms a

/-- `CoRWMutex::TryWLock`. -/
def tryWLock (ms : ℤ) (a : Answer) : Plan :=
  timedLock ms a

/-- The time that remains in a round of `Chan::TryRead` or `Chan::TryWrite`. -/
def chanRemaining (timeout start now : ℤ) : ℤ :=
  toInt (timeout - toInt (gettimeMono now - start))

/-- A round of the loop of `Chan::TryRead`. -/
def tryReadRound (timeout start now : ℤ) (a : Answer) : Plan :=
  if a.ready ∨ chanRemaining timeout start now ≤ 0 then .return
  else waitWithTimeoutAndCallback (chanRemaining timeout start now) a

/-- A round of the loop of `Chan::TryWrite`, which makes a waiter of its own. -/
def tryWriteRound (timeout start now : ℤ) (a : Answer) : Plan :=
  if a.ready ∨ chanRemaining timeout start now ≤ 0 then .return
  else waitInFresh (chanRemaining timeout start now) a

/-- `CoSelect::Run`: without `CaseTimeout`, `m_timeout_ms` is negative. -/
def selectRun (timeoutMs : ℤ) (hasDefault : Bool) (a : Answer) : Plan :=
  if a.ready ∨ hasDefault then .return
  else if 0 ≤ timeoutMs then waitInFresh timeoutMs a
  else .create (.registCustom none)

namespace Op

/-- An operation up to its wait, or up to its next reading of the clock. -/
def enter (now : ℤ) (a : Answer) : Op → Plan
  | waitWithTimeout ms => BoundedWait.waitWithTimeout ms a
  | waitWithTimeoutAndCallback ms => BoundedWait.waitWithTimeoutAndCallback ms a
  | waitOptions deadline => BoundedWait.waitOptions deadline now a
  | waitCombined fd r w deadline => BoundedWait.waitCombined fd r w deadline now a
  | yieldUntilTimeout ms => BoundedWait.yieldUntilTimeout ms a
  | waitFor ms => BoundedWait.waitFor ms a
  | tryLock ms => BoundedWait.tryLock ms a
  | tryRLock ms => BoundedWait.tryRLock ms a
  | tryWLock ms => BoundedWait.tryWLock ms a
  | tryRead _ | tryWrite _ => if a.ready then .return else .loop
  | selectRun ms hasDefault => BoundedWait.selectRun ms hasDefault a

/-- An operation with a deadline, from its second reading of the clock. -/
def second (now : ℤ) : Op → Plan
  | waitOptions deadline => waitOptionsRemaining deadline now
  | waitCombined fd r w deadline => waitCombinedRemaining fd r w deadline now
  | _ => .return

/-- A round of the loop of a channel operation. -/
def loopRound (start now : ℤ) (a : Answer) : Op → Plan
  | tryRead timeout => tryReadRound timeout start now a
  | tryWrite timeout => tryWriteRound timeout start now a
  | _ => .return

/-- The operation goes on with its loop after a wait that ended with the mask `m`. -/
def again (m : EventMask) (a : Answer) : Op → Bool
  | tryRead _ => true
  | tryWrite _ =>
    !a.ready && normalizeTriggerEvent m &&& (pollEventTimeout ||| pollEventCancelled) == 0
  | _ => false

end Op

/-! ## One wait -/

/-- The members of the `CoPollEvent` of a wait. -/
structure Waiting where
  round : Round := .inited
  fd : ℤ := -1
  timeout : ℤ := -1
  event : Option Event := none
  /-- A record of the run: the wait of the timer that `StartListen` made for this wait. -/
  started : Option Arming := none
  /-- The calls of the callback that are on their way. -/
  delivering : List Delivery := []
  deriving DecidableEq, Repr

namespace Waiting

/-- `Trigger`. -/
def trigger (v : Waiting) (m : EventMask) : Waiting :=
  { v with round := v.round.trigger m }

/-- `InitFdEvent` on an event that nobody has triggered yet. -/
def initFdEvent (v : Waiting) (a : Answer) (fd : ℤ) (events : EventMask) (timeout : ℤ) :
    Option Waiting :=
  if timeout < 0 then none
  else if 0 ≤ fd ∧ a.closing then
    some { v with fd := fd, timeout := timeout, round := v.round.trigger pollEventClosed }
  else if a.created then
    some { v with fd := fd, timeout := timeout, event := some (Event.new fd events) }
  else none

/-- The event of a wait is made and initialised; an event that is triggered before it is
initialised refuses to be. -/
def create (a : Answer) (w : Coroutine.Wait) : Option Waiting :=
  if a.cancelled then none
  else
    match w.fdEvent with
    | some (fd, events, timeout) => initFdEvent {} a fd events timeout
    | none => some {}

/-- `_RegistFdEvent`, and `_TrackWaiter` with what follows when it refuses. -/
def listen (v : Waiting) (now : ℤ) (a : Answer) (e : Event) : Waiting :=
  let e' := e.startListen now (max 0 v.timeout).toNat
  let v' := { v with round := .armed, event := some e', started := e'.timerWait }
  if 0 ≤ v.fd ∧ !a.tracked then v'.trigger pollEventClosed else v'

/-- `Regist`, and the failures before it. -/
def regist (v : Waiting) (now : ℤ) (a : Answer) : Option Waiting :=
  if a.fails then none
  else
    match v.round, v.event with
    | .pending _, _ => some v
    | .inited, none => some { v with round := .armed }
    | .inited, some e => if a.listens then some (v.listen now a e) else none
    | _, _ => none

/-- `_RegistAwaitEvent`. -/
def registAwaitEvent (v : Waiting) (now : ℤ) (a : Answer) : Option Waiting :=
  (if a.cancelRequested then v.trigger pollEventCancelled else v).regist now a

/-- `CommitPark`. -/
def commitPark (v : Waiting) : Waiting :=
  { v with round := v.round.commitPark }

/-- asio runs a queued handler of the event. -/
def handle (v : Waiting) (e : Event) (h : Handler) : Waiting :=
  let r := (e.dequeue h).handle h
  { v with event := some r.1, delivering := v.delivering ++ r.2.toList }

/-- The callback of the event is called, which triggers the `CoPollEvent`. -/
def deliver (v : Waiting) (d : Delivery) : Waiting :=
  { v with
    round := v.round.trigger d.events
    event := v.event.map (·.afterCallback d)
    delivering := v.delivering.erase d }

end Waiting

/-! ## State and steps -/

/-- Where the coroutine is. -/
inductive Pc
  | idle
  | entry (op : Op)
  | remaining (op : Op)
  | looping (op : Op)
  | create (op : Op) (w : Coroutine.Wait)
  | regist (op : Op)
  | commit (op : Op)
  | suspended (op : Op)
  deriving DecidableEq

/-- The wait has an event that others can trigger. -/
def Pc.published : Pc → Bool
  | regist _ | commit _ | suspended _ => true
  | _ => false

/-- The steady clock, the local variables of the operation, and its wait. -/
structure State where
  now : ℤ
  pc : Pc := .idle
  /-- `start` of a channel operation. -/
  start : ℤ := 0
  /-- The clock when the time for the current wait was computed. -/
  reading : ℤ := 0
  wait : Waiting := {}
  deriving DecidableEq

/-- The operation goes on as planned. -/
def State.follow (s : State) (op : Op) : Plan → State
  | .return => { s with pc := .idle }
  | .create w => { s with pc := .create op w }
  | .remaining => { s with pc := .remaining op }
  | .loop => { s with pc := .looping op, start := gettimeMono s.now }

/-- The wait has an event, or the operation returns. -/
def State.proceed (s : State) (pc : Pc) : Option Waiting → State
  | some v => { s with wait := v, pc := pc }
  | none => { s with pc := .idle }

/-- The next step of the coroutine. -/
def Pc.step (s : State) (a : Answer) : Pc → Option State
  | idle | suspended _ => none
  | entry op => some (s.follow op (op.enter s.now a))
  | remaining op => some ({ s with reading := s.now }.follow op (op.second s.now))
  | looping op => some ({ s with reading := s.now }.follow op (op.loopRound s.start s.now a))
  | create op w => some (s.proceed (.regist op) (Waiting.create a w))
  | regist op => some (s.proceed (.commit op) (s.wait.registAwaitEvent s.now a))
  | commit op => some { s with wait := s.wait.commitPark, pc := .suspended op }

/-- The steps of a coroutine, of asio and of the other parties. -/
inductive Label
  | advance (ns : ℕ)
  | begin (op : Op)
  | step (a : Answer)
  /-- The coroutine is resumed from a wait that is decided. -/
  | resume (a : Answer)
  /-- A notifier, a cancellation or a close triggers the event. -/
  | trigger (m : EventMask)
  | fdReady (w : EventMask × ℕ)
  | timerExpired
  | handle (h : Handler)
  | deliver (d : Delivery)
  deriving DecidableEq

/-- The passing of time, and the steps of asio. -/
def Label.clockwork : Label → Bool
  | advance _ | timerExpired | handle _ | deliver _ => true
  | _ => false

/-- The coroutine is resumed with the mask `m`. -/
def State.resume (s : State) (op : Op) (m : EventMask) (a : Answer) : State :=
  { s with pc := if op.again m a then .looping op else .idle }

/-- One step. -/
def next (s : State) : Label → Option State
  | .advance ns => some { s with now := s.now + ns }
  | .begin op => if s.pc = .idle then some { s with pc := .entry op } else none
  | .step a => s.pc.step s a
  | .resume a =>
    match s.pc, s.wait.round with
    | .suspended op, .final m => some (s.resume op m a)
    | _, _ => none
  | .trigger m =>
    if s.pc.published ∧ m ≠ 0 then some { s with wait := s.wait.trigger m } else none
  | .fdReady w =>
    s.wait.event.bind fun e =>
      if w ∈ e.fdWaits then some { s with wait := { s.wait with event := some (e.fdReady w) } }
      else none
  | .timerExpired =>
    s.wait.event.bind fun e => e.timerWait.bind fun a =>
      if a.expiry ≤ s.now then
        some { s with wait := { s.wait with event := some (e.timerExpired a) } }
      else none
  | .handle h =>
    s.wait.event.bind fun e =>
      if h ∈ e.queued then some { s with wait := s.wait.handle e h } else none
  | .deliver d =>
    if d ∈ s.wait.delivering then some { s with wait := s.wait.deliver d } else none

/-- The transition system of the bounded waits: a run starts at any time of the clock. -/
def system : System State Label where
  start s := s = { now := s.now, wait := { round := .cancelled } }
  next := next

end BbtCoroutine.BoundedWait
