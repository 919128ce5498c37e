import BbtCoroutine.CoPollEvent.Round

/-!
# A model of the waits of a `Coroutine`

One coroutine waits again and again, each time on a fresh event, while any number of calls
request its cancellation or trigger one of its events.  The registration, the yield, the
commit of the park on the worker and the completion callback are separate steps, cut at
every access to `m_cancel_requested`, to `m_await_event` and to the event.

`resumed` and `threw` are a record of the run: the waits from which the coroutine was
resumed, each with the mask it then reads, and the waits whose yield threw.  No step depends
on them.
-/

namespace BbtCoroutine.Coroutine

open Transition

/-! ## Waits -/

/-- `EventOpt::TIMEOUT`. -/
def optTimeout : EventMask := 0x01

/-- `EventOpt::READABLE`. -/
def optReadable : EventMask := 0x02

/-- `EventOpt::WRITEABLE`. -/
def optWriteable : EventMask := 0x04

/-- `EventOpt::PERSIST`. -/
def optPersist : EventMask := 0x10

/-- `EventOpt::FINALIZE`. -/
def optFinalize : EventMask := 0x40

/-- `POLL_EVENT_WRITEABLE`. -/
def pollEventWriteable : EventMask := 0x002

/-- `POLL_EVENT_READABLE`. -/
def pollEventReadable : EventMask := 0x004

/-- `NormalizeTriggerEvent`: the bits of `EventOpt` become those of `PollEventType`. -/
def normalizeTriggerEvent (events : EventMask) : EventMask :=
  (if events &&& optReadable ≠ 0 then pollEventReadable else 0) |||
  (if events &&& optWriteable ≠ 0 then pollEventWriteable else 0) |||
  (if events &&& optTimeout ≠ 0 then pollEventTimeout else 0) |||
  (events &&& (pollEventCustom ||| pollEventCancelled ||| pollEventClosed))

/-- The operations that make a coroutine wait: the members of `Coroutine`, and the waits of
`CoWaiter` and `CoMutex` that go through `RegistCustom`. -/
inductive Wait
  | yieldUntilTimeout (ms : ℤ)
  | yieldUntilFdReadable (fd : ℤ) (timeoutMs : Option ℤ)
  | yieldUntilFdWriteable (fd : ℤ) (timeoutMs : Option ℤ)
  | yieldUntilFdEx (fd : ℤ) (events : EventMask) (timeoutMs : ℤ)
  | registCustom (timeoutMs : Option ℤ)
  | waitOptions (timeoutMs : Option ℤ)
  | waitCombined (fd : ℤ) (fdListenEvents : EventMask) (timeoutMs : Option ℤ)
  deriving DecidableEq

namespace Wait

/-- The wait is refused at its entry when a cancellation is requested. -/
def checksCancel : Wait → Bool
  | registCustom _ => false
  | _ => true

/-- The event of the wait is made by `RegistCustom`. -/
def custom : Wait → Bool
  | registCustom _ | waitOptions _ | waitCombined _ _ _ => true
  | _ => false

/-- The arguments of the `InitFdEvent` of the wait, if it makes one. -/
def fdEvent : Wait → Option (ℤ × EventMask × ℤ)
  | yieldUntilTimeout ms => some (-1, optTimeout, ms)
  | yieldUntilFdReadable fd none => some (fd, optReadable ||| optFinalize, 0)
  | yieldUntilFdReadable fd (some ms) => some (fd, optReadable ||| optTimeout ||| optFinalize, ms)
  | yieldUntilFdWriteable fd none => some (fd, optWriteable ||| optFinalize, 0)
  | yieldUntilFdWriteable fd (some ms) =>
    some (fd, optWriteable ||| optTimeout ||| optFinalize, ms)
  | yieldUntilFdEx fd events ms => some (fd, events &&& ~~~optPersist, ms)
  | registCustom ms | waitOptions ms => ms.map fun ms => (-1, optTimeout, ms)
  | waitCombined fd events ms =>
    let listenEvents := events ||| if ms.isSome then optTimeout else 0
    if listenEvents ≠ 0 then some (fd, listenEvents, ms.getD 0) else none

end Wait

/-! ## State -/

/-- The members of a `CoPollEvent` that the waits use. -/
structure Event where
  round : Round := .inited
  fd : ℤ := -1
  /-- `m_event` is not null. -/
  event : Bool := false
  /-- The event is initialised, so that others can trigger it. -/
  published : Bool := false
  deriving DecidableEq

/-- `CoroutineYieldDisposition` of a coroutine that is not final. -/
inductive Disposition
  | manual
  | eventWait
  deriving DecidableEq

/-- The steps of `OnCoPollEvent`: the mask is stored, `m_await_event` is cleared, the coroutine
is handed to the scheduler. -/
inductive Stage
  | store
  | clear
  | active
  deriving DecidableEq

/-- Where the coroutine, or the worker that runs it, is.  `k` is the event of the wait. -/
inductive Pc
  | running
  | entry (w : Wait)
  | create (w : Wait)
  | initCustom (w : Wait) (k : ℕ)
  | initFd (k : ℕ) (fd : ℤ) (timeout : ℤ)
  | initSample (k : ℕ)
  | initClosed (k : ℕ)
  | initCreate (k : ℕ)
  | initFailed (k : ℕ)
  | yield (k : ℕ)
  | yieldThrew (k : ℕ)
  | regist (k : ℕ)
  | registCheck (k : ℕ)
  | registCancel (k : ℕ)
  | registEvent (k : ℕ)
  | registListen (k : ℕ)
  | trackWaiter (k : ℕ)
  | registClosed (k : ℕ)
  | registFailed (k : ℕ)
  | commit (k : ℕ)
  | commitPark (k : ℕ)
  | complete (k : ℕ) (m : EventMask) (stage : Stage)
  | suspended (k : ℕ)
  | final
  deriving DecidableEq

/-- Who called `Trigger`. -/
inductive Caller
  | requestCancel
  | trigger
  deriving DecidableEq

/-- How far a call of another party has got. -/
inductive Frame
  | idle
  | requestCancel
  | loadAwait
  | trigger (c : Caller) (k : ℕ) (m : EventMask)
  | complete (c : Caller) (k : ℕ) (m : EventMask) (stage : Stage)
  | returned (c : Caller)
  deriving DecidableEq

/-- The answers that a step may need from its surroundings. -/
structure Answer where
  /-- The wait is refused at its entry: the waiter is occupied or the deadline has passed. -/
  refused : Bool := false
  /-- `CreateEvent` makes an event. -/
  created : Bool := true
  /-- The closing flag of the fd slot. -/
  closing : Bool := false
  /-- Storing the callback of the yield throws. -/
  throws : Bool := false
  /-- `_TestFailNextAwaitRegist` was called. -/
  testFail : Bool := false
  /-- `StartListen` returns `0`. -/
  listens : Bool := true
  /-- The fd slot accepts the waiter. -/
  tracked : Bool := true

/-- The members of the coroutine and its events. -/
structure Shared where
  cancelRequested : Bool := false
  awaitEvent : Option ℕ := none
  yieldDisposition : Disposition := .manual
  lastResumeEvent : Option EventMask := none
  /-- How often the coroutine is in a run queue. -/
  queued : ℕ := 0
  /-- The events made so far are those below `next`. -/
  next : ℕ := 0
  event : ℕ → Event := fun _ => {}
  resumed : List (ℕ × Option EventMask) := []
  threw : List ℕ := []

/-- The state of a coroutine under the calls `ι`. -/
structure State (ι : Type*) where
  shared : Shared
  pc : Pc
  call : ι → Frame

namespace Shared

/-- The round of an event becomes `r`. -/
def setRound (sh : Shared) (k : ℕ) (r : Round) : Shared :=
  { sh with event := Function.update sh.event k { sh.event k with round := r } }

/-- `Trigger` of the event `k`. -/
def trigger (sh : Shared) (k : ℕ) (m : EventMask) : Shared :=
  sh.setRound k ((sh.event k).round.trigger m)

/-- `_SetAwaitEvent(nullptr)`, with the disposition that goes with it. -/
def clearAwait (sh : Shared) : Shared :=
  { sh with awaitEvent := none, yieldDisposition := .manual }

/-- `CoPollEvent::Create` and the `_SetAwaitEvent` that follows it. -/
def create (sh : Shared) : Shared :=
  { sh with
    awaitEvent := some sh.next
    next := sh.next + 1
    event := Function.update sh.event sh.next {} }

/-- The event `k` is initialised. -/
def publish (sh : Shared) (k : ℕ) : Shared :=
  { sh with event := Function.update sh.event k { sh.event k with published := true } }

/-- `m_fd` of the event `k`. -/
def setFd (sh : Shared) (k : ℕ) (fd : ℤ) : Shared :=
  { sh with event := Function.update sh.event k { sh.event k with fd := fd } }

/-- `m_event` of the event `k` is made. -/
def createEvent (sh : Shared) (k : ℕ) : Shared :=
  { sh with event := Function.update sh.event k { sh.event k with event := true } }

/-- A worker takes the coroutine from its queue and resumes it from the wait on `k`. -/
def resume (sh : Shared) (k : ℕ) : Shared :=
  { sh with queued := sh.queued - 1, resumed := sh.resumed ++ [(k, sh.lastResumeEvent)] }

/-- The masks with which the coroutine was resumed from the wait on `k`. -/
def resumedFrom (sh : Shared) (k : ℕ) : List (Option EventMask) :=
  (sh.resumed.filter (·.1 = k)).map Prod.snd

end Shared

/-! ## Steps -/

/-- The next step of `OnCoPollEvent`, and the stage after it. -/
def Stage.step (sh : Shared) (m : EventMask) : Stage → Option (Shared × Option Stage)
  | store =>
    -- `Assert(ev != nullptr)`
    if sh.awaitEvent = none then none
    else some ({ sh with lastResumeEvent := some (normalizeTriggerEvent m) }, some clear)
  | clear => some (sh.clearAwait, some active)
  | active => some ({ sh with queued := sh.queued + 1 }, none)

/-- What a wait does once its event is made: `InitCustomEvent` comes before `InitFdEvent`. -/
def initEvent (w : Wait) (k : ℕ) (sh : Shared) : Shared × Pc :=
  match w.fdEvent with
  | some (fd, _, ms) => (sh, .initFd k fd ms)
  | none => (sh.publish k, .yield k)

/-- `Regist` at its first load. -/
def registEvent (sh : Shared) (k : ℕ) : Shared × Pc :=
  match (sh.event k).round with
  | .pending _ => (sh, .commit k)
  | .inited => (sh, .registListen k)
  | _ => (sh, .registFailed k)

/-- `Regist` at `StartListen`: it fails, or it arms the event unless a trigger came first. -/
def registListen (sh : Shared) (a : Answer) (k : ℕ) : Shared × Pc :=
  match (sh.event k).round with
  | .pending _ => (sh, .commit k)
  | .inited =>
    if (sh.event k).event ∧ !a.listens then (sh.setRound k .cancelled, .registFailed k)
    else (sh.setRound k .armed, .trackWaiter k)
  | _ => (sh, .registFailed k)

/-- `CommitYield` of a coroutine that is not final. -/
def commitYield (sh : Shared) (k : ℕ) : Option (Shared × Pc) :=
  match sh.yieldDisposition, sh.awaitEvent with
  | .manual, _ => some (sh, .suspended k)
  | .eventWait, some e => some (sh, .commitPark e)
  | .eventWait, none => none -- `Assert(await_event != nullptr)`

/-- `CommitPark`. -/
def commitPark (sh : Shared) (k : ℕ) : Shared × Pc :=
  (sh.setRound k (sh.event k).round.commitPark, match (sh.event k).round with
    | .pending m => .complete k m .store
    | _ => .suspended k)

/-- The next step of the coroutine or of its worker. -/
def Pc.step (sh : Shared) (a : Answer) : Pc → Option (Shared × Pc)
  | running | suspended _ | final => none
  | entry w =>
    some (sh, if a.refused ∨ (w.checksCancel ∧ sh.cancelRequested) then .running else .create w)
  | create w =>
    if sh.awaitEvent = none then
      some (if w.custom then (sh.create, .initCustom w sh.next) else initEvent w sh.next sh.create)
    else if w.custom then some (sh, .running)
    else none -- `Assert(_AwaitEvent() == nullptr)`
  | initCustom w k =>
    some (if (sh.event k).round = .inited then initEvent w k sh else (sh, .initFailed k))
  | initFd k fd ms =>
    some (if (sh.event k).round = .inited ∧ 0 ≤ ms ∧ (sh.event k).event = false then
        (sh.setFd k fd, .initSample k)
      else (sh, .initFailed k))
  | initSample k =>
    some (sh, if 0 ≤ (sh.event k).fd ∧ a.closing then .initClosed k else .initCreate k)
  | initClosed k => some ((sh.trigger k pollEventClosed).publish k, .yield k)
  | initCreate k =>
    some (if a.created then ((sh.createEvent k).publish k, .yield k) else (sh, .initFailed k))
  | initFailed _ => some (sh.clearAwait, .running)
  | yield k =>
    some ({ sh with yieldDisposition := if sh.awaitEvent = none then .manual else .eventWait },
      if a.throws then .yieldThrew k else .regist k)
  | yieldThrew k => some ({ sh.clearAwait with threw := k :: sh.threw }, .running)
  | regist k =>
    some (match sh.awaitEvent with
      | none => (sh, .registFailed k)
      | some e =>
        (if a.testFail then sh.setRound e (sh.event e).round.unRegist else sh, .registCheck e))
  | registCheck k => some (sh, if sh.cancelRequested then .registCancel k else .registEvent k)
  -- an event is parked by `CommitPark` only, so the triggers of the registration complete nothing
  | registCancel k => some (sh.trigger k pollEventCancelled, .registEvent k)
  | registEvent k => some (Coroutine.registEvent sh k)
  | registListen k => some (Coroutine.registListen sh a k)
  | trackWaiter k =>
    some (sh, if 0 ≤ (sh.event k).fd ∧ (sh.event k).event ∧ !a.tracked then .registClosed k
      else .commit k)
  | registClosed k => some (sh.trigger k pollEventClosed, .commit k)
  | registFailed _ => some (sh.clearAwait, .running)
  | commit k => commitYield sh k
  | commitPark k => some (Coroutine.commitPark sh k)
  | complete k m stage =>
    (stage.step sh m).map fun r => (r.1, (r.2.map (complete k m)).getD (.suspended k))

/-- The next step of a call of another party. -/
def Frame.step (sh : Shared) : Frame → Option (Shared × Frame)
  | idle | returned _ => none
  | requestCancel => some ({ sh with cancelRequested := true }, .loadAwait)
  | loadAwait =>
    some (sh, match sh.awaitEvent with
      | none => .returned .requestCancel
      | some k => .trigger .requestCancel k pollEventCancelled)
  | trigger c k m =>
    some (if m = 0 then (sh, .returned c)
      else (sh.trigger k m, if (sh.event k).round = .parked then .complete c k m .store
        else .returned c))
  | complete c k m stage =>
    (stage.step sh m).map fun r => (r.1, (r.2.map (complete c k m)).getD (.returned c))

/-- The steps of a coroutine under the calls `ι`. -/
inductive Label (ι : Type*)
  /-- The coroutine begins a wait. -/
  | wait (w : Wait)
  /-- The function of the coroutine ends or throws. -/
  | finish
  | advance (a : Answer)
  /-- A worker takes the coroutine from a run queue and resumes it. -/
  | resume
  | requestCancel (i : ι)
  /-- A notifier, a timer or the poller triggers an event that it got hold of. -/
  | trigger (i : ι) (k : ℕ) (m : EventMask)
  | call (i : ι)

variable {ι : Type*} [DecidableEq ι]

/-- One step of a coroutine under the calls `ι`. -/
def next (s : State ι) : Label ι → Option (State ι)
  | .wait w =>
    match s.pc with
    | .running => some { s with pc := .entry w }
    | _ => none
  | .finish =>
    match s.pc, s.shared.awaitEvent with
    | .running, none => some { s with pc := .final }
    | .running, some e =>
      some { s with
        shared := (s.shared.setRound e (s.shared.event e).round.unRegist).clearAwait
        pc := .final }
    | _, _ => none
  | .advance a => (s.pc.step s.shared a).map fun r => { s with shared := r.1, pc := r.2 }
  | .resume =>
    match s.pc with
    | .suspended k =>
      if 0 < s.shared.queued then some { s with shared := s.shared.resume k, pc := .running }
      else none
    | _ => none
  | .requestCancel i =>
    if s.call i = .idle then some { s with call := Function.update s.call i .requestCancel }
    else none
  | .trigger i k m =>
    if s.call i = .idle ∧ (s.shared.event k).published then
      some { s with call := Function.update s.call i (.trigger .trigger k m) }
    else none
  | .call i =>
    ((s.call i).step s.shared).map fun r =>
      { s with shared := r.1, call := Function.update s.call i r.2 }

/-- A coroutine that runs and has not waited yet. -/
def init : State ι := ⟨{}, .running, fun _ => .idle⟩

/-- The transition system of a coroutine under the calls `ι`. -/
def system (ι : Type*) [DecidableEq ι] : System (State ι) (Label ι) where
  start s := s = init
  next := next

end BbtCoroutine.Coroutine
