import BbtCoroutine.CoPollEvent.Round

/-!
# A model of the yields of a `Coroutine`

One coroutine with its `Context`, and the driver that resumes it.  `YieldWithCallback` leaves a
callback in `m_onyield_callback`, and `Context::Resume` runs it once the coroutine has been
switched out; a callback that reports failure makes `Resume` switch straight back.  The callback
is user code: it may call `_RegistAwaitEvent`, or `Regist` of an event, as often as it likes, and
it reports what it likes.  Triggers, cancellations and calls of `UnRegist` by other parties come in
between at every access to `m_await_event` and to an event.

`Debug` is the part of the tables of `DebugMgr` that is about the coroutine and its events.  A
failed assertion of it ends the process; here it is only noted in `asserted`, and no other step
depends on `Debug`, so that the runs are those of both builds.

`calls`, `call` and `driven` are a record of the run.  No step depends on them.
-/

namespace BbtCoroutine.OnYield

open Transition

/-! ## The tables of `DebugMgr` -/

/-- The records of one coroutine and of its events. -/
structure Debug where
  /-- `m_co_map` has a record of the coroutine. -/
  coMap : Bool := false
  /-- The events of which `m_event_map` has a record. -/
  eventMap : ℕ → Bool := fun _ => false
  /-- An assertion has failed. -/
  asserted : Bool := false

/-- Which allocations of a diagnostic registration fail. -/
structure Alloc where
  fails : Bool := false
  retryFails : Bool := false

namespace Debug

/-- The assertion `b`. -/
def assert (d : Debug) (b : Bool) : Debug :=
  { d with asserted := d.asserted || !b }

/-- `RegistResumeCo`: it asserts that there is no record, and it throws if it cannot make one. -/
def registResumeCo (d : Debug) (fails : Bool) : Debug :=
  { d.assert (!d.coMap) with coMap := d.coMap || !fails }

/-- `OnEvent_ResumeCo`: a registration that throws is tried once more. -/
def onEventResumeCo (d : Debug) (a : Alloc) : Debug :=
  if a.fails then (d.registResumeCo true).registResumeCo a.retryFails else d.registResumeCo false

/-- `OnEvent_YieldCo`. -/
def onEventYieldCo (d : Debug) : Debug :=
  { d.assert d.coMap with coMap := false }

/-- `OnEvent_DestroyCo`. -/
def onEventDestroyCo (d : Debug) : Debug :=
  { d with coMap := false }

/-- `Check_IsResumedCo`. -/
def checkIsResumedCo (d : Debug) : Debug :=
  d.assert (!d.coMap)

/-- The record of an event is made or erased. -/
def setEvent (d : Debug) (k : ℕ) (b : Bool) : Debug :=
  { d with eventMap := Function.update d.eventMap k b }

/-- `TryRegistEvent`; it returns `false` if it cannot make the record. -/
def tryRegistEvent (d : Debug) (k : ℕ) (fails : Bool) : Debug × Bool :=
  ((d.assert (!d.eventMap k)).setEvent k (d.eventMap k || !fails), !fails)

/-- `dbg_regist` of `Regist`: a registration that fails is tried once more. -/
def dbgRegist (d : Debug) (k : ℕ) (a : Alloc) : Debug × Bool :=
  if (d.tryRegistEvent k a.fails).2 then d.tryRegistEvent k a.fails
  else (d.tryRegistEvent k a.fails).1.tryRegistEvent k a.retryFails

/-- `OnEvent_TriggerEvent`. -/
def onEventTriggerEvent (d : Debug) (k : ℕ) : Debug :=
  (d.assert (d.eventMap k)).setEvent k false

/-- `OnEvent_DestroyEvent`. -/
def onEventDestroyEvent (d : Debug) (k : ℕ) : Debug :=
  d.setEvent k false

end Debug

/-! ## State -/

/-- `CoroutineStatus` of a coroutine that has been created. -/
inductive CoroutineStatus
  | runnable
  | running
  | suspend
  | final
  deriving DecidableEq

/-- `CoroutineYieldDisposition`. -/
inductive YieldDisposition
  | manual
  | ready
  | eventWait
  | final
  deriving DecidableEq

/-- `YieldCheckStatus`. -/
inductive YieldCheckStatus
  | noCheck
  | checkSuccess
  | checkFailed
  deriving DecidableEq

/-- Where a coroutine that is switched out goes on. -/
inductive Point
  /-- At the beginning of its function. -/
  | main
  | yield
  /-- In the call `i` of `YieldWithCallback`. -/
  | yieldWithCallback (i : ℕ)
  /-- Its function has ended. -/
  | done
  deriving DecidableEq

/-- How a call of `YieldWithCallback` ends. -/
inductive Answer
  | returned (ret : ℤ)
  | threw
  deriving DecidableEq

/-- The record of a call of `YieldWithCallback`. -/
structure Call where
  /-- The event that the coroutine awaited at the call. -/
  await : Option ℕ := none
  /-- The callback has been stored. -/
  installed : Bool := false
  /-- What the callback has reported, each time it ran. -/
  reports : List Bool := []
  answers : List Answer := []
  deriving DecidableEq

/-- The callback of the call has reported failure, or could not be stored. -/
def Call.failed (c : Call) : Prop :=
  false ∈ c.reports ∨ .threw ∈ c.answers

/-- The call has ended with an error. -/
def Call.erred (c : Call) : Prop :=
  .returned (-1) ∈ c.answers ∨ .threw ∈ c.answers

/-- The members of `Context`, and the calls of `YieldWithCallback` so far. -/
structure Context where
  /-- `m_context`, while the coroutine is switched out. -/
  context : Option Point := some .main
  onyieldCallback : Option ℕ := none
  onyieldCallbackResult : YieldCheckStatus := .noCheck
  calls : ℕ := 0
  call : ℕ → Call := fun _ => {}

/-- The members of the coroutine and its events.  The events made so far are those below
`next`. -/
structure Shared where
  ctx : Context := {}
  runStatus : CoroutineStatus := .runnable
  yieldDisposition : YieldDisposition := .manual
  awaitEvent : Option ℕ := none
  cancelRequested : Bool := false
  next : ℕ := 0
  round : ℕ → Round := fun _ => .inited
  eventDestroyed : ℕ → Bool := fun _ => false
  debug : Debug := {}
  /-- A driver has the coroutine: it has not been parked since it was last handed out. -/
  driven : Bool := true

/-- The steps of a callback.  `verdict` is what the last registration in it has returned, and
`await` says that `Regist` was called by `_RegistAwaitEvent`. -/
inductive Step
  | user (verdict : Option Bool)
  | loadAwait
  | checkCancel (k : ℕ)
  | cancel (k : ℕ)
  | regist (k : ℕ) (await : Bool)
  | listen (k : ℕ) (await : Bool)
  /-- `dbg_regist`; `armed` is false if the event was already won. -/
  | record (k : ℕ) (await armed : Bool)
  | unRegist (k : ℕ) (await : Bool)
  | trackWaiter (k : ℕ) (await : Bool)
  | closed (k : ℕ) (await : Bool)
  | failed (await : Bool)
  deriving DecidableEq

/-- The steps of `_Complete`, with `OnCoPollEvent` as its callback: the record of the event is
erased, the mask is stored, `m_await_event` is cleared, the coroutine is handed to the
scheduler. -/
inductive Stage
  | trigger
  | store
  | clear
  | active
  deriving DecidableEq

/-- Where the coroutine, or the driver that runs it, is. -/
inductive Pc
  /-- The coroutine is switched out, and no driver is inside `Resume` or `CommitYield`. -/
  | ready
  /-- The coroutine has just been switched in. -/
  | switched (p : Point)
  | running
  /-- `Context::YieldWithCallback` stores the callback. -/
  | store (i : ℕ)
  /-- The handler of `Coroutine::YieldWithCallback`. -/
  | threw (i : ℕ)
  /-- The call `i` has ended with an error, and the coroutine goes on. -/
  | continues (i : ℕ)
  /-- `Context::Resume` looks for a callback. -/
  | check
  | callback (i : ℕ) (st : Step)
  /-- `Resume` has returned. -/
  | returned
  | commitPark (k : ℕ)
  | complete (k : ℕ) (m : EventMask) (stage : Stage)
  | exception
  | exceptionUnRegist (k : ℕ)
  /-- The function of the coroutine has ended. -/
  | exit
  /-- `CommitYield` has returned `FINAL`. -/
  | final
  | destroyed
  deriving DecidableEq

/-- How far a call of another party has got. -/
inductive Frame
  | requestCancel
  | loadAwait
  | trigger (k : ℕ) (m : EventMask)
  | complete (k : ℕ) (m : EventMask) (stage : Stage)
  | returned
  deriving DecidableEq

/-- The state of a coroutine, its driver and the calls of other parties. -/
structure State where
  shared : Shared := {}
  pc : Pc := .ready
  frames : List Frame := []

/-- The answers that a step may need from its surroundings. -/
structure Env where
  /-- Storing the callback throws. -/
  throws : Bool := false
  /-- `_TestFailNextAwaitRegist` was called. -/
  testFail : Bool := false
  /-- `StartListen` returns `0`, or the event has no listener. -/
  listens : Bool := true
  /-- The fd slot accepts the waiter, or there is no fd. -/
  tracked : Bool := true
  alloc : Alloc := {}

/-! ## Steps -/

namespace Context

/-- The coroutine is switched out at the point `p`. -/
def switchOut (c : Context) (p : Point) : Context :=
  { c with context := some p }

/-- The coroutine is switched in. -/
def switchIn (c : Context) : Context :=
  { c with context := none }

/-- The record of the call `i` becomes `r`. -/
def setCall (c : Context) (i : ℕ) (r : Call) : Context :=
  { c with call := Function.update c.call i r }

@[simp] lemma setCall_self (c : Context) (i : ℕ) (r : Call) : (c.setCall i r).call i = r := by
  simp only [setCall, Function.update_self]

/-- Setting a call leaves the others alone. -/
lemma setCall_of_ne (c : Context) {i j : ℕ} (r : Call) (h : j ≠ i) :
    (c.setCall i r).call j = c.call j := by
  simp only [setCall, Function.update_of_ne h]

/-- A call of `YieldWithCallback` begins. -/
def begin (c : Context) (await : Option ℕ) : Context :=
  { c with calls := c.calls + 1, call := Function.update c.call c.calls { await := await } }

/-- The callback of the call `i` is stored. -/
def install (c : Context) (i : ℕ) : Context :=
  { c.setCall i { c.call i with installed := true } with
    onyieldCallback := some i, onyieldCallbackResult := .noCheck }

/-- The callback could not be stored. -/
def reset (c : Context) : Context :=
  { c with onyieldCallback := none, onyieldCallbackResult := .noCheck }

/-- The callback of the call `i` reports `ok`. -/
def report (c : Context) (i : ℕ) (ok : Bool) : Context :=
  { c.setCall i { c.call i with reports := (c.call i).reports ++ [ok] } with
    onyieldCallbackResult := if ok then .checkSuccess else .checkFailed }

/-- The call `i` ends. -/
def answer (c : Context) (i : ℕ) (r : Answer) : Context :=
  c.setCall i { c.call i with answers := (c.call i).answers ++ [r] }

/-- What `Context::YieldWithCallback` returns. -/
def ret (c : Context) : ℤ :=
  if c.onyieldCallbackResult = .checkFailed then -1 else 0

end Context

namespace Shared

/-- The round of the event `k` becomes `r`. -/
def setRound (sh : Shared) (k : ℕ) (r : Round) : Shared :=
  { sh with round := Function.update sh.round k r }

/-- The event `k` exists. -/
def alive (sh : Shared) (k : ℕ) : Bool :=
  decide (k < sh.next) && !sh.eventDestroyed k

/-- A yield of the coroutine with the given disposition, up to its switch. -/
def suspend (sh : Shared) (d : YieldDisposition) : Shared :=
  { sh with yieldDisposition := d, runStatus := .suspend, debug := sh.debug.onEventYieldCo }

/-- What `Coroutine::YieldWithCallback` does when its callback has failed. -/
def restore (sh : Shared) (a : Alloc) : Shared :=
  { sh with
    yieldDisposition := .manual, runStatus := .running, debug := sh.debug.onEventResumeCo a }

/-- `_SetAwaitEvent(nullptr)`, with the disposition that goes with it. -/
def clearAwait (sh : Shared) : Shared :=
  { sh with awaitEvent := none, yieldDisposition := .manual }

end Shared

/-- The next step of `_Complete`, and the stage after it. -/
def Stage.step (sh : Shared) (k : ℕ) : Stage → Option (Shared × Option Stage)
  | trigger => some ({ sh with debug := sh.debug.onEventTriggerEvent k }, some store)
  | store => if sh.awaitEvent = none then none else some (sh, some clear) -- `Assert(ev != nullptr)`
  | clear => some (sh.clearAwait, some active)
  | active => some ({ sh with debug := sh.debug.checkIsResumedCo, driven := true }, none)

/-- `_RegistAwaitEvent` at its first access to `m_await_event`. -/
def loadAwaitEvent (sh : Shared) (testFail : Bool) : Shared × Step :=
  match sh.awaitEvent with
  | none => (sh, .failed true)
  | some k =>
    (if testFail then sh.setRound k (sh.round k).unRegist else sh, .checkCancel k)

/-- `Regist` at its first access to the state of the event. -/
def registEvent (sh : Shared) (k : ℕ) (await : Bool) : Step :=
  match sh.round k with
  | .pending _ => .record k await false
  | .inited => .listen k await
  | _ => .failed await

/-- `Regist` at `StartListen`: it fails, or it arms the event unless a trigger came first. -/
def listenEvent (sh : Shared) (e : Env) (k : ℕ) (await : Bool) : Shared × Step :=
  match sh.round k with
  | .pending _ => (sh, .record k await false)
  | .inited =>
    if e.listens then (sh.setRound k .armed, .record k await true)
    else (sh.setRound k .cancelled, .failed await)
  | _ => (sh, .failed await)

/-- `Regist` at `dbg_regist`. -/
def recordEvent (sh : Shared) (a : Alloc) (k : ℕ) (await armed : Bool) : Shared × Step :=
  ({ sh with debug := (sh.debug.dbgRegist k a).1 },
    if (sh.debug.dbgRegist k a).2 then
      if armed then .trackWaiter k await else .user (some true)
    else if armed then .unRegist k await else .failed await)

/-- The next step of the callback. -/
def Step.step (sh : Shared) (e : Env) : Step → Option (Shared × Step)
  | user _ => none
  | loadAwait => some (loadAwaitEvent sh e.testFail)
  | checkCancel k => some (sh, if sh.cancelRequested then .cancel k else .regist k true)
  -- an event is parked by `CommitPark` only, so the triggers of the registration complete nothing
  | cancel k => some (sh.setRound k ((sh.round k).trigger pollEventCancelled), .regist k true)
  | regist k await => some (sh, registEvent sh k await)
  | listen k await => some (listenEvent sh e k await)
  | record k await armed => some (recordEvent sh e.alloc k await armed)
  | unRegist k await => some (sh.setRound k (sh.round k).unRegist, .failed await)
  | trackWaiter k await => some (sh, if e.tracked then .user (some true) else .closed k await)
  | closed k _ => some (sh.setRound k ((sh.round k).trigger pollEventClosed), .user (some true))
  | failed await => some (if await then sh.clearAwait else sh, .user (some false))

/-- The coroutine goes on at the point `p`. -/
def goOn (sh : Shared) (a : Alloc) : Point → Option (Shared × Pc)
  | .main | .yield => some (sh, .running)
  | .yieldWithCallback i =>
    let sh' := { sh with ctx := (sh.ctx.reset).answer i (.returned sh.ctx.ret) }
    some (if sh.ctx.ret ≠ 0 then (sh'.restore a, .continues i) else (sh', .running))
  | .done => none

/-- `CommitPark` publishes the park, or it has to complete the event. -/
def commitPark (sh : Shared) (k : ℕ) : Shared × Pc :=
  match sh.round k with
  | .pending m => (sh.setRound k (.final m), .complete k m .trigger)
  | r => ({ sh.setRound k r.commitPark with driven := false }, .ready)

/-- `CommitYield`. -/
def commitYield (sh : Shared) : Option (Shared × Pc) :=
  if sh.runStatus = .final then
    some ({ sh with yieldDisposition := .final, debug := sh.debug.onEventYieldCo }, .final)
  else match sh.yieldDisposition, sh.awaitEvent with
    | .eventWait, some k => some (sh, .commitPark k)
    | .eventWait, none => none -- `Assert(await_event != nullptr)`
    | _, _ => some (sh, .ready)

/-- `Context::YieldWithCallback` stores its callback and switches out. -/
def storeCallback (sh : Shared) (throws : Bool) (i : ℕ) : Option (Shared × Pc) :=
  if sh.ctx.onyieldCallback ≠ none then none -- `Assert(m_onyield_callback == nullptr)`
  else if throws then some ({ sh with ctx := sh.ctx.reset }, .threw i)
  else some ({ sh with ctx := (sh.ctx.install i).switchOut (.yieldWithCallback i) }, .check)

/-- The next step of the coroutine or of its driver. -/
def Pc.step (sh : Shared) (e : Env) : Pc → Option (Shared × Pc)
  | ready | running | returned | final | destroyed => none
  | switched p => goOn sh e.alloc p
  | store i => storeCallback sh e.throws i
  | threw i =>
    some ({ sh with awaitEvent := none, ctx := sh.ctx.answer i .threw }.restore e.alloc,
      .continues i)
  | continues _ => some (sh, .running)
  | check => some (sh, (sh.ctx.onyieldCallback.map (callback · (.user none))).getD .returned)
  | callback i st => (st.step sh e).map fun r => (r.1, .callback i r.2)
  | commitPark k => some (OnYield.commitPark sh k)
  | complete k m stage =>
    (stage.step sh k).map fun r => (r.1, (r.2.map (complete k m)).getD .ready)
  | exception => some (sh, (sh.awaitEvent.map exceptionUnRegist).getD .exit)
  | exceptionUnRegist k =>
    some ({ sh.setRound k (sh.round k).unRegist with awaitEvent := none }, .exit)
  | exit => some ({ sh with ctx := sh.ctx.switchOut .done }, .check)

/-- The next step of a call of another party. -/
def Frame.step (sh : Shared) : Frame → Option (Shared × Frame)
  | requestCancel => some ({ sh with cancelRequested := true }, .loadAwait)
  | loadAwait =>
    some (sh, (sh.awaitEvent.map fun k => .trigger k pollEventCancelled).getD .returned)
  | trigger k m =>
    some (if m = 0 then (sh, .returned)
      else (sh.setRound k ((sh.round k).trigger m),
        if sh.round k = .parked then .complete k m .trigger else .returned))
  | complete k m stage =>
    (stage.step sh k).map fun r => (r.1, (r.2.map (complete k m)).getD .returned)
  | returned => none

/-- The event that a step of the driver or of the coroutine holds on to. -/
def Pc.holds : Pc → Option ℕ
  | callback _ (.checkCancel k) | callback _ (.cancel k) | callback _ (.regist k _)
  | callback _ (.listen k _) | callback _ (.record k _ _) | callback _ (.unRegist k _)
  | callback _ (.trackWaiter k _) | callback _ (.closed k _) | commitPark k | complete k _ _
  | exceptionUnRegist k => some k
  | _ => none

/-- The event that a call holds on to. -/
def Frame.holds : Frame → Option ℕ
  | trigger k _ | complete k _ _ => some k
  | _ => none

/-- The steps of a coroutine, of its driver and of other parties. -/
inductive Label
  | resume (a : Alloc)
  /-- An event is made for the next wait. -/
  | registCustom
  /-- `_SetAwaitEvent(nullptr)`, when the event of a wait cannot be initialised. -/
  | dropAwait
  | yield
  | yieldAndPushGCoQueue
  | yieldWithCallback
  /-- The function of the coroutine ends or throws. -/
  | finish (throws : Bool)
  /-- The callback calls `_RegistAwaitEvent`. -/
  | registAwaitEvent
  /-- The callback calls `Regist` of an event. -/
  | regist (k : ℕ)
  /-- The callback returns. -/
  | report (ok : Bool)
  | commitYield
  | advance (e : Env)
  | destroy
  | requestCancel
  /-- A notifier, a timer or the poller triggers an event. -/
  | trigger (k : ℕ) (m : EventMask)
  | unRegist (k : ℕ)
  /-- The last reference to an event goes away. -/
  | destroyEvent (k : ℕ)
  | call (n : ℕ)

/-- The driver switches the coroutine in. -/
def resume (sh : Shared) (a : Alloc) : Option (Shared × Pc) :=
  if sh.runStatus = .runnable ∨ sh.runStatus = .suspend then
    sh.ctx.context.map fun p =>
      ({ sh with
        runStatus := .running
        debug := sh.debug.onEventResumeCo a
        ctx := sh.ctx.switchIn }, .switched p)
  else none -- `Assert(m_run_status == CO_RUNNABLE || m_run_status == CO_SUSPEND)`

/-- A yield of the coroutine.  `YieldWithCallback` parks it if it awaits an event. -/
def yield (sh : Shared) : Label → Option (Shared × Pc)
  | .yield => some ({ sh.suspend .manual with ctx := sh.ctx.switchOut .yield }, .check)
  | .yieldAndPushGCoQueue =>
    some ({ sh.suspend .ready with ctx := sh.ctx.switchOut .yield }, .check)
  | .yieldWithCallback =>
    some ({ sh.suspend (if sh.awaitEvent = none then .manual else .eventWait) with
      ctx := sh.ctx.begin sh.awaitEvent }, .store sh.ctx.calls)
  | _ => none

/-- The callback of the call `i` returns; if it has failed, `Resume` switches straight back. -/
def report (sh : Shared) (i : ℕ) : Bool → Option (Shared × Pc)
  | true => some ({ sh with ctx := sh.ctx.report i true }, .returned)
  | false =>
    sh.ctx.context.map fun p =>
      ({ sh with ctx := (sh.ctx.report i false).switchIn }, .switched p)

/-- What the function of a running coroutine can do. -/
def run (sh : Shared) : Label → Option (Shared × Pc)
  | .registCustom =>
    if sh.awaitEvent = none then
      some ({ sh with awaitEvent := some sh.next, next := sh.next + 1 }, .running)
    else none
  | .dropAwait => some ({ sh with awaitEvent := none }, .running)
  | .finish throws =>
    some ({ sh with yieldDisposition := .final, runStatus := .final },
      if throws then .exception else .exit)
  -- `Assert(m_run_status == CO_RUNNING)`
  | l => if sh.runStatus = .running then yield sh l else none

/-- What the code of a callback can do. -/
def runCallback (sh : Shared) (i : ℕ) : Label → Option (Shared × Pc)
  | .registAwaitEvent => some (sh, .callback i .loadAwait)
  | .regist k => if sh.alive k then some (sh, .callback i (.regist k false)) else none
  | .report ok => report sh i ok
  | _ => none

/-- A step of the coroutine or of its driver. -/
def drive (sh : Shared) (pc : Pc) : Label → Option (Shared × Pc)
  | .advance e => pc.step sh e
  | .resume a => if pc = .ready ∨ pc = .returned then resume sh a else none
  | .commitYield => if pc = .returned then OnYield.commitYield sh else none
  | .destroy =>
    if pc = .ready ∨ pc = .returned ∨ pc = .final then
      some ({ sh with awaitEvent := none, debug := sh.debug.onEventDestroyCo }, .destroyed)
    else none
  | l =>
    match pc with
    | .running => run sh l
    | .callback i (.user _) => runCallback sh i l
    | _ => none

/-- One step. -/
def next (s : State) : Label → Option State
  | .requestCancel => some { s with frames := s.frames ++ [.requestCancel] }
  | .trigger k m =>
    if s.shared.alive k then some { s with frames := s.frames ++ [.trigger k m] } else none
  | .unRegist k =>
    if s.shared.alive k then
      some { s with shared := s.shared.setRound k (s.shared.round k).unRegist }
    else none
  | .destroyEvent k =>
    if s.shared.alive k ∧ s.shared.awaitEvent ≠ some k ∧ s.pc.holds ≠ some k ∧
        ∀ f ∈ s.frames, f.holds ≠ some k then
      some { s with shared :=
        { s.shared with
          eventDestroyed := Function.update s.shared.eventDestroyed k true
          debug := s.shared.debug.onEventDestroyEvent k } }
    else none
  | .call n =>
    (s.frames[n]?).bind fun f =>
      (f.step s.shared).map fun r => { s with shared := r.1, frames := s.frames.set n r.2 }
  | l => (drive s.shared s.pc l).map fun r => { s with shared := r.1, pc := r.2 }

/-- The transition system of a coroutine. -/
def system : System State Label where
  start s := s = {}
  next := next

end BbtCoroutine.OnYield
