import BbtCoroutine.Effects.Code
import BbtCoroutine.BoundedWait.Model
import BbtCoroutine.CoWaiter.Model

/-!
# A model of the setup of a wait

Every operation that may wait first makes and initialises an event, occupies the slot of a waiter
or queues an entry, and stores the callback of the yield.  Each of these steps may fail.  The
operations are modelled up to the point where the coroutine has switched out: there the code
parks.  What the other parties do meanwhile is an argument: they may cancel the coroutine at any
moment, and change a waiter whenever its mutex is free.
-/

namespace BbtCoroutine.Establish

open Effects Code
open BoundedWait (intMax toInt)
open CoWaiter (Status)

/-! ## State -/

/-- An event or a waiter: one that this coroutine has made, or another one. -/
inductive Obj
  | own (k : ℕ)
  | other (n : ℕ)
  deriving DecidableEq, Repr

/-- The locks of the runtime that the setup of a wait takes. -/
inductive Lock
  | await
  | notify
  | slots
  | mutex
  deriving DecidableEq, Repr

/-- `CoroutineStatus`, as far as the setup of a wait sees it. -/
inductive CoroutineStatus
  | running
  | suspend
  deriving DecidableEq, Repr

/-- The coroutine, and the objects it waits in. -/
structure State where
  runStatus : CoroutineStatus := .running
  awaitEvent : Option Obj := none
  /-- `m_onyield_callback` is set. -/
  onYield : Bool := false
  /-- The locks the coroutine holds. -/
  held : List Lock := []
  /-- The number of events it has made, and their rounds. -/
  events : ℕ := 0
  round : ℕ → Round := fun _ => .inited
  /-- The number of waiters it has made. -/
  waiters : ℕ := 0
  /-- `m_co_event` of each waiter. -/
  slot : Obj → Option Obj := fun _ => none
  /-- `m_wait_event_queue` of the `CoMutex`. -/
  mutexQueue : List (Option Obj) := []
  /-- The queues of the `CoRWMutex`. -/
  readQueue : List (Option Obj) := []
  writeQueue : List (Option Obj) := []

/-- The allocations of the setup of a wait. -/
inductive Site
  /-- `CoWaiter::Create`. -/
  | waiter
  /-- The callback of the operation itself. -/
  | callback
  /-- `CoPollEvent::Create`. -/
  | event
  /-- The insertion of `_Slots()[fd]`. -/
  | fdSlot
  /-- An attempt of `CreateEvent`. -/
  | createEvent (attempt : ℕ)
  /-- The push to a wait queue. -/
  | push
  /-- The callback of the yield is made. -/
  | wrap
  /-- It is stored in the context. -/
  | store
  deriving DecidableEq, Repr

/-- What the setup of a wait meets with. -/
structure Answer where
  fails : Site → Bool := fun _ => false
  cancelRequested : Bool := false
  /-- A cancellation has triggered the event before `InitCustomEvent` looks at its phase. -/
  cancelledCustom : Bool := false
  /-- The same for `InitFdEvent`. -/
  cancelledFd : Bool := false
  /-- The deadline has passed. -/
  expired : Bool := false
  /-- `remain_ms`. -/
  remainMs : ℤ := 1
  /-- The event in the slot of the waiter is final. -/
  final : Bool := false
  /-- The closing flag of the fd slot. -/
  closing : Bool := false
  /-- `CreateEvent` returns an event. -/
  created : Bool := true
  /-- The lock is not free. -/
  blocked : Bool := true
  /-- What others have put into the slot of the waiter after it was occupied. -/
  taken : Option (Option ℕ) := none

/-! ## The parts of a setup -/

/-- A lock is taken. -/
def State.hold (s : State) (l : Lock) : State :=
  { s with held := l :: s.held }

/-- A lock is released. -/
def State.release (s : State) (l : Lock) : State :=
  { s with held := s.held.erase l }

/-- A `std::lock_guard` lives while `p` runs. -/
def guarded {α : Type} (l : Lock) (p : Code State α) : Code State α :=
  p.scope (fun s => s.hold l) fun s => s.release l

/-- `_SysLock`. -/
def sysLock : Code State Unit :=
  modify fun s => s.hold .mutex

/-- `_SysUnLock`. -/
def sysUnLock : Code State Unit :=
  modify fun s => s.release .mutex

/-- An allocation. -/
def allocate (a : Answer) (site : Site) : Code State Unit :=
  if a.fails site then throw else pure ()

/-- A closure of one pointer is kept in the `std::function` itself; a larger one is allocated. -/
def allocateIf (heap : Bool) (a : Answer) (site : Site) : Code State Unit :=
  if heap then allocate a site else pure ()

/-- `_AwaitEvent`. -/
def getAwaitEvent : Code State (Option Obj) :=
  guarded .await (gets State.awaitEvent)

/-- `_SetAwaitEvent`. -/
def setAwaitEvent (e : Option Obj) : Code State Unit :=
  guarded .await (modify fun s => { s with awaitEvent := e })

/-- A new event of the coroutine. -/
def State.makeEvent (s : State) : State :=
  { s with events := s.events + 1, round := Function.update s.round s.events .inited }

/-- The event `k` is triggered. -/
def State.trigger (s : State) (k : ℕ) (m : EventMask) : State :=
  { s with round := Function.update s.round k ((s.round k).trigger m) }

/-- `CoPollEvent::Create`. -/
def create (a : Answer) : Code State ℕ := do
  allocate a .event
  let k ← gets State.events
  modify State.makeEvent
  pure k

/-- `CoPollEvent::Trigger`, if there is reason to. -/
def triggerIf (b : Bool) (k : ℕ) (m : EventMask) : Code State Unit :=
  if b then modify fun s => s.trigger k m else pure ()

/-- `InitCustomEvent`. -/
def initCustomEvent (a : Answer) (k : ℕ) : Code State ℤ := do
  triggerIf a.cancelledCustom k pollEventCancelled
  let r ← gets fun s => s.round k
  pure (if r ≠ .inited then -1 else 0)

/-- The attempts of `InitFdEvent` to make an event, when `n` of the four are left. -/
def createEvent (a : Answer) : ℕ → ℤ
  | 0 => -1
  | n + 1 =>
    if a.fails (.createEvent (3 - n)) then createEvent a n else if a.created then 0 else -1

/-- The closing flag is sampled; that makes the slot of the descriptor, if there is none. -/
def sampleClosing (a : Answer) (fd : ℤ) : Code State Bool :=
  if 0 ≤ fd then
    guarded .slots do
      allocate a .fdSlot
      pure a.closing
  else pure false

/-- `InitFdEvent`. -/
def initFdEvent (a : Answer) (k : ℕ) (fd timeout : ℤ) : Code State ℤ := do
  triggerIf a.cancelledFd k pollEventCancelled
  let r ← gets fun s => s.round k
  if r ≠ .inited ∨ timeout < 0 then pure (-1)
  else do
    let closing ← sampleClosing a fd
    triggerIf closing k pollEventClosed
    pure (if closing then 0 else createEvent a 4)

/-- What follows the initialisation of an event: a failure takes the event back. -/
def afterInit (k : ℕ) (ret : ℤ) : Code State (Option ℕ) :=
  if ret ≠ 0 then do
    setAwaitEvent none
    pure none
  else pure (some k)

/-- `RegistCustom`, without a timeout or with one. -/
def registCustom (a : Answer) (timeout : Option ℤ) : Code State (Option ℕ) := do
  let e ← getAwaitEvent
  if e ≠ none then pure none
  else do
    let k ← create a
    setAwaitEvent (some (.own k))
    let ret ← initCustomEvent a k
    let e ← afterInit k ret
    match e, timeout with
    | some k, some ms => do
      let ret ← initFdEvent a k (-1) ms
      afterInit k ret
    | e, _ => pure e

/-- `Context::YieldWithCallback`. -/
def contextYieldWithCallback {α : Type} (a : Answer) (heap : Bool) : Code State α := do
  onThrow
    (do
      allocateIf heap a .store
      modify fun s => { s with onYield := true })
    (modify fun s => { s with onYield := false })
  park

/-- `Coroutine::YieldWithCallback`. -/
def yieldWithCallback {α : Type} (a : Answer) (heap : Bool) : Code State α := do
  modify fun s => { s with runStatus := .suspend }
  onThrow (contextYieldWithCallback a heap) do
    setAwaitEvent none
    modify fun s => { s with runStatus := .running }

/-! ## `Coroutine` -/

/-- The waits of `Coroutine` for a descriptor or a timeout. -/
def yieldUntil (a : Answer) (fd timeout : ℤ) : Code State ℤ :=
  if a.cancelRequested then pure 1
  else do
    let k ← create a
    setAwaitEvent (some (.own k))
    let ret ← initFdEvent a k fd timeout
    let e ← afterInit k ret
    if e = none then pure (-1) else yieldWithCallback a false

/-- `YieldUntilTimeout`. -/
def yieldUntilTimeout (a : Answer) (ms : ℤ) : Code State ℤ :=
  yieldUntil a (-1) ms

/-- `YieldUntilFdReadable`. -/
def yieldUntilFdReadable (a : Answer) (fd : ℤ) (timeout : Option ℤ) : Code State ℤ :=
  yieldUntil a fd (timeout.getD 0)

/-- `YieldUntilFdWriteable`. -/
def yieldUntilFdWriteable (a : Answer) (fd : ℤ) (timeout : Option ℤ) : Code State ℤ :=
  yieldUntil a fd (timeout.getD 0)

/-- `YieldUntilFdEx`. -/
def yieldUntilFdEx (a : Answer) (fd timeout : ℤ) : Code State ℤ :=
  yieldUntil a fd timeout

/-! ## `CoWaiter` -/

/-- `m_co_event` of the waiter `w` is set. -/
def State.setSlot (s : State) (w : Obj) (e : Option Obj) : State :=
  { s with slot := Function.update s.slot w e }

/-- The event `k` is taken out of the slot of the waiter, if it is still there. -/
def State.clearSlot (s : State) (w : Obj) (k : ℕ) : State :=
  if s.slot w = some (.own k) then s.setSlot w none else s

/-- The mutex of the waiter is free, and others may have emptied its slot or taken it. -/
def meanwhile (a : Answer) (w : Obj) : Code State Unit :=
  match a.taken with
  | none => pure ()
  | some e => modify fun s => s.setSlot w (e.map .other)

/-- The coroutine yields once its event is in the slot of the waiter. -/
def suspendIn {α : Type} (a : Answer) (w : Obj) (k : ℕ) (heap : Bool) : Code State α := do
  meanwhile a w
  onThrow
    (do
      allocateIf heap a .wrap
      yieldWithCallback a heap)
    (do
      setAwaitEvent none
      guarded .notify (modify fun s => s.clearSlot w k))

/-- The forms of a wait that return a number. -/
def waitIn (a : Answer) (w : Obj) (timeout : Option ℤ) (heap : Bool) : Code State ℤ := do
  let e ← guarded .notify do
    let old ← gets fun s => s.slot w
    if old ≠ none then pure none
    else do
      let e ← registCustom a timeout
      modify fun s => s.setSlot w (e.map .own)
      pure e
  match e with
  | none => pure (-1)
  | some k => suspendIn a w k heap

/-- `CoWaiter::Wait`. -/
def wait (a : Answer) (w : Obj) : Code State ℤ :=
  waitIn a w none false

/-- `CoWaiter::WaitWithCallback`. -/
def waitWithCallback (a : Answer) (w : Obj) : Code State ℤ :=
  waitIn a w none true

/-- `CoWaiter::WaitWithTimeout`. -/
def waitWithTimeout (a : Answer) (w : Obj) (ms : ℤ) : Code State ℤ :=
  waitIn a w (some ms) false

/-- `CoWaiter::WaitWithTimeoutAndCallback`. -/
def waitWithTimeoutAndCallback (a : Answer) (w : Obj) (ms : ℤ) : Code State ℤ :=
  waitIn a w (some ms) true

/-- `timeout_ms`, if the wait has a timer. -/
def Answer.timeoutMs (a : Answer) : Option ℤ :=
  if a.remainMs < intMax then some (toInt a.remainMs) else none

/-- The checks of the forms that return a status, up to the making of their event. -/
def statusEntry (a : Answer) (w : Obj) (regist : Code State (Status ⊕ ℕ)) :
    Code State (Status ⊕ ℕ) :=
  guarded .notify do
    let old ← gets fun s => s.slot w
    if a.cancelRequested then pure (.inl .cancelled)
    else if a.expired then pure (.inl .timedOut)
    else if old ≠ none ∧ a.final = false then pure (.inl .alreadyWaiting)
    else do
      modify fun s => s.setSlot w none
      let e ← regist
      match e with
      | .inl st => pure (.inl st)
      | .inr k => do
        modify fun s => s.setSlot w (some (.own k))
        pure (.inr k)

/-- The rest of the forms that return a status, once they have occupied the slot. -/
def afterEntry (a : Answer) (w : Obj) : Status ⊕ ℕ → Code State Status
  | .inl st => pure st
  | .inr k => suspendIn a w k true

/-- `RegistCustom` in the options form. -/
def optionsRegist (a : Answer) : Code State (Status ⊕ ℕ) := do
  let e ← registCustom a a.timeoutMs
  pure (e.elim (.inl .runtimeUnavailable) .inr)

/-- `CoWaiter::WaitWithCallback` on options. -/
def waitOptions (a : Answer) (w : Obj) : Code State Status := do
  let e ← statusEntry a w (optionsRegist a)
  afterEntry a w e

/-- The event of the combined form. -/
def combinedRegist (a : Answer) (fd : ℤ) (wantFd : Bool) : Code State (Status ⊕ ℕ) :=
  if a.remainMs ≤ 0 then pure (.inl .timedOut)
  else do
    let e ← registCustom a none
    match e with
    | none => pure (.inl .runtimeUnavailable)
    | some k =>
      if wantFd = false ∧ a.timeoutMs = none then pure (.inr k)
      else do
        let ret ← initFdEvent a k fd (a.timeoutMs.getD 0)
        let e ← afterInit k ret
        pure (e.elim (.inl .runtimeUnavailable) .inr)

/-- `CoWaiter::Wait` on combined options. -/
def waitCombined (a : Answer) (w : Obj) (fd : ℤ) (wantFd : Bool) : Code State Status :=
  if wantFd = true ∧ fd < 0 then pure .invalidOptions
  else do
    let e ← statusEntry a w (combinedRegist a fd wantFd)
    afterEntry a w e

/-! ## `CoMutex` -/

/-- The last entry of a queue becomes a tombstone if it is `e`. -/
def dropLast (q : List (Option Obj)) (e : Obj) : List (Option Obj) :=
  if q.getLast? = some (some e) then q.dropLast ++ [none] else q

/-- The handler of a wait for the mutex: its callback has not run, so the lock is still held. -/
def mutexRollback (e : Option ℕ) : Code State Unit := do
  setAwaitEvent none
  modify fun s =>
    { s with mutexQueue := e.elim s.mutexQueue fun k => dropLast s.mutexQueue (.own k) }
  sysUnLock

/-- `_WaitUnLock` and `_WaitUnLockUnitlTimeout`; the local `event` of the source is null until it
is made. -/
def waitUnLock (a : Answer) (timeout : Option ℤ) : Code State ℤ := do
  let e ← onThrow (registCustom a timeout) (mutexRollback none)
  match e with
  | none => pure (-1)
  | some k =>
    onThrow
      (if timeout.getD 0 < 0 then do
        setAwaitEvent none
        pure (-1)
      else do
        allocate a .push
        modify fun s => { s with mutexQueue := s.mutexQueue ++ [some (.own k)] }
        allocate a .wrap
        yieldWithCallback a true)
      (mutexRollback (some k))

/-- `CoMutex::Lock`: a wait that returns has failed, and the coroutine queues itself again. -/
def lock (a : Answer) : Code State ℤ := do
  sysLock
  if a.blocked then do
    let _ ← waitUnLock a none
    sysUnLock
    park
  else do
    sysUnLock
    pure 0

/-- `CoMutex::TryLock` with a timeout. -/
def tryLock (a : Answer) (ms : ℤ) : Code State ℤ := do
  sysLock
  if a.blocked then do
    let ret ← waitUnLock a (some ms)
    sysUnLock
    pure ret
  else do
    sysUnLock
    pure 0

/-! ## `CoRWMutex` -/

/-- `CoWaiter::Create`. -/
def createWaiter (a : Answer) : Code State Obj := do
  allocate a .waiter
  let k ← gets State.waiters
  modify fun s => { s.setSlot (.own k) none with waiters := k + 1 }
  pure (.own k)

/-- One of the two queues of the `CoRWMutex` is changed. -/
def State.onQueue (s : State) (reader : Bool) (f : List (Option Obj) → List (Option Obj)) : State :=
  { s with
    readQueue := if reader then f s.readQueue else s.readQueue
    writeQueue := if reader then s.writeQueue else f s.writeQueue }

/-- `_WaitRLock`, `_WaitWLock` and their timed forms. -/
def waitRWLock (a : Answer) (reader : Bool) (timeout : Option ℤ) : Code State ℤ :=
  if timeout.getD 0 < 0 then pure (-1)
  else do
    let w ← createWaiter a
    allocate a .push
    modify fun s => s.onQueue reader (· ++ [some w])
    onThrow (waitIn a w timeout true) (modify fun s => s.onQueue reader (dropLast · w))

/-- `RLock`, `WLock` and their timed forms. -/
def rwLock (a : Answer) (reader : Bool) (timeout : Option ℤ) : Code State ℤ := do
  sysLock
  if a.blocked then do
    let ret ← onThrow
      (do
        allocate a .callback
        waitRWLock a reader timeout)
      sysUnLock
    sysUnLock
    pure ret
  else do
    sysUnLock
    pure 0

/-- `CoRWMutex::RLock`. -/
def rLock (a : Answer) : Code State ℤ :=
  rwLock a true none

/-- `CoRWMutex::WLock`. -/
def wLock (a : Answer) : Code State ℤ :=
  rwLock a false none

/-- `CoRWMutex::TryRLock` with a timeout. -/
def tryRLock (a : Answer) (ms : ℤ) : Code State ℤ :=
  rwLock a true (some ms)

/-- `CoRWMutex::TryWLock` with a timeout. -/
def tryWLock (a : Answer) (ms : ℤ) : Code State ℤ :=
  rwLock a false (some ms)

/-! ## `CoCond` -/

/-- `CoCond::Wait` and `CoCond::WaitFor`. -/
def condWaitIn (a : Answer) (timeout : Option ℤ) : Code State ℤ := do
  let w ← createWaiter a
  allocate a .callback
  waitIn a w timeout true

/-- `CoCond::Wait`. -/
def condWait (a : Answer) : Code State ℤ :=
  condWaitIn a none

/-- `CoCond::WaitFor`. -/
def condWaitFor (a : Answer) (ms : ℤ) : Code State ℤ :=
  condWaitIn a (some ms)

/-! ## The operations -/

/-- The operations that may wait. -/
inductive Op
  | yieldUntilTimeout (ms : ℤ)
  | yieldUntilFdReadable (fd : ℤ) (timeout : Option ℤ)
  | yieldUntilFdWriteable (fd : ℤ) (timeout : Option ℤ)
  | yieldUntilFdEx (fd timeout : ℤ)
  | wait (w : ℕ)
  | waitWithCallback (w : ℕ)
  | waitWithTimeout (w : ℕ) (ms : ℤ)
  | waitWithTimeoutAndCallback (w : ℕ) (ms : ℤ)
  | waitOptions (w : ℕ)
  | waitCombined (w : ℕ) (fd : ℤ) (wantFd : Bool)
  | lock
  | tryLock (ms : ℤ)
  | rLock
  | wLock
  | tryRLock (ms : ℤ)
  | tryWLock (ms : ℤ)
  | condWait
  | condWaitFor (ms : ℤ)
  deriving DecidableEq, Repr

/-- What an operation returns. -/
inductive Result
  | ret (n : ℤ)
  | status (st : Status)
  deriving DecidableEq

/-- The code of an operation; the waiters that it is called on are not its own. -/
def Op.run (a : Answer) : Op → Code State Result
  | yieldUntilTimeout ms => Result.ret <$> Establish.yieldUntilTimeout a ms
  | yieldUntilFdReadable fd ms => Result.ret <$> Establish.yieldUntilFdReadable a fd ms
  | yieldUntilFdWriteable fd ms => Result.ret <$> Establish.yieldUntilFdWriteable a fd ms
  | yieldUntilFdEx fd ms => Result.ret <$> Establish.yieldUntilFdEx a fd ms
  | wait w => Result.ret <$> Establish.wait a (.other w)
  | waitWithCallback w => Result.ret <$> Establish.waitWithCallback a (.other w)
  | waitWithTimeout w ms => Result.ret <$> Establish.waitWithTimeout a (.other w) ms
  | waitWithTimeoutAndCallback w ms =>
    Result.ret <$> Establish.waitWithTimeoutAndCallback a (.other w) ms
  | waitOptions w => Result.status <$> Establish.waitOptions a (.other w)
  | waitCombined w fd wantFd => Result.status <$> Establish.waitCombined a (.other w) fd wantFd
  | lock => Result.ret <$> Establish.lock a
  | tryLock ms => Result.ret <$> Establish.tryLock a ms
  | rLock => Result.ret <$> Establish.rLock a
  | wLock => Result.ret <$> Establish.wLock a
  | tryRLock ms => Result.ret <$> Establish.tryRLock a ms
  | tryWLock ms => Result.ret <$> Establish.tryWLock a ms
  | condWait => Result.ret <$> Establish.condWait a
  | condWaitFor ms => Result.ret <$> Establish.condWaitFor a ms

end BbtCoroutine.Establish
