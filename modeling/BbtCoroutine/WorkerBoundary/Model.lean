import BbtCoroutine.Chan.Model
import BbtCoroutine.DnsResolver.Model
import BbtCoroutine.Effects.Code
import BbtCoroutine.FdTable.Slots

/-!
# A model of the callbacks of a yield

A coroutine that waits hangs up a callback and switches out; `Context::Resume` then runs the
callback on the stack of the worker.  It registers the event of the wait and does what the
operation has left for this moment: it releases a mutex, enlists the waiter, tries the cases of a
select or queues a job.  If the registration fails the coroutine is entered again at once, and may
hang up the next callback.

Every allocation and every copy of an item may fail.  Whenever the worker holds no lock of theirs
the other parties may act; what they do is an argument, and `Rely` says what they never do to a
coroutine that is switching out.
-/

namespace BbtCoroutine.WorkerBoundary

open Effects Code
open BbtCoroutine.Chan (Case)
open DnsResolver (Pool Job kMaxPendingJobs)

/-! ## State -/

/-- The locks that a callback takes or releases. -/
inductive Lock (Ch : Type)
  /-- `_WaitersMtx`. -/
  | slots
  /-- `m_deferred_mutex` of the poller. -/
  | deferred
  /-- `m_mutex` of the `CoMutex`, of the `CoRWMutex`, of the `CoCond` and of the resolver. -/
  | mutex
  | rwMutex
  | cond
  | resolver
  /-- `m_item_queue_mutex`. -/
  | chan (ch : Ch)
  deriving DecidableEq, Repr

/-- A list in which a waker looks for the waiter of a wait. -/
inductive Place (Ch : Type)
  | mutex
  | readlock
  | writelock
  | cond
  | enableRead (ch : Ch)
  | enableWrite (ch : Ch)
  | readWatcher (ch : Ch)
  | writeWatcher (ch : Ch)
  | job
  deriving DecidableEq, Repr

/-- What the worker shares with the other parties. -/
structure Shared (Co Ch α : Type) where
  wait : Co → Wait
  slots : FdSlots (Co × ℕ) := fun _ => none
  /-- `m_wait_event_queue` of the `CoMutex`. -/
  mutexQueue : WaitQueue Co := []
  waitReadlockQueue : WaitQueue Co := []
  waitWritelockQueue : WaitQueue Co := []
  waitWlockNum : ℕ := 0
  hasWaitWlock : Bool := false
  /-- `m_waiter_queue` of the `CoCond`. -/
  waiterQueue : WaitQueue Co := []
  chan : Ch → Chan Co α
  resolver : Pool Co := {}
  /-- How many events are in `m_deferred_destroy`. -/
  deferredDestroy : ℕ := 0

/-- The waiters in a list. -/
def Shared.queue {Co Ch α : Type} (sh : Shared Co Ch α) : Place Ch → WaitQueue Co
  | .mutex => sh.mutexQueue
  | .readlock => sh.waitReadlockQueue
  | .writelock => sh.waitWritelockQueue
  | .cond => sh.waiterQueue
  | .enableRead ch => [(sh.chan ch).enableReadCond]
  | .enableWrite ch => (sh.chan ch).enableWriteConds
  | .readWatcher ch => (sh.chan ch).readWatchers
  | .writeWatcher ch => (sh.chan ch).writeWatchers
  | .job => sh.resolver.jobs.map fun j => some (j.co, j.n)

/-- What the worker, and the coroutine that has switched out, do not share. -/
structure State (Co Ch α : Type) where
  shared : Shared Co Ch α
  /-- The locks the worker holds. -/
  held : List (Lock Ch) := []
  /-- `m_await_event` is set. -/
  await : Bool := true
  /-- `m_fd` and `m_wait_epoch` of the event, and whether it has an `m_event`. -/
  fd : ℤ := -1
  waitEpoch : ℕ := 0
  event : Bool := false
  /-- `cb_index` of a select, and the outputs of its cases. -/
  cbIndex : Option ℕ := none
  outs : ℕ → Option α := fun _ => none
  /-- `enqueued` of `DnsResolver::Await`. -/
  enqueued : Bool := false

/-! ## What the surroundings do -/

variable {Co Ch α : Type}

/-- What the other parties leave as it is for the coroutine `c`, which is switching out: they may
trigger its event, and take its waiter out of a list only to do so. -/
structure Rely (c : Co) (sh sh' : Shared Co Ch α) : Prop where
  n : (sh'.wait c).n = (sh.wait c).n
  bound : (sh'.wait c).bound = (sh.wait c).bound
  round : (sh'.wait c).round = (sh.wait c).round ∨
    ∃ m, (sh'.wait c).round = (sh.wait c).round.trigger m
  runStatus : (sh'.wait c).round.undecided = true →
    (sh'.wait c).runStatus = (sh.wait c).runStatus
  listed : (sh'.wait c).round.undecided = true →
    ∀ p, some (c, (sh.wait c).n) ∈ sh.queue p → some (c, (sh.wait c).n) ∈ sh'.queue p
  /-- The queue of the resolver is empty until it has a thread. -/
  idle : (sh.resolver.thread = .none → sh.resolver.queue = []) →
    sh'.resolver.thread = .none → sh'.resolver.queue = []

/-- A move of the other parties. -/
def Others (Ch α : Type) (c : Co) :=
  { f : Shared Co Ch α → Shared Co Ch α // ∀ sh, Rely c sh (f sh) }

/-- What may throw in a callback. -/
inductive Site
  | startListen
  /-- The two attempts of `DeferDestroyEvent`. -/
  | deferDestroy
  | deferDestroyAgain
  /-- The insertion of `_Slots()[m_fd]`, and the push to its waiters. -/
  | fdSlot
  | trackWaiter
  /-- The callback of the user of a `CoRWMutex`. -/
  | hook
  /-- The copies of a job. -/
  | job
  /-- The push to the queue of a `CoCond`, a channel or the resolver. -/
  | push
  /-- The thread of the resolver is made. -/
  | thread
  /-- The case `i` of a select is watched. -/
  | watch (i : ℕ)
  /-- The item of the case `i` is copied, and room for it allocated. -/
  | item (i : ℕ)
  /-- The list of the watchers is copied. -/
  | watchers (i : ℕ)
  deriving DecidableEq, Repr

/-- Where the other parties may act. -/
inductive Point
  | listen
  | arm
  | track
  | body
  | watch (i : ℕ)
  | tryOp (i : ℕ)
  | tryLock (i : ℕ)
  deriving DecidableEq, Repr

/-- What a callback meets with. -/
structure Answer (Ch α : Type) (c : Co) where
  fails : Site → Bool := fun _ => false
  /-- `StartListen` returns `0`. -/
  listens : Bool := true
  /-- The event has no object any more. -/
  expired : Co × ℕ → Bool := fun _ => false
  others : Point → Others Ch α c := fun _ => ⟨id, fun _ =>
    { n := rfl, bound := rfl, round := .inl rfl, runStatus := fun _ => rfl,
      listed := fun _ _ h => h, idle := fun h => h }⟩

/-! ## Locks and allocations -/

section Locks

variable [DecidableEq Ch]

/-- A lock is taken. -/
def State.hold (s : State Co Ch α) (l : Lock Ch) : State Co Ch α :=
  { s with held := l :: s.held }

/-- A lock is released. -/
def State.release (s : State Co Ch α) (l : Lock Ch) : State Co Ch α :=
  { s with held := s.held.erase l }

/-- `_SysLock`. -/
def sysLock (l : Lock Ch) : Code (State Co Ch α) Unit :=
  modify fun s => s.hold l

/-- `_SysUnLock`. -/
def sysUnLock (l : Lock Ch) : Code (State Co Ch α) Unit :=
  modify fun s => s.release l

/-- A `std::lock_guard` lives while `p` runs. -/
def guarded {β : Type} (l : Lock Ch) (p : Code (State Co Ch α) β) : Code (State Co Ch α) β :=
  p.scope (fun s => s.hold l) fun s => s.release l

end Locks

variable {c : Co}

/-- An allocation or a copy. -/
def allocate (a : Answer Ch α c) (site : Site) : Code (State Co Ch α) Unit :=
  if a.fails site then throw else pure ()

/-- The shared state is changed. -/
def State.change (s : State Co Ch α) (f : Shared Co Ch α → Shared Co Ch α) : State Co Ch α :=
  { s with shared := f s.shared }

/-- The other parties act. -/
def State.others (s : State Co Ch α) (a : Answer Ch α c) (p : Point) : State Co Ch α :=
  s.change (a.others p).val

/-- The other parties act. -/
def others (a : Answer Ch α c) (p : Point) : Code (State Co Ch α) Unit :=
  modify fun s => s.others a p

/-! ## `_RegistAwaitEvent` -/

section Regist

variable [DecidableEq Co] [DecidableEq Ch]

/-- The wait record of `c` is changed. -/
def Shared.setWait (sh : Shared Co Ch α) (c : Co) (w : Wait) : Shared Co Ch α :=
  { sh with wait := Function.update sh.wait c w }

/-- The round of the event of `c`. -/
def State.round (s : State Co Ch α) (c : Co) : Round :=
  (s.shared.wait c).round

/-- The round of the event of `c` is changed. -/
def State.setRound (s : State Co Ch α) (c : Co) (r : Round) : State Co Ch α :=
  s.change fun sh => sh.setWait c { sh.wait c with round := r }

/-- The waiter of the current wait of `c`. -/
def Shared.waiter (sh : Shared Co Ch α) (c : Co) : Co × ℕ :=
  (c, (sh.wait c).n)

/-- The event leaves the slot of its descriptor. -/
def State.leaveSlot (s : State Co Ch α) (a : Answer Ch α c) : State Co Ch α :=
  s.change fun sh => { sh with slots := sh.slots.untrackWaiter a.expired (sh.waiter c) s.fd }

/-- `_UntrackWaiter`. -/
def untrackWaiter (a : Answer Ch α c) : Code (State Co Ch α) Unit := do
  let fd ← gets State.fd
  when (0 ≤ fd) (guarded .slots (modify fun s => s.leaveSlot a))

/-- The underlying event leaves the event. -/
def State.takeEvent (s : State Co Ch α) : State Co Ch α :=
  { s with event := false }

/-- The underlying event is with the poller. -/
def State.deferred (s : State Co Ch α) : State Co Ch α :=
  s.change fun sh => { sh with deferredDestroy := sh.deferredDestroy + 1 }

/-- `DeferDestroyEvent`: a push that fails is tried once more. -/
def deferDestroyEvent (a : Answer Ch α c) : Code (State Co Ch α) Unit :=
  guarded .deferred do
    catchAll (allocate a .deferDestroy) (allocate a .deferDestroyAgain)
    modify State.deferred

/-- `_CannelAllFdEvent`. -/
def cannelAllFdEvent (a : Answer Ch α c) : Code (State Co Ch α) Unit := do
  untrackWaiter a
  let event ← gets State.event
  when event do
    modify State.takeEvent
    deferDestroyEvent a

/-- `_RegistFdEvent`. -/
def registFdEvent (a : Answer Ch α c) : Code (State Co Ch α) Bool := do
  allocate a .startListen
  pure a.listens

/-- The slot of the descriptor refuses the event. -/
def State.refuses (s : State Co Ch α) : Bool :=
  (s.shared.slots.slot s.fd).closing || (s.shared.slots.slot s.fd).epoch != s.waitEpoch

/-- The slot of the descriptor is there. -/
def State.makeSlot (s : State Co Ch α) : State Co Ch α :=
  s.change fun sh => { sh with slots := sh.slots.set s.fd (sh.slots.slot s.fd) }

/-- The event is in the slot of its descriptor. -/
def State.enterSlot (s : State Co Ch α) (a : Answer Ch α c) : State Co Ch α :=
  s.change fun sh =>
    { sh with slots := (sh.slots.trackWaiter a.expired (sh.waiter c) s.fd s.waitEpoch).1 }

/-- `_TrackWaiter`. -/
def trackWaiter (a : Answer Ch α c) : Code (State Co Ch α) Bool := do
  let tracks ← gets fun s => decide (0 ≤ s.fd) && s.event
  if tracks then
    guarded .slots do
      let missing ← gets fun s => (s.shared.slots s.fd).isNone
      when missing (allocate a .fdSlot)
      modify State.makeSlot
      let refuses ← gets State.refuses
      if refuses then pure false
      else do
        allocate a .trackWaiter
        modify fun s => s.enterSlot a
        pure true
  else pure true

/-- A trigger has won the round. -/
def pending : Round → Bool
  | .pending _ => true
  | _ => false

/-- The end of `Regist` when the event could not be armed: `ARMING` becomes `CANCELLED`, but a
trigger that has won in between makes it succeed after all. -/
def registFailed (a : Answer Ch α c) : Code (State Co Ch α) Bool := do
  modify fun s => s.setRound c (s.round c).unRegist
  cannelAllFdEvent a
  gets fun s => pending (s.round c)

/-- The `try` of `Regist`: the event listens, if there is anything to listen to. -/
def listen (a : Answer Ch α c) : Code (State Co Ch α) Bool := do
  let event ← gets State.event
  if event then catchAll (registFdEvent a) (pure false) else pure true

/-- `Regist`; `true` stands for `0`. -/
def regist (a : Answer Ch α c) : Code (State Co Ch α) Bool := do
  let r ← gets fun s => s.round c
  if r = .inited then do
    let listens ← listen a
    others a .listen
    let r ← gets fun s => s.round c
    -- a round that is no longer `ARMING` was won, and `registFailed` leaves it as it is
    if listens = false ∨ r ≠ .inited then registFailed a
    else do
      modify fun s => s.setRound c .armed
      others a .track
      let tracked ← trackWaiter a
      if tracked then pure true
      else do
        modify fun s => s.setRound c ((s.round c).trigger pollEventClosed)
        pure true
  else pure (pending r)

/-- A requested cancellation triggers the event. -/
def State.checkCancel (s : State Co Ch α) (c : Co) : State Co Ch α :=
  if (s.shared.wait c).cancelRequested then
    s.setRound c ((s.round c).trigger pollEventCancelled)
  else s

/-- `_RegistAwaitEvent`. -/
def registAwaitEvent (a : Answer Ch α c) : Code (State Co Ch α) Bool := do
  modify fun s => s.checkCancel c
  let ok ← regist a
  if ok then pure true
  else do
    modify fun s => { s with await := false }
    pure false

end Regist

/-! ## The callbacks -/

/-- The callbacks, by what they do once the event is registered. -/
inductive Callback (Co Ch α : Type)
  /-- Nothing: the waits of `Coroutine`, and those of `CoWaiter` without a callback. -/
  | regist
  /-- `CoMutex`. -/
  | mutex
  /-- `CoRWMutex`. -/
  | reader
  | writer
  /-- `CoCond`. -/
  | cond
  /-- `_RegisterEnableWriteCond` with its predicate. -/
  | enableWrite (ch : Ch) (needWait : Shared Co Ch α → Bool)
  /-- `_RecheckEnableRead` with its predicate. -/
  | enableRead (ch : Ch) (ready : Shared Co Ch α → Bool)
  /-- `CoSelect::Run`. -/
  | select (cases : List (Case Ch α))
  /-- `DnsResolver::Await` and `AwaitBounded`. -/
  | job

section Body

variable [DecidableEq Co] [DecidableEq Ch]

/-- The waiter of the current wait is notified. -/
def State.notify (s : State Co Ch α) (c : Co) : State Co Ch α :=
  s.change fun sh => { sh with wait := notifyAllIn [some (sh.waiter c)] sh.wait }

/-- The members of the channel `ch` become `x`. -/
def Shared.setChan (sh : Shared Co Ch α) (ch : Ch) (x : Chan Co α) : Shared Co Ch α :=
  { sh with chan := Function.update sh.chan ch x }

/-- The waiter is pushed to the queue of a `CoCond`. -/
def State.pushWaiter (s : State Co Ch α) (c : Co) : State Co Ch α :=
  s.change fun sh => { sh with waiterQueue := sh.waiterQueue ++ [some (sh.waiter c)] }

/-- The callback of `CoCond::Wait` and of `WaitFor`. -/
def condBody (a : Answer Ch α c) : Code (State Co Ch α) Unit := do
  others a .body
  sysLock .cond
  allocate a .push
  modify fun s => s.pushWaiter c
  sysUnLock .cond

/-- The waiter is pushed to the writers of a channel. -/
def State.pushEnableWriteCond (s : State Co Ch α) (c : Co) (ch : Ch) : State Co Ch α :=
  s.change fun sh => sh.setChan ch
    { sh.chan ch with enableWriteConds := (sh.chan ch).enableWriteConds ++ [some (sh.waiter c)] }

/-- `_RegisterEnableWriteCond`. -/
def registerEnableWriteCond (a : Answer Ch α c) (ch : Ch) (needWait : Shared Co Ch α → Bool) :
    Code (State Co Ch α) Unit := do
  others a .body
  guarded (.chan ch) do
    let wait ← gets fun s => needWait s.shared
    if wait then do
      allocate a .push
      modify fun s => s.pushEnableWriteCond c ch
    else modify fun s => s.notify c

/-- `m_enable_read_cond` is notified. -/
def State.notifyReader (s : State Co Ch α) (ch : Ch) : State Co Ch α :=
  s.change fun sh => { sh with wait := notifyAllIn [(sh.chan ch).enableReadCond] sh.wait }

/-- `_RecheckEnableRead`. -/
def recheckEnableRead (a : Answer Ch α c) (ch : Ch) (ready : Shared Co Ch α → Bool) :
    Code (State Co Ch α) Unit := do
  others a .body
  guarded (.chan ch) do
    let b ← gets fun s => ready s.shared
    when b (modify fun s => s.notifyReader ch)

/-- `_OnReaderBlocked` and `_OnWriterQueued`: what the callback of the user throws is dropped. -/
def userHook (a : Answer Ch α c) : Code (State Co Ch α) Unit :=
  catchAll (allocate a .hook) (pure ())

/-- A writer is counted. -/
def State.countWriter (s : State Co Ch α) : State Co Ch α :=
  s.change fun sh => { sh with waitWlockNum := sh.waitWlockNum + 1, hasWaitWlock := true }

/-! ### `DnsResolver` -/

/-- The job of the current wait. -/
def Shared.job (sh : Shared Co Ch α) (c : Co) : Job Co :=
  ⟨c, (sh.wait c).n⟩

/-- The queue of the resolver is full. -/
def State.resolverFull (s : State Co Ch α) : Bool :=
  kMaxPendingJobs ≤ s.shared.resolver.queue.length

/-- A job is pushed; it is taken back if the thread is missing and cannot be made. -/
def State.enqueue (s : State Co Ch α) (a : Answer Ch α c) : State Co Ch α :=
  let r := s.shared.resolver.enqueue (s.shared.job c) (a.fails .thread)
  { s.change fun sh => { sh with resolver := r.1 } with enqueued := r.2 }

/-- `Enqueue`. -/
def enqueue (a : Answer Ch α c) : Code (State Co Ch α) Unit := do
  allocate a .job
  others a .body
  guarded .resolver do
    let full ← gets State.resolverFull
    if full then modify fun s => { s with enqueued := false }
    else do
      allocate a .push
      modify fun s => s.enqueue a

/-- The callback of `Await` and of `AwaitBounded`. -/
def jobBody (a : Answer Ch α c) : Code (State Co Ch α) Unit := do
  enqueue a
  let enqueued ← gets State.enqueued
  when (!enqueued) (modify fun s => s.notify c)

/-! ### `CoSelect` -/

/-- `AddReadWatcher` and `AddWriteWatcher`. -/
def State.addWatcher (s : State Co Ch α) (c : Co) : Case Ch α → State Co Ch α
  | .read ch => s.change fun sh => sh.setChan ch
    { sh.chan ch with readWatchers := (sh.chan ch).readWatchers ++ [some (sh.waiter c)] }
  | .write ch _ => s.change fun sh => sh.setChan ch
    { sh.chan ch with writeWatchers := (sh.chan ch).writeWatchers ++ [some (sh.waiter c)] }

/-- The cases from the number `i` on are watched. -/
def watchAll (a : Answer Ch α c) : List (Case Ch α) → ℕ → Code (State Co Ch α) Unit
  | [], _ => pure ()
  | k :: ks, i => do
    others a (.watch i)
    guarded (.chan k.ch) do
      allocate a (.watch i)
      modify fun s => s.addWatcher c k
    watchAll a ks (i + 1)

/-- `m_is_reading` is set or reset. -/
def State.setReading (ch : Ch) (b : Bool) (s : State Co Ch α) : State Co Ch α :=
  s.change fun sh => sh.setChan ch { sh.chan ch with isReading := b }

/-- The first item is taken out of the queue. -/
def State.pop (s : State Co Ch α) (ch : Ch) : State Co Ch α :=
  s.change fun sh => sh.setChan ch { sh.chan ch with itemQueue := (sh.chan ch).itemQueue.tail }

/-- An item is pushed to the queue. -/
def State.push (s : State Co Ch α) (ch : Ch) (val : α) : State Co Ch α :=
  s.change fun sh => sh.setChan ch
    { sh.chan ch with itemQueue := (sh.chan ch).itemQueue ++ [val] }

/-- The item of the read case `i` is stored. -/
def State.store (s : State Co Ch α) (i : ℕ) (item : α) : State Co Ch α :=
  { s with outs := Function.update s.outs i (some item) }

/-- A waiting writer is notified. -/
def State.notifyWriter (s : State Co Ch α) (ch : Ch) : State Co Ch α :=
  s.change fun sh =>
    let r := notifyOneIn (sh.chan ch).enableWriteConds sh.wait
    { sh with wait := r.2.1 }.setChan ch { sh.chan ch with enableWriteConds := r.1 }

/-- Every waiter in a list is notified. -/
def State.notifyAll (s : State Co Ch α) (q : WaitQueue Co) : State Co Ch α :=
  s.change fun sh => { sh with wait := notifyAllIn q sh.wait }

/-- A list of watchers is copied and notified; an empty one needs no room. -/
def notifyWatchers (a : Answer Ch α c) (i : ℕ) (watchers : WaitQueue Co) :
    Code (State Co Ch α) Unit := do
  when (!watchers.isEmpty) (allocate a (.watchers i))
  modify fun s => s.notifyAll watchers

/-- `_OnEnableWrite`. -/
def onEnableWrite (a : Answer Ch α c) (i : ℕ) (ch : Ch) : Code (State Co Ch α) Unit := do
  modify fun s => s.notifyWriter ch
  let watchers ← gets fun s => (s.shared.chan ch).writeWatchers
  notifyWatchers a i watchers

/-- `_OnEnableRead`. -/
def onEnableRead (a : Answer Ch α c) (i : ℕ) (ch : Ch) : Code (State Co Ch α) Unit := do
  modify fun s => s.notifyReader ch
  let watchers ← gets fun s => (s.shared.chan ch).readWatchers
  notifyWatchers a i watchers

/-- `TryRead`, for the read case `i`. -/
def tryRead (a : Answer Ch α c) (i : ℕ) (ch : Ch) : Code (State Co Ch α) ℤ := do
  others a (.tryOp i)
  let x ← gets fun s => s.shared.chan ch
  if x.isClosed then pure (-1)
  else if x.isReading then pure (-2)
  else
    scope (State.setReading ch true) (State.setReading ch false) do
      others a (.tryLock i)
      guarded (.chan ch) do
        let x ← gets fun s => s.shared.chan ch
        match x.itemQueue with
        | [] => pure (-2)
        | item :: _ => do
          allocate a (.item i)
          modify fun s => (s.store i item).pop ch
          onEnableWrite a i ch
          pure 0

/-- `TryWrite`, for the write case `i`. -/
def tryWrite (a : Answer Ch α c) (i : ℕ) (ch : Ch) (val : α) : Code (State Co Ch α) ℤ := do
  others a (.tryOp i)
  let x ← gets fun s => s.shared.chan ch
  if x.isClosed then pure (-1)
  else do
    others a (.tryLock i)
    guarded (.chan ch) do
      let x ← gets fun s => s.shared.chan ch
      if x.isClosed then pure (-1)
      else if x.full then pure (-2)
      else do
        allocate a (.item i)
        modify fun s => s.push ch val
        when (x.isReading || !x.readWatchers.isEmpty) (onEnableRead a i ch)
        pure 0

/-- `try_op`. -/
def tryOp (a : Answer Ch α c) (i : ℕ) : Case Ch α → Code (State Co Ch α) ℤ
  | .read ch => tryRead a i ch
  | .write ch val => tryWrite a i ch val

/-- `_IsReady`. -/
def isReady (ret : ℤ) : Bool :=
  ret = 0 ∨ ret = -1

/-- `_TryAll`, from the case `i` on. -/
def tryAll (a : Answer Ch α c) : List (Case Ch α) → ℕ → Code (State Co Ch α) (Option ℕ)
  | [], _ => pure none
  | k :: ks, i => do
    let ret ← tryOp a i k
    if isReady ret then pure (some i) else tryAll a ks (i + 1)

/-- The callback of `CoSelect::Run`. -/
def selectBody (a : Answer Ch α c) (cases : List (Case Ch α)) : Code (State Co Ch α) Unit := do
  watchAll a cases 0
  let index ← tryAll a cases 0
  modify fun s => { s with cbIndex := index }
  when index.isSome (modify fun s => s.notify c)

/-! ### All callbacks -/

/-- What a callback does once the event is registered. -/
def Callback.body (a : Answer Ch α c) : Callback Co Ch α → Code (State Co Ch α) Unit
  | .regist => pure ()
  | .mutex => sysUnLock .mutex
  | .reader => do
    userHook a
    sysUnLock .rwMutex
  | .writer => do
    userHook a
    modify State.countWriter
    sysUnLock .rwMutex
  | .cond => condBody a
  | .enableWrite ch needWait => registerEnableWriteCond a ch needWait
  | .enableRead ch ready => recheckEnableRead a ch ready
  | .select cases => selectBody a cases
  | .job => jobBody a

/-- A callback. -/
def Callback.call (a : Answer Ch α c) (cb : Callback Co Ch α) : Code (State Co Ch α) Bool := do
  let ok ← registAwaitEvent a
  if ok then do
    cb.body a
    pure true
  else pure false

/-- The lock that the coroutine holds when it switches out, and that the callback releases. -/
def Callback.held : Callback Co Ch α → List (Lock Ch)
  | .mutex => [.mutex]
  | .reader | .writer => [.rwMutex]
  | _ => []

/-- The coroutine is entered again since its event was not registered: it releases its lock. -/
def Callback.refused (cb : Callback Co Ch α) : Code (State Co Ch α) Unit :=
  modify fun s => cb.held.foldl State.release s

/-- Where the waiter already is when the coroutine switches out. -/
def Callback.entered : Callback Co Ch α → List (Place Ch)
  | .mutex => [.mutex]
  | .reader => [.readlock]
  | .writer => [.writelock]
  | .enableRead ch _ => [.enableRead ch]
  | _ => []

/-- The list in which a channel keeps the watchers of a case. -/
def watcherPlace : Case Ch α → Place Ch
  | .read ch => .readWatcher ch
  | .write ch _ => .writeWatcher ch

/-- Where the wakers of the operation look for the waiter. -/
def Callback.places : Callback Co Ch α → List (Place Ch)
  | .cond => [.cond]
  | .enableWrite ch _ => [.enableWrite ch]
  | .select cases => cases.map watcherPlace
  | .job => [.job]
  | cb => cb.entered

/-- The callback may notify the waiter itself. -/
def Callback.notifies : Callback Co Ch α → Bool
  | .enableWrite _ _ | .select _ | .job => true
  | _ => false

/-! ## `Context::Resume` -/

/-- The state in which a coroutine has switched out and hung up a callback. -/
structure Ready (c : Co) (cb : Callback Co Ch α) (s : State Co Ch α) : Prop where
  held : s.held = cb.held
  await : s.await = true
  entered : ∀ p ∈ cb.entered, some (s.shared.waiter c) ∈ s.shared.queue p
  /-- The waiter can be notified as long as its round is undecided. -/
  waiter : cb.notifies = true → (s.round c).undecided = true →
    (s.shared.wait c).bound = true ∧ (s.shared.wait c).runStatus = .condWait
  idle : s.shared.resolver.thread = .none → s.shared.resolver.queue = []

/-- A coroutine switches out and hangs up a callback. -/
structure Turn (Ch α : Type) [DecidableEq Co] [DecidableEq Ch] (c : Co) where
  cb : Callback Co Ch α
  answer : Answer Ch α c
  state : State Co Ch α
  ready : Ready c cb state

/-- What the coroutine has done from its entry to its next switch; a lock that was left held when
it was entered is not its own. -/
def Turn.enter (g : Turn Ch α c) (s : State Co Ch α) : State Co Ch α :=
  { g.state with held := g.state.held ++ s.held }

/-- `Context::Resume`: the coroutine is entered, and hangs up the callbacks of `gs` one after the
other, as long as they are refused.  The result is the callback that was accepted. -/
def resume : List (Turn Ch α c) → Code (State Co Ch α) (Option (Callback Co Ch α))
  | [] => pure none
  | g :: gs => do
    modify g.enter
    let ok ← g.cb.call g.answer
    if ok then pure (some g.cb)
    else do
      g.cb.refused
      resume gs

/-- The coroutine waits, and its wakers find it. -/
structure Accounted (c : Co) (cb : Callback Co Ch α) (s : State Co Ch α) : Prop where
  await : s.await = true
  registered : (s.round c).registered = true
  listed : (s.round c).undecided = true →
    ∀ p ∈ cb.places, some (s.shared.waiter c) ∈ s.shared.queue p

/-- The worker goes on: it holds no lock, and a coroutine that did not come back to the end of its
code waits in a way that it will be woken. -/
structure Settled (c : Co) (o : Option (Callback Co Ch α)) (s : State Co Ch α) : Prop where
  held : s.held = []
  accounted : ∀ cb, o = some cb → Accounted c cb s

/-- No exception leaves `Context::Resume`, and everything is in order after it. -/
def Contained (gs : List (Turn Ch α c)) (s : State Co Ch α) : Prop :=
  Meets (resume gs) s (Settled c) (fun _ => False) fun _ => False

end Body

end BbtCoroutine.WorkerBoundary
