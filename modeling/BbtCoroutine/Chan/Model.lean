import BbtCoroutine.Sync.WaitQueue
import Mathlib.Data.PNat.Defs
import Mathlib.Algebra.Order.Ring.Nat

/-!
# A model of `Chan` and `CoSelect`

Any number of buffered channels and of coroutines that use them.  Each coroutine runs at
most one operation at a time; its `Pc` is the point the operation has reached.  At a
point a coroutine decides, from the members it reads there, on one `Act` and on the
point where it goes on (`State.plan`), and the act is applied (`State.apply`).

A critical section of `m_item_queue_mutex` is one act: it touches only members that the
mutex protects and the waiters it notifies.  `IsClosed` outside the mutex, the exchange
and the reset of `m_is_reading` and the stages of a wait are steps of their own.  So the
mutex is free in every state of the model.

A waiter is named by its coroutine and the number of the wait it was made for.
`pushed`, `popped` and `closedAt` record the items a channel has accepted and handed out
and how many it had accepted when it was closed, `transfers` the items a coroutine has
moved, and `refused` the cases that the last pass of a select before its park found
being read.  No step depends on them.
-/

namespace BbtCoroutine

open Transition

/-- `ChanStatus`. -/
inductive ChanStatus
  | chanOpen
  | chanClose
  deriving DecidableEq, Repr

/-- The members of a channel. -/
structure Chan (Co α : Type*) where
  maxSize : ℕ+
  itemQueue : List α := []
  runStatus : ChanStatus := .chanOpen
  isReading : Bool := false
  /-- The wait that `m_enable_read_cond` was last bound to. -/
  enableReadCond : Option (Co × ℕ) := none
  enableWriteConds : WaitQueue Co := []
  readWatchers : WaitQueue Co := []
  writeWatchers : WaitQueue Co := []
  pushed : List α := []
  popped : List α := []
  closedAt : Option ℕ := none

namespace Chan

variable {Co Ch α : Type*}

/-- `IsClosed`. -/
def isClosed (x : Chan Co α) : Bool :=
  x.runStatus = .chanClose

/-- The queue has no room. -/
def full (x : Chan Co α) : Bool :=
  (x.maxSize : ℕ) ≤ x.itemQueue.length

/-! ## Operations and their points -/

/-- The operations that write. -/
inductive WriteOp
  | write
  | tryWrite
  | tryWriteFor (timeout : ℤ)
  deriving DecidableEq

/-- The operations that read. -/
inductive ReadOp
  | read
  | readAll
  | tryRead
  | tryReadFor (timeout : ℤ)
  deriving DecidableEq

/-- A case of a `CoSelect`. -/
inductive Case (Ch α : Type*)
  | read (ch : Ch)
  | write (ch : Ch) (val : α)

/-- The channel of a case. -/
def Case.ch : Case Ch α → Ch
  | .read ch | .write ch _ => ch

/-- An item moved by a coroutine. -/
inductive Transfer (Ch α : Type*)
  | read (ch : Ch) (item : α)
  | wrote (ch : Ch) (item : α)

/-- A `CoSelect` with the locals of its `Run`. -/
structure Run (Ch α : Type*) where
  cases : List (Case Ch α)
  timeoutMs : ℤ
  hasDefault : Bool
  /-- The wait its waiter was used for. -/
  waiter : Option ℕ := none
  /-- `cb_index`; `none` stands for `-1`. -/
  cbIndex : Option ℕ := none
  /-- What was stored in the output of each case. -/
  outs : ℕ → Option α := fun _ => none
  /-- The read cases that the callback has found being read. -/
  refused : List ℕ := []
  /-- What the coroutine had moved before. -/
  before : List (Transfer Ch α) := []

/-- An operation with its arguments. -/
inductive Op (Ch α : Type*)
  | write (op : WriteOp) (ch : Ch) (item : α)
  | read (op : ReadOp) (ch : Ch)
  | close (ch : Ch)
  | select (cases : List (Case Ch α)) (timeoutMs : ℤ) (hasDefault : Bool)

/-- How an operation ends.  A write that has pushed its item names its place in `pushed`. -/
inductive Ret (Ch α : Type*)
  | write (op : WriteOp) (ch : Ch) (item : α) (r : ℤ) (slot : Option ℕ)
  | read (op : ReadOp) (ch : Ch) (r : ℤ) (items : List α)
  | close (ch : Ch)
  /-- The result of `Run`; `none` stands for `-1`. -/
  | select (run : Run Ch α) (index : Option ℕ)
  | threw

/-- An operation that waits. -/
inductive Waiting (Ch α : Type*)
  | write (op : WriteOp) (ch : Ch) (item : α)
  | read (op : ReadOp) (ch : Ch)
  | select (run : Run Ch α)

/-- The wait has a timer. -/
def Waiting.timed : Waiting Ch α → Bool
  | .write (.tryWriteFor _) _ _ | .read (.tryReadFor _) _ => true
  | .select run => 0 ≤ run.timeoutMs
  | _ => false

/-- The channel whose `m_enable_read_cond` waits. -/
def Waiting.cond : Waiting Ch α → Option Ch
  | .read _ ch => some ch
  | _ => none

/-- The three calls of `_TryAll`: before the wait, in its callback and after it. -/
inductive Pass
  | first
  | recheck
  | last
  deriving DecidableEq

/-- The point an operation has reached. -/
inductive Pc (Ch α : Type*)
  | idle
  | writeCheck (op : WriteOp) (ch : Ch) (item : α)
  | writeLock (op : WriteOp) (ch : Ch) (item : α)
  | writeCallback (op : WriteOp) (ch : Ch) (item : α)
  | writeRecheck (op : WriteOp) (ch : Ch) (item : α)
  | writeRelock (op : WriteOp) (ch : Ch) (item : α)
  | readCheck (op : ReadOp) (ch : Ch)
  | readFlag (op : ReadOp) (ch : Ch)
  | readClosed (ch : Ch)
  | readClosedLock (ch : Ch)
  | readLock (op : ReadOp) (ch : Ch)
  | readCallback (op : ReadOp) (ch : Ch)
  | readRelock (op : ReadOp) (ch : Ch) (ret : ℤ)
  | readRelease (ch : Ch) (ret : Ret Ch α)
  | closeCheck (ch : Ch)
  | closeLock (ch : Ch)
  | selTry (run : Run Ch α) (pass : Pass) (i : ℕ)
  | selFlag (run : Run Ch α) (pass : Pass) (i : ℕ)
  | selLock (run : Run Ch α) (pass : Pass) (i : ℕ)
  | selRelease (run : Run Ch α) (pass : Pass) (i : ℕ) (ready : Bool)
  | selWatch (run : Run Ch α) (i : ℕ)
  | selNotify (run : Run Ch α)
  | selUnwatch (run : Run Ch α) (i : ℕ) (index : Option ℕ)
  | prepare (w : Waiting Ch α)
  | regist (w : Waiting Ch α)
  | commit (w : Waiting Ch α)
  | parked (w : Waiting Ch α)
  | unbind (w : Waiting Ch α) (ret : ℤ)
  | returned (ret : Ret Ch α)

/-- What the environment may do in a step. -/
inductive Env
  | none
  /-- The clock says that a timed operation has run out of time. -/
  | expired
  /-- `RegistCustom` returns null. -/
  | registNull
  /-- Making the waiter or setting up the yield throws. -/
  | throws
  /-- `_RegistAwaitEvent` returns `false`. -/
  | registFails
  deriving DecidableEq

/-- What a coroutine does to the channels and the wait records in one step. -/
inductive Act (Ch α : Type*)
  | skip
  | push (ch : Ch) (item : α)
  | pop (ch : Ch)
  | popAll (ch : Ch)
  | close (ch : Ch)
  | setReading (ch : Ch) (b : Bool)
  | registerEnableWriteCond (ch : Ch)
  | recheckEnableRead (ch : Ch)
  | addWatcher (case : Case Ch α)
  | removeWatcher (case : Case Ch α) (waiter : Option ℕ)
  | notify
  | registCustom (cond : Option Ch) (timed : Bool)
  | abandon
  | registAwaitEvent
  | registFails
  | commitPark
  | resume (m : EventMask)
  | unbind

/-- The state of the channels and of the coroutines that use them. -/
structure State (Co Ch α : Type*) where
  chan : Ch → Chan Co α
  wait : Co → Wait := fun _ => {}
  pc : Co → Pc Ch α := fun _ => .idle
  transfers : Co → List (Transfer Ch α) := fun _ => []

namespace State

variable [DecidableEq Co] [DecidableEq Ch]

/-! ## Critical sections -/

/-- The members of `ch` become `x`. -/
def setChan (s : State Co Ch α) (ch : Ch) (x : Chan Co α) : State Co Ch α :=
  { s with chan := Function.update s.chan ch x }

/-- The wait record of `c` becomes `w`. -/
def setWait (s : State Co Ch α) (c : Co) (w : Wait) : State Co Ch α :=
  { s with wait := Function.update s.wait c w }

/-- The coroutine `c` goes on at `p`. -/
def goto (s : State Co Ch α) (c : Co) (p : Pc Ch α) : State Co Ch α :=
  { s with pc := Function.update s.pc c p }

/-- The coroutine `c` has moved an item. -/
def record (s : State Co Ch α) (c : Co) (t : Transfer Ch α) : State Co Ch α :=
  { s with transfers := Function.update s.transfers c (s.transfers c ++ [t]) }

/-- Every waiter of a list is notified. -/
def notifyAll (s : State Co Ch α) (q : WaitQueue Co) : State Co Ch α :=
  { s with wait := notifyAllIn q s.wait }

/-- `_OnEnableRead`. -/
def onEnableRead (s : State Co Ch α) (ch : Ch) : State Co Ch α :=
  s.notifyAll ((s.chan ch).enableReadCond :: (s.chan ch).readWatchers)

/-- `_OnEnableWrite`: one waiting writer, and every watcher. -/
def onEnableWrite (s : State Co Ch α) (ch : Ch) : State Co Ch α :=
  let r := notifyOneIn (s.chan ch).enableWriteConds s.wait
  ({ s with wait := r.2.1 }.setChan ch { s.chan ch with enableWriteConds := r.1 }).notifyAll
    (s.chan ch).writeWatchers

/-- An item is pushed, and the readers notified if there may be any. -/
def push (s : State Co Ch α) (c : Co) (ch : Ch) (item : α) : State Co Ch α :=
  let x := s.chan ch
  let s' := (s.setChan ch
    { x with itemQueue := x.itemQueue ++ [item], pushed := x.pushed ++ [item] }).record c
      (.wrote ch item)
  if x.isReading || !x.readWatchers.isEmpty then s'.onEnableRead ch else s'

/-- An item is popped, and a writer notified. -/
def pop (s : State Co Ch α) (c : Co) (ch : Ch) : State Co Ch α :=
  let x := s.chan ch
  match x.itemQueue with
  | [] => s
  | item :: items =>
    ((s.setChan ch { x with itemQueue := items, popped := x.popped ++ [item] }).record c
      (.read ch item)).onEnableWrite ch

/-- The loop of `ReadAll` over `n` items. -/
def popN (c : Co) (ch : Ch) : ℕ → State Co Ch α → State Co Ch α
  | 0, s => s
  | n + 1, s => popN c ch n (s.pop c ch)

/-- The critical section of `Close`. -/
def close (s : State Co Ch α) (ch : Ch) : State Co Ch α :=
  let x := s.chan ch
  let s₁ := s.setChan ch
    { x with runStatus := .chanClose, closedAt := some (x.closedAt.getD x.pushed.length) }
  let s₂ := if x.isReading then s₁.onEnableRead ch else s₁
  ((s₂.setChan ch { s₂.chan ch with enableWriteConds := [] }).notifyAll
    x.enableWriteConds).notifyAll (x.readWatchers ++ x.writeWatchers)

/-- The flag `m_is_reading` is set or reset. -/
def setReading (s : State Co Ch α) (ch : Ch) (b : Bool) : State Co Ch α :=
  s.setChan ch { s.chan ch with isReading := b }

/-- The waiter of the current wait of `c` is notified. -/
def notify (s : State Co Ch α) (c : Co) : State Co Ch α :=
  s.notifyAll [some (c, (s.wait c).n)]

/-- `_RegisterEnableWriteCond`. -/
def registerEnableWriteCond (s : State Co Ch α) (c : Co) (ch : Ch) : State Co Ch α :=
  let x := s.chan ch
  if !x.isClosed && x.full then
    s.setChan ch { x with enableWriteConds := x.enableWriteConds ++ [some (c, (s.wait c).n)] }
  else s.notify c

/-- `_RecheckEnableRead`. -/
def recheckEnableRead (s : State Co Ch α) (ch : Ch) : State Co Ch α :=
  let x := s.chan ch
  if !x.itemQueue.isEmpty || x.isClosed then s.notifyAll [x.enableReadCond] else s

/-- `AddReadWatcher` and `AddWriteWatcher`, for the waiter of the current wait of `c`. -/
def addWatcher (s : State Co Ch α) (c : Co) : Case Ch α → State Co Ch α
  | .read ch => s.setChan ch
    { s.chan ch with readWatchers := (s.chan ch).readWatchers ++ [some (c, (s.wait c).n)] }
  | .write ch _ => s.setChan ch
    { s.chan ch with writeWatchers := (s.chan ch).writeWatchers ++ [some (c, (s.wait c).n)] }

/-- A waiter is removed from a list; one that was never used is in none. -/
def without (q : WaitQueue Co) (c : Co) : Option ℕ → WaitQueue Co
  | none => q
  | some n => q.filter (· ≠ some (c, n))

/-- `RemoveReadWatcher` and `RemoveWriteWatcher`. -/
def removeWatcher (s : State Co Ch α) (c : Co) (waiter : Option ℕ) : Case Ch α → State Co Ch α
  | .read ch => s.setChan ch
    { s.chan ch with readWatchers := without (s.chan ch).readWatchers c waiter }
  | .write ch _ => s.setChan ch
    { s.chan ch with writeWatchers := without (s.chan ch).writeWatchers c waiter }

/-- `RegistCustom` in a waiter that has no event; `cond` is the channel whose read waiter it is. -/
def registCustom (s : State Co Ch α) (c : Co) (cond : Option Ch) (timed : Bool) : State Co Ch α :=
  let s' := s.setWait c ((s.wait c).registCustom timed)
  match cond with
  | none => s'
  | some ch => s'.setChan ch { s.chan ch with enableReadCond := some (c, (s.wait c).n + 1) }

/-- The effect of an act of `c`. -/
def apply (s : State Co Ch α) (c : Co) : Act Ch α → State Co Ch α
  | .skip => s
  | .push ch item => s.push c ch item
  | .pop ch => s.pop c ch
  | .popAll ch => popN c ch (s.chan ch).itemQueue.length s
  | .close ch => s.close ch
  | .setReading ch b => s.setReading ch b
  | .registerEnableWriteCond ch => s.registerEnableWriteCond c ch
  | .recheckEnableRead ch => s.recheckEnableRead ch
  | .addWatcher case => s.addWatcher c case
  | .removeWatcher case waiter => s.removeWatcher c waiter case
  | .notify => s.notify c
  | .registCustom cond timed => s.registCustom c cond timed
  | .abandon => s.setWait c (s.wait c).abandon
  | .registAwaitEvent => s.setWait c ((s.wait c).registAwaitEvent false)
  | .registFails => s.setWait c ((s.wait c).registAwaitEvent true).unbind
  | .commitPark => s.setWait c (s.wait c).commitPark
  | .resume m => s.setWait c ((s.wait c).resume m)
  | .unbind => s.setWait c (s.wait c).unbind

end State

/-! ## Parts of the operations -/

/-- Where a pass of `_TryAll` with the given result leads. -/
def finishPass (run : Run Ch α) : Pass → Option ℕ → Pc Ch α
  | .first, some i => .selUnwatch run 0 (some i)
  | .first, none => if run.hasDefault then .selUnwatch run 0 none else .prepare (.select run)
  | .recheck, some i => .selNotify { run with cbIndex := some i }
  | .recheck, none => .commit (.select run)
  | .last, index => .selUnwatch run 0 index

/-- The case `i` is not ready: the pass goes on with the next one. -/
def nextCase (run : Run Ch α) (pass : Pass) (i : ℕ) : Pc Ch α :=
  if i + 1 < run.cases.length then .selTry run pass (i + 1) else finishPass run pass none

/-- In its callback, a select notes that the case `i` was being read. -/
def Run.refuse (run : Run Ch α) (pass : Pass) (i : ℕ) : Run Ch α :=
  if pass = .recheck then { run with refused := i :: run.refused } else run

/-- Where a wait with the given result leads. -/
def afterWait (ret : ℤ) : Waiting Ch α → Pc Ch α
  | .write op ch item =>
    if ret = 0 then .writeRecheck op ch item
    else
      match op with
      | .tryWriteFor _ => .returned (.write op ch item (if ret = 1 then 1 else -2) none)
      | _ => .returned (.write op ch item (-2) none)
  | .read op ch => .readRelock op ch ret
  | .select run =>
    match run.cbIndex with
    | none => .selTry run .last 0
    | some i => .selUnwatch run 0 (some i)

/-- Where a wait that throws leads. -/
def waitThrows : Waiting Ch α → Pc Ch α
  | .read _ ch => .readRelease ch .threw
  | _ => .returned .threw

/-- The wait has begun. -/
def Waiting.begun (n : ℕ) : Waiting Ch α → Waiting Ch α
  | .select run => .select { run with waiter := some n }
  | w => w

/-- The callback of a wait. -/
def callback : Waiting Ch α → Pc Ch α
  | .write op ch item => .writeCallback op ch item
  | .read op ch => .readCallback op ch
  | .select run => .selWatch run 0

namespace State

variable [DecidableEq Co]

/-- `m_co_event` of the read waiter of `ch` is not null. -/
def condBusy (s : State Co Ch α) (ch : Ch) : Bool :=
  match (s.chan ch).enableReadCond with
  | none => false
  | some (k, n) => (s.wait k).n = n && (s.wait k).bound

/-- The loop of a write in its critical section. -/
def writeLoop (s : State Co Ch α) (e : Env) (op : WriteOp) (ch : Ch) (item : α) :
    Act Ch α × Pc Ch α :=
  if (s.chan ch).full then
    match op with
    | .write => (.skip, .prepare (.write op ch item))
    | .tryWrite => (.skip, .returned (.write op ch item (-2) none))
    | .tryWriteFor timeout =>
      if timeout ≤ 0 ∨ e = .expired then (.skip, .returned (.write op ch item 1 none))
      else (.skip, .prepare (.write op ch item))
  else
    (.push ch item, .returned (.write op ch item 0 (some (s.chan ch).pushed.length)))

/-- The loop of a read in its critical section. -/
def readLoop (s : State Co Ch α) (e : Env) (op : ReadOp) (ch : Ch) : Act Ch α × Pc Ch α :=
  match (s.chan ch).itemQueue with
  | [] =>
    match op with
    | .tryRead => (.skip, .readRelease ch (.read op ch (-2) []))
    | .tryReadFor timeout =>
      if (s.chan ch).isClosed then (.skip, .readRelease ch (.read op ch (-1) []))
      else if timeout ≤ 0 ∨ e = .expired then (.skip, .readRelease ch (.read op ch 1 []))
      else (.skip, .prepare (.read op ch))
    | _ =>
      if (s.chan ch).isClosed then (.skip, .readRelease ch (.read op ch (-1) []))
      else (.skip, .prepare (.read op ch))
  | item :: items =>
    match op with
    | .readAll => (.popAll ch, .readRelease ch (.read op ch 0 (item :: items)))
    | _ => (.pop ch, .readRelease ch (.read op ch 0 [item]))

/-- The waiter is given an event and the yield is set up. -/
def prepareWait (s : State Co Ch α) (c : Co) (e : Env) (w : Waiting Ch α) : Act Ch α × Pc Ch α :=
  if (w.cond.map s.condBusy).getD false ∨ e = .registNull then (.skip, afterWait (-1) w)
  else if e = .throws then (.abandon, waitThrows w)
  else (.registCustom w.cond w.timed, .regist (w.begun ((s.wait c).n + 1)))

/-- A step of `try_op` on the case `i`, in its critical section. -/
def tryCase (s : State Co Ch α) (run : Run Ch α) (pass : Pass) (i : ℕ) :
    Case Ch α → Act Ch α × Pc Ch α
  | .read ch =>
    match (s.chan ch).itemQueue with
    | [] => (.skip, .selRelease run pass i false)
    | item :: _ => (.pop ch,
      .selRelease { run with outs := Function.update run.outs i (some item) } pass i true)
  | .write ch val =>
    if (s.chan ch).isClosed then (.skip, finishPass run pass (some i))
    else if (s.chan ch).full then (.skip, nextCase run pass i)
    else (.push ch val, finishPass run pass (some i))

/-- What the coroutine `c` does next. -/
def plan (s : State Co Ch α) (c : Co) (e : Env) : Option (Act Ch α × Pc Ch α) :=
  match s.pc c with
  | .idle => none
  | .returned _ => some (.skip, .idle)
  -- `Write`, `TryWrite`
  | .writeCheck op ch item =>
    if (s.chan ch).isClosed then some (.skip, .returned (.write op ch item (-1) none))
    else some (.skip, .writeLock op ch item)
  | .writeLock op ch item =>
    if (s.chan ch).isClosed then some (.skip, .returned (.write op ch item (-1) none))
    else some (s.writeLoop e op ch item)
  | .writeCallback op ch item =>
    some (.registerEnableWriteCond ch, .commit (.write op ch item))
  | .writeRecheck op ch item =>
    if (s.chan ch).isClosed then some (.skip, .returned (.write op ch item (-1) none))
    else some (.skip, .writeRelock op ch item)
  | .writeRelock op ch item => some (s.writeLoop e op ch item)
  -- `Read`, `ReadAll`, `TryRead`
  | .readCheck op ch =>
    if (s.chan ch).isClosed then some (.skip, .returned (.read op ch (-1) []))
    else some (.skip, .readFlag op ch)
  | .readFlag op ch =>
    if (s.chan ch).isReading then some (.skip, .returned (.read op ch (-2) []))
    else some (.setReading ch true, if op = .read then .readClosed ch else .readLock op ch)
  | .readClosed ch =>
    if (s.chan ch).isClosed then some (.skip, .readClosedLock ch)
    else some (.skip, .readLock .read ch)
  | .readClosedLock ch =>
    if (s.chan ch).itemQueue.isEmpty then
      some (.skip, .readRelease ch (.read .read ch (-1) []))
    else some (.skip, .readLock .read ch)
  | .readLock op ch => some (s.readLoop e op ch)
  | .readCallback op ch => some (.recheckEnableRead ch, .commit (.read op ch))
  | .readRelock op ch ret =>
    if ret ≠ 0 ∧ ret ≠ 1 then some (.skip, .readRelease ch (.read op ch (-2) []))
    else some (s.readLoop e op ch)
  | .readRelease ch ret => some (.setReading ch false, .returned ret)
  -- `Close`
  | .closeCheck ch =>
    if (s.chan ch).isClosed then some (.skip, .returned (.close ch))
    else some (.skip, .closeLock ch)
  | .closeLock ch => some (.close ch, .returned (.close ch))
  -- `CoSelect::Run`
  | .selTry run pass i =>
    match run.cases[i]? with
    | none => none
    | some case =>
      if (s.chan case.ch).isClosed then some (.skip, finishPass run pass (some i))
      else
        match case with
        | .read _ => some (.skip, .selFlag run pass i)
        | .write _ _ => some (.skip, .selLock run pass i)
  | .selFlag run pass i =>
    match run.cases[i]? with
    | some (.read ch) =>
      if (s.chan ch).isReading then some (.skip, nextCase (run.refuse pass i) pass i)
      else some (.setReading ch true, .selLock run pass i)
    | _ => none
  | .selLock run pass i => run.cases[i]?.map (s.tryCase run pass i)
  | .selRelease run pass i ready =>
    run.cases[i]?.map fun case =>
      (.setReading case.ch false,
        if ready then finishPass run pass (some i) else nextCase run pass i)
  | .selWatch run i =>
    run.cases[i]?.map fun case =>
      (.addWatcher case,
        if i + 1 < run.cases.length then .selWatch run (i + 1) else .selTry run .recheck 0)
  | .selNotify run => some (.notify, .commit (.select run))
  | .selUnwatch run i index =>
    run.cases[i]?.map fun case =>
      (.removeWatcher case run.waiter,
        if i + 1 < run.cases.length then .selUnwatch run (i + 1) index
        else .returned (.select run index))
  -- `CoWaiter::WaitWithCallback`, `WaitWithTimeoutAndCallback`
  | .prepare w => some (s.prepareWait c e w)
  | .regist w =>
    if e = .registFails then some (.registFails, afterWait (-1) w)
    else some (.registAwaitEvent, callback w)
  | .commit w => some (.commitPark, .parked w)
  | .parked w =>
    match (s.wait c).round with
    | .final m =>
      some (.resume m, .unbind w (if w.timed then ((s.wait c).resume m).timedRet else 0))
    | _ => none
  | .unbind w ret => some (.unbind, afterWait ret w)

/-- Where an operation starts; a select has at least one case. -/
def entry (s : State Co Ch α) (c : Co) : Op Ch α → Option (Pc Ch α)
  | .write op ch item => some (.writeCheck op ch item)
  | .read op ch =>
    match op with
    | .read | .readAll => some (.readFlag op ch)
    | _ => some (.readCheck op ch)
  | .close ch => some (.closeCheck ch)
  | .select cases timeoutMs hasDefault =>
    if cases = [] then none
    else some (.selTry { cases, timeoutMs, hasDefault, before := s.transfers c } .first 0)

end State

/-! ## The system -/

/-- The steps of the system: a coroutine calls an operation or goes on, its timer fires, or it is
cancelled in the two steps of `RequestCancel`. -/
inductive Label (Co Ch α : Type*)
  | call (c : Co) (op : Op Ch α)
  | run (c : Co) (e : Env)
  | timer (c : Co)
  | requestCancel (c : Co)
  | cancelTrigger (c : Co)

variable [DecidableEq Co] [DecidableEq Ch]

/-- One step of the system. -/
def next (s : State Co Ch α) : Label Co Ch α → Option (State Co Ch α)
  | .call c op =>
    match s.pc c with
    | .idle => (s.entry c op).map fun p => s.goto c p
    | _ => none
  | .run c e => (s.plan c e).map fun r => (s.apply c r.1).goto c r.2
  | .timer c =>
    if (s.wait c).timerArmed then some (s.setWait c (s.wait c).timeout) else none
  | .requestCancel c => some (s.setWait c (s.wait c).requestCancel)
  | .cancelTrigger c =>
    if (s.wait c).cancelRequested then some (s.setWait c (s.wait c).cancelTrigger) else none

/-- The state before any operation, for channels of the given sizes. -/
def init (size : Ch → ℕ+) : State Co Ch α where
  chan ch := { maxSize := size ch }

/-- The transition system of the channels. -/
def system (Co Ch α : Type*) [DecidableEq Co] [DecidableEq Ch] :
    System (State Co Ch α) (Label Co Ch α) where
  start s := ∃ size, s = init size
  next := next

/-- The coroutine `c` calls `op` and takes `n` steps in which nothing fails. -/
def performs (c : Co) (op : Op Ch α) (n : ℕ) : List (Label Co Ch α) :=
  .call c op :: List.replicate n (.run c .none)

end Chan

end BbtCoroutine
