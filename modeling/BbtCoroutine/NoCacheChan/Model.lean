import BbtCoroutine.Sync.WaitQueue

/-!
# A model of the channel without a cache

One `Chan<T, 0>` and any number of coroutines that write to it, read from it and close it.
The model is made like that of the buffered channels: each coroutine runs at most one
operation at a time, at a point it decides on one `Act` and on the point where it goes on
(`State.plan`), and a critical section of `m_item_queue_mutex` is one act.

An item is named by its write index.  `placed` lists all items in the order of their indices
and `closedAt` is the write index when the channel was closed.  No step depends on them.
-/

namespace BbtCoroutine

open Transition

/-- The members of a channel without a cache. -/
structure NoCacheChan (Co α : Type*) where
  itemCacheRef : List α := []
  readIdx : ℕ := 0
  writeIdx : ℕ := 0
  /-- `m_run_status` is `CHAN_CLOSE`. -/
  isClosed : Bool := false
  isReading : Bool := false
  /-- The wait that `m_enable_read_cond` was last bound to. -/
  enableReadCond : Option (Co × ℕ) := none
  enableWriteConds : WaitQueue Co := []
  placed : List α := []
  closedAt : Option ℕ := none

namespace NoCacheChan

variable {Co α : Type*}

/-- How an operation ends; an operation that has moved an item names its index. -/
inductive Ret (α : Type*)
  | write (r : ℤ) (slot : Option ℕ)
  | read (r : ℤ) (item : Option (ℕ × α))
  | close
  | threw
  deriving DecidableEq

/-- An operation that waits. -/
inductive Waiting
  /-- A write, until its item has been read. -/
  | write (slot : ℕ)
  | read
  deriving DecidableEq

/-- The point an operation has reached. -/
inductive Pc (α : Type*)
  | idle
  | writeCheck (item : α)
  | writeLock (item : α)
  | readFlag
  | readClosed
  | readClosedLock
  | readLock
  | readRelock (ret : ℤ)
  | readRelease (ret : Ret α)
  | closeCheck
  | closeLock
  | prepare (w : Waiting)
  | regist (w : Waiting)
  | callback (w : Waiting)
  | commit (w : Waiting)
  | parked (w : Waiting)
  | unbind (w : Waiting) (ret : ℤ)
  | returned (ret : Ret α)
  deriving DecidableEq

/-- What the environment may do in a step. -/
inductive Env
  | none
  /-- `RegistCustom` returns null. -/
  | registNull
  /-- Making the waiter or setting up the yield throws. -/
  | throws
  /-- `_RegistAwaitEvent` returns `false`. -/
  | registFails
  deriving DecidableEq

/-- What a coroutine does to the channel and the wait records in one step. -/
inductive Act (α : Type*)
  | skip
  | place (item : α)
  | take
  | close
  | setReading (b : Bool)
  | registerEnableWriteCond (slot : ℕ)
  | recheckEnableRead
  | registCustom (w : Waiting)
  | abandon
  | registAwaitEvent
  | registFails
  | commitPark
  | resume (m : EventMask)
  | unbind
  deriving DecidableEq

/-- The state of the channel and of the coroutines that use it. -/
structure State (Co α : Type*) where
  chan : NoCacheChan Co α := {}
  wait : Co → Wait := fun _ => {}
  pc : Co → Pc α := fun _ => .idle

namespace State

variable [DecidableEq Co]

/-! ## Critical sections -/

/-- The wait record of `c` becomes `w`. -/
def setWait (s : State Co α) (c : Co) (w : Wait) : State Co α :=
  { s with wait := Function.update s.wait c w }

/-- The coroutine `c` goes on at `p`. -/
def goto (s : State Co α) (c : Co) (p : Pc α) : State Co α :=
  { s with pc := Function.update s.pc c p }

/-- Every waiter of a list is notified. -/
def notifyAll (s : State Co α) (q : WaitQueue Co) : State Co α :=
  { s with wait := notifyAllIn q s.wait }

/-- `_OnEnableRead`. -/
def onEnableRead (s : State Co α) : State Co α :=
  s.notifyAll [s.chan.enableReadCond]

/-- `_OnEnableWrite`: one waiting writer. -/
def onEnableWrite (s : State Co α) : State Co α :=
  let r := notifyOneIn s.chan.enableWriteConds s.wait
  { s with chan := { s.chan with enableWriteConds := r.1 }, wait := r.2.1 }

/-- A reader waits for the next item to be placed: it is handed over. -/
def handsOver (s : State Co α) : Bool :=
  s.chan.isReading && s.chan.writeIdx == s.chan.readIdx

/-- The first critical section of `Write`. -/
def place (s : State Co α) (item : α) : State Co α :=
  let x := s.chan
  let s' := { s with chan := { x with
    itemCacheRef := x.itemCacheRef ++ [item], writeIdx := x.writeIdx + 1
    placed := x.placed ++ [item] } }
  if s.handsOver then s'.onEnableRead else s'

/-- The end of `Read`: the first item is taken. -/
def take (s : State Co α) : State Co α :=
  let x := s.chan
  onEnableWrite { s with chan := { x with
    itemCacheRef := x.itemCacheRef.tail, readIdx := x.readIdx + 1 } }

/-- The critical section of `Close`. -/
def close (s : State Co α) : State Co α :=
  let x := s.chan
  let s₁ := { s with chan := { x with
    isClosed := true, closedAt := some (x.closedAt.getD x.writeIdx) } }
  let s₂ := if x.isReading then s₁.onEnableRead else s₁
  notifyAll { s₂ with chan := { s₂.chan with enableWriteConds := [] } } x.enableWriteConds

/-- The flag `m_is_reading` is set or reset. -/
def setReading (s : State Co α) (b : Bool) : State Co α :=
  { s with chan := { s.chan with isReading := b } }

/-- `_RegisterEnableWriteCond`, for a write whose item has the index `slot`. -/
def registerEnableWriteCond (s : State Co α) (c : Co) (slot : ℕ) : State Co α :=
  let x := s.chan
  if !x.isClosed && x.readIdx ≤ slot then
    { s with chan := { x with
      enableWriteConds := x.enableWriteConds ++ [some (c, (s.wait c).n)] } }
  else s.notifyAll [some (c, (s.wait c).n)]

/-- `_RecheckEnableRead`. -/
def recheckEnableRead (s : State Co α) : State Co α :=
  if s.chan.readIdx < s.chan.writeIdx ∨ s.chan.isClosed then
    s.notifyAll [s.chan.enableReadCond]
  else s

/-- `RegistCustom` in a waiter that has no event: the one made for a write, or that of the
readers. -/
def registCustom (s : State Co α) (c : Co) : Waiting → State Co α
  | .write _ => s.setWait c ((s.wait c).registCustom false)
  | .read =>
    { s.setWait c ((s.wait c).registCustom true) with
      chan := { s.chan with enableReadCond := some (c, (s.wait c).n + 1) } }

/-- The effect of an act of `c`. -/
def apply (s : State Co α) (c : Co) : Act α → State Co α
  | .skip => s
  | .place item => s.place item
  | .take => s.take
  | .close => s.close
  | .setReading b => s.setReading b
  | .registerEnableWriteCond slot => s.registerEnableWriteCond c slot
  | .recheckEnableRead => s.recheckEnableRead
  | .registCustom w => s.registCustom c w
  | .abandon => s.setWait c (s.wait c).abandon
  | .registAwaitEvent => s.setWait c ((s.wait c).registAwaitEvent false)
  | .registFails => s.setWait c ((s.wait c).registAwaitEvent true).unbind
  | .commitPark => s.setWait c (s.wait c).commitPark
  | .resume m => s.setWait c ((s.wait c).resume m)
  | .unbind => s.setWait c (s.wait c).unbind

/-! ## Parts of the operations -/

/-- `m_co_event` of the read waiter is not null. -/
def condBusy (s : State Co α) : Bool :=
  match s.chan.enableReadCond with
  | none => false
  | some (k, n) => (s.wait k).n = n && (s.wait k).bound

/-- The waiter of the operation cannot be used. -/
def busy (s : State Co α) : Waiting → Bool
  | .write _ => false
  | .read => s.condBusy

end State

/-- Where a wait with the given result leads. -/
def afterWait (ret : ℤ) : Waiting → Pc α
  | .write slot => .returned (.write (if ret = 0 then 0 else -2) (some slot))
  | .read => .readRelock ret

/-- Where a wait that throws leads. -/
def waitThrows : Waiting → Pc α
  | .write _ => .returned .threw
  | .read => .readRelease .threw

namespace State

variable [DecidableEq Co]

/-- The loop of `Read` and its end, in its critical section. -/
def readLoop (s : State Co α) : Act α × Pc α :=
  if s.chan.readIdx < s.chan.writeIdx then
    (.take, .readRelease (.read 0 (s.chan.itemCacheRef.head?.map (s.chan.readIdx, ·))))
  else if s.chan.isClosed then (.skip, .readRelease (.read (-1) none))
  else (.skip, .prepare .read)

/-- The waiter is given an event and the yield is set up. -/
def prepareWait (s : State Co α) (e : Env) (w : Waiting) : Act α × Pc α :=
  if s.busy w ∨ e = .registNull then (.skip, afterWait (-1) w)
  else if e = .throws then (.abandon, waitThrows w)
  else (.registCustom w, .regist w)

/-- The result of a wait that was resumed. -/
def waitRet (s : State Co α) (c : Co) (m : EventMask) : Waiting → ℤ
  | .write _ => 0
  | .read => ((s.wait c).resume m).timedRet

/-- What the coroutine `c` does next. -/
def plan (s : State Co α) (c : Co) (e : Env) : Option (Act α × Pc α) :=
  match s.pc c with
  | .idle => none
  | .returned _ => some (.skip, .idle)
  -- `Write`
  | .writeCheck item =>
    if s.chan.isClosed then some (.skip, .returned (.write (-1) none))
    else some (.skip, .writeLock item)
  | .writeLock item =>
    some (.place item,
      if s.handsOver then .returned (.write 0 (some s.chan.writeIdx))
      else .prepare (.write s.chan.writeIdx))
  -- `Read`
  | .readFlag =>
    if s.chan.isReading then some (.skip, .returned (.read (-2) none))
    else some (.setReading true, .readClosed)
  | .readClosed =>
    if s.chan.isClosed then some (.skip, .readClosedLock) else some (.skip, .readLock)
  | .readClosedLock =>
    if s.chan.writeIdx ≤ s.chan.readIdx then some (.skip, .readRelease (.read (-1) none))
    else some (.skip, .readLock)
  | .readLock => some s.readLoop
  | .readRelock ret =>
    if ret ≠ 0 ∧ ret ≠ 1 then some (.skip, .readRelease (.read (-2) none)) else some s.readLoop
  | .readRelease ret => some (.setReading false, .returned ret)
  -- `Close`
  | .closeCheck =>
    if s.chan.isClosed then some (.skip, .returned .close) else some (.skip, .closeLock)
  | .closeLock => some (.close, .returned .close)
  -- `CoWaiter::WaitWithCallback`, `WaitWithTimeoutAndCallback`
  | .prepare w => some (s.prepareWait e w)
  | .regist w =>
    if e = .registFails then some (.registFails, afterWait (-1) w)
    else some (.registAwaitEvent, .callback w)
  | .callback w =>
    match w with
    | .write slot => some (.registerEnableWriteCond slot, .commit w)
    | .read => some (.recheckEnableRead, .commit w)
  | .commit w => some (.commitPark, .parked w)
  | .parked w =>
    match (s.wait c).round with
    | .final m => some (.resume m, .unbind w (s.waitRet c m w))
    | _ => none
  | .unbind w ret => some (.unbind, afterWait ret w)

end State

/-! ## The system -/

/-- The operations. -/
inductive Op (α : Type*)
  | write (item : α)
  | read
  | close

/-- Where an operation starts. -/
def entry : Op α → Pc α
  | .write item => .writeCheck item
  | .read => .readFlag
  | .close => .closeCheck

/-- The steps of the system: a coroutine calls an operation or goes on, its timer fires, or it is
cancelled in the two steps of `RequestCancel`. -/
inductive Label (Co α : Type*)
  | call (c : Co) (op : Op α)
  | run (c : Co) (e : Env)
  | timer (c : Co)
  | requestCancel (c : Co)
  | cancelTrigger (c : Co)

variable [DecidableEq Co]

/-- One step of the system. -/
def next (s : State Co α) : Label Co α → Option (State Co α)
  | .call c op =>
    match s.pc c with
    | .idle => some (s.goto c (entry op))
    | _ => none
  | .run c e => (s.plan c e).map fun r => (s.apply c r.1).goto c r.2
  | .timer c =>
    if (s.wait c).timerArmed then some (s.setWait c (s.wait c).timeout) else none
  | .requestCancel c => some (s.setWait c (s.wait c).requestCancel)
  | .cancelTrigger c =>
    if (s.wait c).cancelRequested then some (s.setWait c (s.wait c).cancelTrigger) else none

/-- The transition system of a channel. -/
def system (Co α : Type*) [DecidableEq Co] : System (State Co α) (Label Co α) where
  start s := s = {}
  next := next

/-- The coroutine `c` calls `op` and takes `n` steps in which nothing fails. -/
def performs (c : Co) (op : Op α) (n : ℕ) : List (Label Co α) :=
  .call c op :: List.replicate n (.run c .none)

end NoCacheChan

end BbtCoroutine
