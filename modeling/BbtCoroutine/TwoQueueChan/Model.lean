import BbtCoroutine.Transition.System
import Mathlib.Data.Int.Notation
import Mathlib.Data.Nat.Notation
import Mathlib.Logic.Function.Basic

/-!
# A model of all operations of the channel without a cache

`Chan<T, 0>` overrides `Write`, `Read` and `Close` and takes the other operations from
`Chan<T, 1>`.  The overridden operations use `m_item_cache_ref` and two indices, the inherited ones
`m_item_queue`; both share the mutex, the flag of the readers and the waiters.

A critical section of the mutex is one step.  How a wait ends is an answer of the environment: the
model allows every result at any time.  `reader` is the coroutine that has set `m_is_reading`.
`placed`, `failed` and `returned` are a record of the run: the items that the writes have put into
the two queues, the indices of those whose `Write` has failed in its wait, and the items that the
reads have returned.  No step depends on them.
-/

namespace BbtCoroutine.TwoQueueChan

open Transition

/-- The two queues of items. -/
inductive Queue
  /-- `m_item_cache_ref`. -/
  | cacheRef
  /-- `m_item_queue`. -/
  | itemQueue
  deriving DecidableEq, Repr

/-- The operations that read. -/
inductive ReadOp
  | read
  | tryRead
  /-- `TryRead` with a timeout. -/
  | tryReadFor
  | readAll
  deriving DecidableEq, Repr

/-- The queue from which an operation reads. -/
def ReadOp.queue : ReadOp → Queue
  | read => .cacheRef
  | _ => .itemQueue

/-- The operations. -/
inductive Op (α : Type*)
  | write (item : α)
  | tryWrite (item : α)
  /-- `TryWrite` with a timeout. -/
  | tryWriteFor (item : α)
  | read (op : ReadOp)
  | close
  deriving DecidableEq

/-- The point that an operation has reached. -/
inductive Pc (α : Type*)
  | idle
  | returned (r : ℤ)
  | writeCheck (item : α)
  | writeLock (item : α)
  /-- `Write` waits with `is_writing_idx`. -/
  | writeWait (isWritingIdx : ℕ)
  | tryWriteCheck (item : α)
  | tryWriteLock (item : α)
  | tryWriteForCheck (item : α)
  | tryWriteForLock (item : α)
  | tryWriteForWait (item : α)
  | tryWriteForWoken (item : α)
  | tryWriteForRelock (item : α)
  | readCheck (op : ReadOp)
  | readFlag (op : ReadOp)
  /-- `Read` looks whether the channel is closed. -/
  | readClosed
  | readClosedLock
  | readLock (op : ReadOp)
  | readWait (op : ReadOp)
  | readRelock (op : ReadOp) (ret : ℤ)
  /-- Before the flag is reset; `items` are what the operation returns. -/
  | readRelease (op : ReadOp) (r : ℤ) (items : List α)
  | closeCheck
  | closeLock
  deriving DecidableEq

namespace Pc

variable {α : Type*}

/-- The operation has set `m_is_reading`. -/
def reads : Pc α → Bool
  | readClosed | readClosedLock | readLock _ | readWait _ | readRelock _ _
  | readRelease _ _ _ => true
  | _ => false

/-- The items that the operation has taken and not yet returned, with their queue. -/
def hand : Pc α → List (Queue × α)
  | readRelease op _ items => items.map fun a => (op.queue, a)
  | _ => []

end Pc

/-- The channel and the coroutines that use it. -/
structure State (Co α : Type*) where
  queue : Queue → List α := fun _ => []
  readIdx : ℕ := 0
  writeIdx : ℕ := 0
  isClosed : Bool := false
  reader : Option Co := none
  pc : Co → Pc α := fun _ => .idle
  placed : List (Queue × α) := []
  failed : List ℕ := []
  returned : List (Queue × α) := []

/-- The answers of the environment. -/
structure Answer where
  /-- The result of a wait. -/
  ret : ℤ := 0
  /-- The timeout of the operation is over. -/
  timeUp : Bool := false

/-- The capacity of `Chan<T, 1>`. -/
def maxSize : ℕ := 1

namespace State

variable {Co α : Type*} [DecidableEq Co]

/-- The coroutine `c` goes on at `p`. -/
def goto (s : State Co α) (c : Co) (p : Pc α) : State Co α :=
  { s with pc := Function.update s.pc c p }

/-- An item is pushed; `Write` counts it. -/
def push (s : State Co α) (q : Queue) (item : α) : State Co α :=
  { s with
    queue := Function.update s.queue q (s.queue q ++ [item])
    writeIdx := if q = .cacheRef then s.writeIdx + 1 else s.writeIdx
    placed := s.placed ++ [(q, item)] }

/-- The operation finds an item: `Read` compares the indices. -/
def hasItem (s : State Co α) : ReadOp → Bool
  | .read => s.readIdx < s.writeIdx
  | op => !(s.queue op.queue).isEmpty

/-- The items that the operation takes: the first one, or all. -/
def oldest (s : State Co α) : ReadOp → List α
  | .readAll => s.queue .itemQueue
  | op => (s.queue op.queue).take 1

/-- The operation pops its items; `Read` counts them. -/
def pop (s : State Co α) (op : ReadOp) : State Co α :=
  { s with
    queue := Function.update s.queue op.queue ((s.queue op.queue).drop (s.oldest op).length)
    readIdx := if op = .read then s.readIdx + 1 else s.readIdx }

/-- The loop of a `TryWrite` with a timeout. -/
def tryWriteForLoop (s : State Co α) (c : Co) (item : α) (o : Answer) : State Co α :=
  if maxSize ≤ (s.queue .itemQueue).length then
    if o.timeUp then s.goto c (.returned 1) else s.goto c (.tryWriteForWait item)
  else (s.push .itemQueue item).goto c (.returned 0)

/-- What an operation does that finds no item. -/
def readEmpty (s : State Co α) (op : ReadOp) (o : Answer) : Pc α :=
  match op with
  | .tryRead => .readRelease .tryRead (-2) []
  | .tryReadFor =>
    if s.isClosed then .readRelease .tryReadFor (-1) []
    else if o.timeUp then .readRelease .tryReadFor 1 []
    else .readWait .tryReadFor
  | op => if s.isClosed then .readRelease op (-1) [] else .readWait op

/-- The loop of an operation that reads, and its end. -/
def readLoop (s : State Co α) (c : Co) (op : ReadOp) (o : Answer) : State Co α :=
  if s.hasItem op then (s.pop op).goto c (.readRelease op 0 (s.oldest op))
  else s.goto c (s.readEmpty op o)

/-- What the coroutine `c` does next. -/
def run (s : State Co α) (c : Co) (o : Answer) : Option (State Co α) :=
  match s.pc c with
  | .idle => none
  | .returned _ => some (s.goto c .idle)
  -- `Write`
  | .writeCheck item =>
    some (s.goto c (if s.isClosed then .returned (-1) else .writeLock item))
  | .writeLock item =>
    some ((s.push .cacheRef item).goto c
      (if s.reader.isSome ∧ s.writeIdx = s.readIdx then .returned 0 else .writeWait s.writeIdx))
  | .writeWait isWritingIdx =>
    if o.ret = 0 then some (s.goto c (.returned 0))
    else some ({ s with failed := s.failed ++ [isWritingIdx] }.goto c (.returned (-2)))
  -- `TryWrite`
  | .tryWriteCheck item =>
    some (s.goto c (if s.isClosed then .returned (-1) else .tryWriteLock item))
  | .tryWriteLock item =>
    if s.isClosed then some (s.goto c (.returned (-1)))
    else if maxSize ≤ (s.queue .itemQueue).length then some (s.goto c (.returned (-2)))
    else some ((s.push .itemQueue item).goto c (.returned 0))
  -- `TryWrite` with a timeout
  | .tryWriteForCheck item =>
    some (s.goto c (if s.isClosed then .returned (-1) else .tryWriteForLock item))
  | .tryWriteForLock item =>
    if s.isClosed then some (s.goto c (.returned (-1))) else some (s.tryWriteForLoop c item o)
  | .tryWriteForWait item =>
    some (s.goto c (if o.ret = 0 then .tryWriteForWoken item
      else .returned (if o.ret = 1 then 1 else -2)))
  | .tryWriteForWoken item =>
    some (s.goto c (if s.isClosed then .returned (-1) else .tryWriteForRelock item))
  | .tryWriteForRelock item => some (s.tryWriteForLoop c item o)
  -- `Read`, `TryRead` and `ReadAll`
  | .readCheck op =>
    some (s.goto c (if s.isClosed then .returned (-1) else .readFlag op))
  | .readFlag op =>
    if s.reader.isSome then some (s.goto c (.returned (-2)))
    else some ({ s with reader := some c }.goto c
      (if op = ReadOp.read then .readClosed else .readLock op))
  | .readClosed =>
    some (s.goto c (if s.isClosed then .readClosedLock else .readLock .read))
  | .readClosedLock =>
    some (s.goto c (if s.writeIdx ≤ s.readIdx then .readRelease .read (-1) []
      else .readLock .read))
  | .readLock op => some (s.readLoop c op o)
  | .readWait op => some (s.goto c (.readRelock op o.ret))
  | .readRelock op ret =>
    if ret ≠ 0 ∧ ret ≠ 1 then some (s.goto c (.readRelease op (-2) []))
    else some (s.readLoop c op o)
  | .readRelease op r items =>
    some ({ s with
      reader := none
      returned := s.returned ++ items.map fun a => (op.queue, a) }.goto c (.returned r))
  -- `Close`
  | .closeCheck => some (s.goto c (if s.isClosed then .returned 0 else .closeLock))
  | .closeLock => some ({ s with isClosed := true }.goto c (.returned 0))

end State

/-- Where an operation starts. -/
def Op.entry {α : Type*} : Op α → Pc α
  | write item => .writeCheck item
  | tryWrite item => .tryWriteCheck item
  | tryWriteFor item => .tryWriteForCheck item
  | read .read => .readFlag .read
  | read .readAll => .readFlag .readAll
  | read op => .readCheck op
  | close => .closeCheck

/-- The steps: a coroutine calls an operation or goes on. -/
inductive Label (Co α : Type*)
  | call (c : Co) (op : Op α)
  | run (c : Co) (o : Answer)

variable {Co α : Type*} [DecidableEq Co]

/-- One step of the system. -/
def next (s : State Co α) : Label Co α → Option (State Co α)
  | .call c op =>
    match s.pc c with
    | .idle => some (s.goto c op.entry)
    | _ => none
  | .run c o => s.run c o

variable (Co α) in
/-- A channel that nobody has used. -/
def system : System (State Co α) (Label Co α) where
  start s := s = {}
  next := next

end BbtCoroutine.TwoQueueChan
