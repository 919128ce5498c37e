import BbtCoroutine.FiniteMap.Total
import BbtCoroutine.Transition.System
import Mathlib.Data.Prod.Lex
import Mathlib.Data.Finset.Sort

/-!
# A model of the stack pool

One `StackPool` and any number of operations on it at once.  The operations that are under way
form a multiset; a step takes one of them to its next point.  A critical section of `m_mutex`
is one step, and so are the construction and the destruction of a stack outside of it.

The vector of a bucket is listed from its back.  A stack has an identity, which is the number
of stacks constructed before it.  `lent` holds the stacks that callers of `Apply` own, and
`destroyed` those that are gone.  The counters are integers, so that a counter below zero would
show.
-/

namespace BbtCoroutine.StackPool

open Transition

/-! ## Stacks -/

/-- The largest value of `size_t`. -/
def sizeMax : ℕ := 2 ^ 64 - 1

/-- `PointerDiffLimit`. -/
def pointerDiffLimit : ℕ := 2 ^ 63 - 1

/-- `Stack::NormalizeSize`, for pages of the size `page`; `none` stands for an exception. -/
def normalizeSize (page stackSize : ℕ) : Option ℕ :=
  if stackSize = 0 then none
  else
    let remainder := stackSize % page
    let padding := if remainder = 0 then 0 else page - remainder
    if sizeMax - padding < stackSize then none
    else if pointerDiffLimit < stackSize + padding then none
    else some (stackSize + padding)

/-- `BucketKey`: a usable size and a protection flag, in the order of `std::pair`. -/
abbrev BucketKey := ℕ ×ₗ Bool

/-- A stack. -/
structure Stack where
  id : ℕ
  useableSize : ℕ
  isProtected : Bool
  deriving DecidableEq

/-- The key that a stack is returned under. -/
def Stack.key (st : Stack) : BucketKey := toLex (st.useableSize, st.isProtected)

/-- The constructor of a stack, as far as the sizes decide on it: its usable size, unless it
throws. -/
def stackCtor (page stackSize : ℕ) (stackProtect : Bool) : Option ℕ :=
  (normalizeSize page stackSize).bind fun useable =>
    if stackProtect = true ∧ pointerDiffLimit - page < useable then none else some useable

/-! ## The pool -/

/-- A bucket. -/
structure Bucket where
  pool : List Stack := []
  live : ℤ := 0
  idle : ℤ := 0
  borrowed : ℤ := 0
  pending : ℤ := 0
  deriving DecidableEq

/-- What goes on once a stack has been destroyed. -/
inductive After
  | done
  | releaseUnused
  | update (n keep : ℕ)
  deriving DecidableEq

/-- An operation that is under way, at the point it has reached. -/
inductive Op
  | applyLock (key : BucketKey)
  | applyAlloc (key : BucketKey)
  | applyRollback (key : BucketKey)
  | applyCommit (key : BucketKey) (item : Stack)
  | releaseLock (item : Stack)
  | free (item : Stack) (next : After)
  | releaseUnused
  | updateLock
  | updateLoop (n keep : ℕ)
  | preloadAlloc (key : BucketKey) (n : ℕ) (created : List Stack)
  | preloadLock (key : BucketKey) (created : List Stack)
  | preloadFree (items : List Stack)
  deriving DecidableEq

/-- The settings that the pool reads. -/
structure Config where
  pageSize : ℕ
  stackSize : ℕ
  stackProtect : Bool
  maxAllocSize : ℕ
  minAllocSize : ℕ

/-- The state of the pool, of the operations on it, and of the stacks. -/
structure State where
  buckets : Finmap (fun _ : BucketKey => Bucket) := ∅
  liveCount : ℤ := 0
  borrowedCount : ℤ := 0
  pendingCount : ℤ := 0
  coAvg : ℕ := 0
  ops : Multiset Op := 0
  lent : Multiset Stack := 0
  destroyed : Multiset Stack := 0
  nextId : ℕ := 0

/-- What the environment decides in a step. -/
structure Env where
  /-- Memory or the protection of a page is refused. -/
  fails : Bool := false
  /-- How many stacks can be pushed. -/
  pushes : ℕ := 0
  /-- The sampling interval is over. -/
  sample : Bool := false
  /-- The adjustment interval is over. -/
  adjust : Bool := false
  deriving DecidableEq

namespace State

/-- The bucket of a key; one that does not exist has nothing in it. -/
def bucket (s : State) (k : BucketKey) : Bucket := FiniteMap.get {} s.buckets k

/-- The bucket of `k` becomes `b`. -/
def set (s : State) (k : BucketKey) (b : Bucket) : State :=
  { s with buckets := s.buckets.insert k b }

/-- The counters of the pool change. -/
def count (s : State) (live borrowed pending : ℤ) : State :=
  { s with
    liveCount := s.liveCount + live
    borrowedCount := s.borrowedCount + borrowed
    pendingCount := s.pendingCount + pending }

/-- An operation goes on at `op`. -/
def goOn (s : State) (op : Op) : State := { s with ops := op ::ₘ s.ops }

/-- A caller becomes the owner of a stack. -/
def lend (s : State) (item : Stack) : State := { s with lent := item ::ₘ s.lent }

/-- A stack is destroyed. -/
def destroy (s : State) (item : Stack) : State := { s with destroyed := item ::ₘ s.destroyed }

/-- `_EraseBucketIfEmptyLocked`. -/
def eraseBucketIfEmpty (s : State) (k : BucketKey) : State :=
  let b := s.bucket k
  if b.idle = 0 ∧ b.borrowed = 0 ∧ b.pending = 0 then { s with buckets := s.buckets.erase k }
  else s

/-- The loop of `_TakeIdleLocked` over the keys of the buckets. -/
def takeIdleFrom (s : State) : List BucketKey → Option Stack × State
  | [] => (none, s)
  | k :: ks =>
    let b := s.bucket k
    if b.idle = 0 then takeIdleFrom s ks
    else
      match b.pool with
      | [] => takeIdleFrom (s.set k { b with idle := 0 }) ks
      | item :: pool =>
        (some item, ((s.set k { b with pool, idle := b.idle - 1, live := b.live - 1 }).count
          (-1) 0 0).eraseBucketIfEmpty k)

/-- `_TakeIdleLocked`. -/
def takeIdle (s : State) : Option Stack × State :=
  s.takeIdleFrom (s.buckets.keys.sort (· ≤ ·))

/-- A stack is constructed; the step goes on with it, or at `failed` if that throws. -/
def alloc (s : State) (cfg : Config) (e : Env) (k : BucketKey) (made : Stack → Op)
    (failed : Op) : State :=
  match stackCtor cfg.pageSize (ofLex k).1 (ofLex k).2 with
  | none => s.goOn failed
  | some useable =>
    if e.fails then s.goOn failed
    else
      { s with nextId := s.nextId + 1 }.goOn
        (made { id := s.nextId, useableSize := useable, isProtected := (ofLex k).2 })

/-- The first critical section of `Apply`. -/
def applyLock (s : State) (cfg : Config) (e : Env) (k : BucketKey) : State :=
  if (cfg.maxAllocSize : ℤ) ≤ s.borrowedCount + s.pendingCount then s
  else if k ∉ s.buckets ∧ e.fails then s
  else
    let b := s.bucket k
    match b.pool with
    | item :: pool =>
      ((s.set k { b with pool, idle := b.idle - 1, borrowed := b.borrowed + 1 }).count
        0 1 0).lend item
    | [] => ((s.set k { b with pending := b.pending + 1 }).count 0 0 1).goOn (.applyAlloc k)

/-- The critical section of `Apply` after a failure. -/
def applyRollback (s : State) (k : BucketKey) : State :=
  let b := s.bucket k
  ((s.set k { b with pending := b.pending - 1 }).count 0 0 (-1)).eraseBucketIfEmpty k

/-- The last critical section of `Apply`. -/
def applyCommit (s : State) (k : BucketKey) (item : Stack) : State :=
  let b := s.bucket k
  ((s.set k { b with
    pending := b.pending - 1, live := b.live + 1, borrowed := b.borrowed + 1 }).count
      1 1 (-1)).lend item

/-- The critical section of `Release`. -/
def releaseLock (s : State) (e : Env) (item : Stack) : State :=
  let k := item.key
  if k ∉ s.buckets then s.goOn (.free item .done)
  else
    let b := s.bucket k
    if b.borrowed ≤ 0 then (s.eraseBucketIfEmpty k).goOn (.free item .done)
    else if e.fails then
      (((s.set k { b with borrowed := b.borrowed - 1, live := b.live - 1 }).count
        (-1) (-1) 0).eraseBucketIfEmpty k).goOn (.free item .done)
    else
      ((s.set k { b with
        pool := item :: b.pool, borrowed := b.borrowed - 1, idle := b.idle + 1 }).count
          0 (-1) 0).eraseBucketIfEmpty k

/-- An idle stack is taken to be destroyed, if there is one. -/
def reclaim (s : State) (next : After) : State :=
  match s.takeIdle with
  | (none, s') => s'
  | (some item, s') => s'.goOn (.free item next)

/-- The first critical section of `OnUpdate`; `m_rate` is `0`. -/
def updateLock (s : State) (cfg : Config) (e : Env) : State :=
  let cur := (s.borrowedCount + s.pendingCount).toNat
  let avg₁ := if s.coAvg = 0 then cur else s.coAvg
  let avg₂ := if e.sample then (7 * avg₁ + cur) / 8 else avg₁
  let s' := { s with coAvg := avg₂ }
  if e.adjust then
    let keep := max cfg.minAllocSize avg₂
    s'.goOn (.updateLoop (s.liveCount - keep).toNat keep)
  else s'

/-- A round of the loop of `OnUpdate`. -/
def updateLoop (s : State) (n keep : ℕ) : State :=
  match n with
  | 0 => s
  | n + 1 => if s.liveCount ≤ keep then s else s.reclaim (.update n keep)

/-- The loop of `_Preload` that publishes its stacks, of which `n` can be pushed; it returns
those that are left. -/
def publish (k : BucketKey) : ℕ → List Stack → State → List Stack × State
  | _, [], s => ([], s)
  | 0, items, s => (items, s)
  | n + 1, item :: items, s =>
    let b := s.bucket k
    publish k n items
      ((s.set k { b with pool := item :: b.pool, idle := b.idle + 1, live := b.live + 1 }).count
        1 0 0)

/-- The critical section of `_Preload`. -/
def preloadLock (s : State) (e : Env) (k : BucketKey) (created : List Stack) : State :=
  if k ∉ s.buckets ∧ e.fails then s.goOn (.preloadFree created)
  else
    let r := publish k e.pushes created (s.set k (s.bucket k))
    (r.2.eraseBucketIfEmpty k).goOn (.preloadFree r.1)

/-- What follows the destruction of a stack. -/
def resume (s : State) : After → State
  | .done => s
  | .releaseUnused => s.goOn .releaseUnused
  | .update n keep => s.goOn (.updateLoop n keep)

/-- One step of an operation, which has been taken out of the multiset. -/
def advance (s : State) (cfg : Config) (e : Env) : Op → State
  | .applyLock k => s.applyLock cfg e k
  | .applyAlloc k => s.alloc cfg e k (.applyCommit k) (.applyRollback k)
  | .applyRollback k => s.applyRollback k
  | .applyCommit k item => s.applyCommit k item
  | .releaseLock item => s.releaseLock e item
  | .free item next => (s.destroy item).resume next
  | .releaseUnused => s.reclaim .releaseUnused
  | .updateLock => s.updateLock cfg e
  | .updateLoop n keep => s.updateLoop n keep
  | .preloadAlloc k n created =>
    match n with
    | 0 => s.goOn (.preloadLock k created)
    | n + 1 => s.alloc cfg e k (fun item => .preloadAlloc k n (created ++ [item]))
        (.preloadFree created)
  | .preloadLock k created => s.preloadLock e k created
  | .preloadFree items =>
    match items with
    | [] => s
    | item :: items => (s.destroy item).goOn (.preloadFree items)

end State

/-! ## The system -/

/-- The steps of the system: an operation is called, or one goes on.  `Release` is called with a
stack that its caller owns. -/
inductive Label
  | apply (stackSize : ℕ) (stackProtect : Bool)
  | release (item : Stack)
  | releaseUnused
  | onUpdate
  | preload (n : ℕ)
  | step (op : Op) (e : Env)

/-- One step of the system. -/
def next (cfg : Config) (s : State) : Label → Option State
  | .apply stackSize stackProtect =>
    some (match normalizeSize cfg.pageSize stackSize with
    | none => s
    | some useable => s.goOn (.applyLock (toLex (useable, stackProtect))))
  | .release item =>
    if item ∈ s.lent then some ({ s with lent := s.lent.erase item }.goOn (.releaseLock item))
    else none
  | .releaseUnused => some (s.goOn .releaseUnused)
  | .onUpdate => some (s.goOn .updateLock)
  | .preload n =>
    some (match normalizeSize cfg.pageSize cfg.stackSize with
    | none => s
    | some useable =>
      if n = 0 then s
      else s.goOn (.preloadAlloc (toLex (useable, cfg.stackProtect)) (min n cfg.maxAllocSize) []))
  | .step op e =>
    if op ∈ s.ops then some ({ s with ops := s.ops.erase op }.advance cfg e op) else none

/-- The transition system of the pool. -/
def system (cfg : Config) : System State Label where
  start s := s = {}
  next := next cfg

end BbtCoroutine.StackPool
