import BbtCoroutine.StackPool.Model
import Mathlib.Tactic.Abel
import Mathlib.Tactic.SplitIfs
import Mathlib.Algebra.Order.BigOperators.Group.Multiset

/-!
# The accounting of the stack pool

`Accounts` says how the counters of the pool and of its buckets agree with the stacks: those
that are idle in a bucket, those that are lent, and those in the hands of an operation.  It is
stated for given multisets of lent and of carried stacks and a given number of reservations for
each key, and each critical section comes with a lemma that says how it changes them.
-/

namespace BbtCoroutine.StackPool

/-! ## Sizes -/

/-- A normalised size is normalised. -/
lemma normalizeSize_idem {page n u : ℕ} (h : normalizeSize page n = some u) :
    normalizeSize page u = some u := by
  unfold normalizeSize at h
  dsimp only at h
  split_ifs at h with h0 hr hmax hlim hmax hlim
  · -- the size is a multiple of a page
    rw [Option.some.injEq, Nat.add_zero] at h
    subst h
    unfold normalizeSize
    rw [if_neg h0]
    dsimp only
    rw [if_pos hr, if_neg hmax, if_neg hlim, Nat.add_zero]
  · rw [Option.some.injEq] at h
    have hu : u ≠ 0 := by omega
    have hmod : u % page = 0 ∨ page = 0 := by
      rcases Nat.eq_zero_or_pos page with hp | hp
      · exact .inr hp
      · left
        have hlt := Nat.mod_lt n hp
        have hsum : u = (n / page + 1) * page := by
          have hdiv := Nat.div_add_mod n page
          rw [Nat.add_mul, Nat.one_mul, Nat.mul_comm]
          omega
        rw [hsum, Nat.mul_mod_left]
    unfold normalizeSize
    rw [if_neg hu]
    dsimp only
    have hpad : (if u % page = 0 then 0 else page - u % page) = 0 := by
      rcases hmod with hmod | rfl
      · rw [if_pos hmod]
      · rw [Nat.zero_sub, ite_self]
    have hbound : pointerDiffLimit ≤ sizeMax := by decide
    rw [hpad, if_neg (by omega), if_neg (by omega), Nat.add_zero]

/-- A stack that is made for a normalised size has this size. -/
lemma stackCtor_of_normalized {page n u : ℕ} {stackProtect : Bool}
    (hn : normalizeSize page n = some n) (h : stackCtor page n stackProtect = some u) : u = n := by
  unfold stackCtor at h
  rw [hn, Option.bind_some] at h
  split_ifs at h
  exact (Option.some.inj h).symm

/-! ## The stacks -/

/-- The stacks that an operation still has to give back. -/
def Op.lent : Op → Multiset Stack
  | .releaseLock item => {item}
  | _ => 0

/-- The stacks that are in the hands of an operation, before they are in the pool or after. -/
def Op.carried : Op → Multiset Stack
  | .applyCommit _ item | .free item _ => {item}
  | .preloadAlloc _ _ items | .preloadLock _ items | .preloadFree items => items
  | _ => 0

/-- The key that an operation has reserved a stack under. -/
def Op.reserved : Op → Option BucketKey
  | .applyAlloc k | .applyRollback k | .applyCommit k _ => some k
  | _ => none

/-- The reservations of an operation under a key. -/
def Op.pend (k : BucketKey) (op : Op) : ℤ := if op.reserved = some k then 1 else 0

/-- The reservations of an operation. -/
def Op.pends (op : Op) : ℤ := if op.reserved = none then 0 else 1

namespace State

/-- The stacks that are idle in a bucket. -/
def pooled (s : State) : Multiset Stack :=
  FiniteMap.total (fun b : Bucket => (b.pool : Multiset Stack)) s.buckets

/-- The stacks that are lent and not given back. -/
def loans (s : State) : Multiset Stack := s.lent + (s.ops.map Op.lent).sum

/-- The stacks that are in the hands of an operation. -/
def carried (s : State) : Multiset Stack := (s.ops.map Op.carried).sum

/-- The reservations under a key. -/
def pendingOn (s : State) (k : BucketKey) : ℤ := (s.ops.map (Op.pend k)).sum

/-- All reservations. -/
def pending (s : State) : ℤ := (s.ops.map Op.pends).sum

/-- The sum of a counter over the buckets. -/
def sum (s : State) (f : Bucket → ℤ) : ℤ := FiniteMap.total f s.buckets

section

variable (s : State) (k : BucketKey) (b : Bucket) (op : Op) (item : Stack) (l m n : ℤ)

@[simp] lemma bucket_count : (s.count l m n).bucket = s.bucket := rfl
@[simp] lemma bucket_goOn : (s.goOn op).bucket = s.bucket := rfl
@[simp] lemma bucket_lend : (s.lend item).bucket = s.bucket := rfl
@[simp] lemma pooled_count : (s.count l m n).pooled = s.pooled := rfl
@[simp] lemma pooled_goOn : (s.goOn op).pooled = s.pooled := rfl
@[simp] lemma pooled_lend : (s.lend item).pooled = s.pooled := rfl
@[simp] lemma loans_set : (s.set k b).loans = s.loans := rfl
@[simp] lemma loans_count : (s.count l m n).loans = s.loans := rfl
@[simp] lemma loans_destroy : (s.destroy item).loans = s.loans := rfl
@[simp] lemma carried_set : (s.set k b).carried = s.carried := rfl
@[simp] lemma carried_count : (s.count l m n).carried = s.carried := rfl
@[simp] lemma carried_lend : (s.lend item).carried = s.carried := rfl
@[simp] lemma carried_destroy : (s.destroy item).carried = s.carried := rfl
@[simp] lemma pendingOn_set : (s.set k b).pendingOn = s.pendingOn := rfl
@[simp] lemma pendingOn_count : (s.count l m n).pendingOn = s.pendingOn := rfl
@[simp] lemma pendingOn_lend : (s.lend item).pendingOn = s.pendingOn := rfl
@[simp] lemma pendingOn_destroy : (s.destroy item).pendingOn = s.pendingOn := rfl
@[simp] lemma pending_set : (s.set k b).pending = s.pending := rfl
@[simp] lemma pending_count : (s.count l m n).pending = s.pending := rfl
@[simp] lemma pending_lend : (s.lend item).pending = s.pending := rfl
@[simp] lemma pending_destroy : (s.destroy item).pending = s.pending := rfl
@[simp] lemma ops_set : (s.set k b).ops = s.ops := rfl
@[simp] lemma ops_count : (s.count l m n).ops = s.ops := rfl
@[simp] lemma ops_lend : (s.lend item).ops = s.ops := rfl
@[simp] lemma ops_destroy : (s.destroy item).ops = s.ops := rfl
@[simp] lemma ops_goOn : (s.goOn op).ops = op ::ₘ s.ops := rfl

@[simp] lemma loans_lend : (s.lend item).loans = item ::ₘ s.loans := Multiset.cons_add ..

@[simp] lemma loans_goOn : (s.goOn op).loans = op.lent + s.loans := by
  simp only [loans, goOn, Multiset.map_cons, Multiset.sum_cons]
  exact add_left_comm ..

@[simp] lemma carried_goOn : (s.goOn op).carried = op.carried + s.carried := by
  simp only [carried, goOn, Multiset.map_cons, Multiset.sum_cons]

@[simp] lemma pendingOn_goOn : (s.goOn op).pendingOn k = op.pend k + s.pendingOn k := by
  simp only [pendingOn, goOn, Multiset.map_cons, Multiset.sum_cons]

@[simp] lemma pending_goOn : (s.goOn op).pending = op.pends + s.pending := by
  simp only [pending, goOn, Multiset.map_cons, Multiset.sum_cons]

/-- Setting a bucket replaces it. -/
lemma bucket_set : (s.set k b).bucket = Function.update s.bucket k b :=
  FiniteMap.get_insert ..

/-- What becomes of the idle stacks when a bucket changes. -/
lemma pooled_set : (s.set k b).pooled + (s.bucket k).pool = s.pooled + (b.pool : Multiset Stack) :=
  FiniteMap.total_insert (d := ({} : Bucket)) rfl s.buckets k b

/-- What becomes of a sum of counters when a bucket changes. -/
lemma sum_set {f : Bucket → ℤ} (h0 : f {} = 0) {x : ℤ} (hf : f b = f (s.bucket k) + x) :
    (s.set k b).sum f = s.sum f + x := by
  have h := FiniteMap.total_insert h0 s.buckets k b
  change (s.set k b).sum f + f (s.bucket k) = s.sum f + f b at h
  omega

end

end State

/-! ## Accounts -/

/-- A bucket agrees with the stacks in it, with the number of lent ones and with the number of
reservations. -/
structure BucketOk (k : BucketKey) (b : Bucket) (borrowed pending : ℤ) : Prop where
  idle : b.idle = b.pool.length
  live : b.live = b.idle + b.borrowed
  borrowed : b.borrowed = borrowed
  pending : b.pending = pending
  keyed : ∀ st ∈ b.pool, st.key = k

/-- The number of stacks of a multiset that belong to a key. -/
def onKey (k : BucketKey) (M : Multiset Stack) : ℤ := M.countP (·.key = k)

@[simp] lemma onKey_cons_self (st : Stack) (M : Multiset Stack) :
    onKey st.key (st ::ₘ M) = onKey st.key M + 1 := by
  unfold onKey
  rw [Multiset.countP_cons, if_pos rfl]
  push_cast
  rfl

/-- A stack of another key does not count. -/
lemma onKey_cons_of_ne {k : BucketKey} {st : Stack} (h : st.key ≠ k) (M : Multiset Stack) :
    onKey k (st ::ₘ M) = onKey k M := by
  unfold onKey
  rw [Multiset.countP_cons, if_neg h, Nat.add_zero]

/-- A count is not negative. -/
lemma onKey_nonneg (k : BucketKey) (M : Multiset Stack) : 0 ≤ onKey k M := Int.natCast_nonneg _

/-- The pool agrees with the lent stacks `L`, the carried stacks `T`, the reservations `P` under
each key and all reservations `n`. -/
structure Accounts (cfg : Config) (s : State) (L T : Multiset Stack) (P : BucketKey → ℤ)
    (n : ℤ) : Prop where
  buckets : ∀ k, BucketOk k (s.bucket k) (onKey k L) (P k)
  liveCount : s.liveCount = Multiset.card s.pooled + Multiset.card L
  borrowedCount : s.borrowedCount = Multiset.card L
  pendingCount : s.pendingCount = n
  liveSum : s.liveCount = s.sum Bucket.live
  borrowedSum : s.borrowedCount = s.sum Bucket.borrowed
  pendingSum : s.pendingCount = s.sum Bucket.pending
  capacity : s.borrowedCount + s.pendingCount ≤ cfg.maxAllocSize
  places : (s.pooled + L + T + s.destroyed).map Stack.id = Multiset.range s.nextId

section

variable {cfg : Config} {s : State} {L T : Multiset Stack} {P : BucketKey → ℤ} {n : ℤ}
  {k : BucketKey} {item : Stack} {pool : List Stack}

/-- An empty bucket can be erased. -/
lemma BucketOk.eq_default {b : Bucket} {borrowed pending : ℤ} (h : BucketOk k b borrowed pending)
    (hi : b.idle = 0) (hb : b.borrowed = 0) (hp : b.pending = 0) : b = {} := by
  have hpool : b.pool = [] := List.eq_nil_of_length_eq_zero (by have := h.idle; omega)
  have hlive := h.live
  rw [hi, hb] at hlive
  cases b
  simp_all

/-- Erasing an empty bucket changes no sum. -/
lemma eraseBucketIfEmpty_eq (hA : Accounts cfg s L T P n) (k : BucketKey) :
    (s.eraseBucketIfEmpty k).bucket = s.bucket ∧ (s.eraseBucketIfEmpty k).pooled = s.pooled ∧
      ∀ f : Bucket → ℤ, f {} = 0 → (s.eraseBucketIfEmpty k).sum f = s.sum f := by
  unfold State.eraseBucketIfEmpty
  dsimp only
  split_ifs with h
  · have hd := (hA.buckets k).eq_default h.1 h.2.1 h.2.2
    exact ⟨FiniteMap.get_erase hd, FiniteMap.total_erase (d := ({} : Bucket)) rfl hd,
      fun f hf => FiniteMap.total_erase hf hd⟩
  · exact ⟨rfl, rfl, fun _ _ => rfl⟩

/-- The erasure of an empty bucket keeps the accounts. -/
lemma Accounts.erase (hA : Accounts cfg s L T P n) (k : BucketKey) :
    Accounts cfg (s.eraseBucketIfEmpty k) L T P n := by
  obtain ⟨hbucket, hpooled, hsum⟩ := eraseBucketIfEmpty_eq hA k
  have hrest : (s.eraseBucketIfEmpty k).liveCount = s.liveCount ∧
      (s.eraseBucketIfEmpty k).borrowedCount = s.borrowedCount ∧
      (s.eraseBucketIfEmpty k).pendingCount = s.pendingCount ∧
      (s.eraseBucketIfEmpty k).destroyed = s.destroyed ∧
      (s.eraseBucketIfEmpty k).nextId = s.nextId := by
    unfold State.eraseBucketIfEmpty
    dsimp only
    split_ifs <;> exact ⟨rfl, rfl, rfl, rfl, rfl⟩
  obtain ⟨hl, hb, hp, hd, hn⟩ := hrest
  refine ⟨?_, ?_, ?_, ?_, ?_, ?_, ?_, ?_, ?_⟩
  · rw [hbucket]
    exact hA.buckets
  · rw [hl, hpooled, hA.liveCount]
  · rw [hb, hA.borrowedCount]
  · rw [hp, hA.pendingCount]
  · rw [hl, hsum _ rfl, hA.liveSum]
  · rw [hb, hsum _ rfl, hA.borrowedSum]
  · rw [hp, hsum _ rfl, hA.pendingSum]
  · rw [hb, hp]
    exact hA.capacity
  · rw [hpooled, hd, hn, hA.places]

/-- One bucket and the numbers that belong to its key change. -/
lemma Accounts.bucketsOf (hA : Accounts cfg s L T P n) {b : Bucket} {L' : Multiset Stack}
    {Q : BucketKey → ℤ} (hb : BucketOk k b (onKey k L') (Q k))
    (hL : ∀ j, j ≠ k → onKey j L' = onKey j L) (hP : ∀ j, j ≠ k → Q j = P j) (j : BucketKey) :
    BucketOk j ((s.set k b).bucket j) (onKey j L') (Q j) := by
  rw [State.bucket_set]
  by_cases hj : j = k
  · subst hj
    rw [Function.update_self]
    exact hb
  · rw [Function.update_of_ne hj, hL j hj, hP j hj]
    exact hA.buckets j

/-! ## Critical sections -/

/-- A critical section changes one bucket and the counters, and moves stacks. -/
lemma Accounts.change (hA : Accounts cfg s L T P n) {b : Bucket} {l m d : ℤ}
    {L' T' : Multiset Stack} {Q : BucketKey → ℤ} (hb : BucketOk k b (onKey k L') (Q k))
    (hL : ∀ j, j ≠ k → onKey j L' = onKey j L) (hP : ∀ j, j ≠ k → Q j = P j)
    (hbl : b.live = (s.bucket k).live + l) (hbm : b.borrowed = (s.bucket k).borrowed + m)
    (hbd : b.pending = (s.bucket k).pending + d)
    (hl : (Multiset.card T : ℤ) = Multiset.card T' + l)
    (hm : (Multiset.card L' : ℤ) = Multiset.card L + m)
    (hcap : s.borrowedCount + m + (s.pendingCount + d) ≤ cfg.maxAllocSize)
    (hpool : (b.pool : Multiset Stack) + L' + T' = (s.bucket k).pool + L + T) :
    Accounts cfg ((s.set k b).count l m d) L' T' Q (n + d) := by
  have hstacks : (s.set k b).pooled + L' + T' = s.pooled + L + T := by
    refine add_right_cancel (b := ((s.bucket k).pool : Multiset Stack)) ?_
    calc (s.set k b).pooled + L' + T' + (s.bucket k).pool
        = (s.set k b).pooled + (s.bucket k).pool + (L' + T') := by abel
      _ = s.pooled + (b.pool + L' + T') := by rw [State.pooled_set]; abel
      _ = s.pooled + L + T + (s.bucket k).pool := by rw [hpool]; abel
  have hcard := congrArg (fun M => (Multiset.card M : ℤ)) hstacks
  simp only [Multiset.card_add] at hcard
  push_cast at hcard
  refine ⟨hA.bucketsOf hb hL hP, ?_, ?_, ?_, ?_, ?_, ?_, hcap, ?_⟩
  · have hlive := hA.liveCount
    change s.liveCount + l = Multiset.card (s.set k b).pooled + Multiset.card L'
    omega
  · have hborrowed := hA.borrowedCount
    change s.borrowedCount + m = Multiset.card L'
    omega
  · exact congrArg (· + d) hA.pendingCount
  · exact (congrArg (· + l) hA.liveSum).trans (State.sum_set s k b rfl hbl).symm
  · exact (congrArg (· + m) hA.borrowedSum).trans (State.sum_set s k b rfl hbm).symm
  · exact (congrArg (· + d) hA.pendingSum).trans (State.sum_set s k b rfl hbd).symm
  · rw [State.pooled_count, hstacks]
    exact hA.places

/-- Who owns a lent stack does not matter. -/
lemma Accounts.lend (hA : Accounts cfg s L T P n) (st : Stack) :
    Accounts cfg (s.lend st) L T P n :=
  ⟨hA.buckets, hA.liveCount, hA.borrowedCount, hA.pendingCount, hA.liveSum, hA.borrowedSum,
    hA.pendingSum, hA.capacity, hA.places⟩

/-- `Apply` takes an idle stack. -/
lemma Accounts.reuse (hA : Accounts cfg s L T P n) (hpool : (s.bucket k).pool = item :: pool)
    (hcap : s.borrowedCount + s.pendingCount < cfg.maxAllocSize) :
    Accounts cfg ((s.set k { s.bucket k with
      pool, idle := (s.bucket k).idle - 1, borrowed := (s.bucket k).borrowed + 1 }).count 0 1 0)
      (item ::ₘ L) T P (n + 0) := by
  have hB := hA.buckets k
  have hidle := hB.idle
  have hlive := hB.live
  rw [hpool, List.length_cons] at hidle
  push_cast at hidle
  have hkey : item.key = k := hB.keyed item (by rw [hpool]; exact List.mem_cons_self)
  refine hA.change ⟨?_, ?_, ?_, hB.pending, fun st hst => ?_⟩
    (fun j hj => onKey_cons_of_ne (by rw [hkey]; exact hj.symm) L) (fun _ _ => rfl)
    (add_zero _).symm rfl (add_zero _).symm
    (add_zero _).symm (by rw [Multiset.card_cons]; rfl) (by omega) ?_
  · dsimp only
    omega
  · dsimp only
    omega
  · subst hkey
    rw [onKey_cons_self, ← hB.borrowed]
  · exact hB.keyed st (by rw [hpool]; exact List.mem_cons_of_mem _ hst)
  · rw [hpool]
    simp only [← Multiset.cons_coe, ← Multiset.singleton_add]
    abel

/-- `Apply` reserves a stack. -/
lemma Accounts.reserve (hA : Accounts cfg s L T P n) {Q : BucketKey → ℤ} (hP : Q k = P k + 1)
    (hP' : ∀ j, j ≠ k → Q j = P j)
    (hcap : s.borrowedCount + s.pendingCount < cfg.maxAllocSize) :
    Accounts cfg ((s.set k { s.bucket k with pending := (s.bucket k).pending + 1 }).count 0 0 1)
      L T Q (n + 1) := by
  have hB := hA.buckets k
  refine hA.change ⟨hB.idle, hB.live, hB.borrowed, ?_, hB.keyed⟩ (fun _ _ => rfl) hP'
    (add_zero _).symm (add_zero _).symm rfl (add_zero _).symm (add_zero _).symm (by omega) rfl
  rw [hP, ← hB.pending]

/-- A reservation is given up. -/
lemma Accounts.rollback (hA : Accounts cfg s L T P n) {Q : BucketKey → ℤ} (hP : Q k = P k - 1)
    (hP' : ∀ j, j ≠ k → Q j = P j) :
    Accounts cfg ((s.set k { s.bucket k with pending := (s.bucket k).pending - 1 }).count 0 0 (-1))
      L T Q (n + -1) := by
  have hB := hA.buckets k
  have hcap := hA.capacity
  refine hA.change ⟨hB.idle, hB.live, hB.borrowed, ?_, hB.keyed⟩ (fun _ _ => rfl) hP'
    (add_zero _).symm (add_zero _).symm rfl (add_zero _).symm (add_zero _).symm (by omega) rfl
  rw [hP, ← hB.pending]

/-- A reservation becomes a lent stack. -/
lemma Accounts.commit (hA : Accounts cfg s L (item ::ₘ T) P n) (hkey : item.key = k)
    {Q : BucketKey → ℤ} (hP : Q k = P k - 1) (hP' : ∀ j, j ≠ k → Q j = P j) :
    Accounts cfg ((s.set k { s.bucket k with
      pending := (s.bucket k).pending - 1, live := (s.bucket k).live + 1
      borrowed := (s.bucket k).borrowed + 1 }).count 1 1 (-1))
      (item ::ₘ L) T Q (n + -1) := by
  have hB := hA.buckets k
  have hlive := hB.live
  have hcap := hA.capacity
  refine hA.change ⟨hB.idle, ?_, ?_, ?_, hB.keyed⟩
    (fun j hj => onKey_cons_of_ne (by rw [hkey]; exact hj.symm) L) hP'
    rfl rfl rfl (by rw [Multiset.card_cons]; rfl) (by rw [Multiset.card_cons]; rfl) (by omega) ?_
  · dsimp only
    omega
  · subst hkey
    rw [onKey_cons_self, ← hB.borrowed]
  · rw [hP, ← hB.pending]
  · simp only [← Multiset.singleton_add]
    abel

/-- A stack that is given back becomes idle. -/
lemma Accounts.cache (hA : Accounts cfg s (item ::ₘ L) T P n) (hkey : item.key = k) :
    Accounts cfg ((s.set k { s.bucket k with
      pool := item :: (s.bucket k).pool, borrowed := (s.bucket k).borrowed - 1
      idle := (s.bucket k).idle + 1 }).count 0 (-1) 0) L T P (n + 0) := by
  have hB := hA.buckets k
  have hlive := hB.live
  have hidle := hB.idle
  have hcap := hA.capacity
  have hborrowed := hB.borrowed
  refine hA.change ⟨?_, ?_, ?_, hB.pending, fun st hst => ?_⟩
    (fun j hj => (onKey_cons_of_ne (by rw [hkey]; exact hj.symm) L).symm) (fun _ _ => rfl)
    (add_zero _).symm rfl (add_zero _).symm (add_zero _).symm ?_ (by omega) ?_
  · dsimp only
    rw [List.length_cons]
    push_cast
    omega
  · dsimp only
    omega
  · subst hkey
    rw [onKey_cons_self] at hborrowed
    dsimp only
    omega
  · rcases List.mem_cons.mp hst with rfl | hst
    · exact hkey
    · exact hB.keyed st hst
  · rw [Multiset.card_cons]
    push_cast
    omega
  · simp only [← Multiset.cons_coe, ← Multiset.singleton_add]
    abel

/-- A stack that is given back is to be destroyed. -/
lemma Accounts.drop (hA : Accounts cfg s (item ::ₘ L) T P n) (hkey : item.key = k) :
    Accounts cfg ((s.set k { s.bucket k with
      borrowed := (s.bucket k).borrowed - 1, live := (s.bucket k).live - 1 }).count (-1) (-1) 0)
      L (item ::ₘ T) P (n + 0) := by
  have hB := hA.buckets k
  have hlive := hB.live
  have hcap := hA.capacity
  have hborrowed := hB.borrowed
  refine hA.change ⟨hB.idle, ?_, ?_, hB.pending, hB.keyed⟩
    (fun j hj => (onKey_cons_of_ne (by rw [hkey]; exact hj.symm) L).symm) (fun _ _ => rfl)
    rfl rfl (add_zero _).symm ?_ ?_ (by omega) ?_
  · dsimp only
    omega
  · subst hkey
    rw [onKey_cons_self] at hborrowed
    dsimp only
    omega
  · rw [Multiset.card_cons]
    push_cast
    omega
  · rw [Multiset.card_cons]
    push_cast
    omega
  · simp only [← Multiset.singleton_add]
    abel

/-- An idle stack is taken to be destroyed. -/
lemma Accounts.take (hA : Accounts cfg s L T P n) (hpool : (s.bucket k).pool = item :: pool) :
    Accounts cfg ((s.set k { s.bucket k with
      pool, idle := (s.bucket k).idle - 1, live := (s.bucket k).live - 1 }).count (-1) 0 0)
      L (item ::ₘ T) P (n + 0) := by
  have hB := hA.buckets k
  have hlive := hB.live
  have hidle := hB.idle
  have hcap := hA.capacity
  rw [hpool, List.length_cons] at hidle
  push_cast at hidle
  refine hA.change ⟨?_, ?_, hB.borrowed, hB.pending, fun st hst => ?_⟩ (fun _ _ => rfl)
    (fun _ _ => rfl) rfl (add_zero _).symm (add_zero _).symm ?_ (add_zero _).symm (by omega) ?_
  · dsimp only
    omega
  · dsimp only
    omega
  · exact hB.keyed st (by rw [hpool]; exact List.mem_cons_of_mem _ hst)
  · rw [Multiset.card_cons]
    push_cast
    omega
  · rw [hpool]
    simp only [← Multiset.cons_coe, ← Multiset.singleton_add]
    abel

/-- A stack is published as idle. -/
lemma Accounts.publish (hA : Accounts cfg s L (item ::ₘ T) P n) (hkey : item.key = k) :
    Accounts cfg ((s.set k { s.bucket k with
      pool := item :: (s.bucket k).pool, idle := (s.bucket k).idle + 1
      live := (s.bucket k).live + 1 }).count 1 0 0) L T P (n + 0) := by
  have hB := hA.buckets k
  have hlive := hB.live
  have hidle := hB.idle
  have hcap := hA.capacity
  refine hA.change ⟨?_, ?_, hB.borrowed, hB.pending, fun st hst => ?_⟩ (fun _ _ => rfl)
    (fun _ _ => rfl) rfl (add_zero _).symm (add_zero _).symm (by rw [Multiset.card_cons]; rfl)
    (add_zero _).symm (by omega) ?_
  · dsimp only
    rw [List.length_cons]
    push_cast
    omega
  · dsimp only
    omega
  · rcases List.mem_cons.mp hst with rfl | hst
    · exact hkey
    · exact hB.keyed st hst
  · simp only [← Multiset.cons_coe, ← Multiset.singleton_add]
    abel

/-- A bucket is created. -/
lemma Accounts.create (hA : Accounts cfg s L T P n) (k : BucketKey) :
    Accounts cfg (s.set k (s.bucket k)) L T P n := by
  have hcap := hA.capacity
  have h := hA.change (l := 0) (m := 0) (d := 0) (hA.buckets k) (fun _ _ => rfl)
    (fun _ _ => rfl) (add_zero _).symm (add_zero _).symm (add_zero _).symm (add_zero _).symm
    (add_zero _).symm (by omega) rfl
  simpa only [State.count, add_zero] using h

/-- A stack is destroyed. -/
lemma Accounts.destroy (hA : Accounts cfg s L (item ::ₘ T) P n) :
    Accounts cfg (s.destroy item) L T P n := by
  refine ⟨hA.buckets, hA.liveCount, hA.borrowedCount, hA.pendingCount, hA.liveSum,
    hA.borrowedSum, hA.pendingSum, hA.capacity, ?_⟩
  refine Eq.trans (congrArg (Multiset.map Stack.id) ?_) hA.places
  change s.pooled + L + T + item ::ₘ s.destroyed = s.pooled + L + item ::ₘ T + s.destroyed
  simp only [← Multiset.singleton_add]
  abel

/-- A stack is constructed. -/
lemma Accounts.construct (hA : Accounts cfg s L T P n) (hid : item.id = s.nextId) :
    Accounts cfg { s with nextId := s.nextId + 1 } L (item ::ₘ T) P n := by
  refine ⟨hA.buckets, hA.liveCount, hA.borrowedCount, hA.pendingCount, hA.liveSum,
    hA.borrowedSum, hA.pendingSum, hA.capacity, ?_⟩
  have hsum : s.pooled + L + item ::ₘ T + s.destroyed =
      item ::ₘ (s.pooled + L + T + s.destroyed) := by
    simp only [← Multiset.singleton_add]
    abel
  change (s.pooled + L + item ::ₘ T + s.destroyed).map Stack.id = Multiset.range (s.nextId + 1)
  rw [hsum, Multiset.map_cons, hA.places, hid, Multiset.range_succ]

end

end BbtCoroutine.StackPool
