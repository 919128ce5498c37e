import BbtCoroutine.StackPool.Accounting

/-!
# The stack pool keeps its accounts

Every step of an operation keeps the accounts of the pool (`inv_next`), whatever the other
operations do and wherever memory is refused.  So in every reachable state the counters are
exact and every stack is in one place (`exact_of_reachable`).
-/

namespace BbtCoroutine.StackPool

open Transition

variable {cfg : Config} {s : State} {e : Env} {k : BucketKey} {op : Op}

/-- The keys and the stacks of an operation fit together. -/
def Op.Keyed (cfg : Config) : Op → Prop
  | .applyLock k | .applyAlloc k => normalizeSize cfg.pageSize (ofLex k).1 = some (ofLex k).1
  | .applyCommit k item => item.key = k
  | .preloadAlloc k _ created => normalizeSize cfg.pageSize (ofLex k).1 = some (ofLex k).1 ∧
      ∀ st ∈ created, st.key = k
  | .preloadLock k created => ∀ st ∈ created, st.key = k
  | _ => True

/-- The accounts of the pool with the operations that are under way. -/
structure Inv (cfg : Config) (s : State) : Prop where
  accounts : Accounts cfg s s.loans s.carried s.pendingOn s.pending
  keyed : ∀ op ∈ s.ops, op.Keyed cfg

/-- The accounts do not mention the operations. -/
lemma Accounts.congr {s' : State} {L T : Multiset Stack} {P : BucketKey → ℤ} {n : ℤ}
    (hA : Accounts cfg s L T P n) (hb : s'.buckets = s.buckets) (hl : s'.liveCount = s.liveCount)
    (hbc : s'.borrowedCount = s.borrowedCount) (hpc : s'.pendingCount = s.pendingCount)
    (hd : s'.destroyed = s.destroyed) (hn : s'.nextId = s.nextId) : Accounts cfg s' L T P n := by
  have hbucket : s'.bucket = s.bucket := by unfold State.bucket; rw [hb]
  have hpooled : s'.pooled = s.pooled := by unfold State.pooled; rw [hb]
  have hsum (f : Bucket → ℤ) : s'.sum f = s.sum f := by unfold State.sum; rw [hb]
  refine ⟨fun k => ?_, ?_, ?_, ?_, ?_, ?_, ?_, ?_, ?_⟩
  · rw [hbucket]
    exact hA.buckets k
  · rw [hl, hpooled, hA.liveCount]
  · rw [hbc, hA.borrowedCount]
  · rw [hpc, hA.pendingCount]
  · rw [hl, hsum, hA.liveSum]
  · rw [hbc, hsum, hA.borrowedSum]
  · rw [hpc, hsum, hA.pendingSum]
  · rw [hbc, hpc]
    exact hA.capacity
  · rw [hpooled, hd, hn, hA.places]

/-- The accounts with one more operation. -/
lemma inv_goOn : Inv cfg (s.goOn op) ↔
    Accounts cfg s (op.lent + s.loans) (op.carried + s.carried)
      (fun k => op.pend k + s.pendingOn k) (op.pends + s.pending) ∧
      op.Keyed cfg ∧ ∀ o ∈ s.ops, o.Keyed cfg := by
  have hpend : (s.goOn op).pendingOn = fun k => op.pend k + s.pendingOn k :=
    funext fun k => s.pendingOn_goOn k op
  constructor
  · intro h
    have hA := h.accounts
    rw [State.loans_goOn, State.carried_goOn, State.pending_goOn, hpend] at hA
    exact ⟨hA.congr rfl rfl rfl rfl rfl rfl, h.keyed op (Multiset.mem_cons_self op _),
      fun o ho => h.keyed o (Multiset.mem_cons_of_mem ho)⟩
  · rintro ⟨hA, hop, hops⟩
    refine ⟨?_, fun o ho => ?_⟩
    · rw [State.loans_goOn, State.carried_goOn, State.pending_goOn, hpend]
      exact hA.congr rfl rfl rfl rfl rfl rfl
    · rcases Multiset.mem_cons.mp ho with rfl | ho
      · exact hop
      · exact hops o ho

/-- An operation without stacks and reservations does not appear in the accounts. -/
lemma inv_goOn_plain (hl : op.lent = 0) (hc : op.carried = 0) (hr : op.reserved = none) :
    Inv cfg (s.goOn op) ↔ Inv cfg s ∧ op.Keyed cfg := by
  have hpend (k : BucketKey) : op.pend k = 0 := by simp [Op.pend, hr]
  have hpends : op.pends = 0 := by simp [Op.pends, hr]
  rw [inv_goOn, hl, hc, hpends]
  simp only [hpend, zero_add]
  exact ⟨fun h => ⟨⟨h.1, h.2.2⟩, h.2.1⟩, fun h => ⟨h.1.accounts, h.2, h.1.keyed⟩⟩

/-- The erasure of an empty bucket keeps the invariant. -/
lemma Inv.erase (h : Inv cfg s) (k : BucketKey) : Inv cfg (s.eraseBucketIfEmpty k) := by
  have hsame : (s.eraseBucketIfEmpty k).ops = s.ops ∧ (s.eraseBucketIfEmpty k).lent = s.lent := by
    unfold State.eraseBucketIfEmpty
    dsimp only
    split_ifs <;> exact ⟨rfl, rfl⟩
  obtain ⟨hops, hlent⟩ := hsame
  have hA := h.accounts.erase k
  unfold State.loans State.carried State.pendingOn State.pending at hA
  refine ⟨?_, fun op hop => h.keyed op (hops ▸ hop)⟩
  unfold State.loans State.carried State.pendingOn State.pending
  rw [hops, hlent]
  exact hA

/-- Erasing an empty bucket does not touch the point of the operation. -/
lemma eraseBucketIfEmpty_goOn (s : State) (k : BucketKey) (op : Op) :
    (s.eraseBucketIfEmpty k).goOn op = (s.goOn op).eraseBucketIfEmpty k := by
  unfold State.eraseBucketIfEmpty
  dsimp only [State.bucket_goOn]
  split_ifs <;> rfl

/-! ## `Apply` -/

/-- Locking in `Apply` keeps the invariant. -/
lemma inv_applyLock (h : Inv cfg (s.goOn (.applyLock k))) : Inv cfg (s.applyLock cfg e k) := by
  obtain ⟨hI, hk⟩ := (inv_goOn_plain rfl rfl rfl).mp h
  unfold State.applyLock
  by_cases hcap : (cfg.maxAllocSize : ℤ) ≤ s.borrowedCount + s.pendingCount
  · rw [if_pos hcap]
    exact hI
  rw [if_neg hcap]
  by_cases hfail : k ∉ s.buckets ∧ e.fails = true
  · rw [if_pos hfail]
    exact hI
  rw [if_neg hfail]
  dsimp only
  split
  · rename_i item pool hpool
    refine ⟨?_, hI.keyed⟩
    have hA := (hI.accounts.reuse hpool (by omega)).lend item
    rw [add_zero] at hA
    rw [State.loans_lend]
    exact hA
  · refine inv_goOn.mpr ⟨?_, hk, hI.keyed⟩
    have hA := hI.accounts.reserve (k := k)
      (Q := fun j => (Op.applyAlloc k).pend j + s.pendingOn j)
      (by simp [Op.pend, Op.reserved, add_comm])
      (fun j hj => by simp [Op.pend, Op.reserved, hj.symm]) (by omega)
    rw [add_comm s.pending] at hA
    simp only [Op.lent, Op.carried, zero_add]
    exact hA

/-- A stack is constructed, or not. -/
lemma inv_alloc {made : Stack → Op} {failed op : Op} (h : Inv cfg (s.goOn op))
    (hk : normalizeSize cfg.pageSize (ofLex k).1 = some (ofLex k).1)
    (hfailed : Inv cfg (s.goOn op) → Inv cfg (s.goOn failed))
    (hmade : ∀ item : Stack, item.key = k → (made item).lent = op.lent ∧
      (made item).carried = item ::ₘ op.carried ∧ (made item).reserved = op.reserved ∧
      (made item).Keyed cfg) : Inv cfg (s.alloc cfg e k made failed) := by
  unfold State.alloc
  split
  · exact hfailed h
  · rename_i useable huse
    split_ifs
    · exact hfailed h
    · obtain rfl := stackCtor_of_normalized hk huse
      obtain ⟨hA, -, hops⟩ := inv_goOn.mp h
      set item : Stack :=
        { id := s.nextId, useableSize := (ofLex k).1, isProtected := (ofLex k).2 }
      obtain ⟨hl, hc, hr, hkeyed⟩ := hmade item rfl
      refine inv_goOn.mpr ⟨?_, hkeyed, hops⟩
      have hpend (j : BucketKey) : (made item).pend j = op.pend j := by rw [Op.pend, hr, Op.pend]
      have hpends : (made item).pends = op.pends := by rw [Op.pends, hr, Op.pends]
      simp only [hl, hc, hpend, hpends, Multiset.cons_add]
      exact hA.construct rfl

/-- Allocating in `Apply` keeps the invariant. -/
lemma inv_applyAlloc (h : Inv cfg (s.goOn (.applyAlloc k))) :
    Inv cfg (s.alloc cfg e k (.applyCommit k) (.applyRollback k)) := by
  refine inv_alloc h (inv_goOn.mp h).2.1 (fun h => ?_) fun item hitem =>
    ⟨rfl, rfl, rfl, hitem⟩
  obtain ⟨hA, -, hops⟩ := inv_goOn.mp h
  exact inv_goOn.mpr ⟨hA, trivial, hops⟩

/-- A reservation under the key `k` counts there and nowhere else. -/
lemma pend_of_reserved {op : Op} (hr : op.reserved = some k) :
    op.pend k = 1 ∧ (∀ j, j ≠ k → op.pend j = 0) ∧ op.pends = 1 := by
  refine ⟨by simp [Op.pend, hr], fun j hj => ?_, by simp [Op.pends, hr]⟩
  have hne : ¬ some k = some j := fun h => hj (Option.some.inj h).symm
  rw [Op.pend, hr, if_neg hne]

/-- The rollback of a failed `Apply` keeps the invariant. -/
lemma inv_applyRollback (h : Inv cfg (s.goOn (.applyRollback k))) :
    Inv cfg (s.applyRollback k) := by
  obtain ⟨hA, -, hops⟩ := inv_goOn.mp h
  obtain ⟨hp, hp', hn⟩ := pend_of_reserved (show (Op.applyRollback k).reserved = some k from rfl)
  simp only [Op.lent, Op.carried, zero_add] at hA
  have hA' := hA.rollback (k := k) (Q := s.pendingOn) (by rw [hp]; omega)
    (fun j hj => by rw [hp' j hj, zero_add])
  rw [hn] at hA'
  have hpending : (1 + s.pending + -1 : ℤ) = s.pending := by omega
  rw [hpending] at hA'
  exact Inv.erase ⟨hA', hops⟩ k

/-- The commit of `Apply` keeps the invariant. -/
lemma inv_applyCommit {item : Stack} (h : Inv cfg (s.goOn (.applyCommit k item))) :
    Inv cfg (s.applyCommit k item) := by
  obtain ⟨hA, hkey, hops⟩ := inv_goOn.mp h
  obtain ⟨hp, hp', hn⟩ := pend_of_reserved
    (show (Op.applyCommit k item).reserved = some k from rfl)
  simp only [Op.lent, Op.carried, zero_add, Multiset.singleton_add] at hA
  have hA' := (hA.commit hkey (Q := s.pendingOn) (by rw [hp]; omega)
    (fun j hj => by rw [hp' j hj, zero_add])).lend item
  rw [hn] at hA'
  have hpending : (1 + s.pending + -1 : ℤ) = s.pending := by omega
  rw [hpending] at hA'
  refine ⟨?_, hops⟩
  unfold State.applyCommit
  rw [State.loans_lend]
  exact hA'

/-! ## `Release` -/

/-- A stack that is given back belongs to a bucket that has lent it. -/
lemma Accounts.lent_bucket {L T : Multiset Stack} {P : BucketKey → ℤ} {n : ℤ} {item : Stack}
    (hA : Accounts cfg s (item ::ₘ L) T P n) :
    item.key ∈ s.buckets ∧ 0 < (s.bucket item.key).borrowed := by
  have hpos : 0 < (s.bucket item.key).borrowed := by
    rw [(hA.buckets item.key).borrowed, onKey_cons_self]
    have hnonneg := onKey_nonneg item.key L
    omega
  refine ⟨?_, hpos⟩
  by_contra hnone
  unfold State.bucket at hpos
  rw [FiniteMap.get_of_none (Finmap.lookup_eq_none.mpr hnone)] at hpos
  exact absurd hpos (by decide)

/-- Locking in `Release` keeps the invariant. -/
lemma inv_releaseLock {item : Stack} (h : Inv cfg (s.goOn (.releaseLock item))) :
    Inv cfg (s.releaseLock e item) := by
  obtain ⟨hA, -, hops⟩ := inv_goOn.mp h
  have hpend (k : BucketKey) : (Op.releaseLock item).pend k = 0 := rfl
  simp only [hpend, Op.lent, Op.carried, zero_add, Multiset.singleton_add] at hA
  rw [show (Op.releaseLock item).pends = 0 from rfl, zero_add] at hA
  obtain ⟨hmem, hpos⟩ := hA.lent_bucket
  unfold State.releaseLock
  dsimp only
  rw [if_neg (not_not.mpr hmem), if_neg (by omega)]
  split_ifs
  · have hA' := hA.drop rfl
    rw [add_zero] at hA'
    rw [eraseBucketIfEmpty_goOn]
    refine Inv.erase ?_ item.key
    refine inv_goOn.mpr ⟨?_, trivial, hops⟩
    have hfree (k : BucketKey) : (Op.free item .done).pend k = 0 := rfl
    simp only [hfree, Op.lent, Op.carried, zero_add, Multiset.singleton_add]
    rw [show (Op.free item .done).pends = 0 from rfl, zero_add]
    exact hA'
  · have hA' := hA.cache rfl
    rw [add_zero] at hA'
    exact Inv.erase ⟨hA', hops⟩ item.key

/-! ## Destruction -/

/-- What `_TakeIdleLocked` finds is the last stack of a bucket. -/
lemma takeIdleFrom_cases (hI : Inv cfg s) (ks : List BucketKey) :
    s.takeIdleFrom ks = (none, s) ∨ ∃ k item pool, (s.bucket k).pool = item :: pool ∧
      s.takeIdleFrom ks = (some item, ((s.set k { s.bucket k with
        pool, idle := (s.bucket k).idle - 1, live := (s.bucket k).live - 1 }).count
          (-1) 0 0).eraseBucketIfEmpty k) := by
  induction ks with
  | nil => exact .inl rfl
  | cons k ks ih =>
    unfold State.takeIdleFrom
    dsimp only
    by_cases hidle : (s.bucket k).idle = 0
    · rw [if_pos hidle]
      exact ih
    · rw [if_neg hidle]
      cases hpool : (s.bucket k).pool with
      | nil =>
        rw [(hI.accounts.buckets k).idle, hpool] at hidle
        exact absurd rfl hidle
      | cons item pool => exact .inr ⟨k, item, pool, hpool, rfl⟩

/-- An idle stack that is taken is in the hands of the operation that took it. -/
lemma inv_reclaim (hI : Inv cfg s) (next : After) : Inv cfg (s.reclaim next) := by
  unfold State.reclaim State.takeIdle
  rcases takeIdleFrom_cases hI (s.buckets.keys.sort (· ≤ ·)) with h | ⟨k, item, pool, hpool, h⟩
  · rw [h]
    exact hI
  · rw [h]
    dsimp only
    rw [eraseBucketIfEmpty_goOn]
    refine Inv.erase ?_ k
    refine inv_goOn.mpr ⟨?_, trivial, hI.keyed⟩
    have hA := hI.accounts.take hpool
    rw [add_zero] at hA
    have hfree (k : BucketKey) : (Op.free item next).pend k = 0 := rfl
    simp only [hfree, Op.lent, Op.carried, zero_add, Multiset.singleton_add]
    rw [show (Op.free item next).pends = 0 from rfl, zero_add]
    exact hA

/-- Going on after a release keeps the invariant. -/
lemma inv_resume (hI : Inv cfg s) (next : After) : Inv cfg (s.resume next) := by
  cases next with
  | done => exact hI
  | releaseUnused => exact (inv_goOn_plain rfl rfl rfl).mpr ⟨hI, trivial⟩
  | update n keep => exact (inv_goOn_plain rfl rfl rfl).mpr ⟨hI, trivial⟩

/-- Freeing a stack that is in nobody's hands keeps the invariant. -/
lemma inv_free {item : Stack} {next : After} (h : Inv cfg (s.goOn (.free item next))) :
    Inv cfg (s.destroy item) := by
  obtain ⟨hA, -, hops⟩ := inv_goOn.mp h
  have hfree (k : BucketKey) : (Op.free item next).pend k = 0 := rfl
  simp only [hfree, Op.lent, Op.carried, zero_add, Multiset.singleton_add] at hA
  rw [show (Op.free item next).pends = 0 from rfl, zero_add] at hA
  exact ⟨hA.destroy, hops⟩

/-! ## `OnUpdate` -/

/-- Locking in `Update` keeps the invariant. -/
lemma inv_updateLock (hI : Inv cfg s) : Inv cfg (s.updateLock cfg e) := by
  have havg (avg : ℕ) : Inv cfg { s with coAvg := avg } :=
    ⟨hI.accounts.congr rfl rfl rfl rfl rfl rfl, hI.keyed⟩
  unfold State.updateLock
  dsimp only
  split_ifs
  all_goals first | exact havg _ | exact (inv_goOn_plain rfl rfl rfl).mpr ⟨havg _, trivial⟩

/-- The loop of `Update` keeps the invariant. -/
lemma inv_updateLoop (hI : Inv cfg s) (n keep : ℕ) : Inv cfg (s.updateLoop n keep) := by
  unfold State.updateLoop
  split
  · exact hI
  · split_ifs
    · exact hI
    · exact inv_reclaim hI _

/-! ## `_Preload` -/

/-- Allocating in `Preload` keeps the invariant. -/
lemma inv_preloadAlloc {n : ℕ} {created : List Stack}
    (h : Inv cfg (s.goOn (.preloadAlloc k (n + 1) created))) :
    Inv cfg (s.alloc cfg e k (fun item => .preloadAlloc k n (created ++ [item]))
      (.preloadFree created)) := by
  obtain ⟨hk, hcreated⟩ := (inv_goOn.mp h).2.1
  refine inv_alloc h hk (fun h => ?_) fun item hitem => ⟨rfl, ?_, rfl, hk, fun st hst => ?_⟩
  · obtain ⟨hA, -, hops⟩ := inv_goOn.mp h
    exact inv_goOn.mpr ⟨hA, trivial, hops⟩
  · simp only [Op.carried]
    rw [Multiset.cons_coe, Multiset.coe_eq_coe]
    exact List.perm_append_singleton item created
  · rcases List.mem_append.mp hst with hst | hst
    · exact hcreated st hst
    · rw [List.mem_singleton.mp hst]
      exact hitem

/-- The loop that publishes the stacks of `_Preload`. -/
lemma publish_spec {L T : Multiset Stack} {P : BucketKey → ℤ} {m : ℤ} {items : List Stack}
    {n : ℕ} (hA : Accounts cfg s L (items + T) P m) (hkeyed : ∀ st ∈ items, st.key = k) :
    Accounts cfg (State.publish k n items s).2 L ((State.publish k n items s).1 + T) P m ∧
      (State.publish k n items s).2.ops = s.ops ∧ (State.publish k n items s).2.lent = s.lent := by
  induction items generalizing s n with
  | nil =>
    unfold State.publish
    exact ⟨hA, rfl, rfl⟩
  | cons item items ih =>
    cases n with
    | zero =>
      unfold State.publish
      exact ⟨hA, rfl, rfl⟩
    | succ n =>
      unfold State.publish
      rw [← Multiset.cons_coe, Multiset.cons_add] at hA
      have hA' := hA.publish (hkeyed item List.mem_cons_self)
      rw [add_zero] at hA'
      exact ih hA' fun st hst => hkeyed st (List.mem_cons_of_mem _ hst)

/-- Locking in `Preload` keeps the invariant. -/
lemma inv_preloadLock {created : List Stack} (h : Inv cfg (s.goOn (.preloadLock k created))) :
    Inv cfg (s.preloadLock e k created) := by
  obtain ⟨hA, hcreated, hops⟩ := inv_goOn.mp h
  unfold State.preloadLock
  split_ifs
  · exact inv_goOn.mpr ⟨hA, trivial, hops⟩
  · dsimp only
    rw [eraseBucketIfEmpty_goOn]
    refine Inv.erase ?_ k
    have hlock (j : BucketKey) : (Op.preloadLock k created).pend j = 0 := rfl
    simp only [hlock, Op.lent, Op.carried, zero_add] at hA
    rw [show (Op.preloadLock k created).pends = 0 from rfl, zero_add] at hA
    obtain ⟨hA', hops', hlent'⟩ := publish_spec (n := e.pushes) (hA.create k) hcreated
    set r := State.publish k e.pushes created (s.set k (s.bucket k))
    have hfree (j : BucketKey) : (Op.preloadFree r.1).pend j = 0 := rfl
    refine inv_goOn.mpr ⟨?_, trivial, fun o ho => hops o (hops' ▸ ho)⟩
    simp only [hfree, Op.lent, Op.carried, zero_add]
    rw [show (Op.preloadFree r.1).pends = 0 from rfl, zero_add]
    unfold State.loans State.carried State.pendingOn State.pending at hA' ⊢
    rw [hops', hlent']
    exact hA'

/-- Freeing what `Preload` has allocated keeps the invariant. -/
lemma inv_preloadFree {item : Stack} {items : List Stack}
    (h : Inv cfg (s.goOn (.preloadFree (item :: items)))) :
    Inv cfg ((s.destroy item).goOn (.preloadFree items)) := by
  obtain ⟨hA, -, hops⟩ := inv_goOn.mp h
  refine inv_goOn.mpr ⟨?_, trivial, hops⟩
  have hcarried : (Op.preloadFree (item :: items)).carried + s.carried =
      item ::ₘ ((Op.preloadFree items).carried + s.carried) := by
    simp only [Op.carried]
    rw [← Multiset.cons_coe, Multiset.cons_add]
  rw [hcarried] at hA
  exact hA.destroy

/-! ## Steps -/

/-- A step of an operation keeps the invariant. -/
lemma inv_advance (h : Inv cfg (s.goOn op)) : Inv cfg (s.advance cfg e op) := by
  cases op with
  | applyLock k => exact inv_applyLock h
  | applyAlloc k => exact inv_applyAlloc h
  | applyRollback k => exact inv_applyRollback h
  | applyCommit k item => exact inv_applyCommit h
  | releaseLock item => exact inv_releaseLock h
  | free item next => exact inv_resume (inv_free h) next
  | releaseUnused => exact inv_reclaim ((inv_goOn_plain rfl rfl rfl).mp h).1 _
  | updateLock => exact inv_updateLock ((inv_goOn_plain rfl rfl rfl).mp h).1
  | updateLoop n keep => exact inv_updateLoop ((inv_goOn_plain rfl rfl rfl).mp h).1 n keep
  | preloadAlloc k n created =>
    cases n with
    | zero =>
      obtain ⟨hA, hk, hops⟩ := inv_goOn.mp h
      exact inv_goOn.mpr ⟨hA, hk.2, hops⟩
    | succ n => exact inv_preloadAlloc h
  | preloadLock k created => exact inv_preloadLock h
  | preloadFree items =>
    cases items with
    | nil => exact ((inv_goOn_plain rfl rfl rfl).mp h).1
    | cons item items => exact inv_preloadFree h

/-- The operation that goes on is one of those under way. -/
lemma goOn_erase (h : op ∈ s.ops) : ({ s with ops := s.ops.erase op } : State).goOn op = s := by
  unfold State.goOn
  dsimp only
  rw [Multiset.cons_erase h]

/-- A caller that gives a stack back still owes it. -/
lemma inv_release {item : Stack} (hI : Inv cfg s) (h : item ∈ s.lent) :
    Inv cfg (({ s with lent := s.lent.erase item } : State).goOn (.releaseLock item)) := by
  refine inv_goOn.mpr ⟨?_, trivial, hI.keyed⟩
  have hloans : (Op.releaseLock item).lent +
      ({ s with lent := s.lent.erase item } : State).loans = s.loans := by
    change {item} + (s.lent.erase item + (s.ops.map Op.lent).sum) = s.loans
    rw [← add_assoc, Multiset.singleton_add, Multiset.cons_erase h]
    rfl
  have hpend (k : BucketKey) : (Op.releaseLock item).pend k = 0 := rfl
  rw [hloans]
  simp only [hpend, Op.carried, zero_add]
  rw [show (Op.releaseLock item).pends = 0 from rfl, zero_add]
  exact hI.accounts.congr rfl rfl rfl rfl rfl rfl

/-- The step lemma of the pool. -/
lemma inv_next {s' : State} {l : Label} (hI : Inv cfg s) (h : next cfg s l = some s') :
    Inv cfg s' := by
  cases l with
  | apply stackSize stackProtect =>
    obtain rfl := Option.some.inj h
    split
    · exact hI
    · rename_i useable huse
      exact (inv_goOn_plain rfl rfl rfl).mpr ⟨hI, normalizeSize_idem huse⟩
  | release item =>
    simp only [next] at h
    split_ifs at h with hmem
    obtain rfl := Option.some.inj h
    exact inv_release hI hmem
  | releaseUnused =>
    obtain rfl := Option.some.inj h
    exact (inv_goOn_plain rfl rfl rfl).mpr ⟨hI, trivial⟩
  | onUpdate =>
    obtain rfl := Option.some.inj h
    exact (inv_goOn_plain rfl rfl rfl).mpr ⟨hI, trivial⟩
  | preload n =>
    obtain rfl := Option.some.inj h
    split
    · exact hI
    · rename_i useable huse
      split_ifs
      · exact hI
      · exact (inv_goOn_plain rfl rfl rfl).mpr
          ⟨hI, normalizeSize_idem huse, fun _ hst => absurd hst List.not_mem_nil⟩
  | step op e =>
    simp only [next] at h
    split_ifs at h with hmem
    obtain rfl := Option.some.inj h
    exact inv_advance (by rw [goOn_erase hmem]; exact hI)

/-- The invariant holds of an empty pool. -/
lemma inv_start : Inv cfg {} where
  accounts := by
    refine ⟨fun k => ?_, rfl, rfl, rfl, rfl, rfl, rfl, Int.natCast_nonneg _, rfl⟩
    have hbucket : ({} : State).bucket k = {} := FiniteMap.get_empty _ k
    rw [hbucket]
    exact ⟨rfl, rfl, rfl, rfl, fun _ h => absurd h List.not_mem_nil⟩
  keyed _ h := absurd h (Multiset.notMem_zero _)

/-- The invariant holds in every reachable state. -/
lemma inv_of_reachable (h : (system cfg).Reachable s) : Inv cfg s := by
  refine h.induct (I := Inv cfg) ?_ fun s l s' hI hs => inv_next hI hs
  rintro s rfl
  exact inv_start

/-! ## Exactness -/

/-- The counters of a bucket are exact, and its stacks belong to it. -/
structure Bucket.Exact (k : BucketKey) (b : Bucket) : Prop where
  live : b.live = b.idle + b.borrowed
  idle : b.idle = b.pool.length
  borrowed : 0 ≤ b.borrowed
  pending : 0 ≤ b.pending
  keyed : ∀ st ∈ b.pool, st.key = k

/-- The counters are exact, and every stack is in one place.  A stack that is not idle, lent or
destroyed is in the hands of an operation, which has constructed it and not published it yet, or
has taken it to destroy it. -/
structure Exact (cfg : Config) (s : State) : Prop where
  bucket : ∀ k b, s.buckets.lookup k = some b → b.Exact k
  erased : ∀ k, s.buckets.lookup k = none →
    (∀ st ∈ s.pooled + s.loans, st.key ≠ k) ∧ ∀ op ∈ s.ops, op.reserved ≠ some k
  live : s.liveCount = s.sum Bucket.live ∧ s.liveCount = s.sum Bucket.idle + s.borrowedCount
  borrowed : s.borrowedCount = s.sum Bucket.borrowed ∧ s.borrowedCount = Multiset.card s.loans
  pending : s.pendingCount = s.sum Bucket.pending ∧ 0 ≤ s.pendingCount
  capacity : s.borrowedCount + s.pendingCount ≤ cfg.maxAllocSize
  places : (s.pooled + s.loans + s.carried + s.destroyed).map Stack.id = Multiset.range s.nextId
  update : ∀ n keep e s', next cfg s (.step (.updateLoop n keep) e) = some s' →
    s'.loans = s.loans ∧ s'.pooled + s'.carried = s.pooled + s.carried ∧
      (s'.liveCount = s.liveCount ∨ keep ≤ s'.liveCount)

/-- An operation has a count of pending stacks that is not negative. -/
lemma pend_nonneg (k : BucketKey) (op : Op) : 0 ≤ op.pend k := by
  unfold Op.pend
  split_ifs <;> decide

/-- The pending stacks of a bucket have a count that is not negative. -/
lemma pendingOn_nonneg (s : State) (k : BucketKey) : 0 ≤ s.pendingOn k :=
  Multiset.sum_nonneg fun x hx => by
    obtain ⟨op, -, rfl⟩ := Multiset.mem_map.mp hx
    exact pend_nonneg k op

/-- The pending stacks have a count that is not negative. -/
lemma pending_nonneg (s : State) : 0 ≤ s.pending :=
  Multiset.sum_nonneg fun x hx => by
    obtain ⟨op, -, rfl⟩ := Multiset.mem_map.mp hx
    unfold Op.pends
    split_ifs <;> decide

/-- An idle stack leaves its bucket. -/
lemma pooled_pop {b : Bucket} {item : Stack} (hpool : (s.bucket k).pool = item :: b.pool) :
    item ::ₘ (s.set k b).pooled = s.pooled := by
  have h := s.pooled_set k b
  rw [hpool, ← Multiset.cons_coe, ← Multiset.singleton_add, ← add_assoc] at h
  rw [← add_right_cancel h, add_comm, Multiset.singleton_add]

/-- Reclaiming a stack takes it from the idle ones. -/
lemma reclaim_spec (hI : Inv cfg s) (next : After) :
    (s.reclaim next).loans = s.loans ∧
      (s.reclaim next).pooled + (s.reclaim next).carried = s.pooled + s.carried ∧
      ((s.reclaim next).liveCount = s.liveCount ∨
        (s.reclaim next).liveCount = s.liveCount - 1) := by
  unfold State.reclaim State.takeIdle
  rcases takeIdleFrom_cases hI (s.buckets.keys.sort (· ≤ ·)) with h | ⟨k, item, pool, hpool, h⟩
  · rw [h]
    exact ⟨rfl, rfl, .inl rfl⟩
  · rw [h]
    dsimp only
    have hA := hI.accounts.take hpool
    obtain ⟨-, hpooled, -⟩ := eraseBucketIfEmpty_eq hA k
    have hpop := pooled_pop (b := { s.bucket k with
      pool, idle := (s.bucket k).idle - 1, live := (s.bucket k).live - 1 }) hpool
    have hsame : ∀ t : State, (t.eraseBucketIfEmpty k).loans = t.loans ∧
        (t.eraseBucketIfEmpty k).carried = t.carried ∧
        (t.eraseBucketIfEmpty k).liveCount = t.liveCount := fun t => by
      unfold State.eraseBucketIfEmpty
      dsimp only
      split_ifs <;> exact ⟨rfl, rfl, rfl⟩
    refine ⟨?_, ?_, .inr (hsame _).2.2⟩
    · rw [State.loans_goOn, (hsame _).1]
      exact zero_add _
    · rw [State.pooled_goOn, hpooled, State.carried_goOn, (hsame _).2.1, ← hpop]
      simp only [Op.carried, State.pooled_count, State.carried_count, State.carried_set,
        ← Multiset.singleton_add]
      abel

/-- A round of `OnUpdate` takes an idle stack at most, and only while more than it decided to keep
are there. -/
lemma updateLoop_spec (hI : Inv cfg s) (n keep : ℕ) :
    (s.updateLoop n keep).loans = s.loans ∧
      (s.updateLoop n keep).pooled + (s.updateLoop n keep).carried = s.pooled + s.carried ∧
      ((s.updateLoop n keep).liveCount = s.liveCount ∨
        keep ≤ (s.updateLoop n keep).liveCount) := by
  cases n with
  | zero => exact ⟨rfl, rfl, .inl rfl⟩
  | succ n =>
    unfold State.updateLoop
    dsimp only
    by_cases hkeep : s.liveCount ≤ keep
    · rw [if_pos hkeep]
      exact ⟨rfl, rfl, .inl rfl⟩
    · rw [if_neg hkeep]
      obtain ⟨hloans, hstacks, hlive⟩ := reclaim_spec hI (.update n keep)
      refine ⟨hloans, hstacks, hlive.imp id fun h => ?_⟩
      omega

/-- What an erased bucket has left: nothing. -/
lemma Inv.erased (hI : Inv cfg s) (h : s.buckets.lookup k = none) :
    (∀ st ∈ s.pooled + s.loans, st.key ≠ k) ∧ ∀ op ∈ s.ops, op.reserved ≠ some k := by
  have hB := hI.accounts.buckets k
  rw [State.bucket, FiniteMap.get_of_none h] at hB
  refine ⟨fun st hst hkey => ?_, fun op hop hr => ?_⟩
  · rcases Multiset.mem_add.mp hst with hst | hst
    · obtain ⟨j, b, hj, hmem⟩ := FiniteMap.exists_of_mem_total hst
      have hstj : st.key = j := by
        have hkeyed := (hI.accounts.buckets j).keyed
        rw [State.bucket, FiniteMap.get_of_lookup hj] at hkeyed
        exact hkeyed st hmem
      rw [← hkey, hstj, hj] at h
      cases h
    · have hzero : onKey k s.loans = 0 := hB.borrowed.symm
      have hnone := Multiset.countP_eq_zero.mp (Int.natCast_eq_zero.mp hzero)
      exact hnone st hst hkey
  · have hsplit := goOn_erase hop
    have hpend := State.pendingOn_goOn { s with ops := s.ops.erase op } k op
    rw [hsplit, ← hB.pending, (pend_of_reserved hr).1] at hpend
    have hnonneg := pendingOn_nonneg { s with ops := s.ops.erase op } k
    change (0 : ℤ) = _ at hpend
    omega

/-- **The accounting of the stack pool is exact.**  In every reachable state, whatever operations
are under way and wherever memory was refused, the counters agree with each other and with the
stacks, the capacity is kept, every stack is in one place and in the bucket of its own key, an
erased bucket has left nothing behind, and `OnUpdate` reclaims idle stacks only, and none below
the number it decided to keep. -/
theorem exact_of_reachable (cfg : Config) (s : State) (h : (system cfg).Reachable s) :
    Exact cfg s := by
  have hI := inv_of_reachable h
  have hA := hI.accounts
  refine ⟨fun k b hk => ?_, fun k hk => hI.erased hk, ⟨hA.liveSum, ?_⟩,
    ⟨hA.borrowedSum, hA.borrowedCount⟩, ⟨hA.pendingSum, ?_⟩, hA.capacity, hA.places,
    fun n keep e s' hs => ?_⟩
  · have hB := hA.buckets k
    rw [State.bucket, FiniteMap.get_of_lookup hk] at hB
    refine ⟨hB.live, hB.idle, ?_, ?_, hB.keyed⟩
    · rw [hB.borrowed]
      exact onKey_nonneg k _
    · rw [hB.pending]
      exact pendingOn_nonneg s k
  · rw [hA.liveSum, hA.borrowedSum, State.sum, State.sum, State.sum, ← FiniteMap.total_add]
    exact FiniteMap.total_congr (d := ({} : Bucket)) fun k => (hA.buckets k).live
  · rw [hA.pendingCount]
    exact pending_nonneg s
  · simp only [next] at hs
    split_ifs at hs with hmem
    obtain rfl := Option.some.inj hs
    have hsplit := goOn_erase hmem
    set t : State := { s with ops := s.ops.erase (.updateLoop n keep) }
    have ht : Inv cfg t := ((inv_goOn_plain rfl rfl rfl).mp (hsplit ▸ hI)).1
    obtain ⟨hloans, hstacks, hlive⟩ := updateLoop_spec ht n keep
    have hloans' : s.loans = t.loans := by
      rw [← hsplit, State.loans_goOn]
      exact zero_add _
    have hcarried' : s.carried = t.carried := by
      rw [← hsplit, State.carried_goOn]
      exact zero_add _
    exact ⟨hloans.trans hloans'.symm, by rw [hcarried']; exact hstacks, hlive⟩

/-- A protected stack is constructed, lent and given back. -/
theorem exact_of_reachable_release : ∃ s, (system
    { pageSize := 4096, stackSize := 8192, stackProtect := true, maxAllocSize := 2
      minAllocSize := 0 }).Reachable s ∧
    (s.bucket (toLex (12288, true))).idle = 1 ∧ s.liveCount = 1 ∧
    Exact { pageSize := 4096, stackSize := 8192, stackProtect := true, maxAllocSize := 2
            minAllocSize := 0 } s := by
  have hrun : (system { pageSize := 4096, stackSize := 8192, stackProtect := true
                        maxAllocSize := 2, minAllocSize := 0 }).endsIn {}
      [.apply 10000 true, .step (.applyLock (toLex (12288, true))) {},
        .step (.applyAlloc (toLex (12288, true))) {},
        .step (.applyCommit (toLex (12288, true)) ⟨0, 12288, true⟩) {},
        .release ⟨0, 12288, true⟩, .step (.releaseLock ⟨0, 12288, true⟩) {}]
      (fun s => (s.bucket (toLex (12288, true))).idle = 1 ∧ s.liveCount = 1) = true := by
    decide +kernel
  obtain ⟨s, hs, hp⟩ := System.exists_of_endsIn rfl hrun
  exact ⟨s, hs, hp.1, hp.2, exact_of_reachable _ s hs⟩

end BbtCoroutine.StackPool
