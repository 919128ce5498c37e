import BbtCoroutine.Scheduler.AutoScale

/-!
# Calm states

In a calm state no call is in progress, no driver is bound and no worker retires.  Requests
that succeed lead from a calm state to one with any target within the bounds: upwards in
one batch, downwards worker by worker, each of them reaped before the next one retires.
-/

namespace BbtCoroutine.Scheduler

open Transition

variable {T : Type*} [DecidableEq T] {cfg : Config} {b : Config.Bounds} {s s' : State T} {t : T}
  {n : ℕ}

/-- No call is in progress, no driver is bound and every worker is active. -/
structure Calm (cfg : Config) (n : ℕ) (s : State T) : Prop where
  reachable : (system T cfg).Reachable s
  initialized : s.initialized = true
  targetNum : s.targetNum = n
  idle : ∀ t, s.call t = .idle
  unbound : ∀ p, s.driverBound p = false
  workers : ∀ r ∈ s.workers, s.lifecycle r.processer = .active

/-! ## Reaping -/

/-- A reap that finds an exited worker claims it. -/
lemma step_reap_some {k : ℕ} {r : WorkerRecord} (joins : Bool) (hc : s.call t = .reap k)
    (hk : k < maxReapPerTick) (hr : s.workers.find? s.claimable = some r) :
    s.step t joins = some ((s.updateRecord r.processer fun r => { r with claimed := true }).goto t
      (.join k r.processer)) := by
  unfold State.step
  rw [hc]
  dsimp only
  rw [if_pos hk, hr]

/-- A reap that finds no exited worker ends. -/
lemma step_reap_none {k : ℕ} {joins : Bool} (hc : s.call t = .reap k)
    (hr : ∀ r ∈ s.workers, s.lifecycle r.processer ≠ .exited) :
    s.step t joins = some (s.goto t .idle) := by
  have hfind : s.workers.find? s.claimable = none := by
    rw [List.find?_eq_none]
    intro r hmem
    simp [State.claimable, hr r hmem]
  unfold State.step
  rw [hc]
  dsimp only
  rw [hfind]
  split_ifs <;> rfl

/-- A claimed worker is joined. -/
lemma step_join {k : ℕ} {id : ProcesserId} (hc : s.call t = .join k id) :
    s.step t true = some ((s.updateRecord id fun r => { r with joins := r.joins + 1 }).goto t
      (.markJoined k id)) := by
  unfold State.step
  rw [hc]
  rfl

/-- A joined worker is marked. -/
lemma step_markJoined {k : ℕ} {id : ProcesserId} {joins : Bool}
    (hc : s.call t = .markJoined k id) :
    s.step t joins = some ((s.setLifecycle [id] .joined).goto t (.erase k id)) := by
  unfold State.step
  rw [hc]

/-- A joined worker is erased. -/
lemma step_erase {k : ℕ} {id : ProcesserId} {joins : Bool} (hc : s.call t = .erase k id) :
    s.step t joins = some ({ s with
      workers := s.workers.filter (·.processer ≠ id) }.goto t (.reap (k + 1))) := by
  unfold State.step
  rw [hc]

/-- The other workers are active. -/
def OthersActive (p : ProcesserId) (s : State T) : Prop :=
  ∀ r ∈ s.workers, r.processer ≠ p → s.lifecycle r.processer = .active

omit [DecidableEq T] in
/-- An update of the record of a worker leaves the others active. -/
lemma OthersActive.updateRecord {p : ProcesserId} (h : OthersActive p s)
    {f : WorkerRecord → WorkerRecord} (hf : ∀ r, (f r).processer = r.processer) :
    OthersActive p (s.updateRecord p f) := by
  intro r hr hne
  obtain ⟨r₀, hr₀, rfl⟩ := List.mem_map.mp hr
  have heq : (if r₀.processer = p then f r₀ else r₀).processer = r₀.processer := by
    split_ifs
    · exact hf r₀
    · rfl
  rw [heq] at hne ⊢
  exact h r₀ hr₀ hne

omit [DecidableEq T] in
/-- The lifecycle of a worker leaves the others active. -/
lemma OthersActive.setLifecycle {p : ProcesserId} (h : OthersActive p s) (l : Lifecycle) :
    OthersActive p (s.setLifecycle [p] l) := by
  intro r hr hne
  rw [State.setLifecycle_lifecycle, if_neg (by simpa using hne)]
  exact h r hr hne

/-- From `s₀` on, only the worker of `p` has left the active set, and only `t` moves. -/
structure Leaving (cfg : Config) (p : ProcesserId) (t : T) (s₀ s : State T) : Prop where
  reachable : (system T cfg).Reachable s
  initialized : s.initialized = true
  targetNum : s.targetNum = s₀.targetNum
  driverBound : s.driverBound = s₀.driverBound
  idle : ∀ t', t' ≠ t → s.call t' = .idle
  others : OthersActive p s

namespace Leaving

variable {p : ProcesserId} {s₀ : State T}

/-- A step of `t` that changes nothing but the worker of `p`. -/
lemma step (h : Leaving cfg p t s₀ s) (l : Label T) (hs : next cfg s l = some s')
    (hinit : s'.initialized = s.initialized) (htarget : s'.targetNum = s.targetNum)
    (hdriver : s'.driverBound = s.driverBound) (hcall : ∀ t', t' ≠ t → s'.call t' = s.call t')
    (hothers : OthersActive p s') : Leaving cfg p t s₀ s' :=
  ⟨h.reachable.step l hs, hinit.trans h.initialized, htarget.trans h.targetNum,
    hdriver.trans h.driverBound, fun t' ht => (hcall t' ht).trans (h.idle t' ht), hothers⟩

/-- The worker exits, and so does its thread. -/
lemma exit (h : Leaving cfg p t s₀ s) (hc : s.call t = .idle) (hp : s.lifecycle p = .retiring)
    (hrec : ∃ r ∈ s.workers, r.processer = p) :
    ∃ s', Leaving cfg p t s₀ s' ∧ s'.call t = .idle ∧ s'.lifecycle p = .exited ∧
      ∃ r ∈ s'.workers, s'.claimable r = true := by
  obtain ⟨r₀, hr₀, hr₀p⟩ := hrec
  have hfree : r₀.claimed = false := by
    by_contra hcl
    obtain ⟨t', ht'⟩ :=
      (systemInv_of_reachable h.reachable).receipts.claimed r₀ hr₀ (by simpa using hcl)
    have hidle : s.call t' = .idle := by
      by_cases ht : t' = t
      · rw [ht, hc]
      · exact h.idle t' ht
    rw [hidle] at ht'
    exact ht'
  have hexit : (s.setLifecycle [p] .exited).lifecycle p = .exited :=
    if_pos (List.mem_singleton_self p)
  have h₁ : Leaving cfg p t s₀ (s.setLifecycle [p] .exited) :=
    h.step (.workerExit p) (if_pos hp) rfl rfl rfl (fun _ _ => rfl) (h.others.setLifecycle _)
  refine ⟨_, h₁.step (.threadExit p) (if_pos hexit) rfl rfl rfl (fun _ _ => rfl)
    (h₁.others.updateRecord fun _ => rfl), hc, hexit, { r₀ with threadExited := true }, ?_, ?_⟩
  · exact List.mem_map.mpr ⟨r₀, hr₀, if_pos hr₀p⟩
  · have hlife : ((s.setLifecycle [p] .exited).updateRecord p fun r =>
        { r with threadExited := true }).lifecycle r₀.processer = .exited := by
      rw [hr₀p]
      exact hexit
    simp only [State.claimable, hfree, hlife, decide_true, and_self]

/-- A reaper claims the record. -/
lemma claim (h : Leaving cfg p t s₀ s) (hc : s.call t = .reap 0)
    (hr : ∃ r ∈ s.workers, s.claimable r = true) :
    ∃ s', Leaving cfg p t s₀ s' ∧ s'.call t = .join 0 p := by
  obtain ⟨r, hfind⟩ := Option.isSome_iff_exists.mp (List.find?_isSome.mpr hr)
  have hrp : r.processer = p := by
    by_contra hne
    have hactive := h.others r (List.mem_of_find?_eq_some hfind) hne
    have hclaim := List.find?_some hfind
    simp [State.claimable, hactive] at hclaim
  have hstep := step_reap_some true hc (by decide) hfind
  rw [hrp] at hstep
  refine ⟨_, h.step (.run t true) hstep rfl rfl rfl (fun t' ht => goto_call_of_ne _ ht _) ?_,
    goto_call_self _ _ _⟩
  exact h.others.updateRecord fun _ => rfl

/-- The reaper joins the thread, marks the worker and erases the record. -/
lemma erase (h : Leaving cfg p t s₀ s) (hc : s.call t = .join 0 p) :
    ∃ s', Leaving cfg p t s₀ s' ∧ s'.call t = .reap 1 ∧ ∀ r ∈ s'.workers, r.processer ≠ p := by
  have hjoin : ∃ s', Leaving cfg p t s₀ s' ∧ s'.call t = .markJoined 0 p := by
    refine ⟨_, h.step (.run t true) (step_join hc) rfl rfl rfl
      (fun t' ht => goto_call_of_ne _ ht _) ?_, goto_call_self _ _ _⟩
    exact h.others.updateRecord fun _ => rfl
  obtain ⟨s₁, h₁, hc₁⟩ := hjoin
  have hmark : ∃ s', Leaving cfg p t s₀ s' ∧ s'.call t = .erase 0 p :=
    ⟨_, h₁.step (.run t true) (step_markJoined hc₁) rfl rfl rfl
      (fun t' ht => goto_call_of_ne _ ht _) (h₁.others.setLifecycle _), goto_call_self _ _ _⟩
  obtain ⟨s₂, h₂, hc₂⟩ := hmark
  refine ⟨_, h₂.step (.run t true) (step_erase hc₂) rfl rfl rfl
    (fun t' ht => goto_call_of_ne _ ht _) ?_, goto_call_self _ _ _, ?_⟩
  · exact fun r hr hne => h₂.others r (List.mem_filter.mp hr).1 hne
  · intro r hr
    simpa using (List.mem_filter.mp hr).2

end Leaving

/-- The record of the only worker that retires can be removed. -/
lemma exists_reaped {p : ProcesserId} (hs : (system T cfg).Reachable s)
    (hinit : s.initialized = true) (hidle : ∀ t, s.call t = .idle)
    (hunbound : ∀ p, s.driverBound p = false) (hp : s.lifecycle p = .retiring)
    (hrec : ∃ r ∈ s.workers, r.processer = p) (hothers : OthersActive p s) (t : T) :
    ∃ s' : State T, Calm cfg s.targetNum s' := by
  have h₀ : Leaving cfg p t s s := ⟨hs, hinit, rfl, rfl, fun t' _ => hidle t', hothers⟩
  obtain ⟨s₁, h₁, hc₁, -, hr₁⟩ := h₀.exit (hidle t) hp hrec
  have hstart : next cfg s₁ (.reap t) = some (s₁.goto t (.reap 0)) := by
    rw [next, if_pos hc₁, if_pos h₁.initialized]
  have h₂ : Leaving cfg p t s (s₁.goto t (.reap 0)) :=
    h₁.step (.reap t) hstart rfl rfl rfl (fun t' ht => goto_call_of_ne _ ht _) h₁.others
  obtain ⟨s₃, h₃, hc₃⟩ := h₂.claim (goto_call_self _ _ _) hr₁
  obtain ⟨s₄, h₄, hc₄, hgone⟩ := h₃.erase hc₃
  have hactive : ∀ r ∈ s₄.workers, s₄.lifecycle r.processer = .active :=
    fun r hr => h₄.others r hr (hgone r hr)
  have hstop : next cfg s₄ (.run t true) = some (s₄.goto t .idle) :=
    step_reap_none hc₄ fun r hr => by
      rw [hactive r hr]
      decide
  refine ⟨_, h₄.reachable.step (.run t true) hstop, h₄.initialized, h₄.targetNum, fun t' => ?_,
    fun p => (congrFun h₄.driverBound p).trans (hunbound p), hactive⟩
  by_cases ht : t' = t
  · subst ht
    exact goto_call_self _ _ _
  · rw [goto_call_of_ne _ ht]
    exact h₄.idle t' ht

/-! ## Requests that succeed -/

namespace Inv

omit [DecidableEq T] in
/-- Without drivers every active processer is a candidate. -/
lemma candidates_eq (hi : Inv s) (hunbound : ∀ p ∈ s.activeSnapshot, s.driverBound p = false) :
    s.candidates = s.activeSnapshot := by
  refine List.filter_eq_self.mpr fun p hp => ?_
  simp [(hi.wellFormed.active p).mpr hp, hunbound p hp]

omit [DecidableEq T] in
/-- Without drivers a shrink of a batch that is small enough is committed. -/
lemma applyTarget_shrink (hi : Inv s) (hinit : s.initialized = true) (target : ℕ)
    (hunbound : ∀ p ∈ s.activeSnapshot, s.driverBound p = false) (f : Option PrepareFault)
    (hlt : target < s.targetNum)
    (hout : s.countOutstandingRetire + (s.targetNum - target) ≤ maxOutstandingRetire) :
    s.applyTarget target { prepareFault := f } =
      .returned (s.retire (s.activeSnapshot.take (s.targetNum - target)) target) .pending := by
  have hmod : intMax + maxOutstandingRetire < sizeMod := by decide
  have hnum := hi.targetNum_le hinit
  have hlen := hi.counted.length hinit
  have hsel : s.selected (s.targetNum - target) none =
      s.activeSnapshot.take (s.targetNum - target) := by
    rw [State.selected, hi.candidates_eq hunbound]
    rw [List.filter_eq_self.mpr (by simp)]
  have hcommit : s.commitShrink (s.targetNum - target) target { prepareFault := f } =
      (s.retire (s.activeSnapshot.take (s.targetNum - target)) target, .pending) := by
    unfold State.commitShrink
    rw [hi.candidates_eq hunbound, hsel, List.length_take, hlen, sizeAdd_eq (by omega)]
    rw [if_neg (by simp), if_neg (by omega), if_neg (by omega), if_neg (by omega)]
  unfold State.applyTarget
  dsimp only
  rw [hlen, if_neg (by omega), if_pos hlt, sizeSub_eq hlt.le (by omega), hcommit]

end Inv

omit [DecidableEq T] in
/-- Without a fault the whole batch is created. -/
lemma createBatch_none (k : ℕ) (s : State T) (records : List WorkerRecord) :
    (State.createBatch none k s records).2.2 = true := by
  induction k generalizing s records with
  | zero => rfl
  | succ k ih =>
    rw [State.createBatch, if_neg (by simp), if_neg (by simp)]
    exact ih _ _

omit [DecidableEq T] in
/-- Without a fault the batch is published. -/
lemma prepareExpansion_none (s : State T) (need : ℕ) :
    ∃ s' records, Created s s' records ∧ records.length = need ∧
      s.prepareExpansion need none = .returned (s'.publish records) .ok := by
  obtain ⟨new, hrecords, hcreated, hlength⟩ := State.createBatch_spec none need s []
  have hok := createBatch_none need s []
  rw [List.nil_append] at hrecords
  refine ⟨_, new, hcreated, hlength hok, ?_⟩
  unfold State.prepareExpansion
  dsimp only
  rw [if_pos ⟨hok, by simp, by simp⟩, hrecords]

namespace Calm

/-- A calm state is in order. -/
lemma inv (h : Calm cfg n s) : SystemInv cfg s :=
  systemInv_of_reachable h.reachable

/-- No retirement is outstanding. -/
lemma countOutstandingRetire (h : Calm cfg n s) : s.countOutstandingRetire = 0 := by
  refine List.countP_eq_zero.mpr fun r hr => ?_
  simp [h.workers r hr]

/-- A calm state has the bounds of its configuration. -/
lemma bounds (h : Calm cfg n s) (hb : cfg.resolveProcesserScalingBounds = some b) :
    s.minNum = b.minNum ∧ s.maxNum = b.maxNum := by
  obtain ⟨b', hb', hmin, hmax⟩ := h.inv.configured h.initialized
  obtain rfl : b' = b := Option.some.inj (hb'.symm.trans hb)
  exact ⟨hmin, hmax⟩

/-- A started worker set is calm. -/
lemma exists_start (T : Type*) [DecidableEq T]
    (hb : cfg.resolveProcesserScalingBounds = some b) : ∃ s : State T, Calm cfg b.initialNum s := by
  have h₀ : (system T cfg).Reachable {} := .start rfl
  have hnext : next cfg ({} : State T) (.start 0 none) =
      some (({} : State T).start cfg b 0 none) := by
    rw [next, if_neg (by simp), hb]
    rfl
  have h₁ := h₀.step (.start 0 none) hnext
  obtain ⟨s', records, hc, -, heq⟩ :=
    prepareExpansion_none (({} : State T).init cfg b 0) b.initialNum
  have hstart : ({} : State T).start cfg b 0 none =
      { s'.publish records with targetNum := b.initialNum, initialized := true } := by
    unfold State.start
    rw [heq]
  rw [hstart] at h₁
  have hworkers : s'.workers = [] := by
    rw [hc.frame]
    rfl
  refine ⟨_, h₁, rfl, rfl, fun t => ?_, fun p => ?_, fun r hr => ?_⟩
  · change s'.call t = _
    rw [hc.frame]
    rfl
  · change s'.driverBound p = _
    rw [hc.frame]
    rfl
  · change r ∈ s'.workers ++ records at hr
    rw [hworkers, List.nil_append] at hr
    exact if_pos (List.mem_map_of_mem hr)

/-- A request for more workers. -/
lemma grow {m : ℕ} (h : Calm cfg m s) (hmin : s.minNum ≤ m) (hlt : m < n) (hmax : n ≤ s.maxNum)
    (t : T) : ∃ s' : State T, Calm cfg n s' := by
  have hmod : intMax + maxOutstandingRetire < sizeMod := by decide
  have hlen := h.inv.counted.length h.initialized
  have hle := h.inv.counted.maxNum_le
  have htarget := h.targetNum
  obtain ⟨s₁, records, hc, hlength, heq⟩ := prepareExpansion_none s (n - m)
  have happly : s.applyTarget n {} =
      .returned { s₁.publish records with targetNum := n } .ok := by
    unfold State.applyTarget
    dsimp only
    rw [hlen, htarget, if_pos hlt, sizeSub_eq hlt.le (by omega), heq]
  have hnext : next cfg s (.setProcesserNum t n 0 {}) = some
      (({ s₁.publish records with
        targetNum := n
        scalingMode := .manual }.resetScalingSamples 0).goto t (.reap 0)) := by
    rw [next, if_pos (h.idle t)]
    unfold State.setProcesserNum
    rw [if_neg (by simp [h.initialized]), if_neg (by omega), happly]
    rfl
  have h₁ := h.reachable.step (.setProcesserNum t n 0 {}) hnext
  have hactive : ∀ r ∈ s₁.workers ++ records,
      (s₁.publish records).lifecycle r.processer = .active := by
    intro r hr
    by_cases hmem : r.processer ∈ records.map WorkerRecord.processer
    · exact if_pos hmem
    · have hold : r ∈ s.workers := by
        rcases List.mem_append.mp hr with hr | hr
        · rwa [show s₁.workers = s.workers by rw [hc.frame]] at hr
        · exact absurd (List.mem_map_of_mem hr) hmem
      exact (if_neg hmem).trans
        ((hc.lifecycle_eq (h.inv.wellFormed.fresh r hold)).trans (h.workers r hold))
  have hstop := h₁.step (.run t true) (step_reap_none (goto_call_self _ _ _) fun r hr hexit => by
    cases (hactive r hr).symm.trans hexit)
  refine ⟨_, hstop, ?_, rfl, fun t' => ?_, fun p => ?_, hactive⟩
  · change s₁.initialized = true
    rw [hc.frame]
    exact h.initialized
  · by_cases ht : t' = t
    · subst ht
      exact goto_call_self _ _ _
    · rw [goto_call_of_ne _ ht, goto_call_of_ne _ ht]
      change s₁.call t' = .idle
      rw [hc.frame]
      exact h.idle t'
  · change s₁.driverBound p = false
    rw [hc.frame]
    exact h.unbound p

/-- A request for one worker less, which is reaped. -/
lemma shrink (h : Calm cfg (n + 1) s) (hmin : s.minNum ≤ n) (t : T) :
    ∃ s' : State T, Calm cfg n s' := by
  have hlen := h.inv.counted.length h.initialized
  have hbounds := h.inv.counted.bounds h.initialized
  have htarget := h.targetNum
  have hone : s.targetNum - n = 1 := by omega
  obtain ⟨p, rest, hsnap⟩ := List.exists_cons_of_length_pos (l := s.activeSnapshot) (by omega)
  have happly : s.applyTarget n {} = .returned (s.retire [p] n) .pending := by
    have hshrink := h.inv.applyTarget_shrink h.initialized n (fun p _ => h.unbound p) none
      (by omega)
      (by rw [h.countOutstandingRetire, hone]; decide)
    rw [hone, hsnap] at hshrink
    exact hshrink
  have hnext : next cfg s (.setProcesserNum t n 0 {}) = some
      (({ s.retire [p] n with scalingMode := .manual }.resetScalingSamples 0).goto t
        (.reap 0)) := by
    rw [next, if_pos (h.idle t)]
    unfold State.setProcesserNum
    rw [if_neg (by simp [h.initialized]), if_neg (by omega), happly]
    rfl
  have h₁ := h.reachable.step (.setProcesserNum t n 0 {}) hnext
  have hlife : ∀ q, (s.retire [p] n).lifecycle q =
      if q = p then Lifecycle.retiring else s.lifecycle q := by
    intro q
    change (if q ∈ [p] then _ else _) = _
    simp only [List.mem_singleton]
  have hstop := h₁.step (.run t true) (step_reap_none (goto_call_self _ _ _) fun r hr hexit => by
    have heq := (hlife r.processer).symm.trans hexit
    rw [h.workers r hr] at heq
    split_ifs at heq)
  have hrec := h.inv.wellFormed.records p (by rw [hsnap]; exact List.mem_cons_self)
  refine exists_reaped hstop h.initialized (fun t' => ?_) h.unbound ?_ hrec (fun r hr hne => ?_) t
  · by_cases ht : t' = t
    · subst ht
      exact goto_call_self _ _ _
    · rw [goto_call_of_ne _ ht, goto_call_of_ne _ ht]
      exact h.idle t'
  · exact (hlife p).trans (if_pos rfl)
  · exact (hlife r.processer).trans ((if_neg hne).trans (h.workers r hr))

/-- Requests lead to a calm state with any target within the bounds. -/
theorem exists_calm (hb : cfg.resolveProcesserScalingBounds = some b) (hmin : b.minNum ≤ n)
    (hmax : n ≤ b.maxNum) (t : T) : ∃ s : State T, Calm cfg n s := by
  have hcfg := Config.accepted_of_resolve hb
  obtain ⟨s₀, h₀⟩ := exists_start T hb
  rcases Nat.lt_or_ge b.initialNum n with hlt | hge
  · have hbounds := h₀.bounds hb
    exact h₀.grow (by rw [hbounds.1]; exact hcfg.min_le) hlt (by omega) t
  · have hdown : ∀ k, n + k ≤ b.initialNum → (∃ s : State T, Calm cfg (n + k) s) →
        ∃ s : State T, Calm cfg n s := by
      intro k
      induction k with
      | zero => exact fun _ hs => hs
      | succ k ih =>
        rintro hk ⟨s, hs⟩
        have hbounds := hs.bounds hb
        have hmin' : s.minNum ≤ n + k := by omega
        exact ih (by omega) (shrink hs hmin' t)
    obtain ⟨k, hk⟩ := Nat.exists_eq_add_of_le hge
    exact hdown k hk.ge ⟨s₀, hk ▸ h₀⟩

end Calm

end BbtCoroutine.Scheduler
