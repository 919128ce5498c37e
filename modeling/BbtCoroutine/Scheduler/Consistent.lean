import BbtCoroutine.Scheduler.Tick

/-!
# The worker set stays consistent

The invariant holds in every reachable state.  `workerSet_consistent` draws its
consequences: every record is in exactly one phase of its life, no processer with a driver
is selected, and a request that is rejected or a batch that fails leaves the set as it was.
-/

namespace BbtCoroutine.Scheduler

open Transition

variable {T : Type*} [DecidableEq T] {cfg : Config} {s s' : State T} {t : T}

/-! ## Requests -/

/-- The ways in which `SetProcesserNum` ends before its reaping. -/
inductive Request (t : T) (num : ℕ) (now : ℤ) (s : State T) :
    State T × Option ResizeResult → Prop
  | refused {r : ResizeResult} (hok : r ≠ .ok) (hpending : r ≠ .pending) :
      Request t num now s (s, some r)
  | returned {e : Resizing} {s' : State T} {r : ResizeResult} (hinit : s.initialized = true)
      (hmin : s.minNum ≤ num) (hmax : num ≤ s.maxNum)
      (ha : s.ApplyOutcome num e (.returned s' r)) (hr : r = .ok ∨ r = .pending) :
      Request t num now s
        (({ s' with scalingMode := .manual }.resetScalingSamples now).goto t (.reap 0), some r)
  | rejected {r : ResizeResult} (hok : r ≠ .ok) (hpending : r ≠ .pending) :
      Request t num now s (s.goto t (.reap 0), some r)
  | cancelled {s' : State T} {records : List WorkerRecord} (hc : Created s s' records) :
      Request t num now s
        (s'.goto t (.cancelBatch .manual (records.map WorkerRecord.processer)), none)

/-- A request ends in one of the listed ways. -/
lemma request_spec (hi : Inv s) (t : T) (num : ℕ) (now : ℤ) (e : Resizing) :
    Request t num now s (s.setProcesserNum t num now e) := by
  unfold State.setProcesserNum
  split_ifs with hinit hrange
  · exact .refused (by decide) (by decide)
  · exact .refused (by decide) (by decide)
  · have hinit' : s.initialized = true := by simpa using hinit
    have hmin : s.minNum ≤ num := by omega
    have hmax : num ≤ s.maxNum := by omega
    have hspec := State.applyTarget_spec num e (hi.counted.length hinit') (hi.targetNum_le hinit')
      (hmax.trans hi.counted.maxNum_le) hi.wellFormed.outstanding
    generalize s.applyTarget num e = a at hspec
    cases a with
    | returned s' r =>
      dsimp only
      split_ifs with hr
      · exact .returned hinit' hmin hmax hspec hr
      · have hr' := not_or.mp hr
        cases hspec with
        | grown => exact absurd rfl hr'.1
        | shrunk => exact absurd rfl hr'.2
        | rejected _ hok hpending => exact .rejected hok hpending
        | same => exact absurd rfl hr'.1
    | cancel s' batch =>
      cases hspec with
      | cancelled _ hc => exact .cancelled hc

/-- A request is refused, or its thread alone moves on. -/
lemma Request.goesOn {num : ℕ} {now : ℤ} {a : State T × Option ResizeResult}
    (h : Request t num now s a) : a.1 = s ∨ GoesOn t s a.1 := by
  cases h with
  | refused => exact .inl rfl
  | returned _ _ _ ha =>
    have hcall := congrArg State.call ha.frame
    exact .inr ⟨_, by simp, congrArg (Function.update · t _) hcall⟩
  | rejected => exact .inr ⟨_, by simp, rfl⟩
  | cancelled hc =>
    right
    obtain ⟨n, l, rfl⟩ := hc.exists_eq
    exact ⟨_, by simp, rfl⟩

/-- A request leaves the bounds as they are. -/
lemma Request.bounds {num : ℕ} {now : ℤ} {a : State T × Option ResizeResult}
    (h : Request t num now s a) : a.1.initialized = s.initialized ∧ a.1.minNum = s.minNum ∧
      a.1.maxNum = s.maxNum ∧ a.1.driverBound = s.driverBound := by
  cases h with
  | refused | rejected => exact ⟨rfl, rfl, rfl, rfl⟩
  | returned _ _ _ ha =>
    have hinit := congrArg State.initialized ha.frame
    have hmin := congrArg State.minNum ha.frame
    have hmax := congrArg State.maxNum ha.frame
    have hdriver := congrArg State.driverBound ha.frame
    exact ⟨hinit, hmin, hmax, hdriver⟩
  | cancelled hc =>
    obtain ⟨h₁, h₂, h₃, -, h₄⟩ := hc.sameControl
    exact ⟨h₁, h₂, h₃, h₄⟩

/-! ## The invariant of the system -/

/-- A running worker set has the bounds that its configuration resolves to. -/
def Configured (cfg : Config) (s : State T) : Prop :=
  s.initialized = true → ∃ b, cfg.resolveProcesserScalingBounds = some b ∧
    s.minNum = b.minNum ∧ s.maxNum = b.maxNum

namespace Inv

/-- A call that has claimed nothing may go on to a point where it has claimed nothing. -/
lemma goto (h : Inv s) {c : Call} (ht : (s.call t).claim = none) (hc : c.claim = none) :
    Inv (s.goto t c) :=
  ⟨h.wellFormed.goto t c, h.receipts.goto ht hc, h.counted.1, h.counted.2, h.counted.3,
    h.counted.4⟩

/-- A request keeps the invariant. -/
lemma request {num : ℕ} {now : ℤ} {a : State T × Option ResizeResult} (h : Inv s)
    (ht : (s.call t).claim = none) (ha : Request t num now s a) : Inv a.1 := by
  cases ha with
  | refused => exact h
  | @returned e s' r hinit hmin hmax ha hr =>
    obtain ⟨hi, hcall⟩ := h.applied ha hinit hmin hmax
    refine Inv.goto (hi.congr rfl) ?_ rfl
    change (s'.call t).claim = none
    rwa [show s'.call = s.call from hcall]
  | rejected => exact h.goto ht rfl
  | @cancelled s' records hc =>
    refine (h.created hc).goto ?_ rfl
    rwa [show s'.call = s.call by rw [hc.frame]]

/-- A decision keeps the invariant. -/
lemma decision {b : Config.Bounds} (h : Inv s) (hcfg : cfg.Accepted b)
    (hinit : s.initialized = true) (ht : (s.call t).claim = none) (hd : Decision cfg t s s') :
    Inv s' := by
  have hbounds := h.counted.bounds hinit
  cases hd with
  | quiet => exact h.goto ht rfl
  | atMax => exact Inv.goto (h.congr rfl) ht rfl
  | expanded _ hlt hc hlen =>
    obtain ⟨hgt, hle, -⟩ :=
      State.nextUp_mem hlt h.counted.maxNum_le hcfg.step_le hcfg.step_pos
    obtain ⟨hi, hcall⟩ := h.applied (e := {}) (.grown hgt hc hlen) hinit
      (hbounds.1.trans hgt.le) hle
    refine Inv.goto (hi.congr rfl) ?_ rfl
    exact (congrArg (fun call => (call t).claim) hcall).trans ht
  | cancelled _ _ hc =>
    refine (h.created hc).goto ?_ rfl
    rw [hc.frame]
    exact ht
  | atMin => exact Inv.goto (h.congr rfl) ht rfl
  | @shrunk self _ _ hlt hlen hout =>
    obtain ⟨hgt, hle, -⟩ := State.nextDown_mem hlt (h.targetNum_le hinit) hcfg.step_pos
    obtain ⟨hi, hcall⟩ := h.applied (e := { self }) (.shrunk hgt hlen hout) hinit hle
      (hgt.le.trans hbounds.2)
    exact Inv.goto (hi.congr rfl) ht rfl
  | rejected => exact Inv.goto (h.congr rfl) ht rfl

/-- A tick keeps the invariant. -/
lemma tick {b : Config.Bounds} {now : ℤ} {r : Readings} (h : Inv s) (hcfg : cfg.Accepted b)
    (hinit : s.initialized = true) (ht : (s.call t).claim = none)
    (hd : Tick cfg t now r s s') : Inv s' := by
  cases hd with
  | skipped => exact h.goto ht rfl
  | unsampled => exact Inv.goto (h.congr rfl) ht rfl
  | @sampled load _ _ _ _ hdec =>
    have hi : Inv ({ s with lastAutoSample := now }.accumulateScalingHits cfg load) :=
      h.congr rfl
    exact hi.decision hcfg hinit ht hdec

/-- The steps of a call keep the invariant. -/
lemma run (h : Inv s) (hr : Run s t s') : Inv s' := by
  refine ⟨hr.wellFormed h.wellFormed h.receipts, hr.receipts h.wellFormed h.receipts, ?_⟩
  have hc := h.counted
  cases hr with
  | @cancelled who =>
    cases who
    all_goals exact ⟨hc.1, hc.2, hc.3, hc.4⟩
  | claim | joined | joinFails => exact (hc.updateRecord _ _).goto t _
  | stop | mark => exact ⟨hc.1, hc.2, hc.3, hc.4⟩
  | erase =>
    refine Counted.goto (hc.setWorkers fun hnil => ?_) t _
    rw [hnil, List.filter_nil]

section

omit [DecidableEq T]

/-- `_Init` finds no worker. -/
lemma init_eq (h : Inv s) (hinit : s.initialized = false) (b : Config.Bounds) (now : ℤ) :
    s.init cfg b now =
      { s with
        minNum := b.minNum
        maxNum := b.maxNum
        targetNum := b.initialNum
        scalingMode := if cfg.processerAutoScale then .auto else .manual }.resetScalingSamples
          now := by
  obtain ⟨hsnap, hworkers⟩ := h.counted.notInitialized hinit
  have hmap : s.processerMap = ∅ := by
    rw [h.wellFormed.map, hsnap]
    rfl
  unfold State.init
  rw [← hsnap, ← hworkers, ← hmap]

/-- `_Init` keeps the invariant. -/
lemma init {b : Config.Bounds} (h : Inv s) (now : ℤ) (hinit : s.initialized = false)
    (hcfg : cfg.Accepted b) : Inv (s.init cfg b now) := by
  rw [h.init_eq hinit]
  refine ⟨h.wellFormed.congr rfl rfl rfl rfl rfl rfl,
    h.receipts.transfer rfl (fun _ => .inl rfl) (fun _ _ _ => rfl) (fun _ _ hl => hl),
    h.counted.notInitialized, fun htrue => ?_, fun htrue => ?_, hcfg.max_le⟩ <;>
  · have htrue : s.initialized = true := htrue
    rw [hinit] at htrue
    cases htrue

/-- A start publishes the initial batch, or leaves the worker set empty. -/
lemma start {b : Config.Bounds} (h : Inv s) (now : ℤ) (f : Option PrepareFault)
    (hinit : s.initialized = false) (hcfg : cfg.Accepted b) : Inv (s.start cfg b now f) := by
  have hi : Inv (s.init cfg b now) := h.init now hinit hcfg
  unfold State.start
  rcases (s.init cfg b now).prepareExpansion_spec b.initialNum f with
    ⟨s', records, hc, hlen, heq⟩ | ⟨s', records, hc, heq⟩
  · rw [heq]
    dsimp only
    have hframe := hc.frame
    have hmin' : s'.minNum = b.minNum := by
      rw [hframe]
      rfl
    have hmax' : s'.maxNum = b.maxNum := by
      rw [hframe]
      rfl
    have hsnap' : s'.activeSnapshot = [] := by
      rw [hframe]
      rfl
    refine ⟨(hi.wellFormed.publish hc).congr rfl rfl rfl rfl rfl rfl,
      (hi.receipts.publish hi.wellFormed hc).transfer rfl (fun _ => .inl rfl)
        (fun _ _ _ => rfl) (fun _ _ hl => hl), fun hno => ?_, fun _ => ?_, fun _ => ?_, ?_⟩
    · cases hno
    · change (s'.activeSnapshot ++ records.map WorkerRecord.processer).length = b.initialNum
      rw [hsnap', List.nil_append, List.length_map, hlen]
    · change s'.minNum ≤ b.initialNum ∧ b.initialNum ≤ s'.maxNum
      rw [hmin', hmax']
      exact ⟨hcfg.min_le, hcfg.le_max⟩
    · change s'.maxNum ≤ intMax
      rw [hmax']
      exact hcfg.max_le
  · rw [heq]
    exact hi.created hc

/-- An exited worker thread is seen by the reaper. -/
lemma threadExit (h : Inv s) (p : ProcesserId) :
    Inv (s.updateRecord p fun r => { r with threadExited := true }) := by
  have hmem : ∀ r ∈ (s.updateRecord p fun r => { r with threadExited := true }).workers,
      ∃ r₀ ∈ s.workers, r₀.processer = r.processer ∧ r₀.claimed = r.claimed ∧
        r₀.joins = r.joins := by
    intro r hr
    obtain ⟨r₀, hr₀, rfl⟩ := List.mem_map.mp hr
    refine ⟨r₀, hr₀, ?_⟩
    split_ifs
    all_goals exact ⟨rfl, rfl, rfl⟩
  have hheld : ∀ {r r₀ : WorkerRecord} {c : Call}, r₀.processer = r.processer →
      r₀.joins = r.joins → (s.Holds r₀ c ↔ s.Holds r c) := by
    intro r r₀ c hp hj
    cases c <;> simp only [State.Holds, hp, hj]
  refine ⟨h.wellFormed.updateRecord p fun _ => rfl,
    ⟨fun r hr hcl => ?_, fun r hr hcl => ?_, fun t id hc => ?_, h.receipts.unique⟩,
    h.counted.updateRecord p _⟩
  · obtain ⟨r₀, hr₀, hp, hcl₀, hj⟩ := hmem r hr
    rw [← hcl₀] at hcl
    rw [← hj, ← hp]
    exact h.receipts.unclaimed r₀ hr₀ hcl
  · obtain ⟨r₀, hr₀, hp, hcl₀, hj⟩ := hmem r hr
    rw [← hcl₀] at hcl
    obtain ⟨t, ht⟩ := h.receipts.claimed r₀ hr₀ hcl
    exact ⟨t, ((hheld hp hj).mp ht).congr rfl⟩
  · obtain ⟨r, hr, hp, hcl, ht⟩ := h.receipts.held t id hc
    refine ⟨_, List.mem_map_of_mem hr, ?_⟩
    split_ifs
    all_goals exact ⟨hp, hcl, State.Holds.congr ((hheld rfl rfl).mp ht) rfl⟩

end

end Inv

/-- The invariant of the system. -/
structure SystemInv (cfg : Config) (s : State T) : Prop extends Inv s where
  configured : Configured cfg s
  gate : ∀ t, s.call t = .tick → s.initialized = true

namespace SystemInv

section

omit [DecidableEq T]

/-- The other parts of the invariant are kept by a step that leaves the bounds as they are and
leads no other call to a tick. -/
lemma of_inv (h : SystemInv cfg s) (hi : Inv s') (hinit : s'.initialized = s.initialized)
    (hmin : s'.minNum = s.minNum) (hmax : s'.maxNum = s.maxNum)
    (hcall : ∀ t, s'.call t = .tick → s.call t = .tick ∨ s.initialized = true) :
    SystemInv cfg s' := by
  refine { hi with configured := fun htrue => ?_, gate := fun t ht => ?_ }
  · rw [hinit] at htrue
    rw [hmin, hmax]
    exact h.configured htrue
  · rw [hinit]
    rcases hcall t ht with ht | htrue
    · exact h.gate t ht
    · exact htrue

/-- A running worker set has an accepted configuration. -/
lemma accepted (h : SystemInv cfg s) (hinit : s.initialized = true) :
    ∃ b, cfg.Accepted b ∧ s.minNum = b.minNum ∧ s.maxNum = b.maxNum := by
  obtain ⟨b, hb, hmin, hmax⟩ := h.configured hinit
  exact ⟨b, Config.accepted_of_resolve hb, hmin, hmax⟩

/-- `Start` keeps the invariant. -/
lemma start {now : ℤ} {f : Option PrepareFault} {b : Config.Bounds} (h : SystemInv cfg s)
    (hinit : s.initialized = false) (hb : cfg.resolveProcesserScalingBounds = some b) :
    SystemInv cfg (s.start cfg b now f) := by
  have hi := h.toInv.start now f hinit (Config.accepted_of_resolve hb)
  have hcall : (s.start cfg b now f).call = s.call ∧
      (s.start cfg b now f).minNum = b.minNum ∧ (s.start cfg b now f).maxNum = b.maxNum := by
    unfold State.start
    rcases (s.init cfg b now).prepareExpansion_spec b.initialNum f with
      ⟨s', records, hc, -, heq⟩ | ⟨s', records, hc, heq⟩
    all_goals
      rw [heq]
      obtain ⟨n, l, rfl⟩ := hc.exists_eq
      exact ⟨rfl, rfl, rfl⟩
  refine { hi with configured := fun _ => ⟨b, hb, hcall.2⟩, gate := fun t ht => ?_ }
  rw [hcall.1] at ht
  rw [h.gate t ht] at hinit
  cases hinit

end

/-- The step lemma of the worker set. -/
lemma step {l : Label T} (h : SystemInv cfg s) (hs : next cfg s l = some s') :
    SystemInv cfg s' := by
  cases l with
  | start now f =>
    rw [next] at hs
    split_ifs at hs with hinit
    obtain ⟨b, hb, rfl⟩ := Option.map_eq_some_iff.mp hs
    exact h.start (by simpa using hinit) hb
  | setProcesserNum t num now e =>
    rw [next] at hs
    split_ifs at hs with ht
    obtain rfl := Option.some.inj hs
    have hreq := request_spec h.toInv t num now e
    have hi := h.toInv.request (by rw [ht]; rfl) hreq
    obtain ⟨h₁, h₂, h₃, -⟩ := hreq.bounds
    refine h.of_inv hi h₁ h₂ h₃ fun t' ht' => .inl ?_
    rcases hreq.goesOn with heq | hgo
    · rwa [heq] at ht'
    · exact hgo.tick_of_tick ht'
  | setProcesserAutoScale enable now =>
    rw [next] at hs
    obtain rfl := Option.some.inj hs
    unfold State.setProcesserAutoScale
    split_ifs with hinit henable
    · exact h
    · exact h.of_inv (h.toInv.congr rfl) rfl rfl rfl fun _ => .inl
    · exact h.of_inv (h.toInv.congr rfl) rfl rfl rfl fun _ => .inl
  | tickGate t =>
    rw [next] at hs
    split_ifs at hs with ht hgate
    · obtain rfl := Option.some.inj hs
      exact h.of_inv (h.toInv.goto (by rw [ht]; rfl) rfl) rfl rfl rfl fun _ _ => .inr hgate.1
    · obtain rfl := Option.some.inj hs
      exact h
  | tick t now r e =>
    rw [next] at hs
    split_ifs at hs with ht
    obtain rfl := Option.some.inj hs
    have hinit := h.gate t ht
    obtain ⟨b, hcfg, -⟩ := h.accepted hinit
    have htick := tick_spec (t := t) h.toInv hinit hcfg now r e
    have hsame := htick.sameControl
    exact h.of_inv (h.toInv.tick hcfg hinit (by rw [ht]; rfl) htick) hsame.initialized
      hsame.minNum hsame.maxNum fun t' ht' => .inl (htick.goesOn.tick_of_tick ht')
  | reap t =>
    rw [next] at hs
    split_ifs at hs with ht hinit
    · obtain rfl := Option.some.inj hs
      exact h.of_inv (h.toInv.goto (by rw [ht]; rfl) rfl) rfl rfl rfl fun _ _ => .inr hinit
    · obtain rfl := Option.some.inj hs
      exact h
  | run t joins =>
    have hrun := run_of_step hs
    have hsame := hrun.sameControl
    exact h.of_inv (h.toInv.run hrun) hsame.initialized hsame.minNum hsame.maxNum
      fun t' ht' => .inl (hrun.goesOn.tick_of_tick ht')
  | registerDriver p =>
    rw [next] at hs
    split_ifs at hs with hp
    obtain rfl := Option.some.inj hs
    have hi : Inv { s with driverBound := Function.update s.driverBound p true } :=
      ⟨h.wellFormed.bindDriver hp.2.2.1,
        h.receipts.transfer rfl (fun _ => .inl rfl) (fun _ _ _ => rfl) (fun _ _ hl => hl),
        h.counted.1, h.counted.2, h.counted.3, h.counted.4⟩
    exact h.of_inv hi rfl rfl rfl fun _ => .inl
  | unregisterDriver p =>
    rw [next] at hs
    split_ifs at hs with hp
    obtain rfl := Option.some.inj hs
    have hi : Inv { s with driverBound := Function.update s.driverBound p false } :=
      ⟨h.wellFormed.unbindDriver p,
        h.receipts.transfer rfl (fun _ => .inl rfl) (fun _ _ _ => rfl) (fun _ _ hl => hl),
        h.counted.1, h.counted.2, h.counted.3, h.counted.4⟩
    exact h.of_inv hi rfl rfl rfl fun _ => .inl
  | workerExit p =>
    rw [next] at hs
    split_ifs at hs with hp
    obtain rfl := Option.some.inj hs
    refine h.of_inv ⟨h.wellFormed.setLifecycle (by decide) (.inl hp),
      h.receipts.transfer rfl (fun _ => .inl rfl) (fun r _ hgone => ?_) (fun r _ hl => ?_),
      h.counted.1, h.counted.2, h.counted.3, h.counted.4⟩ rfl rfl rfl fun _ => .inl
    · have hne : r.processer ≠ p := by
        rintro rfl
        rw [hp] at hgone
        simp at hgone
      simp [hne]
    · rw [State.setLifecycle_lifecycle]
      split_ifs
      · trivial
      · exact hl
  | threadExit p =>
    rw [next] at hs
    split_ifs at hs with hp
    obtain rfl := Option.some.inj hs
    exact h.of_inv (h.toInv.threadExit p) rfl rfl rfl fun _ => .inl

end SystemInv

/-- The invariant holds in every reachable state. -/
theorem systemInv_of_reachable (h : (system T cfg).Reachable s) : SystemInv cfg s := by
  refine System.Reachable.induct (I := SystemInv cfg) ?_ (fun s l s' hi hs => hi.step hs) h
  rintro s rfl
  exact
    { wellFormed :=
        ⟨List.nodup_nil, rfl, by simp, by simp, by simp, by simp, by simp, Nat.zero_le _⟩
      receipts := ⟨by simp, by simp, by simp [Call.claim], by simp [Call.claim]⟩
      counted := ⟨fun _ => ⟨rfl, rfl⟩, fun _ => rfl, by simp, by simp [intMax]⟩
      configured := fun h => by cases h
      gate := fun _ h => by cases h }

/-! ## Consequences -/

/-- The phases of the life of a worker's record. -/
inductive Phase
  | active
  | retiring
  | exited
  | joined

/-- The phase of a record: it belongs to an active worker, to one that retires, to one that has
exited and was not joined yet, or to one that was joined and is being removed by the one call
that has claimed it. -/
def InPhase (s : State T) (r : WorkerRecord) : Phase → Prop
  | .active => s.lifecycle r.processer = .active ∧ r.processer ∈ s.activeSnapshot ∧ r.joins = 0
  | .retiring =>
    s.lifecycle r.processer = .retiring ∧ r.processer ∉ s.activeSnapshot ∧ r.joins = 0
  | .exited => s.lifecycle r.processer = .exited ∧ r.processer ∉ s.activeSnapshot ∧ r.joins = 0
  | .joined => r.processer ∉ s.activeSnapshot ∧ r.joins = 1 ∧
    ∃! t, ∃ n, s.call t = .markJoined n r.processer ∨ s.call t = .erase n r.processer

/-- The consistency of the worker set.  The target is that of the set once the set runs; before
that there is no worker, and a start that has failed leaves its own target behind. -/
structure Consistent (s : State T) : Prop where
  bounds : s.initialized = true → s.minNum ≤ s.targetNum ∧ s.targetNum ≤ s.maxNum
  target : s.initialized = true → s.targetNum = s.activeSnapshot.length
  empty : s.initialized = false → s.activeSnapshot = [] ∧ s.workers = []
  nodup : s.activeSnapshot.Nodup
  keys : s.processerMap = s.activeSnapshot.toFinset
  records : ∀ p ∈ s.activeSnapshot, ∃! r, r ∈ s.workers ∧ r.processer = p
  phase : ∀ r ∈ s.workers, ∃! p, InPhase s r p
  joins : ∀ r ∈ s.workers, r.joins ≤ 1
  outstanding : s.countOutstandingRetire ≤ 32
  pinned : ∀ p, s.driverBound p = true → s.lifecycle p = .active ∧ p ∈ s.activeSnapshot

/-- The workers of two states are the same. -/
structure SameWorkers (s s' : State T) : Prop where
  processerMap : s'.processerMap = s.processerMap
  activeSnapshot : s'.activeSnapshot = s.activeSnapshot
  workers : s'.workers = s.workers
  lifecycle : ∀ r ∈ s.workers, s'.lifecycle r.processer = s.lifecycle r.processer

/-- The worker sets of two states are the same, and so are their targets. -/
structure SameSet (s s' : State T) : Prop extends SameWorkers s s' where
  targetNum : s'.targetNum = s.targetNum

/-- A rejected request leaves the target, the mode, the hits and the snapshot as they were. -/
structure Untouched (s s' : State T) : Prop where
  targetNum : s'.targetNum = s.targetNum
  scalingMode : s'.scalingMode = s.scalingMode
  scaleUpHits : s'.scaleUpHits = s.scaleUpHits
  scaleDownHits : s'.scaleDownHits = s.scaleDownHits
  activeSnapshot : s'.activeSnapshot = s.activeSnapshot

namespace Inv

omit [DecidableEq T] in
/-- The phases exclude each other, and the receipts tell the one of each record. -/
lemma existsUnique_phase (h : Inv s) {r : WorkerRecord} (hr : r ∈ s.workers) :
    ∃! p, InPhase s r p := by
  have hactive := h.wellFormed.active r.processer
  have hnot : ∀ {l}, s.lifecycle r.processer = l → l ≠ .active →
      r.processer ∉ s.activeSnapshot := by
    intro l hl hne hmem
    rw [hactive.mpr hmem] at hl
    exact hne hl.symm
  have hjoined : r.joins = 0 → ∀ p, InPhase s r p → p ≠ .joined := by
    rintro hj p hp rfl
    have hone := hp.2.1
    omega
  cases hcl : r.claimed with
  | false =>
    obtain ⟨hj, hl⟩ := h.receipts.unclaimed r hr hcl
    have hne := hjoined hj
    cases hlife : s.lifecycle r.processer with
    | active =>
      refine ⟨.active, ⟨hlife, hactive.mp hlife, hj⟩, fun p hp => ?_⟩
      cases p with
      | active => rfl
      | joined => exact absurd rfl (hne _ hp)
      | retiring | exited =>
        have hother := hp.1
        rw [hlife] at hother
        cases hother
    | retiring =>
      refine ⟨.retiring, ⟨hlife, hnot hlife (by decide), hj⟩, fun p hp => ?_⟩
      cases p with
      | retiring => rfl
      | joined => exact absurd rfl (hne _ hp)
      | active | exited =>
        have hother := hp.1
        rw [hlife] at hother
        cases hother
    | exited =>
      refine ⟨.exited, ⟨hlife, hnot hlife (by decide), hj⟩, fun p hp => ?_⟩
      cases p with
      | exited => rfl
      | joined => exact absurd rfl (hne _ hp)
      | active | retiring =>
        have hother := hp.1
        rw [hlife] at hother
        cases hother
    | preparing | joined =>
      rw [hlife] at hl
      exact hl.elim
  | true =>
    obtain ⟨t, ht⟩ := h.receipts.claimed r hr hcl
    have hclaim := ht.claim_eq
    have hone : ∀ t' n, s.call t' = .markJoined n r.processer ∨
        s.call t' = .erase n r.processer → t' = t := by
      rintro t' n (hc | hc)
      all_goals exact h.receipts.unique t' t _ (by rw [hc]; rfl) hclaim
    have hout : r.processer ∉ s.activeSnapshot := by
      rcases ht.lifecycle with hl | hl
      all_goals exact hnot hl (by decide)
    cases hc : s.call t with
    | join n id =>
      rw [hc] at ht
      obtain ⟨rfl, hexit, hj⟩ := ht
      refine ⟨.exited, ⟨hexit, hout, hj⟩, fun p hp => ?_⟩
      cases p with
      | exited => rfl
      | joined => exact absurd rfl (hjoined hj _ hp)
      | active | retiring =>
        have hother := hp.1
        rw [hexit] at hother
        cases hother
    | markJoined n id =>
      rw [hc] at ht
      obtain ⟨rfl, hexit, hj⟩ := ht
      refine ⟨.joined, ⟨hout, hj, t, ⟨n, .inl hc⟩, fun t' ⟨n', h'⟩ => hone t' n' h'⟩,
        fun p hp => ?_⟩
      cases p with
      | joined => rfl
      | active | retiring | exited =>
        have hzero := hp.2.2
        omega
    | erase n id =>
      rw [hc] at ht
      obtain ⟨rfl, hl, hj⟩ := ht
      refine ⟨.joined, ⟨hout, hj, t, ⟨n, .inr hc⟩, fun t' ⟨n', h'⟩ => hone t' n' h'⟩,
        fun p hp => ?_⟩
      cases p with
      | joined => rfl
      | active | retiring | exited =>
        have hzero := hp.2.2
        omega
    | idle | tick | cancelBatch who batch | reap n =>
      rw [hc] at ht
      exact ht.elim

omit [DecidableEq T] in
/-- The worker set is consistent under the invariant. -/
lemma consistent (h : Inv s) : Consistent s := by
  refine ⟨h.counted.bounds, fun hinit => (h.counted.length hinit).symm, h.counted.notInitialized,
    h.wellFormed.nodup, h.wellFormed.map, fun p hp => ?_, fun r hr => h.existsUnique_phase hr,
    fun r hr => ?_,
    h.wellFormed.outstanding,
    fun p hp => ⟨(h.wellFormed.active p).mpr (h.wellFormed.driver p hp),
      h.wellFormed.driver p hp⟩⟩
  · obtain ⟨r, hr, heq⟩ := h.wellFormed.records p hp
    refine ⟨r, ⟨hr, heq⟩, fun r' ⟨hr', heq'⟩ => ?_⟩
    exact List.inj_on_of_nodup_map h.wellFormed.workers hr' hr (heq'.trans heq.symm)
  · cases hcl : r.claimed with
    | false => simp [(h.receipts.unclaimed r hr hcl).1]
    | true =>
      obtain ⟨t, ht⟩ := h.receipts.claimed r hr hcl
      exact ht.joins_le

end Inv

/-! ### Requests and batches that fail -/

omit [DecidableEq T] in
/-- A batch that is not published leaves the worker set as it was. -/
lemma Created.sameSet {records : List WorkerRecord} (h : Created s s' records)
    (hw : WellFormed s) : SameSet s s' := by
  have hlife : ∀ r ∈ s.workers, s'.lifecycle r.processer = s.lifecycle r.processer :=
    fun r hr => h.lifecycle_eq (hw.fresh r hr)
  have hframe := h.frame
  exact ⟨⟨by rw [hframe], by rw [hframe], by rw [hframe], hlife⟩, by rw [hframe]⟩

/-- A request that does not resize leaves target, mode, hits and snapshot as they were. -/
lemma Request.untouched {num : ℕ} {now : ℤ} {a : State T × Option ResizeResult}
    (h : Request t num now s a) (hok : a.2 ≠ some .ok) (hpending : a.2 ≠ some .pending) :
    Untouched s a.1 := by
  cases h with
  | refused | rejected => exact ⟨rfl, rfl, rfl, rfl, rfl⟩
  | returned _ _ _ _ hr =>
    rcases hr with rfl | rfl
    · exact absurd rfl hok
    · exact absurd rfl hpending
  | cancelled hc =>
    obtain ⟨n, l, rfl⟩ := hc.exists_eq
    exact ⟨rfl, rfl, rfl, rfl, rfl⟩

/-- A request whose batch fails leaves the worker set as it was. -/
lemma Request.sameSet {num : ℕ} {now : ℤ} {a : State T × Option ResizeResult}
    (h : Request t num now s a) (hw : WellFormed s) (hnone : a.2 = none) : SameSet s a.1 := by
  cases h with
  | refused | rejected | returned => cases hnone
  | cancelled hc =>
    obtain ⟨⟨h₁, h₂, h₃, h₄⟩, h₅⟩ := hc.sameSet hw
    exact ⟨⟨h₁, h₂, h₃, h₄⟩, h₅⟩

/-- A tick whose batch fails leaves the worker set as it was. -/
lemma Tick.sameSet {now : ℤ} {r : Readings} {who : Resizer} {batch : List ProcesserId}
    (h : Tick cfg t now r s s') (hw : WellFormed s) (hc : s'.call t = .cancelBatch who batch) :
    SameSet s s' := by
  cases h with
  | skipped | unsampled =>
    rw [goto_call_self] at hc
    cases hc
  | sampled _ _ _ hdec =>
    cases hdec with
    | cancelled _ _ hcr =>
      obtain ⟨⟨h₁, h₂, h₃, h₄⟩, h₅⟩ := hcr.sameSet (hw.congr rfl rfl rfl rfl rfl rfl)
      exact ⟨⟨h₁, h₂, h₃, h₄⟩, h₅⟩
    | quiet | atMax | expanded | atMin | shrunk | rejected =>
      rw [goto_call_self] at hc
      cases hc

omit [DecidableEq T] in
/-- A start that fails leaves the workers as they were, and its target behind. -/
lemma start_sameWorkers {now : ℤ} {f : Option PrepareFault} {b : Config.Bounds} (h : Inv s)
    (hinit : s.initialized = false) (hcfg : cfg.Accepted b)
    (hno : (s.start cfg b now f).initialized = false) :
    SameWorkers s (s.start cfg b now f) ∧ (s.start cfg b now f).targetNum = b.initialNum := by
  have hw : WellFormed (s.init cfg b now) := (h.init now hinit hcfg).wellFormed
  have heq : s.init cfg b now = _ := h.init_eq hinit b now
  unfold State.start at hno ⊢
  rcases (s.init cfg b now).prepareExpansion_spec b.initialNum f with
    ⟨s', records, hc, -, heq'⟩ | ⟨s', records, hc, heq'⟩
  · rw [heq'] at hno
    cases hno
  · rw [heq']
    obtain ⟨⟨h₁, h₂, h₃, h₄⟩, h₅⟩ := hc.sameSet hw
    rw [heq] at h₁ h₂ h₃ h₄
    exact ⟨⟨h₁, h₂, h₃, h₄⟩, h₅⟩

/-- In every reachable state the worker set is consistent, and it stays as it was when a request
is rejected and when an expansion fails, until the call of the latter has returned. -/
theorem workerSet_consistent (h : (system T cfg).Reachable s) :
    Consistent s ∧
    (∀ need self, ∀ p ∈ s.selected need self, s.driverBound p = false) ∧
    (∀ t num now e, (s.setProcesserNum t num now e).2 ≠ some .ok →
      (s.setProcesserNum t num now e).2 ≠ some .pending →
      Untouched s (s.setProcesserNum t num now e).1) ∧
    (∀ enable now, (s.setProcesserAutoScale enable now).2 ≠ .ok →
      (s.setProcesserAutoScale enable now).1 = s) ∧
    (∀ t num now e, (s.setProcesserNum t num now e).2 = none →
      SameSet s (s.setProcesserNum t num now e).1) ∧
    (∀ t now r e who batch, s.call t = .tick →
      (s.autoScaleTick cfg t now r e).call t = .cancelBatch who batch →
      SameSet s (s.autoScaleTick cfg t now r e)) ∧
    (∀ b now f, s.initialized = false → cfg.resolveProcesserScalingBounds = some b →
      (s.start cfg b now f).initialized = false → SameWorkers s (s.start cfg b now f) ∧
        (s.start cfg b now f).targetNum = b.initialNum) ∧
    ∀ t who, SameSet s (s.batchCancelled t who) ∧
      (who = .manual → Untouched s (s.batchCancelled t who)) := by
  have hi := systemInv_of_reachable h
  have hw := hi.wellFormed
  refine ⟨hi.consistent, fun need self p hp => (WellFormed.selected_spec hp).2.2.1,
    fun t num now e hok hpending => (request_spec hi.toInv t num now e).untouched hok hpending,
    fun enable now hr => ?_,
    fun t num now e hnone => (request_spec hi.toInv t num now e).sameSet hw hnone,
    fun t now r e who batch ht hc => ?_, fun b now f hinit hb hno =>
      start_sameWorkers hi.toInv hinit (Config.accepted_of_resolve hb) hno,
    fun t who => ⟨?_, ?_⟩⟩
  · unfold State.setProcesserAutoScale at hr ⊢
    split_ifs at hr ⊢ with hinit henable
    · rfl
    · exact absurd rfl hr
    · exact absurd rfl hr
  · have hinit := hi.gate t ht
    obtain ⟨b, hcfg, -⟩ := hi.accepted hinit
    exact (tick_spec hi.toInv hinit hcfg now r e).sameSet hw hc
  · cases who
    all_goals exact ⟨⟨rfl, rfl, rfl, fun _ _ => rfl⟩, rfl⟩
  · rintro rfl
    exact ⟨rfl, rfl, rfl, rfl, rfl⟩

/-- Three workers are started, one of them is bound to a driver, another one has exited and its
record is claimed by a reaper. -/
theorem workerSet_consistent_joining : ∃ s : State ℕ,
    (s.activeSnapshot = [0, 2] ∧ s.call 0 = .join 0 1) ∧ Consistent s := by
  have hrun : (system ℕ { staticThreadNum := 1, processerMaxNum := 3 }).endsIn {}
      [.start 0 none, .setProcesserNum 0 3 0 {}, .run 0 true, .registerDriver 0,
        .setProcesserNum 0 2 0 {}, .run 0 true, .workerExit 1, .threadExit 1, .reap 0,
        .run 0 true]
      (fun s => s.activeSnapshot = [0, 2] ∧ s.call 0 = .join 0 1) = true := by
    decide +kernel
  obtain ⟨s, hs, hp⟩ := System.exists_of_endsIn rfl hrun
  exact ⟨s, hp, (workerSet_consistent hs).1⟩

end BbtCoroutine.Scheduler
