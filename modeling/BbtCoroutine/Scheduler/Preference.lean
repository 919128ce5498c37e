import BbtCoroutine.Scheduler.Calm

/-!
# Expansion is preferred only if one sample suffices for it

A load can meet the conditions of both directions if the thresholds of one measure are
equal.  The two directions count their hits apart, and a failed or impossible expansion
resets the hits of its own direction only, so an unbroken run of such loads shrinks the
worker set unless one sample suffices for an expansion.  `prefersExpansion_iff` says when
it does not.
-/

namespace BbtCoroutine.Scheduler

open Transition

variable {T : Type*} [DecidableEq T] {cfg : Config} {b : Config.Bounds} {s s' : State T} {t : T}
  {n : ℕ}

/-- The load meets the conditions of both directions. -/
def Config.bothHit (cfg : Config) (load : ScalingLoad) : Prop :=
  cfg.upHit load = true ∧ cfg.downHit load = true

/-- The step belongs to a run of ticks whose accepted loads meet both conditions. -/
def bothTicks (cfg : Config) (s : State T) : Label T → Prop
  | .tickGate _ => True
  | .tick _ now r _ => ∀ s' load, s.claimAutoSample cfg now = some s' →
    s'.sampleScalingLoad r = some load → cfg.bothHit load
  | .run t _ => ∃ who batch, s.call t = .cancelBatch who batch
  | _ => False

/-- No tick of an unbroken run of loads that meet both conditions commits a shrink. -/
def PrefersExpansion (T : Type*) [DecidableEq T] (cfg : Config) : Prop :=
  ∀ s s' s'' : State T, (system T cfg).Reachable s →
    (system T cfg).PathWhen (bothTicks cfg) s s' →
    ∀ t now r e, bothTicks cfg s' (.tick t now r e) →
      next cfg s' (.tick t now r e) = some s'' → s'.targetNum ≤ s''.targetNum

/-- With `n` workers there is a load that meets both conditions, and a batch of fewer workers that
may retire at once. -/
def Contested (cfg : Config) (b : Config.Bounds) (n : ℕ) : Prop :=
  b.minNum < n ∧ n ≤ b.maxNum ∧ min cfg.scaleStep (n - b.minNum) ≤ maxOutstandingRetire ∧
  (cfg.scaleUpQueueWatermark = cfg.scaleDownQueueWatermark ∨
    cfg.scaleUpBusyPercent = cfg.scaleDownBusyPercent ∧
      ∃ k ≤ n, k * 100 / n = cfg.scaleUpBusyPercent)

/-! ## Loads that meet both conditions -/

omit [DecidableEq T] in
/-- A load that meets both conditions has a measure with equal thresholds. -/
lemma equal_of_bothHit (hi : Inv s) (hinit : s.initialized = true) (hcfg : cfg.Accepted b)
    (hs : Sampled cfg s) {r : Readings} {load : ScalingLoad}
    (hload : s.sampleScalingLoad r = some load) (hboth : cfg.bothHit load) :
    cfg.scaleUpQueueWatermark = cfg.scaleDownQueueWatermark ∨
      cfg.scaleUpBusyPercent = cfg.scaleDownBusyPercent ∧
        ∃ k ≤ s.targetNum, k * 100 / s.targetNum = cfg.scaleUpBusyPercent := by
  obtain ⟨hup, hdown⟩ := hboth
  simp only [Config.upHit, Config.downHit, decide_eq_true_eq] at hup hdown
  have hqueue := hcfg.queue
  have hbusy := hcfg.busy
  rcases hup with hup | hup
  · left
    omega
  · right
    refine ⟨by omega, s.activeSnapshot.countP r.busy, ?_, ?_⟩
    · rw [← hi.counted.length hinit]
      exact List.countP_le_length
    · have hexact := ((exactArithmetic hi hinit hcfg hs r).busyPercent load hload).1
      rw [← hi.counted.length hinit, ← hexact]
      omega

omit [DecidableEq T] in
/-- With a contested number of workers some readings give a load that meets both conditions. -/
lemma exists_bothHit (hi : Inv s) (hinit : s.initialized = true) (hcfg : cfg.Accepted b)
    (hs : Sampled cfg s) (hn : Contested cfg b s.targetNum) :
    ∃ r load, s.sampleScalingLoad r = some load ∧ cfg.bothHit load := by
  obtain ⟨hmin, -, -, hequal⟩ := hn
  have hlen := hi.counted.length hinit
  have hne : s.activeSnapshot ≠ [] := by
    intro hnil
    rw [hnil, List.length_nil] at hlen
    omega
  have hload : ∀ r : Readings, ∃ load, s.sampleScalingLoad r = some load := by
    intro r
    unfold State.sampleScalingLoad
    rw [if_neg hne]
    exact ⟨_, rfl⟩
  have hzero : (s.activeSnapshot.map fun _ => 0).sum = 0 := by simp
  rcases hequal with hqueue | ⟨hbusy, k, hk, hpercent⟩
  · let r : Readings := { globalSizes := [cfg.scaleUpQueueWatermark] }
    obtain ⟨load, hload⟩ := hload r
    have hexact := exactArithmetic hi hinit hcfg hs r
    have htotal : load.queueTotal = cfg.scaleUpQueueWatermark := by
      have hsum : r.globalSizes.sum + (s.activeSnapshot.map r.executable).sum =
          cfg.scaleUpQueueWatermark := by
        simp [r]
      have heq := hexact.queueTotal load hload (by rw [hsum]; exact cfg.upWatermark_lt)
      rwa [hsum] at heq
    have hidle : load.busyPercent = 0 := by
      rw [(hexact.busyPercent load hload).1]
      simp [r]
    refine ⟨r, load, hload, ?_, ?_⟩
    · simp [Config.upHit, htotal]
    · simp [Config.downHit, htotal, hidle, hqueue]
  · let r : Readings := { busy := fun p => decide (p ∈ s.activeSnapshot.take k) }
    obtain ⟨load, hload⟩ := hload r
    have hexact := exactArithmetic hi hinit hcfg hs r
    have htotal : load.queueTotal = 0 := by
      have hsum : r.globalSizes.sum + (s.activeSnapshot.map r.executable).sum = 0 := by
        simp [r]
      have heq := hexact.queueTotal load hload (by rw [hsum]; decide)
      rwa [hsum] at heq
    have hcount : s.activeSnapshot.countP r.busy = k := by
      have hnodup := hi.wellFormed.nodup
      have hperm : (s.activeSnapshot.filter fun p => decide (p ∈ s.activeSnapshot.take k)).Perm
          (s.activeSnapshot.take k) := by
        refine (List.perm_ext_iff_of_nodup (hnodup.filter _)
          (hnodup.sublist (List.take_sublist _ _))).mpr fun p => ?_
        rw [List.mem_filter, decide_eq_true_eq]
        exact ⟨fun hp => hp.2, fun hp => ⟨List.mem_of_mem_take hp, hp⟩⟩
      rw [List.countP_eq_length_filter, hperm.length_eq, List.length_take, hlen]
      exact min_eq_left hk
    have hpercent' : load.busyPercent = cfg.scaleUpBusyPercent := by
      rw [(hexact.busyPercent load hload).1, hcount, hlen, hpercent]
    refine ⟨r, load, hload, ?_, ?_⟩
    · simp [Config.upHit, hpercent']
    · simp [Config.downHit, htotal, hpercent', hbusy]

/-! ## Ticks that cannot shrink -/

/-- A tick that samples a load that meets both conditions and shrinks the worker set does so with
a contested number of workers, and more than one sample is required for an expansion. -/
lemma Tick.contested {now : ℤ} {r : Readings} (hi : Inv s) (hcfg : cfg.Accepted b)
    (hs : Sampled cfg s) (hinit : s.initialized = true) (hmin : s.minNum = b.minNum)
    (hmax : s.maxNum = b.maxNum) (ht : Tick cfg t now r s s')
    (hboth : ∀ load, s.sampleScalingLoad r = some load → cfg.bothHit load)
    (hlt : s'.targetNum < s.targetNum) :
    cfg.scaleUpSamples ≠ 1 ∧ Contested cfg b s.targetNum := by
  cases ht with
  | skipped | unsampled => exact absurd hlt (lt_irrefl _)
  | @sampled load _ _ _ hload hdec =>
    have hi' : Inv ({ s with lastAutoSample := now }.accumulateScalingHits cfg load) :=
      hi.congr rfl
    have hhits := (exactArithmetic hi hinit hcfg hs r).upHits (cfg.upHit load)
    rw [(hboth load hload).1] at hhits
    rcases hdec.target hi' hinit hcfg with heq | ⟨-, hmore, -⟩ | ⟨hup, -⟩
    · exact absurd (heq ▸ hlt) (lt_irrefl _)
    · exact absurd hlt hmore.not_gt
    · have hup' : State.advanceHits s.scaleUpHits (cfg.upHit load) cfg.scaleUpSamples <
          cfg.scaleUpSamples := hup
      rw [(hboth load hload).1, hhits, if_pos rfl] at hup'
      refine ⟨by omega, ?_⟩
      cases hdec with
      | @shrunk self _ _ hgt _ hout =>
        obtain ⟨-, -, hnext⟩ := State.nextDown_mem hgt (hi'.targetNum_le hinit) hcfg.step_pos
        rw [hnext] at hout
        have hbounds := hi.counted.bounds hinit
        have hgt' : s.minNum < s.targetNum := hgt
        have hout' : s.countOutstandingRetire +
          (s.targetNum - max s.minNum (s.targetNum - cfg.scaleStep)) ≤ maxOutstandingRetire := hout
        exact ⟨by omega, by omega, by omega,
          equal_of_bothHit hi hinit hcfg hs hload (hboth load hload)⟩
      | quiet | atMax | atMin | rejected => exact absurd hlt (lt_irrefl _)
      | cancelled _ _ hc =>
        rw [hc.frame] at hlt
        exact absurd hlt (lt_irrefl _)
      | expanded hfull => exact absurd hup hfull.not_gt

/-! ## A run that shrinks -/

/-- A calm state in the automatic mode. -/
structure Ready (cfg : Config) (n : ℕ) (s : State T) : Prop extends Calm cfg n s where
  auto : s.scalingMode = .auto

/-- The automatic mode is turned on. -/
lemma Calm.exists_ready (h : Calm cfg n s) :
    ∃ s' : State T, Ready cfg n s' ∧ s'.scaleUpHits = 0 ∧ s'.scaleDownHits = 0 := by
  have hcall : (s.setProcesserAutoScale true 0).1 =
      { s with scalingMode := .auto }.resetScalingSamples 0 := by
    unfold State.setProcesserAutoScale
    rw [if_neg (by simp [h.initialized]), if_pos rfl]
  have hnext := h.reachable.step (.setProcesserAutoScale true 0) rfl
  rw [hcall] at hnext
  exact ⟨_, { reachable := hnext
              initialized := h.initialized
              targetNum := h.targetNum
              idle := h.idle
              unbound := h.unbound
              workers := h.workers
              auto := rfl }, rfl, rfl⟩

namespace Ready

/-- A state before a tick that samples a load that meets both conditions. -/
structure AtTick (cfg : Config) (n : ℕ) (t : T) (now : ℤ) (r : Readings) (load : ScalingLoad)
    (s s₁ : State T) : Prop where
  gate : s₁ = s.goto t .tick
  path : (system T cfg).PathWhen (bothTicks cfg) s s₁
  claim : s₁.claimAutoSample cfg now = some { s₁ with lastAutoSample := now }
  sample : s₁.sampleScalingLoad r = some load
  both : cfg.bothHit load

/-- The gate of a tick after the interval. -/
lemma exists_atTick (h : Ready cfg n s) (hcfg : cfg.Accepted b) (hn : Contested cfg b n) (t : T) :
    ∃ now r load s₁, AtTick cfg n t now r load s s₁ := by
  have hi := h.inv
  obtain ⟨r, load, hload, hboth⟩ := exists_bothHit hi.toInv h.initialized hcfg
    (sampled_of_reachable h.reachable) (by rw [h.targetNum]; exact hn)
  refine ⟨s.lastAutoSample + (nanoseconds cfg.scaleIntervalMs).natAbs, r, load, _, rfl, ?_, ?_,
    hload, hboth⟩
  · refine .single ⟨.tickGate t, trivial, ?_⟩
    change next cfg s (.tickGate t) = _
    rw [next, if_pos (h.idle t), if_pos ⟨h.initialized, h.auto⟩]
  · have hmode : (s.goto t .tick).scalingMode = .auto := h.auto
    have hlast : (s.goto t .tick).lastAutoSample = s.lastAutoSample := rfl
    unfold State.claimAutoSample
    rw [if_neg (by simp [hmode]), hlast, if_neg (by omega)]

variable {now : ℤ} {r : Readings} {load : ScalingLoad} {s₁ : State T}

namespace AtTick

/-- A step that is a tick with the sampled load belongs to the run. -/
lemma bothTicks (h : AtTick cfg n t now r load s s₁) (e : Resizing) :
    bothTicks cfg s₁ (.tick t now r e) := by
  intro s' load' hclaim hload
  obtain rfl := Option.some.inj (h.claim.symm.trans hclaim)
  obtain rfl : load = load' := Option.some.inj (h.sample.symm.trans hload)
  exact h.both

/-- The tick decides on the hits that the sampled load has advanced. -/
lemma next_eq (h : AtTick cfg n t now r load s s₁) (e : Resizing) :
    next cfg s₁ (.tick t now r e) =
      some (({ s₁ with lastAutoSample := now }.accumulateScalingHits cfg load).applyScalingDecision
        cfg t e) := by
  have hcall : s₁.call t = .tick := by
    rw [h.gate]
    exact goto_call_self _ _ _
  have hload : State.sampleScalingLoad { s₁ with lastAutoSample := now } r = some load := h.sample
  rw [next, if_pos hcall]
  unfold State.autoScaleTick
  rw [h.claim]
  dsimp only
  rw [hload]

/-- The state before the decision. -/
lemma accumulated (h : AtTick cfg n t now r load s s₁) (hs : Ready cfg n s) :
    Inv ({ s₁ with lastAutoSample := now }.accumulateScalingHits cfg load) ∧
    ({ s₁ with lastAutoSample := now }.accumulateScalingHits cfg load).scaleUpHits =
      min (s.scaleUpHits + 1) cfg.scaleUpSamples ∧
    ({ s₁ with lastAutoSample := now }.accumulateScalingHits cfg load).scaleDownHits =
      min (s.scaleDownHits + 1) cfg.scaleDownSamples := by
  have hsampled := sampled_of_reachable hs.reachable
  have hup := hsampled.up
  have hdown := hsampled.down
  have hi : Inv s₁ := by
    rw [h.gate]
    exact hs.inv.toInv.goto (by rw [hs.idle t]; rfl) rfl
  refine ⟨hi.congr rfl, ?_, ?_⟩
  · change State.advanceHits s₁.scaleUpHits (cfg.upHit load) cfg.scaleUpSamples = _
    rw [h.both.1, show s₁.scaleUpHits = s.scaleUpHits by rw [h.gate]; rfl,
      advanceHits_eq (by omega) cfg.upSamples_lt, if_pos rfl]
  · change State.advanceHits s₁.scaleDownHits (cfg.downHit load) cfg.scaleDownSamples = _
    rw [h.both.2, show s₁.scaleDownHits = s.scaleDownHits by rw [h.gate]; rfl,
      advanceHits_eq (by omega) cfg.downSamples_lt, if_pos rfl]

end AtTick

/-- A batch whose first processer cannot be created. -/
def noProcesser : Resizing :=
  { prepareFault := some (.processer 0) }

omit [DecidableEq T] in
/-- Such a batch is cancelled with nothing created. -/
lemma applyTarget_noProcesser {target : ℕ} (hi : Inv s) (hinit : s.initialized = true)
    (hlt : s.targetNum < target) (hle : target ≤ intMax) :
    s.applyTarget target noProcesser = .cancel s [] := by
  have hmod : intMax + maxOutstandingRetire < sizeMod := by decide
  have hlen := hi.counted.length hinit
  obtain ⟨k, hk⟩ : ∃ k, target - s.targetNum = k + 1 := Nat.exists_eq_succ_of_ne_zero (by omega)
  unfold State.applyTarget
  dsimp only
  rw [hlen, if_pos hlt, sizeSub_eq hlt.le (by omega), hk]
  rfl

/-- The state after a tick that has left the worker set as it was. -/
lemma again (h : Ready cfg n s) (hreach : (system T cfg).Reachable s')
    (hinit : s'.initialized = s.initialized) (htarget : s'.targetNum = s.targetNum)
    (hcall : ∀ t', s'.call t' = .idle) (hdriver : s'.driverBound = s.driverBound)
    (hworkers : s'.workers = s.workers) (hlife : s'.lifecycle = s.lifecycle)
    (hmode : s'.scalingMode = s.scalingMode) : Ready cfg n s' where
  reachable := hreach
  initialized := hinit.trans h.initialized
  targetNum := htarget.trans h.targetNum
  idle := hcall
  unbound := by
    rw [hdriver]
    exact h.unbound
  workers := by
    rw [hworkers, hlife]
    exact h.workers
  auto := hmode.trans h.auto

/-- Unless a shrink is due, a tick whose batch fails advances the hits for a shrink, and the hits
for an expansion start again when they are complete. -/
lemma exists_again (h : Ready cfg n s) (hcfg : cfg.Accepted b) (hn : Contested cfg b n) (t : T)
    (hdue : cfg.scaleUpSamples ≤ s.scaleUpHits + 1 ∨ s.scaleDownHits + 1 < cfg.scaleDownSamples) :
    ∃ s', (system T cfg).PathWhen (Scheduler.bothTicks cfg) s s' ∧ Ready cfg n s' ∧
      s'.scaleDownHits = min (s.scaleDownHits + 1) cfg.scaleDownSamples ∧
      s'.scaleUpHits = if cfg.scaleUpSamples ≤ s.scaleUpHits + 1 then 0 else s.scaleUpHits + 1 := by
  obtain ⟨now, r, load, s₁, hat⟩ := h.exists_atTick hcfg hn t
  obtain ⟨hi, hup, hdown⟩ := hat.accumulated h
  have hstep := hat.next_eq noProcesser
  have hboth := hat.bothTicks noProcesser
  have hsame : ({ s₁ with lastAutoSample := now }.accumulateScalingHits cfg load).initialized =
      s.initialized ∧
      ({ s₁ with lastAutoSample := now }.accumulateScalingHits cfg load).targetNum = s.targetNum ∧
      ({ s₁ with lastAutoSample := now }.accumulateScalingHits cfg load).driverBound =
        s.driverBound ∧
      ({ s₁ with lastAutoSample := now }.accumulateScalingHits cfg load).workers = s.workers ∧
      ({ s₁ with lastAutoSample := now }.accumulateScalingHits cfg load).lifecycle =
        s.lifecycle ∧
      ({ s₁ with lastAutoSample := now }.accumulateScalingHits cfg load).scalingMode =
        s.scalingMode ∧
      ∀ t', t' ≠ t →
        ({ s₁ with lastAutoSample := now }.accumulateScalingHits cfg load).call t' = .idle := by
    rw [hat.gate]
    refine ⟨rfl, rfl, rfl, rfl, rfl, rfl, fun t' ht => ?_⟩
    exact (goto_call_of_ne s ht _).trans (h.idle t')
  generalize { s₁ with lastAutoSample := now }.accumulateScalingHits cfg load = s₂ at *
  obtain ⟨hinit, htarget, hdriver, hworkers, hlife, hmode, hidle⟩ := hsame
  have hcalls : ∀ s₃ : State T, s₃.call = s₂.call → ∀ t', (s₃.goto t .idle).call t' = .idle := by
    intro s₃ heq t'
    by_cases ht : t' = t
    · subst ht
      exact goto_call_self _ _ _
    · rw [goto_call_of_ne _ ht, heq]
      exact hidle t' ht
  have hreach₁ := h.reachable.path hat.path
  unfold State.applyScalingDecision at hstep
  split_ifs at hstep with hfull hfew
  · have hcomplete : cfg.scaleUpSamples ≤ s.scaleUpHits + 1 := by omega
    rw [if_pos hcomplete]
    unfold State.scaleUpOneStep at hstep
    split_ifs at hstep with hmax
    · refine ⟨_, hat.path.tail ⟨_, hboth, hstep⟩,
        h.again (hreach₁.step (.tick t now r noProcesser) hstep) hinit htarget
        (hcalls s₂.resetUp rfl) hdriver hworkers hlife hmode, hdown, rfl⟩
    · obtain ⟨hgt, hle, -⟩ := State.nextUp_mem (s := s₂) (by omega)
        hi.counted.maxNum_le hcfg.step_le hcfg.step_pos
      have hinit₂ := hinit.trans h.initialized
      rw [applyTarget_noProcesser hi hinit₂ hgt (hle.trans hi.counted.maxNum_le)] at hstep
      have hcancel : next cfg (s₂.goto t (.cancelBatch .up [])) (.run t true) =
          some ((s₂.goto t (.cancelBatch .up [])).resetUp.goto t .idle) := by
        change State.step _ t true = _
        unfold State.step
        rw [goto_call_self]
        rfl
      refine ⟨_, (hat.path.tail ⟨_, hboth, hstep⟩).tail
          ⟨.run t true, ⟨.up, [], goto_call_self _ _ _⟩, hcancel⟩,
        h.again ((hreach₁.step (.tick t now r noProcesser) hstep).step (.run t true) hcancel)
          hinit htarget (fun t' => ?_)
          hdriver hworkers hlife hmode, hdown, rfl⟩
      by_cases ht : t' = t
      · subst ht
        exact goto_call_self _ _ _
      · rw [goto_call_of_ne _ ht]
        change (s₂.goto t _).call t' = _
        rw [goto_call_of_ne _ ht]
        exact hidle t' ht
  · exact absurd hdue (by omega)
  · refine ⟨_, hat.path.tail ⟨_, hboth, hstep⟩,
      h.again (hreach₁.step (.tick t now r noProcesser) hstep) hinit htarget
      (hcalls s₂ rfl) hdriver hworkers hlife hmode, hdown, ?_⟩
    rw [if_neg (by omega)]
    change s₂.scaleUpHits = _
    omega

/-- A tick shrinks the worker set when the hits for it are complete and those for an expansion
are not. -/
lemma exists_shrink (h : Ready cfg n s) (hcfg : cfg.Accepted b) (hn : Contested cfg b n) (t : T)
    (hb : cfg.resolveProcesserScalingBounds = some b)
    (hup : s.scaleUpHits + 1 < cfg.scaleUpSamples)
    (hdown : cfg.scaleDownSamples ≤ s.scaleDownHits + 1) :
    ∃ s₁ now r e s', (system T cfg).PathWhen (Scheduler.bothTicks cfg) s s₁ ∧
      Scheduler.bothTicks cfg s₁ (.tick t now r e) ∧
      next cfg s₁ (.tick t now r e) = some s' ∧ s'.targetNum < s₁.targetNum := by
  obtain ⟨now, r, load, s₁, hat⟩ := h.exists_atTick hcfg hn t
  obtain ⟨hi, hup₂, hdown₂⟩ := hat.accumulated h
  have hstep := hat.next_eq {}
  have hsame : ({ s₁ with lastAutoSample := now }.accumulateScalingHits cfg load).minNum =
      s.minNum ∧
      ({ s₁ with lastAutoSample := now }.accumulateScalingHits cfg load).targetNum = s.targetNum ∧
      ({ s₁ with lastAutoSample := now }.accumulateScalingHits cfg load).driverBound =
        s.driverBound ∧
      ({ s₁ with lastAutoSample := now }.accumulateScalingHits cfg load).countOutstandingRetire =
        s.countOutstandingRetire ∧
      ({ s₁ with lastAutoSample := now }.accumulateScalingHits cfg load).initialized =
        s.initialized ∧ s₁.targetNum = s.targetNum := by
    rw [hat.gate]
    exact ⟨rfl, rfl, rfl, rfl, rfl, rfl⟩
  generalize hs₂ : { s₁ with lastAutoSample := now }.accumulateScalingHits cfg load = s₂ at *
  obtain ⟨hmin, htarget, hdriver, hout, hinit, htarget₁⟩ := hsame
  have hinit₂ := hinit.trans h.initialized
  have hn' := h.targetNum
  obtain ⟨hlow, -, hbatch, -⟩ := hn
  have hmin' := (h.bounds hb).1
  obtain ⟨hgt, hge, hnext⟩ := State.nextDown_mem (s := s₂) (by omega)
    (hi.targetNum_le hinit₂) hcfg.step_pos
  have hshrink := hi.applyTarget_shrink hinit₂ (s₂.nextDown cfg)
    (fun p _ => (congrFun hdriver p).trans (h.unbound p)) none hgt
    (by rw [hout, h.countOutstandingRetire]; omega)
  have hdec : s₂.applyScalingDecision cfg t {} = (s₂.retire (s₂.activeSnapshot.take
      (s₂.targetNum - s₂.nextDown cfg)) (s₂.nextDown cfg)).resetUp.resetDown.goto t .idle := by
    unfold State.applyScalingDecision
    rw [if_neg (by omega), if_pos (by omega)]
    unfold State.scaleDownOneStep
    rw [if_neg (by omega), hshrink]
    rfl
  rw [hdec] at hstep
  refine ⟨s₁, now, r, {}, _, hat.path, hat.bothTicks {}, hstep, ?_⟩
  change s₂.nextDown cfg < s₁.targetNum
  omega

/-- From fresh hits an unbroken run of ticks leads to a state in which a shrink is due. -/
lemma exists_due (h : Ready cfg n s) (hcfg : cfg.Accepted b) (hn : Contested cfg b n) (t : T)
    (hsamples : cfg.scaleUpSamples ≠ 1) (hup : s.scaleUpHits = 0) (hdown : s.scaleDownHits = 0) :
    ∃ s', (system T cfg).PathWhen (Scheduler.bothTicks cfg) s s' ∧ Ready cfg n s' ∧
      s'.scaleUpHits + 1 < cfg.scaleUpSamples ∧ cfg.scaleDownSamples ≤ s'.scaleDownHits + 1 := by
  have hpos := hcfg.upSamples
  have hpos' := hcfg.downSamples
  have hrun : ∀ k < cfg.scaleDownSamples, ∃ s',
      (system T cfg).PathWhen (Scheduler.bothTicks cfg) s s' ∧ Ready cfg n s' ∧
      s'.scaleUpHits < cfg.scaleUpSamples ∧ s'.scaleDownHits = k := by
    intro k
    induction k with
    | zero => exact fun _ => ⟨s, .refl, h, by omega, hdown⟩
    | succ k ih =>
      intro hk
      obtain ⟨s₁, hpath, hready, hlt, heq⟩ := ih (by omega)
      obtain ⟨s₂, hpath', hready', hdown', hup'⟩ := hready.exists_again hcfg hn t (.inr (by omega))
      refine ⟨s₂, hpath.trans hpath', hready', ?_, by omega⟩
      rw [hup']
      split_ifs <;> omega
  obtain ⟨s₁, hpath, hready, hlt, heq⟩ := hrun (cfg.scaleDownSamples - 1) (by omega)
  rcases Nat.lt_or_ge (s₁.scaleUpHits + 1) cfg.scaleUpSamples with hless | hfull
  · exact ⟨s₁, hpath, hready, hless, by omega⟩
  · -- the expansion is due first; it fails, and only its own hits start again
    obtain ⟨s₂, hpath', hready', hdown', hup'⟩ := hready.exists_again hcfg hn t (.inl hfull)
    rw [if_pos hfull] at hup'
    exact ⟨s₂, hpath.trans hpath', hready', by omega, by omega⟩

end Ready

/-- No unbroken run of loads that meet both conditions shrinks the worker set if and only if one
sample suffices for an expansion, or no number of workers within the bounds is contested. -/
theorem prefersExpansion_iff [Nonempty T]
    (hb : cfg.resolveProcesserScalingBounds = some b) :
    PrefersExpansion T cfg ↔ cfg.scaleUpSamples = 1 ∨ ∀ n, ¬ Contested cfg b n := by
  have hcfg := Config.accepted_of_resolve hb
  constructor
  · intro hprefers
    by_contra hnot
    obtain ⟨hsamples, n, hn⟩ : cfg.scaleUpSamples ≠ 1 ∧ ∃ n, Contested cfg b n := by
      simpa using hnot
    obtain ⟨t⟩ := ‹Nonempty T›
    obtain ⟨s₀, hcalm⟩ := Calm.exists_calm hb hn.1.le hn.2.1 t
    obtain ⟨s, hready, hup, hdown⟩ := hcalm.exists_ready
    obtain ⟨s₁, hpath, hready₁, hup₁, hdown₁⟩ := hready.exists_due hcfg hn t hsamples hup hdown
    obtain ⟨s₂, now, r, e, s', hpath', hboth, hs, hlt⟩ :=
      hready₁.exists_shrink hcfg hn t hb hup₁ hdown₁
    have hle := hprefers s s₂ s' hready.reachable (hpath.trans hpath') t now r e hboth hs
    omega
  · intro hcond s₀ s s' hreach hpath t now r e hboth hs
    by_contra hnot
    have hi := systemInv_of_reachable (hreach.path hpath)
    have hsampled := sampled_of_reachable (hreach.path hpath)
    rw [next] at hs
    split_ifs at hs with ht
    obtain rfl := Option.some.inj hs
    have hinit := hi.gate t ht
    obtain ⟨b', hb', hmin, hmax⟩ := hi.configured hinit
    obtain rfl : b' = b := Option.some.inj (hb'.symm.trans hb)
    by_cases hclaim : ∃ s₁, s.claimAutoSample cfg now = some s₁
    · obtain ⟨s₁, hclaim⟩ := hclaim
      obtain ⟨-, rfl⟩ := claimAutoSample_eq_some hclaim
      have hcontested := (tick_spec (t := t) hi.toInv hinit hcfg now r e).contested hi.toInv hcfg
        hsampled hinit hmin hmax (fun load hload => hboth _ load hclaim hload) (by omega)
      rcases hcond with hone | hnone
      · exact hcontested.1 hone
      · exact hnone _ hcontested.2
    · have hnone : s.claimAutoSample cfg now = none := by
        simpa [Option.eq_none_iff_forall_ne_some] using hclaim
      unfold State.autoScaleTick at hnot
      rw [hnone] at hnot
      exact hnot le_rfl

/-- A configuration with equal watermarks that expands on three samples and shrinks on one. -/
def equalConfig : Config where
  staticThreadNum := 2
  processerAutoScale := true
  processerMinNum := 1
  processerMaxNum := 2
  scaleDownSamples := 1
  scaleDownQueueWatermark := 1
  upWatermark_lt := one_lt_sizeMod
  upSamples_lt := three_lt_sizeMod
  downSamples_lt := one_lt_sizeMod

/-- The same configuration, except that it expands on one sample. -/
def equalEagerConfig : Config :=
  { equalConfig with
    scaleUpSamples := 1
    upSamples_lt := one_lt_sizeMod }

/-- Under that configuration too a load meets both conditions when there are two workers, one of
whom may retire; the expansion is preferred. -/
theorem prefersExpansion_equalEagerConfig :
    equalEagerConfig.bothHit { queueTotal := 1, busyPercent := 0 } ∧
    Contested equalEagerConfig ⟨2, 1, 2⟩ 2 ∧ PrefersExpansion ℕ equalEagerConfig :=
  ⟨⟨by decide, by decide⟩, ⟨by decide, by decide, by decide, .inl rfl⟩,
    (prefersExpansion_iff (T := ℕ) (b := ⟨2, 1, 2⟩) (by decide)).mpr (.inl rfl)⟩

/-- The first tick under `equalConfig` samples a load that meets both conditions, and shrinks
the worker set. -/
theorem not_prefersExpansion_equalConfig :
    equalConfig.resolveProcesserScalingBounds = some ⟨2, 1, 2⟩ ∧
    equalConfig.bothHit { queueTotal := 1, busyPercent := 0 } ∧
    (∃ s : State ℕ, (system ℕ equalConfig).Reachable s ∧ s.targetNum = 2 ∧
      (s.autoScaleTick equalConfig 0 100000000 { globalSizes := [1] } {}).targetNum = 1) ∧
    ¬ PrefersExpansion ℕ equalConfig := by
  have hrun : (system ℕ equalConfig).endsIn {} [.start 0 none, .tickGate 0]
      (fun s => s.call 0 = .tick ∧ s.targetNum = 2 ∧
        s.sampleScalingLoad { globalSizes := [1] } = some { queueTotal := 1, busyPercent := 0 } ∧
        (s.autoScaleTick equalConfig 0 100000000 { globalSizes := [1] } {}).targetNum = 1) =
      true := by
    decide +kernel
  obtain ⟨s, hs, hcall, htarget, hload, htick⟩ := System.exists_of_endsIn rfl hrun
  have hboth : equalConfig.bothHit { queueTotal := 1, busyPercent := 0 } := ⟨by decide, by decide⟩
  refine ⟨by decide, hboth, ⟨s, hs, htarget, htick⟩, fun hprefers => ?_⟩
  have hstep : bothTicks equalConfig s (.tick 0 100000000 { globalSizes := [1] } {}) := by
    intro s' load hclaim hload'
    obtain ⟨-, rfl⟩ := claimAutoSample_eq_some hclaim
    obtain rfl := Option.some.inj (hload.symm.trans hload')
    exact hboth
  have hle := hprefers s s _ hs .refl 0 100000000 { globalSizes := [1] } {} hstep (if_pos hcall)
  omega

end BbtCoroutine.Scheduler
