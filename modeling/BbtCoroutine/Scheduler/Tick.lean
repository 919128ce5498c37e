import BbtCoroutine.Scheduler.Invariant

/-!
# What a tick does

`Decision` lists the ways in which the decision of a tick ends, and `Tick` those of a whole
tick, from states with the invariant.  The properties of the automatic mode are proved by
cases on them.
-/

namespace BbtCoroutine.Scheduler

variable {T : Type*} [DecidableEq T]

/-- The ways in which `_ApplyScalingDecisionLocked` ends. -/
inductive Decision (cfg : Config) (t : T) (s : State T) : State T → Prop
  | quiet (hup : s.scaleUpHits < cfg.scaleUpSamples)
      (hdown : s.scaleDownHits < cfg.scaleDownSamples) : Decision cfg t s (s.goto t .idle)
  | atMax (hup : cfg.scaleUpSamples ≤ s.scaleUpHits) (hmax : s.maxNum ≤ s.targetNum) :
      Decision cfg t s (s.resetUp.goto t .idle)
  | expanded {s' : State T} {records : List WorkerRecord}
      (hup : cfg.scaleUpSamples ≤ s.scaleUpHits) (hlt : s.targetNum < s.maxNum)
      (hc : Created s s' records) (hlen : records.length = s.nextUp cfg - s.targetNum) :
      Decision cfg t s
        (({ s'.publish records with targetNum := s.nextUp cfg }).resetUp.resetDown.goto t .idle)
  | cancelled {s' : State T} {records : List WorkerRecord}
      (hup : cfg.scaleUpSamples ≤ s.scaleUpHits) (hlt : s.targetNum < s.maxNum)
      (hc : Created s s' records) :
      Decision cfg t s (s'.goto t (.cancelBatch .up (records.map WorkerRecord.processer)))
  | atMin (hup : s.scaleUpHits < cfg.scaleUpSamples)
      (hdown : cfg.scaleDownSamples ≤ s.scaleDownHits) (hmin : s.targetNum ≤ s.minNum) :
      Decision cfg t s (s.resetDown.goto t .idle)
  | shrunk {self : Option ProcesserId} (hup : s.scaleUpHits < cfg.scaleUpSamples)
      (hdown : cfg.scaleDownSamples ≤ s.scaleDownHits) (hlt : s.minNum < s.targetNum)
      (hlen : (s.selected (s.targetNum - s.nextDown cfg) self).length =
        s.targetNum - s.nextDown cfg)
      (hout : s.countOutstandingRetire + (s.targetNum - s.nextDown cfg) ≤ maxOutstandingRetire) :
      Decision cfg t s
        ((s.retire (s.selected (s.targetNum - s.nextDown cfg) self)
          (s.nextDown cfg)).resetUp.resetDown.goto t .idle)
  | rejected (hup : s.scaleUpHits < cfg.scaleUpSamples)
      (hdown : cfg.scaleDownSamples ≤ s.scaleDownHits) (hlt : s.minNum < s.targetNum) :
      Decision cfg t s (s.resetDown.goto t .idle)

/-- The ways in which the part of `_AutoScaleTick` under the lifecycle mutex ends. -/
inductive Tick (cfg : Config) (t : T) (now : ℤ) (r : Readings) (s : State T) : State T → Prop
  | skipped : Tick cfg t now r s (s.goto t .idle)
  | unsampled (hclaim : s.claimAutoSample cfg now = some { s with lastAutoSample := now })
      (hnone : s.sampleScalingLoad r = none) :
      Tick cfg t now r s ({ s with lastAutoSample := now }.goto t .idle)
  | sampled {load : ScalingLoad} {s' : State T}
      (hauto : s.scalingMode = .auto)
      (hclaim : s.claimAutoSample cfg now = some { s with lastAutoSample := now })
      (hload : s.sampleScalingLoad r = some load)
      (hdec : Decision cfg t
        ({ s with lastAutoSample := now }.accumulateScalingHits cfg load) s') :
      Tick cfg t now r s s'

variable {cfg : Config} {b : Config.Bounds} {s s' : State T} {t : T}

/-- A tick with enough up hits decides to scale up. -/
lemma decision_scaleUp (hi : Inv s) (hinit : s.initialized = true) (hcfg : cfg.Accepted b)
    (e : Resizing) (hup : cfg.scaleUpSamples ≤ s.scaleUpHits) :
    Decision cfg t s (s.scaleUpOneStep cfg t e) := by
  unfold State.scaleUpOneStep
  split_ifs with hmax
  · exact .atMax hup hmax
  · have hlt : s.targetNum < s.maxNum := by omega
    obtain ⟨hgt, hle, -⟩ :=
      State.nextUp_mem hlt hi.counted.maxNum_le hcfg.step_le hcfg.step_pos
    have hspec := State.applyTarget_spec (s.nextUp cfg) e (hi.counted.length hinit)
      (hi.targetNum_le hinit) (hle.trans hi.counted.maxNum_le) hi.wellFormed.outstanding
    generalize s.applyTarget (s.nextUp cfg) e = a at hspec
    cases hspec with
    | grown _ hc hlen => exact .expanded hup hlt hc hlen
    | cancelled _ hc => exact .cancelled hup hlt hc
    | shrunk h => omega
    | rejected h => omega
    | same h => omega

/-- A tick with enough down hits decides to scale down. -/
lemma decision_scaleDown (hi : Inv s) (hinit : s.initialized = true) (hcfg : cfg.Accepted b)
    (e : Resizing) (hup : s.scaleUpHits < cfg.scaleUpSamples)
    (hdown : cfg.scaleDownSamples ≤ s.scaleDownHits) :
    Decision cfg t s (s.scaleDownOneStep cfg t e) := by
  unfold State.scaleDownOneStep
  split_ifs with hmin
  · exact .atMin hup hdown hmin
  · have hlt : s.minNum < s.targetNum := by omega
    have htarget := hi.targetNum_le hinit
    obtain ⟨hgt, hle, -⟩ := State.nextDown_mem hlt htarget hcfg.step_pos
    have hspec := State.applyTarget_spec (s.nextDown cfg) e (hi.counted.length hinit) htarget
      (hgt.le.trans htarget) hi.wellFormed.outstanding
    generalize s.applyTarget (s.nextDown cfg) e = a at hspec
    cases hspec with
    | grown h => omega
    | cancelled h => omega
    | shrunk _ hlen hout => exact .shrunk hup hdown hlt hlen hout
    | rejected _ hok hpending =>
      dsimp only
      rw [if_neg (by simp [hok, hpending])]
      exact .rejected hup hdown hlt
    | same h => omega

/-- The decision of a tick ends in one of the listed ways. -/
lemma decision_spec (hi : Inv s) (hinit : s.initialized = true) (hcfg : cfg.Accepted b)
    (e : Resizing) : Decision cfg t s (s.applyScalingDecision cfg t e) := by
  unfold State.applyScalingDecision
  split_ifs with hup hdown
  · exact decision_scaleUp hi hinit hcfg e hup
  · exact decision_scaleDown hi hinit hcfg e (by omega) hdown
  · exact .quiet (by omega) (by omega)

omit [DecidableEq T] in
/-- A sample is claimed in the automatic mode only. -/
lemma claimAutoSample_eq_some {now : ℤ} (h : s.claimAutoSample cfg now = some s') :
    s.scalingMode = .auto ∧ s' = { s with lastAutoSample := now } := by
  unfold State.claimAutoSample at h
  split_ifs at h with hmode hlast
  exact ⟨not_not.mp hmode, (Option.some.inj h).symm⟩

/-- A tick ends in one of the listed ways. -/
theorem tick_spec (hi : Inv s) (hinit : s.initialized = true) (hcfg : cfg.Accepted b) (now : ℤ)
    (r : Readings) (e : Resizing) : Tick cfg t now r s (s.autoScaleTick cfg t now r e) := by
  unfold State.autoScaleTick
  split
  · exact .skipped
  · rename_i s₁ hclaim
    obtain ⟨hauto, rfl⟩ := claimAutoSample_eq_some hclaim
    split
    · rename_i hnone
      exact .unsampled hclaim hnone
    · rename_i load hload
      have hi' : Inv ({ s with lastAutoSample := now }.accumulateScalingHits cfg load) :=
        hi.congr rfl
      exact .sampled hauto hclaim hload (decision_spec hi' hinit hcfg e)

/-! ## What a tick leaves -/

/-- Nothing but the worker set, the samples and the calls differs. -/
structure SameControl (s s' : State T) : Prop where
  initialized : s'.initialized = s.initialized
  minNum : s'.minNum = s.minNum
  maxNum : s'.maxNum = s.maxNum
  scalingMode : s'.scalingMode = s.scalingMode
  driverBound : s'.driverBound = s.driverBound

omit [DecidableEq T] in
/-- Creating workers leaves the control alone. -/
lemma Created.sameControl {records : List WorkerRecord} (h : Created s s' records) :
    SameControl s s' := by
  obtain ⟨n, l, rfl⟩ := h.exists_eq
  exact ⟨rfl, rfl, rfl, rfl, rfl⟩

/-- A decision leaves the control alone. -/
lemma Decision.sameControl (h : Decision cfg t s s') : SameControl s s' := by
  cases h with
  | expanded _ _ hc =>
    obtain ⟨h₁, h₂, h₃, h₄, h₅⟩ := hc.sameControl
    exact ⟨h₁, h₂, h₃, h₄, h₅⟩
  | cancelled _ _ hc =>
    obtain ⟨h₁, h₂, h₃, h₄, h₅⟩ := hc.sameControl
    exact ⟨h₁, h₂, h₃, h₄, h₅⟩
  | quiet | atMax | atMin | shrunk | rejected => exact ⟨rfl, rfl, rfl, rfl, rfl⟩

/-- A tick leaves the control alone. -/
lemma Tick.sameControl {now : ℤ} {r : Readings} (h : Tick cfg t now r s s') :
    SameControl s s' := by
  cases h with
  | skipped | unsampled => exact ⟨rfl, rfl, rfl, rfl, rfl⟩
  | sampled _ _ _ hdec =>
    obtain ⟨h₁, h₂, h₃, h₄, h₅⟩ := hdec.sameControl
    exact ⟨h₁, h₂, h₃, h₄, h₅⟩

/-- A resize that runs leaves the control alone. -/
lemma Run.sameControl (h : Run s t s') : SameControl s s' := by
  cases h with
  | @cancelled who =>
    cases who
    all_goals exact ⟨rfl, rfl, rfl, rfl, rfl⟩
  | claim | stop | joined | joinFails | mark | erase => exact ⟨rfl, rfl, rfl, rfl, rfl⟩

/-- The call of `t` goes on, not to a tick. -/
def GoesOn (t : T) (s s' : State T) : Prop :=
  ∃ c, c ≠ .tick ∧ s'.call = Function.update s.call t c

/-- A call that ticks after a step of another one was ticking. -/
lemma GoesOn.tick_of_tick {t' : T} (h : GoesOn t s s') (ht : s'.call t' = .tick) :
    s.call t' = .tick := by
  obtain ⟨c, hc, heq⟩ := h
  rw [heq] at ht
  by_cases htt : t' = t
  · subst htt
    rw [Function.update_self] at ht
    exact absurd ht hc
  · rwa [Function.update_of_ne htt] at ht

/-- After a decision only its own thread has moved. -/
lemma Decision.goesOn (h : Decision cfg t s s') : GoesOn t s s' := by
  cases h with
  | expanded _ _ hc =>
    obtain ⟨n, l, rfl⟩ := hc.exists_eq
    exact ⟨_, by decide, rfl⟩
  | cancelled _ _ hc =>
    obtain ⟨n, l, rfl⟩ := hc.exists_eq
    exact ⟨_, by simp, rfl⟩
  | quiet | atMax | atMin | shrunk | rejected => exact ⟨_, by decide, rfl⟩

/-- After a tick only its own thread has moved. -/
lemma Tick.goesOn {now : ℤ} {r : Readings} (h : Tick cfg t now r s s') : GoesOn t s s' := by
  cases h with
  | skipped | unsampled => exact ⟨_, by decide, rfl⟩
  | sampled _ _ _ hdec => exact hdec.goesOn

/-- After a resize only its own thread has moved. -/
lemma Run.goesOn (h : Run s t s') : GoesOn t s s' := by
  cases h with
  | @cancelled who =>
    cases who
    all_goals exact ⟨_, by decide, rfl⟩
  | claim | stop | joined | joinFails | mark | erase => exact ⟨_, by simp, rfl⟩

end BbtCoroutine.Scheduler
