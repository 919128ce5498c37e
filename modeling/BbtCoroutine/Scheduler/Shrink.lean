import BbtCoroutine.Scheduler.Calm

/-!
# Ticks that are due to shrink the worker set

A tick is `Due` when it takes a sample, the loads that have piled up ask for fewer workers and
not for more, and nothing outside the configuration stands in the way of a shrink: no driver
is bound, no retirement is outstanding and no allocation fails.

Such a tick retires one batch, the step or what is left above the lower bound.  The batch is
committed if and only if it is within `maxOutstandingRetire`; a larger one is refused, and it
is refused again by every tick to come.
-/

namespace BbtCoroutine.Scheduler

open Transition

variable {T : Type*} [DecidableEq T] {cfg : Config} {s : State T} {t : T} {now : ℤ}
  {r : Readings} {e : Resizing}

/-- A tick of the scheduler thread that the configuration's samples ask to shrink, with nothing
else in its way. -/
structure Due (cfg : Config) (s : State T) (t : T) (now : ℤ) (r : Readings) (e : Resizing) :
    Prop where
  gate : s.call t = .tick
  auto : s.scalingMode = .auto
  interval : nanoseconds cfg.scaleIntervalMs ≤ now - s.lastAutoSample
  sampled : ∃ load, s.sampleScalingLoad r = some load ∧
    cfg.scaleDownSamples ≤ streak cfg.downHit (load :: s.downLog) ∧
    streak cfg.upHit (load :: s.upLog) < cfg.scaleUpSamples
  above : s.minNum < s.targetNum
  noRetirement : s.countOutstandingRetire = 0
  unbound : ∀ p ∈ s.activeSnapshot, s.driverBound p = false
  schedulerThread : e.self = none
  noFailure : e.shrinkThrows = false

omit [DecidableEq T] in
/-- A batch above the limit is refused, without any effect. -/
lemma Inv.applyTarget_busy (hi : Inv s) (hinit : s.initialized = true) (target : ℕ)
    (hunbound : ∀ p ∈ s.activeSnapshot, s.driverBound p = false) (f : Option PrepareFault)
    (hlt : target < s.targetNum) (hnone : s.countOutstandingRetire = 0)
    (hout : maxOutstandingRetire < s.targetNum - target) :
    s.applyTarget target { prepareFault := f } = .returned s .busy := by
  have hmod : intMax + intMax < sizeMod := by decide
  have hnum := hi.targetNum_le hinit
  have hlen := hi.counted.length hinit
  have hsel : s.selected (s.targetNum - target) none =
      s.activeSnapshot.take (s.targetNum - target) := by
    rw [State.selected, hi.candidates_eq hunbound]
    rw [List.filter_eq_self.mpr (by simp)]
  have hcommit : s.commitShrink (s.targetNum - target) target { prepareFault := f } =
      (s, .busy) := by
    unfold State.commitShrink
    rw [hi.candidates_eq hunbound, hsel, List.length_take, hlen, hnone, sizeAdd_eq (by omega)]
    rw [if_neg (by simp), if_neg (by omega), if_neg (by omega), if_pos (by omega)]
  unfold State.applyTarget
  dsimp only
  rw [hlen, if_neg (by omega), if_pos hlt, sizeSub_eq hlt.le (by omega), hcommit]

namespace Due

/-- A due tick takes one step down, from a state with the target and the workers of before. -/
lemma autoScaleTick_eq {b : Config.Bounds} (h : Due cfg s t now r e) (hcfg : cfg.Accepted b)
    (hs : Sampled cfg s) : ∃ load, s.autoScaleTick cfg t now r e =
      ({ s with lastAutoSample := now }.accumulateScalingHits cfg load).scaleDownOneStep
        cfg t e := by
  obtain ⟨load, hload, hdown, hup⟩ := h.sampled
  refine ⟨load, ?_⟩
  have hbefore : Sampled cfg ({ s with lastAutoSample := now } : State T) := ⟨hs.up, hs.down⟩
  have hafter := hbefore.accumulate load
  have hclaim : s.claimAutoSample cfg now = some { s with lastAutoSample := now } := by
    have hle := h.interval
    unfold State.claimAutoSample
    rw [if_neg (by simp [h.auto]), if_neg (by omega)]
  have hsample : State.sampleScalingLoad { s with lastAutoSample := now } r = some load := hload
  have hupHits := hafter.up
  have hdownHits := hafter.down
  change _ = min (streak cfg.upHit (load :: s.upLog)) cfg.scaleUpSamples at hupHits
  change _ = min (streak cfg.downHit (load :: s.downLog)) cfg.scaleDownSamples at hdownHits
  have hpos := hcfg.upSamples
  unfold State.autoScaleTick
  rw [hclaim]
  dsimp only
  rw [hsample]
  dsimp only
  unfold State.applyScalingDecision
  rw [if_neg (by omega), if_pos (by omega)]

/-- The target after a due tick: one batch lower, or the same when the batch is too large. -/
lemma targetNum_eq {b : Config.Bounds} (h : Due cfg s t now r e) (hi : Inv s)
    (hinit : s.initialized = true) (hcfg : cfg.Accepted b) (hs : Sampled cfg s) :
    (s.autoScaleTick cfg t now r e).targetNum =
      if min cfg.scaleStep (s.targetNum - s.minNum) ≤ maxOutstandingRetire then
        max s.minNum (s.targetNum - cfg.scaleStep)
      else s.targetNum := by
  obtain ⟨load, heq⟩ := h.autoScaleTick_eq hcfg hs
  rw [heq]
  generalize hs' : { s with lastAutoSample := now }.accumulateScalingHits cfg load = s'
  have hi' : Inv s' := by
    rw [← hs']
    exact hi.congr rfl
  have hinit' : s'.initialized = true := by rw [← hs']; exact hinit
  have htarget : s'.targetNum = s.targetNum := by rw [← hs']; rfl
  have hmin : s'.minNum = s.minNum := by rw [← hs']; rfl
  have hnone : s'.countOutstandingRetire = 0 := by rw [← hs']; exact h.noRetirement
  have hunbound : ∀ p ∈ s'.activeSnapshot, s'.driverBound p = false := by
    rw [← hs']
    exact h.unbound
  have habove := h.above
  have hpos := hcfg.step_pos
  have hlt' : s'.minNum < s'.targetNum := by omega
  obtain ⟨hlt, -, hnext⟩ := State.nextDown_mem hlt' (hi'.targetNum_le hinit') hpos
  obtain ⟨self, f, throws⟩ := e
  obtain rfl : self = none := h.schedulerThread
  obtain rfl : throws = false := h.noFailure
  unfold State.scaleDownOneStep
  rw [if_neg (by omega)]
  split_ifs with hbatch
  · rw [hi'.applyTarget_shrink hinit' _ hunbound f hlt (by omega)]
    dsimp only
    rw [if_pos (.inr rfl)]
    change s'.nextDown cfg = _
    omega
  · rw [hi'.applyTarget_busy hinit' _ hunbound f hlt hnone (by omega)]
    dsimp only
    rw [if_neg (by simp)]
    exact htarget

end Due

/-- A due tick commits a shrink if and only if its batch is within the limit of outstanding
retirements. -/
theorem shrinks_iff (h : (system T cfg).Reachable s) (hd : Due cfg s t now r e) :
    ((s.autoScaleTick cfg t now r e).targetNum < s.targetNum ∧
      s.minNum ≤ (s.autoScaleTick cfg t now r e).targetNum) ↔
    min cfg.scaleStep (s.targetNum - s.minNum) ≤ maxOutstandingRetire := by
  have hi := systemInv_of_reachable h
  have hinit := hi.gate t hd.gate
  obtain ⟨b, hcfg, -⟩ := hi.accepted hinit
  have habove := hd.above
  have hpos := hcfg.step_pos
  rw [hd.targetNum_eq hi.toInv hinit hcfg (sampled_of_reachable h)]
  split_ifs with hbatch
  · exact iff_of_true ⟨by omega, by omega⟩ hbatch
  · exact iff_of_false (fun hlt => hlt.1.false) hbatch

/-- A configuration that shrinks on one sample. -/
def shrinkConfig (num step : ℕ) : Config where
  staticThreadNum := num
  processerAutoScale := true
  processerMinNum := 1
  scaleDownSamples := 1
  scaleStep := step
  upWatermark_lt := one_lt_sizeMod
  upSamples_lt := three_lt_sizeMod
  downSamples_lt := one_lt_sizeMod

/-- The load of an idle worker set. -/
def idleLoad : ScalingLoad := ⟨0, 0⟩

/-- The tick of an idle worker set whose target is above the lower bound is due. -/
lemma due_of_idle {num step : ℕ} {s : State ℕ} (hgate : s.call 0 = .tick)
    (hauto : s.scalingMode = .auto) (hlast : s.lastAutoSample = 0)
    (hload : s.sampleScalingLoad {} = some idleLoad) (habove : s.minNum < s.targetNum)
    (hnone : s.countOutstandingRetire = 0)
    (hunbound : ∀ p ∈ s.activeSnapshot, s.driverBound p = false) :
    Due (shrinkConfig num step) s 0 100000000 {} {} where
  gate := hgate
  auto := hauto
  interval := by
    rw [hlast]
    change nanoseconds 100 ≤ 100000000 - 0
    decide
  sampled := by
    refine ⟨idleLoad, hload, ?_, ?_⟩
    · have hdown : (shrinkConfig num step).downHit idleLoad = true := rfl
      rw [streak_cons, if_pos hdown]
      exact Nat.le_add_left 1 _
    · have hup : (shrinkConfig num step).upHit idleLoad = false := rfl
      rw [streak_cons, if_neg (by rw [hup]; decide)]
      exact Nat.succ_pos 2
  above := habove
  noRetirement := hnone
  unbound := hunbound
  schedulerThread := rfl
  noFailure := rfl

/-- What the first tick of an idle worker set meets. -/
def IdleAtTick (s : State ℕ) : Prop :=
  s.call 0 = .tick ∧ s.scalingMode = .auto ∧ s.lastAutoSample = 0 ∧
    s.sampleScalingLoad {} = some idleLoad ∧ s.minNum < s.targetNum ∧
    s.countOutstandingRetire = 0 ∧ ∀ p ∈ s.activeSnapshot, s.driverBound p = false

/-- Whether a worker set is idle at a tick can be computed. -/
instance : DecidablePred IdleAtTick := fun s => by
  unfold IdleAtTick
  infer_instance

/-- A worker set that is idle at a tick is due to shrink. -/
lemma IdleAtTick.due {num step : ℕ} {s : State ℕ} (h : IdleAtTick s) :
    Due (shrinkConfig num step) s 0 100000000 {} {} := by
  obtain ⟨hgate, hauto, hlast, hload, habove, hnone, hunbound⟩ := h
  exact due_of_idle hgate hauto hlast hload habove hnone hunbound

/-- Two idle workers with a step of one shrink to one. -/
theorem shrinks_two_workers : ∃ s : State ℕ, (system ℕ (shrinkConfig 2 1)).Reachable s ∧
    Due (shrinkConfig 2 1) s 0 100000000 {} {} ∧ s.targetNum = 2 ∧
    (s.autoScaleTick (shrinkConfig 2 1) 0 100000000 {} {}).targetNum < 2 := by
  have hrun : (system ℕ (shrinkConfig 2 1)).endsIn {} [.start 0 none, .tickGate 0]
      (fun s => IdleAtTick s ∧ s.targetNum = 2 ∧ s.minNum = 1) = true := by
    decide +kernel
  obtain ⟨s, hs, hidle, htarget, hmin⟩ := System.exists_of_endsIn rfl hrun
  have hshrink := (shrinks_iff hs hidle.due).mpr (by rw [htarget, hmin]; decide)
  exact ⟨s, hs, hidle.due, htarget, htarget ▸ hshrink.1⟩

/-- Thirty-four idle workers with a step of thirty-three do not shrink. -/
theorem refused_large_batch :
    (shrinkConfig 34 33).resolveProcesserScalingBounds = some ⟨34, 1, 34⟩ ∧
    ∃ s : State ℕ, (system ℕ (shrinkConfig 34 33)).Reachable s ∧
      Due (shrinkConfig 34 33) s 0 100000000 {} {} ∧ s.minNum = 1 ∧ s.targetNum = 34 ∧
      (s.autoScaleTick (shrinkConfig 34 33) 0 100000000 {} {}).targetNum = 34 := by
  have hrun : (system ℕ (shrinkConfig 34 33)).endsIn {} [.start 0 none, .tickGate 0]
      (fun s => IdleAtTick s ∧ s.targetNum = 34 ∧ s.minNum = 1 ∧
        (s.autoScaleTick (shrinkConfig 34 33) 0 100000000 {} {}).targetNum = 34) = true := by
    decide +kernel
  obtain ⟨s, hs, hidle, htarget, hmin, hafter⟩ := System.exists_of_endsIn rfl hrun
  exact ⟨by decide, s, hs, hidle.due, hmin, htarget, hafter⟩

end BbtCoroutine.Scheduler
