import BbtCoroutine.Scheduler.Consistent
import Mathlib.Data.List.TakeWhile

/-!
# Automatic ticks act on sustained load only

The hits of a direction are the length of the run of samples, up to the last one, that met
its condition, cut off at the required number.  So a tick that moves the target has as
many of them as the configuration requires.  `sustained_of_reachable` says so, with the
bounds of a batch and the exactness of the machine arithmetic.
-/

namespace BbtCoroutine.Scheduler

open Transition

variable {T : Type*} [DecidableEq T] {cfg : Config} {s s' : State T} {t : T}

/-! ## Hits -/

/-- The number of the last samples of a log that met a condition without a break. -/
def streak (p : ScalingLoad → Bool) (log : List ScalingLoad) : ℕ :=
  (log.takeWhile p).length

/-- A streak goes on or begins anew. -/
lemma streak_cons (p : ScalingLoad → Bool) (load : ScalingLoad) (log : List ScalingLoad) :
    streak p (load :: log) = if p load then streak p log + 1 else 0 := by
  unfold streak
  rw [List.takeWhile_cons]
  split_ifs <;> rfl

/-- A run of samples that is long enough covers the last samples of the log. -/
lemma forall_of_le_streak {p : ScalingLoad → Bool} {log : List ScalingLoad} {n : ℕ}
    (h : n ≤ streak p log) : n ≤ log.length ∧ ∀ load ∈ log.take n, p load = true := by
  have hle : n ≤ (log.takeWhile p).length := h
  have hsub : log.take n = (log.takeWhile p).take n := by
    rw [List.prefix_iff_eq_take.mp (List.takeWhile_prefix p), List.take_take,
      min_eq_left hle]
  refine ⟨h.trans (List.takeWhile_prefix p).length_le, fun load hload => ?_⟩
  rw [hsub] at hload
  exact List.mem_takeWhile_imp (List.mem_of_mem_take hload)

/-- The hits advance by one and saturate, without an overflow. -/
lemma advanceHits_eq {hits samples : ℕ} (hle : hits ≤ samples) (hlt : samples < sizeMod)
    (hit : Bool) :
    State.advanceHits hits hit samples = if hit then min (hits + 1) samples else 0 := by
  unfold State.advanceHits
  cases hit with
  | false => rfl
  | true =>
    rw [if_neg (by decide), if_pos rfl]
    split_ifs with h
    · rw [sizeAdd_eq (by omega)]
      omega
    · omega

/-- The hits of both directions are what the logs of samples say. -/
structure Sampled (cfg : Config) (s : State T) : Prop where
  up : s.scaleUpHits = min (streak cfg.upHit s.upLog) cfg.scaleUpSamples
  down : s.scaleDownHits = min (streak cfg.downHit s.downLog) cfg.scaleDownSamples

/-- Each direction keeps its hits and samples, or both are reset. -/
structure SamplesKept (s s' : State T) : Prop where
  up : (s'.scaleUpHits = s.scaleUpHits ∧ s'.upLog = s.upLog) ∨
    (s'.scaleUpHits = 0 ∧ s'.upLog = [])
  down : (s'.scaleDownHits = s.scaleDownHits ∧ s'.downLog = s.downLog) ∨
    (s'.scaleDownHits = 0 ∧ s'.downLog = [])

namespace SamplesKept

omit [DecidableEq T] in
/-- The creation of workers keeps the hits with their samples. -/
lemma of_created {records : List WorkerRecord} (h : Created s s' records) : SamplesKept s s' := by
  obtain ⟨n, l, rfl⟩ := h.exists_eq
  exact ⟨.inl ⟨rfl, rfl⟩, .inl ⟨rfl, rfl⟩⟩

/-- A request keeps the hits with their samples. -/
lemma of_request {num : ℕ} {now : ℤ} {a : State T × Option ResizeResult}
    (h : Request t num now s a) : SamplesKept s a.1 := by
  cases h with
  | refused | rejected => exact ⟨.inl ⟨rfl, rfl⟩, .inl ⟨rfl, rfl⟩⟩
  | returned => exact ⟨.inr ⟨rfl, rfl⟩, .inr ⟨rfl, rfl⟩⟩
  | cancelled hc =>
    obtain ⟨hup, hdown⟩ := of_created hc
    exact ⟨hup, hdown⟩

/-- A decision keeps the hits with their samples. -/
lemma of_decision (h : Decision cfg t s s') : SamplesKept s s' := by
  cases h with
  | quiet => exact ⟨.inl ⟨rfl, rfl⟩, .inl ⟨rfl, rfl⟩⟩
  | atMax => exact ⟨.inr ⟨rfl, rfl⟩, .inl ⟨rfl, rfl⟩⟩
  | expanded | shrunk => exact ⟨.inr ⟨rfl, rfl⟩, .inr ⟨rfl, rfl⟩⟩
  | cancelled _ _ hc =>
    obtain ⟨hup, hdown⟩ := of_created hc
    exact ⟨hup, hdown⟩
  | atMin | rejected => exact ⟨.inl ⟨rfl, rfl⟩, .inr ⟨rfl, rfl⟩⟩

/-- A resize that runs keeps the hits with their samples. -/
lemma of_run (h : Run s t s') : SamplesKept s s' := by
  cases h with
  | @cancelled who =>
    cases who with
    | manual => exact ⟨.inl ⟨rfl, rfl⟩, .inl ⟨rfl, rfl⟩⟩
    | up => exact ⟨.inr ⟨rfl, rfl⟩, .inl ⟨rfl, rfl⟩⟩
    | down => exact ⟨.inl ⟨rfl, rfl⟩, .inr ⟨rfl, rfl⟩⟩
  | claim | stop | joined | joinFails | mark | erase =>
    exact ⟨.inl ⟨rfl, rfl⟩, .inl ⟨rfl, rfl⟩⟩

omit [DecidableEq T] in
/-- `Start` keeps the hits with their samples. -/
lemma of_start {now : ℤ} {f : Option PrepareFault} {b : Config.Bounds} :
    SamplesKept s (s.start cfg b now f) := by
  unfold State.start
  rcases (s.init cfg b now).prepareExpansion_spec b.initialNum f with
    ⟨s', records, hc, -, heq⟩ | ⟨s', records, hc, heq⟩
  all_goals
    rw [heq]
    obtain ⟨n, l, rfl⟩ := hc.exists_eq
    exact ⟨.inr ⟨rfl, rfl⟩, .inr ⟨rfl, rfl⟩⟩

end SamplesKept

namespace Sampled

omit [DecidableEq T] in
/-- A step that keeps the hits with their samples keeps them exact. -/
lemma kept (h : Sampled cfg s) (hk : SamplesKept s s') : Sampled cfg s' := by
  constructor
  · rcases hk.up with ⟨hhits, hlog⟩ | ⟨hhits, hlog⟩
    · rw [hhits, hlog]
      exact h.up
    · rw [hhits, hlog]
      simp [streak]
  · rcases hk.down with ⟨hhits, hlog⟩ | ⟨hhits, hlog⟩
    · rw [hhits, hlog]
      exact h.down
    · rw [hhits, hlog]
      simp [streak]

/-- One direction of a sample. -/
lemma advance {hits samples : ℕ} {p : ScalingLoad → Bool} {log : List ScalingLoad}
    (h : hits = min (streak p log) samples) (hlt : samples < sizeMod) (load : ScalingLoad) :
    State.advanceHits hits (p load) samples = min (streak p (load :: log)) samples := by
  rw [advanceHits_eq (by omega) hlt, streak_cons]
  split_ifs <;> omega

omit [DecidableEq T] in
/-- A sample is counted exactly. -/
lemma accumulate (h : Sampled cfg s) (load : ScalingLoad) :
    Sampled cfg (s.accumulateScalingHits cfg load) :=
  ⟨advance h.up cfg.upSamples_lt load, advance h.down cfg.downSamples_lt load⟩

/-- A tick keeps the hits exact. -/
lemma tick {now : ℤ} {r : Readings} (h : Sampled cfg s) (ht : Tick cfg t now r s s') :
    Sampled cfg s' := by
  cases ht with
  | skipped | unsampled => exact ⟨h.up, h.down⟩
  | @sampled load _ _ _ _ hdec =>
    have hbefore : Sampled cfg ({ s with lastAutoSample := now } : State T) := ⟨h.up, h.down⟩
    exact (hbefore.accumulate load).kept (.of_decision hdec)

/-- The step lemma of the hits. -/
lemma step {l : Label T} (h : Sampled cfg s) (hi : SystemInv cfg s)
    (hs : next cfg s l = some s') : Sampled cfg s' := by
  cases l with
  | start now f =>
    rw [next] at hs
    split_ifs at hs
    obtain ⟨b, -, rfl⟩ := Option.map_eq_some_iff.mp hs
    exact h.kept .of_start
  | setProcesserNum t num now e =>
    rw [next] at hs
    split_ifs at hs
    obtain rfl := Option.some.inj hs
    exact h.kept (.of_request (request_spec hi.toInv t num now e))
  | setProcesserAutoScale enable now =>
    rw [next] at hs
    obtain rfl := Option.some.inj hs
    unfold State.setProcesserAutoScale
    by_cases hinit : s.initialized = false
    · rwa [if_pos hinit]
    · rw [if_neg hinit]
      exact h.kept ⟨.inr ⟨rfl, rfl⟩, .inr ⟨rfl, rfl⟩⟩
  | tick t now r e =>
    rw [next] at hs
    split_ifs at hs with ht
    obtain rfl := Option.some.inj hs
    have hinit := hi.gate t ht
    obtain ⟨b, hcfg, -⟩ := hi.accepted hinit
    exact h.tick (tick_spec hi.toInv hinit hcfg now r e)
  | run t joins => exact h.kept (.of_run (run_of_step hs))
  | tickGate t =>
    rw [next] at hs
    split_ifs at hs
    all_goals
      obtain rfl := Option.some.inj hs
      exact ⟨h.up, h.down⟩
  | reap t =>
    rw [next] at hs
    split_ifs at hs
    all_goals
      obtain rfl := Option.some.inj hs
      exact ⟨h.up, h.down⟩
  | registerDriver p | unregisterDriver p | workerExit p | threadExit p =>
    rw [next] at hs
    split_ifs at hs
    obtain rfl := Option.some.inj hs
    exact ⟨h.up, h.down⟩

end Sampled

/-- In every reachable state the hits are what the logs of samples say. -/
theorem sampled_of_reachable (h : (system T cfg).Reachable s) : Sampled cfg s := by
  refine System.ReachableWhen.induct_with (J := SystemInv cfg) (fun s hs => ?_) ?_ ?_ h
  · exact systemInv_of_reachable hs
  · rintro s rfl
    exact ⟨by simp [streak], by simp [streak]⟩
  · intro s l s' hi _ hsampled _ hs
    exact hsampled.step hi hs

/-! ## Arithmetic -/

/-- A sum of sizes whose exact value fits is exact. -/
lemma foldl_sizeAdd {sizes : List ℕ} {a : ℕ} (h : a + sizes.sum < sizeMod) :
    sizes.foldl sizeAdd a = a + sizes.sum := by
  induction sizes generalizing a with
  | nil => simp
  | cons n sizes ih =>
    rw [List.sum_cons] at h ⊢
    rw [List.foldl_cons, sizeAdd_eq (by omega), ih (by omega)]
    omega

/-- The machine arithmetic of a tick has the exact results. -/
structure ExactArithmetic (cfg : Config) (s : State T) (r : Readings) : Prop where
  upHits : ∀ hit, State.advanceHits s.scaleUpHits hit cfg.scaleUpSamples =
    if hit then min (s.scaleUpHits + 1) cfg.scaleUpSamples else 0
  downHits : ∀ hit, State.advanceHits s.scaleDownHits hit cfg.scaleDownSamples =
    if hit then min (s.scaleDownHits + 1) cfg.scaleDownSamples else 0
  busyPercent : ∀ load, s.sampleScalingLoad r = some load →
    load.busyPercent = s.activeSnapshot.countP r.busy * 100 / s.activeSnapshot.length ∧
      load.busyPercent ≤ 100
  /-- The queues report sizes whose sum is a value of the type. -/
  queueTotal : ∀ load, s.sampleScalingLoad r = some load →
    r.globalSizes.sum + (s.activeSnapshot.map r.executable).sum < sizeMod →
    load.queueTotal = r.globalSizes.sum + (s.activeSnapshot.map r.executable).sum
  nextUp : s.targetNum < s.maxNum →
    s.nextUp cfg = min s.maxNum (s.targetNum + cfg.scaleStep)
  nextDown : s.minNum < s.targetNum →
    s.nextDown cfg = max s.minNum (s.targetNum - cfg.scaleStep)
  needUp : ∀ target, s.targetNum < target → target ≤ s.maxNum →
    sizeSub target s.activeSnapshot.length = target - s.activeSnapshot.length
  needDown : ∀ target, target < s.targetNum →
    sizeSub s.activeSnapshot.length target = s.activeSnapshot.length - target ∧
      sizeAdd s.countOutstandingRetire (s.activeSnapshot.length - target) =
        s.countOutstandingRetire + (s.activeSnapshot.length - target)

omit [DecidableEq T] in
/-- The arithmetic of a tick is that of the configuration. -/
lemma exactArithmetic {b : Config.Bounds} (hi : Inv s) (hinit : s.initialized = true)
    (hcfg : cfg.Accepted b) (hs : Sampled cfg s) (r : Readings) : ExactArithmetic cfg s r := by
  have hmod : intMax + maxOutstandingRetire < sizeMod := by decide
  have hmul : intMax * 100 < sizeMod := by decide
  have hup := hs.up
  have hdown := hs.down
  have hnum := hi.targetNum_le hinit
  have hlen := hi.counted.length hinit
  have hout := hi.wellFormed.outstanding
  refine ⟨advanceHits_eq (by omega) cfg.upSamples_lt, advanceHits_eq (by omega) cfg.downSamples_lt,
    fun load hload => ?_, fun load hload hsum => ?_, fun hlt => ?_, fun hlt => ?_,
    fun target hgt hle => ?_, fun target hlt => ?_⟩
  · unfold State.sampleScalingLoad at hload
    split_ifs at hload with hempty
    obtain rfl := Option.some.inj hload
    have hbusy : s.activeSnapshot.countP r.busy ≤ s.activeSnapshot.length :=
      List.countP_le_length
    have heq : sizeMul (s.activeSnapshot.countP r.busy) 100 =
        s.activeSnapshot.countP r.busy * 100 := sizeMul_eq (by omega)
    refine ⟨by rw [heq], ?_⟩
    dsimp only
    rw [heq]
    exact Nat.div_le_of_le_mul (Nat.mul_le_mul_right 100 hbusy)
  · unfold State.sampleScalingLoad at hload
    split_ifs at hload with hempty
    obtain rfl := Option.some.inj hload
    dsimp only
    rw [foldl_sizeAdd (by rw [List.sum_append]; omega), List.sum_append, Nat.zero_add]
  · exact (State.nextUp_mem hlt hi.counted.maxNum_le hcfg.step_le hcfg.step_pos).2.2
  · exact (State.nextDown_mem hlt hnum hcfg.step_pos).2.2
  · have hmax := hi.counted.maxNum_le
    exact sizeSub_eq (by omega) (by omega)
  · exact ⟨sizeSub_eq (by omega) (by omega), sizeAdd_eq (by omega)⟩

/-! ## The target -/

/-- The decision of a tick moves the target by a batch of at most the step, and only in a
direction whose hits are complete. -/
lemma Decision.target {b : Config.Bounds} (hi : Inv s) (hinit : s.initialized = true)
    (hcfg : cfg.Accepted b) (hd : Decision cfg t s s') :
    s'.targetNum = s.targetNum ∨
    (cfg.scaleUpSamples ≤ s.scaleUpHits ∧ s.targetNum < s'.targetNum ∧
      s'.targetNum ≤ s.targetNum + cfg.scaleStep) ∨
    (s.scaleUpHits < cfg.scaleUpSamples ∧ cfg.scaleDownSamples ≤ s.scaleDownHits ∧
      s'.targetNum < s.targetNum ∧ s.targetNum ≤ s'.targetNum + cfg.scaleStep) := by
  cases hd with
  | quiet | atMax | atMin | rejected => exact .inl rfl
  | cancelled _ _ hc =>
    left
    rw [hc.frame]
    rfl
  | expanded hup hlt _ _ =>
    obtain ⟨hgt, hle, heq⟩ :=
      State.nextUp_mem hlt hi.counted.maxNum_le hcfg.step_le hcfg.step_pos
    refine .inr (.inl ⟨hup, hgt, ?_⟩)
    change s.nextUp cfg ≤ _
    omega
  | shrunk hup hdown hlt _ _ =>
    obtain ⟨hgt, hle, heq⟩ := State.nextDown_mem hlt (hi.targetNum_le hinit) hcfg.step_pos
    refine .inr (.inr ⟨hup, hdown, hgt, ?_⟩)
    change _ ≤ s.nextDown cfg + _
    omega

/-- What a tick that moves the target has sampled. -/
lemma Tick.target {b : Config.Bounds} {now : ℤ} {r : Readings} (hi : Inv s)
    (hinit : s.initialized = true) (hcfg : cfg.Accepted b) (ht : Tick cfg t now r s s') :
    s'.targetNum = s.targetNum ∨
    ∃ load, s.scalingMode = .auto ∧ s.sampleScalingLoad r = some load ∧
      ((cfg.scaleUpSamples ≤ (s.accumulateScalingHits cfg load).scaleUpHits ∧
        s.targetNum < s'.targetNum ∧ s'.targetNum ≤ s.targetNum + cfg.scaleStep) ∨
      ((s.accumulateScalingHits cfg load).scaleUpHits < cfg.scaleUpSamples ∧
        cfg.scaleDownSamples ≤ (s.accumulateScalingHits cfg load).scaleDownHits ∧
        s'.targetNum < s.targetNum ∧ s.targetNum ≤ s'.targetNum + cfg.scaleStep)) := by
  cases ht with
  | skipped | unsampled => exact .inl rfl
  | @sampled load _ hauto _ hload hdec =>
    have hi' : Inv ({ s with lastAutoSample := now }.accumulateScalingHits cfg load) :=
      hi.congr rfl
    rcases hdec.target hi' hinit hcfg with heq | hup | hdown
    · exact .inl heq
    · exact .inr ⟨load, hauto, hload, .inl hup⟩
    · exact .inr ⟨load, hauto, hload, .inr hdown⟩

/-! ## The manual mode -/

/-- The step does not restore the automatic mode. -/
def Label.keepsMode : Label T → Prop
  | .setProcesserAutoScale enable _ => enable = false
  | _ => True

/-- The step is not a manual request. -/
def Label.keepsTarget : Label T → Prop
  | .setProcesserNum _ _ _ _ => False
  | _ => True

/-- The worker set runs in the manual mode. -/
def Manual (s : State T) : Prop :=
  s.initialized = true ∧ s.scalingMode = .manual

namespace Manual

/-- A tick does nothing in the manual mode. -/
lemma autoScaleTick (h : Manual s) (now : ℤ) (r : Readings) (e : Resizing) :
    s.autoScaleTick cfg t now r e = s.goto t .idle := by
  have hclaim : s.claimAutoSample cfg now = none := by
    unfold State.claimAutoSample
    rw [if_pos (by rw [h.2]; decide)]
  unfold State.autoScaleTick
  rw [hclaim]

/-- A request leaves the mode manual. -/
lemma request {num : ℕ} {now : ℤ} {a : State T × Option ResizeResult} (h : Manual s)
    (ha : Request t num now s a) : Manual a.1 := by
  refine ⟨ha.bounds.1.trans h.1, ?_⟩
  cases ha with
  | refused | rejected => exact h.2
  | returned => rfl
  | cancelled hc => exact hc.sameControl.scalingMode.trans h.2

/-- Only a call to `SetProcesserAutoScale` ends the manual mode, and only a request changes its
target. -/
lemma step {l : Label T} (h : Manual s) (hi : SystemInv cfg s) (hl : l.keepsMode)
    (hs : next cfg s l = some s') :
    Manual s' ∧ (l.keepsTarget → s'.targetNum = s.targetNum) := by
  cases l with
  | start now f =>
    rw [next, if_pos h.1] at hs
    cases hs
  | setProcesserNum t num now e =>
    rw [next] at hs
    split_ifs at hs
    obtain rfl := Option.some.inj hs
    exact ⟨h.request (request_spec hi.toInv t num now e), False.elim⟩
  | setProcesserAutoScale enable now =>
    rw [next] at hs
    obtain rfl := Option.some.inj hs
    obtain rfl : enable = false := hl
    unfold State.setProcesserAutoScale
    rw [if_neg (by simp [h.1])]
    exact ⟨⟨h.1, rfl⟩, fun _ => rfl⟩
  | tick t now r e =>
    rw [next] at hs
    split_ifs at hs
    obtain rfl := Option.some.inj hs
    rw [h.autoScaleTick]
    exact ⟨h, fun _ => rfl⟩
  | run t joins =>
    have hrun := run_of_step hs
    have hsame := hrun.sameControl
    refine ⟨⟨hsame.initialized.trans h.1, hsame.scalingMode.trans h.2⟩, fun _ => ?_⟩
    cases hrun with
    | @cancelled who =>
      cases who
      all_goals rfl
    | claim | stop | joined | joinFails | mark | erase => rfl
  | tickGate t =>
    rw [next] at hs
    split_ifs at hs
    all_goals
      obtain rfl := Option.some.inj hs
      exact ⟨h, fun _ => rfl⟩
  | reap t =>
    rw [next] at hs
    split_ifs at hs
    all_goals
      obtain rfl := Option.some.inj hs
      exact ⟨h, fun _ => rfl⟩
  | registerDriver p | unregisterDriver p | workerExit p | threadExit p =>
    rw [next] at hs
    split_ifs at hs
    obtain rfl := Option.some.inj hs
    exact ⟨h, fun _ => rfl⟩

end Manual

/-- A request that commits its target leads to the manual mode. -/
lemma manual_of_request {num : ℕ} {now : ℤ} {a : State T × Option ResizeResult}
    (ha : Request t num now s a) (hr : a.2 = some .ok ∨ a.2 = some .pending) :
    Manual a.1 ∧ a.1.targetNum = num := by
  cases ha with
  | refused hok hpending | rejected hok hpending =>
    rcases hr with hr | hr
    · exact absurd (Option.some.inj hr) hok
    · exact absurd (Option.some.inj hr) hpending
  | @returned e s' r hinit _ _ ha hr' =>
    have hinit' := congrArg State.initialized ha.frame
    refine ⟨⟨hinit'.trans hinit, rfl⟩, ?_⟩
    cases ha with
    | grown | shrunk => rfl
    | rejected _ hok hpending =>
      rcases hr' with rfl | rfl
      · exact absurd rfl hok
      · exact absurd rfl hpending
    | same heq => exact heq.symm
  | cancelled =>
    rcases hr with hr | hr
    all_goals cases hr

/-- After a committed request no tick changes a target until the automatic mode is restored, and
the target is the requested one until the next request, whatever the ticks in progress have
observed. -/
lemma manual_of_path {num : ℕ} {now : ℤ} {e : Resizing} (h : (system T cfg).Reachable s)
    (hs : next cfg s (.setProcesserNum t num now e) = some s')
    (hr : (s.setProcesserNum t num now e).2 = some .ok ∨
      (s.setProcesserNum t num now e).2 = some .pending) (s'' : State T) :
    ((system T cfg).PathWhen (fun _ l => l.keepsMode) s' s'' → Manual s'') ∧
    ((system T cfg).PathWhen (fun _ l => l.keepsMode ∧ l.keepsTarget) s' s'' →
      s''.targetNum = num) := by
  have hreach : (system T cfg).Reachable s' := h.step (.setProcesserNum t num now e) hs
  have hstart : Manual s' ∧ s'.targetNum = num := by
    rw [next] at hs
    split_ifs at hs
    obtain rfl := Option.some.inj hs
    exact manual_of_request (request_spec (systemInv_of_reachable h).toInv t num now e) hr
  constructor
  · intro hpath
    have hinv : (system T cfg).Reachable s'' ∧ Manual s'' := by
      refine System.PathWhen.induct (I := fun s => (system T cfg).Reachable s ∧ Manual s)
        ⟨hreach, hstart.1⟩ ?_ hpath
      rintro s₁ l s₂ ⟨hr₁, hm₁⟩ hl hs₁
      exact ⟨hr₁.step l hs₁, (hm₁.step (systemInv_of_reachable hr₁) hl hs₁).1⟩
    exact hinv.2
  · intro hpath
    have hinv : (system T cfg).Reachable s'' ∧ Manual s'' ∧ s''.targetNum = num := by
      refine System.PathWhen.induct
        (I := fun s => (system T cfg).Reachable s ∧ Manual s ∧ s.targetNum = num)
        ⟨hreach, hstart⟩ ?_ hpath
      rintro s₁ l s₂ ⟨hr₁, hm₁, ht₁⟩ ⟨hl, hl'⟩ hs₁
      obtain ⟨hm₂, ht₂⟩ := hm₁.step (systemInv_of_reachable hr₁) hl hs₁
      exact ⟨hr₁.step l hs₁, hm₂, (ht₂ hl').trans ht₁⟩
    exact hinv.2.2

/-! ## Sustained load -/

/-- What holds of a tick of `t` from `s` to `s'` with the readings `r`. -/
structure Sustained (cfg : Config) (s s' : State T) (r : Readings) : Prop where
  up : s.targetNum < s'.targetNum → ∃ load, s.sampleScalingLoad r = some load ∧
    cfg.scaleUpSamples ≤ (load :: s.upLog).length ∧
    ∀ l ∈ (load :: s.upLog).take cfg.scaleUpSamples, cfg.upHit l = true
  down : s'.targetNum < s.targetNum → ∃ load, s.sampleScalingLoad r = some load ∧
    cfg.scaleDownSamples ≤ (load :: s.downLog).length ∧
    ∀ l ∈ (load :: s.downLog).take cfg.scaleDownSamples, cfg.downHit l = true
  batch : s'.targetNum ≤ s.targetNum + cfg.scaleStep ∧ s.targetNum ≤ s'.targetNum + cfg.scaleStep
  bounds : s.minNum ≤ s'.targetNum ∧ s'.targetNum ≤ s.maxNum
  workers : s'.activeSnapshot.length = s'.targetNum
  saturated : s'.scaleUpHits ≤ cfg.scaleUpSamples ∧ s'.scaleDownHits ≤ cfg.scaleDownSamples
  exact : ExactArithmetic cfg s r

/-- A tick commits only on as many samples as required, one batch within the bounds and with
exact arithmetic; and no tick changes the target that a manual request has committed until the
automatic mode is restored. -/
theorem sustained_of_reachable (h : (system T cfg).Reachable s) :
    (∀ t now r e, s.call t = .tick → Sustained cfg s (s.autoScaleTick cfg t now r e) r) ∧
    ∀ t num now e s' s'', next cfg s (.setProcesserNum t num now e) = some s' →
      (s.setProcesserNum t num now e).2 = some .ok ∨
        (s.setProcesserNum t num now e).2 = some .pending →
      ((system T cfg).PathWhen (fun _ l => l.keepsMode) s' s'' →
        ∀ t now r e, (s''.autoScaleTick cfg t now r e).targetNum = s''.targetNum) ∧
      ((system T cfg).PathWhen (fun _ l => l.keepsMode ∧ l.keepsTarget) s' s'' →
        s''.targetNum = num) := by
  have hi := systemInv_of_reachable h
  have hsampled := sampled_of_reachable h
  refine ⟨fun t now r e ht => ?_, fun t num now e s' s'' hs hr => ?_⟩
  · have hinit := hi.gate t ht
    obtain ⟨b, hcfg, -⟩ := hi.accepted hinit
    have htick := tick_spec (t := t) hi.toInv hinit hcfg now r e
    have hsame := htick.sameControl
    have hafter := hi.toInv.tick hcfg hinit (by rw [ht]; rfl) htick
    have hhits := hsampled.tick htick
    have hbounds := hafter.counted.bounds (hsame.initialized.trans hinit)
    rw [hsame.minNum, hsame.maxNum] at hbounds
    have hup := hhits.up
    have hdown := hhits.down
    have hlong : ∀ {p : ScalingLoad → Bool} {load log hits samples},
        hits = min (streak p (load :: log)) samples → samples ≤ hits →
        samples ≤ (load :: log).length ∧ ∀ l ∈ (load :: log).take samples, p l = true :=
      fun heq hle => forall_of_le_streak (by omega)
    refine ⟨fun hlt => ?_, fun hlt => ?_, ?_, hbounds,
      hafter.counted.length (hsame.initialized.trans hinit), ⟨by omega, by omega⟩,
      exactArithmetic hi.toInv hinit hcfg hsampled r⟩
    · rcases htick.target hi.toInv hinit hcfg with heq | ⟨load, -, hload, ⟨hhit, -⟩ | hfewer⟩
      · omega
      · exact ⟨load, hload, hlong (hsampled.accumulate load).up hhit⟩
      · omega
    · rcases htick.target hi.toInv hinit hcfg with heq | ⟨load, -, hload, hmore | ⟨-, hhit, -⟩⟩
      · omega
      · omega
      · exact ⟨load, hload, hlong (hsampled.accumulate load).down hhit⟩
    · rcases htick.target hi.toInv hinit hcfg with heq | ⟨load, -, -, hmore | hfewer⟩
      all_goals omega
  · obtain ⟨hmode, htarget⟩ := manual_of_path h hs hr s''
    refine ⟨fun hpath t now r e => ?_, htarget⟩
    rw [(hmode hpath).autoScaleTick]
    rfl

/-- A configuration with one worker at the start, whose ticks act on one sample. -/
def eagerConfig : Config where
  staticThreadNum := 1
  processerAutoScale := true
  processerMaxNum := 3
  scaleUpSamples := 1
  upWatermark_lt := one_lt_sizeMod
  upSamples_lt := one_lt_sizeMod
  downSamples_lt := three_lt_sizeMod

/-- A tick after the interval raises the target by one. -/
theorem sustained_tick : ∃ s : State ℕ,
    (s.call 0 = .tick ∧ s.targetNum = 1 ∧
      (s.autoScaleTick eagerConfig 0 1000000000 { globalSizes := [5] } {}).targetNum = 2) ∧
    Sustained eagerConfig s
      (s.autoScaleTick eagerConfig 0 1000000000 { globalSizes := [5] } {})
      { globalSizes := [5] } := by
  have hrun : (system ℕ eagerConfig).endsIn {} [.start 0 none, .tickGate 0]
      (fun s => s.call 0 = .tick ∧ s.targetNum = 1 ∧
        (s.autoScaleTick eagerConfig 0 1000000000 { globalSizes := [5] } {}).targetNum = 2) =
      true := by
    decide +kernel
  obtain ⟨s, hs, hp⟩ := System.exists_of_endsIn rfl hrun
  exact ⟨s, hp, (sustained_of_reachable hs).1 0 _ _ _ hp.1⟩

/-- A tick that has observed the automatic mode overwrites the target of a later request, if the
automatic mode is restored before it goes on. -/
theorem overwritten_after_autoScale : ∃ s s' s'' : State ℕ,
    (system ℕ eagerConfig).Reachable s ∧ s.call 0 = .tick ∧
    next eagerConfig s (.setProcesserNum 1 2 0 {}) = some s' ∧
    (s.setProcesserNum 1 2 0 {}).2 = some .ok ∧ s'.targetNum = 2 ∧
    next eagerConfig s' (.setProcesserAutoScale true 0) = some s'' ∧ s''.call 0 = .tick ∧
    (s''.autoScaleTick eagerConfig 0 1000000000 { globalSizes := [5] } {}).targetNum = 3 := by
  have hrun : (system ℕ eagerConfig).endsIn {} [.start 0 none, .tickGate 0]
      (fun s => s.call 0 = .tick ∧ s.call 1 = .idle ∧
        (s.setProcesserNum 1 2 0 {}).2 = some .ok ∧
        (s.setProcesserNum 1 2 0 {}).1.targetNum = 2 ∧
        ((s.setProcesserNum 1 2 0 {}).1.setProcesserAutoScale true 0).1.call 0 = .tick ∧
        (((s.setProcesserNum 1 2 0 {}).1.setProcesserAutoScale true 0).1.autoScaleTick
          eagerConfig 0 1000000000 { globalSizes := [5] } {}).targetNum = 3) = true := by
    decide +kernel
  obtain ⟨s, hs, h₁, h₂, h₃, h₄, h₅, h₆⟩ := System.exists_of_endsIn rfl hrun
  exact ⟨s, _, _, hs, h₁, if_pos h₂, h₃, h₄, rfl, h₅, h₆⟩

end BbtCoroutine.Scheduler
