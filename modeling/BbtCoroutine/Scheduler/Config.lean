import Mathlib.Data.Finset.Basic
import Mathlib.Algebra.Order.Ring.Nat

/-!
# The configuration of the worker set

`ResolveProcesserScalingBounds` accepts or rejects a configuration and resolves the
bounds of the worker set.  A `size_t` is a natural number below `2 ^ 64`, and its sums,
differences and products are taken modulo `2 ^ 64`.
-/

namespace BbtCoroutine.Scheduler

/-! ## Machine arithmetic -/

/-- The number of values of a `size_t`. -/
def sizeMod : ℕ := 2 ^ 64

/-- A sum of two `size_t`. -/
def sizeAdd (a b : ℕ) : ℕ := (a + b) % sizeMod

/-- A difference of two `size_t`. -/
def sizeSub (a b : ℕ) : ℕ := (a + (sizeMod - b % sizeMod)) % sizeMod

/-- A product of two `size_t`. -/
def sizeMul (a b : ℕ) : ℕ := a * b % sizeMod

/-- A number of milliseconds as a signed 64-bit number of nanoseconds. -/
def nanoseconds (ms : ℕ) : ℤ := Int.bmod (ms * 1000000) sizeMod

/-- A sum that fits is not reduced. -/
lemma sizeAdd_eq {a b : ℕ} (h : a + b < sizeMod) : sizeAdd a b = a + b :=
  Nat.mod_eq_of_lt h

/-- A product that fits is not reduced. -/
lemma sizeMul_eq {a b : ℕ} (h : a * b < sizeMod) : sizeMul a b = a * b :=
  Nat.mod_eq_of_lt h

/-- A difference that fits is not reduced. -/
lemma sizeSub_eq {a b : ℕ} (h : b ≤ a) (ha : a < sizeMod) : sizeSub a b = a - b := by
  have hb : b % sizeMod = b := Nat.mod_eq_of_lt (by omega)
  have hsum : a + (sizeMod - b) = a - b + sizeMod := by omega
  rw [sizeSub, hb, hsum, Nat.add_mod_right, Nat.mod_eq_of_lt (by omega)]

/-- The size 1 fits. -/
lemma one_lt_sizeMod : 1 < sizeMod := by
  decide

/-- The size 3 fits. -/
lemma three_lt_sizeMod : 3 < sizeMod := by
  decide

/-! ## The configuration -/

/-- `std::numeric_limits<int>::max()`. -/
def intMax : ℕ := 2147483647

/-- The greatest count of `std::chrono::milliseconds`. -/
def millisecondsMax : ℕ := 9223372036854775807

/-- The fields of `GlobalConfig` that the worker set is built and resized with; the
watermark and the sample counts are values of a `size_t`. -/
structure Config where
  staticThreadNum : ℕ
  processerAutoScale : Bool := false
  processerMinNum : ℕ := 0
  processerMaxNum : ℕ := 0
  scaleIntervalMs : ℕ := 100
  scaleUpSamples : ℕ := 3
  scaleDownSamples : ℕ := 3
  scaleStep : ℕ := 1
  scaleUpBusyPercent : ℕ := 80
  scaleDownBusyPercent : ℕ := 20
  scaleUpQueueWatermark : ℕ := 1
  scaleDownQueueWatermark : ℕ := 0
  upWatermark_lt : scaleUpQueueWatermark < sizeMod := by decide
  upSamples_lt : scaleUpSamples < sizeMod := by decide
  downSamples_lt : scaleDownSamples < sizeMod := by decide

namespace Config

/-- `ProcesserScalingBounds`. -/
structure Bounds where
  initialNum : ℕ
  minNum : ℕ
  maxNum : ℕ
  deriving DecidableEq

/-- The bound `num`, or the initial number of workers if it is not set. -/
def orInitial (cfg : Config) (num : ℕ) : ℕ :=
  if num = 0 then cfg.staticThreadNum else num

/-- `ResolveProcesserScalingBounds`. -/
def resolveProcesserScalingBounds (cfg : Config) : Option Bounds :=
  let initial := cfg.staticThreadNum
  let minNum := cfg.orInitial cfg.processerMinNum
  let maxNum := cfg.orInitial cfg.processerMaxNum
  if minNum = 0 ∨ maxNum < minNum ∨ intMax < maxNum ∨ initial < minNum ∨ maxNum < initial then none
  else if cfg.scaleIntervalMs = 0 ∨ millisecondsMax < cfg.scaleIntervalMs ∨
      cfg.scaleUpSamples = 0 ∨ cfg.scaleDownSamples = 0 ∨
      cfg.scaleStep = 0 ∨ intMax < cfg.scaleStep then none
  else if 100 < cfg.scaleUpBusyPercent ∨ cfg.scaleUpBusyPercent < cfg.scaleDownBusyPercent ∨
      cfg.scaleUpQueueWatermark = 0 ∨
      cfg.scaleUpQueueWatermark < cfg.scaleDownQueueWatermark then none
  else some ⟨initial, minNum, maxNum⟩

/-- What is known of an accepted configuration. -/
structure Accepted (cfg : Config) (b : Bounds) : Prop where
  initial : b.initialNum = cfg.staticThreadNum
  min_pos : 0 < b.minNum
  min_le : b.minNum ≤ b.initialNum
  le_max : b.initialNum ≤ b.maxNum
  max_le : b.maxNum ≤ intMax
  upSamples : 0 < cfg.scaleUpSamples
  downSamples : 0 < cfg.scaleDownSamples
  step_pos : 0 < cfg.scaleStep
  step_le : cfg.scaleStep ≤ intMax
  upBusy : cfg.scaleUpBusyPercent ≤ 100
  busy : cfg.scaleDownBusyPercent ≤ cfg.scaleUpBusyPercent
  upQueue : 0 < cfg.scaleUpQueueWatermark
  queue : cfg.scaleDownQueueWatermark ≤ cfg.scaleUpQueueWatermark

/-- A configuration that resolves is accepted. -/
lemma accepted_of_resolve {cfg : Config} {b : Bounds}
    (h : cfg.resolveProcesserScalingBounds = some b) : cfg.Accepted b := by
  unfold resolveProcesserScalingBounds at h
  dsimp only at h
  split at h
  · cases h
  · rename_i hnum
    split at h
    · cases h
    · rename_i hsamples
      split at h
      · cases h
      · rename_i hload
        cases h
        constructor <;> (try dsimp only) <;> omega

end Config

end BbtCoroutine.Scheduler
