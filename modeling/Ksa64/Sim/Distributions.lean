import Ksa64.Library.Checked
import Ksa64.Library.Conversions
import Ksa64.Core.Products
import Ksa64.Sim.Campaign

/-!
# The distribution of a parameter

A parameter of a campaign is distributed about its baseline, between a minimum and a maximum.  In
the first run it is at the baseline, in the others it is sampled from keyed words, and whatever the
words are it keeps between the bounds.
-/

namespace Ksa64.Sim

open Ksa64.Library

inductive ParameterId
  | payloadMassPpm
  | stage1ThrustPpm
  | stage2ThrustPpm
  | atmosphereDensityPpm
  | dragPpm
  | accelerometerBiasQ28
  | gyroBiasQ24
  | altimeterBiasQ12
  | gpsRadialPositionQ12
  | gpsDownrangeQ32
  | gpsRadialVelocityQ24
  | gpsTangentialVelocityQ24
  | sensorNoisePpm
  | actuatorLagSteps
  | actuatorSlewPpm
deriving DecidableEq

namespace ParameterId

def all : Vector ParameterId 15 :=
  #v[payloadMassPpm, stage1ThrustPpm, stage2ThrustPpm, atmosphereDensityPpm, dragPpm,
    accelerometerBiasQ28, gyroBiasQ24, altimeterBiasQ12, gpsRadialPositionQ12, gpsDownrangeQ32,
    gpsRadialVelocityQ24, gpsTangentialVelocityQ24, sensorNoisePpm, actuatorLagSteps,
    actuatorSlewPpm]

def index : ParameterId → Fin 15
  | payloadMassPpm => 0
  | stage1ThrustPpm => 1
  | stage2ThrustPpm => 2
  | atmosphereDensityPpm => 3
  | dragPpm => 4
  | accelerometerBiasQ28 => 5
  | gyroBiasQ24 => 6
  | altimeterBiasQ12 => 7
  | gpsRadialPositionQ12 => 8
  | gpsDownrangeQ32 => 9
  | gpsRadialVelocityQ24 => 10
  | gpsTangentialVelocityQ24 => 11
  | sensorNoisePpm => 12
  | actuatorLagSteps => 13
  | actuatorSlewPpm => 14

theorem all_index (parameter : ParameterId) : all.get parameter.index = parameter := by
  cases parameter <;> rfl

theorem index_injective : Function.Injective index := by
  intro a b h
  rw [← all_index a, h, all_index b]

theorem index_all (i : Fin 15) : (all.get i).index = i := by
  revert i
  decide

end ParameterId

inductive DistributionKind
  | fixed
  | uniform
  | triangular
  | bernoulli
  | cltNormal3Sigma
deriving DecidableEq

structure DistributionSpec where
  parameter : ParameterId
  kind : DistributionKind
  correlationGroup : UInt8
  minimum : Int32
  baseline : Int32
  maximum : Int32
  shape : Int32
deriving DecidableEq

inductive CampaignError
  | empty
  | tooManyRuns
  | tooManyDistributions
  | duplicateParameter
  | range
  | distribution
deriving DecidableEq

def maxAbsoluteSample : Int32 := 16777216
def maxSampleSpan : Int32 := 33554432
def probabilityScale : Int32 := 1000000

/-- What is required of a distribution of each kind. -/
def validateKind (spec : DistributionSpec) : Except CampaignError Unit :=
  match spec.kind with
  | .fixed =>
      reject (spec.minimum ≠ spec.baseline ∨ spec.baseline ≠ spec.maximum ∨ spec.shape ≠ 0)
        .distribution
  | .uniform => reject (spec.shape ≠ 0) .distribution
  | .triangular =>
      reject (spec.shape ≠ 0
        ∨ spec.baseline ≠ spec.minimum + (spec.maximum - spec.minimum) / 2) .distribution
  | .bernoulli => reject (¬(0 ≤ spec.shape ∧ spec.shape ≤ probabilityScale)) .distribution
  | .cltNormal3Sigma =>
      reject (spec.shape ≠ 0 ∨ spec.minimum = spec.maximum ∨ spec.baseline = spec.minimum
        ∨ spec.baseline = spec.maximum) .distribution

def validateDistribution (spec : DistributionSpec) : Except CampaignError Unit := do
  reject (spec.minimum > spec.baseline ∨ spec.baseline > spec.maximum
    ∨ spec.minimum < -maxAbsoluteSample ∨ spec.maximum > maxAbsoluteSample
    ∨ spec.maximum - spec.minimum > maxSampleSpan) .range
  validateKind spec

/-- The word of a draw of a parameter. -/
def keyedWord (masterSeed runIndex : UInt32) (parameter : ParameterId)
    (correlationGroup drawIndex : UInt8) : UInt32 :=
  keyedWordRaw masterSeed runIndex (.ofNat parameter.index) correlationGroup drawIndex

/-- The high word of a product. -/
def multiplyHighU32 (a b : UInt32) : UInt32 :=
  let a0 := a &&& 0xffff
  let a1 := a >>> 16
  let b0 := b &&& 0xffff
  let b1 := b >>> 16
  let p0 := a0 * b0
  let p1 := a0 * b1
  let p2 := a1 * b0
  let p3 := a1 * b1
  let carry := (p0 >>> 16) + (p1 &&& 0xffff) + (p2 &&& 0xffff)
  p3 + (p1 >>> 16) + (p2 >>> 16) + (carry >>> 16)

def uniformBetween (word : UInt32) (minimum maximum : Int32) : Int32 :=
  if minimum = maximum then minimum
  else
    let span := (maximum - minimum).toUInt32 + 1
    minimum + (multiplyHighU32 word span).toInt32

/-- Twelve bytes, about their mean. -/
def centered (word : UInt8 → UInt32) : Int32 :=
  (List.range 12).foldl (fun total draw ↦ total + (word (.ofNat draw) &&& 0xff).toInt32) 0 - 1530

def cltNormal (word : UInt8 → UInt32) (minimum baseline maximum : Int32) : Int32 :=
  let span := if centered word ≥ 0 then maximum - baseline else baseline - minimum
  let delta := ((centered word).toInt64 * span.toInt64 / 768).toInt32
  max minimum (min maximum (baseline + delta))

/-- The value of a run that is not the first. -/
def sampleWords (spec : DistributionSpec) (word : UInt8 → UInt32) : Int32 :=
  match spec.kind with
  | .fixed => spec.baseline
  | .uniform => uniformBetween (word 0) spec.minimum spec.maximum
  | .triangular =>
      let a := uniformBetween (word 0) spec.minimum spec.maximum
      let b := uniformBetween (word 1) spec.minimum spec.maximum
      (a + b) / 2
  | .bernoulli =>
      if multiplyHighU32 (word 0) probabilityScale.toUInt32 < spec.shape.toUInt32
      then spec.maximum else spec.minimum
  | .cltNormal3Sigma => cltNormal word spec.minimum spec.baseline spec.maximum

def sampleDistribution (spec : DistributionSpec) (masterSeed runIndex : UInt32) :
    Except CampaignError Int32 := do
  validateDistribution spec
  if runIndex = 0 ∨ spec.kind = .fixed then pure spec.baseline
  else pure (sampleWords spec (keyedWord masterSeed runIndex spec.parameter spec.correlationGroup))

/-- The bounds of a distribution. -/
structure DistributionSpec.Bounded (spec : DistributionSpec) : Prop where
  minimum_le : spec.minimum.toInt ≤ spec.baseline.toInt
  le_maximum : spec.baseline.toInt ≤ spec.maximum.toInt
  le_minimum : -2 ^ 24 ≤ spec.minimum.toInt
  maximum_le : spec.maximum.toInt ≤ 2 ^ 24

theorem bounded_of_valid {spec : DistributionSpec} (h : validateDistribution spec = .ok ()) :
    spec.Bounded := by
  unfold validateDistribution at h
  simp only [bind_eq_ok, reject_eq_ok] at h
  obtain ⟨-, hrange, -⟩ := h
  have hlow : (-maxAbsoluteSample).toInt = -2 ^ 24 := rfl
  have hhigh : maxAbsoluteSample.toInt = 2 ^ 24 := rfl
  simp only [gt_iff_lt, not_or, Int32.not_lt, Int32.le_iff_toInt_le, hlow, hhigh] at hrange
  exact ⟨hrange.1, hrange.2.1, hrange.2.2.1, hrange.2.2.2.1⟩

section Samples

variable {a b : UInt32} {word : UInt8 → UInt32} {minimum baseline maximum : Int32}
  {spec : DistributionSpec}

theorem multiplyHighU32_toNat (a b : UInt32) :
    (multiplyHighU32 a b).toNat = a.toNat * b.toNat / 2 ^ 32 := by
  have hproduct : a.toNat * b.toNat < 2 ^ 32 * 2 ^ 32 := Nat.mul_lt_mul'' a.toNat_lt b.toNat_lt
  rw [Core.mul_halves] at hproduct ⊢
  unfold multiplyHighU32
  dsimp only
  generalize (a &&& (0xffff : UInt32)) * (b &&& (0xffff : UInt32)) = p0 at hproduct ⊢
  generalize (a &&& (0xffff : UInt32)) * (b >>> (16 : UInt32)) = p1 at hproduct ⊢
  generalize (a >>> (16 : UInt32)) * (b &&& (0xffff : UInt32)) = p2 at hproduct ⊢
  generalize (a >>> (16 : UInt32)) * (b >>> (16 : UInt32)) = p3 at hproduct ⊢
  have hp0 := p0.toNat_lt
  have hcarry : ((p0 >>> 16) + (p1 &&& 0xffff) + (p2 &&& 0xffff)).toNat
      = p0.toNat / 2 ^ 16 + p1.toNat % 2 ^ 16 + p2.toNat % 2 ^ 16 := by
    rw [UInt32.toNat_add, UInt32.toNat_add, Core.toNat_high, Core.toNat_low, Core.toNat_low]
    omega
  rw [UInt32.toNat_add, UInt32.toNat_add, UInt32.toNat_add, Core.toNat_high, Core.toNat_high,
    Core.toNat_high, hcarry]
  omega

/-- A uniform value is in the interval. -/
theorem uniformBetween_mem (hle : minimum.toInt ≤ maximum.toInt) (hlow : -2 ^ 24 ≤ minimum.toInt)
    (hhigh : maximum.toInt ≤ 2 ^ 24) (a : UInt32) :
    minimum.toInt ≤ (uniformBetween a minimum maximum).toInt ∧
      (uniformBetween a minimum maximum).toInt ≤ maximum.toInt := by
  unfold uniformBetween
  dsimp only
  split_ifs with heq
  · exact ⟨le_rfl, hle⟩
  have hwidth : (maximum - minimum).toInt = maximum.toInt - minimum.toInt :=
    toInt_sub_of_fits (by omega) (by omega)
  have hunsigned := @toUInt32_toNat (maximum - minimum) (by omega)
  have hspan : ((maximum - minimum).toUInt32 + 1).toNat = (maximum - minimum).toUInt32.toNat + 1 := by
    rw [UInt32.toNat_add]
    exact Nat.mod_eq_of_lt (by show _ + 1 < _; omega)
  -- the high word of a product with the span is below the span
  have hbelow : (multiplyHighU32 a ((maximum - minimum).toUInt32 + 1)).toNat
      < ((maximum - minimum).toUInt32 + 1).toNat := by
    rw [multiplyHighU32_toNat]
    refine Nat.div_lt_of_lt_mul (Nat.mul_lt_mul_of_pos_right a.toNat_lt ?_)
    omega
  have hoffset := @toInt32_toInt (multiplyHighU32 a ((maximum - minimum).toUInt32 + 1)) (by omega)
  rw [toInt_add_of_fits (by omega) (by omega), hoffset]
  omega

/-- The sum of bytes. -/
theorem bytes_bounds (n : Nat) (hn : n ≤ 12) :
    0 ≤ ((List.range n).foldl
        (fun total draw ↦ total + (word (.ofNat draw) &&& 0xff).toInt32) (0 : Int32)).toInt ∧
      ((List.range n).foldl
        (fun total draw ↦ total + (word (.ofNat draw) &&& 0xff).toInt32) (0 : Int32)).toInt
        ≤ 255 * n := by
  induction n with
  | zero => exact ⟨le_rfl, le_rfl⟩
  | succ n ih =>
      obtain ⟨hlow, hhigh⟩ := ih (by omega)
      have hbyte : (word (.ofNat n) &&& 0xff).toNat ≤ 255 := by
        rw [UInt32.toNat_and]
        exact Nat.and_le_right
      have hsigned := @toInt32_toInt (word (.ofNat n) &&& 0xff) (by omega)
      rw [List.range_succ, List.foldl_append, List.foldl_cons, List.foldl_nil,
        toInt_add_of_fits (by omega) (by omega), hsigned]
      omega

theorem centered_bounds : -1530 ≤ (centered word).toInt ∧ (centered word).toInt ≤ 1530 := by
  have hbytes := @bytes_bounds word 12 le_rfl
  have hmean : (1530 : Int32).toInt = 1530 := rfl
  unfold centered
  rw [toInt_sub_of_fits (by omega) (by omega)]
  omega

/-- The share of the span that is added to the baseline, without a carry. -/
theorem toInt_shifted {span : Int32} (hbaseline : -2 ^ 24 ≤ baseline.toInt)
    (hbaseline' : baseline.toInt ≤ 2 ^ 24) (hspan : 0 ≤ span.toInt) (hspan' : span.toInt ≤ 2 ^ 25) :
    (baseline + ((centered word).toInt64 * span.toInt64 / 768).toInt32).toInt
      = baseline.toInt + ((centered word).toInt * span.toInt).tdiv 768 := by
  obtain ⟨hlow, hhigh⟩ := @centered_bounds word
  have habove : (centered word).toInt * span.toInt ≤ 1530 * 2 ^ 25 :=
    (mul_le_mul_of_nonneg_right hhigh hspan).trans (by omega)
  have hbelow : -1530 * 2 ^ 25 ≤ (centered word).toInt * span.toInt :=
    (show _ ≤ -1530 * span.toInt by omega).trans (mul_le_mul_of_nonneg_right hlow hspan)
  have hproduct : ((centered word).toInt64 * span.toInt64).toInt
      = (centered word).toInt * span.toInt := by
    rw [Int64.toInt_mul, Int32.toInt_toInt64, Int32.toInt_toInt64]
    exact Int.bmod_eq_of_le (by omega) (by omega)
  have hdivide := Int.mul_tdiv_add_tmod ((centered word).toInt * span.toInt) 768
  have hrest := Int.tmod_lt_of_pos ((centered word).toInt * span.toInt) (show 0 < (768 : Int) by decide)
  have hrest' := Int.lt_tmod_of_pos ((centered word).toInt * span.toInt) (show 0 < (768 : Int) by decide)
  have hdelta : ((centered word).toInt64 * span.toInt64 / 768).toInt32.toInt
      = ((centered word).toInt * span.toInt).tdiv 768 := by
    rw [Int64.toInt_toInt32, Int64.toInt_div_of_ne_right _ _ (by decide), hproduct]
    exact Int.bmod_eq_of_le (by show _ ≤ Int.tdiv _ 768; omega) (by show Int.tdiv _ 768 < _; omega)
  rw [toInt_add_of_fits (by omega) (by omega), hdelta]

/-- A value is kept between the bounds. -/
theorem cltNormal_mem (hle : minimum.toInt ≤ maximum.toInt) :
    minimum.toInt ≤ (cltNormal word minimum baseline maximum).toInt ∧
      (cltNormal word minimum baseline maximum).toInt ≤ maximum.toInt := by
  unfold cltNormal
  rw [toInt_maxI32, toInt_minI32]
  exact ⟨le_max_left _ _, max_le hle (min_le_left _ _)⟩

/-- The value of the normal distribution, with its arithmetic in range. -/
theorem toInt_cltNormal (h : spec.Bounded) :
    (cltNormal word spec.minimum spec.baseline spec.maximum).toInt
      = max spec.minimum.toInt (min spec.maximum.toInt (spec.baseline.toInt
        + ((centered word).toInt * (if 0 ≤ (centered word).toInt
            then spec.maximum.toInt - spec.baseline.toInt
            else spec.baseline.toInt - spec.minimum.toInt)).tdiv 768)) := by
  obtain ⟨hminimum, hmaximum, hlow, hhigh⟩ := h
  have hzero : (0 : Int32).toInt = 0 := rfl
  have hup : (spec.maximum - spec.baseline).toInt = spec.maximum.toInt - spec.baseline.toInt :=
    toInt_sub_of_fits (by omega) (by omega)
  have hdown : (spec.baseline - spec.minimum).toInt = spec.baseline.toInt - spec.minimum.toInt :=
    toInt_sub_of_fits (by omega) (by omega)
  unfold cltNormal
  rw [toInt_maxI32, toInt_minI32]
  by_cases hsign : centered word ≥ 0
  · have hsign' : 0 ≤ (centered word).toInt := hzero ▸ Int32.le_iff_toInt_le.mp hsign
    rw [if_pos hsign, if_pos hsign', toInt_shifted (by omega) (by omega) (by omega) (by omega), hup]
  · have hsign' : ¬0 ≤ (centered word).toInt := fun h ↦ hsign (Int32.le_iff_toInt_le.mpr (hzero ▸ h))
    rw [if_neg hsign, if_neg hsign', toInt_shifted (by omega) (by omega) (by omega) (by omega), hdown]

/-- Whatever the words are, the value of a parameter is between its bounds. -/
theorem sampleWords_mem (h : spec.Bounded) (word : UInt8 → UInt32) :
    spec.minimum.toInt ≤ (sampleWords spec word).toInt ∧
      (sampleWords spec word).toInt ≤ spec.maximum.toInt := by
  obtain ⟨hminimum, hmaximum, hlow, hhigh⟩ := id h
  have hle := hminimum.trans hmaximum
  unfold sampleWords
  cases spec.kind with
  | fixed => exact ⟨hminimum, hmaximum⟩
  | uniform => exact uniformBetween_mem hle hlow hhigh (word 0)
  | triangular =>
      have ha := uniformBetween_mem hle hlow hhigh (word 0)
      have hb := uniformBetween_mem hle hlow hhigh (word 1)
      dsimp only
      rw [Int32.toInt_div_of_ne_right _ _ (by decide), toInt_add_of_fits (by omega) (by omega)]
      show _ ≤ Int.tdiv _ 2 ∧ Int.tdiv _ 2 ≤ _
      generalize hsum : (uniformBetween (word 0) spec.minimum spec.maximum).toInt
        + (uniformBetween (word 1) spec.minimum spec.maximum).toInt = sum
      have hhalf := Int.mul_tdiv_add_tmod sum 2
      have hrest := Int.tmod_lt_of_pos sum (show 0 < (2 : Int) by decide)
      have hrest' := Int.lt_tmod_of_pos sum (show 0 < (2 : Int) by decide)
      omega
  | bernoulli =>
      dsimp only
      split_ifs
      · exact ⟨hle, le_rfl⟩
      · exact ⟨le_rfl, hle⟩
  | cltNormal3Sigma => exact cltNormal_mem hle

/-- A valid distribution gives a value between its bounds, and in the first run the baseline. -/
theorem sampleDistribution_ok (hvalid : validateDistribution spec = .ok ()) (seed index : UInt32) :
    ∃ value, sampleDistribution spec seed index = .ok value ∧
      spec.minimum.toInt ≤ value.toInt ∧ value.toInt ≤ spec.maximum.toInt ∧
      (index = 0 → value = spec.baseline) := by
  have hbounded := bounded_of_valid hvalid
  unfold sampleDistribution
  rw [bind_of_ok hvalid]
  by_cases hbaseline : index = 0 ∨ spec.kind = .fixed
  · rw [if_pos hbaseline]
    exact ⟨_, rfl, hbounded.minimum_le, hbounded.le_maximum, fun _ ↦ rfl⟩
  · rw [if_neg hbaseline]
    obtain ⟨hlow, hhigh⟩ := sampleWords_mem hbounded
      (keyedWord seed index spec.parameter spec.correlationGroup)
    exact ⟨_, rfl, hlow, hhigh, fun hzero ↦ absurd (.inl hzero) hbaseline⟩

end Samples

end Ksa64.Sim
