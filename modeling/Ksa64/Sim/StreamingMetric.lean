import Ksa64.Library.RunningMean
import Ksa64.Library.Shifts
import Ksa64.Library.Conversions
import Mathlib.Data.List.Induction

/-!
# Metrics of a campaign

Of a metric the campaign keeps the extremes, the mean and the second moment, and brings them up to
date with each run.  The mean has sixteen binary places.
-/

namespace Ksa64.Sim

open Ksa64.Library

structure StreamingMetric where
  count : UInt32
  minimum : Int32
  maximum : Int32
  meanQ16 : Int64
  m2Q16 : Int64
deriving DecidableEq, Repr

namespace StreamingMetric

def empty : StreamingMetric where
  count := 0
  minimum := Int32.maxValue
  maximum := Int32.minValue
  meanQ16 := 0
  m2Q16 := 0

def update (m : StreamingMetric) (value : Int32) : StreamingMetric :=
  let count := addSat32 m.count 1
  let valueQ16 := value.toInt64 <<< 16
  let delta := valueQ16 - m.meanQ16
  let meanQ16 := m.meanQ16 + delta / count.toUInt64.toInt64
  let deltaAfter := valueQ16 - meanQ16
  { count
    minimum := min m.minimum value
    maximum := max m.maximum value
    meanQ16
    m2Q16 := addSatI64 m.m2Q16 (mulSatI64 delta deltaAfter >>> 16) }

def mean (m : StreamingMetric) : Int32 := clampI32 (m.meanQ16 >>> 16).toInt

def sampleVariance (m : StreamingMetric) : Int64 :=
  if m.count < 2 then 0 else (m.m2Q16 / (m.count - 1).toUInt64.toInt64) >>> 16

/-- The metric of some samples. -/
def ofSamples (samples : List Int32) : StreamingMetric := samples.foldl update empty

/-- The sum of the samples. -/
def total (samples : List Int32) : Int := (samples.map Int32.toInt).sum

/-- What as many means as samples are off from the sum. -/
def drift (samples : List Int32) (m : StreamingMetric) : Int :=
  (samples.length : Int) * m.meanQ16.toInt - 65536 * total samples

/-! ## One sample -/

section Update

variable {samples : List Int32} {m : StreamingMetric} {value : Int32}

/-- What holds of a metric that has taken the samples. -/
structure Tracks (samples : List Int32) (m : StreamingMetric) : Prop where
  count : m.count.toNat = samples.length
  start : samples = [] → m.meanQ16 = 0
  inside : samples ≠ [] → m.minimum.toInt * 2 ^ 16 ≤ m.meanQ16.toInt ∧
    m.meanQ16.toInt ≤ m.maximum.toInt * 2 ^ 16
  off : 2 * |drift samples m| ≤ (samples.length : Int) * (samples.length - 1)
  moment : 0 ≤ m.m2Q16.toInt

theorem tracks_empty : Tracks [] empty where
  count := rfl
  start _ := rfl
  inside h := absurd rfl h
  off := by decide
  moment := by decide

/-- The mean has room. -/
theorem Tracks.mean_range (h : Tracks samples m) :
    -2 ^ 47 ≤ m.meanQ16.toInt ∧ m.meanQ16.toInt ≤ 2 ^ 47 - 2 ^ 16 := by
  by_cases hsamples : samples = []
  · rw [h.start hsamples]
    decide
  · obtain ⟨hlow, hhigh⟩ := h.inside hsamples
    have hmin := Int32.le_toInt m.minimum
    have hmax := Int32.toInt_lt m.maximum
    omega

theorem toInt_valueQ16 (value : Int32) : (value.toInt64 <<< 16).toInt = value.toInt * 2 ^ 16 := by
  have hlow := Int32.le_toInt value
  have hhigh := Int32.toInt_lt value
  rw [toInt_shiftLeft_sixteen, Int32.toInt_toInt64]
  exact Int.bmod_eq_of_le (by omega) (by omega)

/-- The parts of an update, as numbers. -/
theorem update_parts (value : Int32) (h : Tracks samples m) (hroom : samples.length + 1 < 2 ^ 32) :
    (m.update value).count.toNat = samples.length + 1 ∧
    (m.update value).meanQ16.toInt
      = nextMean m.meanQ16.toInt (value.toInt * 2 ^ 16) (samples.length + 1) ∧
    (m.update value).m2Q16.toInt = min (2 ^ 63 - 1) (m.m2Q16.toInt
      + min (2 ^ 63 - 1) ((value.toInt * 2 ^ 16 - m.meanQ16.toInt)
        * (value.toInt * 2 ^ 16 - (m.update value).meanQ16.toInt)) / 2 ^ 16) := by
  obtain ⟨hlow, hhigh⟩ := h.mean_range
  have hvalueLow := Int32.le_toInt value
  have hvalueHigh := Int32.toInt_lt value
  have hvalue := toInt_valueQ16 value
  have hcount : (addSat32 m.count 1).toNat = samples.length + 1 := by
    rw [toNat_addSat32, h.count]
    exact min_eq_left (by show samples.length + 1 ≤ _; omega)
  have hdelta : (value.toInt64 <<< 16 - m.meanQ16).toInt
      = value.toInt * 2 ^ 16 - m.meanQ16.toInt := by
    rw [Int64.toInt_sub, hvalue]
    exact Int.bmod_eq_of_le (by omega) (by omega)
  have hbetween := @nextMean_between m.meanQ16.toInt (value.toInt * 2 ^ 16) (samples.length + 1)
    (by omega)
  have hquotient : ((value.toInt64 <<< 16 - m.meanQ16)
      / (addSat32 m.count 1).toUInt64.toInt64).toInt
        = (value.toInt * 2 ^ 16 - m.meanQ16.toInt).tdiv (samples.length + 1) := by
    rw [Int64.toInt_div_of_ne_left, hdelta, toInt_unsigned32, hcount]
    · push_cast
      rfl
    · intro hmin
      rw [hmin] at hdelta
      have hleast : Int64.minValue.toInt = -2 ^ 63 := rfl
      omega
  have hmean : (m.update value).meanQ16.toInt
      = nextMean m.meanQ16.toInt (value.toInt * 2 ^ 16) (samples.length + 1) := by
    show (m.meanQ16 + (value.toInt64 <<< 16 - m.meanQ16)
      / (addSat32 m.count 1).toUInt64.toInt64).toInt = _
    rw [Int64.toInt_add, hquotient]
    unfold nextMean at hbetween ⊢
    exact Int.bmod_eq_of_le (by omega) (by omega)
  have hproduct := @nextMean_moment m.meanQ16.toInt (value.toInt * 2 ^ 16) (samples.length + 1)
    (by omega)
  have hafter : (value.toInt64 <<< 16 - (m.update value).meanQ16).toInt
      = value.toInt * 2 ^ 16 - (m.update value).meanQ16.toInt := by
    rw [Int64.toInt_sub, hvalue]
    exact Int.bmod_eq_of_le (by omega) (by omega)
  refine ⟨hcount, hmean, ?_⟩
  have hmoment := h.moment
  rw [← hmean] at hproduct
  show (addSatI64 m.m2Q16 (mulSatI64 (value.toInt64 <<< 16 - m.meanQ16)
    (value.toInt64 <<< 16 - (m.update value).meanQ16) >>> 16)).toInt = _
  rw [toInt_addSatI64, toInt_shiftRight_sixteen, toInt_mulSatI64, hdelta, hafter]
  generalize (value.toInt * 2 ^ 16 - m.meanQ16.toInt)
    * (value.toInt * 2 ^ 16 - (m.update value).meanQ16.toInt) = product at hproduct ⊢
  omega

/-- The second moment does not decrease. -/
theorem Tracks.moment_le (h : Tracks samples m) (hroom : samples.length + 1 < 2 ^ 32) :
    m.m2Q16.toInt ≤ (m.update value).m2Q16.toInt := by
  obtain ⟨-, hmean, hmoment⟩ := update_parts value h hroom
  have hproduct := @nextMean_moment m.meanQ16.toInt (value.toInt * 2 ^ 16) (samples.length + 1)
    (by omega)
  have hlt := m.m2Q16.toInt_lt
  rw [← hmean] at hproduct
  rw [hmoment]
  generalize (value.toInt * 2 ^ 16 - m.meanQ16.toInt)
    * (value.toInt * 2 ^ 16 - (m.update value).meanQ16.toInt) = product at hproduct ⊢
  omega

/-- One more sample keeps what holds. -/
theorem Tracks.update (h : Tracks samples m) (hroom : samples.length + 1 < 2 ^ 32) :
    Tracks (samples ++ [value]) (m.update value) := by
  obtain ⟨hcount, hmean, -⟩ := update_parts value h hroom
  have hbetween := @nextMean_between m.meanQ16.toInt (value.toInt * 2 ^ 16) (samples.length + 1)
    (by omega)
  have hminimum : (m.update value).minimum.toInt = min m.minimum.toInt value.toInt :=
    toInt_minI32 _ _
  have hmaximum : (m.update value).maximum.toInt = max m.maximum.toInt value.toInt :=
    toInt_maxI32 _ _
  have hlength : (samples ++ [value]).length = samples.length + 1 := by
    rw [List.length_append, List.length_singleton]
  refine ⟨hcount.trans hlength.symm, fun hnil ↦ absurd hnil (by simp), fun _ ↦ ?_, ?_,
    h.moment.trans (h.moment_le hroom)⟩
  · rw [hminimum, hmaximum, hmean]
    by_cases hsamples : samples = []
    · have hstart : m.meanQ16.toInt = 0 := by
        rw [h.start hsamples]
        rfl
      rw [hstart, hsamples, show ((([] : List Int32).length : Int) + 1) = 1 from rfl,
        nextMean_first]
      omega
    · obtain ⟨hlow, hhigh⟩ := h.inside hsamples
      omega
  · have htotal : total (samples ++ [value]) = total samples + value.toInt := by
      unfold total
      rw [List.map_append, List.sum_append, List.map_singleton, List.sum_singleton]
    have hoff := h.off
    unfold drift at hoff ⊢
    rw [hmean, htotal, hlength, mul_add]
    have hnext := @nextMean_off m.meanQ16.toInt (value.toInt * 2 ^ 16) (samples.length + 1)
      (65536 * total samples) (by omega) (by
        rw [add_sub_cancel_right, show (samples.length : Int) + 1 - 2 = samples.length - 1 by ring]
        exact hoff)
    push_cast
    rw [mul_comm 65536 value.toInt]
    exact hnext

end Update

/-! ## Runs -/

/-- A metric tracks all samples, as long as their number is a word. -/
theorem tracks_ofSamples {samples : List Int32} (h : samples.length < 2 ^ 32) :
    Tracks samples (ofSamples samples) := by
  induction samples using List.reverseRecOn with
  | nil => exact tracks_empty
  | append_singleton samples value ih =>
      rw [List.length_append, List.length_singleton] at h
      unfold ofSamples at ih ⊢
      rw [List.foldl_append]
      exact (ih (by omega)).update h

/-- The mean is the whole part. -/
theorem mean_between {samples : List Int32} {m : StreamingMetric} (h : Tracks samples m)
    (hne : samples ≠ []) : m.minimum ≤ m.mean ∧ m.mean ≤ m.maximum := by
  obtain ⟨hlow, hhigh⟩ := h.inside hne
  have hmin := Int32.le_toInt m.minimum
  have hmax := Int32.toInt_lt m.maximum
  unfold mean
  rw [Int32.le_iff_toInt_le, Int32.le_iff_toInt_le, toInt_clampI32, toInt_shiftRight_sixteen]
  omega

theorem sampleVariance_nonneg {m : StreamingMetric} (h : 0 ≤ m.m2Q16.toInt) :
    0 ≤ m.sampleVariance.toInt := by
  unfold sampleVariance
  split_ifs with hfew
  · exact le_refl 0
  · rw [toInt_shiftRight_sixteen, Int64.toInt_div_of_ne_left, toInt_unsigned32]
    · exact Int.ediv_nonneg (Int.tdiv_nonneg h (Int.natCast_nonneg _)) (by decide)
    · rintro hmin
      rw [hmin] at h
      exact absurd h (by decide)

/-- After every run of samples the mean is between the extremes, the means drift from the samples by
at most the rounding, and the second moment and the variance are not negative; the second moment does
not decrease with another sample.  Without samples there is no mean. -/
theorem metric_sound (samples : List Int32) (h : samples.length < 2 ^ 32) :
    (samples ≠ [] → (ofSamples samples).minimum ≤ (ofSamples samples).mean ∧
      (ofSamples samples).mean ≤ (ofSamples samples).maximum) ∧
    2 * |(samples.length : Int) * (ofSamples samples).meanQ16.toInt - 65536 * total samples|
      ≤ (samples.length : Int) * (samples.length - 1) ∧
    0 ≤ (ofSamples samples).m2Q16.toInt ∧ 0 ≤ (ofSamples samples).sampleVariance.toInt ∧
    (samples.length + 1 < 2 ^ 32 → ∀ value,
      (ofSamples samples).m2Q16 ≤ (ofSamples (samples ++ [value])).m2Q16) := by
  have htracks := tracks_ofSamples h
  refine ⟨mean_between htracks, htracks.off, htracks.moment, sampleVariance_nonneg htracks.moment, ?_⟩
  intro hroom value
  rw [Int64.le_iff_toInt_le]
  unfold ofSamples
  rw [List.foldl_append]
  exact htracks.moment_le hroom

theorem metric_sound_three :
    (ofSamples [3, -1, 4]).minimum ≤ (ofSamples [3, -1, 4]).mean ∧
      0 ≤ (ofSamples [3, -1, 4]).sampleVariance.toInt :=
  ⟨((metric_sound [3, -1, 4] (by decide)).1 (List.cons_ne_nil _ _)).1,
    (metric_sound [3, -1, 4] (by decide)).2.2.2.1⟩

/-- Before the first sample the extremes are the wrong way round. -/
theorem metric_empty : ¬∀ samples : List Int32, samples.length < 2 ^ 32 →
    (ofSamples samples).minimum ≤ (ofSamples samples).mean ∧
      (ofSamples samples).mean ≤ (ofSamples samples).maximum := by
  intro hall
  exact absurd (hall [] (by decide)).1 (by decide)

end StreamingMetric

end Ksa64.Sim
