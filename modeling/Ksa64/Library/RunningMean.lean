import Mathlib.Algebra.Order.Ring.Int
import Mathlib.Algebra.Order.Ring.Abs
import Mathlib.Tactic.Linarith
import Mathlib.Tactic.Ring

/-!
# Running means

A mean of integers that is kept up to date: with each sample it moves by the difference divided by
the number of samples, and the division rounds towards zero.  It does not leave the range of the
samples, and what it is off by grows with each sample by less than the number of samples.
-/

namespace Ksa64.Library

/-- The mean after one more sample, of then `n`. -/
def nextMean (mean sample n : Int) : Int := mean + (sample - mean).tdiv n

section Step

variable {mean sample n : Int}

/-- The mean moves towards the sample, at most up to it. -/
theorem nextMean_between (hn : 0 < n) :
    min mean sample ≤ nextMean mean sample n ∧ nextMean mean sample n ≤ max mean sample := by
  unfold nextMean
  obtain hle | hle := le_total mean sample
  · have hnonneg := Int.tdiv_nonneg (sub_nonneg.mpr hle) hn.le
    have hself := Int.tdiv_le_self n (sub_nonneg.mpr hle)
    rw [min_eq_left hle, max_eq_right hle]
    constructor <;> omega
  · have hneg : (sample - mean).tdiv n = -(mean - sample).tdiv n := by
      rw [← Int.neg_tdiv, neg_sub]
    have hnonneg := Int.tdiv_nonneg (sub_nonneg.mpr hle) hn.le
    have hself := Int.tdiv_le_self n (sub_nonneg.mpr hle)
    rw [min_eq_right hle, max_eq_left hle, hneg]
    constructor <;> omega

/-- The rest of the division is all that is lost. -/
theorem nextMean_drift (hn : 0 < n) :
    |n * nextMean mean sample n - ((n - 1) * mean + sample)| ≤ n - 1 := by
  have hdiv := Int.mul_tdiv_add_tmod (sample - mean) n
  have hlt := Int.tmod_lt_of_pos (sample - mean) hn
  have hgt := Int.lt_tmod_of_pos (sample - mean) hn
  have hrest : n * nextMean mean sample n - ((n - 1) * mean + sample)
      = -(sample - mean).tmod n := by
    unfold nextMean
    linarith only [hdiv]
  rw [hrest, abs_neg, abs_le]
  constructor <;> omega

/-- Before and after the move the sample is on the same side. -/
theorem nextMean_moment (hn : 0 < n) :
    0 ≤ (sample - mean) * (sample - nextMean mean sample n) := by
  obtain ⟨hlow, hhigh⟩ := @nextMean_between mean sample n hn
  obtain hle | hle := le_total mean sample
  · rw [max_eq_right hle] at hhigh
    exact mul_nonneg (by omega) (by omega)
  · rw [min_eq_right hle] at hlow
    exact mul_nonneg_of_nonpos_of_nonpos (by omega) (by omega)

/-- The first sample is the mean. -/
theorem nextMean_first (sample : Int) : nextMean 0 sample 1 = sample := by
  unfold nextMean
  rw [Int.tdiv_one, sub_zero, zero_add]

/-- What the mean is off by, after one more sample. -/
theorem nextMean_off {sum : Int} (hn : 0 < n)
    (h : 2 * |(n - 1) * mean - sum| ≤ (n - 1) * (n - 2)) :
    2 * |n * nextMean mean sample n - (sum + sample)| ≤ n * (n - 1) := by
  have hdrift := @nextMean_drift mean sample n hn
  have hsplit : n * nextMean mean sample n - (sum + sample)
      = (n * nextMean mean sample n - ((n - 1) * mean + sample)) + ((n - 1) * mean - sum) := by
    ring
  have htriangle := abs_add_le (n * nextMean mean sample n - ((n - 1) * mean + sample))
    ((n - 1) * mean - sum)
  rw [hsplit]
  calc 2 * |n * nextMean mean sample n - ((n - 1) * mean + sample) + ((n - 1) * mean - sum)|
      ≤ 2 * (n - 1) + (n - 1) * (n - 2) := by omega
    _ = n * (n - 1) := by ring

end Step

end Ksa64.Library
