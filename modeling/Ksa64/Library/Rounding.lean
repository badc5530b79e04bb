import Mathlib.Algebra.Order.Ring.Int
import Mathlib.Data.Rat.Floor
import Mathlib.Tactic.FieldSimp
import Mathlib.Tactic.Linarith
import Mathlib.Tactic.Ring

/-!
# Rounding to nearest

`RoundsAway n d q` is that `q` is the integer nearest to `n / d`, and of two that are as near the one
further from zero.  There is one such integer, the opposite of a fraction rounds to the opposite, and
adding half the divisor before a division that truncates finds it.
-/

namespace Ksa64.Library

/-- The integer is nearest to the fraction, with ties away from zero. -/
structure RoundsAway (n d q : Int) : Prop where
  near : 2 * |n - q * d| ≤ d
  away : 2 * |n - q * d| = d → |n| ≤ |q * d|

namespace RoundsAway

variable {n d q r : Int}

/-- The opposite fraction rounds to the opposite integer. -/
theorem neg (h : RoundsAway n d q) : RoundsAway (-n) d (-q) := by
  have hdistance : |-n - -q * d| = |n - q * d| := by
    rw [← abs_neg]
    congr 1
    ring
  constructor
  · rw [hdistance]
    exact h.near
  · rw [hdistance, abs_neg, neg_mul, abs_neg]
    exact h.away

/-- The next integer up is not as good. -/
theorem not_succ (hd : 0 < d) (h : RoundsAway n d q) : ¬RoundsAway n d (q + 1) := by
  intro hsucc
  have hlow := abs_le.mp (show |n - q * d| ≤ d / 2 by have := h.near; omega)
  have hhigh := abs_le.mp (show |n - (q + 1) * d| ≤ d / 2 by have := hsucc.near; omega)
  have hexpand : (q + 1) * d = q * d + d := by ring
  rw [hexpand] at hhigh
  have hmiddle : 2 * (n - q * d) = d := by omega
  have haway := h.away (by rw [abs_of_nonneg (by omega)]; exact hmiddle)
  have haway' := hsucc.away (by
    rw [hexpand, abs_of_nonpos (by omega)]
    omega)
  rw [hexpand] at haway'
  obtain hq | hq := le_or_gt 0 q
  · have hqd : 0 ≤ q * d := mul_nonneg hq hd.le
    rw [abs_of_nonneg hqd, abs_of_nonneg (by omega)] at haway
    omega
  · have hqd : (q + 1) * d ≤ 0 := mul_nonpos_of_nonpos_of_nonneg (by omega) hd.le
    rw [hexpand] at hqd
    rw [abs_of_nonpos hqd, abs_of_nonpos (by omega)] at haway'
    omega

/-- A fraction rounds to one integer. -/
theorem unique (hd : 0 < d) (h : RoundsAway n d q) (h' : RoundsAway n d r) : q = r := by
  have hq := abs_le.mp (show |n - q * d| ≤ d / 2 by have := h.near; omega)
  have hr := abs_le.mp (show |n - r * d| ≤ d / 2 by have := h'.near; omega)
  have hbelow : (q - r) * d < 2 * d := by rw [sub_mul]; omega
  have habove : (r - q) * d < 2 * d := by rw [sub_mul]; omega
  have hbelow' := lt_of_mul_lt_mul_right hbelow hd.le
  have habove' := lt_of_mul_lt_mul_right habove hd.le
  rcases (show q = r ∨ r = q + 1 ∨ q = r + 1 by omega) with heq | rfl | rfl
  · exact heq
  · exact absurd h' (not_succ hd h)
  · exact absurd h (not_succ hd h')

/-- Half the divisor is added before the division. -/
theorem of_nonneg (hd : 0 < d) (hn : 0 ≤ n) : RoundsAway n d ((n + d / 2).tdiv d) := by
  rw [Int.tdiv_eq_ediv_of_nonneg (by omega)]
  have hmul := Int.emod_add_mul_ediv (n + d / 2) d
  have hmod := Int.emod_nonneg (n + d / 2) hd.ne'
  have hlt := Int.emod_lt_of_pos (n + d / 2) hd
  have hquotient := Int.ediv_nonneg (show 0 ≤ n + d / 2 by omega) hd.le
  have hproduct : 0 ≤ (n + d / 2) / d * d := mul_nonneg hquotient hd.le
  rw [mul_comm] at hmul
  constructor
  · generalize (n + d / 2) / d * d = p at *
    have hdistance : |n - p| ≤ d / 2 := abs_le.mpr (by omega)
    omega
  · intro htie
    rw [abs_of_nonneg hn, abs_of_nonneg hproduct]
    generalize (n + d / 2) / d * d = p at *
    obtain hle | hgt := le_or_gt n p
    · exact hle
    · rw [abs_of_pos (by omega)] at htie
      omega

/-- For a negative number it is taken away. -/
theorem of_nonpos (hd : 0 < d) (hn : n ≤ 0) : RoundsAway n d ((n - d / 2).tdiv d) := by
  have hneg := (of_nonneg hd (neg_nonneg.mpr hn)).neg
  rw [neg_neg, ← Int.neg_tdiv] at hneg
  rwa [show n - d / 2 = -(-n + d / 2) by ring]

theorem self (n : Int) : RoundsAway n 1 n := by
  constructor <;> simp

end RoundsAway

/-- Every fraction rounds to an integer. -/
theorem exists_roundsAway {d : Int} (hd : 0 < d) (n : Int) : ∃ q, RoundsAway n d q := by
  obtain hn | hn := le_total 0 n
  · exact ⟨_, .of_nonneg hd hn⟩
  · exact ⟨_, .of_nonpos hd hn⟩

/-! ## The integer itself -/

/-- The integer nearest to the fraction, of two the one further from zero. -/
def roundAway (n d : Int) : Int :=
  if n < 0 then -((-2 * n + d) / (2 * d)) else (2 * n + d) / (2 * d)

theorem roundAway_nonneg {n d : Int} (hn : 0 ≤ n) (hd : 0 < d) : 0 ≤ roundAway n d := by
  unfold roundAway
  rw [if_neg (not_lt.mpr hn)]
  exact Int.ediv_nonneg (by omega) (by omega)

theorem roundAway_nonpos {n d : Int} (hn : n ≤ 0) (hd : 0 < d) : roundAway n d ≤ 0 := by
  unfold roundAway
  split_ifs with hneg
  · exact neg_nonpos.mpr (Int.ediv_nonneg (by omega) (by omega))
  · rw [show n = 0 by omega, mul_zero, zero_add, Int.ediv_eq_zero_of_lt (by omega) (by omega)]

theorem roundAway_one (n : Int) : roundAway n 1 = n := by
  unfold roundAway
  split_ifs <;> omega

/-- A common factor cancels. -/
theorem roundAway_mul {c : Int} (hc : 0 < c) (n d : Int) :
    roundAway (n * c) (d * c) = roundAway n d := by
  have hsum : ∀ m : Int, 2 * (m * c) + d * c = (2 * m + d) * c := fun m ↦ by ring
  have hdouble : 2 * (d * c) = 2 * d * c := by ring
  have hneg : n * c < 0 ↔ n < 0 :=
    ⟨fun h ↦ neg_of_mul_neg_left h hc.le, fun h ↦ mul_neg_of_neg_of_pos h hc⟩
  have hminus : -2 * (n * c) + d * c = (-2 * n + d) * c := by ring
  unfold roundAway
  rw [hsum, hminus, hdouble, Int.mul_ediv_mul_of_pos_left _ _ hc,
    Int.mul_ediv_mul_of_pos_left _ _ hc]
  exact ite_congr (propext hneg) (fun _ ↦ rfl) (fun _ ↦ rfl)

/-- A common factor of two magnitudes cancels. -/
theorem roundAway_signed_mul {c : Nat} (hc : 0 < c) (negative : Bool) (p d : Nat) :
    roundAway (if negative then -((p * c : Nat) : Int) else (p * c : Nat)) ((d * c : Nat) : Int)
      = roundAway (if negative then -(p : Int) else p) d := by
  have hcancel := fun n ↦ roundAway_mul (Int.natCast_pos.mpr hc) n d
  push_cast
  cases negative with
  | false => exact hcancel p
  | true =>
    simp only [if_true]
    rw [← hcancel (-p), neg_mul]

/-- The rounded fraction of a magnitude with a sign. -/
theorem roundAway_signed {p d : Nat} (hd : 0 < d) (negative : Bool) :
    roundAway (if negative then -(p : Int) else p) d
      = if negative then -(((2 * p + d) / (2 * d) : Nat) : Int) else ((2 * p + d) / (2 * d) : Nat) := by
  have hzero : (d : Int) / (2 * d) = 0 := Int.ediv_eq_zero_of_lt (by omega) (by omega)
  unfold roundAway
  push_cast
  cases negative with
  | false =>
    simp only [Bool.false_eq_true, if_false]
    rw [if_neg (by omega)]
  | true =>
    simp only [if_true]
    split_ifs with hneg
    · rw [neg_mul_neg]
    · rw [show p = 0 by omega, Nat.cast_zero, neg_zero, mul_zero, zero_add, hzero, neg_zero]

/-- Rounding keeps the order. -/
theorem roundAway_mono {n m d : Int} (hd : 0 < d) (h : n ≤ m) : roundAway n d ≤ roundAway m d := by
  obtain hn | hn := lt_or_ge n 0
  · obtain hm | hm := lt_or_ge m 0
    · unfold roundAway
      rw [if_pos hn, if_pos hm]
      exact neg_le_neg (Int.ediv_le_ediv (by omega) (by omega))
    · exact (roundAway_nonpos hn.le hd).trans (roundAway_nonneg hm hd)
  · unfold roundAway
    rw [if_neg (not_lt.mpr hn), if_neg (not_lt.mpr (hn.trans h))]
    exact Int.ediv_le_ediv (by omega) (by omega)

/-- A multiple of the divisor is not rounded. -/
theorem roundAway_multiple {d : Int} (hd : 0 < d) (n : Int) : roundAway (n * d) d = n := by
  have hcancel := roundAway_mul hd n 1
  rwa [one_mul, roundAway_one] at hcancel

/-- A part of a number is between zero and the number, rounded or not. -/
theorem roundAway_part {n f d : Int} (hd : 0 < d) (hf : 0 ≤ f) (hf' : f ≤ d) :
    min 0 n ≤ roundAway (n * f) d ∧ roundAway (n * f) d ≤ max 0 n := by
  obtain hn | hn := le_total 0 n
  · rw [min_eq_left hn, max_eq_right hn]
    refine ⟨roundAway_nonneg (mul_nonneg hn hf) hd, ?_⟩
    calc roundAway (n * f) d ≤ roundAway (n * d) d :=
          roundAway_mono hd (mul_le_mul_of_nonneg_left hf' hn)
      _ = n := roundAway_multiple hd n
  · rw [min_eq_right hn, max_eq_left hn]
    refine ⟨?_, roundAway_nonpos (mul_nonpos_of_nonpos_of_nonneg hn hf) hd⟩
    calc n = roundAway (n * d) d := (roundAway_multiple hd n).symm
      _ ≤ roundAway (n * f) d := roundAway_mono hd (mul_le_mul_of_nonpos_left hf' hn)

/-! ## Rationals -/

/-- The integer nearest to a rational number, of two the one further from zero. -/
def nearest (x : ℚ) : Int := if x < 0 then -⌊-x + 1 / 2⌋ else ⌊x + 1 / 2⌋

theorem abs_sub_nearest_le (x : ℚ) : |x - nearest x| ≤ 1 / 2 := by
  unfold nearest
  split_ifs with h
  · have hle := Int.floor_le (-x + 1 / 2)
    have hlt := Int.lt_floor_add_one (-x + 1 / 2)
    push_cast
    rw [abs_le]
    constructor <;> linarith only [hle, hlt]
  · have hle := Int.floor_le (x + 1 / 2)
    have hlt := Int.lt_floor_add_one (x + 1 / 2)
    rw [abs_le]
    constructor <;> linarith only [hle, hlt]

/-- A number in the middle of two integers goes to the one further from zero. -/
theorem abs_le_nearest (x : ℚ) (h : |x - nearest x| = 1 / 2) : |x| ≤ |(nearest x : ℚ)| := by
  unfold nearest at h ⊢
  split_ifs at h ⊢ with hneg
  · have hlt := Int.lt_floor_add_one (-x + 1 / 2)
    push_cast at h ⊢
    have htie : x - -(⌊-x + 1 / 2⌋ : ℚ) = 1 / 2 := by
      refine (abs_eq (by norm_num)).mp h |>.resolve_right fun hother ↦ ?_
      linarith only [hother, hlt]
    rw [abs_of_neg hneg, abs_neg]
    exact le_trans (by linarith only [htie]) (le_abs_self _)
  · have hlt := Int.lt_floor_add_one (x + 1 / 2)
    have htie : x - (⌊x + 1 / 2⌋ : ℚ) = -(1 / 2) := by
      refine (abs_eq (by norm_num)).mp h |>.resolve_left fun hother ↦ ?_
      linarith only [hother, hlt]
    rw [abs_of_nonneg (not_lt.mp hneg)]
    exact le_trans (by linarith only [htie]) (le_abs_self _)

/-- The integer nearest to a fraction. -/
theorem nearest_div {d : Nat} (hd : 0 < d) (n : Int) : nearest (n / d) = roundAway n d := by
  have hd' : (0 : ℚ) < d := Nat.cast_pos.mpr hd
  have hfloor : ∀ m : Int, ⌊(m / d : ℚ) + 1 / 2⌋ = (2 * m + d) / (2 * d) := by
    intro m
    rw [show (m / d : ℚ) + 1 / 2 = ((2 * m + d : Int) : ℚ) / ((2 * d : Nat) : ℚ) by
      push_cast
      field_simp, Rat.floor_intCast_div_natCast]
    push_cast
    rfl
  unfold nearest roundAway
  have hneg : (n / d : ℚ) < 0 ↔ n < 0 := by
    rw [div_lt_iff₀ hd', zero_mul]
    exact Int.cast_lt_zero
  split_ifs with h h' h'
  · rw [← neg_div, ← Int.cast_neg, hfloor, neg_mul, mul_neg]
  · exact absurd (hneg.mp h) h'
  · exact absurd (hneg.mpr h') h
  · exact hfloor n

end Ksa64.Library
