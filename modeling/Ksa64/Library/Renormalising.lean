import Mathlib.Algebra.BigOperators.Fin
import Mathlib.Algebra.Order.BigOperators.Ring.Finset
import Mathlib.Algebra.Order.Chebyshev
import Mathlib.Algebra.Order.Ring.Int
import Mathlib.Tactic.Linarith
import Mathlib.Tactic.Ring

/-!
# Renormalising in fixed point

A quadruple of integers stands for a unit vector if its squares sum to `unit ^ 2`.  To renormalise,
the squares are rounded before they are summed, the root is rounded down, and the quotients are
rounded again (`Renormalises`).  What comes out is within `16 * unit` of the unit square if what
went in was not much shorter than a unit (`Renormalises.near`), and never much less than half of it
(`Renormalises.half`).

A step that is perpendicular up to rounding does not shorten a vector by much (`Turns.kept`), so a
vector that is turned and renormalised in turns stays a unit vector.
-/

namespace Ksa64.Library

open Finset

/-- Four integers. -/
abbrev Quadruple := Fin 4 → Int

namespace Quadruple

variable (v w : Quadruple)

/-- The sum of the squares. -/
def squares : Int := ∑ i, v i ^ 2

/-- The sum of the absolute values. -/
def extent : Int := ∑ i, |v i|

/-- The scalar product. -/
def dot : Int := ∑ i, v i * w i

variable {v w}

theorem squares_nonneg : 0 ≤ v.squares := sum_nonneg fun i _ ↦ sq_nonneg (v i)

theorem extent_nonneg : 0 ≤ v.extent := sum_nonneg fun i _ ↦ abs_nonneg (v i)

/-- The extent is at most twice the length. -/
theorem extent_sq_le : v.extent ^ 2 ≤ 4 * v.squares := by
  have h := sq_sum_le_card_mul_sum_sq (s := univ) (f := fun i ↦ |v i|)
  simp only [card_univ, Fintype.card_fin, sq_abs] at h
  exact_mod_cast h

/-- The scalar product is at most the product of the lengths. -/
theorem dot_sq_le : v.dot w ^ 2 ≤ v.squares * w.squares := sum_mul_sq_le_sq_mul_sq univ v w

/-- The scalar product with a vector of short components. -/
theorem two_mul_abs_dot_le {bound : Int} (h : ∀ i, 2 * |w i| ≤ bound) :
    2 * |v.dot w| ≤ bound * v.extent := by
  unfold dot extent
  calc 2 * |∑ i, v i * w i| ≤ 2 * ∑ i, |v i * w i| := by
        have habs := abs_sum_le_sum_abs (fun i ↦ v i * w i) univ
        linarith only [habs]
    _ = ∑ i, |v i| * (2 * |w i|) := by
        rw [mul_sum]
        refine sum_congr rfl fun i _ ↦ ?_
        rw [abs_mul]
        ring
    _ ≤ ∑ i, |v i| * bound := sum_le_sum fun i _ ↦ mul_le_mul_of_nonneg_left (h i) (abs_nonneg _)
    _ = bound * ∑ i, |v i| := by rw [← sum_mul, mul_comm]

/-- The squares of a vector of short components. -/
theorem squares_le {bound : Int} (h : ∀ i, 2 * |w i| ≤ bound) : w.squares ≤ bound ^ 2 := by
  have hcomponent : ∀ i, 4 * w i ^ 2 ≤ bound ^ 2 := by
    intro i
    calc 4 * w i ^ 2 = (2 * |w i|) ^ 2 := by rw [mul_pow, sq_abs]; ring
      _ ≤ bound ^ 2 := pow_le_pow_left₀ (by positivity) (h i) 2
  have hsum := sum_le_sum fun i (_ : i ∈ univ) ↦ hcomponent i
  rw [← mul_sum, sum_const, card_univ, Fintype.card_fin, nsmul_eq_mul] at hsum
  unfold squares
  push_cast at hsum
  linarith only [hsum]

end Quadruple

open Quadruple

/-! ## The renormalised vector -/

/-- The steps of a renormalisation: the rounded squares, the floor of the root of their sum, and the
rounded quotients. -/
structure Renormalises (unit : Int) (v v' : Quadruple) (rounded : Quadruple) (root : Int) : Prop where
  square : ∀ i, 2 * |v i ^ 2 - rounded i * unit| ≤ unit
  root_le : root ^ 2 ≤ (∑ i, rounded i) * unit
  lt_root : (∑ i, rounded i) * unit < (root + 1) ^ 2
  quotient : ∀ i, 2 * |v i * unit - v' i * root| ≤ root

namespace Renormalises

variable {unit root : Int} {v v' rounded : Quadruple}

/-- The sum of the squares is known up to two units. -/
theorem squares_near (h : Renormalises unit v v' rounded root) :
    |v.squares - (∑ i, rounded i) * unit| ≤ 2 * unit := by
  unfold squares
  rw [sum_mul, ← sum_sub_distrib]
  have habs := abs_sum_le_sum_abs (fun i ↦ v i ^ 2 - rounded i * unit) univ
  have hsum := sum_le_sum fun i (_ : i ∈ univ) ↦ h.square i
  rw [← mul_sum, sum_const, card_univ, Fintype.card_fin, nsmul_eq_mul] at hsum
  push_cast at hsum
  linarith only [habs, hsum]

/-- The squares of the quotients, by the remainders. -/
theorem squares_quotient (unit root : Int) (v v' : Quadruple) :
    v'.squares * root ^ 2 = v.squares * unit ^ 2
      - 2 * unit * v.dot (fun i ↦ v i * unit - v' i * root)
      + squares (fun i ↦ v i * unit - v' i * root) := by
  unfold squares dot
  rw [sum_mul, sum_mul, mul_sum, ← sum_sub_distrib, ← sum_add_distrib]
  refine sum_congr rfl fun i _ ↦ ?_
  ring

/-- What the remainders change. -/
theorem squares_bounds (h : Renormalises unit v v' rounded root) (hunit : 0 < unit) :
    |v'.squares * root ^ 2 - v.squares * unit ^ 2| ≤ unit * (root * v.extent) + root ^ 2 := by
  have hdot := two_mul_abs_dot_le (v := v) h.quotient
  have hsquares := squares_le h.quotient
  have hnonneg := squares_nonneg (v := fun i ↦ v i * unit - v' i * root)
  have hmul := mul_le_mul_of_nonneg_left hdot hunit.le
  rw [squares_quotient unit root v v']
  generalize v.dot (fun i ↦ v i * unit - v' i * root) = d at hdot hmul ⊢
  generalize squares (fun i ↦ v i * unit - v' i * root) = e at hsquares hnonneg ⊢
  have hscaled : |unit * d| = unit * |d| := by rw [abs_mul, abs_of_pos hunit]
  have hle := abs_le.mp (le_refl |unit * d|)
  rw [abs_le]
  constructor <;> linarith only [hmul, hscaled, hle.1, hle.2, hsquares, hnonneg]

/-- A vector that is not much shorter than a unit. -/
theorem near (h : Renormalises unit v v' rounded root) (hunit : 16 ≤ unit)
    (hroot : unit ≤ 2 * root) : |v'.squares - unit ^ 2| ≤ 16 * unit := by
  have hrootPos : 8 ≤ root := by linarith only [hunit, hroot]
  have hsquares := abs_le.mp h.squares_near
  have hlt := Int.le_sub_one_of_lt h.lt_root
  have hle := h.root_le
  have hupper : v.squares ≤ root ^ 2 + 2 * root + 2 * unit := by
    linarith only [hsquares.2, hlt]
  have hlower : root ^ 2 - 2 * unit ≤ v.squares := by linarith only [hsquares.1, hle]
  have hextent : v.extent ≤ 2 * (root + 4) := by
    have hsq : v.extent ^ 2 ≤ (2 * (root + 4)) ^ 2 := by
      refine extent_sq_le.trans ?_
      linarith only [hupper, hroot, hrootPos]
    exact abs_le_of_sq_le_sq' hsq (by linarith only [hrootPos]) |>.2
  have hbounds := abs_le.mp (h.squares_bounds (by linarith only [hunit]))
  have hunitNonneg : 0 ≤ unit := by linarith only [hunit]
  have hrootNonneg : 0 ≤ root := by linarith only [hrootPos]
  have hscaled := mul_le_mul_of_nonneg_left (mul_le_mul_of_nonneg_left hextent hrootNonneg)
    hunitNonneg
  have hupper' := mul_le_mul_of_nonneg_right hupper (sq_nonneg unit)
  have hlower' := mul_le_mul_of_nonneg_right hlower (sq_nonneg unit)
  -- every term of the error is at most so many times `unit * root ^ 2`
  have hlinear := mul_le_mul_of_nonneg_left (mul_le_mul_of_nonneg_right hroot hrootNonneg)
    hunitNonneg
  have hcubic := mul_le_mul_of_nonneg_left (pow_le_pow_left₀ hunitNonneg hroot 2) hunitNonneg
  have hshort := mul_le_mul_of_nonneg_right hrootPos (mul_nonneg hunitNonneg hrootNonneg)
  have hone := mul_le_mul_of_nonneg_right (show 1 ≤ unit by linarith only [hunit])
    (sq_nonneg root)
  have hpos : 0 < root ^ 2 := by positivity
  rw [abs_le]
  constructor
  · refine le_of_mul_le_mul_right ?_ hpos
    linarith only [hbounds.1, hscaled, hlower', hlinear, hcubic, hshort, hone, hpos]
  · have hle' : (v'.squares - unit ^ 2) * root ^ 2 ≤ 16 * unit * root ^ 2 := by
      linarith only [hbounds.2, hscaled, hupper', hlinear, hcubic, hshort, hone]
    exact le_of_mul_le_mul_right hle' hpos

/-- The rounded squares at most double the squares. -/
theorem sum_rounded_le (h : Renormalises unit v v' rounded root) (hunit : 0 < unit) :
    (∑ i, rounded i) * unit ≤ 2 * v.squares := by
  unfold squares
  rw [sum_mul, mul_sum]
  refine sum_le_sum fun i _ ↦ ?_
  have hsquare := (abs_le.mp (show |v i ^ 2 - rounded i * unit| ≤ unit / 2 by
    have := h.square i
    omega)).1
  have hhalf : 2 * (unit / 2) ≤ unit := Int.mul_ediv_self_le (by decide)
  obtain hle | hgt := le_or_gt (rounded i) 0
  · calc rounded i * unit ≤ 0 := mul_nonpos_of_nonpos_of_nonneg hle hunit.le
      _ ≤ 2 * v i ^ 2 := mul_nonneg (by decide) (sq_nonneg _)
  · have hone : unit ≤ rounded i * unit := le_mul_of_one_le_left hunit.le hgt
    linarith only [hsquare, hhalf, hone]

/-- A vector that is too short is at least made half a unit long. -/
theorem half (h : Renormalises unit v v' rounded root) (hunit : 97 ≤ unit) (hroot : 0 < root) :
    31 * unit ^ 2 ≤ 64 * v'.squares := by
  have hpositive : 0 < unit := by linarith only [hunit]
  have hshort : root ^ 2 ≤ 2 * v.squares := h.root_le.trans (h.sum_rounded_le hpositive)
  have hextent : root * v.extent ≤ 3 * v.squares := by
    have hsq : (root * v.extent) ^ 2 ≤ (3 * v.squares) ^ 2 := by
      calc (root * v.extent) ^ 2 = root ^ 2 * v.extent ^ 2 := mul_pow _ _ _
        _ ≤ 2 * v.squares * (4 * v.squares) :=
          mul_le_mul hshort extent_sq_le (sq_nonneg _)
            (mul_nonneg (by decide) squares_nonneg)
        _ = 8 * v.squares ^ 2 := by ring
        _ ≤ (3 * v.squares) ^ 2 := by
          have := sq_nonneg v.squares
          linarith only [this]
    exact (abs_le_of_sq_le_sq' hsq (mul_nonneg (by decide) squares_nonneg)).2
  have hbounds := (abs_le.mp (h.squares_bounds hpositive)).1
  have hscaled := mul_le_mul_of_nonneg_left hextent hpositive.le
  have hlong : 97 * (unit * v.squares) ≤ unit * (unit * v.squares) :=
    mul_le_mul_of_nonneg_right hunit (mul_nonneg hpositive.le squares_nonneg)
  have hunit' : 97 * v.squares ≤ unit * v.squares :=
    mul_le_mul_of_nonneg_right hunit squares_nonneg
  have hshort' := mul_le_mul_of_nonneg_right hshort (sq_nonneg unit)
  have hnonneg := squares_nonneg (v := v)
  refine le_of_mul_le_mul_right ?_ (show 0 < root ^ 2 by positivity)
  linarith only [hbounds, hscaled, hlong, hunit', hshort', hshort, hnonneg]

end Renormalises

/-! ## Turning -/

/-- A vector times a time step: the exact product is perpendicular to the vector, each component is
the sum of three rounded products, and the scaled component is rounded again. -/
structure Turns (unit divisor time : Int) (v product rate w : Quadruple) : Prop where
  perpendicular : v.dot product = 0
  rated : ∀ i, 2 * |product i - rate i * unit| ≤ 3 * unit
  scaled : ∀ i, 2 * |rate i * time - w i * divisor| ≤ divisor

section Turns

variable {unit divisor time : Int} {v product rate w : Quadruple}

/-- What the rounding moves along the vector. -/
theorem Turns.dot_le (h : Turns unit divisor time v product rate w) (hunit : 0 < unit)
    (htime : 0 ≤ time) (hdivisor : 0 ≤ divisor) :
    2 * (divisor * |v.dot w|) ≤ (3 * time + divisor) * v.extent := by
  have hrated := two_mul_abs_dot_le (v := v) h.rated
  have hscaled := two_mul_abs_dot_le (v := v) h.scaled
  have hsplit : unit * (divisor * v.dot w)
      = -(time * v.dot (fun i ↦ product i - rate i * unit))
        - unit * v.dot (fun i ↦ rate i * time - w i * divisor) := by
    have hzero : time * v.dot product = 0 := by rw [h.perpendicular, mul_zero]
    rw [← sub_eq_zero, ← hzero]
    unfold dot
    rw [mul_sum, mul_sum, mul_sum, mul_sum, mul_sum, ← sum_neg_distrib, ← sum_sub_distrib,
      ← sum_sub_distrib]
    refine sum_congr rfl fun i _ ↦ ?_
    ring
  generalize v.dot (fun i ↦ product i - rate i * unit) = a at hrated hsplit
  generalize v.dot (fun i ↦ rate i * time - w i * divisor) = b at hscaled hsplit
  have habs : unit * (divisor * |v.dot w|) ≤ time * |a| + unit * |b| := by
    calc unit * (divisor * |v.dot w|) = |unit * (divisor * v.dot w)| := by
          rw [abs_mul, abs_mul, abs_of_pos hunit, abs_of_nonneg hdivisor]
      _ ≤ |time * a| + |unit * b| := by
          rw [hsplit, ← abs_neg (time * a)]
          exact abs_sub _ _
      _ = time * |a| + unit * |b| := by
          rw [abs_mul, abs_mul, abs_of_pos hunit, abs_of_nonneg htime]
  have hrated' := mul_le_mul_of_nonneg_left hrated htime
  have hscaled' := mul_le_mul_of_nonneg_left hscaled hunit.le
  refine le_of_mul_le_mul_left ?_ hunit
  linarith only [habs, hrated', hscaled']

/-- A step that hardly changes the length along the vector does not shorten it by much. -/
theorem squares_kept (hturn : 128 * |v.dot w| ≤ v.squares) (hpos : 0 < v.squares) :
    127 ^ 2 * v.squares ≤ 128 ^ 2 * squares (v + w) := by
  have halong : v.dot (v + w) = v.squares + v.dot w := by
    unfold dot squares
    rw [← sum_add_distrib]
    refine sum_congr rfl fun i _ ↦ ?_
    show v i * (v i + w i) = _
    ring
  have hdot := dot_sq_le (v := v) (w := v + w)
  have hlow := (abs_le.mp (le_refl |v.dot w|)).1
  have hlong : 127 * v.squares ≤ 128 * v.dot (v + w) := by
    rw [halong]
    linarith only [hturn, hlow]
  have hsq : (127 * v.squares) ^ 2 ≤ (128 * v.dot (v + w)) ^ 2 :=
    pow_le_pow_left₀ (by linarith only [hpos]) hlong 2
  refine le_of_mul_le_mul_right ?_ hpos
  linarith only [hdot, hsq]

/-- A vector of at least half a unit is short against its extent. -/
theorem extent_le_squares (h : unit ^ 2 ≤ 4 * v.squares) : v.extent * unit ≤ 4 * v.squares := by
  have hsq : (v.extent * unit) ^ 2 ≤ (4 * v.squares) ^ 2 := by
    calc (v.extent * unit) ^ 2 = v.extent ^ 2 * unit ^ 2 := mul_pow _ _ _
      _ ≤ 4 * v.squares * (4 * v.squares) :=
        mul_le_mul extent_sq_le h (sq_nonneg _) (mul_nonneg (by decide) squares_nonneg)
      _ = (4 * v.squares) ^ 2 := by ring
  exact (abs_le_of_sq_le_sq' hsq (mul_nonneg (by decide) squares_nonneg)).2

end Turns

end Ksa64.Library
