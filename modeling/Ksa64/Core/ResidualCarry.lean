import Ksa64.Library.Rounding
import Ksa64.Library.Conversions
import Ksa64.Library.Run
import Ksa64.Core.Faults

/-!
# What an integration carries over

An integration hands out increments of the destination scale and keeps what the rounding leaves.  As
long as half the divisor can be added to the numerator, nothing is lost: the increments handed out and
the residual kept are together what was fed in.
-/

namespace Ksa64.Core

open Ksa64.Library

/-! ## The rounded quotient -/

/-- Half the divisor can be added to the number, or taken away from it. -/
def HalfFits (n d : Int) : Prop :=
  (0 ≤ n → n + d / 2 < 2 ^ 63) ∧ (n < 0 → -2 ^ 63 ≤ n - d / 2)

instance (n d : Int) : Decidable (HalfFits n d) := inferInstanceAs (Decidable (_ ∧ _))

theorem toInt_half {d : Int64} (hd : 0 < d.toInt) : (d / 2).toInt = d.toInt / 2 := by
  rw [Int64.toInt_div_of_ne_right _ _ (by decide), show (2 : Int64).toInt = 2 from rfl,
    Int.tdiv_eq_ediv_of_nonneg hd.le]

theorem int64_nonneg {n : Int64} : 0 ≤ n ↔ 0 ≤ n.toInt := Int64.le_iff_toInt_le

/-- A quotient by a positive number. -/
theorem toInt_div_pos {n d : Int64} (hd : 0 < d.toInt) : (n / d).toInt = n.toInt.tdiv d.toInt := by
  refine Int64.toInt_div_of_ne_right _ _ ?_
  rintro rfl
  exact absurd hd (by decide)

theorem roundedQuotient_rounds {n d : Int64} (hd : 0 < d.toInt) (hfits : HalfFits n.toInt d.toInt) :
    RoundsAway n.toInt d.toInt (roundedQuotient n d).toInt := by
  have hlt := n.toInt_lt
  have hle := n.le_toInt
  unfold roundedQuotient
  dsimp only
  by_cases hn : 0 ≤ n
  · have hnonneg := int64_nonneg.mp hn
    rw [if_pos hn, toInt_div_pos hd, Int64.toInt_add, toInt_half hd,
      Int.bmod_eq_of_le (by omega) (by have := hfits.1 hnonneg; omega)]
    exact .of_nonneg hd hnonneg
  · have hneg : n.toInt < 0 := not_le.mp (mt int64_nonneg.mpr hn)
    rw [if_neg hn, toInt_div_pos hd, Int64.toInt_sub, toInt_half hd,
      Int.bmod_eq_of_le (by have := hfits.2 hneg; omega) (by omega)]
    exact .of_nonpos hd hneg.le

/-- Where half the divisor cannot be added, the sum comes out negative. -/
theorem roundedQuotient_of_over {n d : Int64} (hd : 0 < d.toInt) (hn : 0 ≤ n.toInt)
    (hover : 2 ^ 63 ≤ n.toInt + d.toInt / 2) :
    (roundedQuotient n d).toInt = (n.toInt + d.toInt / 2 - 2 ^ 64).tdiv d.toInt := by
  have hlt := n.toInt_lt
  have hdlt := d.toInt_lt
  unfold roundedQuotient
  dsimp only
  rw [if_pos (int64_nonneg.mpr hn), toInt_div_pos hd, Int64.toInt_add, toInt_half hd]
  congr 1
  rw [Int.bmod_def]
  omega

/-- Where it cannot be taken away, the difference comes out positive. -/
theorem roundedQuotient_of_under {n d : Int64} (hd : 0 < d.toInt) (hn : n.toInt < 0)
    (hunder : n.toInt - d.toInt / 2 < -2 ^ 63) :
    (roundedQuotient n d).toInt = (n.toInt - d.toInt / 2 + 2 ^ 64).tdiv d.toInt := by
  have hle := n.le_toInt
  have hdlt := d.toInt_lt
  unfold roundedQuotient
  dsimp only
  rw [if_neg (mt int64_nonneg.mp (not_le.mpr hn)), toInt_div_pos hd, Int64.toInt_sub, toInt_half hd]
  congr 1
  rw [Int.bmod_def]
  omega

/-! ## A run of integrations -/

/-- The residual, the faults, the inputs so far and the increments handed out for them. -/
structure Carry where
  residual : Int64
  status : NumericStatus
  inputs : List (Int32 × UInt32)
  increments : List Int32
deriving DecidableEq

namespace Carry

def start : Carry where
  residual := 0
  status := .clear
  inputs := []
  increments := []

variable (shift : UInt8)

def step (c : Carry) (input : Int32 × UInt32) : Carry :=
  let ((increment, residual), status) :=
    integrateWithResidual input.1 input.2 shift c.residual c.status
  { residual := residual
    status := status
    inputs := c.inputs ++ [input]
    increments := c.increments ++ [increment] }

/-- The increments, in the scale of the numerators. -/
def handedOut (c : Carry) : Int := 2 ^ shift.toNat * (c.increments.map Int32.toInt).sum

/-- What the inputs bring in. -/
def broughtIn (c : Carry) : Int :=
  (c.inputs.map fun input ↦ input.1.toInt * (input.2.toNat : Int)).sum

/-- While no fault is recorded, what was brought in has been handed out or is in the residual, and
the residual is at most half a unit. -/
def Conserves (c : Carry) : Prop :=
  c.status.isClear = true →
    c.handedOut shift + c.residual.toInt = c.broughtIn
      ∧ 2 * |c.residual.toInt| ≤ 2 ^ shift.toNat

/-- The call records a fault. -/
def Faults (c : Carry) (input : Int32 × UInt32) : Prop :=
  (integrateWithResidual input.1 input.2 shift c.residual .clear).2.isClear = false

/-- A call that records a fault leaves the residual as it was. -/
def KeepsResidual (c : Carry) (input : Int32 × UInt32) : Prop :=
  c.Faults shift input → (c.step shift input).residual = c.residual

/-- The numerator of the next increment. -/
def numerator (c : Carry) (input : Int32 × UInt32) : Int :=
  input.1.toInt * input.2.toNat + c.residual.toInt

/-- Half a unit can be added to the numerator, if the numerator is a word at all. -/
def RoomForHalf (c : Carry) (input : Int32 × UInt32) : Prop :=
  c.status.isClear = true → 0 < shift → shift < 63 →
    -2 ^ 63 ≤ c.numerator input → c.numerator input < 2 ^ 63 →
      HalfFits (c.numerator input) (2 ^ shift.toNat)

/-! ### One integration -/

variable {shift} {rate : Int32} {dt : UInt32} {residual : Int64}

theorem toInt_denominator (hshift : shift < 63) :
    ((1 : Int64) <<< shift.toUInt64.toInt64).toInt = 2 ^ shift.toNat := by
  have hall : ∀ k < 63, ((1 : Int64) <<< (UInt8.ofNat k).toUInt64.toInt64).toInt = 2 ^ k := by
    decide
  have hbound : shift.toNat < 63 := UInt8.lt_iff_toNat_lt.mp hshift
  have hpower := hall shift.toNat hbound
  rwa [UInt8.ofNat_toNat] at hpower

/-- The numerator is the product and the residual, if they fit. -/
theorem numerator_eq_some {numerator : Int64} :
    (checkedMul rate.toInt64 dt.toUInt64.toInt64).bind (checkedAdd64 · residual) = some numerator ↔
      numerator.toInt = rate.toInt * dt.toNat + residual.toInt := by
  have hdt := dt.toNat_lt
  have hrate := rate.toInt_lt
  have hrate' := rate.le_toInt
  have hproduct : (rate.toInt64 * dt.toUInt64.toInt64).toInt = rate.toInt * dt.toNat
      ∧ ¬(rate.toInt * dt.toNat < -2 ^ 63 ∨ 2 ^ 63 ≤ rate.toInt * dt.toNat) := by
    have habove : rate.toInt * dt.toNat ≤ (2 ^ 31 - 1) * dt.toNat :=
      mul_le_mul_of_nonneg_right (by omega) (by omega)
    have hbelow : -2 ^ 31 * dt.toNat ≤ rate.toInt * dt.toNat :=
      mul_le_mul_of_nonneg_right (by omega) (by omega)
    rw [Int64.toInt_mul, Int32.toInt_toInt64, toInt_unsigned32]
    generalize rate.toInt * dt.toNat = product at *
    exact ⟨Int.bmod_eq_of_le (by omega) (by omega), by omega⟩
  unfold checkedMul
  rw [Int32.toInt_toInt64, toInt_unsigned32, if_neg hproduct.2, Option.bind_some]
  unfold checkedAdd64
  rw [hproduct.1]
  have hlt := numerator.toInt_lt
  have hle := numerator.le_toInt
  by_cases hfits : rate.toInt * dt.toNat + residual.toInt < -2 ^ 63
      ∨ 2 ^ 63 ≤ rate.toInt * dt.toNat + residual.toInt
  · rw [if_pos hfits]
    exact iff_of_false (by rintro ⟨⟩) (by omega)
  · have hsum : (rate.toInt64 * dt.toUInt64.toInt64 + residual).toInt
        = rate.toInt * dt.toNat + residual.toInt := by
      rw [Int64.toInt_add, hproduct.1]
      exact Int.bmod_eq_of_le (by omega) (by omega)
    rw [if_neg hfits, Option.some.injEq, ← Int64.toInt_inj, hsum, eq_comm]

/-- What an integration can do. -/
inductive Result (rate : Int32) (dt : UInt32) (shift : UInt8) (residual : Int64) :
    NumericM (Int32 × Int64) → Prop where
  | refused (fault : NumericFault) (hinvalid : 0 < shift → shift < 63 →
      rate.toInt * dt.toNat + residual.toInt < -2 ^ 63
        ∨ 2 ^ 63 ≤ rate.toInt * dt.toNat + residual.toInt) :
      Result rate dt shift residual fun status ↦ ((0, residual), status.record fault)
  | saturated (numerator denominator : Int64)
      (hnumerator : numerator.toInt = rate.toInt * dt.toNat + residual.toInt)
      (hdenominator : denominator.toInt = 2 ^ shift.toNat)
      (hshift : shift < 63)
      (houtside : OutsideI32 (roundedQuotient numerator denominator)) :
      Result rate dt shift residual fun status ↦ ((0, residual), status.record .saturation)
  | carried (numerator denominator : Int64)
      (hnumerator : numerator.toInt = rate.toInt * dt.toNat + residual.toInt)
      (hdenominator : denominator.toInt = 2 ^ shift.toNat)
      (hpositive : 0 < shift) (hshift : shift < 63)
      (hfits : ¬OutsideI32 (roundedQuotient numerator denominator)) :
      Result rate dt shift residual fun status ↦
        (((roundedQuotient numerator denominator).toInt32,
          numerator - roundedQuotient numerator denominator * denominator), status)

theorem integrate_result :
    Result rate dt shift residual (integrateWithResidual rate dt shift residual) := by
  unfold integrateWithResidual
  by_cases hinvalid : shift = 0 ∨ 63 ≤ shift
  · rw [if_pos hinvalid]
    refine .refused .invalidInput fun hpositive hshift ↦ ?_
    obtain rfl | hlarge := hinvalid
    · exact absurd hpositive (by decide)
    · exact absurd hshift (UInt8.not_lt.mpr hlarge)
  · rw [if_neg hinvalid]
    obtain ⟨hzero, hlarge⟩ := not_or.mp hinvalid
    have hshift := UInt8.not_le.mp hlarge
    dsimp only
    cases hsum : (checkedMul rate.toInt64 dt.toUInt64.toInt64).bind (checkedAdd64 · residual) with
    | none =>
        refine .refused .saturation fun _ _ ↦ ?_
        by_contra hfits
        have hsome := numerator_eq_some.mpr
          (Int64.toInt_ofInt_of_le (n := rate.toInt * dt.toNat + residual.toInt) (by omega) (by omega))
        cases hsum.symm.trans hsome
    | some numerator =>
        dsimp only
        have hnumerator := numerator_eq_some.mp hsum
        by_cases houtside : OutsideI32
            (roundedQuotient numerator ((1 : Int64) <<< shift.toUInt64.toInt64))
        · rw [if_pos houtside]
          exact .saturated numerator _ hnumerator (toInt_denominator hshift) hshift houtside
        · rw [if_neg houtside]
          exact .carried numerator _ hnumerator (toInt_denominator hshift)
            (UInt8.pos_iff_ne_zero.mpr hzero) hshift houtside

theorem not_outsideI32_iff {value : Int64} :
    ¬OutsideI32 value ↔ -2 ^ 31 ≤ value.toInt ∧ value.toInt < 2 ^ 31 := by
  unfold OutsideI32
  rw [not_or, Int64.not_lt, Int64.not_lt, Int64.le_iff_toInt_le, Int64.le_iff_toInt_le]
  exact and_congr_right fun _ ↦ Int.lt_add_one_iff.symm

theorem toInt_toInt32 {value : Int64} (h : ¬OutsideI32 value) :
    value.toInt32.toInt = value.toInt := by
  obtain ⟨hlow, hhigh⟩ := not_outsideI32_iff.mp h
  rw [Int64.toInt_toInt32]
  exact Int.bmod_eq_of_le (by omega) (by omega)

section Carried

variable {n d : Int64} {quotient : Int64}

/-- Nothing is lost when half a unit can be added. -/
theorem carried_exact (hd : 0 < d.toInt) (hfits : HalfFits n.toInt d.toInt) :
    (n - roundedQuotient n d * d).toInt = n.toInt - (roundedQuotient n d).toInt * d.toInt
      ∧ 2 * |(n - roundedQuotient n d * d).toInt| ≤ d.toInt := by
  have hrounds := roundedQuotient_rounds hd hfits
  have hnear := hrounds.near
  have hdlt := d.toInt_lt
  have hlt := n.toInt_lt
  have hle := n.le_toInt
  have hdistance : |n.toInt - (roundedQuotient n d).toInt * d.toInt| ≤ d.toInt / 2 := by omega
  obtain ⟨hbelow, habove⟩ := abs_le.mp hdistance
  have hresidual : (n - roundedQuotient n d * d).toInt
      = n.toInt - (roundedQuotient n d).toInt * d.toInt := by
    rw [Int64.toInt_sub, Int64.toInt_mul, Int.sub_bmod_bmod]
    exact Int.bmod_eq_of_le (by omega) (by omega)
  exact ⟨hresidual, hresidual ▸ hnear⟩

/-- A truncated quotient of a number that is not negative. -/
theorem tdiv_mul_nonneg {w d : Int} (hd : 0 < d) (hw : 0 ≤ w) :
    w - d < w.tdiv d * d ∧ w.tdiv d * d ≤ w := by
  rw [Int.tdiv_eq_ediv_of_nonneg hw]
  have hmul := Int.emod_add_mul_ediv w d
  have hmod := Int.emod_nonneg w hd.ne'
  have hlt := Int.emod_lt_of_pos w hd
  rw [mul_comm] at hmul
  omega

/-- A truncated quotient of a negative number. -/
theorem tdiv_mul_nonpos {w d : Int} (hd : 0 < d) (hw : w ≤ 0) :
    w ≤ w.tdiv d * d ∧ w.tdiv d * d < w + d := by
  obtain ⟨habove, hbelow⟩ := tdiv_mul_nonneg hd (neg_nonneg.mpr hw)
  rw [Int.neg_tdiv, neg_mul] at habove hbelow
  omega

/-- If half a unit cannot be added, the sum wraps around: the quotient is a word, but of the wrong
sign, and the residual wraps around too. -/
theorem carried_lost {k : Nat} {product residual : Int} (hd : d.toInt = 2 ^ k) (hk : k ≤ 62)
    (hn : n.toInt = product + residual) (hproduct : -2 ^ 31 * (2 ^ 32 - 1) ≤ product
      ∧ product ≤ (2 ^ 31 - 1) * (2 ^ 32 - 1))
    (hresidual : 2 * |residual| ≤ d.toInt) (hwraps : ¬HalfFits n.toInt d.toInt) :
    ¬OutsideI32 (roundedQuotient n d)
      ∧ (n - roundedQuotient n d * d).toInt ≠ n.toInt - (roundedQuotient n d).toInt * d.toInt := by
  have hpositive : 0 < d.toInt := hd ▸ pow_pos (by omega) k
  have hbound : d.toInt ≤ 2 ^ 62 := hd ▸ pow_le_pow_right₀ (by omega) hk
  obtain ⟨hlow, hhigh⟩ := abs_le.mp (show |residual| ≤ d.toInt / 2 by omega)
  have hnlt := n.toInt_lt
  have hnle := n.le_toInt
  have hrlt := (n - roundedQuotient n d * d).toInt_lt
  have hrle := (n - roundedQuotient n d * d).le_toInt
  rw [not_outsideI32_iff]
  by_cases hsign : 0 ≤ n
  · have hnonneg := int64_nonneg.mp hsign
    have hover : 2 ^ 63 ≤ n.toInt + d.toInt / 2 := by
      by_contra hfits
      exact hwraps ⟨fun _ ↦ not_le.mp hfits, fun hneg ↦ absurd hneg (not_lt.mpr hnonneg)⟩
    have hquotient := roundedQuotient_of_over hpositive hnonneg hover
    obtain ⟨habove, hbelow⟩ := tdiv_mul_nonpos hpositive
      (show n.toInt + d.toInt / 2 - 2 ^ 64 ≤ 0 by omega)
    rw [← hquotient] at habove hbelow
    have hlarge : 2 ^ 32 ≤ d.toInt := by omega
    have hmin : -2 ^ 31 * d.toInt ≤ (roundedQuotient n d).toInt * d.toInt := by omega
    have hmax : (roundedQuotient n d).toInt * d.toInt < 1 * d.toInt := by omega
    refine ⟨⟨le_of_mul_le_mul_right hmin hpositive, ?_⟩, by omega⟩
    exact (lt_of_mul_lt_mul_right hmax hpositive.le).trans (by omega)
  · have hneg : n.toInt < 0 := not_le.mp (mt int64_nonneg.mpr hsign)
    have hunder : n.toInt - d.toInt / 2 < -2 ^ 63 := by
      by_contra hfits
      exact hwraps ⟨fun hnonneg ↦ absurd hneg (not_lt.mpr hnonneg), fun _ ↦ not_lt.mp hfits⟩
    have hquotient := roundedQuotient_of_under hpositive hneg hunder
    obtain ⟨habove, hbelow⟩ := tdiv_mul_nonneg hpositive
      (show 0 ≤ n.toInt - d.toInt / 2 + 2 ^ 64 by omega)
    rw [← hquotient] at habove hbelow
    have hlarge : 2 ^ 32 ≤ d.toInt := by
      have hmore : (2 : Int) ^ 31 < 2 ^ k := by omega
      rw [hd]
      exact pow_le_pow_right₀ (by omega) ((pow_lt_pow_iff_right₀ (by omega)).mp hmore)
    have hmin : -1 * d.toInt ≤ (roundedQuotient n d).toInt * d.toInt := by omega
    have hmax : (roundedQuotient n d).toInt * d.toInt < 2 ^ 31 * d.toInt := by omega
    refine ⟨⟨?_, lt_of_mul_lt_mul_right hmax hpositive.le⟩, by omega⟩
    exact (show (-2 ^ 31 : Int) ≤ -1 by omega).trans (le_of_mul_le_mul_right hmin hpositive)

end Carried

/-! ### Runs -/

section Runs

variable {c : Carry} {input : Int32 × UInt32}

/-- The products of the inputs. -/
theorem product_bounds (rate : Int32) (dt : UInt32) :
    -2 ^ 31 * (2 ^ 32 - 1) ≤ rate.toInt * dt.toNat
      ∧ rate.toInt * dt.toNat ≤ (2 ^ 31 - 1) * (2 ^ 32 - 1) := by
  have hdt := dt.toNat_lt
  have hrate := rate.toInt_lt
  have hrate' := rate.le_toInt
  have habove : rate.toInt * dt.toNat ≤ (2 ^ 31 - 1) * dt.toNat :=
    mul_le_mul_of_nonneg_right (by omega) (by omega)
  have hbelow : -2 ^ 31 * dt.toNat ≤ rate.toInt * dt.toNat :=
    mul_le_mul_of_nonneg_right (by omega) (by omega)
  omega

theorem keepsResidual (c : Carry) (input : Int32 × UInt32) : c.KeepsResidual shift input := by
  unfold KeepsResidual Faults step
  have hresult := @integrate_result shift input.1 input.2 c.residual
  generalize integrateWithResidual input.1 input.2 shift c.residual = integration at hresult
  cases hresult with
  | refused fault hinvalid => exact fun _ ↦ rfl
  | saturated numerator denominator hnumerator hdenominator hshift houtside => exact fun _ ↦ rfl
  | carried numerator denominator hnumerator hdenominator hpositive hshift hfits => rintro ⟨⟩

/-- What is brought in and handed out by one more call. -/
theorem broughtIn_step : (c.step shift input).broughtIn = c.broughtIn + input.1.toInt * input.2.toNat := by
  show ((c.inputs ++ [input]).map _).sum = _
  rw [List.map_append, List.sum_append, List.map_singleton, List.sum_singleton]
  rfl

theorem conserves_start : start.Conserves shift := by
  rintro -
  refine ⟨?_, ?_⟩
  · simp [start, handedOut, broughtIn]
  · show 2 * |(0 : Int64).toInt| ≤ _
    rw [show (0 : Int64).toInt = 0 from rfl, abs_zero]
    exact (pow_pos (by omega) _).le

/-- A call conserves what was brought in iff half a unit can be added to its numerator. -/
theorem conserves_step_iff (h : c.Conserves shift) :
    (c.step shift input).Conserves shift ↔ c.RoomForHalf shift input := by
  have hbrought := @broughtIn_step shift c input
  have hbounds := product_bounds input.1 input.2
  unfold Conserves RoomForHalf numerator
  rw [hbrought]
  unfold step handedOut
  have hresult := @integrate_result shift input.1 input.2 c.residual
  generalize integrateWithResidual input.1 input.2 shift c.residual = integration at hresult
  cases hresult with
  | refused fault hinvalid =>
      refine iff_of_true (fun hclear ↦ ?_) fun _ hpositive hshift hlow hhigh ↦ ?_
      · exact absurd hclear (not_clear_record c.status fault)
      · obtain hunder | hover := hinvalid hpositive hshift
        · exact absurd hlow (not_le.mpr hunder)
        · exact absurd hhigh (not_lt.mpr hover)
  | saturated numerator denominator hnumerator hdenominator hshift houtside =>
      refine iff_of_true (fun hclear ↦ ?_) fun hclear hpositive _ hlow hhigh ↦ ?_
      · exact absurd hclear (not_clear_record c.status .saturation)
      · by_contra hwraps
        rw [← hnumerator, ← hdenominator] at hwraps
        exact (carried_lost hdenominator (Nat.lt_succ_iff.mp (UInt8.lt_iff_toNat_lt.mp hshift))
          hnumerator hbounds (hdenominator ▸ (h hclear).2) hwraps).1 houtside
  | carried numerator denominator hnumerator hdenominator hpositive hshift hfits =>
      dsimp only
      refine forall_congr' fun hclear ↦ ?_
      obtain ⟨hsum, hbound⟩ := h hclear
      have hquotient := toInt_toInt32 hfits
      rw [List.map_append, List.sum_append, List.map_singleton, List.sum_singleton, mul_add,
        hquotient, ← hnumerator, ← hdenominator]
      unfold handedOut at hsum
      rw [← hdenominator] at hsum hbound
      have hdpos : 0 < denominator.toInt := hdenominator ▸ pow_pos (by omega) _
      have hrest : (numerator - roundedQuotient numerator denominator * denominator).toInt
            = numerator.toInt - (roundedQuotient numerator denominator).toInt * denominator.toInt ↔
          denominator.toInt * (c.increments.map Int32.toInt).sum
              + denominator.toInt * (roundedQuotient numerator denominator).toInt
              + (numerator - roundedQuotient numerator denominator * denominator).toInt
            = c.broughtIn + input.1.toInt * input.2.toNat := by
        rw [mul_comm (roundedQuotient numerator denominator).toInt]
        omega
      rw [← hrest]
      constructor
      · rintro ⟨hexact, -⟩ - - - -
        by_contra hwraps
        exact (carried_lost hdenominator (Nat.lt_succ_iff.mp (UInt8.lt_iff_toNat_lt.mp hshift))
          hnumerator hbounds hbound hwraps).2 hexact
      · intro hroom
        exact carried_exact hdpos (hroom hpositive hshift (numerator.le_toInt) (numerator.toInt_lt))

/-- In a run of integrations with one shift, every state conserves what was brought in so far iff at
each call half a unit can be added to the numerator.  A call that records a fault keeps the residual. -/
theorem conserves_iff (shift : UInt8) (inputs : List (Int32 × UInt32)) :
    ((∀ pre post, inputs = pre ++ post → (run (step shift) start pre).Conserves shift)
        ∧ Meets (step shift) (KeepsResidual shift) start inputs)
      ↔ Meets (step shift) (RoomForHalf shift) start inputs := by
  have hkeeps : Meets (step shift) (KeepsResidual shift) start inputs :=
    meets_iff_forall.mpr fun _ _ _ _ ↦ keepsResidual _ _
  refine (and_iff_left hkeeps).trans ?_
  rw [forall_reached_iff, and_iff_right conserves_start]
  exact meets_iff_of_invariant (Conserves shift) (fun _ _ h ↦ (conserves_step_iff h).mpr)
    (fun _ _ h ↦ conserves_step_iff h) conserves_start inputs

end Runs

/-- The largest rate over the longest step, in units of `2 ^ 34`. -/
def largestInput : Int32 × UInt32 := (2147483647, 4294967295)

/-- Its sum with half a unit wraps around, no fault is recorded, and a full turn of the 64-bit word is
lost. -/
theorem wrapped_sum_is_lost :
    ∃ shift inputs, ¬((∀ pre post, inputs = pre ++ post →
        (run (step shift) start pre).Conserves shift)
      ∧ Meets (step shift) (KeepsResidual shift) start inputs) := by
  refine ⟨34, [largestInput], fun h ↦ ?_⟩
  have hconserves := h.1 [largestInput] [] rfl
  have hsum := (hconserves (by decide +kernel)).1
  revert hsum
  decide +kernel

end Carry

end Ksa64.Core
