import Ksa64.Core.ScaledArithmetic

/-!
# Reduced divisions

Where a divisor is known to be small, or to have a power of two as a factor, the division brings
down fewer bits.  The bits that are left out are those of the quotient that would be zero, and the
factor is one of the numerator too, so what is found is what the division in full finds.
-/

namespace Ksa64.Core

open Ksa64.Library

/-! ## The divisions -/

/-- The loop over the bits of one word. -/
def divideUnsigned32By16Loop (numerator divisor : UInt32) :
    Nat → UInt32 → UInt32 → UInt32 × UInt32
  | 0, quotient, remainder => (quotient, remainder)
  | position + 1, quotient, remainder =>
      let remainder := (remainder <<< 1) ||| ((numerator >>> UInt32.ofNat position) &&& 1)
      if divisor ≤ remainder then
        divideUnsigned32By16Loop numerator divisor position
          (quotient ||| (1 <<< UInt32.ofNat position)) (remainder - divisor)
      else divideUnsigned32By16Loop numerator divisor position quotient remainder

def divideUnsigned32By16 (numerator : UInt32) (denominator : UInt16) : UInt32 × UInt16 :=
  let result := divideUnsigned32By16Loop numerator denominator.toUInt32 32 0 0
  (result.1, result.2.toUInt16)

/-- A fraction of whole units, with sixteen binary places. -/
def divideUnsignedFractionQ16IntegralQ12 (numeratorQ12 denominatorQ12 : Int32) : NumericM Int32 :=
  if numeratorQ12 < 0 ∨ denominatorQ12 ≤ 0 ∨ denominatorQ12 ≤ numeratorQ12
      ∨ denominatorQ12 &&& 0x0fff ≠ 0 ∨ (65535 : Int32) < denominatorQ12 >>> 12
      ∨ 0x0fffffff < numeratorQ12 then do
    recordFault .invalidInput
    pure 0
  else
    let scaledNumerator := numeratorQ12.toUInt32 <<< 4
    let denominatorUnits := (denominatorQ12 >>> 12).toUInt32.toUInt16
    let result := divideUnsigned32By16 scaledNumerator denominatorUnits
    let quotient :=
      if denominatorUnits.toUInt32 - result.2.toUInt32 ≤ result.2.toUInt32 then result.1 + 1
      else result.1
    pure quotient.toInt32

/-- The division in full, from a given bit on and by half a word. -/
def divideUnsigned64By16Bits (numerator : Unsigned64) (denominator : UInt16) (bitCount : UInt8) :
    Unsigned64 × UInt16 :=
  let result := divideUnsigned64By32Loop numerator denominator.toUInt32 bitCount.toNat ⟨0, 0⟩ 0
  (result.1, result.2.toUInt16)

/-- The bits below the power of two. -/
def reductionMask (denominatorReduction : UInt8) : UInt32 :=
  if denominatorReduction = 0 then 0 else (1 <<< denominatorReduction.toUInt32) - 1

/-- The quotient without a common power of two, if the divisor is then half a word. -/
def divideScaledReducedU16 (shift denominatorReduction numeratorBits : UInt8)
    (numerator denominator : Int32) : NumericM Int32 :=
  if 31 < shift ∨ shift < denominatorReduction ∨ numeratorBits = 0 ∨ 32 < numeratorBits
      ∨ 64 < numeratorBits + shift - denominatorReduction then
    divideScaled numerator denominator shift
  else
    let divisor := magnitude denominator
    let reducedDivisor := divisor >>> denominatorReduction.toUInt32
    let numeratorMagnitude := magnitude numerator
    let numeratorFits :=
      numeratorBits = 32 ∨ numeratorMagnitude < 1 <<< numeratorBits.toUInt32
    if denominator = 0 ∨ divisor &&& reductionMask denominatorReduction ≠ 0 ∨ reducedDivisor = 0
        ∨ 65535 < reducedDivisor ∨ ¬numeratorFits then
      divideScaled numerator denominator shift
    else
      let reducedShift := shift - denominatorReduction
      let shifted := shiftLeft32 numeratorMagnitude reducedShift
      let bitCount := numeratorBits + reducedShift
      let result := divideUnsigned64By16Bits shifted reducedDivisor.toUInt16 bitCount
      let quotient :=
        if reducedDivisor - result.2.toUInt32 ≤ result.2.toUInt32 then increment result.1
        else result.1
      signedFromMagnitude quotient ((numerator < 0) != (denominator < 0))

/-! ## Operations on rationals -/

section Rounds

variable {a b : Int32} {shift : UInt8} {s : NumericStatus}

/-- A product of words is the rational one, rounded. -/
theorem multiplyScaled_rounds (hshift : shift.toNat ≤ 31) :
    (multiplyScaled a b shift).run s
      = settled (nearest (a.toInt * b.toInt / 2 ^ shift.toNat)) s := by
  have hnearest := nearest_div (Nat.two_pow_pos shift.toNat) (a.toInt * b.toInt)
  push_cast at hnearest
  rw [hnearest]
  obtain hzero | hpos := Nat.eq_zero_or_pos shift.toNat
  · have hshift₀ : shift = 0 := UInt8.toNat_inj.mp hzero
    have hproduct : (shiftRight (multiplyUnsigned32 (magnitude a) (magnitude b)) 0).toNat
        = a.toInt.natAbs * b.toInt.natAbs := by
      rw [← magnitude_toNat, ← magnitude_toNat, ← multiplyUnsigned32_toNat]
      rfl
    subst hshift₀
    show signedFromMagnitude (shiftRight (multiplyUnsigned32 (magnitude a) (magnitude b)) 0)
      (decide (a < 0) != decide (b < 0)) s = _
    rw [signedFromMagnitude_settled, hproduct, decide_neg, decide_neg, ← signed_product]
    exact congrArg (settled · s) (roundAway_one _).symm
  · exact multiplyScaled_settled hpos hshift

/-- A quotient by magnitudes. -/
theorem signed_div (x y : Int) : (x / y : ℚ)
    = ((if decide (x < 0) != decide (y < 0) then -(x.natAbs : Int) else x.natAbs : Int) : ℚ)
      / (y.natAbs : ℚ) := by
  have habs : ∀ z : Int, ((z.natAbs : ℕ) : ℚ) = |(z : ℚ)| := fun z ↦ Nat.cast_natAbs z |>.trans (by
    push_cast
    rfl)
  rw [apply_ite (fun z : Int ↦ (z : ℚ)), habs]
  push_cast
  obtain hx | hx := lt_or_ge x 0 <;> obtain hy | hy := lt_or_ge y 0
  · have hx' : (x : ℚ) < 0 := Int.cast_lt_zero.mpr hx
    have hy' : (y : ℚ) < 0 := Int.cast_lt_zero.mpr hy
    rw [decide_eq_true hx, decide_eq_true hy, if_neg (by decide), abs_of_neg hx', abs_of_neg hy',
      neg_div_neg_eq]
  · have hx' : (x : ℚ) < 0 := Int.cast_lt_zero.mpr hx
    have hy' : (0 : ℚ) ≤ y := Int.cast_nonneg hy
    rw [decide_eq_true hx, decide_eq_false (not_lt.mpr hy), if_pos (by decide), abs_of_neg hx',
      abs_of_nonneg hy', neg_neg]
  · have hx' : (0 : ℚ) ≤ x := Int.cast_nonneg hx
    have hy' : (y : ℚ) < 0 := Int.cast_lt_zero.mpr hy
    rw [decide_eq_false (not_lt.mpr hx), decide_eq_true hy, if_pos (by decide), abs_of_nonneg hx',
      abs_of_neg hy', neg_div_neg_eq]
  · have hx' : (0 : ℚ) ≤ x := Int.cast_nonneg hx
    have hy' : (0 : ℚ) ≤ y := Int.cast_nonneg hy
    rw [decide_eq_false (not_lt.mpr hx), decide_eq_false (not_lt.mpr hy), if_neg (by decide),
      abs_of_nonneg hx', abs_of_nonneg hy']

/-- A quotient of words is the rational one, rounded. -/
theorem divideScaled_rounds (hb : b ≠ 0) (hshift : shift.toNat ≤ 31) :
    (divideScaled a b shift).run s
      = settled (nearest (a.toInt * 2 ^ shift.toNat / b.toInt)) s := by
  have hzero : b.toInt ≠ 0 := fun h ↦ hb (Int32.toInt_inj.mp h)
  have hsigned := signed_div a.toInt b.toInt
  rw [← decide_neg, ← decide_neg] at hsigned
  have hquotient : (a.toInt * 2 ^ shift.toNat / b.toInt : ℚ)
      = ((if decide (a < 0) != decide (b < 0) then -((a.toInt.natAbs * 2 ^ shift.toNat : Nat) : Int)
          else (a.toInt.natAbs * 2 ^ shift.toNat : Nat) : Int) : ℚ) / (b.toInt.natAbs : ℚ) := by
    rw [mul_div_right_comm, hsigned]
    cases decide (a < 0) != decide (b < 0) with
    | false =>
      simp only [Bool.false_eq_true, if_false]
      push_cast
      ring
    | true =>
      simp only [if_true]
      push_cast
      ring
  rw [divideScaled_signed hb hshift, hquotient, nearest_div (Int.natAbs_pos.mpr hzero)]

end Rounds

/-! ## Fewer bits -/

section Narrow

variable {n q : Unsigned64} {d r : UInt32} {w : UInt32}

/-- The bits above the first one brought down are zero. -/
theorem divideUnsigned64By32Loop_toNat {bits : Nat} (hd : 0 < d.toNat) (hd' : d.toNat ≤ 2 ^ 31)
    (hbits : bits ≤ 64) (hn : n.toNat < 2 ^ bits) :
    (divideUnsigned64By32Loop n d bits ⟨0, 0⟩ 0).1.toNat = n.toNat / d.toNat ∧
      (divideUnsigned64By32Loop n d bits ⟨0, 0⟩ 0).2.toNat = n.toNat % d.toNat := by
  have hstart : Divides n ⟨0, 0⟩ d 0 bits := by
    have hnone : n.toNat / 2 ^ bits = 0 := Nat.div_eq_of_lt hn
    constructor
    · rw [hnone, Nat.zero_div, Nat.zero_mul]
      rfl
    · rw [hnone, Nat.zero_mod]
      rfl
  have hfinal := divideUnsigned64By32Loop_divides hd hd' hbits hstart
  have hquotient := hfinal.quotient
  have hremainder := hfinal.remainder
  rw [pow_zero, Nat.div_one] at hquotient hremainder
  rw [Nat.mul_one] at hquotient
  exact ⟨hquotient, hremainder⟩

/-- The loop over one word is the loop over two of which the high one is zero. -/
theorem divideUnsigned32By16Loop_eq {position : Nat} (hposition : position ≤ 32) :
    ∀ q r : UInt32, divideUnsigned64By32Loop ⟨w, 0⟩ d position ⟨q, 0⟩ r
      = (⟨(divideUnsigned32By16Loop w d position q r).1, 0⟩,
        (divideUnsigned32By16Loop w d position q r).2) := by
  induction position with
  | zero => exact fun _ _ ↦ rfl
  | succ position ih =>
    intro q r
    have hbit : bitAt ⟨w, 0⟩ position = (w >>> UInt32.ofNat position) &&& 1 :=
      if_pos (Nat.lt_of_succ_le hposition)
    have hset : setBit ⟨q, 0⟩ position = ⟨q ||| (1 <<< UInt32.ofNat position), 0⟩ :=
      if_pos (Nat.lt_of_succ_le hposition)
    unfold divideUnsigned64By32Loop divideUnsigned32By16Loop
    dsimp only
    rw [hbit, hset]
    split_ifs
    · exact ih (Nat.le_of_succ_le hposition) _ _
    · exact ih (Nat.le_of_succ_le hposition) _ _

/-- The division of one word by half a word. -/
theorem divideUnsigned32By16_toNat {d : UInt16} (hd : 0 < d.toNat) :
    (divideUnsigned32By16 w d).1.toNat = w.toNat / d.toNat ∧
      (divideUnsigned32By16 w d).2.toNat = w.toNat % d.toNat := by
  have hvalue : ∀ v : UInt32, (⟨v, 0⟩ : Unsigned64).toNat = v.toNat := fun v ↦ by
    show 0 * 2 ^ 32 + v.toNat = _
    rw [Nat.zero_mul, Nat.zero_add]
  have hsize := d.toNat_lt
  have hd' : d.toUInt32.toNat = d.toNat := rfl
  obtain ⟨hquotient, hremainder⟩ := @divideUnsigned64By32Loop_toNat ⟨w, 0⟩ d.toUInt32 32
    (by omega) (by omega) (by decide) ((hvalue w).trans_lt w.toNat_lt)
  rw [divideUnsigned32By16Loop_eq le_rfl, hvalue w, hd'] at hquotient hremainder
  constructor
  · exact (hvalue _).symm.trans hquotient
  · have hmod := Nat.mod_lt w.toNat hd
    show (divideUnsigned32By16Loop w d.toUInt32 32 0 0).2.toNat % 2 ^ 16 = _
    rw [hremainder]
    exact Nat.mod_eq_of_lt (hmod.trans hsize)

end Narrow

/-! ## Fractions of whole units -/

section Fractions

variable {a n d : Int32} {s : NumericStatus}

/-- What the division of fractions takes: a proper fraction whose divisor is a number of whole
units that half a word counts. -/
structure ProperFraction (n d : Int32) : Prop where
  nonneg : 0 ≤ n.toInt
  proper : n.toInt < d.toInt
  whole : d.toInt % 2 ^ 12 = 0
  units : d.toInt / 2 ^ 12 ≤ 65535

/-- The whole units. -/
theorem toInt_units (a : Int32) : (a >>> (12 : Int32)).toInt = a.toInt / 2 ^ 12 := by
  show (a.toBitVec.sshiftRight' _).toInt = _
  rw [BitVec.toInt_sshiftRight']
  exact Int.shiftRight_eq_div_pow a.toInt 12

/-- The places after the point. -/
theorem places_eq_zero (a : Int32) : a &&& 0x0fff = 0 ↔ a.toInt % 2 ^ 12 = 0 := by
  have hplaces : (a &&& 0x0fff).toBitVec.toNat = a.toBitVec.toNat % 2 ^ 12 :=
    Nat.and_two_pow_sub_one_eq_mod a.toBitVec.toNat 12
  have hvalue : a.toInt = Int.bmod a.toBitVec.toNat (2 ^ 32) := BitVec.toInt_eq_toNat_bmod _
  rw [← Int32.toBitVec_inj, ← BitVec.toNat_inj, hplaces, hvalue, Int.bmod_def]
  show a.toBitVec.toNat % 2 ^ 12 = 0 ↔ _
  omega

/-- The division of fractions takes the proper ones. -/
theorem divideUnsignedFraction_guard :
    (n < 0 ∨ d ≤ 0 ∨ d ≤ n ∨ d &&& 0x0fff ≠ 0 ∨ (65535 : Int32) < d >>> 12 ∨ 0x0fffffff < n)
      ↔ ¬ProperFraction n d := by
  have hzero : (0 : Int32).toInt = 0 := rfl
  have hunits : (65535 : Int32).toInt = 65535 := rfl
  have hlargest : (0x0fffffff : Int32).toInt = 2 ^ 28 - 1 := rfl
  rw [ne_eq, places_eq_zero, Int32.lt_iff_toInt_lt, Int32.le_iff_toInt_le, Int32.le_iff_toInt_le,
    Int32.lt_iff_toInt_lt, Int32.lt_iff_toInt_lt, toInt_units, hzero, hunits, hlargest]
  constructor
  · rintro hguard ⟨hnonneg, hproper, hwhole, hcount⟩
    omega
  · intro himproper
    by_contra hguard
    exact himproper ⟨by omega, by omega, by omega, by omega⟩

/-- The division of fractions finds what the division in full finds. -/
theorem divideUnsignedFraction_run (h : ProperFraction n d) :
    (divideUnsignedFractionQ16IntegralQ12 n d).run s = (divideScaled n d 16).run s := by
  obtain ⟨hnonneg, hproper, hwhole, hcount⟩ := id h
  have hn := toUInt32_toNat hnonneg
  have hscaled : (n.toUInt32 <<< 4).toNat = n.toUInt32.toNat * 16 := by
    rw [UInt32.toNat_shiftLeft]
    show (n.toUInt32.toNat <<< 4) % 2 ^ 32 = _
    rw [Nat.shiftLeft_eq]
    omega
  have hunits : ((d >>> 12).toUInt32.toUInt16.toNat : Int) = d.toInt / 2 ^ 12 := by
    have hvalue := toInt_units d
    have hword := @toUInt32_toNat (d >>> 12) (by omega)
    show (((d >>> 12).toUInt32.toNat % 2 ^ 16 : Nat) : Int) = _
    omega
  have hfull := @divideScaled_settled n d 16 s (by omega) (by decide)
  unfold divideUnsignedFractionQ16IntegralQ12
  rw [if_neg (mt divideUnsignedFraction_guard.mp (not_not_intro h)), hfull]
  dsimp only
  generalize (d >>> 12).toUInt32.toUInt16 = u at hunits ⊢
  generalize n.toUInt32 <<< 4 = scaled at hscaled ⊢
  obtain ⟨hquotient, hremainder⟩ := @divideUnsigned32By16_toNat scaled u (by omega)
  generalize divideUnsigned32By16 scaled u = result at hquotient hremainder ⊢
  have hu : 0 < u.toNat := by omega
  have hhalf := @half_reached u.toUInt32 result.2.toUInt32
    (hremainder.trans_le (Nat.mod_lt _ hu).le)
  have hround := half_up_eq (n := scaled.toNat) hu
  rw [UInt16.toNat_toUInt32, UInt16.toNat_toUInt32, hremainder] at hhalf
  have hdiv : scaled.toNat / u.toNat < 2 ^ 16 := by
    rw [Nat.div_lt_iff_lt_mul hu]
    omega
  have hvalue : (if u.toUInt32 - result.2.toUInt32 ≤ result.2.toUInt32 then result.1 + 1
      else result.1).toNat = (2 * scaled.toNat + u.toNat) / (2 * u.toNat) := by
    rw [← hround]
    split_ifs with hup hup' hup'
    · rw [UInt32.toNat_add, hquotient]
      exact Nat.mod_eq_of_lt (by show _ + 1 < 2 ^ 32; omega)
    · exact absurd (hhalf.mp hup) hup'
    · exact absurd (hhalf.mpr hup') hup
    · exact hquotient
  have hbound : (2 * scaled.toNat + u.toNat) / (2 * u.toNat) < 2 ^ 31 := by
    rw [← hround]
    split_ifs <;> omega
  have hratio : roundAway (n.toInt * 2 ^ 16) d.toInt
      = ((2 * scaled.toNat + u.toNat) / (2 * u.toNat) : Nat) := by
    have hnumerator : n.toInt * 2 ^ 16 = (scaled.toNat : Int) * 2 ^ 12 := by omega
    have hdivisor : d.toInt = (u.toNat : Int) * 2 ^ 12 := by omega
    rw [hnumerator, hdivisor, roundAway_mul (by decide)]
    exact roundAway_signed hu false
  refine (settled_of_fits ?_).symm
  rw [toInt32_toInt (by rwa [hvalue]), hvalue]
  exact hratio.symm

end Fractions

/-! ## Divisors with a power of two -/

section Reduced

variable {a b : Int32} {shift reduction bits : UInt8} {s : NumericStatus} {d : UInt32}

/-- A one moved up is a power of two. -/
theorem one_shiftLeft_toNat (h : bits.toNat ≤ 31) :
    ((1 : UInt32) <<< bits.toUInt32).toNat = 2 ^ bits.toNat := by
  have hpow : 2 ^ bits.toNat < 2 ^ 32 := Nat.pow_lt_pow_right (by decide) (by omega)
  rw [UInt32.toNat_shiftLeft, toNat_shift h]
  show (1 <<< bits.toNat) % 2 ^ 32 = _
  rw [Nat.shiftLeft_eq, Nat.one_mul, Nat.mod_eq_of_lt hpow]

/-- The mask keeps the rest of the division by the power of two. -/
theorem reductionMask_eq_zero (h : reduction.toNat ≤ 31) :
    d &&& reductionMask reduction = 0 ↔ d.toNat % 2 ^ reduction.toNat = 0 := by
  have hmask : (reductionMask reduction).toNat = 2 ^ reduction.toNat - 1 := by
    unfold reductionMask
    split_ifs with hzero
    · rw [hzero]
      rfl
    · have hone := one_shiftLeft_toNat h
      have hle : (1 : UInt32) ≤ 1 <<< reduction.toUInt32 := by
        rw [UInt32.le_iff_toNat_le, hone]
        exact Nat.one_le_two_pow
      rw [UInt32.toNat_sub_of_le _ _ hle, hone]
      rfl
  rw [← UInt32.toNat_inj, UInt32.toNat_and, hmask, Nat.and_two_pow_sub_one_eq_mod]
  rfl

/-- The divisor is reduced by a division. -/
theorem reducedDivisor_toNat (h : reduction.toNat ≤ 31) :
    (d >>> reduction.toUInt32).toNat = d.toNat / 2 ^ reduction.toNat := by
  rw [UInt32.toNat_shiftRight, toNat_shift h, Nat.shiftRight_eq_div_pow]

/-- The quotient of the reduced division, rounded. -/
theorem nearestReduced_toNat {n : Unsigned64} (hd : 0 < d.toNat) (hd' : d.toNat ≤ 65535)
    (hbits : bits.toNat ≤ 63) (hn : n.toNat < 2 ^ bits.toNat) :
    (if d - (divideUnsigned64By16Bits n d.toUInt16 bits).2.toUInt32
        ≤ (divideUnsigned64By16Bits n d.toUInt16 bits).2.toUInt32
      then increment (divideUnsigned64By16Bits n d.toUInt16 bits).1
      else (divideUnsigned64By16Bits n d.toUInt16 bits).1).toNat
        = if d.toNat - n.toNat % d.toNat ≤ n.toNat % d.toNat
          then n.toNat / d.toNat + 1 else n.toNat / d.toNat := by
  have hword : d.toUInt16.toUInt32 = d := by
    rw [← UInt32.toNat_inj]
    exact Nat.mod_eq_of_lt (Nat.lt_succ_of_le hd')
  obtain ⟨hquotient, hremainder⟩ := @divideUnsigned64By32Loop_toNat n d bits.toNat hd
    (by omega) (by omega) hn
  have hmod := Nat.mod_lt n.toNat hd
  have hdiv := Nat.div_le_self n.toNat d.toNat
  have hpow : 2 ^ bits.toNat ≤ 2 ^ 63 := Nat.pow_le_pow_right Nat.two_pos hbits
  unfold divideUnsigned64By16Bits
  dsimp only
  rw [hword]
  have hrest : (divideUnsigned64By32Loop n d bits.toNat ⟨0, 0⟩ 0).2.toUInt16.toUInt32
      = (divideUnsigned64By32Loop n d bits.toNat ⟨0, 0⟩ 0).2 := by
    rw [← UInt32.toNat_inj]
    exact Nat.mod_eq_of_lt (show _ < 2 ^ 16 by omega)
  have hhalf := @half_reached d _ (hremainder.trans_le hmod.le)
  rw [hremainder] at hhalf
  rw [← hrest] at hhalf
  split_ifs with hup hup' hup'
  · rw [increment_toNat, hquotient]
    rw [hquotient]
    omega
  · exact absurd (hhalf.mp hup) hup'
  · exact absurd (hhalf.mpr hup') hup
  · exact hquotient

/-- The reduced division finds what the division in full finds. -/
theorem divideScaledReducedU16_run :
    (divideScaledReducedU16 shift reduction bits a b).run s = (divideScaled a b shift).run s := by
  unfold divideScaledReducedU16
  by_cases henvelope : 31 < shift ∨ shift < reduction ∨ bits = 0 ∨ 32 < bits
      ∨ 64 < bits + shift - reduction
  · rw [if_pos henvelope]
  rw [if_neg henvelope]
  dsimp only
  by_cases hgeneral : b = 0 ∨ magnitude b &&& reductionMask reduction ≠ 0
      ∨ magnitude b >>> reduction.toUInt32 = 0 ∨ 65535 < magnitude b >>> reduction.toUInt32
      ∨ ¬(bits = 32 ∨ magnitude a < 1 <<< bits.toUInt32)
  · rw [if_pos hgeneral]
  rw [if_neg hgeneral]
  simp only [not_or, not_not, ← ne_eq] at henvelope hgeneral
  obtain ⟨hshift, hreduction, -, hbits, -⟩ := henvelope
  obtain ⟨hb, hdivides, hreduced, hnarrow, hfits⟩ := hgeneral
  rw [UInt8.lt_iff_toNat_lt, not_lt] at hshift hreduction hbits
  have hshift' : shift.toNat ≤ 31 := hshift
  have hbits' : bits.toNat ≤ 32 := hbits
  have hreduction' : reduction.toNat ≤ 31 := hreduction.trans hshift'
  have hreducedShift : (shift - reduction).toNat = shift.toNat - reduction.toNat :=
    UInt8.toNat_sub_of_le _ _ (UInt8.le_iff_toNat_le.mpr hreduction)
  have hbitCount : (bits + (shift - reduction)).toNat
      = bits.toNat + (shift.toNat - reduction.toNat) := by
    rw [UInt8.toNat_add, hreducedShift]
    exact Nat.mod_eq_of_lt (by show _ < 2 ^ 8; omega)
  have hdivisor := @reducedDivisor_toNat reduction (magnitude b) hreduction'
  have hpositive : (magnitude b >>> reduction.toUInt32).toNat ≠ 0 :=
    fun h ↦ hreduced (UInt32.toNat_inj.mp h)
  have hhalfWord : (magnitude b >>> reduction.toUInt32).toNat ≤ 65535 := by
    rwa [UInt32.lt_iff_toNat_lt, not_lt] at hnarrow
  have hnumerator : (shiftLeft32 (magnitude a) (shift - reduction)).toNat
      = a.toInt.natAbs * 2 ^ (shift.toNat - reduction.toNat) := by
    rw [shiftLeft32_toNat (by omega), magnitude_toNat, hreducedShift]
  have hmagnitude : a.toInt.natAbs < 2 ^ bits.toNat := by
    rw [← magnitude_toNat]
    by_cases hfull : bits = 32
    · subst hfull
      exact (magnitude a).toNat_lt
    · have hlt := not_not.mp fun h ↦ hfits ⟨hfull, h⟩
      have hbits'' : bits.toNat ≠ 32 := fun h ↦ hfull (UInt8.toNat_inj.mp h)
      rw [UInt32.lt_iff_toNat_lt, one_shiftLeft_toNat (by omega)] at hlt
      exact hlt
  have hrounded := @nearestReduced_toNat (bits + (shift - reduction)) (magnitude b >>> reduction.toUInt32)
    (shiftLeft32 (magnitude a) (shift - reduction)) (Nat.pos_of_ne_zero hpositive) hhalfWord
    (by omega) (by
      rw [hnumerator, hbitCount, pow_add]
      exact Nat.mul_lt_mul_of_pos_right hmagnitude (Nat.two_pow_pos _))
  have hquotient := @signed_quotient s (decide (a < 0) != decide (b < 0)) _ _
    (Nat.pos_of_ne_zero hpositive) _ hrounded
  -- The power of two that was taken out of the divisor is a factor of the numerator too.
  have hwhole : b.toInt.natAbs
      = (magnitude b >>> reduction.toUInt32).toNat * 2 ^ reduction.toNat := by
    rw [hdivisor, ← magnitude_toNat]
    exact (Nat.div_mul_cancel (Nat.dvd_of_mod_eq_zero
      ((reductionMask_eq_zero hreduction').mp hdivides))).symm
  have hpower : a.toInt.natAbs * 2 ^ shift.toNat
      = (shiftLeft32 (magnitude a) (shift - reduction)).toNat * 2 ^ reduction.toNat := by
    rw [hnumerator, Nat.mul_assoc, ← pow_add, Nat.sub_add_cancel hreduction]
  rw [divideScaled_signed hb hshift', hpower, hwhole, roundAway_signed_mul (Nat.two_pow_pos _)]
  exact hquotient

end Reduced

/-! ## Every variant -/

/-- Products and quotients are the rational ones, rounded to nearest, and a result that is not one
of a word saturates with a fault.  The reduced divisions find the same word and the same faults. -/
theorem scaled_arithmetic_exact (shift : UInt8) (a b : Int32) (s : NumericStatus) :
    (shift ≤ 31 → (multiplyScaled a b shift).run s
      = settled (nearest (a.toInt * b.toInt / 2 ^ shift.toNat)) s) ∧
    (shift ≤ 31 → b ≠ 0 → (divideScaled a b shift).run s
      = settled (nearest (a.toInt * 2 ^ shift.toNat / b.toInt)) s) ∧
    (∀ reduction bits, (divideScaledReducedU16 shift reduction bits a b).run s
      = (divideScaled a b shift).run s) ∧
    (ProperFraction a b → (divideUnsignedFractionQ16IntegralQ12 a b).run s
      = (divideScaled a b 16).run s) :=
  ⟨fun h ↦ multiplyScaled_rounds (UInt8.le_iff_toNat_le.mp h),
    fun h hb ↦ divideScaled_rounds hb (UInt8.le_iff_toNat_le.mp h),
    fun _ _ ↦ divideScaledReducedU16_run, divideUnsignedFraction_run⟩

theorem scaled_arithmetic_exact_extremes :
    ((multiplyScaled Int32.minValue Int32.minValue 31).run .clear
        = settled (nearest (Int32.minValue.toInt * Int32.minValue.toInt / 2 ^ 31)) .clear) ∧
      ((divideScaled Int32.minValue (-1) 0).run .clear
        = settled (nearest (Int32.minValue.toInt * 2 ^ 0 / (-1 : Int32).toInt)) .clear) ∧
      ((divideScaledReducedU16 28 7 21 1000001 (-12800)).run .clear
        = (divideScaled 1000001 (-12800) 28).run .clear) ∧
      ((divideUnsignedFractionQ16IntegralQ12 1 4096).run .clear
        = (divideScaled 1 4096 16).run .clear) :=
  ⟨(scaled_arithmetic_exact 31 Int32.minValue Int32.minValue .clear).1 (by decide),
    (scaled_arithmetic_exact 0 Int32.minValue (-1) .clear).2.1 (by decide) (by decide),
    (scaled_arithmetic_exact 28 1000001 (-12800) .clear).2.2.1 7 21,
    (scaled_arithmetic_exact 16 1 4096 .clear).2.2.2
      ⟨by decide, by decide, by decide, by decide⟩⟩

end Ksa64.Core
