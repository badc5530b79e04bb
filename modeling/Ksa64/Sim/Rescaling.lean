import Ksa64.Library.Shifts
import Ksa64.Core.GlobalTime
import Ksa64.Core.ResidualCarry
import Ksa64.Sim.WorldState

/-!
# Rescaling to nearest

Three functions say that they round to nearest, with ties away from zero.  Two divide after adding half
the divisor, with the sign of the number; the third shifts, and the shift rounds down also where the
number is negative.
-/

namespace Ksa64.Sim

open Ksa64.Library Ksa64.Core Ksa64.Core.Carry

/-! ## What a rescaling does -/

section Rescaling

/- `toInt` is the number a word stands for, `gives` what the rescaling makes of a word, `fits` the
results that can be written down, `d` the divisor. -/
variable {α : Type} (toInt : α → Int) (gives : α → Int → Prop) (fits : Int → Prop) (d : Int)

/-- The result is the nearest integer, if that fits. -/
def RoundsAt (x : α) : Prop := ∀ q, gives x q ↔ fits q ∧ RoundsAway (toInt x) d q

/-- Two words stand for one number, or for opposite ones. -/
def SameMagnitude (x y : α) : Prop := toInt y = toInt x ∨ toInt y = -toInt x

/-- The word and its opposite are rounded to nearest, and the results are opposite. -/
def RescalesAt (x : α) : Prop :=
  (∀ y, SameMagnitude toInt x y → RoundsAt toInt gives fits d y)
    ∧ ∀ y q r, toInt y = -toInt x → gives x q → gives y r → r = -q

variable {toInt gives fits d} {x : α}

/-- Rounding to nearest is odd. -/
theorem rescalesAt_iff (hd : 0 < d) :
    RescalesAt toInt gives fits d x ↔
      ∀ y, SameMagnitude toInt x y → RoundsAt toInt gives fits d y := by
  refine and_iff_left_of_imp fun hrounds y q r hopposite hq hr ↦ ?_
  have hx := ((hrounds x (.inl rfl) q).mp hq).2
  have hy := ((hrounds y (.inr hopposite) r).mp hr).2
  rw [hopposite] at hy
  exact hy.unique hd hx.neg

/-- A rescaling that makes `c` of a word whose nearest integer is `t`. -/
theorem roundsAt_iff {c t : Int} (hd : 0 < d) (hgives : ∀ q, gives x q ↔ fits q ∧ q = c)
    (ht : RoundsAway (toInt x) d t) :
    RoundsAt toInt gives fits d x ↔ c = t ∨ ¬fits c ∧ ¬fits t := by
  have hnearest (q : Int) : RoundsAway (toInt x) d q ↔ q = t := by
    refine ⟨fun hq ↦ hq.unique hd ht, ?_⟩
    rintro rfl
    exact ht
  unfold RoundsAt
  simp only [hgives, hnearest, and_congr_right_iff]
  constructor
  · intro h
    by_cases hc : fits c
    · exact .inl ((h c hc).mp rfl)
    · refine or_iff_not_imp_left.mpr fun hne ↦ ⟨hc, fun htfits ↦ hne ?_⟩
      exact ((h t htfits).mpr rfl).symm
  · rintro (rfl | ⟨hc, htfits⟩) q hq
    · rfl
    · refine iff_of_false ?_ ?_
      · rintro rfl
        exact hc hq
      · rintro rfl
        exact htfits hq

end Rescaling

/-! ## The correction of UT1 -/

/-- From Q24 to Q16, for any time to correct. -/
def Dut1Rescales (dut1Q24 : Int32) : Prop :=
  ∀ utcQ16 : Int64, RescalesAt Int32.toInt
    (fun dut1 correction ↦ ∃ ut1, utcToUt1Q16 utcQ16 dut1 = .ok ut1
      ∧ ut1.toInt = utcQ16.toInt + correction)
    (fun correction ↦ -2 ^ 63 ≤ utcQ16.toInt + correction ∧ utcQ16.toInt + correction < 2 ^ 63)
    256 dut1Q24

theorem exists_toInt_eq {c : Int} (hlow : -2 ^ 63 ≤ c) (hhigh : c < 2 ^ 63) :
    ∃ x : Int64, x.toInt = c := ⟨.ofInt c, Int64.toInt_ofInt_of_le hlow hhigh⟩

/-- The result is the time and the correction, if their sum fits. -/
theorem utcToUt1_iff {utcQ16 : Int64} {dut1 : Int32} {correction : Int} :
    (∃ ut1, utcToUt1Q16 utcQ16 dut1 = .ok ut1 ∧ ut1.toInt = utcQ16.toInt + correction) ↔
      (-2 ^ 63 ≤ utcQ16.toInt + correction ∧ utcQ16.toInt + correction < 2 ^ 63)
        ∧ correction = (dut1Correction dut1).toInt := by
  unfold utcToUt1Q16 Core.checkedAdd64
  by_cases hfits : utcQ16.toInt + (dut1Correction dut1).toInt < -2 ^ 63
      ∨ 2 ^ 63 ≤ utcQ16.toInt + (dut1Correction dut1).toInt
  · rw [if_pos hfits]
    constructor
    · rintro ⟨ut1, ⟨⟩, -⟩
    · rintro ⟨⟨hlow, hhigh⟩, rfl⟩
      exact absurd hfits (by omega)
  · rw [if_neg hfits]
    have hsum : (utcQ16 + dut1Correction dut1).toInt
        = utcQ16.toInt + (dut1Correction dut1).toInt := by
      rw [Int64.toInt_add]
      exact Int.bmod_eq_of_le (by omega) (by omega)
    constructor
    · rintro ⟨ut1, ⟨⟩, hut1⟩
      rw [hsum] at hut1
      obtain rfl := Int.add_left_cancel hut1
      exact ⟨by omega, rfl⟩
    · rintro ⟨-, rfl⟩
      exact ⟨_, rfl, hsum⟩

theorem int32_nonneg {n : Int32} : 0 ≤ n ↔ 0 ≤ n.toInt := Int32.le_iff_toInt_le

/-- The correction is rounded down, after half a unit is added with the sign of the number. -/
theorem toInt_dut1Correction (dut1 : Int32) :
    (dut1Correction dut1).toInt
      = if 0 ≤ dut1.toInt then (dut1.toInt + 128) / 256 else (dut1.toInt - 128) / 256 := by
  have hlt := dut1.toInt_lt
  have hle := dut1.le_toInt
  unfold dut1Correction
  by_cases hnonneg : 0 ≤ dut1
  · rw [if_pos hnonneg, if_pos (int32_nonneg.mp hnonneg), toInt_shiftRight_eight,
      Int64.toInt_add, Int32.toInt_toInt64, show (128 : Int64).toInt = 128 from rfl]
    exact congrArg (· / 256) (Int.bmod_eq_of_le (by omega) (by omega))
  · rw [if_neg hnonneg, if_neg (mt int32_nonneg.mpr hnonneg), toInt_shiftRight_eight,
      Int64.toInt_sub, Int32.toInt_toInt64, show (128 : Int64).toInt = 128 from rfl]
    exact congrArg (· / 256) (Int.bmod_eq_of_le (by omega) (by omega))

/-- Below zero the correction is a unit too low, except at a tie. -/
theorem dut1Correction_rounds_iff (dut1 : Int32) :
    RoundsAway dut1.toInt 256 (dut1Correction dut1).toInt ↔
      0 ≤ dut1.toInt ∨ dut1.toInt % 256 = 128 := by
  rw [toInt_dut1Correction]
  by_cases hnonneg : 0 ≤ dut1.toInt
  · rw [if_pos hnonneg, ← Int.tdiv_eq_ediv_of_nonneg (show 0 ≤ dut1.toInt + 128 by omega)]
    exact iff_of_true (.of_nonneg (by omega) hnonneg) (.inl hnonneg)
  · rw [if_neg hnonneg, or_iff_right hnonneg]
    have hround := RoundsAway.of_nonpos (show (0 : Int) < 256 by omega)
      (show dut1.toInt ≤ 0 by omega)
    have htrunc : (dut1.toInt - 256 / 2).tdiv 256 = -((128 - dut1.toInt) / 256) := by
      rw [← Int.tdiv_eq_ediv_of_nonneg (show 0 ≤ 128 - dut1.toInt by omega), ← Int.neg_tdiv, neg_sub]
      rfl
    constructor
    · intro h
      have heq := h.unique (by omega) hround
      omega
    · intro htie
      have heq : (dut1.toInt - 128) / 256 = (dut1.toInt - 256 / 2).tdiv 256 := by omega
      rw [heq]
      exact hround

theorem dut1Rescales_iff (dut1 : Int32) :
    Dut1Rescales dut1 ↔ dut1 = 0 ∨ dut1.toInt % 256 = 128 := by
  have hrounds (y : Int32) : (∀ utcQ16 : Int64, RoundsAt Int32.toInt
      (fun dut1 correction ↦ ∃ ut1, utcToUt1Q16 utcQ16 dut1 = .ok ut1
        ∧ ut1.toInt = utcQ16.toInt + correction)
      (fun correction ↦ -2 ^ 63 ≤ utcQ16.toInt + correction ∧ utcQ16.toInt + correction < 2 ^ 63)
      256 y) ↔ 0 ≤ y.toInt ∨ y.toInt % 256 = 128 := by
    have hlt := (dut1Correction y).toInt_lt
    have hle := (dut1Correction y).le_toInt
    rw [← dut1Correction_rounds_iff]
    constructor
    · intro h
      obtain ⟨t, ht⟩ := exists_roundsAway (show (0 : Int) < 256 by omega) y.toInt
      obtain rfl | ⟨hoverflow, -⟩ := (roundsAt_iff (by omega) (fun _ ↦ utcToUt1_iff) ht).mp (h 0)
      · exact ht
      · refine absurd ?_ hoverflow
        show -2 ^ 63 ≤ 0 + _ ∧ 0 + _ < _
        omega
    · intro h utcQ16
      exact (roundsAt_iff (by omega) (fun _ ↦ utcToUt1_iff) h).mpr (.inl rfl)
  unfold Dut1Rescales
  have hlt := dut1.toInt_lt
  have hle := dut1.le_toInt
  constructor
  · intro h
    by_contra hneither
    obtain ⟨hzero, htie⟩ := not_or.mp hneither
    have hne : dut1.toInt ≠ 0 := fun heq ↦ hzero (Int32.toInt_inj.mp heq)
    -- the one of the two numbers that is negative
    have hnegative : (Int32.ofInt (min dut1.toInt (-dut1.toInt))).toInt
        = min dut1.toInt (-dut1.toInt) :=
      Int32.toInt_ofInt_of_le (by omega) (by omega)
    have hsame : SameMagnitude Int32.toInt dut1 (.ofInt (min dut1.toInt (-dut1.toInt))) := by
      unfold SameMagnitude
      omega
    have hfloor := (hrounds _).mp fun utcQ16 ↦
      (rescalesAt_iff (by omega)).mp (h utcQ16) _ hsame
    rw [hnegative] at hfloor
    omega
  · intro hcase utcQ16
    refine (rescalesAt_iff (by omega)).mpr fun y hsame ↦ (hrounds y).mpr ?_ utcQ16
    obtain rfl | htie := hcase
    · exact .inl (by obtain h | h := hsame <;> exact h.ge)
    · refine .inr ?_
      unfold SameMagnitude at hsame
      omega

/-! ## The two divisions -/

/-- The results that fit into a word of 32 bits. -/
def FitsI32 (q : Int) : Prop := -2 ^ 31 ≤ q ∧ q < 2 ^ 31

/-- The division of the frame transport, from a clear status. -/
def DivideRescales (value denominator : Int64) : Prop :=
  denominator ≤ 0 ∨ RescalesAt Int64.toInt
    (fun value q ↦ (roundedDivide value denominator .clear).2.isClear = true
      ∧ (roundedDivide value denominator .clear).1.toInt = q)
    FitsI32 denominator.toInt value

/-- The division of the world. -/
def WorldRescales (value denominator : Int64) : Prop :=
  denominator ≤ 0 ∨ RescalesAt Int64.toInt
    (fun value q ↦ ∃ result, roundedI64 value denominator = .ok result ∧ result.toInt = q)
    FitsI32 denominator.toInt value

/-- Half the divisor can be added; or the quotient is outside the 32 bits, both as it is and after
the sum has wrapped around. -/
def QuotientKept (n d : Int) : Prop :=
  HalfFits n d
    ∨ 0 ≤ n ∧ (2 ^ 31 + 1) * d ≤ 2 ^ 64 - (n + d / 2)
    ∨ n < 0 ∧ 2 ^ 31 * d ≤ 2 ^ 64 + (n - d / 2) ∧ (2 ^ 31 + 1) * d ≤ d / 2 - n

/-- The number and its opposite can be divided. -/
def KeepsQuotients (value denominator : Int64) : Prop :=
  denominator ≤ 0 ∨ ∀ y, SameMagnitude Int64.toInt value y →
    QuotientKept y.toInt denominator.toInt

section Division

variable {n d : Int64}

theorem divide_gives_iff {q : Int} (hd : 0 < d) :
    ((roundedDivide n d .clear).2.isClear = true ∧ (roundedDivide n d .clear).1.toInt = q) ↔
      FitsI32 q ∧ q = (roundedQuotient n d).toInt := by
  unfold roundedDivide checkedI64ToI32
  rw [if_neg (Int64.not_le.mpr hd)]
  by_cases houtside : OutsideI32 (roundedQuotient n d)
  · rw [if_pos houtside]
    refine iff_of_false (fun h ↦ ?_) ?_
    · exact absurd h.1 (not_clear_record .clear .saturation)
    · rintro ⟨hfits, rfl⟩
      exact not_outsideI32_iff.mpr hfits houtside
  · rw [if_neg houtside]
    show _ = _ ∧ (roundedQuotient n d).toInt32.toInt = q ↔ _
    rw [toInt_toInt32 houtside]
    refine ⟨?_, fun h ↦ ⟨rfl, h.2.symm⟩⟩
    rintro ⟨-, rfl⟩
    exact ⟨not_outsideI32_iff.mp houtside, rfl⟩

theorem world_gives_iff {q : Int} (hd : 0 < d) :
    (∃ result, roundedI64 n d = .ok result ∧ result.toInt = q) ↔
      FitsI32 q ∧ q = (roundedQuotient n d).toInt := by
  unfold roundedI64
  dsimp only
  rw [if_neg (Int64.not_le.mpr hd)]
  by_cases houtside : OutsideI32 (roundedQuotient n d)
  · rw [if_pos houtside]
    constructor
    · rintro ⟨result, ⟨⟩, -⟩
    · rintro ⟨hfits, rfl⟩
      exact absurd houtside (not_outsideI32_iff.mpr hfits)
  · rw [if_neg houtside]
    constructor
    · rintro ⟨result, ⟨⟩, rfl⟩
      rw [toInt_toInt32 houtside]
      exact ⟨not_outsideI32_iff.mp houtside, rfl⟩
    · rintro ⟨-, rfl⟩
      exact ⟨_, rfl, toInt_toInt32 houtside⟩

/-- The quotient is at least `k` in the one case and at most `-k` in the other. -/
theorem le_tdiv_iff {w d : Int} (k : Int) (hd : 0 < d) (hw : 0 ≤ w) : k ≤ w.tdiv d ↔ k * d ≤ w := by
  rw [Int.tdiv_eq_ediv_of_nonneg hw]
  exact Int.le_ediv_iff_mul_le hd

theorem tdiv_le_neg_iff {w d : Int} (k : Int) (hd : 0 < d) (hw : w ≤ 0) :
    w.tdiv d ≤ -k ↔ k * d ≤ -w := by
  rw [← le_tdiv_iff k hd (neg_nonneg.mpr hw), Int.neg_tdiv]
  omega

/-- The two quotients agree, or are both outside, iff the quotient is kept. -/
theorem quotientKept_iff {t : Int} (hd : 0 < d.toInt) (ht : RoundsAway n.toInt d.toInt t) :
    (roundedQuotient n d).toInt = t ∨ ¬FitsI32 (roundedQuotient n d).toInt ∧ ¬FitsI32 t ↔
      QuotientKept n.toInt d.toInt := by
  have hlt := n.toInt_lt
  have hle := n.le_toInt
  have hdlt := d.toInt_lt
  unfold FitsI32 QuotientKept
  by_cases hfits : HalfFits n.toInt d.toInt
  · exact iff_of_true (.inl ((roundedQuotient_rounds hd hfits).unique hd ht)) (.inl hfits)
  rw [or_iff_right hfits]
  obtain hn | hn := le_or_gt 0 n.toInt
  · have hover : 2 ^ 63 ≤ n.toInt + d.toInt / 2 := by
      unfold HalfFits at hfits
      omega
    obtain rfl := ht.unique hd (.of_nonneg hd hn)
    rw [roundedQuotient_of_over hd hn hover]
    have hwrapped := @tdiv_le_neg_iff (n.toInt + d.toInt / 2 - 2 ^ 64) d.toInt
    have htrue := @le_tdiv_iff (n.toInt + d.toInt / 2) d.toInt
    have hpositive := (htrue 1 hd (by omega)).mpr (by omega)
    have hnonpos := (hwrapped 0 hd (by omega)).mpr (by omega)
    have hwrapped := hwrapped (2 ^ 31 + 1) hd (by omega)
    have htrue := htrue (2 ^ 31) hd (by omega)
    omega
  · have hunder : n.toInt - d.toInt / 2 < -2 ^ 63 := by
      unfold HalfFits at hfits
      omega
    obtain rfl := ht.unique hd (.of_nonpos hd hn.le)
    rw [roundedQuotient_of_under hd hn hunder]
    have hwrapped := @le_tdiv_iff (n.toInt - d.toInt / 2 + 2 ^ 64) d.toInt
    have htrue := @tdiv_le_neg_iff (n.toInt - d.toInt / 2) d.toInt
    have hnegative := (htrue 1 hd (by omega)).mpr (by omega)
    have hnonneg := (hwrapped 0 hd (by omega)).mpr (by omega)
    have hwrapped := hwrapped (2 ^ 31) hd (by omega)
    have htrue := htrue (2 ^ 31 + 1) hd (by omega)
    omega

/-- A rescaling that divides with `roundedQuotient`. -/
theorem rescales_iff_of_quotient {gives : Int64 → Int → Prop} (hd : 0 < d.toInt)
    (hgives : ∀ y q, gives y q ↔ FitsI32 q ∧ q = (roundedQuotient y d).toInt) :
    RescalesAt Int64.toInt gives FitsI32 d.toInt n ↔
      ∀ y, SameMagnitude Int64.toInt n y → QuotientKept y.toInt d.toInt := by
  rw [rescalesAt_iff hd]
  refine forall₂_congr fun y _ ↦ ?_
  obtain ⟨t, ht⟩ := exists_roundsAway hd y.toInt
  rw [roundsAt_iff hd (hgives y) ht]
  exact quotientKept_iff hd ht

theorem divideRescales_iff (value denominator : Int64) :
    DivideRescales value denominator ↔ KeepsQuotients value denominator := by
  refine or_congr_right' fun hd ↦ ?_
  have hd := Int64.not_le.mp hd
  exact rescales_iff_of_quotient (Int64.lt_iff_toInt_lt.mp hd) fun _ _ ↦ divide_gives_iff hd

theorem worldRescales_iff (value denominator : Int64) :
    WorldRescales value denominator ↔ KeepsQuotients value denominator := by
  refine or_congr_right' fun hd ↦ ?_
  have hd := Int64.not_le.mp hd
  exact rescales_iff_of_quotient (Int64.lt_iff_toInt_lt.mp hd) fun _ _ ↦ world_gives_iff hd

end Division

/-- The correction of UT1 is right, for a number and its opposite, iff the number is zero or a tie.
The two divisions are right where the quotients are kept. -/
theorem rescales_iff (dut1Q24 : Int32) (value denominator worldValue worldDenominator : Int64) :
    (Dut1Rescales dut1Q24 ↔ dut1Q24 = 0 ∨ dut1Q24.toInt % 256 = 128)
      ∧ (DivideRescales value denominator ↔ KeepsQuotients value denominator)
      ∧ (WorldRescales worldValue worldDenominator ↔ KeepsQuotients worldValue worldDenominator) :=
  ⟨dut1Rescales_iff dut1Q24, divideRescales_iff value denominator,
    worldRescales_iff worldValue worldDenominator⟩

/-- The smallest difference below zero moves the time by a whole unit, though it is a part of one
in 256. -/
theorem smallest_lag_moves_a_unit :
    utcToUt1Q16 0 (-1) = .ok (-1) ∧ ¬((∀ dut1Q24, Dut1Rescales dut1Q24)
      ∧ (∀ value denominator, DivideRescales value denominator)
      ∧ ∀ value denominator, WorldRescales value denominator) := by
  refine ⟨rfl, fun h ↦ ?_⟩
  have hrounds := (h.1 (-1) 0).1 (-1) (.inl rfl) (-1)
  have hnear := (hrounds.mp ⟨-1, rfl, by decide⟩).2.near
  revert hnear
  decide

end Ksa64.Sim
