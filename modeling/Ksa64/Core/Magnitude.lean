import Ksa64.Core.ScaledArithmetic
import Mathlib.Data.Nat.Sqrt

/-!
# Magnitudes

The squares of words are added in two words.  Three of them always fit; four do unless each is the
largest there is, and then the sum saturates.
-/

namespace Ksa64.Core

section Sums

variable {v w : Unsigned64} {s : NumericStatus}

/-- A sum of words, with what it carries. -/
theorem carry_toNat (a b : UInt32) :
    (a + b).toNat + (if a + b < a then 2 ^ 32 else 0) = a.toNat + b.toNat := by
  have ha := a.toNat_lt
  have hb := b.toNat_lt
  have hsum : (a + b).toNat = (a.toNat + b.toNat) % 2 ^ 32 := UInt32.toNat_add a b
  split_ifs with h
  · rw [UInt32.lt_iff_toNat_lt, hsum] at h
    omega
  · rw [UInt32.lt_iff_toNat_lt, hsum] at h
    omega

/-- Whether the sum of two words each runs over, and the sum if it does not. -/
theorem addUnsigned64Checked_parts :
    ∃ sum : Unsigned64, ∃ past : Bool,
      addUnsigned64Checked v w s
        = (if past then (⟨0xffffffff, 0xffffffff⟩, s.record .saturation) else (sum, s)) ∧
      (past = true ↔ 2 ^ 64 ≤ v.toNat + w.toNat) ∧
      (past = false → sum.toNat = v.toNat + w.toNat) := by
  have hlow := carry_toNat v.low w.low
  have hhigh := carry_toNat v.high w.high
  have hlowest := (v.low + w.low).toNat_lt
  have hcarry : 2 ^ 32 * (if v.low + w.low < v.low then 1 else 0 : UInt32).toNat
      + (v.low + w.low).toNat = v.low.toNat + w.low.toNat := by
    rw [← hlow, Nat.add_comm]
    congr 1
    split_ifs <;> rfl
  refine ⟨⟨v.low + w.low, v.high + w.high + if v.low + w.low < v.low then 1 else 0⟩, _, rfl, ?_⟩
  generalize (if v.low + w.low < v.low then 1 else 0 : UInt32) = carry at hcarry ⊢
  have hsum := carry_toNat (v.high + w.high) carry
  have hhighest := (v.high + w.high + carry).toNat_lt
  have hhigher := (v.high + w.high).toNat_lt
  unfold Unsigned64.toNat
  by_cases hfirst : v.high + w.high < v.high
  · rw [if_pos hfirst] at hhigh
    rw [decide_eq_true hfirst, Bool.true_or]
    refine ⟨iff_of_true rfl (by omega), nofun⟩
  rw [if_neg hfirst] at hhigh
  rw [decide_eq_false hfirst, Bool.false_or, decide_eq_true_eq, decide_eq_false_iff_not]
  by_cases hsecond : v.high + w.high + carry < v.high + w.high
  · rw [if_pos hsecond] at hsum
    exact ⟨iff_of_true hsecond (by omega), fun h ↦ absurd hsecond h⟩
  · rw [if_neg hsecond] at hsum
    exact ⟨iff_of_false hsecond (by omega), fun _ ↦ by dsimp only; omega⟩

/-- A sum that two words can hold is exact. -/
theorem addUnsigned64Checked_fits (h : v.toNat + w.toNat < 2 ^ 64) :
    ∃ sum : Unsigned64, addUnsigned64Checked v w s = (sum, s) ∧
      sum.toNat = v.toNat + w.toNat := by
  obtain ⟨sum, past, heq, hpast, hsum⟩ := @addUnsigned64Checked_parts v w s
  cases past with
  | false => exact ⟨sum, heq, hsum rfl⟩
  | true => exact absurd (hpast.mp rfl) (not_le.mpr h)

/-- A sum that they cannot hold saturates. -/
theorem addUnsigned64Checked_saturates (h : 2 ^ 64 ≤ v.toNat + w.toNat) :
    addUnsigned64Checked v w s = (⟨0xffffffff, 0xffffffff⟩, s.record .saturation) := by
  obtain ⟨sum, past, heq, hpast, -⟩ := @addUnsigned64Checked_parts v w s
  cases past with
  | false => exact absurd (hpast.mpr h) (by decide)
  | true => exact heq

/-- The square of a word. -/
theorem square_toNat (a : Int32) :
    (multiplyUnsigned32 (magnitude a) (magnitude a)).toNat = a.toInt.natAbs ^ 2 := by
  rw [multiplyUnsigned32_toNat, magnitude_toNat, sq]

theorem square_le (a : Int32) : a.toInt.natAbs ^ 2 ≤ 2 ^ 62 :=
  Nat.pow_le_pow_left (natAbs_le a) 2

/-- The root that the search finds. -/
theorem sqrtFloorUnsigned64_eq {target : Unsigned64} :
    (sqrtFloorUnsigned64 target).toNat = Nat.sqrt target.toNat := by
  have hroot := @sqrtFloorUnsigned64_isFloorRoot target
  exact Nat.eq_sqrt'.mpr ⟨hroot.le, hroot.lt⟩

end Sums

section Roots

variable {w x y z : Int32} {s : NumericStatus}

theorem sqrtFloorScaledU32_eq {value : UInt32} {shift : UInt8} (hshift : shift.toNat ≤ 31) :
    ∃ root, (sqrtFloorScaledU32 value shift).run s = (root, s) ∧
      root.toNat = Nat.sqrt (value.toNat * 2 ^ shift.toNat) := by
  have hlarge : ¬31 < shift := fun hlt ↦ absurd (UInt8.lt_iff_toNat_lt.mp hlt) (not_lt.mpr hshift)
  refine ⟨sqrtFloorUnsigned64 (shiftLeft32 value shift), ?_, ?_⟩
  · unfold sqrtFloorScaledU32
    rw [if_neg hlarge]
    rfl
  · rw [sqrtFloorUnsigned64_eq, shiftLeft32_toNat hshift]

/-- Three squares always fit. -/
theorem three_squares : ∃ two three,
    addUnsigned64Checked (multiplyUnsigned32 (magnitude x) (magnitude x))
      (multiplyUnsigned32 (magnitude y) (magnitude y)) s = (two, s) ∧
    addUnsigned64Checked two (multiplyUnsigned32 (magnitude z) (magnitude z)) s = (three, s) ∧
    three.toNat = x.toInt.natAbs ^ 2 + y.toInt.natAbs ^ 2 + z.toInt.natAbs ^ 2 := by
  have hx := square_le x
  have hy := square_le y
  have hz := square_le z
  obtain ⟨two, htwo, hvalue⟩ := @addUnsigned64Checked_fits
    (multiplyUnsigned32 (magnitude x) (magnitude x))
    (multiplyUnsigned32 (magnitude y) (magnitude y)) s (by
      rw [square_toNat, square_toNat]
      omega)
  rw [square_toNat, square_toNat] at hvalue
  obtain ⟨three, hthree, hvalue'⟩ := @addUnsigned64Checked_fits two
    (multiplyUnsigned32 (magnitude z) (magnitude z)) s (by
      rw [square_toNat, hvalue]
      omega)
  rw [square_toNat, hvalue] at hvalue'
  exact ⟨two, three, htwo, hthree, hvalue'⟩

theorem magnitude3Floor_eq : ∃ root, magnitude3Floor x y z s = (root, s) ∧
    root.toNat = Nat.sqrt (x.toInt.natAbs ^ 2 + y.toInt.natAbs ^ 2 + z.toInt.natAbs ^ 2) := by
  obtain ⟨two, three, htwo, hthree, hvalue⟩ := @three_squares x y z s
  refine ⟨sqrtFloorUnsigned64 three, ?_, ?_⟩
  · unfold magnitude3Floor
    dsimp only
    rw [htwo]
    dsimp only
    rw [hthree]
  · rw [sqrtFloorUnsigned64_eq, hvalue]

/-- The sum of four squares. -/
def squares (w x y z : Int32) : Nat :=
  w.toInt.natAbs ^ 2 + x.toInt.natAbs ^ 2 + y.toInt.natAbs ^ 2 + z.toInt.natAbs ^ 2

/-- The root of four squares is that of what the last sum comes to. -/
theorem magnitude4Floor_last : ∃ three : Unsigned64,
    three.toNat = w.toInt.natAbs ^ 2 + x.toInt.natAbs ^ 2 + y.toInt.natAbs ^ 2 ∧
    magnitude4Floor w x y z s
      = (sqrtFloorUnsigned64
          (addUnsigned64Checked three (multiplyUnsigned32 (magnitude z) (magnitude z)) s).1,
        (addUnsigned64Checked three (multiplyUnsigned32 (magnitude z) (magnitude z)) s).2) := by
  obtain ⟨two, three, htwo, hthree, hvalue⟩ := @three_squares w x y s
  refine ⟨three, hvalue, ?_⟩
  unfold magnitude4Floor
  dsimp only
  rw [htwo]
  dsimp only
  rw [hthree]

theorem magnitude4Floor_eq (h : squares w x y z < 2 ^ 64) :
    ∃ root, magnitude4Floor w x y z s = (root, s) ∧ root.toNat = Nat.sqrt (squares w x y z) := by
  obtain ⟨three, hthree, hlast⟩ := @magnitude4Floor_last w x y z s
  obtain ⟨four, hfour, hvalue⟩ := @addUnsigned64Checked_fits three
    (multiplyUnsigned32 (magnitude z) (magnitude z)) s (by rwa [square_toNat, hthree])
  rw [square_toNat, hthree] at hvalue
  refine ⟨sqrtFloorUnsigned64 four, ?_, ?_⟩
  · rw [hlast, hfour]
  · rw [sqrtFloorUnsigned64_eq, hvalue]
    rfl

theorem magnitude4Floor_saturates (h : 2 ^ 64 ≤ squares w x y z) :
    magnitude4Floor w x y z s = (0xffffffff, s.record .saturation) := by
  obtain ⟨three, hthree, hlast⟩ := @magnitude4Floor_last w x y z s
  have hroot : sqrtFloorUnsigned64 ⟨0xffffffff, 0xffffffff⟩ = 0xffffffff := by
    rw [← UInt32.toNat_inj, sqrtFloorUnsigned64_eq]
    exact (Nat.eq_sqrt'.mpr ⟨by decide, by decide⟩).symm
  rw [hlast, addUnsigned64Checked_saturates (by rwa [square_toNat, hthree])]
  exact congrArg (·, _) hroot

/-- A root is the floor of the exact one for every shift within a word and every three words, and
for four unless their squares do not fit in two words. -/
theorem roots_exact (value : UInt32) (shift : UInt8) (w x y z : Int32) (s : NumericStatus) :
    (shift ≤ 31 → ∃ root, (sqrtFloorScaledU32 value shift).run s = (root, s) ∧
      root.toNat = Nat.sqrt (value.toNat * 2 ^ shift.toNat)) ∧
    (31 < shift → (sqrtFloorScaledU32 value shift).run s = (0, s.record .invalidShift)) ∧
    (∃ root, magnitude3Floor x y z s = (root, s) ∧
      root.toNat = Nat.sqrt (x.toInt.natAbs ^ 2 + y.toInt.natAbs ^ 2 + z.toInt.natAbs ^ 2)) ∧
    (squares w x y z < 2 ^ 64 → ∃ root, magnitude4Floor w x y z s = (root, s) ∧
      root.toNat = Nat.sqrt (squares w x y z)) ∧
    (2 ^ 64 ≤ squares w x y z →
      magnitude4Floor w x y z s = (0xffffffff, s.record .saturation)) := by
  refine ⟨fun h ↦ sqrtFloorScaledU32_eq (UInt8.le_iff_toNat_le.mp h), ?_, magnitude3Floor_eq,
    magnitude4Floor_eq, magnitude4Floor_saturates⟩
  intro hlarge
  unfold sqrtFloorScaledU32
  rw [if_pos hlarge]
  rfl

theorem roots_exact_at : ((2 : UInt8) ≤ 31) ∧ squares 3 4 0 0 < 2 ^ 64 ∧
    (∃ root, (sqrtFloorScaledU32 7 2).run .clear = (root, .clear) ∧
      root.toNat = Nat.sqrt ((7 : UInt32).toNat * 2 ^ (2 : UInt8).toNat)) ∧
    (sqrtFloorScaledU32 7 32).run .clear = (0, NumericStatus.clear.record .invalidShift) ∧
    (∃ root, magnitude4Floor 3 4 0 0 .clear = (root, .clear) ∧
      root.toNat = Nat.sqrt (squares 3 4 0 0)) ∧
    magnitude4Floor Int32.minValue Int32.minValue Int32.minValue Int32.minValue .clear
      = (0xffffffff, NumericStatus.clear.record .saturation) :=
  ⟨by decide, by decide, (roots_exact 7 2 0 0 0 0 .clear).1 (by decide),
    (roots_exact 7 32 0 0 0 0 .clear).2.1 (by decide),
    (roots_exact 0 0 3 4 0 0 .clear).2.2.2.1 (by decide),
    (roots_exact 0 0 Int32.minValue Int32.minValue Int32.minValue Int32.minValue .clear).2.2.2.2
      (by decide)⟩

/-- A shift by a whole word is refused, so there is no root. -/
theorem roots_exact_large_shift : ¬∀ (value : UInt32) (shift : UInt8) (s : NumericStatus),
    ((sqrtFloorScaledU32 value shift).run s).1.toNat = Nat.sqrt (value.toNat * 2 ^ shift.toNat) := by
  intro hall
  have hzero := hall 1 32 .clear
  have hroot : Nat.sqrt ((1 : UInt32).toNat * 2 ^ (32 : UInt8).toNat) = 2 ^ 16 :=
    (Nat.eq_sqrt'.mpr ⟨by decide, by decide⟩).symm
  rw [hroot] at hzero
  exact absurd hzero (by decide)

end Roots

end Ksa64.Core
