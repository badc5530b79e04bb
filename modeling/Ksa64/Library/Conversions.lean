import Mathlib.Algebra.Order.Ring.Int
import Mathlib.Tactic.Common

/-!
# Words and the numbers they stand for

A word that is made wider, or that gets a sign or loses it, stands for the same number as long as
that number is in range, and so do sums and differences.
-/

namespace Ksa64.Library

/-- A sum that fits. -/
theorem toInt_add_of_fits {a b : Int32} (hlow : -2 ^ 31 ≤ a.toInt + b.toInt)
    (hhigh : a.toInt + b.toInt < 2 ^ 31) : (a + b).toInt = a.toInt + b.toInt := by
  rw [Int32.toInt_add, Int.bmod_def]
  omega

/-- A difference that fits. -/
theorem toInt_sub_of_fits {a b : Int32} (hlow : -2 ^ 31 ≤ a.toInt - b.toInt)
    (hhigh : a.toInt - b.toInt < 2 ^ 31) : (a - b).toInt = a.toInt - b.toInt := by
  rw [Int32.toInt_sub, Int.bmod_def]
  omega

/-- A word that is not negative, without its sign. -/
theorem toUInt32_toNat {a : Int32} (h : 0 ≤ a.toInt) : (a.toUInt32.toNat : Int) = a.toInt := by
  have hzero : (0 : Int32).toInt = 0 := rfl
  rw [Int32.toNat_toUInt32_of_le (Int32.le_iff_toInt_le.mpr (hzero.trans_le h))]
  exact Int.toNat_of_nonneg h

/-- A word that is not too large, with a sign. -/
theorem toInt32_toInt {w : UInt32} (h : w.toNat < 2 ^ 31) : w.toInt32.toInt = w.toNat := by
  show w.toBitVec.toInt = _
  exact BitVec.toInt_eq_toNat_of_lt (by show 2 * w.toNat < 2 ^ 32; omega)

/-- A word without a sign, in the wide words with one. -/
theorem toInt_unsigned32 (x : UInt32) : x.toUInt64.toInt64.toInt = x.toNat := by
  have hlt := x.toNat_lt
  show x.toUInt64.toBitVec.toInt = _
  rw [BitVec.toInt_eq_toNat_of_lt
    (by show 2 * x.toUInt64.toNat < 2 ^ 64; rw [UInt32.toNat_toUInt64]; omega)]
  exact congrArg Nat.cast x.toNat_toUInt64

theorem toInt_unsigned16 (x : UInt16) : x.toUInt64.toInt64.toInt = x.toNat := by
  have hlt := x.toNat_lt
  show x.toUInt64.toBitVec.toInt = _
  rw [BitVec.toInt_eq_toNat_of_lt
    (by show 2 * x.toUInt64.toNat < 2 ^ 64; rw [UInt16.toNat_toUInt64]; omega)]
  exact congrArg Nat.cast x.toNat_toUInt64

end Ksa64.Library
