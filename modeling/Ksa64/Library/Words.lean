import Mathlib.Order.MinMax
import Mathlib.Algebra.Order.Ring.Int
import Mathlib.Tactic.Common

/-!
# Saturating machine words

The fixed-width integer types wrap around.  Programs that must not wrap use
saturating addition and subtraction instead; these are the saturating operations,
with the one fact about each that proofs use: its value as a mathematical number.
-/

namespace Ksa64.Library

/-- Saturating 32-bit unsigned addition. -/
def addSat32 (a b : UInt32) : UInt32 :=
  if a.toNat + b.toNat < 2 ^ 32 then a + b else UInt32.ofNat (2 ^ 32 - 1)

/-- Saturating 16-bit unsigned addition. -/
def addSat16 (a b : UInt16) : UInt16 :=
  if a.toNat + b.toNat < 2 ^ 16 then a + b else UInt16.ofNat (2 ^ 16 - 1)

/-- Saturating 8-bit unsigned addition. -/
def addSat8 (a b : UInt8) : UInt8 :=
  if a.toNat + b.toNat < 2 ^ 8 then a + b else UInt8.ofNat (2 ^ 8 - 1)

/-- Saturating 32-bit unsigned subtraction. -/
def subSat32 (a b : UInt32) : UInt32 := if b ≤ a then a - b else 0

/-- The signed 32-bit integer closest to a mathematical integer. -/
def clampI32 (x : Int) : Int32 := Int32.ofInt (max (-2 ^ 31) (min (2 ^ 31 - 1) x))

/-- Saturating signed 32-bit addition. -/
def addSatI32 (a b : Int32) : Int32 := clampI32 (a.toInt + b.toInt)

/-- Saturating signed 32-bit subtraction. -/
def subSatI32 (a b : Int32) : Int32 := clampI32 (a.toInt - b.toInt)

/-- Saturating signed 32-bit multiplication. -/
def mulSatI32 (a b : Int32) : Int32 := clampI32 (a.toInt * b.toInt)

/-- Saturating signed 32-bit negation. -/
def negSatI32 (a : Int32) : Int32 := clampI32 (-a.toInt)

/-- Saturating signed 64-bit addition. -/
def addSatI64 (a b : Int64) : Int64 :=
  Int64.ofInt (max (-2 ^ 63) (min (2 ^ 63 - 1) (a.toInt + b.toInt)))

/-- The sum, if it is a word. -/
def checkedAdd64 (a b : UInt64) : Option UInt64 :=
  if a.toNat + b.toNat < 2 ^ 64 then some (a + b) else none

/-- The sum, if it is a word. -/
def checkedAdd32 (a b : UInt32) : Option UInt32 :=
  if a.toNat + b.toNat < 2 ^ 32 then some (a + b) else none

/-- The magnitude of a signed 64-bit integer. -/
def unsignedAbs64 (a : Int64) : UInt64 := UInt64.ofNat a.toInt.natAbs

/-- The magnitude of a signed 32-bit integer. -/
def unsignedAbs32 (a : Int32) : UInt32 := UInt32.ofNat a.toInt.natAbs

/-- Rotate a 32-bit word to the left by `0 < n < 32` bits. -/
def rotateLeft32 (a : UInt32) (n : UInt32) : UInt32 := (a <<< n) ||| (a >>> (32 - n))

/-- Rotate a 32-bit word to the right by `0 < n < 32` bits. -/
def rotateRight32 (a : UInt32) (n : UInt32) : UInt32 := (a >>> n) ||| (a <<< (32 - n))

/-- Saturating addition adds, up to the largest 32-bit word. -/
theorem toNat_addSat32 (a b : UInt32) :
    (addSat32 a b).toNat = min (a.toNat + b.toNat) (2 ^ 32 - 1) := by
  unfold addSat32
  split
  · rw [UInt32.toNat_add]
    omega
  · rw [UInt32.toNat_ofNat']
    omega

/-- Saturating addition adds, up to the largest 16-bit word. -/
theorem toNat_addSat16 (a b : UInt16) :
    (addSat16 a b).toNat = min (a.toNat + b.toNat) (2 ^ 16 - 1) := by
  unfold addSat16
  split
  · rw [UInt16.toNat_add]
    omega
  · rw [UInt16.toNat_ofNat']
    omega

/-- Counting up below some other count does not saturate. -/
theorem toNat_addSat16_one {a b : UInt16} (h : a.toNat < b.toNat) :
    (addSat16 a 1).toNat = a.toNat + 1 := by
  have hb := b.toNat_lt
  rw [toNat_addSat16, UInt16.toNat_one]
  omega

/-- The value of a saturating 8-bit sum. -/
theorem toNat_addSat8 (a b : UInt8) :
    (addSat8 a b).toNat = min (a.toNat + b.toNat) (2 ^ 8 - 1) := by
  unfold addSat8
  split
  · rw [UInt8.toNat_add]
    omega
  · rw [UInt8.toNat_ofNat']
    omega

/-- Saturating addition never goes down. -/
theorem le_addSat32 (a b : UInt32) : a ≤ addSat32 a b := by
  rw [UInt32.le_iff_toNat_le, toNat_addSat32]
  have ha := a.toNat_lt
  omega

/-- Adding the same to both sides keeps their order. -/
theorem addSat32_mono {a b : UInt32} (h : a ≤ b) (c : UInt32) : addSat32 a c ≤ addSat32 b c := by
  rw [UInt32.le_iff_toNat_le] at h ⊢
  rw [toNat_addSat32, toNat_addSat32]
  omega

/-- A saturating difference is zero, or the difference. -/
theorem add_le_of_le_subSat32 {a b c : UInt32} (hc : 0 < c) (h : c ≤ subSat32 a b) :
    b.toNat + c.toNat ≤ a.toNat := by
  unfold subSat32 at h
  split at h
  · rename_i hle
    rw [UInt32.le_iff_toNat_le] at hle h
    rw [UInt32.toNat_sub_of_le _ _ hle] at h
    exact Nat.le_sub_iff_add_le' hle |>.mp h
  · exact absurd (UInt32.lt_of_lt_of_le hc h) (UInt32.lt_irrefl _)

/-- The larger of two words. -/
theorem toNat_max32 (a b : UInt32) : (max a b).toNat = max a.toNat b.toNat := by
  show (if a ≤ b then b else a).toNat = _
  split
  · rw [Nat.max_eq_right (UInt32.le_iff_toNat_le.mp ‹_›)]
  · rw [Nat.max_eq_left (Nat.le_of_lt (UInt32.lt_iff_toNat_lt.mp (UInt32.not_le.mp ‹_›)))]

/-- A checked sum is the sum. -/
theorem checkedAdd64_eq_some {a b c : UInt64} :
    checkedAdd64 a b = some c ↔ a.toNat + b.toNat = c.toNat := by
  unfold checkedAdd64
  constructor
  · intro h
    split_ifs at h with hlt
    cases h
    rw [UInt64.toNat_add, Nat.mod_eq_of_lt hlt]
  · intro h
    have hlt : a.toNat + b.toNat < 2 ^ 64 := h ▸ c.toNat_lt
    rw [if_pos hlt, Option.some_inj, ← UInt64.toNat_inj, UInt64.toNat_add, Nat.mod_eq_of_lt hlt, h]

/-- The smaller of two words. -/
theorem toNat_min32 (a b : UInt32) : (min a b).toNat = min a.toNat b.toNat := by
  show (if a ≤ b then a else b).toNat = _
  by_cases h : a ≤ b
  · rw [if_pos h]
    exact (Nat.min_eq_left (UInt32.le_iff_toNat_le.mp h)).symm
  · rw [if_neg h]
    exact (Nat.min_eq_right (Nat.le_of_not_le (mt UInt32.le_iff_toNat_le.mpr h))).symm

/-- A checked sum is the sum. -/
theorem checkedAdd32_eq_some {a b c : UInt32} :
    checkedAdd32 a b = some c ↔ a.toNat + b.toNat = c.toNat := by
  unfold checkedAdd32
  constructor
  · intro h
    split_ifs at h with hlt
    cases h
    rw [UInt32.toNat_add, Nat.mod_eq_of_lt hlt]
  · intro h
    have hlt : a.toNat + b.toNat < 2 ^ 32 := h ▸ c.toNat_lt
    rw [if_pos hlt, Option.some_inj, ← UInt32.toNat_inj, UInt32.toNat_add, Nat.mod_eq_of_lt hlt, h]

/-- The smaller of two signed words. -/
theorem toInt_minI32 (a b : Int32) : (min a b).toInt = min a.toInt b.toInt := by
  show (if a ≤ b then a else b).toInt = _
  by_cases h : a ≤ b
  · rw [if_pos h]
    exact (min_eq_left (Int32.le_iff_toInt_le.mp h)).symm
  · rw [if_neg h]
    exact (min_eq_right (le_of_not_ge (mt Int32.le_iff_toInt_le.mpr h))).symm

/-- The larger of two signed words. -/
theorem toInt_maxI32 (a b : Int32) : (max a b).toInt = max a.toInt b.toInt := by
  show (if a ≤ b then b else a).toInt = _
  by_cases h : a ≤ b
  · rw [if_pos h]
    exact (max_eq_right (Int32.le_iff_toInt_le.mp h)).symm
  · rw [if_neg h]
    exact (max_eq_left (le_of_not_ge (mt Int32.le_iff_toInt_le.mpr h))).symm

/-- The clamped value of an integer. -/
theorem toInt_clampI32 (x : Int) :
    (clampI32 x).toInt = max (-2 ^ 31) (min (2 ^ 31 - 1) x) := by
  unfold clampI32
  rw [Int32.toInt_ofInt_of_le (by omega) (by omega)]

/-- Saturating signed addition adds, up to the ends of the 32-bit range. -/
theorem toInt_addSatI32 (a b : Int32) :
    (addSatI32 a b).toInt = max (-2 ^ 31) (min (2 ^ 31 - 1) (a.toInt + b.toInt)) :=
  toInt_clampI32 _

end Ksa64.Library
