import Ksa64.Library.Words

/-!
# Shifts and saturation in 64 bits

A shift to the right is a division that rounds down, and one to the left a product, as long as there
is room.
-/

namespace Ksa64.Library

/-- The signed 64-bit integer closest to a mathematical integer. -/
def clampI64 (x : Int) : Int64 := Int64.ofInt (max (-2 ^ 63) (min (2 ^ 63 - 1) x))

/-- Saturating signed 64-bit multiplication. -/
def mulSatI64 (a b : Int64) : Int64 := clampI64 (a.toInt * b.toInt)

theorem toInt_clampI64 (x : Int) :
    (clampI64 x).toInt = max (-2 ^ 63) (min (2 ^ 63 - 1) x) := by
  unfold clampI64
  rw [Int64.toInt_ofInt_of_le (by omega) (by omega)]

theorem toInt_addSatI64 (a b : Int64) :
    (addSatI64 a b).toInt = max (-2 ^ 63) (min (2 ^ 63 - 1) (a.toInt + b.toInt)) :=
  toInt_clampI64 _

theorem toInt_mulSatI64 (a b : Int64) :
    (mulSatI64 a b).toInt = max (-2 ^ 63) (min (2 ^ 63 - 1) (a.toInt * b.toInt)) :=
  toInt_clampI64 _

theorem toInt_shiftRight_eight (x : Int64) : (x >>> 8).toInt = x.toInt / 256 := by
  show (x.toBitVec.sshiftRight' _).toInt = _
  rw [BitVec.toInt_sshiftRight']
  exact Int.shiftRight_eq_div_pow x.toInt 8

theorem toInt_shiftRight_sixteen (x : Int64) : (x >>> 16).toInt = x.toInt / 2 ^ 16 := by
  show (x.toBitVec.sshiftRight' _).toInt = _
  rw [BitVec.toInt_sshiftRight']
  exact Int.shiftRight_eq_div_pow x.toInt 16

theorem toInt_shiftLeft_sixteen (x : Int64) : (x <<< 16).toInt = (x.toInt * 65536).bmod (2 ^ 64) := by
  have hshift : x <<< 16 = x * 65536 :=
    Int64.toBitVec_inj.mp (BitVec.shiftLeft_eq_mul_twoPow x.toBitVec 16)
  rw [hshift]
  exact Int64.toInt_mul x 65536

end Ksa64.Library
