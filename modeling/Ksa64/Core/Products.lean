import Ksa64.Core.Numeric
import Mathlib.Tactic.Ring

/-!
# Products of words

The product of two words is built from the products of their halves.  A scaled product of words
that are not negative, and of which one is short, does not saturate.
-/

namespace Ksa64.Core

/-- The value of two words. -/
def Unsigned64.toNat (v : Unsigned64) : Nat := v.high.toNat * 2 ^ 32 + v.low.toNat

section Words

/-- A sum that fits. -/
theorem addWords_toNat {v : Unsigned64} {low high : UInt32}
    (h : v.toNat + (high.toNat * 2 ^ 32 + low.toNat) < 2 ^ 64) :
    (addWords v low high).toNat = v.toNat + (high.toNat * 2 ^ 32 + low.toNat) := by
  have hl := v.low.toNat_lt
  have hl' := low.toNat_lt
  unfold Unsigned64.toNat at h ⊢
  unfold addWords
  dsimp only
  have hcarry : v.low + low < v.low ↔ 2 ^ 32 ≤ v.low.toNat + low.toNat := by
    rw [UInt32.lt_iff_toNat_lt, UInt32.toNat_add]
    omega
  split_ifs with hc
  · rw [hcarry] at hc
    simp only [UInt32.toNat_add, UInt32.toNat_one]
    omega
  · rw [hcarry] at hc
    simp only [UInt32.toNat_add]
    omega

/-- Half words. -/
theorem toNat_low (a : UInt32) : (a &&& 0xffff).toNat = a.toNat % 2 ^ 16 := by
  rw [UInt32.toNat_and]
  exact Nat.and_two_pow_sub_one_eq_mod a.toNat 16

theorem toNat_high (a : UInt32) : (a >>> 16).toNat = a.toNat / 2 ^ 16 := by
  rw [UInt32.toNat_shiftRight]
  exact Nat.shiftRight_eq_div_pow a.toNat 16

/-- The product of half words fits a word. -/
theorem toNat_mul_half {a b : UInt32} (ha : a.toNat < 2 ^ 16) (hb : b.toNat < 2 ^ 16) :
    (a * b).toNat = a.toNat * b.toNat := by
  have hproduct : a.toNat * b.toNat < 2 ^ 16 * 2 ^ 16 := Nat.mul_lt_mul'' ha hb
  rw [UInt32.toNat_mul]
  exact Nat.mod_eq_of_lt hproduct

/-- A word moved up by half a word, in two words. -/
theorem shifted_toNat (p : UInt32) :
    (p >>> 16).toNat * 2 ^ 32 + (p <<< 16).toNat = p.toNat * 2 ^ 16 := by
  have hp := p.toNat_lt
  rw [toNat_high, UInt32.toNat_shiftLeft]
  show _ + (p.toNat <<< 16) % 2 ^ 32 = _
  rw [Nat.shiftLeft_eq]
  omega

/-- The product of two words, by the products of their halves. -/
theorem mul_halves (a b : UInt32) :
    a.toNat * b.toNat = ((a &&& (0xffff : UInt32)) * (b &&& (0xffff : UInt32))).toNat
      + ((a &&& (0xffff : UInt32)) * (b >>> (16 : UInt32))).toNat * 2 ^ 16
      + ((a >>> (16 : UInt32)) * (b &&& (0xffff : UInt32))).toNat * 2 ^ 16
      + ((a >>> (16 : UInt32)) * (b >>> (16 : UInt32))).toNat * 2 ^ 32 := by
  have ha := a.toNat_lt
  have hb := b.toNat_lt
  have hal : (a &&& 0xffff).toNat < 2 ^ 16 := by rw [toNat_low]; omega
  have hah : (a >>> 16).toNat < 2 ^ 16 := by rw [toNat_high]; omega
  have hbl : (b &&& 0xffff).toNat < 2 ^ 16 := by rw [toNat_low]; omega
  have hbh : (b >>> 16).toNat < 2 ^ 16 := by rw [toNat_high]; omega
  have ha' : a.toNat = (a >>> 16).toNat * 2 ^ 16 + (a &&& 0xffff).toNat := by
    rw [toNat_low, toNat_high]
    omega
  have hb' : b.toNat = (b >>> 16).toNat * 2 ^ 16 + (b &&& 0xffff).toNat := by
    rw [toNat_low, toNat_high]
    omega
  rw [toNat_mul_half hal hbl, toNat_mul_half hal hbh, toNat_mul_half hah hbl,
    toNat_mul_half hah hbh, ha', hb']
  ring

/-- The product of two words. -/
theorem multiplyUnsigned32_toNat (a b : UInt32) :
    (multiplyUnsigned32 a b).toNat = a.toNat * b.toNat := by
  have hproduct : a.toNat * b.toNat < 2 ^ 32 * 2 ^ 32 :=
    Nat.mul_lt_mul'' a.toNat_lt b.toNat_lt
  rw [mul_halves] at hproduct ⊢
  unfold multiplyUnsigned32
  dsimp only
  generalize (a &&& (0xffff : UInt32)) * (b &&& (0xffff : UInt32)) = p₀₀ at hproduct ⊢
  generalize (a &&& (0xffff : UInt32)) * (b >>> (16 : UInt32)) = p₀₁ at hproduct ⊢
  generalize (a >>> (16 : UInt32)) * (b &&& (0xffff : UInt32)) = p₁₀ at hproduct ⊢
  generalize (a >>> (16 : UInt32)) * (b >>> (16 : UInt32)) = p₁₁ at hproduct ⊢
  have hstart : (⟨p₀₀, 0⟩ : Unsigned64).toNat = p₀₀.toNat := by
    show 0 * 2 ^ 32 + p₀₀.toNat = _
    omega
  have hfirst : (addWords ⟨p₀₀, 0⟩ (p₀₁ <<< 16) (p₀₁ >>> 16)).toNat
      = p₀₀.toNat + p₀₁.toNat * 2 ^ 16 := by
    rw [addWords_toNat] <;> rw [shifted_toNat, hstart]
    omega
  have hsecond : (addWords (addWords ⟨p₀₀, 0⟩ (p₀₁ <<< 16) (p₀₁ >>> 16)) (p₁₀ <<< 16)
      (p₁₀ >>> 16)).toNat = p₀₀.toNat + p₀₁.toNat * 2 ^ 16 + p₁₀.toNat * 2 ^ 16 := by
    rw [addWords_toNat] <;> rw [shifted_toNat, hfirst]
    omega
  generalize addWords (addWords ⟨p₀₀, 0⟩ (p₀₁ <<< 16) (p₀₁ >>> 16)) (p₁₀ <<< 16) (p₁₀ >>> 16)
    = sum at hsecond ⊢
  unfold Unsigned64.toNat at hsecond ⊢
  have hhigh : sum.high.toNat + p₁₁.toNat < 2 ^ 32 := by omega
  have hsum : (sum.high + p₁₁).toNat = sum.high.toNat + p₁₁.toNat :=
    (UInt32.toNat_add sum.high p₁₁).trans (Nat.mod_eq_of_lt hhigh)
  dsimp only
  rewrite [hsum, Nat.add_mul, Nat.add_right_comm, hsecond]
  rfl

end Words

/-! ## Short factors -/

section Short

/-- A word that is not negative is its magnitude. -/
theorem magnitude_of_nonneg {a : Int32} (h : 0 ≤ a) : (magnitude a).toNat = a.toInt.toNat := by
  have hmin : a ≠ Int32.minValue := by
    rintro rfl
    exact absurd h (by decide)
  unfold magnitude
  rw [if_neg hmin, if_neg (Int32.not_lt.mpr h)]
  exact Int32.toNat_toUInt32_of_le h

/-- A short word is not negative. -/
theorem nonneg_toInt32 {a : UInt32} (h : a.toNat < 2 ^ 31) : 0 ≤ a.toInt32 := by
  rw [Int32.le_iff_toInt_le]
  show 0 ≤ a.toBitVec.toInt
  rw [BitVec.toInt_eq_toNat_of_lt (by show 2 * a.toNat < 2 ^ 32; omega)]
  exact Int.natCast_nonneg _

/-- The product of a rate and a time of at most a release fits. -/
theorem multiplyScaled_short {a b : Int32} (ha : 0 ≤ a) (hb : 0 ≤ b) (hshort : b ≤ 2048)
    (s : NumericStatus) : ∃ r, (multiplyScaled a b 16).run s = (r, s) ∧ 0 ≤ r := by
  have ha' := Int32.le_iff_toInt_le.mp ha
  have hb' := Int32.le_iff_toInt_le.mp hb
  have hshort' := Int32.le_iff_toInt_le.mp hshort
  have hproduct : (multiplyUnsigned32 (magnitude a) (magnitude b)).toNat ≤ 2 ^ 31 * 2048 := by
    rw [multiplyUnsigned32_toNat, magnitude_of_nonneg ha, magnitude_of_nonneg hb]
    refine Nat.mul_le_mul ?_ ?_
    · have := a.toInt_lt
      omega
    · have : (2048 : Int32).toInt = 2048 := rfl
      omega
  have hrounded := @addWords_toNat (multiplyUnsigned32 (magnitude a) (magnitude b)) 32768 0 (by
    show _ + (0 * 2 ^ 32 + 32768) < _
    omega)
  rw [show (0 : UInt32).toNat * 2 ^ 32 + (32768 : UInt32).toNat = 32768 from rfl] at hrounded
  have hsign : ((decide (a < 0)) != (decide (b < 0))) = false := by
    rw [decide_eq_false (Int32.not_lt.mpr ha), decide_eq_false (Int32.not_lt.mpr hb)]
    rfl
  have hrun : (multiplyScaled a b 16).run s = signedFromMagnitude (shiftRight
      (addWords (multiplyUnsigned32 (magnitude a) (magnitude b)) 32768 0) 16) false s := by
    rw [← hsign]
    rfl
  rw [hrun]
  generalize addWords (multiplyUnsigned32 (magnitude a) (magnitude b)) 32768 0 = sum at hrounded ⊢
  unfold Unsigned64.toNat at hproduct hrounded
  have hhigh : sum.high.toNat < 2 ^ 11 := by omega
  have htop : (sum.high >>> 16) = 0 := by
    refine UInt32.toNat_inj.mp ?_
    rw [toNat_high]
    show _ = 0
    omega
  have hlow : ((sum.low >>> 16) ||| (sum.high <<< 16)).toNat < 2 ^ 31 := by
    rw [UInt32.toNat_or]
    refine Nat.or_lt_two_pow ?_ ?_
    · rw [toNat_high]
      have := sum.low.toNat_lt
      omega
    · rw [UInt32.toNat_shiftLeft]
      show (sum.high.toNat <<< 16) % 2 ^ 32 < _
      rw [Nat.shiftLeft_eq]
      omega
  have hshift : shiftRight sum 16 = ⟨(sum.low >>> 16) ||| (sum.high <<< 16), 0⟩ := by
    rw [← htop]
    rfl
  rw [hshift]
  generalize (sum.low >>> 16) ||| (sum.high <<< 16) = low at hlow ⊢
  refine ⟨low.toInt32, ?_, nonneg_toInt32 hlow⟩
  unfold signedFromMagnitude
  rw [if_neg Bool.false_ne_true, if_neg]
  rintro (h | h)
  · exact h rfl
  · have hover : 2 ^ 31 - 1 < low.toNat := UInt32.lt_iff_toNat_lt.mp h
    omega

end Short

end Ksa64.Core
