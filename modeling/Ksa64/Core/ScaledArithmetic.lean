import Ksa64.Core.Faults
import Ksa64.Library.Rounding
import Ksa64.Library.Words
import Ksa64.Library.Conversions
import Ksa64.Core.Products
import Mathlib.Algebra.Order.Ring.Int
import Mathlib.Tactic.Linarith

/-!
# Scaled arithmetic without faults

The loops of the numeric core compute what their names say: a long division brings down one bit of
the numerator at a time, a square root is searched for by halving an interval.  So an operation
that has recorded no fault has rounded its exact result to nearest, and a sum that has recorded none
is exact.
-/

namespace Ksa64.Core

/-! ## Words -/

section Words

variable {v w : Unsigned64} {shift : UInt8}

/-- The magnitude is the absolute value. -/
theorem magnitude_toNat (a : Int32) : (magnitude a).toNat = a.toInt.natAbs := by
  unfold magnitude
  split_ifs with hmin hneg
  · subst hmin
    rfl
  · have hneg' := Int32.lt_iff_toInt_lt.mp hneg
    have hvalue : (-a).toInt = -a.toInt := by
      rw [Int32.toInt_neg, Int.bmod_def]
      have hlow := Int32.le_toInt a
      have hne : a.toInt ≠ -2 ^ 31 := fun h ↦ hmin (Int32.toInt_inj.mp h)
      have hzero : (0 : Int32).toInt = 0 := rfl
      omega
    have hzero : (0 : Int32).toInt = 0 := rfl
    rw [Int32.toNat_toUInt32_of_le (Int32.le_iff_toInt_le.mpr (by omega))]
    show (-a).toInt.toNat = _
    rw [hvalue]
    omega
  · have hnonneg := Int32.le_iff_toInt_le.mp (Int32.not_lt.mp hneg)
    have hzero : (0 : Int32).toInt = 0 := rfl
    rw [Int32.toNat_toUInt32_of_le (Int32.not_lt.mp hneg)]
    show a.toInt.toNat = _
    omega

theorem Unsigned64.toNat_lt (v : Unsigned64) : v.toNat < 2 ^ 64 := by
  have hlow := v.low.toNat_lt
  have hhigh := v.high.toNat_lt
  unfold Unsigned64.toNat
  omega

/-- A shift by less than a word, as a number. -/
theorem toNat_shift (h : shift.toNat ≤ 31) : shift.toUInt32.toNat % 32 = shift.toNat :=
  Nat.mod_eq_of_lt (Nat.lt_succ_of_le h)

/-- The rest of the word. -/
theorem toNat_rest (h : shift.toNat ≤ 31) (h₀ : 0 < shift.toNat) :
    (32 - shift.toUInt32).toNat % 32 = 32 - shift.toNat := by
  have hshift : shift.toUInt32.toNat = shift.toNat := rfl
  rw [UInt32.toNat_sub_of_le _ _ (by
    rw [UInt32.le_iff_toNat_le]
    show shift.toNat ≤ 32
    omega)]
  show (32 - shift.toNat) % 32 = _
  omega

/-- The part of a word that a shift moves into the word above it. -/
theorem split_word {a k : Nat} (hk : k ≤ 32) :
    a / 2 ^ (32 - k) * 2 ^ 32 + a * 2 ^ k % 2 ^ 32 = a * 2 ^ k := by
  have hsplit : 2 ^ (32 - k) * 2 ^ k = 2 ^ 32 := by
    rw [← pow_add, Nat.sub_add_cancel hk]
  rw [← hsplit, Nat.mul_mod_mul_right, ← Nat.mul_assoc, ← Nat.add_mul, Nat.div_add_mod']

/-- A word moved up is multiplied. -/
theorem shiftLeft32_toNat {a : UInt32} (h : shift.toNat ≤ 31) :
    (shiftLeft32 a shift).toNat = a.toNat * 2 ^ shift.toNat := by
  unfold shiftLeft32
  split_ifs with h₀
  · subst h₀
    show 0 * 2 ^ 32 + a.toNat = a.toNat * 1
    omega
  · have hpos : 0 < shift.toNat := Nat.pos_of_ne_zero fun hz ↦ h₀ (UInt8.toNat_inj.mp hz)
    unfold Unsigned64.toNat
    rw [UInt32.toNat_shiftLeft, UInt32.toNat_shiftRight, toNat_shift h, toNat_rest h hpos,
      Nat.shiftLeft_eq, Nat.shiftRight_eq_div_pow]
    exact split_word (Nat.le_succ_of_le h)

/-- Two words moved down are divided. -/
theorem shiftRight_toNat (h : shift.toNat ≤ 31) :
    (shiftRight v shift).toNat = v.toNat / 2 ^ shift.toNat := by
  unfold shiftRight
  split_ifs with h₀
  · subst h₀
    show v.toNat = v.toNat / 1
    rw [Nat.div_one]
  · have hpos : 0 < shift.toNat := Nat.pos_of_ne_zero fun hz ↦ h₀ (UInt8.toNat_inj.mp hz)
    have hlow := v.low.toNat_lt
    have hsplit : 2 ^ (32 - shift.toNat) * 2 ^ shift.toNat = 2 ^ 32 := by
      rw [← pow_add, Nat.sub_add_cancel (by omega)]
    have hmoved : v.low.toNat / 2 ^ shift.toNat < 2 ^ (32 - shift.toNat) := by
      rw [Nat.div_lt_iff_lt_mul (Nat.two_pow_pos _), hsplit]
      exact hlow
    have hover : v.high.toNat * 2 ^ (32 - shift.toNat) % 2 ^ 32
        = 2 ^ (32 - shift.toNat) * (v.high.toNat % 2 ^ shift.toNat) := by
      rw [← hsplit, Nat.mul_comm, Nat.mul_mod_mul_left]
    unfold Unsigned64.toNat
    rw [UInt32.toNat_or, UInt32.toNat_shiftLeft, UInt32.toNat_shiftRight, UInt32.toNat_shiftRight,
      toNat_shift h, toNat_rest h hpos, Nat.shiftLeft_eq, Nat.shiftRight_eq_div_pow,
      Nat.shiftRight_eq_div_pow, hover, Nat.or_comm, ← Nat.two_pow_add_eq_or_of_lt hmoved]
    have hhigh := Nat.div_add_mod v.high.toNat (2 ^ shift.toNat)
    generalize hupper : v.high.toNat / 2 ^ shift.toNat = upper at hhigh ⊢
    generalize hlower : v.high.toNat % 2 ^ shift.toNat = lower at hhigh ⊢
    rw [← hhigh, ← hsplit]
    have hexpand : (2 ^ shift.toNat * upper + lower) * (2 ^ (32 - shift.toNat) * 2 ^ shift.toNat)
        + v.low.toNat = v.low.toNat + 2 ^ shift.toNat
          * (upper * (2 ^ (32 - shift.toNat) * 2 ^ shift.toNat)
            + 2 ^ (32 - shift.toNat) * lower) := by ring
    rw [hexpand, Nat.add_mul_div_left _ _ (Nat.two_pow_pos _)]
    ring

/-- The next number, if there is one. -/
theorem increment_toNat (h : v.toNat + 1 < 2 ^ 64) : (increment v).toNat = v.toNat + 1 := by
  have hlow := v.low.toNat_lt
  have hone : (v.low + 1).toNat = (v.low.toNat + 1) % 2 ^ 32 := UInt32.toNat_add v.low 1
  unfold Unsigned64.toNat at h ⊢
  unfold increment
  dsimp only
  split_ifs with hwrap
  · have hzero : (v.low + 1).toNat = 0 := by rw [hwrap]; rfl
    have hhigh : (v.high + 1).toNat = (v.high.toNat + 1) % 2 ^ 32 := UInt32.toNat_add v.high 1
    rw [hzero, hhigh]
    omega
  · have hzero : (v.low + 1).toNat ≠ 0 := fun hz ↦ hwrap (UInt32.toNat_inj.mp hz)
    rw [hone] at hzero ⊢
    omega

end Words

/-! ## Long division -/

section Division

variable {v n q : Unsigned64} {d r : UInt32} {position : Nat}

/-- A bit of two words. -/
theorem bitAt_toNat (h : position < 64) :
    (bitAt v position).toNat = v.toNat / 2 ^ position % 2 := by
  have hlow := v.low.toNat_lt
  have hbit : ∀ (a : UInt32) (k : Nat), k < 32 →
      ((a >>> UInt32.ofNat k) &&& 1).toNat = a.toNat / 2 ^ k % 2 := by
    intro a k hk
    have hsize : k < UInt32.size := hk.trans (by decide)
    rw [UInt32.toNat_and, UInt32.toNat_shiftRight, UInt32.toNat_ofNat_of_lt' hsize,
      Nat.mod_eq_of_lt hk, Nat.shiftRight_eq_div_pow]
    exact Nat.and_one_is_mod _
  unfold bitAt Unsigned64.toNat
  split_ifs with hposition
  · rw [hbit _ _ hposition]
    have hsplit : v.high.toNat * 2 ^ 32 = 2 ^ position * (2 * (2 ^ (31 - position) * v.high.toNat)) := by
      rw [← Nat.mul_assoc, ← Nat.mul_assoc, ← pow_succ, ← pow_add, Nat.mul_comm]
      congr 2
      omega
    rw [hsplit, Nat.add_comm, Nat.add_mul_div_left _ _ (Nat.two_pow_pos _),
      Nat.add_mul_mod_self_left]
  · rw [hbit _ _ (by omega)]
    have hsplit : 2 ^ position = 2 ^ 32 * 2 ^ (position - 32) := by
      rw [← pow_add, Nat.add_sub_cancel' (by omega)]
    rw [hsplit, ← Nat.div_div_eq_div_mul, Nat.mul_comm, Nat.add_comm,
      Nat.add_mul_div_left _ _ (by omega), Nat.div_eq_of_lt hlow, Nat.zero_add]

/-- A bit is set above the bits that are still open. -/
theorem setBit_toNat (h : position < 64) (hopen : v.toNat % 2 ^ (position + 1) = 0) :
    (setBit v position).toNat = v.toNat + 2 ^ position := by
  have hlow := v.low.toNat_lt
  have hset : ∀ (a : UInt32) (k : Nat), k < 32 → a.toNat % 2 ^ (k + 1) = 0 →
      (a ||| (1 <<< UInt32.ofNat k)).toNat = a.toNat + 2 ^ k := by
    intro a k hk ha
    obtain ⟨c, hc⟩ := Nat.dvd_of_mod_eq_zero ha
    have hpow : 2 ^ k < 2 ^ 32 := Nat.pow_lt_pow_right (by decide) hk
    have hone : ((1 : UInt32) <<< UInt32.ofNat k).toNat = 2 ^ k := by
      have hsize : k < UInt32.size := hk.trans (by decide)
      rw [UInt32.toNat_shiftLeft, UInt32.toNat_ofNat_of_lt' hsize, Nat.mod_eq_of_lt hk,
        Nat.shiftLeft_eq]
      show 1 * 2 ^ k % 2 ^ 32 = _
      rw [Nat.one_mul, Nat.mod_eq_of_lt hpow]
    rw [UInt32.toNat_or, hone, hc, Nat.two_pow_add_eq_or_of_lt]
    exact Nat.pow_lt_pow_right (by decide) (Nat.lt_succ_self k)
  unfold setBit
  unfold Unsigned64.toNat at hopen ⊢
  split_ifs with hposition
  · have hsplit : v.high.toNat * 2 ^ 32
        = 2 ^ (position + 1) * (2 ^ (31 - position) * v.high.toNat) := by
      rw [← Nat.mul_assoc, ← pow_add, Nat.mul_comm]
      congr 2
      omega
    rw [hsplit, Nat.mul_add_mod] at hopen
    dsimp only
    rw [hset _ _ hposition hopen, Nat.add_assoc]
  · have hsplit : 2 ^ (position + 1) = 2 ^ 32 * 2 ^ (position - 32 + 1) := by
      rw [← pow_add]
      congr 1
      omega
    have hlowZero : v.low.toNat = 0 := by
      have hmod := congrArg (· % 2 ^ 32) hopen
      beta_reduce at hmod
      rw [hsplit, Nat.mod_mul_right_mod] at hmod
      omega
    have hhigh : v.high.toNat % 2 ^ (position - 32 + 1) = 0 := by
      rw [hlowZero, Nat.add_zero, hsplit, Nat.mul_comm v.high.toNat,
        Nat.mul_mod_mul_left] at hopen
      exact (Nat.mul_eq_zero.mp hopen).resolve_left (by decide)
    dsimp only
    rw [hset _ _ (by omega) hhigh, Nat.add_mul, Nat.add_right_comm, ← pow_add]
    congr 2
    omega

/-- The quotient and the remainder of the bits that have been brought down. -/
structure Divides (n q : Unsigned64) (d r : UInt32) (position : Nat) : Prop where
  quotient : q.toNat = n.toNat / 2 ^ position / d.toNat * 2 ^ position
  remainder : r.toNat = n.toNat / 2 ^ position % d.toNat

/-- The next bit is brought down. -/
theorem Divides.bit {a b d : Nat} (hd : 0 < d) :
    (2 * a + b) / d = 2 * (a / d) + (2 * (a % d) + b) / d ∧
      (2 * a + b) % d = (2 * (a % d) + b) % d := by
  have hsplit : 2 * a + b = 2 * (a % d) + b + d * (2 * (a / d)) := by
    have hdiv := Nat.div_add_mod a d
    calc 2 * a + b = 2 * (d * (a / d) + a % d) + b := by rw [hdiv]
      _ = 2 * (a % d) + b + d * (2 * (a / d)) := by ring
  constructor
  · rw [hsplit, Nat.add_mul_div_left _ _ hd, Nat.add_comm]
  · rw [hsplit, Nat.add_mul_mod_self_left]

/-- The division loop finishes the division. -/
theorem divideUnsigned64By32Loop_divides (hd : 0 < d.toNat) (hd' : d.toNat ≤ 2 ^ 31) :
    ∀ {position : Nat} {q : Unsigned64} {r : UInt32}, position ≤ 64 → Divides n q d r position →
      Divides n (divideUnsigned64By32Loop n d position q r).1 d
        (divideUnsigned64By32Loop n d position q r).2 0 := by
  intro position
  induction position with
  | zero => exact fun _ h ↦ h
  | succ position ih =>
    intro q r hposition h
    have hr : r.toNat < d.toNat := by
      rw [h.remainder]
      exact Nat.mod_lt _ hd
    have hbit := bitAt_toNat (v := n) (Nat.lt_of_succ_le hposition)
    have hdown : n.toNat / 2 ^ position
        = 2 * (n.toNat / 2 ^ (position + 1)) + n.toNat / 2 ^ position % 2 := by
      rw [pow_succ, ← Nat.div_div_eq_div_mul]
      omega
    have hnext : ((r <<< 1) ||| bitAt n position).toNat
        = 2 * r.toNat + n.toNat / 2 ^ position % 2 := by
      rw [UInt32.toNat_or, UInt32.toNat_shiftLeft, hbit]
      show (r.toNat <<< 1) % 2 ^ 32 ||| _ = _
      rw [Nat.shiftLeft_eq, Nat.mod_eq_of_lt (by omega), Nat.mul_comm]
      exact (Nat.two_pow_add_eq_or_of_lt (i := 1) (by omega) r.toNat).symm
    obtain ⟨hquotient, hremainder⟩ := @Divides.bit (n.toNat / 2 ^ (position + 1))
      (n.toNat / 2 ^ position % 2) d.toNat hd
    rw [← hdown, ← h.remainder, ← hnext] at hquotient hremainder
    unfold divideUnsigned64By32Loop
    dsimp only
    generalize (r <<< 1) ||| bitAt n position = r' at hnext hquotient hremainder ⊢
    have hr' : r'.toNat < 2 * d.toNat := by omega
    split_ifs with hle
    · rw [UInt32.le_iff_toNat_le] at hle
      refine ih (Nat.le_of_succ_le hposition) ⟨?_, ?_⟩
      · rw [setBit_toNat (Nat.lt_of_succ_le hposition), h.quotient, hquotient]
        · have hone : r'.toNat / d.toNat = 1 := Nat.div_eq_of_lt_le (by omega) (by omega)
          rw [hone, pow_succ]
          ring
        · rw [h.quotient, Nat.mul_mod_left]
      · rw [UInt32.toNat_sub_of_le _ _ (UInt32.le_iff_toNat_le.mpr hle), hremainder,
          Nat.mod_eq_sub_mod hle, Nat.mod_eq_of_lt (by omega)]
    · rw [UInt32.le_iff_toNat_le, not_le] at hle
      refine ih (Nat.le_of_succ_le hposition) ⟨?_, ?_⟩
      · rw [h.quotient, hquotient, Nat.div_eq_of_lt hle, pow_succ]
        ring
      · rw [hremainder, Nat.mod_eq_of_lt hle]

/-- The division of two words by one. -/
theorem divideUnsigned64By32_toNat (hd : 0 < d.toNat) (hd' : d.toNat ≤ 2 ^ 31) :
    (divideUnsigned64By32 n d).1.toNat = n.toNat / d.toNat ∧
      (divideUnsigned64By32 n d).2.toNat = n.toNat % d.toNat := by
  have hstart : Divides n ⟨0, 0⟩ d 0 64 := by
    have hnone : n.toNat / 2 ^ 64 = 0 := Nat.div_eq_of_lt n.toNat_lt
    constructor
    · rw [hnone, Nat.zero_div, Nat.zero_mul]
      rfl
    · rw [hnone, Nat.zero_mod]
      rfl
  have hfinal := divideUnsigned64By32Loop_divides hd hd' le_rfl hstart
  have hquotient := hfinal.quotient
  have hremainder := hfinal.remainder
  rw [pow_zero, Nat.div_one] at hquotient hremainder
  rw [Nat.mul_one] at hquotient
  exact ⟨hquotient, hremainder⟩

end Division

/-! ## Square roots -/

section Roots

variable {target : Unsigned64}

/-- Words are compared from the high one down. -/
theorem Unsigned64.le_iff (v w : Unsigned64) :
    (v.high < w.high ∨ (v.high = w.high ∧ v.low ≤ w.low)) ↔ v.toNat ≤ w.toNat := by
  have hv := v.low.toNat_lt
  have hw := w.low.toNat_lt
  unfold Unsigned64.toNat
  rw [UInt32.lt_iff_toNat_lt, UInt32.le_iff_toNat_le, ← UInt32.toNat_inj]
  omega

/-- The root of the number, rounded down. -/
structure IsFloorRoot (target root : Nat) : Prop where
  le : root ^ 2 ≤ target
  lt : target < (root + 1) ^ 2

/-- The middle of an interval of words. -/
theorem middle_toNat {low high : UInt32} (hle : low ≤ high) :
    (low + ((high - low) >>> 1)).toNat = low.toNat + (high.toNat - low.toNat) / 2 := by
  have hhigh := high.toNat_lt
  have hle' := UInt32.le_iff_toNat_le.mp hle
  rw [UInt32.toNat_add, UInt32.toNat_shiftRight, UInt32.toNat_sub_of_le _ _ hle]
  show (low.toNat + (high.toNat - low.toNat) >>> 1) % 2 ^ 32 = _
  rw [Nat.shiftRight_eq_div_pow]
  omega

/-- The answer is the number below the interval, and it fits; what is above the interval does not.
An interval of `2 ^ fuel / 2` numbers is empty after that many rounds. -/
theorem sqrtFloorLoop_isFloorRoot {fuel : Nat} {low high answer : UInt32} (hle : low ≤ high)
    (hfuel : 2 * (high.toNat - low.toNat) + 1 < 2 ^ fuel)
    (hanswer : answer.toNat ^ 2 ≤ target.toNat)
    (hlow : low.toNat = 0 ∨ low.toNat = answer.toNat + 1)
    (hhigh : target.toNat < (high.toNat + 1) ^ 2) :
    IsFloorRoot target.toNat (sqrtFloorLoop target fuel low high answer).toNat := by
  induction fuel generalizing low high answer with
  | zero => exact absurd hfuel (by omega)
  | succ fuel ih =>
    have hle' := UInt32.le_iff_toNat_le.mp hle
    have hmiddle := middle_toNat hle
    have hbound := (low + ((high - low) >>> 1)).toNat_lt
    unfold sqrtFloorLoop
    dsimp only
    generalize low + ((high - low) >>> 1) = middle at hmiddle hbound ⊢
    have hsquare : (multiplyUnsigned32 middle middle).toNat = middle.toNat ^ 2 := by
      rw [multiplyUnsigned32_toNat, sq]
    by_cases hfits : middle.toNat ^ 2 ≤ target.toNat
    · rw [if_pos ((Unsigned64.le_iff _ target).mpr (hsquare.trans_le hfits))]
      have hlargest : (0xffffffff : UInt32).toNat = 2 ^ 32 - 1 := rfl
      by_cases hmax : middle = 0xffffffff
      · rw [if_pos hmax]
        refine ⟨hfits, ?_⟩
        rw [hmax, hlargest]
        exact target.toNat_lt
      · have hnext : (middle + 1).toNat = middle.toNat + 1 := by
          have hne : middle.toNat ≠ 2 ^ 32 - 1 := fun h ↦
            hmax (UInt32.toNat_inj.mp (h.trans hlargest.symm))
          rw [UInt32.toNat_add]
          exact Nat.mod_eq_of_lt (show middle.toNat + 1 < 2 ^ 32 by omega)
        rw [if_neg hmax]
        by_cases hlast : high < middle + 1
        · rw [if_pos hlast]
          rw [UInt32.lt_iff_toNat_lt, hnext] at hlast
          have heq : middle.toNat = high.toNat := by omega
          exact ⟨hfits, heq ▸ hhigh⟩
        · rw [if_neg hlast]
          rw [UInt32.lt_iff_toNat_lt, hnext] at hlast
          refine ih ?_ ?_ hfits (.inr hnext) hhigh
          · rw [UInt32.le_iff_toNat_le, hnext]
            omega
          · rw [hnext]
            omega
    · rw [if_neg (fun h ↦ hfits (hsquare.symm.trans_le ((Unsigned64.le_iff _ target).mp h)))]
      have hpos : middle.toNat ≠ 0 := by
        intro hzero
        rw [hzero] at hfits
        exact hfits (Nat.zero_le _)
      have hprev : (middle - 1).toNat = middle.toNat - 1 :=
        UInt32.toNat_sub_of_le _ _ (UInt32.le_iff_toNat_le.mpr (Nat.pos_of_ne_zero hpos))
      have hzero : middle ≠ 0 := by
        rintro rfl
        exact hpos rfl
      rw [if_neg hzero]
      have habove : target.toNat < (middle.toNat - 1 + 1) ^ 2 := by
        rw [Nat.sub_add_cancel (Nat.pos_of_ne_zero hpos)]
        exact not_le.mp hfits
      by_cases hlast : middle - 1 < low
      · rw [if_pos hlast]
        rw [UInt32.lt_iff_toNat_lt, hprev] at hlast
        have heq : middle.toNat - 1 = answer.toNat := by omega
        exact ⟨hanswer, heq ▸ habove⟩
      · rw [if_neg hlast]
        rw [UInt32.lt_iff_toNat_lt, hprev] at hlast
        refine ih ?_ ?_ hanswer hlow (hprev ▸ habove)
        · rw [UInt32.le_iff_toNat_le, hprev]
          omega
        · rw [hprev]
          omega

/-- The square root of two words. -/
theorem sqrtFloorUnsigned64_isFloorRoot :
    IsFloorRoot target.toNat (sqrtFloorUnsigned64 target).toNat := by
  refine sqrtFloorLoop_isFloorRoot (by decide) (by decide) (Nat.zero_le _) (.inl rfl) ?_
  exact target.toNat_lt

end Roots

/-! ## Operations in full

Each operation has the word of an exact number; a number that is not one of a word saturates, and
the fault is recorded. -/

open Ksa64.Library

section Settled

variable {a b r : Int32} {shift : UInt8} {s : NumericStatus} {x : Int}

/-- The number is in the range of a word. -/
def Fits (x : Int) : Prop := -2 ^ 31 ≤ x ∧ x < 2 ^ 31

instance (x : Int) : Decidable (Fits x) := inferInstanceAs (Decidable (_ ∧ _))

/-- The word of a number. -/
def settled (x : Int) (s : NumericStatus) : Int32 × NumericStatus :=
  (clampI32 x, if Fits x then s else s.record .saturation)

theorem settled_clear : (settled x s).2.Clear ↔ s.Clear ∧ Fits x := by
  unfold settled
  dsimp only
  split_ifs with h
  · exact (and_iff_left h).symm
  · exact iff_of_false (not_clear_record s .saturation) fun hfits ↦ h hfits.2

theorem toInt_settled : (settled x s).1.toInt = max (-2 ^ 31) (min (2 ^ 31 - 1) x) :=
  toInt_clampI32 x

theorem toInt_settled_of_fits (h : Fits x) : (settled x s).1.toInt = x := by
  obtain ⟨hlow, hhigh⟩ := h
  rw [toInt_settled]
  omega

theorem settled_of_fits (h : r.toInt = x) : settled x s = (r, s) := by
  have hlow := Int32.le_toInt r
  have hhigh := Int32.toInt_lt r
  have hword : clampI32 x = r := by
    rw [← Int32.toInt_inj, toInt_clampI32, h]
    omega
  unfold settled
  rw [hword, if_pos (show Fits x from ⟨by omega, by omega⟩)]

theorem settled_above (h : 2 ^ 31 ≤ x) : settled x s = (Int32.maxValue, s.record .saturation) := by
  have hmax : Int32.maxValue.toInt = 2 ^ 31 - 1 := rfl
  have hword : clampI32 x = Int32.maxValue := by
    rw [← Int32.toInt_inj, toInt_clampI32, hmax]
    omega
  unfold settled
  rw [hword, if_neg fun hfits : Fits x ↦ absurd hfits.2 (not_lt.mpr h)]

theorem settled_below (h : x < -2 ^ 31) : settled x s = (Int32.minValue, s.record .saturation) := by
  have hmin : Int32.minValue.toInt = -2 ^ 31 := rfl
  have hword : clampI32 x = Int32.minValue := by
    rw [← Int32.toInt_inj, toInt_clampI32, hmin]
    omega
  unfold settled
  rw [hword, if_neg fun hfits : Fits x ↦ absurd hfits.1 (not_le.mpr h)]

theorem signedFromMagnitude_settled {value : Unsigned64} {negative : Bool} :
    signedFromMagnitude value negative s
      = settled (if negative then -(value.toNat : Int) else value.toNat) s := by
  have hlow := value.low.toNat_lt
  have htop : (0x80000000 : UInt32).toNat = 2 ^ 31 := rfl
  have hmax : (0x7fffffff : UInt32).toNat = 2 ^ 31 - 1 := rfl
  have hword : ∀ {low : UInt32}, low.toNat < 2 ^ 31 → low.toInt32.toInt = low.toNat := by
    intro low hlow
    show low.toBitVec.toInt = _
    exact BitVec.toInt_eq_toNat_of_lt (by show 2 * low.toNat < 2 ^ 32; omega)
  have hhigh : value.high ≠ 0 ↔ value.high.toNat ≠ 0 := by
    rw [ne_eq, ← UInt32.toNat_inj]
    rfl
  have hvalue : value.toNat = value.high.toNat * 2 ^ 32 + value.low.toNat := rfl
  unfold signedFromMagnitude
  split_ifs with hnegative hover hmin hover
  · rw [hhigh, UInt32.lt_iff_toNat_lt, htop] at hover
    exact (settled_below (by omega)).symm
  · rw [hhigh, UInt32.lt_iff_toNat_lt, htop] at hover
    rw [← UInt32.toNat_inj, htop] at hmin
    refine (settled_of_fits ?_).symm
    show -2 ^ 31 = _
    omega
  · rw [hhigh, UInt32.lt_iff_toNat_lt, htop] at hover
    rw [← UInt32.toNat_inj, htop] at hmin
    refine (settled_of_fits ?_).symm
    rw [Int32.toInt_neg, hword (by omega), Int.bmod_def]
    omega
  · rw [hhigh, UInt32.lt_iff_toNat_lt, hmax] at hover
    exact (settled_above (by omega)).symm
  · rw [hhigh, UInt32.lt_iff_toNat_lt, hmax] at hover
    refine (settled_of_fits ?_).symm
    rw [hword (by omega)]
    omega

end Settled

/-! ## Operations that record no fault -/

section Faultless

variable {a b r : Int32} {shift : UInt8} {s s' : NumericStatus}

/-- A number that is recorded without a fault is one of a word. -/
theorem settled_exact {x : Int} (h : settled x s = (r, s')) (hs : s'.Clear) : r.toInt = x := by
  have hclear : (settled x s).2.Clear := by
    rw [h]
    exact hs
  have hword : (settled x s).1 = r := congrArg Prod.fst h
  obtain ⟨-, hlow, hhigh⟩ := settled_clear.mp hclear
  rw [← hword, toInt_settled]
  omega

/-- A magnitude with a sign. -/
theorem signedFromMagnitude_clear {value : Unsigned64} {negative : Bool}
    (h : signedFromMagnitude value negative s = (r, s')) (hs : s'.Clear) :
    r.toInt = if negative then -(value.toNat : Int) else value.toNat :=
  settled_exact (signedFromMagnitude_settled.symm.trans h) hs

/-- The sign of a product. -/
theorem signed_product (x y : Int) : x * y =
    if decide (x < 0) != decide (y < 0) then -((x.natAbs * y.natAbs : Nat) : Int)
    else (x.natAbs * y.natAbs : Nat) := by
  obtain hx | hx := lt_or_ge x 0 <;> obtain hy | hy := lt_or_ge y 0
  · rw [decide_eq_true hx, decide_eq_true hy, if_neg (by decide), Int.natCast_mul,
      Int.ofNat_natAbs_of_nonpos hx.le, Int.ofNat_natAbs_of_nonpos hy.le, neg_mul_neg]
  · rw [decide_eq_true hx, decide_eq_false (not_lt.mpr hy), if_pos (by decide), Int.natCast_mul,
      Int.ofNat_natAbs_of_nonpos hx.le, Int.natAbs_of_nonneg hy, neg_mul, neg_neg]
  · rw [decide_eq_false (not_lt.mpr hx), decide_eq_true hy, if_pos (by decide), Int.natCast_mul,
      Int.natAbs_of_nonneg hx, Int.ofNat_natAbs_of_nonpos hy.le, mul_neg, neg_neg]
  · rw [decide_eq_false (not_lt.mpr hx), decide_eq_false (not_lt.mpr hy), if_neg (by decide),
      Int.natCast_mul, Int.natAbs_of_nonneg hx, Int.natAbs_of_nonneg hy]

/-- A word is negative if its value is. -/
theorem decide_neg (a : Int32) : decide (a < 0) = decide (a.toInt < 0) :=
  decide_eq_decide.mpr Int32.lt_iff_toInt_lt

/-- Numbers with one sign are as far apart as their magnitudes. -/
theorem abs_signed (negative : Bool) (p q : Nat) (m : Int) :
    |(if negative then -(p : Int) else p) - (if negative then -(q : Int) else q) * m|
      = |(p : Int) - q * m| := by
  cases negative
  · rfl
  · show |-(p : Int) - -(q : Int) * m| = _
    rw [← abs_neg]
    congr 1
    ring

/-- The absolute value of a word. -/
theorem natAbs_le (a : Int32) : a.toInt.natAbs ≤ 2 ^ 31 := by
  have hlow := Int32.le_toInt a
  have hhigh := Int32.toInt_lt a
  omega

/-- Half the divisor is added before the division. -/
theorem half_added {p d : Nat} (hd : 0 < d) :
    2 * |(p : Int) - ((p + d) / (2 * d) : Nat) * (2 * d : Nat)| ≤ (2 * d : Nat) := by
  have hdiv := Nat.div_add_mod (p + d) (2 * d)
  have hmod := Nat.mod_lt (p + d) (show 0 < 2 * d by omega)
  rw [Nat.mul_comm] at hdiv
  generalize (p + d) / (2 * d) = q at hdiv ⊢
  generalize (p + d) % (2 * d) = rest at hdiv hmod
  have hcast : (q : Int) * (2 * d : Nat) + rest = p + d := by exact_mod_cast hdiv
  have hnear : |(p : Int) - q * (2 * d : Nat)| ≤ d := by
    rw [abs_le]
    constructor <;> omega
  calc 2 * |(p : Int) - q * (2 * d : Nat)| ≤ 2 * d := by omega
    _ = (2 * d : Nat) := by push_cast; rfl

/-- The magnitude of a rounded product: half a unit is added before the shift. -/
theorem roundedProduct_toNat {k : Nat} (hk : shift.toNat = k + 1) (hshift : shift.toNat ≤ 31) :
    (shiftRight (addWords (multiplyUnsigned32 (magnitude a) (magnitude b))
      (1 <<< (shift - 1).toUInt32) 0) shift).toNat
      = (a.toInt.natAbs * b.toInt.natAbs + 2 ^ k) / (2 * 2 ^ k) := by
  have hhalf : ((1 : UInt32) <<< (shift - 1).toUInt32).toNat = 2 ^ k := by
    have hprev : (shift - 1).toUInt32.toNat = k := by
      show (shift - 1).toNat = k
      have hone : (1 : UInt8).toNat ≤ shift.toNat := by
        show 1 ≤ shift.toNat
        omega
      rw [UInt8.toNat_sub_of_le _ _ (UInt8.le_iff_toNat_le.mpr hone), hk]
      rfl
    have hpow : 2 ^ k < 2 ^ 32 := Nat.pow_lt_pow_right (by decide) (by omega)
    rw [UInt32.toNat_shiftLeft, hprev]
    show (1 <<< (k % 32)) % 2 ^ 32 = _
    rw [Nat.mod_eq_of_lt (show k < 32 by omega), Nat.shiftLeft_eq, Nat.one_mul,
      Nat.mod_eq_of_lt hpow]
  have hproduct : (multiplyUnsigned32 (magnitude a) (magnitude b)).toNat
      = a.toInt.natAbs * b.toInt.natAbs := by
    rw [multiplyUnsigned32_toNat, magnitude_toNat, magnitude_toNat]
  have hbound : a.toInt.natAbs * b.toInt.natAbs ≤ 2 ^ 31 * 2 ^ 31 :=
    Nat.mul_le_mul (natAbs_le a) (natAbs_le b)
  have hpow : 2 ^ k < 2 ^ 31 := Nat.pow_lt_pow_right (by decide) (by omega)
  have hsum := @addWords_toNat (multiplyUnsigned32 (magnitude a) (magnitude b))
    (1 <<< (shift - 1).toUInt32) 0 (by
      rw [hproduct, hhalf]
      show _ + (0 * 2 ^ 32 + 2 ^ k) < 2 ^ 64
      omega)
  rw [hproduct, hhalf, show (0 : UInt32).toNat * 2 ^ 32 + 2 ^ k = 2 ^ k from Nat.zero_add _]
    at hsum
  rw [shiftRight_toNat hshift, hsum, hk, pow_succ, Nat.mul_comm (2 ^ k) 2]

theorem multiplyScaled_run (hpos : 0 < shift.toNat) (hshift : shift.toNat ≤ 31) :
    (multiplyScaled a b shift).run s
      = signedFromMagnitude (shiftRight (addWords (multiplyUnsigned32 (magnitude a) (magnitude b))
          (1 <<< (shift - 1).toUInt32) 0) shift) (decide (a < 0) != decide (b < 0)) s := by
  have hlarge : ¬31 < shift := fun hlt ↦ absurd (UInt8.lt_iff_toNat_lt.mp hlt) (not_lt.mpr hshift)
  have hzero : shift ≠ 0 := by
    rintro rfl
    exact absurd hpos (Nat.lt_irrefl 0)
  unfold multiplyScaled
  rw [if_neg hlarge]
  dsimp only
  rw [if_neg hzero]
  rfl

/-- A product is rounded to the nearest number. -/
theorem multiplyScaled_near (h : (multiplyScaled a b shift).run s = (r, s')) (hs : s'.Clear)
    (hpos : 0 < shift.toNat) (hshift : shift.toNat ≤ 31) :
    2 * |a.toInt * b.toInt - r.toInt * 2 ^ shift.toNat| ≤ 2 ^ shift.toNat := by
  obtain ⟨k, hk⟩ := Nat.exists_eq_succ_of_ne_zero hpos.ne'
  rw [multiplyScaled_run hpos hshift] at h
  have hr := signedFromMagnitude_clear h hs
  rw [roundedProduct_toNat hk hshift] at hr
  rw [hr, signed_product a.toInt b.toInt, ← decide_neg, ← decide_neg, hk, pow_succ,
    mul_comm ((2 : Int) ^ k), abs_signed]
  exact_mod_cast half_added (Nat.two_pow_pos k)

/-- A remainder of at least half the divisor rounds up. -/
theorem half_up {n d : Nat} (hd : 0 < d) :
    2 * |(n : Int) - ((if d - n % d ≤ n % d then n / d + 1 else n / d : Nat) : Nat) * d| ≤ d := by
  have hdiv := Nat.div_add_mod n d
  have hmod := Nat.mod_lt n hd
  rw [Nat.mul_comm] at hdiv
  generalize n / d = q at hdiv ⊢
  generalize n % d = rest at hdiv hmod ⊢
  have hcast : (q : Int) * d + rest = n := by exact_mod_cast hdiv
  split_ifs with hup
  · have hexpand : (n : Int) - ((q + 1 : Nat) : Int) * d = rest - d := by
      push_cast
      linarith only [hcast]
    rw [hexpand, abs_of_nonpos (by omega)]
    omega
  · have hexpand : (n : Int) - (q : Int) * d = rest := by linarith only [hcast]
    rw [hexpand, abs_of_nonneg (by omega)]
    omega

/-- A quotient of words that a remainder of at least half the divisor rounds up. -/
def nearestQuotient (numerator : Unsigned64) (divisor : UInt32) : Unsigned64 :=
  if divisor - (divideUnsigned64By32 numerator divisor).2 ≤ (divideUnsigned64By32 numerator divisor).2
  then increment (divideUnsigned64By32 numerator divisor).1
  else (divideUnsigned64By32 numerator divisor).1

/-- Whether the remainder is at least half the divisor. -/
theorem half_reached {d r : UInt32} (h : r.toNat ≤ d.toNat) :
    d - r ≤ r ↔ d.toNat - r.toNat ≤ r.toNat := by
  rw [UInt32.le_iff_toNat_le, UInt32.toNat_sub_of_le _ _ (UInt32.le_iff_toNat_le.mpr h)]

theorem nearestQuotient_toNat {n : Unsigned64} {d : UInt32} (hd : 0 < d.toNat)
    (hd' : d.toNat ≤ 2 ^ 31) (hn : n.toNat + 1 < 2 ^ 64) :
    (nearestQuotient n d).toNat = if d.toNat - n.toNat % d.toNat ≤ n.toNat % d.toNat
      then n.toNat / d.toNat + 1 else n.toNat / d.toNat := by
  obtain ⟨hquotient, hremainder⟩ := @divideUnsigned64By32_toNat n d hd hd'
  have hmod := Nat.mod_lt n.toNat hd
  have hdiv := Nat.div_le_self n.toNat d.toNat
  unfold nearestQuotient
  generalize (divideUnsigned64By32 n d).1 = q at hquotient ⊢
  generalize (divideUnsigned64By32 n d).2 = r at hremainder ⊢
  have hle : d - r ≤ r ↔ d.toNat - n.toNat % d.toNat ≤ n.toNat % d.toNat := by
    rw [half_reached (hremainder.trans_le hmod.le), hremainder]
  by_cases hup : d.toNat - n.toNat % d.toNat ≤ n.toNat % d.toNat
  · rw [if_pos (hle.mpr hup), if_pos hup, increment_toNat, hquotient]
    rw [hquotient]
    omega
  · rw [if_neg (fun h ↦ hup (hle.mp h)), if_neg hup, hquotient]

theorem divideScaled_run (hzero : b ≠ 0) (hlarge : ¬31 < shift) :
    (divideScaled a b shift).run s
      = signedFromMagnitude (nearestQuotient (shiftLeft32 (magnitude a) shift) (magnitude b))
        (decide (a < 0) != decide (b < 0)) s := by
  unfold divideScaled nearestQuotient
  rw [if_neg hzero, if_neg hlarge]
  dsimp only
  generalize divideUnsigned64By32 (shiftLeft32 (magnitude a) shift) (magnitude b) = result
  rcases result with ⟨quotient, remainder⟩
  rfl

/-- A quotient is rounded to the nearest number. -/
theorem divideScaled_near (h : (divideScaled a b shift).run s = (r, s')) (hs : s'.Clear)
    (hb : 0 < b.toInt) (hshift : shift.toNat ≤ 31) :
    2 * |a.toInt * 2 ^ shift.toNat - r.toInt * b.toInt| ≤ b.toInt := by
  have hlarge : ¬31 < shift := fun hlt ↦ absurd (UInt8.lt_iff_toNat_lt.mp hlt) (not_lt.mpr hshift)
  have hzero : b ≠ 0 := by
    rintro rfl
    exact absurd hb (lt_irrefl _)
  have hdivisor : (magnitude b).toNat = b.toInt.natAbs := magnitude_toNat b
  have hbound := natAbs_le b
  have hnumerator : (shiftLeft32 (magnitude a) shift).toNat
      = a.toInt.natAbs * 2 ^ shift.toNat := by
    rw [shiftLeft32_toNat hshift, magnitude_toNat]
  have hpow : 2 ^ shift.toNat ≤ 2 ^ 31 := Nat.pow_le_pow_right Nat.two_pos hshift
  have hsize : a.toInt.natAbs * 2 ^ shift.toNat ≤ 2 ^ 31 * 2 ^ 31 :=
    Nat.mul_le_mul (natAbs_le a) hpow
  rw [divideScaled_run hzero hlarge] at h
  have hr := signedFromMagnitude_clear h hs
  rw [nearestQuotient_toNat (by omega) (by omega) (by omega), hnumerator, hdivisor] at hr
  have hsigned := signed_product a.toInt (2 ^ shift.toNat)
  have hpositive : decide ((2 : Int) ^ shift.toNat < 0) = decide (b.toInt < 0) := by
    rw [decide_eq_false (not_lt.mpr hb.le), decide_eq_false (not_lt.mpr (by positivity))]
  rw [hpositive, Int.natAbs_pow, ← decide_neg, ← decide_neg] at hsigned
  have hcast : (b.toInt.natAbs : Int) = b.toInt := Int.natAbs_of_nonneg hb.le
  have hnear := @half_up (a.toInt.natAbs * 2 ^ shift.toNat) b.toInt.natAbs (by omega)
  rw [← abs_signed (decide (a < 0) != decide (b < 0)), hcast] at hnear
  rw [hsigned, hr]
  exact hnear

/-- A scaled product. -/
theorem multiplyScaled_settled (hpos : 0 < shift.toNat) (hshift : shift.toNat ≤ 31) :
    (multiplyScaled a b shift).run s
      = settled (roundAway (a.toInt * b.toInt) (2 ^ shift.toNat)) s := by
  obtain ⟨k, hk⟩ := Nat.exists_eq_succ_of_ne_zero hpos.ne'
  have hround := @roundAway_signed (a.toInt.natAbs * b.toInt.natAbs) (2 ^ shift.toNat)
    (Nat.two_pow_pos _) (decide (a < 0) != decide (b < 0))
  have hhalf : (2 * (a.toInt.natAbs * b.toInt.natAbs) + 2 ^ shift.toNat) / (2 * 2 ^ shift.toNat)
      = (a.toInt.natAbs * b.toInt.natAbs + 2 ^ k) / (2 * 2 ^ k) := by
    rw [hk, pow_succ, Nat.mul_comm (2 ^ k) 2, ← Nat.mul_add, Nat.mul_div_mul_left _ _ Nat.two_pos]
  rw [multiplyScaled_run hpos hshift, signedFromMagnitude_settled, roundedProduct_toNat hk hshift,
    signed_product a.toInt b.toInt, ← decide_neg, ← decide_neg, ← hhalf]
  push_cast at hround ⊢
  rw [hround]

/-- Rounding up from half the divisor on is rounding to nearest. -/
theorem half_up_eq {n d : Nat} (hd : 0 < d) :
    (if d - n % d ≤ n % d then n / d + 1 else n / d) = (2 * n + d) / (2 * d) := by
  have hdiv := Nat.div_add_mod n d
  have hmod := Nat.mod_lt n hd
  generalize n / d = q at hdiv ⊢
  generalize n % d = rest at hdiv hmod ⊢
  subst hdiv
  have hsplit : 2 * (d * q + rest) + d = 2 * rest + d + 2 * d * q := by ring
  rw [hsplit, Nat.add_mul_div_left _ _ (by omega)]
  split_ifs with hup
  · rw [Nat.div_eq_of_lt_le (k := 1) (by omega) (by omega)]
    omega
  · rw [Nat.div_eq_of_lt (by omega)]
    omega

/-- The sign of a quotient. -/
theorem signed_quotient (negative : Bool) {p d : Nat} (hd : 0 < d) {n : Unsigned64}
    (hn : n.toNat = if d - p % d ≤ p % d then p / d + 1 else p / d) :
    signedFromMagnitude n negative s
      = settled (roundAway (if negative then -(p : Int) else p) d) s := by
  rw [signedFromMagnitude_settled, hn, half_up_eq hd, roundAway_signed hd]

/-- A scaled quotient, by the magnitudes. -/
theorem divideScaled_signed (hb : b ≠ 0) (hshift : shift.toNat ≤ 31) :
    (divideScaled a b shift).run s
      = settled (roundAway (if decide (a < 0) != decide (b < 0)
          then -((a.toInt.natAbs * 2 ^ shift.toNat : Nat) : Int)
          else (a.toInt.natAbs * 2 ^ shift.toNat : Nat)) b.toInt.natAbs) s := by
  have hlarge : ¬31 < shift := fun hlt ↦ absurd (UInt8.lt_iff_toNat_lt.mp hlt) (not_lt.mpr hshift)
  have hzero : b.toInt ≠ 0 := fun h ↦ hb (Int32.toInt_inj.mp h)
  have hdivisor : (magnitude b).toNat = b.toInt.natAbs := magnitude_toNat b
  have hbound := natAbs_le b
  have hnumerator : (shiftLeft32 (magnitude a) shift).toNat
      = a.toInt.natAbs * 2 ^ shift.toNat := by
    rw [shiftLeft32_toNat hshift, magnitude_toNat]
  have hpow : 2 ^ shift.toNat ≤ 2 ^ 31 := Nat.pow_le_pow_right Nat.two_pos hshift
  have hsize : a.toInt.natAbs * 2 ^ shift.toNat ≤ 2 ^ 31 * 2 ^ 31 :=
    Nat.mul_le_mul (natAbs_le a) hpow
  rw [divideScaled_run hb hlarge]
  refine signed_quotient _ (by omega) ?_
  rw [nearestQuotient_toNat (by omega) (by omega) (by omega), hnumerator, hdivisor]

/-- A scaled quotient by a positive word. -/
theorem divideScaled_settled (hb : 0 < b.toInt) (hshift : shift.toNat ≤ 31) :
    (divideScaled a b shift).run s
      = settled (roundAway (a.toInt * 2 ^ shift.toNat) b.toInt) s := by
  have hzero : b ≠ 0 := by
    rintro rfl
    exact absurd hb (lt_irrefl _)
  have hsigned := signed_product a.toInt (2 ^ shift.toNat)
  have hpositive : decide ((2 : Int) ^ shift.toNat < 0) = decide (b.toInt < 0) := by
    rw [decide_eq_false (not_lt.mpr hb.le), decide_eq_false (not_lt.mpr (by positivity))]
  rw [hpositive, Int.natAbs_pow, ← decide_neg, ← decide_neg] at hsigned
  rw [divideScaled_signed hzero hshift, hsigned, Int.natAbs_of_nonneg hb.le]
  rfl

theorem add_settled : (add a b).run s = settled (a.toInt + b.toInt) s := by
  have hal := Int32.le_toInt a
  have hah := Int32.toInt_lt a
  have hbl := Int32.le_toInt b
  have hbh := Int32.toInt_lt b
  have hmax : Int32.maxValue.toInt = 2 ^ 31 - 1 := rfl
  have hmin : Int32.minValue.toInt = -2 ^ 31 := rfl
  have hzero : (0 : Int32).toInt = 0 := rfl
  unfold add
  split_ifs with hover hunder
  · rw [Int32.lt_iff_toInt_lt, Int32.lt_iff_toInt_lt, hzero] at hover
    rw [toInt_sub_of_fits (by omega) (by omega)] at hover
    exact (settled_above (by omega)).symm
  · rw [Int32.lt_iff_toInt_lt, Int32.lt_iff_toInt_lt, hzero] at hunder
    rw [toInt_sub_of_fits (by omega) (by omega)] at hunder
    exact (settled_below (by omega)).symm
  · refine (settled_of_fits ?_).symm
    rw [Int32.lt_iff_toInt_lt, Int32.lt_iff_toInt_lt, hzero] at hover hunder
    obtain hb | hb | hb := lt_trichotomy b.toInt 0
    · rw [toInt_sub_of_fits (by omega) (by omega)] at hunder
      exact toInt_add_of_fits (by omega) (by omega)
    · exact toInt_add_of_fits (by omega) (by omega)
    · rw [toInt_sub_of_fits (by omega) (by omega)] at hover
      exact toInt_add_of_fits (by omega) (by omega)

theorem subtract_settled : (subtract a b).run s = settled (a.toInt - b.toInt) s := by
  have hal := Int32.le_toInt a
  have hah := Int32.toInt_lt a
  have hbl := Int32.le_toInt b
  have hbh := Int32.toInt_lt b
  have hmax : Int32.maxValue.toInt = 2 ^ 31 - 1 := rfl
  have hmin : Int32.minValue.toInt = -2 ^ 31 := rfl
  have hzero : (0 : Int32).toInt = 0 := rfl
  unfold subtract
  split_ifs with hunder hover
  · rw [Int32.lt_iff_toInt_lt, Int32.lt_iff_toInt_lt, hzero] at hunder
    rw [toInt_add_of_fits (by omega) (by omega)] at hunder
    exact (settled_below (by omega)).symm
  · rw [Int32.lt_iff_toInt_lt, Int32.lt_iff_toInt_lt, hzero] at hover
    rw [toInt_add_of_fits (by omega) (by omega)] at hover
    exact (settled_above (by omega)).symm
  · refine (settled_of_fits ?_).symm
    rw [Int32.lt_iff_toInt_lt, Int32.lt_iff_toInt_lt, hzero] at hover hunder
    obtain hb | hb | hb := lt_trichotomy b.toInt 0
    · rw [toInt_add_of_fits (by omega) (by omega)] at hover
      exact toInt_sub_of_fits (by omega) (by omega)
    · exact toInt_sub_of_fits (by omega) (by omega)
    · rw [toInt_add_of_fits (by omega) (by omega)] at hunder
      exact toInt_sub_of_fits (by omega) (by omega)

/-- A sum is exact. -/
theorem add_exact (h : (add a b).run s = (r, s')) (hs : s'.Clear) :
    r.toInt = a.toInt + b.toInt :=
  settled_exact (add_settled.symm.trans h) hs

/-- A difference is exact. -/
theorem subtract_exact (h : (subtract a b).run s = (r, s')) (hs : s'.Clear) :
    r.toInt = a.toInt - b.toInt :=
  settled_exact (subtract_settled.symm.trans h) hs

end Faultless

end Ksa64.Core
