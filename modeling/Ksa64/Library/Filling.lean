import Mathlib.Algebra.Order.Ring.Nat
import Mathlib.Order.MinMax
import Mathlib.Tactic.Common

/-!
# Filling a room

Items of one size are put into a room, as many as fit and at most as many as there are.  The room is
counted in words of 32 bits, in which an operation that is checked fails with an error and one that
is not overflows: a computation has a result, an error, or neither.

How many items there are can be found by division (`fillDivided`) or by putting in one after the
other (`fillLoop`).  The loop stops with an error if the item that does not fit does not fit into a
word, either.
-/

universe u

namespace Ksa64.Library

variable {ε α : Type}

/-- The computation overflows. -/
def overflow : ExceptT ε Option α := ExceptT.mk none

/-- A word, or an error. -/
def checked (e : ε) (n : Nat) : ExceptT ε Option Nat := if n < 2 ^ 32 then pure n else throw e

/-- A word, or an overflow. -/
def plain (n : Nat) : ExceptT ε Option Nat := if n < 2 ^ 32 then pure n else overflow

def plainSub (a b : Nat) : ExceptT ε Option Nat := if b ≤ a then pure (a - b) else overflow

def plainDiv (a b : Nat) : ExceptT ε Option Nat := if b = 0 then overflow else pure (a / b)

/-- The number of items and the room that is used then, by division. -/
def fillDivided (capacity used cost limit : Nat) : ExceptT ε Option (Nat × Nat) := do
  let room ← plainSub capacity used
  let fitting ← plainDiv room cost
  let bytes ← plain (min fitting limit * cost)
  let used ← plain (used + bytes)
  pure (min fitting limit, used)

/-- The number of items and the room that is used then, item by item. -/
def fillLoop (e : ε) (capacity cost : Nat) : Nat → Nat → Nat → ExceptT ε Option (Nat × Nat)
  | 0, count, used => pure (count, used)
  | left + 1, count, used => do
      let next ← checked e (used + cost)
      if next > capacity then pure (count, used)
      else fillLoop e capacity cost left (count + 1) next

section Results

variable {β : Type} {e : ε} {n a b : Nat} (f : Nat → ExceptT ε Option β)

theorem checked_bind (h : n < 2 ^ 32) : (checked e n >>= f) = f n := by
  unfold checked
  rw [if_pos h]
  rfl

theorem checked_bind_of_le (h : 2 ^ 32 ≤ n) : (checked e n >>= f) = throw e := by
  unfold checked
  rw [if_neg (Nat.not_lt.mpr h)]
  rfl

theorem plain_bind (h : n < 2 ^ 32) : (plain n >>= f) = f n := by
  unfold plain
  rw [if_pos h]
  rfl

theorem plain_bind_of_le (h : 2 ^ 32 ≤ n) : (plain n >>= f) = overflow := by
  unfold plain
  rw [if_neg (Nat.not_lt.mpr h)]
  rfl

theorem plainSub_bind (h : b ≤ a) : (plainSub a b >>= f) = f (a - b) := by
  unfold plainSub
  rw [if_pos h]
  rfl

theorem plainDiv_bind (h : 0 < b) : (plainDiv a b >>= f) = f (a / b) := by
  unfold plainDiv
  rw [if_neg h.ne']
  rfl

/-! Results, errors and overflows are different. -/

theorem pure_ne_overflow {a : α} : (pure a : ExceptT ε Option α) ≠ overflow := by
  intro h
  have hsome : some (Except.ok a) = (none : Option (Except ε α)) := h
  cases hsome

theorem throw_ne_overflow : (throw e : ExceptT ε Option α) ≠ overflow := by
  intro h
  have hsome : some (Except.error e) = (none : Option (Except ε α)) := h
  cases hsome

theorem throw_ne_pure {a : α} : (throw e : ExceptT ε Option α) ≠ pure a := by
  intro h
  have hsome : some (Except.error e) = some (Except.ok a) := h
  cases hsome

theorem pure_inj {a b : α} (h : (pure a : ExceptT ε Option α) = pure b) : a = b := by
  have hsome : some (Except.ok a : Except ε α) = some (Except.ok b) := h
  cases hsome
  rfl

end Results

section Filling

variable {e : ε} {capacity used cost limit : Nat}

/-- A room that is filled as far as it goes. -/
structure Filled (capacity used cost limit count used' : Nat) : Prop where
  count_le : count ≤ limit
  used_eq : used' = used + count * cost
  used_le : used' ≤ capacity
  full : count = limit ∨ capacity < used' + cost

/-- What fits into the rest of the room, by the division. -/
theorem filled_min (hused : used ≤ capacity) (hcost : 0 < cost) :
    Filled capacity used cost limit (min ((capacity - used) / cost) limit)
      (used + min ((capacity - used) / cost) limit * cost) := by
  have hfits : (capacity - used) / cost * cost ≤ capacity - used := Nat.div_mul_le_self _ _
  have hnext : capacity - used < ((capacity - used) / cost + 1) * cost := by
    rw [Nat.mul_comm]
    exact Nat.lt_mul_div_succ _ hcost
  rw [Nat.add_mul, Nat.one_mul] at hnext
  refine ⟨min_le_right _ _, rfl, ?_, ?_⟩
  · have hmin := Nat.mul_le_mul_right cost (min_le_left ((capacity - used) / cost) limit)
    omega
  · rcases Nat.le_total limit ((capacity - used) / cost) with hle | hle
    · exact .inl (min_eq_right hle)
    · rw [min_eq_left hle]
      exact .inr (by omega)

theorem fillDivided_eq (hcapacity : capacity < 2 ^ 32) (hused : used ≤ capacity)
    (hcost : 0 < cost) : (fillDivided capacity used cost limit : ExceptT ε Option (Nat × Nat))
      = pure (min ((capacity - used) / cost) limit,
        used + min ((capacity - used) / cost) limit * cost) := by
  obtain ⟨-, -, hfits, -⟩ := @filled_min capacity used cost limit hused hcost
  unfold fillDivided
  rw [plainSub_bind _ hused, plainDiv_bind _ hcost, plain_bind _ (by omega), plain_bind _ (by omega)]

/-- An item that fits is counted, and then the others are. -/
theorem div_of_fits (hcost : 0 < cost) (h : used + cost ≤ capacity) :
    (capacity - used) / cost = (capacity - (used + cost)) / cost + 1 := by
  rw [show capacity - used = capacity - (used + cost) + cost by omega, Nat.add_div_right _ hcost]

theorem div_of_not_fits (h : capacity < used + cost) (hused : used ≤ capacity) :
    (capacity - used) / cost = 0 := Nat.div_eq_of_lt (by omega)

/-- An item that is left fits neither into the room nor into a word. -/
def FillingStops (capacity used cost left : Nat) : Prop :=
  (capacity - used) / cost < left ∧ 2 ^ 32 ≤ used + (capacity - used) / cost * cost + cost

instance : Decidable (FillingStops capacity used cost limit) := instDecidableAnd

/-- In a room that is not too large, the first item that does not fit into a word is the first
one. -/
theorem fillingStops_iff (hcapacity : 2 * capacity < 2 ^ 32) (hused : used ≤ capacity) :
    FillingStops capacity used cost limit ↔ 0 < limit ∧ 2 ^ 32 ≤ used + cost := by
  unfold FillingStops
  have hfits : (capacity - used) / cost * cost ≤ capacity - used := Nat.div_mul_le_self _ _
  constructor
  · rintro ⟨hleft, hlarge⟩
    have hquotient := @div_of_not_fits capacity used cost (by omega) hused
    rw [hquotient, Nat.zero_mul, Nat.add_zero] at hlarge
    exact ⟨(Nat.zero_le _).trans_lt hleft, hlarge⟩
  · rintro ⟨hleft, hlarge⟩
    have hquotient := @div_of_not_fits capacity used cost (by omega) hused
    rw [hquotient, Nat.zero_mul, Nat.add_zero]
    exact ⟨hleft, hlarge⟩

/-- The loop finds what the division finds, if it does not stop with an error. -/
theorem fillLoop_eq (hcapacity : capacity < 2 ^ 32) (hcost : 0 < cost) (left count used : Nat)
    (hused : used ≤ capacity) : fillLoop e capacity cost left count used
      = if FillingStops capacity used cost left then throw e
        else pure (count + min ((capacity - used) / cost) left,
          used + min ((capacity - used) / cost) left * cost) := by
  induction left generalizing count used with
  | zero =>
      rw [if_neg fun h ↦ Nat.not_lt_zero _ h.1, Nat.min_zero, Nat.zero_mul]
      rfl
  | succ left ih =>
      unfold fillLoop
      by_cases hfits : used + cost ≤ capacity
      · have hquotient := div_of_fits hcost hfits
        have hone (n : Nat) : used + cost + n * cost = used + (n + 1) * cost := by
          rw [Nat.add_mul, Nat.one_mul, Nat.add_assoc, Nat.add_comm cost]
        rw [checked_bind _ (by omega), if_neg (by omega), ih _ _ hfits, hquotient,
          Nat.add_min_add_right, hone, Nat.add_assoc count, Nat.add_comm 1]
        refine if_congr ?_ rfl rfl
        unfold FillingStops
        rw [hquotient, hone]
        exact and_congr Nat.succ_lt_succ_iff.symm Iff.rfl
      · have hquotient := div_of_not_fits (Nat.lt_of_not_le hfits) hused
        have hstops : FillingStops capacity used cost (left + 1) ↔ 2 ^ 32 ≤ used + cost := by
          unfold FillingStops
          rw [hquotient, Nat.zero_mul, Nat.add_zero]
          exact and_iff_right (Nat.succ_pos left)
        by_cases hlarge : 2 ^ 32 ≤ used + cost
        · rw [checked_bind_of_le _ hlarge, if_pos (hstops.mpr hlarge)]
        · rw [checked_bind _ (by omega), if_pos (by omega), if_neg (mt hstops.mp hlarge), hquotient,
            Nat.zero_min, Nat.zero_mul]
          rfl

end Filling

end Ksa64.Library
