import Mathlib.Data.List.Basic
import Mathlib.Algebra.Order.Ring.Int
import Mathlib.Tactic.Common

/-!
# Chunks

A list is cut into chunks of `n` elements; the last one may be shorter, none is empty.
-/

universe u

namespace Ksa64.Library

variable {α : Type u} {n : Nat} {xs : List α}

def chunks (n : Nat) (xs : List α) : List (List α) :=
  if n = 0 ∨ xs = [] then [] else xs.take n :: chunks n (xs.drop n)
termination_by xs.length
decreasing_by
  rename_i h
  obtain ⟨hn, hxs⟩ := not_or.mp h
  have hlength := List.length_pos_of_ne_nil hxs
  rw [List.length_drop]
  omega

@[simp] theorem chunks_nil : chunks n ([] : List α) = [] := by
  rw [chunks, if_pos (.inr rfl)]

theorem chunks_of_ne_nil (hn : n ≠ 0) (h : xs ≠ []) :
    chunks n xs = xs.take n :: chunks n (xs.drop n) := by
  rw [chunks, if_neg (not_or.mpr ⟨hn, h⟩)]

/-- The last chunk. -/
theorem chunks_of_le (hn : n ≠ 0) (h : xs ≠ []) (hle : xs.length ≤ n) : chunks n xs = [xs] := by
  rw [chunks_of_ne_nil hn h, List.take_of_length_le hle, List.drop_of_length_le hle, chunks_nil]

/-- There are as many chunks as it takes. -/
theorem length_chunks (hn : n ≠ 0) (xs : List α) :
    (chunks n xs).length = (xs.length + (n - 1)) / n := by
  induction hlength : xs.length using Nat.strongRecOn generalizing xs with
  | ind m ih =>
      by_cases hxs : xs = []
      · obtain rfl : m = 0 := by rw [← hlength, hxs, List.length_nil]
        rw [hxs, chunks_nil, List.length_nil, Nat.zero_add, Nat.div_eq_of_lt (by omega)]
      · have hpos := List.length_pos_of_ne_nil hxs
        have hrest := ih (xs.length - n) (by omega) (xs.drop n) List.length_drop
        rw [chunks_of_ne_nil hn hxs, List.length_cons, hrest, hlength]
        by_cases hle : m ≤ n
        · rw [Nat.sub_eq_zero_of_le hle, Nat.zero_add, Nat.div_eq_of_lt (by omega),
            show m + (n - 1) = m - 1 + n by omega, Nat.add_div_right _ (by omega),
            Nat.div_eq_of_lt (by omega)]
        · rw [show m + (n - 1) = m - n + (n - 1) + n by omega, Nat.add_div_right _ (by omega)]

end Ksa64.Library
