import Mathlib.Data.List.DropRight
import Mathlib.Data.List.Basic
import Mathlib.Algebra.Order.Ring.Int
import Mathlib.Tactic.Common

/-!
# Ring buffers

A ring buffer of capacity `n` keeps its cells in a vector and its contents as the
`len` cells from `start` on, counted modulo `n`.  `ringView` is the list it stands
for.  Pushing into a ring with room appends to the list; pushing into a full ring
overwrites the oldest cell and moves `start`, which drops the head of the list.
Either way the list is the most recent `n` of everything pushed: `rtake_concat` is
the corresponding fact about `List.rtake`.
-/

universe u

namespace Ksa64.Library

variable {α : Type u} {n : Nat}

/-- The cell `off` places after `start`. -/
def ringIndex (start : Fin n) (off : Nat) : Fin n :=
  ⟨(start.val + off) % n, Nat.mod_lt _ start.pos⟩

/-- The contents of the ring, oldest first. -/
def ringView (cells : Vector α n) (start : Fin n) (len : Nat) : List α :=
  (List.range len).map fun off ↦ cells.get (ringIndex start off)

@[simp] theorem length_ringView (cells : Vector α n) (start : Fin n) (len : Nat) :
    (ringView cells start len).length = len := by simp [ringView]

/-- Two places less than a revolution apart are different cells. -/
theorem ringIndex_ne {start : Fin n} {a b : Nat} (hab : a < b) (hb : b < a + n) :
    ringIndex start b ≠ ringIndex start a := by
  intro h
  have hmod : (start.val + b) % n = (start.val + a) % n := congrArg Fin.val h
  have hdvd : n ∣ (start.val + b) - (start.val + a) :=
    Nat.dvd_of_mod_eq_zero (Nat.sub_mod_eq_zero_of_mod_eq hmod)
  obtain ⟨k, hk⟩ := hdvd
  rcases Nat.eq_zero_or_pos k with rfl | hk0
  · omega
  · have hle : n ≤ n * k := Nat.le_mul_of_pos_right n hk0
    omega

/-- The place a whole revolution after `start` is `start` itself. -/
theorem ringIndex_revolution (start : Fin n) : ringIndex start n = start := by
  apply Fin.ext
  simp only [ringIndex, Nat.add_mod_right]
  exact Nat.mod_eq_of_lt start.isLt

/-- Moving `start` by one moves every place by one. -/
theorem ringIndex_succ (start : Fin n) (off : Nat) :
    ringIndex (ringIndex start 1) off = ringIndex start (off + 1) := by
  apply Fin.ext
  simp only [ringIndex, Nat.mod_add_mod]
  congr 1
  omega

/-- Writing one cell leaves the others as they were. -/
theorem get_set_ne (cells : Vector α n) {i j : Fin n} (h : i ≠ j) (x : α) :
    (cells.set i.val x i.isLt).get j = cells.get j :=
  Vector.getElem_set_ne i.isLt j.isLt fun e ↦ h (Fin.ext e)

/-- The cell written holds what was written. -/
theorem get_set_self (cells : Vector α n) (i : Fin n) (x : α) :
    (cells.set i.val x i.isLt).get i = x :=
  Vector.getElem_set_self i.isLt

/-- Pushing into a ring with room appends. -/
theorem ringView_push (cells : Vector α n) (start : Fin n) {len : Nat} (hlen : len < n) (x : α) :
    ringView (cells.set (ringIndex start len).val x (ringIndex start len).isLt) start (len + 1)
      = ringView cells start len ++ [x] := by
  rw [ringView, List.range_succ, List.map_append, List.map_singleton, get_set_self]
  congr 1
  refine List.map_congr_left fun off hoff ↦ get_set_ne cells ?_ x
  exact ringIndex_ne (List.mem_range.mp hoff) (by omega)

/-- Pushing into a full ring drops the oldest element and appends. -/
theorem ringView_push_full (cells : Vector α n) (start : Fin n) (x : α) :
    ringView (cells.set start.val x start.isLt) (ringIndex start 1) n
      = (ringView cells start n).tail ++ [x] := by
  obtain ⟨m, rfl⟩ : ∃ m, n = m + 1 := ⟨n - 1, by have := start.pos; omega⟩
  have hlast : ringIndex (ringIndex start 1) m = start := by
    rw [ringIndex_succ, ringIndex_revolution]
  rw [ringView, List.range_succ, List.map_append, List.map_singleton, hlast, get_set_self]
  congr 1
  rw [ringView, List.range_succ_eq_map, List.map_cons, List.tail_cons, List.map_map]
  refine List.map_congr_left fun off hoff ↦ ?_
  rw [ringIndex_succ, get_set_ne]
  · rfl
  · intro h
    have hoff := List.mem_range.mp hoff
    have hne : ringIndex start (m + 1) ≠ ringIndex start (off + 1) :=
      ringIndex_ne (by omega) (by omega)
    exact hne (by rw [ringIndex_revolution]; exact h)

/-- The most recent `n` of a list extended by one element. -/
theorem rtake_concat (hn : 0 < n) (xs : List α) (x : α) :
    (xs ++ [x]).rtake n =
      if xs.length < n then xs.rtake n ++ [x] else (xs.rtake n).tail ++ [x] := by
  unfold List.rtake
  split
  · rename_i h
    have h₁ : (xs ++ [x]).length - n = 0 := by simp; omega
    have h₂ : xs.length - n = 0 := by omega
    rw [h₁, h₂, List.drop_zero, List.drop_zero]
  · rename_i h
    have h₁ : (xs ++ [x]).length - n = xs.length - n + 1 := by simp; omega
    rw [h₁, List.tail_drop, List.drop_append_of_le_length (by omega)]

/-- How many elements the most recent `n` are. -/
theorem length_rtake (xs : List α) : (xs.rtake n).length = min xs.length n := by
  simp only [List.rtake, List.length_drop]
  omega

end Ksa64.Library
