import Mathlib.Logic.Function.Basic
import Mathlib.Tactic.Common

/-!
# Writing through a map that is not injective

A memory is written under names, and different names may stand for one place.  Of the values that
are written to a place the last one stays there.
-/

namespace Ksa64.Library

variable {ι P V : Type} [DecidableEq P] (place : ι → P) (value : ι → V)

/-- The memory after values are written under names, in order. -/
def writeAll (names : List ι) (memory : P → V) : P → V :=
  names.foldl (fun memory name ↦ Function.update memory (place name) (value name)) memory

variable {place value} {names later : List ι} {name : ι} {memory before : P → V}

theorem writeAll_cons : writeAll place value (name :: names) memory
    = writeAll place value names (Function.update memory (place name) (value name)) := rfl

theorem writeAll_append : writeAll place value (names ++ later) memory
    = writeAll place value later (writeAll place value names memory) := List.foldl_append

/-- A place that is written under no name keeps its value. -/
theorem writeAll_of_forall_ne {p : P} (h : ∀ name ∈ names, place name ≠ p) :
    writeAll place value names memory p = memory p := by
  induction names generalizing memory with
  | nil => rfl
  | cons name names ih =>
      rw [List.forall_mem_cons] at h
      rw [writeAll_cons, ih h.2, Function.update_of_ne h.1.symm]

/-- The last value that is written to a place stays there. -/
theorem writeAll_last (h : ∀ other ∈ later, place other ≠ place name) :
    writeAll place value (names ++ name :: later) memory (place name) = value name := by
  rw [writeAll_append, writeAll_cons, writeAll_of_forall_ne h, Function.update_self]

/-- Writing what was there before, under every name that has been written since, restores the
memory. -/
theorem writeAll_restores (hvalue : ∀ name ∈ names, value name = before (place name))
    (hother : ∀ p, (∀ name ∈ names, place name ≠ p) → memory p = before p) :
    writeAll place value names memory = before := by
  induction names generalizing memory with
  | nil => exact funext fun p ↦ hother p (List.forall_mem_nil _)
  | cons name names ih =>
      rw [List.forall_mem_cons] at hvalue
      rw [writeAll_cons]
      refine ih hvalue.2 fun p hp ↦ ?_
      by_cases heq : p = place name
      · rw [heq, Function.update_self, hvalue.1]
      · rw [Function.update_of_ne heq]
        exact hother p (List.forall_mem_cons.mpr ⟨Ne.symm heq, hp⟩)

end Ksa64.Library
