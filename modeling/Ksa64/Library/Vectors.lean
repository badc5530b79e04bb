import Mathlib.Algebra.Order.Ring.Int
import Mathlib.Tactic.Common

/-!
# Short vectors

Vectors of two, three and four components, with their components by name.
-/

namespace Ksa64.Library

variable {α : Type}

/-! ## Two components -/

theorem Pair.first_lt : 0 < 2 := Nat.zero_lt_succ 1

theorem Pair.second_lt : 1 < 2 := Nat.lt_succ_self 1

def Pair.first (v : Vector α 2) : α := v.get ⟨0, Pair.first_lt⟩

def Pair.second (v : Vector α 2) : α := v.get ⟨1, Pair.second_lt⟩

theorem Pair.size (a b : α) : (#[a, b] : Array α).size = 2 := rfl

def Pair.of (a b : α) : Vector α 2 := ⟨#[a, b], Pair.size a b⟩

@[simp] theorem Pair.of_eq (a b : α) : Pair.of a b = ⟨#[a, b], Pair.size a b⟩ := rfl

/-! ## Three components -/

theorem Axes.x_lt : 0 < 3 := Nat.zero_lt_succ 2

theorem Axes.y_lt : 1 < 3 := Nat.succ_lt_succ (Nat.zero_lt_succ 1)

theorem Axes.z_lt : 2 < 3 := Nat.lt_succ_self 2

def Axes.x (v : Vector α 3) : α := v.get ⟨0, Axes.x_lt⟩

def Axes.y (v : Vector α 3) : α := v.get ⟨1, Axes.y_lt⟩

def Axes.z (v : Vector α 3) : α := v.get ⟨2, Axes.z_lt⟩

theorem Axes.size (x y z : α) : (#[x, y, z] : Array α).size = 3 := rfl

/-- A vector along three axes. -/
def Axes.of (x y z : α) : Vector α 3 := ⟨#[x, y, z], Axes.size x y z⟩

@[simp] theorem Axes.of_eq (x y z : α) : Axes.of x y z = ⟨#[x, y, z], Axes.size x y z⟩ := rfl

/-- Every axis has the value. -/
def Axes.all (value : α) : Vector α 3 := .replicate 3 value

/-! ## Four components -/

theorem Quad.w_lt : 0 < 4 := Nat.zero_lt_succ 3

theorem Quad.x_lt : 1 < 4 := Nat.succ_lt_succ (Nat.zero_lt_succ 2)

theorem Quad.y_lt : 2 < 4 := Nat.succ_lt_succ (Nat.succ_lt_succ (Nat.zero_lt_succ 1))

/-- The component of an axis, behind the scalar. -/
theorem Quad.axis_lt (axis : Fin 3) : axis.val + 1 < 4 := Nat.succ_lt_succ axis.isLt

theorem Quad.size (w x y z : α) : (#[w, x, y, z] : Array α).size = 4 := rfl

def Quad.of (w x y z : α) : Vector α 4 := ⟨#[w, x, y, z], Quad.size w x y z⟩

@[simp] theorem Quad.of_eq (w x y z : α) : Quad.of w x y z = ⟨#[w, x, y, z], Quad.size w x y z⟩ :=
  rfl

/-! ## Sixteen components -/

theorem Arguments.first_lt : 0 < 16 := Nat.zero_lt_succ 15

end Ksa64.Library
