import Mathlib.Data.Fintype.Card
import Mathlib.Data.List.Chain
import Mathlib.Data.Set.Finite.List
import Mathlib.Order.Bounds.Defs
import Mathlib.Order.WellFounded

/-!
# Layers of a finite strict order

The items of a finite list with a strict order are peeled off in layers: first those with nothing
below them, then those with nothing below them among the others, and so on.  There is always a next
layer, and an item is in the layer of the length of the longest chain below it.
-/

universe u

namespace Ksa64.Library

variable {α : Type u} {r : α → α → Prop} {l : List α} {i j : α} {k : Nat}

/-- Something in the list is minimal. -/
theorem exists_minimal [IsTrans α r] [Std.Irrefl r] (h : l ≠ []) :
    ∃ i ∈ l, ∀ j ∈ l, ¬r j i := by
  have hwf : WellFounded fun x y : {i // i ∈ l} ↦ r x.val y.val := by
    have hfinite : Finite {i // i ∈ l} := List.finite_toSet l
    have htrans : IsTrans {i // i ∈ l} fun x y ↦ r x.val y.val :=
      ⟨fun x y z ↦ IsTrans.trans (r := r) x.val y.val z.val⟩
    have hirrefl : Std.Irrefl fun x y : {i // i ∈ l} ↦ r x.val y.val :=
      ⟨fun x ↦ Std.Irrefl.irrefl (r := r) x.val⟩
    exact Finite.wellFounded_of_trans_of_irrefl _
  obtain ⟨i, hi⟩ := List.exists_mem_of_ne_nil l h
  obtain ⟨⟨m, hm⟩, -, hmin⟩ := hwf.has_min Set.univ ⟨⟨i, hi⟩, trivial⟩
  exact ⟨m, hm, fun j hj ↦ hmin ⟨j, hj⟩ trivial⟩

/-- Something minimal is below every item that is not minimal itself. -/
theorem exists_minimal_below [IsTrans α r] [Std.Irrefl r] [DecidableRel r] (hi : i ∈ l) :
    ∃ m ∈ l, (∀ j ∈ l, ¬r j m) ∧ (m = i ∨ r m i) := by
  by_cases hminimal : ∀ j ∈ l, ¬r j i
  · exact ⟨i, hi, hminimal, .inl rfl⟩
  simp only [not_forall, not_not] at hminimal
  obtain ⟨j, hj, hji⟩ := hminimal
  -- a minimal one of the items below is minimal among all
  obtain ⟨m, hm, hmin⟩ := @exists_minimal α r (l.filter fun j ↦ r j i) _ _
    (List.ne_nil_of_mem (List.mem_filter.mpr ⟨hj, decide_eq_true hji⟩))
  obtain ⟨hml, hmi⟩ := List.mem_filter.mp hm
  have hmi := of_decide_eq_true hmi
  refine ⟨m, hml, fun x hx hxm ↦ ?_, .inr hmi⟩
  exact hmin x (List.mem_filter.mpr ⟨hx, decide_eq_true (IsTrans.trans x m i hxm hmi)⟩) hxm

/-- A chain of `k` items of the list, each below the next one, and the last one below `i`. -/
def ChainBelow (r : α → α → Prop) (l : List α) (k : Nat) (i : α) : Prop :=
  ∃ js : List α, js.length = k ∧ js ⊆ l ∧ (js ++ [i]).IsChain r

theorem chainBelow_zero : ChainBelow r l 0 i := ⟨[], rfl, List.nil_subset l, .singleton i⟩

/-- A chain ends with an item that is below the next one. -/
theorem chainBelow_succ : ChainBelow r l (k + 1) i ↔ ∃ j ∈ l, r j i ∧ ChainBelow r l k j := by
  constructor
  · rintro ⟨js, hlength, hsub, hchain⟩
    obtain rfl | ⟨front, j, rfl⟩ := List.eq_nil_or_concat js
    · cases hlength
    · rw [List.concat_eq_append] at hlength hsub hchain
      rw [List.append_assoc] at hchain
      obtain ⟨hfront, hlast⟩ := List.isChain_split.mp hchain
      refine ⟨j, hsub (List.mem_append_right _ (List.mem_singleton_self j)),
        (List.isChain_cons_cons.mp hlast).1, front, ?_, fun x hx ↦ hsub (List.mem_append_left _ hx),
        hfront⟩
      rw [List.length_append] at hlength
      exact Nat.succ.inj hlength
  · rintro ⟨j, hj, hji, js, hlength, hsub, hchain⟩
    refine ⟨js ++ [j], by rw [List.length_append, hlength]; rfl, ?_, ?_⟩
    · exact List.append_subset.mpr ⟨hsub, List.cons_subset.mpr ⟨hj, List.nil_subset l⟩⟩
    · rw [List.append_assoc]
      exact List.isChain_split.mpr ⟨hchain, List.isChain_cons_cons.mpr ⟨hji, .singleton i⟩⟩

/-- A chain without its first item. -/
theorem ChainBelow.shorten (h : ChainBelow r l (k + 1) i) : ChainBelow r l k i := by
  induction k generalizing i with
  | zero => exact chainBelow_zero
  | succ k ih =>
    obtain ⟨j, hj, hji, hbelow⟩ := chainBelow_succ.mp h
    exact chainBelow_succ.mpr ⟨j, hj, hji, ih hbelow⟩

theorem ChainBelow.mono {k' : Nat} (h : ChainBelow r l k i) (hk : k' ≤ k) :
    ChainBelow r l k' i := by
  induction k, hk using Nat.le_induction with
  | base => exact h
  | succ k _ ih => exact ih h.shorten

/-- The items in the layer `k`, of those in it or above it, are those that have a chain of length `k`
below them and no longer one. -/
theorem isGreatest_of_layer (h : ChainBelow r l k i)
    (hminimal : ∀ j ∈ l, ChainBelow r l k j → ¬r j i) :
    IsGreatest {k | ChainBelow r l k i} k := by
  refine ⟨h, fun k' hk' ↦ ?_⟩
  by_contra hlt
  obtain ⟨j, hj, hji, hbelow⟩ := chainBelow_succ.mp (hk'.mono (Nat.lt_of_not_le hlt))
  exact hminimal j hj hbelow hji

end Ksa64.Library
