import Mathlib.Algebra.Order.Ring.Int
import Mathlib.Tactic.Common

/-!
# Words drawn from a keyed generator

A generator without a state gives a word for each key.  A computation that draws from it is the value
that it computes together with the keys under which it has drawn.
-/

namespace Ksa64.Library

universe u v

/-- A value, and the keys of the words that were drawn for it. -/
@[ext]
structure Drawn (κ : Type u) (α : Type v) where
  value : α
  keys : List κ

namespace Drawn

variable {κ : Type u} {α β : Type v}

instance instMonad : Monad (Drawn κ) where
  pure a := ⟨a, []⟩
  bind x f := ⟨(f x.value).value, x.keys ++ (f x.value).keys⟩

@[simp] theorem keys_pure (a : α) : (pure a : Drawn κ α).keys = [] := rfl

@[simp] theorem keys_bind (x : Drawn κ α) (f : α → Drawn κ β) :
    (x >>= f).keys = x.keys ++ (f x.value).keys := rfl

/-- What is drawn first is drawn. -/
theorem mem_keys_bind {x : Drawn κ α} {f : α → Drawn κ β} {key : κ} (h : key ∈ x.keys) :
    key ∈ (x >>= f).keys := List.mem_append_left _ h

/-- No key is used for two of the first computations. -/
def Apart (drawn : Nat → Drawn κ α) (count : Nat) : Prop :=
  ∀ i < count, ∀ j < count, i ≠ j → (drawn i).keys.Disjoint (drawn j).keys

/-- If one key is used for all of them, no two are apart. -/
theorem apart_iff_of_common {drawn : Nat → Drawn κ α} {count : Nat} {key : κ}
    (h : ∀ i < count, key ∈ (drawn i).keys) : Apart drawn count ↔ count ≤ 1 := by
  constructor
  · intro hapart
    by_contra hlt
    rw [Nat.not_le] at hlt
    exact hapart 0 (Nat.lt_of_succ_lt hlt) 1 hlt Nat.zero_ne_one (h 0 (Nat.lt_of_succ_lt hlt)) (h 1 hlt)
  · intro hle i hi j hj hne
    omega

end Drawn

end Ksa64.Library
