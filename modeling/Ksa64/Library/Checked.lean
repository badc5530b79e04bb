import Mathlib.Algebra.Order.Ring.Int
import Mathlib.Tactic.Common

/-!
# Computations that check and fail

A parser or an admission rule is a sequence of checks in the `Except` monad, each
with the error it raises.  `reject` is one check; the two lemmas take a successful
computation apart into the checks that passed.
-/

universe u v

namespace Ksa64.Library

variable {ε : Type u} {α β : Type v}

/-- Fail with the error if the condition holds. -/
def reject (condition : Prop) [Decidable condition] (error : ε) : Except ε PUnit.{v + 1} :=
  if condition then throw error else pure ⟨⟩

/-- A check passes iff its condition does not hold. -/
@[simp] theorem reject_eq_ok {condition : Prop} [Decidable condition] {error : ε}
    {u : PUnit.{v + 1}} : reject condition error = .ok u ↔ ¬condition := by
  unfold reject
  split
  · rename_i h
    exact ⟨nofun, fun hn ↦ absurd h hn⟩
  · rename_i h
    exact ⟨fun _ ↦ h, fun _ ↦ rfl⟩

/-- A check fails iff its condition holds, and then with its own error. -/
theorem reject_eq_error {condition : Prop} [Decidable condition] {error e : ε} :
    (reject condition error : Except ε PUnit.{v + 1}) = .error e ↔ condition ∧ error = e := by
  unfold reject
  split
  · rename_i h
    exact ⟨fun he ↦ ⟨h, Except.error.inj he⟩, fun he ↦ congrArg _ he.2⟩
  · rename_i h
    exact ⟨nofun, fun hn ↦ absurd hn.1 h⟩

/-- A composed computation succeeds iff its parts do. -/
theorem bind_eq_ok {x : Except ε α} {f : α → Except ε β} {b : β} :
    (x >>= f) = .ok b ↔ ∃ a, x = .ok a ∧ f a = .ok b := by
  cases x with
  | error e => exact ⟨nofun, fun ⟨_, h, _⟩ ↦ nomatch h⟩
  | ok a =>
      constructor
      · intro h
        exact ⟨a, rfl, h⟩
      · rintro ⟨_, ha, h⟩
        cases ha
        exact h

/-- A computation that succeeds passes its value on. -/
theorem bind_of_ok {x : Except ε α} {a : α} (h : x = .ok a) (f : α → Except ε β) :
    (x >>= f) = f a := by
  rw [h]
  rfl

/-- A check that passes passes on. -/
theorem reject_bind {condition : Prop} [Decidable condition] {error : ε} (h : ¬condition)
    (f : PUnit.{v + 1} → Except ε β) : (reject condition error >>= f) = f ⟨⟩ :=
  bind_of_ok (reject_eq_ok.mpr h) f

/-- A check that fails is the end. -/
theorem reject_bind_of_fails {condition : Prop} [Decidable condition] {error : ε} (h : condition)
    (f : PUnit.{v + 1} → Except ε β) : (reject condition error >>= f) = .error error := by
  rw [reject, if_pos h]
  rfl

/-- Renaming the error does not change success. -/
theorem mapError_eq_ok {ε' : Type u} {x : Except ε α} {f : ε → ε'} {a : α} :
    x.mapError f = .ok a ↔ x = .ok a := by
  cases x with
  | error e => exact ⟨nofun, nofun⟩
  | ok b => exact ⟨fun h ↦ congrArg _ (Except.ok.inj h), fun h ↦ congrArg _ (Except.ok.inj h)⟩

/-- A pure computation returns its value. -/
theorem pure_eq_ok {a b : α} : (pure a : Except ε α) = .ok b ↔ a = b :=
  ⟨Except.ok.inj, congrArg _⟩

/-- A value that must be there. -/
theorem elim_throw_eq_ok {x : Option α} {e : ε} {a : α} :
    (x.elim (throw e) pure : Except ε α) = .ok a ↔ x = some a := by
  cases x with
  | none => exact ⟨nofun, nofun⟩
  | some b => exact pure_eq_ok.trans Option.some_inj.symm

section Loops

variable {γ : Type v} {n : Nat}

/-- A vector computed entry by entry. -/
theorem ofFnM_eq_ok {f : Fin n → Except ε γ} {entries : Vector γ n} :
    Vector.ofFnM f = .ok entries ↔ ∀ i : Fin n, f i = .ok entries[i] := by
  induction n with
  | zero =>
      rw [Vector.ofFnM_zero, pure_eq_ok]
      exact iff_of_true (Vector.ext nofun) nofun
  | succ n ih =>
      simp only [Vector.ofFnM_succ, bind_eq_ok, pure_eq_ok, ih]
      constructor
      · rintro ⟨front, hfront, last, hlast, rfl⟩ i
        refine Fin.lastCases ?_ (fun i ↦ ?_) i
        · simpa using hlast
        · simpa using hfront i
      · intro h
        refine ⟨entries.pop, fun i ↦ ?_, entries.back, ?_, Vector.push_pop_back entries⟩
        · simpa using h i.castSucc
        · simpa [Vector.back_eq_getElem] using h (Fin.last n)

/-- A loop of checks passes iff every check does. -/
theorem forM_eq_ok {items : List γ} {check : γ → Except ε PUnit.{v + 1}} :
    items.forM check = .ok ⟨⟩ ↔ ∀ item ∈ items, check item = .ok ⟨⟩ := by
  induction items with
  | nil => exact iff_of_true rfl nofun
  | cons item items ih =>
      rw [List.forM, bind_eq_ok, List.forall_mem_cons, ← ih]
      exact ⟨fun ⟨_, hitem, hitems⟩ ↦ ⟨hitem, hitems⟩, fun ⟨hitem, hitems⟩ ↦ ⟨_, hitem, hitems⟩⟩

end Loops

end Ksa64.Library
