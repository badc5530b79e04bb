import Mathlib.Algebra.Order.Ring.Int
import Mathlib.Tactic.Common

/-!
# Calls that may fail half way

A call of a component with state returns a result or an error and, either way, the state
it leaves: what was done before the error stays done.  `Attempt` is the type of such calls,
and `andThen` goes on with a call that has succeeded.
-/

universe u v w x

namespace Ksa64.Library

/-- The result or error of a call, and the state after it. -/
abbrev Attempt (ε : Type u) (σ : Type v) (α : Type w) := Except ε α × σ

namespace Attempt

variable {ε : Type u} {σ : Type v} {α : Type w} {β : Type x}

/-- Go on with the result, or stop at the error. -/
def andThen (t : Attempt ε σ α) (next : α → σ → Attempt ε σ β) : Attempt ε σ β :=
  match t.1 with
  | .ok a => next a t.2
  | .error e => (.error e, t.2)

/-- The call returned an error. -/
def Failed (t : Attempt ε σ α) : Prop := ∃ e, t.1 = .error e

instance (t : Attempt ε σ α) : Decidable t.Failed :=
  match h : t.1 with
  | .ok _ => .isFalse fun ⟨_, he⟩ ↦ nomatch h.symm.trans he
  | .error e => .isTrue ⟨e, h⟩

variable {t : Attempt ε σ α} {next : α → σ → Attempt ε σ β} {a : α} {e : ε}

/-- A call that has failed did not succeed. -/
theorem not_failed_of_ok (h : t.1 = .ok a) : ¬t.Failed := by
  rintro ⟨e, he⟩
  cases h.symm.trans he

/-- Going on after a success. -/
theorem andThen_ok (h : t.1 = .ok a) : t.andThen next = next a t.2 := by
  unfold andThen
  rw [h]

/-- Stopping after a failure. -/
theorem andThen_error (h : t.1 = .error e) : t.andThen next = (.error e, t.2) := by
  unfold andThen
  rw [h]

/-- Going on after a failure leaves the state of the failure. -/
theorem andThen_of_failed (h : t.Failed) : (t.andThen next).2 = t.2 := by
  obtain ⟨e, he⟩ := h
  rw [andThen_error he]

/-- If the continuation always succeeds, the whole fails exactly when the first call does. -/
theorem failed_andThen (hnext : ∀ a s, ¬(next a s).Failed) :
    (t.andThen next).Failed ↔ t.Failed := by
  cases h : t.1 with
  | error e =>
      rw [andThen_error h]
      exact iff_of_true ⟨e, rfl⟩ ⟨e, h⟩
  | ok a =>
      rw [andThen_ok h]
      exact iff_of_false (hnext a t.2) (not_failed_of_ok h)

/-- If the first call leaves a `P`, every continuation leads from `P` to `Q`, and every `P` is a
`Q`, then the whole leaves a `Q`. -/
theorem andThen_leads {P Q : σ → Prop} (ht : P t.2) (hfailed : ∀ s, P s → Q s)
    (hnext : ∀ a s, P s → Q (next a s).2) : Q (t.andThen next).2 := by
  unfold andThen
  split
  · exact hnext _ _ ht
  · exact hfailed _ ht

/-- What the first call and every continuation keep, the whole keeps. -/
theorem andThen_keeps {P : σ → Prop} (ht : P t.2) (hnext : ∀ a s, P s → P (next a s).2) :
    P (t.andThen next).2 := andThen_leads ht (fun _ ↦ id) hnext

end Attempt

end Ksa64.Library
