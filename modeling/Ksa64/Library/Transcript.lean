import Ksa64.Library.Calls

/-!
# What programs call

The transcript of a run is the list of the calls that it makes.  Two programs are alike
(`Calls.Alike`) if they make the same calls whatever they are answered, and end with related results;
then their runs have the same transcript and leave the component in the same state, whatever the
component is.
-/

namespace Ksa64.Library

universe u v w x

namespace Calls

variable {κ : Type u} {Answer : κ → Type v} {α β γ δ : Type w} {σ : Type x}

/-- The calls of a run, in order. -/
def transcript (answer : (command : κ) → σ → Answer command × σ) : Calls κ Answer α → σ → List κ
  | done _, _ => []
  | call command next, s =>
      command :: (next (answer command s).1).transcript answer (answer command s).2

theorem transcript_andThen (answer : (command : κ) → σ → Answer command × σ) (p : Calls κ Answer α)
    (f : α → Calls κ Answer β) (s : σ) :
    (p.andThen f).transcript answer s =
      p.transcript answer s ++ (f (p.run answer s).1).transcript answer (p.run answer s).2 := by
  induction p generalizing s with
  | done result => rfl
  | call command next ih => exact congrArg (command :: ·) (ih _ _)

theorem Returns.mono {post post' : α → Prop} {p : Calls κ Answer α} (h : p.Returns post)
    (himp : ∀ a, post a → post' a) : p.Returns post' := by
  induction p with
  | done result => exact himp result h
  | call command next ih => exact fun answer ↦ ih answer (h answer)

/-- Whatever the first results are, the last are as they should be. -/
theorem Returns.andThen {post : α → Prop} {post' : β → Prop} {p : Calls κ Answer α}
    {f : α → Calls κ Answer β} (h : p.Returns post) (hf : ∀ a, post a → (f a).Returns post') :
    (p.andThen f).Returns post' := by
  induction p with
  | done result => exact hf result h
  | call command next ih => exact fun answer ↦ ih answer (h answer)

section Embed

variable {κ' : Type u} {Answer' : κ' → Type v}

/-- A program of a component that is part of a larger one. -/
def embed (f : κ → κ') (g : ∀ command, Answer' (f command) → Answer command) :
    Calls κ Answer α → Calls κ' Answer' α
  | done result => done result
  | call command next => call (f command) fun answer ↦ (next (g command answer)).embed f g

end Embed

/-- The programs make the same calls and have related results, whatever they are answered. -/
inductive Alike (R : α → β → Prop) : Calls κ Answer α → Calls κ Answer β → Prop where
  | done {a : α} {b : β} (h : R a b) : Alike R (done a) (done b)
  | call {command : κ} {next : Answer command → Calls κ Answer α}
      {next' : Answer command → Calls κ Answer β} (h : ∀ answer, Alike R (next answer) (next' answer)) :
      Alike R (call command next) (call command next')

namespace Alike

variable {R : α → β → Prop} {R' : γ → δ → Prop} {p : Calls κ Answer α} {q : Calls κ Answer β}

theorem andThen {f : α → Calls κ Answer γ} {g : β → Calls κ Answer δ} (h : Alike R p q)
    (hfg : ∀ a b, R a b → Alike R' (f a) (g b)) : Alike R' (p.andThen f) (q.andThen g) := by
  induction h with
  | done h => exact hfg _ _ h
  | call _ ih => exact .call ih

theorem embed {κ' : Type u} {Answer' : κ' → Type v} (h : Alike R p q) (f : κ → κ')
    (g : ∀ command, Answer' (f command) → Answer command) : Alike R (p.embed f g) (q.embed f g) := by
  induction h with
  | done h => exact .done h
  | call _ ih => exact .call fun answer ↦ ih _

variable (answer : (command : κ) → σ → Answer command × σ) (s : σ)

theorem transcript_eq (h : Alike R p q) : p.transcript answer s = q.transcript answer s := by
  induction h generalizing s with
  | done _ => rfl
  | call _ ih => exact congrArg _ (ih _ _)

theorem state_eq (h : Alike R p q) : (p.run answer s).2 = (q.run answer s).2 := by
  induction h generalizing s with
  | done _ => rfl
  | call _ ih => exact ih _ _

theorem result (h : Alike R p q) : R (p.run answer s).1 (q.run answer s).1 := by
  induction h generalizing s with
  | done h => exact h
  | call _ ih => exact ih _ _

end Alike

end Calls

end Ksa64.Library
