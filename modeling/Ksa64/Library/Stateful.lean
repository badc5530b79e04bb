import Mathlib.Tactic.Common

/-!
# Computations with a state and errors

A computation over a state of type `σ` may also stop with an error, which keeps the state.  A
result of such a computation comes from a result of each of its parts (`bind_ok`), so what is known
of the parts can be put together; `Returns` carries what is known of every result.

Some states only get worse: `Reflects P x` says that if `P` holds after `x` it held before, too.
It is a class, so that it is found for a computation from what the computation is put together of.
`Establishes P x Q` adds what is known of the result of `x` when `P` holds after it.
-/

universe u v

namespace Ksa64.Library

variable {σ ε α β : Type u}

/-! ## Results -/

section Results

variable {x : ExceptT ε (StateM σ) α} {f : α → ExceptT ε (StateM σ) β} {s s' : σ} {a : α} {b : β}

/-- A result of two computations one after the other comes from a result of each. -/
theorem bind_ok (h : (x >>= f).run.run s = (.ok b, s')) :
    ∃ a s₁, x.run.run s = (.ok a, s₁) ∧ (f a).run.run s₁ = (.ok b, s') := by
  rw [ExceptT.run_bind, StateT.run_bind] at h
  rcases hx : x.run.run s with ⟨_ | a, s₁⟩
  · rw [hx] at h
    cases h
  · rw [hx] at h
    exact ⟨a, s₁, rfl, h⟩

/-- The result of a computation that only returns. -/
theorem pure_ok {a' : α} (h : (pure a : ExceptT ε (StateM σ) α).run.run s = (.ok a', s')) :
    a = a' ∧ s = s' := by
  cases h
  exact ⟨rfl, rfl⟩

/-- A computation without errors has its result. -/
theorem lift_ok {x : StateM σ α} (h : (x : ExceptT ε (StateM σ) α).run.run s = (.ok a, s')) :
    x.run s = (a, s') := by
  cases h
  rfl

theorem lift_run {x : StateM σ α} {p : α × σ} (h : x.run s = p) :
    (x : ExceptT ε (StateM σ) α).run.run s = (.ok p.1, p.2) := by
  subst h
  rfl

/-- A computation without a state keeps the state. -/
theorem except_ok {x : Except ε α} (h : (x : ExceptT ε (StateM σ) α).run.run s = (.ok a, s')) :
    x = .ok a ∧ s = s' := by
  cases h
  exact ⟨rfl, rfl⟩

/-- The second of two computations starts with the result and the state of the first. -/
theorem run_bind_of {x : StateM σ α} {g : α → StateM σ β} {p : α × σ} (h : x.run s = p) :
    (x >>= g).run s = (g p.1).run p.2 := by
  rw [StateT.run_bind, h]
  rfl

/-- A computation goes on with what a first one returns. -/
theorem bind_run_ok {s₁ : σ} (h : x.run.run s = (.ok a, s₁)) :
    (x >>= f).run.run s = (f a).run.run s₁ := by
  rw [ExceptT.run_bind, StateT.run_bind, h]
  rfl

/-- What is returned need not be caught. -/
theorem tryCatch_run_ok {handle : ε → ExceptT ε (StateM σ) α} (h : x.run.run s = (.ok a, s')) :
    (tryCatch x handle).run.run s = (.ok a, s') := by
  show StateT.run (ExceptT.run (ExceptT.tryCatch x handle)) s = _
  unfold ExceptT.tryCatch
  show StateT.run (@bind (StateM σ) _ _ _ x.run _) s = _
  rw [StateT.run_bind, h]
  rfl

/-- A change of the state after a check: a check that fails leaves the state. -/
theorem checked_update {check : σ → Except ε PUnit} {g : σ → σ} :
    (do
      let s ← get
      check s
      set (g s) : ExceptT ε (StateM σ) PUnit).run.run s
      = match check s with
        | .ok _ => (.ok ⟨⟩, g s)
        | .error e => (.error e, s) := by
  show StateT.run (ExceptT.run (do (check s : ExceptT ε (StateM σ) PUnit); set (g s))) s = _
  cases check s with
  | ok u => rfl
  | error e => rfl

/-- Every result of the computation is a `P`. -/
def Returns (x : ExceptT ε (StateM σ) α) (P : α → Prop) : Prop :=
  ∀ s a s', x.run.run s = (.ok a, s') → P a

variable {P : β → Prop}

/-- What is returned is the result. -/
theorem returns_pure (h : P b) : Returns (pure b : ExceptT ε (StateM σ) β) P := by
  rintro s b' s' hb
  cases hb
  exact h

/-- The result of a computation is that of its continuation. -/
theorem returns_bind (h : ∀ a, Returns (f a) P) : Returns (x >>= f) P := by
  rintro s b s' hb
  obtain ⟨a, s₁, -, hf⟩ := bind_ok hb
  exact h a s₁ b s' hf

end Results

/-! ## Going back -/

/-- If `P` holds after the computation, it held before. -/
class Reflects (P : σ → Prop) (x : StateM σ α) : Prop where
  before : ∀ s, P (x.run s).2 → P s

section Reflects

variable {P : σ → Prop}

instance Reflects.pure {a : α} : Reflects P (Pure.pure a : StateM σ α) := ⟨fun _ h ↦ h⟩

/-- It reflects if the first part does and then the continuation. -/
theorem Reflects.goesOn {x : StateM σ α} {f : α → StateM σ β} [hx : Reflects P x]
    (hf : ∀ a, Reflects P (f a)) : Reflects P (x >>= f) :=
  ⟨fun s h ↦ hx.before s ((hf _).before _ h)⟩

instance Reflects.bind {x : StateM σ α} {f : α → StateM σ β} [Reflects P x]
    [hf : ∀ a, Reflects P (f a)] : Reflects P (x >>= f) := goesOn hf

instance Reflects.ite {c : Prop} [Decidable c] {x y : StateM σ α} [hx : Reflects P x]
    [hy : Reflects P y] : Reflects P (if c then x else y) := by
  split
  · exact hx
  · exact hy

instance Reflects.get : Reflects P (MonadState.get : StateM σ σ) := ⟨fun _ h ↦ h⟩

instance Reflects.run_pure {a : α} : Reflects P (Pure.pure a : ExceptT ε (StateM σ) α).run :=
  ⟨fun _ h ↦ h⟩

instance Reflects.run_throw {e : ε} :
    Reflects P (throw e : ExceptT ε (StateM σ) α).run := ⟨fun _ h ↦ h⟩

instance Reflects.run_lift {x : StateM σ α} [hx : Reflects P x] :
    Reflects P (x : ExceptT ε (StateM σ) α).run := ⟨fun s h ↦ hx.before s h⟩

instance Reflects.run_except {x : Except ε α} :
    Reflects P (x : ExceptT ε (StateM σ) α).run := ⟨fun _ h ↦ h⟩

instance Reflects.run_bind {x : ExceptT ε (StateM σ) α} {f : α → ExceptT ε (StateM σ) β}
    [hx : Reflects P x.run] [hf : ∀ a, Reflects P (f a).run] : Reflects P (x >>= f).run := by
  refine ⟨fun s h ↦ ?_⟩
  rw [ExceptT.run_bind, StateT.run_bind] at h
  rcases hx' : x.run.run s with ⟨_ | a, s₁⟩
  · rw [hx'] at h
    exact hx.before s (by rw [hx']; exact h)
  · rw [hx'] at h
    exact hx.before s (by rw [hx']; exact (hf a).before s₁ h)

instance Reflects.run_ite {c : Prop} [Decidable c] {x y : ExceptT ε (StateM σ) α}
    [hx : Reflects P x.run] [hy : Reflects P y.run] : Reflects P (if c then x else y).run := by
  split
  · exact hx
  · exact hy

end Reflects

/-! ## Results of computations that end well -/

/-- If `P` holds after the computation, it held before and the result is a `Q`. -/
def Establishes (P : σ → Prop) (x : StateM σ α) (Q : α → Prop) : Prop :=
  ∀ s, P (x.run s).2 → P s ∧ Q (x.run s).1

namespace Establishes

variable {P : σ → Prop} {x : StateM σ α} {f : α → StateM σ β} {Q Q' : α → Prop} {R : β → Prop}

theorem pure {a : α} (h : Q a) : Establishes P (Pure.pure a : StateM σ α) Q := fun _ hP ↦ ⟨hP, h⟩

/-- The continuation ends well only if the first part does, so what is known of the first result is
a premise of what is shown of the second. -/
theorem bind (hx : Establishes P x Q) (hf : ∀ a, Establishes P (f a) fun b ↦ Q a → R b) :
    Establishes P (x >>= f) R := by
  intro s hP
  obtain ⟨hbetween, hR⟩ := hf _ _ hP
  obtain ⟨hbefore, hQ⟩ := hx s hbetween
  exact ⟨hbefore, hR hQ⟩

theorem of_reflects [hx : Reflects P x] (h : ∀ s, P (x.run s).2 → Q (x.run s).1) :
    Establishes P x Q := fun s hP ↦ ⟨hx.before s hP, h s hP⟩

/-- Nothing is known of the result. -/
theorem reflected [Reflects P x] : Establishes P x fun _ ↦ True := .of_reflects fun _ _ ↦ trivial

/-- The state that is read at the end is a good one. -/
theorem get : Establishes P (MonadState.get : StateM σ σ) P := fun _ hP ↦ ⟨hP, hP⟩

theorem mono (hx : Establishes P x Q) (h : ∀ a, Q a → Q' a) : Establishes P x Q' := by
  intro s hP
  obtain ⟨hbefore, hQ⟩ := hx s hP
  exact ⟨hbefore, h _ hQ⟩

end Establishes

/-! ## Results of computations that end badly -/

/-- If `P` does not hold after the computation, the result is `b`. -/
def FallsBack (P : σ → Prop) (x : StateM σ β) (b : β) : Prop :=
  ∀ s, ¬P (x.run s).2 → (x.run s).1 = b

namespace FallsBack

variable {P : σ → Prop} {x : StateM σ α} {f : α → StateM σ β} {b : β}

theorem pure : FallsBack P (Pure.pure b : StateM σ β) b := fun _ _ ↦ rfl

theorem bind (h : ∀ a, FallsBack P (f a) b) : FallsBack P (x >>= f) b := fun _ hP ↦ h _ _ hP

/-- The state that is read at the end is not a good one. -/
theorem get {g : σ → β} (h : ∀ s, ¬P s → g s = b) :
    FallsBack P (MonadState.get >>= fun s ↦ (Pure.pure (g s) : StateM σ β)) b := fun s hP ↦ h s hP

end FallsBack

end Ksa64.Library
