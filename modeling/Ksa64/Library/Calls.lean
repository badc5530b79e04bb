import Mathlib.Algebra.Order.Ring.Int
import Mathlib.Tactic.Common

/-!
# Programs that call a component

A program makes calls, one after the other, and goes on with what each of them answers; `run`
is what it does against a component with a state.  A program may be stopped between two of its
calls, so that others can be seen to come in between.

A program that only rejects before it changes anything (`RejectsFirst`) leaves the component as
it was when it rejects: `run_view_of_rejected`.
-/

universe u v w x y

namespace Ksa64.Library

/-- A program is done, or it makes a call and goes on with the answer. -/
inductive Calls (κ : Type u) (Answer : κ → Type v) (α : Type w) where
  | done (result : α)
  | call (command : κ) (next : Answer command → Calls κ Answer α)

namespace Calls

variable {κ : Type u} {Answer : κ → Type v} {α : Type w} {σ : Type x} {τ : Type y}

/-- Run a program against a component that answers each command from its state. -/
def run (answer : (command : κ) → σ → Answer command × σ) : Calls κ Answer α → σ → α × σ
  | done result, s => (result, s)
  | call command next, s =>
      run answer (next (answer command s).1) (answer command s).2

@[simp] theorem run_done (answer : (command : κ) → σ → Answer command × σ) (result : α) (s : σ) :
    run answer (done result) s = (result, s) := rfl

@[simp] theorem run_call (answer : (command : κ) → σ → Answer command × σ) (command : κ)
    (next : Answer command → Calls κ Answer α) (s : σ) :
    run answer (call command next) s
      = run answer (next (answer command s).1) (answer command s).2 := rfl

/-- The component after the first `n` calls, or after all of them. -/
def stopAfter (answer : (command : κ) → σ → Answer command × σ) : Nat → Calls κ Answer α → σ → σ
  | 0, _, s => s
  | _, done _, s => s
  | n + 1, call command next, s =>
      stopAfter answer n (next (answer command s).1) (answer command s).2

/-- Go on with the result of a program. -/
def andThen {β : Type*} : Calls κ Answer α → (α → Calls κ Answer β) → Calls κ Answer β
  | done result, f => f result
  | call command next, f => call command fun answer ↦ (next answer).andThen f

/-- How many calls a run makes. -/
def count (answer : (command : κ) → σ → Answer command × σ) : Calls κ Answer α → σ → Nat
  | done _, _ => 0
  | call command next, s =>
      (next (answer command s).1).count answer (answer command s).2 + 1

section Stop

variable {β : Type y} {answer : (command : κ) → σ → Answer command × σ} {p : Calls κ Answer α}
  {f : α → Calls κ Answer β} {n : Nat} {s : σ}

theorem run_andThen (answer : (command : κ) → σ → Answer command × σ) (p : Calls κ Answer α)
    (f : α → Calls κ Answer β) (s : σ) :
    (p.andThen f).run answer s = (f (p.run answer s).1).run answer (p.run answer s).2 := by
  induction p generalizing s with
  | done result => rfl
  | call command next ih => exact ih _ _

theorem count_andThen (answer : (command : κ) → σ → Answer command × σ) (p : Calls κ Answer α)
    (f : α → Calls κ Answer β) (s : σ) :
    (p.andThen f).count answer s =
      p.count answer s + (f (p.run answer s).1).count answer (p.run answer s).2 := by
  induction p generalizing s with
  | done result => exact (Nat.zero_add _).symm
  | call command next ih => exact (congrArg (· + 1) (ih _ _)).trans (Nat.add_right_comm ..)

@[simp] theorem stopAfter_zero : stopAfter answer 0 p s = s := by
  cases p <;> rfl

@[simp] theorem stopAfter_done (result : α) :
    stopAfter answer n (done result : Calls κ Answer α) s = s := by
  cases n <;> rfl

/-- A program that makes no more calls is not stopped. -/
theorem stopAfter_of_count_le (h : p.count answer s ≤ n) :
    stopAfter answer n p s = (p.run answer s).2 := by
  induction p generalizing n s with
  | done result => exact stopAfter_done result
  | call command next ih =>
      cases n with
      | zero => exact absurd h (Nat.not_succ_le_zero _)
      | succ n => exact ih _ (Nat.le_of_succ_le_succ h)

/-- Stopped in its first part. -/
theorem stopAfter_andThen_of_le (h : n ≤ p.count answer s) :
    stopAfter answer n (p.andThen f) s = stopAfter answer n p s := by
  induction p generalizing n s with
  | done result =>
      obtain rfl := Nat.le_zero.mp h
      rw [stopAfter_zero, stopAfter_zero]
  | call command next ih =>
      cases n with
      | zero => rw [stopAfter_zero, stopAfter_zero]
      | succ n => exact ih _ (Nat.le_of_succ_le_succ h)

/-- Stopped in its second part. -/
theorem stopAfter_andThen_add (n : Nat) :
    stopAfter answer (p.count answer s + n) (p.andThen f) s =
      stopAfter answer n (f (p.run answer s).1) (p.run answer s).2 := by
  induction p generalizing s with
  | done result => exact congrArg (stopAfter answer · _ _) (Nat.zero_add n)
  | call command next ih =>
      rw [count, Nat.add_right_comm]
      exact ih _

/-- The program ends with `a` in `s'` after `n` calls, and `P k` holds of the component after the
first `k` of them, for every `k` below `n`. -/
structure Passes (answer : (command : κ) → σ → Answer command × σ) (p : Calls κ Answer α) (s : σ)
    (n : Nat) (P : Nat → σ → Prop) (a : α) (s' : σ) : Prop where
  run : p.run answer s = (a, s')
  count : p.count answer s = n
  through : ∀ k < n, P k (stopAfter answer k p s)

namespace Passes

variable {P : Nat → σ → Prop} {m : Nat} {a : α} {b : β} {s₁ s₂ : σ}

theorem done : Passes answer (done a : Calls κ Answer α) s 0 P a s :=
  ⟨rfl, rfl, fun _ h ↦ absurd h (Nat.not_lt_zero _)⟩

theorem call {command : κ} {next : Answer command → Calls κ Answer α} (hs : P 0 s)
    (h : Passes answer (next (answer command s).1) (answer command s).2 n (P <| · + 1) a s₁) :
    Passes answer (call command next) s (n + 1) P a s₁ := by
  refine ⟨h.run, congrArg (· + 1) h.count, fun k hk ↦ ?_⟩
  cases k with
  | zero => exact hs
  | succ k => exact h.through k (Nat.lt_of_succ_lt_succ hk)

theorem andThen (hp : Passes answer p s m P a s₁)
    (hf : Passes answer (f a) s₁ n (P <| m + ·) b s₂) :
    Passes answer (p.andThen f) s (m + n) P b s₂ := by
  refine ⟨?_, ?_, fun k hk ↦ ?_⟩
  · rw [run_andThen, hp.run]
    exact hf.run
  · rw [count_andThen, hp.run, hp.count, hf.count]
  · rcases Nat.lt_or_ge k m with hlt | hge
    · rw [stopAfter_andThen_of_le (hp.count.symm ▸ Nat.le_of_lt hlt)]
      exact hp.through k hlt
    · obtain ⟨d, rfl⟩ := Nat.exists_eq_add_of_le hge
      have hstop := @stopAfter_andThen_add _ _ _ _ _ answer p f s d
      rw [hp.count, hp.run] at hstop
      rw [hstop]
      exact hf.through d (Nat.lt_of_add_lt_add_left hk)

theorem mono {Q : Nat → σ → Prop} (h : Passes answer p s n P a s₁)
    (himp : ∀ k < n, ∀ t, P k t → Q k t) : Passes answer p s n Q a s₁ :=
  ⟨h.run, h.count, fun k hk ↦ himp k hk _ (h.through k hk)⟩

/-- Stopped at the end, or never. -/
theorem stopAfter_eq {k : Nat} (h : Passes answer p s n P a s₁) (hk : n ≤ k) :
    stopAfter answer k p s = s₁ := by
  rw [stopAfter_of_count_le (h.count.symm ▸ hk), h.run]

end Passes

end Stop

/-- Wherever the program is stopped, `Q` holds of the component, and in the end `post` holds of it
and of the result. -/
def Stays (answer : (command : κ) → σ → Answer command × σ) (Q : σ → Prop) (post : α → σ → Prop) :
    Calls κ Answer α → σ → Prop
  | done result, s => Q s ∧ post result s
  | call command next, s =>
      Q s ∧ (next (answer command s).1).Stays answer Q post (answer command s).2

section Stays

variable {answer : (command : κ) → σ → Answer command × σ} {Q : σ → Prop} {post : α → σ → Prop}
  {p : Calls κ Answer α} {s : σ}

theorem Stays.start (h : p.Stays answer Q post s) : Q s := by
  cases p with
  | done result => exact h.1
  | call command next => exact h.1

theorem Stays.stopAfter (h : p.Stays answer Q post s) (n : Nat) : Q (p.stopAfter answer n s) := by
  induction p generalizing n s with
  | done result =>
      rw [stopAfter_done]
      exact h.1
  | call command next ih =>
      cases n with
      | zero => exact h.1
      | succ n => exact ih _ h.2 n

theorem Stays.run (h : p.Stays answer Q post s) :
    post (p.run answer s).1 (p.run answer s).2 := by
  induction p generalizing s with
  | done result => exact h.2
  | call command next ih => exact ih _ h.2

end Stays

/-- Whatever the answers are, the result is as it should be. -/
def Returns (post : α → Prop) : Calls κ Answer α → Prop
  | done result => post result
  | call _ next => ∀ answer, (next answer).Returns post

/-- What every result satisfies, the result of a run satisfies. -/
theorem Returns.run {post : α → Prop} {p : Calls κ Answer α} (h : p.Returns post)
    (answer : (command : κ) → σ → Answer command × σ) (s : σ) : post (p.run answer s).1 := by
  induction p generalizing s with
  | done result => exact h
  | call command next ih => exact ih _ (h _) _

/-- The program rejects only as long as all it has done is to read. -/
def RejectsFirst (reads : κ → Prop) (rejected : α → Prop) : Calls κ Answer α → Prop
  | done _ => True
  | call command next =>
      (reads command ∧ ∀ answer, (next answer).RejectsFirst reads rejected)
        ∨ ∀ answer, (next answer).Returns (¬rejected ·)

section RejectsFirst

variable {reads : κ → Prop} {rejected : α → Prop} {p : Calls κ Answer α}

/-- A program that never rejects. -/
theorem Returns.rejectsFirst (h : p.Returns (¬rejected ·)) : p.RejectsFirst reads rejected := by
  cases p with
  | done result => trivial
  | call command next => exact .inr h

/-- A rejection leaves what is to be seen of the component. -/
theorem run_view_of_rejected {answer : (command : κ) → σ → Answer command × σ} {view : σ → τ}
    (hreads : ∀ command, reads command → ∀ s, view (answer command s).2 = view s)
    (h : p.RejectsFirst reads rejected) {s : σ} (hrejected : rejected (p.run answer s).1) :
    view (p.run answer s).2 = view s := by
  induction p generalizing s with
  | done result => rfl
  | call command next ih =>
      rcases h with ⟨hcommand, hnext⟩ | hnext
      · rw [run_call, ih _ (hnext _) hrejected]
        exact hreads command hcommand s
      · exact absurd hrejected ((hnext _).run answer _)

end RejectsFirst

end Calls

end Ksa64.Library
