import Ksa64.Library.Calls

/-!
# Components that fail some calls

Which calls fail is given from outside: `fates n` is the fate of the `n`-th call, and a call that
fails leaves the component as it was.  `ifFails k` is what a program goes on to do when its `k`-th
call fails and those before it do not; a program that is done then has run as far as it is when it
is stopped there.
-/

universe u v w x y

namespace Ksa64.Library.Calls

variable {κ : Type u} {Answer : κ → Type v} {α : Type w} {σ : Type x}

section Fails

variable (fails : (command : κ) → Answer command)
  (answer : (command : κ) → σ → Answer command × σ)

/-- The component that counts its calls, and fails those whose fate it is. -/
def failing (fates : Nat → Bool) (command : κ) (s : σ × Nat) : Answer command × (σ × Nat) :=
  if fates s.2 then (fails command, (s.1, s.2 + 1))
  else ((answer command s.1).1, ((answer command s.1).2, s.2 + 1))

/-- The rest of a program whose `k`-th call fails. -/
def ifFails : Nat → Calls κ Answer α → σ → Calls κ Answer α
  | _, done a, _ => done a
  | 0, call command next, _ => next (fails command)
  | k + 1, call command next, s => ifFails k (next (answer command s).1) (answer command s).2

end Fails

variable {fails : (command : κ) → Answer command}
  {answer : (command : κ) → σ → Answer command × σ} {fates : Nat → Bool} {p : Calls κ Answer α}
  {s : σ} {k n : Nat} {a : α}

/-- Either the first calls do not fail, or one of them is the first that does. -/
theorem spared_or_fated (fates : Nat → Bool) (n : Nat) :
    (∀ i < n, fates i = false) ∨ ∃ k < n, (∀ i < k, fates i = false) ∧ fates k = true := by
  induction n with
  | zero => exact .inl fun i hi ↦ absurd hi (Nat.not_lt_zero i)
  | succ n ih =>
      rcases ih with hspared | ⟨k, hk, hfirst⟩
      · cases hlast : fates n with
        | true => exact .inr ⟨n, Nat.lt_succ_self n, hspared, hlast⟩
        | false =>
            refine .inl fun i hi ↦ ?_
            rcases Nat.lt_succ_iff_lt_or_eq.mp hi with hlt | rfl
            · exact hspared i hlt
            · exact hlast
      · exact .inr ⟨k, Nat.lt_succ_of_lt hk, hfirst⟩

theorem failing_of_fated {command : κ} (h : fates n = true) :
    failing fails answer fates command (s, n) = (fails command, (s, n + 1)) := if_pos h

theorem failing_of_spared {command : κ} (h : fates n = false) :
    failing fails answer fates command (s, n) =
      ((answer command s).1, ((answer command s).2, n + 1)) :=
  if_neg (Bool.eq_false_iff.mp h)

/-- If no call fails, nothing is different. -/
theorem run_failing_spared (h : ∀ i < p.count answer s, fates (n + i) = false) :
    p.run (failing fails answer fates) (s, n) =
      ((p.run answer s).1, ((p.run answer s).2, n + p.count answer s)) := by
  induction p generalizing s n with
  | done result => rfl
  | call command next ih =>
      have hfirst : fates n = false := h 0 (Nat.succ_pos _)
      have hrest : ∀ i < (next (answer command s).1).count answer (answer command s).2,
          fates (n + 1 + i) = false := by
        intro i hi
        rw [Nat.add_assoc, Nat.add_comm 1 i]
        exact h (i + 1) (Nat.succ_lt_succ hi)
      rw [run_call, failing_of_spared hfirst, ih _ hrest, Nat.add_assoc, Nat.add_comm 1]
      rfl

/-- The first call that fails ends a program that is done then. -/
theorem run_failing_fated (hspared : ∀ i < k, fates (n + i) = false) (hfated : fates (n + k) = true)
    (hcount : k < p.count answer s) (hdone : p.ifFails fails answer k s = done a) :
    p.run (failing fails answer fates) (s, n) = (a, (p.stopAfter answer k s, n + k + 1)) := by
  induction k generalizing p s n with
  | zero =>
      cases p with
      | done result => exact absurd hcount (Nat.not_lt_zero _)
      | call command next =>
          have hfirst : fates n = true := hfated
          have hnext : next (fails command) = done a := hdone
          rw [run_call, failing_of_fated hfirst, hnext, run_done, stopAfter_zero, Nat.add_zero]
  | succ k ih =>
      cases p with
      | done result => exact absurd hcount (Nat.not_lt_zero _)
      | call command next =>
          have hfirst : fates n = false := hspared 0 (Nat.succ_pos k)
          have hrest : ∀ i < k, fates (n + 1 + i) = false := by
            intro i hi
            rw [Nat.add_assoc, Nat.add_comm 1 i]
            exact hspared (i + 1) (Nat.succ_lt_succ hi)
          have hlast : fates (n + 1 + k) = true := by
            rw [Nat.add_assoc, Nat.add_comm 1 k]
            exact hfated
          rw [run_call, failing_of_spared hfirst,
            ih hrest hlast (Nat.lt_of_succ_lt_succ hcount) hdone, Nat.add_right_comm n 1 k]
          rfl

section AndThen

variable {β : Type y} {f : α → Calls κ Answer β}

/-- A failure in the first part. -/
theorem ifFails_andThen_of_lt (h : k < p.count answer s) :
    (p.andThen f).ifFails fails answer k s = (p.ifFails fails answer k s).andThen f := by
  induction p generalizing k s with
  | done result => exact absurd h (Nat.not_lt_zero _)
  | call command next ih =>
      cases k with
      | zero => rfl
      | succ k => exact ih _ (Nat.lt_of_succ_lt_succ h)

/-- A failure in the second part. -/
theorem ifFails_andThen_add (k : Nat) :
    (p.andThen f).ifFails fails answer (p.count answer s + k) s =
      (f (p.run answer s).1).ifFails fails answer k (p.run answer s).2 := by
  induction p generalizing s with
  | done result => exact congrArg (ifFails fails answer · _ _) (Nat.zero_add k)
  | call command next ih =>
      rw [count, Nat.add_right_comm]
      exact ih _

end AndThen

end Ksa64.Library.Calls
