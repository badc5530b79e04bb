import Mathlib.Algebra.Order.Ring.Int
import Mathlib.Tactic.Common

/-!
# Loops that break, continue or fail

A `while` loop whose body may fail, break or continue is computed by `loop` with a
number of rounds, and described by `Loops`, which has no such number.  `loop_eq_iff`
says that the two agree once the rounds are at least a measure that every round
decreases: the loop never runs out.
-/

universe u v

namespace Ksa64.Library

variable {ε σ : Type u}

/-- Repeat the body while the condition holds, for the given number of rounds.  A body
that yields continues, one that is done breaks. -/
def loop (cond : σ → Prop) [DecidablePred cond] (body : σ → Except ε (ForInStep σ)) :
    Nat → σ → Except ε σ
  | 0, s => pure s
  | n + 1, s =>
      if cond s then
        match body s with
        | .error e => throw e
        | .ok (.done s') => pure s'
        | .ok (.yield s') => loop cond body n s'
      else
        pure s

/-- What a loop comes to, however many rounds it takes. -/
inductive Loops (cond : σ → Prop) (body : σ → Except ε (ForInStep σ)) :
    σ → Except ε σ → Prop
  | exit {s : σ} (h : ¬cond s) : Loops cond body s (.ok s)
  | fail {s : σ} {e : ε} (h : cond s) (hb : body s = .error e) : Loops cond body s (.error e)
  | done {s s' : σ} (h : cond s) (hb : body s = .ok (.done s')) : Loops cond body s (.ok s')
  | yield {s s' : σ} {r : Except ε σ} (h : cond s) (hb : body s = .ok (.yield s'))
      (hr : Loops cond body s' r) : Loops cond body s r

variable {cond : σ → Prop} {body : σ → Except ε (ForInStep σ)}

/-- A loop comes to one result only. -/
theorem Loops.unique {s : σ} {r r' : Except ε σ} (h : Loops cond body s r)
    (h' : Loops cond body s r') : r = r' := by
  induction h with
  | exit h =>
      cases h' with
      | exit => rfl
      | fail hc | done hc | yield hc => exact absurd hc h
  | fail h hb =>
      cases h' with
      | exit hc => exact absurd h hc
      | fail _ hb' => cases hb.symm.trans hb'; rfl
      | done _ hb' | yield _ hb' => cases hb.symm.trans hb'
  | done h hb =>
      cases h' with
      | exit hc => exact absurd h hc
      | done _ hb' => cases hb.symm.trans hb'; rfl
      | fail _ hb' | yield _ hb' => cases hb.symm.trans hb'
  | yield h hb _ ih =>
      cases h' with
      | exit hc => exact absurd h hc
      | yield _ hb' hr' => cases hb.symm.trans hb'; exact ih hr'
      | fail _ hb' | done _ hb' => cases hb.symm.trans hb'

/-- The rounds of a loop that a measure bounds are enough. -/
theorem loops_loop [DecidablePred cond] {measure : σ → Nat}
    (hpos : ∀ s, cond s → 0 < measure s)
    (hdec : ∀ s s', cond s → body s = .ok (.yield s') → measure s' < measure s)
    {n : Nat} {s : σ} (hn : measure s ≤ n) : Loops cond body s (loop cond body n s) := by
  induction n generalizing s with
  | zero =>
      apply Loops.exit
      intro hc
      have := hpos s hc
      omega
  | succ n ih =>
      rw [loop]
      split
      · rename_i hc
        split
        · rename_i hb
          exact .fail hc hb
        · rename_i hb
          exact .done hc hb
        · rename_i hb
          refine .yield hc hb (ih ?_)
          have := hdec _ _ hc hb
          omega
      · rename_i hc
        exact .exit hc

/-- With enough rounds, the loop computes what it comes to. -/
theorem loop_eq_iff [DecidablePred cond] {measure : σ → Nat}
    (hpos : ∀ s, cond s → 0 < measure s)
    (hdec : ∀ s s', cond s → body s = .ok (.yield s') → measure s' < measure s)
    {n : Nat} {s : σ} (hn : measure s ≤ n) {r : Except ε σ} :
    loop cond body n s = r ↔ Loops cond body s r := by
  have hloop := loops_loop hpos hdec hn
  constructor
  · rintro rfl
    exact hloop
  · intro h
    exact hloop.unique h

/-- An invariant of the rounds that continue holds where the loop leaves off: it exited
there, or the body was done from a state of the invariant. -/
theorem Loops.invariant (Inv : σ → Prop)
    (hstep : ∀ s s', Inv s → cond s → body s = .ok (.yield s') → Inv s')
    {s t : σ} {r : Except ε σ} (h : Loops cond body s r) (hs : Inv s) (ht : r = .ok t) :
    Inv t ∨ ∃ s', Inv s' ∧ cond s' ∧ body s' = .ok (.done t) := by
  induction h with
  | exit _ => exact .inl (Except.ok.inj ht ▸ hs)
  | fail _ _ => cases ht
  | done hc hb => exact .inr ⟨_, hs, hc, Except.ok.inj ht ▸ hb⟩
  | yield hc hb _ ih => exact ih (hstep _ _ hs hc hb) ht

end Ksa64.Library
