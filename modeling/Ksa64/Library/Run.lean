import Mathlib.Algebra.Order.Ring.Int
import Mathlib.Data.List.Basic

/-!
# Runs of a deterministic machine

A machine is a step function `step : σ → ι → σ`; a run feeds it a list of inputs.
This file packages the inductions every safety argument about such a machine
needs, each of them once:

* `run_invariant` carries an invariant over every run;
* `Meets` says that each step of a run satisfies a condition on the state before
  the step and its input, and `run_invariant_of_meets` carries an invariant over
  the runs that meet the condition under which a step preserves it; `Happens` says that
  some step satisfies it;
* `meets_iff_of_invariant` turns a per-step equivalence into one about runs: it is
  the rule for stating *exactly* on which runs a property holds, and `forall_reached_iff` for
  a property of all states reached;
* `history_invariant` relates the state to the inputs consumed so far, and
  `emits_invariant` relates it to the outputs produced so far; `emits_simulation` compares the
  outputs with those of an abstract machine.
-/

universe u v w

namespace Ksa64.Library

variable {σ : Type u} {ι : Type v} {ω : Type w}

/-- The state reached by consuming the inputs in order. -/
def run (step : σ → ι → σ) : σ → List ι → σ
  | s, [] => s
  | s, i :: is => run step (step s i) is

/-- Every step of the run meets `cond`, a condition on the state before the step
and the input of the step. -/
def Meets (step : σ → ι → σ) (cond : σ → ι → Prop) : σ → List ι → Prop
  | _, [] => True
  | s, i :: is => cond s i ∧ Meets step cond (step s i) is

/-- Some step of the run meets `cond`. -/
def Happens (step : σ → ι → σ) (cond : σ → ι → Prop) : σ → List ι → Prop
  | _, [] => False
  | s, i :: is => cond s i ∨ Happens step cond (step s i) is

/-- The outputs of the run in order, where `out s i` is what the step from `s`
on `i` puts out. -/
def emits (step : σ → ι → σ) (out : σ → ι → Option ω) : σ → List ι → List ω
  | _, [] => []
  | s, i :: is => (out s i).toList ++ emits step out (step s i) is

section Run

variable (step : σ → ι → σ)

/-- The empty run stays where it is. -/
@[simp] theorem run_nil (s : σ) : run step s [] = s := rfl

/-- A nonempty run takes its first step first. -/
@[simp] theorem run_cons (s : σ) (i : ι) (is : List ι) :
    run step s (i :: is) = run step (step s i) is := rfl

/-- Runs compose. -/
theorem run_append (s : σ) (is js : List ι) :
    run step s (is ++ js) = run step (run step s is) js := by
  induction is generalizing s with
  | nil => rfl
  | cons i is ih => exact ih (step s i)

/-- A run over inputs that are made from others. -/
theorem run_map {κ : Type*} (f : κ → ι) (s : σ) (ks : List κ) :
    run step s (ks.map f) = run (fun s k ↦ step s (f k)) s ks := by
  induction ks generalizing s with
  | nil => rfl
  | cons k ks ih => exact ih (step s (f k))

/-- The last step of a run. -/
theorem run_concat (s : σ) (is : List ι) (i : ι) :
    run step s (is ++ [i]) = step (run step s is) i := run_append step s is [i]

/-- An invariant of every step is an invariant of every run. -/
theorem run_invariant (Inv : σ → Prop) (hstep : ∀ s i, Inv s → Inv (step s i))
    {s : σ} (hs : Inv s) (is : List ι) : Inv (run step s is) := by
  induction is generalizing s with
  | nil => exact hs
  | cons i is ih => exact ih (hstep s i hs)

/-- If an abstraction follows each step, it follows every run. -/
theorem run_simulation {σ' : Type w} {step' : σ' → ι → σ'} {abs : σ → σ'}
    (hstep : ∀ s i, abs (step s i) = step' (abs s) i) (s : σ) (is : List ι) :
    abs (run step s is) = run step' (abs s) is := by
  induction is generalizing s with
  | nil => rfl
  | cons i is ih => rw [run_cons, run_cons, ih, hstep]

end Run

section Meets

variable {step : σ → ι → σ} {cond prop : σ → ι → Prop}

/-- A run of no steps meets every condition. -/
@[simp] theorem meets_nil (s : σ) : Meets step cond s [] := trivial

/-- The first step meets the condition, and so does the rest of the run. -/
@[simp] theorem meets_cons {s : σ} {i : ι} {is : List ι} :
    Meets step cond s (i :: is) ↔ cond s i ∧ Meets step cond (step s i) is := Iff.rfl

/-- A condition that can be decided at each step can be decided over a run. -/
instance decidableMeets [h : ∀ s i, Decidable (cond s i)] :
    ∀ (s : σ) (is : List ι), Decidable (Meets step cond s is)
  | _, [] => .isTrue trivial
  | s, i :: is => @instDecidableAnd _ _ (h s i) (decidableMeets (step s i) is)

/-- A condition is met by a composed run iff both parts meet it. -/
theorem meets_append {s : σ} {is js : List ι} :
    Meets step cond s (is ++ js) ↔
      Meets step cond s is ∧ Meets step cond (run step s is) js := by
  induction is generalizing s with
  | nil => simp
  | cons i is ih => simp [ih, and_assoc]

/-- Meeting a condition, spelled out at every position of the run. -/
theorem meets_iff_forall {s : σ} {is : List ι} :
    Meets step cond s is ↔
      ∀ pre i post, is = pre ++ i :: post → cond (run step s pre) i := by
  constructor
  · rintro h pre i post rfl
    exact (meets_append.mp h).2.1
  · intro h
    induction is generalizing s with
    | nil => trivial
    | cons i is ih =>
        refine ⟨h [] i is rfl, ih ?_⟩
        rintro pre j post rfl
        exact h (i :: pre) j post rfl

/-- Every state of a run satisfies `p` iff the first does and each step leads to one that does. -/
theorem forall_reached_iff {p : σ → Prop} {s : σ} {is : List ι} :
    (∀ pre post, is = pre ++ post → p (run step s pre)) ↔
      p s ∧ Meets step (fun s i ↦ p (step s i)) s is := by
  rw [meets_iff_forall]
  constructor
  · intro h
    refine ⟨h [] is rfl, fun pre i post his ↦ ?_⟩
    have hnext := h (pre ++ [i]) post (by rw [his, List.append_assoc]; rfl)
    rwa [run_concat] at hnext
  · rintro ⟨hs, hsteps⟩ pre post rfl
    rcases List.eq_nil_or_concat pre with rfl | ⟨pre, i, rfl⟩
    · exact hs
    · rw [List.concat_eq_append, run_concat]
      exact hsteps pre i post (by rw [List.concat_eq_append, List.append_assoc]; rfl)

/-- Meeting a condition on the inputs alone. -/
theorem meets_input {p : ι → Prop} {s : σ} {is : List ι} :
    Meets step (fun _ i ↦ p i) s is ↔ ∀ i ∈ is, p i := by
  induction is generalizing s with
  | nil => simp
  | cons i is ih => rw [meets_cons, ih, List.forall_mem_cons]

/-- A run all of whose steps meet a weaker condition. -/
theorem Meets.mono (himp : ∀ s i, prop s i → cond s i) {s : σ} {is : List ι}
    (h : Meets step prop s is) : Meets step cond s is :=
  meets_iff_forall.mpr fun pre i post e ↦ himp _ _ (meets_iff_forall.mp h pre i post e)

/-- An invariant that each step preserves *under a condition* holds after every run
whose steps all meet the condition. -/
theorem run_invariant_of_meets (Inv : σ → Prop)
    (hstep : ∀ s i, Inv s → cond s i → Inv (step s i))
    {s : σ} (hs : Inv s) {is : List ι} (h : Meets step cond s is) :
    Inv (run step s is) := by
  induction is generalizing s with
  | nil => exact hs
  | cons i is ih => exact ih (hstep s i hs h.1) h.2

/-- If on the states of an invariant a property of steps is equivalent to a
condition, and steps that meet the condition keep the invariant, then the property
holds at every step of a run iff the condition does. -/
theorem meets_iff_of_invariant (Inv : σ → Prop)
    (hstep : ∀ s i, Inv s → cond s i → Inv (step s i))
    (hiff : ∀ s i, Inv s → (prop s i ↔ cond s i))
    {s : σ} (hs : Inv s) (is : List ι) :
    Meets step prop s is ↔ Meets step cond s is := by
  induction is generalizing s with
  | nil => exact Iff.rfl
  | cons i is ih =>
      rw [meets_cons, meets_cons, hiff s i hs]
      exact and_congr_right fun hc ↦ ih (hstep s i hs hc)

/-- What follows from a condition on the states of an invariant holds at every step of a run
that meets the condition. -/
theorem meets_of_invariant (Inv : σ → Prop)
    (hstep : ∀ s i, Inv s → cond s i → Inv (step s i))
    (himp : ∀ s i, Inv s → cond s i → prop s i)
    {s : σ} (hs : Inv s) {is : List ι} (h : Meets step cond s is) : Meets step prop s is := by
  induction is generalizing s with
  | nil => trivial
  | cons i is ih => exact ⟨himp s i hs h.1, ih (hstep s i hs h.1) h.2⟩

/-- A relation between the inputs consumed so far and the state, established for no
inputs and extended by each step that meets the condition, holds after every run that
meets it. -/
theorem history_invariant_of_meets (Inv : List ι → σ → Prop)
    (hstep : ∀ pre s i, Inv pre s → cond s i → Inv (pre ++ [i]) (step s i))
    {s : σ} (hs : Inv [] s) {is : List ι} (h : Meets step cond s is) : Inv is (run step s is) := by
  have key : ∀ (is pre : List ι) (s : σ), Inv pre s → Meets step cond s is →
      Inv (pre ++ is) (run step s is) := by
    intro is
    induction is with
    | nil => intro pre s hpre _; rwa [List.append_nil]
    | cons i is ih =>
        intro pre s hpre hm
        have hnext := ih (pre ++ [i]) (step s i) (hstep pre s i hpre hm.1) hm.2
        rwa [List.append_assoc] at hnext
  exact key is [] s hs h

/-- Every run meets the trivial condition. -/
theorem meets_true (s : σ) (is : List ι) : Meets step (fun _ _ ↦ True) s is :=
  meets_iff_forall.mpr fun _ _ _ _ ↦ trivial

/-- A relation between the inputs consumed so far and the state, established for no
inputs and extended by each step, holds after every run. -/
theorem history_invariant (Inv : List ι → σ → Prop)
    (hstep : ∀ pre s i, Inv pre s → Inv (pre ++ [i]) (step s i))
    {s : σ} (hs : Inv [] s) (is : List ι) : Inv is (run step s is) :=
  history_invariant_of_meets Inv (fun pre s i h _ ↦ hstep pre s i h) hs (meets_true s is)

end Meets

section Happens

variable {step : σ → ι → σ} {cond : σ → ι → Prop}

/-- Nothing happens in a run of no steps. -/
@[simp] theorem happens_nil (s : σ) : ¬Happens step cond s [] := id

/-- It happens in the first step or later. -/
@[simp] theorem happens_cons {s : σ} {i : ι} {is : List ι} :
    Happens step cond s (i :: is) ↔ cond s i ∨ Happens step cond (step s i) is := Iff.rfl

/-- What happens in a composed run happens in one of the parts. -/
theorem happens_append {s : σ} {is js : List ι} :
    Happens step cond s (is ++ js) ↔
      Happens step cond s is ∨ Happens step cond (run step s is) js := by
  induction is generalizing s with
  | nil => simp
  | cons i is ih => simp [ih, or_assoc]

/-- What happens in a run extended by one step. -/
theorem happens_concat {s : σ} {is : List ι} {i : ι} :
    Happens step cond s (is ++ [i]) ↔ Happens step cond s is ∨ cond (run step s is) i := by
  rw [happens_append]
  simp

/-- What happens still happens under a weaker condition. -/
theorem Happens.mono {cond' : σ → ι → Prop} (himp : ∀ s i, cond s i → cond' s i) {s : σ}
    {is : List ι} (h : Happens step cond s is) : Happens step cond' s is := by
  induction is generalizing s with
  | nil => exact h
  | cons i is ih => exact h.imp (himp s i) ih

/-- Repeating an input with which it never happens does not make it happen. -/
theorem not_happens_replicate {i : ι} (h : ∀ s, ¬cond s i) {n : Nat} {s : σ} :
    ¬Happens step cond s (List.replicate n i) := by
  induction n generalizing s with
  | zero => exact id
  | succ n ih =>
      rw [List.replicate_succ, happens_cons]
      exact not_or.mpr ⟨h s, ih⟩

/-- Whether something that can be decided at each step happens can be decided. -/
instance decidableHappens [h : ∀ s i, Decidable (cond s i)] :
    ∀ (s : σ) (is : List ι), Decidable (Happens step cond s is)
  | _, [] => .isFalse id
  | s, i :: is => @instDecidableOr _ _ (h s i) (decidableHappens (step s i) is)

end Happens

section Latch

variable {step : σ → ι → σ} {cond : σ → ι → Prop} (event : σ → ι → Prop) (latched : σ → Prop)

/-- A latch that the event sets, and that no step clears, is set once it has happened. -/
theorem latch_of_happens (hset : ∀ s i, cond s i → event s i → latched (step s i))
    (hkept : ∀ s i, cond s i → latched s → latched (step s i)) {s : σ} {is : List ι}
    (hmeets : Meets step cond s is) (h : Happens step event s is) : latched (run step s is) := by
  induction is generalizing s with
  | nil => exact h.elim
  | cons i is ih =>
      rcases h with hnow | hlater
      · exact run_invariant_of_meets latched (fun s i hs hc ↦ hkept s i hc hs)
          (hset s i hmeets.1 hnow) hmeets.2
      · exact ih hmeets.2 hlater

/-- A latch that is set was set by the event, and keeps the time of the last time it was. -/
theorem stamp_of_latch (stamp clock : σ → ω)
    (hstep : ∀ s i, cond s i → latched (step s i) →
      event s i ∧ stamp (step s i) = clock (step s i) ∨ latched s ∧ stamp (step s i) = stamp s)
    {s : σ} {is : List ι} (hfirst : ¬latched s) (hmeets : Meets step cond s is)
    (h : latched (run step s is)) :
    ∃ before i after, is = before ++ i :: after ∧ event (run step s before) i
      ∧ stamp (run step s is) = clock (run step s (before ++ [i])) := by
  have hhistory := @history_invariant_of_meets _ _ step cond
    (fun is s' ↦ s' = run step s is ∧ (latched s' → ∃ before i after, is = before ++ i :: after
      ∧ event (run step s before) i ∧ stamp s' = clock (run step s (before ++ [i]))))
    ?_ _ ⟨rfl, fun hlatched ↦ absurd hlatched hfirst⟩ _ hmeets
  · exact hhistory.2 h
  · rintro is _ i ⟨rfl, ih⟩ hc
    refine ⟨(run_concat step s is i).symm, fun hlatched ↦ ?_⟩
    rcases hstep _ i hc hlatched with ⟨hevent, hstamp⟩ | ⟨hbefore, hstamp⟩
    · exact ⟨is, i, [], rfl, hevent, by rw [hstamp, run_concat]⟩
    · obtain ⟨before, j, after, rfl, hevent, htime⟩ := ih hbefore
      exact ⟨before, j, after ++ [i], by simp, hevent, hstamp.trans htime⟩

end Latch

section Emits

variable {step : σ → ι → σ} {out : σ → ι → Option ω}

/-- The outputs of a composed run. -/
theorem emits_append (s : σ) (is js : List ι) :
    emits step out s (is ++ js) = emits step out s is ++ emits step out (run step s is) js := by
  induction is generalizing s with
  | nil => rfl
  | cons i is ih => simp only [List.cons_append, emits, ih, run_cons, List.append_assoc]

/-- The outputs of a run extended by one step. -/
theorem emits_concat (s : σ) (is : List ι) (i : ι) :
    emits step out s (is ++ [i]) = emits step out s is ++ (out (run step s is) i).toList := by
  rw [emits_append]
  simp [emits]

/-- A run whose steps an abstraction follows puts out what the abstract run does. -/
theorem emits_simulation {σ' : Type w} {step' : σ' → ι → σ'} {out' : σ' → ι → Option ω}
    {abs : σ → σ'} {cond : σ → ι → Prop}
    (hstep : ∀ s i, cond s i → abs (step s i) = step' (abs s) i)
    (hout : ∀ s i, cond s i → out s i = out' (abs s) i) {s : σ} {is : List ι}
    (h : Meets step cond s is) : emits step out s is = emits step' out' (abs s) is := by
  induction is generalizing s with
  | nil => rfl
  | cons i is ih =>
      unfold emits
      rw [hout s i h.1, ih h.2, hstep s i h.1]

/-- Outputs that determine their inputs determine the run's inputs. -/
theorem map_emits {f : ω → ι} (hout : ∀ s i, (out s i).map f = some i) (s : σ) (is : List ι) :
    (emits step out s is).map f = is := by
  induction is generalizing s with
  | nil => rfl
  | cons i is ih =>
      obtain ⟨o, ho, hf⟩ := Option.map_eq_some_iff.mp (hout s i)
      simp [emits, ho, hf, ih]

/-- A relation between the outputs so far and the state, established for no outputs
and kept by each step that meets the condition, holds after every run that meets it. -/
theorem emits_invariant {cond : σ → ι → Prop} (Inv : List ω → σ → Prop)
    (hstep : ∀ os s i, Inv os s → cond s i → Inv (os ++ (out s i).toList) (step s i))
    {s : σ} (hs : Inv [] s) {is : List ι} (h : Meets step cond s is) :
    Inv (emits step out s is) (run step s is) := by
  have key : ∀ (is : List ι) (os : List ω) (s : σ), Inv os s → Meets step cond s is →
      Inv (os ++ emits step out s is) (run step s is) := by
    intro is
    induction is with
    | nil => intro os s hos _; rwa [emits, List.append_nil]
    | cons i is ih =>
        intro os s hos hm
        have hnext := ih _ _ (hstep os s i hos hm.1) hm.2
        rwa [List.append_assoc] at hnext
  exact key is [] s hs h

end Emits

/-! ## Totals -/

section Totals

variable {σ : Type*} {ι : Type*} {step : σ → ι → σ} {cond : σ → ι → Prop}

/-- The sum of what the steps of a run yield. -/
def total (step : σ → ι → σ) (f : σ → ι → Int) : σ → List ι → Int
  | _, [] => 0
  | s, i :: is => f s i + total step f (step s i) is

/-- If every step takes as much out of a store as it does not put in, so does every run. -/
theorem total_conserved {store : σ → Int} {inflow outflow : σ → ι → Int} (Inv : σ → Prop)
    (hstep : ∀ s i, Inv s → cond s i →
      Inv (step s i) ∧ outflow s i + store (step s i) = store s + inflow s i)
    {s : σ} (hs : Inv s) {is : List ι} (h : Meets step cond s is) :
    total step outflow s is + store (run step s is) = store s + total step inflow s is := by
  induction is generalizing s with
  | nil => exact Int.add_comm _ _
  | cons i is ih =>
    obtain ⟨hinv, hflow⟩ := hstep s i hs h.1
    have hrest := ih hinv h.2
    show outflow s i + total step outflow (step s i) is + store (run step (step s i) is)
      = store s + (inflow s i + total step inflow (step s i) is)
    omega

/-- A factor of all yields. -/
theorem total_mul {f : σ → ι → Int} {s : σ} {is : List ι} (n : Int) :
    total step (fun s i ↦ f s i * n) s is = total step f s is * n := by
  induction is generalizing s with
  | nil => exact (Int.zero_mul n).symm
  | cons i is ih =>
    show f s i * n + total step (fun s i ↦ f s i * n) (step s i) is
      = (f s i + total step f (step s i) is) * n
    rw [ih, Int.add_mul]

end Totals

end Ksa64.Library
