import Ksa64.Library.Run

/-!
# Two latches, the second of which waits for the first

A machine with two actions, each of which fires once: a latch keeps that it has, and the second one
fires when the first has fired long enough before.  The machine says which action it fires, but it
may be silent, and then an action is latched that was never announced; `announces_iff` says that
nothing else can go wrong.
-/

universe u v

namespace Ksa64.Library

variable {σ : Type u} {ι : Type v} {step : σ → ι → σ} {Inv : σ → Prop}

/-- The latches of a machine on the states of an invariant. -/
structure StagedLatches (step : σ → ι → σ) (Inv : σ → Prop) where
  first : σ → Bool
  second : σ → Bool
  fires : σ → ι → Bool
  follows : σ → ι → Bool
  /-- The time at which the first action has fired. -/
  stamp : σ → Int
  clock : σ → Int
  wait : Int
  inv_step : ∀ {s i}, Inv s → Inv (step s i)
  first_step : ∀ {s i}, Inv s → first (step s i) = (first s || fires s i)
  second_step : ∀ {s i}, Inv s → second (step s i) = (second s || follows s i)
  stamp_step : ∀ {s i}, Inv s → stamp (step s i) = if fires s i then clock s else stamp s
  fires_once : ∀ {s i}, Inv s → fires s i = true → first s = false
  follows_once : ∀ {s i}, Inv s → follows s i = true → second s = false
  follows_late : ∀ {s i}, Inv s → follows s i = true → first s = true ∧ stamp s + wait ≤ clock s

namespace StagedLatches

/-- A machine that has another one within itself has its latches. -/
def comap {σ' ι' : Type*} {step' : σ' → ι' → σ'} (L : StagedLatches step Inv) (inner : σ' → σ)
    (input : σ' → ι' → ι) (hstep : ∀ s i, inner (step' s i) = step (inner s) (input s i)) :
    StagedLatches step' (fun s ↦ Inv (inner s)) where
  first s := L.first (inner s)
  second s := L.second (inner s)
  fires s i := L.fires (inner s) (input s i)
  follows s i := L.follows (inner s) (input s i)
  stamp s := L.stamp (inner s)
  clock s := L.clock (inner s)
  wait := L.wait
  inv_step := by
    intro s i hs
    rw [hstep]
    exact L.inv_step hs
  first_step := by
    intro s i hs
    rw [hstep]
    exact L.first_step hs
  second_step := by
    intro s i hs
    rw [hstep]
    exact L.second_step hs
  stamp_step := by
    intro s i hs
    rw [hstep]
    exact L.stamp_step hs
  fires_once := L.fires_once
  follows_once := L.follows_once
  follows_late := L.follows_late

/-- What a machine says of its actions: which of them it fires, unless it is silent. -/
structure Voice (L : StagedLatches step Inv) where
  tells : σ → ι → Prop
  tellsNext : σ → ι → Prop
  silent : σ → ι → Bool
  tells_iff : ∀ {s i}, Inv s → (tells s i ↔ L.fires s i = true ∧ silent s i = false)
  tellsNext_iff : ∀ {s i}, Inv s → (tellsNext s i ↔ L.follows s i = true ∧ silent s i = false)

variable {L : StagedLatches step Inv} (V : L.Voice)

/-- A step fires an action and does not say so. -/
def Voice.Loses (s : σ) (i : ι) : Prop :=
  V.silent s i = true ∧ (L.fires s i = true ∨ L.follows s i = true)

/-- Each action is announced by the steps that latch it and at most once, and the second one when
the first has been announced long enough before. -/
structure Voice.Announces (s : σ) (is : List ι) : Prop where
  latched : Meets step (fun s i ↦ (L.first s = false ∧ L.first (step s i) = true ↔ V.tells s i)
    ∧ (L.second s = false ∧ L.second (step s i) = true ↔ V.tellsNext s i)) s is
  once : ∀ pre i post, is = pre ++ i :: post → V.tells (run step s pre) i → ¬Happens step V.tells s pre
  once_more : ∀ pre i post, is = pre ++ i :: post → V.tellsNext (run step s pre) i →
    ¬Happens step V.tellsNext s pre
  ordered : ∀ pre i post, is = pre ++ i :: post → V.tellsNext (run step s pre) i →
    ∃ earlier j later, pre = earlier ++ j :: later ∧ V.tells (run step s earlier) j
      ∧ L.clock (run step s earlier) + L.wait ≤ L.clock (run step s pre)

section Step

variable {V} {s : σ} {i : ι}

theorem latches_iff (hs : Inv s) : L.first s = false ∧ L.first (step s i) = true ↔ L.fires s i = true := by
  rw [L.first_step hs]
  constructor
  · rintro ⟨hfirst, hnow⟩
    rwa [hfirst, Bool.false_or] at hnow
  · intro hfires
    exact ⟨L.fires_once hs hfires, by rw [hfires, Bool.or_true]⟩

theorem latches_second_iff (hs : Inv s) :
    L.second s = false ∧ L.second (step s i) = true ↔ L.follows s i = true := by
  rw [L.second_step hs]
  constructor
  · rintro ⟨hsecond, hnow⟩
    rwa [hsecond, Bool.false_or] at hnow
  · intro hfollows
    exact ⟨L.follows_once hs hfollows, by rw [hfollows, Bool.or_true]⟩

/-- The latches of a step agree with what it says unless it loses an action. -/
theorem Voice.agrees_iff (hs : Inv s) :
    (L.first s = false ∧ L.first (step s i) = true ↔ V.tells s i)
        ∧ (L.second s = false ∧ L.second (step s i) = true ↔ V.tellsNext s i) ↔ ¬V.Loses s i := by
  rw [latches_iff hs, latches_second_iff hs, V.tells_iff hs, V.tellsNext_iff hs]
  unfold Voice.Loses
  cases V.silent s i <;> cases L.fires s i <;> cases L.follows s i <;> decide

end Step

section Run

variable {V} {s : σ} {is : List ι}

theorem inv_run (L : StagedLatches step Inv) (hs : Inv s) : Inv (run step s is) :=
  run_invariant step Inv (fun _ _ h ↦ L.inv_step h) hs is

theorem meets_inv (L : StagedLatches step Inv) (hs : Inv s) : Meets step (fun s _ ↦ Inv s) s is :=
  meets_iff_forall.mpr fun _ _ _ _ ↦ L.inv_run hs

theorem Voice.first_of_happens (hs : Inv s) (h : Happens step V.tells s is) :
    L.first (run step s is) = true := by
  refine latch_of_happens _ (fun s ↦ L.first s = true) (fun s i hs hnow ↦ ?_)
    (fun s i hs hlatched ↦ ?_) (L.meets_inv hs) h
  · rw [L.first_step hs, ((V.tells_iff hs).mp hnow).1, Bool.or_true]
  · rw [L.first_step hs, hlatched, Bool.true_or]

theorem Voice.second_of_happens (hs : Inv s) (h : Happens step V.tellsNext s is) :
    L.second (run step s is) = true := by
  refine latch_of_happens _ (fun s ↦ L.second s = true) (fun s i hs hnow ↦ ?_)
    (fun s i hs hlatched ↦ ?_) (L.meets_inv hs) h
  · rw [L.second_step hs, ((V.tellsNext_iff hs).mp hnow).1, Bool.or_true]
  · rw [L.second_step hs, hlatched, Bool.true_or]

/-- A first action that is latched has been announced, at the time that is kept. -/
theorem Voice.said_run (hs : Inv s) (hfirst : L.first s = false)
    (hloses : Meets step (fun s i ↦ ¬V.Loses s i) s is) (h : L.first (run step s is) = true) :
    ∃ earlier j later, is = earlier ++ j :: later ∧ V.tells (run step s earlier) j
      ∧ L.stamp (run step s is) = L.clock (run step s earlier) := by
  have hhistory := @history_invariant_of_meets _ _ step (fun s i ↦ ¬V.Loses s i)
    (fun is s' ↦ s' = run step s is ∧ (L.first s' = true → ∃ earlier j later,
      is = earlier ++ j :: later ∧ V.tells (run step s earlier) j
        ∧ L.stamp s' = L.clock (run step s earlier)))
    ?_ _ ⟨rfl, fun hlatched ↦ (Bool.eq_false_iff.mp hfirst hlatched).elim⟩ _ hloses
  · exact hhistory.2 h
  · rintro is _ i ⟨rfl, ih⟩ hnow
    refine ⟨(run_concat step s is i).symm, fun hlatched ↦ ?_⟩
    have hinv := @inv_run _ _ _ _ s is L hs
    rw [L.stamp_step hinv]
    cases hfires : L.fires (run step s is) i with
    | true =>
        have hspoken : V.silent (run step s is) i = false := by
          cases hsilent : V.silent (run step s is) i with
          | false => rfl
          | true => exact absurd ⟨hsilent, .inl hfires⟩ hnow
        exact ⟨is, i, [], rfl, (V.tells_iff hinv).mpr ⟨hfires, hspoken⟩, rfl⟩
    | false =>
        rw [L.first_step hinv, hfires, Bool.or_false] at hlatched
        obtain ⟨earlier, j, later, rfl, hevent, htime⟩ := ih hlatched
        refine ⟨earlier, j, later ++ [i], ?_, hevent, htime⟩
        rw [List.append_assoc, List.cons_append]

/-- The actions are announced as they should be exactly if none is lost. -/
theorem Voice.announces_iff (hs : Inv s) (hfirst : L.first s = false) :
    V.Announces s is ↔ Meets step (fun s i ↦ ¬V.Loses s i) s is := by
  have hagrees := @meets_iff_of_invariant _ _ step (fun s i ↦ ¬V.Loses s i) _ Inv
    (fun _ _ hinv _ ↦ L.inv_step hinv) (fun s i hinv ↦ @agrees_iff _ _ _ _ L V s i hinv) s hs is
  refine ⟨fun h ↦ hagrees.mp h.latched, fun h ↦ ⟨hagrees.mpr h, ?_, ?_, ?_⟩⟩
  · rintro pre i post - htells hhappens
    have hlatched := first_of_happens hs hhappens
    rw [L.fires_once (L.inv_run hs) ((V.tells_iff (L.inv_run hs)).mp htells).1] at hlatched
    cases hlatched
  · rintro pre i post - htells hhappens
    have hlatched := second_of_happens hs hhappens
    rw [L.follows_once (L.inv_run hs) ((V.tellsNext_iff (L.inv_run hs)).mp htells).1] at hlatched
    cases hlatched
  · rintro pre i post rfl htells
    obtain ⟨hlatched, hlate⟩ :=
      L.follows_late (L.inv_run hs) ((V.tellsNext_iff (L.inv_run hs)).mp htells).1
    obtain ⟨earlier, j, later, hpre, hevent, htime⟩ :=
      said_run hs hfirst (meets_append.mp h).1 hlatched
    exact ⟨earlier, j, later, hpre, hevent, htime ▸ hlate⟩

end Run

end StagedLatches

end Ksa64.Library
