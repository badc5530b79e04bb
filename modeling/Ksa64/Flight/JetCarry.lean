import Mathlib.Data.List.TakeWhile
import Ksa64.Flight.AllocatorRuns

/-!
# No impulse is lost between allocations

A jet is commanded in whole quanta of impulse.  What is asked of it beyond them is carried to the
next allocation: as long as the jet can be used, the quanta that it was commanded and the carry add
up to what was asked of it (`jet_impulse_conserved`), however long the run is.
-/

namespace Ksa64.Flight

open Ksa64.Library

attribute [local instance] neZero_groups

/-! ## One jet -/

section Jet

variable {fraction normalized : Int32} {maximum : UInt8}

/-- The deflections are ratios. -/
theorem synth_lt {n : Nat} {allocated authority : PerAxis Int32} {mix : Mix n} {i : Fin n} :
    (synth allocated authority mix i).toInt < 2 ^ 15 := by
  unfold synth
  dsimp only
  generalize roundShift _ 15 = value
  have hlow := @le_clampTo (-32768) 32767 value
  have hhigh := @clampTo_le (-32768) 32767 value (by decide)
  rw [toInt_ofInt32 (by omega) (by omega)]
  omega

/-- What is asked of a jet is less than the most that it can do. -/
theorem desiredQ15_bounds (h : normalized.toInt < 2 ^ 15) :
    0 ≤ (desiredQ15 normalized maximum).toInt
      ∧ (desiredQ15 normalized maximum).toInt ≤ (2 ^ 15 - 1) * maximum.toNat := by
  have hmax := maximum.toNat_lt
  have hzero : (0 : Int32).toInt = 0 := rfl
  have hpositive : 0 ≤ (if 0 < normalized then normalized else 0).toInt
      ∧ (if 0 < normalized then normalized else 0).toInt ≤ 2 ^ 15 - 1 := by
    split_ifs with hpos
    · have hpos' := Int32.lt_iff_toInt_lt.mp hpos
      omega
    · rw [hzero]
      decide
  have hproduct := mul_le_mul_of_nonneg_right hpositive.2
    (show (0 : Int) ≤ maximum.toNat by omega)
  have hnonneg := mul_nonneg hpositive.1 (show (0 : Int) ≤ maximum.toNat by omega)
  unfold desiredQ15 mulSatI32
  rw [toInt_clampI32, toInt_ofInt32 (by omega) (by omega)]
  omega

/-- With a carry of less than a quantum, a jet does all whole quanta that are asked of it, and the
rest is carried. -/
theorem carry_conserved (hfraction : 0 ≤ fraction.toInt ∧ fraction.toInt < 2 ^ 15)
    (hnormalized : normalized.toInt < 2 ^ 15) :
    let accumulated := addSatI32 fraction (desiredQ15 normalized maximum)
    let carry := subSatI32 accumulated
      (Int32.ofInt ((wholeQuanta accumulated maximum).toNat * 2 ^ 15))
    (0 ≤ carry.toInt ∧ carry.toInt < 2 ^ 15) ∧
      ((wholeQuanta accumulated maximum).toNat : Int) * 2 ^ 15 + carry.toInt
        = fraction.toInt + (desiredQ15 normalized maximum).toInt := by
  obtain ⟨hlow, hhigh⟩ := @desiredQ15_bounds normalized maximum hnormalized
  have hmax := maximum.toNat_lt
  intro accumulated carry
  have haccumulated : accumulated.toInt = fraction.toInt + (desiredQ15 normalized maximum).toInt := by
    show (addSatI32 _ _).toInt = _
    rw [toInt_addSatI32]
    omega
  have hwhole : ((wholeQuanta accumulated maximum).toNat : Int) = accumulated.toInt / 2 ^ 15 := by
    unfold wholeQuanta clampTo
    rw [haccumulated, UInt8.toNat_ofNat_of_lt' (by
      show _ < 2 ^ 8
      omega)]
    omega
  have hcarry : carry.toInt = accumulated.toInt % 2 ^ 15 := by
    show (subSatI32 _ _).toInt = _
    rw [subSatI32, toInt_clampI32, hwhole, toInt_ofInt32 (by omega) (by omega)]
    omega
  rw [hcarry, hwhole]
  omega

end Jet

/-- A list up to the first of an element, and after it. -/
theorem split_takeWhile {α : Type} [DecidableEq α] {x : α} {xs : List α} (h : x ∈ xs) :
    ∃ rest, xs = xs.takeWhile (· ≠ x) ++ x :: rest := by
  induction xs with
  | nil => cases h
  | cons y ys ih =>
    by_cases hy : y = x
    · subst hy
      exact ⟨ys, by rw [List.takeWhile_cons_of_neg (by simp)]; rfl⟩
    · obtain ⟨rest, hrest⟩ := ih (List.mem_of_ne_of_mem (Ne.symm hy) h)
      refine ⟨rest, ?_⟩
      rw [List.takeWhile_cons_of_pos (by simpa using hy), List.cons_append, ← hrest]

namespace PriorityResidualAllocator

variable {a : PriorityResidualAllocator} {feedback : AllocatorFeedback} {weight : UInt16}
  {av : Available} {demand : PerAxis Int32} {c : Cascade} {priority : UInt8}

/-! ## The turn of the jets -/

/-- The other groups leave the jets alone. -/
theorem allocateGroup_jets (h : priority ≠ groupRcs) :
    (a.allocateGroup feedback weight av c priority).fraction = c.fraction ∧
      (a.allocateGroup feedback weight av c priority).out.rcsPulseQuanta = c.out.rcsPulseQuanta := by
  unfold allocateGroup
  by_cases hgimbal : priority = groupGimbal ∧ av.gimbal
  · rw [if_pos hgimbal]
    exact ⟨rfl, rfl⟩
  · rw [if_neg hgimbal]
    by_cases hcanard : priority = groupCanard ∧ av.canard
    · rw [if_pos hcanard]
      exact ⟨rfl, rfl⟩
    · rw [if_neg hcanard, if_neg fun hrcs ↦ h hrcs.1]
      exact ⟨rfl, rfl⟩

theorem foldl_jets {priorities : List UInt8} (h : groupRcs ∉ priorities) :
    (priorities.foldl (a.allocateGroup feedback weight av) c).fraction = c.fraction ∧
      (priorities.foldl (a.allocateGroup feedback weight av) c).out.rcsPulseQuanta
        = c.out.rcsPulseQuanta := by
  induction priorities generalizing c with
  | nil => exact ⟨rfl, rfl⟩
  | cons priority priorities ih =>
    rw [List.mem_cons, not_or] at h
    obtain ⟨hfraction, hpulses⟩ := @allocateGroup_jets a feedback weight av c priority (Ne.symm h.1)
    obtain ⟨hfraction', hpulses'⟩ := @ih (a.allocateGroup feedback weight av c priority) h.2
    exact ⟨hfraction'.trans hfraction, hpulses'.trans hpulses⟩

/-- What is left for the jets by the groups before them. -/
def residualForJets (a : PriorityResidualAllocator) (demand : PerAxis Int32)
    (feedback : AllocatorFeedback) : PerAxis Int32 :=
  let weight := (a.canardWeight feedback).1
  let available := a.available feedback weight
  ((a.config.priorities.toList.takeWhile (· ≠ groupRcs)).foldl
    (a.allocateGroup feedback weight available) (a.start demand weight available)).out.residualQ12

/-- The impulse that is asked of a jet, in parts of a quantum. -/
def desiredImpulse (i : Fin 12) (a : PriorityResidualAllocator) (input : AllocatorInput) : Int :=
  let authority := a.authority 2 32768
  (desiredQ15 (synth (withinAuthority (a.residualForJets input.demand input.feedback) authority)
    authority a.config.rcsMixQ15 i) (a.config.rcsMaxQuanta i)).toInt

/-- The quanta that a jet is commanded. -/
def emittedQuanta (i : Fin 12) (a : PriorityResidualAllocator) (input : AllocatorInput) : Int :=
  match (a.allocate input.demand input.feedback).1 with
  | .ok out => (out.rcsPulseQuanta i).toNat
  | .error _ => 0

/-- All jets are healthy and may be commanded. -/
structure JetsReady (a : PriorityResidualAllocator) (input : AllocatorInput) : Prop where
  active : inhibited input.feedback = false
  usable : (a.available input.feedback (a.canardWeight input.feedback).1).rcs = true
  healthy : ∀ i : Fin 12, healthy16 input.feedback.rcsHealthyMask i.val = true

/-- The jets have their turn with what was carried. -/
theorem allocate_jets (hvalid : a.config.isValid) (input : AllocatorInput) (h : a.JetsReady input) :
    (∃ out, (a.allocate input.demand input.feedback).1 = .ok out ∧
      out.rcsPulseQuanta = (allocateRcs (a.residualForJets input.demand input.feedback)
        (a.authority 2 32768) a.config.rcsMixQ15 a.config.rcsMaxQuanta
        input.feedback.rcsHealthyMask a.rcsFractionQ15).1.commands) ∧
    (a.step input).rcsFractionQ15 = (allocateRcs (a.residualForJets input.demand input.feedback)
        (a.authority 2 32768) a.config.rcsMixQ15 a.config.rcsMaxQuanta
        input.feedback.rcsHealthyMask a.rcsFractionQ15).2 := by
  have hv := AdvancedAllocatorConfig.valid_of_isValid hvalid
  have hmem : groupRcs ∈ a.config.priorities.toList :=
    (priorities_perm hv).mem_iff.mpr (by decide)
  obtain ⟨rest, hsplit⟩ := split_takeWhile hmem
  have hdistinct := hv.distinct
  rw [hsplit] at hdistinct
  have hrest : groupRcs ∉ rest := (List.nodup_cons.mp (List.nodup_append.mp hdistinct).2.1).1
  have hbefore : groupRcs ∉ a.config.priorities.toList.takeWhile (· ≠ groupRcs) := by
    intro hin
    have hne := List.mem_takeWhile_imp hin
    rw [decide_eq_true_eq] at hne
    exact hne rfl
  have hturn : ∀ c : Cascade, a.allocateGroup input.feedback (a.canardWeight input.feedback).1
      (a.available input.feedback (a.canardWeight input.feedback).1) c groupRcs
      = let g := allocateRcs c.out.residualQ12 (a.authority 2 32768) a.config.rcsMixQ15
          a.config.rcsMaxQuanta input.feedback.rcsHealthyMask c.fraction
        { out := applyGroup { c.out with rcsPulseQuanta := g.1.commands } g.1.achieved g.1.saturation
          used := countUsed c.used g.1.achieved
          fraction := g.2 } := by
    intro c
    have hgimbal : ¬(groupRcs = groupGimbal ∧ (a.available input.feedback
        (a.canardWeight input.feedback).1).gimbal = true) := fun h ↦ absurd h.1 (by decide)
    have hcanard : ¬(groupRcs = groupCanard ∧ (a.available input.feedback
        (a.canardWeight input.feedback).1).canard = true) := fun h ↦ absurd h.1 (by decide)
    unfold allocateGroup
    rw [if_neg hgimbal, if_neg hcanard, if_pos ⟨rfl, h.usable⟩]
  have hcascade : ∀ c : Cascade, c.fraction = a.rcsFractionQ15 →
      (rest.foldl (a.allocateGroup input.feedback (a.canardWeight input.feedback).1
        (a.available input.feedback (a.canardWeight input.feedback).1))
        (a.allocateGroup input.feedback (a.canardWeight input.feedback).1
          (a.available input.feedback (a.canardWeight input.feedback).1) c groupRcs)).fraction
        = (allocateRcs c.out.residualQ12 (a.authority 2 32768) a.config.rcsMixQ15
            a.config.rcsMaxQuanta input.feedback.rcsHealthyMask a.rcsFractionQ15).2 ∧
      (rest.foldl (a.allocateGroup input.feedback (a.canardWeight input.feedback).1
        (a.available input.feedback (a.canardWeight input.feedback).1))
        (a.allocateGroup input.feedback (a.canardWeight input.feedback).1
          (a.available input.feedback (a.canardWeight input.feedback).1) c groupRcs)).out.rcsPulseQuanta
        = (allocateRcs c.out.residualQ12 (a.authority 2 32768) a.config.rcsMixQ15
            a.config.rcsMaxQuanta input.feedback.rcsHealthyMask a.rcsFractionQ15).1.commands := by
    intro c hc
    rw [(foldl_jets hrest).1, (foldl_jets hrest).2, hturn, ← hc]
    exact ⟨rfl, rfl⟩
  have hfirst := (@foldl_jets a input.feedback (a.canardWeight input.feedback).1
    (a.available input.feedback (a.canardWeight input.feedback).1)
    (a.start input.demand (a.canardWeight input.feedback).1
      (a.available input.feedback (a.canardWeight input.feedback).1)) _ hbefore).1
  obtain ⟨hfraction, hpulses⟩ := hcascade _ hfirst
  unfold step allocate
  rw [hvalid, h.active]
  rw [← List.foldl_cons, ← List.foldl_append, ← hsplit] at hfraction hpulses
  refine ⟨⟨_, rfl, Eq.trans ?_ hpulses⟩, hfraction⟩
  split_ifs <;> rfl

/-! ## Runs -/

/-- The carry of a jet. -/
def carry (i : Fin 12) (a : PriorityResidualAllocator) : Int := (a.rcsFractionQ15 i).toInt

/-- Less than a quantum is carried for every jet. -/
def CarriesLess (a : PriorityResidualAllocator) : Prop :=
  a.config.isValid = true ∧ ∀ i, 0 ≤ a.carry i ∧ a.carry i < 2 ^ 15

/-- The carry of an allocation in which a jet may or may not be healthy. -/
theorem allocateRcs_carry {residual authority : PerAxis Int32} {mix : Mix 12}
    {maximum : Fin 12 → UInt8} {mask : UInt16} {fraction : Fin 12 → Int32} {i : Fin 12}
    (h : 0 ≤ (fraction i).toInt ∧ (fraction i).toInt < 2 ^ 15) :
    0 ≤ ((allocateRcs residual authority mix maximum mask fraction).2 i).toInt ∧
      ((allocateRcs residual authority mix maximum mask fraction).2 i).toInt < 2 ^ 15 := by
  unfold allocateRcs
  dsimp only
  split_ifs
  · exact (carry_conserved h synth_lt).1
  · exact h

theorem allocateGroup_carry {i : Fin 12} (h : 0 ≤ (c.fraction i).toInt ∧ (c.fraction i).toInt < 2 ^ 15) :
    0 ≤ ((a.allocateGroup feedback weight av c priority).fraction i).toInt ∧
      ((a.allocateGroup feedback weight av c priority).fraction i).toInt < 2 ^ 15 := by
  by_cases hrcs : priority = groupRcs
  · subst hrcs
    unfold allocateGroup
    split_ifs
    · exact h
    · exact h
    · exact allocateRcs_carry h
    · exact h
  · rw [(allocateGroup_jets hrcs).1]
    exact h

/-- Whatever is allocated, less than a quantum is carried. -/
theorem CarriesLess.step (h : a.CarriesLess) (input : AllocatorInput) :
    (a.step input).CarriesLess := by
  refine ⟨by rw [step_config]; exact h.1, fun i ↦ ?_⟩
  unfold carry PriorityResidualAllocator.step allocate
  rw [h.1]
  cases hphase : inhibited input.feedback with
  | true => exact ⟨le_refl (0 : Int), show (0 : Int) < 2 ^ 15 by decide⟩
  | false =>
    have hfold : ∀ (priorities : List UInt8) (c : Cascade),
        (0 ≤ (c.fraction i).toInt ∧ (c.fraction i).toInt < 2 ^ 15) →
        0 ≤ ((priorities.foldl (a.allocateGroup input.feedback (a.canardWeight input.feedback).1
            (a.available input.feedback (a.canardWeight input.feedback).1)) c).fraction i).toInt ∧
          ((priorities.foldl (a.allocateGroup input.feedback (a.canardWeight input.feedback).1
            (a.available input.feedback (a.canardWeight input.feedback).1)) c).fraction i).toInt
              < 2 ^ 15 := by
      intro priorities
      induction priorities with
      | nil => exact fun _ hc ↦ hc
      | cons priority priorities ih => exact fun c hc ↦ ih _ (allocateGroup_carry hc)
    exact hfold _ _ (h.2 i)

/-- One allocation in which the jets may be commanded. -/
theorem impulse_step (h : a.CarriesLess) {input : AllocatorInput} (hready : a.JetsReady input)
    (i : Fin 12) : emittedQuanta i a input * 2 ^ 15 + (a.step input).carry i
      = a.carry i + desiredImpulse i a input := by
  obtain ⟨⟨out, hout, hpulses⟩, hfraction⟩ := allocate_jets h.1 input hready
  have hconserved := (@carry_conserved (a.rcsFractionQ15 i)
    (synth (withinAuthority (a.residualForJets input.demand input.feedback) (a.authority 2 32768))
      (a.authority 2 32768) a.config.rcsMixQ15 i) (a.config.rcsMaxQuanta i) (h.2 i) synth_lt).2
  unfold carry emittedQuanta
  rw [hout, hfraction]
  dsimp only
  rw [hpulses]
  unfold allocateRcs
  dsimp only
  rw [if_pos (hready.healthy i), if_pos (hready.healthy i)]
  exact hconserved

/-- **Impulses.**  From any state that an allocator can be in, in every run in which the jets may be
commanded, less than a quantum is carried for each jet, and the quanta it was commanded and what is
carried at the end are what was carried at the start and what was asked of it. -/
theorem jet_impulse_conserved {config : AdvancedAllocatorConfig} (hnew : new config = some a)
    (before inputs : List AllocatorInput)
    (hready : Meets step JetsReady (run step a before) inputs) (i : Fin 12) :
    (0 ≤ (run step (run step a before) inputs).carry i ∧
      (run step (run step a before) inputs).carry i < 2 ^ 15) ∧
    total step (emittedQuanta i) (run step a before) inputs * 2 ^ 15
        + (run step (run step a before) inputs).carry i
      = (run step a before).carry i
        + total step (desiredImpulse i) (run step a before) inputs := by
  have hstart : a.CarriesLess := by
    unfold new at hnew
    split_ifs at hnew with hvalid
    cases hnew
    exact ⟨hvalid, fun i ↦ ⟨le_refl (0 : Int), show (0 : Int) < 2 ^ 15 by decide⟩⟩
  have hkept : ∀ (a : PriorityResidualAllocator) (inputs : List AllocatorInput), a.CarriesLess →
      (run step a inputs).CarriesLess :=
    fun _ inputs h ↦ run_invariant step CarriesLess (fun _ input h ↦ h.step input) h inputs
  have hbefore := hkept a before hstart
  refine ⟨(hkept _ inputs hbefore).2 i, ?_⟩
  rw [← total_mul]
  exact total_conserved CarriesLess
    (fun a input h hready ↦ ⟨h.step input, impulse_step h hready i⟩) hbefore hready

end PriorityResidualAllocator

/-- Twelve jets about one axis. -/
def jetConfig : AdvancedAllocatorConfig :=
  { gimbalConfig with
    propellantWetQ21 := 1
    rcsMixQ15 := ![fun _ ↦ 16384, fun _ ↦ 0, fun _ ↦ 0]
    rcsMaxQuanta := fun _ ↦ 4
    hasRcs := true }

def jetAllocator : PriorityResidualAllocator := ⟨jetConfig, false, fun _ ↦ 0⟩

def suppliedFeedback : AllocatorFeedback :=
  { poweredFeedback with
    powered := false
    supplyValid := true
    propellantFractionQ15 := 1
    rcsHealthyMask := 0x0fff }

theorem jetsReady_supplied {a : PriorityResidualAllocator} {demand : PerAxis Int32}
    (h : a.config = jetConfig) : a.JetsReady ⟨demand, suppliedFeedback⟩ := by
  refine ⟨rfl, ?_, fun i ↦ ?_⟩
  · unfold PriorityResidualAllocator.available
    simp only [h, Bool.and_eq_true, decide_eq_true_eq]
    exact ⟨⟨⟨rfl, rfl⟩, by decide⟩, by decide⟩
  · show healthy16 suppliedFeedback.rcsHealthyMask i.val = true
    revert i
    decide

/-- Three allocations of a tenth of the authority. -/
theorem jet_impulse_conserved_thrice :
    let inputs : List PriorityResidualAllocator.AllocatorInput := List.replicate 3 ⟨![100, 0, 0], suppliedFeedback⟩
    total PriorityResidualAllocator.step (PriorityResidualAllocator.emittedQuanta 0) jetAllocator
        inputs * 2 ^ 15 + (run PriorityResidualAllocator.step jetAllocator inputs).carry 0
      = jetAllocator.carry 0 + total PriorityResidualAllocator.step
        (PriorityResidualAllocator.desiredImpulse 0) jetAllocator inputs := by
  intro inputs
  refine (@PriorityResidualAllocator.jet_impulse_conserved jetAllocator jetConfig rfl [] inputs ?_ 0).2
  exact ⟨jetsReady_supplied rfl, jetsReady_supplied (PriorityResidualAllocator.step_config _),
    jetsReady_supplied ((PriorityResidualAllocator.step_config _).trans
      (PriorityResidualAllocator.step_config _)), trivial⟩

end Ksa64.Flight
