import Ksa64.Core.Rcs
import Ksa64.Core.ScaledArithmetic

/-!
# The propellant of a segment

A segment consumes what its flow takes in its time, or the rest of the tank.  The new amount of
propellant is written before the status word is checked for the last time, so an error does not leave
the state: it does so exactly if nothing is consumed or none of the last operations, which are about
the consumption, the time until the tank is empty and the impulse of the jets, saturates.
-/

namespace Ksa64.Core

open Ksa64.Library

section Burn

variable {remaining flow dt : Int32} {status : NumericStatus} {s : RcsState}

/-- The propellant that the flow takes in the time. -/
def consumption (flow dt : Int32) : Int := roundAway (flow.toInt * dt.toInt) (2 ^ 25)

/-- The tank is empty before the end of the time. -/
def Empties (remaining flow dt : Int32) : Prop :=
  0 < flow.toInt ∧ remaining.toInt ≤ consumption flow dt

instance : Decidable (Empties remaining flow dt) := inferInstanceAs (Decidable (_ ∧ _))

/-- The time in which the flow takes the rest. -/
def depletionTime (remaining flow : Int32) : Int :=
  roundAway (remaining.toInt * 2 ^ 25) flow.toInt

/-- The time for which the jets burn. -/
def burnTime (remaining flow dt : Int32) : Int :=
  if Empties remaining flow dt then min dt.toInt (depletionTime remaining flow) else dt.toInt

/-- What the jets consume, and for how long they burn. -/
theorem burn_spec (hremaining : 0 ≤ s.remainingPropellantQ21.toInt) (hdt : 0 < dt.toInt) :
    ∃ time consumed status', (s.burn flow dt).run status
        = ((time, consumed, decide (Empties s.remainingPropellantQ21 flow dt)), status') ∧
      time.toInt = burnTime s.remainingPropellantQ21 flow dt ∧
      consumed.toInt = (if Empties s.remainingPropellantQ21 flow dt then
        s.remainingPropellantQ21.toInt else max 0 (consumption flow dt)) ∧
      (status'.Clear ↔ status.Clear ∧ Fits (consumption flow dt) ∧
        (Empties s.remainingPropellantQ21 flow dt →
          Fits (depletionTime s.remainingPropellantQ21 flow))) := by
  have hfirst : (multiplyScaled flow dt 25).run status = settled (consumption flow dt) status :=
    multiplyScaled_settled (by decide) (by decide)
  have hlast := Int32.toInt_lt s.remainingPropellantQ21
  have hzero : (0 : Int32).toInt = 0 := rfl
  have hflow : flow.toInt ≤ 0 → consumption flow dt ≤ 0 := fun h ↦
    roundAway_nonpos (mul_nonpos_of_nonpos_of_nonneg h hdt.le) (by decide)
  have htest : (0 < flow ∧ s.remainingPropellantQ21 ≤ max (settled (consumption flow dt) status).1 0)
      ↔ Empties s.remainingPropellantQ21 flow dt := by
    unfold Empties
    rw [Int32.lt_iff_toInt_lt, Int32.le_iff_toInt_le, toInt_maxI32, toInt_settled, hzero]
    constructor
    · rintro ⟨hpositive, hle⟩
      have hnonneg : 0 ≤ consumption flow dt :=
        roundAway_nonneg (mul_nonneg hpositive.le hdt.le) (by decide)
      omega
    · rintro ⟨hpositive, hle⟩
      omega
  unfold RcsState.burn
  rw [run_bind_of hfirst]
  dsimp only
  by_cases hempties : Empties s.remainingPropellantQ21 flow dt
  · have hsecond : (divideScaled s.remainingPropellantQ21 flow 25).run
          (settled (consumption flow dt) status).2
        = settled (depletionTime s.remainingPropellantQ21 flow)
          (settled (consumption flow dt) status).2 :=
      divideScaled_settled hempties.1 (by decide)
    have hnonneg : 0 ≤ depletionTime s.remainingPropellantQ21 flow :=
      roundAway_nonneg (mul_nonneg hremaining (by decide)) hempties.1
    rw [if_pos (htest.mpr hempties), run_bind_of hsecond, decide_eq_true hempties]
    refine ⟨_, _, _, rfl, ?_, ?_, ?_⟩
    · have hbound := Int32.toInt_lt dt
      rw [toInt_maxI32, toInt_minI32, toInt_settled, hzero, burnTime, if_pos hempties]
      omega
    · rw [if_pos hempties]
    · rw [settled_clear, settled_clear, and_assoc]
      exact and_congr_right fun _ ↦ and_congr_right fun _ ↦
        ⟨fun h _ ↦ h, fun h ↦ h hempties⟩
  · rw [if_neg (fun h ↦ hempties (htest.mp h)), decide_eq_false hempties]
    refine ⟨_, _, _, rfl, ?_, ?_, ?_⟩
    · rw [burnTime, if_neg hempties]
    · rw [toInt_maxI32, toInt_settled, if_neg hempties, hzero]
      obtain h | h := le_or_gt flow.toInt 0
      · have hnone := hflow h
        omega
      · have hless : consumption flow dt < s.remainingPropellantQ21.toInt :=
          not_le.mp fun hle ↦ hempties ⟨h, hle⟩
        omega
    · rw [settled_clear]
      exact and_congr_right fun _ ↦
        ⟨fun h ↦ ⟨h, fun hempties' ↦ absurd hempties' hempties⟩, fun h ↦ h.1⟩

/-- What the jets consume is in the tank. -/
theorem consumed_bounds {consumed : Int} (hremaining : 0 ≤ remaining.toInt) (hdt : 0 < dt.toInt)
    (h : consumed = if Empties remaining flow dt then remaining.toInt
      else max 0 (consumption flow dt)) :
    0 ≤ consumed ∧ consumed ≤ remaining.toInt := by
  split_ifs at h with hempties
  · omega
  · obtain hflow | hflow := le_or_gt flow.toInt 0
    · have hnone : consumption flow dt ≤ 0 :=
        roundAway_nonpos (mul_nonpos_of_nonpos_of_nonneg hflow hdt.le) (by decide)
      omega
    · have hless : consumption flow dt < remaining.toInt :=
        not_le.mp fun hle ↦ hempties ⟨hflow, hle⟩
      omega

/-- The tank keeps what it has iff the consumption is rounded to nothing. -/
theorem consumed_eq_zero {consumed : Int} (hremaining : 0 < remaining.toInt)
    (h : consumed = if Empties remaining flow dt then remaining.toInt
      else max 0 (consumption flow dt)) :
    consumed = 0 ↔ consumption flow dt ≤ 0 := by
  split_ifs at h with hempties
  · have hle := hempties.2
    omega
  · omega

end Burn

/-! ## The impulse -/

section Impulse

variable {dt thrust total : Int32} {thrusts : List Int32} {status : NumericStatus}

def jetImpulse (time : Int) (thrust : Int32) : Int := roundAway (thrust.toInt * time) (2 ^ 15)

/-- Every impulse fits a word, and so does every sum on the way to the total one. -/
def ImpulseFits (time : Int) : Int → List Int32 → Prop
  | _, [] => True
  | total, thrust :: thrusts =>
    Fits (jetImpulse time thrust) ∧ Fits (total + jetImpulse time thrust) ∧
      ImpulseFits time (total + jetImpulse time thrust) thrusts

/-- The sum of the impulses is without a fault iff all fit. -/
theorem totalImpulse_clear :
    ((thrusts.foldlM (fun total thrust ↦ do add total (← multiplyScaled thrust dt 15)) total :
        NumericM Int32).run status).2.Clear
      ↔ status.Clear ∧ ImpulseFits dt.toInt total.toInt thrusts := by
  induction thrusts generalizing total status with
  | nil => exact (and_iff_left trivial).symm
  | cons thrust thrusts ih =>
    have hproduct : (multiplyScaled thrust dt 15).run status
        = settled (jetImpulse dt.toInt thrust) status :=
      multiplyScaled_settled (by decide) (by decide)
    rw [List.foldlM_cons, bind_assoc, run_bind_of hproduct, run_bind_of add_settled, ih,
      settled_clear, settled_clear]
    rw [and_assoc, and_assoc]
    refine and_congr_right fun _ ↦ and_congr_right fun hfits ↦ ?_
    rw [toInt_settled_of_fits hfits]
    exact and_congr_right fun hsum ↦ by rw [toInt_settled_of_fits hsum]

end Impulse

/-! ## The loads -/

section Loads

variable {s : RcsState} {pack : AdvancedEffectorPack} {startQ18 endQ18 cgFromNoseQ28 : Int32}
  {faults : Vector RcsJetFault 12} {supply : SupplySample} {loads : JetLoads}
  {status status' : NumericStatus}

/-- The jets do nothing without propellant. -/
theorem loadJet_empty (h : s.remainingPropellantQ21 = 0) (index : Fin 12) :
    s.loadJet pack startQ18 cgFromNoseQ28 faults supply loads index = pure loads := by
  unfold RcsState.loadJet
  dsimp only
  rw [if_pos (.inr h)]

theorem foldlM_loadJet_empty (h : s.remainingPropellantQ21 = 0) (indices : List (Fin 12)) :
    indices.foldlM (s.loadJet pack startQ18 cgFromNoseQ28 faults supply) loads = pure loads := by
  induction indices with
  | nil => rfl
  | cons index indices ih => rw [List.foldlM_cons, loadJet_empty h, pure_bind, ih]

/-- A sample is taken of a tank that is neither overdrawn nor overfull. -/
theorem sampleSupply_ok {remaining : Int32}
    (h : (sampleSupply pack remaining).run.run status = (.ok supply, status')) :
    0 ≤ remaining.toInt := by
  unfold sampleSupply at h
  split_ifs at h with hinvalid
  · obtain ⟨_, _, hthrow, -⟩ := bind_ok h
    cases hthrow
  · rw [not_or, not_or, not_or, Int32.not_lt, Int32.le_iff_toInt_le] at hinvalid
    exact hinvalid.2.2.1

/-- What is known once the loads are. -/
theorem segmentLoads_ok (h : (s.segmentLoads pack startQ18 endQ18 cgFromNoseQ28 faults).run.run status
      = (.ok (supply, loads), status')) :
    status'.Clear ∧ 0 ≤ s.remainingPropellantQ21.toInt ∧ 0 < (endQ18 - startQ18).toInt ∧
      (s.remainingPropellantQ21 = 0 → loads = .none) := by
  unfold RcsState.segmentLoads at h
  split_ifs at h with hinvalid
  · obtain ⟨_, _, hthrow, -⟩ := bind_ok h
    cases hthrow
  rw [not_or, not_or, not_or, Int32.not_lt, Int32.not_le, Int32.le_iff_toInt_le,
    Int32.lt_iff_toInt_lt] at hinvalid
  obtain ⟨-, -, hstart, hend⟩ := hinvalid
  have hzero : (0 : Int32).toInt = 0 := rfl
  have hlast := Int32.toInt_lt endQ18
  have hdt : (endQ18 - startQ18).toInt = endQ18.toInt - startQ18.toInt :=
    toInt_sub_of_fits (by omega) (by omega)
  -- what comes after the checks does not depend on how they pass
  have hrest : ∃ status₀, (do
      let supply ← sampleSupply pack s.remainingPropellantQ21
      let loads ← ((List.finRange 12).foldlM
        (s.loadJet pack startQ18 cgFromNoseQ28 faults supply) .none : NumericM JetLoads)
      requireClear .numeric
      return (supply, loads) : GuardedM RcsError (SupplySample × JetLoads)).run.run status₀
        = (.ok (supply, loads), status') := by
    dsimp only at h
    split at h
    · split_ifs at h with hedge
      · obtain ⟨_, _, hthrow, -⟩ := bind_ok h
        cases hthrow
      · exact ⟨_, h⟩
    · exact ⟨_, h⟩
  obtain ⟨status₀, hrest⟩ := hrest
  obtain ⟨sample, status₁, hsample, hrest⟩ := bind_ok hrest
  obtain ⟨all, status₂, hloads, hrest⟩ := bind_ok hrest
  obtain ⟨_, status₃, hguard, hreturn⟩ := bind_ok hrest
  obtain ⟨hclear, rfl⟩ := requireClear_ok hguard
  cases hreturn
  refine ⟨hclear, sampleSupply_ok hsample, by omega, fun hempty ↦ ?_⟩
  have hrun := lift_ok hloads
  rw [foldlM_loadJet_empty hempty] at hrun
  cases hrun
  rfl

end Loads

/-! ## Segments -/

section Segments

variable (s : RcsState) (pack : AdvancedEffectorPack) (startQ18 endQ18 cgFromNoseQ28 : Int32)
  (faults : Vector RcsJetFault 12) (status : NumericStatus)

/-- The result of a segment, and the state after it. -/
def segment : Except RcsError RcsSegmentResult × RcsState :=
  ((s.integrateRcsSegment pack startQ18 endQ18 cgFromNoseQ28 faults).run status).1

/-- What the result of a segment has to do with the tank. -/
structure Consumes (r : RcsSegmentResult) (s' : RcsState) : Prop where
  kept : s' = { s with remainingPropellantQ21 := s'.remainingPropellantQ21 }
  decrease : s'.remainingPropellantQ21.toInt
    = s.remainingPropellantQ21.toInt - r.consumedPropellantQ21.toInt
  nonneg : 0 ≤ r.consumedPropellantQ21.toInt
  reported : r.remainingPropellantQ21 = s'.remainingPropellantQ21
  depleted : r.depleted = true → s'.remainingPropellantQ21 = 0
  idle : s.remainingPropellantQ21 = 0 → r.loads = .none

/-- A segment never overdraws the tank, takes from it what it reports, has no jets burn once the
tank is empty, and leaves the state if it fails. -/
structure SegmentSound : Prop where
  nonneg : 0 ≤ s.remainingPropellantQ21.toInt →
    0 ≤ (segment s pack startQ18 endQ18 cgFromNoseQ28 faults status).2.remainingPropellantQ21.toInt
  consumes : ∀ r, (segment s pack startQ18 endQ18 cgFromNoseQ28 faults status).1 = .ok r →
    Consumes s r (segment s pack startQ18 endQ18 cgFromNoseQ28 faults status).2
  fails : ∀ e, (segment s pack startQ18 endQ18 cgFromNoseQ28 faults status).1 = .error e →
    (segment s pack startQ18 endQ18 cgFromNoseQ28 faults status).2 = s

/-- None of the operations after the loads saturates. -/
structure OperationsFit (remaining flow dt : Int32) (thrusts : List Int32) : Prop where
  consumption : Fits (consumption flow dt)
  depletion : Empties remaining flow dt → Fits (depletionTime remaining flow)
  impulse : ImpulseFits (burnTime remaining flow dt) 0 thrusts

variable {s pack startQ18 endQ18 cgFromNoseQ28 faults status} {status' : NumericStatus}
  {supply : SupplySample} {loads : JetLoads}

/-- A segment that stops before anything is written. -/
theorem segment_error {e : RcsError}
    (h : (s.segmentLoads pack startQ18 endQ18 cgFromNoseQ28 faults).run.run status
      = (.error e, status')) :
    segment s pack startQ18 endQ18 cgFromNoseQ28 faults status = (.error e, s) := by
  unfold segment RcsState.integrateRcsSegment
  rw [run_bind_of h]
  rfl

/-- A segment that goes on writes what is left of the propellant, and has a result iff the last
operations fit. -/
theorem segment_loaded
    (h : (s.segmentLoads pack startQ18 endQ18 cgFromNoseQ28 faults).run.run status
      = (.ok (supply, loads), status')) :
    ∃ r s', Consumes s r s' ∧ (s' = s ↔ consumption loads.totalFlowQ28 (endQ18 - startQ18) ≤ 0) ∧
      0 ≤ s'.remainingPropellantQ21.toInt ∧
      (OperationsFit s.remainingPropellantQ21 loads.totalFlowQ28 (endQ18 - startQ18)
          loads.individualThrustQ23.toList →
        segment s pack startQ18 endQ18 cgFromNoseQ28 faults status = (.ok r, s')) ∧
      (¬OperationsFit s.remainingPropellantQ21 loads.totalFlowQ28 (endQ18 - startQ18)
          loads.individualThrustQ23.toList →
        segment s pack startQ18 endQ18 cgFromNoseQ28 faults status = (.error .numeric, s')) := by
  obtain ⟨hclear, hremaining, hdt, hnone⟩ := segmentLoads_ok h
  obtain ⟨time, consumed, status₁, hburn, htime, hconsumed, hburnt⟩ :=
    @burn_spec loads.totalFlowQ28 (endQ18 - startQ18) status' s hremaining hdt
  obtain ⟨hlow, hhigh⟩ := consumed_bounds hremaining hdt hconsumed
  have hlast := Int32.toInt_lt s.remainingPropellantQ21
  have hzero : (0 : Int32).toInt = 0 := rfl
  -- the impulse, and then the difference, which always fits
  let impulse := (RcsState.totalImpulse time loads.individualThrustQ23.toList).run status₁
  have hleft : Fits (s.remainingPropellantQ21.toInt - consumed.toInt) := ⟨by omega, by omega⟩
  let left := settled (s.remainingPropellantQ21.toInt - consumed.toInt) impulse.2
  have hleftWord : left.1.toInt = s.remainingPropellantQ21.toInt - consumed.toInt :=
    toInt_settled_of_fits hleft
  have hfinal : left.2.Clear ↔ OperationsFit s.remainingPropellantQ21 loads.totalFlowQ28
      (endQ18 - startQ18) loads.individualThrustQ23.toList := by
    rw [settled_clear, and_iff_left hleft, show impulse.2.Clear ↔ _ from totalImpulse_clear, hburnt,
      htime, hzero]
    constructor
    · rintro ⟨⟨-, hconsumption, hdepletion⟩, himpulse⟩
      exact ⟨hconsumption, hdepletion, himpulse⟩
    · rintro ⟨hconsumption, hdepletion, himpulse⟩
      exact ⟨⟨hclear, hconsumption, hdepletion⟩, himpulse⟩
  let s' : RcsState := { s with remainingPropellantQ21 := max left.1 0 }
  have hword : s'.remainingPropellantQ21.toInt
      = s.remainingPropellantQ21.toInt - consumed.toInt := by
    show (max left.1 0).toInt = _
    rw [toInt_maxI32, hleftWord, hzero]
    omega
  let r : RcsSegmentResult :=
    { integratedEndQ18 := startQ18 + time
      loads := loads
      totalImpulseQ26 := impulse.1
      consumedPropellantQ21 := consumed
      remainingPropellantQ21 := s'.remainingPropellantQ21
      pressureQ8 := supply.pressureQ8
      thrustScaleQ30 := supply.thrustScaleQ30
      depleted := decide (Empties s.remainingPropellantQ21 loads.totalFlowQ28
        (endQ18 - startQ18)) }
  have hrun : (s.integrateRcsSegment pack startQ18 endQ18 cgFromNoseQ28 faults).run status
      = StateT.run (do
        if (← get).isClear = false then return (.error .numeric, s')
        return (.ok r, s') : NumericM _) left.2 := by
    unfold RcsState.integrateRcsSegment
    rw [run_bind_of h]
    dsimp only
    rw [run_bind_of hburn]
    dsimp only
    rw [run_bind_of (show _ = impulse from rfl), run_bind_of subtract_settled]
  have hresult : segment s pack startQ18 endQ18 cgFromNoseQ28 faults status
      = if left.2.isClear = false then (.error .numeric, s') else (.ok r, s') := by
    unfold segment
    rw [hrun]
    show (StateT.run (if left.2.isClear = false then pure (.error .numeric, s')
      else pure (.ok r, s') : NumericM (Except RcsError RcsSegmentResult × RcsState)) left.2).1 = _
    split_ifs <;> rfl
  refine ⟨r, s', ⟨rfl, hword, hlow, rfl, fun hdepleted ↦ ?_, hnone⟩, ?_, by omega, fun hfits ↦ ?_,
    fun hfits ↦ ?_⟩
  · rw [if_pos (of_decide_eq_true hdepleted)] at hconsumed
    rw [← Int32.toInt_inj, hword, hconsumed, hzero, Int.sub_self]
  · have hkept : s' = s ↔ consumed.toInt = 0 := by
      constructor
      · intro hsame
        rw [hsame] at hword
        omega
      · intro hnothing
        have hsame : s'.remainingPropellantQ21 = s.remainingPropellantQ21 := by
          rw [← Int32.toInt_inj, hword, hnothing, Int.sub_zero]
        show { s with remainingPropellantQ21 := s'.remainingPropellantQ21 } = s
        rw [hsame]
    rw [hkept]
    obtain hempty | hpositive := hremaining.eq_or_lt
    · have hflow : consumption loads.totalFlowQ28 (endQ18 - startQ18) = 0 := by
        rw [hnone (Int32.toInt_inj.mp (hempty.symm.trans hzero.symm))]
        show roundAway (0 * (endQ18 - startQ18).toInt) _ = 0
        rw [Int.zero_mul]
        rfl
      exact iff_of_true (by omega) hflow.le
    · exact consumed_eq_zero hpositive hconsumed
  · have hstatus : left.2.isClear = true := hfinal.mpr hfits
    rw [hresult, hstatus]
    rfl
  · have hstatus : left.2.isClear = false := by
      rw [← Bool.not_eq_true]
      exact fun h ↦ hfits (hfinal.mp h)
    rw [hresult, if_pos hstatus]

/-- A segment is sound iff, when it goes on, it consumes nothing or its last operations fit. -/
theorem segmentSound_iff :
    SegmentSound s pack startQ18 endQ18 cgFromNoseQ28 faults status ↔
      ∀ supply loads status', (s.segmentLoads pack startQ18 endQ18 cgFromNoseQ28 faults).run.run status
          = (.ok (supply, loads), status') →
        consumption loads.totalFlowQ28 (endQ18 - startQ18) ≤ 0 ∨
          OperationsFit s.remainingPropellantQ21 loads.totalFlowQ28 (endQ18 - startQ18)
            loads.individualThrustQ23.toList := by
  constructor
  · intro hsound supply loads status' hloads
    obtain ⟨r, s', -, hkept, -, -, hfault⟩ := segment_loaded hloads
    by_contra hneither
    rw [not_or] at hneither
    have hsegment := hfault hneither.2
    have hsame := hsound.fails .numeric (congrArg Prod.fst hsegment)
    rw [hsegment] at hsame
    exact hneither.1 (hkept.mp hsame)
  · intro hfits
    rcases hloads : (s.segmentLoads pack startQ18 endQ18 cgFromNoseQ28 faults).run.run status
      with ⟨e | ⟨supply, loads⟩, status'⟩
    · have hsegment := segment_error hloads
      constructor
      · rw [hsegment]
        exact id
      · rw [hsegment]
        rintro r ⟨⟩
      · rw [hsegment]
        exact fun _ _ ↦ rfl
    · obtain ⟨r, s', hconsumes, hkept, hnonneg, hok, hfault⟩ := segment_loaded hloads
      by_cases hoperations : OperationsFit s.remainingPropellantQ21 loads.totalFlowQ28
        (endQ18 - startQ18) loads.individualThrustQ23.toList
      · have hsegment := hok hoperations
        constructor
        · rw [hsegment]
          exact fun _ ↦ hnonneg
        · rw [hsegment]
          rintro r' ⟨⟩
          exact hconsumes
        · rw [hsegment]
          rintro e ⟨⟩
      · have hsegment := hfault hoperations
        have hnothing := (hfits supply loads status' hloads).resolve_right hoperations
        constructor
        · rw [hsegment]
          exact fun _ ↦ hnonneg
        · rw [hsegment]
          rintro r' ⟨⟩
        · rw [hsegment]
          exact fun _ _ ↦ hkept.mpr hnothing

end Segments

/-- A pack with a jet of 128 N and 100 s. -/
def strongPack : AdvancedEffectorPack where
  identity := 1
  effectors := .rcsOnly
  supplySource := .regulatedV1
  vehicleIdentity := 1
  neutralVehicleIdentity := 1
  supplyIdentity := 1
  provenanceIdentity := 1
  tankDryMassQ21 := 1
  propellantWetMassQ21 := 2097152
  reserveQ15 := 0
  canardHingeLimitsQ24 := .replicate 4 0
  canardCount := 0
  jetCount := 12
  coefficientCount := 0
  supplyCount := 2
  canards := .replicate 4 ⟨.replicate 3 0, .replicate 3 0, 0, 0, 0, 0, 0, .replicate 3 0, 0, 0, 0, 0⟩
  coefficientKnots := .replicate 8 ⟨0, 0, 0, 0⟩
  jets := .replicate 12 ⟨.replicate 3 0, (Vector.replicate 3 0).setIfInBounds 0 oneQ30, oneQ30, 6553600, 1, 8, 0,
    1, 1⟩
  supplyKnots := (Vector.replicate 16 ⟨0, 1, oneQ30, oneQ30⟩).setIfInBounds 1 ⟨2097152, 1, oneQ30, oneQ30⟩

/-- The state of the pack before the first call. -/
def strongState : RcsState :=
  ⟨2097152, .replicate 12 0, .replicate 12 noEdge, .replicate 12 noEdge, -8192⟩

/-- One jet does not close. -/
def oneStuckOpen : Vector RcsJetFault 12 := (Vector.replicate 12 .healthy).setIfInBounds 0 .stuckOpen

/-- In a quarter of a second the jet has an impulse of 32 N·s, which is no word.  The segment fails,
and what it would have consumed is gone. -/
theorem failed_segment_consumes :
    RcsState.new strongPack = .ok strongState ∧
      ¬SegmentSound strongState strongPack 0 65536 0 oneStuckOpen .clear := by
  refine ⟨rfl, fun hsound ↦ ?_⟩
  have hlost : (segment strongState strongPack 0 65536 0 oneStuckOpen .clear).2.remainingPropellantQ21
      ≠ strongState.remainingPropellantQ21 := by decide +kernel
  have hfailed : (segment strongState strongPack 0 65536 0 oneStuckOpen .clear).1.isOk = false := by
    decide +kernel
  rcases hresult : (segment strongState strongPack 0 65536 0 oneStuckOpen .clear).1 with e | r
  · exact hlost (congrArg RcsState.remainingPropellantQ21 (hsound.fails e hresult))
  · rw [hresult] at hfailed
    cases hfailed

end Ksa64.Core
