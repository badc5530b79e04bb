import Ksa64.Flight.Reference
import Ksa64.Session.Operations

/-!
# The full GNSS-loss mission

What the full-length mission declares: its plan with two contingency branches, its
procedure, and how a finished mission is classified.
-/

namespace Ksa64.Session

open Ksa64.Interface Ksa64.Flight

def fullGnssLossScenarioId : UInt32 := 0x12b00001

def gnssLossRelease : UInt32 := 5760
def gnssQualifiedRelease : UInt32 := 5824
def decisionWindowOpenRelease : UInt32 := 5920
def decisionWindowCloseRelease : UInt32 := 7840

/-! ## The plan -/

/-- A branch that the operator may select while the decision window is open. -/
def decisionBranch (branchId : UInt8) : ContingencyBranch where
  branchId := branchId
  sourceDecisionId := 1
  firstEventId := 1
  flags := 0
  earliestEpoch := decisionWindowOpenRelease
  latestEpoch := decisionWindowCloseRelease
  prerequisiteEvents := 0
  requiredCapabilities := packageCapBranchSelect
  arguments := #v[branchId.toUInt32.toInt32, 0]

def fullGnssLossMissionPlan : MissionPlan :=
  { ksaG10rReferenceMissionPlan with
    planIdentity := 0x12b30101
    branchCount := 2
    decisionCount := 1
    branches := (ksaG10rReferenceMissionPlan.branches.set 0 (decisionBranch 1) (by decide)).set 1
      (decisionBranch 2) (by decide)
    decisions := ksaG10rReferenceMissionPlan.decisions.set 0 {
      decisionId := 1
      defaultBranchId := 1
      flags := 0
      earliestEpoch := decisionWindowOpenRelease
      latestEpoch := decisionWindowCloseRelease
      requiredEventMask := 0
      timeoutBranchId := 1 } (by decide) }

/-- The plan declares a branch of this number. -/
def declaresBranch (plan : MissionPlan) (branch : Int32) : Bool :=
  (plan.branches.toList.take plan.branchCount.toNat).any fun declared ↦
    declared.branchId.toUInt32.toInt32 == branch

/-- The plan declares the branches 1 and 2. -/
theorem declaresBranch_fullGnssLoss (branch : Int32) :
    declaresBranch fullGnssLossMissionPlan branch = true ↔ branch = 1 ∨ branch = 2 := by
  have hdeclared : declaresBranch fullGnssLossMissionPlan branch
      = ((1 : Int32) == branch || (2 : Int32) == branch) := by
    unfold declaresBranch
    rw [show fullGnssLossMissionPlan.branches.toList.take
      fullGnssLossMissionPlan.branchCount.toNat = [decisionBranch 1, decisionBranch 2] from rfl]
    simp only [List.any_cons, List.any_nil, Bool.or_false, decisionBranch]
    rfl
  rw [hdeclared, Bool.or_eq_true, beq_iff_eq, beq_iff_eq, eq_comm, @eq_comm _ 2]

/-- The plan fits the package. -/
theorem fullGnssLossMissionPlan_fits :
    planForeign fullGnssLossMissionPlan ksaG10rReferenceOpsManifest = false := by
  decide +kernel

/-! ## The procedure -/

def verificationStep (id nextComplete metricId : UInt16) (comparison : ProcedureComparison)
    (threshold : Int32) : ProcedureStep :=
  { ProcedureStep.empty with
    stepId := id
    kind := .verify
    nextComplete := nextComplete
    nextFailure := 7
    timeoutEpochs := decisionWindowCloseRelease - gnssQualifiedRelease
    predicateCount := 1
    hintIdentity := id
    messageIdentity := 0x12b30000 ||| id.toUInt32
    predicates := Library.Quad.of ⟨metricId, comparison, 0, threshold⟩ .empty .empty .empty }

def fullActionStep (id : UInt16) (action : UplinkLoadType) (nextComplete : UInt16) :
    ProcedureStep :=
  { ProcedureStep.empty with
    stepId := id
    kind := .requestAction
    nextComplete := nextComplete
    nextFailure := 7
    timeoutEpochs := decisionWindowCloseRelease - gnssQualifiedRelease
    action := some action
    hintIdentity := id
    messageIdentity := 0x12b30000 ||| id.toUInt32 }

/-- The end of the procedure, well or badly. -/
def fullTerminalStep (id : UInt16) (kind : ProcedureStepKind) : ProcedureStep :=
  { ProcedureStep.empty with
    stepId := id
    kind := kind
    messageIdentity := 0x12b30000 ||| id.toUInt32 }

/-- The seven steps: three checks, two requests, and the two ends. -/
def fullGnssLossSteps : List ProcedureStep :=
  [verificationStep 1 2 metricGnssValid .equal 0,
    verificationStep 2 3 metricInertialHealthy .equal 1,
    verificationStep 3 4 metricOnboardGroundPositionResidualQ12 .lessOrEqual 262144,
    fullActionStep 4 .groundNavigationUpdate 5,
    fullActionStep 5 .contingencyBranch 6,
    fullTerminalStep 6 .complete,
    fullTerminalStep 7 .fail]

def fullGnssLossProcedurePack (planIdentity : UInt32) : ProcedurePack where
  packIdentity := 0x12b30001
  planIdentity := planIdentity
  procedureIdentity := 0x12b31001
  metricCatalogIdentity := phase11OperationalMetricCatalogId
  nameIdentity := 0x12b32001
  stepCount := 7
  entryStep := 1
  flags := 0
  steps := Vector.ofFn fun index ↦ fullGnssLossSteps.getD index .empty

/-- The pack as the session opens it. -/
def fullMissionPack : ProcedurePack :=
  fullGnssLossProcedurePack fullGnssLossMissionPlan.planIdentity

/-- The title of a step for the operator. -/
def procedureTitle (step : UInt16) : String :=
  if step = 1 then "Confirm GNSS loss"
  else if step = 2 then "Verify inertial propagation"
  else if step = 3 then "Compare ground solution"
  else if step = 4 then "Load ground state update"
  else if step = 5 then "Select continuation branch"
  else if step = 6 then "Procedure complete"
  else if step = 7 then "Procedure window missed"
  else "Stand by"

/-! ## The disposition -/

inductive EvaluationOutcome where
  | complete
  | stableOrbit
  | completeNotOrbit
  | groundContact
  | aborted
  | numericFault
  | stepLimit
  | noLiftoff
  | configurationFault
  | recoveryIncomplete
  | modelEnvelopeExceeded
deriving DecidableEq, Repr

/-- The value of an outcome in the evidence. -/
def EvaluationOutcome.code : EvaluationOutcome → UInt32
  | .complete => 0
  | .stableOrbit => 1
  | .completeNotOrbit => 2
  | .groundContact => 3
  | .aborted => 4
  | .numericFault => 5
  | .stepLimit => 6
  | .noLiftoff => 7
  | .configurationFault => 8
  | .recoveryIncomplete => 9
  | .modelEnvelopeExceeded => 10

inductive MissionObjectiveDisposition where
  | primaryAchieved
  | alternateAchieved
  | contingencyAchieved
  | notAchieved
  | indeterminate
deriving DecidableEq, Repr

inductive VehicleDisposition where
  | nominal
  | degraded
  | recovered
  | safeState
  | lost
  | unknown
deriving DecidableEq, Repr

inductive ProcedureDisposition where
  | completed
  | alternateBranch
  | skipped
  | mistimed
  | overridden
  | failed
deriving DecidableEq, Repr

inductive OperatorDisposition where
  | timelyReference
  | timelyAlternate
  | delayedValid
  | noAction
  | rejectedAction
deriving DecidableEq, Repr

inductive AvionicsDisposition where
  | nominal
  | degradedOperational
  | safeRecovery
  | failed
deriving DecidableEq, Repr

inductive EvidenceDisposition where
  | complete
  | observationIncomplete
  | aborted
  | invalid
  | unavailable
deriving DecidableEq, Repr

inductive OverallMissionDisposition where
  | nominalSuccess
  | degradedSuccess
  | contingencySuccess
  | missionFailure
  | indeterminate
deriving DecidableEq, Repr

structure OperationalDispositionEvidence where
  objective : MissionObjectiveDisposition
  vehicle : VehicleDisposition
  procedure : ProcedureDisposition
  operator : OperatorDisposition
  avionics : AvionicsDisposition
  evidence : EvidenceDisposition
deriving DecidableEq

structure OperationalDispositionView where
  overall : OverallMissionDisposition
  axes : OperationalDispositionEvidence
deriving DecidableEq

def classifyDisposition (axes : OperationalDispositionEvidence) : OperationalDispositionView where
  overall :=
    if axes.evidence ≠ .complete then .indeterminate
    else if axes.objective ∈ [.notAchieved, .indeterminate]
        ∨ axes.vehicle ∈ [.lost, .unknown] ∨ axes.avionics = .failed then .missionFailure
    else if axes.objective ∈ [.alternateAchieved, .contingencyAchieved]
        ∨ axes.vehicle ∈ [.recovered, .safeState] ∨ axes.procedure = .alternateBranch
        ∨ axes.operator = .timelyAlternate ∨ axes.avionics = .safeRecovery then
      .contingencySuccess
    else if axes.vehicle = .degraded
        ∨ axes.procedure ∈ [.skipped, .mistimed, .overridden, .failed]
        ∨ axes.operator ∈ [.delayedValid, .noAction, .rejectedAction]
        ∨ axes.avionics = .degradedOperational then .degradedSuccess
    else .nominalSuccess
  axes := axes

/-- The run is classified as the alternate branch, on any of the axes that say so. -/
def OperationalDispositionView.Alternate (view : OperationalDispositionView) : Prop :=
  view.axes.objective = .contingencyAchieved ∨ view.axes.vehicle = .recovered
    ∨ view.axes.procedure = .alternateBranch ∨ view.axes.operator = .timelyAlternate
    ∨ view.axes.avionics = .safeRecovery

instance (view : OperationalDispositionView) : Decidable view.Alternate :=
  inferInstanceAs (Decidable (_ ∨ _))

def procedureDisposition : ProcedureState → ProcedureDisposition
  | .active | .skipped => .skipped
  | .completed => .completed
  | .failed => .failed
  | .mistimed => .mistimed
  | .manuallyOverridden => .overridden

/-! ## The procedure can always go on -/

section Pack

theorem usedSteps_fullMission : usedSteps fullMissionPack = fullGnssLossSteps := rfl

theorem findStep_fullMission (id : UInt16) :
    findStep fullMissionPack id = fullGnssLossSteps.find? fun step ↦ step.stepId == id := rfl

/-- Every edge of the pack leads to a step of it or nowhere, and every step that names an
action requests it and leads on. -/
theorem fullMission_edges {id : UInt16} {step : ProcedureStep}
    (hstep : findStep fullMissionPack id = some step) :
    (step.nextComplete ≠ 0 → (findStep fullMissionPack step.nextComplete).isSome)
      ∧ (step.nextFailure ≠ 0 → (findStep fullMissionPack step.nextFailure).isSome)
      ∧ (step.kind = .verify → step.nextComplete ≠ 0)
      ∧ (step.action.isSome → step.kind = .requestAction ∧ step.nextComplete ≠ 0)
      ∧ step.kind ∈ [.verify, .requestAction, .complete, .fail] := by
  have hmem : step ∈ fullGnssLossSteps := List.mem_of_find?_eq_some hstep
  have hall : ∀ step ∈ fullGnssLossSteps,
      (step.nextComplete ≠ 0 →
          (fullGnssLossSteps.find? fun other ↦ other.stepId == step.nextComplete).isSome)
        ∧ (step.nextFailure ≠ 0 →
          (fullGnssLossSteps.find? fun other ↦ other.stepId == step.nextFailure).isSome)
        ∧ (step.kind = .verify → step.nextComplete ≠ 0)
        ∧ (step.action.isSome → step.kind = .requestAction ∧ step.nextComplete ≠ 0)
        ∧ step.kind ∈ [.verify, .requestAction, .complete, .fail] := by
    decide
  exact hall step hmem

end Pack

namespace ProcedureEngine

variable {e : ProcedureEngine} {epoch : UInt32} {step : ProcedureStep}

/-- The engine walks the pack of the mission and stands in one of its steps. -/
structure OnMission (e : ProcedureEngine) : Prop where
  pack_eq : e.pack = fullMissionPack
  standing : (findStep fullMissionPack e.currentStep).isSome

/-- Recording evidence moves nothing. -/
theorem OnMission.record (h : e.OnMission) (kind : ProcedureEvidenceKind) (stepId : UInt16)
    (detail : UInt32) : (e.record epoch kind stepId detail).OnMission := ⟨h.pack_eq, h.standing⟩

/-- The step the engine stands in. -/
theorem OnMission.current_eq (h : e.OnMission) :
    ∃ step, e.current = some step ∧ findStep fullMissionPack e.currentStep = some step := by
  obtain ⟨step, hstep⟩ := Option.isSome_iff_exists.mp h.standing
  exact ⟨step, by rw [current, h.pack_eq, hstep], hstep⟩

/-- A transition to a step of the pack succeeds. -/
theorem OnMission.transition (h : e.OnMission) {destination : UInt16} (hzero : destination ≠ 0)
    (hfound : (findStep fullMissionPack destination).isSome) (kind : ProcedureEvidenceKind) :
    (e.transition epoch destination kind).1 = .ok ()
      ∧ (e.transition epoch destination kind).2.OnMission := by
  obtain ⟨hok, hat⟩ := transition_at epoch kind hzero (h.pack_eq.symm ▸ hfound)
  exact ⟨hok, hat.pack_eq.trans h.pack_eq, hat.currentStep_eq.symm ▸ hfound⟩

theorem OnMission.timeOut (h : e.OnMission)
    (hstep : findStep fullMissionPack e.currentStep = some step) (detail : UInt32) :
    (e.timeOut epoch step detail).1 = .ok () ∧ (e.timeOut epoch step detail).2.OnMission := by
  unfold ProcedureEngine.timeOut
  dsimp only
  split
  · exact ⟨rfl, h.pack_eq, h.standing⟩
  · rename_i hzero
    exact (h.record .timeout step.stepId detail).transition hzero
      ((fullMission_edges hstep).2.1 hzero) .branch

/-- A tick in the pack of the mission succeeds. -/
theorem OnMission.tick (h : e.OnMission) (snapshot : OperationalMetricSnapshot) :
    (e.tick snapshot).1 = .ok () ∧ (e.tick snapshot).2.OnMission := by
  obtain ⟨step, hcurrent, hstep⟩ := h.current_eq
  obtain ⟨hcomplete, -, hverify, -, hkind⟩ := fullMission_edges hstep
  unfold ProcedureEngine.tick
  split
  · exact ⟨rfl, h⟩
  · rw [hcurrent]
    dsimp only
    split
    · exact h.timeOut hstep step.timeoutEpochs
    · split
      case h_1 | h_3 | h_4 | h_6 => simp_all
      case h_2 hkind =>
        split
        · exact (h.record .complete step.stepId 0).transition (hverify hkind)
            (hcomplete (hverify hkind)) .enter
        · exact ⟨rfl, h⟩
      case h_5 | h_7 => exact ⟨rfl, h.pack_eq, h.standing⟩
      all_goals exact ⟨rfl, h⟩

/-- So does an external deadline. -/
theorem OnMission.expireAt (h : e.OnMission) (epoch : UInt32) :
    (e.expireAt epoch).1 = .ok () ∧ (e.expireAt epoch).2.OnMission := by
  obtain ⟨step, hcurrent, hstep⟩ := h.current_eq
  unfold ProcedureEngine.expireAt
  split
  · exact ⟨rfl, h⟩
  · rw [hcurrent]
    exact h.timeOut hstep 0

/-- An action that the active step names is accepted. -/
theorem OnMission.acceptAction (h : e.OnMission) (epoch : UInt32) {role : OperationalRole}
    {action : UplinkLoadType} (hrole : roleCanAct role = true) (hactive : e.state = .active)
    (hcurrent : e.current = some step) (haction : step.action = some action) :
    (e.acceptAction role epoch action true).1 = .ok ()
      ∧ (e.acceptAction role epoch action true).2.OnMission := by
  obtain ⟨step', hcurrent', hstep⟩ := h.current_eq
  obtain rfl := Option.some.inj (hcurrent.symm.trans hcurrent')
  obtain ⟨hcomplete, -, -, hrequest, -⟩ := fullMission_edges hstep
  obtain ⟨hkind, hzero⟩ := hrequest (haction ▸ rfl)
  have haccepts : e.Accepts role action :=
    accepts_iff.mpr ⟨hrole, hactive, step, hcurrent, hkind, haction⟩
  have hfound := hcomplete hzero
  obtain ⟨hok, hat⟩ := acceptAction_of_accepts epoch haccepts hcurrent hzero
    (h.pack_eq.symm ▸ hfound)
  exact ⟨hok, hat.pack_eq.trans h.pack_eq, hat.currentStep_eq.symm ▸ hfound⟩

/-- The mission's procedure opens in its first step. -/
theorem new_onMission (epoch : UInt32) :
    ∃ e, ProcedureEngine.new fullMissionPack epoch = .ok e ∧ e.OnMission ∧ e.state = .active
      ∧ e.currentStep = 1 ∧ e.enteredEpoch = epoch := by
  have hvalid : validatePack fullMissionPack = .ok () := by decide +kernel
  have hentry : (findStep fullMissionPack fullMissionPack.entryStep).isSome = true := by
    decide +kernel
  unfold ProcedureEngine.new
  rw [hvalid]
  exact ⟨_, rfl, ⟨rfl, hentry⟩, rfl, rfl, rfl⟩

end ProcedureEngine

end Ksa64.Session
