import Ksa64.Interface.MissionPlan

/-!
# Wire values

The values of the enumerations on the wire and the parsers that read them.  Each parser
accepts the values of its enumeration and no others.
-/

namespace Ksa64.Interface

/-! ## Packages -/

def FlightSoftwarePackageId.code : FlightSoftwarePackageId → UInt32
  | .ksaG10rReferenceOpsV1 => 0x11f50001
  | .safeholdRecoveryV1 => 0x11f50002

@[simp] theorem FlightSoftwarePackageId.parse_eq_ok {value : UInt32} {x : FlightSoftwarePackageId} :
    FlightSoftwarePackageId.parse value = .ok x ↔ x.code = value := by
  constructor
  · intro h
    unfold FlightSoftwarePackageId.parse at h
    split at h <;> cases h <;> rfl
  · rintro rfl
    cases x <;> rfl

def FlightAbiId.code : FlightAbiId → UInt32
  | .globalKlr10V1 => 0x10520001

@[simp] theorem FlightAbiId.parse_eq_ok {value : UInt32} {x : FlightAbiId} :
    FlightAbiId.parse value = .ok x ↔ x.code = value := by
  constructor
  · intro h
    unfold FlightAbiId.parse at h
    split at h
    · cases h
      rfl
    · cases h
  · rintro rfl
    cases x
    rfl

def PackageSafeStateId.code : PackageSafeStateId → UInt8
  | .referenceGlobalSafeV1 => 1
  | .entryRecoverySafeholdV1 => 2

def PackageSafeStateId.parse (value : UInt8) : Except CodecError PackageSafeStateId :=
  match value with
  | 1 => pure .referenceGlobalSafeV1
  | 2 => pure .entryRecoverySafeholdV1
  | _ => throw .enum

@[simp] theorem PackageSafeStateId.parse_eq_ok {value : UInt8} {x : PackageSafeStateId} :
    PackageSafeStateId.parse value = .ok x ↔ x.code = value := by
  constructor
  · intro h
    unfold PackageSafeStateId.parse at h
    split at h <;> cases h <;> rfl
  · rintro rfl
    cases x <;> rfl

def PackageCommandLossBehavior.code : PackageCommandLossBehavior → UInt8
  | .frozenKlr10HoldThenSafe => 1
  | .immediateSafehold => 2

def PackageCommandLossBehavior.parse (value : UInt8) : Except CodecError PackageCommandLossBehavior :=
  match value with
  | 1 => pure .frozenKlr10HoldThenSafe
  | 2 => pure .immediateSafehold
  | _ => throw .enum

@[simp] theorem PackageCommandLossBehavior.parse_eq_ok {value : UInt8} {x : PackageCommandLossBehavior} :
    PackageCommandLossBehavior.parse value = .ok x ↔ x.code = value := by
  constructor
  · intro h
    unfold PackageCommandLossBehavior.parse at h
    split at h <;> cases h <;> rfl
  · rintro rfl
    cases x <;> rfl

/-! ## Mission plans -/

def MissionEventKind.code : MissionEventKind → UInt8
  | .attitudeOrGuidanceTarget => 1
  | .navigationSource => 2
  | .holdOrContinue => 3
  | .plannedCorrection => 4
  | .recoveryMode => 5
  | .abortOrSafeState => 6

@[simp] theorem MissionEventKind.parse_eq_ok {value : UInt8} {x : MissionEventKind} :
    MissionEventKind.parse value = .ok x ↔ x.code = value := by
  constructor
  · intro h
    unfold MissionEventKind.parse at h
    split at h <;> cases h <;> rfl
  · rintro rfl
    cases x <;> rfl

def MissionEventTrigger.code : MissionEventTrigger → UInt8
  | .exactRelease => 1
  | .publicOnboardGuard => 2

@[simp] theorem MissionEventTrigger.parse_eq_ok {value : UInt8} {x : MissionEventTrigger} :
    MissionEventTrigger.parse value = .ok x ↔ x.code = value := by
  constructor
  · intro h
    unfold MissionEventTrigger.parse at h
    split at h <;> cases h <;> rfl
  · rintro rfl
    cases x <;> rfl

def MissionFailurePolicy.code : MissionFailurePolicy → UInt8
  | .failClosed => 1
  | .skip => 2
  | .selectContingency => 3

@[simp] theorem MissionFailurePolicy.parse_eq_ok {value : UInt8} {x : MissionFailurePolicy} :
    MissionFailurePolicy.parse value = .ok x ↔ x.code = value := by
  constructor
  · intro h
    unfold MissionFailurePolicy.parse at h
    split at h <;> cases h <;> rfl
  · rintro rfl
    cases x <;> rfl

/-! ## Frames, loads and control records -/

def parseGlobalFrame (value : UInt8) : Except CodecError GlobalFrameId :=
  match value with
  | 1 => pure .localEnuV1
  | 2 => pure .earthFixedEcefV1
  | 3 => pure .earthInertialEciV1
  | _ => throw .enum

@[simp] theorem parseGlobalFrame_eq_ok {value : UInt8} {x : GlobalFrameId} :
    parseGlobalFrame value = .ok x ↔ x.code = value := by
  constructor
  · intro h
    unfold parseGlobalFrame at h
    split at h <;> cases h <;> rfl
  · rintro rfl
    cases x <;> rfl

def UplinkLoadType.parse (value : UInt8) : Except CodecError UplinkLoadType :=
  match value with
  | 1 => pure .groundNavigationUpdate
  | 2 => pure .missionEventTarget
  | 3 => pure .contingencyBranch
  | 4 => pure .navigationMode
  | 5 => pure .highLevelMode
  | _ => throw .enum

@[simp] theorem UplinkLoadType.parse_eq_ok {value : UInt8} {x : UplinkLoadType} :
    UplinkLoadType.parse value = .ok x ↔ x.code = value := by
  constructor
  · intro h
    unfold UplinkLoadType.parse at h
    split at h <;> cases h <;> rfl
  · rintro rfl
    cases x <;> rfl

def UplinkControlKind.parse (value : UInt8) : Except CodecError UplinkControlKind :=
  match value with
  | 1 => pure .stageReceipt
  | 2 => pure .commitRequest
  | 3 => pure .commitReceipt
  | 4 => pure .cancellation
  | 5 => pure .executionAcknowledgement
  | _ => throw .enum

@[simp] theorem UplinkControlKind.parse_eq_ok {value : UInt8} {x : UplinkControlKind} :
    UplinkControlKind.parse value = .ok x ↔ x.code = value := by
  constructor
  · intro h
    unfold UplinkControlKind.parse at h
    split at h <;> cases h <;> rfl
  · rintro rfl
    cases x <;> rfl

def UplinkState.parse (value : UInt8) : Except CodecError UplinkState :=
  match value with
  | 0 => pure .empty
  | 1 => pure .staged
  | 2 => pure .committed
  | 3 => pure .executed
  | 4 => pure .cancelled
  | 5 => pure .rejected
  | 6 => pure .expired
  | _ => throw .enum

@[simp] theorem UplinkState.parse_eq_ok {value : UInt8} {x : UplinkState} :
    UplinkState.parse value = .ok x ↔ x.code = value := by
  constructor
  · intro h
    unfold UplinkState.parse at h
    split at h <;> cases h <;> rfl
  · rintro rfl
    cases x <;> rfl

def UplinkReasonCode.parse (value : UInt8) : Except CodecError UplinkReasonCode :=
  match value with
  | 0 => pure .accepted
  | 1 => pure .corrupt
  | 2 => pure .identity
  | 3 => pure .frame
  | 4 => pure .stale
  | 5 => pure .late
  | 6 => pure .unsupported
  | 7 => pure .capability
  | 8 => pure .prerequisite
  | 9 => pure .bounds
  | 10 => pure .residual
  | 11 => pure .occupied
  | 12 => pure .conflict
  | 13 => pure .alreadyApplied
  | _ => throw .enum

@[simp] theorem UplinkReasonCode.parse_eq_ok {value : UInt8} {x : UplinkReasonCode} :
    UplinkReasonCode.parse value = .ok x ↔ x.code = value := by
  constructor
  · intro h
    unfold UplinkReasonCode.parse at h
    split at h <;> cases h <;> rfl
  · rintro rfl
    cases x <;> rfl

def OperationalRole.code : OperationalRole → UInt8
  | .observer => 1
  | .guidedOperator => 2
  | .flightController => 3
  | .flightSoftwareEngineer => 4
  | .simDirector => 5
  | .scriptedOperator => 6

def OperationalRole.parse (value : UInt8) : Except CodecError OperationalRole :=
  match value with
  | 1 => pure .observer
  | 2 => pure .guidedOperator
  | 3 => pure .flightController
  | 4 => pure .flightSoftwareEngineer
  | 5 => pure .simDirector
  | 6 => pure .scriptedOperator
  | _ => throw .enum

@[simp] theorem OperationalRole.parse_eq_ok {value : UInt8} {x : OperationalRole} :
    OperationalRole.parse value = .ok x ↔ x.code = value := by
  constructor
  · intro h
    unfold OperationalRole.parse at h
    split at h <;> cases h <;> rfl
  · rintro rfl
    cases x <;> rfl

/-! ## Predictions and the journal -/

def PredictionProductKind.parse (value : UInt8) : Except CodecError PredictionProductKind :=
  match value with
  | 1 => pure .onboardCompact
  | 2 => pure .onboardEstimateGroundPropagated
  | 3 => pure .groundEstimate
  | 4 => pure .simTruthCounterfactual
  | _ => throw .enum

@[simp] theorem PredictionProductKind.parse_eq_ok {value : UInt8} {x : PredictionProductKind} :
    PredictionProductKind.parse value = .ok x ↔ x.code = value := by
  constructor
  · intro h
    unfold PredictionProductKind.parse at h
    split at h <;> cases h <;> rfl
  · rintro rfl
    cases x <;> rfl

def PredictionTerminalReason.code : PredictionTerminalReason → UInt8
  | .validHorizon => 1
  | .atmosphericImpact => 2
  | .modelEnvelope => 3
  | .estimateInvalid => 4
  | .planIncomplete => 5

def PredictionTerminalReason.parse (value : UInt8) : Except CodecError PredictionTerminalReason :=
  match value with
  | 1 => pure .validHorizon
  | 2 => pure .atmosphericImpact
  | 3 => pure .modelEnvelope
  | 4 => pure .estimateInvalid
  | 5 => pure .planIncomplete
  | _ => throw .enum

@[simp] theorem PredictionTerminalReason.parse_eq_ok {value : UInt8} {x : PredictionTerminalReason} :
    PredictionTerminalReason.parse value = .ok x ↔ x.code = value := by
  constructor
  · intro h
    unfold PredictionTerminalReason.parse at h
    split at h <;> cases h <;> rfl
  · rintro rfl
    cases x <;> rfl

def JournalEventKind.parse (value : UInt8) : Except CodecError JournalEventKind :=
  match value with
  | 1 => pure .mode
  | 2 => pure .navigationSource
  | 3 => pure .uplink
  | 4 => pure .prediction
  | 5 => pure .communications
  | 6 => pure .safeState
  | 7 => pure .alarm
  | _ => throw .enum

@[simp] theorem JournalEventKind.parse_eq_ok {value : UInt8} {x : JournalEventKind} :
    JournalEventKind.parse value = .ok x ↔ x.code = value := by
  constructor
  · intro h
    unfold JournalEventKind.parse at h
    split at h <;> cases h <;> rfl
  · rintro rfl
    cases x <;> rfl

end Ksa64.Interface
