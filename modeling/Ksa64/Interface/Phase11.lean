import Ksa64.Interface.Phase10

/-!
# Mission-operations records

The records of Phase 11: the manifest of a flight package, uplink loads and the
control records that stage, commit and cancel them, predictions, ground products and
the records of the event journal and the action log.
-/

namespace Ksa64.Interface

/-! ## Capabilities and load support -/

def packageCapMissionPlan : UInt32 := 1
def packageCapGroundNavUpdate : UInt32 := 2
def packageCapTargetUpdate : UInt32 := 4
def packageCapBranchSelect : UInt32 := 8
def packageCapNavMode : UInt32 := 16
def packageCapHighLevelMode : UInt32 := 32
def packageCapMask : UInt32 := 255

def packageSegmentMask : UInt16 := 31

def packageLoadGroundNav : UInt16 := 1
def packageLoadEventTarget : UInt16 := 2
def packageLoadBranch : UInt16 := 4
def packageLoadNavMode : UInt16 := 8
def packageLoadHighLevelMode : UInt16 := 16
def packageLoadMask : UInt16 := 31

inductive FlightSoftwarePackageId where
  | ksaG10rReferenceOpsV1
  | safeholdRecoveryV1
deriving DecidableEq, Repr

inductive FlightAbiId where
  | globalKlr10V1
deriving DecidableEq, Repr

inductive PackageSafeStateId where
  | referenceGlobalSafeV1
  | entryRecoverySafeholdV1
deriving DecidableEq, Repr

inductive PackageCommandLossBehavior where
  | frozenKlr10HoldThenSafe
  | immediateSafehold
deriving DecidableEq, Repr

structure PackageResourceClaim where
  persistentBytes : UInt16
  transientBytes : UInt16
  stackBytes : UInt16
  journalRecords : UInt8
  maximumObjectBytes : UInt16
deriving DecidableEq, Repr

structure FlightSoftwarePackageManifest where
  manifestIdentity : UInt32
  package : FlightSoftwarePackageId
  implementationIdentity : UInt32
  abi : FlightAbiId
  vehicleProfileIdentity : UInt32
  missionCompatibilityIdentity : UInt32
  capabilities : UInt32
  segmentSupport : UInt16
  commandLoadSupport : UInt16
  targets : UInt8
  safeState : PackageSafeStateId
  commandLoss : PackageCommandLossBehavior
  resource : PackageResourceClaim
  fastHz : UInt8
  navigationHz : UInt8
  guidanceHz : UInt8
  maximumPlanEvents : UInt8
  maximumBranches : UInt8
  maximumDecisions : UInt8
  codeIdentity : UInt32
  configurationIdentity : UInt32
  resourceEvidenceSha256 : Vector UInt8 32
deriving DecidableEq

/-! ## Uplink loads and control records -/

inductive UplinkLoadType where
  | groundNavigationUpdate
  | missionEventTarget
  | contingencyBranch
  | navigationMode
  | highLevelMode
deriving DecidableEq, Repr

namespace UplinkLoadType

/-- The wire value of a load type. -/
def code : UplinkLoadType → UInt8
  | .groundNavigationUpdate => 1
  | .missionEventTarget => 2
  | .contingencyBranch => 3
  | .navigationMode => 4
  | .highLevelMode => 5

def capability : UplinkLoadType → UInt32
  | .groundNavigationUpdate => packageCapGroundNavUpdate
  | .missionEventTarget => packageCapTargetUpdate
  | .contingencyBranch => packageCapBranchSelect
  | .navigationMode => packageCapNavMode
  | .highLevelMode => packageCapHighLevelMode

def supportBit : UplinkLoadType → UInt16
  | .groundNavigationUpdate => packageLoadGroundNav
  | .missionEventTarget => packageLoadEventTarget
  | .contingencyBranch => packageLoadBranch
  | .navigationMode => packageLoadNavMode
  | .highLevelMode => packageLoadHighLevelMode

end UplinkLoadType

structure UplinkCommandLoad where
  loadIdentity : UInt32
  packageManifestIdentity : UInt32
  planIdentity : UInt32
  abi : FlightAbiId
  sourceEstimatorIdentity : UInt32
  sourceEstimatorChecksum : UInt32
  stageEpoch : UInt32
  notBeforeEpoch : UInt32
  expiresEpoch : UInt32
  requestedEffectiveEpoch : UInt32
  requiredCapabilities : UInt32
  prerequisiteEventMask : UInt32
  positionResidualLimitQ12 : Int32
  velocityResidualLimitQ24 : Int32
  frame : GlobalFrameId
  loadType : UplinkLoadType
  arguments : Vector Int32 16
deriving DecidableEq

inductive UplinkControlKind where
  | stageReceipt
  | commitRequest
  | commitReceipt
  | cancellation
  | executionAcknowledgement
deriving DecidableEq, Repr

/-- The wire value of a control kind. -/
def UplinkControlKind.code : UplinkControlKind → UInt8
  | .stageReceipt => 1
  | .commitRequest => 2
  | .commitReceipt => 3
  | .cancellation => 4
  | .executionAcknowledgement => 5

inductive UplinkState where
  | empty
  | staged
  | committed
  | executed
  | cancelled
  | rejected
  | expired
deriving DecidableEq, Repr

/-- The wire value of an uplink state. -/
def UplinkState.code : UplinkState → UInt8
  | .empty => 0
  | .staged => 1
  | .committed => 2
  | .executed => 3
  | .cancelled => 4
  | .rejected => 5
  | .expired => 6

inductive UplinkReasonCode where
  | accepted
  | corrupt
  | identity
  | frame
  | stale
  | late
  | unsupported
  | capability
  | prerequisite
  | bounds
  | residual
  | occupied
  | conflict
  | alreadyApplied
deriving DecidableEq, Repr

/-- The wire value of a reason. -/
def UplinkReasonCode.code : UplinkReasonCode → UInt8
  | .accepted => 0
  | .corrupt => 1
  | .identity => 2
  | .frame => 3
  | .stale => 4
  | .late => 5
  | .unsupported => 6
  | .capability => 7
  | .prerequisite => 8
  | .bounds => 9
  | .residual => 10
  | .occupied => 11
  | .conflict => 12
  | .alreadyApplied => 13

structure UplinkControlRecord where
  kind : UplinkControlKind
  controlIdentity : UInt32
  loadIdentity : UInt32
  packageManifestIdentity : UInt32
  planIdentity : UInt32
  requestEpoch : UInt32
  effectiveEpoch : UInt32
  state : UplinkState
  reason : UplinkReasonCode
  receiptChecksum : UInt32
deriving DecidableEq, Repr

/-! ## Roles and the action log -/

inductive OperationalRole where
  | observer
  | guidedOperator
  | flightController
  | flightSoftwareEngineer
  | simDirector
  | scriptedOperator
deriving DecidableEq, Repr

structure ActionLogRecord where
  sequence : UInt32
  epoch : UInt32
  role : OperationalRole
  actionKind : UplinkControlKind
  state : UplinkState
  reason : UplinkReasonCode
  loadIdentity : UInt32
  detailIdentity : UInt32
  procedureStep : UInt16
  arguments : Vector Int32 4
  priorChain : UInt32
  chain : UInt32
deriving DecidableEq

/-! ## Predictions and ground products -/

inductive PredictionProductKind where
  | onboardCompact
  | onboardEstimateGroundPropagated
  | groundEstimate
  | simTruthCounterfactual
deriving DecidableEq, Repr

/-- The wire value of a prediction product. -/
def PredictionProductKind.code : PredictionProductKind → UInt8
  | .onboardCompact => 1
  | .onboardEstimateGroundPropagated => 2
  | .groundEstimate => 3
  | .simTruthCounterfactual => 4

inductive PredictionTerminalReason where
  | validHorizon
  | atmosphericImpact
  | modelEnvelope
  | estimateInvalid
  | planIncomplete
deriving DecidableEq, Repr

structure PredictionSummary where
  predictionIdentity : UInt32
  modelIdentity : UInt32
  product : PredictionProductKind
  sourceEstimateIdentity : UInt32
  sourceEstimateChecksum : UInt32
  packageManifestIdentity : UInt32
  planIdentity : UInt32
  sourceEpoch : UInt32
  generationEpoch : UInt32
  validUntilEpoch : UInt32
  frame : GlobalFrameId
  terminalReason : PredictionTerminalReason
  apogeeQ12Km : Int32
  perigeeQ12Km : Int32
  timeToApogeeQ16 : UInt32
  timeToImpactQ16 : UInt32
  impactPositionQ12Km : Vector Int32 3
  transitionEpochs : Vector UInt32 3
  assumptions : UInt32
  predictionChecksum : UInt32
deriving DecidableEq

structure GroundTrackingObservation where
  sourceIdentity : UInt32
  observationIdentity : UInt32
  measurementEpoch : UInt32
  receiptEpoch : UInt32
  frame : GlobalFrameId
  validity : UInt8
  positionQ12Km : Vector Int32 3
  velocityQ24KmS : Vector Int32 3
  uncertaintyQ16 : Vector UInt32 3
  observationChecksum : UInt32
deriving DecidableEq

structure GroundEstimate where
  estimatorIdentity : UInt32
  estimateIdentity : UInt32
  sourceObservationIdentity : UInt32
  measurementEpoch : UInt32
  productionEpoch : UInt32
  frame : GlobalFrameId
  flags : UInt8
  positionQ12Km : Vector Int32 3
  velocityQ24KmS : Vector Int32 3
  confidenceQ16 : Vector UInt32 3
  residualQ16 : Vector Int32 3
  estimatorChecksum : UInt32
deriving DecidableEq

/-! ## The event journal -/

inductive JournalEventKind where
  | mode
  | navigationSource
  | uplink
  | prediction
  | communications
  | safeState
  | alarm
deriving DecidableEq, Repr

/-- The wire value of a journal event. -/
def JournalEventKind.code : JournalEventKind → UInt8
  | .mode => 1
  | .navigationSource => 2
  | .uplink => 3
  | .prediction => 4
  | .communications => 5
  | .safeState => 6
  | .alarm => 7

structure EventJournalRecord where
  sequence : UInt32
  epoch : UInt32
  kind : JournalEventKind
  flags : UInt8
  primaryIdentity : UInt32
  secondaryIdentity : UInt32
  arguments : Vector Int32 4
  priorChain : UInt32
  chain : UInt32
deriving DecidableEq

def EventJournalRecord.empty : EventJournalRecord where
  sequence := 0
  epoch := 0
  kind := .mode
  flags := 0
  primaryIdentity := 0
  secondaryIdentity := 0
  arguments := #v[0, 0, 0, 0]
  priorChain := 0
  chain := 0

end Ksa64.Interface
