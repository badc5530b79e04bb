import Ksa64.Flight.Package
import Ksa64.Session.Operations

/-!
# What the operations scenarios share

The coast that every scenario flies, the loads an operator sends, the transcript of the
operator's actions and the evidence of a finished run.
-/

namespace Ksa64.Session

open Ksa64.Library Ksa64.Interface Ksa64.Sim Ksa64.Flight

def gnssLossScenarioId : UInt32 := 0x11b00002

/-! ## The coast -/

def coastConfig : GlobalFlightConfig :=
  { ksaG10rReferenceFlightConfig with
    initialFrame := .earthInertialEciV1
    initialPositionQ12 := #v[wgs84SemiMajorQ12Km + 614400, 0, 0] }

def coastFast (epoch : UInt16) : GlobalFastSensorCell where
  session := 0x10a0
  measurementEpoch := epoch
  productionEpoch := epoch
  frame := .earthInertialEciV1
  validity := globalFastDeltaV ||| globalFastDeltaAngle ||| globalFastAttitude
  missionTimeQ16 := 4000000 + epoch.toUInt32 * 2048
  deltaVelocityQ24 := Axes.of 0 4 0
  deltaAngleQ24 := .replicate 3 0
  attitudeVectorQ15 := .replicate 3 0
  angularRateQ15 := .replicate 3 0
  dynamicPressureQ10 := 0
  machQ12 := 0
  gimbalAppliedQ15 := .replicate 2 0
  rcsPropellantQ21 := (5 : Int32) <<< 21
  actuatorFeedback := 0
  vehicleStatus := 0
  sensorChecksum := epoch ^^^ 0x11

/-- The distance of two components, as an unsigned 64-bit word. -/
def componentDistance (left right : Int32) : UInt64 :=
  unsignedAbs64 (left.toInt64 - right.toInt64)

/-- The largest distance of two positions along an axis, up to the largest `i32`. -/
def positionResidual (left right : Vector Int32 3) : Int32 :=
  let residuals := (Vector.zipWith componentDistance left right).toList
  (min (residuals.foldl max 0) 2147483647).toUInt32.toInt32

def operationalSnapshot (epoch : UInt32) (flight : GlobalFlightEvidence)
    (groundPosition : Vector Int32 3) : OperationalMetricSnapshot :=
  let snapshot := OperationalMetricSnapshot.new epoch
  let snapshot := (snapshot.set metricGnssValid 0).2
  let snapshot := (snapshot.set metricInertialHealthy 1).2
  (snapshot.set metricOnboardGroundPositionResidualQ12
    (positionResidual flight.navigation.positionQ12 groundPosition)).2

/-! ## Loads and requests -/

def groundNavigationLoad (epoch effective identity : UInt32) (ground : GroundEstimate) :
    UplinkCommandLoad where
  loadIdentity := identity
  packageManifestIdentity := ksaG10rReferenceOpsManifestId
  planIdentity := ksaG10rReferenceMissionPlan.planIdentity
  abi := .globalKlr10V1
  sourceEstimatorIdentity := groundEstimatorId
  sourceEstimatorChecksum := ground.estimatorChecksum
  stageEpoch := epoch
  notBeforeEpoch := epoch + 2
  expiresEpoch := epoch + 16
  requestedEffectiveEpoch := effective
  requiredCapabilities := packageCapGroundNavUpdate
  prerequisiteEventMask := 0
  positionResidualLimitQ12 := 4096
  velocityResidualLimitQ24 := 65536
  frame := ground.frame
  loadType := .groundNavigationUpdate
  arguments := ground.positionQ12Km ++ ground.velocityQ24KmS ++ Vector.replicate 10 (0 : Int32)

def genericLoad (epoch effective identity : UInt32) (loadType : UplinkLoadType)
    (capability : UInt32) (frame : GlobalFrameId) (firstArguments : Vector Int32 4) :
    UplinkCommandLoad where
  loadIdentity := identity
  packageManifestIdentity := ksaG10rReferenceOpsManifestId
  planIdentity := ksaG10rReferenceMissionPlan.planIdentity
  abi := .globalKlr10V1
  sourceEstimatorIdentity := groundEstimatorId
  sourceEstimatorChecksum := 0x11e05555
  stageEpoch := epoch
  notBeforeEpoch := epoch + 2
  expiresEpoch := epoch + 16
  requestedEffectiveEpoch := effective
  requiredCapabilities := capability
  prerequisiteEventMask := 0
  positionResidualLimitQ12 := 0
  velocityResidualLimitQ24 := 0
  frame := frame
  loadType := loadType
  arguments := firstArguments ++ Vector.replicate 12 (0 : Int32)

def commitRequest (load : UplinkCommandLoad) (epoch : UInt32) : UplinkControlRecord where
  kind := .commitRequest
  controlIdentity := load.loadIdentity ^^^ 0x55aa0000
  loadIdentity := load.loadIdentity
  packageManifestIdentity := load.packageManifestIdentity
  planIdentity := load.planIdentity
  requestEpoch := epoch
  effectiveEpoch := load.requestedEffectiveEpoch
  state := .staged
  reason := .accepted
  receiptChecksum := 0

/-! ## The transcript -/

structure ActionTranscript where
  records : List ActionLogRecord
  chain : UInt32
deriving DecidableEq

namespace ActionTranscript

def new : ActionTranscript where
  records := []
  chain := 0x811c9dc5

def record (t : ActionTranscript) (epoch : UInt32) (step : UInt16)
    (receipt : UplinkControlRecord) : ActionTranscript :=
  let sequence := UInt32.ofNat t.records.length + 1
  let chain := hashWords
    [t.chain, sequence, epoch, step.toUInt32, receipt.kind.code.toUInt32,
      receipt.state.code.toUInt32, receipt.reason.code.toUInt32, receipt.loadIdentity]
  { chain := chain
    records := t.records ++ [{
      sequence := sequence
      epoch := epoch
      role := .flightController
      actionKind := receipt.kind
      state := receipt.state
      reason := receipt.reason
      loadIdentity := receipt.loadIdentity
      detailIdentity := receipt.controlIdentity
      procedureStep := step
      arguments := #v[receipt.effectiveEpoch.toInt32, 0, 0, 0]
      priorChain := t.chain
      chain := chain }] }

end ActionTranscript

/-! ## Evidence -/

structure OperationalScenarioEvidence where
  scenarioIdentity : UInt32
  releases : UInt32
  flightChecksum : UInt32
  navigationChecksum : UInt32
  commandChecksum : UInt32
  predictionChecksum : UInt32
  procedureChain : UInt32
  journalChain : UInt32
  actionChain : UInt32
  rejectedLoads : UInt16
  procedureState : ProcedureState
  safe : Bool
  evidenceIdentity : UInt32
  actions : List ActionLogRecord
deriving DecidableEq

/-- The chain value of the last record in the package's journal. -/
def journalChainOf (package : KsaG10rReferenceOpsV1) : UInt32 :=
  let recovered := package.journal.recoverAfter 0
    (List.replicate eventJournalCapacity EventJournalRecord.empty)
  if recovered.1 = 0 then 0
  else (recovered.2.getD (recovered.1 - 1) EventJournalRecord.empty).chain

def finishEvidence (scenarioIdentity releases : UInt32) (flight : GlobalFlightEvidence)
    (package : KsaG10rReferenceOpsV1) (procedureState : ProcedureState)
    (procedureChain : UInt32) (transcript : ActionTranscript) (rejectedLoads : UInt16) :
    OperationalScenarioEvidence :=
  let journalChain := journalChainOf package
  let predictionChecksum :=
    (package.lastPrediction.map PredictionSummary.predictionChecksum).getD 0
  let evidenceIdentity := hashWords
    [scenarioIdentity, releases, flight.flightChecksum, flight.navigation.checksum,
      flight.command.commandChecksum, predictionChecksum, procedureChain, journalChain,
      transcript.chain, rejectedLoads.toUInt32, procedureState.code,
      if flight.safe then 1 else 0]
  { scenarioIdentity := scenarioIdentity
    releases := releases
    flightChecksum := flight.flightChecksum
    navigationChecksum := flight.navigation.checksum
    commandChecksum := flight.command.commandChecksum
    predictionChecksum := predictionChecksum
    procedureChain := procedureChain
    journalChain := journalChain
    actionChain := transcript.chain
    rejectedLoads := rejectedLoads
    procedureState := procedureState
    safe := flight.safe
    evidenceIdentity := evidenceIdentity
    actions := transcript.records }

end Ksa64.Session
