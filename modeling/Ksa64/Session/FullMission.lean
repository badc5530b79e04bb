import Ksa64.Session.GlobalDisplay
import Ksa64.Session.Live
import Ksa64.Session.Phase12b
import Ksa64.Sim.Avionics

/-!
# The full mission session

`FullMissionSession` flies the reference package through the whole mission, next to an
independent ground estimator, the GNSS-loss procedure and the display.  Like the compact
session it keeps its own copy of the load it staged; it also keeps, from the commit of a
load on, the branch selected by it and the release at which the navigation will be reset.

The physical world is an input of every advance (`WorldAnswer`).  Predictions, telemetry
and the bytes of the evidence are left out: nothing in the session reads them.
-/

namespace Ksa64.Session

open Ksa64.Library Ksa64.Interface Ksa64.Sim Ksa64.Flight

def fullMissionCaseSeed : UInt32 := 0x4b5341b2
def fullMissionSession : UInt16 := 0x12b0
def groundTrackingDelayReleases : UInt32 := 4
def fullMissionMaxReleases : UInt32 := 24000

/-! ## What the session shows and keeps -/

inductive TimelineSource where
  | world
  | avionics
  | ground
  | procedure
  | operator
  | evidence
deriving DecidableEq, Repr

structure TimelineEventView where
  epoch : UInt32
  source : TimelineSource
  severity : UInt8
  eventIdentity : UInt32
  label : String
deriving DecidableEq

/-- What the world says after a release of the package. -/
structure GlobalWorldSnapshot where
  frame : GlobalFrameId
  segment : GlobalSegment
  position : Vec3
  velocity : Vec3
  events : UInt16
  transitionCount : UInt8
deriving DecidableEq

/-- The answers of the world and of the evidence encoders in an advance. -/
structure WorldAnswer where
  cells : Except GlobalWorldError ReleaseCells
  /-- the measurement of the release for telemetry and plot -/
  update : Except GlobalWorldError Unit
  snapshot : GlobalWorldSnapshot
  lineages : SourceLineages
  complete : Bool
  /-- the summary and the sealing of a completed mission -/
  completion : Except MissionSessionError EvaluationOutcome
  advanced : Except GlobalWorldError Unit
deriving DecidableEq

structure FullMissionCompletion where
  evidence : SessionRunEvidence
  disposition : OperationalDispositionView
deriving DecidableEq

structure FullMissionSession where
  project : CompiledMissionProject
  role : OperationalRole
  lifecycle : MissionSessionLifecycle
  pace : MissionSessionPace
  resumePace : MissionSessionPace
  runner : Option GlobalPackageAvionicsMission
  procedure : Option ProcedureEngine
  groundEstimator : GroundEstimator
  pendingObservations : List GroundTrackingObservation
  estimates : List GroundEstimate
  latestGround : Option GroundEstimate
  latestFlight : Option GlobalFlightEvidence
  transcript : ActionTranscript
  stagedLoad : Option UplinkCommandLoad
  rejectedLoads : UInt16
  selectedBranch : UInt8
  events : List MissionSessionEvent
  timeline : List TimelineEventView
  releaseEpoch : UInt32
  gnssMissingFixes : UInt8
  lastTransitionCount : UInt8
  completed : Option FullMissionCompletion
  globalDisplay : GlobalDisplayPublisher
  pendingNavigationResetRelease : Option UInt32
deriving DecidableEq

/-- Every error of the world reaches the operator as an error of the lifecycle. -/
def worldError (_ : GlobalWorldError) : MissionSessionError := .lifecycle

def actionLabel (record : UplinkControlRecord) : String :=
  match record.state with
  | .staged => "Command load staged"
  | .committed => "Command load committed"
  | .cancelled => "Command load cancelled"
  | .executed => "Command load executed"
  | .rejected => "Command load rejected"
  | .expired => "Command load expired"
  | .empty => "No command load"

def operatorDisposition (evidence : SessionRunEvidence) (state : ProcedureState)
    (selectedBranch : UInt8) : OperatorDisposition :=
  let committed := evidence.actions.filter (·.state = .committed)
  if committed.isEmpty then
    if evidence.rejectedLoads ≠ 0 then .rejectedAction else .noAction
  else if committed.any (decisionWindowCloseRelease < ·.epoch) || state ≠ .completed then
    .delayedValid
  else if selectedBranch = 2 then .timelyAlternate
  else .timelyReference

namespace FullMissionSession

/-- What a fallible call returns, and the session it leaves. -/
abbrev Outcome (α : Type) := Attempt MissionSessionError FullMissionSession α

/-! ## Lifecycle -/

def record (s : FullMissionSession) (kind : MissionSessionEventKind)
    (detailIdentity : UInt32) : FullMissionSession :=
  { s with
    events := s.events ++ [{
      sequence := UInt32.ofNat s.events.length + 1
      releaseEpoch := s.releaseEpoch
      kind := kind
      detailIdentity := detailIdentity }] }

def timelineEvent (s : FullMissionSession) (epoch : UInt32) (source : TimelineSource)
    (severity : UInt8) (identity : UInt32) (label : String) : FullMissionSession :=
  { s with timeline := s.timeline ++ [⟨epoch, source, severity, identity, label⟩] }

def compiledWithRole (project : CompiledMissionProject) (role : OperationalRole) :
    Except MissionSessionError FullMissionSession :=
  if project.scenario ≠ .gnssLossFull then .error .unsupported
  else
    let session : FullMissionSession := {
      project := project
      role := role
      lifecycle := .compiled
      pace := .realtime
      resumePace := .realtime
      runner := none
      procedure := none
      groundEstimator := .new
      pendingObservations := []
      estimates := []
      latestGround := none
      latestFlight := none
      transcript := .new
      stagedLoad := none
      rejectedLoads := 0
      selectedBranch := 0
      events := []
      timeline := []
      releaseEpoch := 0
      gnssMissingFixes := 0
      lastTransitionCount := 0
      completed := none
      globalDisplay := .new
      pendingNavigationResetRelease := none }
    .ok (session.record .compiled project.definitionIdentity)

/-- The package of the mission, with its plan. -/
def newRunner (initial : InitialWorld) :
    Except MissionSessionError GlobalPackageAvionicsMission :=
  match KsaG10rReferenceOpsV1.new (referenceGlobalFlightConfig fullMissionSession initial) with
  | none => .error .unsupported
  | some package =>
      let initialized := package.initializeMissionPlan fullGnssLossMissionPlan
      if !initialized.1 then .error .unsupported
      else .ok (.withPackage initialized.2 initial)

def prepare (s : FullMissionSession) (world : Except GlobalWorldError InitialWorld) :
    Outcome Unit :=
  if s.lifecycle ≠ .compiled then (.error .lifecycle, s)
  else match world with
  | .error e => (.error (worldError e), s)
  | .ok initial =>
      match newRunner initial with
      | .error e => (.error e, s)
      | .ok runner =>
          (.ok (), (({ s with runner := some runner, lifecycle := .ready }.record .prepared
            s.project.definitionIdentity).timelineEvent 0 .evidence 0 0x12b40001 "Mission ready"))

def pause (s : FullMissionSession) : Outcome Unit :=
  if s.lifecycle ≠ .ready ∧ s.lifecycle ≠ .running then (.error .lifecycle, s)
  else
    let resumePace := if s.pace ≠ .paused then s.pace else s.resumePace
    (.ok (), { s with
      resumePace := resumePace
      pace := .paused
      lifecycle := .paused }.record .paused 0)

def setPace (s : FullMissionSession) (pace : MissionSessionPace) : Outcome Unit :=
  if s.lifecycle = .completed ∨ s.lifecycle = .aborted then (.error .lifecycle, s)
  else if pace = .paused then s.pause
  else
    let resumePace := if pace = .singleStep then .realtime else pace
    (.ok (), { s with pace := pace, resumePace := resumePace }.record .paceChanged pace.code)

def resume (s : FullMissionSession) : Outcome Unit :=
  if s.lifecycle ≠ .paused then (.error .lifecycle, s)
  else
    (.ok (), { s with pace := s.resumePace, lifecycle := .running }.record .resumed
      s.resumePace.code)

def abort (s : FullMissionSession) (reasonIdentity : UInt32) : Outcome Unit :=
  if s.lifecycle = .completed ∨ s.lifecycle = .aborted then (.error .lifecycle, s)
  else (.ok (), { s with lifecycle := .aborted }.record .aborted reasonIdentity)

/-- The session takes operator actions and can be advanced. -/
def isOpen (s : FullMissionSession) : Bool :=
  s.lifecycle == .ready || s.lifecycle == .running || s.lifecycle == .paused

/-! ## Recommended loads -/

def updateStageRelease : UInt32 := 6080
def updateEffectiveRelease : UInt32 := 6400
def branchStageRelease : UInt32 := 6560
def branchEffectiveRelease : UInt32 := 6880

/-- The navigation update on the latest estimate, if it is near enough to the flight. -/
def groundUpdateLoad (s : FullMissionSession) (stageEpoch effectiveEpoch : UInt32) :
    Option UplinkCommandLoad :=
  match s.latestGround, s.latestFlight with
  | some ground, some flight =>
      let positionDistance := positionResidual flight.navigation.positionQ12 ground.positionQ12Km
      let velocityDistance := positionResidual flight.navigation.velocityQ24 ground.velocityQ24KmS
      if 262144 < positionDistance ∨ 16777216 < velocityDistance then none
      else some {
        loadIdentity := 0x12b50001
        packageManifestIdentity := ksaG10rReferenceOpsManifestId
        planIdentity := fullGnssLossMissionPlan.planIdentity
        abi := .globalKlr10V1
        sourceEstimatorIdentity := groundEstimatorId
        sourceEstimatorChecksum := ground.estimatorChecksum
        stageEpoch := stageEpoch
        notBeforeEpoch := stageEpoch + 2
        expiresEpoch := effectiveEpoch + 64
        requestedEffectiveEpoch := effectiveEpoch
        requiredCapabilities := packageCapGroundNavUpdate
        prerequisiteEventMask := 0
        positionResidualLimitQ12 := min (addSatI32 positionDistance 4096) 262144
        velocityResidualLimitQ24 := min (addSatI32 velocityDistance 65536) 16777216
        frame := ground.frame
        loadType := .groundNavigationUpdate
        arguments := ground.positionQ12Km ++ ground.velocityQ24KmS ++
          Vector.replicate 10 (0 : Int32) }
  | _, _ => none

/-- The load that selects branch 1. -/
def branchLoad (s : FullMissionSession) (stageEpoch effectiveEpoch : UInt32) :
    Option UplinkCommandLoad :=
  s.latestFlight.map fun flight ↦ {
    loadIdentity := 0x12b50002
    packageManifestIdentity := ksaG10rReferenceOpsManifestId
    planIdentity := fullGnssLossMissionPlan.planIdentity
    abi := .globalKlr10V1
    sourceEstimatorIdentity := groundEstimatorId
    sourceEstimatorChecksum := (s.latestGround.map (·.estimatorChecksum)).getD 0x12b51002
    stageEpoch := stageEpoch
    notBeforeEpoch := stageEpoch + 2
    expiresEpoch := effectiveEpoch + 64
    requestedEffectiveEpoch := effectiveEpoch
    requiredCapabilities := packageCapBranchSelect
    prerequisiteEventMask := 0
    positionResidualLimitQ12 := 0
    velocityResidualLimitQ24 := 0
    frame := flight.navigation.frame
    loadType := .contingencyBranch
    arguments := Vector.replicate 1 (1 : Int32) ++ Vector.replicate 15 (0 : Int32) }

/-- The load that the procedure asks for now, while none is staged. -/
def recommendedLoad (s : FullMissionSession) : Option UplinkCommandLoad :=
  if s.stagedLoad.isSome ∨ decisionWindowCloseRelease < s.releaseEpoch then none
  else
    match s.procedure.map ProcedureEngine.currentStep with
    | some 4 =>
        if updateStageRelease ≤ s.releaseEpoch then
          s.groundUpdateLoad s.releaseEpoch (max updateEffectiveRelease (s.releaseEpoch + 160))
        else none
    | some 5 =>
        if branchStageRelease ≤ s.releaseEpoch then
          s.branchLoad s.releaseEpoch (max branchEffectiveRelease (s.releaseEpoch + 160))
        else none
    | _ => none

def commitRequestForStaged (s : FullMissionSession) : Option UplinkControlRecord :=
  s.stagedLoad.map fun load ↦ commitRequest load s.releaseEpoch

def cancelRequestForStaged (s : FullMissionSession) : Option UplinkControlRecord :=
  s.commitRequestForStaged.map fun request ↦ { request with kind := .cancellation }

/-! ## Operator actions -/

/-- The load carries exactly the latest public estimate. -/
def carriesEstimate (load : UplinkCommandLoad) (ground : GroundEstimate) : Bool :=
  load.sourceEstimatorIdentity == groundEstimatorId
    && load.sourceEstimatorChecksum == ground.estimatorChecksum
    && load.frame == ground.frame
    && load.arguments.toList.take 3 == ground.positionQ12Km.toList
    && (load.arguments.toList.drop 3).take 3 == ground.velocityQ24KmS.toList

/-- What the session itself asks of a load before the package sees it. -/
def loadBound (s : FullMissionSession) (load : UplinkCommandLoad) : Bool :=
  match load.loadType with
  | .groundNavigationUpdate => s.latestGround.any (carriesEstimate load)
  | .contingencyBranch => declaresBranch fullGnssLossMissionPlan (getElem load.arguments 0 Arguments.first_lt)
  | _ => true

/-- The procedure is active in a step that names this action. -/
def procedureAccepts (s : FullMissionSession) (action : UplinkLoadType) : Bool :=
  s.procedure.any fun procedure ↦
    procedure.state == .active && procedure.current.any (·.action == some action)

/-- The checks made before the package is asked, and their errors. -/
def checkAction (s : FullMissionSession) (action : MissionOperatorAction) :
    Except MissionSessionError Unit :=
  match action with
  | .stage load _ => if s.loadBound load then .ok () else .error .actionRejected
  | .commit _ =>
      match s.stagedLoad with
      | none => .error .actionUnavailable
      | some load => if s.procedureAccepts load.loadType then .ok () else .error .actionRejected
  | .cancel _ => .ok ()

/-- The receipt says that this load has come to this state. -/
def confirms (receipt : UplinkControlRecord) (kind : UplinkControlKind) (identity : UInt32)
    (state : UplinkState) : Bool :=
  receipt.kind == kind && receipt.loadIdentity == identity && receipt.state == state
    && receipt.reason == .accepted

/-- The session with one more rejected load. -/
def countRejected (s : FullMissionSession) : FullMissionSession :=
  { s with rejectedLoads := addSat16 s.rejectedLoads 1 }

/-- The session with its runner's package replaced. -/
def withPackage (s : FullMissionSession) (runner : GlobalPackageAvionicsMission)
    (package : KsaG10rReferenceOpsV1) : FullMissionSession :=
  { s with runner := some { runner with package := package } }

def submitStage (s : FullMissionSession) (runner : GlobalPackageAvionicsMission)
    (load : UplinkCommandLoad) (completedEventMask : UInt32) : Outcome UplinkControlRecord :=
  let staged := runner.package.stageUplink load completedEventMask
  let s := s.withPackage runner staged.2
  match staged.1 with
  | none => (.error .actionRejected, s)
  | some receipt =>
      (.ok receipt,
        if confirms receipt .stageReceipt load.loadIdentity .staged then
          { s with stagedLoad := some load }
        else s.countRejected)

/-- The argument of a branch load as a branch number. -/
def clampU8 (value : Int32) : UInt8 := (max (0 : Int32) (min value 255)).toUInt32.toUInt8

/-- The branch and the reset that a committed load announces. -/
def announce (s : FullMissionSession) (load : UplinkCommandLoad) : FullMissionSession :=
  match load.loadType with
  | .contingencyBranch =>
      { s with selectedBranch := clampU8 (getElem load.arguments 0 Arguments.first_lt) }
  | .groundNavigationUpdate =>
      { s with pendingNavigationResetRelease := some load.requestedEffectiveEpoch }
  | _ => s

/-- Tell the procedure of a committed action. -/
def acceptAction (s : FullMissionSession) (epoch : UInt32) (action : UplinkLoadType) :
    Outcome Unit :=
  match s.procedure with
  | none => (.ok (), s)
  | some procedure =>
      let accepted := procedure.acceptAction s.role epoch action true
      let s := { s with procedure := some accepted.2 }
      match accepted.1 with
      | .error _ => (.error .procedure, s)
      | .ok () => (.ok (), s)

def submitCommit (s : FullMissionSession) (runner : GlobalPackageAvionicsMission)
    (request : UplinkControlRecord) : Outcome UplinkControlRecord :=
  match s.stagedLoad with
  | none => (.error .actionUnavailable, s)
  | some load =>
      let committed := runner.package.commitUplink request
      let s := s.withPackage runner committed.2
      match committed.1 with
      | none => (.error .actionRejected, s)
      | some receipt =>
          if confirms receipt .commitReceipt load.loadIdentity .committed then
            ((s.announce load).acceptAction s.releaseEpoch load.loadType).andThen fun _ s ↦
              (.ok receipt, { s with stagedLoad := none })
          else (.ok receipt, s.countRejected)

def submitCancel (s : FullMissionSession) (runner : GlobalPackageAvionicsMission)
    (request : UplinkControlRecord) : Outcome UplinkControlRecord :=
  let cancelled := runner.package.cancelUplink request
  let s := s.withPackage runner cancelled.2
  match cancelled.1 with
  | none => (.error .actionRejected, s)
  | some receipt =>
      (.ok receipt,
        if confirms receipt .cancellation request.loadIdentity .cancelled then
          { s with stagedLoad := none }
        else s.countRejected)

def submitRecord (s : FullMissionSession) (runner : GlobalPackageAvionicsMission) :
    MissionOperatorAction → Outcome UplinkControlRecord
  | .stage load completedEventMask => s.submitStage runner load completedEventMask
  | .commit request => s.submitCommit runner request
  | .cancel request => s.submitCancel runner request

/-- The action took effect, as far as its record says. -/
def recordAccepted (record : UplinkControlRecord) : Bool :=
  (record.kind, record.state, record.reason) ∈
    [(.stageReceipt, .staged, .accepted), (.commitReceipt, .committed, .accepted),
      (.cancellation, .cancelled, .accepted)]

def recordKind (record : UplinkControlRecord) : MissionSessionEventKind :=
  if recordAccepted record then
    match record.state with
    | .staged => .actionStaged
    | .committed => .actionCommitted
    | .cancelled => .actionCancelled
    | _ => .actionRejected
  else .actionRejected

/-- Write an answered action into the transcript, the events and the timeline. -/
def logAction (s : FullMissionSession) (epoch : UInt32) (step : UInt16)
    (record : UplinkControlRecord) : FullMissionSession :=
  ({ s with transcript := s.transcript.record epoch step record }.record (recordKind record)
    record.loadIdentity).timelineEvent epoch .operator (if recordAccepted record then 0 else 1)
      record.loadIdentity (actionLabel record)

/-- The step of the procedure, or 0. -/
def procedureStep (s : FullMissionSession) : UInt16 :=
  (s.procedure.map ProcedureEngine.currentStep).getD 0

def submitOperatorAction (s : FullMissionSession) (action : MissionOperatorAction) :
    Outcome MissionActionReceipt :=
  if !s.isOpen then (.error .lifecycle, s)
  else if !roleCanAct s.role then (.error .actionRejected, s)
  else match s.checkAction action with
  | .error e => (.error e, s)
  | .ok () =>
      match s.runner with
      | none => (.error .lifecycle, s)
      | some runner =>
          (s.submitRecord runner action).andThen fun record next ↦
            (.ok ⟨record, recordAccepted record⟩,
              next.logAction s.releaseEpoch s.procedureStep record)

/-! ## The stages of an advance -/

/-- Drop the copy of a staged load that has expired. -/
def expireStaged (s : FullMissionSession) (epoch : UInt32) : FullMissionSession :=
  match s.stagedLoad with
  | none => s
  | some load =>
      if load.expiresEpoch < epoch then
        { s with stagedLoad := none }.timelineEvent epoch .operator 1 load.loadIdentity
          "Staged command load expired without commit"
      else s

/-- Count the fixes missing in a row, once a second and from the loss on. -/
def countFixes (s : FullMissionSession) (epoch : UInt32) (aid : Option GlobalAidFrameCell) :
    FullMissionSession :=
  match aid with
  | none => s
  | some aid =>
      if epoch % 32 = 0 then
        if aid.validity &&& globalAidGnss = 0 ∧ gnssLossRelease ≤ epoch then
          { s with gnssMissingFixes := addSat8 s.gnssMissingFixes 1 }
        else { s with gnssMissingFixes := 0 }
      else s

/-- Track the vehicle from the ground, eight times a second. -/
def observeGround (s : FullMissionSession) (epoch : UInt32) (snapshot : GlobalWorldSnapshot) :
    FullMissionSession :=
  if epoch % 4 = 0 then
    let observation := synthesizeGroundObservation {
      epoch := epoch
      frame := snapshot.frame
      positionQ12Km := snapshot.position
      velocityQ24KmS := snapshot.velocity } groundTrackingDelayReleases
      (fullMissionCaseSeed ^^^ 0x11e00001)
    { s with pendingObservations := s.pendingObservations ++ [observation] }
  else s

/-- Estimate on an observation that has arrived. -/
def estimateOn (s : FullMissionSession) (epoch : UInt32)
    (observation : GroundTrackingObservation) : FullMissionSession :=
  let updated := s.groundEstimator.update observation epoch
  let s := { s with groundEstimator := updated.2 }
  match updated.1 with
  | none => s
  | some estimate =>
      { s with latestGround := some estimate, estimates := s.estimates ++ [estimate] }

/-- Take the observations that have arrived off the front of the queue. -/
def drainObservations (epoch : UInt32) :
    List GroundTrackingObservation → FullMissionSession → FullMissionSession
  | [], s => { s with pendingObservations := [] }
  | observation :: rest, s =>
      if observation.receiptEpoch ≤ epoch then
        drainObservations epoch rest (s.estimateOn epoch observation)
      else { s with pendingObservations := observation :: rest }

/-- The loss of GNSS on the timeline. -/
def noteGnss (s : FullMissionSession) (epoch : UInt32) : FullMissionSession :=
  let s := if epoch = gnssLossRelease then
      s.timelineEvent epoch .avionics 1 0x12b41001 "GNSS observations missing"
    else s
  if 3 ≤ s.gnssMissingFixes ∧ epoch = gnssQualifiedRelease then
    s.timelineEvent epoch .procedure 1 0x12b41002
      "GNSS loss qualified after three missing fixes"
  else s

/-- Open the procedure with the decision window. -/
def openProcedure (s : FullMissionSession) (epoch : UInt32) : Outcome Unit :=
  if epoch = decisionWindowOpenRelease then
    match ProcedureEngine.new fullMissionPack epoch with
    | .error _ => (.error .procedure, s)
    | .ok procedure =>
        (.ok (), { s with procedure := some procedure }.timelineEvent epoch .procedure 1
          0x12b41003 "GNSS-loss response window open")
  else (.ok (), s)

/-- What the procedure is told of the flight. -/
def metrics (s : FullMissionSession) (epoch : UInt32) : OperationalMetricSnapshot :=
  let snapshot := OperationalMetricSnapshot.new epoch
  let snapshot := (snapshot.set metricGnssValid (if s.gnssMissingFixes < 3 then 1 else 0)).2
  let snapshot := (snapshot.set metricInertialHealthy
    (if s.latestFlight.any fun flight ↦ !flight.safe then 1 else 0)).2
  match s.latestFlight, s.latestGround with
  | some flight, some ground =>
      (snapshot.set metricOnboardGroundPositionResidualQ12
        (positionResidual flight.navigation.positionQ12 ground.positionQ12Km)).2
  | _, _ => snapshot

/-- Put a change of the procedure on the timeline. -/
def noteProcedure (s : FullMissionSession) (epoch : UInt32) (prior next : ProcedureEngine) :
    FullMissionSession :=
  if next.currentStep ≠ prior.currentStep ∨ next.state ≠ prior.state then
    s.timelineEvent epoch .procedure (if next.state ∈ [.failed, .mistimed] then 1 else 0)
      (0x12b43000 ||| next.currentStep.toUInt32) (procedureTitle next.currentStep)
  else s

def tickProcedure (s : FullMissionSession) (epoch : UInt32) : Outcome Unit :=
  match s.procedure with
  | none => (.ok (), s)
  | some procedure =>
      let expired := if decisionWindowCloseRelease < epoch then procedure.expireAt epoch
        else (.ok (), procedure)
      match expired.1 with
      | .error _ => (.error .procedure, { s with procedure := some expired.2 })
      | .ok () =>
          let ticked := expired.2.tick (s.metrics epoch)
          let s := { s with procedure := some ticked.2 }
          match ticked.1 with
          | .error _ => (.error .procedure, s)
          | .ok () => (.ok (), s.noteProcedure epoch expired.2 ticked.2)

/-- Show the release, marked as a reset if one was announced for it. -/
def publishRelease (s : FullMissionSession) (epoch : UInt32) (answer : WorldAnswer) :
    FullMissionSession :=
  let s := if s.pendingNavigationResetRelease = some epoch then
      { s with
        globalDisplay := s.globalDisplay.markNavigationReset
        pendingNavigationResetRelease := none }
    else s
  { s with
    globalDisplay := s.globalDisplay.publish epoch {
      frame := answer.snapshot.frame
      segment := answer.snapshot.segment
      events := answer.snapshot.events
      lineages := answer.lineages
      terminal := answer.complete } }

/-- Put a change of frame on the timeline. -/
def noteTransition (s : FullMissionSession) (epoch : UInt32) (snapshot : GlobalWorldSnapshot) :
    FullMissionSession :=
  if snapshot.transitionCount ≠ s.lastTransitionCount then
    { s.timelineEvent epoch .world 0 (0x12b42000 ||| snapshot.transitionCount.toUInt32)
        "Reference frame ownership transition" with
      lastTransitionCount := snapshot.transitionCount }
  else s

def countRelease (s : FullMissionSession) : FullMissionSession :=
  let s := { s with releaseEpoch := addSat32 s.releaseEpoch 1 }
  s.record .release s.releaseEpoch

/-! ### Completion -/

/-- The evidence of a completed run. -/
def runEvidence (s : FullMissionSession) (runner : GlobalPackageAvionicsMission)
    (flight : GlobalFlightEvidence) (outcome : EvaluationOutcome) : SessionRunEvidence :=
  let procedureChain := ((s.procedure.bind fun procedure ↦ procedure.evidence.getLast?).map
    ProcedureEvidence.chain).getD 0
  let journalChain := journalChainOf runner.package
  let predictionChecksum := ((s.latestFlight.bind fun _ ↦ runner.package.lastPrediction).map
    PredictionSummary.predictionChecksum).getD 0
  { scenarioIdentity := fullGnssLossScenarioId
    releases := s.releaseEpoch
    flightChecksum := flight.flightChecksum
    navigationChecksum := flight.navigation.checksum
    commandChecksum := runner.commandChecksum
    predictionChecksum := predictionChecksum
    procedureChain := procedureChain
    journalChain := journalChain
    actionChain := s.transcript.chain
    rejectedLoads := s.rejectedLoads
    safe := flight.safe
    evidenceIdentity := hashWords
      [fullGnssLossScenarioId, s.releaseEpoch, flight.flightChecksum, flight.navigation.checksum,
        runner.commandChecksum, predictionChecksum, procedureChain, journalChain,
        s.transcript.chain, outcome.code]
    actions := s.transcript.records }

/-- How the run is classified.  The branch is the one selected last. -/
def dispositionAxes (s : FullMissionSession) (evidence : SessionRunEvidence)
    (outcome : EvaluationOutcome) : OperationalDispositionEvidence :=
  let state := (s.procedure.map ProcedureEngine.state).getD .skipped
  let recovered : Bool := outcome = .groundContact
  let alternate : Bool := s.selectedBranch = 2
  { objective := if !recovered then .notAchieved
      else if alternate then .contingencyAchieved else .primaryAchieved
    vehicle := if !recovered then .lost else if alternate then .recovered else .nominal
    procedure := if alternate then .alternateBranch else procedureDisposition state
    operator := operatorDisposition evidence state s.selectedBranch
    avionics := if evidence.safe then .failed
      else if alternate then .safeRecovery else .degradedOperational
    evidence := .complete }

def complete (s : FullMissionSession) (completion : Except MissionSessionError EvaluationOutcome) :
    Outcome Unit :=
  match s.runner with
  | none => (.error .lifecycle, s)
  | some runner =>
      match runner.lastFlight with
      | none => (.error (worldError .transition), s)
      | some flight =>
          match completion with
          | .error e => (.error e, s)
          | .ok outcome =>
              let evidence := s.runEvidence runner flight outcome
              (.ok (), ({ s with
                completed := some ⟨evidence, classifyDisposition (s.dispositionAxes evidence outcome)⟩
                lifecycle := .completed }.record .completed s.releaseEpoch).timelineEvent
                  s.releaseEpoch .evidence 0 0x12b4ffff "Mission evidence sealed")

/-! ### The advance -/

/-- Everything between the release of the package and the count of the release. -/
def takeRelease (s : FullMissionSession) (epoch : UInt32) (bundle : GlobalReleaseBundle)
    (answer : WorldAnswer) : Outcome Unit :=
  let s := { s with latestFlight := some bundle.evidence }
  let s := ((s.expireStaged epoch).countFixes epoch bundle.aid).observeGround epoch answer.snapshot
  let s := (drainObservations epoch s.pendingObservations s).noteGnss epoch
  (s.openProcedure epoch).andThen fun _ s ↦
    (s.tickProcedure epoch).andThen fun _ s ↦
      (.ok (), ((s.publishRelease epoch answer).noteTransition epoch answer.snapshot).countRelease)

/-- The end of an advance: the mission completes with the world, or the world moves on. -/
def conclude (s : FullMissionSession) (answer : WorldAnswer) : Outcome Unit :=
  if answer.complete then s.complete answer.completion
  else match answer.advanced with
  | .error e => (.error (worldError e), s)
  | .ok () => (.ok (), s)

/-- The release of the runner, as far as the session goes on with it. -/
def releaseRunner (s : FullMissionSession) (runner : GlobalPackageAvionicsMission)
    (answer : WorldAnswer) : Outcome GlobalReleaseBundle :=
  let released := runner.releaseBundle answer.cells
  let s := { s with runner := some released.2 }
  match released.1 with
  | .error e => (.error (worldError e), s)
  | .ok bundle =>
      match answer.update with
      | .error e => (.error (worldError e), s)
      | .ok () => (.ok bundle, s)

def advanceInternal (s : FullMissionSession) (singleStep : Bool) (answer : WorldAnswer) :
    Outcome Unit :=
  if !s.isOpen then (.error .lifecycle, s)
  else if fullMissionMaxReleases ≤ s.releaseEpoch then (.error .lifecycle, s)
  else
    let epoch := s.releaseEpoch
    let s := { s with lifecycle := .running }
    match s.runner with
    | none => (.error .lifecycle, s)
    | some runner =>
        (s.releaseRunner runner answer).andThen fun bundle s ↦
          (s.takeRelease epoch bundle answer).andThen fun _ s ↦
            (s.conclude answer).andThen fun _ s ↦
              if singleStep ∧ s.lifecycle ≠ .completed then (.ok (), { s with lifecycle := .paused })
              else (.ok (), s)

def advanceOneRelease (s : FullMissionSession) (answer : WorldAnswer) : Outcome Unit :=
  if s.lifecycle = .paused then (.error .lifecycle, s) else s.advanceInternal false answer

def stepOneRelease (s : FullMissionSession) (answer : WorldAnswer) : Outcome Unit :=
  if !s.isOpen then (.error .lifecycle, s)
  else
    (s.advanceInternal true answer).andThen fun _ s ↦
      if s.lifecycle ≠ .completed then
        (.ok (), { s with lifecycle := .paused, pace := .paused }.record .paused 0)
      else (.ok (), s)

/-- The rounds of a bounded advance, each with the answer of the world to it. -/
def advanceRounds : List WorldAnswer → FullMissionSession → Outcome Unit
  | [], s => (.ok (), s)
  | answer :: answers, s =>
      (s.advanceInternal (s.pace == .singleStep) answer).andThen fun _ s ↦
        if s.lifecycle = .completed ∨ s.lifecycle = .paused then (.ok (), s)
        else advanceRounds answers s

/-- How many releases a bounded advance may take at this pace. -/
def budget (s : FullMissionSession) (maximumReleases : UInt32) : Nat :=
  match s.pace with
  | .fast => min maximumReleases.toNat 256
  | .realtime | .singleStep => 1
  | .paused => 0

/-- A bounded advance, with the answers of the world to its rounds. -/
def advanceBounded (s : FullMissionSession) (maximumReleases : UInt32)
    (answers : Nat → WorldAnswer) : Outcome Unit :=
  if maximumReleases = 0 ∨ s.pace = .paused then (.ok (), s)
  else advanceRounds ((List.range (s.budget maximumReleases)).map answers) s

end FullMissionSession

end Ksa64.Session
