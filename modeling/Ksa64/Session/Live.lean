import Ksa64.Library.Attempt
import Ksa64.Session.Scenarios

/-!
# The live mission session

`GnssLossRuntime` flies the reference package through the GNSS-loss procedure, one release
at a time; `LiveMissionSession` puts a lifecycle, pacing, events and telemetry around it.
The runtime keeps its own copy of the load it staged, next to the one in the package's
uplink manager.

Only the fields of a compiled project that the session reads are kept.
-/

namespace Ksa64.Session

open Ksa64.Library Ksa64.Interface Ksa64.Sim Ksa64.Flight

def liveReleasePeriodMicros : UInt32 := 31250
def liveGnssLossMaxReleases : UInt32 := 322

inductive MissionScenario where
  | nominal
  | gnssLoss
  | guidanceUpdate
  | groundBlackout
  | invalidOperations
  | safeholdRecovery
  | gnssLossFull
deriving DecidableEq, Repr

inductive MissionPackage where
  | referenceOps
  | safeholdRecovery
deriving DecidableEq, Repr

structure CompiledMissionProject where
  definitionIdentity : UInt32
  scenario : MissionScenario
  package : MissionPackage
  role : OperationalRole
deriving DecidableEq, Repr

structure SessionRunEvidence where
  scenarioIdentity : UInt32
  releases : UInt32
  flightChecksum : UInt32
  navigationChecksum : UInt32
  commandChecksum : UInt32
  predictionChecksum : UInt32
  procedureChain : UInt32
  journalChain : UInt32
  actionChain : UInt32
  rejectedLoads : UInt16
  safe : Bool
  evidenceIdentity : UInt32
  actions : List ActionLogRecord
deriving DecidableEq

def fromOperational (value : OperationalScenarioEvidence) : SessionRunEvidence where
  scenarioIdentity := value.scenarioIdentity
  releases := value.releases
  flightChecksum := value.flightChecksum
  navigationChecksum := value.navigationChecksum
  commandChecksum := value.commandChecksum
  predictionChecksum := value.predictionChecksum
  procedureChain := value.procedureChain
  journalChain := value.journalChain
  actionChain := value.actionChain
  rejectedLoads := value.rejectedLoads
  safe := value.safe
  evidenceIdentity := value.evidenceIdentity
  actions := value.actions

inductive MissionSessionLifecycle where
  | compiled
  | ready
  | running
  | paused
  | completed
  | aborted
deriving DecidableEq, Repr

inductive MissionSessionPace where
  | fast
  | realtime
  | paused
  | singleStep
deriving DecidableEq, Repr

/-- The value of a pace in an event. -/
def MissionSessionPace.code : MissionSessionPace → UInt32
  | .fast => 0
  | .realtime => 1
  | .paused => 2
  | .singleStep => 3

inductive MissionSessionEventKind where
  | compiled
  | prepared
  | release
  | paused
  | resumed
  | paceChanged
  | actionStaged
  | actionCommitted
  | actionCancelled
  | actionRejected
  | completed
  | aborted
deriving DecidableEq, Repr

structure MissionSessionEvent where
  sequence : UInt32
  releaseEpoch : UInt32
  kind : MissionSessionEventKind
  detailIdentity : UInt32
deriving DecidableEq

structure MissionSessionSnapshot where
  definitionIdentity : UInt32
  lifecycle : MissionSessionLifecycle
  pace : MissionSessionPace
  releaseEpoch : UInt32
  releasePeriodMicros : UInt32
  frame : Option GlobalFrameId
  missionTimeQ16 : Option UInt32
  navigationPositionQ12 : Option Vec3
  navigationVelocityQ24 : Option Vec3
  flightChecksum : Option UInt32
  navigationChecksum : Option UInt32
  commandChecksum : Option UInt32
  prediction : Option PredictionSummary
  evidenceIdentity : Option UInt32
  procedureChain : UInt32
  journalChain : UInt32
  actionChain : UInt32
  procedureState : ProcedureState
  procedureStep : UInt16
  stagedLoadIdentity : Option UInt32
  actionCount : Nat
  eventCount : Nat
  rejectedLoads : UInt16
  safe : Option Bool
deriving DecidableEq

inductive MissionOperatorAction where
  | stage (load : UplinkCommandLoad) (completedEventMask : UInt32)
  | commit (request : UplinkControlRecord)
  | cancel (request : UplinkControlRecord)
deriving DecidableEq

structure MissionActionReceipt where
  record : UplinkControlRecord
  accepted : Bool
deriving DecidableEq

inductive MissionSessionError where
  | unsupported
  | lifecycle
  | actionUnavailable
  | actionRejected
  | procedure
  | notCompleted
  | authoring
deriving DecidableEq, Repr

/-! ## The runtime -/

structure GnssLossRuntime where
  package : KsaG10rReferenceOpsV1
  procedure : ProcedureEngine
  ground : Option GroundEstimate
  finalFlight : Option GlobalFlightEvidence
  transcript : ActionTranscript
  releases : UInt32
  rejectedLoads : UInt16
  stagedLoad : Option UplinkCommandLoad
deriving DecidableEq

/-- The procedure has ended in a way that ends the session. -/
def ProcedureState.isTerminal : ProcedureState → Bool
  | .completed | .failed | .manuallyOverridden => true
  | .active | .skipped | .mistimed => false

namespace GnssLossRuntime

/-- What a fallible call returns, and the runtime it leaves. -/
abbrev Outcome (α : Type) := Attempt MissionSessionError GnssLossRuntime α

def new : Except MissionSessionError GnssLossRuntime :=
  match KsaG10rReferenceOpsV1.new coastConfig with
  | none => .error .unsupported
  | some package =>
      let plan := ksaG10rReferenceMissionPlan
      let initialized := package.initializeMissionPlan plan
      if !initialized.1 then .error .unsupported
      else match ProcedureEngine.new (gnssLossProcedurePack plan.planIdentity) 0 with
      | .error _ => .error .procedure
      | .ok procedure => .ok {
          package := initialized.2
          procedure := procedure
          ground := none
          finalFlight := none
          transcript := .new
          releases := 0
          rejectedLoads := 0
          stagedLoad := none }

/-- Tick the procedure a number of times on one snapshot. -/
def tickProcedure (snapshot : OperationalMetricSnapshot) : Nat → GnssLossRuntime → Outcome Unit
  | 0, r => (.ok (), r)
  | times + 1, r =>
      let ticked := r.procedure.tick snapshot
      let r := { r with procedure := ticked.2 }
      match ticked.1 with
      | .error _ => (.error .procedure, r)
      | .ok () => tickProcedure snapshot times r

/-- The first release: take a ground estimate of the state flown, and let the procedure
check it. -/
def estimateGround (r : GnssLossRuntime) (flight : GlobalFlightEvidence) : Outcome Unit :=
  let observation := synthesizeGroundObservation {
    epoch := 0
    frame := flight.navigation.frame
    positionQ12Km := flight.navigation.positionQ12
    velocityQ24KmS := flight.navigation.velocityQ24 } 0 0x4b534111
  match (GroundEstimator.new.update observation 0).1 with
  | none => (.error .procedure, r)
  | some ground =>
      Attempt.andThen
        (tickProcedure (operationalSnapshot 0 flight ground.positionQ12Km) 3 r)
        fun _ r ↦ (.ok (), { r with ground := some ground })

/-- A release from the ninth on: one tick of the procedure. -/
def monitor (r : GnssLossRuntime) : Outcome Unit :=
  match r.ground with
  | none => (.error .procedure, r)
  | some ground =>
      match r.finalFlight with
      | none => (.error .procedure, r)
      | some flight =>
          tickProcedure (operationalSnapshot r.releases flight ground.positionQ12Km) 1 r

/-- One release; whether the procedure has ended. -/
def advanceOneRelease (r : GnssLossRuntime) : Outcome Bool :=
  if liveGnssLossMaxReleases ≤ r.releases then (.error .lifecycle, r)
  else
    -- below the limit, so the epoch fits in 16 bits
    let epoch := r.releases.toUInt16
    let released := r.package.processRelease (some (coastFast epoch)) none none
    let r := { r with package := released.2 }
    let estimated : Outcome Unit :=
      if epoch = 0 then r.estimateGround released.1 else (.ok (), r)
    estimated.andThen fun _ r ↦
      let r := { r with finalFlight := some released.1, releases := r.releases + 1 }
      let monitored : Outcome Unit := if 9 ≤ r.releases then r.monitor else (.ok (), r)
      monitored.andThen fun _ r ↦ (.ok r.procedure.state.isTerminal, r)

def recommendedLoad (r : GnssLossRuntime) : Option UplinkCommandLoad :=
  if r.stagedLoad.isSome then none
  else if r.procedure.currentStep = 4 ∧ r.releases = 1 then
    r.ground.map (groundNavigationLoad 1 4 0x11c02001)
  else if r.procedure.currentStep = 5 ∧ r.releases = 5 then
    r.finalFlight.map fun flight ↦
      genericLoad 5 8 0x11c02002 .contingencyBranch packageCapBranchSelect
        flight.navigation.frame (Quad.of 1 0 0 0)
  else none

/-- The runtime with a receipt in its transcript. -/
def logReceipt (r : GnssLossRuntime) (record : UplinkControlRecord) : GnssLossRuntime :=
  { r with transcript := r.transcript.record r.releases r.procedure.currentStep record }

/-- The runtime with one more rejected load. -/
def countRejected (r : GnssLossRuntime) : GnssLossRuntime :=
  { r with rejectedLoads := addSat16 r.rejectedLoads 1 }

def submitStage (r : GnssLossRuntime) (load : UplinkCommandLoad)
    (completedEventMask : UInt32) : Outcome UplinkControlRecord :=
  let staged := r.package.stageUplink load completedEventMask
  let r := { r with package := staged.2 }
  match staged.1 with
  | none => (.error .actionRejected, r)
  | some record =>
      let r := r.logReceipt record
      (.ok record,
        if record.state = .staged then { r with stagedLoad := some load } else r.countRejected)

/-- The package commits before the procedure is asked. -/
def submitCommit (r : GnssLossRuntime) (role : OperationalRole)
    (request : UplinkControlRecord) : Outcome UplinkControlRecord :=
  match r.stagedLoad with
  | none => (.error .actionUnavailable, r)
  | some load =>
      let committed := r.package.commitUplink request
      let r := { r with package := committed.2 }
      match committed.1 with
      | none => (.error .actionRejected, r)
      | some record =>
          let r := r.logReceipt record
          if record.state = .committed then
            let accepted := r.procedure.acceptAction role r.releases load.loadType true
            let r := { r with procedure := accepted.2 }
            match accepted.1 with
            | .error _ => (.error .procedure, r)
            | .ok () => (.ok record, { r with stagedLoad := none })
          else (.ok record, r.countRejected)

def submitCancel (r : GnssLossRuntime) (request : UplinkControlRecord) :
    Outcome UplinkControlRecord :=
  let cancelled := r.package.cancelUplink request
  let r := { r with package := cancelled.2 }
  match cancelled.1 with
  | none => (.error .actionRejected, r)
  | some record =>
      let r := r.logReceipt record
      (.ok record, if record.state = .cancelled then { r with stagedLoad := none } else r)

def submitRecord (r : GnssLossRuntime) (role : OperationalRole) :
    MissionOperatorAction → Outcome UplinkControlRecord
  | .stage load completedEventMask => r.submitStage load completedEventMask
  | .commit request => r.submitCommit role request
  | .cancel request => r.submitCancel request

def submit (r : GnssLossRuntime) (role : OperationalRole) (action : MissionOperatorAction) :
    Outcome MissionActionReceipt :=
  Attempt.andThen (r.submitRecord role action) fun record r ↦
    (.ok ⟨record, record.state ∈ [.staged, .committed, .cancelled]⟩, r)

def commitRequestForStaged (r : GnssLossRuntime) : Option UplinkControlRecord :=
  r.stagedLoad.map fun load ↦ commitRequest load r.releases

/-- The chain value of the last piece of procedure evidence. -/
def procedureChain (r : GnssLossRuntime) : UInt32 :=
  (r.procedure.evidence.getLast?.map ProcedureEvidence.chain).getD 0

def finishEvidence (r : GnssLossRuntime) : Except MissionSessionError SessionRunEvidence :=
  if !r.procedure.state.isTerminal then .error .notCompleted
  else match r.finalFlight with
  | none => .error .notCompleted
  | some flight =>
      .ok (fromOperational (Session.finishEvidence gnssLossScenarioId r.releases flight r.package
        r.procedure.state r.procedureChain r.transcript r.rejectedLoads))

end GnssLossRuntime

/-! ## The session -/

structure LiveMissionSession where
  project : CompiledMissionProject
  lifecycle : MissionSessionLifecycle
  pace : MissionSessionPace
  resumePace : MissionSessionPace
  runtime : Option GnssLossRuntime
  completedEvidence : Option SessionRunEvidence
  events : List MissionSessionEvent
  telemetry : List MissionSessionSnapshot
deriving DecidableEq

namespace LiveMissionSession

/-- What a fallible call returns, and the session it leaves. -/
abbrev Outcome (α : Type) := Attempt MissionSessionError LiveMissionSession α

/-- The releases flown so far: none before the session is prepared. -/
def releases (s : LiveMissionSession) : UInt32 :=
  (s.runtime.map GnssLossRuntime.releases).getD 0

def record (s : LiveMissionSession) (kind : MissionSessionEventKind)
    (detailIdentity : UInt32) : LiveMissionSession :=
  { s with
    events := s.events ++ [{
      sequence := UInt32.ofNat s.events.length + 1
      releaseEpoch := s.releases
      kind := kind
      detailIdentity := detailIdentity }] }

def compiled (project : CompiledMissionProject) :
    Except MissionSessionError LiveMissionSession :=
  if project.package ≠ .referenceOps ∨ project.scenario ≠ .gnssLoss then .error .unsupported
  else
    let session : LiveMissionSession := {
      project := project
      lifecycle := .compiled
      pace := .fast
      resumePace := .fast
      runtime := none
      completedEvidence := none
      events := []
      telemetry := [] }
    .ok (session.record .compiled project.definitionIdentity)

def prepare (s : LiveMissionSession) : Outcome Unit :=
  if s.lifecycle ≠ .compiled then (.error .lifecycle, s)
  else match GnssLossRuntime.new with
  | .error e => (.error e, s)
  | .ok runtime =>
      (.ok (), { s with runtime := some runtime, lifecycle := .ready }.record .prepared
        s.project.definitionIdentity)

def pause (s : LiveMissionSession) : Outcome Unit :=
  if s.lifecycle ≠ .ready ∧ s.lifecycle ≠ .running then (.error .lifecycle, s)
  else
    let resumePace := if s.pace ≠ .paused then s.pace else s.resumePace
    (.ok (), { s with
      resumePace := resumePace
      pace := .paused
      lifecycle := .paused }.record .paused 0)

def setPace (s : LiveMissionSession) (pace : MissionSessionPace) : Outcome Unit :=
  if s.lifecycle = .completed ∨ s.lifecycle = .aborted then (.error .lifecycle, s)
  else if pace = .paused then s.pause
  else
    let resumePace := if pace = .singleStep then .fast else pace
    (.ok (), { s with pace := pace, resumePace := resumePace }.record .paceChanged pace.code)

def resume (s : LiveMissionSession) : Outcome Unit :=
  if s.lifecycle ≠ .paused then (.error .lifecycle, s)
  else
    (.ok (), { s with pace := s.resumePace, lifecycle := .running }.record .resumed
      s.resumePace.code)

def snapshot (s : LiveMissionSession) : MissionSessionSnapshot :=
  let flight := s.runtime.bind GnssLossRuntime.finalFlight
  { definitionIdentity := s.project.definitionIdentity
    lifecycle := s.lifecycle
    pace := s.pace
    releaseEpoch := s.releases
    releasePeriodMicros := liveReleasePeriodMicros
    frame := flight.map (·.navigation.frame)
    missionTimeQ16 := s.runtime.bind fun runtime ↦
      if runtime.releases = 0 then none else some (4000000 + (runtime.releases - 1) * 2048)
    navigationPositionQ12 := flight.map (·.navigation.positionQ12)
    navigationVelocityQ24 := flight.map (·.navigation.velocityQ24)
    flightChecksum := flight.map (·.flightChecksum)
    navigationChecksum := flight.map (·.navigation.checksum)
    commandChecksum := flight.map (·.command.commandChecksum)
    prediction := s.runtime.bind (·.package.lastPrediction)
    evidenceIdentity := s.completedEvidence.map SessionRunEvidence.evidenceIdentity
    procedureChain := (s.runtime.map GnssLossRuntime.procedureChain).getD 0
    journalChain := (s.runtime.map fun runtime ↦ journalChainOf runtime.package).getD 0
    actionChain := (s.runtime.map (·.transcript.chain)).getD 0x811c9dc5
    procedureState := (s.runtime.map (·.procedure.state)).getD .active
    procedureStep := (s.runtime.map (·.procedure.currentStep)).getD 0
    stagedLoadIdentity := (s.runtime.bind GnssLossRuntime.stagedLoad).map
      UplinkCommandLoad.loadIdentity
    actionCount := (s.runtime.map (·.transcript.records.length)).getD 0
    eventCount := s.events.length
    rejectedLoads := (s.runtime.map GnssLossRuntime.rejectedLoads).getD 0
    safe := flight.map (·.safe) }

/-- The session takes operator actions and can be advanced. -/
def isOpen (s : LiveMissionSession) : Bool :=
  s.lifecycle == .ready || s.lifecycle == .running || s.lifecycle == .paused

/-- The end of a release: the session completes with the procedure. -/
def concludeRelease (s : LiveMissionSession) (runtime : GnssLossRuntime)
    (terminal singleStep : Bool) : Outcome Unit :=
  if terminal then
    match runtime.finishEvidence with
    | .error e => (.error e, s)
    | .ok evidence =>
        (.ok (), { s with
          completedEvidence := some evidence
          lifecycle := .completed }.record .completed runtime.releases)
  else if singleStep then (.ok (), { s with lifecycle := .paused })
  else (.ok (), s)

def advanceInternal (s : LiveMissionSession) (singleStep : Bool) :
    Outcome MissionSessionSnapshot :=
  if !s.isOpen then (.error .lifecycle, s)
  else
    let s := { s with lifecycle := .running }
    match s.runtime with
    | none => (.error .lifecycle, s)
    | some runtime =>
        let advanced := runtime.advanceOneRelease
        let s := { s with runtime := some advanced.2 }
        match advanced.1 with
        | .error e => (.error e, s)
        | .ok terminal =>
            Attempt.andThen
              ((s.record .release advanced.2.releases).concludeRelease advanced.2 terminal
                singleStep)
              fun _ s ↦ (.ok s.snapshot, { s with telemetry := s.telemetry ++ [s.snapshot] })

def advanceOneRelease (s : LiveMissionSession) : Outcome MissionSessionSnapshot :=
  if s.lifecycle = .paused then (.error .lifecycle, s) else s.advanceInternal false

def stepOneRelease (s : LiveMissionSession) : Outcome MissionSessionSnapshot :=
  if !s.isOpen then (.error .lifecycle, s)
  else
    Attempt.andThen (s.advanceInternal true) fun snapshot s ↦
      if s.lifecycle ≠ .completed then
        (.ok snapshot, { s with lifecycle := .paused, pace := .paused }.record .paused 0)
      else (.ok snapshot, s)

/-- The loop of `advanceBounded`, for a budget of releases. -/
def advanceRounds (singleStep : Bool) : Nat → LiveMissionSession → Outcome Unit
  | 0, s => (.ok (), s)
  | budget + 1, s =>
      Attempt.andThen (s.advanceInternal singleStep) fun _ s ↦
        if s.lifecycle = .completed ∨ s.lifecycle = .paused then (.ok (), s)
        else advanceRounds singleStep budget s

/-- How many releases a bounded advance may take at this pace. -/
def budget (s : LiveMissionSession) (maximumReleases : UInt32) : Nat :=
  match s.pace with
  | .fast => maximumReleases.toNat
  | .realtime | .singleStep => 1
  | .paused => 0

def advanceBounded (s : LiveMissionSession) (maximumReleases : UInt32) :
    Outcome MissionSessionSnapshot :=
  if maximumReleases = 0 ∨ s.pace = .paused then (.ok s.snapshot, s)
  else
    Attempt.andThen (advanceRounds (s.pace == .singleStep) (s.budget maximumReleases) s)
      fun _ s ↦ (.ok s.snapshot, s)

def submitOperatorAction (s : LiveMissionSession) (action : MissionOperatorAction) :
    Outcome MissionActionReceipt :=
  if !s.isOpen then (.error .lifecycle, s)
  else match s.runtime with
  | none => (.error .lifecycle, s)
  | some runtime =>
      let submitted := runtime.submit s.project.role action
      let s := { s with runtime := some submitted.2 }
      match submitted.1 with
      | .error e => (.error e, s)
      | .ok receipt =>
          let kind := match receipt.record.state with
            | .staged => .actionStaged
            | .committed => .actionCommitted
            | .cancelled => .actionCancelled
            | _ => .actionRejected
          (.ok receipt, s.record kind receipt.record.loadIdentity)

def abort (s : LiveMissionSession) (reasonIdentity : UInt32) : Outcome Unit :=
  if s.lifecycle = .completed ∨ s.lifecycle = .aborted then (.error .lifecycle, s)
  else (.ok (), { s with lifecycle := .aborted }.record .aborted reasonIdentity)

def recommendedLoad (s : LiveMissionSession) : Option UplinkCommandLoad :=
  s.runtime.bind GnssLossRuntime.recommendedLoad

def commitRequestForStaged (s : LiveMissionSession) : Option UplinkControlRecord :=
  s.runtime.bind GnssLossRuntime.commitRequestForStaged

end LiveMissionSession

end Ksa64.Session
