import Ksa64.Presentation.Payload
import Ksa64.Session.FullMissionTraces

/-!
# The presentation adapter

`FullMissionPresentationSession` is what the operator of a full mission works with.  It
shows the load that the mission recommends as a proposal, and an intent of the operator
reviews, stages, commits or cancels the proposal shown.  Beside the session it keeps a copy
of the proposal that is active, and the identity of the one last reviewed.

What the adapter publishes for polling is left out, but for the receipts of the actions: the
publications read the session, and no call of the adapter reads them.
-/

namespace Ksa64.Session

open Ksa64.Library Ksa64.Interface Ksa64.Sim Ksa64.Flight Ksa64.Presentation FullMissionSession

/-! ## Proposals and receipts -/

def actionPermitReview : UInt8 := 1
def actionPermitStage : UInt8 := 2
def actionPermitCommit : UInt8 := 4
def actionPermitCancel : UInt8 := 8

/-- The bit of an operation among those a proposal permits. -/
def permissionBit : PresentationActionOperation → UInt8
  | .review => actionPermitReview
  | .stage => actionPermitStage
  | .commit => actionPermitCommit
  | .cancel => actionPermitCancel

structure ActionProposalView where
  proposalIdentity : UInt32
  loadIdentity : UInt32
  loadType : UInt8
  permittedOperations : UInt8
  stageEpoch : UInt32
  earliestCommitEpoch : UInt32
  activationEpoch : UInt32
  expiresEpoch : UInt32
  payloadChecksum : UInt32
  completedEventMask : UInt32
  label : String
deriving DecidableEq

structure ActionReceiptView where
  publicationSequence : UInt64
  proposalIdentity : UInt32
  loadIdentity : UInt32
  controlIdentity : UInt32
  receiptEpoch : UInt32
  effectiveEpoch : UInt32
  state : UInt8
  reason : UInt8
  accepted : Bool
  operation : PresentationActionOperation
  receiptChecksum : UInt32
deriving DecidableEq

def acceptedLoadChecksum (load : UplinkCommandLoad) : UInt32 :=
  let words := [load.loadIdentity, load.packageManifestIdentity, load.planIdentity,
    load.stageEpoch, load.notBeforeEpoch, load.expiresEpoch, load.requestedEffectiveEpoch,
    load.requiredCapabilities, load.prerequisiteEventMask,
    load.positionResidualLimitQ12.toUInt32, load.velocityResidualLimitQ24.toUInt32,
    load.sourceEstimatorIdentity, load.sourceEstimatorChecksum]
      ++ load.arguments.toList.map Int32.toUInt32
  crc32Ieee (words.flatMap le32)

def loadTypeLabel : UplinkLoadType → String
  | .groundNavigationUpdate => "Ground navigation update"
  | .missionEventTarget => "Mission event target"
  | .contingencyBranch => "Contingency branch selection"
  | .navigationMode => "Navigation mode request"
  | .highLevelMode => "High-level mode request"

def proposalFromLoad (load : UplinkCommandLoad) (releaseEpoch : UInt32) :
    ActionProposalView where
  proposalIdentity := load.loadIdentity
  loadIdentity := load.loadIdentity
  loadType := load.loadType.code
  permittedOperations := actionPermitReview ||| actionPermitStage
  stageEpoch := releaseEpoch
  earliestCommitEpoch := load.notBeforeEpoch
  activationEpoch := load.requestedEffectiveEpoch
  expiresEpoch := load.expiresEpoch
  payloadChecksum := acceptedLoadChecksum load
  completedEventMask := load.prerequisiteEventMask
  label := loadTypeLabel load.loadType

def reviewChecksum (intent : PresentationActionIntent) (epoch : UInt32) : UInt32 :=
  intent.proposalIdentity ^^^ rotateLeft32 intent.expectedLoadIdentity 7
    ^^^ rotateLeft32 epoch 13 ^^^ intent.clientActionSequence.toUInt32

def mapActionReceipt (receipt : MissionActionReceipt) (proposalIdentity : UInt32)
    (operation : PresentationActionOperation) : ActionReceiptView where
  publicationSequence := 0
  proposalIdentity := proposalIdentity
  loadIdentity := receipt.record.loadIdentity
  controlIdentity := receipt.record.controlIdentity
  receiptEpoch := receipt.record.requestEpoch
  effectiveEpoch := receipt.record.effectiveEpoch
  state := receipt.record.state.code
  reason := receipt.record.reason.code
  accepted := receipt.accepted
  operation := operation
  receiptChecksum := receipt.record.receiptChecksum

/-! ## The adapter -/

def receiptRetention : Nat := 128

inductive PresentationSessionError where
  | authority (error : MissionSessionError)
  | intent (error : PresentationValueError)
  | actionSequence
  | proposal
  | retention (error : CursorError)

def presentationRole : OperationalRole → PresentationRole
  | .observer => .observer
  | .guidedOperator => .guidedOperator
  | .flightController => .flightController
  | .flightSoftwareEngineer => .flightSoftwareEngineer
  | .simDirector => .simDirector
  | .scriptedOperator => .scriptedOperator

def authorityPace : PresentationPace → MissionSessionPace
  | .fast => .fast
  | .realtime => .realtime
  | .paused => .paused
  | .singleStep => .singleStep

structure FullMissionPresentationSession where
  authority : FullMissionSession
  role : PresentationRole
  receipts : RetainedStream ActionReceiptView
  nextClientActionSequence : UInt64
  reviewedProposal : Option UInt32
  activeProposal : Option ActionProposalView
deriving DecidableEq

namespace FullMissionPresentationSession

/-- What a fallible call returns, and the adapter it leaves. -/
abbrev Outcome (α : Type) := Attempt PresentationSessionError FullMissionPresentationSession α

def fromAuthority (authority : FullMissionSession) (role : OperationalRole) :
    Except PresentationSessionError FullMissionPresentationSession :=
  match RetainedStream.new receiptRetention with
  | .error e => .error (.retention e)
  | .ok receipts => .ok {
      authority := authority
      role := presentationRole role
      receipts := receipts
      nextClientActionSequence := 1
      reviewedProposal := none
      activeProposal := none }

def compiled (project : CompiledMissionProject) (role : OperationalRole) :
    Except PresentationSessionError FullMissionPresentationSession :=
  match compiledWithRole { project with role := role } role with
  | .error e => .error (.authority e)
  | .ok authority => fromAuthority authority role

/-- A call of the session, made through the adapter. -/
def withAuthority {α : Type} (p : FullMissionPresentationSession)
    (result : FullMissionSession.Outcome α) : Outcome α :=
  (result.1.mapError .authority, { p with authority := result.2 })

def prepare (p : FullMissionPresentationSession) (world : Except GlobalWorldError InitialWorld) :
    Outcome Unit := p.withAuthority (p.authority.prepare world)

def setPace (p : FullMissionPresentationSession) (pace : PresentationPace) : Outcome Unit :=
  p.withAuthority (p.authority.setPace (authorityPace pace))

def pause (p : FullMissionPresentationSession) : Outcome Unit := p.withAuthority p.authority.pause

def resume (p : FullMissionPresentationSession) : Outcome Unit := p.withAuthority p.authority.resume

def advanceOneRelease (p : FullMissionPresentationSession) (answer : WorldAnswer) :
    Outcome Unit := p.withAuthority (p.authority.advanceOneRelease answer)

def stepOneRelease (p : FullMissionPresentationSession) (answer : WorldAnswer) : Outcome Unit :=
  p.withAuthority (p.authority.stepOneRelease answer)

def abort (p : FullMissionPresentationSession) (reasonIdentity : UInt32) : Outcome Unit :=
  p.withAuthority (p.authority.abort reasonIdentity)

/-- The releases of a bounded advance, up to one that leaves a load to recommend. -/
def advanceReleases : List WorldAnswer → FullMissionSession → FullMissionSession.Outcome Unit
  | [], s => (.ok (), s)
  | answer :: answers, s =>
      (s.advanceBounded 1 fun _ ↦ answer).andThen fun _ s ↦
        if s.recommendedLoad.isSome ∨ s.lifecycle ∈ [.completed, .paused, .aborted] then (.ok (), s)
        else advanceReleases answers s

def advanceBounded (p : FullMissionPresentationSession) (maximumReleases : UInt32)
    (answers : Nat → WorldAnswer) : Outcome UInt32 :=
  (p.withAuthority (advanceReleases ((List.range maximumReleases.toNat).map answers)
    p.authority)).andThen fun _ next ↦
      (.ok (subSat32 next.authority.releaseEpoch p.authority.releaseEpoch), next)

/-- What the operator is shown: the active proposal while a load is staged, and the
recommended load while none is. -/
def currentActionProposal (p : FullMissionPresentationSession) : Option ActionProposalView :=
  if p.authority.stagedLoad.isSome then
    p.activeProposal.map fun proposal ↦
      { proposal with
        permittedOperations := actionPermitReview ||| actionPermitCommit ||| actionPermitCancel }
  else p.authority.recommendedLoad.map fun load ↦ proposalFromLoad load p.authority.releaseEpoch

/-- The checks of an intent against the proposal that is shown, and their errors. -/
def checkIntent (p : FullMissionPresentationSession) (intent : PresentationActionIntent) :
    Except PresentationSessionError ActionProposalView :=
  match intent.validate p.role with
  | .error e => .error (.intent e)
  | .ok () =>
      if intent.clientActionSequence ≠ p.nextClientActionSequence then .error .actionSequence
      else match p.currentActionProposal with
      | none => .error .proposal
      | some proposal =>
          if intent.proposalIdentity ≠ proposal.proposalIdentity
              ∨ intent.expectedLoadIdentity ≠ 0
                ∧ intent.expectedLoadIdentity ≠ proposal.loadIdentity
              ∨ proposal.permittedOperations &&& permissionBit intent.operation = 0
              ∨ intent.requestedActivationEpoch ≠ 0
                ∧ intent.requestedActivationEpoch ≠ proposal.activationEpoch then
            .error .proposal
          else .ok proposal

/-- The action that a stage intent hands to the session: the load is computed anew. -/
def stageAction (p : FullMissionPresentationSession) (proposal : ActionProposalView) :
    Option MissionOperatorAction :=
  if p.reviewedProposal ≠ some proposal.proposalIdentity then none
  else
    (p.authority.recommendedLoad.filter fun load ↦
      load.loadIdentity = proposal.loadIdentity).map fun load ↦
        .stage load proposal.completedEventMask

def commitAction (p : FullMissionPresentationSession) (proposal : ActionProposalView) :
    Option MissionOperatorAction :=
  (p.authority.commitRequestForStaged.filter fun request ↦
    request.loadIdentity = proposal.loadIdentity).map .commit

def cancelAction (p : FullMissionPresentationSession) (proposal : ActionProposalView) :
    Option MissionOperatorAction :=
  (p.authority.cancelRequestForStaged.filter fun request ↦
    request.loadIdentity = proposal.loadIdentity).map .cancel

/-- The action that an intent on the proposal hands to the session. -/
def actionFor (p : FullMissionPresentationSession) (proposal : ActionProposalView) :
    PresentationActionOperation → Option MissionOperatorAction
  | .review => none
  | .stage => p.stageAction proposal
  | .commit => p.commitAction proposal
  | .cancel => p.cancelAction proposal

/-- The copies after an operation that the session has answered. -/
def noteAnswered (p : FullMissionPresentationSession) (proposal : ActionProposalView) :
    PresentationActionOperation → FullMissionPresentationSession
  | .review => { p with
      reviewedProposal := some proposal.proposalIdentity
      activeProposal := some proposal }
  | .stage => { p with activeProposal := some proposal }
  | .commit | .cancel => { p with
      activeProposal := none
      reviewedProposal := none }

def reviewReceipt (p : FullMissionPresentationSession) (intent : PresentationActionIntent)
    (proposal : ActionProposalView) : ActionReceiptView where
  publicationSequence := 0
  proposalIdentity := proposal.proposalIdentity
  loadIdentity := proposal.loadIdentity
  controlIdentity := 0
  receiptEpoch := p.authority.releaseEpoch
  effectiveEpoch := proposal.activationEpoch
  state := 0
  reason := 0
  accepted := true
  operation := intent.operation
  receiptChecksum := reviewChecksum intent p.authority.releaseEpoch

/-- Carry out an intent on the proposal that it names. -/
def applyIntent (p : FullMissionPresentationSession) (intent : PresentationActionIntent)
    (proposal : ActionProposalView) : Outcome ActionReceiptView :=
  if intent.operation = .review then
    (.ok (p.reviewReceipt intent proposal), p.noteAnswered proposal .review)
  else match p.actionFor proposal intent.operation with
  | none => (.error .proposal, p)
  | some action =>
      (p.withAuthority (p.authority.submitOperatorAction action)).andThen fun receipt next ↦
        (.ok (mapActionReceipt receipt proposal.proposalIdentity intent.operation),
          next.noteAnswered proposal intent.operation)

def pushReceipt (p : FullMissionPresentationSession) (receipt : ActionReceiptView) :
    Outcome ActionReceiptView :=
  let receipt := { receipt with publicationSequence := p.receipts.nextSequence }
  let pushed := p.receipts.push receipt
  let p := { p with receipts := pushed.2 }
  match pushed.1 with
  | .error e => (.error (.retention e), p)
  | .ok _ => (.ok receipt, p)

def submitAction (p : FullMissionPresentationSession) (intent : PresentationActionIntent) :
    Outcome ActionReceiptView :=
  match p.checkIntent intent with
  | .error e => (.error e, p)
  | .ok proposal =>
      (p.applyIntent intent proposal).andThen fun receipt p ↦
        match checkedAdd64 p.nextClientActionSequence 1 with
        | none => (.error .actionSequence, p)
        | some next => { p with nextClientActionSequence := next }.pushReceipt receipt

end FullMissionPresentationSession

end Ksa64.Session
