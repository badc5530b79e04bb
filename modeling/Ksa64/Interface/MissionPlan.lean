import Ksa64.Library.Vectors
import Ksa64.Library.Checked
import Ksa64.Interface.Codec
import Ksa64.Interface.Phase11

/-!
# KMP11 mission plans

A mission plan holds three bounded tables (events, branches, decisions), each an
array of fixed length with a count of the entries in use.  `validatePlan` checks a
plan, `parseKmp11` reads one from its 2048 bytes.  The three tables are checked by
one loop, `validateTable`, and read by one loop, `decodeTable`.

What the rest of the development uses of the codec is `validatePlan_of_parseKmp11`:
a plan that comes out of the parser has passed the checks.
-/

namespace Ksa64.Interface

open Ksa64.Library

def kmp11Length : Nat := 2048
def kmp11Version : UInt16 := 11
def kmp11Magic : List UInt8 := [0x4b, 0x4d, 0x50, 0x31]
def kmp11MaxEvents : Nat := 24
def kmp11MaxBranches : Nat := 8
def kmp11MaxDecisions : Nat := 8
def kmp11EventOffset : Nat := 128
def kmp11EventLength : Nat := 48
def kmp11BranchOffset : Nat := 1280
def kmp11BranchLength : Nat := 32
def kmp11DecisionOffset : Nat := 1536
def kmp11DecisionLength : Nat := 24

inductive MissionEventKind where
  | attitudeOrGuidanceTarget
  | navigationSource
  | holdOrContinue
  | plannedCorrection
  | recoveryMode
  | abortOrSafeState
deriving DecidableEq, Repr

inductive MissionEventTrigger where
  | exactRelease
  | publicOnboardGuard
deriving DecidableEq, Repr

inductive MissionFailurePolicy where
  | failClosed
  | skip
  | selectContingency
deriving DecidableEq, Repr

structure MissionPlanEvent where
  eventId : UInt16
  kind : MissionEventKind
  trigger : MissionEventTrigger
  flags : UInt16
  failurePolicy : MissionFailurePolicy
  earliestEpoch : UInt32
  latestEpoch : UInt32
  exactEpoch : UInt32
  prerequisiteEvents : UInt32
  requiredCapabilities : UInt32
  arguments : Vector Int32 4
  guardMetric : UInt16
  guardComparison : UInt8
deriving DecidableEq

def MissionPlanEvent.empty : MissionPlanEvent where
  eventId := 0
  kind := .attitudeOrGuidanceTarget
  trigger := .exactRelease
  flags := 0
  failurePolicy := .failClosed
  earliestEpoch := 0
  latestEpoch := 0
  exactEpoch := 0
  prerequisiteEvents := 0
  requiredCapabilities := 0
  arguments := .replicate 4 0
  guardMetric := 0
  guardComparison := 0

structure ContingencyBranch where
  branchId : UInt8
  sourceDecisionId : UInt8
  firstEventId : UInt16
  flags : UInt16
  earliestEpoch : UInt32
  latestEpoch : UInt32
  prerequisiteEvents : UInt32
  requiredCapabilities : UInt32
  arguments : Vector Int32 2
deriving DecidableEq

def ContingencyBranch.empty : ContingencyBranch where
  branchId := 0
  sourceDecisionId := 0
  firstEventId := 0
  flags := 0
  earliestEpoch := 0
  latestEpoch := 0
  prerequisiteEvents := 0
  requiredCapabilities := 0
  arguments := .replicate 2 0

structure OperatorDecisionPoint where
  decisionId : UInt8
  defaultBranchId : UInt8
  flags : UInt16
  earliestEpoch : UInt32
  latestEpoch : UInt32
  requiredEventMask : UInt32
  timeoutBranchId : UInt8
deriving DecidableEq

def OperatorDecisionPoint.empty : OperatorDecisionPoint where
  decisionId := 0
  defaultBranchId := 0
  flags := 0
  earliestEpoch := 0
  latestEpoch := 0
  requiredEventMask := 0
  timeoutBranchId := 0

structure MissionPlan where
  planIdentity : UInt32
  packageManifestIdentity : UInt32
  package : FlightSoftwarePackageId
  abi : FlightAbiId
  vehicleProfileIdentity : UInt32
  missionIdentity : UInt32
  earthIdentity : UInt32
  environmentIdentity : UInt32
  onboardPredictionModel : UInt32
  groundPredictionModel : UInt32
  requiredCapabilities : UInt32
  eventCount : UInt8
  branchCount : UInt8
  decisionCount : UInt8
  events : Vector MissionPlanEvent kmp11MaxEvents
  branches : Vector ContingencyBranch kmp11MaxBranches
  decisions : Vector OperatorDecisionPoint kmp11MaxDecisions
deriving DecidableEq

/-! ## Validation -/

section Tables

variable {α ι : Type} [DecidableEq α] [DecidableEq ι] {n : Nat}

/-- The check of one table: the entries in use are well formed and carry distinct
identifiers, the others are empty. -/
def validateTable (entries : Vector α n) (count : UInt8) (empty : α) (wellFormed : α → Bool)
    (identifier : α → ι) : Except CodecError Unit :=
  (List.finRange n).forM fun index ↦
    let entry := entries.get index
    if count.toNat ≤ index.val then
      if entry ≠ empty then throw .reserved else pure ()
    else if !wellFormed entry then throw .flags
    else if (List.finRange n).any fun prior ↦
        prior < index && identifier (entries.get prior) = identifier entry then
      throw .sequence
    else pure ()

end Tables

def validateEvent (event : MissionPlanEvent) : Bool :=
  !(event.eventId == 0
    || event.flags != 0
    || event.latestEpoch < event.earliestEpoch
    || event.requiredCapabilities &&& ~~~packageCapMask != 0
    || 5 < event.guardComparison
    || event.trigger == .exactRelease
      && (event.exactEpoch < event.earliestEpoch || event.latestEpoch < event.exactEpoch))

def validateBranch (branch : ContingencyBranch) : Bool :=
  !(branch.branchId == 0
    || branch.firstEventId == 0
    || branch.flags != 0
    || branch.latestEpoch < branch.earliestEpoch
    || branch.requiredCapabilities &&& ~~~packageCapMask != 0)

def validateDecision (decision : OperatorDecisionPoint) : Bool :=
  !(decision.decisionId == 0
    || decision.flags != 0
    || decision.latestEpoch < decision.earliestEpoch)

def validatePlan (plan : MissionPlan) : Except CodecError Unit := do
  reject
    (plan.planIdentity = 0
      ∨ plan.packageManifestIdentity = 0
      ∨ plan.vehicleProfileIdentity = 0
      ∨ plan.missionIdentity = 0
      ∨ plan.earthIdentity = 0
      ∨ plan.environmentIdentity = 0
      ∨ plan.onboardPredictionModel = 0
      ∨ plan.groundPredictionModel = 0
      ∨ plan.requiredCapabilities &&& ~~~packageCapMask ≠ 0
      ∨ kmp11MaxEvents < plan.eventCount.toNat
      ∨ kmp11MaxBranches < plan.branchCount.toNat
      ∨ kmp11MaxDecisions < plan.decisionCount.toNat) .flags
  validateTable plan.events plan.eventCount .empty validateEvent (·.eventId)
  validateTable plan.branches plan.branchCount .empty validateBranch (·.branchId)
  validateTable plan.decisions plan.decisionCount .empty validateDecision (·.decisionId)

/-! ## Parsing -/

def MissionEventKind.parse (value : UInt8) : Except CodecError MissionEventKind :=
  match value with
  | 1 => pure .attitudeOrGuidanceTarget
  | 2 => pure .navigationSource
  | 3 => pure .holdOrContinue
  | 4 => pure .plannedCorrection
  | 5 => pure .recoveryMode
  | 6 => pure .abortOrSafeState
  | _ => throw .enum

def MissionEventTrigger.parse (value : UInt8) : Except CodecError MissionEventTrigger :=
  match value with
  | 1 => pure .exactRelease
  | 2 => pure .publicOnboardGuard
  | _ => throw .enum

def MissionFailurePolicy.parse (value : UInt8) : Except CodecError MissionFailurePolicy :=
  match value with
  | 1 => pure .failClosed
  | 2 => pure .skip
  | 3 => pure .selectContingency
  | _ => throw .enum

def FlightSoftwarePackageId.parse (value : UInt32) : Except CodecError FlightSoftwarePackageId :=
  match value with
  | 0x11f50001 => pure .ksaG10rReferenceOpsV1
  | 0x11f50002 => pure .safeholdRecoveryV1
  | _ => throw .enum

def FlightAbiId.parse (value : UInt32) : Except CodecError FlightAbiId :=
  match value with
  | 0x10520001 => pure .globalKlr10V1
  | _ => throw .enum

/-- Some byte from `a` up to `b` is not zero. -/
def anyNonzero (input : List UInt8) (a b : Nat) : Bool := (slice input a b).any (· != 0)

/-- Read the entries in use one after the other; the others are empty. -/
def decodeTable {α : Type} (n : Nat) (count : UInt8) (empty : α)
    (decode : Nat → Except CodecError α) : Except CodecError (Vector α n) :=
  Vector.ofFnM fun index : Fin n ↦
    if index.val < count.toNat then decode index.val else pure empty

def decodeEvent (input : List UInt8) (index : Nat) : Except CodecError MissionPlanEvent := do
  let offset := kmp11EventOffset + index * kmp11EventLength
  reject (readByte input (offset + 7) ≠ 0 ∨ readByte input (offset + 47) ≠ 0) .reserved
  let kind ← MissionEventKind.parse (readByte input (offset + 2))
  let trigger ← MissionEventTrigger.parse (readByte input (offset + 3))
  let failurePolicy ← MissionFailurePolicy.parse (readByte input (offset + 6))
  pure {
    eventId := read16 input offset
    kind := kind
    trigger := trigger
    flags := read16 input (offset + 4)
    failurePolicy := failurePolicy
    earliestEpoch := read32 input (offset + 8)
    latestEpoch := read32 input (offset + 12)
    exactEpoch := read32 input (offset + 16)
    prerequisiteEvents := read32 input (offset + 20)
    requiredCapabilities := read32 input (offset + 24)
    arguments := Vector.ofFn fun argument : Fin 4 ↦
      (read32 input (offset + 28 + argument.val * 4)).toInt32
    guardMetric := read16 input (offset + 44)
    guardComparison := readByte input (offset + 46) }

def decodeBranch (input : List UInt8) (index : Nat) : Except CodecError ContingencyBranch := do
  let offset := kmp11BranchOffset + index * kmp11BranchLength
  reject (readByte input (offset + 6) ≠ 0 ∨ readByte input (offset + 7) ≠ 0) .reserved
  pure {
    branchId := readByte input offset
    sourceDecisionId := readByte input (offset + 1)
    firstEventId := read16 input (offset + 2)
    flags := read16 input (offset + 4)
    earliestEpoch := read32 input (offset + 8)
    latestEpoch := read32 input (offset + 12)
    prerequisiteEvents := read32 input (offset + 16)
    requiredCapabilities := read32 input (offset + 20)
    arguments := #v[(read32 input (offset + 24)).toInt32, (read32 input (offset + 28)).toInt32] }

def decodeDecision (input : List UInt8) (index : Nat) :
    Except CodecError OperatorDecisionPoint := do
  let offset := kmp11DecisionOffset + index * kmp11DecisionLength
  reject (anyNonzero input (offset + 17) (offset + kmp11DecisionLength)) .reserved
  pure {
    decisionId := readByte input offset
    defaultBranchId := readByte input (offset + 1)
    flags := read16 input (offset + 2)
    earliestEpoch := read32 input (offset + 4)
    latestEpoch := read32 input (offset + 8)
    requiredEventMask := read32 input (offset + 12)
    timeoutBranchId := readByte input (offset + 16) }

/-- The parser up to its last check. -/
def decodeKmp11 (input : List UInt8) : Except CodecError MissionPlan := do
  reject (input.length ≠ kmp11Length) .length
  reject
    (slice input 0 4 ≠ kmp11Magic
      ∨ read16 input 4 ≠ kmp11Version
      ∨ (read16 input 6).toNat ≠ kmp11Length) .enum
  reject (crc32Ieee (slice input 0 (kmp11Length - 4)) ≠ read32 input (kmp11Length - 4)) .checksum
  reject (anyNonzero input 55 128 ∨ anyNonzero input 1728 (kmp11Length - 4)) .reserved
  let eventCount := readByte input 52
  let branchCount := readByte input 53
  let decisionCount := readByte input 54
  reject
    (kmp11MaxEvents < eventCount.toNat
      ∨ kmp11MaxBranches < branchCount.toNat
      ∨ kmp11MaxDecisions < decisionCount.toNat) .flags
  let events ← decodeTable kmp11MaxEvents eventCount .empty (decodeEvent input)
  reject
    (anyNonzero input (kmp11EventOffset + eventCount.toNat * kmp11EventLength)
      kmp11BranchOffset) .reserved
  let branches ← decodeTable kmp11MaxBranches branchCount .empty (decodeBranch input)
  reject
    (anyNonzero input (kmp11BranchOffset + branchCount.toNat * kmp11BranchLength)
      kmp11DecisionOffset) .reserved
  let decisions ← decodeTable kmp11MaxDecisions decisionCount .empty (decodeDecision input)
  reject
    (anyNonzero input (kmp11DecisionOffset + decisionCount.toNat * kmp11DecisionLength)
      1728) .reserved
  let package ← FlightSoftwarePackageId.parse (read32 input 16)
  let abi ← FlightAbiId.parse (read32 input 20)
  pure {
    planIdentity := read32 input 8
    packageManifestIdentity := read32 input 12
    package := package
    abi := abi
    vehicleProfileIdentity := read32 input 24
    missionIdentity := read32 input 28
    earthIdentity := read32 input 32
    environmentIdentity := read32 input 36
    onboardPredictionModel := read32 input 40
    groundPredictionModel := read32 input 44
    requiredCapabilities := read32 input 48
    eventCount := eventCount
    branchCount := branchCount
    decisionCount := decisionCount
    events := events
    branches := branches
    decisions := decisions }

def parseKmp11 (input : List UInt8) : Except CodecError MissionPlan := do
  let plan ← decodeKmp11 input
  validatePlan plan
  pure plan

/-- The parser returns checked plans only. -/
theorem validatePlan_of_parseKmp11 {input : List UInt8} {plan : MissionPlan}
    (h : parseKmp11 input = .ok plan) : validatePlan plan = .ok () := by
  obtain ⟨decoded, -, h⟩ := bind_eq_ok.mp h
  obtain ⟨_, hv, h⟩ := bind_eq_ok.mp h
  exact pure_eq_ok.mp h ▸ hv

end Ksa64.Interface
