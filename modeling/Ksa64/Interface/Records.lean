import Ksa64.Library.Checked
import Ksa64.Interface.WireCodes

/-!
# The codecs of the mission-operations records

Writers and parsers of the records of fixed layout.  A writer is given the string it
overwrites, and only the length of it matters.  The cells of each record list what the
writer puts where; the parser takes it out again.
-/

namespace Ksa64.Interface

open Ksa64.Library

/-- The words of a vector of signed integers. -/
def i32Words {n : Nat} (values : Vector Int32 n) : List UInt32 := values.toList.map Int32.toUInt32

/-- Signed integers, one after the other from an offset on. -/
def readI32s (n : Nat) (input : List UInt8) (off : Nat) : Vector Int32 n :=
  Vector.ofFn fun index : Fin n ↦ (read32 input (off + index.val * 4)).toInt32

/-- Words, one after the other from an offset on. -/
def readU32s (n : Nat) (input : List UInt8) (off : Nat) : Vector UInt32 n :=
  Vector.ofFn fun index : Fin n ↦ read32 input (off + index.val * 4)

/-- Bytes, one after the other from an offset on. -/
def readBytes (n : Nat) (input : List UInt8) (off : Nat) : Vector UInt8 n :=
  Vector.ofFn fun index : Fin n ↦ readByte input (off + index.val)

/-! ## KFS11: package manifests -/

def kfs11Length : Nat := 512
def kfs11Version : UInt16 := 1
def kfs11Magic : List UInt8 := [0x4b, 0x46, 0x53, 0x31]
def packageTargetMask : UInt8 := 7

def validateManifest (value : FlightSoftwarePackageManifest) : Except CodecError Unit := do
  reject
    (value.manifestIdentity = 0
      ∨ value.implementationIdentity = 0
      ∨ value.vehicleProfileIdentity = 0
      ∨ value.missionCompatibilityIdentity = 0
      ∨ value.codeIdentity = 0
      ∨ value.configurationIdentity = 0
      ∨ value.capabilities = 0
      ∨ value.capabilities &&& ~~~packageCapMask ≠ 0
      ∨ value.segmentSupport = 0
      ∨ value.segmentSupport &&& ~~~packageSegmentMask ≠ 0
      ∨ value.commandLoadSupport &&& ~~~packageLoadMask ≠ 0
      ∨ value.targets = 0
      ∨ value.targets &&& ~~~packageTargetMask ≠ 0
      ∨ value.fastHz ≠ 32
      ∨ value.navigationHz ≠ 8
      ∨ value.guidanceHz ≠ 1
      ∨ 24 < value.maximumPlanEvents
      ∨ 8 < value.maximumBranches
      ∨ 8 < value.maximumDecisions
      ∨ value.resource.persistentBytes = 0
      ∨ value.resource.transientBytes = 0
      ∨ value.resource.stackBytes = 0
      ∨ value.resource.journalRecords = 0
      ∨ value.resource.maximumObjectBytes = 0
      ∨ 4096 < value.resource.maximumObjectBytes
      ∨ value.resourceEvidenceSha256.all (· == 0)) .flags
  reject
    (value.commandLoadSupport ≠ 0
      ∧ value.capabilities
          &&& (packageCapGroundNavUpdate ||| packageCapTargetUpdate ||| packageCapBranchSelect
            ||| packageCapNavMode ||| packageCapHighLevelMode) = 0) .flags

def kfs11Cells (value : FlightSoftwarePackageManifest) : Layout :=
  [(0, .bytes kfs11Magic),
    (4, .word16 kfs11Version),
    (6, .word16 512),
    (8, .word32 value.manifestIdentity),
    (12, .word32 value.package.code),
    (16, .word32 value.implementationIdentity),
    (20, .word32 value.abi.code),
    (24, .word32 value.vehicleProfileIdentity),
    (28, .word32 value.missionCompatibilityIdentity),
    (32, .word32 value.capabilities),
    (36, .word16 value.segmentSupport),
    (38, .word16 value.commandLoadSupport),
    (40, .byte value.targets),
    (41, .byte value.safeState.code),
    (42, .byte value.commandLoss.code),
    (44, .byte value.fastHz),
    (45, .byte value.navigationHz),
    (46, .byte value.guidanceHz),
    (47, .byte value.resource.journalRecords),
    (48, .word16 value.resource.persistentBytes),
    (50, .word16 value.resource.transientBytes),
    (52, .word16 value.resource.stackBytes),
    (54, .word16 value.resource.maximumObjectBytes),
    (56, .byte value.maximumPlanEvents),
    (57, .byte value.maximumBranches),
    (58, .byte value.maximumDecisions),
    (60, .word32 value.codeIdentity),
    (64, .word32 value.configurationIdentity),
    (68, .bytes value.resourceEvidenceSha256.toList)]

def writeKfs11 (value : FlightSoftwarePackageManifest) (output : List UInt8) :
    Except CodecError (List UInt8) := do
  reject (output.length ≠ kfs11Length) .length
  validateManifest value
  pure (sealRecord 508 (kfs11Cells value))

def parseKfs11 (input : List UInt8) : Except CodecError FlightSoftwarePackageManifest := do
  reject (input.length ≠ kfs11Length) .length
  reject
    (slice input 0 4 ≠ kfs11Magic
      ∨ read16 input 4 ≠ kfs11Version
      ∨ (read16 input 6).toNat ≠ kfs11Length) .enum
  reject (crc32Ieee (slice input 0 508) ≠ read32 input 508) .checksum
  reject
    (readByte input 43 ≠ 0 ∨ readByte input 59 ≠ 0 ∨ anyNonzero input 100 508) .reserved
  let package ← FlightSoftwarePackageId.parse (read32 input 12)
  let abi ← FlightAbiId.parse (read32 input 20)
  let safeState ← PackageSafeStateId.parse (readByte input 41)
  let commandLoss ← PackageCommandLossBehavior.parse (readByte input 42)
  let value : FlightSoftwarePackageManifest := {
    manifestIdentity := read32 input 8
    package := package
    implementationIdentity := read32 input 16
    abi := abi
    vehicleProfileIdentity := read32 input 24
    missionCompatibilityIdentity := read32 input 28
    capabilities := read32 input 32
    segmentSupport := read16 input 36
    commandLoadSupport := read16 input 38
    targets := readByte input 40
    safeState := safeState
    commandLoss := commandLoss
    resource := {
      journalRecords := readByte input 47
      persistentBytes := read16 input 48
      transientBytes := read16 input 50
      stackBytes := read16 input 52
      maximumObjectBytes := read16 input 54 }
    fastHz := readByte input 44
    navigationHz := readByte input 45
    guidanceHz := readByte input 46
    maximumPlanEvents := readByte input 56
    maximumBranches := readByte input 57
    maximumDecisions := readByte input 58
    codeIdentity := read32 input 60
    configurationIdentity := read32 input 64
    resourceEvidenceSha256 := readBytes 32 input 68 }
  validateManifest value
  pure value

/-! ## KUL11: uplink loads -/

def kul11Length : Nat := 512
def kul11Magic : List UInt8 := [0x4b, 0x55, 0x4c, 0x31]

def validateUplinkLoad (value : UplinkCommandLoad) : Except CodecError Unit :=
  reject
    (value.loadIdentity = 0
      ∨ value.packageManifestIdentity = 0
      ∨ value.planIdentity = 0
      ∨ value.sourceEstimatorIdentity = 0
      ∨ value.expiresEpoch < value.notBeforeEpoch
      ∨ value.requestedEffectiveEpoch < value.notBeforeEpoch
      ∨ value.expiresEpoch < value.requestedEffectiveEpoch
      ∨ value.requiredCapabilities &&& ~~~packageCapMask ≠ 0
      ∨ value.requiredCapabilities &&& value.loadType.capability = 0
      ∨ value.positionResidualLimitQ12 < 0
      ∨ value.velocityResidualLimitQ24 < 0) .flags

def kul11Cells (value : UplinkCommandLoad) : Layout :=
  [(0, .bytes kul11Magic),
    (4, .word16 11),
    (6, .word16 512),
    (8, .word32 value.loadIdentity),
    (12, .word32 value.packageManifestIdentity),
    (16, .word32 value.planIdentity),
    (20, .word32 value.abi.code),
    (24, .word32 value.sourceEstimatorIdentity),
    (28, .word32 value.sourceEstimatorChecksum),
    (32, .word32 value.stageEpoch),
    (36, .word32 value.notBeforeEpoch),
    (40, .word32 value.expiresEpoch),
    (44, .word32 value.requestedEffectiveEpoch),
    (48, .word32 value.requiredCapabilities),
    (52, .word32 value.prerequisiteEventMask),
    (56, .word32 value.positionResidualLimitQ12.toUInt32),
    (60, .word32 value.velocityResidualLimitQ24.toUInt32),
    (64, .byte value.frame.code),
    (65, .byte value.loadType.code),
    (68, .words (i32Words value.arguments))]

def writeKul11 (value : UplinkCommandLoad) (output : List UInt8) :
    Except CodecError (List UInt8) := do
  reject (output.length ≠ kul11Length) .length
  validateUplinkLoad value
  pure (sealRecord 508 (kul11Cells value))

def parseKul11 (input : List UInt8) : Except CodecError UplinkCommandLoad := do
  reject (input.length ≠ kul11Length) .length
  reject (slice input 0 4 ≠ kul11Magic ∨ read16 input 4 ≠ 11 ∨ read16 input 6 ≠ 512) .enum
  reject (crc32Ieee (slice input 0 508) ≠ read32 input 508) .checksum
  reject
    (readByte input 66 ≠ 0 ∨ readByte input 67 ≠ 0 ∨ anyNonzero input 132 508) .reserved
  let abi ← FlightAbiId.parse (read32 input 20)
  let frame ← parseGlobalFrame (readByte input 64)
  let loadType ← UplinkLoadType.parse (readByte input 65)
  let value : UplinkCommandLoad := {
    loadIdentity := read32 input 8
    packageManifestIdentity := read32 input 12
    planIdentity := read32 input 16
    abi := abi
    sourceEstimatorIdentity := read32 input 24
    sourceEstimatorChecksum := read32 input 28
    stageEpoch := read32 input 32
    notBeforeEpoch := read32 input 36
    expiresEpoch := read32 input 40
    requestedEffectiveEpoch := read32 input 44
    requiredCapabilities := read32 input 48
    prerequisiteEventMask := read32 input 52
    positionResidualLimitQ12 := (read32 input 56).toInt32
    velocityResidualLimitQ24 := (read32 input 60).toInt32
    frame := frame
    loadType := loadType
    arguments := readI32s 16 input 68 }
  validateUplinkLoad value
  pure value

/-! ## KUA11: control records -/

def kua11Length : Nat := 128
def kua11Magic : List UInt8 := [0x4b, 0x55, 0x41, 0x31]

/-- The identities that the writer and the parser of a control record check. -/
def checkKua11 (value : UplinkControlRecord) : Except CodecError Unit :=
  reject
    (value.controlIdentity = 0
      ∨ value.loadIdentity = 0
      ∨ value.packageManifestIdentity = 0
      ∨ value.planIdentity = 0) .flags

def kua11Cells (value : UplinkControlRecord) : Layout :=
  [(0, .bytes kua11Magic),
    (4, .byte 11),
    (5, .byte value.kind.code),
    (6, .word16 128),
    (8, .word32 value.controlIdentity),
    (12, .word32 value.loadIdentity),
    (16, .word32 value.packageManifestIdentity),
    (20, .word32 value.planIdentity),
    (24, .word32 value.requestEpoch),
    (28, .word32 value.effectiveEpoch),
    (32, .byte value.state.code),
    (33, .byte value.reason.code),
    (36, .word32 value.receiptChecksum)]

def writeKua11 (value : UplinkControlRecord) (output : List UInt8) :
    Except CodecError (List UInt8) := do
  reject (output.length ≠ kua11Length) .length
  checkKua11 value
  pure (sealRecord 124 (kua11Cells value))

def parseKua11 (input : List UInt8) : Except CodecError UplinkControlRecord := do
  reject (input.length ≠ kua11Length) .length
  reject (slice input 0 4 ≠ kua11Magic ∨ readByte input 4 ≠ 11 ∨ read16 input 6 ≠ 128) .enum
  reject (crc32Ieee (slice input 0 124) ≠ read32 input 124) .checksum
  reject (readByte input 34 ≠ 0 ∨ readByte input 35 ≠ 0 ∨ anyNonzero input 40 124) .reserved
  let kind ← UplinkControlKind.parse (readByte input 5)
  let state ← UplinkState.parse (readByte input 32)
  let reason ← UplinkReasonCode.parse (readByte input 33)
  let value : UplinkControlRecord := {
    kind := kind
    controlIdentity := read32 input 8
    loadIdentity := read32 input 12
    packageManifestIdentity := read32 input 16
    planIdentity := read32 input 20
    requestEpoch := read32 input 24
    effectiveEpoch := read32 input 28
    state := state
    reason := reason
    receiptChecksum := read32 input 36 }
  checkKua11 value
  pure value

/-! ## KAL11: action logs -/

def kal11HeaderLength : Nat := 128
def kal11RecordLength : Nat := 64
def kal11Magic : List UInt8 := [0x4b, 0x41, 0x4c, 0x31]

structure ActionLogHeader where
  sessionDefinitionIdentity : UInt32
  transcriptIdentity : UInt32
  packageManifestIdentity : UInt32
  planIdentity : UInt32
  actionCount : UInt32
  finalChain : UInt32
  complete : Bool
deriving DecidableEq

def kal11HeaderCells (value : ActionLogHeader) : Layout :=
  [(0, .bytes kal11Magic),
    (4, .word16 11),
    (6, .word16 128),
    (8, .word32 value.sessionDefinitionIdentity),
    (12, .word32 value.transcriptIdentity),
    (16, .word32 value.packageManifestIdentity),
    (20, .word32 value.planIdentity),
    (24, .word32 value.actionCount),
    (28, .word32 value.finalChain),
    (32, .byte value.complete.toUInt8)]

/-- One error for a string of the wrong length and for an identity of zero. -/
def writeKal11Header (value : ActionLogHeader) (output : List UInt8) :
    Except CodecError (List UInt8) := do
  reject
    (output.length ≠ kal11HeaderLength
      ∨ value.sessionDefinitionIdentity = 0
      ∨ value.transcriptIdentity = 0
      ∨ value.packageManifestIdentity = 0
      ∨ value.planIdentity = 0) .length
  pure (sealRecord 124 (kal11HeaderCells value))

/-- The identities are not checked. -/
def parseKal11Header (input : List UInt8) : Except CodecError ActionLogHeader := do
  reject (input.length ≠ kal11HeaderLength) .length
  reject (slice input 0 4 ≠ kal11Magic ∨ read16 input 4 ≠ 11 ∨ read16 input 6 ≠ 128) .enum
  reject (crc32Ieee (slice input 0 124) ≠ read32 input 124) .checksum
  reject (1 < readByte input 32 ∨ anyNonzero input 33 124) .reserved
  pure {
    sessionDefinitionIdentity := read32 input 8
    transcriptIdentity := read32 input 12
    packageManifestIdentity := read32 input 16
    planIdentity := read32 input 20
    actionCount := read32 input 24
    finalChain := read32 input 28
    complete := readByte input 32 != 0 }

def kal11RecordCells (value : ActionLogRecord) : Layout :=
  [(0, .word32 value.sequence),
    (4, .word32 value.epoch),
    (8, .byte value.role.code),
    (9, .byte value.actionKind.code),
    (10, .byte value.state.code),
    (11, .byte value.reason.code),
    (12, .word32 value.loadIdentity),
    (16, .word32 value.detailIdentity),
    (20, .word16 value.procedureStep),
    (24, .words (i32Words value.arguments)),
    (40, .word32 value.priorChain),
    (44, .word32 value.chain)]

def writeKal11Record (value : ActionLogRecord) (output : List UInt8) :
    Except CodecError (List UInt8) := do
  reject (output.length ≠ kal11RecordLength ∨ value.sequence = 0) .length
  pure (sealRecord 60 (kal11RecordCells value))

def parseKal11Record (input : List UInt8) : Except CodecError ActionLogRecord := do
  reject (input.length ≠ kal11RecordLength) .length
  reject (crc32Ieee (slice input 0 60) ≠ read32 input 60) .checksum
  reject (readByte input 22 ≠ 0 ∨ readByte input 23 ≠ 0 ∨ anyNonzero input 48 60) .reserved
  let role ← OperationalRole.parse (readByte input 8)
  let actionKind ← UplinkControlKind.parse (readByte input 9)
  let state ← UplinkState.parse (readByte input 10)
  let reason ← UplinkReasonCode.parse (readByte input 11)
  let value : ActionLogRecord := {
    sequence := read32 input 0
    epoch := read32 input 4
    role := role
    actionKind := actionKind
    state := state
    reason := reason
    loadIdentity := read32 input 12
    detailIdentity := read32 input 16
    procedureStep := read16 input 20
    arguments := readI32s 4 input 24
    priorChain := read32 input 40
    chain := read32 input 44 }
  reject (value.sequence = 0) .sequence
  pure value

/-! ## KPD11 and KPP11: predictions and their paths -/

def kpd11Length : Nat := 256
def kpd11Magic : List UInt8 := [0x4b, 0x50, 0x44, 0x31]

def kpd11Cells (value : PredictionSummary) : Layout :=
  [(0, .bytes kpd11Magic),
    (4, .byte 11),
    (5, .byte value.product.code),
    (6, .word16 256),
    (8, .word32 value.predictionIdentity),
    (12, .word32 value.modelIdentity),
    (16, .word32 value.sourceEstimateIdentity),
    (20, .word32 value.sourceEstimateChecksum),
    (24, .word32 value.packageManifestIdentity),
    (28, .word32 value.planIdentity),
    (32, .word32 value.sourceEpoch),
    (36, .word32 value.generationEpoch),
    (40, .word32 value.validUntilEpoch),
    (44, .byte value.frame.code),
    (45, .byte value.terminalReason.code),
    (48, .word32 value.apogeeQ12Km.toUInt32),
    (52, .word32 value.perigeeQ12Km.toUInt32),
    (56, .word32 value.timeToApogeeQ16),
    (60, .word32 value.timeToImpactQ16),
    -- the source writes these two axis by axis, in one loop
    (64, .words (i32Words value.impactPositionQ12Km)),
    (76, .words value.transitionEpochs.toList),
    (88, .word32 value.assumptions),
    (92, .word32 value.predictionChecksum)]

def writeKpd11 (value : PredictionSummary) (output : List UInt8) :
    Except CodecError (List UInt8) := do
  reject
    (output.length ≠ kpd11Length
      ∨ value.predictionIdentity = 0
      ∨ value.modelIdentity = 0
      ∨ value.sourceEstimateIdentity = 0
      ∨ value.packageManifestIdentity = 0
      ∨ value.planIdentity = 0
      ∨ value.validUntilEpoch < value.generationEpoch) .length
  pure (sealRecord 252 (kpd11Cells value))

def parseKpd11 (input : List UInt8) : Except CodecError PredictionSummary := do
  reject (input.length ≠ kpd11Length) .length
  reject (slice input 0 4 ≠ kpd11Magic ∨ readByte input 4 ≠ 11 ∨ read16 input 6 ≠ 256) .enum
  reject (crc32Ieee (slice input 0 252) ≠ read32 input 252) .checksum
  reject (readByte input 46 ≠ 0 ∨ readByte input 47 ≠ 0 ∨ anyNonzero input 96 252) .reserved
  let product ← PredictionProductKind.parse (readByte input 5)
  let frame ← parseGlobalFrame (readByte input 44)
  let terminalReason ← PredictionTerminalReason.parse (readByte input 45)
  let value : PredictionSummary := {
    predictionIdentity := read32 input 8
    modelIdentity := read32 input 12
    product := product
    sourceEstimateIdentity := read32 input 16
    sourceEstimateChecksum := read32 input 20
    packageManifestIdentity := read32 input 24
    planIdentity := read32 input 28
    sourceEpoch := read32 input 32
    generationEpoch := read32 input 36
    validUntilEpoch := read32 input 40
    frame := frame
    terminalReason := terminalReason
    apogeeQ12Km := (read32 input 48).toInt32
    perigeeQ12Km := (read32 input 52).toInt32
    timeToApogeeQ16 := read32 input 56
    timeToImpactQ16 := read32 input 60
    impactPositionQ12Km := readI32s 3 input 64
    transitionEpochs := readU32s 3 input 76
    assumptions := read32 input 88
    predictionChecksum := read32 input 92 }
  reject
    (value.predictionIdentity = 0
      ∨ value.modelIdentity = 0
      ∨ value.sourceEstimateIdentity = 0
      ∨ value.packageManifestIdentity = 0
      ∨ value.planIdentity = 0
      ∨ value.validUntilEpoch < value.generationEpoch) .flags
  pure value

def kpp11HeaderLength : Nat := 128
def kpp11PointLength : Nat := 32
def kpp11Magic : List UInt8 := [0x4b, 0x50, 0x50, 0x31]

structure PredictionPathHeader where
  pathIdentity : UInt32
  modelIdentity : UInt32
  product : PredictionProductKind
  sourceEstimateIdentity : UInt32
  sourceEstimateChecksum : UInt32
  packageManifestIdentity : UInt32
  planIdentity : UInt32
  sourceEpoch : UInt32
  generationEpoch : UInt32
  pointCount : UInt16
  cadenceReleases : UInt16
  terminalReason : PredictionTerminalReason
  pathChecksum : UInt32
deriving DecidableEq

def kpp11HeaderCells (value : PredictionPathHeader) : Layout :=
  [(0, .bytes kpp11Magic),
    (4, .byte 11),
    (5, .byte value.product.code),
    (6, .word16 128),
    (8, .word32 value.pathIdentity),
    (12, .word32 value.modelIdentity),
    (16, .word32 value.sourceEstimateIdentity),
    (20, .word32 value.sourceEstimateChecksum),
    (24, .word32 value.packageManifestIdentity),
    (28, .word32 value.planIdentity),
    (32, .word32 value.sourceEpoch),
    (36, .word32 value.generationEpoch),
    (40, .word16 value.pointCount),
    (42, .word16 value.cadenceReleases),
    (44, .byte value.terminalReason.code),
    (48, .word32 value.pathChecksum)]

def writeKpp11Header (value : PredictionPathHeader) (output : List UInt8) :
    Except CodecError (List UInt8) := do
  reject
    (output.length ≠ kpp11HeaderLength
      ∨ value.pathIdentity = 0
      ∨ value.modelIdentity = 0
      ∨ value.sourceEstimateIdentity = 0
      ∨ value.packageManifestIdentity = 0
      ∨ value.planIdentity = 0
      ∨ value.pointCount = 0
      ∨ value.cadenceReleases = 0) .length
  pure (sealRecord 124 (kpp11HeaderCells value))

/-- Neither the identities nor the counts are checked. -/
def parseKpp11Header (input : List UInt8) : Except CodecError PredictionPathHeader := do
  reject (input.length ≠ kpp11HeaderLength) .length
  reject (slice input 0 4 ≠ kpp11Magic ∨ readByte input 4 ≠ 11 ∨ read16 input 6 ≠ 128) .enum
  reject (crc32Ieee (slice input 0 124) ≠ read32 input 124) .checksum
  reject
    (readByte input 45 ≠ 0 ∨ readByte input 46 ≠ 0 ∨ readByte input 47 ≠ 0
      ∨ anyNonzero input 52 124) .reserved
  let product ← PredictionProductKind.parse (readByte input 5)
  let terminalReason ← PredictionTerminalReason.parse (readByte input 44)
  pure {
    pathIdentity := read32 input 8
    modelIdentity := read32 input 12
    product := product
    sourceEstimateIdentity := read32 input 16
    sourceEstimateChecksum := read32 input 20
    packageManifestIdentity := read32 input 24
    planIdentity := read32 input 28
    sourceEpoch := read32 input 32
    generationEpoch := read32 input 36
    pointCount := read16 input 40
    cadenceReleases := read16 input 42
    terminalReason := terminalReason
    pathChecksum := read32 input 48 }

structure PredictionPathPoint where
  epoch : UInt32
  frame : GlobalFrameId
  flags : UInt8
  positionQ12Km : Vector Int32 3
  altitudeQ12Km : Int32
  downrangeQ12Km : Int32
  crossrangeQ12Km : Int32
deriving DecidableEq

def kpp11PointCells (value : PredictionPathPoint) : Layout :=
  [(0, .word32 value.epoch),
    (4, .byte value.frame.code),
    (5, .byte value.flags),
    (8, .words (i32Words value.positionQ12Km)),
    (20, .word32 value.altitudeQ12Km.toUInt32),
    (24, .word32 value.downrangeQ12Km.toUInt32),
    (28, .word32 value.crossrangeQ12Km.toUInt32)]

/-- A point carries no checksum. -/
def writeKpp11Point (value : PredictionPathPoint) (output : List UInt8) :
    Except CodecError (List UInt8) := do
  reject (output.length ≠ kpp11PointLength ∨ value.flags &&& ~~~3 ≠ 0) .length
  pure (Layout.fill 32 (kpp11PointCells value))

def parseKpp11Point (input : List UInt8) : Except CodecError PredictionPathPoint := do
  reject (input.length ≠ kpp11PointLength) .length
  reject
    (readByte input 6 ≠ 0 ∨ readByte input 7 ≠ 0 ∨ readByte input 5 &&& ~~~3 ≠ 0) .reserved
  let frame ← parseGlobalFrame (readByte input 4)
  pure {
    epoch := read32 input 0
    frame := frame
    flags := readByte input 5
    positionQ12Km := readI32s 3 input 8
    altitudeQ12Km := (read32 input 20).toInt32
    downrangeQ12Km := (read32 input 24).toInt32
    crossrangeQ12Km := (read32 input 28).toInt32 }

/-! ## KGO11 and KGE11: ground products -/

def kgo11Magic : List UInt8 := [0x4b, 0x47, 0x4f, 0x31]
def kge11Magic : List UInt8 := [0x4b, 0x47, 0x45, 0x31]

/-- What the two ground products share on the wire. -/
def groundCells (magic : List UInt8) (identities : Vector UInt32 3) (epochs : Vector UInt32 2)
    (frame : GlobalFrameId) (flags : UInt8) (position velocity : Vector Int32 3)
    (first : Vector UInt32 3) (second : Vector Int32 3) (checksum : UInt32) : Layout :=
  [(0, .bytes magic),
    (4, .byte 11),
    (5, .byte flags),
    (6, .word16 128),
    (8, .word32 identities[0]),
    (12, .word32 identities[1]),
    (16, .word32 identities[2]),
    (20, .word32 epochs[0]),
    (24, .word32 epochs[1]),
    (28, .byte frame.code),
    -- the source writes these four axis by axis, in one loop
    (32, .words (i32Words position)),
    (44, .words (i32Words velocity)),
    (56, .words first.toList),
    (68, .words (i32Words second)),
    (80, .word32 checksum)]

def writeGroundCommon (magic : List UInt8) (identities : Vector UInt32 3)
    (epochs : Vector UInt32 2) (frame : GlobalFrameId) (flags : UInt8)
    (position velocity : Vector Int32 3) (first : Vector UInt32 3) (second : Vector Int32 3)
    (checksum : UInt32) (output : List UInt8) : Except CodecError (List UInt8) := do
  reject
    (output.length ≠ 128 ∨ identities[0] = 0 ∨ identities[1] = 0 ∨ flags &&& ~~~3 ≠ 0) .length
  pure (sealRecord 124
    (groundCells magic identities epochs frame flags position velocity first second checksum))

def checkGroundCommon (input magic : List UInt8) : Except CodecError Unit := do
  reject (input.length ≠ 128) .length
  reject (slice input 0 4 ≠ magic ∨ readByte input 4 ≠ 11 ∨ read16 input 6 ≠ 128) .enum
  reject (crc32Ieee (slice input 0 124) ≠ read32 input 124) .checksum
  reject
    (readByte input 29 ≠ 0 ∨ readByte input 30 ≠ 0 ∨ readByte input 31 ≠ 0
      ∨ readByte input 5 &&& ~~~3 ≠ 0 ∨ anyNonzero input 84 124) .reserved

def writeKgo11 (value : GroundTrackingObservation) (output : List UInt8) :
    Except CodecError (List UInt8) :=
  writeGroundCommon kgo11Magic #v[value.sourceIdentity, value.observationIdentity, 0]
    #v[value.measurementEpoch, value.receiptEpoch] value.frame value.validity
    value.positionQ12Km value.velocityQ24KmS value.uncertaintyQ16 (Vector.replicate 3 0)
    value.observationChecksum output

/-- The third identity and the second triple, which an observation does not use, are not
read. -/
def parseKgo11 (input : List UInt8) : Except CodecError GroundTrackingObservation := do
  checkGroundCommon input kgo11Magic
  let frame ← parseGlobalFrame (readByte input 28)
  pure {
    sourceIdentity := read32 input 8
    observationIdentity := read32 input 12
    measurementEpoch := read32 input 20
    receiptEpoch := read32 input 24
    frame := frame
    validity := readByte input 5
    positionQ12Km := readI32s 3 input 32
    velocityQ24KmS := readI32s 3 input 44
    uncertaintyQ16 := readU32s 3 input 56
    observationChecksum := read32 input 80 }

def writeKge11 (value : GroundEstimate) (output : List UInt8) :
    Except CodecError (List UInt8) :=
  writeGroundCommon kge11Magic
    #v[value.estimatorIdentity, value.estimateIdentity, value.sourceObservationIdentity]
    #v[value.measurementEpoch, value.productionEpoch] value.frame value.flags
    value.positionQ12Km value.velocityQ24KmS value.confidenceQ16 value.residualQ16
    value.estimatorChecksum output

def parseKge11 (input : List UInt8) : Except CodecError GroundEstimate := do
  checkGroundCommon input kge11Magic
  let frame ← parseGlobalFrame (readByte input 28)
  pure {
    estimatorIdentity := read32 input 8
    estimateIdentity := read32 input 12
    sourceObservationIdentity := read32 input 16
    measurementEpoch := read32 input 20
    productionEpoch := read32 input 24
    frame := frame
    flags := readByte input 5
    positionQ12Km := readI32s 3 input 32
    velocityQ24KmS := readI32s 3 input 44
    confidenceQ16 := readU32s 3 input 56
    residualQ16 := readI32s 3 input 68
    estimatorChecksum := read32 input 80 }

/-! ## KEJ11: the event journal -/

def kej11Length : Nat := 64

def kej11Cells (value : EventJournalRecord) : Layout :=
  [(0, .word32 value.sequence),
    (4, .word32 value.epoch),
    (8, .byte value.kind.code),
    (9, .byte value.flags),
    (12, .word32 value.primaryIdentity),
    (16, .word32 value.secondaryIdentity),
    (20, .words (i32Words value.arguments)),
    (36, .word32 value.priorChain),
    (40, .word32 value.chain)]

def writeKej11 (value : EventJournalRecord) (output : List UInt8) :
    Except CodecError (List UInt8) := do
  reject (output.length ≠ kej11Length ∨ value.sequence = 0 ∨ value.flags &&& ~~~3 ≠ 0) .length
  pure (sealRecord 60 (kej11Cells value))

def parseKej11 (input : List UInt8) : Except CodecError EventJournalRecord := do
  reject (input.length ≠ kej11Length) .length
  reject (crc32Ieee (slice input 0 60) ≠ read32 input 60) .checksum
  reject
    (readByte input 10 ≠ 0 ∨ readByte input 11 ≠ 0 ∨ readByte input 9 &&& ~~~3 ≠ 0
      ∨ anyNonzero input 44 60) .reserved
  let kind ← JournalEventKind.parse (readByte input 8)
  let value : EventJournalRecord := {
    sequence := read32 input 0
    epoch := read32 input 4
    kind := kind
    flags := readByte input 9
    primaryIdentity := read32 input 12
    secondaryIdentity := read32 input 16
    arguments := readI32s 4 input 20
    priorChain := read32 input 36
    chain := read32 input 40 }
  reject (value.sequence = 0) .sequence
  pure value

end Ksa64.Interface
