import Ksa64.Interface.CellCodec
import Ksa64.Session.Phase12b

/-!
# The records of the avionics evaluator

A flight of the avionics evaluator is summed up in a record of 256 bytes.  An archive holds these
records as they are, and asks of each that the parser takes it.  The parser looks at every byte, so
that a record that is taken is spelled in one way.
-/

namespace Ksa64.Host

open Ksa64.Library Ksa64.Interface
open Ksa64.Session (EvaluationOutcome)

def phase85AvionicsContractId : UInt32 := 0x08500001
def kas8Length : Nat := 256
def kas8Magic : List UInt8 := [0x4b, 0x41, 0x53, 0x38]
def kas8Kind : UInt16 := 4

/-- The profile of flights in the local frame, the only one that is summed up so. -/
def localEnu6DofV1 : UInt8 := 4

inductive Phase85ContractError where
  | length
  | magic
  | version
  | kind
  | contract
  | identity
  | reserved
  | checksum
  | enum
  | unsupported
deriving DecidableEq

structure Kas8Record where
  identity : UInt32
  outcome : EvaluationOutcome
  physicalSummaryIdentity : UInt32
  avionicsIdentity : UInt32
  actuatorIdentity : UInt32
  steps : UInt32
  events : UInt32
  selectedMetrics : Vector Int32 8
  maxNavigationErrorQ13 : Int32
  maxAttitudeErrorTurn16 : Int16
  saturationCount : UInt16
  deploymentDecisions : UInt16
  deploymentFeedback : UInt16
  alarms : UInt16
  deadlineMisses : UInt16
  linkLosses : UInt16
  checksumChains : Vector UInt32 6
  terminalPositionQ13 : Vector Int32 3
  terminalVelocityQ19 : Vector Int32 3
deriving DecidableEq

/-- The byte of an outcome. -/
def outcomeByte (outcome : EvaluationOutcome) : UInt8 := outcome.code.toUInt8

def phase85Outcome (value : UInt8) : Except Phase85ContractError EvaluationOutcome :=
  match value with
  | 0 => pure .complete
  | 1 => pure .stableOrbit
  | 2 => pure .completeNotOrbit
  | 3 => pure .groundContact
  | 4 => pure .aborted
  | 5 => pure .numericFault
  | 6 => pure .stepLimit
  | 7 => pure .noLiftoff
  | 8 => pure .configurationFault
  | 9 => pure .recoveryIncomplete
  | 10 => pure .modelEnvelopeExceeded
  | _ => throw .enum

/-- What every record of the contract is checked for. -/
def validateRecord (b magic : List UInt8) (kind : UInt16) (length : Nat) :
    Except Phase85ContractError UInt32 := do
  reject (b.length ≠ length) .length
  reject (slice b 0 4 ≠ magic) .magic
  reject (read16 b 4 ≠ 8 ∨ read16 b 6 ≠ 32) .version
  reject ((read16 b 8).toNat ≠ length ∨ read16 b 10 ≠ kind) .kind
  reject (read32 b 12 ≠ phase85AvionicsContractId) .contract
  reject (anyNonzero b 20 32) .reserved
  let identity := read32 b 16
  reject (identity = 0) .identity
  reject (crc32Ieee (slice b 0 (length - 4)) ≠ read32 b (length - 4)) .checksum
  pure identity

def parseAvionicsSummary (input : List UInt8) : Except Phase85ContractError Kas8Record := do
  let identity ← validateRecord input kas8Magic kas8Kind kas8Length
  reject (readByte input 34 ≠ 0 ∨ readByte input 35 ≠ 0 ∨ readByte input 106 ≠ 0
    ∨ readByte input 107 ≠ 0) .reserved
  reject (anyNonzero input 156 252) .reserved
  reject (readByte input 32 ≠ localEnu6DofV1) .unsupported
  let outcome ← phase85Outcome (readByte input 33)
  pure
    { identity := identity
      outcome := outcome
      physicalSummaryIdentity := read32 input 36
      avionicsIdentity := read32 input 40
      actuatorIdentity := read32 input 44
      steps := read32 input 48
      events := read32 input 52
      selectedMetrics := readI32s 8 input 56
      maxNavigationErrorQ13 := (read32 input 88).toInt32
      maxAttitudeErrorTurn16 := (read16 input 92).toInt16
      saturationCount := read16 input 94
      deploymentDecisions := read16 input 96
      deploymentFeedback := read16 input 98
      alarms := read16 input 100
      deadlineMisses := read16 input 102
      linkLosses := read16 input 104
      checksumChains := readU32s 6 input 108
      terminalPositionQ13 := readI32s 3 input 132
      terminalVelocityQ19 := readI32s 3 input 144 }

/-- Where the fields of a record stand. -/
def Kas8Record.cells (r : Kas8Record) : Layout :=
  [(0, .bytes kas8Magic),
    (4, .word16 8),
    (6, .word16 32),
    (8, .word16 256),
    (10, .word16 kas8Kind),
    (12, .word32 phase85AvionicsContractId),
    (16, .word32 r.identity),
    (32, .byte localEnu6DofV1),
    (33, .byte (outcomeByte r.outcome)),
    (36, .word32 r.physicalSummaryIdentity),
    (40, .word32 r.avionicsIdentity),
    (44, .word32 r.actuatorIdentity),
    (48, .word32 r.steps),
    (52, .word32 r.events),
    (56, .words (i32Words r.selectedMetrics)),
    (88, .word32 r.maxNavigationErrorQ13.toUInt32),
    (92, .word16 r.maxAttitudeErrorTurn16.toUInt16),
    (94, .word16 r.saturationCount),
    (96, .word16 r.deploymentDecisions),
    (98, .word16 r.deploymentFeedback),
    (100, .word16 r.alarms),
    (102, .word16 r.deadlineMisses),
    (104, .word16 r.linkLosses),
    (108, .words r.checksumChains.toList),
    (132, .words (i32Words r.terminalPositionQ13)),
    (144, .words (i32Words r.terminalVelocityQ19))]

/-! ## Writing -/

inductive ModelProfileId where
  | legacyKsa2PlanarV1
  | legacyKsa5SpatialV1
  | hobbyVerticalV1
  | hobbySpatialV1
  | globalEcef6DofV1
deriving DecidableEq

/-- What an evaluator measures, in the order of the table. -/
inductive MetricSlot where
  | perigeeAltitude
  | apogeeAltitude
  | inclination
  | maxDynamicPressure
  | maxAcceleration
  | maxSpeed
  | maxMach
  | railExitTime
  | railExitVelocity
  | burnoutTime
  | burnoutAltitude
  | burnoutVelocity
  | apogeeTime
  | drogueTime
  | drogueAltitude
  | drogueVelocity
  | mainTime
  | mainAltitude
  | mainVelocity
  | maxOpeningDeceleration
  | groundContactTime
  | impactVelocity
  | maxNavigationError
  | terminalMass
  | minimumStaticMargin
  | maximumAngleOfAttack
  | maximumAngularRate
  | maximumLateralAcceleration
  | landingDistance
  | railExitStaticMargin
  | burnoutStaticMargin
  | maximumWindSpeed
deriving DecidableEq

def MetricSlot.index (slot : MetricSlot) : Nat := slot.ctorIdx

/-- The result of an evaluator. -/
structure EvaluationSummary where
  profile : ModelProfileId
  outcome : EvaluationOutcome
  steps : UInt32
  metricValidity : UInt32
  terminalStateA : Vector Int32 3
  terminalStateB : Vector Int32 3
  metrics : Vector Int32 32
  events : UInt32
deriving DecidableEq

def EvaluationSummary.metric (summary : EvaluationSummary) (slot : MetricSlot) : Option Int32 :=
  if summary.metricValidity &&& (1 <<< UInt32.ofNat slot.index) ≠ 0 then some summary.metrics[slot.index]!
  else none

structure AvionicsEvaluationSummary where
  physical : EvaluationSummary
  physicalSummaryIdentity : UInt32
  avionicsIdentity : UInt32
  actuatorIdentity : UInt32
  maxNavigationErrorQ13 : Int32
  maxAttitudeErrorTurn16 : Int16
  saturationCount : UInt16
  deploymentDecisions : UInt16
  deploymentFeedback : UInt16
  alarms : UInt16
  deadlineMisses : UInt16
  linkLosses : UInt16
  checksumChains : Vector UInt32 6
deriving DecidableEq

/-- The metrics that a record holds. -/
def recordedSlots : List MetricSlot :=
  [.apogeeAltitude, .maxDynamicPressure, .maxAcceleration, .maxSpeed, .maximumAngleOfAttack,
    .landingDistance, .drogueTime, .mainTime]

namespace AvionicsEvaluationSummary

/-- The record of a flight.  A metric that there is not is the least number. -/
def record (value : AvionicsEvaluationSummary) : Kas8Record where
  identity := max 1 (value.checksumChains.toList.foldl (fun hash word ↦ rotateLeft32 hash 5 ^^^ word)
    value.physicalSummaryIdentity)
  outcome := value.physical.outcome
  physicalSummaryIdentity := value.physicalSummaryIdentity
  avionicsIdentity := value.avionicsIdentity
  actuatorIdentity := value.actuatorIdentity
  steps := value.physical.steps
  events := value.physical.events
  selectedMetrics := Vector.ofFn fun i ↦
    (value.physical.metric (recordedSlots.getD i.val .apogeeAltitude)).getD Int32.minValue
  maxNavigationErrorQ13 := value.maxNavigationErrorQ13
  maxAttitudeErrorTurn16 := value.maxAttitudeErrorTurn16
  saturationCount := value.saturationCount
  deploymentDecisions := value.deploymentDecisions
  deploymentFeedback := value.deploymentFeedback
  alarms := value.alarms
  deadlineMisses := value.deadlineMisses
  linkLosses := value.linkLosses
  checksumChains := value.checksumChains
  terminalPositionQ13 := value.physical.terminalStateA
  terminalVelocityQ19 := value.physical.terminalStateB

/-- A flight that can be summed up. -/
structure Writable (value : AvionicsEvaluationSummary) : Prop where
  profile : value.physical.profile = .hobbySpatialV1
  physical : value.physicalSummaryIdentity ≠ 0
  avionics : value.avionicsIdentity ≠ 0
  actuator : value.actuatorIdentity ≠ 0

end AvionicsEvaluationSummary

def writeAvionicsSummary (value : AvionicsEvaluationSummary) (output : List UInt8) :
    Except Phase85ContractError (List UInt8) := do
  reject (value.physical.profile ≠ .hobbySpatialV1 ∨ value.physicalSummaryIdentity = 0
    ∨ value.avionicsIdentity = 0 ∨ value.actuatorIdentity = 0) .identity
  reject (output.length ≠ kas8Length) .length
  pure (sealRecord 252 value.record.cells)

section Canonical

variable {input : List UInt8} {r : Kas8Record}

@[simp] theorem length_kas8Magic : kas8Magic.length = 4 := rfl

@[simp] theorem phase85Outcome_eq_ok {value : UInt8} {outcome : EvaluationOutcome} :
    phase85Outcome value = .ok outcome ↔ outcomeByte outcome = value := by
  constructor
  · intro h
    unfold phase85Outcome at h
    split at h <;> cases h <;> rfl
  · rintro rfl
    cases outcome <;> rfl

theorem fits_kas8 (r : Kas8Record) : Layout.Fits 252 0 r.cells := by
  simp [Kas8Record.cells]

/-- A string is taken for a record exactly if it is the record's spelling, and it has an identity. -/
theorem parseAvionicsSummary_eq_ok :
    parseAvionicsSummary input = .ok r ↔ r.identity ≠ 0 ∧ input = sealRecord 252 r.cells := by
  rw [eq_sealRecord_iff (fits_kas8 r)]
  simp only [parseAvionicsSummary, validateRecord, bind_eq_ok, reject_eq_ok, pure_eq_ok, exists_const,
    not_or, not_not, Bool.not_eq_true, anyNonzero_eq_false, phase85Outcome_eq_ok]
  constructor
  · rintro ⟨identity, ⟨hlen, hmagic, ⟨hversion, hheader⟩, ⟨hlength, hkind⟩, hcontract, hzero, hidentity,
      hcrc, rfl⟩, ⟨h34, h35, h106, h107⟩, hrest, hprofile, outcome, houtcome, rfl⟩
    have hlength : read16 input 8 = 256 := UInt16.toNat_inj.mp hlength
    refine ⟨hidentity, hlen, hcrc, ?_⟩
    simp [Kas8Record.cells, hmagic, hversion, hheader, hlength, hkind, hcontract, hzero, hprofile,
      houtcome, h34, h35, h106, h107, hrest]
  · rintro ⟨hidentity, hlen, hcrc, hreads⟩
    simp [Kas8Record.cells, eq_toUInt32_iff, eq_toUInt16_iff] at hreads
    refine ⟨r.identity, ⟨hlen, ?_, ?_, ?_, ?_, ?_, ?_, hcrc, ?_⟩, ?_, ?_, ?_, r.outcome, ?_, ?_⟩ <;>
      simp [hreads, hidentity, kas8Length]

theorem writeAvionicsSummary_eq_ok {value : AvionicsEvaluationSummary} {output bytes : List UInt8} :
    writeAvionicsSummary value output = .ok bytes ↔
      value.Writable ∧ output.length = kas8Length ∧ bytes = sealRecord 252 value.record.cells := by
  unfold writeAvionicsSummary
  simp only [bind_eq_ok, reject_eq_ok, pure_eq_ok, exists_const, not_or, not_not]
  constructor
  · rintro ⟨⟨hprofile, hphysical, havionics, hactuator⟩, hlength, hbytes⟩
    exact ⟨⟨hprofile, hphysical, havionics, hactuator⟩, hlength, hbytes.symm⟩
  · rintro ⟨⟨hprofile, hphysical, havionics, hactuator⟩, hlength, hbytes⟩
    exact ⟨⟨hprofile, hphysical, havionics, hactuator⟩, hlength, hbytes.symm⟩

/-- The record of a flight has an identity. -/
theorem identity_record (value : AvionicsEvaluationSummary) : value.record.identity ≠ 0 := by
  have hpos : ∀ hash : UInt32, max 1 hash ≠ 0 := by
    intro hash
    show (if 1 ≤ hash then hash else 1) ≠ 0
    split_ifs with hle
    · rintro rfl
      exact absurd hle (by decide)
    · decide
  exact hpos _

/-- **Records of flights.**  What is written of a flight that can be summed up is what the parser takes
for its record, and nothing else is. -/
theorem writeAvionicsSummary_iff_parse (value : AvionicsEvaluationSummary) (output bytes : List UInt8) :
    writeAvionicsSummary value output = .ok bytes ↔
      value.Writable ∧ output.length = kas8Length ∧ parseAvionicsSummary bytes = .ok value.record := by
  rw [writeAvionicsSummary_eq_ok, parseAvionicsSummary_eq_ok]
  exact and_congr_right fun _ ↦ and_congr_right fun _ ↦ (and_iff_right (identity_record value)).symm

end Canonical

end Ksa64.Host
