import Ksa64.Library.Vectors
import Ksa64.Interface.Phase10
import Ksa64.Interface.Realtime
import Ksa64.Interface.Records

/-!
# The KLR10 codec

The cells of global flight on the wire: a sync word, the version and the kind of the cell, its fields
at fixed offsets, and a checksum.  The parsers check the kind, the checksum and the reserved bytes,
and take any value for the others.
-/

namespace Ksa64.Interface

open Ksa64.Library

def klr10Sync : List UInt8 := [0xda, 0x5a]
def globalFastSensorLength : Nat := 64
def globalAidFrameLength : Nat := 96
def globalTransitionLength : Nat := 192
def globalCommandLength : Nat := 64
def globalStatusLength : Nat := 96
def globalFastValidMask : UInt8 := 63
def globalAidValidMask : UInt8 := 63
def globalCommandDiscreteMask : UInt8 := 7
def globalCommandFlagMask : UInt8 := 7

def GlobalFrameId.parse (value : UInt8) : Except CodecError GlobalFrameId :=
  match value with
  | 1 => .ok .localEnuV1
  | 2 => .ok .earthFixedEcefV1
  | 3 => .ok .earthInertialEciV1
  | _ => .error .enum

def readI16s (n : Nat) (xs : List UInt8) (off : Nat) : Vector Int16 n :=
  Vector.ofFn fun i ↦ (read16 xs (off + 2 * i)).toInt16

/-- What every cell is checked for. -/
def checkCell (bytes : List UInt8) (length : Nat) (kind : UInt8) : Except CodecError Unit := do
  reject (bytes.length ≠ length) .length
  reject (slice bytes 0 2 ≠ klr10Sync ∨ readByte bytes 2 ≠ 10 ∨ readByte bytes 3 ≠ kind) .enum
  reject (crc16Ccitt (slice bytes 0 (length - 2)) ≠ read16 bytes (length - 2)) .checksum

/-- A cell whose last two bytes, from `n` on, are the checksum of the bytes before. -/
def sealCell (n : Nat) (cells : Layout) : List UInt8 :=
  let output := Layout.fill (n + 2) cells
  splice output n (le16 (crc16Ccitt (output.take n)))

/-- Signed half words, side by side. -/
def i16Bytes {n : Nat} (values : Vector Int16 n) : List UInt8 :=
  values.toList.flatMap fun value ↦ le16 value.toUInt16

/-! ## Fast sensors -/

def fastSensorCells (value : GlobalFastSensorCell) : Layout :=
  [(0, .bytes klr10Sync),
    (2, .byte 10),
    (3, .byte 1),
    (4, .word16 value.session),
    (6, .word16 value.measurementEpoch),
    (8, .word16 value.productionEpoch),
    (10, .byte value.frame.code),
    (11, .byte value.validity),
    (12, .word32 value.missionTimeQ16),
    (16, .bytes (i16Bytes value.deltaVelocityQ24)),
    (22, .bytes (i16Bytes value.deltaAngleQ24)),
    (28, .bytes (i16Bytes value.attitudeVectorQ15)),
    (34, .bytes (i16Bytes value.angularRateQ15)),
    (40, .word32 value.dynamicPressureQ10.toUInt32),
    (44, .word16 value.machQ12.toUInt16),
    (46, .bytes (i16Bytes value.gimbalAppliedQ15)),
    (50, .word32 value.rcsPropellantQ21.toUInt32),
    (54, .word16 value.actuatorFeedback),
    (56, .word16 value.vehicleStatus),
    (58, .word16 value.sensorChecksum)]

/-- The bytes that the writer leaves in an output. -/
def writeGlobalFastSensor (value : GlobalFastSensorCell) (output : List UInt8) :
    Except CodecError (List UInt8) := do
  reject (output.length ≠ globalFastSensorLength
    ∨ value.validity &&& ~~~globalFastValidMask ≠ 0) .flags
  pure (sealCell 62 (fastSensorCells value))

def parseGlobalFastSensor (bytes : List UInt8) : Except CodecError GlobalFastSensorCell := do
  checkCell bytes globalFastSensorLength 1
  reject (readByte bytes 11 &&& ~~~globalFastValidMask ≠ 0
    ∨ readByte bytes 60 ≠ 0 ∨ readByte bytes 61 ≠ 0) .reserved
  let frame ← GlobalFrameId.parse (readByte bytes 10)
  pure
    { session := read16 bytes 4
      measurementEpoch := read16 bytes 6
      productionEpoch := read16 bytes 8
      frame := frame
      validity := readByte bytes 11
      missionTimeQ16 := read32 bytes 12
      deltaVelocityQ24 := readI16s 3 bytes 16
      deltaAngleQ24 := readI16s 3 bytes 22
      attitudeVectorQ15 := readI16s 3 bytes 28
      angularRateQ15 := readI16s 3 bytes 34
      dynamicPressureQ10 := (read32 bytes 40).toInt32
      machQ12 := (read16 bytes 44).toInt16
      gimbalAppliedQ15 := readI16s 2 bytes 46
      rcsPropellantQ21 := (read32 bytes 50).toInt32
      actuatorFeedback := read16 bytes 54
      vehicleStatus := read16 bytes 56
      sensorChecksum := read16 bytes 58 }

/-! ## Aid frames -/

def aidFrameCells (value : GlobalAidFrameCell) : Layout :=
  [(0, .bytes klr10Sync),
    (2, .byte 10),
    (3, .byte 2),
    (4, .word16 value.session),
    (6, .word16 value.measurementEpoch),
    (8, .word16 value.productionEpoch),
    (10, .byte value.frame.code),
    (11, .byte value.validity),
    (12, .word32 value.missionTimeQ16),
    (16, .word32 value.barometerQ12Km.toUInt32),
    (20, .words (i32Words value.gnssPositionQ12Km)),
    (32, .words (i32Words value.gnssVelocityQ24KmS)),
    (44, .words (i32Words value.attitudeQ30)),
    (60, .words (i32Words value.frameRotationQ30)),
    (76, .words (i32Words value.frameOmegaQ24)),
    (88, .word16 value.events),
    (90, .word16 value.continuity),
    (92, .word16 value.deploymentFeedback)]

/-- The bytes that the writer leaves in an output. -/
def writeGlobalAidFrame (value : GlobalAidFrameCell) (output : List UInt8) :
    Except CodecError (List UInt8) := do
  reject (output.length ≠ globalAidFrameLength
    ∨ value.validity &&& ~~~globalAidValidMask ≠ 0) .flags
  pure (sealCell 94 (aidFrameCells value))

def parseGlobalAidFrame (bytes : List UInt8) : Except CodecError GlobalAidFrameCell := do
  checkCell bytes globalAidFrameLength 2
  reject (readByte bytes 11 &&& ~~~globalAidValidMask ≠ 0) .flags
  let frame ← GlobalFrameId.parse (readByte bytes 10)
  pure
    { session := read16 bytes 4
      measurementEpoch := read16 bytes 6
      productionEpoch := read16 bytes 8
      frame := frame
      validity := readByte bytes 11
      missionTimeQ16 := read32 bytes 12
      barometerQ12Km := (read32 bytes 16).toInt32
      gnssPositionQ12Km := readI32s 3 bytes 20
      gnssVelocityQ24KmS := readI32s 3 bytes 32
      attitudeQ30 := readI32s 4 bytes 44
      frameRotationQ30 := readI32s 4 bytes 60
      frameOmegaQ24 := readI32s 3 bytes 76
      events := read16 bytes 88
      continuity := read16 bytes 90
      deploymentFeedback := read16 bytes 92 }

/-! ## Transitions -/

def transitionCells (value : GlobalTransitionCell) : Layout :=
  [(0, .bytes klr10Sync),
    (2, .byte 10),
    (3, .byte 3),
    (4, .word16 value.session),
    (6, .word16 value.sourceEpoch),
    (8, .word16 value.effectiveEpoch),
    (10, .byte value.fromFrame.code),
    (11, .byte value.toFrame.code),
    (12, .word16 value.flags),
    (16, .word32 value.missionTimeQ16),
    (20, .word32 value.transformIdentity),
    (24, .words (i32Words value.rotationQ30)),
    (40, .words (i32Words value.omegaQ24)),
    (52, .words (i32Words value.prePositionQ12)),
    (64, .words (i32Words value.postPositionQ12)),
    (76, .words (i32Words value.preVelocityQ24)),
    (88, .words (i32Words value.postVelocityQ24)),
    (100, .words (i32Words value.preRateQ24)),
    (112, .words (i32Words value.preAttitudeQ30)),
    (128, .words (i32Words value.postAttitudeQ30)),
    (144, .words (i32Words value.postRateQ24)),
    (156, .words (i32Words value.translationQ12)),
    (168, .words (i32Words value.velocityBiasQ24)),
    (180, .word32 value.transitionChecksum)]

/-- The bytes that the writer leaves in an output. -/
def writeGlobalTransition (value : GlobalTransitionCell) (output : List UInt8) :
    Except CodecError (List UInt8) := do
  reject (output.length ≠ globalTransitionLength ∨ value.flags ≠ 0) .flags
  pure (sealCell 190 (transitionCells value))

def parseGlobalTransition (bytes : List UInt8) : Except CodecError GlobalTransitionCell := do
  checkCell bytes globalTransitionLength 3
  reject (readByte bytes 14 ≠ 0 ∨ readByte bytes 15 ≠ 0 ∨ read16 bytes 12 ≠ 0
    ∨ (slice bytes 184 190).any (· != 0)) .reserved
  let fromFrame ← GlobalFrameId.parse (readByte bytes 10)
  let toFrame ← GlobalFrameId.parse (readByte bytes 11)
  pure
    { session := read16 bytes 4
      sourceEpoch := read16 bytes 6
      effectiveEpoch := read16 bytes 8
      fromFrame := fromFrame
      toFrame := toFrame
      flags := 0
      missionTimeQ16 := read32 bytes 16
      transformIdentity := read32 bytes 20
      rotationQ30 := readI32s 4 bytes 24
      omegaQ24 := readI32s 3 bytes 40
      prePositionQ12 := readI32s 3 bytes 52
      postPositionQ12 := readI32s 3 bytes 64
      preVelocityQ24 := readI32s 3 bytes 76
      postVelocityQ24 := readI32s 3 bytes 88
      preAttitudeQ30 := readI32s 4 bytes 112
      postAttitudeQ30 := readI32s 4 bytes 128
      preRateQ24 := readI32s 3 bytes 100
      postRateQ24 := readI32s 3 bytes 144
      translationQ12 := readI32s 3 bytes 156
      velocityBiasQ24 := readI32s 3 bytes 168
      transitionChecksum := read32 bytes 180 }

/-! ## Commands -/

def commandCells (value : GlobalCommandCell) : Layout :=
  [(0, .bytes klr10Sync),
    (2, .byte 10),
    (3, .byte 4),
    (4, .word16 value.session),
    (6, .word16 value.sourceEpoch),
    (8, .word16 value.effectiveEpoch),
    (10, .byte value.frame.code),
    (11, .byte value.flags),
    (12, .byte value.discrete),
    (14, .word16 (getElem value.gimbalQ15 0 Pair.first_lt).toUInt16),
    (16, .word16 (getElem value.gimbalQ15 1 Pair.second_lt).toUInt16),
    (18, .bytes value.rcsPulseQuanta.toList),
    (30, .words (i32Words value.torqueDemandQ12)),
    (42, .word16 value.status),
    (44, .word32 value.commandChecksum)]

/-- The bytes that the writer leaves in an output. -/
def writeGlobalCommand (value : GlobalCommandCell) (output : List UInt8) :
    Except CodecError (List UInt8) := do
  reject (output.length ≠ globalCommandLength
    ∨ value.flags &&& ~~~globalCommandFlagMask ≠ 0
    ∨ value.discrete &&& ~~~globalCommandDiscreteMask ≠ 0
    ∨ value.rcsPulseQuanta.toList.any (8 < ·)) .flags
  pure (sealCell 62 (commandCells value))

def parseGlobalCommand (bytes : List UInt8) : Except CodecError GlobalCommandCell := do
  checkCell bytes globalCommandLength 4
  reject (readByte bytes 11 &&& ~~~globalCommandFlagMask ≠ 0
    ∨ readByte bytes 12 &&& ~~~globalCommandDiscreteMask ≠ 0
    ∨ readByte bytes 13 ≠ 0
    ∨ (slice bytes 18 30).any (8 < ·)
    ∨ (slice bytes 48 62).any (· != 0)) .reserved
  let frame ← GlobalFrameId.parse (readByte bytes 10)
  pure
    { session := read16 bytes 4
      sourceEpoch := read16 bytes 6
      effectiveEpoch := read16 bytes 8
      frame := frame
      flags := readByte bytes 11
      discrete := readByte bytes 12
      gimbalQ15 := readI16s 2 bytes 14
      rcsPulseQuanta := readBytes 12 bytes 18
      torqueDemandQ12 := readI32s 3 bytes 30
      status := read16 bytes 42
      commandChecksum := read32 bytes 44 }

/-- What the writer accepts. -/
structure GlobalCommandCell.Writable (value : GlobalCommandCell) : Prop where
  flags : value.flags &&& ~~~globalCommandFlagMask = 0
  discrete : value.discrete &&& ~~~globalCommandDiscreteMask = 0
  pulses : ∀ quantum ∈ value.rcsPulseQuanta.toList, quantum ≤ 8

theorem writeGlobalCommand_eq_ok {value : GlobalCommandCell} {output bytes : List UInt8} :
    writeGlobalCommand value output = .ok bytes ↔
      output.length = globalCommandLength ∧ value.Writable
        ∧ bytes = sealCell 62 (commandCells value) := by
  unfold writeGlobalCommand
  simp only [bind_eq_ok, reject_eq_ok, pure_eq_ok, exists_const, not_or, not_not, List.any_eq_true,
    decide_eq_true_eq, not_exists, not_and, UInt8.not_lt]
  constructor
  · rintro ⟨⟨hlength, hflags, hdiscrete, hpulses⟩, hbytes⟩
    exact ⟨hlength, ⟨hflags, hdiscrete, hpulses⟩, hbytes.symm⟩
  · rintro ⟨hlength, hwritable, hbytes⟩
    exact ⟨⟨hlength, hwritable.flags, hwritable.discrete, hwritable.pulses⟩, hbytes.symm⟩

/-! ## Statuses -/

def statusCells (value : GlobalStatusCell) : Layout :=
  [(0, .bytes klr10Sync),
    (2, .byte 10),
    (3, .byte 5),
    (4, .word16 value.session),
    (6, .word16 value.sourceEpoch),
    (8, .word16 value.productionEpoch),
    (10, .byte value.frame.code),
    (11, .byte value.mode),
    (12, .word16 value.flags),
    (14, .word16 value.alarms),
    (16, .words (i32Words value.navigationPositionQ12)),
    (28, .words (i32Words value.navigationVelocityQ24)),
    (40, .words (i32Words value.navigationAttitudeQ30)),
    (56, .words (i32Words value.covarianceProxyQ16)),
    (68, .word32 value.sensorChecksum),
    (72, .word32 value.navigationChecksum),
    (76, .word32 value.commandChecksum),
    (80, .word32 value.flightChecksum),
    (84, .word16 value.deadlineMisses),
    (86, .byte value.transitionCount)]

/-- The bytes that the writer leaves in an output. -/
def writeGlobalStatus (value : GlobalStatusCell) (output : List UInt8) :
    Except CodecError (List UInt8) := do
  reject (output.length ≠ globalStatusLength) .length
  pure (sealCell 94 (statusCells value))

def parseGlobalStatus (bytes : List UInt8) : Except CodecError GlobalStatusCell := do
  checkCell bytes globalStatusLength 5
  reject ((slice bytes 87 94).any (· != 0) = true) .reserved
  let frame ← GlobalFrameId.parse (readByte bytes 10)
  pure
    { session := read16 bytes 4
      sourceEpoch := read16 bytes 6
      productionEpoch := read16 bytes 8
      frame := frame
      mode := readByte bytes 11
      flags := read16 bytes 12
      alarms := read16 bytes 14
      navigationPositionQ12 := readI32s 3 bytes 16
      navigationVelocityQ24 := readI32s 3 bytes 28
      navigationAttitudeQ30 := readI32s 4 bytes 40
      covarianceProxyQ16 := readI32s 3 bytes 56
      sensorChecksum := read32 bytes 68
      navigationChecksum := read32 bytes 72
      commandChecksum := read32 bytes 76
      flightChecksum := read32 bytes 80
      deadlineMisses := read16 bytes 84
      transitionCount := readByte bytes 86 }

end Ksa64.Interface
