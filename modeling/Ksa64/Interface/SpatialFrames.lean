import Ksa64.Interface.EarlierCells
import Ksa64.Interface.Records

/-!
# The spatial frames

The sensor frame and the actuator command of Phase 5, with their codecs.
-/

namespace Ksa64.Interface

open Ksa64.Library

inductive StagePhase where
  | coastBeforeIgnition
  | burning
  | coastBeforeSeparation
  | complete
deriving DecidableEq, Repr

inductive EngineAction where
  | hold
  | ignite
  | cutoff
deriving DecidableEq, Repr

inductive FlightMode where
  | boot
  | prelaunch
  | programmedAscent
  | stageTransition
  | insertion
  | coast
  | complete
  | abort
deriving DecidableEq, Repr

def StagePhase.code : StagePhase → UInt8
  | .coastBeforeIgnition => 0
  | .burning => 1
  | .coastBeforeSeparation => 2
  | .complete => 3

def EngineAction.code : EngineAction → UInt8
  | .hold => 0
  | .ignite => 1
  | .cutoff => 2

def FlightMode.code : FlightMode → UInt8
  | .boot => 0
  | .prelaunch => 1
  | .programmedAscent => 2
  | .stageTransition => 3
  | .insertion => 4
  | .coast => 5
  | .complete => 6
  | .abort => 7

def alarmSensorFrame : UInt16 := 1
def alarmNavigation : UInt16 := 2
def alarmSteering : UInt16 := 4
def alarmAbort : UInt16 := 8
def alarmCommandRejected : UInt16 := 16

def spatialSensorFrameLength : Nat := 128
def spatialActuatorCommandLength : Nat := 32

def sensorValidImu : UInt16 := 1
def sensorValidBarometer : UInt16 := 2
def sensorValidGps : UInt16 := 4
def sensorValidStarTracker : UInt16 := 8
def sensorValidClock : UInt16 := 16
def sensorValidActuator : UInt16 := 32
def sensorValidMask : UInt16 := 63
def eventMask : UInt16 := 4095

structure SpatialSensorFrame where
  sequence : UInt32
  onboardTimeQ16 : Int32
  validity : UInt16
  events : UInt16
  accelBodyQ28 : Vector Int32 3
  gyroBodyQ24 : Vector Int32 3
  baroAltitudeQ12 : Int32
  gpsPositionQ12 : Vector Int32 3
  gpsVelocityQ24 : Vector Int32 3
  starAttitudeQ30 : Vector Int32 4
  gimbalAppliedQ16 : Vector Int32 2
  rcsPropellantQ12 : Int32
  activeStage : UInt8
  stagePhase : StagePhase
  engineOn : Bool
deriving DecidableEq

structure SpatialActuatorCommand where
  sequence : UInt32
  gimbalQ16 : Vector Int32 2
  rcsQ15 : Vector Int32 3
  engineAction : EngineAction
  separate : Bool
  abortSafeing : Bool
deriving DecidableEq

/-- The command that does nothing. -/
def SpatialActuatorCommand.safe (sequence : UInt32) : SpatialActuatorCommand where
  sequence := sequence
  gimbalQ16 := Pair.of 0 0
  rcsQ15 := Axes.all 0
  engineAction := .cutoff
  separate := false
  abortSafeing := true

/-! ## Codecs -/

def parseSpatialBool (value : UInt8) : Except CodecError Bool :=
  if value = 0 then .ok false else if value = 1 then .ok true else .error .enum

def parseStage (value : UInt8) : Except CodecError StagePhase :=
  if value = 0 then .ok .coastBeforeIgnition
  else if value = 1 then .ok .burning
  else if value = 2 then .ok .coastBeforeSeparation
  else if value = 3 then .ok .complete
  else .error .enum

def parseEngine (value : UInt8) : Except CodecError EngineAction :=
  if value = 0 then .ok .hold
  else if value = 1 then .ok .ignite
  else if value = 2 then .ok .cutoff
  else .error .enum

def boolByte (value : Bool) : UInt8 := if value then 1 else 0

def spatialSensorCells (frame : SpatialSensorFrame) : Layout :=
  [(0, .word32 frame.sequence),
    (4, .word32 frame.onboardTimeQ16.toUInt32),
    (8, .word16 frame.validity),
    (10, .word16 frame.events),
    (12, .words (i32Words frame.accelBodyQ28)),
    (24, .words (i32Words frame.gyroBodyQ24)),
    (36, .word32 frame.baroAltitudeQ12.toUInt32),
    (40, .words (i32Words frame.gpsPositionQ12)),
    (52, .words (i32Words frame.gpsVelocityQ24)),
    (64, .words (i32Words frame.starAttitudeQ30)),
    (80, .words (i32Words frame.gimbalAppliedQ16)),
    (88, .word32 frame.rcsPropellantQ12.toUInt32),
    (92, .byte frame.activeStage),
    (93, .byte frame.stagePhase.code),
    (94, .byte (boolByte frame.engineOn))]

def writeSpatialSensorFrame (frame : SpatialSensorFrame) (out : List UInt8) :
    Except CodecError (List UInt8) := do
  reject (out.length ≠ spatialSensorFrameLength) .length
  reject (frame.validity &&& ~~~sensorValidMask ≠ 0 ∨ frame.events &&& ~~~eventMask ≠ 0) .flags
  pure (sealRecord 124 (spatialSensorCells frame))

def parseSpatialSensorFrame (bytes : List UInt8) : Except CodecError SpatialSensorFrame := do
  reject (bytes.length ≠ spatialSensorFrameLength) .length
  reject (read32 bytes 124 ≠ crc32Ieee (slice bytes 0 124)) .checksum
  reject ((slice bytes 95 124).any (· != 0)) .reserved
  let validity := read16 bytes 8
  let events := read16 bytes 10
  reject (validity &&& ~~~sensorValidMask ≠ 0 ∨ events &&& ~~~eventMask ≠ 0) .flags
  let stagePhase ← parseStage (readByte bytes 93)
  let engineOn ← parseSpatialBool (readByte bytes 94)
  pure {
    sequence := read32 bytes 0
    onboardTimeQ16 := (read32 bytes 4).toInt32
    validity := validity
    events := events
    accelBodyQ28 := readI32s 3 bytes 12
    gyroBodyQ24 := readI32s 3 bytes 24
    baroAltitudeQ12 := (read32 bytes 36).toInt32
    gpsPositionQ12 := readI32s 3 bytes 40
    gpsVelocityQ24 := readI32s 3 bytes 52
    starAttitudeQ30 := readI32s 4 bytes 64
    gimbalAppliedQ16 := readI32s 2 bytes 80
    rcsPropellantQ12 := (read32 bytes 88).toInt32
    activeStage := readByte bytes 92
    stagePhase := stagePhase
    engineOn := engineOn }

def spatialActuatorCells (command : SpatialActuatorCommand) : Layout :=
  [(0, .word32 command.sequence),
    (4, .words (i32Words command.gimbalQ16)),
    (12, .words (i32Words command.rcsQ15)),
    (24, .byte command.engineAction.code),
    (25, .byte (boolByte command.separate)),
    (26, .byte (boolByte command.abortSafeing))]

def writeSpatialActuatorCommand (command : SpatialActuatorCommand) (out : List UInt8) :
    Except CodecError (List UInt8) := do
  reject (out.length ≠ spatialActuatorCommandLength) .length
  pure (sealRecord 28 (spatialActuatorCells command))

def parseSpatialActuatorCommand (bytes : List UInt8) :
    Except CodecError SpatialActuatorCommand := do
  reject (bytes.length ≠ spatialActuatorCommandLength) .length
  reject (read32 bytes 28 ≠ crc32Ieee (slice bytes 0 28)) .checksum
  reject (readByte bytes 27 ≠ 0) .reserved
  let engineAction ← parseEngine (readByte bytes 24)
  let separate ← parseSpatialBool (readByte bytes 25)
  let abortSafeing ← parseSpatialBool (readByte bytes 26)
  pure {
    sequence := read32 bytes 0
    gimbalQ16 := readI32s 2 bytes 4
    rcsQ15 := readI32s 3 bytes 12
    engineAction := engineAction
    separate := separate
    abortSafeing := abortSafeing }

end Ksa64.Interface
