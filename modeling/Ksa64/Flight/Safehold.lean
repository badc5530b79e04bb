import Ksa64.Flight.Deployment
import Ksa64.Flight.Journal

/-!
# The safehold package

`SafeholdRecoveryV1` flies coast, entry and recovery on its own, from the same cells as the flight
computer, and keeps a journal.  A release goes through six stages: the transition, the fast cell, the
aid cell, the recovery, the control and the mode.
-/

namespace Ksa64.Flight

open Ksa64.Library Ksa64.Core Ksa64.Interface

def safeholdRecoveryManifestId : UInt32 := 0x11f5a002

def subsonicMachQ12 : Int16 := 3277

inductive SafeholdSessionSegment where
  | eciCoast
  | ecefEntry
  | localRecovery
deriving DecidableEq, Repr

namespace SafeholdSessionSegment

def frame : SafeholdSessionSegment → GlobalFrameId
  | .eciCoast => .earthInertialEciV1
  | .ecefEntry => .earthFixedEcefV1
  | .localRecovery => .localEnuV1

/-- The segment that a transition opens. -/
def next : SafeholdSessionSegment → GlobalFrameId → GlobalFrameId → Option SafeholdSessionSegment
  | .eciCoast, .earthInertialEciV1, .earthFixedEcefV1 => some .ecefEntry
  | .ecefEntry, .earthFixedEcefV1, .localEnuV1 => some .localRecovery
  | _, _, _ => none

def mode : SafeholdSessionSegment → GlobalFlightMode
  | .eciCoast => .coast
  | .ecefEntry => .entry
  | .localRecovery => .recovery

end SafeholdSessionSegment

structure SafeholdRecoveryConfig where
  session : UInt16
  initialSegment : SafeholdSessionSegment
  initialPositionQ12 : Vec3
  initialVelocityQ24 : Vec3
  initialAttitudeQ30 : Quaternion
  attitudeTargetQ30 : Quaternion
  proportionalGainQ15 : Vector Int16 3
  derivativeGainQ15 : Vector Int16 3
  torqueLimitQ12 : Vec3
  drogueBackupTimeQ16 : UInt32
  mainBackupTimeQ16 : UInt32
  mainAltitudeQ12Km : Int32
  minimumDeploymentSeparationQ16 : UInt32
deriving DecidableEq

def SafeholdRecoveryConfig.isValid (config : SafeholdRecoveryConfig) : Bool :=
  config.session != 0
    && config.initialAttitudeQ30 != .replicate 4 0
    && config.attitudeTargetQ30 != .replicate 4 0
    && config.proportionalGainQ15.all (0 ≤ ·)
    && config.derivativeGainQ15.all (0 ≤ ·)
    && config.torqueLimitQ12.all (0 < ·)
    && config.drogueBackupTimeQ16 < config.mainBackupTimeQ16
    && 0 < config.mainAltitudeQ12Km
    && 0 < config.minimumDeploymentSeparationQ16

def ksaG10rSafeholdCoastConfig : SafeholdRecoveryConfig where
  session := 0x10a0
  initialSegment := .eciCoast
  initialPositionQ12 := #v[26558400, 0, 0]
  initialVelocityQ24 := #v[0, 131701145, 0]
  initialAttitudeQ30 := identityQuaternion
  attitudeTargetQ30 := identityQuaternion
  proportionalGainQ15 := #v[6144, 6144, 6144]
  derivativeGainQ15 := #v[24576, 24576, 24576]
  torqueLimitQ12 := #v[12288, 12288, 12288]
  drogueBackupTimeQ16 := 39321600
  mainBackupTimeQ16 := 58982400
  mainAltitudeQ12Km := 6144
  minimumDeploymentSeparationQ16 := 131072

structure SafeholdRecoveryV1 where
  config : SafeholdRecoveryConfig
  segment : SafeholdSessionSegment
  epoch : UInt16
  navigation : GlobalNavigation
  attitudeTargetQ30 : Quaternion
  lastTimeQ16 : UInt32
  lastFast : Option GlobalFastSensorCell
  missingFast : UInt8
  safe : Bool
  descendingCount : UInt8
  drogueLatched : Bool
  mainLatched : Bool
  drogueTimeQ16 : UInt32
  alarms : UInt16
  sensorChecksum : UInt32
  commandChecksum : UInt32
  flightChecksum : UInt32
  transitionCount : UInt8
  lastMode : GlobalFlightMode
  journal : EventJournal
deriving DecidableEq

namespace SafeholdRecoveryV1

def new (config : SafeholdRecoveryConfig) : Option SafeholdRecoveryV1 :=
  if config.isValid then
    some {
      config := config
      segment := config.initialSegment
      epoch := 0
      navigation := {
        frame := config.initialSegment.frame
        positionQ12 := config.initialPositionQ12
        velocityQ24 := config.initialVelocityQ24
        attitudeQ30 := normalizeQuaternion config.initialAttitudeQ30
        covarianceProxyQ16 := #v[8192, 8192, 8192]
        checksum := 0x811c9dc5 }
      attitudeTargetQ30 := normalizeQuaternion config.attitudeTargetQ30
      lastTimeQ16 := 0
      lastFast := none
      missingFast := 0
      safe := false
      descendingCount := 0
      drogueLatched := false
      mainLatched := false
      drogueTimeQ16 := 0
      alarms := 0
      sensorChecksum := 0x811c9dc5
      commandChecksum := 0x811c9dc5
      flightChecksum := 0x811c9dc5
      transitionCount := 0
      lastMode := config.initialSegment.mode
      journal := .new }
  else none

/-- Append to the journal at the current epoch. -/
def appendJournal (s : SafeholdRecoveryV1) (kind : JournalEventKind)
    (primaryIdentity secondaryIdentity : UInt32) (arguments : Vector Int32 4) : SafeholdRecoveryV1 :=
  { s with
    journal := s.journal.step
      ⟨s.epoch.toUInt32, kind, primaryIdentity, secondaryIdentity, arguments⟩ }

/-- Only the first entry into the safe state is journaled. -/
def enterSafe (s : SafeholdRecoveryV1) (alarm : UInt16) : SafeholdRecoveryV1 :=
  let entered := { s with alarms := s.alarms ||| (alarm ||| globalAlarmSafe), safe := true }
  if s.safe then entered
  else entered.appendJournal .safeState alarm.toUInt32 safeholdRecoveryManifestId (.replicate 4 0)

/-- The velocity after a transition: the Earth-fixed frame turns under the inertial one. -/
def transitionVelocity (s : SafeholdRecoveryV1) (cell : GlobalTransitionCell) : Vec3 :=
  if cell.fromFrame = .earthInertialEciV1 ∧ cell.toFrame = .earthFixedEcefV1 then
    rotateVector cell.rotationQ30 (subtractVector s.navigation.velocityQ24
      (crossRatePosition cell.omegaQ24 s.navigation.positionQ12))
  else addVector (rotateVector cell.rotationQ30 s.navigation.velocityQ24) cell.velocityBiasQ24

def enterSegment (s : SafeholdRecoveryV1) (cell : GlobalTransitionCell)
    (next : SafeholdSessionSegment) : SafeholdRecoveryV1 :=
  let position :=
    addVector (rotateVector cell.rotationQ30 s.navigation.positionQ12) cell.translationQ12
  let velocity := s.transitionVelocity cell
  { s with
    navigation := { s.navigation with
      positionQ12 := position
      velocityQ24 := velocity
      attitudeQ30 :=
        normalizeQuaternion (quaternionProduct cell.rotationQ30 s.navigation.attitudeQ30)
      frame := cell.toFrame
      checksum := hashNavigation s.navigation.checksum s.epoch cell.toFrame position velocity }
    attitudeTargetQ30 :=
      normalizeQuaternion (quaternionProduct cell.rotationQ30 s.attitudeTargetQ30)
    segment := next
    transitionCount := addSat8 s.transitionCount 1 }.appendJournal .mode
      cell.fromFrame.code.toUInt32 cell.toFrame.code.toUInt32
      #v[cell.transformIdentity.toInt32, 0, 0, 0]

def applyTransition (s : SafeholdRecoveryV1) (cell : Option GlobalTransitionCell) :
    SafeholdRecoveryV1 :=
  match cell with
  | none => s
  | some cell =>
      let nextSegment := s.segment.next cell.fromFrame cell.toFrame
      if cell.session ≠ s.config.session ∨ cell.sourceEpoch ≠ s.epoch ∨ cell.effectiveEpoch ≠ s.epoch
          ∨ cell.fromFrame ≠ s.navigation.frame then
        s.enterSafe globalAlarmFrame
      else match nextSegment with
        | none => s.enterSafe globalAlarmFrame
        | some next => s.enterSegment cell next

/-- The fast cell of this release, if it is the one expected. -/
def validFast (s : SafeholdRecoveryV1) (cell : Option GlobalFastSensorCell) :
    Option GlobalFastSensorCell :=
  cell.filter fun value ↦
    let required := globalFastDeltaV ||| globalFastDeltaAngle ||| globalFastAttitude
    value.session == s.config.session
      && value.measurementEpoch == s.epoch
      && value.productionEpoch == s.epoch
      && value.frame == s.navigation.frame
      && value.validity &&& required == required

/-- The estimate moved on by a fast cell. -/
def inertial (s : SafeholdRecoveryV1) (value : GlobalFastSensorCell) : GlobalNavigation :=
  let velocity := Vector.zipWith (fun v (d : Int16) ↦ addSatI32 v d.toInt32)
    s.navigation.velocityQ24 value.deltaVelocityQ24
  let position := Vector.zipWith (fun p (v : Int32) ↦ addSatI32 p (v >>> 17))
    s.navigation.positionQ12 velocity
  { s.navigation with
    velocityQ24 := velocity
    positionQ12 := position
    covarianceProxyQ16 := s.navigation.covarianceProxyQ16.map (addSatI32 · 16)
    attitudeQ30 :=
      integrateSmallAngle s.navigation.attitudeQ30 (value.deltaAngleQ24.map Int16.toInt32)
    checksum := hashNavigation s.navigation.checksum s.epoch s.navigation.frame position velocity }

/-- A release without a valid fast cell is unsafe at once. -/
def acceptFast (s : SafeholdRecoveryV1) (valid : Option GlobalFastSensorCell) :
    SafeholdRecoveryV1 :=
  match valid with
  | some value =>
      { s with
        missingFast := 0
        lastTimeQ16 := value.missionTimeQ16
        sensorChecksum := hashFast s.sensorChecksum value
        navigation := s.inertial value
        lastFast := some value }
  | none =>
      { s with missingFast := addSat8 s.missingFast 1 }.enterSafe
        (globalAlarmFastSensor ||| globalAlarmLink)

/-- The aid cell of this release, if it is recent and in the active frame. -/
def validAid (s : SafeholdRecoveryV1) (cell : Option GlobalAidFrameCell) :
    Option GlobalAidFrameCell :=
  cell.filter fun value ↦
    value.session == s.config.session
      && value.measurementEpoch ≤ value.productionEpoch
      && s.epoch - value.productionEpoch ≤ 32
      && value.frame == s.navigation.frame

/-- The aids are blended in as they are: each is used in its own frame. -/
def aid (s : SafeholdRecoveryV1) (value : GlobalAidFrameCell) : GlobalNavigation :=
  let navigation := s.navigation
  let navigation :=
    if value.validity &&& globalAidGnss ≠ 0 ∧ navigation.frame = .earthFixedEcefV1 then
      { navigation with
        positionQ12 := Vector.zipWith (blend · · 3) navigation.positionQ12 value.gnssPositionQ12Km
        velocityQ24 := Vector.zipWith (blend · · 3) navigation.velocityQ24 value.gnssVelocityQ24KmS }
    else navigation
  let navigation := navigation.aidBarometer value
  let navigation := navigation.aidAttitude value
  { navigation with
    checksum := hashNavigation navigation.checksum s.epoch navigation.frame navigation.positionQ12
      navigation.velocityQ24 }

def acceptAid (s : SafeholdRecoveryV1) (cell valid : Option GlobalAidFrameCell) :
    SafeholdRecoveryV1 :=
  match valid with
  | some value => { s with navigation := s.aid value }
  | none => if cell.isSome then { s with alarms := s.alarms ||| globalAlarmAid } else s

/-- The deployment of one parachute when it is due: fire and journal it if the circuit is
continuous, alarm if it is not. -/
def deploy (s : SafeholdRecoveryV1) (due continuity : Bool)
    (fire : SafeholdRecoveryV1 → SafeholdRecoveryV1) (bit : UInt8) : UInt8 × SafeholdRecoveryV1 :=
  if due then
    if continuity then
      (bit, (fire s).appendJournal .mode bit.toUInt32 0 #v[s.lastTimeQ16.toInt32, 0, 0, 0])
    else (0, { s with alarms := s.alarms ||| globalAlarmRecovery })
  else (0, s)

def recoveryCommand (s : SafeholdRecoveryV1) (aid : Option GlobalAidFrameCell) :
    UInt8 × SafeholdRecoveryV1 :=
  if s.segment ≠ .localRecovery then (0, { s with descendingCount := 0 })
  else
    let s := { s with
      descendingCount := if getElem s.navigation.velocityQ24 2 Axes.z_lt < 0 then addSat8 s.descendingCount 1 else 0 }
    let continuity := match aid.filter fun value ↦ value.validity &&& globalAidContinuity != 0 with
      | some value => value.continuity &&& 1 != 0
      | none => false
    let feedback : UInt16 :=
      match aid.filter fun value ↦ value.validity &&& globalAidDeploymentFeedback != 0 with
      | some value => value.deploymentFeedback
      | none => 0
    let subsonic : Bool := match s.lastFast with
      | some value => value.machQ12 < subsonicMachQ12
      | none => false
    let drogueDue : Bool := (2 ≤ s.descendingCount ∧ subsonic)
      ∨ s.config.drogueBackupTimeQ16 ≤ s.lastTimeQ16
    let (drogue, s) := s.deploy (!s.drogueLatched && drogueDue) continuity
      (fun s ↦ { s with drogueLatched := true, drogueTimeQ16 := s.lastTimeQ16 })
      globalCommandDrogue
    let separated : Bool :=
      s.config.minimumDeploymentSeparationQ16 ≤ subSat32 s.lastTimeQ16 s.drogueTimeQ16
    let mainDue : Bool := s.drogueLatched ∧ separated
      ∧ ((feedback &&& 1 ≠ 0 ∧ getElem s.navigation.velocityQ24 2 Axes.z_lt < 0
          ∧ getElem s.navigation.positionQ12 2 Axes.z_lt ≤ s.config.mainAltitudeQ12Km)
        ∨ s.config.mainBackupTimeQ16 ≤ s.lastTimeQ16)
    let (main, s) := s.deploy (!s.mainLatched && mainDue) continuity
      (fun s ↦ { s with mainLatched := true }) globalCommandMain
    (drogue ||| main, s)

/-- The torque demand of the proportional-derivative law. -/
def torque (s : SafeholdRecoveryV1) (fast : GlobalFastSensorCell) : Vec3 :=
  let error := attitudeError s.navigation.attitudeQ30 s.attitudeTargetQ30
  Vector.ofFn fun axis : Fin 3 ↦
    let proportional :=
      ((error.get axis.succ >>> 15) * (s.config.proportionalGainQ15.get axis).toInt32) >>> 15
    let derivative := (-(fast.angularRateQ15.get axis).toInt32
      * (s.config.derivativeGainQ15.get axis).toInt32) >>> 15
    let normalized := max (-32768) (min 32767 (addSatI32 proportional derivative))
    ((normalized.toInt64 * (s.config.torqueLimitQ12.get axis).toInt64) >>> 15).toInt32

/-- The pulses of one axis, in eighths of the authority of a jet pair. -/
def axisPulses (torque : Vec3) (pulses : Vector UInt8 12) (axis : Fin 3) : Vector UInt8 12 :=
  let magnitude := unsignedAbs32 (torque.get axis)
  if magnitude ≠ 0 then
    let authority : UInt32 := if axis.val = 0 then 1638 else 29900
    let quantum := (max 1 (min 8 ((magnitude * 8 + authority / 2) / authority))).toUInt8
    let channel := axis.val * 4 + (if (torque.get axis) < 0 then 2 else 0)
    (pulses.setIfInBounds channel quantum).setIfInBounds (channel + 1) quantum
  else pulses

def control (s : SafeholdRecoveryV1) (fast : Option GlobalFastSensorCell) :
    Vec3 × Vector UInt8 12 :=
  if s.safe || s.segment = .localRecovery then (.replicate 3 0, Vector.replicate 12 0)
  else match fast with
    | none => (.replicate 3 0, Vector.replicate 12 0)
    | some fast =>
        let torque := s.torque fast
        (torque,
          if fast.rcsPropellantQ21 ≤ 0 then Vector.replicate 12 0
          else (List.finRange 3).foldl (axisPulses torque) (Vector.replicate 12 0))

def mode (s : SafeholdRecoveryV1) (aid : Option GlobalAidFrameCell) : GlobalFlightMode :=
  let landed : Bool := match aid with
    | some value => value.events &&& ((1 : UInt16) <<< 9) != 0
    | none => false
  if landed then .complete else if s.safe then .safe else s.segment.mode

/-- A change of the mode is journaled. -/
def enterMode (s : SafeholdRecoveryV1) (mode : GlobalFlightMode) : SafeholdRecoveryV1 :=
  if mode ≠ s.lastMode then
    { s.appendJournal .mode s.lastMode.code.toUInt32 mode.code.toUInt32 (.replicate 4 0) with
      lastMode := mode }
  else s

/-- The command of the release, without its checksum. -/
def composeCommand (s : SafeholdRecoveryV1) (fast : Option GlobalFastSensorCell) (discrete : UInt8) :
    GlobalCommandCell :=
  let (torque, pulses) := s.control fast
  let depleted : Bool := match fast with
    | some value => value.rcsPropellantQ21 ≤ 0
    | none => false
  { session := s.config.session
    sourceEpoch := s.epoch
    effectiveEpoch := s.epoch + 1
    frame := s.navigation.frame
    flags := if depleted then globalCommandRcsReserved else 0
    discrete := if s.safe then discrete ||| globalCommandSafe else discrete
    gimbalQ15 := .replicate 2 0
    rcsPulseQuanta := if s.safe then Vector.replicate 12 0 else pulses
    torqueDemandQ12 := torque
    status := s.alarms
    commandChecksum := 0 }

/-- The status cell, emitted every fourth release. -/
def composeStatus (s : SafeholdRecoveryV1) (mode : GlobalFlightMode) : Option GlobalStatusCell :=
  if s.epoch &&& 3 = 0 then
    some {
      session := s.config.session
      sourceEpoch := s.epoch
      productionEpoch := s.epoch
      frame := s.navigation.frame
      mode := mode.code
      flags := if s.safe then 1 else 0
      alarms := s.alarms
      navigationPositionQ12 := s.navigation.positionQ12
      navigationVelocityQ24 := s.navigation.velocityQ24
      navigationAttitudeQ30 := s.navigation.attitudeQ30
      covarianceProxyQ16 := s.navigation.covarianceProxyQ16
      sensorChecksum := s.sensorChecksum
      navigationChecksum := s.navigation.checksum
      commandChecksum := s.commandChecksum
      flightChecksum := s.flightChecksum
      deadlineMisses := 0
      transitionCount := s.transitionCount }
  else none

/-- Chain the command into the checksums and end the release. -/
def emit (s : SafeholdRecoveryV1) (command : GlobalCommandCell) (mode : GlobalFlightMode) :
    GlobalFlightEvidence × SafeholdRecoveryV1 :=
  let commandChecksum := hashCommand s.commandChecksum command
  let flightChecksum :=
    hashFlight s.flightChecksum s.epoch s.navigation.checksum commandChecksum s.alarms
  let s := { s with commandChecksum := commandChecksum, flightChecksum := flightChecksum }
  ({ command := { command with commandChecksum := commandChecksum }
     status := s.composeStatus mode
     navigation := s.navigation
     mode := mode
     safe := s.safe
     armed := true
     drogueLatched := s.drogueLatched
     mainLatched := s.mainLatched
     alarms := s.alarms
     sensorChecksum := s.sensorChecksum
     flightChecksum := s.flightChecksum
     deadlineMisses := 0 },
   { s with epoch := s.epoch + 1 })

def processRelease (s : SafeholdRecoveryV1) (fast : Option GlobalFastSensorCell)
    (aid : Option GlobalAidFrameCell) (transition : Option GlobalTransitionCell) :
    GlobalFlightEvidence × SafeholdRecoveryV1 :=
  let s := s.applyTransition transition
  let validFast := s.validFast fast
  let s := s.acceptFast validFast
  let validAid := s.validAid aid
  let s := s.acceptAid aid validAid
  let (discrete, s) := s.recoveryCommand validAid
  let command := s.composeCommand validFast discrete
  let mode := s.mode validAid
  (s.enterMode mode).emit command mode

end SafeholdRecoveryV1

end Ksa64.Flight
