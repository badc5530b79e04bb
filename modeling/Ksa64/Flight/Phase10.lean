import Ksa64.Flight.Phase10Math

/-!
# The global-frame flight computer

The truth-blind flight software of Phase 10.  `tick` is one 32 Hz release: apply a
frame transition, accept or miss the fast sensor cell, blend an aid cell, choose the
mode and the recovery command, and emit a command.  The source writes `tick` as one
function; here each of its stages is a definition of its own, in the source's order,
and `tick` composes them.

The one fact about a tick that the command path depends on is `tick_frame`: without
a transition cell the navigation frame stays what it is.
-/

namespace Ksa64.Flight

open Ksa64.Library Ksa64.Core Ksa64.Interface

def globalAlarmFastSensor : UInt16 := 1
def globalAlarmAid : UInt16 := 2
def globalAlarmFrame : UInt16 := 4
def globalAlarmLink : UInt16 := 8
def globalAlarmSafe : UInt16 := 16
def globalAlarmRecovery : UInt16 := 64
def globalAlarmDeadline : UInt16 := 128

inductive GlobalFlightMode where
  | boot
  | prelaunch
  | ascent
  | coast
  | entry
  | recovery
  | complete
  | safe
deriving DecidableEq, Repr

/-- The wire value of a mode. -/
def GlobalFlightMode.code : GlobalFlightMode → UInt8
  | .boot => 0
  | .prelaunch => 1
  | .ascent => 2
  | .coast => 3
  | .entry => 4
  | .recovery => 5
  | .complete => 6
  | .safe => 7

structure GlobalFlightConfig where
  session : UInt16
  initialFrame : GlobalFrameId
  initialPositionQ12 : Vec3
  initialAttitudeQ30 : Quaternion
  launchTargetQ30 : Quaternion
  poweredTargetQ30 : Quaternion
  entryTargetQ30 : Quaternion
  pitchProgramEndQ16 : UInt32
  proportionalGainQ15 : Vector Int16 3
  derivativeGainQ15 : Vector Int16 3
  torqueLimitQ12 : Vec3
  gimbalLimitQ15 : Int16
  minimumArmingTimeQ16 : UInt32
  drogueBackupTimeQ16 : UInt32
  mainBackupTimeQ16 : UInt32
  mainAltitudeQ12Km : Int32
  minimumDeploymentSeparationQ16 : UInt32
deriving DecidableEq

/-- The frozen configuration of the stock flight endpoint. -/
def ksaG10rReferenceFlightConfig : GlobalFlightConfig where
  session := 0x10a0
  initialFrame := .localEnuV1
  initialPositionQ12 := #v[0, 0, 0]
  initialAttitudeQ30 := #v[759250122, 0, -759250129, 0]
  launchTargetQ30 := #v[759250122, 0, -759250129, 0]
  poweredTargetQ30 := #v[952420627, 0, -495798804, -1]
  entryTargetQ30 := #v[759250122, 0, -759250129, 0]
  pitchProgramEndQ16 := 3932160
  proportionalGainQ15 := #v[8192, 8192, 8192]
  derivativeGainQ15 := #v[32767, 32767, 32767]
  torqueLimitQ12 := #v[16384, 16384, 16384]
  gimbalLimitQ15 := 455
  minimumArmingTimeQ16 := 3932160
  drogueBackupTimeQ16 := 39321600
  mainBackupTimeQ16 := 58982400
  mainAltitudeQ12Km := 6144
  minimumDeploymentSeparationQ16 := 131072

def GlobalFlightConfig.isValid (config : GlobalFlightConfig) : Bool :=
  config.session != 0
    && config.initialAttitudeQ30 != .replicate 4 0
    && 0 < config.pitchProgramEndQ16
    && config.proportionalGainQ15.all (0 ≤ ·)
    && config.derivativeGainQ15.all (0 ≤ ·)
    && config.torqueLimitQ12.all (0 < ·)
    && 0 ≤ config.gimbalLimitQ15
    && config.minimumArmingTimeQ16 < config.drogueBackupTimeQ16
    && config.drogueBackupTimeQ16 < config.mainBackupTimeQ16
    && 0 < config.mainAltitudeQ12Km
    && 0 < config.minimumDeploymentSeparationQ16

/-! ## Navigation -/

structure GlobalNavigation where
  frame : GlobalFrameId
  positionQ12 : Vec3
  velocityQ24 : Vec3
  attitudeQ30 : Quaternion
  covarianceProxyQ16 : Vec3
  checksum : UInt32
deriving DecidableEq

namespace GlobalNavigation

def new (config : GlobalFlightConfig) : GlobalNavigation where
  frame := config.initialFrame
  positionQ12 := config.initialPositionQ12
  velocityQ24 := #v[0, 0, 0]
  attitudeQ30 := normalizeQuaternion config.initialAttitudeQ30
  covarianceProxyQ16 := #v[4096, 4096, 4096]
  checksum := 0x811c9dc5

/-- The velocity after a transition: the Earth-fixed and the inertial frame differ by
the sweep of the Earth's rotation, every other pair by a constant bias. -/
def transitionVelocity (nav : GlobalNavigation) (cell : GlobalTransitionCell)
    (newPosition : Vec3) : Vec3 :=
  match cell.fromFrame, cell.toFrame with
  | .earthFixedEcefV1, .earthInertialEciV1 =>
      addVector (rotateVector cell.rotationQ30 nav.velocityQ24)
        (crossRatePosition cell.omegaQ24 newPosition)
  | .earthInertialEciV1, .earthFixedEcefV1 =>
      rotateVector cell.rotationQ30
        (subtractVector nav.velocityQ24 (crossRatePosition cell.omegaQ24 nav.positionQ12))
  | _, _ => addVector (rotateVector cell.rotationQ30 nav.velocityQ24) cell.velocityBiasQ24

/-- Carry the estimate into another frame; `none` when the cell does not start from
the current one. -/
def transition (nav : GlobalNavigation) (cell : GlobalTransitionCell) :
    Option GlobalNavigation :=
  if cell.fromFrame ≠ nav.frame then none
  else
    let position := addVector (rotateVector cell.rotationQ30 nav.positionQ12) cell.translationQ12
    let velocity := nav.transitionVelocity cell position
    some { nav with
      positionQ12 := position
      velocityQ24 := velocity
      attitudeQ30 := normalizeQuaternion (quaternionProduct cell.rotationQ30 nav.attitudeQ30)
      frame := cell.toFrame
      checksum := hashNavigation nav.checksum cell.effectiveEpoch cell.toFrame position velocity }

def inertial (nav : GlobalNavigation) (cell : GlobalFastSensorCell) : GlobalNavigation :=
  let velocity := Vector.zipWith (fun v (d : Int16) ↦ addSatI32 v d.toInt32)
    nav.velocityQ24 cell.deltaVelocityQ24
  let position := Vector.zipWith (fun p (v : Int32) ↦ addSatI32 p (v >>> 17)) nav.positionQ12 velocity
  { nav with
    velocityQ24 := velocity
    positionQ12 := position
    covarianceProxyQ16 := nav.covarianceProxyQ16.map (addSatI32 · 8)
    attitudeQ30 := integrateSmallAngle nav.attitudeQ30 (cell.deltaAngleQ24.map Int16.toInt32)
    checksum := hashNavigation nav.checksum cell.measurementEpoch nav.frame position velocity }

/-- The GNSS part of an aid cell, rotated into the active frame and blended in. -/
def aidGnss (nav : GlobalNavigation) (cell : GlobalAidFrameCell) (rotation : Quaternion)
    (translation velocityBias : Vec3) : GlobalNavigation :=
  if cell.validity &&& globalAidGnss ≠ 0 then
    let position := addVector (rotateVector rotation cell.gnssPositionQ12Km) translation
    let velocity := addVector (rotateVector rotation cell.gnssVelocityQ24KmS) velocityBias
    { nav with
      positionQ12 := Vector.zipWith (blend · · 3) nav.positionQ12 position
      velocityQ24 := Vector.zipWith (blend · · 3) nav.velocityQ24 velocity
      covarianceProxyQ16 := nav.covarianceProxyQ16.map fun c ↦ max (c * 3 / 4) 1 }
  else nav

def aidBarometer (nav : GlobalNavigation) (cell : GlobalAidFrameCell) : GlobalNavigation :=
  if cell.validity &&& globalAidBarometer ≠ 0 ∧ nav.frame = .localEnuV1 then
    { nav with
      positionQ12 := nav.positionQ12.set 2
        (blend (getElem nav.positionQ12 2 Axes.z_lt) cell.barometerQ12Km 2) Axes.z_lt }
  else nav

def aidAttitude (nav : GlobalNavigation) (cell : GlobalAidFrameCell) : GlobalNavigation :=
  if cell.validity &&& globalAidAttitude ≠ 0 then
    { nav with attitudeQ30 := normalizeQuaternion cell.attitudeQ30 }
  else nav

def aid (nav : GlobalNavigation) (cell : GlobalAidFrameCell) (rotation : Quaternion)
    (translation velocityBias : Vec3) : GlobalNavigation :=
  let nav := ((nav.aidGnss cell rotation translation velocityBias).aidBarometer cell).aidAttitude
    cell
  { nav with
    checksum := hashNavigation nav.checksum cell.measurementEpoch nav.frame nav.positionQ12
      nav.velocityQ24 }

@[simp] theorem inertial_frame (nav : GlobalNavigation) (cell : GlobalFastSensorCell) :
    (nav.inertial cell).frame = nav.frame := rfl

@[simp] theorem aid_frame (nav : GlobalNavigation) (cell : GlobalAidFrameCell)
    (rotation : Quaternion) (translation velocityBias : Vec3) :
    (nav.aid cell rotation translation velocityBias).frame = nav.frame := by
  unfold aid aidAttitude aidBarometer aidGnss
  dsimp only
  split_ifs <;> rfl

/-- Moving away from the origin of the frame or towards it. -/
def descendingGlobal (nav : GlobalNavigation) : Bool :=
  let p := nav.positionQ12.map Int32.toInt64
  let v := nav.velocityQ24.map Int32.toInt64
  (getElem p 0 Axes.x_lt) * (getElem v 0 Axes.x_lt) + (getElem p 1 Axes.y_lt) * (getElem v 1 Axes.y_lt) + (getElem p 2 Axes.z_lt) * (getElem v 2 Axes.z_lt) < 0

end GlobalNavigation

/-! ## The computer -/

structure GlobalFlightEvidence where
  command : GlobalCommandCell
  status : Option GlobalStatusCell
  navigation : GlobalNavigation
  mode : GlobalFlightMode
  safe : Bool
  armed : Bool
  drogueLatched : Bool
  mainLatched : Bool
  alarms : UInt16
  sensorChecksum : UInt32
  flightChecksum : UInt32
  deadlineMisses : UInt16
deriving DecidableEq

structure GlobalFlightComputer where
  config : GlobalFlightConfig
  epoch : UInt16
  navigation : GlobalNavigation
  mode : GlobalFlightMode
  alarms : UInt16
  missingFast : UInt8
  safe : Bool
  seenPowered : Bool
  powered : Bool
  armed : Bool
  descendingCount : UInt8
  drogueLatched : Bool
  mainLatched : Bool
  drogueTimeQ16 : UInt32
  ecefToActiveRotation : Quaternion
  ecefToActiveTranslation : Vec3
  ecefToActiveVelocityBias : Vec3
  transitionCount : UInt8
  lastTimeQ16 : UInt32
  lastFast : Option GlobalFastSensorCell
  lastAid : Option GlobalAidFrameCell
  lastCommand : GlobalCommandCell
  lastStatus : Option GlobalStatusCell
  sensorChecksum : UInt32
  commandChecksum : UInt32
  flightChecksum : UInt32
  deadlineMisses : UInt16
deriving DecidableEq

namespace GlobalFlightComputer

def new (config : GlobalFlightConfig) : Option GlobalFlightComputer :=
  if config.isValid then
    some {
      config := config
      epoch := 0
      navigation := .new config
      mode := .boot
      alarms := 0
      missingFast := 0
      safe := false
      seenPowered := false
      powered := false
      armed := false
      descendingCount := 0
      drogueLatched := false
      mainLatched := false
      drogueTimeQ16 := 0
      ecefToActiveRotation := identityQuaternion
      ecefToActiveTranslation := #v[0, 0, 0]
      ecefToActiveVelocityBias := #v[0, 0, 0]
      transitionCount := 0
      lastTimeQ16 := 0
      lastFast := none
      lastAid := none
      lastCommand := {
        session := config.session
        sourceEpoch := 0
        effectiveEpoch := 1
        frame := config.initialFrame
        flags := 0
        discrete := 0
        gimbalQ15 := #v[0, 0]
        rcsPulseQuanta := Vector.replicate 12 0
        torqueDemandQ12 := #v[0, 0, 0]
        status := 0
        commandChecksum := 0x811c9dc5 }
      lastStatus := none
      sensorChecksum := 0x811c9dc5
      commandChecksum := 0x811c9dc5
      flightChecksum := 0x811c9dc5
      deadlineMisses := 0 }
  else none

/-! ### Ground operations -/

/-- A validated ground navigation update; refused when the frame is another one. -/
def operationalNavigationUpdate (c : GlobalFlightComputer) (frame : GlobalFrameId)
    (positionQ12 velocityQ24 : Vec3) (epoch : UInt16) : Bool × GlobalFlightComputer :=
  if frame ≠ c.navigation.frame then (false, c)
  else
    (true, { c with
      navigation := { c.navigation with
        positionQ12 := positionQ12
        velocityQ24 := velocityQ24
        checksum := hashNavigation c.navigation.checksum epoch frame positionQ12 velocityQ24 } })

def operationalGuidanceTarget (c : GlobalFlightComputer) (selector : UInt8)
    (targetQ30 : Quaternion) : Bool × GlobalFlightComputer :=
  let target := normalizeQuaternion targetQ30
  if selector = 1 then (true, { c with config := { c.config with poweredTargetQ30 := target } })
  else if selector = 2 then (true, { c with config := { c.config with entryTargetQ30 := target } })
  else (false, c)

def operationalRequestSafe (c : GlobalFlightComputer) : GlobalFlightComputer :=
  { c with safe := true, alarms := c.alarms ||| globalAlarmSafe }

def recordDeadlineMiss (c : GlobalFlightComputer) : GlobalFlightComputer :=
  { c with
    deadlineMisses := addSat16 c.deadlineMisses 1
    alarms := c.alarms ||| (globalAlarmDeadline ||| globalAlarmSafe)
    safe := true }

/-! ### The stages of a tick -/

/-- The rotation, translation and bias from the Earth-fixed frame to the one entered. -/
def enterFrame (c : GlobalFlightComputer) (cell : GlobalTransitionCell) : GlobalFlightComputer :=
  match cell.toFrame with
  | .earthFixedEcefV1 =>
      { c with
        ecefToActiveRotation := identityQuaternion
        ecefToActiveTranslation := #v[0, 0, 0]
        ecefToActiveVelocityBias := #v[0, 0, 0] }
  | .earthInertialEciV1 | .localEnuV1 =>
      { c with
        ecefToActiveRotation := cell.rotationQ30
        ecefToActiveTranslation := cell.translationQ12
        ecefToActiveVelocityBias := cell.velocityBiasQ24 }

def applyTransition (c : GlobalFlightComputer) (transition : Option GlobalTransitionCell) :
    GlobalFlightComputer :=
  match transition with
  | none => c
  | some cell =>
      let refused := { c with
        alarms := c.alarms ||| (globalAlarmFrame ||| globalAlarmSafe), safe := true }
      let valid := cell.session == c.config.session
        && cell.sourceEpoch == c.epoch
        && cell.effectiveEpoch == c.epoch
        && cell.fromFrame == c.navigation.frame
      if !valid then refused
      else match c.navigation.transition cell with
        | none => refused
        | some navigation =>
            let turn := fun target ↦
              normalizeQuaternion (quaternionProduct cell.rotationQ30 target)
            enterFrame { c with
              navigation := navigation
              transitionCount := addSat8 c.transitionCount 1
              config := { c.config with
                launchTargetQ30 := turn c.config.launchTargetQ30
                poweredTargetQ30 := turn c.config.poweredTargetQ30
                entryTargetQ30 := turn c.config.entryTargetQ30 } } cell

/-- The fast cell of this release, if it is the one expected. -/
def validFast (c : GlobalFlightComputer) (fast : Option GlobalFastSensorCell) :
    Option GlobalFastSensorCell :=
  fast.filter fun cell ↦
    let required := globalFastDeltaV ||| globalFastDeltaAngle ||| globalFastAttitude
    cell.session == c.config.session
      && cell.measurementEpoch == c.epoch
      && cell.productionEpoch == c.epoch
      && cell.frame == c.navigation.frame
      && cell.validity &&& required == required

/-- Navigate on a valid fast cell, or count a miss; the third in a row is unsafe. -/
def acceptFast (c : GlobalFlightComputer) (validFast : Option GlobalFastSensorCell) :
    GlobalFlightComputer :=
  match validFast with
  | some cell =>
      let powered := cell.vehicleStatus &&& 2 != 0
      { c with
        missingFast := 0
        lastTimeQ16 := cell.missionTimeQ16
        sensorChecksum := hashFast c.sensorChecksum cell
        navigation := c.navigation.inertial cell
        lastFast := some cell
        powered := powered
        seenPowered := c.seenPowered || powered }
  | none =>
      let missing := addSat8 c.missingFast 1
      let alarms := c.alarms ||| (globalAlarmFastSensor ||| globalAlarmLink)
      if 3 ≤ missing then
        { c with missingFast := missing, safe := true, alarms := alarms ||| globalAlarmSafe }
      else { c with missingFast := missing, alarms := alarms }

/-- The aid cell of this release, if it is recent and in the active frame. -/
def validAid (c : GlobalFlightComputer) (aid : Option GlobalAidFrameCell) :
    Option GlobalAidFrameCell :=
  aid.filter fun cell ↦
    cell.session == c.config.session
      && cell.measurementEpoch ≤ cell.productionEpoch
      && c.epoch - cell.productionEpoch ≤ 32
      && cell.frame == c.navigation.frame

def acceptAid (c : GlobalFlightComputer) (aid validAid : Option GlobalAidFrameCell) :
    GlobalFlightComputer :=
  match validAid with
  | some cell =>
      let rotation :=
        if cell.validity &&& globalAidFrameService ≠ 0 ∧ c.navigation.frame = .earthInertialEciV1
        then cell.frameRotationQ30 else c.ecefToActiveRotation
      { c with
        ecefToActiveRotation := rotation
        navigation := c.navigation.aid cell rotation c.ecefToActiveTranslation
          c.ecefToActiveVelocityBias
        lastAid := some cell }
  | none => if aid.isSome then { c with alarms := c.alarms ||| globalAlarmAid } else c

/-- The mode the frame and the engine state call for. -/
def frameMode (c : GlobalFlightComputer) : GlobalFlightMode :=
  match c.navigation.frame with
  | .localEnuV1 =>
      if c.transitionCount = 0 then if c.powered then .ascent else .prelaunch else .recovery
  | .earthFixedEcefV1 => if c.seenPowered && !c.powered then .entry else .ascent
  | .earthInertialEciV1 => .coast

def updateModeAndRecovery (c : GlobalFlightComputer) (fast : Option GlobalFastSensorCell)
    (aid : Option GlobalAidFrameCell) : GlobalFlightComputer :=
  let mode := if c.safe then .safe else c.frameMode
  let armed := c.armed ||
    (c.seenPowered && !c.powered && c.config.minimumArmingTimeQ16 ≤ c.lastTimeQ16)
  let descendingCount :=
    if mode = .recovery ∧ getElem c.navigation.velocityQ24 2 Axes.z_lt < 0 then addSat8 c.descendingCount 1 else 0
  let landed : Bool := match aid with
    | some cell => cell.events &&& ((1 : UInt16) <<< 9) != 0
    | none => false
  let mode := if landed then .complete else mode
  let mode := if fast.isNone ∧ 3 ≤ c.missingFast then .safe else mode
  { c with mode := mode, armed := armed, descendingCount := descendingCount }

/-- The deployment decision of one parachute: fire when due and the circuit is
continuous, alarm when due and it is not. -/
def deploy (c : GlobalFlightComputer) (due continuity : Bool)
    (fire : GlobalFlightComputer → GlobalFlightComputer) (bit : UInt8) :
    UInt8 × GlobalFlightComputer :=
  if due then
    if continuity then (bit, fire c)
    else (0, { c with alarms := c.alarms ||| globalAlarmRecovery })
  else (0, c)

def recoveryCommand (c : GlobalFlightComputer) (aid : Option GlobalAidFrameCell) :
    UInt8 × GlobalFlightComputer :=
  if c.safe || !c.armed then (0, c)
  else
    let continuity := match aid.filter fun cell ↦ cell.validity &&& globalAidContinuity != 0 with
      | some cell => cell.continuity &&& 1 != 0
      | none => false
    let feedback : UInt16 :=
      match aid.filter fun cell ↦ cell.validity &&& globalAidDeploymentFeedback != 0 with
      | some cell => cell.deploymentFeedback
      | none => 0
    let machSubsonic : Bool := match c.lastFast with
      | some cell => cell.machQ12 < 3277
      | none => false
    let droguePrimary : Bool := c.mode = .recovery ∧ 2 ≤ c.descendingCount ∧ machSubsonic
    let drogueBackup : Bool := c.config.drogueBackupTimeQ16 ≤ c.lastTimeQ16
    let (drogue, c) := c.deploy (!c.drogueLatched && (droguePrimary || drogueBackup)) continuity
      (fun c ↦ { c with drogueLatched := true, drogueTimeQ16 := c.lastTimeQ16 })
      globalCommandDrogue
    let separation : Bool :=
      c.config.minimumDeploymentSeparationQ16 ≤ subSat32 c.lastTimeQ16 c.drogueTimeQ16
    let mainPrimary : Bool := c.drogueLatched ∧ feedback &&& 1 ≠ 0 ∧ separation
      ∧ c.mode = .recovery ∧ getElem c.navigation.velocityQ24 2 Axes.z_lt < 0
      ∧ getElem c.navigation.positionQ12 2 Axes.z_lt ≤ c.config.mainAltitudeQ12Km
    let mainBackup : Bool := c.drogueLatched ∧ separation
      ∧ c.config.mainBackupTimeQ16 ≤ c.lastTimeQ16
    let (main, c) := c.deploy (!c.mainLatched && (mainPrimary || mainBackup)) continuity
      (fun c ↦ { c with mainLatched := true }) globalCommandMain
    (drogue ||| main, c)

/-- The launch attitude turned towards the powered one by the elapsed fraction of the
pitch program. -/
def pitchTarget (c : GlobalFlightComputer) : Quaternion :=
  let fractionQ16 : Int32 := ((c.lastTimeQ16.toUInt64 <<< 16) /
    c.config.pitchProgramEndQ16.toUInt64).toUInt32.toInt32
  normalizeQuaternion (Vector.zipWith (fun low high ↦
      addSatI32 low (((high.toInt64 - low.toInt64) * fractionQ16.toInt64) >>> 16).toInt32)
    c.config.launchTargetQ30 c.config.poweredTargetQ30)

def guidanceTarget (c : GlobalFlightComputer) : Quaternion :=
  match c.mode with
  | .ascent =>
      if c.config.pitchProgramEndQ16 ≤ c.lastTimeQ16 then c.config.poweredTargetQ30
      else c.pitchTarget
  | .coast =>
      if c.navigation.descendingGlobal then bodyXAttitudeFromVelocity c.navigation.velocityQ24
      else c.config.poweredTargetQ30
  | .entry => bodyXAttitudeFromVelocity c.navigation.velocityQ24
  | _ => c.config.poweredTargetQ30

/-- The normalized demand of the proportional-derivative law on the three axes. -/
def demand (c : GlobalFlightComputer) (cell : GlobalFastSensorCell) : Vector Int16 3 :=
  let errorQuaternion := attitudeError c.navigation.attitudeQ30 c.guidanceTarget
  Vector.ofFn fun axis : Fin 3 ↦
    let error := errorQuaternion[axis.val + 1] >>> 15
    let rate := cell.angularRateQ15[axis].toInt32
    let proportional := (error * c.config.proportionalGainQ15[axis].toInt32) >>> 15
    let derivative := (-rate * c.config.derivativeGainQ15[axis].toInt32) >>> 15
    clampI16 (addSatI32 proportional derivative)

def demandTorque (c : GlobalFlightComputer) (demand : Vector Int16 3) : Vec3 :=
  Vector.zipWith (fun (d : Int16) (limit : Int32) ↦
    ((d.toInt64 * limit.toInt64) >>> 15).toInt32) demand c.config.torqueLimitQ12

/-- The pulses of one axis: the magnitude of its demand in eighths of the authority of
a jet pair, on the pair that turns the demanded way. -/
def axisPulses (c : GlobalFlightComputer) (torque : Vec3) (pulses : Vector UInt8 12)
    (axis : Fin 3) : Vector UInt8 12 :=
  let demand := if axis = 0 ∧ c.navigation.descendingGlobal then 0 else torque[axis]
  let pairAuthorityQ12 : UInt32 := if axis = 0 then 1638 else 29900
  let magnitude := unsignedAbs32 demand
  let quantum : UInt8 :=
    if magnitude = 0 then 0
    else (max 1 (min 8 ((magnitude * 8 + pairAuthorityQ12 / 2) / pairAuthorityQ12))).toUInt8
  if quantum ≠ 0 then
    let channel := axis.val * 4 + (if demand < 0 then 2 else 0)
    (pulses.setIfInBounds channel quantum).setIfInBounds (channel + 1) quantum
  else pulses

def rcsPulses (c : GlobalFlightComputer) (torque : Vec3) : Vector UInt8 12 :=
  if !c.powered && !c.safe && (c.mode = .coast || c.mode = .entry) then
    (List.finRange 3).foldl (c.axisPulses torque) (Vector.replicate 12 0)
  else Vector.replicate 12 0

/-- The command of the release, without its checksum. -/
def composeCommand (c : GlobalFlightComputer) (validFast : Option GlobalFastSensorCell)
    (discrete : UInt8) : GlobalCommandCell :=
  let normalizedDemand : Vector Int16 3 := match validFast with
    | some cell => c.demand cell
    | none => .replicate 3 0
  let torque : Vec3 := match validFast with
    | some _ => c.demandTorque normalizedDemand
    | none => .replicate 3 0
  let held : Bool := c.missingFast ≠ 0 ∧ c.missingFast ≤ 2
  let torque := if held then c.lastCommand.torqueDemandQ12 else torque
  let normalizedDemand := if held then
      Axes.of (getElem normalizedDemand 0 Axes.x_lt) (getElem c.lastCommand.gimbalQ15 0 Pair.first_lt)
        (getElem c.lastCommand.gimbalQ15 1 Pair.second_lt)
    else normalizedDemand
  let discrete := if held then 0 else discrete
  let flags := if held then globalCommandHold else 0
  let torque := if c.safe then .replicate 3 0 else torque
  let normalizedDemand := if c.safe then .replicate 3 0 else normalizedDemand
  let discrete := if c.safe then globalCommandSafe else discrete
  let limit := c.config.gimbalLimitQ15
  let gimbal : Vector Int16 2 := if c.powered && !c.safe then
      Pair.of (max (-limit) (min limit (getElem normalizedDemand 1 Axes.y_lt)))
        (max (-limit) (min limit (getElem normalizedDemand 2 Axes.z_lt)))
    else .replicate 2 0
  let depleted : Bool := match c.lastFast with
    | some cell => cell.rcsPropellantQ21 ≤ 0
    | none => false
  { session := c.config.session
    sourceEpoch := c.epoch
    effectiveEpoch := c.epoch + 1
    frame := c.navigation.frame
    flags := if depleted then flags ||| globalCommandRcsReserved else flags
    discrete := discrete
    gimbalQ15 := gimbal
    rcsPulseQuanta := if depleted then Vector.replicate 12 0 else c.rcsPulses torque
    torqueDemandQ12 := torque
    status := c.alarms
    commandChecksum := 0 }

/-- The status cell, emitted every fourth release. -/
def composeStatus (c : GlobalFlightComputer) : Option GlobalStatusCell :=
  if c.epoch &&& 3 = 0 then
    some {
      session := c.config.session
      sourceEpoch := c.epoch
      productionEpoch := c.epoch
      frame := c.navigation.frame
      mode := c.mode.code
      flags := if c.safe then 1 else 0
      alarms := c.alarms
      navigationPositionQ12 := c.navigation.positionQ12
      navigationVelocityQ24 := c.navigation.velocityQ24
      navigationAttitudeQ30 := c.navigation.attitudeQ30
      covarianceProxyQ16 := c.navigation.covarianceProxyQ16
      sensorChecksum := c.sensorChecksum
      navigationChecksum := c.navigation.checksum
      commandChecksum := c.commandChecksum
      flightChecksum := c.flightChecksum
      deadlineMisses := c.deadlineMisses
      transitionCount := c.transitionCount }
  else none

/-- Chain the command into the checksums, publish the status and end the release. -/
def emit (c : GlobalFlightComputer) (command : GlobalCommandCell) :
    GlobalFlightEvidence × GlobalFlightComputer :=
  let commandChecksum := hashCommand c.commandChecksum command
  let command := { command with commandChecksum := commandChecksum }
  let flightChecksum :=
    hashFlight c.flightChecksum c.epoch c.navigation.checksum commandChecksum c.alarms
  let c := { c with
    commandChecksum := commandChecksum, flightChecksum := flightChecksum, lastCommand := command }
  let status := c.composeStatus
  ({ command := command
     status := status
     navigation := c.navigation
     mode := c.mode
     safe := c.safe
     armed := c.armed
     drogueLatched := c.drogueLatched
     mainLatched := c.mainLatched
     alarms := c.alarms
     sensorChecksum := c.sensorChecksum
     flightChecksum := c.flightChecksum
     deadlineMisses := c.deadlineMisses },
   { c with lastStatus := status, epoch := c.epoch + 1 })

/-- One release. -/
def tick (c : GlobalFlightComputer) (fast : Option GlobalFastSensorCell)
    (aid : Option GlobalAidFrameCell) (transition : Option GlobalTransitionCell) :
    GlobalFlightEvidence × GlobalFlightComputer :=
  let c := c.applyTransition transition
  let validFast := c.validFast fast
  let c := c.acceptFast validFast
  let validAid := c.validAid aid
  let c := c.acceptAid aid validAid
  let c := c.updateModeAndRecovery validFast validAid
  let (discrete, c) := c.recoveryCommand validAid
  c.emit (c.composeCommand validFast discrete)

/-! ### The navigation frame -/

@[simp] theorem acceptFast_frame (c : GlobalFlightComputer) (fast : Option GlobalFastSensorCell) :
    (c.acceptFast fast).navigation.frame = c.navigation.frame := by
  cases fast with
  | some cell => rfl
  | none =>
      unfold acceptFast
      dsimp only
      split <;> rfl

@[simp] theorem acceptAid_frame (c : GlobalFlightComputer)
    (aid validAid : Option GlobalAidFrameCell) :
    (c.acceptAid aid validAid).navigation.frame = c.navigation.frame := by
  cases validAid with
  | some cell => exact GlobalNavigation.aid_frame ..
  | none => cases aid <;> rfl

@[simp] theorem deploy_navigation (c : GlobalFlightComputer) (due continuity : Bool)
    {fire : GlobalFlightComputer → GlobalFlightComputer}
    (hfire : (fire c).navigation = c.navigation) (bit : UInt8) :
    (c.deploy due continuity fire bit).2.navigation = c.navigation := by
  unfold deploy
  split_ifs <;> first | exact hfire | rfl

@[simp] theorem recoveryCommand_navigation (c : GlobalFlightComputer)
    (aid : Option GlobalAidFrameCell) : (c.recoveryCommand aid).2.navigation = c.navigation := by
  unfold recoveryCommand
  split
  · rfl
  · dsimp only
    rw [deploy_navigation _ _ _ rfl, deploy_navigation _ _ _ rfl]

/-- Only a transition cell can change the navigation frame. -/
theorem tick_frame (c : GlobalFlightComputer) (fast : Option GlobalFastSensorCell)
    (aid : Option GlobalAidFrameCell) :
    (c.tick fast aid none).2.navigation.frame = c.navigation.frame := by
  simp only [tick, emit, applyTransition, recoveryCommand_navigation, updateModeAndRecovery,
    acceptAid_frame, acceptFast_frame]

end GlobalFlightComputer

end Ksa64.Flight
