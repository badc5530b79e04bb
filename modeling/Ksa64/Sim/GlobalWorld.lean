import Ksa64.Sim.WorldForces

/-!
# The world machine

A physical step takes the command, moves the vehicle by the rules of its segment, charges the
propellants, and then looks for events and changes of segment.  A step that fails stops where it
is: what was done before stays done.
-/

namespace Ksa64.Sim

open Ksa64.Library Ksa64.Core Ksa64.Interface

namespace GlobalWorldMachine

/-! ## Propellants -/

/-- The mass in the middle of a step. -/
def midpointMass (w : GlobalWorldMachine) (dt : UInt32) : Except GlobalWorldError Int32 :=
  if w.vehicle.burnTimeQ16S ≤ w.currentTime.raw ∨ w.mainPropellantQ21 = 0 then .ok w.totalMassQ21
  else guarded do
    let consumed ← multiplyScaled w.vehicle.mainMassFlowQ21KgS (dt / 2).toInt32 16
    requireClear .numeric
    return w.totalMassQ21 - min consumed w.mainPropellantQ21

/-- The motor is charged for the part of the step that just ended in which it burnt. -/
def consumeMainPropellant (w : GlobalWorldMachine) (dt : UInt32) :
    Attempt GlobalWorldError GlobalWorldMachine Unit :=
  let time := w.currentTime.raw
  let previous := time - min time dt
  let burnTime := w.vehicle.burnTimeQ16S
  if burnTime ≤ previous ∨ w.mainPropellantQ21 = 0 then (.ok (), w)
  else
    let activeDt := min dt (burnTime - previous)
    let (flow, status) := multiplyScaled w.vehicle.mainMassFlowQ21KgS activeDt.toInt32 16 .clear
    let (remaining, status) :=
      subtract w.mainPropellantQ21 (min flow w.mainPropellantQ21) status
    let w := { w with
      mainPropellantQ21 := remaining
      events := if burnTime ≤ time then w.events ||| eventBurnout else w.events }
    (if status.isClear then .ok () else .error .numeric, w)

def consumeRcsPropellant (w : GlobalWorldMachine) (activeJets : Nat) (dt : UInt32) :
    Attempt GlobalWorldError GlobalWorldMachine Unit :=
  match rcsPropellantConsumedQ21 w.vehicle activeJets dt with
  | none => (.error .numeric, w)
  | some amount =>
      let consumed := min amount w.rcsPropellantQ21
      (.ok (), { w with rcsPropellantQ21 := saturatingSubI32 w.rcsPropellantQ21 consumed })

/-! ## On the rail -/

/-- What a local step does: the next state, the Mach number and the dynamic pressure. -/
structure LocalMove where
  state : LocalKinematicState
  machQ24 : Int32
  dynamicQ14 : Int32
deriving DecidableEq

/-- The state after a time at a constant acceleration. -/
def localSuccessor (current : LocalKinematicState) (acceleration : EnuAcceleration)
    (dt : UInt32) : NumericM (EnuVelocity × EnuPosition) := do
  let deltaV ← acceleration.scale 16 dt.toInt32
  let velocity ← current.velocity.checkedAdd deltaV
  let average : EnuVelocity := ⟨current.velocity.x / 2 + velocity.x / 2,
    current.velocity.y / 2 + velocity.y / 2, current.velocity.z / 2 + velocity.z / 2⟩
  let delta : EnuPosition := ⟨← multiplyScaled average.x dt.toInt32 22,
    ← multiplyScaled average.y dt.toInt32 22, ← multiplyScaled average.z dt.toInt32 22⟩
  return (velocity, delta)

/-- The thrust of the motor on the rail. -/
def launchThrustQ13 (w : GlobalWorldMachine) : Int32 := w.vehicle.thrustQ13N

/-- The move along the rail.  The position is added after the status has been looked at. -/
def launchMove (w : GlobalWorldMachine) (current : LocalKinematicState) :
    Except GlobalWorldError LocalMove := guarded do
  let dt := globalPoweredStepQ16
  let altitude := w.mission.launchHeightQ12Km + (← roundedI64 current.position.z.toInt64 2000)
  let atmosphere ← ofEnvironment (w.atmosphere.sample altitude)
  let air ← localAirData current.velocity atmosphere
  let massQ13 := (w.totalMassQ21 + 128) >>> 8
  let thrustAcceleration ← forceToAccelerationQ19 w.launchThrustQ13 massQ13
  let aero ← w.aeroKnot air.machQ24
  let dragForce ← dragForceQ13 air.dynamicQ14 w.vehicle.referenceAreaQ29M2 29 aero.axialCdQ24
  let dragAcceleration ← forceToAccelerationQ19 dragForce massQ13
  let thrust ← scaleDirection 19 w.launchDirectionEnuQ30 thrustAcceleration
  let drag ← unitAgainstLocalVelocity current.velocity air.speedQ4 dragAcceleration
  let gravity : EnuAcceleration := ⟨0, 0, -gravityQ19MS2⟩
  let unconstrained ← (← thrust.checkedAdd drag).checkedAdd gravity
  let projected := max (← dotMixedQ30 unconstrained w.launchDirectionEnuQ30) 0
  let acceleration ← scaleDirection 19 w.launchDirectionEnuQ30 projected
  let (velocity, delta) ← localSuccessor current acceleration dt
  let time ← current.time.checkedAdd dt
  requireClear .numeric
  let position ← current.position.checkedAdd delta
  return {
    state := ⟨position, velocity, current.attitude, current.angularRate, time⟩
    machQ24 := air.machQ24
    dynamicQ14 := air.dynamicQ14 }

def stepLocalLaunch (w : GlobalWorldMachine) : Attempt GlobalWorldError GlobalWorldMachine Unit :=
  match w.coordinates with
  | .globalState _ => (.error .transition, w)
  | .localState current =>
      match w.launchMove current with
      | .error e => (.error e, w)
      | .ok move =>
          let moved := { w with coordinates := .localState move.state }
          (moved.consumeMainPropellant globalPoweredStepQ16).andThen fun _ w ↦
            (.ok (), { w with machQ24 := move.machQ24, dynamicPressureQ14 := move.dynamicQ14 })

/-! ## In the global frames -/

/-- The middle of a step, and the forces there. -/
structure Midpoint where
  velocity : GlobalVelocityVec
  mass : Int32
  sample : ForceSample
deriving DecidableEq

def globalMidpoint (w : GlobalWorldMachine) (current : GlobalKinematicState) (dt : UInt32)
    (controlled : Bool) : GuardedM GlobalWorldError Midpoint := do
  let first ← w.forceSample current controlled
  let halfDt := (dt / 2).toInt32
  let deltaV : GlobalVelocityVec := ⟨← multiplyScaled first.acceleration.x halfDt 20,
    ← multiplyScaled first.acceleration.y halfDt 20, ← multiplyScaled first.acceleration.z halfDt 20⟩
  let velocity ← current.velocity.checkedAdd deltaV
  let delta : GlobalPositionVec := ⟨← multiplyScaled current.velocity.x halfDt 28,
    ← multiplyScaled current.velocity.y halfDt 28, ← multiplyScaled current.velocity.z halfDt 28⟩
  let position ← current.position.checkedAdd delta
  let time ← current.time.checkedAdd (dt / 2)
  let mass ← w.midpointMass dt
  let sample ← w.forceSampleWithMass
    ⟨position, velocity, current.attitude, current.angularRate, time⟩ mass controlled
  return ⟨velocity, mass, sample⟩

/-- The increments of a step, and what is left over of them. -/
structure Increments where
  velocity : GlobalVelocityVec
  position : GlobalPositionVec
  velocityResidual : Residuals
  positionResidual : Residuals
deriving DecidableEq

def globalIncrements (w : GlobalWorldMachine) (m : Midpoint) (dt : UInt32) :
    NumericM Increments := do
  let rate := m.sample.acceleration
  let (vx, rvx) ← integrateWithResidual rate.x dt 20 w.velocityResidualQ20.x
  let (px, rpx) ← integrateWithResidual m.velocity.x dt 28 w.positionResidualQ28.x
  let (vy, rvy) ← integrateWithResidual rate.y dt 20 w.velocityResidualQ20.y
  let (py, rpy) ← integrateWithResidual m.velocity.y dt 28 w.positionResidualQ28.y
  let (vz, rvz) ← integrateWithResidual rate.z dt 20 w.velocityResidualQ20.z
  let (pz, rpz) ← integrateWithResidual m.velocity.z dt 28 w.positionResidualQ28.z
  return ⟨⟨vx, vy, vz⟩, ⟨px, py, pz⟩, ⟨rvx, rvy, rvz⟩, ⟨rpx, rpy, rpz⟩⟩

def globalSuccessor (w : GlobalWorldMachine) (current : GlobalKinematicState) (m : Midpoint)
    (i : Increments) (dt : UInt32) (controlled : Bool) :
    GuardedM GlobalWorldError GlobalKinematicState := do
  let velocity ← current.velocity.checkedAdd i.velocity
  let position ← current.position.checkedAdd i.position
  let time ← current.time.checkedAdd dt
  let rigid ← if controlled then do
      let inertia ← w.inertiaQ19 m.mass
      stepGlobalRigidBody ⟨current.attitude, current.angularRate⟩ inertia m.sample.torqueBodyQ12
        dt.toInt32
    else do
      let attitude ← w.commandedAttitude time
      pure ⟨attitude, current.angularRate⟩
  requireClear .numeric
  return ⟨position, velocity, rigid.attitude, rigid.angularRate, time⟩

/-- The residuals are kept before the last of the checks. -/
def stepGlobal (w : GlobalWorldMachine) (dt : UInt32) (controlled : Bool) :
    Attempt GlobalWorldError GlobalWorldMachine Unit :=
  match w.coordinates with
  | .localState _ => (.error .transition, w)
  | .globalState current =>
      match (w.globalMidpoint current dt controlled).run .clear with
      | (.error e, _) => (.error e, w)
      | (.ok midpoint, status) =>
          let (increments, status) := (w.globalIncrements midpoint dt).run status
          let w := { w with
            velocityResidualQ20 := increments.velocityResidual
            positionResidualQ28 := increments.positionResidual }
          match ((w.globalSuccessor current midpoint increments dt controlled).run status).1 with
          | .error e => (.error e, w)
          | .ok next =>
              let moved := { w with coordinates := .globalState next }
              (moved.consumeMainPropellant dt).andThen fun _ w ↦
                (.ok (), { w with
                  machQ24 := midpoint.sample.machQ24
                  dynamicPressureQ14 := midpoint.sample.dynamicPressureQ14Pa })

/-! ## Under the parachutes -/

def recoveryMove (w : GlobalWorldMachine) (current : LocalKinematicState) :
    Except GlobalWorldError LocalMove := guarded do
  let dt := globalCoastStepQ16
  let altitude := w.mission.recoveryHeightQ12Km + (← roundedI64 current.position.z.toInt64 2000)
  let atmosphere ← ofEnvironment (w.atmosphere.sample (max altitude ((-1 : Int32) <<< 12)))
  let air ← localAirData current.velocity atmosphere
  let dragForce ← dragForceQ13 air.dynamicQ14 (w.parachuteCdaQ24 w.recoveryDragBody) 24
    ((1 : Int32) <<< 24)
  let massQ13 := (w.totalMassQ21 + 128) >>> 8
  let dragAcceleration ← forceToAccelerationQ19 dragForce massQ13
  let drag ← unitAgainstLocalVelocity current.velocity air.speedQ4 dragAcceleration
  let acceleration ← drag.checkedAdd ⟨0, 0, -gravityQ19MS2⟩
  let (velocity, delta) ← localSuccessor current acceleration dt
  let position ← current.position.checkedAdd delta
  let time ← current.time.checkedAdd dt
  requireClear .numeric
  return {
    state := ⟨position, velocity, current.attitude, current.angularRate, time⟩
    machQ24 := air.machQ24
    dynamicQ14 := air.dynamicQ14 }

def stepLocalRecovery (w : GlobalWorldMachine) :
    Attempt GlobalWorldError GlobalWorldMachine Unit :=
  match w.coordinates with
  | .globalState _ => (.error .transition, w)
  | .localState current =>
      match w.recoveryMove current with
      | .error e => (.error e, w)
      | .ok move =>
          (.ok (), { w with
            coordinates := .localState move.state
            machQ24 := move.machQ24
            dynamicPressureQ14 := move.dynamicQ14 })

/-! ## Events -/

/-- What the events of a step are told from. -/
structure EventReadings where
  ecef : GlobalKinematicState
  altitude : Int32
  verticalVelocityQ24 : Int32
  automaticRecoveryAltitude : Int32
deriving DecidableEq

/-- The altitude at which an automatic recovery opens the main parachute. -/
def automaticRecoveryAltitude (w : GlobalWorldMachine) (altitude : Int32) :
    Except GlobalWorldError Int32 :=
  match w.segment, w.coordinates with
  | .localRecovery, .localState state => do
      let above ← roundedI64 state.position.z.toInt64 2000
      let sum := w.mission.recoveryHeightQ12Km.toInt64 + above.toInt64
      if OutsideI32 sum then .error .numeric else .ok sum.toInt32
  | _, _ => .ok altitude

def eventReadings (w : GlobalWorldMachine) : Except GlobalWorldError EventReadings := guarded do
  let ecef ← w.ecefState
  let geodetic ← ofEnvironment (ecefToGeodetic ecef.position)
  let rotation ← ofEnvironment
    (enuToEcefRotation geodetic.latitudeQ28Rad geodetic.longitudeQ28Rad)
  let localUp ← rotation.rotate (⟨0, 0, (1 : Int32) <<< 30⟩ : FixedVec3 30)
  let verticalVelocity ← dotMixedQ30 ecef.velocity localUp
  requireClear .numeric
  let automatic ← w.automaticRecoveryAltitude geodetic.heightQ12Km
  return ⟨ecef, geodetic.heightQ12Km, verticalVelocity, automatic⟩

def raise (w : GlobalWorldMachine) (events : UInt16) : GlobalWorldMachine :=
  { w with events := w.events ||| events }

def deployDrogue (w : GlobalWorldMachine) : GlobalWorldMachine :=
  { w with drogue := true, events := w.events ||| eventDrogue }

def deployMain (w : GlobalWorldMachine) : GlobalWorldMachine :=
  { w with main := true, events := w.events ||| eventMain }

/-- The first time the vehicle falls after burnout it is past its apogee.  Without commands the
drogue goes out there. -/
def trackApogee (w : GlobalWorldMachine) (readings : EventReadings) (automatic : Bool) :
    GlobalWorldMachine :=
  if w.apogeeQ12 < readings.altitude then { w with apogeeQ12 := readings.altitude }
  else if !w.descending && w.vehicle.burnTimeQ16S < w.currentTime.raw
      && readings.verticalVelocityQ24 < 0 then
    let fallen := { w with descending := true, events := w.events ||| eventApogee }
    if automatic then fallen.deployDrogue else fallen
  else w

def commandDrogue (w : GlobalWorldMachine) (command : GlobalCommandCell) : GlobalWorldMachine :=
  if !w.drogue && command.discrete &&& globalCommandDrogue != 0 then w.deployDrogue else w

def commandMain (w : GlobalWorldMachine) (command : GlobalCommandCell) : GlobalWorldMachine :=
  if w.drogue && !w.main && command.discrete &&& globalCommandMain != 0 then w.deployMain else w

/-- The parachutes go out on command, or by altitude if nobody commands. -/
def deployParachutes (w : GlobalWorldMachine) (readings : EventReadings) :
    Option GlobalCommandCell → GlobalWorldMachine
  | some command => (w.commandDrogue command).commandMain command
  | none =>
      if w.descending && !w.main
          && readings.automaticRecoveryAltitude ≤ w.mission.mainDeploymentAltitudeQ12Km then
        w.deployMain
      else w

/-! ## Changes of segment -/

def maxVecDelta {n : Nat} (a b : FixedVec3 n) : Int32 :=
  max (max (a.x - b.x).abs (a.y - b.y).abs) (a.z - b.z).abs

def maxQuaternionDelta (a b : QuaternionQ30) : Int32 :=
  max (max (max (a.w - b.w).abs (a.x - b.x).abs) (a.y - b.y).abs) (a.z - b.z).abs

/-- One word into a checksum. -/
def mixWord (multiplier checksum value : UInt32) : UInt32 :=
  rotateLeft32 checksum 5 ^^^ (value * multiplier)

def recordTransition (w : GlobalWorldMachine) (fromFrame toFrame : ReferenceFrameId)
    (before roundTrip : GlobalKinematicState) : Attempt GlobalWorldError GlobalWorldMachine Unit :=
  if transitionCapacity ≤ w.transitionCount.toNat ∨ before.time ≠ roundTrip.time then
    (.error .transition, w)
  else
    let positionDelta := maxVecDelta before.position roundTrip.position
    let velocityDelta := maxVecDelta before.velocity roundTrip.velocity
    let attitudeDelta := maxQuaternionDelta before.attitude roundTrip.attitude
    let angularRateDelta := maxVecDelta before.angularRate roundTrip.angularRate
    let checksum := [fromFrame.code, toFrame.code, before.time.raw, positionDelta.toUInt32,
      velocityDelta.toUInt32, attitudeDelta.toUInt32, angularRateDelta.toUInt32].foldl
        (mixWord 0x9e3779b1) 0x811c9dc5
    let record : FrameTransitionRecord := ⟨fromFrame, toFrame, before.time, positionDelta,
      velocityDelta, attitudeDelta, angularRateDelta, checksum⟩
    (.ok (), { w with
      transitions := w.transitions.setIfInBounds w.transitionCount.toNat record
      transitionCount := w.transitionCount + 1 })

/-- The vehicle goes on in the next segment, without anything left over from rounding. -/
def enterSegment (w : GlobalWorldMachine) (segment : GlobalSegment) (coordinates : Coordinates)
    (events : UInt16) : GlobalWorldMachine :=
  { w with
    segment := segment
    coordinates := coordinates
    positionResidualQ28 := .zero
    velocityResidualQ20 := .zero
    events := w.events ||| events }

/-- A change of segment: the state before it, the state there and back again, and the state after
it. -/
structure FrameChange where
  before : GlobalKinematicState
  roundTrip : GlobalKinematicState
  after : Coordinates
deriving DecidableEq

/-- The change is recorded and made. -/
def changeSegment (w : GlobalWorldMachine) (segment : GlobalSegment)
    (change : Except GlobalWorldError FrameChange) (events : UInt16) :
    Attempt GlobalWorldError GlobalWorldMachine Unit :=
  match change with
  | .error e => (.error e, w)
  | .ok change =>
      (w.recordTransition w.segment.frame segment.frame change.before change.roundTrip).andThen
        fun _ w ↦ (.ok (), w.enterSegment segment change.after events)

/-- The distance along the rail. -/
def railDistance (w : GlobalWorldMachine) (state : LocalKinematicState) :
    Except GlobalWorldError Int32 := guarded do
  let distance ← dotMixedQ30 state.position w.launchDirectionEnuQ30
  requireClear .numeric
  return distance

/-- Off the rail.  The events are raised before the state is converted. -/
def leaveRail (w : GlobalWorldMachine) : Attempt GlobalWorldError GlobalWorldMachine Unit :=
  match w.coordinates with
  | .globalState _ => (.error .transition, w)
  | .localState state =>
      match w.railDistance state with
      | .error e => (.error e, w)
      | .ok distance =>
          if w.mission.railLengthQ13M ≤ distance then
            (w.raise (eventRailClear ||| eventEcefOwner)).changeSegment .ecefAscent
              (do
                let global ← ofFrame (localToEcef w.launchAnchor state)
                pure ⟨global, global, .globalState global⟩) 0
          else (.ok (), w)

/-- The conversion of a global state. -/
def changeOfGlobal (w : GlobalWorldMachine)
    (there back : InterpolatedTransform → GlobalKinematicState →
      Except FrameError GlobalKinematicState) : Except GlobalWorldError FrameChange :=
  match w.coordinates with
  | .localState _ => .error .transition
  | .globalState current => do
      let transform ← ofFrame (interpolateTransform w.transforms w.currentTime)
      let after ← ofFrame (there transform current)
      let roundTrip ← ofFrame (back transform after)
      pure ⟨current, roundTrip, .globalState after⟩

def changeToRecovery (w : GlobalWorldMachine) (ecef : GlobalKinematicState) :
    Except GlobalWorldError FrameChange := do
  let after ← ofFrame (ecefToLocal w.recoveryAnchor ecef)
  let roundTrip ← ofFrame (localToEcef w.recoveryAnchor after)
  pure ⟨ecef, roundTrip, .localState after⟩

def distanceQ12 (a b : GlobalPositionVec) : Except GlobalWorldError Int32 := guarded do
  let difference ← a.checkedSub b
  let magnitude ← difference.magnitudeFloor
  requireClear .numeric
  if 0x7fffffff < magnitude then throw .numeric
  return magnitude.toInt32

/-- The vehicle is low, slow and near enough for its parachutes. -/
def reachesRecovery (w : GlobalWorldMachine) (readings : EventReadings) :
    Except GlobalWorldError Bool :=
  if readings.altitude ≤ w.mission.recoveryTransitionAltitudeQ12Km
      ∧ w.machQ24 ≤ w.mission.recoveryTransitionMachQ24 then do
    let distance ← distanceQ12 readings.ecef.position w.recoveryAnchor.originEcef
    pure (decide (distance ≤ w.mission.recoveryRadiusQ12Km))
  else .ok false

/-- The change of segment at a release, if it is time for one. -/
def changeAtRelease (w : GlobalWorldMachine) (readings : EventReadings) :
    Attempt GlobalWorldError GlobalWorldMachine Unit :=
  match w.segment with
  | .localLaunch => w.leaveRail
  | .ecefAscent =>
      if w.mission.eciTransitionAltitudeQ12Km < readings.altitude
          ∧ w.dynamicPressureQ14 < w.mission.transitionDynamicPressureQ14Pa then
        w.changeSegment .eciCoast (w.changeOfGlobal ecefToGcrf gcrfToEcef) eventEciOwner
      else (.ok (), w)
  | .eciCoast =>
      if w.descending = true
          ∧ readings.altitude ≤ w.mission.entryTransitionAltitudeQ12Km then
        w.changeSegment .ecefEntry (w.changeOfGlobal gcrfToEcef ecefToGcrf) eventEntryOwner
      else (.ok (), w)
  | .ecefEntry =>
      match w.reachesRecovery readings with
      | .error e => (.error e, w)
      | .ok false => (.ok (), w)
      | .ok true =>
          w.changeSegment .localRecovery (w.changeToRecovery readings.ecef) eventRecoveryOwner
  | .localRecovery => (.ok (), w)

/-! ## The step -/

/-- The vehicle is on the ground and still falling. -/
def checkLanding (w : GlobalWorldMachine) : Attempt GlobalWorldError GlobalWorldMachine Unit :=
  if w.segment = .localRecovery then
    match w.coordinates with
    | .globalState _ => (.error .transition, w)
    | .localState state =>
        if state.position.z ≤ 0 ∧ state.velocity.z < 0 then
          (.ok (), { w with complete := true, events := w.events ||| eventLanding })
        else (.ok (), w)
  else (.ok (), w)

def checkTimeout (w : GlobalWorldMachine) (time : MissionTimeQ16) :
    Attempt GlobalWorldError GlobalWorldMachine Unit :=
  if w.mission.maxMissionTimeQ16S ≤ time.raw ∧ w.complete = false then (.error .timeout, w)
  else (.ok (), w)

/-- The time is that of a release. -/
def atRelease (w : GlobalWorldMachine) : Bool :=
  w.currentTime.raw &&& (globalAvionicsPeriodQ16 - 1) == 0

/-- The vehicle as the events leave it: past its apogee or not, with or without parachutes. -/
def noteEvents (w : GlobalWorldMachine) (readings : EventReadings)
    (command : Option GlobalCommandCell) : GlobalWorldMachine :=
  { (w.trackApogee readings command.isNone).deployParachutes readings command with
    lastAltitudeQ12 := readings.altitude }

def processEventsAndTransitions (w : GlobalWorldMachine) (command : Option GlobalCommandCell) :
    Attempt GlobalWorldError GlobalWorldMachine Unit :=
  match w.eventReadings with
  | .error e => (.error e, w)
  | .ok readings =>
      let noted := w.noteEvents readings command
      (if noted.atRelease then noted.changeAtRelease readings else (.ok (), noted)).andThen
        fun _ changed ↦ changed.checkLanding.andThen fun _ landed ↦
          landed.checkTimeout w.currentTime

def updateChecksum (w : GlobalWorldMachine) : Attempt GlobalWorldError GlobalWorldMachine Unit :=
  match w.canonicalState with
  | .error e => (.error e, w)
  | .ok state =>
      (.ok (), { w with
        checksum := [w.segment.code, state.time.raw, state.position.x.toUInt32,
          state.position.y.toUInt32, state.position.z.toUInt32, state.velocity.x.toUInt32,
          state.velocity.y.toUInt32, state.velocity.z.toUInt32, w.mainPropellantQ21.toUInt32,
          w.events.toUInt32].foldl (mixWord 0x01000193) w.checksum })

/-- The longest step of a segment. -/
def maximumStep (segment : GlobalSegment) : UInt32 :=
  match segment with
  | .localLaunch | .ecefAscent | .ecefEntry => globalPoweredStepQ16
  | .eciCoast | .localRecovery => globalCoastStepQ16

/-- The time to the next multiple of the longest step. -/
def physicalStep (w : GlobalWorldMachine) : UInt32 :=
  let maximum := maximumStep w.segment
  maximum - w.currentTime.raw % maximum

/-- The step of a controlled vehicle ends with its shortest pulse. -/
def stepLength (w : GlobalWorldMachine) (controlled : Bool) : UInt32 :=
  if controlled then w.actuators.nextEdgeQ16 w.physicalStep else w.physicalStep

def acceptCommand (w : GlobalWorldMachine) : Option GlobalCommandCell → GlobalWorldMachine
  | none => w
  | some command =>
      let actuators := w.actuators.accept command w.vehicle (w.powered w.currentTime)
        (decide (w.segment = .localLaunch)) w.rcsPropellantQ21
      { w with actuators := actuators }

def moveVehicle (w : GlobalWorldMachine) (dt : UInt32) (controlled : Bool) :
    Attempt GlobalWorldError GlobalWorldMachine Unit :=
  match w.segment with
  | .localLaunch => w.stepLocalLaunch
  | .ecefAscent | .ecefEntry | .eciCoast => w.stepGlobal dt controlled
  | .localRecovery => w.stepLocalRecovery

/-- The step of a world whose command has been taken. -/
def stepPhysical (w : GlobalWorldMachine) (command : Option GlobalCommandCell) :
    Attempt GlobalWorldError GlobalWorldMachine Unit :=
  let dt := w.stepLength command.isSome
  let activeJets := w.actuators.activeJets
  ({ w with events := 0 }.moveVehicle dt command.isSome).andThen fun _ w ↦
  (w.consumeRcsPropellant activeJets dt).andThen fun _ w ↦
  ({ w with actuators := w.actuators.advancePulses dt }.processEventsAndTransitions
    command).andThen fun _ w ↦
  w.updateChecksum

def stepInternal (w : GlobalWorldMachine) (command : Option GlobalCommandCell) :
    Attempt GlobalWorldError GlobalWorldMachine GlobalWorldSnapshot :=
  if w.complete then (.error .complete, w)
  else ((w.acceptCommand command).stepPhysical command).andThen fun _ w ↦ (w.snapshot, w)

def step (w : GlobalWorldMachine) : Attempt GlobalWorldError GlobalWorldMachine GlobalWorldSnapshot :=
  w.stepInternal none

/-- Only a command for the frame of the segment is taken. -/
def stepCommanded (w : GlobalWorldMachine) (command : GlobalCommandCell) :
    Attempt GlobalWorldError GlobalWorldMachine GlobalWorldSnapshot :=
  if command.frame ≠ interfaceFrame w.segment.frame then (.error .identity, w)
  else w.stepInternal (some command)

end GlobalWorldMachine

end Ksa64.Sim
