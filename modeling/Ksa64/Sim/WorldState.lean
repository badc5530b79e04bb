import Ksa64.Core.GlobalFrames
import Ksa64.Core.GlobalGeodesy
import Ksa64.Library.Attempt
import Ksa64.Sim.GlobalControl

/-!
# The state of the world

The world carries the vehicle through the five segments of its flight, each in a frame of its own.
Its state is the state of the vehicle in that frame, what is left of the propellants and pulses,
the latches of the recovery, and a record of each change of frame.
-/

namespace Ksa64.Sim

open Ksa64.Library Ksa64.Core Ksa64.Interface

inductive GlobalWorldError where
  | pack
  | environment
  | frame
  | identity
  | numeric
  | envelopeDynamicPressure
  | envelopeMach
  | envelopeAngleOfAttack
  | envelopeAeroTable
  | transition
  | complete
  | timeout
deriving DecidableEq, Repr

def ofPack {α : Type} (x : Except GlobalPackError α) : Except GlobalWorldError α :=
  x.mapError fun _ ↦ .pack

def ofEnvironment {α : Type} (x : Except EnvironmentError α) : Except GlobalWorldError α :=
  x.mapError fun _ ↦ .environment

def ofFrame {α : Type} (x : Except FrameError α) : Except GlobalWorldError α :=
  x.mapError fun _ ↦ .frame

def eventRailClear : UInt16 := 0x0001
def eventEcefOwner : UInt16 := 0x0002
def eventBurnout : UInt16 := 0x0004
def eventEciOwner : UInt16 := 0x0008
def eventApogee : UInt16 := 0x0010
def eventEntryOwner : UInt16 := 0x0020
def eventDrogue : UInt16 := 0x0040
def eventRecoveryOwner : UInt16 := 0x0080
def eventMain : UInt16 := 0x0100
def eventLanding : UInt16 := 0x0200

def gravityQ19MS2 : Int32 := 5141504
def maxDynamicPressureQ14 : Int32 := (100000 : Int32) <<< 14
def maxMachQ24 : Int32 := (10 : Int32) <<< 24
def transitionCapacity : Nat := 4

structure FrameTransitionRecord where
  fromFrame : ReferenceFrameId
  toFrame : ReferenceFrameId
  time : MissionTimeQ16
  positionDeltaRaw : Int32
  velocityDeltaRaw : Int32
  attitudeDeltaRaw : Int32
  angularRateDeltaRaw : Int32
  checksum : UInt32
deriving DecidableEq

def FrameTransitionRecord.zero : FrameTransitionRecord :=
  ⟨.localEnuV1, .localEnuV1, .zero, 0, 0, 0, 0, 0⟩

/-- The state of the vehicle, in a local frame or in a global one. -/
inductive Coordinates where
  | localState (state : LocalKinematicState)
  | globalState (state : GlobalKinematicState)
deriving DecidableEq

structure GlobalWorldSnapshot where
  segment : GlobalSegment
  frame : ReferenceFrameId
  state : GlobalKinematicState
  altitudeQ12Km : Int32
  machQ24 : Int32
  dynamicPressureQ14Pa : Int32
  totalMassQ21Kg : Int32
  mainPropellantQ21Kg : Int32
  rcsPropellantQ21Kg : Int32
  apogeeQ12Km : Int32
  events : UInt16
  transitionCount : UInt8
  checksum : UInt32
deriving DecidableEq

structure TransitionServiceRecord where
  fromFrame : GlobalFrameId
  toFrame : GlobalFrameId
  time : MissionTimeQ16
  transformIdentity : UInt32
  rotationQ30 : QuaternionQ30
  omegaQ24 : GlobalAngularRateVec
  translationQ12 : GlobalPositionVec
  velocityBiasQ24 : GlobalVelocityVec
  before : GlobalKinematicState
  after : GlobalKinematicState
  checksum : UInt32
deriving DecidableEq

structure FrameService where
  frame : GlobalFrameId
  rotationQ30 : QuaternionQ30
  omegaQ24 : GlobalAngularRateVec
  translationQ12 : GlobalPositionVec
  velocityBiasQ24 : GlobalVelocityVec
deriving DecidableEq

/-- What rounding has left over on each axis. -/
structure Residuals where
  x : Int64
  y : Int64
  z : Int64
deriving DecidableEq

def Residuals.zero : Residuals := ⟨0, 0, 0⟩

/-- The packs of a world, which no step changes. -/
structure WorldPacks where
  earth : EarthModelPack
  transforms : TransformPack
  atmosphere : CompiledAtmospherePack
  vehicle : GlobalVehiclePack
  mission : GlobalMissionPack
deriving DecidableEq

structure GlobalWorldMachine extends WorldPacks where
  segment : GlobalSegment
  coordinates : Coordinates
  launchAnchor : LocalAnchor
  recoveryAnchor : LocalAnchor
  launchDirectionEnuQ30 : FixedVec3 30
  mainPropellantQ21 : Int32
  rcsPropellantQ21 : Int32
  actuators : GlobalActuatorState
  descending : Bool
  drogue : Bool
  main : Bool
  complete : Bool
  lastAltitudeQ12 : Int32
  apogeeQ12 : Int32
  machQ24 : Int32
  dynamicPressureQ14 : Int32
  events : UInt16
  transitions : Vector FrameTransitionRecord transitionCapacity
  transitionCount : UInt8
  checksum : UInt32
  positionResidualQ28 : Residuals
  velocityResidualQ20 : Residuals
deriving DecidableEq

/-! ## Starting -/

/-- The packs are sound and made for each other. -/
def WorldPacks.validate (p : WorldPacks) : Except GlobalWorldError Unit := do
  p.earth.validate.mapError fun _ ↦ .identity
  p.transforms.validate.mapError fun _ ↦ .identity
  ofEnvironment p.atmosphere.validate
  ofPack p.vehicle.validate
  ofPack p.mission.validate
  reject (p.mission.earthIdentity ≠ p.earth.identity
    ∨ p.mission.transformIdentity ≠ p.transforms.identity
    ∨ p.mission.atmosphereIdentity ≠ p.atmosphere.identity
    ∨ p.mission.vehicleIdentity ≠ p.vehicle.identity
    ∨ p.transforms.earthIdentity ≠ p.earth.identity
    ∨ p.atmosphere.earthIdentity ≠ p.earth.identity) .identity

/-- The local frame of a place on the Earth. -/
def anchorAt (identity : UInt32) (geodetic : GeodeticState) :
    Except GlobalWorldError LocalAnchor := do
  let origin ← ofEnvironment (geodeticToEcef geodetic)
  let rotation ← ofEnvironment
    (enuToEcefRotation geodetic.latitudeQ28Rad geodetic.longitudeQ28Rad)
  ofFrame (LocalAnchor.validate {
    identity := identity
    originEcef := origin
    enuToEcef := rotation
    referenceMeridianQ28Rad := geodetic.longitudeQ28Rad })

namespace GlobalWorldMachine

def new (p : WorldPacks) : Except GlobalWorldError GlobalWorldMachine := do
  p.validate
  let mission := p.mission
  let launchAnchor ← anchorAt (mission.identity ^^^ 0x4c41554e) {
    latitudeQ28Rad := mission.launchLatitudeQ28Rad
    longitudeQ28Rad := mission.launchLongitudeQ28Rad
    heightQ12Km := mission.launchHeightQ12Km }
  let recoveryAnchor ← anchorAt (mission.identity ^^^ 0x52454356) {
    latitudeQ28Rad := mission.recoveryLatitudeQ28Rad
    longitudeQ28Rad := mission.recoveryLongitudeQ28Rad
    heightQ12Km := mission.recoveryHeightQ12Km }
  let direction ← ofEnvironment
    (launchDirectionEnu mission.launchAzimuthQ28Rad mission.launchElevationQ28Rad)
  let attitude ← ofEnvironment (bodyXAttitude direction)
  pure {
    toWorldPacks := p
    segment := .localLaunch
    coordinates := .localState {
      position := .zero
      velocity := .zero
      attitude := attitude
      angularRate := .zero
      time := .zero }
    launchAnchor := launchAnchor
    recoveryAnchor := recoveryAnchor
    launchDirectionEnuQ30 := direction
    mainPropellantQ21 := p.vehicle.mainPropellantQ21Kg
    rcsPropellantQ21 := p.vehicle.rcsPropellantQ21Kg
    actuators := .neutral
    descending := false
    drogue := false
    main := false
    complete := false
    lastAltitudeQ12 := mission.launchHeightQ12Km
    apogeeQ12 := mission.launchHeightQ12Km
    machQ24 := 0
    dynamicPressureQ14 := 0
    events := 0
    transitions := .replicate transitionCapacity .zero
    transitionCount := 0
    checksum := 0x811c9dc5
    positionResidualQ28 := .zero
    velocityResidualQ20 := .zero }

/-! ## Looking -/

def totalMassQ21 (w : GlobalWorldMachine) : Int32 :=
  saturatingAddI32 (saturatingAddI32 w.vehicle.dryMassQ21Kg w.mainPropellantQ21) w.rcsPropellantQ21

def currentTime (w : GlobalWorldMachine) : MissionTimeQ16 :=
  match w.coordinates with
  | .localState state => state.time
  | .globalState state => state.time

end GlobalWorldMachine

def interfaceFrame : ReferenceFrameId → GlobalFrameId
  | .localEnuV1 => .localEnuV1
  | .earthFixedEcefV1 => .earthFixedEcefV1
  | .earthInertialEciV1 => .earthInertialEciV1

def roundedI64 (value denominator : Int64) : Except GlobalWorldError Int32 :=
  if denominator ≤ 0 then .error .numeric
  else
    let rounded := roundedQuotient value denominator
    if OutsideI32 rounded then .error .numeric else .ok rounded.toInt32

/-- A local state in the units of the global ones. -/
def localActiveState (state : LocalKinematicState) :
    Except GlobalWorldError GlobalKinematicState := do
  let position : GlobalPositionVec := ⟨← roundedI64 state.position.x.toInt64 2000,
    ← roundedI64 state.position.y.toInt64 2000, ← roundedI64 state.position.z.toInt64 2000⟩
  let velocity : GlobalVelocityVec := ⟨← roundedI64 (state.velocity.x.toInt64 * 4) 125,
    ← roundedI64 (state.velocity.y.toInt64 * 4) 125,
    ← roundedI64 (state.velocity.z.toInt64 * 4) 125⟩
  pure ⟨position, velocity, state.attitude, state.angularRate, state.time⟩

namespace GlobalWorldMachine

def activeState (w : GlobalWorldMachine) : Except GlobalWorldError GlobalKinematicState :=
  match w.coordinates with
  | .localState state => localActiveState state
  | .globalState state => .ok state

/-- The anchor of the local frame the vehicle is in, or would be in. -/
def anchor (w : GlobalWorldMachine) : LocalAnchor :=
  if w.segment = .localRecovery then w.recoveryAnchor else w.launchAnchor

def canonicalState (w : GlobalWorldMachine) : Except GlobalWorldError GlobalKinematicState :=
  match w.coordinates with
  | .localState state => ofFrame (localToEcef w.anchor state)
  | .globalState state => .ok state

def ecefState (w : GlobalWorldMachine) : Except GlobalWorldError GlobalKinematicState :=
  match w.coordinates with
  | .localState _ => w.canonicalState
  | .globalState state =>
      if w.segment = .ecefAscent ∨ w.segment = .ecefEntry then .ok state
      else do
        let transform ← ofFrame (interpolateTransform w.transforms state.time)
        ofFrame (gcrfToEcef transform state)

def snapshot (w : GlobalWorldMachine) : Except GlobalWorldError GlobalWorldSnapshot := do
  let state ← w.canonicalState
  pure {
    segment := w.segment
    frame := w.segment.frame
    state := state
    altitudeQ12Km := w.lastAltitudeQ12
    machQ24 := w.machQ24
    dynamicPressureQ14Pa := w.dynamicPressureQ14
    totalMassQ21Kg := w.totalMassQ21
    mainPropellantQ21Kg := w.mainPropellantQ21
    rcsPropellantQ21Kg := w.rcsPropellantQ21
    apogeeQ12Km := w.apogeeQ12
    events := w.events
    transitionCount := w.transitionCount
    checksum := w.checksum }

def deploymentFeedback (w : GlobalWorldMachine) : UInt16 :=
  w.drogue.toUInt16 ||| (w.main.toUInt16 <<< 1)

def frameService (w : GlobalWorldMachine) : Except GlobalWorldError FrameService :=
  match w.segment with
  | .ecefAscent | .ecefEntry =>
      .ok ⟨.earthFixedEcefV1, .identity, .zero, .zero, .zero⟩
  | .eciCoast => do
      let transform ← ofFrame (interpolateTransform w.transforms w.currentTime)
      pure ⟨.earthInertialEciV1, transform.ecefToGcrf, transform.angularVelocityGcrf, .zero, .zero⟩
  | .localLaunch | .localRecovery => guarded do
      let rotation := w.anchor.enuToEcef.conjugate
      let rotatedOrigin ← rotation.rotate w.anchor.originEcef
      let translation ← (FixedVec3.zero : GlobalPositionVec).checkedSub rotatedOrigin
      requireClear .numeric
      return ⟨.localEnuV1, rotation, .zero, translation, .zero⟩

/-- The state before the last change of frame, and how it was turned. -/
def transitionBefore (w : GlobalWorldMachine) (record : FrameTransitionRecord)
    (after : GlobalKinematicState) :
    Except GlobalWorldError (GlobalKinematicState × QuaternionQ30 × GlobalAngularRateVec × UInt32) :=
  match record.fromFrame, record.toFrame with
  | .localEnuV1, .earthFixedEcefV1 => do
      let before ← localActiveState (← ofFrame (ecefToLocal w.launchAnchor after))
      pure (before, w.launchAnchor.enuToEcef, .zero, w.launchAnchor.identity)
  | .earthFixedEcefV1, .earthInertialEciV1 => do
      let transform ← ofFrame (interpolateTransform w.transforms record.time)
      let before ← ofFrame (gcrfToEcef transform after)
      pure (before, transform.ecefToGcrf, transform.angularVelocityGcrf, w.transforms.identity)
  | .earthInertialEciV1, .earthFixedEcefV1 => do
      let transform ← ofFrame (interpolateTransform w.transforms record.time)
      let before ← ofFrame (ecefToGcrf transform after)
      pure (before, transform.ecefToGcrf.conjugate, transform.angularVelocityGcrf,
        w.transforms.identity)
  | .earthFixedEcefV1, .localEnuV1 =>
      match w.coordinates with
      | .localState state => do
          let before ← ofFrame (localToEcef w.recoveryAnchor state)
          pure (before, w.recoveryAnchor.enuToEcef.conjugate, .zero, w.recoveryAnchor.identity)
      | .globalState _ => .error .transition
  | _, _ => .error .transition

/-- Only the last change of frame is served, and only at the time it was made. -/
def transitionService (w : GlobalWorldMachine) (index : Nat) :
    Except GlobalWorldError TransitionServiceRecord := guarded do
  if w.transitionCount.toNat ≤ index ∨ index + 1 ≠ w.transitionCount.toNat then throw .transition
  let record := w.transitions.toList.getD index .zero
  if record.time ≠ w.currentTime then throw .transition
  let after ← w.activeState
  let (before, rotation, omega, identity) ← w.transitionBefore record after
  let rotatedPosition ← rotation.rotate before.position
  let translation ← after.position.checkedSub rotatedPosition
  let velocityBias ← (do
    if omega = .zero then
      after.velocity.checkedSub (← rotation.rotate before.velocity)
    else pure .zero : NumericM GlobalVelocityVec)
  requireClear .numeric
  return {
    fromFrame := interfaceFrame record.fromFrame
    toFrame := interfaceFrame record.toFrame
    time := record.time
    transformIdentity := identity
    rotationQ30 := rotation
    omegaQ24 := omega
    translationQ12 := translation
    velocityBiasQ24 := velocityBias
    before := before
    after := after
    checksum := record.checksum }

end GlobalWorldMachine

end Ksa64.Sim
