import Ksa64.Sim.Avionics
import Ksa64.Sim.GlobalWorld

/-!
# The avionics mission in the simulated world

The mission flies the flight software in the world.  At a release it reads the world, makes the
cells of the sensors and gives them to the software; between two releases it steps the world with
the command of the last one.
-/

namespace Ksa64.Sim

open Ksa64.Library Ksa64.Core Ksa64.Interface Ksa64.Flight

/-! ## Faults of the sensors -/

structure GlobalSensorFaults where
  imuDeltaVelocityBias : Vector Int16 3
  imuDeltaAngleBias : Vector Int16 3
  barometerBiasQ12Km : Int32
  gnssPositionBiasQ12Km : Vec3
  gnssVelocityBiasQ24KmS : Vec3
  clockDriftPpm : Int16
  fastDropoutStart : UInt16
  fastDropoutLength : UInt8
  gnssDropoutStart : UInt16
  gnssDropoutLength : UInt8
  gnssDropoutFromRelease : UInt16
  gnssDropoutUntilRelease : UInt16
deriving DecidableEq

def GlobalSensorFaults.none : GlobalSensorFaults where
  imuDeltaVelocityBias := .replicate 3 0
  imuDeltaAngleBias := .replicate 3 0
  barometerBiasQ12Km := 0
  gnssPositionBiasQ12Km := .replicate 3 0
  gnssVelocityBiasQ24KmS := .replicate 3 0
  clockDriftPpm := 0
  fastDropoutStart := 0
  fastDropoutLength := 0
  gnssDropoutStart := 0
  gnssDropoutLength := 0
  gnssDropoutFromRelease := 0
  gnssDropoutUntilRelease := 0

def inWindow (epoch start : UInt16) (length : UInt8) : Bool :=
  length != 0 && epoch - start < length.toUInt16

/-- The time of a clock that drifts. -/
def driftedTime (time : UInt32) (ppm : Int16) : Except GlobalWorldError UInt32 :=
  let correction := time.toUInt64.toInt64 * ppm.toInt64 / 1000000
  let result := time.toUInt64.toInt64 + correction
  if result < 0 ∨ 0xffffffff < result then .error .numeric else .ok result.toUInt64.toUInt32

/-- The noise on an axis of a sensor. -/
def keyedSigned (seed : UInt32) (epoch : UInt16) (axis stream : UInt32) : Int32 :=
  let value := seed ^^^ epoch.toUInt32 * 0x9e3779b9 ^^^ axis * 0x85ebca6b ^^^ stream * 0xc2b2ae35
  let value := (value ^^^ value >>> 16) * 0x7feb352d
  let value := (value ^^^ value >>> 15) * 0x846ca68b
  ((value ^^^ value >>> 16) &&& 0xffff).toInt32 - 32768

/-! ## Checksums -/

/-- What the mission takes of a fast cell into its checksum. -/
def hashFastSensor (checksum : UInt32) (cell : GlobalFastSensorCell) : UInt32 :=
  let checksum := hashWord checksum cell.measurementEpoch.toUInt32
  let checksum := hashWord checksum cell.missionTimeQ16
  let checksum := hashWord checksum cell.frame.code.toUInt32
  (cell.deltaVelocityQ24.toList.map fun value ↦ value.toUInt16.toUInt32).foldl hashWord checksum

def hashPlacement (checksum : UInt32) (epoch : UInt16) (sensor command navigation : UInt32) :
    UInt32 :=
  let checksum := hashWord checksum epoch.toUInt32
  let checksum := hashWord checksum sensor
  let checksum := hashWord checksum command
  hashWord checksum navigation

/-! ## Raw values -/

theorem size_axes {α : Type} (x y z : α) : (#[x, y, z] : Array α).size = 3 := rfl

/-- Three axes. -/
def axes {α : Type} (x y z : α) : Vector α 3 := ⟨#[x, y, z], size_axes x y z⟩

theorem size_components (w x y z : Int32) : (#[w, x, y, z] : Array Int32).size = 4 := rfl

def vectorArray {bits : Nat} (v : FixedVec3 bits) : Vec3 := axes v.x v.y v.z

def quaternionArray (q : QuaternionQ30) : Quaternion :=
  ⟨#[q.w, q.x, q.y, q.z], size_components q.w q.x q.y q.z⟩

/-! ## The flight software -/

/-- Flight software that processes a release. -/
class GlobalFlightReleaseProcessor (P : Type) where
  processRelease : P → Option GlobalFastSensorCell → Option GlobalAidFrameCell →
    Option GlobalTransitionCell → GlobalFlightEvidence × P

open GlobalFlightReleaseProcessor (processRelease)

instance : GlobalFlightReleaseProcessor GlobalFlightComputer := ⟨GlobalFlightComputer.tick⟩

instance : GlobalFlightReleaseProcessor KsaG10rReferenceOpsV1 :=
  ⟨KsaG10rReferenceOpsV1.processRelease⟩

/-! ## The mission -/

structure GlobalAvionicsMission (P : Type) where
  world : GlobalWorldMachine
  processor : P
  vehicle : GlobalVehiclePack
  faults : GlobalSensorFaults
  seed : UInt32
  epoch : UInt16
  releases : UInt32
  physicalSteps : UInt32
  lastTransitionCount : UInt8
  previousActive : GlobalKinematicState
  heldCommand : GlobalCommandCell
  lastFlight : Option GlobalFlightEvidence
  maxDynamicPressureQ14 : Int32
  maxMachQ24 : Int32
  maxAccelerationQ28 : Int32
  maxNavigationPositionErrorQ12 : Int32
  maxNavigationVelocityErrorQ24 : Int32
  sensorChecksum : UInt32
  commandChecksum : UInt32
  placementChecksum : UInt32

/-- What a release reads. -/
structure ReleaseReadings where
  snapshot : GlobalWorldSnapshot
  active : GlobalKinematicState
  service : Option TransitionServiceRecord
  fast : Option GlobalFastSensorCell
  aid : GlobalAidFrameCell
  transition : Option GlobalTransitionCell
deriving DecidableEq

namespace GlobalAvionicsMission

variable {P : Type}

/-- The flight must start where the world does. -/
def withProcessor (packs : WorldPacks) (flightConfig : GlobalFlightConfig) (processor : P)
    (faults : GlobalSensorFaults) (seed : UInt32) :
    Except GlobalWorldError (GlobalAvionicsMission P) := do
  let world ← GlobalWorldMachine.new packs
  let previousActive ← world.activeState
  reject (flightConfig.initialFrame ≠ .localEnuV1
    ∨ flightConfig.initialPositionQ12 ≠ vectorArray previousActive.position) .identity
  pure {
    world := world
    processor := processor
    vehicle := packs.vehicle
    faults := faults
    seed := seed
    epoch := 0
    releases := 0
    physicalSteps := 0
    lastTransitionCount := 0
    previousActive := previousActive
    heldCommand := {
      session := flightConfig.session
      sourceEpoch := 0xffff
      effectiveEpoch := 0
      frame := .localEnuV1
      flags := 0
      discrete := 0
      gimbalQ15 := .replicate 2 0
      rcsPulseQuanta := .replicate 12 0
      torqueDemandQ12 := .replicate 3 0
      status := 0
      commandChecksum := 0x811c9dc5 }
    lastFlight := none
    maxDynamicPressureQ14 := 0
    maxMachQ24 := 0
    maxAccelerationQ28 := 0
    maxNavigationPositionErrorQ12 := 0
    maxNavigationVelocityErrorQ24 := 0
    sensorChecksum := 0x811c9dc5
    commandChecksum := 0x811c9dc5
    placementChecksum := 0x811c9dc5 }

def new (packs : WorldPacks) (flightConfig : GlobalFlightConfig) (faults : GlobalSensorFaults)
    (seed : UInt32) : Except GlobalWorldError (GlobalAvionicsMission GlobalFlightComputer) :=
  match GlobalFlightComputer.new flightConfig with
  | none => .error .identity
  | some flight => withProcessor packs flightConfig flight faults seed

/-! ## The cells -/

/-- The increments since the last release, with the noise of the inertial sensors.  Over a change of
frame there is no increment of the velocity. -/
def fastSensor (m : GlobalAvionicsMission P) (snapshot : GlobalWorldSnapshot)
    (active : GlobalKinematicState) (transition : Option TransitionServiceRecord) :
    Except GlobalWorldError GlobalFastSensorCell := do
  let previous :=
    vectorArray (if transition.isSome then active.velocity else m.previousActive.velocity)
  let velocity := vectorArray active.velocity
  let rate := vectorArray active.angularRate
  let noise (axis : Fin 3) := keyedSigned m.seed m.epoch (.ofNat axis) 3
  let missionTime ← driftedTime active.time.raw m.faults.clockDriftPpm
  pure {
    session := m.heldCommand.session
    measurementEpoch := m.epoch
    productionEpoch := m.epoch
    frame := interfaceFrame snapshot.frame
    validity := 63
    missionTimeQ16 := missionTime
    deltaVelocityQ24 := .ofFn fun axis ↦ clampI16
      (addSatI32 (addSatI32 (subSatI32 (velocity.get axis) (previous.get axis))
        (m.faults.imuDeltaVelocityBias.get axis).toInt32) (noise axis >>> 13))
    deltaAngleQ24 := .ofFn fun axis ↦ clampI16
      (addSatI32 (addSatI32 (rate.get axis >>> 5) (m.faults.imuDeltaAngleBias.get axis).toInt32)
        (noise axis >>> 15))
    attitudeVectorQ15 := axes (clampI16 (active.attitude.x >>> 15))
      (clampI16 (active.attitude.y >>> 15)) (clampI16 (active.attitude.z >>> 15))
    angularRateQ15 := rate.map fun value : Int32 ↦ clampI16 (value >>> 9)
    dynamicPressureQ10 := snapshot.dynamicPressureQ14Pa >>> 4
    machQ12 := clampI16 (snapshot.machQ24 >>> 12)
    gimbalAppliedQ15 := m.world.actuators.gimbalTurn16.map (· / 2)
    rcsPropellantQ21 := snapshot.rcsPropellantQ21Kg
    actuatorFeedback := m.world.deploymentFeedback
    vehicleStatus := (decide (active.time.raw < m.vehicle.burnTimeQ16S)).toUInt16 <<< 1
    sensorChecksum := (m.sensorChecksum ^^^ rotateRight32 m.sensorChecksum 16).toUInt16 }

/-- Every 32nd release has a fix of the satellites, outside of the dropouts. -/
def gnssAvailable (m : GlobalAvionicsMission P) : Bool :=
  let inLongDropout := m.faults.gnssDropoutFromRelease < m.faults.gnssDropoutUntilRelease
    && m.faults.gnssDropoutFromRelease ≤ m.epoch && m.epoch < m.faults.gnssDropoutUntilRelease
  m.epoch &&& 31 == 0 && !inWindow m.epoch m.faults.gnssDropoutStart m.faults.gnssDropoutLength
    && !inLongDropout

/-- A measurement of the satellites, with its bias and noise. -/
def gnssMeasurement (m : GlobalAvionicsMission P) (value bias : Vec3) (shift : Int32) : Vec3 :=
  if m.gnssAvailable then
    .ofFn fun axis ↦ addSatI32 (addSatI32 (value.get axis) (bias.get axis))
      (keyedSigned m.seed m.epoch (.ofNat axis) 7 >>> shift)
  else value

def aidFrame (m : GlobalAvionicsMission P) (snapshot : GlobalWorldSnapshot)
    (active : GlobalKinematicState) : Except GlobalWorldError GlobalAidFrameCell := do
  let ecef ← m.world.ecefState
  let service ← m.world.frameService
  let missionTime ← driftedTime active.time.raw m.faults.clockDriftPpm
  let slow := if m.epoch &&& 3 = 0 then
      globalAidBarometer ||| globalAidAttitude ||| globalAidFrameService ||| globalAidContinuity
        ||| globalAidDeploymentFeedback
    else 0
  pure {
    session := m.heldCommand.session
    measurementEpoch := m.epoch
    productionEpoch := m.epoch
    frame := interfaceFrame snapshot.frame
    validity := if m.gnssAvailable then slow ||| globalAidGnss else slow
    missionTimeQ16 := missionTime
    barometerQ12Km := addSatI32 snapshot.altitudeQ12Km m.faults.barometerBiasQ12Km
    gnssPositionQ12Km :=
      m.gnssMeasurement (vectorArray ecef.position) m.faults.gnssPositionBiasQ12Km 14
    gnssVelocityQ24KmS :=
      m.gnssMeasurement (vectorArray ecef.velocity) m.faults.gnssVelocityBiasQ24KmS 6
    attitudeQ30 := quaternionArray active.attitude
    frameRotationQ30 := quaternionArray service.rotationQ30
    frameOmegaQ24 := vectorArray service.omegaQ24
    events := snapshot.events
    continuity := 1
    deploymentFeedback := m.world.deploymentFeedback }

def transitionCell (m : GlobalAvionicsMission P) (service : TransitionServiceRecord) :
    GlobalTransitionCell where
  session := m.heldCommand.session
  sourceEpoch := m.epoch
  effectiveEpoch := m.epoch
  fromFrame := service.fromFrame
  toFrame := service.toFrame
  flags := 0
  missionTimeQ16 := service.time.raw
  transformIdentity := service.transformIdentity
  rotationQ30 := quaternionArray service.rotationQ30
  omegaQ24 := vectorArray service.omegaQ24
  prePositionQ12 := vectorArray service.before.position
  postPositionQ12 := vectorArray service.after.position
  preVelocityQ24 := vectorArray service.before.velocity
  postVelocityQ24 := vectorArray service.after.velocity
  preAttitudeQ30 := quaternionArray service.before.attitude
  postAttitudeQ30 := quaternionArray service.after.attitude
  preRateQ24 := vectorArray service.before.angularRate
  postRateQ24 := vectorArray service.after.angularRate
  translationQ12 := vectorArray service.translationQ12
  velocityBiasQ24 := vectorArray service.velocityBiasQ24
  transitionChecksum := service.checksum

/-! ## A release -/

/-- The change of frame that has not been given to the flight software yet. -/
def pendingService (m : GlobalAvionicsMission P) (snapshot : GlobalWorldSnapshot) :
    Except GlobalWorldError (Option TransitionServiceRecord) :=
  if m.lastTransitionCount < snapshot.transitionCount then
    (m.world.transitionService (snapshot.transitionCount.toNat - 1)).map some
  else .ok none

/-- The fast cell of the release, if it is not in a dropout. -/
def fastCell (m : GlobalAvionicsMission P) (snapshot : GlobalWorldSnapshot)
    (active : GlobalKinematicState) (service : Option TransitionServiceRecord) :
    Except GlobalWorldError (Option GlobalFastSensorCell) :=
  if inWindow m.epoch m.faults.fastDropoutStart m.faults.fastDropoutLength then .ok none
  else (m.fastSensor snapshot active service).map some

def readings (m : GlobalAvionicsMission P) : Except GlobalWorldError ReleaseReadings := do
  let snapshot ← m.world.snapshot
  let active ← m.world.activeState
  reject (active.time.raw &&& (globalAvionicsPeriodQ16 - 1) ≠ 0) .transition
  let service ← m.pendingService snapshot
  let fast ← m.fastCell snapshot active service
  let aid ← m.aidFrame snapshot active
  pure ⟨snapshot, active, service, fast, aid, service.map m.transitionCell⟩

section Release

variable [GlobalFlightReleaseProcessor P]

/-- The release of the flight software. -/
def processed (m : GlobalAvionicsMission P) (r : ReleaseReadings) :
    GlobalFlightEvidence × GlobalAvionicsMission P :=
  let sensorChecksum := r.fast.elim m.sensorChecksum (hashFastSensor m.sensorChecksum)
  let released := processRelease m.processor r.fast (some r.aid) r.transition
  let commandChecksum := released.1.command.commandChecksum
  (released.1, { m with
    processor := released.2
    sensorChecksum := sensorChecksum
    commandChecksum := commandChecksum
    placementChecksum := hashPlacement m.placementChecksum m.epoch sensorChecksum commandChecksum
      released.1.navigation.checksum
    maxDynamicPressureQ14 := max m.maxDynamicPressureQ14 r.snapshot.dynamicPressureQ14Pa
    maxMachQ24 := max m.maxMachQ24 r.snapshot.machQ24 })

def positionError (r : ReleaseReadings) (navigation : GlobalNavigation) : Vec3 :=
  subtractVector (vectorArray r.active.position) navigation.positionQ12

def velocityError (r : ReleaseReadings) (navigation : GlobalNavigation) : Vec3 :=
  subtractVector (vectorArray r.active.velocity) navigation.velocityQ24

/-- The acceleration since the last release. -/
def acceleration (m : GlobalAvionicsMission P) (r : ReleaseReadings) : Vec3 :=
  (subtractVector (vectorArray r.active.velocity)
    (vectorArray m.previousActive.velocity)).map fun component ↦ mulSatI32 component 512

/-- Over a change of frame there is no acceleration. -/
def measureAcceleration (m : GlobalAvionicsMission P) (r : ReleaseReadings) :
    Attempt GlobalWorldError (GlobalAvionicsMission P) Unit :=
  if r.service.isNone then
    match vectorMagnitude (m.acceleration r) with
    | .error e => (.error e, m)
    | .ok magnitude => (.ok (), { m with maxAccelerationQ28 := max m.maxAccelerationQ28 magnitude })
  else (.ok (), m)

/-- The errors of the navigation, and the acceleration. -/
def measured (m : GlobalAvionicsMission P) (r : ReleaseReadings) (navigation : GlobalNavigation) :
    Attempt GlobalWorldError (GlobalAvionicsMission P) Unit :=
  match vectorMagnitude (positionError r navigation) with
  | .error e => (.error e, m)
  | .ok position =>
      let m := { m with
        maxNavigationPositionErrorQ12 := max m.maxNavigationPositionErrorQ12 position }
      match vectorMagnitude (velocityError r navigation) with
      | .error e => (.error e, m)
      | .ok velocity =>
          let m := { m with
            maxNavigationVelocityErrorQ24 := max m.maxNavigationVelocityErrorQ24 velocity }
          m.measureAcceleration r

/-- The release is over. -/
def concluded (m : GlobalAvionicsMission P) (r : ReleaseReadings)
    (evidence : GlobalFlightEvidence) : GlobalAvionicsMission P :=
  { m with
    heldCommand := evidence.command
    lastFlight := some evidence
    previousActive := r.active
    lastTransitionCount := r.snapshot.transitionCount
    epoch := m.epoch + 1
    releases := addSat32 m.releases 1 }

def releaseBundle (m : GlobalAvionicsMission P) :
    Attempt GlobalWorldError (GlobalAvionicsMission P) GlobalReleaseBundle :=
  match m.readings with
  | .error e => (.error e, m)
  | .ok r =>
      let (evidence, processed) := m.processed r
      (processed.measured r evidence.navigation).andThen fun _ measured ↦
        (.ok ⟨r.fast, some r.aid, r.transition, evidence⟩, measured.concluded r evidence)

end Release

/-! ## Between two releases -/

/-- A step of the world with the command of the last release. -/
def stepWorld (m : GlobalAvionicsMission P) :
    Attempt GlobalWorldError (GlobalAvionicsMission P) GlobalWorldSnapshot :=
  let stepped := m.world.stepCommanded m.heldCommand
  match stepped.1 with
  | .error e => (.error e, { m with world := stepped.2 })
  | .ok snapshot => (.ok snapshot, { m with
      world := stepped.2, physicalSteps := addSat32 m.physicalSteps 1 })

/-- The steps up to the target, in at most a number of rounds. -/
def advanceLoop (target : UInt32) : Nat → GlobalWorldSnapshot → GlobalAvionicsMission P →
    Option (Attempt GlobalWorldError (GlobalAvionicsMission P) GlobalWorldSnapshot)
  | 0, _, _ => none
  | rounds + 1, snapshot, m =>
      if m.world.complete then some (.ok snapshot, m)
      else
        match m.world.activeState with
        | .error e => some (.error e, m)
        | .ok active =>
            if active.time.raw < target then
              match m.stepWorld with
              | (.error e, m) => some (.error e, m)
              | (.ok snapshot, m) => advanceLoop target rounds snapshot m
            else some (.ok snapshot, m)

/-- The world has come to the target, unless it has ended before. -/
def checkTarget (m : GlobalAvionicsMission P) (target : UInt32) (snapshot : GlobalWorldSnapshot) :
    Except GlobalWorldError GlobalWorldSnapshot := do
  if m.world.complete then pure snapshot
  else
    let active ← m.world.activeState
    if active.time.raw ≠ target then .error .transition else pure snapshot

/-- The rounds of the loop in `advanceToNextRelease`: each step takes some time. -/
def advanceRounds : Nat := globalAvionicsPeriodQ16.toNat + 1

/-- The next release, and what is seen of the world if it is there already. -/
def nextRelease (m : GlobalAvionicsMission P) :
    Except GlobalWorldError (UInt32 × GlobalWorldSnapshot) := do
  let active ← m.world.activeState
  reject (0xffffffff - globalAvionicsPeriodQ16 < active.time.raw) .numeric
  let snapshot ← m.world.snapshot
  pure (active.time.raw + globalAvionicsPeriodQ16, snapshot)

def advanceToNextRelease (m : GlobalAvionicsMission P) :
    Attempt GlobalWorldError (GlobalAvionicsMission P) GlobalWorldSnapshot :=
  match m.nextRelease with
  | .error e => (.error e, m)
  | .ok (target, snapshot) =>
      ((advanceLoop target advanceRounds snapshot m).getD (.error .timeout, m)).andThen
        fun snapshot m ↦ (m.checkTarget target snapshot, m)

end GlobalAvionicsMission

end Ksa64.Sim
