import Ksa64.Flight.LocalFlight

/-!
# The advanced flight computer

The Phase 9.5 wrapper of the local computer: it filters the fast cells, estimates the air data and
turns the control demand into torques.
-/

namespace Ksa64.Flight

open Ksa64.Library Ksa64.Interface

def advancedAlarmAirData : UInt16 := 256
def advancedAlarmSupply : UInt16 := 512

inductive AirDataSource where
  | pitot
  | conservativeFallback
  | unavailable
deriving DecidableEq, Repr

structure AirDataEstimate where
  source : AirDataSource
  dynamicPressureQ10 : Int32
  machQ12 : Int16
deriving DecidableEq

structure AdvancedFlightConfig where
  localFlight : LocalFlightConfig
  rollProportionalGainQ15 : Int16
  rollDerivativeGainQ15 : Int16
  torqueLimitQ12 : Vec3
  fallbackDensityUpperQ10 : Int32
  maximumWindQ19 : Int32
  minimumSoundSpeedMps : UInt16
  maximumNavigationSpeedMps : UInt16
  propellantWetQ21 : Int32
  reserveQ15 : UInt16
deriving DecidableEq

def AdvancedFlightConfig.isValid (config : AdvancedFlightConfig) : Bool :=
  config.localFlight.isValid
    && config.localFlight.capability == .monitorOnly
    && 0 ≤ config.rollProportionalGainQ15
    && 0 ≤ config.rollDerivativeGainQ15
    && config.torqueLimitQ12.all (0 < ·)
    && 0 < config.fallbackDensityUpperQ10
    && 0 ≤ config.maximumWindQ19
    && 0 < config.minimumSoundSpeedMps
    && 0 < config.maximumNavigationSpeedMps
    && 0 < config.propellantWetQ21
    && config.reserveQ15 ≤ 32768

theorem AdvancedFlightConfig.local_valid {config : AdvancedFlightConfig}
    (h : config.isValid = true) : config.localFlight.isValid = true := by
  unfold isValid at h
  simp only [Bool.and_eq_true] at h
  exact h.1.1.1.1.1.1.1.1.1.1

namespace AdvancedFlight

def mix (hash value : UInt32) : UInt32 := (rotateLeft32 hash 5 + 0x9e3779b9) ^^^ value

def hashFast (hash : UInt32) (cell : AdvancedFastSensorCell) : UInt32 :=
  let hash := mix hash cell.measurementEpoch.toUInt32
  let hash := mix hash cell.dynamicPressureQ10.toUInt32
  let hash := mix hash cell.propellantQ21.toUInt32
  (cell.platformAngle.toList.map fun v ↦ v.toUInt16.toUInt32).foldl mix hash

def hashDemand (hash : UInt32) (epoch : UInt16) (demand : Vec3) : UInt32 :=
  (demand.toList.map Int32.toUInt32).foldl mix (mix hash epoch.toUInt32)

def hashCommand (hash : UInt32) (command : AdvancedCommandCell) : UInt32 :=
  let hash := mix hash command.sourceEpoch.toUInt32
  let hash := (command.torqueDemandQ12.toList.map Int32.toUInt32).foldl mix hash
  mix hash command.discrete.toUInt32

/-- The remaining propellant as a part of the wet load. -/
def reserveFraction (remaining wet : Int32) : UInt16 :=
  if remaining ≤ 0 ∨ wet ≤ 0 then 0
  else (max 0 (min 32768 ((remaining.toInt64 <<< (15 : Int64)) / wet.toInt64))).toUInt64.toUInt16

def airAlarm (air : AirDataEstimate) : UInt16 :=
  if air.source = .pitot then 0 else advancedAlarmAirData

/-- A bit of the mask is passed on as a bit of another one. -/
def passInertial (validity bit : UInt16) (localBit : UInt8) : UInt8 :=
  if validity &&& bit ≠ 0 then localBit else 0

def passAid (validity bit localBit : UInt16) : UInt16 := if validity &&& bit ≠ 0 then localBit else 0

def toLocalInertial (cell : AdvancedFastSensorCell) : LocalInertialCell where
  session := cell.session
  measurementEpoch := cell.measurementEpoch
  productionEpoch := cell.productionEpoch
  validity := passInertial cell.validity advancedValidPlatform localInertialValidPlatform
    ||| passInertial cell.validity advancedValidRate localInertialValidRate
    ||| passInertial cell.validity advancedValidDeltaV localInertialValidDeltaV
    ||| passInertial cell.validity advancedValidActuator localInertialValidActuator
  flags := cell.flags.toUInt8
  platformAngle := cell.platformAngle
  angularRate := cell.angularRate
  deltaVelocity := cell.deltaVelocity
  gimbalApplied := cell.gimbalApplied
  vehicleStatus := cell.vehicleStatus
  actuatorFeedback := cell.actuatorFeedback

def toLocalAid (cell : AdvancedAidCell) : LocalAidCell where
  session := cell.session
  measurementEpoch := cell.measurementEpoch
  productionEpoch := cell.productionEpoch
  validity := passAid cell.validity advancedAidBarometer localAidBarometer
    ||| passAid cell.validity advancedAidGps localAidGps
    ||| passAid cell.validity advancedAidAttitude localAidAttitude
    ||| passAid cell.validity advancedAidContinuity localAidContinuity
    ||| passAid cell.validity advancedAidDeploymentFeedback localAidDeploymentFeedback
  events := cell.events
  onboardTimeQ18 := cell.onboardTimeQ18
  barometerQ13 := cell.barometerQ13
  gpsPositionQ13 := cell.gpsPositionQ13
  gpsVelocityQ19 := cell.gpsVelocityQ19
  attitudeVector := cell.attitudeVector
  continuity := cell.continuity
  deploymentFeedback := cell.deploymentFeedback
  vehicleStatus := cell.vehicleStatus
  clockFlags := cell.clockFlags

end AdvancedFlight

open AdvancedFlight

/-! ## The computer -/

structure AdvancedFlightEvidence where
  command : AdvancedCommandCell
  status : Option AdvancedStatusCell
  localFlight : LocalFlightEvidence
  airData : AirDataEstimate
  sensorChecksum : UInt32
  demandChecksum : UInt32
  commandChecksum : UInt32
  missingFastEpochs : UInt8
deriving DecidableEq

structure AdvancedFlightComputer where
  config : AdvancedFlightConfig
  valid : config.isValid = true
  localFlight : LocalFlightComputer
  epoch : UInt16
  rollTarget : Int16
  missingFastEpochs : UInt8
  sensorChecksum : UInt32
  demandChecksum : UInt32
  commandChecksum : UInt32
  lastCommand : AdvancedCommandCell
  lastStatus : Option AdvancedStatusCell
  lastAirData : AirDataEstimate
deriving DecidableEq

namespace AdvancedFlightComputer

def fresh (config : AdvancedFlightConfig) (valid : config.isValid = true) (positionQ13 : Vec3)
    (attitudeVector : Vector Int16 3) : AdvancedFlightComputer where
  config := config
  valid := valid
  localFlight := .fresh config.localFlight (AdvancedFlightConfig.local_valid valid) positionQ13
    attitudeVector
  epoch := 0
  rollTarget := Axes.x attitudeVector
  missingFastEpochs := 0
  sensorChecksum := 0x811c9dc5
  demandChecksum := 0x811c9dc5
  commandChecksum := 0x811c9dc5
  lastCommand := {
    session := config.localFlight.session
    sourceEpoch := 0
    effectiveEpoch := 1
    flags := 0
    discrete := 0
    gimbal := Pair.of 0 0
    canards := .replicate 4 0
    torqueDemandQ12 := Axes.all 0
    rcsPulseQuanta := .replicate 12 0
    status := 0
    authorityMode := 0
    commandChecksum := 0x811c9dc5 }
  lastStatus := none
  lastAirData := ⟨.unavailable, 0, 0⟩

def new (config : AdvancedFlightConfig) (positionQ13 : Vec3) (attitudeVector : Vector Int16 3) :
    Option AdvancedFlightComputer :=
  if h : config.isValid = true then some (fresh config h positionQ13 attitudeVector) else none

def recordDeadlineMiss (c : AdvancedFlightComputer) : AdvancedFlightComputer :=
  { c with localFlight := c.localFlight.recordDeadlineMiss }

/-- The fast cell is of the session and of the release, and complete. -/
def accepts (c : AdvancedFlightComputer) (cell : AdvancedFastSensorCell) : Bool :=
  let complete := advancedValidPlatform ||| advancedValidRate ||| advancedValidDeltaV
  cell.session == c.config.localFlight.session && cell.measurementEpoch == c.epoch
    && cell.productionEpoch == c.epoch && cell.validity &&& complete == complete

/-! ### The air data -/

def pitot (cell : AdvancedFastSensorCell) : Option AirDataEstimate :=
  if cell.validity &&& advancedValidAirData ≠ 0 ∧ 0 ≤ cell.dynamicPressureQ10 ∧ 0 ≤ cell.machQ12 then
    some ⟨.pitot, cell.dynamicPressureQ10, cell.machQ12⟩
  else none

/-- The speed that the navigation allows for. -/
def speedBound (c : AdvancedFlightComputer) (evidence : LocalFlightEvidence) : Int32 :=
  evidence.navigation.velocityQ19.toList.foldl
    (fun bound value ↦ addSatI32 bound (min (unsignedAbs32 value) 2147483647).toInt32)
    c.config.maximumWindQ19

def fallback (c : AdvancedFlightComputer) (evidence : LocalFlightEvidence) : AirDataEstimate :=
  let speedMps := addSatI32 (c.speedBound evidence) 524287 >>> 19
  if speedMps < 0 ∨ c.config.maximumNavigationSpeedMps.toUInt32.toInt32 < speedMps then
    ⟨.unavailable, 0, 0⟩
  else
    let pressure := mulSatI32 (mulSatI32 speedMps speedMps) c.config.fallbackDensityUpperQ10 / 2
    let mach := (speedMps <<< 12) / c.config.minimumSoundSpeedMps.toUInt32.toInt32
    ⟨.conservativeFallback, pressure, (max 0 (min 32767 mach)).toInt16⟩

def resolveAirData (c : AdvancedFlightComputer) (fast : Option AdvancedFastSensorCell)
    (evidence : LocalFlightEvidence) : AirDataEstimate :=
  match fast.bind pitot with
  | some air => air
  | none => c.fallback evidence

/-! ### The torque -/

def rollDemand (c : AdvancedFlightComputer) (cell : AdvancedFastSensorCell) : Int16 :=
  let angle := (LocalFlight.subSatI16 (Axes.x cell.platformAngle) c.rollTarget).toInt32
  let rate := (Axes.x cell.angularRate).toInt32
  let p := (-angle * c.config.rollProportionalGainQ15.toInt32) >>> 15
  let d := (-rate * c.config.rollDerivativeGainQ15.toInt32) >>> 15
  clampI16 (addSatI32 p d)

def demand (c : AdvancedFlightComputer) (fast : Option AdvancedFastSensorCell)
    (evidence : LocalFlightEvidence) : Vector Int16 3 :=
  match fast with
  | some cell => Axes.of (c.rollDemand cell) (Pair.first evidence.command.controlDemand)
      (Pair.second evidence.command.controlDemand)
  | none => Axes.all 0

def limitTorque (demand : Int16) (limit : Int32) : Int32 :=
  let scaled := (demand.toInt64 * limit.toInt64) >>> 15
  (max (-limit).toInt64 (min limit.toInt64 scaled)).toInt32

/-- The computer holds its last torque. -/
def held (c : AdvancedFlightComputer) : Bool := c.missingFastEpochs != 0 && c.missingFastEpochs ≤ 2

def isSafe (c : AdvancedFlightComputer) (evidence : LocalFlightEvidence) : Bool :=
  3 ≤ c.missingFastEpochs || evidence.safe

def torque (c : AdvancedFlightComputer) (fast : Option AdvancedFastSensorCell)
    (evidence : LocalFlightEvidence) : Vec3 :=
  if c.isSafe evidence then Axes.all 0
  else if c.held then c.lastCommand.torqueDemandQ12
  else .zipWith limitTorque (c.demand fast evidence) c.config.torqueLimitQ12

/-! ### The command -/

def supplyValid (fast : Option AdvancedFastSensorCell) : Bool :=
  match fast with
  | some cell => cell.validity &&& advancedValidSupply != 0
  | none => false

def propellant (fast : Option AdvancedFastSensorCell) : Int32 :=
  match fast with
  | some cell => cell.propellantQ21
  | none => 0

def reserveRaw (c : AdvancedFlightComputer) : Int32 :=
  ((c.config.propellantWetQ21.toInt64 * c.config.reserveQ15.toUInt64.toInt64) >>> 15).toInt32

def flags (c : AdvancedFlightComputer) (fast : Option AdvancedFastSensorCell)
    (air : AirDataEstimate) : UInt8 :=
  (if c.held then advancedCommandFlagHold else 0)
    ||| (if air.source = .conservativeFallback then advancedCommandFlagAirdataFallback else 0)
    ||| (if supplyValid fast && propellant fast ≤ c.reserveRaw then advancedCommandFlagRcsReserved
      else 0)

def discrete (c : AdvancedFlightComputer) (evidence : LocalFlightEvidence) : UInt8 :=
  if c.isSafe evidence then advancedCommandSafe
  else if c.missingFastEpochs = 0 then evidence.command.discrete
  else 0

/-- The command, as yet without its checksum. -/
def compose (c : AdvancedFlightComputer) (fast : Option AdvancedFastSensorCell)
    (evidence : LocalFlightEvidence) (air : AirDataEstimate) : AdvancedCommandCell where
  session := c.config.localFlight.session
  sourceEpoch := c.epoch
  effectiveEpoch := c.epoch + 1
  flags := c.flags fast air
  discrete := c.discrete evidence
  gimbal := Pair.of 0 0
  canards := .replicate 4 0
  torqueDemandQ12 := c.torque fast evidence
  rcsPulseQuanta := .replicate 12 0
  status := evidence.alarms ||| airAlarm air ||| (if supplyValid fast then 0 else advancedAlarmSupply)
  authorityMode := 0
  commandChecksum := 0

def statusCell (c : AdvancedFlightComputer) (fast : Option AdvancedFastSensorCell)
    (command : AdvancedCommandCell) (value : LocalStatusCell) : AdvancedStatusCell where
  session := value.session
  sourceEpoch := value.sourceEpoch
  productionEpoch := value.productionEpoch
  mode := value.mode
  flags := command.flags
  alarms := command.status
  navigationPositionQ13 := value.navigationPositionQ13
  navigationVelocityQ19 := value.navigationVelocityQ19
  flightChecksum := value.flightChecksum
  deadlineMisses := value.deadlineMisses
  navigationChecksum := value.navigationChecksum
  authorityState := 0
  requestedTorqueQ12 := command.torqueDemandQ12
  achievedTorqueQ12 := Axes.all 0
  residualTorqueQ12 := command.torqueDemandQ12.map clampI16
  saturationCount := 0
  reserveQ15 := reserveFraction (propellant fast) c.config.propellantWetQ21
  actuatorFlags := 0

/-- The fast cell is counted, and taken into the checksum. -/
def takeFast (c : AdvancedFlightComputer) : Option AdvancedFastSensorCell → AdvancedFlightComputer
  | some cell =>
      { c with
        missingFastEpochs := 0
        sensorChecksum := AdvancedFlight.hashFast c.sensorChecksum cell }
  | none => { c with missingFastEpochs := addSat8 c.missingFastEpochs 1 }

/-- The end of a release: its command and its status. -/
def conclude (c : AdvancedFlightComputer) (fast : Option AdvancedFastSensorCell)
    (evidence : LocalFlightEvidence) : AdvancedFlightComputer :=
  let air := c.resolveAirData fast evidence
  let command := c.compose fast evidence air
  let checksum := AdvancedFlight.hashCommand c.commandChecksum command
  let sealed := { command with commandChecksum := checksum }
  { c with
    demandChecksum := hashDemand c.demandChecksum c.epoch command.torqueDemandQ12
    commandChecksum := checksum
    lastAirData := air
    lastCommand := sealed
    lastStatus := evidence.status.map (c.statusCell fast command)
    epoch := c.epoch + 1 }

def step (c : AdvancedFlightComputer) (fast : Option AdvancedFastSensorCell)
    (aid : Option AdvancedAidCell) : AdvancedFlightComputer :=
  let accepted := fast.filter c.accepts
  let flown := c.localFlight.tick (accepted.map toLocalInertial) (aid.map toLocalAid)
  { c.takeFast accepted with localFlight := flown.2 }.conclude accepted flown.1

def tick (c : AdvancedFlightComputer) (fast : Option AdvancedFastSensorCell)
    (aid : Option AdvancedAidCell) : AdvancedFlightEvidence × AdvancedFlightComputer :=
  let next := c.step fast aid
  ({ command := next.lastCommand
     status := next.lastStatus
     localFlight := next.localFlight.evidence
     airData := next.lastAirData
     sensorChecksum := next.sensorChecksum
     demandChecksum := next.demandChecksum
     commandChecksum := next.commandChecksum
     missingFastEpochs := next.missingFastEpochs },
    next)

end AdvancedFlightComputer

end Ksa64.Flight
