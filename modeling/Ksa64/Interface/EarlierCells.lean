import Ksa64.Library.Vectors

/-!
# The cells of the earlier computers

The records that the flight computers of Phases 6, 8.5 and 9.5 consume and produce, with the bits of
their masks.
-/

namespace Ksa64.Interface

open Ksa64.Library

/-! ## Phase 6 -/

def realtimeAidGps : UInt16 := 2
def realtimeAidStar : UInt16 := 4

structure RealtimeInertialCell where
  session : UInt16
  measurementEpoch : UInt16
  productionEpoch : UInt16
  validity : UInt8
  flags : UInt8
  platformAngle : Vector Int16 3
  angularRate : Vector Int16 3
  deltaVelocity : Vector Int16 3
  gimbalApplied : Vector Int16 2
  stageStatus : UInt16
deriving DecidableEq

structure RealtimeCommandCell where
  session : UInt16
  sourceEpoch : UInt16
  effectiveEpoch : UInt16
  flags : UInt8
  discrete : UInt8
  gimbal : Vector Int16 2
  rcs : Vector Int8 3
  status : UInt8
deriving DecidableEq

structure RealtimeAidCell where
  session : UInt16
  measurementEpoch : UInt16
  productionEpoch : UInt16
  validity : UInt16
  events : UInt16
  onboardTimeQ16 : Int32
  barometerQ12 : Int32
  gpsPositionQ12 : Vector Int32 3
  gpsVelocityQ24 : Vector Int32 3
  starAngle : Vector Int16 3
  rcsPropellantQ12 : Int32
  vehicleStatus : UInt32
deriving DecidableEq

structure RealtimeStatusCell where
  session : UInt16
  sourceEpoch : UInt16
  productionEpoch : UInt16
  mode : UInt8
  flags : UInt8
  alarms : UInt16
  navigationPositionQ12 : Vector Int32 3
  navigationVelocityQ24 : Vector Int32 3
  flightChecksum : UInt32
  deadlineMisses : UInt16
deriving DecidableEq

/-! ## Phase 8.5 -/

def localInertialValidPlatform : UInt8 := 1
def localInertialValidRate : UInt8 := 2
def localInertialValidDeltaV : UInt8 := 4
def localInertialValidActuator : UInt8 := 8

def localAidBarometer : UInt16 := 1
def localAidGps : UInt16 := 2
def localAidAttitude : UInt16 := 4
def localAidContinuity : UInt16 := 8
def localAidDeploymentFeedback : UInt16 := 16

def localCommandDrogue : UInt8 := 1
def localCommandMain : UInt8 := 2
def localCommandSafe : UInt8 := 4

structure LocalInertialCell where
  session : UInt16
  measurementEpoch : UInt16
  productionEpoch : UInt16
  validity : UInt8
  flags : UInt8
  platformAngle : Vector Int16 3
  angularRate : Vector Int16 3
  deltaVelocity : Vector Int16 3
  gimbalApplied : Vector Int16 2
  vehicleStatus : UInt16
  actuatorFeedback : UInt16
deriving DecidableEq

structure LocalCommandCell where
  session : UInt16
  sourceEpoch : UInt16
  effectiveEpoch : UInt16
  flags : UInt8
  discrete : UInt8
  gimbal : Vector Int16 2
  controlDemand : Vector Int16 2
  status : UInt16
deriving DecidableEq

structure LocalAidCell where
  session : UInt16
  measurementEpoch : UInt16
  productionEpoch : UInt16
  validity : UInt16
  events : UInt16
  onboardTimeQ18 : Int32
  barometerQ13 : Int32
  gpsPositionQ13 : Vector Int32 3
  gpsVelocityQ19 : Vector Int32 3
  attitudeVector : Vector Int16 3
  continuity : UInt16
  deploymentFeedback : UInt16
  vehicleStatus : UInt32
  clockFlags : UInt16
deriving DecidableEq

structure LocalStatusCell where
  session : UInt16
  sourceEpoch : UInt16
  productionEpoch : UInt16
  mode : UInt8
  flags : UInt8
  alarms : UInt16
  navigationPositionQ13 : Vector Int32 3
  navigationVelocityQ19 : Vector Int32 3
  flightChecksum : UInt32
  deadlineMisses : UInt16
  navigationChecksum : UInt16
deriving DecidableEq

/-! ## Phase 9.5 -/

def advancedValidPlatform : UInt16 := 1
def advancedValidRate : UInt16 := 2
def advancedValidDeltaV : UInt16 := 4
def advancedValidActuator : UInt16 := 8
def advancedValidAirData : UInt16 := 16
def advancedValidSupply : UInt16 := 32

def advancedAidBarometer : UInt16 := 1
def advancedAidGps : UInt16 := 2
def advancedAidAttitude : UInt16 := 4
def advancedAidContinuity : UInt16 := 8
def advancedAidDeploymentFeedback : UInt16 := 16

def advancedCommandDrogue : UInt8 := 1
def advancedCommandMain : UInt8 := 2
def advancedCommandSafe : UInt8 := 4

def advancedCommandFlagHold : UInt8 := 1
def advancedCommandFlagAirdataFallback : UInt8 := 2
def advancedCommandFlagRcsReserved : UInt8 := 4

structure AdvancedFastSensorCell where
  session : UInt16
  measurementEpoch : UInt16
  productionEpoch : UInt16
  validity : UInt16
  platformAngle : Vector Int16 3
  angularRate : Vector Int16 3
  deltaVelocity : Vector Int16 3
  dynamicPressureQ10 : Int32
  machQ12 : Int16
  gimbalApplied : Vector Int16 2
  canardApplied : Vector Int16 4
  valveOpenMask : UInt16
  propellantQ21 : Int32
  supplyScaleQ15 : UInt16
  vehicleStatus : UInt16
  actuatorFeedback : UInt16
  flags : UInt16
deriving DecidableEq

structure AdvancedCommandCell where
  session : UInt16
  sourceEpoch : UInt16
  effectiveEpoch : UInt16
  flags : UInt8
  discrete : UInt8
  gimbal : Vector Int16 2
  canards : Vector Int16 4
  torqueDemandQ12 : Vector Int32 3
  rcsPulseQuanta : Vector UInt8 12
  status : UInt16
  authorityMode : UInt8
  commandChecksum : UInt32
deriving DecidableEq

structure AdvancedAidCell where
  session : UInt16
  measurementEpoch : UInt16
  productionEpoch : UInt16
  validity : UInt16
  events : UInt16
  onboardTimeQ18 : Int32
  barometerQ13 : Int32
  gpsPositionQ13 : Vector Int32 3
  gpsVelocityQ19 : Vector Int32 3
  attitudeVector : Vector Int16 3
  continuity : UInt16
  deploymentFeedback : UInt16
  vehicleStatus : UInt32
  clockFlags : UInt16
deriving DecidableEq

structure AdvancedStatusCell where
  session : UInt16
  sourceEpoch : UInt16
  productionEpoch : UInt16
  mode : UInt8
  flags : UInt8
  alarms : UInt16
  navigationPositionQ13 : Vector Int32 3
  navigationVelocityQ19 : Vector Int32 3
  flightChecksum : UInt32
  deadlineMisses : UInt16
  navigationChecksum : UInt16
  authorityState : UInt16
  requestedTorqueQ12 : Vector Int32 3
  achievedTorqueQ12 : Vector Int16 3
  residualTorqueQ12 : Vector Int16 3
  saturationCount : UInt16
  reserveQ15 : UInt16
  actuatorFlags : UInt16
deriving DecidableEq

end Ksa64.Interface
