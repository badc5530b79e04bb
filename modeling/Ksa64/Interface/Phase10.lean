import Ksa64.Library.Vectors
import Mathlib.Algebra.Order.Ring.Int
import Mathlib.Tactic.Common

/-!
# The KLR10 cells

The records the flight computer of Phase 10 consumes and produces, with the bits
of their masks.
-/

namespace Ksa64.Interface

/-- The reference frames of global flight. -/
inductive GlobalFrameId where
  | localEnuV1
  | earthFixedEcefV1
  | earthInertialEciV1
deriving DecidableEq, Repr

/-- The wire value of a frame. -/
def GlobalFrameId.code : GlobalFrameId → UInt8
  | .localEnuV1 => 1
  | .earthFixedEcefV1 => 2
  | .earthInertialEciV1 => 3

def globalFastDeltaV : UInt8 := 1
def globalFastDeltaAngle : UInt8 := 2
def globalFastAttitude : UInt8 := 4

def globalAidBarometer : UInt8 := 1
def globalAidGnss : UInt8 := 2
def globalAidAttitude : UInt8 := 4
def globalAidFrameService : UInt8 := 8
def globalAidContinuity : UInt8 := 16
def globalAidDeploymentFeedback : UInt8 := 32

def globalCommandDrogue : UInt8 := 1
def globalCommandMain : UInt8 := 2
def globalCommandSafe : UInt8 := 4
def globalCommandHold : UInt8 := 1
def globalCommandRcsReserved : UInt8 := 4

structure GlobalFastSensorCell where
  session : UInt16
  measurementEpoch : UInt16
  productionEpoch : UInt16
  frame : GlobalFrameId
  validity : UInt8
  missionTimeQ16 : UInt32
  deltaVelocityQ24 : Vector Int16 3
  deltaAngleQ24 : Vector Int16 3
  attitudeVectorQ15 : Vector Int16 3
  angularRateQ15 : Vector Int16 3
  dynamicPressureQ10 : Int32
  machQ12 : Int16
  gimbalAppliedQ15 : Vector Int16 2
  rcsPropellantQ21 : Int32
  actuatorFeedback : UInt16
  vehicleStatus : UInt16
  sensorChecksum : UInt16
deriving DecidableEq

structure GlobalAidFrameCell where
  session : UInt16
  measurementEpoch : UInt16
  productionEpoch : UInt16
  frame : GlobalFrameId
  validity : UInt8
  missionTimeQ16 : UInt32
  barometerQ12Km : Int32
  gnssPositionQ12Km : Vector Int32 3
  gnssVelocityQ24KmS : Vector Int32 3
  attitudeQ30 : Vector Int32 4
  frameRotationQ30 : Vector Int32 4
  frameOmegaQ24 : Vector Int32 3
  events : UInt16
  continuity : UInt16
  deploymentFeedback : UInt16
deriving DecidableEq

structure GlobalTransitionCell where
  session : UInt16
  sourceEpoch : UInt16
  effectiveEpoch : UInt16
  fromFrame : GlobalFrameId
  toFrame : GlobalFrameId
  flags : UInt16
  missionTimeQ16 : UInt32
  transformIdentity : UInt32
  rotationQ30 : Vector Int32 4
  omegaQ24 : Vector Int32 3
  prePositionQ12 : Vector Int32 3
  postPositionQ12 : Vector Int32 3
  preVelocityQ24 : Vector Int32 3
  postVelocityQ24 : Vector Int32 3
  preAttitudeQ30 : Vector Int32 4
  postAttitudeQ30 : Vector Int32 4
  preRateQ24 : Vector Int32 3
  postRateQ24 : Vector Int32 3
  translationQ12 : Vector Int32 3
  velocityBiasQ24 : Vector Int32 3
  transitionChecksum : UInt32
deriving DecidableEq

structure GlobalCommandCell where
  session : UInt16
  sourceEpoch : UInt16
  effectiveEpoch : UInt16
  frame : GlobalFrameId
  flags : UInt8
  discrete : UInt8
  gimbalQ15 : Vector Int16 2
  rcsPulseQuanta : Vector UInt8 12
  torqueDemandQ12 : Vector Int32 3
  status : UInt16
  commandChecksum : UInt32
deriving DecidableEq

structure GlobalStatusCell where
  session : UInt16
  sourceEpoch : UInt16
  productionEpoch : UInt16
  frame : GlobalFrameId
  mode : UInt8
  flags : UInt16
  alarms : UInt16
  navigationPositionQ12 : Vector Int32 3
  navigationVelocityQ24 : Vector Int32 3
  navigationAttitudeQ30 : Vector Int32 4
  covarianceProxyQ16 : Vector Int32 3
  sensorChecksum : UInt32
  navigationChecksum : UInt32
  commandChecksum : UInt32
  flightChecksum : UInt32
  deadlineMisses : UInt16
  transitionCount : UInt8
deriving DecidableEq

end Ksa64.Interface
