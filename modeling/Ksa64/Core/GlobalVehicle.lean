import Ksa64.Core.GlobalContract

/-!
# The vehicle and its mission

The packs that describe a vehicle and a mission with the checks they have to pass, and the motion
of the vehicle as a rigid body.
-/

namespace Ksa64.Core

open Ksa64.Library

inductive GlobalPackError where
  | length
  | magic
  | version
  | kind
  | contract
  | identity
  | reserved
  | checksum
  | profile
  | range
  | ordering
  | reference
deriving DecidableEq, Repr

/-! ## The vehicle -/

structure GlobalAeroKnot where
  machQ24 : Int32
  axialCdQ24 : Int32
  cpFromNoseQ28M : Int32
  normalForceSlopeQ24 : Int32
  pitchDampingQ24 : Int32
  yawDampingQ24 : Int32
deriving DecidableEq

def GlobalAeroKnot.default : GlobalAeroKnot := ⟨0, 0, 0, 0, 0, 0⟩

def globalAeroMaxKnots : Nat := 16

structure GlobalVehiclePack where
  identity : UInt32
  sourceIdentity : UInt32
  dryMassQ21Kg : Int32
  mainPropellantQ21Kg : Int32
  rcsPropellantQ21Kg : Int32
  lengthQ13M : Int32
  diameterQ13M : Int32
  referenceAreaQ29M2 : Int32
  wetCgQ28M : Int32
  dryCgQ28M : Int32
  wetInertiaQ19 : FixedVec3 19
  dryInertiaQ19 : FixedVec3 19
  thrustQ13N : Int32
  mainMassFlowQ21KgS : Int32
  burnTimeQ16S : UInt32
  gimbalLimitTurn16 : Int16
  gimbalSlewTurn16PerRelease : Int16
  rcsJetCount : UInt8
  rcsNominalThrustQ13N : Int32
  rcsIspQ16S : Int32
  rcsReserveQ16 : UInt16
  drogueCdaQ24M2 : Int32
  mainCdaQ24M2 : Int32
  aeroCount : UInt8
  aero : Vector GlobalAeroKnot globalAeroMaxKnots
deriving DecidableEq

/-- Every component is positive. -/
def FixedVec3.positive {n : Nat} (v : FixedVec3 n) : Bool := 0 < v.x && 0 < v.y && 0 < v.z

/-- The Mach numbers increase, and every coefficient is positive. -/
def aeroFollows : Int32 → List GlobalAeroKnot → Bool
  | _, [] => true
  | previous, knot :: rest =>
      previous < knot.machQ24 && 0 < knot.axialCdQ24 && 0 < knot.cpFromNoseQ28M
        && 0 < knot.normalForceSlopeQ24 && 0 < knot.pitchDampingQ24 && 0 < knot.yawDampingQ24
        && aeroFollows knot.machQ24 rest

namespace GlobalVehiclePack

def activeAero (v : GlobalVehiclePack) : List GlobalAeroKnot :=
  v.aero.toList.take v.aeroCount.toNat

def validate (v : GlobalVehiclePack) : Except GlobalPackError Unit := do
  reject (v.identity = 0
    ∨ v.sourceIdentity = 0
    ∨ v.dryMassQ21Kg ≤ 0
    ∨ v.mainPropellantQ21Kg ≤ 0
    ∨ v.rcsPropellantQ21Kg ≤ 0
    ∨ v.lengthQ13M ≤ 0
    ∨ v.diameterQ13M ≤ 0
    ∨ v.lengthQ13M ≤ v.diameterQ13M
    ∨ v.referenceAreaQ29M2 ≤ 0
    ∨ v.wetCgQ28M ≤ 0
    ∨ v.dryCgQ28M ≤ 0
    ∨ v.thrustQ13N ≤ 0
    ∨ v.mainMassFlowQ21KgS ≤ 0
    ∨ v.burnTimeQ16S = 0
    ∨ v.gimbalLimitTurn16 ≤ 0
    ∨ v.gimbalSlewTurn16PerRelease ≤ 0
    ∨ v.rcsJetCount ≠ 12
    ∨ v.rcsNominalThrustQ13N ≤ 0
    ∨ v.rcsIspQ16S ≤ 0
    ∨ v.rcsReserveQ16 = 0
    ∨ v.drogueCdaQ24M2 ≤ 0
    ∨ v.mainCdaQ24M2 ≤ v.drogueCdaQ24M2
    ∨ v.aeroCount < 2
    ∨ globalAeroMaxKnots < v.aeroCount.toNat
    ∨ v.wetInertiaQ19.positive = false
    ∨ v.dryInertiaQ19.positive = false) .range
  let wetMass := v.dryMassQ21Kg.toInt64 + v.mainPropellantQ21Kg.toInt64
    + v.rcsPropellantQ21Kg.toInt64
  reject ((800 : Int64) <<< 21 < wetMass
    ∨ v.lengthQ13M.toInt64 <<< 15 < v.wetCgQ28M.toInt64
    ∨ v.lengthQ13M.toInt64 <<< 15 < v.dryCgQ28M.toInt64) .range
  reject (aeroFollows (-1) v.activeAero = false) .ordering
  reject ((v.aero.toList.drop v.aeroCount.toNat).any (· != .default) = true) .reserved

end GlobalVehiclePack

/-! ## The mission -/

structure PitchKnot where
  timeQ16S : UInt32
  elevationQ28Rad : Int32
deriving DecidableEq

def PitchKnot.default : PitchKnot := ⟨0, 0⟩

def globalPitchMaxKnots : Nat := 16

structure GlobalMissionPack where
  identity : UInt32
  sourceIdentity : UInt32
  earthIdentity : UInt32
  transformIdentity : UInt32
  atmosphereIdentity : UInt32
  vehicleIdentity : UInt32
  launchLatitudeQ28Rad : Int32
  launchLongitudeQ28Rad : Int32
  launchHeightQ12Km : Int32
  launchAzimuthQ28Rad : Int32
  launchElevationQ28Rad : Int32
  railLengthQ13M : Int32
  recoveryLatitudeQ28Rad : Int32
  recoveryLongitudeQ28Rad : Int32
  recoveryHeightQ12Km : Int32
  eciTransitionAltitudeQ12Km : Int32
  entryTransitionAltitudeQ12Km : Int32
  recoveryTransitionAltitudeQ12Km : Int32
  recoveryRadiusQ12Km : Int32
  transitionDynamicPressureQ14Pa : Int32
  recoveryTransitionMachQ24 : Int32
  mainDeploymentAltitudeQ12Km : Int32
  entryDragAreaScaleQ16 : Int32
  maxMissionTimeQ16S : UInt32
  pitchCount : UInt8
  pitch : Vector PitchKnot globalPitchMaxKnots
deriving DecidableEq

/-- The elevation of a knot is above the horizon and not past the zenith. -/
def PitchKnot.elevated (knot : PitchKnot) : Bool :=
  0 < knot.elevationQ28Rad && knot.elevationQ28Rad ≤ 421657428

/-- The times increase. -/
def pitchFollows : List PitchKnot → Bool
  | first :: second :: rest =>
      decide (first.timeQ16S < second.timeQ16S) && pitchFollows (second :: rest)
  | _ => true

namespace GlobalMissionPack

def activePitch (p : GlobalMissionPack) : List PitchKnot := p.pitch.toList.take p.pitchCount.toNat

def validate (p : GlobalMissionPack) : Except GlobalPackError Unit := do
  reject (p.identity = 0
    ∨ p.sourceIdentity = 0
    ∨ p.earthIdentity = 0
    ∨ p.transformIdentity = 0
    ∨ p.atmosphereIdentity = 0
    ∨ p.vehicleIdentity = 0
    ∨ 421657428 < p.launchLatitudeQ28Rad.abs
    ∨ 421657428 < p.recoveryLatitudeQ28Rad.abs
    ∨ 843314857 < p.launchLongitudeQ28Rad.abs
    ∨ 843314857 < p.recoveryLongitudeQ28Rad.abs
    ∨ p.launchElevationQ28Rad ≤ 0
    ∨ p.railLengthQ13M ≤ 0
    ∨ p.eciTransitionAltitudeQ12Km ≠ (120 : Int32) <<< 12
    ∨ p.entryTransitionAltitudeQ12Km ≠ (120 : Int32) <<< 12
    ∨ p.recoveryTransitionAltitudeQ12Km ≠ (20 : Int32) <<< 12
    ∨ p.recoveryRadiusQ12Km ≠ (200 : Int32) <<< 12
    ∨ p.transitionDynamicPressureQ14Pa ≠ (1 : Int32) <<< 14
    ∨ p.recoveryTransitionMachQ24 ≠ 13421773
    ∨ p.mainDeploymentAltitudeQ12Km ≤ 0
    ∨ p.entryDragAreaScaleQ16 < (1 : Int32) <<< 16
    ∨ (8 : Int32) <<< 16 < p.entryDragAreaScaleQ16
    ∨ p.maxMissionTimeQ16S = 0
    ∨ (2700 : UInt32) <<< 16 < p.maxMissionTimeQ16S
    ∨ p.pitchCount < 2
    ∨ globalPitchMaxKnots < p.pitchCount.toNat) .range
  reject (p.activePitch.all PitchKnot.elevated = false ∨ pitchFollows p.activePitch = false)
    .ordering
  reject ((p.pitch.toList.drop p.pitchCount.toNat).any (· != .default) = true) .reserved

end GlobalMissionPack

/-! ## The rigid body -/

abbrev GlobalBodyTorque := FixedVec3 12

/-- The inertia about each axis. -/
abbrev GlobalDiagonalInertiaQ19 := FixedVec3 19

structure GlobalRigidBodyState where
  attitude : QuaternionQ30
  angularRate : GlobalAngularRateVec
deriving DecidableEq

def coupledTorqueQ12 (inertiaDifference rateA rateB : Int32) : NumericM Int32 := do
  let rateProduct ← multiplyScaled rateA rateB 24
  multiplyScaled inertiaDifference rateProduct 31

def globalAngularAcceleration (inertia : GlobalDiagonalInertiaQ19) (rate : GlobalAngularRateVec)
    (torque : GlobalBodyTorque) : NumericM GlobalAngularRateVec :=
  if !inertia.positive then do
    recordFault .invalidInput
    pure .zero
  else do
    let coupledX ← coupledTorqueQ12 (← subtract inertia.z inertia.y) rate.y rate.z
    let coupledY ← coupledTorqueQ12 (← subtract inertia.x inertia.z) rate.z rate.x
    let coupledZ ← coupledTorqueQ12 (← subtract inertia.y inertia.x) rate.x rate.y
    return ⟨← divideScaled (← subtract torque.x coupledX) inertia.x 31,
      ← divideScaled (← subtract torque.y coupledY) inertia.y 31,
      ← divideScaled (← subtract torque.z coupledZ) inertia.z 31⟩

def integrateAttitude (attitude : QuaternionQ30) (rate : GlobalAngularRateVec)
    (timestep : Int32) : NumericM QuaternionQ30 := do
  let ⟨w, x, y, z⟩ := attitude
  let ⟨wx, wy, wz⟩ := rate
  let dw ← subtract
    (← subtract (← subtract 0 (← multiplyScaled x wx 30)) (← multiplyScaled y wy 30))
    (← multiplyScaled z wz 30)
  let dx ← add (← add (← multiplyScaled w wx 30) (← multiplyScaled y wz 30))
    (← subtract 0 (← multiplyScaled z wy 30))
  let dy ← add (← add (← multiplyScaled w wy 30) (← multiplyScaled z wx 30))
    (← subtract 0 (← multiplyScaled x wz 30))
  let dz ← add (← add (← multiplyScaled w wz 30) (← multiplyScaled x wy 30))
    (← subtract 0 (← multiplyScaled y wx 30))
  let next : QuaternionQ30 :=
    ⟨← add w (← multiplyScaled dw timestep 11), ← add x (← multiplyScaled dx timestep 11),
      ← add y (← multiplyScaled dy timestep 11), ← add z (← multiplyScaled dz timestep 11)⟩
  next.normalized

def stepGlobalRigidBody (state : GlobalRigidBodyState) (inertia : GlobalDiagonalInertiaQ19)
    (torque : GlobalBodyTorque) (timestep : Int32) : NumericM GlobalRigidBodyState :=
  if timestep ≤ 0 then do
    recordFault .invalidInput
    pure state
  else do
    let acceleration ← globalAngularAcceleration inertia state.angularRate torque
    let nextRate ← state.angularRate.checkedAdd (← acceleration.scale 16 timestep)
    let nextAttitude ← integrateAttitude state.attitude nextRate timestep
    return if (← get).isClear then ⟨nextAttitude, nextRate⟩ else state

end Ksa64.Core
