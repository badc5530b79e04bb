import Ksa64.Core.GlobalEnvironment

/-!
# Transport between frames

A state is carried from a local frame to the Earth-fixed one and on to the inertial one, and back.
The velocity of the rotating frame is added on the way to the inertial frame and taken off on the
way back.
-/

namespace Ksa64.Core

open Ksa64.Library

inductive FrameError where
  | identity
  | coverage
  | numeric
  | scale
  | contract (error : Phase10ContractError)
deriving DecidableEq, Repr

structure LocalAnchor where
  identity : UInt32
  originEcef : GlobalPositionVec
  enuToEcef : QuaternionQ30
  referenceMeridianQ28Rad : Int32
deriving DecidableEq

def LocalAnchor.validate (a : LocalAnchor) : Except FrameError LocalAnchor := guarded do
  if a.identity = 0 then throw .identity
  let normalized ← a.enuToEcef.normalized
  requireClear .numeric
  return { a with enuToEcef := normalized }

structure LocalKinematicState where
  position : EnuPosition
  velocity : EnuVelocity
  attitude : QuaternionQ30
  angularRate : GlobalAngularRateVec
  time : MissionTimeQ16
deriving DecidableEq

structure InterpolatedTransform where
  time : MissionTimeQ16
  ecefToGcrf : QuaternionQ30
  angularVelocityGcrf : GlobalAngularRateVec
  angularAccelerationGcrf : GlobalAccelerationVec
deriving DecidableEq

/-- From metres to kilometres. -/
def enuPositionToGlobal (v : EnuPosition) : NumericM GlobalPositionVec := do
  return ⟨← roundedDivide v.x.toInt64 2000, ← roundedDivide v.y.toInt64 2000,
    ← roundedDivide v.z.toInt64 2000⟩

def globalPositionToEnu (v : GlobalPositionVec) : NumericM EnuPosition := do
  return ⟨← checkedI64ToI32 (v.x.toInt64 * 2000), ← checkedI64ToI32 (v.y.toInt64 * 2000),
    ← checkedI64ToI32 (v.z.toInt64 * 2000)⟩

def enuVelocityToGlobal (v : EnuVelocity) : NumericM GlobalVelocityVec := do
  return ⟨← roundedDivide (v.x.toInt64 * 4) 125, ← roundedDivide (v.y.toInt64 * 4) 125,
    ← roundedDivide (v.z.toInt64 * 4) 125⟩

def globalVelocityToEnu (v : GlobalVelocityVec) : NumericM EnuVelocity := do
  return ⟨← roundedDivide (v.x.toInt64 * 125) 4, ← roundedDivide (v.y.toInt64 * 125) 4,
    ← roundedDivide (v.z.toInt64 * 125) 4⟩

/-- Of a rotation's two quaternions, the one nearer to the other rotation. -/
def chooseQuaternionSign (a b : QuaternionQ30) : QuaternionQ30 :=
  let dot := a.w.toInt64 * b.w.toInt64 + a.x.toInt64 * b.x.toInt64 + a.y.toInt64 * b.y.toInt64
    + a.z.toInt64 * b.z.toInt64
  if dot < 0 then ⟨-b.w, -b.x, -b.y, -b.z⟩ else b

def interpolateTransform (pack : TransformPack) (time : MissionTimeQ16) :
    Except FrameError InterpolatedTransform := guarded do
  pack.validate.mapError FrameError.contract
  if !pack.covers time then throw .coverage
  let elapsed := time.raw - (pack.knot 0).time.raw
  let index := min (elapsed / pack.knotSpacingQ16).toNat (pack.count.toNat - 2)
  let first := pack.knot index
  let second := pack.knot (index + 1)
  let numerator := time.raw - first.time.raw
  let denominator := second.time.raw - first.time.raw
  let secondQ := chooseQuaternionSign first.ecefToGcrf second.ecefToGcrf
  let w ← interpolateI32 first.ecefToGcrf.w secondQ.w numerator denominator
  let x ← interpolateI32 first.ecefToGcrf.x secondQ.x numerator denominator
  let y ← interpolateI32 first.ecefToGcrf.y secondQ.y numerator denominator
  let z ← interpolateI32 first.ecefToGcrf.z secondQ.z numerator denominator
  let quaternion ← (⟨w, x, y, z⟩ : QuaternionQ30).normalized
  let omega ← interpolateVec first.angularVelocityGcrf second.angularVelocityGcrf numerator
    denominator
  let alpha ← interpolateVec first.angularAccelerationGcrf second.angularAccelerationGcrf numerator
    denominator
  requireClear .numeric
  return ⟨time, quaternion, omega, alpha⟩

def localToEcef (anchor : LocalAnchor) (state : LocalKinematicState) :
    Except FrameError GlobalKinematicState := guarded do
  let anchor ← anchor.validate
  let offset ← anchor.enuToEcef.rotate (← enuPositionToGlobal state.position)
  let position ← anchor.originEcef.checkedAdd offset
  let velocity ← anchor.enuToEcef.rotate (← enuVelocityToGlobal state.velocity)
  let attitude ← (← anchor.enuToEcef.hamilton state.attitude).normalized
  requireClear .numeric
  return ⟨position, velocity, attitude, state.angularRate, state.time⟩

def ecefToLocal (anchor : LocalAnchor) (state : GlobalKinematicState) :
    Except FrameError LocalKinematicState := guarded do
  let anchor ← anchor.validate
  let inverse := anchor.enuToEcef.conjugate
  let offsetEcef ← state.position.checkedSub anchor.originEcef
  let position ← globalPositionToEnu (← inverse.rotate offsetEcef)
  let velocity ← globalVelocityToEnu (← inverse.rotate state.velocity)
  let attitude ← (← inverse.hamilton state.attitude).normalized
  requireClear .numeric
  return ⟨position, velocity, attitude, state.angularRate, state.time⟩

def ecefToGcrf (transform : InterpolatedTransform) (state : GlobalKinematicState) :
    Except FrameError GlobalKinematicState := guarded do
  if transform.time ≠ state.time then throw .identity
  let position ← transform.ecefToGcrf.rotate state.position
  let rotatedVelocity ← transform.ecefToGcrf.rotate state.velocity
  let sweep ← crossMixedScaled 24 transform.angularVelocityGcrf position
  let velocity ← rotatedVelocity.checkedAdd sweep
  let attitude ← (← transform.ecefToGcrf.hamilton state.attitude).normalized
  requireClear .numeric
  return ⟨position, velocity, attitude, state.angularRate, state.time⟩

def gcrfToEcef (transform : InterpolatedTransform) (state : GlobalKinematicState) :
    Except FrameError GlobalKinematicState := guarded do
  if transform.time ≠ state.time then throw .identity
  let inverse := transform.ecefToGcrf.conjugate
  let sweep ← crossMixedScaled 24 transform.angularVelocityGcrf state.position
  let velocityWithoutSweep ← state.velocity.checkedSub sweep
  let position ← inverse.rotate state.position
  let velocity ← inverse.rotate velocityWithoutSweep
  let attitude ← (← inverse.hamilton state.attitude).normalized
  requireClear .numeric
  return ⟨position, velocity, attitude, state.angularRate, state.time⟩

end Ksa64.Core
