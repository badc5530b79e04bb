import Ksa64.Core.GlobalNumeric
import Ksa64.Library.Checked

/-!
# The packs of the Earth

What the Earth and the transform pack hold, and the checks a pack has to pass before it is used.
-/

namespace Ksa64.Core

open Ksa64.Library

inductive Phase10ContractError where
  | length
  | magic
  | version
  | kind
  | contract
  | identity
  | reserved
  | checksum
  | enum
  | range
  | coverage
deriving DecidableEq, Repr

inductive ReferenceFrameId where
  | localEnuV1
  | earthFixedEcefV1
  | earthInertialEciV1
deriving DecidableEq, Repr

/-- The wire value of a frame. -/
def ReferenceFrameId.code : ReferenceFrameId → UInt32
  | .localEnuV1 => 1
  | .earthFixedEcefV1 => 2
  | .earthInertialEciV1 => 3

inductive GlobalSegment where
  | localLaunch
  | ecefAscent
  | eciCoast
  | ecefEntry
  | localRecovery
deriving DecidableEq, Repr

namespace GlobalSegment

/-- The wire value of a segment. -/
def code : GlobalSegment → UInt32
  | .localLaunch => 1
  | .ecefAscent => 2
  | .eciCoast => 3
  | .ecefEntry => 4
  | .localRecovery => 5

def frame : GlobalSegment → ReferenceFrameId
  | .localLaunch | .localRecovery => .localEnuV1
  | .ecefAscent | .ecefEntry => .earthFixedEcefV1
  | .eciCoast => .earthInertialEciV1

end GlobalSegment

/-! ## The Earth -/

def wgs84SemiMajorQ12Km : Int32 := 26124849
def wgs84SemiMinorQ12Km : Int32 := 26037257
def wgs84InverseFlatteningQ20 : Int32 := 312745366
def wgs84MuQ8Km3S2 : Int32 := 102041713
def wgs84J2Q30 : Int32 := 1162465
def earthRotationQ30RadS : Int32 := 78298

inductive GravityModelId where
  | centralJ2V1
deriving DecidableEq, Repr

inductive EarthOrientationModelId where
  | iers2010CompiledV1
deriving DecidableEq, Repr

inductive AtmosphereModelId where
  | compiledProfileV1
deriving DecidableEq, Repr

structure LeapRecord where
  effectiveUnixDay : Int32
  taiMinusUtcAfter : Int16
deriving DecidableEq

def LeapRecord.default : LeapRecord := ⟨0, 0⟩

def kem10MaxLeaps : Nat := 32

structure EarthModelPack where
  identity : UInt32
  gravity : GravityModelId
  orientation : EarthOrientationModelId
  atmosphere : AtmosphereModelId
  semiMajorQ12Km : Int32
  semiMinorQ12Km : Int32
  inverseFlatteningQ20 : Int32
  muQ8Km3S2 : Int32
  j2Q30 : Int32
  rotationQ30RadS : Int32
  epochUnixDay : Int32
  epochTaiMinusUtc : Int16
  eopStartUnixDay : Int32
  eopEndUnixDay : Int32
  leapSourceHash : UInt32
  eopSourceHash : UInt32
  conventionHash : UInt32
  leapCount : UInt8
  initialTaiMinusUtc : Int16
  leaps : Vector LeapRecord kem10MaxLeaps
deriving DecidableEq

/-- Later days, and one second more each time. -/
def leapsFollow : Int32 → Int16 → List LeapRecord → Bool
  | _, _, [] => true
  | day, offset, leap :: rest =>
      decide (day < leap.effectiveUnixDay) && leap.taiMinusUtcAfter == offset + 1
        && leapsFollow leap.effectiveUnixDay leap.taiMinusUtcAfter rest

def EarthModelPack.validate (p : EarthModelPack) : Except Phase10ContractError Unit := do
  reject (p.identity = 0
    ∨ p.gravity ≠ .centralJ2V1
    ∨ p.orientation ≠ .iers2010CompiledV1
    ∨ p.atmosphere ≠ .compiledProfileV1
    ∨ p.semiMajorQ12Km ≠ wgs84SemiMajorQ12Km
    ∨ p.semiMinorQ12Km ≠ wgs84SemiMinorQ12Km
    ∨ p.inverseFlatteningQ20 ≠ wgs84InverseFlatteningQ20
    ∨ p.muQ8Km3S2 ≠ wgs84MuQ8Km3S2
    ∨ p.j2Q30 ≠ wgs84J2Q30
    ∨ p.rotationQ30RadS ≠ earthRotationQ30RadS
    ∨ p.epochTaiMinusUtc ≠ 37
    ∨ p.epochUnixDay < p.eopStartUnixDay
    ∨ p.eopEndUnixDay < p.epochUnixDay
    ∨ p.leapSourceHash = 0
    ∨ p.eopSourceHash = 0
    ∨ p.conventionHash = 0
    ∨ kem10MaxLeaps < p.leapCount.toNat) .range
  reject (leapsFollow Int32.minValue p.initialTaiMinusUtc
    (p.leaps.toList.take p.leapCount.toNat) = false) .range
  reject ((p.leaps.toList.drop p.leapCount.toNat).any (· != .default) = true) .reserved

/-! ## The transforms -/

structure TransformKnot where
  time : MissionTimeQ16
  ecefToGcrf : QuaternionQ30
  angularVelocityGcrf : GlobalAngularRateVec
  angularAccelerationGcrf : FixedVec3 28
deriving DecidableEq

def TransformKnot.zero : TransformKnot := ⟨.zero, .identity, .zero, .zero⟩

def kft10MaxKnots : Nat := 128

structure TransformPack where
  identity : UInt32
  earthIdentity : UInt32
  knotSpacingQ16 : UInt32
  count : UInt8
  knots : Vector TransformKnot kft10MaxKnots
deriving DecidableEq

/-- Neighbouring knots are one spacing apart. -/
def knotsSpaced (spacing : UInt32) : List TransformKnot → Bool
  | first :: second :: rest =>
      second.time.raw - first.time.raw == spacing && knotsSpaced spacing (second :: rest)
  | _ => true

namespace TransformPack

def validate (p : TransformPack) : Except Phase10ContractError Unit := do
  reject (p.identity = 0
    ∨ p.earthIdentity = 0
    ∨ p.count < 2
    ∨ kft10MaxKnots < p.count.toNat
    ∨ p.knotSpacingQ16 ≠ 60 * 65536) .range
  reject (knotsSpaced p.knotSpacingQ16 (p.knots.toList.take p.count.toNat) = false) .range
  reject ((p.knots.toList.drop p.count.toNat).any (· != .zero) = true) .reserved

def knot (p : TransformPack) (index : Nat) : TransformKnot := p.knots.toList.getD index .zero

def covers (p : TransformPack) (time : MissionTimeQ16) : Bool :=
  2 ≤ p.count && (p.knot 0).time.raw ≤ time.raw
    && time.raw ≤ (p.knot (p.count.toNat - 1)).time.raw

end TransformPack

end Ksa64.Core
