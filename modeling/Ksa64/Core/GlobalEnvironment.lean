import Ksa64.Core.GlobalContract

/-!
# The environment of the Earth

The compiled atmosphere, the geodetic coordinates of a point, and the accelerations in the
rotating frame.  Angles are turned into sines and back by shifts and additions only.
-/

namespace Ksa64.Core

open Ksa64.Library

inductive EnvironmentError where
  | length
  | magic
  | version
  | contract
  | identity
  | reserved
  | checksum
  | range
  | coverage
  | numeric
deriving DecidableEq, Repr

/-! ## The atmosphere -/

structure AtmosphereKnot where
  altitudeQ12Km : Int32
  densityQ28KgM3 : Int32
  pressureQ14Pa : Int32
  temperatureQ16K : Int32
  speedOfSoundQ16MS : Int32
  windEnuQ19MS : FixedVec3 19
deriving DecidableEq

def AtmosphereKnot.default : AtmosphereKnot := ⟨0, 0, 0, 0, 0, .zero⟩

structure AtmosphereSample where
  densityQ28KgM3 : Int32
  pressureQ14Pa : Int32
  temperatureQ16K : Int32
  speedOfSoundQ16MS : Int32
  windEnuQ19MS : FixedVec3 19
deriving DecidableEq

def AtmosphereSample.default : AtmosphereSample := ⟨0, 0, 0, 0, .zero⟩

def kat10MaxKnots : Nat := 64

structure CompiledAtmospherePack where
  identity : UInt32
  earthIdentity : UInt32
  sourceHash : UInt32
  count : UInt8
  zeroAboveLast : Bool
  knots : Vector AtmosphereKnot kat10MaxKnots
deriving DecidableEq

/-- What stands in a knot is physical. -/
def AtmosphereKnot.physical (knot : AtmosphereKnot) : Bool :=
  0 ≤ knot.densityQ28KgM3 && 0 ≤ knot.pressureQ14Pa && 0 < knot.temperatureQ16K
    && 0 < knot.speedOfSoundQ16MS

/-- The altitudes increase. -/
def knotsRise : List AtmosphereKnot → Bool
  | lower :: upper :: rest =>
      decide (lower.altitudeQ12Km < upper.altitudeQ12Km) && knotsRise (upper :: rest)
  | _ => true

def sampleFromKnot (knot : AtmosphereKnot) : AtmosphereSample where
  densityQ28KgM3 := knot.densityQ28KgM3
  pressureQ14Pa := knot.pressureQ14Pa
  temperatureQ16K := knot.temperatureQ16K
  speedOfSoundQ16MS := knot.speedOfSoundQ16MS
  windEnuQ19MS := knot.windEnuQ19MS

/-- How many knots to go up from one whose successors are given. -/
def knotsBelow (altitude : Int32) : List AtmosphereKnot → Nat
  | [] => 0
  | knot :: rest => if knot.altitudeQ12Km < altitude then knotsBelow altitude rest + 1 else 0

def interpolateVec {n : Nat} (a b : FixedVec3 n) (numerator denominator : UInt32) :
    NumericM (FixedVec3 n) := do
  return ⟨← interpolateI32 a.x b.x numerator denominator,
    ← interpolateI32 a.y b.y numerator denominator,
    ← interpolateI32 a.z b.z numerator denominator⟩

namespace CompiledAtmospherePack

def active (p : CompiledAtmospherePack) : List AtmosphereKnot := p.knots.toList.take p.count.toNat

def validate (p : CompiledAtmospherePack) : Except EnvironmentError Unit := do
  reject (p.identity = 0
    ∨ p.earthIdentity = 0
    ∨ p.sourceHash = 0
    ∨ p.count < 2
    ∨ kat10MaxKnots < p.count.toNat) .range
  reject (p.active.all AtmosphereKnot.physical = false ∨ knotsRise p.active = false) .range
  reject ((p.knots.toList.drop p.count.toNat).any (· != .default) = true) .reserved

def knot (p : CompiledAtmospherePack) (index : Nat) : AtmosphereKnot :=
  p.knots.toList.getD index .default

def sample (p : CompiledAtmospherePack) (altitude : Int32) :
    Except EnvironmentError AtmosphereSample := guarded do
  p.validate
  if altitude < (p.knot 0).altitudeQ12Km then throw .coverage
  if (p.knot (p.active.length - 1)).altitudeQ12Km < altitude then
    if p.zeroAboveLast then return .default else throw .coverage
  let upper := 1 + knotsBelow altitude p.active.tail
  let lower := upper - 1
  if (p.knot lower).altitudeQ12Km = altitude then return sampleFromKnot (p.knot lower)
  let lo := p.knot lower
  let hi := p.knot upper
  let numerator := (altitude - lo.altitudeQ12Km).toUInt32
  let denominator := (hi.altitudeQ12Km - lo.altitudeQ12Km).toUInt32
  let density ← interpolateI32 lo.densityQ28KgM3 hi.densityQ28KgM3 numerator denominator
  let pressure ← interpolateI32 lo.pressureQ14Pa hi.pressureQ14Pa numerator denominator
  let temperature ← interpolateI32 lo.temperatureQ16K hi.temperatureQ16K numerator denominator
  let sound ← interpolateI32 lo.speedOfSoundQ16MS hi.speedOfSoundQ16MS numerator denominator
  let wind ← interpolateVec lo.windEnuQ19MS hi.windEnuQ19MS numerator denominator
  requireClear .numeric
  return ⟨density, pressure, temperature, sound, wind⟩

end CompiledAtmospherePack

/-! ## Angles -/

def wgs84E2Q30 : Int32 := 7188036
def cordicGainQ30 : Int64 := 652032874
def piQ28 : Int32 := 843314857
def halfPiQ28 : Int32 := 421657428

def cordicAtanQ28 : List Int64 :=
  [210828714, 124459457, 65760959, 33381290, 16755422, 8385879, 4193963, 2097109, 1048571, 524287,
    262144, 131072, 65536, 32768, 16384, 8192, 4096, 2048, 1024, 512, 256, 128, 64, 32, 16, 8, 4, 2]

def roundedI64 (value denominator : Int64) : NumericM Int32 := roundedDivide value denominator

/-- Turn a vector onto the first axis; `angle` collects what it was turned by. -/
def cordicVectoring : Nat → List Int64 → Int64 → Int64 → Int64 → Int64
  | _, [], _, _, angle => angle
  | index, increment :: rest, x, y, angle =>
      let shift := Int64.ofNat index
      if 0 < y then
        cordicVectoring (index + 1) rest (x + (y >>> shift)) (y - (x >>> shift)) (angle + increment)
      else
        cordicVectoring (index + 1) rest (x - (y >>> shift)) (y + (x >>> shift)) (angle - increment)

def cordicAtan2Q28 (y x : Int32) : NumericM Int32 :=
  if x = 0 ∧ y = 0 then do
    recordFault .invalidInput
    pure 0
  else if x = 0 then pure (if 0 ≤ y then halfPiQ28 else -halfPiQ28)
  else if y = 0 then pure (if 0 < x then 0 else piQ28)
  else
    let angle :=
      if x < 0 then
        cordicVectoring 0 cordicAtanQ28 (-x.toInt64) (-y.toInt64)
          (if 0 ≤ y then piQ28.toInt64 else -piQ28.toInt64)
      else cordicVectoring 0 cordicAtanQ28 x.toInt64 y.toInt64 0
    roundedI64 angle 1

/-- Turn a vector by an angle. -/
def cordicRotation : Nat → List Int64 → Int64 → Int64 → Int64 → Int64 × Int64
  | _, [], x, y, _ => (x, y)
  | index, increment :: rest, x, y, z =>
      let shift := Int64.ofNat index
      if 0 ≤ z then
        cordicRotation (index + 1) rest (x - (y >>> shift)) (y + (x >>> shift)) (z - increment)
      else
        cordicRotation (index + 1) rest (x + (y >>> shift)) (y - (x >>> shift)) (z + increment)

/-- The sine and the cosine.  A word is less than a turn away from the range of angles, so that
the two loops of the source go around once at most. -/
def cordicSinCosQ30 (angle : Int32) : NumericM (Int32 × Int32) := do
  let angle := if piQ28 < angle then angle - piQ28 * 2 else angle
  let angle := if angle < -piQ28 then angle + piQ28 * 2 else angle
  let (angle, sign) : Int32 × Int64 :=
    if halfPiQ28 < angle then (angle - piQ28, -1)
    else if angle < -halfPiQ28 then (angle + piQ28, -1)
    else (angle, 1)
  let (x, y) := cordicRotation 0 cordicAtanQ28 cordicGainQ30 0 angle.toInt64
  return (← roundedI64 (y * sign) 1, ← roundedI64 (x * sign) 1)

/-! ## Geodetic coordinates -/

structure GeodeticState where
  latitudeQ28Rad : Int32
  longitudeQ28Rad : Int32
  heightQ12Km : Int32
deriving DecidableEq

/-- The rounds that are left of the iteration for latitude and height.  Over a pole, and without a
radius, it breaks off. -/
def geodeticLoop (z p : Int32) : Nat → Int32 → Int32 → NumericM (Int32 × Int32)
  | 0, latitude, height => pure (latitude, height)
  | rounds + 1, latitude, height => do
      let (sinLat, cosLat) ← cordicSinCosQ30 latitude
      if cosLat = 0 then
        let sign : Int32 := if 0 ≤ z then 1 else -1
        return (sign * halfPiQ28, z.abs - wgs84SemiMinorQ12Km)
      let sin2 ← multiplyScaled sinLat sinLat 30
      let rootTerm ← subtract ((1 : Int32) <<< 30) (← multiplyScaled wgs84E2Q30 sin2 30)
      let root ← sqrtFloorScaledU32 (max rootTerm 0).toUInt32 30
      if root = 0 ∨ 0x7fffffff < root then
        recordFault .invalidInput
        return (latitude, height)
      let normalRadius ← divideScaled wgs84SemiMajorQ12Km root.toInt32 30
      let radialProjection ← add (← multiplyScaled p cosLat 30) (← multiplyScaled z sinLat 30)
      let ellipsoidProjection ← multiplyScaled wgs84SemiMajorQ12Km root.toInt32 30
      let height ← subtract radialProjection ellipsoidProjection
      let normalOverTotal ← divideScaled normalRadius (← add normalRadius height) 30
      let latitudeDenominator ← multiplyScaled p
        (← subtract ((1 : Int32) <<< 30) (← multiplyScaled wgs84E2Q30 normalOverTotal 30)) 30
      let latitude ← cordicAtan2Q28 z latitudeDenominator
      geodeticLoop z p rounds latitude height

def ecefToGeodetic (position : GlobalPositionVec) : Except EnvironmentError GeodeticState :=
  guarded do
    let p ← (⟨position.x, position.y, 0⟩ : GlobalPositionVec).magnitudeFloor
    if 0x7fffffff < p then recordFault .saturation
    let p := p.toInt32
    requireClear .numeric
    if p = 0 then
      if position.z = 0 then throw .range
      return {
        latitudeQ28Rad := if 0 < position.z then halfPiQ28 else -halfPiQ28
        longitudeQ28Rad := 0
        heightQ12Km := position.z.abs - wgs84SemiMinorQ12Km }
    if position.z = 0 then
      return {
        latitudeQ28Rad := 0
        longitudeQ28Rad := ← cordicAtan2Q28 position.y position.x
        heightQ12Km := p - wgs84SemiMajorQ12Km }
    let longitude ← cordicAtan2Q28 position.y position.x
    let initialDenominator ← multiplyScaled p (((1 : Int32) <<< 30) - wgs84E2Q30) 30
    let latitude ← cordicAtan2Q28 position.z initialDenominator
    let (latitude, height) ← geodeticLoop position.z p 5 latitude 0
    requireClear .numeric
    return ⟨latitude, longitude, height⟩

/-! ## Accelerations -/

/-- Central gravity and that of the flattening. -/
def centralJ2Gravity (earth : EarthModelPack) (position : GlobalPositionVec) :
    Except EnvironmentError GlobalAccelerationVec := guarded do
  if earth.muQ8Km3S2 ≠ wgs84MuQ8Km3S2 ∨ earth.j2Q30 ≠ wgs84J2Q30
      ∨ earth.semiMajorQ12Km ≠ wgs84SemiMajorQ12Km then throw .identity
  let radius ← position.magnitudeFloor
  if radius = 0 ∨ 0x7fffffff < radius then throw .range
  let radius := radius.toInt32.toInt64
  let r2Q8 := (radius * radius + (1 : Int64) <<< 15) >>> 16
  let gravityQ28 ← roundedI64 (earth.muQ8Km3S2.toInt64 * (1 : Int64) <<< 28) r2Q8
  let xRatio ← roundedI64 (position.x.toInt64 * (1 : Int64) <<< 30) radius
  let yRatio ← roundedI64 (position.y.toInt64 * (1 : Int64) <<< 30) radius
  let zRatio ← roundedI64 (position.z.toInt64 * (1 : Int64) <<< 30) radius
  let reRatio ← roundedI64 (earth.semiMajorQ12Km.toInt64 * (1 : Int64) <<< 30) radius
  let re2 ← multiplyScaled reRatio reRatio 30
  let z2 ← multiplyScaled zRatio zRatio 30
  let j2Re2 ← multiplyScaled earth.j2Q30 re2 30
  let factor ← roundedI64 (j2Re2.toInt64 * 3) 2
  let fiveZFactor ← roundedI64 ((← multiplyScaled factor z2 30).toInt64 * 5) 1
  let correctionXY ← subtract ((1 : Int32) <<< 30) (← subtract fiveZFactor factor)
  let correctionZ ← subtract ((1 : Int32) <<< 30)
    (← subtract fiveZFactor (← roundedI64 (factor.toInt64 * 3) 1))
  let axis (ratio correction : Int32) : NumericM Int32 := do
    return -(← multiplyScaled (← multiplyScaled gravityQ28 ratio 30) correction 30)
  let x ← axis xRatio correctionXY
  let y ← axis yRatio correctionXY
  let z ← axis zRatio correctionZ
  requireClear .numeric
  return ⟨x, y, z⟩

/-- What appears as acceleration in the rotating frame. -/
def ecefRotatingTerms (position : GlobalPositionVec) (velocity : GlobalVelocityVec)
    (angularAcceleration : GlobalAccelerationVec) :
    Except EnvironmentError GlobalAccelerationVec := guarded do
  let omegaQ24 := max ((earthRotationQ30RadS + 32) >>> 6) 1
  let omega : FixedVec3 24 := ⟨0, 0, omegaQ24⟩
  let coriolis ← (← crossMixedScaled 28 omega velocity).scale 0 (-2)
  let sweepVelocity ← crossMixedScaled 24 omega position
  let centrifugal ← (← crossMixedScaled 28 omega sweepVelocity).scale 0 (-1)
  let euler ← (← crossMixedScaled 28 angularAcceleration position).scale 0 (-1)
  let result ← (← coriolis.checkedAdd centrifugal).checkedAdd euler
  requireClear .numeric
  return result

end Ksa64.Core
