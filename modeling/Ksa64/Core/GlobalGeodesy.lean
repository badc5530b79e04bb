import Ksa64.Core.GlobalEnvironment

/-!
# Geodesy

From geodetic coordinates to positions, and the rotations of local frames and of launches.
-/

namespace Ksa64.Core

/-- The latitude or the longitude is not on the Earth. -/
def OffTheEarth (latitude longitude : Int32) : Prop :=
  halfPiQ28 < latitude.abs ∨ piQ28 < longitude.abs

instance (latitude longitude : Int32) : Decidable (OffTheEarth latitude longitude) :=
  inferInstanceAs (Decidable (_ ∨ _))

def geodeticToEcef (geodetic : GeodeticState) : Except EnvironmentError GlobalPositionVec :=
  guarded do
    if OffTheEarth geodetic.latitudeQ28Rad geodetic.longitudeQ28Rad then throw .range
    let (sinLat, cosLat) ← cordicSinCosQ30 geodetic.latitudeQ28Rad
    let (sinLon, cosLon) ← cordicSinCosQ30 geodetic.longitudeQ28Rad
    let sin2 ← multiplyScaled sinLat sinLat 30
    let rootTerm ← subtract ((1 : Int32) <<< 30) (← multiplyScaled wgs84E2Q30 sin2 30)
    let root ← sqrtFloorScaledU32 (max rootTerm 0).toUInt32 30
    if root = 0 ∨ 0x7fffffff < root then throw .numeric
    let normalRadius ← divideScaled wgs84SemiMajorQ12Km root.toInt32 30
    let radial ← add normalRadius geodetic.heightQ12Km
    let polarRadius ← add (← multiplyScaled normalRadius (((1 : Int32) <<< 30) - wgs84E2Q30) 30)
      geodetic.heightQ12Km
    let horizontal ← multiplyScaled radial cosLat 30
    let x ← multiplyScaled horizontal cosLon 30
    let y ← multiplyScaled horizontal sinLon 30
    let z ← multiplyScaled polarRadius sinLat 30
    requireClear .numeric
    return ⟨x, y, z⟩

def enuToEcefRotation (latitude longitude : Int32) : Except EnvironmentError QuaternionQ30 :=
  guarded do
    if OffTheEarth latitude longitude then throw .range
    let (sinHalfLon, cosHalfLon) ← cordicSinCosQ30 (longitude / 2)
    let (sinHalfLat, cosHalfLat) ← cordicSinCosQ30 (-latitude / 2)
    let qz : QuaternionQ30 := ⟨cosHalfLon, 0, 0, sinHalfLon⟩
    let qy : QuaternionQ30 := ⟨cosHalfLat, 0, sinHalfLat, 0⟩
    let half := (1 : Int32) <<< 29
    let base : QuaternionQ30 := ⟨half, half, half, half⟩
    let rotation ← (← (← qz.hamilton qy).hamilton base).normalized
    requireClear .numeric
    return rotation

/-- The azimuth is clockwise from north. -/
def launchDirectionEnu (azimuth elevation : Int32) : Except EnvironmentError (FixedVec3 30) :=
  guarded do
    if piQ28 < azimuth.abs ∨ elevation < 0 ∨ halfPiQ28 < elevation then throw .range
    let (sinAzimuth, cosAzimuth) ← cordicSinCosQ30 azimuth
    let (sinElevation, cosElevation) ← cordicSinCosQ30 elevation
    let east ← multiplyScaled cosElevation sinAzimuth 30
    let north ← multiplyScaled cosElevation cosAzimuth 30
    requireClear .numeric
    return ⟨east, north, sinElevation⟩

def saturatingMulI32 (a b : Int32) : Int32 :=
  (max (-2147483648) (min 2147483647 (a.toInt64 * b.toInt64))).toInt32

def saturatingAddI32 (a b : Int32) : Int32 :=
  (max (-2147483648) (min 2147483647 (a.toInt64 + b.toInt64))).toInt32

def saturatingSubI32 (a b : Int32) : Int32 :=
  (max (-2147483648) (min 2147483647 (a.toInt64 - b.toInt64))).toInt32

/-- The attitude that turns the first axis of the body into a direction. -/
def bodyXAttitude (direction : FixedVec3 30) : Except EnvironmentError QuaternionQ30 :=
  guarded do
    let halfSum := ((← add ((1 : Int32) <<< 30) direction.x) + 1) >>> 1
    if halfSum ≤ 0 then return ⟨0, 0, 0, (1 : Int32) <<< 30⟩
    let w ← sqrtFloorScaledU32 halfSum.toUInt32 30
    if w = 0 ∨ 0x7fffffff < w then throw .numeric
    let denominator := saturatingMulI32 w.toInt32 2
    let y ← divideScaled (-direction.z) denominator 30
    let z ← divideScaled direction.y denominator 30
    let quaternion ← (⟨w.toInt32, 0, y, z⟩ : QuaternionQ30).normalized
    requireClear .numeric
    return quaternion

end Ksa64.Core
