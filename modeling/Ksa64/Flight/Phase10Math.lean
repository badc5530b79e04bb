import Ksa64.Core.Numeric
import Ksa64.Library.Bytes
import Ksa64.Interface.Phase10

/-!
# Fixed-point vectors, quaternions and checksums of the flight computer

Vectors are raw Q12 positions and Q24 velocities, attitudes raw Q30 quaternions with
the scalar first.  The arithmetic is that of the 32- and 64-bit integer types, which
wraps; where the code saturates or clamps, so does the definition.
-/

namespace Ksa64.Flight

open Ksa64.Library Ksa64.Core Ksa64.Interface

abbrev Vec3 := Vector Int32 3
abbrev Quaternion := Vector Int32 4

def q30One : Int32 := (1 : Int32) <<< 30

/-- The identity rotation, which every failed normalisation falls back to. -/
def identityQuaternion : Quaternion := #v[q30One, 0, 0, 0]

/-- Clamp a 64-bit value to the 32-bit range. -/
def narrow (value : Int64) : Int32 := (max (-2147483648) (min 2147483647 value)).toInt32

def blend (current measurement : Int32) (shift : Int32) : Int32 :=
  addSatI32 current (subSatI32 measurement current >>> shift)

def clampI16 (value : Int32) : Int16 := (max (-32768) (min 32767 value)).toInt16

def roundedShift (value : Int64) (shift : UInt64) : Int32 :=
  let magnitude := unsignedAbs64 value
  let rounded := (magnitude + (1 <<< (shift - 1))) >>> shift
  narrow (if value < 0 then -rounded.toInt64 else rounded.toInt64)

def addVector (left right : Vec3) : Vec3 := Vector.zipWith addSatI32 left right

def subtractVector (left right : Vec3) : Vec3 := Vector.zipWith subSatI32 left right

def crossRatePosition (rateQ24 positionQ12 : Vec3) : Vec3 :=
  let r := rateQ24.map Int32.toInt64
  let p := positionQ12.map Int32.toInt64
  #v[roundedShift ((getElem r 1 Axes.y_lt) * (getElem p 2 Axes.z_lt) - (getElem r 2 Axes.z_lt) * (getElem p 1 Axes.y_lt)) 12,
    roundedShift ((getElem r 2 Axes.z_lt) * (getElem p 0 Axes.x_lt) - (getElem r 0 Axes.x_lt) * (getElem p 2 Axes.z_lt)) 12,
    roundedShift ((getElem r 0 Axes.x_lt) * (getElem p 1 Axes.y_lt) - (getElem r 1 Axes.y_lt) * (getElem p 0 Axes.x_lt)) 12]

/-- The rotation matrix of a quaternion, in Q30. -/
def rotationMatrix (rotation : Quaternion) : Vector (Vector Int64 3) 3 :=
  let w := rotation[0].toInt64
  let x := rotation[1].toInt64
  let y := rotation[2].toInt64
  let z := rotation[3].toInt64
  let one := (1 : Int64) <<< 30
  #v[#v[one - ((2 * (y * y + z * z)) >>> 30), (2 * (x * y - w * z)) >>> 30,
      (2 * (x * z + w * y)) >>> 30],
    #v[(2 * (x * y + w * z)) >>> 30, one - ((2 * (x * x + z * z)) >>> 30),
      (2 * (y * z - w * x)) >>> 30],
    #v[(2 * (x * z - w * y)) >>> 30, (2 * (y * z + w * x)) >>> 30,
      one - ((2 * (x * x + y * y)) >>> 30)]]

def rotateVector (rotation : Quaternion) (vector : Vec3) : Vec3 :=
  let v := vector.map Int32.toInt64
  (rotationMatrix rotation).map fun row ↦
    roundedShift ((getElem row 0 Axes.x_lt) * (getElem v 0 Axes.x_lt) + (getElem row 1 Axes.y_lt) * (getElem v 1 Axes.y_lt) + (getElem row 2 Axes.z_lt) * (getElem v 2 Axes.z_lt)) 30

def quaternionProduct (left right : Quaternion) : Quaternion :=
  let a := left.map Int32.toInt64
  let b := right.map Int32.toInt64
  #v[roundedShift (a[0] * b[0] - a[1] * b[1] - a[2] * b[2] - a[3] * b[3]) 30,
    roundedShift (a[0] * b[1] + a[1] * b[0] + a[2] * b[3] - a[3] * b[2]) 30,
    roundedShift (a[0] * b[2] - a[1] * b[3] + a[2] * b[0] + a[3] * b[1]) 30,
    roundedShift (a[0] * b[3] + a[1] * b[2] - a[2] * b[1] + a[3] * b[0]) 30]

/-- Divide the components by the norm, one after the other, with one status. -/
def normalizeQuaternion (value : Quaternion) : Quaternion :=
  let (magnitude, status) := magnitude4Floor value[0] value[1] value[2] value[3] .clear
  if !status.isClear || magnitude == 0 || (0x7fffffff : UInt32) < magnitude then
    identityQuaternion
  else
    let denominator := magnitude.toInt32
    let (w, status) := divideScaledTruncating value[0] denominator 30 status
    let (x, status) := divideScaledTruncating value[1] denominator 30 status
    let (y, status) := divideScaledTruncating value[2] denominator 30 status
    let (z, status) := divideScaledTruncating value[3] denominator 30 status
    if status.isClear then #v[w, x, y, z] else identityQuaternion

def attitudeError (current target : Quaternion) : Quaternion :=
  let conjugate : Quaternion := #v[current[0], -current[1], -current[2], -current[3]]
  let error := normalizeQuaternion (quaternionProduct conjugate target)
  if error[0] < 0 then error.map negSatI32 else error

/-- The first loop of the square root: the largest power of four up to the value. -/
def integerSqrtBit (value : UInt64) : Nat → UInt64 → UInt64
  | 0, bit => bit
  | fuel + 1, bit => if value < bit then integerSqrtBit value fuel (bit >>> 2) else bit

/-- The second loop of the square root: one binary digit in each round. -/
def integerSqrtLoop : Nat → UInt64 → UInt64 → UInt64 → UInt64
  | 0, _, _, result => result
  | fuel + 1, bit, remainder, result =>
      if bit = 0 then result
      else if result + bit ≤ remainder then
        integerSqrtLoop fuel (bit >>> 2) (remainder - (result + bit)) ((result >>> 1) + bit)
      else integerSqrtLoop fuel (bit >>> 2) remainder (result >>> 1)

def integerSqrt (value : UInt64) : UInt64 :=
  -- `bit` starts at `2 ^ 62` and loses two binary digits a round, so 32 rounds exhaust it
  if value = 0 then 0 else integerSqrtLoop 32 (integerSqrtBit value 32 ((1 : UInt64) <<< 62)) value 0

def bodyXAttitudeFromVelocity (velocity : Vec3) : Quaternion :=
  let v := velocity.map Int32.toInt64
  let sum := (getElem v 0 Axes.x_lt) * (getElem v 0 Axes.x_lt) + (getElem v 1 Axes.y_lt) * (getElem v 1 Axes.y_lt) + (getElem v 2 Axes.z_lt) * (getElem v 2 Axes.z_lt)
  if sum ≤ 0 then identityQuaternion
  else
    let magnitude := (min (integerSqrt sum.toUInt64) 0x7fffffff).toUInt32.toInt32
    normalizeQuaternion (Quad.of (addSatI32 magnitude (getElem velocity 0 Axes.x_lt)) 0
      (negSatI32 (getElem velocity 2 Axes.z_lt)) (getElem velocity 1 Axes.y_lt))

def integrateSmallAngle (attitude : Quaternion) (deltaAngleQ24 : Vec3) : Quaternion :=
  let half : Quaternion := #v[q30One, mulSatI32 (getElem deltaAngleQ24 0 Axes.x_lt) 32,
    mulSatI32 (getElem deltaAngleQ24 1 Axes.y_lt) 32, mulSatI32 (getElem deltaAngleQ24 2 Axes.z_lt) 32]
  normalizeQuaternion (quaternionProduct attitude half)

/-! ## Checksums -/

/-- One FNV-1a round over a byte. -/
def hashByte (checksum : UInt32) (byte : UInt8) : UInt32 :=
  (checksum ^^^ byte.toUInt32) * 0x01000193

/-- FNV-1a over the little-endian bytes of a word. -/
def hashWord (checksum value : UInt32) : UInt32 := (le32 value).foldl hashByte checksum

def hashNavigation (checksum : UInt32) (epoch : UInt16) (frame : GlobalFrameId)
    (position velocity : Vec3) : UInt32 :=
  let checksum := hashWord checksum epoch.toUInt32
  let checksum := hashWord checksum frame.code.toUInt32
  ((position.toList ++ velocity.toList).map Int32.toUInt32).foldl hashWord checksum

def hashFast (checksum : UInt32) (cell : GlobalFastSensorCell) : UInt32 :=
  let checksum := hashWord checksum cell.measurementEpoch.toUInt32
  let checksum := hashWord checksum cell.missionTimeQ16
  let checksum := hashWord checksum cell.frame.code.toUInt32
  ((cell.deltaVelocityQ24.toList ++ cell.deltaAngleQ24.toList).map
    fun value ↦ value.toUInt16.toUInt32).foldl hashWord checksum

def hashCommand (checksum : UInt32) (command : GlobalCommandCell) : UInt32 :=
  let checksum := hashWord checksum command.sourceEpoch.toUInt32
  let checksum := hashWord checksum command.frame.code.toUInt32
  let checksum := hashWord checksum command.discrete.toUInt32
  let checksum := (command.torqueDemandQ12.toList.map Int32.toUInt32).foldl hashWord checksum
  (command.rcsPulseQuanta.toList.map UInt8.toUInt32).foldl hashWord checksum

def hashFlight (checksum : UInt32) (epoch : UInt16) (navigation command : UInt32)
    (alarms : UInt16) : UInt32 :=
  let checksum := hashWord checksum epoch.toUInt32
  let checksum := hashWord checksum navigation
  let checksum := hashWord checksum command
  hashWord checksum alarms.toUInt32

end Ksa64.Flight
