import Ksa64.Core.Spatial

/-!
# Global flight in fixed point

Mission times, kinematic states and the two operations of global flight that carry more than 32
bits: linear interpolation and integration with the residual of the rounding.
-/

namespace Ksa64.Core

def globalMaxDurationRaw : UInt32 := 943718400

def globalPoweredStepQ16 : UInt32 := 512
def globalCoastStepQ16 : UInt32 := 2048
def globalAvionicsPeriodQ16 : UInt32 := 2048

abbrev GlobalPositionVec := FixedVec3 12
abbrev GlobalVelocityVec := FixedVec3 24
abbrev GlobalAccelerationVec := FixedVec3 28
abbrev GlobalAngularRateVec := FixedVec3 24
abbrev EnuPosition := FixedVec3 13
abbrev EnuVelocity := FixedVec3 19
abbrev EnuAcceleration := FixedVec3 19

/-- A time of at most four hours. -/
structure MissionTimeQ16 where
  raw : UInt32
  bounded : raw ≤ globalMaxDurationRaw
deriving DecidableEq

namespace MissionTimeQ16

def zero : MissionTimeQ16 := ⟨0, by decide⟩

def fromRaw (raw : UInt32) : Option MissionTimeQ16 :=
  if h : raw ≤ globalMaxDurationRaw then some ⟨raw, h⟩ else none

/-- The time is kept if the sum overflows or is too large. -/
def checkedAdd (t : MissionTimeQ16) (delta : UInt32) : NumericM MissionTimeQ16 :=
  if h : t.raw.toNat + delta.toNat < 2 ^ 32 ∧ t.raw + delta ≤ globalMaxDurationRaw then
    pure ⟨t.raw + delta, h.2⟩
  else do
    recordFault .saturation
    pure t

end MissionTimeQ16

structure GlobalKinematicState where
  position : GlobalPositionVec
  velocity : GlobalVelocityVec
  attitude : QuaternionQ30
  angularRate : GlobalAngularRateVec
  time : MissionTimeQ16
deriving DecidableEq

/-! ## Rounding -/

/-- The quotient, rounded to nearest with halves away from zero. -/
def roundedQuotient (value denominator : Int64) : Int64 :=
  let half := denominator / 2
  if 0 ≤ value then (value + half) / denominator else (value - half) / denominator

/-- The value does not fit a word. -/
def OutsideI32 (value : Int64) : Prop := value < -2147483648 ∨ 2147483647 < value

instance (value : Int64) : Decidable (OutsideI32 value) := inferInstanceAs (Decidable (_ ∨ _))

/-- A value that does not fit counts as zero. -/
def checkedI64ToI32 (value : Int64) : NumericM Int32 :=
  if OutsideI32 value then do
    recordFault .saturation
    pure 0
  else pure value.toInt32

def roundedDivide (value denominator : Int64) : NumericM Int32 :=
  if denominator ≤ 0 then do
    recordFault .invalidInput
    pure 0
  else checkedI64ToI32 (roundedQuotient value denominator)

def interpolateI32 (a b : Int32) (numerator denominator : UInt32) : NumericM Int32 :=
  if denominator = 0 ∨ denominator < numerator then do
    recordFault .invalidInput
    pure a
  else do
    let delta := (← subtract b a).toInt64
    let rounded := roundedQuotient (delta * numerator.toUInt64.toInt64) denominator.toUInt64.toInt64
    if OutsideI32 rounded then
      recordFault .saturation
      return a
    add a rounded.toInt32

/-- The product fits 64 bits. -/
def checkedMul (a b : Int64) : Option Int64 :=
  if a.toInt * b.toInt < -2 ^ 63 ∨ 2 ^ 63 ≤ a.toInt * b.toInt then none else some (a * b)

def checkedAdd64 (a b : Int64) : Option Int64 :=
  if a.toInt + b.toInt < -2 ^ 63 ∨ 2 ^ 63 ≤ a.toInt + b.toInt then none else some (a + b)

/-- The increment, and what the rounding leaves for the next one. -/
def integrateWithResidual (rate : Int32) (dt : UInt32) (shift : UInt8) (residual : Int64) :
    NumericM (Int32 × Int64) :=
  if shift = 0 ∨ 63 ≤ shift then do
    recordFault .invalidInput
    pure (0, residual)
  else
    let denominator := (1 : Int64) <<< (shift.toUInt64.toInt64)
    match (checkedMul rate.toInt64 dt.toUInt64.toInt64).bind (checkedAdd64 · residual) with
    | none => do
        recordFault .saturation
        pure (0, residual)
    | some numerator =>
        let quotient := roundedQuotient numerator denominator
        if OutsideI32 quotient then do
          recordFault .saturation
          pure (0, residual)
        else pure (quotient.toInt32, numerator - quotient * denominator)

end Ksa64.Core
