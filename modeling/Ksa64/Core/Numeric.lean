import Ksa64.Library.Words

/-!
# Target-independent numerics

The flight code runs on targets without 64-bit integers, so the numeric core
builds its wide intermediate values from two 32-bit words and records faults in a
status word instead of stopping.  Functions that take `&mut NumericStatus` return
the new status next to their value.
-/

namespace Ksa64.Core

/-- The faults a numeric operation can record. -/
inductive NumericFault where
  | saturation
  | divisionByZero
  | invalidShift
  | invalidInput
deriving DecidableEq, Repr

/-- The bit of a fault in the status word. -/
def NumericFault.bit : NumericFault → UInt8
  | .saturation => 1
  | .divisionByZero => 2
  | .invalidShift => 4
  | .invalidInput => 8

/-- The status word: the union of the faults recorded so far. -/
structure NumericStatus where
  bits : UInt8
deriving DecidableEq, Repr

namespace NumericStatus

/-- No fault recorded. -/
def clear : NumericStatus := ⟨0⟩

def isClear (s : NumericStatus) : Bool := s.bits == 0

def record (s : NumericStatus) (fault : NumericFault) : NumericStatus := ⟨s.bits ||| fault.bit⟩

end NumericStatus

/-- A 64-bit value as two words. -/
structure Unsigned64 where
  low : UInt32
  high : UInt32
deriving DecidableEq, Repr

/-- The magnitude of a signed word; that of the least one is `2 ^ 31`. -/
def magnitude (value : Int32) : UInt32 :=
  if value = Int32.minValue then 0x80000000
  else if value < 0 then (-value).toUInt32
  else value.toUInt32

def addWords (value : Unsigned64) (addLow addHigh : UInt32) : Unsigned64 :=
  let low := value.low + addLow
  let high := value.high + addHigh
  ⟨low, if low < value.low then high + 1 else high⟩

def multiplyUnsigned32 (a b : UInt32) : Unsigned64 :=
  let aLow := a &&& 0xffff
  let aHigh := a >>> 16
  let bLow := b &&& 0xffff
  let bHigh := b >>> 16
  let product01 := aLow * bHigh
  let product10 := aHigh * bLow
  let result : Unsigned64 := ⟨aLow * bLow, 0⟩
  let result := addWords result (product01 <<< 16) (product01 >>> 16)
  let result := addWords result (product10 <<< 16) (product10 >>> 16)
  { result with high := result.high + aHigh * bHigh }

def shiftLeft32 (value : UInt32) (shift : UInt8) : Unsigned64 :=
  if shift = 0 then ⟨value, 0⟩
  else ⟨value <<< shift.toUInt32, value >>> (32 - shift.toUInt32)⟩

def bitAt (value : Unsigned64) (position : Nat) : UInt32 :=
  if position < 32 then (value.low >>> UInt32.ofNat position) &&& 1
  else (value.high >>> UInt32.ofNat (position - 32)) &&& 1

def setBit (value : Unsigned64) (position : Nat) : Unsigned64 :=
  if position < 32 then { value with low := value.low ||| (1 <<< UInt32.ofNat position) }
  else { value with high := value.high ||| (1 <<< UInt32.ofNat (position - 32)) }

/-- The division loop: `position` counts the bits still to bring down. -/
def divideUnsigned64By32Loop (numerator : Unsigned64) (denominator : UInt32) :
    Nat → Unsigned64 → UInt32 → Unsigned64 × UInt32
  | 0, quotient, remainder => (quotient, remainder)
  | position + 1, quotient, remainder =>
      let remainder := (remainder <<< 1) ||| bitAt numerator position
      if denominator ≤ remainder then
        divideUnsigned64By32Loop numerator denominator position (setBit quotient position)
          (remainder - denominator)
      else divideUnsigned64By32Loop numerator denominator position quotient remainder

def divideUnsigned64By32 (numerator : Unsigned64) (denominator : UInt32) :
    Unsigned64 × UInt32 :=
  divideUnsigned64By32Loop numerator denominator 64 ⟨0, 0⟩ 0

def signedFromMagnitude (value : Unsigned64) (negative : Bool) (status : NumericStatus) :
    Int32 × NumericStatus :=
  if negative then
    if value.high ≠ 0 ∨ 0x80000000 < value.low then
      (Int32.minValue, status.record .saturation)
    else if value.low = 0x80000000 then (Int32.minValue, status)
    else (-value.low.toInt32, status)
  else if value.high ≠ 0 ∨ 0x7fffffff < value.low then
    (Int32.maxValue, status.record .saturation)
  else (value.low.toInt32, status)

/-- `(numerator * 2 ^ shift) / denominator`, truncated towards zero. -/
def divideScaledTruncating (numerator denominator : Int32) (shift : UInt8)
    (status : NumericStatus) : Int32 × NumericStatus :=
  if denominator = 0 then (0, status.record .divisionByZero)
  else if 31 < shift then (0, status.record .invalidShift)
  else
    let negative := (numerator < 0) != (denominator < 0)
    let shifted := shiftLeft32 (magnitude numerator) shift
    let quotient := (divideUnsigned64By32 shifted (magnitude denominator)).1
    signedFromMagnitude quotient negative status

/-! ## Scaled arithmetic -/

/-- A computation that records its faults in the status word it is given. -/
abbrev NumericM := StateM NumericStatus

def recordFault (fault : NumericFault) : NumericM Unit := modify fun s ↦ s.record fault

def shiftRight (value : Unsigned64) (shift : UInt8) : Unsigned64 :=
  if shift = 0 then value
  else ⟨(value.low >>> shift.toUInt32) ||| (value.high <<< (32 - shift.toUInt32)),
    value.high >>> shift.toUInt32⟩

def increment (value : Unsigned64) : Unsigned64 :=
  let low := value.low + 1
  ⟨low, if low = 0 then value.high + 1 else value.high⟩

/-- `(a * b) / 2 ^ shift`, rounded to nearest with halves away from zero. -/
def multiplyScaled (a b : Int32) (shift : UInt8) : NumericM Int32 :=
  if 31 < shift then do
    recordFault .invalidShift
    pure 0
  else
    let negative := (a < 0) != (b < 0)
    let product := multiplyUnsigned32 (magnitude a) (magnitude b)
    let product :=
      if shift = 0 then product else addWords product (1 <<< (shift - 1).toUInt32) 0
    signedFromMagnitude (shiftRight product shift) negative

/-- `(numerator * 2 ^ shift) / denominator`, rounded to nearest with halves away from zero. -/
def divideScaled (numerator denominator : Int32) (shift : UInt8) : NumericM Int32 :=
  if denominator = 0 then do
    recordFault .divisionByZero
    pure 0
  else if 31 < shift then do
    recordFault .invalidShift
    pure 0
  else
    let negative := (numerator < 0) != (denominator < 0)
    let divisor := magnitude denominator
    let (quotient, remainder) :=
      divideUnsigned64By32 (shiftLeft32 (magnitude numerator) shift) divisor
    let quotient := if divisor - remainder ≤ remainder then increment quotient else quotient
    signedFromMagnitude quotient negative

def add (a b : Int32) : NumericM Int32 :=
  if 0 < b ∧ Int32.maxValue - b < a then do
    recordFault .saturation
    pure Int32.maxValue
  else if b < 0 ∧ a < Int32.minValue - b then do
    recordFault .saturation
    pure Int32.minValue
  else pure (a + b)

def subtract (a b : Int32) : NumericM Int32 :=
  if 0 < b ∧ a < Int32.minValue + b then do
    recordFault .saturation
    pure Int32.minValue
  else if b < 0 ∧ Int32.maxValue + b < a then do
    recordFault .saturation
    pure Int32.maxValue
  else pure (a - b)

/-- The binary search of the square root.  The interval `[low, high]` at least halves
in each round, so from the full 32-bit range it is empty after 33 rounds. -/
def sqrtFloorLoop (target : Unsigned64) : Nat → UInt32 → UInt32 → UInt32 → UInt32
  | 0, _, _, answer => answer
  | fuel + 1, low, high, answer =>
      let middle := low + ((high - low) >>> 1)
      let square := multiplyUnsigned32 middle middle
      if square.high < target.high ∨ (square.high = target.high ∧ square.low ≤ target.low) then
        if middle = 0xffffffff then middle
        else if high < middle + 1 then middle
        else sqrtFloorLoop target fuel (middle + 1) high middle
      else if middle = 0 then answer
      else if middle - 1 < low then answer
      else sqrtFloorLoop target fuel low (middle - 1) answer

def sqrtFloorUnsigned64 (target : Unsigned64) : UInt32 :=
  sqrtFloorLoop target 33 0 0xffffffff 0

/-- The floor of the root of `value * 2 ^ shift`. -/
def sqrtFloorScaledU32 (value : UInt32) (shift : UInt8) : NumericM UInt32 :=
  if 31 < shift then do
    recordFault .invalidShift
    pure 0
  else pure (sqrtFloorUnsigned64 (shiftLeft32 value shift))

def addUnsigned64Checked (value addend : Unsigned64) (status : NumericStatus) :
    Unsigned64 × NumericStatus :=
  let low := value.low + addend.low
  let carry : UInt32 := if low < value.low then 1 else 0
  let high := value.high + addend.high
  let overflowHigh : Bool := high < value.high
  let highCarried := high + carry
  let overflowCarry : Bool := highCarried < high
  if overflowHigh || overflowCarry then (⟨0xffffffff, 0xffffffff⟩, status.record .saturation)
  else (⟨low, highCarried⟩, status)

/-- The floor of the Euclidean norm of three words. -/
def magnitude3Floor (x y z : Int32) (status : NumericStatus) : UInt32 × NumericStatus :=
  let square := fun component ↦ multiplyUnsigned32 (magnitude component) (magnitude component)
  let (squared, status) := addUnsigned64Checked (square x) (square y) status
  let (squared, status) := addUnsigned64Checked squared (square z) status
  (sqrtFloorUnsigned64 squared, status)

/-- The floor of the Euclidean norm of four words. -/
def magnitude4Floor (w x y z : Int32) (status : NumericStatus) : UInt32 × NumericStatus :=
  let square := fun component ↦ multiplyUnsigned32 (magnitude component) (magnitude component)
  let (squared, status) := addUnsigned64Checked (square w) (square x) status
  let (squared, status) := addUnsigned64Checked squared (square y) status
  let (squared, status) := addUnsigned64Checked squared (square z) status
  (sqrtFloorUnsigned64 squared, status)

/-! ## Functions with a status of their own -/

/-- A computation with a status word that can also stop with an error. -/
abbrev GuardedM (ε : Type) := ExceptT ε NumericM

/-- Stop with the error if a fault has been recorded. -/
def requireClear {ε : Type} (e : ε) : GuardedM ε Unit := do
  if !(← get).isClear then throw e

/-- Start with a clear status, and forget it at the end. -/
def guarded {ε α : Type} (x : GuardedM ε α) : Except ε α := (x.run NumericStatus.clear).1

end Ksa64.Core
