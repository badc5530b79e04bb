import Ksa64.Core.Numeric

/-!
# Fixed-point vectors and quaternions

A vector carries the number of its fractional bits in its type; a product of two vectors is scaled
to the bits of its result.  Every operation records its faults in the status word.
-/

namespace Ksa64.Core

structure FixedVec3 (fractionalBits : Nat) where
  x : Int32
  y : Int32
  z : Int32
deriving DecidableEq, Repr

namespace FixedVec3

variable {n : Nat}

def zero : FixedVec3 n := ⟨0, 0, 0⟩

def checkedAdd (a b : FixedVec3 n) : NumericM (FixedVec3 n) := do
  return ⟨← add a.x b.x, ← add a.y b.y, ← add a.z b.z⟩

def checkedSub (a b : FixedVec3 n) : NumericM (FixedVec3 n) := do
  return ⟨← subtract a.x b.x, ← subtract a.y b.y, ← subtract a.z b.z⟩

def scale (scalarBits : UInt8) (v : FixedVec3 n) (scalar : Int32) : NumericM (FixedVec3 n) := do
  return ⟨← multiplyScaled v.x scalar scalarBits, ← multiplyScaled v.y scalar scalarBits,
    ← multiplyScaled v.z scalar scalarBits⟩

/-- The floor of the norm, in the scale of the vector. -/
def magnitudeFloor (v : FixedVec3 n) : NumericM UInt32 := magnitude3Floor v.x v.y v.z

end FixedVec3

/-- The shift that takes a product of two scales to the third one. -/
def productShift (left right output : Nat) : Option UInt8 :=
  let combined := min (left + right) 255
  if combined < output ∨ 31 < combined - output then none
  else some (UInt8.ofNat (combined - output))

def crossMixedScaled {left right : Nat} (output : Nat) (a : FixedVec3 left) (b : FixedVec3 right) :
    NumericM (FixedVec3 output) :=
  match productShift left right output with
  | none => do
      recordFault .invalidShift
      pure .zero
  | some shift => do
      let x ← subtract (← multiplyScaled a.y b.z shift) (← multiplyScaled a.z b.y shift)
      let y ← subtract (← multiplyScaled a.z b.x shift) (← multiplyScaled a.x b.z shift)
      let z ← subtract (← multiplyScaled a.x b.y shift) (← multiplyScaled a.y b.x shift)
      return ⟨x, y, z⟩

structure QuaternionQ30 where
  w : Int32
  x : Int32
  y : Int32
  z : Int32
deriving DecidableEq, Repr

namespace QuaternionQ30

def one : Int32 := (1 : Int32) <<< 30

def identity : QuaternionQ30 := ⟨one, 0, 0, 0⟩

def vector (q : QuaternionQ30) : FixedVec3 30 := ⟨q.x, q.y, q.z⟩

def conjugate (q : QuaternionQ30) : QuaternionQ30 := ⟨q.w, -q.x, -q.y, -q.z⟩

def normSquaredQ30 (q : QuaternionQ30) : NumericM Int32 := do
  let wx ← add (← multiplyScaled q.w q.w 30) (← multiplyScaled q.x q.x 30)
  let yz ← add (← multiplyScaled q.y q.y 30) (← multiplyScaled q.z q.z 30)
  add wx yz

def normalized (q : QuaternionQ30) : NumericM QuaternionQ30 := do
  let normSquared ← q.normSquaredQ30
  if normSquared ≤ 0 then
    recordFault .invalidInput
    return identity
  let norm ← sqrtFloorScaledU32 normSquared.toUInt32 30
  if norm = 0 ∨ 0x7fffffff < norm then
    recordFault .invalidInput
    return identity
  let denominator := norm.toInt32
  return ⟨← divideScaled q.w denominator 30, ← divideScaled q.x denominator 30,
    ← divideScaled q.y denominator 30, ← divideScaled q.z denominator 30⟩

def hamilton (q r : QuaternionQ30) : NumericM QuaternionQ30 := do
  let w ← subtract
    (← subtract
      (← subtract (← multiplyScaled q.w r.w 30) (← multiplyScaled q.x r.x 30))
      (← multiplyScaled q.y r.y 30))
    (← multiplyScaled q.z r.z 30)
  let x ← add (← add (← multiplyScaled q.w r.x 30) (← multiplyScaled q.x r.w 30))
    (← subtract (← multiplyScaled q.y r.z 30) (← multiplyScaled q.z r.y 30))
  let y ← add (← add (← multiplyScaled q.w r.y 30) (← multiplyScaled q.y r.w 30))
    (← subtract (← multiplyScaled q.z r.x 30) (← multiplyScaled q.x r.z 30))
  let z ← add (← add (← multiplyScaled q.w r.z 30) (← multiplyScaled q.z r.w 30))
    (← subtract (← multiplyScaled q.x r.y 30) (← multiplyScaled q.y r.x 30))
  return ⟨w, x, y, z⟩

/-- Rotate a vector of the body. -/
def rotate {n : Nat} (q : QuaternionQ30) (v : FixedVec3 n) : NumericM (FixedVec3 n) := do
  let cross ← crossMixedScaled n q.vector v
  let twiceCross ← cross.checkedAdd cross
  let scalarTerm ← twiceCross.scale 30 q.w
  let vectorTerm ← crossMixedScaled n q.vector twiceCross
  (← v.checkedAdd scalarTerm).checkedAdd vectorTerm

end QuaternionQ30

end Ksa64.Core
