import Ksa64.Flight.SpatialFlight

/-!
# The reference guidance

The attitude of the reference ascent, between the points of its table.
-/

namespace Ksa64.Flight

open Ksa64.Library Ksa64.Interface SpatialNavigation

structure GuidancePoint where
  step : UInt32
  attitudeQ30 : Quaternion
  rateQ24 : Vec3
deriving DecidableEq

def guidancePoints : List GuidancePoint :=
  [⟨0, quad 1040703765 0 (-264305086) 0, Axes.of 0 (-565) 516⟩,
    ⟨80, quad 1040659252 (-40621) (-264480244) 159947, Axes.of 0 (-216165) 197386⟩,
    ⟨240, quad 990936333 (-30978236) (-393863713) 121977097, Axes.of 0 (-98275) 89737⟩,
    ⟨560, quad 919549585 (-58316233) (-501222115) 229620718, Axes.of 0 (-50832) 46416⟩,
    ⟨960, quad 860964060 (-75253731) (-564090687) 296312274, Axes.of 0 (-167387) 152846⟩,
    ⟨1240, quad 692634338 (-111002659) (-685437010) 437074013, Axes.of 0 (-51699) 47208⟩,
    ⟨1760, quad 577991829 (-128835165) (-738177239) 507289675, Axes.of 0 (-8558) 7814⟩,
    ⟨3200, quad 521757095 (-136236914) (-757871338) 536434132, Axes.all 0⟩]

namespace ReferenceGuidance

def normalize (q : Quaternion) : Option Quaternion := do
  let square (i : Nat) : UInt64 := ((wide q i * wide q i) >>> 30).toUInt64
  let sum ← checkedAdd64 (square 0) (square 1)
  let sum ← checkedAdd64 sum (square 2)
  let sum ← checkedAdd64 sum (square 3)
  let norm := (isqrt (sum <<< 30)).toInt64
  if norm = 0 then none
  else
    let component (i : Nat) : Int32 := ((wide q i <<< (30 : Int64)) / norm).toInt32
    pure (quad (component 0) (component 1) (component 2) (component 3))

/-- The attitude between two points, with the rate of the first. -/
def between (start stop : GuidancePoint) (step : UInt32) : SpatialGuidanceTarget :=
  let span := (stop.step - start.step).toUInt64.toInt64
  let offset := (step - start.step).toUInt64.toInt64
  let component (i : Nat) : Int32 :=
    let a := wide start.attitudeQ30 i
    let b := wide stop.attitudeQ30 i
    (a + ((b - a) * offset) / span).toInt32
  let attitude := quad (component 0) (component 1) (component 2) (component 3)
  ⟨(normalize attitude).getD start.attitudeQ30, start.rateQ24⟩

/-- The last point that has been reached; after the last of all its attitude stays. -/
def target (step : UInt32) : List GuidancePoint → SpatialGuidanceTarget
  | [] => ⟨quad 0 0 0 0, Axes.all 0⟩
  | [last] => ⟨last.attitudeQ30, last.rateQ24⟩
  | start :: stop :: rest =>
      if stop.step ≤ step then target step (stop :: rest) else between start stop step

end ReferenceGuidance

def referenceGuidanceTarget (step : UInt32) : SpatialGuidanceTarget :=
  ReferenceGuidance.target step guidancePoints

end Ksa64.Flight
