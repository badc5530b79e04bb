import Ksa64.Core.GlobalGeodesy
import Ksa64.Core.GlobalVehicle
import Ksa64.Interface.Phase10

/-!
# The actuators of global flight

The gimbal follows the commands at a limited rate.  A command gives each jet a number of quanta to
fire, and the state counts what is left of each pulse.
-/

namespace Ksa64.Sim

open Ksa64.Core Ksa64.Interface

def rcsQuantumQ16 : UInt16 := 256

structure GlobalActuatorState where
  gimbalTurn16 : Vector Int16 2
  pulseRemainingQ16 : Vector UInt16 12
  lastSourceEpoch : UInt16
  hasSourceEpoch : Bool
deriving DecidableEq

def clampTurn16 (value : Int32) (limit : Int16) : Int16 :=
  (max (-limit.toInt32) (min limit.toInt32 value)).toInt16

namespace GlobalActuatorState

def neutral : GlobalActuatorState where
  gimbalTurn16 := .replicate 2 0
  pulseRemainingQ16 := .replicate 12 0
  lastSourceEpoch := 0
  hasSourceEpoch := false

/-- One release's way of a gimbal to its target. -/
def slewed (slew : Int16) (applied requested : Int16) : Int16 :=
  let delta := requested.toInt32 - applied.toInt32
  (applied.toInt32 + max (-slew.toInt32) (min slew.toInt32 delta)).toInt16

/-- The propellant that pulses do not touch. -/
def rcsReserve (vehicle : GlobalVehiclePack) : Int32 :=
  ((vehicle.rcsPropellantQ21Kg.toInt64 * vehicle.rcsReserveQ16.toUInt64.toInt64) >>> 16).toInt32

/-- The pulses of the command are fired. -/
def fires (command : GlobalCommandCell) (vehicle : GlobalVehiclePack)
    (powered railConstrained : Bool) (remainingPropellant : Int32) : Bool :=
  !powered && !railConstrained && command.discrete &&& globalCommandSafe == 0
    && rcsReserve vehicle < remainingPropellant

/-- A command is taken once: the same source epoch again changes nothing. -/
def accept (a : GlobalActuatorState) (command : GlobalCommandCell) (vehicle : GlobalVehiclePack)
    (powered railConstrained : Bool) (remainingPropellant : Int32) : GlobalActuatorState :=
  if a.hasSourceEpoch && a.lastSourceEpoch == command.sourceEpoch then a
  else
    let safe := command.discrete &&& globalCommandSafe != 0
    let target : Vector Int16 2 :=
      if powered && !railConstrained && !safe then
        command.gimbalQ15.map fun gimbal ↦
          clampTurn16 (gimbal.toInt32 * 2) vehicle.gimbalLimitTurn16
      else .replicate 2 0
    { gimbalTurn16 :=
        Vector.zipWith (slewed vehicle.gimbalSlewTurn16PerRelease) a.gimbalTurn16 target
      pulseRemainingQ16 :=
        if fires command vehicle powered railConstrained remainingPropellant then
          command.rcsPulseQuanta.map fun quanta ↦ quanta.toUInt16 * rcsQuantumQ16
        else .replicate 12 0
      lastSourceEpoch := command.sourceEpoch
      hasSourceEpoch := true }

/-- The time to the end of the shortest pulse, or the maximum. -/
def nextEdgeQ16 (a : GlobalActuatorState) (maximum : UInt32) : UInt32 :=
  ((a.pulseRemainingQ16.toList.filter (· != 0)).map UInt16.toUInt32).foldl min maximum

/-- The jets that fire. -/
def activeJets (a : GlobalActuatorState) : Nat := (a.pulseRemainingQ16.toList.filter (· != 0)).length

def advancePulses (a : GlobalActuatorState) (duration : UInt32) : GlobalActuatorState :=
  { a with pulseRemainingQ16 := a.pulseRemainingQ16.map fun remaining ↦
      remaining - min remaining duration.toUInt16 }

end GlobalActuatorState

/-! ## The jets -/

structure GlobalEffectorSample where
  forceBodyQ13 : FixedVec3 13
  torqueBodyQ12 : GlobalBodyTorque
  activeJets : UInt8
deriving DecidableEq

/-- Where a jet sits and how it pushes. -/
def jetGeometry (jet : Nat) (radius axialArm thrust : Int32) : FixedVec3 28 × FixedVec3 13 :=
  match jet with
  | 0 => (⟨0, radius, 0⟩, ⟨0, 0, thrust⟩)
  | 1 => (⟨0, -radius, 0⟩, ⟨0, 0, -thrust⟩)
  | 2 => (⟨0, radius, 0⟩, ⟨0, 0, -thrust⟩)
  | 3 => (⟨0, -radius, 0⟩, ⟨0, 0, thrust⟩)
  | 4 => (⟨axialArm, 0, 0⟩, ⟨0, 0, -thrust⟩)
  | 5 => (⟨-axialArm, 0, 0⟩, ⟨0, 0, thrust⟩)
  | 6 => (⟨axialArm, 0, 0⟩, ⟨0, 0, thrust⟩)
  | 7 => (⟨-axialArm, 0, 0⟩, ⟨0, 0, -thrust⟩)
  | 8 => (⟨axialArm, 0, 0⟩, ⟨0, thrust, 0⟩)
  | 9 => (⟨-axialArm, 0, 0⟩, ⟨0, -thrust, 0⟩)
  | 10 => (⟨axialArm, 0, 0⟩, ⟨0, -thrust, 0⟩)
  | _ => (⟨-axialArm, 0, 0⟩, ⟨0, thrust, 0⟩)

/-- The sum over the jets that are left, from `jet` on. -/
def sampleJets (radius axialArm thrust : Int32) :
    Nat → List UInt16 → GlobalEffectorSample → NumericM GlobalEffectorSample
  | _, [], sample => pure sample
  | jet, remaining :: rest, sample => do
      if remaining = 0 then
        sampleJets radius axialArm thrust (jet + 1) rest sample
      else
        let (position, jetForce) := jetGeometry jet radius axialArm thrust
        let force ← sample.forceBodyQ13.checkedAdd jetForce
        let crossX := (← multiplyScaled position.y jetForce.z 29)
          - (← multiplyScaled position.z jetForce.y 29)
        let crossY := (← multiplyScaled position.z jetForce.x 29)
          - (← multiplyScaled position.x jetForce.z 29)
        let crossZ := (← multiplyScaled position.x jetForce.y 29)
          - (← multiplyScaled position.y jetForce.x 29)
        let torque ← sample.torqueBodyQ12.checkedAdd ⟨crossX, crossY, crossZ⟩
        sampleJets radius axialArm thrust (jet + 1) rest
          ⟨force, torque, if sample.activeJets = 255 then 255 else sample.activeJets + 1⟩

def sampleRcsEffectors (state : GlobalActuatorState) (vehicle : GlobalVehiclePack)
    (cgFromNoseQ28 : Int32) : NumericM GlobalEffectorSample :=
  let radius := vehicle.diameterQ13M <<< 14
  let cgQ13 := cgFromNoseQ28 >>> 15
  let tailArm :=
    saturatingMulI32 (saturatingSubI32 vehicle.lengthQ13M cgQ13) ((1 : Int32) <<< 15)
  let axialArm := max (min cgFromNoseQ28 tailArm) 1
  sampleJets radius axialArm vehicle.rcsNominalThrustQ13N 0 state.pulseRemainingQ16.toList
    ⟨.zero, .zero, 0⟩

def g0Q16 : Int64 := 642689

def rcsPropellantConsumedQ21 (vehicle : GlobalVehiclePack) (activeJets : Nat)
    (duration : UInt32) : Option Int32 :=
  if activeJets = 0 then some 0
  else do
    let numerator ← (checkedMul vehicle.rcsNominalThrustQ13N.toInt64 ((1 : Int64) <<< 40)).bind
      (checkedMul · (Int64.ofNat activeJets))
    let denominator ← checkedMul vehicle.rcsIspQ16S.toInt64 g0Q16
    let flowPerSecond := (numerator + denominator / 2) / denominator
    let consumedNumerator ← checkedMul flowPerSecond duration.toUInt64.toInt64
    let consumed := (consumedNumerator + (1 : Int64) <<< 15) >>> 16
    if OutsideI32 consumed then none else some consumed.toInt32

end Ksa64.Sim
