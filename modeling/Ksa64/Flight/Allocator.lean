import Mathlib.Algebra.BigOperators.Fin
import Mathlib.Algebra.Order.BigOperators.Group.Finset
import Mathlib.Data.Fintype.Pi
import Ksa64.Library.Checked
import Ksa64.Library.Run
import Ksa64.Flight.AdvancedFlight

/-!
# Control allocation

A demand of torque about three axes is met by three groups of effectors, one after the other in the
order of their priorities: each takes what its authority allows of what is left.  The gimbal and the
canards are commanded continuously, the jets in whole quanta, and what a jet was not commanded of
its impulse is carried to the next allocation.
-/

namespace Ksa64.Flight

open Ksa64.Library Finset

/-- There is a first axis, and a first group. -/
theorem neZero_groups : NeZero 3 := ⟨by decide⟩

attribute [local instance] neZero_groups

def groupGimbal : UInt8 := 1
def groupCanard : UInt8 := 2
def groupRcs : UInt8 := 3
def authorityGimbal : UInt16 := 1
def authorityCanard : UInt16 := 2
def authorityRcs : UInt16 := 4
def authorityHandoff : UInt16 := 8

/-- One value for each axis. -/
abbrev PerAxis (α : Type) := Fin 3 → α

/-- How much each effector of a group turns about each axis. -/
abbrev Mix (n : Nat) := PerAxis (Fin n → Int16)

structure AdvancedAllocatorConfig where
  priorities : Vector UInt8 3
  canardEnableQ10 : Int32
  canardFullQ10 : Int32
  canardDisableQ10 : Int32
  reserveQ15 : UInt16
  propellantWetQ21 : Int32
  groupAuthorityQ12 : PerAxis (Fin 3 → Int32)
  gimbalMixQ15 : Mix 2
  canardMixQ15 : Mix 4
  rcsMixQ15 : Mix 12
  gimbalLimitTurn16 : Fin 2 → Int16
  canardLimitTurn16 : Fin 4 → Int16
  rcsMaxQuanta : Fin 12 → UInt8
  hasGimbal : Bool
  hasCanards : Bool
  hasRcs : Bool

def AdvancedAllocatorConfig.isValid (c : AdvancedAllocatorConfig) : Bool :=
  c.priorities.toList.all (fun p ↦ 1 ≤ p && p ≤ 3)
    && c.priorities.toList.Nodup
    && 0 ≤ c.canardDisableQ10
    && c.canardDisableQ10 < c.canardEnableQ10
    && c.canardEnableQ10 ≤ c.canardFullQ10
    && c.reserveQ15 ≤ 32768
    && (!c.hasRcs || 0 < c.propellantWetQ21)
    && decide (∀ axis group, 0 ≤ c.groupAuthorityQ12 axis group)
    && (!c.hasGimbal || decide (∀ i, 0 < c.gimbalLimitTurn16 i))
    && (!c.hasCanards || decide (∀ i, 0 < c.canardLimitTurn16 i))
    && (!c.hasRcs || decide (∀ i, 0 < c.rcsMaxQuanta i ∧ c.rcsMaxQuanta i ≤ 8))

structure AllocatorFeedback where
  onRail : Bool
  powered : Bool
  recovery : Bool
  safe : Bool
  airDataSource : AirDataSource
  dynamicPressureQ10 : Int32
  propellantFractionQ15 : UInt16
  supplyValid : Bool
  gimbalHealthyMask : UInt8
  canardHealthyMask : UInt8
  rcsHealthyMask : UInt16

structure AllocationResult where
  gimbal : Fin 2 → Int16
  canards : Fin 4 → Int16
  rcsPulseQuanta : Fin 12 → UInt8
  requestedQ12 : PerAxis Int32
  achievedQ12 : PerAxis Int32
  residualQ12 : PerAxis Int32
  authorityState : UInt16
  saturationCount : UInt16
  canardWeightQ15 : UInt16

def AllocationResult.zero : AllocationResult where
  gimbal := fun _ ↦ 0
  canards := fun _ ↦ 0
  rcsPulseQuanta := fun _ ↦ 0
  requestedQ12 := fun _ ↦ 0
  achievedQ12 := fun _ ↦ 0
  residualQ12 := fun _ ↦ 0
  authorityState := 0
  saturationCount := 0
  canardWeightQ15 := 0

inductive AllocatorError where
  | invalidConfig
deriving DecidableEq

/-! ## Scaling -/

/-- A number moved down, with halves away from zero. -/
def roundShift (value : Int) (shift : Nat) : Int :=
  if 0 ≤ value then (value + 2 ^ (shift - 1)) / 2 ^ shift
  else -((-value + 2 ^ (shift - 1)) / 2 ^ shift)

def scaleQ15 (value scale : Int32) : Int32 := clampI32 (roundShift (value.toInt * scale.toInt) 15)

/-- A number between two bounds. -/
def clampTo (low high value : Int) : Int := max low (min high value)

def ratioQ15 (value authority : Int32) : Int32 :=
  if authority ≤ 0 then 0
  else Int32.ofInt (clampTo (-32768) 32767 ((value.toInt * 2 ^ 15).tdiv authority.toInt))

/-- The part of the residual that is within the authority. -/
def withinAuthority (residual authority : PerAxis Int32) : PerAxis Int32 := fun axis ↦
  Int32.ofInt (clampTo (-(authority axis).toInt) (authority axis).toInt (residual axis).toInt)

/-- The deflections that share what is allocated. -/
def synth {n : Nat} (allocated authority : PerAxis Int32) (mix : Mix n) : Fin n → Int32 :=
  fun actuator ↦
    let value := ∑ axis, (ratioQ15 (allocated axis) (authority axis)).toInt
      * (mix axis actuator).toInt
    Int32.ofInt (clampTo (-32768) 32767 (roundShift value 15))

/-! ## Continuous effectors -/

def predictContinuous {n : Nat} (actual : Fin n → Int32) (authority : PerAxis Int32) (mix : Mix n) :
    PerAxis Int32 := fun axis ↦
  if authority axis = 0 then 0
  else
    let dot := ∑ index, (actual index).toInt * (mix axis index).toInt
    let norm := ∑ index, (mix axis index).toInt * (mix axis index).toInt
    if norm ≠ 0 then
      scaleQ15 (authority axis) (Int32.ofInt (clampTo (-32768) 32767 ((dot * 2 ^ 15).tdiv norm)))
    else 0

/-- What a group of effectors does: what is achieved, the commands, and how often it saturates. -/
structure GroupAllocation (Command : Type) where
  achieved : PerAxis Int32
  commands : Command
  saturation : UInt16

/-- An effector is healthy if its bit is set. -/
def healthy8 (mask : UInt8) (index : Nat) : Bool := mask &&& (1 <<< UInt8.ofNat index) ≠ 0

def healthy16 (mask : UInt16) (index : Nat) : Bool := mask &&& (1 <<< UInt16.ofNat index) ≠ 0

/-- The deflection of an effector within its limit. -/
def physicalDeflection (limit : Int16) (normalized : Int32) : Int :=
  clampTo (-limit.toInt) limit.toInt (scaleQ15 limit.toInt32 normalized).toInt

/-- The failures to do what was asked for, and that something else was achieved. -/
def saturations {n : Nat} (missed : Fin n → Bool) (achieved allocated : PerAxis Int32) : UInt16 :=
  let count := UInt16.ofNat ((List.finRange n).countP missed)
  if achieved ≠ allocated then addSat16 count 1 else count

def allocateContinuous {n : Nat} (residual authority : PerAxis Int32) (mix : Mix n)
    (limits : Fin n → Int16) (healthyMask : UInt8) : GroupAllocation (Fin n → Int16) :=
  let allocated := withinAuthority residual authority
  let normalized := synth allocated authority mix
  let commands := fun index : Fin n ↦
    if healthy8 healthyMask index then Int16.ofInt (physicalDeflection (limits index) (normalized index))
    else 0
  let actual := fun index : Fin n ↦
    if healthy8 healthyMask index then
      ratioQ15 (Int32.ofInt (physicalDeflection (limits index) (normalized index)))
        (limits index).toInt32
    else 0
  let achieved := predictContinuous actual authority mix
  ⟨achieved, commands, saturations
    (fun index : Fin n ↦ !healthy8 healthyMask index && normalized index ≠ 0) achieved allocated⟩

/-! ## Jets -/

def predictRcs (actual : Fin 12 → Int32) (authority : PerAxis Int32) (mix : Mix 12) :
    PerAxis Int32 := fun axis ↦
  if authority axis = 0 then 0
  else
    let numerator := ∑ index, (actual index).toInt * (mix axis index).toInt
    let positive := ∑ index, if 0 < mix axis index then (mix axis index).toInt else 0
    if positive ≠ 0 then
      scaleQ15 (authority axis) (Int32.ofInt (clampTo (-32768) 32767 (numerator.tdiv positive)))
    else 0

/-- The impulse that is asked of a jet, in parts of a quantum. -/
def desiredQ15 (normalized : Int32) (maximum : UInt8) : Int32 :=
  mulSatI32 (if 0 < normalized then normalized else 0) (Int32.ofInt maximum.toNat)

/-- The whole quanta of an impulse, up to the most that a jet can do. -/
def wholeQuanta (accumulated : Int32) (maximum : UInt8) : UInt8 :=
  UInt8.ofNat (clampTo 0 maximum.toNat (accumulated.toInt / 2 ^ 15)).toNat

def allocateRcs (residual authority : PerAxis Int32) (mix : Mix 12) (maximum : Fin 12 → UInt8)
    (healthyMask : UInt16) (fractionalQ15 : Fin 12 → Int32) :
    GroupAllocation (Fin 12 → UInt8) × (Fin 12 → Int32) :=
  let allocated := withinAuthority residual authority
  let normalized := synth allocated authority mix
  let accumulated := fun index : Fin 12 ↦
    addSatI32 (fractionalQ15 index) (desiredQ15 (normalized index) (maximum index))
  let pulses := fun index : Fin 12 ↦
    if healthy16 healthyMask index then wholeQuanta (accumulated index) (maximum index) else 0
  let fraction := fun index : Fin 12 ↦
    if healthy16 healthyMask index then
      subSatI32 (accumulated index)
        (Int32.ofInt ((wholeQuanta (accumulated index) (maximum index)).toNat * 2 ^ 15))
    else fractionalQ15 index
  let actual := fun index : Fin 12 ↦
    if healthy16 healthyMask index then
      Int32.ofInt (min 32767 (((wholeQuanta (accumulated index) (maximum index)).toNat * 32768 : Int).tdiv
        (maximum index).toNat))
    else 0
  let achieved := predictRcs actual authority mix
  (⟨achieved, pulses, saturations
    (fun index : Fin 12 ↦ !healthy16 healthyMask index && decide (0 < normalized index)) achieved allocated⟩,
    fraction)

/-! ## The cascade -/

/-- What a group has achieved counts against the request. -/
def applyGroup (out : AllocationResult) (achieved : PerAxis Int32) (saturation : UInt16) :
    AllocationResult :=
  let total := fun axis ↦ addSatI32 (out.achievedQ12 axis) (achieved axis)
  { out with
    achievedQ12 := total
    residualQ12 := fun axis ↦ subSatI32 (out.requestedQ12 axis) (total axis)
    saturationCount := addSat16 out.saturationCount saturation }

structure PriorityResidualAllocator where
  config : AdvancedAllocatorConfig
  canardEnabled : Bool
  rcsFractionQ15 : Fin 12 → Int32

/-- An allocation that is under way. -/
structure Cascade where
  out : AllocationResult
  used : UInt8
  fraction : Fin 12 → Int32

/-- The groups that can be used. -/
structure Available where
  gimbal : Bool
  canard : Bool
  rcs : Bool

namespace PriorityResidualAllocator

def new (config : AdvancedAllocatorConfig) : Option PriorityResidualAllocator :=
  if config.isValid then some ⟨config, false, fun _ ↦ 0⟩ else none

def authority (a : PriorityResidualAllocator) (group : Fin 3) (weightQ15 : UInt16) :
    PerAxis Int32 := fun axis ↦
  scaleQ15 (a.config.groupAuthorityQ12 axis group) (Int32.ofInt weightQ15.toNat)

/-- Whether the canards are enabled, and how much they count. -/
def canardWeight (a : PriorityResidualAllocator) (feedback : AllocatorFeedback) : UInt16 × Bool :=
  if feedback.airDataSource = .unavailable
      ∨ feedback.dynamicPressureQ10 ≤ a.config.canardDisableQ10 then (0, false)
  else
    let enabled :=
      a.canardEnabled || a.config.canardEnableQ10 ≤ feedback.dynamicPressureQ10
    if !enabled || feedback.dynamicPressureQ10 ≤ a.config.canardEnableQ10 then (0, enabled)
    else if a.config.canardFullQ10 ≤ feedback.dynamicPressureQ10 then (32768, enabled)
    else
      let numerator := (feedback.dynamicPressureQ10.toInt - a.config.canardEnableQ10.toInt) * 32768
      let denominator := a.config.canardFullQ10.toInt - a.config.canardEnableQ10.toInt
      (UInt16.ofNat (clampTo 0 32768 (numerator.tdiv denominator)).toNat, enabled)

def available (a : PriorityResidualAllocator) (feedback : AllocatorFeedback) (weight : UInt16) :
    Available where
  gimbal := a.config.hasGimbal && feedback.powered && feedback.gimbalHealthyMask &&& 3 ≠ 0
  canard := a.config.hasCanards && weight ≠ 0 && feedback.canardHealthyMask &&& 15 ≠ 0
  rcs := a.config.hasRcs && feedback.supplyValid
    && a.config.reserveQ15 < feedback.propellantFractionQ15
    && feedback.rcsHealthyMask &&& 0x0fff ≠ 0

/-- A group that has achieved something counts as used. -/
def countUsed (used : UInt8) (achieved : PerAxis Int32) : UInt8 :=
  if achieved ≠ fun _ ↦ 0 then addSat8 used 1 else used

/-- The turn of the group with the priority. -/
def allocateGroup (a : PriorityResidualAllocator) (feedback : AllocatorFeedback) (weight : UInt16)
    (available : Available) (c : Cascade) (priority : UInt8) : Cascade :=
  if priority = groupGimbal ∧ available.gimbal then
    let g := allocateContinuous c.out.residualQ12 (a.authority 0 32768) a.config.gimbalMixQ15
      a.config.gimbalLimitTurn16 feedback.gimbalHealthyMask
    { c with
      out := applyGroup { c.out with gimbal := g.commands } g.achieved g.saturation
      used := countUsed c.used g.achieved }
  else if priority = groupCanard ∧ available.canard then
    let g := allocateContinuous c.out.residualQ12 (a.authority 1 weight) a.config.canardMixQ15
      a.config.canardLimitTurn16 feedback.canardHealthyMask
    { c with
      out := applyGroup { c.out with canards := g.commands } g.achieved g.saturation
      used := countUsed c.used g.achieved }
  else if priority = groupRcs ∧ available.rcs then
    let g := allocateRcs c.out.residualQ12 (a.authority 2 32768) a.config.rcsMixQ15
      a.config.rcsMaxQuanta feedback.rcsHealthyMask c.fraction
    { out := applyGroup { c.out with rcsPulseQuanta := g.1.commands } g.1.achieved g.1.saturation
      used := countUsed c.used g.1.achieved
      fraction := g.2 }
  else c

/-- Nothing is commanded in these phases. -/
def inhibited (feedback : AllocatorFeedback) : Bool :=
  feedback.safe || feedback.onRail || feedback.recovery

/-- An allocation before any group has had its turn. -/
def start (a : PriorityResidualAllocator) (demand : PerAxis Int32) (weight : UInt16)
    (available : Available) : Cascade where
  out := { AllocationResult.zero with
    requestedQ12 := demand
    residualQ12 := demand
    canardWeightQ15 := weight
    authorityState := (if available.gimbal then authorityGimbal else 0)
      ||| (if available.canard then authorityCanard else 0)
      ||| (if available.rcs then authorityRcs else 0) }
  used := 0
  fraction := a.rcsFractionQ15

def allocate (a : PriorityResidualAllocator) (demand : PerAxis Int32)
    (feedback : AllocatorFeedback) :
    Except AllocatorError AllocationResult × PriorityResidualAllocator :=
  if !a.config.isValid then (.error .invalidConfig, a)
  else if inhibited feedback then
    (.ok { AllocationResult.zero with requestedQ12 := demand, residualQ12 := demand },
      { a with rcsFractionQ15 := fun _ ↦ 0 })
  else
    let weight := a.canardWeight feedback
    let available := a.available feedback weight.1
    let c := a.config.priorities.toList.foldl (a.allocateGroup feedback weight.1 available)
      (a.start demand weight.1 available)
    let out :=
      if 1 < c.used then { c.out with authorityState := c.out.authorityState ||| authorityHandoff }
      else c.out
    let out :=
      if out.residualQ12 ≠ fun _ ↦ 0 then { out with saturationCount := addSat16 out.saturationCount 1 }
      else out
    (.ok out, { a with canardEnabled := weight.2, rcsFractionQ15 := c.fraction })

end PriorityResidualAllocator

end Ksa64.Flight
