import Ksa64.Core.Interpolation
import Ksa64.Core.Spatial
import Ksa64.Library.Checked
import Ksa64.Library.Words

/-!
# Cold-gas jets

A pack describes twelve jets and the tank that feeds them.  At each release the jets are commanded
pulses of whole quanta: what is less than the shortest pulse of a jet is accumulated, and so is what
is more than its longest one.  Between two edges of the valves the open jets burn with constant
thrust, until the end of the segment or until the tank is empty.
-/

namespace Ksa64.Core

open Ksa64.Library

/-! ## The pack -/

inductive AdvancedEffectorSetId where
  | canardOnly
  | rcsOnly
  | gimbalCanardRcs
deriving DecidableEq, Repr

namespace AdvancedEffectorSetId

def hasCanards : AdvancedEffectorSetId → Bool
  | canardOnly | gimbalCanardRcs => true
  | rcsOnly => false

def hasRcs : AdvancedEffectorSetId → Bool
  | rcsOnly | gimbalCanardRcs => true
  | canardOnly => false

end AdvancedEffectorSetId

inductive RcsSupplySourceId where
  | none
  | regulatedV1
  | idealIsothermalBlowdownV1
deriving DecidableEq, Repr

structure CanardInstallation where
  normalQ15 : Vector Int16 3
  hingeAxisQ15 : Vector Int16 3
  rootQ28 : Int32
  tipQ28 : Int32
  spanQ28 : Int32
  sweepQ28 : Int32
  massQ21 : Int32
  inertiaQ19 : Vector Int32 3
  limitTurn16 : Int16
  slewTurn16PerRelease : Int16
  lagReleases : UInt8
  failureIdentity : UInt16
deriving Repr

def CanardInstallation.isValid (c : CanardInstallation) : Bool :=
  0 < c.rootQ28 && 0 < c.tipQ28 && 0 < c.spanQ28 && 0 ≤ c.sweepQ28 && 0 < c.massQ21
    && c.inertiaQ19.toList.all (fun x ↦ 0 < x)
    && 0 < c.limitTurn16 && 0 < c.slewTurn16PerRelease && c.lagReleases ≤ 8
    && c.failureIdentity != 0
    && c.normalQ15.toList.any (fun x ↦ x != 0)
    && c.hingeAxisQ15.toList.any (fun x ↦ x != 0)

structure CanardCoefficientKnot where
  machQ24 : Int32
  controlQ24 : Int32
  dragQ24 : Int32
  hingeQ24 : Int32
deriving Repr

structure RcsJetInstallation where
  positionQ28 : Vector Int32 3
  directionQ30 : Vector Int32 3
  nominalThrustQ23 : Int32
  specificImpulseQ16 : Int32
  minPulseQuanta : UInt8
  maxPulseQuanta : UInt8
  valveDelayQuanta : UInt8
  failureIdentity : UInt16
  provenanceIdentity : UInt32
deriving Repr

def RcsJetInstallation.isValid (j : RcsJetInstallation) : Bool :=
  j.directionQ30.toList.any (fun x ↦ x != 0)
    && 0 < j.nominalThrustQ23
    && 0 < j.specificImpulseQ16
    && j.minPulseQuanta ≤ j.maxPulseQuanta
    && j.maxPulseQuanta ≤ 8
    && j.valveDelayQuanta ≤ 8
    && j.failureIdentity != 0
    && j.provenanceIdentity != 0

structure SupplyKnot where
  remainingPropellantQ21 : Int32
  pressureQ8 : Int32
  thrustScaleQ30 : Int32
  massFlowScaleQ30 : Int32
deriving Repr

def SupplyKnot.isValid (k : SupplyKnot) : Bool :=
  0 ≤ k.remainingPropellantQ21 && 0 < k.pressureQ8 && 0 < k.thrustScaleQ30
    && 0 < k.massFlowScaleQ30

/-- A table is in order when its knots are valid and their keys increase from `last` on. -/
def inOrder {α : Type} (valid : α → Bool) (key : α → Int32) : Int32 → List α → Bool
  | _, [] => true
  | last, k :: knots => valid k && last < key k && inOrder valid key (key k) knots

structure AdvancedEffectorPack where
  identity : UInt32
  effectors : AdvancedEffectorSetId
  supplySource : RcsSupplySourceId
  vehicleIdentity : UInt32
  neutralVehicleIdentity : UInt32
  supplyIdentity : UInt32
  provenanceIdentity : UInt32
  tankDryMassQ21 : Int32
  propellantWetMassQ21 : Int32
  reserveQ15 : UInt16
  canardHingeLimitsQ24 : Vector Int32 4
  canardCount : UInt8
  jetCount : UInt8
  coefficientCount : UInt8
  supplyCount : UInt8
  canards : Vector CanardInstallation 4
  coefficientKnots : Vector CanardCoefficientKnot 8
  jets : Vector RcsJetInstallation 12
  supplyKnots : Vector SupplyKnot 16
deriving Repr

namespace AdvancedEffectorPack

variable (p : AdvancedEffectorPack)

/-- The knots of the canards' coefficients have increasing Mach numbers, at first not negative. -/
def coefficientsInOrder : Bool :=
  inOrder (fun k ↦ 0 < k.controlQ24 && 0 ≤ k.dragQ24 && 0 < k.hingeQ24) CanardCoefficientKnot.machQ24
    (-1) (p.coefficientKnots.toList.take p.coefficientCount.toNat)

def supplyInOrder : Bool :=
  inOrder SupplyKnot.isValid SupplyKnot.remainingPropellantQ21 (-1)
    (p.supplyKnots.toList.take p.supplyCount.toNat)

def canardsValid : Bool :=
  2 ≤ p.coefficientCount
    && p.canardHingeLimitsQ24.toList.all (fun value ↦ 0 < value)
    && (p.canards.toList.take p.canardCount.toNat).all CanardInstallation.isValid
    && p.coefficientsInOrder

def rcsValid : Bool :=
  p.supplySource != .none && p.supplyIdentity != 0 && 2 ≤ p.supplyCount && 0 < p.tankDryMassQ21
    && 0 < p.propellantWetMassQ21 && p.reserveQ15 ≤ 32768
    && (p.jets.toList.take p.jetCount.toNat).all RcsJetInstallation.isValid
    && p.supplyInOrder

/-- A pack without jets has no supply. -/
def suppliesNothing : Bool :=
  p.supplySource == .none && p.supplyIdentity == 0 && p.supplyCount == 0
    && p.propellantWetMassQ21 == 0

def isValid : Bool :=
  p.identity != 0 && p.vehicleIdentity != 0 && p.neutralVehicleIdentity != 0
    && p.provenanceIdentity != 0
    && p.canardCount ≤ 4 && p.jetCount ≤ 12 && p.coefficientCount ≤ 8 && p.supplyCount ≤ 16
    && p.effectors.hasCanards == (p.canardCount == 4)
    && p.effectors.hasRcs == (p.jetCount == 12)
    && (!p.effectors.hasCanards || p.canardsValid)
    && (if p.effectors.hasRcs then p.rcsValid else p.suppliesNothing)

end AdvancedEffectorPack

/-! ## Pulses -/

def rcsPulseQuantumQ18 : Int32 := 1024
def avionicsIntervalQ18 : Int32 := 8192
def noEdge : Int32 := Int32.maxValue

inductive RcsJetFault where
  | healthy
  | stuckClosed
  | stuckOpen
  | leak
  | degradedThrustHalf
  | delayedValveOneQuantum
deriving DecidableEq, Repr

inductive RcsError where
  | invalidPack
  | invalidEpoch
  | invalidCommand
  | duplicateOrStaleCommand
  | pendingPulse
  | eventSplitRequired (edge : Int32)
  | numeric
deriving DecidableEq, Repr

structure RcsPulseCommand where
  quanta : Vector UInt8 12
deriving Repr

structure RcsState where
  remainingPropellantQ21 : Int32
  accumulatorQuanta : Vector UInt8 12
  openAtQ18 : Vector Int32 12
  closeAtQ18 : Vector Int32 12
  lastCommandEpochQ18 : Int32
deriving Repr

/-- What a release leaves of one jet. -/
structure JetSchedule where
  accumulated : UInt8
  openAt : Int32
  closeAt : Int32
deriving Repr

/-- The pulse of one jet.  What is requested is added to what is accumulated; a sum that is shorter
than the shortest pulse is accumulated, and so is what exceeds the longest one. -/
def scheduleJet (releaseEpochQ18 : Int32) (jet : RcsJetInstallation) (fault : RcsJetFault)
    (requested accumulated : UInt8) : JetSchedule :=
  if requested = 0 then ⟨accumulated, noEdge, noEdge⟩
  else
    let total := addSat8 accumulated requested
    if total < jet.minPulseQuanta then ⟨total, noEdge, noEdge⟩
    else
      let emitted := min total jet.maxPulseQuanta
      if fault = .stuckClosed ∨ fault = .stuckOpen then ⟨total - emitted, noEdge, noEdge⟩
      else
        let extra : UInt8 := if fault = .delayedValveOneQuantum then 1 else 0
        let delay := addSat8 jet.valveDelayQuanta extra
        let openAt := addSatI32 releaseEpochQ18 (Int32.ofNat delay.toNat * rcsPulseQuantumQ18)
        let closeAt := addSatI32 openAt (Int32.ofNat emitted.toNat * rcsPulseQuantumQ18)
        ⟨total - emitted, openAt, closeAt⟩

namespace RcsState

def new (pack : AdvancedEffectorPack) : Except RcsError RcsState := do
  reject (pack.isValid = false ∨ pack.effectors.hasRcs = false) .invalidPack
  return { remainingPropellantQ21 := pack.propellantWetMassQ21
           accumulatorQuanta := .replicate 12 0
           openAtQ18 := .replicate 12 noEdge
           closeAtQ18 := .replicate 12 noEdge
           lastCommandEpochQ18 := -avionicsIntervalQ18 }

variable (s : RcsState)

/-- A valve of the jet has an edge after the release. -/
def pulsePending (releaseEpochQ18 : Int32) (index : Fin 12) : Prop :=
  (s.closeAtQ18[index] ≠ noEdge ∧ releaseEpochQ18 < s.closeAtQ18[index])
    ∨ (s.openAtQ18[index] ≠ noEdge ∧ releaseEpochQ18 < s.openAtQ18[index])

instance (releaseEpochQ18 : Int32) (index : Fin 12) :
    Decidable (s.pulsePending releaseEpochQ18 index) :=
  inferInstanceAs (Decidable (_ ∨ _))

/-- The checks of a release, which come before anything is written. -/
def checkRelease (releaseEpochQ18 : Int32) (command : RcsPulseCommand)
    (pack : AdvancedEffectorPack) : Except RcsError Unit := do
  reject (pack.isValid = false ∨ pack.effectors.hasRcs = false) .invalidPack
  reject (releaseEpochQ18 < 0 ∨ releaseEpochQ18 % avionicsIntervalQ18 ≠ 0) .invalidEpoch
  reject (releaseEpochQ18 ≤ s.lastCommandEpochQ18) .duplicateOrStaleCommand
  (List.finRange 12).forM fun index ↦ do
    reject (8 < command.quanta[index]) .invalidCommand
    reject (s.pulsePending releaseEpochQ18 index) .pendingPulse

/-- The schedule of a jet after the release. -/
def scheduled (releaseEpochQ18 : Int32) (command : RcsPulseCommand) (pack : AdvancedEffectorPack)
    (faults : Vector RcsJetFault 12) (index : Fin 12) : JetSchedule :=
  scheduleJet releaseEpochQ18 pack.jets[index] faults[index] command.quanta[index]
    s.accumulatorQuanta[index]

/-- What is written after the checks. -/
def released (releaseEpochQ18 : Int32) (command : RcsPulseCommand) (pack : AdvancedEffectorPack)
    (faults : Vector RcsJetFault 12) : RcsState :=
  { s with
    lastCommandEpochQ18 := releaseEpochQ18
    accumulatorQuanta := .ofFn fun index ↦
      (s.scheduled releaseEpochQ18 command pack faults index).accumulated
    openAtQ18 := .ofFn fun index ↦ (s.scheduled releaseEpochQ18 command pack faults index).openAt
    closeAtQ18 := .ofFn fun index ↦ (s.scheduled releaseEpochQ18 command pack faults index).closeAt }

def scheduleSuccessor (releaseEpochQ18 : Int32) (command : RcsPulseCommand)
    (pack : AdvancedEffectorPack) (faults : Vector RcsJetFault 12) :
    ExceptT RcsError (StateM RcsState) Unit := do
  let s ← get
  s.checkRelease releaseEpochQ18 command pack
  set (s.released releaseEpochQ18 command pack faults)

def nextValveEdgeAfter (afterQ18 throughQ18 : Int32) : Option Int32 :=
  let edge := (List.finRange 12).foldl (fun edge index ↦
    let opens := s.openAtQ18[index]
    let closes := s.closeAtQ18[index]
    let edge := if afterQ18 < opens ∧ opens ≤ throughQ18 then min edge opens else edge
    if afterQ18 < closes ∧ closes ≤ throughQ18 then min edge closes else edge) noEdge
  if edge ≠ noEdge then some edge else none

def scheduledOpen (index : Fin 12) (timeQ18 : Int32) : Bool :=
  s.openAtQ18[index] ≤ timeQ18 && timeQ18 < s.closeAtQ18[index]

end RcsState

/-! ## Supply -/

structure SupplySample where
  pressureQ8 : Int32
  thrustScaleQ30 : Int32
  massFlowScaleQ30 : Int32
deriving DecidableEq, Repr

def sampleSupply (pack : AdvancedEffectorPack) (remainingPropellantQ21 : Int32) :
    GuardedM RcsError SupplySample := do
  if pack.isValid = false ∨ pack.effectors.hasRcs = false ∨ remainingPropellantQ21 < 0
      ∨ pack.propellantWetMassQ21 < remainingPropellantQ21 then throw .invalidPack
  let knots := pack.supplyKnots.toList.take pack.supplyCount.toNat
  let remaining := knots.map SupplyKnot.remainingPropellantQ21
  let pressure ← interpolateClamped remainingPropellantQ21 remaining (knots.map SupplyKnot.pressureQ8)
  let thrust ← interpolateClamped remainingPropellantQ21 remaining
    (knots.map SupplyKnot.thrustScaleQ30)
  let flow ← interpolateClamped remainingPropellantQ21 remaining
    (knots.map SupplyKnot.massFlowScaleQ30)
  requireClear .numeric
  return ⟨pressure, thrust, flow⟩

/-! ## Segments -/

def g0Q16 : Int32 := 642689
def oneQ30 : Int32 := (1 : Int32) <<< 30
def halfQ30 : Int32 := (1 : Int32) <<< 29
def leakQ30 : Int32 := (1 : Int32) <<< 26

/-- How much of its thrust a jet with the fault has. -/
def faultScale (fault : RcsJetFault) (scheduled : Bool) : Int32 :=
  match fault with
  | .stuckClosed => 0
  | .stuckOpen => oneQ30
  | .leak => if scheduled then oneQ30 else leakQ30
  | .degradedThrustHalf => if scheduled then halfQ30 else 0
  | .healthy | .delayedValveOneQuantum => if scheduled then oneQ30 else 0

/-- What the open jets do together, and each on its own. -/
structure JetLoads where
  activeMask : UInt16
  force : FixedVec3 23
  torque : FixedVec3 12
  totalFlowQ28 : Int32
  individualForceQ23 : Vector (FixedVec3 23) 12
  individualThrustQ23 : Vector Int32 12
deriving DecidableEq, Repr

def JetLoads.none : JetLoads := ⟨0, .zero, .zero, 0, .replicate 12 .zero, .replicate 12 0⟩

structure RcsSegmentResult where
  integratedEndQ18 : Int32
  loads : JetLoads
  totalImpulseQ26 : Int32
  consumedPropellantQ21 : Int32
  remainingPropellantQ21 : Int32
  pressureQ8 : Int32
  thrustScaleQ30 : Int32
  depleted : Bool
deriving DecidableEq, Repr

namespace RcsState

variable (s : RcsState)

/-- The loads with those of one more jet. -/
def loadJet (pack : AdvancedEffectorPack) (startQ18 cgFromNoseQ28 : Int32)
    (faults : Vector RcsJetFault 12) (supply : SupplySample) (loads : JetLoads) (index : Fin 12) :
    NumericM JetLoads := do
  let failureScale := faultScale faults[index] (s.scheduledOpen index startQ18)
  if failureScale = 0 ∨ s.remainingPropellantQ21 = 0 then return loads
  let jet := pack.jets[index]
  let thrust ← multiplyScaled (← multiplyScaled jet.nominalThrustQ23 supply.thrustScaleQ30 30)
    failureScale 30
  let jetForce : FixedVec3 23 := ⟨← multiplyScaled thrust jet.directionQ30[0]! 30,
    ← multiplyScaled thrust jet.directionQ30[1]! 30, ← multiplyScaled thrust jet.directionQ30[2]! 30⟩
  let force ← loads.force.checkedAdd jetForce
  let arm : FixedVec3 28 := ⟨← subtract jet.positionQ28[0]! cgFromNoseQ28, jet.positionQ28[1]!,
    jet.positionQ28[2]!⟩
  let torqueForce : FixedVec3 13 := ⟨jetForce.x / 1024, jetForce.y / 1024, jetForce.z / 1024⟩
  let torque ← loads.torque.checkedAdd (← crossMixedScaled 12 arm torqueForce)
  let denominator ← multiplyScaled jet.specificImpulseQ16 g0Q16 16
  let baseFlow ← divideScaled jet.nominalThrustQ23 denominator 21
  let flow ← multiplyScaled (← multiplyScaled baseFlow supply.massFlowScaleQ30 30) failureScale 30
  let totalFlow ← add loads.totalFlowQ28 flow
  return { activeMask := loads.activeMask ||| (1 <<< UInt16.ofNat index.val)
           force := force
           torque := torque
           totalFlowQ28 := totalFlow
           individualForceQ23 := loads.individualForceQ23.set index jetForce
           individualThrustQ23 := loads.individualThrustQ23.set index thrust }

/-- The first half of a segment, which writes nothing. -/
def segmentLoads (pack : AdvancedEffectorPack) (startQ18 endQ18 cgFromNoseQ28 : Int32)
    (faults : Vector RcsJetFault 12) : GuardedM RcsError (SupplySample × JetLoads) := do
  if pack.isValid = false ∨ pack.effectors.hasRcs = false ∨ startQ18 < 0 ∨ endQ18 ≤ startQ18 then
    throw .invalidPack
  if let some edge := s.nextValveEdgeAfter startQ18 endQ18 then
    if edge < endQ18 then throw (.eventSplitRequired edge)
  let supply ← sampleSupply pack s.remainingPropellantQ21
  let loads ← ((List.finRange 12).foldlM (s.loadJet pack startQ18 cgFromNoseQ28 faults supply)
    .none : NumericM JetLoads)
  requireClear .numeric
  return (supply, loads)

/-- How long the jets burn, what they consume, and whether that empties the tank. -/
def burn (totalFlowQ28 requestedDt : Int32) : NumericM (Int32 × Int32 × Bool) := do
  let requestedConsumption := max (← multiplyScaled totalFlowQ28 requestedDt 25) 0
  if 0 < totalFlowQ28 ∧ s.remainingPropellantQ21 ≤ requestedConsumption then
    let dt ← divideScaled s.remainingPropellantQ21 totalFlowQ28 25
    return (max 0 (min requestedDt dt), s.remainingPropellantQ21, true)
  else return (requestedDt, requestedConsumption, false)

def totalImpulse (actualDt : Int32) (thrusts : List Int32) : NumericM Int32 :=
  thrusts.foldlM (fun total thrust ↦ do add total (← multiplyScaled thrust actualDt 15)) 0

/-- The result of a segment and the state that it leaves.  The propellant is written before the
status is checked. -/
def integrateRcsSegment (pack : AdvancedEffectorPack) (startQ18 endQ18 cgFromNoseQ28 : Int32)
    (faults : Vector RcsJetFault 12) : NumericM (Except RcsError RcsSegmentResult × RcsState) := do
  match ← (s.segmentLoads pack startQ18 endQ18 cgFromNoseQ28 faults).run with
  | .error e => return (.error e, s)
  | .ok (supply, loads) =>
    let burned ← s.burn loads.totalFlowQ28 (endQ18 - startQ18)
    let impulse ← totalImpulse burned.1 loads.individualThrustQ23.toList
    let remaining ← subtract s.remainingPropellantQ21 burned.2.1
    let s := { s with remainingPropellantQ21 := max remaining 0 }
    if (← get).isClear = false then return (.error .numeric, s)
    return (.ok { integratedEndQ18 := startQ18 + burned.1
                  loads := loads
                  totalImpulseQ26 := impulse
                  consumedPropellantQ21 := burned.2.1
                  remainingPropellantQ21 := s.remainingPropellantQ21
                  pressureQ8 := supply.pressureQ8
                  thrustScaleQ30 := supply.thrustScaleQ30
                  depleted := burned.2.2 }, s)

end RcsState

end Ksa64.Core
