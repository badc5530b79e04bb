import Ksa64.Library.Bytes
import Ksa64.Library.Checked
import Ksa64.Interface.Codec

/-!
# Search experiments

A manifest says which variables of a design are searched, between which bounds and in which
quanta, and what a design is judged by.  A design is a vector of values; two designs of one
manifest with the same values have the same identity.
-/

namespace Ksa64.Host

open Ksa64.Library
open Ksa64.Interface (crc32Ieee)

def maxVariables : Nat := 32
def maxObjectives : Nat := 8
def maxConstraints : Nat := 16

inductive SearchEngineId where
  | gridV1
  | nsga2V1
  | differentialEvolutionV1
deriving DecidableEq

inductive VariableKind where
  | fixed
  | integer
  | ordinal
  | catalogue
  | boolean
deriving DecidableEq, Inhabited

inductive Direction where
  | minimize
  | maximize
deriving DecidableEq, Inhabited

inductive Phase9Error where
  | count
  | bounds
  | identity
deriving DecidableEq

structure VariableSpec where
  id : UInt16
  kind : VariableKind
  minimum : Int32
  maximum : Int32
  quantum : UInt32
deriving DecidableEq, Inhabited

/-- The value within the bounds that is closest. -/
def VariableSpec.clamp (spec : VariableSpec) (value : Int) : Int :=
  max spec.minimum.toInt (min spec.maximum.toInt value)

def VariableSpec.validate (spec : VariableSpec) : Except Phase9Error Unit := do
  reject (spec.id = 0 ∨ spec.maximum < spec.minimum ∨ spec.quantum = 0) .bounds
  reject (spec.kind = .boolean ∧ (spec.minimum ≠ 0 ∨ spec.maximum ≠ 1 ∨ spec.quantum ≠ 1)) .bounds

structure ObjectiveSpec where
  metricId : UInt16
  direction : Direction
deriving DecidableEq, Inhabited

structure ConstraintSpec where
  metricId : UInt16
  scale : UInt32
deriving DecidableEq, Inhabited

structure SearchBudgets where
  gridPoints : UInt16
  population : UInt16
  generations : UInt16
  finalists : UInt16
  maxCandidates : UInt32
deriving DecidableEq

structure SearchManifest where
  identity : UInt32
  engine : SearchEngineId
  masterSeed : UInt32
  budgets : SearchBudgets
  variableCount : UInt8
  objectiveCount : UInt8
  constraintCount : UInt8
  variableSpecs : Vector VariableSpec maxVariables
  objectives : Vector ObjectiveSpec maxObjectives
  constraints : Vector ConstraintSpec maxConstraints
deriving DecidableEq

def SearchManifest.validate (m : SearchManifest) : Except Phase9Error Unit := do
  reject (maxVariables < m.variableCount.toNat ∨ maxObjectives < m.objectiveCount.toNat
    ∨ maxConstraints < m.constraintCount.toNat) .count
  reject (m.variableCount = 0 ∨ m.objectiveCount = 0) .count
  (List.range m.variableCount.toNat).forM fun i ↦ do
    m.variableSpecs[i]!.validate
    (List.range i).forM fun j ↦ reject (m.variableSpecs[j]!.id = m.variableSpecs[i]!.id) .identity
  (m.objectives.toList.take m.objectiveCount.toNat).forM fun o ↦ reject (o.metricId = 0) .bounds
  (m.constraints.toList.take m.constraintCount.toNat).forM fun c ↦
    reject (c.metricId = 0 ∨ c.scale = 0) .bounds

/-! ## Designs -/

structure DesignVector where
  identity : UInt32
  manifestIdentity : UInt32
  valueCount : UInt8
  values : Vector Int32 32
  materializedIds : Vector UInt32 4
deriving DecidableEq, Inhabited

def DesignVector.canonicalIdentity (d : DesignVector) : UInt32 :=
  crc32Ieee (le32 d.manifestIdentity ++ [d.valueCount, 0, 0, 0]
    ++ d.values.toList.flatMap (fun value ↦ le32 value.toUInt32) ++ d.materializedIds.toList.flatMap le32)

def quantizeClamp (value : Int32) (spec : VariableSpec) : Int32 :=
  let v := spec.clamp value.toInt
  let q : Int := spec.quantum.toNat
  let k := (v - spec.minimum.toInt + q.tdiv 2).tdiv q
  Int32.ofInt (spec.clamp (spec.minimum.toInt + k * q))

namespace VariableId

def finRootScale : UInt16 := 1
def finSpanScale : UInt16 := 2
def finTipScale : UInt16 := 3
def finSweepScale : UInt16 := 4
def ballastMassQ21 : UInt16 := 5
def ballastPositionQ28 : UInt16 := 6
def drogueCdaScale : UInt16 := 7
def mainCdaScale : UInt16 := 8
def mainAltitudeQ13 : UInt16 := 9
def drogueInflationScale : UInt16 := 10
def mainInflationScale : UInt16 := 11
def railLengthQ13 : UInt16 := 12
def gimbalTravelQ16 : UInt16 := 20
def gimbalSlewQ16 : UInt16 := 21
def gimbalLag : UInt16 := 22
def actuatorMassQ21 : UInt16 := 23
def proportionalGainQ15 : UInt16 := 24
def derivativeGainQ15 : UInt16 := 25
def bodyLengthScale : UInt16 := 30
def bodyDiameterScale : UInt16 := 31
def ogiveFinenessQ16 : UInt16 := 32

end VariableId

/-- The design with the given values, each in its bounds and quanta.  Without ballast, its position
does not matter. -/
def designFromValues (m : SearchManifest) (values : Vector Int32 32) : DesignVector :=
  let count := m.variableCount.toNat
  let values := values.mapFinIdx fun i value _ ↦
    if i < count then quantizeClamp value m.variableSpecs[i]! else value
  let ballastZero := (List.range count).any fun i ↦
    m.variableSpecs[i]!.id = VariableId.ballastMassQ21 ∧ values[i]! = 0
  let values := values.mapFinIdx fun i value _ ↦
    if ballastZero ∧ i < count ∧ m.variableSpecs[i]!.id = VariableId.ballastPositionQ28 then m.variableSpecs[i]!.minimum
    else value
  let bytes := le32 m.identity ++ (values.toList.take count).flatMap fun value ↦ le32 value.toUInt32
  let design : DesignVector := {
    identity := 0
    manifestIdentity := m.identity
    valueCount := m.variableCount
    values := values
    materializedIds := Vector.ofFn fun slot ↦ crc32Ieee (bytes ++ le32 (UInt32.ofNat (slot.val + 1))) }
  { design with identity := design.canonicalIdentity }

open VariableId in
/-- The value of a variable in the design that a search starts from. -/
def baselineValue (spec : VariableSpec) : Int32 :=
  if spec.id ∈ [finRootScale, finSpanScale, finTipScale, finSweepScale, drogueCdaScale, mainCdaScale,
      drogueInflationScale, mainInflationScale, bodyLengthScale, bodyDiameterScale] then 1000000
  else if spec.id = ogiveFinenessQ16 then (5 : Int32) <<< 16
  else if spec.id = mainAltitudeQ13 then (200 : Int32) <<< 13
  else if spec.id = railLengthQ13 then (2 : Int32) <<< 13
  else if spec.id = ballastPositionQ28 then spec.minimum
  else if spec.id = gimbalTravelQ16 then (5 : Int32) <<< 16
  else if spec.id = gimbalSlewQ16 then (30 : Int32) <<< 16
  else if spec.id = gimbalLag then 2
  else if spec.id = actuatorMassQ21 then 41943
  else if spec.id = proportionalGainQ15 then 14000
  else if spec.id = derivativeGainQ15 then 4096
  else spec.minimum

def baselineVector (m : SearchManifest) : DesignVector :=
  designFromValues m (Vector.ofFn fun i ↦
    if i.val < m.variableCount.toNat then baselineValue m.variableSpecs[i.val]! else 0)

/-! ## Evaluations -/

structure CandidateAggregate where
  identity : UInt32
  manifestIdentity : UInt32
  candidateIdentity : UInt32
  uncertaintyTier : UInt8
  caseCount : UInt8
  fatalClass : UInt8
  violatedConstraints : UInt8
  feasible : Bool
  caseCrc : UInt32
  normalizedViolation : Int64
  objectiveCount : UInt8
  constraintCount : UInt8
  objectives : Vector Int32 8
  constraintValues : Vector Int32 16
deriving DecidableEq, Inhabited

/-- What is known of a candidate, and the evidence of each case. -/
structure CandidateEvaluation (CaseEvidence : Type) where
  aggregate : CandidateAggregate
  cases : List CaseEvidence
deriving DecidableEq

inductive SearchError where
  | configuration
  | evaluation
  | candidateLimit
deriving DecidableEq

end Ksa64.Host
