import Ksa64.Interface.Phase11

/-!
# Procedure packs

The KPC11 contract: a procedure is a graph of at most 64 steps, each with a timeout, up to
four predicates on operational metrics and the steps that follow its completion and its
failure.  Step identity 0 stands for no step.
-/

namespace Ksa64.Interface

def kpc11MaxSteps : Nat := 64

inductive ProcedureStepKind where
  | observe
  | verify
  | acknowledge
  | wait
  | requestAction
  | branch
  | caution
  | warning
  | complete
  | skip
  | fail
deriving DecidableEq, Repr

inductive ProcedureComparison where
  | equal
  | notEqual
  | less
  | lessOrEqual
  | greater
  | greaterOrEqual
  | bitSet
  | bitClear
deriving DecidableEq, Repr

structure ProcedurePredicate where
  metricId : UInt16
  comparison : ProcedureComparison
  flags : UInt8
  threshold : Int32
deriving DecidableEq

def ProcedurePredicate.empty : ProcedurePredicate where
  metricId := 0
  comparison := .equal
  flags := 0
  threshold := 0

structure ProcedureStep where
  stepId : UInt16
  kind : ProcedureStepKind
  flags : UInt8
  nextComplete : UInt16
  nextFailure : UInt16
  timeoutEpochs : UInt32
  action : Option UplinkLoadType
  predicateCount : UInt8
  hintIdentity : UInt16
  messageIdentity : UInt32
  actionArguments : Vector Int32 2
  predicates : Vector ProcedurePredicate 4
deriving DecidableEq

def ProcedureStep.empty : ProcedureStep where
  stepId := 0
  kind := .observe
  flags := 0
  nextComplete := 0
  nextFailure := 0
  timeoutEpochs := 0
  action := none
  predicateCount := 0
  hintIdentity := 0
  messageIdentity := 0
  actionArguments := #v[0, 0]
  predicates := Vector.replicate 4 .empty

structure ProcedurePack where
  packIdentity : UInt32
  planIdentity : UInt32
  procedureIdentity : UInt32
  metricCatalogIdentity : UInt32
  nameIdentity : UInt32
  stepCount : UInt16
  entryStep : UInt16
  flags : UInt32
  steps : Vector ProcedureStep kpc11MaxSteps
deriving DecidableEq

end Ksa64.Interface
