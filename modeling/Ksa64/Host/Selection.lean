import Ksa64.Library.Words
import Ksa64.Host.Phase9

/-!
# Which candidates are kept

Feasible candidates come before infeasible ones.  Among the feasible ones those are kept that no
other dominates, front by front, and within a front those in the less crowded regions.
-/

namespace Ksa64.Host

open Ksa64.Library

def feasibilityCmp (a b : CandidateAggregate) : Ordering :=
  match a.feasible, b.feasible with
  | true, false => .lt
  | false, true => .gt
  | false, false =>
      (compare a.fatalClass b.fatalClass).then
        ((compare a.violatedConstraints b.violatedConstraints).then
          ((compare a.normalizedViolation b.normalizedViolation).then
            (compare a.candidateIdentity b.candidateIdentity)))
  | true, true => compare a.candidateIdentity b.candidateIdentity

/-- `lt` if the first is better in the objective. -/
def objectiveCmp (m : SearchManifest) (a b : CandidateAggregate) (i : Nat) : Ordering :=
  match m.objectives[i]!.direction with
  | .minimize => compare a.objectives[i]! b.objectives[i]!
  | .maximize => compare b.objectives[i]! a.objectives[i]!

def dominates (m : SearchManifest) (a b : CandidateAggregate) : Bool :=
  if a.feasible ∧ ¬b.feasible then true
  else if ¬a.feasible then false
  else if ¬b.feasible then true
  else
    let objectives := (List.range m.objectiveCount.toNat).map (objectiveCmp m a b)
    Ordering.gt ∉ objectives ∧ (Ordering.lt ∈ objectives ∨ a.candidateIdentity < b.candidateIdentity)

def lexObjectives (m : SearchManifest) (a b : CandidateAggregate) : Ordering :=
  if a.feasible ≠ b.feasible then if a.feasible then .lt else .gt
  else if ¬a.feasible then feasibilityCmp a b
  else
    (List.range m.objectiveCount.toNat).foldr (fun i rest ↦ (objectiveCmp m a b i).then rest)
      (compare a.candidateIdentity b.candidateIdentity)

/-- The feasible candidates that no other dominates, each once. -/
def paretoFront (m : SearchManifest) (values : List CandidateAggregate) : List Nat :=
  let found := (List.range values.length).foldl (fun (seen, out) i ↦
    if ¬values[i]!.feasible ∨ values[i]!.candidateIdentity ∈ seen then (seen, out)
    else
      (values[i]!.candidateIdentity :: seen,
        if (List.range values.length).any fun j ↦ j ≠ i ∧ dominates m values[j]! values[i]! then out
        else out ++ [i]))
    (([] : List UInt32), ([] : List Nat))
  found.2.mergeSort fun i j ↦ values[i]!.candidateIdentity ≤ values[j]!.candidateIdentity

/-! ## Fronts -/

/-- The candidates that are left after `front` has gone. -/
def withoutFront (remaining front : List Nat) : List Nat := remaining.filter (· ∉ front)

theorem length_withoutFront_lt {remaining front : List Nat} (hsub : front ⊆ remaining)
    (h : front ≠ []) : (withoutFront remaining front).length < remaining.length := by
  obtain ⟨i, hi⟩ := List.exists_mem_of_ne_nil front h
  refine List.length_filter_lt_length_iff_exists.mpr ⟨i, hsub hi, ?_⟩
  rw [decide_eq_true_eq, not_not]
  exact hi

/-- The candidates that no other of them dominates. -/
def frontOf (m : SearchManifest) (a : List CandidateAggregate) (remaining : List Nat) : List Nat :=
  remaining.filter fun i ↦ ¬remaining.any fun j ↦ i ≠ j ∧ dominates m a[j]! a[i]!

def nondominatedRanksLoop (m : SearchManifest) (a : List CandidateAggregate)
    (remaining : List Nat) (r : UInt16) (rank : List UInt16) : List UInt16 :=
  if remaining = [] then rank
  else if _hfront : frontOf m a remaining = [] then
    remaining.foldl (fun rank i ↦ rank.set i r) rank
  else
    nondominatedRanksLoop m a (withoutFront remaining (frontOf m a remaining)) (addSat16 r 1)
      ((frontOf m a remaining).foldl (fun rank i ↦ rank.set i r) rank)
termination_by remaining.length
decreasing_by exact length_withoutFront_lt (List.filter_subset_self _) _hfront

def nondominatedRanks (m : SearchManifest) (a : List CandidateAggregate) : List UInt16 :=
  nondominatedRanksLoop m a (List.range a.length) 0 (List.replicate a.length 0xffff)

/-! ## Crowding -/

/-- The score of a candidate at the edge of its front. -/
def edgeScore : Int := (2 ^ 127 - 1) / 4

/-- What an objective adds to the scores of a front. -/
def crowdingBy (a : List CandidateAggregate) (indices : List Nat)
    (score : Std.ExtTreeMap Nat Int) (o : Nat) : Std.ExtTreeMap Nat Int :=
  let objective (i : Nat) : Int := a[i]!.objectives[o]!.toInt
  let sorted := indices.mergeSort fun i j ↦
    ((compare (objective i) (objective j)).then
      (compare a[i]!.candidateIdentity a[j]!.candidateIdentity)).isLE
  let first := sorted.head!
  let last := sorted.getLast!
  let range := max 1 (((objective last - objective first).natAbs : Int))
  (List.range (sorted.length - 2)).foldl (fun score k ↦
    let mid := sorted[k + 1]!
    if score.getD mid 0 < (2 ^ 127 - 1) / 8 then
      let delta : Int := (objective sorted[k + 2]! - objective sorted[k]!).natAbs
      score.insert mid (score.getD mid 0 + (delta * 1000000000).tdiv range)
    else score)
    ((score.insert first edgeScore).insert last edgeScore)

def crowding (m : SearchManifest) (indices : List Nat) (a : List CandidateAggregate) :
    Std.ExtTreeMap Nat Int :=
  if indices.length ≤ 2 then indices.foldl (fun score i ↦ score.insert i edgeScore) ∅
  else
    (List.range m.objectiveCount.toNat).foldl (crowdingBy a indices)
      (indices.foldl (fun score i ↦ score.insert i 0) ∅)

/-- The first of the candidates of each identity. -/
def uniqueCandidates (pairs : List (DesignVector × CandidateAggregate)) :
    List (DesignVector × CandidateAggregate) :=
  (pairs.foldl (fun (seen, out) pair ↦
    if pair.1.identity ∈ seen then (seen, out) else (pair.1.identity :: seen, out ++ [pair]))
    (([] : List UInt32), ([] : List (DesignVector × CandidateAggregate)))).2

def selectNsga (m : SearchManifest) (candidates : List DesignVector)
    (aggregates : List CandidateAggregate) (n : Nat) :
    List DesignVector × List CandidateAggregate :=
  let unique := uniqueCandidates (candidates.zip aggregates)
  let candidates := unique.map Prod.fst
  let aggregates := unique.map Prod.snd
  let ranks := nondominatedRanks m aggregates
  let indices := List.range candidates.length
  let worst := ranks.foldl max 0
  let scores := (List.range (worst.toNat + 1)).foldl (fun scores r ↦
    (crowding m (indices.filter fun i ↦ ranks[i]!.toNat = r) aggregates).toList.foldl
      (fun scores (i, score) ↦ scores.insert i score) scores) (∅ : Std.ExtTreeMap Nat Int)
  let sorted := indices.mergeSort fun i j ↦
    ((compare ranks[i]! ranks[j]!).then
      ((compare (scores.getD j 0) (scores.getD i 0)).then
        (compare aggregates[i]!.candidateIdentity aggregates[j]!.candidateIdentity))).isLE
  ((sorted.take n).map (candidates[·]!), (sorted.take n).map (aggregates[·]!))

end Ksa64.Host
