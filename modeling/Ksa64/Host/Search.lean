import Ksa64.Library.Pool
import Ksa64.Host.Proposals

/-!
# Searches

A search evaluates its candidates with several workers, whose results arrive in any order, and
remembers what has been evaluated.  The results of a generation are put in the order of the
candidates' identities before anything is made of them, so a search that succeeds has the same
result as with one worker, whatever the order of arrival (`run_search_with_workers_eq`).
-/

namespace Ksa64.Host

open Ksa64.Library
open Ksa64.Interface (crc32Ieee)

/-- Evaluations are by candidate and uncertainty tier. -/
abbrev cmpIdentityTier : UInt32 × UInt8 → UInt32 × UInt8 → Ordering :=
  compareLex (compareOn Prod.fst) (compareOn Prod.snd)

section Search

variable {CaseEvidence : Type}

abbrev CandidateEvaluator (CaseEvidence : Type) :=
  DesignVector → UInt8 → Except SearchError (CandidateEvaluation CaseEvidence)

/-! ## Evaluations -/

structure EvalCache (CaseEvidence : Type) where
  values : Std.ExtTreeMap (UInt32 × UInt8) (CandidateEvaluation CaseEvidence) cmpIdentityTier
  hits : UInt32
  calls : UInt32

namespace EvalCache

def new : EvalCache CaseEvidence := ⟨∅, 0, 0⟩

/-- A candidate is a hit, or it is to be evaluated if no other of its identity is. -/
def look (cache : EvalCache CaseEvidence) (tier : UInt8)
    (s : Std.ExtTreeMap UInt32 DesignVector × UInt32) (candidate : DesignVector) :
    Std.ExtTreeMap UInt32 DesignVector × UInt32 :=
  if (candidate.identity, tier) ∉ cache.values then
    (s.1.insertIfNew candidate.identity candidate, s.2)
  else (s.1, addSat32 s.2 1)

/-- The results for the jobs, by identity. -/
def evaluateAll (evaluator : CandidateEvaluator CaseEvidence) (jobs : List DesignVector)
    (tier : UInt8) (workers : Nat) (picks : List Nat) :
    Except SearchError (Std.ExtTreeMap UInt32 (CandidateEvaluation CaseEvidence)) :=
  let workerCount := min (max workers 1) jobs.length
  if workerCount = 1 then
    jobs.foldlM (fun ordered c ↦ do
      let value ← evaluator c tier
      pure (ordered.insert c.identity value)) ∅
  else
    let messages := arrivals (fun c ↦ (c.identity, evaluator c tier)) jobs workerCount picks
    (List.range jobs.length).foldlM (fun ordered i ↦
      messages[i]?.elim (.error .evaluation) fun message ↦ do
        let value ← message.2
        pure (ordered.insert message.1 value)) ∅

def prefetch (evaluator : CandidateEvaluator CaseEvidence) (candidates : List DesignVector)
    (tier : UInt8) (workers : Nat) (picks : List Nat) (cache : EvalCache CaseEvidence) :
    Except SearchError (EvalCache CaseEvidence) := do
  let looked := candidates.foldl (cache.look tier) (∅, cache.hits)
  let jobs := looked.1.toList.map Prod.snd
  if jobs = [] then pure { cache with hits := looked.2 }
  else do
    let ordered ← evaluateAll evaluator jobs tier workers picks
    pure {
      values := ordered.toList.foldl (fun values (id, value) ↦ values.insert (id, tier) value) cache.values
      hits := looked.2
      calls := addSat32 cache.calls (UInt32.ofNat jobs.length) }

def cached (cache : EvalCache CaseEvidence) (c : DesignVector) (tier : UInt8) :
    Except SearchError (CandidateEvaluation CaseEvidence) :=
  cache.values[(c.identity, tier)]?.elim (.error .evaluation) .ok

end EvalCache

/-! ## Generations -/

structure SearchGeneration where
  index : UInt16
  candidates : List DesignVector
  aggregates : List CandidateAggregate
  crc32 : UInt32
deriving DecidableEq, Inhabited

def generationFingerprint (index : UInt16) (c : List DesignVector) (a : List CandidateAggregate) :
    UInt32 :=
  crc32Ieee (le16 index ++ (c.zip a).flatMap fun (x, y) ↦ le32 x.identity ++ le32 y.identity)

/-- The workers, and in which order their results arrive for each generation and tier. -/
structure Schedule where
  workers : Nat
  generation : UInt16 → UInt8 → List Nat
  finalists : List Nat

variable (evaluator : CandidateEvaluator CaseEvidence) (schedule : Schedule)

def evaluateGeneration (index : UInt16) (candidates : List DesignVector)
    (cache : EvalCache CaseEvidence) :
    Except SearchError (SearchGeneration × EvalCache CaseEvidence) := do
  let cache ← cache.prefetch evaluator candidates 1 schedule.workers (schedule.generation index 1)
  let promoted := candidates.filter fun c ↦
    ((cache.cached c 1).toOption.map fun v ↦ v.aggregate.feasible).getD false
  let cache ← cache.prefetch evaluator promoted 8 schedule.workers (schedule.generation index 8)
  let aggregates ← candidates.mapM fun c ↦ do
    let nominal ← cache.cached c 1
    if nominal.aggregate.feasible then CandidateEvaluation.aggregate <$> cache.cached c 8
    else pure nominal.aggregate
  pure (⟨index, candidates, aggregates, generationFingerprint index candidates aggregates⟩, cache)

/-- The generations so far, of which the last is `current`. -/
structure Evolution (CaseEvidence : Type) where
  generations : List SearchGeneration
  current : SearchGeneration
  cache : EvalCache CaseEvidence

variable (m : SearchManifest)

def firstGeneration (cache : EvalCache CaseEvidence) :
    Except SearchError (Evolution CaseEvidence) := do
  let (current, cache) ← evaluateGeneration evaluator schedule 0 (initialPopulation m) cache
  pure ⟨[current], current, cache⟩

def Evolution.push (e : Evolution CaseEvidence) (g : UInt16) (c : List DesignVector)
    (a : List CandidateAggregate) (cache : EvalCache CaseEvidence) : Evolution CaseEvidence :=
  let current := ⟨g, c, a, generationFingerprint g c a⟩
  ⟨e.generations ++ [current], current, cache⟩

def nsgaGeneration (e : Evolution CaseEvidence) (g : UInt16) :
    Except SearchError (Evolution CaseEvidence) := do
  let children := offspring m g e.current.candidates e.current.aggregates
  let (child, cache) ← evaluateGeneration evaluator schedule g children e.cache
  let kept := selectNsga m (e.current.candidates ++ child.candidates)
    (e.current.aggregates ++ child.aggregates) m.budgets.population.toNat
  pure (e.push g kept.1 kept.2 cache)

def runNsga (cache : EvalCache CaseEvidence) : Except SearchError (Evolution CaseEvidence) := do
  let first ← firstGeneration evaluator schedule m cache
  ((List.range' 1 m.budgets.generations.toNat).map UInt16.ofNat).foldlM
    (nsgaGeneration evaluator schedule m) first

/-- A trial takes the place of its target unless it is worse. -/
def chooseTrial (trial current : CandidateAggregate) : Bool :=
  if dominates m trial current then true
  else if dominates m current trial then false
  else if trial.feasible ≠ current.feasible then trial.feasible
  else lexObjectives m trial current ≠ .gt

def deGeneration (e : Evolution CaseEvidence) (g : UInt16) :
    Except SearchError (Evolution CaseEvidence) := do
  let (trial, cache) ← evaluateGeneration evaluator schedule g (trials m g e.current.candidates) e.cache
  let next := (List.range e.current.candidates.length).map fun i ↦
    if chooseTrial m trial.aggregates[i]! e.current.aggregates[i]! then
      (trial.candidates[i]!, trial.aggregates[i]!)
    else (e.current.candidates[i]!, e.current.aggregates[i]!)
  pure (e.push g (next.map Prod.fst) (next.map Prod.snd) cache)

def runDe (cache : EvalCache CaseEvidence) : Except SearchError (Evolution CaseEvidence) := do
  let first ← firstGeneration evaluator schedule m cache
  reject (first.current.candidates.length < 4) .configuration
  ((List.range' 1 m.budgets.generations.toNat).map UInt16.ofNat).foldlM
    (deGeneration evaluator schedule m) first

/-! ## The grid -/

def gridCandidate (points : Nat) (axes : List Nat) (n : Nat) : DesignVector :=
  let filled := axes.reverse.foldl (fun (values, rem) axis ↦
    (values.setIfInBounds axis
      (quantized m.variableSpecs[axis]! (rem % points) (max 1 (points - 1))), rem / points))
    ((baselineVector m).values, n)
  designFromValues m filled.1

def gridCandidates (axes : List Nat) : Except SearchError (List DesignVector) := do
  reject (axes = [] ∨ 2 < axes.length ∨ ∃ i ∈ axes, m.variableCount.toNat ≤ i) .configuration
  let points := max 1 m.budgets.gridPoints.toNat
  let count := points ^ axes.length
  reject (m.budgets.maxCandidates.toNat < count) .candidateLimit
  pure ((List.range count).map (gridCandidate m points axes))

def runGrid (axes : List Nat) (cache : EvalCache CaseEvidence) :
    Except SearchError (Evolution CaseEvidence) := do
  let candidates ← gridCandidates m axes
  let (generation, cache) ← evaluateGeneration evaluator schedule 0 candidates cache
  pure ⟨[generation], generation, cache⟩

/-! ## Results -/

structure SearchResult (CaseEvidence : Type) where
  manifestIdentity : UInt32
  generations : List SearchGeneration
  paretoIndices : List Nat
  finalists : List (CandidateEvaluation CaseEvidence)
  evidence : List (CandidateEvaluation CaseEvidence)
  cacheHits : UInt32
  evaluations : UInt32
deriving DecidableEq

/-- The candidates of the front that are finalists. -/
def finalistIndices (last : SearchGeneration) : List Nat :=
  let pareto := paretoFront m last.aggregates
  let target := m.budgets.finalists.toNat
  if target = 0 then []
  else if target < pareto.length then
    let scores := crowding m pareto last.aggregates
    (pareto.mergeSort fun left right ↦
      ((compare (scores.getD right 0) (scores.getD left 0)).then
        (compare last.aggregates[left]!.candidateIdentity
          last.aggregates[right]!.candidateIdentity)).isLE).take target
  else pareto

/-- What was kept of each candidate last, in the order of identities. -/
def historyOf (generations : List SearchGeneration) : List (DesignVector × CandidateAggregate) :=
  ((generations.flatMap fun generation ↦ generation.candidates.zip generation.aggregates).foldl
    (fun history pair ↦ history.insert pair.1.identity pair)
    (∅ : Std.ExtTreeMap UInt32 (DesignVector × CandidateAggregate))).toList.map Prod.snd

/-- The finalists: those of the front, and then the best of what was kept. -/
def finalistCandidates (generations : List SearchGeneration) (last : SearchGeneration) :
    List DesignVector :=
  let chosen := (finalistIndices m last).map (last.candidates[·]!)
  let remaining := ((historyOf generations).filter fun (candidate, _) ↦
    candidate.identity ∉ chosen.map DesignVector.identity).mergeSort fun a b ↦
      (lexObjectives m a.2 b.2).isLE
  remaining.foldl (fun chosen (candidate, _) ↦
    if m.budgets.finalists.toNat ≤ chosen.length then chosen
    else if candidate.identity ∈ chosen.map DesignVector.identity then chosen
    else chosen ++ [candidate]) chosen

/-- For each candidate that was ever kept, its evaluation at the highest tier. -/
def highestEvidence (generations : List SearchGeneration) (cache : EvalCache CaseEvidence) :
    List (CandidateEvaluation CaseEvidence) :=
  let retained := generations.flatMap fun generation ↦ generation.candidates.map DesignVector.identity
  (cache.values.toList.foldl (fun highest ((identity, _), value) ↦
    if identity ∉ retained then highest
    else if highest[identity]?.all fun (current : CandidateEvaluation CaseEvidence) ↦
        current.aggregate.uncertaintyTier < value.aggregate.uncertaintyTier then
      highest.insert identity value
    else highest)
    (∅ : Std.ExtTreeMap UInt32 (CandidateEvaluation CaseEvidence))).toList.map Prod.snd

def finish (e : Evolution CaseEvidence) : Except SearchError (SearchResult CaseEvidence) := do
  let last ← e.generations.getLast?.elim (.error .configuration) .ok
  let candidates := finalistCandidates m e.generations last
  let cache ← e.cache.prefetch evaluator candidates 64 schedule.workers schedule.finalists
  let finalists ← candidates.mapM fun candidate ↦ cache.cached candidate 64
  pure {
    manifestIdentity := m.identity
    generations := e.generations
    paretoIndices := paretoFront m last.aggregates
    finalists := finalists
    evidence := highestEvidence e.generations cache
    cacheHits := cache.hits
    evaluations := cache.calls }

/-- The generations of the manifest's engine. -/
def runEngine (gridAxes : List Nat) : Except SearchError (Evolution CaseEvidence) :=
  match m.engine with
  | .gridV1 => runGrid evaluator schedule m gridAxes .new
  | .nsga2V1 => runNsga evaluator schedule m .new
  | .differentialEvolutionV1 => runDe evaluator schedule m .new

def runSearchWithWorkers (gridAxes : List Nat) : Except SearchError (SearchResult CaseEvidence) := do
  m.validate.mapError fun _ ↦ .configuration
  let e ← runEngine evaluator schedule m gridAxes
  finish evaluator schedule m e

/-- The schedule of one worker, whose results arrive in order. -/
def Schedule.single : Schedule := ⟨1, fun _ _ ↦ [], []⟩

def runSearch (gridAxes : List Nat) : Except SearchError (SearchResult CaseEvidence) :=
  runSearchWithWorkers evaluator .single m gridAxes

/-! ## Any order of arrival -/

namespace EvalCache

variable {evaluator} {jobs : List DesignVector} {tier : UInt8}

/-- The candidates are under their identities. -/
def UnderIdentity (missing : Std.ExtTreeMap UInt32 DesignVector) : Prop :=
  ∀ (id : UInt32) (c : DesignVector), missing[id]? = some c → c.identity = id

theorem underIdentity_look {cache : EvalCache CaseEvidence} {candidates : List DesignVector}
    {s : Std.ExtTreeMap UInt32 DesignVector × UInt32} (h : UnderIdentity s.1) :
    UnderIdentity (candidates.foldl (cache.look tier) s).1 := by
  induction candidates generalizing s with
  | nil => exact h
  | cons candidate candidates ih =>
      refine ih fun id c hget ↦ ?_
      unfold look at hget
      split_ifs at hget with hknown
      · exact h id c hget
      · rw [Std.ExtTreeMap.getElem?_insertIfNew] at hget
        split_ifs at hget with hnew
        · cases hget
          exact Std.LawfulEqOrd.eq_of_compare hnew.1
        · exact h id c hget

/-- Candidates under their identities have different identities. -/
theorem UnderIdentity.nodup {missing : Std.ExtTreeMap UInt32 DesignVector} (h : UnderIdentity missing) :
    ((missing.toList.map Prod.snd).map DesignVector.identity).Nodup := by
  have hidentity : ∀ pair ∈ missing.toList, (DesignVector.identity ∘ Prod.snd) pair = pair.1 :=
    fun pair hmem ↦ h _ _ (Std.ExtTreeMap.mem_toList_iff_getElem?_eq_some.mp hmem)
  rw [List.map_map, List.map_congr_left hidentity, List.nodup_iff_pairwise_ne, List.pairwise_map]
  refine Std.ExtTreeMap.distinct_keys_toList.imp fun hne heq ↦ hne ?_
  rw [heq]
  exact Std.ReflCmp.compare_self

theorem insert_value_eq {ordered : Std.ExtTreeMap UInt32 (CandidateEvaluation CaseEvidence)}
    (message : UInt32 × Except SearchError (CandidateEvaluation CaseEvidence)) :
    (do
      let value ← message.2
      pure (ordered.insert message.1 value)) = message.2.map (ordered.insert message.1) := by
  cases message.2 with
  | error error => rfl
  | ok value => rfl

/-- Whoever evaluates the jobs, the results are those of the jobs, by identity. -/
theorem evaluateAll_eq_collect (hne : jobs ≠ []) (hjobs : (jobs.map DesignVector.identity).Nodup) (workers : Nat)
    (picks : List Nat) :
    (evaluateAll evaluator jobs tier workers picks).toOption =
      (collect (jobs.map fun c ↦ (c.identity, evaluator c tier))).toOption := by
  have hkeys : ((jobs.map fun c ↦ (c.identity, evaluator c tier)).map Prod.fst).Nodup := by
    rw [List.map_map]
    exact hjobs
  unfold evaluateAll
  dsimp only
  split_ifs with hone
  · rw [collect, List.foldlM_map]
    exact toOption_foldlM_congr (fun ordered c ↦ congrArg _ (insert_value_eq (_, _))) _ _
  · have hperm : (arrivals (fun c ↦ (c.identity, evaluator c tier)) jobs
        (min (max workers 1) jobs.length) picks).Perm
          (jobs.map fun c ↦ (c.identity, evaluator c tier)) :=
      arrivals_perm _ _ (Nat.lt_min.mpr
        ⟨Nat.lt_of_lt_of_le Nat.one_pos (Nat.le_max_right _ _), List.length_pos_of_ne_nil hne⟩) picks
    generalize arrivals _ _ _ _ = messages at hperm ⊢
    have hlength := hperm.length_eq
    rw [List.length_map] at hlength
    rw [collect_perm hperm.symm hkeys, collect, ← hlength, foldlM_range_getElem?]
    exact toOption_foldlM_congr (fun ordered message ↦ congrArg _ (insert_value_eq message)) _ _

theorem prefetch_eq (candidates : List DesignVector) (workers workers' : Nat)
    (picks picks' : List Nat) (cache : EvalCache CaseEvidence) :
    (cache.prefetch evaluator candidates tier workers picks).toOption =
      (cache.prefetch evaluator candidates tier workers' picks').toOption := by
  unfold prefetch
  dsimp only
  split_ifs with hjobs
  · rfl
  · have hnodup := (@underIdentity_look _ tier cache candidates (∅, cache.hits) fun id c hget ↦ by
        rw [Std.ExtTreeMap.getElem?_empty] at hget
        cases hget).nodup
    refine toOption_bind_congr ?_ fun _ ↦ rfl
    rw [evaluateAll_eq_collect hjobs hnodup, evaluateAll_eq_collect hjobs hnodup]

end EvalCache

section Schedules

variable {evaluator} {schedule schedule' : Schedule} {m}

theorem evaluateGeneration_eq (index : UInt16) (candidates : List DesignVector)
    (cache : EvalCache CaseEvidence) :
    (evaluateGeneration evaluator schedule index candidates cache).toOption =
      (evaluateGeneration evaluator schedule' index candidates cache).toOption :=
  toOption_bind_congr (EvalCache.prefetch_eq ..) fun _ ↦
    toOption_bind_congr (EvalCache.prefetch_eq ..) fun _ ↦ rfl

theorem firstGeneration_eq (cache : EvalCache CaseEvidence) :
    (firstGeneration evaluator schedule m cache).toOption =
      (firstGeneration evaluator schedule' m cache).toOption :=
  toOption_bind_congr (evaluateGeneration_eq ..) fun _ ↦ rfl

theorem runNsga_eq (cache : EvalCache CaseEvidence) :
    (runNsga evaluator schedule m cache).toOption = (runNsga evaluator schedule' m cache).toOption :=
  toOption_bind_congr (firstGeneration_eq cache) fun first ↦
    toOption_foldlM_congr
      (fun _ _ ↦ toOption_bind_congr (evaluateGeneration_eq ..) fun _ ↦ rfl) _ first

theorem runDe_eq (cache : EvalCache CaseEvidence) :
    (runDe evaluator schedule m cache).toOption = (runDe evaluator schedule' m cache).toOption :=
  toOption_bind_congr (firstGeneration_eq cache) fun first ↦
    toOption_bind_congr rfl fun _ ↦ toOption_foldlM_congr
      (fun _ _ ↦ toOption_bind_congr (evaluateGeneration_eq ..) fun _ ↦ rfl) _ first

theorem runGrid_eq (axes : List Nat) (cache : EvalCache CaseEvidence) :
    (runGrid evaluator schedule m axes cache).toOption =
      (runGrid evaluator schedule' m axes cache).toOption :=
  toOption_bind_congr rfl fun _ ↦ toOption_bind_congr (evaluateGeneration_eq ..) fun _ ↦ rfl

theorem finish_eq (e : Evolution CaseEvidence) :
    (finish evaluator schedule m e).toOption = (finish evaluator schedule' m e).toOption :=
  toOption_bind_congr rfl fun _ ↦ toOption_bind_congr (EvalCache.prefetch_eq ..) fun _ ↦ rfl

end Schedules

/-- **Searches.**  With any workers, and in any order in which their results arrive, a search
succeeds if and only if it does with one worker, and then with the same result. -/
theorem runSearchWithWorkers_eq_ok_iff (gridAxes : List Nat) (result : SearchResult CaseEvidence) :
    runSearchWithWorkers evaluator schedule m gridAxes = .ok result ↔
      runSearch evaluator m gridAxes = .ok result := by
  have heq : (runSearchWithWorkers evaluator schedule m gridAxes).toOption =
      (runSearch evaluator m gridAxes).toOption := by
    refine toOption_bind_congr rfl fun _ ↦ toOption_bind_congr ?_ finish_eq
    unfold runEngine
    cases m.engine with
    | gridV1 => exact runGrid_eq gridAxes _
    | nsga2V1 => exact runNsga_eq _
    | differentialEvolutionV1 => exact runDe_eq _
  rw [← toOption_eq_some, heq, toOption_eq_some]

end Search

end Ksa64.Host
