import Mathlib.Data.List.Perm.Basic
import Ksa64.Host.Selection
import Ksa64.Library.Layers

/-!
# Dominance

Dominance is a strict partial order.  So there is always a next front, the rank of a candidate is the
length of the longest chain of candidates that dominate it (`nondominatedRanks_longest`), and every
feasible candidate that is not on the Pareto front is dominated by one that is
(`paretoFront_complete`).
-/

namespace Ksa64.Host

open Ksa64.Library

/-! ## A strict partial order -/

section Order

variable {m : SearchManifest} {a b c : CandidateAggregate} {i : Nat}

/-- The objective, as a number that is better when it is less. -/
def score (m : SearchManifest) (a : CandidateAggregate) (i : Nat) : Int :=
  match m.objectives[i]!.direction with
  | .minimize => a.objectives[i]!.toInt
  | .maximize => -a.objectives[i]!.toInt

theorem compare_int32 (x y : Int32) : compare x y = compare x.toInt y.toInt := by
  show compareOfLessAndEq x y = compareOfLessAndEq x.toInt y.toInt
  unfold compareOfLessAndEq
  simp only [Int32.lt_iff_toInt_lt, ← Int32.toInt_inj]

theorem objectiveCmp_eq : objectiveCmp m a b i = compare (score m a i) (score m b i) := by
  unfold objectiveCmp score
  cases m.objectives[i]!.direction with
  | minimize => exact compare_int32 _ _
  | maximize =>
    show compare _ _ = compareOfLessAndEq _ _
    rw [compare_int32]
    show compareOfLessAndEq _ _ = _
    unfold compareOfLessAndEq
    simp only [neg_lt_neg_iff, neg_inj, eq_comm]

/-- Among feasible candidates, to dominate is to be nowhere worse, and either somewhere better or of
the smaller identity. -/
theorem dominates_iff : dominates m a b = true ↔ a.feasible = true ∧ (b.feasible = true →
    (∀ i < m.objectiveCount.toNat, score m a i ≤ score m b i) ∧
      ((∃ i < m.objectiveCount.toNat, score m a i < score m b i)
        ∨ a.candidateIdentity < b.candidateIdentity)) := by
  have hworse : Ordering.gt ∉ (List.range m.objectiveCount.toNat).map (objectiveCmp m a b) ↔
      ∀ i < m.objectiveCount.toNat, score m a i ≤ score m b i := by
    simp only [List.mem_map, List.mem_range, not_exists, not_and, objectiveCmp_eq, compare_gt_iff_gt,
      not_lt]
  have hbetter : Ordering.lt ∈ (List.range m.objectiveCount.toNat).map (objectiveCmp m a b) ↔
      ∃ i < m.objectiveCount.toNat, score m a i < score m b i := by
    simp only [List.mem_map, List.mem_range, objectiveCmp_eq, compare_lt_iff_lt]
  rw [← hworse, ← hbetter]
  unfold dominates
  cases a.feasible <;> cases b.feasible <;> simp

theorem not_dominates_self : ¬dominates m a a = true := by
  intro h
  obtain ⟨hfeasible, hall⟩ := dominates_iff.mp h
  obtain ⟨-, ⟨i, -, hbetter⟩ | hidentity⟩ := hall hfeasible
  · exact lt_irrefl _ hbetter
  · exact UInt32.lt_irrefl _ hidentity

theorem dominates_trans (hab : dominates m a b = true) (hbc : dominates m b c = true) :
    dominates m a c = true := by
  obtain ⟨ha, hab⟩ := dominates_iff.mp hab
  obtain ⟨hb, hbc⟩ := dominates_iff.mp hbc
  refine dominates_iff.mpr ⟨ha, fun hc ↦ ?_⟩
  obtain ⟨hle, hstrict⟩ := hab hb
  obtain ⟨hle', hstrict'⟩ := hbc hc
  refine ⟨fun i hi ↦ (hle i hi).trans (hle' i hi), ?_⟩
  rcases hstrict with ⟨i, hi, hbetter⟩ | hidentity
  · exact .inl ⟨i, hi, hbetter.trans_le (hle' i hi)⟩
  · rcases hstrict' with ⟨i, hi, hbetter⟩ | hidentity'
    · exact .inl ⟨i, hi, (hle i hi).trans_lt hbetter⟩
    · exact .inr (UInt32.lt_trans hidentity hidentity')

theorem not_dominates_both (hab : dominates m a b = true) : ¬dominates m b a = true :=
  fun hba ↦ not_dominates_self (dominates_trans hab hba)

end Order

/-! ## Ranks -/

section Ranks

variable {m : SearchManifest} {a : List CandidateAggregate} {remaining : List Nat} {i k : Nat}
  {r : UInt16} {rank : List UInt16}

/-- Dominance, as an order of the places of the candidates. -/
def Below (m : SearchManifest) (a : List CandidateAggregate) (j i : Nat) : Prop :=
  dominates m a[j]! a[i]! = true

instance : DecidableRel (Below m a) := fun _ _ ↦ inferInstanceAs (Decidable (_ = true))

instance : IsTrans Nat (Below m a) := ⟨fun _ _ _ ↦ dominates_trans⟩

instance : Std.Irrefl (Below m a) := ⟨fun _ ↦ not_dominates_self⟩

theorem mem_frontOf : i ∈ frontOf m a remaining ↔ i ∈ remaining ∧ ∀ j ∈ remaining, ¬Below m a j i := by
  unfold frontOf
  rw [List.mem_filter, decide_eq_true_eq]
  refine and_congr_right fun _ ↦ ?_
  simp only [List.any_eq_true, decide_eq_true_eq, not_exists, not_and]
  constructor
  · intro h j hj hbelow
    refine h j hj ?_ hbelow
    rintro rfl
    exact not_dominates_self hbelow
  · exact fun h j hj _ hbelow ↦ h j hj hbelow

/-- There is always a front. -/
theorem frontOf_ne_nil (h : remaining ≠ []) : frontOf m a remaining ≠ [] := by
  obtain ⟨i, hi, hminimal⟩ := @exists_minimal Nat (Below m a) remaining _ _ h
  exact List.ne_nil_of_mem (mem_frontOf.mpr ⟨hi, hminimal⟩)

/-- The candidates of a front have the rank of the front, and all others keep theirs. -/
theorem foldl_set_getElem? {front : List Nat} (h : i < rank.length) :
    (front.foldl (fun rank i ↦ rank.set i r) rank)[i]? = if i ∈ front then some r else rank[i]? := by
  induction front generalizing rank with
  | nil => rw [if_neg List.not_mem_nil]; rfl
  | cons j front ih =>
    rw [List.foldl_cons, ih (by rwa [List.length_set]), List.getElem?_set]
    by_cases hi : i ∈ front
    · rw [if_pos hi, if_pos (List.mem_cons_of_mem j hi)]
    · rw [if_neg hi]
      by_cases hij : j = i
      · subst hij
        rw [if_pos rfl, if_pos h, if_pos List.mem_cons_self]
      · rw [if_neg hij, if_neg]
        rw [List.mem_cons, not_or]
        exact ⟨Ne.symm hij, hi⟩

theorem length_foldl_set {front : List Nat} :
    (front.foldl (fun rank i ↦ rank.set i r) rank).length = rank.length := by
  induction front generalizing rank with
  | nil => rfl
  | cons j front ih => rw [List.foldl_cons, ih, List.length_set]

/-- The candidates that are left after `k` fronts are those with a chain of `k` candidates below
them. -/
def LeftAfter (m : SearchManifest) (a : List CandidateAggregate) (k : Nat) (remaining : List Nat) :
    Prop :=
  ∀ i, i ∈ remaining ↔ i < a.length ∧ ChainBelow (Below m a) (List.range a.length) k i

theorem leftAfter_zero : LeftAfter m a 0 (List.range a.length) := fun _ ↦
  List.mem_range.trans (and_iff_left chainBelow_zero).symm

/-- One front goes. -/
theorem LeftAfter.succ (h : LeftAfter m a k remaining) :
    LeftAfter m a (k + 1) (withoutFront remaining (frontOf m a remaining)) := by
  intro i
  unfold withoutFront
  rw [List.mem_filter, decide_eq_true_eq, mem_frontOf, chainBelow_succ]
  constructor
  · rintro ⟨hi, hdominated⟩
    rw [not_and] at hdominated
    have hdominated := hdominated hi
    simp only [not_forall, not_not] at hdominated
    obtain ⟨j, hj, hji⟩ := hdominated
    obtain ⟨hjn, hchain⟩ := (h j).mp hj
    exact ⟨((h i).mp hi).1, j, List.mem_range.mpr hjn, hji, hchain⟩
  · rintro ⟨hi, j, hj, hji, hchain⟩
    have hbelow : ChainBelow (Below m a) (List.range a.length) (k + 1) i :=
      chainBelow_succ.mpr ⟨j, hj, hji, hchain⟩
    refine ⟨(h i).mpr ⟨hi, hbelow.shorten⟩, fun hfront ↦ ?_⟩
    exact hfront.2 j ((h j).mpr ⟨List.mem_range.mp hj, hchain⟩) hji

/-- The length of the longest chain of candidates that dominate the candidate is in `p`. -/
def Longest (m : SearchManifest) (a : List CandidateAggregate) (i : Nat) (longest : Nat) : Prop :=
  IsGreatest {k | ChainBelow (Below m a) (List.range a.length) k i} longest

/-- A candidate in the front after `k` others. -/
theorem LeftAfter.longest (h : LeftAfter m a k remaining) (hi : i ∈ frontOf m a remaining) :
    Longest m a i k := by
  obtain ⟨hremaining, hminimal⟩ := mem_frontOf.mp hi
  refine isGreatest_of_layer ((h i).mp hremaining).2 fun j hj hchain ↦ ?_
  exact hminimal j ((h j).mpr ⟨List.mem_range.mp hj, hchain⟩)

/-- The loop gives each candidate that is left the length of the longest chain, as far as it is a
word. -/
theorem nondominatedRanksLoop_longest (h : LeftAfter m a k remaining)
    (hr : r.toNat = min k (2 ^ 16 - 1)) (hlength : rank.length = a.length) :
    (nondominatedRanksLoop m a remaining r rank).length = a.length ∧
      ∀ i < a.length, if i ∈ remaining then
        ∃ longest, Longest m a i longest ∧ (nondominatedRanksLoop m a remaining r rank)[i]?
          = some (UInt16.ofNat (min longest (2 ^ 16 - 1)))
      else (nondominatedRanksLoop m a remaining r rank)[i]? = rank[i]? := by
  induction remaining, r, rank using nondominatedRanksLoop.induct m a generalizing k with
  | case1 r rank =>
    rw [nondominatedRanksLoop, if_pos rfl]
    refine ⟨hlength, fun i _ ↦ ?_⟩
    rw [if_neg List.not_mem_nil]
  | case2 remaining r rank hne hfront => exact absurd hfront (frontOf_ne_nil hne)
  | case3 remaining r rank hne hfront ih =>
    rw [nondominatedRanksLoop, if_neg hne, dif_neg hfront]
    have hnext : (addSat16 r 1).toNat = min (k + 1) (2 ^ 16 - 1) := by
      rw [toNat_addSat16, hr]
      show min (min k _ + 1) _ = _
      omega
    obtain ⟨hlength', hall⟩ := ih h.succ hnext (length_foldl_set.trans hlength)
    refine ⟨hlength', fun i hi ↦ ?_⟩
    have hrest := hall i hi
    rw [foldl_set_getElem? (hlength ▸ hi)] at hrest
    have hleft : i ∈ withoutFront remaining (frontOf m a remaining)
        ↔ i ∈ remaining ∧ i ∉ frontOf m a remaining := by
      unfold withoutFront
      rw [List.mem_filter, decide_eq_true_eq]
    by_cases hremaining : i ∈ remaining
    · rw [if_pos hremaining]
      by_cases hin : i ∈ frontOf m a remaining
      · rw [if_neg fun hi ↦ (hleft.mp hi).2 hin, if_pos hin] at hrest
        refine ⟨k, h.longest hin, ?_⟩
        rw [hrest, ← hr, UInt16.ofNat_toNat]
      · rwa [if_pos (hleft.mpr ⟨hremaining, hin⟩)] at hrest
    · rw [if_neg hremaining]
      rwa [if_neg fun hi ↦ hremaining (hleft.mp hi).1,
        if_neg fun hin ↦ hremaining (mem_frontOf.mp hin).1] at hrest

/-- The rank of every candidate is the length of the longest chain of candidates that dominate it,
as far as it is a word. -/
theorem nondominatedRanks_rank :
    (nondominatedRanks m a).length = a.length ∧ ∀ i < a.length, ∃ longest, Longest m a i longest ∧
      (nondominatedRanks m a)[i]? = some (UInt16.ofNat (min longest (2 ^ 16 - 1))) := by
  obtain ⟨hlength, hall⟩ := @nondominatedRanksLoop_longest m a _ 0 0
    (List.replicate a.length 0xffff) leftAfter_zero rfl List.length_replicate
  refine ⟨hlength, fun i hi ↦ ?_⟩
  have hrank := hall i hi
  rwa [if_pos (List.mem_range.mpr hi)] at hrank

/-- Dominance is a strict partial order, the loop never meets an empty front, and the rank of every
candidate is the length of the longest chain of candidates that dominate it, as far as it is a
word. -/
theorem nondominatedRanks_longest (m : SearchManifest) (a : List CandidateAggregate) :
    ((∀ x, ¬dominates m x x = true) ∧
      (∀ x y, dominates m x y = true → ¬dominates m y x = true) ∧
      ∀ x y z, dominates m x y = true → dominates m y z = true → dominates m x z = true) ∧
    (∀ remaining, remaining ≠ [] → frontOf m a remaining ≠ []) ∧
    (nondominatedRanks m a).length = a.length ∧
    ∀ i < a.length, ∃ longest, Longest m a i longest ∧
      (nondominatedRanks m a)[i]? = some (UInt16.ofNat (min longest (2 ^ 16 - 1))) :=
  ⟨⟨fun _ ↦ not_dominates_self, fun _ _ ↦ not_dominates_both, fun _ _ _ ↦ dominates_trans⟩,
    fun _ ↦ frontOf_ne_nil, nondominatedRanks_rank⟩

end Ranks

/-! ## More fronts than ranks -/

/-- A candidate that is as good as all the others. -/
def tied (identity : Nat) : CandidateAggregate :=
  { (default : CandidateAggregate) with
    feasible := true
    candidateIdentity := UInt32.ofNat identity }

theorem dominates_tied {m : SearchManifest} {j i : Nat} (hj : j < i) (hi : i < 2 ^ 32) :
    dominates m (tied j) (tied i) = true := by
  refine dominates_iff.mpr ⟨rfl, fun _ ↦ ⟨fun _ _ ↦ le_refl _, .inr ?_⟩⟩
  show UInt32.ofNat j < UInt32.ofNat i
  rw [UInt32.lt_iff_toNat_lt, UInt32.toNat_ofNat_of_lt' (hj.trans hi), UInt32.toNat_ofNat_of_lt' hi]
  exact hj

/-- One candidate more than there are ranks, each dominated by all before it. -/
def tiedCandidates : List CandidateAggregate := (List.range (2 ^ 16 + 1)).map tied

theorem length_tiedCandidates : tiedCandidates.length = 2 ^ 16 + 1 := by
  unfold tiedCandidates
  rw [List.length_map, List.length_range]

theorem getElem!_tiedCandidates {i : Nat} (h : i < 2 ^ 16 + 1) : tiedCandidates[i]! = tied i := by
  rw [getElem!_pos tiedCandidates i (length_tiedCandidates ▸ h)]
  unfold tiedCandidates
  rw [List.getElem_map, List.getElem_range]

/-- A manifest with one objective. -/
def oneObjective : SearchManifest where
  identity := 1
  engine := .nsga2V1
  masterSeed := 1
  budgets := ⟨0, 65535, 1, 0, 4294967295⟩
  variableCount := 1
  objectiveCount := 1
  constraintCount := 0
  variableSpecs := .replicate maxVariables ⟨1, .integer, 0, 2147483647, 1⟩
  objectives := .replicate maxObjectives ⟨1, .minimize⟩
  constraints := .replicate maxConstraints ⟨0, 0⟩

/-- The last of the candidates has the rank of the one before it. -/
theorem rank_saturates : ∃ longest, Longest oneObjective tiedCandidates (2 ^ 16) longest ∧
    ∃ rank, (nondominatedRanks oneObjective tiedCandidates)[2 ^ 16]? = some rank ∧
      rank.toNat ≠ longest := by
  have hlast : 2 ^ 16 < tiedCandidates.length := by
    rw [length_tiedCandidates]
    omega
  obtain ⟨longest, hlongest, hrank⟩ :=
    (@nondominatedRanks_rank oneObjective tiedCandidates).2 (2 ^ 16) hlast
  refine ⟨longest, hlongest, _, hrank, ?_⟩
  have hchain : ChainBelow (Below oneObjective tiedCandidates) (List.range tiedCandidates.length)
      (2 ^ 16) (2 ^ 16) := by
    refine ⟨List.range (2 ^ 16), List.length_range, List.range_subset.mpr hlast.le, ?_⟩
    rw [← List.range_succ, Nat.succ_eq_add_one, List.isChain_range_succ]
    intro k hk
    unfold Below
    rw [getElem!_tiedCandidates (by omega), getElem!_tiedCandidates (by omega)]
    exact dominates_tied (Nat.lt_succ_self k) (by omega)
  have hlong : 2 ^ 16 ≤ longest := hlongest.2 hchain
  rw [UInt16.toNat_ofNat_of_lt' (show _ < 2 ^ 16 by omega)]
  omega

/-! ## The Pareto front -/

section Front

variable {m : SearchManifest} {values : List CandidateAggregate} {x y : CandidateAggregate} {i n : Nat}

/-- The candidates on the Pareto front. -/
def frontCandidates (m : SearchManifest) (values : List CandidateAggregate) :
    List CandidateAggregate :=
  (paretoFront m values).map (values[·]!)

/-- Candidates with the same identity are the same. -/
def Identified (values : List CandidateAggregate) : Prop :=
  ∀ x ∈ values, ∀ y ∈ values, x.candidateIdentity = y.candidateIdentity → x = y

/-- A feasible candidate that no other dominates. -/
def Undominated (m : SearchManifest) (values : List CandidateAggregate) (x : CandidateAggregate) :
    Prop :=
  x ∈ values ∧ x.feasible = true ∧ ∀ y ∈ values, y.feasible = true → ¬dominates m y x = true

/-- One candidate of the loop. -/
def frontStep (m : SearchManifest) (values : List CandidateAggregate)
    (found : List UInt32 × List Nat) (i : Nat) : List UInt32 × List Nat :=
  if ¬values[i]!.feasible ∨ values[i]!.candidateIdentity ∈ found.1 then found
  else
    (values[i]!.candidateIdentity :: found.1,
      if (List.range values.length).any fun j ↦ j ≠ i ∧ dominates m values[j]! values[i]! then found.2
      else found.2 ++ [i])

/-- What is found in the first `n` candidates. -/
def foundIn (m : SearchManifest) (values : List CandidateAggregate) (n : Nat) :
    List UInt32 × List Nat :=
  (List.range n).foldl (frontStep m values) ([], [])

theorem paretoFront_eq : paretoFront m values = (foundIn m values values.length).2.mergeSort
    fun i j ↦ values[i]!.candidateIdentity ≤ values[j]!.candidateIdentity := rfl

theorem getElem!_mem (h : i < values.length) : values[i]! ∈ values := by
  rw [getElem!_pos values i h]
  exact List.getElem_mem h

theorem exists_place (h : x ∈ values) : ∃ i < values.length, values[i]! = x := by
  obtain ⟨i, hi, hx⟩ := List.getElem_of_mem h
  exact ⟨i, hi, by rw [getElem!_pos values i hi, hx]⟩

theorem dominates_feasible (h : dominates m x y = true) : x.feasible = true := (dominates_iff.mp h).1

/-- The places that the loop looks at are those of all candidates. -/
theorem any_dominates (hi : i < values.length) (hfeasible : values[i]!.feasible = true) :
    ((List.range values.length).any fun j ↦ j ≠ i ∧ dominates m values[j]! values[i]!) = false ↔
      Undominated m values values[i]! := by
  rw [← Bool.not_eq_true, List.any_eq_true]
  simp only [List.mem_range, decide_eq_true_eq]
  constructor
  · intro hnone
    refine ⟨getElem!_mem hi, hfeasible, fun y hy _ hdominates ↦ ?_⟩
    obtain ⟨j, hj, rfl⟩ := exists_place hy
    refine hnone ⟨j, hj, ?_, hdominates⟩
    rintro rfl
    exact not_dominates_self hdominates
  · rintro ⟨-, -, hnone⟩ ⟨j, hj, -, hdominates⟩
    exact hnone _ (getElem!_mem hj) (dominates_feasible hdominates) hdominates

/-- What the loop knows of the first `n` candidates. -/
structure FoundFirst (m : SearchManifest) (values : List CandidateAggregate) (n : Nat)
    (found : List UInt32 × List Nat) : Prop where
  seen : ∀ identity, identity ∈ found.1 ↔
    ∃ i < n, values[i]!.feasible = true ∧ values[i]!.candidateIdentity = identity
  sound : ∀ i ∈ found.2, i < n ∧ Undominated m values values[i]!
  distinct : found.2.Pairwise fun i j ↦ values[i]!.candidateIdentity ≠ values[j]!.candidateIdentity
  complete : Identified values → ∀ i < n, Undominated m values values[i]! →
    ∃ j ∈ found.2, values[j]! = values[i]!

section Step

variable {found : List UInt32 × List Nat}

/-- A candidate that is not feasible, or of which another has been seen. -/
theorem FoundFirst.skip (h : FoundFirst m values n found) (hn : n < values.length)
    (hskip : ¬values[n]!.feasible ∨ values[n]!.candidateIdentity ∈ found.1) :
    FoundFirst m values (n + 1) found := by
  refine ⟨fun identity ↦ ?_, fun i hi ↦ ?_, h.distinct, fun hidentified i hi hundominated ↦ ?_⟩
  · rw [h.seen]
    constructor
    · rintro ⟨i, hi, hcandidate⟩
      exact ⟨i, Nat.lt_succ_of_lt hi, hcandidate⟩
    · rintro ⟨i, hi, hfeasible, hidentity⟩
      obtain hlt | rfl := Nat.lt_succ_iff_lt_or_eq.mp hi
      · exact ⟨i, hlt, hfeasible, hidentity⟩
      · rw [← hidentity]
        exact (h.seen _).mp (hskip.resolve_left fun hnot ↦ hnot hfeasible)
  · obtain ⟨hlt, hundominated⟩ := h.sound i hi
    exact ⟨Nat.lt_succ_of_lt hlt, hundominated⟩
  · obtain hlt | rfl := Nat.lt_succ_iff_lt_or_eq.mp hi
    · exact h.complete hidentified i hlt hundominated
    · -- the one that has been seen is the same candidate
      obtain ⟨i', hlt, -, hidentity⟩ :=
        (h.seen _).mp (hskip.resolve_left fun hnot ↦ hnot hundominated.2.1)
      have hsame := hidentified _ (getElem!_mem (hlt.trans hn)) _ (getElem!_mem hn) hidentity
      rw [← hsame] at hundominated ⊢
      exact h.complete hidentified i' hlt hundominated

/-- The identities that have been seen after one more feasible candidate. -/
theorem FoundFirst.seen_cons (h : FoundFirst m values n found) (hfeasible : values[n]!.feasible = true)
    (identity : UInt32) : identity ∈ values[n]!.candidateIdentity :: found.1 ↔
      ∃ i < n + 1, values[i]!.feasible = true ∧ values[i]!.candidateIdentity = identity := by
  rw [List.mem_cons, h.seen]
  constructor
  · rintro (rfl | ⟨i, hi, hcandidate⟩)
    · exact ⟨n, Nat.lt_succ_self n, hfeasible, rfl⟩
    · exact ⟨i, Nat.lt_succ_of_lt hi, hcandidate⟩
  · rintro ⟨i, hi, hcandidate, hidentity⟩
    obtain hlt | rfl := Nat.lt_succ_iff_lt_or_eq.mp hi
    · exact .inr ⟨i, hlt, hcandidate, hidentity⟩
    · exact .inl hidentity.symm

theorem FoundFirst.succ (h : FoundFirst m values n found) (hn : n < values.length) :
    FoundFirst m values (n + 1) (frontStep m values found n) := by
  unfold frontStep
  by_cases hskip : ¬values[n]!.feasible ∨ values[n]!.candidateIdentity ∈ found.1
  · rw [if_pos hskip]
    exact h.skip hn hskip
  rw [if_neg hskip]
  rw [not_or, not_not] at hskip
  obtain ⟨hfeasible, hnew⟩ := hskip
  have hplace := @any_dominates m values n hn hfeasible
  refine ⟨h.seen_cons hfeasible, ?_, ?_, ?_⟩
  · intro i hi
    split_ifs at hi with hany
    · obtain ⟨hlt, hundominated⟩ := h.sound i hi
      exact ⟨Nat.lt_succ_of_lt hlt, hundominated⟩
    · rcases List.mem_append.mp hi with hi | hi
      · obtain ⟨hlt, hundominated⟩ := h.sound i hi
        exact ⟨Nat.lt_succ_of_lt hlt, hundominated⟩
      · rw [List.mem_singleton.mp hi]
        exact ⟨Nat.lt_succ_self n, hplace.mp (Bool.not_eq_true _ ▸ hany)⟩
  · split_ifs with hany
    · exact h.distinct
    · rw [List.pairwise_append]
      refine ⟨h.distinct, List.pairwise_singleton _ _, fun i hi j hj hidentity ↦ hnew ?_⟩
      rw [List.mem_singleton.mp hj] at hidentity
      obtain ⟨hlt, -, hfeasible', -⟩ := h.sound i hi
      exact (h.seen _).mpr ⟨i, hlt, hfeasible', hidentity⟩
  · intro hidentified i hi hundominated
    obtain hlt | rfl := Nat.lt_succ_iff_lt_or_eq.mp hi
    · obtain ⟨j, hj, hsame⟩ := h.complete hidentified i hlt hundominated
      refine ⟨j, ?_, hsame⟩
      split_ifs
      · exact hj
      · exact List.mem_append_left _ hj
    · rw [hplace.mpr hundominated, if_neg Bool.false_ne_true]
      exact ⟨i, List.mem_append_right _ (List.mem_singleton_self i), rfl⟩

end Step

theorem foundIn_foundFirst (hn : n ≤ values.length) : FoundFirst m values n (foundIn m values n) := by
  induction n with
  | zero =>
    refine ⟨fun identity ↦ ?_, fun i hi ↦ absurd hi List.not_mem_nil, .nil, fun _ i hi ↦ ?_⟩
    · exact iff_of_false List.not_mem_nil fun ⟨i, hi, _⟩ ↦ Nat.not_lt_zero i hi
    · exact absurd hi (Nat.not_lt_zero i)
  | succ n ih =>
    have ih := ih (Nat.le_of_succ_le hn)
    unfold foundIn
    rw [List.range_succ, List.foldl_append]
    show FoundFirst m values (n + 1) (frontStep m values (foundIn m values n) n)
    generalize foundIn m values n = found at ih ⊢
    exact ih.succ hn

theorem mem_frontCandidates (hidentified : Identified values) :
    x ∈ frontCandidates m values ↔ Undominated m values x := by
  have hfound := @foundIn_foundFirst m values values.length le_rfl
  unfold frontCandidates
  rw [paretoFront_eq]
  simp only [List.mem_map, List.mem_mergeSort]
  constructor
  · rintro ⟨i, hi, rfl⟩
    exact (hfound.sound i hi).2
  · intro hx
    obtain ⟨i, hi, rfl⟩ := exists_place hx.1
    exact hfound.complete hidentified i hi hx

/-- The front is in the order of the identities, each once. -/
theorem frontCandidates_sorted :
    (frontCandidates m values).Pairwise fun x y ↦ x.candidateIdentity < y.candidateIdentity := by
  have hfound := @foundIn_foundFirst m values values.length le_rfl
  unfold frontCandidates
  rw [paretoFront_eq, List.pairwise_map]
  have hdistinct := hfound.distinct
  generalize (foundIn m values values.length).2 = found at hdistinct ⊢
  have hsorted := @List.pairwise_mergeSort _
    (fun i j ↦ decide (values[i]!.candidateIdentity ≤ values[j]!.candidateIdentity))
    (fun i j k hij hjk ↦ decide_eq_true
      (UInt32.le_trans (of_decide_eq_true hij) (of_decide_eq_true hjk)))
    (fun i j ↦ by
      rw [Bool.or_eq_true, decide_eq_true_eq, decide_eq_true_eq]
      exact UInt32.le_total _ _) found
  have hdistinct := hdistinct.perm
    (List.mergeSort_perm found fun i j ↦
      decide (values[i]!.candidateIdentity ≤ values[j]!.candidateIdentity)).symm Ne.symm
  refine (hsorted.and hdistinct).imp ?_
  rintro i j ⟨hle, hne⟩
  exact UInt32.lt_of_le_of_ne (of_decide_eq_true hle) hne

theorem frontCandidates_nodup : (frontCandidates m values).Nodup := by
  refine frontCandidates_sorted.imp ?_
  rintro x y hlt rfl
  exact UInt32.lt_irrefl _ hlt

/-- A feasible candidate that is not on the front is dominated by one that is. -/
theorem dominated_by_front (hidentified : Identified values) (hx : x ∈ values)
    (hfeasible : x.feasible = true) (hnot : x ∉ frontCandidates m values) :
    ∃ y ∈ frontCandidates m values, dominates m y x = true := by
  have htrans : IsTrans CandidateAggregate fun x y ↦ dominates m x y = true :=
    ⟨fun _ _ _ ↦ dominates_trans⟩
  have hirrefl : Std.Irrefl fun x y : CandidateAggregate ↦ dominates m x y = true :=
    ⟨fun _ ↦ not_dominates_self⟩
  obtain ⟨y, hy, hminimal, hbelow⟩ :=
    @exists_minimal_below _ (fun x y ↦ dominates m x y = true) values x _ _ _ hx
  have hfront : ∀ z, z ∈ values → z.feasible = true → (∀ j ∈ values, ¬dominates m j z = true) →
      z ∈ frontCandidates m values := fun z hz hzf hzm ↦
    (mem_frontCandidates hidentified).mpr ⟨hz, hzf, fun j hj _ ↦ hzm j hj⟩
  rcases hbelow with rfl | hyx
  · exact absurd (hfront y hx hfeasible hminimal) hnot
  · exact ⟨y, hfront y hy (dominates_feasible hyx) hminimal, hyx⟩

theorem frontCandidates_perm {values' : List CandidateAggregate} (hidentified : Identified values)
    (h : values.Perm values') : frontCandidates m values = frontCandidates m values' := by
  have hidentified' : Identified values' := fun x hx y hy ↦
    hidentified x (h.mem_iff.mpr hx) y (h.mem_iff.mpr hy)
  refine List.Perm.eq_of_pairwise ?_ frontCandidates_sorted frontCandidates_sorted ?_
  · intro x y _ _ hxy hyx
    exact absurd (UInt32.lt_trans hxy hyx) (UInt32.lt_irrefl _)
  · refine (List.perm_ext_iff_of_nodup frontCandidates_nodup frontCandidates_nodup).mpr fun x ↦ ?_
    rw [mem_frontCandidates hidentified, mem_frontCandidates hidentified']
    unfold Undominated
    simp only [h.mem_iff]

/-- The front has exactly the feasible candidates that no feasible one dominates, each once; every
other feasible candidate is dominated by one of the front; and the order of the candidates does not
matter. -/
theorem paretoFront_complete (m : SearchManifest) (hidentified : Identified values) :
    (∀ x, x ∈ frontCandidates m values ↔ Undominated m values x) ∧
      (frontCandidates m values).Nodup ∧
      (∀ x ∈ values, x.feasible = true → x ∉ frontCandidates m values →
        ∃ y ∈ frontCandidates m values, dominates m y x = true) ∧
      ∀ values', values.Perm values' → frontCandidates m values = frontCandidates m values' :=
  ⟨fun _ ↦ mem_frontCandidates hidentified,
    frontCandidates_nodup,
    fun _ hx hfeasible hnot ↦ dominated_by_front hidentified hx hfeasible hnot,
    fun _ h ↦ frontCandidates_perm hidentified h⟩

theorem paretoFront_complete_pair :
    (∀ x, x ∈ frontCandidates oneObjective [tied 0, tied 1] ↔
        Undominated oneObjective [tied 0, tied 1] x) ∧
      (frontCandidates oneObjective [tied 0, tied 1]).Nodup ∧
      (∀ x ∈ [tied 0, tied 1], x.feasible = true →
        x ∉ frontCandidates oneObjective [tied 0, tied 1] →
        ∃ y ∈ frontCandidates oneObjective [tied 0, tied 1], dominates oneObjective y x = true) ∧
      ∀ values', [tied 0, tied 1].Perm values' →
        frontCandidates oneObjective [tied 0, tied 1] = frontCandidates oneObjective values' := by
  refine paretoFront_complete oneObjective ?_
  unfold Identified
  decide

end Front

end Ksa64.Host
