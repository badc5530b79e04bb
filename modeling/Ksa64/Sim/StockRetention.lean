import Ksa64.Library.Checked
import Ksa64.Library.Picking
import Ksa64.Sim.HistoryCodec
import Mathlib.Data.List.ReduceOption

/-!
# Summaries kept on a small machine

A campaign of many runs keeps five summaries: the baseline, the worst ones, the first failure, and the
earliest others.  They are kept while the runs come in, or selected from the whole list.
-/

namespace Ksa64.Sim

open Ksa64.Library

def stockInterestingSummaries : Nat := 5

/-- What is looked at in a summary.  A low insertion is worse, and a high load or navigation error. -/
structure Criteria (S : Type) where
  runIndex : S → UInt32
  insertion : S → Int32
  load : S → Int32
  navigation : S → Int32
  failed : S → Bool

/-- What is kept while the summaries come in, and an aggregate of all. -/
@[ext]
structure Retention (S A : Type) where
  nextIndex : UInt32
  aggregate : A
  baseline : Option S
  insertion : Option S
  load : Option S
  navigation : Option S
  firstFailure : Option S
  lowest : Vector (Option S) stockInterestingSummaries

structure RetentionSnapshot (S A : Type) where
  aggregate : A
  retained : Vector S stockInterestingSummaries

variable {S A E : Type}

namespace Criteria

variable (c : Criteria S)

/-- The key is ahead, or the same in an earlier run. -/
def Precedes (key : S → Int32) (ahead : Int32 → Int32 → Prop) (a b : S) : Prop :=
  ahead (key a) (key b) ∨ key a = key b ∧ c.runIndex a < c.runIndex b

instance (key : S → Int32) (ahead : Int32 → Int32 → Prop) [DecidableRel ahead] :
    DecidableRel (c.Precedes key ahead) := fun _ _ ↦ inferInstanceAs (Decidable (_ ∨ _))

/-- The summaries in order of interest. -/
def candidates (baseline insertion load navigation failure : Option S) : List S :=
  [baseline, insertion, load, navigation, failure].reduceOption

end Criteria

namespace Retention

def new (aggregate : A) : Retention S A where
  nextIndex := 0
  aggregate := aggregate
  baseline := none
  insertion := none
  load := none
  navigation := none
  firstFailure := none
  lowest := .replicate stockInterestingSummaries none

variable (c : Criteria S)

def observe (runOrder : E) (update : A → S → A) (r : Retention S A) (summary : S) :
    Except E (Retention S A) := do
  reject (c.runIndex summary ≠ r.nextIndex) runOrder
  pure {
    nextIndex := r.nextIndex + 1
    aggregate := update r.aggregate summary
    baseline := if c.runIndex summary = 0 then some summary else r.baseline
    insertion := replaceIf (c.Precedes c.insertion (· < ·)) r.insertion summary
    load := replaceIf (c.Precedes c.load (· > ·)) r.load summary
    navigation := replaceIf (c.Precedes c.navigation (· > ·)) r.navigation summary
    firstFailure := if r.firstFailure.isNone ∧ c.failed summary then some summary else r.firstFailure
    lowest := if h : (c.runIndex summary).toNat < stockInterestingSummaries
      then r.lowest.set (c.runIndex summary).toNat (some summary) h else r.lowest }

def finish (empty : E) (r : Retention S A) : Except E (RetentionSnapshot S A) :=
  match r.baseline with
  | none => .error empty
  | some _ =>
      let kept := pushAll stockInterestingSummaries c.runIndex []
        (Criteria.candidates r.baseline r.insertion r.load r.navigation r.firstFailure)
      let retained := pushAll stockInterestingSummaries c.runIndex kept r.lowest.toList.reduceOption
      if h : retained.length = stockInterestingSummaries then
        .ok ⟨r.aggregate, ⟨retained.toArray, h⟩⟩
      else .error empty

end Retention

/-- The runs selected from the whole list, as many as there is room for. -/
def selectRuns (c : Criteria S) (empty runOrder : E) (summaries : List S) (room : Nat) :
    Except E (List UInt32) :=
  match summaries with
  | [] => .error empty
  | first :: _ => do
      reject (summaries.zipIdx.any fun entry ↦ c.runIndex entry.1 ≠ .ofNat entry.2) runOrder
      let insertion := firstBest (fun a b ↦ c.insertion a < c.insertion b) first summaries
      let load := firstBest (fun a b ↦ c.load a > c.load b) first summaries
      let navigation := firstBest (fun a b ↦ c.navigation a > c.navigation b) first summaries
      let picked := pushAll room id [] ((Criteria.candidates (some first) (some insertion) (some load)
        (some navigation) (summaries.find? c.failed)).map c.runIndex)
      pure (pushAll room id picked (summaries.map c.runIndex))

/-! ## The two ways agree -/

/-- Runs numbered from zero, at least as many as are kept. -/
structure NumberedRuns (c : Criteria S) where
  summaries : List S
  enough : stockInterestingSummaries ≤ summaries.length
  numbered : ∀ (i : Nat) (h : i < summaries.length), (c.runIndex summaries[i]).toNat = i

namespace Retention

variable (c : Criteria S) (update : A → S → A) (aggregate : A)

/-- What is kept after a list of summaries, each as the selection would find it. -/
def gathered (summaries : List S) : Retention S A where
  nextIndex := .ofNat summaries.length
  aggregate := summaries.foldl update aggregate
  baseline := summaries.head?
  insertion := bestOf (fun a b ↦ c.insertion a < c.insertion b) summaries
  load := bestOf (fun a b ↦ c.load a > c.load b) summaries
  navigation := bestOf (fun a b ↦ c.navigation a > c.navigation b) summaries
  firstFailure := summaries.find? c.failed
  lowest := .ofFn fun i ↦ summaries[i.val]?

variable {c update aggregate} {summaries : List S} {summary : S}

theorem gathered_nil : gathered c update aggregate [] = new aggregate := rfl

/-- A later run does not win a tie. -/
theorem replaceIf_bestOf (key : S → Int32) (ahead : Int32 → Int32 → Prop) [DecidableRel ahead]
    (hearlier : ∀ x ∈ summaries, c.runIndex x < c.runIndex summary) :
    replaceIf (c.Precedes key ahead) (bestOf (fun a b ↦ ahead (key a) (key b)) summaries) summary
      = bestOf (fun a b ↦ ahead (key a) (key b)) (summaries ++ [summary]) := by
  rw [bestOf_concat]
  refine replaceIf_congr fun current hcurrent ↦ or_iff_left_of_imp ?_
  rintro ⟨-, hlt⟩
  exact absurd hlt (UInt32.not_lt.mpr (UInt32.le_of_lt (hearlier current (bestOf_mem hcurrent))))

theorem find_concat : (summaries ++ [summary]).find? c.failed
    = if (summaries.find? c.failed).isNone ∧ c.failed summary then some summary
      else summaries.find? c.failed := by
  rw [List.find?_append]
  cases summaries.find? c.failed with
  | some failure => rfl
  | none =>
      by_cases hfailed : c.failed summary
      · simp [hfailed]
      · simp [hfailed]

/-- The first few summaries have their places. -/
theorem set_lowest {index : Nat} (hindex : index = summaries.length) :
    (if h : index < stockInterestingSummaries then
        (Vector.ofFn fun i : Fin stockInterestingSummaries ↦ summaries[i.val]?).set index
          (some summary) h
      else .ofFn fun i ↦ summaries[i.val]?)
      = .ofFn fun i : Fin stockInterestingSummaries ↦ (summaries ++ [summary])[i.val]? := by
  subst hindex
  split_ifs with h
  · ext1 i hi
    rw [Vector.getElem_ofFn, Vector.getElem_set]
    split_ifs with heq
    · subst heq
      exact List.getElem?_concat_length.symm
    · rw [Vector.getElem_ofFn]
      obtain hlt | hgt := Nat.lt_or_gt_of_ne heq
      · rw [List.getElem?_eq_none hlt.le, List.getElem?_eq_none]
        rw [List.length_append, List.length_singleton]
        exact hlt
      · exact (List.getElem?_append_left hgt).symm
  · ext1 i hi
    rw [Vector.getElem_ofFn, Vector.getElem_ofFn]
    exact (List.getElem?_append_left (by omega)).symm

/-- The next summary is taken, and what is kept is again what the selection would find. -/
theorem observe_gathered (runOrder : E) (hindex : (c.runIndex summary).toNat = summaries.length)
    (hearlier : ∀ x ∈ summaries, c.runIndex x < c.runIndex summary) :
    observe c runOrder update (gathered c update aggregate summaries) summary
      = .ok (gathered c update aggregate (summaries ++ [summary])) := by
  have hnext : c.runIndex summary = .ofNat summaries.length := by
    rw [← hindex, UInt32.ofNat_toNat]
  unfold observe
  refine (reject_bind (fun hother ↦ hother hnext) _).trans ?_
  refine congrArg Except.ok (Retention.ext ?_ ?_ ?_ ?_ ?_ ?_ ?_ ?_)
  · show UInt32.ofNat summaries.length + 1 = .ofNat (summaries ++ [summary]).length
    rw [List.length_append, List.length_singleton, UInt32.ofNat_add]
    rfl
  · show update (summaries.foldl update aggregate) summary = (summaries ++ [summary]).foldl update _
    rw [List.foldl_append]
    rfl
  · show (if c.runIndex summary = 0 then some summary else summaries.head?) = _
    cases summaries with
    | nil => exact if_pos hnext
    | cons first rest =>
        refine if_neg fun hzero ↦ ?_
        rw [hzero] at hindex
        cases hindex
  · exact replaceIf_bestOf c.insertion (· < ·) hearlier
  · exact replaceIf_bestOf c.load (· > ·) hearlier
  · exact replaceIf_bestOf c.navigation (· > ·) hearlier
  · exact find_concat.symm
  · exact set_lowest hindex

theorem finish_of_length {r : Retention S A} {first : S} {retained : List S} {empty : E}
    (hbaseline : r.baseline = some first)
    (hretained : pushAll stockInterestingSummaries c.runIndex (pushAll stockInterestingSummaries
      c.runIndex [] (Criteria.candidates r.baseline r.insertion r.load r.navigation r.firstFailure))
        r.lowest.toList.reduceOption = retained)
    (hlength : retained.length = stockInterestingSummaries) :
    ∃ snapshot, finish c empty r = .ok snapshot ∧ snapshot.retained.toList = retained := by
  subst hretained
  refine ⟨⟨r.aggregate, ⟨_, hlength⟩⟩, ?_, rfl⟩
  unfold finish
  obtain ⟨nextIndex, aggregate, baseline, insertion, load, navigation, failure, lowest⟩ := r
  cases hbaseline
  exact dif_pos hlength

end Retention

namespace NumberedRuns

variable {c : Criteria S} (runs : NumberedRuns c) {update : A → S → A} {aggregate : A}

/-- Runs are numbered in order. -/
theorem runIndex_lt {before after : List S} {summary : S}
    (h : runs.summaries = before ++ summary :: after) :
    (c.runIndex summary).toNat = before.length ∧ ∀ x ∈ before, c.runIndex x < c.runIndex summary := by
  have hindex : (c.runIndex summary).toNat = before.length := by
    have hnumbered := runs.numbered before.length (by rw [h]; simp)
    simpa [h] using hnumbered
  refine ⟨hindex, fun x hx ↦ ?_⟩
  obtain ⟨i, hi, rfl⟩ := List.mem_iff_getElem.mp hx
  have hnumbered := runs.numbered i (by rw [h, List.length_append]; omega)
  rw [UInt32.lt_iff_toNat_lt, hindex]
  simp only [h, List.getElem_append_left hi] at hnumbered
  omega

/-- All summaries are taken. -/
theorem foldlM_observe (update : A → S → A) (aggregate : A) (runOrder : E) {before after : List S} (h : runs.summaries = before ++ after) :
    after.foldlM (Retention.observe c runOrder update) (Retention.gathered c update aggregate before)
      = .ok (Retention.gathered c update aggregate runs.summaries) := by
  induction after generalizing before with
  | nil =>
      rw [h, List.append_nil]
      rfl
  | cons summary after ih =>
      obtain ⟨hindex, hearlier⟩ := runs.runIndex_lt h
      rw [List.foldlM_cons, bind_of_ok (Retention.observe_gathered runOrder hindex hearlier)]
      exact ih (by rw [h, List.append_assoc]; rfl)

/-- No two runs have one number. -/
theorem nodup_runIndex : (runs.summaries.map c.runIndex).Nodup := by
  have hrange : (runs.summaries.map c.runIndex).map UInt32.toNat
      = List.range runs.summaries.length := by
    refine List.ext_getElem (by simp) fun i hi _ ↦ ?_
    simp only [List.getElem_map, List.getElem_range]
    exact runs.numbered i (by simpa using hi)
  exact List.Nodup.of_map UInt32.toNat (hrange ▸ List.nodup_range)

theorem getElem_runIndex {summary : S} (h : summary ∈ runs.summaries) :
    runs.summaries[(c.runIndex summary).toNat]? = some summary := by
  obtain ⟨i, hi, rfl⟩ := List.mem_iff_getElem.mp h
  rw [runs.numbered i hi]
  exact List.getElem?_eq_getElem hi

/-- The places of the first few summaries are all taken. -/
theorem reduceOption_lowest : (Retention.gathered c update aggregate runs.summaries).lowest.toList.reduceOption
    = runs.summaries.take stockInterestingSummaries := by
  show (Vector.ofFn fun i : Fin stockInterestingSummaries ↦
    runs.summaries[i.val]?).toList.reduceOption = _
  obtain ⟨summaries, henough, -⟩ := runs
  match summaries, henough with
  | a :: b :: c :: d :: e :: rest, _ => rfl

/-- The summaries of interest, from the whole list. -/
def interesting (c : Criteria S) (summaries : List S) : List S :=
  Criteria.candidates summaries.head? (bestOf (fun a b ↦ c.insertion a < c.insertion b) summaries)
    (bestOf (fun a b ↦ c.load a > c.load b) summaries)
    (bestOf (fun a b ↦ c.navigation a > c.navigation b) summaries) (summaries.find? c.failed)

theorem mem_of_mem_interesting {summary : S} {summaries : List S}
    (h : summary ∈ interesting c summaries) : summary ∈ summaries := by
  unfold interesting Criteria.candidates at h
  rw [List.reduceOption_mem_iff] at h
  simp only [List.mem_cons, List.not_mem_nil, or_false] at h
  rcases h with h | h | h | h | h
  · exact List.mem_of_mem_head? h.symm
  · exact bestOf_mem h.symm
  · exact bestOf_mem h.symm
  · exact bestOf_mem h.symm
  · exact List.mem_of_find?_eq_some h.symm

/-- The first few summaries fill what is kept, with as many distinct ones before them as there are. -/
theorem length_retained :
    (pushAll stockInterestingSummaries c.runIndex [] (interesting c runs.summaries
      ++ runs.summaries.take stockInterestingSummaries)).length = stockInterestingSummaries := by
  rw [pushAll_append]
  refine length_pushAll_of_nodup (length_pushAll_le (Nat.zero_le _)) ?_ ?_
  · rw [List.map_take]
    exact runs.nodup_runIndex.sublist (List.take_sublist _ _)
  · rw [List.length_take]
    exact (min_eq_left runs.enough).ge

theorem head_eq_some : ∃ first, runs.summaries.head? = some first := by
  obtain ⟨summaries, henough, -⟩ := runs
  match summaries, henough with
  | first :: _, _ => exact ⟨first, rfl⟩

/-- What is kept at the end. -/
theorem finish_gathered (update : A → S → A) (aggregate : A) (empty : E) :
    ∃ snapshot, Retention.finish c empty (Retention.gathered c update aggregate runs.summaries)
        = .ok snapshot
      ∧ snapshot.retained.toList = pushAll stockInterestingSummaries c.runIndex []
        (interesting c runs.summaries ++ runs.summaries.take stockInterestingSummaries) := by
  obtain ⟨first, hfirst⟩ := runs.head_eq_some
  refine Retention.finish_of_length hfirst ?_ runs.length_retained
  rw [runs.reduceOption_lowest, pushAll_append]
  rfl

/-- The selection finds the summaries of interest, and then takes the others in order. -/
theorem selectRuns_eq (empty runOrder : E) (room : Nat) :
    selectRuns c empty runOrder runs.summaries room
      = .ok (pushAll room id [] ((interesting c runs.summaries ++ runs.summaries).map c.runIndex)) := by
  have hordered : ¬runs.summaries.zipIdx.any fun entry ↦ c.runIndex entry.1 ≠ .ofNat entry.2 := by
    rw [List.any_eq_true]
    rintro ⟨⟨summary, index⟩, hmem, hother⟩
    have hsome : runs.summaries[index]? = some summary := List.mem_zipIdx_iff_getElem?.mp hmem
    obtain ⟨hlt, rfl⟩ := List.getElem?_eq_some_iff.mp hsome
    have hindex : c.runIndex runs.summaries[index] = .ofNat index :=
      UInt32.ofNat_toNat.symm.trans (congrArg UInt32.ofNat (runs.numbered index hlt))
    simp [hindex] at hother
  obtain ⟨first, hfirst⟩ := runs.head_eq_some
  unfold selectRuns
  cases hruns : runs.summaries with
  | nil =>
      rw [hruns] at hfirst
      cases hfirst
  | cons first rest =>
      rw [hruns] at hordered
      refine (reject_bind hordered _).trans ?_
      have hself (better : S → S → Prop) [DecidableRel better] (h : ¬better first first) :
          firstBest better first (first :: rest) = firstBest better first rest :=
        firstBest_cons_self h
      dsimp only
      rw [hself (fun a b ↦ c.insertion a < c.insertion b) Int32.lt_irrefl,
        hself (fun a b ↦ c.load a > c.load b) Int32.lt_irrefl,
        hself (fun a b ↦ c.navigation a > c.navigation b) Int32.lt_irrefl,
        List.map_append, pushAll_append]
      rfl

/-- Feeding the runs one by one keeps the summaries that the selection picks, in its order. -/
theorem retains_selected {E' : Type} (empty runOrder : E) (empty' runOrder' : E')
    (update : A → S → A) (aggregate : A) :
    ∃ r snapshot output,
      runs.summaries.foldlM (Retention.observe c runOrder update) (Retention.new aggregate) = .ok r
        ∧ Retention.finish c empty r = .ok snapshot
        ∧ selectRuns c empty' runOrder' runs.summaries stockInterestingSummaries = .ok output
        ∧ snapshot.retained.toList.map some = output.map fun run ↦ runs.summaries[run.toNat]? := by
  obtain ⟨snapshot, hfinish, hretained⟩ := runs.finish_gathered update aggregate empty
  have hfed := runs.foldlM_observe update aggregate runOrder (List.nil_append runs.summaries).symm
  rw [Retention.gathered_nil] at hfed
  refine ⟨_, snapshot, _, hfed, hfinish, runs.selectRuns_eq empty' runOrder' _, ?_⟩
  have hsame : pushAll stockInterestingSummaries id []
      ((interesting c runs.summaries ++ runs.summaries).map c.runIndex)
        = snapshot.retained.toList.map c.runIndex := by
    have hkeys := @map_pushAll S UInt32 _ stockInterestingSummaries c.runIndex []
      (interesting c runs.summaries ++ runs.summaries.take stockInterestingSummaries)
    have hfull := runs.length_retained
    rw [← List.length_map c.runIndex, hkeys] at hfull
    rw [hretained, hkeys]
    -- the summaries after the first few find the list full
    have hsplit : (interesting c runs.summaries ++ runs.summaries).map c.runIndex
        = (interesting c runs.summaries ++ runs.summaries.take stockInterestingSummaries).map c.runIndex
          ++ (runs.summaries.drop stockInterestingSummaries).map c.runIndex := by
      rw [← List.map_append, List.append_assoc, List.take_append_drop]
    rw [hsplit, pushAll_append]
    exact pushAll_of_full hfull
  rw [hsame, List.map_map]
  refine List.map_congr_left fun summary hmem ↦ (runs.getElem_runIndex ?_).symm
  rw [hretained] at hmem
  obtain hnone | hpushed := mem_of_mem_pushAll hmem
  · exact absurd hnone List.not_mem_nil
  · obtain hinteresting | htaken := List.mem_append.mp hpushed
    · exact mem_of_mem_interesting hinteresting
    · exact List.mem_of_mem_take htaken

end NumberedRuns

/-! ## The two campaigns -/

inductive RunOutcome where
  | stableOrbit
  | suborbital
  | impact
  | escape
  | abort
  | error
deriving DecidableEq

structure RunSummary where
  campaignCrc32 : UInt32
  scenarioId : UInt32
  runIndex : UInt32
  sensorSeed : UInt32
  variationChecksum : UInt32
  outcome : RunOutcome
  terminalStep : UInt32
  terminalRadiusQ12 : Int32
  terminalDownrangeQ32 : Int32
  terminalRadialVelocityQ24 : Int32
  terminalAngularMomentumQ14 : Int32
  terminalMassQ12 : Int32
  cutoffStep : UInt32
  cutoffRadiusQ12 : Int32
  cutoffDownrangeQ32 : Int32
  cutoffRadialVelocityQ24 : Int32
  cutoffAngularMomentumQ14 : Int32
  maxDynamicPressureQ16 : Int32
  maxProperAccelerationQ28 : Int32
  navigationPositionErrorQ12 : Int32
  navigationVelocityErrorQ24 : Int32
  truthChecksum : UInt32
  sensorChecksum : UInt32
  navigationChecksum : UInt32
  flightChecksum : UInt32
  alarms : UInt16
  flightMode : UInt8
  activeStage : UInt8
deriving DecidableEq

inductive StockError where
  | runOrder
  | empty
deriving DecidableEq

inductive SelectionError where
  | empty
  | runOrder
deriving DecidableEq

namespace StockRetention

def criteria : Criteria RunSummary where
  runIndex := RunSummary.runIndex
  insertion := RunSummary.cutoffRadiusQ12
  load := RunSummary.maxDynamicPressureQ16
  navigation := RunSummary.navigationPositionErrorQ12
  failed summary := summary.outcome ≠ .stableOrbit

def observe : (A → RunSummary → A) → Retention RunSummary A → RunSummary →
    Except StockError (Retention RunSummary A) := Retention.observe criteria .runOrder

def finish : Retention RunSummary A → Except StockError (RetentionSnapshot RunSummary A) :=
  Retention.finish criteria .empty

end StockRetention

def selectDetailedRuns : List RunSummary → Nat → Except SelectionError (List UInt32) :=
  selectRuns StockRetention.criteria .empty .runOrder

inductive Phase5MissionCase where
  | nominal
  | gustAndSlosh
  | starOutageAndGyroBias
  | gimbalJamAbort
  | dampingLossAbort
  | rcsLeakAndDepletion
deriving DecidableEq

inductive Phase5MissionOutcome where
  | stableOrbit
  | completeNotOrbit
  | aborted
  | numericFault
  | stepLimit
deriving DecidableEq

structure Phase5MissionSummary where
  case : Phase5MissionCase
  outcome : Phase5MissionOutcome
  steps : UInt32
  terminalPositionQ12 : Vector Int32 3
  terminalVelocityQ24 : Vector Int32 3
  perigeeAltitudeQ12 : Int32
  apogeeAltitudeQ12 : Int32
  inclinationTurn16 : UInt16
  maxDynamicPressureQ16 : Int32
  maxAoaSineQ16 : Int32
  maxFlexibleStateQ24 : Int32
  maxNavPositionErrorQ12 : Int32
  events : UInt16
  sensorChecksum : UInt32
  navigationChecksum : UInt32
  flightChecksum : UInt32
  summaryChecksum : UInt32
deriving DecidableEq

structure Phase5RunSummary where
  campaignSeed : UInt32
  runIndex : UInt32
  sensorSeed : UInt32
  variationChecksum : UInt32
  mission : Phase5MissionSummary
deriving DecidableEq

namespace Phase5StockRetention

def criteria : Criteria Phase5RunSummary where
  runIndex := Phase5RunSummary.runIndex
  insertion summary := summary.mission.perigeeAltitudeQ12
  load summary := summary.mission.maxDynamicPressureQ16
  navigation summary := summary.mission.maxNavPositionErrorQ12
  failed summary := summary.mission.outcome ≠ .stableOrbit

def observe : (A → Phase5RunSummary → A) → Retention Phase5RunSummary A → Phase5RunSummary →
    Except Phase5HistoryError (Retention Phase5RunSummary A) := Retention.observe criteria .sequence

def finish : Retention Phase5RunSummary A →
    Except Phase5HistoryError (RetentionSnapshot Phase5RunSummary A) :=
  Retention.finish criteria .sequence

end Phase5StockRetention

def selectPhase5Histories : List Phase5RunSummary → Nat → Except Phase5HistoryError (List UInt32) :=
  selectRuns Phase5StockRetention.criteria .sequence .sequence

end Ksa64.Sim
