import Ksa64.Sim.StockRetention

/-!
# Runs selected for their histories

From a list of summaries that is numbered in order, the runs of interest are selected first and the
others in order, each once and as many as there is room for.
-/

namespace Ksa64.Sim

open Ksa64.Library

section Selection

variable {S E : Type} {c : Criteria S} {summaries : List S} {room : Nat}

/-- Each summary has its place in the list as its number. -/
def InOrder (c : Criteria S) (summaries : List S) : Prop :=
  ∀ (i : Nat) (h : i < summaries.length), c.runIndex summaries[i] = .ofNat i

theorem outOfOrder_iff : (summaries.zipIdx.any fun entry ↦ c.runIndex entry.1 ≠ .ofNat entry.2) = true
    ↔ ¬InOrder c summaries := by
  rw [List.any_eq_true]
  constructor
  · rintro ⟨⟨summary, index⟩, hmem, hother⟩ horder
    obtain ⟨hlt, hvalue⟩ := List.getElem?_eq_some_iff.mp (List.mem_zipIdx_iff_getElem?.mp hmem)
    exact of_decide_eq_true hother (hvalue ▸ horder index hlt)
  · intro horder
    unfold InOrder at horder
    push Not at horder
    obtain ⟨index, hlt, hother⟩ := horder
    exact ⟨(summaries[index], index),
      List.mem_zipIdx_iff_getElem?.mpr (List.getElem?_eq_getElem hlt), decide_eq_true hother⟩

/-- The summaries of interest: the lowest insertion, the highest load and the largest navigation
error. -/
structure Extremes (c : Criteria S) (summaries : List S) (insertion load navigation : S) : Prop where
  insertion_mem : insertion ∈ summaries
  insertion_le : ∀ x ∈ summaries, c.insertion insertion ≤ c.insertion x
  load_mem : load ∈ summaries
  le_load : ∀ x ∈ summaries, c.load x ≤ c.load load
  navigation_mem : navigation ∈ summaries
  le_navigation : ∀ x ∈ summaries, c.navigation x ≤ c.navigation navigation

/-- The runs in the order of interest, and then all of them. -/
def wanted (c : Criteria S) (summaries : List S) (insertion load navigation : S) : List UInt32 :=
  0 :: c.runIndex insertion :: c.runIndex load :: c.runIndex navigation
    :: ((summaries.find? c.failed).toList ++ summaries).map c.runIndex

/-- The best of all, of two that are as good the earlier one. -/
theorem firstBest_all {better : S → S → Prop} [DecidableRel better]
    (hasymm : ∀ {a b}, better a b → ¬better b a)
    (htrans : ∀ {a b c}, ¬better a b → ¬better b c → ¬better a c) (first : S) (rest : List S) :
    firstBest better first (first :: rest) ∈ first :: rest ∧
      ∀ x ∈ first :: rest, ¬better x (firstBest better first (first :: rest)) := by
  rw [firstBest_cons_self (fun h ↦ hasymm h h)]
  exact ⟨firstBest_mem, not_better_firstBest hasymm htrans⟩

theorem firstBest_least (key : S → Int32) (first : S) (rest : List S) :
    firstBest (fun a b ↦ key a < key b) first (first :: rest) ∈ first :: rest ∧
      ∀ x ∈ first :: rest,
        key (firstBest (fun a b ↦ key a < key b) first (first :: rest)) ≤ key x := by
  obtain ⟨hmem, hbest⟩ := @firstBest_all S (fun a b ↦ key a < key b) _
    (fun h ↦ Int32.not_lt.mpr (Int32.le_of_lt h))
    (fun h h' ↦ Int32.not_lt.mpr (Int32.le_trans (Int32.not_lt.mp h') (Int32.not_lt.mp h)))
    first rest
  exact ⟨hmem, fun x hx ↦ Int32.not_lt.mp (hbest x hx)⟩

theorem firstBest_greatest (key : S → Int32) (first : S) (rest : List S) :
    firstBest (fun a b ↦ key a > key b) first (first :: rest) ∈ first :: rest ∧
      ∀ x ∈ first :: rest,
        key x ≤ key (firstBest (fun a b ↦ key a > key b) first (first :: rest)) := by
  obtain ⟨hmem, hbest⟩ := @firstBest_all S (fun a b ↦ key a > key b) _
    (fun h ↦ Int32.not_lt.mpr (Int32.le_of_lt h))
    (fun h h' ↦ Int32.not_lt.mpr (Int32.le_trans (Int32.not_lt.mp h) (Int32.not_lt.mp h')))
    first rest
  exact ⟨hmem, fun x hx ↦ Int32.not_lt.mp (hbest x hx)⟩

/-- The selection keeps what is wanted once, as far as there is room. -/
theorem selectRuns_eq_take (hne : summaries ≠ []) (horder : InOrder c summaries)
    (empty runOrder : E) : ∃ insertion load navigation,
      Extremes c summaries insertion load navigation ∧
      selectRuns c empty runOrder summaries room
        = .ok ((wanted c summaries insertion load navigation).eraseDups.take room) := by
  rcases summaries with - | ⟨first, rest⟩
  · exact absurd rfl hne
  obtain ⟨hinsertion, hleast⟩ := firstBest_least c.insertion first rest
  obtain ⟨hload, hgreatest⟩ := firstBest_greatest c.load first rest
  obtain ⟨hnavigation, hlargest⟩ := firstBest_greatest c.navigation first rest
  refine ⟨_, _, _, ⟨hinsertion, hleast, hload, hgreatest, hnavigation, hlargest⟩, ?_⟩
  have hzero : c.runIndex first = 0 := horder 0 (Nat.succ_pos _)
  unfold selectRuns
  dsimp only
  rw [reject_bind (mt outOfOrder_iff.mp (not_not_intro horder)), ← pushAll_append, pushAll_eq_take]
  unfold wanted Criteria.candidates
  rw [← hzero]
  cases (first :: rest).find? c.failed <;> rfl

/-- As many numbers as there are runs, until the numbers run out. -/
theorem length_eraseDups_numbers {numbers : List UInt32} {n : Nat}
    (h : ∀ run, run ∈ numbers ↔ run.toNat < n) : numbers.eraseDups.length = min n (2 ^ 32) := by
  have hnodup : (numbers.eraseDups.map UInt32.toNat).Nodup :=
    (nodup_eraseDups numbers).map fun _ _ ↦ UInt32.toNat_inj.mp
  have hperm : (numbers.eraseDups.map UInt32.toNat).Perm (List.range (min n (2 ^ 32))) := by
    rw [List.perm_ext_iff_of_nodup hnodup List.nodup_range]
    intro k
    rw [List.mem_map, List.mem_range]
    constructor
    · rintro ⟨run, hrun, rfl⟩
      exact lt_min ((h run).mp (List.mem_eraseDups.mp hrun)) run.toNat_lt
    · intro hk
      have hvalue : (UInt32.ofNat k).toNat = k :=
        UInt32.toNat_ofNat_of_lt' (hk.trans_le (min_le_right _ _))
      refine ⟨.ofNat k, List.mem_eraseDups.mpr ((h _).mpr ?_), hvalue⟩
      rw [hvalue]
      exact hk.trans_le (min_le_left _ _)
  have hlength := hperm.length_eq
  rwa [List.length_map, List.length_range] at hlength

/-- What is wanted is every run. -/
theorem mem_wanted (hne : summaries ≠ []) (horder : InOrder c summaries)
    {insertion load navigation : S} (h : Extremes c summaries insertion load navigation)
    (run : UInt32) :
    run ∈ wanted c summaries insertion load navigation ↔ run.toNat < summaries.length := by
  have hmember : ∀ x ∈ summaries, (c.runIndex x).toNat < summaries.length := by
    intro x hx
    obtain ⟨i, hi, rfl⟩ := List.mem_iff_getElem.mp hx
    rw [horder i hi]
    exact (Nat.mod_le _ _).trans_lt hi
  unfold wanted
  rw [List.mem_cons, List.mem_cons, List.mem_cons, List.mem_cons, List.mem_map]
  constructor
  · rintro (rfl | rfl | rfl | rfl | ⟨x, hx, rfl⟩)
    · exact List.length_pos_of_ne_nil hne
    · exact hmember _ h.insertion_mem
    · exact hmember _ h.load_mem
    · exact hmember _ h.navigation_mem
    · refine hmember x ?_
      obtain hfailed | hall := List.mem_append.mp hx
      · exact List.mem_of_find?_eq_some (Option.mem_toList.mp hfailed)
      · exact hall
  · intro hlt
    have hindex : c.runIndex summaries[run.toNat] = run :=
      (horder run.toNat hlt).trans (UInt32.ofNat_toNat)
    exact .inr (.inr (.inr (.inr ⟨summaries[run.toNat],
      List.mem_append_right _ (List.getElem_mem hlt), hindex⟩)))

end Selection

/-- Of a list that is numbered in order the runs of interest are selected first, in the order of
interest, and then the others, each once, until there is no more room; other lists are refused. -/
theorem selectDetailedRuns_sound (summaries : List RunSummary) (room : Nat) :
    (summaries = [] → selectDetailedRuns summaries room = .error .empty) ∧
    (summaries ≠ [] → ¬InOrder StockRetention.criteria summaries →
      selectDetailedRuns summaries room = .error .runOrder) ∧
    (summaries ≠ [] → InOrder StockRetention.criteria summaries →
      ∃ insertion load navigation output,
        Extremes StockRetention.criteria summaries insertion load navigation ∧
        selectDetailedRuns summaries room = .ok output ∧
        output = (wanted StockRetention.criteria summaries insertion load navigation).eraseDups.take
          room ∧
        output.Nodup ∧ output.length = min room (min summaries.length (2 ^ 32)) ∧
        ∀ run ∈ output, run.toNat < summaries.length) := by
  refine ⟨?_, ?_, ?_⟩
  · rintro rfl
    rfl
  · intro hne horder
    rcases summaries with - | ⟨first, rest⟩
    · exact absurd rfl hne
    · exact reject_bind_of_fails (outOfOrder_iff.mpr horder) _
  · intro hne horder
    obtain ⟨insertion, load, navigation, hextremes, hselect⟩ :=
      @selectRuns_eq_take _ _ StockRetention.criteria summaries room hne horder
        SelectionError.empty SelectionError.runOrder
    refine ⟨insertion, load, navigation, _, hextremes, hselect, rfl, ?_, ?_, ?_⟩
    · exact (nodup_eraseDups _).sublist (List.take_sublist _ _)
    · rw [List.length_take, length_eraseDups_numbers (mem_wanted hne horder hextremes)]
    · intro run hrun
      exact (mem_wanted hne horder hextremes run).mp
        (List.mem_eraseDups.mp (List.mem_of_mem_take hrun))

/-- A summary of the first run. -/
def baselineRun : RunSummary :=
  ⟨0, 0, 0, 0, 0, .stableOrbit, 0, 0, 0, 0, 0, 0, 0, 0, 0, 0, 0, 0, 0, 0, 0, 0, 0, 0, 0, 0, 0, 0⟩

theorem selectDetailedRuns_sound_baseline : [baselineRun] ≠ [] ∧
    ∃ insertion load navigation output,
      Extremes StockRetention.criteria [baselineRun] insertion load navigation ∧
      selectDetailedRuns [baselineRun] 5 = .ok output ∧
      output = (wanted StockRetention.criteria [baselineRun] insertion load navigation).eraseDups.take
        5 ∧
      output.Nodup ∧ output.length = min 5 (min [baselineRun].length (2 ^ 32)) ∧
      ∀ run ∈ output, run.toNat < [baselineRun].length :=
  ⟨List.cons_ne_nil _ _, (selectDetailedRuns_sound [baselineRun] 5).2.2 (List.cons_ne_nil _ _)
    (fun i h ↦ by
      obtain rfl : i = 0 := Nat.lt_one_iff.mp h
      rfl)⟩

/-- No runs are an error, so that none are selected of them. -/
theorem selectDetailedRuns_empty : ¬∀ (summaries : List RunSummary) (room : Nat),
    ∃ output, selectDetailedRuns summaries room = .ok output ∧
      output.length = min room summaries.length := by
  intro hall
  obtain ⟨output, hselect, -⟩ := hall [] 0
  cases hselect

end Ksa64.Sim
