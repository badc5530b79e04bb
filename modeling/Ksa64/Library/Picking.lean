import Mathlib.Data.List.Basic
import Mathlib.Data.List.Induction
import Mathlib.Data.List.Nodup
import Mathlib.Data.List.Perm.Subperm

/-!
# Picking from a list

Two ways to keep some elements of a list: the first of the best ones, and the first few distinct ones.
Both can be done at once or element by element.
-/

namespace Ksa64.Library

variable {α β : Type*}

/-! ## The first of the best -/

section Best

variable (better : α → α → Prop) [DecidableRel better]

/-- The element is taken if it is better, or if there is none yet. -/
def replaceIf (slot : Option α) (candidate : α) : Option α :=
  match slot with
  | none => some candidate
  | some current => some (if better candidate current then candidate else current)

/-- The first of the best elements, if the list is searched from its first element on. -/
def firstBest (first : α) (elements : List α) : α :=
  elements.foldl (fun current candidate ↦ if better candidate current then candidate else current) first

/-- The first of the best elements, if there is one. -/
def bestOf : List α → Option α
  | [] => none
  | first :: rest => some (firstBest better first rest)

variable {better} {first : α} {elements : List α}

/-- One more element is compared with what is best so far. -/
theorem bestOf_concat (candidate : α) :
    bestOf better (elements ++ [candidate]) = replaceIf better (bestOf better elements) candidate := by
  cases elements with
  | nil => rfl
  | cons first rest => exact congrArg some List.foldl_append

/-- Two comparisons that agree on the candidate. -/
theorem replaceIf_congr {other : α → α → Prop} [DecidableRel other] {slot : Option α} {candidate : α}
    (h : ∀ current ∈ slot, other candidate current ↔ better candidate current) :
    replaceIf other slot candidate = replaceIf better slot candidate := by
  cases slot with
  | none => rfl
  | some current => exact congrArg some (if_congr (h current rfl) rfl rfl)

theorem firstBest_mem : firstBest better first elements ∈ first :: elements := by
  induction elements generalizing first with
  | nil => exact List.mem_singleton.mpr rfl
  | cons element elements ih =>
      have hmem := @ih (if better element first then element else first)
      show firstBest better (if better element first then element else first) elements ∈ _
      obtain heq | hmem := List.mem_cons.mp hmem
      · rw [heq]
        split_ifs
        · exact List.mem_cons_of_mem _ List.mem_cons_self
        · exact List.mem_cons_self
      · exact List.mem_cons_of_mem _ (List.mem_cons_of_mem _ hmem)

theorem bestOf_mem {best : α} (h : best ∈ bestOf better elements) : best ∈ elements := by
  cases elements with
  | nil => cases h
  | cons first rest =>
      obtain rfl := Option.some_inj.mp h
      exact firstBest_mem

/-- Starting over at the first element makes no difference, if it is not better than itself. -/
theorem firstBest_cons_self (h : ¬better first first) :
    firstBest better first (first :: elements) = firstBest better first elements := by
  show firstBest better (if better first first then first else first) elements = _
  rw [if_neg h]

/-- Nothing is better than the best, if no element is better than one that is better than it and what
is not better than a second is not better than what the second does not beat. -/
theorem not_better_firstBest (hasymm : ∀ {a b}, better a b → ¬better b a)
    (htrans : ∀ {a b c}, ¬better a b → ¬better b c → ¬better a c) :
    ∀ x ∈ first :: elements, ¬better x (firstBest better first elements) := by
  induction elements generalizing first with
  | nil =>
      intro x hx
      obtain rfl := List.mem_singleton.mp hx
      exact fun h ↦ hasymm h h
  | cons element elements ih =>
      have hnext := @ih (if better element first then element else first)
      have hcurrent := hnext _ List.mem_cons_self
      show ∀ x ∈ first :: element :: elements,
        ¬better x (firstBest better (if better element first then element else first) elements)
      intro x hx
      rcases List.mem_cons.mp hx with rfl | hx
      · split_ifs at hcurrent ⊢ with h
        · exact htrans (hasymm h) hcurrent
        · exact hcurrent
      · rcases List.mem_cons.mp hx with rfl | hx
        · split_ifs at hcurrent ⊢ with h
          · exact hcurrent
          · exact htrans h hcurrent
        · exact hnext x (List.mem_cons_of_mem _ hx)

end Best

/-! ## The first few distinct ones -/

section Distinct

variable [DecidableEq β] (capacity : Nat) (key : α → β)

/-- The element is appended if there is room and no element with its key. -/
def pushUnique (kept : List α) (candidate : α) : List α :=
  if kept.length = capacity ∨ key candidate ∈ kept.map key then kept else kept ++ [candidate]

/-- Pushes in order. -/
def pushAll (kept : List α) (candidates : List α) : List α :=
  candidates.foldl (pushUnique capacity key) kept

variable {capacity key} {kept candidates : List α} {candidate : α}

/-- Only the keys decide. -/
theorem map_pushUnique : (pushUnique capacity key kept candidate).map key
    = pushUnique capacity id (kept.map key) (key candidate) := by
  unfold pushUnique
  rw [List.length_map, List.map_id, id_eq]
  split_ifs
  · rfl
  · exact List.map_append

theorem map_pushAll : (pushAll capacity key kept candidates).map key
    = pushAll capacity id (kept.map key) (candidates.map key) := by
  unfold pushAll
  induction candidates generalizing kept with
  | nil => rfl
  | cons candidate candidates ih =>
      rw [List.foldl_cons, ih, map_pushUnique]
      rfl

theorem pushAll_append (more : List α) : pushAll capacity key kept (candidates ++ more)
    = pushAll capacity key (pushAll capacity key kept candidates) more := List.foldl_append

theorem length_pushUnique_le (h : kept.length ≤ capacity) :
    (pushUnique capacity key kept candidate).length ≤ capacity := by
  unfold pushUnique
  split_ifs with hfull
  · exact h
  · rw [List.length_append, List.length_singleton]
    obtain ⟨hroom, -⟩ := not_or.mp hfull
    omega

theorem length_pushAll_le (h : kept.length ≤ capacity) :
    (pushAll capacity key kept candidates).length ≤ capacity := by
  unfold pushAll
  induction candidates generalizing kept with
  | nil => exact h
  | cons candidate candidates ih => exact ih (length_pushUnique_le h)

/-- Nothing is taken away again. -/
theorem subset_pushUnique : kept ⊆ pushUnique capacity key kept candidate := by
  unfold pushUnique
  split_ifs
  · exact List.Subset.refl _
  · exact List.subset_append_left _ _

theorem subset_pushAll : kept ⊆ pushAll capacity key kept candidates := by
  unfold pushAll
  induction candidates generalizing kept with
  | nil => exact List.Subset.refl _
  | cons candidate candidates ih => exact List.Subset.trans subset_pushUnique ih

theorem pushUnique_subset : pushUnique capacity key kept candidate ⊆ candidate :: kept := by
  unfold pushUnique
  split_ifs
  · exact List.subset_cons_self _ _
  · intro x hx
    rw [List.mem_append, List.mem_singleton] at hx
    exact List.mem_cons.mpr hx.symm

/-- Everything kept was there or was pushed. -/
theorem mem_of_mem_pushAll {x : α} (h : x ∈ pushAll capacity key kept candidates) :
    x ∈ kept ∨ x ∈ candidates := by
  unfold pushAll at h
  induction candidates generalizing kept with
  | nil => exact .inl h
  | cons candidate candidates ih =>
      obtain hmem | hmem := ih h
      · obtain rfl | hkept := List.mem_cons.mp (pushUnique_subset hmem)
        · exact .inr List.mem_cons_self
        · exact .inl hkept
      · exact .inr (List.mem_cons_of_mem _ hmem)

/-- A full list stays as it is. -/
theorem pushAll_of_full (h : kept.length = capacity) : pushAll capacity key kept candidates = kept := by
  unfold pushAll
  induction candidates with
  | nil => rfl
  | cons candidate candidates ih =>
      rw [List.foldl_cons, pushUnique, if_pos (.inl h)]
      exact ih

/-- If there is still room at the end, the key of everything that was pushed is there. -/
theorem key_mem_of_room (h : kept.length ≤ capacity)
    (hroom : (pushAll capacity key kept candidates).length < capacity) :
    ∀ x ∈ candidates, key x ∈ (pushAll capacity key kept candidates).map key := by
  unfold pushAll at hroom ⊢
  induction candidates generalizing kept with
  | nil => exact fun _ hx ↦ absurd hx List.not_mem_nil
  | cons candidate candidates ih =>
      intro x hx
      have hnext := ih (length_pushUnique_le h) hroom
      obtain rfl | hmem := List.mem_cons.mp hx
      · have hpushed : key x ∈ (pushUnique capacity key kept x).map key := by
          unfold pushUnique
          split_ifs with hfull
          · obtain hfull | hthere := hfull
            · -- a full list would have stayed full
              have hstill : (x :: candidates).foldl (pushUnique capacity key) kept = kept :=
                pushAll_of_full hfull
              rw [hstill] at hroom
              omega
            · exact hthere
          · rw [List.map_append]
            exact List.mem_append_right _ List.mem_cons_self
        have hkept : pushUnique capacity key kept x
            ⊆ pushAll capacity key (pushUnique capacity key kept x) candidates := subset_pushAll
        exact List.map_subset key hkept hpushed
      · exact hnext x hmem

/-- As many distinct keys as there is room for fill the list. -/
theorem length_pushAll_of_nodup (h : kept.length ≤ capacity) (hnodup : (candidates.map key).Nodup)
    (hmany : capacity ≤ candidates.length) :
    (pushAll capacity key kept candidates).length = capacity := by
  refine Nat.le_antisymm (length_pushAll_le h) (Nat.not_lt.mp fun hroom ↦ ?_)
  have hsub : candidates.map key ⊆ (pushAll capacity key kept candidates).map key := by
    intro x hx
    obtain ⟨candidate, hmem, rfl⟩ := List.mem_map.mp hx
    exact key_mem_of_room h hroom candidate hmem
  have hle := (List.subperm_of_subset hnodup hsub).length_le
  rw [List.length_map, List.length_map] at hle
  omega

/-- An element that is new is appended, and another is not. -/
theorem eraseDups_concat [DecidableEq α] (l : List α) (x : α) :
    (l ++ [x]).eraseDups = if x ∈ l then l.eraseDups else l.eraseDups ++ [x] := by
  rw [List.eraseDups_append]
  split_ifs with h
  · rw [List.removeAll, List.filter_cons_of_neg (by simpa using h), List.filter_nil,
      List.eraseDups_nil, List.append_nil]
  · rw [List.removeAll, List.filter_cons_of_pos (by simpa using h), List.filter_nil,
      List.eraseDups_cons, List.filter_nil, List.eraseDups_nil]

theorem nodup_eraseDups [DecidableEq α] (l : List α) : l.eraseDups.Nodup := by
  induction l using List.reverseRecOn with
  | nil => exact List.nodup_nil
  | append_singleton l x ih =>
      rw [eraseDups_concat]
      split_ifs with h
      · exact ih
      · rw [List.nodup_append]
        refine ⟨ih, List.nodup_singleton x, ?_⟩
        rintro a ha b hb rfl
        obtain rfl := List.mem_singleton.mp hb
        exact h (List.mem_eraseDups.mp ha)

/-- What is pushed is kept once, as far as there is room. -/
theorem pushAll_eq_take [DecidableEq α] (l : List α) :
    pushAll capacity id [] l = l.eraseDups.take capacity := by
  induction l using List.reverseRecOn with
  | nil => exact List.take_nil.symm
  | append_singleton l x ih =>
      rw [pushAll_append, ih, eraseDups_concat]
      show pushUnique capacity id (l.eraseDups.take capacity) x = _
      unfold pushUnique
      rw [List.map_id, id_eq, List.length_take]
      obtain hroom | hfull := Nat.lt_or_ge l.eraseDups.length capacity
      · rw [List.take_of_length_le (Nat.le_of_lt hroom)]
        by_cases h : x ∈ l
        · rw [if_pos (.inr (List.mem_eraseDups.mpr h)), if_pos h,
            List.take_of_length_le (Nat.le_of_lt hroom)]
        · rw [if_neg, if_neg h, List.take_of_length_le]
          · rw [List.length_append, List.length_singleton]
            exact hroom
          · rintro (hfull | hmem)
            · omega
            · exact h (List.mem_eraseDups.mp hmem)
      · rw [if_pos (.inl (by omega))]
        split_ifs
        · rfl
        · rw [List.take_append_of_le_length hfull]

end Distinct

end Ksa64.Library
