import Mathlib.Data.List.Nodup
import Mathlib.Data.List.Perm.Basic
import Mathlib.Algebra.Order.Ring.Int
import Mathlib.Tactic.Common

/-!
# Workers whose results arrive in any order

Jobs are dealt out to workers in turn (`dealt`), each worker sends its results in order, and they
arrive interleaved (`merge`).  Every job is done once, whatever the interleaving (`arrivals_perm`),
so results that are collected under distinct keys in an ordered map are the same as those of one
worker that does all the jobs in order (`collect_perm`).
-/

namespace Ksa64.Library

universe u v w

variable {α : Type u} {κ : Type v} {ε : Type w} {γ : Type*}

/-! ## Dealing out -/

/-- The numbers from `start` below `stop`, in steps. -/
def stepBy (start stop stride : Nat) : List Nat :=
  if start < stop ∧ 0 < stride then start :: stepBy (start + stride) stop stride else []
termination_by stop - start

theorem mem_stepBy {start stop stride i : Nat} (hstride : 0 < stride) :
    i ∈ stepBy start stop stride ↔ i < stop ∧ ∃ k, i = start + k * stride := by
  fun_induction stepBy start stop stride with
  | case1 start h ih =>
      rw [List.mem_cons, ih]
      constructor
      · rintro (rfl | ⟨hlt, k, rfl⟩)
        · exact ⟨h.1, 0, by omega⟩
        · exact ⟨hlt, k + 1, by rw [Nat.add_mul]; omega⟩
      · rintro ⟨hlt, k, rfl⟩
        cases k with
        | zero => exact .inl (by omega)
        | succ k => exact .inr ⟨hlt, k, by rw [Nat.add_mul]; omega⟩
  | case2 start h =>
      refine iff_of_false List.not_mem_nil ?_
      rintro ⟨hlt, k, rfl⟩
      exact h ⟨Nat.lt_of_le_of_lt (Nat.le_add_right _ _) hlt, hstride⟩

theorem nodup_stepBy (start stop stride : Nat) : (stepBy start stop stride).Nodup := by
  fun_induction stepBy start stop stride with
  | case1 start h ih =>
      refine List.nodup_cons.mpr ⟨fun hmem ↦ ?_, ih⟩
      obtain ⟨-, k, hk⟩ := (mem_stepBy h.2).mp hmem
      omega
  | case2 start h => exact List.nodup_nil

/-- The indices that the workers take between them are those of the jobs, each once. -/
theorem flatMap_stepBy_perm (length : Nat) {workers : Nat} (hworkers : 0 < workers) :
    ((List.range workers).flatMap fun worker ↦ stepBy worker length workers).Perm
      (List.range length) := by
  have hmod {worker i : Nat} (hlt : worker < workers) (hmem : i ∈ stepBy worker length workers) :
      i % workers = worker := by
    obtain ⟨-, k, rfl⟩ := (mem_stepBy hworkers).mp hmem
    rw [Nat.add_mul_mod_self_right, Nat.mod_eq_of_lt hlt]
  refine (List.perm_ext_iff_of_nodup ?_ List.nodup_range).mpr fun i ↦ ?_
  · refine List.nodup_flatMap.mpr ⟨fun worker _ ↦ nodup_stepBy worker length workers, ?_⟩
    refine List.nodup_range.pairwise_of_forall_ne fun first hfirst second hsecond hne i hi hi' ↦ ?_
    rw [List.mem_range] at hfirst hsecond
    exact hne ((hmod hfirst hi).symm.trans (hmod hsecond hi'))
  · rw [List.mem_flatMap, List.mem_range]
    constructor
    · rintro ⟨worker, -, hmem⟩
      exact ((mem_stepBy hworkers).mp hmem).1
    · intro hlt
      refine ⟨i % workers, List.mem_range.mpr (Nat.mod_lt _ hworkers), ?_⟩
      refine (mem_stepBy hworkers).mpr ⟨hlt, i / workers, ?_⟩
      rw [Nat.mul_comm]
      exact (Nat.mod_add_div i workers).symm

/-- The jobs of a worker. -/
def dealt (jobs : List α) (workers worker : Nat) : List α :=
  (stepBy worker jobs.length workers).filterMap (jobs[·]?)

theorem filterMap_getElem?_range (jobs : List α) :
    (List.range jobs.length).filterMap (jobs[·]?) = jobs := by
  induction jobs with
  | nil => rfl
  | cons job jobs ih =>
      rw [List.length_cons, List.range_succ_eq_map, List.filterMap_cons, List.filterMap_map]
      exact congrArg (job :: ·) ih

theorem flatMap_dealt_perm (jobs : List α) {workers : Nat} (hworkers : 0 < workers) :
    ((List.range workers).flatMap (dealt jobs workers)).Perm jobs := by
  have hperm := (flatMap_stepBy_perm jobs.length hworkers).filterMap (jobs[·]?)
  rw [filterMap_getElem?_range, List.filterMap_flatMap] at hperm
  exact hperm

/-! ## Arrivals -/

/-- The messages of several queues as they arrive, if the next of queue `pick` arrives for each
`pick`, and then whatever is left. -/
def merge : List Nat → List (List α) → List α
  | [], queues => queues.flatten
  | pick :: picks, queues =>
      match queues[pick]? with
      | some (message :: rest) => message :: merge picks (queues.set pick rest)
      | _ => merge picks queues

theorem flatten_set_perm {queues : List (List α)} {pick : Nat} {message : α} {rest : List α}
    (h : queues[pick]? = some (message :: rest)) :
    (message :: (queues.set pick rest).flatten).Perm queues.flatten := by
  induction queues generalizing pick with
  | nil => cases h
  | cons queue queues ih =>
      cases pick with
      | zero =>
          cases h
          exact List.Perm.refl _
      | succ pick =>
          rw [List.set_cons_succ, List.flatten_cons, List.flatten_cons]
          exact List.perm_middle.symm.trans ((ih h).append_left queue)

/-- Nothing is lost and nothing comes twice. -/
theorem merge_perm (picks : List Nat) (queues : List (List α)) :
    (merge picks queues).Perm queues.flatten := by
  fun_induction merge picks queues with
  | case1 queues => exact List.Perm.refl _
  | case2 queues pick picks message rest hpick ih => exact (ih.cons message).trans (flatten_set_perm hpick)
  | case3 queues pick picks _ ih => exact ih

/-- Every order in which messages may arrive that keeps the order of each queue. -/
inductive Interleaves : List (List α) → List α → Prop where
  | done {queues : List (List α)} (h : ∀ queue ∈ queues, queue = []) : Interleaves queues []
  | next {queues : List (List α)} {pick : Nat} {message : α} {rest arrived : List α}
      (h : queues[pick]? = some (message :: rest)) (hrest : Interleaves (queues.set pick rest) arrived) :
      Interleaves queues (message :: arrived)

/-- Every order is one that some picks lead to. -/
theorem Interleaves.exists_merge_eq {queues : List (List α)} {arrived : List α}
    (h : Interleaves queues arrived) : ∃ picks, merge picks queues = arrived := by
  induction h with
  | done h => exact ⟨[], List.flatten_eq_nil_iff.mpr h⟩
  | @next queues pick message rest arrived hpick _ ih =>
      obtain ⟨picks, hpicks⟩ := ih
      refine ⟨pick :: picks, ?_⟩
      rw [merge, hpick]
      exact congrArg (message :: ·) hpicks

/-! ## Results

Two computations have the same result if `toOption` makes them equal: one may fail with another
error than the other.
-/

section Results

theorem toOption_eq_some {x : Except ε α} {a : α} : x.toOption = some a ↔ x = .ok a := by
  cases x with
  | error error => exact ⟨nofun, nofun⟩
  | ok b => exact ⟨fun h ↦ congrArg _ (Option.some.inj h), fun h ↦ congrArg _ (Except.ok.inj h)⟩

variable {β γ : Type u}

theorem toOption_bind_congr {x y : Except ε β} {f g : β → Except ε γ}
    (h : x.toOption = y.toOption) (hfg : ∀ b, (f b).toOption = (g b).toOption) :
    (x >>= f).toOption = (y >>= g).toOption := by
  cases x with
  | error error =>
      cases y with
      | error error' => rfl
      | ok b => cases h
  | ok b =>
      cases y with
      | error error => cases h
      | ok b' =>
          cases h
          exact hfg b

theorem toOption_foldlM_congr {f g : β → α → Except ε β}
    (h : ∀ b a, (f b a).toOption = (g b a).toOption) (items : List α) (init : β) :
    (items.foldlM f init).toOption = (items.foldlM g init).toOption := by
  induction items generalizing init with
  | nil => rfl
  | cons item items ih =>
      rw [List.foldlM_cons, List.foldlM_cons]
      exact toOption_bind_congr (h init item) ih

/-- A loop over the positions of a list is a loop over the list. -/
theorem foldlM_range_getElem? {f : β → α → Except ε β} {lost : Except ε β} (items : List α) (init : β) :
    (List.range items.length).foldlM (fun b i ↦ items[i]?.elim lost (f b)) init = items.foldlM f init := by
  induction items generalizing init with
  | nil => rfl
  | cons item items ih =>
      rw [List.length_cons, List.range_succ_eq_map, List.foldlM_cons, List.foldlM_cons]
      refine congrArg (f init item >>= ·) (funext fun b ↦ ?_)
      rw [List.foldlM_map]
      exact ih b

end Results

/-! ## Collecting -/

/-- The results that are no errors. -/
def answers (messages : List (κ × Except ε α)) : List (κ × α) :=
  messages.filterMap fun message ↦ message.2.toOption.map (message.1, ·)

theorem keys_answers_sublist (messages : List (κ × Except ε α)) :
    ((answers messages).map Prod.fst).Sublist (messages.map Prod.fst) := by
  induction messages with
  | nil => exact List.Sublist.refl _
  | cons message messages ih =>
      obtain ⟨key, result⟩ := message
      cases result with
      | error error => exact ih.cons key
      | ok a => exact ih.cons_cons key

/-- What the workers send, as it arrives. -/
def arrivals (answer : γ → α) (jobs : List γ) (workers : Nat) (picks : List Nat) : List α :=
  merge picks ((List.range workers).map fun worker ↦ (dealt jobs workers worker).map answer)

/-- Every job is answered once, in whatever order. -/
theorem arrivals_perm (answer : γ → α) (jobs : List γ) {workers : Nat} (hworkers : 0 < workers)
    (picks : List Nat) : (arrivals answer jobs workers picks).Perm (jobs.map answer) := by
  have hflatten : ((List.range workers).map fun worker ↦ (dealt jobs workers worker).map answer).flatten =
      ((List.range workers).flatMap (dealt jobs workers)).map answer := by
    rw [List.map_flatMap, List.flatMap_def]
  refine (merge_perm picks _).trans ?_
  rw [hflatten]
  exact (flatMap_dealt_perm jobs hworkers).map answer

section Collect

variable [Ord κ] [Std.TransOrd κ]

/-- What arrives, under its key, unless a result is an error. -/
def collect (messages : List (κ × Except ε α)) : Except ε (Std.ExtTreeMap κ α) :=
  messages.foldlM (fun collected message ↦ message.2.map (collected.insert message.1)) ∅

theorem collect_eq_ok {messages : List (κ × Except ε α)} {collected : Std.ExtTreeMap κ α} :
    collect messages = .ok collected ↔
      (∀ message ∈ messages, ∃ a, message.2 = .ok a)
        ∧ (answers messages).foldl (fun map answer ↦ map.insert answer.1 answer.2) ∅ = collected := by
  unfold collect
  generalize (∅ : Std.ExtTreeMap κ α) = map
  induction messages generalizing map with
  | nil => exact ⟨fun h ↦ ⟨fun _ hmem ↦ (nomatch hmem), Except.ok.inj h⟩, fun h ↦ congrArg _ h.2⟩
  | cons message messages ih =>
      obtain ⟨key, result⟩ := message
      cases result with
      | error error =>
          refine iff_of_false (fun h ↦ by cases h) fun h ↦ ?_
          obtain ⟨a, ha⟩ := h.1 _ List.mem_cons_self
          cases ha
      | ok a =>
          rw [List.foldlM_cons, List.forall_mem_cons]
          refine (ih (map.insert key a)).trans (and_congr_left fun _ ↦ ?_)
          exact (and_iff_right ⟨a, rfl⟩).symm

variable [Std.LawfulEqOrd κ]

/-- Insertions under different keys commute. -/
theorem insert_insert_comm (map : Std.ExtTreeMap κ α) {first second : κ} (h : first ≠ second)
    (a b : α) : (map.insert first a).insert second b = (map.insert second b).insert first a := by
  refine Std.ExtTreeMap.ext_getElem? fun key ↦ ?_
  rw [Std.ExtTreeMap.getElem?_insert, Std.ExtTreeMap.getElem?_insert, Std.ExtTreeMap.getElem?_insert,
    Std.ExtTreeMap.getElem?_insert]
  split_ifs with hsecond hfirst
  · exact absurd ((Std.LawfulEqOrd.eq_of_compare hfirst).trans
      (Std.LawfulEqOrd.eq_of_compare hsecond).symm) h
  · rfl
  · rfl
  · rfl

/-- What is collected under distinct keys does not depend on the order of arrival. -/
theorem collect_perm {first second : List (κ × Except ε α)} (h : first.Perm second)
    (hkeys : (first.map Prod.fst).Nodup) :
    (collect first).toOption = (collect second).toOption := by
  have hdistinct : ∀ a ∈ answers first, ∀ b ∈ answers first, a ≠ b → a.1 ≠ b.1 :=
    fun a ha b hb hne heq ↦ hne (List.inj_on_of_nodup_map (hkeys.sublist (keys_answers_sublist first)) ha hb heq)
  have hfold : (answers first).foldl (fun map answer ↦ map.insert answer.1 answer.2)
      (∅ : Std.ExtTreeMap κ α) =
        (answers second).foldl (fun map answer ↦ map.insert answer.1 answer.2) ∅ := by
    refine (h.filterMap _).foldl_eq' (fun a ha b hb map ↦ ?_) _
    by_cases hab : a = b
    · rw [hab]
    · exact insert_insert_comm map (hdistinct a ha b hb hab) _ _
  refine Option.ext fun collected ↦ ?_
  rw [toOption_eq_some, toOption_eq_some, collect_eq_ok, collect_eq_ok, hfold]
  exact and_congr_left fun _ ↦ forall_congr' fun message ↦ imp_congr_left h.mem_iff

end Collect

end Ksa64.Library
