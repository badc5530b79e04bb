import Mathlib.Algebra.Order.Ring.Abs
import Mathlib.Algebra.Order.Ring.Int
import Mathlib.Data.List.Perm.Subperm
import Mathlib.Tactic.Linarith
import Ksa64.Flight.Allocator

/-!
# Allocations are within the limits

Every command of an allocation is within the limit of its effector, and zero if the effector cannot
be used; what is achieved about an axis is within the authorities of the groups that could be used,
and the residual is what is left of the request, in the range of a word
(`allocations_within_limits`).
-/

namespace Ksa64.Flight

open Ksa64.Library

attribute [local instance] neZero_groups

/-! ## Scaling -/

section Scaling

variable {low high value : Int}

theorem le_clampTo : low ≤ clampTo low high value := le_max_left _ _

theorem clampTo_le (h : low ≤ high) : clampTo low high value ≤ high :=
  max_le h (min_le_left _ _)

/-- A number is rounded to at most as many units as it is scaled by. -/
theorem abs_roundShift_le {a r : Int} (ha : 0 ≤ a) (hr : |r| ≤ 2 ^ 15) :
    |roundShift (a * r) 15| ≤ a := by
  have hbound : |a * r| ≤ a * 2 ^ 15 := by
    rw [abs_mul, abs_of_nonneg ha]
    exact mul_le_mul_of_nonneg_left hr ha
  have hbounds := abs_le.mp hbound
  unfold roundShift
  rw [abs_le]
  split_ifs with hsign
  · generalize a * r = p at *
    constructor <;> omega
  · generalize a * r = p at *
    constructor <;> omega

/-- What is scaled by a ratio of at most one. -/
theorem abs_scaleQ15_le {value scale : Int32} (hvalue : 0 ≤ value.toInt)
    (hscale : |scale.toInt| ≤ 2 ^ 15) : |(scaleQ15 value scale).toInt| ≤ value.toInt := by
  have hround := abs_le.mp (abs_roundShift_le hvalue hscale)
  unfold scaleQ15
  rw [toInt_clampI32, abs_le]
  constructor <;> omega

theorem toInt_ofInt32 (hlow : -2 ^ 31 ≤ value) (hhigh : value < 2 ^ 31) :
    (Int32.ofInt value).toInt = value := Int32.toInt_ofInt_of_le hlow hhigh

/-- A ratio that has been clamped. -/
theorem abs_ratio_le : |(Int32.ofInt (clampTo (-32768) 32767 value)).toInt| ≤ 2 ^ 15 := by
  have hlow := @le_clampTo (-32768) 32767 value
  have hhigh := @clampTo_le (-32768) 32767 value (by decide)
  rw [toInt_ofInt32 (by omega) (by omega), abs_le]
  omega

/-- Saturating a sum does not make it larger. -/
theorem abs_addSatI32_le {a b : Int32} : |(addSatI32 a b).toInt| ≤ |a.toInt| + |b.toInt| := by
  have hsum := abs_le.mp (abs_add_le a.toInt b.toInt)
  have ha := abs_nonneg a.toInt
  have hb := abs_nonneg b.toInt
  rw [toInt_addSatI32, abs_le]
  omega

end Scaling

/-! ## Groups -/

section Groups

variable {n : Nat} {residual authority : PerAxis Int32} {mix : Mix n} {limits : Fin n → Int16}
  {mask : UInt8}

theorem abs_predictContinuous_le {actual : Fin n → Int32} {axis : Fin 3}
    (h : 0 ≤ (authority axis).toInt) :
    |(predictContinuous actual authority mix axis).toInt| ≤ (authority axis).toInt := by
  unfold predictContinuous
  dsimp only
  split_ifs with hzero hnorm
  · exact h
  · exact abs_scaleQ15_le h abs_ratio_le
  · exact h

theorem abs_predictRcs_le {actual : Fin 12 → Int32} {mix : Mix 12} {axis : Fin 3}
    (h : 0 ≤ (authority axis).toInt) :
    |(predictRcs actual authority mix axis).toInt| ≤ (authority axis).toInt := by
  unfold predictRcs
  dsimp only
  split_ifs with hzero hpositive
  · exact h
  · exact abs_scaleQ15_le h abs_ratio_le
  · exact h

/-- A deflection is within the limit. -/
theorem abs_command_le {limit : Int16} {normalized : Int32} (h : 0 < limit) :
    |(Int16.ofInt (physicalDeflection limit normalized)).toInt| ≤ limit.toInt := by
  have hpos : 0 < limit.toInt := Int16.lt_iff_toInt_lt.mp h
  have hmax := Int16.toInt_lt limit
  have hlow := @le_clampTo (-limit.toInt) limit.toInt (scaleQ15 limit.toInt32 normalized).toInt
  have hhigh := @clampTo_le (-limit.toInt) limit.toInt (scaleQ15 limit.toInt32 normalized).toInt
    (by omega)
  unfold physicalDeflection
  rw [Int16.toInt_ofInt_of_le (by omega) (by omega), abs_le]
  exact ⟨hlow, hhigh⟩

/-- The whole quanta are at most the most that a jet can do. -/
theorem wholeQuanta_le {accumulated : Int32} {maximum : UInt8} :
    wholeQuanta accumulated maximum ≤ maximum := by
  have hmax := maximum.toNat_lt
  have hhigh := @clampTo_le 0 maximum.toNat (accumulated.toInt / 2 ^ 15) (by omega)
  unfold wholeQuanta
  rw [UInt8.le_iff_toNat_le, UInt8.toNat_ofNat_of_lt' (by
    show _ < 2 ^ 8
    omega)]
  omega

end Groups

/-! ## The cascade -/

/-- What of the validity of a configuration the allocations rest on. -/
structure AdvancedAllocatorConfig.Valid (config : AdvancedAllocatorConfig) : Prop where
  known : ∀ p ∈ config.priorities.toList, 1 ≤ p ∧ p ≤ 3
  distinct : config.priorities.toList.Nodup
  authority : ∀ axis group, 0 ≤ config.groupAuthorityQ12 axis group
  gimbal : config.hasGimbal → ∀ i, 0 < config.gimbalLimitTurn16 i
  canards : config.hasCanards → ∀ i, 0 < config.canardLimitTurn16 i
  rcs : config.hasRcs → ∀ i, 0 < config.rcsMaxQuanta i ∧ config.rcsMaxQuanta i ≤ 8

theorem AdvancedAllocatorConfig.valid_of_isValid {config : AdvancedAllocatorConfig}
    (h : config.isValid) : config.Valid := by
  simp only [isValid, Bool.and_eq_true, Bool.or_eq_true, Bool.not_eq_true', List.all_eq_true,
    decide_eq_true_eq] at h
  obtain ⟨⟨⟨⟨⟨⟨⟨⟨⟨⟨hknown, hdistinct⟩, -⟩, -⟩, -⟩, -⟩, -⟩, hauthority⟩, hgimbal⟩, hcanards⟩, hrcs⟩ := h
  have hpresent : ∀ {flag : Bool} {p : Prop}, flag = false ∨ p → flag = true → p := by
    intro flag p hor hflag
    rcases hor with hfalse | hp
    · exact absurd (hflag.symm.trans hfalse) (by decide)
    · exact hp
  exact ⟨hknown, hdistinct, hauthority, hpresent hgimbal, hpresent hcanards, hpresent hrcs⟩

namespace PriorityResidualAllocator

variable {a : PriorityResidualAllocator} {feedback : AllocatorFeedback} {weight : UInt16}
  {av : Available} {demand : PerAxis Int32} {c : Cascade}

/-- What the group with a priority may achieve about an axis. -/
def share (a : PriorityResidualAllocator) (weight : UInt16) (av : Available) (axis : Fin 3)
    (priority : UInt8) : Int :=
  if priority = groupGimbal ∧ av.gimbal then (a.authority 0 32768 axis).toInt
  else if priority = groupCanard ∧ av.canard then (a.authority 1 weight axis).toInt
  else if priority = groupRcs ∧ av.rcs then (a.authority 2 32768 axis).toInt
  else 0

/-- The sum of the authorities that are available about an axis. -/
def availableAuthority (a : PriorityResidualAllocator) (weight : UInt16) (av : Available)
    (axis : Fin 3) : Int :=
  (if av.gimbal then (a.authority 0 32768 axis).toInt else 0)
    + (if av.canard then (a.authority 1 weight axis).toInt else 0)
    + if av.rcs then (a.authority 2 32768 axis).toInt else 0

/-- The commands are within the limits of the effectors, and those that cannot be used get none. -/
structure Commanded (a : PriorityResidualAllocator) (feedback : AllocatorFeedback) (av : Available)
    (out : AllocationResult) : Prop where
  gimbal_le : a.config.hasGimbal → ∀ i,
    |(out.gimbal i).toInt| ≤ (a.config.gimbalLimitTurn16 i).toInt
  canards_le : a.config.hasCanards → ∀ i,
    |(out.canards i).toInt| ≤ (a.config.canardLimitTurn16 i).toInt
  quanta_le : ∀ i, out.rcsPulseQuanta i ≤ a.config.rcsMaxQuanta i
  gimbal_zero : ∀ i, ¬(av.gimbal ∧ healthy8 feedback.gimbalHealthyMask i.val) → out.gimbal i = 0
  canards_zero : ∀ i, ¬(av.canard ∧ healthy8 feedback.canardHealthyMask i.val) → out.canards i = 0
  quanta_zero : ∀ i, ¬(av.rcs ∧ healthy16 feedback.rcsHealthyMask i.val) →
    out.rcsPulseQuanta i = 0

/-- What an allocation has achieved with the authorities so far. -/
structure Achieved (demand : PerAxis Int32) (bound : Fin 3 → Int) (out : AllocationResult) :
    Prop where
  requested : out.requestedQ12 = demand
  residual : ∀ axis, out.residualQ12 axis = subSatI32 (demand axis) (out.achievedQ12 axis)
  bounded : ∀ axis, |(out.achievedQ12 axis).toInt| ≤ bound axis

theorem authority_nonneg (hvalid : a.config.Valid) {group : Fin 3} {axis : Fin 3} :
    0 ≤ (a.authority group weight axis).toInt := by
  have hauthority := Int32.le_iff_toInt_le.mp (hvalid.authority axis group)
  have hzero : (0 : Int32).toInt = 0 := rfl
  have hweight := weight.toNat_lt
  unfold authority scaleQ15 roundShift
  rw [toInt_clampI32, toInt_ofInt32 (by omega) (by omega)]
  have hproduct : 0 ≤ (a.config.groupAuthorityQ12 axis group).toInt * (weight.toNat : Int) :=
    mul_nonneg (by omega) (by omega)
  rw [if_pos hproduct]
  omega

/-- A group whose turn it is adds at most its authority. -/
theorem Achieved.applyGroup {bound : Fin 3 → Int} {out : AllocationResult}
    {achieved : PerAxis Int32} {saturation : UInt16} {limit : Fin 3 → Int}
    (h : Achieved demand bound out) (hachieved : ∀ axis, |(achieved axis).toInt| ≤ limit axis) :
    Achieved demand (fun axis ↦ bound axis + limit axis) (applyGroup out achieved saturation) where
  requested := h.requested
  residual := by
    intro axis
    show subSatI32 (out.requestedQ12 axis) _ = _
    rw [h.requested]
    rfl
  bounded := by
    intro axis
    have hsum := @abs_addSatI32_le (out.achievedQ12 axis) (achieved axis)
    have hbefore := h.bounded axis
    have hgroup := hachieved axis
    show |(addSatI32 (out.achievedQ12 axis) (achieved axis)).toInt| ≤ _
    linarith only [hsum, hbefore, hgroup]

theorem Achieved.mono {bound bound' : Fin 3 → Int} {out : AllocationResult}
    (h : Achieved demand bound out) (hle : ∀ axis, bound axis ≤ bound' axis) :
    Achieved demand bound' out :=
  ⟨h.requested, h.residual, fun axis ↦ (h.bounded axis).trans (hle axis)⟩

/-- What an allocation does with groups of the priorities so far. -/
structure Allocates (a : PriorityResidualAllocator) (feedback : AllocatorFeedback) (weight : UInt16)
    (av : Available) (demand : PerAxis Int32) (priorities : List UInt8) (out : AllocationResult) :
    Prop where
  commanded : Commanded a feedback av out
  achieved : Achieved demand (fun axis ↦ (priorities.map (a.share weight av axis)).sum) out

section Turn

variable {done : List UInt8} {priority : UInt8} {out : AllocationResult}

/-- What has been achieved after one more turn. -/
theorem Achieved.turn {achieved : PerAxis Int32} {saturation : UInt16}
    (h : Achieved demand (fun axis ↦ (done.map (a.share weight av axis)).sum) out)
    (hachieved : ∀ axis, |(achieved axis).toInt| ≤ a.share weight av axis priority) :
    Achieved demand (fun axis ↦ ((done ++ [priority]).map (a.share weight av axis)).sum)
      (Flight.applyGroup out achieved saturation) := by
  refine (h.applyGroup hachieved).mono fun axis ↦ ?_
  rw [List.map_append, List.sum_append]
  exact (congrArg _ (add_zero _)).ge

theorem Allocates.gimbal {g : GroupAllocation (Fin 2 → Int16)}
    (h : Allocates a feedback weight av demand done out)
    (hle : ∀ i, |(g.commands i).toInt| ≤ (a.config.gimbalLimitTurn16 i).toInt)
    (hzero : ∀ i, ¬(av.gimbal ∧ healthy8 feedback.gimbalHealthyMask i.val) → g.commands i = 0)
    (hachieved : ∀ axis, |(g.achieved axis).toInt| ≤ a.share weight av axis priority) :
    Allocates a feedback weight av demand (done ++ [priority])
      (applyGroup { out with gimbal := g.commands } g.achieved g.saturation) := by
  have hout : Achieved demand (fun axis ↦ (done.map (a.share weight av axis)).sum)
      { out with gimbal := g.commands } :=
    ⟨h.achieved.requested, h.achieved.residual, h.achieved.bounded⟩
  exact ⟨⟨fun _ ↦ hle, h.commanded.canards_le, h.commanded.quanta_le, hzero,
    h.commanded.canards_zero, h.commanded.quanta_zero⟩, hout.turn hachieved⟩

theorem Allocates.canards {g : GroupAllocation (Fin 4 → Int16)}
    (h : Allocates a feedback weight av demand done out)
    (hle : ∀ i, |(g.commands i).toInt| ≤ (a.config.canardLimitTurn16 i).toInt)
    (hzero : ∀ i, ¬(av.canard ∧ healthy8 feedback.canardHealthyMask i.val) → g.commands i = 0)
    (hachieved : ∀ axis, |(g.achieved axis).toInt| ≤ a.share weight av axis priority) :
    Allocates a feedback weight av demand (done ++ [priority])
      (applyGroup { out with canards := g.commands } g.achieved g.saturation) := by
  have hout : Achieved demand (fun axis ↦ (done.map (a.share weight av axis)).sum)
      { out with canards := g.commands } :=
    ⟨h.achieved.requested, h.achieved.residual, h.achieved.bounded⟩
  exact ⟨⟨h.commanded.gimbal_le, fun _ ↦ hle, h.commanded.quanta_le, h.commanded.gimbal_zero,
    hzero, h.commanded.quanta_zero⟩, hout.turn hachieved⟩

theorem Allocates.jets {g : GroupAllocation (Fin 12 → UInt8)}
    (h : Allocates a feedback weight av demand done out)
    (hle : ∀ i, g.commands i ≤ a.config.rcsMaxQuanta i)
    (hzero : ∀ i, ¬(av.rcs ∧ healthy16 feedback.rcsHealthyMask i.val) → g.commands i = 0)
    (hachieved : ∀ axis, |(g.achieved axis).toInt| ≤ a.share weight av axis priority) :
    Allocates a feedback weight av demand (done ++ [priority])
      (applyGroup { out with rcsPulseQuanta := g.commands } g.achieved g.saturation) := by
  have hout : Achieved demand (fun axis ↦ (done.map (a.share weight av axis)).sum)
      { out with rcsPulseQuanta := g.commands } :=
    ⟨h.achieved.requested, h.achieved.residual, h.achieved.bounded⟩
  exact ⟨⟨h.commanded.gimbal_le, h.commanded.canards_le, hle, h.commanded.gimbal_zero,
    h.commanded.canards_zero, hzero⟩, hout.turn hachieved⟩

theorem Allocates.skip (h : Allocates a feedback weight av demand done out)
    (hshare : ∀ axis, a.share weight av axis priority = 0) :
    Allocates a feedback weight av demand (done ++ [priority]) out := by
  refine ⟨h.commanded, h.achieved.mono fun axis ↦ ?_⟩
  rw [List.map_append, List.sum_append, List.map_singleton, List.sum_singleton, hshare, add_zero]

end Turn

theorem pulses_le {residual authority : PerAxis Int32} {mix : Mix 12} {maximum : Fin 12 → UInt8}
    {mask : UInt16} {fraction : Fin 12 → Int32} (i : Fin 12) :
    (allocateRcs residual authority mix maximum mask fraction).1.commands i ≤ maximum i := by
  unfold allocateRcs
  dsimp only
  split_ifs
  · exact wholeQuanta_le
  · exact UInt8.le_iff_toNat_le.mpr (Nat.zero_le _)

theorem command_eq_zero {n : Nat} {residual authority : PerAxis Int32} {mix : Mix n}
    {limits : Fin n → Int16} {mask : UInt8} {i : Fin n} (h : ¬healthy8 mask i.val) :
    (allocateContinuous residual authority mix limits mask).commands i = 0 := if_neg h

theorem pulses_eq_zero {residual authority : PerAxis Int32} {mix : Mix 12}
    {maximum : Fin 12 → UInt8} {mask : UInt16} {fraction : Fin 12 → Int32} {i : Fin 12}
    (h : ¬healthy16 mask i.val) :
    (allocateRcs residual authority mix maximum mask fraction).1.commands i = 0 := if_neg h

theorem abs_deflection_le {n : Nat} {residual authority : PerAxis Int32} {mix : Mix n}
    {limits : Fin n → Int16} {mask : UInt8} (h : ∀ i, 0 < limits i) (i : Fin n) :
    |((allocateContinuous residual authority mix limits mask).commands i).toInt|
      ≤ (limits i).toInt := by
  unfold allocateContinuous
  dsimp only
  split_ifs
  · exact abs_command_le (h i)
  · exact (Int16.lt_iff_toInt_lt.mp (h i)).le

/-- The turn of one group. -/
theorem Allocates.allocateGroup {done : List UInt8} (hvalid : a.config.Valid)
    (hav : av = a.available feedback weight)
    (h : Allocates a feedback weight av demand done c.out) (priority : UInt8) :
    Allocates a feedback weight av demand (done ++ [priority])
      (a.allocateGroup feedback weight av c priority).out := by
  unfold PriorityResidualAllocator.allocateGroup
  by_cases hgimbal : priority = groupGimbal ∧ av.gimbal
  · rw [if_pos hgimbal]
    have hhas : a.config.hasGimbal := by
      have hused := hgimbal.2
      rw [hav] at hused
      simp only [available, Bool.and_eq_true] at hused
      exact hused.1.1
    refine h.gimbal (abs_deflection_le (hvalid.gimbal hhas))
      (fun i hi ↦ command_eq_zero fun hhealthy ↦ hi ⟨hgimbal.2, hhealthy⟩) fun axis ↦ ?_
    rw [share, if_pos hgimbal]
    exact abs_predictContinuous_le (authority_nonneg hvalid)
  · rw [if_neg hgimbal]
    by_cases hcanard : priority = groupCanard ∧ av.canard
    · rw [if_pos hcanard]
      have hhas : a.config.hasCanards := by
        have hused := hcanard.2
        rw [hav] at hused
        simp only [available, Bool.and_eq_true] at hused
        exact hused.1.1
      refine h.canards (abs_deflection_le (hvalid.canards hhas))
        (fun i hi ↦ command_eq_zero fun hhealthy ↦ hi ⟨hcanard.2, hhealthy⟩) fun axis ↦ ?_
      rw [share, if_neg hgimbal, if_pos hcanard]
      exact abs_predictContinuous_le (authority_nonneg hvalid)
    · rw [if_neg hcanard]
      by_cases hrcs : priority = groupRcs ∧ av.rcs
      · rw [if_pos hrcs]
        refine h.jets pulses_le
          (fun i hi ↦ pulses_eq_zero fun hhealthy ↦ hi ⟨hrcs.2, hhealthy⟩) fun axis ↦ ?_
        rw [share, if_neg hgimbal, if_neg hcanard, if_pos hrcs]
        exact abs_predictRcs_le (authority_nonneg hvalid)
      · rw [if_neg hrcs]
        refine h.skip fun axis ↦ ?_
        rw [share, if_neg hgimbal, if_neg hcanard, if_neg hrcs]

/-- The turns of all groups. -/
theorem Allocates.foldl {done priorities : List UInt8} (hvalid : a.config.Valid)
    (hav : av = a.available feedback weight)
    (h : Allocates a feedback weight av demand done c.out) :
    Allocates a feedback weight av demand (done ++ priorities)
      (priorities.foldl (a.allocateGroup feedback weight av) c).out := by
  induction priorities generalizing done c with
  | nil =>
    rw [List.append_nil]
    exact h
  | cons priority priorities ih =>
    rw [List.append_cons]
    exact ih (h.allocateGroup hvalid hav priority)

/-- Nothing is taken from a demand. -/
theorem subSatI32_zero (x : Int32) : subSatI32 x 0 = x := by
  have hlow := Int32.le_toInt x
  have hhigh := Int32.toInt_lt x
  have hzero : (0 : Int32).toInt = 0 := rfl
  rw [← Int32.toInt_inj, subSatI32, toInt_clampI32, hzero]
  omega

/-- As long as nothing is commanded, nothing is achieved. -/
theorem allocates_nothing (hvalid : a.config.Valid) {out : AllocationResult}
    (hgimbal : out.gimbal = fun _ ↦ 0) (hcanards : out.canards = fun _ ↦ 0)
    (hpulses : out.rcsPulseQuanta = fun _ ↦ 0) (hrequested : out.requestedQ12 = demand)
    (hachieved : out.achievedQ12 = fun _ ↦ 0) (hresidual : out.residualQ12 = demand) :
    Allocates a feedback weight av demand [] out := by
  refine ⟨⟨fun hhas i ↦ ?_, fun hhas i ↦ ?_, fun i ↦ ?_, fun i _ ↦ ?_, fun i _ ↦ ?_,
    fun i _ ↦ ?_⟩, ⟨hrequested, fun axis ↦ ?_, fun axis ↦ ?_⟩⟩
  · rw [hgimbal]
    exact (Int16.lt_iff_toInt_lt.mp (hvalid.gimbal hhas i)).le
  · rw [hcanards]
    exact (Int16.lt_iff_toInt_lt.mp (hvalid.canards hhas i)).le
  · rw [hpulses]
    exact UInt8.le_iff_toNat_le.mpr (Nat.zero_le _)
  · rw [hgimbal]
  · rw [hcanards]
  · rw [hpulses]
  · rw [hresidual, hachieved, subSatI32_zero]
  · rw [hachieved]
    exact le_refl (0 : Int)

/-- The priorities are the three groups in some order. -/
theorem priorities_perm (hvalid : a.config.Valid) :
    a.config.priorities.toList.Perm [groupGimbal, groupCanard, groupRcs] := by
  refine (List.subperm_of_subset hvalid.distinct ?_).perm_of_length_le ?_
  · intro p hp
    obtain ⟨hlow, hhigh⟩ := hvalid.known p hp
    rw [UInt8.le_iff_toNat_le] at hlow hhigh
    have hone : (1 : UInt8).toNat = 1 := rfl
    have hthree : (3 : UInt8).toNat = 3 := rfl
    have hcases : p.toNat = 1 ∨ p.toNat = 2 ∨ p.toNat = 3 := by omega
    rcases hcases with h | h | h
    · exact List.mem_cons.mpr (.inl (UInt8.toNat_inj.mp h))
    · exact List.mem_cons_of_mem _ (List.mem_cons.mpr (.inl (UInt8.toNat_inj.mp h)))
    · exact List.mem_cons_of_mem _ (List.mem_cons_of_mem _
        (List.mem_singleton.mpr (UInt8.toNat_inj.mp h)))
  · exact (@Vector.length_toList _ _ a.config.priorities).ge

/-- Every group counts once. -/
theorem sum_share (hvalid : a.config.Valid) (axis : Fin 3) :
    (a.config.priorities.toList.map (a.share weight av axis)).sum
      = a.availableAuthority weight av axis := by
  rw [((priorities_perm hvalid).map _).sum_eq]
  show a.share weight av axis groupGimbal + (a.share weight av axis groupCanard
    + (a.share weight av axis groupRcs + 0)) = _
  have hcanard : ¬groupCanard = groupGimbal := by decide
  have hrcs : ¬groupRcs = groupGimbal := by decide
  have hrcs' : ¬groupRcs = groupCanard := by decide
  unfold share availableAuthority
  simp only [true_and, hcanard, hrcs, hrcs', false_and, if_false, show ¬groupGimbal = groupCanard by
    decide, show ¬groupGimbal = groupRcs by decide, show ¬groupCanard = groupRcs by decide]
  split_ifs <;> omega

/-! ## Runs -/

/-- The groups that may be commanded. -/
def usable (a : PriorityResidualAllocator) (feedback : AllocatorFeedback) : Available :=
  if inhibited feedback then ⟨false, false, false⟩
  else a.available feedback (a.canardWeight feedback).1

/-- The commands are within the limits, what is achieved is within the authorities that could be
used, and the residual is the rest of the request, in the range of a word. -/
structure WithinLimits (a : PriorityResidualAllocator) (demand : PerAxis Int32)
    (feedback : AllocatorFeedback) (out : AllocationResult) : Prop where
  commanded : Commanded a feedback (a.usable feedback) out
  achieved : Achieved demand
    (a.availableAuthority (a.canardWeight feedback).1 (a.usable feedback)) out

/-- The counts that an allocation ends with are not looked at. -/
theorem WithinLimits.of_counts {out out' : AllocationResult}
    (h : a.WithinLimits demand feedback out) (hgimbal : out'.gimbal = out.gimbal)
    (hcanards : out'.canards = out.canards) (hpulses : out'.rcsPulseQuanta = out.rcsPulseQuanta)
    (hrequested : out'.requestedQ12 = out.requestedQ12)
    (hachieved : out'.achievedQ12 = out.achievedQ12)
    (hresidual : out'.residualQ12 = out.residualQ12) : a.WithinLimits demand feedback out' := by
  obtain ⟨⟨h₁, h₂, h₃, h₄, h₅, h₆⟩, ⟨h₇, h₈, h₉⟩⟩ := h
  rw [← hgimbal] at h₁ h₄
  rw [← hcanards] at h₂ h₅
  rw [← hpulses] at h₃ h₆
  rw [← hrequested] at h₇
  rw [← hachieved] at h₈ h₉
  rw [← hresidual] at h₈
  exact ⟨⟨h₁, h₂, h₃, h₄, h₅, h₆⟩, ⟨h₇, h₈, h₉⟩⟩

/-- One allocation. -/
theorem allocate_withinLimits (hvalid : a.config.isValid) (demand : PerAxis Int32)
    (feedback : AllocatorFeedback) :
    ∃ out, (a.allocate demand feedback).1 = .ok out ∧ a.WithinLimits demand feedback out := by
  have hv := AdvancedAllocatorConfig.valid_of_isValid hvalid
  unfold allocate
  rw [hvalid]
  cases hphase : inhibited feedback with
  | true =>
    have husable : a.usable feedback = ⟨false, false, false⟩ := if_pos hphase
    have hnothing : Allocates a feedback (a.canardWeight feedback).1 (a.usable feedback) demand []
        { AllocationResult.zero with requestedQ12 := demand, residualQ12 := demand } :=
      allocates_nothing hv rfl rfl rfl rfl rfl rfl
    refine ⟨_, rfl, hnothing.commanded, ?_⟩
    rw [husable] at hnothing ⊢
    exact hnothing.achieved
  | false =>
    have husable : a.usable feedback = a.available feedback (a.canardWeight feedback).1 :=
      if_neg (by rw [hphase]; exact Bool.false_ne_true)
    have hstart : Allocates a feedback (a.canardWeight feedback).1 (a.usable feedback) demand []
        (a.start demand (a.canardWeight feedback).1 (a.usable feedback)).out :=
      allocates_nothing hv rfl rfl rfl rfl rfl rfl
    have hall : Allocates a feedback _ _ demand ([] ++ a.config.priorities.toList) _ :=
      hstart.foldl hv husable
    rw [List.nil_append] at hall
    have hachieved := hall.achieved
    simp only [sum_share hv] at hachieved
    have hwithin : a.WithinLimits demand feedback _ := ⟨hall.commanded, hachieved⟩
    rw [husable] at hwithin
    refine ⟨_, rfl, hwithin.of_counts ?_ ?_ ?_ ?_ ?_ ?_⟩ <;> split_ifs <;> rfl

/-- What an allocation is given. -/
structure AllocatorInput where
  demand : PerAxis Int32
  feedback : AllocatorFeedback

/-- One allocation after the other. -/
def step (a : PriorityResidualAllocator) (input : AllocatorInput) : PriorityResidualAllocator :=
  (a.allocate input.demand input.feedback).2

/-- The configuration stays. -/
@[simp] theorem step_config (input : AllocatorInput) : (a.step input).config = a.config := by
  unfold step allocate
  cases a.config.isValid with
  | false => rfl
  | true =>
    cases inhibited input.feedback with
    | true => rfl
    | false => rfl

/-- **Allocations.**  In every run of an allocator with a valid configuration, every allocation
succeeds and is within the limits. -/
theorem allocations_within_limits {config : AdvancedAllocatorConfig} (hnew : new config = some a)
    (inputs : List AllocatorInput) (input : AllocatorInput) :
    ∃ out, ((run step a inputs).allocate input.demand input.feedback).1 = .ok out ∧
      (run step a inputs).WithinLimits input.demand input.feedback out := by
  refine allocate_withinLimits ?_ input.demand input.feedback
  refine run_invariant step (fun a : PriorityResidualAllocator ↦ a.config.isValid = true)
    (fun a input h ↦ ?_) ?_ inputs
  · show (step a input).config.isValid = true
    rwa [step_config]
  · unfold new at hnew
    split_ifs at hnew with hvalid
    cases hnew
    exact hvalid

end PriorityResidualAllocator

/-- Two gimbal actuators, of which one is mixed into two axes. -/
def gimbalConfig : AdvancedAllocatorConfig where
  priorities := #v[groupGimbal, groupCanard, groupRcs]
  canardEnableQ10 := 2
  canardFullQ10 := 3
  canardDisableQ10 := 1
  reserveQ15 := 0
  propellantWetQ21 := 0
  groupAuthorityQ12 := fun _ _ ↦ 1000
  gimbalMixQ15 := ![![8192, 0], ![32767, 0], ![0, 0]]
  canardMixQ15 := fun _ _ ↦ 0
  rcsMixQ15 := fun _ _ ↦ 0
  gimbalLimitTurn16 := fun _ ↦ 1000
  canardLimitTurn16 := fun _ ↦ 0
  rcsMaxQuanta := fun _ ↦ 0
  hasGimbal := true
  hasCanards := false
  hasRcs := false

def gimbalAllocator : PriorityResidualAllocator := ⟨gimbalConfig, false, fun _ ↦ 0⟩

def poweredFeedback : AllocatorFeedback where
  onRail := false
  powered := true
  recovery := false
  safe := false
  airDataSource := .unavailable
  dynamicPressureQ10 := 0
  propellantFractionQ15 := 0
  supplyValid := false
  gimbalHealthyMask := 3
  canardHealthyMask := 0
  rcsHealthyMask := 0

/-- A demand at both ends of the range. -/
def extremeDemand : PerAxis Int32 := ![Int32.minValue, Int32.maxValue, 0]

theorem allocations_within_limits_gimbal :
    ∃ out, (gimbalAllocator.allocate extremeDemand poweredFeedback).1 = .ok out ∧
      gimbalAllocator.WithinLimits extremeDemand poweredFeedback out :=
  @PriorityResidualAllocator.allocations_within_limits gimbalAllocator gimbalConfig rfl []
    ⟨extremeDemand, poweredFeedback⟩

/-- The residual of a request at the end of the range is not the difference. -/
theorem residual_saturates :
    PriorityResidualAllocator.new gimbalConfig = some gimbalAllocator ∧
    ∃ out, (gimbalAllocator.allocate extremeDemand poweredFeedback).1 = .ok out ∧
      (out.residualQ12 0).toInt ≠ (out.requestedQ12 0).toInt - (out.achievedQ12 0).toInt := by
  refine ⟨rfl, ?_⟩
  have hdiffers : ((gimbalAllocator.allocate extremeDemand poweredFeedback).1.toOption.map fun out ↦
      decide ((out.residualQ12 0).toInt = (out.requestedQ12 0).toInt - (out.achievedQ12 0).toInt))
        = some false := by decide +kernel
  cases hout : (gimbalAllocator.allocate extremeDemand poweredFeedback).1 with
  | error e =>
    rw [hout] at hdiffers
    cases hdiffers
  | ok out =>
    rw [hout] at hdiffers
    exact ⟨out, rfl, of_decide_eq_false (Option.some.inj hdiffers)⟩

end Ksa64.Flight
