import Ksa64.Sim.StoragePlans

/-!
# Sizes that the planners can take

The sizes of a campaign are words, and so are the bytes they take.  A planner that checks each
operation refuses sizes that are too large; where an operation is not checked it overflows, and
where the two ways of filling the unit meet the end of the words in different places they differ.
-/

namespace Ksa64.Sim

open Ksa64.Library Phase5StoragePlan

section Plans

/-- A plan fills the unit: with full histories first, and then with compact ones. -/
structure Retains (plan : StoragePlan) (runCount base fullCost compactCost : Nat)
    (keepsFull keepsCompact : Prop) : Prop where
  used_add_free : plan.usedBytes + plan.freeBytes = plan.effectiveKib * 1024
  histories_le : plan.fullHistories + plan.compactHistories ≤ runCount
  used_eq : plan.usedBytes
    = base + plan.fullHistories * fullCost + plan.compactHistories * compactCost
  no_full : keepsFull → plan.fullHistories = runCount ∨
    plan.effectiveKib * 1024 < base + plan.fullHistories * fullCost + fullCost
  no_compact : keepsCompact → plan.fullHistories + plan.compactHistories = runCount ∨
    plan.effectiveKib * 1024 < plan.usedBytes + compactCost

variable {detectedKib effectiveKib slots base fullCost fullLimit compactCost runCount : Nat}
  {compactLimit : Nat → Nat} {keepsFull keepsCompact : Prop}

theorem reuPlan_retains (hbase : base ≤ effectiveKib * 1024) (hfull : 0 < fullCost)
    (hcompact : 0 < compactCost) (hlimit : fullLimit ≤ runCount)
    (hlimit' : ∀ full ≤ runCount, compactLimit full ≤ runCount - full)
    (hkeeps : keepsFull → fullLimit = runCount)
    (hkeeps' : keepsCompact → ∀ full, compactLimit full = runCount - full) :
    Retains (reuPlan detectedKib effectiveKib slots base fullCost fullLimit compactCost compactLimit)
      runCount base fullCost compactCost keepsFull keepsCompact := by
  obtain ⟨hcount, -, hused, hmost⟩ := @filled_min _ _ _ fullLimit hbase hfull
  obtain ⟨hcount', -, hused', hmost'⟩ := @filled_min _ _ _ (compactLimit
    (min ((effectiveKib * 1024 - base) / fullCost) fullLimit)) hused hcompact
  have hroom := hlimit' _ (hcount.trans hlimit)
  unfold reuPlan
  dsimp only
  constructor
  · exact Nat.add_sub_cancel' hused'
  · dsimp only
    omega
  · rfl
  · intro h
    rw [← hkeeps h]
    exact hmost
  · intro h
    rw [hkeeps' h] at hmost' hroom ⊢
    refine hmost'.imp_left fun heq ↦ ?_
    dsimp only
    omega

end Plans

section Sizes

variable (detectedKib : UInt32) (preference : ReuPreference)
  (runCount detailFrames compactPoints : UInt32)

/-- The sums of Phase 4 that are not checked. -/
def Phase4Sizes : Prop := Supported detectedKib →
  (effective detectedKib preference = 0 → 64 + 8 * compactPoints.toNat < 2 ^ 32 →
    min runCount.toNat 5 * 128 + (64 + 8 * compactPoints.toNat) < 2 ^ 32) ∧
  (effective detectedKib preference ≠ 0 → 96 + 160 * detailFrames.toNat < 2 ^ 32 →
    64 + 8 * compactPoints.toNat < 2 ^ 32 → 64 + 8 * compactPoints.toNat + 32 < 2 ^ 32)

/-- The sum of Phase 5 that is not checked. -/
def Phase5Sizes : Prop := Supported detectedKib → effective detectedKib preference = 0 →
  80 + compactPoints.toNat * 16 < 2 ^ 32 →
    min runCount.toNat 5 * 160 + (80 + compactPoints.toNat * 16) < 2 ^ 32

/-- The sum of Phase 8 that is not checked and can overflow. -/
def Phase8Sizes : Prop := Supported detectedKib → effective detectedKib preference = 0 →
  64 + 24 * compactPoints.toNat + 4 < 2 ^ 32 →
    min runCount.toNat 5 * 256 + (64 + 24 * compactPoints.toNat + 4) < 2 ^ 32

/-- The loops of Phase 5 meet the end of the words with the full histories of the campaign where
they meet it without them, which is how the exact plan begins. -/
def ExactSizes : Prop := Supported detectedKib → effective detectedKib preference ≠ 0 →
  ∀ capacity, capacity = (effective detectedKib preference).toNat * 1024 →
    usedBefore capacity runCount ≤ capacity → compactCost compactPoints < 2 ^ 32 →
    96 + detailFrames.toNat * 424 < 2 ^ 32 →
      ((0 < fullLimit runCount detailFrames ∧
          2 ^ 32 ≤ usedBefore capacity runCount + fullCost detailFrames) ∨
        (0 < compactLimit runCount compactPoints
            (min ((capacity - usedBefore capacity runCount) / fullCost detailFrames)
              (fullLimit runCount detailFrames)) ∧
          2 ^ 32 ≤ usedFull capacity runCount detailFrames + compactCost compactPoints) ↔
      0 < compactLimit runCount compactPoints 0 ∧
        2 ^ 32 ≤ usedBefore capacity runCount + compactCost compactPoints)

variable {detectedKib preference runCount detailFrames compactPoints}

theorem compute4_finishes_iff :
    StoragePlan.compute detectedKib preference runCount detailFrames compactPoints ≠ overflow ↔
      Phase4Sizes detectedKib preference runCount detailFrames compactPoints := by
  unfold Phase4Sizes
  by_cases h : Supported detectedKib
  · by_cases hnone : effective detectedKib preference = 0
    · rw [compute4_stock h hnone]
      split_ifs with hplot hused
      · exact iff_of_true pure_ne_overflow fun _ ↦ ⟨fun _ _ ↦ hused, absurd hnone⟩
      · exact iff_of_false (not_not_intro rfl) fun hsizes ↦ hused ((hsizes h).1 hnone hplot)
      · exact iff_of_true throw_ne_overflow fun _ ↦
          ⟨fun _ hplot' ↦ absurd hplot' hplot, absurd hnone⟩
    · rw [compute4_reu h hnone]
      dsimp only
      split_ifs with hsizes hcost hbase
      · exact iff_of_true pure_ne_overflow fun _ ↦ ⟨fun h ↦ absurd h hnone, fun _ _ _ ↦ hcost⟩
      · exact iff_of_true throw_ne_overflow fun _ ↦ ⟨fun h ↦ absurd h hnone, fun _ _ _ ↦ hcost⟩
      · exact iff_of_false (not_not_intro rfl) fun h' ↦
          hcost ((h' h).2 hnone hsizes.1 hsizes.2)
      · exact iff_of_true throw_ne_overflow fun _ ↦
          ⟨fun h ↦ absurd h hnone, fun _ hfull hcompact ↦ absurd ⟨hfull, hcompact⟩ hsizes⟩
  · unfold StoragePlan.compute
    rw [if_pos (supported_guard.mpr h)]
    exact iff_of_true throw_ne_overflow fun h' ↦ absurd h' h

theorem compute8_finishes_iff :
    Phase8StoragePlan.compute detectedKib preference runCount detailFrames compactPoints ≠ overflow ↔
      Phase8Sizes detectedKib preference runCount compactPoints := by
  unfold Phase8Sizes
  by_cases h : Supported detectedKib
  · by_cases hnone : effective detectedKib preference = 0
    · rw [compute8_stock h hnone]
      split_ifs with hplot hused
      · exact iff_of_true pure_ne_overflow fun _ _ _ ↦ hused
      · exact iff_of_false (not_not_intro rfl) fun hsizes ↦ hused (hsizes h hnone hplot)
      · exact iff_of_true throw_ne_overflow fun _ _ hplot' ↦ absurd hplot' hplot
    · rw [compute8_reu h hnone]
      dsimp only
      split_ifs
      · exact iff_of_true pure_ne_overflow fun _ hstock ↦ absurd hstock hnone
      · exact iff_of_true throw_ne_overflow fun _ hstock ↦ absurd hstock hnone
  · have hguard : ¬(detectedKib = 0 ∨ detectedKib ∈ supportedReuKib) := h
    unfold Phase8StoragePlan.compute
    rw [if_pos hguard]
    exact iff_of_true throw_ne_overflow fun h' ↦ absurd h' h

theorem compute5_finishes_iff :
    Phase5StoragePlan.compute detectedKib preference runCount detailFrames compactPoints ≠ overflow ↔
      Phase5Sizes detectedKib preference runCount compactPoints := by
  unfold Phase5Sizes
  by_cases h : Supported detectedKib
  · by_cases hnone : effective detectedKib preference = 0
    · rw [compute_stock h hnone]
      split_ifs with hplot hused
      · exact iff_of_true pure_ne_overflow fun _ _ _ ↦ hused
      · exact iff_of_false (not_not_intro rfl) fun hsizes ↦ hused (hsizes h hnone hplot)
      · exact iff_of_true throw_ne_overflow fun _ _ hplot' ↦ absurd hplot' hplot
    · obtain ⟨hthrow, hpure⟩ := @compute_reu detectedKib preference runCount detailFrames
        compactPoints h hnone _ rfl
      refine iff_of_true ?_ fun _ hstock ↦ absurd hstock hnone
      by_cases hstops : Refused ((effective detectedKib preference).toNat * 1024) runCount
          detailFrames compactPoints ∨ Stops ((effective detectedKib preference).toNat * 1024)
          runCount detailFrames compactPoints
      · rw [hthrow hstops]
        exact throw_ne_overflow
      · rw [hpure hstops]
        exact pure_ne_overflow
  · unfold Phase5StoragePlan.compute
    rw [if_pos (supported_guard.mpr h)]
    exact iff_of_true throw_ne_overflow fun h' ↦ absurd h' h

variable {plan : StoragePlan}

theorem stock_mode {usedBytes : Nat}
    (h : plan = stockPlan detectedKib runCount compactPoints usedBytes) : plan.mode ≠ .reu := by
  subst h
  rintro ⟨⟩

/-- A plan of Phase 4 for a unit fills it. -/
theorem compute4_retains
    (hplan : StoragePlan.compute detectedKib preference runCount detailFrames compactPoints = pure plan)
    (hmode : plan.mode = .reu) :
    Retains plan runCount.toNat (512 + plan.summarySlots * 128) (96 + 160 * detailFrames.toNat + 32)
      (64 + 8 * compactPoints.toNat + 32) True True := by
  by_cases h : Supported detectedKib
  · by_cases hnone : effective detectedKib preference = 0
    · rw [compute4_stock h hnone] at hplan
      split_ifs at hplan
      · exact absurd hmode (stock_mode (pure_inj hplan).symm)
      · exact absurd hplan.symm pure_ne_overflow
      · exact absurd hplan throw_ne_pure
    · rw [compute4_reu h hnone] at hplan
      dsimp only at hplan
      split_ifs at hplan with hsizes hcost hbase
      · cases pure_inj hplan
        exact reuPlan_retains hbase (by omega) (by omega) le_rfl (fun _ _ ↦ le_rfl) (fun _ ↦ rfl)
          fun _ _ ↦ rfl
      · exact absurd hplan throw_ne_pure
      · exact absurd hplan.symm pure_ne_overflow
      · exact absurd hplan throw_ne_pure
  · unfold StoragePlan.compute at hplan
    rw [if_pos (supported_guard.mpr h)] at hplan
    exact absurd hplan throw_ne_pure

/-- A plan of Phase 8 for a unit fills it. -/
theorem compute8_retains
    (hplan : Phase8StoragePlan.compute detectedKib preference runCount detailFrames compactPoints
      = pure plan) (hmode : plan.mode = .reu) :
    Retains plan runCount.toNat (512 + plan.summarySlots * 256)
      (128 + 160 * detailFrames.toNat + 4 + 8) (64 + 24 * compactPoints.toNat + 4 + 8) True True := by
  by_cases h : Supported detectedKib
  · by_cases hnone : effective detectedKib preference = 0
    · rw [compute8_stock h hnone] at hplan
      split_ifs at hplan
      · exact absurd hmode (stock_mode (pure_inj hplan).symm)
      · exact absurd hplan.symm pure_ne_overflow
      · exact absurd hplan throw_ne_pure
    · rw [compute8_reu h hnone] at hplan
      dsimp only at hplan
      split_ifs at hplan with hsizes
      · cases pure_inj hplan
        exact reuPlan_retains hsizes.2.1 (by omega) (by omega) le_rfl (fun _ _ ↦ le_rfl)
          (fun _ ↦ rfl) fun _ _ ↦ rfl
      · exact absurd hplan throw_ne_pure
  · have hguard : ¬(detectedKib = 0 ∨ detectedKib ∈ supportedReuKib) := h
    unfold Phase8StoragePlan.compute at hplan
    rw [if_pos hguard] at hplan
    exact absurd hplan throw_ne_pure

/-- A plan of Phase 5 for a unit fills it, with histories that have anything in them. -/
theorem compute5_retains
    (hplan : Phase5StoragePlan.compute detectedKib preference runCount detailFrames compactPoints
      = pure plan) (hmode : plan.mode = .reu) :
    Retains plan runCount.toNat (480 + plan.summarySlots * 160) (96 + detailFrames.toNat * 424 + 32)
      (80 + compactPoints.toNat * 16 + 32) (detailFrames ≠ 0) (compactPoints ≠ 0) := by
  by_cases h : Supported detectedKib
  · by_cases hnone : effective detectedKib preference = 0
    · rw [compute_stock h hnone] at hplan
      split_ifs at hplan
      · exact absurd hmode (stock_mode (pure_inj hplan).symm)
      · exact absurd hplan.symm pure_ne_overflow
      · exact absurd hplan throw_ne_pure
    · obtain ⟨hthrow, hpure⟩ := @compute_reu detectedKib preference runCount detailFrames
        compactPoints h hnone _ rfl
      by_cases hstops : Refused ((effective detectedKib preference).toNat * 1024) runCount
          detailFrames compactPoints ∨ Stops ((effective detectedKib preference).toNat * 1024)
          runCount detailFrames compactPoints
      · rw [hthrow hstops] at hplan
        exact absurd hplan throw_ne_pure
      · rw [hpure hstops] at hplan
        cases pure_inj hplan
        have hbase : usedBefore ((effective detectedKib preference).toNat * 1024) runCount
            ≤ (effective detectedKib preference).toNat * 1024 :=
          Nat.not_lt.mp fun h ↦ hstops (.inl (.inr (.inl h)))
        refine reuPlan_retains hbase (Nat.add_pos_right _ (by decide))
          (Nat.add_pos_right _ (by decide)) ?_ (fun full _ ↦ ?_) (fun hframes ↦ if_neg hframes)
          fun hpoints full ↦ if_neg hpoints
        · unfold fullLimit
          split_ifs
          · exact Nat.zero_le _
          · exact le_rfl
        · unfold compactLimit
          split_ifs
          · exact Nat.zero_le _
          · exact le_rfl
  · unfold Phase5StoragePlan.compute at hplan
    rw [if_pos (supported_guard.mpr h)] at hplan
    exact absurd hplan throw_ne_pure

/-! ## The two ways of filling the unit -/

/-- A history that does not fit into a word stops the loops, in a room of a unit. -/
theorem stops_iff {capacity : Nat} (hcapacity : capacity ≤ 2 ^ 24)
    (hbase : usedBefore capacity runCount ≤ capacity) :
    Stops capacity runCount detailFrames compactPoints ↔
      (0 < fullLimit runCount detailFrames ∧
        2 ^ 32 ≤ usedBefore capacity runCount + fullCost detailFrames) ∨
      (0 < compactLimit runCount compactPoints
          (min ((capacity - usedBefore capacity runCount) / fullCost detailFrames)
            (fullLimit runCount detailFrames)) ∧
        2 ^ 32 ≤ usedFull capacity runCount detailFrames + compactCost compactPoints) := by
  have hfulls := (@filled_min _ _ (fullCost detailFrames) (fullLimit runCount detailFrames) hbase
    (Nat.add_pos_right _ (by decide))).used_le
  unfold Stops
  exact or_congr (fillingStops_iff (by omega) hbase) (fillingStops_iff (by omega) hfulls)

theorem stops_zero_iff {capacity : Nat} (hcapacity : capacity ≤ 2 ^ 24)
    (hbase : usedBefore capacity runCount ≤ capacity) :
    Stops capacity runCount 0 compactPoints ↔ 0 < compactLimit runCount compactPoints 0 ∧
      2 ^ 32 ≤ usedBefore capacity runCount + compactCost compactPoints := by
  have hnone : fullLimit runCount 0 = 0 := rfl
  rw [stops_iff hcapacity hbase]
  unfold usedFull
  rw [hnone, Nat.min_zero, Nat.zero_mul, Nat.add_zero]
  exact or_iff_right fun h ↦ Nat.lt_irrefl 0 h.1

/-- Without a unit, the exact plan is the plan. -/
theorem computeExact_stock (h : Supported detectedKib)
    (hnone : effective detectedKib preference = 0) (fullHistoryBytes : List UInt32) :
    computeExact detectedKib preference runCount compactPoints fullHistoryBytes
      = Phase5StoragePlan.compute detectedKib preference runCount detailFrames compactPoints := by
  unfold computeExact
  rw [compute_stock h hnone, compute_stock h hnone]
  split_ifs <;> rfl

theorem computeExact_unsupported (h : ¬Supported detectedKib) (fullHistoryBytes : List UInt32) :
    computeExact detectedKib preference runCount compactPoints fullHistoryBytes
      = Phase5StoragePlan.compute detectedKib preference runCount detailFrames compactPoints := by
  unfold computeExact Phase5StoragePlan.compute
  rw [if_pos (supported_guard.mpr h), if_pos (supported_guard.mpr h)]
  rfl

/-- The exact plan with payloads of one size is the plan iff both ways of filling the unit meet the
end of the words, or neither does. -/
theorem computeExact_eq_iff :
    (∀ payload : UInt32, payload.toNat = 96 + detailFrames.toNat * 424 →
      computeExact detectedKib preference runCount compactPoints
          (payloads runCount detailFrames payload)
        = Phase5StoragePlan.compute detectedKib preference runCount detailFrames compactPoints) ↔
      ExactSizes detectedKib preference runCount detailFrames compactPoints := by
  unfold ExactSizes
  by_cases h : Supported detectedKib
  swap
  · exact iff_of_true (fun _ _ ↦ computeExact_unsupported h _) fun h' ↦ absurd h' h
  by_cases hnone : effective detectedKib preference = 0
  · exact iff_of_true (fun _ _ ↦ computeExact_stock h hnone _) fun _ h' ↦ absurd hnone h'
  have hkib := effective_le h preference
  obtain ⟨capacity, hcapacity⟩ : ∃ capacity,
    capacity = (effective detectedKib preference).toNat * 1024 := ⟨_, rfl⟩
  obtain ⟨hthrow, hpure⟩ := @compute_reu detectedKib preference runCount detailFrames compactPoints
    h hnone capacity hcapacity
  have hexact (payload : UInt32) (hpayload : payload.toNat = 96 + detailFrames.toNat * 424) :=
    @computeExact_reu detectedKib preference runCount detailFrames compactPoints h hnone capacity
      hcapacity payload hpayload
  constructor
  · rintro hall _ _ _ rfl hbase hcompact hfull
    rw [← hcapacity] at hbase ⊢
    have hpayload : (UInt32.ofNat (96 + detailFrames.toNat * 424)).toNat
        = 96 + detailFrames.toNat * 424 := UInt32.toNat_ofNat_of_lt' hfull
    have heq := hall _ hpayload
    obtain ⟨hthrow', hpure'⟩ := hexact _ hpayload
    have hrefused : ¬Refused capacity runCount detailFrames compactPoints := by
      rintro (hlarge | hlarge | hlarge) <;> omega
    have hrefused' : ¬Refused capacity runCount 0 compactPoints := by
      rintro (hlarge | hlarge | hlarge)
      · omega
      · omega
      · exact absurd hlarge (by decide)
    rw [← stops_iff (by omega) hbase, ← stops_zero_iff (by omega) hbase]
    by_cases hstops : Stops capacity runCount detailFrames compactPoints
    · refine iff_of_true hstops (by_contra fun hfits ↦ ?_)
      rw [hthrow (.inr hstops), hpure' (not_or.mpr ⟨hrefused', hfits⟩)] at heq
      exact throw_ne_pure heq.symm
    · refine iff_of_false hstops fun hstops' ↦ ?_
      rw [hpure (not_or.mpr ⟨hrefused, hstops⟩), hthrow' (.inr hstops')] at heq
      exact throw_ne_pure heq
  · intro hsizes payload hpayload
    have hlt := payload.toNat_lt
    obtain ⟨hthrow', hpure'⟩ := hexact payload hpayload
    by_cases hcommon : 2 ^ 32 ≤ compactCost compactPoints ∨ capacity < usedBefore capacity runCount
    · have hrefused (frames : UInt32) : Refused capacity runCount frames compactPoints :=
        hcommon.imp_right .inl
      rw [hthrow (.inl (hrefused _)), hthrow' (.inl (hrefused _))]
    · have hbase : usedBefore capacity runCount ≤ capacity := by omega
      have hrefused : ¬Refused capacity runCount detailFrames compactPoints := by
        rintro (hlarge | hlarge | hlarge) <;> omega
      have hrefused' : ¬Refused capacity runCount 0 compactPoints := by
        rintro (hlarge | hlarge | hlarge)
        · omega
        · omega
        · exact absurd hlarge (by decide)
      have hagree := hsizes h hnone capacity hcapacity hbase (by omega) (by omega)
      rw [← stops_iff (by omega) hbase, ← stops_zero_iff (by omega) hbase] at hagree
      by_cases hstops : Stops capacity runCount detailFrames compactPoints
      · rw [hthrow (.inr hstops), hthrow' (.inr (hagree.mp hstops))]
      · rw [hpure (not_or.mpr ⟨hrefused, hstops⟩),
          hpure' (not_or.mpr ⟨hrefused', mt hagree.mpr hstops⟩)]

/-- The planners finish, their plans for a unit fill it, and the exact plan with the payloads of
the campaign's own histories is the plan of Phase 5. -/
structure PlannersSound (detectedKib : UInt32) (preference : ReuPreference)
    (runCount detailFrames compactPoints : UInt32) : Prop where
  phase4_finishes :
    StoragePlan.compute detectedKib preference runCount detailFrames compactPoints ≠ overflow
  phase4_retains : ∀ plan,
    StoragePlan.compute detectedKib preference runCount detailFrames compactPoints = pure plan →
    plan.mode = .reu → Retains plan runCount.toNat (512 + plan.summarySlots * 128)
      (96 + 160 * detailFrames.toNat + 32) (64 + 8 * compactPoints.toNat + 32) True True
  phase5_finishes :
    Phase5StoragePlan.compute detectedKib preference runCount detailFrames compactPoints ≠ overflow
  phase5_retains : ∀ plan,
    Phase5StoragePlan.compute detectedKib preference runCount detailFrames compactPoints
      = pure plan →
    plan.mode = .reu → Retains plan runCount.toNat (480 + plan.summarySlots * 160)
      (96 + detailFrames.toNat * 424 + 32) (80 + compactPoints.toNat * 16 + 32)
      (detailFrames ≠ 0) (compactPoints ≠ 0)
  phase8_finishes :
    Phase8StoragePlan.compute detectedKib preference runCount detailFrames compactPoints ≠ overflow
  phase8_retains : ∀ plan,
    Phase8StoragePlan.compute detectedKib preference runCount detailFrames compactPoints
      = pure plan →
    plan.mode = .reu → Retains plan runCount.toNat (512 + plan.summarySlots * 256)
      (128 + 160 * detailFrames.toNat + 4 + 8) (64 + 24 * compactPoints.toNat + 4 + 8) True True
  exact_eq : ∀ payload : UInt32, payload.toNat = 96 + detailFrames.toNat * 424 →
    computeExact detectedKib preference runCount compactPoints
        (payloads runCount detailFrames payload)
      = Phase5StoragePlan.compute detectedKib preference runCount detailFrames compactPoints

theorem plannersSound_iff (detectedKib : UInt32) (preference : ReuPreference)
    (runCount detailFrames compactPoints : UInt32) :
    PlannersSound detectedKib preference runCount detailFrames compactPoints ↔
      Phase4Sizes detectedKib preference runCount detailFrames compactPoints ∧
      Phase5Sizes detectedKib preference runCount compactPoints ∧
      Phase8Sizes detectedKib preference runCount compactPoints ∧
      ExactSizes detectedKib preference runCount detailFrames compactPoints := by
  constructor
  · rintro ⟨hphase4, -, hphase5, -, hphase8, -, hexact⟩
    exact ⟨compute4_finishes_iff.mp hphase4, compute5_finishes_iff.mp hphase5,
      compute8_finishes_iff.mp hphase8, computeExact_eq_iff.mp hexact⟩
  · rintro ⟨hphase4, hphase5, hphase8, hexact⟩
    exact ⟨compute4_finishes_iff.mpr hphase4, fun _ ↦ compute4_retains,
      compute5_finishes_iff.mpr hphase5, fun _ ↦ compute5_retains,
      compute8_finishes_iff.mpr hphase8, fun _ ↦ compute8_retains,
      computeExact_eq_iff.mpr hexact⟩

/-- The header of a record does not fit into the word with a history that does. -/
theorem planners_unsound : ¬PlannersSound 128 .auto 1 1 536870900 := by
  intro h
  have hsizes := compute4_finishes_iff.mp h.phase4_finishes (.inr (by decide))
  exact absurd (hsizes.2 (by decide) (by decide) (by decide)) (by decide)

end Sizes

end Ksa64.Sim
