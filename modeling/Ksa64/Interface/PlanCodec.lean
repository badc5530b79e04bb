import Ksa64.Interface.Canonical

/-!
# One spelling for each mission plan

The writer of mission plans, and how it meets the parser of `Interface/MissionPlan.lean`.
A plan is a header and three tables.  Of each table the writer writes the entries in use,
and the parser wants zeros after them, so what a plan holds in its other entries must not
matter: `validatePlan` has them empty.  With that, the parser accepts exactly what the writer
makes of the plans that pass `validatePlan`.
-/

namespace Ksa64.Interface

open Ksa64.Library

/-! ## Writing -/

def eventCells (offset : Nat) (value : MissionPlanEvent) : Layout :=
  [(offset, .word16 value.eventId),
    (offset + 2, .byte value.kind.code),
    (offset + 3, .byte value.trigger.code),
    (offset + 4, .word16 value.flags),
    (offset + 6, .byte value.failurePolicy.code),
    (offset + 8, .word32 value.earliestEpoch),
    (offset + 12, .word32 value.latestEpoch),
    (offset + 16, .word32 value.exactEpoch),
    (offset + 20, .word32 value.prerequisiteEvents),
    (offset + 24, .word32 value.requiredCapabilities),
    (offset + 28, .words (i32Words value.arguments)),
    (offset + 44, .word16 value.guardMetric),
    (offset + 46, .byte value.guardComparison)]

def branchCells (offset : Nat) (value : ContingencyBranch) : Layout :=
  [(offset, .byte value.branchId),
    (offset + 1, .byte value.sourceDecisionId),
    (offset + 2, .word16 value.firstEventId),
    (offset + 4, .word16 value.flags),
    (offset + 8, .word32 value.earliestEpoch),
    (offset + 12, .word32 value.latestEpoch),
    (offset + 16, .word32 value.prerequisiteEvents),
    (offset + 20, .word32 value.requiredCapabilities),
    (offset + 24, .word32 (getElem value.arguments 0 Pair.first_lt).toUInt32),
    (offset + 28, .word32 (getElem value.arguments 1 Pair.second_lt).toUInt32)]

def decisionCells (offset : Nat) (value : OperatorDecisionPoint) : Layout :=
  [(offset, .byte value.decisionId),
    (offset + 1, .byte value.defaultBranchId),
    (offset + 2, .word16 value.flags),
    (offset + 4, .word32 value.earliestEpoch),
    (offset + 8, .word32 value.latestEpoch),
    (offset + 12, .word32 value.requiredEventMask),
    (offset + 16, .byte value.timeoutBranchId)]

def kmp11HeaderCells (plan : MissionPlan) : Layout :=
  [(0, .bytes kmp11Magic),
    (4, .word16 kmp11Version),
    (6, .word16 2048),
    (8, .word32 plan.planIdentity),
    (12, .word32 plan.packageManifestIdentity),
    (16, .word32 plan.package.code),
    (20, .word32 plan.abi.code),
    (24, .word32 plan.vehicleProfileIdentity),
    (28, .word32 plan.missionIdentity),
    (32, .word32 plan.earthIdentity),
    (36, .word32 plan.environmentIdentity),
    (40, .word32 plan.onboardPredictionModel),
    (44, .word32 plan.groundPredictionModel),
    (48, .word32 plan.requiredCapabilities),
    (52, .byte plan.eventCount),
    (53, .byte plan.branchCount),
    (54, .byte plan.decisionCount)]

/-- The header, and of each table the entries in use. -/
def kmp11Cells (plan : MissionPlan) : Layout :=
  kmp11HeaderCells plan
    ++ (Layout.table kmp11EventLength eventCells kmp11EventOffset
        (plan.events.toList.take plan.eventCount.toNat)
      ++ (Layout.table kmp11BranchLength branchCells kmp11BranchOffset
          (plan.branches.toList.take plan.branchCount.toNat)
        ++ Layout.table kmp11DecisionLength decisionCells kmp11DecisionOffset
          (plan.decisions.toList.take plan.decisionCount.toNat)))

def writeKmp11 (plan : MissionPlan) (output : List UInt8) : Except CodecError (List UInt8) := do
  reject (output.length ≠ kmp11Length) .length
  validatePlan plan
  pure (sealRecord 2044 (kmp11Cells plan))

/-! ## The entries -/

section Entries

variable {input : List UInt8} {index : Nat}

theorem fits_event (offset : Nat) (value : MissionPlanEvent) :
    Layout.Fits (offset + kmp11EventLength) offset (eventCells offset value) := by
  simp [eventCells, kmp11EventLength]

theorem decodeEvent_eq_ok {value : MissionPlanEvent} :
    decodeEvent input index = .ok value ↔
      Layout.Reads (kmp11EventOffset + index * kmp11EventLength + kmp11EventLength) input
        (kmp11EventOffset + index * kmp11EventLength)
        (eventCells (kmp11EventOffset + index * kmp11EventLength) value) := by
  unfold decodeEvent
  generalize kmp11EventOffset + index * kmp11EventLength = offset
  simp only [bind_eq_ok, reject_eq_ok, pure_eq_ok, exists_const, not_or, not_not,
    MissionEventKind.parse_eq_ok, MissionEventTrigger.parse_eq_ok,
    MissionFailurePolicy.parse_eq_ok]
  constructor
  · rintro ⟨⟨h7, h47⟩, kind, hkind, trigger, htrigger, policy, hpolicy, rfl⟩
    simp [eventCells, kmp11EventLength, h7, h47, hkind, htrigger, hpolicy]
    rfl
  · intro hreads
    simp [eventCells, kmp11EventLength] at hreads
    obtain ⟨hid, hkind, htrigger, hflags, hpolicy, h7, hearliest, hlatest, hexact, hprerequisites,
      hcapabilities, harguments, hmetric, hcomparison, h47⟩ := hreads
    refine ⟨⟨h7, h47⟩, value.kind, hkind.symm, value.trigger, htrigger.symm, value.failurePolicy,
      hpolicy.symm, ?_⟩
    change (⟨_, _, _, _, _, _, _, _, _, _, readI32s 4 input (offset + 28), _, _⟩ :
      MissionPlanEvent) = value
    rw [hid, hflags, hearliest, hlatest, hexact, hprerequisites, hcapabilities, harguments,
      hmetric, hcomparison]

theorem fits_branch (offset : Nat) (value : ContingencyBranch) :
    Layout.Fits (offset + kmp11BranchLength) offset (branchCells offset value) := by
  simp [branchCells, kmp11BranchLength]

theorem decodeBranch_eq_ok {value : ContingencyBranch} :
    decodeBranch input index = .ok value ↔
      Layout.Reads (kmp11BranchOffset + index * kmp11BranchLength + kmp11BranchLength) input
        (kmp11BranchOffset + index * kmp11BranchLength)
        (branchCells (kmp11BranchOffset + index * kmp11BranchLength) value) := by
  unfold decodeBranch
  generalize kmp11BranchOffset + index * kmp11BranchLength = offset
  simp only [bind_eq_ok, reject_eq_ok, pure_eq_ok, exists_const, not_or, not_not]
  constructor
  · rintro ⟨⟨h6, h7⟩, rfl⟩
    simp [branchCells, kmp11BranchLength, h6, h7]
  · intro hreads
    simp [branchCells, kmp11BranchLength, eq_toUInt32_iff] at hreads
    obtain ⟨hid, hsource, hfirst, hflags, ⟨h6, h7⟩, hearliest, hlatest, hprerequisites,
      hcapabilities, hargument, hargument'⟩ := hreads
    have harguments : #v[value.arguments[0], value.arguments[1]] = value.arguments := by
      ext i hi
      obtain rfl | rfl : i = 0 ∨ i = 1 := by omega
      all_goals rfl
    refine ⟨⟨h6, h7⟩, ?_⟩
    rw [hid, hsource, hfirst, hflags, hearliest, hlatest, hprerequisites, hcapabilities,
      hargument, hargument', harguments]

theorem fits_decision (offset : Nat) (value : OperatorDecisionPoint) :
    Layout.Fits (offset + kmp11DecisionLength) offset (decisionCells offset value) := by
  simp [decisionCells, kmp11DecisionLength]

theorem decodeDecision_eq_ok {value : OperatorDecisionPoint} :
    decodeDecision input index = .ok value ↔
      Layout.Reads (kmp11DecisionOffset + index * kmp11DecisionLength + kmp11DecisionLength)
        input (kmp11DecisionOffset + index * kmp11DecisionLength)
        (decisionCells (kmp11DecisionOffset + index * kmp11DecisionLength) value) := by
  unfold decodeDecision
  generalize kmp11DecisionOffset + index * kmp11DecisionLength = offset
  simp only [bind_eq_ok, reject_eq_ok, pure_eq_ok, exists_const, Bool.not_eq_true,
    anyNonzero_eq_false]
  constructor
  · rintro ⟨hzero, rfl⟩
    simp [decisionCells, hzero]
  · intro hreads
    simp [decisionCells] at hreads
    obtain ⟨hid, hdefault, hflags, hearliest, hlatest, hrequired, htimeout, hzero⟩ := hreads
    refine ⟨hzero, ?_⟩
    rw [hid, hdefault, hflags, hearliest, hlatest, hrequired, htimeout]

end Entries

/-! ## The tables -/

section Tables

variable {α : Type} {n len base stop : Nat} {input : List UInt8} {count : UInt8} {empty : α}
  {decode : Nat → Except CodecError α} {cellsAt : Nat → α → Layout} {entries : Vector α n}

/-- A table whose other entries are empty is decoded from its entries in use. -/
theorem decodeTable_eq_ok
    (hdecode : ∀ index value, decode index = .ok value ↔
      Layout.Reads (base + index * len + len) input (base + index * len)
        (cellsAt (base + index * len) value))
    (hcells : ∀ offset value, Layout.Fits (offset + len) offset (cellsAt offset value))
    (hcount : count.toNat ≤ n) (hstop : base + count.toNat * len ≤ stop)
    (hunused : ∀ i : Fin n, count.toNat ≤ i.val → entries[i] = empty) :
    decodeTable n count empty decode = .ok entries ∧ ZeroOn input (base + count.toNat * len) stop ↔
      Layout.Reads stop input base
        (Layout.table len cellsAt base (entries.toList.take count.toNat)) := by
  have hentries := @Layout.decodeEntries_eq_ok _ len base cellsAt _ n count.toNat stop empty decode
    (fun _ ↦ True) entries input (by simpa using hdecode) hcells hcount hstop
  rw [and_iff_right fun _ _ ↦ trivial, and_iff_right hunused] at hentries
  exact hentries

variable {ι : Type} [DecidableEq α] [DecidableEq ι] {wellFormed : α → Bool} {identifier : α → ι}

/-- A table that passes its check is empty past its count. -/
theorem unused_of_validateTable
    (h : validateTable entries count empty wellFormed identifier = .ok ()) (i : Fin n)
    (hi : count.toNat ≤ i.val) : entries[i] = empty := by
  have hentry := forM_eq_ok.mp h i (List.mem_finRange i)
  dsimp only at hentry
  rw [if_pos hi] at hentry
  by_contra hne
  rw [if_pos (show entries.get i ≠ empty from hne)] at hentry
  cases hentry

end Tables

/-! ## Plans -/

section Plans

variable {input : List UInt8} {plan : MissionPlan}

/-- What the reading of the tables rests on: no count is past its table, and what a count
leaves out is empty. -/
structure TablesFit (plan : MissionPlan) : Prop where
  events : plan.eventCount.toNat ≤ kmp11MaxEvents
  branches : plan.branchCount.toNat ≤ kmp11MaxBranches
  decisions : plan.decisionCount.toNat ≤ kmp11MaxDecisions
  unusedEvents : ∀ i : Fin kmp11MaxEvents, plan.eventCount.toNat ≤ i.val →
    plan.events[i] = .empty
  unusedBranches : ∀ i : Fin kmp11MaxBranches, plan.branchCount.toNat ≤ i.val →
    plan.branches[i] = .empty
  unusedDecisions : ∀ i : Fin kmp11MaxDecisions, plan.decisionCount.toNat ≤ i.val →
    plan.decisions[i] = .empty

theorem tablesFit_of_validatePlan (h : validatePlan plan = .ok ()) : TablesFit plan := by
  simp only [validatePlan, bind_eq_ok, reject_eq_ok, exists_const, not_or, Nat.not_lt] at h
  obtain ⟨⟨-, -, -, -, -, -, -, -, -, hevents, hbranches, hdecisions⟩, ⟨⟩, hevents', ⟨⟩, hbranches',
    hdecisions'⟩ := h
  exact ⟨hevents, hbranches, hdecisions, unused_of_validateTable hevents',
    unused_of_validateTable hbranches', unused_of_validateTable hdecisions'⟩

namespace TablesFit

theorem events_end (h : TablesFit plan) :
    kmp11EventOffset + plan.eventCount.toNat * kmp11EventLength ≤ 1280 := by
  have hevents := h.events
  unfold kmp11MaxEvents at hevents
  unfold kmp11EventOffset kmp11EventLength
  omega

theorem branches_end (h : TablesFit plan) :
    kmp11BranchOffset + plan.branchCount.toNat * kmp11BranchLength ≤ 1536 := by
  have hbranches := h.branches
  unfold kmp11MaxBranches at hbranches
  unfold kmp11BranchOffset kmp11BranchLength
  omega

theorem decisions_end (h : TablesFit plan) :
    kmp11DecisionOffset + plan.decisionCount.toNat * kmp11DecisionLength ≤ 1728 := by
  have hdecisions := h.decisions
  unfold kmp11MaxDecisions at hdecisions
  unfold kmp11DecisionOffset kmp11DecisionLength
  omega

end TablesFit

@[simp] theorem length_kmp11Magic : kmp11Magic.length = 4 := rfl

theorem fits_kmp11Header (plan : MissionPlan) : Layout.Fits 128 0 (kmp11HeaderCells plan) := by
  simp [kmp11HeaderCells]

theorem length_take_toList_le {α : Type} {n : Nat} (entries : Vector α n) (count : Nat) :
    (entries.toList.take count).length ≤ n := by
  rw [List.length_take, Vector.length_toList]
  exact Nat.min_le_right ..

theorem fits_events (plan : MissionPlan) :
    Layout.Fits 1280 128 (Layout.table kmp11EventLength eventCells kmp11EventOffset
      (plan.events.toList.take plan.eventCount.toNat)) := by
  refine Layout.fits_table fits_event ?_
  have hlength := length_take_toList_le plan.events plan.eventCount.toNat
  unfold kmp11MaxEvents kmp11EventLength at *
  omega

theorem fits_branches (plan : MissionPlan) :
    Layout.Fits 1536 1280 (Layout.table kmp11BranchLength branchCells kmp11BranchOffset
      (plan.branches.toList.take plan.branchCount.toNat)) := by
  refine Layout.fits_table fits_branch ?_
  have hlength := length_take_toList_le plan.branches plan.branchCount.toNat
  unfold kmp11MaxBranches kmp11BranchLength at *
  omega

theorem fits_decisions (plan : MissionPlan) :
    Layout.Fits 2044 1536 (Layout.table kmp11DecisionLength decisionCells kmp11DecisionOffset
      (plan.decisions.toList.take plan.decisionCount.toNat)) := by
  refine Layout.fits_table fits_decision ?_
  have hlength := length_take_toList_le plan.decisions plan.decisionCount.toNat
  unfold kmp11MaxDecisions kmp11DecisionLength at *
  omega

theorem fits_kmp11 (plan : MissionPlan) : Layout.Fits 2044 0 (kmp11Cells plan) :=
  Layout.fits_append (fits_kmp11Header plan) <| Layout.fits_append (fits_events plan) <|
    Layout.fits_append (fits_branches plan) (fits_decisions plan)

/-- A plan is read region by region. -/
theorem reads_kmp11 (h : TablesFit plan) :
    Layout.Reads 2044 input 0 (kmp11Cells plan) ↔
      Layout.Reads 128 input 0 (kmp11HeaderCells plan)
        ∧ (decodeTable kmp11MaxEvents plan.eventCount .empty (decodeEvent input)
              = .ok plan.events
            ∧ ZeroOn input (kmp11EventOffset + plan.eventCount.toNat * kmp11EventLength) 1280)
        ∧ (decodeTable kmp11MaxBranches plan.branchCount .empty (decodeBranch input)
              = .ok plan.branches
            ∧ ZeroOn input (kmp11BranchOffset + plan.branchCount.toNat * kmp11BranchLength) 1536)
        ∧ decodeTable kmp11MaxDecisions plan.decisionCount .empty (decodeDecision input)
              = .ok plan.decisions
            ∧ ZeroOn input (kmp11DecisionOffset + plan.decisionCount.toNat * kmp11DecisionLength)
              2044 := by
  unfold kmp11Cells
  rw [Layout.reads_append (fits_kmp11Header plan) (Layout.fits_append (fits_events plan)
      (Layout.fits_append (fits_branches plan) (fits_decisions plan))),
    Layout.reads_append (fits_events plan)
      (Layout.fits_append (fits_branches plan) (fits_decisions plan)),
    Layout.reads_append (fits_branches plan) (fits_decisions plan)]
  refine and_congr_right fun _ ↦ and_congr ?_ (and_congr ?_ ?_)
  · exact (decodeTable_eq_ok (fun _ _ ↦ decodeEvent_eq_ok) fits_event h.events h.events_end
      h.unusedEvents).symm
  · exact (decodeTable_eq_ok (fun _ _ ↦ decodeBranch_eq_ok) fits_branch h.branches h.branches_end
      h.unusedBranches).symm
  · exact (decodeTable_eq_ok (fun _ _ ↦ decodeDecision_eq_ok) fits_decision h.decisions
      (Nat.le_trans h.decisions_end (by decide)) h.unusedDecisions).symm

theorem decodeKmp11_eq_ok (h : TablesFit plan) :
    decodeKmp11 input = .ok plan ↔ input = sealRecord 2044 (kmp11Cells plan) := by
  rw [eq_sealRecord_iff (fits_kmp11 plan), reads_kmp11 h]
  simp only [decodeKmp11, bind_eq_ok, reject_eq_ok, pure_eq_ok, exists_const, not_or, not_not,
    Bool.not_eq_true, anyNonzero_eq_false, FlightSoftwarePackageId.parse_eq_ok,
    FlightAbiId.parse_eq_ok]
  constructor
  · rintro ⟨hlen, ⟨hmagic, hversion, hlength⟩, hcrc, ⟨hzero, hzero'⟩, -, events, hevents, heventsZero,
      branches, hbranches, hbranchesZero, decisions, hdecisions, hdecisionsZero, package, hpackage,
      abi, habi, rfl⟩
    have hlength : read16 input 6 = 2048 := UInt16.toNat_inj.mp hlength
    refine ⟨hlen, hcrc, ?_, ⟨hevents, heventsZero⟩, ⟨hbranches, hbranchesZero⟩, hdecisions, ?_⟩
    · simp [kmp11HeaderCells, hmagic, hversion, hlength, hpackage, habi, hzero]
    · exact (zeroOn_split h.decisions_end (by decide)).mpr ⟨hdecisionsZero, hzero'⟩
  · rintro ⟨hlen, hcrc, hheader, ⟨hevents, heventsZero⟩, ⟨hbranches, hbranchesZero⟩, hdecisions,
      hdecisionsZero⟩
    simp [kmp11HeaderCells] at hheader
    obtain ⟨hmagic, hversion, hlength, hidentity, hmanifest, hpackage, habi, hvehicle, hmission,
      hearth, henvironment, honboard, hground, hcapabilities, heventCount, hbranchCount,
      hdecisionCount, hzero⟩ := hheader
    obtain ⟨hdecisionsZero, hzero'⟩ :=
      (zeroOn_split h.decisions_end (show 1728 ≤ 2044 by decide)).mp hdecisionsZero
    have hcounts : plan.eventCount.toNat ≤ kmp11MaxEvents ∧ plan.branchCount.toNat ≤ kmp11MaxBranches
        ∧ plan.decisionCount.toNat ≤ kmp11MaxDecisions := ⟨h.events, h.branches, h.decisions⟩
    simp only [heventCount, hbranchCount, hdecisionCount, hidentity, hmanifest, hvehicle, hmission,
      hearth, henvironment, honboard, hground, hcapabilities, Nat.not_lt]
    refine ⟨hlen, ⟨hmagic, hversion, ?_⟩, hcrc, ⟨hzero, hzero'⟩, hcounts, plan.events, hevents,
      heventsZero, plan.branches, hbranches, hbranchesZero, plan.decisions, hdecisions,
      hdecisionsZero, plan.package, hpackage.symm, plan.abi, habi.symm, rfl⟩
    rw [hlength]
    rfl

/-- The parser accepts what the writer makes of the checked plans, and nothing else. -/
theorem parseKmp11_eq_ok :
    parseKmp11 input = .ok plan ↔
      validatePlan plan = .ok () ∧ input = sealRecord 2044 (kmp11Cells plan) := by
  simp only [parseKmp11, bind_eq_ok, pure_eq_ok]
  constructor
  · rintro ⟨_, hdecode, ⟨⟩, hvalid, rfl⟩
    exact ⟨hvalid, (decodeKmp11_eq_ok (tablesFit_of_validatePlan hvalid)).mp hdecode⟩
  · rintro ⟨hvalid, hinput⟩
    exact ⟨plan, (decodeKmp11_eq_ok (tablesFit_of_validatePlan hvalid)).mpr hinput, (), hvalid,
      rfl⟩

/-- The writer and the parser are inverse to one another, between the plans that pass the
check and the strings that are accepted. -/
theorem kmp11_bijection :
    (∀ (plan : MissionPlan) (output : List UInt8), output.length = kmp11Length →
        validatePlan plan = .ok () →
        ∃ bytes, writeKmp11 plan output = .ok bytes ∧ parseKmp11 bytes = .ok plan)
      ∧ ∀ (bytes : List UInt8) (plan : MissionPlan), parseKmp11 bytes = .ok plan →
        validatePlan plan = .ok ()
          ∧ ∀ output : List UInt8, output.length = kmp11Length →
            writeKmp11 plan output = .ok bytes := by
  have hwrite {plan : MissionPlan} {output bytes : List UInt8} :
      writeKmp11 plan output = .ok bytes ↔ output.length = kmp11Length
        ∧ validatePlan plan = .ok () ∧ bytes = sealRecord 2044 (kmp11Cells plan) := written_iff
  constructor
  · intro plan output hlength hvalid
    exact ⟨_, hwrite.mpr ⟨hlength, hvalid, rfl⟩, parseKmp11_eq_ok.mpr ⟨hvalid, rfl⟩⟩
  · intro bytes plan h
    obtain ⟨hvalid, hbytes⟩ := parseKmp11_eq_ok.mp h
    exact ⟨hvalid, fun output hlength ↦ hwrite.mpr ⟨hlength, hvalid, hbytes⟩⟩

end Plans

end Ksa64.Interface
