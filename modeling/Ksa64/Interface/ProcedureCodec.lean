import Ksa64.Interface.Procedure
import Ksa64.Interface.PlanCodec

/-!
# The codec of procedure packs

The writer checks what it writes: the header, and of the steps and predicates those in use.  The
parser checks what it reads, and more: it finds the entry step among the steps.  What is not in
use it returns empty.  So the parser accepts what the writer makes of a pack, and returns the
pack, exactly if the pack is `Tidy`; and whatever it accepts is what the writer makes of it
(`kpc11_round_trip_iff`).
-/

namespace Ksa64.Interface

open Ksa64.Library

def kpc11Length : Nat := 4096
def kpc11HeaderLength : Nat := 128
def kpc11StepLength : Nat := 60
def kpc11CrcOffset : Nat := kpc11Length - 4
def kpc11Magic : List UInt8 := [0x4b, 0x50, 0x43, 0x31]

/-! ## Wire values -/

def ProcedureStepKind.code : ProcedureStepKind → UInt8
  | .observe => 1
  | .verify => 2
  | .acknowledge => 3
  | .wait => 4
  | .requestAction => 5
  | .branch => 6
  | .caution => 7
  | .warning => 8
  | .complete => 9
  | .skip => 10
  | .fail => 11

def ProcedureStepKind.parse (value : UInt8) : Except CodecError ProcedureStepKind :=
  match value with
  | 1 => pure .observe
  | 2 => pure .verify
  | 3 => pure .acknowledge
  | 4 => pure .wait
  | 5 => pure .requestAction
  | 6 => pure .branch
  | 7 => pure .caution
  | 8 => pure .warning
  | 9 => pure .complete
  | 10 => pure .skip
  | 11 => pure .fail
  | _ => throw .enum

@[simp] theorem ProcedureStepKind.parse_eq_ok {value : UInt8} {x : ProcedureStepKind} :
    ProcedureStepKind.parse value = .ok x ↔ x.code = value := by
  constructor
  · intro h
    unfold ProcedureStepKind.parse at h
    split at h <;> cases h <;> rfl
  · rintro rfl
    cases x <;> rfl

def ProcedureComparison.code : ProcedureComparison → UInt8
  | .equal => 1
  | .notEqual => 2
  | .less => 3
  | .lessOrEqual => 4
  | .greater => 5
  | .greaterOrEqual => 6
  | .bitSet => 7
  | .bitClear => 8

def ProcedureComparison.parse (value : UInt8) : Except CodecError ProcedureComparison :=
  match value with
  | 1 => pure .equal
  | 2 => pure .notEqual
  | 3 => pure .less
  | 4 => pure .lessOrEqual
  | 5 => pure .greater
  | 6 => pure .greaterOrEqual
  | 7 => pure .bitSet
  | 8 => pure .bitClear
  | _ => throw .enum

@[simp] theorem ProcedureComparison.parse_eq_ok {value : UInt8} {x : ProcedureComparison} :
    ProcedureComparison.parse value = .ok x ↔ x.code = value := by
  constructor
  · intro h
    unfold ProcedureComparison.parse at h
    split at h <;> cases h <;> rfl
  · rintro rfl
    cases x <;> rfl

/-- The value of the action of a step, 0 if there is none. -/
def actionCode (action : Option UplinkLoadType) : UInt8 := action.elim 0 UplinkLoadType.code

def parseAction (value : UInt8) : Except CodecError (Option UplinkLoadType) :=
  match value with
  | 0 => pure none
  | 1 => pure (some .groundNavigationUpdate)
  | 2 => pure (some .missionEventTarget)
  | 3 => pure (some .contingencyBranch)
  | 4 => pure (some .navigationMode)
  | 5 => pure (some .highLevelMode)
  | _ => throw .enum

@[simp] theorem parseAction_eq_ok {value : UInt8} {x : Option UplinkLoadType} :
    parseAction value = .ok x ↔ actionCode x = value := by
  constructor
  · intro h
    unfold parseAction at h
    split at h <;> cases h <;> rfl
  · rintro rfl
    cases x with
    | none => rfl
    | some x => cases x <;> rfl

/-! ## Writing -/

def predicateCells (offset : Nat) (value : ProcedurePredicate) : Layout :=
  [(offset, .word16 value.metricId),
    (offset + 2, .byte value.comparison.code),
    (offset + 3, .byte value.flags),
    (offset + 4, .word32 value.threshold.toUInt32)]

def stepHeadCells (offset : Nat) (value : ProcedureStep) : Layout :=
  [(offset, .word16 value.stepId),
    (offset + 2, .byte value.kind.code),
    (offset + 3, .byte value.flags),
    (offset + 4, .word16 value.nextComplete),
    (offset + 6, .word16 value.nextFailure),
    (offset + 8, .word32 value.timeoutEpochs),
    (offset + 12, .byte (actionCode value.action)),
    (offset + 13, .byte value.predicateCount),
    (offset + 14, .word16 value.hintIdentity),
    (offset + 16, .word32 value.messageIdentity),
    (offset + 20, .word32 (getElem value.actionArguments 0 Pair.first_lt).toUInt32),
    (offset + 24, .word32 (getElem value.actionArguments 1 Pair.second_lt).toUInt32)]

/-- The head of a step, and the predicates in use. -/
def stepCells (offset : Nat) (value : ProcedureStep) : Layout :=
  stepHeadCells offset value
    ++ Layout.table 8 predicateCells (offset + 28)
      (value.predicates.toList.take value.predicateCount.toNat)

def kpc11HeaderCells (value : ProcedurePack) : Layout :=
  [(0, .bytes kpc11Magic),
    (4, .byte 11),
    (6, .word16 4096),
    (8, .word32 value.packIdentity),
    (12, .word32 value.planIdentity),
    (16, .word32 value.procedureIdentity),
    (20, .word32 value.metricCatalogIdentity),
    (24, .word32 value.nameIdentity),
    (28, .word16 value.stepCount),
    (30, .word16 value.entryStep),
    (32, .word32 value.flags)]

/-- The header, and the steps in use. -/
def kpc11Cells (value : ProcedurePack) : Layout :=
  kpc11HeaderCells value
    ++ Layout.table kpc11StepLength stepCells kpc11HeaderLength
      (value.steps.toList.take value.stepCount.toNat)

def checkPredicate (value : ProcedurePredicate) : Except CodecError Unit :=
  reject (value.metricId = 0 ∨ value.flags &&& ~~~1 ≠ 0) .flags

/-- The checks that the writer of a step makes. -/
def checkStep (value : ProcedureStep) : Except CodecError Unit := do
  reject
    (value.stepId = 0
      ∨ value.flags &&& ~~~7 ≠ 0
      ∨ 4 < value.predicateCount.toNat
      ∨ value.messageIdentity = 0) .flags
  (value.predicates.toList.take value.predicateCount.toNat).forM checkPredicate

def writeKpc11 (value : ProcedurePack) (output : List UInt8) : Except CodecError (List UInt8) := do
  reject
    (output.length ≠ kpc11Length
      ∨ value.packIdentity = 0
      ∨ value.planIdentity = 0
      ∨ value.procedureIdentity = 0
      ∨ value.metricCatalogIdentity = 0
      ∨ value.nameIdentity = 0
      ∨ value.stepCount = 0
      ∨ kpc11MaxSteps < value.stepCount.toNat
      ∨ value.entryStep = 0
      ∨ value.flags &&& ~~~3 ≠ 0) .flags
  (value.steps.toList.take value.stepCount.toNat).forM checkStep
  pure (sealRecord kpc11CrcOffset (kpc11Cells value))

/-! ## Parsing -/

def parsePredicate (input : List UInt8) (offset : Nat) : Except CodecError ProcedurePredicate := do
  let comparison ← ProcedureComparison.parse (readByte input (offset + 2))
  let value : ProcedurePredicate := {
    metricId := read16 input offset
    comparison := comparison
    flags := readByte input (offset + 3)
    threshold := (read32 input (offset + 4)).toInt32 }
  checkPredicate value
  pure value

def parseStep (input : List UInt8) (offset : Nat) : Except CodecError ProcedureStep := do
  let predicateCount := readByte input (offset + 13)
  reject (4 < predicateCount.toNat) .flags
  let action ← parseAction (readByte input (offset + 12))
  let predicates ← Layout.decodeEntries 4 predicateCount.toNat .empty
    fun index ↦ parsePredicate input (offset + 28 + index * 8)
  reject (anyNonzero input (offset + 28 + predicateCount.toNat * 8) (offset + kpc11StepLength))
    .reserved
  let kind ← ProcedureStepKind.parse (readByte input (offset + 2))
  let value : ProcedureStep := {
    stepId := read16 input offset
    kind := kind
    flags := readByte input (offset + 3)
    nextComplete := read16 input (offset + 4)
    nextFailure := read16 input (offset + 6)
    timeoutEpochs := read32 input (offset + 8)
    action := action
    predicateCount := predicateCount
    hintIdentity := read16 input (offset + 14)
    messageIdentity := read32 input (offset + 16)
    actionArguments := #v[(read32 input (offset + 20)).toInt32, (read32 input (offset + 24)).toInt32]
    predicates := predicates }
  reject (value.stepId = 0 ∨ value.flags &&& ~~~7 ≠ 0 ∨ value.messageIdentity = 0) .flags
  pure value

def parseKpc11 (input : List UInt8) : Except CodecError ProcedurePack := do
  reject (input.length ≠ kpc11Length) .length
  reject
    (slice input 0 4 ≠ kpc11Magic
      ∨ readByte input 4 ≠ 11
      ∨ (read16 input 6).toNat ≠ kpc11Length) .enum
  reject (crc32Ieee (slice input 0 kpc11CrcOffset) ≠ read32 input kpc11CrcOffset) .checksum
  reject (readByte input 5 ≠ 0 ∨ anyNonzero input 36 kpc11HeaderLength) .reserved
  let stepCount := read16 input 28
  let usedEnd := kpc11HeaderLength + stepCount.toNat * kpc11StepLength
  reject
    (stepCount = 0
      ∨ kpc11MaxSteps < stepCount.toNat
      ∨ kpc11CrcOffset < usedEnd
      ∨ anyNonzero input usedEnd kpc11CrcOffset) .reserved
  let steps ← Layout.decodeEntries kpc11MaxSteps stepCount.toNat .empty
    fun index ↦ parseStep input (kpc11HeaderLength + index * kpc11StepLength)
  let value : ProcedurePack := {
    packIdentity := read32 input 8
    planIdentity := read32 input 12
    procedureIdentity := read32 input 16
    metricCatalogIdentity := read32 input 20
    nameIdentity := read32 input 24
    stepCount := stepCount
    entryStep := read16 input 30
    flags := read32 input 32
    steps := steps }
  reject
    (value.packIdentity = 0
      ∨ value.planIdentity = 0
      ∨ value.procedureIdentity = 0
      ∨ value.metricCatalogIdentity = 0
      ∨ value.nameIdentity = 0
      ∨ value.entryStep = 0
      ∨ value.flags &&& ~~~3 ≠ 0
      ∨ ¬(value.steps.toList.take value.stepCount.toNat).any (·.stepId == value.entryStep)) .flags
  pure value

/-! ## Steps -/

section Steps

variable {input : List UInt8} {offset : Nat}

theorem fits_predicate (offset : Nat) (value : ProcedurePredicate) :
    Layout.Fits (offset + 8) offset (predicateCells offset value) := by
  simp [predicateCells]

theorem parsePredicate_eq_ok {value : ProcedurePredicate} :
    parsePredicate input offset = .ok value ↔
      checkPredicate value = .ok ()
        ∧ Layout.Reads (offset + 8) input offset (predicateCells offset value) := by
  simp only [parsePredicate, bind_eq_ok, pure_eq_ok, ProcedureComparison.parse_eq_ok]
  constructor
  · rintro ⟨comparison, hcomparison, ⟨⟩, hcheck, rfl⟩
    refine ⟨hcheck, ?_⟩
    simp [predicateCells, hcomparison]
  · rintro ⟨hcheck, hreads⟩
    simp [predicateCells, eq_toUInt32_iff] at hreads
    obtain ⟨hmetric, hcomparison, hflags, hthreshold⟩ := hreads
    refine ⟨value.comparison, hcomparison.symm, (), ?_⟩
    rw [hmetric, hflags, hthreshold]
    exact ⟨hcheck, rfl⟩

theorem fits_stepHead (offset : Nat) (value : ProcedureStep) :
    Layout.Fits (offset + 28) offset (stepHeadCells offset value) := by
  simp [stepHeadCells]

theorem fits_predicates (offset : Nat) (value : ProcedureStep) :
    Layout.Fits (offset + kpc11StepLength) (offset + 28)
      (Layout.table 8 predicateCells (offset + 28)
        (value.predicates.toList.take value.predicateCount.toNat)) := by
  refine Layout.fits_table fits_predicate ?_
  have hlength := length_take_toList_le value.predicates value.predicateCount.toNat
  unfold kpc11StepLength
  omega

theorem fits_step (offset : Nat) (value : ProcedureStep) :
    Layout.Fits (offset + kpc11StepLength) offset (stepCells offset value) :=
  Layout.fits_append (fits_stepHead offset value) (fits_predicates offset value)

/-- The entries in use of a table. -/
theorem forall_mem_take_toList {α : Type} {n count : Nat} {slots : Vector α n} {P : α → Prop} :
    (∀ x ∈ slots.toList.take count, P x) ↔ ∀ i : Fin n, i.val < count → P (getElem slots i i.isLt) := by
  constructor
  · intro h i hi
    refine h _ (List.mem_take_iff_getElem.mpr ⟨i, ?_, ?_⟩)
    · rw [Vector.length_toList]
      exact Nat.lt_min.mpr ⟨hi, i.isLt⟩
    · rw [Vector.getElem_toList]
      rfl
  · intro h x hx
    obtain ⟨i, hi, rfl⟩ := List.mem_take_iff_getElem.mp hx
    rw [Vector.length_toList] at hi
    rw [Vector.getElem_toList]
    exact h ⟨i, (Nat.lt_min.mp hi).2⟩ (Nat.lt_min.mp hi).1

/-- The predicates past the count are empty. -/
def PredicatesTidy (value : ProcedureStep) : Prop :=
  ∀ i : Fin 4, value.predicateCount.toNat ≤ i.val → value.predicates[i] = .empty

theorem checkStep_eq_ok {value : ProcedureStep} :
    checkStep value = .ok () ↔
      (value.stepId ≠ 0 ∧ value.flags &&& ~~~7 = 0 ∧ value.predicateCount.toNat ≤ 4
        ∧ value.messageIdentity ≠ 0)
      ∧ ∀ i : Fin 4, i.val < value.predicateCount.toNat →
          checkPredicate value.predicates[i] = .ok () := by
  simp only [checkStep, bind_eq_ok, reject_eq_ok, exists_const, not_or, not_not, Nat.not_lt]
  rw [forM_eq_ok, forall_mem_take_toList]

theorem parseStep_eq_ok {value : ProcedureStep} :
    parseStep input offset = .ok value ↔
      (checkStep value = .ok () ∧ PredicatesTidy value)
        ∧ Layout.Reads (offset + kpc11StepLength) input offset (stepCells offset value) := by
  have hpredicates {count : Nat} (hcount : count ≤ 4) (predicates : Vector ProcedurePredicate 4) :=
    @Layout.decodeEntries_eq_ok _ 8 (offset + 28) predicateCells _ 4 count (offset + kpc11StepLength)
      .empty (fun index ↦ parsePredicate input (offset + 28 + index * 8))
      (fun value ↦ checkPredicate value = .ok ()) predicates input
      (fun _ _ ↦ parsePredicate_eq_ok) fits_predicate hcount (by unfold kpc11StepLength; omega)
  rw [stepCells, Layout.reads_append (fits_stepHead offset value) (fits_predicates offset value),
    checkStep_eq_ok]
  simp only [parseStep, bind_eq_ok, reject_eq_ok, pure_eq_ok, exists_const, not_or, not_not,
    Nat.not_lt, parseAction_eq_ok, ProcedureStepKind.parse_eq_ok, Bool.not_eq_true,
    anyNonzero_eq_false]
  constructor
  · rintro ⟨hcount, action, haction, predicates, hdecode, hzero, kind, hkind,
      ⟨hid, hflags, hmessage⟩, rfl⟩
    obtain ⟨hchecks, htidy, htable⟩ := (hpredicates hcount predicates).mp ⟨hdecode, hzero⟩
    refine ⟨⟨⟨⟨hid, hflags, hcount, hmessage⟩, hchecks⟩, htidy⟩, ?_, htable⟩
    simp [stepHeadCells, haction, hkind]
  · rintro ⟨⟨⟨⟨hid, hflags, hcount, hmessage⟩, hchecks⟩, htidy⟩, hhead, htable⟩
    simp [stepHeadCells, eq_toUInt32_iff] at hhead
    obtain ⟨hstepId, hkind, hstepFlags, hcomplete, hfailure, htimeout, haction, hpredicateCount, hhint,
      hmessageIdentity, hargument, hargument'⟩ := hhead
    obtain ⟨hdecode, hzero⟩ := (hpredicates hcount value.predicates).mpr ⟨hchecks, htidy, htable⟩
    have harguments : #v[value.actionArguments[0], value.actionArguments[1]] =
        value.actionArguments := by
      ext i hi
      obtain rfl | rfl : i = 0 ∨ i = 1 := by omega
      all_goals rfl
    simp only [hstepId, hstepFlags, hcomplete, hfailure, htimeout, hpredicateCount, hhint,
      hmessageIdentity, hargument, hargument', harguments]
    exact ⟨hcount, value.action, haction.symm, value.predicates, hdecode, hzero, value.kind,
      hkind.symm, ⟨hid, hflags, hmessage⟩, rfl⟩

end Steps

/-! ## Packs -/

section Packs

variable {input output bytes : List UInt8} {pack : ProcedurePack}

@[simp] theorem length_kpc11Magic : kpc11Magic.length = 4 := rfl

theorem fits_kpc11Header (pack : ProcedurePack) :
    Layout.Fits kpc11HeaderLength 0 (kpc11HeaderCells pack) := by
  simp [kpc11HeaderCells, kpc11HeaderLength]

theorem fits_steps (pack : ProcedurePack) :
    Layout.Fits kpc11CrcOffset kpc11HeaderLength
      (Layout.table kpc11StepLength stepCells kpc11HeaderLength
        (pack.steps.toList.take pack.stepCount.toNat)) := by
  refine Layout.fits_table fits_step ?_
  have hlength : (pack.steps.toList.take pack.stepCount.toNat).length ≤ 64 :=
    length_take_toList_le ..
  unfold kpc11StepLength kpc11HeaderLength kpc11CrcOffset kpc11Length
  omega

theorem fits_kpc11 (pack : ProcedurePack) : Layout.Fits kpc11CrcOffset 0 (kpc11Cells pack) :=
  Layout.fits_append (fits_kpc11Header pack) (fits_steps pack)

/-- What the writer wants of the header. -/
def HeaderWritable (pack : ProcedurePack) : Prop :=
  pack.packIdentity ≠ 0 ∧ pack.planIdentity ≠ 0 ∧ pack.procedureIdentity ≠ 0
    ∧ pack.metricCatalogIdentity ≠ 0 ∧ pack.nameIdentity ≠ 0 ∧ pack.stepCount ≠ 0
    ∧ pack.stepCount.toNat ≤ kpc11MaxSteps ∧ pack.entryStep ≠ 0 ∧ pack.flags &&& ~~~3 = 0

/-- The entry step is among the steps in use, and what is not in use is empty. -/
structure Tidy (pack : ProcedurePack) : Prop where
  entry : ∃ step ∈ pack.steps.toList.take pack.stepCount.toNat, step.stepId = pack.entryStep
  steps : ∀ i : Fin kpc11MaxSteps, pack.stepCount.toNat ≤ i.val → pack.steps[i] = .empty
  predicates : ∀ i : Fin kpc11MaxSteps, i.val < pack.stepCount.toNat → PredicatesTidy pack.steps[i]

theorem writeKpc11_eq_ok :
    writeKpc11 pack output = .ok bytes ↔
      output.length = kpc11Length ∧ HeaderWritable pack
        ∧ (∀ i : Fin kpc11MaxSteps, i.val < pack.stepCount.toNat →
            checkStep pack.steps[i] = .ok ())
        ∧ bytes = sealRecord kpc11CrcOffset (kpc11Cells pack) := by
  have hsteps : (pack.steps.toList.take pack.stepCount.toNat).forM checkStep = .ok () ↔
      ∀ i : Fin kpc11MaxSteps, i.val < pack.stepCount.toNat → checkStep pack.steps[i] = .ok () := by
    rw [forM_eq_ok, forall_mem_take_toList]
  simp only [writeKpc11, bind_eq_ok, reject_eq_ok, pure_eq_ok, exists_const, not_or, not_not,
    Nat.not_lt, HeaderWritable, ← hsteps]
  constructor
  · rintro ⟨⟨hlength, hheader⟩, ⟨⟩, hchecks, rfl⟩
    exact ⟨hlength, hheader, hchecks, rfl⟩
  · rintro ⟨hlength, hheader, hchecks, rfl⟩
    exact ⟨⟨hlength, hheader⟩, (), hchecks, rfl⟩

/-- The parser accepts what the writer makes of the tidy packs, and nothing else. -/
theorem parseKpc11_eq_ok :
    parseKpc11 input = .ok pack ↔
      HeaderWritable pack
        ∧ (∀ i : Fin kpc11MaxSteps, i.val < pack.stepCount.toNat →
            checkStep pack.steps[i] = .ok ())
        ∧ Tidy pack ∧ input = sealRecord kpc11CrcOffset (kpc11Cells pack) := by
  have hsteps {count : Nat} (hcount : count ≤ 64) (steps : Vector ProcedureStep kpc11MaxSteps) :=
    @Layout.decodeEntries_eq_ok _ kpc11StepLength kpc11HeaderLength stepCells _ kpc11MaxSteps count
      kpc11CrcOffset .empty
      (fun index ↦ parseStep input (kpc11HeaderLength + index * kpc11StepLength))
      (fun step ↦ checkStep step = .ok () ∧ PredicatesTidy step) steps input
      (fun _ _ ↦ parseStep_eq_ok) fits_step hcount
      (by unfold kpc11HeaderLength kpc11StepLength kpc11CrcOffset kpc11Length; omega)
  rw [eq_sealRecord_iff (fits_kpc11 pack), kpc11Cells,
    Layout.reads_append (fits_kpc11Header pack) (fits_steps pack)]
  simp only [parseKpc11, bind_eq_ok, reject_eq_ok, pure_eq_ok, exists_const, not_or, not_not,
    Nat.not_lt, Bool.not_eq_true, anyNonzero_eq_false, HeaderWritable]
  constructor
  · rintro ⟨hlength, ⟨hmagic, hversion, hlen⟩, hcrc, ⟨h5, h36⟩, ⟨hnonempty, hcount, -, hzero⟩, steps,
      hdecode, ⟨hpack, hplan, hprocedure, hcatalog, hname, hentry, hflags, hfound⟩, rfl⟩
    obtain ⟨hentries, hunused, htable⟩ := (hsteps hcount steps).mp ⟨hdecode, hzero⟩
    have hlen : read16 input 6 = 4096 := UInt16.toNat_inj.mp hlen
    refine ⟨⟨hpack, hplan, hprocedure, hcatalog, hname, hnonempty, hcount, hentry, hflags⟩,
      fun i hi ↦ (hentries i hi).1, ⟨?_, hunused, fun i hi ↦ (hentries i hi).2⟩, hlength, hcrc, ?_,
      htable⟩
    · simpa using hfound
    · simp [kpc11HeaderCells, kpc11HeaderLength, hmagic, hversion, hlen, h5]
      exact h36
  · rintro ⟨⟨hpack, hplan, hprocedure, hcatalog, hname, hnonempty, hcount, hentry, hflags⟩, hchecks,
      htidy, hlength, hcrc, hheader, htable⟩
    obtain ⟨hdecode, hzero⟩ := (hsteps hcount pack.steps).mpr
      ⟨fun i hi ↦ ⟨hchecks i hi, htidy.predicates i hi⟩, htidy.steps, htable⟩
    simp [kpc11HeaderCells] at hheader
    obtain ⟨hmagic, hversion, h5, hlen, hpackIdentity, hplanIdentity, hprocedureIdentity,
      hcatalogIdentity, hnameIdentity, hstepCount, hentryStep, hpackFlags, h36⟩ := hheader
    simp only [hpackIdentity, hplanIdentity, hprocedureIdentity, hcatalogIdentity, hnameIdentity,
      hstepCount, hentryStep, hpackFlags]
    refine ⟨hlength, ⟨hmagic, hversion, by rw [hlen]; rfl⟩, hcrc, ⟨h5, h36⟩,
      ⟨hnonempty, hcount, ?_, hzero⟩, pack.steps, hdecode,
      ⟨hpack, hplan, hprocedure, hcatalog, hname, hentry, hflags, ?_⟩, rfl⟩
    · unfold kpc11HeaderLength kpc11StepLength kpc11CrcOffset kpc11Length
      unfold kpc11MaxSteps at hcount
      omega
    · simpa using htidy.entry

/-- **Round trips**: what the writer makes of a pack is parsed as the pack exactly if the pack is
tidy, and whatever is parsed as a pack is what the writer makes of it. -/
theorem kpc11_round_trip_iff (pack : ProcedurePack) (bytes : List UInt8) :
    (∀ output, writeKpc11 pack output = .ok bytes → (parseKpc11 bytes = .ok pack ↔ Tidy pack))
      ∧ (parseKpc11 bytes = .ok pack → ∀ output : List UInt8, output.length = kpc11Length →
        writeKpc11 pack output = .ok bytes) := by
  constructor
  · intro output h
    obtain ⟨-, hheader, hsteps, hbytes⟩ := writeKpc11_eq_ok.mp h
    rw [parseKpc11_eq_ok]
    exact ⟨fun h ↦ h.2.2.1, fun htidy ↦ ⟨hheader, hsteps, htidy, hbytes⟩⟩
  · intro h output hlength
    obtain ⟨hheader, hsteps, -, hbytes⟩ := parseKpc11_eq_ok.mp h
    exact writeKpc11_eq_ok.mpr ⟨hlength, hheader, hsteps, hbytes⟩

def loneStep : ProcedureStep :=
  { ProcedureStep.empty with
    stepId := 1
    kind := .complete
    messageIdentity := 1 }

/-- A pack of one step that is entered at another. -/
def strayEntryPack : ProcedurePack where
  packIdentity := 1
  planIdentity := 1
  procedureIdentity := 1
  metricCatalogIdentity := 1
  nameIdentity := 1
  stepCount := 1
  entryStep := 2
  flags := 0
  steps := Vector.ofFn fun index ↦ if index.val = 0 then loneStep else .empty

/-- The writer takes the stray entry, the parser does not. -/
theorem strayEntry_not_parsed :
    ¬∀ (pack : ProcedurePack) (output bytes : List UInt8), writeKpc11 pack output = .ok bytes →
      parseKpc11 bytes = .ok pack := by
  intro h
  have hwrite : writeKpc11 strayEntryPack (List.replicate kpc11Length 0) =
      .ok (sealRecord kpc11CrcOffset (kpc11Cells strayEntryPack)) := by
    refine writeKpc11_eq_ok.mpr ⟨List.length_replicate, by unfold HeaderWritable; decide, ?_, rfl⟩
    rintro ⟨i, hbound⟩ hi
    obtain rfl : i = 0 := Nat.lt_one_iff.mp hi
    have hstep : strayEntryPack.steps[(⟨0, hbound⟩ : Fin kpc11MaxSteps)] = loneStep := by
      simp [strayEntryPack]
    rw [hstep]
    decide
  obtain ⟨-, -, htidy, -⟩ := parseKpc11_eq_ok.mp (h _ _ _ hwrite)
  exact absurd htidy.entry (by decide)

end Packs

end Ksa64.Interface
