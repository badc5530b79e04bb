import Ksa64.Host.ArchiveResume
import Ksa64.Host.AvionicsSummary

/-!
# The evidence in an archive

Behind the generations an archive holds the evidence: for each candidate, in the order of their
identities, the records of its flights.  The scanner first looks for the end of the generations, by
the magic words and the lengths in the headers, and scans the generations and the evidence behind
them.  What it accepts is made of an archive of generations and of the segments of evidence for
candidates in them (`scanSearchArchive_eq_ok_iff`).
-/

namespace Ksa64.Host

open Ksa64.Library Ksa64.Interface

def kre9HeaderLength : Nat := 32
def kre9Magic : List UInt8 := [0x4b, 0x52, 0x45, 0x39]

/-- The record of a flight.  Of what is known of a case, it is what is archived. -/
abbrev Kas8Bytes := Vector UInt8 kas8Length

structure ArchivedCandidateEvidence where
  candidateIdentity : UInt32
  uncertaintyTier : UInt8
  records : List Kas8Bytes
deriving DecidableEq

structure SearchArchiveScan where
  manifestIdentity : UInt32
  generations : List SearchGeneration
  evidence : List ArchivedCandidateEvidence
  validLength : Nat
deriving DecidableEq

/-- The numbers of cases that there are. -/
def TierCount (count : Nat) : Prop := count = 1 ∨ count = 8 ∨ count = 64

instance (count : Nat) : Decidable (TierCount count) :=
  inferInstanceAs (Decidable (_ ∨ _ ∨ _))

/-! ## Writing -/

namespace ArchivedCandidateEvidence

/-- The length of a segment of evidence. -/
def segmentLength (e : ArchivedCandidateEvidence) : Nat :=
  kre9HeaderLength + e.records.length * kas8Length + 4

def kre9Cells (e : ArchivedCandidateEvidence) (manifest : UInt32) : Layout :=
  [(0, .bytes kre9Magic),
    (4, .word16 9),
    (6, .word16 32),
    (8, .word32 (UInt32.ofNat e.segmentLength)),
    (12, .word32 manifest),
    (16, .word32 e.candidateIdentity),
    (20, .byte e.uncertaintyTier),
    (21, .byte (UInt8.ofNat e.records.length)),
    (32, .bytes (e.records.flatMap Vector.toList))]

/-- The segment of evidence. -/
@[irreducible] def segmentBytes (manifest : UInt32) (e : ArchivedCandidateEvidence) : List UInt8 :=
  sealRecord (e.segmentLength - 4) (e.kre9Cells manifest)

end ArchivedCandidateEvidence

/-- The evidence of an evaluation. -/
def CandidateEvaluation.evidence (value : CandidateEvaluation Kas8Bytes) :
    ArchivedCandidateEvidence where
  candidateIdentity := value.aggregate.candidateIdentity
  uncertaintyTier := value.aggregate.uncertaintyTier
  records := value.cases

def evidenceSegment (manifest : UInt32) (value : CandidateEvaluation Kas8Bytes) :
    Except ArchiveError (List UInt8) := do
  reject (value.cases.length ≠ value.aggregate.uncertaintyTier.toNat
    ∨ ¬TierCount value.cases.length) .length
  value.cases.forM fun kas8 ↦ do
    let _ ← (parseAvionicsSummary kas8.toList).mapError fun _ ↦ ArchiveError.decode
    pure ()
  pure (value.evidence.segmentBytes manifest)

/-- Segments of evidence, no two in a row for one candidate. -/
def encodeEvidence (manifest : UInt32) :
    Option UInt32 → List (CandidateEvaluation Kas8Bytes) → Except ArchiveError (List UInt8)
  | _, [] => pure []
  | previous, value :: rest => do
      reject (previous = some value.aggregate.candidateIdentity) .sequence
      let bytes ← evidenceSegment manifest value
      let output ← encodeEvidence manifest (some value.aggregate.candidateIdentity) rest
      pure (bytes ++ output)

/-- The evaluations by the identities of their candidates. -/
def orderedEvidence (evidence : List (CandidateEvaluation Kas8Bytes)) :
    List (CandidateEvaluation Kas8Bytes) :=
  evidence.mergeSort fun a b ↦ a.aggregate.candidateIdentity ≤ b.aggregate.candidateIdentity

def encodeSearchArchive (manifest : UInt32) (generations : List SearchGeneration)
    (evidence : List (CandidateEvaluation Kas8Bytes)) : Except ArchiveError (List UInt8) := do
  let output ← encodeArchive manifest generations
  let segments ← encodeEvidence manifest none (orderedEvidence evidence)
  pure (output ++ segments)

/-! ## Scanning -/

/-- Where the generations end: the segments in front with their magic word. -/
def generationEnd : Nat → List UInt8 → Except ArchiveError Nat
  | 0, _ => pure 0
  | fuel + 1, rest =>
      if kra9Magic <+: rest then do
        reject (rest.length < kra9HeaderLength) .length
        let length := (read32 rest 8).toNat
        reject (length < kra9HeaderLength + 4 ∨ rest.length < length) .length
        let stop ← generationEnd fuel (rest.drop length)
        pure (length + stop)
      else pure 0

/-- What the scanner of the evidence knows. -/
structure EvidenceState where
  previous : Option UInt32
  evidence : List ArchivedCandidateEvidence
deriving DecidableEq

/-- The record of a flight, at the front of what is left. -/
def parseCase (rest : List UInt8) : Except ArchiveError Kas8Bytes := do
  let _ ← (parseAvionicsSummary (slice rest 0 kas8Length)).mapError fun _ ↦ ArchiveError.decode
  pure (readBytes kas8Length rest 0)

/-- A round of the scanner: the evidence of a candidate at the front of what is left. -/
def scanEvidence (manifest : UInt32) (known : List UInt32) (s : EvidenceState) (rest : List UInt8) :
    Except ArchiveError (EvidenceState × Nat) := do
  reject (rest.length < kre9HeaderLength + 4 ∨ slice rest 0 4 ≠ kre9Magic) .magic
  reject (read16 rest 4 ≠ 9 ∨ (read16 rest 6).toNat ≠ kre9HeaderLength) .version
  let length := (read32 rest 8).toNat
  let candidate := read32 rest 16
  let tier := readByte rest 20
  let count := (readByte rest 21).toNat
  reject (read32 rest 12 ≠ manifest ∨ candidate ∉ known) .identity
  reject (s.previous.any fun value ↦ candidate ≤ value) .sequence
  reject (anyNonzero rest 22 kre9HeaderLength ∨ ¬TierCount count ∨ tier.toNat ≠ count
    ∨ length ≠ kre9HeaderLength + count * kas8Length + 4 ∨ rest.length < length) .length
  reject (crc32Ieee (slice rest 0 (length - 4)) ≠ read32 rest (length - 4)) .checksum
  let records ← (List.range count).mapM fun i ↦
    parseCase (rest.drop (kre9HeaderLength + i * kas8Length))
  pure (⟨some candidate, s.evidence ++ [⟨candidate, tier, records⟩]⟩, length)

/-- The candidates of the generations. -/
def knownCandidates (generations : List SearchGeneration) : List UInt32 :=
  generations.flatMap fun g ↦ g.candidates.map DesignVector.identity

def scanSearchArchive (input : List UInt8) : Except ArchiveError SearchArchiveScan := do
  let stop ← generationEnd input.length input
  let base ← scanArchive (input.take stop)
  let known := knownCandidates base.generations
  let s ← scanAll (scanEvidence base.manifestIdentity known) ⟨none, []⟩ (input.drop stop)
  pure ⟨base.manifestIdentity, base.generations, s.evidence, input.length⟩

/-! ## The spelling of evidence -/

namespace ArchivedCandidateEvidence

/-- What the writer and the scanner ask of evidence: a record for each case of the tier. -/
structure Archivable (e : ArchivedCandidateEvidence) : Prop where
  tier : TierCount e.records.length
  count : e.uncertaintyTier.toNat = e.records.length
  records : ∀ record ∈ e.records, ∃ r, parseAvionicsSummary record.toList = .ok r

variable {e : ArchivedCandidateEvidence} {manifest : UInt32} {rest : List UInt8}

@[simp] theorem length_kre9Magic : kre9Magic.length = 4 := rfl

theorem segmentLength_eq (e : ArchivedCandidateEvidence) :
    e.segmentLength = 32 + e.records.length * 256 + 4 := rfl

theorem TierCount.le {count : Nat} (h : TierCount count) : count ≤ 64 := by
  rcases h with rfl | rfl | rfl <;> decide

theorem length_records (e : ArchivedCandidateEvidence) :
    (e.records.flatMap Vector.toList).length = e.records.length * 256 := by
  generalize e.records = records
  induction records with
  | nil => rfl
  | cons record records ih =>
      rw [List.flatMap_cons, List.length_append, Vector.length_toList, ih, List.length_cons,
        Nat.succ_mul, Nat.add_comm]
      rfl

theorem fits_kre9 (e : ArchivedCandidateEvidence) (manifest : UInt32) :
    Layout.Fits (e.segmentLength - 4) 0 (e.kre9Cells manifest) := by
  have hrecords := e.length_records
  simp only [kre9Cells, Layout.Fits, Cell.length, length_kre9Magic, hrecords, segmentLength_eq]
  omega

theorem length_segmentBytes (e : ArchivedCandidateEvidence) (manifest : UInt32) :
    (e.segmentBytes manifest).length = e.segmentLength := by
  rw [segmentBytes, length_sealRecord (e.fits_kre9 manifest), segmentLength_eq, Nat.add_sub_cancel]

/-- A segment of evidence at the front of what is left, field by field. -/
theorem segmentBytes_prefix_iff (hcount : e.records.length ≤ 64) :
    e.segmentBytes manifest <+: rest ↔
      e.segmentLength ≤ rest.length
        ∧ crc32Ieee (slice rest 0 (e.segmentLength - 4)) = read32 rest (e.segmentLength - 4)
        ∧ slice rest 0 4 = kre9Magic
        ∧ read16 rest 4 = 9
        ∧ read16 rest 6 = 32
        ∧ (read32 rest 8).toNat = e.segmentLength
        ∧ read32 rest 12 = manifest
        ∧ read32 rest 16 = e.candidateIdentity
        ∧ readByte rest 20 = e.uncertaintyTier
        ∧ (readByte rest 21).toNat = e.records.length
        ∧ ZeroOn rest 22 32
        ∧ ∀ i (h : i < e.records.length),
            (rest.drop (32 + i * 256)).take kas8Length = e.records[i].toList := by
  have hlen := e.length_segmentBytes manifest
  have hfour : e.segmentLength - 4 + 4 = e.segmentLength := by
    rw [segmentLength_eq, Nat.add_sub_cancel]
  have hfits := e.fits_kre9 manifest
  have hrecords := e.length_records
  have hword : read32 rest 8 = UInt32.ofNat e.segmentLength ↔
      (read32 rest 8).toNat = e.segmentLength := by
    rw [← UInt32.toNat_inj, UInt32.toNat_ofNat_of_lt']
    rw [segmentLength_eq]
    exact lt_of_le_of_lt (Nat.add_le_add_right (Nat.add_le_add_left
      (Nat.mul_le_mul_right 256 hcount) 32) 4) (by decide)
  have hbyte : readByte rest 21 = UInt8.ofNat e.records.length ↔
      (readByte rest 21).toNat = e.records.length := by
    rw [← UInt8.toNat_inj, UInt8.toNat_ofNat_of_lt' (lt_of_le_of_lt hcount (by decide))]
  by_cases hle : e.segmentLength ≤ rest.length
  · have htake : e.segmentBytes manifest <+: rest ↔
        rest.take (e.segmentLength - 4 + 4) = sealRecord (e.segmentLength - 4) (e.kre9Cells manifest) := by
      rw [List.prefix_iff_eq_take, hlen, hfour, ← segmentBytes, eq_comm]
    have htable : slice rest 32 (32 + e.records.length * 256) = e.records.flatMap Vector.toList ↔
        ∀ i (h : i < e.records.length),
          (rest.drop (32 + i * 256)).take kas8Length = e.records[i].toList := by
      rw [segmentLength_eq] at hle
      have hsize : ∀ record ∈ e.records, record.toList.length = 256 :=
        fun record _ ↦ record.length_toList
      rw [eq_flatMap_iff hsize
        (by rw [length_slice (by omega), Nat.add_sub_cancel_left])]
      refine forall_congr' fun i ↦ forall_congr' fun h ↦ ?_
      have hi : (i + 1) * 256 ≤ e.records.length * 256 := Nat.mul_le_mul_right 256 h
      have hmin : min 256 (32 + e.records.length * 256 - (32 + i * 256)) = 256 := by omega
      rw [slice, List.drop_drop, List.drop_take, List.take_take, hmin]
      rfl
    rw [htake, take_eq_sealRecord_iff (hfour ▸ hle) hfits, and_iff_right hle]
    have hend : e.segmentLength - 4 = 32 + e.records.length * 256 := by
      rw [segmentLength_eq, Nat.add_sub_cancel]
    simp only [kre9Cells, Layout.Reads, zeroOn_self, Cell.readsAs_bytes, Cell.readsAs_word16,
      Cell.readsAs_word32, Cell.readsAs_byte, Cell.length, length_kre9Magic, hrecords, hword, hbyte,
      htable, hend, true_and, and_true]
  · refine iff_of_false (fun h ↦ hle ?_) fun h ↦ hle h.1
    rw [← hlen]
    exact h.length_le

end ArchivedCandidateEvidence

section Evidence

variable {manifest : UInt32} {known : List UInt32} {s t : EvidenceState} {rest : List UInt8} {n : Nat}
  {e : ArchivedCandidateEvidence} {es : List ArchivedCandidateEvidence}

/-- The record of a flight at the front of what is left. -/
theorem parseCase_eq_ok {record : Kas8Bytes} (hlen : kas8Length ≤ rest.length) :
    parseCase rest = .ok record ↔
      rest.take kas8Length = record.toList ∧ ∃ r, parseAvionicsSummary record.toList = .ok r := by
  have hslice : slice rest 0 kas8Length = rest.take kas8Length := List.drop_zero
  have hread : rest.take kas8Length = record.toList ↔ readBytes kas8Length rest 0 = record := by
    rw [← hslice, ← slice_eq_toList_iff (by rwa [Nat.zero_add]), Nat.zero_add]
  unfold parseCase
  simp only [bind_eq_ok, mapError_eq_ok, pure_eq_ok, hslice]
  constructor
  · rintro ⟨r, hparse, hrecord⟩
    have htake := hread.mpr hrecord
    exact ⟨htake, r, htake ▸ hparse⟩
  · rintro ⟨htake, r, hparse⟩
    exact ⟨r, htake ▸ hparse, hread.mp htake⟩

/-- The scanner takes evidence for a candidate that is known, behind those of lower identities. -/
structure EvidenceState.Takes (known : List UInt32) (s : EvidenceState)
    (e : ArchivedCandidateEvidence) : Prop where
  known : e.candidateIdentity ∈ known
  previous : ∀ value ∈ s.previous, value < e.candidateIdentity
  archivable : e.Archivable

def EvidenceState.advance (s : EvidenceState) (e : ArchivedCandidateEvidence) : EvidenceState :=
  ⟨some e.candidateIdentity, s.evidence ++ [e]⟩

theorem any_le_eq_false {previous : Option UInt32} {candidate : UInt32} :
    (previous.any fun value ↦ decide (candidate ≤ value)) = false ↔
      ∀ value ∈ previous, value < candidate := by
  cases previous with
  | none => exact iff_of_true rfl (by rintro value ⟨⟩)
  | some value =>
      rw [Option.any_some, decide_eq_false_iff_not, UInt32.not_le]
      constructor
      · rintro hlt _ ⟨⟩
        exact hlt
      · intro hall
        exact hall value rfl

/-- A round of the scanner takes off the segment of some evidence, and nothing else. -/
theorem scanEvidence_eq_ok :
    scanEvidence manifest known s rest = .ok (t, n) ↔
      ∃ e : ArchivedCandidateEvidence, s.Takes known e ∧ e.segmentBytes manifest <+: rest
        ∧ t = s.advance e ∧ n = (e.segmentBytes manifest).length := by
  unfold scanEvidence
  simp only [bind_eq_ok, reject_eq_ok, pure_eq_ok, exists_const, not_or, not_not, not_lt,
    Bool.not_eq_true, anyNonzero_eq_false, any_le_eq_false, mapM_range_eq_ok]
  constructor
  · rintro ⟨⟨-, hmagic⟩, ⟨hversion, hheader⟩, ⟨hmanifest, hknown⟩, hprevious,
      ⟨hzero, htier, hcount, hlength, hle⟩, hcrc, records, ⟨hrecords, hall⟩, heq⟩
    let e : ArchivedCandidateEvidence := ⟨read32 rest 16, readByte rest 20, records⟩
    have hsegment : (read32 rest 8).toNat = e.segmentLength := by
      rw [hlength, ← hrecords]
      rfl
    rw [hsegment] at hle hcrc heq
    have htier : TierCount e.records.length := hrecords ▸ htier
    have hcases : ∀ i (h : i < e.records.length),
        (rest.drop (32 + i * 256)).take kas8Length = e.records[i].toList
          ∧ ∃ r, parseAvionicsSummary e.records[i].toList = .ok r := by
      intro i hi
      refine (parseCase_eq_ok ?_).mp (hall i hi)
      have hi' : (i + 1) * 256 ≤ e.records.length * 256 := Nat.mul_le_mul_right 256 hi
      rw [e.segmentLength_eq] at hle
      rw [List.length_drop]
      show 256 ≤ rest.length - (32 + i * 256)
      omega
    refine ⟨e, ⟨hknown, hprevious, htier, hcount.trans hrecords.symm, ?_⟩, ?_,
      (congrArg Prod.fst heq).symm, ?_⟩
    · intro record hrecord
      obtain ⟨i, hi, rfl⟩ := List.mem_iff_getElem.mp hrecord
      exact (hcases i hi).2
    · exact (ArchivedCandidateEvidence.segmentBytes_prefix_iff
        (ArchivedCandidateEvidence.TierCount.le htier)).mpr
        ⟨hle, hcrc, hmagic, hversion, UInt16.toNat_inj.mp hheader, hsegment, hmanifest, rfl, rfl,
          hrecords.symm, hzero, fun i hi ↦ (hcases i hi).1⟩
    · rw [e.length_segmentBytes]
      exact (congrArg Prod.snd heq).symm
  · rintro ⟨e, ⟨hknown, hprevious, he⟩, hbegins, rfl, rfl⟩
    obtain ⟨hle, hcrc, hmagic, hversion, hheader, hsegment, hmanifest, hcandidate, htier, hcount,
      hzero, hall⟩ := (ArchivedCandidateEvidence.segmentBytes_prefix_iff
        (ArchivedCandidateEvidence.TierCount.le he.tier)).mp hbegins
    have hfour : 36 ≤ e.segmentLength := by
      rw [e.segmentLength_eq]
      omega
    rw [hsegment, e.length_segmentBytes, hcandidate, htier, hcount]
    refine ⟨⟨hfour.trans hle, hmagic⟩, ⟨hversion, by rw [hheader]; rfl⟩, ⟨hmanifest, hknown⟩, hprevious,
      ⟨hzero, he.tier, he.count, rfl, hle⟩, hcrc, e.records, ⟨rfl, fun i hi ↦ ?_⟩, rfl⟩
    refine (parseCase_eq_ok ?_).mpr ⟨hall i hi, he.records _ (List.getElem_mem hi)⟩
    have hi' : (i + 1) * 256 ≤ e.records.length * 256 := Nat.mul_le_mul_right 256 hi
    rw [e.segmentLength_eq] at hle
    rw [List.length_drop]
    show 256 ≤ rest.length - (32 + i * 256)
    omega

/-- Evidence for candidates that are known, in the order of their identities. -/
structure EvidenceArchivable (known : List UInt32) (es : List ArchivedCandidateEvidence) : Prop where
  known : ∀ e ∈ es, e.candidateIdentity ∈ known
  ordered : es.Pairwise fun e f ↦ e.candidateIdentity < f.candidateIdentity
  archivable : ∀ e ∈ es, e.Archivable

theorem evidenceArchivable_nil : EvidenceArchivable known [] := by
  constructor
  · rintro e ⟨⟩
  · exact .nil
  · rintro e ⟨⟩

theorem evidenceArchivable_cons : EvidenceArchivable known (e :: es) ↔
    (e.candidateIdentity ∈ known ∧ (∀ f ∈ es, e.candidateIdentity < f.candidateIdentity)
      ∧ e.Archivable) ∧ EvidenceArchivable known es := by
  constructor
  · rintro ⟨hknown, hordered, harchivable⟩
    obtain ⟨hbehind, hrest⟩ := List.pairwise_cons.mp hordered
    exact ⟨⟨hknown e List.mem_cons_self, hbehind, harchivable e List.mem_cons_self⟩,
      fun f hf ↦ hknown f (List.mem_cons_of_mem _ hf), hrest,
      fun f hf ↦ harchivable f (List.mem_cons_of_mem _ hf)⟩
  · rintro ⟨⟨hknown, hbehind, harchivable⟩, hrest⟩
    exact ⟨List.forall_mem_cons.mpr ⟨hknown, hrest.known⟩,
      List.pairwise_cons.mpr ⟨hbehind, hrest.ordered⟩,
      List.forall_mem_cons.mpr ⟨harchivable, hrest.archivable⟩⟩

/-- The evidence of an archive, a log of its segments. -/
def kre9Format (manifest : UInt32) (known : List UInt32) :
    SegmentFormat ArchiveError EvidenceState ArchivedCandidateEvidence UInt8 where
  step := scanEvidence manifest known
  bytes := ArchivedCandidateEvidence.segmentBytes manifest
  Takes := EvidenceState.Takes known
  advance := EvidenceState.advance
  bytes_ne_nil e := by
    rw [ArchivedCandidateEvidence.segmentBytes]
    exact sealRecord_ne_nil _ _
  step_eq_ok _ _ _ _ _ := scanEvidence_eq_ok

/-- The scanner takes what is known and in order. -/
theorem takesAll_evidence :
    (kre9Format manifest known).TakesAll s es ↔
      (∀ value ∈ s.previous, ∀ e ∈ es, value < e.candidateIdentity)
        ∧ EvidenceArchivable known es := by
  induction es generalizing s with
  | nil => exact iff_of_true trivial ⟨by rintro _ - _ ⟨⟩, evidenceArchivable_nil⟩
  | cons e es ih =>
      rw [SegmentFormat.TakesAll, meets_cons, ← SegmentFormat.TakesAll, ih, evidenceArchivable_cons]
      constructor
      · rintro ⟨⟨hknown, hprevious, harchivable⟩, hbehind, hrest⟩
        have hlater := hbehind e.candidateIdentity rfl
        refine ⟨fun value hvalue ↦ List.forall_mem_cons.mpr ⟨hprevious value hvalue, ?_⟩,
          ⟨hknown, hlater, harchivable⟩, hrest⟩
        intro f hf
        exact UInt32.lt_trans (hprevious value hvalue) (hlater f hf)
      · rintro ⟨hprevious, ⟨hknown, hlater, harchivable⟩, hrest⟩
        refine ⟨⟨hknown, fun value hvalue ↦ hprevious value hvalue e List.mem_cons_self,
          harchivable⟩, ?_, hrest⟩
        rintro _ ⟨⟩
        exact hlater

theorem evidence_run : (run EvidenceState.advance s es).evidence = s.evidence ++ es := by
  induction es generalizing s with
  | nil => exact (List.append_nil _).symm
  | cons e es ih =>
      rw [run_cons, ih, EvidenceState.advance, List.append_assoc, List.singleton_append]

end Evidence

/-! ## The end of the generations -/

section Ends

variable {as : List ArchivedGeneration} {tail : List UInt8} {g : SearchGeneration} {manifest : UInt32}
  {rest : List UInt8}

/-- The header of a generation says what it is and where it ends. -/
theorem header_of_segment (hg : g.Archivable) (h : g.segmentBytes manifest <+: rest) :
    kra9Magic <+: rest ∧ 36 ≤ (read32 rest 8).toNat
      ∧ (read32 rest 8).toNat = (g.segmentBytes manifest).length := by
  obtain ⟨-, -, hmagic, -, -, hsegment, -⟩ :=
    (SearchGeneration.segmentBytes_prefix_iff hg.lengths hg.count).mp h
  have hlen : (g.segmentBytes manifest).length = g.segmentLength :=
    SearchGeneration.length_segmentBytes hg.lengths
  refine ⟨?_, ?_, hsegment.trans hlen.symm⟩
  · rw [← hmagic]
    exact List.take_prefix 4 rest
  · rw [hsegment, SearchGeneration.segmentLength_eq]
    omega

/-- The scanner finds the end of the generations if what is behind them begins otherwise. -/
theorem generationEnd_log (has : ∀ a ∈ as, a.2.Archivable) (htail : ¬kra9Magic <+: tail) {n : Nat}
    (hn : (kra9Format.log as ++ tail).length ≤ n) :
    generationEnd n (kra9Format.log as ++ tail) = .ok (kra9Format.log as).length := by
  induction as generalizing n with
  | nil =>
      rw [SegmentFormat.log_nil, List.nil_append]
      cases n with
      | zero => rfl
      | succ n => exact if_neg htail
  | cons a as ih =>
      obtain ⟨ha, has⟩ := List.forall_mem_cons.mp has
      have hpos := SegmentFormat.bytes_pos (F := kra9Format) a
      have hbegins : a.2.segmentBytes a.1 <+: kra9Format.log (a :: as) ++ tail := by
        rw [SegmentFormat.log_cons, List.append_assoc]
        exact List.prefix_append ..
      obtain ⟨hmagic, hlong, hlength⟩ := header_of_segment ha hbegins
      have hle := hbegins.length_le
      have hdrop : (kra9Format.log (a :: as) ++ tail).drop (a.2.segmentBytes a.1).length =
          kra9Format.log as ++ tail := by
        rw [SegmentFormat.log_cons, List.append_assoc]
        exact List.drop_left
      have hcount : (kra9Format.log (a :: as) ++ tail).length =
          (a.2.segmentBytes a.1).length + (kra9Format.log as ++ tail).length := by
        rw [SegmentFormat.log_cons, List.append_assoc, List.length_append]
        rfl
      replace hpos : 0 < (a.2.segmentBytes a.1).length := hpos
      obtain ⟨n, rfl⟩ : ∃ m, n = m + 1 := ⟨n - 1, by omega⟩
      have hrest := ih has (n := n) (by omega)
      rw [generationEnd, if_pos hmagic, hlength]
      dsimp only
      rw [hdrop]
      refine (reject_bind ?_ _).trans ((reject_bind ?_ _).trans ((bind_of_ok hrest _).trans ?_))
      · rw [hlength] at hlong
        exact Nat.not_lt.mpr (le_trans (by decide) (hlong.trans hle))
      · rw [not_or, Nat.not_lt, Nat.not_lt]
        exact ⟨hlength ▸ hlong, hle⟩
      · rw [SegmentFormat.log_cons, List.length_append]
        rfl

/-- Evidence does not look like a generation. -/
theorem not_kra9Magic_begins {es : List ArchivedCandidateEvidence} (hes : ∀ e ∈ es, e.Archivable) :
    ¬kra9Magic <+: es.flatMap (·.segmentBytes manifest) := by
  rintro ⟨ys, hys⟩
  cases es with
  | nil => cases hys
  | cons e es =>
      have hbegins : e.segmentBytes manifest <+: kra9Magic ++ ys := by
        rw [hys, List.flatMap_cons]
        exact List.prefix_append ..
      obtain ⟨-, -, hmagic, -⟩ := (ArchivedCandidateEvidence.segmentBytes_prefix_iff
        (ArchivedCandidateEvidence.TierCount.le (hes e List.mem_cons_self).tier)).mp hbegins
      cases hmagic

end Ends

/-- The scanner accepts an input exactly if it is made of an archive of generations and, behind it,
of segments of evidence for candidates in them, each candidate once and in the order of their
identities, that name the manifest of the generations. -/
theorem scanSearchArchive_eq_ok_iff {input : List UInt8} {scan : SearchArchiveScan} :
    scanSearchArchive input = .ok scan ↔
      scan.validLength = input.length
        ∧ EvidenceArchivable (knownCandidates scan.generations) scan.evidence
        ∧ ∃ front, scanArchive front = .ok ⟨scan.manifestIdentity, scan.generations, front.length⟩
          ∧ input = front ++ scan.evidence.flatMap (·.segmentBytes scan.manifestIdentity) := by
  unfold scanSearchArchive
  simp only [bind_eq_ok, pure_eq_ok]
  constructor
  · rintro ⟨stop, -, ⟨manifest, generations, validLength⟩, hbase, s, hs, rfl⟩
    obtain ⟨es, htakes, hlog, rfl⟩ :=
      (SegmentFormat.scanAll_eq_ok_iff (F := kre9Format manifest (knownCandidates generations))).mp hs
    obtain ⟨-, harchivable⟩ := takesAll_evidence.mp htakes
    obtain ⟨hlength, -⟩ := scanArchive_eq_ok_iff.mp hbase
    have hevidence : (run EvidenceState.advance ⟨none, []⟩ es).evidence = es := evidence_run
    refine ⟨rfl, ?_, input.take stop, ?_, ?_⟩
    · show EvidenceArchivable _ (run EvidenceState.advance ⟨none, []⟩ es).evidence
      rw [hevidence]
      exact harchivable
    · rw [hbase]
      exact congrArg (fun n ↦ Except.ok (ArchiveScan.mk manifest generations n)) hlength
    · show input = input.take stop
        ++ (run EvidenceState.advance ⟨none, []⟩ es).evidence.flatMap (·.segmentBytes manifest)
      rw [hevidence]
      conv_lhs => rw [← List.take_append_drop stop input, hlog]
      rfl
  · rintro ⟨hvalid, hevidence, front, hfront, hinput⟩
    obtain ⟨s, hs, heq⟩ := bind_eq_ok.mp hfront
    obtain ⟨as, htakes, hlog, hrun⟩ := (SegmentFormat.scanAll_eq_ok_iff (F := kra9Format)).mp hs
    obtain ⟨harchivable, -⟩ := (takesAll_of_unknown rfl).mp htakes
    have has : ∀ a ∈ as, a.2.Archivable :=
      fun a ha ↦ harchivable.archivable a.2 (List.mem_map_of_mem ha)
    have hstop : generationEnd input.length input = .ok front.length := by
      rw [hinput, hlog]
      exact generationEnd_log has (not_kra9Magic_begins hevidence.archivable) (Nat.le_refl _)
    refine ⟨front.length, hstop, ⟨scan.manifestIdentity, scan.generations, front.length⟩, ?_, ?_⟩
    · rw [hinput, List.take_left]
      exact hfront
    · have hscan := SegmentFormat.scanAll_log (F := kre9Format scan.manifestIdentity
        (knownCandidates scan.generations)) (s := ⟨none, []⟩)
        (takesAll_evidence.mpr ⟨by rintro _ ⟨⟩, hevidence⟩)
      refine ⟨run EvidenceState.advance ⟨none, []⟩ scan.evidence, ?_, ?_⟩
      · rw [hinput, List.drop_left]
        exact hscan
      · show SearchArchiveScan.mk scan.manifestIdentity scan.generations
          (run EvidenceState.advance ⟨none, []⟩ scan.evidence).evidence input.length = scan
        rw [evidence_run, List.nil_append, ← hvalid]

/-! ## What the writer writes -/

section Writer

variable {manifest : UInt32} {value : CandidateEvaluation Kas8Bytes} {bytes : List UInt8}
  {generations : List SearchGeneration} {evidence : List (CandidateEvaluation Kas8Bytes)}

/-- The writer writes the evidence that the scanner takes. -/
theorem evidenceSegment_eq_ok :
    evidenceSegment manifest value = .ok bytes ↔
      value.evidence.Archivable ∧ bytes = value.evidence.segmentBytes manifest := by
  have hcases : (value.cases.forM fun kas8 ↦ (do
      let _ ← (parseAvionicsSummary kas8.toList).mapError fun _ ↦ ArchiveError.decode
      pure ())) = .ok () ↔ ∀ record ∈ value.cases, ∃ r, parseAvionicsSummary record.toList = .ok r := by
    rw [forM_eq_ok]
    refine forall₂_congr fun record _ ↦ ?_
    simp only [bind_eq_ok, mapError_eq_ok, pure_eq_ok, and_true]
  unfold evidenceSegment
  rw [bind_eq_ok]
  simp only [bind_eq_ok, reject_eq_ok, pure_eq_ok, not_or, not_not]
  constructor
  · rintro ⟨-, ⟨hcount, htier⟩, _, hall, hbytes⟩
    exact ⟨⟨htier, hcount.symm, hcases.mp hall⟩, hbytes.symm⟩
  · rintro ⟨⟨htier, hcount, hall⟩, hbytes⟩
    exact ⟨(), ⟨hcount.symm, htier⟩, (), hcases.mpr hall, hbytes.symm⟩

/-- Only neighbours are compared. -/
theorem encodeEvidence_eq_ok {previous : Option UInt32} :
    encodeEvidence manifest previous evidence = .ok bytes ↔
      (∀ v ∈ evidence, v.evidence.Archivable)
        ∧ (previous.toList ++ evidence.map (·.aggregate.candidateIdentity)).IsChain (· ≠ ·)
        ∧ bytes = (evidence.map (·.evidence)).flatMap (·.segmentBytes manifest) := by
  induction evidence generalizing previous bytes with
  | nil =>
      rw [encodeEvidence, pure_eq_ok, List.map_nil, List.map_nil, List.flatMap_nil, List.append_nil]
      constructor
      · rintro rfl
        refine ⟨by rintro v ⟨⟩, ?_, rfl⟩
        cases previous with
        | none => exact .nil
        | some p => exact .singleton p
      · rintro ⟨-, -, rfl⟩
        rfl
  | cons v evidence ih =>
      have hchain : (previous.toList ++ (v :: evidence).map (·.aggregate.candidateIdentity)).IsChain
          (· ≠ ·) ↔ previous ≠ some v.aggregate.candidateIdentity
            ∧ ([v.aggregate.candidateIdentity]
              ++ evidence.map (·.aggregate.candidateIdentity)).IsChain (· ≠ ·) := by
        cases previous with
        | none => exact (and_iff_right (by rintro ⟨⟩)).symm
        | some p =>
            refine List.isChain_cons_cons.trans (and_congr_left fun _ ↦ not_congr ?_)
            exact Option.some_inj.symm
      rw [encodeEvidence, hchain, List.forall_mem_cons]
      simp only [bind_eq_ok, reject_eq_ok, pure_eq_ok, exists_const, evidenceSegment_eq_ok, ih,
        Option.toList_some, List.map_cons, List.flatMap_cons]
      constructor
      · rintro ⟨hprevious, _, ⟨hv, rfl⟩, _, ⟨hall, hrest, rfl⟩, hbytes⟩
        exact ⟨⟨hv, hall⟩, ⟨hprevious, hrest⟩, hbytes.symm⟩
      · rintro ⟨⟨hv, hall⟩, ⟨hprevious, hrest⟩, hbytes⟩
        exact ⟨hprevious, _, ⟨hv, rfl⟩, _, ⟨hall, hrest, rfl⟩, hbytes.symm⟩

theorem orderedEvidence_perm (evidence : List (CandidateEvaluation Kas8Bytes)) :
    (orderedEvidence evidence).Perm evidence := List.mergeSort_perm ..

theorem pairwise_orderedEvidence (evidence : List (CandidateEvaluation Kas8Bytes)) :
    ((orderedEvidence evidence).map (·.aggregate.candidateIdentity)).Pairwise (· ≤ ·) := by
  rw [List.pairwise_map]
  refine (List.pairwise_mergeSort ?_ ?_ evidence).imp of_decide_eq_true
  · intro a b c hab hbc
    exact decide_eq_true (UInt32.le_trans (of_decide_eq_true hab) (of_decide_eq_true hbc))
  · intro a b
    rw [Bool.or_eq_true, decide_eq_true_iff, decide_eq_true_iff]
    exact UInt32.le_total ..

/-- Of a list in order neighbours differ exactly if all do. -/
theorem isChain_ne_iff {ids : List UInt32} (h : ids.Pairwise (· ≤ ·)) :
    ids.IsChain (· ≠ ·) ↔ ids.Pairwise (· < ·) := by
  rw [← List.isChain_iff_pairwise]
  have hle := h.isChain
  clear h
  induction ids with
  | nil => exact iff_of_true .nil .nil
  | cons a ids ih =>
      cases ids with
      | nil => exact iff_of_true (.singleton a) (.singleton a)
      | cons b ids =>
          rw [List.isChain_cons_cons] at hle
          rw [List.isChain_cons_cons, List.isChain_cons_cons]
          exact and_congr ⟨UInt32.lt_of_le_of_ne hle.1, UInt32.ne_of_lt⟩ (ih hle.2)

theorem pairwise_lt_iff_nodup {ids : List UInt32} (h : ids.Pairwise (· ≤ ·)) :
    ids.Pairwise (· < ·) ↔ ids.Nodup :=
  ⟨List.Pairwise.imp UInt32.ne_of_lt,
    fun hnodup ↦ (h.and hnodup).imp fun h ↦ UInt32.lt_of_le_of_ne h.1 h.2⟩

/-- The writer writes the generations and behind them the evidence, sorted, if no two evaluations
are of one candidate. -/
theorem encodeSearchArchive_eq_ok :
    encodeSearchArchive manifest generations evidence = .ok bytes ↔
      (∀ g ∈ generations, g.Writable)
        ∧ (∀ v ∈ evidence, v.evidence.Archivable)
        ∧ (evidence.map (·.aggregate.candidateIdentity)).Nodup
        ∧ bytes = archiveBytes manifest generations
          ++ ((orderedEvidence evidence).map (·.evidence)).flatMap (·.segmentBytes manifest) := by
  have hperm := orderedEvidence_perm evidence
  have hordered := pairwise_orderedEvidence evidence
  have hmem : (∀ v ∈ orderedEvidence evidence, v.evidence.Archivable) ↔
      ∀ v ∈ evidence, v.evidence.Archivable := by
    simp only [hperm.mem_iff]
  unfold encodeSearchArchive
  simp only [bind_eq_ok, pure_eq_ok, encodeArchive_eq_ok, encodeEvidence_eq_ok, Option.toList_none,
    List.nil_append, hmem, isChain_ne_iff hordered, pairwise_lt_iff_nodup hordered,
    (hperm.map _).nodup_iff]
  constructor
  · rintro ⟨_, ⟨hwritable, rfl⟩, _, ⟨harchivable, hnodup, rfl⟩, hbytes⟩
    exact ⟨hwritable, harchivable, hnodup, hbytes.symm⟩
  · rintro ⟨hwritable, harchivable, hnodup, hbytes⟩
    exact ⟨_, ⟨hwritable, rfl⟩, _, ⟨harchivable, hnodup, rfl⟩, hbytes.symm⟩

/-- The evidence that the writer writes is in order. -/
theorem evidenceArchivable_ordered {known : List UInt32}
    (hknown : ∀ v ∈ evidence, v.aggregate.candidateIdentity ∈ known)
    (harchivable : ∀ v ∈ evidence, v.evidence.Archivable)
    (hnodup : (evidence.map (·.aggregate.candidateIdentity)).Nodup) :
    EvidenceArchivable known ((orderedEvidence evidence).map (·.evidence)) := by
  have hperm := orderedEvidence_perm evidence
  refine ⟨?_, ?_, ?_⟩
  · rw [List.forall_mem_map]
    exact fun v hv ↦ hknown v (hperm.mem_iff.mp hv)
  · have hlt := (pairwise_lt_iff_nodup (pairwise_orderedEvidence evidence)).mpr
      ((hperm.map _).nodup_iff.mpr hnodup)
    rw [List.pairwise_map] at hlt ⊢
    exact hlt
  · rw [List.forall_mem_map]
    exact fun v hv ↦ harchivable v (hperm.mem_iff.mp hv)

/-- The scanner reads back what the writer writes: the generations, and the evidence in the order of
the identities. -/
theorem scanSearchArchive_of_encode (hgenerations : ArchivableFrom 0 generations)
    (hknown : ∀ v ∈ evidence, v.aggregate.candidateIdentity ∈ knownCandidates generations)
    (h : encodeSearchArchive manifest generations evidence = .ok bytes) :
    scanSearchArchive bytes =
      .ok ⟨namedManifest manifest generations, generations,
        (orderedEvidence evidence).map (·.evidence), bytes.length⟩ := by
  obtain ⟨-, harchivable, hnodup, hbytes⟩ := encodeSearchArchive_eq_ok.mp h
  refine scanSearchArchive_eq_ok_iff.mpr
    ⟨rfl, evidenceArchivable_ordered hknown harchivable hnodup, archiveBytes manifest generations,
      scanArchive_archiveBytes hgenerations, ?_⟩
  rw [hbytes]
  by_cases hnil : generations = []
  · -- Without generations no candidate is known, and there is no evidence.
    obtain rfl : evidence = [] := by
      refine List.eq_nil_iff_forall_not_mem.mpr fun v hv ↦ ?_
      have hmem := hknown v hv
      rw [hnil] at hmem
      cases hmem
    have hnone : orderedEvidence [] = [] := List.mergeSort_nil
    simp only [hnone, List.map_nil, List.flatMap_nil]
  · rw [namedManifest, if_neg hnil]

/-- Evidence of different candidates has one order. -/
theorem orderedEvidence_of_perm {evidence' : List (CandidateEvaluation Kas8Bytes)}
    (hperm : evidence'.Perm evidence) (hnodup : (evidence.map (·.aggregate.candidateIdentity)).Nodup) :
    orderedEvidence evidence' = orderedEvidence evidence := by
  have hlt : ∀ {es : List (CandidateEvaluation Kas8Bytes)}, es.Perm evidence →
      (orderedEvidence es).Pairwise fun a b ↦ a.aggregate.candidateIdentity < b.aggregate.candidateIdentity := by
    intro es hes
    rw [← List.pairwise_map, pairwise_lt_iff_nodup (pairwise_orderedEvidence es),
      (((orderedEvidence_perm es).trans hes).map _).nodup_iff]
    exact hnodup
  refine List.Perm.eq_of_pairwise (fun a b _ _ hab hba ↦ ?_) (hlt hperm) (hlt (.refl evidence)) ?_
  · exact absurd hba (UInt32.lt_asymm hab)
  · exact ((orderedEvidence_perm evidence').trans hperm).trans (orderedEvidence_perm evidence).symm

/-- **Archives.**  The scanner accepts an input exactly if it is made of the segments of generations that
are numbered from zero, of which those behind some that name no manifest name the same, and of segments
of evidence that name it, too, for candidates of the generations, in the order of their identities. -/
theorem searchArchive_grammar (input : List UInt8) (scan : SearchArchiveScan) :
    scanSearchArchive input = .ok scan ↔
      scan.validLength = input.length ∧ ArchivableFrom 0 scan.generations
        ∧ EvidenceArchivable (knownCandidates scan.generations) scan.evidence
        ∧ ∃ k ≤ scan.generations.length,
          (k < scan.generations.length ↔ scan.manifestIdentity ≠ 0)
            ∧ input = (scan.generations.take k).flatMap (·.segmentBytes 0)
              ++ (scan.generations.drop k).flatMap (·.segmentBytes scan.manifestIdentity)
              ++ scan.evidence.flatMap (·.segmentBytes scan.manifestIdentity) := by
  rw [scanSearchArchive_eq_ok_iff]
  constructor
  · rintro ⟨hlength, hevidence, front, hfront, hinput⟩
    obtain ⟨-, hgenerations, k, hk, hnamed, hspelled⟩ := scanArchive_eq_ok_iff.mp hfront
    exact ⟨hlength, hgenerations, hevidence, k, hk, hnamed, hinput.trans (congrArg (· ++ _) hspelled)⟩
  · rintro ⟨hlength, hgenerations, hevidence, k, hk, hnamed, hinput⟩
    exact ⟨hlength, hevidence, _, scanArchive_eq_ok_iff.mpr ⟨rfl, hgenerations, k, hk, hnamed, rfl⟩, hinput⟩

end Writer

end Ksa64.Host
