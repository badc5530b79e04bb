import Ksa64.Library.Segments
import Ksa64.Host.Phase9Contract
import Ksa64.Host.Search

/-!
# The archive of a search

The generations of a search are appended to a file, each as a segment: a header, the records of its
candidates and of their aggregates, and a checksum.  The scanner takes the segments off the front.
It checks what the writer does not: that the generations are numbered from zero, that their
fingerprints are right and that the records hold nothing but zeros behind the values in use.  What it
accepts is spelled in one way (`scanArchive_eq_ok_iff`), up to segments in front whose manifest is
zero, which it takes for not yet known.
-/

namespace Ksa64.Host

open Ksa64.Library Ksa64.Interface

def kra9HeaderLength : Nat := 32
def kra9RecordLength : Nat := kdv9Length + koe9Length
def kra9Magic : List UInt8 := [0x4b, 0x52, 0x41, 0x39]

inductive ArchiveError where
  | io
  | length
  | magic
  | version
  | identity
  | reserved
  | checksum
  | decode
  | sequence
deriving DecidableEq

structure ArchiveScan where
  manifestIdentity : UInt32
  generations : List SearchGeneration
  validLength : Nat
deriving DecidableEq

/-- A candidate and its aggregate. -/
abbrev ArchivePair := DesignVector × CandidateAggregate

/-! ## Writing -/

def encodePair (pair : ArchivePair) : Except ArchiveError (List UInt8) := do
  let candidate ← pair.1.encode.mapError fun _ ↦ .decode
  let aggregate ← pair.2.encode.mapError fun _ ↦ .decode
  pure (candidate ++ aggregate)

namespace SearchGeneration

/-- The candidates with their aggregates. -/
def pairs (g : SearchGeneration) : List ArchivePair := g.candidates.zip g.aggregates

/-- The length of the segment of a generation. -/
def segmentLength (g : SearchGeneration) : Nat :=
  kra9HeaderLength + g.candidates.length * kra9RecordLength + 4

def kra9Cells (g : SearchGeneration) (manifest : UInt32) (records : List UInt8) : Layout :=
  [(0, .bytes kra9Magic),
    (4, .word16 9),
    (6, .word16 32),
    (8, .word32 (UInt32.ofNat g.segmentLength)),
    (12, .word32 manifest),
    (16, .word16 g.index),
    (18, .word16 (UInt16.ofNat g.candidates.length)),
    (20, .word32 g.crc32),
    (32, .bytes records)]

def segment (g : SearchGeneration) (manifest : UInt32) : Except ArchiveError (List UInt8) := do
  reject (g.candidates.length ≠ g.aggregates.length ∨ 65535 < g.candidates.length) .length
  let records ← g.pairs.mapM encodePair
  pure (sealRecord (g.segmentLength - 4) (g.kra9Cells manifest records.flatten))

end SearchGeneration

def encodeArchive (manifest : UInt32) (generations : List SearchGeneration) :
    Except ArchiveError (List UInt8) := do
  let segments ← generations.mapM fun g ↦ g.segment manifest
  pure segments.flatten

/-! ## Scanning -/

/-- What the scanner knows. -/
structure ArchiveState where
  manifest : UInt32
  generations : List SearchGeneration
deriving DecidableEq

/-- The records of one candidate, at the front of what is left. -/
def parsePair (rest : List UInt8) : Except ArchiveError ArchivePair := do
  let candidate ← (DesignVector.parse (slice rest 0 kdv9Length)).mapError fun _ ↦ .decode
  let aggregate ←
    (CandidateAggregate.parse (slice rest kdv9Length kra9RecordLength)).mapError fun _ ↦ .decode
  pure (candidate, aggregate)

/-- A round of the scanner: a generation at the front of what is left of the input. -/
def scanGeneration (s : ArchiveState) (rest : List UInt8) : Except ArchiveError (ArchiveState × Nat) := do
  reject (rest.length < kra9HeaderLength) .length
  reject (slice rest 0 4 ≠ kra9Magic) .magic
  reject (read16 rest 4 ≠ 9 ∨ (read16 rest 6).toNat ≠ kra9HeaderLength) .version
  let length := (read32 rest 8).toNat
  reject (length < kra9HeaderLength + 4 ∨ rest.length < length) .length
  let id := read32 rest 12
  reject (s.manifest ≠ 0 ∧ s.manifest ≠ id) .identity
  let index := read16 rest 16
  reject (index.toNat ≠ s.generations.length) .sequence
  let count := (read16 rest 18).toNat
  reject (length ≠ kra9HeaderLength + count * kra9RecordLength + 4) .length
  reject (anyNonzero rest 24 kra9HeaderLength) .reserved
  reject (crc32Ieee (slice rest 0 (length - 4)) ≠ read32 rest (length - 4)) .checksum
  let pairs ← (List.range count).mapM fun i ↦
    parsePair (rest.drop (kra9HeaderLength + i * kra9RecordLength))
  let g : SearchGeneration := {
    index := index
    candidates := pairs.map Prod.fst
    aggregates := pairs.map Prod.snd
    crc32 := read32 rest 20 }
  reject (g.crc32 ≠ generationFingerprint index g.candidates g.aggregates) .checksum
  pure (⟨if s.manifest = 0 then id else s.manifest, s.generations ++ [g]⟩, length)

def scanArchive (input : List UInt8) : Except ArchiveError ArchiveScan := do
  let s ← scanAll scanGeneration ⟨0, []⟩ input
  pure ⟨s.manifest, s.generations, input.length⟩

/-! ## The spelling of a generation -/

/-- The records of a candidate and of its aggregate. -/
@[irreducible] def pairBytes (pair : ArchivePair) : List UInt8 :=
  sealRecord 252 pair.1.kdv9Cells ++ pair.2.encodeUnchecked

/-- What the writer asks of the records. -/
def PairSealed (pair : ArchivePair) : Prop := pair.1.Sealed ∧ pair.2.Sealed

/-- What the scanner asks of the records. -/
def PairStrict (pair : ArchivePair) : Prop := pair.1.Strict ∧ pair.2.Strict

namespace SearchGeneration

/-- What the writer asks of a generation. -/
structure Writable (g : SearchGeneration) : Prop where
  lengths : g.candidates.length = g.aggregates.length
  count : g.candidates.length ≤ 65535
  pairs : ∀ pair ∈ g.pairs, PairSealed pair

/-- What the scanner asks of a generation. -/
structure Archivable (g : SearchGeneration) : Prop extends g.Writable where
  strict : ∀ pair ∈ g.pairs, PairStrict pair
  fingerprint : g.crc32 = generationFingerprint g.index g.candidates g.aggregates

/-- The segment of a generation. -/
@[irreducible] def segmentBytes (g : SearchGeneration) (manifest : UInt32) : List UInt8 :=
  sealRecord (g.segmentLength - 4) (g.kra9Cells manifest (g.pairs.flatMap pairBytes))

end SearchGeneration

section Spelling

variable {rest : List UInt8} {pair : ArchivePair} {g : SearchGeneration} {manifest : UInt32}

@[simp] theorem length_kra9Magic : kra9Magic.length = 4 := rfl

theorem length_sealRecord {n : Nat} {cells : Layout} (h : Layout.Fits n 0 cells) :
    (sealRecord n cells).length = n + 4 :=
  ((eq_sealRecord_iff h).mp rfl).1

theorem length_pairBytes (pair : ArchivePair) : (pairBytes pair).length = kra9RecordLength := by
  rw [pairBytes, CandidateAggregate.encodeUnchecked, List.length_append,
    length_sealRecord pair.1.fits_kdv9, length_sealRecord pair.2.fits_koe9]
  rfl

theorem encodePair_eq_ok {record : List UInt8} :
    encodePair pair = .ok record ↔ PairSealed pair ∧ record = pairBytes pair := by
  unfold encodePair
  simp only [bind_eq_ok, mapError_eq_ok, pure_eq_ok, DesignVector.encode_eq_ok,
    CandidateAggregate.encode_eq_ok]
  rw [pairBytes]
  constructor
  · rintro ⟨first, ⟨hcandidate, hfirst⟩, second, ⟨haggregate, hsecond⟩, hrecord⟩
    refine ⟨⟨hcandidate, haggregate⟩, ?_⟩
    rw [← hrecord, hfirst, hsecond]
  · rintro ⟨⟨hcandidate, haggregate⟩, hrecord⟩
    exact ⟨_, ⟨hcandidate, rfl⟩, _, ⟨haggregate, rfl⟩, hrecord.symm⟩

/-- Records at the front of what is left. -/
theorem parsePair_eq_ok : parsePair rest = .ok pair ↔
    PairSealed pair ∧ PairStrict pair ∧ rest.take kra9RecordLength = pairBytes pair := by
  have hsplit : rest.take kra9RecordLength =
      slice rest 0 kdv9Length ++ slice rest kdv9Length kra9RecordLength :=
    (slice_append_slice (Nat.zero_le _) (Nat.le_add_right ..)).symm
  unfold parsePair
  simp only [bind_eq_ok, mapError_eq_ok, pure_eq_ok, DesignVector.parse_eq_ok,
    CandidateAggregate.parse_eq_ok, DesignVector.encode_eq_ok, CandidateAggregate.encode_eq_ok]
  constructor
  · rintro ⟨candidate, ⟨hcandidate, hsealed, hfirst⟩, aggregate, ⟨haggregate, hsealed', hsecond⟩, rfl⟩
    refine ⟨⟨hsealed, hsealed'⟩, ⟨hcandidate, haggregate⟩, ?_⟩
    rw [hsplit, hfirst, hsecond, pairBytes]
  · rintro ⟨⟨hsealed, hsealed'⟩, ⟨hcandidate, haggregate⟩, htake⟩
    have hlen : (slice rest 0 kdv9Length).length = (sealRecord 252 pair.1.kdv9Cells).length := by
      have hle := congrArg List.length htake
      rw [length_pairBytes, List.length_take] at hle
      rw [length_sealRecord pair.1.fits_kdv9, length_slice]
      · rfl
      · exact (Nat.le_add_right ..).trans (hle ▸ Nat.min_le_right ..)
    rw [hsplit, pairBytes, append_eq_append_iff_of_length hlen] at htake
    exact ⟨pair.1, ⟨hcandidate, hsealed, htake.1⟩, pair.2, ⟨haggregate, hsealed', htake.2⟩, rfl⟩

theorem length_flatMap_pairBytes (pairs : List ArchivePair) :
    (pairs.flatMap pairBytes).length = pairs.length * kra9RecordLength := by
  induction pairs with
  | nil => rw [List.flatMap_nil, List.length_nil, List.length_nil, Nat.zero_mul]
  | cons pair pairs ih =>
      rw [List.flatMap_cons, List.length_append, length_pairBytes, ih, List.length_cons,
        Nat.succ_mul, Nat.add_comm]

namespace SearchGeneration

theorem segmentLength_eq (g : SearchGeneration) :
    g.segmentLength = 32 + g.candidates.length * 768 + 4 := rfl

theorem length_pairs (h : g.candidates.length = g.aggregates.length) :
    g.pairs.length = g.candidates.length := by
  rw [pairs, List.length_zip, ← h, Nat.min_self]

theorem map_fst_pairs (h : g.candidates.length = g.aggregates.length) :
    g.pairs.map Prod.fst = g.candidates :=
  List.map_fst_zip h.le

theorem map_snd_pairs (h : g.candidates.length = g.aggregates.length) :
    g.pairs.map Prod.snd = g.aggregates :=
  List.map_snd_zip h.ge

theorem length_records (h : g.candidates.length = g.aggregates.length) :
    (g.pairs.flatMap pairBytes).length = g.candidates.length * 768 := by
  rw [length_flatMap_pairBytes, length_pairs h]
  rfl

theorem fits_kra9 (h : g.candidates.length = g.aggregates.length) (manifest : UInt32) :
    Layout.Fits (g.segmentLength - 4) 0 (g.kra9Cells manifest (g.pairs.flatMap pairBytes)) := by
  have hrecords := length_records h
  simp only [kra9Cells, Layout.Fits, Cell.length, length_kra9Magic, hrecords, segmentLength_eq]
  omega

theorem length_segmentBytes (h : g.candidates.length = g.aggregates.length) :
    (g.segmentBytes manifest).length = g.segmentLength := by
  rw [segmentBytes, length_sealRecord (fits_kra9 h manifest), segmentLength_eq, Nat.add_sub_cancel]

theorem segment_eq_ok {bytes : List UInt8} :
    g.segment manifest = .ok bytes ↔ g.Writable ∧ bytes = g.segmentBytes manifest := by
  unfold segment
  simp only [bind_eq_ok, reject_eq_ok, pure_eq_ok, exists_const, not_or, not_not, not_lt,
    mapM_eq_ok_iff fun pair record ↦ @encodePair_eq_ok pair record]
  constructor
  · rintro ⟨⟨hlengths, hcount⟩, records, ⟨hpairs, hrecords⟩, hbytes⟩
    refine ⟨⟨hlengths, hcount, hpairs⟩, ?_⟩
    rw [← hbytes, hrecords, ← List.flatMap_def, segmentBytes]
  · rintro ⟨⟨hlengths, hcount, hpairs⟩, hbytes⟩
    refine ⟨⟨hlengths, hcount⟩, g.pairs.map pairBytes, ⟨hpairs, rfl⟩, ?_⟩
    rw [hbytes, ← List.flatMap_def, segmentBytes]

/-- A segment at the front of what is left, field by field. -/
theorem segmentBytes_prefix_iff (hlengths : g.candidates.length = g.aggregates.length)
    (hcount : g.candidates.length ≤ 65535) :
    g.segmentBytes manifest <+: rest ↔
      g.segmentLength ≤ rest.length
        ∧ crc32Ieee (slice rest 0 (g.segmentLength - 4)) = read32 rest (g.segmentLength - 4)
        ∧ slice rest 0 4 = kra9Magic
        ∧ read16 rest 4 = 9
        ∧ read16 rest 6 = 32
        ∧ (read32 rest 8).toNat = g.segmentLength
        ∧ read32 rest 12 = manifest
        ∧ read16 rest 16 = g.index
        ∧ (read16 rest 18).toNat = g.candidates.length
        ∧ read32 rest 20 = g.crc32
        ∧ ZeroOn rest 24 32
        ∧ ∀ i (h : i < g.pairs.length),
            (rest.drop (32 + i * 768)).take kra9RecordLength = pairBytes g.pairs[i] := by
  have hlen : (g.segmentBytes manifest).length = g.segmentLength := length_segmentBytes hlengths
  have hfour : g.segmentLength - 4 + 4 = g.segmentLength := by
    rw [segmentLength_eq, Nat.add_sub_cancel]
  have hfits := fits_kra9 hlengths manifest
  have hrecords := length_records hlengths
  have hpairs := length_pairs hlengths
  have hword : read32 rest 8 = UInt32.ofNat g.segmentLength ↔
      (read32 rest 8).toNat = g.segmentLength := by
    rw [← UInt32.toNat_inj, UInt32.toNat_ofNat_of_lt']
    rw [segmentLength_eq]
    exact lt_of_le_of_lt (Nat.add_le_add_right (Nat.add_le_add_left
      (Nat.mul_le_mul_right 768 hcount) 32) 4) (by decide)
  have hhalf : read16 rest 18 = UInt16.ofNat g.candidates.length ↔
      (read16 rest 18).toNat = g.candidates.length := by
    rw [← UInt16.toNat_inj, UInt16.toNat_ofNat_of_lt' (lt_of_le_of_lt hcount (by decide))]
  by_cases hle : g.segmentLength ≤ rest.length
  · have htake : g.segmentBytes manifest <+: rest ↔
        rest.take (g.segmentLength - 4 + 4) =
          sealRecord (g.segmentLength - 4) (g.kra9Cells manifest (g.pairs.flatMap pairBytes)) := by
      rw [List.prefix_iff_eq_take, hlen, hfour, ← segmentBytes, eq_comm]
    have htable : slice rest 32 (32 + g.candidates.length * 768) = g.pairs.flatMap pairBytes ↔
        ∀ i (h : i < g.pairs.length),
          (rest.drop (32 + i * 768)).take kra9RecordLength = pairBytes g.pairs[i] := by
      rw [segmentLength_eq] at hle
      rw [eq_flatMap_iff (fun pair _ ↦ length_pairBytes pair)
        (by rw [length_slice (by omega), hpairs, Nat.add_sub_cancel_left]; rfl)]
      refine forall_congr' fun i ↦ forall_congr' fun h ↦ ?_
      rw [slice, List.drop_drop, List.drop_take, List.take_take]
      rw [hpairs] at h
      have hi : (i + 1) * 768 ≤ g.candidates.length * 768 := Nat.mul_le_mul_right 768 h
      have hmin : min kra9RecordLength (32 + g.candidates.length * 768 - (32 + i * kra9RecordLength)) =
          kra9RecordLength := by
        show min 768 (32 + g.candidates.length * 768 - (32 + i * 768)) = 768
        omega
      rw [hmin]
      rfl
    rw [htake, take_eq_sealRecord_iff (hfour ▸ hle) hfits, and_iff_right hle]
    simp only [kra9Cells, Layout.Reads, zeroOn_self, Cell.readsAs_bytes, Cell.readsAs_word16,
      Cell.readsAs_word32, Cell.length, length_kra9Magic, hrecords, hword, hhalf, htable, true_and]
    have hend : g.segmentLength - 4 = 32 + g.candidates.length * 768 := by
      rw [segmentLength_eq, Nat.add_sub_cancel]
    rw [hend]
    simp only [zeroOn_self, and_true]
  · refine iff_of_false (fun h ↦ hle ?_) fun h ↦ hle h.1
    rw [← hlen]
    exact h.length_le

end SearchGeneration

end Spelling

/-! ## What the scanner takes -/

/-- A generation with the manifest that its segment names. -/
abbrev ArchivedGeneration := UInt32 × SearchGeneration

namespace ArchiveState

/-- The scanner takes a generation if it is the next one, of the manifest that is known. -/
structure Takes (s : ArchiveState) (a : ArchivedGeneration) : Prop where
  manifest : s.manifest ≠ 0 → s.manifest = a.1
  index : a.2.index.toNat = s.generations.length
  archivable : a.2.Archivable

/-- What the scanner knows after a generation. -/
def advance (s : ArchiveState) (a : ArchivedGeneration) : ArchiveState :=
  ⟨if s.manifest = 0 then a.1 else s.manifest, s.generations ++ [a.2]⟩

end ArchiveState

section Rounds

variable {s t : ArchiveState} {rest : List UInt8} {n : Nat}

theorem zip_map_fst_snd {α β : Type} (pairs : List (α × β)) :
    (pairs.map Prod.fst).zip (pairs.map Prod.snd) = pairs := by
  induction pairs with
  | nil => rfl
  | cons pair pairs ih => rw [List.map_cons, List.map_cons, List.zip_cons_cons, ih]

/-- A round of the scanner takes off the segment of a generation, and nothing else. -/
theorem scanGeneration_eq_ok :
    scanGeneration s rest = .ok (t, n) ↔
      ∃ a : ArchivedGeneration, s.Takes a ∧ a.2.segmentBytes a.1 <+: rest ∧ t = s.advance a
        ∧ n = (a.2.segmentBytes a.1).length := by
  unfold scanGeneration
  simp only [bind_eq_ok, reject_eq_ok, pure_eq_ok, exists_const, not_or, not_and, not_not, not_lt,
    Bool.not_eq_true, anyNonzero_eq_false, mapM_range_eq_ok, parsePair_eq_ok]
  constructor
  · rintro ⟨-, hmagic, ⟨hversion, hheader⟩, ⟨-, hle⟩, hmanifest, hindex, hlength, hzero, hcrc, pairs,
      ⟨hcount, hpairs⟩, hfingerprint, heq⟩
    let g : SearchGeneration :=
      ⟨read16 rest 16, pairs.map Prod.fst, pairs.map Prod.snd, read32 rest 20⟩
    have hlengths : g.candidates.length = g.aggregates.length := by
      rw [List.length_map, List.length_map]
    have hcandidates : g.candidates.length = (read16 rest 18).toNat := by
      rw [List.length_map, hcount]
    have hzip : g.pairs = pairs := zip_map_fst_snd pairs
    have hsegment : (read32 rest 8).toNat = g.segmentLength := by
      rw [hlength, ← hcandidates]
      rfl
    have hsealed : ∀ pair ∈ g.pairs, PairSealed pair ∧ PairStrict pair := by
      rw [hzip]
      intro pair hpair
      obtain ⟨i, hi, rfl⟩ := List.mem_iff_getElem.mp hpair
      exact ⟨(hpairs i hi).1, (hpairs i hi).2.1⟩
    have hsmall : g.candidates.length ≤ 65535 :=
      hcandidates ▸ Nat.le_of_lt_succ (read16 rest 18).toNat_lt
    rw [hsegment] at hle hcrc heq
    refine ⟨(read32 rest 12, g), ⟨hmanifest, hindex, ⟨⟨hlengths, hsmall, fun pair h ↦ (hsealed pair h).1⟩,
      fun pair h ↦ (hsealed pair h).2, hfingerprint⟩⟩, ?_, ?_, ?_⟩
    · refine (SearchGeneration.segmentBytes_prefix_iff hlengths hsmall).mpr
        ⟨hle, hcrc, hmagic, hversion, UInt16.toNat_inj.mp hheader, hsegment, rfl, rfl,
          hcandidates.symm, rfl, hzero, ?_⟩
      rw [hzip]
      exact fun i hi ↦ (hpairs i hi).2.2
    · exact (congrArg Prod.fst heq).symm
    · rw [SearchGeneration.length_segmentBytes hlengths]
      exact (congrArg Prod.snd heq).symm
  · rintro ⟨⟨id, g⟩, ⟨hmanifest, hindex, hg⟩, hbegins, rfl, rfl⟩
    obtain ⟨hle, hcrc, hmagic, hversion, hheader, hsegment, rfl, hnumber, hcount, hword, hzero,
      hpairs⟩ := (SearchGeneration.segmentBytes_prefix_iff hg.lengths hg.count).mp hbegins
    have hfour : 36 ≤ g.segmentLength := by
      rw [SearchGeneration.segmentLength_eq]
      omega
    have hfst := SearchGeneration.map_fst_pairs hg.lengths
    have hsnd := SearchGeneration.map_snd_pairs hg.lengths
    rw [hsegment, SearchGeneration.length_segmentBytes hg.lengths, hnumber, hword]
    refine ⟨?_, hmagic, ⟨hversion, by rw [hheader]; rfl⟩, ⟨?_, hle⟩, hmanifest, hindex, ?_, hzero,
      hcrc, g.pairs, ⟨?_, ?_⟩, ?_, ?_⟩
    · exact le_trans (by decide) (hfour.trans hle)
    · exact hfour
    · rw [hcount]
      rfl
    · rw [SearchGeneration.length_pairs hg.lengths, hcount]
    · intro i hi
      have hmem := List.getElem_mem hi
      exact ⟨hg.pairs _ hmem, hg.strict _ hmem, hpairs i hi⟩
    · rw [hfst, hsnd]
      exact hg.fingerprint
    · rw [hfst, hsnd]
      rfl

end Rounds

theorem sealRecord_ne_nil (n : Nat) (cells : Layout) : sealRecord n cells ≠ [] := by
  intro h
  have hlen := congrArg List.length h
  rw [sealRecord, splice, List.length_append, List.length_append, length_le32, List.length_nil] at hlen
  omega

/-- The archive of a search, a log of the segments of its generations. -/
def kra9Format : SegmentFormat ArchiveError ArchiveState ArchivedGeneration UInt8 where
  step := scanGeneration
  bytes a := a.2.segmentBytes a.1
  Takes := ArchiveState.Takes
  advance := ArchiveState.advance
  bytes_ne_nil _ := by
    rw [SearchGeneration.segmentBytes]
    exact sealRecord_ne_nil _ _
  step_eq_ok _ _ _ _ _ := scanGeneration_eq_ok

/-- Of a segment that was cut, either the header is not complete or its length is too long. -/
theorem kra9_refusesTorn : kra9Format.RefusesTorn .length := by
  rintro s ⟨id, g⟩ k ⟨hmanifest, hindex, hg⟩ - hk
  have hself : g.segmentBytes id <+: g.segmentBytes id := List.prefix_refl _
  obtain ⟨-, -, hmagic, hversion, hheader, hsegment, -⟩ :=
    (SearchGeneration.segmentBytes_prefix_iff hg.lengths hg.count).mp hself
  have hlen : (g.segmentBytes id).length = g.segmentLength :=
    SearchGeneration.length_segmentBytes hg.lengths
  replace hk : k < g.segmentLength := hlen ▸ hk
  have htake : ((g.segmentBytes id).take k).length = k := by
    rw [List.length_take, hlen, Nat.min_eq_left hk.le]
  show scanGeneration s ((g.segmentBytes id).take k) = _
  unfold scanGeneration
  by_cases hfront : k < 32
  · rw [reject_bind_of_fails]
    rw [htake]
    exact hfront
  · have hk' : 32 ≤ k := Nat.not_lt.mp hfront
    rw [reject_bind, reject_bind, reject_bind, reject_bind_of_fails]
    · rw [read32_take (by omega), htake, hsegment]
      exact .inr hk
    · rw [read16_take (by omega), read16_take (by omega), hversion, hheader]
      exact not_or.mpr ⟨not_not.mpr rfl, not_not.mpr rfl⟩
    · rw [slice_take (by omega)]
      exact not_not.mpr hmagic
    · rw [htake]
      exact hfront

/-! ## What the scanner accepts -/

/-- Generations that are numbered from zero, and that the scanner takes. -/
structure ArchivableFrom (n : Nat) (generations : List SearchGeneration) : Prop where
  index : ∀ i (h : i < generations.length), generations[i].index.toNat = n + i
  archivable : ∀ g ∈ generations, g.Archivable

section Scans

variable {s : ArchiveState} {as : List ArchivedGeneration} {n : Nat}
  {generations : List SearchGeneration} {g : SearchGeneration}

theorem archivableFrom_nil : ArchivableFrom n [] := by
  constructor
  · rintro i ⟨⟩
  · rintro g ⟨⟩

theorem archivableFrom_cons : ArchivableFrom n (g :: generations) ↔
    (g.index.toNat = n ∧ g.Archivable) ∧ ArchivableFrom (n + 1) generations := by
  constructor
  · rintro ⟨hindex, harchivable⟩
    obtain ⟨hg, hrest⟩ := List.forall_mem_cons.mp harchivable
    refine ⟨⟨hindex 0 (Nat.zero_lt_succ _), hg⟩, fun i hi ↦ ?_, hrest⟩
    have hnext := hindex (i + 1) (Nat.succ_lt_succ hi)
    rw [List.getElem_cons_succ] at hnext
    omega
  · rintro ⟨⟨hfirst, hg⟩, hindex, hrest⟩
    refine ⟨fun i hi ↦ ?_, List.forall_mem_cons.mpr ⟨hg, hrest⟩⟩
    cases i with
    | zero => exact hfirst
    | succ i =>
        have hnext := hindex i (Nat.lt_of_succ_lt_succ hi)
        rw [List.getElem_cons_succ]
        omega

/-- The generations that the scanner knows are those of the segments. -/
theorem generations_run : (run ArchiveState.advance s as).generations = s.generations ++ as.map Prod.snd := by
  induction as generalizing s with
  | nil => rw [run_nil, List.map_nil, List.append_nil]
  | cons a as ih =>
      rw [run_cons, ih, ArchiveState.advance, List.append_assoc]
      rfl

/-- Once the manifest is known, every segment has to name it. -/
theorem takesAll_of_known (h : s.manifest ≠ 0) :
    kra9Format.TakesAll s as ↔
      (∀ a ∈ as, a.1 = s.manifest) ∧ ArchivableFrom s.generations.length (as.map Prod.snd) := by
  induction as generalizing s with
  | nil => exact iff_of_true trivial ⟨by rintro a ⟨⟩, archivableFrom_nil⟩
  | cons a as ih =>
      have hadvance : (s.advance a).manifest = s.manifest := if_neg h
      have hlength : (s.advance a).generations.length = s.generations.length + 1 := by
        rw [ArchiveState.advance, List.length_append, List.length_singleton]
      rw [SegmentFormat.TakesAll, meets_cons, ← SegmentFormat.TakesAll,
        show kra9Format.advance s a = s.advance a from rfl, ih (hadvance ▸ h), hadvance, hlength,
        List.map_cons, archivableFrom_cons, List.forall_mem_cons]
      constructor
      · rintro ⟨⟨hmanifest, hindex, harchivable⟩, hall, hrest⟩
        exact ⟨⟨(hmanifest h).symm, hall⟩, ⟨hindex, harchivable⟩, hrest⟩
      · rintro ⟨⟨hmanifest, hall⟩, ⟨hindex, harchivable⟩, hrest⟩
        exact ⟨⟨fun _ ↦ hmanifest.symm, hindex, harchivable⟩, hall, hrest⟩

theorem manifest_run_of_known (h : s.manifest ≠ 0) :
    (run ArchiveState.advance s as).manifest = s.manifest := by
  induction as generalizing s with
  | nil => rfl
  | cons a as ih =>
      have hadvance : (s.advance a).manifest = s.manifest := if_neg h
      rw [run_cons, ih (hadvance ▸ h), hadvance]

/-- Until then it is taken from the first segment that names one. -/
theorem takesAll_of_unknown (h : s.manifest = 0) :
    kra9Format.TakesAll s as ↔
      ArchivableFrom s.generations.length (as.map Prod.snd)
        ∧ ∃ k ≤ as.length, (k < as.length ↔ (run ArchiveState.advance s as).manifest ≠ 0)
          ∧ (∀ a ∈ as.take k, a.1 = 0)
          ∧ ∀ a ∈ as.drop k, a.1 = (run ArchiveState.advance s as).manifest := by
  induction as generalizing s with
  | nil =>
      refine iff_of_true trivial ⟨archivableFrom_nil, 0, Nat.le_refl _, ?_, by rintro a ⟨⟩, by rintro a ⟨⟩⟩
      rw [run_nil, h]
      exact iff_of_false (Nat.lt_irrefl _) (not_not.mpr rfl)
  | cons a as ih =>
      have hadvance : (s.advance a).manifest = a.1 := if_pos h
      have hlength : (s.advance a).generations.length = s.generations.length + 1 := by
        rw [ArchiveState.advance, List.length_append, List.length_singleton]
      have htakes : s.Takes a ↔ a.2.index.toNat = s.generations.length ∧ a.2.Archivable :=
        ⟨fun ht ↦ ⟨ht.index, ht.archivable⟩, fun ht ↦ ⟨fun hne ↦ absurd h hne, ht.1, ht.2⟩⟩
      rw [SegmentFormat.TakesAll, meets_cons, ← SegmentFormat.TakesAll,
        show kra9Format.advance s a = s.advance a from rfl,
        show kra9Format.Takes s a = s.Takes a from rfl, htakes, List.map_cons, archivableFrom_cons,
        run_cons]
      by_cases hzero : a.1 = 0
      · rw [ih (hadvance.trans hzero), hlength]
        refine and_assoc.symm.trans (and_congr_right fun _ ↦ ?_)
        constructor
        · rintro ⟨k, hk, hiff, hfront, hback⟩
          refine ⟨k + 1, Nat.succ_le_succ hk, (Nat.succ_lt_succ_iff).trans hiff, ?_, hback⟩
          rw [List.take_succ_cons, List.forall_mem_cons]
          exact ⟨hzero, hfront⟩
        · rintro ⟨k, hk, hiff, hfront, hback⟩
          cases k with
          | zero =>
              -- The first segment would name the manifest.
              have hrun := hiff.mp (Nat.zero_lt_succ _)
              exact absurd (hback a List.mem_cons_self ▸ hzero) hrun
          | succ k =>
              rw [List.take_succ_cons, List.forall_mem_cons] at hfront
              exact ⟨k, Nat.le_of_succ_le_succ hk, (Nat.succ_lt_succ_iff).symm.trans hiff, hfront.2, hback⟩
      · have hknown : (s.advance a).manifest ≠ 0 := hadvance ▸ hzero
        rw [takesAll_of_known hknown, hlength, manifest_run_of_known hknown, hadvance]
        constructor
        · rintro ⟨hfirst, hall, hrest⟩
          refine ⟨⟨hfirst, hrest⟩, 0, Nat.zero_le _, iff_of_true (Nat.zero_lt_succ _) hzero,
            by rintro a ⟨⟩, ?_⟩
          rw [List.drop_zero, List.forall_mem_cons]
          exact ⟨rfl, hall⟩
        · rintro ⟨⟨hfirst, hrest⟩, k, hk, hiff, hfront, hback⟩
          cases k with
          | zero => exact ⟨hfirst, fun b hb ↦ hback b (List.mem_cons_of_mem _ hb), hrest⟩
          | succ k =>
              rw [List.take_succ_cons, List.forall_mem_cons] at hfront
              exact absurd hfront.1 hzero

/-- Segments that name one manifest. -/
theorem log_of_manifest {manifest : UInt32} (h : ∀ a ∈ as, a.1 = manifest) :
    kra9Format.log as = (as.map Prod.snd).flatMap (·.segmentBytes manifest) := by
  induction as with
  | nil => rfl
  | cons a as ih =>
      obtain ⟨hfirst, hall⟩ := List.forall_mem_cons.mp h
      rw [SegmentFormat.log_cons, ih hall, List.map_cons, List.flatMap_cons,
        show kra9Format.bytes a = a.2.segmentBytes a.1 from rfl, hfirst]

/-- Generations of which the first `k` name no manifest. -/
def spelled (k : Nat) (manifest : UInt32) (generations : List SearchGeneration) :
    List ArchivedGeneration :=
  (generations.take k).map (Prod.mk 0) ++ (generations.drop k).map (Prod.mk manifest)

theorem map_snd_spelled (k : Nat) (manifest : UInt32) :
    (spelled k manifest generations).map Prod.snd = generations := by
  rw [spelled, List.map_append, List.map_map, List.map_map]
  show (generations.take k).map id ++ (generations.drop k).map id = generations
  rw [List.map_id, List.map_id, List.take_append_drop]

theorem manifest_run_spelled {k : Nat} {manifest : UInt32} (h : s.manifest = 0)
    (hk : k < generations.length ↔ manifest ≠ 0) :
    (run ArchiveState.advance s (spelled k manifest generations)).manifest = manifest := by
  have hzeros : ∀ gs : List SearchGeneration,
      (run ArchiveState.advance s (gs.map (Prod.mk 0))).manifest = 0 := by
    intro gs
    induction gs generalizing s with
    | nil => exact h
    | cons g gs ih =>
        rw [List.map_cons, run_cons]
        exact ih (if_pos h)
  rw [spelled, run_append]
  have hfront := hzeros (generations.take k)
  by_cases hlt : k < generations.length
  · rw [List.drop_eq_getElem_cons hlt, List.map_cons, run_cons]
    have hadvance : ((run ArchiveState.advance s ((generations.take k).map (Prod.mk 0))).advance
        (manifest, generations[k])).manifest = manifest := if_pos hfront
    have hknown : ((run ArchiveState.advance s ((generations.take k).map (Prod.mk 0))).advance
        (manifest, generations[k])).manifest ≠ 0 := by
      rw [hadvance]
      exact hk.mp hlt
    rw [manifest_run_of_known hknown, hadvance]
  · rw [List.drop_of_length_le (Nat.not_lt.mp hlt), List.map_nil, run_nil, hfront]
    exact (not_not.mp (mt hk.mpr hlt)).symm

theorem length_spelled (k : Nat) (manifest : UInt32) :
    (spelled k manifest generations).length = generations.length := by
  conv_rhs => rw [← @map_snd_spelled generations k manifest, List.length_map]

/-- The segments that name no manifest, and those that name it. -/
theorem mem_spelled {k : Nat} (hk : k ≤ generations.length) (manifest : UInt32) :
    (∀ a ∈ (spelled k manifest generations).take k, a.1 = 0)
      ∧ ∀ a ∈ (spelled k manifest generations).drop k, a.1 = manifest := by
  have hzeros : ((generations.take k).map (Prod.mk (0 : UInt32))).length = k := by
    rw [List.length_map, List.length_take, Nat.min_eq_left hk]
  rw [spelled, List.take_left' hzeros, List.drop_left' hzeros]
  constructor
  · intro a ha
    obtain ⟨g, -, rfl⟩ := List.mem_map.mp ha
    rfl
  · intro a ha
    obtain ⟨g, -, rfl⟩ := List.mem_map.mp ha
    rfl

/-- The segments of a spelling, one after the other. -/
theorem log_spelled {k : Nat} (hk : k ≤ generations.length) (manifest : UInt32) :
    kra9Format.log (spelled k manifest generations) =
      (generations.take k).flatMap (·.segmentBytes 0)
        ++ (generations.drop k).flatMap (·.segmentBytes manifest) := by
  obtain ⟨hfront, hback⟩ := mem_spelled hk manifest
  conv_lhs => rw [← List.take_append_drop k (spelled k manifest generations)]
  rw [SegmentFormat.log_append, log_of_manifest hfront, log_of_manifest hback, List.map_take,
    List.map_drop, map_snd_spelled]

theorem takesAll_spelled {k : Nat} {manifest : UInt32} (h : s.manifest = 0)
    (harchivable : ArchivableFrom s.generations.length generations) (hk : k ≤ generations.length)
    (hiff : k < generations.length ↔ manifest ≠ 0) :
    kra9Format.TakesAll s (spelled k manifest generations) := by
  obtain ⟨hfront, hback⟩ := mem_spelled hk manifest
  refine (takesAll_of_unknown h).mpr ⟨?_, k, ?_, ?_, hfront, ?_⟩
  · rw [map_snd_spelled]
    exact harchivable
  · rw [length_spelled]
    exact hk
  · rw [manifest_run_spelled h hiff, length_spelled]
    exact hiff
  · rw [manifest_run_spelled h hiff]
    exact hback

end Scans

/-- The scanner accepts an input exactly if it is made of the segments of generations that are
numbered from zero and archivable, and all segments, up to some in front that name none, name one
manifest. -/
theorem scanArchive_eq_ok_iff {input : List UInt8} {scan : ArchiveScan} :
    scanArchive input = .ok scan ↔
      scan.validLength = input.length ∧ ArchivableFrom 0 scan.generations
        ∧ ∃ k ≤ scan.generations.length,
          (k < scan.generations.length ↔ scan.manifestIdentity ≠ 0)
            ∧ input = (scan.generations.take k).flatMap (·.segmentBytes 0)
              ++ (scan.generations.drop k).flatMap (·.segmentBytes scan.manifestIdentity) := by
  unfold scanArchive
  rw [bind_eq_ok]
  constructor
  · rintro ⟨s, hs, heq⟩
    obtain ⟨as, htakes, hlog, hrun⟩ := (SegmentFormat.scanAll_eq_ok_iff (F := kra9Format)).mp hs
    obtain ⟨harchivable, k, hk, hiff, hfront, hback⟩ := (takesAll_of_unknown rfl).mp htakes
    have hgenerations : s.generations = as.map Prod.snd := by
      rw [hrun]
      exact generations_run
    have hmanifest : s.manifest = (run ArchiveState.advance ⟨0, []⟩ as).manifest :=
      congrArg ArchiveState.manifest hrun
    rw [← hmanifest] at hiff hback
    cases pure_eq_ok.mp heq
    refine ⟨rfl, hgenerations ▸ harchivable, k, ?_, ?_, ?_⟩
    · rw [hgenerations, List.length_map]
      exact hk
    · rw [hgenerations, List.length_map]
      exact hiff
    · rw [hlog, hgenerations, ← List.map_take, ← List.map_drop, ← log_of_manifest hfront,
        ← log_of_manifest hback, ← SegmentFormat.log_append, List.take_append_drop]
  · rintro ⟨hlength, harchivable, k, hk, hiff, hinput⟩
    have hrun := manifest_run_spelled (s := ⟨0, []⟩) rfl hiff
    refine ⟨_, SegmentFormat.scanAll_eq_ok_iff.mpr ⟨spelled k scan.manifestIdentity scan.generations,
      takesAll_spelled (s := ⟨0, []⟩) rfl harchivable hk hiff, ?_, rfl⟩, ?_⟩
    · rw [hinput, log_spelled hk]
    · rw [pure_eq_ok]
      show ArchiveScan.mk (run ArchiveState.advance ⟨0, []⟩ _).manifest
        (run ArchiveState.advance ⟨0, []⟩ _).generations input.length = scan
      rw [hrun, generations_run, map_snd_spelled, ← hlength, List.nil_append]

/-- The writer writes the segments of the generations. -/
theorem encodeArchive_eq_ok {manifest : UInt32} {generations : List SearchGeneration}
    {bytes : List UInt8} : encodeArchive manifest generations = .ok bytes ↔
      (∀ g ∈ generations, g.Writable) ∧ bytes = generations.flatMap (·.segmentBytes manifest) := by
  unfold encodeArchive
  simp only [bind_eq_ok, pure_eq_ok,
    mapM_eq_ok_iff fun g bytes ↦ @SearchGeneration.segment_eq_ok g manifest bytes]
  constructor
  · rintro ⟨segments, ⟨hall, hsegments⟩, hbytes⟩
    refine ⟨hall, ?_⟩
    rw [← hbytes, hsegments, List.flatMap_def]
  · rintro ⟨hall, hbytes⟩
    refine ⟨_, ⟨hall, rfl⟩, ?_⟩
    rw [hbytes, List.flatMap_def]

end Ksa64.Host
