import Ksa64.Sim.Archive

/-!
# What a scan makes of an archive

`ArchiveContents` is what an archive is for: the records of a campaign in order, and whether they
are all.  `image` is a storage that spells contents, and `scanArchive_image` says that the scanner
reports the contents of an image whose superblock tells whether they are complete, and takes any
other image for an incomplete archive.
-/

namespace Ksa64.Sim

open Ksa64.Library Ksa64.Interface

/-! ## Contents -/

structure ArchiveRecord where
  kind : UInt16
  runIndex : UInt32
  payload : List UInt8
deriving DecidableEq

namespace ArchiveRecord

def length (r : ArchiveRecord) : UInt32 := UInt32.ofNat r.payload.length

def crc (r : ArchiveRecord) : UInt32 := crc32Ieee r.payload

/-- The bytes of the record in the archive. -/
def size (r : ArchiveRecord) : Nat := archiveRecordHeaderLength + r.payload.length

end ArchiveRecord

def sizes (rs : List ArchiveRecord) : Nat := (rs.map ArchiveRecord.size).sum

/-- The place for a next record, its number, and the chain over the records before it. -/
structure ArchiveCursor where
  offset : UInt32
  sequence : UInt32
  chain : UInt32
deriving DecidableEq

namespace ArchiveCursor

def origin : ArchiveCursor where
  offset := UInt32.ofNat archiveSuperblockLength
  sequence := 0
  chain := archiveChainSeed

def next (k : ArchiveCursor) (r : ArchiveRecord) : ArchiveCursor where
  offset := k.offset + UInt32.ofNat archiveRecordHeaderLength + r.length
  sequence := k.sequence + 1
  chain := mixRecord k.chain r.kind k.sequence r.runIndex r.length r.crc

def after (k : ArchiveCursor) (rs : List ArchiveRecord) : ArchiveCursor := rs.foldl next k

def header (k : ArchiveCursor) (r : ArchiveRecord) (flags : UInt16) : List UInt8 :=
  recordHeader r.kind flags k.sequence r.runIndex r.length r.crc k.chain

/-- The committed record. -/
def record (k : ArchiveCursor) (r : ArchiveRecord) : List UInt8 :=
  k.header r recordCommitted ++ r.payload

/-- The records, one after the other. -/
def render (k : ArchiveCursor) : List ArchiveRecord → List UInt8
  | [] => []
  | r :: rs => k.record r ++ (k.next r).render rs

/-- The writer that stands here. -/
def writer (k : ArchiveCursor) (campaignCrc32 : UInt32) (finished : Bool) : ArchiveWriter where
  campaignCrc32 := campaignCrc32
  logicalLength := k.offset
  recordCount := k.sequence
  chain := k.chain
  finished := finished

/-- The footer of an archive that ends here. -/
def footer (k : ArchiveCursor) (campaignCrc32 : UInt32) : ArchiveRecord where
  kind := recordFooter
  runIndex := 0xffffffff
  payload := (k.writer campaignCrc32 false).footer

end ArchiveCursor

/-- The records of a campaign, and whether the archive is complete. -/
structure ArchiveContents where
  campaignCrc32 : UInt32
  records : List ArchiveRecord
  complete : Bool
deriving DecidableEq

namespace ArchiveContents

/-- The records with the footer of a complete archive. -/
def rendered (c : ArchiveContents) : List ArchiveRecord :=
  if c.complete then
    c.records ++ [(ArchiveCursor.origin.after c.records).footer c.campaignCrc32]
  else c.records

def size (c : ArchiveContents) : Nat := archiveSuperblockLength + sizes c.rendered

def cursor (c : ArchiveContents) : ArchiveCursor := .after .origin c.rendered

/-- What a scan should report. -/
def report (c : ArchiveContents) : ArchiveScan where
  campaignCrc32 := c.campaignCrc32
  validRecords := UInt32.ofNat c.rendered.length
  validBytes := UInt32.ofNat c.size
  complete := c.complete
  chain := c.cursor.chain

def writer (c : ArchiveContents) : ArchiveWriter := c.cursor.writer c.campaignCrc32 c.complete

/-- The record is taken: the archive is open, the kind is not that of a footer, and there is
room. -/
def Takes (c : ArchiveContents) (capacity : UInt32) (r : ArchiveRecord) : Prop :=
  c.complete = false ∧ r.kind ≠ recordFooter ∧ c.size + r.size ≤ capacity.toNat

/-- The archive is open, and there is room for a footer. -/
def Finishes (c : ArchiveContents) (capacity : UInt32) : Prop :=
  c.complete = false ∧ c.size + 48 ≤ capacity.toNat

instance (c : ArchiveContents) (capacity : UInt32) (r : ArchiveRecord) :
    Decidable (c.Takes capacity r) := inferInstanceAs (Decidable (_ ∧ _))

instance (c : ArchiveContents) (capacity : UInt32) : Decidable (c.Finishes capacity) :=
  inferInstanceAs (Decidable (_ ∧ _))

end ArchiveContents

/-! ## Cursors -/

@[simp] theorem sizes_nil : sizes [] = 0 := rfl

@[simp] theorem sizes_cons (r : ArchiveRecord) (rs : List ArchiveRecord) :
    sizes (r :: rs) = r.size + sizes rs := rfl

@[simp] theorem sizes_concat (rs : List ArchiveRecord) (r : ArchiveRecord) :
    sizes (rs ++ [r]) = sizes rs + r.size := by
  simp [sizes]

/-- The fields of a record header. -/
theorem reads_recordHeader {kind flags : UInt16}
    {sequence run length payloadCrc previousChain : UInt32} {h : List UInt8}
    (hh : h = recordHeader kind flags sequence run length payloadCrc previousChain) :
    h.length = recordCrcOffset + 4
      ∧ crc32Ieee (slice h 0 recordCrcOffset) = read32 h recordCrcOffset
      ∧ read16 h 0 = kind ∧ read16 h 2 = flags ∧ read32 h 4 = sequence ∧ read32 h 8 = run
      ∧ read32 h 12 = length ∧ read32 h 16 = payloadCrc ∧ read32 h 20 = previousChain
      ∧ read32 h 24 = 0 := by
  obtain ⟨hlength, hcrc, hreads⟩ := (eq_sealRecord_iff (by
    simp [recordCrcOffset, archiveRecordHeaderLength])).mp hh
  simp only [Layout.Reads, Cell.readsAs_word16, Cell.readsAs_word32, Cell.length] at hreads
  obtain ⟨-, hkind, -, hflags, -, hsequence, -, hrun, -, hlen, -, hpayload, -, hchain, hzero⟩ := hreads
  have hbyte (i : Nat) (hl : 24 ≤ i) (hr : i < 28) : readByte h i = 0 := hzero i hl hr
  refine ⟨hlength, hcrc, hkind, hflags, hsequence, hrun, hlen, hpayload, hchain, ?_⟩
  rw [read32, hbyte 24 (by decide) (by decide), hbyte 25 (by decide) (by decide),
    hbyte 26 (by decide) (by decide), hbyte 27 (by decide) (by decide)]
  rfl

theorem length_le_sizes (rs : List ArchiveRecord) : rs.length ≤ sizes rs := by
  induction rs with
  | nil => rfl
  | cons r rs ih =>
      rw [List.length_cons, sizes_cons, Nat.add_comm]
      exact Nat.add_le_add (Nat.le_add_right_of_le (by decide)) ih

namespace ArchiveCursor

variable {k : ArchiveCursor} {r : ArchiveRecord} {rs : List ArchiveRecord}

@[simp] theorem after_nil (k : ArchiveCursor) : k.after [] = k := rfl

@[simp] theorem after_cons (k : ArchiveCursor) (r : ArchiveRecord) (rs : List ArchiveRecord) :
    k.after (r :: rs) = (k.next r).after rs := rfl

@[simp] theorem after_concat (k : ArchiveCursor) (rs : List ArchiveRecord) (r : ArchiveRecord) :
    k.after (rs ++ [r]) = (k.after rs).next r := List.foldl_concat ..

theorem render_concat (k : ArchiveCursor) (rs : List ArchiveRecord) (r : ArchiveRecord) :
    k.render (rs ++ [r]) = k.render rs ++ (k.after rs).record r := by
  induction rs generalizing k with
  | nil => simp only [List.nil_append, render, after_nil, List.append_nil]
  | cons first rs ih => rw [List.cons_append, render, render, ih, after_cons, List.append_assoc]

theorem length_header (flags : UInt16) : (k.header r flags).length = archiveRecordHeaderLength :=
  (reads_recordHeader rfl).1

theorem length_record : (k.record r).length = r.size := by
  rw [record, List.length_append, length_header, ArchiveRecord.size]

theorem length_render (k : ArchiveCursor) (rs : List ArchiveRecord) :
    (k.render rs).length = sizes rs := by
  induction rs generalizing k with
  | nil => rfl
  | cons r rs ih => rw [render, List.length_append, length_record, ih, sizes_cons]

theorem toNat_offset_next (h : k.offset.toNat + r.size < 2 ^ 32) :
    (k.next r).offset.toNat = k.offset.toNat + r.size := by
  unfold ArchiveRecord.size archiveRecordHeaderLength at h
  rw [next, ArchiveRecord.length, UInt32.toNat_add, UInt32.toNat_add, UInt32.toNat_ofNat',
    UInt32.toNat_ofNat', ArchiveRecord.size, archiveRecordHeaderLength]
  omega

theorem toNat_offset_after (h : k.offset.toNat + sizes rs < 2 ^ 32) :
    (k.after rs).offset.toNat = k.offset.toNat + sizes rs := by
  induction rs generalizing k with
  | nil => rfl
  | cons r rs ih =>
      rw [sizes_cons] at h ⊢
      have hnext := toNat_offset_next (k := k) (r := r) (by omega)
      rw [after_cons, ih (by omega), hnext]
      omega

theorem sequence_after (k : ArchiveCursor) (rs : List ArchiveRecord) :
    (k.after rs).sequence = k.sequence + UInt32.ofNat rs.length := by
  induction rs generalizing k with
  | nil => simp
  | cons r rs ih =>
      rw [after_cons, ih]
      apply UInt32.toNat_inj.mp
      simp only [next, List.length_cons, UInt32.toNat_add, UInt32.toNat_ofNat', UInt32.toNat_one]
      omega

end ArchiveCursor

/-! ## Scanning what was written -/

section Scan

variable {s pre mid post : List UInt8}

/-- What was written is loaded. -/
theorem load_eq {offset : UInt32} {n : Nat} (hs : s = pre ++ (mid ++ post))
    (hoffset : offset.toNat = pre.length) (hn : n = mid.length) : load s offset n = .ok mid := by
  have hfits : offset.toNat + n ≤ s.length := by
    rw [hs, hoffset, hn, List.length_append, List.length_append]
    omega
  unfold load ArchiveStorage.read
  rw [if_pos hfits, hs, slice_append hoffset (by rw [hoffset, hn])]
  rfl

theorem crcChunks_eq {fuel : Nat} {offset length state : UInt32} (hs : s = pre ++ (mid ++ post))
    (hoffset : offset.toNat = pre.length) (hlength : length.toNat = mid.length)
    (hfuel : mid.length ≤ fuel) (hbound : pre.length + mid.length < 2 ^ 32) :
    crcChunks s fuel offset length state = .ok (mid.foldl crc32Byte state) := by
  induction fuel generalizing pre mid offset length state with
  | zero =>
      obtain rfl := List.length_eq_zero_iff.mp (Nat.le_zero.mp hfuel)
      rfl
  | succ fuel ih =>
      rw [crcChunks]
      by_cases hzero : length = 0
      · rw [if_pos hzero]
        rw [hzero] at hlength
        obtain rfl := List.length_eq_zero_iff.mp hlength.symm
        rfl
      · rw [if_neg hzero]
        have hpos : 0 < mid.length := by
          rw [← hlength]
          exact Nat.pos_of_ne_zero fun h ↦ hzero (UInt32.toNat_inj.mp h)
        have hcount : (min length 64).toNat = min mid.length 64 := by
          rw [toNat_min32, hlength]
          rfl
        have hle : min length 64 ≤ length := by
          rw [UInt32.le_iff_toNat_le, toNat_min32]
          exact Nat.min_le_left ..
        have hs' : s = pre ++ (mid.take (min mid.length 64)
            ++ (mid.drop (min mid.length 64) ++ post)) := by
          rw [hs, ← List.append_assoc (mid.take _), List.take_append_drop]
        have hload : load s offset (min length 64).toNat = .ok (mid.take (min mid.length 64)) :=
          load_eq hs' hoffset (by rw [hcount, List.length_take]; omega)
        rw [bind_of_ok hload]
        have hrest := @ih (pre ++ mid.take (min mid.length 64)) (mid.drop (min mid.length 64))
          (offset + min length 64) (length - min length 64)
          ((mid.take (min mid.length 64)).foldl crc32Byte state) (by rw [hs', List.append_assoc])
          ?_ ?_ ?_ ?_
        · rw [hrest, ← List.foldl_append, List.take_append_drop]
        · rw [UInt32.toNat_add, hcount, hoffset, List.length_append, List.length_take]
          omega
        · rw [UInt32.toNat_sub_of_le _ _ hle, hcount, hlength, List.length_drop]
        · rw [List.length_drop]
          omega
        · rw [List.length_append, List.length_take, List.length_drop]
          omega

/-- The checksum of what was written. -/
theorem crcStorage_eq {offset length : UInt32} (hs : s = pre ++ (mid ++ post))
    (hoffset : offset.toNat = pre.length) (hlength : length.toNat = mid.length)
    (hbound : pre.length + mid.length < 2 ^ 32) :
    crcStorage s offset length = .ok (crc32Ieee mid) := by
  unfold crcStorage
  rw [crcChunks_eq hs hoffset hlength (Nat.le_of_eq hlength.symm) hbound]
  rfl

variable {declaredLength declaredRecords campaign : UInt32} {k : ArchiveCursor} {r : ArchiveRecord}
  {rs : List ArchiveRecord} {footerValid : Bool}

/-- The scanner's cursor at a place of the archive. -/
def ArchiveCursor.scan (k : ArchiveCursor) (footerValid : Bool) : ScanCursor where
  offset := k.offset
  sequence := k.sequence
  chain := k.chain
  footerValid := footerValid

/-- Where the payload of a record begins. -/
theorem toNat_payloadOffset (hoffset : k.offset.toNat = pre.length)
    (hbound : pre.length + 32 < 2 ^ 32) (flags : UInt16) :
    (k.offset + UInt32.ofNat archiveRecordHeaderLength).toNat =
      (pre ++ k.header r flags).length := by
  rw [List.length_append, ArchiveCursor.length_header, UInt32.toNat_add, UInt32.toNat_ofNat', hoffset]
  unfold archiveRecordHeaderLength
  omega

/-- The scanner goes past a committed record, after a look at a footer. -/
theorem scanRecord_eq (hs : s = pre ++ (k.record r ++ post)) (hoffset : k.offset.toNat = pre.length)
    (hfits : pre.length + r.size ≤ declaredLength.toNat) :
    scanRecord s declaredLength declaredRecords campaign (k.scan footerValid) =
      scanFooter s declaredRecords campaign (k.scan footerValid) r.kind
        (k.offset + UInt32.ofNat archiveRecordHeaderLength) r.length >>=
          fun valid ↦ pure ((k.next r).scan valid) := by
  have hh := reads_recordHeader (h := k.header r recordCommitted) rfl
  obtain ⟨hlength, hcrc, hk, hflags, hsequence, hrun, hlen, hpayload, hchain, hzero⟩ := hh
  have hload : load s (k.scan footerValid).offset archiveRecordHeaderLength =
      .ok (k.header r recordCommitted) := by
    refine @load_eq _ _ _ (r.payload ++ post) _ _ ?_ hoffset hlength.symm
    rw [hs, ArchiveCursor.record, List.append_assoc]
  have hbound := declaredLength.toNat_lt
  have hnext : (k.next r).offset.toNat = pre.length + r.size := by
    rw [ArchiveCursor.toNat_offset_next (by omega), hoffset]
  unfold ArchiveRecord.size archiveRecordHeaderLength at hfits hnext
  have hpayloadLength : r.length.toNat = r.payload.length := by
    rw [ArchiveRecord.length, UInt32.toNat_ofNat']
    omega
  have hpayloadOffset := toNat_payloadOffset (r := r) hoffset (by omega) recordCommitted
  have hstop : checkedAdd32 (k.offset + UInt32.ofNat archiveRecordHeaderLength) r.length =
      some (k.next r).offset := by
    rw [checkedAdd32_eq_some, hpayloadOffset, hpayloadLength, hnext, List.length_append, hlength]
    unfold recordCrcOffset archiveRecordHeaderLength
    omega
  have hactual : crcStorage s (k.offset + UInt32.ofNat archiveRecordHeaderLength) r.length =
      .ok r.crc := by
    refine @crcStorage_eq _ _ _ post _ _ ?_ hpayloadOffset hpayloadLength ?_
    · rw [hs, ArchiveCursor.record, List.append_assoc, List.append_assoc]
    · rw [List.length_append, hlength]
      unfold recordCrcOffset archiveRecordHeaderLength
      omega
  unfold scanRecord
  rw [bind_of_ok hload, reject_bind (not_not.mpr hcrc.symm),
    reject_bind (show ¬(_ ∨ _ ≠ (k.scan footerValid).sequence) from
      not_or.mpr ⟨not_not.mpr hflags, not_not.mpr hsequence⟩),
    reject_bind (show ¬(_ ≠ (k.scan footerValid).chain ∨ _) from
      not_or.mpr ⟨not_not.mpr hchain, not_not.mpr hzero⟩)]
  dsimp only
  rw [hk, hrun, hlen, hpayload]
  show (checkedAdd32 (k.offset + UInt32.ofNat archiveRecordHeaderLength) r.length).elim _ _ >>= _ = _
  rw [hstop]
  show (reject (declaredLength < (k.next r).offset) ArchiveError.length >>= _) = _
  rw [reject_bind]
  · show (crcStorage s (k.offset + UInt32.ofNat archiveRecordHeaderLength) r.length >>= _) = _
    rw [bind_of_ok hactual, reject_bind (not_not.mpr rfl)]
    rfl
  · rw [UInt32.lt_iff_toNat_lt, hnext]
    omega

/-- A record that is no footer. -/
theorem scanRecord_ordinary (hs : s = pre ++ (k.record r ++ post))
    (hoffset : k.offset.toNat = pre.length) (hfits : pre.length + r.size ≤ declaredLength.toNat)
    (hkind : r.kind ≠ recordFooter) :
    scanRecord s declaredLength declaredRecords campaign (k.scan footerValid) =
      .ok ((k.next r).scan footerValid) := by
  rw [scanRecord_eq hs hoffset hfits, scanFooter, if_neg hkind]
  rfl

/-- The fields of a footer. -/
theorem reads_footer (w : ArchiveWriter) :
    w.footer.length = 16 ∧ read32 w.footer 0 = w.recordCount
      ∧ read32 w.footer 4 = w.logicalLength ∧ read32 w.footer 8 = w.chain
      ∧ read32 w.footer 12 = w.campaignCrc32 := by
  have hlast : read32 (le32 w.campaignCrc32) 0 = w.campaignCrc32 := by
    rw [← List.append_nil (le32 _), read32_le32_append]
  refine ⟨rfl, read32_le32_append .., ?_, ?_, ?_⟩ <;> unfold ArchiveWriter.footer
  · exact (read32_le32_right _ _ 0).trans (read32_le32_append ..)
  · exact (read32_le32_right _ _ 4).trans ((read32_le32_right _ _ 0).trans (read32_le32_append ..))
  · exact (read32_le32_right _ _ 8).trans
      ((read32_le32_right _ _ 4).trans ((read32_le32_right _ _ 0).trans hlast))

/-- The footer of the archive. -/
theorem scanRecord_footer (hs : s = pre ++ (k.record (k.footer campaign) ++ post))
    (hoffset : k.offset.toNat = pre.length)
    (hfits : pre.length + (k.footer campaign).size ≤ declaredLength.toNat)
    (hlast : k.sequence + 1 = declaredRecords) :
    scanRecord s declaredLength declaredRecords campaign (k.scan footerValid) =
      .ok ((k.next (k.footer campaign)).scan true) := by
  obtain ⟨hlength, hcount, hlogical, hchain, hcampaign⟩ := reads_footer (k.writer campaign false)
  have hload : load s (k.offset + UInt32.ofNat archiveRecordHeaderLength) 16 =
      .ok (k.writer campaign false).footer := by
    refine @load_eq _ (pre ++ k.header (k.footer campaign) recordCommitted) _ post _ _ ?_ ?_
      hlength.symm
    · rw [hs, ArchiveCursor.record, List.append_assoc, List.append_assoc]
      rfl
    · refine toNat_payloadOffset hoffset ?_ recordCommitted
      have hbound := declaredLength.toNat_lt
      unfold ArchiveRecord.size archiveRecordHeaderLength at hfits
      omega
  have hfooter : scanFooter s declaredRecords campaign (k.scan footerValid) recordFooter
      (k.offset + UInt32.ofNat archiveRecordHeaderLength) (k.footer campaign).length = .ok true := by
    have hcounted : ¬((k.footer campaign).length ≠ 16
        ∨ (k.scan footerValid).sequence + 1 ≠ declaredRecords) :=
      not_or.mpr ⟨not_not.mpr rfl, not_not.mpr hlast⟩
    rw [scanFooter, if_pos rfl, reject_bind hcounted, bind_of_ok hload, reject_bind]
    · rfl
    · simp only [not_or, not_not]
      exact ⟨hcount, hlogical, hchain, hcampaign⟩
  rw [scanRecord_eq hs hoffset hfits]
  exact bind_of_ok hfooter _

/-- The scanner goes over records that are no footers. -/
theorem scanRecords_ordinary (hs : s = pre ++ (k.render rs ++ post))
    (hoffset : k.offset.toNat = pre.length) (hfits : pre.length + sizes rs ≤ declaredLength.toNat)
    (hkind : ∀ r ∈ rs, r.kind ≠ recordFooter) (n : Nat) :
    scanRecords s declaredLength declaredRecords campaign (rs.length + n) (k.scan footerValid) =
      scanRecords s declaredLength declaredRecords campaign n ((k.after rs).scan footerValid) := by
  induction rs generalizing pre k with
  | nil => rw [List.length_nil, Nat.zero_add, ArchiveCursor.after_nil]
  | cons r rs ih =>
      rw [sizes_cons] at hfits
      rw [ArchiveCursor.render] at hs
      have hbound := declaredLength.toNat_lt
      rw [List.length_cons, Nat.add_right_comm, scanRecords,
        bind_of_ok (@scanRecord_ordinary _ _ ((k.next r).render rs ++ post) _ _ _ _ _ _
          (by rw [hs, List.append_assoc]) hoffset (by omega) (hkind r List.mem_cons_self))]
      refine @ih (pre ++ k.record r) _ ?_ ?_ ?_ fun r hr ↦ hkind r (List.mem_cons_of_mem _ hr)
      · rw [hs, List.append_assoc, List.append_assoc]
      · rw [ArchiveCursor.toNat_offset_next (by omega), hoffset, List.length_append,
          ArchiveCursor.length_record]
      · rw [List.length_append, ArchiveCursor.length_record]
        omega

end Scan

/-! ## Scanning an archive -/

def superblock (F : ArchiveFormat) (capacity : UInt32) (w : ArchiveWriter) (complete : Bool) :
    List UInt8 :=
  sealRecord superblockCrcOffset (w.superblockCells F capacity complete)

/-- The records, behind a superblock that counts them, and what else there is. -/
def image (F : ArchiveFormat) (capacity : UInt32) (w : ArchiveWriter) (complete : Bool)
    (rs : List ArchiveRecord) (rest : List UInt8) : ArchiveStorage :=
  superblock F capacity w complete ++ (ArchiveCursor.origin.render rs ++ rest)

section Archive

variable {F : ArchiveFormat} {capacity : UInt32} {s : ArchiveStorage} {c : ArchiveContents}
  {w : ArchiveWriter} {complete : Bool}

/-- The fields of a superblock. -/
theorem reads_superblock {b : List UInt8} (hb : b = superblock F capacity w complete) :
    b.length = archiveSuperblockLength
      ∧ crc32Ieee (slice b 0 superblockCrcOffset) = read32 b superblockCrcOffset
      ∧ slice b 0 4 = F.magic ∧ read16 b 4 = F.version ∧ read16 b 6 = 256
      ∧ read32 b 8 = F.contractId ∧ read32 b 12 = w.campaignCrc32 ∧ read32 b 16 = capacity
      ∧ read32 b 20 = w.logicalLength ∧ read32 b 24 = w.recordCount ∧ read32 b 28 = w.chain
      ∧ readByte b 32 = complete.toUInt8 ∧ ZeroOn b 33 superblockCrcOffset := by
  have hmagic := F.length_magic
  obtain ⟨hlength, hcrc, hreads⟩ := (eq_sealRecord_iff (by
    simp [ArchiveWriter.superblockCells, hmagic, superblockCrcOffset, archiveSuperblockLength])).mp hb
  simp only [ArchiveWriter.superblockCells, Layout.Reads, Cell.readsAs_word16, Cell.readsAs_word32,
    Cell.readsAs_bytes, Cell.readsAs_byte, Cell.length, hmagic] at hreads
  obtain ⟨-, hm, -, hversion, -, hlen, -, hcontract, -, hcampaign, -, hcapacity, -, hlogical, -,
    hcount, -, hchain, -, hcomplete, hzero⟩ := hreads
  exact ⟨hlength, hcrc, hm, hversion, hlen, hcontract, hcampaign, hcapacity, hlogical, hcount, hchain,
    hcomplete, hzero⟩

theorem length_superblock : (superblock F capacity w complete).length = archiveSuperblockLength :=
  (reads_superblock rfl).1

/-- What the scanner does after the last record. -/
def finishScan (w : ArchiveWriter) (complete : Bool) (k : ScanCursor) :
    Except ArchiveError ArchiveScan := do
  reject (k.offset ≠ w.logicalLength ∨ k.chain ≠ w.chain) .sequence
  reject (complete ≠ k.footerValid) .incomplete
  pure {
    campaignCrc32 := w.campaignCrc32
    validRecords := k.sequence
    validBytes := k.offset
    complete := complete
    chain := k.chain }

/-- The scanner trusts the superblock and goes over the records that it counts. -/
theorem scanArchive_eq {tail : List UInt8} (hs : s = superblock F s.capacity w complete ++ tail) :
    scanArchive F s = scanRecords s w.logicalLength w.recordCount w.campaignCrc32
      w.recordCount.toNat (ArchiveCursor.origin.scan false) >>= finishScan w complete := by
  generalize hblock : superblock F s.capacity w complete = block at hs
  obtain ⟨hlength, hcrc, hmagic, hversion, hlen, hcontract, hcampaign, hcapacity, hlogical, hcount,
    hchain, hcomplete, hzero⟩ := reads_superblock hblock.symm
  have hload : load s 0 archiveSuperblockLength = .ok block :=
    @load_eq _ [] _ _ _ _ hs rfl hlength.symm
  have hreserved : ¬(anyNonzero block 33 superblockCrcOffset ∨ 1 < readByte block 32) := by
    rw [hcomplete]
    refine not_or.mpr ⟨?_, by cases complete <;> decide⟩
    exact fun h ↦ Bool.false_ne_true ((zeroOn_iff_any.mp hzero).symm.trans h)
  have hcompleted : (readByte block 32 == 1) = complete := by
    rw [hcomplete]
    cases complete <;> rfl
  unfold scanArchive
  rw [bind_of_ok hload, reject_bind (not_not.mpr hmagic),
    reject_bind (not_or.mpr ⟨not_not.mpr hversion, not_not.mpr hlen⟩),
    reject_bind (not_not.mpr hcontract), reject_bind hreserved, reject_bind (not_not.mpr hcrc),
    reject_bind (not_not.mpr hcapacity)]
  dsimp only
  rw [hcompleted, hlogical, hcount, hchain, hcampaign]
  rfl

namespace ArchiveContents

theorem toNat_offset (h : c.size < 2 ^ 32) : c.cursor.offset.toNat = c.size :=
  ArchiveCursor.toNat_offset_after h

theorem toNat_sequence (h : c.size < 2 ^ 32) : c.cursor.sequence.toNat = c.rendered.length := by
  have hle := length_le_sizes c.rendered
  rw [size] at h
  rw [cursor, ArchiveCursor.sequence_after, UInt32.toNat_add, UInt32.toNat_ofNat']
  show (0 + _) % _ = _
  omega

end ArchiveContents

/-- The scanner goes over all that is rendered, and finds the footer of a complete archive. -/
theorem scanRecords_rendered {rest : List UInt8}
    (hs : s = superblock F capacity w complete ++ (ArchiveCursor.origin.render c.rendered ++ rest))
    (hordinary : ∀ r ∈ c.records, r.kind ≠ recordFooter) (hsize : c.size < 2 ^ 32) :
    scanRecords s c.writer.logicalLength c.writer.recordCount c.campaignCrc32
        c.writer.recordCount.toNat (ArchiveCursor.origin.scan false) =
      .ok (c.cursor.scan c.complete) := by
  have horigin : ArchiveCursor.origin.offset.toNat = (superblock F capacity w complete).length :=
    length_superblock.symm
  have hoffset : c.writer.logicalLength.toNat = c.size := c.toNat_offset hsize
  have hcount : c.writer.recordCount.toNat = c.rendered.length := c.toNat_sequence hsize
  rw [hcount]
  cases hc : c.complete with
  | false =>
      have hrendered : c.rendered = c.records := if_neg (Bool.eq_false_iff.mp hc)
      rw [ArchiveContents.size, hrendered] at hoffset
      rw [hrendered] at hs
      rw [ArchiveContents.cursor, hrendered]
      refine scanRecords_ordinary hs horigin ?_ hordinary 0
      rw [hoffset, length_superblock]
  | true =>
      have hrendered : c.rendered = c.records
          ++ [(ArchiveCursor.origin.after c.records).footer c.campaignCrc32] := if_pos hc
      have hlast : (ArchiveCursor.origin.after c.records).sequence + 1 = c.writer.recordCount := by
        show _ = c.cursor.sequence
        rw [ArchiveContents.cursor, hrendered, ArchiveCursor.after_concat]
        rfl
      rw [ArchiveContents.size, hrendered, sizes_concat] at hoffset hsize
      have hplace : (superblock F capacity w complete
          ++ ArchiveCursor.origin.render c.records).length =
          archiveSuperblockLength + sizes c.records := by
        rw [List.length_append, length_superblock, ArchiveCursor.length_render]
      rw [hrendered, ArchiveCursor.render_concat, List.append_assoc] at hs
      rw [ArchiveContents.cursor, hrendered, List.length_append, ArchiveCursor.after_concat,
        scanRecords_ordinary hs horigin (by rw [hoffset, length_superblock]; omega) hordinary]
      refine bind_of_ok (@scanRecord_footer _
        (superblock F capacity w complete ++ ArchiveCursor.origin.render c.records) rest _ _ _ _ _
        ?_ ?_ ?_ hlast) _
      · rw [hs, List.append_assoc]
      · rw [hplace]
        refine ArchiveCursor.toNat_offset_after (Nat.lt_of_le_of_lt ?_ hsize)
        exact Nat.add_le_add_left (Nat.le_add_right ..) _
      · rw [hplace, hoffset, Nat.add_assoc]

/-- An archive is as complete as its superblock says, or the scanner finds it incomplete. -/
theorem scanArchive_image {rest : List UInt8} 
    (hs : s = image F s.capacity c.writer complete c.rendered rest)
    (hordinary : ∀ r ∈ c.records, r.kind ≠ recordFooter) (hsize : c.size < 2 ^ 32) :
    scanArchive F s = if complete = c.complete then .ok c.report else .error .incomplete := by
  have hoffset : c.cursor.offset = UInt32.ofNat c.size := by
    apply UInt32.toNat_inj.mp
    rw [c.toNat_offset hsize, UInt32.toNat_ofNat_of_lt' hsize]
  have hsequence : c.cursor.sequence = UInt32.ofNat c.rendered.length := by
    rw [ArchiveContents.cursor, ArchiveCursor.sequence_after]
    exact UInt32.zero_add _
  have hcounted : ¬((c.cursor.scan c.complete).offset ≠ c.writer.logicalLength
      ∨ (c.cursor.scan c.complete).chain ≠ c.writer.chain) :=
    not_or.mpr ⟨not_not.mpr rfl, not_not.mpr rfl⟩
  rw [scanArchive_eq hs]
  show scanRecords s _ _ c.campaignCrc32 _ _ >>= _ = _
  rw [bind_of_ok (scanRecords_rendered hs hordinary hsize), finishScan, reject_bind hcounted]
  by_cases h : complete = c.complete
  · have hfooter : ¬(complete ≠ (c.cursor.scan complete).footerValid) := not_not.mpr rfl
    rw [if_pos h, ArchiveContents.report, ← hoffset, ← hsequence, ← h, reject_bind hfooter]
    rfl
  · rw [if_neg h]
    exact reject_bind_of_fails h _

end Archive

end Ksa64.Sim
