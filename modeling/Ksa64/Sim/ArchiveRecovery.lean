import Ksa64.Library.Run
import Ksa64.Sim.ArchiveImage

/-!
# What a crash leaves of an archive

Every operation of the writer makes its change with its last write, and a crash before leaves the
archive as it was: what `append` writes before its superblock lies behind all that the old
superblock counts.  Only `finish` writes two superblocks.  Between them the first counts a footer,
in an archive that is not complete, and the scanner reports nothing (`scan_after_crash_iff`).
-/

namespace Ksa64.Sim

open Ksa64.Library Ksa64.Interface

/-! ## Writes -/

namespace ArchiveStorage

variable {s : ArchiveStorage} {offset : Nat} {bytes : List UInt8}

theorem capacity_le (s : ArchiveStorage) : s.capacity.toNat ≤ s.length := by
  rw [capacity, UInt32.toNat_ofNat']
  exact (Nat.mod_le ..).trans (Nat.min_le_left ..)

theorem capacity_splice (h : offset + bytes.length ≤ s.length) :
    capacity (splice s offset bytes) = s.capacity := by
  rw [capacity, capacity, length_splice h]

end ArchiveStorage

variable {F : ArchiveFormat} {capacity : UInt32} {s : ArchiveStorage} {w v : ArchiveWriter}
  {complete : Bool} {rs : List ArchiveRecord} {r : ArchiveRecord} {rest : List UInt8}
  {P : Nat → ArchiveStorage → Prop}

/-- A write within the storage is made. -/
theorem store_passes {offset : UInt32} {bytes : List UInt8} {n : Nat} {s' : ArchiveStorage}
    {next : Archiving (Attempt ArchiveError ArchiveWriter Unit)}
    {a : Attempt ArchiveError ArchiveWriter Unit}
    (hfits : offset.toNat + bytes.length ≤ s.length) (hs : P 0 s)
    (h : next.Passes ArchiveStorage.write (splice s offset.toNat bytes) n (P <| · + 1) a s') :
    (w.store offset bytes next).Passes ArchiveStorage.write s (n + 1) P a s' := by
  refine Calls.Passes.call hs ?_
  rw [ArchiveStorage.write, if_pos hfits]
  exact h

/-- A record takes three writes: its header, its payload, and the header again. -/
theorem splice_record (rest : List UInt8) {header payload committed : List UInt8}
    (h : committed.length = header.length) :
    splice (splice (splice rest 0 header) header.length payload) 0 committed =
      committed ++ payload ++ rest.drop (header.length + payload.length) := by
  rw [splice_zero rest, splice_append_right (Nat.add_zero _).symm, splice_zero_append h, splice_zero,
    List.drop_drop, List.append_assoc]

theorem length_image : (image F capacity w complete rs rest).length =
    archiveSuperblockLength + sizes rs + rest.length := by
  rw [image, List.length_append, List.length_append, length_superblock,
    ArchiveCursor.length_render, Nat.add_assoc]

/-- A write behind the records that are counted. -/
theorem splice_image {offset d : Nat} {bytes : List UInt8}
    (h : offset = archiveSuperblockLength + sizes rs + d) :
    splice (image F capacity w complete rs rest) offset bytes =
      image F capacity w complete rs (splice rest d bytes) := by
  unfold image
  rw [← List.append_assoc, splice_append_right (d := d), List.append_assoc]
  rw [h, List.length_append, length_superblock, ArchiveCursor.length_render]

theorem writeSuperblock_eq (F : ArchiveFormat) (capacity : UInt32) (w : ArchiveWriter)
    (complete : Bool) : w.writeSuperblock F capacity complete =
      w.store 0 (superblock F capacity w complete) (.done (.ok (), w)) := rfl

/-- A new superblock. -/
theorem splice_superblock {flag : Bool} : splice (image F capacity v complete rs rest) 0
    (superblock F capacity w flag) = image F capacity w flag rs rest :=
  splice_zero_append (length_superblock.trans length_superblock.symm)

/-- The rest of an image may begin with a record. -/
theorem image_concat : image F capacity w complete rs
      ((ArchiveCursor.origin.after rs).record r ++ rest) =
    image F capacity w complete (rs ++ [r]) rest := by
  rw [image, image, ArchiveCursor.render_concat, List.append_assoc]

/-- The storage has the records, behind a superblock that counts them. -/
structure Spells (F : ArchiveFormat) (capacity : UInt32) (w : ArchiveWriter) (complete : Bool)
    (rs : List ArchiveRecord) (s : ArchiveStorage) : Prop where
  capacity_eq : s.capacity = capacity
  eq_image : ∃ rest, s = image F capacity w complete rs rest

/-- Whether the writer has finished is not written. -/
theorem Spells.finished {k : ArchiveCursor} {campaign : UInt32} {finished : Bool}
    (hs : Spells F capacity (k.writer campaign finished) complete rs s) (finished' : Bool) :
    Spells F capacity (k.writer campaign finished') complete rs s := by
  obtain ⟨hcapacity, rest, hrest⟩ := hs
  exact ⟨hcapacity, rest, hrest⟩

/-- What lies behind the records that are counted does not matter. -/
theorem Spells.of_length_eq {rest' : List UInt8}
    (hs : Spells F capacity w complete rs (image F capacity w complete rs rest))
    (h : rest'.length = rest.length) :
    Spells F capacity w complete rs (image F capacity w complete rs rest') := by
  refine ⟨?_, rest', rfl⟩
  rw [← hs.capacity_eq, ArchiveStorage.capacity, ArchiveStorage.capacity, length_image, length_image,
    h]

/-- A write behind the records that are counted is made. -/
theorem store_image_passes {offset : UInt32} {d n : Nat} {bytes : List UInt8} {s' : ArchiveStorage}
    {next : Archiving (Attempt ArchiveError ArchiveWriter Unit)}
    {a : Attempt ArchiveError ArchiveWriter Unit}
    (hoffset : offset.toNat = archiveSuperblockLength + sizes rs + d)
    (hfits : d + bytes.length ≤ rest.length) (hs : P 0 (image F capacity v complete rs rest))
    (h : next.Passes ArchiveStorage.write (image F capacity v complete rs (splice rest d bytes)) n
      (P <| · + 1) a s') :
    (w.store offset bytes next).Passes ArchiveStorage.write (image F capacity v complete rs rest)
      (n + 1) P a s' := by
  refine store_passes ?_ hs ?_
  · rw [hoffset, length_image]
    omega
  · rw [splice_image hoffset]
    exact h

/-- The superblock is written over another. -/
theorem writeSuperblock_passes (hs : Spells F capacity v complete rs s) (h : P 0 s)
    (w : ArchiveWriter) (flag : Bool) :
    ∃ s', (w.writeSuperblock F capacity flag).Passes ArchiveStorage.write s 1 P (.ok (), w) s'
      ∧ Spells F capacity w flag rs s' := by
  obtain ⟨hcapacity, rest, hrest⟩ := hs
  have hfits : (0 : UInt32).toNat + (superblock F capacity w flag).length ≤ s.length := by
    rw [hrest, length_superblock, length_image, UInt32.toNat_zero]
    omega
  have hsplice : splice s (0 : UInt32).toNat (superblock F capacity w flag) =
      image F capacity w flag rs rest := by
    rw [hrest]
    exact splice_superblock
  rw [writeSuperblock_eq]
  refine ⟨_, store_passes hfits h .done, ?_, rest, hsplice⟩
  rw [ArchiveStorage.capacity_splice hfits, hcapacity]

/-! ## Appending -/

section Append

variable {k : ArchiveCursor} {campaign : UInt32} {finished : Bool}

theorem toNat_length (h : r.payload.length < 2 ^ 32) : r.length.toNat = r.payload.length :=
  UInt32.toNat_ofNat_of_lt' h

/-- The writes for a record that there is room for. -/
theorem appendInternal_eq (h : k.offset.toNat + r.size ≤ capacity.toNat) :
    (k.writer campaign finished).appendInternal F capacity r.kind r.runIndex r.payload =
      ((k.writer campaign finished).store k.offset (k.header r 0) <|
        (k.writer campaign finished).store
          (k.offset + UInt32.ofNat archiveRecordHeaderLength) r.payload <|
        (k.writer campaign finished).store k.offset (k.header r recordCommitted) <|
        ((k.next r).writer campaign finished).writeSuperblock F capacity false) := by
  have hbound := capacity.toNat_lt
  have hnext := ArchiveCursor.toNat_offset_next (k := k) (r := r) (by omega)
  unfold ArchiveRecord.size archiveRecordHeaderLength at h hnext
  have hlength := toNat_length (r := r) (by omega)
  have htotal : checkedAdd32 (UInt32.ofNat archiveRecordHeaderLength) r.length =
      some (UInt32.ofNat archiveRecordHeaderLength + r.length) := by
    rw [checkedAdd32_eq_some, UInt32.toNat_add, hlength, archiveRecordHeaderLength,
      UInt32.toNat_ofNat_of_lt' (by decide)]
    omega
  have hstop : checkedAdd32 k.offset (UInt32.ofNat archiveRecordHeaderLength + r.length) =
      some (k.next r).offset := by
    rw [checkedAdd32_eq_some, hnext, UInt32.toNat_add, hlength, archiveRecordHeaderLength,
      UInt32.toNat_ofNat_of_lt' (by decide)]
    omega
  have hroom : ¬capacity < (k.next r).offset := by
    rw [UInt32.lt_iff_toNat_lt, hnext]
    omega
  unfold ArchiveWriter.appendInternal
  extract_lets length
  rw [show length = r.length from rfl, htotal]
  dsimp only
  rw [show (k.writer campaign finished).logicalLength = k.offset from rfl, hstop]
  dsimp only
  rw [if_neg hroom]
  rfl

/-- A record that there is no room for is not written. -/
theorem appendInternal_rejects (hlength : r.payload.length < 2 ^ 32)
    (h : capacity.toNat < k.offset.toNat + r.size) :
    ∃ e, (k.writer campaign finished).appendInternal F capacity r.kind r.runIndex r.payload =
      .done (.error e, k.writer campaign finished) := by
  unfold ArchiveWriter.appendInternal
  dsimp only
  cases htotal : checkedAdd32 (UInt32.ofNat archiveRecordHeaderLength)
      (UInt32.ofNat r.payload.length) with
  | none => exact ⟨_, rfl⟩
  | some total =>
      dsimp only
      cases hstop : checkedAdd32 (k.writer campaign finished).logicalLength total with
      | none => exact ⟨_, rfl⟩
      | some stop =>
          have htotal := checkedAdd32_eq_some.mp htotal
          have hstop := checkedAdd32_eq_some.mp hstop
          have hroom : capacity < stop := by
            rw [UInt32.lt_iff_toNat_lt, ← hstop, ← htotal, UInt32.toNat_ofNat_of_lt' hlength]
            exact h
          dsimp only
          rw [if_pos hroom]
          exact ⟨_, rfl⟩

/-- The writes for a record lie behind the records that are counted, and leave it there. -/
theorem stores_record_passes {n : Nat} {s' : ArchiveStorage}
    {next : Archiving (Attempt ArchiveError ArchiveWriter Unit)}
    {a : Attempt ArchiveError ArchiveWriter Unit} (hk : k = ArchiveCursor.origin.after rs)
    (hoffset : k.offset.toNat = archiveSuperblockLength + sizes rs)
    (hbound : archiveSuperblockLength + sizes rs + r.size < 2 ^ 32) (hfits : r.size ≤ rest.length)
    (hP : ∀ m < 3, ∀ rest', rest'.length = rest.length →
      P m (image F capacity v complete rs rest'))
    (h : next.Passes ArchiveStorage.write
      (image F capacity v complete (rs ++ [r]) (rest.drop r.size)) n (P <| · + 3) a s') :
    (w.store k.offset (k.header r 0) <|
      w.store (k.offset + UInt32.ofNat archiveRecordHeaderLength) r.payload <|
      w.store k.offset (k.header r recordCommitted) next).Passes ArchiveStorage.write
        (image F capacity v complete rs rest) (n + 3) P a s' := by
  unfold ArchiveRecord.size at hfits hbound
  have hpayload : (k.offset + UInt32.ofNat archiveRecordHeaderLength).toNat =
      archiveSuperblockLength + sizes rs + archiveRecordHeaderLength := by
    rw [UInt32.toNat_add, hoffset, UInt32.toNat_ofNat_of_lt' (by decide)]
    omega
  have hheader (flags : UInt16) := k.length_header (r := r) flags
  have hfits₁ : 0 + (k.header r 0).length ≤ rest.length := by
    rw [hheader]
    omega
  have hlength₁ := length_splice hfits₁
  have hfits₂ : archiveRecordHeaderLength + r.payload.length ≤
      (splice rest 0 (k.header r 0)).length := by
    rw [hlength₁]
    exact hfits
  have hlength₂ := (length_splice hfits₂).trans hlength₁
  have hfits₃ : 0 + (k.header r recordCommitted).length ≤
      (splice (splice rest 0 (k.header r 0)) archiveRecordHeaderLength r.payload).length := by
    rw [hlength₂, hheader]
    omega
  have hrecord := @splice_record rest _ r.payload _
    ((hheader recordCommitted).trans (hheader 0).symm)
  rw [hheader] at hrecord
  refine store_image_passes hoffset hfits₁ (hP 0 (by decide) _ rfl) ?_
  refine store_image_passes hpayload hfits₂ (hP 1 (by decide) _ hlength₁) ?_
  refine store_image_passes hoffset hfits₃ (hP 2 (by decide) _ hlength₂) ?_
  rw [hrecord, ← ArchiveCursor.record, hk, image_concat]
  exact h

/-- A record behind the records that are counted leaves them. -/
theorem Spells.behind (hs : Spells F capacity v complete rs (image F capacity v complete rs rest))
    (hfits : r.size ≤ rest.length) (hk : k = ArchiveCursor.origin.after rs) :
    Spells F capacity v complete rs
      (image F capacity v complete (rs ++ [r]) (rest.drop r.size)) := by
  rw [← image_concat, ← hk]
  refine hs.of_length_eq ?_
  rw [List.length_append, ArchiveCursor.length_record, List.length_drop]
  omega

/-- A record is appended with the superblock that counts it. -/
theorem appendInternal_passes (hs : Spells F capacity v complete rs s)
    (hfits : archiveSuperblockLength + sizes rs + r.size ≤ capacity.toNat)
    (hk : k = ArchiveCursor.origin.after rs) :
    ∃ s', ((k.writer campaign finished).appendInternal F capacity r.kind r.runIndex
          r.payload).Passes ArchiveStorage.write s 4 (fun _ ↦ Spells F capacity v complete rs)
          (.ok (), (k.next r).writer campaign finished) s'
      ∧ Spells F capacity ((k.next r).writer campaign finished) false (rs ++ [r]) s' := by
  have hbound := Nat.lt_of_le_of_lt hfits capacity.toNat_lt
  have hoffset : k.offset.toNat = archiveSuperblockLength + sizes rs := by
    rw [hk]
    exact ArchiveCursor.toNat_offset_after (Nat.lt_of_add_right_lt hbound)
  have hroom := ArchiveStorage.capacity_le s
  obtain ⟨rest, hrest⟩ := hs.eq_image
  rw [hs.capacity_eq, hrest, length_image] at hroom
  have hfree : r.size ≤ rest.length := by omega
  rw [hrest] at hs
  obtain ⟨s', hpasses, hspells⟩ := writeSuperblock_passes
    (P := fun _ ↦ Spells F capacity v complete rs) ⟨(hs.behind hfree hk).capacity_eq, _, rfl⟩ (hs.behind hfree hk)
    ((k.next r).writer campaign finished) false
  refine ⟨s', ?_, hspells⟩
  rw [appendInternal_eq (by rw [hoffset]; exact hfits), hrest]
  refine stores_record_passes hk hoffset hbound hfree ?_ hpasses
  exact fun _ _ rest' hrest' ↦ hs.of_length_eq hrest'

end Append

/-! ## Operations -/

inductive ArchiveOperation where
  | create (campaignCrc32 : UInt32)
  | append (kind : UInt16) (runIndex : UInt32) (payload : List UInt8)
  | finish
deriving DecidableEq

/-- A storage, and the writer that has it. -/
structure Archive where
  storage : ArchiveStorage
  writer : Option ArchiveWriter
deriving DecidableEq

namespace Archive

/-- The writes of an operation, and the writer that there is then. -/
def program (F : ArchiveFormat) (a : Archive) : ArchiveOperation → Archiving (Option ArchiveWriter)
  | .create campaign =>
      (ArchiveWriter.create F a.storage.capacity campaign).andThen fun result ↦ .done result.2
  | .append kind run payload =>
      a.writer.elim (.done none) fun w ↦
        (w.append F a.storage.capacity kind run payload).andThen fun result ↦ .done (some result.2)
  | .finish =>
      a.writer.elim (.done none) fun w ↦
        (w.finish F a.storage.capacity).andThen fun result ↦ .done (some result.2)

def step (F : ArchiveFormat) (a : Archive) (op : ArchiveOperation) : Archive :=
  let (writer, storage) := (a.program F op).run ArchiveStorage.write a.storage
  { storage := storage, writer := writer }

/-- What is left of the storage if the operation is stopped after `n` writes. -/
def crash (F : ArchiveFormat) (a : Archive) (op : ArchiveOperation) (n : Nat) : ArchiveStorage :=
  (a.program F op).stopAfter ArchiveStorage.write n a.storage

end Archive

namespace ArchiveOperation

/-- How many writes the operation takes; the last one of them makes its change. -/
def writes : ArchiveOperation → Nat
  | create _ => 1
  | append .. => 4
  | finish => 5

/-- Whether the operation goes ahead. -/
def Goes (capacity : UInt32) (c : Option ArchiveContents) : ArchiveOperation → Prop
  | create _ => archiveSuperblockLength ≤ capacity.toNat
  | append kind run payload => ∃ contents ∈ c, contents.Takes capacity ⟨kind, run, payload⟩
  | finish => ∃ contents ∈ c, contents.Finishes capacity

/-- What the operation is for. -/
def change (c : Option ArchiveContents) : ArchiveOperation → Option ArchiveContents
  | create campaign => some { campaignCrc32 := campaign, records := [], complete := false }
  | append kind run payload =>
      c.map fun contents ↦ { contents with records := contents.records ++ [⟨kind, run, payload⟩] }
  | finish => c.map fun contents ↦ { contents with complete := true }

instance (capacity : UInt32) (c : Option ArchiveContents) (op : ArchiveOperation) :
    Decidable (op.Goes capacity c) :=
  match op with
  | create _ => inferInstanceAs (Decidable (_ ≤ _))
  | append .. => inferInstanceAs (Decidable (∃ contents ∈ c, _))
  | finish => inferInstanceAs (Decidable (∃ contents ∈ c, _))

end ArchiveOperation

/-- The contents after an operation. -/
def contentsAfter (capacity : UInt32) (c : Option ArchiveContents) (op : ArchiveOperation) :
    Option ArchiveContents :=
  if op.Goes capacity c then op.change c else c

/-- A scan reports the contents, once there is an archive. -/
def Reports (F : ArchiveFormat) (s : ArchiveStorage) (c : Option ArchiveContents) : Prop :=
  ∀ contents ∈ c, scanArchive F s = .ok contents.report

/-- The storage holds the contents. -/
structure Holds (F : ArchiveFormat) (s : ArchiveStorage) (c : ArchiveContents) : Prop where
  ordinary : ∀ r ∈ c.records, r.kind ≠ recordFooter
  fits : c.size ≤ s.capacity.toNat
  spells : Spells F s.capacity c.writer c.complete c.rendered s

/-- The writer is at the contents that the storage holds. -/
structure Reflects (F : ArchiveFormat) (a : Archive) (c : Option ArchiveContents) : Prop where
  writer_eq : a.writer = c.map ArchiveContents.writer
  holds : ∀ contents ∈ c, Holds F a.storage contents

/-- What a scan makes of the storage after `k` of the writes of an operation: what there was is
reported, unless a footer is counted already. -/
def Interim (F : ArchiveFormat) (c : Option ArchiveContents) (k : Nat) (s : ArchiveStorage) : Prop :=
  if k = 4 then scanArchive F s = .error .incomplete else Reports F s c

section Operation

variable {c : ArchiveContents}

theorem scanArchive_of_spells (hs : Spells F capacity c.writer complete c.rendered s)
    (hordinary : ∀ r ∈ c.records, r.kind ≠ recordFooter) (hfits : c.size ≤ capacity.toNat) :
    scanArchive F s = if complete = c.complete then .ok c.report else .error .incomplete := by
  obtain ⟨hcapacity, rest, himage⟩ := hs
  rw [← hcapacity] at himage
  exact scanArchive_image himage hordinary (Nat.lt_of_le_of_lt hfits capacity.toNat_lt)

theorem Holds.scan (h : Holds F s c) : scanArchive F s = .ok c.report := by
  rw [scanArchive_of_spells h.spells h.ordinary h.fits, if_pos rfl]

theorem reports_some : Reports F s (some c) ↔ scanArchive F s = .ok c.report :=
  ⟨fun h ↦ h c rfl, fun h _ hc ↦ Option.some.inj hc ▸ h⟩

/-- A storage that still spells what it did. -/
theorem Holds.interim (h : Holds F s c) {k : Nat} {t : ArchiveStorage} (hk : k ≠ 4)
    (ht : Spells F s.capacity c.writer c.complete c.rendered t) : Interim F (some c) k t := by
  rw [Interim, if_neg hk, reports_some, scanArchive_of_spells ht h.ordinary h.fits, if_pos rfl]

namespace ArchiveContents

theorem rendered_of_open (h : c.complete = false) : c.rendered = c.records :=
  if_neg (Bool.eq_false_iff.mp h)

theorem rendered_append (h : c.complete = false) (r : ArchiveRecord) :
    { c with records := c.records ++ [r] }.rendered = c.rendered ++ [r] := by
  rw [rendered_of_open h]
  exact if_neg (Bool.eq_false_iff.mp h)

theorem rendered_finish (h : c.complete = false) :
    { c with complete := true }.rendered = c.rendered ++ [c.cursor.footer c.campaignCrc32] := by
  rw [cursor, rendered_of_open h]
  exact if_pos rfl

end ArchiveContents

/-- A record that there is room for is appended to what the storage holds. -/
theorem append_passes (h : Holds F s c) (hr : c.Takes s.capacity r) :
    ∃ s', (c.writer.append F s.capacity r.kind r.runIndex r.payload).Passes ArchiveStorage.write s 4
        (Interim F (some c)) (.ok (), { c with records := c.records ++ [r] }.writer) s'
      ∧ s'.capacity = s.capacity ∧ Holds F s' { c with records := c.records ++ [r] } := by
  obtain ⟨hopen, hkind, hfits⟩ := hr
  have hgo : ¬(c.writer.finished ∨ r.kind = recordFooter ∨ 2 ^ 32 - 1 < r.payload.length) := by
    have hbound := s.capacity.toNat_lt
    have hpayload : ¬2 ^ 32 - 1 < r.payload.length := by
      unfold ArchiveRecord.size at hfits
      omega
    exact not_or.mpr ⟨Bool.eq_false_iff.mp hopen, not_or.mpr ⟨hkind, hpayload⟩⟩
  have hwriter : { c with records := c.records ++ [r] }.writer =
      (c.cursor.next r).writer c.campaignCrc32 c.complete := by
    rw [ArchiveContents.writer, ArchiveContents.cursor, ArchiveContents.rendered_append hopen,
      ArchiveCursor.after_concat]
    rfl
  obtain ⟨s', hpasses, hspells⟩ := @appendInternal_passes _ _ _ _ _ _ _ c.cursor
    c.campaignCrc32 c.complete h.spells hfits rfl
  refine ⟨s', ?_, hspells.capacity_eq, ?_, ?_, ?_⟩
  · rw [ArchiveWriter.append, if_neg hgo, hwriter]
    refine hpasses.mono fun k hk t ht ↦ ?_
    exact h.interim (Nat.ne_of_lt hk) ht
  · intro first hfirst
    rcases List.mem_append.mp hfirst with hmem | hmem
    · exact h.ordinary first hmem
    · rw [List.mem_singleton.mp hmem]
      exact hkind
  · rw [hspells.capacity_eq, ArchiveContents.size, ArchiveContents.rendered_append hopen,
      sizes_concat, ← Nat.add_assoc]
    exact hfits
  · rw [hspells.capacity_eq, hwriter, ArchiveContents.rendered_append hopen]
    show Spells F s.capacity _ c.complete _ s'
    rw [hopen]
    rw [hopen] at hspells
    exact hspells

/-- The footer is appended to what the storage holds, and then the archive is complete. -/
theorem finish_passes (h : Holds F s c) (hc : c.Finishes s.capacity) :
    ∃ s', (c.writer.finish F s.capacity).Passes ArchiveStorage.write s 5
        (Interim F (some c)) (.ok (), { c with complete := true }.writer) s'
      ∧ s'.capacity = s.capacity ∧ Holds F s' { c with complete := true } := by
  obtain ⟨hopen, hfits⟩ := hc
  set r := c.cursor.footer c.campaignCrc32 with hr
  have hsize : r.size = 48 := rfl
  have hwriter : { c with complete := true }.writer =
      (c.cursor.next r).writer c.campaignCrc32 true := by
    rw [ArchiveContents.writer, ArchiveContents.cursor, ArchiveContents.rendered_finish hopen,
      ArchiveCursor.after_concat]
    rfl
  obtain ⟨s₁, hpasses, hspells⟩ := @appendInternal_passes _ _ _ _ _ _ r c.cursor
    c.campaignCrc32 c.complete h.spells (by rw [hsize]; exact hfits) rfl
  have hfooter : Spells F s.capacity { c with complete := true }.writer false
      { c with complete := true }.rendered s₁ := by
    rw [hwriter, ArchiveContents.rendered_finish hopen]
    exact hspells.finished true
  have hfits' : { c with complete := true }.size ≤ s.capacity.toNat := by
    rw [ArchiveContents.size, ArchiveContents.rendered_finish hopen, sizes_concat, ← Nat.add_assoc,
      ← hr, hsize]
    exact hfits
  have hincomplete : Interim F (some c) 4 s₁ := by
    rw [Interim, if_pos rfl, scanArchive_of_spells hfooter h.ordinary hfits', if_neg (by rintro ⟨⟩)]
  obtain ⟨s', hpasses', hspells'⟩ := writeSuperblock_passes
    (P := fun k ↦ Interim F (some c) (4 + k)) hspells hincomplete
    ((c.cursor.next r).writer c.campaignCrc32 true) true
  refine ⟨s', ?_, hspells'.capacity_eq, h.ordinary, ?_, ?_⟩
  · have hgo : ¬c.writer.finished = true := Bool.eq_false_iff.mp hopen
    rw [ArchiveWriter.finish, if_neg hgo, hwriter]
    refine Calls.Passes.andThen (m := 4) (n := 1) (hpasses.mono fun k hk t ht ↦ ?_) ?_
    · exact h.interim (Nat.ne_of_lt hk) ht
    · exact hpasses'
  · rw [hspells'.capacity_eq]
    exact hfits'
  · rw [hspells'.capacity_eq, hwriter, ArchiveContents.rendered_finish hopen]
    exact hspells'

/-- An empty archive takes the place of whatever there was. -/
theorem create_passes {c : Option ArchiveContents} (hs : Reports F s c)
    (hfits : archiveSuperblockLength ≤ s.capacity.toNat) (campaign : UInt32) :
    ∃ s', (ArchiveWriter.create F s.capacity campaign).Passes ArchiveStorage.write s 1
        (Interim F c) (.ok (), some (ArchiveContents.mk campaign [] false).writer) s'
      ∧ s'.capacity = s.capacity ∧ Holds F s' { campaignCrc32 := campaign, records := [], complete := false } := by
  have hgo : ¬s.capacity < UInt32.ofNat archiveSuperblockLength := by
    rw [UInt32.lt_iff_toNat_lt]
    exact Nat.not_lt.mpr hfits
  have hroom := hfits.trans (ArchiveStorage.capacity_le s)
  set w := (ArchiveContents.mk campaign [] false).writer with hw
  have hlength : (superblock F s.capacity w false).length = archiveSuperblockLength :=
    length_superblock
  have hroom' : (0 : UInt32).toNat + (superblock F s.capacity w false).length ≤ s.length := by
    rw [hlength, UInt32.toNat_zero, Nat.zero_add]
    exact hroom
  have hcapacity := ArchiveStorage.capacity_splice hroom'
  refine ⟨splice s (0 : UInt32).toNat (superblock F s.capacity w false), ?_, hcapacity, nofun, ?_, ?_⟩
  · rw [ArchiveWriter.create, if_neg hgo]
    refine Calls.Passes.andThen (m := 1) (n := 0) (a := (.ok (), w)) ?_ .done
    rw [writeSuperblock_eq]
    exact store_passes hroom' hs .done
  · rw [hcapacity]
    exact hfits
  · rw [hcapacity]
    refine ⟨hcapacity, s.drop archiveSuperblockLength, ?_⟩
    rw [UInt32.toNat_zero, splice_zero, hlength]
    rfl

theorem Holds.toNat_offset (h : Holds F s c) : c.cursor.offset.toNat = c.size :=
  c.toNat_offset (Nat.lt_of_le_of_lt h.fits s.capacity.toNat_lt)

theorem append_rejects (h : Holds F s c) (hr : ¬c.Takes s.capacity r) :
    ∃ e, c.writer.append F s.capacity r.kind r.runIndex r.payload = .done (.error e, c.writer) := by
  unfold ArchiveWriter.append
  by_cases hstay : c.writer.finished ∨ r.kind = recordFooter ∨ 2 ^ 32 - 1 < r.payload.length
  · exact ⟨_, if_pos hstay⟩
  · obtain ⟨hopen, hkind, hlength⟩ := (not_or.mp hstay).imp_right not_or.mp
    rw [if_neg hstay]
    refine appendInternal_rejects (k := c.cursor) (by omega) ?_
    rw [h.toNat_offset]
    exact Nat.lt_of_not_le fun hfits ↦ hr ⟨Bool.eq_false_iff.mpr hopen, hkind, hfits⟩

theorem finish_rejects (h : Holds F s c) (hc : ¬c.Finishes s.capacity) :
    ∃ result, c.writer.finish F s.capacity = .done (result, c.writer) := by
  unfold ArchiveWriter.finish
  by_cases hstay : c.writer.finished
  · exact ⟨_, if_pos hstay⟩
  · have hroom : s.capacity.toNat <
        c.cursor.offset.toNat + (c.cursor.footer c.campaignCrc32).size := by
      rw [h.toNat_offset]
      exact Nat.lt_of_not_le fun hfits ↦ hc ⟨Bool.eq_false_iff.mpr hstay, hfits⟩
    have hlength : (c.cursor.footer c.campaignCrc32).payload.length < 2 ^ 32 := by
      show 16 < 2 ^ 32
      decide
    obtain ⟨e, he⟩ := @appendInternal_rejects F _ _ _ c.campaignCrc32
      c.complete hlength hroom
    rw [if_neg hstay]
    exact ⟨.error e, congrArg (Calls.andThen · _) he⟩

variable {a : Archive} {contents : Option ArchiveContents} {op : ArchiveOperation}

/-- An operation that does not go ahead writes nothing. -/
theorem program_idle (h : Reflects F a contents) (hstay : ¬op.Goes a.storage.capacity contents) :
    a.program F op = .done a.writer := by
  have hwriter := h.writer_eq
  cases op with
  | create campaign =>
      have hsmall : a.storage.capacity < UInt32.ofNat archiveSuperblockLength :=
        UInt32.lt_iff_toNat_lt.mpr (Nat.lt_of_not_le hstay)
      cases contents with
      | none =>
          rw [hwriter, Archive.program, ArchiveWriter.create, if_pos hsmall]
          rfl
      | some c =>
          have hfits := (h.holds c rfl).fits
          exact absurd ((Nat.le_add_right ..).trans hfits) hstay
  | append kind run payload =>
      cases contents with
      | none =>
          rw [Archive.program, hwriter]
          rfl
      | some c =>
          obtain ⟨e, he⟩ := append_rejects (r := ⟨kind, run, payload⟩) (h.holds c rfl) fun hr ↦
            hstay ⟨c, rfl, hr⟩
          rw [Archive.program, hwriter]
          exact congrArg (Calls.andThen · _) he
  | finish =>
      cases contents with
      | none =>
          rw [Archive.program, hwriter]
          rfl
      | some c =>
          obtain ⟨result, he⟩ := finish_rejects (h.holds c rfl) fun hc ↦ hstay ⟨c, rfl, hc⟩
          rw [Archive.program, hwriter]
          exact congrArg (Calls.andThen · _) he

/-- The writes of an operation that goes ahead. -/
theorem program_passes (h : Reflects F a contents) (hgo : op.Goes a.storage.capacity contents) :
    ∃ s', (a.program F op).Passes ArchiveStorage.write a.storage op.writes (Interim F contents)
        ((op.change contents).map ArchiveContents.writer) s'
      ∧ s'.capacity = a.storage.capacity ∧ ∀ c ∈ op.change contents, Holds F s' c := by
  have hwriter := h.writer_eq
  cases op with
  | create campaign =>
      have hreports : Reports F a.storage contents := fun c hc ↦ (h.holds c hc).scan
      obtain ⟨s', hpasses, hcapacity, hholds⟩ := create_passes hreports hgo campaign
      refine ⟨s', hpasses.andThen (n := 0) .done, hcapacity, ?_⟩
      rintro _ ⟨⟩
      exact hholds
  | append kind run payload =>
      obtain ⟨c, hc, hr⟩ := hgo
      cases hc
      obtain ⟨s', hpasses, hcapacity, hholds⟩ := append_passes (h.holds c rfl) hr
      rw [Archive.program, hwriter]
      refine ⟨s', hpasses.andThen (n := 0) .done, hcapacity, ?_⟩
      rintro _ ⟨⟩
      exact hholds
  | finish =>
      obtain ⟨c, hc, hfinishes⟩ := hgo
      cases hc
      obtain ⟨s', hpasses, hcapacity, hholds⟩ := finish_passes (h.holds c rfl) hfinishes
      rw [Archive.program, hwriter]
      refine ⟨s', hpasses.andThen (n := 0) .done, hcapacity, ?_⟩
      rintro _ ⟨⟩
      exact hholds

/-- A step of the archive is a change of its contents. -/
theorem Reflects.step (h : Reflects F a contents) (op : ArchiveOperation) :
    (a.step F op).storage.capacity = a.storage.capacity
      ∧ Reflects F (a.step F op) (contentsAfter a.storage.capacity contents op) := by
  unfold contentsAfter
  by_cases hgo : op.Goes a.storage.capacity contents
  · obtain ⟨s', hpasses, hcapacity, hholds⟩ := program_passes h hgo
    have hstep : a.step F op = ⟨s', (op.change contents).map ArchiveContents.writer⟩ := by
      rw [Archive.step, hpasses.run]
    rw [if_pos hgo, hstep]
    exact ⟨hcapacity, rfl, hholds⟩
  · have hstep : a.step F op = a := by
      rw [Archive.step, program_idle h hgo]
      rfl
    rw [if_neg hgo, hstep]
    exact ⟨rfl, h⟩

theorem Reflects.run (h : Reflects F a contents) (ops : List ArchiveOperation) :
    (Library.run (Archive.step F) a ops).storage.capacity = a.storage.capacity
      ∧ Reflects F (Library.run (Archive.step F) a ops)
          (Library.run (contentsAfter a.storage.capacity) contents ops) := by
  induction ops generalizing a contents with
  | nil => exact ⟨rfl, h⟩
  | cons op ops ih =>
      obtain ⟨hcapacity, hstep⟩ := h.step op
      obtain ⟨hcapacity', hrun⟩ := ih hstep
      rw [hcapacity] at hcapacity' hrun
      exact ⟨hcapacity', hrun⟩

/-- What a scan makes of an archive that a crash has stopped in an operation. -/
theorem Reflects.crash (h : Reflects F a contents) (op : ArchiveOperation) (n : Nat) :
    Reports F (a.crash F op n)
        (if op.writes ≤ n then contentsAfter a.storage.capacity contents op else contents) ↔
      ¬(n = 4 ∧ op = .finish ∧ op.Goes a.storage.capacity contents) := by
  have hreports : Reports F a.storage contents := fun c hc ↦ (h.holds c hc).scan
  unfold contentsAfter Archive.crash
  by_cases hgo : op.Goes a.storage.capacity contents
  · obtain ⟨s', hpasses, -, hholds⟩ := program_passes h hgo
    rw [if_pos hgo]
    by_cases hlast : op.writes ≤ n
    · rw [if_pos hlast, hpasses.stopAfter_eq hlast]
      refine iff_of_true (fun c hc ↦ (hholds c hc).scan) ?_
      rintro ⟨rfl, rfl, -⟩
      exact absurd hlast (by decide)
    · have hinterim := hpasses.through n (Nat.lt_of_not_le hlast)
      rw [if_neg hlast]
      by_cases hn : n = 4
      · subst hn
        have hfinish : op = .finish := by
          cases op with
          | create campaign => exact absurd (show 1 ≤ 4 by decide) hlast
          | append kind run payload => exact absurd (show 4 ≤ 4 from Nat.le_refl 4) hlast
          | finish => rfl
        subst hfinish
        refine iff_of_false (fun hscan ↦ ?_) (not_not.mpr ⟨rfl, rfl, hgo⟩)
        obtain ⟨c, hc, -⟩ := hgo
        rw [Interim, if_pos rfl] at hinterim
        exact nomatch hinterim.symm.trans (hscan c hc)
      · rw [Interim, if_neg hn] at hinterim
        exact iff_of_true hinterim fun h ↦ hn h.1
  · rw [if_neg hgo, ite_self, program_idle h hgo, Calls.stopAfter_done]
    exact iff_of_true hreports fun h ↦ hgo h.2.2

end Operation

/-- **What a crash leaves of an archive.**  In every run of `create`, `append` and `finish`, and for
every crash after `n` writes of one operation more, a scan reports the contents of the archive, with
the change of the operation if the last of its writes was made — but not if the crash comes between
the two superblocks of `finish`. -/
theorem scan_after_crash_iff (F : ArchiveFormat) (s : ArchiveStorage) (ops : List ArchiveOperation)
    (op : ArchiveOperation) (n : Nat) :
    Reports F ((run (Archive.step F) ⟨s, none⟩ ops).crash F op n)
        (run (contentsAfter s.capacity) none (if op.writes ≤ n then ops ++ [op] else ops)) ↔
      ¬(n = 4 ∧ op = .finish ∧ op.Goes s.capacity (run (contentsAfter s.capacity) none ops)) := by
  have horigin : Reflects F ⟨s, none⟩ none := ⟨rfl, nofun⟩
  obtain ⟨hcapacity, hreflects⟩ := horigin.run ops
  have hcrash := hreflects.crash op n
  rw [hcapacity] at hcrash
  rw [apply_ite (run (contentsAfter s.capacity) none), run_concat]
  exact hcrash

/-- An archive of no records, when a crash comes between the two superblocks of `finish`. -/
theorem scan_between_superblocks :
    scanArchive kra4 ((run (Archive.step kra4) ⟨List.replicate 304 0, none⟩ [.create 7]).crash kra4
      .finish 4) = .error .incomplete := by
  have horigin : Reflects kra4 ⟨List.replicate 304 0, none⟩ none := ⟨rfl, nofun⟩
  obtain ⟨hcapacity, hreflects⟩ := horigin.run [.create 7]
  have hlength : ArchiveStorage.capacity (List.replicate 304 0) = 304 := by
    rw [ArchiveStorage.capacity, List.length_replicate]
    rfl
  rw [hlength] at hcapacity hreflects
  have hcreate : (ArchiveOperation.create 7).Goes 304 none := show 256 ≤ 304 by decide
  have hempty : contentsAfter 304 none (.create 7) = some ⟨7, [], false⟩ := if_pos hcreate
  have hgo : ArchiveOperation.finish.Goes 304 (run (contentsAfter 304) none [.create 7]) :=
    ⟨⟨7, [], false⟩, hempty, rfl, Nat.le_refl 304⟩
  obtain ⟨s', hpasses, -, -⟩ := @program_passes _ _ _ .finish hreflects (by
    rw [hcapacity]
    exact hgo)
  exact hpasses.through 4 (Nat.lt_succ_self 4)

end Ksa64.Sim
