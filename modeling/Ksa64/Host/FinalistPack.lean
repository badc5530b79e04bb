import Ksa64.Host.SearchArchive

/-!
# The pack of the finalists

The finalists of a search are packed behind one header, with one checksum over everything.  The
checker is weaker than the scanner of an archive: it does not parse the records, so it accepts any
bytes in their place (`validateKfp9_eq_ok_iff`).  What the writer writes is among them
(`encodeKpf9_eq_ok_iff`).
-/

namespace Ksa64.Host

open Ksa64.Library Ksa64.Interface

def kfp9HeaderLength : Nat := 64
def kfp9MaxFinalists : Nat := 32
def kfp9Magic : List UInt8 := [0x4b, 0x46, 0x50, 0x39]

/-- The length of a pack. -/
def kfp9Length (count : Nat) : Nat := kfp9HeaderLength + count * kra9RecordLength + 4

def kfp9Cells (manifest study : UInt32) (count : Nat) (records : List UInt8) : Layout :=
  [(0, .bytes kfp9Magic),
    (4, .word16 9),
    (6, .word16 64),
    (8, .word32 (UInt32.ofNat (kfp9Length count))),
    (12, .word32 manifest),
    (16, .word32 study),
    (20, .word16 (UInt16.ofNat count)),
    (64, .bytes records)]

def encodeKpf9 (manifest study : UInt32) (finalists : List ArchivePair) :
    Except ArchiveError (List UInt8) := do
  reject (kfp9MaxFinalists < finalists.length) .length
  let records ← finalists.mapM encodePair
  pure (sealRecord (kfp9Length finalists.length - 4)
    (kfp9Cells manifest study finalists.length records.flatten))

def validateKfp9 (input : List UInt8) : Except ArchiveError Nat := do
  reject (input.length < kfp9HeaderLength + 4 ∨ slice input 0 4 ≠ kfp9Magic) .magic
  reject (read16 input 4 ≠ 9 ∨ (read16 input 6).toNat ≠ kfp9HeaderLength
    ∨ (read32 input 8).toNat ≠ input.length) .version
  let count := (read16 input 20).toNat
  reject (kfp9MaxFinalists < count ∨ input.length ≠ kfp9Length count) .length
  reject (anyNonzero input 22 kfp9HeaderLength) .reserved
  reject (read32 input (input.length - 4) ≠ crc32Ieee (slice input 0 (input.length - 4))) .checksum
  pure count

section Packs

variable {manifest study : UInt32} {count : Nat} {records input bytes : List UInt8}
  {finalists : List ArchivePair}

@[simp] theorem length_kfp9Magic : kfp9Magic.length = 4 := rfl

theorem kfp9Length_eq (count : Nat) : kfp9Length count = 64 + count * 768 + 4 := rfl

theorem fits_kfp9 (h : records.length = count * 768) :
    Layout.Fits (kfp9Length count - 4) 0 (kfp9Cells manifest study count records) := by
  simp only [kfp9Cells, Layout.Fits, Cell.length, length_kfp9Magic, h, kfp9Length_eq]
  omega

/-- A pack, field by field. -/
theorem eq_kfp9_iff (hcount : count ≤ 32) (hrecords : records.length = count * 768) :
    input = sealRecord (kfp9Length count - 4) (kfp9Cells manifest study count records) ↔
      input.length = kfp9Length count
        ∧ crc32Ieee (slice input 0 (input.length - 4)) = read32 input (input.length - 4)
        ∧ slice input 0 4 = kfp9Magic
        ∧ read16 input 4 = 9
        ∧ read16 input 6 = 64
        ∧ (read32 input 8).toNat = input.length
        ∧ read32 input 12 = manifest
        ∧ read32 input 16 = study
        ∧ (read16 input 20).toNat = count
        ∧ ZeroOn input 22 64
        ∧ slice input 64 (64 + count * 768) = records := by
  have hend : kfp9Length count - 4 = 64 + count * 768 := by
    rw [kfp9Length_eq, Nat.add_sub_cancel]
  have hword : read32 input 8 = UInt32.ofNat (kfp9Length count) ↔
      (read32 input 8).toNat = kfp9Length count := by
    rw [← UInt32.toNat_inj, UInt32.toNat_ofNat_of_lt']
    rw [kfp9Length_eq]
    exact lt_of_le_of_lt (Nat.add_le_add_right (Nat.add_le_add_left
      (Nat.mul_le_mul_right 768 hcount) 64) 4) (by decide)
  have hhalf : read16 input 20 = UInt16.ofNat count ↔ (read16 input 20).toNat = count := by
    rw [← UInt16.toNat_inj, UInt16.toNat_ofNat_of_lt' (lt_of_le_of_lt hcount (by decide))]
  have hfour : kfp9Length count - 4 + 4 = kfp9Length count := by
    rw [kfp9Length_eq, Nat.add_sub_cancel]
  rw [eq_sealRecord_iff (fits_kfp9 hrecords), hfour]
  refine and_congr_right fun hlen ↦ ?_
  simp only [kfp9Cells, Layout.Reads, zeroOn_self, Cell.readsAs_bytes, Cell.readsAs_word16,
    Cell.readsAs_word32, Cell.length, length_kfp9Magic, hrecords, hword, hhalf, hlen, hend,
    true_and, and_true]

/-- The checker accepts the packs of at most thirty-two records, whatever stands in the records. -/
theorem validateKfp9_eq_ok_iff : validateKfp9 input = .ok count ↔
    count ≤ kfp9MaxFinalists ∧ ∃ manifest study records,
      records.length = count * kra9RecordLength
        ∧ input = sealRecord (kfp9Length count - 4) (kfp9Cells manifest study count records) := by
  unfold validateKfp9
  simp only [bind_eq_ok, reject_eq_ok, pure_eq_ok, exists_const, not_or, not_not, not_lt,
    Bool.not_eq_true, anyNonzero_eq_false]
  constructor
  · rintro ⟨⟨-, hmagic⟩, ⟨hversion, hheader, hlength⟩, ⟨hcount, hlen⟩, hzero, hcrc, rfl⟩
    have hrecords : (slice input 64 (64 + (read16 input 20).toNat * 768)).length =
        (read16 input 20).toNat * 768 := by
      rw [length_slice (by rw [hlen, kfp9Length_eq]; exact Nat.le_add_right ..),
        Nat.add_sub_cancel_left]
    exact ⟨hcount, read32 input 12, read32 input 16, _, hrecords,
      (eq_kfp9_iff hcount hrecords).mpr ⟨hlen, hcrc.symm, hmagic, hversion,
        UInt16.toNat_inj.mp hheader, hlength, rfl, rfl, rfl, hzero, rfl⟩⟩
  · rintro ⟨hcount, manifest, study, records, hrecords, hinput⟩
    obtain ⟨hlen, hcrc, hmagic, hversion, hheader, hlength, -, -, rfl, hzero, -⟩ :=
      (eq_kfp9_iff hcount hrecords).mp hinput
    refine ⟨⟨?_, hmagic⟩, ⟨hversion, ?_, hlength⟩, ⟨hcount, hlen⟩, hzero, hcrc.symm, rfl⟩
    · rw [hlen, kfp9Length_eq]
      exact Nat.add_le_add_right (Nat.le_add_right ..) 4
    · rw [hheader]
      rfl

/-- The writer packs at most thirty-two finalists that can be written, and the checker counts as
many. -/
theorem encodeKpf9_eq_ok_iff : encodeKpf9 manifest study finalists = .ok bytes ↔
    (∀ pair ∈ finalists, PairSealed pair)
      ∧ bytes = sealRecord (kfp9Length finalists.length - 4)
        (kfp9Cells manifest study finalists.length (finalists.flatMap pairBytes))
      ∧ validateKfp9 bytes = .ok finalists.length := by
  have hrecords := length_flatMap_pairBytes finalists
  unfold encodeKpf9
  simp only [bind_eq_ok, reject_eq_ok, pure_eq_ok, exists_const, not_lt, validateKfp9_eq_ok_iff,
    mapM_eq_ok_iff fun pair record ↦ @encodePair_eq_ok pair record]
  constructor
  · rintro ⟨hcount, records, ⟨hpairs, rfl⟩, rfl⟩
    rw [← List.flatMap_def]
    exact ⟨hpairs, rfl, hcount, manifest, study, _, hrecords, rfl⟩
  · rintro ⟨hpairs, rfl, hcount, -⟩
    refine ⟨hcount, _, ⟨hpairs, rfl⟩, ?_⟩
    rw [← List.flatMap_def]

end Packs

end Ksa64.Host
