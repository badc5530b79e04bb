import Ksa64.Interface.Canonical
import Ksa64.Host.Phase9

/-!
# The records of the experiments

A design and what was found about it each have a record of fixed length, with a header, an identity
that is the checksum of the fields, and a checksum behind.  The parsers look at every byte.  They
take the values behind those in use for reserved bytes, and the writers do not: what is written of a
design or of an aggregate is read again exactly if the values that are not in use are zero
(`DesignVector.parse_eq_ok`, `CandidateAggregate.parse_eq_ok`).
-/

namespace Ksa64.Host

open Ksa64.Library Ksa64.Interface

def phase9ContractId : UInt32 := 0x4b534139
def kdv9Length : Nat := 256
def koe9Length : Nat := 512
def kdv9Magic : List UInt8 := [0x4b, 0x44, 0x56, 0x39]
def koe9Magic : List UInt8 := [0x4b, 0x4f, 0x45, 0x39]
def maxValues : Nat := 32
def maxMetrics : Nat := 8
def maxConstraintResults : Nat := 16

/-- What a record can be refused for. -/
inductive RecordError where
  | length
  | magic
  | version
  | contract
  | kind
  | reserved
  | checksum
  | count
  | identity
deriving DecidableEq

/-- The front of a record. -/
def recordHeader (magic : List UInt8) (kind length : UInt16) (identity : UInt32) : Layout :=
  [(0, .bytes magic),
    (4, .word16 9),
    (6, .word16 32),
    (8, .word16 length),
    (10, .word16 kind),
    (12, .word32 phase9ContractId),
    (16, .word32 identity)]

/-- What every record is checked for. -/
def checkRecord (b magic : List UInt8) (kind : UInt16) (length : Nat) : Except RecordError Unit := do
  reject (b.length ≠ length) .length
  reject (slice b 0 4 ≠ magic) .magic
  reject (read16 b 4 ≠ 9 ∨ read16 b 6 ≠ 32 ∨ (read16 b 8).toNat ≠ length) .version
  reject (read16 b 10 ≠ kind) .kind
  reject (read32 b 12 ≠ phase9ContractId) .contract
  reject (anyNonzero b 20 32) .reserved
  reject (crc32Ieee (slice b 0 (length - 4)) ≠ read32 b (length - 4)) .checksum

/-- The values from number `count` on. -/
def anyUnused {n : Nat} (values : Vector Int32 n) (count : UInt8) : Bool :=
  (values.toList.drop count.toNat).any (· != 0)

/-! ## Designs -/

namespace DesignVector

def kdv9Cells (d : DesignVector) : Layout :=
  recordHeader kdv9Magic 2 256 d.identity
    ++ [(32, .word32 d.manifestIdentity),
      (36, .byte d.valueCount),
      (40, .words (i32Words d.values)),
      (168, .words d.materializedIds.toList)]

def encode (d : DesignVector) : Except RecordError (List UInt8) := do
  reject (maxValues < d.valueCount.toNat ∨ d.identity ≠ d.canonicalIdentity) .identity
  pure (sealRecord 252 d.kdv9Cells)

def parse (b : List UInt8) : Except RecordError DesignVector := do
  checkRecord b kdv9Magic 2 kdv9Length
  reject (anyNonzero b 37 40 ∨ anyNonzero b 184 252) .reserved
  let count := readByte b 36
  reject (maxValues < count.toNat) .count
  let values := readI32s 32 b 40
  reject (anyUnused values count) .reserved
  let d : DesignVector := {
    identity := read32 b 16
    manifestIdentity := read32 b 32
    valueCount := count
    values := values
    materializedIds := readU32s 4 b 168 }
  reject (d.identity ≠ d.canonicalIdentity) .identity
  pure d

def withIdentity (d : DesignVector) : Except RecordError DesignVector := do
  reject (maxValues < d.valueCount.toNat) .count
  pure { d with identity := d.canonicalIdentity }

/-- What the writer asks of a design. -/
structure Sealed (d : DesignVector) : Prop where
  count : d.valueCount.toNat ≤ maxValues
  identity : d.identity = d.canonicalIdentity

/-- The values that are not in use are zero. -/
def Strict (d : DesignVector) : Prop := anyUnused d.values d.valueCount = false

instance (d : DesignVector) : Decidable d.Strict := inferInstanceAs (Decidable (_ = _))

end DesignVector

/-! ## Aggregates -/

namespace CandidateAggregate

def koe9Cells (a : CandidateAggregate) : Layout :=
  recordHeader koe9Magic 3 512 a.identity
    ++ [(32, .word32 a.manifestIdentity),
      (36, .word32 a.candidateIdentity),
      (40, .byte a.uncertaintyTier),
      (41, .byte a.caseCount),
      (42, .byte a.fatalClass),
      (43, .byte a.violatedConstraints),
      (44, .byte a.feasible.toUInt8),
      (45, .byte a.objectiveCount),
      (46, .byte a.constraintCount),
      (48, .word32 a.caseCrc),
      (52, .word64 a.normalizedViolation.toUInt64),
      (64, .words (i32Words a.objectives)),
      (96, .words (i32Words a.constraintValues))]

def encodeUnchecked (a : CandidateAggregate) : List UInt8 := sealRecord 508 a.koe9Cells

def canonicalIdentity (a : CandidateAggregate) : UInt32 :=
  crc32Ieee (slice { a with identity := 0 }.encodeUnchecked 32 508)

def encode (a : CandidateAggregate) : Except RecordError (List UInt8) := do
  reject (maxMetrics < a.objectiveCount.toNat ∨ maxConstraintResults < a.constraintCount.toNat
    ∨ a.identity ≠ a.canonicalIdentity) .identity
  pure a.encodeUnchecked

def parse (b : List UInt8) : Except RecordError CandidateAggregate := do
  checkRecord b koe9Magic 3 koe9Length
  reject (1 < readByte b 44 ∨ readByte b 47 ≠ 0 ∨ anyNonzero b 60 64 ∨ anyNonzero b 160 508) .reserved
  let objectiveCount := readByte b 45
  let constraintCount := readByte b 46
  reject (maxMetrics < objectiveCount.toNat ∨ maxConstraintResults < constraintCount.toNat) .count
  let objectives := readI32s 8 b 64
  let constraints := readI32s 16 b 96
  reject (anyUnused objectives objectiveCount ∨ anyUnused constraints constraintCount) .reserved
  let a : CandidateAggregate := {
    identity := read32 b 16
    manifestIdentity := read32 b 32
    candidateIdentity := read32 b 36
    uncertaintyTier := readByte b 40
    caseCount := readByte b 41
    fatalClass := readByte b 42
    violatedConstraints := readByte b 43
    feasible := readByte b 44 != 0
    caseCrc := read32 b 48
    normalizedViolation := (read64 b 52).toInt64
    objectiveCount := objectiveCount
    constraintCount := constraintCount
    objectives := objectives
    constraintValues := constraints }
  reject (a.identity ≠ a.canonicalIdentity) .identity
  pure a

def withIdentity (a : CandidateAggregate) : CandidateAggregate :=
  { a with identity := a.canonicalIdentity }

/-- What the writer asks of an aggregate. -/
structure Sealed (a : CandidateAggregate) : Prop where
  objectives : a.objectiveCount.toNat ≤ maxMetrics
  constraints : a.constraintCount.toNat ≤ maxConstraintResults
  identity : a.identity = a.canonicalIdentity

/-- The values that are not in use are zero. -/
def Strict (a : CandidateAggregate) : Prop :=
  anyUnused a.objectives a.objectiveCount = false
    ∧ anyUnused a.constraintValues a.constraintCount = false

instance (a : CandidateAggregate) : Decidable a.Strict := inferInstanceAs (Decidable (_ ∧ _))

end CandidateAggregate

/-! ## One spelling for each -/

section Canonical

variable {input : List UInt8}

@[simp] theorem length_kdv9Magic : kdv9Magic.length = 4 := rfl

@[simp] theorem length_koe9Magic : koe9Magic.length = 4 := rfl

/-- The checks of a record: a header, whatever the identity, and a checksum. -/
theorem checkRecord_eq_ok {magic : List UInt8} {kind : UInt16} {n : Nat}
    (hmagic : magic.length = 4) :
    checkRecord input magic kind (n + 4) = .ok () ↔
      input.length = n + 4 ∧ (read16 input 8).toNat = n + 4
        ∧ crc32Ieee (slice input 0 n) = read32 input n
        ∧ Layout.Reads 32 input 0 (recordHeader magic kind (read16 input 8) (read32 input 16)) := by
  unfold checkRecord
  simp only [bind_eq_ok, reject_eq_ok, exists_const, not_or, not_not, Nat.add_sub_cancel,
    Bool.not_eq_true, anyNonzero_eq_false]
  simp only [recordHeader, Layout.Reads, zeroOn_self, Cell.readsAs_bytes, Cell.readsAs_word16,
    Cell.readsAs_word32, Cell.length, hmagic, true_and]
  constructor
  · rintro ⟨hlen, hm, ⟨hversion, hheader, hlength⟩, hkind, hcontract, hzero, hcrc⟩
    exact ⟨hlen, hlength, hcrc, hm, hversion, hheader, hkind, hcontract, hzero⟩
  · rintro ⟨hlen, hlength, hcrc, hm, hversion, hheader, hkind, hcontract, hzero⟩
    exact ⟨hlen, hm, ⟨hversion, hheader, hlength⟩, hkind, hcontract, hzero, hcrc⟩

namespace DesignVector

theorem fits_kdv9 (d : DesignVector) : Layout.Fits 252 0 d.kdv9Cells := by
  simp [kdv9Cells, recordHeader]

theorem encode_eq_ok {d : DesignVector} :
    d.encode = .ok input ↔ d.Sealed ∧ input = sealRecord 252 d.kdv9Cells := by
  unfold encode
  simp only [bind_eq_ok, reject_eq_ok, pure_eq_ok, exists_const, not_or, not_not, not_lt]
  constructor
  · rintro ⟨⟨hcount, hidentity⟩, rfl⟩
    exact ⟨⟨hcount, hidentity⟩, rfl⟩
  · rintro ⟨⟨hcount, hidentity⟩, rfl⟩
    exact ⟨⟨hcount, hidentity⟩, rfl⟩

/-- A design that is given its identity can be written. -/
theorem sealed_of_withIdentity {d e : DesignVector} (h : d.withIdentity = .ok e) : e.Sealed := by
  unfold withIdentity at h
  simp only [bind_eq_ok, reject_eq_ok, pure_eq_ok, exists_const, not_lt] at h
  obtain ⟨hcount, rfl⟩ := h
  exact ⟨hcount, rfl⟩

/-- A string is taken for a design exactly if it is what is written of the design, and the values
that are not in use are zero. -/
theorem parse_eq_ok {d : DesignVector} : parse input = .ok d ↔ d.Strict ∧ d.encode = .ok input := by
  rw [encode_eq_ok, eq_sealRecord_iff d.fits_kdv9]
  simp only [parse, bind_eq_ok, reject_eq_ok, pure_eq_ok, exists_const, not_or, not_not, not_lt,
    Bool.not_eq_true, anyNonzero_eq_false]
  constructor
  · rintro ⟨⟨⟩, hcheck, ⟨h37, h184⟩, hcount, hunused, hidentity, rfl⟩
    obtain ⟨hlen, hlength, hcrc, hheader⟩ := (checkRecord_eq_ok (n := 252) rfl).mp hcheck
    have hlength : read16 input 8 = 256 := UInt16.toNat_inj.mp hlength
    rw [hlength] at hheader
    simp [recordHeader] at hheader
    refine ⟨hunused, ⟨hcount, hidentity⟩, hlen, hcrc, ?_⟩
    simp [kdv9Cells, recordHeader, hheader, zeroOn_three.mp h37, h184]
  · rintro ⟨hstrict, ⟨hcount, hidentity⟩, hlen, hcrc, hreads⟩
    simp [kdv9Cells, recordHeader] at hreads
    have hd : d = {
        identity := read32 input 16
        manifestIdentity := read32 input 32
        valueCount := readByte input 36
        values := readI32s 32 input 40
        materializedIds := readU32s 4 input 168 } := by
      cases d
      simp [hreads]
    refine ⟨(), (checkRecord_eq_ok (n := 252) rfl).mpr ⟨hlen, ?_, hcrc, ?_⟩, ?_, ?_, ?_, ?_, hd.symm⟩
    · simp [hreads]
    · simp [recordHeader, hreads]
    · simp [hreads]
    · simpa [hreads] using hcount
    · simpa [Strict, hreads] using hstrict
    · rw [hd] at hidentity
      exact hidentity

end DesignVector

namespace CandidateAggregate

theorem fits_koe9 (a : CandidateAggregate) : Layout.Fits 508 0 a.koe9Cells := by
  simp [koe9Cells, recordHeader]

theorem encode_eq_ok {a : CandidateAggregate} :
    a.encode = .ok input ↔ a.Sealed ∧ input = a.encodeUnchecked := by
  unfold encode
  simp only [bind_eq_ok, reject_eq_ok, pure_eq_ok, exists_const, not_or, not_not, not_lt]
  constructor
  · rintro ⟨⟨hobjectives, hconstraints, hidentity⟩, hinput⟩
    exact ⟨⟨hobjectives, hconstraints, hidentity⟩, hinput.symm⟩
  · rintro ⟨⟨hobjectives, hconstraints, hidentity⟩, hinput⟩
    exact ⟨⟨hobjectives, hconstraints, hidentity⟩, hinput.symm⟩

/-- The identity of an aggregate does not count for it. -/
theorem sealed_withIdentity {a : CandidateAggregate} (hobjectives : a.objectiveCount.toNat ≤ maxMetrics)
    (hconstraints : a.constraintCount.toNat ≤ maxConstraintResults) : a.withIdentity.Sealed :=
  ⟨hobjectives, hconstraints, rfl⟩

/-- A signed double word and its bytes. -/
theorem eq_toUInt64_iff {word : UInt64} {value : Int64} :
    word = value.toUInt64 ↔ word.toInt64 = value := by
  constructor
  · rintro rfl
    exact Int64.toInt64_toUInt64 value
  · rintro rfl
    exact (UInt64.toUInt64_toInt64 word).symm

/-- A string is taken for an aggregate exactly if it is what is written of the aggregate, and the
values that are not in use are zero. -/
theorem parse_eq_ok {a : CandidateAggregate} :
    parse input = .ok a ↔ a.Strict ∧ a.encode = .ok input := by
  rw [encode_eq_ok, encodeUnchecked, eq_sealRecord_iff a.fits_koe9]
  simp only [parse, bind_eq_ok, reject_eq_ok, pure_eq_ok, exists_const, not_or, not_not, not_lt,
    Bool.not_eq_true, anyNonzero_eq_false]
  constructor
  · rintro ⟨⟨⟩, hcheck, ⟨hflag, h47, h60, h160⟩, ⟨hobjectives, hconstraints⟩, hunused, hidentity, rfl⟩
    obtain ⟨hlen, hlength, hcrc, hheader⟩ := (checkRecord_eq_ok (n := 508) rfl).mp hcheck
    have hlength : read16 input 8 = 512 := UInt16.toNat_inj.mp hlength
    rw [hlength] at hheader
    simp [recordHeader] at hheader
    have hflag := toUInt8_ne_zero hflag
    refine ⟨hunused, ⟨hobjectives, hconstraints, hidentity⟩, hlen, hcrc, ?_⟩
    simp [koe9Cells, recordHeader, hheader, hflag, h47, h60, h160]
  · rintro ⟨hstrict, ⟨hobjectives, hconstraints, hidentity⟩, hlen, hcrc, hreads⟩
    simp [koe9Cells, recordHeader, eq_toUInt64_iff] at hreads
    have ha : a = {
        identity := read32 input 16
        manifestIdentity := read32 input 32
        candidateIdentity := read32 input 36
        uncertaintyTier := readByte input 40
        caseCount := readByte input 41
        fatalClass := readByte input 42
        violatedConstraints := readByte input 43
        feasible := readByte input 44 != 0
        caseCrc := read32 input 48
        normalizedViolation := (read64 input 52).toInt64
        objectiveCount := readByte input 45
        constraintCount := readByte input 46
        objectives := readI32s 8 input 64
        constraintValues := readI32s 16 input 96 } := by
      cases a
      simp [hreads, bne_toUInt8]
    refine ⟨(), (checkRecord_eq_ok (n := 508) rfl).mpr ⟨hlen, ?_, hcrc, ?_⟩, ?_, ?_, ?_, ?_, ha.symm⟩
    · simp [hreads]
    · simp [recordHeader, hreads]
    · simp [hreads, not_one_lt_toUInt8]
    · exact ⟨by simpa [hreads] using hobjectives, by simpa [hreads] using hconstraints⟩
    · simpa [Strict, hreads] using hstrict
    · rw [ha] at hidentity
      exact hidentity

end CandidateAggregate

/-- **Records.**  A string is taken for a design or for an aggregate exactly if it is what is written of
it, and the values that are not in use are zero. -/
theorem phase9Records_one_spelling (input : List UInt8) :
    (∀ d, DesignVector.parse input = .ok d ↔ d.Strict ∧ d.encode = .ok input)
      ∧ ∀ a, CandidateAggregate.parse input = .ok a ↔ a.Strict ∧ a.encode = .ok input :=
  ⟨fun _ ↦ DesignVector.parse_eq_ok, fun _ ↦ CandidateAggregate.parse_eq_ok⟩

end Canonical

end Ksa64.Host
