import Ksa64.Library.Vectors
import Ksa64.Interface.Records

/-!
# One spelling for each record

For each record, the strings that its parser takes apart into a value are exactly the ones
that its writer makes of the value, as far as the parser checks what the writer checks.
`canonical_iff` puts the eleven together: it says on which strings they agree.
-/

namespace Ksa64.Interface

open Ksa64.Library

section Reading

variable {xs : List UInt8} {off n : Nat}

@[simp] theorem anyNonzero_eq_false {a b : Nat} : anyNonzero xs a b = false ↔ ZeroOn xs a b :=
  zeroOn_iff_any.symm

@[simp] theorem length_i32Words (values : Vector Int32 n) : (i32Words values).length = n := by
  simp [i32Words]

@[simp] theorem readsAs_i32Words {values : Vector Int32 n} :
    (Cell.words (i32Words values)).ReadsAs xs off ↔ readI32s n xs off = values := by
  constructor
  · intro h
    ext i hi
    have hword := h i (by simpa using hi)
    simp only [i32Words, List.getElem_map, Vector.getElem_toList] at hword
    simp [readI32s, Nat.mul_comm i 4, hword]
  · rintro rfl i hi
    simp [i32Words, readI32s, Nat.mul_comm i 4]

@[simp] theorem readsAs_u32Words {values : Vector UInt32 n} :
    (Cell.words values.toList).ReadsAs xs off ↔ readU32s n xs off = values := by
  constructor
  · intro h
    ext i hi
    have hword := h i (by simpa using hi)
    rw [Vector.getElem_toList] at hword
    simp [readU32s, Nat.mul_comm i 4, hword]
  · rintro rfl i hi
    simp [readU32s, Nat.mul_comm i 4]

/-- Bytes read one by one. -/
theorem slice_eq_toList_iff (h : off + n ≤ xs.length) {values : Vector UInt8 n} :
    slice xs off (off + n) = values.toList ↔ readBytes n xs off = values := by
  have hslice : slice xs off (off + n) = (readBytes n xs off).toList := by
    refine List.ext_getElem (by simp [length_slice h]) fun i hi _ ↦ ?_
    rw [length_slice h] at hi
    simp [slice, readBytes, readByte_eq_getElem (show off + i < xs.length by omega)]
  rw [hslice, Vector.toList_inj]

/-- A signed word and its bytes. -/
theorem eq_toUInt32_iff {word : UInt32} {value : Int32} :
    word = value.toUInt32 ↔ word.toInt32 = value := by
  constructor
  · rintro rfl
    exact Int32.toInt32_toUInt32 value
  · rintro rfl
    exact (UInt32.toUInt32_toInt32 word).symm

end Reading

section Records

variable {input : List UInt8}

/-! ## The records, one by one -/

@[simp] theorem length_kfs11Magic : kfs11Magic.length = 4 := rfl

theorem fits_kfs11 (value : FlightSoftwarePackageManifest) :
    Layout.Fits 508 0 (kfs11Cells value) := by
  simp [kfs11Cells]

theorem parseKfs11_eq_ok {value : FlightSoftwarePackageManifest} :
    parseKfs11 input = .ok value ↔
      validateManifest value = .ok () ∧ input = sealRecord 508 (kfs11Cells value) := by
  rw [eq_sealRecord_iff (fits_kfs11 value)]
  simp only [parseKfs11, bind_eq_ok, reject_eq_ok, pure_eq_ok, exists_const, not_or, not_not,
    Bool.not_eq_true, FlightSoftwarePackageId.parse_eq_ok, FlightAbiId.parse_eq_ok,
    PackageSafeStateId.parse_eq_ok, PackageCommandLossBehavior.parse_eq_ok]
  constructor
  · rintro ⟨hlen, ⟨hmagic, hversion, hlength⟩, hcrc, ⟨h43, h59, hzero⟩, package, hpackage, abi,
      habi, safeState, hsafe, commandLoss, hloss, ⟨⟩, hvalid, rfl⟩
    have hlength : read16 input 6 = 512 := UInt16.toNat_inj.mp hlength
    have hsha : slice input 68 100 = (readBytes 32 input 68).toList :=
      (slice_eq_toList_iff (n := 32) (by rw [hlen]; decide)).mpr rfl
    have hzero := anyNonzero_eq_false.mp hzero
    refine ⟨hvalid, hlen, hcrc, ?_⟩
    simp [kfs11Cells, hmagic, hversion, hlength, h43, h59, hpackage, habi, hsafe, hloss, hsha, hzero]
  · rintro ⟨hvalid, hlen, hcrc, hreads⟩
    simp [kfs11Cells] at hreads
    have hsha : readBytes 32 input 68 = value.resourceEvidenceSha256 := by
      rw [← slice_eq_toList_iff (by omega)]
      simp [hreads]
    refine ⟨hlen, ?_, hcrc, ?_, value.package, ?_, value.abi, ?_, value.safeState, ?_,
      value.commandLoss, ?_, (), ?_, ?_⟩ <;> simp [hreads, hvalid, hsha, kfs11Length]

@[simp] theorem length_kul11Magic : kul11Magic.length = 4 := rfl

theorem fits_kul11 (value : UplinkCommandLoad) : Layout.Fits 508 0 (kul11Cells value) := by
  simp [kul11Cells]

theorem parseKul11_eq_ok {value : UplinkCommandLoad} :
    parseKul11 input = .ok value ↔
      validateUplinkLoad value = .ok () ∧ input = sealRecord 508 (kul11Cells value) := by
  rw [eq_sealRecord_iff (fits_kul11 value)]
  simp only [parseKul11, bind_eq_ok, reject_eq_ok, pure_eq_ok, exists_const, not_or, not_not,
    Bool.not_eq_true, FlightAbiId.parse_eq_ok, parseGlobalFrame_eq_ok, UplinkLoadType.parse_eq_ok]
  constructor
  · rintro ⟨hlen, ⟨hmagic, hversion, hlength⟩, hcrc, ⟨h66, h67, hzero⟩, abi, habi, frame, hframe,
      loadType, htype, ⟨⟩, hvalid, rfl⟩
    have hzero := anyNonzero_eq_false.mp hzero
    refine ⟨hvalid, hlen, hcrc, ?_⟩
    simp [kul11Cells, hmagic, hversion, hlength, h66, h67, habi, hframe, htype, hzero]
  · rintro ⟨hvalid, hlen, hcrc, hreads⟩
    simp [kul11Cells, eq_toUInt32_iff] at hreads
    refine ⟨hlen, ?_, hcrc, ?_, value.abi, ?_, value.frame, ?_, value.loadType, ?_, (), ?_, ?_⟩ <;>
      simp [hreads, hvalid]

@[simp] theorem length_kua11Magic : kua11Magic.length = 4 := rfl

theorem fits_kua11 (value : UplinkControlRecord) : Layout.Fits 124 0 (kua11Cells value) := by
  simp [kua11Cells]

theorem parseKua11_eq_ok {value : UplinkControlRecord} :
    parseKua11 input = .ok value ↔
      checkKua11 value = .ok () ∧ input = sealRecord 124 (kua11Cells value) := by
  rw [eq_sealRecord_iff (fits_kua11 value)]
  simp only [parseKua11, bind_eq_ok, reject_eq_ok, pure_eq_ok, exists_const, not_or, not_not,
    Bool.not_eq_true, UplinkControlKind.parse_eq_ok, UplinkState.parse_eq_ok,
    UplinkReasonCode.parse_eq_ok]
  constructor
  · rintro ⟨hlen, ⟨hmagic, hversion, hlength⟩, hcrc, ⟨h34, h35, hzero⟩, kind, hkind, state, hstate,
      reason, hreason, ⟨⟩, hvalid, rfl⟩
    have hzero := anyNonzero_eq_false.mp hzero
    refine ⟨hvalid, hlen, hcrc, ?_⟩
    simp [kua11Cells, hmagic, hversion, hlength, h34, h35, hkind, hstate, hreason, hzero]
  · rintro ⟨hvalid, hlen, hcrc, hreads⟩
    simp [kua11Cells] at hreads
    refine ⟨hlen, ?_, hcrc, ?_, value.kind, ?_, value.state, ?_, value.reason, ?_, (), ?_, ?_⟩ <;>
      simp [hreads, hvalid]

@[simp] theorem length_kal11Magic : kal11Magic.length = 4 := rfl

theorem fits_kal11Header (value : ActionLogHeader) :
    Layout.Fits 124 0 (kal11HeaderCells value) := by
  simp [kal11HeaderCells]

/-- A flag and its byte. -/
theorem toUInt8_ne_zero {byte : UInt8} (h : ¬1 < byte) : (byte != 0).toUInt8 = byte := by
  have hnat : byte.toNat ≤ 1 := UInt8.le_iff_toNat_le.mp (UInt8.not_lt.mp h)
  obtain hzero | hone : byte = 0 ∨ byte = 1 := by
    rw [← UInt8.toNat_inj, ← UInt8.toNat_inj]
    change byte.toNat = 0 ∨ byte.toNat = 1
    omega
  · rw [hzero]
    rfl
  · rw [hone]
    rfl

theorem not_one_lt_toUInt8 (flag : Bool) : ¬1 < flag.toUInt8 := by cases flag <;> decide

theorem bne_toUInt8 (flag : Bool) : (flag.toUInt8 != 0) = flag := by cases flag <;> rfl

theorem parseKal11Header_eq_ok {value : ActionLogHeader} :
    parseKal11Header input = .ok value ↔ input = sealRecord 124 (kal11HeaderCells value) := by
  rw [eq_sealRecord_iff (fits_kal11Header value)]
  simp only [parseKal11Header, bind_eq_ok, reject_eq_ok, pure_eq_ok, exists_const, not_or,
    not_not, Bool.not_eq_true]
  constructor
  · rintro ⟨hlen, ⟨hmagic, hversion, hlength⟩, hcrc, ⟨hflag, hzero⟩, rfl⟩
    have hzero := anyNonzero_eq_false.mp hzero
    refine ⟨hlen, hcrc, ?_⟩
    simp [kal11HeaderCells, hmagic, hversion, hlength, toUInt8_ne_zero hflag, hzero]
  · rintro ⟨hlen, hcrc, hreads⟩
    simp [kal11HeaderCells] at hreads
    refine ⟨hlen, ?_, hcrc, ?_, ?_⟩ <;>
      simp only [hreads, not_one_lt_toUInt8, bne_toUInt8, anyNonzero_eq_false, not_false_eq_true,
        and_self]

theorem fits_kal11Record (value : ActionLogRecord) :
    Layout.Fits 60 0 (kal11RecordCells value) := by
  simp [kal11RecordCells]

theorem parseKal11Record_eq_ok {value : ActionLogRecord} :
    parseKal11Record input = .ok value ↔
      value.sequence ≠ 0 ∧ input = sealRecord 60 (kal11RecordCells value) := by
  rw [eq_sealRecord_iff (fits_kal11Record value)]
  simp only [parseKal11Record, bind_eq_ok, reject_eq_ok, pure_eq_ok, exists_const, not_or,
    not_not, Bool.not_eq_true, OperationalRole.parse_eq_ok, UplinkControlKind.parse_eq_ok,
    UplinkState.parse_eq_ok, UplinkReasonCode.parse_eq_ok]
  constructor
  · rintro ⟨hlen, hcrc, ⟨h22, h23, hzero⟩, role, hrole, kind, hkind, state, hstate, reason,
      hreason, hsequence, rfl⟩
    have hzero := anyNonzero_eq_false.mp hzero
    refine ⟨hsequence, hlen, hcrc, ?_⟩
    simp [kal11RecordCells, h22, h23, hrole, hkind, hstate, hreason, hzero]
  · rintro ⟨hsequence, hlen, hcrc, hreads⟩
    simp [kal11RecordCells] at hreads
    refine ⟨hlen, hcrc, ?_, value.role, ?_, value.actionKind, ?_, value.state, ?_, value.reason,
      ?_, ?_, ?_⟩ <;> simp [hreads, hsequence]

@[simp] theorem length_kpd11Magic : kpd11Magic.length = 4 := rfl

theorem fits_kpd11 (value : PredictionSummary) : Layout.Fits 252 0 (kpd11Cells value) := by
  simp [kpd11Cells]

/-- What the writer and the parser of a prediction check. -/
def Kpd11Valid (value : PredictionSummary) : Prop :=
  value.predictionIdentity ≠ 0 ∧ value.modelIdentity ≠ 0 ∧ value.sourceEstimateIdentity ≠ 0
    ∧ value.packageManifestIdentity ≠ 0 ∧ value.planIdentity ≠ 0
    ∧ ¬value.validUntilEpoch < value.generationEpoch

theorem parseKpd11_eq_ok {value : PredictionSummary} :
    parseKpd11 input = .ok value ↔
      Kpd11Valid value ∧ input = sealRecord 252 (kpd11Cells value) := by
  rw [eq_sealRecord_iff (fits_kpd11 value)]
  simp only [parseKpd11, bind_eq_ok, reject_eq_ok, pure_eq_ok, exists_const, not_or, not_not,
    Bool.not_eq_true, PredictionProductKind.parse_eq_ok, parseGlobalFrame_eq_ok,
    PredictionTerminalReason.parse_eq_ok]
  constructor
  · rintro ⟨hlen, ⟨hmagic, hversion, hlength⟩, hcrc, ⟨h46, h47, hzero⟩, product, hproduct, frame,
      hframe, reason, hreason, hvalid, rfl⟩
    have hzero := anyNonzero_eq_false.mp hzero
    refine ⟨hvalid, hlen, hcrc, ?_⟩
    simp [kpd11Cells, hmagic, hversion, hlength, h46, h47, hproduct, hframe, hreason, hzero]
  · rintro ⟨hvalid, hlen, hcrc, hreads⟩
    simp [kpd11Cells, eq_toUInt32_iff] at hreads
    unfold Kpd11Valid at hvalid
    refine ⟨hlen, ?_, hcrc, ?_, value.product, ?_, value.frame, ?_, value.terminalReason, ?_, ?_,
      ?_⟩ <;> simp [hreads, hvalid]

@[simp] theorem length_kpp11Magic : kpp11Magic.length = 4 := rfl

theorem fits_kpp11Header (value : PredictionPathHeader) :
    Layout.Fits 124 0 (kpp11HeaderCells value) := by
  simp [kpp11HeaderCells]

theorem parseKpp11Header_eq_ok {value : PredictionPathHeader} :
    parseKpp11Header input = .ok value ↔ input = sealRecord 124 (kpp11HeaderCells value) := by
  rw [eq_sealRecord_iff (fits_kpp11Header value)]
  simp only [parseKpp11Header, bind_eq_ok, reject_eq_ok, pure_eq_ok, exists_const, not_or,
    not_not, Bool.not_eq_true, PredictionProductKind.parse_eq_ok,
    PredictionTerminalReason.parse_eq_ok]
  constructor
  · rintro ⟨hlen, ⟨hmagic, hversion, hlength⟩, hcrc, ⟨h45, h46, h47, hzero⟩, product, hproduct,
      reason, hreason, rfl⟩
    have hzero := anyNonzero_eq_false.mp hzero
    refine ⟨hlen, hcrc, ?_⟩
    simp [kpp11HeaderCells, hmagic, hversion, hlength, h45, h46, h47, hproduct, hreason, hzero]
  · rintro ⟨hlen, hcrc, hreads⟩
    simp [kpp11HeaderCells] at hreads
    refine ⟨hlen, ?_, hcrc, ?_, value.product, ?_, value.terminalReason, ?_, ?_⟩ <;>
      simp [hreads]

theorem fits_kpp11Point (value : PredictionPathPoint) :
    Layout.Fits 32 0 (kpp11PointCells value) := by
  simp [kpp11PointCells]

theorem parseKpp11Point_eq_ok {value : PredictionPathPoint} :
    parseKpp11Point input = .ok value ↔
      value.flags &&& ~~~3 = 0 ∧ input = Layout.fill 32 (kpp11PointCells value) := by
  rw [Layout.eq_fill_iff (fits_kpp11Point value)]
  simp only [parseKpp11Point, bind_eq_ok, reject_eq_ok, pure_eq_ok, exists_const, not_or,
    not_not, parseGlobalFrame_eq_ok]
  constructor
  · rintro ⟨hlen, ⟨h6, h7, hflags⟩, frame, hframe, rfl⟩
    refine ⟨hflags, hlen, ?_⟩
    simp [kpp11PointCells, h6, h7, hframe]
  · rintro ⟨hflags, hlen, hreads⟩
    simp [kpp11PointCells, eq_toUInt32_iff] at hreads
    refine ⟨hlen, ?_, value.frame, ?_, ?_⟩ <;> simp [hreads, hflags]

theorem fits_ground {magic : List UInt8} (hmagic : magic.length = 4)
    (identities : Vector UInt32 3) (epochs : Vector UInt32 2) (frame : GlobalFrameId)
    (flags : UInt8) (position velocity : Vector Int32 3) (first : Vector UInt32 3)
    (second : Vector Int32 3) (checksum : UInt32) :
    Layout.Fits 124 0 (groundCells magic identities epochs frame flags position velocity first
      second checksum) := by
  simp [groundCells, hmagic]

variable (input) in
/-- What the two ground products share is taken apart together, the third identity and the
second triple included. -/
theorem checkGroundCommon_eq_ok {magic : List UInt8} (hmagic : magic.length = 4)
    {frame : GlobalFrameId} :
    checkGroundCommon input magic = .ok () ∧ parseGlobalFrame (readByte input 28) = .ok frame ↔
      readByte input 5 &&& ~~~3 = 0 ∧ input = sealRecord 124 (groundCells magic
        #v[read32 input 8, read32 input 12, read32 input 16]
        #v[read32 input 20, read32 input 24] frame (readByte input 5) (readI32s 3 input 32)
        (readI32s 3 input 44) (readU32s 3 input 56) (readI32s 3 input 68) (read32 input 80)) := by
  rw [eq_sealRecord_iff (fits_ground hmagic ..)]
  simp only [checkGroundCommon, bind_eq_ok, reject_eq_ok, exists_const, not_or, not_not,
    Bool.not_eq_true, parseGlobalFrame_eq_ok]
  constructor
  · rintro ⟨⟨hlen, ⟨hmagic', hversion, hlength⟩, hcrc, h29, h30, h31, hflags, hzero⟩, hframe⟩
    have hzero := anyNonzero_eq_false.mp hzero
    refine ⟨hflags, hlen, hcrc, ?_⟩
    simp [groundCells, hmagic, hmagic', hversion, hlength, h29, h30, h31, hframe, hzero]
  · rintro ⟨hflags, hlen, hcrc, hreads⟩
    simp [groundCells, hmagic] at hreads
    refine ⟨⟨hlen, ?_, hcrc, ?_⟩, ?_⟩ <;> simp [hreads, hflags]

@[simp] theorem length_kgo11Magic : kgo11Magic.length = 4 := rfl

@[simp] theorem length_kge11Magic : kge11Magic.length = 4 := rfl

/-- The cells of an observation, around what an observation does not use. -/
def kgo11Cells (value : GroundTrackingObservation) (third : UInt32) (second : Vector Int32 3) :
    Layout :=
  groundCells kgo11Magic (Axes.of value.sourceIdentity value.observationIdentity third)
    (Pair.of value.measurementEpoch value.receiptEpoch) value.frame value.validity
    value.positionQ12Km value.velocityQ24KmS value.uncertaintyQ16 second
    value.observationChecksum

def kge11Cells (value : GroundEstimate) : Layout :=
  groundCells kge11Magic
    (Axes.of value.estimatorIdentity value.estimateIdentity value.sourceObservationIdentity)
    (Pair.of value.measurementEpoch value.productionEpoch) value.frame value.flags
    value.positionQ12Km value.velocityQ24KmS value.confidenceQ16 value.residualQ16
    value.estimatorChecksum

/-- What the parser of an observation does not read can be anything. -/
theorem parseKgo11_eq_ok {value : GroundTrackingObservation} :
    parseKgo11 input = .ok value ↔
      value.validity &&& ~~~3 = 0 ∧ input = sealRecord 124
        (kgo11Cells value (read32 input 16) (readI32s 3 input 68)) := by
  unfold parseKgo11
  simp only [bind_eq_ok, pure_eq_ok]
  constructor
  · rintro ⟨⟨⟩, hcheck, frame, hframe, rfl⟩
    exact (checkGroundCommon_eq_ok input rfl).mp ⟨hcheck, hframe⟩
  · rintro ⟨hflags, hinput⟩
    have hreads := ((eq_sealRecord_iff (fits_ground rfl ..)).mp hinput).2.2
    simp [groundCells] at hreads
    obtain ⟨hcheck, hframe⟩ := (checkGroundCommon_eq_ok input rfl).mpr
      ⟨by simp only [hreads, hflags], by simp only [hreads]; exact hinput⟩
    exact ⟨(), hcheck, value.frame, hframe, by simp only [hreads]⟩

theorem parseKge11_eq_ok {value : GroundEstimate} :
    parseKge11 input = .ok value ↔
      value.flags &&& ~~~3 = 0 ∧ input = sealRecord 124 (kge11Cells value) := by
  unfold parseKge11
  simp only [bind_eq_ok, pure_eq_ok]
  constructor
  · rintro ⟨⟨⟩, hcheck, frame, hframe, rfl⟩
    exact (checkGroundCommon_eq_ok input rfl).mp ⟨hcheck, hframe⟩
  · rintro ⟨hflags, hinput⟩
    have hreads := ((eq_sealRecord_iff (fits_ground rfl ..)).mp hinput).2.2
    simp [groundCells] at hreads
    obtain ⟨hcheck, hframe⟩ := (checkGroundCommon_eq_ok input rfl).mpr
      ⟨by simp only [hreads, hflags], by simp only [hreads]; exact hinput⟩
    exact ⟨(), hcheck, value.frame, hframe, by simp only [hreads]⟩

theorem fits_kej11 (value : EventJournalRecord) : Layout.Fits 60 0 (kej11Cells value) := by
  simp [kej11Cells]

theorem parseKej11_eq_ok {value : EventJournalRecord} :
    parseKej11 input = .ok value ↔
      (value.sequence ≠ 0 ∧ value.flags &&& ~~~3 = 0)
        ∧ input = sealRecord 60 (kej11Cells value) := by
  rw [eq_sealRecord_iff (fits_kej11 value)]
  simp only [parseKej11, bind_eq_ok, reject_eq_ok, pure_eq_ok, exists_const, not_or, not_not,
    Bool.not_eq_true, JournalEventKind.parse_eq_ok]
  constructor
  · rintro ⟨hlen, hcrc, ⟨h10, h11, hflags, hzero⟩, kind, hkind, hsequence, rfl⟩
    have hzero := anyNonzero_eq_false.mp hzero
    refine ⟨⟨hsequence, hflags⟩, hlen, hcrc, ?_⟩
    simp [kej11Cells, h10, h11, hkind, hzero]
  · rintro ⟨⟨hsequence, hflags⟩, hlen, hcrc, hreads⟩
    simp [kej11Cells] at hreads
    refine ⟨hlen, hcrc, ?_, value.kind, ?_, ?_, ?_⟩ <;> simp [hreads, hsequence, hflags]

end Records

/-! ## The records together -/

/-- A writer and a parser of records of one length. -/
structure RecordCodec (α : Type) where
  length : Nat
  write : α → List UInt8 → Except CodecError (List UInt8)
  parse : List UInt8 → Except CodecError α

namespace RecordCodec

variable {α : Type}

/-- What the writer accepts is parsed back. -/
def RoundTrips (c : RecordCodec α) : Prop :=
  ∀ value output bytes, c.write value output = .ok bytes → c.parse bytes = .ok value

/-- The writer makes the string of the value. -/
def Rewrites (c : RecordCodec α) (value : α) (input : List UInt8) : Prop :=
  ∀ output : List UInt8, output.length = c.length → c.write value output = .ok input

variable {c : RecordCodec α} {valid accepted : α → Prop} {encode : α → List UInt8}

variable (accepted encode) in
/-- A writer that encodes the valid values, and a parser that accepts encodings only: the
two agree on the values that are valid. -/
theorem rewrites_iff
    (hwrite : ∀ value output bytes, c.write value output = .ok bytes ↔
      output.length = c.length ∧ valid value ∧ bytes = encode value)
    (hparse : ∀ input value, c.parse input = .ok value ↔ accepted value ∧ input = encode value)
    (hvalid : ∀ value, valid value → accepted value) :
    c.RoundTrips
      ∧ ∀ input value, c.parse input = .ok value → (c.Rewrites value input ↔ valid value) := by
  constructor
  · intro value output bytes h
    obtain ⟨-, hv, rfl⟩ := (hwrite value output bytes).mp h
    exact (hparse _ value).mpr ⟨hvalid value hv, rfl⟩
  · intro input value h
    obtain ⟨-, rfl⟩ := (hparse input value).mp h
    constructor
    · intro hrewrites
      exact ((hwrite ..).mp (hrewrites (List.replicate c.length 0) List.length_replicate)).2.1
    · intro hv output houtput
      exact (hwrite ..).mpr ⟨houtput, hv, rfl⟩

/-- A parser that checks what the writer checks accepts one spelling only. -/
theorem rewrites_of_strict
    (hwrite : ∀ value output bytes, c.write value output = .ok bytes ↔
      output.length = c.length ∧ valid value ∧ bytes = encode value)
    (hparse : ∀ input value, c.parse input = .ok value ↔ valid value ∧ input = encode value) :
    c.RoundTrips
      ∧ ∀ input value, c.parse input = .ok value → (c.Rewrites value input ↔ True) := by
  obtain ⟨hround, hrewrites⟩ := rewrites_iff valid encode hwrite hparse fun _ hv ↦ hv
  refine ⟨hround, fun input value h ↦ ?_⟩
  rw [hrewrites input value h]
  exact iff_true_intro ((hparse input value).mp h).1

end RecordCodec

section Writers

variable {output bytes encoded : List UInt8} {n : Nat} {check : Except CodecError Unit}
  {e : CodecError} {bad : Prop} [Decidable bad]

/-- A writer that checks the length and then the value. -/
theorem written_iff :
    (do reject (output.length ≠ n) e; check; pure encoded) = Except.ok bytes ↔
      output.length = n ∧ check = .ok () ∧ bytes = encoded := by
  simp only [bind_eq_ok, reject_eq_ok, pure_eq_ok, exists_const, not_not]
  constructor
  · rintro ⟨hlength, ⟨⟩, hcheck, rfl⟩
    exact ⟨hlength, hcheck, rfl⟩
  · rintro ⟨hlength, hcheck, rfl⟩
    exact ⟨hlength, (), hcheck, rfl⟩

/-- A writer that checks the length and the value together. -/
theorem checked_iff :
    (do reject (output.length ≠ n ∨ bad) e; pure encoded) = Except.ok bytes ↔
      output.length = n ∧ ¬bad ∧ bytes = encoded := by
  simp only [bind_eq_ok, reject_eq_ok, pure_eq_ok, exists_const, not_or, not_not, and_assoc,
    eq_comm (a := encoded)]

end Writers

/-- The records of fixed layout. -/
inductive RecordKind where
  | kfs11
  | kul11
  | kua11
  | kal11Header
  | kal11Record
  | kpd11
  | kpp11Header
  | kpp11Point
  | kgo11
  | kge11
  | kej11
deriving DecidableEq

namespace RecordKind

abbrev Record : RecordKind → Type
  | .kfs11 => FlightSoftwarePackageManifest
  | .kul11 => UplinkCommandLoad
  | .kua11 => UplinkControlRecord
  | .kal11Header => ActionLogHeader
  | .kal11Record => ActionLogRecord
  | .kpd11 => PredictionSummary
  | .kpp11Header => PredictionPathHeader
  | .kpp11Point => PredictionPathPoint
  | .kgo11 => GroundTrackingObservation
  | .kge11 => GroundEstimate
  | .kej11 => EventJournalRecord

def codec : (kind : RecordKind) → RecordCodec kind.Record
  | .kfs11 => ⟨kfs11Length, writeKfs11, parseKfs11⟩
  | .kul11 => ⟨kul11Length, writeKul11, parseKul11⟩
  | .kua11 => ⟨kua11Length, writeKua11, parseKua11⟩
  | .kal11Header => ⟨kal11HeaderLength, writeKal11Header, parseKal11Header⟩
  | .kal11Record => ⟨kal11RecordLength, writeKal11Record, parseKal11Record⟩
  | .kpd11 => ⟨kpd11Length, writeKpd11, parseKpd11⟩
  | .kpp11Header => ⟨kpp11HeaderLength, writeKpp11Header, parseKpp11Header⟩
  | .kpp11Point => ⟨kpp11PointLength, writeKpp11Point, parseKpp11Point⟩
  | .kgo11 => ⟨128, writeKgo11, parseKgo11⟩
  | .kge11 => ⟨128, writeKge11, parseKge11⟩
  | .kej11 => ⟨kej11Length, writeKej11, parseKej11⟩

/-- What the writer checks and the parser does not, as conditions on the string. -/
def Checked : RecordKind → List UInt8 → Prop
  | .kal11Header, input =>
      read32 input 8 ≠ 0 ∧ read32 input 12 ≠ 0 ∧ read32 input 16 ≠ 0 ∧ read32 input 20 ≠ 0
  | .kpp11Header, input =>
      read32 input 8 ≠ 0 ∧ read32 input 12 ≠ 0 ∧ read32 input 16 ≠ 0 ∧ read32 input 24 ≠ 0
        ∧ read32 input 28 ≠ 0 ∧ read16 input 40 ≠ 0 ∧ read16 input 42 ≠ 0
  | .kgo11, input =>
      read32 input 8 ≠ 0 ∧ read32 input 12 ≠ 0 ∧ read32 input 16 = 0
        ∧ readI32s 3 input 68 = Vector.replicate 3 0
  | .kge11, input => read32 input 8 ≠ 0 ∧ read32 input 12 ≠ 0
  | .kfs11, _ | .kul11, _ | .kua11, _ | .kal11Record, _ | .kpd11, _ | .kpp11Point, _
  | .kej11, _ => True

/-- The writer of observations puts zeros where its parser does not look. -/
theorem writeKgo11_eq_ok {value : GroundTrackingObservation} {output bytes : List UInt8} :
    writeKgo11 value output = .ok bytes ↔
      output.length = 128
        ∧ (value.sourceIdentity ≠ 0 ∧ value.observationIdentity ≠ 0
          ∧ value.validity &&& ~~~3 = 0)
        ∧ bytes = sealRecord 124 (kgo11Cells value 0 (Vector.replicate 3 0)) := by
  refine checked_iff.trans ?_
  rw [not_or, not_or, not_not]
  rfl

theorem reads_kgo11 {value : GroundTrackingObservation} {input : List UInt8} {third : UInt32}
    {second : Vector Int32 3} (h : input = sealRecord 124 (kgo11Cells value third second)) :
    read32 input 8 = value.sourceIdentity ∧ read32 input 12 = value.observationIdentity
      ∧ read32 input 16 = third ∧ readI32s 3 input 68 = second := by
  have hreads := ((eq_sealRecord_iff (fits_ground rfl ..)).mp h).2.2
  simp [groundCells] at hreads
  simp only [hreads, and_self]

/-- What a writer writes, the parser reads back; and what a parser accepts is what the
writer makes of the value exactly when the string passes the checks that the parser leaves
out. -/
theorem canonical_iff (kind : RecordKind) :
    kind.codec.RoundTrips
      ∧ ∀ input value, kind.codec.parse input = .ok value →
        (kind.codec.Rewrites value input ↔ kind.Checked input) := by
  cases kind with
  | kfs11 =>
      exact RecordCodec.rewrites_of_strict (fun _ _ _ ↦ written_iff) fun _ _ ↦ parseKfs11_eq_ok
  | kul11 =>
      exact RecordCodec.rewrites_of_strict (fun _ _ _ ↦ written_iff) fun _ _ ↦ parseKul11_eq_ok
  | kua11 =>
      exact RecordCodec.rewrites_of_strict (fun _ _ _ ↦ written_iff) fun _ _ ↦ parseKua11_eq_ok
  | kal11Header =>
      obtain ⟨hround, hrewrites⟩ := RecordCodec.rewrites_iff (c := codec .kal11Header)
        (fun _ ↦ True) _ (fun _ _ _ ↦ checked_iff)
        (fun _ _ ↦ parseKal11Header_eq_ok.trans (iff_of_eq (true_and _).symm)) fun _ _ ↦ trivial
      refine ⟨hround, fun input value h ↦ (hrewrites input value h).trans ?_⟩
      have hreads := ((eq_sealRecord_iff (fits_kal11Header value)).mp
        (parseKal11Header_eq_ok.mp h)).2.2
      simp [kal11HeaderCells] at hreads
      simp [Checked, hreads]
  | kal11Record =>
      exact RecordCodec.rewrites_of_strict (fun _ _ _ ↦ checked_iff) fun _ _ ↦
        parseKal11Record_eq_ok
  | kpd11 =>
      refine RecordCodec.rewrites_of_strict (fun _ _ _ ↦ checked_iff) fun _ _ ↦ ?_
      simp only [not_or]
      exact parseKpd11_eq_ok
  | kpp11Header =>
      obtain ⟨hround, hrewrites⟩ := RecordCodec.rewrites_iff (c := codec .kpp11Header)
        (fun _ ↦ True) _ (fun _ _ _ ↦ checked_iff)
        (fun _ _ ↦ parseKpp11Header_eq_ok.trans (iff_of_eq (true_and _).symm)) fun _ _ ↦ trivial
      refine ⟨hround, fun input value h ↦ (hrewrites input value h).trans ?_⟩
      have hreads := ((eq_sealRecord_iff (fits_kpp11Header value)).mp
        (parseKpp11Header_eq_ok.mp h)).2.2
      simp [kpp11HeaderCells] at hreads
      simp [Checked, hreads]
  | kpp11Point =>
      refine RecordCodec.rewrites_of_strict (fun _ _ _ ↦ checked_iff) fun _ _ ↦ ?_
      rw [not_not]
      exact parseKpp11Point_eq_ok
  | kgo11 =>
      constructor
      · intro value output bytes h
        obtain ⟨-, ⟨-, -, hflags⟩, hbytes⟩ := writeKgo11_eq_ok.mp h
        obtain ⟨-, -, hthird, hsecond⟩ := reads_kgo11 hbytes
        refine parseKgo11_eq_ok.mpr ⟨hflags, ?_⟩
        rw [hthird, hsecond]
        exact hbytes
      · intro input value h
        obtain ⟨hflags, hinput⟩ := parseKgo11_eq_ok.mp h
        obtain ⟨hsource, hobservation, -, -⟩ := reads_kgo11 hinput
        simp only [Checked, hsource, hobservation]
        constructor
        · intro hrewrites
          obtain ⟨-, ⟨hsource, hobservation, -⟩, hwritten⟩ := writeKgo11_eq_ok.mp
            (hrewrites (List.replicate 128 0) List.length_replicate)
          obtain ⟨-, -, hthird, hsecond⟩ := reads_kgo11 hwritten
          exact ⟨hsource, hobservation, hthird, hsecond⟩
        · rintro ⟨hsource, hobservation, hthird, hsecond⟩ output houtput
          rw [hthird, hsecond] at hinput
          exact writeKgo11_eq_ok.mpr ⟨houtput, ⟨hsource, hobservation, hflags⟩, hinput⟩
  | kge11 =>
      obtain ⟨hround, hrewrites⟩ := RecordCodec.rewrites_iff (c := codec .kge11)
        _ (fun value ↦ sealRecord 124 (kge11Cells value)) (fun _ _ _ ↦ checked_iff)
        (fun _ _ ↦ parseKge11_eq_ok) fun value hvalid ↦ by
          rw [not_or, not_or, not_not] at hvalid
          exact hvalid.2.2
      refine ⟨hround, fun input value h ↦ (hrewrites input value h).trans ?_⟩
      obtain ⟨hflags, hinput⟩ := parseKge11_eq_ok.mp h
      have hreads := ((eq_sealRecord_iff (fits_ground rfl ..)).mp hinput).2.2
      simp [groundCells] at hreads
      simp [Checked, hreads, hflags]
  | kej11 =>
      refine RecordCodec.rewrites_of_strict (fun _ _ _ ↦ checked_iff) fun _ _ ↦ ?_
      rw [not_or, not_not]
      exact parseKej11_eq_ok

/-- An observation of the origin at rest. -/
def originObservation : GroundTrackingObservation where
  sourceIdentity := 1
  observationIdentity := 2
  measurementEpoch := 3
  receiptEpoch := 4
  frame := .earthInertialEciV1
  positionQ12Km := Vector.replicate 3 0
  velocityQ24KmS := Vector.replicate 3 0
  uncertaintyQ16 := Vector.replicate 3 0
  validity := 0
  observationChecksum := 0

/-- The observation, with an identity that it does not use. -/
def originSpelling (third : UInt32) : List UInt8 :=
  sealRecord 124 (kgo11Cells originObservation third (Vector.replicate 3 0))

theorem read_originSpelling (third : UInt32) : read32 (originSpelling third) 16 = third :=
  (reads_kgo11 rfl).2.2.1

theorem parse_originSpelling (third : UInt32) :
    kgo11.codec.parse (originSpelling third) = .ok originObservation := by
  obtain ⟨-, -, hthird, hsecond⟩ := reads_kgo11 (rfl : originSpelling third = _)
  refine parseKgo11_eq_ok.mpr ⟨by decide, ?_⟩
  rw [hthird, hsecond]
  rfl

/-- Two strings are taken for the same observation, and the writer makes one of them. -/
theorem kgo11_two_spellings :
    kgo11.codec.parse (originSpelling 0) = .ok originObservation
      ∧ kgo11.codec.parse (originSpelling 1) = .ok originObservation
      ∧ originSpelling 0 ≠ originSpelling 1
      ∧ ¬kgo11.codec.Rewrites originObservation (originSpelling 1) := by
  have hne : (0 : UInt32) ≠ 1 := by decide
  refine ⟨parse_originSpelling 0, parse_originSpelling 1, fun h ↦ ?_, fun h ↦ ?_⟩
  · have hsame := read_originSpelling 0
    rw [h, read_originSpelling 1] at hsame
    exact hne hsame.symm
  · have hwritten := (writeKgo11_eq_ok.mp (h _ (List.length_replicate (n := 128) (a := 0)))).2.2
    have hsame := (reads_kgo11 hwritten).2.2.1
    rw [read_originSpelling 1] at hsame
    exact hne hsame.symm

end RecordKind

end Ksa64.Interface
