import Ksa64.Interface.Canonical
import Ksa64.Interface.Klr10

/-!
# One spelling for each cell

The five cells of KLR10 have parsers that look at every byte: a string is taken for a cell exactly
if the writer accepts the cell and writes the string.  The kind stands in the fourth byte, so that
no string is taken for cells of two kinds.
-/

namespace Ksa64.Interface

open Ksa64.Library

section Reading

variable {xs : List UInt8} {off n : Nat}

@[simp] theorem GlobalFrameId.parse_eq_ok {value : UInt8} {x : GlobalFrameId} :
    GlobalFrameId.parse value = .ok x ↔ x.code = value := by
  constructor
  · intro h
    unfold GlobalFrameId.parse at h
    split at h <;> cases h <;> rfl
  · rintro rfl
    cases x <;> rfl

@[simp] theorem length_klr10Sync : klr10Sync.length = 2 := rfl

@[simp] theorem length_i16Bytes (values : Vector Int16 n) : (i16Bytes values).length = 2 * n := by
  simp [i16Bytes, List.length_flatMap, Nat.mul_comm]

/-- A signed half word and its bytes. -/
theorem eq_toUInt16_iff {word : UInt16} {value : Int16} :
    word = value.toUInt16 ↔ word.toInt16 = value := by
  constructor
  · rintro rfl
    exact Int16.toInt16_toUInt16 value
  · rintro rfl
    exact (UInt16.toUInt16_toInt16 word).symm

/-- Half words side by side, read one by one. -/
theorem slice_eq_flatMap_iff {words : List UInt16} (h : off + 2 * words.length ≤ xs.length) :
    slice xs off (off + 2 * words.length) = words.flatMap le16 ↔
      ∀ i (hi : i < words.length), read16 xs (off + 2 * i) = words[i] := by
  induction words generalizing off with
  | nil => simp [slice]
  | cons word rest ih =>
      rw [List.length_cons] at h
      have hstop : off + 2 * (word :: rest).length = off + 2 + 2 * rest.length := by
        rw [List.length_cons]
        omega
      rw [List.flatMap_cons, hstop, ← slice_append_slice (Nat.le_add_right off 2)
        (Nat.le_add_right (off + 2) _), Cell.slice_word16 (by omega),
        append_eq_append_iff_of_length (show (le16 (read16 xs off)).length = (le16 word).length from rfl),
        Cell.le16_inj, ih (by omega)]
      constructor
      · rintro ⟨hword, hrest⟩ i hi
        cases i with
        | zero => exact hword
        | succ i =>
            have hnext := hrest i (Nat.lt_of_succ_lt_succ hi)
            rwa [show off + 2 + 2 * i = off + 2 * (i + 1) by omega] at hnext
      · intro hall
        refine ⟨hall 0 (Nat.zero_lt_succ _), fun i hi ↦ ?_⟩
        have hnext := hall (i + 1) (Nat.succ_lt_succ hi)
        rwa [show off + 2 * (i + 1) = off + 2 + 2 * i by omega] at hnext

/-- Signed half words side by side.  The string has to be long enough to hold them. -/
theorem slice_eq_i16Bytes_iff {stop : Nat} {values : Vector Int16 n} (hstop : stop = off + 2 * n)
    (h : stop ≤ xs.length) : slice xs off stop = i16Bytes values ↔ readI16s n xs off = values := by
  have hbytes : i16Bytes values = (values.toList.map Int16.toUInt16).flatMap le16 := by
    rw [i16Bytes, List.flatMap_map]
  have hlength : (values.toList.map Int16.toUInt16).length = n := by simp
  have hstop' : stop = off + 2 * (values.toList.map Int16.toUInt16).length := by rw [hlength, hstop]
  rw [hstop', hbytes, slice_eq_flatMap_iff (hstop' ▸ h)]
  constructor
  · intro hread
    ext i hi
    have hword := hread i (by simpa using hi)
    rw [List.getElem_map, Vector.getElem_toList, eq_toUInt16_iff] at hword
    simpa [readI16s] using hword
  · rintro rfl i hi
    rw [List.getElem_map, Vector.getElem_toList, eq_toUInt16_iff]
    simp [readI16s]

/-- A string is the sealed cell exactly when it has the length, the checksum is right and the rest
reads as the fields. -/
theorem eq_sealCell_iff {cells : Layout} (h : Layout.Fits n 0 cells) :
    xs = sealCell n cells ↔
      xs.length = n + 2 ∧ crc16Ccitt (slice xs 0 n) = read16 xs n ∧ Layout.Reads n xs 0 cells := by
  refine (Layout.eq_sealed_iff (fun ys ↦ length_le16 (crc16Ccitt ys)) h).trans ?_
  refine and_congr_right fun hlength ↦ and_congr_left' ?_
  have hdrop : xs.drop n = le16 (read16 xs n) := by
    rw [drop_eq_le16_append hlength.ge, List.drop_of_length_le hlength.le, List.append_nil]
  rw [hdrop, Cell.le16_inj, eq_comm]
  rfl

/-- The two checks of a parser's first lines: what stands in front and what stands behind. -/
theorem checkCell_eq_ok {kind : UInt8} :
    checkCell xs (n + 2) kind = .ok () ↔
      xs.length = n + 2 ∧ (slice xs 0 2 = klr10Sync ∧ readByte xs 2 = 10 ∧ readByte xs 3 = kind)
        ∧ crc16Ccitt (slice xs 0 n) = read16 xs n := by
  unfold checkCell
  simp only [bind_eq_ok, reject_eq_ok, exists_const, not_or, not_not, Nat.add_sub_cancel]

end Reading

section Cells

variable {input : List UInt8}

/-! ## The cells, one by one -/

theorem fits_fastSensor (value : GlobalFastSensorCell) :
    Layout.Fits 62 0 (fastSensorCells value) := by
  simp [fastSensorCells]

theorem parseGlobalFastSensor_eq_ok {value : GlobalFastSensorCell} :
    parseGlobalFastSensor input = .ok value ↔
      value.validity &&& ~~~globalFastValidMask = 0
        ∧ input = sealCell 62 (fastSensorCells value) := by
  rw [eq_sealCell_iff (fits_fastSensor value)]
  simp only [parseGlobalFastSensor, bind_eq_ok, reject_eq_ok, pure_eq_ok, exists_const, not_or,
    not_not, GlobalFrameId.parse_eq_ok]
  constructor
  · rintro ⟨⟨⟩, hcheck, ⟨hvalid, h60, h61⟩, frame, hframe, rfl⟩
    obtain ⟨hlen, ⟨hsync, hversion, hkind⟩, hcrc⟩ := checkCell_eq_ok.mp hcheck
    refine ⟨hvalid, hlen, hcrc, ?_⟩
    simp [fastSensorCells, hsync, hversion, hkind, h60, h61, hframe, slice_eq_i16Bytes_iff, hlen]
  · rintro ⟨hvalid, hlen, hcrc, hreads⟩
    simp [fastSensorCells, slice_eq_i16Bytes_iff, hlen, eq_toUInt32_iff, eq_toUInt16_iff] at hreads
    refine ⟨(), checkCell_eq_ok.mpr ⟨hlen, ?_, hcrc⟩, ?_, value.frame, ?_, ?_⟩ <;>
      simp [hreads, hvalid]

theorem fits_aidFrame (value : GlobalAidFrameCell) : Layout.Fits 94 0 (aidFrameCells value) := by
  simp [aidFrameCells]

theorem parseGlobalAidFrame_eq_ok {value : GlobalAidFrameCell} :
    parseGlobalAidFrame input = .ok value ↔
      value.validity &&& ~~~globalAidValidMask = 0
        ∧ input = sealCell 94 (aidFrameCells value) := by
  rw [eq_sealCell_iff (fits_aidFrame value)]
  simp only [parseGlobalAidFrame, bind_eq_ok, reject_eq_ok, pure_eq_ok, exists_const, not_not,
    GlobalFrameId.parse_eq_ok]
  constructor
  · rintro ⟨⟨⟩, hcheck, hvalid, frame, hframe, rfl⟩
    obtain ⟨hlen, ⟨hsync, hversion, hkind⟩, hcrc⟩ := checkCell_eq_ok.mp hcheck
    refine ⟨hvalid, hlen, hcrc, ?_⟩
    simp [aidFrameCells, hsync, hversion, hkind, hframe]
  · rintro ⟨hvalid, hlen, hcrc, hreads⟩
    simp [aidFrameCells, eq_toUInt32_iff] at hreads
    refine ⟨(), checkCell_eq_ok.mpr ⟨hlen, ?_, hcrc⟩, ?_, value.frame, ?_, ?_⟩ <;>
      simp [hreads, hvalid]

theorem fits_transition (value : GlobalTransitionCell) :
    Layout.Fits 190 0 (transitionCells value) := by
  simp [transitionCells]

theorem parseGlobalTransition_eq_ok {value : GlobalTransitionCell} :
    parseGlobalTransition input = .ok value ↔
      value.flags = 0 ∧ input = sealCell 190 (transitionCells value) := by
  rw [eq_sealCell_iff (fits_transition value)]
  simp only [parseGlobalTransition, bind_eq_ok, reject_eq_ok, pure_eq_ok, exists_const, not_or,
    not_not, Bool.not_eq_true, ← zeroOn_iff_any, GlobalFrameId.parse_eq_ok]
  constructor
  · rintro ⟨⟨⟩, hcheck, ⟨h14, h15, hflags, hzero⟩, fromFrame, hfrom, toFrame, hto, rfl⟩
    obtain ⟨hlen, ⟨hsync, hversion, hkind⟩, hcrc⟩ := checkCell_eq_ok.mp hcheck
    refine ⟨rfl, hlen, hcrc, ?_⟩
    simp [transitionCells, hsync, hversion, hkind, h14, h15, hflags, hfrom, hto, hzero]
  · rintro ⟨hflags, hlen, hcrc, hreads⟩
    simp [transitionCells, hflags] at hreads
    refine ⟨(), checkCell_eq_ok.mpr ⟨hlen, ?_, hcrc⟩, ?_, value.fromFrame, ?_, value.toFrame, ?_,
      ?_⟩ <;> simp [hreads, ← hflags]

/-- The two gimbals are written one by one. -/
theorem readI16s_two {off : Nat} {values : Vector Int16 2} :
    readI16s 2 input off = values ↔
      (read16 input off).toInt16 = getElem values 0 Pair.first_lt ∧ (read16 input (off + 2)).toInt16 = getElem values 1 Pair.second_lt := by
  constructor
  · rintro rfl
    constructor <;> simp [readI16s]
  · rintro ⟨hfirst, hsecond⟩
    ext i hi
    match i, hi with
    | 0, _ => simpa [readI16s] using hfirst
    | 1, _ => simpa [readI16s] using hsecond

/-- No pulse is longer than eight quanta. -/
theorem pulses_eq_false {pulses : List UInt8} :
    (pulses.any (8 < ·)) = false ↔ ∀ quantum ∈ pulses, quantum ≤ 8 := by
  simp only [List.any_eq_false, decide_eq_true_eq, UInt8.not_lt]

theorem fits_command (value : GlobalCommandCell) : Layout.Fits 62 0 (commandCells value) := by
  simp [commandCells]

theorem parseGlobalCommand_eq_ok {value : GlobalCommandCell} :
    parseGlobalCommand input = .ok value ↔
      value.Writable ∧ input = sealCell 62 (commandCells value) := by
  rw [eq_sealCell_iff (fits_command value)]
  simp only [parseGlobalCommand, bind_eq_ok, reject_eq_ok, pure_eq_ok, exists_const, not_or,
    not_not, Bool.not_eq_true, ← zeroOn_iff_any, GlobalFrameId.parse_eq_ok]
  constructor
  · rintro ⟨⟨⟩, hcheck, ⟨hflags, hdiscrete, h13, hpulses, hzero⟩, frame, hframe, rfl⟩
    obtain ⟨hlen, ⟨hsync, hversion, hkind⟩, hcrc⟩ := checkCell_eq_ok.mp hcheck
    have hslice : slice input 18 30 = (readBytes 12 input 18).toList :=
      (slice_eq_toList_iff (n := 12) (by rw [hlen]; decide)).mpr rfl
    have hgimbal := readI16s_two.mp (Eq.refl (readI16s 2 input 14))
    rw [hslice] at hpulses
    refine ⟨⟨hflags, hdiscrete, pulses_eq_false.mp hpulses⟩, hlen, hcrc, ?_⟩
    simp [commandCells, hsync, hversion, hkind, h13, hframe, hslice, hzero, eq_toUInt16_iff,
      hgimbal]
  · rintro ⟨hwritable, hlen, hcrc, hreads⟩
    simp [commandCells, eq_toUInt16_iff] at hreads
    have hpulses : readBytes 12 input 18 = value.rcsPulseQuanta := by
      rw [← slice_eq_toList_iff (by omega)]
      simp [hreads]
    have hgimbal : readI16s 2 input 14 = value.gimbalQ15 :=
      readI16s_two.mpr ⟨by simp [hreads], by simp [hreads]⟩
    have hbounded := pulses_eq_false.mpr hwritable.pulses
    refine ⟨(), checkCell_eq_ok.mpr ⟨hlen, ?_, hcrc⟩, ?_, value.frame, ?_, ?_⟩ <;>
      simp only [hreads, hpulses, hgimbal, hwritable.flags, hwritable.discrete, hbounded, and_self]

theorem fits_status (value : GlobalStatusCell) : Layout.Fits 94 0 (statusCells value) := by
  simp [statusCells]

theorem parseGlobalStatus_eq_ok {value : GlobalStatusCell} :
    parseGlobalStatus input = .ok value ↔ input = sealCell 94 (statusCells value) := by
  rw [eq_sealCell_iff (fits_status value)]
  simp only [parseGlobalStatus, bind_eq_ok, reject_eq_ok, pure_eq_ok, exists_const,
    Bool.not_eq_true, ← zeroOn_iff_any, GlobalFrameId.parse_eq_ok]
  constructor
  · rintro ⟨⟨⟩, hcheck, hzero, frame, hframe, rfl⟩
    obtain ⟨hlen, ⟨hsync, hversion, hkind⟩, hcrc⟩ := checkCell_eq_ok.mp hcheck
    refine ⟨hlen, hcrc, ?_⟩
    simp [statusCells, hsync, hversion, hkind, hframe, hzero]
  · rintro ⟨hlen, hcrc, hreads⟩
    simp [statusCells] at hreads
    refine ⟨(), checkCell_eq_ok.mpr ⟨hlen, ?_, hcrc⟩, ?_, value.frame, ?_, ?_⟩ <;> simp [hreads]

end Cells

/-! ## The cells together -/

/-- The kinds of cells. -/
inductive CellKind where
  | fastSensor
  | aidFrame
  | transition
  | command
  | status
deriving DecidableEq

namespace CellKind

abbrev Cell : CellKind → Type
  | .fastSensor => GlobalFastSensorCell
  | .aidFrame => GlobalAidFrameCell
  | .transition => GlobalTransitionCell
  | .command => GlobalCommandCell
  | .status => GlobalStatusCell

def codec : (kind : CellKind) → RecordCodec kind.Cell
  | .fastSensor => ⟨globalFastSensorLength, writeGlobalFastSensor, parseGlobalFastSensor⟩
  | .aidFrame => ⟨globalAidFrameLength, writeGlobalAidFrame, parseGlobalAidFrame⟩
  | .transition => ⟨globalTransitionLength, writeGlobalTransition, parseGlobalTransition⟩
  | .command => ⟨globalCommandLength, writeGlobalCommand, parseGlobalCommand⟩
  | .status => ⟨globalStatusLength, writeGlobalStatus, parseGlobalStatus⟩

/-- The fourth byte of a cell. -/
def code : CellKind → UInt8
  | .fastSensor => 1
  | .aidFrame => 2
  | .transition => 3
  | .command => 4
  | .status => 5

theorem code_injective : Function.Injective code := by
  intro kind other h
  cases kind <;> cases other <;> first | rfl | cases h

/-- What a parser accepts has the code of its kind. -/
theorem readByte_of_parse {kind : CellKind} {input : List UInt8} {value : kind.Cell}
    (h : kind.codec.parse input = .ok value) : readByte input 3 = kind.code := by
  have key {n : Nat} {cells : Layout} {rest : Layout} {k : UInt8} (hfits : Layout.Fits n 0 cells)
      (hinput : input = sealCell n cells)
      (hcells : cells = (0, .bytes klr10Sync) :: (2, .byte 10) :: (3, .byte k) :: rest) :
      readByte input 3 = k := by
    have hreads := ((eq_sealCell_iff hfits).mp hinput).2.2
    rw [hcells] at hreads
    exact hreads.2.2.2.2.2.1
  cases kind with
  | fastSensor => exact key (fits_fastSensor value) (parseGlobalFastSensor_eq_ok.mp h).2 rfl
  | aidFrame => exact key (fits_aidFrame value) (parseGlobalAidFrame_eq_ok.mp h).2 rfl
  | transition => exact key (fits_transition value) (parseGlobalTransition_eq_ok.mp h).2 rfl
  | command => exact key (fits_command value) (parseGlobalCommand_eq_ok.mp h).2 rfl
  | status => exact key (fits_status value) (parseGlobalStatus_eq_ok.mp h) rfl

/-- Writers and parsers of one kind agree. -/
theorem strict (kind : CellKind) :
    kind.codec.RoundTrips
      ∧ ∀ input value, kind.codec.parse input = .ok value →
        (kind.codec.Rewrites value input ↔ True) := by
  cases kind with
  | fastSensor =>
      refine RecordCodec.rewrites_of_strict (fun _ _ _ ↦ checked_iff) fun _ _ ↦ ?_
      rw [not_not]
      exact parseGlobalFastSensor_eq_ok
  | aidFrame =>
      refine RecordCodec.rewrites_of_strict (fun _ _ _ ↦ checked_iff) fun _ _ ↦ ?_
      rw [not_not]
      exact parseGlobalAidFrame_eq_ok
  | transition =>
      refine RecordCodec.rewrites_of_strict (fun _ _ _ ↦ checked_iff) fun _ _ ↦ ?_
      rw [not_not]
      exact parseGlobalTransition_eq_ok
  | command =>
      exact RecordCodec.rewrites_of_strict (fun _ _ _ ↦ writeGlobalCommand_eq_ok) fun _ _ ↦
        parseGlobalCommand_eq_ok
  | status =>
      have hwrite (value : GlobalStatusCell) (output bytes : List UInt8) :
          writeGlobalStatus value output = .ok bytes ↔
            output.length = globalStatusLength ∧ True
              ∧ bytes = sealCell 94 (statusCells value) := by
        simp only [writeGlobalStatus, bind_eq_ok, reject_eq_ok, pure_eq_ok, exists_const, not_not,
          true_and, eq_comm (a := bytes)]
      exact RecordCodec.rewrites_of_strict hwrite fun _ _ ↦
        parseGlobalStatus_eq_ok.trans (iff_of_eq (true_and _).symm)

/-- What a writer writes, the parser reads back; what a parser accepts is what the writer makes of
the cell; and no string is accepted for two kinds. -/
theorem cells_canonical (kind : CellKind) :
    kind.codec.RoundTrips
      ∧ (∀ input value, kind.codec.parse input = .ok value → kind.codec.Rewrites value input)
      ∧ ∀ other : CellKind, other ≠ kind → ∀ input value stranger,
        kind.codec.parse input = .ok value → other.codec.parse input ≠ .ok stranger := by
  obtain ⟨hround, hrewrites⟩ := kind.strict
  refine ⟨hround, fun input value h ↦ (hrewrites input value h).mpr trivial, ?_⟩
  intro other hother input value stranger h hstranger
  apply hother
  apply code_injective
  rw [← readByte_of_parse hstranger, readByte_of_parse h]

end CellKind

end Ksa64.Interface
