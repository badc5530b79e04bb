import Ksa64.Interface.CellCodec
import Ksa64.Interface.Codec

/-!
# The KPH5 codec

A history is a header of 80 bytes and points of 16 bytes each.  The steps of the points rise strictly,
from zero to the terminal step in the header; the header has the checksum of the points, and one of its
own.
-/

namespace Ksa64.Sim

open Ksa64.Library Ksa64.Interface

def kph5Magic : List UInt8 := [0x4b, 0x50, 0x48, 0x35]
def kph5Version : UInt16 := 5
def kph5ContractId : UInt32 := 0x050c0001
def kph5HeaderLength : Nat := 80
def kph5PointLength : Nat := 16
def phase5NumericContractId : UInt32 := 1560508115
def phase5ScenarioId : UInt32 := 4178197782

structure Phase5HistoryPoint where
  step : UInt16
  positionQuarterKm : Vector Int16 3
  dynamicPressureSixteenthKpa : UInt16
  navigationErrorQuarterKm : UInt16
  events : UInt16
  alarms : UInt16
deriving DecidableEq

structure Phase5HistoryHeader where
  campaignSeed : UInt32
  runIndex : UInt32
  sensorSeed : UInt32
  variationChecksum : UInt32
  stride : UInt16
  pointCount : UInt16
  terminalStep : UInt32
  pointsCrc32 : UInt32
deriving DecidableEq

inductive Phase5HistoryError where
  | length
  | identity
  | reserved
  | checksum
  | capacity
  | stride
  | sequence
deriving DecidableEq

/-! ## Headers -/

def kph5HeaderCells (header : Phase5HistoryHeader) : Layout :=
  [(0, .bytes kph5Magic),
    (4, .word16 kph5Version),
    (6, .word16 80),
    (8, .word16 16),
    (10, .word16 header.stride),
    (12, .word32 kph5ContractId),
    (16, .word32 phase5NumericContractId),
    (20, .word32 phase5ScenarioId),
    (24, .word32 header.campaignSeed),
    (28, .word32 header.runIndex),
    (32, .word32 header.sensorSeed),
    (36, .word32 header.variationChecksum),
    (40, .word16 header.pointCount),
    (44, .word32 header.terminalStep),
    (72, .word32 header.pointsCrc32)]

/-- The bytes that the writer leaves in an output of the given length. -/
def writeKph5Header (header : Phase5HistoryHeader) (length : Nat) :
    Except Phase5HistoryError (List UInt8) := do
  reject (length ≠ kph5HeaderLength) .length
  reject (header.stride = 0 ∨ header.pointCount = 0) .stride
  pure (sealRecord 76 (kph5HeaderCells header))

def parseKph5Header (input : List UInt8) : Except Phase5HistoryError Phase5HistoryHeader := do
  reject (input.length ≠ kph5HeaderLength) .length
  reject (slice input 0 4 ≠ kph5Magic ∨ read16 input 4 ≠ kph5Version ∨ read16 input 6 ≠ 80
    ∨ read16 input 8 ≠ 16 ∨ read32 input 12 ≠ kph5ContractId
    ∨ read32 input 16 ≠ phase5NumericContractId ∨ read32 input 20 ≠ phase5ScenarioId) .identity
  reject ((slice input 42 44).any (· != 0) ∨ (slice input 48 72).any (· != 0)) .reserved
  reject (crc32Ieee (slice input 0 76) ≠ read32 input 76) .checksum
  let header : Phase5HistoryHeader :=
    { campaignSeed := read32 input 24
      runIndex := read32 input 28
      sensorSeed := read32 input 32
      variationChecksum := read32 input 36
      stride := read16 input 10
      pointCount := read16 input 40
      terminalStep := read32 input 44
      pointsCrc32 := read32 input 72 }
  reject (header.stride = 0 ∨ header.pointCount = 0) .stride
  pure header

/-! ## Points -/

def kph5PointCells (point : Phase5HistoryPoint) : Layout :=
  [(0, .word16 point.step),
    (2, .bytes (i16Bytes point.positionQuarterKm)),
    (8, .word16 point.dynamicPressureSixteenthKpa),
    (10, .word16 point.navigationErrorQuarterKm),
    (12, .word16 point.events),
    (14, .word16 point.alarms)]

def writeKph5Point (point : Phase5HistoryPoint) (length : Nat) :
    Except Phase5HistoryError (List UInt8) := do
  reject (length ≠ kph5PointLength) .length
  pure (Layout.fill 16 (kph5PointCells point))

def parseKph5Point (input : List UInt8) : Except Phase5HistoryError Phase5HistoryPoint := do
  reject (input.length ≠ kph5PointLength) .length
  pure
    { step := read16 input 0
      positionQuarterKm := readI16s 3 input 2
      dynamicPressureSixteenthKpa := read16 input 8
      navigationErrorQuarterKm := read16 input 10
      events := read16 input 12
      alarms := read16 input 14 }

/-! ## Histories -/

/-- The points, each at a later step than the one before. -/
def writePoints (previous : Option UInt16) :
    List Phase5HistoryPoint → Except Phase5HistoryError (List UInt8)
  | [] => pure []
  | point :: rest => do
      reject (previous.any (point.step ≤ ·)) .sequence
      let bytes ← writeKph5Point point kph5PointLength
      let others ← writePoints (some point.step) rest
      pure (bytes ++ others)

/-- The bytes that the writer leaves in an output of the given length. -/
def writeKph5 (header : Phase5HistoryHeader) (points : List Phase5HistoryPoint) (length : Nat) :
    Except Phase5HistoryError (List UInt8) := do
  reject (length ≠ kph5HeaderLength + points.length * kph5PointLength ∨ points.isEmpty
    ∨ 65535 < points.length) .length
  reject (points.head?.map (·.step) ≠ some 0
    ∨ points.getLast?.map (·.step.toUInt32) ≠ some header.terminalStep) .sequence
  let body ← writePoints none points
  let front ← writeKph5Header { header with
    pointCount := .ofNat points.length
    pointsCrc32 := crc32Ieee body } kph5HeaderLength
  pure (front ++ body)

/-- One point, after the step of the point before it. -/
def validatePoint (input : List UInt8) (previous : Option UInt16) (index : Nat) :
    Except Phase5HistoryError (Option UInt16) := do
  let start := kph5HeaderLength + index * kph5PointLength
  let point ← parseKph5Point (slice input start (start + kph5PointLength))
  reject (previous.isNone ∧ point.step ≠ 0) .sequence
  reject (previous.any (point.step ≤ ·)) .sequence
  pure (some point.step)

def validateKph5 (input : List UInt8) : Except Phase5HistoryError Phase5HistoryHeader := do
  reject (input.length < kph5HeaderLength) .length
  let header ← parseKph5Header (input.take kph5HeaderLength)
  reject (input.length ≠ kph5HeaderLength + header.pointCount.toNat * kph5PointLength
    ∨ crc32Ieee (input.drop kph5HeaderLength) ≠ header.pointsCrc32) .checksum
  let last ← (List.range header.pointCount.toNat).foldlM (validatePoint input) none
  reject (last.map UInt16.toUInt32 ≠ some header.terminalStep) .sequence
  pure header

/-! ## One spelling for each header and point -/

section Spelling

variable {input : List UInt8}

theorem fits_kph5Header (header : Phase5HistoryHeader) :
    Layout.Fits 76 0 (kph5HeaderCells header) := by
  simp [kph5HeaderCells, kph5Magic]

theorem parseKph5Header_eq_ok {header : Phase5HistoryHeader} :
    parseKph5Header input = .ok header ↔
      (header.stride ≠ 0 ∧ header.pointCount ≠ 0)
        ∧ input = sealRecord 76 (kph5HeaderCells header) := by
  rw [eq_sealRecord_iff (fits_kph5Header header)]
  simp only [parseKph5Header, bind_eq_ok, reject_eq_ok, pure_eq_ok, exists_const, not_or, not_not,
    Bool.not_eq_true]
  constructor
  · rintro ⟨hlen, ⟨hmagic, hversion, h6, h8, hcontract, hnumeric, hscenario⟩, ⟨h42, h48⟩, hcrc,
      hcounts, rfl⟩
    have h42 := zeroOn_iff_any.mpr h42
    have h48 := zeroOn_iff_any.mpr h48
    refine ⟨hcounts, hlen, hcrc, ?_⟩
    simp [kph5HeaderCells, kph5Magic, hmagic, hversion, h6, h8, hcontract, hnumeric, hscenario, h48]
    exact zeroOn_two.mp h42
  · rintro ⟨hcounts, hlen, hcrc, hreads⟩
    simp [kph5HeaderCells, kph5Magic] at hreads
    have h42 := zeroOn_iff_any.mp (zeroOn_two.mpr hreads.2.2.2.2.2.2.2.2.2.2.2.2.2.1)
    have h48 := zeroOn_iff_any.mp hreads.2.2.2.2.2.2.2.2.2.2.2.2.2.2.2.1
    refine ⟨hlen, ?_, ⟨h42, h48⟩, hcrc, ?_, ?_⟩ <;> simp [hreads, hcounts, kph5Magic]

theorem fits_kph5Point (point : Phase5HistoryPoint) :
    Layout.Fits 16 0 (kph5PointCells point) := by
  simp [kph5PointCells]

theorem parseKph5Point_eq_ok {point : Phase5HistoryPoint} :
    parseKph5Point input = .ok point ↔ input = Layout.fill 16 (kph5PointCells point) := by
  rw [Layout.eq_fill_iff (fits_kph5Point point)]
  simp only [parseKph5Point, bind_eq_ok, reject_eq_ok, pure_eq_ok, exists_const, not_not]
  refine and_congr_right fun hlen ↦ ?_
  rw [kph5PointLength] at hlen
  constructor
  · rintro rfl
    simp [kph5PointCells, slice_eq_i16Bytes_iff, hlen]
  · intro hreads
    simp [kph5PointCells, slice_eq_i16Bytes_iff, hlen] at hreads
    simp [hreads]

end Spelling

/-! ## Writing and checking a history -/

section History

variable {point : Phase5HistoryPoint} {points rest : List Phase5HistoryPoint} {previous : Option UInt16}

/-- The bytes of a point. -/
def pointBytes (point : Phase5HistoryPoint) : List UInt8 := Layout.fill 16 (kph5PointCells point)

@[simp] theorem length_pointBytes (point : Phase5HistoryPoint) : (pointBytes point).length = 16 :=
  Layout.length_fill (fits_kph5Point point)

theorem length_flatMap_pointBytes (points : List Phase5HistoryPoint) :
    (points.flatMap pointBytes).length = points.length * kph5PointLength := by
  simp [List.length_flatMap, kph5PointLength]

/-- The steps rise strictly, also from the step before. -/
def Rising (previous : Option UInt16) (points : List Phase5HistoryPoint) : Prop :=
  (∀ step ∈ previous, ∀ point ∈ points, step < point.step)
    ∧ points.Pairwise fun a b ↦ a.step < b.step

theorem not_any_le (h : Rising previous (point :: rest)) :
    ¬previous.any (point.step ≤ ·) := by
  cases previous with
  | none => exact Bool.false_ne_true
  | some step =>
      have hlt := h.1 step rfl point List.mem_cons_self
      simpa using hlt

theorem rising_tail (h : Rising previous (point :: rest)) : Rising (some point.step) rest := by
  obtain ⟨hlater, hrest⟩ := List.pairwise_cons.mp h.2
  refine ⟨fun step hstep ↦ ?_, hrest⟩
  cases hstep
  exact hlater

theorem writePoints_of_rising (h : Rising previous points) :
    writePoints previous points = .ok (points.flatMap pointBytes) := by
  induction points generalizing previous with
  | nil => rfl
  | cons point rest ih =>
      unfold writePoints
      rw [reject_bind (not_any_le h)]
      refine (bind_of_ok (show writeKph5Point point kph5PointLength = .ok (pointBytes point) from rfl)
        _).trans ?_
      rw [bind_of_ok (ih (rising_tail h))]
      rfl

/-- A point in its place, later than the one before it. -/
theorem validatePoint_of_place {front : List UInt8} {pre post : List Phase5HistoryPoint}
    (hfront : front.length = kph5HeaderLength)
    (hfirst : previous = none → point.step = 0) (hlater : ∀ step ∈ previous, step < point.step) :
    validatePoint (front ++ (pre ++ point :: post).flatMap pointBytes) previous pre.length
      = .ok (some point.step) := by
  have hslice : slice (front ++ (pre ++ point :: post).flatMap pointBytes)
      (kph5HeaderLength + pre.length * kph5PointLength)
      (kph5HeaderLength + pre.length * kph5PointLength + kph5PointLength) = pointBytes point := by
    rw [List.flatMap_append, List.flatMap_cons, ← List.append_assoc]
    refine slice_append ?_ ?_ _
    · rw [List.length_append, hfront, length_flatMap_pointBytes]
    · rw [List.length_append, hfront, length_flatMap_pointBytes, length_pointBytes]
      rfl
  unfold validatePoint
  dsimp only
  have hparse : parseKph5Point (pointBytes point) = .ok point := parseKph5Point_eq_ok.mpr rfl
  have hzero : ¬(previous.isNone ∧ point.step ≠ 0) := by
    rintro ⟨hnone, hne⟩
    exact hne (hfirst (Option.isNone_iff_eq_none.mp hnone))
  have hany : ¬previous.any (point.step ≤ ·) := by
    cases previous with
    | none => exact Bool.false_ne_true
    | some step => simpa using hlater step rfl
  rw [hslice, bind_of_ok hparse, reject_bind hzero, reject_bind hany]
  rfl

theorem validatePoints_of_rising {front : List UInt8} {pre post : List Phase5HistoryPoint}
    (hfront : front.length = kph5HeaderLength)
    (hfirst : pre = [] → ∀ point ∈ post.head?, point.step = 0)
    (h : Rising (pre.getLast?.map (·.step)) post) :
    (List.range' pre.length post.length).foldlM
        (validatePoint (front ++ (pre ++ post).flatMap pointBytes)) (pre.getLast?.map (·.step))
      = .ok ((pre ++ post).getLast?.map (·.step)) := by
  induction post generalizing pre with
  | nil =>
      rw [List.append_nil]
      rfl
  | cons point post ih =>
      have hplace : validatePoint (front ++ (pre ++ point :: post).flatMap pointBytes)
          (pre.getLast?.map (·.step)) pre.length = .ok (some point.step) := by
        refine validatePoint_of_place hfront (fun hnone ↦ hfirst ?_ point rfl)
          fun step hstep ↦ h.1 step hstep point List.mem_cons_self
        rwa [Option.map_eq_none_iff, List.getLast?_eq_none_iff] at hnone
      have hlast : (pre ++ [point]).getLast?.map (·.step) = some point.step := by
        rw [List.getLast?_concat]
        rfl
      have hrising : Rising ((pre ++ [point]).getLast?.map (·.step)) post := by
        rw [hlast]
        exact rising_tail h
      have hnext := ih (fun hnil ↦ absurd hnil (List.append_ne_nil_of_right_ne_nil _ (List.cons_ne_nil _ _)))
        hrising
      rw [hlast, List.length_append, List.append_assoc] at hnext
      rw [List.length_cons, List.range'_succ, List.foldlM_cons, bind_of_ok hplace]
      exact hnext

/-- A history whose steps rise from zero to the terminal step is written, and what is written is taken
for a history with the number and the checksum of the points. -/
theorem kph5_round_trip {header : Phase5HistoryHeader} (hrising : Rising none points)
    (hfirst : points.head?.map (·.step) = some 0)
    (hlast : points.getLast?.map (·.step.toUInt32) = some header.terminalStep)
    (hstride : header.stride ≠ 0) (hcount : points.length ≤ 65535) :
    ∃ output, writeKph5 header points (kph5HeaderLength + points.length * kph5PointLength) = .ok output
      ∧ validateKph5 output = .ok { header with
        pointCount := .ofNat points.length
        pointsCrc32 := crc32Ieee (points.flatMap pointBytes) } := by
  let complete := { header with
    pointCount := .ofNat points.length
    pointsCrc32 := crc32Ieee (points.flatMap pointBytes) }
  have hnonempty : points ≠ [] := by
    rintro rfl
    cases hfirst
  have hpositive := List.length_pos_iff.mpr hnonempty
  have hcountNat : complete.pointCount.toNat = points.length :=
    UInt16.toNat_ofNat_of_lt' (by show _ < 2 ^ 16; omega)
  have hcountNe : complete.pointCount ≠ 0 := by
    intro hzero
    rw [hzero] at hcountNat
    exact hpositive.ne hcountNat
  have hfront : (sealRecord 76 (kph5HeaderCells complete)).length = kph5HeaderLength :=
    ((eq_sealRecord_iff (fits_kph5Header complete)).mp rfl).1
  have hheader : writeKph5Header complete kph5HeaderLength
      = .ok (sealRecord 76 (kph5HeaderCells complete)) := by
    unfold writeKph5Header
    rw [reject_bind (not_not.mpr rfl), reject_bind (not_or.mpr ⟨hstride, hcountNe⟩)]
    rfl
  have hparse : parseKph5Header (sealRecord 76 (kph5HeaderCells complete)) = .ok complete :=
    parseKph5Header_eq_ok.mpr ⟨⟨hstride, hcountNe⟩, rfl⟩
  have hbody := length_flatMap_pointBytes points
  refine ⟨sealRecord 76 (kph5HeaderCells complete) ++ points.flatMap pointBytes, ?_, ?_⟩
  · unfold writeKph5
    rw [reject_bind, reject_bind, bind_of_ok (writePoints_of_rising hrising)]
    · exact (bind_of_ok hheader _).trans rfl
    · simp [hfirst, hlast]
    · simpa [hnonempty] using hcount
  · have htake : (sealRecord 76 (kph5HeaderCells complete) ++ points.flatMap pointBytes).take
        kph5HeaderLength = sealRecord 76 (kph5HeaderCells complete) := List.take_left' hfront
    have hdrop : (sealRecord 76 (kph5HeaderCells complete) ++ points.flatMap pointBytes).drop
        kph5HeaderLength = points.flatMap pointBytes := List.drop_left' hfront
    have hloop := @validatePoints_of_rising (sealRecord 76 (kph5HeaderCells complete)) [] points
      hfront (fun _ point hpoint ↦ ?_) hrising
    · unfold validateKph5
      rw [reject_bind, htake, bind_of_ok hparse, reject_bind, hcountNat, List.range_eq_range']
      · refine (bind_of_ok hloop _).trans ?_
        rw [List.nil_append, reject_bind]
        · rfl
        · rw [Option.map_map]
          exact not_not.mpr hlast
      · rw [List.length_append, hfront, hbody, hcountNat, hdrop]
        exact not_or.mpr ⟨not_not.mpr rfl, not_not.mpr rfl⟩
      · rw [List.length_append, hfront]
        omega
    · rw [hpoint] at hfirst
      exact Option.some_inj.mp hfirst

end History

end Ksa64.Sim
