import Ksa64.Library.Checked
import Ksa64.Library.Cobs
import Ksa64.Interface.Codec

/-!
# KLF6 link frames

A frame is a header, a payload of at most 512 bytes and a checksum; on the wire it is stuffed
(`cobsEncode`) and ended by a zero.  `parseLinkFrame_of_writeLinkFrame` says that what is
written is read back, in the buffers that the two ends of a link have.
-/

namespace Ksa64.Interface

open Ksa64.Library

def klf6HeaderLength : Nat := 36
def klf6MaxPayload : Nat := 512
def klf6MaxDecoded : Nat := 552
def klf6MaxEncoded : Nat := 556
def klf6Magic : List UInt8 := [0x4b, 0x4c, 0x46, 0x36]
def linkFlagMask : UInt16 := 15

inductive LinkRecordType where
  | hello
  | capabilities
  | start
  | canonicalSensor
  | canonicalCommand
  | commit
  | canonicalTelemetry
  | groundTrackingFix
  | alarm
  | stop
  | heartbeat
  | packageObject
  | groundTelemetry
  | groundTrackingObservation
  | uplinkStage
  | uplinkCommit
  | uplinkCancel
  | uplinkAcknowledgement
  | predictionSummary
  | eventJournal
  | procedureAction
deriving DecidableEq, Repr

namespace LinkRecordType

/-- The wire value of a record type. -/
def code : LinkRecordType → UInt8
  | .hello => 1
  | .capabilities => 2
  | .start => 3
  | .canonicalSensor => 4
  | .canonicalCommand => 5
  | .commit => 6
  | .canonicalTelemetry => 7
  | .groundTrackingFix => 8
  | .alarm => 9
  | .stop => 10
  | .heartbeat => 11
  | .packageObject => 12
  | .groundTelemetry => 13
  | .groundTrackingObservation => 14
  | .uplinkStage => 15
  | .uplinkCommit => 16
  | .uplinkCancel => 17
  | .uplinkAcknowledgement => 18
  | .predictionSummary => 19
  | .eventJournal => 20
  | .procedureAction => 21

def parse (value : UInt8) : Except CodecError LinkRecordType :=
  match value with
  | 1 => pure .hello
  | 2 => pure .capabilities
  | 3 => pure .start
  | 4 => pure .canonicalSensor
  | 5 => pure .canonicalCommand
  | 6 => pure .commit
  | 7 => pure .canonicalTelemetry
  | 8 => pure .groundTrackingFix
  | 9 => pure .alarm
  | 10 => pure .stop
  | 11 => pure .heartbeat
  | 12 => pure .packageObject
  | 13 => pure .groundTelemetry
  | 14 => pure .groundTrackingObservation
  | 15 => pure .uplinkStage
  | 16 => pure .uplinkCommit
  | 17 => pure .uplinkCancel
  | 18 => pure .uplinkAcknowledgement
  | 19 => pure .predictionSummary
  | 20 => pure .eventJournal
  | 21 => pure .procedureAction
  | _ => throw .enum

@[simp] theorem parse_code (x : LinkRecordType) : parse x.code = .ok x := by
  cases x <;> rfl

end LinkRecordType

structure LinkHeader where
  recordType : LinkRecordType
  flags : UInt16
  sessionId : UInt32
  sequence : UInt32
  acknowledgement : UInt32
  measurementEpoch : UInt32
  productionEpoch : UInt32
  effectiveEpoch : UInt32
deriving DecidableEq

structure LinkFrame where
  header : LinkHeader
  payload : List UInt8
deriving DecidableEq

inductive LinkCodecError where
  | codec (error : CodecError)
  | cobs
  | version
  | magic
  | capacity
deriving DecidableEq

/-! ## Frames -/

def linkCells (frame : LinkFrame) : Layout :=
  [(0, .bytes klf6Magic),
    (4, .byte 6),
    (5, .byte frame.header.recordType.code),
    (6, .word16 frame.header.flags),
    (8, .word32 frame.header.sessionId),
    (12, .word32 frame.header.sequence),
    (16, .word32 frame.header.acknowledgement),
    (20, .word32 frame.header.measurementEpoch),
    (24, .word32 frame.header.productionEpoch),
    (28, .word32 frame.header.effectiveEpoch),
    (32, .word16 (UInt16.ofNat frame.payload.length)),
    (36, .bytes frame.payload)]

/-- What the writer leaves in the front of the output. -/
def writeLinkDecoded (frame : LinkFrame) (output : List UInt8) :
    Except LinkCodecError (List UInt8) := do
  reject (klf6MaxPayload < frame.payload.length) .capacity
  reject (frame.header.flags &&& ~~~linkFlagMask ≠ 0) (.codec .flags)
  let n := klf6HeaderLength + frame.payload.length + 4
  reject (output.length < n) .capacity
  pure (sealRecord (36 + frame.payload.length) (linkCells frame))

def parseLinkDecoded (input : List UInt8) : Except LinkCodecError LinkFrame := do
  reject (input.length < 40 ∨ klf6MaxDecoded < input.length) (.codec .length)
  reject (slice input 0 4 ≠ klf6Magic) .magic
  reject (readByte input 4 ≠ 6) .version
  reject (readByte input 34 ≠ 0 ∨ readByte input 35 ≠ 0) (.codec .reserved)
  let n := (read16 input 32).toNat
  reject (klf6MaxPayload < n ∨ input.length ≠ 40 + n) (.codec .length)
  let c := 36 + n
  reject (crc32Ieee (slice input 0 c) ≠ read32 input c) (.codec .checksum)
  let flags := read16 input 6
  reject (flags &&& ~~~linkFlagMask ≠ 0) (.codec .flags)
  let recordType ← (LinkRecordType.parse (readByte input 5)).mapError .codec
  pure {
    header := {
      recordType := recordType
      flags := flags
      sessionId := read32 input 8
      sequence := read32 input 12
      acknowledgement := read32 input 16
      measurementEpoch := read32 input 20
      productionEpoch := read32 input 24
      effectiveEpoch := read32 input 28 }
    payload := slice input 36 c }

/-! ## Stuffing -/

/-- The encoder behind the bytes it has read: `w` is where the next byte goes, and `mark` where
the code of the block goes when the block is over. -/
def cobsEncodeLoop : List UInt8 → List UInt8 → Nat → Nat → UInt8 →
    Except LinkCodecError (List UInt8)
  | [], out, w, mark, code => do
      reject (out.length ≤ mark ∨ out.length ≤ w) .capacity
      pure (((out.set mark code).set w 0).take (w + 1))
  | byte :: rest, out, w, mark, code =>
      if byte = 0 then do
        reject (out.length ≤ mark) .capacity
        cobsEncodeLoop rest (out.set mark code) (w + 1) w 1
      else do
        reject (out.length ≤ w) .capacity
        if code + 1 = 0xff then
          cobsEncodeLoop rest ((out.set w byte).set mark (code + 1)) (w + 2) (w + 1) 1
        else
          cobsEncodeLoop rest (out.set w byte) (w + 1) mark (code + 1)

/-- What the encoder leaves in the front of the output. -/
def cobsEncode (input out : List UInt8) : Except LinkCodecError (List UInt8) := do
  reject (out = []) .capacity
  cobsEncodeLoop input out 1 0 1

/-- The decoder in front of the blocks that are left, with what it has written. -/
def cobsDecodeLoop (capacity : Nat) : List UInt8 → List UInt8 → Except LinkCodecError (List UInt8)
  | [], out => pure out
  | code :: rest, out =>
      let n := code.toNat - 1
      if code = 0 ∨ rest.length < n ∨ capacity < out.length + n then throw .cobs
      else
        let after := rest.drop n
        if code ≠ 0xff ∧ after ≠ [] then
          if capacity ≤ out.length + n then throw .capacity
          else cobsDecodeLoop capacity after (out ++ rest.take n ++ [0])
        else cobsDecodeLoop capacity after (out ++ rest.take n)
termination_by input => input.length
decreasing_by
  all_goals
    rw [List.length_drop, List.length_cons]
    omega

/-- What the decoder leaves in the front of an output of a length. -/
def cobsDecode (input : List UInt8) (capacity : Nat) : Except LinkCodecError (List UInt8) := do
  reject (input = [] ∨ input.getLast? ≠ some 0) .cobs
  cobsDecodeLoop capacity input.dropLast []

def writeLinkFrame (frame : LinkFrame) (decoded encoded : List UInt8) :
    Except LinkCodecError (List UInt8) := do
  let bytes ← writeLinkDecoded frame decoded
  cobsEncode bytes encoded

def parseLinkFrame (encoded : List UInt8) (capacity : Nat) : Except LinkCodecError LinkFrame := do
  let bytes ← cobsDecode encoded capacity
  parseLinkDecoded bytes

/-! ## What is written is read back -/

/-- What the writer accepts. -/
structure LinkFrame.Valid (frame : LinkFrame) : Prop where
  payload : frame.payload.length ≤ 512
  flags : frame.header.flags &&& ~~~linkFlagMask = 0

/-- The bytes of a frame, before stuffing. -/
def LinkFrame.decoded (frame : LinkFrame) : List UInt8 :=
  sealRecord (36 + frame.payload.length) (linkCells frame)

section Frames

variable {frame : LinkFrame}

@[simp] theorem length_klf6Magic : klf6Magic.length = 4 := rfl

theorem fits_link (frame : LinkFrame) :
    Layout.Fits (36 + frame.payload.length) 0 (linkCells frame) := by
  simp [linkCells]

theorem length_decoded (frame : LinkFrame) :
    frame.decoded.length = 40 + frame.payload.length := by
  have hlength := ((eq_sealRecord_iff (fits_link frame)).mp (rfl : frame.decoded = _)).1
  omega

theorem writeLinkDecoded_eq_ok {output : List UInt8} (h : frame.Valid)
    (houtput : klf6MaxDecoded ≤ output.length) : writeLinkDecoded frame output = .ok frame.decoded := by
  have hpayload := h.payload
  unfold klf6MaxDecoded at houtput
  unfold writeLinkDecoded
  rw [reject_bind (by unfold klf6MaxPayload; omega), reject_bind (not_not.mpr h.flags)]
  dsimp only
  rw [reject_bind (by unfold klf6HeaderLength; omega)]
  rfl

theorem parseLinkDecoded_decoded (h : frame.Valid) :
    parseLinkDecoded frame.decoded = .ok frame := by
  have hpayload := h.payload
  have hlength := length_decoded frame
  obtain ⟨-, hcrc, hreads⟩ := (eq_sealRecord_iff (fits_link frame)).mp (rfl : frame.decoded = _)
  simp [linkCells] at hreads
  obtain ⟨hmagic, hversion, htype, hflags, hsession, hsequence, hacknowledgement, hmeasurement,
    hproduction, heffective, hn, ⟨h34, h35⟩, hbytes⟩ := hreads
  have hn : (read16 frame.decoded 32).toNat = frame.payload.length := by
    rw [hn, UInt16.toNat_ofNat']
    omega
  simp only [parseLinkDecoded, bind_eq_ok, reject_eq_ok, pure_eq_ok, exists_const, not_or, not_not,
    mapError_eq_ok, hn, hflags, htype, hsession, hsequence, hacknowledgement, hmeasurement,
    hproduction, heffective, hbytes]
  refine ⟨⟨?_, ?_⟩, hmagic, hversion, ⟨h34, h35⟩, ⟨?_, hlength⟩, hcrc, h.flags,
    frame.header.recordType, LinkRecordType.parse_code _, rfl⟩
  · omega
  · unfold klf6MaxDecoded
    omega
  · unfold klf6MaxPayload
    omega

end Frames

section Stuffing

theorem set_append_cons {α : Type} {as bs : List α} {a b : α} {n : Nat} (h : n = as.length) :
    (as ++ a :: bs).set n b = as ++ b :: bs := by
  rw [h, List.set_append_right _ _ (Nat.le_refl _), Nat.sub_self, List.set_cons_zero]

/-- The encoder's buffer: the blocks that are over, a place for the code, the block that has
been begun, and what is left. -/
structure CobsBuffer (out : List UInt8) (w mark : Nat) (code : UInt8)
    (done block left : List UInt8) : Prop where
  buffer : ∃ x, out = done ++ x :: (block ++ left)
  next : w = done.length + 1 + block.length
  mark : mark = done.length
  code : code = Cobs.code block
  block : block.length ≤ 253

theorem cobsEncodeLoop_eq_ok {input out done block left : List UInt8} {w mark : Nat} {code : UInt8}
    (h : CobsBuffer out w mark code done block left)
    (hroom : (Cobs.encodeFrom block input).length ≤ block.length + left.length) :
    cobsEncodeLoop input out w mark code = .ok (done ++ Cobs.encodeFrom block input ++ [0]) := by
  -- on what is left to read; the block grows until it is over
  induction input generalizing out done block left w mark code with
  | nil =>
      obtain ⟨⟨x, rfl⟩, rfl, rfl, rfl, -⟩ := h
      rw [Cobs.encodeFrom, List.length_cons] at hroom
      obtain _ | ⟨y, left⟩ := left
      · rw [List.length_nil] at hroom
        omega
      rw [cobsEncodeLoop, reject_bind (by simp; omega), set_append_cons rfl, ← List.cons_append,
        ← List.append_assoc, set_append_cons (by simp; omega), List.append_cons _ 0 left,
        List.take_left' (by simp; omega)]
      rfl
  | cons byte rest ih =>
      obtain ⟨⟨x, rfl⟩, rfl, rfl, rfl, hblock⟩ := h
      have hlt := Cobs.length_lt_encodeFrom [] rest
      rw [Cobs.encodeFrom] at hroom ⊢
      simp only [cobsEncodeLoop, Cobs.code_add_one_eq_full hblock]
      split_ifs at hroom ⊢ with hzero hfull
      · rw [List.length_cons, List.length_append] at hroom
        obtain _ | ⟨y, left⟩ := left
        · rw [List.length_nil] at hroom
          omega
        rw [List.length_cons] at hroom
        have hbuffer : CobsBuffer (done ++ Cobs.code block :: (block ++ y :: left))
            (done.length + 1 + block.length + 1) (done.length + 1 + block.length) 1
            (done ++ Cobs.code block :: block) [] left :=
          ⟨⟨y, by simp⟩, by simp; omega, by simp; omega, rfl, Nat.zero_le _⟩
        rw [reject_bind (by simp), set_append_cons rfl, ih hbuffer (by rw [List.length_nil]; omega)]
        simp
      · rw [List.length_cons, List.length_append, List.length_cons] at hroom
        obtain _ | ⟨y, _ | ⟨z, left⟩⟩ := left
        · rw [List.length_nil] at hroom
          omega
        · rw [List.length_singleton] at hroom
          omega
        rw [List.length_cons, List.length_cons] at hroom
        have hbuffer : CobsBuffer (done ++ 255 :: (block ++ byte :: z :: left))
            (done.length + 1 + block.length + 2) (done.length + 1 + block.length + 1) 1
            (done ++ 255 :: (block ++ [byte])) [] left :=
          ⟨⟨z, by simp⟩, by simp; omega, by simp; omega, rfl, Nat.zero_le _⟩
        rw [reject_bind (by simp; omega), ← List.cons_append, ← List.append_assoc,
          set_append_cons (by simp; omega), List.append_assoc, List.cons_append,
          set_append_cons rfl, (Cobs.code_add_one_eq_full hblock).mpr hfull,
          ih hbuffer (by rw [List.length_nil]; omega)]
        simp
      · have hlt' := Cobs.length_lt_encodeFrom (block ++ [byte]) rest
        rw [List.length_append, List.length_singleton] at hlt'
        obtain _ | ⟨y, left⟩ := left
        · rw [List.length_nil] at hroom
          omega
        rw [List.length_cons] at hroom
        have hbuffer : CobsBuffer (done ++ x :: block ++ byte :: left)
            (done.length + 1 + block.length + 1) done.length (Cobs.code block + 1) done
            (block ++ [byte]) left :=
          ⟨⟨x, by simp⟩, by simp; omega, rfl, (Cobs.code_append block byte).symm, by simp; omega⟩
        rw [reject_bind (by simp; omega), ← List.cons_append, ← List.append_assoc,
          set_append_cons (by simp; omega), ih hbuffer (by simp; omega)]

/-- In a buffer that is long enough, the encoder writes the blocks and the zero. -/
theorem cobsEncode_eq_ok {input out : List UInt8} (h : (Cobs.encode input).length < out.length) :
    cobsEncode input out = .ok (Cobs.encode input ++ [0]) := by
  obtain _ | ⟨x, left⟩ := out
  · exact absurd h (Nat.not_lt_zero _)
  rw [cobsEncode, reject_bind nofun]
  have hbuffer : CobsBuffer (x :: left) 1 0 1 [] [] left :=
    ⟨⟨x, rfl⟩, rfl, rfl, rfl, Nat.zero_le _⟩
  rw [List.length_cons] at h
  refine cobsEncodeLoop_eq_ok hbuffer ?_
  rw [List.length_nil, Nat.zero_add]
  exact Nat.le_of_lt_succ h

/-- The decoder takes the blocks apart, as long as its buffer is. -/
theorem cobsDecodeLoop_eq_ok {capacity : Nat} {input out xs : List UInt8}
    (h : Cobs.decode input = some xs) (hroom : out.length + xs.length ≤ capacity) :
    cobsDecodeLoop capacity input out = .ok (out ++ xs) := by
  fun_induction Cobs.decode input generalizing out xs
  case case1 =>
    cases h
    rw [cobsDecodeLoop, List.append_nil]
    rfl
  case case2 => cases h
  case case3 byte rest n hbad after ih =>
    obtain ⟨ys, hys, rfl⟩ := Option.map_eq_some_iff.mp h
    obtain ⟨hbyte, hshort⟩ := not_or.mp hbad
    have htake : (rest.take n).length = n :=
      List.length_take_of_le (Nat.not_lt.mp hshort)
    rw [List.length_append, htake] at hroom
    have hfits : ¬(byte = 0 ∨ rest.length < n ∨ capacity < out.length + n) := by
      rw [not_or, not_or]
      exact ⟨hbyte, hshort, by omega⟩
    rw [cobsDecodeLoop]
    dsimp only
    rw [if_neg hfits]
    by_cases hzero : byte ≠ 255 ∧ after ≠ []
    · rw [if_pos hzero, List.length_cons] at hroom
      rw [if_pos hzero, if_pos hzero, if_neg (by omega), ih hys (by simp; omega)]
      simp only [List.append_assoc, List.singleton_append]
      rfl
    · rw [if_neg hzero] at hroom
      rw [if_neg hzero, if_neg hzero, ih hys (by simp; omega), List.append_assoc]

/-- The decoder undoes the encoder, in a buffer that is long enough. -/
theorem cobsDecode_encode {xs : List UInt8} {capacity : Nat} (h : xs.length ≤ capacity) :
    cobsDecode (Cobs.encode xs ++ [0]) capacity = .ok xs := by
  rw [cobsDecode, reject_bind (by simp), List.dropLast_concat,
    cobsDecodeLoop_eq_ok (Cobs.decode_encode xs) (by simpa using h)]
  rfl

end Stuffing

/-- The bytes of a frame on the wire. -/
def LinkFrame.encoded (frame : LinkFrame) : List UInt8 := Cobs.encode frame.decoded ++ [0]

section Link

variable {frame : LinkFrame} {decoded encoded : List UInt8}

/-- A frame of the longest payload just fits. -/
theorem length_encoded_le (h : frame.Valid) : frame.encoded.length ≤ klf6MaxEncoded := by
  have hlength := Cobs.length_encode_le frame.decoded
  have hpayload := h.payload
  rw [length_decoded] at hlength
  rw [LinkFrame.encoded, List.length_append, List.length_singleton, klf6MaxEncoded]
  omega

/-- A valid frame is written. -/
theorem writeLinkFrame_eq_ok (h : frame.Valid) (hdecoded : klf6MaxDecoded ≤ decoded.length)
    (hencoded : klf6MaxEncoded ≤ encoded.length) :
    writeLinkFrame frame decoded encoded = .ok frame.encoded := by
  have hlength := length_encoded_le h
  rw [LinkFrame.encoded, List.length_append, List.length_singleton] at hlength
  rw [writeLinkFrame, bind_of_ok (writeLinkDecoded_eq_ok h hdecoded),
    cobsEncode_eq_ok (by omega), LinkFrame.encoded]

/-- What is written is read back. -/
theorem parseLinkFrame_encoded (h : frame.Valid) :
    parseLinkFrame frame.encoded klf6MaxDecoded = .ok frame := by
  have hlength := length_decoded frame
  have hpayload := h.payload
  rw [parseLinkFrame, LinkFrame.encoded,
    bind_of_ok (cobsDecode_encode (by rw [hlength, klf6MaxDecoded]; omega))]
  exact parseLinkDecoded_decoded h

end Link

end Ksa64.Interface
