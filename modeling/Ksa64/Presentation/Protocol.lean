import Ksa64.Library.Words
import Ksa64.Library.Checked
import Ksa64.Interface.Codec

/-!
# KPS1 frames

A frame is a header of 48 bytes and a payload; the last word of the header is a checksum over
the rest of it and the payload.  `kps1_bijection` says that the writer and the parser undo each
other on the frames that are valid, and which streams of frames a `Kps1SequenceCursor` accepts.
-/

namespace Ksa64.Presentation

open Ksa64.Library
open Ksa64.Interface (crc32Byte)

def kps1Magic : List UInt8 := [0x4b, 0x50, 0x53, 0x31]
def kps1Major : UInt16 := 1
def kps1Minor : UInt16 := 0
def kps1HeaderLength : Nat := 48
def kps1MaxPayloadLength : Nat := 256 * 1024
def kps1EvidenceChunkMaxLength : Nat := 64 * 1024
def kps1RequiredFlagMask : UInt32 := 0xffff0000
def kps1SupportedRequiredFlags : UInt32 := 0
def kps1CapabilityGlobalDisplayV1 : UInt64 := 0x100

@[simp] theorem length_kps1Magic : kps1Magic.length = 4 := rfl

/-! ## Message kinds -/

inductive CorrelationRule where
  | required
  | zero
  | either
deriving DecidableEq

inductive PresentationMessageKind where
  | handshakeRequest
  | handshakeResponse
  | lifecycleControl
  | paceControl
  | replayControl
  | snapshot
  | procedure
  | disposition
  | predictionPath
  | timelineEvent
  | releaseSampleBatch
  | transportStatus
  | eventBatch
  | globalDisplayDefinition
  | globalDisplaySampleBatch
  | globalDisplayPathChunk
  | globalDisplayTransition
  | globalReplayIndex
  | globalDisplayCursorState
  | actionIntent
  | actionReceipt
  | actionProposal
  | globalDisplayRangeRequest
  | evidenceMetadata
  | evidenceChunk
  | error
deriving DecidableEq, Repr

namespace PresentationMessageKind

/-- The wire value of a kind. -/
def raw : PresentationMessageKind → UInt16
  | .handshakeRequest => 0x0001
  | .handshakeResponse => 0x0002
  | .lifecycleControl => 0x0010
  | .paceControl => 0x0011
  | .replayControl => 0x0012
  | .snapshot => 0x0100
  | .procedure => 0x0101
  | .disposition => 0x0102
  | .predictionPath => 0x0103
  | .timelineEvent => 0x0104
  | .releaseSampleBatch => 0x0105
  | .transportStatus => 0x0106
  | .eventBatch => 0x0107
  | .globalDisplayDefinition => 0x0110
  | .globalDisplaySampleBatch => 0x0111
  | .globalDisplayPathChunk => 0x0112
  | .globalDisplayTransition => 0x0113
  | .globalReplayIndex => 0x0114
  | .globalDisplayCursorState => 0x0115
  | .actionIntent => 0x0200
  | .actionReceipt => 0x0201
  | .actionProposal => 0x0202
  | .globalDisplayRangeRequest => 0x0210
  | .evidenceMetadata => 0x0300
  | .evidenceChunk => 0x0301
  | .error => 0x7fff

def fromRaw (raw : UInt16) : Option PresentationMessageKind :=
  match raw with
  | 0x0001 => some .handshakeRequest
  | 0x0002 => some .handshakeResponse
  | 0x0010 => some .lifecycleControl
  | 0x0011 => some .paceControl
  | 0x0012 => some .replayControl
  | 0x0100 => some .snapshot
  | 0x0101 => some .procedure
  | 0x0102 => some .disposition
  | 0x0103 => some .predictionPath
  | 0x0104 => some .timelineEvent
  | 0x0105 => some .releaseSampleBatch
  | 0x0106 => some .transportStatus
  | 0x0107 => some .eventBatch
  | 0x0110 => some .globalDisplayDefinition
  | 0x0111 => some .globalDisplaySampleBatch
  | 0x0112 => some .globalDisplayPathChunk
  | 0x0113 => some .globalDisplayTransition
  | 0x0114 => some .globalReplayIndex
  | 0x0115 => some .globalDisplayCursorState
  | 0x0200 => some .actionIntent
  | 0x0201 => some .actionReceipt
  | 0x0202 => some .actionProposal
  | 0x0210 => some .globalDisplayRangeRequest
  | 0x0300 => some .evidenceMetadata
  | 0x0301 => some .evidenceChunk
  | 0x7fff => some .error
  | _ => none

def correlationRule : PresentationMessageKind → CorrelationRule
  | .handshakeRequest | .handshakeResponse | .lifecycleControl | .paceControl | .replayControl
  | .actionIntent | .globalDisplayRangeRequest => .required
  | .snapshot | .procedure | .disposition | .predictionPath | .timelineEvent
  | .releaseSampleBatch | .transportStatus | .eventBatch | .globalDisplayDefinition
  | .globalDisplaySampleBatch | .globalDisplayPathChunk | .globalDisplayTransition
  | .globalReplayIndex | .actionProposal | .evidenceMetadata | .evidenceChunk => .zero
  | .actionReceipt | .globalDisplayCursorState | .error => .either

def permitsZeroSession (kind : PresentationMessageKind) : Bool := kind = .handshakeRequest

def requiredCapabilityMask : PresentationMessageKind → UInt64
  | .globalDisplayDefinition | .globalDisplaySampleBatch | .globalDisplayPathChunk
  | .globalDisplayTransition | .globalReplayIndex | .globalDisplayCursorState
  | .globalDisplayRangeRequest => kps1CapabilityGlobalDisplayV1
  | _ => 0

def isNegotiatedBy (kind : PresentationMessageKind) (capabilityMask : UInt64) : Bool :=
  let required := kind.requiredCapabilityMask
  required = 0 ∨ capabilityMask &&& required = required

theorem fromRaw_eq_some {raw : UInt16} {kind : PresentationMessageKind} :
    fromRaw raw = some kind ↔ raw = kind.raw := by
  constructor
  · intro h
    unfold fromRaw at h
    split at h <;> cases h <;> rfl
  · rintro rfl
    cases kind <;> rfl

end PresentationMessageKind

/-! ## Frames -/

structure Kps1Header where
  kind : PresentationMessageKind
  flags : UInt32
  sessionNonce : UInt64
  sequence : UInt64
  correlationId : UInt64
  payloadLength : UInt32
deriving DecidableEq

structure DecodedKps1Frame where
  header : Kps1Header
  payload : List UInt8
deriving DecidableEq

inductive Kps1Error where
  | length
  | buffer
  | magic
  | version
  | headerLength
  | messageKind
  | unsupportedRequiredFlags
  | session
  | sequence
  | correlation
  | payloadTooLarge
  | evidenceChunkTooLarge
  | evidenceObjectTooLarge
  | checksum
  | reserved
  | enum
  | identity
  | cursor
  | chunkCount
deriving DecidableEq

def validatePayloadLength (kind : PresentationMessageKind) (payloadLength : Nat) :
    Except Kps1Error Unit := do
  reject (kps1MaxPayloadLength < payloadLength) .payloadTooLarge
  reject (kind = .evidenceChunk ∧ kps1EvidenceChunkMaxLength < payloadLength) .evidenceChunkTooLarge

def Kps1Header.validate (header : Kps1Header) : Except Kps1Error Unit := do
  reject (header.flags &&& kps1RequiredFlagMask &&& ~~~kps1SupportedRequiredFlags ≠ 0)
    .unsupportedRequiredFlags
  reject (header.sequence = 0) .sequence
  reject (header.sessionNonce = 0 ∧ ¬header.kind.permitsZeroSession) .session
  reject (header.kind.correlationRule = .required ∧ header.correlationId = 0
    ∨ header.kind.correlationRule = .zero ∧ header.correlationId ≠ 0) .correlation
  validatePayloadLength header.kind header.payloadLength.toNat

def crc32Parts (first second : List UInt8) : UInt32 :=
  ~~~((first ++ second).foldl crc32Byte 0xffffffff)

/-- The header but for the checksum. -/
def headerCells (header : Kps1Header) : Layout :=
  [(0, .bytes kps1Magic),
    (4, .word16 kps1Major),
    (6, .word16 kps1Minor),
    (8, .word16 (UInt16.ofNat kps1HeaderLength)),
    (10, .word16 header.kind.raw),
    (12, .word32 header.flags),
    (16, .word64 header.sessionNonce),
    (24, .word64 header.sequence),
    (32, .word64 header.correlationId),
    (40, .word32 header.payloadLength)]

def frameCells (frame : DecodedKps1Frame) : Layout :=
  headerCells frame.header
    ++ [(44, .word32 (crc32Parts (Layout.fill 44 (headerCells frame.header)) frame.payload)),
      (48, .bytes frame.payload)]

/-- What the writer leaves in the front of the output, as much of it as it returns. -/
def writeKps1Frame (header : Kps1Header) (payload output : List UInt8) :
    Except Kps1Error (List UInt8) := do
  header.validate
  reject (payload.length ≠ header.payloadLength.toNat) .length
  let total := kps1HeaderLength + payload.length
  reject (output.length < total) .buffer
  pure (Layout.fill total (frameCells ⟨header, payload⟩))

def parseKps1Frame (input : List UInt8) : Except Kps1Error DecodedKps1Frame := do
  reject (input.length < kps1HeaderLength) .length
  reject (slice input 0 4 ≠ kps1Magic) .magic
  reject (read16 input 4 ≠ kps1Major ∨ read16 input 6 ≠ kps1Minor) .version
  reject ((read16 input 8).toNat ≠ kps1HeaderLength) .headerLength
  let kind ← (PresentationMessageKind.fromRaw (read16 input 10)).elim (throw .messageKind) pure
  let header : Kps1Header :=
    { kind := kind
      flags := read32 input 12
      sessionNonce := read64 input 16
      sequence := read64 input 24
      correlationId := read64 input 32
      payloadLength := read32 input 40 }
  header.validate
  let total := kps1HeaderLength + header.payloadLength.toNat
  reject (input.length ≠ total) .length
  let payload := input.drop kps1HeaderLength
  reject (read32 input 44 ≠ crc32Parts (slice input 0 44) payload) .checksum
  pure ⟨header, payload⟩

/-! ## Sequences -/

structure Kps1SequenceCursor where
  sessionNonce : UInt64
  nextSequence : UInt64
deriving DecidableEq

namespace Kps1SequenceCursor

def new (sessionNonce nextSequence : UInt64) : Except Kps1Error Kps1SequenceCursor := do
  reject (sessionNonce = 0) .session
  reject (nextSequence = 0) .sequence
  pure ⟨sessionNonce, nextSequence⟩

def accept (cursor : Kps1SequenceCursor) (header : Kps1Header) :
    Except Kps1Error Unit × Kps1SequenceCursor :=
  if header.sessionNonce ≠ cursor.sessionNonce then (.error .session, cursor)
  else if header.sequence ≠ cursor.nextSequence then (.error .sequence, cursor)
  else
    match checkedAdd64 cursor.nextSequence 1 with
    | none => (.error .sequence, cursor)
    | some nextSequence => (.ok (), { cursor with nextSequence := nextSequence })

/-- One header after the other, up to the first that is rejected. -/
def acceptAll (cursor : Kps1SequenceCursor) :
    List Kps1Header → Except Kps1Error Unit × Kps1SequenceCursor
  | [] => (.ok (), cursor)
  | header :: rest =>
      match cursor.accept header with
      | (.ok (), cursor) => cursor.acceptAll rest
      | (.error error, cursor) => (.error error, cursor)

end Kps1SequenceCursor

/-! ## The writer and the parser undo each other -/

/-- What the writer accepts. -/
structure DecodedKps1Frame.Valid (frame : DecodedKps1Frame) : Prop where
  header : frame.header.validate = .ok ()
  payload : frame.payload.length = frame.header.payloadLength.toNat

/-- The bytes of a frame. -/
def DecodedKps1Frame.bytes (frame : DecodedKps1Frame) : List UInt8 :=
  Layout.fill (kps1HeaderLength + frame.payload.length) (frameCells frame)

section Frames

variable {frame : DecodedKps1Frame} {input output bytes : List UInt8}

theorem fits_header (header : Kps1Header) : Layout.Fits 44 0 (headerCells header) := by
  simp [headerCells]

theorem fits_frame (frame : DecodedKps1Frame) :
    Layout.Fits (kps1HeaderLength + frame.payload.length) 0 (frameCells frame) :=
  Layout.fits_append (fits_header frame.header) (by simp [kps1HeaderLength])

theorem writeKps1Frame_eq_ok {header : Kps1Header} {payload : List UInt8} :
    writeKps1Frame header payload output = .ok bytes ↔
      DecodedKps1Frame.Valid ⟨header, payload⟩ ∧ kps1HeaderLength + payload.length ≤ output.length
        ∧ bytes = DecodedKps1Frame.bytes ⟨header, payload⟩ := by
  unfold writeKps1Frame
  simp only [bind_eq_ok, reject_eq_ok, pure_eq_ok, exists_const, not_not, Nat.not_lt]
  constructor
  · rintro ⟨_, hheader, hpayload, houtput, hbytes⟩
    exact ⟨⟨hheader, hpayload⟩, houtput, hbytes.symm⟩
  · rintro ⟨hvalid, houtput, hbytes⟩
    exact ⟨(), hvalid.header, hvalid.payload, houtput, hbytes.symm⟩

/-- The bytes of a frame, field by field. -/
theorem eq_bytes_iff :
    input = frame.bytes ↔
      input.length = kps1HeaderLength + frame.payload.length
        ∧ Layout.Reads 44 input 0 (headerCells frame.header)
        ∧ read32 input 44 = crc32Parts (slice input 0 44) frame.payload
        ∧ input.drop kps1HeaderLength = frame.payload := by
  rw [DecodedKps1Frame.bytes, Layout.eq_fill_iff (fits_frame frame), frameCells,
    Layout.reads_append (fits_header frame.header) (by simp [kps1HeaderLength])]
  refine and_congr_right fun hlength ↦ and_congr_right fun hreads ↦ ?_
  have hfront : slice input 0 44 = Layout.fill 44 (headerCells frame.header) := by
    refine (Layout.take_eq_fill_iff ?_ (fits_header frame.header)).mpr hreads
    rw [hlength, kps1HeaderLength]
    omega
  have hback : slice input 48 (48 + frame.payload.length) = input.drop kps1HeaderLength := by
    rw [kps1HeaderLength] at hlength
    rw [slice, List.take_of_length_le (Nat.le_of_eq hlength), kps1HeaderLength]
  simp [hfront, hback, kps1HeaderLength]

/-- What the cells of the header say. -/
theorem reads_header_iff {header : Kps1Header} :
    Layout.Reads 44 input 0 (headerCells header) ↔
      slice input 0 4 = kps1Magic ∧ read16 input 4 = kps1Major ∧ read16 input 6 = kps1Minor
        ∧ (read16 input 8).toNat = kps1HeaderLength
        ∧ PresentationMessageKind.fromRaw (read16 input 10) = some header.kind
        ∧ read32 input 12 = header.flags ∧ read64 input 16 = header.sessionNonce
        ∧ read64 input 24 = header.sequence ∧ read64 input 32 = header.correlationId
        ∧ read32 input 40 = header.payloadLength := by
  have hlength : read16 input 8 = UInt16.ofNat kps1HeaderLength ↔
      (read16 input 8).toNat = kps1HeaderLength := by
    rw [← UInt16.toNat_inj]
    rfl
  rw [PresentationMessageKind.fromRaw_eq_some, ← hlength]
  simp [headerCells]

theorem parseKps1Frame_eq_ok :
    parseKps1Frame input = .ok frame ↔ frame.Valid ∧ input = frame.bytes := by
  rw [eq_bytes_iff, reads_header_iff]
  unfold parseKps1Frame
  simp only [bind_eq_ok, reject_eq_ok, pure_eq_ok, elim_throw_eq_ok, exists_const, not_or, not_not,
    Nat.not_lt]
  constructor
  · rintro ⟨hlong, hmagic, ⟨hmajor, hminor⟩, hheader, kind, hkind, _, hvalid, hlength, hcrc, rfl⟩
    have hpayload : (input.drop kps1HeaderLength).length = (read32 input 40).toNat := by
      rw [List.length_drop, hlength, Nat.add_sub_cancel_left]
    refine ⟨⟨hvalid, hpayload⟩, ?_, ⟨hmagic, hmajor, hminor, hheader, hkind, rfl, rfl, rfl, rfl,
      rfl⟩, hcrc, rfl⟩
    rw [hlength, hpayload]
  · rintro ⟨hvalid, hlength, ⟨hmagic, hmajor, hminor, hheader, hkind, hflags, hnonce, hsequence,
      hcorrelation, hpayload⟩, hcrc, hdrop⟩
    refine ⟨?_, hmagic, ⟨hmajor, hminor⟩, hheader, frame.header.kind, hkind, ?_⟩
    · omega
    · simp only [hflags, hnonce, hsequence, hcorrelation, hpayload, hdrop]
      exact ⟨(), hvalid.header, hlength.trans (congrArg _ hvalid.payload), hcrc, trivial⟩

end Frames

/-! ## Which streams a cursor accepts -/

namespace Kps1SequenceCursor

/-- The headers are of the session of the cursor, their sequence numbers follow one another from
the cursor on, and none is the largest there is. -/
def Contiguous (cursor : Kps1SequenceCursor) (headers : List Kps1Header) : Prop :=
  ∀ i header, headers[i]? = some header →
    header.sessionNonce = cursor.sessionNonce
      ∧ header.sequence.toNat = cursor.nextSequence.toNat + i
      ∧ header.sequence.toNat + 1 < 2 ^ 64

/-- What the cursor takes next. -/
structure Takes (cursor : Kps1SequenceCursor) (header : Kps1Header) : Prop where
  session : header.sessionNonce = cursor.sessionNonce
  sequence : header.sequence = cursor.nextSequence
  last : header.sequence.toNat + 1 < 2 ^ 64

variable {cursor : Kps1SequenceCursor} {header : Kps1Header} {headers : List Kps1Header}

theorem accept_of_takes (h : cursor.Takes header) :
    ∃ next, cursor.accept header = (.ok (), next)
      ∧ next.sessionNonce = cursor.sessionNonce
      ∧ next.nextSequence.toNat = cursor.nextSequence.toNat + 1 := by
  have hsum : checkedAdd64 cursor.nextSequence 1 = some (cursor.nextSequence + 1) := by
    unfold checkedAdd64
    rw [if_pos]
    rw [← h.sequence]
    exact h.last
  unfold accept
  rw [if_neg (not_not.mpr h.session), if_neg (not_not.mpr h.sequence), hsum]
  exact ⟨_, rfl, rfl, (checkedAdd64_eq_some.mp hsum).symm⟩

/-- A header that is rejected leaves the cursor. -/
theorem accept_of_not_takes (h : ¬cursor.Takes header) :
    ∃ error, cursor.accept header = (.error error, cursor) := by
  unfold accept
  split_ifs with hsession hsequence
  · exact ⟨_, rfl⟩
  · exact ⟨_, rfl⟩
  · rw [not_not] at hsession hsequence
    have hsum : checkedAdd64 cursor.nextSequence 1 = none := by
      unfold checkedAdd64
      rw [if_neg]
      rw [← hsequence]
      exact fun hlast ↦ h ⟨hsession, hsequence, hlast⟩
    rw [hsum]
    exact ⟨_, rfl⟩

theorem contiguous_nil (cursor : Kps1SequenceCursor) : cursor.Contiguous [] := nofun

/-- A stream that goes on from the next cursor. -/
theorem contiguous_cons {next : Kps1SequenceCursor} (hsession : next.sessionNonce = cursor.sessionNonce)
    (hsequence : next.nextSequence.toNat = cursor.nextSequence.toNat + 1) :
    cursor.Contiguous (header :: headers) ↔ cursor.Takes header ∧ next.Contiguous headers := by
  constructor
  · intro h
    obtain ⟨hnonce, hnumber, hlast⟩ := h 0 header rfl
    refine ⟨⟨hnonce, UInt64.toNat_inj.mp hnumber, hlast⟩, fun i other hother ↦ ?_⟩
    obtain ⟨hnonce, hnumber, hlast⟩ := h (i + 1) other hother
    exact ⟨hnonce.trans hsession.symm, by omega, hlast⟩
  · rintro ⟨htakes, h⟩ i other hother
    cases i with
    | zero =>
        cases hother
        exact ⟨htakes.session, congrArg UInt64.toNat htakes.sequence, htakes.last⟩
    | succ i =>
        obtain ⟨hnonce, hnumber, hlast⟩ := h i other hother
        exact ⟨hnonce.trans hsession, by omega, hlast⟩

theorem not_contiguous_cons (h : ¬cursor.Takes header) : ¬cursor.Contiguous (header :: headers) := by
  intro hcontiguous
  obtain ⟨hnonce, hnumber, hlast⟩ := hcontiguous 0 header rfl
  exact h ⟨hnonce, UInt64.toNat_inj.mp hnumber, hlast⟩

theorem acceptAll_eq_ok_iff : (cursor.acceptAll headers).1 = .ok () ↔ cursor.Contiguous headers := by
  induction headers generalizing cursor with
  | nil => exact iff_of_true rfl (contiguous_nil cursor)
  | cons header rest ih =>
      by_cases htakes : cursor.Takes header
      · obtain ⟨next, hnext, hsession, hsequence⟩ := accept_of_takes htakes
        rw [acceptAll, hnext, contiguous_cons hsession hsequence, and_iff_right htakes]
        exact ih
      · obtain ⟨error, herror⟩ := accept_of_not_takes htakes
        rw [acceptAll, herror]
        exact iff_of_false nofun (not_contiguous_cons htakes)

/-- The cursor behind a stream that is accepted. -/
theorem acceptAll_of_contiguous (h : cursor.Contiguous headers) :
    (cursor.acceptAll headers).2.sessionNonce = cursor.sessionNonce
      ∧ (cursor.acceptAll headers).2.nextSequence.toNat
        = cursor.nextSequence.toNat + headers.length := by
  induction headers generalizing cursor with
  | nil => exact ⟨rfl, rfl⟩
  | cons header rest ih =>
      have htakes : cursor.Takes header := by
        by_contra htakes
        exact not_contiguous_cons htakes h
      obtain ⟨next, hnext, hsession, hsequence⟩ := accept_of_takes htakes
      obtain ⟨hnonce, hnumber⟩ := ih ((contiguous_cons hsession hsequence).mp h).2
      rw [acceptAll, hnext]
      refine ⟨hnonce.trans hsession, ?_⟩
      rw [List.length_cons]
      exact hnumber.trans (by omega)

/-- The first header that is rejected leaves the cursor that the headers before it led to. -/
theorem acceptAll_of_rejected {before after : List Kps1Header} (h : cursor.Contiguous before)
    (hrejected : ¬cursor.Contiguous (before ++ [header])) :
    ∃ error, cursor.acceptAll (before ++ header :: after)
      = (.error error, (cursor.acceptAll before).2) := by
  induction before generalizing cursor with
  | nil =>
      have htakes : ¬cursor.Takes header := by
        intro htakes
        obtain ⟨next, -, hsession, hsequence⟩ := accept_of_takes htakes
        exact hrejected ((contiguous_cons hsession hsequence).mpr ⟨htakes, contiguous_nil next⟩)
      obtain ⟨error, herror⟩ := accept_of_not_takes htakes
      refine ⟨error, ?_⟩
      show cursor.acceptAll (header :: after) = (.error error, cursor)
      rw [acceptAll, herror]
  | cons first rest ih =>
      have htakes : cursor.Takes first := by
        by_contra htakes
        exact not_contiguous_cons htakes h
      obtain ⟨next, hnext, hsession, hsequence⟩ := accept_of_takes htakes
      rw [List.cons_append, contiguous_cons hsession hsequence, not_and] at hrejected
      obtain ⟨error, herror⟩ := ih ((contiguous_cons hsession hsequence).mp h).2 (hrejected htakes)
      refine ⟨error, ?_⟩
      rw [List.cons_append, acceptAll, acceptAll, hnext]
      exact herror

end Kps1SequenceCursor

/-- The writer and the parser undo each other, and a cursor accepts the streams that are
contiguous. -/
theorem kps1_bijection :
    (∀ frame : DecodedKps1Frame, frame.Valid → ∀ output : List UInt8,
      kps1HeaderLength + frame.payload.length ≤ output.length →
        ∃ bytes, writeKps1Frame frame.header frame.payload output = .ok bytes
          ∧ parseKps1Frame bytes = .ok frame)
      ∧ (∀ (input : List UInt8) (frame : DecodedKps1Frame), parseKps1Frame input = .ok frame →
        frame.Valid ∧ ∀ output : List UInt8, input.length ≤ output.length →
          writeKps1Frame frame.header frame.payload output = .ok input)
      ∧ ∀ (cursor : Kps1SequenceCursor) (headers : List Kps1Header),
        ((cursor.acceptAll headers).1 = .ok () ↔ cursor.Contiguous headers)
          ∧ (cursor.Contiguous headers → (cursor.acceptAll headers).2.nextSequence.toNat
            = cursor.nextSequence.toNat + headers.length)
          ∧ ∀ before header after, headers = before ++ header :: after →
            cursor.Contiguous before → ¬cursor.Contiguous (before ++ [header]) →
              ∃ error, cursor.acceptAll headers = (.error error, (cursor.acceptAll before).2) := by
  refine ⟨fun frame hvalid output houtput ↦ ?_, fun input frame hparse ↦ ?_,
    fun cursor headers ↦ ⟨Kps1SequenceCursor.acceptAll_eq_ok_iff, fun h ↦ ?_, ?_⟩⟩
  · exact ⟨frame.bytes, writeKps1Frame_eq_ok.mpr ⟨hvalid, houtput, rfl⟩,
      parseKps1Frame_eq_ok.mpr ⟨hvalid, rfl⟩⟩
  · obtain ⟨hvalid, hinput⟩ := parseKps1Frame_eq_ok.mp hparse
    refine ⟨hvalid, fun output houtput ↦ writeKps1Frame_eq_ok.mpr ⟨hvalid, ?_, hinput⟩⟩
    rwa [(eq_bytes_iff.mp hinput).1] at houtput
  · exact (Kps1SequenceCursor.acceptAll_of_contiguous h).2
  · rintro before header after rfl hbefore hrejected
    exact Kps1SequenceCursor.acceptAll_of_rejected hbefore hrejected

/-- An action receipt of a session, with a sequence number. -/
def receiptHeader (sessionNonce sequence : UInt64) : Kps1Header where
  kind := .actionReceipt
  flags := 0
  sessionNonce := sessionNonce
  sequence := sequence
  correlationId := 0
  payloadLength := 0

/-- Sequence numbers that follow one another are not enough: the session has to be that of the
cursor, and the largest number is not taken. -/
theorem cursor_rejects_contiguous_sequences :
    (¬∀ (cursor : Kps1SequenceCursor) (headers : List Kps1Header),
      (∀ header ∈ headers, header.sequence.toNat + 1 < 2 ^ 64) →
        ((cursor.acceptAll headers).1 = .ok () ↔ ∀ i header, headers[i]? = some header →
          header.sequence.toNat = cursor.nextSequence.toNat + i))
      ∧ ¬∀ (cursor : Kps1SequenceCursor) (headers : List Kps1Header),
        (∀ header ∈ headers, header.sessionNonce = cursor.sessionNonce) →
          ((cursor.acceptAll headers).1 = .ok () ↔ ∀ i header, headers[i]? = some header →
            header.sequence.toNat = cursor.nextSequence.toNat + i) := by
  have hfollow (sessionNonce sequence : UInt64) : ∀ (i : Nat) (header : Kps1Header),
      [receiptHeader sessionNonce sequence][i]? = some header →
        header.sequence.toNat = sequence.toNat + i := by
    intro i header hheader
    cases i with
    | zero =>
        cases hheader
        rfl
    | succ i => cases hheader
  constructor
  · intro h
    have haccepted := (h ⟨1, 1⟩ [receiptHeader 2 1] (by decide)).mpr (hfollow 2 1)
    exact absurd haccepted (by decide)
  · intro h
    have haccepted := (h ⟨1, 18446744073709551615⟩ [receiptHeader 1 18446744073709551615]
      (by decide)).mpr (hfollow 1 18446744073709551615)
    exact absurd haccepted (by decide)

end Ksa64.Presentation
