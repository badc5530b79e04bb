import Ksa64.Session.Bundle

/-!
# One segment of a session bundle

What `encodeSegment` writes is `WireSegment.bytes`, the header, the payload and the CRC
one after the other, and `scanSegment_eq_ok` says what a round of the scanner does in
these terms: it takes a segment in iff the bytes of that segment lie at its offset.
Writer and scanner are compared here once, field by field; everything above this file
speaks of the bytes of segments.
-/

namespace Ksa64.Session

open Ksa64.Library Ksa64.Interface

/-- A segment with all that its header says. -/
@[ext] structure WireSegment where
  identity : SessionBundleIdentity
  sequence : UInt32
  kind : SessionSegmentKind
  flags : UInt16
  priorCrc : UInt32
  payload : List UInt8

namespace WireSegment

/-- What the writer requires of a segment. -/
structure Valid (w : WireSegment) : Prop where
  identity : w.identity.isValid = true
  payload : w.payload.length ≤ ksb11MaxSegmentPayload
  flags : w.flags &&& ~~~ksb11FlagFinal = 0

/-- The length of the segment in the bundle. -/
def length (w : WireSegment) : Nat := 68 + w.payload.length

/-- The 64 bytes of the header. -/
def header (w : WireSegment) : List UInt8 :=
  ksb11Magic ++ le16 11 ++ le16 64 ++ le32 (UInt32.ofNat w.length)
    ++ le32 w.identity.definition ++ le32 w.identity.actions
    ++ le32 w.identity.completedEvidence ++ le32 w.sequence ++ le16 w.kind.code
    ++ le16 w.flags ++ le32 (UInt32.ofNat w.payload.length) ++ le32 (crc32Ieee w.payload)
    ++ le32 w.priorCrc ++ List.replicate 20 0

/-- The part of the segment that its CRC covers. -/
def body (w : WireSegment) : List UInt8 := w.header ++ w.payload

/-- The CRC at the end of the segment. -/
def crc (w : WireSegment) : UInt32 := crc32Ieee w.body

/-- The segment as it lies in the bundle. -/
def bytes (w : WireSegment) : List UInt8 := w.body ++ le32 w.crc

@[simp] theorem length_header (w : WireSegment) : w.header.length = 64 := rfl

@[simp] theorem length_body (w : WireSegment) : w.body.length = 64 + w.payload.length := by
  rw [body, List.length_append, length_header]

@[simp] theorem length_bytes (w : WireSegment) : w.bytes.length = w.length := by
  rw [bytes, List.length_append, length_body, length_le32, length]
  omega

/-- The words of a valid segment's lengths do not wrap. -/
theorem Valid.toNat_length {w : WireSegment} (h : w.Valid) :
    (UInt32.ofNat w.length).toNat = w.length := by
  have hp := h.payload
  rw [ksb11MaxSegmentPayload] at hp
  rw [UInt32.toNat_ofNat', length]
  omega

/-- The words of a valid segment's lengths do not wrap. -/
theorem Valid.toNat_payload_length {w : WireSegment} (h : w.Valid) :
    (UInt32.ofNat w.payload.length).toNat = w.payload.length := by
  have hp := h.payload
  rw [ksb11MaxSegmentPayload] at hp
  rw [UInt32.toNat_ofNat']
  omega

/-- The CRC is the last word of the segment. -/
theorem read32_bytes (w : WireSegment) : read32 w.bytes (w.bytes.length - 4) = w.crc := by
  have hlen : w.bytes.length - 4 = w.body.length := by
    rw [length_bytes, length_body, length]
    omega
  have h := read32_append hlen w.crc []
  rwa [List.append_nil] at h

/-! ## Writing -/

/-- The writer writes the fields front to back. -/
theorem encodeSegment_eq {w : WireSegment} (h : w.Valid) :
    encodeSegment w.identity w.sequence w.kind w.flags w.priorCrc w.payload = .ok w.bytes := by
  have hc : ¬(w.identity.isValid = false ∨ ksb11MaxSegmentPayload < w.payload.length
      ∨ w.flags &&& ~~~ksb11FlagFinal ≠ 0) := by
    rintro (hi | hp | hf)
    · rw [h.identity] at hi
      cases hi
    · exact absurd h.payload (Nat.not_le.mpr hp)
    · exact hf h.flags
  have hlen : ksb11HeaderLength + w.payload.length + ksb11TrailerLength = w.length := by
    rw [ksb11HeaderLength, ksb11TrailerLength, length]
    omega
  have hend : w.length - 4 = 64 + w.payload.length := by
    rw [length]
    omega
  unfold encodeSegment
  rw [reject_bind hc]
  simp only [hlen, hend]
  rw [← List.nil_append (List.replicate w.length (0 : UInt8))]
  -- the fields up to the reserved bytes, each written at the frontier
  iterate 13 rw [splice_frontier]
  · simp only [length_le16, length_le32, show ksb11Magic.length = 4 from rfl]
    have hrest : w.length - 4 - 2 - 2 - 4 - 4 - 4 - 4 - 4 - 2 - 2 - 4 - 4 - 4
        = 20 + (w.payload.length + 4) := by
      rw [length]
      omega
    rw [hrest, List.replicate_add, ← List.append_assoc]
    -- the reserved bytes stay zero, and the payload is written past them
    change Except.ok (splice (splice (w.header ++ _) 64 w.payload) _
      (le32 (crc32Ieee ((splice (w.header ++ _) 64 w.payload).take _)))) = _
    rw [splice_frontier w.length_header.symm, ← body, List.take_left' w.length_body,
      splice_frontier w.length_body.symm]
    simp [bytes, crc]
  all_goals rfl

/-! ## Reading -/

/-- The fields of the header are what is read at its offset. -/
structure HeaderAt (w : WireSegment) (input : List UInt8) (offset : Nat) : Prop where
  magic : slice input offset (offset + 4) = ksb11Magic
  version : read16 input (offset + 4) = 11
  headerLength : read16 input (offset + 6) = 64
  length : read32 input (offset + 8) = UInt32.ofNat w.length
  definition : read32 input (offset + 12) = w.identity.definition
  actions : read32 input (offset + 16) = w.identity.actions
  completedEvidence : read32 input (offset + 20) = w.identity.completedEvidence
  sequence : read32 input (offset + 24) = w.sequence
  kind : read16 input (offset + 28) = w.kind.code
  flags : read16 input (offset + 30) = w.flags
  payloadLength : read32 input (offset + 32) = UInt32.ofNat w.payload.length
  payloadCrc : read32 input (offset + 36) = crc32Ieee w.payload
  priorCrc : read32 input (offset + 40) = w.priorCrc
  reserved : slice input (offset + 44) (offset + 64) = List.replicate 20 0

theorem read16_ksb11Magic_right (post : List UInt8) (off : Nat) :
    read16 (ksb11Magic ++ post) (off + 4) = read16 post off := read16_append_right rfl post off

theorem read32_ksb11Magic_right (post : List UInt8) (off : Nat) :
    read32 (ksb11Magic ++ post) (off + 4) = read32 post off := read32_append_right rfl post off

/-- A header is read where it lies. -/
theorem headerAt_of_drop {w : WireSegment} {input post : List UInt8} {offset : Nat}
    (hd : input.drop offset = w.header ++ post) : w.HeaderAt input offset := by
  have hr : slice input (offset + 44) (offset + 64) = List.replicate 20 0 := by
    rw [slice_drop, hd, header, List.append_assoc]
    exact slice_append rfl rfl post
  simp only [header, List.append_assoc] at hd
  constructor
  case magic => exact slice_of_drop_eq hd rfl
  case reserved => exact hr
  -- the words, each past the fields before it
  all_goals simp [read16_drop _ offset, read32_drop _ offset, hd, read16_ksb11Magic_right,
    read32_ksb11Magic_right]

/-- A header lies where it is read: the reader leaves no byte of it open. -/
theorem HeaderAt.drop_eq {w : WireSegment} {input : List UInt8} {offset : Nat}
    (ha : w.HeaderAt input offset) (hl : offset + 64 ≤ input.length) :
    input.drop offset = w.header ++ input.drop (offset + 64) := by
  rw [drop_eq_slice_append (show offset ≤ offset + 4 by omega), ha.magic,
    drop_eq_le16_append (show offset + 4 + 2 ≤ input.length by omega), ha.version,
    drop_eq_le16_append (show offset + 6 + 2 ≤ input.length by omega), ha.headerLength,
    drop_eq_le32_append (show offset + 8 + 4 ≤ input.length by omega), ha.length,
    drop_eq_le32_append (show offset + 12 + 4 ≤ input.length by omega), ha.definition,
    drop_eq_le32_append (show offset + 16 + 4 ≤ input.length by omega), ha.actions,
    drop_eq_le32_append (show offset + 20 + 4 ≤ input.length by omega), ha.completedEvidence,
    drop_eq_le32_append (show offset + 24 + 4 ≤ input.length by omega), ha.sequence,
    drop_eq_le16_append (show offset + 28 + 2 ≤ input.length by omega), ha.kind,
    drop_eq_le16_append (show offset + 30 + 2 ≤ input.length by omega), ha.flags,
    drop_eq_le32_append (show offset + 32 + 4 ≤ input.length by omega), ha.payloadLength,
    drop_eq_le32_append (show offset + 36 + 4 ≤ input.length by omega), ha.payloadCrc,
    drop_eq_le32_append (show offset + 40 + 4 ≤ input.length by omega), ha.priorCrc,
    drop_eq_slice_append (show offset + 44 ≤ offset + 64 by omega), ha.reserved]
  simp only [header, List.append_assoc]

/-- A segment lies at an offset iff its header, its payload and its CRC are read there. -/
theorem bytes_prefix_iff {w : WireSegment} {input : List UInt8} {offset : Nat} :
    w.bytes <+: input.drop offset ↔
      offset + w.length ≤ input.length
        ∧ w.HeaderAt input offset
        ∧ slice input (offset + 64) (offset + 64 + w.payload.length) = w.payload
        ∧ read32 input (offset + w.length - 4)
          = crc32Ieee (slice input offset (offset + w.length - 4)) := by
  have hend : offset + w.length - 4 = offset + (64 + w.payload.length) := by
    rw [length]
    omega
  have hlength : w.length = 68 + w.payload.length := rfl
  have hbody {post : List UInt8} (h : input.drop offset = w.body ++ post) :
      slice input offset (offset + (64 + w.payload.length)) = w.body :=
    slice_of_drop_eq h (by rw [length_body])
  rw [hend]
  constructor
  · rintro ⟨post, hpost⟩
    have hlen := congrArg List.length hpost
    rw [List.length_append, length_bytes, List.length_drop] at hlen
    have hd : input.drop offset = w.body ++ (le32 w.crc ++ post) := by
      rw [← hpost, bytes, List.append_assoc]
    refine ⟨by omega, headerAt_of_drop (hd.trans (List.append_assoc ..)), ?_, ?_⟩
    · rw [Nat.add_assoc, slice_drop, hd, body, List.append_assoc]
      exact slice_append rfl rfl _
    · rw [hbody hd, read32_drop, hd]
      exact read32_append (by rw [length_body]) _ post
  · rintro ⟨hlen, hat, hpayload, hcrc⟩
    have hd := hat.drop_eq (by omega)
    rw [drop_eq_slice_append (show offset + 64 ≤ offset + 64 + w.payload.length by omega),
      hpayload, Nat.add_assoc,
      drop_eq_le32_append (show offset + (64 + w.payload.length) + 4 ≤ input.length by omega),
      hcrc, ← List.append_assoc, ← body] at hd
    rw [hbody hd, ← crc, ← List.append_assoc, ← bytes] at hd
    exact ⟨_, hd.symm⟩

/-- The CRC of a segment is read at its end. -/
theorem crc_at {w : WireSegment} {input : List UInt8} {offset : Nat}
    (hp : w.bytes <+: input.drop offset) : read32 input (offset + w.length - 4) = w.crc := by
  obtain ⟨post, hpost⟩ := hp
  have hend : offset + w.length - 4 = offset + (64 + w.payload.length) := by
    rw [length]
    omega
  rw [hend, read32_drop, ← hpost, bytes, List.append_assoc]
  exact read32_append (by rw [length_body]) _ post

end WireSegment

/-! ## One round of the scanner -/

/-- The scanner finds a complete segment iff the frame at the offset is well formed and
the input reaches to its end. -/
theorem frameLength_eq_some {input : List UInt8} {offset n : Nat} :
    frameLength input offset = .ok (some n) ↔
      offset + n ≤ input.length
        ∧ slice input offset (offset + 4) = ksb11Magic
        ∧ read16 input (offset + 4) = 11
        ∧ (read16 input (offset + 6)).toNat = 64
        ∧ (read32 input (offset + 8)).toNat = n
        ∧ (read32 input (offset + 32)).toNat ≤ ksb11MaxSegmentPayload
        ∧ n = 68 + (read32 input (offset + 32)).toNat := by
  unfold frameLength
  split
  · rename_i hshort
    rw [ksb11HeaderLength] at hshort
    constructor
    · intro h
      cases h
    · rintro ⟨hlen, -, -, -, -, -, hn⟩
      omega
  · simp only [bind_eq_ok, reject_eq_ok, pure_eq_ok]
    simp only [not_or, not_not, Nat.not_lt, ksb11HeaderLength, ksb11TrailerLength]
    constructor
    · rintro ⟨_, hmagic, _, ⟨hversion, hheader⟩, _, ⟨hmax, hlength, -⟩, hn⟩
      split at hn
      · cases hn
      · rename_i hlt
        cases hn
        exact ⟨by omega, hmagic, hversion, hheader, rfl, hmax, by omega⟩
    · rintro ⟨hlen, hmagic, hversion, hheader, hn, hmax, hpayload⟩
      refine ⟨⟨⟩, hmagic, ⟨⟩, ⟨hversion, hheader⟩, ⟨⟩, ⟨hmax, by omega, by omega⟩, ?_⟩
      rw [if_neg (by omega), hn]

/-- The scanner stops at a segment that the input cuts short. -/
theorem frameLength_of_torn {w : WireSegment} (hw : w.Valid) {input : List UInt8} {offset : Nat}
    (hp : input.drop offset <+: w.bytes) (hlen : input.length - offset < w.length) :
    frameLength input offset = .ok none := by
  unfold frameLength
  split
  · rfl
  · rename_i hlong
    rw [ksb11HeaderLength] at hlong
    have hd : w.header <+: input.drop offset := by
      apply List.prefix_of_prefix_length_le _ hp
      · rw [WireSegment.length_header, List.length_drop]
        omega
      · exact ⟨w.payload ++ le32 w.crc, by
          rw [WireSegment.bytes, WireSegment.body, List.append_assoc]⟩
    obtain ⟨post, hpost⟩ := hd
    have hat := WireSegment.headerAt_of_drop hpost.symm
    have hpayload := hw.payload
    simp only [hat.magic, hat.version, hat.headerLength, hat.length, hat.payloadLength,
      hw.toNat_length, hw.toNat_payload_length]
    rw [if_pos (by omega)]
    simp only [bind_eq_ok, reject_eq_ok, pure_eq_ok]
    refine ⟨⟨⟩, fun h ↦ h rfl, ⟨⟩, ?_, ⟨⟩, ?_, trivial⟩
    · rintro (h | h)
      · exact h rfl
      · exact h rfl
    · rw [WireSegment.length, ksb11HeaderLength, ksb11TrailerLength]
      omega

/-- The scanner finds a segment that lies at the offset. -/
theorem frameLength_of_prefix {w : WireSegment} (hw : w.Valid) {input : List UInt8}
    {offset : Nat} (hp : w.bytes <+: input.drop offset) :
    frameLength input offset = .ok (some w.length) := by
  obtain ⟨hlen, hat, -, -⟩ := WireSegment.bytes_prefix_iff.mp hp
  rw [frameLength_eq_some, hat.length, hat.payloadLength, hw.toNat_length,
    hw.toNat_payload_length, hat.headerLength]
  exact ⟨hlen, hat.magic, hat.version, rfl, rfl, hw.payload, rfl⟩

/-- The identity that a segment's header holds is taken if it is valid and that of the
bundle. -/
theorem scanIdentity_eq_ok {input : List UInt8} {offset : Nat}
    {expected : Option SessionBundleIdentity} {identity : SessionBundleIdentity} :
    scanIdentity input offset expected = .ok identity ↔
      identity.isValid = true
        ∧ (∀ i ∈ expected, i = identity)
        ∧ read32 input (offset + 12) = identity.definition
        ∧ read32 input (offset + 16) = identity.actions
        ∧ read32 input (offset + 20) = identity.completedEvidence := by
  simp only [scanIdentity, bind_eq_ok, reject_eq_ok, pure_eq_ok]
  constructor
  · rintro ⟨_, hvalid, _, hsame, rfl⟩
    refine ⟨by simpa using hvalid, ?_, rfl, rfl, rfl⟩
    rintro i hi
    cases Option.mem_def.mp hi
    simp only [Option.any_some, bne_iff_ne, ne_eq, not_not] at hsame
    exact hsame.symm
  · rintro ⟨hvalid, hsame, hd, ha, hc⟩
    rw [hd, ha, hc]
    refine ⟨⟨⟩, by simp [hvalid], ⟨⟩, ?_, rfl⟩
    cases expected with
    | none => simp
    | some i => simp [hsame i rfl]

/-- The state after an ordinary segment. -/
def ScanState.advance (s : ScanState) (w : WireSegment) : ScanState :=
  { s with
    offset := s.offset + w.length
    expectedIdentity := some w.identity
    expectedSequence := if s.expectedSequence = 0xffffffff then 0xffffffff
      else s.expectedSequence + 1
    expectedPriorCrc := w.crc
    segments := s.segments ++ [⟨w.kind, w.payload⟩] }

@[simp] theorem ScanState.offset_advance (s : ScanState) (w : WireSegment) :
    (s.advance w).offset = s.offset + w.length := rfl

/-- A complete segment continues the chain that the scanner has read. -/
structure ScanState.Continues (s : ScanState) (input : List UInt8) (w : WireSegment) : Prop where
  valid : w.Valid
  identity : ∀ i ∈ s.expectedIdentity, i = w.identity
  sequence : w.sequence = s.expectedSequence
  priorCrc : w.priorCrc = s.expectedPriorCrc
  bytes : w.bytes <+: input.drop s.offset

/-- What the scanner does with a segment that continues the chain. -/
def ScanState.finish (s : ScanState) (input : List UInt8) (w : WireSegment) :
    Except SessionBundleError (ForInStep ScanState) :=
  if w.kind = .integrityManifest then do
    let t ← scanManifest input { s with expectedIdentity := some w.identity } w.length w.flags
      w.payload.length
    pure (.done t)
  else do
    reject (w.flags ≠ 0) .flags
    pure (.yield (s.advance w))

/-- A segment that continues the chain passes every check. -/
theorem takeSegment_eq {input : List UInt8} {s : ScanState} {w : WireSegment}
    (hw : s.Continues input w) : takeSegment input s w.length = s.finish input w := by
  obtain ⟨hlen, hat, hpayload, hcrc⟩ := WireSegment.bytes_prefix_iff.mp hw.bytes
  have hidentity : scanIdentity input s.offset s.expectedIdentity = .ok w.identity :=
    scanIdentity_eq_ok.mpr
      ⟨hw.valid.identity, hw.identity, hat.definition, hat.actions, hat.completedEvidence⟩
  have hsequence : ¬read32 input (s.offset + 24) ≠ s.expectedSequence :=
    fun h ↦ h (hat.sequence.trans hw.sequence)
  have hflags : ¬read16 input (s.offset + 30) &&& ~~~ksb11FlagFinal ≠ 0 :=
    fun h ↦ h (hat.flags ▸ hw.valid.flags)
  have hreserved : ¬((slice input (s.offset + 44) (s.offset + 64)).any (· != 0)) = true := by
    rw [hat.reserved]
    decide
  have hpl : (read32 input (s.offset + 32)).toNat = w.payload.length := by
    rw [hat.payloadLength, hw.valid.toNat_payload_length]
  have hcrcs : ¬(read32 input (s.offset + 36)
        ≠ crc32Ieee (slice input (s.offset + 64)
          (s.offset + 64 + (read32 input (s.offset + 32)).toNat))
      ∨ read32 input (s.offset + 40) ≠ s.expectedPriorCrc
      ∨ read32 input (s.offset + w.length - 4)
        ≠ crc32Ieee (slice input s.offset (s.offset + w.length - 4))) := by
    rw [hpl, hpayload]
    rintro (h | h | h)
    · exact h hat.payloadCrc
    · exact h (hat.priorCrc.trans hw.priorCrc)
    · exact h hcrc
  unfold takeSegment
  refine (bind_of_ok hidentity _).trans ?_
  refine (reject_bind hsequence _).trans ?_
  refine (bind_of_ok (SessionSegmentKind.parse_eq_ok.mpr hat.kind) _).trans ?_
  refine (reject_bind hflags _).trans ?_
  refine (reject_bind hreserved _).trans ?_
  refine (reject_bind hcrcs _).trans ?_
  rw [hat.flags, hpl, WireSegment.crc_at hw.bytes,
    show slice input (s.offset + ksb11HeaderLength)
      (s.offset + ksb11HeaderLength + w.payload.length) = w.payload from hpayload]
  rfl

/-- A segment that passes every check continues the chain. -/
theorem continues_of_takeSegment {input : List UInt8} {s : ScanState} {n : Nat}
    {r : ForInStep ScanState} (hframe : frameLength input s.offset = .ok (some n))
    (h : takeSegment input s n = .ok r) : ∃ w, n = w.length ∧ s.Continues input w := by
  obtain ⟨hlen, hmagic, hversion, hheader, hn, hmax, hpl⟩ := frameLength_eq_some.mp hframe
  simp only [takeSegment, bind_eq_ok, reject_eq_ok, SessionSegmentKind.parse_eq_ok] at h
  obtain ⟨identity, hidentity, _, hsequence, kind, hkind, _, hflags, _, hreserved, _, hcrcs, -⟩ := h
  simp only [not_or, not_not] at hsequence hflags hcrcs
  obtain ⟨hpayloadCrc, hpriorCrc, hcrc⟩ := hcrcs
  obtain ⟨hvalid, hsame, hdefinition, hactions, hcompleted⟩ := scanIdentity_eq_ok.mp hidentity
  have hpayload : (slice input (s.offset + 64)
      (s.offset + 64 + (read32 input (s.offset + 32)).toNat)).length
        = (read32 input (s.offset + 32)).toNat := by
    rw [length_slice (by omega)]
    omega
  let w : WireSegment := {
    identity := identity
    sequence := s.expectedSequence
    kind := kind
    flags := read16 input (s.offset + 30)
    priorCrc := s.expectedPriorCrc
    payload := slice input (s.offset + 64)
      (s.offset + 64 + (read32 input (s.offset + 32)).toNat) }
  have hlength : n = w.length := by rw [hpl, WireSegment.length, hpayload]
  refine ⟨w, hlength, ?_⟩
  have hat : w.HeaderAt input s.offset := {
    magic := hmagic
    version := hversion
    headerLength := UInt16.toNat_inj.mp hheader
    length := by rw [← hlength, ← hn, UInt32.ofNat_toNat]
    definition := hdefinition
    actions := hactions
    completedEvidence := hcompleted
    sequence := hsequence
    kind := hkind
    flags := rfl
    payloadLength := by rw [hpayload, UInt32.ofNat_toNat]
    payloadCrc := hpayloadCrc
    priorCrc := hpriorCrc
    reserved := by
      have hz := any_ne_zero_eq_false.mp (Bool.eq_false_iff.mpr hreserved)
      rwa [length_slice (by rw [ksb11HeaderLength]; omega),
        show s.offset + ksb11HeaderLength - (s.offset + 44) = 20 by
          rw [ksb11HeaderLength]; omega] at hz }
  exact {
    valid := ⟨hvalid, by rw [hpayload]; exact hmax, hflags⟩
    identity := hsame
    sequence := rfl
    priorCrc := rfl
    bytes := WireSegment.bytes_prefix_iff.mpr
      ⟨hlength ▸ hlen, hat, by rw [hpayload], hlength ▸ hcrc⟩ }

/-- A round of the scanner stops short of a torn segment, or takes in a segment that
lies at its offset and continues the chain. -/
theorem scanSegment_eq_ok {input : List UInt8} {s : ScanState} {r : ForInStep ScanState} :
    scanSegment input s = .ok r ↔
      (frameLength input s.offset = .ok none ∧ r = .done s)
        ∨ ∃ w, s.Continues input w ∧ s.finish input w = .ok r := by
  unfold scanSegment
  rw [bind_eq_ok]
  constructor
  · rintro ⟨o, hframe, h⟩
    cases o with
    | none => exact .inl ⟨hframe, (pure_eq_ok.mp h).symm⟩
    | some n =>
        obtain ⟨w, rfl, hw⟩ := continues_of_takeSegment hframe h
        exact .inr ⟨w, hw, (takeSegment_eq hw).symm.trans h⟩
  · rintro (⟨hframe, rfl⟩ | ⟨w, hw, h⟩)
    · exact ⟨none, hframe, rfl⟩
    · exact ⟨some w.length, frameLength_of_prefix hw.valid hw.bytes, (takeSegment_eq hw).trans h⟩

end Ksa64.Session
