import Ksa64.Library.Checked
import Ksa64.Library.Loop
import Ksa64.Interface.Codec
import Ksa64.Session.Sha256

/-!
# KSB11 session bundles

A bundle is a chain of segments, each with a header of 64 bytes, a payload and a CRC,
numbered from zero and linked by the CRC of the one before, and sealed by a manifest
segment that holds the length, the count and the digest of everything before it.  The
builder writes a bundle in one piece; the scanner reads what a crash may have left of
one.
-/

namespace Ksa64.Session

open Ksa64.Library Ksa64.Interface

def ksb11HeaderLength : Nat := 64
def ksb11TrailerLength : Nat := 4
def ksb11ManifestLength : Nat := 44
def ksb11MaxSegmentPayload : Nat := 16 * 1024 * 1024
def ksb11FlagFinal : UInt16 := 1
def ksb11Magic : List UInt8 := [0x4b, 0x53, 0x42, 0x31]
def ksm1Magic : List UInt8 := [0x4b, 0x53, 0x4d, 0x31]

inductive SessionSegmentKind where
  | sourceLedger
  | earthPack
  | environmentPack
  | vehiclePack
  | missionPack
  | avionicsPack
  | effectorPack
  | packageManifest
  | missionPlan
  | procedurePack
  | faultSchedule
  | groundObservations
  | canonicalTelemetry
  | predictionProducts
  | actionLog
  | packageJournal
  | procedureEvidence
  | debrief
  | integrityManifest
deriving DecidableEq, Repr

structure SessionBundleIdentity where
  definition : UInt32
  actions : UInt32
  completedEvidence : UInt32
deriving DecidableEq, Repr

structure SessionSegment where
  kind : SessionSegmentKind
  payload : List UInt8
deriving DecidableEq, Repr

structure SessionBundleScan where
  identity : SessionBundleIdentity
  segments : List SessionSegment
  validLength : Nat
  manifestSha256 : Option (List UInt8)
  sealed : Bool
  completed : Bool
deriving DecidableEq

inductive SessionBundleError where
  | io
  | length
  | magic
  | version
  | identity
  | sequence
  | kind
  | flags
  | reserved
  | checksum
  | manifest
deriving DecidableEq, Repr

namespace SessionSegmentKind

/-- The wire value of a kind. -/
def code : SessionSegmentKind → UInt16
  | .sourceLedger => 1
  | .earthPack => 2
  | .environmentPack => 3
  | .vehiclePack => 4
  | .missionPack => 5
  | .avionicsPack => 6
  | .effectorPack => 7
  | .packageManifest => 8
  | .missionPlan => 9
  | .procedurePack => 10
  | .faultSchedule => 11
  | .groundObservations => 12
  | .canonicalTelemetry => 13
  | .predictionProducts => 14
  | .actionLog => 15
  | .packageJournal => 16
  | .procedureEvidence => 17
  | .debrief => 18
  | .integrityManifest => 19

def parse (value : UInt16) : Except SessionBundleError SessionSegmentKind :=
  match value with
  | 1 => pure .sourceLedger
  | 2 => pure .earthPack
  | 3 => pure .environmentPack
  | 4 => pure .vehiclePack
  | 5 => pure .missionPack
  | 6 => pure .avionicsPack
  | 7 => pure .effectorPack
  | 8 => pure .packageManifest
  | 9 => pure .missionPlan
  | 10 => pure .procedurePack
  | 11 => pure .faultSchedule
  | 12 => pure .groundObservations
  | 13 => pure .canonicalTelemetry
  | 14 => pure .predictionProducts
  | 15 => pure .actionLog
  | 16 => pure .packageJournal
  | 17 => pure .procedureEvidence
  | 18 => pure .debrief
  | 19 => pure .integrityManifest
  | _ => throw .kind

/-- A word parses as a kind iff it is the kind's own. -/
theorem parse_eq_ok {value : UInt16} {kind : SessionSegmentKind} :
    parse value = .ok kind ↔ value = kind.code := by
  constructor
  · intro h
    unfold parse at h
    split at h
    all_goals first
      | exact Except.ok.inj h ▸ rfl
      | exact nomatch h
  · rintro rfl
    cases kind <;> rfl

end SessionSegmentKind

namespace SessionBundleIdentity

def isValid (identity : SessionBundleIdentity) : Bool :=
  identity.definition != 0
    && ((identity.actions == 0 && identity.completedEvidence == 0)
      || (identity.actions != 0 && identity.completedEvidence != 0))

def isCompleted (identity : SessionBundleIdentity) : Bool :=
  identity.actions != 0 && identity.completedEvidence != 0

end SessionBundleIdentity

/-! ## Building -/

def encodeSegment (identity : SessionBundleIdentity) (sequence : UInt32)
    (kind : SessionSegmentKind) (flags : UInt16) (priorCrc : UInt32) (payload : List UInt8) :
    Except SessionBundleError (List UInt8) := do
  reject
    (identity.isValid = false
      ∨ ksb11MaxSegmentPayload < payload.length
      ∨ flags &&& ~~~ksb11FlagFinal ≠ 0) .length
  let length := ksb11HeaderLength + payload.length + ksb11TrailerLength
  let output := List.replicate length 0
  let output := splice output 0 ksb11Magic
  let output := splice output 4 (le16 11)
  let output := splice output 6 (le16 (UInt16.ofNat ksb11HeaderLength))
  let output := splice output 8 (le32 (UInt32.ofNat length))
  let output := splice output 12 (le32 identity.definition)
  let output := splice output 16 (le32 identity.actions)
  let output := splice output 20 (le32 identity.completedEvidence)
  let output := splice output 24 (le32 sequence)
  let output := splice output 28 (le16 kind.code)
  let output := splice output 30 (le16 flags)
  let output := splice output 32 (le32 (UInt32.ofNat payload.length))
  let output := splice output 36 (le32 (crc32Ieee payload))
  let output := splice output 40 (le32 priorCrc)
  let output := splice output ksb11HeaderLength payload
  let crc := crc32Ieee (output.take (length - 4))
  pure (splice output (length - 4) (le32 crc))

/-- A builder holds what its calls have let in. -/
structure SessionBundleBuilder where
  identity : SessionBundleIdentity
  segments : List SessionSegment
  identity_isValid : identity.isValid = true
  segments_length_le : segments.length ≤ 65535
  kind_ne : ∀ segment ∈ segments, segment.kind ≠ .integrityManifest
  payload_length_le : ∀ segment ∈ segments, segment.payload.length ≤ ksb11MaxSegmentPayload

namespace SessionBundleBuilder

def new (identity : SessionBundleIdentity) : Except SessionBundleError SessionBundleBuilder :=
  if h : identity.isValid = true then
    pure {
      identity := identity
      segments := []
      identity_isValid := h
      segments_length_le := Nat.zero_le _
      kind_ne := by simp
      payload_length_le := by simp }
  else
    throw .identity

def push (builder : SessionBundleBuilder) (kind : SessionSegmentKind) (payload : List UInt8) :
    Except SessionBundleError SessionBundleBuilder :=
  if hk : kind = .integrityManifest ∨ 65535 ≤ builder.segments.length then
    throw .kind
  else if hp : ksb11MaxSegmentPayload < payload.length then
    throw .length
  else
    pure {
      identity := builder.identity
      segments := builder.segments ++ [⟨kind, payload⟩]
      identity_isValid := builder.identity_isValid
      segments_length_le := by
        rw [List.length_append]
        exact Nat.lt_of_not_le fun h ↦ hk (.inr h)
      kind_ne := by
        simp only [List.mem_append, List.mem_singleton]
        rintro segment (h | rfl)
        · exact builder.kind_ne segment h
        · exact fun h ↦ hk (.inl h)
      payload_length_le := by
        simp only [List.mem_append, List.mem_singleton]
        rintro segment (h | rfl)
        · exact builder.payload_length_le segment h
        · exact Nat.le_of_not_lt hp }

/-- The segments in order, each linked to the CRC of the one before. -/
def encodeSegments (identity : SessionBundleIdentity) :
    List SessionSegment → Nat → UInt32 → List UInt8 →
      Except SessionBundleError (UInt32 × List UInt8)
  | [], _, priorCrc, output => pure (priorCrc, output)
  | segment :: rest, sequence, priorCrc, output => do
      let bytes ← encodeSegment identity (UInt32.ofNat sequence) segment.kind 0 priorCrc
        segment.payload
      encodeSegments identity rest (sequence + 1) (read32 bytes (bytes.length - 4))
        (output ++ bytes)

def encode (builder : SessionBundleBuilder) : Except SessionBundleError (List UInt8) := do
  reject (builder.segments = []) .length
  let (priorCrc, output) ← encodeSegments builder.identity builder.segments 0 0 []
  let prefixSha256 := sha256 output
  let manifest := List.replicate ksb11ManifestLength 0
  let manifest := splice manifest 0 ksm1Magic
  let manifest := splice manifest 4 (le32 (UInt32.ofNat output.length))
  let manifest := splice manifest 8 (le32 (UInt32.ofNat builder.segments.length))
  let manifest := splice manifest 12 prefixSha256
  let finalSegment ← encodeSegment builder.identity (UInt32.ofNat builder.segments.length)
    .integrityManifest ksb11FlagFinal priorCrc manifest
  pure (output ++ finalSegment)

end SessionBundleBuilder

/-! ## Scanning -/

/-- The variables of the scanning loop. -/
structure ScanState where
  offset : Nat
  expectedIdentity : Option SessionBundleIdentity
  expectedSequence : UInt32
  expectedPriorCrc : UInt32
  segments : List SessionSegment
  manifestSha256 : Option (List UInt8)
  sealed : Bool
deriving DecidableEq

def ScanState.initial : ScanState where
  offset := 0
  expectedIdentity := none
  expectedSequence := 0
  expectedPriorCrc := 0
  segments := []
  manifestSha256 := none
  sealed := false

/-- The length of the segment at the offset, or none if the input ends within it. -/
def frameLength (input : List UInt8) (offset : Nat) :
    Except SessionBundleError (Option Nat) :=
  if input.length - offset < ksb11HeaderLength then
    pure none
  else do
    reject (slice input offset (offset + 4) ≠ ksb11Magic) .magic
    reject
      (read16 input (offset + 4) ≠ 11
        ∨ (read16 input (offset + 6)).toNat ≠ ksb11HeaderLength) .version
    let length := (read32 input (offset + 8)).toNat
    let payloadLength := (read32 input (offset + 32)).toNat
    reject
      (ksb11MaxSegmentPayload < payloadLength
        ∨ length ≠ ksb11HeaderLength + payloadLength + ksb11TrailerLength
        ∨ length < ksb11HeaderLength + ksb11TrailerLength) .length
    pure (if input.length < offset + length then none else some length)

/-- The identity of the segment at the offset, which has to be that of the bundle. -/
def scanIdentity (input : List UInt8) (offset : Nat)
    (expectedIdentity : Option SessionBundleIdentity) :
    Except SessionBundleError SessionBundleIdentity := do
  let identity : SessionBundleIdentity := {
    definition := read32 input (offset + 12)
    actions := read32 input (offset + 16)
    completedEvidence := read32 input (offset + 20) }
  reject (identity.isValid = false) .identity
  reject (expectedIdentity.any (identity != ·)) .identity
  pure identity

/-- Check the manifest segment at the offset against everything before it and seal. -/
def scanManifest (input : List UInt8) (s : ScanState) (length : Nat) (flags : UInt16)
    (payloadLength : Nat) : Except SessionBundleError ScanState := do
  let payloadStart := s.offset + ksb11HeaderLength
  reject
    (flags ≠ ksb11FlagFinal
      ∨ payloadLength ≠ ksb11ManifestLength
      ∨ slice input payloadStart (payloadStart + 4) ≠ ksm1Magic
      ∨ (read32 input (payloadStart + 4)).toNat ≠ s.offset
      ∨ read32 input (payloadStart + 8) ≠ UInt32.ofNat s.segments.length) .manifest
  let expectedHash := slice input (payloadStart + 12) (payloadStart + 44)
  reject
    (expectedHash ≠ sha256 (slice input 0 s.offset) ∨ s.offset + length ≠ input.length) .manifest
  pure { s with
    manifestSha256 := some expectedHash
    sealed := true
    offset := s.offset + length }

/-- Check the complete segment of the given length at the offset and take it in. -/
def takeSegment (input : List UInt8) (s : ScanState) (length : Nat) :
    Except SessionBundleError (ForInStep ScanState) := do
  let payloadLength := (read32 input (s.offset + 32)).toNat
  let identity ← scanIdentity input s.offset s.expectedIdentity
  let s := { s with expectedIdentity := some identity }
  reject (read32 input (s.offset + 24) ≠ s.expectedSequence) .sequence
  let kind ← SessionSegmentKind.parse (read16 input (s.offset + 28))
  let flags := read16 input (s.offset + 30)
  reject (flags &&& ~~~ksb11FlagFinal ≠ 0) .flags
  reject ((slice input (s.offset + 44) (s.offset + ksb11HeaderLength)).any (· != 0)) .reserved
  let payloadCrc := read32 input (s.offset + 36)
  let priorCrc := read32 input (s.offset + 40)
  let payloadStart := s.offset + ksb11HeaderLength
  let payloadEnd := payloadStart + payloadLength
  reject
    (payloadCrc ≠ crc32Ieee (slice input payloadStart payloadEnd)
      ∨ priorCrc ≠ s.expectedPriorCrc
      ∨ read32 input (s.offset + length - 4)
        ≠ crc32Ieee (slice input s.offset (s.offset + length - 4))) .checksum
  let segmentCrc := read32 input (s.offset + length - 4)
  if kind = .integrityManifest then
    let s ← scanManifest input s length flags payloadLength
    pure (.done s)
  else do
    reject (flags ≠ 0) .flags
    pure (.yield { s with
      segments := s.segments ++ [⟨kind, slice input payloadStart payloadEnd⟩]
      expectedPriorCrc := segmentCrc
      expectedSequence := if s.expectedSequence = 0xffffffff then 0xffffffff
        else s.expectedSequence + 1
      offset := s.offset + length })

/-- The body of the scanning loop: stop at a segment the input ends within, else take
the segment in. -/
def scanSegment (input : List UInt8) (s : ScanState) :
    Except SessionBundleError (ForInStep ScanState) := do
  match ← frameLength input s.offset with
  | none => pure (.done s)
  | some length => takeSegment input s length

/-- What the scanner reports of the loop's last state. -/
def ScanState.report (s : ScanState) : SessionBundleScan :=
  let identity := s.expectedIdentity.getD ⟨0, 0, 0⟩
  { identity := identity
    segments := s.segments
    validLength := s.offset
    manifestSha256 := s.manifestSha256
    sealed := s.sealed
    completed := s.sealed && identity.isCompleted }

/-- Every round of the loop moves the offset, so the rounds are bounded by the length
of the input. -/
def scanSessionBundle (input : List UInt8) : Except SessionBundleError SessionBundleScan := do
  let s ← loop (fun s ↦ s.offset < input.length) (scanSegment input) input.length
    ScanState.initial
  pure s.report

def verifyCompleteSession (input : List UInt8) :
    Except SessionBundleError SessionBundleScan := do
  let scan ← scanSessionBundle input
  reject (!scan.sealed ∨ !scan.completed ∨ scan.validLength ≠ input.length) .manifest
  reject
    (!scan.segments.any (·.kind == .debrief) ∨ !scan.segments.any (·.kind == .actionLog))
    .manifest
  pure scan

end Ksa64.Session
