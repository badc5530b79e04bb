import Ksa64.Presentation.Protocol
import Ksa64.Presentation.Stream

/-!
# What a client sends

The payloads that a client of a session may send: controls of its lifecycle and pace, cursors to
read on from, intents to act and requests for a range of the display.  The decoders of the other
kinds are a parameter of `decodeTypedPayload`, which keeps nothing of their result.
-/

namespace Ksa64.Presentation

open Ksa64.Library

inductive PresentationRole where
  | observer
  | guidedOperator
  | flightController
  | flightSoftwareEngineer
  | simDirector
  | scriptedOperator
deriving DecidableEq

def PresentationRole.permitsOperatorActions : PresentationRole → Bool
  | .guidedOperator | .flightController | .simDirector | .scriptedOperator => true
  | .observer | .flightSoftwareEngineer => false

inductive PresentationLifecycle where
  | compiled
  | ready
  | running
  | paused
  | completed
  | aborted
  | incomplete
deriving DecidableEq

def PresentationLifecycle.fromRaw : UInt8 → Option PresentationLifecycle
  | 1 => some .compiled
  | 2 => some .ready
  | 3 => some .running
  | 4 => some .paused
  | 5 => some .completed
  | 6 => some .aborted
  | 7 => some .incomplete
  | _ => none

inductive PresentationPace where
  | fast
  | realtime
  | paused
  | singleStep
deriving DecidableEq

def PresentationPace.fromRaw : UInt8 → Option PresentationPace
  | 1 => some .fast
  | 2 => some .realtime
  | 3 => some .paused
  | 4 => some .singleStep
  | _ => none

structure LifecycleControl where
  requested : PresentationLifecycle
  boundedReleases : UInt32
deriving DecidableEq

structure PaceControl where
  requested : PresentationPace
  boundedReleases : UInt32
deriving DecidableEq

structure PresentationCursors where
  snapshots : UInt64
  events : UInt64
  timeline : UInt64
  actionReceipts : UInt64
  releaseSamples : UInt64
deriving DecidableEq

def PresentationCursors.validate (c : PresentationCursors) : Except CursorError Unit :=
  reject (c.snapshots = 0 ∨ c.events = 0 ∨ c.timeline = 0 ∨ c.actionReceipts = 0
    ∨ c.releaseSamples = 0) .zero

inductive PresentationActionOperation where
  | review
  | stage
  | commit
  | cancel
deriving DecidableEq

def PresentationActionOperation.fromRaw : UInt8 → Option PresentationActionOperation
  | 1 => some .review
  | 2 => some .stage
  | 3 => some .commit
  | 4 => some .cancel
  | _ => none

inductive PresentationValueError where
  | identity
  | role
deriving DecidableEq

structure PresentationActionIntent where
  proposalIdentity : UInt32
  expectedLoadIdentity : UInt32
  operation : PresentationActionOperation
  requestedActivationEpoch : UInt32
  clientActionSequence : UInt64
deriving DecidableEq

def PresentationActionIntent.validate (intent : PresentationActionIntent)
    (role : PresentationRole) : Except PresentationValueError Unit := do
  reject (intent.proposalIdentity = 0 ∨ intent.clientActionSequence = 0) .identity
  reject (¬role.permitsOperatorActions) .role
  reject (intent.operation ≠ .review ∧ intent.expectedLoadIdentity = 0) .identity

def globalDisplayRangeMaxCount : UInt16 := 256

structure GlobalDisplayRangeRequestV1 where
  startRelease : UInt32
  maxCount : UInt16
deriving DecidableEq

def GlobalDisplayRangeRequestV1.validate (request : GlobalDisplayRangeRequestV1) :
    Except Kps1Error Unit :=
  reject (request.maxCount = 0 ∨ globalDisplayRangeMaxCount < request.maxCount) .cursor

/-! ## Reading a payload -/

def payloadHeaderLength : Nat := 12

structure PayloadReader where
  input : List UInt8
  position : Nat
deriving DecidableEq

namespace PayloadReader

abbrev Reads (α : Type) := StateT PayloadReader (Except Kps1Error) α

def new (input magic : List UInt8) : Except Kps1Error PayloadReader := do
  reject (input.length < payloadHeaderLength ∨ kps1MaxPayloadLength < input.length) .length
  reject (slice input 0 4 ≠ magic) .magic
  reject (read16 input 4 ≠ 1) .version
  reject ((read16 input 6).toNat ≠ payloadHeaderLength) .headerLength
  reject ((read32 input 8).toNat ≠ input.length) .length
  pure ⟨input, payloadHeaderLength⟩

def take (count : Nat) : Reads (List UInt8) := fun r ↦
  if r.input.length < r.position + count then .error .length
  else
    .ok (slice r.input r.position (r.position + count),
      { r with position := r.position + count })

def u8 : Reads UInt8 := (readByte · 0) <$> take 1
def u16 : Reads UInt16 := (read16 · 0) <$> take 2
def u32 : Reads UInt32 := (read32 · 0) <$> take 4

def reserved (count : Nat) : Reads Unit := do
  let bytes ← take count
  if bytes.any (· ≠ 0) then throw .reserved

def finish : Reads Unit := fun r ↦
  if r.position ≠ r.input.length then .error .length else .ok ((), r)

/-- The value of a raw byte. -/
def enum {α : Type} (fromRaw : UInt8 → Option α) : Reads α := do
  (fromRaw (← u8)).elim (throw .enum) pure

/-- Read a payload of the given magic. -/
def decode {α : Type} (magic : List UInt8) (fields : Reads α) (input : List UInt8) :
    Except Kps1Error α := do
  let reader ← new input magic
  let (value, _) ← fields.run reader
  pure value

end PayloadReader

open PayloadReader

def decodeLifecycleControl : List UInt8 → Except Kps1Error LifecycleControl :=
  decode [0x50, 0x4c, 0x43, 0x31] do
    let requested ← enum PresentationLifecycle.fromRaw
    reserved 3
    let boundedReleases ← u32
    finish
    pure ⟨requested, boundedReleases⟩

def decodePaceControl : List UInt8 → Except Kps1Error PaceControl :=
  decode [0x50, 0x50, 0x43, 0x31] do
    let requested ← enum PresentationPace.fromRaw
    reserved 3
    let boundedReleases ← u32
    finish
    pure ⟨requested, boundedReleases⟩

def decodeGlobalDisplayRangeRequestPayload (input : List UInt8) :
    Except Kps1Error GlobalDisplayRangeRequestV1 := do
  let value ← decode [0x50, 0x47, 0x52, 0x31] (do
    let startRelease ← u32
    let maxCount ← u16
    reserved 2
    finish
    pure ⟨startRelease, maxCount⟩) input
  value.validate
  pure value

def actionIntentPayloadLength : Nat := 32
def cursorsPayloadLength : Nat := 48

def parseActionIntentPayload (input : List UInt8) (role : PresentationRole) :
    Except Kps1Error PresentationActionIntent := do
  reject (input.length ≠ actionIntentPayloadLength) .length
  reject (slice input 0 4 ≠ [0x50, 0x41, 0x49, 0x31] ∨ read16 input 4 ≠ 1
    ∨ (read16 input 6).toNat ≠ actionIntentPayloadLength) .version
  reject ((slice input 17 20).any (· ≠ 0)) .reserved
  let operation ←
    (PresentationActionOperation.fromRaw (readByte input 16)).elim (throw .enum) pure
  let value : PresentationActionIntent :=
    { proposalIdentity := read32 input 8
      expectedLoadIdentity := read32 input 12
      operation := operation
      requestedActivationEpoch := read32 input 20
      clientActionSequence := read64 input 24 }
  (value.validate role).mapError fun
    | .role => .enum
    | .identity => .identity
  pure value

def parseCursorsPayload (input : List UInt8) : Except Kps1Error PresentationCursors := do
  reject (input.length ≠ cursorsPayloadLength) .length
  reject (slice input 0 4 ≠ [0x4b, 0x43, 0x52, 0x31] ∨ read16 input 4 ≠ 1
    ∨ (read16 input 6).toNat ≠ cursorsPayloadLength) .version
  let value : PresentationCursors :=
    { snapshots := read64 input 8
      events := read64 input 16
      timeline := read64 input 24
      actionReceipts := read64 input 32
      releaseSamples := read64 input 40 }
  value.validate.mapError fun _ ↦ .cursor
  pure value

/-- A payload, as far as a session looks at what its client sends. -/
inductive PresentationPayload where
  | lifecycleControl (control : LifecycleControl)
  | paceControl (control : PaceControl)
  | replayControl (cursors : PresentationCursors)
  | globalDisplayRangeRequest (request : GlobalDisplayRangeRequestV1)
  | actionIntent (intent : PresentationActionIntent)
  | other (kind : PresentationMessageKind)
deriving DecidableEq

/-- The decoders of the other kinds, as far as they fail. -/
abbrev OtherDecoders :=
  PresentationMessageKind → List UInt8 → PresentationRole → Except Kps1Error Unit

def decodeTypedPayload (decodeOther : OtherDecoders) (kind : PresentationMessageKind)
    (input : List UInt8) (role : PresentationRole) : Except Kps1Error PresentationPayload := do
  reject (kps1MaxPayloadLength < input.length) .payloadTooLarge
  match kind with
  | .lifecycleControl => .lifecycleControl <$> decodeLifecycleControl input
  | .paceControl => .paceControl <$> decodePaceControl input
  | .replayControl => .replayControl <$> parseCursorsPayload input
  | .globalDisplayRangeRequest =>
      .globalDisplayRangeRequest <$> decodeGlobalDisplayRangeRequestPayload input
  | .actionIntent => .actionIntent <$> parseActionIntentPayload input role
  | kind => do
      decodeOther kind input role
      pure (.other kind)

/-- The payload of a lifecycle control. -/
def lifecycleControlPayload (requested : UInt8) (boundedReleases : UInt32) : List UInt8 :=
  [0x50, 0x4c, 0x43, 0x31] ++ le16 1 ++ le16 12 ++ le32 20 ++ [requested, 0, 0, 0]
    ++ le32 boundedReleases

/-! ## Sealed evidence -/

def kps1EvidenceChunkDataMaxLength : Nat := kps1EvidenceChunkMaxLength - 36
def kps1EvidenceObjectMaxLength : UInt64 := 16 * 1024 * 1024

structure SealedEvidenceMetadata where
  evidenceIdentity : UInt32
  evidenceCrc32 : UInt32
  totalLength : UInt64
  chunkLength : UInt32
  chunkCount : UInt32
  complete : Bool
  contentKind : UInt8
deriving DecidableEq

def SealedEvidenceMetadata.validate (m : SealedEvidenceMetadata) : Except Kps1Error Unit := do
  reject (m.evidenceIdentity = 0 ∨ m.contentKind = 0) .identity
  reject (m.totalLength = 0 ∨ kps1EvidenceObjectMaxLength < m.totalLength) .evidenceObjectTooLarge
  reject (m.chunkLength = 0 ∨ kps1EvidenceChunkDataMaxLength < m.chunkLength.toNat)
    .evidenceChunkTooLarge
  -- the length, divided by that of a chunk and rounded up
  let expected := (m.totalLength.toNat + m.chunkLength.toNat - 1) / m.chunkLength.toNat
  reject (expected ≠ m.chunkCount.toNat ∨ m.chunkCount = 0) .chunkCount

structure SealedEvidenceChunk where
  evidenceIdentity : UInt32
  chunkIndex : UInt32
  chunkCount : UInt32
  logicalOffset : UInt64
  bytes : List UInt8
deriving DecidableEq

end Ksa64.Presentation
