import Ksa64.Library.Chunks
import Ksa64.Library.Words
import Ksa64.Library.Transcript
import Ksa64.Broker.Lan
import Ksa64.Broker.Network
import Ksa64.Broker.Session

/-!
# What the transports answer

A frame that is let in is answered with a receipt and with what has been published since the cursors
of the client, or with a range of the display; once the evidence of the session is complete, it is
sent too.  Each payload is encoded, framed under the next sequence of the session and handed to the
wire.

Both transports send the same payloads; they differ in their errors, and in when they take the
evidence for sent: the browser's transport once it has sent complete evidence, the paired one as
soon as any evidence has been published.
-/

namespace Ksa64.Broker

open Ksa64.Library
open Ksa64.Presentation
open Ksa64.Interface (crc32Ieee)

def kps1FlagResponse : UInt32 := 1
def presentationErrorResyncRequired : UInt16 := 1001
def presentationErrorCursorAhead : UInt16 := 1002
def evidenceMetadataPayloadLength : Nat := 48

/-- An authority whose displays can be looked into. -/
structure PresentingAuthority extends SessionAuthority where
  DisplayDefinition : Type
  DisplaySample : Type
  DisplayPath : Type
  DisplayTransition : Type
  ReplayIndex : Type
  DisplayCursorState : Type
  definition : GlobalDisplayPublication → DisplayDefinition
  samples : GlobalDisplayPublication → List DisplaySample
  paths : GlobalDisplayPublication → List DisplayPath
  transitions : GlobalDisplayPublication → List DisplayTransition
  replayIndex : GlobalDisplayPublication → ReplayIndex
  displayCursor : GlobalDisplayPublication → DisplayCursorState

structure PresentationErrorView where
  code : UInt16
  fatal : Bool
  detailIdentity : UInt32
  message : String
deriving DecidableEq

section Replies

variable (S : PresentingAuthority)

/-- A payload, as far as a session sends it. -/
inductive ServerPayload where
  | snapshot (value : S.Snapshot)
  | procedure (value : S.Procedure)
  | disposition (value : S.Disposition)
  | predictionPath (value : S.PredictionPath)
  | eventBatch (values : List S.Event)
  | timelineEvent (value : S.TimelineEvent)
  | actionReceipt (value : S.ActionReceiptView)
  | releaseSampleBatch (values : List S.ReleaseSample)
  | transportStatus (value : S.TransportStatus)
  | evidenceMetadata (value : SealedEvidenceMetadata)
  | evidenceChunk (value : SealedEvidenceChunk)
  | error (value : PresentationErrorView)
  | globalDisplayDefinition (value : S.DisplayDefinition)
  | globalDisplaySampleBatch (values : List S.DisplaySample)
  | globalDisplayPathChunk (value : S.DisplayPath)
  | globalDisplayTransition (value : S.DisplayTransition)
  | globalReplayIndex (value : S.ReplayIndex)
  | globalDisplayCursorState (value : S.DisplayCursorState)

variable {S}

def ServerPayload.kind : ServerPayload S → PresentationMessageKind
  | snapshot _ => .snapshot
  | procedure _ => .procedure
  | disposition _ => .disposition
  | predictionPath _ => .predictionPath
  | eventBatch _ => .eventBatch
  | timelineEvent _ => .timelineEvent
  | actionReceipt _ => .actionReceipt
  | releaseSampleBatch _ => .releaseSampleBatch
  | transportStatus _ => .transportStatus
  | evidenceMetadata _ => .evidenceMetadata
  | evidenceChunk _ => .evidenceChunk
  | error _ => .error
  | globalDisplayDefinition _ => .globalDisplayDefinition
  | globalDisplaySampleBatch _ => .globalDisplaySampleBatch
  | globalDisplayPathChunk _ => .globalDisplayPathChunk
  | globalDisplayTransition _ => .globalDisplayTransition
  | globalReplayIndex _ => .globalReplayIndex
  | globalDisplayCursorState _ => .globalDisplayCursorState

/-- What the writer leaves in the output. -/
def writeEvidenceMetadataPayload (value : SealedEvidenceMetadata) : Except Kps1Error (List UInt8) := do
  value.validate
  pure (Layout.fill evidenceMetadataPayloadLength
    [(0, .bytes [0x50, 0x45, 0x4d, 0x31]),
      (4, .word16 1),
      (6, .word16 (UInt16.ofNat evidenceMetadataPayloadLength)),
      (8, .word32 value.evidenceIdentity),
      (12, .word32 value.evidenceCrc32),
      (16, .word64 value.totalLength),
      (24, .word32 value.chunkLength),
      (28, .word32 value.chunkCount),
      (32, .byte (if value.complete then 1 else 0)),
      (33, .byte value.contentKind)])

/-- The encoders of the other payloads. -/
abbrev OtherEncoders (S : PresentingAuthority) :=
  ServerPayload S → PresentationRole → Except Kps1Error (List UInt8)

def encodeTypedPayload (encodeOther : OtherEncoders S) (payload : ServerPayload S)
    (role : PresentationRole) : Except Kps1Error (List UInt8) :=
  match payload with
  | .evidenceMetadata value => writeEvidenceMetadataPayload value
  | payload => encodeOther payload role

/-! ## Sending -/

variable (S) in
/-- What a transport calls: the broker, and the wire, which takes a frame or fails. -/
inductive TransportCall where
  | ask (command : WorkerCommand)
  | send (payload : ServerPayload S) (frame : List UInt8)

def TransportCall.Answer : TransportCall S → Type
  | ask command => command.Reply S.toSessionAuthority
  | send _ _ => Bool

/-- A session, as far as it is the same in both transports. -/
structure TransportSession where
  client : ClientSession
  sessionNonce : UInt64
  outboundSequence : UInt64
deriving DecidableEq

/-- The errors that a transport raises as it answers. -/
structure ReplyErrors (ε : Type) where
  encode : PresentationMessageKind → ε
  frameWrite : ε
  wire : ε
  sequenceOverflow : ε
  evidence : ε
  broker : BrokerError → ε

abbrev Replying (S : PresentingAuthority) (ε α : Type) :=
  Calls (TransportCall S) TransportCall.Answer (Attempt ε TransportSession α)

variable {ε α β : Type}

/-- Go on unless there is an error. -/
def Replying.bind (p : Replying S ε α) (next : α → TransportSession → Replying S ε β) :
    Replying S ε β :=
  p.andThen fun
    | (.ok a, s) => next a s
    | (.error error, s) => .done (.error error, s)

variable (encodeOther : OtherEncoders S) (errors : ReplyErrors ε)

def sendPayload (payload : ServerPayload S) (correlationId : UInt64) (flags : UInt32)
    (s : TransportSession) : Replying S ε Unit :=
  match encodeTypedPayload encodeOther payload s.client.role with
  | .error _ => .done (.error (errors.encode payload.kind), s)
  | .ok bytes =>
      let header : Kps1Header :=
        { kind := payload.kind
          flags := flags
          sessionNonce := s.sessionNonce
          sequence := s.outboundSequence
          correlationId := correlationId
          payloadLength := UInt32.ofNat bytes.length }
      match writeKps1Frame header bytes (List.replicate (kps1HeaderLength + bytes.length) 0) with
      | .error _ => .done (.error errors.frameWrite, s)
      | .ok frame =>
          .call (.send payload frame) fun
            | false => .done (.error errors.wire, s)
            | true =>
                match checkedAdd64 s.outboundSequence 1 with
                | none => .done (.error errors.sequenceOverflow, s)
                | some sequence => .done (.ok (), { s with outboundSequence := sequence })

/-- Send payloads that answer no request. -/
def sendPayloads : List (ServerPayload S) → TransportSession → Replying S ε Unit
  | [], s => .done (.ok (), s)
  | payload :: payloads, s =>
      (sendPayload encodeOther errors payload 0 0 s).bind fun _ s ↦ sendPayloads payloads s

/-- The payloads of a publication. -/
def publicationPayloads (publication : BrokerPublication S.toSessionAuthority) :
    List (ServerPayload S) :=
  .snapshot publication.snapshot
    :: (publication.procedure.toList.map .procedure
      ++ publication.disposition.toList.map .disposition
      ++ publication.predictionPaths.map .predictionPath
      ++ (if publication.events.records = [] then []
        else [.eventBatch (publication.events.records.map Sequenced.value)])
      ++ publication.timeline.records.map (fun record ↦ .timelineEvent record.value)
      ++ publication.actionReceipts.records.map (fun record ↦ .actionReceipt record.value)
      ++ (if publication.releaseSamples.records = [] then []
        else [.releaseSampleBatch (publication.releaseSamples.records.map Sequenced.value)])
      ++ [.transportStatus publication.transport]
      ++ publication.evidence.toList.map .evidenceMetadata)

/-- The payloads of a display, but for the last. -/
def displayPayloads (publication : S.GlobalDisplayPublication) : List (ServerPayload S) :=
  .globalDisplayDefinition (S.definition publication)
    :: ((if S.samples publication = [] then []
        else [.globalDisplaySampleBatch (S.samples publication)])
      ++ (S.paths publication).map .globalDisplayPathChunk
      ++ (S.transitions publication).map .globalDisplayTransition
      ++ [.globalReplayIndex (S.replayIndex publication)])

/-! ## Answering -/

/-- The flags of what is sent for a request, which is one that has a correlation. -/
def responseFlags (correlation : UInt64) : UInt32 := if correlation = 0 then 0 else kps1FlagResponse

/-- The client is told that its cursors are not among those that are kept. -/
def cursorErrorView (code : UInt16) (cursor : UInt64) (message : String) : PresentationErrorView where
  code := code
  fatal := false
  detailIdentity := if cursor.toNat < 2 ^ 32 then cursor.toUInt32 else 0xffffffff
  message := message

/-- The cursors behind a publication. -/
def cursorsAfter (publication : BrokerPublication S.toSessionAuthority) : PresentationCursors where
  snapshots := S.publicationSequence publication.snapshot
  events := publication.events.nextCursor
  timeline := publication.timeline.nextCursor
  actionReceipts := publication.actionReceipts.nextCursor
  releaseSamples := publication.releaseSamples.nextCursor

/-- Send what has been published since the cursors, and return the evidence that is part of it. -/
def publishSince (correlation : UInt64) (s : TransportSession) :
    Replying S ε (Option SealedEvidenceMetadata) :=
  let sendError (view : PresentationErrorView) : Replying S ε (Option SealedEvidenceMetadata) :=
    (sendPayload encodeOther errors (.error view) correlation (responseFlags correlation) s).bind
      fun _ s ↦ .done (.ok none, s)
  .call (.ask (.poll s.client.clientId s.client.clientCursors 256)) fun
    | .error (.cursor (.resyncRequired oldestAvailable)) =>
        sendError (cursorErrorView presentationErrorResyncRequired oldestAvailable
          s!"ResyncRequired: oldest cursor {oldestAvailable}")
    | .error (.cursor (.ahead nextAvailable)) =>
        sendError (cursorErrorView presentationErrorCursorAhead nextAvailable
          s!"cursor ahead: next cursor {nextAvailable}")
    | .error error => .done (.error (errors.broker error), s)
    | .ok publication =>
        (sendPayloads encodeOther errors (publicationPayloads publication) s).bind fun _ s ↦
          .done (.ok publication.evidence,
            { s with client := { s.client with clientCursors := cursorsAfter publication } })

/-- Answer a frame, up to the evidence. -/
def answer (correlation : UInt64) (s : TransportSession) (reply : ClientReply S.toBrokerAuthority) :
    Replying S ε (Option SealedEvidenceMetadata) :=
  match reply with
  | .publications => publishSince encodeOther errors correlation s
  | .receipt receipt =>
      (sendPayload encodeOther errors (.actionReceipt receipt) correlation kps1FlagResponse s).bind
        fun _ s ↦ publishSince encodeOther errors correlation s
  | .globalDisplay publication =>
      (sendPayloads encodeOther errors (displayPayloads publication) s).bind fun _ s ↦
        (sendPayload encodeOther errors (.globalDisplayCursorState (S.displayCursor publication))
          correlation kps1FlagResponse s).bind fun _ s ↦ .done (.ok none, s)

/-- Handle a frame, and answer it, up to the evidence. -/
def answerHandled {ε₀ : Type} (frameError : ε₀ → ε) (correlation : UInt64) (s : TransportSession)
    (handling : Handling S.toBrokerAuthority ε₀) : Replying S ε (Option SealedEvidenceMetadata) :=
  (handling.embed (fun command ↦ .ask (.session command)) fun _ reply ↦ reply).andThen fun
    | (.ok reply, client) => answer encodeOther errors correlation { s with client := client } reply
    | (.error error, client) => .done (.error (frameError error), { s with client := client })

/-- The chunks of the evidence, as they are sent. -/
def evidenceChunks (metadata : SealedEvidenceMetadata) (bytes : List UInt8) :
    List (ServerPayload S) :=
  (chunks metadata.chunkLength.toNat bytes).mapIdx fun index chunk ↦
    .evidenceChunk
      { evidenceIdentity := metadata.evidenceIdentity
        chunkIndex := UInt32.ofNat index
        chunkCount := metadata.chunkCount
        logicalOffset := UInt64.ofNat (index * metadata.chunkLength.toNat)
        bytes := chunk }

/-- Send the evidence that belongs to the metadata. -/
def sendEvidence (metadata : SealedEvidenceMetadata) (s : TransportSession) : Replying S ε Unit :=
  .call (.ask (.evidence s.client.clientId)) fun
    | .error error => .done (.error (errors.broker error), s)
    | .ok none => .done (.error errors.evidence, s)
    | .ok (some bytes) =>
        if UInt64.ofNat bytes.length ≠ metadata.totalLength
            ∨ crc32Ieee bytes ≠ metadata.evidenceCrc32 then
          .done (.error errors.evidence, s)
        else if metadata.chunkLength = 0
            ∨ kps1EvidenceChunkDataMaxLength < metadata.chunkLength.toNat then
          .done (.error errors.evidence, s)
        else if (chunks metadata.chunkLength.toNat bytes).length ≠ metadata.chunkCount.toNat then
          .done (.error errors.evidence, s)
        else sendPayloads encodeOther errors (evidenceChunks metadata bytes) s

/-- The correlation of a frame. -/
def correlationOf (bytes : List UInt8) : UInt64 :=
  match parseKps1Frame bytes with
  | .error _ => 0
  | .ok frame => frame.header.correlationId

/-! ## The browser's transport -/

/-- The errors of the browser's transport. -/
inductive WebsocketError where
  | frame (error : NetworkServiceError)
  | protocolEncode (kind : PresentationMessageKind)
  | protocolFrameWrite
  | webSocket
  | protocolSequenceOverflow
deriving DecidableEq

namespace WebsocketError

def replyErrors : ReplyErrors WebsocketError where
  encode := .protocolEncode
  frameWrite := .protocolFrameWrite
  wire := .webSocket
  sequenceOverflow := .protocolSequenceOverflow
  evidence := .frame .protocolPayload
  broker error := .frame (.broker error)

end WebsocketError

def sendWebsocketEvidence (metadata : SealedEvidenceMetadata) (s : TransportSession) :
    Replying S WebsocketError Unit :=
  match metadata.validate with
  | .error _ => .done (.error (.frame .protocolPayload), s)
  | .ok () => sendEvidence encodeOther WebsocketError.replyErrors metadata s

/-- The evidence is taken for sent once it has been. -/
def websocketEvidence (evidenceSent : Bool) (evidence : Option SealedEvidenceMetadata)
    (s : TransportSession) : Replying S WebsocketError Bool :=
  if evidenceSent then .done (.ok true, s)
  else
    match evidence with
    | none => .done (.ok false, s)
    | some metadata =>
        if metadata.complete then
          (sendWebsocketEvidence encodeOther metadata s).bind fun _ s ↦ .done (.ok true, s)
        else .done (.ok false, s)

def pollAndSendWebsocketPublication (evidenceSent : Bool) (s : TransportSession) :
    Replying S WebsocketError Bool :=
  (publishSince encodeOther WebsocketError.replyErrors 0 s).bind
    (websocketEvidence encodeOther evidenceSent)

def answerClientFrame (decodeOther : OtherDecoders) (bytes : List UInt8) (evidenceSent : Bool)
    (s : TransportSession) : Replying S WebsocketError Bool :=
  (answerHandled encodeOther WebsocketError.replyErrors .frame (correlationOf bytes) s
    (handleClientFrame decodeOther bytes s.client)).bind (websocketEvidence encodeOther evidenceSent)

/-! ## The paired transport -/

def PairedLanError.replyErrors : ReplyErrors PairedLanError where
  encode := .protocolEncode
  frameWrite := .protocolFrame
  wire := .io
  sequenceOverflow := .protocolSequenceOverflow
  evidence := .evidence
  broker := .broker

def sendSecureEvidence (metadata : SealedEvidenceMetadata) (s : TransportSession) :
    Replying S PairedLanError Unit :=
  match metadata.validate with
  | .error _ => .done (.error .evidence, s)
  | .ok () =>
      if ¬metadata.complete then .done (.ok (), s)
      else sendEvidence encodeOther PairedLanError.replyErrors metadata s

/-- The evidence is taken for sent once any has been published. -/
def secureEvidence (evidenceSent : Bool) (evidence : Option SealedEvidenceMetadata)
    (s : TransportSession) : Replying S PairedLanError Bool :=
  if evidenceSent then .done (.ok true, s)
  else
    match evidence with
    | none => .done (.ok false, s)
    | some metadata =>
        (sendSecureEvidence encodeOther metadata s).bind fun _ s ↦ .done (.ok true, s)

def pollAndSendSecurePublication (evidenceSent : Bool) (s : TransportSession) :
    Replying S PairedLanError Bool :=
  (publishSince encodeOther PairedLanError.replyErrors 0 s).bind
    (secureEvidence encodeOther evidenceSent)

def answerEncryptedClientFrame (decodeOther : OtherDecoders) (bytes : List UInt8)
    (evidenceSent : Bool) (s : TransportSession) : Replying S PairedLanError Bool :=
  (answerHandled encodeOther PairedLanError.replyErrors id (correlationOf bytes) s
    (handleEncryptedClientFrame decodeOther bytes s.client)).bind
      (secureEvidence encodeOther evidenceSent)

end Replies

end Ksa64.Broker
