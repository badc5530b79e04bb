import Ksa64.Library.Run
import Ksa64.Broker.Replies

/-!
# Both transports

Two sessions, one of each transport, get the same frames, each with a broker and a wire of its own
that are the same to begin with.  They make the same calls and send the same payloads as long as
complete evidence is not published after incomplete evidence: then only the browser's transport
sends the evidence (`transports_agree_iff`).
-/

namespace Ksa64.Broker

open Ksa64.Library
open Ksa64.Presentation
open Ksa64.Interface (crc32Ieee)

/-! ## The same but for the errors -/

section Outcomes

variable {ε ε' σ α β : Type}

/-- Both fail, or both have the same result in the same session. -/
def SameOutcome : Attempt ε σ α → Attempt ε' σ α → Prop
  | (.ok a, s), (.ok a', s') => a = a' ∧ s = s'
  | (.error _, _), (.error _, _) => True
  | _, _ => False

end Outcomes

section Alike

variable {S : PresentingAuthority} {ε ε' α β : Type}

open Calls (Alike)

theorem alike_bind {p : Replying S ε α} {q : Replying S ε' α} {next : α → TransportSession → Replying S ε β}
    {next' : α → TransportSession → Replying S ε' β} (h : Alike SameOutcome p q)
    (hnext : ∀ a s, Alike SameOutcome (next a s) (next' a s)) :
    Alike SameOutcome (p.bind next) (q.bind next') := by
  refine h.andThen fun x y hxy ↦ ?_
  rcases x with ⟨_ | a, s⟩ <;> rcases y with ⟨_ | a', s'⟩
  · exact .done trivial
  · exact hxy.elim
  · exact hxy.elim
  · obtain ⟨rfl, rfl⟩ := hxy
    exact hnext a s

variable (encodeOther : OtherEncoders S) (errors : ReplyErrors ε) (errors' : ReplyErrors ε')

theorem alike_sendPayload (payload : ServerPayload S) (correlationId : UInt64) (flags : UInt32)
    (s : TransportSession) :
    Alike SameOutcome (sendPayload encodeOther errors payload correlationId flags s)
      (sendPayload encodeOther errors' payload correlationId flags s) := by
  unfold sendPayload
  split
  · exact .done trivial
  · dsimp only
    split
    · exact .done trivial
    · refine .call fun delivered ↦ ?_
      cases delivered with
      | false => exact .done trivial
      | true =>
          dsimp only
          split
          · exact .done trivial
          · exact .done ⟨rfl, rfl⟩

theorem alike_sendPayloads (payloads : List (ServerPayload S)) (s : TransportSession) :
    Alike SameOutcome (sendPayloads encodeOther errors payloads s)
      (sendPayloads encodeOther errors' payloads s) := by
  induction payloads generalizing s with
  | nil => exact .done ⟨rfl, rfl⟩
  | cons payload payloads ih =>
      exact alike_bind (alike_sendPayload ..) fun _ s ↦ ih s

theorem alike_publishSince (correlation : UInt64) (s : TransportSession) :
    Alike SameOutcome (publishSince encodeOther errors correlation s)
      (publishSince encodeOther errors' correlation s) := by
  have herror (view : PresentationErrorView) (flags : UInt32) :
      Alike SameOutcome
        ((sendPayload encodeOther errors (.error view) correlation flags s).bind fun _ s ↦
          (.done (.ok none, s) : Replying S ε (Option SealedEvidenceMetadata)))
        ((sendPayload encodeOther errors' (.error view) correlation flags s).bind fun _ s ↦
          .done (.ok none, s)) :=
    alike_bind (alike_sendPayload ..) fun _ s ↦ .done ⟨rfl, rfl⟩
  refine .call fun reply ↦ ?_
  rcases reply with error | publication
  · cases error with
    | cursor error =>
        cases error with
        | resyncRequired oldestAvailable => exact herror _ _
        | ahead nextAvailable => exact herror _ _
        | _ => exact .done trivial
    | _ => exact .done trivial
  · exact alike_bind (alike_sendPayloads ..) fun _ s ↦ .done ⟨rfl, rfl⟩

theorem alike_answer (correlation : UInt64) (s : TransportSession)
    (reply : ClientReply S.toBrokerAuthority) :
    Alike SameOutcome (answer encodeOther errors correlation s reply)
      (answer encodeOther errors' correlation s reply) := by
  cases reply with
  | publications => exact alike_publishSince ..
  | receipt receipt =>
      exact alike_bind (alike_sendPayload ..) fun _ s ↦ alike_publishSince ..
  | globalDisplay publication =>
      refine alike_bind (alike_sendPayloads ..) fun _ s ↦ ?_
      exact alike_bind (alike_sendPayload ..) fun _ s ↦ .done ⟨rfl, rfl⟩

theorem alike_sendEvidence (metadata : SealedEvidenceMetadata) (s : TransportSession) :
    Alike SameOutcome (sendEvidence encodeOther errors metadata s)
      (sendEvidence encodeOther errors' metadata s) := by
  refine .call fun reply ↦ ?_
  rcases reply with error | _ | bytes
  · exact .done trivial
  · exact .done trivial
  · dsimp only
    split_ifs with hobject hchunk hcount
    · exact .done trivial
    · exact .done trivial
    · exact .done trivial
    · exact alike_sendPayloads ..

end Alike

/-! ## Frames -/

section Frames

variable {A : BrokerAuthority} {ε ε' : Type} {errors : TransportErrors ε}
  {errors' : TransportErrors ε'} {s : ClientSession}

open Calls (Alike)

theorem alike_ask {command : BrokerCommand} {next : command.Value A → Handling A ε}
    {next' : command.Value A → Handling A ε'} (h : ∀ value, Alike SameOutcome (next value) (next' value)) :
    Alike SameOutcome (errors.ask s command next) (errors'.ask s command next') := by
  refine .call fun reply ↦ ?_
  cases reply with
  | error error => exact .done trivial
  | ok value => exact h value

theorem alike_paceControl (maxReleases : UInt32) (control : PaceControl) :
    Alike SameOutcome (errors.paceControl s maxReleases control : Handling A ε)
      (errors'.paceControl s maxReleases control) := by
  unfold TransportErrors.paceControl
  split_ifs with hmax hstep hsome
  · exact .done trivial
  · exact alike_ask fun _ ↦ .done ⟨rfl, rfl⟩
  · exact alike_ask fun _ ↦ alike_ask fun _ ↦ .done ⟨rfl, rfl⟩
  · exact alike_ask fun _ ↦ .done ⟨rfl, rfl⟩

theorem alike_globalDisplayRangeRequest (request : GlobalDisplayRangeRequestV1) :
    Alike SameOutcome (errors.globalDisplayRangeRequest s request : Handling A ε)
      (errors'.globalDisplayRangeRequest s request) := by
  unfold TransportErrors.globalDisplayRangeRequest
  split
  · exact .done trivial
  · refine alike_ask fun publication ↦ ?_
    cases publication with
    | none => exact .done trivial
    | some publication => exact .done ⟨rfl, rfl⟩

theorem alike_handleClientPayload (payload : PresentationPayload) :
    Alike SameOutcome (handleClientPayload s payload : Handling A NetworkServiceError)
      (handleEncryptedClientPayload s payload) := by
  cases payload with
  | replayControl cursors => exact .done ⟨rfl, rfl⟩
  | lifecycleControl control =>
      -- only the order of the two tests differs
      refine alike_ask fun _ ↦ ?_
      by_cases hsome : 0 < control.boundedReleases
      · rw [if_pos hsome, if_pos hsome]
        by_cases hmax : maxControlAdvanceReleases < control.boundedReleases
        · rw [if_pos hmax, if_pos (show lanMaxControlAdvanceReleases < _ from hmax)]
          exact .done trivial
        · rw [if_neg hmax, if_neg (show ¬lanMaxControlAdvanceReleases < _ from hmax)]
          exact alike_ask fun _ ↦ .done ⟨rfl, rfl⟩
      · have hmax : ¬lanMaxControlAdvanceReleases < control.boundedReleases :=
          fun hmax ↦ hsome (UInt32.lt_of_le_of_lt (UInt32.zero_le) hmax)
        rw [if_neg hsome, if_neg hsome, if_neg hmax]
        exact .done ⟨rfl, rfl⟩
  | paceControl control => exact alike_paceControl _ control
  | actionIntent intent => exact alike_ask fun receipt ↦ .done ⟨rfl, rfl⟩
  | globalDisplayRangeRequest request => exact alike_globalDisplayRangeRequest request
  | other kind => exact .done trivial

/-- Both transports let the same frames in, and handle them alike. -/
theorem alike_handleClientFrame (decodeOther : OtherDecoders) (bytes : List UInt8)
    (s : ClientSession) :
    Alike SameOutcome (handleClientFrame decodeOther bytes s : Handling A NetworkServiceError)
      (handleEncryptedClientFrame decodeOther bytes s) := by
  rcases @handleClientFrame_cases A decodeOther bytes s with
    ⟨error, s', hweb⟩ | ⟨payload, s', hadmits, hweb⟩
  · rcases @handleEncryptedClientFrame_cases A decodeOther bytes s with
      ⟨error', s'', hlan⟩ | ⟨payload, s'', hadmits, hlan⟩
    · rw [hweb, hlan]
      exact .done trivial
    · rw [hlan, handleClientFrame_of_admits hadmits]
      exact alike_handleClientPayload payload
  · rw [hweb, handleEncryptedClientFrame_of_admits hadmits]
    exact alike_handleClientPayload payload

end Frames

section Answers

variable {S : PresentingAuthority} {encodeOther : OtherEncoders S} {ε ε' ε₀ ε₀' : Type}

open Calls (Alike)

theorem alike_answerHandled (errors : ReplyErrors ε) (errors' : ReplyErrors ε') (frameError : ε₀ → ε)
    (frameError' : ε₀' → ε') (correlation : UInt64) (s : TransportSession)
    {handling : Handling S.toBrokerAuthority ε₀} {handling' : Handling S.toBrokerAuthority ε₀'}
    (h : Alike SameOutcome handling handling') :
    Alike SameOutcome (answerHandled encodeOther errors frameError correlation s handling)
      (answerHandled encodeOther errors' frameError' correlation s handling') := by
  refine (h.embed _ _).andThen fun x y hxy ↦ ?_
  rcases x with ⟨_ | reply, client⟩ <;> rcases y with ⟨_ | reply', client'⟩
  · exact .done trivial
  · exact hxy.elim
  · exact hxy.elim
  · obtain ⟨rfl, rfl⟩ := hxy
    exact alike_answer ..

/-- The result is an error, or as it should be. -/
def OkThen {σ α : Type} (post : α → Prop) (result : Attempt ε σ α) : Prop :=
  ∀ a, result.1 = .ok a → post a

theorem returns_bind {α β : Type} {post : α → Prop} {post' : β → Prop} {p : Replying S ε α}
    {next : α → TransportSession → Replying S ε β} (h : p.Returns (OkThen post))
    (hnext : ∀ a s, post a → (next a s).Returns (OkThen post')) :
    (p.bind next).Returns (OkThen post') := by
  refine h.andThen fun x hx ↦ ?_
  rcases x with ⟨_ | a, s⟩
  · exact fun _ heq ↦ nomatch heq
  · exact hnext a s (hx a rfl)

variable {errors : ReplyErrors ε}

/-- Metadata that is sent is valid. -/
theorem returns_sendPayload (payload : ServerPayload S) (correlationId : UInt64) (flags : UInt32)
    (s : TransportSession) :
    (sendPayload encodeOther errors payload correlationId flags s).Returns
      (OkThen fun _ ↦ ∀ metadata, payload = .evidenceMetadata metadata → metadata.validate = .ok ()) := by
  unfold sendPayload
  split
  · exact fun _ heq ↦ nomatch heq
  · rename_i bytes hencode
    have hvalid : ∀ metadata, payload = .evidenceMetadata metadata → metadata.validate = .ok () := by
      rintro metadata rfl
      obtain ⟨_, hvalidate, -⟩ := bind_eq_ok.mp hencode
      exact hvalidate
    dsimp only
    split
    · exact fun _ heq ↦ nomatch heq
    · intro delivered
      cases delivered with
      | false => exact fun _ heq ↦ nomatch heq
      | true =>
          dsimp only
          split
          · exact fun _ heq ↦ nomatch heq
          · exact fun _ _ ↦ hvalid

theorem returns_sendPayloads (payloads : List (ServerPayload S)) (s : TransportSession) :
    (sendPayloads encodeOther errors payloads s).Returns
      (OkThen fun _ ↦ ∀ metadata, .evidenceMetadata metadata ∈ payloads → metadata.validate = .ok ()) := by
  induction payloads generalizing s with
  | nil => exact fun _ _ _ hmem ↦ nomatch hmem
  | cons payload payloads ih =>
      refine returns_bind (returns_sendPayload ..) fun _ s hpayload ↦ (ih s).mono ?_
      intro result hrest a heq metadata hmem
      rcases List.mem_cons.mp hmem with rfl | hmem
      · exact hpayload metadata rfl
      · exact hrest a heq metadata hmem

/-- Evidence that is published is valid. -/
def ValidEvidence (evidence : Option SealedEvidenceMetadata) : Prop :=
  ∀ metadata ∈ evidence, metadata.validate = .ok ()

theorem returns_none {p : Replying S ε Unit} :
    (p.bind fun _ s ↦ (.done (.ok none, s) : Replying S ε (Option SealedEvidenceMetadata))).Returns
      (OkThen ValidEvidence) := by
  refine @returns_bind _ _ _ _ (fun _ ↦ True) _ _ _ ?_ fun _ s _ ↦ ?_
  · induction p with
    | done result => exact fun _ _ ↦ trivial
    | call command next ih => exact fun answer ↦ ih answer
  · rintro _ heq _ hmem
    cases heq
    cases hmem

theorem evidenceMetadata_mem {publication : BrokerPublication S.toSessionAuthority}
    {metadata : SealedEvidenceMetadata} (h : metadata ∈ publication.evidence) :
    .evidenceMetadata metadata ∈ publicationPayloads publication := by
  refine List.mem_cons_of_mem _ (List.mem_append_right _ ?_)
  exact List.mem_map_of_mem (Option.mem_toList.mpr h)

theorem returns_publishSince (correlation : UInt64) (s : TransportSession) :
    (publishSince encodeOther errors correlation s).Returns (OkThen ValidEvidence) := by
  intro reply
  rcases reply with error | publication
  · cases error with
    | cursor error =>
        cases error with
        | resyncRequired oldestAvailable => exact returns_none
        | ahead nextAvailable => exact returns_none
        | _ => exact fun _ heq ↦ nomatch heq
    | _ => exact fun _ heq ↦ nomatch heq
  · refine returns_bind (returns_sendPayloads ..) fun _ s hvalid ↦ ?_
    rintro _ heq metadata hmem
    cases heq
    exact hvalid metadata (evidenceMetadata_mem hmem)

theorem returns_answer (correlation : UInt64) (s : TransportSession)
    (reply : ClientReply S.toBrokerAuthority) :
    (answer encodeOther errors correlation s reply).Returns (OkThen ValidEvidence) := by
  cases reply with
  | publications => exact returns_publishSince correlation s
  | receipt receipt =>
      exact returns_bind (returns_sendPayload ..) fun _ s _ ↦ returns_publishSince correlation s
  | globalDisplay publication =>
      exact returns_bind (returns_sendPayloads ..) fun _ s _ ↦ returns_none

theorem returns_answerHandled (frameError : ε₀ → ε) (correlation : UInt64) (s : TransportSession)
    (handling : Handling S.toBrokerAuthority ε₀) :
    (answerHandled encodeOther errors frameError correlation s handling).Returns
      (OkThen ValidEvidence) := by
  unfold answerHandled
  induction handling with
  | done result =>
      rcases result with ⟨_ | reply, client⟩
      · exact fun _ heq ↦ nomatch heq
      · exact returns_answer correlation _ reply
  | call command next ih => exact fun answer ↦ ih answer

/-! ## The evidence -/

/-- Both fail, or the session is the same and the paired transport takes the evidence for sent if
the browser's does. -/
def EvidenceOutcome : Attempt ε TransportSession Bool → Attempt ε' TransportSession Bool → Prop
  | (.ok sent, s), (.ok sent', s') => s = s' ∧ (sent → sent')
  | (.error _, _), (.error _, _) => True
  | _, _ => False

/-- There is complete evidence to send, but only one of the transports has not taken it for sent. -/
def Overtaken (sent sent' : Bool) (evidence : Option SealedEvidenceMetadata) : Prop :=
  sent = false ∧ sent' = true ∧ ∃ metadata ∈ evidence, metadata.complete

theorem websocketEvidence_some {metadata : SealedEvidenceMetadata} {s : TransportSession}
    (h : metadata.validate = .ok ()) :
    websocketEvidence encodeOther false (some metadata) s =
      if metadata.complete then
        (sendEvidence encodeOther WebsocketError.replyErrors metadata s).bind fun _ s ↦
          .done (.ok true, s)
      else .done (.ok false, s) := by
  have hsend : sendWebsocketEvidence encodeOther metadata s =
      sendEvidence encodeOther WebsocketError.replyErrors metadata s := by
    rw [sendWebsocketEvidence, h]
  rw [← hsend]
  rfl

theorem secureEvidence_some {metadata : SealedEvidenceMetadata} {s : TransportSession}
    (h : metadata.validate = .ok ()) :
    secureEvidence encodeOther false (some metadata) s =
      if metadata.complete then
        (sendEvidence encodeOther PairedLanError.replyErrors metadata s).bind fun _ s ↦
          .done (.ok true, s)
      else .done (.ok true, s) := by
  have hsend : sendSecureEvidence encodeOther metadata s =
      if ¬metadata.complete then .done (.ok (), s)
      else sendEvidence encodeOther PairedLanError.replyErrors metadata s := by
    rw [sendSecureEvidence, h]
  show (sendSecureEvidence encodeOther metadata s).bind _ = _
  rw [hsend]
  by_cases hcomplete : metadata.complete
  · rw [if_neg (not_not.mpr hcomplete), if_pos hcomplete]
  · rw [if_pos hcomplete, if_neg hcomplete]
    rfl

theorem alike_evidence {sent sent' : Bool} {evidence : Option SealedEvidenceMetadata}
    {s : TransportSession} (hsent : sent → sent') (hvalid : ValidEvidence evidence)
    (h : ¬Overtaken sent sent' evidence) :
    Alike EvidenceOutcome (websocketEvidence encodeOther sent evidence s)
      (secureEvidence encodeOther sent' evidence s) := by
  cases sent with
  | true =>
      obtain rfl := hsent rfl
      exact .done ⟨rfl, id⟩
  | false =>
      cases evidence with
      | none =>
          cases sent' with
          | false => exact .done ⟨rfl, id⟩
          | true => exact .done ⟨rfl, fun _ ↦ rfl⟩
      | some metadata =>
          have hvalidate := hvalid metadata rfl
          rw [websocketEvidence_some hvalidate]
          cases sent' with
          | true =>
              have hincomplete : ¬metadata.complete := fun hcomplete ↦
                h ⟨rfl, rfl, metadata, rfl, hcomplete⟩
              rw [if_neg hincomplete]
              exact .done ⟨rfl, fun _ ↦ rfl⟩
          | false =>
              rw [secureEvidence_some hvalidate]
              split_ifs with hcomplete
              · refine Alike.andThen (alike_sendEvidence ..) fun x y hxy ↦ ?_
                rcases x with ⟨_ | _, s⟩ <;> rcases y with ⟨_ | _, s'⟩
                · exact .done trivial
                · exact hxy.elim
                · exact hxy.elim
                · exact .done ⟨hxy.2, id⟩
              · exact .done ⟨rfl, fun _ ↦ rfl⟩

theorem transcript_of_overtaken {σ : Type}
    (answerCall : (call : TransportCall S) → σ → call.Answer × σ) {sent sent' : Bool}
    {evidence : Option SealedEvidenceMetadata} {s : TransportSession} (hvalid : ValidEvidence evidence)
    (h : Overtaken sent sent' evidence) (world : σ) :
    (websocketEvidence encodeOther sent evidence s).transcript answerCall world ≠
      (secureEvidence encodeOther sent' evidence s).transcript answerCall world := by
  obtain ⟨rfl, rfl, metadata, hmetadata, hcomplete⟩ := h
  obtain rfl := hmetadata
  rw [websocketEvidence_some (hvalid metadata rfl), if_pos hcomplete]
  exact List.cons_ne_nil _ _

end Answers

/-! ## Runs -/

section Runs

variable {S : PresentingAuthority} {σ : Type}

/-- The publication after the handshake, and a frame of the client. -/
inductive TransportEvent where
  | opened
  | frame (bytes : List UInt8)
deriving DecidableEq

/-- A session and whether it takes the evidence for sent, with the broker and the wire that it calls.
A session that has failed is closed. -/
structure Connection (σ : Type) where
  session : Option (TransportSession × Bool)
  world : σ

/-- One connection of each transport. -/
structure Transports (σ : Type) where
  websocket : Connection σ
  secure : Connection σ

/-- Two connections of the same session in the same world. -/
def Transports.start (s : TransportSession) (world : σ) : Transports σ :=
  ⟨⟨some (s, false), world⟩, ⟨some (s, false), world⟩⟩

variable (encodeOther : OtherEncoders S) (decodeOther : OtherDecoders)

def websocketPublication (s : TransportSession) :
    TransportEvent → Replying S WebsocketError (Option SealedEvidenceMetadata)
  | .opened => publishSince encodeOther WebsocketError.replyErrors 0 s
  | .frame bytes =>
      answerHandled encodeOther WebsocketError.replyErrors .frame (correlationOf bytes) s
        (handleClientFrame decodeOther bytes s.client)

def securePublication (s : TransportSession) :
    TransportEvent → Replying S PairedLanError (Option SealedEvidenceMetadata)
  | .opened => publishSince encodeOther PairedLanError.replyErrors 0 s
  | .frame bytes =>
      answerHandled encodeOther PairedLanError.replyErrors id (correlationOf bytes) s
        (handleEncryptedClientFrame decodeOther bytes s.client)

def websocketProgram (sent : Bool) (s : TransportSession) : TransportEvent → Replying S WebsocketError Bool
  | .opened => pollAndSendWebsocketPublication encodeOther sent s
  | .frame bytes => answerClientFrame encodeOther decodeOther bytes sent s

def secureProgram (sent : Bool) (s : TransportSession) : TransportEvent → Replying S PairedLanError Bool
  | .opened => pollAndSendSecurePublication encodeOther sent s
  | .frame bytes => answerEncryptedClientFrame encodeOther decodeOther bytes sent s

variable (answerCall : (call : TransportCall S) → σ → call.Answer × σ)

/-- The session that is left, unless it has failed. -/
def sessionAfter {ε : Type} : Attempt ε TransportSession Bool → Option (TransportSession × Bool)
  | (.ok sent, s) => some (s, sent)
  | (.error _, _) => none

/-- What is called and sent for an event, and the connection behind it. -/
def Connection.serve {ε : Type} (program : Bool → TransportSession → Replying S ε Bool)
    (c : Connection σ) : List (TransportCall S) × Connection σ :=
  match c.session with
  | none => ([], c)
  | some (s, sent) =>
      ((program sent s).transcript answerCall c.world,
        ⟨sessionAfter ((program sent s).run answerCall c.world).1,
          ((program sent s).run answerCall c.world).2⟩)

namespace Transports

variable (t : Transports σ) (e : TransportEvent)

def step : Transports σ where
  websocket :=
    (t.websocket.serve answerCall fun sent s ↦ websocketProgram encodeOther decodeOther sent s e).2
  secure := (t.secure.serve answerCall fun sent s ↦ secureProgram encodeOther decodeOther sent s e).2

/-- Both transports make the same calls of the broker, and send the same payloads, in the same
order. -/
def Agrees : Prop :=
  (t.websocket.serve answerCall fun sent s ↦ websocketProgram encodeOther decodeOther sent s e).1 =
    (t.secure.serve answerCall fun sent s ↦ secureProgram encodeOther decodeOther sent s e).1

/-- Complete evidence is published to sessions of which only the paired one takes it for sent: it has
had incomplete evidence published before. -/
def PublishesLate : Prop :=
  ∃ s s' evidence sent sent', t.websocket.session = some (s, sent) ∧ t.secure.session = some (s, sent')
    ∧ ((websocketPublication encodeOther decodeOther s e).run answerCall t.websocket.world).1 =
      (.ok evidence, s')
    ∧ Overtaken sent sent' evidence

/-- Both worlds are the same, and the sessions are, but for what they take for sent: the paired one
takes the evidence for sent if the browser's does. -/
def InStep : Prop :=
  t.websocket.world = t.secure.world
    ∧ ((t.websocket.session = none ∧ t.secure.session = none)
      ∨ ∃ s sent sent', t.websocket.session = some (s, sent) ∧ t.secure.session = some (s, sent')
        ∧ (sent → sent'))

variable {encodeOther decodeOther answerCall t e}

theorem alike_publication (s : TransportSession) (e : TransportEvent) :
    Calls.Alike SameOutcome (websocketPublication encodeOther decodeOther s e)
      (securePublication encodeOther decodeOther s e) := by
  cases e with
  | opened => exact alike_publishSince ..
  | frame bytes => exact alike_answerHandled _ _ _ _ _ _ (alike_handleClientFrame ..)

theorem returns_publication (s : TransportSession) (e : TransportEvent) :
    (websocketPublication encodeOther decodeOther s e).Returns (OkThen ValidEvidence) := by
  cases e with
  | opened => exact returns_publishSince 0 s
  | frame bytes => exact returns_answerHandled _ _ s _

theorem inStep_after {ε ε' : Type} {world world' : σ} {result : Attempt ε TransportSession Bool}
    {result' : Attempt ε' TransportSession Bool} (h : EvidenceOutcome result result')
    (hworld : world = world') :
    InStep ⟨⟨sessionAfter result, world⟩, ⟨sessionAfter result', world'⟩⟩ := by
  refine ⟨hworld, ?_⟩
  rcases result with ⟨_ | sent, s⟩ <;> rcases result' with ⟨_ | sent', s'⟩
  · exact .inl ⟨rfl, rfl⟩
  · exact h.elim
  · exact h.elim
  · obtain ⟨rfl, hsent⟩ := h
    exact .inr ⟨s, sent, sent', rfl, rfl, hsent⟩

theorem publishesLate_open_iff {s : TransportSession} {sent sent' : Bool} {world : σ} :
    PublishesLate encodeOther decodeOther answerCall
        ⟨⟨some (s, sent), world⟩, ⟨some (s, sent'), world⟩⟩ e ↔
      ∃ evidence s', ((websocketPublication encodeOther decodeOther s e).run answerCall world).1 =
          (.ok evidence, s')
        ∧ Overtaken sent sent' evidence := by
  constructor
  · rintro ⟨_, s', evidence, _, _, hsession, hsession', hpublished, hovertaken⟩
    cases hsession
    cases hsession'
    exact ⟨evidence, s', hpublished, hovertaken⟩
  · rintro ⟨evidence, s', hpublished, hovertaken⟩
    exact ⟨s, s', evidence, sent, sent', rfl, rfl, hpublished, hovertaken⟩

theorem agrees_open_iff {s : TransportSession} {sent sent' : Bool} {world : σ} (hsent : sent → sent') :
    (Agrees encodeOther decodeOther answerCall ⟨⟨some (s, sent), world⟩, ⟨some (s, sent'), world⟩⟩ e ↔
        ¬PublishesLate encodeOther decodeOther answerCall
          ⟨⟨some (s, sent), world⟩, ⟨some (s, sent'), world⟩⟩ e)
      ∧ (¬PublishesLate encodeOther decodeOther answerCall
          ⟨⟨some (s, sent), world⟩, ⟨some (s, sent'), world⟩⟩ e →
        (step encodeOther decodeOther answerCall
          ⟨⟨some (s, sent), world⟩, ⟨some (s, sent'), world⟩⟩ e).InStep) := by
  have halike := @alike_publication S encodeOther decodeOther s e
  have htranscript := halike.transcript_eq answerCall world
  have hstate := halike.state_eq answerCall world
  have hresult := halike.result answerCall world
  have hreturns := (@returns_publication S encodeOther decodeOther s e).run answerCall world
  have hweb : websocketProgram encodeOther decodeOther sent s e =
      (websocketPublication encodeOther decodeOther s e).bind (websocketEvidence encodeOther sent) := by
    cases e <;> rfl
  have hlan : secureProgram encodeOther decodeOther sent' s e =
      (securePublication encodeOther decodeOther s e).bind (secureEvidence encodeOther sent') := by
    cases e <;> rfl
  rw [publishesLate_open_iff]
  unfold Agrees step Connection.serve
  dsimp only
  rw [hweb, hlan]
  unfold Replying.bind
  rw [Calls.transcript_andThen, Calls.transcript_andThen, Calls.run_andThen, Calls.run_andThen,
    htranscript, hstate, List.append_cancel_left_eq]
  generalize Calls.run answerCall (websocketPublication encodeOther decodeOther s e) world = web
    at hresult hreturns hstate ⊢
  generalize Calls.run answerCall (securePublication encodeOther decodeOther s e) world = lan
    at hresult hstate ⊢
  obtain ⟨⟨_ | evidence, s'⟩, world'⟩ := web <;> obtain ⟨⟨_ | evidence', s''⟩, world''⟩ := lan
  · dsimp only at hstate
    subst hstate
    refine ⟨iff_of_true rfl ?_, fun _ ↦ ⟨rfl, .inl ⟨rfl, rfl⟩⟩⟩
    rintro ⟨_, _, hpublished, -⟩
    cases hpublished
  · exact hresult.elim
  · exact hresult.elim
  · obtain ⟨hevidence, hsession⟩ := hresult
    dsimp only at hstate
    subst hstate hevidence hsession
    have hvalid : ValidEvidence evidence := hreturns evidence rfl
    dsimp only
    by_cases hovertaken : Overtaken sent sent' evidence
    · refine ⟨iff_of_false (transcript_of_overtaken answerCall hvalid hovertaken _) ?_, ?_⟩
      · exact not_not.mpr ⟨evidence, s', rfl, hovertaken⟩
      · exact fun hnot ↦ (hnot ⟨evidence, s', rfl, hovertaken⟩).elim
    · have h := @alike_evidence _ encodeOther _ _ _ s' hsent hvalid hovertaken
      refine ⟨iff_of_true (h.transcript_eq answerCall world') ?_, fun _ ↦ ?_⟩
      · rintro ⟨_, _, hpublished, hovertaken'⟩
        cases hpublished
        exact hovertaken hovertaken'
      · exact inStep_after (h.result answerCall world') (h.state_eq answerCall world')

/-- Both transports agree on an event unless complete evidence is published late, and then the
sessions stay in step. -/
theorem agrees_iff (h : t.InStep) :
    (t.Agrees encodeOther decodeOther answerCall e ↔
        ¬t.PublishesLate encodeOther decodeOther answerCall e)
      ∧ (¬t.PublishesLate encodeOther decodeOther answerCall e →
        (t.step encodeOther decodeOther answerCall e).InStep) := by
  obtain ⟨⟨session, world⟩, ⟨session', world'⟩⟩ := t
  obtain ⟨hworld, ⟨hclosed, hclosed'⟩ | ⟨s, sent, sent', hopen, hopen', hsent⟩⟩ := h
  · dsimp only at hworld hclosed hclosed'
    subst hworld hclosed hclosed'
    refine ⟨iff_of_true rfl ?_, fun _ ↦ ⟨rfl, .inl ⟨rfl, rfl⟩⟩⟩
    rintro ⟨_, _, _, _, _, hsession, -⟩
    cases hsession
  · dsimp only at hworld hopen hopen'
    subst hworld hopen hopen'
    exact agrees_open_iff hsent

end Transports

/-- **The transports.**  In every run, with any broker and any wire, both transports make the same
calls of the broker and send the same payloads in the same order for every frame if and only if
complete evidence is never published after incomplete evidence has been. -/
theorem transports_agree_iff (s : TransportSession) (world : σ) (es : List TransportEvent) :
    Meets (Transports.step encodeOther decodeOther answerCall)
        (Transports.Agrees encodeOther decodeOther answerCall) (Transports.start s world) es ↔
      Meets (Transports.step encodeOther decodeOther answerCall)
        (fun t e ↦ ¬t.PublishesLate encodeOther decodeOther answerCall e)
        (Transports.start s world) es :=
  meets_iff_of_invariant Transports.InStep (fun _ _ h ↦ (Transports.agrees_iff h).2)
    (fun _ _ h ↦ (Transports.agrees_iff h).1) ⟨rfl, .inr ⟨s, false, false, rfl, rfl, id⟩⟩ es

end Runs

/-! ## Evidence that is completed later -/

/-- A session whose displays are empty. -/
def displayedSession : PresentingAuthority where
  toSessionAuthority := runningSession
  DisplayDefinition := Unit
  DisplaySample := Unit
  DisplayPath := Unit
  DisplayTransition := Unit
  ReplayIndex := Unit
  DisplayCursorState := Unit
  definition _ := ()
  samples _ := []
  paths _ := []
  transitions _ := []
  replayIndex _ := ()
  displayCursor _ := ()

/-- A byte of evidence. -/
def sealedByte (complete : Bool) : SealedEvidenceMetadata where
  evidenceIdentity := 1
  evidenceCrc32 := crc32Ieee [0x4b]
  totalLength := 1
  chunkLength := 1
  chunkCount := 1
  complete := complete
  contentKind := 1

/-- A publication of nothing but the evidence. -/
def evidencePublication (complete : Bool) : BrokerPublication displayedSession.toSessionAuthority where
  snapshot := (0 : UInt32)
  procedure := none
  disposition := none
  predictionPaths := []
  transport := ()
  evidence := some (sealedByte complete)
  cursors := ⟨1, 1, 1, 1, 1⟩
  events := ⟨1, 1, 1, 1, []⟩
  timeline := ⟨1, 1, 1, 1, []⟩
  actionReceipts := ⟨1, 1, 1, 1, []⟩
  releaseSamples := ⟨1, 1, 1, 1, []⟩

/-- A broker whose evidence is complete once it has been published, and a wire that takes every
frame. -/
def completingBroker : (call : TransportCall displayedSession) → Bool → call.Answer × Bool
  | .ask (.poll ..), published => (.ok (evidencePublication published), true)
  | .ask (.evidence _), published => (.ok (some [0x4b]), published)
  | .ask (.attach ..), published => (.error .workerGone, published)
  | .ask (.session _), published => (.error .workerGone, published)
  | .send .., published => (true, published)

/-- A replay from the first cursors on. -/
def replayFrame : DecodedKps1Frame where
  header :=
    { kind := .replayControl
      flags := 0
      sessionNonce := 99
      sequence := 2
      correlationId := 1
      payloadLength := 48 }
  payload :=
    [0x4b, 0x43, 0x52, 0x31] ++ le16 1 ++ le16 48 ++ le64 1 ++ le64 1 ++ le64 1 ++ le64 1 ++ le64 1

theorem admits_replayFrame (decodeOther : OtherDecoders) :
    Admits decodeOther replayFrame.bytes controllingSession (.replayControl ⟨1, 1, 1, 1, 1⟩)
      { controllingSession with inboundSequence := ⟨99, 3⟩ } where
  frame := by
    have hvalid : replayFrame.Valid := ⟨rfl, rfl⟩
    exact ⟨replayFrame, parseKps1Frame_eq_ok.mpr ⟨hvalid, rfl⟩, rfl, rfl, rfl, rfl⟩

/-- The session of `controllingSession` behind its handshake. -/
def attendedSession (sequence : UInt64) : TransportSession where
  client := controllingSession
  sessionNonce := 99
  outboundSequence := sequence

/-- The frame has the evidence published a second time, and now it is complete. -/
theorem publishesLate_replayFrame (decodeOther : OtherDecoders) :
    Transports.PublishesLate (fun _ _ ↦ .ok []) decodeOther completingBroker
      ⟨⟨some (attendedSession 6, false), true⟩, ⟨some (attendedSession 6, true), true⟩⟩
      (.frame replayFrame.bytes) := by
  refine ⟨_, ?_, some (sealedByte true), _, _, rfl, rfl, ?_, rfl, rfl, _, rfl, rfl⟩
  · exact ⟨{ controllingSession with inboundSequence := ⟨99, 3⟩ }, 99, 9⟩
  · show (Calls.run _ (answerHandled _ _ _ _ _ (handleClientFrame ..)) _).1 = _
    rw [show (attendedSession 6).client = controllingSession from rfl,
      handleClientFrame_of_admits (admits_replayFrame decodeOther)]
    rfl

theorem step_opened (decodeOther : OtherDecoders) :
    Transports.step (fun _ _ ↦ .ok []) decodeOther completingBroker
      (Transports.start (attendedSession 3) false) .opened =
      ⟨⟨some (attendedSession 6, false), true⟩, ⟨some (attendedSession 6, true), true⟩⟩ := by
  rfl

/-- A client of the browser's transport is sent the evidence that is completed after the handshake,
and a paired one is not. -/
theorem evidence_completed_late :
    ∃ es, ¬Meets (Transports.step (fun _ _ ↦ .ok []) (fun _ _ _ ↦ .ok ()) completingBroker)
      (Transports.Agrees (fun _ _ ↦ .ok []) (fun _ _ _ ↦ .ok ()) completingBroker)
      (Transports.start (attendedSession 3) false) es := by
  refine ⟨[.opened, .frame replayFrame.bytes], fun ⟨_, hagrees, _⟩ ↦ ?_⟩
  rw [step_opened] at hagrees
  have hstep : Transports.InStep
      ⟨⟨some (attendedSession 6, false), true⟩, ⟨some (attendedSession 6, true), true⟩⟩ :=
    ⟨rfl, .inr ⟨_, _, _, rfl, rfl, fun _ ↦ rfl⟩⟩
  exact (Transports.agrees_iff hstep).1.mp hagrees (publishesLate_replayFrame _)

end Ksa64.Broker
