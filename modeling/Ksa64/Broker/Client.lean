import Ksa64.Library.Calls
import Ksa64.Broker.Worker

/-!
# What a transport does for the frames of its clients

The browser's transport and the paired one handle a frame alike: a frame that is let in is a
program that calls the broker (`Handling`), and when the program fails the connection is closed,
which disconnects the client.  What is sent in answer to a frame is only read from the broker,
and is not part of this development.

`Spares` says that a frame that is rejected leaves the authority.
-/

namespace Ksa64.Broker

open Ksa64.Library
open Ksa64.Presentation

structure ClientSession where
  clientId : UInt64
  role : PresentationRole
  capabilityMask : UInt64
  inboundSequence : Kps1SequenceCursor
  clientCursors : PresentationCursors
deriving DecidableEq

section Handling

variable (A : BrokerAuthority) (ε : Type)

/-- What a frame is answered with: a receipt and the publications since the cursors of the
client, these alone, or a range of the display. -/
inductive ClientReply where
  | receipt (receipt : A.ActionReceiptView)
  | publications
  | globalDisplay (publication : A.GlobalDisplayPublication)

/-- The handling of a frame, between whose calls others may come in. -/
abbrev Handling := Calls BrokerCommand (BrokerCommand.Reply A) (Attempt ε ClientSession (ClientReply A))

/-- The errors of a transport that its handling of frames raises. -/
structure TransportErrors where
  control : ε
  broker : BrokerError → ε

variable {A ε}

namespace TransportErrors

variable (errors : TransportErrors ε) (s : ClientSession)

/-- Call the broker, and stop at its error. -/
def ask (command : BrokerCommand) (next : command.Value A → Handling A ε) : Handling A ε :=
  .call command fun
    | .ok value => next value
    | .error error => .done (.error (errors.broker error), s)

def paceControl (maxReleases : UInt32) (control : PaceControl) : Handling A ε :=
  if maxReleases < control.boundedReleases then .done (.error errors.control, s)
  else if control.requested = .singleStep then
    errors.ask s (.step s.clientId) fun _ ↦ .done (.ok .publications, s)
  else
    errors.ask s (.pace s.clientId control.requested) fun _ ↦
      if 0 < control.boundedReleases then
        errors.ask s (.advance s.clientId control.boundedReleases) fun _ ↦
          .done (.ok .publications, s)
      else .done (.ok .publications, s)

def actionIntent (intent : PresentationActionIntent) : Handling A ε :=
  errors.ask s (.action s.clientId intent) fun receipt ↦ .done (.ok (.receipt receipt), s)

def globalDisplayRangeRequest (request : GlobalDisplayRangeRequestV1) : Handling A ε :=
  match request.validate with
  | .error _ => .done (.error (errors.broker .invalidLimit), s)
  | .ok () =>
      errors.ask s (.globalDisplay s.clientId request) fun
        | none => .done (.error errors.control, s)
        | some publication => .done (.ok (.globalDisplay publication), s)

end TransportErrors

/-- Handle a frame; the connection of a client whose frame fails is closed. -/
def serve (handling : Handling A ε) (b : SessionBroker A) :
    Attempt ε ClientSession (ClientReply A) × SessionBroker A :=
  let served := handling.run SessionBroker.request b
  match served.1.1 with
  | .ok _ => served
  | .error _ => (served.1, (SessionBroker.request (.disconnect served.1.2.clientId) served.2).2)

/-- The result is an error of the given kind. -/
def Rejected (kind : ε → Prop) (result : Attempt ε ClientSession (ClientReply A)) : Prop :=
  ∃ error, result.1 = .error error ∧ kind error

/-- A frame that is rejected leaves the authority. -/
def Spares (kind : ε → Prop) (handling : Handling A ε) (b : SessionBroker A) : Prop :=
  Rejected kind (serve handling b).1 → (serve handling b).2.authorityState = b.authorityState

variable {kind : ε → Prop} {handling : Handling A ε} {b : SessionBroker A}

theorem fst_serve : (serve handling b).1 = (handling.run SessionBroker.request b).1 := by
  unfold serve
  dsimp only
  split <;> rfl

/-- To be disconnected leaves the authority. -/
theorem authorityState_serve : (serve handling b).2.authorityState
    = (handling.run SessionBroker.request b).2.authorityState := by
  unfold serve
  dsimp only
  split
  · rfl
  · exact @SessionBroker.authorityState_request A (.disconnect _) trivial _

/-- A frame whose handling only rejects before it changes anything. -/
theorem spares_of_rejectsFirst (h : handling.RejectsFirst SessionBroker.Reads (Rejected kind)) :
    Spares kind handling b := by
  intro hrejected
  rw [fst_serve] at hrejected
  rw [authorityState_serve]
  exact Calls.run_view_of_rejected (fun _ hreads b ↦ SessionBroker.authorityState_request hreads b)
    h hrejected

theorem returns_ok (reply : ClientReply A) (s : ClientSession) :
    (.done (.ok reply, s) : Handling A ε).Returns (¬Rejected kind ·) := by
  rintro ⟨error, herror, -⟩
  cases herror

theorem rejected_error {error : ε} {s : ClientSession} :
    Rejected kind ((.error error, s) : Attempt ε ClientSession (ClientReply A)) ↔ kind error := by
  constructor
  · rintro ⟨_, herror, hkind⟩
    cases herror
    exact hkind
  · exact fun hkind ↦ ⟨error, rfl, hkind⟩

section Errors

variable {errors : TransportErrors ε} {s : ClientSession}

/-- What is asked fails with an error of the broker, or goes on. -/
theorem returns_ask (hbroker : ∀ error, ¬kind (errors.broker error)) {command : BrokerCommand}
    {next : command.Value A → Handling A ε} (hnext : ∀ value, (next value).Returns (¬Rejected kind ·)) :
    (errors.ask s command next).Returns (¬Rejected kind ·) := by
  intro reply
  cases reply with
  | ok value => exact hnext value
  | error error => exact fun h ↦ hbroker error (rejected_error.mp h)

theorem rejectsFirst_paceControl (hbroker : ∀ error, ¬kind (errors.broker error)) (maxReleases : UInt32) (control : PaceControl) :
    (errors.paceControl s maxReleases control : Handling A ε).RejectsFirst SessionBroker.Reads
      (Rejected kind) := by
  unfold TransportErrors.paceControl
  split_ifs with hmax hstep hzero
  · trivial
  · exact (returns_ask hbroker fun _ ↦ returns_ok _ s).rejectsFirst
  · refine (returns_ask hbroker fun _ ↦ ?_).rejectsFirst
    exact returns_ask hbroker fun _ ↦ returns_ok _ s
  · exact (returns_ask hbroker fun _ ↦ returns_ok _ s).rejectsFirst

theorem rejectsFirst_actionIntent (hbroker : ∀ error, ¬kind (errors.broker error)) (intent : PresentationActionIntent) :
    (errors.actionIntent s intent : Handling A ε).RejectsFirst SessionBroker.Reads
      (Rejected kind) := by
  unfold TransportErrors.actionIntent
  exact (returns_ask hbroker fun _ ↦ returns_ok _ s).rejectsFirst

/-- A request for a range of the display that is not there is rejected, but it has only read. -/
theorem rejectsFirst_globalDisplayRangeRequest (request : GlobalDisplayRangeRequestV1) :
    (errors.globalDisplayRangeRequest s request : Handling A ε).RejectsFirst SessionBroker.Reads
      (Rejected kind) := by
  unfold TransportErrors.globalDisplayRangeRequest
  split
  · trivial
  · refine .inl ⟨trivial, fun reply ↦ ?_⟩
    cases reply with
    | error error => trivial
    | ok publication =>
        cases publication with
        | none => trivial
        | some publication => trivial

end Errors

end Handling

/-! ## Frames that are let in -/

/-- A frame of a session that is let in, its payload and the session behind it. -/
structure Admits (decodeOther : OtherDecoders) (bytes : List UInt8) (s : ClientSession)
    (payload : PresentationPayload) (s' : ClientSession) : Prop where
  frame : ∃ frame, parseKps1Frame bytes = .ok frame
    ∧ frame.header.kind.isNegotiatedBy s.capabilityMask
    ∧ (s.inboundSequence.accept frame.header).1 = .ok ()
    ∧ s' = { s with inboundSequence := (s.inboundSequence.accept frame.header).2 }
    ∧ decodeTypedPayload decodeOther frame.header.kind frame.payload s.role = .ok payload

/-- The broker switches the lifecycle of the authority for a client. -/
structure Switches {A : BrokerAuthority} (clientId : UInt64) (requested : PresentationLifecycle)
    (b : SessionBroker A) : Prop where
  answered : b.deliveries 0 = .answered
  controls : b.worker.state.requireController clientId = .ok ()
  granted : (A.requestLifecycle requested b.worker.authority).1 = .ok ()
  changes : (A.requestLifecycle requested b.worker.authority).2 ≠ b.worker.authority

/-- A lifecycle control that is let in, switches the lifecycle and asks for more releases than a
control may. -/
def SwitchesBeyond {A : BrokerAuthority} (maxReleases : UInt32) (decodeOther : OtherDecoders)
    (bytes : List UInt8) (s : ClientSession) (b : SessionBroker A) : Prop :=
  ∃ control s', Admits decodeOther bytes s (.lifecycleControl control) s'
    ∧ maxReleases < control.boundedReleases ∧ Switches s.clientId control.requested b

/-! ## A client that pauses its session -/

/-- A client that controls the session, and has sent nothing but its handshake. -/
def controllingSession : ClientSession where
  clientId := 7
  role := .flightController
  capabilityMask := 0
  inboundSequence := ⟨99, 2⟩
  clientCursors := ⟨1, 1, 1, 1, 1⟩

/-- A pause, and 5000 releases. -/
def pauseFrame : DecodedKps1Frame where
  header :=
    { kind := .lifecycleControl
      flags := 0
      sessionNonce := 99
      sequence := 2
      correlationId := 1
      payloadLength := 20 }
  payload := lifecycleControlPayload 4 5000

theorem admits_pauseFrame (decodeOther : OtherDecoders) :
    Admits decodeOther pauseFrame.bytes controllingSession (.lifecycleControl ⟨.paused, 5000⟩)
      { controllingSession with inboundSequence := ⟨99, 3⟩ } where
  frame := by
    have hvalid : pauseFrame.Valid := ⟨rfl, rfl⟩
    exact ⟨pauseFrame, parseKps1Frame_eq_ok.mpr ⟨hvalid, rfl⟩, rfl, rfl, rfl, rfl⟩

end Ksa64.Broker
