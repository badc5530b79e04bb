import Ksa64.Broker.Client

/-!
# The browser's transport

A client frame comes in a message of the websocket.
-/

namespace Ksa64.Broker

open Ksa64.Library
open Ksa64.Presentation

def maxControlAdvanceReleases : UInt32 := 4096

/-- The errors that the handling of a frame raises. -/
inductive NetworkServiceError where
  | protocolFrame
  | protocolSequence
  | protocolPayload
  | protocolControl
  | broker (error : BrokerError)
deriving DecidableEq

namespace NetworkServiceError

/-- The client is told that its frame breaks the protocol. -/
def IsProtocol : NetworkServiceError → Prop
  | protocolFrame | protocolSequence | protocolPayload | protocolControl => True
  | broker _ => False

def errors : TransportErrors NetworkServiceError where
  control := .protocolControl
  broker := .broker

end NetworkServiceError

open NetworkServiceError (errors)

section Network

variable {A : BrokerAuthority} (decodeOther : OtherDecoders) (bytes : List UInt8) (s : ClientSession)

/-- The payload of a frame that is let in. -/
def handleClientPayload (payload : PresentationPayload) : Handling A NetworkServiceError :=
  match payload with
  | .replayControl cursors => .done (.ok .publications, { s with clientCursors := cursors })
  | .lifecycleControl control =>
      errors.ask s (.lifecycle s.clientId control.requested) fun _ ↦
        if 0 < control.boundedReleases then
          if maxControlAdvanceReleases < control.boundedReleases then
            .done (.error .protocolControl, s)
          else
            errors.ask s (.advance s.clientId control.boundedReleases) fun _ ↦
              .done (.ok .publications, s)
        else .done (.ok .publications, s)
  | .paceControl control => errors.paceControl s maxControlAdvanceReleases control
  | .actionIntent intent => errors.actionIntent s intent
  | .globalDisplayRangeRequest request => errors.globalDisplayRangeRequest s request
  | .other _ => .done (.error .protocolControl, s)

def handleClientFrame : Handling A NetworkServiceError :=
  match parseKps1Frame bytes with
  | .error _ => .done (.error .protocolFrame, s)
  | .ok frame =>
      if ¬frame.header.kind.isNegotiatedBy s.capabilityMask then
        .done (.error .protocolControl, s)
      else
        match s.inboundSequence.accept frame.header with
        | (.error _, inboundSequence) =>
            .done (.error .protocolSequence, { s with inboundSequence := inboundSequence })
        | (.ok (), inboundSequence) =>
            let s := { s with inboundSequence := inboundSequence }
            match decodeTypedPayload decodeOther frame.header.kind frame.payload s.role with
            | .error _ => .done (.error .protocolPayload, s)
            | .ok payload => handleClientPayload s payload

variable {decodeOther bytes s}

/-- A frame is refused without a call, or it is let in. -/
theorem handleClientFrame_cases :
    (∃ error s', (handleClientFrame decodeOther bytes s : Handling A NetworkServiceError)
      = .done (.error error, s'))
      ∨ ∃ payload s', Admits decodeOther bytes s payload s'
        ∧ (handleClientFrame decodeOther bytes s : Handling A NetworkServiceError)
          = handleClientPayload s' payload := by
  unfold handleClientFrame
  cases hparse : parseKps1Frame bytes with
  | error error => exact .inl ⟨_, _, rfl⟩
  | ok frame =>
      dsimp only
      split
      · exact .inl ⟨_, _, rfl⟩
      · rename_i hnegotiated
        rw [not_not] at hnegotiated
        cases haccept : s.inboundSequence.accept frame.header with
        | mk result inboundSequence =>
            cases result with
            | error error => exact .inl ⟨_, _, rfl⟩
            | ok _ =>
                dsimp only
                cases hdecode :
                  decodeTypedPayload decodeOther frame.header.kind frame.payload s.role with
                | error error => exact .inl ⟨_, _, rfl⟩
                | ok payload =>
                    refine .inr ⟨payload, _, ⟨frame, hparse, hnegotiated, ?_, ?_, hdecode⟩, rfl⟩
                    · rw [haccept]
                    · rw [haccept]

theorem handleClientFrame_of_admits {payload : PresentationPayload} {s' : ClientSession}
    (h : Admits decodeOther bytes s payload s') :
    (handleClientFrame decodeOther bytes s : Handling A NetworkServiceError)
      = handleClientPayload s' payload := by
  obtain ⟨frame, hparse, hnegotiated, haccept, rfl, hdecode⟩ := h.frame
  unfold handleClientFrame
  rw [hparse]
  dsimp only
  rw [if_neg (not_not.mpr hnegotiated)]
  generalize s.inboundSequence.accept frame.header = accepted at haccept ⊢
  obtain ⟨result, inboundSequence⟩ := accepted
  cases haccept
  dsimp only
  rw [hdecode]

end Network

end Ksa64.Broker
