import Ksa64.Broker.Client
import Ksa64.Broker.Pairing

/-!
# The paired transport

A client frame comes over the authenticated channel of a paired peer.
-/

namespace Ksa64.Broker

open Ksa64.Library
open Ksa64.Presentation

def lanMaxControlAdvanceReleases : UInt32 := 4096

namespace PairedLanError

/-- The client is told that its frame breaks the protocol. -/
def IsProtocol : PairedLanError → Prop
  | protocol | protocolFrame | protocolPayload | protocolSequence | protocolEncode _
  | protocolControl | protocolSequenceOverflow => True
  | _ => False

def errors : TransportErrors PairedLanError where
  control := .protocolControl
  broker := .broker

end PairedLanError

open PairedLanError (errors)

section Lan

variable {A : BrokerAuthority} (decodeOther : OtherDecoders) (bytes : List UInt8) (s : ClientSession)

/-- The payload of a frame that is let in. -/
def handleEncryptedClientPayload (payload : PresentationPayload) : Handling A PairedLanError :=
  match payload with
  | .replayControl cursors => .done (.ok .publications, { s with clientCursors := cursors })
  | .lifecycleControl control =>
      errors.ask s (.lifecycle s.clientId control.requested) fun _ ↦
        if lanMaxControlAdvanceReleases < control.boundedReleases then
          .done (.error .protocolControl, s)
        else if 0 < control.boundedReleases then
          errors.ask s (.advance s.clientId control.boundedReleases) fun _ ↦
            .done (.ok .publications, s)
        else .done (.ok .publications, s)
  | .paceControl control => errors.paceControl s lanMaxControlAdvanceReleases control
  | .actionIntent intent => errors.actionIntent s intent
  | .globalDisplayRangeRequest request => errors.globalDisplayRangeRequest s request
  | .other _ => .done (.error .protocolControl, s)

/-- The sequence comes before the capabilities here. -/
def validateEncryptedClientHeader (header : Kps1Header) (capabilityMask : UInt64)
    (inboundSequence : Kps1SequenceCursor) : Attempt PairedLanError Kps1SequenceCursor Unit :=
  match inboundSequence.accept header with
  | (.error _, inboundSequence) => (.error .protocolSequence, inboundSequence)
  | (.ok (), inboundSequence) =>
      if ¬header.kind.isNegotiatedBy capabilityMask then (.error .protocolControl, inboundSequence)
      else (.ok (), inboundSequence)

def handleEncryptedClientFrame : Handling A PairedLanError :=
  match parseKps1Frame bytes with
  | .error _ => .done (.error .protocolFrame, s)
  | .ok frame =>
      match validateEncryptedClientHeader frame.header s.capabilityMask s.inboundSequence with
      | (.error error, inboundSequence) =>
          .done (.error error, { s with inboundSequence := inboundSequence })
      | (.ok (), inboundSequence) =>
          let s := { s with inboundSequence := inboundSequence }
          match decodeTypedPayload decodeOther frame.header.kind frame.payload s.role with
          | .error _ => .done (.error .protocolPayload, s)
          | .ok payload => handleEncryptedClientPayload s payload

variable {decodeOther bytes s}

theorem validateEncryptedClientHeader_eq_ok {header : Kps1Header} {capabilityMask : UInt64}
    {inboundSequence next : Kps1SequenceCursor}
    (h : validateEncryptedClientHeader header capabilityMask inboundSequence = (.ok (), next)) :
    inboundSequence.accept header = (.ok (), next)
      ∧ header.kind.isNegotiatedBy capabilityMask := by
  unfold validateEncryptedClientHeader at h
  cases haccept : inboundSequence.accept header with
  | mk result cursor =>
      rw [haccept] at h
      cases result with
      | error error => cases h
      | ok _ =>
          dsimp only at h
          split at h
          · cases h
          · rename_i hnegotiated
            cases h
            exact ⟨rfl, not_not.mp hnegotiated⟩

/-- A frame is refused without a call, or it is let in. -/
theorem handleEncryptedClientFrame_cases :
    (∃ error s', (handleEncryptedClientFrame decodeOther bytes s : Handling A PairedLanError)
      = .done (.error error, s'))
      ∨ ∃ payload s', Admits decodeOther bytes s payload s'
        ∧ (handleEncryptedClientFrame decodeOther bytes s : Handling A PairedLanError)
          = handleEncryptedClientPayload s' payload := by
  unfold handleEncryptedClientFrame
  cases hparse : parseKps1Frame bytes with
  | error error => exact .inl ⟨_, _, rfl⟩
  | ok frame =>
      dsimp only
      cases hvalidate :
        validateEncryptedClientHeader frame.header s.capabilityMask s.inboundSequence with
      | mk result inboundSequence =>
          cases result with
          | error error => exact .inl ⟨_, _, rfl⟩
          | ok _ =>
              obtain ⟨haccept, hnegotiated⟩ := validateEncryptedClientHeader_eq_ok hvalidate
              dsimp only
              cases hdecode :
                decodeTypedPayload decodeOther frame.header.kind frame.payload s.role with
              | error error => exact .inl ⟨_, _, rfl⟩
              | ok payload =>
                  refine .inr ⟨payload, _, ⟨frame, hparse, hnegotiated, ?_, ?_, hdecode⟩, rfl⟩
                  · rw [haccept]
                  · rw [haccept]

theorem handleEncryptedClientFrame_of_admits {payload : PresentationPayload} {s' : ClientSession}
    (h : Admits decodeOther bytes s payload s') :
    (handleEncryptedClientFrame decodeOther bytes s : Handling A PairedLanError)
      = handleEncryptedClientPayload s' payload := by
  obtain ⟨frame, hparse, hnegotiated, haccept, rfl, hdecode⟩ := h.frame
  unfold handleEncryptedClientFrame validateEncryptedClientHeader
  rw [hparse]
  dsimp only
  generalize s.inboundSequence.accept frame.header = accepted at haccept ⊢
  obtain ⟨result, inboundSequence⟩ := accepted
  cases haccept
  dsimp only
  rw [if_neg (not_not.mpr hnegotiated)]
  dsimp only
  rw [hdecode]

end Lan

end Ksa64.Broker
