import Ksa64.Library.Attempt
import Ksa64.Library.Chunks
import Ksa64.Library.Run
import Ksa64.Presentation.Protocol

/-!
# The authenticated channel

A KPS1 frame is cut into fragments, each of them behind a header of 24 bytes; a fragment is
encrypted and sent behind its length.  The peer decrypts the packets it gets and puts the
frames together again.  Any error poisons the channel.

The transport underneath is not part of this development: `NoiseTransport` is what the channel
calls of it.
-/

namespace Ksa64.Broker

open Ksa64.Library
open Ksa64.Presentation

def maxNoiseCiphertextLength : Nat := 65535
def secureFragmentHeaderLength : Nat := 24
def secureFragmentPlaintextLength : Nat := 60 * 1024
def secureFragmentDataLength : Nat := secureFragmentPlaintextLength - secureFragmentHeaderLength
def maxEncryptedKps1Length : Nat := kps1HeaderLength + kps1MaxPayloadLength
def secureFragmentMagic : List UInt8 := [0x4b, 0x53, 0x4e, 0x31]
def secureFragmentFinal : UInt16 := 1

@[simp] theorem length_secureFragmentMagic : secureFragmentMagic.length = 4 := rfl

inductive NoiseTransportError where
  | entropy
  | parameters
  | handshake
  | handshakeOrder
  | handshakeLength
  | remoteStaticMissing
  | remoteStaticLength
  | comparisonMismatch
  | pairingExpired
  | pairingRateLimited
  | peerLimit
  | unknownPeer
  | revokedPeer
  | roleMismatch
  | registryLength
  | registryMagic
  | registryVersion
  | registryReserved
  | registryCrc
  | registryDuplicate
  | registryKey
  | frameLength
  | fragmentHeader
  | fragmentOrder
  | fragmentFlags
  | messageOverflow
  | noise
  | channelPoisoned
  | kps1 (error : Kps1Error)
deriving DecidableEq

/-- A transport: it encrypts and decrypts, or fails. -/
structure NoiseTransport where
  State : Type
  writeMessage : State → List UInt8 → Option (List UInt8 × State)
  readMessage : State → List UInt8 → Option (List UInt8 × State)

structure PendingAssembly where
  messageId : UInt64
  totalLength : Nat
  data : List UInt8
deriving DecidableEq

structure AuthenticatedNoiseChannel (T : NoiseTransport) where
  transport : T.State
  inboundSequence : Option Kps1SequenceCursor
  outboundSequence : Option Kps1SequenceCursor
  nextSendMessage : UInt64
  nextReceiveMessage : UInt64
  pending : Option PendingAssembly
  poisoned : Bool

/-! ## Fragments -/

def fragmentCells (messageId : UInt64) (totalLength offset : Nat) (chunk : List UInt8)
    (finalFragment : Bool) : Layout :=
  [(0, .bytes secureFragmentMagic),
    (4, .word64 messageId),
    (12, .word32 (UInt32.ofNat totalLength)),
    (16, .word32 (UInt32.ofNat offset)),
    (20, .word16 (UInt16.ofNat chunk.length)),
    (22, .word16 (if finalFragment then secureFragmentFinal else 0)),
    (24, .bytes chunk)]

/-- The plaintext of a fragment. -/
def fragment (messageId : UInt64) (totalLength offset : Nat) (chunk : List UInt8)
    (finalFragment : Bool) : List UInt8 :=
  Layout.fill (secureFragmentHeaderLength + chunk.length)
    (fragmentCells messageId totalLength offset chunk finalFragment)

/-- A ciphertext behind its length. -/
def packet (ciphertext : List UInt8) : List UInt8 :=
  be32 (UInt32.ofNat ciphertext.length) ++ ciphertext

section Seal

variable (T : NoiseTransport) (messageId : UInt64) (totalLength chunkCount : Nat)

/-- Seal the chunks from an index on. -/
def sealChunks : Nat → List (List UInt8) → T.State →
    Attempt NoiseTransportError T.State (List (List UInt8))
  | _, [], t => (.ok [], t)
  | index, chunk :: rest, t =>
      let offset := index * secureFragmentDataLength
      let finalFragment := index + 1 = chunkCount
      let plaintext := fragment messageId totalLength offset chunk finalFragment
      match T.writeMessage t plaintext with
      | none => (.error .noise, t)
      | some (ciphertext, t) =>
          if maxNoiseCiphertextLength < ciphertext.length then (.error .frameLength, t)
          else
            (sealChunks (index + 1) rest t).andThen fun packets t ↦
              (.ok (packet ciphertext :: packets), t)

end Seal

namespace AuthenticatedNoiseChannel

variable {T : NoiseTransport}

def new (transport : T.State) : AuthenticatedNoiseChannel T where
  transport := transport
  inboundSequence := none
  outboundSequence := none
  nextSendMessage := 1
  nextReceiveMessage := 1
  pending := none
  poisoned := false

def bindKps1Session (c : AuthenticatedNoiseChannel T)
    (sessionNonce inboundNextSequence outboundNextSequence : UInt64) :
    Attempt NoiseTransportError (AuthenticatedNoiseChannel T) Unit :=
  if c.inboundSequence.isSome ∨ c.outboundSequence.isSome then (.error .handshakeOrder, c)
  else
    match Kps1SequenceCursor.new sessionNonce inboundNextSequence with
    | .error error => (.error (.kps1 error), c)
    | .ok inbound =>
        let c := { c with inboundSequence := some inbound }
        match Kps1SequenceCursor.new sessionNonce outboundNextSequence with
        | .error error => (.error (.kps1 error), c)
        | .ok outbound => (.ok (), { c with outboundSequence := some outbound })

def sealKps1Inner (c : AuthenticatedNoiseChannel T) (frame : List UInt8) :
    Attempt NoiseTransportError (AuthenticatedNoiseChannel T) (List (List UInt8)) :=
  if maxEncryptedKps1Length < frame.length then (.error .frameLength, c)
  else
    match parseKps1Frame frame with
    | .error error => (.error (.kps1 error), c)
    | .ok decoded =>
        match c.outboundSequence with
        | none => (.error .handshakeOrder, c)
        | some cursor =>
            match cursor.accept decoded.header with
            | (.error error, cursor) =>
                (.error (.kps1 error), { c with outboundSequence := some cursor })
            | (.ok (), cursor) =>
                let c := { c with outboundSequence := some cursor }
                let messageId := c.nextSendMessage
                match checkedAdd64 c.nextSendMessage 1 with
                | none => (.error .messageOverflow, c)
                | some next =>
                    let chunkCount :=
                      (frame.length + (secureFragmentDataLength - 1)) / secureFragmentDataLength
                    match sealChunks T messageId frame.length chunkCount 0
                      (chunks secureFragmentDataLength frame) c.transport with
                    | (result, transport) =>
                        (result, { c with nextSendMessage := next, transport := transport })

def sealKps1 (c : AuthenticatedNoiseChannel T) (frame : List UInt8) :
    Attempt NoiseTransportError (AuthenticatedNoiseChannel T) (List (List UInt8)) :=
  if c.poisoned then (.error .channelPoisoned, c)
  else
    match c.sealKps1Inner frame with
    | (.ok packets, c) => (.ok packets, c)
    | (.error error, c) => (.error error, { c with poisoned := true, pending := none })

/-- The frame is complete. -/
def openFrame (c : AuthenticatedNoiseChannel T) (frame : List UInt8) :
    Attempt NoiseTransportError (AuthenticatedNoiseChannel T) (Option (List UInt8)) :=
  match parseKps1Frame frame with
  | .error error => (.error (.kps1 error), c)
  | .ok decoded =>
      match c.inboundSequence with
      | none => (.error .handshakeOrder, c)
      | some cursor =>
          match cursor.accept decoded.header with
          | (.error error, cursor) => (.error (.kps1 error), { c with inboundSequence := some cursor })
          | (.ok (), cursor) =>
              let c := { c with inboundSequence := some cursor }
              match checkedAdd64 c.nextReceiveMessage 1 with
              | none => (.error .messageOverflow, c)
              | some next => (.ok (some frame), { c with nextReceiveMessage := next })

/-- The packet is decrypted. -/
def openFragment (c : AuthenticatedNoiseChannel T) (plaintext : List UInt8) :
    Attempt NoiseTransportError (AuthenticatedNoiseChannel T) (Option (List UInt8)) :=
  if plaintext.length < secureFragmentHeaderLength ∨ slice plaintext 0 4 ≠ secureFragmentMagic then
    (.error .fragmentHeader, c)
  else
    let messageId := read64 plaintext 4
    let totalLength := (read32 plaintext 12).toNat
    let offset := (read32 plaintext 16).toNat
    let chunkLength := (read16 plaintext 20).toNat
    let flags := read16 plaintext 22
    if flags &&& ~~~secureFragmentFinal ≠ 0 then (.error .fragmentFlags, c)
    else if ¬(kps1HeaderLength ≤ totalLength ∧ totalLength ≤ maxEncryptedKps1Length)
        ∨ chunkLength = 0 ∨ secureFragmentDataLength < chunkLength
        ∨ plaintext.length ≠ secureFragmentHeaderLength + chunkLength then
      (.error .fragmentHeader, c)
    else if messageId ≠ c.nextReceiveMessage then (.error .fragmentOrder, c)
    else if c.pending = none ∧ offset ≠ 0 then (.error .fragmentOrder, c)
    else
      let pending := c.pending.getD ⟨messageId, totalLength, []⟩
      let c := { c with pending := some pending }
      if pending.messageId ≠ messageId ∨ pending.totalLength ≠ totalLength
          ∨ pending.data.length ≠ offset ∨ totalLength < offset + chunkLength then
        (.error .fragmentOrder, c)
      else
        let pending :=
          { pending with data := pending.data ++ plaintext.drop secureFragmentHeaderLength }
        let c := { c with pending := some pending }
        let isFinal : Bool := flags &&& secureFragmentFinal ≠ 0
        let complete : Bool := pending.data.length = totalLength
        if isFinal ≠ complete then (.error .fragmentFlags, c)
        else if complete then openFrame { c with pending := none } pending.data
        else (.ok none, c)

def openPacketInner (c : AuthenticatedNoiseChannel T) (packet : List UInt8) :
    Attempt NoiseTransportError (AuthenticatedNoiseChannel T) (Option (List UInt8)) :=
  if packet.length < 4 then (.error .frameLength, c)
  else
    let ciphertextLength := (readBe32 packet 0).toNat
    if ciphertextLength = 0 ∨ maxNoiseCiphertextLength < ciphertextLength
        ∨ packet.length ≠ ciphertextLength + 4 then
      (.error .frameLength, c)
    else
      match T.readMessage c.transport (packet.drop 4) with
      | none => (.error .noise, c)
      | some (plaintext, transport) => openFragment { c with transport := transport } plaintext

def openPacket (c : AuthenticatedNoiseChannel T) (packet : List UInt8) :
    Attempt NoiseTransportError (AuthenticatedNoiseChannel T) (Option (List UInt8)) :=
  if c.poisoned then (.error .channelPoisoned, c)
  else
    match c.openPacketInner packet with
    | (.ok frame, c) => (.ok frame, c)
    | (.error error, c) => (.error error, { c with poisoned := true, pending := none })

end AuthenticatedNoiseChannel

end Ksa64.Broker
