import Ksa64.Broker.Noise
import Ksa64.Presentation.Payload

/-!
# Paired peers

The registry keeps the peers that have been paired, at most `maxPairedPeers` of them.  A peer that
is revoked stays in it, and is not served any more: `lookup_of_revokes`.
-/

namespace Ksa64.Broker

open Ksa64.Presentation

def maxPairedPeers : Nat := 16

abbrev PublicKey := Vector UInt8 32

/-- The six digits that the two ends of a pairing compare. -/
structure ComparisonCode where
  value : UInt32
  digits : value ≤ 999999
deriving DecidableEq

/-- The channel of a peer that is not confirmed yet, as far as a pairing looks at it. -/
structure UnconfirmedNoiseChannel where
  remoteStatic : PublicKey
  comparisonCode : ComparisonCode
deriving DecidableEq

structure PeerRecord where
  publicKey : PublicKey
  role : PresentationRole
  revoked : Bool
deriving DecidableEq

structure PeerRegistry where
  peers : List PeerRecord
deriving DecidableEq

namespace PeerRegistry

/-- The peer that a channel is confirmed for. -/
def confirmPairing (r : PeerRegistry) (pairing : UnconfirmedNoiseChannel)
    (locallyConfirmedCode : ComparisonCode) (assignedRole : PresentationRole) :
    Except NoiseTransportError PeerRecord × PeerRegistry :=
  if pairing.comparisonCode ≠ locallyConfirmedCode then (.error .comparisonMismatch, r)
  else
    match r.peers.find? (·.publicKey = pairing.remoteStatic) with
    | some existing =>
        if existing.revoked then (.error .revokedPeer, r)
        else if existing.role ≠ assignedRole then (.error .roleMismatch, r)
        else (.ok existing, r)
    | none =>
        if maxPairedPeers ≤ r.peers.length then (.error .peerLimit, r)
        else
          let record := ⟨pairing.remoteStatic, assignedRole, false⟩
          (.ok record, ⟨r.peers ++ [record]⟩)

def lookup (r : PeerRegistry) (publicKey : List UInt8) : Except NoiseTransportError PeerRecord :=
  if publicKey.length ≠ 32 then .error .remoteStaticLength
  else
    match r.peers.find? (·.publicKey.toList = publicKey) with
    | none => .error .unknownPeer
    | some record => if record.revoked then .error .revokedPeer else .ok record

/-- Revoke the first record of a key. -/
def revokeIn (publicKey : PublicKey) : List PeerRecord → Option (List PeerRecord)
  | [] => none
  | peer :: rest =>
      if peer.publicKey = publicKey then some ({ peer with revoked := true } :: rest)
      else (revokeIn publicKey rest).map (peer :: ·)

def revoke (r : PeerRegistry) (publicKey : PublicKey) :
    Except NoiseTransportError Unit × PeerRegistry :=
  match revokeIn publicKey r.peers with
  | none => (.error .unknownPeer, r)
  | some peers => (.ok (), ⟨peers⟩)

/-- The record that counts for a key. -/
def record (r : PeerRegistry) (publicKey : PublicKey) : Option PeerRecord :=
  r.peers.find? (·.publicKey = publicKey)

/-- The key is that of a peer that has been revoked. -/
def Revokes (r : PeerRegistry) (publicKey : PublicKey) : Prop :=
  ∃ record, r.record publicKey = some record ∧ record.revoked = true

section Revoke

variable {r : PeerRegistry} {publicKey other : PublicKey}

theorem lookup_eq : r.lookup publicKey.toList = match r.record publicKey with
    | none => .error .unknownPeer
    | some record => if record.revoked then .error .revokedPeer else .ok record := by
  unfold lookup record
  rw [if_neg (not_not.mpr publicKey.length_toList)]
  simp only [Vector.toList_inj]

theorem lookup_of_revokes (h : r.Revokes publicKey) :
    r.lookup publicKey.toList = .error .revokedPeer := by
  obtain ⟨record, hrecord, hrevoked⟩ := h
  rw [lookup_eq, hrecord]
  exact if_pos hrevoked

theorem find?_revokeIn {peers peers' : List PeerRecord} (h : revokeIn publicKey peers = some peers') :
    (∃ record, peers'.find? (·.publicKey = publicKey) = some record ∧ record.revoked = true)
      ∧ ∀ other, other ≠ publicKey →
        peers'.find? (·.publicKey = other) = peers.find? (·.publicKey = other) := by
  induction peers generalizing peers' with
  | nil => cases h
  | cons peer rest ih =>
      unfold revokeIn at h
      split at h
      · rename_i hpeer
        cases h
        refine ⟨⟨_, List.find?_cons_of_pos (by simpa using hpeer), rfl⟩, fun other hother ↦ ?_⟩
        have hne : ¬peer.publicKey = other := fun hother' ↦ hother (hother'.symm.trans hpeer)
        rw [List.find?_cons_of_neg (by simpa using hne), List.find?_cons_of_neg (by simpa using hne)]
      · rename_i hpeer
        obtain ⟨rest', hrest, rfl⟩ := Option.map_eq_some_iff.mp h
        obtain ⟨hrevoked, hothers⟩ := ih hrest
        refine ⟨?_, fun other hother ↦ ?_⟩
        · rwa [List.find?_cons_of_neg (by simpa using hpeer)]
        · rw [List.find?_cons, List.find?_cons, hothers other hother]

/-- A revocation that succeeds revokes the key. -/
theorem revokes_revoke (h : (r.revoke publicKey).1 = .ok ()) :
    (r.revoke publicKey).2.Revokes publicKey := by
  unfold revoke at h ⊢
  cases hpeers : revokeIn publicKey r.peers with
  | none =>
      rw [hpeers] at h
      cases h
  | some peers => exact (find?_revokeIn hpeers).1

/-- It leaves the other keys. -/
theorem record_revoke (h : other ≠ publicKey) :
    (r.revoke publicKey).2.record other = r.record other := by
  unfold revoke
  cases hpeers : revokeIn publicKey r.peers with
  | none => rfl
  | some peers => exact (find?_revokeIn hpeers).2 other h

/-- What fails changes nothing. -/
theorem revoke_of_ne_ok (h : (r.revoke publicKey).1 ≠ .ok ()) : (r.revoke publicKey).2 = r := by
  unfold revoke at h ⊢
  cases hpeers : revokeIn publicKey r.peers with
  | none => rfl
  | some peers =>
      rw [hpeers] at h
      exact absurd rfl h

/-- A pairing leaves the record of a peer that is known. -/
theorem record_confirmPairing {pairing : UnconfirmedNoiseChannel} {code : ComparisonCode}
    {role : PresentationRole} {known : PeerRecord} (h : r.record publicKey = some known) :
    (r.confirmPairing pairing code role).2.record publicKey = some known := by
  have happend (new : PeerRecord) : (PeerRegistry.mk (r.peers ++ [new])).record publicKey
      = some known := by
    unfold record at h ⊢
    rw [List.find?_append, h]
    rfl
  unfold confirmPairing
  dsimp only
  split_ifs
  · exact h
  · cases r.peers.find? (·.publicKey = pairing.remoteStatic) with
    | some existing =>
        dsimp only
        split_ifs <;> exact h
    | none => exact h
  · cases r.peers.find? (·.publicKey = pairing.remoteStatic) with
    | some existing =>
        dsimp only
        split_ifs <;> exact h
    | none => exact happend _

end Revoke

end PeerRegistry

end Ksa64.Broker
