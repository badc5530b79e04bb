import Ksa64.Library.Run
import Ksa64.Broker.Rejection

/-!
# Revoking a peer that is connected

The service looks a peer up in its registry before it reads the next frame of it, gives the
registry away and waits for the frame.  `revocation_cuts_off_iff` says when a peer is cut off by
its revocation: when it comes between the handling of one frame and the lookup before the next.
-/

namespace Ksa64.Broker

open Ksa64.Library
open Ksa64.Presentation

/-- Where the connection is: at the top of its loop, waiting for a frame after the lookup, or in
the handling of a frame. -/
inductive LanPhase (A : BrokerAuthority) where
  | top
  | reading
  | handling (rest : Handling A PairedLanError)

structure LanConnection (A : BrokerAuthority) where
  peer : PeerRecord
  session : ClientSession
  phase : LanPhase A

/-- The service and the one connection it serves at a time. -/
structure PairedLanService (A : BrokerAuthority) where
  registry : PeerRegistry
  shutdown : Bool
  connection : Option (LanConnection A)

inductive LanStep (A : BrokerAuthority) where
  /-- A peer is connected after its pairing has been confirmed. -/
  | pair (unconfirmed : UnconfirmedNoiseChannel) (code : ComparisonCode) (role : PresentationRole)
    (session : ClientSession)
  /-- A peer that is known is connected. -/
  | resume (publicKey : PublicKey) (session : ClientSession)
  | lookup
  /-- A frame has been read, or none for a while. -/
  | read (frame : Option (List UInt8))
  /-- The broker is called, and replies. -/
  | call (reply : (command : BrokerCommand) → command.Reply A)
  /-- The frame has been handled and answered. -/
  | answer
  /-- The connection fails. -/
  | close
  | revokePeer (publicKey : PublicKey)
  | shutdown

variable {A : BrokerAuthority}

namespace PairedLanService

def start (registry : PeerRegistry) : PairedLanService A := ⟨registry, false, none⟩

def revokePeer (s : PairedLanService A) (publicKey : PublicKey) :
    Attempt PairedLanError (PairedLanService A) Unit :=
  match s.registry.revoke publicKey with
  | (result, registry) => (result.mapError .pairing, { s with registry := registry })

/-- What the connection does. -/
def onConnection (s : PairedLanService A)
    (act : LanConnection A → Option (LanConnection A)) : PairedLanService A :=
  { s with connection := s.connection.bind act }

def step (decodeOther : OtherDecoders) (s : PairedLanService A) : LanStep A → PairedLanService A
  | .pair unconfirmed code role session =>
      if s.connection.isSome then s
      else
        match s.registry.confirmPairing unconfirmed code role with
        | (.ok peer, registry) =>
            { s with registry := registry, connection := some ⟨peer, session, .top⟩ }
        | (.error _, registry) => { s with registry := registry }
  | .resume publicKey session =>
      if s.connection.isSome then s
      else
        match s.registry.lookup publicKey.toList with
        | .ok peer => { s with connection := some ⟨peer, session, .top⟩ }
        | .error _ => s
  | .lookup => s.onConnection fun c ↦
      match c.phase with
      | .top =>
          if s.shutdown then none
          else
            match s.registry.lookup c.peer.publicKey.toList with
            | .ok _ => some { c with phase := .reading }
            | .error _ => none
      | _ => some c
  | .read frame => s.onConnection fun c ↦
      match c.phase, frame with
      | .reading, none => some { c with phase := .top }
      | .reading, some bytes =>
          some { c with phase := .handling (handleEncryptedClientFrame decodeOther bytes c.session) }
      | _, _ => some c
  | .call reply => s.onConnection fun c ↦
      match c.phase with
      | .handling (.call command next) => some { c with phase := .handling (next (reply command)) }
      | _ => some c
  | .answer => s.onConnection fun c ↦
      match c.phase with
      | .handling (.done (.ok _, session)) => some { c with session := session, phase := .top }
      | .handling (.done (.error _, _)) => none
      | _ => some c
  | .close => s.onConnection fun _ ↦ none
  | .revokePeer publicKey => (s.revokePeer publicKey).2
  | .shutdown => { s with shutdown := true }

/-- The command that a step forwards to the broker, and whose it is. -/
def forwards (s : PairedLanService A) : LanStep A → Option (PublicKey × BrokerCommand)
  | .call _ => s.connection.bind fun c ↦
      match c.phase with
      | .handling (.call command _) => some (c.peer.publicKey, command)
      | _ => none
  | _ => none

end PairedLanService

/-- The connection may call the broker before it looks its peer up again. -/
def LanConnection.Exposed (decodeOther : OtherDecoders) (c : LanConnection A) : Prop :=
  match c.phase with
  | .top => False
  | .reading => ∃ bytes command next,
      (handleEncryptedClientFrame decodeOther bytes c.session : Handling A PairedLanError)
        = .call command next
  | .handling rest => ∃ command next, rest = .call command next

namespace PairedLanService

variable {decodeOther : OtherDecoders} {s : PairedLanService A} {publicKey : PublicKey}

theorem revokePeer_eq (s : PairedLanService A) (publicKey : PublicKey) : s.revokePeer publicKey
    = ((s.registry.revoke publicKey).1.mapError .pairing,
      { s with registry := (s.registry.revoke publicKey).2 }) := by
  unfold revokePeer
  generalize s.registry.revoke publicKey = revoked
  rfl

/-- The peer has been revoked, and its connection is not exposed. -/
structure CutOff (decodeOther : OtherDecoders) (publicKey : PublicKey) (s : PairedLanService A) :
    Prop where
  revoked : s.registry.Revokes publicKey
  idle : ∀ c, s.connection = some c → c.peer.publicKey = publicKey → ¬c.Exposed decodeOther

/-- What the connection does keeps its peer cut off. -/
theorem CutOff.onConnection (h : s.CutOff decodeOther publicKey)
    {act : LanConnection A → Option (LanConnection A)}
    (hact : ∀ c c', act c = some c' → c'.peer = c.peer
      ∧ (c.peer.publicKey = publicKey → ¬c.Exposed decodeOther → ¬c'.Exposed decodeOther)) :
    (s.onConnection act).CutOff decodeOther publicKey where
  revoked := h.revoked
  idle c' hc' hpeer := by
    obtain ⟨c, hc, hstep⟩ := Option.bind_eq_some_iff.mp hc'
    obtain ⟨hsame, hexposed⟩ := hact c c' hstep
    rw [hsame] at hpeer
    exact hexposed hpeer (h.idle c hc hpeer)

/-- A registry in which the peer stays revoked. -/
theorem CutOff.registry (h : s.CutOff decodeOther publicKey) {registry : PeerRegistry}
    (hrevoked : registry.Revokes publicKey) :
    CutOff decodeOther publicKey { s with registry := registry } :=
  ⟨hrevoked, h.idle⟩

/-- A new connection is not exposed. -/
theorem CutOff.connect (h : s.CutOff decodeOther publicKey) (peer : PeerRecord)
    (session : ClientSession) :
    CutOff decodeOther publicKey
      { s with connection := some (⟨peer, session, .top⟩ : LanConnection A) } where
  revoked := h.revoked
  idle c hc _ := by
    cases hc
    exact id

theorem revokes_of_revokePeer (h : s.registry.Revokes publicKey) (other : PublicKey) :
    (s.registry.revoke other).2.Revokes publicKey := by
  by_cases hother : publicKey = other
  · subst hother
    by_cases hok : (s.registry.revoke publicKey).1 = .ok ()
    · exact PeerRegistry.revokes_revoke hok
    · rwa [PeerRegistry.revoke_of_ne_ok hok]
  · obtain ⟨record, hrecord, hrevoked⟩ := h
    exact ⟨record, (PeerRegistry.record_revoke hother).trans hrecord, hrevoked⟩

theorem revokes_of_confirmPairing (h : s.registry.Revokes publicKey)
    (unconfirmed : UnconfirmedNoiseChannel) (code : ComparisonCode) (role : PresentationRole) :
    (s.registry.confirmPairing unconfirmed code role).2.Revokes publicKey := by
  obtain ⟨record, hrecord, hrevoked⟩ := h
  exact ⟨record, PeerRegistry.record_confirmPairing hrecord, hrevoked⟩

theorem cutOff_pair (h : s.CutOff decodeOther publicKey) (unconfirmed : UnconfirmedNoiseChannel)
    (code : ComparisonCode) (role : PresentationRole) (session : ClientSession) :
    (s.step decodeOther (.pair unconfirmed code role session)).CutOff decodeOther publicKey := by
  have hrevoked := revokes_of_confirmPairing h.revoked unconfirmed code role
  unfold step
  dsimp only
  split
  · exact h
  · generalize s.registry.confirmPairing unconfirmed code role = confirmed at hrevoked ⊢
    obtain ⟨result, registry⟩ := confirmed
    cases result with
    | ok peer => exact (h.registry hrevoked).connect peer session
    | error error => exact h.registry hrevoked

theorem cutOff_lookup (h : s.CutOff decodeOther publicKey) :
    (s.step decodeOther .lookup).CutOff decodeOther publicKey := by
  refine h.onConnection fun c c' hstep ↦ ?_
  cases hphase : c.phase with
  | top =>
      simp only [hphase] at hstep
      split at hstep
      · cases hstep
      · split at hstep
        · rename_i found hfound
          cases hstep
          refine ⟨rfl, fun hpeer ↦ ?_⟩
          rw [hpeer, PeerRegistry.lookup_of_revokes h.revoked] at hfound
          cases hfound
        · cases hstep
  | reading =>
      simp only [hphase] at hstep
      cases hstep
      exact ⟨rfl, fun _ ↦ id⟩
  | handling rest =>
      simp only [hphase] at hstep
      cases hstep
      exact ⟨rfl, fun _ ↦ id⟩

theorem cutOff_read (h : s.CutOff decodeOther publicKey) (frame : Option (List UInt8)) :
    (s.step decodeOther (.read frame)).CutOff decodeOther publicKey := by
  refine h.onConnection fun c c' hstep ↦ ?_
  cases hphase : c.phase with
  | top =>
      simp only [hphase] at hstep
      cases hstep
      exact ⟨rfl, fun _ ↦ id⟩
  | reading =>
      cases frame with
      | none =>
          simp only [hphase] at hstep
          cases hstep
          exact ⟨rfl, fun _ _ ↦ id⟩
      | some bytes =>
          simp only [hphase] at hstep
          cases hstep
          refine ⟨rfl, fun _ hidle ↦ ?_⟩
          rintro ⟨command, next, hcall⟩
          refine hidle ?_
          unfold LanConnection.Exposed
          rw [hphase]
          exact ⟨bytes, command, next, hcall⟩
  | handling rest =>
      simp only [hphase] at hstep
      cases hstep
      exact ⟨rfl, fun _ ↦ id⟩

theorem cutOff_call (h : s.CutOff decodeOther publicKey)
    (reply : (command : BrokerCommand) → command.Reply A) :
    (s.step decodeOther (.call reply)).CutOff decodeOther publicKey := by
  refine h.onConnection fun c c' hstep ↦ ?_
  split at hstep
  · rename_i command next hphase
    cases hstep
    refine ⟨rfl, fun _ hidle ↦ absurd ?_ hidle⟩
    unfold LanConnection.Exposed
    rw [hphase]
    exact ⟨command, next, rfl⟩
  · cases hstep
    exact ⟨rfl, fun _ ↦ id⟩

theorem cutOff_answer (h : s.CutOff decodeOther publicKey) :
    (s.step decodeOther .answer).CutOff decodeOther publicKey := by
  refine h.onConnection fun c c' hstep ↦ ?_
  split at hstep
  · cases hstep
    exact ⟨rfl, fun _ _ ↦ id⟩
  · cases hstep
  · cases hstep
    exact ⟨rfl, fun _ ↦ id⟩

theorem cutOff_close (h : s.CutOff decodeOther publicKey) :
    (s.step decodeOther .close).CutOff decodeOther publicKey := by
  refine h.onConnection fun c c' hstep ↦ ?_
  cases hstep

/-- A peer that is cut off stays so. -/
theorem cutOff_step (s : PairedLanService A) (i : LanStep A) (h : s.CutOff decodeOther publicKey) :
    (s.step decodeOther i).CutOff decodeOther publicKey := by
  cases i with
  | pair unconfirmed code role session => exact cutOff_pair h unconfirmed code role session
  | resume other session =>
      unfold step
      dsimp only
      split
      · exact h
      · split
        · exact h.connect _ session
        · exact h
  | lookup => exact cutOff_lookup h
  | read frame => exact cutOff_read h frame
  | call reply => exact cutOff_call h reply
  | answer => exact cutOff_answer h
  | close => exact cutOff_close h
  | revokePeer other =>
      show (s.revokePeer other).2.CutOff decodeOther publicKey
      rw [revokePeer_eq]
      exact h.registry (revokes_of_revokePeer h.revoked other)
  | shutdown => exact ⟨h.revoked, h.idle⟩

/-- Nothing of a peer that is cut off is forwarded. -/
theorem CutOff.forwards_ne (h : s.CutOff decodeOther publicKey) (i : LanStep A)
    (command : BrokerCommand) : s.forwards i ≠ some (publicKey, command) := by
  intro hforwards
  cases i with
  | call reply =>
      obtain ⟨c, hc, hphase⟩ := Option.bind_eq_some_iff.mp hforwards
      split at hphase
      · rename_i _ next hcall
        cases hphase
        refine h.idle c hc rfl ?_
        unfold LanConnection.Exposed
        rw [hcall]
        exact ⟨command, next, rfl⟩
      · cases hphase
  | _ => cases hforwards

/-- What an exposed connection goes on to forward. -/
theorem forwards_of_exposed {c : LanConnection A} (hc : s.connection = some c)
    (h : c.Exposed decodeOther) (reply : (command : BrokerCommand) → command.Reply A) :
    ∃ steps command, (run (step decodeOther) s steps).forwards (.call reply)
      = some (c.peer.publicKey, command) := by
  unfold LanConnection.Exposed at h
  split at h
  · exact h.elim
  · rename_i hphase
    obtain ⟨bytes, command, next, hcall⟩ := h
    refine ⟨[.read (some bytes)], command, ?_⟩
    simp only [run_cons, run_nil, step, onConnection, forwards, hc, Option.bind_some, hphase, hcall]
  · rename_i rest hphase
    obtain ⟨command, next, rfl⟩ := h
    refine ⟨[], command, ?_⟩
    simp only [run_nil, forwards, hc, Option.bind_some, hphase]

theorem revokePeer_eq_ok : (s.revokePeer publicKey).1 = .ok () ↔
    (s.registry.revoke publicKey).1 = .ok () := by
  rw [revokePeer_eq]
  exact mapError_eq_ok

/-- A peer whose revocation has succeeded in some run is cut off from the broker, whatever
happens then, if and only if its connection was not exposed. -/
theorem revocation_cuts_off_iff (decodeOther : OtherDecoders) (registry : PeerRegistry)
    (before : List (LanStep A)) (publicKey : PublicKey)
    (h : ((run (step decodeOther) (start registry) before).revokePeer publicKey).1 = .ok ()) :
    (∀ between i command, (run (step decodeOther) (start registry)
      (before ++ .revokePeer publicKey :: between)).forwards i ≠ some (publicKey, command)) ↔
      ∀ c, (run (step decodeOther) (start registry) before).connection = some c →
        c.peer.publicKey = publicKey → ¬c.Exposed decodeOther := by
  simp only [run_append, run_cons]
  generalize run (step decodeOther) (start registry) before = s at h ⊢
  have hrevoked := PeerRegistry.revokes_revoke (revokePeer_eq_ok.mp h)
  have hstep : s.step decodeOther (.revokePeer publicKey)
      = { s with registry := (s.registry.revoke publicKey).2 } :=
    congrArg Prod.snd (revokePeer_eq s publicKey)
  rw [hstep]
  constructor
  · rintro hnone c hc rfl hexposed
    obtain ⟨steps, command, hforwards⟩ :=
      forwards_of_exposed
        (s := { s with registry := (s.registry.revoke c.peer.publicKey).2 }) hc hexposed
        fun _ ↦ .error .queueFull
    exact hnone steps _ command hforwards
  · intro hidle between i command
    have hcut : CutOff decodeOther publicKey
        { s with registry := (s.registry.revoke publicKey).2 } :=
      ⟨hrevoked, hidle⟩
    exact (run_invariant _ _ cutOff_step hcut between).forwards_ne i command

def controllingPeer : PeerRecord where
  publicKey := Vector.replicate 32 1
  role := .flightController
  revoked := false

theorem revoke_controllingPeer :
    (PeerRegistry.revoke ⟨[controllingPeer]⟩ controllingPeer.publicKey).1 = .ok () := by
  unfold PeerRegistry.revoke PeerRegistry.revokeIn
  rw [if_pos rfl]

/-- A peer that is revoked before it is connected. -/
theorem revocation_cuts_off_controllingPeer : ¬∃ between i command,
    (run (step fun _ _ _ ↦ .ok ()) (start (A := lifecycleAuthority) ⟨[controllingPeer]⟩)
      ([] ++ .revokePeer controllingPeer.publicKey :: between)).forwards i
        = some (controllingPeer.publicKey, command) := by
  have hrevoked : (revokePeer (start (A := lifecycleAuthority) ⟨[controllingPeer]⟩)
      controllingPeer.publicKey).1 = .ok () := revokePeer_eq_ok.mpr revoke_controllingPeer
  rintro ⟨between, i, command, hforwards⟩
  refine (revocation_cuts_off_iff (fun _ _ _ ↦ .ok ()) ⟨[controllingPeer]⟩ []
    controllingPeer.publicKey hrevoked).mpr ?_ between i command hforwards
  rintro c hc
  cases hc

/-- The peer is revoked while its connection waits for a frame. -/
theorem command_after_revocation : ¬∀ (A : BrokerAuthority) (decodeOther : OtherDecoders)
    (registry : PeerRegistry) (before : List (LanStep A)) (publicKey : PublicKey),
      ((run (step decodeOther) (start registry) before).revokePeer publicKey).1 = .ok () →
        ∀ between i command, (run (step decodeOther) (start registry)
          (before ++ .revokePeer publicKey :: between)).forwards i ≠ some (publicKey, command) := by
  intro h
  have hcall : (handleEncryptedClientFrame (fun _ _ _ ↦ .ok ()) pauseFrame.bytes controllingSession :
      Handling lifecycleAuthority PairedLanError) = handleEncryptedClientPayload
        { controllingSession with inboundSequence := ⟨99, 3⟩ } (.lifecycleControl ⟨.paused, 5000⟩) :=
    handleEncryptedClientFrame_of_admits (admits_pauseFrame _)
  refine h lifecycleAuthority (fun _ _ _ ↦ .ok ()) ⟨[controllingPeer]⟩
    [.resume controllingPeer.publicKey controllingSession, .lookup] controllingPeer.publicKey rfl
    [.read (some pauseFrame.bytes)] (.call fun _ ↦ .error .queueFull) (.lifecycle 7 .paused) ?_
  show forwards (PairedLanService.mk _ _ (some (LanConnection.mk controllingPeer controllingSession
    (.handling (handleEncryptedClientFrame _ pauseFrame.bytes controllingSession))))) _ = _
  rw [hcall]
  rfl

end PairedLanService

end Ksa64.Broker
