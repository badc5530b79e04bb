import Ksa64.Broker.Lan
import Ksa64.Broker.Network

/-!
# Frames that are rejected

Both transports look at what a frame asks for before they call the broker, but for one kind of
frame: a lifecycle control has the lifecycle switched first, and is then rejected if it asks for
too many releases.  `rejection_spares_authority_iff` says that this is the only way in which a
frame that is rejected changes the authority.
-/

namespace Ksa64.Broker

open Ksa64.Library
open Ksa64.Presentation

section Rejection

variable {A : BrokerAuthority} {ε : Type} {kind : ε → Prop} {errors : TransportErrors ε}
  {s : ClientSession} {b : SessionBroker A}

/-- Switch the lifecycle, then reject. -/
theorem spares_ask_lifecycle_iff (hcontrol : kind errors.control)
    (hbroker : ∀ error, ¬kind (errors.broker error)) (requested : PresentationLifecycle) :
    Spares kind (errors.ask s (.lifecycle s.clientId requested) fun _ ↦
      .done (.error errors.control, s)) b ↔ ¬Switches s.clientId requested b := by
  unfold Spares
  rw [fst_serve, authorityState_serve]
  unfold TransportErrors.ask
  rw [Calls.run_call]
  have hfails {error : BrokerError} : ¬Rejected kind
      ((.error (errors.broker error), s) : Attempt ε ClientSession (ClientReply A)) :=
    fun h ↦ hbroker error (rejected_error.mp h)
  have hvoid (error : BrokerError) (b' : SessionBroker A)
      (h : ¬Switches s.clientId requested b) :
      (Rejected kind ((.error (errors.broker error), s) : Attempt ε ClientSession (ClientReply A)) →
        b'.authorityState = b.authorityState) ↔ ¬Switches s.clientId requested b :=
    iff_of_true (fun hrejected ↦ absurd hrejected hfails) h
  unfold SessionBroker.request
  cases hdelivery : b.deliveries 0 with
  | answered =>
      unfold handleCommand Worker.control
      dsimp only
      cases hcontroller : b.worker.state.requireController s.clientId with
      | error error =>
          refine hvoid error _ fun h ↦ ?_
          cases hcontroller.symm.trans h.controls
      | ok _ =>
          dsimp only
          cases hgranted : (A.requestLifecycle requested b.worker.authority).1 with
          | error error =>
              refine hvoid (.authority error) _ fun h ↦ ?_
              cases hgranted.symm.trans h.granted
          | ok _ =>
              constructor
              · intro hspared hswitches
                have hsame := hspared (rejected_error.mpr hcontrol)
                exact hswitches.changes (congrArg Prod.fst hsame)
              · intro hswitches _
                refine Prod.ext (not_not.mp fun hchanges ↦ ?_) rfl
                exact hswitches ⟨hdelivery, hcontroller, hgranted, hchanges⟩
  | queueFull => exact hvoid _ _ fun h ↦ nomatch hdelivery.symm.trans h.answered
  | timeout handled => exact hvoid _ _ fun h ↦ nomatch hdelivery.symm.trans h.answered
  | workerGone handled => exact hvoid _ _ fun h ↦ nomatch hdelivery.symm.trans h.answered

/-- What a transport does for its frames, if it rejects late only a lifecycle control that asks
for too much. -/
theorem spares_frame_iff (hcontrol : kind errors.control)
    (hbroker : ∀ error, ¬kind (errors.broker error)) {maxReleases : UInt32}
    {decodeOther : OtherDecoders} {bytes : List UInt8} {frame : Handling A ε}
    {onPayload : ClientSession → PresentationPayload → Handling A ε}
    (hcases : (∃ error s', frame = .done (.error error, s'))
      ∨ ∃ payload s', Admits decodeOther bytes s payload s' ∧ frame = onPayload s' payload)
    (hadmits : ∀ {payload s'}, Admits decodeOther bytes s payload s' → frame = onPayload s' payload)
    (hbeyond : ∀ s' control, maxReleases < control.boundedReleases →
      onPayload s' (.lifecycleControl control)
        = errors.ask s' (.lifecycle s'.clientId control.requested) fun _ ↦
          .done (.error errors.control, s'))
    (hfirst : ∀ s' payload, (∀ control, payload = .lifecycleControl control →
      ¬maxReleases < control.boundedReleases) →
        (onPayload s' payload).RejectsFirst SessionBroker.Reads (Rejected kind)) :
    Spares kind frame b ↔ ¬SwitchesBeyond maxReleases decodeOther bytes s b := by
  have hclient {payload : PresentationPayload} {s' : ClientSession}
      (h : Admits decodeOther bytes s payload s') : s'.clientId = s.clientId := by
    obtain ⟨_, -, -, -, rfl, -⟩ := h.frame
    rfl
  constructor
  · rintro hspares ⟨control, s', hadmitted, hmax, hswitches⟩
    rw [hadmits hadmitted, hbeyond s' control hmax, spares_ask_lifecycle_iff hcontrol hbroker,
      hclient hadmitted] at hspares
    exact hspares hswitches
  · intro hnot
    rcases hcases with ⟨error, s', rfl⟩ | ⟨payload, s', hadmitted, rfl⟩
    · exact spares_of_rejectsFirst trivial
    · by_cases hlate : ∃ control, payload = .lifecycleControl control
        ∧ maxReleases < control.boundedReleases
      · obtain ⟨control, rfl, hmax⟩ := hlate
        rw [hbeyond s' control hmax, spares_ask_lifecycle_iff hcontrol hbroker, hclient hadmitted]
        exact fun hswitches ↦ hnot ⟨control, s', hadmitted, hmax, hswitches⟩
      · refine spares_of_rejectsFirst (hfirst s' payload fun control hpayload hmax ↦ ?_)
        exact hlate ⟨control, hpayload, hmax⟩

variable {decodeOther : OtherDecoders} {bytes : List UInt8}

theorem spares_handleClientFrame_iff :
    Spares NetworkServiceError.IsProtocol (handleClientFrame decodeOther bytes s) b ↔
      ¬SwitchesBeyond maxControlAdvanceReleases decodeOther bytes s b := by
  have hbroker (error : BrokerError) :
      ¬NetworkServiceError.IsProtocol (NetworkServiceError.errors.broker error) := id
  refine spares_frame_iff trivial hbroker handleClientFrame_cases handleClientFrame_of_admits
    (fun s' control hmax ↦ ?_) fun s' payload hwithin ↦ ?_
  · have hsome : 0 < control.boundedReleases := by
      rw [UInt32.lt_iff_toNat_lt] at hmax ⊢
      exact Nat.zero_lt_of_lt hmax
    unfold handleClientPayload
    simp only [if_pos hsome, if_pos hmax]
    rfl
  · cases payload with
    | lifecycleControl control =>
        refine (returns_ask hbroker fun _ ↦ ?_).rejectsFirst
        rw [if_neg (hwithin control rfl)]
        split
        · exact returns_ask hbroker fun _ ↦ returns_ok _ s'
        · exact returns_ok _ s'
    | paceControl control => exact rejectsFirst_paceControl hbroker _ control
    | actionIntent intent => exact rejectsFirst_actionIntent hbroker intent
    | globalDisplayRangeRequest request => exact rejectsFirst_globalDisplayRangeRequest request
    | replayControl cursors => trivial
    | other kind => trivial

theorem spares_handleEncryptedClientFrame_iff :
    Spares PairedLanError.IsProtocol (handleEncryptedClientFrame decodeOther bytes s) b ↔
      ¬SwitchesBeyond lanMaxControlAdvanceReleases decodeOther bytes s b := by
  have hbroker (error : BrokerError) :
      ¬PairedLanError.IsProtocol (PairedLanError.errors.broker error) := id
  refine spares_frame_iff trivial hbroker handleEncryptedClientFrame_cases
    handleEncryptedClientFrame_of_admits (fun s' control hmax ↦ ?_) fun s' payload hwithin ↦ ?_
  · unfold handleEncryptedClientPayload
    simp only [if_pos hmax]
    rfl
  · cases payload with
    | lifecycleControl control =>
        refine (returns_ask hbroker fun _ ↦ ?_).rejectsFirst
        rw [if_neg (hwithin control rfl)]
        split
        · exact returns_ask hbroker fun _ ↦ returns_ok _ s'
        · exact returns_ok _ s'
    | paceControl control => exact rejectsFirst_paceControl hbroker _ control
    | actionIntent intent => exact rejectsFirst_actionIntent hbroker intent
    | globalDisplayRangeRequest request => exact rejectsFirst_globalDisplayRangeRequest request
    | replayControl cursors => trivial
    | other kind => trivial

end Rejection

/-- A frame that is rejected leaves the authority and the control lease in both transports, but
for a lifecycle control that has switched the lifecycle and asks for too many releases. -/
theorem rejection_spares_authority_iff {A : BrokerAuthority} (decodeOther : OtherDecoders)
    (bytes : List UInt8) (s : ClientSession) (b : SessionBroker A) :
    (Spares NetworkServiceError.IsProtocol (handleClientFrame decodeOther bytes s) b ↔
      ¬SwitchesBeyond maxControlAdvanceReleases decodeOther bytes s b)
      ∧ (Spares PairedLanError.IsProtocol (handleEncryptedClientFrame decodeOther bytes s) b ↔
        ¬SwitchesBeyond lanMaxControlAdvanceReleases decodeOther bytes s b) :=
  ⟨spares_handleClientFrame_iff, spares_handleEncryptedClientFrame_iff⟩

/-- An authority that has nothing but a lifecycle, and lets it be set. -/
def lifecycleAuthority : BrokerAuthority where
  State := PresentationLifecycle
  ActionReceiptView := Unit
  GlobalDisplayPublication := Unit
  advanceBounded releases lifecycle := (.ok releases, lifecycle)
  setPace _ lifecycle := (.ok (), lifecycle)
  requestLifecycle requested _ := (.ok (), requested)
  stepOneRelease lifecycle := (.ok 1, lifecycle)
  submitAction _ lifecycle := (.ok (), lifecycle)
  globalDisplay _ _ := none

def runningBroker : SessionBroker lifecycleAuthority where
  worker := ⟨PresentationLifecycle.running, ⟨[7], some 7⟩⟩
  deliveries _ := .answered

theorem switchesBeyond_pauseFrame (decodeOther : OtherDecoders) :
    SwitchesBeyond 4096 decodeOther pauseFrame.bytes controllingSession runningBroker :=
  ⟨_, _, admits_pauseFrame decodeOther, by decide, rfl, rfl, rfl, nofun⟩

/-- The client is told that its frame breaks the protocol, and the session is paused. -/
theorem rejected_pause_applied :
    (¬∀ (A : BrokerAuthority) (decodeOther : OtherDecoders) (bytes : List UInt8)
      (s : ClientSession) (b : SessionBroker A),
        Spares NetworkServiceError.IsProtocol (handleClientFrame decodeOther bytes s) b)
      ∧ ¬∀ (A : BrokerAuthority) (decodeOther : OtherDecoders) (bytes : List UInt8)
        (s : ClientSession) (b : SessionBroker A),
          Spares PairedLanError.IsProtocol (handleEncryptedClientFrame decodeOther bytes s) b := by
  have hbeyond := switchesBeyond_pauseFrame fun _ _ _ ↦ .ok ()
  constructor
  · intro h
    exact spares_handleClientFrame_iff.mp (h _ _ _ _ runningBroker) hbeyond
  · intro h
    exact spares_handleEncryptedClientFrame_iff.mp (h _ _ _ _ runningBroker) hbeyond

end Ksa64.Broker
