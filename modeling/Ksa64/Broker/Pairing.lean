import Ksa64.Library.Run
import Ksa64.Broker.Peers
import Ksa64.Broker.Worker

/-!
# Pairing with a new peer

A connection publishes the pairing it asks for, and waits until the operator confirms or rejects
it, the time is over or the service is shut down.  The coordinator is shared under a lock; the
waiter gives the lock away while it sleeps on a condition variable.

`PairingSystem` has the connection, the operator and the clock take their steps in any order.
`confirm_answered_iff` says in which runs the waiter returns what the operator was told.
-/

namespace Ksa64.Broker

open Ksa64.Library
open Ksa64.Presentation

inductive PairedLanError where
  | config
  | bind
  | thread
  | io
  | connectionClosed
  | connectionLimit
  | selector
  | handshakeLength
  | pairing (error : NoiseTransportError)
  | pairingUnavailable
  | pairingRejected
  | pairingExpired
  | protocol
  | protocolFrame
  | protocolPayload
  | protocolSequence
  | protocolEncode (kind : PresentationMessageKind)
  | protocolControl
  | protocolSequenceOverflow
  | evidence
  | broker (error : BrokerError)
  | shutdown
deriving DecidableEq

structure PendingLanPairing where
  pairingId : UInt64
  remotePublicKey : PublicKey
  comparisonCode : ComparisonCode
  assignedRole : PresentationRole
deriving DecidableEq

inductive PairingDecision where
  | confirmed (code : ComparisonCode)
  | rejected
deriving DecidableEq

structure PairingState where
  pending : Option PendingLanPairing
  decision : Option PairingDecision
deriving DecidableEq

structure PairingCoordinator where
  state : PairingState
  nextId : UInt64
deriving DecidableEq

namespace PairingCoordinator

def new : PairingCoordinator where
  state := ⟨none, none⟩
  nextId := 1

variable (c : PairingCoordinator)

def publish (unconfirmed : UnconfirmedNoiseChannel) (role : PresentationRole) :
    Attempt PairedLanError PairingCoordinator PendingLanPairing :=
  if c.state.pending.isSome then (.error .pairingUnavailable, c)
  else
    let pairingId := c.nextId
    let nextId := c.nextId + 1
    if pairingId = 0 then (.error .pairingUnavailable, { c with nextId := nextId })
    else
      let pending : PendingLanPairing :=
        { pairingId := pairingId
          remotePublicKey := unconfirmed.remoteStatic
          comparisonCode := unconfirmed.comparisonCode
          assignedRole := role }
      (.ok pending, ⟨⟨some pending, none⟩, nextId⟩)

def confirm (pairingId : UInt64) (code : ComparisonCode) :
    Attempt PairedLanError PairingCoordinator Unit :=
  match c.state.pending with
  | none => (.error .pairingUnavailable, c)
  | some pending =>
      if pending.pairingId ≠ pairingId then (.error .pairingUnavailable, c)
      else if pending.comparisonCode ≠ code then (.error (.pairing .comparisonMismatch), c)
      else if c.state.decision.isSome then (.error .pairingUnavailable, c)
      else (.ok (), { c with state := { c.state with decision := some (.confirmed code) } })

def reject (pairingId : UInt64) : Attempt PairedLanError PairingCoordinator Unit :=
  match c.state.pending with
  | none => (.error .pairingUnavailable, c)
  | some pending =>
      if pending.pairingId ≠ pairingId ∨ c.state.decision.isSome then
        (.error .pairingUnavailable, c)
      else (.ok (), { c with state := { c.state with decision := some .rejected } })

end PairingCoordinator

namespace PairingState

variable (s : PairingState) (pairingId : UInt64) (deadline now : Nat) (shutdown timedOut : Bool)

/-- A turn of the waiter's loop, while it has the lock: it returns, or it goes to sleep. -/
def turn : Option (Except PairedLanError PairingDecision) × PairingState :=
  if shutdown then (some (.error .shutdown), ⟨none, none⟩)
  else if s.pending.map (·.pairingId) ≠ some pairingId then (some (.error .pairingUnavailable), s)
  else
    match s.decision with
    | some decision => (some (.ok decision), ⟨none, none⟩)
    | none =>
        if deadline ≤ now then (some (.error .pairingExpired), ⟨none, none⟩)
        else (none, s)

/-- The waiter has the lock again: if its time was over it does not look at the decision. -/
def resume : Option (Except PairedLanError PairingDecision) × PairingState :=
  if timedOut then (some (.error .pairingExpired), ⟨none, none⟩)
  else s.turn pairingId deadline now shutdown

/-- What the waiter does when it has the lock again, as long as its own pairing is pending. -/
inductive Resumes : Option (Except PairedLanError PairingDecision) × PairingState → Prop
  | late (hlate : timedOut = true) : Resumes (some (.error .pairingExpired), ⟨none, none⟩)
  | stopped (hshutdown : shutdown = true) : Resumes (some (.error .shutdown), ⟨none, none⟩)
  | decided {decision : PairingDecision} (hdecision : s.decision = some decision) :
      Resumes (some (.ok decision), ⟨none, none⟩)
  | expired (hdecision : s.decision = none) :
      Resumes (some (.error .pairingExpired), ⟨none, none⟩)
  | sleeps (hdecision : s.decision = none) : Resumes (none, s)

variable {s pairingId} in
theorem resumes_resume (hpending : s.pending.map (·.pairingId) = some pairingId) :
    s.Resumes shutdown timedOut (s.resume pairingId deadline now shutdown timedOut) := by
  unfold resume turn
  by_cases hlate : timedOut = true
  · rw [if_pos hlate]
    exact .late hlate
  · rw [if_neg hlate]
    by_cases hshutdown : shutdown = true
    · rw [if_pos hshutdown]
      exact .stopped hshutdown
    · rw [if_neg hshutdown, if_neg (not_not.mpr hpending)]
      cases hdecision : s.decision with
      | some decision => exact .decided hdecision
      | none =>
          dsimp only
          split
          · exact .expired hdecision
          · exact .sleeps hdecision

end PairingState

/-! ## The connection, the operator and the clock -/

/-- Where the connection is that published the pairing: it may be about to take the lock, with its
time over or not, or sleep. -/
inductive Waiter where
  | idle
  | published (pairingId : UInt64)
  | locking (pairingId : UInt64) (deadline : Nat) (timedOut : Bool)
  | asleep (pairingId : UInt64) (deadline : Nat)
deriving DecidableEq

namespace Waiter

/-- The pairing that is waited for. -/
def pairing : Waiter → Option UInt64
  | idle => none
  | published pairingId | locking pairingId _ _ | asleep pairingId _ => some pairingId

def notified : Waiter → Waiter
  | asleep pairingId deadline => locking pairingId deadline false
  | w => w

@[simp] theorem pairing_notified (w : Waiter) : w.notified.pairing = w.pairing := by
  cases w <;> rfl

theorem notified_ne_asleep (w : Waiter) (pairingId : UInt64) (deadline : Nat) :
    w.notified ≠ asleep pairingId deadline := by
  cases w <;> exact nofun

end Waiter

/-- The coordinator and all that happens around it; `accepted` is the confirmation that was
accepted last, until the waiter returns. -/
structure PairingSystem where
  coordinator : PairingCoordinator
  waiter : Waiter
  shutdown : Bool
  now : Nat
  accepted : Option (UInt64 × ComparisonCode)
deriving DecidableEq

inductive PairingStep where
  /-- A connection publishes a pairing. -/
  | publish (unconfirmed : UnconfirmedNoiseChannel) (role : PresentationRole)
  /-- It begins to wait, so long. -/
  | wait (timeout : Nat)
  /-- It gets the lock. -/
  | lock
  /-- Its sleep is over because its time is. -/
  | expire
  /-- It is woken, by the service that is shut down or for no reason. -/
  | notify
  | confirm (pairingId : UInt64) (code : ComparisonCode)
  | reject (pairingId : UInt64)
  | shutdown
  | tick
deriving DecidableEq

namespace PairingSystem

def start : PairingSystem where
  coordinator := .new
  waiter := .idle
  shutdown := false
  now := 0
  accepted := none

def step (s : PairingSystem) : PairingStep → PairingSystem
  | .publish unconfirmed role =>
      match s.coordinator.publish unconfirmed role with
      | (.ok pending, c) => { s with coordinator := c, waiter := .published pending.pairingId }
      | (.error _, c) => { s with coordinator := c }
  | .wait timeout =>
      match s.waiter with
      | .published pairingId => { s with waiter := .locking pairingId (s.now + timeout) false }
      | _ => s
  | .lock =>
      match s.waiter with
      | .locking pairingId deadline timedOut =>
          match s.coordinator.state.resume pairingId deadline s.now s.shutdown timedOut with
          | (some _, state) =>
              { s with
                coordinator := { s.coordinator with state := state }
                waiter := .idle
                accepted := none }
          | (none, state) =>
              { s with
                coordinator := { s.coordinator with state := state }
                waiter := .asleep pairingId deadline }
      | _ => s
  | .expire =>
      match s.waiter with
      | .asleep pairingId deadline =>
          if deadline ≤ s.now then { s with waiter := .locking pairingId deadline true } else s
      | _ => s
  | .notify => { s with waiter := s.waiter.notified }
  | .confirm pairingId code =>
      match s.coordinator.confirm pairingId code with
      | (.ok (), c) =>
          { s with coordinator := c, waiter := s.waiter.notified, accepted := some (pairingId, code) }
      | (.error _, c) => { s with coordinator := c }
  | .reject pairingId =>
      match s.coordinator.reject pairingId with
      | (.ok (), c) => { s with coordinator := c, waiter := s.waiter.notified }
      | (.error _, c) => { s with coordinator := c }
  | .shutdown => { s with shutdown := true }
  | .tick => { s with now := s.now + 1 }

/-- What the waiter returns in a step, and for which pairing. -/
def returns (s : PairingSystem) : PairingStep → Option (UInt64 × Except PairedLanError PairingDecision)
  | .lock =>
      match s.waiter with
      | .locking pairingId deadline timedOut =>
          (s.coordinator.state.resume pairingId deadline s.now s.shutdown timedOut).1.map
            (pairingId, ·)
      | _ => none
  | _ => none

/-- The waiter whose pairing has been confirmed is not asleep, and it returns the confirmation
unless the service is shut down; no other waiter returns one. -/
structure Answered (s : PairingSystem) (i : PairingStep) : Prop where
  confirmed : ∀ pairingId code result, s.accepted = some (pairingId, code) →
    s.returns i = some (pairingId, result) → result = .ok (.confirmed code) ∨ s.shutdown = true
  accepted : ∀ pairingId code, s.returns i = some (pairingId, .ok (.confirmed code)) →
    s.accepted = some (pairingId, code)
  awake : ∀ pairingId code, s.accepted = some (pairingId, code) →
    s.waiter = .published pairingId ∨ ∃ result, s.returns .lock = some (pairingId, result)

/-- The waiter gets the lock after its time was over, while a confirmation is there. -/
structure Discards (s : PairingSystem) (i : PairingStep) : Prop where
  locks : i = .lock
  late : ∃ pairingId deadline, s.waiter = .locking pairingId deadline true
  stored : ∃ code, s.coordinator.state.decision = some (.confirmed code)
  running : s.shutdown = false

/-! ## What every run keeps -/

/-- The pairing that is pending is that of the waiter, the confirmation that was accepted is
stored for it, and it does not sleep over a decision. -/
structure Inv (s : PairingSystem) : Prop where
  pending : s.coordinator.state.pending.map (·.pairingId) = s.waiter.pairing
  accepted : ∀ pairingId code, s.accepted = some (pairingId, code) ↔
    s.waiter.pairing = some pairingId ∧ s.coordinator.state.decision = some (.confirmed code)
  asleep : ∀ pairingId deadline, s.waiter = .asleep pairingId deadline →
    s.coordinator.state.decision = none

theorem inv_start : start.Inv where
  pending := rfl
  accepted _ _ := ⟨nofun, fun h ↦ nomatch h.1⟩
  asleep := nofun

variable {s : PairingSystem}

/-- A waiter that is at another place, but not asleep, for the same pairing. -/
theorem Inv.move (h : s.Inv) {w : Waiter} (hpairing : w.pairing = s.waiter.pairing)
    (hasleep : ∀ pairingId deadline, w = .asleep pairingId deadline →
      s.coordinator.state.decision = none) : Inv { s with waiter := w } where
  pending := h.pending.trans hpairing.symm
  accepted pairingId code := by
    rw [h.accepted, ← hpairing]
  asleep := hasleep

theorem inv_publish (h : s.Inv) (unconfirmed : UnconfirmedNoiseChannel) (role : PresentationRole) :
    (s.step (.publish unconfirmed role)).Inv := by
  have hpending := h.pending
  show Inv (match s.coordinator.publish unconfirmed role with
    | (.ok pending, c) => { s with coordinator := c, waiter := .published pending.pairingId }
    | (.error _, c) => { s with coordinator := c })
  unfold PairingCoordinator.publish
  dsimp only
  split_ifs with hsome hzero
  · exact h
  · exact ⟨h.pending, h.accepted, h.asleep⟩
  · rw [Option.not_isSome_iff_eq_none] at hsome
    rw [hsome] at hpending
    refine ⟨rfl, fun pairingId code ↦ ⟨fun haccepted ↦ ?_, fun hdecision ↦ nomatch hdecision.2⟩, nofun⟩
    have hwaiter := ((h.accepted pairingId code).mp haccepted).1
    exact nomatch hpending.trans hwaiter

theorem inv_confirm (h : s.Inv) (pairingId : UInt64) (code : ComparisonCode) :
    (s.step (.confirm pairingId code)).Inv := by
  have hpending := h.pending
  show Inv (match s.coordinator.confirm pairingId code with
    | (.ok (), c) =>
        { s with coordinator := c, waiter := s.waiter.notified, accepted := some (pairingId, code) }
    | (.error _, c) => { s with coordinator := c })
  unfold PairingCoordinator.confirm
  cases hstate : s.coordinator.state.pending with
  | none => exact h
  | some pending =>
      dsimp only
      split_ifs with hid hcode hdecision
      · exact h
      · exact h
      · exact h
      · rw [not_not] at hid
        rw [hstate] at hpending
        have hwaiter : s.waiter.pairing = some pairingId := by
          rw [← hpending, ← hid]
          rfl
        refine ⟨?_, fun other otherCode ↦ ?_, fun other deadline hasleep ↦ ?_⟩
        · show s.coordinator.state.pending.map (·.pairingId) = s.waiter.notified.pairing
          rw [Waiter.pairing_notified, hstate, hpending]
        · show some (pairingId, code) = some (other, otherCode) ↔
            s.waiter.notified.pairing = some other
              ∧ some (PairingDecision.confirmed code) = some (.confirmed otherCode)
          rw [Waiter.pairing_notified, hwaiter]
          simp
        · exact absurd hasleep (Waiter.notified_ne_asleep _ _ _)

theorem inv_reject (h : s.Inv) (pairingId : UInt64) : (s.step (.reject pairingId)).Inv := by
  show Inv (match s.coordinator.reject pairingId with
    | (.ok (), c) => { s with coordinator := c, waiter := s.waiter.notified }
    | (.error _, c) => { s with coordinator := c })
  unfold PairingCoordinator.reject
  cases hstate : s.coordinator.state.pending with
  | none => exact h
  | some pending =>
      dsimp only
      split_ifs with hrefused
      · exact h
      · rw [not_or, not_not, Option.not_isSome_iff_eq_none] at hrefused
        refine ⟨?_, fun other code ↦ ⟨fun haccepted ↦ ?_, fun hdecision ↦ nomatch hdecision.2⟩,
          fun other deadline hasleep ↦ ?_⟩
        · show s.coordinator.state.pending.map (·.pairingId) = s.waiter.notified.pairing
          rw [Waiter.pairing_notified, h.pending]
        · have hstored := ((h.accepted other code).mp haccepted).2
          rw [hrefused.2] at hstored
          cases hstored
        · exact absurd hasleep (Waiter.notified_ne_asleep _ _ _)

theorem inv_lock (h : s.Inv) : (s.step .lock).Inv := by
  unfold step
  cases hwaiter : s.waiter with
  | locking pairingId deadline timedOut =>
      have hpending := h.pending
      rw [hwaiter] at hpending
      have hresume := PairingState.resumes_resume deadline s.now s.shutdown timedOut hpending
      have hreturned : Inv { s with
          coordinator := { s.coordinator with state := ⟨none, none⟩ }
          waiter := .idle
          accepted := none } :=
        ⟨rfl, fun _ _ ↦ ⟨nofun, fun hnone ↦ nomatch hnone.1⟩, nofun⟩
      dsimp only
      generalize s.coordinator.state.resume pairingId deadline s.now s.shutdown timedOut = turn
        at hresume ⊢
      cases hresume with
      | sleeps hdecision => exact h.move (hwaiter ▸ rfl) fun _ _ _ ↦ hdecision
      | _ => exact hreturned
  | _ => exact h

theorem inv_step (s : PairingSystem) (i : PairingStep) (h : s.Inv) : (s.step i).Inv := by
  cases i with
  | publish unconfirmed role => exact inv_publish h unconfirmed role
  | confirm pairingId code => exact inv_confirm h pairingId code
  | reject pairingId => exact inv_reject h pairingId
  | lock => exact inv_lock h
  | wait timeout =>
      unfold step
      cases hwaiter : s.waiter with
      | published pairingId => exact h.move (hwaiter ▸ rfl) nofun
      | _ => exact h
  | expire =>
      unfold step
      cases hwaiter : s.waiter with
      | asleep pairingId deadline =>
          dsimp only
          split_ifs
          · exact h.move (hwaiter ▸ rfl) nofun
          · exact h
      | _ => exact h
  | notify =>
      exact h.move (Waiter.pairing_notified s.waiter) fun _ _ hasleep ↦
        absurd hasleep (Waiter.notified_ne_asleep _ _ _)
  | shutdown => exact ⟨h.pending, h.accepted, h.asleep⟩
  | tick => exact ⟨h.pending, h.accepted, h.asleep⟩

/-! ## What the waiter returns -/

/-- Where the waiter returns. -/
theorem Inv.of_returns (h : s.Inv) {i : PairingStep} {pairingId : UInt64}
    {result : Except PairedLanError PairingDecision}
    (hreturns : s.returns i = some (pairingId, result)) :
    i = .lock ∧ s.waiter.pairing = some pairingId ∧ ∃ deadline timedOut state,
      s.waiter = .locking pairingId deadline timedOut
        ∧ s.coordinator.state.Resumes s.shutdown timedOut (some result, state) := by
  cases i with
  | lock =>
      have hpending := h.pending
      unfold returns at hreturns
      cases hwaiter : s.waiter with
      | locking id deadline timedOut =>
          rw [hwaiter] at hreturns hpending
          dsimp only at hreturns
          obtain ⟨_, hresult, heq⟩ := Option.map_eq_some_iff.mp hreturns
          cases heq
          refine ⟨rfl, rfl, deadline, timedOut,
            (s.coordinator.state.resume pairingId deadline s.now s.shutdown timedOut).2, rfl, ?_⟩
          rw [← hresult]
          exact PairingState.resumes_resume deadline s.now s.shutdown timedOut hpending
      | _ =>
          rw [hwaiter] at hreturns
          cases hreturns
  | _ => cases hreturns

/-- A waiter that gets the lock returns, if there is a decision. -/
theorem Inv.returns_lock (h : s.Inv) {pairingId : UInt64} {deadline : Nat} {timedOut : Bool}
    (hwaiter : s.waiter = .locking pairingId deadline timedOut)
    (hdecision : s.coordinator.state.decision ≠ none) :
    ∃ result, s.returns .lock = some (pairingId, result) := by
  have hpending := h.pending
  rw [hwaiter] at hpending
  have hresume := PairingState.resumes_resume deadline s.now s.shutdown timedOut hpending
  unfold returns
  rw [hwaiter]
  dsimp only
  generalize s.coordinator.state.resume pairingId deadline s.now s.shutdown timedOut = turn
    at hresume ⊢
  cases hresume with
  | sleeps hnone => exact absurd hnone hdecision
  | _ => exact ⟨_, rfl⟩

theorem Inv.answered_iff (h : s.Inv) (i : PairingStep) : s.Answered i ↔ ¬s.Discards i := by
  constructor
  · rintro hanswered ⟨rfl, ⟨pairingId, deadline, hwaiter⟩, ⟨code, hdecision⟩, hrunning⟩
    have haccepted : s.accepted = some (pairingId, code) :=
      (h.accepted pairingId code).mpr ⟨hwaiter ▸ rfl, hdecision⟩
    have hreturns : s.returns .lock = some (pairingId, .error .pairingExpired) := by
      unfold returns
      rw [hwaiter]
      rfl
    rcases hanswered.confirmed pairingId code _ haccepted hreturns with hresult | hshutdown
    · cases hresult
    · rw [hrunning] at hshutdown
      cases hshutdown
  · intro hkept
    refine ⟨fun pairingId code result haccepted hreturns ↦ ?_, fun pairingId code hreturns ↦ ?_,
      fun pairingId code haccepted ↦ ?_⟩
    · obtain ⟨rfl, -, deadline, timedOut, state, hwaiter, hresume⟩ := h.of_returns hreturns
      have hstored := ((h.accepted pairingId code).mp haccepted).2
      cases hresume with
      | late hlate =>
          rw [hlate] at hwaiter
          refine .inr (Bool.eq_true_of_not_eq_false fun hrunning ↦ ?_)
          exact hkept ⟨rfl, ⟨pairingId, deadline, hwaiter⟩, ⟨code, hstored⟩, hrunning⟩
      | stopped hshutdown => exact .inr hshutdown
      | decided hdecision =>
          rw [hstored] at hdecision
          cases hdecision
          exact .inl rfl
      | expired hnone =>
          rw [hstored] at hnone
          cases hnone
    · obtain ⟨-, hpairing, deadline, timedOut, state, -, hresume⟩ := h.of_returns hreturns
      cases hresume with
      | decided hdecision => exact (h.accepted pairingId code).mpr ⟨hpairing, hdecision⟩
    · obtain ⟨hpairing, hstored⟩ := (h.accepted pairingId code).mp haccepted
      cases hwaiter : s.waiter with
      | idle =>
          rw [hwaiter] at hpairing
          cases hpairing
      | published id =>
          rw [hwaiter] at hpairing
          cases hpairing
          exact .inl rfl
      | locking id deadline timedOut =>
          have hid := hwaiter ▸ hpairing
          cases hid
          exact .inr (h.returns_lock hwaiter (by rw [hstored]; exact nofun))
      | asleep id deadline =>
          have hnone := h.asleep id deadline hwaiter
          rw [hstored] at hnone
          cases hnone

/-- A confirmation that was accepted is what the waiter returns, and nothing else is returned as
one, as long as the waiter never finds one with its time over. -/
theorem confirm_answered_iff (steps : List PairingStep) :
    Meets step Answered start steps ↔ Meets step (fun s i ↦ ¬s.Discards i) start steps :=
  meets_iff_of_invariant Inv (fun s i h _ ↦ inv_step s i h) (fun _ i h ↦ h.answered_iff i)
    inv_start steps

/-- The operator confirms between the end of the waiter's time and its getting the lock. -/
theorem confirmation_lost_to_timeout : ¬∀ steps, Meets step Answered start steps := by
  intro h
  obtain ⟨-, -, -, -, -, -, hlast, -⟩ :=
    h [.publish ⟨Vector.replicate 32 1, ⟨123456, by decide⟩⟩ .flightController, .wait 1, .lock, .tick,
      .expire, .confirm 1 ⟨123456, by decide⟩, .lock]
  rcases hlast.confirmed 1 ⟨123456, by decide⟩ _ rfl rfl with hresult | hshutdown
  · cases hresult
  · cases hshutdown

end PairingSystem

end Ksa64.Broker
