import Mathlib.Data.List.Perm.Basic
import Ksa64.Library.Run
import Ksa64.Broker.Worker

/-!
# The worker of a session

What a client may ask of the worker in all: to be attached, what it may ask while it is attached
(`BrokerCommand`), what has been published since its cursors, and the sealed evidence.  When
nothing is asked for a while, the worker advances a running session by itself.

Whatever is asked and whenever, the clients that are attached are known and distinct, the first of
them that is permitted to operate the session holds the control lease for ever, and nothing changes
the authority but what the client that holds the lease asks for while it is attached, and the
worker's own pacing (`worker_run`).
-/

namespace Ksa64.Broker

open Ksa64.Library
open Ksa64.Presentation

def maxPollRecords : Nat := 256
def maxAttachedClients : Nat := 8
def snapshotValidAction : UInt64 := 0x20

/-- An authority, and what it presents: its snapshots, of which the worker looks at a few fields,
its streams and its evidence. -/
structure SessionAuthority extends BrokerAuthority where
  Snapshot : Type
  Procedure : Type
  Disposition : Type
  PredictionPath : Type
  TransportStatus : Type
  Event : Type
  TimelineEvent : Type
  ReleaseSample : Type
  publicationSequence : Snapshot → UInt64
  snapshotLifecycle : Snapshot → PresentationLifecycle
  snapshotPace : Snapshot → PresentationPace
  validityMask : Snapshot → UInt64
  sessionNonce : State → UInt64
  role : State → PresentationRole
  latestSnapshot : State → Snapshot
  currentProcedure : State → Option Procedure
  currentDisposition : State → Option Disposition
  currentPredictionPaths : State → List PredictionPath
  transportStatus : State → TransportStatus
  finalizationEvidence : State → Option SealedEvidenceMetadata
  cursors : State → PresentationCursors
  readEvents : UInt64 → Nat → State → Except CursorError (PresentationBatch Event)
  readTimeline : UInt64 → Nat → State → Except CursorError (PresentationBatch TimelineEvent)
  readActionReceipts : UInt64 → Nat → State → Except CursorError (PresentationBatch ActionReceiptView)
  readReleaseSamples : UInt64 → Nat → State → Except CursorError (PresentationBatch ReleaseSample)
  sealedEvidence : State → Option (List UInt8)

structure WorkerConfig where
  commandCapacity : Nat
  autonomousPacing : Bool
  fastReleaseBatch : UInt32
deriving DecidableEq

structure AttachReply where
  controlling : Bool
  sessionNonce : UInt64
  cursors : PresentationCursors
deriving DecidableEq

namespace WorkerState

/-- One client more; the first that may operate the session gets the control lease. -/
def admitClient (s : WorkerState) (clientId : UInt64) (role : PresentationRole) : WorkerState where
  attachedClients := s.attachedClients ++ [clientId]
  controllerOwner :=
    if role.permitsOperatorActions ∧ s.controllerOwner = none then some clientId
    else s.controllerOwner

def attach (s : WorkerState) (clientId : UInt64) (role : PresentationRole) :
    Attempt BrokerError WorkerState Bool :=
  if clientId = 0 then (.error .client, s)
  else if clientId ∈ s.attachedClients then (.error .clientAlreadyAttached, s)
  else if maxAttachedClients ≤ s.attachedClients.length then (.error .clientLimit, s)
  else (.ok ((s.admitClient clientId role).controllerOwner = some clientId), s.admitClient clientId role)

end WorkerState

inductive WorkerCommand where
  | attach (clientId sessionNonce : UInt64) (role : PresentationRole) (cursors : PresentationCursors)
  | poll (clientId : UInt64) (cursors : PresentationCursors) (limit : Nat)
  | evidence (clientId : UInt64)
  | session (command : BrokerCommand)
deriving DecidableEq

section Session

variable (S : SessionAuthority)

structure BrokerPublication where
  snapshot : S.Snapshot
  procedure : Option S.Procedure
  disposition : Option S.Disposition
  predictionPaths : List S.PredictionPath
  transport : S.TransportStatus
  evidence : Option SealedEvidenceMetadata
  cursors : PresentationCursors
  events : PresentationBatch S.Event
  timeline : PresentationBatch S.TimelineEvent
  actionReceipts : PresentationBatch S.ActionReceiptView
  releaseSamples : PresentationBatch S.ReleaseSample

/-- What is returned for a command. -/
def WorkerCommand.Value : WorkerCommand → Type
  | .attach .. => AttachReply
  | .poll .. => BrokerPublication S
  | .evidence _ => Option (List UInt8)
  | .session command => command.Value S.toBrokerAuthority

/-- The reply to a command. -/
abbrev WorkerCommand.Reply (command : WorkerCommand) : Type :=
  Except BrokerError (command.Value S)

variable {S}

abbrev SessionWorker (S : SessionAuthority) := Worker S.toBrokerAuthority

namespace SessionWorker

variable (w : SessionWorker S)

def attach (clientId sessionNonce : UInt64) (role : PresentationRole)
    (cursors : PresentationCursors) : Except BrokerError AttachReply × SessionWorker S :=
  if sessionNonce ≠ S.sessionNonce w.authority then (.error .sessionNonce, w)
  else if role ≠ S.role w.authority then (.error .role, w)
  else
    match cursors.validate with
    | .error error => (.error (.cursor error), w)
    | .ok () =>
        let attached := w.state.attach clientId role
        (attached.1.map fun controlling ↦
            { controlling := controlling, sessionNonce := sessionNonce, cursors := cursors },
          { w with state := attached.2 })

def validateSnapshotCursor (requested latestAvailable : UInt64) : Except BrokerError Unit :=
  reject (latestAvailable < requested) (.cursor (.ahead latestAvailable))

def poll (clientId : UInt64) (cursors : PresentationCursors) (limit : Nat) :
    Except BrokerError (BrokerPublication S) := do
  w.state.requireAttached clientId
  reject (limit = 0 ∨ maxPollRecords < limit) .invalidLimit
  cursors.validate.mapError .cursor
  validateSnapshotCursor cursors.snapshots (S.cursors w.authority).snapshots
  let events ← (S.readEvents cursors.events limit w.authority).mapError .cursor
  let timeline ← (S.readTimeline cursors.timeline limit w.authority).mapError .cursor
  let actionReceipts ←
    (S.readActionReceipts cursors.actionReceipts limit w.authority).mapError .cursor
  let releaseSamples ←
    (S.readReleaseSamples cursors.releaseSamples limit w.authority).mapError .cursor
  pure {
    snapshot := S.latestSnapshot w.authority
    procedure := S.currentProcedure w.authority
    disposition := S.currentDisposition w.authority
    predictionPaths := S.currentPredictionPaths w.authority
    transport := S.transportStatus w.authority
    evidence := S.finalizationEvidence w.authority
    cursors := S.cursors w.authority
    events := events
    timeline := timeline
    actionReceipts := actionReceipts
    releaseSamples := releaseSamples }

/-- What the worker does for a command. -/
def handle (command : WorkerCommand) (w : SessionWorker S) : command.Reply S × SessionWorker S :=
  match command with
  | .attach clientId sessionNonce role cursors => attach w clientId sessionNonce role cursors
  | .poll clientId cursors limit => (poll w clientId cursors limit, w)
  | .evidence clientId =>
      ((w.state.requireAttached clientId).map fun _ ↦ S.sealedEvidence w.authority, w)
  | .session command => handleCommand command w

/-- The releases by which the worker advances a session if nothing is asked of it. -/
def pacedReleases (config : WorkerConfig) (snapshot : S.Snapshot) : UInt32 :=
  if S.snapshotLifecycle snapshot = .running then
    match S.snapshotPace snapshot with
    | .fast =>
        if S.validityMask snapshot &&& snapshotValidAction ≠ 0 then 0 else config.fastReleaseBatch
    | .realtime => 1
    | .paused | .singleStep => 0
  else 0

/-- What the worker does if nothing is asked of it, and whatever becomes of it. -/
def pace (config : WorkerConfig) : SessionWorker S :=
  let releases := pacedReleases config (S.latestSnapshot w.authority)
  if releases ≠ 0 then { w with authority := (S.advanceBounded releases w.authority).2 } else w

end SessionWorker

/-- The worker takes a command, or it has waited for one in vain. -/
inductive WorkerEvent where
  | command (command : WorkerCommand)
  | timedOut
deriving DecidableEq

namespace SessionWorker

def start (authority : S.State) : SessionWorker S := ⟨authority, ⟨[], none⟩⟩

def step (config : WorkerConfig) (w : SessionWorker S) : WorkerEvent → SessionWorker S
  | .command command => (handle command w).2
  | .timedOut => if config.autonomousPacing then pace w config else w

end SessionWorker

end Session

/-! ## Who is attached -/

namespace WorkerState

variable {s : WorkerState} {clientId : UInt64}

theorem swapRemove_perm {clients : List UInt64} {index : Nat} (h : index < clients.length) :
    (swapRemove clients index).Perm (clients.eraseIdx index) := by
  rcases List.eq_nil_or_concat' clients with rfl | ⟨init, last, rfl⟩
  · exact absurd h (Nat.not_lt_zero _)
  · have hset : (init ++ [last]).set index last = init.set index last ++ [last] := by
      rw [List.length_append, List.length_singleton] at h
      rcases Nat.lt_or_eq_of_le (Nat.le_of_lt_succ h) with hlt | rfl
      · exact List.set_append_left _ _ hlt
      · rw [List.set_append_right _ _ (Nat.le_refl _), Nat.sub_self,
          List.set_eq_of_length_le (Nat.le_refl _)]
        rfl
    have hperm := List.set_perm_cons_eraseIdx h last
    rw [hset] at hperm
    unfold swapRemove
    rw [List.getLast?_concat]
    dsimp only
    rw [hset, List.dropLast_concat]
    exact ((List.perm_append_singleton ..).symm.trans hperm).cons_inv

/-- A client that is disconnected is the one that goes. -/
theorem disconnect_cases (s : WorkerState) (clientId : UInt64) :
    (s.disconnect clientId = (.error .client, s) ∧ clientId ∉ s.attachedClients)
      ∨ ((s.disconnect clientId).1 = .ok ()
        ∧ (s.disconnect clientId).2.controllerOwner = s.controllerOwner
        ∧ s.attachedClients.Perm (clientId :: (s.disconnect clientId).2.attachedClients)) := by
  unfold disconnect
  cases hindex : s.attachedClients.findIdx? (· = clientId) with
  | none =>
      refine .inl ⟨rfl, fun hmem ↦ ?_⟩
      exact absurd (List.findIdx?_eq_none_iff.mp hindex clientId hmem) (by simp)
  | some index =>
      obtain ⟨hlt, heq, -⟩ := List.findIdx?_eq_some_iff_getElem.mp hindex
      refine .inr ⟨rfl, rfl, ?_⟩
      rw [← of_decide_eq_true heq]
      exact (List.getElem_cons_eraseIdx_perm hlt).symm.trans ((swapRemove_perm hlt).symm.cons _)

/-- The clients are known and distinct, and not too many. -/
structure Sound (s : WorkerState) : Prop where
  nonzero : 0 ∉ s.attachedClients
  distinct : s.attachedClients.Nodup
  bounded : s.attachedClients.length ≤ maxAttachedClients

/-- There is a place for the client. -/
structure HasPlaceFor (s : WorkerState) (clientId : UInt64) : Prop where
  nonzero : clientId ≠ 0
  unattached : clientId ∉ s.attachedClients
  room : s.attachedClients.length < maxAttachedClients

theorem attach_cases (s : WorkerState) (clientId : UInt64) (role : PresentationRole) :
    (s.HasPlaceFor clientId
        ∧ s.attach clientId role = (.ok ((s.admitClient clientId role).controllerOwner = some clientId),
          s.admitClient clientId role))
      ∨ (¬s.HasPlaceFor clientId ∧ ∃ error, s.attach clientId role = (.error error, s)) := by
  unfold attach
  split_ifs with hzero hattached hfull
  · exact .inr ⟨fun h ↦ h.nonzero hzero, _, rfl⟩
  · exact .inr ⟨fun h ↦ h.unattached hattached, _, rfl⟩
  · exact .inr ⟨fun h ↦ Nat.not_lt.mpr hfull h.room, _, rfl⟩
  · exact .inl ⟨⟨hzero, hattached, Nat.lt_of_not_le hfull⟩, rfl⟩

theorem Sound.admitClient (h : s.Sound) (hplace : s.HasPlaceFor clientId) (role : PresentationRole) :
    (s.admitClient clientId role).Sound where
  nonzero := by
    unfold WorkerState.admitClient
    rw [List.mem_append, List.mem_singleton, not_or]
    exact ⟨h.nonzero, hplace.nonzero.symm⟩
  distinct := by
    unfold WorkerState.admitClient
    rw [(List.perm_append_singleton clientId s.attachedClients).nodup_iff, List.nodup_cons]
    exact ⟨hplace.unattached, h.distinct⟩
  bounded := by
    unfold WorkerState.admitClient
    rw [List.length_append]
    exact hplace.room

theorem Sound.disconnect (h : s.Sound) (clientId : UInt64) : (s.disconnect clientId).2.Sound := by
  rcases disconnect_cases s clientId with ⟨hsame, -⟩ | ⟨-, -, hperm⟩
  · rw [hsame]
    exact h
  · refine ⟨fun hzero ↦ h.nonzero (hperm.mem_iff.mpr (List.mem_cons_of_mem _ hzero)), ?_, ?_⟩
    · exact (List.nodup_cons.mp (hperm.nodup_iff.mp h.distinct)).2
    · have hlength := hperm.length_eq
      have hbounded := h.bounded
      rw [List.length_cons] at hlength
      omega

end WorkerState

/-! ## What the worker does -/

namespace WorkerCommand

/-- The client that is to be attached. -/
def attaching : WorkerCommand → Option UInt64
  | attach clientId .. => some clientId
  | _ => none

/-- The client that is to be disconnected. -/
def detaching : WorkerCommand → Option UInt64
  | session (.disconnect clientId) => some clientId
  | _ => none

/-- The client that asks for a change of the authority. -/
def changer : WorkerCommand → Option UInt64
  | session (.advance clientId _) | session (.pace clientId _) | session (.lifecycle clientId _)
  | session (.step clientId) | session (.action clientId _) => some clientId
  | _ => none

end WorkerCommand

namespace SessionWorker

variable {S : SessionAuthority} {w : SessionWorker S} {clientId nonce : UInt64}
  {role : PresentationRole} {cursors : PresentationCursors} {command : WorkerCommand}

/-- The client is let in: session, role and cursors are right, and there is a place for it. -/
structure Admissible (w : SessionWorker S) (clientId nonce : UInt64) (role : PresentationRole)
    (cursors : PresentationCursors) : Prop where
  session : nonce = S.sessionNonce w.authority
  role : role = S.role w.authority
  cursors : cursors.validate = .ok ()
  place : w.state.HasPlaceFor clientId

theorem attach_cases (w : SessionWorker S) (clientId nonce : UInt64) (role : PresentationRole)
    (cursors : PresentationCursors) :
    (w.Admissible clientId nonce role cursors
        ∧ ∃ reply, attach w clientId nonce role cursors =
          (.ok reply, { w with state := w.state.admitClient clientId role }))
      ∨ (¬w.Admissible clientId nonce role cursors
        ∧ ∃ error, attach w clientId nonce role cursors = (.error error, w)) := by
  unfold attach
  split_ifs with hnonce hrole
  · exact .inr ⟨fun h ↦ hnonce h.session, _, rfl⟩
  · exact .inr ⟨fun h ↦ hrole h.role, _, rfl⟩
  · cases hcursors : cursors.validate with
    | error error => exact .inr ⟨fun h ↦ (nomatch hcursors.symm.trans h.cursors), _, rfl⟩
    | ok _ =>
        rcases w.state.attach_cases clientId role with ⟨hplace, hattach⟩ | ⟨hplace, error, hattach⟩
        · refine .inl ⟨⟨not_not.mp hnonce, not_not.mp hrole, hcursors, hplace⟩,
            ⟨(w.state.admitClient clientId role).controllerOwner = some clientId, nonce, cursors⟩, ?_⟩
          dsimp only
          rw [hattach]
          rfl
        · refine .inr ⟨fun h ↦ hplace h.place, error, ?_⟩
          dsimp only
          rw [hattach]
          rfl

/-- What the controller asks for leaves the worker's state, and nobody else changes anything. -/
theorem control_cases {α : Type} (w : SessionWorker S) (clientId : UInt64)
    (act : S.State → Attempt AuthorityError S.State α) :
    (w.control clientId act).2.state = w.state
      ∧ ((w.control clientId act).2.authority ≠ w.authority →
        clientId ∈ w.state.attachedClients ∧ w.state.controllerOwner = some clientId) := by
  unfold Worker.control WorkerState.requireController WorkerState.requireAttached
  by_cases hattached : clientId ∈ w.state.attachedClients
  · by_cases howner : w.state.controllerOwner = some clientId
    · rw [if_pos hattached]
      dsimp only
      rw [if_pos howner]
      exact ⟨rfl, fun _ ↦ ⟨hattached, howner⟩⟩
    · rw [if_pos hattached]
      dsimp only
      rw [if_neg howner]
      exact ⟨rfl, fun h ↦ absurd rfl h⟩
  · rw [if_neg hattached]
    exact ⟨rfl, fun h ↦ absurd rfl h⟩

/-- The clients that are permitted to operate the session, as they are attached. -/
def attachedOperator (w : SessionWorker S) : WorkerEvent → Option UInt64
  | .command (.attach clientId nonce role cursors) =>
      if (attach w clientId nonce role cursors).1.isOk ∧ role.permitsOperatorActions then
        some clientId
      else none
  | _ => none

theorem attachedOperator_of_attaching (h : command.attaching = none) :
    attachedOperator w (.command command) = none := by
  cases command with
  | attach clientId nonce role cursors => cases h
  | poll clientId cursors limit => rfl
  | evidence clientId => rfl
  | session command => rfl

/-- A command that neither attaches nor disconnects a client leaves who is attached, and changes the
authority only for the controller. -/
theorem handle_cases (command : WorkerCommand) (w : SessionWorker S) :
    (∃ clientId nonce role cursors, command = .attach clientId nonce role cursors)
      ∨ (∃ clientId, command = .session (.disconnect clientId))
      ∨ (command.attaching = none ∧ command.detaching = none ∧ (handle command w).2.state = w.state
        ∧ ((handle command w).2.authority ≠ w.authority →
          ∃ clientId ∈ command.changer, clientId ∈ w.state.attachedClients
            ∧ w.state.controllerOwner = some clientId)) := by
  have hcontrol {α : Type} (clientId : UInt64) (act : S.State → Attempt AuthorityError S.State α) :
      (w.control clientId act).2.state = w.state
        ∧ ((w.control clientId act).2.authority ≠ w.authority →
          ∃ changer ∈ some clientId, changer ∈ w.state.attachedClients
            ∧ w.state.controllerOwner = some changer) :=
    (w.control_cases clientId act).imp_right fun h hne ↦ ⟨clientId, rfl, h hne⟩
  cases command with
  | attach clientId nonce role cursors => exact .inl ⟨_, _, _, _, rfl⟩
  | poll clientId cursors limit => exact .inr (.inr ⟨rfl, rfl, rfl, fun h ↦ absurd rfl h⟩)
  | evidence clientId => exact .inr (.inr ⟨rfl, rfl, rfl, fun h ↦ absurd rfl h⟩)
  | session command =>
      cases command with
      | disconnect clientId => exact .inr (.inl ⟨_, rfl⟩)
      | advance clientId releases =>
          refine .inr (.inr ⟨rfl, rfl, ?_⟩)
          by_cases hzero : releases = 0
          · rw [handle, handleCommand, if_pos hzero]
            exact ⟨rfl, fun h ↦ absurd rfl h⟩
          · rw [handle, handleCommand, if_neg hzero]
            exact hcontrol clientId _
      | pace clientId pace => exact .inr (.inr ⟨rfl, rfl, hcontrol clientId _⟩)
      | lifecycle clientId requested => exact .inr (.inr ⟨rfl, rfl, hcontrol clientId _⟩)
      | step clientId => exact .inr (.inr ⟨rfl, rfl, hcontrol clientId _⟩)
      | action clientId intent => exact .inr (.inr ⟨rfl, rfl, hcontrol clientId _⟩)
      | globalDisplay clientId request => exact .inr (.inr ⟨rfl, rfl, rfl, fun h ↦ absurd rfl h⟩)

/-- To wait in vain leaves who is attached. -/
theorem state_timedOut (config : WorkerConfig) (w : SessionWorker S) :
    (step config w .timedOut).state = w.state := by
  rw [step]
  split
  · unfold pace
    dsimp only
    split <;> rfl
  · rfl

/-- What is known of the worker: who is attached, and that the first operator holds the lease. -/
def Kept (operators : List UInt64) (w : SessionWorker S) : Prop :=
  w.state.Sound ∧ w.state.controllerOwner = operators.head?

theorem kept_step (config : WorkerConfig) (operators : List UInt64) (w : SessionWorker S)
    (e : WorkerEvent) (h : Kept operators w) :
    Kept (operators ++ (attachedOperator w e).toList) (step config w e) := by
  obtain ⟨hsound, howner⟩ := h
  have hsame {w' : SessionWorker S} (hstate : w'.state = w.state)
      (hnone : attachedOperator w e = none) : Kept (operators ++ (attachedOperator w e).toList) w' := by
    rw [hnone, Option.toList_none, List.append_nil, Kept, hstate]
    exact ⟨hsound, howner⟩
  cases e with
  | timedOut => exact hsame (state_timedOut config w) rfl
  | command command =>
      rcases handle_cases command w with
        ⟨clientId, nonce, role, cursors, rfl⟩ | ⟨clientId, rfl⟩ | ⟨hnone, -, hstate, -⟩
      · rcases attach_cases w clientId nonce role cursors with
          ⟨hadmissible, reply, hattach⟩ | ⟨-, error, hattach⟩
        · have hoperator : attachedOperator w (.command (.attach clientId nonce role cursors)) =
              if role.permitsOperatorActions then some clientId else none := by
            rw [attachedOperator, hattach]
            exact if_congr (and_iff_right rfl) rfl rfl
          rw [hoperator, step, handle, hattach]
          refine ⟨hsound.admitClient hadmissible.place role, ?_⟩
          rw [WorkerState.admitClient, List.head?_append, ← howner]
          cases role.permitsOperatorActions <;> cases w.state.controllerOwner <;> rfl
        · refine hsame ?_ ?_
          · rw [step, handle, hattach]
          · rw [attachedOperator, hattach]
            exact if_neg fun h ↦ nomatch h.1
      · show Kept (operators ++ []) _
        rw [List.append_nil]
        refine ⟨hsound.disconnect clientId, ?_⟩
        rw [← howner]
        rcases w.state.disconnect_cases clientId with ⟨hdisconnect, -⟩ | ⟨-, hretained, -⟩
        · show (w.state.disconnect clientId).2.controllerOwner = _
          rw [hdisconnect]
        · exact hretained
      · exact hsame hstate (attachedOperator_of_attaching hnone)

/-- Who asks for a change of the authority, or that the worker makes it by itself. -/
theorem changed_step {config : WorkerConfig} {e : WorkerEvent}
    (h : (step config w e).authority ≠ w.authority) :
    (∃ command clientId, e = .command command ∧ clientId ∈ command.changer
        ∧ clientId ∈ w.state.attachedClients ∧ w.state.controllerOwner = some clientId)
      ∨ (e = .timedOut ∧ config.autonomousPacing
        ∧ pacedReleases config (S.latestSnapshot w.authority) ≠ 0) := by
  cases e with
  | timedOut =>
      rw [step] at h
      by_cases hpacing : config.autonomousPacing
      · refine .inr ⟨rfl, hpacing, fun hzero ↦ h ?_⟩
        rw [if_pos hpacing, pace, hzero]
        rfl
      · rw [if_neg hpacing] at h
        exact absurd rfl h
  | command command =>
      rcases handle_cases command w with
        ⟨clientId, nonce, role, cursors, rfl⟩ | ⟨clientId, rfl⟩ | ⟨-, -, -, hchanged⟩
      · refine absurd ?_ h
        rcases attach_cases w clientId nonce role cursors with
          ⟨-, reply, hattach⟩ | ⟨-, error, hattach⟩
        · rw [step, handle, hattach]
        · rw [step, handle, hattach]
      · exact absurd rfl h
      · obtain ⟨clientId, hchanger, hattached, howner⟩ := hchanged h
        exact .inl ⟨command, clientId, rfl, hchanger, hattached, howner⟩

end SessionWorker

/-- The worker after a run. -/
def workerAfter {S : SessionAuthority} (config : WorkerConfig) (authority : S.State)
    (es : List WorkerEvent) : SessionWorker S :=
  run (SessionWorker.step config) (SessionWorker.start authority) es

/-- **The worker of a session.**  In every run of commands and of waits in vain, the clients that
are attached are known and distinct, and not more than eight; the control lease is held by the first
client that was attached in a role that permits it to operate the session, and is held for ever; and
the authority is only changed by what the client that holds the lease asks for while it is
attached, or by the worker's own pacing of a running session. -/
theorem worker_run (S : SessionAuthority) (config : WorkerConfig) (authority : S.State)
    (es : List WorkerEvent) :
    (workerAfter config authority es).state.Sound
      ∧ (workerAfter config authority es).state.controllerOwner =
        (emits (SessionWorker.step config) SessionWorker.attachedOperator
          (SessionWorker.start authority) es).head?
      ∧ (∀ clientId later, (workerAfter config authority es).state.controllerOwner = some clientId →
        (workerAfter config authority (es ++ later)).state.controllerOwner = some clientId)
      ∧ ∀ e, (workerAfter config authority (es ++ [e])).authority ≠
          (workerAfter config authority es).authority →
        (∃ command clientId, e = .command command ∧ clientId ∈ command.changer
            ∧ clientId ∈ (workerAfter config authority es).state.attachedClients
            ∧ (workerAfter config authority es).state.controllerOwner = some clientId)
          ∨ (e = .timedOut ∧ config.autonomousPacing
            ∧ SessionWorker.pacedReleases config
              (S.latestSnapshot (workerAfter config authority es).authority) ≠ 0) := by
  have hkept (es : List WorkerEvent) : SessionWorker.Kept
      (emits (SessionWorker.step config) SessionWorker.attachedOperator
        (SessionWorker.start authority) es) (workerAfter config authority es) :=
    emits_invariant SessionWorker.Kept (fun os w e h _ ↦ SessionWorker.kept_step config os w e h)
      ⟨⟨List.not_mem_nil, List.nodup_nil, Nat.zero_le _⟩, rfl⟩ (meets_true _ es)
  refine ⟨(hkept es).1, (hkept es).2, fun clientId later howner ↦ ?_, fun e hchanged ↦ ?_⟩
  · rw [(hkept (es ++ later)).2, emits_append, List.head?_append, ← (hkept es).2, howner]
    rfl
  · unfold workerAfter at hchanged
    rw [run_concat] at hchanged
    exact SessionWorker.changed_step hchanged

/-! ## A session that nobody controls -/

/-- A running session in real time, of which nothing is known but its release. -/
def runningSession : SessionAuthority where
  State := UInt32
  ActionReceiptView := Unit
  GlobalDisplayPublication := Unit
  advanceBounded releases release := (.ok releases, release + releases)
  setPace _ release := (.ok (), release)
  requestLifecycle _ release := (.ok (), release)
  stepOneRelease release := (.ok 1, release + 1)
  submitAction _ release := (.ok (), release)
  globalDisplay _ _ := none
  Snapshot := UInt32
  Procedure := Unit
  Disposition := Unit
  PredictionPath := Unit
  TransportStatus := Unit
  Event := Unit
  TimelineEvent := Unit
  ReleaseSample := Unit
  publicationSequence release := release.toUInt64 + 1
  snapshotLifecycle _ := .running
  snapshotPace _ := .realtime
  validityMask _ := 0
  sessionNonce _ := 99
  role _ := .flightController
  latestSnapshot release := release
  currentProcedure _ := none
  currentDisposition _ := none
  currentPredictionPaths _ := []
  transportStatus _ := ()
  finalizationEvidence _ := none
  cursors _ := ⟨1, 1, 1, 1, 1⟩
  readEvents cursor _ _ := .ok ⟨cursor, cursor, cursor, cursor, []⟩
  readTimeline cursor _ _ := .ok ⟨cursor, cursor, cursor, cursor, []⟩
  readActionReceipts cursor _ _ := .ok ⟨cursor, cursor, cursor, cursor, []⟩
  readReleaseSamples cursor _ _ := .ok ⟨cursor, cursor, cursor, cursor, []⟩
  sealedEvidence _ := none

/-- The worker advances a session that no client has ever been attached to. -/
theorem paced_without_controller :
    ∃ (config : WorkerConfig) (e : WorkerEvent),
      (workerAfter (S := runningSession) config (0 : UInt32) [e]).authority ≠ (0 : UInt32)
        ∧ ¬∃ command clientId, e = .command command ∧ clientId ∈ command.changer
          ∧ clientId ∈
            (workerAfter (S := runningSession) config (0 : UInt32) []).state.attachedClients := by
  refine ⟨⟨32, true, 8⟩, .timedOut, ?_, nofun⟩
  show (1 : UInt32) ≠ 0
  decide

end Ksa64.Broker
