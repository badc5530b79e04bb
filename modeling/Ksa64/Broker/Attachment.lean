import Ksa64.Broker.Session

/-!
# Clients that do not wait for ever

The callers of a session's worker send it commands over a bounded queue, and each waits for the
reply for some time.  A caller that gives up gets an error, but its command stays in the queue and
is handled all the same: a client may be attached to which `attach` has returned an error, and
nobody disconnects it.  This is the only way in which the slots of the clients get lost
(`slots_balanced_iff`).
-/

namespace Ksa64.Broker

open Ksa64.Library
open Ksa64.Presentation

/-- A command in the queue, and whether its caller still waits for the reply. -/
structure QueuedCommand where
  command : WorkerCommand
  waiting : Bool
deriving DecidableEq

/-- The client of an `attach` whose caller still waits. -/
def QueuedCommand.attaching (q : QueuedCommand) : Option UInt64 :=
  if q.waiting then q.command.attaching else none

/-- A worker and its queue.  In `granted` are the clients to which `attach` has returned `Ok`, and
in `detached` those that the worker has disconnected. -/
structure SessionService (S : SessionAuthority) where
  worker : SessionWorker S
  queue : List QueuedCommand
  running : Bool
  granted : List UInt64
  detached : List UInt64

/-- A call, the worker that takes the next command, a caller that gives up, a worker that waits in
vain, and the end of the worker. -/
inductive SessionEvent where
  | call (command : WorkerCommand)
  | handle
  | giveUp (index : Nat)
  | timedOut
  | stop
deriving DecidableEq

namespace SessionService

variable {S : SessionAuthority} (config : WorkerConfig) (s : SessionService S)

def start (authority : S.State) : SessionService S where
  worker := SessionWorker.start authority
  queue := []
  running := true
  granted := []
  detached := []

/-- What a call returns at once, if it is not queued. -/
def refusal : Option BrokerError :=
  if ¬s.running then some .workerGone
  else if config.commandCapacity ≤ s.queue.length then some .queueFull
  else none

/-- What the worker returns to an `attach` whose caller still waits, and to which client. -/
def answered (q : QueuedCommand) : Option (UInt64 × Except BrokerError AttachReply) :=
  match q.command with
  | .attach clientId nonce role cursors =>
      if q.waiting then
        some (clientId, (SessionWorker.attach s.worker clientId nonce role cursors).1)
      else none
  | _ => none

/-- The calls of `attach` that return in a step. -/
def returns : SessionEvent → List (UInt64 × Except BrokerError AttachReply)
  | .call command =>
      match s.refusal config with
      | some error => (command.attaching.map fun clientId ↦ (clientId, .error error)).toList
      | none => []
  | .handle =>
      match s.running, s.queue with
      | true, q :: _ => (s.answered q).toList
      | _, _ => []
  | .giveUp index =>
      ((s.queue[index]?.bind QueuedCommand.attaching).map fun clientId ↦
        (clientId, .error .timeout)).toList
  | .timedOut => []
  | .stop =>
      (s.queue.filterMap QueuedCommand.attaching).map fun clientId ↦ (clientId, .error .workerGone)

/-- The client that the worker disconnects in a step. -/
def detaches : SessionEvent → List UInt64
  | .handle =>
      match s.running, s.queue with
      | true, q :: _ =>
          (q.command.detaching.filter fun clientId ↦ (s.worker.state.disconnect clientId).1.isOk).toList
      | _, _ => []
  | _ => []

/-- The worker after a step. -/
def workerAfter : SessionEvent → SessionWorker S
  | .handle =>
      match s.running, s.queue with
      | true, q :: _ => (SessionWorker.handle q.command s.worker).2
      | _, _ => s.worker
  | .timedOut =>
      if s.running ∧ s.queue = [] then SessionWorker.step config s.worker .timedOut else s.worker
  | _ => s.worker

/-- The queue after a step. -/
def queueAfter : SessionEvent → List QueuedCommand
  | .call command =>
      match s.refusal config with
      | some _ => s.queue
      | none => s.queue ++ [⟨command, true⟩]
  | .handle => if s.running then s.queue.tail else s.queue
  | .giveUp index => s.queue.modify index fun q ↦ { q with waiting := false }
  | .timedOut => s.queue
  | .stop => []

def step (s : SessionService S) (e : SessionEvent) : SessionService S where
  worker := s.workerAfter config e
  queue := s.queueAfter config e
  running := s.running && e ≠ .stop
  granted := s.granted ++ ((s.returns config e).filter (·.2.isOk)).map Prod.fst
  detached := s.detached ++ s.detaches e

/-! ## Slots -/

abbrev attached : List UInt64 := s.worker.state.attachedClients

/-- The clients that are attached are those to which `attach` has returned `Ok`, but for those that
have been disconnected since. -/
def Balanced : Prop := s.granted.Perm (s.detached ++ s.attached)

/-- The slots are balanced after the step; a client to which `attach` returns `Ok` is attached, and
one to which it returns an error is not, unless it was before. -/
def Faithful (s : SessionService S) (e : SessionEvent) : Prop :=
  (s.step config e).Balanced
    ∧ (∀ clientId reply, (clientId, .ok reply) ∈ s.returns config e →
      clientId ∈ (s.step config e).attached)
    ∧ ∀ clientId error, (clientId, .error error) ∈ s.returns config e →
      clientId ∈ (s.step config e).attached → clientId ∈ s.attached

/-- The worker would let a client in whose caller has given up. -/
def LateAttach (s : SessionService S) (e : SessionEvent) : Prop :=
  e = .handle ∧ s.running ∧ ∃ clientId nonce role cursors,
    s.queue.head? = some ⟨.attach clientId nonce role cursors, false⟩
      ∧ s.worker.Admissible clientId nonce role cursors

section Steps

variable {config s} {e : SessionEvent} {clientId : UInt64} {reply : AttachReply} {error : BrokerError}

/-- A step that leaves who is attached, grants nothing and detaches nobody. -/
theorem faithful_of_idle (h : s.Balanced)
    (hattached : (s.step config e).attached = s.attached) (hdetaches : s.detaches e = [])
    (hreturns : ∀ clientId reply, (clientId, .ok reply) ∉ s.returns config e) :
    s.Faithful config e := by
  have hgrants : ((s.returns config e).filter (·.2.isOk)).map Prod.fst = [] := by
    rw [List.map_eq_nil_iff, List.filter_eq_nil_iff]
    rintro ⟨clientId, result⟩ hmem hok
    cases result with
    | error error => cases hok
    | ok reply => exact hreturns clientId reply hmem
  refine ⟨?_, fun clientId reply hmem ↦ absurd hmem (hreturns clientId reply), ?_⟩
  · show List.Perm _ _
    rw [hattached, step, hgrants, hdetaches, List.append_nil, List.append_nil]
    exact h
  · intro clientId error _ hmem
    rwa [hattached] at hmem

/-- A step in which the worker handles no command. -/
theorem faithful_of_not_handle (h : s.Balanced) (he : e ≠ .handle) : s.Faithful config e := by
  cases e with
  | call command =>
      refine faithful_of_idle h rfl rfl fun clientId reply hmem ↦ ?_
      rw [returns] at hmem
      split at hmem
      · obtain ⟨_, -, heq⟩ := Option.map_eq_some_iff.mp (Option.mem_toList.mp hmem)
        cases heq
      · cases hmem
  | handle => exact absurd rfl he
  | giveUp index =>
      refine faithful_of_idle h rfl rfl fun clientId reply hmem ↦ ?_
      obtain ⟨_, -, heq⟩ := Option.map_eq_some_iff.mp (Option.mem_toList.mp hmem)
      cases heq
  | timedOut =>
      refine faithful_of_idle h ?_ rfl fun clientId reply hmem ↦ nomatch hmem
      show (s.workerAfter config .timedOut).state.attachedClients = _
      rw [workerAfter]
      split
      · rw [SessionWorker.state_timedOut]
      · rfl
  | stop =>
      refine faithful_of_idle h rfl rfl fun clientId reply hmem ↦ ?_
      obtain ⟨_, -, heq⟩ := List.mem_map.mp hmem
      cases heq

variable {worker : SessionWorker S} {rest : List QueuedCommand} {granted detached : List UInt64}
  {nonce : UInt64} {role : PresentationRole} {cursors : PresentationCursors} {waiting : Bool}

/-- A client is let in, and its caller is told so or has given up. -/
theorem faithful_admitted_iff
    (h : granted.Perm (detached ++ worker.state.attachedClients))
    (hadmissible : worker.Admissible clientId nonce role cursors)
    (hattach : SessionWorker.attach worker clientId nonce role cursors =
      (.ok reply, { worker with state := worker.state.admitClient clientId role })) :
    Faithful config ⟨worker, ⟨.attach clientId nonce role cursors, waiting⟩ :: rest, true, granted,
        detached⟩ .handle ↔
      ¬LateAttach ⟨worker, ⟨.attach clientId nonce role cursors, waiting⟩ :: rest, true, granted,
        detached⟩ .handle := by
  have hattached : (step config ⟨worker, ⟨.attach clientId nonce role cursors, waiting⟩ :: rest, true,
      granted, detached⟩ .handle).attached = worker.state.attachedClients ++ [clientId] := by
    show (SessionWorker.attach worker clientId nonce role cursors).2.state.attachedClients = _
    rw [hattach]
    rfl
  cases waiting with
  | true =>
      have hreturns : returns config ⟨worker, ⟨.attach clientId nonce role cursors, true⟩ :: rest, true,
          granted, detached⟩ .handle = [(clientId, .ok reply)] := by
        show [(clientId, (SessionWorker.attach worker clientId nonce role cursors).1)] = _
        rw [hattach]
      refine iff_of_true ⟨?_, ?_, ?_⟩ ?_
      · show List.Perm _ _
        rw [hattached, step, hreturns]
        show (granted ++ [clientId]).Perm (detached ++ [] ++ (worker.state.attachedClients ++ [clientId]))
        rw [List.append_nil, ← List.append_assoc]
        exact h.append_right [clientId]
      · intro c r hmem
        rw [hreturns] at hmem
        cases List.mem_singleton.mp hmem
        rw [hattached]
        exact List.mem_append_right _ (List.mem_singleton_self _)
      · intro c e hmem
        rw [hreturns] at hmem
        cases List.mem_singleton.mp hmem
      · rintro ⟨-, -, _, _, _, _, hhead, -⟩
        cases hhead
  | false =>
      refine iff_of_false (fun hfaithful ↦ ?_) (not_not.mpr ⟨rfl, rfl, _, _, _, _, rfl, hadmissible⟩)
      have hbalanced : List.Perm _ (_ ++ attached _) := hfaithful.1
      rw [hattached] at hbalanced
      have hafter : (granted ++ []).length =
          (detached ++ [] ++ (worker.state.attachedClients ++ [clientId])).length := hbalanced.length_eq
      have hbefore := h.length_eq
      simp only [List.length_append, List.length_nil, List.length_singleton] at hafter hbefore
      omega

/-- A client is disconnected. -/
theorem faithful_disconnect (h : granted.Perm (detached ++ worker.state.attachedClients)) :
    Faithful config ⟨worker, ⟨.session (.disconnect clientId), waiting⟩ :: rest, true, granted,
      detached⟩ .handle := by
  rcases worker.state.disconnect_cases clientId with ⟨hdisconnect, -⟩ | ⟨hok, -, hperm⟩
  · refine faithful_of_idle h ?_ ?_ fun _ _ hmem ↦ nomatch hmem
    · show (worker.state.disconnect clientId).2.attachedClients = _
      rw [hdisconnect]
    · show (Option.toList (if (worker.state.disconnect clientId).1.isOk then some clientId
        else none)) = []
      rw [hdisconnect]
      rfl
  · refine ⟨?_, fun _ _ hmem ↦ (nomatch hmem), fun _ _ hmem ↦ nomatch hmem⟩
    have hdetaches : detaches (S := S) ⟨worker, ⟨.session (.disconnect clientId), waiting⟩ :: rest,
        true, granted, detached⟩ .handle = [clientId] := by
      show (Option.toList (if (worker.state.disconnect clientId).1.isOk then some clientId
        else none)) = _
      rw [hok]
      rfl
    show (granted ++ []).Perm (detached ++ detaches _ _
      ++ (worker.state.disconnect clientId).2.attachedClients)
    rw [hdetaches, List.append_nil, List.append_assoc]
    exact h.trans (hperm.append_left detached)

theorem answered_of_attaching {q : QueuedCommand} (h : q.command.attaching = none) :
    s.answered q = none := by
  obtain ⟨command, waiting⟩ := q
  cases command with
  | attach clientId nonce role cursors => cases h
  | poll clientId cursors limit => rfl
  | evidence clientId => rfl
  | session command => rfl

/-- What the worker does for a command leaves the slots balanced, but for an attachment of which
nobody gets to know. -/
theorem faithful_handle_iff (h : s.Balanced) :
    s.Faithful config .handle ↔ ¬s.LateAttach .handle := by
  obtain ⟨worker, queue, running, granted, detached⟩ := s
  cases running with
  | false =>
      refine iff_of_true (faithful_of_idle h rfl rfl fun _ _ hmem ↦ nomatch hmem) ?_
      exact fun hlate ↦ nomatch hlate.2.1
  | true =>
      cases queue with
      | nil =>
          refine iff_of_true (faithful_of_idle h rfl rfl fun _ _ hmem ↦ nomatch hmem) ?_
          rintro ⟨-, -, _, _, _, _, hhead, -⟩
          cases hhead
      | cons q rest =>
          obtain ⟨command, waiting⟩ := q
          rcases SessionWorker.handle_cases command worker with
            ⟨clientId, nonce, role, cursors, rfl⟩ | ⟨clientId, rfl⟩ | ⟨hnone, hdetach, hstate, -⟩
          · rcases SessionWorker.attach_cases worker clientId nonce role cursors with
              ⟨hadmissible, reply, hattach⟩ | ⟨hadmissible, error, hattach⟩
            · exact faithful_admitted_iff h hadmissible hattach
            · refine iff_of_true (faithful_of_idle h ?_ rfl ?_) ?_
              · show (SessionWorker.attach worker clientId nonce role cursors).2.state.attachedClients = _
                rw [hattach]
              · intro c r hmem
                obtain ⟨-, heq⟩ := Option.ite_none_right_eq_some.mp (Option.mem_toList.mp hmem)
                rw [hattach] at heq
                cases heq
              · rintro ⟨-, -, _, _, _, _, hhead, hadmitted⟩
                cases hhead
                exact hadmissible hadmitted
          · refine iff_of_true (faithful_disconnect h) ?_
            rintro ⟨-, -, _, _, _, _, hhead, -⟩
            cases hhead
          · refine iff_of_true (faithful_of_idle h ?_ ?_ ?_) ?_
            · show (SessionWorker.handle command worker).2.state.attachedClients = _
              rw [hstate]
            · show (command.detaching.filter _).toList = []
              rw [hdetach]
              rfl
            · intro c r hmem
              replace hmem : _ ∈ (answered _ _).toList := hmem
              rw [answered_of_attaching hnone] at hmem
              cases hmem
            · rintro ⟨-, -, _, _, _, _, hhead, -⟩
              cases hhead
              cases hnone

end Steps

end SessionService

/-- **The slots of the clients.**  In every order of calls, commands that are handled, and callers
that give up, the clients that are attached are those to which `attach` has returned `Ok` and that
have not been disconnected, and who gets an error is not attached by it, if and only if the worker
never lets a client in whose caller has given up. -/
theorem slots_balanced_iff (S : SessionAuthority) (config : WorkerConfig) (authority : S.State)
    (es : List SessionEvent) :
    Meets (SessionService.step config) (SessionService.Faithful config)
        (SessionService.start authority) es ↔
      Meets (SessionService.step config) (fun s e ↦ ¬s.LateAttach e)
        (SessionService.start authority) es := by
  have hiff (s : SessionService S) (e : SessionEvent) (h : s.Balanced) :
      s.Faithful config e ↔ ¬s.LateAttach e := by
    by_cases he : e = .handle
    · subst he
      exact SessionService.faithful_handle_iff h
    · exact iff_of_true (SessionService.faithful_of_not_handle h he) fun hlate ↦ he hlate.1
  have hstart : (SessionService.start authority : SessionService S).Balanced := List.Perm.refl []
  exact meets_iff_of_invariant SessionService.Balanced
    (fun s e h hcond ↦ ((hiff s e h).mpr hcond).1) hiff hstart es

/-- The caller gives up before the worker gets to its command: the client is attached, although
`attach` has returned an error. -/
theorem late_attach_leaks :
    ∃ (config : WorkerConfig) (command : WorkerCommand),
      (7, .error .timeout) ∈ SessionService.returns config
          (run (SessionService.step config) (SessionService.start (S := runningSession) (0 : UInt32))
            [.call command]) (.giveUp 0)
        ∧ 7 ∈ (run (SessionService.step config) (SessionService.start (S := runningSession) (0 : UInt32))
            [.call command, .giveUp 0, .handle]).attached
        ∧ ¬Meets (SessionService.step config) (SessionService.Faithful config)
          (SessionService.start (S := runningSession) (0 : UInt32))
          [.call command, .giveUp 0, .handle] := by
  refine ⟨⟨32, true, 8⟩, .attach 7 99 .flightController ⟨1, 1, 1, 1, 1⟩, ?_, ?_, ?_⟩
  · exact List.mem_singleton_self _
  · exact List.mem_singleton_self (7 : UInt64)
  · rintro ⟨-, -, ⟨hbalanced, -⟩, -⟩
    have hattached : [].Perm [(7 : UInt64)] := hbalanced
    cases hattached.nil_eq

end Ksa64.Broker
