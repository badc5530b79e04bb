import Ksa64.Library.Attempt
import Ksa64.Presentation.Payload

/-!
# The session broker

One worker owns the authority of a session and handles the commands of its clients one after the
other.  Only the client that holds the control lease may change the authority.  A client sends a
command over a bounded queue and waits for the reply, not for ever.

The authority is not part of this development: `BrokerAuthority` is what the worker calls of it.
-/

namespace Ksa64.Broker

open Ksa64.Library
open Ksa64.Presentation

structure AuthorityError where
  code : UInt32
deriving DecidableEq

inductive BrokerError where
  | invalidConfig
  | sessionNonce
  | role
  | client
  | clientAlreadyAttached
  | clientLimit
  | controller
  | queueFull
  | workerGone
  | timeout
  | invalidLimit
  | cursor (error : CursorError)
  | authority (error : AuthorityError)
deriving DecidableEq

/-- An authority: a state, and what the worker asks of it. -/
structure BrokerAuthority where
  State : Type
  ActionReceiptView : Type
  GlobalDisplayPublication : Type
  advanceBounded : UInt32 → State → Attempt AuthorityError State UInt32
  setPace : PresentationPace → State → Attempt AuthorityError State Unit
  requestLifecycle : PresentationLifecycle → State → Attempt AuthorityError State Unit
  stepOneRelease : State → Attempt AuthorityError State UInt32
  submitAction : PresentationActionIntent → State →
    Attempt AuthorityError State ActionReceiptView
  globalDisplay : GlobalDisplayRangeRequestV1 → State → Option GlobalDisplayPublication

/-- Who is attached, and who holds the control lease. -/
structure WorkerState where
  attachedClients : List UInt64
  controllerOwner : Option UInt64
deriving DecidableEq

namespace WorkerState

def requireAttached (s : WorkerState) (clientId : UInt64) : Except BrokerError Unit :=
  if clientId ∈ s.attachedClients then .ok () else .error .client

def requireController (s : WorkerState) (clientId : UInt64) : Except BrokerError Unit :=
  match s.requireAttached clientId with
  | .error error => .error error
  | .ok () => if s.controllerOwner = some clientId then .ok () else .error .controller

/-- Put the last client into the place of the one that goes. -/
def swapRemove (clients : List UInt64) (index : Nat) : List UInt64 :=
  match clients.getLast? with
  | none => clients
  | some last => (clients.set index last).dropLast

/-- The control lease is retained. -/
def disconnect (s : WorkerState) (clientId : UInt64) : Attempt BrokerError WorkerState Unit :=
  match s.attachedClients.findIdx? (· = clientId) with
  | none => (.error .client, s)
  | some index => (.ok (), { s with attachedClients := swapRemove s.attachedClients index })

end WorkerState

/-- What a client asks of the broker while it is attached. -/
inductive BrokerCommand where
  | disconnect (clientId : UInt64)
  | advance (clientId : UInt64) (releases : UInt32)
  | pace (clientId : UInt64) (pace : PresentationPace)
  | lifecycle (clientId : UInt64) (requested : PresentationLifecycle)
  | step (clientId : UInt64)
  | action (clientId : UInt64) (intent : PresentationActionIntent)
  | globalDisplay (clientId : UInt64) (request : GlobalDisplayRangeRequestV1)
deriving DecidableEq

section Worker

variable (A : BrokerAuthority)

/-- What is returned for a command. -/
def BrokerCommand.Value : BrokerCommand → Type
  | .disconnect _ | .pace _ _ | .lifecycle _ _ => Unit
  | .advance _ _ | .step _ => UInt32
  | .action _ _ => A.ActionReceiptView
  | .globalDisplay _ _ => Option A.GlobalDisplayPublication

/-- The reply to a command. -/
abbrev BrokerCommand.Reply (command : BrokerCommand) : Type :=
  Except BrokerError (command.Value A)

structure Worker where
  authority : A.State
  state : WorkerState

variable {A}

/-- Have the authority do something for its controller. -/
def Worker.control {α : Type} (w : Worker A) (clientId : UInt64)
    (act : A.State → Attempt AuthorityError A.State α) : Except BrokerError α × Worker A :=
  match w.state.requireController clientId with
  | .error error => (.error error, w)
  | .ok () => ((act w.authority).1.mapError .authority, { w with authority := (act w.authority).2 })

/-- What the worker does for a command. -/
def handleCommand (command : BrokerCommand) (w : Worker A) : command.Reply A × Worker A :=
  match command with
  | .disconnect clientId =>
      ((w.state.disconnect clientId).1, { w with state := (w.state.disconnect clientId).2 })
  | .advance clientId releases =>
      if releases = 0 then (w.state.requireController clientId >>= fun _ ↦ .error .invalidLimit, w)
      else w.control clientId (A.advanceBounded releases)
  | .pace clientId pace => w.control clientId (A.setPace pace)
  | .lifecycle clientId requested => w.control clientId (A.requestLifecycle requested)
  | .step clientId => w.control clientId A.stepOneRelease
  | .action clientId intent => w.control clientId (A.submitAction intent)
  | .globalDisplay clientId request =>
      ((w.state.requireAttached clientId).map fun _ ↦ A.globalDisplay request w.authority, w)

/-- What becomes of a command that is sent: a client that gets no reply does not know whether the
worker has handled it. -/
inductive Delivery where
  | answered
  | queueFull
  | timeout (handled : Bool)
  | workerGone (handled : Bool)
deriving DecidableEq

variable (A) in
/-- The worker, and what will become of the commands that are sent to it. -/
structure SessionBroker where
  worker : Worker A
  deliveries : Nat → Delivery

namespace SessionBroker

/-- What a client calls of the broker. -/
def request (command : BrokerCommand) (b : SessionBroker A) :
    command.Reply A × SessionBroker A :=
  let handled : command.Reply A × Worker A := handleCommand command b.worker
  let deliveries (n : Nat) : Delivery := b.deliveries (n + 1)
  match b.deliveries 0 with
  | .answered => (handled.1, ⟨handled.2, deliveries⟩)
  | .queueFull => (.error .queueFull, ⟨b.worker, deliveries⟩)
  | .timeout done => (.error .timeout, ⟨if done then handled.2 else b.worker, deliveries⟩)
  | .workerGone done => (.error .workerGone, ⟨if done then handled.2 else b.worker, deliveries⟩)

/-- What the clients of a session may want to be left as it is: the state of the authority (its
lifecycle and pace, the work that is staged), and who controls it. -/
def authorityState (b : SessionBroker A) : A.State × Option UInt64 :=
  (b.worker.authority, b.worker.state.controllerOwner)

/-- Commands that leave the authority as it is. -/
def Reads : BrokerCommand → Prop
  | .disconnect _ | .globalDisplay _ _ => True
  | _ => False

/-- A command that reads leaves the authority, and the control lease is retained. -/
theorem authorityState_request {command : BrokerCommand} (h : Reads command)
    (b : SessionBroker A) : (request command b).2.authorityState = b.authorityState := by
  have hworker : (handleCommand command b.worker).2.authority = b.worker.authority
      ∧ (handleCommand command b.worker).2.state.controllerOwner
        = b.worker.state.controllerOwner := by
    cases command with
    | disconnect clientId =>
        refine ⟨rfl, ?_⟩
        show (b.worker.state.disconnect clientId).2.controllerOwner = _
        unfold WorkerState.disconnect
        split <;> rfl
    | globalDisplay clientId request => exact ⟨rfl, rfl⟩
    | _ => exact h.elim
  unfold request authorityState
  cases b.deliveries 0 with
  | answered => exact Prod.ext hworker.1 hworker.2
  | queueFull => rfl
  | timeout done =>
      cases done with
      | false => rfl
      | true => exact Prod.ext hworker.1 hworker.2
  | workerGone done =>
      cases done with
      | false => rfl
      | true => exact Prod.ext hworker.1 hworker.2

end SessionBroker

end Worker

end Ksa64.Broker
