import Ksa64.Library.Run
import Ksa64.Flight.Phase10
import Ksa64.Flight.Reference

/-!
# The atomic uplink manager

A command load reaches the flight computer in two steps: it is staged, and a separate
commit releases it for execution at its effective epoch.  The manager holds at most
one load.  The first half of this file is the manager of the source, with its
receipts.  The second half is what it is for: an uplink machine (`UplinkView.next`)
that keeps only the pending load and the identity executed last, which the manager
refines call by call (`view_step`) and whose steps are the six of `next_cases`.

The main result relates every load handed out to the calls before it
(`HandOutJustified`): its stage call, its commit, and the load's being held without
interruption from the one to the other and on to the release.
-/

namespace Ksa64.Flight

open Ksa64.Library Ksa64.Interface

/-! ## The manager -/

/-- The load held for execution.  It is staged or committed, and its effective epoch
is the one it asks for. -/
structure PendingUplink where
  load : UplinkCommandLoad
  state : UplinkState
  effectiveEpoch : UInt32
  state_eq : state = .staged ∨ state = .committed
  effectiveEpoch_eq : effectiveEpoch = load.requestedEffectiveEpoch
deriving DecidableEq

structure AtomicUplinkManager where
  pending : Option PendingUplink
  lastExecutedIdentity : UInt32
  receiptChain : UInt32
deriving DecidableEq

def hashReceipt (hash load requestEpoch effectiveEpoch : UInt32) (state reason : UInt8) : UInt32 :=
  [load, requestEpoch, effectiveEpoch, state.toUInt32, reason.toUInt32].foldl hashWord hash

def residual (left right : Int32) : UInt64 := unsignedAbs64 (left.toInt64 - right.toInt64)

/-- A freshly staged load. -/
def PendingUplink.stage (load : UplinkCommandLoad) : PendingUplink where
  load := load
  state := .staged
  effectiveEpoch := load.requestedEffectiveEpoch
  state_eq := .inl rfl
  effectiveEpoch_eq := rfl

/-- The load committed for the epoch it asks for. -/
def PendingUplink.commit (pending : PendingUplink) (effectiveEpoch : UInt32)
    (h : effectiveEpoch = pending.load.requestedEffectiveEpoch) : PendingUplink where
  load := pending.load
  state := .committed
  effectiveEpoch := effectiveEpoch
  state_eq := .inr rfl
  effectiveEpoch_eq := h

@[simp] theorem stage_load (load : UplinkCommandLoad) : (PendingUplink.stage load).load = load := rfl

@[simp] theorem stage_state (load : UplinkCommandLoad) :
    (PendingUplink.stage load).state = .staged := rfl

@[simp] theorem commit_load (pending : PendingUplink) (effectiveEpoch : UInt32)
    (h : effectiveEpoch = pending.load.requestedEffectiveEpoch) :
    (pending.commit effectiveEpoch h).load = pending.load := rfl

@[simp] theorem commit_state (pending : PendingUplink) (effectiveEpoch : UInt32)
    (h : effectiveEpoch = pending.load.requestedEffectiveEpoch) :
    (pending.commit effectiveEpoch h).state = .committed := rfl

/-- The control record is of the given kind and names the load, its package and its
plan. -/
def addresses (request : UplinkControlRecord) (kind : UplinkControlKind)
    (load : UplinkCommandLoad) : Bool :=
  request.kind == kind
    && request.loadIdentity == load.loadIdentity
    && request.packageManifestIdentity == load.packageManifestIdentity
    && request.planIdentity == load.planIdentity

/-- Commit is too late, or names another epoch than the load does. -/
def commitLate (load : UplinkCommandLoad) (effectiveEpoch currentEpoch : UInt32) : Prop :=
  effectiveEpoch ≠ load.requestedEffectiveEpoch
    ∨ effectiveEpoch < addSat32 currentEpoch 2
    ∨ effectiveEpoch < load.notBeforeEpoch
    ∨ load.expiresEpoch < effectiveEpoch

instance (load : UplinkCommandLoad) (effectiveEpoch currentEpoch : UInt32) :
    Decidable (commitLate load effectiveEpoch currentEpoch) :=
  inferInstanceAs (Decidable (_ ∨ _))

/-- The checks a load passes before it is staged, in the order of their reasons. -/
def validateStage (load : UplinkCommandLoad) (currentEpoch completedEventMask : UInt32)
    (navigation : GlobalNavigation) (manifest : FlightSoftwarePackageManifest)
    (plan : MissionPlan) : UplinkReasonCode :=
  if load.packageManifestIdentity ≠ manifest.manifestIdentity
      ∨ load.planIdentity ≠ plan.planIdentity
      ∨ load.abi ≠ manifest.abi then .identity
  else if load.frame ≠ navigation.frame then .frame
  else if load.stageEpoch ≠ currentEpoch ∨ load.expiresEpoch < currentEpoch then .stale
  else if load.requestedEffectiveEpoch < addSat32 currentEpoch 2
      ∨ load.requestedEffectiveEpoch < load.notBeforeEpoch
      ∨ load.expiresEpoch < load.requestedEffectiveEpoch then .late
  else if manifest.commandLoadSupport &&& load.loadType.supportBit = 0 then .unsupported
  else if manifest.capabilities &&& load.requiredCapabilities ≠ load.requiredCapabilities
      ∨ plan.requiredCapabilities &&& load.loadType.capability = 0 then .capability
  else if completedEventMask &&& load.prerequisiteEventMask ≠ load.prerequisiteEventMask then
    .prerequisite
  else if load.loadType = .groundNavigationUpdate
      ∧ (List.finRange 3).any fun axis ↦
        -- a negative limit is a large one: the source widens it with its sign
        load.positionResidualLimitQ12.toInt64.toUInt64
            < residual (load.arguments.get (axis.castLE (by decide)))
              (navigation.positionQ12.get axis)
          || load.velocityResidualLimitQ24.toInt64.toUInt64
            < residual (load.arguments.get ((axis.natAdd 3).castLE (by decide)))
              (navigation.velocityQ24.get axis) then
    .residual
  else .accepted

namespace AtomicUplinkManager

def new : AtomicUplinkManager where
  pending := none
  lastExecutedIdentity := 0
  receiptChain := 0x811c9dc5

def state (m : AtomicUplinkManager) : UplinkState :=
  match m.pending with
  | some value => value.state
  | none => .empty

/-- Issue a control record and chain it. -/
def receipt (m : AtomicUplinkManager) (kind : UplinkControlKind) (load : UplinkCommandLoad)
    (requestEpoch effectiveEpoch : UInt32) (state : UplinkState) (reason : UplinkReasonCode) :
    UplinkControlRecord × AtomicUplinkManager :=
  let controlIdentity :=
    load.loadIdentity ^^^ rotateLeft32 requestEpoch 11 ^^^ kind.code.toUInt32
  let receiptChain :=
    hashReceipt m.receiptChain load.loadIdentity requestEpoch effectiveEpoch state.code reason.code
  ({ kind := kind
     controlIdentity := max controlIdentity 1
     loadIdentity := load.loadIdentity
     packageManifestIdentity := load.packageManifestIdentity
     planIdentity := load.planIdentity
     requestEpoch := requestEpoch
     effectiveEpoch := effectiveEpoch
     state := state
     reason := reason
     receiptChecksum := receiptChain },
   { m with receiptChain := receiptChain })

def stage (m : AtomicUplinkManager) (load : UplinkCommandLoad)
    (currentEpoch completedEventMask : UInt32) (navigation : GlobalNavigation)
    (manifest : FlightSoftwarePackageManifest) (plan : MissionPlan) :
    UplinkControlRecord × AtomicUplinkManager :=
  if m.lastExecutedIdentity = load.loadIdentity then
    m.receipt .stageReceipt load currentEpoch currentEpoch .executed .alreadyApplied
  else match m.pending with
    | some pending =>
        if pending.load = load then
          m.receipt .stageReceipt load currentEpoch pending.effectiveEpoch pending.state .accepted
        else m.receipt .stageReceipt load currentEpoch currentEpoch .rejected .occupied
    | none =>
        let reason := validateStage load currentEpoch completedEventMask navigation manifest plan
        if reason ≠ .accepted then
          m.receipt .stageReceipt load currentEpoch currentEpoch .rejected reason
        else
          { m with pending := some (.stage load) }.receipt .stageReceipt load currentEpoch
            load.requestedEffectiveEpoch .staged .accepted

def commit (m : AtomicUplinkManager) (request : UplinkControlRecord) (currentEpoch : UInt32) :
    UplinkControlRecord × AtomicUplinkManager :=
  match m.pending with
  | none => (request, m)
  | some pending =>
      if !addresses request .commitRequest pending.load then
        m.receipt .commitReceipt pending.load currentEpoch request.effectiveEpoch .rejected
          .identity
      else if pending.state = .committed then
        m.receipt .commitReceipt pending.load currentEpoch pending.effectiveEpoch .committed
          .accepted
      else if h : commitLate pending.load request.effectiveEpoch currentEpoch then
        m.receipt .commitReceipt pending.load currentEpoch request.effectiveEpoch .rejected .late
      else
        let pending := pending.commit request.effectiveEpoch (not_not.mp (not_or.mp h).1)
        { m with pending := some pending }.receipt .commitReceipt pending.load currentEpoch
          pending.effectiveEpoch .committed .accepted

def cancel (m : AtomicUplinkManager) (request : UplinkControlRecord) (currentEpoch : UInt32) :
    UplinkControlRecord × AtomicUplinkManager :=
  match m.pending with
  | none => (request, m)
  | some pending =>
      if !addresses request .cancellation pending.load then
        m.receipt .cancellation pending.load currentEpoch currentEpoch .rejected .identity
      else
        { m with pending := none }.receipt .cancellation pending.load currentEpoch currentEpoch
          .cancelled .accepted

def release (m : AtomicUplinkManager) (epoch : UInt32) :
    Option (UplinkCommandLoad × UplinkControlRecord) × AtomicUplinkManager :=
  match m.pending with
  | none => (none, m)
  | some pending =>
      if pending.load.expiresEpoch < epoch then (none, { m with pending := none })
      else if pending.state ≠ .committed ∨ epoch ≠ pending.effectiveEpoch then (none, m)
      else
        let (receipt, m) :=
          { m with pending := none, lastExecutedIdentity := pending.load.loadIdentity }.receipt
            .executionAcknowledgement pending.load epoch epoch .executed .accepted
        (some (pending.load, receipt), m)

end AtomicUplinkManager

/-! ## Calls -/

/-- A call of the manager, with everything its caller passes. -/
inductive UplinkCall where
  | stage (load : UplinkCommandLoad) (epoch completedEventMask : UInt32)
      (navigation : GlobalNavigation) (manifest : FlightSoftwarePackageManifest)
      (plan : MissionPlan)
  | commit (request : UplinkControlRecord) (epoch : UInt32)
  | cancel (request : UplinkControlRecord) (epoch : UInt32)
  | release (epoch : UInt32)

/-- The epoch at which the call is made. -/
def UplinkCall.epoch : UplinkCall → UInt32
  | .stage _ epoch _ _ _ _ => epoch
  | .commit _ epoch => epoch
  | .cancel _ epoch => epoch
  | .release epoch => epoch

namespace AtomicUplinkManager

/-- The manager after the call. -/
def step (m : AtomicUplinkManager) : UplinkCall → AtomicUplinkManager
  | .stage load epoch mask navigation manifest plan =>
      (m.stage load epoch mask navigation manifest plan).2
  | .commit request epoch => (m.commit request epoch).2
  | .cancel request epoch => (m.cancel request epoch).2
  | .release epoch => (m.release epoch).2

/-- The load the call hands out for execution. -/
def handedOut (m : AtomicUplinkManager) : UplinkCall → Option UplinkCommandLoad
  | .release epoch => (m.release epoch).1.map Prod.fst
  | _ => none

end AtomicUplinkManager

/-! ## The uplink machine -/

/-- The part of the manager that decides what is executed. -/
structure UplinkView where
  pending : Option PendingUplink
  lastExecutedIdentity : UInt32
deriving DecidableEq

def AtomicUplinkManager.view (m : AtomicUplinkManager) : UplinkView :=
  ⟨m.pending, m.lastExecutedIdentity⟩

@[simp] theorem view_pending (m : AtomicUplinkManager) : m.view.pending = m.pending := rfl

@[simp] theorem view_mk (pending : Option PendingUplink) (identity chain : UInt32) :
    (AtomicUplinkManager.mk pending identity chain).view = ⟨pending, identity⟩ := rfl

/-- A receipt changes the chain only. -/
theorem receipt_snd (m : AtomicUplinkManager) (kind : UplinkControlKind)
    (load : UplinkCommandLoad) (requestEpoch effectiveEpoch : UInt32) (state : UplinkState)
    (reason : UplinkReasonCode) :
    (m.receipt kind load requestEpoch effectiveEpoch state reason).2 =
      ⟨m.pending, m.lastExecutedIdentity,
        hashReceipt m.receiptChain load.loadIdentity requestEpoch effectiveEpoch state.code
          reason.code⟩ := by
  unfold AtomicUplinkManager.receipt
  rfl

/-- Issuing a receipt leaves the pending load and the last identity alone. -/
@[simp] theorem view_receipt (m : AtomicUplinkManager) (kind : UplinkControlKind)
    (load : UplinkCommandLoad) (requestEpoch effectiveEpoch : UInt32) (state : UplinkState)
    (reason : UplinkReasonCode) :
    (m.receipt kind load requestEpoch effectiveEpoch state reason).2.view = m.view := by
  rw [receipt_snd, view_mk]
  rfl

/-- A stage call that makes its load the pending one. -/
def UplinkView.StageAdmitted (v : UplinkView) (load : UplinkCommandLoad)
    (reason : UplinkReasonCode) : Prop :=
  v.lastExecutedIdentity ≠ load.loadIdentity ∧ v.pending = none ∧ reason = .accepted

/-- A commit call that moves the pending load from staged to committed. -/
def CommitAdmitted (pending : PendingUplink) (request : UplinkControlRecord) (epoch : UInt32) :
    Prop :=
  addresses request .commitRequest pending.load = true ∧ pending.state ≠ .committed
    ∧ ¬commitLate pending.load request.effectiveEpoch epoch

instance (v : UplinkView) (load : UplinkCommandLoad) (reason : UplinkReasonCode) :
    Decidable (v.StageAdmitted load reason) := inferInstanceAs (Decidable (_ ∧ _))

instance (pending : PendingUplink) (request : UplinkControlRecord) (epoch : UInt32) :
    Decidable (CommitAdmitted pending request epoch) := inferInstanceAs (Decidable (_ ∧ _))

namespace UplinkView

/-- One call, as far as the pending load and the last identity are concerned. -/
def next (v : UplinkView) : UplinkCall → UplinkView
  | .stage load epoch mask navigation manifest plan =>
      if v.StageAdmitted load (validateStage load epoch mask navigation manifest plan) then
        { v with pending := some (.stage load) }
      else v
  | .commit request epoch =>
      match v.pending with
      | none => v
      | some pending =>
          if h : CommitAdmitted pending request epoch then
            let committed := pending.commit request.effectiveEpoch (not_not.mp (not_or.mp h.2.2).1)
            { v with pending := some committed }
          else v
  | .cancel request _ =>
      match v.pending with
      | none => v
      | some pending =>
          if addresses request .cancellation pending.load then { v with pending := none } else v
  | .release epoch =>
      match v.pending with
      | none => v
      | some pending =>
          if pending.load.expiresEpoch < epoch then { v with pending := none }
          else if pending.state ≠ .committed ∨ epoch ≠ pending.effectiveEpoch then v
          else ⟨none, pending.load.loadIdentity⟩

/-- The load a call hands out. -/
def handedOut (v : UplinkView) : UplinkCall → Option UplinkCommandLoad
  | .release epoch =>
      match v.pending with
      | none => none
      | some pending =>
          if pending.load.expiresEpoch < epoch then none
          else if pending.state ≠ .committed ∨ epoch ≠ pending.effectiveEpoch then none
          else some pending.load
  | _ => none

end UplinkView

/-! ### The manager refines the machine -/

theorem view_stage (m : AtomicUplinkManager) (load : UplinkCommandLoad)
    (epoch mask : UInt32) (navigation : GlobalNavigation)
    (manifest : FlightSoftwarePackageManifest) (plan : MissionPlan) :
    (m.stage load epoch mask navigation manifest plan).2.view =
      m.view.next (.stage load epoch mask navigation manifest plan) := by
  unfold AtomicUplinkManager.stage UplinkView.next
  dsimp only
  split
  · rename_i h
    rw [view_receipt, if_neg fun hadm ↦ hadm.1 h]
  · rename_i hlast
    split
    · rename_i pending hp
      have hnone : ¬m.view.pending = none := by simp [hp]
      split <;> rw [view_receipt, if_neg fun hadm ↦ hnone hadm.2.1]
    · rename_i hp
      split
      · rename_i hreason
        rw [view_receipt, if_neg fun hadm ↦ hreason hadm.2.2]
      · rename_i hreason
        rw [view_receipt, if_pos ⟨hlast, hp, not_not.mp hreason⟩, view_mk]
        rfl

theorem view_commit (m : AtomicUplinkManager) (request : UplinkControlRecord) (epoch : UInt32) :
    (m.commit request epoch).2.view = m.view.next (.commit request epoch) := by
  unfold AtomicUplinkManager.commit UplinkView.next
  rw [view_pending]
  cases m.pending with
  | none => rfl
  | some pending =>
      dsimp only
      split
      · rename_i h
        have hnot : ¬addresses request .commitRequest pending.load = true := by simpa using h
        rw [view_receipt, dif_neg fun hadm ↦ hnot hadm.1]
      · rename_i haddr
        split
        · rename_i hcommitted
          rw [view_receipt, dif_neg fun hadm ↦ hadm.2.1 hcommitted]
        · rename_i hstaged
          split
          · rename_i hlate
            rw [view_receipt, dif_neg fun hadm ↦ hadm.2.2 hlate]
          · rename_i hlate
            rw [view_receipt, dif_pos ⟨by simpa using haddr, hstaged, hlate⟩, view_mk]
            rfl

theorem view_cancel (m : AtomicUplinkManager) (request : UplinkControlRecord) (epoch : UInt32) :
    (m.cancel request epoch).2.view = m.view.next (.cancel request epoch) := by
  unfold AtomicUplinkManager.cancel UplinkView.next
  rw [view_pending]
  cases m.pending with
  | none => rfl
  | some pending =>
      dsimp only
      cases addresses request .cancellation pending.load with
      | false => exact view_receipt ..
      | true => exact (view_receipt ..).trans (view_mk ..)

theorem view_release (m : AtomicUplinkManager) (epoch : UInt32) :
    (m.release epoch).2.view = m.view.next (.release epoch) := by
  unfold AtomicUplinkManager.release UplinkView.next
  rw [view_pending]
  cases m.pending with
  | none => rfl
  | some pending =>
      dsimp only
      split
      · rw [view_mk]
        rfl
      · split
        · rfl
        · exact (view_receipt _ .executionAcknowledgement ..).trans (view_mk ..)

/-- Call by call, the manager follows the machine. -/
theorem view_step (m : AtomicUplinkManager) (call : UplinkCall) :
    (m.step call).view = m.view.next call := by
  cases call with
  | stage load epoch mask navigation manifest plan => exact view_stage ..
  | commit request epoch => exact view_commit ..
  | cancel request epoch => exact view_cancel ..
  | release epoch => exact view_release ..

/-- Manager and machine hand out the same loads. -/
theorem handedOut_view (m : AtomicUplinkManager) (call : UplinkCall) :
    m.handedOut call = m.view.handedOut call := by
  cases call with
  | stage | commit | cancel => rfl
  | release epoch =>
      unfold AtomicUplinkManager.handedOut AtomicUplinkManager.release UplinkView.handedOut
      dsimp only
      rw [view_pending]
      cases m.pending with
      | none => rfl
      | some pending =>
          dsimp only
          split
          · rfl
          · split <;> rfl

/-! ### What the receipts say -/

@[simp] theorem receipt_state (m : AtomicUplinkManager) (kind : UplinkControlKind)
    (load : UplinkCommandLoad) (requestEpoch effectiveEpoch : UInt32) (state : UplinkState)
    (reason : UplinkReasonCode) :
    (m.receipt kind load requestEpoch effectiveEpoch state reason).1.state = state := rfl

/-- A commit that is answered with a committed receipt: the pending load is committed, or
becomes so; with nothing pending the request is its own answer. -/
def UplinkView.CommitConfirmed (v : UplinkView) (request : UplinkControlRecord)
    (epoch : UInt32) : Prop :=
  match v.pending with
  | none => request.state = .committed
  | some pending =>
      addresses request .commitRequest pending.load = true
        ∧ (pending.state = .committed ∨ ¬commitLate pending.load request.effectiveEpoch epoch)

instance (v : UplinkView) (request : UplinkControlRecord) (epoch : UInt32) :
    Decidable (v.CommitConfirmed request epoch) := by
  unfold UplinkView.CommitConfirmed
  split <;> infer_instance

/-- A stage call that is answered with a staged receipt: the load becomes the pending one,
or already is and awaits its commit. -/
def UplinkView.StageConfirmed (v : UplinkView) (load : UplinkCommandLoad)
    (reason : UplinkReasonCode) : Prop :=
  v.StageAdmitted load reason
    ∨ v.lastExecutedIdentity ≠ load.loadIdentity ∧ v.pending = some (.stage load)

instance (v : UplinkView) (load : UplinkCommandLoad) (reason : UplinkReasonCode) :
    Decidable (v.StageConfirmed load reason) := inferInstanceAs (Decidable (_ ∨ _))

/-- A staged load is the pending one as it was staged. -/
theorem eq_stage_iff (pending : PendingUplink) (load : UplinkCommandLoad) :
    pending = .stage load ↔ pending.load = load ∧ pending.state = .staged := by
  constructor
  · rintro rfl
    exact ⟨rfl, rfl⟩
  · obtain ⟨load', state, effectiveEpoch, -, heff⟩ := pending
    rintro ⟨hload, hstate⟩
    cases hload
    cases hstate
    cases heff
    rfl

theorem stage_receipt_staged (m : AtomicUplinkManager) (load : UplinkCommandLoad)
    (epoch mask : UInt32) (navigation : GlobalNavigation)
    (manifest : FlightSoftwarePackageManifest) (plan : MissionPlan) :
    (m.stage load epoch mask navigation manifest plan).1.state = .staged ↔
      m.view.StageConfirmed load
        (validateStage load epoch mask navigation manifest plan) := by
  unfold AtomicUplinkManager.stage UplinkView.StageConfirmed UplinkView.StageAdmitted
  rw [view_pending]
  change _ ↔ (m.lastExecutedIdentity ≠ _ ∧ _) ∨ m.lastExecutedIdentity ≠ _ ∧ _
  by_cases hlast : m.lastExecutedIdentity = load.loadIdentity
  · rw [if_pos hlast, receipt_state]
    simp only [hlast, reduceCtorEq, ne_eq, not_true_eq_false, false_and, or_self]
  · rw [if_neg hlast]
    cases hp : m.pending with
    | some pending =>
        dsimp only
        rw [Option.some.injEq, eq_stage_iff]
        by_cases hload : pending.load = load
        · rw [if_pos hload, receipt_state]
          simp only [hlast, hload, reduceCtorEq, ne_eq, not_false_eq_true, false_and, and_false,
            true_and, false_or]
        · rw [if_neg hload, receipt_state]
          simp only [reduceCtorEq, hload, false_and, and_false, or_self]
    | none =>
        dsimp only
        by_cases hreason :
            validateStage load epoch mask navigation manifest plan = .accepted
        · rw [if_neg (not_not.mpr hreason), receipt_state]
          simp only [hlast, hreason, ne_eq, not_false_eq_true, and_self, true_or]
        · rw [if_pos hreason, receipt_state]
          simp only [reduceCtorEq, hreason, and_false, or_self]

theorem commit_receipt_committed (m : AtomicUplinkManager) (request : UplinkControlRecord)
    (epoch : UInt32) :
    (m.commit request epoch).1.state = .committed ↔ m.view.CommitConfirmed request epoch := by
  unfold AtomicUplinkManager.commit UplinkView.CommitConfirmed
  rw [view_pending]
  cases m.pending with
  | none => exact Iff.rfl
  | some pending =>
      dsimp only
      by_cases haddr : addresses request .commitRequest pending.load = true
      · rw [if_neg (by simp [haddr])]
        by_cases hstate : pending.state = .committed
        · rw [if_pos hstate, receipt_state]
          exact ⟨fun _ ↦ ⟨haddr, .inl hstate⟩, fun _ ↦ rfl⟩
        · rw [if_neg hstate]
          by_cases hlate : commitLate pending.load request.effectiveEpoch epoch
          · rw [dif_pos hlate, receipt_state]
            exact ⟨nofun, fun h ↦ absurd hlate (h.2.resolve_left hstate)⟩
          · rw [dif_neg hlate, receipt_state]
            exact ⟨fun _ ↦ ⟨haddr, .inr hlate⟩, fun _ ↦ rfl⟩
      · rw [if_pos (by simp [haddr]), receipt_state]
        exact ⟨nofun, fun h ↦ absurd h.1 haddr⟩

/-- A cancellation that is answered with a cancelled receipt. -/
def UplinkView.CancelConfirmed (v : UplinkView) (request : UplinkControlRecord) : Prop :=
  match v.pending with
  | none => request.state = .cancelled
  | some pending => addresses request .cancellation pending.load = true

instance (v : UplinkView) (request : UplinkControlRecord) :
    Decidable (v.CancelConfirmed request) := by
  unfold UplinkView.CancelConfirmed
  split <;> infer_instance

theorem cancel_receipt_cancelled (m : AtomicUplinkManager) (request : UplinkControlRecord)
    (epoch : UInt32) :
    (m.cancel request epoch).1.state = .cancelled ↔ m.view.CancelConfirmed request := by
  unfold AtomicUplinkManager.cancel UplinkView.CancelConfirmed
  rw [view_pending]
  cases m.pending with
  | none => exact Iff.rfl
  | some pending =>
      dsimp only
      by_cases haddr : addresses request .cancellation pending.load = true
      · rw [if_neg (by simp [haddr]), receipt_state]
        exact ⟨fun _ ↦ haddr, fun _ ↦ rfl⟩
      · rw [if_pos (by simp [haddr]), receipt_state]
        exact ⟨nofun, fun h ↦ absurd h haddr⟩

/-! ### What a call can do -/

/-- The six things a call can do to the machine, each with what it takes. -/
inductive UplinkMove (v : UplinkView) (call : UplinkCall) : Prop where
  | kept (hnext : v.next call = v) (hout : v.handedOut call = none)
  | staged (load : UplinkCommandLoad) (epoch mask : UInt32) (navigation : GlobalNavigation)
      (manifest : FlightSoftwarePackageManifest) (plan : MissionPlan)
      (hcall : call = .stage load epoch mask navigation manifest plan)
      (hadm : v.StageAdmitted load (validateStage load epoch mask navigation manifest plan))
      (hnext : v.next call = { v with pending := some (.stage load) })
      (hout : v.handedOut call = none)
  | committed (pending : PendingUplink) (request : UplinkControlRecord) (epoch : UInt32)
      (hcall : call = .commit request epoch) (hpending : v.pending = some pending)
      (hadm : CommitAdmitted pending request epoch)
      (hnext : ∃ h, v.next call =
        { v with pending := some (pending.commit request.effectiveEpoch h) })
      (hout : v.handedOut call = none)
  | cancelled (pending : PendingUplink) (request : UplinkControlRecord) (epoch : UInt32)
      (hcall : call = .cancel request epoch) (hpending : v.pending = some pending)
      (haddr : addresses request .cancellation pending.load = true)
      (hnext : v.next call = { v with pending := none }) (hout : v.handedOut call = none)
  | expired (pending : PendingUplink) (epoch : UInt32) (hcall : call = .release epoch)
      (hpending : v.pending = some pending) (hexpired : pending.load.expiresEpoch < epoch)
      (hnext : v.next call = { v with pending := none }) (hout : v.handedOut call = none)
  | executed (pending : PendingUplink) (epoch : UInt32) (hcall : call = .release epoch)
      (hpending : v.pending = some pending) (hin : epoch ≤ pending.load.expiresEpoch)
      (hstate : pending.state = .committed) (hepoch : epoch = pending.effectiveEpoch)
      (hnext : v.next call = ⟨none, pending.load.loadIdentity⟩)
      (hout : v.handedOut call = some pending.load)

/-- Every call does one of the six. -/
theorem next_move (v : UplinkView) (call : UplinkCall) : UplinkMove v call := by
  cases call with
  | stage load epoch mask navigation manifest plan =>
      by_cases h : v.StageAdmitted load (validateStage load epoch mask navigation manifest plan)
      · exact .staged load epoch mask navigation manifest plan rfl h (if_pos h) rfl
      · exact .kept (if_neg h) rfl
  | commit request epoch =>
      cases hp : v.pending with
      | none => exact .kept (by simp only [UplinkView.next, hp]) rfl
      | some pending =>
          by_cases h : CommitAdmitted pending request epoch
          · refine .committed pending request epoch rfl hp h ⟨not_not.mp (not_or.mp h.2.2).1, ?_⟩ rfl
            simp only [UplinkView.next, hp, h, dif_pos]
          · exact .kept (by simp only [UplinkView.next, hp, h, dif_neg, not_false_iff]) rfl
  | cancel request epoch =>
      cases hp : v.pending with
      | none => exact .kept (by simp only [UplinkView.next, hp]) rfl
      | some pending =>
          by_cases h : addresses request .cancellation pending.load = true
          · exact .cancelled pending request epoch rfl hp h
              (by simp only [UplinkView.next, hp, h, if_pos]) rfl
          · exact .kept (by simp only [UplinkView.next, hp, h, if_neg, Bool.false_eq_true,
              not_false_iff]) rfl
  | release epoch =>
      cases hp : v.pending with
      | none =>
          exact .kept (by simp only [UplinkView.next, hp]) (by simp only [UplinkView.handedOut, hp])
      | some pending =>
          by_cases hexp : pending.load.expiresEpoch < epoch
          · exact .expired pending epoch rfl hp hexp (by simp only [UplinkView.next, hp, hexp, if_pos])
              (by simp only [UplinkView.handedOut, hp, hexp, if_pos])
          · by_cases hwhen : pending.state ≠ .committed ∨ epoch ≠ pending.effectiveEpoch
            · exact .kept (by simp only [UplinkView.next, hp, hexp, hwhen, if_pos, if_neg,
                  not_false_iff])
                (by simp only [UplinkView.handedOut, hp, hexp, hwhen, if_pos, if_neg,
                  not_false_iff])
            · have hboth := not_or.mp hwhen
              exact .executed pending epoch rfl hp (UInt32.not_lt.mp hexp) (not_not.mp hboth.1)
                (not_not.mp hboth.2)
                (by simp only [UplinkView.next, hp, hexp, hwhen, if_neg, not_false_iff])
                (by simp only [UplinkView.handedOut, hp, hexp, hwhen, if_neg, not_false_iff])

/-! ## The command path -/

section CommandPath

open AtomicUplinkManager

/-- Here a stage call makes the load the pending one: nothing is pending, its identity
is not the one executed last, and it passes every check. -/
def StagesHere (m : AtomicUplinkManager) (call : UplinkCall) (load : UplinkCommandLoad) : Prop :=
  ∃ epoch mask navigation manifest plan,
    call = .stage load epoch mask navigation manifest plan
      ∧ m.pending = none ∧ m.lastExecutedIdentity ≠ load.loadIdentity
      ∧ validateStage load epoch mask navigation manifest plan = .accepted

/-- The load is pending in the given state before the call, and the call hands
nothing out. -/
def Holding (load : UplinkCommandLoad) (state : UplinkState) (m : AtomicUplinkManager)
    (call : UplinkCall) : Prop :=
  (∃ pending, m.pending = some pending ∧ pending.load = load ∧ pending.state = state)
    ∧ m.handedOut call = none

/-- The request commits the load: it names it and the epoch it asks for, at least two
epochs ahead as far as epochs reach. -/
structure CommitsLoad (load : UplinkCommandLoad) (request : UplinkControlRecord)
    (epoch : UInt32) : Prop where
  named : addresses request .commitRequest load = true
  effectiveEpoch : request.effectiveEpoch = load.requestedEffectiveEpoch
  lead : min (epoch.toNat + 2) (2 ^ 32 - 1) ≤ load.requestedEffectiveEpoch.toNat
  notBefore : load.notBeforeEpoch ≤ load.requestedEffectiveEpoch

/-- From `start`, the calls staged the load and have held it, staged, since. -/
def StagedBy (start : AtomicUplinkManager) (calls : List UplinkCall) (load : UplinkCommandLoad) :
    Prop :=
  ∃ before call between,
    calls = before ++ call :: between
      ∧ StagesHere (run step start before) call load
      ∧ Meets step (Holding load .staged) (run step start (before ++ [call])) between

/-- From `start`, the calls staged the load, then committed it, and have held it,
committed, since. -/
def CommittedBy (start : AtomicUplinkManager) (calls : List UplinkCall)
    (load : UplinkCommandLoad) : Prop :=
  ∃ before request epoch after,
    calls = before ++ .commit request epoch :: after
      ∧ StagedBy start before load
      ∧ CommitsLoad load request epoch
      ∧ Holding load .staged (run step start before) (.commit request epoch)
      ∧ Meets step (Holding load .committed)
          (run step start (before ++ [.commit request epoch])) after

/-- The call after `calls` may hand the load out: it is a release at the epoch the load
asks for, inside its window, and the calls have staged and committed the load. -/
structure HandOutJustified (start : AtomicUplinkManager) (calls : List UplinkCall)
    (call : UplinkCall) (load : UplinkCommandLoad) : Prop where
  release : call = .release load.requestedEffectiveEpoch
  notBefore : load.notBeforeEpoch ≤ load.requestedEffectiveEpoch
  notExpired : load.requestedEffectiveEpoch ≤ load.expiresEpoch
  committed : CommittedBy start calls load

/-- What the calls so far say about the pending load. -/
def UplinkHistory (start : AtomicUplinkManager) (calls : List UplinkCall)
    (m : AtomicUplinkManager) : Prop :=
  m = run step start calls ∧ ∀ pending, m.pending = some pending →
    (pending.state = .staged → StagedBy start calls pending.load)
      ∧ (pending.state = .committed → CommittedBy start calls pending.load)

variable {start : AtomicUplinkManager} {calls : List UplinkCall} {load : UplinkCommandLoad}
  {call : UplinkCall}

/-- What the commit's checks establish. -/
theorem CommitAdmitted.commitsLoad {pending : PendingUplink} {request : UplinkControlRecord}
    {epoch : UInt32} (h : CommitAdmitted pending request epoch) :
    CommitsLoad pending.load request epoch := by
  obtain ⟨hnamed, -, hlate⟩ := h
  simp only [commitLate, not_or, not_not, UInt32.not_lt] at hlate
  obtain ⟨heff, hlead, hbefore, -⟩ := hlate
  rw [heff] at hlead hbefore
  rw [UInt32.le_iff_toNat_le, toNat_addSat32] at hlead
  exact { named := hnamed, effectiveEpoch := heff, lead := hlead, notBefore := hbefore }

/-- A call that keeps the staged load pending. -/
theorem StagedBy.keep (h : StagedBy start calls load)
    (hcall : Holding load .staged (run step start calls) call) :
    StagedBy start (calls ++ [call]) load := by
  obtain ⟨before, stageCall, between, rfl, hstage, hheld⟩ := h
  refine ⟨before, stageCall, between ++ [call], by simp, hstage, meets_append.mpr ⟨hheld, ?_⟩⟩
  rw [← run_append, List.append_assoc, List.singleton_append]
  exact ⟨hcall, trivial⟩

/-- A call that keeps the committed load pending. -/
theorem CommittedBy.keep (h : CommittedBy start calls load)
    (hcall : Holding load .committed (run step start calls) call) :
    CommittedBy start (calls ++ [call]) load := by
  obtain ⟨before, request, epoch, after, rfl, hstaged, hcommit, hhere, hheld⟩ := h
  refine ⟨before, request, epoch, after ++ [call], by simp, hstaged, hcommit, hhere,
    meets_append.mpr ⟨hheld, ?_⟩⟩
  rw [← run_append, List.append_assoc, List.singleton_append]
  exact ⟨hcall, trivial⟩

/-- Every call extends the history. -/
theorem UplinkHistory.concat {m : AtomicUplinkManager} (h : UplinkHistory start calls m)
    (call : UplinkCall) : UplinkHistory start (calls ++ [call]) (m.step call) := by
  obtain ⟨rfl, hpending⟩ := h
  refine ⟨(run_concat step start calls call).symm, ?_⟩
  intro pending hp
  rw [← view_pending, view_step] at hp
  have hout := handedOut_view (run AtomicUplinkManager.step start calls) call
  generalize hm : run AtomicUplinkManager.step start calls = m at *
  cases next_move m.view call with
  | kept hnext hnone =>
      rw [hnext] at hp
      rw [hnone] at hout
      obtain ⟨hs, hc⟩ := hpending pending hp
      subst hm
      constructor
      · intro hstate
        exact (hs hstate).keep ⟨⟨pending, hp, rfl, hstate⟩, hout⟩
      · intro hstate
        exact (hc hstate).keep ⟨⟨pending, hp, rfl, hstate⟩, hout⟩
  | staged load epoch mask navigation manifest plan hcall hadm hnext hnone =>
      rw [hnext] at hp
      obtain rfl := Option.some.inj hp
      refine ⟨fun _ ↦ ⟨calls, call, [], rfl, ?_, trivial⟩, nofun⟩
      exact hm ▸ ⟨epoch, mask, navigation, manifest, plan, hcall, hadm.2.1, hadm.1, hadm.2.2⟩
  | committed prior request epoch hcall hprior hadm hnext hnone =>
      obtain ⟨_, hnext⟩ := hnext
      rw [hnext] at hp
      rw [hnone] at hout
      obtain rfl := Option.some.inj hp
      have hstaged : prior.state = .staged := prior.state_eq.resolve_right hadm.2.1
      refine ⟨nofun, fun _ ↦ ⟨calls, request, epoch, [], by rw [hcall],
        (hpending prior hprior).1 hstaged, hadm.commitsLoad, ?_, trivial⟩⟩
      rw [hm, ← hcall]
      exact ⟨⟨prior, hprior, rfl, hstaged⟩, hout⟩
  | cancelled _ _ _ _ _ _ hnext | expired _ _ _ _ _ hnext | executed _ _ _ _ _ _ _ hnext =>
      rw [hnext] at hp
      cases hp

/-- The history of a run that starts with nothing pending. -/
theorem uplinkHistory_run (hstart : start.pending = none) (calls : List UplinkCall) :
    UplinkHistory start calls (run step start calls) := by
  refine history_invariant (UplinkHistory start) (fun _ _ call h ↦ h.concat call) ?_ calls
  refine ⟨rfl, fun pending hp ↦ ?_⟩
  rw [hstart] at hp
  cases hp

/-- Whatever a run that starts with nothing pending hands out is justified by it. -/
theorem handOutJustified_of_run (hstart : start.pending = none)
    (hout : (run step start calls).handedOut call = some load) :
    HandOutJustified start calls call load := by
  have hhistory := uplinkHistory_run hstart calls
  rw [handedOut_view] at hout
  cases next_move (run step start calls).view call with
  | kept _ hnone | staged _ _ _ _ _ _ _ _ _ hnone | committed _ _ _ _ _ _ _ hnone
  | cancelled _ _ _ _ _ _ _ hnone | expired _ _ _ _ _ _ hnone =>
      rw [hnone] at hout
      cases hout
  | executed pending epoch hcall hpending hin hstate hepoch _ hsome =>
      obtain rfl := Option.some.inj (hsome.symm.trans hout)
      have hcommitted := (hhistory.2 pending hpending).2 hstate
      have hasked : epoch = pending.load.requestedEffectiveEpoch :=
        hepoch.trans pending.effectiveEpoch_eq
      obtain ⟨before, request, commitEpoch, after, -, -, hcommit, -, -⟩ := id hcommitted
      exact {
        release := hasked ▸ hcall
        notBefore := hcommit.notBefore
        notExpired := hasked ▸ hin
        committed := hcommitted }

/-- A load handed out was the pending one. -/
theorem pending_of_handedOut {m : AtomicUplinkManager} (hout : m.handedOut call = some load) :
    ∃ held, m.pending = some held ∧ held.load = load := by
  rw [handedOut_view] at hout
  cases next_move m.view call with
  | kept _ hnone | staged _ _ _ _ _ _ _ _ _ hnone | committed _ _ _ _ _ _ _ hnone
  | cancelled _ _ _ _ _ _ _ hnone | expired _ _ _ _ _ _ hnone =>
      rw [hnone] at hout
      cases hout
  | executed held _ _ hheld _ _ _ _ hsome =>
      exact ⟨held, hheld, Option.some.inj (hsome.symm.trans hout)⟩

/-- A call that hands a load out leaves nothing pending. -/
theorem pending_step_of_handedOut {m : AtomicUplinkManager} (hout : m.handedOut call = some load) :
    (m.step call).pending = none := by
  rw [handedOut_view] at hout
  rw [← view_pending, view_step]
  cases next_move m.view call with
  | kept _ hnone | staged _ _ _ _ _ _ _ _ _ hnone | committed _ _ _ _ _ _ _ hnone
  | cancelled _ _ _ _ _ _ _ hnone | expired _ _ _ _ _ _ hnone =>
      rw [hnone] at hout
      cases hout
  | executed _ _ _ _ _ _ _ hnext _ => rw [hnext]

/-- A pending load was pending before the call, or the call staged it. -/
theorem pending_step {m : AtomicUplinkManager} {pending : PendingUplink}
    (hp : (m.step call).pending = some pending) :
    (∃ prior, m.pending = some prior ∧ prior.load = pending.load)
      ∨ StagesHere m call pending.load := by
  rw [← view_pending, view_step] at hp
  cases next_move m.view call with
  | kept hnext _ =>
      rw [hnext] at hp
      exact .inl ⟨pending, hp, rfl⟩
  | staged load epoch mask navigation manifest plan hcall hadm hnext _ =>
      rw [hnext] at hp
      obtain rfl := Option.some.inj hp
      exact .inr ⟨epoch, mask, navigation, manifest, plan, hcall, hadm.2.1, hadm.1, hadm.2.2⟩
  | committed prior request epoch _ hprior _ hnext _ =>
      obtain ⟨_, hnext⟩ := hnext
      rw [hnext] at hp
      obtain rfl := Option.some.inj hp
      exact .inl ⟨prior, hprior, rfl⟩
  | cancelled _ _ _ _ _ _ hnext | expired _ _ _ _ _ hnext | executed _ _ _ _ _ _ _ hnext =>
      rw [hnext] at hp
      cases hp

/-- A stage call never touches a load that is already pending. -/
theorem stage_pending {m : AtomicUplinkManager} {prior : PendingUplink}
    (hprior : m.pending = some prior) (load : UplinkCommandLoad) (epoch mask : UInt32)
    (navigation : GlobalNavigation) (manifest : FlightSoftwarePackageManifest)
    (plan : MissionPlan) :
    (m.step (.stage load epoch mask navigation manifest plan)).pending = some prior := by
  have hnone : ¬m.view.pending = none := by simp [hprior]
  have hnext : m.view.next (.stage load epoch mask navigation manifest plan) = m.view :=
    if_neg fun hadm ↦ hnone hadm.2.1
  rw [← view_pending, view_step, hnext, view_pending, hprior]

/-- The command path over any run of the manager: a load handed out was staged and
separately committed and held in between; two hand-outs have a stage call of their own
between them; and only a stage call that passes every check makes a load pending, with
nothing pending before it. -/
theorem handed_out_only_by_command_path (calls : List UplinkCall) (call : UplinkCall) :
    (∀ load, (run step .new calls).handedOut call = some load →
      HandOutJustified .new calls call load)
    ∧ (∀ earlier first between load load', calls = earlier ++ first :: between →
        (run step .new earlier).handedOut first = some load →
        (run step .new calls).handedOut call = some load' →
        ∃ before stageCall after, between = before ++ stageCall :: after
          ∧ StagesHere (run step .new (earlier ++ first :: before)) stageCall load')
    ∧ (∀ pending, ((run step .new calls).step call).pending = some pending →
        (∃ prior, (run step .new calls).pending = some prior ∧ prior.load = pending.load)
          ∨ StagesHere (run step .new calls) call pending.load)
    ∧ (∀ load epoch mask navigation manifest plan prior,
        call = .stage load epoch mask navigation manifest plan →
        (run step .new calls).pending = some prior →
        ((run step .new calls).step call).pending = some prior) := by
  refine ⟨fun load hout ↦ handOutJustified_of_run rfl hout, ?_, fun pending hp ↦ pending_step hp, ?_⟩
  · rintro earlier first between load load' rfl hfirst hout
    -- the run after the first hand-out starts with nothing pending
    have hempty := pending_step_of_handedOut hfirst
    rw [run_append, run_cons] at hout
    obtain ⟨before, _, _, _, hbetween, hstaged, -⟩ := (handOutJustified_of_run hempty hout).committed
    obtain ⟨before', stageCall, after', rfl, hstage, -⟩ := hstaged
    refine ⟨before', stageCall, _, by rw [hbetween, List.append_assoc, List.cons_append], ?_⟩
    rwa [run_append, run_cons]
  · rintro load epoch mask navigation manifest plan prior rfl hprior
    exact stage_pending hprior ..

/-- A mode command at the last epoch there is. -/
def lastEpochLoad : UplinkCommandLoad where
  loadIdentity := 0x11c00001
  packageManifestIdentity := ksaG10rReferenceOpsManifestId
  planIdentity := 0x11a00001
  abi := .globalKlr10V1
  sourceEstimatorIdentity := 0x11e00001
  sourceEstimatorChecksum := 0x12345678
  stageEpoch := 0xffffffff
  notBeforeEpoch := 0
  expiresEpoch := 0xffffffff
  requestedEffectiveEpoch := 0xffffffff
  requiredCapabilities := packageCapHighLevelMode
  prerequisiteEventMask := 0
  positionResidualLimitQ12 := 4096
  velocityResidualLimitQ24 := 16777
  frame := .localEnuV1
  loadType := .highLevelMode
  arguments := Vector.replicate 16 0

def lastEpochCommit : UplinkControlRecord where
  kind := .commitRequest
  controlIdentity := 0x11c00054
  loadIdentity := 0x11c00001
  packageManifestIdentity := ksaG10rReferenceOpsManifestId
  planIdentity := 0x11a00001
  requestEpoch := 0xffffffff
  effectiveEpoch := 0xffffffff
  state := .staged
  reason := .accepted
  receiptChecksum := 0

def lastEpochCalls : List UplinkCall :=
  [.stage lastEpochLoad 0xffffffff 0 (.new ksaG10rReferenceFlightConfig)
      ksaG10rReferenceOpsManifest ksaG10rReferenceMissionPlan,
    .commit lastEpochCommit 0xffffffff]

/-- The lead saturates: at the last epoch a load is staged, committed and handed out with
no lead at all. -/
theorem not_two_epochs_lead :
    ¬∀ (calls : List UplinkCall) (epoch : UInt32) (load : UplinkCommandLoad),
      (calls ++ [UplinkCall.release epoch]).Pairwise (fun a b ↦ a.epoch ≤ b.epoch) →
      (run step .new calls).handedOut (.release epoch) = some load →
      ∃ request commitEpoch, .commit request commitEpoch ∈ calls
        ∧ commitEpoch.toNat + 2 ≤ load.requestedEffectiveEpoch.toNat := by
  intro h
  obtain ⟨request, commitEpoch, hmem, hlead⟩ :=
    h lastEpochCalls 0xffffffff lastEpochLoad (by decide) (by decide +kernel)
  simp only [lastEpochCalls, List.mem_cons, reduceCtorEq, UplinkCall.commit.injEq,
    List.not_mem_nil, or_false, false_or] at hmem
  obtain ⟨-, rfl⟩ := hmem
  revert hlead
  decide

end CommandPath

end Ksa64.Flight
