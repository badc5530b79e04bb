import Ksa64.Flight.Package

/-!
# Executing a load

A release executes the committed load that is due and ticks the flight computer.  The acknowledgement
is issued before the load is applied, and journaled whether or not it could be; and a commit or a
cancellation without a pending load is answered, and journaled, with the request itself.
`acknowledged_iff` says on which runs every journaled acknowledgement is of a load that was applied.

As long as no load is executed that touches the flight computer, the package is the bare computer:
`evidence_eq_bare`.
-/

namespace Ksa64.Flight

open Ksa64.Library Ksa64.Core Ksa64.Interface

namespace KsaG10rReferenceOpsV1

/-! ## What is journaled -/

section Entries

variable (p : KsaG10rReferenceOpsV1)

/-- The entry of a receipt. -/
def receiptEntry (receipt : UplinkControlRecord) : JournalEntry :=
  ⟨p.epoch, .uplink, receipt.loadIdentity, receipt.controlIdentity,
    Quad.of receipt.kind.code.toUInt32.toInt32 receipt.state.code.toUInt32.toInt32
      receipt.reason.code.toUInt32.toInt32 receipt.effectiveEpoch.toInt32⟩

/-- The load that a release hands out, with its acknowledgement. -/
def released : Option (UplinkCommandLoad × UplinkControlRecord) :=
  p.plan.bind fun _ ↦ (p.uplink.release p.epoch).1

/-- The load, given to the flight computer in a release. -/
def applied (load : UplinkCommandLoad) : Bool :=
  ({ p with uplink := (p.uplink.release p.epoch).2 }.applyCommitted load).1

/-- The entries of an execution. -/
def executionEntries : List JournalEntry :=
  match p.released with
  | none => []
  | some (load, acknowledgement) =>
      [p.receiptEntry acknowledgement,
        ⟨p.epoch, .mode, load.loadIdentity, load.loadType.code.toUInt32,
          #v[if p.applied load then 1 else 0, 0, 0, 0]⟩]

/-- The prediction that a release publishes. -/
def prediction (navigation : GlobalNavigation) (plan : MissionPlan) : PredictionSummary :=
  let prediction := compactPrediction navigation plan p.epoch
  let predictionChecksum := hashReceipt prediction.predictionChecksum p.activePlanChecksum
    p.epoch plan.planIdentity prediction.product.code 0
  { prediction with
    predictionChecksum := predictionChecksum
    predictionIdentity := max predictionChecksum 1 }

/-- The entry of a prediction, if it is a new one. -/
def predictionEntries (navigation : GlobalNavigation) : List JournalEntry :=
  match p.plan with
  | none => []
  | some plan =>
      let prediction := p.prediction navigation plan
      if (p.epoch &&& 31 = 0 ∨ p.predictionDirty)
          ∧ p.lastPrediction.all fun prior ↦
            prior.predictionChecksum != prediction.predictionChecksum then
        [⟨p.epoch, .prediction, prediction.predictionIdentity, prediction.sourceEstimateIdentity,
          #v[prediction.apogeeQ12Km, prediction.timeToApogeeQ16.toInt32, 0, 0]⟩]
      else []

/-- The package as a release predicts with it. -/
def ticked (fast : Option GlobalFastSensorCell) (aid : Option GlobalAidFrameCell)
    (transition : Option GlobalTransitionCell) : KsaG10rReferenceOpsV1 :=
  { p.executeUplink with inner := (p.executeUplink.inner.tick fast aid transition).2 }

/-- What a call appends to the journal. -/
def entries : PackageCall → List JournalEntry
  | .initializeMissionPlan plan =>
      if planForeign plan ksaG10rReferenceOpsManifest then []
      else [⟨p.epoch, .mode, plan.planIdentity, ksaG10rReferenceOpsManifestId, Quad.of 1 0 0 0⟩]
  | .stage load mask => ((p.stageUplink load mask).1.map p.receiptEntry).toList
  | .commit request => ((p.commitUplink request).1.map p.receiptEntry).toList
  | .cancel request => ((p.cancelUplink request).1.map p.receiptEntry).toList
  | .communications available =>
      [⟨p.epoch, .communications, if available then 1 else 0, 0, .replicate 4 0⟩]
  | .release fast aid transition =>
      p.executionEntries ++ (p.ticked fast aid transition).predictionEntries
        (p.executeUplink.inner.tick fast aid transition).1.navigation

theorem journal_applyCommitted (load : UplinkCommandLoad) :
    (p.applyCommitted load).2.journal = p.journal := by
  unfold applyCommitted
  dsimp only
  split
  · rfl
  · rfl
  · dsimp only
    split <;> rfl
  · rfl
  · rfl

theorem journal_markPlanChanged (applied : Bool) (load : UplinkCommandLoad) :
    (p.markPlanChanged applied load).journal = p.journal := by
  unfold markPlanChanged
  split <;> rfl

theorem journal_executeUplink :
    p.executeUplink.journal = run EventJournal.step p.journal p.executionEntries := by
  obtain ⟨inner, _ | plan, uplink, journal, epoch, prediction, checksum, dirty⟩ := p
  · rfl
  · unfold executeUplink executionEntries released applied
    dsimp only [Option.bind_some]
    cases (uplink.release epoch).1 with
    | none => rfl
    | some handed =>
        obtain ⟨load, acknowledgement⟩ := handed
        let handing : KsaG10rReferenceOpsV1 :=
          ⟨inner, some plan, (uplink.release epoch).2, journal, epoch, prediction, checksum, dirty⟩
        have hjournal := journal_applyCommitted handing load
        have hepoch := (sameUplink_applyCommitted handing load).2.2
        show (((handing.applyCommitted load).2.journalReceipt acknowledgement).markPlanChanged
            (handing.applyCommitted load).1 load).journal.step ⟨KsaG10rReferenceOpsV1.epoch _, _, _, _, _⟩
          = (journal.step _).step ⟨_, _, _, _, #v[if (handing.applyCommitted load).1 then 1 else 0, 0, 0, 0]⟩
        generalize handing.applyCommitted load = given at hjournal hepoch ⊢
        obtain ⟨applied, q⟩ := given
        change q.journal = journal at hjournal
        change q.epoch = epoch at hepoch
        rw [journal_markPlanChanged, (sameUplink_markPlanChanged _ applied load).2.2]
        show (q.journal.step ⟨q.epoch, _, _, _, _⟩).step ⟨q.epoch, _, _, _, _⟩ = _
        rw [hjournal, hepoch]
        rfl

theorem journal_predict (navigation : GlobalNavigation) :
    (p.predict navigation).journal =
      run EventJournal.step p.journal (p.predictionEntries navigation) := by
  unfold predict predictionEntries
  cases p.plan with
  | none => rfl
  | some plan =>
      dsimp only
      by_cases hdue : p.epoch &&& 31 = 0 ∨ p.predictionDirty
      · rw [if_pos hdue]
        by_cases hnew : p.lastPrediction.all fun prior ↦
            prior.predictionChecksum != (p.prediction navigation plan).predictionChecksum
        · rw [if_pos ⟨hdue, hnew⟩]
          show (p.journalPrediction (p.prediction navigation plan)).journal = _
          unfold journalPrediction
          rw [if_pos hnew]
          rfl
        · rw [if_neg fun h ↦ hnew h.2]
          show (p.journalPrediction (p.prediction navigation plan)).journal = _
          unfold journalPrediction
          rw [if_neg hnew]
          rfl
      · rw [if_neg hdue, if_neg fun h ↦ hdue h.1]
        rfl

/-- What a call appends is all that happens to the journal. -/
theorem journal_step (call : PackageCall) :
    (p.step call).journal = run EventJournal.step p.journal (p.entries call) := by
  cases call with
  | initializeMissionPlan plan =>
      unfold step entries initializeMissionPlan
      dsimp only
      split <;> rfl
  | communications available => rfl
  | stage load mask =>
      unfold step entries stageUplink
      dsimp only
      split <;> rfl
  | commit request =>
      unfold step entries commitUplink
      dsimp only
      split <;> rfl
  | cancel request =>
      unfold step entries cancelUplink
      dsimp only
      split <;> rfl
  | release fast aid transition =>
      rw [step_release]
      show ((p.ticked fast aid transition).predict _).journal = run _ _ (_ ++ _)
      rw [journal_predict, run_append, ← journal_executeUplink]
      rfl

end Entries

end KsaG10rReferenceOpsV1

/-! ## Acknowledgements -/

/-- The record says that a load has been executed. -/
def AcknowledgesExecution (record : UplinkControlRecord) : Prop :=
  record.kind = .executionAcknowledgement ∧ record.state = .executed ∧ record.reason = .accepted

instance (record : UplinkControlRecord) : Decidable (AcknowledgesExecution record) :=
  inferInstanceAs (Decidable (_ ∧ _ ∧ _))

/-- The entry is of a record that says so. -/
def JournalEntry.Acknowledges (entry : JournalEntry) : Prop :=
  entry.kind = .uplink
    ∧ getElem entry.arguments 0 Quad.w_lt = UplinkControlKind.executionAcknowledgement.code.toUInt32.toInt32
    ∧ getElem entry.arguments 1 Quad.x_lt = UplinkState.executed.code.toUInt32.toInt32
    ∧ getElem entry.arguments 2 Quad.y_lt = UplinkReasonCode.accepted.code.toUInt32.toInt32

namespace KsaG10rReferenceOpsV1

section Acknowledged

variable {p : KsaG10rReferenceOpsV1} {load : UplinkCommandLoad} {receipt : UplinkControlRecord}

theorem receiptEntry_acknowledges :
    (p.receiptEntry receipt).Acknowledges ↔ AcknowledgesExecution receipt := by
  have hkind (kind : UplinkControlKind) : kind.code.toUInt32.toInt32 =
      UplinkControlKind.executionAcknowledgement.code.toUInt32.toInt32
        ↔ kind = .executionAcknowledgement := by
    cases kind <;> decide
  have hstate (state : UplinkState) :
      state.code.toUInt32.toInt32 = UplinkState.executed.code.toUInt32.toInt32
        ↔ state = .executed := by
    cases state <;> decide
  have hreason (reason : UplinkReasonCode) :
      reason.code.toUInt32.toInt32 = UplinkReasonCode.accepted.code.toUInt32.toInt32
        ↔ reason = .accepted := by
    cases reason <;> decide
  show _ = _ ∧ _ = _ ∧ _ = _ ∧ _ = _ ↔ _
  rw [show (p.receiptEntry receipt).kind = .uplink from rfl]
  exact (and_iff_right rfl).trans
    (and_congr (hkind receipt.kind) (and_congr (hstate receipt.state) (hreason receipt.reason)))

/-- The flight computer can be given the load. -/
def Applicable (p : KsaG10rReferenceOpsV1) (load : UplinkCommandLoad) : Prop :=
  match load.loadType with
  | .groundNavigationUpdate => load.frame = p.inner.navigation.frame
  | .missionEventTarget =>
      (getElem load.arguments 0 Arguments.first_lt).toUInt32.toUInt8 = 1 ∨ (getElem load.arguments 0 Arguments.first_lt).toUInt32.toUInt8 = 2
  | .highLevelMode | .contingencyBranch | .navigationMode => True

theorem applyCommitted_fst : (p.applyCommitted load).1 = true ↔ p.Applicable load := by
  unfold applyCommitted Applicable
  cases load.loadType with
  | groundNavigationUpdate =>
      dsimp only
      unfold GlobalFlightComputer.operationalNavigationUpdate
      split
      · rename_i hframe
        exact iff_of_false Bool.false_ne_true hframe
      · rename_i hframe
        exact iff_of_true rfl (not_not.mp hframe)
  | missionEventTarget =>
      dsimp only
      unfold GlobalFlightComputer.operationalGuidanceTarget
      dsimp only
      split
      · rename_i hpowered
        exact iff_of_true rfl (.inl hpowered)
      · rename_i hpowered
        split
        · rename_i hentry
          exact iff_of_true rfl (.inr hentry)
        · rename_i hentry
          exact iff_of_false Bool.false_ne_true (not_or.mpr ⟨hpowered, hentry⟩)
  | highLevelMode => exact iff_of_true rfl trivial
  | contingencyBranch => exact iff_of_true rfl trivial
  | navigationMode => exact iff_of_true rfl trivial

theorem applied_iff : p.applied load = true ↔ p.Applicable load := applyCommitted_fst

/-- The committed load whose epoch it is. -/
def dueLoad (p : KsaG10rReferenceOpsV1) : Option UplinkCommandLoad :=
  p.plan.bind fun _ ↦ p.uplink.pending.bind fun pending ↦
    if pending.load.expiresEpoch < p.epoch ∨ pending.state ≠ .committed
        ∨ p.epoch ≠ pending.effectiveEpoch then none
    else some pending.load

/-- The load that is due is released with its acknowledgement. -/
theorem released_eq :
    ∃ acknowledgement : UplinkCommandLoad → UplinkControlRecord,
      p.released = p.dueLoad.map (fun load ↦ (load, acknowledgement load))
        ∧ ∀ load, AcknowledgesExecution (acknowledgement load)
          ∧ (acknowledgement load).loadIdentity = load.loadIdentity := by
  refine ⟨fun load ↦ ({ p.uplink with
      pending := none, lastExecutedIdentity := load.loadIdentity }.receipt
        .executionAcknowledgement load p.epoch p.epoch .executed .accepted).1, ?_,
    fun load ↦ ⟨⟨rfl, rfl, rfl⟩, rfl⟩⟩
  unfold released dueLoad AtomicUplinkManager.release
  cases p.plan with
  | none => rfl
  | some plan =>
      cases p.uplink.pending with
      | none => rfl
      | some pending =>
          dsimp only [Option.bind_some]
          by_cases hexpired : pending.load.expiresEpoch < p.epoch
          · rw [if_pos hexpired, if_pos (.inl hexpired)]
            rfl
          · by_cases hdue : pending.state ≠ .committed ∨ p.epoch ≠ pending.effectiveEpoch
            · rw [if_neg hexpired, if_pos hdue, if_pos (.inr hdue)]
              rfl
            · rw [if_neg hexpired, if_neg hdue, if_neg (not_or.mpr ⟨hexpired, hdue⟩)]
              rfl

theorem stage_kind {m : AtomicUplinkManager} {epoch mask : UInt32} {navigation : GlobalNavigation}
    {manifest : FlightSoftwarePackageManifest} {plan : MissionPlan} :
    (m.stage load epoch mask navigation manifest plan).1.kind = .stageReceipt := by
  unfold AtomicUplinkManager.stage
  split
  · rfl
  · split
    · split <;> rfl
    · dsimp only
      split <;> rfl

theorem commit_kind {m : AtomicUplinkManager} {epoch : UInt32} {request : UplinkControlRecord} :
    (m.commit request epoch).1 = request ∧ m.pending = none
      ∨ (m.commit request epoch).1.kind = .commitReceipt ∧ m.pending ≠ none := by
  unfold AtomicUplinkManager.commit
  cases m.pending with
  | none => exact .inl ⟨rfl, rfl⟩
  | some pending =>
      refine .inr ⟨?_, nofun⟩
      dsimp only
      split
      · rfl
      · split
        · rfl
        · split <;> rfl

theorem cancel_kind {m : AtomicUplinkManager} {epoch : UInt32} {request : UplinkControlRecord} :
    (m.cancel request epoch).1 = request ∧ m.pending = none
      ∨ (m.cancel request epoch).1.kind = .cancellation ∧ m.pending ≠ none := by
  unfold AtomicUplinkManager.cancel
  cases m.pending with
  | none => exact .inl ⟨rfl, rfl⟩
  | some pending =>
      refine .inr ⟨?_, nofun⟩
      dsimp only
      split <;> rfl

/-- Whatever the call appends, its acknowledgements are of loads that this release has applied. -/
structure AcknowledgesApplied (p : KsaG10rReferenceOpsV1) (call : PackageCall) : Prop where
  journaled : (p.step call).journal = run EventJournal.step p.journal (p.entries call)
  applied : ∀ entry ∈ p.entries call, entry.Acknowledges →
    (∃ fast aid transition, call = .release fast aid transition)
      ∧ ∃ load acknowledgement, p.released = some (load, acknowledgement)
        ∧ entry.primaryIdentity = load.loadIdentity ∧ p.applied load = true

/-- The due load can be applied, and an answered request is not itself an acknowledgement. -/
def Acknowledgeable (p : KsaG10rReferenceOpsV1) : PackageCall → Prop
  | .release _ _ _ => ∀ load, p.dueLoad = some load → p.Applicable load
  | .commit request | .cancel request =>
      p.plan.isSome → p.uplink.pending = none → ¬AcknowledgesExecution request
  | .initializeMissionPlan _ | .stage _ _ | .communications _ => True

/-- A call that appends nothing that acknowledges. -/
theorem acknowledgesApplied_of_not {call : PackageCall}
    (h : ∀ entry ∈ p.entries call, ¬entry.Acknowledges) : p.AcknowledgesApplied call :=
  ⟨p.journal_step call, fun entry hmem hacknowledges ↦ absurd hacknowledges (h entry hmem)⟩

/-- A call that is answered with a receipt is no release: the receipt must not acknowledge. -/
theorem acknowledgesApplied_answer {call : PackageCall} {answer : Option UplinkControlRecord}
    (hentries : p.entries call = (answer.map p.receiptEntry).toList)
    (hcall : ∀ fast aid transition, call ≠ .release fast aid transition) :
    p.AcknowledgesApplied call ↔ ∀ receipt, answer = some receipt → ¬AcknowledgesExecution receipt := by
  constructor
  · rintro ⟨-, happlied⟩ receipt rfl hacknowledges
    obtain ⟨⟨fast, aid, transition, hrelease⟩, -⟩ := happlied (p.receiptEntry receipt)
      (by rw [hentries]; exact List.mem_singleton.mpr rfl) (receiptEntry_acknowledges.mpr hacknowledges)
    exact hcall fast aid transition hrelease
  · intro h
    refine acknowledgesApplied_of_not fun entry hmem ↦ ?_
    rw [hentries] at hmem
    cases answer with
    | none => cases hmem
    | some receipt =>
        obtain rfl := List.mem_singleton.mp hmem
        exact receiptEntry_acknowledges.not.mpr (h receipt rfl)

theorem not_acknowledges_of_kind {entry : JournalEntry} (h : entry.kind ≠ .uplink) :
    ¬entry.Acknowledges := fun hacknowledges ↦ h hacknowledges.1

theorem predictionEntries_kind {navigation : GlobalNavigation} :
    ∀ entry ∈ p.predictionEntries navigation, entry.kind = .prediction := by
  unfold predictionEntries
  cases p.plan with
  | none => exact nofun
  | some plan =>
      dsimp only
      split
      · intro entry hmem
        rw [List.mem_singleton.mp hmem]
      · exact nofun

/-- A release acknowledges the due load, and nothing else. -/
theorem acknowledgesApplied_release {fast : Option GlobalFastSensorCell}
    {aid : Option GlobalAidFrameCell} {transition : Option GlobalTransitionCell} :
    p.AcknowledgesApplied (.release fast aid transition) ↔
      ∀ load, p.dueLoad = some load → p.Applicable load := by
  obtain ⟨acknowledgement, hreleased, hacknowledgement⟩ := @released_eq p
  have hentries : p.entries (.release fast aid transition) =
      p.executionEntries ++ (p.ticked fast aid transition).predictionEntries
        (p.executeUplink.inner.tick fast aid transition).1.navigation := rfl
  constructor
  · rintro ⟨-, happlied⟩ load hdue
    rw [hdue, Option.map_some] at hreleased
    have hmem : p.receiptEntry (acknowledgement load) ∈ p.entries (.release fast aid transition) := by
      rw [hentries]
      refine List.mem_append_left _ ?_
      unfold executionEntries
      rw [hreleased]
      exact List.mem_cons_self
    obtain ⟨-, handed, _, heq, -, hgiven⟩ := happlied _ hmem
      (receiptEntry_acknowledges.mpr (hacknowledgement load).1)
    cases hreleased.symm.trans heq
    exact applied_iff.mp hgiven
  · intro happlicable
    refine ⟨p.journal_step _, fun entry hmem hacknowledges ↦ ⟨⟨fast, aid, transition, rfl⟩, ?_⟩⟩
    rw [hentries, List.mem_append] at hmem
    rcases hmem with hmem | hmem
    · unfold executionEntries at hmem
      cases hdue : p.dueLoad with
      | none =>
          rw [hdue, Option.map_none] at hreleased
          rw [hreleased] at hmem
          cases hmem
      | some load =>
          rw [hdue, Option.map_some] at hreleased
          rw [hreleased] at hmem
          refine ⟨load, _, hreleased, ?_, applied_iff.mpr (happlicable load hdue)⟩
          rcases List.mem_cons.mp hmem with rfl | hmode
          · exact (hacknowledgement load).2
          · obtain rfl := List.mem_singleton.mp hmode
            cases hacknowledges.1
    · have hkind := predictionEntries_kind entry hmem
      rw [hacknowledges.1] at hkind
      cases hkind

theorem acknowledgesApplied_iff (call : PackageCall) :
    p.AcknowledgesApplied call ↔ p.Acknowledgeable call := by
  cases call with
  | initializeMissionPlan plan =>
      refine iff_of_true (acknowledgesApplied_of_not fun entry hmem ↦ ?_) trivial
      unfold entries at hmem
      dsimp only at hmem
      split at hmem
      · cases hmem
      · obtain rfl := List.mem_singleton.mp hmem
        exact not_acknowledges_of_kind (by rintro ⟨⟩)
  | communications available =>
      refine iff_of_true (acknowledgesApplied_of_not fun entry hmem ↦ ?_) trivial
      obtain rfl := List.mem_singleton.mp hmem
      exact not_acknowledges_of_kind (by rintro ⟨⟩)
  | stage load mask =>
      have hanswer := @acknowledgesApplied_answer p (.stage load mask) (p.stageUplink load mask).1 rfl
        (by rintro _ _ _ ⟨⟩)
      refine iff_of_true (hanswer.mpr ?_) trivial
      unfold stageUplink
      cases p.plan with
      | none => exact fun _ hreceipt ↦ (Option.some_ne_none _ hreceipt.symm).elim
      | some plan =>
          rintro receipt hreceipt ⟨hkind, -⟩
          obtain rfl := Option.some.inj hreceipt
          rw [stage_kind] at hkind
          cases hkind
  | commit request =>
      have hanswer := @acknowledgesApplied_answer p (.commit request) (p.commitUplink request).1 rfl
        (by rintro _ _ _ ⟨⟩)
      refine hanswer.trans ?_
      unfold Acknowledgeable commitUplink
      cases p.plan with
      | none =>
          exact iff_of_true (fun _ hreceipt ↦ (Option.some_ne_none _ hreceipt.symm).elim)
            fun hsome ↦ (Bool.false_ne_true hsome).elim
      | some plan =>
          rcases @commit_kind p.uplink p.epoch request with ⟨hecho, hnone⟩ | ⟨hkind, hpending⟩
          · refine ⟨fun h _ _ ↦ h request (congrArg some hecho), fun h receipt hreceipt ↦ ?_⟩
            obtain rfl := Option.some.inj hreceipt
            rw [hecho]
            exact h rfl hnone
          · refine iff_of_true ?_ fun _ hnone ↦ absurd hnone hpending
            rintro receipt hreceipt ⟨hacknowledges, -⟩
            obtain rfl := Option.some.inj hreceipt
            rw [hkind] at hacknowledges
            cases hacknowledges
  | cancel request =>
      have hanswer := @acknowledgesApplied_answer p (.cancel request) (p.cancelUplink request).1 rfl
        (by rintro _ _ _ ⟨⟩)
      refine hanswer.trans ?_
      unfold Acknowledgeable cancelUplink
      cases p.plan with
      | none =>
          exact iff_of_true (fun _ hreceipt ↦ (Option.some_ne_none _ hreceipt.symm).elim)
            fun hsome ↦ (Bool.false_ne_true hsome).elim
      | some plan =>
          rcases @cancel_kind p.uplink p.epoch request with ⟨hecho, hnone⟩ | ⟨hkind, hpending⟩
          · refine ⟨fun h _ _ ↦ h request (congrArg some hecho), fun h receipt hreceipt ↦ ?_⟩
            obtain rfl := Option.some.inj hreceipt
            rw [hecho]
            exact h rfl hnone
          · refine iff_of_true ?_ fun _ hnone ↦ absurd hnone hpending
            rintro receipt hreceipt ⟨hacknowledges, -⟩
            obtain rfl := Option.some.inj hreceipt
            rw [hkind] at hacknowledges
            cases hacknowledges
  | release fast aid transition => exact acknowledgesApplied_release

/-- **Acknowledged loads.**  The acknowledgements journaled in a run are of loads that were applied
in the same release, if and only if every due load could be applied and no acknowledgement was
answered with itself. -/
theorem acknowledged_iff (p : KsaG10rReferenceOpsV1) (calls : List PackageCall) :
    Meets step AcknowledgesApplied p calls ↔ Meets step Acknowledgeable p calls :=
  meets_iff_of_invariant (fun _ ↦ True) (fun _ _ _ _ ↦ trivial)
    (fun _ call _ ↦ acknowledgesApplied_iff call) trivial calls

end Acknowledged

/-! ## A load whose frame is left -/

/-- A navigation update that changes nothing, for the frame of the pad. -/
def padLoad : UplinkCommandLoad :=
  { modeLoad 1 0 with
    loadType := .groundNavigationUpdate
    requiredCapabilities := packageCapGroundNavUpdate }

/-- The transition from the pad to the Earth-fixed frame. -/
def leavePad : GlobalTransitionCell where
  session := ksaG10rReferenceFlightConfig.session
  sourceEpoch := 1
  effectiveEpoch := 1
  fromFrame := .localEnuV1
  toFrame := .earthFixedEcefV1
  flags := 0
  missionTimeQ16 := 0
  transformIdentity := 0
  rotationQ30 := identityQuaternion
  omegaQ24 := .replicate 3 0
  prePositionQ12 := .replicate 3 0
  postPositionQ12 := .replicate 3 0
  preVelocityQ24 := .replicate 3 0
  postVelocityQ24 := .replicate 3 0
  preAttitudeQ30 := identityQuaternion
  postAttitudeQ30 := identityQuaternion
  preRateQ24 := .replicate 3 0
  postRateQ24 := .replicate 3 0
  translationQ12 := .replicate 3 0
  velocityBiasQ24 := .replicate 3 0
  transitionChecksum := 0

/-- The load is staged and committed, the frame is left, and the load is executed. -/
def leaveCalls : List PackageCall :=
  [.initializeMissionPlan ksaG10rReferenceMissionPlan, .stage padLoad 0, .commit (commitOf padLoad),
    .release none none none, .release none none (some leavePad), .release none none none]

/-- The load is acknowledged and not applied. -/
theorem acknowledged_not_applied :
    ¬∀ (config : GlobalFlightConfig) (p : KsaG10rReferenceOpsV1) (calls : List PackageCall),
      new config = some p → Meets step AcknowledgesApplied p calls := by
  intro h
  have hmeets := meets_iff_forall.mp (h _ _ leaveCalls new_referenceFlightConfig)
    (leaveCalls.take 5) _ [] rfl
  have happlicable := (acknowledgesApplied_iff _).mp hmeets padLoad (by decide +kernel)
  have hframe : padLoad.frame ≠ (run step referencePackage (leaveCalls.take 5)).inner.navigation.frame := by
    decide +kernel
  exact hframe happlicable

/-! ## The bare computer -/

/-- The evidence of a call, if it is a release. -/
def evidence (p : KsaG10rReferenceOpsV1) : PackageCall → Option GlobalFlightEvidence
  | .release fast aid transition => some (p.processRelease fast aid transition).1
  | _ => none

/-- The bare computer is given the releases only. -/
def bareStep (c : GlobalFlightComputer) : PackageCall → GlobalFlightComputer
  | .release fast aid transition => (c.tick fast aid transition).2
  | _ => c

def bareEvidence (c : GlobalFlightComputer) : PackageCall → Option GlobalFlightEvidence
  | .release fast aid transition => some (c.tick fast aid transition).1
  | _ => none

/-- A load that the call executes does not concern the flight computer. -/
def ExecutesApart (p : KsaG10rReferenceOpsV1) (call : PackageCall) : Prop :=
  ∀ load, p.handedOut call = some load →
    load.loadType = .contingencyBranch ∨ load.loadType = .navigationMode

section Bare

variable {p : KsaG10rReferenceOpsV1} {fast : Option GlobalFastSensorCell}
  {aid : Option GlobalAidFrameCell} {transition : Option GlobalTransitionCell}

theorem handedOut_release : p.handedOut (.release fast aid transition) = p.released.map Prod.fst := by
  unfold handedOut uplinkCall released
  cases p.plan <;> rfl

theorem inner_predict (navigation : GlobalNavigation) :
    (p.predict navigation).inner = p.inner := by
  unfold predict
  split
  · rfl
  · split
    · show (p.journalPrediction _).inner = _
      unfold journalPrediction
      split <;> rfl
    · rfl

theorem inner_markPlanChanged (applied : Bool) (load : UplinkCommandLoad) :
    (p.markPlanChanged applied load).inner = p.inner := by
  unfold markPlanChanged
  split <;> rfl

/-- Executing a load that does not concern it leaves the flight computer alone. -/
theorem inner_executeUplink (h : p.ExecutesApart (.release fast aid transition)) :
    p.executeUplink.inner = p.inner := by
  unfold ExecutesApart at h
  rw [handedOut_release] at h
  unfold released at h
  obtain ⟨inner, _ | plan, uplink, journal, epoch, prediction, checksum, dirty⟩ := p
  · rfl
  · unfold executeUplink
    dsimp only [Option.bind_some] at h ⊢
    cases hreleased : (uplink.release epoch).1 with
    | none => rfl
    | some handed =>
        obtain ⟨load, acknowledgement⟩ := handed
        rw [hreleased] at h
        dsimp only
        show ((KsaG10rReferenceOpsV1.journalReceipt _ _).markPlanChanged _ _).inner = _
        rw [inner_markPlanChanged]
        show (applyCommitted _ load).2.inner = inner
        unfold applyCommitted
        rcases h load rfl with hload | hload <;> rw [hload]

theorem inner_step {call : PackageCall} (h : p.ExecutesApart call) :
    (p.step call).inner = bareStep p.inner call := by
  cases call with
  | initializeMissionPlan plan =>
      unfold step initializeMissionPlan
      dsimp only
      split <;> rfl
  | communications available => rfl
  | stage load mask =>
      unfold step stageUplink
      dsimp only
      split <;> rfl
  | commit request =>
      unfold step commitUplink
      dsimp only
      split <;> rfl
  | cancel request =>
      unfold step cancelUplink
      dsimp only
      split <;> rfl
  | release fast aid transition =>
      rw [step_release]
      show ((p.ticked fast aid transition).predict _).inner = (p.inner.tick fast aid transition).2
      rw [inner_predict]
      show (p.executeUplink.inner.tick fast aid transition).2 = _
      rw [inner_executeUplink h]

theorem evidence_eq {call : PackageCall} (h : p.ExecutesApart call) :
    p.evidence call = bareEvidence p.inner call := by
  cases call with
  | release fast aid transition =>
      show some (p.executeUplink.inner.tick fast aid transition).1 = _
      rw [inner_executeUplink h]
      rfl
  | initializeMissionPlan | stage | commit | cancel | communications => rfl

/-- **The shell.**  Up to the first release that executes a load, and as long as the executed loads
are branch selections and navigation modes, the evidence is that of the bare computer. -/
theorem evidence_eq_bare {config : GlobalFlightConfig} {c : GlobalFlightComputer}
    (hnew : new config = some p) (hbare : GlobalFlightComputer.new config = some c)
    (calls : List PackageCall) :
    (∀ before after, calls = before ++ after →
        Meets step (fun p call ↦ p.handedOut call = none) p before →
        emits step evidence p before = emits bareStep bareEvidence c before)
      ∧ (Meets step ExecutesApart p calls →
        emits step evidence p calls = emits bareStep bareEvidence c calls) := by
  have hinner : p.inner = c := by
    obtain ⟨inner, hinner, hp⟩ := Option.bind_eq_some_iff.mp hnew
    cases hinner.symm.trans hbare
    rw [← Option.some.inj hp]
  have hsimulates (calls : List PackageCall) (h : Meets step ExecutesApart p calls) :
      emits step evidence p calls = emits bareStep bareEvidence c calls := by
    rw [← hinner]
    exact emits_simulation (fun _ _ hcall ↦ inner_step hcall) (fun _ _ hcall ↦ evidence_eq hcall) h
  refine ⟨fun before after _ hnone ↦ ?_, hsimulates calls⟩
  refine hsimulates before (hnone.mono fun p call hcall load hload ↦ ?_)
  rw [hcall] at hload
  cases hload

end Bare

instance (p : KsaG10rReferenceOpsV1) (call : PackageCall) : Decidable (p.ExecutesApart call) :=
  inferInstanceAs (Decidable (∀ load ∈ p.handedOut call,
    load.loadType = .contingencyBranch ∨ load.loadType = .navigationMode))

/-- The selection of a branch. -/
def branchLoad : UplinkCommandLoad :=
  { modeLoad 1 0 with
    loadType := .contingencyBranch
    requiredCapabilities := packageCapBranchSelect }

/-- A branch is selected and three releases pass. -/
theorem evidence_eq_bare_reference :
    emits step evidence referencePackage
        (.initializeMissionPlan ksaG10rReferenceMissionPlan :: sendLoad branchLoad)
      = emits bareStep bareEvidence referencePackage.inner
        (.initializeMissionPlan ksaG10rReferenceMissionPlan :: sendLoad branchLoad) := by
  obtain ⟨inner, hinner, hpackage⟩ := Option.bind_eq_some_iff.mp new_referenceFlightConfig
  refine (evidence_eq_bare new_referenceFlightConfig ?_ _).2 (by decide +kernel)
  rw [← Option.some.inj hpackage]
  exact hinner

end KsaG10rReferenceOpsV1

end Ksa64.Flight
