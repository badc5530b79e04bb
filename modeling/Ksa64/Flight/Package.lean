import Ksa64.Flight.Journal
import Ksa64.Flight.Receiver
import Ksa64.Flight.Uplink

/-!
# The reference operations package

`KsaG10rReferenceOpsV1` wraps the flight computer with a mission plan, the uplink
manager, the event journal and a compact prediction.  The first half of this file is
the package of the source; a release is cut into its three stages.  The second half
reads a run of the package as a run of its uplink manager (`uplink_step`) and draws
from the uplink machine what the package promises about command loads: which identities
are executed, and against which plan a load was validated.
-/

namespace Ksa64.Flight

open Ksa64.Library Ksa64.Core Ksa64.Interface

/-! ## Prediction -/

def wgs84SemiMajorQ12Km : Int32 := 26124849
def gravityQ28KmS2 : Int64 := 2632453

/-- Altitude and vertical velocity: the third axis in the local frame, the radial
direction in the others. -/
def verticalState (navigation : GlobalNavigation) : Int32 × Int32 :=
  if navigation.frame = .localEnuV1 then ((getElem navigation.positionQ12 2 Axes.z_lt), getElem navigation.velocityQ24 2 Axes.z_lt)
  else
    let radius := (magnitude4Floor 0 (getElem navigation.positionQ12 0 Axes.x_lt) (getElem navigation.positionQ12 1 Axes.y_lt)
      (getElem navigation.positionQ12 2 Axes.z_lt) .clear).1.toInt32
    let dot := (List.finRange 3).foldl (fun sum axis ↦
      addSatI64 sum
        ((navigation.positionQ12.get axis).toInt64 * (navigation.velocityQ24.get axis).toInt64)) 0
    let radialVelocity := if 0 < radius then narrow (dot / radius.toInt64) else 0
    (subSatI32 radius wgs84SemiMajorQ12Km, radialVelocity)

def compactPrediction (navigation : GlobalNavigation) (plan : MissionPlan) (epoch : UInt32) :
    PredictionSummary :=
  let (altitudeQ12, verticalVelocityQ24) := verticalState navigation
  let ascending := (max verticalVelocityQ24 0).toInt64
  let additionalQ12 :=
    (max (0 : Int64) (min 2147483647 (ascending * ascending / (gravityQ28KmS2 * 512)))).toInt32
  let timeToApogeeQ16 :=
    (max (0 : Int64) (min 4294967295 ((ascending <<< 20) / gravityQ28KmS2))).toUInt64.toUInt32
  let apogeeQ12Km := addSatI32 altitudeQ12 additionalQ12
  let predictionChecksum := hashReceipt navigation.checksum plan.planIdentity epoch
    apogeeQ12Km.toUInt32 navigation.frame.code 0
  { predictionIdentity := max predictionChecksum 1
    modelIdentity := plan.onboardPredictionModel
    product := .onboardCompact
    sourceEstimateIdentity := 0x11e10001
    sourceEstimateChecksum := navigation.checksum
    packageManifestIdentity := plan.packageManifestIdentity
    planIdentity := plan.planIdentity
    sourceEpoch := epoch
    generationEpoch := epoch
    validUntilEpoch := addSat32 epoch 32
    frame := navigation.frame
    terminalReason := .validHorizon
    apogeeQ12Km := apogeeQ12Km
    perigeeQ12Km := 0
    timeToApogeeQ16 := timeToApogeeQ16
    timeToImpactQ16 := 0
    impactPositionQ12Km := navigation.positionQ12
    transitionEpochs := Vector.replicate 3 0xffffffff
    assumptions := 1
    predictionChecksum := predictionChecksum }

/-! ## The package -/

structure KsaG10rReferenceOpsV1 where
  inner : GlobalFlightComputer
  plan : Option MissionPlan
  uplink : AtomicUplinkManager
  journal : EventJournal
  epoch : UInt32
  lastPrediction : Option PredictionSummary
  activePlanChecksum : UInt32
  predictionDirty : Bool
deriving DecidableEq

namespace KsaG10rReferenceOpsV1

def new (config : GlobalFlightConfig) : Option KsaG10rReferenceOpsV1 := do
  let inner ← GlobalFlightComputer.new config
  pure {
    inner := inner
    plan := none
    uplink := .new
    journal := .new
    epoch := 0
    lastPrediction := none
    activePlanChecksum := 0
    predictionDirty := false }

/-- Append to the journal at the current epoch. -/
def appendJournal (p : KsaG10rReferenceOpsV1) (kind : JournalEventKind)
    (primaryIdentity secondaryIdentity : UInt32) (arguments : Vector Int32 4) :
    KsaG10rReferenceOpsV1 :=
  { p with
    journal := (p.journal.append ⟨p.epoch, kind, primaryIdentity, secondaryIdentity, arguments⟩).2 }

def journalReceipt (p : KsaG10rReferenceOpsV1) (receipt : UplinkControlRecord) :
    KsaG10rReferenceOpsV1 :=
  p.appendJournal .uplink receipt.loadIdentity receipt.controlIdentity
    #v[receipt.kind.code.toUInt32.toInt32, receipt.state.code.toUInt32.toInt32,
      receipt.reason.code.toUInt32.toInt32, receipt.effectiveEpoch.toInt32]

def initializeMissionPlan (p : KsaG10rReferenceOpsV1) (plan : MissionPlan) :
    Bool × KsaG10rReferenceOpsV1 :=
  if planForeign plan ksaG10rReferenceOpsManifest then (false, p)
  else
    (true,
      { p with
        plan := some plan
        activePlanChecksum := plan.planIdentity
        predictionDirty := true }.appendJournal .mode plan.planIdentity
          ksaG10rReferenceOpsManifestId #v[1, 0, 0, 0])

def stageUplink (p : KsaG10rReferenceOpsV1) (load : UplinkCommandLoad)
    (completedEventMask : UInt32) : Option UplinkControlRecord × KsaG10rReferenceOpsV1 :=
  match p.plan with
  | none => (none, p)
  | some plan =>
      let (receipt, uplink) := p.uplink.stage load p.epoch completedEventMask p.inner.navigation
        ksaG10rReferenceOpsManifest plan
      (some receipt, { p with uplink := uplink }.journalReceipt receipt)

def commitUplink (p : KsaG10rReferenceOpsV1) (request : UplinkControlRecord) :
    Option UplinkControlRecord × KsaG10rReferenceOpsV1 :=
  match p.plan with
  | none => (none, p)
  | some _ =>
      let (receipt, uplink) := p.uplink.commit request p.epoch
      (some receipt, { p with uplink := uplink }.journalReceipt receipt)

def cancelUplink (p : KsaG10rReferenceOpsV1) (request : UplinkControlRecord) :
    Option UplinkControlRecord × KsaG10rReferenceOpsV1 :=
  match p.plan with
  | none => (none, p)
  | some _ =>
      let (receipt, uplink) := p.uplink.cancel request p.epoch
      (some receipt, { p with uplink := uplink }.journalReceipt receipt)

def recordGroundCommunications (p : KsaG10rReferenceOpsV1) (available : Bool) :
    KsaG10rReferenceOpsV1 :=
  p.appendJournal .communications (if available then 1 else 0) 0 (.replicate 4 0)

/-- Apply an executed load to the flight computer. -/
def applyCommitted (p : KsaG10rReferenceOpsV1) (load : UplinkCommandLoad) :
    Bool × KsaG10rReferenceOpsV1 :=
  let a := load.arguments
  match load.loadType with
  | .groundNavigationUpdate =>
      let (applied, inner) := p.inner.operationalNavigationUpdate load.frame #v[a[0], a[1], a[2]]
        #v[a[3], a[4], a[5]] p.epoch.toUInt16
      (applied, { p with inner := inner })
  | .missionEventTarget =>
      let (applied, inner) := p.inner.operationalGuidanceTarget a[0].toUInt32.toUInt8
        #v[a[1], a[2], a[3], a[4]]
      (applied, { p with inner := inner })
  | .highLevelMode =>
      (true, if (2 : Int32) ≤ a[0] then { p with inner := p.inner.operationalRequestSafe } else p)
  | .contingencyBranch | .navigationMode => (true, p)

/-- The plan checksum and the prediction follow every applied load but a navigation
update. -/
def markPlanChanged (p : KsaG10rReferenceOpsV1) (applied : Bool) (load : UplinkCommandLoad) :
    KsaG10rReferenceOpsV1 :=
  if applied ∧ load.loadType ≠ .groundNavigationUpdate then
    { p with
      activePlanChecksum := hashJournal p.activePlanChecksum load.loadIdentity p.epoch
        load.loadType.code load.requiredCapabilities load.planIdentity
        #v[load.arguments[0], load.arguments[1], load.arguments[2], load.arguments[3]]
      predictionDirty := true }
  else p

/-- The first stage of a release: execute the load that is due. -/
def executeUplink (p : KsaG10rReferenceOpsV1) : KsaG10rReferenceOpsV1 :=
  match p.plan with
  | none => p
  | some _ =>
      let (released, uplink) := p.uplink.release p.epoch
      let p := { p with uplink := uplink }
      match released with
      | none => p
      | some (load, acknowledgement) =>
          let (applied, p) := p.applyCommitted load
          ((p.journalReceipt acknowledgement).markPlanChanged applied load).appendJournal .mode
            load.loadIdentity load.loadType.code.toUInt32 #v[if applied then 1 else 0, 0, 0, 0]

/-- Journal a prediction that differs from the last one. -/
def journalPrediction (p : KsaG10rReferenceOpsV1) (prediction : PredictionSummary) :
    KsaG10rReferenceOpsV1 :=
  if p.lastPrediction.all fun prior ↦
      prior.predictionChecksum != prediction.predictionChecksum then
    p.appendJournal .prediction prediction.predictionIdentity prediction.sourceEstimateIdentity
      #v[prediction.apogeeQ12Km, prediction.timeToApogeeQ16.toInt32, 0, 0]
  else p

/-- The last stage of a release: predict once a second and after every change. -/
def predict (p : KsaG10rReferenceOpsV1) (navigation : GlobalNavigation) :
    KsaG10rReferenceOpsV1 :=
  match p.plan with
  | none => p
  | some plan =>
      if p.epoch &&& 31 = 0 ∨ p.predictionDirty then
        let prediction := compactPrediction navigation plan p.epoch
        let predictionChecksum := hashReceipt prediction.predictionChecksum p.activePlanChecksum
          p.epoch plan.planIdentity prediction.product.code 0
        let prediction := { prediction with
          predictionChecksum := predictionChecksum
          predictionIdentity := max predictionChecksum 1 }
        { p.journalPrediction prediction with
          lastPrediction := some prediction, predictionDirty := false }
      else p

def processRelease (p : KsaG10rReferenceOpsV1) (fast : Option GlobalFastSensorCell)
    (aid : Option GlobalAidFrameCell) (transition : Option GlobalTransitionCell) :
    GlobalFlightEvidence × KsaG10rReferenceOpsV1 :=
  let p := p.executeUplink
  let ticked := p.inner.tick fast aid transition
  let p := { p with inner := ticked.2 }.predict ticked.1.navigation
  (ticked.1, { p with epoch := addSat32 p.epoch 1 })

end KsaG10rReferenceOpsV1

/-! ## Calls -/

/-- A call of the package. -/
inductive PackageCall where
  | initializeMissionPlan (plan : MissionPlan)
  | stage (load : UplinkCommandLoad) (completedEventMask : UInt32)
  | commit (request : UplinkControlRecord)
  | cancel (request : UplinkControlRecord)
  | communications (available : Bool)
  | release (fast : Option GlobalFastSensorCell) (aid : Option GlobalAidFrameCell)
      (transition : Option GlobalTransitionCell)

namespace KsaG10rReferenceOpsV1

/-- The package after the call. -/
def step (p : KsaG10rReferenceOpsV1) : PackageCall → KsaG10rReferenceOpsV1
  | .initializeMissionPlan plan => (p.initializeMissionPlan plan).2
  | .stage load mask => (p.stageUplink load mask).2
  | .commit request => (p.commitUplink request).2
  | .cancel request => (p.cancelUplink request).2
  | .communications available => p.recordGroundCommunications available
  | .release fast aid transition => (p.processRelease fast aid transition).2

/-- The call the package makes of its uplink manager: none without a plan. -/
def uplinkCall (p : KsaG10rReferenceOpsV1) : PackageCall → Option UplinkCall
  | .stage load mask =>
      p.plan.map (.stage load p.epoch mask p.inner.navigation ksaG10rReferenceOpsManifest)
  | .commit request => p.plan.map fun _ ↦ .commit request p.epoch
  | .cancel request => p.plan.map fun _ ↦ .cancel request p.epoch
  | .release _ _ _ => p.plan.map fun _ ↦ .release p.epoch
  | .initializeMissionPlan _ | .communications _ => none

/-- The load the call hands out for execution. -/
def handedOut (p : KsaG10rReferenceOpsV1) (call : PackageCall) : Option UplinkCommandLoad :=
  (p.uplinkCall call).bind p.uplink.handedOut

end KsaG10rReferenceOpsV1

/-! ### What the stages of a call leave alone -/

section Frame

variable (p : KsaG10rReferenceOpsV1)

/-- Two packages that differ in their journal, flight computer and prediction only. -/
def SameUplink (p q : KsaG10rReferenceOpsV1) : Prop :=
  q.uplink = p.uplink ∧ q.plan = p.plan ∧ q.epoch = p.epoch

theorem SameUplink.trans {p q r : KsaG10rReferenceOpsV1} (hpq : SameUplink p q)
    (hqr : SameUplink q r) : SameUplink p r :=
  ⟨hqr.1.trans hpq.1, hqr.2.1.trans hpq.2.1, hqr.2.2.trans hpq.2.2⟩

theorem sameUplink_appendJournal (kind : JournalEventKind) (primary secondary : UInt32)
    (arguments : Vector Int32 4) :
    SameUplink p (p.appendJournal kind primary secondary arguments) := ⟨rfl, rfl, rfl⟩

theorem sameUplink_journalReceipt (receipt : UplinkControlRecord) :
    SameUplink p (p.journalReceipt receipt) := ⟨rfl, rfl, rfl⟩

theorem sameUplink_applyCommitted (load : UplinkCommandLoad) :
    SameUplink p (p.applyCommitted load).2 := by
  unfold KsaG10rReferenceOpsV1.applyCommitted
  dsimp only
  split
  · exact ⟨rfl, rfl, rfl⟩
  · exact ⟨rfl, rfl, rfl⟩
  · dsimp only
    split <;> exact ⟨rfl, rfl, rfl⟩
  · exact ⟨rfl, rfl, rfl⟩
  · exact ⟨rfl, rfl, rfl⟩

theorem sameUplink_markPlanChanged (applied : Bool) (load : UplinkCommandLoad) :
    SameUplink p (p.markPlanChanged applied load) := by
  unfold KsaG10rReferenceOpsV1.markPlanChanged
  split <;> exact ⟨rfl, rfl, rfl⟩

theorem sameUplink_journalPrediction (prediction : PredictionSummary) :
    SameUplink p (p.journalPrediction prediction) := by
  unfold KsaG10rReferenceOpsV1.journalPrediction
  split <;> exact ⟨rfl, rfl, rfl⟩

theorem sameUplink_predict (navigation : GlobalNavigation) :
    SameUplink p (p.predict navigation) := by
  unfold KsaG10rReferenceOpsV1.predict
  split
  · exact ⟨rfl, rfl, rfl⟩
  · split
    · exact sameUplink_journalPrediction p _
    · exact ⟨rfl, rfl, rfl⟩

/-- Executing the due load is a release of the manager. -/
theorem executeUplink_uplink :
    p.executeUplink.uplink = (p.plan.elim p.uplink fun _ ↦ p.uplink.step (.release p.epoch))
      ∧ p.executeUplink.plan = p.plan ∧ p.executeUplink.epoch = p.epoch := by
  obtain ⟨inner, _ | plan, uplink, journal, epoch, prediction, checksum, dirty⟩ := p
  · exact ⟨rfl, rfl, rfl⟩
  · unfold KsaG10rReferenceOpsV1.executeUplink
    dsimp only
    split
    · exact ⟨rfl, rfl, rfl⟩
    · rename_i load acknowledgement _
      exact (((sameUplink_applyCommitted _ load).trans
        (sameUplink_journalReceipt _ acknowledgement)).trans
        (sameUplink_markPlanChanged _ _ load)).trans (sameUplink_appendJournal _ .mode _ _ _)

/-- A release is a release of the manager and one epoch. -/
theorem processRelease_uplink (fast : Option GlobalFastSensorCell)
    (aid : Option GlobalAidFrameCell) (transition : Option GlobalTransitionCell) :
    (p.processRelease fast aid transition).2.uplink =
        (p.plan.elim p.uplink fun _ ↦ p.uplink.step (.release p.epoch))
      ∧ (p.processRelease fast aid transition).2.plan = p.plan
      ∧ (p.processRelease fast aid transition).2.epoch = addSat32 p.epoch 1 := by
  obtain ⟨huplink, hplan, hepoch⟩ := executeUplink_uplink p
  obtain ⟨huplink', hplan', hepoch'⟩ := sameUplink_predict
    { p.executeUplink with inner := (p.executeUplink.inner.tick fast aid transition).2 }
    (p.executeUplink.inner.tick fast aid transition).1.navigation
  unfold KsaG10rReferenceOpsV1.processRelease
  dsimp only
  exact ⟨huplink'.trans huplink, hplan'.trans hplan, by rw [hepoch', hepoch]⟩

theorem step_release (fast : Option GlobalFastSensorCell) (aid : Option GlobalAidFrameCell)
    (transition : Option GlobalTransitionCell) :
    p.step (.release fast aid transition) = (p.processRelease fast aid transition).2 := by
  unfold KsaG10rReferenceOpsV1.step
  rfl

theorem step_initializeMissionPlan_uplink (plan : MissionPlan) :
    (p.step (.initializeMissionPlan plan)).uplink = p.uplink := by
  unfold KsaG10rReferenceOpsV1.step KsaG10rReferenceOpsV1.initializeMissionPlan
  dsimp only
  split <;> rfl

end Frame

/-- The calls of the operator leave the plan and the epoch alone. -/
theorem command_frame (p : KsaG10rReferenceOpsV1) :
    (∀ load mask, (p.stageUplink load mask).2.plan = p.plan
        ∧ (p.stageUplink load mask).2.epoch = p.epoch)
      ∧ (∀ request, (p.commitUplink request).2.plan = p.plan
        ∧ (p.commitUplink request).2.epoch = p.epoch)
      ∧ ∀ request, (p.cancelUplink request).2.plan = p.plan
        ∧ (p.cancelUplink request).2.epoch = p.epoch := by
  refine ⟨fun load mask ↦ ?_, fun request ↦ ?_, fun request ↦ ?_⟩
  · unfold KsaG10rReferenceOpsV1.stageUplink
    split <;> exact ⟨rfl, rfl⟩
  · unfold KsaG10rReferenceOpsV1.commitUplink
    split <;> exact ⟨rfl, rfl⟩
  · unfold KsaG10rReferenceOpsV1.cancelUplink
    split <;> exact ⟨rfl, rfl⟩

/-- A run of the package is a run of its uplink manager. -/
theorem uplink_step (p : KsaG10rReferenceOpsV1) (call : PackageCall) :
    (p.step call).uplink = (p.uplinkCall call).elim p.uplink p.uplink.step := by
  cases call with
  | initializeMissionPlan plan => exact step_initializeMissionPlan_uplink p plan
  | communications available => rfl
  | release fast aid transition =>
      rw [step_release, (processRelease_uplink p fast aid transition).1]
      unfold KsaG10rReferenceOpsV1.uplinkCall
      cases p.plan <;> rfl
  | stage load mask =>
      unfold KsaG10rReferenceOpsV1.step KsaG10rReferenceOpsV1.uplinkCall
        KsaG10rReferenceOpsV1.stageUplink
      dsimp only
      cases p.plan <;> rfl
  | commit request =>
      unfold KsaG10rReferenceOpsV1.step KsaG10rReferenceOpsV1.uplinkCall
        KsaG10rReferenceOpsV1.commitUplink
      dsimp only
      cases p.plan <;> rfl
  | cancel request =>
      unfold KsaG10rReferenceOpsV1.step KsaG10rReferenceOpsV1.uplinkCall
        KsaG10rReferenceOpsV1.cancelUplink
      dsimp only
      cases p.plan <;> rfl

/-- Only an initialisation with a plan of this package changes the plan. -/
theorem plan_step (p : KsaG10rReferenceOpsV1) (call : PackageCall) :
    (p.step call).plan = p.plan ∨ ∃ plan, call = .initializeMissionPlan plan
      ∧ planForeign plan ksaG10rReferenceOpsManifest = false ∧ (p.step call).plan = some plan := by
  cases call with
  | initializeMissionPlan plan =>
      unfold KsaG10rReferenceOpsV1.step KsaG10rReferenceOpsV1.initializeMissionPlan
      dsimp only
      split
      · exact .inl rfl
      · rename_i hfit
        exact .inr ⟨plan, rfl, Bool.eq_false_of_not_eq_true hfit, rfl⟩
  | communications available => exact .inl rfl
  | release fast aid transition =>
      rw [step_release]
      exact .inl (processRelease_uplink p fast aid transition).2.1
  | stage load mask =>
      unfold KsaG10rReferenceOpsV1.step KsaG10rReferenceOpsV1.stageUplink
      dsimp only
      split <;> exact .inl rfl
  | commit request =>
      unfold KsaG10rReferenceOpsV1.step KsaG10rReferenceOpsV1.commitUplink
      dsimp only
      split <;> exact .inl rfl
  | cancel request =>
      unfold KsaG10rReferenceOpsV1.step KsaG10rReferenceOpsV1.cancelUplink
      dsimp only
      split <;> exact .inl rfl

/-- A call that stages a load is a stage call of the package. -/
theorem uplinkCall_eq_stage {p : KsaG10rReferenceOpsV1} {call : PackageCall}
    {load : UplinkCommandLoad} {epoch mask : UInt32} {navigation : GlobalNavigation}
    {manifest : FlightSoftwarePackageManifest} {plan : MissionPlan}
    (h : p.uplinkCall call = some (.stage load epoch mask navigation manifest plan)) :
    call = .stage load mask ∧ p.plan = some plan ∧ epoch = p.epoch
      ∧ navigation = p.inner.navigation ∧ manifest = ksaG10rReferenceOpsManifest := by
  cases call with
  | initializeMissionPlan | communications => cases h
  | stage load' mask' =>
      obtain ⟨plan', hplan, heq⟩ := Option.map_eq_some_iff.mp h
      cases heq
      exact ⟨rfl, hplan, rfl, rfl, rfl⟩
  | commit | cancel | release =>
      obtain ⟨_, -, heq⟩ := Option.map_eq_some_iff.mp h
      cases heq

/-! ## What is executed -/

section Executed

open KsaG10rReferenceOpsV1

/-- The package with the identities it has handed out for execution, in order. -/
structure RecordedPackage where
  package : KsaG10rReferenceOpsV1
  executed : List UInt32

namespace RecordedPackage

def step (r : RecordedPackage) (call : PackageCall) : RecordedPackage where
  package := r.package.step call
  executed := r.executed ++ ((r.package.handedOut call).map (·.loadIdentity)).toList

/-- A stage call does not offer an identity executed before, unless it is the one
executed last. -/
def Fresh (r : RecordedPackage) : PackageCall → Prop
  | .stage load _ => load.loadIdentity ∈ r.executed →
      r.package.uplink.lastExecutedIdentity = load.loadIdentity
  | _ => True

instance (r : RecordedPackage) (call : PackageCall) : Decidable (r.Fresh call) := by
  cases call <;> unfold Fresh <;> infer_instance

/-- The pending load has not been executed, and nothing has been executed twice. -/
def ReplayInvariant (r : RecordedPackage) : Prop :=
  r.executed.Nodup
    ∧ ∀ held, r.package.uplink.pending = some held → held.load.loadIdentity ∉ r.executed

variable {r : RecordedPackage} {call : PackageCall}

/-- Fresh calls keep the invariant: only a stage call makes a load pending, and only an
execution adds an identity. -/
theorem replayInvariant_step (h : r.ReplayInvariant) (hfresh : r.Fresh call) :
    (r.step call).ReplayInvariant := by
  obtain ⟨hnodup, hpending⟩ := h
  unfold ReplayInvariant step handedOut
  dsimp only
  rw [uplink_step]
  cases hcall : r.package.uplinkCall call with
  | none =>
      rw [Option.bind_none, Option.elim_none, Option.map_none, Option.toList_none,
        List.append_nil]
      exact ⟨hnodup, hpending⟩
  | some uplinkCall =>
      rw [Option.bind_some, Option.elim_some, handedOut_view, ← view_pending, view_step]
      cases next_move r.package.uplink.view uplinkCall with
      | kept hnext hout =>
          rw [hnext, hout, Option.map_none, Option.toList_none, List.append_nil]
          exact ⟨hnodup, hpending⟩
      | staged load epoch mask navigation manifest plan hstage hadm hnext hout =>
          rw [hnext, hout, Option.map_none, Option.toList_none, List.append_nil]
          refine ⟨hnodup, ?_⟩
          rintro held hheld hmem
          cases hheld
          obtain ⟨rfl, -⟩ := uplinkCall_eq_stage (hstage ▸ hcall)
          exact hadm.1 (hfresh hmem)
      | committed prior request epoch _ hprior _ hnext hout =>
          obtain ⟨_, hnext⟩ := hnext
          rw [hnext, hout, Option.map_none, Option.toList_none, List.append_nil]
          refine ⟨hnodup, ?_⟩
          rintro held hheld
          cases hheld
          exact hpending prior hprior
      | cancelled _ _ _ _ _ _ hnext hout | expired _ _ _ _ _ hnext hout =>
          rw [hnext, hout, Option.map_none, Option.toList_none, List.append_nil]
          exact ⟨hnodup, fun held hheld ↦ (Option.some_ne_none held hheld.symm).elim⟩
      | executed prior _ _ hprior _ _ _ hnext hout =>
          rw [hnext, hout, Option.map_some, Option.toList_some]
          have hunseen := hpending prior hprior
          refine ⟨List.nodup_append.mpr ⟨hnodup, List.pairwise_singleton .., ?_⟩,
            fun held hheld ↦ (Option.some_ne_none held hheld.symm).elim⟩
          rintro identity hmem _ hlast rfl
          exact hunseen (List.mem_singleton.mp hlast ▸ hmem)

end RecordedPackage

/-- A new package has an uplink manager that holds nothing. -/
theorem new_uplink {config : GlobalFlightConfig} {p : KsaG10rReferenceOpsV1}
    (hnew : KsaG10rReferenceOpsV1.new config = some p) : p.uplink = .new ∧ p.plan = none := by
  obtain ⟨inner, -, hp⟩ := Option.bind_eq_some_iff.mp hnew
  rw [← Option.some.inj hp]
  exact ⟨rfl, rfl⟩

/-- No identity is executed twice in a run whose stage calls are fresh. -/
theorem no_identity_executed_twice {config : GlobalFlightConfig} {p : KsaG10rReferenceOpsV1}
    (hnew : KsaG10rReferenceOpsV1.new config = some p) (calls : List PackageCall)
    (hfresh : Meets RecordedPackage.step RecordedPackage.Fresh ⟨p, []⟩ calls) :
    (run RecordedPackage.step ⟨p, []⟩ calls).executed.Nodup := by
  have hstart : RecordedPackage.ReplayInvariant ⟨p, []⟩ := by
    refine ⟨List.nodup_nil, fun held hheld ↦ ?_⟩
    rw [(new_uplink hnew).1] at hheld
    exact (Option.some_ne_none held hheld.symm).elim
  exact (run_invariant_of_meets RecordedPackage.ReplayInvariant
    (fun _ _ ↦ RecordedPackage.replayInvariant_step) hstart hfresh).1

/-- A mode command without effect, to be staged at `epoch` and executed two epochs
later. -/
def modeLoad (identity epoch : UInt32) : UplinkCommandLoad where
  loadIdentity := identity
  packageManifestIdentity := ksaG10rReferenceOpsManifestId
  planIdentity := 0x11a00001
  abi := .globalKlr10V1
  sourceEstimatorIdentity := 0x11e00001
  sourceEstimatorChecksum := 0x12345678
  stageEpoch := epoch
  notBeforeEpoch := epoch
  expiresEpoch := epoch + 20
  requestedEffectiveEpoch := epoch + 2
  requiredCapabilities := packageCapHighLevelMode
  prerequisiteEventMask := 0
  positionResidualLimitQ12 := 4096
  velocityResidualLimitQ24 := 16777
  frame := .localEnuV1
  loadType := .highLevelMode
  arguments := Vector.replicate 16 0

/-- The commit of a load. -/
def commitOf (load : UplinkCommandLoad) : UplinkControlRecord where
  kind := .commitRequest
  controlIdentity := load.loadIdentity ^^^ 0x55
  loadIdentity := load.loadIdentity
  packageManifestIdentity := load.packageManifestIdentity
  planIdentity := load.planIdentity
  requestEpoch := load.stageEpoch
  effectiveEpoch := load.requestedEffectiveEpoch
  state := .staged
  reason := .accepted
  receiptChecksum := 0

/-- Stage and commit a load and let three releases pass. -/
def sendLoad (load : UplinkCommandLoad) : List PackageCall :=
  [.stage load 0, .commit (commitOf load), .release none none none, .release none none none,
    .release none none none]

/-- The package of the reference configuration. -/
def referencePackage : KsaG10rReferenceOpsV1 :=
  (KsaG10rReferenceOpsV1.new ksaG10rReferenceFlightConfig).get (by decide +kernel)

theorem new_referenceFlightConfig :
    KsaG10rReferenceOpsV1.new ksaG10rReferenceFlightConfig = some referencePackage :=
  (Option.some_get _).symm

/-- A run that executes two loads and is offered the second one again. -/
theorem no_identity_executed_twice_of_two :
    (run RecordedPackage.step ⟨referencePackage, []⟩
      (.initializeMissionPlan ksaG10rReferenceMissionPlan ::
        (sendLoad (modeLoad 1 0) ++ sendLoad (modeLoad 2 3) ++ sendLoad (modeLoad 2 6)))).executed.Nodup :=
  no_identity_executed_twice new_referenceFlightConfig _ (by decide +kernel)

/-- Two loads one after the other, and then the first one again. -/
def replayCalls : List PackageCall :=
  .initializeMissionPlan ksaG10rReferenceMissionPlan ::
    (sendLoad (modeLoad 1 0) ++ sendLoad (modeLoad 2 3) ++ sendLoad (modeLoad 1 6))

/-- The manager remembers one identity only, so an older one is executed again. -/
theorem identity_executed_twice :
    ¬∀ (config : GlobalFlightConfig) (p : KsaG10rReferenceOpsV1) (calls : List PackageCall),
      KsaG10rReferenceOpsV1.new config = some p →
      (run RecordedPackage.step ⟨p, []⟩ calls).executed.Nodup := by
  intro h
  have hnodup := h ksaG10rReferenceFlightConfig referencePackage replayCalls
    new_referenceFlightConfig
  have hexecuted : (run RecordedPackage.step ⟨referencePackage, []⟩ replayCalls).executed
      = [1, 2, 1] := by decide +kernel
  rw [hexecuted] at hnodup
  exact absurd hnodup (by decide)

end Executed

end Ksa64.Flight
