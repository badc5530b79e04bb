import Ksa64.Flight.Package

/-!
# Changing the mission plan

A station is the package next to the receiver that plans are uploaded to.  A plan comes
from the receiver checked and within the limits of the manifest
(`activateMissionPlan_withinLimits`); `initialize_mission_plan` checks neither, and puts
the plan in place under a load that is already pending.  `PlansKept` is the condition on
the calls under which every load is executed under the plan it was validated against and
every active plan is within the limits.
-/

namespace Ksa64.Flight

open Ksa64.Library Ksa64.Interface

/-- The plan passes the checks of its codec and its counts are within the manifest's. -/
structure PlanWithinLimits (plan : MissionPlan) (manifest : FlightSoftwarePackageManifest) :
    Prop where
  valid : validatePlan plan = .ok ()
  events : plan.eventCount ≤ manifest.maximumPlanEvents
  branches : plan.branchCount ≤ manifest.maximumBranches
  decisions : plan.decisionCount ≤ manifest.maximumDecisions

instance (plan : MissionPlan) (manifest : FlightSoftwarePackageManifest) :
    Decidable (PlanWithinLimits plan manifest) :=
  decidable_of_iff
    (validatePlan plan = .ok () ∧ plan.eventCount ≤ manifest.maximumPlanEvents
      ∧ plan.branchCount ≤ manifest.maximumBranches
      ∧ plan.decisionCount ≤ manifest.maximumDecisions)
    ⟨fun ⟨hv, he, hb, hd⟩ ↦ ⟨hv, he, hb, hd⟩, fun ⟨hv, he, hb, hd⟩ ↦ ⟨hv, he, hb, hd⟩⟩

/-- A plan the receiver activates is within the limits. -/
theorem activateMissionPlan_withinLimits {r : BoundedObjectReceiver}
    {manifest : FlightSoftwarePackageManifest} {plan : MissionPlan}
    (h : r.activateMissionPlan manifest = .ok plan) : PlanWithinLimits plan manifest := by
  obtain ⟨-, -, -, hparse, hfit⟩ := activateMissionPlan_complete h
  simp only [BoundedObjectReceiver.planUnfit, Bool.or_eq_false_iff, decide_eq_false_iff_not,
    UInt8.not_lt] at hfit
  obtain ⟨⟨⟨-, hevents⟩, hbranches⟩, hdecisions⟩ := hfit
  exact {
    valid := validatePlan_of_parseKmp11 hparse
    events := hevents
    branches := hbranches
    decisions := hdecisions }

/-! ## The station -/

/-- The package and the receiver of its uploads. -/
structure PlanStation where
  package : KsaG10rReferenceOpsV1
  receiver : BoundedObjectReceiver

/-- A call of the package, or a segment for the receiver. -/
inductive StationCall where
  | package (call : PackageCall)
  | upload (segment : AcceptedSegment)

namespace PlanStation

def step (s : PlanStation) : StationCall → PlanStation
  | .package call => { s with package := s.package.step call }
  | .upload segment => { s with receiver := s.receiver.step segment }

/-- The load the call hands out for execution. -/
def handedOut (s : PlanStation) : StationCall → Option UplinkCommandLoad
  | .package call => s.package.handedOut call
  | .upload _ => none

/-- An initialisation that is accepted brings a plan within the limits and, while a load
is pending, the plan that is active already. -/
def PlansKept (s : PlanStation) : StationCall → Prop
  | .package (.initializeMissionPlan plan) =>
      planForeign plan ksaG10rReferenceOpsManifest = false →
        PlanWithinLimits plan ksaG10rReferenceOpsManifest
          ∧ (s.package.uplink.pending ≠ none → s.package.plan = some plan)
  | _ => True

instance (s : PlanStation) (call : StationCall) : Decidable (s.PlansKept call) :=
  match call with
  | .package (.initializeMissionPlan plan) => inferInstanceAs (Decidable
      (planForeign plan ksaG10rReferenceOpsManifest = false →
        PlanWithinLimits plan ksaG10rReferenceOpsManifest
          ∧ (s.package.uplink.pending ≠ none → s.package.plan = some plan)))
  | .package (.stage _ _) | .package (.commit _) | .package (.cancel _)
  | .package (.communications _) | .package (.release _ _ _) | .upload _ =>
      inferInstanceAs (Decidable True)

end PlanStation

section PlanChange

open PlanStation

/-- One of the calls staged the load while the plan was active, and its checks passed
against the plan. -/
def ValidatedAgainst (start : PlanStation) (calls : List StationCall) (plan : MissionPlan)
    (load : UplinkCommandLoad) : Prop :=
  ∃ before mask after, calls = before ++ .package (.stage load mask) :: after
    ∧ (run step start before).package.plan = some plan
    ∧ validateStage load (run step start before).package.epoch mask
        (run step start before).package.inner.navigation ksaG10rReferenceOpsManifest plan
      = .accepted

/-- The active plan is within the limits, and a pending load was validated against it. -/
def PlanHistory (start : PlanStation) (calls : List StationCall) (s : PlanStation) : Prop :=
  s = run step start calls
    ∧ (∀ plan, s.package.plan = some plan → PlanWithinLimits plan ksaG10rReferenceOpsManifest)
    ∧ ∀ held, s.package.uplink.pending = some held →
        ∃ plan, s.package.plan = some plan ∧ ValidatedAgainst start calls plan held.load

variable {start s : PlanStation} {calls : List StationCall} {call : StationCall}

theorem ValidatedAgainst.concat {plan : MissionPlan} {load : UplinkCommandLoad}
    (h : ValidatedAgainst start calls plan load) (call : StationCall) :
    ValidatedAgainst start (calls ++ [call]) plan load := by
  obtain ⟨before, mask, after, rfl, hplan, haccepted⟩ := h
  exact ⟨before, mask, after ++ [call], by simp, hplan, haccepted⟩

/-- A call of the package that leaves the plan in place: a load pending afterwards was
pending before, or the call has just validated it against the plan. -/
theorem validated_step (p : KsaG10rReferenceOpsV1) (call : PackageCall) {held : PendingUplink}
    (hheld : (p.step call).uplink.pending = some held) :
    (∃ prior, p.uplink.pending = some prior ∧ prior.load = held.load)
      ∨ ∃ mask plan, call = .stage held.load mask ∧ p.plan = some plan
        ∧ validateStage held.load p.epoch mask p.inner.navigation ksaG10rReferenceOpsManifest plan
          = .accepted := by
  rw [uplink_step] at hheld
  cases hcall : p.uplinkCall call with
  | none =>
      rw [hcall] at hheld
      exact .inl ⟨held, hheld, rfl⟩
  | some uplinkCall =>
      rw [hcall] at hheld
      rcases pending_step hheld with hprior | hstaged
      · exact .inl hprior
      · obtain ⟨epoch, mask, navigation, manifest, plan, rfl, -, -, haccepted⟩ := hstaged
        obtain ⟨hstage, hplan, rfl, rfl, rfl⟩ := uplinkCall_eq_stage hcall
        exact .inr ⟨mask, plan, hstage, hplan, haccepted⟩

/-- Calls that keep the plans extend the history. -/
theorem PlanHistory.concat (h : PlanHistory start calls s) (hkept : s.PlansKept call) :
    PlanHistory start (calls ++ [call]) (s.step call) := by
  obtain ⟨rfl, hlimits, hpending⟩ := h
  refine ⟨(run_concat step start calls call).symm, ?_⟩
  generalize hs : run step start calls = s at *
  cases call with
  | upload segment =>
      refine ⟨hlimits, fun held hheld ↦ ?_⟩
      obtain ⟨plan, hplan, hvalidated⟩ := hpending held hheld
      exact ⟨plan, hplan, hvalidated.concat _⟩
  | package call =>
      have hextend : ∀ held, (s.package.step call).uplink.pending = some held →
          ∃ plan, s.package.plan = some plan
            ∧ ValidatedAgainst start (calls ++ [.package call]) plan held.load := by
        intro held hheld
        rcases validated_step s.package call hheld with ⟨prior, hprior, hload⟩ | hstaged
        · obtain ⟨plan, hplan, hvalidated⟩ := hpending prior hprior
          exact ⟨plan, hplan, hload ▸ hvalidated.concat _⟩
        · obtain ⟨mask, plan, rfl, hplan, haccepted⟩ := hstaged
          exact ⟨plan, hplan, calls, mask, [], rfl, hs ▸ hplan, hs ▸ haccepted⟩
      rcases plan_step s.package call with hsame | ⟨plan, rfl, hfit, hplan⟩
      · change (∀ plan, (s.package.step call).plan = some plan → _) ∧
          ∀ held, (s.package.step call).uplink.pending = some held →
            ∃ plan, (s.package.step call).plan = some plan ∧ _
        rw [hsame]
        exact ⟨hlimits, hextend⟩
      · obtain ⟨hwithin, hactive⟩ := hkept hfit
        constructor
        · intro active hnow
          obtain rfl := Option.some.inj (hplan.symm.trans hnow)
          exact hwithin
        · intro held hheld
          obtain ⟨before, hbefore, hvalidated⟩ := hextend held hheld
          have hpend : s.package.uplink.pending = some held :=
            (congrArg AtomicUplinkManager.pending
              (step_initializeMissionPlan_uplink s.package plan)).symm.trans hheld
          have hkeep := hactive fun hnone ↦ Option.some_ne_none held (hpend.symm.trans hnone)
          obtain rfl := Option.some.inj (hbefore.symm.trans hkeep)
          exact ⟨before, hplan, hvalidated⟩

/-- What is promised of the state after the calls. -/
structure PlanSound (start : PlanStation) (calls : List StationCall) : Prop where
  /-- A load about to be executed was validated against the active plan. -/
  executed : ∀ call load, (run step start calls).handedOut call = some load →
    ∃ plan, (run step start calls).package.plan = some plan
      ∧ ValidatedAgainst start calls plan load
  /-- The active plan is within the limits. -/
  active : ∀ plan, (run step start calls).package.plan = some plan →
    PlanWithinLimits plan ksaG10rReferenceOpsManifest
  /-- So is the plan that would be activated. -/
  activated : ∀ manifest plan,
    (run step start calls).receiver.activateMissionPlan manifest = .ok plan →
    PlanWithinLimits plan manifest

/-- A load handed out by the package was the pending one. -/
theorem pending_of_station_handedOut {load : UplinkCommandLoad} (hout : s.handedOut call = some load) :
    ∃ held, s.package.uplink.pending = some held ∧ held.load = load := by
  cases call with
  | upload segment => cases hout
  | package call =>
      obtain ⟨uplinkCall, -, hout⟩ := Option.bind_eq_some_iff.mp hout
      exact pending_of_handedOut hout

/-- The history of a run says everything that is promised of its last state. -/
theorem PlanHistory.sound (h : PlanHistory start calls (run step start calls)) :
    PlanSound start calls where
  executed := by
    intro call load hout
    obtain ⟨held, hheld, rfl⟩ := pending_of_station_handedOut hout
    exact h.2.2 held hheld
  active := h.2.1
  activated := fun _ _ ↦ activateMissionPlan_withinLimits

/-- In a run that keeps the plans, the promise holds in every state. -/
theorem plans_sound_of_plansKept {config : GlobalFlightConfig} {p : KsaG10rReferenceOpsV1}
    (hnew : KsaG10rReferenceOpsV1.new config = some p) (calls : List StationCall)
    (hkept : Meets step PlansKept ⟨p, .new⟩ calls) :
    ∀ before after, calls = before ++ after → PlanSound ⟨p, .new⟩ before := by
  rintro before after rfl
  obtain ⟨huplink, hplan⟩ := new_uplink hnew
  refine PlanHistory.sound (history_invariant_of_meets (PlanHistory ⟨p, .new⟩)
    (fun _ _ _ ↦ PlanHistory.concat) ⟨rfl, fun plan hnow ↦ ?_, fun held hheld ↦ ?_⟩
    (meets_append.mp hkept).1)
  · exact (Option.some_ne_none plan (hnow.symm.trans hplan)).elim
  · have hnone : p.uplink.pending = none := by rw [huplink]; rfl
    exact (Option.some_ne_none held (hheld.symm.trans hnone)).elim

/-- A plan that no codec would accept: it counts more events than its table holds. -/
def overfullPlan : MissionPlan :=
  { ksaG10rReferenceMissionPlan with planIdentity := 0x11a00002, eventCount := 200 }

/-- Stage and commit a load, and replace the plan before it is executed. -/
def replacePlanCalls : List StationCall :=
  [.package (.initializeMissionPlan ksaG10rReferenceMissionPlan),
    .package (.stage (modeLoad 1 0) 0), .package (.commit (commitOf (modeLoad 1 0))),
    .package (.initializeMissionPlan overfullPlan),
    .package (.release none none none), .package (.release none none none)]

/-- A run that keeps the plan: it is initialised again with the same one. -/
theorem plans_sound_of_same_plan :
    PlanSound ⟨referencePackage, .new⟩
      [.package (.initializeMissionPlan ksaG10rReferenceMissionPlan),
        .package (.stage (modeLoad 1 0) 0), .package (.commit (commitOf (modeLoad 1 0))),
        .package (.initializeMissionPlan ksaG10rReferenceMissionPlan),
        .package (.release none none none)] :=
  plans_sound_of_plansKept new_referenceFlightConfig _ (by decide +kernel) _ []
    (List.append_nil _).symm

/-- After the replacement the next release executes a load that was validated against
another plan, and the active plan is outside the limits. -/
theorem plan_replaced_under_pending_load :
    ¬(∀ (config : GlobalFlightConfig) (p : KsaG10rReferenceOpsV1) (calls : List StationCall),
      KsaG10rReferenceOpsV1.new config = some p →
      ∀ call load, (run step ⟨p, .new⟩ calls).handedOut call = some load →
        ∃ plan, (run step ⟨p, .new⟩ calls).package.plan = some plan
          ∧ ValidatedAgainst ⟨p, .new⟩ calls plan load)
    ∧ ¬(∀ (config : GlobalFlightConfig) (p : KsaG10rReferenceOpsV1) (calls : List StationCall),
      KsaG10rReferenceOpsV1.new config = some p →
      ∀ plan, (run step ⟨p, .new⟩ calls).package.plan = some plan →
        PlanWithinLimits plan ksaG10rReferenceOpsManifest) := by
  have hplan : (run step ⟨referencePackage, .new⟩ replacePlanCalls).package.plan
      = some overfullPlan := by decide +kernel
  constructor
  · intro h
    obtain ⟨plan, hactive, _, _, _, _, _, haccepted⟩ :=
      h _ _ replacePlanCalls new_referenceFlightConfig (.package (.release none none none))
        (modeLoad 1 0) (by decide +kernel)
    obtain rfl := Option.some.inj (hplan.symm.trans hactive)
    -- the load names another plan, whatever else it is checked against
    have hidentity : (modeLoad 1 0).planIdentity ≠ overfullPlan.planIdentity := by decide +kernel
    unfold validateStage at haccepted
    rw [if_pos (.inr (.inl hidentity))] at haccepted
    cases haccepted
  · intro h
    have hwithin := h _ _ replacePlanCalls new_referenceFlightConfig overfullPlan hplan
    exact absurd hwithin.valid (by decide +kernel)

end PlanChange

end Ksa64.Flight
