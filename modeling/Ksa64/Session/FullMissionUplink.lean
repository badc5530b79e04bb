import Ksa64.Session.FullMissionRuns
import Ksa64.Session.LiveUplink

/-!
# Commands in the full mission

The session holds three traces of a command: its copy of the staged load, the branch that a
committed load selects, and the release at which a committed update will reset the
navigation.  The uplink manager of the package decides what is executed.  This file says on
which runs the traces follow the manager.
-/

namespace Ksa64.Session

open Ksa64.Library Ksa64.Interface Ksa64.Sim Ksa64.Flight FullMissionSession

/-! ## The uplink machine of the session -/

section Machine

variable {s : FullMissionSession} {r : GlobalPackageAvionicsMission}

/-- The call of the uplink manager that an action asks for. -/
def uplinkCallOf (r : GlobalPackageAvionicsMission) : MissionOperatorAction → UplinkCall
  | .stage load mask =>
      .stage load r.package.epoch mask r.package.inner.navigation ksaG10rReferenceOpsManifest
        fullGnssLossMissionPlan
  | .commit request => .commit request r.package.epoch
  | .cancel request => .cancel request r.package.epoch

/-- A submission is a call of the uplink machine. -/
theorem view_submitted (hplan : r.package.plan = some fullGnssLossMissionPlan)
    (action : MissionOperatorAction) :
    (r.package.step (packageCallOf action)).uplink.view =
      r.package.uplink.view.next (uplinkCallOf r action) := by
  have hcall : r.package.uplinkCall (packageCallOf action) = some (uplinkCallOf r action) := by
    cases action <;>
      exact (congrArg (Option.map _) hplan).trans (Option.map_some ..)
  rw [uplink_step, hcall]
  exact view_step ..

/-- A release of the package is one of the uplink machine, at the epoch of the package. -/
theorem view_released (hplan : r.package.plan = some fullGnssLossMissionPlan)
    (cells : ReleaseCells) :
    (r.package.step (releaseOf cells)).uplink.view =
        r.package.uplink.view.next (.release r.package.epoch)
      ∧ (r.package.step (releaseOf cells)).epoch = addSat32 r.package.epoch 1 := by
  rw [releaseOf, step_release]
  obtain ⟨huplink, -, hepoch⟩ :=
    processRelease_uplink r.package cells.fast (some cells.aid) cells.transition
  rw [huplink, hplan, Option.elim_some]
  exact ⟨view_step .., hepoch⟩

/-- The load that the package hands out at a release. -/
theorem handedOut_released (hplan : r.package.plan = some fullGnssLossMissionPlan)
    (cells : ReleaseCells) :
    r.package.handedOut (releaseOf cells) =
      r.package.uplink.view.handedOut (.release r.package.epoch) := by
  have hcall : r.package.uplinkCall (releaseOf cells) = some (.release r.package.epoch) :=
    (congrArg (Option.map _) hplan).trans (Option.map_some ..)
  rw [KsaG10rReferenceOpsV1.handedOut, hcall, Option.bind_some]
  exact handedOut_view ..

/-- A commit that is not confirmed for the pending load does nothing. -/
theorem next_commit_of_unconfirmed {load : UplinkCommandLoad} {request : UplinkControlRecord}
    (hpending : r.package.uplink.pending = some (.stage load))
    (hconfirms : confirms (r.package.uplink.commit request r.package.epoch).1 .commitReceipt
      load.loadIdentity .committed = false) :
    r.package.uplink.view.next (.commit request r.package.epoch) = r.package.uplink.view := by
  rw [next_commit_eq_self]
  intro hadm
  have hconfirmed := commitConfirmed_of_admitted hadm
  exact Bool.false_ne_true (hconfirms.symm.trans
    ((confirms_commit _ hpending request _ _).mpr ⟨rfl, hconfirmed⟩))

/-- A cancellation that is not confirmed does nothing. -/
theorem next_cancel_of_unconfirmed {request : UplinkControlRecord}
    (hconfirms : confirms (r.package.uplink.cancel request r.package.epoch).1 .cancellation
      request.loadIdentity .cancelled = false) :
    r.package.uplink.view.next (.cancel request r.package.epoch) = r.package.uplink.view := by
  rw [next_cancel_eq_self]
  rintro ⟨pending, hpending, haddr⟩
  exact Bool.false_ne_true (hconfirms.symm.trans
    ((confirms_cancel _ hpending request _).mpr haddr))

/-- A confirmed cancellation leaves nothing pending. -/
theorem next_cancel_of_confirmed {request : UplinkControlRecord}
    (hconfirms : confirms (r.package.uplink.cancel request r.package.epoch).1 .cancellation
      request.loadIdentity .cancelled = true) :
    (r.package.uplink.view.next (.cancel request r.package.epoch)).pending = none := by
  cases hpending : r.package.uplink.pending with
  | none =>
      have hsame := (next_cancel_eq_self r.package.uplink.view request r.package.epoch).mpr <| by
        rintro ⟨pending, hmem, -⟩
        exact Option.some_ne_none pending (hmem.symm.trans hpending)
      rw [hsame]
      exact hpending
  | some pending =>
      have haddr := (confirms_cancel _ hpending request _).mp hconfirms
      simp only [UplinkView.next, view_pending, hpending, haddr, if_true]

end Machine

/-! ## The copy of the staged load -/

/-- A release that drops an expired copy keeps it with the manager. -/
theorem agree_expire {copy : Option UplinkCommandLoad} {v : UplinkView}
    (h : GnssLossRuntime.Agree copy v) (epoch : UInt32) :
    GnssLossRuntime.Agree (copy.filter fun load ↦ epoch ≤ load.expiresEpoch)
      (v.next (.release epoch)) := by
  have hcopy : copy = none ∨ ∃ load, copy = some load ∧ v.pending = some (.stage load) := by
    cases copy with
    | none => exact .inl rfl
    | some load => exact .inr ⟨load, rfl, (h load).mp rfl⟩
  rcases hcopy with rfl | ⟨load, rfl, hpending⟩
  · refine (GnssLossRuntime.agree_release h epoch).mpr fun pending hpending hstaged ↦ ?_
    have hstage : v.pending = some (.stage pending.load) :=
      hpending.trans (congrArg some ((eq_stage_iff ..).mpr ⟨rfl, hstaged⟩))
    cases (h pending.load).mpr hstage
  · by_cases hexpired : load.expiresEpoch < epoch
    · have hnext : v.next (.release epoch) = { v with pending := none } := by
        simp only [UplinkView.next, hpending, stage_load, hexpired, if_true]
      rw [hnext, Option.filter_some, if_neg (by simpa using hexpired)]
      exact fun load ↦ ⟨by rintro ⟨⟩, by rintro ⟨⟩⟩
    · rw [Option.filter_some, if_pos (by simpa using hexpired)]
      refine (GnssLossRuntime.agree_release h epoch).mpr fun pending hmem _ ↦ ?_
      obtain rfl := Option.some.inj (hpending.symm.trans hmem)
      exact UInt32.not_lt.mp hexpired

section Copy

variable {s : FullMissionSession} {r : GlobalPackageAvionicsMission}
  {action : MissionOperatorAction} {d : MissionDesk}

/-- An announcement concerns the selected branch and the announced reset only. -/
theorem announce_desk_frame (d : MissionDesk) (load : UplinkCommandLoad) :
    (d.announce load).role = d.role ∧ (d.announce load).runner = d.runner
      ∧ (d.announce load).stagedLoad = d.stagedLoad
      ∧ (d.announce load).releaseEpoch = d.releaseEpoch
      ∧ (d.announce load).globalDisplay = d.globalDisplay
      ∧ (d.announce load).completed = d.completed := by
  unfold MissionDesk.announce
  cases load.loadType <;> exact ⟨rfl, rfl, rfl, rfl, rfl, rfl⟩

/-- A submission counts no release. -/
theorem SubmitMove.releaseEpoch_eq (h : SubmitMove s r action d) :
    d.releaseEpoch = s.releaseEpoch := by
  cases h with
  | committed => exact (announce_desk_frame s.desk _).2.2.2.1
  | _ => rfl

/-- Nor does it change the role. -/
theorem SubmitMove.role_eq (h : SubmitMove s r action d) : d.role = s.role := by
  cases h with
  | @committed load _ _ _ _ =>
      show (s.desk.announce load).role = s.role
      unfold MissionDesk.announce
      cases load.loadType <;> rfl
  | _ => rfl

/-- A submission keeps the copy with the manager. -/
theorem SubmitMove.agree (h : SubmitMove s r action d)
    (hagree : GnssLossRuntime.Agree s.stagedLoad r.package.uplink.view) :
    GnssLossRuntime.Agree d.stagedLoad (r.package.uplink.view.next (uplinkCallOf r action)) := by
  cases h with
  | @staged load mask hbound hconfirmed =>
      have hnext := GnssLossRuntime.agree_stage hagree load r.package.epoch mask
        r.package.inner.navigation ksaG10rReferenceOpsManifest fullGnssLossMissionPlan
      unfold stageReason at hconfirmed
      rw [if_pos hconfirmed] at hnext
      exact hnext
  | @unstaged load mask hconfirmed =>
      have hnext := GnssLossRuntime.agree_stage hagree load r.package.epoch mask
        r.package.inner.navigation ksaG10rReferenceOpsManifest fullGnssLossMissionPlan
      unfold stageReason at hconfirmed
      rw [if_neg hconfirmed] at hnext
      exact hnext
  | committed hstaged haccepts hconfirms =>
      have hpending := (hagree _).mp hstaged
      obtain ⟨-, hconfirmed⟩ := (confirms_commit _ hpending _ _ _).mp hconfirms
      obtain ⟨_, hnext⟩ := next_commit_of_admitted hpending
        (commitAdmitted_of_confirmed hpending hconfirmed)
      rw [uplinkCallOf, hnext]
      refine fun load ↦ ⟨nofun, fun hstill ↦ ?_⟩
      exact absurd (Option.some.inj hstill) (GnssLossRuntime.commit_ne_stage _ load)
  | uncommitted hstaged haccepts hconfirms =>
      rw [uplinkCallOf, next_commit_of_unconfirmed ((hagree _).mp hstaged) hconfirms]
      exact hagree
  | cancelled hconfirms =>
      have hnone := next_cancel_of_confirmed hconfirms
      exact fun load ↦ ⟨nofun, fun hsome ↦ nomatch hnone.symm.trans hsome⟩
  | uncancelled hconfirms =>
      rw [uplinkCallOf, next_cancel_of_unconfirmed hconfirms]
      exact hagree

/-- The session counts the releases of the package, and its copy is what the package holds
staged. -/
structure InStep (d : MissionDesk) : Prop where
  fresh : d.runner = none → d.stagedLoad = none ∧ d.releaseEpoch = 0
  epoch : ∀ r, d.runner = some r → r.package.epoch = d.releaseEpoch
  agree : ∀ r, d.runner = some r →
    GnssLossRuntime.Agree d.stagedLoad r.package.uplink.view

/-- A call that does not lose a release keeps the session in step with the package. -/
theorem InStep.step (hplanned : Planned s) (h : InStep s.desk) {call : FullMissionCall}
    (hkept : s.losesRelease call = false) : InStep (s.step call).desk := by
  cases (mission_move hplanned call).1 with
  | kept _ _ hdesk => exact hdesk ▸ h
  | prepared hlifecycle hnew hdesk =>
      obtain ⟨-, huplink, hepoch⟩ := newRunner_spec hnew
      obtain ⟨hcopy, hreleases⟩ := h.fresh (hplanned.guided.unprepared hlifecycle)
      rw [hdesk]
      refine ⟨nofun, ?_, ?_⟩
      · rintro _ ⟨⟩
        exact hepoch.trans hreleases.symm
      · rintro _ ⟨⟩
        rw [huplink, hcopy]
        exact fun load ↦ ⟨nofun, nofun⟩
  | @advanced _ answer hanswer hmove =>
      have hlost : s.losesAdvance answer = false := by
        rwa [losesRelease, hanswer, Option.any_some] at hkept
      cases hmove with
      | kept _ hdesk => exact hdesk ▸ h
      | lost _ _ _ hloses _ => exact nomatch hloses.symm.trans hlost
      | counted _ hrunner hpackage _ hdesk _ =>
          obtain ⟨hview, hepoch⟩ := view_released (hplanned.plan _ hrunner) _
          rw [hdesk]
          refine ⟨nofun, ?_, ?_⟩
          · rintro _ ⟨⟩
            rw [hpackage, hepoch, h.epoch _ hrunner]
            rfl
          · rintro _ ⟨⟩
            rw [hpackage, hview, h.epoch _ hrunner]
            exact agree_expire (h.agree _ hrunner) s.releaseEpoch
  | submitted hresult =>
      cases hresult with
      | failed _ hsame =>
          have hstep : s.step (.submit _) = s := hsame
          exact hstep.symm ▸ h
      | answered _ _ hrunner hmove hdesk _ =>
          have hstep : (s.step (.submit _)).desk = _ := hdesk
          rw [hstep]
          refine ⟨nofun, ?_, ?_⟩
          · rintro _ ⟨⟩
            exact (packageCallOf_frame _ _).2.trans
              ((h.epoch _ hrunner).trans hmove.releaseEpoch_eq.symm)
          · rintro _ ⟨⟩
            rw [view_submitted (hplanned.plan _ hrunner)]
            exact hmove.agree (h.agree _ hrunner)

end Copy

/-! ## Failing submissions and the copy -/

namespace FullMissionSession

/-- The call is an advance that returns an error. -/
def AdvanceFails (s : FullMissionSession) : FullMissionCall → Prop
  | .advanceOneRelease answer => (s.advanceOneRelease answer).Failed
  | .stepOneRelease answer => (s.stepOneRelease answer).Failed
  | .advanceRound singleStep answer => (s.advanceInternal singleStep answer).Failed
  | _ => False

/-- The package holds the load as its pending one, in the given state. -/
def Holds (s : FullMissionSession) (load : UplinkCommandLoad) (state : UplinkState) : Prop :=
  ∃ r ∈ s.runner, ∃ p ∈ r.package.uplink.pending, p.load = load ∧ p.state = state

/-- The copy of the staged load is the load that the package holds staged. -/
def CopyFollows (s : FullMissionSession) : Prop :=
  ∀ load, s.stagedLoad = some load ↔ s.Holds load .staged

/-- A submission that returns an error changes nothing, and after the call the copy follows
the package, unless the call is an advance that fails. -/
structure CommandSound (s : FullMissionSession) (call : FullMissionCall) : Prop where
  atomic : ∀ action, call = .submit action → (s.submitOperatorAction action).Failed →
    (s.submitOperatorAction action).2 = s
  copy : ¬s.AdvanceFails call → (s.step call).CopyFollows

end FullMissionSession

section Sound

variable {s : FullMissionSession}

theorem copyFollows_of_inStep (h : InStep s.desk) : s.CopyFollows := by
  intro load
  cases hrunner : s.runner with
  | none =>
      have hnone : s.stagedLoad = none := (h.fresh hrunner).1
      rw [hnone]
      exact ⟨nofun, fun ⟨r, hr, _⟩ ↦ nomatch hrunner.symm.trans hr⟩
  | some r =>
      refine (h.agree r hrunner load).trans ?_
      unfold FullMissionSession.Holds
      simp only [hrunner, view_pending, Option.mem_def, Option.some.injEq, exists_eq_left',
        ← eq_stage_iff]
      exact ⟨fun hpending ↦ ⟨_, hpending, rfl⟩, fun ⟨_, hpending, hp⟩ ↦ hp ▸ hpending⟩

/-- A compiled session is in step with the package that it does not have. -/
theorem inStep_of_compiled {project : CompiledMissionProject} {role : OperationalRole}
    (hcompiled : compiledWithRole project role = .ok s) : InStep s.desk := by
  unfold compiledWithRole at hcompiled
  split at hcompiled
  · cases hcompiled
  · cases hcompiled
    exact ⟨fun _ ↦ ⟨rfl, rfl⟩, fun _ hr ↦ (nomatch hr), fun _ hr ↦ (nomatch hr)⟩

/-- The project of the full mission. -/
def fullGnssLossProject (role : OperationalRole) : CompiledMissionProject where
  definitionIdentity := 1
  scenario := .gnssLossFull
  package := .referenceOps
  role := role

/-- Its compiled session. -/
def fullGnssLossSession (role : OperationalRole) : FullMissionSession where
  project := fullGnssLossProject role
  role := role
  lifecycle := .compiled
  pace := .realtime
  resumePace := .realtime
  runner := none
  procedure := none
  groundEstimator := .new
  pendingObservations := []
  estimates := []
  latestGround := none
  latestFlight := none
  transcript := .new
  stagedLoad := none
  rejectedLoads := 0
  selectedBranch := 0
  events := [⟨1, 0, .compiled, 1⟩]
  timeline := []
  releaseEpoch := 0
  gnssMissingFixes := 0
  lastTransitionCount := 0
  completed := none
  globalDisplay := .new
  pendingNavigationResetRelease := none

theorem compiled_fullGnssLossProject (role : OperationalRole) :
    compiledWithRole (fullGnssLossProject role) role = .ok (fullGnssLossSession role) := rfl

/-! A vehicle on the pad, with no sensor but the clock. -/

def padWorld : InitialWorld where
  position := .replicate 3 0
  velocity := .replicate 3 0
  attitude := identityQuaternion
  finalAttitude := identityQuaternion
  mainDeploymentAltitudeQ12Km := 4096

/-- The cells of a release, with the true velocity. -/
def blindCells (velocity : Vec3) : ReleaseCells where
  fast := none
  aid := {
    session := fullMissionSession
    measurementEpoch := 0
    productionEpoch := 0
    frame := .localEnuV1
    validity := 0
    missionTimeQ16 := 0
    barometerQ12Km := 0
    gnssPositionQ12Km := .replicate 3 0
    gnssVelocityQ24KmS := .replicate 3 0
    attitudeQ30 := identityQuaternion
    frameRotationQ30 := identityQuaternion
    frameOmegaQ24 := .replicate 3 0
    events := 0
    continuity := 0
    deploymentFeedback := 0 }
  transition := none
  activePosition := .replicate 3 0
  activeVelocity := velocity

def padAnswer (velocity : Vec3) : WorldAnswer where
  cells := .ok (blindCells velocity)
  update := .ok ()
  snapshot := {
    frame := .localEnuV1
    segment := .localLaunch
    position := .replicate 3 0
    velocity := velocity
    events := 0
    transitionCount := 0 }
  lineages := .replicate 4 none
  complete := false
  completion := .error .lifecycle
  advanced := .ok ()

/-- A release of the vehicle at rest. -/
def restCall : FullMissionCall := .advanceRound false (padAnswer (.replicate 3 0))

/-- A release at a velocity whose norm is not an `i32`. -/
def bolting : FullMissionCall := .advanceRound false (padAnswer (.replicate 3 2147483647))

/-- A mode command that expires with release 2. -/
def waitingLoad : UplinkCommandLoad :=
  { genericLoad 0 2 0x12b05001 .highLevelMode packageCapHighLevelMode .localEnuV1
      (.replicate 4 1) with
    planIdentity := fullGnssLossMissionPlan.planIdentity
    expiresEpoch := 2 }

/-- Stage it, and let three releases pass. -/
def waitingCalls : List FullMissionCall :=
  [.prepare (.ok padWorld), .submit (.stage waitingLoad 0), restCall, restCall, restCall]

end Sound

/-! ## What is executed -/

section Executed

variable {s : FullMissionSession} {r : GlobalPackageAvionicsMission}
  {action : MissionOperatorAction} {d : MissionDesk}

/-- What the copy says of the load that the package holds: it is the load while the load is
staged, and nothing from the commit on. -/
def copyOf (p : PendingUplink) : Option UplinkCommandLoad :=
  if p.state = .staged then some p.load else none

/-- What holds between the session and its package in every run: the package is not behind,
and of a pending load the copy knows whether it is staged. -/
structure Copied (d : MissionDesk) : Prop where
  fresh : d.runner = none → d.stagedLoad = none ∧ d.releaseEpoch = 0
  ahead : ∀ r, d.runner = some r → d.releaseEpoch ≤ r.package.epoch
  copied : ∀ r p, d.runner = some r → r.package.uplink.pending = some p →
    d.stagedLoad = copyOf p

/-- The load of a copy is the one that the package holds staged, if it holds any. -/
theorem pending_of_copied {p : PendingUplink} {load : UplinkCommandLoad}
    (hcopy : s.stagedLoad = copyOf p) (hstaged : s.stagedLoad = some load) : p = .stage load := by
  unfold copyOf at hcopy
  split at hcopy
  · rename_i hstate
    exact (eq_stage_iff ..).mpr ⟨Option.some.inj (hcopy.symm.trans hstaged), hstate⟩
  · exact nomatch hcopy.symm.trans hstaged

/-- What a submission does to the pending load: it stays, or it is staged or committed by
the action. -/
inductive PendingMove (s : FullMissionSession) (r : GlobalPackageAvionicsMission)
    (action : MissionOperatorAction) (p : PendingUplink) : Prop where
  | kept (hprior : r.package.uplink.pending = some p)
  | staged {load : UplinkCommandLoad} {mask : UInt32} (haction : action = .stage load mask)
      (hbound : s.loadBound load = true) (hp : p = .stage load)
  | committed {load : UplinkCommandLoad} {request : UplinkControlRecord}
      (haction : action = .commit request) (hstaged : s.stagedLoad = some load)
      (haccepts : s.procedureAccepts load.loadType = true)
      (hprior : r.package.uplink.pending = some (.stage load)) (hload : p.load = load)
      (hstate : p.state = .committed)

/-- After a submission the pending load has come about by one of the moves, and the copy
knows it. -/
theorem SubmitMove.pending_move (h : SubmitMove s r action d)
    (hcopied : ∀ p, r.package.uplink.pending = some p → s.stagedLoad = copyOf p)
    {p : PendingUplink}
    (hp : (r.package.uplink.view.next (uplinkCallOf r action)).pending = some p) :
    PendingMove s r action p ∧ d.stagedLoad = copyOf p := by
  have hkept : r.package.uplink.view.next (uplinkCallOf r action) = r.package.uplink.view →
      PendingMove s r action p ∧ s.stagedLoad = copyOf p := by
    intro hsame
    have hprior : r.package.uplink.pending = some p := by
      rw [hsame] at hp
      exact hp
    exact ⟨.kept hprior, hcopied p hprior⟩
  cases h with
  | @staged load mask hbound hconfirmed =>
      rcases hconfirmed with hadm | ⟨-, hprior⟩
      · have hstage : p = .stage load := by
          have hnext : r.package.uplink.view.next (uplinkCallOf r (.stage load mask)) =
              { r.package.uplink.view with pending := some (.stage load) } := if_pos hadm
          rw [hnext] at hp
          exact (Option.some.inj hp).symm
        exact ⟨.staged rfl hbound hstage, hstage ▸ rfl⟩
      · obtain ⟨hmove, -⟩ := hkept (if_neg fun hadm ↦ nomatch hadm.2.1.symm.trans hprior)
        refine ⟨hmove, ?_⟩
        have hsame : r.package.uplink.view.next (uplinkCallOf r (.stage load mask)) =
            r.package.uplink.view := if_neg fun hadm ↦ nomatch hadm.2.1.symm.trans hprior
        rw [hsame] at hp
        obtain rfl := Option.some.inj (hprior.symm.trans hp)
        rfl
  | @unstaged load mask hconfirmed =>
      exact hkept (if_neg fun hadm ↦ hconfirmed (.inl hadm))
  | @committed load request hstaged haccepts hconfirms =>
      cases hprior : r.package.uplink.pending with
      | none =>
          have hsame : r.package.uplink.view.next (uplinkCallOf r (.commit request)) =
              r.package.uplink.view := by
            refine (next_commit_eq_self ..).mpr fun ⟨pending, hpending, _⟩ ↦ ?_
            exact Option.some_ne_none pending (hpending.symm.trans hprior)
          rw [hsame] at hp
          exact nomatch hprior.symm.trans hp
      | some prior =>
          obtain rfl := pending_of_copied (hcopied prior hprior) hstaged
          obtain ⟨-, hconfirmed⟩ := (confirms_commit _ hprior _ _ _).mp hconfirms
          obtain ⟨_, hnext⟩ := @next_commit_of_admitted r.package.uplink.view _ _ _ hprior
            (commitAdmitted_of_confirmed hprior hconfirmed)
          rw [uplinkCallOf, hnext] at hp
          obtain rfl := Option.some.inj hp
          exact ⟨.committed rfl hstaged haccepts hprior rfl rfl, rfl⟩
  | @uncommitted load request hstaged haccepts hconfirms =>
      refine hkept ?_
      cases hprior : r.package.uplink.pending with
      | none =>
          refine (next_commit_eq_self ..).mpr fun ⟨pending, hpending, _⟩ ↦ ?_
          exact Option.some_ne_none pending (hpending.symm.trans hprior)
      | some prior =>
          obtain rfl := pending_of_copied (hcopied prior hprior) hstaged
          exact next_commit_of_unconfirmed hprior hconfirms
  | cancelled hconfirms =>
      exact nomatch (next_cancel_of_confirmed hconfirms).symm.trans hp
  | uncancelled hconfirms => exact hkept (next_cancel_of_unconfirmed hconfirms)

/-- A release leaves a pending load as it was, if it leaves one. -/
theorem pending_released {v : UplinkView} {epoch : UInt32} {p : PendingUplink}
    (hp : (v.next (.release epoch)).pending = some p) :
    v.pending = some p ∧ epoch ≤ p.load.expiresEpoch := by
  obtain ⟨_ | prior, identity⟩ := v
  · exact nomatch hp
  · unfold UplinkView.next at hp
    dsimp only at hp
    split at hp
    · exact nomatch hp
    · rename_i hexpires
      split at hp
      · obtain rfl := Option.some.inj hp
        exact ⟨rfl, UInt32.not_lt.mp hexpires⟩
      · exact nomatch hp

/-- Every call keeps what holds between the session and its package. -/
theorem Copied.step (hplanned : Planned s) (h : Copied s.desk) (call : FullMissionCall) :
    Copied (s.step call).desk := by
  have hreleased : ∀ {r r' : GlobalPackageAvionicsMission} {cells : ReleaseCells},
      s.runner = some r → r'.package = r.package.step (releaseOf cells) →
      r'.package.epoch = addSat32 r.package.epoch 1 ∧ ∀ p, r'.package.uplink.pending = some p →
        s.stagedLoad = copyOf p ∧ r.package.epoch ≤ p.load.expiresEpoch := by
    intro r r' cells hrunner hpackage
    obtain ⟨hview, hepoch⟩ := view_released (hplanned.plan r hrunner) cells
    refine ⟨by rw [hpackage, hepoch], fun p hp ↦ ?_⟩
    rw [hpackage, ← view_pending, hview] at hp
    obtain ⟨hprior, hexpires⟩ := pending_released hp
    exact ⟨h.copied r p hrunner hprior, hexpires⟩
  cases (mission_move hplanned call).1 with
  | kept _ _ hdesk => exact hdesk ▸ h
  | prepared hlifecycle hnew hdesk =>
      obtain ⟨-, huplink, hepoch⟩ := newRunner_spec hnew
      obtain ⟨hcopy, hreleases⟩ := h.fresh (hplanned.guided.unprepared hlifecycle)
      rw [hdesk]
      refine ⟨nofun, ?_, ?_⟩
      · rintro _ ⟨⟩
        exact UInt32.le_of_eq (hreleases.trans hepoch.symm)
      · rintro _ p ⟨⟩ hp
        rw [huplink] at hp
        exact nomatch hp
  | advanced _ hmove =>
      cases hmove with
      | kept _ hdesk => exact hdesk ▸ h
      | lost _ hrunner hpackage _ hdesk =>
          obtain ⟨hepoch, hpending⟩ := hreleased hrunner hpackage
          rw [hdesk]
          refine ⟨nofun, ?_, ?_⟩
          · rintro _ ⟨⟩
            rw [hepoch]
            exact UInt32.le_trans (h.ahead _ hrunner) (le_addSat32 _ 1)
          · rintro _ p ⟨⟩ hp
            exact (hpending p hp).1
      | @counted _ _ _ completed _ hrunner hpackage _ hdesk _ =>
          obtain ⟨hepoch, hpending⟩ := hreleased hrunner hpackage
          have hahead := h.ahead _ hrunner
          rw [hdesk]
          refine ⟨nofun, ?_, ?_⟩
          · rintro _ ⟨⟩
            rw [hepoch]
            exact addSat32_mono hahead 1
          · rintro _ p ⟨⟩ hp
            obtain ⟨hcopy, hexpires⟩ := hpending p hp
            -- what the package still holds has not expired for the session either
            have hin := UInt32.le_trans hahead hexpires
            show s.stagedLoad.filter (fun load ↦ decide (s.releaseEpoch ≤ load.expiresEpoch)) = _
            rw [hcopy]
            unfold copyOf
            split
            · exact (Option.filter_some ..).trans (if_pos (decide_eq_true hin))
            · rfl
  | submitted hresult =>
      cases hresult with
      | failed _ hsame =>
          have hstep : s.step (.submit _) = s := hsame
          exact hstep.symm ▸ h
      | @answered _ d _ _ hrunner hmove hdesk _ =>
          have hstep : (s.step (.submit _)).desk = _ := hdesk
          rw [hstep]
          refine ⟨nofun, ?_, ?_⟩
          · rintro _ ⟨⟩
            rw [(packageCallOf_frame _ _).2, hmove.releaseEpoch_eq]
            exact h.ahead _ hrunner
          · rintro _ p ⟨⟩ hp
            rw [← view_pending, view_submitted (hplanned.plan _ hrunner)] at hp
            exact (hmove.pending_move (fun p ↦ h.copied _ p hrunner) hp).2

/-! ### Where an executed load comes from -/

/-- A call of the run staged the load, and the session's own checks passed it. -/
def StagedIn (s₀ : FullMissionSession) (calls : List FullMissionCall)
    (load : UplinkCommandLoad) : Prop :=
  ∃ before mask after, calls = before ++ .submit (.stage load mask) :: after
    ∧ (run step s₀ before).loadBound load = true
    ∧ (run step s₀ (before ++ [.submit (.stage load mask)])).Holds load .staged

/-- A call of the run committed the load after it was staged: by a role that may act, in a
step of the procedure that names its type. -/
def CommittedIn (s₀ : FullMissionSession) (calls : List FullMissionCall)
    (load : UplinkCommandLoad) : Prop :=
  ∃ before request after, calls = before ++ .submit (.commit request) :: after
    ∧ StagedIn s₀ before load ∧ roleCanAct (run step s₀ before).role = true
    ∧ (run step s₀ before).procedureAccepts load.loadType = true
    ∧ (run step s₀ before).Holds load .staged
    ∧ (run step s₀ (before ++ [.submit (.commit request)])).Holds load .committed

variable {s₀ : FullMissionSession} {calls : List FullMissionCall} {load : UplinkCommandLoad}

theorem StagedIn.append (h : StagedIn s₀ calls load) (more : List FullMissionCall) :
    StagedIn s₀ (calls ++ more) load := by
  obtain ⟨before, mask, after, rfl, hstaged⟩ := h
  exact ⟨before, mask, after ++ more, by simp, hstaged⟩

theorem CommittedIn.append (h : CommittedIn s₀ calls load) (more : List FullMissionCall) :
    CommittedIn s₀ (calls ++ more) load := by
  obtain ⟨before, request, after, rfl, hcommitted⟩ := h
  exact ⟨before, request, after ++ more, by simp, hcommitted⟩

/-- What a run has done to the load that its package holds. -/
structure HeldSince (s₀ : FullMissionSession) (calls : List FullMissionCall)
    (s : FullMissionSession) : Prop where
  reached : s = run step s₀ calls
  planned : Planned s
  copied : Copied s.desk
  staged : ∀ r p, s.runner = some r → r.package.uplink.pending = some p →
    StagedIn s₀ calls p.load
  committed : ∀ r p, s.runner = some r → r.package.uplink.pending = some p →
    p.state = .committed → CommittedIn s₀ calls p.load

/-- What the session holds after one call more. -/
theorem HeldSince.holds_concat (h : HeldSince s₀ calls s) {call : FullMissionCall}
    {p : PendingUplink} {state : UplinkState} (hr : (s.step call).runner = some r)
    (hp : r.package.uplink.pending = some p) (hload : p.load = load) (hstate : p.state = state) :
    (run FullMissionSession.step s₀ (calls ++ [call])).Holds load state := by
  rw [run_concat, ← h.reached]
  exact ⟨r, hr, p, hp, hload, hstate⟩

/-- One call more. -/
theorem HeldSince.step (h : HeldSince s₀ calls s) (call : FullMissionCall) :
    HeldSince s₀ (calls ++ [call]) (s.step call) := by
  have hnext : ∀ r, (s.step call).runner = some r →
      (∀ p, r.package.uplink.pending = some p → StagedIn s₀ (calls ++ [call]) p.load
        ∧ (p.state = .committed → CommittedIn s₀ (calls ++ [call]) p.load)) := by
    intro r' hr'
    have hkept : ∀ r p, s.runner = some r → r.package.uplink.pending = some p →
        StagedIn s₀ (calls ++ [call]) p.load
          ∧ (p.state = .committed → CommittedIn s₀ (calls ++ [call]) p.load) :=
      fun r p hr hp ↦ ⟨(h.staged r p hr hp).append [call],
        fun hstate ↦ (h.committed r p hr hp hstate).append [call]⟩
    have hreleased : ∀ {r r'' : GlobalPackageAvionicsMission} {cells : ReleaseCells},
        s.runner = some r → r''.package = r.package.step (releaseOf cells) →
        some r'' = some r' → ∀ p, r'.package.uplink.pending = some p →
        StagedIn s₀ (calls ++ [call]) p.load
          ∧ (p.state = .committed → CommittedIn s₀ (calls ++ [call]) p.load) := by
      rintro r _ cells hr hpackage ⟨⟩ p hp
      rw [hpackage, ← view_pending, (view_released (h.planned.plan r hr) cells).1] at hp
      exact hkept r p hr (pending_released hp).1
    cases (mission_move h.planned call).1 with
    | kept _ _ hdesk =>
        have hrunner := (congrArg MissionDesk.runner hdesk).symm.trans hr'
        exact fun p ↦ hkept r' p hrunner
    | prepared _ hnew hdesk =>
        cases (congrArg MissionDesk.runner hdesk).symm.trans hr'
        intro p hp
        rw [(newRunner_spec hnew).2.1] at hp
        exact nomatch hp
    | advanced _ hmove =>
        cases hmove with
        | kept _ hdesk =>
            have hrunner := (congrArg MissionDesk.runner hdesk).symm.trans hr'
            exact fun p ↦ hkept r' p hrunner
        | lost _ hrunner hpackage _ hdesk | counted _ hrunner hpackage _ hdesk =>
            exact hreleased hrunner hpackage ((congrArg MissionDesk.runner hdesk).symm.trans hr')
    | @submitted action hresult =>
        cases hresult with
        | failed _ hsame =>
            have hrunner : s.runner = some r' := (congrArg FullMissionSession.runner hsame).symm.trans hr'
            exact fun p ↦ hkept r' p hrunner
        | @answered r d _ hrole hrunner hmove hdesk _ =>
            cases (congrArg MissionDesk.runner hdesk).symm.trans hr'
            intro p hp
            have hpending := hp
            rw [← view_pending, view_submitted (h.planned.plan r hrunner)] at hpending
            cases (hmove.pending_move (fun p ↦ h.copied.copied r p hrunner) hpending).1 with
            | kept hprior => exact hkept r p hrunner hprior
            | @staged load mask haction hbound hload =>
                subst haction hload
                have hheld := h.holds_concat hr' hp rfl rfl
                rw [h.reached] at hbound
                exact ⟨⟨calls, mask, [], rfl, hbound, hheld⟩, nofun⟩
            | @committed load request haction hstaged haccepts hprior hload hstate =>
                subst haction hload
                have hearlier := h.staged r _ hrunner hprior
                have hholds : s.Holds p.load .staged := ⟨r, hrunner, _, hprior, rfl, rfl⟩
                have hheld := h.holds_concat hr' hp rfl hstate
                rw [h.reached] at hrole haccepts hholds
                exact ⟨hearlier.append _,
                  fun _ ↦ ⟨calls, request, [], rfl, hearlier, hrole, haccepts, hholds, hheld⟩⟩
  exact {
    reached := by rw [h.reached, run_concat]
    planned := (mission_move h.planned call).2
    copied := h.copied.step h.planned call
    staged := fun r p hr hp ↦ (hnext r hr p hp).1
    committed := fun r p hr hp ↦ (hnext r hr p hp).2 }

/-- A compiled session holds nothing yet. -/
theorem heldSince_of_compiled {project : CompiledMissionProject} {role : OperationalRole}
    (hcompiled : compiledWithRole project role = .ok s₀) : HeldSince s₀ [] s₀ := by
  have hnone : s₀.runner = none ∧ s₀.stagedLoad = none ∧ s₀.releaseEpoch = 0 := by
    unfold compiledWithRole at hcompiled
    split at hcompiled
    · cases hcompiled
    · cases hcompiled
      exact ⟨rfl, rfl, rfl⟩
  have hno : ∀ r, s₀.runner ≠ some r := fun r hr ↦ nomatch hnone.1.symm.trans hr
  exact {
    reached := rfl
    planned := planned_of_compiled hcompiled
    copied := ⟨fun _ ↦ hnone.2, fun r hr ↦ absurd hr (hno r), fun r _ hr ↦ absurd hr (hno r)⟩
    staged := fun r _ hr ↦ absurd hr (hno r)
    committed := fun r _ hr ↦ absurd hr (hno r) }

/-- A load that a call executes is the one that the package holds committed. -/
theorem pending_of_executed (hplanned : Planned s) {call : FullMissionCall}
    (hexecuted : s.executed call = some load) :
    ∃ r p, s.runner = some r ∧ r.package.uplink.pending = some p ∧ p.load = load
      ∧ p.state = .committed := by
  obtain ⟨cells, -, hexecuted⟩ := Option.bind_eq_some_iff.mp hexecuted
  obtain ⟨r, hrunner, hout⟩ := Option.bind_eq_some_iff.mp hexecuted
  have hrelease := handedOut_released (hplanned.plan r hrunner) cells
  rw [releaseOf, hout] at hrelease
  cases next_move r.package.uplink.view (.release r.package.epoch) with
  | executed p _ _ hpending _ hstate _ _ hhanded =>
      have hload := Option.some.inj (hhanded.symm.trans hrelease.symm)
      exact ⟨r, p, hrunner, hpending, hload, hstate⟩
  | kept _ hnone | staged _ _ _ _ _ _ _ _ _ hnone | committed _ _ _ _ _ _ _ hnone
  | cancelled _ _ _ _ _ _ _ hnone | expired _ _ _ _ _ _ hnone =>
      cases hnone.symm.trans hrelease.symm

/-! ### The authority of an executed load -/

/-- The position and the velocity that the load carries are the latest public estimate. -/
def CarriesLatest (s : FullMissionSession) (load : UplinkCommandLoad) : Prop :=
  ∃ estimate, s.estimates.getLast? = some estimate
    ∧ load.arguments.toList.take 3 = estimate.positionQ12Km.toList
    ∧ (load.arguments.toList.drop 3).take 3 = estimate.velocityQ24KmS.toList

/-- The load names a branch that the plan of the mission declares. -/
def NamesBranch (load : UplinkCommandLoad) : Prop :=
  ∃ branch ∈ fullGnssLossMissionPlan.branches.toList.take
      fullGnssLossMissionPlan.branchCount.toNat,
    load.arguments.toList.head? = some branch.branchId.toUInt32.toInt32

/-- The role may act, and the procedure is active in a step that requests a load of this
type. -/
def Requested (s : FullMissionSession) (type : UplinkLoadType) : Prop :=
  roleCanAct s.role = true ∧ ∃ procedure step, s.procedure = some procedure
    ∧ procedure.state = .active ∧ procedure.current = some step
    ∧ step.kind = .requestAction ∧ step.action = some type

/-- The run has staged the load and then committed it: a navigation update that carried the
latest estimate when it was staged, or a branch of the plan, and of the type that the
procedure requested when it was committed. -/
def Authorised (s₀ : FullMissionSession) (calls : List FullMissionCall)
    (load : UplinkCommandLoad) : Prop :=
  ∃ before mask between request after,
    calls = before ++ .submit (.stage load mask) :: between ++ .submit (.commit request) :: after
      ∧ (run step s₀ (before ++ [.submit (.stage load mask)])).Holds load .staged
      ∧ (run step s₀ (before ++ .submit (.stage load mask) :: between
          ++ [.submit (.commit request)])).Holds load .committed
      ∧ (load.loadType = .groundNavigationUpdate ∧ CarriesLatest (run step s₀ before) load
        ∨ load.loadType = .contingencyBranch ∧ NamesBranch load)
      ∧ Requested (run step s₀ (before ++ .submit (.stage load mask) :: between)) load.loadType

/-- Every load that the package executes in the run is authorised by the calls before. -/
def ExecutionsAuthorised (s₀ : FullMissionSession) (calls : List FullMissionCall) : Prop :=
  ∀ before call after load, calls = before ++ call :: after →
    (run step s₀ before).executed call = some load → Authorised s₀ before load

/-- An update that the session lets pass carries the latest estimate. -/
theorem carriesLatest_of_loadBound (h : Guided s) (htype : load.loadType = .groundNavigationUpdate)
    (hbound : s.loadBound load = true) : CarriesLatest s load := by
  unfold loadBound at hbound
  rw [htype] at hbound
  obtain ⟨estimate, hlatest, hcarries⟩ := exists_of_any hbound
  simp only [carriesEstimate, Bool.and_eq_true, beq_iff_eq] at hcarries
  exact ⟨estimate, h.ground.symm.trans hlatest, hcarries.1.2, hcarries.2⟩

/-- A branch load that the session lets pass names a branch of the plan. -/
theorem namesBranch_of_loadBound (htype : load.loadType = .contingencyBranch)
    (hbound : s.loadBound load = true) : NamesBranch load := by
  unfold loadBound at hbound
  rw [htype] at hbound
  obtain ⟨branch, hmem, heq⟩ := List.any_eq_true.mp hbound
  refine ⟨branch, hmem, ?_⟩
  rw [beq_iff_eq.mp heq]
  simp [List.head?_eq_getElem?]

/-- The procedure of the mission requests updates and branches only. -/
theorem fullMission_actions {id : UInt16} {step : ProcedureStep} {type : UplinkLoadType}
    (hstep : findStep fullMissionPack id = some step) (haction : step.action = some type) :
    type = .groundNavigationUpdate ∨ type = .contingencyBranch := by
  have hall : ∀ step ∈ fullGnssLossSteps, step.action = none
      ∨ step.action = some .groundNavigationUpdate ∨ step.action = some .contingencyBranch := by
    decide
  rcases hall step (List.mem_of_find?_eq_some hstep) with hnone | hupdate | hbranch
  · exact nomatch hnone.symm.trans haction
  · exact .inl (Option.some.inj (haction.symm.trans hupdate))
  · exact .inr (Option.some.inj (haction.symm.trans hbranch))

/-- A load type that the session's procedure accepts is one that it requests. -/
theorem requested_of_accepts (h : Guided s) (hrole : roleCanAct s.role = true)
    {type : UplinkLoadType} (haccepts : s.procedureAccepts type = true) :
    Requested s type ∧ (type = .groundNavigationUpdate ∨ type = .contingencyBranch) := by
  unfold procedureAccepts at haccepts
  obtain ⟨procedure, hprocedure, haccepts⟩ := exists_of_any haccepts
  rw [Bool.and_eq_true, beq_iff_eq] at haccepts
  obtain ⟨step, hcurrent, haction⟩ := exists_of_any haccepts.2
  obtain ⟨step', hcurrent', hfound⟩ := (h.onMission procedure hprocedure).current_eq
  obtain rfl := Option.some.inj (hcurrent.symm.trans hcurrent')
  have haction := beq_iff_eq.mp haction
  have hkind := ((fullMission_edges hfound).2.2.2.1 (haction ▸ rfl)).1
  exact ⟨⟨hrole, procedure, step, hprocedure, haccepts.1, hcurrent, hkind, haction⟩,
    fullMission_actions hfound haction⟩

/-- Every load that the package executes, in any run, was staged and committed with the
session's authority. -/
theorem executions_authorised {project : CompiledMissionProject} {role : OperationalRole}
    (hcompiled : compiledWithRole project role = .ok s₀) (calls : List FullMissionCall) :
    ExecutionsAuthorised s₀ calls := by
  have hheld : ∀ calls, HeldSince s₀ calls (run step s₀ calls) :=
    history_invariant (HeldSince s₀) (fun _ _ call h ↦ h.step call)
      (heldSince_of_compiled hcompiled)
  rintro calls call after load - hexecuted
  have h := hheld calls
  obtain ⟨r, p, hr, hp, rfl, hstate⟩ := pending_of_executed h.planned hexecuted
  obtain ⟨before, request, after, rfl, ⟨before, mask, between, rfl, hbound, hstaged⟩, hrole,
    haccepts, -, hcommitted⟩ := h.committed r p hr hp hstate
  obtain ⟨hrequested, htype⟩ := requested_of_accepts (hheld _).planned.guided hrole haccepts
  refine ⟨before, mask, between, request, after, rfl, hstaged, hcommitted, ?_, hrequested⟩
  refine htype.imp (fun htype ↦ ⟨htype, ?_⟩) fun htype ↦ ⟨htype, ?_⟩
  · exact carriesLatest_of_loadBound (hheld before).planned.guided htype hbound
  · exact namesBranch_of_loadBound htype hbound

/-- A run that stages a load, executes nothing, and lets the load expire. -/
theorem executions_authorised_waitingCalls :
    ExecutionsAuthorised (fullGnssLossSession .flightController) (waitingCalls ++ [restCall]) :=
  executions_authorised (compiled_fullGnssLossProject .flightController) _

end Executed

end Ksa64.Session
