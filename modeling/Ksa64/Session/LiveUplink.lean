import Ksa64.Session.LiveRun

/-!
# Commands in the live session

What a run of the session does to the uplink manager of its package.  Submissions are
answered only after the manager has acted, so the first half says on which runs an error
leaves the manager alone and a role that may not act never moves it (`Guarded`).  The
runtime keeps a copy of the staged load, and the second half says on which runs the copy
and the manager agree (`Kept`).  Both conditions are exact.
-/

namespace Ksa64.Session

open Ksa64.Library Ksa64.Interface Ksa64.Flight

/-! ## When a call of the machine changes it -/

section Machine

variable (v : UplinkView)

theorem next_stage_eq_self (load : UplinkCommandLoad) (epoch mask : UInt32)
    (navigation : GlobalNavigation) (manifest : FlightSoftwarePackageManifest)
    (plan : MissionPlan) :
    v.next (.stage load epoch mask navigation manifest plan) = v ↔
      ¬v.StageAdmitted load (validateStage load epoch mask navigation manifest plan) := by
  constructor
  · intro hkept hadm
    have hpending := congrArg UplinkView.pending hkept
    rw [UplinkView.next, if_pos hadm, hadm.2.1] at hpending
    exact Option.some_ne_none _ hpending
  · exact fun hadm ↦ if_neg hadm

theorem next_commit_eq_self (request : UplinkControlRecord) (epoch : UInt32) :
    v.next (.commit request epoch) = v ↔
      ¬∃ pending ∈ v.pending, CommitAdmitted pending request epoch := by
  obtain ⟨_ | pending, identity⟩ := v
  · exact ⟨fun _ ⟨pending, hpending, _⟩ ↦ Option.not_mem_none pending hpending, fun _ ↦ rfl⟩
  · simp only [UplinkView.next, Option.mem_def, Option.some.injEq, exists_eq_left']
    by_cases hadm : CommitAdmitted pending request epoch
    · rw [dif_pos hadm]
      refine ⟨fun hkept ↦ absurd ?_ hadm.2.1, fun hnot ↦ absurd hadm hnot⟩
      have hpending := Option.some.inj (congrArg UplinkView.pending hkept)
      rw [← hpending]
      rfl
    · rw [dif_neg hadm]
      exact ⟨fun _ ↦ hadm, fun _ ↦ rfl⟩

theorem next_cancel_eq_self (request : UplinkControlRecord) (epoch : UInt32) :
    v.next (.cancel request epoch) = v ↔
      ¬∃ pending ∈ v.pending, addresses request .cancellation pending.load = true := by
  obtain ⟨_ | pending, identity⟩ := v
  · refine ⟨?_, fun _ ↦ rfl⟩
    rintro - ⟨pending, hpending, -⟩
    exact Option.not_mem_none pending hpending
  · simp only [UplinkView.next, Option.mem_def, Option.some.injEq, exists_eq_left']
    by_cases haddr : addresses request .cancellation pending.load = true
    · rw [if_pos haddr]
      exact ⟨by rintro ⟨⟩, fun hnot ↦ absurd haddr hnot⟩
    · rw [if_neg haddr]
      exact ⟨fun _ ↦ haddr, fun _ ↦ rfl⟩

variable {v}

/-- A commit that moves the pending load is confirmed. -/
theorem commitConfirmed_of_admitted {request : UplinkControlRecord} {epoch : UInt32}
    (h : ∃ pending ∈ v.pending, CommitAdmitted pending request epoch) :
    v.CommitConfirmed request epoch := by
  obtain ⟨pending, hpending, haddr, -, hlate⟩ := h
  unfold UplinkView.CommitConfirmed
  rw [Option.mem_def.mp hpending]
  exact ⟨haddr, .inr hlate⟩

/-- A confirmed commit of a load that is staged moves it. -/
theorem commitAdmitted_of_confirmed {load : UplinkCommandLoad} {request : UplinkControlRecord}
    {epoch : UInt32} (hpending : v.pending = some (.stage load))
    (h : v.CommitConfirmed request epoch) :
    CommitAdmitted (.stage load) request epoch := by
  unfold UplinkView.CommitConfirmed at h
  rw [hpending] at h
  obtain ⟨haddr, hstate⟩ := h
  exact ⟨haddr, nofun, hstate.resolve_left nofun⟩

/-- An admitted commit makes the pending load a committed one. -/
theorem next_commit_of_admitted {pending : PendingUplink} {request : UplinkControlRecord}
    {epoch : UInt32} (hpending : v.pending = some pending)
    (h : CommitAdmitted pending request epoch) :
    ∃ heff, v.next (.commit request epoch) =
      { v with pending := some (pending.commit request.effectiveEpoch heff) } := by
  refine ⟨not_not.mp (not_or.mp h.2.2).1, ?_⟩
  simp only [UplinkView.next, hpending, h, dif_pos]

/-- With nothing pending, a release has nothing to do. -/
theorem next_release_of_none (hpending : v.pending = none) (epoch : UInt32) :
    v.next (.release epoch) = v := by
  simp only [UplinkView.next, hpending]

end Machine

/-! ## Errors and roles -/

namespace GnssLossRuntime

/-- The action changes what the uplink manager holds. -/
def MovesUplink (r : GnssLossRuntime) : MissionOperatorAction → Prop
  | .stage load mask => r.uplinkView.StageAdmitted load (r.stageReason load mask)
  | .commit request =>
      r.stagedLoad.isSome = true
        ∧ ∃ pending ∈ r.package.uplink.pending, CommitAdmitted pending request r.package.epoch
  | .cancel request =>
      ∃ pending ∈ r.package.uplink.pending, addresses request .cancellation pending.load = true

/-- The role may take the action, and a commit is one that the procedure requests. -/
def Permits (r : GnssLossRuntime) (role : OperationalRole) : MissionOperatorAction → Prop
  | .stage _ _ | .cancel _ => roleCanAct role = true
  | .commit _ => ∃ load ∈ r.stagedLoad, r.procedure.Accepts role load.loadType

instance (r : GnssLossRuntime) (action : MissionOperatorAction) :
    Decidable (r.MovesUplink action) := by
  cases action <;> unfold MovesUplink <;> infer_instance

instance (r : GnssLossRuntime) (role : OperationalRole) (action : MissionOperatorAction) :
    Decidable (r.Permits role action) := by
  cases action <;> unfold Permits <;> infer_instance

/-- A submission that fails, or comes from a role that may not act, leaves the uplink
machine where it was exactly when it does not move it, or may. -/
theorem submit_sound_iff {r : GnssLossRuntime} (h : r.Equipped) (role : OperationalRole)
    (action : MissionOperatorAction) :
    (((r.submit role action).Failed ∨ roleCanAct role = false) →
        (r.submit role action).2.uplinkView = r.uplinkView) ↔
      (r.MovesUplink action → r.Permits role action) := by
  have hmove := submit_move h role action
  generalize (r.submit role action).Failed = failed, (r.submit role action).2 = next at *
  cases hmove with
  | stage hok hview =>
      rw [hview, stageCall, next_stage_eq_self, or_iff_right hok, ← Bool.not_eq_true]
      exact not_imp_not
  | cancel hok hview =>
      rw [hview, next_cancel_eq_self, or_iff_right hok, ← Bool.not_eq_true]
      exact not_imp_not
  | unavailable hnone hfailed =>
      refine ⟨fun _ hmoves ↦ ?_, fun _ _ ↦ rfl⟩
      rw [MovesUplink, hnone] at hmoves
      exact absurd hmoves.1 Bool.false_ne_true
  | rejected hstaged hconfirmed hok hview =>
      have hnot := fun hadm ↦ hconfirmed (commitConfirmed_of_admitted hadm)
      rw [hview]
      exact ⟨fun _ hmoves ↦ absurd hmoves.2 hnot,
        fun _ _ ↦ (next_commit_eq_self ..).mpr hnot⟩
  | refused hstaged hconfirmed haccepts hfailed hview =>
      rw [hview, next_commit_eq_self]
      constructor
      · intro hsound hmoves
        exact absurd hmoves.2 (hsound (.inl hfailed))
      · rintro hpermits - hadm
        obtain ⟨load, hload, hload'⟩ := hpermits ⟨by rw [hstaged]; rfl, hadm⟩
        obtain rfl := Option.some.inj (hstaged.symm.trans hload)
        exact haccepts hload'
  | accepted hstaged hconfirmed haccepts hok hview =>
      refine ⟨fun _ _ ↦ ⟨_, hstaged, haccepts⟩, fun _ hor ↦ ?_⟩
      obtain hfailed | hrole := hor
      · exact absurd hfailed hok
      · exact nomatch haccepts.1.symm.trans hrole

end GnssLossRuntime

section Errors

open LiveMissionSession

/-- The uplink machine of the session, once there is one. -/
def LiveMissionSession.uplinkView (s : LiveMissionSession) : Option UplinkView :=
  s.runtime.map GnssLossRuntime.uplinkView

/-- A submission that returns an error, or comes from a role that may not act, leaves the
uplink machine exactly where it was. -/
def SubmissionSound (s : LiveMissionSession) : SessionCall → Prop
  | .submit action =>
      (s.submitOperatorAction action).Failed ∨ roleCanAct s.project.role = false →
        (s.submitOperatorAction action).2.uplinkView = s.uplinkView
  | _ => True

/-- An action that moves the uplink manager is permitted: by its role, and for a commit by
the active step of the procedure. -/
def Guarded (s : LiveMissionSession) : SessionCall → Prop
  | .submit action =>
      s.isOpen = true → ∀ r ∈ s.runtime, r.MovesUplink action → r.Permits s.project.role action
  | _ => True

instance (s : LiveMissionSession) (call : SessionCall) : Decidable (Guarded s call) := by
  cases call <;> unfold Guarded <;> infer_instance

instance (s : LiveMissionSession) (call : SessionCall) : Decidable (SubmissionSound s call) := by
  cases call <;> unfold SubmissionSound <;> infer_instance

/-- Nothing is or was pending or executed. -/
def UplinkUntouched (s : LiveMissionSession) : Prop :=
  OnRuntime s fun r ↦ r.uplinkView = ⟨none, 0⟩

/-- What a run promises about the command path: its submissions are sound, and with a role
that may not act nothing is ever staged, committed, cancelled or executed. -/
structure CommandPathSound (s : LiveMissionSession) (calls : List SessionCall) : Prop where
  submissions : Meets step SubmissionSound s calls
  untouched : roleCanAct s.project.role = false →
    ∀ before after, calls = before ++ after → UplinkUntouched (run step s before)

variable {s : LiveMissionSession}

/-- In an equipped session, guarded submissions are the sound ones. -/
theorem submissionSound_iff (h : OnRuntime s GnssLossRuntime.Equipped) (call : SessionCall) :
    SubmissionSound s call ↔ Guarded s call := by
  cases call with
  | submit action =>
      unfold SubmissionSound Guarded
      dsimp only
      unfold LiveMissionSession.uplinkView
      rw [submitOperatorAction_failed, (submitOperatorAction_frame s action).1]
      cases s.isOpen with
      | false => exact ⟨fun _ hopen ↦ (Bool.false_ne_true hopen).elim, fun _ _ ↦ rfl⟩
      | true =>
          cases hr : s.runtime with
          | none =>
              exact ⟨fun _ _ r hr ↦ (Option.some_ne_none r hr.symm).elim, fun _ _ ↦ rfl⟩
          | some r =>
              have hiff := GnssLossRuntime.submit_sound_iff (h r hr) s.project.role action
              simpa only [Option.mem_def, Option.some.injEq, forall_eq', true_implies, if_true,
                Option.map_some] using hiff
  | _ => exact Iff.rfl

/-- Every call keeps the session equipped. -/
theorem equipped_step (h : OnRuntime s GnssLossRuntime.Equipped) (call : SessionCall) :
    OnRuntime (s.step call) GnssLossRuntime.Equipped :=
  OnRuntime.step h (fun _ hnew ↦ (GnssLossRuntime.fresh_of_new hnew).equipped)
    fun _ c _ _ hr ↦ hr.step s.project.role c

/-- A session of a role that may not act, whose uplink is untouched. -/
structure Inert (s : LiveMissionSession) : Prop where
  role_eq : roleCanAct s.project.role = false
  equipped : OnRuntime s GnssLossRuntime.Equipped
  untouched : UplinkUntouched s

/-- Guarded calls keep such a session untouched: releases have nothing to execute. -/
theorem Inert.step (h : Inert s) {call : SessionCall} (hguarded : Guarded s call) :
    Inert (s.step call) where
  role_eq := (congrArg _ (congrArg _ (project_step s call))).trans h.role_eq
  equipped := equipped_step h.equipped call
  untouched := by
    refine OnRuntime.step h.untouched
      (fun _ hnew ↦ (GnssLossRuntime.fresh_of_new hnew).uplinkView_eq) ?_
    intro r c hr hc hview
    have hr' := h.equipped r hr
    cases c with
    | release =>
        refine (GnssLossRuntime.release_uplinkView hr').1.trans ?_
        rw [next_release_of_none (by rw [hview]), ite_self]
        exact hview
    | submit action =>
        obtain ⟨rfl, hopen⟩ := runtimeCall_eq_submit s hc
        have hsound := (GnssLossRuntime.submit_sound_iff hr' s.project.role action).mpr
          (hguarded hopen r hr)
        exact (hsound (.inr h.role_eq)).trans hview

/-- Exactly the guarded runs have a sound command path. -/
theorem commandPathSound_iff_guarded {project : CompiledMissionProject}
    (hcompiled : compiled project = .ok s) (calls : List SessionCall) :
    CommandPathSound s calls ↔ Meets step Guarded s calls := by
  have hnone := (compiled_eq_ok hcompiled).2.1
  have hequipped : OnRuntime s GnssLossRuntime.Equipped := fun r hr ↦
    (Option.some_ne_none r (hr.symm.trans hnone)).elim
  have hiff : Meets step SubmissionSound s calls ↔ Meets step Guarded s calls :=
    meets_iff_of_invariant (OnRuntime · GnssLossRuntime.Equipped)
      (fun _ call h _ ↦ equipped_step h call) (fun _ call h ↦ submissionSound_iff h call)
      hequipped calls
  constructor
  · exact fun h ↦ hiff.mp h.submissions
  · intro hguarded
    refine ⟨hiff.mpr hguarded, ?_⟩
    rintro hrole before after rfl
    have hinert : Inert s := {
      role_eq := hrole
      equipped := hequipped
      untouched := fun r hr ↦ (Option.some_ne_none r (hr.symm.trans hnone)).elim }
    exact (run_invariant_of_meets Inert (fun _ _ h hc ↦ h.step hc) hinert
      (meets_append.mp hguarded).1).untouched

/-- An operator who may act and sends the update the procedure requests. -/
theorem commandPathSound_updateCalls :
    CommandPathSound (gnssLossSession .flightController) updateCalls :=
  (commandPathSound_iff_guarded (compiled_gnssLossProject .flightController) updateCalls).mpr
    (by decide +kernel)

/-- A request for the safe mode. -/
def safeLoad : UplinkCommandLoad :=
  genericLoad 0 4 0x11c05001 .highLevelMode packageCapHighLevelMode .earthInertialEciV1
    #v[2, 0, 0, 0]

/-- Before the first release, stage and commit the request. -/
def safeCalls : List SessionCall :=
  [.prepare, .submit (.stage safeLoad 0), .submit (.commit (commitRequest safeLoad 0))]

/-- An observer's load is staged, and committed by a call that returns an error. -/
theorem observer_moves_uplink :
    ¬∀ (project : CompiledMissionProject) (s : LiveMissionSession) (calls : List SessionCall),
      compiled project = .ok s → CommandPathSound s calls := by
  intro h
  have hsound := (h _ _ safeCalls (compiled_gnssLossProject .observer)).submissions
  exact absurd hsound (by decide +kernel)

/-- Five releases later the observer's load has been executed. -/
example : (run step (gnssLossSession .observer)
    (safeCalls ++ List.replicate 5 .advanceOneRelease)).uplinkView
      = some ⟨none, safeLoad.loadIdentity⟩ := by decide +kernel

end Errors

/-! ## The two copies of the staged load -/

namespace GnssLossRuntime

/-- The uplink manager holds the load as its pending one, in the given state. -/
def Holds (r : GnssLossRuntime) (load : UplinkCommandLoad) (state : UplinkState) : Prop :=
  ∃ pending ∈ r.package.uplink.pending, pending.load = load ∧ pending.state = state

/-- The runtime's copy is the load that the manager holds staged. -/
def CopiesAgree (r : GnssLossRuntime) : Prop :=
  ∀ load, r.stagedLoad = some load ↔ r.Holds load .staged

/-- The copies agree, in terms of the machine. -/
def Agree (copy : Option UplinkCommandLoad) (v : UplinkView) : Prop :=
  ∀ load, copy = some load ↔ v.pending = some (.stage load)

theorem holds_staged_iff (r : GnssLossRuntime) (load : UplinkCommandLoad) :
    r.Holds load .staged ↔ r.uplinkView.pending = some (.stage load) := by
  unfold Holds uplinkView
  simp only [Option.mem_def, view_pending, ← eq_stage_iff]
  constructor
  · rintro ⟨pending, hpending, rfl⟩
    exact hpending
  · exact fun h ↦ ⟨_, h, rfl⟩

theorem copiesAgree_iff (r : GnssLossRuntime) :
    r.CopiesAgree ↔ Agree r.stagedLoad r.uplinkView :=
  forall_congr' fun load ↦ by rw [holds_staged_iff]

/-- A call that the procedure or the clock can spoil: a commit that the manager would take
is one that the procedure requests, and a release does not find the staged load expired. -/
def Kept (r : GnssLossRuntime) (role : OperationalRole) : RuntimeCall → Prop
  | .release =>
      r.releases < liveGnssLossMaxReleases → ∀ pending ∈ r.package.uplink.pending,
        pending.state = .staged → r.package.epoch ≤ pending.load.expiresEpoch
  | .submit (.commit request) =>
      ∀ load ∈ r.stagedLoad, ∀ pending ∈ r.package.uplink.pending,
        CommitAdmitted pending request r.package.epoch → r.procedure.Accepts role load.loadType
  | .submit (.stage _ _) | .submit (.cancel _) => True

instance (r : GnssLossRuntime) (role : OperationalRole) (c : RuntimeCall) :
    Decidable (r.Kept role c) := by
  unfold Kept
  split <;> infer_instance

/-- The procedure moves in a commit only if the manager moves the load from staged to
committed in the same call. -/
def CommitFaithful (r next : GnssLossRuntime) : RuntimeCall → Prop
  | .submit (.commit _) => next.procedure ≠ r.procedure →
      ∃ load, r.stagedLoad = some load ∧ r.Holds load .staged ∧ next.Holds load .committed
  | _ => True

variable {r : GnssLossRuntime}

/-- A committed load is not a staged one. -/
theorem commit_ne_stage {pending : PendingUplink} {epoch : UInt32}
    (h : epoch = pending.load.requestedEffectiveEpoch) (load : UplinkCommandLoad) :
    pending.commit epoch h ≠ .stage load := by
  intro heq
  cases congrArg PendingUplink.state heq

/-- Staging and cancelling keep the copies together. -/
theorem agree_stage {copy : Option UplinkCommandLoad} {v : UplinkView} (h : Agree copy v)
    (load : UplinkCommandLoad) (epoch mask : UInt32) (navigation : GlobalNavigation)
    (manifest : FlightSoftwarePackageManifest) (plan : MissionPlan) :
    Agree (if v.StageConfirmed load (validateStage load epoch mask navigation manifest plan) then
        some load else copy)
      (v.next (.stage load epoch mask navigation manifest plan)) := by
  unfold UplinkView.next
  dsimp only
  by_cases hadm : v.StageAdmitted load (validateStage load epoch mask navigation manifest plan)
  · rw [if_pos hadm, if_pos (.inl hadm)]
    intro other
    rw [Option.some.injEq, Option.some.injEq]
    exact ⟨congrArg _, congrArg PendingUplink.load⟩
  · rw [if_neg hadm]
    split
    · rename_i hconfirmed
      have hcopy := (h load).mpr (hconfirmed.resolve_left hadm).2
      exact hcopy ▸ h
    · exact h

theorem agree_cancel {copy : Option UplinkCommandLoad} {v : UplinkView} (h : Agree copy v)
    (request : UplinkControlRecord) (epoch : UInt32) :
    Agree (if v.CancelConfirmed request then none else copy)
      (v.next (.cancel request epoch)) := by
  obtain ⟨_ | pending, identity⟩ := v
  · have hcopy : copy = none := by
      cases copy with
      | none => rfl
      | some load => cases (h load).mp rfl
    rw [hcopy, ite_self]
    exact hcopy ▸ h
  · by_cases haddr : addresses request .cancellation pending.load = true
    · have hconfirmed : UplinkView.CancelConfirmed ⟨some pending, identity⟩ request := haddr
      rw [if_pos hconfirmed, UplinkView.next]
      dsimp only
      rw [if_pos haddr]
      exact fun load ↦ ⟨by rintro ⟨⟩, by rintro ⟨⟩⟩
    · have hconfirmed : ¬UplinkView.CancelConfirmed ⟨some pending, identity⟩ request := haddr
      rw [if_neg hconfirmed, UplinkView.next]
      dsimp only
      rw [if_neg haddr]
      exact h

/-- A release keeps the copies together exactly when it does not find the staged load
expired. -/
theorem agree_release {copy : Option UplinkCommandLoad} {v : UplinkView} (h : Agree copy v)
    (epoch : UInt32) :
    Agree copy (v.next (.release epoch)) ↔
      ∀ pending ∈ v.pending, pending.state = .staged → epoch ≤ pending.load.expiresEpoch := by
  obtain ⟨_ | pending, identity⟩ := v
  · exact ⟨fun _ pending hpending ↦ absurd hpending (Option.not_mem_none pending), fun _ ↦ h⟩
  · have hsome : ∀ load, copy = some load ↔ pending = .stage load := fun load ↦ by
      rw [h load, Option.some.injEq]
    simp only [Option.mem_def, Option.some.injEq, forall_eq']
    obtain hstaged | hcommitted := pending.state_eq
    · -- a staged load expires or stays
      have hpending : pending = .stage pending.load := (eq_stage_iff ..).mpr ⟨rfl, hstaged⟩
      unfold UplinkView.next
      dsimp only
      by_cases hexpired : pending.load.expiresEpoch < epoch
      · rw [if_pos hexpired]
        refine ⟨fun hagree ↦ ?_, fun hkept ↦ ?_⟩
        · exact nomatch (hagree pending.load).mp ((hsome _).mpr hpending)
        · exact absurd (hkept hstaged) (UInt32.not_le.mpr hexpired)
      · rw [if_neg hexpired, if_pos (.inl (hstaged ▸ nofun))]
        exact ⟨fun _ _ ↦ UInt32.not_lt.mp hexpired, fun _ ↦ h⟩
    · -- a committed load is in no copy, whatever becomes of it
      have hcopy : copy = none := by
        cases hcopy : copy with
        | none => rfl
        | some load =>
            have hload := (hsome load).mp hcopy
            exact nomatch hcommitted.symm.trans (congrArg PendingUplink.state hload)
      have hnot : ∀ load, pending ≠ .stage load := fun load hload ↦
        nomatch hcommitted.symm.trans (congrArg PendingUplink.state hload)
      refine ⟨fun _ hstaged ↦ (nomatch hcommitted.symm.trans hstaged), fun _ load ↦ ?_⟩
      rw [hcopy]
      refine ⟨nofun, fun hpending ↦ ?_⟩
      unfold UplinkView.next at hpending
      dsimp only at hpending
      split at hpending
      · cases hpending
      · split at hpending
        · exact absurd (Option.some.inj hpending) (hnot load)
        · cases hpending

/-- Staging, cancelling and releasing do not concern the procedure's commits; a call of an
equipped runtime whose copies agree leaves them so, and commits faithfully, exactly when it
is kept. -/
theorem copies_step_iff (hequipped : r.Equipped) (h : r.CopiesAgree) (role : OperationalRole)
    (c : RuntimeCall) :
    ((r.step role c).CopiesAgree ∧ r.CommitFaithful (r.step role c) c) ↔ r.Kept role c := by
  rw [copiesAgree_iff] at h ⊢
  cases c with
  | release =>
      obtain ⟨hview, hcopy⟩ := release_uplinkView hequipped
      refine (and_iff_left trivial).trans ?_
      unfold step Kept
      dsimp only
      rw [hview, hcopy]
      by_cases hreleases : r.releases < liveGnssLossMaxReleases
      · rw [if_pos hreleases, agree_release h]
        exact ⟨fun hkept _ ↦ hkept, fun hkept ↦ hkept hreleases⟩
      · rw [if_neg hreleases]
        exact ⟨fun _ hbelow ↦ absurd hbelow hreleases, fun _ ↦ h⟩
  | submit action =>
      unfold step
      dsimp only
      have hmove := submit_move hequipped role action
      generalize (r.submit role action).Failed = failed, (r.submit role action).2 = next at *
      cases hmove with
      | stage hok hview hcopy =>
          rw [hview, hcopy]
          exact ⟨fun _ ↦ trivial, fun _ ↦ ⟨agree_stage h _ _ _ _ _ _, trivial⟩⟩
      | cancel hok hview hcopy =>
          rw [hview, hcopy]
          exact ⟨fun _ ↦ trivial, fun _ ↦ ⟨agree_cancel h _ _, trivial⟩⟩
      | unavailable hnone =>
          refine ⟨fun _ load hload ↦ ?_, fun _ ↦ ⟨h, fun hne ↦ absurd rfl hne⟩⟩
          exact nomatch hnone.symm.trans hload
      | rejected hstaged hconfirmed hok hview hcopy hprocedure =>
          have hnot := fun hadm ↦ hconfirmed (commitConfirmed_of_admitted hadm)
          rw [hview, (next_commit_eq_self ..).mpr hnot, hcopy]
          refine ⟨fun _ load _ pending hpending hadm ↦ ?_,
            fun _ ↦ ⟨h, fun hne ↦ absurd hprocedure hne⟩⟩
          exact absurd ⟨pending, hpending, hadm⟩ hnot
      | refused hstaged hconfirmed haccepts hfailed hview hcopy hprocedure =>
          -- the manager has committed, and the copy still says staged
          have hpending := (h _).mp hstaged
          have hadm := commitAdmitted_of_confirmed hpending hconfirmed
          refine ⟨fun ⟨hagree, _⟩ ↦ ?_, fun hkept ↦ ?_⟩
          · obtain ⟨_, hnext⟩ := next_commit_of_admitted hpending hadm
            have hstill := (hagree _).mp (hcopy.trans hstaged)
            rw [hview, hnext] at hstill
            exact absurd (Option.some.inj hstill) (commit_ne_stage _ _)
          · exact absurd (hkept _ hstaged _ hpending hadm) haccepts
      | accepted hstaged hconfirmed haccepts hok hview hcopy hprocedure =>
          have hpending := (h _).mp hstaged
          have hadm := commitAdmitted_of_confirmed hpending hconfirmed
          obtain ⟨heff, hnext⟩ := next_commit_of_admitted hpending hadm
          refine ⟨fun _ load hload _ _ _ ↦ ?_, fun _ ↦ ⟨?_, fun _ ↦ ?_⟩⟩
          · obtain rfl := Option.some.inj (hstaged.symm.trans hload)
            exact haccepts
          · rw [hcopy, hview, hnext]
            refine fun load ↦ ⟨nofun, fun hstill ↦ ?_⟩
            exact absurd (Option.some.inj hstill) (commit_ne_stage _ load)
          · exact ⟨_, hstaged, (holds_staged_iff ..).mpr hpending, PendingUplink.commit _ _ heff,
              congrArg UplinkView.pending (hview.trans hnext), rfl, rfl⟩

end GnssLossRuntime

section Copies

open LiveMissionSession

/-- After the call the two copies agree, and if the call is a commit it is a faithful
one. -/
structure CopiesSound (s : LiveMissionSession) (call : SessionCall) : Prop where
  agree : OnRuntime (s.step call) GnssLossRuntime.CopiesAgree
  faithful : ∀ c ∈ s.runtimeCall call, ∀ r ∈ s.runtime, ∀ next ∈ (s.step call).runtime,
    r.CommitFaithful next c

/-- The call the session makes of its runtime is kept. -/
def CallKept (s : LiveMissionSession) (call : SessionCall) : Prop :=
  ∀ c ∈ s.runtimeCall call, ∀ r ∈ s.runtime, r.Kept s.project.role c

instance (s : LiveMissionSession) (call : SessionCall) : Decidable (CallKept s call) :=
  inferInstanceAs (Decidable (∀ c ∈ _, ∀ r ∈ _, _))

variable {s : LiveMissionSession}

/-- A new runtime has nothing staged on either side. -/
theorem copiesAgree_of_new {r : GnssLossRuntime} (hnew : GnssLossRuntime.new = .ok r) :
    r.CopiesAgree := by
  have hfresh := GnssLossRuntime.fresh_of_new hnew
  rw [GnssLossRuntime.copiesAgree_iff, hfresh.stagedLoad_eq, hfresh.uplinkView_eq]
  exact fun load ↦ ⟨nofun, nofun⟩

/-- From a session whose copies agree, the kept calls are the sound ones. -/
theorem copiesSound_iff (hequipped : OnRuntime s GnssLossRuntime.Equipped)
    (h : OnRuntime s GnssLossRuntime.CopiesAgree) (call : SessionCall) :
    CopiesSound s call ↔ CallKept s call := by
  unfold CallKept
  by_cases hprepare : call = .prepare
  · subst hprepare
    have hnone : s.runtimeCall .prepare = none := rfl
    rw [hnone]
    refine ⟨fun _ c hc ↦ (Option.some_ne_none c hc.symm).elim, fun _ ↦ ⟨?_, ?_⟩⟩
    · exact OnRuntime.step h (fun _ ↦ copiesAgree_of_new)
        fun _ c _ hc ↦ (Option.some_ne_none c hc.symm).elim
    · exact fun c hc ↦ (Option.some_ne_none c hc.symm).elim
  · have hruntime := runtime_step s hprepare
    constructor
    · rintro ⟨hagree, hfaithful⟩ c hc r hr
      rw [Option.mem_def.mp hc, hr] at hruntime
      exact (GnssLossRuntime.copies_step_iff (hequipped r hr) (h r hr) _ c).mp
        ⟨hagree _ hruntime, hfaithful c hc r hr _ hruntime⟩
    · intro hkept
      have hstep := fun c hc r (hr : s.runtime = some r) ↦
        (GnssLossRuntime.copies_step_iff (hequipped r hr) (h r hr) _ c).mpr (hkept c hc r hr)
      refine ⟨OnRuntime.step h (fun _ ↦ copiesAgree_of_new) ?_, ?_⟩
      · exact fun r c hr hc _ ↦ (hstep c hc r hr).1
      · intro c hc r hr next hnext
        rw [Option.mem_def.mp hc, hr] at hruntime
        exact Option.some.inj (hruntime.symm.trans hnext) ▸ (hstep c hc r hr).2

/-- Exactly in the kept runs do the two copies agree after every call, and does the
procedure move on a commit only with the manager. -/
theorem copies_sound_iff_kept {project : CompiledMissionProject}
    (hcompiled : compiled project = .ok s) (calls : List SessionCall) :
    Meets step CopiesSound s calls ↔ Meets step CallKept s calls := by
  have hnone := (compiled_eq_ok hcompiled).2.1
  have hempty : ∀ P, OnRuntime s P := fun P r hr ↦
    (Option.some_ne_none r (hr.symm.trans hnone)).elim
  refine meets_iff_of_invariant
    (fun s ↦ OnRuntime s GnssLossRuntime.Equipped ∧ OnRuntime s GnssLossRuntime.CopiesAgree)
    ?_ ?_ ⟨hempty _, hempty _⟩ calls
  · rintro s call ⟨hequipped, h⟩ hkept
    exact ⟨equipped_step hequipped call, ((copiesSound_iff hequipped h call).mpr hkept).agree⟩
  · rintro s call ⟨hequipped, h⟩
    exact copiesSound_iff hequipped h call

/-- Sending the update keeps the copies together. -/
theorem copies_sound_updateCalls :
    Meets step CopiesSound (gnssLossSession .flightController) updateCalls :=
  (copies_sound_iff_kept (compiled_gnssLossProject .flightController) updateCalls).mpr
    (by decide +kernel)

/-- The request for the safe mode, to expire at epoch 4. -/
def expiringLoad : UplinkCommandLoad := { safeLoad with expiresEpoch := 4 }

/-- Stage it and let six releases pass without a commit. -/
def expiringCalls : List SessionCall :=
  [.prepare, .submit (.stage expiringLoad 0)] ++ List.replicate 6 .advanceOneRelease

/-- The manager drops the expired load, and the runtime still has its copy. -/
theorem copy_outlives_expiry :
    ¬∀ (project : CompiledMissionProject) (s : LiveMissionSession) (calls : List SessionCall),
      compiled project = .ok s → Meets step CopiesSound s calls := by
  intro h
  have hall := h _ _ expiringCalls (compiled_gnssLossProject .flightController)
  have hagree := (meets_iff_forall.mp hall _ .advanceOneRelease []
    (List.dropLast_append_getLast? _ rfl).symm).agree
  have hstate : ((run step (gnssLossSession .flightController) expiringCalls.dropLast).step
      .advanceOneRelease).runtime.map (fun r ↦ (r.stagedLoad, r.package.uplink.pending))
        = some (some expiringLoad, none) := by decide +kernel
  obtain ⟨r, hr, hpair⟩ := Option.map_eq_some_iff.mp hstate
  obtain ⟨hcopy, hpending⟩ := Prod.mk.inj hpair
  obtain ⟨pending, hsome, -⟩ := (hagree r hr expiringLoad).mp hcopy
  exact Option.some_ne_none pending (hsome.symm.trans hpending)

end Copies

end Ksa64.Session
