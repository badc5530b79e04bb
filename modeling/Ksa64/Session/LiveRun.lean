import Ksa64.Library.Run
import Ksa64.Session.Live

/-!
# Runs of the live session

A session is driven by calls in any order.  `SessionCall` has one constructor for each of
them but `advanceBounded`, which is a run of its rounds (`advanceBounded_run`).  Each call
makes at most one call of the runtime (`runtime_step`), a release or a submission, and
`SubmitMove` says once what a submission can do.
-/

namespace Ksa64.Session

open Ksa64.Library Ksa64.Interface Ksa64.Flight

/-- A call of the runtime. -/
inductive RuntimeCall where
  | release
  | submit (action : MissionOperatorAction)
deriving DecidableEq

/-- A call of the session. -/
inductive SessionCall where
  | prepare
  | setPace (pace : MissionSessionPace)
  | pause
  | resume
  | advanceOneRelease
  | stepOneRelease
  /-- a round of a bounded advance -/
  | advanceRound (singleStep : Bool)
  | submit (action : MissionOperatorAction)
  | abort (reasonIdentity : UInt32)
deriving DecidableEq

/-- The runtime after the call. -/
def GnssLossRuntime.step (role : OperationalRole) (r : GnssLossRuntime) :
    RuntimeCall → GnssLossRuntime
  | .release => r.advanceOneRelease.2
  | .submit action => (r.submit role action).2

namespace LiveMissionSession

/-- The session after the call. -/
def step (s : LiveMissionSession) : SessionCall → LiveMissionSession
  | .prepare => s.prepare.2
  | .setPace pace => (s.setPace pace).2
  | .pause => s.pause.2
  | .resume => s.resume.2
  | .advanceOneRelease => s.advanceOneRelease.2
  | .stepOneRelease => s.stepOneRelease.2
  | .advanceRound singleStep => (s.advanceInternal singleStep).2
  | .submit action => (s.submitOperatorAction action).2
  | .abort reasonIdentity => (s.abort reasonIdentity).2

/-- The call the session makes of its runtime. -/
def runtimeCall (s : LiveMissionSession) : SessionCall → Option RuntimeCall
  | .advanceOneRelease => if s.isOpen && s.lifecycle != .paused then some .release else none
  | .stepOneRelease | .advanceRound _ => if s.isOpen then some .release else none
  | .submit action => if s.isOpen then some (.submit action) else none
  | .prepare | .setPace _ | .pause | .resume | .abort _ => none

end LiveMissionSession

/-! ## What a call does to the session -/

section Session

open LiveMissionSession

variable (s : LiveMissionSession)

@[simp] theorem record_runtime (kind : MissionSessionEventKind) (detail : UInt32) :
    (s.record kind detail).runtime = s.runtime := rfl

@[simp] theorem record_project (kind : MissionSessionEventKind) (detail : UInt32) :
    (s.record kind detail).project = s.project := rfl

@[simp] theorem record_lifecycle (kind : MissionSessionEventKind) (detail : UInt32) :
    (s.record kind detail).lifecycle = s.lifecycle := rfl

@[simp] theorem record_pace (kind : MissionSessionEventKind) (detail : UInt32) :
    (s.record kind detail).pace = s.pace := rfl

/-- The end of a release concerns neither the runtime nor the project. -/
theorem concludeRelease_frame (runtime : GnssLossRuntime) (terminal singleStep : Bool) :
    (s.concludeRelease runtime terminal singleStep).2.runtime = s.runtime
      ∧ (s.concludeRelease runtime terminal singleStep).2.project = s.project := by
  unfold concludeRelease
  split
  · split <;> exact ⟨rfl, rfl⟩
  · split <;> exact ⟨rfl, rfl⟩

/-- An open session releases its runtime, a closed one does nothing. -/
theorem advanceInternal_frame (singleStep : Bool) :
    (s.advanceInternal singleStep).2.runtime =
        (if s.isOpen then s.runtime.map (·.advanceOneRelease.2) else s.runtime)
      ∧ (s.advanceInternal singleStep).2.project = s.project := by
  unfold advanceInternal
  cases s.isOpen with
  | false => exact ⟨rfl, rfl⟩
  | true =>
      cases hr : s.runtime with
      | none => exact ⟨by simp, by simp⟩
      | some runtime =>
          simp only [Bool.not_true, Bool.false_eq_true, if_false, if_true, Option.map_some]
          split
          · exact ⟨rfl, rfl⟩
          · refine Attempt.andThen_keeps (P := fun t : LiveMissionSession ↦
              t.runtime = some runtime.advanceOneRelease.2 ∧ t.project = s.project) ?_ ?_
            · obtain ⟨hruntime, hproject⟩ := concludeRelease_frame
                ({ s with lifecycle := .running, runtime := some runtime.advanceOneRelease.2
                  }.record .release runtime.advanceOneRelease.2.releases)
                runtime.advanceOneRelease.2 _ singleStep
              exact ⟨hruntime, hproject⟩
            · intro _ t ht
              exact ht

/-- A step is a release, and a pause unless the session has completed. -/
theorem stepOneRelease_frame :
    s.stepOneRelease.2.runtime =
        (if s.isOpen then s.runtime.map (·.advanceOneRelease.2) else s.runtime)
      ∧ s.stepOneRelease.2.project = s.project := by
  unfold stepOneRelease
  cases hopen : s.isOpen with
  | false => exact ⟨rfl, rfl⟩
  | true =>
      obtain ⟨hruntime, hproject⟩ := advanceInternal_frame s true
      rw [hopen, if_pos rfl] at hruntime
      refine Attempt.andThen_keeps (P := fun t : LiveMissionSession ↦
        t.runtime = s.runtime.map (·.advanceOneRelease.2) ∧ t.project = s.project)
        ⟨hruntime, hproject⟩ ?_
      intro _ t ht
      split <;> exact ht

/-- An open session hands the action to its runtime. -/
theorem submitOperatorAction_frame (action : MissionOperatorAction) :
    (s.submitOperatorAction action).2.runtime =
        (if s.isOpen then s.runtime.map (fun r ↦ (r.submit s.project.role action).2)
          else s.runtime)
      ∧ (s.submitOperatorAction action).2.project = s.project
      ∧ (s.submitOperatorAction action).2.lifecycle = s.lifecycle := by
  unfold submitOperatorAction
  cases s.isOpen with
  | false => exact ⟨rfl, rfl, rfl⟩
  | true =>
      cases hr : s.runtime with
      | none => exact ⟨hr, rfl, rfl⟩
      | some runtime =>
          simp only [Bool.not_true, Bool.false_eq_true, if_false, if_true, Option.map_some]
          split <;> exact ⟨rfl, rfl, rfl⟩

/-- The session answers an action with an error when its runtime does, or when it cannot
hand the action on. -/
theorem submitOperatorAction_failed (action : MissionOperatorAction) :
    (s.submitOperatorAction action).Failed ↔
      s.isOpen = true → ∀ r ∈ s.runtime, (r.submit s.project.role action).Failed := by
  unfold submitOperatorAction
  cases s.isOpen with
  | false => exact ⟨fun _ hopen ↦ (Bool.false_ne_true hopen).elim, fun _ ↦ ⟨.lifecycle, rfl⟩⟩
  | true =>
      cases s.runtime with
      | none =>
          exact ⟨fun _ _ r hr ↦ (Option.some_ne_none r hr.symm).elim, fun _ ↦ ⟨.lifecycle, rfl⟩⟩
      | some runtime =>
          simp only [Bool.not_true, Bool.false_eq_true, if_false, Option.mem_def,
            Option.some.injEq, forall_eq', true_implies]
          generalize runtime.submit s.project.role action = submitted
          obtain ⟨result, next⟩ := submitted
          cases result with
          | error e => exact ⟨fun _ ↦ ⟨e, rfl⟩, fun _ ↦ ⟨e, rfl⟩⟩
          | ok receipt =>
              exact ⟨fun h ↦ absurd h (Attempt.not_failed_of_ok rfl),
                fun h ↦ absurd h (Attempt.not_failed_of_ok rfl)⟩

/-- Only a successful preparation brings a runtime. -/
theorem prepare_frame :
    (s.prepare.2.runtime = s.runtime
        ∨ s.lifecycle = .compiled
          ∧ ∃ r, GnssLossRuntime.new = .ok r ∧ s.prepare.2.runtime = some r)
      ∧ s.prepare.2.project = s.project := by
  unfold prepare
  split
  · exact ⟨.inl rfl, rfl⟩
  · rename_i hcompiled
    split
    · exact ⟨.inl rfl, rfl⟩
    · rename_i r hnew
      exact ⟨.inr ⟨not_not.mp hcompiled, r, hnew, rfl⟩, rfl⟩

theorem pause_frame : s.pause.2.runtime = s.runtime ∧ s.pause.2.project = s.project := by
  unfold pause
  split <;> exact ⟨rfl, rfl⟩

theorem setPace_frame (pace : MissionSessionPace) :
    (s.setPace pace).2.runtime = s.runtime ∧ (s.setPace pace).2.project = s.project := by
  unfold setPace
  split
  · exact ⟨rfl, rfl⟩
  · split
    · exact pause_frame s
    · exact ⟨rfl, rfl⟩

theorem resume_frame : s.resume.2.runtime = s.runtime ∧ s.resume.2.project = s.project := by
  unfold resume
  split <;> exact ⟨rfl, rfl⟩

theorem abort_frame (reasonIdentity : UInt32) :
    (s.abort reasonIdentity).2.runtime = s.runtime
      ∧ (s.abort reasonIdentity).2.project = s.project := by
  unfold abort
  split <;> exact ⟨rfl, rfl⟩

/-- No call changes the project. -/
theorem project_step (call : SessionCall) : (s.step call).project = s.project := by
  cases call with
  | prepare => exact (prepare_frame s).2
  | setPace pace => exact (setPace_frame s pace).2
  | pause => exact (pause_frame s).2
  | resume => exact (resume_frame s).2
  | advanceOneRelease =>
      unfold step advanceOneRelease
      dsimp only
      split
      · rfl
      · exact (advanceInternal_frame s false).2
  | stepOneRelease => exact (stepOneRelease_frame s).2
  | advanceRound singleStep => exact (advanceInternal_frame s singleStep).2
  | submit action => exact (submitOperatorAction_frame s action).2.1
  | abort reasonIdentity => exact (abort_frame s reasonIdentity).2

/-- A compiled session has its project and no runtime yet. -/
theorem compiled_eq_ok {project : CompiledMissionProject} {s : LiveMissionSession}
    (h : compiled project = .ok s) :
    s.project = project ∧ s.runtime = none ∧ s.lifecycle = .compiled := by
  unfold compiled at h
  split at h
  · cases h
  · cases h
    exact ⟨rfl, rfl, rfl⟩

/-- After its preparation, the runtime changes by its own calls. -/
theorem runtime_step {call : SessionCall} (h : call ≠ .prepare) :
    (s.step call).runtime =
      (s.runtimeCall call).elim s.runtime
        fun c ↦ s.runtime.map (·.step s.project.role c) := by
  cases call with
  | prepare => exact absurd rfl h
  | setPace pace => exact (setPace_frame s pace).1
  | pause => exact (pause_frame s).1
  | resume => exact (resume_frame s).1
  | abort reasonIdentity => exact (abort_frame s reasonIdentity).1
  | advanceOneRelease =>
      unfold step advanceOneRelease runtimeCall
      dsimp only
      by_cases hpaused : s.lifecycle = .paused
      · simp [hpaused]
      · rw [if_neg hpaused, (advanceInternal_frame s false).1]
        cases s.isOpen <;> simp [hpaused, GnssLossRuntime.step]
  | stepOneRelease =>
      refine (stepOneRelease_frame s).1.trans ?_
      unfold runtimeCall
      cases s.isOpen <;> rfl
  | advanceRound singleStep =>
      refine (advanceInternal_frame s singleStep).1.trans ?_
      unfold runtimeCall
      cases s.isOpen <;> rfl
  | submit action =>
      refine (submitOperatorAction_frame s action).1.trans ?_
      unfold runtimeCall
      cases s.isOpen <;> rfl

/-- Submissions come from submissions to an open session. -/
theorem runtimeCall_eq_submit {call : SessionCall} {action : MissionOperatorAction}
    (h : s.runtimeCall call = some (.submit action)) :
    call = .submit action ∧ s.isOpen = true := by
  cases call with
  | prepare | setPace | pause | resume | abort => cases h
  | advanceOneRelease | stepOneRelease | advanceRound =>
      unfold runtimeCall at h
      dsimp only at h
      split at h <;> cases h
  | submit action' =>
      unfold runtimeCall at h
      dsimp only at h
      split at h
      · rename_i hopen
        cases h
        exact ⟨rfl, hopen⟩
      · cases h

/-- Every runtime of the session has the property. -/
def OnRuntime (P : GnssLossRuntime → Prop) : Prop := ∀ r, s.runtime = some r → P r

variable {s}

/-- What a new runtime has and the runtime's calls keep, every call keeps; the calls are
those the session makes. -/
theorem OnRuntime.step {P : GnssLossRuntime → Prop} {call : SessionCall}
    (h : OnRuntime s P) (hnew : ∀ r, GnssLossRuntime.new = .ok r → P r)
    (hcall : ∀ r c, s.runtime = some r → s.runtimeCall call = some c → P r →
      P (r.step s.project.role c)) : OnRuntime (s.step call) P := by
  intro r' hr'
  by_cases hprepare : call = .prepare
  · subst hprepare
    obtain ⟨hkept | ⟨-, r, hr, hsome⟩, -⟩ := prepare_frame s
    · exact h r' (hkept ▸ hr')
    · exact Option.some.inj (hsome.symm.trans hr') ▸ hnew r hr
  · rw [runtime_step s hprepare] at hr'
    cases hc : s.runtimeCall call with
    | none =>
        rw [hc] at hr'
        exact h r' hr'
    | some c =>
        rw [hc] at hr'
        obtain ⟨r, hr, rfl⟩ := Option.map_eq_some_iff.mp hr'
        exact hcall r c hr hc (h r hr)

/-- The session after a bounded advance is the session after some of its rounds. -/
theorem advanceRounds_run (singleStep : Bool) (budget : Nat) (s : LiveMissionSession) :
    ∃ rounds ≤ budget, (advanceRounds singleStep budget s).2 =
      run LiveMissionSession.step s (List.replicate rounds (.advanceRound singleStep)) := by
  induction budget generalizing s with
  | zero => exact ⟨0, Nat.le_refl 0, rfl⟩
  | succ budget ih =>
      obtain ⟨rounds, hle, hrun⟩ := ih (s.advanceInternal singleStep).2
      unfold advanceRounds Attempt.andThen
      split
      · dsimp only
        split
        · exact ⟨1, by omega, rfl⟩
        · exact ⟨rounds + 1, by omega, hrun⟩
      · exact ⟨1, by omega, rfl⟩

theorem advanceBounded_run (s : LiveMissionSession) (maximumReleases : UInt32) :
    ∃ rounds ≤ s.budget maximumReleases, (s.advanceBounded maximumReleases).2 =
      run LiveMissionSession.step s
        (List.replicate rounds (.advanceRound (s.pace == .singleStep))) := by
  unfold advanceBounded
  split
  · exact ⟨0, Nat.zero_le _, rfl⟩
  · obtain ⟨rounds, hle, hrun⟩ :=
      advanceRounds_run (s.pace == .singleStep) (s.budget maximumReleases) s
    refine ⟨rounds, hle, ?_⟩
    unfold Attempt.andThen
    split <;> exact hrun

end Session

/-! ## What a call does to the runtime -/

namespace GnssLossRuntime

/-- The uplink machine under the runtime's package. -/
def uplinkView (r : GnssLossRuntime) : UplinkView := r.package.uplink.view

/-- The call a stage action makes of the uplink manager. -/
def stageCall (r : GnssLossRuntime) (load : UplinkCommandLoad) (completedEventMask : UInt32) :
    UplinkCall :=
  .stage load r.package.epoch completedEventMask r.package.inner.navigation
    ksaG10rReferenceOpsManifest ksaG10rReferenceMissionPlan

/-- What the manager finds wrong with the load of a stage action. -/
def stageReason (r : GnssLossRuntime) (load : UplinkCommandLoad) (completedEventMask : UInt32) :
    UplinkReasonCode :=
  validateStage load r.package.epoch completedEventMask r.package.inner.navigation
    ksaG10rReferenceOpsManifest ksaG10rReferenceMissionPlan

/-- The runtime flies the reference plan and follows the GNSS-loss procedure. -/
structure Equipped (r : GnssLossRuntime) : Prop where
  plan_eq : r.package.plan = some ksaG10rReferenceMissionPlan
  pack_eq : r.procedure.pack =
    gnssLossProcedurePack ksaG10rReferenceMissionPlan.planIdentity

/-- What a submission can do, each with what it takes: whether it fails, and the runtime it
leaves. -/
inductive SubmitMove (r : GnssLossRuntime) (role : OperationalRole) :
    MissionOperatorAction → Prop → GnssLossRuntime → Prop where
  | stage {load : UplinkCommandLoad} {mask : UInt32} {failed : Prop} {next : GnssLossRuntime}
      (hok : ¬failed)
      (hview : next.uplinkView = r.uplinkView.next (r.stageCall load mask))
      (hcopy : next.stagedLoad =
        if r.uplinkView.StageConfirmed load (r.stageReason load mask) then some load
        else r.stagedLoad)
      (hprocedure : next.procedure = r.procedure) :
      SubmitMove r role (.stage load mask) failed next
  | cancel {request : UplinkControlRecord} {failed : Prop} {next : GnssLossRuntime}
      (hok : ¬failed)
      (hview : next.uplinkView = r.uplinkView.next (.cancel request r.package.epoch))
      (hcopy : next.stagedLoad =
        if r.uplinkView.CancelConfirmed request then none else r.stagedLoad)
      (hprocedure : next.procedure = r.procedure) :
      SubmitMove r role (.cancel request) failed next
  /-- nothing to commit -/
  | unavailable {request : UplinkControlRecord} {failed : Prop}
      (hnone : r.stagedLoad = none) (hfailed : failed) :
      SubmitMove r role (.commit request) failed r
  /-- the manager does not commit -/
  | rejected {request : UplinkControlRecord} {failed : Prop} {next : GnssLossRuntime}
      {load : UplinkCommandLoad} (hstaged : r.stagedLoad = some load)
      (hconfirmed : ¬r.uplinkView.CommitConfirmed request r.package.epoch) (hok : ¬failed)
      (hview : next.uplinkView = r.uplinkView.next (.commit request r.package.epoch))
      (hcopy : next.stagedLoad = r.stagedLoad) (hprocedure : next.procedure = r.procedure) :
      SubmitMove r role (.commit request) failed next
  /-- the manager commits, and then the procedure refuses -/
  | refused {request : UplinkControlRecord} {failed : Prop} {next : GnssLossRuntime}
      {load : UplinkCommandLoad} (hstaged : r.stagedLoad = some load)
      (hconfirmed : r.uplinkView.CommitConfirmed request r.package.epoch)
      (haccepts : ¬r.procedure.Accepts role load.loadType) (hfailed : failed)
      (hview : next.uplinkView = r.uplinkView.next (.commit request r.package.epoch))
      (hcopy : next.stagedLoad = r.stagedLoad) (hprocedure : next.procedure = r.procedure) :
      SubmitMove r role (.commit request) failed next
  /-- both accept -/
  | accepted {request : UplinkControlRecord} {failed : Prop} {next : GnssLossRuntime}
      {load : UplinkCommandLoad} (hstaged : r.stagedLoad = some load)
      (hconfirmed : r.uplinkView.CommitConfirmed request r.package.epoch)
      (haccepts : r.procedure.Accepts role load.loadType) (hok : ¬failed)
      (hview : next.uplinkView = r.uplinkView.next (.commit request r.package.epoch))
      (hcopy : next.stagedLoad = none)
      (hprocedure : next.procedure =
        (r.procedure.acceptAction role r.releases load.loadType true).2) :
      SubmitMove r role (.commit request) failed next

variable {r : GnssLossRuntime} {role : OperationalRole}

@[simp] theorem logReceipt_procedure (record : UplinkControlRecord) :
    (r.logReceipt record).procedure = r.procedure := rfl

@[simp] theorem logReceipt_releases (record : UplinkControlRecord) :
    (r.logReceipt record).releases = r.releases := rfl

theorem submitStage_move (h : r.Equipped) (load : UplinkCommandLoad) (mask : UInt32) :
    SubmitMove r role (.stage load mask) (r.submitStage load mask).Failed
      (r.submitStage load mask).2 := by
  have hstage : (r.package.stageUplink load mask).1 =
      some (r.package.uplink.stage load r.package.epoch mask r.package.inner.navigation
        ksaG10rReferenceOpsManifest ksaG10rReferenceMissionPlan).1
      ∧ (r.package.stageUplink load mask).2.uplink =
        r.package.uplink.step (r.stageCall load mask) := by
    unfold KsaG10rReferenceOpsV1.stageUplink
    rw [h.plan_eq]
    exact ⟨rfl, rfl⟩
  have hview : (r.package.stageUplink load mask).2.uplink.view =
      r.uplinkView.next (r.stageCall load mask) := by
    rw [hstage.2, view_step]
    rfl
  have hreceipt := stage_receipt_staged r.package.uplink load r.package.epoch mask
    r.package.inner.navigation ksaG10rReferenceOpsManifest ksaG10rReferenceMissionPlan
  unfold submitStage
  dsimp only
  rw [hstage.1]
  dsimp only
  by_cases hstaged : (r.package.uplink.stage load r.package.epoch mask
      r.package.inner.navigation ksaG10rReferenceOpsManifest
      ksaG10rReferenceMissionPlan).1.state = .staged
  · rw [if_pos hstaged]
    exact .stage (Attempt.not_failed_of_ok rfl) hview (if_pos (hreceipt.mp hstaged)).symm rfl
  · rw [if_neg hstaged]
    exact .stage (Attempt.not_failed_of_ok rfl) hview
      (if_neg fun hconfirmed ↦ hstaged (hreceipt.mpr hconfirmed)).symm rfl

theorem submitCancel_move (h : r.Equipped) (request : UplinkControlRecord) :
    SubmitMove r role (.cancel request) (r.submitCancel request).Failed
      (r.submitCancel request).2 := by
  have hcancel : (r.package.cancelUplink request).1 =
      some (r.package.uplink.cancel request r.package.epoch).1
      ∧ (r.package.cancelUplink request).2.uplink =
        r.package.uplink.step (.cancel request r.package.epoch) := by
    unfold KsaG10rReferenceOpsV1.cancelUplink
    rw [h.plan_eq]
    exact ⟨rfl, rfl⟩
  have hview : (r.package.cancelUplink request).2.uplink.view =
      r.uplinkView.next (.cancel request r.package.epoch) := by
    rw [hcancel.2, view_step]
    rfl
  have hreceipt := cancel_receipt_cancelled r.package.uplink request r.package.epoch
  unfold submitCancel
  dsimp only
  rw [hcancel.1]
  dsimp only
  by_cases hcancelled :
      (r.package.uplink.cancel request r.package.epoch).1.state = .cancelled
  · rw [if_pos hcancelled]
    exact .cancel (Attempt.not_failed_of_ok rfl) hview (if_pos (hreceipt.mp hcancelled)).symm rfl
  · rw [if_neg hcancelled]
    exact .cancel (Attempt.not_failed_of_ok rfl) hview
      (if_neg fun hconfirmed ↦ hcancelled (hreceipt.mpr hconfirmed)).symm rfl

variable (role) in
/-- The procedure accepts an action exactly when it requests it of a role that may act. -/
theorem acceptAction_ok (h : r.Equipped) (action : UplinkLoadType) :
    (∃ error, (r.procedure.acceptAction role r.releases action true).1 = .error error
        ∧ ¬r.procedure.Accepts role action
        ∧ (r.procedure.acceptAction role r.releases action true).2 = r.procedure)
      ∨ (r.procedure.acceptAction role r.releases action true).1 = .ok ()
        ∧ r.procedure.Accepts role action := by
  by_cases haccepts : r.procedure.Accepts role action
  · obtain ⟨-, -, step, hstep, hkind, -⟩ := ProcedureEngine.accepts_iff.mp haccepts
    have hfound := hstep
    unfold ProcedureEngine.current at hfound
    rw [h.pack_eq] at hfound
    obtain ⟨hzero, hnext⟩ := gnssLoss_leadsOn _ hfound hkind
    rw [← h.pack_eq] at hnext
    exact .inr ⟨(ProcedureEngine.acceptAction_of_accepts _ haccepts hstep hzero hnext).1, haccepts⟩
  · obtain ⟨⟨error, herror⟩, hkept⟩ :=
      ProcedureEngine.acceptAction_of_not_accepts r.releases haccepts
    exact .inl ⟨error, herror, haccepts, hkept⟩

theorem submitCommit_move (h : r.Equipped) (request : UplinkControlRecord) :
    SubmitMove r role (.commit request) (r.submitCommit role request).Failed
      (r.submitCommit role request).2 := by
  have hcommit : (r.package.commitUplink request).1 =
      some (r.package.uplink.commit request r.package.epoch).1
      ∧ (r.package.commitUplink request).2.uplink =
        r.package.uplink.step (.commit request r.package.epoch) := by
    unfold KsaG10rReferenceOpsV1.commitUplink
    rw [h.plan_eq]
    exact ⟨rfl, rfl⟩
  have hview : (r.package.commitUplink request).2.uplink.view =
      r.uplinkView.next (.commit request r.package.epoch) := by
    rw [hcommit.2, view_step]
    rfl
  have hreceipt := commit_receipt_committed r.package.uplink request r.package.epoch
  unfold submitCommit
  cases hstaged : r.stagedLoad with
  | none => exact .unavailable hstaged ⟨_, rfl⟩
  | some load =>
      dsimp only
      rw [hcommit.1]
      dsimp only
      by_cases hcommitted :
          (r.package.uplink.commit request r.package.epoch).1.state = .committed
      · rw [if_pos hcommitted]
        have hconfirmed := hreceipt.mp hcommitted
        rw [logReceipt_procedure, logReceipt_releases]
        obtain ⟨error, herror, haccepts, hkept⟩ | ⟨hok, haccepts⟩ :=
          acceptAction_ok role h load.loadType
        · rw [herror]
          exact .refused hstaged hconfirmed haccepts ⟨_, rfl⟩ hview hstaged.symm hkept
        · rw [hok]
          exact .accepted hstaged hconfirmed haccepts (Attempt.not_failed_of_ok rfl) hview rfl rfl
      · rw [if_neg hcommitted]
        exact .rejected hstaged (fun hconfirmed ↦ hcommitted (hreceipt.mpr hconfirmed))
          (Attempt.not_failed_of_ok rfl) hview hstaged.symm rfl

/-- The receipt that follows a record does not change how the record came out. -/
theorem submit_eq (r : GnssLossRuntime) (role : OperationalRole)
    (action : MissionOperatorAction) :
    ((r.submit role action).Failed ↔ (r.submitRecord role action).Failed)
      ∧ (r.submit role action).2 = (r.submitRecord role action).2 := by
  unfold submit
  cases h : (r.submitRecord role action).1 with
  | error e =>
      rw [Attempt.andThen_error h]
      exact ⟨⟨fun _ ↦ ⟨e, h⟩, fun _ ↦ ⟨e, rfl⟩⟩, rfl⟩
  | ok record =>
      rw [Attempt.andThen_ok h]
      exact ⟨⟨fun hf ↦ absurd hf (Attempt.not_failed_of_ok rfl),
        fun hf ↦ absurd hf (Attempt.not_failed_of_ok h)⟩, rfl⟩

/-- Every submission does one of the six. -/
theorem submit_move (h : r.Equipped) (role : OperationalRole) (action : MissionOperatorAction) :
    SubmitMove r role action (r.submit role action).Failed (r.submit role action).2 := by
  rw [propext (submit_eq r role action).1, (submit_eq r role action).2]
  cases action with
  | stage load mask => exact submitStage_move h load mask
  | commit request => exact submitCommit_move h request
  | cancel request => exact submitCancel_move h request

/-- What two runtimes share that differ by a submission only. -/
structure SameFlight (r next : GnssLossRuntime) : Prop where
  plan_eq : next.package.plan = r.package.plan
  epoch_eq : next.package.epoch = r.package.epoch
  releases_eq : next.releases = r.releases
  ground_eq : next.ground = r.ground
  finalFlight_eq : next.finalFlight = r.finalFlight

/-- A submission concerns neither the flight nor the plan. -/
theorem submit_frame (r : GnssLossRuntime) (role : OperationalRole)
    (action : MissionOperatorAction) : SameFlight r (r.submit role action).2 := by
  rw [(submit_eq r role action).2]
  obtain ⟨hstage, hcommit, hcancel⟩ := command_frame r.package
  cases action with
  | stage load mask =>
      unfold submitRecord submitStage
      dsimp only
      obtain ⟨hplan, hepoch⟩ := hstage load mask
      split
      · exact ⟨hplan, hepoch, rfl, rfl, rfl⟩
      · dsimp only
        split <;> exact ⟨hplan, hepoch, rfl, rfl, rfl⟩
  | commit request =>
      unfold submitRecord submitCommit
      dsimp only
      obtain ⟨hplan, hepoch⟩ := hcommit request
      split
      · exact ⟨rfl, rfl, rfl, rfl, rfl⟩
      · split
        · exact ⟨hplan, hepoch, rfl, rfl, rfl⟩
        · split
          · split <;> exact ⟨hplan, hepoch, rfl, rfl, rfl⟩
          · exact ⟨hplan, hepoch, rfl, rfl, rfl⟩
  | cancel request =>
      unfold submitRecord submitCancel
      dsimp only
      obtain ⟨hplan, hepoch⟩ := hcancel request
      split
      · exact ⟨hplan, hepoch, rfl, rfl, rfl⟩
      · dsimp only
        split <;> exact ⟨hplan, hepoch, rfl, rfl, rfl⟩

/-- Ticks change the procedure only, and not its pack. -/
theorem tickProcedure_frame (snapshot : OperationalMetricSnapshot) (times : Nat)
    (r : GnssLossRuntime) :
    (tickProcedure snapshot times r).2 =
        { r with procedure := (tickProcedure snapshot times r).2.procedure }
      ∧ (tickProcedure snapshot times r).2.procedure.pack = r.procedure.pack := by
  induction times generalizing r with
  | zero => exact ⟨rfl, rfl⟩
  | succ times ih =>
      have hpack := ProcedureEngine.tick_pack (e := r.procedure) snapshot
      unfold tickProcedure
      dsimp only
      split
      · exact ⟨rfl, hpack⟩
      · obtain ⟨hframe, hkept⟩ := ih { r with procedure := (r.procedure.tick snapshot).2 }
        refine ⟨?_, hkept.trans hpack⟩
        rw [hframe]

/-- What a release does besides the procedure: a release of the package, if there is one
left. -/
theorem advanceOneRelease_frame (r : GnssLossRuntime) :
    (liveGnssLossMaxReleases ≤ r.releases → r.advanceOneRelease = (.error .lifecycle, r))
      ∧ (r.releases < liveGnssLossMaxReleases →
        r.advanceOneRelease.2.package =
            (r.package.processRelease (some (coastFast r.releases.toUInt16)) none none).2
          ∧ r.advanceOneRelease.2.stagedLoad = r.stagedLoad
          ∧ r.advanceOneRelease.2.procedure.pack = r.procedure.pack) := by
  unfold advanceOneRelease
  constructor
  · intro hlimit
    rw [if_pos hlimit]
  · intro hbelow
    rw [if_neg (UInt32.not_le.mpr hbelow)]
    dsimp only
    generalize r.package.processRelease (some (coastFast r.releases.toUInt16)) none none = released
    refine Attempt.andThen_keeps (P := fun t : GnssLossRuntime ↦ t.package = released.2
      ∧ t.stagedLoad = r.stagedLoad ∧ t.procedure.pack = r.procedure.pack) ?_ ?_
    · split
      · unfold estimateGround
        dsimp only
        split
        · exact ⟨rfl, rfl, rfl⟩
        · rename_i ground _
          obtain ⟨hframe, hpack⟩ := tickProcedure_frame
            (operationalSnapshot 0 released.1 ground.positionQ12Km) 3 { r with package := released.2 }
          refine Attempt.andThen_keeps (P := fun t : GnssLossRuntime ↦ t.package = released.2
            ∧ t.stagedLoad = r.stagedLoad ∧ t.procedure.pack = r.procedure.pack) ?_ ?_
          · exact ⟨by rw [hframe], by rw [hframe], hpack⟩
          · intro _ t ht
            exact ht
      · exact ⟨rfl, rfl, rfl⟩
    · intro _ t ht
      refine Attempt.andThen_keeps (P := fun t : GnssLossRuntime ↦ t.package = released.2
        ∧ t.stagedLoad = r.stagedLoad ∧ t.procedure.pack = r.procedure.pack) ?_ ?_
      · split
        · unfold monitor
          split
          · exact ht
          · split
            · exact ht
            · rename_i ground _ _ flight _
              obtain ⟨hframe, hpack⟩ := tickProcedure_frame
                (operationalSnapshot (t.releases + 1) flight ground.positionQ12Km) 1
                { t with finalFlight := some released.1, releases := t.releases + 1 }
              refine ⟨?_, ?_, hpack.trans ht.2.2⟩
              · rw [hframe]
                exact ht.1
              · rw [hframe]
                exact ht.2.1
        · exact ht
      · intro _ t ht
        exact ht

/-- A new runtime is equipped, has nothing staged, and is at release 0. -/
structure Fresh (r : GnssLossRuntime) : Prop where
  equipped : r.Equipped
  uplinkView_eq : r.uplinkView = ⟨none, 0⟩
  stagedLoad_eq : r.stagedLoad = none
  releases_eq : r.releases = 0
  epoch_eq : r.package.epoch = 0
  procedure_at : r.procedure.At
    (gnssLossProcedurePack ksaG10rReferenceMissionPlan.planIdentity) .active 1 0

theorem fresh_of_new {r : GnssLossRuntime} (hnew : GnssLossRuntime.new = .ok r) : r.Fresh := by
  unfold GnssLossRuntime.new at hnew
  split at hnew
  · cases hnew
  · rename_i package hpackage
    dsimp only at hnew
    split at hnew
    · cases hnew
    · rename_i hinitialized
      split at hnew
      · cases hnew
      · rename_i procedure hprocedure
        obtain ⟨_, -, hprocedure⟩ := bind_eq_ok.mp hprocedure
        obtain rfl := Except.ok.inj hprocedure
        obtain rfl := Except.ok.inj hnew
        obtain ⟨huplink, -⟩ := new_uplink hpackage
        obtain ⟨inner, -, hinner⟩ := Option.bind_eq_some_iff.mp hpackage
        have hepoch : package.epoch = 0 := by
          rw [← Option.some.inj hinner]
        have hstep := plan_step package (.initializeMissionPlan ksaG10rReferenceMissionPlan)
        revert hinitialized
        unfold KsaG10rReferenceOpsV1.initializeMissionPlan
        split
        · intro hinitialized
          exact absurd rfl hinitialized
        · intro _
          refine ⟨⟨rfl, rfl⟩, ?_, rfl, rfl, hepoch, ⟨rfl, rfl, rfl, rfl⟩⟩
          exact congrArg AtomicUplinkManager.view huplink

/-- Every call keeps the runtime equipped. -/
theorem Equipped.step {r : GnssLossRuntime} (h : r.Equipped) (role : OperationalRole)
    (c : RuntimeCall) : (r.step role c).Equipped := by
  cases c with
  | release =>
      obtain ⟨hlimit, hbelow⟩ := advanceOneRelease_frame r
      by_cases hreleases : liveGnssLossMaxReleases ≤ r.releases
      · have hkept : r.step role .release = r := congrArg Prod.snd (hlimit hreleases)
        rw [hkept]
        exact h
      · obtain ⟨hpackage, -, hpack⟩ := hbelow (UInt32.not_le.mp hreleases)
        exact {
          plan_eq := by
            refine (congrArg KsaG10rReferenceOpsV1.plan hpackage).trans ?_
            exact (processRelease_uplink r.package _ none none).2.1.trans h.plan_eq
          pack_eq := hpack.trans h.pack_eq }
  | submit action =>
      refine ⟨(submit_frame r role action).plan_eq.trans h.plan_eq, ?_⟩
      refine Eq.trans ?_ h.pack_eq
      change (r.submit role action).2.procedure.pack = r.procedure.pack
      have hmove := submit_move h role action
      generalize (r.submit role action).Failed = failed, (r.submit role action).2 = next at *
      cases hmove with
      | stage _ _ _ hprocedure | cancel _ _ _ hprocedure | rejected _ _ _ _ _ hprocedure
      | refused _ _ _ _ _ _ hprocedure => exact congrArg ProcedureEngine.pack hprocedure
      | unavailable _ _ => rfl
      | accepted _ _ _ _ _ _ hprocedure =>
          rw [hprocedure]
          exact ProcedureEngine.acceptAction_pack true

/-- What a release does to the uplink machine: a release of its own, unless the session is
at its limit. -/
theorem release_uplinkView {r : GnssLossRuntime} (h : r.Equipped) :
    r.advanceOneRelease.2.uplinkView =
        (if r.releases < liveGnssLossMaxReleases then
          r.uplinkView.next (.release r.package.epoch)
        else r.uplinkView)
      ∧ r.advanceOneRelease.2.stagedLoad = r.stagedLoad := by
  obtain ⟨hlimit, hbelow⟩ := advanceOneRelease_frame r
  split
  · rename_i hreleases
    obtain ⟨hpackage, hcopy, -⟩ := hbelow hreleases
    refine ⟨?_, hcopy⟩
    unfold uplinkView
    rw [hpackage, (processRelease_uplink r.package _ none none).1, h.plan_eq]
    exact view_step r.package.uplink (.release r.package.epoch)
  · rename_i hreleases
    rw [hlimit (UInt32.not_lt.mp hreleases)]
    exact ⟨rfl, rfl⟩

end GnssLossRuntime

/-! ## A session to run -/

/-- A GNSS-loss project of the given role. -/
def gnssLossProject (role : OperationalRole) : CompiledMissionProject where
  definitionIdentity := 1
  scenario := .gnssLoss
  package := .referenceOps
  role := role

/-- Its compiled session. -/
def gnssLossSession (role : OperationalRole) : LiveMissionSession where
  project := gnssLossProject role
  lifecycle := .compiled
  pace := .fast
  resumePace := .fast
  runtime := none
  completedEvidence := none
  events := [⟨1, 0, .compiled, 1⟩]
  telemetry := []

theorem compiled_gnssLossProject (role : OperationalRole) :
    LiveMissionSession.compiled (gnssLossProject role) = .ok (gnssLossSession role) := rfl

/-- The navigation update that is recommended after the first release. -/
def updateLoad : UplinkCommandLoad :=
  (run LiveMissionSession.step (gnssLossSession .flightController)
    [.prepare, .advanceOneRelease]).recommendedLoad.get (by decide +kernel)

/-- Prepare, fly a release, and stage and commit the update. -/
def updateCalls : List SessionCall :=
  [.prepare, .advanceOneRelease, .submit (.stage updateLoad 0),
    .submit (.commit (commitRequest updateLoad 1))]

end Ksa64.Session
