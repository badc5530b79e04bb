import Ksa64.Library.Run
import Ksa64.Session.FullMission

/-!
# Runs of the full mission session

A session is driven by calls in any order, and every advance brings an answer of the world.
`MissionDesk` is the part of the session that the operator's commands live in; this file
says once what a submission (`SubmitMove`) and an advance (`AdvanceMove`) do to it.

A submission that fails changes nothing.  An advance can fail after the package has taken
its release and before the session has counted it; then the two disagree on the epoch.
-/

namespace Ksa64.Session

open Ksa64.Library Ksa64.Interface Ksa64.Sim Ksa64.Flight FullMissionSession

/-- A call of the session. -/
inductive FullMissionCall where
  | prepare (world : Except GlobalWorldError InitialWorld)
  | setPace (pace : MissionSessionPace)
  | pause
  | resume
  | advanceOneRelease (answer : WorldAnswer)
  | stepOneRelease (answer : WorldAnswer)
  /-- a round of a bounded advance -/
  | advanceRound (singleStep : Bool) (answer : WorldAnswer)
  | submit (action : MissionOperatorAction)
  | abort (reasonIdentity : UInt32)

/-- The part of the session that commands live in. -/
structure MissionDesk where
  role : OperationalRole
  runner : Option GlobalPackageAvionicsMission
  stagedLoad : Option UplinkCommandLoad
  selectedBranch : UInt8
  releaseEpoch : UInt32
  globalDisplay : GlobalDisplayPublisher
  pendingNavigationResetRelease : Option UInt32
  completed : Option FullMissionCompletion

/-- The display of a release, marked as a reset if one was announced for it, and the
announcement after it. -/
def MissionDesk.publish (d : MissionDesk) (epoch : UInt32) (answer : WorldAnswer) :
    MissionDesk :=
  let announced : Bool := d.pendingNavigationResetRelease = some epoch
  { d with
    globalDisplay :=
      (if announced then d.globalDisplay.markNavigationReset else d.globalDisplay).publish epoch {
        frame := answer.snapshot.frame
        segment := answer.snapshot.segment
        events := answer.snapshot.events
        lineages := answer.lineages
        terminal := answer.complete }
    pendingNavigationResetRelease :=
      if announced then none else d.pendingNavigationResetRelease }

/-- The desk after a release that the session counts. -/
def MissionDesk.release (d : MissionDesk) (epoch : UInt32) (answer : WorldAnswer) :
    MissionDesk :=
  { { d with
      stagedLoad := d.stagedLoad.filter fun load ↦ epoch ≤ load.expiresEpoch }.publish epoch
        answer with
    releaseEpoch := addSat32 d.releaseEpoch 1 }

/-- The desk with what a committed load announces. -/
def MissionDesk.announce (d : MissionDesk) (load : UplinkCommandLoad) : MissionDesk :=
  match load.loadType with
  | .contingencyBranch => { d with selectedBranch := clampU8 (getElem load.arguments 0 Arguments.first_lt) }
  | .groundNavigationUpdate =>
      { d with pendingNavigationResetRelease := some load.requestedEffectiveEpoch }
  | _ => d

namespace FullMissionSession

/-- The session after the call. -/
def step (s : FullMissionSession) : FullMissionCall → FullMissionSession
  | .prepare world => (s.prepare world).2
  | .setPace pace => (s.setPace pace).2
  | .pause => s.pause.2
  | .resume => s.resume.2
  | .advanceOneRelease answer => (s.advanceOneRelease answer).2
  | .stepOneRelease answer => (s.stepOneRelease answer).2
  | .advanceRound singleStep answer => (s.advanceInternal singleStep answer).2
  | .submit action => (s.submitOperatorAction action).2
  | .abort reasonIdentity => (s.abort reasonIdentity).2

def desk (s : FullMissionSession) : MissionDesk where
  role := s.role
  runner := s.runner
  stagedLoad := s.stagedLoad
  selectedBranch := s.selectedBranch
  releaseEpoch := s.releaseEpoch
  globalDisplay := s.globalDisplay
  pendingNavigationResetRelease := s.pendingNavigationResetRelease
  completed := s.completed

/-- The answer of the world to a call that advances. -/
def answerTo (s : FullMissionSession) : FullMissionCall → Option WorldAnswer
  | .advanceOneRelease answer => if s.lifecycle = .paused then none else some answer
  | .stepOneRelease answer | .advanceRound _ answer => some answer
  | _ => none

/-- The cells an advance brings to the package: an open session releases, up to its limit. -/
def cellsOf (s : FullMissionSession) (answer : WorldAnswer) : Option ReleaseCells :=
  if s.isOpen ∧ s.releaseEpoch < fullMissionMaxReleases then answer.cells.toOption else none

/-- The advance is one of the package, and then fails before the session counts the release:
an error of the navigation or the acceleration cannot be measured, or the update cannot. -/
def losesAdvance (s : FullMissionSession) (answer : WorldAnswer) : Bool :=
  (s.cellsOf answer).isSome && s.runner.any fun runner ↦
    !((runner.releaseBundle answer.cells).1.isOk && answer.update.isOk)

/-- The cells a call brings to the package. -/
def releasedCells (s : FullMissionSession) (call : FullMissionCall) : Option ReleaseCells :=
  (s.answerTo call).bind s.cellsOf

/-- The call advances the package and not the session. -/
def losesRelease (s : FullMissionSession) (call : FullMissionCall) : Bool :=
  (s.answerTo call).any s.losesAdvance

/-- The load that a call makes the package hand out for execution. -/
def executed (s : FullMissionSession) (call : FullMissionCall) : Option UplinkCommandLoad :=
  (s.releasedCells call).bind fun cells ↦ s.runner.bind fun runner ↦
    runner.package.handedOut (.release cells.fast (some cells.aid) cells.transition)

end FullMissionSession

/-! ## The stages of an advance and the desk -/

section Stages

variable (s : FullMissionSession) (epoch : UInt32)

@[simp] theorem desk_record (kind : MissionSessionEventKind) (detail : UInt32) :
    (s.record kind detail).desk = s.desk := rfl

@[simp] theorem desk_timelineEvent (source : TimelineSource) (severity : UInt8)
    (identity : UInt32) (label : String) :
    (s.timelineEvent epoch source severity identity label).desk = s.desk := rfl

theorem desk_expireStaged : (s.expireStaged epoch).desk =
    { s.desk with stagedLoad := s.stagedLoad.filter fun load ↦ epoch ≤ load.expiresEpoch } := by
  obtain ⟨project, role, lifecycle, pace, resumePace, runner, procedure, estimator, observations,
    estimates, ground, flight, transcript, _ | load, rest⟩ := s
  · rfl
  · unfold expireStaged
    dsimp only
    by_cases h : load.expiresEpoch < epoch
    · rw [if_pos h, Option.filter_some, if_neg (by simpa using h)]
      rfl
    · rw [if_neg h, Option.filter_some, if_pos (by simpa using h)]
      rfl

@[simp] theorem desk_countFixes (aid : Option GlobalAidFrameCell) :
    (s.countFixes epoch aid).desk = s.desk := by
  unfold countFixes
  split
  · rfl
  · split_ifs <;> rfl

@[simp] theorem desk_observeGround (snapshot : GlobalWorldSnapshot) :
    (s.observeGround epoch snapshot).desk = s.desk := by
  unfold observeGround
  dsimp only
  split <;> rfl

@[simp] theorem desk_estimateOn (observation : GroundTrackingObservation) :
    (s.estimateOn epoch observation).desk = s.desk := by
  unfold estimateOn
  dsimp only
  split <;> rfl

@[simp] theorem desk_drainObservations (observations : List GroundTrackingObservation) :
    (drainObservations epoch observations s).desk = s.desk := by
  induction observations generalizing s with
  | nil => rfl
  | cons observation rest ih =>
      unfold drainObservations
      split
      · rw [ih, desk_estimateOn]
      · rfl

@[simp] theorem desk_noteGnss : (s.noteGnss epoch).desk = s.desk := by
  unfold noteGnss
  dsimp only
  split_ifs <;> rfl

@[simp] theorem desk_openProcedure : (s.openProcedure epoch).2.desk = s.desk := by
  unfold openProcedure
  split
  · split <;> rfl
  · rfl

@[simp] theorem desk_noteProcedure (prior next : ProcedureEngine) :
    (s.noteProcedure epoch prior next).desk = s.desk := by
  unfold noteProcedure
  split <;> rfl

@[simp] theorem desk_tickProcedure : (s.tickProcedure epoch).2.desk = s.desk := by
  unfold tickProcedure
  split
  · rfl
  · dsimp only
    split
    · rfl
    · split
      · rfl
      · exact desk_noteProcedure ..

@[simp] theorem desk_noteTransition (snapshot : GlobalWorldSnapshot) :
    (s.noteTransition epoch snapshot).desk = s.desk := by
  unfold noteTransition
  split <;> rfl

theorem desk_publishRelease (answer : WorldAnswer) :
    (s.publishRelease epoch answer).desk = s.desk.publish epoch answer := by
  unfold publishRelease MissionDesk.publish
  by_cases h : s.pendingNavigationResetRelease = some epoch
  · have hdesk : s.desk.pendingNavigationResetRelease = some epoch := h
    simp only [if_pos h, hdesk, decide_true, if_true]
    rfl
  · have hdesk : ¬s.desk.pendingNavigationResetRelease = some epoch := h
    simp only [if_neg h, hdesk, decide_false, Bool.false_eq_true, if_false]
    rfl

theorem desk_countRelease :
    s.countRelease.desk = { s.desk with releaseEpoch := addSat32 s.desk.releaseEpoch 1 } := rfl

end Stages

/-! ## What guides the session -/

/-- The procedure walks the mission's pack, the latest estimate is the last one made, and a
session that is not prepared has no runner. -/
structure Guided (s : FullMissionSession) : Prop where
  onMission : ∀ e, s.procedure = some e → e.OnMission
  ground : s.latestGround = s.estimates.getLast?
  unprepared : s.lifecycle = .compiled → s.runner = none

section Guided

variable {s : FullMissionSession} (h : Guided s) (epoch : UInt32)
include h

theorem Guided.expireStaged : Guided (s.expireStaged epoch) := by
  unfold FullMissionSession.expireStaged
  split
  · exact h
  · split
    · exact ⟨h.onMission, h.ground, h.unprepared⟩
    · exact h

theorem Guided.countFixes (aid : Option GlobalAidFrameCell) :
    Guided (s.countFixes epoch aid) := by
  unfold FullMissionSession.countFixes
  split
  · exact h
  · split_ifs <;> exact ⟨h.onMission, h.ground, h.unprepared⟩

theorem Guided.observeGround (snapshot : GlobalWorldSnapshot) :
    Guided (s.observeGround epoch snapshot) := by
  unfold FullMissionSession.observeGround
  dsimp only
  split
  · exact ⟨h.onMission, h.ground, h.unprepared⟩
  · exact h

theorem Guided.estimateOn (observation : GroundTrackingObservation) :
    Guided (s.estimateOn epoch observation) := by
  unfold FullMissionSession.estimateOn
  dsimp only
  split
  · exact ⟨h.onMission, h.ground, h.unprepared⟩
  · exact ⟨h.onMission, List.getLast?_concat.symm, h.unprepared⟩

omit h in
theorem Guided.drainObservations (h : Guided s) (observations : List GroundTrackingObservation) :
    Guided (drainObservations epoch observations s) := by
  induction observations generalizing s with
  | nil => exact ⟨h.onMission, h.ground, h.unprepared⟩
  | cons observation rest ih =>
      unfold FullMissionSession.drainObservations
      split
      · exact ih (h.estimateOn epoch observation)
      · exact ⟨h.onMission, h.ground, h.unprepared⟩

theorem Guided.noteGnss : Guided (s.noteGnss epoch) := by
  unfold FullMissionSession.noteGnss
  dsimp only
  split_ifs <;> exact ⟨h.onMission, h.ground, h.unprepared⟩

/-- The procedure opens without an error. -/
theorem Guided.openProcedure :
    (s.openProcedure epoch).1 = .ok () ∧ Guided (s.openProcedure epoch).2 := by
  unfold FullMissionSession.openProcedure
  split
  · obtain ⟨e, hnew, honMission, -⟩ := ProcedureEngine.new_onMission epoch
    rw [hnew]
    exact ⟨rfl, fun e' he' ↦ Option.some.inj he' ▸ honMission, h.ground, h.unprepared⟩
  · exact ⟨rfl, h⟩

theorem Guided.noteProcedure (prior next : ProcedureEngine) :
    Guided (s.noteProcedure epoch prior next) := by
  unfold FullMissionSession.noteProcedure
  split
  · exact ⟨h.onMission, h.ground, h.unprepared⟩
  · exact h

/-- The session with its procedure replaced by one of the mission. -/
theorem Guided.setProcedure {e : ProcedureEngine} (he : e.OnMission) :
    Guided { s with procedure := some e } :=
  ⟨fun _ he' ↦ Option.some.inj he' ▸ he, h.ground, h.unprepared⟩

/-- The procedure ticks without an error. -/
theorem Guided.tickProcedure :
    (s.tickProcedure epoch).1 = .ok () ∧ Guided (s.tickProcedure epoch).2 := by
  unfold FullMissionSession.tickProcedure
  split
  · exact ⟨rfl, h⟩
  · rename_i procedure hprocedure
    have hexpired : ∀ expired : ProcedureEngine.Outcome Unit,
        expired = (if decisionWindowCloseRelease < epoch then procedure.expireAt epoch
          else (.ok (), procedure)) →
        expired.1 = .ok () ∧ expired.2.OnMission := by
      rintro expired rfl
      split
      · exact (h.onMission procedure hprocedure).expireAt epoch
      · exact ⟨rfl, h.onMission procedure hprocedure⟩
    obtain ⟨hok, honMission⟩ := hexpired _ rfl
    generalize (if decisionWindowCloseRelease < epoch then procedure.expireAt epoch
      else (.ok (), procedure)) = expired at *
    obtain ⟨hticked, hnext⟩ := honMission.tick (s.metrics epoch)
    dsimp only
    rw [hok]
    dsimp only
    rw [hticked]
    exact ⟨rfl, (h.setProcedure hnext).noteProcedure epoch _ _⟩

theorem Guided.publishRelease (answer : WorldAnswer) :
    Guided (s.publishRelease epoch answer) := by
  unfold FullMissionSession.publishRelease
  dsimp only
  split <;> exact ⟨h.onMission, h.ground, h.unprepared⟩

theorem Guided.noteTransition (snapshot : GlobalWorldSnapshot) :
    Guided (s.noteTransition epoch snapshot) := by
  unfold FullMissionSession.noteTransition
  split
  · exact ⟨h.onMission, h.ground, h.unprepared⟩
  · exact h

theorem Guided.countRelease : Guided s.countRelease := ⟨h.onMission, h.ground, h.unprepared⟩

/-- Between the release of the package and its count nothing fails. -/
theorem takeRelease_spec (bundle : GlobalReleaseBundle) (answer : WorldAnswer) :
    (s.takeRelease epoch bundle answer).1 = .ok ()
      ∧ Guided (s.takeRelease epoch bundle answer).2
      ∧ (s.takeRelease epoch bundle answer).2.desk = s.desk.release epoch answer := by
  have hflight : Guided { s with latestFlight := some bundle.evidence } :=
    ⟨h.onMission, h.ground, h.unprepared⟩
  have hseen := ((hflight.expireStaged epoch).countFixes epoch bundle.aid).observeGround epoch
    answer.snapshot
  unfold takeRelease
  dsimp only
  generalize hs₁ : ((({ s with latestFlight := some bundle.evidence } :
    FullMissionSession).expireStaged epoch).countFixes epoch bundle.aid).observeGround epoch
      answer.snapshot = s₁ at *
  have hnoted := (hseen.drainObservations epoch s₁.pendingObservations).noteGnss epoch
  obtain ⟨hopen, hopened⟩ := hnoted.openProcedure epoch
  rw [Attempt.andThen_ok hopen]
  obtain ⟨htick, hticked⟩ := hopened.tickProcedure epoch
  rw [Attempt.andThen_ok htick]
  refine ⟨rfl, ((hticked.publishRelease epoch answer).noteTransition epoch _).countRelease, ?_⟩
  have hdesk : s₁.desk =
      { s.desk with stagedLoad := s.stagedLoad.filter fun load ↦ epoch ≤ load.expiresEpoch } := by
    rw [← hs₁, desk_observeGround, desk_countFixes, desk_expireStaged]
    rfl
  have hlast : (((((drainObservations epoch s₁.pendingObservations s₁).noteGnss
      epoch).openProcedure epoch).2.tickProcedure epoch).2.publishRelease epoch answer).desk =
        s₁.desk.publish epoch answer := by
    rw [desk_publishRelease, desk_tickProcedure, desk_openProcedure, desk_noteGnss,
      desk_drainObservations]
  rw [desk_countRelease, desk_noteTransition, hlast, hdesk]
  rfl

end Guided

/-! ## What an advance does -/

section Advance

variable {s : FullMissionSession} {r : GlobalPackageAvionicsMission} {cells : ReleaseCells}

/-- The release of the package that the cells bring. -/
def releaseOf (cells : ReleaseCells) : PackageCall :=
  .release cells.fast (some cells.aid) cells.transition

/-- A completed mission is classified as the alternate one by its selected branch. -/
theorem alternate_dispositionAxes (evidence : SessionRunEvidence) (outcome : EvaluationOutcome)
    (h : (classifyDisposition (s.dispositionAxes evidence outcome)).Alternate) :
    s.selectedBranch = 2 := by
  by_contra hbranch
  have hoperator : ∀ state, operatorDisposition evidence state s.selectedBranch ≠
      .timelyAlternate := by
    intro state
    unfold operatorDisposition
    dsimp only
    rw [if_neg hbranch]
    split_ifs <;> exact OperatorDisposition.noConfusion
  unfold OperationalDispositionView.Alternate classifyDisposition dispositionAxes at h
  simp only [hbranch, decide_false, Bool.false_eq_true, if_false] at h
  rcases h with h | h | h | h | h
  · split at h <;> cases h
  · split at h <;> cases h
  · unfold procedureDisposition at h
    split at h <;> cases h
  · exact hoperator _ h
  · split at h <;> cases h

/-- Completing leaves the desk alone, but for the completion itself. -/
theorem complete_desk (completion : Except MissionSessionError EvaluationOutcome) :
    (s.complete completion).2.desk = s.desk
      ∨ ∃ outcome c, completion = .ok outcome ∧ (c.disposition.Alternate → s.selectedBranch = 2)
        ∧ (s.complete completion).2.desk = { s.desk with completed := some c } := by
  unfold complete
  split
  · exact .inl rfl
  · split
    · exact .inl rfl
    · split
      · exact .inl rfl
      · rename_i outcome
        exact .inr ⟨outcome, _, rfl, alternate_dispositionAxes _ outcome, rfl⟩

/-- The end of an advance leaves the desk alone, but for the completion. -/
theorem conclude_desk (answer : WorldAnswer) :
    (s.conclude answer).2.desk = s.desk
      ∨ ∃ outcome c, answer.complete = true ∧ answer.completion = .ok outcome
        ∧ (c.disposition.Alternate → s.selectedBranch = 2)
        ∧ (s.conclude answer).2.desk = { s.desk with completed := some c } := by
  unfold conclude
  split
  · rename_i hcomplete
    refine (complete_desk answer.completion).imp id ?_
    rintro ⟨outcome, c, hok, halternate, hdesk⟩
    exact ⟨outcome, c, hcomplete, hok, halternate, hdesk⟩
  · split <;> exact .inl rfl

/-- What an advance can do to the desk. -/
inductive AdvanceMove (s : FullMissionSession) (answer : WorldAnswer)
    (next : FullMissionSession) : Prop where
  | kept (hcells : s.cellsOf answer = none ∨ s.runner = none) (hdesk : next.desk = s.desk)
  /-- the package has taken the release, the session has not counted it -/
  | lost {r r' : GlobalPackageAvionicsMission} {cells : ReleaseCells}
      (hcells : s.cellsOf answer = some cells) (hrunner : s.runner = some r)
      (hpackage : r'.package = r.package.step (releaseOf cells))
      (hlost : s.losesAdvance answer = true)
      (hdesk : next.desk = { s.desk with runner := some r' })
  | counted {r r' : GlobalPackageAvionicsMission} {cells : ReleaseCells}
      {completed : Option FullMissionCompletion}
      (hcells : s.cellsOf answer = some cells) (hrunner : s.runner = some r)
      (hpackage : r'.package = r.package.step (releaseOf cells))
      (hlost : s.losesAdvance answer = false)
      (hdesk : next.desk = { s.desk.release s.releaseEpoch answer with
        runner := some r', completed := completed })
      (hcompleted : completed = s.completed ∨ ∃ outcome c, answer.complete = true
        ∧ answer.completion = .ok outcome ∧ completed = some c
        ∧ (c.disposition.Alternate → s.selectedBranch = 2))

/-- An advance is judged by the desk it leaves. -/
theorem AdvanceMove.congr {s next t : FullMissionSession} {answer : WorldAnswer}
    (h : AdvanceMove s answer next) (hdesk : t.desk = next.desk) : AdvanceMove s answer t := by
  cases h with
  | kept hcells hkept => exact .kept hcells (hdesk.trans hkept)
  | lost hcells hrunner hpackage hlost hnext =>
      exact .lost hcells hrunner hpackage hlost (hdesk.trans hnext)
  | counted hcells hrunner hpackage hlost hnext hcompleted =>
      exact .counted hcells hrunner hpackage hlost (hdesk.trans hnext) hcompleted

/-- A release of the runner takes the package with it, whatever it answers. -/
theorem releaseBundle_package (r : GlobalPackageAvionicsMission) (cells : ReleaseCells) :
    (r.releaseBundle (.ok cells)).2.package = r.package.step (releaseOf cells) := by
  unfold GlobalPackageAvionicsMission.releaseBundle
  dsimp only
  split <;> rfl

/-- The release of the runner moves the runner only, and fails when it loses the release. -/
theorem releaseRunner_spec (answer : WorldAnswer) :
    (s.releaseRunner r answer).2 = { s with runner := some (r.releaseBundle answer.cells).2 }
      ∧ ((∃ bundle, (s.releaseRunner r answer).1 = .ok bundle)
          ∧ ((r.releaseBundle answer.cells).1.isOk && answer.update.isOk) = true
        ∨ (s.releaseRunner r answer).Failed
          ∧ ((r.releaseBundle answer.cells).1.isOk && answer.update.isOk) = false) := by
  unfold releaseRunner Attempt.Failed
  dsimp only
  cases hbundle : (r.releaseBundle answer.cells).1 with
  | error e => exact ⟨rfl, .inr ⟨⟨_, rfl⟩, rfl⟩⟩
  | ok bundle =>
      cases answer.update with
      | error e => exact ⟨rfl, .inr ⟨⟨_, rfl⟩, rfl⟩⟩
      | ok => exact ⟨rfl, .inl ⟨⟨bundle, rfl⟩, rfl⟩⟩

/-- The rest of an advance that has begun. -/
def fly (s : FullMissionSession) (r : GlobalPackageAvionicsMission) (epoch : UInt32)
    (singleStep : Bool) (answer : WorldAnswer) : Outcome Unit :=
  (s.releaseRunner r answer).andThen fun bundle s ↦
    (s.takeRelease epoch bundle answer).andThen fun _ s ↦
      (s.conclude answer).andThen fun _ s ↦
        if singleStep ∧ s.lifecycle ≠ .completed then (.ok (), { s with lifecycle := .paused })
        else (.ok (), s)

/-- What follows the count of a release does not concern the desk. -/
theorem fly_rest_desk (t : FullMissionSession) (singleStep : Bool) (answer : WorldAnswer) :
    ((t.conclude answer).andThen fun _ s ↦
      if singleStep ∧ s.lifecycle ≠ .completed then (.ok (), { s with lifecycle := .paused })
      else ((.ok (), s) : Outcome Unit)).2.desk = (t.conclude answer).2.desk :=
  Attempt.andThen_keeps (P := fun s : FullMissionSession ↦ s.desk = (t.conclude answer).2.desk) rfl
    fun _ s hs ↦ by split <;> exact hs

theorem guided_complete (h : Guided s)
    (completion : Except MissionSessionError EvaluationOutcome) :
    Guided (s.complete completion).2 := by
  unfold complete
  split
  · exact h
  · split
    · exact h
    · split
      · exact h
      · exact ⟨h.onMission, h.ground, fun hcompiled ↦ nomatch hcompiled⟩

theorem fly_rest_guided {t : FullMissionSession} (h : Guided t) (singleStep : Bool)
    (answer : WorldAnswer) :
    Guided ((t.conclude answer).andThen fun _ s ↦
      if singleStep ∧ s.lifecycle ≠ .completed then (.ok (), { s with lifecycle := .paused })
      else ((.ok (), s) : Outcome Unit)).2 := by
  refine Attempt.andThen_keeps ?_ fun _ s hs ↦ ?_
  · unfold conclude
    split
    · exact guided_complete h answer.completion
    · split <;> exact h
  · split
    · exact ⟨hs.onMission, hs.ground, fun hcompiled ↦ nomatch hcompiled⟩
    · exact hs

/-- The advance from a session with the desk of `s` on. -/
theorem fly_move {t : FullMissionSession} (h : Guided t) (hdesk : t.desk = s.desk)
    (hrunning : t.lifecycle = .running) (hrunner : s.runner = some r)
    (hadvances : s.isOpen ∧ s.releaseEpoch < fullMissionMaxReleases) (singleStep : Bool)
    (answer : WorldAnswer) :
    AdvanceMove s answer (fly t r s.releaseEpoch singleStep answer).2
      ∧ Guided (fly t r s.releaseEpoch singleStep answer).2 := by
  obtain ⟨hnext, hresult⟩ := @releaseRunner_spec t r answer
  have hnextDesk : (t.releaseRunner r answer).2.desk =
      { s.desk with runner := some (r.releaseBundle answer.cells).2 } := by
    rw [hnext, ← hdesk]
    rfl
  have hguided : Guided (t.releaseRunner r answer).2 := by
    rw [hnext]
    exact ⟨h.onMission, h.ground, fun hcompiled ↦ nomatch hrunning.symm.trans hcompiled⟩
  unfold fly
  cases hanswer : answer.cells with
  | error e =>
      have hfailed : (t.releaseRunner r answer).Failed := by
        refine (hresult.resolve_left ?_).1
        rintro ⟨-, hok⟩
        rw [hanswer] at hok
        exact Bool.false_ne_true hok
      have hcells : s.cellsOf answer = none := by
        rw [cellsOf, if_pos hadvances, hanswer]
        rfl
      have hsame : (t.releaseRunner r answer).2.desk = s.desk := by
        rw [hnextDesk, hanswer]
        show { s.desk with runner := some r } = s.desk
        rw [← hrunner]
        rfl
      rw [Attempt.andThen_of_failed hfailed]
      exact ⟨.kept (.inl hcells) hsame, hguided⟩
  | ok cells =>
      have hcells : s.cellsOf answer = some cells := by
        rw [cellsOf, if_pos hadvances, hanswer]
        rfl
      have hpackage := releaseBundle_package r cells
      rw [← hanswer] at hpackage
      have hloses : s.losesAdvance answer =
          !((r.releaseBundle answer.cells).1.isOk && answer.update.isOk) := by
        rw [losesAdvance, hcells, hrunner]
        rfl
      rcases hresult with ⟨⟨bundle, hbundle⟩, hok⟩ | ⟨hfailed, hfails⟩
      · rw [Attempt.andThen_ok hbundle]
        obtain ⟨htaken, hguidedTaken, hdeskTaken⟩ := takeRelease_spec hguided s.releaseEpoch bundle
          answer
        rw [Attempt.andThen_ok htaken]
        have hlost : s.losesAdvance answer = false := by
          rw [hloses, hok]
          rfl
        rw [hnextDesk] at hdeskTaken
        refine ⟨?_, fly_rest_guided hguidedTaken singleStep answer⟩
        rcases conclude_desk (s := ((t.releaseRunner r answer).2.takeRelease s.releaseEpoch bundle
          answer).2) answer with hrest | ⟨outcome, c, hcomplete, houtcome, halternate, hrest⟩
        · refine .counted hcells hrunner hpackage hlost ?_ (.inl rfl)
          rw [fly_rest_desk, hrest, hdeskTaken]
          rfl
        · refine .counted hcells hrunner hpackage hlost ?_
            (.inr ⟨outcome, c, hcomplete, houtcome, rfl, fun hc ↦ ?_⟩)
          · rw [fly_rest_desk, hrest, hdeskTaken]
            rfl
          · exact (congrArg MissionDesk.selectedBranch hdeskTaken).symm.trans (halternate hc)
      · rw [Attempt.andThen_of_failed hfailed]
        exact ⟨.lost hcells hrunner hpackage (by rw [hloses, hfails]; rfl) hnextDesk, hguided⟩

/-- The session after an advance. -/
theorem advanceInternal_move (h : Guided s) (singleStep : Bool) (answer : WorldAnswer) :
    AdvanceMove s answer (s.advanceInternal singleStep answer).2
      ∧ Guided (s.advanceInternal singleStep answer).2 := by
  unfold advanceInternal
  by_cases hopen : s.isOpen = true
  · by_cases hlimit : fullMissionMaxReleases ≤ s.releaseEpoch
    · rw [if_neg (by simp [hopen]), if_pos hlimit]
      have hcells : s.cellsOf answer = none := if_neg fun hboth ↦
        UInt32.not_lt.mpr hlimit hboth.2
      exact ⟨.kept (.inl hcells) rfl, h⟩
    · rw [if_neg (by simp [hopen]), if_neg hlimit]
      have hadvances : s.isOpen ∧ s.releaseEpoch < fullMissionMaxReleases :=
        ⟨hopen, UInt32.not_le.mp hlimit⟩
      dsimp only
      cases hrunner : s.runner with
      | none =>
          exact ⟨.kept (.inr hrunner) (by simp [desk, hrunner]), h.onMission, h.ground,
            fun _ ↦ rfl⟩
      | some r =>
          have hguided : Guided { s with lifecycle := .running, runner := some r } :=
            ⟨h.onMission, h.ground, fun hcompiled ↦ nomatch hcompiled⟩
          have hdesk : ({ s with lifecycle := .running, runner := some r } :
              FullMissionSession).desk = s.desk := by
            rw [← hrunner]
            rfl
          exact fly_move hguided hdesk rfl hrunner hadvances singleStep answer
  · rw [if_pos (by simpa using hopen)]
    have hcells : s.cellsOf answer = none := if_neg fun hboth ↦ hopen hboth.1
    exact ⟨.kept (.inl hcells) rfl, h⟩

end Advance

/-! ## What a receipt confirms -/

section Receipts

variable (m : AtomicUplinkManager) {p : PendingUplink}

/-- A confirmed stage call has its load staged. -/
theorem confirms_stage (load : UplinkCommandLoad) (epoch mask : UInt32)
    (navigation : GlobalNavigation) (manifest : FlightSoftwarePackageManifest)
    (plan : MissionPlan) :
    confirms (m.stage load epoch mask navigation manifest plan).1 .stageReceipt load.loadIdentity
        .staged = true ↔
      m.view.StageConfirmed load (validateStage load epoch mask navigation manifest plan) := by
  rw [← stage_receipt_staged]
  have hreceipt : ∀ receipt, (m.stage load epoch mask navigation manifest plan).1 = receipt →
      receipt.kind = .stageReceipt ∧ receipt.loadIdentity = load.loadIdentity
        ∧ (receipt.state = .staged → receipt.reason = .accepted) := by
    rintro receipt rfl
    unfold AtomicUplinkManager.stage
    by_cases hlast : m.lastExecutedIdentity = load.loadIdentity
    · rw [if_pos hlast]
      exact ⟨rfl, rfl, nofun⟩
    · rw [if_neg hlast]
      cases m.pending with
      | some pending =>
          dsimp only
          split
          · exact ⟨rfl, rfl, fun _ ↦ rfl⟩
          · exact ⟨rfl, rfl, nofun⟩
      | none =>
          dsimp only
          split
          · exact ⟨rfl, rfl, nofun⟩
          · exact ⟨rfl, rfl, fun _ ↦ rfl⟩
  obtain ⟨hkind, hload, hreason⟩ := hreceipt _ rfl
  unfold confirms
  rw [hkind, hload, beq_self_eq_true, beq_self_eq_true, Bool.true_and, Bool.true_and,
    Bool.and_eq_true, beq_iff_eq, beq_iff_eq]
  exact and_iff_left_of_imp hreason

/-- A confirmed commit names the pending load, and it is committed. -/
theorem confirms_commit (hpending : m.pending = some p) (request : UplinkControlRecord)
    (epoch identity : UInt32) :
    confirms (m.commit request epoch).1 .commitReceipt identity .committed = true ↔
      p.load.loadIdentity = identity ∧ m.view.CommitConfirmed request epoch := by
  rw [← commit_receipt_committed]
  have hreceipt : ∀ receipt, (m.commit request epoch).1 = receipt →
      receipt.kind = .commitReceipt ∧ receipt.loadIdentity = p.load.loadIdentity
        ∧ (receipt.state = .committed → receipt.reason = .accepted) := by
    rintro receipt rfl
    unfold AtomicUplinkManager.commit AtomicUplinkManager.receipt
    rw [hpending]
    dsimp only
    split_ifs
    · exact ⟨rfl, rfl, by rintro ⟨⟩⟩
    · exact ⟨rfl, rfl, fun _ ↦ rfl⟩
    · exact ⟨rfl, rfl, by rintro ⟨⟩⟩
    · exact ⟨rfl, rfl, fun _ ↦ rfl⟩
  obtain ⟨hkind, hload, hreason⟩ := hreceipt _ rfl
  unfold confirms
  rw [hkind, hload, beq_self_eq_true, Bool.true_and, Bool.and_eq_true, Bool.and_eq_true,
    beq_iff_eq, beq_iff_eq, beq_iff_eq]
  exact and_iff_left_of_imp fun h ↦ hreason h.2

/-- A confirmed cancellation names the pending load. -/
theorem confirms_cancel (hpending : m.pending = some p) (request : UplinkControlRecord)
    (epoch : UInt32) :
    confirms (m.cancel request epoch).1 .cancellation request.loadIdentity .cancelled = true ↔
      addresses request .cancellation p.load = true := by
  unfold AtomicUplinkManager.cancel AtomicUplinkManager.receipt
  rw [hpending]
  dsimp only
  cases haddr : addresses request .cancellation p.load with
  | false =>
      refine iff_of_false (fun hconfirms ↦ ?_) Bool.false_ne_true
      simp [confirms] at hconfirms
  | true =>
      have hload : request.loadIdentity = p.load.loadIdentity := by
        simp only [addresses, Bool.and_eq_true, beq_iff_eq] at haddr
        exact haddr.1.1.2
      simp [confirms, hload]

end Receipts

/-! ## What a submission does -/

section Submit

variable {s : FullMissionSession} {r : GlobalPackageAvionicsMission}

/-- The call of the package that an action asks for. -/
def packageCallOf : MissionOperatorAction → PackageCall
  | .stage load completedEventMask => .stage load completedEventMask
  | .commit request => .commit request
  | .cancel request => .cancel request

/-- What the manager finds wrong with the load of a stage action. -/
def stageReason (r : GlobalPackageAvionicsMission) (load : UplinkCommandLoad)
    (completedEventMask : UInt32) : UplinkReasonCode :=
  validateStage load r.package.epoch completedEventMask r.package.inner.navigation
    ksaG10rReferenceOpsManifest fullGnssLossMissionPlan

/-- What a submission that is answered does to the desk, the runner aside. -/
inductive SubmitMove (s : FullMissionSession) (r : GlobalPackageAvionicsMission) :
    MissionOperatorAction → MissionDesk → Prop where
  | staged {load : UplinkCommandLoad} {mask : UInt32} (hbound : s.loadBound load = true)
      (hconfirmed : r.package.uplink.view.StageConfirmed load (stageReason r load mask)) :
      SubmitMove s r (.stage load mask) { s.desk with stagedLoad := some load }
  | unstaged {load : UplinkCommandLoad} {mask : UInt32}
      (hconfirmed : ¬r.package.uplink.view.StageConfirmed load (stageReason r load mask)) :
      SubmitMove s r (.stage load mask) s.desk
  | committed {load : UplinkCommandLoad} {request : UplinkControlRecord}
      (hstaged : s.stagedLoad = some load) (haccepts : s.procedureAccepts load.loadType = true)
      (hconfirms : confirms (r.package.uplink.commit request r.package.epoch).1 .commitReceipt
        load.loadIdentity .committed = true) :
      SubmitMove s r (.commit request) { s.desk.announce load with stagedLoad := none }
  | uncommitted {load : UplinkCommandLoad} {request : UplinkControlRecord}
      (hstaged : s.stagedLoad = some load) (haccepts : s.procedureAccepts load.loadType = true)
      (hconfirms : confirms (r.package.uplink.commit request r.package.epoch).1 .commitReceipt
        load.loadIdentity .committed = false) :
      SubmitMove s r (.commit request) s.desk
  | cancelled {request : UplinkControlRecord}
      (hconfirms : confirms (r.package.uplink.cancel request r.package.epoch).1 .cancellation
        request.loadIdentity .cancelled = true) :
      SubmitMove s r (.cancel request) { s.desk with stagedLoad := none }
  | uncancelled {request : UplinkControlRecord}
      (hconfirms : confirms (r.package.uplink.cancel request r.package.epoch).1 .cancellation
        request.loadIdentity .cancelled = false) :
      SubmitMove s r (.cancel request) s.desk

/-- The submission is answered by the package, and its answer reaches the desk. -/
def Answered (s : FullMissionSession) (r : GlobalPackageAvionicsMission)
    (action : MissionOperatorAction) (t : FullMissionSession.Outcome UplinkControlRecord) : Prop :=
  (∃ record, t.1 = .ok record) ∧ Guided t.2 ∧ ∃ d,
    SubmitMove s r action d
      ∧ t.2.desk = { d with runner := some { r with package := r.package.step (packageCallOf action) } }

theorem Guided.withPackage (h : Guided s) (hrunner : s.runner = some r)
    (package : KsaG10rReferenceOpsV1) : Guided (s.withPackage r package) :=
  ⟨h.onMission, h.ground, fun hcompiled ↦ nomatch hrunner.symm.trans (h.unprepared hcompiled)⟩

theorem submitStage_answered (h : Guided s) (hrunner : s.runner = some r)
    (hplan : r.package.plan = some fullGnssLossMissionPlan) {load : UplinkCommandLoad}
    (hbound : s.loadBound load = true) (mask : UInt32) :
    Answered s r (.stage load mask) (s.submitStage r load mask) := by
  have hreceipt : (r.package.stageUplink load mask).1 = some (r.package.uplink.stage load
      r.package.epoch mask r.package.inner.navigation ksaG10rReferenceOpsManifest
      fullGnssLossMissionPlan).1 := by
    unfold KsaG10rReferenceOpsV1.stageUplink
    rw [hplan]
  have hiff := confirms_stage r.package.uplink load r.package.epoch mask
    r.package.inner.navigation ksaG10rReferenceOpsManifest fullGnssLossMissionPlan
  have hnext := h.withPackage hrunner (r.package.stageUplink load mask).2
  unfold submitStage
  dsimp only
  rw [hreceipt]
  dsimp only
  split
  · rename_i hconfirms
    exact ⟨⟨_, rfl⟩, ⟨hnext.onMission, hnext.ground, hnext.unprepared⟩, _, .staged hbound (hiff.mp hconfirms), rfl⟩
  · rename_i hconfirms
    exact ⟨⟨_, rfl⟩, ⟨hnext.onMission, hnext.ground, hnext.unprepared⟩, _, .unstaged fun hc ↦ hconfirms (hiff.mpr hc), rfl⟩

theorem submitCancel_answered (h : Guided s) (hrunner : s.runner = some r)
    (hplan : r.package.plan = some fullGnssLossMissionPlan) (request : UplinkControlRecord) :
    Answered s r (.cancel request) (s.submitCancel r request) := by
  have hreceipt : (r.package.cancelUplink request).1 =
      some (r.package.uplink.cancel request r.package.epoch).1 := by
    unfold KsaG10rReferenceOpsV1.cancelUplink
    rw [hplan]
  have hnext := h.withPackage hrunner (r.package.cancelUplink request).2
  unfold submitCancel
  dsimp only
  rw [hreceipt]
  dsimp only
  split
  · rename_i hconfirms
    exact ⟨⟨_, rfl⟩, ⟨hnext.onMission, hnext.ground, hnext.unprepared⟩, _, .cancelled hconfirms, rfl⟩
  · rename_i hconfirms
    exact ⟨⟨_, rfl⟩, ⟨hnext.onMission, hnext.ground, hnext.unprepared⟩, _,
      .uncancelled (Bool.eq_false_of_not_eq_true hconfirms), rfl⟩

theorem desk_announce (load : UplinkCommandLoad) :
    (s.announce load).desk = s.desk.announce load := by
  unfold FullMissionSession.announce MissionDesk.announce
  cases load.loadType <;> rfl

/-- An announcement concerns neither the role nor the procedure. -/
theorem announce_frame (load : UplinkCommandLoad) :
    (s.announce load).role = s.role ∧ (s.announce load).procedure = s.procedure := by
  unfold FullMissionSession.announce
  cases load.loadType <;> exact ⟨rfl, rfl⟩

theorem Guided.announce (h : Guided s) (load : UplinkCommandLoad) : Guided (s.announce load) := by
  unfold FullMissionSession.announce
  cases load.loadType <;> exact ⟨h.onMission, h.ground, h.unprepared⟩

theorem exists_of_any {α : Type} {o : Option α} {p : α → Bool} (h : o.any p = true) :
    ∃ a, o = some a ∧ p a = true := by
  cases o with
  | none => exact nomatch h
  | some a => exact ⟨a, rfl, h⟩

/-- The procedure takes an action that it names. -/
theorem acceptAction_spec (h : Guided s) (hrole : roleCanAct s.role = true) (epoch : UInt32)
    {action : UplinkLoadType} (haccepts : s.procedureAccepts action = true) :
    (s.acceptAction epoch action).1 = .ok () ∧ Guided (s.acceptAction epoch action).2
      ∧ (s.acceptAction epoch action).2.desk = s.desk := by
  unfold procedureAccepts at haccepts
  obtain ⟨procedure, hprocedure, haccepts⟩ := exists_of_any haccepts
  rw [Bool.and_eq_true, beq_iff_eq] at haccepts
  obtain ⟨hactive, hstep⟩ := haccepts
  obtain ⟨step, hcurrent, haction⟩ := exists_of_any hstep
  obtain ⟨hok, honMission⟩ := (h.onMission procedure hprocedure).acceptAction epoch
    hrole hactive hcurrent (beq_iff_eq.mp haction)
  unfold acceptAction
  rw [hprocedure]
  dsimp only
  rw [hok]
  exact ⟨rfl, h.setProcedure honMission, rfl⟩

theorem submitCommit_answered (h : Guided s) (hrole : roleCanAct s.role = true)
    (hrunner : s.runner = some r) (hplan : r.package.plan = some fullGnssLossMissionPlan) {load : UplinkCommandLoad}
    (hstaged : s.stagedLoad = some load) (haccepts : s.procedureAccepts load.loadType = true)
    (request : UplinkControlRecord) :
    Answered s r (.commit request) (s.submitCommit r request) := by
  have hreceipt : (r.package.commitUplink request).1 =
      some (r.package.uplink.commit request r.package.epoch).1 := by
    unfold KsaG10rReferenceOpsV1.commitUplink
    rw [hplan]
  have hnext := h.withPackage hrunner (r.package.commitUplink request).2
  unfold submitCommit
  rw [hstaged]
  dsimp only
  rw [hreceipt]
  dsimp only
  split
  · rename_i hconfirms
    generalize ht : s.withPackage r (r.package.commitUplink request).2 = t at *
    obtain ⟨hguided, hrole', hprocedure⟩ : Guided (t.announce load)
        ∧ (t.announce load).role = s.role ∧ (t.announce load).procedure = s.procedure := by
      subst ht
      exact ⟨hnext.announce load, (announce_frame load).1, (announce_frame load).2⟩
    have haccepts' : (t.announce load).procedureAccepts load.loadType = true := by
      unfold procedureAccepts
      rw [hprocedure]
      exact haccepts
    obtain ⟨hok, hguided', hdesk⟩ := acceptAction_spec hguided (hrole'.symm ▸ hrole)
      s.releaseEpoch haccepts'
    rw [show t.releaseEpoch = s.releaseEpoch by subst ht; rfl, Attempt.andThen_ok hok]
    refine ⟨⟨_, rfl⟩, ⟨hguided'.onMission, hguided'.ground, hguided'.unprepared⟩, _,
      .committed hstaged haccepts hconfirms, ?_⟩
    show { ((t.announce load).acceptAction s.releaseEpoch load.loadType).2.desk with
      stagedLoad := none } = _
    rw [hdesk, desk_announce]
    subst ht
    unfold MissionDesk.announce
    cases load.loadType <;> rfl
  · rename_i hconfirms
    exact ⟨⟨_, rfl⟩, ⟨hnext.onMission, hnext.ground, hnext.unprepared⟩, _,
      .uncommitted hstaged haccepts (Bool.eq_false_of_not_eq_true hconfirms), rfl⟩

/-- An admitted action is answered. -/
theorem submitRecord_answered (h : Guided s) (hrole : roleCanAct s.role = true)
    (hrunner : s.runner = some r) (hplan : r.package.plan = some fullGnssLossMissionPlan) {action : MissionOperatorAction}
    (hchecked : s.checkAction action = .ok ()) : Answered s r action (s.submitRecord r action) := by
  cases action with
  | stage load mask =>
      unfold checkAction at hchecked
      dsimp only at hchecked
      split at hchecked
      · rename_i hbound
        exact submitStage_answered h hrunner hplan hbound mask
      · cases hchecked
  | commit request =>
      unfold checkAction at hchecked
      dsimp only at hchecked
      cases hstaged : s.stagedLoad with
      | none =>
          rw [hstaged] at hchecked
          cases hchecked
      | some load =>
          rw [hstaged] at hchecked
          dsimp only at hchecked
          split at hchecked
          · rename_i haccepts
            exact submitCommit_answered h hrole hrunner hplan hstaged haccepts request
          · cases hchecked
  | cancel request => exact submitCancel_answered h hrunner hplan request

/-- What a submission can do: fail without a trace, or be answered. -/
inductive SubmitResult (s : FullMissionSession) (action : MissionOperatorAction) : Prop where
  | failed (hfailed : (s.submitOperatorAction action).Failed)
      (hsame : (s.submitOperatorAction action).2 = s)
  | answered {r : GlobalPackageAvionicsMission} {d : MissionDesk}
      (hok : ¬(s.submitOperatorAction action).Failed) (hrole : roleCanAct s.role = true)
      (hrunner : s.runner = some r) (hmove : SubmitMove s r action d)
      (hdesk : (s.submitOperatorAction action).2.desk =
        { d with runner := some { r with package := r.package.step (packageCallOf action) } })
      (hguided : Guided (s.submitOperatorAction action).2)

/-- Only an open session answers a submission. -/
theorem isOpen_of_submitted {action : MissionOperatorAction}
    (hok : ¬(s.submitOperatorAction action).Failed) : s.isOpen = true := by
  by_contra hclosed
  refine hok ⟨.lifecycle, ?_⟩
  unfold submitOperatorAction
  rw [if_pos (by simpa using hclosed)]

/-- An open session answers an action that its checks pass. -/
theorem submit_answered (h : Guided s) (hopen : s.isOpen = true) (hrole : roleCanAct s.role = true)
    (hrunner : s.runner = some r) (hplan : r.package.plan = some fullGnssLossMissionPlan)
    {action : MissionOperatorAction} (hchecked : s.checkAction action = .ok ()) :
    ∃ record, (s.submitRecord r action).1 = .ok record
      ∧ s.submitOperatorAction action = (.ok ⟨record, recordAccepted record⟩,
        (s.submitRecord r action).2.logAction s.releaseEpoch s.procedureStep record)
      ∧ Answered s r action (s.submitRecord r action) := by
  have hanswered := submitRecord_answered h hrole hrunner hplan hchecked
  obtain ⟨record, hrecord⟩ := hanswered.1
  refine ⟨record, hrecord, ?_, hanswered⟩
  unfold submitOperatorAction
  rw [if_neg (by simp [hopen]), if_neg (by simp [hrole]), hchecked]
  dsimp only
  rw [hrunner]
  dsimp only
  rw [Attempt.andThen_ok hrecord]

theorem submit_result (h : Guided s)
    (hplan : ∀ r, s.runner = some r → r.package.plan = some fullGnssLossMissionPlan)
    (action : MissionOperatorAction) : SubmitResult s action := by
  have hstop : ∀ e, s.submitOperatorAction action = (.error e, s) → SubmitResult s action := by
    intro e he
    exact .failed ⟨e, by rw [he]⟩ (by rw [he])
  by_cases hopen : s.isOpen = true
  · by_cases hrole : roleCanAct s.role = true
    · cases hchecked : s.checkAction action with
      | error e =>
          refine hstop e ?_
          unfold submitOperatorAction
          rw [if_neg (by simp [hopen]), if_neg (by simp [hrole]), hchecked]
      | ok =>
          cases hrunner : s.runner with
          | none =>
              refine hstop .lifecycle ?_
              unfold submitOperatorAction
              rw [if_neg (by simp [hopen]), if_neg (by simp [hrole]), hchecked]
              dsimp only
              rw [hrunner]
          | some r =>
              obtain ⟨record, -, hsubmit, -, hguided, d, hmove, hdesk⟩ :=
                submit_answered h hopen hrole hrunner (hplan r hrunner) hchecked
              refine .answered (Attempt.not_failed_of_ok (by rw [hsubmit])) hrole hrunner hmove ?_ ?_
              · rw [hsubmit]
                exact hdesk
              · rw [hsubmit]
                exact ⟨hguided.onMission, hguided.ground, hguided.unprepared⟩
    · refine hstop .actionRejected ?_
      unfold submitOperatorAction
      rw [if_neg (by simp [hopen]), if_pos (by simpa using hrole)]
  · refine hstop .lifecycle ?_
    unfold submitOperatorAction
    rw [if_pos (by simpa using hopen)]

end Submit

/-! ## What a call does -/

section Calls

variable {s : FullMissionSession}

/-- A session with the desk and the guides of another, in a lifecycle past `compiled`. -/
theorem Guided.relabel {t : FullMissionSession} (h : Guided s) (hprocedure : t.procedure = s.procedure)
    (hlatest : t.latestGround = s.latestGround) (hestimates : t.estimates = s.estimates)
    (hlifecycle : t.lifecycle ≠ .compiled) : Guided t where
  onMission e he := h.onMission e (hprocedure.symm.trans he)
  ground := hlatest.trans (h.ground.trans (congrArg _ hestimates.symm))
  unprepared hcompiled := absurd hcompiled hlifecycle

/-- The desk stays, and so do the guides. -/
def Stays (s t : FullMissionSession) : Prop := t.desk = s.desk ∧ Guided t

theorem pause_stays (h : Guided s) : Stays s s.pause.2 := by
  unfold pause
  split
  · exact ⟨rfl, h⟩
  · exact ⟨rfl, h.relabel rfl rfl rfl nofun⟩

theorem setPace_stays (h : Guided s) (pace : MissionSessionPace) : Stays s (s.setPace pace).2 := by
  unfold setPace
  split
  · exact ⟨rfl, h⟩
  · split
    · exact pause_stays h
    · exact ⟨rfl, h.onMission, h.ground, h.unprepared⟩

theorem resume_stays (h : Guided s) : Stays s s.resume.2 := by
  unfold resume
  split
  · exact ⟨rfl, h⟩
  · exact ⟨rfl, h.relabel rfl rfl rfl nofun⟩

theorem abort_stays (h : Guided s) (reasonIdentity : UInt32) : Stays s (s.abort reasonIdentity).2 := by
  unfold abort
  split
  · exact ⟨rfl, h⟩
  · exact ⟨rfl, h.relabel rfl rfl rfl nofun⟩

/-- An advance that does not release leaves the session as it was, or sets it running. -/
theorem stepOneRelease_move (h : Guided s) (answer : WorldAnswer) :
    AdvanceMove s answer (s.stepOneRelease answer).2 ∧ Guided (s.stepOneRelease answer).2 := by
  unfold stepOneRelease
  split
  · rename_i hclosed
    have hcells : s.cellsOf answer = none := if_neg fun hboth ↦ by simp [hboth.1] at hclosed
    exact ⟨.kept (.inl hcells) rfl, h⟩
  · obtain ⟨hmove, hguided⟩ := advanceInternal_move h true answer
    refine Attempt.andThen_keeps (P := fun t ↦ AdvanceMove s answer t ∧ Guided t)
      ⟨hmove, hguided⟩ fun _ t ht ↦ ?_
    split
    · exact ⟨ht.1.congr rfl, ht.2.relabel rfl rfl rfl nofun⟩
    · exact ht

/-- What a call does to the session. -/
inductive MissionMove (s : FullMissionSession) : FullMissionCall → Prop where
  | kept {call : FullMissionCall} (hcall : ∀ action, call ≠ .submit action)
      (hanswer : s.answerTo call = none) (hdesk : (s.step call).desk = s.desk) : MissionMove s call
  | prepared {initial : InitialWorld} {r : GlobalPackageAvionicsMission}
      (hlifecycle : s.lifecycle = .compiled) (hnew : newRunner initial = .ok r)
      (hdesk : (s.step (.prepare (.ok initial))).desk = { s.desk with runner := some r }) :
      MissionMove s (.prepare (.ok initial))
  | advanced {call : FullMissionCall} {answer : WorldAnswer} (hanswer : s.answerTo call = some answer)
      (hmove : AdvanceMove s answer (s.step call)) : MissionMove s call
  | submitted {action : MissionOperatorAction} (hresult : SubmitResult s action) :
      MissionMove s (.submit action)

/-- A new runner has the plan of the mission, and nothing pending. -/
theorem newRunner_spec {initial : InitialWorld} {r : GlobalPackageAvionicsMission}
    (hnew : newRunner initial = .ok r) :
    r.package.plan = some fullGnssLossMissionPlan ∧ r.package.uplink = .new
      ∧ r.package.epoch = 0 := by
  unfold newRunner at hnew
  split at hnew
  · cases hnew
  · rename_i package hpackage
    obtain ⟨inner, -, hinner⟩ := Option.bind_eq_some_iff.mp hpackage
    cases Option.some.inj hinner
    unfold KsaG10rReferenceOpsV1.initializeMissionPlan at hnew
    dsimp only at hnew
    split at hnew
    · cases hnew
    · cases hnew
      exact ⟨rfl, rfl, rfl⟩

/-- A call of the package that comes from an action leaves the plan and the epoch alone. -/
theorem packageCallOf_frame (p : KsaG10rReferenceOpsV1) (action : MissionOperatorAction) :
    (p.step (packageCallOf action)).plan = p.plan
      ∧ (p.step (packageCallOf action)).epoch = p.epoch := by
  cases action with
  | stage load mask => exact (command_frame p).1 load mask
  | commit request => exact (command_frame p).2.1 request
  | cancel request => exact (command_frame p).2.2 request

/-- The session is guided, and its package flies the plan of the mission. -/
structure Planned (s : FullMissionSession) : Prop where
  guided : Guided s
  plan : ∀ r, s.runner = some r → r.package.plan = some fullGnssLossMissionPlan

/-- The session after a call that has the runner of the desk. -/
theorem Planned.of_desk {d : MissionDesk} (hguided : Guided s) (hdesk : s.desk = d)
    (hplan : ∀ r, d.runner = some r → r.package.plan = some fullGnssLossMissionPlan) :
    Planned s :=
  ⟨hguided, fun r hr ↦ hplan r ((congrArg MissionDesk.runner hdesk).symm.trans hr)⟩

theorem Planned.of_stays {t : FullMissionSession} (h : Planned s) (hstays : Stays s t) :
    Planned t := .of_desk hstays.2 hstays.1 h.plan

/-- An advance flies on with the plan. -/
theorem Planned.advance {t : FullMissionSession} {answer : WorldAnswer} (h : Planned s)
    (hmove : AdvanceMove s answer t) (hguided : Guided t) : Planned t := by
  have hreleased : ∀ {r r' : GlobalPackageAvionicsMission} {cells : ReleaseCells},
      s.runner = some r → r'.package = r.package.step (releaseOf cells) →
      ∀ r'', some r' = some r'' → r''.package.plan = some fullGnssLossMissionPlan := by
    rintro r r' cells hrunner hpackage _ ⟨⟩
    rw [hpackage, releaseOf, step_release, (processRelease_uplink ..).2.1]
    exact h.plan r hrunner
  cases hmove with
  | kept _ hdesk => exact .of_desk hguided hdesk h.plan
  | lost _ hrunner hpackage _ hdesk => exact .of_desk hguided hdesk (hreleased hrunner hpackage)
  | counted _ hrunner hpackage _ hdesk _ =>
      exact .of_desk hguided hdesk (hreleased hrunner hpackage)

theorem Planned.submit {action : MissionOperatorAction} (h : Planned s)
    (hresult : SubmitResult s action) : Planned (s.submitOperatorAction action).2 := by
  cases hresult with
  | failed _ hsame => exact hsame.symm ▸ h
  | answered _ _ hrunner _ hdesk hguided =>
      refine .of_desk hguided hdesk ?_
      rintro _ ⟨⟩
      exact (packageCallOf_frame _ action).1.trans (h.plan _ hrunner)

/-- A session is prepared once, with a new runner. -/
theorem prepare_move (h : Planned s) (world : Except GlobalWorldError InitialWorld) :
    MissionMove s (.prepare world) ∧ Planned (s.step (.prepare world)) := by
  have hstop : s.step (.prepare world) = s →
      MissionMove s (.prepare world) ∧ Planned (s.step (.prepare world)) := by
    intro hsame
    refine ⟨.kept (fun _ heq ↦ nomatch heq) rfl (congrArg desk hsame), ?_⟩
    rw [hsame]
    exact h
  by_cases hlifecycle : s.lifecycle = .compiled
  · cases world with
    | error e =>
        refine hstop ?_
        show (s.prepare _).2 = s
        unfold FullMissionSession.prepare
        rw [if_neg (not_not.mpr hlifecycle)]
    | ok initial =>
        cases hnew : newRunner initial with
        | error e =>
            refine hstop ?_
            show (s.prepare _).2 = s
            unfold FullMissionSession.prepare
            rw [if_neg (not_not.mpr hlifecycle)]
            dsimp only
            rw [hnew]
        | ok r =>
            have hstep : s.step (.prepare (.ok initial)) =
                ({ s with runner := some r, lifecycle := .ready }.record .prepared
                  s.project.definitionIdentity).timelineEvent 0 .evidence 0 0x12b40001
                    "Mission ready" := by
              show (s.prepare _).2 = _
              unfold FullMissionSession.prepare
              rw [if_neg (not_not.mpr hlifecycle)]
              dsimp only
              rw [hnew]
            have hdesk : (s.step (.prepare (.ok initial))).desk =
                { s.desk with runner := some r } := by
              rw [hstep, desk_timelineEvent, desk_record]
              rfl
            have hguided : Guided (s.step (.prepare (.ok initial))) := by
              rw [hstep]
              exact h.guided.relabel rfl rfl rfl nofun
            refine ⟨.prepared hlifecycle hnew hdesk, .of_desk hguided hdesk ?_⟩
            rintro _ ⟨⟩
            exact (newRunner_spec hnew).1
  · refine hstop ?_
    show (s.prepare _).2 = s
    unfold FullMissionSession.prepare
    rw [if_pos hlifecycle]

/-- Every call is one of the moves, and leaves the session planned. -/
theorem mission_move (h : Planned s) (call : FullMissionCall) :
    MissionMove s call ∧ Planned (s.step call) := by
  have hstays : (∀ action, call ≠ .submit action) → s.answerTo call = none →
      Stays s (s.step call) → MissionMove s call ∧ Planned (s.step call) := by
    intro hcall hanswer hstays
    exact ⟨.kept hcall hanswer hstays.1, h.of_stays hstays⟩
  cases call with
  | prepare world => exact prepare_move h world
  | setPace pace => exact hstays (fun _ heq ↦ nomatch heq) rfl (setPace_stays h.guided pace)
  | pause => exact hstays (fun _ heq ↦ nomatch heq) rfl (pause_stays h.guided)
  | resume => exact hstays (fun _ heq ↦ nomatch heq) rfl (resume_stays h.guided)
  | abort reasonIdentity => exact hstays (fun _ heq ↦ nomatch heq) rfl (abort_stays h.guided reasonIdentity)
  | advanceOneRelease answer =>
      by_cases hpaused : s.lifecycle = .paused
      · have hstep : s.step (.advanceOneRelease answer) = s := by
          show (s.advanceOneRelease answer).2 = s
          rw [advanceOneRelease, if_pos hpaused]
        refine hstays (fun _ heq ↦ nomatch heq) (if_pos hpaused) ?_
        rw [hstep]
        exact ⟨rfl, h.guided⟩
      · have hstep : s.step (.advanceOneRelease answer) = (s.advanceInternal false answer).2 := by
          show (s.advanceOneRelease answer).2 = _
          rw [advanceOneRelease, if_neg hpaused]
        obtain ⟨hmove, hguided⟩ := advanceInternal_move h.guided false answer
        rw [← hstep] at hmove hguided
        exact ⟨.advanced (if_neg hpaused) hmove, h.advance hmove hguided⟩
  | stepOneRelease answer =>
      obtain ⟨hmove, hguided⟩ := stepOneRelease_move h.guided answer
      exact ⟨.advanced rfl hmove, h.advance hmove hguided⟩
  | advanceRound singleStep answer =>
      obtain ⟨hmove, hguided⟩ := advanceInternal_move h.guided singleStep answer
      exact ⟨.advanced rfl hmove, h.advance hmove hguided⟩
  | submit action =>
      have hresult := submit_result h.guided h.plan action
      exact ⟨.submitted hresult, h.submit hresult⟩

/-- A compiled session is planned. -/
theorem planned_of_compiled {project : CompiledMissionProject} {role : OperationalRole}
    (hcompiled : compiledWithRole project role = .ok s) : Planned s := by
  unfold compiledWithRole at hcompiled
  split at hcompiled
  · cases hcompiled
  · cases hcompiled
    exact ⟨⟨fun _ he ↦ (nomatch he), rfl, fun _ ↦ rfl⟩, fun _ hr ↦ (nomatch hr)⟩

end Calls

end Ksa64.Session
