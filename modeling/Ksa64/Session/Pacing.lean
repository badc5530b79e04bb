import Ksa64.Session.FullMissionUplink
import Ksa64.Session.LiveRun

/-!
# Pause and pace

A session has a lifecycle and a pace, and six calls that change them.  `PaceMove` says once
what each call does to the two, for the live session and for the full mission.

A paused session stays put under every advance, as long as no pace is set in the pause:
`setPace` lets a pace in that `advanceBounded` goes by, whatever the lifecycle is.
-/

namespace Ksa64.Session

open Ksa64.Library Ksa64.Interface Ksa64.Sim

/-- A call of a session.  Every advance brings its answers of the world, `ω` is what the
preparation brings. -/
inductive PacingCall (ω α : Type) where
  | prepare (world : ω)
  | setPace (pace : MissionSessionPace)
  | pause
  | resume
  | advanceOneRelease (answer : α)
  | stepOneRelease (answer : α)
  | advanceBounded (maximumReleases : UInt32) (answers : Nat → α)
  | submit (action : MissionOperatorAction)
  | abort (reasonIdentity : UInt32)

namespace PacingCall

variable {ω α : Type}

/-- The call is one of the two advances that a pause is to hold back. -/
def advances : PacingCall ω α → Bool
  | .advanceOneRelease _ | .advanceBounded _ _ => true
  | _ => false

/-- The pace that the call sets, if it is one at which a mission runs by itself. -/
def repaces : PacingCall ω α → Bool
  | .setPace .fast | .setPace .realtime => true
  | _ => false

/-- The call leaves a pause by itself. -/
def leavesPause : PacingCall ω α → Bool
  | .resume | .stepOneRelease _ => true
  | _ => false

end PacingCall

section Moves

variable {σ ω α : Type} (lifecycle : σ → MissionSessionLifecycle) (pace : σ → MissionSessionPace)
  (releases : σ → UInt32)

/-- What a call does to lifecycle, pace and releases. -/
inductive PaceMove (s : σ) : PacingCall ω α → σ → Prop where
  | kept (call : PacingCall ω α) : PaceMove s call s
  | prepared {t : σ} (world : ω) (hfrom : lifecycle s = .compiled) (hto : lifecycle t = .ready) :
      PaceMove s (.prepare world) t
  | paced {t : σ} (next : MissionSessionPace) (hlifecycle : lifecycle t = lifecycle s)
      (hpace : pace t = next) (hreleases : releases t = releases s) :
      PaceMove s (.setPace next) t
  | held {t : σ} {call : PacingCall ω α} (hfrom : lifecycle s ≠ .paused)
      (hto : lifecycle t = .paused) (hpace : pace t = .paused) : PaceMove s call t
  | resumed {t : σ} (hto : lifecycle t = .running) (hreleases : releases t = releases s) :
      PaceMove s .resume t
  | advanced {t : σ} (answer : α) (hfrom : lifecycle s ≠ .paused) (hto : lifecycle t ≠ .paused) :
      PaceMove s (.advanceOneRelease answer) t
  | stepped {t : σ} (answer : α) (hpace : lifecycle t = .paused → pace t = .paused) :
      PaceMove s (.stepOneRelease answer) t
  | bounded {t : σ} (maximumReleases : UInt32) (answers : Nat → α) (hfrom : pace s ≠ .paused)
      (hpace : lifecycle t = .paused → pace t = .singleStep) :
      PaceMove s (.advanceBounded maximumReleases answers) t
  | submitted {t : σ} (action : MissionOperatorAction) (hlifecycle : lifecycle t = lifecycle s)
      (hpace : pace t = pace s) (hreleases : releases t = releases s) :
      PaceMove s (.submit action) t
  | aborted {t : σ} (reasonIdentity : UInt32) (hto : lifecycle t = .aborted)
      (hreleases : releases t = releases s) : PaceMove s (.abort reasonIdentity) t

end Moves

/-- A session that is paced: its calls make the moves of pause and pace. -/
structure PacedSession (σ ω α : Type) where
  step : σ → PacingCall ω α → σ
  lifecycle : σ → MissionSessionLifecycle
  pace : σ → MissionSessionPace
  releases : σ → UInt32
  move (s : σ) (call : PacingCall ω α) : PaceMove lifecycle pace releases s call (step s call)

namespace PacedSession

variable {σ ω α : Type} (m : PacedSession σ ω α)

/-- The call does not set a running pace in a pause. -/
def KeepsPace (s : σ) (call : PacingCall ω α) : Prop :=
  m.lifecycle s = .paused → call.repaces = false

instance (s : σ) (call : PacingCall ω α) : Decidable (m.KeepsPace s call) :=
  inferInstanceAs (Decidable (_ → _))

/-- The pause holds: an advance changes nothing, unless the pace is that of single steps, and
only `resume`, `stepOneRelease` and a single step lead on. -/
structure HoldsPause (s : σ) (call : PacingCall ω α) : Prop where
  still : m.lifecycle s = .paused → m.pace s ≠ .singleStep → call.advances = true →
    m.step s call = s
  leaves : m.lifecycle s = .paused →
    m.lifecycle (m.step s call) ≠ .paused ∧ m.lifecycle (m.step s call) ≠ .aborted
      ∨ m.releases (m.step s call) ≠ m.releases s →
    call.leavesPause = true ∨ m.pace s = .singleStep ∧ call.advances = true

/-- A run that never sets a running pace keeps the pace. -/
theorem keepsPace_of_forall {m : PacedSession σ ω α} {s : σ} {calls : List (PacingCall ω α)}
    (h : ∀ call ∈ calls, call.repaces = false) : Meets m.step m.KeepsPace s calls :=
  Meets.mono (fun s call (hcall : call.repaces = false) ↦ (fun _ ↦ hcall : m.KeepsPace s call))
    (meets_input.mpr h)

/-- A paused session has no running pace. -/
def Resting (s : σ) : Prop :=
  m.lifecycle s = .paused → m.pace s = .paused ∨ m.pace s = .singleStep

variable {m} {s : σ} {call : PacingCall ω α}

theorem Resting.step (h : m.Resting s) (hkeeps : m.KeepsPace s call) :
    m.Resting (m.step s call) := by
  intro hpaused
  have hmove := m.move s call
  generalize m.step s call = t at *
  cases hmove with
  | kept => exact h hpaused
  | prepared world hfrom hto => exact nomatch hto.symm.trans hpaused
  | paced next hlifecycle hpace =>
      have hnext := hkeeps (hlifecycle.symm.trans hpaused)
      rw [hpace]
      cases next with
      | paused => exact .inl rfl
      | singleStep => exact .inr rfl
      | fast => exact nomatch hnext
      | realtime => exact nomatch hnext
  | held hfrom hto hpace => exact .inl hpace
  | resumed hto => exact nomatch hto.symm.trans hpaused
  | advanced answer hfrom hto => exact absurd hpaused hto
  | stepped answer hpace => exact .inl (hpace hpaused)
  | bounded maximumReleases answers hfrom hpace => exact .inr (hpace hpaused)
  | submitted action hlifecycle hpace =>
      rw [hpace]
      exact h (hlifecycle.symm.trans hpaused)
  | aborted reasonIdentity hto => exact nomatch hto.symm.trans hpaused

theorem Resting.holdsPause (h : m.Resting s) : m.HoldsPause s call := by
  have hmove := m.move s call
  generalize ht : m.step s call = t at hmove
  constructor
  · intro hpaused hsteps hadvances
    rw [ht]
    cases hmove with
    | kept => rfl
    | held hfrom => exact absurd hpaused hfrom
    | advanced answer hfrom => exact absurd hpaused hfrom
    | bounded maximumReleases answers hfrom =>
        exact ((h hpaused).elim hfrom hsteps).elim
    | _ => exact nomatch hadvances
  · intro hpaused hleaves
    rw [ht] at hleaves
    cases hmove with
    | kept => exact (hleaves.elim (fun hleft ↦ hleft.1 hpaused) fun hmoved ↦ hmoved rfl).elim
    | prepared world hfrom => exact nomatch hfrom.symm.trans hpaused
    | paced next hlifecycle hpace hreleases =>
        refine (hleaves.elim (fun hleft ↦ hleft.1 ?_) fun hmoved ↦ hmoved hreleases).elim
        exact hlifecycle.trans hpaused
    | held hfrom => exact absurd hpaused hfrom
    | resumed => exact .inl rfl
    | advanced answer hfrom => exact absurd hpaused hfrom
    | stepped => exact .inl rfl
    | bounded maximumReleases answers hfrom =>
        exact .inr ⟨(h hpaused).resolve_left hfrom, rfl⟩
    | submitted action hlifecycle hpace hreleases =>
        refine (hleaves.elim (fun hleft ↦ hleft.1 ?_) fun hmoved ↦ hmoved hreleases).elim
        exact hlifecycle.trans hpaused
    | aborted reasonIdentity hto hreleases =>
        exact (hleaves.elim (fun hleft ↦ hleft.2 hto) fun hmoved ↦ hmoved hreleases).elim

/-- In a run that keeps the pace in every pause, every pause holds. -/
theorem holdsPause_run {calls : List (PacingCall ω α)} (hs : m.lifecycle s ≠ .paused)
    (hkeeps : Meets m.step m.KeepsPace s calls) : Meets m.step m.HoldsPause s calls :=
  meets_of_invariant m.Resting (fun _ _ h hkeep ↦ h.step hkeep) (fun _ _ h _ ↦ h.holdsPause)
    (fun hpaused ↦ absurd hpaused hs) hkeeps

end PacedSession

/-! ## The live session -/

namespace LiveMissionSession

variable (s : LiveMissionSession)

/-- The session after the call. -/
def takeCall (s : LiveMissionSession) : PacingCall Unit Unit → LiveMissionSession
  | .prepare _ => s.prepare.2
  | .setPace pace => (s.setPace pace).2
  | .pause => s.pause.2
  | .resume => s.resume.2
  | .advanceOneRelease _ => s.advanceOneRelease.2
  | .stepOneRelease _ => s.stepOneRelease.2
  | .advanceBounded maximumReleases _ => (s.advanceBounded maximumReleases).2
  | .submit action => (s.submitOperatorAction action).2
  | .abort reasonIdentity => (s.abort reasonIdentity).2

/-- The session was not moved, or its pace was kept and it pauses after a single step only,
which has succeeded. -/
def Steps {α : Type} (singleStep : Bool) (s : LiveMissionSession) (result : Outcome α) : Prop :=
  result.2 = s ∨ result.2.pace = s.pace
    ∧ (result.2.lifecycle = .paused → singleStep = true ∧ ¬result.Failed)

theorem concludeRelease_steps (runtime : GnssLossRuntime) (terminal singleStep : Bool)
    (hrunning : s.lifecycle ≠ .paused) :
    (s.concludeRelease runtime terminal singleStep).2.pace = s.pace
      ∧ ((s.concludeRelease runtime terminal singleStep).2.lifecycle = .paused →
        singleStep = true ∧ (s.concludeRelease runtime terminal singleStep).1 = .ok ()) := by
  unfold concludeRelease
  split
  · split
    · exact ⟨rfl, fun hpaused ↦ absurd hpaused hrunning⟩
    · exact ⟨rfl, nofun⟩
  · split
    · rename_i hsingle
      exact ⟨rfl, fun _ ↦ ⟨hsingle, rfl⟩⟩
    · exact ⟨rfl, fun hpaused ↦ absurd hpaused hrunning⟩

theorem advanceInternal_steps (singleStep : Bool) :
    Steps singleStep s (s.advanceInternal singleStep) := by
  unfold advanceInternal
  split
  · exact .inl rfl
  · dsimp only
    split
    · exact .inr ⟨rfl, nofun⟩
    · split
      · exact .inr ⟨rfl, nofun⟩
      · rename_i runtime _ _ terminal _
        obtain ⟨hpace, hsteps⟩ := concludeRelease_steps
          ({ s with lifecycle := .running, runtime := some runtime.advanceOneRelease.2 }.record
            .release runtime.advanceOneRelease.2.releases)
          runtime.advanceOneRelease.2 terminal singleStep
          (show MissionSessionLifecycle.running ≠ .paused from nofun)
        refine .inr ⟨Attempt.andThen_keeps (P := fun t : LiveMissionSession ↦ t.pace = s.pace)
          hpace fun _ t ht ↦ ht, fun hpaused ↦ ?_⟩
        unfold Attempt.andThen at hpaused ⊢
        dsimp only at hpaused ⊢
        split at hpaused
        · exact ⟨(hsteps hpaused).1, Attempt.not_failed_of_ok rfl⟩
        · rename_i herror
          cases herror.symm.trans (hsteps hpaused).2

theorem advanceRounds_steps (singleStep : Bool) (budget : Nat) :
    Steps singleStep s (advanceRounds singleStep budget s) := by
  induction budget generalizing s with
  | zero => exact .inl rfl
  | succ budget ih =>
      have hfirst := s.advanceInternal_steps singleStep
      unfold advanceRounds
      cases hresult : (s.advanceInternal singleStep).1 with
      | error e =>
          rw [Attempt.andThen_error hresult]
          refine hfirst.imp_right (And.imp_right fun h hpaused ↦ ?_)
          exact absurd ⟨e, hresult⟩ (h hpaused).2
      | ok snapshot =>
          rw [Attempt.andThen_ok hresult]
          unfold Steps at hfirst
          generalize (s.advanceInternal singleStep).2 = t at *
          split
          · refine hfirst.imp_right (And.imp_right fun h hpaused ↦ ?_)
            exact ⟨(h hpaused).1, Attempt.not_failed_of_ok rfl⟩
          · rename_i hgoes
            rcases ih t with hsame | ⟨hpace, hpaused⟩
            · refine .inr ⟨?_, fun hpaused ↦ ?_⟩
              · rw [hsame]
                exact hfirst.elim (congrArg _) And.left
              · rw [hsame] at hpaused
                exact absurd (.inr hpaused) hgoes
            · have hkept : t.pace = s.pace := hfirst.elim (congrArg _) And.left
              exact .inr ⟨hpace.trans hkept, hpaused⟩

theorem pause_move (call : PacingCall Unit Unit) :
    PaceMove LiveMissionSession.lifecycle LiveMissionSession.pace releases s call s.pause.2 := by
  unfold pause
  split
  · exact .kept _
  · rename_i hopen
    refine .held (fun hpaused ↦ hopen ?_) rfl rfl
    rw [hpaused]
    exact ⟨nofun, nofun⟩

/-- A submission concerns neither the pace nor the count of releases. -/
theorem submitOperatorAction_paced (action : MissionOperatorAction) :
    (s.submitOperatorAction action).2.lifecycle = s.lifecycle
      ∧ (s.submitOperatorAction action).2.pace = s.pace
      ∧ (s.submitOperatorAction action).2.releases = s.releases := by
  refine ⟨(submitOperatorAction_frame s action).2.2, ?_, ?_⟩
  · unfold submitOperatorAction
    split
    · rfl
    · split
      · rfl
      · dsimp only
        split <;> rfl
  · unfold releases
    rw [(submitOperatorAction_frame s action).1]
    split
    · cases s.runtime with
      | none => rfl
      | some r => exact (GnssLossRuntime.submit_frame r s.project.role action).releases_eq
    · rfl

/-- Each call of the session is a move of pause and pace. -/
theorem takeCall_move (call : PacingCall Unit Unit) :
    PaceMove LiveMissionSession.lifecycle LiveMissionSession.pace releases s call
      (s.takeCall call) := by
  cases call with
  | prepare world =>
      show PaceMove _ _ _ s _ s.prepare.2
      unfold prepare
      split
      · exact .kept _
      · rename_i hcompiled
        split
        · exact .kept _
        · exact .prepared world (not_not.mp hcompiled) rfl
  | setPace pace =>
      show PaceMove _ _ _ s _ (s.setPace pace).2
      unfold setPace
      split
      · exact .kept _
      · split
        · exact s.pause_move _
        · exact .paced pace rfl rfl rfl
  | pause => exact s.pause_move _
  | resume =>
      show PaceMove _ _ _ s _ s.resume.2
      unfold resume
      split
      · exact .kept _
      · exact .resumed rfl rfl
  | advanceOneRelease answer =>
      show PaceMove _ _ _ s _ s.advanceOneRelease.2
      unfold advanceOneRelease
      split
      · exact .kept _
      · rename_i hpaused
        rcases s.advanceInternal_steps false with hsame | ⟨-, hsteps⟩
        · rw [hsame]
          exact .kept _
        · exact .advanced answer hpaused fun h ↦ Bool.false_ne_true (hsteps h).1
  | stepOneRelease answer =>
      show PaceMove _ _ _ s _ s.stepOneRelease.2
      unfold stepOneRelease
      split
      · exact .kept _
      · cases hresult : (s.advanceInternal true).1 with
        | error e =>
            rw [Attempt.andThen_error hresult]
            rcases s.advanceInternal_steps true with hsame | ⟨-, hsteps⟩
            · rw [hsame]
              exact .kept _
            · exact .stepped answer fun hpaused ↦ absurd ⟨e, hresult⟩ (hsteps hpaused).2
        | ok snapshot =>
            rw [Attempt.andThen_ok hresult]
            split
            · exact .stepped answer fun _ ↦ rfl
            · rename_i hcompleted
              exact .stepped answer fun hpaused ↦
                nomatch (not_not.mp hcompleted).symm.trans hpaused
  | advanceBounded maximumReleases answers =>
      show PaceMove _ _ _ s _ (s.advanceBounded maximumReleases).2
      unfold advanceBounded
      split
      · exact .kept _
      · rename_i hruns
        have hpace : s.pace ≠ .paused := fun h ↦ hruns (.inr h)
        refine Attempt.andThen_keeps (P := PaceMove _ _ _ s _) ?_ fun _ _ ht ↦ ht
        rcases s.advanceRounds_steps (s.pace == .singleStep) (s.budget maximumReleases) with
          hsame | ⟨hkept, hsteps⟩
        · rw [hsame]
          exact .kept _
        · exact .bounded maximumReleases answers hpace fun hpaused ↦
            hkept.trans (eq_of_beq (hsteps hpaused).1)
  | submit action =>
      obtain ⟨hlifecycle, hpace, hreleases⟩ := s.submitOperatorAction_paced action
      exact .submitted action hlifecycle hpace hreleases
  | abort reasonIdentity =>
      show PaceMove _ _ _ s _ (s.abort reasonIdentity).2
      unfold abort
      split
      · exact .kept _
      · exact .aborted reasonIdentity rfl rfl

end LiveMissionSession

/-- The live session is paced. -/
def livePacing : PacedSession LiveMissionSession Unit Unit where
  step := LiveMissionSession.takeCall
  lifecycle := LiveMissionSession.lifecycle
  pace := LiveMissionSession.pace
  releases := LiveMissionSession.releases
  move := LiveMissionSession.takeCall_move

/-! ## The full mission -/

namespace FullMissionSession

variable (s : FullMissionSession)

/-- The session after the call. -/
def takeCall (s : FullMissionSession) :
    PacingCall (Except GlobalWorldError InitialWorld) WorldAnswer → FullMissionSession
  | .prepare world => (s.prepare world).2
  | .setPace pace => (s.setPace pace).2
  | .pause => s.pause.2
  | .resume => s.resume.2
  | .advanceOneRelease answer => (s.advanceOneRelease answer).2
  | .stepOneRelease answer => (s.stepOneRelease answer).2
  | .advanceBounded maximumReleases answers => (s.advanceBounded maximumReleases answers).2
  | .submit action => (s.submitOperatorAction action).2
  | .abort reasonIdentity => (s.abort reasonIdentity).2

/-- Lifecycle and pace. -/
def pacing (s : FullMissionSession) : MissionSessionLifecycle × MissionSessionPace :=
  (s.lifecycle, s.pace)

section TakeRelease

variable (epoch : UInt32)

@[simp] theorem pacing_expireStaged : (s.expireStaged epoch).pacing = s.pacing := by
  unfold expireStaged
  split
  · rfl
  · split <;> rfl

@[simp] theorem pacing_countFixes (aid : Option GlobalAidFrameCell) :
    (s.countFixes epoch aid).pacing = s.pacing := by
  unfold countFixes
  split
  · rfl
  · split_ifs <;> rfl

@[simp] theorem pacing_observeGround (snapshot : GlobalWorldSnapshot) :
    (s.observeGround epoch snapshot).pacing = s.pacing := by
  unfold observeGround
  dsimp only
  split <;> rfl

@[simp] theorem pacing_drainObservations (observations : List GroundTrackingObservation) :
    (drainObservations epoch observations s).pacing = s.pacing := by
  induction observations generalizing s with
  | nil => rfl
  | cons observation rest ih =>
      unfold drainObservations
      split
      · refine (ih _).trans ?_
        unfold estimateOn
        dsimp only
        split <;> rfl
      · rfl

@[simp] theorem pacing_noteGnss : (s.noteGnss epoch).pacing = s.pacing := by
  unfold noteGnss
  dsimp only
  split_ifs <;> rfl

@[simp] theorem pacing_openProcedure : (s.openProcedure epoch).2.pacing = s.pacing := by
  unfold openProcedure
  split
  · split <;> rfl
  · rfl

@[simp] theorem pacing_noteProcedure (prior next : ProcedureEngine) :
    (s.noteProcedure epoch prior next).pacing = s.pacing := by
  unfold noteProcedure
  split <;> rfl

@[simp] theorem pacing_tickProcedure : (s.tickProcedure epoch).2.pacing = s.pacing := by
  unfold tickProcedure
  split
  · rfl
  · dsimp only
    split
    · rfl
    · split
      · rfl
      · exact pacing_noteProcedure ..

@[simp] theorem pacing_publishRelease (answer : WorldAnswer) :
    (s.publishRelease epoch answer).pacing = s.pacing := by
  unfold publishRelease
  dsimp only
  split <;> rfl

@[simp] theorem pacing_noteTransition (snapshot : GlobalWorldSnapshot) :
    (s.noteTransition epoch snapshot).pacing = s.pacing := by
  unfold noteTransition
  split <;> rfl

@[simp] theorem pacing_countRelease : s.countRelease.pacing = s.pacing := rfl

/-- Taking a release leaves lifecycle and pace alone. -/
theorem pacing_takeRelease (bundle : GlobalReleaseBundle) (answer : WorldAnswer) :
    (s.takeRelease epoch bundle answer).2.pacing = s.pacing := by
  unfold takeRelease
  dsimp only
  refine Attempt.andThen_keeps (P := fun t : FullMissionSession ↦ t.pacing = s.pacing) ?_
    fun _ t ht ↦ Attempt.andThen_keeps (P := fun t : FullMissionSession ↦ t.pacing = s.pacing)
      ((pacing_tickProcedure t epoch).trans ht) fun _ t ht ↦ ?_
  · rw [pacing_openProcedure, pacing_noteGnss, pacing_drainObservations, pacing_observeGround,
      pacing_countFixes, pacing_expireStaged]
    rfl
  · rw [pacing_countRelease, pacing_noteTransition, pacing_publishRelease]
    exact ht

end TakeRelease

section Advance

/-- The completion of a mission keeps the pace and does not pause. -/
theorem conclude_pacing (answer : WorldAnswer) (hrunning : s.lifecycle ≠ .paused) :
    (s.conclude answer).2.pace = s.pace ∧ (s.conclude answer).2.lifecycle ≠ .paused := by
  unfold conclude
  split
  · unfold complete
    split
    · exact ⟨rfl, hrunning⟩
    · split
      · exact ⟨rfl, hrunning⟩
      · split
        · exact ⟨rfl, hrunning⟩
        · exact ⟨rfl, nofun⟩
  · split <;> exact ⟨rfl, hrunning⟩

/-- The session was not moved, or its pace was kept and it pauses after a single step only,
which has succeeded. -/
def Steps {α : Type} (singleStep : Bool) (s : FullMissionSession) (result : Outcome α) : Prop :=
  result.2 = s ∨ result.2.pace = s.pace
    ∧ (result.2.lifecycle = .paused → singleStep = true ∧ ¬result.Failed)

theorem fly_steps {r : GlobalPackageAvionicsMission} (epoch : UInt32) (singleStep : Bool)
    (answer : WorldAnswer) (hrunning : s.lifecycle ≠ .paused) :
    (fly s r epoch singleStep answer).2.pace = s.pace
      ∧ ((fly s r epoch singleStep answer).2.lifecycle = .paused →
        singleStep = true ∧ ¬(fly s r epoch singleStep answer).Failed) := by
  unfold fly
  have hreleased : (s.releaseRunner r answer).2.pacing = s.pacing := by
    rw [(releaseRunner_spec answer).1]
    rfl
  cases hrelease : (s.releaseRunner r answer).1 with
  | error e =>
      rw [Attempt.andThen_error hrelease]
      refine ⟨congrArg Prod.snd hreleased, fun hpaused ↦ absurd ?_ hrunning⟩
      exact (congrArg Prod.fst hreleased).symm.trans hpaused
  | ok bundle =>
      rw [Attempt.andThen_ok hrelease]
      generalize (s.releaseRunner r answer).2 = t at *
      have htaken := (t.pacing_takeRelease epoch bundle answer).trans hreleased
      cases htake : (t.takeRelease epoch bundle answer).1 with
      | error e =>
          rw [Attempt.andThen_error htake]
          refine ⟨congrArg Prod.snd htaken, fun hpaused ↦ absurd ?_ hrunning⟩
          exact (congrArg Prod.fst htaken).symm.trans hpaused
      | ok =>
          rw [Attempt.andThen_ok htake]
          generalize (t.takeRelease epoch bundle answer).2 = u at *
          have hrunning : u.lifecycle ≠ .paused := by
            rwa [show u.lifecycle = s.lifecycle from congrArg Prod.fst htaken]
          obtain ⟨hpace, hlifecycle⟩ := u.conclude_pacing answer hrunning
          rw [show u.pace = s.pace from congrArg Prod.snd htaken] at hpace
          cases hconclude : (u.conclude answer).1 with
          | error e =>
              rw [Attempt.andThen_error hconclude]
              exact ⟨hpace, fun hpaused ↦ absurd hpaused hlifecycle⟩
          | ok =>
              rw [Attempt.andThen_ok hconclude]
              split
              · rename_i hsteps
                exact ⟨hpace, fun _ ↦ ⟨hsteps.1, Attempt.not_failed_of_ok rfl⟩⟩
              · exact ⟨hpace, fun hpaused ↦ absurd hpaused hlifecycle⟩

theorem advanceInternal_steps (singleStep : Bool) (answer : WorldAnswer) :
    Steps singleStep s (s.advanceInternal singleStep answer) := by
  unfold advanceInternal
  split
  · exact .inl rfl
  · split
    · exact .inl rfl
    · dsimp only
      split
      · exact .inr ⟨rfl, nofun⟩
      · exact .inr (fly_steps { s with lifecycle := .running } s.releaseEpoch singleStep answer
          nofun)

theorem advanceRounds_steps (answers : List WorldAnswer) :
    Steps (s.pace == .singleStep) s (advanceRounds answers s) := by
  induction answers generalizing s with
  | nil => exact .inl rfl
  | cons answer answers ih =>
      have hfirst := s.advanceInternal_steps (s.pace == .singleStep) answer
      unfold advanceRounds
      cases hresult : (s.advanceInternal (s.pace == .singleStep) answer).1 with
      | error e =>
          rw [Attempt.andThen_error hresult]
          refine hfirst.imp_right (And.imp_right fun h hpaused ↦ ?_)
          exact absurd ⟨e, hresult⟩ (h hpaused).2
      | ok =>
          rw [Attempt.andThen_ok hresult]
          unfold Steps at hfirst
          generalize (s.advanceInternal (s.pace == .singleStep) answer).2 = t at *
          split
          · refine hfirst.imp_right (And.imp_right fun h hpaused ↦ ?_)
            exact ⟨(h hpaused).1, Attempt.not_failed_of_ok rfl⟩
          · rename_i hgoes
            have hkept : t.pace = s.pace := hfirst.elim (congrArg _) And.left
            rcases ih t with hsame | ⟨hpace, hpaused⟩
            · refine .inr ⟨(congrArg _ hsame).trans hkept, fun hpaused ↦ ?_⟩
              rw [hsame] at hpaused
              exact absurd (.inr hpaused) hgoes
            · rw [hkept] at hpaused
              exact .inr ⟨hpace.trans hkept, hpaused⟩

end Advance

section Submit

/-- Lifecycle, pace and count of releases. -/
def clock (s : FullMissionSession) : (MissionSessionLifecycle × MissionSessionPace) × UInt32 :=
  (s.pacing, s.releaseEpoch)

theorem clock_submitRecord (r : GlobalPackageAvionicsMission) (action : MissionOperatorAction) :
    (s.submitRecord r action).2.clock = s.clock := by
  cases action with
  | stage load mask =>
      unfold submitRecord submitStage
      dsimp only
      split
      · rfl
      · split <;> rfl
  | cancel request =>
      unfold submitRecord submitCancel
      dsimp only
      split
      · rfl
      · split <;> rfl
  | commit request =>
      have hannounce : ∀ (t : FullMissionSession) load, (t.announce load).clock = t.clock := by
        intro t load
        unfold FullMissionSession.announce
        cases load.loadType <;> rfl
      have haccept : ∀ (t : FullMissionSession) epoch type,
          (t.acceptAction epoch type).2.clock = t.clock := by
        intro t epoch type
        unfold acceptAction
        split
        · rfl
        · dsimp only
          split <;> rfl
      unfold submitRecord submitCommit
      dsimp only
      split
      · rfl
      · split
        · rfl
        · split
          · refine Attempt.andThen_keeps (P := fun t : FullMissionSession ↦ t.clock = s.clock)
              ?_ fun _ t ht ↦ ht
            refine (haccept _ _ _).trans ((hannounce _ _).trans ?_)
            rfl
          · rfl

/-- A submission concerns neither the pace nor the count of releases. -/
theorem clock_submitOperatorAction (action : MissionOperatorAction) :
    (s.submitOperatorAction action).2.clock = s.clock := by
  unfold submitOperatorAction
  split
  · rfl
  · split
    · rfl
    · split
      · rfl
      · split
        · rfl
        · exact Attempt.andThen_keeps (P := fun t : FullMissionSession ↦ t.clock = s.clock)
            (clock_submitRecord s _ action) fun _ t ht ↦ ht

end Submit

theorem pause_move (call : PacingCall (Except GlobalWorldError InitialWorld) WorldAnswer) :
    PaceMove FullMissionSession.lifecycle FullMissionSession.pace releaseEpoch s call
      s.pause.2 := by
  unfold pause
  split
  · exact .kept _
  · rename_i hopen
    refine .held (fun hpaused ↦ hopen ?_) rfl rfl
    rw [hpaused]
    exact ⟨nofun, nofun⟩

/-- Each call of the session is a move of pause and pace. -/
theorem takeCall_move (call : PacingCall (Except GlobalWorldError InitialWorld) WorldAnswer) :
    PaceMove FullMissionSession.lifecycle FullMissionSession.pace releaseEpoch s call
      (s.takeCall call) := by
  cases call with
  | prepare world =>
      show PaceMove _ _ _ s _ (s.prepare world).2
      unfold prepare
      split
      · exact .kept _
      · rename_i hcompiled
        split
        · exact .kept _
        · split
          · exact .kept _
          · exact .prepared _ (not_not.mp hcompiled) rfl
  | setPace pace =>
      show PaceMove _ _ _ s _ (s.setPace pace).2
      unfold setPace
      split
      · exact .kept _
      · split
        · exact s.pause_move _
        · exact .paced pace rfl rfl rfl
  | pause => exact s.pause_move _
  | resume =>
      show PaceMove _ _ _ s _ s.resume.2
      unfold resume
      split
      · exact .kept _
      · exact .resumed rfl rfl
  | advanceOneRelease answer =>
      show PaceMove _ _ _ s _ (s.advanceOneRelease answer).2
      unfold advanceOneRelease
      split
      · exact .kept _
      · rename_i hpaused
        rcases s.advanceInternal_steps false answer with hsame | ⟨-, hsteps⟩
        · rw [hsame]
          exact .kept _
        · exact .advanced answer hpaused fun h ↦ Bool.false_ne_true (hsteps h).1
  | stepOneRelease answer =>
      show PaceMove _ _ _ s _ (s.stepOneRelease answer).2
      unfold stepOneRelease
      split
      · exact .kept _
      · cases hresult : (s.advanceInternal true answer).1 with
        | error e =>
            rw [Attempt.andThen_error hresult]
            rcases s.advanceInternal_steps true answer with hsame | ⟨-, hsteps⟩
            · rw [hsame]
              exact .kept _
            · exact .stepped answer fun hpaused ↦ absurd ⟨e, hresult⟩ (hsteps hpaused).2
        | ok =>
            rw [Attempt.andThen_ok hresult]
            split
            · exact .stepped answer fun _ ↦ rfl
            · rename_i hcompleted
              exact .stepped answer fun hpaused ↦
                nomatch (not_not.mp hcompleted).symm.trans hpaused
  | advanceBounded maximumReleases answers =>
      show PaceMove _ _ _ s _ (s.advanceBounded maximumReleases answers).2
      unfold advanceBounded
      split
      · exact .kept _
      · rename_i hruns
        rcases s.advanceRounds_steps ((List.range (s.budget maximumReleases)).map answers) with
          hsame | ⟨hkept, hsteps⟩
        · rw [hsame]
          exact .kept _
        · exact .bounded maximumReleases answers (fun h ↦ hruns (.inr h)) fun hpaused ↦
            hkept.trans (eq_of_beq (hsteps hpaused).1)
  | submit action =>
      have hclock := s.clock_submitOperatorAction action
      exact .submitted action (congrArg (fun c ↦ c.1.1) hclock) (congrArg (fun c ↦ c.1.2) hclock)
        (congrArg Prod.snd hclock)
  | abort reasonIdentity =>
      show PaceMove _ _ _ s _ (s.abort reasonIdentity).2
      unfold abort
      split
      · exact .kept _
      · exact .aborted reasonIdentity rfl rfl

end FullMissionSession

/-- The full mission is paced. -/
def fullPacing :
    PacedSession FullMissionSession (Except GlobalWorldError InitialWorld) WorldAnswer where
  step := FullMissionSession.takeCall
  lifecycle := FullMissionSession.lifecycle
  pace := FullMissionSession.pace
  releases := FullMissionSession.releaseEpoch
  move := FullMissionSession.takeCall_move

/-! ## Pauses hold -/

/-- In every run of a live session, and in every run of a full mission, that keeps the pace in
its pauses, every pause holds. -/
theorem pauses_hold (project fullProject : CompiledMissionProject) (role : OperationalRole)
    (s : LiveMissionSession) (t : FullMissionSession) (calls : List (PacingCall Unit Unit))
    (fullCalls : List (PacingCall (Except GlobalWorldError InitialWorld) WorldAnswer)) :
    (LiveMissionSession.compiled project = .ok s →
      Meets livePacing.step livePacing.KeepsPace s calls →
        Meets livePacing.step livePacing.HoldsPause s calls)
    ∧ (FullMissionSession.compiledWithRole fullProject role = .ok t →
      Meets fullPacing.step fullPacing.KeepsPace t fullCalls →
        Meets fullPacing.step fullPacing.HoldsPause t fullCalls) := by
  constructor
  · intro hcompiled hkeeps
    refine PacedSession.holdsPause_run (fun hpaused ↦ ?_) hkeeps
    exact nomatch (compiled_eq_ok hcompiled).2.2.symm.trans hpaused
  · intro hcompiled hkeeps
    refine PacedSession.holdsPause_run (fun hpaused ↦ ?_) hkeeps
    unfold FullMissionSession.compiledWithRole at hcompiled
    split at hcompiled
    · cases hcompiled
    · cases hcompiled
      exact nomatch hpaused

/-- A pause, with every call that leaves it and every advance that does not. -/
def pausedCalls {ω α : Type} (world : ω) (answer : α) : List (PacingCall ω α) :=
  [.prepare world, .advanceOneRelease answer, .pause, .advanceOneRelease answer,
    .advanceBounded 3 fun _ ↦ answer, .setPace .singleStep, .advanceBounded 3 fun _ ↦ answer,
    .stepOneRelease answer, .resume]

theorem repaces_pausedCalls {ω α : Type} (world : ω) (answer : α) :
    ∀ call ∈ pausedCalls world answer, call.repaces = false := by
  simp [pausedCalls, PacingCall.repaces]

theorem pauses_hold_pausedCalls :
    Meets livePacing.step livePacing.HoldsPause (gnssLossSession .flightController)
        (pausedCalls () ())
      ∧ Meets fullPacing.step fullPacing.HoldsPause (fullGnssLossSession .flightController)
        (pausedCalls (.ok padWorld) (padAnswer (.replicate 3 0))) :=
  have hhold := pauses_hold _ _ _ _ _ (pausedCalls () ())
    (pausedCalls (.ok padWorld) (padAnswer (.replicate 3 0)))
  ⟨hhold.1 (compiled_gnssLossProject .flightController)
      (PacedSession.keepsPace_of_forall (repaces_pausedCalls _ _)),
    hhold.2 (compiled_fullGnssLossProject .flightController)
      (PacedSession.keepsPace_of_forall (repaces_pausedCalls _ _))⟩

/-- A pause in which a running pace is set. -/
def repacedCalls {ω α : Type} (world : ω) : List (PacingCall ω α) :=
  [.prepare world, .pause, .setPace .fast]

/-- In both sessions a paused mission goes on under a bounded advance. -/
theorem pauses_break :
    (¬∀ project s, LiveMissionSession.compiled project = .ok s → ∀ calls,
        Meets livePacing.step livePacing.HoldsPause s calls)
      ∧ ¬∀ project role s, FullMissionSession.compiledWithRole project role = .ok s → ∀ calls,
        Meets fullPacing.step fullPacing.HoldsPause s calls := by
  constructor
  · intro h
    have hrun := h _ _ (compiled_gnssLossProject .flightController)
      (repacedCalls () ++ [.advanceBounded 1 fun _ ↦ ()])
    have hlast := (meets_append.mp hrun).2.1.still (by decide +kernel) (by decide +kernel) rfl
    have hreleases := congrArg livePacing.releases hlast
    revert hreleases
    decide +kernel
  · intro h
    have hrun := h _ _ _ (compiled_fullGnssLossProject .flightController)
      (repacedCalls (.ok padWorld) ++ [.advanceBounded 1 fun _ ↦ padAnswer (.replicate 3 0)])
    have hlast := (meets_append.mp hrun).2.1.still (by decide +kernel) (by decide +kernel) rfl
    have hreleases := congrArg fullPacing.releases hlast
    revert hreleases
    decide +kernel

end Ksa64.Session
