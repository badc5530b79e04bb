import Ksa64.Session.LossProcedure

/-!
# When the live session completes

The limit on releases leaves the procedure time to end only if it stops waiting early
enough.  `LossPhase.Timeline` says which phases a run can be in after how many releases,
depending on what has been answered; from it follow the runs that complete at the limit
(`completes_iff_branched`) and the advances that fail and still change the lifecycle
(`advance_failed_iff`).
-/

namespace Ksa64.Session

open Ksa64.Library Ksa64.Interface Ksa64.Flight

/-! ## Phases over the releases -/

/-- The phases a run can be in after `releases` releases: `updated` says that the update
was answered, and `branched` that the branch was answered below the limit. -/
def LossPhase.Timeline (releases : Nat) (updated branched : Prop) : LossPhase → Prop
  | .checking => releases = 0 ∧ ¬updated ∧ ¬branched
  | .awaitingUpdate entered =>
      entered.toNat = 0 ∧ 1 ≤ releases ∧ releases ≤ 320 ∧ ¬updated ∧ ¬branched
  | .awaitingBranch entered =>
      1 ≤ entered.toNat ∧ entered.toNat ≤ releases ∧ releases ≤ 322 ∧ updated ∧ ¬branched
  | .recovering => 1 ≤ releases ∧ releases ≤ 322 ∧ updated ∧ (branched ↔ releases < 322)
  | .failing => releases = 321 ∧ ¬updated ∨ releases = 322 ∧ updated ∧ ¬branched
  | .ended => 1 ≤ releases ∧ releases ≤ 322 ∧ (updated → branched)

namespace LossPhase.Timeline

variable {releases : Nat} {updated branched : Prop} {phase : LossPhase}

/-- No run has more releases than the limit. -/
theorem le_max (h : phase.Timeline releases updated branched) : releases ≤ 322 := by
  cases phase <;> grind [LossPhase.Timeline]

/-- When the time of a waiting step is up. -/
theorem late_iff (entered epoch : UInt32) (h : entered.toNat ≤ 322) :
    addSat32 entered 320 < epoch ↔ entered.toNat + 320 < epoch.toNat := by
  have h320 : (320 : UInt32).toNat = 320 := rfl
  rw [UInt32.lt_iff_toNat_lt, toNat_addSat32, h320]
  have hepoch := epoch.toNat_lt
  omega

/-- A release below the limit. -/
theorem release {epoch : UInt32} (h : phase.Timeline releases updated branched)
    (hbelow : releases < 322) (hepoch : epoch.toNat = releases + 1) :
    (phase.release epoch).Timeline epoch.toNat updated branched := by
  have hninth : 9 ≤ epoch ↔ 9 ≤ epoch.toNat := UInt32.le_iff_toNat_le
  cases phase with
  | checking =>
      obtain ⟨hzero, hupdated, hbranched⟩ := h
      exact ⟨rfl, by omega, by omega, hupdated, hbranched⟩
  | awaitingUpdate entered =>
      obtain ⟨hentered, hlow, hhigh, hupdated, hbranched⟩ := h
      unfold LossPhase.release LossPhase.tick
      dsimp only
      simp only [late_iff entered epoch (by omega), hninth]
      split
      · split
        · exact .inl ⟨by omega, hupdated⟩
        · exact ⟨hentered, by omega, by omega, hupdated, hbranched⟩
      · exact ⟨hentered, by omega, by omega, hupdated, hbranched⟩
  | awaitingBranch entered =>
      obtain ⟨hlow, hentered, hhigh, hupdated, hbranched⟩ := h
      unfold LossPhase.release LossPhase.tick
      dsimp only
      simp only [late_iff entered epoch (by omega), hninth]
      split
      · split
        · exact .inr ⟨by omega, hupdated, hbranched⟩
        · exact ⟨hlow, by omega, by omega, hupdated, hbranched⟩
      · exact ⟨hlow, by omega, by omega, hupdated, hbranched⟩
  | recovering =>
      obtain ⟨hlow, hhigh, hupdated, hbranched⟩ := h
      have hbranched := hbranched.mpr hbelow
      unfold LossPhase.release LossPhase.tick
      dsimp only
      split
      · exact ⟨by omega, by omega, fun _ ↦ hbranched⟩
      · rename_i hearly
        have hearly := hninth.not.mp hearly
        exact ⟨by omega, by omega, hupdated, iff_of_true hbranched (by omega)⟩
  | failing =>
      obtain ⟨hreleases, hupdated⟩ | ⟨hreleases, -⟩ := h
      · unfold LossPhase.release LossPhase.tick
        dsimp only
        rw [if_pos (hninth.mpr (by omega))]
        exact ⟨by omega, by omega, fun h ↦ absurd h hupdated⟩
      · omega
  | ended =>
      obtain ⟨hlow, hhigh, hbranched⟩ := h
      have hended : LossPhase.ended.release epoch = .ended := ite_self _
      rw [hended]
      exact ⟨by omega, by omega, hbranched⟩

/-- An accepted answer. -/
theorem accept {epoch : UInt32} {loadType : UplinkLoadType}
    (h : phase.Timeline releases updated branched) (hepoch : epoch.toNat = releases)
    (hrequests : phase.requests = some loadType) :
    (phase.accept epoch).Timeline releases
      (updated ∨ loadType = .groundNavigationUpdate)
      (branched ∨ loadType = .contingencyBranch ∧ releases < 322) := by
  cases phase with
  | awaitingUpdate entered =>
      obtain ⟨-, hlow, hhigh, hupdated, hbranched⟩ := h
      obtain rfl := Option.some.inj hrequests
      refine ⟨by omega, by omega, by omega, .inr rfl, ?_⟩
      rintro (hyes | ⟨htype, -⟩)
      · exact hbranched hyes
      · cases htype
  | awaitingBranch entered =>
      obtain ⟨hlow, hentered, hhigh, hupdated, hbranched⟩ := h
      obtain rfl := Option.some.inj hrequests
      refine ⟨by omega, hhigh, .inl hupdated, ?_⟩
      rw [or_iff_right hbranched]
      exact and_iff_right rfl
  | checking | recovering | failing | ended =>
      exact (Option.some_ne_none _ hrequests.symm).elim

/-- At the limit the course has ended unless it waits for a branch. -/
theorem ended_iff (h : phase.Timeline releases updated branched)
    (hreached : releases = 322 ∨ phase = .ended) :
    phase = .ended ↔ (updated → branched) := by
  cases phase <;> grind [LossPhase.Timeline]

end LossPhase.Timeline

/-! ## The course of a session -/

open LiveMissionSession

/-- The call is a commit of a load of the type that the uplink manager and the procedure
accept. -/
def LiveMissionSession.Answers (s : LiveMissionSession) (loadType : UplinkLoadType) :
    SessionCall → Prop
  | .submit action =>
      s.isOpen = true ∧ ∃ r ∈ s.runtime, r.Answers s.project.role loadType action
  | _ => False

instance (s : LiveMissionSession) (loadType : UplinkLoadType) (call : SessionCall) :
    Decidable (s.Answers loadType call) :=
  match call with
  | .submit action => inferInstanceAs (Decidable (s.isOpen = true
      ∧ ∃ r ∈ s.runtime, r.Answers s.project.role loadType action))
  | .prepare | .setPace _ | .pause | .resume | .advanceOneRelease | .stepOneRelease
  | .advanceRound _ | .abort _ =>
      inferInstanceAs (Decidable False)

/-- A prepared session and its procedure: they complete together. -/
structure Course (s : LiveMissionSession) (updated branched : Prop) : Prop where
  prepared : s.lifecycle ≠ .compiled
  ready : s.lifecycle = .ready → s.releases = 0
  follows : ∃ r phase, s.runtime = some r ∧ r.InPhase phase
    ∧ phase.Timeline r.releases.toNat updated branched
    ∧ (s.lifecycle = .completed ↔ phase = .ended)

section Course

variable {s : LiveMissionSession} {updated branched : Prop}

theorem releases_of_runtime {r : GnssLossRuntime} (h : s.runtime = some r) :
    s.releases = r.releases := by
  unfold LiveMissionSession.releases
  rw [h]
  rfl

/-- A session that has no call of its runtime to make stays on its course. -/
theorem Course.kept {next : LiveMissionSession} (h : Course s updated branched)
    (hruntime : next.runtime = s.runtime) (hprepared : next.lifecycle ≠ .compiled)
    (hready : next.lifecycle = .ready → s.lifecycle = .ready)
    (hcompleted : next.lifecycle = .completed ↔ s.lifecycle = .completed) :
    Course next updated branched where
  prepared := hprepared
  ready := by
    intro hnext
    unfold LiveMissionSession.releases
    rw [hruntime]
    exact h.ready (hready hnext)
  follows := by
    obtain ⟨r, phase, hr, hphase, htimeline, hended⟩ := h.follows
    exact ⟨r, phase, hruntime.trans hr, hphase, htimeline, hcompleted.trans hended⟩

/-- The evidence of a procedure that has ended can be taken. -/
theorem finishEvidence_ok {r : GnssLossRuntime} (hterminal : r.procedure.state.isTerminal = true)
    (hflight : r.finalFlight.isSome) : ∃ evidence, r.finishEvidence = .ok evidence := by
  obtain ⟨flight, hflight⟩ := Option.isSome_iff_exists.mp hflight
  unfold GnssLossRuntime.finishEvidence
  rw [hterminal, hflight]
  exact ⟨_, rfl⟩

/-- What an open session does with the answer of its runtime. -/
theorem advanceInternal_of_error {r next : GnssLossRuntime} {e : MissionSessionError}
    (hopen : s.isOpen = true) (hr : s.runtime = some r)
    (herror : r.advanceOneRelease = (.error e, next)) (singleStep : Bool) :
    s.advanceInternal singleStep =
      (.error e, { s with lifecycle := .running, runtime := some next }) := by
  unfold LiveMissionSession.advanceInternal
  simp only [hopen, hr, herror, Bool.not_true, Bool.false_eq_true, if_false]

theorem advanceInternal_of_ok {r next : GnssLossRuntime} {terminal : Bool}
    (hopen : s.isOpen = true) (hr : s.runtime = some r)
    (hok : r.advanceOneRelease = (.ok terminal, next)) (singleStep : Bool) :
    s.advanceInternal singleStep =
      Attempt.andThen
        (({ s with lifecycle := .running, runtime := some next }.record .release
          next.releases).concludeRelease next terminal singleStep)
        fun _ s ↦ (.ok s.snapshot, { s with telemetry := s.telemetry ++ [s.snapshot] }) := by
  unfold LiveMissionSession.advanceInternal
  simp only [hopen, hr, hok, Bool.not_true, Bool.false_eq_true, if_false]

/-- An open session at the limit fails to advance, and is running afterwards. -/
theorem Course.advanceInternal_limit (h : Course s updated branched) (hopen : s.isOpen = true)
    (hlimit : s.releases = liveGnssLossMaxReleases) (singleStep : Bool) :
    s.advanceInternal singleStep = (.error .lifecycle, { s with lifecycle := .running }) := by
  obtain ⟨r, phase, hr, -⟩ := h.follows
  have hreleases := (releases_of_runtime hr).symm.trans hlimit
  rw [advanceInternal_of_error hopen hr
    ((GnssLossRuntime.advanceOneRelease_frame r).1 (UInt32.le_of_eq hreleases.symm)) singleStep,
    ← hr]

/-- Below the limit an open session advances by a release, and completes when the course of
its procedure ends. -/
theorem Course.advanceInternal_below (h : Course s updated branched) (hopen : s.isOpen = true)
    (hbelow : s.releases < liveGnssLossMaxReleases) (singleStep : Bool) :
    ¬(s.advanceInternal singleStep).Failed
      ∧ (s.advanceInternal singleStep).2.releases.toNat = s.releases.toNat + 1
      ∧ ((s.advanceInternal singleStep).2.lifecycle = .completed
        ∨ (s.advanceInternal singleStep).2.lifecycle = if singleStep then .paused else .running)
      ∧ Course (s.advanceInternal singleStep).2 updated branched := by
  obtain ⟨r, phase, hr, hphase, htimeline, hended⟩ := h.follows
  rw [releases_of_runtime hr] at hbelow ⊢
  obtain ⟨hok, hreleases, hnext⟩ := hphase.release hbelow
  have hlt : r.releases.toNat < 322 := UInt32.lt_iff_toNat_lt.mp hbelow
  generalize hadvanced : r.advanceOneRelease = advanced at hok hreleases hnext
  obtain ⟨result, next⟩ := advanced
  obtain rfl : result = _ := hok
  have hone : next.releases.toNat = r.releases.toNat + 1 := by
    rw [hreleases, UInt32.toNat_add, UInt32.toNat_one]
    omega
  rw [← hreleases] at hnext
  have htimeline := htimeline.release hlt hone
  rw [advanceInternal_of_ok hopen hr hadvanced, ← hreleases]
  have hcourse (t : LiveMissionSession) (hruntime : t.runtime = some next)
      (hlifecycle : t.lifecycle = .completed ∨ t.lifecycle = .paused ∨ t.lifecycle = .running)
      (hcompleted : t.lifecycle = .completed ↔ phase.release next.releases = .ended) :
      Course t updated branched := {
    prepared := by obtain h | h | h := hlifecycle <;> rw [h] <;> nofun
    ready := by
      intro hready
      obtain h | h | h := hlifecycle <;> exact nomatch h.symm.trans hready
    follows := ⟨next, _, hruntime, hnext, htimeline, hcompleted⟩ }
  by_cases hend : phase.release next.releases = .ended
  · have hterminal : next.procedure.state.isTerminal = true := by
      rw [GnssLossRuntime.isTerminal_iff hnext.stands]
      exact decide_eq_true hend
    have hflown : next.releases ≠ 0 := by
      intro hzero
      rw [hzero, UInt32.toNat_zero] at hone
      omega
    obtain ⟨evidence, hevidence⟩ := finishEvidence_ok hterminal (hnext.flown hflown).2
    rw [decide_eq_true hend]
    unfold LiveMissionSession.concludeRelease
    simp only [if_true, hevidence]
    rw [Attempt.andThen_ok rfl]
    exact ⟨Attempt.not_failed_of_ok rfl, hone, .inl rfl,
      hcourse _ rfl (.inl rfl) (iff_of_true rfl hend)⟩
  · rw [decide_eq_false hend]
    unfold LiveMissionSession.concludeRelease
    rw [if_neg Bool.false_ne_true]
    cases singleStep with
    | true =>
        rw [if_pos rfl, Attempt.andThen_ok rfl]
        exact ⟨Attempt.not_failed_of_ok rfl, hone, .inr rfl,
          hcourse _ rfl (.inr (.inl rfl)) (iff_of_false nofun hend)⟩
    | false =>
        rw [if_neg Bool.false_ne_true, Attempt.andThen_ok rfl]
        exact ⟨Attempt.not_failed_of_ok rfl, hone, .inr rfl,
          hcourse _ rfl (.inr (.inr rfl)) (iff_of_false nofun hend)⟩

/-- A closed session does not advance. -/
theorem advanceInternal_closed (hclosed : s.isOpen = false) (singleStep : Bool) :
    s.advanceInternal singleStep = (.error .lifecycle, s) := by
  unfold LiveMissionSession.advanceInternal
  rw [hclosed]
  rfl

/-- Either an open session is at the limit, or it is below. -/
theorem Course.limit_or_below (h : Course s updated branched) :
    s.releases = liveGnssLossMaxReleases ∨ s.releases < liveGnssLossMaxReleases := by
  obtain ⟨r, phase, hr, -, htimeline, -⟩ := h.follows
  have hle : r.releases.toNat ≤ 322 := htimeline.le_max
  have hmax : liveGnssLossMaxReleases.toNat = 322 := rfl
  rw [releases_of_runtime hr, UInt32.lt_iff_toNat_lt, ← UInt32.toNat_inj]
  omega

theorem isOpen_iff : s.isOpen = true ↔
    s.lifecycle = .ready ∨ s.lifecycle = .running ∨ s.lifecycle = .paused := by
  unfold LiveMissionSession.isOpen
  simp [or_assoc]

theorem not_completed_of_isOpen (hopen : s.isOpen = true) : s.lifecycle ≠ .completed := by
  intro hcompleted
  obtain h | h | h := isOpen_iff.mp hopen <;> exact nomatch h.symm.trans hcompleted

/-- Advancing keeps the course. -/
theorem Course.advanceInternal (h : Course s updated branched) (singleStep : Bool) :
    Course (s.advanceInternal singleStep).2 updated branched := by
  cases hopen : s.isOpen with
  | false =>
      rw [advanceInternal_closed hopen]
      exact h
  | true =>
      obtain hlimit | hbelow := h.limit_or_below
      · rw [h.advanceInternal_limit hopen hlimit]
        exact h.kept rfl nofun nofun (iff_of_false nofun (not_completed_of_isOpen hopen))
      · exact (h.advanceInternal_below hopen hbelow singleStep).2.2.2

/-- An answer answers what the phase requests. -/
theorem requests_of_answers {r : GnssLossRuntime} {phase : LossPhase} (h : r.InPhase phase)
    {role : OperationalRole} {loadType : UplinkLoadType} {action : MissionOperatorAction}
    (hanswers : r.Answers role loadType action) : phase.requests = some loadType := by
  cases action with
  | stage | cancel => exact hanswers.elim
  | commit request =>
      obtain ⟨load, -, -, -, haccepts⟩ := hanswers
      exact ((h.stands.accepts_iff role loadType).mp haccepts).2

/-- Submissions keep the course, and move it on when they answer the procedure. -/
theorem Course.submit (h : Course s updated branched) (action : MissionOperatorAction) :
    Course (s.submitOperatorAction action).2
      (updated ∨ s.Answers .groundNavigationUpdate (.submit action))
      (branched ∨ s.Answers .contingencyBranch (.submit action)
        ∧ s.releases < liveGnssLossMaxReleases) := by
  obtain ⟨hruntime, -, hlifecycle⟩ := submitOperatorAction_frame s action
  obtain ⟨r, phase, hr, hphase, htimeline, hended⟩ := h.follows
  have hbelow : s.releases < liveGnssLossMaxReleases ↔ r.releases.toNat < 322 := by
    rw [releases_of_runtime hr, UInt32.lt_iff_toNat_lt]
    rfl
  have hanswers (loadType : UplinkLoadType) : s.Answers loadType (.submit action) ↔
      s.isOpen = true ∧ r.Answers s.project.role loadType action := by
    unfold LiveMissionSession.Answers
    rw [hr]
    simp
  rw [propext (hanswers _), propext (hanswers _), propext hbelow]
  cases hopen : s.isOpen with
  | false =>
      have hnone (p : Prop) : ¬(false = true ∧ p) := fun hp ↦ Bool.false_ne_true hp.1
      rw [hopen, if_neg Bool.false_ne_true] at hruntime
      rw [or_iff_left (hnone _), or_iff_left (fun hp ↦ hnone _ hp.1)]
      refine h.kept hruntime ?_ ?_ ?_ <;> rw [hlifecycle]
      · exact h.prepared
      · exact id
  | true =>
      rw [hopen, if_pos rfl, hr] at hruntime
      rw [and_iff_right rfl, and_iff_right rfl]
      have hreleases := (GnssLossRuntime.submit_frame r s.project.role action).releases_eq
      have hready : (s.submitOperatorAction action).2.lifecycle = .ready →
          (s.submitOperatorAction action).2.releases = 0 := by
        rw [hlifecycle, releases_of_runtime hruntime, hreleases, ← releases_of_runtime hr]
        exact h.ready
      obtain ⟨loadType, hyes, hrequests, hnext⟩ | ⟨hno, hnext⟩ :=
        hphase.submit s.project.role action
      · have htype (other : UplinkLoadType) :
            r.Answers s.project.role other action ↔ loadType = other := by
          constructor
          · intro hother
            exact Option.some.inj (hrequests.symm.trans (requests_of_answers hphase hother))
          · rintro rfl
            exact hyes
        rw [propext (htype _), propext (htype _)]
        obtain ⟨hphase, haccept⟩ := LossPhase.not_ended_of_requests r.releases hrequests
        refine ⟨by rw [hlifecycle]; exact h.prepared, hready, _, _, hruntime, hnext, ?_, ?_⟩
        · rw [hreleases]
          exact htimeline.accept rfl hrequests
        · rw [hlifecycle, hended]
          exact iff_of_false hphase haccept
      · rw [or_iff_left (hno _), or_iff_left fun hp ↦ hno _ hp.1]
        refine ⟨by rw [hlifecycle]; exact h.prepared, hready, _, _, hruntime, hnext, ?_, ?_⟩
        · rw [hreleases]
          exact htimeline
        · rw [hlifecycle]
          exact hended

theorem Course.pause (h : Course s updated branched) : Course s.pause.2 updated branched := by
  unfold LiveMissionSession.pause
  split
  · exact h
  · rename_i hopen
    refine h.kept rfl nofun nofun (iff_of_false nofun fun hcompleted ↦ hopen ?_)
    rw [hcompleted]
    exact ⟨nofun, nofun⟩

/-- Every call keeps the course, and the answers move it on. -/
theorem Course.step (h : Course s updated branched) (call : SessionCall) :
    Course (s.step call) (updated ∨ s.Answers .groundNavigationUpdate call)
      (branched ∨ s.Answers .contingencyBranch call ∧ s.releases < liveGnssLossMaxReleases) := by
  by_cases hsubmit : ∃ action, call = .submit action
  · obtain ⟨action, rfl⟩ := hsubmit
    exact h.submit action
  · have hno (loadType : UplinkLoadType) : ¬s.Answers loadType call := by
      cases call with
      | submit action => exact absurd ⟨action, rfl⟩ hsubmit
      | _ => exact id
    rw [or_iff_left (hno _), or_iff_left fun hp ↦ hno _ hp.1]
    cases call with
    | submit action => exact absurd ⟨action, rfl⟩ hsubmit
    | prepare =>
        have hkept : s.prepare.2 = s := by
          unfold LiveMissionSession.prepare
          rw [if_pos h.prepared]
        change Course s.prepare.2 updated branched
        rw [hkept]
        exact h
    | setPace pace =>
        change Course (s.setPace pace).2 updated branched
        unfold LiveMissionSession.setPace
        split
        · exact h
        · split
          · exact h.pause
          · exact h.kept rfl h.prepared id Iff.rfl
    | pause => exact h.pause
    | resume =>
        change Course s.resume.2 updated branched
        unfold LiveMissionSession.resume
        split
        · exact h
        · rename_i hpaused
          refine h.kept rfl nofun nofun (iff_of_false nofun ?_)
          rw [not_not.mp hpaused]
          nofun
    | abort reasonIdentity =>
        change Course (s.abort reasonIdentity).2 updated branched
        unfold LiveMissionSession.abort
        split
        · exact h
        · rename_i hstopped
          exact h.kept rfl nofun nofun (iff_of_false nofun (not_or.mp hstopped).1)
    | advanceOneRelease =>
        change Course s.advanceOneRelease.2 updated branched
        unfold LiveMissionSession.advanceOneRelease
        split
        · exact h
        · exact h.advanceInternal false
    | stepOneRelease =>
        change Course s.stepOneRelease.2 updated branched
        unfold LiveMissionSession.stepOneRelease
        split
        · exact h
        · refine Attempt.andThen_keeps (P := fun t ↦ Course t updated branched)
            (h.advanceInternal true) fun _ t ht ↦ ?_
          split
          · rename_i hcompleted
            exact ht.kept rfl nofun nofun (iff_of_false nofun hcompleted)
          · exact ht
    | advanceRound singleStep => exact h.advanceInternal singleStep

/-- A session that has just been prepared. -/
theorem course_of_prepared {project : CompiledMissionProject} (hcompiled : compiled project = .ok s)
    (hprepared : s.prepare.1 = .ok ()) : Course s.prepare.2 False False := by
  obtain ⟨-, -, hlifecycle⟩ := compiled_eq_ok hcompiled
  revert hprepared
  unfold LiveMissionSession.prepare
  rw [if_neg (not_not.mpr hlifecycle)]
  cases hnew : GnssLossRuntime.new with
  | error e => exact fun h ↦ nomatch h
  | ok r =>
      intro _
      have hfresh := GnssLossRuntime.fresh_of_new hnew
      have hreleases := hfresh.releases_eq
      refine ⟨nofun, fun _ ↦ hreleases, r, .checking, rfl, ?_, ⟨?_, id, id⟩, iff_of_false nofun nofun⟩
      · exact {
          equipped := hfresh.equipped
          stands := hfresh.procedure_at
          checking_iff := iff_of_true rfl hreleases
          flown := fun hzero ↦ absurd hreleases hzero }
      · rw [hreleases]
        rfl

theorem ready_of_prepared {project : CompiledMissionProject}
    (hcompiled : compiled project = .ok s) (hprepared : s.prepare.1 = .ok ()) :
    s.prepare.2.lifecycle = .ready := by
  obtain ⟨-, -, hlifecycle⟩ := compiled_eq_ok hcompiled
  revert hprepared
  unfold LiveMissionSession.prepare
  rw [if_neg (not_not.mpr hlifecycle)]
  cases GnssLossRuntime.new with
  | error e => exact fun h ↦ nomatch h
  | ok r => exact fun _ ↦ rfl

/-- The update is answered in the run. -/
def Updated (s : LiveMissionSession) (calls : List SessionCall) : Prop :=
  Happens LiveMissionSession.step (fun s call ↦ s.Answers .groundNavigationUpdate call) s calls

/-- The branch is answered in the run, below the limit on releases. -/
def Branched (s : LiveMissionSession) (calls : List SessionCall) : Prop :=
  Happens LiveMissionSession.step
    (fun s call ↦ s.Answers .contingencyBranch call ∧ s.releases < liveGnssLossMaxReleases) s calls

/-- A run from a prepared session follows the course that its answers set. -/
theorem Course.run (h : Course s False False) (calls : List SessionCall) :
    Course (run LiveMissionSession.step s calls) (Updated s calls) (Branched s calls) := by
  have hinv := @history_invariant _ _ LiveMissionSession.step
    (fun pre t ↦ t = Library.run LiveMissionSession.step s pre
      ∧ Course t (Updated s pre) (Branched s pre)) ?_ s ⟨rfl, h⟩ calls
  · exact hinv.2
  · rintro pre t call ⟨rfl, ht⟩
    refine ⟨(run_concat ..).symm, ?_⟩
    unfold Updated Branched
    rw [propext happens_concat, propext happens_concat]
    exact ht.step call

/-- Once a run has reached its limit or its end, it has completed exactly when no update
waits for its branch. -/
theorem Course.completed_iff (h : Course s updated branched)
    (hreached : s.releases = liveGnssLossMaxReleases ∨ s.lifecycle = .completed) :
    s.lifecycle = .completed ↔ (updated → branched) := by
  obtain ⟨r, phase, hr, -, htimeline, hended⟩ := h.follows
  rw [hended] at hreached ⊢
  refine htimeline.ended_iff (hreached.imp_left fun hlimit ↦ ?_)
  rw [← releases_of_runtime hr, hlimit]
  rfl

/-- The run submits actions and advances, release by release, up to the limit at least. -/
structure FliesOut (calls : List SessionCall) : Prop where
  calls_eq : ∀ call ∈ calls, call = .advanceOneRelease ∨ ∃ action, call = .submit action
  enough : liveGnssLossMaxReleases.toNat ≤ calls.count .advanceOneRelease

/-- A session that has completed, or that advances and has advanced so many times. -/
def Advanced (s : LiveMissionSession) (times : Nat) : Prop :=
  s.lifecycle = .completed
    ∨ (s.lifecycle = .ready ∨ s.lifecycle = .running) ∧ s.releases.toNat = min times 322

/-- An advance is one more. -/
theorem Advanced.advance {times : Nat} (h : Course s updated branched) (hadvanced : Advanced s times) :
    Advanced s.advanceOneRelease.2 (times + 1) := by
  unfold LiveMissionSession.advanceOneRelease
  obtain hcompleted | ⟨hlifecycle, hreleases⟩ := hadvanced
  · have hclosed : s.isOpen = false := Bool.not_eq_true _ ▸
      fun hopen ↦ not_completed_of_isOpen hopen hcompleted
    rw [if_neg (by rw [hcompleted]; nofun), advanceInternal_closed hclosed]
    exact .inl hcompleted
  · have hopen := isOpen_iff.mpr (hlifecycle.imp_right Or.inl)
    rw [if_neg (by obtain h | h := hlifecycle <;> rw [h] <;> nofun)]
    obtain hlimit | hbelow := h.limit_or_below
    · rw [h.advanceInternal_limit hopen hlimit]
      refine .inr ⟨.inr rfl, ?_⟩
      have hmax : s.releases.toNat = 322 := congrArg UInt32.toNat hlimit
      change s.releases.toNat = _
      omega
    · obtain ⟨-, hnext, hlifecycle, -⟩ := h.advanceInternal_below hopen hbelow false
      refine hlifecycle.imp_right fun hrunning ↦ ⟨.inr hrunning, ?_⟩
      have hlt : s.releases.toNat < 322 := UInt32.lt_iff_toNat_lt.mp hbelow
      omega

/-- A submission is none. -/
theorem Advanced.submit {times : Nat} (h : Course s updated branched) (hadvanced : Advanced s times)
    (action : MissionOperatorAction) : Advanced (s.submitOperatorAction action).2 times := by
  obtain ⟨hruntime, -, hlifecycle⟩ := submitOperatorAction_frame s action
  have hreleases : (s.submitOperatorAction action).2.releases = s.releases := by
    obtain ⟨r, -, hr, -⟩ := h.follows
    unfold LiveMissionSession.releases
    rw [hruntime, hr]
    split
    · exact (GnssLossRuntime.submit_frame r s.project.role action).releases_eq
    · rfl
  unfold Advanced
  rw [hlifecycle, hreleases]
  exact hadvanced

/-- A run that flies out reaches its limit or its end. -/
theorem reached_of_fliesOut (h : Course s False False) (hready : s.lifecycle = .ready)
    {calls : List SessionCall} (hcalls : FliesOut calls) :
    (run LiveMissionSession.step s calls).releases = liveGnssLossMaxReleases
      ∨ (run LiveMissionSession.step s calls).lifecycle = .completed := by
  have hinv := @history_invariant_of_meets _ _ LiveMissionSession.step
    (fun _ call ↦ call = .advanceOneRelease ∨ ∃ action, call = .submit action)
    (fun pre t ↦ t = Library.run LiveMissionSession.step s pre
      ∧ Advanced t (pre.count .advanceOneRelease)) ?_ s
    ⟨rfl, .inr ⟨.inl hready, by rw [h.ready hready]; rfl⟩⟩ calls
    (meets_iff_forall.mpr ?_)
  · obtain hcompleted | ⟨-, hreleases⟩ := hinv.2
    · exact .inr hcompleted
    · have henough := hcalls.enough
      have hmax : liveGnssLossMaxReleases.toNat = 322 := rfl
      exact .inl (UInt32.toNat_inj.mp (by omega))
  · rintro pre t call ⟨rfl, ht⟩ hcall
    refine ⟨(run_concat ..).symm, ?_⟩
    have hcourse := h.run pre
    obtain rfl | ⟨action, rfl⟩ := hcall
    · rw [List.count_append, List.count_singleton_self]
      exact ht.advance hcourse
    · rw [List.count_append, List.count_singleton, if_neg (by simp), Nat.add_zero]
      exact ht.submit hcourse action
  · rintro pre call post rfl
    exact hcalls.calls_eq call (by simp)

end Course

/-! ## Advances that fail -/

/-- The three ways to advance a session. -/
inductive Advance where
  | oneRelease
  | step
  | bounded (maximumReleases : UInt32)
deriving DecidableEq

namespace LiveMissionSession

def advance (s : LiveMissionSession) : Advance → Outcome MissionSessionSnapshot
  | .oneRelease => s.advanceOneRelease
  | .step => s.stepOneRelease
  | .bounded maximumReleases => s.advanceBounded maximumReleases

/-- The procedure waits for the branch. -/
def AwaitsBranch (s : LiveMissionSession) : Prop :=
  ∃ r ∈ s.runtime, r.procedure.state = .active ∧ r.procedure.currentStep = 5

/-- The advance would go beyond the limit on releases. -/
def Overruns (s : LiveMissionSession) : Advance → Prop
  | .oneRelease => False
  | .step => s.releases = liveGnssLossMaxReleases
  | .bounded maximumReleases =>
      maximumReleases ≠ 0 ∧ s.pace ≠ .paused
        ∧ (s.releases = liveGnssLossMaxReleases ∨ s.AwaitsBranch)
        ∧ liveGnssLossMaxReleases.toNat < s.releases.toNat + s.budget maximumReleases

end LiveMissionSession

section Advance

variable {s : LiveMissionSession} {updated branched : Prop}

/-- An open session whose procedure waits for the branch, or that is at its limit, does not
complete by itself. -/
theorem Course.awaitsBranch_iff (h : Course s updated branched) (hopen : s.isOpen = true) :
    s.releases = liveGnssLossMaxReleases ∨ s.AwaitsBranch ↔ updated ∧ ¬branched := by
  obtain ⟨r, phase, hr, hphase, htimeline, hended⟩ := h.follows
  have hmax : s.releases = liveGnssLossMaxReleases ↔ r.releases.toNat = 322 := by
    rw [releases_of_runtime hr, ← UInt32.toNat_inj]
    rfl
  have hawaits : s.AwaitsBranch ↔ r.procedure.state = .active ∧ r.procedure.currentStep = 5 := by
    unfold LiveMissionSession.AwaitsBranch
    rw [hr]
    simp
  rw [hmax, hawaits]
  have hstands := hphase.stands
  have hother {n : UInt16} (hat : r.procedure.currentStep = n) (hn : n ≠ 5) :
      ¬(r.procedure.state = .active ∧ r.procedure.currentStep = 5) :=
    fun hfive ↦ hn (hat.symm.trans hfive.2)
  cases phase with
  | checking =>
      obtain ⟨hzero, hupdated, -⟩ := htimeline
      rw [or_iff_left (hother hstands.currentStep_eq (by decide))]
      exact iff_of_false (by omega) fun hboth ↦ hupdated hboth.1
  | awaitingUpdate entered =>
      obtain ⟨-, -, hhigh, hupdated, -⟩ := htimeline
      rw [or_iff_left (hother hstands.currentStep_eq (by decide))]
      exact iff_of_false (by omega) fun hboth ↦ hupdated hboth.1
  | awaitingBranch entered =>
      obtain ⟨-, -, -, hupdated, hbranched⟩ := htimeline
      exact iff_of_true (.inr ⟨hstands.state_eq, hstands.currentStep_eq⟩) ⟨hupdated, hbranched⟩
  | recovering =>
      obtain ⟨entered, hat⟩ := hstands
      obtain ⟨-, hhigh, hupdated, hbranched⟩ := htimeline
      rw [or_iff_left (hother hat.currentStep_eq (by decide)), and_iff_right hupdated, hbranched]
      omega
  | failing =>
      obtain ⟨entered, hat⟩ := hstands
      rw [or_iff_left (hother hat.currentStep_eq (by decide))]
      obtain ⟨hreleases, hupdated⟩ | ⟨hreleases, hboth⟩ := htimeline
      · exact iff_of_false (by omega) fun hboth ↦ hupdated hboth.1
      · exact iff_of_true hreleases hboth
  | ended => exact absurd (hended.mpr rfl) (not_completed_of_isOpen hopen)

/-- An advance that fails half way, or at once, leaves an open session running. -/
theorem Course.advanceInternal_failed (h : Course s updated branched) (hopen : s.isOpen = true)
    (singleStep : Bool) :
    ((s.advanceInternal singleStep).Failed ↔ s.releases = liveGnssLossMaxReleases)
      ∧ ((s.advanceInternal singleStep).Failed →
        (s.advanceInternal singleStep).2.lifecycle = .running) := by
  obtain hlimit | hbelow := h.limit_or_below
  · rw [h.advanceInternal_limit hopen hlimit]
    exact ⟨iff_of_true ⟨_, rfl⟩ hlimit, fun _ ↦ rfl⟩
  · have hok := (h.advanceInternal_below hopen hbelow singleStep).1
    exact ⟨iff_of_false hok (UInt32.ne_of_lt hbelow), fun hfailed ↦ absurd hfailed hok⟩

/-- The rounds of an open session fail exactly when there are more of them than releases
left, and the procedure does not end before. -/
theorem Course.advanceRounds_failed (h : Course s updated branched) (hopen : s.isOpen = true)
    {singleStep : Bool} {budget : Nat} (hbudget : singleStep = true → budget ≤ 1) :
    ((advanceRounds singleStep budget s).Failed ↔
        (updated ∧ ¬branched) ∧ liveGnssLossMaxReleases.toNat < s.releases.toNat + budget)
      ∧ ((advanceRounds singleStep budget s).Failed →
        (advanceRounds singleStep budget s).2.lifecycle = .running) := by
  have hmax : liveGnssLossMaxReleases.toNat = 322 := rfl
  induction budget generalizing s with
  | zero =>
      have hok : ¬(advanceRounds singleStep 0 s).Failed := Attempt.not_failed_of_ok rfl
      have hle : s.releases.toNat ≤ 322 := by
        obtain hlimit | hbelow := h.limit_or_below
        · rw [hlimit, hmax]
        · exact (UInt32.lt_iff_toNat_lt.mp hbelow).le
      exact ⟨iff_of_false hok fun hboth ↦ by omega, fun hfailed ↦ absurd hfailed hok⟩
  | succ budget ih =>
      conv_lhs => unfold advanceRounds
      conv_rhs => unfold advanceRounds
      obtain hlimit | hbelow := h.limit_or_below
      · have hwaits := (h.awaitsBranch_iff hopen).mp (.inl hlimit)
        rw [h.advanceInternal_limit hopen hlimit, Attempt.andThen_error rfl]
        exact ⟨iff_of_true ⟨_, rfl⟩ ⟨hwaits, by rw [hlimit]; omega⟩, fun _ ↦ rfl⟩
      · obtain ⟨hok, hreleases, hlifecycle, hcourse⟩ := h.advanceInternal_below hopen hbelow singleStep
        have hlt : s.releases.toNat < 322 := UInt32.lt_iff_toNat_lt.mp hbelow
        generalize s.advanceInternal singleStep = advanced at *
        obtain ⟨_ | snapshot, next⟩ := advanced
        · exact absurd ⟨_, rfl⟩ hok
        rw [Attempt.andThen_ok rfl]
        obtain hcompleted | hlifecycle := hlifecycle
        · rw [if_pos (.inl hcompleted)]
          have hanswered := (hcourse.completed_iff (.inr hcompleted)).mp hcompleted
          exact ⟨iff_of_false (Attempt.not_failed_of_ok rfl) fun hboth ↦
            hboth.1.2 (hanswered hboth.1.1), fun hfailed ↦ absurd hfailed (Attempt.not_failed_of_ok rfl)⟩
        · cases singleStep with
          | true =>
              rw [if_pos (.inr hlifecycle)]
              have hnone := hbudget rfl
              exact ⟨iff_of_false (Attempt.not_failed_of_ok rfl) fun hboth ↦ by omega,
                fun hfailed ↦ absurd hfailed (Attempt.not_failed_of_ok rfl)⟩
          | false =>
              have hrunning : next.lifecycle = .running := hlifecycle
              have hcourse : Course next updated branched := hcourse
              have hreleases : next.releases.toNat = s.releases.toNat + 1 := hreleases
              rw [if_neg (by rw [hrunning]; exact not_or.mpr ⟨by rintro ⟨⟩, by rintro ⟨⟩⟩)]
              obtain ⟨hiff, hthen⟩ :=
                ih hcourse (isOpen_iff.mpr (.inr (.inl hrunning))) Bool.noConfusion
              refine ⟨hiff.trans (and_congr_right fun _ ↦ ?_), hthen⟩
              omega

/-- A session that is ready has answered nothing and is not at its limit. -/
theorem Course.not_ready (h : Course s updated branched)
    (hlate : s.releases = liveGnssLossMaxReleases ∨ updated) : s.lifecycle ≠ .ready := by
  intro hready
  have hzero := h.ready hready
  obtain hlimit | hupdated := hlate
  · exact absurd (hlimit.symm.trans hzero) (by decide)
  · obtain ⟨r, phase, hr, -, htimeline, hended⟩ := h.follows
    rw [releases_of_runtime hr] at hzero
    rw [hzero, UInt32.toNat_zero] at htimeline
    cases phase <;> grind [LossPhase.Timeline]

/-- An open session that is neither ready nor paused is running. -/
theorem lifecycle_eq_iff (hopen : s.isOpen = true) (hready : s.lifecycle ≠ .ready) :
    .running = s.lifecycle ↔ s.lifecycle ≠ .paused := by
  obtain h | h | h := isOpen_iff.mp hopen
  · exact absurd h hready
  · rw [h]
    exact iff_of_true rfl nofun
  · rw [h]
    exact iff_of_false nofun (not_not.mpr rfl)

/-- The rounds of a closed session leave it alone. -/
theorem advanceRounds_closed (hclosed : s.isOpen = false) (singleStep : Bool) (budget : Nat) :
    (advanceRounds singleStep budget s).2 = s := by
  cases budget with
  | zero => rfl
  | succ budget =>
      unfold advanceRounds
      rw [advanceInternal_closed hclosed, Attempt.andThen_error rfl]

/-- An advance fails without changing the lifecycle exactly if it does not take a paused
session beyond its limit. -/
theorem Course.advance_failed_iff (h : Course s updated branched) (advance : Advance) :
    ((s.advance advance).Failed → (s.advance advance).2.lifecycle = s.lifecycle) ↔
      ¬(s.lifecycle = .paused ∧ s.Overruns advance) := by
  have hclosed (hopen : s.isOpen = false) : s.lifecycle ≠ .paused := by
    intro hpaused
    exact Bool.false_ne_true (hopen.symm.trans (isOpen_iff.mpr (.inr (.inr hpaused))))
  cases advance with
  | oneRelease =>
      refine iff_of_true ?_ fun hboth ↦ hboth.2
      unfold LiveMissionSession.advance LiveMissionSession.advanceOneRelease
      dsimp only
      split
      · exact fun _ ↦ rfl
      · rename_i hpaused
        cases hopen : s.isOpen with
        | false =>
            rw [advanceInternal_closed hopen]
            exact fun _ ↦ rfl
        | true =>
            obtain ⟨hiff, hrunning⟩ := h.advanceInternal_failed hopen false
            intro hfailed
            rw [hrunning hfailed]
            exact (lifecycle_eq_iff hopen (h.not_ready (.inl (hiff.mp hfailed)))).mpr hpaused
  | step =>
      unfold LiveMissionSession.advance LiveMissionSession.stepOneRelease
      dsimp only
      cases hopen : s.isOpen with
      | false => exact iff_of_true (fun _ ↦ rfl) fun hboth ↦ hclosed hopen hboth.1
      | true =>
          rw [Bool.not_true, if_neg Bool.false_ne_true, Attempt.failed_andThen]
          · obtain ⟨hiff, hrunning⟩ := h.advanceInternal_failed hopen true
            unfold LiveMissionSession.Overruns
            dsimp only
            rw [not_and', hiff]
            refine forall_congr' fun hlimit ↦ ?_
            have hfailed := hiff.mpr hlimit
            rw [Attempt.andThen_of_failed hfailed, hrunning hfailed]
            exact lifecycle_eq_iff hopen (h.not_ready (.inl hlimit))
          · intro snapshot t
            split <;> exact Attempt.not_failed_of_ok rfl
  | bounded maximumReleases =>
      unfold LiveMissionSession.advance LiveMissionSession.advanceBounded
        LiveMissionSession.Overruns
      dsimp only
      split
      · rename_i hidle
        refine iff_of_true (fun _ ↦ rfl) fun hboth ↦ ?_
        exact hidle.elim hboth.2.1 hboth.2.2.1
      · rename_i hbusy
        obtain ⟨hnonzero, hpace⟩ := not_or.mp hbusy
        rw [Attempt.failed_andThen fun _ _ ↦ Attempt.not_failed_of_ok rfl]
        cases hopen : s.isOpen with
        | false =>
            refine iff_of_true (fun hfailed ↦ ?_) fun hboth ↦ hclosed hopen hboth.1
            rw [Attempt.andThen_of_failed hfailed, advanceRounds_closed hopen]
        | true =>
            have hbudget : (s.pace == .singleStep) = true → s.budget maximumReleases ≤ 1 := by
              intro hsingle
              unfold LiveMissionSession.budget
              rw [beq_iff_eq.mp hsingle]
            obtain ⟨hiff, hrunning⟩ := h.advanceRounds_failed hopen hbudget
            rw [not_and', and_iff_right hnonzero, and_iff_right hpace, h.awaitsBranch_iff hopen, hiff]
            refine forall_congr' fun hover ↦ ?_
            have hfailed := hiff.mpr hover
            rw [Attempt.andThen_of_failed hfailed, hrunning hfailed]
            exact lifecycle_eq_iff hopen (h.not_ready (.inr hover.1.1))

end Advance

/-! ## Completion -/

section Completion

variable {s : LiveMissionSession}

/-- A prepared session that flies out completes, unless an update is answered and no branch
below the limit; so does every other run that comes to the limit.  An advance that fails
leaves the lifecycle alone, unless it takes a paused session beyond the limit. -/
theorem completes_iff_branched {project : CompiledMissionProject}
    (hcompiled : compiled project = .ok s) (hprepared : s.prepare.1 = .ok ())
    (calls : List SessionCall) :
    (FliesOut calls →
        ((run LiveMissionSession.step s.prepare.2 calls).lifecycle = .completed ↔
          (Updated s.prepare.2 calls → Branched s.prepare.2 calls)))
      ∧ ((run LiveMissionSession.step s.prepare.2 calls).releases = liveGnssLossMaxReleases →
        ((run LiveMissionSession.step s.prepare.2 calls).lifecycle = .completed ↔
          (Updated s.prepare.2 calls → Branched s.prepare.2 calls)))
      ∧ ∀ advance : Advance,
        (((run LiveMissionSession.step s.prepare.2 calls).advance advance).Failed →
            ((run LiveMissionSession.step s.prepare.2 calls).advance advance).2.lifecycle =
              (run LiveMissionSession.step s.prepare.2 calls).lifecycle) ↔
          ¬((run LiveMissionSession.step s.prepare.2 calls).lifecycle = .paused
            ∧ (run LiveMissionSession.step s.prepare.2 calls).Overruns advance) := by
  have hcourse := course_of_prepared hcompiled hprepared
  have hrun := hcourse.run calls
  refine ⟨fun hcalls ↦ hrun.completed_iff ?_, fun hlimit ↦ hrun.completed_iff (.inl hlimit),
    hrun.advance_failed_iff⟩
  exact reached_of_fliesOut hcourse (ready_of_prepared hcompiled hprepared) hcalls

/-- Without an answer, the last release completes the session. -/
theorem completes_unanswered :
    FliesOut (List.replicate 322 .advanceOneRelease)
      ∧ (run LiveMissionSession.step (gnssLossSession .flightController).prepare.2
        (List.replicate 322 .advanceOneRelease)).lifecycle = .completed := by
  have hflies : FliesOut (List.replicate 322 .advanceOneRelease) :=
    ⟨fun call hcall ↦ .inl (List.eq_of_mem_replicate hcall), List.count_replicate_self.ge⟩
  refine ⟨hflies, ?_⟩
  have hprepared : (gnssLossSession .flightController).prepare.1 = .ok () := by decide +kernel
  refine ((completes_iff_branched (compiled_gnssLossProject .flightController) hprepared _).1
    hflies).mpr fun hupdated ↦ ?_
  exact absurd hupdated (not_happens_replicate fun _ ↦ id)

/-- Fly a release, answer the update, and fly on. -/
def updateOnly : List SessionCall :=
  [.advanceOneRelease, .submit (.stage updateLoad 0),
    .submit (.commit (commitRequest updateLoad 1))] ++ List.replicate 321 .advanceOneRelease

/-- The update is answered at the first release, and the branch never: the time for it is up
at release 322, which is one release too late.  The session does not complete. -/
theorem updateOnly_not_completed :
    ¬∀ (project : CompiledMissionProject) (s : LiveMissionSession) (calls : List SessionCall),
      compiled project = .ok s → s.prepare.1 = .ok () → FliesOut calls →
        (run LiveMissionSession.step s.prepare.2 calls).lifecycle = .completed := by
  intro hall
  have hprepared : (gnssLossSession .flightController).prepare.1 = .ok () := by decide +kernel
  have hcompiled := compiled_gnssLossProject .flightController
  have hflies : FliesOut updateOnly := by
    constructor
    · intro call hcall
      obtain hcall | hcall := List.mem_append.mp hcall
      · have hshape : ∀ call ∈ [SessionCall.advanceOneRelease, .submit (.stage updateLoad 0),
            .submit (.commit (commitRequest updateLoad 1))],
            call = .advanceOneRelease ∨ ∃ action, call = .submit action := by simp
        exact hshape call hcall
      · exact .inl (List.eq_of_mem_replicate hcall)
    · unfold updateOnly
      rw [List.count_append, List.count_replicate_self]
      simp [liveGnssLossMaxReleases]
  have hcompleted := hall _ _ updateOnly hcompiled hprepared hflies
  have hbranched := (((course_of_prepared hcompiled hprepared).run updateOnly).completed_iff
    (.inr hcompleted)).mp hcompleted (happens_append.mpr (.inl (by decide +kernel)))
  obtain hbranched | hbranched := happens_append.mp hbranched
  · exact absurd hbranched (by decide +kernel)
  · exact absurd hbranched (not_happens_replicate fun _ ↦ fun h ↦ h.1)

end Completion

end Ksa64.Session
