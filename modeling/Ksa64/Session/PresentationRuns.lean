import Ksa64.Session.PresentationAdapter

/-!
# Runs of the presentation adapter

Each call of the adapter is a run of the session, and an intent at most one action of it.
The adapter's own copies, of the active proposal and of the identity last reviewed, are
changed by intents only.

Two results are about these copies.  The staged load stays within reach of the operator on
the runs in which the flight package and the copies are not parted from it, and only there;
and what is staged is what was reviewed exactly when no release lies between.
-/

namespace Ksa64.Session

open Ksa64.Library Ksa64.Interface Ksa64.Sim Ksa64.Flight Ksa64.Presentation FullMissionSession

/-- A call of the adapter. -/
inductive PresentationCall where
  | prepare (world : Except GlobalWorldError InitialWorld)
  | setPace (pace : PresentationPace)
  | pause
  | resume
  | advanceOneRelease (answer : WorldAnswer)
  | stepOneRelease (answer : WorldAnswer)
  | advanceBounded (maximumReleases : UInt32) (answers : Nat → WorldAnswer)
  | abort (reasonIdentity : UInt32)
  | submit (intent : PresentationActionIntent)

namespace FullMissionPresentationSession

/-- The adapter after the call. -/
def step (p : FullMissionPresentationSession) :
    PresentationCall → FullMissionPresentationSession
  | .prepare world => (p.prepare world).2
  | .setPace pace => (p.setPace pace).2
  | .pause => p.pause.2
  | .resume => p.resume.2
  | .advanceOneRelease answer => (p.advanceOneRelease answer).2
  | .stepOneRelease answer => (p.stepOneRelease answer).2
  | .advanceBounded maximumReleases answers => (p.advanceBounded maximumReleases answers).2
  | .abort reasonIdentity => (p.abort reasonIdentity).2
  | .submit intent => (p.submitAction intent).2

/-- The action that an intent hands to the session. -/
def handed (p : FullMissionPresentationSession) (intent : PresentationActionIntent) :
    Option MissionOperatorAction :=
  (p.checkIntent intent).toOption.bind fun proposal ↦ p.actionFor proposal intent.operation

/-- The rounds of a bounded advance, up to one that leaves a load to recommend. -/
def boundedCalls : List WorldAnswer → FullMissionSession → List FullMissionCall
  | [], _ => []
  | answer :: answers, s =>
      let round := s.advanceBounded 1 fun _ ↦ answer
      (if s.pace = .paused then [] else [.advanceRound (s.pace == .singleStep) answer]) ++
        if round.Failed ∨ round.2.recommendedLoad.isSome
            ∨ round.2.lifecycle ∈ [.completed, .paused, .aborted] then []
        else boundedCalls answers round.2

/-- The calls of the session that a call of the adapter makes. -/
def sessionCalls (p : FullMissionPresentationSession) : PresentationCall → List FullMissionCall
  | .prepare world => [.prepare world]
  | .setPace pace => [.setPace (authorityPace pace)]
  | .pause => [.pause]
  | .resume => [.resume]
  | .advanceOneRelease answer => [.advanceOneRelease answer]
  | .stepOneRelease answer => [.stepOneRelease answer]
  | .advanceBounded maximumReleases answers =>
      boundedCalls ((List.range maximumReleases.toNat).map answers) p.authority
  | .abort reasonIdentity => [.abort reasonIdentity]
  | .submit intent => (p.handed intent).toList.map .submit

/-- The adapter `q`, but for its receipts and the number of the next intent. -/
def Follows (q p : FullMissionPresentationSession) : Prop :=
  ∃ receipts sequence, p = { q with receipts := receipts, nextClientActionSequence := sequence }

end FullMissionPresentationSession

open FullMissionPresentationSession

/-! ## What a call does -/

section Calls

variable {p q : FullMissionPresentationSession} {intent : PresentationActionIntent}
  {proposal : ActionProposalView} {action : MissionOperatorAction}

theorem Follows.refl (p : FullMissionPresentationSession) : Follows p p := ⟨_, _, rfl⟩

/-- The receipt of an action is all that is pushed. -/
theorem pushReceipt_follows (p : FullMissionPresentationSession) (receipt : ActionReceiptView) :
    (p.pushReceipt receipt).2 =
      { p with receipts := (p.receipts.push
        { receipt with publicationSequence := p.receipts.nextSequence }).2 } := by
  unfold pushReceipt
  dsimp only
  split <;> rfl

/-- An intent that fails the checks leaves no trace. -/
theorem submitAction_refused {e : PresentationSessionError}
    (hchecked : p.checkIntent intent = .error e) :
    p.submitAction intent = (.error e, p) ∧ p.handed intent = none := by
  unfold submitAction handed
  rw [hchecked]
  exact ⟨rfl, rfl⟩

/-- An intent that passes them is carried out. -/
theorem submitAction_follows (hchecked : p.checkIntent intent = .ok proposal) :
    Follows (p.applyIntent intent proposal).2 (p.submitAction intent).2 := by
  unfold submitAction
  rw [hchecked]
  dsimp only
  refine Attempt.andThen_keeps (P := Follows (p.applyIntent intent proposal).2) (Follows.refl _) ?_
  rintro receipt _ ⟨receipts, sequence, rfl⟩
  split
  · exact ⟨_, _, rfl⟩
  · rw [pushReceipt_follows]
    exact ⟨_, _, rfl⟩

theorem handed_of_checked (hchecked : p.checkIntent intent = .ok proposal) :
    p.handed intent = p.actionFor proposal intent.operation := by
  unfold handed
  rw [hchecked]
  rfl

/-- A call of the session made through the adapter. -/
theorem withAuthority_failed {α : Type} {result : FullMissionSession.Outcome α} :
    (p.withAuthority result).Failed ↔ result.Failed := by
  unfold withAuthority Attempt.Failed
  dsimp only
  cases result.1 with
  | error e => exact iff_of_true ⟨_, rfl⟩ ⟨e, rfl⟩
  | ok a => exact iff_of_false (fun ⟨_, h⟩ ↦ nomatch h) fun ⟨_, h⟩ ↦ nomatch h

/-- What an intent does to the adapter. -/
inductive IntentMove (p : FullMissionPresentationSession) (intent : PresentationActionIntent) :
    Prop where
  | refused (hhanded : p.handed intent = none) (hsame : p.step (.submit intent) = p)
  | reviewed {proposal : ActionProposalView} (hchecked : p.checkIntent intent = .ok proposal)
      (hoperation : intent.operation = .review) (hhanded : p.handed intent = none)
      (hnext : Follows (p.noteAnswered proposal .review) (p.step (.submit intent)))
  | failed {action : MissionOperatorAction} (hhanded : p.handed intent = some action)
      (hfailed : (p.authority.submitOperatorAction action).Failed)
      (hnext : Follows { p with authority := (p.authority.submitOperatorAction action).2 }
        (p.step (.submit intent)))
  | answered {proposal : ActionProposalView} {action : MissionOperatorAction}
      (hchecked : p.checkIntent intent = .ok proposal)
      (haction : p.actionFor proposal intent.operation = some action)
      (hok : ¬(p.authority.submitOperatorAction action).Failed)
      (hnext : Follows ({ p with authority := (p.authority.submitOperatorAction action).2
        }.noteAnswered proposal intent.operation) (p.step (.submit intent)))

theorem intent_move (p : FullMissionPresentationSession) (intent : PresentationActionIntent) :
    IntentMove p intent := by
  cases hchecked : p.checkIntent intent with
  | error e =>
      obtain ⟨hsame, hhanded⟩ := submitAction_refused hchecked
      exact .refused hhanded (congrArg Prod.snd hsame)
  | ok proposal =>
      have hhanded := handed_of_checked hchecked
      have hfollows := submitAction_follows hchecked
      unfold applyIntent at hfollows
      by_cases hreview : intent.operation = .review
      · rw [if_pos hreview] at hfollows
        rw [hreview] at hhanded
        exact .reviewed hchecked hreview hhanded hfollows
      · rw [if_neg hreview] at hfollows
        cases haction : p.actionFor proposal intent.operation with
        | none =>
            refine .refused (hhanded.trans haction) ?_
            show (p.submitAction intent).2 = p
            unfold submitAction
            rw [hchecked]
            dsimp only
            unfold applyIntent
            rw [if_neg hreview, haction]
            rfl
        | some action =>
            rw [haction] at hfollows
            dsimp only at hfollows
            by_cases hfailed : (p.authority.submitOperatorAction action).Failed
            · rw [Attempt.andThen_of_failed (withAuthority_failed.mpr hfailed)] at hfollows
              exact .failed (hhanded.trans haction) hfailed hfollows
            · cases hresult : (p.withAuthority (p.authority.submitOperatorAction action)).1 with
              | error e => exact absurd (withAuthority_failed.mp ⟨e, hresult⟩) hfailed
              | ok receipt =>
                  rw [Attempt.andThen_ok hresult] at hfollows
                  exact .answered hchecked haction hfailed hfollows

/-- A bounded advance by one round. -/
theorem advanceBounded_one (s : FullMissionSession) (answer : WorldAnswer) :
    (s.advanceBounded 1 fun _ ↦ answer).2 =
      run FullMissionSession.step s
        (if s.pace = .paused then [] else [.advanceRound (s.pace == .singleStep) answer]) := by
  have hround : ∀ t : FullMissionSession.Outcome Unit,
      (t.andThen fun _ s ↦ if s.lifecycle = .completed ∨ s.lifecycle = .paused then (.ok (), s)
        else advanceRounds [] s).2 = t.2 :=
    fun t ↦ Attempt.andThen_keeps (P := fun s ↦ s = t.2) rfl fun _ s hs ↦ by split <;> exact hs
  unfold FullMissionSession.advanceBounded
  by_cases hpaused : s.pace = .paused
  · rw [if_pos (.inr hpaused), if_pos hpaused]
    rfl
  · rw [if_neg (not_or.mpr ⟨by decide, hpaused⟩), if_neg hpaused]
    have hbudget : s.budget 1 = 1 := by
      unfold budget
      cases hpace : s.pace with
      | paused => exact absurd hpace hpaused
      | _ => rfl
    rw [hbudget]
    exact hround _

/-- A bounded advance of the adapter is the run of its rounds. -/
theorem advanceReleases_run (answers : List WorldAnswer) (s : FullMissionSession) :
    (advanceReleases answers s).2 =
      run FullMissionSession.step s (boundedCalls answers s) := by
  induction answers generalizing s with
  | nil => rfl
  | cons answer answers ih =>
      unfold advanceReleases boundedCalls
      dsimp only
      rw [run_append, ← advanceBounded_one]
      by_cases hfailed : (s.advanceBounded 1 fun _ ↦ answer).Failed
      · rw [Attempt.andThen_of_failed hfailed, if_pos (.inl hfailed)]
        rfl
      · cases hround : (s.advanceBounded 1 fun _ ↦ answer).1 with
        | error e => exact absurd ⟨e, hround⟩ hfailed
        | ok =>
            rw [Attempt.andThen_ok hround]
            by_cases hstop : (s.advanceBounded 1 fun _ ↦ answer).2.recommendedLoad.isSome
                ∨ (s.advanceBounded 1 fun _ ↦ answer).2.lifecycle ∈ [.completed, .paused, .aborted]
            · rw [if_pos hstop, if_pos (.inr hstop)]
              rfl
            · rw [if_neg hstop, if_neg (not_or.mpr ⟨hfailed, hstop⟩)]
              exact ih _

/-- A call of the adapter is a run of its session. -/
theorem authority_step (p : FullMissionPresentationSession) (call : PresentationCall) :
    (p.step call).authority =
      run FullMissionSession.step p.authority (p.sessionCalls call) := by
  cases call with
  | advanceBounded maximumReleases answers =>
      show (p.advanceBounded maximumReleases answers).2.authority = _
      unfold FullMissionPresentationSession.advanceBounded
      rw [Attempt.andThen_keeps (P := fun q : FullMissionPresentationSession ↦
        q.authority = (advanceReleases ((List.range maximumReleases.toNat).map answers)
          p.authority).2) rfl fun _ q hq ↦ hq]
      exact advanceReleases_run _ _
  | submit intent =>
      show _ = run FullMissionSession.step p.authority ((p.handed intent).toList.map .submit)
      cases intent_move p intent with
      | refused hhanded hsame =>
          rw [hhanded, hsame]
          rfl
      | reviewed hchecked hoperation hhanded hnext =>
          obtain ⟨_, _, hnext⟩ := hnext
          rw [hhanded, hnext]
          rfl
      | failed hhanded hfailed hnext =>
          obtain ⟨_, _, hnext⟩ := hnext
          rw [hhanded, hnext]
          rfl
      | @answered proposal action hchecked haction hok hnext =>
          obtain ⟨_, _, hnext⟩ := hnext
          rw [handed_of_checked hchecked, haction, hnext]
          cases intent.operation <;> rfl
  | _ => rfl

/-- Calls other than intents leave the adapter's copies alone, and submit nothing. -/
theorem step_copies {call : PresentationCall} (hcall : ∀ intent, call ≠ .submit intent) :
    p.step call = { p with authority := (p.step call).authority }
      ∧ ∀ inner ∈ p.sessionCalls call, ∀ action, inner ≠ .submit action := by
  cases call with
  | submit intent => exact absurd rfl (hcall intent)
  | advanceBounded maximumReleases answers =>
      constructor
      · show (p.advanceBounded maximumReleases answers).2 =
          { p with authority := (p.advanceBounded maximumReleases answers).2.authority }
        unfold FullMissionPresentationSession.advanceBounded
        exact Attempt.andThen_keeps (P := fun q : FullMissionPresentationSession ↦
          q = { p with authority := q.authority }) rfl fun _ q hq ↦ hq
      · show ∀ inner ∈ boundedCalls _ p.authority, _
        generalize (List.range maximumReleases.toNat).map answers = answers
        generalize p.authority = s
        induction answers generalizing s with
        | nil => exact fun _ hnone ↦ nomatch hnone
        | cons answer answers ih =>
            unfold boundedCalls
            dsimp only
            intro inner hinner action
            rcases List.mem_append.mp hinner with hfirst | hlater
            · split at hfirst
              · exact nomatch hfirst
              · rw [List.mem_singleton.mp hfirst]
                exact nofun
            · split at hlater
              · exact nomatch hlater
              · exact ih _ inner hlater action
  | _ =>
      refine ⟨rfl, fun inner hinner action ↦ ?_⟩
      rw [List.mem_singleton.mp hinner]
      exact nofun

end Calls

/-! ## A package that holds the staged load -/

section Held

variable {s : FullMissionSession} {r : GlobalPackageAvionicsMission}
  {action : MissionOperatorAction} {d : MissionDesk} {load : UplinkCommandLoad}

/-- The advance does not make the package drop the load that the session keeps as staged. -/
def FullMissionSession.KeepsHeld (s : FullMissionSession) (call : FullMissionCall) : Prop :=
  ∀ answer ∈ s.answerTo call, (s.cellsOf answer).isSome = true →
    ∀ load ∈ s.stagedLoad, ∀ r ∈ s.runner, load.expiresEpoch < r.package.epoch →
      s.losesAdvance answer = false ∧ load.expiresEpoch < s.releaseEpoch

instance (s : FullMissionSession) (call : FullMissionCall) : Decidable (s.KeepsHeld call) :=
  inferInstanceAs (Decidable (∀ answer ∈ s.answerTo call, _ → _))

/-- The package holds what the desk has as staged. -/
def HeldDesk (d : MissionDesk) : Prop :=
  ∀ load, d.stagedLoad = some load →
    ∃ r, d.runner = some r ∧ r.package.uplink.pending = some (.stage load)

/-- A staged load that has not expired is held through a release. -/
theorem next_release_staged {v : UplinkView} {epoch : UInt32}
    (hpending : v.pending = some (.stage load)) (hin : ¬load.expiresEpoch < epoch) :
    (v.next (.release epoch)).pending = some (.stage load) := by
  unfold UplinkView.next
  rw [hpending]
  dsimp only
  rw [stage_load, if_neg hin, if_pos (.inl nofun)]
  exact hpending

/-- After an action the package holds what the session has as staged, if it did before. -/
theorem SubmitMove.held (h : SubmitMove s r action d)
    (hheld : ∀ load, s.stagedLoad = some load → r.package.uplink.pending = some (.stage load))
    (hstaged : d.stagedLoad = some load) :
    (r.package.uplink.view.next (uplinkCallOf r action)).pending = some (.stage load) := by
  cases h with
  | @staged staged mask _ hconfirmed =>
      obtain rfl := Option.some.inj hstaged
      by_cases hadm : r.package.uplink.view.StageAdmitted staged (stageReason r staged mask)
      · exact congrArg UplinkView.pending (if_pos hadm)
      · refine (congrArg UplinkView.pending (if_neg hadm)).trans ?_
        exact (hconfirmed.resolve_left hadm).2
  | unstaged hconfirmed =>
      refine (congrArg UplinkView.pending (if_neg fun hadm ↦ hconfirmed (.inl hadm))).trans ?_
      exact hheld load hstaged
  | committed => cases hstaged
  | uncommitted hstaged' _ hconfirms =>
      have hprior := hheld _ hstaged'
      rw [uplinkCallOf, next_commit_of_unconfirmed hprior hconfirms]
      exact hheld load hstaged
  | cancelled => cases hstaged
  | uncancelled hconfirms =>
      rw [uplinkCallOf, next_cancel_of_unconfirmed hconfirms]
      exact hheld load hstaged

/-- A call that does not part the package from the staged load. -/
theorem HeldDesk.step (hplanned : Planned s) (h : HeldDesk s.desk) {call : FullMissionCall}
    (hkept : s.KeepsHeld call) : HeldDesk (s.step call).desk := by
  have hreleased : ∀ {answer : WorldAnswer} {r r' : GlobalPackageAvionicsMission}
      {cells : ReleaseCells}, s.answerTo call = some answer → s.cellsOf answer = some cells →
      s.runner = some r → r'.package = r.package.step (releaseOf cells) →
      ∀ load, s.stagedLoad = some load →
        ¬(s.losesAdvance answer = false ∧ load.expiresEpoch < s.releaseEpoch) →
          r'.package.uplink.pending = some (.stage load) := by
    intro answer r r' cells hanswer hcells hrunner hpackage load hstaged hstays
    obtain ⟨_, hr, hpending⟩ := h load hstaged
    obtain rfl := Option.some.inj (hrunner.symm.trans hr)
    rw [← view_pending, hpackage, (view_released (hplanned.plan r hrunner) cells).1]
    refine next_release_staged hpending fun hexpired ↦ hstays ?_
    exact hkept answer hanswer (Option.isSome_of_eq_some hcells) load hstaged r hrunner hexpired
  cases (mission_move hplanned call).1 with
  | kept _ _ hdesk => exact hdesk ▸ h
  | prepared hlifecycle hnew hdesk =>
      rw [hdesk]
      intro load hstaged
      obtain ⟨r, hr, -⟩ := h load hstaged
      exact nomatch (hplanned.guided.unprepared hlifecycle).symm.trans hr
  | @advanced _ answer hanswer hmove =>
      cases hmove with
      | kept _ hdesk => exact hdesk ▸ h
      | lost hcells hrunner hpackage hlost hdesk =>
          rw [hdesk]
          intro load hstaged
          exact ⟨_, rfl, hreleased hanswer hcells hrunner hpackage load hstaged
            fun hkept ↦ nomatch hlost.symm.trans hkept.1⟩
      | counted hcells hrunner hpackage _ hdesk _ =>
          rw [hdesk]
          intro load hstaged
          obtain ⟨hbefore, hin⟩ := Option.filter_eq_some_iff.mp hstaged
          exact ⟨_, rfl, hreleased hanswer hcells hrunner hpackage load hbefore
            fun hkept ↦ UInt32.not_lt.mpr (of_decide_eq_true hin) hkept.2⟩
  | @submitted action hresult =>
      cases hresult with
      | failed _ hsame =>
          have hstep : s.step (.submit action) = s := hsame
          rw [hstep]
          exact h
      | @answered r d _ _ hrunner hmove hdesk _ =>
          have hstep : (s.step (.submit action)).desk = _ := hdesk
          rw [hstep]
          intro load hstaged
          refine ⟨_, rfl, ?_⟩
          rw [← view_pending, view_submitted (hplanned.plan r hrunner)]
          refine hmove.held (fun load hbefore ↦ ?_) hstaged
          obtain ⟨_, hr, hpending⟩ := h load hbefore
          obtain rfl := Option.some.inj (hrunner.symm.trans hr)
          exact hpending

/-- Only an action stages a load. -/
theorem staged_before (hplanned : Planned s) {call : FullMissionCall}
    (hcall : ∀ action, call ≠ .submit action) (hstaged : (s.step call).stagedLoad = some load) :
    s.stagedLoad = some load := by
  replace hstaged : (s.step call).desk.stagedLoad = some load := hstaged
  cases (mission_move hplanned call).1 with
  | kept _ _ hdesk | prepared _ _ hdesk =>
      rw [hdesk] at hstaged
      exact hstaged
  | advanced _ hmove =>
      cases hmove with
      | kept _ hdesk | lost _ _ _ _ hdesk =>
          rw [hdesk] at hstaged
          exact hstaged
      | counted _ _ _ _ hdesk _ =>
          rw [hdesk] at hstaged
          exact (Option.filter_eq_some_iff.mp hstaged).1
  | @submitted action _ => exact absurd rfl (hcall action)

/-- No call changes the role of the operator. -/
theorem role_step (hplanned : Planned s) (call : FullMissionCall) :
    (s.step call).role = s.role := by
  show (s.step call).desk.role = s.desk.role
  cases (mission_move hplanned call).1 with
  | kept _ _ hdesk | prepared _ _ hdesk => rw [hdesk]
  | advanced _ hmove =>
      cases hmove with
      | kept _ hdesk | lost _ _ _ _ hdesk | counted _ _ _ _ hdesk _ =>
          exact (congrArg MissionDesk.role hdesk :)
  | @submitted action hresult =>
      cases hresult with
      | failed _ hsame => exact congrArg (fun s ↦ s.desk.role) hsame
      | answered _ _ _ hmove hdesk _ => exact (congrArg MissionDesk.role hdesk).trans hmove.role_eq

end Held

/-! ## The staged load within reach -/

namespace FullMissionPresentationSession

/-- How a staged load is shown. -/
def stagedProposal (load : UplinkCommandLoad) : ActionProposalView :=
  { proposalFromLoad load load.stageEpoch with
    permittedOperations := actionPermitReview ||| actionPermitCommit ||| actionPermitCancel }

def cancelRequest (load : UplinkCommandLoad) (epoch : UInt32) : UplinkControlRecord :=
  { commitRequest load epoch with kind := .cancellation }

/-- The next intent of the operator, on a load. -/
structure Names (p : FullMissionPresentationSession) (intent : PresentationActionIntent)
    (load : UplinkCommandLoad) : Prop where
  valid : intent.validate p.role = .ok ()
  sequence : intent.clientActionSequence = p.nextClientActionSequence
  proposal : intent.proposalIdentity = load.loadIdentity
  expected : intent.expectedLoadIdentity = 0 ∨ intent.expectedLoadIdentity = load.loadIdentity
  activation : intent.requestedActivationEpoch = 0
    ∨ intent.requestedActivationEpoch = load.requestedEffectiveEpoch

/-- A staged load is shown with the operations that it permits, and each of them can be
asked for: a commit reaches the session, and a cancellation takes the load back. -/
structure Reaches (p : FullMissionPresentationSession) (load : UplinkCommandLoad) : Prop where
  shown : p.currentActionProposal = some (stagedProposal load)
  named : ∀ operation, ∃ intent, Names p intent load ∧ intent.operation = operation
  commit : ∀ intent, Names p intent load → intent.operation = .commit →
    p.handed intent = some (.commit (commitRequest load p.authority.releaseEpoch))
  cancel : ∀ intent, Names p intent load → intent.operation = .cancel →
    p.handed intent = some (.cancel (cancelRequest load p.authority.releaseEpoch))
      ∧ (p.authority.isOpen = true → (p.step (.submit intent)).authority.stagedLoad = none)

/-- The staged load, if there is one, is within reach of the operator. -/
def StagedReachable (p : FullMissionPresentationSession) : Prop :=
  ∀ load, p.authority.stagedLoad = some load → p.Reaches load

/-- An advance whose releases do not part the package from the staged load; a commit that
does not come to the package too late for it. -/
def KeepsStaged (p : FullMissionPresentationSession) : PresentationCall → Prop
  | .submit intent =>
      ∀ action ∈ p.handed intent, ∀ request, action = .commit request →
        p.authority.isOpen = true → ∀ load ∈ p.authority.stagedLoad,
          p.authority.procedureAccepts load.loadType = true →
            ∀ r ∈ p.authority.runner,
              ¬commitLate load load.requestedEffectiveEpoch r.package.epoch
  | call => Meets FullMissionSession.step KeepsHeld p.authority (p.sessionCalls call)

end FullMissionPresentationSession

section Reach

variable {p q : FullMissionPresentationSession} {intent : PresentationActionIntent}
  {proposal : ActionProposalView} {action : MissionOperatorAction} {load : UplinkCommandLoad}

/-- An intent that passes the checks is valid, and on the proposal shown. -/
theorem checkIntent_eq_ok :
    p.checkIntent intent = .ok proposal ↔
      intent.validate p.role = .ok () ∧ intent.clientActionSequence = p.nextClientActionSequence
        ∧ p.currentActionProposal = some proposal
        ∧ intent.proposalIdentity = proposal.proposalIdentity
        ∧ (intent.expectedLoadIdentity = 0 ∨ intent.expectedLoadIdentity = proposal.loadIdentity)
        ∧ proposal.permittedOperations &&& permissionBit intent.operation ≠ 0
        ∧ (intent.requestedActivationEpoch = 0
          ∨ intent.requestedActivationEpoch = proposal.activationEpoch) := by
  unfold checkIntent
  cases hvalid : intent.validate p.role with
  | error e => exact ⟨fun h ↦ (nomatch h), fun ⟨h, _⟩ ↦ nomatch h⟩
  | ok =>
      dsimp only
      by_cases hsequence : intent.clientActionSequence = p.nextClientActionSequence
      · rw [if_neg (not_not.mpr hsequence)]
        cases hshown : p.currentActionProposal with
        | none => exact ⟨fun h ↦ (nomatch h), fun ⟨_, _, h, _⟩ ↦ nomatch h⟩
        | some shown =>
            dsimp only
            by_cases hdiffers : intent.proposalIdentity ≠ shown.proposalIdentity
                ∨ intent.expectedLoadIdentity ≠ 0
                  ∧ intent.expectedLoadIdentity ≠ shown.loadIdentity
                ∨ shown.permittedOperations &&& permissionBit intent.operation = 0
                ∨ intent.requestedActivationEpoch ≠ 0
                  ∧ intent.requestedActivationEpoch ≠ shown.activationEpoch
            · rw [if_pos hdiffers]
              refine ⟨fun h ↦ (nomatch h), ?_⟩
              rintro ⟨-, -, hsame, hproposal, hload, hpermitted, hactivation⟩
              obtain rfl := Option.some.inj hsame
              rcases hdiffers with h | ⟨hzero, hne⟩ | h | ⟨hzero, hne⟩
              · exact absurd hproposal h
              · exact absurd hload (not_or.mpr ⟨hzero, hne⟩)
              · exact absurd h hpermitted
              · exact absurd hactivation (not_or.mpr ⟨hzero, hne⟩)
            · rw [if_neg hdiffers]
              obtain ⟨hproposal, hrest⟩ := not_or.mp hdiffers
              obtain ⟨hload, hrest⟩ := not_or.mp hrest
              obtain ⟨hpermitted, hactivation⟩ := not_or.mp hrest
              have heither : ∀ {a b c : UInt32}, ¬(a ≠ b ∧ a ≠ c) → a = b ∨ a = c := by
                intro a b c h
                by_contra hneither
                exact h (not_or.mp hneither)
              refine ⟨?_, fun ⟨_, _, hsame, _⟩ ↦ congrArg _ (Option.some.inj hsame)⟩
              rintro h
              obtain rfl := Except.ok.inj h
              exact ⟨rfl, hsequence, rfl, not_not.mp hproposal, heither hload, hpermitted,
                heither hactivation⟩
      · rw [if_pos hsequence]
        exact ⟨fun h ↦ (nomatch h), fun ⟨_, h, _⟩ ↦ absurd h hsequence⟩

/-- A recommended load is for now, and has an identity. -/
theorem recommendedLoad_spec {s : FullMissionSession} (h : s.recommendedLoad = some load) :
    s.stagedLoad = none ∧ load.stageEpoch = s.releaseEpoch ∧ load.loadIdentity ≠ 0 := by
  unfold recommendedLoad at h
  by_cases hstaged : s.stagedLoad.isSome = true ∨ decisionWindowCloseRelease < s.releaseEpoch
  · rw [if_pos hstaged] at h
    exact nomatch h
  · rw [if_neg hstaged] at h
    refine ⟨by simpa using (not_or.mp hstaged).1, ?_⟩
    split at h
    · split at h
      · unfold groundUpdateLoad at h
        split at h
        · dsimp only at h
          split at h
          · cases h
          · cases h
            exact ⟨rfl, nofun⟩
        · cases h
      · cases h
    · split at h
      · obtain ⟨flight, -, rfl⟩ := Option.map_eq_some_iff.mp h
        exact ⟨rfl, nofun⟩
      · cases h
    · cases h

/-- What is staged, on a proposal that is shown. -/
theorem stageAction_eq_some (hshown : p.currentActionProposal = some proposal)
    (haction : p.stageAction proposal = some action) :
    ∃ load, p.authority.recommendedLoad = some load
      ∧ p.reviewedProposal = some load.loadIdentity
      ∧ proposal = proposalFromLoad load p.authority.releaseEpoch
      ∧ action = .stage load load.prerequisiteEventMask := by
  unfold stageAction at haction
  split at haction
  · cases haction
  · rename_i hreviewed
    obtain ⟨load, hload, rfl⟩ := Option.map_eq_some_iff.mp haction
    obtain ⟨hrecommended, -⟩ := Option.filter_eq_some_iff.mp hload
    unfold currentActionProposal at hshown
    rw [(recommendedLoad_spec hrecommended).1, hrecommended] at hshown
    obtain rfl := Option.some.inj hshown
    exact ⟨load, hrecommended, not_not.mp hreviewed, rfl, rfl⟩

/-- What is committed is the staged load. -/
theorem commitAction_eq_some (haction : p.commitAction proposal = some action) :
    ∃ load, p.authority.stagedLoad = some load
      ∧ action = .commit (commitRequest load p.authority.releaseEpoch) := by
  obtain ⟨request, hrequest, rfl⟩ := Option.map_eq_some_iff.mp haction
  obtain ⟨load, hload, rfl⟩ := Option.map_eq_some_iff.mp (Option.filter_eq_some_iff.mp hrequest).1
  exact ⟨load, hload, rfl⟩

/-- And so is what is cancelled. -/
theorem cancelAction_eq_some (haction : p.cancelAction proposal = some action) :
    ∃ load, p.authority.stagedLoad = some load
      ∧ action = .cancel (cancelRequest load p.authority.releaseEpoch) := by
  obtain ⟨request, hrequest, rfl⟩ := Option.map_eq_some_iff.mp haction
  obtain ⟨commit, hcommit, rfl⟩ := Option.map_eq_some_iff.mp (Option.filter_eq_some_iff.mp hrequest).1
  obtain ⟨load, hload, rfl⟩ := Option.map_eq_some_iff.mp hcommit
  exact ⟨load, hload, rfl⟩

end Reach

namespace FullMissionPresentationSession

/-- The adapter shows the load as staged, to an operator who may act on it. -/
structure Shows (p : FullMissionPresentationSession) (load : UplinkCommandLoad) : Prop where
  identity : load.loadIdentity ≠ 0
  role : p.role.permitsOperatorActions = true
  canAct : roleCanAct p.authority.role = true
  proposal : p.currentActionProposal = some (stagedProposal load)

/-- The package and the adapter's copies are not parted from the staged load. -/
structure WithinReach (p : FullMissionPresentationSession) : Prop where
  planned : Planned p.authority
  held : HeldDesk p.authority.desk
  numbered : p.nextClientActionSequence ≠ 0
  shows : ∀ load, p.authority.stagedLoad = some load → Shows p load

section Within

variable {p q : FullMissionPresentationSession} {intent : PresentationActionIntent}
  {proposal : ActionProposalView} {action : MissionOperatorAction} {load : UplinkCommandLoad}

/-- The proposal shown while a load is staged. -/
theorem currentActionProposal_of_staged (hstaged : p.authority.stagedLoad = some load) :
    p.currentActionProposal = p.activeProposal.map fun proposal ↦
      { proposal with
        permittedOperations := actionPermitReview ||| actionPermitCommit ||| actionPermitCancel } := by
  unfold currentActionProposal
  rw [if_pos (Option.isSome_of_eq_some hstaged)]

/-- The shown proposal does not depend on the receipts. -/
theorem Shows.congr (h : Shows q load) (hstaged : p.authority.stagedLoad = some load)
    (hstaged' : q.authority.stagedLoad = some load) (hactive : p.activeProposal = q.activeProposal)
    (hrole : p.role = q.role) (hcanAct : p.authority.role = q.authority.role) : Shows p load where
  identity := h.identity
  role := hrole ▸ h.role
  canAct := hcanAct ▸ h.canAct
  proposal := by
    rw [currentActionProposal_of_staged hstaged, hactive,
      ← currentActionProposal_of_staged hstaged']
    exact h.proposal

/-- A valid intent is one of an operator. -/
theorem validate_eq_ok {role : PresentationRole} :
    intent.validate role = .ok () ↔
      (intent.proposalIdentity ≠ 0 ∧ intent.clientActionSequence ≠ 0)
        ∧ role.permitsOperatorActions = true
        ∧ (intent.operation = .review ∨ intent.expectedLoadIdentity ≠ 0) := by
  unfold PresentationActionIntent.validate
  constructor
  · intro h
    obtain ⟨_, hidentity, h⟩ := bind_eq_ok.mp h
    obtain ⟨_, hrole, hexpected⟩ := bind_eq_ok.mp h
    rw [reject_eq_ok] at hidentity hrole hexpected
    refine ⟨not_or.mp hidentity, not_not.mp hrole, ?_⟩
    by_contra hneither
    exact hexpected ((not_or.mp hneither).imp id not_not.mp)
  · rintro ⟨hidentity, hrole, hexpected⟩
    rw [reject_bind (not_or.mpr hidentity), reject_bind (not_not.mpr hrole), reject_eq_ok]
    rintro ⟨hoperation, hzero⟩
    exact hexpected.elim hoperation fun hne ↦ hne hzero

/-- An intent that names a shown load is on its proposal. -/
theorem Names.checked (h : Names p intent load) (hshows : Shows p load)
    (hoperation : intent.operation = .commit ∨ intent.operation = .cancel) :
    p.checkIntent intent = .ok (stagedProposal load) := by
  refine checkIntent_eq_ok.mpr ⟨h.valid, h.sequence, hshows.proposal, h.proposal, h.expected, ?_,
    h.activation⟩
  rcases hoperation with hcommit | hcancel
  · rw [hcommit]
    exact (by decide : (13 : UInt8) &&& 4 ≠ 0)
  · rw [hcancel]
    exact (by decide : (13 : UInt8) &&& 8 ≠ 0)

/-- What a commit intent hands to the session. -/
theorem Names.handed_commit (h : Names p intent load) (hshows : Shows p load)
    (hstaged : p.authority.stagedLoad = some load) (hoperation : intent.operation = .commit) :
    p.handed intent = some (.commit (commitRequest load p.authority.releaseEpoch)) := by
  rw [handed_of_checked (h.checked hshows (.inl hoperation)), hoperation]
  show p.commitAction (stagedProposal load) = _
  unfold commitAction commitRequestForStaged
  rw [hstaged, Option.map_some, Option.filter_some]
  exact congrArg (Option.map _) (if_pos (decide_eq_true rfl))

/-- What a cancel intent hands to it. -/
theorem Names.handed_cancel (h : Names p intent load) (hshows : Shows p load)
    (hstaged : p.authority.stagedLoad = some load) (hoperation : intent.operation = .cancel) :
    p.handed intent = some (.cancel (cancelRequest load p.authority.releaseEpoch)) := by
  rw [handed_of_checked (h.checked hshows (.inr hoperation)), hoperation]
  show p.cancelAction (stagedProposal load) = _
  unfold cancelAction cancelRequestForStaged commitRequestForStaged
  rw [hstaged, Option.map_some, Option.map_some, Option.filter_some]
  exact congrArg (Option.map _) (if_pos (decide_eq_true rfl))

/-- The cancellation of the load that the package holds is confirmed. -/
theorem takes_back {s : FullMissionSession} {r : GlobalPackageAvionicsMission}
    {d : MissionDesk} {epoch : UInt32} (h : SubmitMove s r (.cancel (cancelRequest load epoch)) d)
    (hpending : r.package.uplink.pending = some (.stage load)) : d.stagedLoad = none := by
  cases h with
  | cancelled => rfl
  | uncancelled hconfirms =>
      refine absurd ((confirms_cancel _ hpending _ _).mpr ?_) (by rw [hconfirms]; exact nofun)
      simp [addresses, cancelRequest, commitRequest]

/-- The commit of the load that the package holds is confirmed, unless it is late. -/
theorem takes_effect {s : FullMissionSession} {r : GlobalPackageAvionicsMission}
    {d : MissionDesk} {epoch : UInt32} (h : SubmitMove s r (.commit (commitRequest load epoch)) d)
    (hstaged : s.stagedLoad = some load) (hpending : r.package.uplink.pending = some (.stage load))
    (hlate : ¬commitLate load load.requestedEffectiveEpoch r.package.epoch) :
    d.stagedLoad = none := by
  cases h with
  | committed => rfl
  | uncommitted hstaged' _ hconfirms =>
      obtain rfl := Option.some.inj (hstaged.symm.trans hstaged')
      have hadm : CommitAdmitted (.stage load) (commitRequest load epoch) r.package.epoch := by
        refine ⟨?_, by rintro ⟨⟩, hlate⟩
        simp [addresses, commitRequest]
      have hconfirmed := commitConfirmed_of_admitted (v := r.package.uplink.view)
        ⟨_, hpending, hadm⟩
      cases hconfirms.symm.trans ((confirms_commit _ hpending _ _ _).mpr ⟨rfl, hconfirmed⟩)

/-- Within reach, the staged load can be committed or cancelled. -/
theorem WithinReach.reachable (h : WithinReach p) : p.StagedReachable := by
  intro load hstaged
  have hshows := h.shows load hstaged
  refine ⟨hshows.proposal, ?_, fun intent hnames ↦ hnames.handed_commit hshows hstaged,
    fun intent hnames hoperation ↦ ?_⟩
  · intro operation
    refine ⟨⟨load.loadIdentity, load.loadIdentity, operation, 0, p.nextClientActionSequence⟩,
      ⟨?_, rfl, rfl, .inr rfl, .inl rfl⟩, rfl⟩
    exact validate_eq_ok.mpr ⟨⟨hshows.identity, h.numbered⟩, hshows.role, .inr hshows.identity⟩
  · have hhanded := hnames.handed_cancel hshows hstaged hoperation
    refine ⟨hhanded, fun hopen ↦ ?_⟩
    obtain ⟨r, hrunner, hpending⟩ := h.held load hstaged
    obtain ⟨record, -, hsubmit, -, -, d, hmove, hdesk⟩ :=
      submit_answered h.planned.guided hopen hshows.canAct hrunner (h.planned.plan r hrunner)
        (show p.authority.checkAction (.cancel (cancelRequest load p.authority.releaseEpoch)) =
          .ok () from rfl)
    rw [authority_step]
    show (run FullMissionSession.step p.authority
      ((p.handed intent).toList.map .submit)).stagedLoad = none
    rw [hhanded]
    show (p.authority.submitOperatorAction _).2.stagedLoad = none
    rw [hsubmit]
    have hnone := takes_back hmove hpending
    exact (congrArg MissionDesk.stagedLoad hdesk).trans hnone

/-- A call that keeps the staged load within reach does not part the package from it. -/
theorem KeepsStaged.keepsHeld {call : PresentationCall} (h : p.KeepsStaged call) :
    Meets FullMissionSession.step KeepsHeld p.authority (p.sessionCalls call) := by
  cases call with
  | submit intent =>
      show Meets _ _ p.authority ((p.handed intent).toList.map FullMissionCall.submit)
      cases p.handed intent with
      | none => exact trivial
      | some action => exact ⟨fun _ hnone ↦ (nomatch hnone), trivial⟩
  | _ => exact h

/-- The intents are numbered from 1 on. -/
theorem numbered_step (h : p.nextClientActionSequence ≠ 0) (call : PresentationCall) :
    (p.step call).nextClientActionSequence ≠ 0 := by
  by_cases hsubmit : ∃ intent, call = .submit intent
  · obtain ⟨intent, rfl⟩ := hsubmit
    show (p.submitAction intent).2.nextClientActionSequence ≠ 0
    unfold submitAction
    split
    · exact h
    · rename_i proposal _
      have hsame : (p.applyIntent intent proposal).2.nextClientActionSequence ≠ 0 := by
        unfold applyIntent
        split
        · exact h
        · split
          · exact h
          · refine Attempt.andThen_keeps (P := fun q : FullMissionPresentationSession ↦
              q.nextClientActionSequence ≠ 0) h fun _ q hq ↦ ?_
            cases intent.operation <;> exact hq
      refine Attempt.andThen_keeps (P := fun q : FullMissionPresentationSession ↦
        q.nextClientActionSequence ≠ 0) hsame fun _ q hq ↦ ?_
      split
      · exact hq
      · rename_i next hnext
        rw [pushReceipt_follows]
        rintro (rfl : next = 0)
        exact Nat.succ_ne_zero _ (checkedAdd64_eq_some.mp hnext)
  · rw [(step_copies fun intent heq ↦ hsubmit ⟨intent, heq⟩).1]
    exact h

/-- A call leaves the session planned. -/
theorem planned_step (h : Planned p.authority) (call : PresentationCall) :
    Planned (p.step call).authority := by
  rw [authority_step]
  exact run_invariant _ Planned (fun _ inner h ↦ (mission_move h inner).2) h _

theorem held_step (hplanned : Planned p.authority) (h : HeldDesk p.authority.desk)
    {call : PresentationCall} (hkept : p.KeepsStaged call) :
    HeldDesk (p.step call).authority.desk := by
  rw [authority_step]
  exact (run_invariant_of_meets (fun s ↦ Planned s ∧ HeldDesk s.desk)
    (fun _ inner h hinner ↦ ⟨(mission_move h.1 inner).2, h.2.step h.1 hinner⟩) ⟨hplanned, h⟩
    hkept.keepsHeld).2

/-- Within reach, calls other than intents show the staged load on. -/
theorem WithinReach.shows_step (h : WithinReach p) {call : PresentationCall}
    (hcall : ∀ intent, call ≠ .submit intent)
    (hstaged : (p.step call).authority.stagedLoad = some load) : Shows (p.step call) load := by
  obtain ⟨hcopies, hinner⟩ := @step_copies p call hcall
  have hrun : Planned (p.step call).authority ∧ (p.step call).authority.role = p.authority.role
      ∧ ((p.step call).authority.stagedLoad = some load →
        p.authority.stagedLoad = some load) := by
    rw [authority_step]
    have hmeets : Meets FullMissionSession.step (fun _ inner ↦ ∀ action, inner ≠ .submit action)
        p.authority (p.sessionCalls call) := meets_input.mpr hinner
    refine run_invariant_of_meets (fun s ↦ Planned s ∧ s.role = p.authority.role
        ∧ (s.stagedLoad = some load → p.authority.stagedLoad = some load)) ?_
      ⟨h.planned, rfl, id⟩ hmeets
    rintro s inner ⟨hplanned, hrole, hbefore⟩ hsubmits
    exact ⟨(mission_move hplanned inner).2, (role_step hplanned inner).trans hrole,
      fun hstaged ↦ hbefore (staged_before hplanned hsubmits hstaged)⟩
  obtain ⟨-, hrole, hbefore⟩ := hrun
  refine (h.shows load (hbefore hstaged)).congr hstaged (hbefore hstaged) ?_ ?_ hrole
  · rw [hcopies]
  · rw [hcopies]

/-- An intent that keeps the staged load within reach shows it on. -/
theorem WithinReach.shows_submit (h : WithinReach p) (hkept : p.KeepsStaged (.submit intent))
    (hstaged : (p.step (.submit intent)).authority.stagedLoad = some load) :
    Shows (p.step (.submit intent)) load := by
  cases intent_move p intent with
  | refused _ hsame =>
      rw [hsame] at hstaged ⊢
      exact h.shows load hstaged
  | @reviewed proposal hchecked _ _ hnext =>
      obtain ⟨receipts, sequence, hnext⟩ := hnext
      have hbefore : p.authority.stagedLoad = some load := by
        rw [hnext] at hstaged
        exact hstaged
      have hshows := h.shows load hbefore
      obtain ⟨-, -, hshown, -⟩ := checkIntent_eq_ok.mp hchecked
      obtain rfl := Option.some.inj (hshown.symm.trans hshows.proposal)
      rw [hnext] at hstaged ⊢
      refine ⟨hshows.identity, hshows.role, hshows.canAct, ?_⟩
      rw [currentActionProposal_of_staged hstaged]
      rfl
  | @failed action _ hfailed hnext =>
      obtain ⟨receipts, sequence, hnext⟩ := hnext
      have hsame : (p.authority.submitOperatorAction action).2 = p.authority := by
        cases submit_result h.planned.guided h.planned.plan action with
        | failed _ hsame => exact hsame
        | answered hok => exact absurd hfailed hok
      rw [hsame] at hnext
      rw [hnext] at hstaged ⊢
      exact (h.shows load hstaged).congr hstaged hstaged rfl rfl rfl
  | @answered proposal action hchecked haction hok hnext =>
      obtain ⟨receipts, sequence, hnext⟩ := hnext
      obtain ⟨hvalid, -, hshown, -⟩ := checkIntent_eq_ok.mp hchecked
      cases submit_result h.planned.guided h.planned.plan action with
      | failed hfailed _ => exact absurd hfailed hok
      | @answered r d _ hrole hrunner hmove hdesk _ =>
          have hafter : (p.authority.submitOperatorAction action).2.stagedLoad = d.stagedLoad :=
            congrArg MissionDesk.stagedLoad hdesk
          have hcanAct : roleCanAct (p.authority.submitOperatorAction action).2.role = true := by
            have hsame := (congrArg MissionDesk.role hdesk).trans hmove.role_eq
            exact (congrArg roleCanAct hsame).trans hrole
          have hcopy : (p.step (.submit intent)).authority.stagedLoad = d.stagedLoad := by
            rw [hnext]
            cases intent.operation <;> exact hafter
          have hload : d.stagedLoad = some load := hcopy.symm.trans hstaged
          have hholds : ∀ load, p.authority.stagedLoad = some load →
              r.package.uplink.pending = some (.stage load) := by
            intro load hbefore
            obtain ⟨_, hr, hpending⟩ := h.held load hbefore
            obtain rfl := Option.some.inj (hrunner.symm.trans hr)
            exact hpending
          cases hoperation : intent.operation with
          | review =>
              rw [hoperation] at haction
              exact nomatch haction
          | stage =>
              rw [hoperation] at haction hnext
              obtain ⟨recommended, hrecommended, -, rfl, rfl⟩ :=
                stageAction_eq_some hshown haction
              obtain ⟨hnone, hepoch, hidentity⟩ := recommendedLoad_spec hrecommended
              cases hmove with
              | unstaged => exact nomatch hnone.symm.trans hload
              | staged =>
                  obtain rfl := Option.some.inj hload
                  rw [hnext] at hstaged ⊢
                  refine ⟨hidentity, (validate_eq_ok.mp hvalid).2.1, hcanAct, ?_⟩
                  rw [currentActionProposal_of_staged hstaged]
                  show some _ = some _
                  rw [← hepoch]
                  rfl
          | commit =>
              rw [hoperation] at haction
              obtain ⟨staged, hbefore, rfl⟩ := commitAction_eq_some haction
              have hhanded := (handed_of_checked hchecked).trans (hoperation ▸ haction)
              have hnone := takes_effect hmove hbefore (hholds staged hbefore)
                (hkept _ hhanded _ rfl (isOpen_of_submitted hok) staged hbefore ?_ r hrunner)
              · exact nomatch hnone.symm.trans hload
              · cases hmove with
                | committed hstaged' haccepts | uncommitted hstaged' haccepts =>
                    obtain rfl := Option.some.inj (hbefore.symm.trans hstaged')
                    exact haccepts
          | cancel =>
              rw [hoperation] at haction
              obtain ⟨staged, hbefore, rfl⟩ := cancelAction_eq_some haction
              have hnone := takes_back hmove (hholds staged hbefore)
              exact nomatch hnone.symm.trans hload

/-- Every call that keeps the staged load within reach. -/
theorem WithinReach.step (h : WithinReach p) {call : PresentationCall}
    (hkept : p.KeepsStaged call) : WithinReach (p.step call) where
  planned := planned_step h.planned call
  held := held_step h.planned h.held hkept
  numbered := numbered_step h.numbered call
  shows load hstaged := by
    by_cases hsubmit : ∃ intent, call = .submit intent
    · obtain ⟨intent, rfl⟩ := hsubmit
      exact h.shows_submit hkept hstaged
    · exact h.shows_step (fun intent heq ↦ hsubmit ⟨intent, heq⟩) hstaged

/-- A compiled adapter has no load to reach. -/
theorem withinReach_of_compiled {project : CompiledMissionProject} {role : OperationalRole}
    (hcompiled : FullMissionPresentationSession.compiled project role = .ok p) : WithinReach p := by
  unfold FullMissionPresentationSession.compiled at hcompiled
  split at hcompiled
  · cases hcompiled
  · rename_i authority hauthority
    cases hcompiled
    have hstep := inStep_of_compiled hauthority
    have hnone : authority.stagedLoad = none ∧ authority.runner = none := by
      unfold compiledWithRole at hauthority
      split at hauthority
      · cases hauthority
      · cases hauthority
        exact ⟨rfl, rfl⟩
    refine ⟨planned_of_compiled hauthority, ?_, nofun, ?_⟩
    · exact fun _ hstaged ↦ nomatch hnone.1.symm.trans hstaged
    · exact fun _ hstaged ↦ nomatch hnone.1.symm.trans hstaged

end Within

end FullMissionPresentationSession

/-- In a run that does not part the package from the staged load, and commits no load too
late, the staged load is within reach of the operator in every state. -/
theorem staged_reachable_of_kept {project : CompiledMissionProject} {role : OperationalRole}
    {p : FullMissionPresentationSession}
    (hcompiled : FullMissionPresentationSession.compiled project role = .ok p)
    {calls : List PresentationCall}
    (hkept : Meets FullMissionPresentationSession.step KeepsStaged p calls) :
    ∀ pre post, calls = pre ++ post →
      (run FullMissionPresentationSession.step p pre).StagedReachable := by
  rintro pre post rfl
  have hwithin := run_invariant_of_meets WithinReach (fun _ _ h hcall ↦ h.step hcall)
    (withinReach_of_compiled hcompiled) (meets_append.mp hkept).1
  exact hwithin.reachable

/-! ## A vehicle at rest -/

section AtRest

variable {p : FullMissionPresentationSession} {k n : Nat} {pending : Option PendingUplink}
  {load : UplinkCommandLoad} {proposal : ActionProposalView}

/-- The adapter of a compiled full mission. -/
def fullGnssLossAdapter (role : OperationalRole) : FullMissionPresentationSession where
  authority := fullGnssLossSession role
  role := presentationRole role
  receipts := ⟨receiptRetention, presentationCursorBegin, presentationCursorBegin, []⟩
  nextClientActionSequence := 1
  reviewedProposal := none
  activeProposal := none

theorem compiled_fullGnssLossAdapter (role : OperationalRole) :
    FullMissionPresentationSession.compiled (fullGnssLossProject role) role =
      .ok (fullGnssLossAdapter role) := rfl

/-- The releases from `k` on, made through the adapter. -/
def restAdvances (k n : Nat) : List PresentationCall :=
  (List.range' k n).map fun k ↦ .advanceOneRelease (restAnswer k)

/-- The `n`th intent of the operator, on the navigation update. -/
def updateIntent (n : Nat) (operation : PresentationActionOperation) :
    PresentationActionIntent :=
  ⟨0x12b50001, 0x12b50001, operation, 0, UInt64.ofNat n⟩

/-- Releases through the adapter are releases of its session. -/
theorem restAdvances_run (p : FullMissionPresentationSession) (k n : Nat) :
    run FullMissionPresentationSession.step p (restAdvances k n) =
      { p with authority := run FullMissionSession.step p.authority (restReleases k n) } := by
  unfold restAdvances restReleases
  generalize List.range' k n = ks
  induction ks generalizing p with
  | nil => rfl
  | cons k ks ih =>
      rw [List.map_cons, List.map_cons, run_cons, run_cons]
      exact ih _

/-- The vehicle is at rest before release `k`, and the operator at the `n`th intent. -/
structure Waiting (pending : Option PendingUplink) (k n : Nat)
    (p : FullMissionPresentationSession) : Prop where
  idle : Idle pending k p.authority
  watched : Watched k p.authority.watch
  role : p.role = .flightController
  sequence : p.nextClientActionSequence = UInt64.ofNat n
  receipts : p.receipts.nextSequence = UInt64.ofNat n

/-- The prepared mission waits for its first intent. -/
theorem waiting_prepared :
    Waiting none 0 1 ((fullGnssLossAdapter .flightController).step (.prepare (.ok padWorld))) :=
  ⟨(idle_prepared rfl).1, (idle_prepared rfl).2, rfl, rfl, rfl⟩

theorem Waiting.advance (h : Waiting pending k n p) (m : Nat) (hm : k + m ≤ 7841)
    (hpending : ∀ i < m, Uncommitted pending (k + i)) :
    Waiting pending (k + m) n
      (run FullMissionPresentationSession.step p (restAdvances k m)) := by
  obtain ⟨hidle, hwatched⟩ := idle_run h.idle h.watched m hm hpending
  rw [restAdvances_run]
  exact ⟨hidle, hwatched, h.role, h.sequence, h.receipts⟩

/-- Pushing a receipt onto a stream that is not full. -/
theorem push_numbered {receipts : RetainedStream ActionReceiptView} (hn : n < 1000)
    (hnumbered : receipts.nextSequence = UInt64.ofNat n) (receipt : ActionReceiptView) :
    (∃ sequence, (receipts.push receipt).1 = .ok sequence)
      ∧ (receipts.push receipt).2.nextSequence = UInt64.ofNat (n + 1) := by
  have hbelow : UInt64.ofNat n ≠ 18446744073709551615 := by
    intro heq
    have hnat := congrArg UInt64.toNat heq
    rw [UInt64.toNat_ofNat_of_lt' (by show n < 2 ^ 64; omega)] at hnat
    have hlarge : n = 18446744073709551615 := hnat
    omega
  have hnext : UInt64.ofNat n + 1 = UInt64.ofNat (n + 1) := (UInt64.ofNat_add n 1).symm
  unfold RetainedStream.push
  rw [hnumbered, if_neg hbelow, ← hnext]
  refine ⟨⟨_, rfl⟩, ?_⟩
  dsimp only
  split <;> rfl

/-- An intent that is carried out is answered, and counted. -/
theorem Waiting.carried_out (h : Waiting pending k n p) (hn : n < 1000)
    {intent : PresentationActionIntent} (hchecked : p.checkIntent intent = .ok proposal)
    {receipt : ActionReceiptView} {q : FullMissionPresentationSession}
    (happlied : p.applyIntent intent proposal = (.ok receipt, q))
    (hreceipts : q.receipts = p.receipts)
    (hsequence : q.nextClientActionSequence = p.nextClientActionSequence) :
    (∃ answer, (p.submitAction intent).1 = .ok answer ∧ answer.accepted = receipt.accepted)
      ∧ Follows q (p.step (.submit intent))
      ∧ (p.step (.submit intent)).nextClientActionSequence = UInt64.ofNat (n + 1)
      ∧ (p.step (.submit intent)).receipts.nextSequence = UInt64.ofNat (n + 1) := by
  have hnat : ∀ n < 1000 + 1, (UInt64.ofNat n).toNat = n :=
    fun n hn ↦ UInt64.toNat_ofNat_of_lt' (by show n < 2 ^ 64; omega)
  have hnext : checkedAdd64 p.nextClientActionSequence 1 = some (UInt64.ofNat (n + 1)) := by
    rw [h.sequence]
    refine checkedAdd64_eq_some.mpr ?_
    rw [hnat n (by omega), hnat (n + 1) (by omega)]
    rfl
  have hsubmit : p.submitAction intent =
      { q with nextClientActionSequence := UInt64.ofNat (n + 1) }.pushReceipt receipt := by
    unfold submitAction
    rw [hchecked]
    dsimp only
    rw [happlied, Attempt.andThen_ok rfl, hsequence, hnext]
  obtain ⟨⟨sequence, hok⟩, hnumbered⟩ := push_numbered hn (hreceipts ▸ h.receipts)
    { receipt with publicationSequence := q.receipts.nextSequence }
  show _ ∧ Follows q (p.submitAction intent).2
    ∧ (p.submitAction intent).2.nextClientActionSequence = _
    ∧ (p.submitAction intent).2.receipts.nextSequence = _
  rw [hsubmit, pushReceipt_follows]
  refine ⟨⟨{ receipt with publicationSequence := q.receipts.nextSequence }, ?_, rfl⟩,
    ⟨_, _, rfl⟩, rfl, hnumbered⟩
  unfold pushReceipt
  dsimp only
  rw [hok]

/-- On the pad the update is recommended once it may be staged. -/
theorem recommendedLoad_pad {s : FullMissionSession} (h : Idle none k s)
    (hwatched : Watched k s.watch) (hk : 6080 ≤ k) (hclose : k ≤ 7840) :
    ∃ load, s.recommendedLoad = some load
      ∧ PadUpdate s (UInt32.ofNat k) (max updateEffectiveRelease (UInt32.ofNat k + 160)) load := by
  have hnat : (UInt32.ofNat k).toNat = k :=
    UInt32.toNat_ofNat_of_lt' (by show k < 2 ^ 32; omega)
  obtain ⟨load, hload, hpad⟩ := groundUpdateLoad_pad hwatched (by omega) (UInt32.ofNat k)
    (max updateEffectiveRelease (UInt32.ofNat k + 160))
  refine ⟨load, ?_, hpad⟩
  obtain ⟨-, e, hsome, hat⟩ := hwatched.procedure.resolve_left (by omega)
  have hstep : s.procedure.map ProcedureEngine.currentStep = some 4 := by
    rw [show s.procedure = some e from hsome, Option.map_some, hat.currentStep_eq, stepAt,
      if_neg (by omega), if_neg (by omega)]
  have hwithin : ¬(s.stagedLoad.isSome = true ∨ decisionWindowCloseRelease < s.releaseEpoch) := by
    rw [h.stagedLoad, h.epoch, Option.bind_none, not_or, UInt32.not_lt, UInt32.le_iff_toNat_le,
      hnat]
    exact ⟨by rintro ⟨⟩, hclose⟩
  have hdue : updateStageRelease ≤ s.releaseEpoch := by
    rw [h.epoch, UInt32.le_iff_toNat_le, hnat]
    exact hk
  unfold recommendedLoad
  rw [if_neg hwithin, hstep]
  refine (if_pos hdue).trans ?_
  rw [h.epoch]
  exact hload

/-- An intent of the operator on the update that is shown. -/
theorem Waiting.checked (h : Waiting pending k n p) (hn : 0 < n) (hbelow : n < 1000)
    {operation : PresentationActionOperation} (hshown : p.currentActionProposal = some proposal)
    (hproposal : proposal.proposalIdentity = 0x12b50001)
    (hload : proposal.loadIdentity = 0x12b50001)
    (hpermitted : proposal.permittedOperations &&& permissionBit operation ≠ 0) :
    p.checkIntent (updateIntent n operation) = .ok proposal := by
  have hidentity : (0x12b50001 : UInt32) ≠ 0 := by decide
  have hnumber : UInt64.ofNat n ≠ 0 := by
    intro heq
    have hnat := congrArg UInt64.toNat heq
    rw [UInt64.toNat_ofNat_of_lt' (by show n < 2 ^ 64; omega)] at hnat
    exact absurd hnat (by show n ≠ 0; omega)
  refine checkIntent_eq_ok.mpr ⟨validate_eq_ok.mpr ⟨⟨hidentity, hnumber⟩, ?_, .inr hidentity⟩,
    h.sequence.symm, hshown, hproposal.symm, .inr hload.symm, hpermitted, .inl rfl⟩
  rw [h.role]
  rfl

/-- What is shown while the update is recommended. -/
theorem currentActionProposal_of_recommended (hload : p.authority.recommendedLoad = some load) :
    p.currentActionProposal = some (proposalFromLoad load p.authority.releaseEpoch) := by
  unfold currentActionProposal
  rw [(recommendedLoad_spec hload).1, hload]
  rfl

/-- The recommended update is reviewed. -/
theorem Waiting.review (h : Waiting none k n p) (hn : 0 < n) (hbelow : n < 1000) (hk : 6080 ≤ k)
    (hclose : k ≤ 7840) :
    Waiting none k (n + 1) (p.step (.submit (updateIntent n .review)))
      ∧ (p.step (.submit (updateIntent n .review))).reviewedProposal = some 0x12b50001
      ∧ (p.step (.submit (updateIntent n .review))).authority = p.authority
      ∧ ∃ answer, (p.submitAction (updateIntent n .review)).1 = .ok answer := by
  obtain ⟨load, hload, hpad⟩ := recommendedLoad_pad h.idle h.watched hk hclose
  have hpermitted : (3 : UInt8) &&& permissionBit .review ≠ 0 := by decide
  have hchecked := h.checked hn hbelow (currentActionProposal_of_recommended hload) hpad.identity
    hpad.identity hpermitted
  obtain ⟨⟨answer, hanswer, -⟩, ⟨_, _, hnext⟩, hsequence, hreceipts⟩ :=
    h.carried_out hbelow hchecked (if_pos rfl) rfl rfl
  have hauthority : (p.step (.submit (updateIntent n .review))).authority = p.authority := by
    rw [hnext]
    rfl
  refine ⟨⟨hauthority ▸ h.idle, hauthority ▸ h.watched, ?_, hsequence, hreceipts⟩, ?_,
    hauthority, answer, hanswer⟩
  · rw [hnext]
    exact h.role
  · rw [hnext]
    exact congrArg some hpad.identity

/-- An action that the session answers. -/
theorem applyIntent_answered {intent : PresentationActionIntent} {action : MissionOperatorAction}
    {receipt : MissionActionReceipt} {s : FullMissionSession} (hreview : intent.operation ≠ .review)
    (haction : p.actionFor proposal intent.operation = some action)
    (hsubmit : p.authority.submitOperatorAction action = (.ok receipt, s)) :
    p.applyIntent intent proposal =
      (.ok (mapActionReceipt receipt proposal.proposalIdentity intent.operation),
        { p with authority := s }.noteAnswered proposal intent.operation) := by
  unfold applyIntent
  rw [if_neg hreview, haction]
  dsimp only
  rw [hsubmit]
  rfl

/-- A load that an action has staged was accepted. -/
theorem accepted_of_staged {s : FullMissionSession} {r : GlobalPackageAvionicsMission}
    {mask : UInt32} {record : UplinkControlRecord} (hnone : s.stagedLoad = none)
    (hrecord : (s.submitRecord r (.stage load mask)).1 = .ok record)
    (hstaged : (s.submitRecord r (.stage load mask)).2.stagedLoad = some load) :
    recordAccepted record = true := by
  unfold submitRecord submitStage at hrecord hstaged
  dsimp only at hrecord hstaged
  split at hrecord
  · cases hrecord
  · rename_i hstaging
    cases hrecord
    rw [hstaging] at hstaged
    dsimp only at hstaged
    cases hconfirms : confirms record .stageReceipt load.loadIdentity .staged with
    | true =>
        unfold confirms at hconfirms
        simp only [Bool.and_eq_true, beq_iff_eq] at hconfirms
        obtain ⟨⟨⟨hkind, -⟩, hstate⟩, hreason⟩ := hconfirms
        unfold recordAccepted
        rw [hkind, hstate, hreason]
        rfl
    | false =>
        rw [hconfirms] at hstaged
        exact nomatch hnone.symm.trans hstaged

/-- The reviewed update is staged. -/
theorem Waiting.stage (h : Waiting none k n p) (hn : 0 < n) (hbelow : n < 1000) (hk : 6080 ≤ k)
    (hclose : k ≤ 7600) (hreviewed : p.reviewedProposal = some 0x12b50001) :
    ∃ load, p.authority.recommendedLoad = some load
      ∧ PadUpdate p.authority (UInt32.ofNat k)
        (max updateEffectiveRelease (UInt32.ofNat k + 160)) load
      ∧ p.handed (updateIntent n .stage) = some (.stage load load.prerequisiteEventMask)
      ∧ (∃ answer, (p.submitAction (updateIntent n .stage)).1 = .ok answer
        ∧ answer.accepted = true)
      ∧ Waiting (some (.stage load)) k (n + 1) (p.step (.submit (updateIntent n .stage)))
      ∧ (p.step (.submit (updateIntent n .stage))).currentActionProposal =
        some (stagedProposal load) := by
  obtain ⟨load, hload, hpad⟩ := recommendedLoad_pad h.idle h.watched hk (by omega)
  have hpermitted : (3 : UInt8) &&& permissionBit .stage ≠ 0 := by decide
  have hchecked := h.checked hn hbelow (currentActionProposal_of_recommended hload) hpad.identity
    hpad.identity hpermitted
  have haction : p.stageAction (proposalFromLoad load p.authority.releaseEpoch) =
      some (.stage load load.prerequisiteEventMask) := by
    have hsame := hreviewed.trans (congrArg some hpad.identity.symm)
    refine (if_neg (not_not.mpr hsame)).trans ?_
    rw [hload, Option.filter_some]
    exact congrArg (Option.map _) (if_pos (decide_eq_true rfl))
  have hnat : (UInt32.ofNat k).toNat = k :=
    UInt32.toNat_ofNat_of_lt' (by show k < 2 ^ 32; omega)
  have hlater : (UInt32.ofNat k + 160).toNat = k + 160 := by
    rw [UInt32.toNat_add, hnat]
    exact Nat.mod_eq_of_lt (by show k + 160 < 2 ^ 32; omega)
  have heffective : (max updateEffectiveRelease (UInt32.ofNat k + 160)).toNat =
      max 6400 (k + 160) := by
    rw [toNat_max32, hlater]
    rfl
  obtain ⟨hidle, hwatch⟩ := h.idle.stage_update hpad (by omega) (by omega)
    load.prerequisiteEventMask
  obtain ⟨r, hrunner, hrest⟩ := h.idle.runner
  have hbound : p.authority.checkAction (.stage load load.prerequisiteEventMask) = .ok () :=
    if_pos hpad.bound
  obtain ⟨record, hrecord, hsubmit, -⟩ :=
    submit_answered h.idle.guided h.idle.isOpen h.idle.canAct hrunner hrest.plan hbound
  have hstep : p.authority.step (.submit (.stage load load.prerequisiteEventMask)) = _ :=
    congrArg Prod.snd hsubmit
  have hstaged : (p.authority.submitRecord r
      (.stage load load.prerequisiteEventMask)).2.stagedLoad = some load := by
    have hafter := hidle.stagedLoad
    rwa [hstep] at hafter
  have haccepted := accepted_of_staged h.idle.stagedLoad hrecord hstaged
  have happlied : p.applyIntent (updateIntent n .stage)
        (proposalFromLoad load p.authority.releaseEpoch) =
      (.ok (mapActionReceipt ⟨record, recordAccepted record⟩ load.loadIdentity .stage),
        { p with
          authority := p.authority.step (.submit (.stage load load.prerequisiteEventMask))
          activeProposal := some (proposalFromLoad load p.authority.releaseEpoch) }) := by
    rw [hstep]
    exact applyIntent_answered nofun haction hsubmit
  obtain ⟨⟨answer, hanswer, hanswered⟩, ⟨_, _, hnext⟩, hsequence, hreceipts⟩ :=
    h.carried_out hbelow hchecked happlied rfl rfl
  refine ⟨load, hload, hpad, (handed_of_checked hchecked).trans haction,
    ⟨answer, hanswer, hanswered.trans haccepted⟩, ⟨?_, ?_, ?_, hsequence, hreceipts⟩, ?_⟩
  · rw [hnext]
    exact hidle
  · rw [hnext]
    exact hwatch.symm ▸ h.watched
  · rw [hnext]
    exact h.role
  · rw [hnext, currentActionProposal_of_staged hidle.stagedLoad]
    show some _ = some _
    rw [← (recommendedLoad_spec hload).2.1]
    rfl

/-- A commit that comes too late leaves the load staged, and nothing shown. -/
theorem Waiting.commit_late (h : Waiting (some (.stage load)) k n p) (hn : 0 < n)
    (hbelow : n < 1000) (hk : 5923 ≤ k) (hidentity : load.loadIdentity = 0x12b50001)
    (htype : load.loadType = .groundNavigationUpdate)
    (hshown : p.currentActionProposal = some (stagedProposal load))
    (hlate : commitLate load load.requestedEffectiveEpoch (UInt32.ofNat k)) :
    (p.step (.submit (updateIntent n .commit))).authority.stagedLoad = some load
      ∧ (p.step (.submit (updateIntent n .commit))).currentActionProposal = none := by
  have hstaged : p.authority.stagedLoad = some load := h.idle.stagedLoad
  have hpermitted : (13 : UInt8) &&& permissionBit .commit ≠ 0 := by decide
  have hchecked := h.checked hn hbelow hshown hidentity hidentity hpermitted
  have haction : p.commitAction (stagedProposal load) =
      some (.commit (commitRequest load p.authority.releaseEpoch)) := by
    unfold commitAction commitRequestForStaged
    rw [hstaged, Option.map_some, Option.filter_some]
    exact congrArg (Option.map _) (if_pos (decide_eq_true rfl))
  have haccepts : p.authority.checkAction (.commit (commitRequest load p.authority.releaseEpoch)) =
      .ok () := by
    unfold checkAction
    dsimp only
    rw [hstaged]
    dsimp only
    rw [htype]
    exact if_pos (accepts_update h.watched.procedure hk rfl)
  obtain ⟨r, hrunner, hrest⟩ := h.idle.runner
  obtain ⟨record, -, hsubmit, -, -, d, hmove, hdesk⟩ :=
    submit_answered h.idle.guided h.idle.isOpen h.idle.canAct hrunner hrest.plan haccepts
  obtain ⟨-, ⟨_, _, hnext⟩, -, -⟩ :=
    h.carried_out hbelow hchecked (applyIntent_answered nofun haction hsubmit) rfl rfl
  have hkept : d.stagedLoad = some load := by
    cases hmove with
    | uncommitted => exact hstaged
    | committed _ _ hconfirms =>
        obtain ⟨-, hconfirmed⟩ := (confirms_commit _ hrest.pending _ _ _).mp hconfirms
        unfold UplinkView.CommitConfirmed at hconfirmed
        rw [view_pending, hrest.pending, hrest.epoch] at hconfirmed
        exact absurd hlate (hconfirmed.2.resolve_left nofun)
  have hafter : (p.step (.submit (updateIntent n .commit))).authority.stagedLoad = some load := by
    rw [hnext]
    exact (congrArg MissionDesk.stagedLoad hdesk).trans hkept
  refine ⟨hafter, ?_⟩
  rw [currentActionProposal_of_staged hafter, hnext]
  rfl

/-- The update is staged at release `k`, and committed `m` releases later. -/
def stageThenCommit (k m n : Nat) : List PresentationCall :=
  .submit (updateIntent n .stage) ::
    (restAdvances k m ++ [.submit (updateIntent (n + 1) .commit)])

/-- Committed in the last releases before it is due, a staged load is out of reach. -/
theorem Waiting.out_of_reach (h : Waiting none k n p) (hn : 0 < n) (hbelow : n < 999)
    (hk : 6080 ≤ k) (hclose : k ≤ 7600) {m : Nat}
    (hreviewed : p.reviewedProposal = some 0x12b50001)
    (hlate : max 6400 (k + 160) < k + m + 2) (hin : k + m ≤ max 6400 (k + 160) + 64) :
    ¬(run FullMissionPresentationSession.step p (stageThenCommit k m n)).StagedReachable := by
  have hnat : ∀ k, k ≤ 8000 → (UInt32.ofNat k).toNat = k :=
    fun k hk ↦ UInt32.toNat_ofNat_of_lt' (by show k < 2 ^ 32; omega)
  obtain ⟨load, -, hpad, -, -, hstaged, hshown⟩ := h.stage hn (by omega) hk hclose hreviewed
  have heffective : load.requestedEffectiveEpoch.toNat = max 6400 (k + 160) := by
    rw [hpad.effective, toNat_max32, UInt32.toNat_add, hnat k (by omega)]
    exact congrArg (max 6400) (Nat.mod_eq_of_lt (by show k + 160 < 2 ^ 32; omega))
  have hexpires : load.expiresEpoch.toNat = max 6400 (k + 160) + 64 := by
    rw [hpad.expires, ← hpad.effective, UInt32.toNat_add, heffective]
    exact Nat.mod_eq_of_lt (by show max 6400 (k + 160) + 64 < 2 ^ 32; omega)
  have hwaits : ∀ i < m, Uncommitted (some (.stage load)) (k + i) := by
    rintro i hi _ ⟨⟩
    refine ⟨nofun, ?_⟩
    rw [stage_load, UInt32.le_iff_toNat_le, hnat _ (by omega), hexpires]
    omega
  have hlater := hstaged.advance m (by omega) hwaits
  have hshownLater : (run FullMissionPresentationSession.step (p.step (.submit (updateIntent n .stage)))
      (restAdvances k m)).currentActionProposal = some (stagedProposal load) := by
    rw [currentActionProposal_of_staged hlater.idle.stagedLoad, restAdvances_run,
      ← currentActionProposal_of_staged hstaged.idle.stagedLoad]
    exact hshown
  have htoolate : commitLate load load.requestedEffectiveEpoch (UInt32.ofNat (k + m)) := by
    refine .inr (.inl ?_)
    rw [UInt32.lt_iff_toNat_lt, toNat_addSat32, hnat _ (by omega), heffective]
    show _ < min (k + m + 2) (2 ^ 32 - 1)
    omega
  obtain ⟨hkept, hnothing⟩ := hlater.commit_late (by omega) (by omega) (by omega) hpad.identity
    hpad.type hshownLater htoolate
  rw [stageThenCommit, run_cons, run_concat]
  exact fun hreachable ↦ nomatch hnothing.symm.trans (hreachable load hkept).shown

/-- The mission is prepared, and the update is reviewed as soon as it is recommended. -/
def reviewedRun : List PresentationCall :=
  .prepare (.ok padWorld) :: (restAdvances 0 6080 ++ [.submit (updateIntent 1 .review)])

theorem waiting_reviewedRun :
    Waiting none 6080 2 (run FullMissionPresentationSession.step
        (fullGnssLossAdapter .flightController) reviewedRun)
      ∧ (run FullMissionPresentationSession.step (fullGnssLossAdapter .flightController)
        reviewedRun).reviewedProposal = some 0x12b50001 := by
  have hrest := waiting_prepared.advance 6080 (by omega) fun _ _ _ hp ↦ nomatch hp
  rw [Nat.zero_add] at hrest
  obtain ⟨hwaiting, hreviewed, -⟩ := hrest.review (by omega) (by omega) (by omega) (by omega)
  rw [reviewedRun, run_cons, run_concat]
  exact ⟨hwaiting, hreviewed⟩

/-- A vehicle at rest drops no load that has not expired. -/
theorem Waiting.keeps_advances (h : Waiting pending k n p) (m : Nat) (hm : k + m ≤ 7841)
    (hpending : ∀ i < m, Uncommitted pending (k + i)) :
    Meets FullMissionPresentationSession.step KeepsStaged p (restAdvances k m) := by
  induction m with
  | zero => exact trivial
  | succ m ih =>
      have hlast := h.advance m (by omega) fun i hi ↦ hpending i (by omega)
      have hsplit : restAdvances k (m + 1) =
          restAdvances k m ++ [.advanceOneRelease (restAnswer (k + m))] := by
        unfold restAdvances
        rw [List.range'_concat, List.map_append, Nat.one_mul]
        rfl
      rw [hsplit]
      refine meets_append.mpr ⟨ih (by omega) fun i hi ↦ hpending i (by omega), ⟨?_, trivial⟩, trivial⟩
      generalize run FullMissionPresentationSession.step p (restAdvances k m) = q at hlast ⊢
      intro answer _ _ load hload r hr hexpired
      obtain ⟨_, hrunner, hrest⟩ := hlast.idle.runner
      obtain rfl := Option.some.inj (hrunner.symm.trans hr)
      obtain ⟨held, rfl, hcopy⟩ := Option.bind_eq_some_iff.mp (hlast.idle.stagedLoad.symm.trans hload)
      have hsame : held.load = load := by
        unfold copyOf at hcopy
        split at hcopy
        · exact Option.some.inj hcopy
        · cases hcopy
      have hin := (hpending m (Nat.lt_succ_self m) held rfl).2
      rw [hrest.epoch, ← hsame] at hexpired
      exact absurd hexpired (UInt32.not_lt.mpr hin)

/-- An intent that hands over no commit keeps the staged load within reach. -/
theorem keepsStaged_of_handed {intent : PresentationActionIntent}
    (h : ∀ request, p.handed intent ≠ some (.commit request)) :
    p.KeepsStaged (.submit intent) := by
  rintro action hhanded request rfl
  exact absurd hhanded (h request)

theorem keepsStaged_reviewedRun :
    Meets FullMissionPresentationSession.step KeepsStaged (fullGnssLossAdapter .flightController)
      reviewedRun := by
  have hrest := waiting_prepared.keeps_advances 6080 (by omega) fun _ _ _ hp ↦ nomatch hp
  refine ⟨⟨fun _ hanswer ↦ (nomatch hanswer), trivial⟩, meets_append.mpr ⟨hrest, ?_, trivial⟩⟩
  refine keepsStaged_of_handed fun request hhanded ↦ ?_
  obtain ⟨proposal, -, hnone⟩ := Option.bind_eq_some_iff.mp hhanded
  exact nomatch hnone

/-- The update is reviewed, staged and committed at once; it is within reach while staged. -/
theorem staged_reachable_reviewedRun :
    (run FullMissionPresentationSession.step (fullGnssLossAdapter .flightController)
        (reviewedRun ++ [.submit (updateIntent 2 .stage)])).StagedReachable
      ∧ (run FullMissionPresentationSession.step (fullGnssLossAdapter .flightController)
        (reviewedRun ++ stageThenCommit 6080 0 2)).StagedReachable := by
  suffices hkept : Meets FullMissionPresentationSession.step KeepsStaged
      (fullGnssLossAdapter .flightController) (reviewedRun ++ stageThenCommit 6080 0 2) by
    have hreachable := staged_reachable_of_kept (compiled_fullGnssLossAdapter .flightController) hkept
    refine ⟨hreachable _ [.submit (updateIntent 3 .commit)] ?_,
      hreachable _ [] (List.append_nil _).symm⟩
    rw [List.append_assoc]
    rfl
  refine meets_append.mpr ⟨keepsStaged_reviewedRun, ?_⟩
  obtain ⟨hwaiting, hreviewed⟩ := waiting_reviewedRun
  generalize run FullMissionPresentationSession.step (fullGnssLossAdapter .flightController)
    reviewedRun = p at *
  obtain ⟨load, -, hpad, hhanded, -, hstaged, -⟩ :=
    hwaiting.stage (by omega) (by omega) (by omega) (by omega) hreviewed
  refine ⟨keepsStaged_of_handed fun request hcommit ↦ ?_, ?_, trivial⟩
  · cases hhanded.symm.trans hcommit
  · rintro action - request - - load' hload' - r hr
    obtain rfl := Option.some.inj (hstaged.idle.stagedLoad.symm.trans hload')
    obtain ⟨_, hrunner, hrest⟩ := hstaged.idle.runner
    obtain rfl := Option.some.inj (hrunner.symm.trans hr)
    rw [hrest.epoch]
    unfold commitLate
    rw [stage_load, hpad.effective, hpad.notBefore, hpad.expires]
    decide

/-- The flight package rejects a commit, and the staged load is out of reach. -/
theorem staged_unreachable_after_commit :
    ¬∀ (project : CompiledMissionProject) (role : OperationalRole)
      (p : FullMissionPresentationSession) (calls : List PresentationCall),
      FullMissionPresentationSession.compiled project role = .ok p →
        (run FullMissionPresentationSession.step p calls).StagedReachable := by
  intro hreachable
  obtain ⟨hwaiting, hreviewed⟩ := waiting_reviewedRun
  have hout := hwaiting.out_of_reach (m := 319) (by omega) (by omega) (by omega) (by omega)
    hreviewed (by omega) (by omega)
  rw [← run_append] at hout
  exact hout (hreachable _ _ _ _ (compiled_fullGnssLossAdapter .flightController))

end AtRest

end Ksa64.Session
