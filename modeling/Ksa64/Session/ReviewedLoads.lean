import Ksa64.Session.PresentationRuns

/-!
# What is staged and what was reviewed

The operator reviews a proposal and stages it with a second intent.  The adapter remembers
the identity of the proposal reviewed, and the load is computed anew when it is staged.  This
file relates the load handed to the session to the one reviewed last, over whole runs: they
are the same exactly when no release lies between the two intents.
-/

namespace Ksa64.Session

open Ksa64.Library Ksa64.Interface Ksa64.Sim Ksa64.Flight Ksa64.Presentation FullMissionSession
  FullMissionPresentationSession

/-! ## What the session recommends on -/

section Outlook

variable {s t u : FullMissionSession}

/-- The sessions recommend the same load, at the same release. -/
structure SameOutlook (s t : FullMissionSession) : Prop where
  stagedLoad : t.stagedLoad = s.stagedLoad
  releaseEpoch : t.releaseEpoch = s.releaseEpoch
  procedure : t.procedure = s.procedure
  latestGround : t.latestGround = s.latestGround
  latestFlight : t.latestFlight = s.latestFlight

theorem SameOutlook.refl (s : FullMissionSession) : SameOutlook s s := ⟨rfl, rfl, rfl, rfl, rfl⟩

theorem SameOutlook.trans (h : SameOutlook s t) (h' : SameOutlook t u) : SameOutlook s u :=
  ⟨h'.stagedLoad.trans h.stagedLoad, h'.releaseEpoch.trans h.releaseEpoch,
    h'.procedure.trans h.procedure, h'.latestGround.trans h.latestGround,
    h'.latestFlight.trans h.latestFlight⟩

theorem SameOutlook.recommendedLoad_eq (h : SameOutlook s t) :
    t.recommendedLoad = s.recommendedLoad := by
  unfold recommendedLoad groundUpdateLoad branchLoad
  rw [h.stagedLoad, h.releaseEpoch, h.procedure, h.latestGround, h.latestFlight]

/-- The session recommends as before, or has counted a release. -/
def Onward (s t : FullMissionSession) : Prop :=
  SameOutlook s t ∨ s.releaseEpoch < t.releaseEpoch

theorem Onward.trans (h : Onward s t) (h' : Onward t u) : Onward s u := by
  rcases h with hsame | hlater
  · rcases h' with hsame' | hlater'
    · exact .inl (hsame.trans hsame')
    · exact .inr (hsame.releaseEpoch ▸ hlater')
  · rcases h' with hsame' | hlater'
    · exact .inr (hsame'.releaseEpoch.symm ▸ hlater)
    · exact .inr (UInt32.lt_trans hlater hlater')

/-- Below the largest epoch there is a next one. -/
theorem lt_addSat32_one {epoch : UInt32} (h : epoch < 4294967295) : epoch < addSat32 epoch 1 := by
  rw [UInt32.lt_iff_toNat_lt] at h ⊢
  rw [toNat_addSat32, UInt32.toNat_one]
  have hbelow : epoch.toNat < 4294967295 := h
  omega

/-- An advance that counts no release leaves all that is recommended on as it was. -/
theorem advanceInternal_onward (h : Guided s) (singleStep : Bool) (answer : WorldAnswer) :
    Onward s (s.advanceInternal singleStep answer).2 := by
  unfold advanceInternal
  by_cases hopen : s.isOpen = true
  · by_cases hlimit : fullMissionMaxReleases ≤ s.releaseEpoch
    · rw [if_neg (by simp [hopen]), if_pos hlimit]
      exact .inl (.refl s)
    · rw [if_neg (by simp [hopen]), if_neg hlimit]
      dsimp only
      cases hrunner : s.runner with
      | none => exact .inl ⟨rfl, rfl, rfl, rfl, rfl⟩
      | some r =>
          show Onward s (fly { s with lifecycle := .running, runner := some r } r s.releaseEpoch
            singleStep answer).2
          have hguided : Guided { s with lifecycle := .running, runner := some r } :=
            ⟨h.onMission, h.ground, fun hcompiled ↦ nomatch hcompiled⟩
          generalize ht : ({ s with lifecycle := .running, runner := some r } :
            FullMissionSession) = t at hguided ⊢
          obtain ⟨hnext, hresult⟩ := @releaseRunner_spec t r answer
          unfold fly
          rcases hresult with ⟨⟨bundle, hbundle⟩, -⟩ | ⟨hfailed, -⟩
          · have hreleased : Guided (t.releaseRunner r answer).2 := by
              rw [hnext]
              refine ⟨hguided.onMission, hguided.ground, fun hcompiled ↦ ?_⟩
              exact nomatch (congrArg FullMissionSession.lifecycle ht).trans hcompiled
            obtain ⟨htaken, -, hdesk⟩ := takeRelease_spec hreleased s.releaseEpoch bundle answer
            rw [Attempt.andThen_ok hbundle, Attempt.andThen_ok htaken]
            have hcounted : (((t.releaseRunner r answer).2.takeRelease s.releaseEpoch bundle
                answer).2).desk.releaseEpoch = addSat32 s.releaseEpoch 1 := by
              rw [hdesk, hnext, ← ht]
              rfl
            generalize (t.releaseRunner r answer).2.takeRelease s.releaseEpoch bundle answer =
              taken at hcounted ⊢
            have hepoch := congrArg MissionDesk.releaseEpoch (fly_rest_desk taken.2 singleStep answer)
            have hconcluded : (taken.2.conclude answer).2.desk.releaseEpoch =
                taken.2.desk.releaseEpoch := by
              rcases @conclude_desk taken.2 answer with hrest | ⟨_, _, _, _, _, hrest⟩
              · rw [hrest]
              · rw [hrest]
            refine .inr ?_
            rw [show FullMissionSession.releaseEpoch _ = _ from hepoch, hconcluded, hcounted]
            exact lt_addSat32_one (UInt32.lt_of_lt_of_le (UInt32.not_le.mp hlimit) (by decide))
          · rw [Attempt.andThen_of_failed hfailed, hnext, ← ht]
            exact .inl ⟨rfl, rfl, rfl, rfl, rfl⟩
  · rw [if_pos (by simpa using hopen)]
    exact .inl (.refl s)

theorem stepOneRelease_onward (h : Guided s) (answer : WorldAnswer) :
    Onward s (s.stepOneRelease answer).2 := by
  unfold FullMissionSession.stepOneRelease
  split
  · exact .inl (.refl s)
  · refine Attempt.andThen_keeps (P := Onward s) (advanceInternal_onward h true answer) ?_
    intro _ t ht
    split
    · exact ht.trans (.inl ⟨rfl, rfl, rfl, rfl, rfl⟩)
    · exact ht

/-- Calls that submit nothing leave what is recommended, or count a release. -/
theorem step_onward (h : Guided s) {call : FullMissionCall}
    (hcall : ∀ action, call ≠ .submit action) : Onward s (s.step call) := by
  have hpause : SameOutlook s s.pause.2 := by
    unfold FullMissionSession.pause
    split <;> exact ⟨rfl, rfl, rfl, rfl, rfl⟩
  cases call with
  | prepare world =>
      refine .inl ?_
      show SameOutlook s (s.prepare world).2
      unfold FullMissionSession.prepare
      split
      · exact .refl s
      · split
        · exact .refl s
        · split <;> exact ⟨rfl, rfl, rfl, rfl, rfl⟩
  | setPace pace =>
      refine .inl ?_
      show SameOutlook s (s.setPace pace).2
      unfold FullMissionSession.setPace
      split
      · exact .refl s
      · split
        · exact hpause
        · exact ⟨rfl, rfl, rfl, rfl, rfl⟩
  | pause => exact .inl hpause
  | resume =>
      refine .inl ?_
      show SameOutlook s s.resume.2
      unfold FullMissionSession.resume
      split <;> exact ⟨rfl, rfl, rfl, rfl, rfl⟩
  | abort reasonIdentity =>
      refine .inl ?_
      show SameOutlook s (s.abort reasonIdentity).2
      unfold FullMissionSession.abort
      split <;> exact ⟨rfl, rfl, rfl, rfl, rfl⟩
  | advanceOneRelease answer =>
      show Onward s (s.advanceOneRelease answer).2
      unfold FullMissionSession.advanceOneRelease
      split
      · exact .inl (.refl s)
      · exact advanceInternal_onward h false answer
  | stepOneRelease answer => exact stepOneRelease_onward h answer
  | advanceRound singleStep answer => exact advanceInternal_onward h singleStep answer
  | submit action => exact absurd rfl (hcall action)

/-- The session is as before in what a load is made of. -/
structure SameSources (s t : FullMissionSession) : Prop where
  procedure : t.procedure = s.procedure
  latestGround : t.latestGround = s.latestGround
  latestFlight : t.latestFlight = s.latestFlight

/-- A stage action does not change what loads are made of. -/
theorem sameSources_stage (load : UplinkCommandLoad) (mask : UInt32) :
    SameSources s (s.step (.submit (.stage load mask))) := by
  show SameSources s (s.submitOperatorAction (.stage load mask)).2
  unfold submitOperatorAction
  split
  · exact ⟨rfl, rfl, rfl⟩
  · split
    · exact ⟨rfl, rfl, rfl⟩
    · split
      · exact ⟨rfl, rfl, rfl⟩
      · split
        · exact ⟨rfl, rfl, rfl⟩
        · rename_i runner _
          refine Attempt.andThen_keeps (P := SameSources s) ?_ fun _ t ht ↦ ?_
          · unfold submitRecord submitStage
            dsimp only
            split
            · exact ⟨rfl, rfl, rfl⟩
            · split <;> exact ⟨rfl, rfl, rfl⟩
          · exact ⟨ht.procedure, ht.latestGround, ht.latestFlight⟩

end Outlook

/-! ## Reviews -/

/-- A review: the load that the proposal is about, and the release. -/
structure ProposalReview where
  epoch : UInt32
  load : UplinkCommandLoad

namespace FullMissionPresentationSession

/-- The load that the proposal shown is about. -/
def proposedLoad (p : FullMissionPresentationSession) : Option UplinkCommandLoad :=
  p.authority.stagedLoad.or p.authority.recommendedLoad

/-- The review that a call makes: a review intent that passes the checks. -/
def reviewed (p : FullMissionPresentationSession) : PresentationCall → Option ProposalReview
  | .submit intent =>
      if intent.operation = .review ∧ (p.checkIntent intent).isOk then
        p.proposedLoad.map (⟨p.authority.releaseEpoch, ·⟩)
      else none
  | _ => none

/-- The last review of a run. -/
def lastReview (p : FullMissionPresentationSession) (calls : List PresentationCall) :
    Option ProposalReview :=
  (emits FullMissionPresentationSession.step reviewed p calls).getLast?

/-- The adapter accepts the intent, and hands the load to the session to be staged. -/
def AcceptsStage (p : FullMissionPresentationSession) (intent : PresentationActionIntent)
    (load : UplinkCommandLoad) : Prop :=
  (∃ receipt, (p.submitAction intent).1 = .ok receipt ∧ receipt.accepted = true)
    ∧ ∃ mask, p.handed intent = some (.stage load mask)

/-- What is remembered of the last review: its identity is remembered, and at the same release
the proposal is still the one reviewed. -/
structure Remembered (reviews : List ProposalReview) (p : FullMissionPresentationSession) : Prop where
  planned : Planned p.authority
  shown : ∀ load, p.authority.stagedLoad = some load →
    load.stageEpoch ≤ p.authority.releaseEpoch
      ∧ ∀ proposal, p.activeProposal = some proposal → proposal.proposalIdentity = load.loadIdentity
  review : ∀ identity, p.reviewedProposal = some identity → ∃ review,
    reviews.getLast? = some review ∧ review.load.loadIdentity = identity
      ∧ review.load.stageEpoch ≤ review.epoch ∧ review.epoch ≤ p.authority.releaseEpoch
      ∧ (review.epoch = p.authority.releaseEpoch → p.proposedLoad = some review.load)

section Remembered

variable {p q : FullMissionPresentationSession} {reviews : List ProposalReview}
  {intent : PresentationActionIntent} {load : UplinkCommandLoad} {proposal : ActionProposalView}

/-- What is remembered depends on the copies and the outlook of the session only. -/
theorem Remembered.congr (h : Remembered reviews q) (hplanned : Planned p.authority)
    (honward : Onward q.authority p.authority)
    (hstaged : ∀ load, p.authority.stagedLoad = some load → q.authority.stagedLoad = some load)
    (hactive : p.activeProposal = q.activeProposal)
    (hreviewed : p.reviewedProposal = q.reviewedProposal) : Remembered reviews p := by
  have hlater : q.authority.releaseEpoch ≤ p.authority.releaseEpoch := by
    rcases honward with hsame | hlater
    · rw [hsame.releaseEpoch]
      exact UInt32.le_refl _
    · exact UInt32.le_of_lt hlater
  refine ⟨hplanned, fun load hload ↦ ?_, fun identity hidentity ↦ ?_⟩
  · obtain ⟨hepoch, hshown⟩ := h.shown load (hstaged load hload)
    exact ⟨UInt32.le_trans hepoch hlater, hactive ▸ hshown⟩
  · obtain ⟨review, hlast, hsame, hstage, hepoch, hproposed⟩ :=
      h.review identity (hreviewed ▸ hidentity)
    refine ⟨review, hlast, hsame, hstage, UInt32.le_trans hepoch hlater, fun hnow ↦ ?_⟩
    rcases honward with hsame | hcounted
    · unfold proposedLoad at hproposed ⊢
      rw [hsame.stagedLoad, hsame.recommendedLoad_eq]
      exact hproposed (hnow.trans hsame.releaseEpoch)
    · exact absurd (UInt32.lt_of_le_of_lt (hnow ▸ hepoch) hcounted) (UInt32.lt_irrefl _)

/-- Calls that submit nothing stage nothing, and leave what is recommended or count a release. -/
theorem onward_run {s : FullMissionSession} (hplanned : Planned s) {calls : List FullMissionCall}
    (hcalls : ∀ call ∈ calls, ∀ action, call ≠ .submit action) :
    Onward s (run FullMissionSession.step s calls)
      ∧ ∀ load, (run FullMissionSession.step s calls).stagedLoad = some load →
        s.stagedLoad = some load := by
  have hmeets : Meets FullMissionSession.step (fun _ call ↦ ∀ action, call ≠ .submit action) s
      calls := meets_input.mpr hcalls
  refine (run_invariant_of_meets (fun t ↦ Planned t ∧ Onward s t
    ∧ ∀ load, t.stagedLoad = some load → s.stagedLoad = some load) ?_
    ⟨hplanned, .inl (.refl s), fun _ hload ↦ hload⟩ hmeets).2
  rintro t call ⟨hplanned, honward, hstaged⟩ hcall
  exact ⟨(mission_move hplanned call).2, honward.trans (step_onward hplanned.guided hcall),
    fun load hload ↦ hstaged load (staged_before hplanned hcall hload)⟩

/-- A proposal that is shown is about the load proposed. -/
theorem Remembered.proposed (h : Remembered reviews p)
    (hshown : p.currentActionProposal = some proposal) :
    ∃ load, p.proposedLoad = some load ∧ proposal.proposalIdentity = load.loadIdentity
      ∧ load.stageEpoch ≤ p.authority.releaseEpoch := by
  unfold currentActionProposal at hshown
  unfold proposedLoad
  cases hstaged : p.authority.stagedLoad with
  | some load =>
      obtain ⟨hepoch, hactive⟩ := h.shown load hstaged
      simp only [hstaged, Option.isSome_some, if_true] at hshown
      obtain ⟨active, hsome, rfl⟩ := Option.map_eq_some_iff.mp hshown
      exact ⟨load, rfl, hactive active hsome, hepoch⟩
  | none =>
      simp only [hstaged, Option.isSome_none, Bool.false_eq_true, if_false] at hshown
      obtain ⟨load, hload, rfl⟩ := Option.map_eq_some_iff.mp hshown
      refine ⟨load, hload, rfl, ?_⟩
      rw [(recommendedLoad_spec hload).2.1]
      exact UInt32.le_refl _

/-- A review that passes the checks is the last one. -/
theorem Remembered.review_step (h : Remembered reviews p) (hreview : intent.operation = .review)
    (hchecked : p.checkIntent intent = .ok proposal) :
    Remembered (reviews ++ (p.reviewed (.submit intent)).toList) (p.step (.submit intent)) := by
  obtain ⟨-, -, hshown, -⟩ := checkIntent_eq_ok.mp hchecked
  obtain ⟨load, hproposed, hidentity, hepoch⟩ := h.proposed hshown
  have hreviewed : p.reviewed (.submit intent) = some ⟨p.authority.releaseEpoch, load⟩ := by
    unfold reviewed
    dsimp only
    rw [if_pos ⟨hreview, by rw [hchecked]; rfl⟩, hproposed]
    rfl
  have hfollows := submitAction_follows hchecked
  unfold applyIntent at hfollows
  rw [if_pos hreview] at hfollows
  obtain ⟨_, _, hnext⟩ := hfollows
  rw [hreviewed, show p.step (.submit intent) = _ from hnext]
  refine ⟨h.planned, fun staged hstaged ↦ ⟨(h.shown staged hstaged).1, ?_⟩, ?_⟩
  · rintro _ ⟨⟩
    have hsame : p.proposedLoad = some staged := by
      unfold proposedLoad
      rw [show p.authority.stagedLoad = some staged from hstaged]
      rfl
    obtain rfl := Option.some.inj (hsame.symm.trans hproposed)
    exact hidentity
  · rintro _ ⟨⟩
    exact ⟨_, List.getLast?_concat .., hidentity.symm, hepoch, UInt32.le_refl _, fun _ ↦ hproposed⟩

/-- An intent that the session does not answer changes nothing that is remembered. -/
theorem Remembered.unanswered (h : Remembered reviews p)
    {authority : FullMissionSession} (hsame : authority = p.authority)
    (hfollows : Follows { p with authority := authority } q) : Remembered reviews q := by
  obtain ⟨_, _, rfl⟩ := hfollows
  refine h.congr ?_ ?_ ?_ rfl rfl
  · exact hsame.symm ▸ h.planned
  · exact hsame.symm ▸ .inl (.refl _)
  · exact fun load hload ↦ hsame ▸ hload

/-- A stage intent that the session answers. -/
theorem Remembered.stage_step (h : Remembered reviews p) {action : MissionOperatorAction}
    (hshown : p.currentActionProposal = some proposal)
    (haction : p.stageAction proposal = some action)
    (hok : ¬(p.authority.submitOperatorAction action).Failed)
    (hfollows : Follows ({ p with authority := (p.authority.submitOperatorAction action).2
      }.noteAnswered proposal .stage) q) : Remembered reviews q := by
  obtain ⟨load, hload, -, rfl, rfl⟩ := stageAction_eq_some hshown haction
  obtain ⟨hnone, hstage, -⟩ := recommendedLoad_spec hload
  have hresult := submit_result h.planned.guided h.planned.plan
    (.stage load load.prerequisiteEventMask)
  have hplanned := h.planned.submit hresult
  have hsources : SameSources p.authority (p.authority.submitOperatorAction
      (.stage load load.prerequisiteEventMask)).2 := sameSources_stage load _
  cases hresult with
  | failed hfailed _ => exact absurd hfailed hok
  | @answered r d _ _ hrunner hmove hdesk _ =>
      obtain ⟨_, _, rfl⟩ := hfollows
      have hepoch : (p.authority.submitOperatorAction
          (.stage load load.prerequisiteEventMask)).2.releaseEpoch = p.authority.releaseEpoch :=
        (congrArg MissionDesk.releaseEpoch hdesk).trans hmove.releaseEpoch_eq
      have hcopy : (p.authority.submitOperatorAction
          (.stage load load.prerequisiteEventMask)).2.stagedLoad = d.stagedLoad :=
        congrArg MissionDesk.stagedLoad hdesk
      have hproposed : p.proposedLoad = some load := by
        unfold proposedLoad
        rw [hnone, hload]
        rfl
      generalize (p.authority.submitOperatorAction
        (.stage load load.prerequisiteEventMask)).2 = authority at hplanned hsources hepoch hcopy ⊢
      have hreviews : ∀ reviewed, p.proposedLoad = some reviewed →
          authority.stagedLoad.or authority.recommendedLoad = some reviewed := by
        intro reviewed hreviewed
        obtain rfl := Option.some.inj (hproposed.symm.trans hreviewed)
        cases hmove with
        | staged =>
            rw [show authority.stagedLoad = some load from hcopy]
            rfl
        | unstaged =>
            have hsame : SameOutlook p.authority authority :=
              ⟨hcopy, hepoch, hsources.procedure, hsources.latestGround, hsources.latestFlight⟩
            rw [hsame.recommendedLoad_eq, hsame.stagedLoad, hnone, hload]
            rfl
      refine ⟨hplanned, fun staged hstaged ↦ ?_, fun identity hidentity ↦ ?_⟩
      · cases hmove with
        | unstaged => exact nomatch (hcopy.symm.trans hstaged).symm.trans hnone
        | staged =>
            obtain rfl := Option.some.inj (hcopy.symm.trans hstaged)
            refine ⟨?_, ?_⟩
            · show load.stageEpoch ≤ authority.releaseEpoch
              rw [hstage, hepoch]
              exact UInt32.le_refl _
            · rintro _ ⟨⟩
              rfl
      · obtain ⟨review, hlast, hsame, hbefore, hreviewEpoch, hnow⟩ := h.review identity hidentity
        refine ⟨review, hlast, hsame, hbefore, ?_, fun heq ↦ hreviews _ (hnow ?_)⟩
        · show review.epoch ≤ authority.releaseEpoch
          rw [hepoch]
          exact hreviewEpoch
        · exact heq.trans hepoch

/-- A commit or a cancellation that the session answers: the review is forgotten. -/
theorem Remembered.other_step (h : Remembered reviews p) {action : MissionOperatorAction}
    (haction : ∀ load mask, action ≠ .stage load mask)
    (hok : ¬(p.authority.submitOperatorAction action).Failed)
    (hfollows : Follows { p with
        authority := (p.authority.submitOperatorAction action).2
        activeProposal := none
        reviewedProposal := none } q) : Remembered reviews q := by
  have hresult := submit_result h.planned.guided h.planned.plan action
  have hplanned := h.planned.submit hresult
  cases hresult with
  | failed hfailed _ => exact absurd hfailed hok
  | @answered r d _ _ hrunner hmove hdesk _ =>
      obtain ⟨_, _, rfl⟩ := hfollows
      refine ⟨hplanned, fun staged hstaged ↦ ⟨?_, fun _ hnone ↦ nomatch hnone⟩,
        fun _ hnone ↦ nomatch hnone⟩
      have hcopy : d.stagedLoad = some staged :=
        (congrArg MissionDesk.stagedLoad hdesk).symm.trans hstaged
      have hepoch : (p.authority.submitOperatorAction action).2.releaseEpoch =
          p.authority.releaseEpoch :=
        (congrArg MissionDesk.releaseEpoch hdesk).trans hmove.releaseEpoch_eq
      have hbefore : p.authority.stagedLoad = some staged := by
        cases hmove with
        | staged | unstaged => exact absurd rfl (haction _ _)
        | committed | cancelled => exact nomatch hcopy
        | uncommitted | uncancelled => exact hcopy
      show staged.stageEpoch ≤ (p.authority.submitOperatorAction action).2.releaseEpoch
      rw [hepoch]
      exact (h.shown staged hbefore).1

/-- One call more. -/
theorem Remembered.step (h : Remembered reviews p) (call : PresentationCall) :
    Remembered (reviews ++ (p.reviewed call).toList) (p.step call) := by
  by_cases hsubmit : ∃ intent, call = .submit intent
  · obtain ⟨intent, rfl⟩ := hsubmit
    by_cases hreview : intent.operation = .review ∧ (p.checkIntent intent).isOk = true
    · cases hchecked : p.checkIntent intent with
      | error e =>
          rw [hchecked] at hreview
          exact nomatch hreview.2
      | ok proposal => exact h.review_step hreview.1 hchecked
    · have hnone : p.reviewed (.submit intent) = none := if_neg hreview
      rw [hnone, Option.toList_none, List.append_nil]
      cases intent_move p intent with
      | refused _ hsame => exact hsame.symm ▸ h
      | reviewed hchecked hoperation _ _ =>
          exact absurd ⟨hoperation, by rw [hchecked]; rfl⟩ hreview
      | @failed action _ hfailed hnext =>
          cases submit_result h.planned.guided h.planned.plan action with
          | failed _ hsame => exact h.unanswered hsame hnext
          | answered hok => exact absurd hfailed hok
      | @answered proposal action hchecked haction hok hnext =>
          cases hoperation : intent.operation with
          | review =>
              rw [hoperation] at haction
              exact nomatch haction
          | stage =>
              rw [hoperation] at haction hnext
              exact h.stage_step (checkIntent_eq_ok.mp hchecked).2.2.1 haction hok hnext
          | commit =>
              rw [hoperation] at haction hnext
              obtain ⟨_, -, rfl⟩ := commitAction_eq_some haction
              exact h.other_step (by rintro _ _ ⟨⟩) hok hnext
          | cancel =>
              rw [hoperation] at haction hnext
              obtain ⟨_, -, rfl⟩ := cancelAction_eq_some haction
              exact h.other_step (by rintro _ _ ⟨⟩) hok hnext
  · have hcall : ∀ intent, call ≠ .submit intent := fun intent heq ↦ hsubmit ⟨intent, heq⟩
    have hnone : p.reviewed call = none := by
      cases call with
      | submit intent => exact absurd rfl (hcall intent)
      | _ => rfl
    obtain ⟨hcopies, hinner⟩ := @step_copies p call hcall
    obtain ⟨honward, hstaged⟩ := onward_run h.planned hinner
    rw [← authority_step] at honward hstaged
    rw [hnone, Option.toList_none, List.append_nil]
    refine h.congr (planned_step h.planned call) honward hstaged ?_ ?_
    · rw [hcopies]
    · rw [hcopies]

end Remembered

end FullMissionPresentationSession

/-- A compiled adapter has nothing to remember. -/
theorem remembered_of_compiled {project : CompiledMissionProject} {role : OperationalRole}
    {p : FullMissionPresentationSession}
    (hcompiled : FullMissionPresentationSession.compiled project role = .ok p) : Remembered [] p := by
  have hwithin := withinReach_of_compiled hcompiled
  unfold FullMissionPresentationSession.compiled at hcompiled
  split at hcompiled
  · cases hcompiled
  · rename_i authority hauthority
    cases hcompiled
    refine ⟨hwithin.planned, fun load hstaged ↦ ?_, fun _ hnone ↦ nomatch hnone⟩
    obtain ⟨r, hr, -⟩ := hwithin.held load hstaged
    have hnone : authority.runner = none := by
      unfold compiledWithRole at hauthority
      split at hauthority
      · cases hauthority
      · cases hauthority
        rfl
    exact nomatch hnone.symm.trans hr

/-- An intent that hands a load to the session to be staged. -/
theorem staged_of_handed {p : FullMissionPresentationSession} {intent : PresentationActionIntent}
    {load : UplinkCommandLoad} {mask : UInt32}
    (hhanded : p.handed intent = some (.stage load mask)) :
    p.authority.recommendedLoad = some load ∧ p.reviewedProposal = some load.loadIdentity := by
  cases hchecked : p.checkIntent intent with
  | error e => exact nomatch (submitAction_refused hchecked).2.symm.trans hhanded
  | ok proposal =>
      rw [handed_of_checked hchecked] at hhanded
      have hshown := (checkIntent_eq_ok.mp hchecked).2.2.1
      cases hoperation : intent.operation with
      | review =>
          rw [hoperation] at hhanded
          exact nomatch hhanded
      | stage =>
          rw [hoperation] at hhanded
          obtain ⟨_, hload, hreviewed, -, heq⟩ := stageAction_eq_some hshown hhanded
          cases heq
          exact ⟨hload, hreviewed⟩
      | commit =>
          rw [hoperation] at hhanded
          obtain ⟨_, -, heq⟩ := commitAction_eq_some hhanded
          cases heq
      | cancel =>
          rw [hoperation] at hhanded
          obtain ⟨_, -, heq⟩ := cancelAction_eq_some hhanded
          cases heq

/-- The load that a stage intent hands to the session is the one reviewed last. -/
def StagedAsReviewed (p : FullMissionPresentationSession) (calls : List PresentationCall)
    (load : UplinkCommandLoad) : Prop :=
  ∃ review, p.lastReview calls = some review ∧ load = review.load

/-- No release has been counted since the last review. -/
def ReviewedNow (p : FullMissionPresentationSession) (calls : List PresentationCall) : Prop :=
  ∃ review, p.lastReview calls = some review
    ∧ (run FullMissionPresentationSession.step p calls).authority.releaseEpoch = review.epoch

/-- What an accepted intent stages is what was reviewed last iff no release lies between. -/
theorem staged_as_reviewed_iff {project : CompiledMissionProject} {role : OperationalRole}
    {p : FullMissionPresentationSession}
    (hcompiled : FullMissionPresentationSession.compiled project role = .ok p)
    {calls : List PresentationCall} {intent : PresentationActionIntent} {load : UplinkCommandLoad}
    (haccepts : (run FullMissionPresentationSession.step p calls).AcceptsStage intent load) :
    StagedAsReviewed p calls load ↔ ReviewedNow p calls := by
  have h : Remembered (emits FullMissionPresentationSession.step reviewed p calls)
      (run FullMissionPresentationSession.step p calls) :=
    emits_invariant Remembered (fun _ _ call h _ ↦ h.step call) (remembered_of_compiled hcompiled)
      (meets_true p calls)
  obtain ⟨-, mask, hhanded⟩ := haccepts
  obtain ⟨hload, hreviewed⟩ := staged_of_handed hhanded
  obtain ⟨hnone, hstage, -⟩ := recommendedLoad_spec hload
  obtain ⟨review, hlast, -, hbefore, hepoch, hnow⟩ := h.review _ hreviewed
  have hproposed : (run FullMissionPresentationSession.step p calls).proposedLoad = some load := by
    unfold proposedLoad
    rw [hnone, hload]
    rfl
  constructor
  · rintro ⟨_, hreview, rfl⟩
    obtain rfl := Option.some.inj (hlast.symm.trans hreview)
    refine ⟨review, hlast, UInt32.le_antisymm ?_ hepoch⟩
    exact hstage ▸ hbefore
  · rintro ⟨_, hreview, hsame⟩
    obtain rfl := Option.some.inj (hlast.symm.trans hreview)
    exact ⟨review, hlast, Option.some.inj (hproposed.symm.trans (hnow hsame.symm))⟩

/-! ### Staged at once, and staged later -/

section AtRest

variable {p : FullMissionPresentationSession} {k n : Nat}

/-- At rest, the update that is reviewed is reviewed at this release. -/
theorem Waiting.reviewed_now (h : Waiting none k n p) (hn : 0 < n) (hbelow : n < 1000)
    (hk : 6080 ≤ k) (hclose : k ≤ 7840) :
    ∃ load, p.reviewed (.submit (updateIntent n .review)) = some ⟨UInt32.ofNat k, load⟩
      ∧ load.stageEpoch = UInt32.ofNat k := by
  obtain ⟨load, hload, hpad⟩ := recommendedLoad_pad h.idle h.watched hk hclose
  have hpermitted : (3 : UInt8) &&& permissionBit .review ≠ 0 := by decide
  have hchecked := h.checked hn hbelow (currentActionProposal_of_recommended hload) hpad.identity
    hpad.identity hpermitted
  refine ⟨load, ?_, hpad.stageEpoch_eq⟩
  unfold reviewed proposedLoad
  dsimp only
  rw [if_pos ⟨rfl, by rw [hchecked]; rfl⟩, (recommendedLoad_spec hload).1, hload, h.idle.epoch]
  rfl

/-- The last review of a run that ends with one and releases after it. -/
theorem lastReview_concat {review : ProposalReview} {calls : List PresentationCall}
    {intent : PresentationActionIntent}
    (hreview : (run FullMissionPresentationSession.step p calls).reviewed (.submit intent) =
      some review) (k n : Nat) :
    p.lastReview (calls ++ .submit intent :: restAdvances k n) = some review := by
  have hrest : ∀ q : FullMissionPresentationSession,
      emits FullMissionPresentationSession.step reviewed q (restAdvances k n) = [] := by
    unfold restAdvances
    generalize List.range' k n = ks
    induction ks with
    | nil => exact fun _ ↦ rfl
    | cons k ks ih => exact fun q ↦ ih _
  unfold lastReview
  rw [emits_append]
  unfold emits
  rw [hrest, hreview]
  exact List.getLast?_concat ..

/-- Releases forget no review. -/
theorem reviewedProposal_advances (p : FullMissionPresentationSession) (k n : Nat) :
    (run FullMissionPresentationSession.step p (restAdvances k n)).reviewedProposal =
      p.reviewedProposal := by
  rw [restAdvances_run]

/-- The review of the run on the pad, and the releases after it. -/
theorem lastReview_reviewedRun (m : Nat) :
    ∃ load, (fullGnssLossAdapter .flightController).lastReview
        (reviewedRun ++ restAdvances 6080 m) = some ⟨UInt32.ofNat 6080, load⟩
      ∧ load.stageEpoch = UInt32.ofNat 6080 := by
  have hrest := waiting_prepared.advance 6080 (by omega) fun _ _ _ hp ↦ nomatch hp
  rw [Nat.zero_add, ← run_cons FullMissionPresentationSession.step] at hrest
  obtain ⟨load, hreview, hstage⟩ := hrest.reviewed_now (by omega) (by omega) (by omega) (by omega)
  refine ⟨load, ?_, hstage⟩
  have hsplit : reviewedRun ++ restAdvances 6080 m = (.prepare (.ok padWorld) :: restAdvances 0 6080)
      ++ .submit (updateIntent 1 .review) :: restAdvances 6080 m := by
    rw [reviewedRun, List.cons_append, List.append_assoc]
    rfl
  rw [hsplit]
  exact lastReview_concat hreview 6080 m

/-- On the pad the operator stages what has just been reviewed. -/
theorem staged_as_reviewed_reviewedRun :
    ∃ load, (run FullMissionPresentationSession.step (fullGnssLossAdapter .flightController)
        reviewedRun).AcceptsStage (updateIntent 2 .stage) load
      ∧ StagedAsReviewed (fullGnssLossAdapter .flightController) reviewedRun load := by
  obtain ⟨hwaiting, hreviewed⟩ := waiting_reviewedRun
  obtain ⟨load, -, -, hhanded, hanswer, -⟩ :=
    hwaiting.stage (by omega) (by omega) (by omega) (by omega) hreviewed
  obtain ⟨reviewedLoad, hlast, -⟩ := lastReview_reviewedRun 0
  have haccepts : (run FullMissionPresentationSession.step (fullGnssLossAdapter .flightController)
      reviewedRun).AcceptsStage (updateIntent 2 .stage) load := ⟨hanswer, _, hhanded⟩
  refine ⟨load, haccepts, (staged_as_reviewed_iff (compiled_fullGnssLossAdapter .flightController)
    haccepts).mpr ⟨⟨UInt32.ofNat 6080, reviewedLoad⟩, ?_, hwaiting.idle.epoch⟩⟩
  rwa [show restAdvances 6080 0 = [] from rfl, List.append_nil] at hlast

/-- One release later the operator stages another load than was reviewed. -/
theorem staged_unreviewed :
    ¬∀ (project : CompiledMissionProject) (role : OperationalRole)
      (p : FullMissionPresentationSession) (calls : List PresentationCall)
      (intent : PresentationActionIntent) (load : UplinkCommandLoad),
      FullMissionPresentationSession.compiled project role = .ok p →
        (run FullMissionPresentationSession.step p calls).AcceptsStage intent load →
          StagedAsReviewed p calls load := by
  intro hreviews
  obtain ⟨hwaiting, hreviewed⟩ := waiting_reviewedRun
  have hlater := hwaiting.advance 1 (by omega) fun _ _ _ hp ↦ nomatch hp
  rw [← reviewedProposal_advances _ 6080 1] at hreviewed
  obtain ⟨load, -, hpad, hhanded, hanswer, -⟩ :=
    hlater.stage (by omega) (by omega) (by omega) (by omega) hreviewed
  rw [← run_append] at hhanded hanswer
  obtain ⟨reviewedLoad, hlast, hstage⟩ := lastReview_reviewedRun 1
  obtain ⟨review, hsame, hload⟩ := hreviews _ _ _ (reviewedRun ++ restAdvances 6080 1) _ load
    (compiled_fullGnssLossAdapter .flightController) ⟨hanswer, _, hhanded⟩
  obtain rfl := Option.some.inj (hlast.symm.trans hsame)
  have hdiffers : UInt32.ofNat 6080 ≠ UInt32.ofNat (6080 + 1) := by decide
  refine hdiffers (hstage.symm.trans ?_)
  rw [← hpad.stageEpoch_eq, hload]

end AtRest

end Ksa64.Session
