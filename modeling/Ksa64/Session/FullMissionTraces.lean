import Ksa64.Session.RestingMission

/-!
# The traces of a committed load

When a load is committed the session records at once what will follow from it: the branch
that is selected, and the release at which the navigation is reset.  The package executes
the load later, or not at all.  This file says on which runs what the session shows at the
end has been executed.
-/

namespace Ksa64.Session

open Ksa64.Library Ksa64.Interface Ksa64.Sim Ksa64.Flight FullMissionSession

/-! ## The traces of a committed load -/

/-- A branch number is 2 exactly when the argument of its load is. -/
theorem clampU8_eq_two {value : Int32} (h : clampU8 value = 2) : value = 2 := by
  unfold clampU8 at h
  by_cases hhigh : (255 : Int32) ≤ value
  · have hmin : min value 255 = 255 := by
      show (if value ≤ 255 then value else 255) = 255
      split
      · exact Int32.le_antisymm ‹_› hhigh
      · rfl
    rw [hmin] at h
    exact absurd h (by decide)
  · have hmin : min value 255 = value := if_pos (Int32.le_of_lt (Int32.not_le.mp hhigh))
    rw [hmin] at h
    by_cases hlow : (0 : Int32) ≤ value
    · have hmax : max 0 value = value := if_pos hlow
      rw [hmax] at h
      rw [Int32.le_iff_toInt_le] at hhigh hlow
      have hlow : 0 ≤ value.toBitVec.toInt := hlow
      have hhigh : value.toBitVec.toInt < 255 := Int.not_le.mp hhigh
      have hword : value.toUInt32.toNat % 256 = 2 := by
        have hnat := congrArg UInt8.toNat h
        rwa [UInt32.toNat_toUInt8] at hnat
      have hnat : value.toBitVec.toNat % 256 = 2 := hword
      rw [← Int32.toInt_inj]
      show value.toBitVec.toInt = 2
      rw [BitVec.toInt_eq_toNat_cond] at hlow hhigh ⊢
      split_ifs at * <;> omega
    · have hmax : max 0 value = 0 := if_neg hlow
      rw [hmax] at h
      exact absurd h (by decide)

/-- The load selects the alternate branch of the plan. -/
def SelectsAlternate (load : UplinkCommandLoad) : Prop :=
  load.loadType = .contingencyBranch ∧ load.arguments.toList.head? = some 2

/-- The commit of the load leaves a trace in the session. -/
def LeavesTrace (load : UplinkCommandLoad) : Prop :=
  load.loadType = .groundNavigationUpdate ∨ SelectsAlternate load

instance (load : UplinkCommandLoad) : Decidable (SelectsAlternate load) :=
  inferInstanceAs (Decidable (_ ∧ _))

instance (load : UplinkCommandLoad) : Decidable (LeavesTrace load) :=
  inferInstanceAs (Decidable (_ ∨ _))

namespace FullMissionSession

/-- An advance that does not lose its release, and does not complete the mission before a
committed alternate branch is due; a cancellation that does not take back a committed load
that has left a trace. -/
def TraceKept (s : FullMissionSession) : FullMissionCall → Prop
  | .submit (.cancel request) =>
      s.isOpen = true → roleCanAct s.role = true →
        ∀ r ∈ s.runner, ∀ p ∈ r.package.uplink.pending,
          addresses request .cancellation p.load = true → p.state = .committed →
            ¬LeavesTrace p.load
  | call =>
      ∀ answer ∈ s.answerTo call, s.losesAdvance answer = false ∧
        (answer.complete = true →
          ∀ r ∈ s.runner, ∀ p ∈ r.package.uplink.pending, p.state = .committed →
            SelectsAlternate p.load → p.effectiveEpoch = s.releaseEpoch)

instance (s : FullMissionSession) (call : FullMissionCall) : Decidable (s.TraceKept call) := by
  unfold TraceKept
  split <;> infer_instance

/-- The call executes a branch load that selects the alternate branch. -/
def ExecutesAlternate (s : FullMissionSession) (call : FullMissionCall) : Prop :=
  ∃ load, s.executed call = some load ∧ SelectsAlternate load

/-- The call executes a navigation update, at this release. -/
def ExecutesUpdate (epoch : UInt32) (s : FullMissionSession) (call : FullMissionCall) : Prop :=
  s.releaseEpoch = epoch ∧
    ∃ load, s.executed call = some load ∧ load.loadType = .groundNavigationUpdate

end FullMissionSession

/-- What the completed run shows of its loads has been executed: the branch, if the mission
is classified by the alternate one, and an update at each release displayed as a reset. -/
structure TracesExecuted (s₀ : FullMissionSession) (calls : List FullMissionCall)
    (completion : FullMissionCompletion) : Prop where
  alternate : completion.disposition.Alternate → Happens step ExecutesAlternate s₀ calls
  resets : ∀ sample ∈ (run step s₀ calls).globalDisplay.samples, sample.navigationReset = true →
    Happens step (ExecutesUpdate sample.releaseEpoch) s₀ calls

section Traces

variable {s s₀ : FullMissionSession} {r : GlobalPackageAvionicsMission}
  {action : MissionOperatorAction} {d : MissionDesk} {calls : List FullMissionCall}
  {load : UplinkCommandLoad} {p : PendingUplink} {v : UplinkView} {epoch : UInt32}

/-- A committed load that is due is handed out. -/
theorem handedOut_of_due (hpending : v.pending = some p) (hstate : p.state = .committed)
    (hdue : p.effectiveEpoch = epoch) (hin : epoch ≤ p.load.expiresEpoch) :
    v.handedOut (.release epoch) = some p.load := by
  unfold UplinkView.handedOut
  rw [hpending]
  dsimp only
  rw [if_neg (UInt32.not_lt.mpr hin), if_neg (not_or.mpr ⟨not_not.mpr hstate, not_not.mpr hdue.symm⟩)]

/-- A load that is not due stays pending. -/
theorem pending_of_not_due (hpending : v.pending = some p) (hdue : p.effectiveEpoch ≠ epoch)
    (hin : epoch ≤ p.load.expiresEpoch) : (v.next (.release epoch)).pending = some p := by
  unfold UplinkView.next
  rw [hpending]
  dsimp only
  rw [if_neg (UInt32.not_lt.mpr hin), if_pos (.inr hdue.symm)]
  exact hpending

/-- A committed load that stays pending is not due. -/
theorem not_due_of_pending (hpending : (v.next (.release epoch)).pending = some p)
    (hstate : p.state = .committed) : p.effectiveEpoch ≠ epoch := by
  rintro rfl
  obtain ⟨hprior, hin⟩ := pending_released hpending
  unfold UplinkView.next at hpending
  rw [hprior] at hpending
  dsimp only at hpending
  rw [if_neg (UInt32.not_lt.mpr hin), if_neg (by simp [hstate])] at hpending
  exact nomatch hpending

/-- In step with its package, the session's copy tells of every pending load. -/
theorem InStep.copied (h : InStep s.desk) (hrunner : s.runner = some r) (p : PendingUplink)
    (hpending : r.package.uplink.pending = some p) : s.stagedLoad = copyOf p := by
  have hagree := h.agree r hrunner
  unfold copyOf
  split
  · rename_i hstate
    refine (hagree p.load).mpr (hpending.trans (congrArg some ?_))
    exact (eq_stage_iff ..).mpr ⟨rfl, hstate⟩
  · rename_i hstate
    cases hcopy : s.stagedLoad with
    | none => rfl
    | some load =>
        obtain rfl := Option.some.inj (hpending.symm.trans ((hagree load).mp hcopy))
        exact absurd rfl hstate

/-- A committed load stays pending under every action but its cancellation, and no action
announces anything then. -/
theorem SubmitMove.keeps_committed (h : SubmitMove s r action d)
    (hcopied : s.stagedLoad = copyOf p) (hprior : r.package.uplink.pending = some p)
    (hstate : p.state = .committed) :
    (∃ request, action = .cancel request ∧ addresses request .cancellation p.load = true)
      ∨ (r.package.uplink.view.next (uplinkCallOf r action)).pending = some p
        ∧ d.selectedBranch = s.selectedBranch
        ∧ d.pendingNavigationResetRelease = s.pendingNavigationResetRelease := by
  have hnone : s.stagedLoad = none := by
    rw [hcopied, copyOf, if_neg (by simp [hstate])]
  have hkept : r.package.uplink.view.next (uplinkCallOf r action) = r.package.uplink.view →
      (r.package.uplink.view.next (uplinkCallOf r action)).pending = some p := by
    intro hsame
    rw [hsame]
    exact hprior
  cases h with
  | staged | unstaged =>
      exact .inr ⟨hkept (if_neg fun hadm ↦ nomatch hadm.2.1.symm.trans hprior), rfl, rfl⟩
  | committed hstaged | uncommitted hstaged => exact nomatch hnone.symm.trans hstaged
  | cancelled hconfirms =>
      exact .inl ⟨_, rfl, (confirms_cancel _ hprior _ _).mp hconfirms⟩
  | uncancelled hconfirms => exact .inr ⟨hkept (next_cancel_of_unconfirmed hconfirms), rfl, rfl⟩

/-- An action announces nothing, or it commits the staged load and announces that. -/
theorem SubmitMove.announces (h : SubmitMove s r action d)
    (hagree : GnssLossRuntime.Agree s.stagedLoad r.package.uplink.view) :
    d.selectedBranch = s.selectedBranch
        ∧ d.pendingNavigationResetRelease = s.pendingNavigationResetRelease
      ∨ ∃ p, (r.package.uplink.view.next (uplinkCallOf r action)).pending = some p
        ∧ p.state = .committed ∧ d = { s.desk.announce p.load with stagedLoad := none } := by
  cases h with
  | @committed load request hstaged haccepts hconfirms =>
      have hpending := (hagree load).mp hstaged
      obtain ⟨-, hconfirmed⟩ := (confirms_commit _ hpending _ _ _).mp hconfirms
      obtain ⟨_, hnext⟩ := next_commit_of_admitted hpending
        (commitAdmitted_of_confirmed hpending hconfirmed)
      exact .inr ⟨_, congrArg UplinkView.pending hnext, rfl, rfl⟩
  | _ => exact .inl ⟨rfl, rfl⟩

/-- A load that an action has committed is not due before, and will not have expired then. -/
theorem committed_due
    (hp : (r.package.uplink.view.next (uplinkCallOf r action)).pending = some p)
    (hstate : p.state = .committed) :
    r.package.uplink.pending = some p
      ∨ r.package.epoch ≤ p.effectiveEpoch ∧ p.effectiveEpoch ≤ p.load.expiresEpoch := by
  cases next_move r.package.uplink.view (uplinkCallOf r action) with
  | kept hnext =>
      rw [hnext] at hp
      exact .inl hp
  | staged load _ _ _ _ _ _ _ hnext =>
      rw [hnext] at hp
      obtain rfl := Option.some.inj hp
      exact nomatch hstate
  | committed prior request epoch hcall _ hadm hnext =>
      obtain ⟨_, hnext⟩ := hnext
      rw [hnext] at hp
      obtain rfl := Option.some.inj hp
      have hepoch : epoch = r.package.epoch := by
        cases action <;> cases hcall
        rfl
      obtain ⟨-, hlate⟩ := not_or.mp hadm.2.2
      obtain ⟨hearly, hlate⟩ := not_or.mp hlate
      refine .inr ⟨?_, UInt32.not_lt.mp (not_or.mp hlate).2⟩
      rw [← hepoch]
      exact UInt32.le_trans (le_addSat32 epoch 2) (UInt32.not_lt.mp hearly)
  | cancelled _ _ _ _ _ _ hnext | expired _ _ _ _ _ hnext =>
      rw [hnext] at hp
      exact nomatch hp
  | executed _ _ hcall => cases action <;> cases hcall

/-- What an announcement records of a load that the package now holds committed. -/
theorem announce_spec (d : MissionDesk) (load : UplinkCommandLoad) :
    (∀ e, (d.announce load).pendingNavigationResetRelease = some e →
        d.pendingNavigationResetRelease = some e
          ∨ load.loadType = .groundNavigationUpdate ∧ load.requestedEffectiveEpoch = e)
      ∧ ((d.announce load).selectedBranch = 2 → d.selectedBranch = 2 ∨ SelectsAlternate load) := by
  unfold MissionDesk.announce
  cases htype : load.loadType with
  | groundNavigationUpdate => exact ⟨fun e he ↦ .inr ⟨rfl, Option.some.inj he⟩, .inl⟩
  | contingencyBranch =>
      refine ⟨fun _ ↦ .inl, fun hbranch ↦ .inr ⟨htype, ?_⟩⟩
      rw [List.head?_eq_getElem?, ← clampU8_eq_two hbranch]
      simp
  | _ => exact ⟨fun _ ↦ .inl, .inl⟩

/-- The desk remembers of its loads only what the package holds committed, or what has been
executed: the alternate branch, and an update at each release. -/
structure TracedDesk (branched : Prop) (updated : UInt32 → Prop) (d : MissionDesk) : Prop where
  due : ∀ r p, d.runner = some r → r.package.uplink.pending = some p → p.state = .committed →
    d.releaseEpoch ≤ p.effectiveEpoch ∧ p.effectiveEpoch ≤ p.load.expiresEpoch
  reset : ∀ e, d.pendingNavigationResetRelease = some e →
    ∃ r p, d.runner = some r ∧ r.package.uplink.pending = some p ∧ p.state = .committed
      ∧ p.load.loadType = .groundNavigationUpdate ∧ p.effectiveEpoch = e
  branch : d.selectedBranch = 2 → branched
    ∨ ∃ r p, d.runner = some r ∧ r.package.uplink.pending = some p ∧ p.state = .committed
      ∧ SelectsAlternate p.load
  unmarked : d.globalDisplay.pendingDiscontinuityMask &&& globalDiscontinuityNavigationReset = 0
  samples : ∀ sample ∈ d.globalDisplay.samples, sample.navigationReset = true →
    updated sample.releaseEpoch
  alternate : ∀ c, d.completed = some c → c.disposition.Alternate → branched

section Desk

variable {branched branched' : Prop} {updated updated' : UInt32 → Prop} {r' : GlobalPackageAvionicsMission}

/-- What has been executed before has been executed later. -/
theorem TracedDesk.mono (h : TracedDesk branched updated d) (hbranched : branched → branched')
    (hupdated : ∀ e, updated e → updated' e) : TracedDesk branched' updated' d where
  due := h.due
  reset := h.reset
  branch hbranch := (h.branch hbranch).imp_left hbranched
  unmarked := h.unmarked
  samples sample hsample hreset := hupdated _ (h.samples sample hsample hreset)
  alternate c hc halternate := hbranched (h.alternate c hc halternate)

/-- A desk without a runner remembers nothing; it gets one that holds nothing. -/
theorem TracedDesk.prepare (h : TracedDesk branched updated d) (hnone : d.runner = none)
    (hempty : r.package.uplink.pending = none) :
    TracedDesk branched updated { d with runner := some r } where
  due := by
    rintro _ p ⟨⟩ hp
    exact nomatch hempty.symm.trans hp
  reset e he := by
    obtain ⟨r, p, hr, -⟩ := h.reset e he
    exact nomatch hnone.symm.trans hr
  branch hbranch := by
    refine .inl ((h.branch hbranch).resolve_right ?_)
    rintro ⟨r, p, hr, -⟩
    exact nomatch hnone.symm.trans hr
  unmarked := h.unmarked
  samples := h.samples
  alternate := h.alternate

/-- An empty mask marks no reset. -/
theorem nothing_marked : (0 : UInt32) &&& globalDiscontinuityNavigationReset = 0 := by decide

/-- A display that is marked only for an announced reset shows what the announcement says. -/
theorem samples_publish {answer : WorldAnswer}
    (hunmarked : d.globalDisplay.pendingDiscontinuityMask
      &&& globalDiscontinuityNavigationReset = 0)
    (hannounced : d.pendingNavigationResetRelease = some epoch → updated epoch)
    (hsamples : ∀ sample ∈ d.globalDisplay.samples, sample.navigationReset = true →
      updated sample.releaseEpoch) :
    ∀ sample ∈ (d.publish epoch answer).globalDisplay.samples, sample.navigationReset = true →
      updated sample.releaseEpoch := by
  intro sample hsample hreset
  unfold MissionDesk.publish at hsample
  by_cases hnow : d.pendingNavigationResetRelease = some epoch
  · rw [decide_eq_true hnow] at hsample
    rcases GlobalDisplayPublisher.publish_navigationReset _ _ _ hsample hreset
      with hold | ⟨hepoch, -⟩
    · exact hsamples sample hold hreset
    · exact hepoch.symm ▸ hannounced hnow
  · rw [decide_eq_false hnow] at hsample
    rcases GlobalDisplayPublisher.publish_navigationReset _ _ _ hsample hreset
      with hold | ⟨-, hmarked⟩
    · exact hsamples sample hold hreset
    · exact absurd hunmarked hmarked

/-- A release that the session counts: a load that is due has been executed in it. -/
theorem TracedDesk.release {answer : WorldAnswer} {completed : Option FullMissionCompletion}
    (h : TracedDesk branched updated d) (hrunner : d.runner = some r)
    (hview : r'.package.uplink.view = r.package.uplink.view.next (.release d.releaseEpoch))
    (hexecuted : ∀ p, r.package.uplink.pending = some p → p.state = .committed →
      p.effectiveEpoch = d.releaseEpoch →
        (SelectsAlternate p.load → branched)
          ∧ (p.load.loadType = .groundNavigationUpdate → updated d.releaseEpoch))
    (hcompleted : completed = d.completed ∨
      ∃ c, completed = some c ∧ (c.disposition.Alternate → branched)) :
    TracedDesk branched updated
      { d.release d.releaseEpoch answer with runner := some r', completed := completed } where
  due := by
    rintro _ p ⟨⟩ hp hstate
    rw [← view_pending, hview] at hp
    have hnot := not_due_of_pending hp hstate
    obtain ⟨hdue, hin⟩ := h.due r p hrunner (pending_released hp).1 hstate
    refine ⟨?_, hin⟩
    show addSat32 d.releaseEpoch 1 ≤ p.effectiveEpoch
    rw [UInt32.le_iff_toNat_le] at hdue ⊢
    rw [toNat_addSat32, UInt32.toNat_one]
    have hne : p.effectiveEpoch.toNat ≠ d.releaseEpoch.toNat := fun heq ↦
      hnot (UInt32.toNat_inj.mp heq)
    omega
  reset e he := by
    have hold : d.pendingNavigationResetRelease = some e ∧ e ≠ d.releaseEpoch := by
      change (if (decide (d.pendingNavigationResetRelease = some d.releaseEpoch)) then none else
        d.pendingNavigationResetRelease) = some e at he
      by_cases hnow : d.pendingNavigationResetRelease = some d.releaseEpoch
      · rw [if_pos (decide_eq_true hnow)] at he
        exact nomatch he
      · rw [if_neg (by simpa using hnow)] at he
        exact ⟨he, fun heq ↦ hnow (heq ▸ he)⟩
    obtain ⟨_, p, hr, hp, hstate, htype, heff⟩ := h.reset e hold.1
    obtain rfl := Option.some.inj (hrunner.symm.trans hr)
    obtain ⟨hdue, hin⟩ := h.due r p hrunner hp hstate
    refine ⟨r', p, rfl, ?_, hstate, htype, heff⟩
    rw [← view_pending, hview]
    exact pending_of_not_due hp (heff ▸ hold.2) (UInt32.le_trans hdue hin)
  branch hbranch := by
    rcases h.branch hbranch with hbefore | ⟨_, p, hr, hp, hstate, hselects⟩
    · exact .inl hbefore
    · obtain rfl := Option.some.inj (hrunner.symm.trans hr)
      by_cases hnow : p.effectiveEpoch = d.releaseEpoch
      · exact .inl ((hexecuted p hp hstate hnow).1 hselects)
      · obtain ⟨hdue, hin⟩ := h.due r p hrunner hp hstate
        refine .inr ⟨r', p, rfl, ?_, hstate, hselects⟩
        rw [← view_pending, hview]
        exact pending_of_not_due hp hnow (UInt32.le_trans hdue hin)
  unmarked := nothing_marked
  samples := by
    refine @samples_publish { d with stagedLoad := _ } _ updated answer h.unmarked ?_ h.samples
    intro hnow
    obtain ⟨_, p, hr, hp, hstate, htype, heff⟩ := h.reset _ hnow
    obtain rfl := Option.some.inj (hrunner.symm.trans hr)
    exact (hexecuted p hp hstate heff).2 htype
  alternate c hc := by
    rcases hcompleted with rfl | ⟨c', rfl, halternate⟩
    · exact h.alternate c hc
    · exact Option.some.inj hc ▸ halternate

/-- An action neither displays nor completes anything. -/
theorem SubmitMove.frame (h : SubmitMove s r action d) :
    d.releaseEpoch = s.releaseEpoch ∧ d.globalDisplay = s.globalDisplay
      ∧ d.completed = s.completed := by
  cases h with
  | committed =>
      obtain ⟨-, -, -, hepoch, hdisplay, hcompleted⟩ := announce_desk_frame s.desk _
      exact ⟨hepoch, hdisplay, hcompleted⟩
  | _ => exact ⟨rfl, rfl, rfl⟩

/-- An action that does not take back a load which has left a trace. -/
theorem TracedDesk.submit (h : TracedDesk branched updated s.desk) (hstep : InStep s.desk)
    (hrunner : s.runner = some r) (hmove : SubmitMove s r action d)
    (hview : r'.package.uplink.view = r.package.uplink.view.next (uplinkCallOf r action))
    (hkept : ∀ request, action = .cancel request → ∀ p, r.package.uplink.pending = some p →
      addresses request .cancellation p.load = true → p.state = .committed →
        ¬LeavesTrace p.load) :
    TracedDesk branched updated { d with runner := some r' } := by
  obtain ⟨hepoch, hdisplay, hcompleted⟩ := hmove.frame
  -- a committed load that has left a trace is still held
  have hstill : ∀ p, r.package.uplink.pending = some p → p.state = .committed →
      LeavesTrace p.load → r'.package.uplink.pending = some p := by
    intro p hp hstate htrace
    rcases hmove.keeps_committed (hstep.copied hrunner p hp) hp hstate
      with ⟨request, haction, haddr⟩ | ⟨hnext, -⟩
    · exact absurd htrace (hkept request haction p hp haddr hstate)
    · rw [← view_pending, hview]
      exact hnext
  have hannounced := hmove.announces (hstep.agree r hrunner)
  refine ⟨?_, ?_, ?_, ?_, ?_, ?_⟩
  · rintro _ p ⟨⟩ hp hstate
    rw [← view_pending, hview] at hp
    show d.releaseEpoch ≤ _ ∧ _
    rw [hepoch]
    rcases committed_due hp hstate with hprior | hdue
    · exact h.due r p hrunner hprior hstate
    · rwa [hstep.epoch r hrunner] at hdue
  · intro e he
    have hold : s.pendingNavigationResetRelease = some e →
        ∃ r'' p, some r' = some r'' ∧ r''.package.uplink.pending = some p
          ∧ p.state = .committed ∧ p.load.loadType = .groundNavigationUpdate
          ∧ p.effectiveEpoch = e := by
      intro hold
      obtain ⟨_, p, hr, hp, hstate, htype, heff⟩ := h.reset e hold
      obtain rfl := Option.some.inj (hrunner.symm.trans hr)
      exact ⟨r', p, rfl, hstill p hp hstate (.inl htype), hstate, htype, heff⟩
    rcases hannounced with ⟨-, hsame⟩ | ⟨p, hp, hstate, rfl⟩
    · exact hold (hsame.symm.trans he)
    · rcases (announce_spec s.desk p.load).1 e he with hbefore | ⟨htype, heff⟩
      · exact hold hbefore
      · rw [← hview, view_pending] at hp
        exact ⟨r', p, rfl, hp, hstate, htype, p.effectiveEpoch_eq.trans heff⟩
  · intro hbranch
    have hold : s.selectedBranch = 2 → branched
        ∨ ∃ r'' p, some r' = some r'' ∧ r''.package.uplink.pending = some p
          ∧ p.state = .committed ∧ SelectsAlternate p.load := by
      intro hold
      refine (h.branch hold).imp_right ?_
      rintro ⟨_, p, hr, hp, hstate, hselects⟩
      obtain rfl := Option.some.inj (hrunner.symm.trans hr)
      exact ⟨r', p, rfl, hstill p hp hstate (.inr hselects), hstate, hselects⟩
    rcases hannounced with ⟨hsame, -⟩ | ⟨p, hp, hstate, rfl⟩
    · exact hold (hsame.symm.trans hbranch)
    · rcases (announce_spec s.desk p.load).2 hbranch with hbefore | hselects
      · exact hold hbefore
      · rw [← hview, view_pending] at hp
        exact .inr ⟨r', p, rfl, hp, hstate, hselects⟩
  · show d.globalDisplay.pendingDiscontinuityMask &&& _ = 0
    rw [hdisplay]
    exact h.unmarked
  · show ∀ sample ∈ d.globalDisplay.samples, _
    rw [hdisplay]
    exact h.samples
  · intro c hc
    exact h.alternate c (hcompleted.symm.trans hc)

end Desk

/-- What a run of kept calls has executed, and what its session remembers. -/
structure Traced (s₀ : FullMissionSession) (calls : List FullMissionCall)
    (s : FullMissionSession) : Prop where
  reached : s = run step s₀ calls
  planned : Planned s
  inStep : InStep s.desk
  traced : TracedDesk (Happens step ExecutesAlternate s₀ calls)
    (fun epoch ↦ Happens step (ExecutesUpdate epoch) s₀ calls) s.desk

/-- A call that keeps the traces loses no release. -/
theorem TraceKept.kept {call : FullMissionCall} (h : s.TraceKept call) :
    s.losesRelease call = false := by
  unfold losesRelease
  cases hanswer : s.answerTo call with
  | none => rfl
  | some answer =>
      have hadvance : ∀ answer ∈ s.answerTo call, s.losesAdvance answer = false := by
        unfold TraceKept at h
        split at h
        · exact fun _ hnone ↦ nomatch hnone
        · exact fun answer hmem ↦ (h answer hmem).1
      exact hadvance answer hanswer

/-- One call more. -/
theorem Traced.step (h : Traced s₀ calls s) {call : FullMissionCall} (hkept : s.TraceKept call) :
    Traced s₀ (calls ++ [call]) (s.step call) := by
  have hloses := TraceKept.kept hkept
  refine ⟨by rw [h.reached, run_concat], (mission_move h.planned call).2,
    h.inStep.step h.planned hloses, ?_⟩
  have hbefore : TracedDesk (Happens FullMissionSession.step ExecutesAlternate s₀ (calls ++ [call]))
      (fun epoch ↦ Happens FullMissionSession.step (ExecutesUpdate epoch) s₀ (calls ++ [call]))
      s.desk :=
    h.traced.mono (fun hbefore ↦ happens_concat.mpr (.inl hbefore))
      fun e hbefore ↦ happens_concat.mpr (.inl hbefore)
  cases (mission_move h.planned call).1 with
  | kept _ _ hdesk => exact hdesk ▸ hbefore
  | prepared hlifecycle hnew hdesk =>
      rw [hdesk]
      refine hbefore.prepare (h.planned.guided.unprepared hlifecycle) ?_
      rw [(newRunner_spec hnew).2.1]
      rfl
  | @advanced _ answer hanswer hmove =>
      have hlost : s.losesAdvance answer = false := by
        rwa [losesRelease, hanswer, Option.any_some] at hloses
      cases hmove with
      | kept _ hdesk => exact hdesk ▸ hbefore
      | lost _ _ _ hlose _ => cases hlose.symm.trans hlost
      | @counted r r' cells completed hcells hrunner hpackage _ hdesk hcompleted =>
          have hplan := h.planned.plan r hrunner
          have hepoch : r.package.epoch = s.releaseEpoch := h.inStep.epoch r hrunner
          have hexecuted : ∀ p, r.package.uplink.pending = some p → p.state = .committed →
              p.effectiveEpoch = s.releaseEpoch → s.executed call = some p.load := by
            intro p hp hstate hdue
            have hin := (hbefore.due r p hrunner hp hstate).2
            rw [executed, releasedCells, hanswer, Option.bind_some, hcells, Option.bind_some,
              hrunner, Option.bind_some]
            refine (handedOut_released hplan cells).trans ?_
            exact handedOut_of_due hp hstate (hdue.trans hepoch.symm) (hepoch.symm ▸ hdue ▸ hin)
          have hnow : ∀ p, r.package.uplink.pending = some p → p.state = .committed →
              p.effectiveEpoch = s.releaseEpoch → SelectsAlternate p.load →
              Happens FullMissionSession.step ExecutesAlternate s₀ (calls ++ [call]) := by
            intro p hp hstate hdue hselects
            rw [happens_concat, ← h.reached]
            exact .inr ⟨p.load, hexecuted p hp hstate hdue, hselects⟩
          rw [hdesk]
          refine hbefore.release hrunner ?_ (fun p hp hstate hdue ↦ ⟨hnow p hp hstate hdue, ?_⟩) ?_
          · rw [hpackage, (view_released hplan cells).1, hepoch]
            rfl
          · intro htype
            rw [happens_concat, ← h.reached]
            exact .inr ⟨rfl, p.load, hexecuted p hp hstate hdue, htype⟩
          · refine hcompleted.imp id ?_
            rintro ⟨outcome, c, hcomplete, -, rfl, halternate⟩
            refine ⟨c, rfl, fun hc ↦ ?_⟩
            rcases hbefore.branch (halternate hc) with hbranched | ⟨_, p, hr, hp, hstate, hselects⟩
            · exact hbranched
            · obtain rfl := Option.some.inj (hrunner.symm.trans hr)
              have hdue : p.effectiveEpoch = s.releaseEpoch := by
                unfold TraceKept at hkept
                split at hkept
                · cases hanswer
                · exact (hkept answer hanswer).2 hcomplete r hrunner p hp hstate hselects
              exact hnow p hp hstate hdue hselects
  | @submitted action hresult =>
      cases hresult with
      | failed _ hsame =>
          have hstep : s.step (.submit action) = s := hsame
          rw [hstep]
          exact hbefore
      | @answered r d hok hrole hrunner hmove hdesk _ =>
          have hstep : (s.step (.submit action)).desk = _ := hdesk
          rw [hstep]
          refine hbefore.submit h.inStep hrunner hmove
            (view_submitted (h.planned.plan r hrunner) action) ?_
          rintro request rfl p hp haddr hstate
          exact hkept (isOpen_of_submitted hok) hrole r hrunner p hp haddr hstate

/-- The world at release `k`, where the mission ends. -/
def contactAnswer (k : Nat) : WorldAnswer :=
  { restAnswer k with
    complete := true
    completion := .ok .groundContact }

/-- One release and the end of the mission. -/
def landing : List FullMissionCall :=
  [.prepare (.ok padWorld), .advanceOneRelease (contactAnswer 0)]

theorem landing_completed :
    (run step (fullGnssLossSession .flightController) landing).completed.isSome = true := by
  decide +kernel

/-- A run on the pad, up to the step in which the update is requested. -/
def waitingRun : List FullMissionCall := .prepare (.ok padWorld) :: restReleases 0 5923

/-- The load is staged, committed and cancelled before release `k`; what it announces is due
three releases later, when the mission ends. -/
def takenBack (k : Nat) (load : UplinkCommandLoad) : List FullMissionCall :=
  [.stage load 0, .commit (commitRequest load (UInt32.ofNat k)),
    .cancel { commitRequest load (UInt32.ofNat k) with kind := .cancellation }].map .submit
      ++ (restReleases k 3 ++ [.advanceOneRelease (contactAnswer (k + 3))])

theorem idle_waitingRun :
    Idle none 5923 (run step (fullGnssLossSession .flightController) waitingRun)
      ∧ Watched 5923 (run step (fullGnssLossSession .flightController) waitingRun).watch := by
  obtain ⟨hidle, hwatched⟩ := @idle_prepared .flightController rfl
  rw [waitingRun, run_cons]
  exact idle_run hidle hwatched 5923 (by omega) fun _ _ _ hp ↦ nomatch hp

/-- The staged update is committed in the step that requests it. -/
theorem commit_update {k : Nat} (h : Idle (some (.stage load)) k s) (hk : 5923 ≤ k)
    (hstands : StandsAt k s.procedure) {stageEpoch effectiveEpoch : UInt32} {t : FullMissionSession}
    (hload : PadUpdate t stageEpoch effectiveEpoch load)
    (hstage : stageEpoch.toNat + 2 ≤ k + 2) (hlate : k + 2 ≤ effectiveEpoch.toNat)
    (heffective : effectiveEpoch.toNat + 64 < 2 ^ 32) (requestEpoch : UInt32) :
    ∃ p, p.load = load ∧ p.state = .committed
      ∧ Idle (some p) k (s.step (.submit (.commit (commitRequest load requestEpoch))))
      ∧ (s.step (.submit (.commit (commitRequest load requestEpoch)))).pendingNavigationResetRelease
        = some effectiveEpoch := by
  have hstaged : s.stagedLoad = some load := h.stagedLoad
  have hchecked : s.checkAction (.commit (commitRequest load requestEpoch)) = .ok () := by
    unfold checkAction
    dsimp only
    rw [hstaged]
    dsimp only
    rw [hload.type]
    exact if_pos (accepts_update hstands hk rfl)
  have hadm : CommitAdmitted (.stage load) (commitRequest load requestEpoch) (UInt32.ofNat k) := by
    refine ⟨?_, by rintro ⟨⟩, ?_⟩
    · simp [addresses, commitRequest]
    · have hnat : (UInt32.ofNat k).toNat = k :=
        UInt32.toNat_ofNat_of_lt' (by show k < 2 ^ 32; omega)
      have hexpires : (effectiveEpoch + 64).toNat = effectiveEpoch.toNat + 64 := by
        rw [UInt32.toNat_add]
        exact Nat.mod_eq_of_lt heffective
      have hafter : (addSat32 (UInt32.ofNat k) 2).toNat = k + 2 := by
        rw [toNat_addSat32, hnat]
        show min (k + 2) (2 ^ 32 - 1) = _
        omega
      have hnotBefore : (stageEpoch + 2).toNat = stageEpoch.toNat + 2 := by
        rw [UInt32.toNat_add]
        exact Nat.mod_eq_of_lt (by show stageEpoch.toNat + 2 < 2 ^ 32; omega)
      unfold commitLate commitRequest
      rw [stage_load, hload.effective, hload.notBefore, hload.expires, not_or, not_or, not_or,
        UInt32.not_lt, UInt32.not_lt, UInt32.not_lt]
      simp only [UInt32.le_iff_toNat_le]
      refine ⟨not_not.mpr rfl, ?_, ?_, ?_⟩ <;> omega
  have hnext : ∀ r, Resting (some (.stage load)) k r →
      ∃ heff, r.package.uplink.view.next (uplinkCallOf r (.commit (commitRequest load requestEpoch)))
        = ⟨some ((PendingUplink.stage load).commit load.requestedEffectiveEpoch heff), 0⟩ := by
    intro r hrest
    obtain ⟨heff, hcommitted⟩ := @next_commit_of_admitted r.package.uplink.view _ _ _ hrest.pending
      hadm
    refine ⟨heff, ?_⟩
    rw [uplinkCallOf, hrest.epoch, hcommitted]
    exact congrArg (UplinkView.mk _) hrest.unexecuted
  obtain ⟨hidle, -, -, r, d, hmove, hrest, hdesk⟩ := @Idle.submit s k _ (some
    ((PendingUplink.stage load).commit load.requestedEffectiveEpoch rfl)) _ h hchecked
      fun r hrest ↦ (hnext r hrest).2
  refine ⟨_, rfl, rfl, hidle, (congrArg MissionDesk.pendingNavigationResetRelease hdesk).trans ?_⟩
  show d.pendingNavigationResetRelease = _
  cases hmove with
  | @committed load' _ hstaged' _ _ =>
      obtain rfl := Option.some.inj (hstaged.symm.trans hstaged')
      show (s.desk.announce load).pendingNavigationResetRelease = _
      unfold MissionDesk.announce
      rw [hload.type]
      exact congrArg some hload.effective
  | uncommitted hstaged' _ hconfirms =>
      obtain rfl := Option.some.inj (hstaged.symm.trans hstaged')
      have hkept := next_commit_of_unconfirmed hrest.pending hconfirms
      have hpending := congrArg UplinkView.pending (hkept.symm.trans (hnext r hrest).2)
      cases congrArg (Option.map PendingUplink.state) (hrest.pending.symm.trans hpending)

/-- The committed load is cancelled; its announcement stays. -/
theorem cancel_committed {k : Nat} (h : Idle (some p) k s) (hload : p.load = load)
    (requestEpoch : UInt32) :
    let request := { commitRequest load requestEpoch with kind := .cancellation }
    Idle none k (s.step (.submit (.cancel request)))
      ∧ (s.step (.submit (.cancel request))).pendingNavigationResetRelease =
        s.pendingNavigationResetRelease := by
  intro request
  obtain ⟨hidle, -, -, r, d, hmove, -, hdesk⟩ := @Idle.submit s k (some p) none (.cancel request) h
    rfl fun r hrest ↦ by
      have haddr : addresses request .cancellation p.load = true := by
        simp [addresses, request, commitRequest, hload]
      unfold uplinkCallOf UplinkView.next
      dsimp only
      rw [view_pending, hrest.pending]
      exact (if_pos haddr).trans (congrArg (UplinkView.mk _) hrest.unexecuted)
  refine ⟨hidle, (congrArg MissionDesk.pendingNavigationResetRelease hdesk).trans ?_⟩
  cases hmove <;> rfl

/-- The mission ends with the release for which a reset was announced. -/
theorem contact_completes {k : Nat} (h : Idle none k s) (hk : k < 24000)
    (hreset : s.pendingNavigationResetRelease = some (UInt32.ofNat k)) :
    ∃ completion, (s.step (.advanceOneRelease (contactAnswer k))).completed = some completion
      ∧ ∃ sample ∈ (s.step (.advanceOneRelease (contactAnswer k))).globalDisplay.samples,
        sample.releaseEpoch = UInt32.ofNat k ∧ sample.navigationReset = true := by
  obtain ⟨r, bundle, hrest, -, -, -, hguided, hflown, hstep⟩ :=
    @Idle.advance s k none (contactAnswer k) h hk (fun _ hp ↦ nomatch hp) rfl rfl
  obtain ⟨-, -, hdesk⟩ := takeRelease_spec hguided s.releaseEpoch bundle (contactAnswer k)
  rw [hstep]
  have hrunner := congrArg MissionDesk.runner hdesk
  have hdisplay := congrArg MissionDesk.globalDisplay hdesk
  generalize ((s.runningWith r).takeRelease s.releaseEpoch bundle (contactAnswer k)).2 = t at *
  have hconcluded : ∃ completion, (t.conclude (contactAnswer k)).2.completed = some completion
      ∧ (t.conclude (contactAnswer k)).2.globalDisplay = t.globalDisplay := by
    show ∃ completion, (t.complete (.ok .groundContact)).2.completed = some completion
      ∧ (t.complete (.ok .groundContact)).2.globalDisplay = t.globalDisplay
    unfold complete
    rw [show t.runner = some r from hrunner]
    dsimp only
    rw [hflown]
    exact ⟨_, rfl, rfl⟩
  obtain ⟨completion, hcompleted, hkept⟩ := hconcluded
  refine ⟨completion, hcompleted, ?_⟩
  obtain ⟨sample, hsample, hepoch, hmarked⟩ := GlobalDisplayPublisher.publish_marked
    s.globalDisplay {
      frame := (contactAnswer k).snapshot.frame
      segment := (contactAnswer k).snapshot.segment
      events := (contactAnswer k).snapshot.events
      lineages := (contactAnswer k).lineages
      terminal := (contactAnswer k).complete } s.releaseEpoch
  refine ⟨sample, ?_, hepoch.trans h.epoch, hmarked⟩
  rw [hkept, show t.globalDisplay = _ from hdisplay]
  have hnow : s.pendingNavigationResetRelease = some s.releaseEpoch := by rw [hreset, h.epoch]
  unfold MissionDesk.release MissionDesk.publish
  dsimp only
  rw [show (s.runningWith r).desk.pendingNavigationResetRelease = some s.releaseEpoch from hnow,
    decide_eq_true rfl]
  exact hsample

/-- Actions by themselves execute nothing. -/
theorem submits_execute_nothing (s : FullMissionSession) (actions : List MissionOperatorAction) :
    ¬Happens step Executes s (actions.map .submit) := by
  induction actions generalizing s with
  | nil => exact id
  | cons action actions ih =>
      rw [List.map_cons, happens_cons]
      exact not_or.mpr ⟨not_not.mpr rfl, ih _⟩

/-- A load is taken back, and the session shows the reset it announced. -/
theorem reset_of_takenBack {k : Nat} (h : Idle none k s) (hwatched : Watched k s.watch)
    (hk : 5923 ≤ k) (hbelow : k ≤ 7000) :
    ∃ load completion, (run step s (takenBack k load)).completed = some completion
      ∧ (∃ sample ∈ (run step s (takenBack k load)).globalDisplay.samples,
        sample.navigationReset = true)
      ∧ ¬Happens step Executes s (takenBack k load) := by
  have hnat : ∀ n, n ≤ 7003 → (UInt32.ofNat n).toNat = n :=
    fun n hn ↦ UInt32.toNat_ofNat_of_lt' (by show n < 2 ^ 32; omega)
  have hstage := hnat k (by omega)
  have hdue := hnat (k + 3) (by omega)
  obtain ⟨load, -, hload⟩ := groundUpdateLoad_pad hwatched (by omega) (UInt32.ofNat k)
    (UInt32.ofNat (k + 3))
  obtain ⟨hstaged, hsame⟩ := h.stage_update hload (by omega) (by omega) 0
  have hstands : StandsAt k _ := (congrArg MissionWatch.procedure hsame).symm ▸ hwatched.procedure
  obtain ⟨p, hp, -, hcommitted, hreset⟩ := commit_update hstaged hk hstands hload
    (by omega) (by omega) (by omega) (UInt32.ofNat k)
  obtain ⟨hcancelled, hkept⟩ := cancel_committed hcommitted hp (UInt32.ofNat k)
  have hnone : ∀ m < 3, Uncommitted none (k + m) := fun _ _ _ hp ↦ nomatch hp
  have hrest := (idle_induction hcancelled 3 (by omega) hnone (P := fun _ ↦ True) trivial
    fun _ _ _ _ ↦ trivial).1
  have hannounced := idle_keeps_reset hcancelled 3 (by omega) hnone (by omega) (hkept.trans hreset)
  obtain ⟨completion, hcompleted, sample, hsample, -, hmarked⟩ :=
    contact_completes hrest (by omega) hannounced
  refine ⟨load, completion, ?_, ⟨sample, ?_, hmarked⟩, ?_⟩
  · rw [takenBack, run_append, run_append, List.map_cons, List.map_cons, List.map_cons,
      List.map_nil, run_cons, run_cons, run_cons, run_nil, run_cons, run_nil]
    exact hcompleted
  · rw [takenBack, run_append, run_append, List.map_cons, List.map_cons, List.map_cons,
      List.map_nil, run_cons, run_cons, run_cons, run_nil, run_cons, run_nil]
    exact hsample
  · rw [takenBack, happens_append, happens_append]
    rintro (hactions | hafter | hlast | hnothing)
    · exact submits_execute_nothing _ _ hactions
    · rw [List.map_cons, List.map_cons, List.map_cons, List.map_nil, run_cons, run_cons, run_cons,
        run_nil] at hafter
      exact idle_executes_nothing hcancelled 3 (by omega) hnone hafter
    · rw [List.map_cons, List.map_cons, List.map_cons, List.map_nil, run_cons, run_cons, run_cons,
        run_nil] at hlast
      exact hlast (hrest.executes_nothing (fun _ hp ↦ nomatch hp) _)
    · exact hnothing

end Traces

end Ksa64.Session
