import Ksa64.Library.Run
import Ksa64.Session.Operations

/-!
# Runs of the procedure engine

An operation on an active engine writes records at the current step and then leaves the step
alone, ends the procedure in it or follows one of its edges: `visit` says which, and
`perform_eq` that the engine does so.  An edge that the pack leaves unset has the identity 0 and
is a dead end.  On the dead ends rest both the error of the graph (`graph_error_iff`) and the
evidence that does not tell the state (`documents_iff`).
-/

namespace Ksa64.Session

open Ksa64.Library Ksa64.Interface Ksa64.Sim

inductive ProcedureOperation where
  | tick (snapshot : OperationalMetricSnapshot)
  | expireAt (epoch : UInt32)
  | acknowledge (role : OperationalRole) (epoch : UInt32)
  | acceptAction (role : OperationalRole) (epoch : UInt32) (action : UplinkLoadType)
      (accepted : Bool)
  | useHint (role : OperationalRole) (epoch : UInt32)
  | overrideStep (role : OperationalRole) (epoch : UInt32) (complete : Bool)
deriving DecidableEq

namespace ProcedureEngine

/-! ## Operations -/

def perform (e : ProcedureEngine) : ProcedureOperation → Outcome Unit
  | .tick snapshot => e.tick snapshot
  | .expireAt epoch => e.expireAt epoch
  | .acknowledge role epoch => e.acknowledge role epoch
  | .acceptAction role epoch action accepted => e.acceptAction role epoch action accepted
  | .useHint role epoch => ((e.useHint role epoch).1.map fun _ ↦ (), (e.useHint role epoch).2)
  | .overrideStep role epoch complete => e.overrideStep role epoch complete

/-- The step has been active for longer than it may. -/
def Overdue (e : ProcedureEngine) (step : ProcedureStep) (epoch : UInt32) : Prop :=
  step.timeoutEpochs ≠ 0 ∧ addSat32 e.enteredEpoch step.timeoutEpochs < epoch

instance (e : ProcedureEngine) (step : ProcedureStep) (epoch : UInt32) :
    Decidable (e.Overdue step epoch) := inferInstanceAs (Decidable (_ ∧ _))

/-- A tick slices the four predicates of a step by their count, before it changes anything. -/
def panics (e : ProcedureEngine) : ProcedureOperation → Bool
  | .tick snapshot => e.state == .active && match e.current with
    | none => false
    | some step => decide (¬e.Overdue step snapshot.epoch ∧ 4 < step.predicateCount.toNat)
        && match step.kind with
          | .observe | .verify | .wait | .branch => true
          | _ => false
  | _ => false

/-- The result of an operation, none if it panics, and the engine after it. -/
def call (e : ProcedureEngine) (op : ProcedureOperation) :
    Option (Except ProcedureError Unit) × ProcedureEngine :=
  if e.panics op then (none, e) else (some (e.perform op).1, (e.perform op).2)

def step (e : ProcedureEngine) (op : ProcedureOperation) : ProcedureEngine := (e.call op).2

/-! ## What an operation does to the current step -/

end ProcedureEngine

/-- What becomes of a step. -/
inductive StepExit where
  /-- It stays the current one. -/
  | stays
  /-- The procedure ends in it, and the last record is of the end. -/
  | ends (state : ProcedureState)
  /-- It is left along an edge; where that is a dead end, the procedure ends in a state. -/
  | follows (edge : UInt16) (entry : ProcedureEvidenceKind) (deadEnd : ProcedureState)
deriving DecidableEq

/-- What an operation records at a step, and what becomes of the step. -/
structure StepVisit where
  epoch : UInt32
  notes : List (ProcedureEvidenceKind × UInt32)
  exit : StepExit
deriving DecidableEq

/-- How many records are made on the way out. -/
def StepExit.records : StepExit → Nat
  | .stays => 0
  | .ends _ => 1
  | .follows edge _ _ => if edge = 0 then 0 else 1

/-- How many records the visit leaves. -/
def StepVisit.records (v : StepVisit) : Nat := v.notes.length + v.exit.records

namespace ProcedureEngine

/-- The visit that an operation pays to the current step of an active engine, if it does. -/
def visitStep (e : ProcedureEngine) (step : ProcedureStep) :
    ProcedureOperation → Option StepVisit
  | .tick snapshot =>
      if e.Overdue step snapshot.epoch then
        some ⟨snapshot.epoch, [(.timeout, step.timeoutEpochs)],
          .follows step.nextFailure .branch .mistimed⟩
      else match step.kind with
      | .observe | .verify | .wait =>
          if predicatesSatisfied step snapshot then
            some ⟨snapshot.epoch, [(.complete, 0)], .follows step.nextComplete .enter .failed⟩
          else none
      | .branch =>
          some ⟨snapshot.epoch, [],
            .follows (if predicatesSatisfied step snapshot then step.nextComplete
              else step.nextFailure) .branch .failed⟩
      | .complete => some ⟨snapshot.epoch, [], .ends .completed⟩
      | .skip => some ⟨snapshot.epoch, [], .ends .skipped⟩
      | .fail => some ⟨snapshot.epoch, [], .ends .failed⟩
      | .acknowledge | .requestAction | .caution | .warning => none
  | .expireAt epoch =>
      some ⟨epoch, [(.timeout, 0)], .follows step.nextFailure .branch .mistimed⟩
  | .acknowledge role epoch =>
      if roleCanAct role ∧ (step.kind = .acknowledge ∨ step.kind = .caution
          ∨ step.kind = .warning) then
        some ⟨epoch, [(.acknowledge, 0), (.complete, 0)],
          .follows step.nextComplete .enter .failed⟩
      else none
  | .acceptAction role epoch action accepted =>
      if roleCanAct role ∧ step.kind = .requestAction ∧ step.action = some action then
        some ⟨epoch, [(.action, if accepted then 1 else 0)],
          .follows (if accepted then step.nextComplete else step.nextFailure) .branch .failed⟩
      else none
  | .useHint role epoch =>
      if role = .guidedOperator ∧ step.hintIdentity ≠ 0 then
        some ⟨epoch, [(.hint, step.hintIdentity.toUInt32)], .stays⟩
      else none
  | .overrideStep role epoch complete =>
      if role = .flightController ∨ role = .simDirector then
        some ⟨epoch, [(.manualOverride, if complete then 1 else 0)],
          .follows (if complete then step.nextComplete else 0) .branch .manuallyOverridden⟩
      else none

/-- The visit of an operation, and the step it is paid to. -/
def visit (e : ProcedureEngine) (op : ProcedureOperation) : Option (ProcedureStep × StepVisit) :=
  if e.state ≠ .active ∨ e.panics op then none
  else e.current.bind fun step ↦ (e.visitStep step op).map (step, ·)

/-- The operation leaves the current step along an edge that the pack leaves unset; the
procedure ends in the state. -/
def DeadEnds (e : ProcedureEngine) (op : ProcedureOperation) (state : ProcedureState) : Prop :=
  ∃ step epoch notes entry, e.visit op = some (step, ⟨epoch, notes, .follows 0 entry state⟩)

/-- Take the notes at a step. -/
def note (e : ProcedureEngine) (stepId : UInt16) (epoch : UInt32)
    (notes : List (ProcedureEvidenceKind × UInt32)) : ProcedureEngine :=
  notes.foldl (fun e entry ↦ e.record epoch entry.1 stepId entry.2) e

def leave (e : ProcedureEngine) (stepId : UInt16) (epoch : UInt32) : StepExit → Outcome Unit
  | .stays => (.ok (), e)
  | .ends state => (.ok (), { e with state := state }.record epoch .complete stepId 0)
  | .follows edge entry deadEnd =>
      if edge = 0 then
        (if deadEnd = .failed then .error .graph else .ok (), { e with state := deadEnd })
      else e.transition epoch edge entry

/-- Pay the visit. -/
def pay (e : ProcedureEngine) (step : ProcedureStep) (v : StepVisit) : Outcome Unit :=
  (e.note step.stepId v.epoch v.notes).leave step.stepId v.epoch v.exit

variable {e : ProcedureEngine} {op : ProcedureOperation} {step : ProcedureStep} {v : StepVisit}

/-- A transition along an unset edge fails. -/
theorem transition_zero (epoch : UInt32) (entry : ProcedureEvidenceKind) :
    e.transition epoch 0 entry = (.error .graph, { e with state := .failed }) :=
  if_pos (.inl rfl)

/-- A step is left along an edge that is set by a transition. -/
theorem leave_follows (stepId : UInt16) (epoch : UInt32) {edge : UInt16} (hedge : edge ≠ 0)
    (entry : ProcedureEvidenceKind) (deadEnd : ProcedureState) :
    e.leave stepId epoch (.follows edge entry deadEnd) = e.transition epoch edge entry :=
  if_neg hedge

/-- Where a dead end is an error, a step is left by a transition along any edge. -/
theorem leave_follows_failed (stepId : UInt16) (epoch : UInt32) (edge : UInt16)
    (entry : ProcedureEvidenceKind) :
    e.leave stepId epoch (.follows edge entry .failed) = e.transition epoch edge entry := by
  by_cases hedge : edge = 0
  · rw [hedge, transition_zero]
    rfl
  · exact leave_follows stepId epoch hedge ..

theorem completeStep_eq_pay (epoch : UInt32) (step : ProcedureStep) :
    e.completeStep epoch step =
      e.pay step ⟨epoch, [(.complete, 0)], .follows step.nextComplete .enter .failed⟩ :=
  (leave_follows_failed ..).symm

theorem timeOut_eq_pay (epoch : UInt32) (step : ProcedureStep) (detail : UInt32) :
    e.timeOut epoch step detail =
      e.pay step ⟨epoch, [(.timeout, detail)], .follows step.nextFailure .branch .mistimed⟩ := rfl

/-- The operation visits the step, or it leaves the engine alone. -/
inductive Visits (e : ProcedureEngine) (op : ProcedureOperation) (step : ProcedureStep) : Prop
  | pays (v : StepVisit) (hv : e.visitStep step op = some v) (h : e.perform op = e.pay step v)
  | passes (r : Except ProcedureError Unit) (hv : e.visitStep step op = none)
      (hr : r ≠ .error .graph) (h : e.perform op = (r, e))

/-- What a tick does to an active engine. -/
theorem visits_tick (snapshot : OperationalMetricSnapshot) (hstate : e.state = .active)
    (hcurrent : e.current = some step) : e.Visits (.tick snapshot) step := by
  have htick : e.perform (.tick snapshot) = e.tick snapshot := rfl
  unfold tick at htick
  rw [if_neg (not_not.mpr hstate), hcurrent] at htick
  change _ = if e.Overdue step snapshot.epoch then _ else _ at htick
  by_cases hdue : e.Overdue step snapshot.epoch
  · exact .pays _ (if_pos hdue) (htick.trans (if_pos hdue))
  rw [if_neg hdue] at htick
  have hvisit : e.visitStep step (.tick snapshot) = _ := if_neg hdue
  generalize hkind : step.kind = kind at htick hvisit
  cases kind with
  | observe | verify | wait =>
      dsimp only at htick hvisit
      by_cases hholds : predicatesSatisfied step snapshot
      · rw [if_pos hholds] at htick hvisit
        exact .pays _ hvisit (htick.trans (completeStep_eq_pay ..))
      · rw [if_neg hholds] at htick hvisit
        exact .passes _ hvisit (by simp) htick
  | branch => exact .pays _ hvisit (htick.trans (leave_follows_failed ..).symm)
  | complete | skip | fail => exact .pays _ hvisit htick
  | acknowledge | requestAction | caution | warning => exact .passes _ hvisit (by simp) htick

/-- What an override does to an active engine. -/
theorem visits_overrideStep (role : OperationalRole) (epoch : UInt32) (complete : Bool)
    (hstate : e.state = .active) (hcurrent : e.current = some step) :
    e.Visits (.overrideStep role epoch complete) step := by
  have hperform : e.perform (.overrideStep role epoch complete) = e.overrideStep role epoch complete :=
    rfl
  unfold overrideStep at hperform
  by_cases hrole : role = .flightController ∨ role = .simDirector
  · rw [if_neg (by simpa [hstate, or_iff_not_imp_left] using hrole), hcurrent] at hperform
    refine .pays _ (if_pos hrole) (hperform.trans ?_)
    dsimp only
    cases complete with
    | false => rfl
    | true =>
        by_cases hedge : step.nextComplete = 0
        · rw [if_neg fun h ↦ h.2 hedge]
          unfold pay
          dsimp only
          rw [if_pos rfl, hedge]
          rfl
        · rw [if_pos ⟨rfl, hedge⟩]
          exact (leave_follows (e := e.record epoch .manualOverride step.stepId 1) _ _ hedge ..).symm
  · rw [if_pos (.inl (not_or.mp hrole))] at hperform
    exact .passes _ (if_neg hrole) (by simp) hperform

/-- What an operation does to an active engine, case by case. -/
theorem visits (op : ProcedureOperation) (hstate : e.state = .active)
    (hcurrent : e.current = some step) : e.Visits op step := by
  have hactive : ¬e.state ≠ .active := not_not.mpr hstate
  cases op with
  | tick snapshot => exact visits_tick snapshot hstate hcurrent
  | expireAt epoch =>
      refine .pays _ rfl ?_
      show e.expireAt epoch = _
      unfold expireAt
      rw [if_neg hactive, hcurrent]
      exact timeOut_eq_pay ..
  | acknowledge role epoch =>
      have hperform : e.perform (.acknowledge role epoch) = e.acknowledge role epoch := rfl
      unfold acknowledge at hperform
      by_cases hrole : roleCanAct role
      · rw [if_neg (by simp [hrole, hstate]), hcurrent] at hperform
        dsimp only at hperform
        by_cases hkind : step.kind = .acknowledge ∨ step.kind = .caution ∨ step.kind = .warning
        · rw [if_neg (by simpa [or_iff_not_imp_left] using hkind)] at hperform
          exact .pays _ (if_pos ⟨hrole, hkind⟩) (hperform.trans (leave_follows_failed ..).symm)
        · rw [if_pos (by simpa using hkind)] at hperform
          exact .passes _ (if_neg fun h ↦ hkind h.2) (by simp) hperform
      · rw [if_pos (by simp [hrole])] at hperform
        exact .passes _ (if_neg fun h ↦ hrole h.1) (by simp) hperform
  | acceptAction role epoch action accepted =>
      have hperform : e.perform (.acceptAction role epoch action accepted) =
        e.acceptAction role epoch action accepted := rfl
      unfold acceptAction at hperform
      by_cases hrole : roleCanAct role
      · rw [if_neg (by simp [hrole, hstate]), hcurrent] at hperform
        dsimp only at hperform
        by_cases hkind : step.kind = .requestAction ∧ step.action = some action
        · rw [if_neg (by simpa [not_or] using hkind)] at hperform
          exact .pays _ (if_pos ⟨hrole, hkind⟩) (hperform.trans (leave_follows_failed ..).symm)
        · rw [if_pos (by rwa [← not_and_or])] at hperform
          exact .passes _ (if_neg fun h ↦ hkind h.2) (by simp) hperform
      · rw [if_pos (by simp [hrole])] at hperform
        exact .passes _ (if_neg fun h ↦ hrole h.1) (by simp) hperform
  | useHint role epoch =>
      have hperform : e.useHint role epoch = e.useHint role epoch := rfl
      conv_rhs at hperform => unfold useHint
      by_cases hrole : role = .guidedOperator
      · rw [if_neg (not_or.mpr ⟨not_not.mpr hrole, hactive⟩), hcurrent] at hperform
        dsimp only at hperform
        by_cases hhint : step.hintIdentity = 0
        · rw [if_pos hhint] at hperform
          refine .passes (.error .state) (if_neg fun h ↦ h.2 hhint) (by simp) ?_
          show ((e.useHint role epoch).1.map _, _) = _
          rw [hperform]
          rfl
        · rw [if_neg hhint] at hperform
          refine .pays _ (if_pos ⟨hrole, hhint⟩) ?_
          show ((e.useHint role epoch).1.map _, _) = _
          rw [hperform]
          rfl
      · rw [if_pos (.inl hrole)] at hperform
        refine .passes (.error .permission) (if_neg fun h ↦ hrole h.1) (by simp) ?_
        show ((e.useHint role epoch).1.map _, _) = _
        rw [hperform]
        rfl
  | overrideStep role epoch complete =>
      exact visits_overrideStep role epoch complete hstate hcurrent

/-- The guard that every operation starts with leaves an engine alone that is not active or
has no current step. -/
theorem guarded_of_inactive {α : Type} {c : Prop} [Decidable c] {r₀ : Except ProcedureError α}
    {f : ProcedureStep → Outcome α} (h : e.state ≠ .active ∨ e.current = none)
    (hc : e.state ≠ .active → c) (hr₀ : r₀ ≠ .error .graph) :
    ∃ r, r ≠ .error .graph ∧ (if c then (r₀, e) else match e.current with
      | none => (.error .step, e)
      | some step => f step) = (r, e) := by
  by_cases hguard : c
  · exact ⟨r₀, hr₀, if_pos hguard⟩
  · rw [if_neg hguard, h.resolve_left fun hstate ↦ hguard (hc hstate)]
    exact ⟨_, by simp, rfl⟩

/-- An engine that is not active, or has no current step, is left alone. -/
theorem perform_of_inactive (op : ProcedureOperation)
    (h : e.state ≠ .active ∨ e.current = none) :
    ∃ r, r ≠ .error .graph ∧ e.perform op = (r, e) := by
  cases op with
  | tick | expireAt => exact guarded_of_inactive h id (by simp)
  | acknowledge | acceptAction => exact guarded_of_inactive h (by simp +contextual) (by simp)
  | useHint role epoch =>
      obtain ⟨r, hr, hhint⟩ : ∃ r, r ≠ .error .graph ∧ e.useHint role epoch = (r, e) :=
        guarded_of_inactive h .inr (by simp)
      refine ⟨r.map fun _ ↦ (), ?_, ?_⟩
      · cases r with
        | ok => simp [Except.map]
        | error error => simpa [Except.map] using hr
      · show ((e.useHint role epoch).1.map _, _) = _
        rw [hhint]
  | overrideStep => exact guarded_of_inactive h .inr (by simp)

/-- An operation with a visit pays it. -/
theorem call_of_visit (h : e.visit op = some (step, v)) :
    e.call op = (some (e.pay step v).1, (e.pay step v).2)
      ∧ e.state = .active ∧ e.current = some step ∧ e.visitStep step op = some v := by
  unfold visit at h
  split_ifs at h with hidle
  obtain ⟨hstate, hpanics⟩ := not_or.mp hidle
  obtain ⟨other, hcurrent, h⟩ := Option.bind_eq_some_iff.mp h
  obtain ⟨w, hw, heq⟩ := Option.map_eq_some_iff.mp h
  cases heq
  refine ⟨?_, not_not.mp hstate, hcurrent, hw⟩
  unfold call
  rw [if_neg hpanics]
  cases visits op (not_not.mp hstate) hcurrent with
  | pays w hv hpay =>
      cases hv.symm.trans hw
      rw [hpay]
  | passes r hv => cases hv.symm.trans hw

/-- An operation without a visit leaves the engine alone. -/
theorem call_of_no_visit (h : e.visit op = none) :
    (e.call op).1 ≠ some (.error .graph) ∧ (e.call op).2 = e := by
  unfold call
  by_cases hpanics : e.panics op
  · rw [if_pos hpanics]
    exact ⟨by simp, rfl⟩
  rw [if_neg hpanics]
  have hperform : ∃ r, r ≠ .error .graph ∧ e.perform op = (r, e) := by
    by_cases hinactive : e.state ≠ .active ∨ e.current = none
    · exact perform_of_inactive op hinactive
    obtain ⟨hstate, hcurrent⟩ := not_or.mp hinactive
    obtain ⟨step, hcurrent⟩ := Option.ne_none_iff_exists'.mp hcurrent
    cases visits op (not_not.mp hstate) hcurrent with
    | pays w hv =>
        unfold visit at h
        rw [if_neg (not_or.mpr ⟨hstate, hpanics⟩), hcurrent, Option.bind_some, hv] at h
        cases h
    | passes r _ hr hpass => exact ⟨r, hr, hpass⟩
  obtain ⟨r, hr, heq⟩ := hperform
  rw [heq]
  exact ⟨by simpa using hr, rfl⟩

/-! ## The graph -/

@[simp] theorem note_pack (stepId : UInt16) (epoch : UInt32)
    (notes : List (ProcedureEvidenceKind × UInt32)) : (e.note stepId epoch notes).pack = e.pack := by
  induction notes generalizing e with
  | nil => rfl
  | cons entry notes ih => exact ih

@[simp] theorem note_state (stepId : UInt16) (epoch : UInt32)
    (notes : List (ProcedureEvidenceKind × UInt32)) : (e.note stepId epoch notes).state = e.state := by
  induction notes generalizing e with
  | nil => rfl
  | cons entry notes ih => exact ih

theorem leave_pack (stepId : UInt16) (epoch : UInt32) (exit : StepExit) :
    (e.leave stepId epoch exit).2.pack = e.pack := by
  cases exit with
  | stays | ends => rfl
  | follows edge entry deadEnd =>
      by_cases hedge : edge = 0
      · rw [hedge]
        rfl
      · rw [leave_follows _ _ hedge]
        exact transition_pack ..

/-- No operation changes the pack. -/
theorem step_pack (e : ProcedureEngine) (op : ProcedureOperation) : (e.step op).pack = e.pack := by
  unfold ProcedureEngine.step
  cases hvisit : e.visit op with
  | none => rw [(call_of_no_visit hvisit).2]
  | some paid =>
      rw [(@call_of_visit _ _ paid.1 paid.2 hvisit).1]
      exact (leave_pack ..).trans (note_pack ..)

/-- The edge that a visit follows is one of the step's, or unset, and its dead end is an end. -/
theorem edge_of_visitStep {edge : UInt16} {entry : ProcedureEvidenceKind} {deadEnd : ProcedureState}
    (h : e.visitStep step op = some v) (hexit : v.exit = .follows edge entry deadEnd) :
    (edge = 0 ∨ edge = step.nextComplete ∨ edge = step.nextFailure) ∧ deadEnd ≠ .active := by
  cases op with
  | tick snapshot =>
      rw [visitStep] at h
      by_cases hdue : e.Overdue step snapshot.epoch
      · rw [if_pos hdue] at h
        cases h
        cases hexit
        exact ⟨.inr (.inr rfl), nofun⟩
      rw [if_neg hdue] at h
      generalize step.kind = kind at h
      cases kind with
      | observe | verify | wait =>
          obtain ⟨-, h⟩ := Option.ite_none_right_eq_some.mp h
          cases h
          cases hexit
          exact ⟨.inr (.inl rfl), nofun⟩
      | branch =>
          dsimp only at h
          by_cases hholds : predicatesSatisfied step snapshot
          · rw [if_pos hholds] at h
            cases h
            cases hexit
            exact ⟨.inr (.inl rfl), nofun⟩
          · rw [if_neg hholds] at h
            cases h
            cases hexit
            exact ⟨.inr (.inr rfl), nofun⟩
      | complete | skip | fail =>
          cases h
          cases hexit
      | acknowledge | requestAction | caution | warning => cases h
  | expireAt epoch =>
      cases h
      cases hexit
      exact ⟨.inr (.inr rfl), nofun⟩
  | acknowledge role epoch =>
      obtain ⟨-, h⟩ := Option.ite_none_right_eq_some.mp h
      cases h
      cases hexit
      exact ⟨.inr (.inl rfl), nofun⟩
  | acceptAction role epoch action accepted =>
      obtain ⟨-, h⟩ := Option.ite_none_right_eq_some.mp h
      cases h
      cases hexit
      split_ifs
      · exact ⟨.inr (.inl rfl), nofun⟩
      · exact ⟨.inr (.inr rfl), nofun⟩
  | useHint role epoch =>
      obtain ⟨-, h⟩ := Option.ite_none_right_eq_some.mp h
      cases h
      cases hexit
  | overrideStep role epoch complete =>
      obtain ⟨-, h⟩ := Option.ite_none_right_eq_some.mp h
      cases h
      cases hexit
      split_ifs
      · exact ⟨.inr (.inl rfl), nofun⟩
      · exact ⟨.inl rfl, nofun⟩

end ProcedureEngine

/-- What a validated pack promises of its graph. -/
theorem findStep_of_validatePack {pack : ProcedurePack} (h : validatePack pack = .ok ())
    {step : ProcedureStep} (hstep : step ∈ usedSteps pack) {edge : UInt16}
    (hedge : edge = step.nextComplete ∨ edge = step.nextFailure) (hset : edge ≠ 0) :
    (findStep pack edge).isSome := by
  unfold validatePack at h
  split_ifs at h with hidentity hbroken
  obtain ⟨index, hindex⟩ := List.mem_iff_getElem?.mp hstep
  have hsound : stepBroken pack index step = false := by
    refine eq_false_of_ne_true fun hstep ↦ hbroken (List.any_eq_true.mpr ⟨(step, index), ?_, hstep⟩)
    exact List.mk_mem_zipIdx_iff_getElem?.mpr hindex
  unfold stepBroken at hsound
  simp only [Bool.or_eq_false_iff, Bool.and_eq_false_iff, bne_eq_false_iff_eq,
    Option.isNone_eq_false_iff] at hsound
  obtain ⟨⟨⟨-, hcomplete⟩, hfailure⟩, -⟩ := hsound
  rcases hedge with rfl | rfl
  · exact hcomplete.resolve_left hset
  · exact hfailure.resolve_left hset

namespace ProcedureEngine

variable {e : ProcedureEngine} {op : ProcedureOperation} {step : ProcedureStep} {v : StepVisit}

theorem mem_usedSteps_of_current (h : e.current = some step) : step ∈ usedSteps e.pack :=
  List.mem_of_find?_eq_some h

/-- Over a validated pack, a step is left along an edge that is set without an error. -/
theorem leave_follows_eq (h : validatePack e.pack = .ok ()) (hstep : step ∈ usedSteps e.pack)
    {edge : UInt16} (hedge : edge = 0 ∨ edge = step.nextComplete ∨ edge = step.nextFailure)
    (hset : edge ≠ 0) (epoch : UInt32) (entry : ProcedureEvidenceKind) (deadEnd : ProcedureState) :
    e.leave step.stepId epoch (.follows edge entry deadEnd) =
      (.ok (), { e with currentStep := edge, enteredEpoch := epoch }.record epoch entry edge 0) := by
  have hfound := findStep_of_validatePack h hstep (hedge.resolve_left hset) hset
  rw [leave_follows _ _ hset]
  exact if_neg (not_or.mpr ⟨hset, by simpa using Option.isSome_iff_ne_none.mp hfound⟩)

/-- Over a validated pack, an operation returns the error of the graph exactly where it leaves
the step along an unset edge, and an unset edge is an error. -/
theorem call_graph_iff (h : validatePack e.pack = .ok ()) :
    (e.call op).1 = some (.error .graph) ↔ e.DeadEnds op .failed := by
  cases hvisit : e.visit op with
  | none =>
      refine iff_of_false (call_of_no_visit hvisit).1 ?_
      rintro ⟨step, epoch, notes, entry, hsome⟩
      cases hvisit.symm.trans hsome
  | some paid =>
      obtain ⟨step, epoch, notes, exit⟩ := paid
      obtain ⟨hcall, -, hcurrent, hv⟩ := call_of_visit hvisit
      have hdead : e.DeadEnds op .failed ↔ ∃ entry, exit = .follows 0 entry .failed := by
        unfold DeadEnds
        rw [hvisit]
        simp
      rw [hcall, hdead]
      unfold pay
      cases exit with
      | stays | ends => exact iff_of_false (by simp [leave]) (by simp)
      | follows edge entry deadEnd =>
          by_cases hset : edge = 0
          · rw [hset, leave, if_pos rfl]
            by_cases hfailed : deadEnd = .failed <;> simp [hfailed]
          · rw [leave_follows_eq (by rwa [note_pack])
              (by rw [note_pack]; exact mem_usedSteps_of_current hcurrent)
              (edge_of_visitStep hv rfl).1 hset]
            simp [hset]

/-- A new engine walks a pack that was validated. -/
theorem validatePack_of_new {pack : ProcedurePack} {epoch : UInt32} (h : new pack epoch = .ok e) :
    validatePack pack = .ok () ∧ e = ({
      pack := pack
      state := .active
      currentStep := pack.entryStep
      enteredEpoch := epoch
      evidence := []
      chain := 0x811c9dc5 } : ProcedureEngine).record epoch .enter pack.entryStep 0 := by
  unfold new at h
  cases hvalid : validatePack pack with
  | error error =>
      rw [hvalid] at h
      cases h
  | ok =>
      rw [hvalid] at h
      exact ⟨rfl, (Except.ok.inj h).symm⟩

/-- The pack is the same all along a run. -/
theorem run_pack (e : ProcedureEngine) (ops : List ProcedureOperation) :
    (run ProcedureEngine.step e ops).pack = e.pack :=
  run_invariant ProcedureEngine.step (fun s ↦ s.pack = e.pack)
    (fun s op h ↦ (step_pack s op).trans h) rfl ops

/-- **The graph of a validated pack**: every edge that is set leads to a step, and in every run
an operation returns the error of the graph exactly where it completes, branches from or answers
the current step along an edge that is not set. -/
theorem graph_error_iff {pack : ProcedurePack} (h : validatePack pack = .ok ()) :
    (∀ step ∈ usedSteps pack, ∀ edge, edge = step.nextComplete ∨ edge = step.nextFailure →
      edge ≠ 0 → (findStep pack edge).isSome)
    ∧ ∀ epoch e, new pack epoch = .ok e → ∀ ops op,
      ((run ProcedureEngine.step e ops).call op).1 = some (.error .graph) ↔
        (run ProcedureEngine.step e ops).DeadEnds op .failed := by
  refine ⟨fun step hstep edge hedge hset ↦ findStep_of_validatePack h hstep hedge hset, ?_⟩
  intro epoch e hnew ops op
  obtain ⟨-, rfl⟩ := validatePack_of_new hnew
  refine call_graph_iff ?_
  rw [run_pack]
  exact h

end ProcedureEngine

/-- The GNSS-loss pack, entered and timed out. -/
theorem graph_error_iff_gnssLoss : ∃ e, ProcedureEngine.new (gnssLossProcedurePack 1) 100 = .ok e
    ∧ ((e.call (.expireAt 101)).1 = some (.error .graph) ↔ e.DeadEnds (.expireAt 101) .failed) := by
  have hvalid : validatePack (gnssLossProcedurePack 1) = .ok () := by decide
  exact ⟨_, rfl, (ProcedureEngine.graph_error_iff hvalid).2 100 _ rfl [] (.expireAt 101)⟩

/-- A pack of one branch, neither of whose edges is set. -/
def lonelyBranchPack : ProcedurePack :=
  { gnssLossProcedurePack 1 with
    stepCount := 1
    steps := Vector.ofFn fun _ ↦
      { ProcedureStep.empty with
        stepId := 1
        kind := .branch
        messageIdentity := 1 } }

/-- The lonely branch is validated, and its first tick fails. -/
theorem lonelyBranch_graph_error :
    ¬∀ (pack : ProcedurePack) (epoch : UInt32) (e : ProcedureEngine) (ops : List ProcedureOperation)
      (op : ProcedureOperation), ProcedureEngine.new pack epoch = .ok e →
      ((run ProcedureEngine.step e ops).call op).1 ≠ some (.error .graph) := by
  intro h
  refine h lonelyBranchPack 100 _ [] (.tick (.new 100)) rfl ?_
  decide

/-! ## The evidence -/

/-- The chain value before the first record. -/
def procedureChainSeed : UInt32 := 0x811c9dc5

/-- The chain value after a record. -/
def linkEvidence (chain : UInt32) (r : ProcedureEvidence) : UInt32 :=
  hashWords [chain, r.sequence, r.epoch, r.stepId.toUInt32, r.kind.code, r.state.code, r.detail]

/-- The chain values after each of the records. -/
def rechain (chain : UInt32) : List ProcedureEvidence → List UInt32
  | [] => []
  | r :: rs => linkEvidence chain r :: rechain (linkEvidence chain r) rs

theorem rechain_concat (chain : UInt32) (rs : List ProcedureEvidence) (r : ProcedureEvidence) :
    rechain chain (rs ++ [r]) = rechain chain rs ++ [linkEvidence (rs.foldl linkEvidence chain) r] := by
  induction rs generalizing chain with
  | nil => rfl
  | cons first rs ih => exact congrArg (_ :: ·) (ih _)

namespace ProcedureEngine

/-- The records are numbered from 1 without a gap, and the chain is that of the records. -/
structure Logged (e : ProcedureEngine) : Prop where
  contiguous : e.evidence.map (·.sequence.toNat) = List.range' 1 e.evidence.length
  chained : e.evidence.map (·.chain) = rechain procedureChainSeed e.evidence
  chain : e.chain = e.evidence.foldl linkEvidence procedureChainSeed

/-- The evidence tells the state of the engine. -/
structure Documented (e : ProcedureEngine) : Prop extends e.Logged where
  last : e.evidence.getLast?.map (·.state) = some e.state

variable {e : ProcedureEngine} {op : ProcedureOperation} {step : ProcedureStep} {v : StepVisit}

theorem Logged.length_lt (h : e.Logged) : e.evidence.length < 2 ^ 32 := by
  rcases Nat.eq_zero_or_pos e.evidence.length with hzero | hpos
  · rw [hzero]
    decide
  · have hlast := congrArg (·[e.evidence.length - 1]?) h.contiguous
    simp only [List.getElem?_map, List.getElem?_range', Nat.sub_lt hpos Nat.one_pos] at hlast
    obtain ⟨r, -, hr⟩ := Option.map_eq_some_iff.mp hlast
    have hbound := r.sequence.toNat_lt
    omega

section Record

variable (epoch : UInt32) (kind : ProcedureEvidenceKind) (stepId : UInt16) (detail : UInt32)

variable (e) in
/-- A record continues the evidence and the chain. -/
theorem evidence_record : ∃ r : ProcedureEvidence,
    (e.record epoch kind stepId detail).evidence = e.evidence ++ [r]
      ∧ (e.record epoch kind stepId detail).chain = r.chain
      ∧ r.chain = linkEvidence e.chain r
      ∧ r.sequence = UInt32.ofNat e.evidence.length + 1 ∧ r.state = e.state :=
  ⟨_, rfl, rfl, rfl, rfl, rfl⟩

theorem length_record : (e.record epoch kind stepId detail).evidence.length = e.evidence.length + 1 :=
  List.length_append

/-- A record tells the state, as long as there is a number for it. -/
theorem Logged.record (h : e.Logged) (hroom : e.evidence.length + 1 < 2 ^ 32) :
    (e.record epoch kind stepId detail).Documented := by
  obtain ⟨r, hevidence, hchain, hlink, hsequence, hstate⟩ :=
    e.evidence_record epoch kind stepId detail
  have hnumber : r.sequence.toNat = e.evidence.length + 1 := by
    rw [hsequence, UInt32.toNat_add, UInt32.toNat_ofNat', UInt32.toNat_one]
    omega
  constructor
  case last =>
    rw [hevidence, record_state, List.getLast?_concat, Option.map_some, hstate]
  constructor
  · rw [length_record, List.range'_concat, hevidence, List.map_append, h.contiguous,
      List.map_singleton, hnumber, Nat.one_mul, Nat.add_comm]
  · rw [hevidence, List.map_append, rechain_concat, h.chained, ← h.chain, List.map_singleton, hlink]
  · rw [hevidence, List.foldl_concat, ← h.chain, hchain, hlink]

end Record

/-- The notes of an engine whose evidence tells its state. -/
theorem Documented.note (h : e.Documented) (stepId : UInt16) (epoch : UInt32)
    {notes : List (ProcedureEvidenceKind × UInt32)}
    (hroom : e.evidence.length + notes.length < 2 ^ 32) :
    (e.note stepId epoch notes).Documented := by
  induction notes generalizing e with
  | nil => exact h
  | cons entry notes ih =>
      rw [List.length_cons] at hroom
      refine ih (h.toLogged.record epoch entry.1 stepId entry.2 (by omega)) ?_
      rw [length_record]
      omega

/-- Notes are of the state they are taken in. -/
theorem last_note (h : e.evidence.getLast?.map (·.state) = some e.state) (stepId : UInt16)
    (epoch : UInt32) (notes : List (ProcedureEvidenceKind × UInt32)) :
    (e.note stepId epoch notes).evidence.getLast?.map (·.state) = some e.state := by
  induction notes generalizing e with
  | nil => exact h
  | cons entry notes ih =>
      refine ih (e := e.record epoch entry.1 stepId entry.2) ?_
      obtain ⟨r, hevidence, -, -, -, hstate⟩ := e.evidence_record epoch entry.1 stepId entry.2
      rw [hevidence, record_state, List.getLast?_concat, Option.map_some, hstate]

theorem length_note (stepId : UInt16) (epoch : UInt32)
    (notes : List (ProcedureEvidenceKind × UInt32)) :
    (e.note stepId epoch notes).evidence.length = e.evidence.length + notes.length := by
  induction notes generalizing e with
  | nil => rfl
  | cons entry notes ih =>
      refine (ih (e := e.record epoch entry.1 stepId entry.2)).trans ?_
      rw [length_record, List.length_cons]
      omega

/-- After the operation the evidence tells the state, and an end is final. -/
def Tells (e : ProcedureEngine) (op : ProcedureOperation) : Prop :=
  (e.step op).Documented ∧ (e.state ≠ .active → e.step op = e)

/-- The operation ends the procedure in a step only, and its records have numbers. -/
def Closes (e : ProcedureEngine) (op : ProcedureOperation) : Prop :=
  (∀ state, ¬e.DeadEnds op state)
    ∧ ∀ step v, e.visit op = some (step, v) → e.evidence.length + v.records < 2 ^ 32

/-- An operation does nothing after the end. -/
theorem step_of_ended (h : e.state ≠ .active) : e.step op = e :=
  (call_of_no_visit (if_pos (.inl h))).2

/-- The evidence after a visit that does not run into a dead end. -/
theorem documented_pay (hpack : validatePack e.pack = .ok ()) (h : e.Documented)
    (hcurrent : e.current = some step) (hv : e.visitStep step op = some v)
    (hopen : ∀ entry deadEnd, v.exit ≠ .follows 0 entry deadEnd)
    (hroom : e.evidence.length + v.records < 2 ^ 32) : (e.pay step v).2.Documented := by
  obtain ⟨epoch, notes, exit⟩ := v
  have hnotes : e.evidence.length + notes.length < 2 ^ 32 :=
    Nat.lt_of_le_of_lt (Nat.add_le_add_left (Nat.le_add_right ..) _) hroom
  have hnote := h.note step.stepId epoch hnotes
  have hlength := e.length_note step.stepId epoch notes
  have hnoted : (e.note step.stepId epoch notes).pack = e.pack := note_pack ..
  show (leave (e.note step.stepId epoch notes) step.stepId epoch exit).2.Documented
  generalize e.note step.stepId epoch notes = noted at hnote hlength hnoted
  have hroom : noted.evidence.length + exit.records < 2 ^ 32 := by
    rw [hlength, Nat.add_assoc]
    exact hroom
  cases exit with
  | stays => exact hnote
  | ends state => exact Logged.record _ _ _ _ ⟨hnote.1.1, hnote.1.2, hnote.1.3⟩ hroom
  | follows edge entry deadEnd =>
      have hset : edge ≠ 0 := by
        rintro rfl
        exact hopen entry deadEnd rfl
      rw [StepExit.records, if_neg hset] at hroom
      rw [leave_follows_eq (by rwa [hnoted]) (by rw [hnoted]; exact mem_usedSteps_of_current hcurrent)
        (edge_of_visitStep hv rfl).1 hset]
      exact Logged.record _ _ _ _ ⟨hnote.1.1, hnote.1.2, hnote.1.3⟩ hroom

/-- Over a validated pack, a visit leaves its records. -/
theorem length_pay (hpack : validatePack e.pack = .ok ()) (hcurrent : e.current = some step)
    (hv : e.visitStep step op = some v) :
    (e.pay step v).2.evidence.length = e.evidence.length + v.records := by
  obtain ⟨epoch, notes, exit⟩ := v
  have hlength := e.length_note step.stepId epoch notes
  have hnoted : (e.note step.stepId epoch notes).pack = e.pack := note_pack ..
  show (leave (e.note step.stepId epoch notes) step.stepId epoch exit).2.evidence.length =
    e.evidence.length + (notes.length + exit.records)
  rw [← Nat.add_assoc, ← hlength]
  generalize e.note step.stepId epoch notes = noted at hnoted
  cases exit with
  | stays => rfl
  | ends state => exact length_record ..
  | follows edge entry deadEnd =>
      rw [StepExit.records]
      by_cases hset : edge = 0
      · rw [if_pos hset, hset]
        rfl
      · rw [if_neg hset, leave_follows_eq (by rwa [hnoted])
          (by rw [hnoted]; exact mem_usedSteps_of_current hcurrent) (edge_of_visitStep hv rfl).1 hset]
        exact length_record ..

/-- The evidence after a visit that runs into a dead end. -/
theorem not_documented_pay {epoch : UInt32} {notes : List (ProcedureEvidenceKind × UInt32)}
    {entry : ProcedureEvidenceKind} {deadEnd : ProcedureState} (h : e.Documented)
    (hstate : e.state = .active) (hend : deadEnd ≠ .active) :
    ¬(e.pay step ⟨epoch, notes, .follows 0 entry deadEnd⟩).2.Documented := by
  have hlast := last_note h.last step.stepId epoch notes
  intro hd
  exact hend ((Option.some.inj (hd.last.symm.trans hlast)).trans hstate)

/-- When a visit ends the procedure in a step only. -/
theorem closes_iff (h : e.visit op = some (step, v)) :
    e.Closes op ↔ (∀ entry deadEnd, v.exit ≠ .follows 0 entry deadEnd)
      ∧ e.evidence.length + v.records < 2 ^ 32 := by
  unfold Closes DeadEnds
  rw [h]
  constructor
  · rintro ⟨hopen, hroom⟩
    refine ⟨fun entry deadEnd hexit ↦ ?_, hroom _ _ rfl⟩
    exact hopen deadEnd ⟨step, v.epoch, v.notes, entry, by rw [← hexit]⟩
  · rintro ⟨hopen, hroom⟩
    constructor
    · rintro deadEnd ⟨_, epoch, notes, entry, heq⟩
      cases heq
      exact hopen entry deadEnd rfl
    · rintro _ _ ⟨⟩
      exact hroom

/-- Where the evidence tells the state, an operation over a validated pack keeps it so exactly
if it does not run into a dead end and finds numbers for its records. -/
theorem tells_iff (hpack : validatePack e.pack = .ok ()) (h : e.Documented) :
    e.Tells op ↔ e.Closes op := by
  cases hvisit : e.visit op with
  | none =>
      have hstep : e.step op = e := (call_of_no_visit hvisit).2
      refine iff_of_true ⟨by rwa [hstep], fun _ ↦ hstep⟩ ⟨?_, ?_⟩
      · rintro state ⟨step, epoch, notes, entry, heq⟩
        cases hvisit.symm.trans heq
      · rintro step v heq
        cases hvisit.symm.trans heq
  | some paid =>
      obtain ⟨step, v⟩ := paid
      obtain ⟨hcall, hstate, hcurrent, hv⟩ := call_of_visit hvisit
      have hstep : e.step op = (e.pay step v).2 := congrArg Prod.snd hcall
      rw [closes_iff hvisit]
      constructor
      · rintro ⟨hd, -⟩
        rw [hstep] at hd
        constructor
        · rintro entry deadEnd hexit
          obtain ⟨epoch, notes, exit⟩ := v
          cases hexit
          exact not_documented_pay h hstate (edge_of_visitStep hv rfl).2 hd
        · rw [← length_pay hpack hcurrent hv]
          exact hd.length_lt
      · rintro ⟨hopen, hroom⟩
        refine ⟨?_, fun hend ↦ absurd hstate hend⟩
        rw [hstep]
        exact documented_pay hpack h hcurrent hv hopen hroom

/-- **The evidence of a run**: for every run of an engine over a validated pack, the evidence
tells the state after every operation, and an end is final, if and only if no operation follows
an edge that is not set and fewer than 2^32 records are made. -/
theorem tells_run_iff {pack : ProcedurePack} {epoch : UInt32} (h : new pack epoch = .ok e)
    (ops : List ProcedureOperation) :
    e.Documented ∧ (Meets ProcedureEngine.step Tells e ops ↔
      Meets ProcedureEngine.step Closes e ops) := by
  obtain ⟨hpack, he⟩ := validatePack_of_new h
  have hdocumented : e.Documented := by
    rw [he]
    exact Logged.record _ _ _ _ ⟨rfl, rfl, rfl⟩ (by simp)
  refine ⟨hdocumented, ?_⟩
  refine meets_iff_of_invariant (fun s ↦ validatePack s.pack = .ok () ∧ s.Documented) ?_ ?_ ?_ ops
  · rintro s op ⟨hs, hd⟩ hcloses
    exact ⟨by rwa [step_pack], ((tells_iff hs hd).mpr hcloses).1⟩
  · rintro s op ⟨hs, hd⟩
    exact tells_iff hs hd
  · rw [he] at hdocumented ⊢
    exact ⟨hpack, hdocumented⟩

end ProcedureEngine

/-- The GNSS-loss pack, entered and timed out. -/
theorem tells_run_iff_gnssLoss : ∃ e, ProcedureEngine.new (gnssLossProcedurePack 1) 100 = .ok e
    ∧ Meets ProcedureEngine.step ProcedureEngine.Tells e [.expireAt 101] := by
  have hnew : ProcedureEngine.new (gnssLossProcedurePack 1) 100 = .ok _ := rfl
  refine ⟨_, hnew, (ProcedureEngine.tells_run_iff hnew _).2.mpr ⟨?_, trivial⟩⟩
  exact (ProcedureEngine.closes_iff rfl).mpr
    ⟨fun _ _ h ↦ absurd (StepExit.follows.inj h).1 (by decide), by decide⟩

/-- An override leaves a record of the state that it ends. -/
theorem override_not_documented :
    ¬∀ (pack : ProcedurePack) (epoch : UInt32) (e : ProcedureEngine) (ops : List ProcedureOperation),
      ProcedureEngine.new pack epoch = .ok e → (run ProcedureEngine.step e ops).Documented := by
  intro h
  have hlast := (h (gnssLossProcedurePack 1) 100 _ [.overrideStep .flightController 101 false] rfl).last
  revert hlast
  decide

end Ksa64.Session
