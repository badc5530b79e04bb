import Ksa64.Interface.Procedure
import Ksa64.Sim.Ground

/-!
# Procedures, roles and operational metrics

`ProcedureEngine` walks an operator through a procedure pack.  A call that fails may have
changed the engine before it failed, so every call returns its result next to the engine
it leaves.
-/

namespace Ksa64.Session

open Ksa64.Library Ksa64.Interface Ksa64.Sim

/-! ## Metrics -/

def phase11OperationalMetricCatalogId : UInt32 := 0x11c22001
def metricGnssValid : UInt16 := 1
def metricInertialHealthy : UInt16 := 2
def metricOnboardGroundPositionResidualQ12 : UInt16 := 3
def operationalMetricCapacity : Nat := 32

structure OperationalMetricSnapshot where
  epoch : UInt32
  values : Vector Int32 operationalMetricCapacity
  valid : UInt32
deriving DecidableEq

/-- Metrics are numbered from 1. -/
def metricIndex (metricId : UInt16) : Option (Fin operationalMetricCapacity) :=
  if h : 1 ≤ metricId.toNat ∧ metricId.toNat - 1 < operationalMetricCapacity then
    some ⟨metricId.toNat - 1, h.2⟩
  else none

namespace OperationalMetricSnapshot

def new (epoch : UInt32) : OperationalMetricSnapshot where
  epoch := epoch
  values := Vector.replicate operationalMetricCapacity 0
  valid := 0

def set (s : OperationalMetricSnapshot) (metricId : UInt16) (value : Int32) :
    Bool × OperationalMetricSnapshot :=
  match metricIndex metricId with
  | none => (false, s)
  | some index =>
      (true, { s with
        values := s.values.set index value
        valid := s.valid ||| (1 <<< UInt32.ofNat index) })

def get (s : OperationalMetricSnapshot) (metricId : UInt16) : Option Int32 :=
  match metricIndex metricId with
  | none => none
  | some index =>
      if s.valid &&& (1 <<< UInt32.ofNat index) ≠ 0 then some (s.values.get index) else none

end OperationalMetricSnapshot

/-! ## Roles -/

def roleCanAct : OperationalRole → Bool
  | .guidedOperator | .flightController | .simDirector | .scriptedOperator => true
  | .observer | .flightSoftwareEngineer => false

/-! ## The engine -/

inductive ProcedureState where
  | active
  | completed
  | skipped
  | failed
  | mistimed
  | manuallyOverridden
deriving DecidableEq, Repr

/-- The value of a procedure state in the evidence chain. -/
def ProcedureState.code : ProcedureState → UInt32
  | .active => 0
  | .completed => 1
  | .skipped => 2
  | .failed => 3
  | .mistimed => 4
  | .manuallyOverridden => 5

inductive ProcedureEvidenceKind where
  | enter
  | complete
  | timeout
  | acknowledge
  | branch
  | action
  | hint
  | manualOverride
deriving DecidableEq, Repr

/-- The value of a kind of evidence in the evidence chain. -/
def ProcedureEvidenceKind.code : ProcedureEvidenceKind → UInt32
  | .enter => 0
  | .complete => 1
  | .timeout => 2
  | .acknowledge => 3
  | .branch => 4
  | .action => 5
  | .hint => 6
  | .manualOverride => 7

structure ProcedureEvidence where
  sequence : UInt32
  epoch : UInt32
  stepId : UInt16
  kind : ProcedureEvidenceKind
  state : ProcedureState
  detail : UInt32
  chain : UInt32
deriving DecidableEq

structure ProcedureActionRequest where
  stepId : UInt16
  action : UplinkLoadType
  arguments : Vector Int32 2
deriving DecidableEq

inductive ProcedureError where
  | identity
  | graph
  | permission
  | state
  | step
deriving DecidableEq, Repr

structure ProcedureEngine where
  pack : ProcedurePack
  state : ProcedureState
  currentStep : UInt16
  enteredEpoch : UInt32
  evidence : List ProcedureEvidence
  chain : UInt32
deriving DecidableEq

/-- The steps in use. -/
def usedSteps (pack : ProcedurePack) : List ProcedureStep :=
  pack.steps.toList.take pack.stepCount.toNat

def findStep (pack : ProcedurePack) (id : UInt16) : Option ProcedureStep :=
  (usedSteps pack).find? fun step ↦ step.stepId == id

/-- A step that is numbered 0 or like a step before it, leads nowhere, or requests no
action where it should. -/
def stepBroken (pack : ProcedurePack) (index : Nat) (step : ProcedureStep) : Bool :=
  step.stepId == 0
    || ((usedSteps pack).take index).any (fun prior ↦ prior.stepId == step.stepId)
    || step.nextComplete != 0 && (findStep pack step.nextComplete).isNone
    || step.nextFailure != 0 && (findStep pack step.nextFailure).isNone
    || step.kind == .requestAction && step.action.isNone

def validatePack (pack : ProcedurePack) : Except ProcedureError Unit :=
  if pack.metricCatalogIdentity ≠ phase11OperationalMetricCatalogId
      ∨ pack.stepCount = 0
      ∨ kpc11MaxSteps < pack.stepCount.toNat
      ∨ (findStep pack pack.entryStep).isNone then .error .identity
  else if (usedSteps pack).zipIdx.any (fun entry ↦ stepBroken pack entry.2 entry.1) then
    .error .graph
  else .ok ()

def predicateSatisfied (predicate : ProcedurePredicate) (snapshot : OperationalMetricSnapshot) :
    Bool :=
  match snapshot.get predicate.metricId with
  | none => predicate.flags &&& 1 != 0
  | some value =>
      match predicate.comparison with
      | .equal => value == predicate.threshold
      | .notEqual => value != predicate.threshold
      | .less => value < predicate.threshold
      | .lessOrEqual => value ≤ predicate.threshold
      | .greater => predicate.threshold < value
      | .greaterOrEqual => predicate.threshold ≤ value
      | .bitSet => value &&& predicate.threshold == predicate.threshold
      | .bitClear => value &&& predicate.threshold == 0

def predicatesSatisfied (step : ProcedureStep) (snapshot : OperationalMetricSnapshot) : Bool :=
  (step.predicates.toList.take step.predicateCount.toNat).all
    fun predicate ↦ predicateSatisfied predicate snapshot

namespace ProcedureEngine

/-- What a fallible call returns, and the engine it leaves. -/
abbrev Outcome (α : Type) := Except ProcedureError α × ProcedureEngine

/-- Append to the evidence and chain it. -/
def record (e : ProcedureEngine) (epoch : UInt32) (kind : ProcedureEvidenceKind)
    (stepId : UInt16) (detail : UInt32) : ProcedureEngine :=
  let sequence := UInt32.ofNat e.evidence.length + 1
  let chain := hashWords
    [e.chain, sequence, epoch, stepId.toUInt32, kind.code, e.state.code, detail]
  { e with
    chain := chain
    evidence := e.evidence ++ [{
      sequence := sequence
      epoch := epoch
      stepId := stepId
      kind := kind
      state := e.state
      detail := detail
      chain := chain }] }

def new (pack : ProcedurePack) (epoch : UInt32) : Except ProcedureError ProcedureEngine := do
  validatePack pack
  let engine : ProcedureEngine := {
    pack := pack
    state := .active
    currentStep := pack.entryStep
    enteredEpoch := epoch
    evidence := []
    chain := 0x811c9dc5 }
  pure (engine.record epoch .enter pack.entryStep 0)

def current (e : ProcedureEngine) : Option ProcedureStep := findStep e.pack e.currentStep

def requestedAction (e : ProcedureEngine) : Option ProcedureActionRequest := do
  let step ← e.current
  if e.state ≠ .active ∨ step.kind ≠ .requestAction then none
  else
    let action ← step.action
    some ⟨step.stepId, action, step.actionArguments⟩

def transition (e : ProcedureEngine) (epoch : UInt32) (destination : UInt16)
    (kind : ProcedureEvidenceKind) : Outcome Unit :=
  if destination = 0 ∨ (findStep e.pack destination).isNone then
    (.error .graph, { e with state := .failed })
  else
    (.ok (), { e with currentStep := destination, enteredEpoch := epoch }.record epoch kind
      destination 0)

def completeStep (e : ProcedureEngine) (epoch : UInt32) (step : ProcedureStep) : Outcome Unit :=
  (e.record epoch .complete step.stepId 0).transition epoch step.nextComplete .enter

/-- Leave a step whose time is up through its failure edge. -/
def timeOut (e : ProcedureEngine) (epoch : UInt32) (step : ProcedureStep) (detail : UInt32) :
    Outcome Unit :=
  let e := e.record epoch .timeout step.stepId detail
  if step.nextFailure = 0 then (.ok (), { e with state := .mistimed })
  else e.transition epoch step.nextFailure .branch

/-- End the procedure at the step. -/
def terminate (e : ProcedureEngine) (epoch : UInt32) (step : ProcedureStep)
    (state : ProcedureState) : Outcome Unit :=
  (.ok (), { e with state := state }.record epoch .complete step.stepId 0)

def tick (e : ProcedureEngine) (snapshot : OperationalMetricSnapshot) : Outcome Unit :=
  if e.state ≠ .active then (.ok (), e)
  else match e.current with
  | none => (.error .step, e)
  | some step =>
      if step.timeoutEpochs ≠ 0
          ∧ addSat32 e.enteredEpoch step.timeoutEpochs < snapshot.epoch then
        e.timeOut snapshot.epoch step step.timeoutEpochs
      else match step.kind with
      | .observe | .verify | .wait =>
          if predicatesSatisfied step snapshot then e.completeStep snapshot.epoch step
          else (.ok (), e)
      | .branch =>
          e.transition snapshot.epoch
            (if predicatesSatisfied step snapshot then step.nextComplete else step.nextFailure)
            .branch
      | .complete => e.terminate snapshot.epoch step .completed
      | .skip => e.terminate snapshot.epoch step .skipped
      | .fail => e.terminate snapshot.epoch step .failed
      | .acknowledge | .requestAction | .caution | .warning => (.ok (), e)

/-- Force the active step through its timeout edge at an external deadline. -/
def expireAt (e : ProcedureEngine) (epoch : UInt32) : Outcome Unit :=
  if e.state ≠ .active then (.ok (), e)
  else match e.current with
  | none => (.error .step, e)
  | some step => e.timeOut epoch step 0

def acknowledge (e : ProcedureEngine) (role : OperationalRole) (epoch : UInt32) :
    Outcome Unit :=
  if !roleCanAct role || e.state != .active then (.error .permission, e)
  else match e.current with
  | none => (.error .step, e)
  | some step =>
      if step.kind ≠ .acknowledge ∧ step.kind ≠ .caution ∧ step.kind ≠ .warning then
        (.error .state, e)
      else (e.record epoch .acknowledge step.stepId 0).completeStep epoch step

def acceptAction (e : ProcedureEngine) (role : OperationalRole) (epoch : UInt32)
    (action : UplinkLoadType) (accepted : Bool) : Outcome Unit :=
  if !roleCanAct role || e.state != .active then (.error .permission, e)
  else match e.current with
  | none => (.error .step, e)
  | some step =>
      if step.kind ≠ .requestAction ∨ step.action ≠ some action then (.error .state, e)
      else
        (e.record epoch .action step.stepId (if accepted then 1 else 0)).transition epoch
          (if accepted then step.nextComplete else step.nextFailure) .branch

def useHint (e : ProcedureEngine) (role : OperationalRole) (epoch : UInt32) :
    Outcome UInt16 :=
  if role ≠ .guidedOperator ∨ e.state ≠ .active then (.error .permission, e)
  else match e.current with
  | none => (.error .step, e)
  | some step =>
      if step.hintIdentity = 0 then (.error .state, e)
      else
        (.ok step.hintIdentity, e.record epoch .hint step.stepId step.hintIdentity.toUInt32)

def overrideStep (e : ProcedureEngine) (role : OperationalRole) (epoch : UInt32)
    (complete : Bool) : Outcome Unit :=
  if (role ≠ .flightController ∧ role ≠ .simDirector) ∨ e.state ≠ .active then
    (.error .permission, e)
  else match e.current with
  | none => (.error .step, e)
  | some step =>
      let e := e.record epoch .manualOverride step.stepId (if complete then 1 else 0)
      if complete ∧ step.nextComplete ≠ 0 then e.transition epoch step.nextComplete .branch
      else (.ok (), { e with state := .manuallyOverridden })

end ProcedureEngine

/-! ## The GNSS-loss procedure -/

/-- A step with one predicate. -/
def procedureStep (id : UInt16) (kind : ProcedureStepKind) (nextComplete nextFailure : UInt16)
    (metricId : UInt16) (comparison : ProcedureComparison) (threshold : Int32) :
    ProcedureStep :=
  { ProcedureStep.empty with
    stepId := id
    kind := kind
    nextComplete := nextComplete
    nextFailure := nextFailure
    timeoutEpochs := 320
    predicateCount := 1
    hintIdentity := id
    messageIdentity := 0x11000000 ||| id.toUInt32
    predicates := #v[⟨metricId, comparison, 0, threshold⟩, .empty, .empty, .empty] }

def actionStep (id : UInt16) (action : UplinkLoadType) (nextComplete nextFailure : UInt16)
    (arguments : Vector Int32 2) : ProcedureStep :=
  { ProcedureStep.empty with
    stepId := id
    kind := .requestAction
    nextComplete := nextComplete
    nextFailure := nextFailure
    timeoutEpochs := 320
    action := some action
    hintIdentity := id
    messageIdentity := 0x11000000 ||| id.toUInt32
    actionArguments := arguments }

def terminalStep (id : UInt16) (kind : ProcedureStepKind) : ProcedureStep :=
  { ProcedureStep.empty with
    stepId := id
    kind := kind
    messageIdentity := 0x11000000 ||| id.toUInt32 }

/-- The seven steps: three checks, two requests, and the two ends. -/
def gnssLossSteps : List ProcedureStep :=
  [procedureStep 1 .verify 2 7 metricGnssValid .equal 0,
    procedureStep 2 .verify 3 7 metricInertialHealthy .equal 1,
    procedureStep 3 .verify 4 7 metricOnboardGroundPositionResidualQ12 .lessOrEqual 2048,
    actionStep 4 .groundNavigationUpdate 5 7 (.replicate 2 0),
    actionStep 5 .contingencyBranch 6 7 (Pair.of 1 0),
    terminalStep 6 .complete,
    terminalStep 7 .fail]

def gnssLossProcedurePack (planIdentity : UInt32) : ProcedurePack where
  packIdentity := 0x11c20001
  planIdentity := planIdentity
  procedureIdentity := 0x11c21001
  metricCatalogIdentity := phase11OperationalMetricCatalogId
  nameIdentity := 0x11c23001
  stepCount := 7
  entryStep := 1
  flags := 0
  steps := Vector.ofFn fun index ↦ gnssLossSteps.getD index .empty

/-! ## What the calls of the engine do -/

namespace ProcedureEngine

section Frame

variable (e : ProcedureEngine) (epoch : UInt32) (kind : ProcedureEvidenceKind) (stepId : UInt16)
  (detail : UInt32)

@[simp] theorem record_pack : (e.record epoch kind stepId detail).pack = e.pack := rfl

@[simp] theorem record_state : (e.record epoch kind stepId detail).state = e.state := rfl

@[simp] theorem record_currentStep :
    (e.record epoch kind stepId detail).currentStep = e.currentStep := rfl

@[simp] theorem record_enteredEpoch :
    (e.record epoch kind stepId detail).enteredEpoch = e.enteredEpoch := rfl

end Frame

variable {e : ProcedureEngine} {epoch : UInt32} {role : OperationalRole}
  {action : UplinkLoadType} {step : ProcedureStep}

/-- The engine as it stands in a step, evidence aside. -/
structure At (e : ProcedureEngine) (pack : ProcedurePack) (state : ProcedureState)
    (currentStep : UInt16) (enteredEpoch : UInt32) : Prop where
  pack_eq : e.pack = pack
  state_eq : e.state = state
  currentStep_eq : e.currentStep = currentStep
  enteredEpoch_eq : e.enteredEpoch = enteredEpoch

variable (epoch) in
/-- A transition to a step of the pack enters it. -/
theorem transition_at {destination : UInt16} (kind : ProcedureEvidenceKind)
    (hzero : destination ≠ 0) (hfound : (findStep e.pack destination).isSome) :
    (e.transition epoch destination kind).1 = .ok ()
      ∧ (e.transition epoch destination kind).2.At e.pack e.state destination epoch := by
  unfold transition
  rw [if_neg (not_or.mpr ⟨hzero, by simp [Option.isSome_iff_ne_none.mp hfound]⟩)]
  exact ⟨rfl, rfl, rfl, rfl, rfl⟩

/-- A transition leaves the pack alone. -/
theorem transition_pack (destination : UInt16) (kind : ProcedureEvidenceKind) :
    (e.transition epoch destination kind).2.pack = e.pack := by
  unfold transition
  split <;> rfl

theorem completeStep_pack (step : ProcedureStep) :
    (e.completeStep epoch step).2.pack = e.pack := transition_pack ..

theorem timeOut_pack (step : ProcedureStep) (detail : UInt32) :
    (e.timeOut epoch step detail).2.pack = e.pack := by
  unfold timeOut
  dsimp only
  split
  · rfl
  · exact transition_pack ..

/-- A tick leaves the pack alone. -/
theorem tick_pack (snapshot : OperationalMetricSnapshot) : (e.tick snapshot).2.pack = e.pack := by
  unfold tick
  split
  · rfl
  · split
    · rfl
    · split
      · exact timeOut_pack ..
      · split
        case h_1 | h_2 | h_3 =>
          split
          · exact completeStep_pack ..
          · rfl
        case h_4 => exact transition_pack ..
        all_goals rfl

/-- Accepting an action leaves the pack alone. -/
theorem acceptAction_pack (accepted : Bool) :
    (e.acceptAction role epoch action accepted).2.pack = e.pack := by
  unfold acceptAction
  split
  · rfl
  · split
    · rfl
    · split
      · rfl
      · exact transition_pack ..

/-- What the engine requests, taken apart. -/
theorem requestedAction_eq_some {request : ProcedureActionRequest} :
    e.requestedAction = some request ↔
      ∃ step, e.current = some step ∧ e.state = .active ∧ step.kind = .requestAction
        ∧ step.action = some request.action
        ∧ request = ⟨step.stepId, request.action, step.actionArguments⟩ := by
  unfold requestedAction
  constructor
  · intro h
    obtain ⟨step, hstep, h⟩ := Option.bind_eq_some_iff.mp h
    split at h
    · cases h
    · rename_i hkind
      obtain ⟨hstate, hkind⟩ := not_or.mp hkind
      obtain ⟨action, haction, h⟩ := Option.bind_eq_some_iff.mp h
      cases h
      exact ⟨step, hstep, not_not.mp hstate, not_not.mp hkind, haction, rfl⟩
  · rintro ⟨step, hstep, hstate, hkind, haction, hrequest⟩
    refine Option.bind_eq_some_iff.mpr ⟨step, hstep, ?_⟩
    rw [if_neg (not_or.mpr ⟨not_not.mpr hstate, not_not.mpr hkind⟩)]
    exact Option.bind_eq_some_iff.mpr ⟨request.action, haction, congrArg some hrequest.symm⟩

/-- The role may act, and the active step requests this action. -/
def Accepts (e : ProcedureEngine) (role : OperationalRole) (action : UplinkLoadType) : Prop :=
  roleCanAct role = true ∧ e.requestedAction.map (·.action) = some action

instance (e : ProcedureEngine) (role : OperationalRole) (action : UplinkLoadType) :
    Decidable (e.Accepts role action) := inferInstanceAs (Decidable (_ ∧ _))

theorem accepts_iff : e.Accepts role action ↔ roleCanAct role = true ∧ e.state = .active
    ∧ ∃ step, e.current = some step ∧ step.kind = .requestAction
      ∧ step.action = some action := by
  unfold Accepts
  refine and_congr_right fun _ ↦ ?_
  rw [Option.map_eq_some_iff]
  constructor
  · rintro ⟨request, hrequest, rfl⟩
    obtain ⟨step, hstep, hstate, hkind, haction, -⟩ := requestedAction_eq_some.mp hrequest
    exact ⟨hstate, step, hstep, hkind, haction⟩
  · rintro ⟨hstate, step, hstep, hkind, haction⟩
    exact ⟨⟨step.stepId, action, step.actionArguments⟩,
      requestedAction_eq_some.mpr ⟨step, hstep, hstate, hkind, haction, rfl⟩, rfl⟩

variable (epoch) in
/-- An accepted action follows the completion edge of the step. -/
theorem acceptAction_of_accepts (h : e.Accepts role action) (hstep : e.current = some step)
    (hzero : step.nextComplete ≠ 0) (hfound : (findStep e.pack step.nextComplete).isSome) :
    (e.acceptAction role epoch action true).1 = .ok ()
      ∧ (e.acceptAction role epoch action true).2.At e.pack .active step.nextComplete epoch := by
  obtain ⟨hrole, hstate, step', hstep', hkind, haction⟩ := accepts_iff.mp h
  obtain rfl : step = step' := Option.some.inj (hstep.symm.trans hstep')
  unfold acceptAction
  rw [if_neg (by simp [hrole, hstate]), hstep]
  dsimp only
  rw [if_neg (not_or.mpr ⟨not_not.mpr hkind, not_not.mpr haction⟩), if_pos rfl, ← hstate]
  exact transition_at (e := e.record epoch .action step.stepId 1) epoch .branch hzero hfound

variable (epoch) in
/-- An action that is not accepted changes nothing. -/
theorem acceptAction_of_not_accepts (h : ¬e.Accepts role action) :
    (∃ error, (e.acceptAction role epoch action true).1 = .error error)
      ∧ (e.acceptAction role epoch action true).2 = e := by
  unfold acceptAction
  split
  · exact ⟨⟨_, rfl⟩, rfl⟩
  · rename_i hpermitted
    split
    · exact ⟨⟨_, rfl⟩, rfl⟩
    · rename_i step hstep
      split
      · exact ⟨⟨_, rfl⟩, rfl⟩
      · rename_i hkind
        obtain ⟨hkind, haction⟩ := not_or.mp hkind
        refine absurd (accepts_iff.mpr ⟨?_, ?_, step, hstep, not_not.mp hkind,
          not_not.mp haction⟩) h <;> simp_all

end ProcedureEngine

/-! ### The GNSS-loss pack -/

section GnssLoss

variable (planIdentity : UInt32)

theorem usedSteps_gnssLoss : usedSteps (gnssLossProcedurePack planIdentity) = gnssLossSteps := rfl

theorem findStep_gnssLoss (id : UInt16) :
    findStep (gnssLossProcedurePack planIdentity) id =
      gnssLossSteps.find? fun step ↦ step.stepId == id := rfl

/-- Every step of the pack that requests an action leads on to a step. -/
theorem gnssLoss_leadsOn {id : UInt16} {step : ProcedureStep}
    (hstep : findStep (gnssLossProcedurePack planIdentity) id = some step)
    (hkind : step.kind = .requestAction) :
    step.nextComplete ≠ 0
      ∧ (findStep (gnssLossProcedurePack planIdentity) step.nextComplete).isSome := by
  have hmem : step ∈ gnssLossSteps := List.mem_of_find?_eq_some hstep
  have hall : ∀ step ∈ gnssLossSteps, step.kind = .requestAction →
      step.nextComplete ≠ 0
        ∧ (gnssLossSteps.find? fun other ↦ other.stepId == step.nextComplete).isSome := by
    decide
  exact hall step hmem hkind

end GnssLoss

end Ksa64.Session
