import Ksa64.Session.LiveRun

/-!
# The course of the GNSS-loss procedure

Once its first release has passed the three checks, the procedure waits for two answers,
each with a timeout of its own, and ends.  `LossPhase` is that course, and the lemmas say
that the engine follows it: tick by tick (`Stands.tick`) and answer by answer
(`Stands.accept`).
-/

namespace Ksa64.Session

open Ksa64.Library Ksa64.Interface Ksa64.Sim Ksa64.Flight

/-! ## What the checks see -/

/-- The three metrics of a snapshot. -/
theorem operationalSnapshot_get (epoch : UInt32) (flight : GlobalFlightEvidence)
    (position : Vector Int32 3) :
    (operationalSnapshot epoch flight position).get metricGnssValid = some 0
      ∧ (operationalSnapshot epoch flight position).get metricInertialHealthy = some 1
      ∧ (operationalSnapshot epoch flight position).get metricOnboardGroundPositionResidualQ12 =
        some (positionResidual flight.navigation.positionQ12 position) := by
  unfold operationalSnapshot
  generalize positionResidual flight.navigation.positionQ12 position = residual
  refine ⟨?_, ?_, ?_⟩ <;>
    simp [OperationalMetricSnapshot.get, OperationalMetricSnapshot.set, metricIndex,
      metricOnboardGroundPositionResidualQ12, metricInertialHealthy, metricGnssValid,
      OperationalMetricSnapshot.new, operationalMetricCapacity] <;>
    exact ⟨by decide, rfl⟩

/-- The first observation, taken without delay, is the first estimate. -/
theorem first_estimate (sample : GroundTruthSample) (seed : UInt32) (hepoch : sample.epoch = 0) :
    ∃ ground, (GroundEstimator.new.update (synthesizeGroundObservation sample 0 seed) 0).1 =
        some ground
      ∧ ground.positionQ12Km = addNoise sample.positionQ12Km seed 0 8 := by
  unfold GroundEstimator.update
  rw [if_neg]
  · exact ⟨_, rfl, by rw [← hepoch]; rfl⟩
  · unfold synthesizeGroundObservation
    dsimp only
    rw [hepoch]
    decide

/-- The noise of the first observation is small on every axis. -/
theorem firstNoise_le : ∀ axis < 3,
    (keyedNoise 0x4b534111 0 (UInt32.ofNat axis) 8).toInt.natAbs ≤ 8 := by decide

/-- Adding with saturation moves a component at most by what is added. -/
theorem componentDistance_addSatI32 (v n : Int32) :
    (componentDistance v (addSatI32 v n)).toNat ≤ n.toInt.natAbs := by
  have hv := v.toInt_lt
  have hv' := v.le_toInt
  have hn := n.toInt_lt
  have hn' := n.le_toInt
  have hsum := toInt_addSatI32 v n
  unfold componentDistance unsignedAbs64
  rw [UInt64.toNat_ofNat', Int64.toInt_sub, Int32.toInt_toInt64, Int32.toInt_toInt64,
    Int.bmod_eq_of_le (by omega) (by omega), hsum]
  refine (Nat.mod_le _ _).trans ?_
  omega

/-- The largest of some values stays within their bound. -/
theorem foldl_max_le {bound : UInt64} (values : List UInt64) (start : UInt64)
    (hstart : start ≤ bound) (h : ∀ value ∈ values, value ≤ bound) :
    values.foldl max start ≤ bound := by
  induction values generalizing start with
  | nil => exact hstart
  | cons value values ih =>
      refine ih _ ?_ fun other hother ↦ h other (List.mem_cons_of_mem _ hother)
      change (if start ≤ value then value else start) ≤ bound
      split
      · exact h value (List.mem_cons_self ..)
      · exact hstart

/-- The first ground estimate is within the residual that the procedure allows. -/
theorem positionResidual_addNoise (position : Vector Int32 3) :
    positionResidual position (addNoise position 0x4b534111 0 8) ≤ 2048 := by
  have hle : (Vector.zipWith componentDistance position
      (addNoise position 0x4b534111 0 8)).toList.foldl max 0 ≤ 8 := by
    refine foldl_max_le _ 0 (by decide) fun value hvalue ↦ ?_
    obtain ⟨axis, haxis, rfl⟩ := Vector.mem_iff_getElem.mp (Vector.mem_toList_iff.mp hvalue)
    rw [Vector.getElem_zipWith, addNoise, Vector.getElem_mapFinIdx, UInt64.le_iff_toNat_le]
    exact (componentDistance_addSatI32 _ _).trans (firstNoise_le axis haxis)
  unfold positionResidual
  dsimp only
  generalize (Vector.zipWith componentDistance position
    (addNoise position 0x4b534111 0 8)).toList.foldl max 0 = largest at hle
  have hsmall : ∀ n < 9, (min (UInt64.ofNat n) 2147483647).toUInt32.toInt32 ≤ 2048 := by decide
  have hlargest := hsmall largest.toNat (Nat.lt_succ_of_le (UInt64.le_iff_toNat_le.mp hle))
  rwa [UInt64.ofNat_toNat] at hlargest

/-! ## The phases -/

/-- Where the GNSS-loss procedure stands. -/
inductive LossPhase where
  /-- before the first release -/
  | checking
  /-- step 4, since an epoch -/
  | awaitingUpdate (entered : UInt32)
  /-- step 5, since an epoch -/
  | awaitingBranch (entered : UInt32)
  /-- step 6, active -/
  | recovering
  /-- step 7, active -/
  | failing
  | ended
deriving DecidableEq

namespace LossPhase

/-- The action the procedure waits for. -/
def requests : LossPhase → Option UplinkLoadType
  | .awaitingUpdate _ => some .groundNavigationUpdate
  | .awaitingBranch _ => some .contingencyBranch
  | .checking | .recovering | .failing | .ended => none

/-- A tick at the epoch. -/
def tick (epoch : UInt32) : LossPhase → LossPhase
  | .checking => .checking
  | .awaitingUpdate entered =>
      if addSat32 entered 320 < epoch then .failing else .awaitingUpdate entered
  | .awaitingBranch entered =>
      if addSat32 entered 320 < epoch then .failing else .awaitingBranch entered
  | .recovering | .failing | .ended => .ended

/-- The requested action is accepted at the epoch. -/
def accept (epoch : UInt32) : LossPhase → LossPhase
  | .awaitingUpdate _ => .awaitingBranch epoch
  | .awaitingBranch _ => .recovering
  | phase => phase

/-- A release that makes it `releases` of them: the first does the checks, and from the
ninth on there is a tick. -/
def release (releases : UInt32) : LossPhase → LossPhase
  | .checking => .awaitingUpdate 0
  | phase => if 9 ≤ releases then phase.tick releases else phase

/-- After a release the checks are done. -/
theorem release_ne_checking (phase : LossPhase) (releases : UInt32) :
    phase.release releases ≠ .checking := by
  cases phase <;> grind [release, tick]

/-- An answer neither starts the checks nor ends them. -/
theorem accept_eq_checking_iff (phase : LossPhase) (epoch : UInt32) :
    phase.accept epoch = .checking ↔ phase = .checking := by
  cases phase <;> simp [accept]

/-- A phase that requests something has not ended, and an answer does not end it. -/
theorem not_ended_of_requests {phase : LossPhase} {action : UplinkLoadType} (epoch : UInt32)
    (h : phase.requests = some action) : phase ≠ .ended ∧ phase.accept epoch ≠ .ended := by
  cases phase <;> grind [requests, accept]

/-- Once the checks are done, a release before the ninth only counts. -/
theorem release_of_lt {phase : LossPhase} {releases : UInt32} (h : ¬9 ≤ releases) :
    phase.release releases = if phase = .checking then .awaitingUpdate 0 else phase := by
  cases phase <;> grind [release]

/-- The ninth release and those after it tick. -/
theorem release_of_le {phase : LossPhase} {releases : UInt32} (hphase : phase ≠ .checking)
    (h : 9 ≤ releases) : phase.release releases = phase.tick releases := by
  cases phase <;> grind [release]

end LossPhase

/-- The pack of the live session. -/
def livePack : ProcedurePack :=
  gnssLossProcedurePack ksaG10rReferenceMissionPlan.planIdentity

namespace ProcedureEngine

/-- The engine runs the pack of the live session and is in the phase. -/
def Stands (e : ProcedureEngine) : LossPhase → Prop
  | .checking => e.At livePack .active 1 0
  | .awaitingUpdate entered => e.At livePack .active 4 entered
  | .awaitingBranch entered => e.At livePack .active 5 entered
  | .recovering => ∃ entered, e.At livePack .active 6 entered
  | .failing => ∃ entered, e.At livePack .active 7 entered
  | .ended => ∃ state step entered, e.At livePack state step entered
      ∧ (state = .completed ∨ state = .failed)

variable {e : ProcedureEngine} {state : ProcedureState} {currentStep : UInt16}
  {entered : UInt32} {step : ProcedureStep}

/-- The step the engine is at. -/
theorem At.current (h : e.At livePack state currentStep entered)
    (hstep : gnssLossSteps.find? (fun step ↦ step.stepId == currentStep) = some step) :
    e.current = some step := by
  unfold ProcedureEngine.current
  rw [h.pack_eq, h.currentStep_eq]
  exact hstep

/-- A recorded engine stands where it stood. -/
theorem At.record (h : e.At livePack state currentStep entered) (epoch : UInt32)
    (kind : ProcedureEvidenceKind) (stepId : UInt16) (detail : UInt32) :
    (e.record epoch kind stepId detail).At livePack state currentStep entered :=
  ⟨h.pack_eq, h.state_eq, h.currentStep_eq, h.enteredEpoch_eq⟩

/-- A transition of the pack enters its destination. -/
theorem At.transition (h : e.At livePack .active currentStep entered) {destination : UInt16}
    (epoch : UInt32) (kind : ProcedureEvidenceKind) (hzero : destination ≠ 0)
    (hfound : (findStep livePack destination).isSome) :
    (e.transition epoch destination kind).1 = .ok ()
      ∧ (e.transition epoch destination kind).2.At livePack .active destination epoch := by
  have hat := transition_at (e := e) epoch kind hzero (by rw [h.pack_eq]; exact hfound)
  rwa [h.pack_eq, h.state_eq] at hat

/-- A step of the pack that verifies a metric leads on when the metric is right. -/
theorem At.verified {metricId next : UInt16} {comparison : ProcedureComparison}
    {threshold : Int32} (h : e.At livePack .active currentStep entered)
    (snapshot : OperationalMetricSnapshot)
    (hstep : gnssLossSteps.find? (fun step ↦ step.stepId == currentStep) =
      some (procedureStep currentStep .verify next 7 metricId comparison threshold))
    (hintime : ¬addSat32 entered 320 < snapshot.epoch)
    (hholds : predicateSatisfied ⟨metricId, comparison, 0, threshold⟩ snapshot = true)
    (hzero : next ≠ 0) (hfound : (findStep livePack next).isSome) :
    (e.tick snapshot).1 = .ok ()
      ∧ (e.tick snapshot).2.At livePack .active next snapshot.epoch := by
  have hsatisfied : predicatesSatisfied
      (procedureStep currentStep .verify next 7 metricId comparison threshold) snapshot = true := by
    change ([(⟨metricId, comparison, 0, threshold⟩ : ProcedurePredicate)].all fun predicate ↦
      predicateSatisfied predicate snapshot) = true
    rw [List.all_cons, List.all_nil, Bool.and_true]
    exact hholds
  unfold ProcedureEngine.tick
  rw [if_neg (not_not.mpr h.state_eq), h.current hstep]
  dsimp only
  rw [if_neg fun htime ↦ hintime (by rw [← h.enteredEpoch_eq]; exact htime.2)]
  change (if predicatesSatisfied _ snapshot = true then _ else _ : Outcome Unit).1 = _
    ∧ (if predicatesSatisfied _ snapshot = true then _ else _ : Outcome Unit).2.At _ _ _ _
  rw [if_pos hsatisfied]
  exact (h.record ..).transition snapshot.epoch .enter hzero hfound

/-- A step of the pack that has run out of time takes the engine to the failing one. -/
theorem At.timedOut (h : e.At livePack .active currentStep entered)
    (snapshot : OperationalMetricSnapshot)
    (hstep : gnssLossSteps.find? (fun step ↦ step.stepId == currentStep) = some step)
    (htimeout : step.timeoutEpochs = 320) (hfailure : step.nextFailure = 7)
    (hlate : addSat32 entered 320 < snapshot.epoch) :
    (e.tick snapshot).1 = .ok ()
      ∧ (e.tick snapshot).2.At livePack .active 7 snapshot.epoch := by
  unfold ProcedureEngine.tick
  rw [if_neg (not_not.mpr h.state_eq), h.current hstep]
  dsimp only
  rw [if_pos ⟨by rw [htimeout]; decide, by rw [htimeout, h.enteredEpoch_eq]; exact hlate⟩]
  unfold ProcedureEngine.timeOut
  dsimp only
  rw [if_neg (by rw [hfailure]; decide), hfailure]
  exact (h.record ..).transition snapshot.epoch .branch (by decide) (by decide)

/-- A step of the pack that requests an action and has time left waits. -/
theorem At.waits (h : e.At livePack .active currentStep entered)
    (snapshot : OperationalMetricSnapshot)
    (hstep : gnssLossSteps.find? (fun step ↦ step.stepId == currentStep) = some step)
    (htimeout : step.timeoutEpochs = 320) (hkind : step.kind = .requestAction)
    (hlate : ¬addSat32 entered 320 < snapshot.epoch) : e.tick snapshot = (.ok (), e) := by
  unfold ProcedureEngine.tick
  rw [if_neg (not_not.mpr h.state_eq), h.current hstep]
  dsimp only
  rw [if_neg fun htime ↦ hlate (by rw [← htimeout, ← h.enteredEpoch_eq]; exact htime.2), hkind]

/-- Step 6 completes the procedure and step 7 fails it. -/
theorem At.ends (h : e.At livePack .active currentStep entered)
    (snapshot : OperationalMetricSnapshot)
    (hstep : gnssLossSteps.find? (fun step ↦ step.stepId == currentStep) = some step)
    (htimeout : step.timeoutEpochs = 0) (hkind : step.kind = .complete ∨ step.kind = .fail) :
    (e.tick snapshot).1 = .ok () ∧ (e.tick snapshot).2.Stands .ended := by
  unfold ProcedureEngine.tick
  rw [if_neg (not_not.mpr h.state_eq), h.current hstep]
  dsimp only
  rw [if_neg fun htime ↦ htime.1 htimeout]
  obtain hkind | hkind := hkind
  · rw [hkind]
    exact ⟨rfl, .completed, currentStep, entered,
      ⟨h.pack_eq, rfl, h.currentStep_eq, h.enteredEpoch_eq⟩, .inl rfl⟩
  · rw [hkind]
    exact ⟨rfl, .failed, currentStep, entered,
      ⟨h.pack_eq, rfl, h.currentStep_eq, h.enteredEpoch_eq⟩, .inr rfl⟩

/-- On the first snapshot three ticks pass the three checks. -/
theorem Stands.check (h : e.Stands .checking) (snapshot : OperationalMetricSnapshot)
    (hepoch : snapshot.epoch = 0) (hgnss : snapshot.get metricGnssValid = some 0)
    (hinertial : snapshot.get metricInertialHealthy = some 1) {residual : Int32}
    (hresidual : snapshot.get metricOnboardGroundPositionResidualQ12 = some residual)
    (hsmall : residual ≤ 2048) :
    (e.tick snapshot).1 = .ok ()
      ∧ ((e.tick snapshot).2.tick snapshot).1 = .ok ()
      ∧ (((e.tick snapshot).2.tick snapshot).2.tick snapshot).1 = .ok ()
      ∧ (((e.tick snapshot).2.tick snapshot).2.tick snapshot).2.Stands (.awaitingUpdate 0) := by
  have hintime : ¬addSat32 0 320 < snapshot.epoch := by
    rw [hepoch]
    decide
  obtain ⟨hok1, h1⟩ := At.verified (e := e) h snapshot rfl hintime
    (by unfold predicateSatisfied; rw [hgnss]; rfl) (by decide) (by decide)
  rw [hepoch] at h1
  obtain ⟨hok2, h2⟩ := h1.verified snapshot rfl hintime
    (by unfold predicateSatisfied; rw [hinertial]; rfl) (by decide) (by decide)
  rw [hepoch] at h2
  obtain ⟨hok3, h3⟩ := h2.verified snapshot rfl hintime
    (by unfold predicateSatisfied; rw [hresidual]; exact decide_eq_true hsmall)
    (by decide) (by decide)
  rw [hepoch] at h3
  exact ⟨hok1, hok2, hok3, h3⟩

/-- From the first release on, a tick of the engine is a tick of its phase. -/
theorem Stands.tick {phase : LossPhase} (h : e.Stands phase) (hphase : phase ≠ .checking)
    (snapshot : OperationalMetricSnapshot) :
    (e.tick snapshot).1 = .ok ()
      ∧ (e.tick snapshot).2.Stands (phase.tick snapshot.epoch) := by
  cases phase with
  | checking => exact absurd rfl hphase
  | awaitingUpdate entered | awaitingBranch entered =>
      unfold LossPhase.tick
      dsimp only
      split
      · rename_i hlate
        obtain ⟨hok, hat⟩ := At.timedOut h snapshot rfl rfl rfl hlate
        exact ⟨hok, _, hat⟩
      · rename_i hlate
        rw [At.waits h snapshot rfl rfl rfl hlate]
        exact ⟨rfl, h⟩
  | recovering =>
      obtain ⟨entered, hat⟩ := h
      exact hat.ends snapshot rfl rfl (.inl rfl)
  | failing =>
      obtain ⟨entered, hat⟩ := h
      exact hat.ends snapshot rfl rfl (.inr rfl)
  | ended =>
      have hstopped : e.tick snapshot = (.ok (), e) := by
        obtain ⟨state, step, entered, hat, hstate⟩ := h
        unfold ProcedureEngine.tick
        rw [if_pos]
        rw [hat.state_eq]
        obtain rfl | rfl := hstate <;> nofun
      rw [hstopped]
      exact ⟨rfl, h⟩

/-- A step of the pack that requests an action is accepted with it, and with no other. -/
theorem At.accepts_iff (h : e.At livePack .active currentStep entered) (role : OperationalRole)
    (action : UplinkLoadType)
    (hstep : gnssLossSteps.find? (fun step ↦ step.stepId == currentStep) = some step)
    (hkind : step.kind = .requestAction) :
    e.Accepts role action ↔ roleCanAct role = true ∧ step.action = some action := by
  rw [ProcedureEngine.accepts_iff, h.current hstep]
  refine and_congr_right fun _ ↦ ⟨?_, fun haction ↦ ⟨h.state_eq, step, rfl, hkind, haction⟩⟩
  rintro ⟨-, step', hstep', -, haction⟩
  obtain rfl := Option.some.inj hstep'
  exact haction

/-- The last steps of the pack request nothing. -/
theorem At.not_accepts (h : e.At livePack state currentStep entered) (role : OperationalRole)
    (action : UplinkLoadType)
    (hidle : state ≠ .active ∨ ∀ step ∈ gnssLossSteps, step.stepId = currentStep →
      step.kind ≠ .requestAction) : ¬e.Accepts role action := by
  rw [ProcedureEngine.accepts_iff]
  rintro ⟨-, hactive, step, hstep, hkind, -⟩
  obtain hstate | hnone := hidle
  · exact hstate (h.state_eq.symm.trans hactive)
  · unfold ProcedureEngine.current at hstep
    rw [h.pack_eq, h.currentStep_eq] at hstep
    have hid := List.find?_some hstep
    exact hnone step (List.mem_of_find?_eq_some hstep) (beq_iff_eq.mp hid) hkind

/-- The procedure accepts what its phase requests. -/
theorem Stands.accepts_iff {phase : LossPhase} (h : e.Stands phase) (role : OperationalRole)
    (action : UplinkLoadType) :
    e.Accepts role action ↔ roleCanAct role = true ∧ phase.requests = some action := by
  have hidle (hno : ¬e.Accepts role action) :
      e.Accepts role action ↔ roleCanAct role = true ∧ none = some action :=
    ⟨fun haccepts ↦ absurd haccepts hno, fun hnone ↦ (Option.some_ne_none _ hnone.2.symm).elim⟩
  cases phase with
  | checking => exact hidle (At.not_accepts h role action (.inr (by decide)))
  | awaitingUpdate entered | awaitingBranch entered =>
      exact At.accepts_iff h role action rfl rfl
  | recovering | failing =>
      obtain ⟨entered, hat⟩ := h
      exact hidle (hat.not_accepts role action (.inr (by decide)))
  | ended =>
      obtain ⟨state, step, entered, hat, hstate⟩ := h
      refine hidle (hat.not_accepts role action (.inl ?_))
      obtain rfl | rfl := hstate <;> nofun

/-- An accepted action moves the phase on. -/
theorem Stands.accept {phase : LossPhase} (h : e.Stands phase) {role : OperationalRole}
    {action : UplinkLoadType} (haccepts : e.Accepts role action) (epoch : UInt32) :
    (e.acceptAction role epoch action true).1 = .ok ()
      ∧ (e.acceptAction role epoch action true).2.Stands (phase.accept epoch) := by
  have hrequests := ((h.accepts_iff role action).mp haccepts).2
  cases phase with
  | awaitingUpdate entered =>
      have hmoved := acceptAction_of_accepts epoch haccepts (At.current h rfl)
        (by decide) (by rw [h.pack_eq]; decide)
      rw [h.pack_eq] at hmoved
      exact hmoved
  | awaitingBranch entered =>
      have hmoved := acceptAction_of_accepts epoch haccepts (At.current h rfl)
        (by decide) (by rw [h.pack_eq]; decide)
      rw [h.pack_eq] at hmoved
      exact ⟨hmoved.1, epoch, hmoved.2⟩
  | checking | recovering | failing | ended =>
      exact (Option.some_ne_none _ hrequests.symm).elim

end ProcedureEngine

/-! ## The runtime -/

namespace GnssLossRuntime

/-- The runtime follows the course of the procedure, and is in the phase. -/
structure InPhase (r : GnssLossRuntime) (phase : LossPhase) : Prop where
  equipped : r.Equipped
  stands : r.procedure.Stands phase
  checking_iff : phase = .checking ↔ r.releases = 0
  flown : r.releases ≠ 0 → r.ground.isSome ∧ r.finalFlight.isSome

variable {r : GnssLossRuntime} {phase : LossPhase} {role : OperationalRole}

/-- A tick that succeeds is followed by the others. -/
theorem tickProcedure_succ {snapshot : OperationalMetricSnapshot} (times : Nat)
    (hok : (r.procedure.tick snapshot).1 = .ok ()) :
    tickProcedure snapshot (times + 1) r =
      tickProcedure snapshot times { r with procedure := (r.procedure.tick snapshot).2 } := by
  conv_lhs => unfold tickProcedure
  dsimp only
  rw [hok]

/-- The first release has the procedure pass its checks. -/
theorem estimateGround_checked (h : r.procedure.Stands .checking)
    (flight : GlobalFlightEvidence) :
    ∃ ground procedure, r.estimateGround flight =
        (.ok (), { r with procedure := procedure, ground := some ground })
      ∧ procedure.Stands (.awaitingUpdate 0) := by
  unfold estimateGround
  dsimp only
  obtain ⟨ground, hground, hposition⟩ := first_estimate {
    epoch := 0
    frame := flight.navigation.frame
    positionQ12Km := flight.navigation.positionQ12
    velocityQ24KmS := flight.navigation.velocityQ24 } 0x4b534111 rfl
  rw [hground]
  dsimp only
  obtain ⟨hgnss, hinertial, hresidual⟩ := operationalSnapshot_get 0 flight ground.positionQ12Km
  obtain ⟨hok1, hok2, hok3, hstands⟩ := h.check (operationalSnapshot 0 flight ground.positionQ12Km)
    rfl hgnss hinertial hresidual (by rw [hposition]; exact positionResidual_addNoise _)
  have hticks := (tickProcedure_succ 2 hok1).trans
    ((tickProcedure_succ 1 hok2).trans (tickProcedure_succ 0 hok3))
  rw [Attempt.andThen_ok (congrArg Prod.fst hticks), hticks]
  exact ⟨ground, _, rfl, hstands⟩

/-- Past the first release the procedure is ticked without an error. -/
theorem monitor_ticked (h : r.procedure.Stands phase) (hphase : phase ≠ .checking)
    (hground : r.ground.isSome) (hflight : r.finalFlight.isSome) :
    ∃ procedure, r.monitor = (.ok (), { r with procedure := procedure })
      ∧ procedure.Stands (phase.tick r.releases) := by
  obtain ⟨ground, hground⟩ := Option.isSome_iff_exists.mp hground
  obtain ⟨flight, hflight⟩ := Option.isSome_iff_exists.mp hflight
  have hmonitor : r.monitor =
      tickProcedure (operationalSnapshot r.releases flight ground.positionQ12Km) 1 r := by
    unfold monitor
    rw [hground, hflight]
  obtain ⟨hok, hstands⟩ := h.tick hphase (operationalSnapshot r.releases flight ground.positionQ12Km)
  exact ⟨_, hmonitor.trans (tickProcedure_succ 0 hok), hstands⟩

/-- The procedure is in a terminal state exactly when its course has ended. -/
theorem isTerminal_iff (h : r.procedure.Stands phase) :
    r.procedure.state.isTerminal = decide (phase = .ended) := by
  cases phase with
  | checking | awaitingUpdate _ | awaitingBranch _ =>
      rw [h.state_eq]
      rfl
  | recovering | failing =>
      obtain ⟨entered, hat⟩ := h
      rw [hat.state_eq]
      rfl
  | ended =>
      obtain ⟨state, step, entered, hat, rfl | rfl⟩ := h <;> rw [hat.state_eq] <;> rfl

/-- What the procedure has done before a release watches it. -/
theorem InPhase.estimated (h : r.InPhase phase) (hbelow : r.releases < liveGnssLossMaxReleases)
    (released : GlobalFlightEvidence × KsaG10rReferenceOpsV1) :
    ∃ ground procedure,
      (if r.releases.toUInt16 = 0 then
          { r with package := released.2 }.estimateGround released.1
        else (.ok (), { r with package := released.2 })) =
        ((.ok () : Except MissionSessionError Unit),
          { r with package := released.2, procedure := procedure, ground := some ground })
      ∧ procedure.Stands (if phase = .checking then .awaitingUpdate 0 else phase) := by
  by_cases hzero : r.releases = 0
  · obtain rfl := h.checking_iff.mpr hzero
    rw [if_pos (by rw [hzero]; rfl), if_pos rfl]
    exact estimateGround_checked (r := { r with package := released.2 }) h.stands released.1
  · have hepoch : r.releases.toUInt16 ≠ 0 := by
      intro hepoch
      have hnat : r.releases.toNat % 2 ^ 16 = 0 := congrArg UInt16.toNat hepoch
      have hlt : r.releases.toNat < 322 := UInt32.lt_iff_toNat_lt.mp hbelow
      exact hzero (UInt32.toNat_inj.mp (show r.releases.toNat = 0 by omega))
    obtain ⟨ground, hground⟩ := Option.isSome_iff_exists.mp (h.flown hzero).1
    rw [if_neg hepoch, if_neg fun hchecking ↦ hzero (h.checking_iff.mp hchecking)]
    exact ⟨ground, r.procedure, by rw [← hground], h.stands⟩

/-- A release below the limit succeeds, moves the phase on, and says whether the course has
ended. -/
theorem InPhase.release (h : r.InPhase phase) (hbelow : r.releases < liveGnssLossMaxReleases) :
    r.advanceOneRelease.1 = .ok (decide (phase.release (r.releases + 1) = .ended))
      ∧ r.advanceOneRelease.2.releases = r.releases + 1
      ∧ r.advanceOneRelease.2.InPhase (phase.release (r.releases + 1)) := by
  have hequipped : r.advanceOneRelease.2.Equipped := h.equipped.step .observer .release
  have hnonzero : r.releases + 1 ≠ 0 := by
    intro hzero
    have hnat := congrArg UInt32.toNat hzero
    have hlt : r.releases.toNat < 322 := UInt32.lt_iff_toNat_lt.mp hbelow
    rw [UInt32.toNat_add, UInt32.toNat_one, UInt32.toNat_zero] at hnat
    omega
  revert hequipped
  unfold advanceOneRelease
  rw [if_neg (UInt32.not_le.mpr hbelow)]
  dsimp only
  generalize r.package.processRelease (some (coastFast r.releases.toUInt16)) none none = released
  obtain ⟨ground, procedure, hestimated, hstands⟩ := h.estimated hbelow released
  rw [hestimated, Attempt.andThen_ok rfl]
  dsimp only
  by_cases hninth : 9 ≤ r.releases + 1
  · have hphase : phase ≠ .checking := by
      intro hchecking
      rw [h.checking_iff.mp hchecking] at hninth
      exact absurd hninth (by decide)
    rw [if_neg hphase] at hstands
    rw [if_pos hninth, LossPhase.release_of_le hphase hninth]
    obtain ⟨ticked, hmonitor, hstands⟩ := monitor_ticked
      (r := { r with
        package := released.2
        procedure := procedure
        ground := some ground
        finalFlight := some released.1
        releases := r.releases + 1 }) hstands hphase rfl rfl
    rw [hmonitor, Attempt.andThen_ok rfl]
    intro hequipped
    refine ⟨congrArg Except.ok (isTerminal_iff hstands), rfl, hequipped, hstands, ?_,
      fun _ ↦ ⟨rfl, rfl⟩⟩
    rw [← LossPhase.release_of_le hphase hninth]
    exact iff_of_false (LossPhase.release_ne_checking phase _) hnonzero
  · rw [if_neg hninth, Attempt.andThen_ok rfl, LossPhase.release_of_lt hninth]
    intro hequipped
    refine ⟨congrArg Except.ok (isTerminal_iff hstands), rfl, hequipped, hstands, ?_,
      fun _ ↦ ⟨rfl, rfl⟩⟩
    rw [← LossPhase.release_of_lt hninth]
    exact iff_of_false (LossPhase.release_ne_checking phase _) hnonzero

/-- The action is a commit that the uplink manager and the procedure accept, of a load of
the type. -/
def Answers (r : GnssLossRuntime) (role : OperationalRole) (loadType : UplinkLoadType) :
    MissionOperatorAction → Prop
  | .commit request =>
      ∃ load ∈ r.stagedLoad, load.loadType = loadType
        ∧ r.uplinkView.CommitConfirmed request r.package.epoch
        ∧ r.procedure.Accepts role loadType
  | .stage _ _ | .cancel _ => False

instance (r : GnssLossRuntime) (role : OperationalRole) (loadType : UplinkLoadType)
    (action : MissionOperatorAction) : Decidable (r.Answers role loadType action) :=
  match action with
  | .commit request => inferInstanceAs (Decidable (∃ load ∈ r.stagedLoad,
      load.loadType = loadType ∧ r.uplinkView.CommitConfirmed request r.package.epoch
        ∧ r.procedure.Accepts role loadType))
  | .stage _ _ | .cancel _ => inferInstanceAs (Decidable False)

variable (role) in
/-- A submission that answers what the procedure requests moves the phase on; any other
leaves it. -/
theorem InPhase.submit (h : r.InPhase phase) (action : MissionOperatorAction) :
    (∃ loadType, r.Answers role loadType action ∧ phase.requests = some loadType
        ∧ (r.submit role action).2.InPhase (phase.accept r.releases))
      ∨ (∀ loadType, ¬r.Answers role loadType action)
        ∧ (r.submit role action).2.InPhase phase := by
  have hmove := submit_move h.equipped role action
  have hflight := submit_frame r role action
  have hequipped : (r.submit role action).2.Equipped := h.equipped.step role (.submit action)
  generalize (r.submit role action).Failed = failed, (r.submit role action).2 = next at *
  have hkept (hprocedure : next.procedure = r.procedure) : next.InPhase phase := {
    equipped := hequipped
    stands := hprocedure ▸ h.stands
    checking_iff := by rw [hflight.releases_eq]; exact h.checking_iff
    flown := by
      rw [hflight.releases_eq, hflight.ground_eq, hflight.finalFlight_eq]
      exact h.flown }
  cases hmove with
  | stage _ _ _ hprocedure | cancel _ _ _ hprocedure =>
      exact .inr ⟨fun _ ↦ id, hkept hprocedure⟩
  | unavailable hnone _ =>
      refine .inr ⟨?_, h⟩
      rintro loadType ⟨load, hload, -⟩
      exact Option.some_ne_none _ (hload.symm.trans hnone)
  | rejected hstaged hconfirmed _ _ _ hprocedure =>
      refine .inr ⟨?_, hkept hprocedure⟩
      rintro loadType ⟨load, hload, -, hyes, -⟩
      exact hconfirmed hyes
  | refused hstaged _ haccepts _ _ _ hprocedure =>
      refine .inr ⟨?_, hkept hprocedure⟩
      rintro loadType ⟨load, hload, rfl, -, hyes⟩
      obtain rfl := Option.some.inj (hstaged.symm.trans hload)
      exact haccepts hyes
  | @accepted request _ _ load hstaged hconfirmed haccepts _ _ _ hprocedure =>
      refine .inl ⟨load.loadType, ⟨load, hstaged, rfl, hconfirmed, haccepts⟩,
        ((h.stands.accepts_iff role load.loadType).mp haccepts).2, hequipped, ?_, ?_, ?_⟩
      · rw [hprocedure]
        exact (h.stands.accept haccepts r.releases).2
      · rw [LossPhase.accept_eq_checking_iff, hflight.releases_eq]
        exact h.checking_iff
      · rw [hflight.releases_eq, hflight.ground_eq, hflight.finalFlight_eq]
        exact h.flown

end GnssLossRuntime

end Ksa64.Session
