import Ksa64.Flight.Safing
import Ksa64.Session.FullMissionUplink
import Ksa64.Session.LossProcedure
import Ksa64.Session.Pacing

/-!
# A vehicle at rest

The decision window opens late in the mission, and a run that reaches it cannot be
computed step by step.  Here a vehicle stands on the pad, with sensors that say so and
without GNSS.  What such a run keeps from one release to the next takes it into the
window, and to the step in which the procedure requests the navigation update.
-/

namespace Ksa64.Session

open Ksa64.Library Ksa64.Core Ksa64.Interface Ksa64.Sim Ksa64.Flight FullMissionSession

/-! ## The flight computer -/

/-- The vector of a vehicle that does not move. -/
def atOrigin : Vec3 := .replicate 3 0

/-- The fast cell of release `k` on a vehicle at rest. -/
def restFast (k : Nat) : GlobalFastSensorCell where
  session := fullMissionSession
  measurementEpoch := UInt16.ofNat k
  productionEpoch := UInt16.ofNat k
  frame := .localEnuV1
  validity := globalFastDeltaV ||| globalFastDeltaAngle ||| globalFastAttitude
  missionTimeQ16 := 0
  deltaVelocityQ24 := .replicate 3 0
  deltaAngleQ24 := .replicate 3 0
  attitudeVectorQ15 := .replicate 3 0
  angularRateQ15 := .replicate 3 0
  dynamicPressureQ10 := 0
  machQ12 := 0
  gimbalAppliedQ15 := .replicate 2 0
  rcsPropellantQ21 := 1
  actuatorFeedback := 0
  vehicleStatus := 0
  sensorChecksum := 0

/-- The aid cell of release `k`, with nothing valid in it. -/
def restAid (k : Nat) : GlobalAidFrameCell :=
  { (blindCells atOrigin).aid with
    measurementEpoch := UInt16.ofNat k
    productionEpoch := UInt16.ofNat k }

def restCells (k : Nat) : ReleaseCells :=
  { blindCells atOrigin with fast := some (restFast k), aid := restAid k }

section Computer

variable {k : Nat} {c : GlobalFlightComputer} {nav : GlobalNavigation}

/-- The estimate of a vehicle that does not move. -/
structure Unmoved (nav : GlobalNavigation) : Prop where
  frame : nav.frame = .localEnuV1
  position : nav.positionQ12 = atOrigin
  velocity : nav.velocityQ24 = atOrigin

/-- Adding no change to no velocity. -/
theorem addDelta_atOrigin :
    Vector.zipWith (fun v (d : Int16) ↦ addSatI32 v d.toInt32) atOrigin (.replicate 3 0) =
      atOrigin := by decide +kernel

/-- Moving by no velocity. -/
theorem move_atOrigin :
    Vector.zipWith (fun p (v : Int32) ↦ addSatI32 p (v >>> 17)) atOrigin atOrigin =
      atOrigin := by decide +kernel

/-- A fast cell without a change of velocity moves nothing. -/
theorem Unmoved.inertial (h : Unmoved nav) : Unmoved (nav.inertial (restFast k)) := by
  have hvelocity : (nav.inertial (restFast k)).velocityQ24 = atOrigin := by
    refine Eq.trans ?_ addDelta_atOrigin
    rw [← h.velocity]
    rfl
  refine ⟨h.frame, ?_, hvelocity⟩
  show Vector.zipWith _ nav.positionQ12 (nav.inertial (restFast k)).velocityQ24 = _
  rw [h.position, hvelocity]
  exact move_atOrigin

/-- Nor does an aid cell with nothing valid in it. -/
theorem Unmoved.aid (h : Unmoved nav) (rotation : Quaternion) (translation bias : Vec3) :
    Unmoved (nav.aid (restAid k) rotation translation bias) := by
  have hinvalid : ∀ bit, (restAid k).validity &&& bit = 0 := fun _ ↦ UInt8.zero_and
  have hgnss : nav.aidGnss (restAid k) rotation translation bias = nav :=
    if_neg (not_not.mpr (hinvalid _))
  have hbarometer : nav.aidBarometer (restAid k) = nav :=
    if_neg fun hboth ↦ hboth.1 (hinvalid _)
  have hattitude : nav.aidAttitude (restAid k) = nav := if_neg (not_not.mpr (hinvalid _))
  unfold GlobalNavigation.aid
  rw [hgnss, hbarometer, hattitude]
  exact ⟨h.frame, h.position, h.velocity⟩

/-- The computer before release `k`. -/
structure AtRest (k : Nat) (c : GlobalFlightComputer) : Prop where
  session : c.config.session = fullMissionSession
  epoch : c.epoch = UInt16.ofNat k
  unmoved : Unmoved c.navigation
  safe : c.safe = false

/-- The cells of the release are the ones expected. -/
theorem AtRest.validFast (h : AtRest k c) :
    c.validFast (some (restFast k)) = some (restFast k) := by
  unfold GlobalFlightComputer.validFast
  rw [Option.filter_some, if_pos]
  rw [h.session, h.epoch, h.unmoved.frame]
  simp [restFast]

theorem AtRest.acceptFast (h : AtRest k c) : AtRest k (c.acceptFast (some (restFast k))) :=
  ⟨h.session, h.epoch, h.unmoved.inertial, h.safe⟩

theorem AtRest.acceptAid (h : AtRest k c) :
    AtRest k (c.acceptAid (some (restAid k)) (c.validAid (some (restAid k)))) := by
  have hfilter : c.validAid (some (restAid k)) = some (restAid k)
      ∨ c.validAid (some (restAid k)) = none := by
    unfold GlobalFlightComputer.validAid
    rw [Option.filter_some]
    split
    · exact .inl rfl
    · exact .inr rfl
  rcases hfilter with hvalid | hvalid <;> rw [hvalid]
  · exact ⟨h.session, h.epoch, h.unmoved.aid _ _ _, h.safe⟩
  · exact ⟨h.session, h.epoch, h.unmoved, h.safe⟩

/-- A release leaves the vehicle where it was. -/
theorem AtRest.tick (h : AtRest k c) :
    AtRest (k + 1) (c.tick (some (restFast k)) (some (restAid k)) none).2
      ∧ (c.tick (some (restFast k)) (some (restAid k)) none).1.safe = false
      ∧ Unmoved (c.tick (some (restFast k)) (some (restAid k)) none).1.navigation := by
  have haided := h.acceptFast.acceptAid
  unfold GlobalFlightComputer.tick GlobalFlightComputer.applyTransition
  dsimp only
  rw [h.validFast]
  generalize ((c.acceptFast (some (restFast k))).acceptAid (some (restAid k))
    ((c.acceptFast (some (restFast k))).validAid (some (restAid k)))) = aided at *
  generalize (c.acceptFast (some (restFast k))).validAid (some (restAid k)) = aid
  have hkeeps : ∀ {β : Type} (f : GlobalFlightComputer → β),
      (∀ c time, f { c with drogueLatched := true, drogueTimeQ16 := time } = f c) →
      (∀ c, f { c with mainLatched := true } = f c) →
      (∀ c alarms, f { c with alarms := alarms } = f c) →
      f ((aided.updateModeAndRecovery (some (restFast k)) aid).recoveryCommand aid).2 =
        f (aided.updateModeAndRecovery (some (restFast k)) aid) :=
    fun f hdrogue hmain halarms ↦
      GlobalFlightComputer.recoveryCommand_keeps f hdrogue hmain halarms aid
  have hconfig := hkeeps (·.config) (fun _ _ ↦ rfl) (fun _ ↦ rfl) fun _ _ ↦ rfl
  have hepoch := hkeeps (·.epoch) (fun _ _ ↦ rfl) (fun _ ↦ rfl) fun _ _ ↦ rfl
  have hnavigation := hkeeps (·.navigation) (fun _ _ ↦ rfl) (fun _ ↦ rfl) fun _ _ ↦ rfl
  have hsafe := hkeeps (·.safe) (fun _ _ ↦ rfl) (fun _ ↦ rfl) fun _ _ ↦ rfl
  generalize (aided.updateModeAndRecovery (some (restFast k)) aid).recoveryCommand aid =
    recovered at *
  obtain ⟨discrete, c'⟩ := recovered
  have hunmoved : Unmoved c'.navigation := by
    rw [hnavigation]
    exact haided.unmoved
  have hsafe : c'.safe = false := hsafe.trans haided.safe
  refine ⟨⟨?_, ?_, hunmoved, hsafe⟩, hsafe, hunmoved⟩
  · exact (congrArg GlobalFlightConfig.session hconfig).trans haided.session
  · show c'.epoch + 1 = _
    rw [show c'.epoch = UInt16.ofNat k from hepoch.trans haided.epoch, UInt16.ofNat_add]
    rfl

end Computer

/-! ## The package and the runner -/

section Runner

variable {k : Nat} {p : KsaG10rReferenceOpsV1} {r : GlobalPackageAvionicsMission}
  {pending : Option PendingUplink}

/-- The pending load, if there is one, waits for its commit and has not expired. -/
def Uncommitted (pending : Option PendingUplink) (k : Nat) : Prop :=
  ∀ p, pending = some p → p.state ≠ .committed ∧ UInt32.ofNat k ≤ p.load.expiresEpoch

/-- A release of a package that hands out no load ticks the computer. -/
theorem processRelease_inner (hidle : ∀ pending, p.uplink.pending = some pending →
      pending.state ≠ .committed)
    (fast : Option GlobalFastSensorCell) (aid : Option GlobalAidFrameCell)
    (transition : Option GlobalTransitionCell) :
    (p.processRelease fast aid transition).1 = (p.inner.tick fast aid transition).1
      ∧ (p.processRelease fast aid transition).2.inner = (p.inner.tick fast aid transition).2 := by
  have hinner : p.executeUplink.inner = p.inner := by
    unfold KsaG10rReferenceOpsV1.executeUplink AtomicUplinkManager.release
    cases p.plan with
    | none => rfl
    | some plan =>
        cases hpending : p.uplink.pending with
        | none => rfl
        | some pending =>
            dsimp only
            by_cases hexpired : pending.load.expiresEpoch < p.epoch
            · rw [if_pos hexpired]
            · rw [if_neg hexpired, if_pos (.inl (hidle pending hpending))]
  have hpredict : ∀ (q : KsaG10rReferenceOpsV1) (navigation : GlobalNavigation),
      (q.predict navigation).inner = q.inner := by
    intro q navigation
    unfold KsaG10rReferenceOpsV1.predict
    split
    · rfl
    · split
      · dsimp only
        unfold KsaG10rReferenceOpsV1.journalPrediction
        split <;> rfl
      · rfl
  unfold KsaG10rReferenceOpsV1.processRelease
  dsimp only
  rw [hinner]
  exact ⟨rfl, hpredict ..⟩

/-- The runner before release `k`, with what it holds. -/
structure Resting (pending : Option PendingUplink) (k : Nat)
    (r : GlobalPackageAvionicsMission) : Prop where
  plan : r.package.plan = some fullGnssLossMissionPlan
  pending : r.package.uplink.pending = pending
  unexecuted : r.package.uplink.lastExecutedIdentity = 0
  epoch : r.package.epoch = UInt32.ofNat k
  rest : AtRest k r.package.inner
  velocity : r.previousVelocity = atOrigin

/-- Saturating addition counts as long as it does not saturate. -/
theorem addSat32_ofNat (h : k + 1 < 2 ^ 32) :
    addSat32 (UInt32.ofNat k) 1 = UInt32.ofNat (k + 1) := by
  rw [← UInt32.toNat_inj, toNat_addSat32, UInt32.toNat_ofNat_of_lt' h,
    UInt32.toNat_ofNat_of_lt' (Nat.lt_of_succ_lt h), UInt32.toNat_one]
  omega

theorem magnitude_atOrigin :
    vectorMagnitude (subtractVector atOrigin atOrigin) = .ok 0
      ∧ vectorMagnitude ((subtractVector atOrigin atOrigin).map fun component ↦
        mulSatI32 component 512) = .ok 0 := by decide +kernel

/-- The errors of a vehicle that does not move can be measured. -/
theorem Resting.measureErrors (h : Resting pending k r) {nav : GlobalNavigation} (hnav : Unmoved nav) :
    r.measureErrors (restCells k) nav = .ok () := by
  unfold GlobalPackageAvionicsMission.measureErrors
  show (do
    let _ ← vectorMagnitude (subtractVector atOrigin nav.positionQ12)
    let _ ← vectorMagnitude (subtractVector atOrigin nav.velocityQ24)
    let _ ← vectorMagnitude ((subtractVector atOrigin r.previousVelocity).map fun component ↦
      mulSatI32 component 512)
    pure ()) = _
  rw [hnav.position, hnav.velocity, h.velocity, magnitude_atOrigin.1, magnitude_atOrigin.2]
  rfl

/-- Release `k` of a vehicle at rest. -/
theorem Resting.release (h : Resting pending k r) (hk : k + 1 < 2 ^ 32)
    (hpending : Uncommitted pending k) :
    ∃ bundle, (r.releaseBundle (.ok (restCells k))).1 = .ok bundle
      ∧ bundle.aid = some (restAid k) ∧ bundle.evidence.safe = false
      ∧ Unmoved bundle.evidence.navigation
      ∧ Resting pending (k + 1) (r.releaseBundle (.ok (restCells k))).2
      ∧ (r.releaseBundle (.ok (restCells k))).2.lastFlight = some bundle.evidence := by
  obtain ⟨hevidence, hinner⟩ := processRelease_inner
    (fun p hp ↦ (hpending p (h.pending.symm.trans hp)).1) (some (restFast k)) (some (restAid k)) none
  obtain ⟨hrest, hsafe, hunmoved⟩ := h.rest.tick
  obtain ⟨huplink, hplan, hepoch⟩ := processRelease_uplink r.package (some (restFast k))
    (some (restAid k)) none
  have hview : (r.package.processRelease (some (restFast k)) (some (restAid k)) none).2.uplink =
      r.package.uplink := by
    rw [huplink, h.plan, Option.elim_some]
    show (r.package.uplink.release r.package.epoch).2 = r.package.uplink
    unfold AtomicUplinkManager.release
    cases hp : r.package.uplink.pending with
    | none => rfl
    | some p =>
        obtain ⟨hstate, hin⟩ := hpending p (h.pending.symm.trans hp)
        dsimp only
        rw [if_neg (UInt32.not_lt.mpr (h.epoch ▸ hin)), if_pos (.inl hstate)]
  rw [← hevidence] at hsafe hunmoved
  rw [← hinner] at hrest
  unfold GlobalPackageAvionicsMission.releaseBundle GlobalPackageAvionicsMission.processCells
  dsimp only
  rw [show (restCells k).fast = some (restFast k) from rfl,
    show (restCells k).aid = restAid k from rfl, show (restCells k).transition = none from rfl,
    h.measureErrors hunmoved]
  refine ⟨_, rfl, rfl, hsafe, hunmoved, ?_, rfl⟩
  exact {
    plan := hplan.trans h.plan
    pending := (congrArg AtomicUplinkManager.pending hview).trans h.pending
    unexecuted := (congrArg AtomicUplinkManager.lastExecutedIdentity hview).trans h.unexecuted
    epoch := by rw [hepoch, h.epoch, addSat32_ofNat hk]
    rest := hrest
    velocity := rfl }

end Runner

/-! ## Tracking from the ground -/

section Tracking

/-- Keyed noise stays within its amplitude. -/
theorem keyedNoise_le (seed epoch axis : UInt32) {bound : Nat} (hbound : bound < 2 ^ 20) :
    (keyedNoise seed epoch axis (Int32.ofNat bound)).toInt.natAbs ≤ bound := by
  have hwords : (UInt32.ofNat bound * 2 + 1).toNat = 2 * bound + 1 := by
    have hsmall : (UInt32.ofNat bound).toNat = bound :=
      UInt32.toNat_ofNat_of_lt' (by show bound < 2 ^ 32; omega)
    rw [UInt32.toNat_add, UInt32.toNat_mul, hsmall, UInt32.toNat_one]
    show (bound * 2 % 2 ^ 32 + 1) % 2 ^ 32 = _
    omega
  unfold keyedNoise
  dsimp only
  generalize mix _ = value
  have hnoise : (value % (UInt32.ofNat bound * 2 + 1)).toNat ≤ 2 * bound := by
    rw [UInt32.toNat_mod, hwords]
    exact Nat.le_of_lt_succ (Nat.mod_lt _ (Nat.succ_pos _))
  show ((value % (UInt32.ofNat bound * 2 + 1)).toInt32 - Int32.ofNat bound).toInt.natAbs ≤ bound
  generalize value % (UInt32.ofNat bound * 2 + 1) = noise at hnoise
  have hvalue : noise.toInt32.toInt = noise.toNat := by
    show noise.toBitVec.toInt = _
    rw [BitVec.toInt_eq_toNat_cond, if_pos]
    · rfl
    · show 2 * noise.toNat < 2 ^ 32
      omega
  rw [Int32.toInt_sub, hvalue, Int32.toInt_ofNat_of_lt (by omega),
    Int.bmod_eq_of_le (by omega) (by omega)]
  omega

/-- Half way between two values within a bound is within the bound. -/
theorem halfway_le {a b : Int32} {bound : Nat} (hbound : bound < 2 ^ 20)
    (ha : a.toInt.natAbs ≤ bound) (hb : b.toInt.natAbs ≤ bound) :
    (GroundEstimator.halfway a b).toInt.natAbs ≤ bound := by
  have hsub : (subSatI32 b a).toInt = b.toInt - a.toInt := by
    rw [subSatI32, toInt_clampI32]
    omega
  -- division rounds towards zero
  have hhalf : ∃ half, (b.toInt - a.toInt).tdiv 2 = half
      ∧ (half = (b.toInt - a.toInt) / 2 ∨ half = -((a.toInt - b.toInt) / 2)) := by
    refine ⟨_, rfl, ?_⟩
    rcases Int.le_total 0 (b.toInt - a.toInt) with hle | hle
    · exact .inl (Int.tdiv_eq_ediv_of_nonneg hle)
    · refine .inr ?_
      rw [← Int.tdiv_eq_ediv_of_nonneg (by omega), ← Int.neg_tdiv, Int.neg_sub]
  obtain ⟨half, hdiv, hcases⟩ := hhalf
  unfold GroundEstimator.halfway
  rw [toInt_addSatI32, Int32.toInt_div, hsub, show (2 : Int32).toInt = 2 from rfl, hdiv,
    Int.bmod_eq_of_le (by omega) (by omega)]
  omega

/-- A vector within a bound of the origin. -/
def Near (bound : Nat) (value : Vec3) : Prop :=
  ∀ axis, (h : axis < 3) → value[axis].toInt.natAbs ≤ bound

variable {bound : Nat} (hbound : bound < 2 ^ 20)
include hbound

/-- The noise around the origin. -/
theorem near_addNoise (seed epoch : UInt32) :
    Near bound (addNoise atOrigin seed epoch (Int32.ofNat bound)) := by
  intro axis haxis
  have horigin : atOrigin[axis] = 0 := Vector.getElem_replicate ..
  have hnoise := keyedNoise_le seed epoch (UInt32.ofNat axis) hbound
  rw [addNoise, Vector.getElem_mapFinIdx, horigin, toInt_addSatI32,
    show (0 : Int32).toInt = 0 from rfl]
  omega

/-- Half way between two near values is near. -/
theorem near_halfway {previous observed : Vec3} (hprevious : Near bound previous)
    (hobserved : Near bound observed) :
    Near bound (Vector.zipWith GroundEstimator.halfway previous observed) := by
  intro axis haxis
  rw [Vector.getElem_zipWith]
  exact halfway_le hbound (hprevious axis haxis) (hobserved axis haxis)

omit hbound in
/-- The distance of a near component from the origin. -/
theorem componentDistance_near {value : Int32} (h : value.toInt.natAbs ≤ bound) :
    (componentDistance 0 value).toNat ≤ bound := by
  unfold componentDistance unsignedAbs64
  have hlt := value.toInt_lt
  have hle := value.le_toInt
  rw [UInt64.toNat_ofNat', Int64.toInt_sub, Int32.toInt_toInt64, Int32.toInt_toInt64,
    show (0 : Int32).toInt = 0 from rfl, Int.bmod_eq_of_le (by omega) (by omega)]
  refine (Nat.mod_le _ _).trans ?_
  omega

/-- The residual of a near vector is small. -/
theorem positionResidual_near {value : Vec3} (h : Near bound value) :
    ∃ n ≤ bound, positionResidual atOrigin value = Int32.ofNat n := by
  have hle : (Vector.zipWith componentDistance atOrigin value).toList.foldl max 0 ≤
      UInt64.ofNat bound := by
    refine foldl_max_le _ 0 (UInt64.le_iff_toNat_le.mpr (Nat.zero_le _)) fun distance hmem ↦ ?_
    obtain ⟨axis, haxis, rfl⟩ := Vector.mem_iff_getElem.mp (Vector.mem_toList_iff.mp hmem)
    have horigin : atOrigin[axis] = 0 := Vector.getElem_replicate ..
    rw [Vector.getElem_zipWith, horigin, UInt64.le_iff_toNat_le,
      UInt64.toNat_ofNat_of_lt' (by show bound < 2 ^ 64; omega)]
    exact componentDistance_near (h axis haxis)
  unfold positionResidual
  dsimp only
  generalize (Vector.zipWith componentDistance atOrigin value).toList.foldl max 0 = largest
    at hle
  rw [UInt64.le_iff_toNat_le, UInt64.toNat_ofNat_of_lt' (by show bound < 2 ^ 64; omega)] at hle
  have hmin : min largest 2147483647 = largest := by
    refine if_pos (UInt64.le_iff_toNat_le.mpr ?_)
    show largest.toNat ≤ 2147483647
    omega
  refine ⟨largest.toNat, hle, ?_⟩
  rw [hmin]
  rfl

omit hbound

/-- Small words keep the order of their values. -/
theorem ofNat_le_of_le {m n : Nat} (hn : n < 2 ^ 31) (h : m ≤ n) : Int32.ofNat m ≤ Int32.ofNat n := by
  rw [Int32.le_iff_toInt_le, Int32.toInt_ofNat_of_lt (Nat.lt_of_le_of_lt h hn),
    Int32.toInt_ofNat_of_lt hn]
  exact Int.ofNat_le.mpr h

/-- How far the noise takes a position, and a velocity. -/
def positionNoise : Nat := 8
def velocityNoise : Nat := 1024

/-- An observation of the vehicle on the pad. -/
structure PadObservation (observation : GroundTrackingObservation) : Prop where
  source : observation.sourceIdentity = groundTrackingSourceId
  validity : observation.validity = 3
  arrives : observation.measurementEpoch ≤ observation.receiptEpoch
  frame : observation.frame = .localEnuV1
  position : Near positionNoise observation.positionQ12Km
  velocity : Near velocityNoise observation.velocityQ24KmS

/-- An estimate of the vehicle on the pad. -/
structure PadEstimate (estimate : GroundEstimate) : Prop where
  frame : estimate.frame = .localEnuV1
  position : Near positionNoise estimate.positionQ12Km
  velocity : Near velocityNoise estimate.velocityQ24KmS

theorem padObservation_synthesized (epoch seed : UInt32) :
    PadObservation (synthesizeGroundObservation {
      epoch := epoch
      frame := .localEnuV1
      positionQ12Km := atOrigin
      velocityQ24KmS := atOrigin } groundTrackingDelayReleases seed) where
  source := rfl
  validity := rfl
  arrives := le_addSat32 ..
  frame := rfl
  position := @near_addNoise positionNoise (by decide) seed epoch
  velocity := @near_addNoise velocityNoise (by decide) _ epoch

/-- An observation that has arrived makes an estimate. -/
theorem update_pad {e : GroundEstimator} {observation : GroundTrackingObservation} {epoch : UInt32}
    (he : ∀ estimate, e.estimate = some estimate → PadEstimate estimate)
    (h : PadObservation observation) (hreceipt : observation.receiptEpoch ≤ epoch) :
    ∃ estimate, (e.update observation epoch).1 = some estimate
      ∧ (e.update observation epoch).2.estimate = some estimate ∧ PadEstimate estimate := by
  have hvalid : ¬(observation.sourceIdentity ≠ groundTrackingSourceId
      ∨ observation.validity &&& 3 ≠ 3 ∨ epoch < observation.receiptEpoch
      ∨ observation.receiptEpoch < observation.measurementEpoch) := by
    rw [h.source, h.validity]
    rintro (hsource | hbits | hearly | hlate)
    · exact hsource rfl
    · exact hbits (by decide)
    · exact UInt32.not_lt.mpr hreceipt hearly
    · exact UInt32.not_lt.mpr h.arrives hlate
  have hblended : Near positionNoise (e.blended observation).1
      ∧ Near velocityNoise (e.blended observation).2.1 := by
    unfold GroundEstimator.blended
    dsimp only
    split
    · rename_i previous hprevious
      have hpad := he previous hprevious
      split
      · exact ⟨near_halfway (by decide) hpad.position h.position,
          near_halfway (by decide) hpad.velocity h.velocity⟩
      · exact ⟨h.position, h.velocity⟩
    · exact ⟨h.position, h.velocity⟩
  unfold GroundEstimator.update
  rw [if_neg hvalid]
  exact ⟨_, rfl, rfl, h.frame, hblended.1, hblended.2⟩

end Tracking

/-! ## The session -/

/-- What the world says of the vehicle at release `k`. -/
def restAnswer (k : Nat) : WorldAnswer :=
  { padAnswer atOrigin with cells := .ok (restCells k) }

/-- What the releases of a session work on, besides the commands. -/
structure MissionWatch where
  lifecycle : MissionSessionLifecycle
  procedure : Option ProcedureEngine
  missingFixes : UInt8
  estimator : GroundEstimator
  pending : List GroundTrackingObservation
  latestGround : Option GroundEstimate
  latestFlight : Option GlobalFlightEvidence

def FullMissionSession.watch (s : FullMissionSession) : MissionWatch where
  lifecycle := s.lifecycle
  procedure := s.procedure
  missingFixes := s.gnssMissingFixes
  estimator := s.groundEstimator
  pending := s.pendingObservations
  latestGround := s.latestGround
  latestFlight := s.latestFlight

section Watch

variable (s : FullMissionSession) (epoch : UInt32)

@[simp] theorem watch_expireStaged : (s.expireStaged epoch).watch = s.watch := by
  unfold expireStaged
  split
  · rfl
  · split <;> rfl

/-- Once a second a missing fix is counted, from the loss on. -/
theorem watch_countFixes (k : Nat) :
    (s.countFixes epoch (some (restAid k))).watch = { s.watch with
      missingFixes := if epoch % 32 = 0 then
          if gnssLossRelease ≤ epoch then addSat8 s.watch.missingFixes 1 else 0
        else s.watch.missingFixes } := by
  have hinvalid : (restAid k).validity &&& globalAidGnss = 0 := UInt8.zero_and
  unfold countFixes
  dsimp only
  rw [hinvalid]
  by_cases hsecond : epoch % 32 = 0
  · rw [if_pos hsecond, if_pos hsecond]
    by_cases hloss : gnssLossRelease ≤ epoch
    · rw [if_pos ⟨rfl, hloss⟩, if_pos hloss]
      rfl
    · rw [if_neg fun hboth ↦ hloss hboth.2, if_neg hloss]
      rfl
  · rw [if_neg hsecond, if_neg hsecond]

@[simp] theorem watch_noteGnss : (s.noteGnss epoch).watch = s.watch := by
  unfold noteGnss
  dsimp only
  split_ifs <;> rfl

@[simp] theorem watch_noteProcedure (prior next : ProcedureEngine) :
    (s.noteProcedure epoch prior next).watch = s.watch := by
  unfold noteProcedure
  split <;> rfl

@[simp] theorem watch_publishRelease (answer : WorldAnswer) :
    (s.publishRelease epoch answer).watch = s.watch := by
  unfold publishRelease
  dsimp only
  split <;> rfl

@[simp] theorem watch_noteTransition (snapshot : GlobalWorldSnapshot) :
    (s.noteTransition epoch snapshot).watch = s.watch := by
  unfold noteTransition
  split <;> rfl

@[simp] theorem watch_countRelease : s.countRelease.watch = s.watch := rfl

/-- The ground sees the vehicle on the pad, and its latest estimate is the estimator's. -/
structure OnPad (w : MissionWatch) : Prop where
  pending : ∀ observation ∈ w.pending, PadObservation observation
  estimate : ∀ estimate, w.estimator.estimate = some estimate → PadEstimate estimate
  latest : w.latestGround = w.estimator.estimate

/-- Watches that differ in what is seen from the ground only. -/
def SameFlight (w w' : MissionWatch) : Prop :=
  w'.lifecycle = w.lifecycle ∧ w'.procedure = w.procedure ∧ w'.missingFixes = w.missingFixes
    ∧ w'.latestFlight = w.latestFlight

variable {s}

theorem onPad_observeGround (h : OnPad s.watch) {answer : WorldAnswer}
    (hsnapshot : answer.snapshot = (padAnswer atOrigin).snapshot) :
    OnPad (s.observeGround epoch answer.snapshot).watch
      ∧ SameFlight s.watch (s.observeGround epoch answer.snapshot).watch := by
  unfold observeGround
  dsimp only
  split
  · refine ⟨⟨fun observation hmem ↦ ?_, h.estimate, h.latest⟩, rfl, rfl, rfl, rfl⟩
    rcases List.mem_append.mp hmem with hold | hnew
    · exact h.pending observation hold
    · rw [List.mem_singleton.mp hnew, hsnapshot]
      exact padObservation_synthesized epoch _
  · exact ⟨h, rfl, rfl, rfl, rfl⟩

/-- Estimating on the observations that have arrived. -/
theorem onPad_drain {observations : List GroundTrackingObservation}
    (hobservations : ∀ observation ∈ observations, PadObservation observation)
    (hestimate : ∀ estimate, s.groundEstimator.estimate = some estimate → PadEstimate estimate)
    (hlatest : s.latestGround = s.groundEstimator.estimate) :
    OnPad (drainObservations epoch observations s).watch
      ∧ SameFlight s.watch (drainObservations epoch observations s).watch
      ∧ ((s.latestGround.isSome ∨ ∃ first rest, observations = first :: rest
          ∧ first.receiptEpoch ≤ epoch) →
        (drainObservations epoch observations s).latestGround.isSome) := by
  induction observations generalizing s with
  | nil =>
      refine ⟨⟨fun _ hmem ↦ (nomatch hmem), hestimate, hlatest⟩, ⟨rfl, rfl, rfl, rfl⟩, ?_⟩
      rintro (hsome | ⟨_, _, hnil, -⟩)
      · exact hsome
      · exact nomatch hnil
  | cons observation rest ih =>
      obtain ⟨hfirst, hrest⟩ := List.forall_mem_cons.mp hobservations
      unfold drainObservations
      split
      · rename_i harrived
        obtain ⟨estimate, hupdated, hnext, hpad⟩ := update_pad hestimate hfirst harrived
        have hestimated : (s.estimateOn epoch observation).groundEstimator.estimate = some estimate
            ∧ (s.estimateOn epoch observation).latestGround = some estimate
            ∧ SameFlight s.watch (s.estimateOn epoch observation).watch := by
          unfold estimateOn
          dsimp only
          rw [hupdated]
          exact ⟨hnext, rfl, rfl, rfl, rfl, rfl⟩
        obtain ⟨hes, hla, hsame⟩ := hestimated
        obtain ⟨hpadded, hsame', hsome⟩ := @ih (s.estimateOn epoch observation) hrest
          (fun e he ↦ Option.some.inj (hes.symm.trans he) ▸ hpad) (hla.trans hes.symm)
        refine ⟨hpadded, ?_, fun _ ↦ hsome (.inl (by rw [hla]; rfl))⟩
        exact ⟨hsame'.1.trans hsame.1, hsame'.2.1.trans hsame.2.1,
          hsame'.2.2.1.trans hsame.2.2.1, hsame'.2.2.2.trans hsame.2.2.2⟩
      · rename_i hearly
        refine ⟨⟨hobservations, hestimate, hlatest⟩, ⟨rfl, rfl, rfl, rfl⟩, ?_⟩
        rintro (hsome | ⟨first, _, hcons, harrived⟩)
        · exact hsome
        · obtain ⟨rfl, -⟩ := List.cons.inj hcons
          exact absurd harrived hearly

end Watch

/-! ### The procedure in its window -/

section Procedure

variable {s : FullMissionSession} {e : ProcedureEngine} {epoch entered : UInt32}

/-- What the procedure is told of a vehicle that has lost GNSS and is otherwise well. -/
theorem metrics_get {flight : GlobalFlightEvidence} {ground : GroundEstimate}
    (hfixes : 3 ≤ s.gnssMissingFixes) (hflight : s.latestFlight = some flight)
    (hsafe : flight.safe = false) (hground : s.latestGround = some ground) :
    (s.metrics epoch).epoch = epoch ∧ (s.metrics epoch).get metricGnssValid = some 0
      ∧ (s.metrics epoch).get metricInertialHealthy = some 1
      ∧ (s.metrics epoch).get metricOnboardGroundPositionResidualQ12 =
        some (positionResidual flight.navigation.positionQ12 ground.positionQ12Km) := by
  have hlost : ¬s.gnssMissingFixes < 3 := UInt8.not_lt.mpr hfixes
  have hmetrics : s.metrics epoch =
      operationalSnapshot epoch flight ground.positionQ12Km := by
    unfold FullMissionSession.metrics operationalSnapshot
    dsimp only
    rw [hflight, hground, if_neg hlost, Option.any_some, hsafe]
    rfl
  rw [hmetrics]
  exact ⟨rfl, operationalSnapshot_get epoch flight ground.positionQ12Km⟩

/-- A check of the mission's procedure leads on when its metric is right. -/
theorem verified_fullMission {id next metricId : UInt16} {comparison : ProcedureComparison}
    {threshold : Int32} (h : e.At fullMissionPack .active id entered)
    (snapshot : OperationalMetricSnapshot)
    (hstep : findStep fullMissionPack id =
      some (verificationStep id next metricId comparison threshold))
    (hintime : ¬addSat32 entered (decisionWindowCloseRelease - gnssQualifiedRelease)
      < snapshot.epoch)
    (hholds : predicateSatisfied ⟨metricId, comparison, 0, threshold⟩ snapshot = true)
    (hzero : next ≠ 0) (hfound : (findStep fullMissionPack next).isSome) :
    (e.tick snapshot).2.At fullMissionPack .active next snapshot.epoch := by
  have hcurrent : e.current =
      some (verificationStep id next metricId comparison threshold) := by
    unfold ProcedureEngine.current
    rw [h.pack_eq, h.currentStep_eq]
    exact hstep
  have hsatisfied : predicatesSatisfied
      (verificationStep id next metricId comparison threshold) snapshot = true := by
    change ([(⟨metricId, comparison, 0, threshold⟩ : ProcedurePredicate)].all fun predicate ↦
      predicateSatisfied predicate snapshot) = true
    rw [List.all_cons, List.all_nil, Bool.and_true]
    exact hholds
  unfold ProcedureEngine.tick
  rw [if_neg (not_not.mpr h.state_eq), hcurrent]
  dsimp only
  rw [if_neg fun htime ↦ hintime (by rw [← h.enteredEpoch_eq]; exact htime.2)]
  change (if predicatesSatisfied _ snapshot = true then _ else _ :
    ProcedureEngine.Outcome Unit).2.At _ _ _ _
  rw [if_pos hsatisfied]
  have hat := ProcedureEngine.transition_at (e := e.record snapshot.epoch .complete id 0)
    snapshot.epoch .enter hzero (h.pack_eq.symm ▸ hfound)
  exact ⟨hat.2.pack_eq.trans h.pack_eq, hat.2.state_eq.trans h.state_eq, hat.2.currentStep_eq,
    hat.2.enteredEpoch_eq⟩

/-- The step of the procedure before release `k` of a window that is open, and since when: one
check further with every release, and then the step in which the update is requested. -/
def stepAt (k : Nat) : UInt16 × UInt32 :=
  if k = 5921 then (2, 5920) else if k = 5922 then (3, 5921) else (4, 5922)

/-- Where the procedure stands before release `k` of a vehicle at rest. -/
def StandsAt (k : Nat) (procedure : Option ProcedureEngine) : Prop :=
  k ≤ 5920 ∧ procedure = none
    ∨ 5921 ≤ k ∧ ∃ e, procedure = some e ∧ e.At fullMissionPack .active (stepAt k).1 (stepAt k).2

/-- Before the window closes a tick of the session is a tick of its procedure. -/
theorem watch_tickProcedure (hguided : Guided s) (hprocedure : s.procedure = some e)
    (hwindow : ¬decisionWindowCloseRelease < epoch) :
    (s.tickProcedure epoch).2.watch =
      { s.watch with procedure := some (e.tick (s.metrics epoch)).2 } := by
  have hticked := ((hguided.onMission e hprocedure).tick (s.metrics epoch)).1
  unfold tickProcedure
  rw [hprocedure]
  dsimp only
  rw [if_neg hwindow]
  dsimp only
  rw [hticked]
  dsimp only
  rw [watch_noteProcedure]
  rfl

/-- What the procedure sees when it is ticked. -/
structure Seen (w : MissionWatch) : Prop where
  fixes : 3 ≤ w.missingFixes
  flight : ∃ flight, w.latestFlight = some flight ∧ flight.safe = false
    ∧ Unmoved flight.navigation
  ground : ∃ ground, w.latestGround = some ground ∧ PadEstimate ground

/-- The three checks hold. -/
theorem Seen.checks (h : Seen s.watch) :
    (s.metrics epoch).epoch = epoch
      ∧ predicateSatisfied ⟨metricGnssValid, .equal, 0, 0⟩ (s.metrics epoch) = true
      ∧ predicateSatisfied ⟨metricInertialHealthy, .equal, 0, 1⟩ (s.metrics epoch) = true
      ∧ predicateSatisfied ⟨metricOnboardGroundPositionResidualQ12, .lessOrEqual, 0, 262144⟩
        (s.metrics epoch) = true := by
  obtain ⟨flight, hflight, hsafe, hunmoved⟩ := h.flight
  obtain ⟨ground, hground, hpad⟩ := h.ground
  obtain ⟨hepoch, hgnss, hinertial, hresidual⟩ :=
    @metrics_get s epoch flight ground h.fixes hflight hsafe hground
  refine ⟨hepoch, ?_, ?_, ?_⟩
  · unfold predicateSatisfied
    rw [hgnss]
    rfl
  · unfold predicateSatisfied
    rw [hinertial]
    rfl
  · obtain ⟨n, hn, heq⟩ := positionResidual_near (by decide) hpad.position
    unfold predicateSatisfied
    rw [hresidual, hunmoved.position, heq]
    exact decide_eq_true (ofNat_le_of_le (by decide) (hn.trans (by decide)))

/-- Outside of the first release of the window the procedure is not opened. -/
theorem openProcedure_eq_self (hepoch : epoch ≠ decisionWindowOpenRelease) :
    s.openProcedure epoch = (.ok (), s) := if_neg hepoch

/-- With the first release of the window the procedure opens in its first step. -/
theorem openProcedure_opens :
    ∃ e, e.At fullMissionPack .active 1 decisionWindowOpenRelease
      ∧ (s.openProcedure decisionWindowOpenRelease).2.watch =
        { s.watch with procedure := some e } := by
  obtain ⟨e, hnew, honMission, hstate, hstep, hentered⟩ :=
    ProcedureEngine.new_onMission decisionWindowOpenRelease
  refine ⟨e, ⟨honMission.pack_eq, hstate, hstep, hentered⟩, ?_⟩
  unfold openProcedure
  rw [if_pos rfl, hnew]
  rfl

/-- The next check of the procedure, in the release after the last. -/
theorem stands_tick {step next : UInt16} (hguided : Guided s) (hseen : Seen s.watch)
    (hprocedure : s.procedure = some e) (hat : e.At fullMissionPack .active step entered)
    (hnext : (step, next, epoch, entered) ∈
      [((1 : UInt16), (2 : UInt16), (5920 : UInt32), (5920 : UInt32)), (2, 3, 5921, 5920),
        (3, 4, 5922, 5921)]) :
    ∃ e', e'.At fullMissionPack .active next epoch
      ∧ (s.tickProcedure epoch).2.watch = { s.watch with procedure := some e' } := by
  obtain ⟨hepoch, hgnss, hinertial, hresidual⟩ := @Seen.checks s epoch hseen
  have hticked := @watch_tickProcedure s e epoch hguided hprocedure
  simp only [List.mem_cons, List.not_mem_nil, or_false, Prod.mk.injEq] at hnext
  rcases hnext with ⟨rfl, rfl, rfl, rfl⟩ | ⟨rfl, rfl, rfl, rfl⟩ | ⟨rfl, rfl, rfl, rfl⟩
  · have hnext := verified_fullMission hat (s.metrics 5920) rfl (by rw [hepoch]; decide) hgnss
      (by decide) (by decide)
    rw [hepoch] at hnext
    exact ⟨_, hnext, hticked (by decide)⟩
  · have hnext := verified_fullMission hat (s.metrics 5921) rfl (by rw [hepoch]; decide) hinertial
      (by decide) (by decide)
    rw [hepoch] at hnext
    exact ⟨_, hnext, hticked (by decide)⟩
  · have hnext := verified_fullMission hat (s.metrics 5922) rfl (by rw [hepoch]; decide) hresidual
      (by decide) (by decide)
    rw [hepoch] at hnext
    exact ⟨_, hnext, hticked (by decide)⟩

/-- The request of the update stands until it is answered. -/
theorem requested_tick (hat : e.At fullMissionPack .active 4 5922)
    {snapshot : OperationalMetricSnapshot} (hepoch : snapshot.epoch ≤ decisionWindowCloseRelease) :
    (e.tick snapshot).2 = e := by
  have hcurrent : e.current = some (fullActionStep 4 .groundNavigationUpdate 5) := by
    unfold ProcedureEngine.current
    rw [hat.pack_eq, hat.currentStep_eq]
    decide
  have hintime : ¬addSat32 e.enteredEpoch (decisionWindowCloseRelease - gnssQualifiedRelease)
      < snapshot.epoch := by
    rw [hat.enteredEpoch_eq]
    exact UInt32.not_lt.mpr (UInt32.le_trans hepoch (by decide))
  unfold ProcedureEngine.tick
  rw [if_neg (not_not.mpr hat.state_eq), hcurrent]
  dsimp only
  rw [if_neg fun htime ↦ hintime htime.2]
  rfl

/-- Opening and ticking the procedure in release `k` of a vehicle at rest. -/
theorem StandsAt.step {k : Nat} (h : StandsAt k s.procedure) (hk : k ≤ 7840) (hguided : Guided s)
    (hseen : 5920 ≤ k → Seen s.watch) (hepoch : epoch = UInt32.ofNat k) :
    ∃ procedure, StandsAt (k + 1) procedure
      ∧ ((s.openProcedure epoch).2.tickProcedure epoch).2.watch =
        { s.watch with procedure := procedure } := by
  have hnat : epoch.toNat = k := by
    rw [hepoch, UInt32.toNat_ofNat_of_lt' (by show k < 2 ^ 32; omega)]
  have hopens : epoch = decisionWindowOpenRelease ↔ k = 5920 := by
    rw [← UInt32.toNat_inj, hnat]
    rfl
  rcases h with ⟨hbefore, hnone⟩ | ⟨hafter, e, hsome, hat⟩
  · by_cases hk : k = 5920
    · obtain rfl := hopens.mpr hk
      obtain ⟨-, hguided'⟩ := hguided.openProcedure decisionWindowOpenRelease
      obtain ⟨e, hat, hopened⟩ := @openProcedure_opens s
      have hseen := hseen hk.ge
      generalize (s.openProcedure decisionWindowOpenRelease).2 = t at *
      have hseen' : Seen t.watch := by
        rw [hopened]
        exact ⟨hseen.fixes, hseen.flight, hseen.ground⟩
      obtain ⟨e', hat', hwatch⟩ := @stands_tick t e decisionWindowOpenRelease
        decisionWindowOpenRelease 1 2 hguided' hseen' (congrArg MissionWatch.procedure hopened) hat
        (by decide)
      subst hk
      exact ⟨some e', .inr ⟨by omega, e', rfl, hat'⟩, by rw [hwatch, hopened]⟩
    · rw [openProcedure_eq_self (mt hopens.mp hk)]
      refine ⟨none, .inl ⟨by omega, rfl⟩, ?_⟩
      unfold tickProcedure
      dsimp only
      rw [hnone]
      show s.watch = _
      rw [← hnone]
      rfl
  · rw [openProcedure_eq_self (mt hopens.mp (by omega))]
    replace hseen : Seen s.watch := hseen (by omega)
    by_cases hfirst : k = 5921
    · subst hfirst hepoch
      obtain ⟨e', hat', hwatch⟩ := @stands_tick s e 5921 5920 2 3 hguided hseen hsome hat (by decide)
      exact ⟨some e', .inr ⟨by omega, e', rfl, hat'⟩, hwatch⟩
    · by_cases hsecond : k = 5922
      · subst hsecond hepoch
        obtain ⟨e', hat', hwatch⟩ := @stands_tick s e 5922 5921 3 4 hguided hseen hsome hat
          (by decide)
        exact ⟨some e', .inr ⟨by omega, e', rfl, hat'⟩, hwatch⟩
      · have hstep : stepAt k = (4, 5922) := by rw [stepAt, if_neg hfirst, if_neg hsecond]
        have hstep' : stepAt (k + 1) = (4, 5922) := by
          rw [stepAt, if_neg (by omega), if_neg (by omega)]
        have hwindow : epoch ≤ decisionWindowCloseRelease := by
          rw [UInt32.le_iff_toNat_le, hnat]
          exact hk
        rw [hstep] at hat
        have hticked := @watch_tickProcedure s e epoch hguided hsome (UInt32.not_lt.mpr hwindow)
        rw [requested_tick hat ((Seen.checks hseen).1 ▸ hwindow)] at hticked
        refine ⟨some e, .inr ⟨by omega, e, rfl, ?_⟩, hticked⟩
        rw [hstep']
        exact hat

end Procedure

/-! ### A release of the session -/

section Release

variable {s : FullMissionSession} {k : Nat} {pending : Option PendingUplink}
  {answer : WorldAnswer}

/-- Release `k`, with the vehicle on the pad. -/
def restRelease (k : Nat) : FullMissionCall := .advanceOneRelease (restAnswer k)

/-- The session before release `k` of a vehicle at rest, with what its runner holds. -/
structure Idle (pending : Option PendingUplink) (k : Nat) (s : FullMissionSession) : Prop where
  guided : Guided s
  lifecycle : s.lifecycle = .ready ∨ s.lifecycle = .running
  canAct : roleCanAct s.role = true
  epoch : s.releaseEpoch = UInt32.ofNat k
  runner : ∃ r, s.runner = some r ∧ Resting pending k r
  stagedLoad : s.stagedLoad = pending.bind copyOf

theorem Idle.isOpen (h : Idle pending k s) : s.isOpen = true := by
  unfold FullMissionSession.isOpen
  rcases h.lifecycle with hready | hrunning
  · rw [hready]
    rfl
  · rw [hrunning]
    rfl

/-- The session once its runner has taken a release. -/
def FullMissionSession.runningWith (s : FullMissionSession) (r : GlobalPackageAvionicsMission) :
    FullMissionSession :=
  { s with lifecycle := .running, runner := some r }

/-- A release of the vehicle at rest, whatever follows it. -/
theorem Idle.advance (h : Idle pending k s) (hk : k < 24000)
    (hpending : Uncommitted pending k)
    (hcells : answer.cells = .ok (restCells k)) (hupdate : answer.update = .ok ()) :
    ∃ r bundle, Resting pending (k + 1) r ∧ bundle.aid = some (restAid k)
      ∧ bundle.evidence.safe = false ∧ Unmoved bundle.evidence.navigation
      ∧ Guided (s.runningWith r) ∧ r.lastFlight = some bundle.evidence
      ∧ s.step (.advanceOneRelease answer) =
        (((s.runningWith r).takeRelease s.releaseEpoch bundle answer).2.conclude answer).2 := by
  obtain ⟨r, hrunner, hrest⟩ := h.runner
  obtain ⟨bundle, hbundle, haid, hsafe, hunmoved, hnext, hflown⟩ :=
    hrest.release (by omega) hpending
  have hguided : Guided (s.runningWith (r.releaseBundle (.ok (restCells k))).2) :=
    ⟨h.guided.onMission, h.guided.ground, nofun⟩
  refine ⟨_, bundle, hnext, haid, hsafe, hunmoved, hguided, hflown, ?_⟩
  have htaken := (takeRelease_spec hguided s.releaseEpoch bundle answer).1
  have hreleased : (s.runningWith r).releaseRunner r answer =
        (.ok bundle, s.runningWith (r.releaseBundle (.ok (restCells k))).2) := by
    unfold releaseRunner
    dsimp only
    rw [hcells, hbundle, hupdate]
    rfl
  have hbelow : ¬fullMissionMaxReleases ≤ s.releaseEpoch := by
    rw [h.epoch, UInt32.le_iff_toNat_le,
      UInt32.toNat_ofNat_of_lt' (by show k < 2 ^ 32; omega)]
    show ¬24000 ≤ k
    omega
  have hrunning : s.lifecycle ≠ .paused := by
    rcases h.lifecycle with hready | hrunning
    · rw [hready]
      exact nofun
    · rw [hrunning]
      exact nofun
  show (s.advanceOneRelease answer).2 = _
  unfold advanceOneRelease
  rw [if_neg hrunning]
  unfold advanceInternal
  rw [if_neg (by rw [h.isOpen]; exact nofun), if_neg hbelow]
  dsimp only
  rw [hrunner]
  show (fly (s.runningWith r) r s.releaseEpoch false answer).2 = _
  unfold fly
  rw [hreleased, Attempt.andThen_ok rfl, Attempt.andThen_ok htaken]
  unfold Attempt.andThen
  split
  · rfl
  · rfl

/-- What the watch shows before release `k`: the missing fixes, the tracking from the ground,
and the procedure. -/
structure Watched (k : Nat) (w : MissionWatch) : Prop where
  fixes : k ≤ 5760 + 32 * w.missingFixes.toNat
  onPad : OnPad w
  tracked : w.latestGround.isSome = true ∨ k = 0 ∧ w.pending = []
    ∨ 0 < k ∧ k ≤ 4 ∧ ∃ first rest, w.pending = first :: rest
      ∧ first.receiptEpoch = groundTrackingDelayReleases
  procedure : StandsAt k w.procedure
  flight : 0 < k → ∃ flight, w.latestFlight = some flight ∧ Unmoved flight.navigation

/-- Counting the missing fixes keeps up with the releases since the loss. -/
theorem fixes_counted (missing : UInt8) (hk : k ≤ 7840)
    (hfixes : k ≤ 5760 + 32 * missing.toNat) :
    k + 1 ≤ 5760 + 32 * (if UInt32.ofNat k % 32 = 0 then
      if gnssLossRelease ≤ UInt32.ofNat k then addSat8 missing 1 else 0 else missing).toNat := by
  have hnat : (UInt32.ofNat k).toNat = k :=
    UInt32.toNat_ofNat_of_lt' (by show k < 2 ^ 32; omega)
  have hsecond : UInt32.ofNat k % 32 = 0 ↔ k % 32 = 0 := by
    rw [← UInt32.toNat_inj, UInt32.toNat_mod, hnat]
    rfl
  have hloss : gnssLossRelease ≤ UInt32.ofNat k ↔ 5760 ≤ k := by
    rw [UInt32.le_iff_toNat_le, hnat]
    rfl
  simp only [hsecond, hloss]
  clear hsecond hloss hnat
  by_cases hmod : k % 32 = 0
  · rw [if_pos hmod]
    by_cases hlost : 5760 ≤ k
    · rw [if_pos hlost, toNat_addSat8, UInt8.toNat_one]
      omega
    · rw [if_neg hlost]
      exact Nat.le_add_right_of_le (Nat.not_le.mp hlost)
  · rw [if_neg hmod]
    omega

/-- Only every fourth release adds an observation, and no release takes one away. -/
theorem observeGround_spec (s : FullMissionSession) (epoch : UInt32)
    (snapshot : GlobalWorldSnapshot) :
    (s.observeGround epoch snapshot).latestGround = s.latestGround
      ∧ (s.observeGround epoch snapshot).pendingObservations = s.pendingObservations ++
        if epoch % 4 = 0 then [synthesizeGroundObservation {
          epoch := epoch
          frame := snapshot.frame
          positionQ12Km := snapshot.position
          velocityQ24KmS := snapshot.velocity } groundTrackingDelayReleases
          (fullMissionCaseSeed ^^^ 0x11e00001)]
        else [] := by
  unfold observeGround
  dsimp only
  split
  · exact ⟨rfl, rfl⟩
  · exact ⟨rfl, (List.append_nil _).symm⟩

/-- The first observation arrives with release 4. -/
theorem tracked_drained {t : FullMissionSession} (hk : k < 2 ^ 32)
    (hestimate : ∀ estimate, t.groundEstimator.estimate = some estimate → PadEstimate estimate)
    (hlatest : t.latestGround = t.groundEstimator.estimate)
    (hpending : ∀ observation ∈ t.pendingObservations, PadObservation observation)
    (htracked : t.latestGround.isSome = true
      ∨ k ≤ 4 ∧ ∃ first rest, t.pendingObservations = first :: rest
        ∧ first.receiptEpoch = groundTrackingDelayReleases) :
    let drained := drainObservations (UInt32.ofNat k) t.pendingObservations t
    OnPad drained.watch ∧ SameFlight t.watch drained.watch
      ∧ (drained.latestGround.isSome = true ∨ k + 1 ≤ 4 ∧ ∃ first rest,
        drained.pendingObservations = first :: rest
          ∧ first.receiptEpoch = groundTrackingDelayReleases) := by
  obtain ⟨hpad, hsame, hsome⟩ := onPad_drain (UInt32.ofNat k) hpending hestimate hlatest
  refine ⟨hpad, hsame, ?_⟩
  have hnat : (UInt32.ofNat k).toNat = k :=
    UInt32.toNat_ofNat_of_lt' (by show k < 2 ^ 32; omega)
  rcases htracked with htracked | ⟨hfour, first, rest, hobservations, hreceipt⟩
  · exact .inl (hsome (.inl htracked))
  · by_cases harrived : k = 4
    · subst harrived
      exact .inl (hsome (.inr ⟨first, rest, hobservations, UInt32.le_of_eq hreceipt⟩))
    · have hearly : ¬first.receiptEpoch ≤ UInt32.ofNat k := by
        rw [hreceipt, UInt32.le_iff_toNat_le, hnat]
        show ¬4 ≤ k
        omega
      refine .inr ⟨by omega, first, rest, ?_, hreceipt⟩
      rw [hobservations]
      unfold drainObservations
      rw [if_neg hearly]

/-- What a release of the vehicle at rest leaves to watch. -/
theorem watched_takeRelease {t : FullMissionSession} {bundle : GlobalReleaseBundle}
    (hguided : Guided t) (hk : k ≤ 7840) (hwatched : Watched k t.watch)
    (haid : bundle.aid = some (restAid k)) (hsafe : bundle.evidence.safe = false)
    (hunmoved : Unmoved bundle.evidence.navigation) :
    let next := (t.takeRelease (UInt32.ofNat k) bundle (restAnswer k)).2
    Watched (k + 1) next.watch := by
  generalize hepoch : UInt32.ofNat k = epoch
  unfold takeRelease
  dsimp only
  rw [haid]
  -- the flight that is seen, the fixes that are counted
  have hflown : Guided { t with latestFlight := some bundle.evidence } :=
    ⟨hguided.onMission, hguided.ground, hguided.unprepared⟩
  have hcounted := (hflown.expireStaged epoch).countFixes epoch (some (restAid k))
  have hseen : ((({ t with latestFlight := some bundle.evidence } :
      FullMissionSession).expireStaged epoch).countFixes epoch (some (restAid k))).watch =
        { t.watch with
          latestFlight := some bundle.evidence
          missingFixes := if epoch % 32 = 0 then
              if gnssLossRelease ≤ epoch then addSat8 t.gnssMissingFixes 1 else 0
            else t.gnssMissingFixes } := by
    rw [watch_countFixes, watch_expireStaged]
    rfl
  generalize (({ t with latestFlight := some bundle.evidence } :
    FullMissionSession).expireStaged epoch).countFixes epoch (some (restAid k)) = u at *
  -- the ground
  have hpad : OnPad u.watch := by
    rw [hseen]
    exact ⟨hwatched.onPad.pending, hwatched.onPad.estimate, hwatched.onPad.latest⟩
  obtain ⟨hobserved, hsame⟩ := onPad_observeGround epoch hpad (rfl : (restAnswer k).snapshot = _)
  obtain ⟨hlatest, hpending⟩ := observeGround_spec u epoch (restAnswer k).snapshot
  have hguided := hcounted.observeGround epoch (restAnswer k).snapshot
  generalize u.observeGround epoch (restAnswer k).snapshot = v at *
  have htracked : v.latestGround.isSome = true
      ∨ k ≤ 4 ∧ ∃ first rest, v.pendingObservations = first :: rest
        ∧ first.receiptEpoch = groundTrackingDelayReleases := by
    have hground : u.latestGround = t.latestGround := congrArg MissionWatch.latestGround hseen
    have hbefore : u.pendingObservations = t.pendingObservations :=
      congrArg MissionWatch.pending hseen
    rw [hlatest, hpending, hground, hbefore]
    rcases hwatched.tracked with hsome | ⟨rfl, hnone⟩ | ⟨-, hfour, first, rest, hcons, hreceipt⟩
    · exact .inl hsome
    · subst hepoch
      rw [show t.pendingObservations = [] from hnone, List.nil_append, if_pos (by decide)]
      exact .inr ⟨Nat.zero_le 4, _, [], rfl, rfl⟩
    · rw [show t.pendingObservations = first :: rest from hcons, List.cons_append]
      exact .inr ⟨hfour, first, _, rfl, hreceipt⟩
  subst hepoch
  obtain ⟨hdrained, hsame', htracked⟩ := tracked_drained (by omega) hobserved.estimate hobserved.latest
    hobserved.pending htracked
  have hguided := (hguided.drainObservations (UInt32.ofNat k) v.pendingObservations).noteGnss
    (UInt32.ofNat k)
  have hnoted := watch_noteGnss (drainObservations (UInt32.ofNat k) v.pendingObservations v)
    (UInt32.ofNat k)
  generalize drainObservations (UInt32.ofNat k) v.pendingObservations v = x at *
  generalize x.noteGnss (UInt32.ofNat k) = y at *
  have hflight : y.watch.lifecycle = t.lifecycle ∧ y.watch.procedure = t.procedure
      ∧ y.watch.missingFixes = u.watch.missingFixes
      ∧ y.watch.latestFlight = some bundle.evidence := by
    obtain ⟨hlifecycle, hprocedure, hmissing, hlast⟩ := hsame
    obtain ⟨hlifecycle', hprocedure', hmissing', hlast'⟩ := hsame'
    rw [hnoted, hlifecycle', hprocedure', hmissing', hlast', hlifecycle, hprocedure, hmissing,
      hlast, hseen]
    exact ⟨rfl, rfl, rfl, rfl⟩
  rw [← hnoted] at hdrained
  obtain ⟨hlifecycle, hprocedure, hmissing, hlast⟩ := hflight
  have hfixes : k + 1 ≤ 5760 + 32 * y.watch.missingFixes.toNat := by
    rw [hmissing, hseen]
    exact fixes_counted t.gnssMissingFixes hk hwatched.fixes
  have hground : y.watch.latestGround.isSome = true ∨ k + 1 ≤ 4 ∧ ∃ first rest,
      y.watch.pending = first :: rest ∧ first.receiptEpoch = groundTrackingDelayReleases := by
    rw [hnoted]
    exact htracked
  -- the procedure
  have hchecks : 5920 ≤ k → Seen y.watch := by
    intro hwindow
    obtain ⟨estimate, hestimate⟩ := Option.isSome_iff_exists.mp (hground.resolve_right (by omega))
    refine ⟨?_, ⟨_, hlast, hsafe, hunmoved⟩, estimate, hestimate, ?_⟩
    · rw [UInt8.le_iff_toNat_le]
      show 3 ≤ _
      omega
    · exact hdrained.estimate estimate (hdrained.latest.symm.trans hestimate)
  have hstands : StandsAt k y.procedure := by
    rw [show y.procedure = t.procedure from hprocedure]
    exact hwatched.procedure
  obtain ⟨procedure, hstands, hstepped⟩ := hstands.step hk hguided hchecks rfl
  obtain ⟨hopen, hopened⟩ := hguided.openProcedure (UInt32.ofNat k)
  rw [Attempt.andThen_ok hopen, Attempt.andThen_ok (hopened.tickProcedure (UInt32.ofNat k)).1]
  generalize ((y.openProcedure (UInt32.ofNat k)).2.tickProcedure (UInt32.ofNat k)).2 = z at *
  have hwatch : (((z.publishRelease (UInt32.ofNat k) (restAnswer k)).noteTransition (UInt32.ofNat k)
      (restAnswer k).snapshot).countRelease).watch = { y.watch with procedure := procedure } := by
    rw [watch_countRelease, watch_noteTransition, watch_publishRelease, hstepped]
  rw [hwatch]
  exact {
    fixes := hfixes
    onPad := ⟨hdrained.pending, hdrained.estimate, hdrained.latest⟩
    tracked := hground.imp_right fun hfour ↦ .inr ⟨Nat.succ_pos k, hfour⟩
    procedure := hstands
    flight := fun _ ↦ ⟨_, hlast, hunmoved⟩ }

/-- Taking a release leaves the lifecycle alone. -/
theorem lifecycle_takeRelease (t : FullMissionSession) (epoch : UInt32)
    (bundle : GlobalReleaseBundle) (answer : WorldAnswer) :
    (t.takeRelease epoch bundle answer).2.lifecycle = t.lifecycle :=
  congrArg Prod.fst (t.pacing_takeRelease epoch bundle answer)

/-- What an idle session keeps from one release to the next. -/
theorem Idle.step (h : Idle pending k s) (hk : k < 24000)
    (hpending : Uncommitted pending k) :
    Idle pending (k + 1) (s.step (restRelease k))
      ∧ (s.step (restRelease k)).desk = { s.desk.release s.releaseEpoch (restAnswer k) with
          runner := (s.step (restRelease k)).runner }
      ∧ (k ≤ 7840 → Watched k s.watch → Watched (k + 1) (s.step (restRelease k)).watch) := by
  obtain ⟨r, bundle, hrest, haid, hsafe, hunmoved, hguided, -, hstep⟩ :=
    @Idle.advance s k pending (restAnswer k) h hk hpending rfl rfl
  obtain ⟨-, hguided', hdesk⟩ := takeRelease_spec hguided s.releaseEpoch bundle (restAnswer k)
  have hwatched : k ≤ 7840 → Watched k s.watch → _ := fun hk hwatched ↦
    @watched_takeRelease k (s.runningWith r) bundle hguided hk
      ⟨hwatched.fixes, ⟨hwatched.onPad.pending, hwatched.onPad.estimate, hwatched.onPad.latest⟩,
        hwatched.tracked, hwatched.procedure, hwatched.flight⟩ haid hsafe hunmoved
  rw [← h.epoch] at hwatched
  have hlifecycle := lifecycle_takeRelease (s.runningWith r) s.releaseEpoch bundle (restAnswer k)
  replace hstep : s.step (restRelease k) =
      ((s.runningWith r).takeRelease s.releaseEpoch bundle (restAnswer k)).2 := hstep
  rw [hstep]
  generalize ((s.runningWith r).takeRelease s.releaseEpoch bundle (restAnswer k)).2 = t at *
  have hrunner : t.runner = some r := congrArg MissionDesk.runner hdesk
  refine ⟨?_, ?_, hwatched⟩
  · exact {
      guided := hguided'
      lifecycle := .inr hlifecycle
      canAct := (congrArg (fun d ↦ roleCanAct d.role) hdesk).trans h.canAct
      epoch := by
        refine (congrArg MissionDesk.releaseEpoch hdesk).trans ?_
        show addSat32 s.releaseEpoch 1 = _
        rw [h.epoch, addSat32_ofNat (by omega)]
      runner := ⟨r, hrunner, hrest⟩
      stagedLoad := by
        refine (congrArg MissionDesk.stagedLoad hdesk).trans ?_
        show s.stagedLoad.filter (fun load ↦ decide (s.releaseEpoch ≤ load.expiresEpoch)) =
          pending.bind copyOf
        rw [h.stagedLoad, h.epoch]
        cases pending with
        | none => rfl
        | some p =>
            rw [Option.bind_some]
            unfold copyOf
            split
            · exact (Option.filter_some ..).trans (if_pos (decide_eq_true (hpending p rfl).2))
            · rfl }
  · rw [hdesk, hrunner]
    rfl

/-- The releases from `k` on. -/
def restReleases (k n : Nat) : List FullMissionCall := (List.range' k n).map restRelease

theorem restReleases_succ (k n : Nat) :
    restReleases k (n + 1) = restReleases k n ++ [restRelease (k + n)] := by
  unfold restReleases
  rw [List.range'_concat, List.map_append, Nat.one_mul]
  rfl

/-- Release after release at rest: what holds at first and is kept holds at the end. -/
theorem idle_induction (h : Idle pending k s) (n : Nat) (hn : k + n ≤ 24000)
    (hpending : ∀ m < n, Uncommitted pending (k + m)) {P : Nat → Prop} (hzero : P 0)
    (hsucc : ∀ m < n, Idle pending (k + m) (run FullMissionSession.step s (restReleases k m)) →
      P m → P (m + 1)) :
    Idle pending (k + n) (run FullMissionSession.step s (restReleases k n)) ∧ P n := by
  induction n with
  | zero => exact ⟨h, hzero⟩
  | succ n ih =>
      obtain ⟨hidle, hbefore⟩ := ih (by omega) (fun m hm ↦ hpending m (by omega))
        fun m hm ↦ hsucc m (by omega)
      refine ⟨?_, hsucc n (by omega) hidle hbefore⟩
      rw [restReleases_succ, run_concat]
      exact (hidle.step (by omega) (hpending n (by omega))).1

/-- At rest from release `k` up to release `k + n`. -/
theorem idle_run (h : Idle pending k s) (hwatched : Watched k s.watch) (n : Nat)
    (hn : k + n ≤ 7841) (hpending : ∀ m < n, Uncommitted pending (k + m)) :
    Idle pending (k + n) (run FullMissionSession.step s (restReleases k n))
      ∧ Watched (k + n) (run FullMissionSession.step s (restReleases k n)).watch := by
  refine idle_induction h n (by omega) hpending (P := fun m ↦
    Watched (k + m) (run FullMissionSession.step s (restReleases k m)).watch) hwatched ?_
  intro m hm hidle hbefore
  rw [restReleases_succ, run_concat]
  exact (hidle.step (by omega) (hpending m hm)).2.2 (by omega) hbefore

/-- The runner of a vehicle on the pad is at rest. -/
theorem resting_newRunner : ∀ r ∈ (newRunner padWorld).toOption, Resting none 0 r := by
  have hall : ∀ r ∈ (newRunner padWorld).toOption,
      r.package.plan = some fullGnssLossMissionPlan ∧ r.package.uplink.pending = none
        ∧ r.package.uplink.lastExecutedIdentity = 0 ∧ r.package.epoch = 0
        ∧ r.previousVelocity = atOrigin
        ∧ r.package.inner.config.session = fullMissionSession ∧ r.package.inner.epoch = 0
        ∧ r.package.inner.navigation.frame = .localEnuV1
        ∧ r.package.inner.navigation.positionQ12 = atOrigin
        ∧ r.package.inner.navigation.velocityQ24 = atOrigin
        ∧ r.package.inner.safe = false := by
    decide +kernel
  intro r hr
  obtain ⟨hplan, hpending, hexecuted, hepoch, hvelocity, hsession, hinner, hframe, hposition,
    hspeed, hsafe⟩ := hall r hr
  exact ⟨hplan, hpending, hexecuted, hepoch,
    ⟨hsession, hinner, ⟨hframe, hposition, hspeed⟩, hsafe⟩, hvelocity⟩

/-- A prepared mission on the pad is at rest. -/
theorem idle_prepared {role : OperationalRole} (hrole : roleCanAct role = true) :
    Idle none 0 ((fullGnssLossSession role).step (.prepare (.ok padWorld)))
      ∧ Watched 0 ((fullGnssLossSession role).step (.prepare (.ok padWorld))).watch := by
  cases hnew : newRunner padWorld with
  | error e =>
      have hok : (newRunner padWorld).isOk = true := by decide +kernel
      rw [hnew] at hok
      exact nomatch hok
  | ok r =>
      have hrest := resting_newRunner r (by rw [hnew]; rfl)
      show Idle none 0 ((fullGnssLossSession role).prepare (.ok padWorld)).2
        ∧ Watched 0 ((fullGnssLossSession role).prepare (.ok padWorld)).2.watch
      unfold FullMissionSession.prepare
      rw [if_neg (by exact not_not.mpr rfl)]
      dsimp only
      rw [hnew]
      refine ⟨⟨⟨nofun, rfl, nofun⟩, .inl rfl, hrole, rfl, ⟨r, rfl, hrest⟩, rfl⟩, ?_⟩
      exact ⟨by omega, ⟨nofun, nofun, rfl⟩, .inr (.inl ⟨rfl, rfl⟩), .inl ⟨by omega, rfl⟩, nofun⟩

end Release

/-! ### An action of the operator -/

section Action

variable {s : FullMissionSession} {k : Nat} {pending pending' : Option PendingUplink}
  {action : MissionOperatorAction} {r : GlobalPackageAvionicsMission} {load : UplinkCommandLoad}

/-- Watches that differ in the procedure only. -/
def SameBut (w w' : MissionWatch) : Prop := w' = { w with procedure := w'.procedure }

/-- An action concerns of the watch at most the procedure. -/
theorem watch_submitRecord (r : GlobalPackageAvionicsMission) (action : MissionOperatorAction) :
    SameBut s.watch (s.submitRecord r action).2.watch := by
  cases action with
  | stage load mask =>
      unfold submitRecord submitStage
      dsimp only
      split
      · rfl
      · split <;> rfl
  | cancel request =>
      unfold submitRecord submitCancel
      dsimp only
      split
      · rfl
      · split <;> rfl
  | commit request =>
      have hannounce : ∀ (t : FullMissionSession) load, (t.announce load).watch = t.watch := by
        intro t load
        unfold FullMissionSession.announce
        cases load.loadType <;> rfl
      have haccept : ∀ (t : FullMissionSession) epoch type,
          SameBut t.watch (t.acceptAction epoch type).2.watch := by
        intro t epoch type
        unfold acceptAction
        split
        · rfl
        · dsimp only
          split <;> rfl
      unfold submitRecord submitCommit
      dsimp only
      split
      · rfl
      · split
        · rfl
        · split
          · refine Attempt.andThen_keeps (P := fun t : FullMissionSession ↦
              SameBut s.watch t.watch) ?_ fun _ t ht ↦ ht
            refine (haccept _ _ _).trans ?_
            rw [hannounce]
            rfl
          · rfl

/-- An action that is not a commit leaves the whole watch alone. -/
theorem procedure_submitRecord (r : GlobalPackageAvionicsMission)
    (hother : ∀ request, action ≠ .commit request) :
    (s.submitRecord r action).2.procedure = s.procedure := by
  cases action with
  | stage load mask =>
      unfold submitRecord submitStage
      dsimp only
      split
      · rfl
      · split <;> rfl
  | cancel request =>
      unfold submitRecord submitCancel
      dsimp only
      split
      · rfl
      · split <;> rfl
  | commit request => exact absurd rfl (hother request)

/-- What the package holds and the copy tells, after an action that is answered. -/
theorem SubmitMove.copied {d : MissionDesk} (h : SubmitMove s r action d)
    (hcopied : s.stagedLoad = r.package.uplink.pending.bind copyOf)
    (hnext : (r.package.uplink.view.next (uplinkCallOf r action)).pending = pending') :
    d.stagedLoad = pending'.bind copyOf := by
  have hprior : ∀ p, r.package.uplink.pending = some p → s.stagedLoad = copyOf p := by
    intro p hp
    rw [hcopied, hp, Option.bind_some]
  cases pending' with
  | some p => exact (h.pending_move hprior hnext).2
  | none =>
      have hempty : r.package.uplink.view.next (uplinkCallOf r action) = r.package.uplink.view →
          s.stagedLoad = none := by
        intro hkept
        rw [hkept] at hnext
        rw [hcopied, ← view_pending, hnext, Option.bind_none]
      cases h with
      | @staged load mask _ hconfirmed =>
          rcases hconfirmed with hadm | ⟨-, hp⟩
          · have hstaged : r.package.uplink.view.next (uplinkCallOf r (.stage load mask)) =
                { r.package.uplink.view with pending := some (.stage load) } := if_pos hadm
            exact nomatch hnext.symm.trans (congrArg UplinkView.pending hstaged)
          · have hkept : r.package.uplink.view.next (uplinkCallOf r (.stage load mask)) =
                r.package.uplink.view := if_neg fun hadm ↦ nomatch hadm.2.1.symm.trans hp
            exact nomatch hnext.symm.trans ((congrArg UplinkView.pending hkept).trans hp)
      | unstaged hconfirmed => exact hempty (if_neg fun hadm ↦ hconfirmed (.inl hadm))
      | committed hstaged haccepts hconfirms =>
          obtain ⟨p, hp, hcopy⟩ := Option.bind_eq_some_iff.mp (hcopied.symm.trans hstaged)
          obtain rfl := pending_of_copied ((hprior p hp)) hstaged
          obtain ⟨-, hconfirmed⟩ := (confirms_commit _ hp _ _ _).mp hconfirms
          obtain ⟨_, hcommitted⟩ := @next_commit_of_admitted r.package.uplink.view _ _ _ hp
            (commitAdmitted_of_confirmed hp hconfirmed)
          exact nomatch hnext.symm.trans (congrArg UplinkView.pending hcommitted)
      | uncommitted hstaged _ hconfirms =>
          obtain ⟨p, hp, hcopy⟩ := Option.bind_eq_some_iff.mp (hcopied.symm.trans hstaged)
          obtain rfl := pending_of_copied ((hprior p hp)) hstaged
          exact nomatch (hempty (next_commit_of_unconfirmed hp hconfirms)).symm.trans hstaged
      | cancelled => rfl
      | uncancelled hconfirms => exact hempty (next_cancel_of_unconfirmed hconfirms)

/-- A call of the package that comes from an action leaves the computer alone. -/
theorem packageCallOf_inner (p : KsaG10rReferenceOpsV1) (action : MissionOperatorAction) :
    (p.step (packageCallOf action)).inner = p.inner := by
  cases action with
  | stage load mask =>
      show (p.stageUplink load mask).2.inner = p.inner
      unfold KsaG10rReferenceOpsV1.stageUplink
      split <;> rfl
  | commit request =>
      show (p.commitUplink request).2.inner = p.inner
      unfold KsaG10rReferenceOpsV1.commitUplink
      split <;> rfl
  | cancel request =>
      show (p.cancelUplink request).2.inner = p.inner
      unfold KsaG10rReferenceOpsV1.cancelUplink
      split <;> rfl

/-- What an answered action leaves at rest. -/
theorem Idle.submit (h : Idle pending k s) (hchecked : s.checkAction action = .ok ())
    (hnext : ∀ r, Resting pending k r →
      r.package.uplink.view.next (uplinkCallOf r action) = ⟨pending', 0⟩) :
    Idle pending' k (s.step (.submit action))
      ∧ SameBut s.watch (s.step (.submit action)).watch
      ∧ ((∀ request, action ≠ .commit request) → (s.step (.submit action)).procedure = s.procedure)
      ∧ ∃ r d, SubmitMove s r action d ∧ Resting pending k r
        ∧ (s.step (.submit action)).desk =
          { d with runner := some { r with package := r.package.step (packageCallOf action) } } := by
  obtain ⟨r, hrunner, hrest⟩ := h.runner
  obtain ⟨record, -, hsubmit, -, hguided, d, hmove, hdesk⟩ :=
    submit_answered h.guided h.isOpen h.canAct hrunner hrest.plan hchecked
  have hstep : s.step (.submit action) =
      (s.submitRecord r action).2.logAction s.releaseEpoch s.procedureStep record :=
    congrArg Prod.snd hsubmit
  have hwatch := watch_submitRecord (s := s) r action
  have hview := hnext r hrest
  have hsubmitted := view_submitted hrest.plan action
  have hframe := packageCallOf_frame r.package action
  have hinner : (r.package.step (packageCallOf action)).inner = r.package.inner :=
    packageCallOf_inner r.package action
  rw [hstep]
  refine ⟨?_, hwatch, procedure_submitRecord r, r, d, hmove, hrest, hdesk⟩
  exact {
    guided := ⟨hguided.onMission, hguided.ground, hguided.unprepared⟩
    lifecycle := by
      have hlifecycle : (s.submitRecord r action).2.lifecycle = s.lifecycle :=
        congrArg MissionWatch.lifecycle hwatch
      exact h.lifecycle.imp hlifecycle.trans hlifecycle.trans
    canAct := by
      refine (congrArg (fun d ↦ roleCanAct d.role) hdesk).trans ?_
      show roleCanAct d.role = true
      rw [hmove.role_eq]
      exact h.canAct
    epoch := (congrArg MissionDesk.releaseEpoch hdesk).trans (hmove.releaseEpoch_eq.trans h.epoch)
    runner := by
      refine ⟨_, congrArg MissionDesk.runner hdesk, ?_⟩
      rw [hview] at hsubmitted
      exact {
        plan := hframe.1.trans hrest.plan
        pending := congrArg UplinkView.pending hsubmitted
        unexecuted := congrArg UplinkView.lastExecutedIdentity hsubmitted
        epoch := hframe.2.trans hrest.epoch
        rest := hinner ▸ hrest.rest
        velocity := hrest.velocity }
    stagedLoad := by
      refine (congrArg MissionDesk.stagedLoad hdesk).trans ?_
      refine hmove.copied ?_ (congrArg UplinkView.pending hview)
      rw [h.stagedLoad, hrest.pending] }

/-- The arguments of a navigation update, as a list. -/
theorem updateArguments_toList (position velocity : Vec3) :
    (position ++ velocity ++ Vector.replicate 10 (0 : Int32)).toList.take 3 = position.toList
      ∧ ((position ++ velocity ++ Vector.replicate 10 (0 : Int32)).toList.drop 3).take 3 =
        velocity.toList := by
  have hlist : (position ++ velocity ++ Vector.replicate 10 (0 : Int32)).toList =
      position.toList ++ (velocity.toList ++ List.replicate 10 0) := by
    rw [Vector.toList_append, Vector.toList_append, Vector.toList_replicate, List.append_assoc]
  rw [hlist, List.drop_left' position.length_toList]
  exact ⟨List.take_left' position.length_toList, List.take_left' velocity.length_toList⟩

/-- The arguments of a navigation update, one by one. -/
theorem updateArguments_get (position velocity : Vec3) (axis : Fin 3) :
    (position ++ velocity ++ Vector.replicate 10 (0 : Int32)).get (axis.castLE (by decide)) =
        position.get axis
      ∧ (position ++ velocity ++ Vector.replicate 10 (0 : Int32)).get
          ((axis.natAdd 3).castLE (by decide)) = velocity.get axis := by
  constructor
  · show (position ++ velocity ++ Vector.replicate 10 (0 : Int32))[axis.val] = position[axis.val]
    rw [Vector.getElem_append_left (by omega), Vector.getElem_append_left axis.isLt]
  · show (position ++ velocity ++ Vector.replicate 10 (0 : Int32))[3 + axis.val] =
      velocity[axis.val]
    rw [Vector.getElem_append_left (by omega), Vector.getElem_append_right (by omega) (by omega)]
    simp

/-- A navigation update on the estimate of the vehicle on the pad. -/
structure PadUpdate (s : FullMissionSession) (stageEpoch effectiveEpoch : UInt32)
    (load : UplinkCommandLoad) : Prop where
  identity : load.loadIdentity = 0x12b50001
  manifest : load.packageManifestIdentity = ksaG10rReferenceOpsManifestId
  plan : load.planIdentity = fullGnssLossMissionPlan.planIdentity
  abi : load.abi = .globalKlr10V1
  stageEpoch_eq : load.stageEpoch = stageEpoch
  notBefore : load.notBeforeEpoch = stageEpoch + 2
  expires : load.expiresEpoch = effectiveEpoch + 64
  effective : load.requestedEffectiveEpoch = effectiveEpoch
  capabilities : load.requiredCapabilities = packageCapGroundNavUpdate
  prerequisite : load.prerequisiteEventMask = 0
  frame : load.frame = .localEnuV1
  type : load.loadType = .groundNavigationUpdate
  bound : s.loadBound load = true
  near : ∀ axis : Fin 3,
    (load.arguments.get (axis.castLE (by decide))).toInt.natAbs ≤ positionNoise
      ∧ (load.arguments.get ((axis.natAdd 3).castLE (by decide))).toInt.natAbs ≤ velocityNoise
  limits : UInt64.ofNat positionNoise ≤ load.positionResidualLimitQ12.toInt64.toUInt64
    ∧ UInt64.ofNat velocityNoise ≤ load.velocityResidualLimitQ24.toInt64.toUInt64

/-- On the pad there is an update to recommend. -/
theorem groundUpdateLoad_pad (hwatched : Watched k s.watch) (hk : 5 ≤ k)
    (stageEpoch effectiveEpoch : UInt32) :
    ∃ load, s.groundUpdateLoad stageEpoch effectiveEpoch = some load
      ∧ PadUpdate s stageEpoch effectiveEpoch load := by
  obtain ⟨ground, hground⟩ := Option.isSome_iff_exists.mp
    (hwatched.tracked.resolve_right (by omega))
  obtain ⟨flight, hflight, hunmoved⟩ := hwatched.flight (by omega)
  have hpad : PadEstimate ground :=
    hwatched.onPad.estimate ground (hwatched.onPad.latest.symm.trans hground)
  obtain ⟨n, hn, hposition⟩ := positionResidual_near (by decide) hpad.position
  obtain ⟨m, hm, hvelocity⟩ := positionResidual_near (by decide) hpad.velocity
  have hwithin : ¬(262144 < Int32.ofNat n ∨ 16777216 < Int32.ofNat m) := by
    rw [not_or, Int32.not_lt, Int32.not_lt]
    exact ⟨ofNat_le_of_le (by decide) (hn.trans (by decide)),
      ofNat_le_of_le (by decide) (hm.trans (by decide))⟩
  have hlimit : ∀ n ≤ positionNoise, UInt64.ofNat positionNoise ≤
      (min (addSatI32 (Int32.ofNat n) 4096) 262144).toInt64.toUInt64 := by decide +kernel
  have hlimit' : ∀ m ≤ velocityNoise, UInt64.ofNat velocityNoise ≤
      (min (addSatI32 (Int32.ofNat m) 65536) 16777216).toInt64.toUInt64 := by decide +kernel
  unfold groundUpdateLoad
  rw [show s.latestGround = some ground from hground, show s.latestFlight = some flight from hflight]
  dsimp only
  rw [hunmoved.position, hunmoved.velocity, hposition, hvelocity, if_neg hwithin]
  refine ⟨_, rfl, ⟨rfl, rfl, rfl, rfl, rfl, rfl, rfl, rfl, rfl, rfl, hpad.frame, rfl, ?_, ?_,
    hlimit n hn, hlimit' m hm⟩⟩
  · unfold loadBound
    dsimp only
    rw [show s.latestGround = some ground from hground, Option.any_some]
    unfold carriesEstimate
    dsimp only
    obtain ⟨hfirst, hsecond⟩ := updateArguments_toList ground.positionQ12Km ground.velocityQ24KmS
    rw [beq_self_eq_true, beq_self_eq_true, beq_self_eq_true]
    exact Bool.and_eq_true_iff.mpr ⟨beq_iff_eq.mpr hfirst, beq_iff_eq.mpr hsecond⟩
  · intro axis
    obtain ⟨hfirst, hsecond⟩ := updateArguments_get ground.positionQ12Km ground.velocityQ24KmS axis
    exact ⟨(congrArg (fun v : Int32 ↦ v.toInt.natAbs) hfirst).trans_le (hpad.position axis axis.isLt),
      (congrArg (fun v : Int32 ↦ v.toInt.natAbs) hsecond).trans_le (hpad.velocity axis axis.isLt)⟩

/-- The distance of a near component from one at the origin. -/
theorem residual_near {bound : Nat} {value : Int32} (hbound : bound < 2 ^ 20)
    (h : value.toInt.natAbs ≤ bound) : Flight.residual value 0 ≤ UInt64.ofNat bound := by
  rw [UInt64.le_iff_toNat_le, UInt64.toNat_ofNat_of_lt' (by show bound < 2 ^ 64; omega)]
  unfold Flight.residual unsignedAbs64
  have hlt := value.toInt_lt
  have hle := value.le_toInt
  rw [UInt64.toNat_ofNat', Int64.toInt_sub, Int32.toInt_toInt64, Int32.toInt_toInt64,
    show (0 : Int32).toInt = 0 from rfl, Int.bmod_eq_of_le (by omega) (by omega)]
  refine (Nat.mod_le _ _).trans ?_
  omega

/-- The package finds nothing wrong with the update. -/
theorem PadUpdate.validateStage {stageEpoch effectiveEpoch : UInt32}
    (h : PadUpdate s stageEpoch effectiveEpoch load) {navigation : GlobalNavigation}
    (hnavigation : Unmoved navigation) (hstage : stageEpoch.toNat + 2 ≤ effectiveEpoch.toNat)
    (heffective : effectiveEpoch.toNat + 64 < 2 ^ 32) (mask : UInt32) :
    validateStage load stageEpoch mask navigation ksaG10rReferenceOpsManifest
      fullGnssLossMissionPlan = .accepted := by
  have hexpires : (effectiveEpoch + 64).toNat = effectiveEpoch.toNat + 64 := by
    rw [UInt32.toNat_add]
    exact Nat.mod_eq_of_lt heffective
  have hafter : (addSat32 stageEpoch 2).toNat = stageEpoch.toNat + 2 := by
    rw [toNat_addSat32]
    show min (stageEpoch.toNat + 2) (2 ^ 32 - 1) = _
    omega
  have hnotBefore : (stageEpoch + 2).toNat = stageEpoch.toNat + 2 := by
    rw [UInt32.toNat_add]
    exact Nat.mod_eq_of_lt (by show stageEpoch.toNat + 2 < 2 ^ 32; omega)
  have hzero : ∀ axis : Fin 3, atOrigin.get axis = 0 := by decide +kernel
  have hresidual : (List.finRange 3).any (fun axis ↦
      load.positionResidualLimitQ12.toInt64.toUInt64
            < residual (load.arguments.get (axis.castLE (by decide)))
              (navigation.positionQ12.get axis)
          || load.velocityResidualLimitQ24.toInt64.toUInt64
            < residual (load.arguments.get ((axis.natAdd 3).castLE (by decide)))
              (navigation.velocityQ24.get axis)) = false := by
    rw [List.any_eq_false]
    intro axis _
    rw [hnavigation.position, hnavigation.velocity, hzero]
    simp only [Bool.or_eq_true, decide_eq_true_eq, not_or, UInt64.not_lt]
    exact ⟨UInt64.le_trans (residual_near (by decide) (h.near axis).1) h.limits.1,
      UInt64.le_trans (residual_near (by decide) (h.near axis).2) h.limits.2⟩
  unfold Flight.validateStage
  rw [if_neg, if_neg, if_neg, if_neg, if_neg, if_neg, if_neg, if_neg]
  · rintro ⟨-, hany⟩
    exact Bool.false_ne_true (hresidual.symm.trans hany)
  · rw [h.prerequisite]
    exact fun hmask ↦ hmask (UInt32.and_zero ..)
  · rw [h.capabilities, h.type]
    decide
  · rw [h.type]
    decide
  · rw [h.effective, h.notBefore, h.expires, not_or, not_or, UInt32.not_lt, UInt32.not_lt,
      UInt32.not_lt]
    simp only [UInt32.le_iff_toNat_le]
    omega
  · rw [h.stageEpoch_eq, h.expires, not_or, UInt32.not_lt, UInt32.le_iff_toNat_le]
    exact ⟨not_not.mpr rfl, by omega⟩
  · rw [h.frame, hnavigation.frame]
    exact not_not.mpr rfl
  · rw [h.manifest, h.plan, h.abi]
    decide

/-- Staging the update on the pad. -/
theorem Idle.stage_update (h : Idle none k s) {effectiveEpoch : UInt32}
    (hload : PadUpdate s (UInt32.ofNat k) effectiveEpoch load)
    (hstage : k + 2 ≤ effectiveEpoch.toNat) (heffective : effectiveEpoch.toNat + 64 < 2 ^ 32)
    (mask : UInt32) :
    Idle (some (.stage load)) k (s.step (.submit (.stage load mask)))
      ∧ (s.step (.submit (.stage load mask))).watch = s.watch := by
  have hchecked : s.checkAction (.stage load mask) = .ok () := if_pos hload.bound
  obtain ⟨hidle, hwatch, hprocedure, -⟩ :=
    @Idle.submit s k none (some (.stage load)) _ h hchecked fun r hrest ↦ by
      have hadm : r.package.uplink.view.StageAdmitted load
          (validateStage load r.package.epoch mask r.package.inner.navigation
            ksaG10rReferenceOpsManifest fullGnssLossMissionPlan) := by
        refine ⟨?_, hrest.pending, ?_⟩
        · rw [show r.package.uplink.view.lastExecutedIdentity = 0 from hrest.unexecuted,
            hload.identity]
          decide
        · rw [hrest.epoch]
          refine hload.validateStage hrest.rest.unmoved ?_ heffective mask
          rwa [UInt32.toNat_ofNat_of_lt' (by show k < 2 ^ 32; omega)]
      exact (if_pos hadm).trans (congrArg (UplinkView.mk _) hrest.unexecuted)
  refine ⟨hidle, ?_⟩
  rw [hwatch]
  exact congrArg (fun procedure ↦ ({ s.watch with procedure := procedure } : MissionWatch))
    (hprocedure nofun)

/-- In the step that requests the update, the procedure takes it. -/
theorem accepts_update {procedure : Option ProcedureEngine} (h : StandsAt k procedure)
    (hk : 5923 ≤ k) (hprocedure : s.procedure = procedure) :
    s.procedureAccepts .groundNavigationUpdate = true := by
  obtain ⟨-, e, hsome, hat⟩ := h.resolve_left (by omega)
  have hstep : stepAt k = (4, 5922) := by
    rw [stepAt, if_neg (by omega), if_neg (by omega)]
  rw [hstep] at hat
  have hcurrent : e.current = some (fullActionStep 4 .groundNavigationUpdate 5) := by
    unfold ProcedureEngine.current
    rw [hat.pack_eq, hat.currentStep_eq]
    decide
  unfold procedureAccepts
  rw [hprocedure, hsome, Option.any_some, hat.state_eq, hcurrent]
  rfl

/-- Nothing is executed while no load is committed. -/
theorem Idle.executes_nothing (h : Idle pending k s) (hpending : Uncommitted pending k)
    (call : FullMissionCall) : s.executed call = none := by
  obtain ⟨r, hrunner, hrest⟩ := h.runner
  unfold executed
  cases s.releasedCells call with
  | none => rfl
  | some cells =>
      rw [Option.bind_some, hrunner, Option.bind_some]
      refine (handedOut_released hrest.plan cells).trans ?_
      unfold UplinkView.handedOut
      dsimp only
      rw [view_pending, hrest.pending]
      cases pending with
      | none => rfl
      | some p =>
          dsimp only
          split
          · rfl
          · exact if_pos (.inl (hpending p rfl).1)

/-- The call executes a load. -/
def Executes (s : FullMissionSession) (call : FullMissionCall) : Prop := s.executed call ≠ none

theorem idle_executes_nothing (h : Idle pending k s) (n : Nat) (hn : k + n ≤ 24000)
    (hpending : ∀ m < n, Uncommitted pending (k + m)) :
    ¬Happens FullMissionSession.step Executes s (restReleases k n) := by
  refine (idle_induction h n hn hpending (P := fun m ↦
    ¬Happens FullMissionSession.step Executes s (restReleases k m)) id ?_).2
  intro m hm hidle hbefore
  rw [restReleases_succ, happens_concat, not_or]
  exact ⟨hbefore, not_not.mpr (hidle.executes_nothing (hpending m hm) _)⟩

/-- An announcement for later stays. -/
theorem idle_keeps_reset (h : Idle pending k s) (n : Nat) (hn : k + n ≤ 24000)
    (hpending : ∀ m < n, Uncommitted pending (k + m)) {due : UInt32} (hdue : k + n ≤ due.toNat)
    (hreset : s.pendingNavigationResetRelease = some due) :
    (run FullMissionSession.step s (restReleases k n)).pendingNavigationResetRelease =
      some due := by
  refine (idle_induction h n hn hpending (P := fun m ↦
    (run FullMissionSession.step s (restReleases k m)).pendingNavigationResetRelease = some due)
    hreset ?_).2
  intro m hm hidle hbefore
  have hearlier : ¬due = UInt32.ofNat (k + m) := by
    rintro rfl
    rw [UInt32.toNat_ofNat_of_lt' (by show k + m < 2 ^ 32; omega)] at hdue
    omega
  obtain ⟨-, hdesk, -⟩ := hidle.step (by omega) (hpending m hm)
  rw [restReleases_succ, run_concat]
  refine (congrArg MissionDesk.pendingNavigationResetRelease hdesk).trans ?_
  generalize run FullMissionSession.step s (restReleases k m) = t at *
  have hlater : ¬t.desk.pendingNavigationResetRelease = some t.releaseEpoch := by
    rw [hidle.epoch]
    exact fun hnow ↦ hearlier (Option.some.inj (hbefore.symm.trans hnow))
  show (if decide (t.desk.pendingNavigationResetRelease = some t.releaseEpoch) = true then none
    else t.desk.pendingNavigationResetRelease) = some due
  rw [if_neg (by rwa [decide_eq_true_iff])]
  exact hbefore

end Action

end Ksa64.Session
