import Ksa64.Flight.SpatialFlight
import Mathlib.Data.List.Chain

/-!
# Runs of the spatial flight computer

The computer fails closed.  What it has flown through is what it has checked, and the rest of its
runs is the abort.
-/

namespace Ksa64.Flight

open Ksa64.Library Ksa64.Interface SpatialFlight

namespace SpatialFlightComputer

section Runs

variable {c : SpatialFlightComputer} {frame : SpatialSensorFrame} {i : Input}

/-- A step that leaves the abort alone has checked its frame, and has counted it. -/
structure Flown (c : SpatialFlightComputer) (i : Input) (frame : SpatialSensorFrame) : Prop where
  parsed : i.parsed = some frame
  sound : c.status.abortLatched = false
  updated : (c.navigation.update frame).1.isOk
  accepts : c.navigation.Accepts frame
  actuator : frame.validity &&& sensorValidActuator ≠ 0
  navigation : (c.after i).navigation = (c.navigation.update frame).2
  counted : (c.after i).status.trackingBadSteps = (c.countTracking frame).status.trackingBadSteps
  tracked : (c.after i).status.trackingBadSteps < trackingLimitSteps

theorem step_flown (hsettled : c.Settled) (h : (c.after i).status.abortLatched = false) :
    ∃ frame, c.Flown i frame := by
  rcases c.step_cases i hsettled with ⟨hlatched, -⟩ |
    ⟨frame, navigation, target, gains, hparsed, hupdate, hsound, hstep, -⟩
  · rw [h] at hlatched
    cases hlatched
  · have hafter : c.after i = ({ c with navigation := (c.navigation.update frame).2 }.fly frame
        navigation target gains).2 := congrArg Prod.snd hstep
    rcases fly_cases { c with navigation := (c.navigation.update frame).2 } frame navigation target
      gains hsound with ⟨before, hlatched, -, hfly⟩ |
        ⟨_, _, hactuator, htracked, -, hcounted, hnavigation, -⟩
    · have hkept := (@safeOutput_eq before frame.sequence).2.2.1
      rw [hafter, hfly, hkept, hlatched] at h
      cases h
    · refine ⟨frame, hparsed, hsound, hupdate ▸ rfl, SpatialNavigation.update_ok hupdate, hactuator,
        ?_, ?_, ?_⟩
      · rw [hafter]
        exact hnavigation
      · rw [hafter]
        exact hcounted
      · rw [hafter, hcounted]
        exact htracked

/-! ## The frames flown through -/

/-- The time an accepted frame is ahead, as a number. -/
theorem elapsed_bounds (h : c.navigation.Accepts frame) :
    (c.navigation.initialized = true →
      0 ≤ frame.onboardTimeQ16.toInt - c.navigation.state.timeQ16.toInt
        ∧ frame.onboardTimeQ16.toInt - c.navigation.state.timeQ16.toInt ≤ 16384)
      ∧ (c.navigation.initialized = false → First frame) := by
  obtain ⟨hlow, hhigh⟩ := h.elapsed
  rw [Int32.le_iff_toInt_le] at hlow hhigh
  have hzero : (0 : Int32).toInt = 0 := by decide
  have hlongest : SpatialNavigation.longestStepQ16.toInt = 16384 := by decide
  rw [hzero] at hlow
  rw [hlongest] at hhigh
  unfold SpatialNavigation.elapsedQ16 at hlow hhigh
  constructor
  · intro hinitialized
    rw [if_pos hinitialized] at hlow hhigh
    unfold subSatI32 at hlow hhigh
    rw [toInt_clampI32] at hlow hhigh
    omega
  · intro hfresh
    rw [hfresh, if_neg Bool.false_ne_true] at hlow hhigh
    exact ⟨hlow, hhigh⟩

/-- The estimate is at the last of the frames. -/
structure Follows (frames : List SpatialSensorFrame) (nav : SpatialNavigation) : Prop where
  complete : ∀ frame ∈ frames, Complete frame
  chain : frames.IsChain Next
  first : ∀ frame ∈ frames.head?, First frame
  initialized : nav.initialized = true ↔ frames ≠ []
  last : ∀ frame ∈ frames.getLast?,
    nav.state.sequence = frame.sequence ∧ nav.state.timeQ16 = frame.onboardTimeQ16

theorem follows_nil {nav : SpatialNavigation} (h : nav.initialized = false) : Follows [] nav where
  complete := List.forall_mem_nil _
  chain := List.IsChain.nil
  first := by
    intro frame hframe
    cases hframe
  initialized := by
    rw [h]
    exact ⟨fun hfalse ↦ absurd hfalse Bool.false_ne_true, fun hne ↦ absurd rfl hne⟩
  last := by
    intro frame hframe
    cases hframe

theorem follows_concat {frames : List SpatialSensorFrame} (h : Follows frames c.navigation)
    (hflown : c.Flown i frame) : Follows (frames ++ [frame]) (c.after i).navigation where
  complete := by
    rw [List.forall_mem_append, List.forall_mem_singleton]
    exact ⟨h.complete, hflown.accepts.valid, hflown.actuator⟩
  chain := by
    refine List.isChain_append.mpr ⟨h.chain, List.isChain_singleton _, ?_⟩
    intro before hbefore next hnext
    obtain rfl : frame = next := Option.some_inj.mp hnext
    have hinitialized : c.navigation.initialized = true := by
      rw [h.initialized]
      rintro rfl
      cases hbefore
    obtain ⟨hsequence, htime⟩ := h.last before hbefore
    have helapsed := (elapsed_bounds hflown.accepts).1 hinitialized
    rw [htime] at helapsed
    refine ⟨?_, helapsed⟩
    rw [hflown.accepts.sequence hinitialized, hsequence]
  first := by
    intro first hfirst
    cases frames with
    | nil =>
        obtain rfl : frame = first := Option.some_inj.mp hfirst
        refine (elapsed_bounds hflown.accepts).2 ?_
        rw [← Bool.not_eq_true, h.initialized]
        exact not_not.mpr rfl
    | cons head rest => exact h.first first hfirst
  initialized := by
    rw [hflown.navigation]
    exact ⟨fun _ ↦ List.append_ne_nil_of_right_ne_nil _ (List.cons_ne_nil _ _),
      fun _ ↦ hflown.accepts.initialized⟩
  last := by
    intro last hlast
    rw [List.getLast?_concat] at hlast
    obtain rfl : frame = last := Option.some_inj.mp hlast
    rw [hflown.navigation]
    exact hflown.accepts.stamped

/-- Not aborted, the computer has flown through every input. -/
def Tracks (is : List Input) (c : SpatialFlightComputer) : Prop :=
  c.Settled ∧ (c.status.abortLatched = false →
    ∃ frames : List SpatialSensorFrame, is.map Input.parsed = frames.map some
      ∧ Follows frames c.navigation)

theorem tracks_new : Tracks [] new :=
  ⟨fun h ↦ absurd h Bool.false_ne_true, fun _ ↦ ⟨[], rfl, follows_nil rfl⟩⟩

theorem tracks_after {is : List Input} (h : Tracks is c) (i : Input) :
    Tracks (is ++ [i]) (c.after i) := by
  refine ⟨after_settled h.1, fun hsound ↦ ?_⟩
  obtain ⟨frame, hflown⟩ := step_flown h.1 hsound
  obtain ⟨frames, hparsed, hfollows⟩ := h.2 hflown.sound
  refine ⟨frames ++ [frame], ?_, follows_concat hfollows hflown⟩
  rw [List.map_append, List.map_append, hparsed, List.map_singleton, List.map_singleton,
    hflown.parsed]

theorem tracks_run (is : List Input) : Tracks is (run after new is) :=
  history_invariant Tracks (fun _ _ i h ↦ tracks_after h i) tracks_new is

theorem settled_run (is : List Input) : (run after new is).Settled := (tracks_run is).1

theorem trusted_run {is : List Input} (h : (run after new is).status.abortLatched = false) :
    Trusted is := by
  obtain ⟨frames, hparsed, hfollows⟩ := (tracks_run is).2 h
  exact ⟨frames, hparsed, hfollows.complete, hfollows.chain, hfollows.first⟩

/-! ## The actuator -/

/-- Where the magnitude is a number, it is the distance. -/
theorem lt_abs32_subSatI32 {a b : Int32} (h : subSatI32 a b ≠ -2147483648) :
    trackingLimitQ16 < abs32 (subSatI32 a b) ↔ 2288 < (a.toInt - b.toInt).natAbs := by
  have hvalue : (subSatI32 a b).toInt = max (-2 ^ 31) (min (2 ^ 31 - 1) (a.toInt - b.toInt)) :=
    toInt_clampI32 _
  have hne : (subSatI32 a b).toInt ≠ -2 ^ 31 :=
    fun heq ↦ h (Int32.toInt_inj.mp (heq.trans (by decide)))
  have hzero : (0 : Int32).toInt = 0 := by decide
  have hlimit : trackingLimitQ16.toInt = 2288 := by decide
  generalize subSatI32 a b = d at hvalue hne
  rw [Int32.lt_iff_toInt_lt, hlimit]
  unfold abs32
  by_cases hneg : d < 0
  · rw [if_pos hneg, Int32.toInt_neg, Int.bmod_eq_of_le (by omega) (by omega)]
    rw [Int32.lt_iff_toInt_lt, hzero] at hneg
    omega
  · rw [if_neg hneg]
    rw [Int32.lt_iff_toInt_lt, hzero] at hneg
    omega

theorem isOff_of_exceeds (hflown : c.Flown i frame) (hexceeds : c.Exceeds i)
    (hclear : ¬c.Overflows i) : c.isOff frame = true := by
  obtain ⟨given, hgiven, hfar⟩ := hexceeds
  obtain rfl : frame = given := Option.some_inj.mp (hflown.parsed.symm.trans hgiven)
  have hnone : ¬(subSatI32 (Pair.first frame.gimbalAppliedQ16) (Pair.first c.previousCommand.gimbalQ16)
      = -2147483648 ∨ subSatI32 (Pair.second frame.gimbalAppliedQ16)
        (Pair.second c.previousCommand.gimbalQ16) = -2147483648) := fun hleast ↦
    hclear ⟨frame, hgiven, hflown.updated, hflown.sound, hflown.actuator, hleast⟩
  obtain ⟨hpitch, hyaw⟩ := not_or.mp hnone
  unfold isOff
  rw [Bool.or_eq_true, decide_eq_true_eq, decide_eq_true_eq, lt_abs32_subSatI32 hpitch,
    lt_abs32_subSatI32 hyaw]
  exact hfar

/-- A frame that exceeds the limit counts. -/
theorem counted_of_exceeds (hflown : c.Flown i frame) (hexceeds : c.Exceeds i)
    (hclear : ¬c.Overflows i) :
    (c.after i).status.trackingBadSteps.toNat = c.status.trackingBadSteps.toNat + 1 := by
  have hlimit : trackingLimitSteps.toNat = 16 := rfl
  have htracked := hflown.tracked
  have hcounted : (c.after i).status.trackingBadSteps = addSat8 c.status.trackingBadSteps 1 := by
    rw [hflown.counted]
    unfold countTracking
    dsimp only
    rw [isOff_of_exceeds hflown hexceeds hclear, if_pos rfl]
  rw [UInt8.lt_iff_toNat_lt, hlimit, hcounted, toNat_addSat8, UInt8.toNat_one] at htracked
  rw [hcounted, toNat_addSat8, UInt8.toNat_one]
  omega

theorem sound_of_run (hsettled : c.Settled) (is : List Input)
    (h : (run after c is).status.abortLatched = false) : c.status.abortLatched = false := by
  by_contra hlatched
  rw [Bool.not_eq_false] at hlatched
  have hkept : (run after c is).Settled ∧ (run after c is).status.abortLatched = true :=
    run_invariant after (fun c ↦ c.Settled ∧ c.status.abortLatched = true)
      (fun _ _ hinv ↦ ⟨after_settled hinv.1, after_latched hinv.1 hinv.2⟩) ⟨hsettled, hlatched⟩ is
  rw [hkept.2] at h
  cases h

/-- The count of a streak of frames that exceed the limit. -/
theorem counted_run (hsettled : c.Settled) {streak : List Input}
    (hexceeds : Meets after Exceeds c streak) (hclear : Meets after (fun c i ↦ ¬c.Overflows i) c streak)
    (hsound : (run after c streak).status.abortLatched = false) :
    (run after c streak).status.trackingBadSteps.toNat
      = c.status.trackingBadSteps.toNat + streak.length := by
  induction streak generalizing c with
  | nil => rfl
  | cons i is ih =>
      have hafter : (c.after i).Settled := after_settled hsettled
      obtain ⟨frame, hflown⟩ := step_flown hsettled (sound_of_run hafter is hsound)
      have hnext := counted_of_exceeds hflown hexceeds.1 hclear.1
      rw [run_cons, ih hafter hexceeds.2 hclear.2 hsound, hnext, List.length_cons, Nat.add_assoc,
        Nat.add_comm 1]

theorem tracked_after (hsettled : c.Settled) (h : (c.after i).status.abortLatched = false) :
    (c.after i).status.trackingBadSteps.toNat < 16 := by
  obtain ⟨frame, hflown⟩ := step_flown hsettled h
  exact UInt8.lt_iff_toNat_lt.mp hflown.tracked

/-- Sixteen frames in a row that exceed the limit abort. -/
theorem not_exceeds_run (hsettled : c.Settled) {streak : List Input} (hlength : streak.length = 16)
    (hclear : Meets after (fun c i ↦ ¬c.Overflows i) c streak)
    (hsound : (run after c streak).status.abortLatched = false) : ¬Meets after Exceeds c streak := by
  intro hexceeds
  have hcounted := counted_run hsettled hexceeds hclear hsound
  rcases List.eq_nil_or_concat streak with rfl | ⟨init, last, rfl⟩
  · cases hlength
  · rw [List.concat_eq_append] at hcounted hlength hsound
    rw [run_concat] at hcounted hsound
    have hbefore : (run after c init).Settled :=
      run_invariant after Settled (fun _ _ ↦ after_settled) hsettled init
    have htracked := tracked_after hbefore hsound
    omega

/-- The computer fails closed. -/
theorem fails_closed (is : List Input) (h : Meets after (fun c i ↦ ¬c.Overflows i) new is) :
    FailsClosed new is where
  absorbing := meets_iff_forall.mpr fun pre _ _ _ ↦ after_latched (settled_run pre)
  safed := meets_iff_forall.mpr fun pre _ _ _ ↦ safed_of_latched (settled_run pre)
  limited := meets_iff_forall.mpr fun pre _ _ _ ↦ step_limited (settled_run pre)
  trusted := fun _ _ _ hsound ↦ trusted_run hsound
  tracked := by
    rintro pre streak post rfl hlength hsound
    rw [run_append] at hsound
    have hclear := (meets_append.mp (meets_append.mp h).1).2
    exact not_exceeds_run (settled_run pre) hlength hclear hsound

/-- A frame on the pad. -/
def padFrame : SpatialSensorFrame where
  sequence := 0
  onboardTimeQ16 := 0
  validity := sensorValidImu ||| sensorValidClock ||| sensorValidActuator
  events := 0
  accelBodyQ28 := Axes.all 0
  gyroBodyQ24 := Axes.all 0
  gpsPositionQ12 := Axes.all 0
  gpsVelocityQ24 := Axes.all 0
  starAttitudeQ30 := SpatialNavigation.initialAttitude
  baroAltitudeQ12 := 0
  gimbalAppliedQ16 := Pair.of 0 0
  rcsPropellantQ12 := 0
  activeStage := 0
  stagePhase := .burning
  engineOn := true

def padTarget : SpatialGuidanceTarget := ⟨SpatialNavigation.initialAttitude, Axes.all 0⟩

/-- A frame, and then bytes that are none. -/
def cutOff : List Input :=
  [.given padFrame padTarget .referenceStage1, .serialized [] padTarget .referenceStage1]

theorem fails_closed_cutOff :
    (run after new (cutOff.take 1)).status.abortLatched = false
      ∧ (run after new cutOff).status.abortLatched = true ∧ FailsClosed new cutOff := by
  refine ⟨by decide +kernel, by decide +kernel, fails_closed cutOff ⟨?_, ?_, trivial⟩⟩
  · rintro ⟨frame, hframe, -, -, -, hleast⟩
    obtain rfl : padFrame = frame := Option.some_inj.mp hframe
    revert hleast
    decide +kernel
  · rintro ⟨frame, hframe, -⟩
    cases hframe

end Runs

end SpatialFlightComputer

end Ksa64.Flight
