import Ksa64.Sim.WorldSteps

/-!
# The forces agree with the state of the vehicle

The motor may push only while it burns, and the air drags at the parachute that is out.  On the
rail, in the global frames and on the way down to the landing the forces are computed by rules of
their own, so the agreement is looked at in each segment.
-/

namespace Ksa64.Sim

open Ksa64.Library Ksa64.Core Ksa64.Interface

namespace GlobalWorldMachine

/-- The motor pushes at a time of the step: on the rail always, in the global frames if it is
powered, under the parachutes never. -/
def motorActs (w : GlobalWorldMachine) (time : MissionTimeQ16) : Prop :=
  match w.segment with
  | .localLaunch => time = w.currentTime
  | .ecefAscent | .eciCoast | .ecefEntry => w.powered time = true
  | .localRecovery => False

/-- The body the air drags at in a step. -/
def stepDragBody (w : GlobalWorldMachine) : DragBody :=
  match w.segment with
  | .localLaunch => .vehicle
  | .ecefAscent | .eciCoast | .ecefEntry => w.sampleDragBody
  | .localRecovery => w.recoveryDragBody

/-- The body the air should drag at. -/
def deployedBody (w : GlobalWorldMachine) : DragBody :=
  if w.main then .main else if w.drogue then .drogue else .vehicle

/-- The forces of a step agree with the state of the vehicle. -/
structure ForcesAgree (w : GlobalWorldMachine) : Prop where
  motor : ∀ time, w.motorActs time →
    time.raw < w.vehicle.burnTimeQ16S ∧ 0 < w.mainPropellantQ21
  drag : w.stepDragBody = w.deployedBody

/-! ## What the steps take -/

section Steps

variable (w : GlobalWorldMachine)

/-- The world with another thrust of its motor. -/
def withThrust (thrust : Int32) : GlobalWorldMachine :=
  { w with vehicle := { w.vehicle with thrustQ13N := thrust } }

/-- What the torque of the air, the jets and the masses are told from does not know the thrust. -/
theorem controlled_withThrust {state : GlobalKinematicState} {airVelocity : GlobalVelocityVec}
    {air : AirData} (thrust : Int32) :
    (w.withThrust thrust).controlledForceAndTorque state airVelocity air false
      = w.controlledForceAndTorque state airVelocity air false := by
  have hknot : (w.withThrust thrust).aeroKnot air.machQ24 = w.aeroKnot air.machQ24 := rfl
  have hnormal : (w.withThrust thrust).normalForce = w.normalForce := rfl
  have hmass : (w.withThrust thrust).totalMassQ21 = w.totalMassQ21 := rfl
  have hcg : (w.withThrust thrust).cgFromNoseQ28 = w.cgFromNoseQ28 := rfl
  have hjets : ∀ cg, sampleRcsEffectors (w.withThrust thrust).actuators
      (w.withThrust thrust).vehicle cg = sampleRcsEffectors w.actuators w.vehicle cg := fun _ ↦ rfl
  have hdrogue : (w.withThrust thrust).drogue = w.drogue := rfl
  unfold controlledForceAndTorque
  simp only [hknot, hnormal, hmass, hcg, hjets, hdrogue, Bool.false_eq_true, if_false]

/-- In the global frames the thrust matters only where the motor acts. -/
theorem forceSample_withThrust {state : GlobalKinematicState} (massQ21 thrust : Int32)
    (controlled : Bool) (h : w.powered state.time = false) :
    (w.withThrust thrust).forceSampleWithMass state massQ21 controlled
      = w.forceSampleWithMass state massQ21 controlled := by
  have hpowered : (w.withThrust thrust).powered state.time = false := h
  have hpropulsion : ∀ ecef air airVelocity acceleration,
      (w.withThrust thrust).propulsion state ecef massQ21 airVelocity air acceleration controlled
        = w.propulsion state ecef massQ21 airVelocity air acceleration controlled := by
    intro ecef air airVelocity acceleration
    unfold propulsion
    simp only [h, hpowered, controlled_withThrust, Bool.false_eq_true, if_false]
  have hpacks : (w.withThrust thrust).transforms = w.transforms
      ∧ (w.withThrust thrust).atmosphere = w.atmosphere
      ∧ (w.withThrust thrust).earth = w.earth
      ∧ (w.withThrust thrust).segment = w.segment := ⟨rfl, rfl, rfl, rfl⟩
  have harea : (w.withThrust thrust).sampleDragArea = w.sampleDragArea := rfl
  have hcoefficient : (w.withThrust thrust).sampleDragCoefficient = w.sampleDragCoefficient := rfl
  unfold forceSampleWithMass
  simp only [hpropulsion, hpacks, harea, hcoefficient]

/-- Under the parachutes the thrust does not matter. -/
theorem recoveryMove_withThrust (thrust : Int32) (state : LocalKinematicState) :
    (w.withThrust thrust).recoveryMove state = w.recoveryMove state := rfl

/-- On the rail the parachutes do not matter. -/
theorem launchMove_withParachutes (drogue main : Bool) (state : LocalKinematicState) :
    ({ w with drogue := drogue, main := main } : GlobalWorldMachine).launchMove state
      = w.launchMove state := rfl

end Steps

/-! ## Where they agree -/

section Agreement

variable {w : GlobalWorldMachine}

/-- The main parachute is not out alone. -/
def Sequenced (w : GlobalWorldMachine) : Prop := w.main = true → w.drogue = true

/-- Commands open the main parachute after the drogue only. -/
theorem Sequenced.commanded (h : w.Sequenced) (command : GlobalCommandCell) :
    (w.after (some command)).Sequenced := by
  by_cases htakes : w.Takes (some command)
  · obtain ⟨u, hunder, -, hprocessed⟩ :=
      @after_processed w (some command) (fun _ ↦ True) htakes trivial (fun _ _ _ ↦ trivial)
        fun _ _ _ ↦ trivial
    intro hmain
    have hkept : u.main = w.main ∧ u.drogue = w.drogue := by
      rw [hunder]
      exact ⟨rfl, rfl⟩
    rcases hprocessed.main hmain with hbefore | hdrogue | ⟨hnone, -⟩
    · have hdrogue := h (hkept.1.symm.trans hbefore)
      rcases hprocessed.onward.latches.drogue with heq | hout
      · rw [heq, hkept.2, hdrogue]
      · exact hout.1
    · exact hdrogue
    · cases hnone
  · rw [after_of_not_takes w (some command) htakes]
    exact h

/-- A new world has no parachute out and has not changed its segment. -/
theorem new_latches {p : WorldPacks} (h : new p = .ok w) : w.descending = false
    ∧ w.drogue = false ∧ w.main = false ∧ w.complete = false ∧ w.transitionCount = 0 := by
  unfold new at h
  obtain ⟨_, -, h⟩ := bind_eq_ok.mp h
  obtain ⟨_, -, h⟩ := bind_eq_ok.mp h
  obtain ⟨_, -, h⟩ := bind_eq_ok.mp h
  obtain ⟨_, -, h⟩ := bind_eq_ok.mp h
  obtain ⟨_, -, h⟩ := bind_eq_ok.mp h
  cases h
  exact ⟨rfl, rfl, rfl, rfl, rfl⟩

/-- Where the main parachute is not out alone, the forces agree unless the motor should not burn
on the rail, a parachute is out there, or none is out on the way down. -/
theorem forcesAgree_of_sequenced_iff (h : w.Sequenced) : w.ForcesAgree ↔
    (w.segment = .localLaunch → w.powered w.currentTime = true ∧ w.drogue = false)
      ∧ (w.segment = .localRecovery → w.drogue = true) := by
  have hpowered : ∀ time, w.powered time = true ↔
      time.raw < w.vehicle.burnTimeQ16S ∧ 0 < w.mainPropellantQ21 := fun time ↦ by
    unfold powered
    rw [Bool.and_eq_true, decide_eq_true_iff, decide_eq_true_iff]
  have hglobal : w.sampleDragBody = w.deployedBody := by
    unfold Sequenced at h
    unfold sampleDragBody deployedBody
    cases hd : w.drogue <;> cases hm : w.main
    · rfl
    · exact absurd ((h hm).symm.trans hd) nofun
    · rfl
    · rfl
  have hlaunch : DragBody.vehicle = w.deployedBody ↔ w.drogue = false := by
    unfold Sequenced at h
    unfold deployedBody
    cases hd : w.drogue <;> cases hm : w.main
    · exact ⟨fun _ ↦ rfl, fun _ ↦ rfl⟩
    · exact absurd ((h hm).symm.trans hd) nofun
    · exact ⟨nofun, nofun⟩
    · exact ⟨nofun, nofun⟩
  have hrecovery : w.recoveryDragBody = w.deployedBody ↔ w.drogue = true := by
    unfold Sequenced at h
    unfold recoveryDragBody deployedBody
    cases hd : w.drogue <;> cases hm : w.main
    · exact ⟨nofun, nofun⟩
    · exact absurd ((h hm).symm.trans hd) nofun
    · exact ⟨fun _ ↦ rfl, fun _ ↦ rfl⟩
    · exact ⟨fun _ ↦ rfl, fun _ ↦ rfl⟩
  have hagree : w.ForcesAgree ↔ (∀ time, w.motorActs time →
      time.raw < w.vehicle.burnTimeQ16S ∧ 0 < w.mainPropellantQ21)
      ∧ w.stepDragBody = w.deployedBody := ⟨fun h ↦ ⟨h.motor, h.drag⟩, fun h ↦ ⟨h.1, h.2⟩⟩
  rw [hagree]
  unfold motorActs stepDragBody
  cases hsegment : w.segment with
  | localLaunch =>
      dsimp only
      rw [hlaunch, hpowered]
      constructor
      · rintro ⟨hmotor, hdrag⟩
        exact ⟨fun _ ↦ ⟨hmotor _ rfl, hdrag⟩, nofun⟩
      · rintro ⟨hrail, -⟩
        refine ⟨?_, (hrail rfl).2⟩
        rintro _ rfl
        exact (hrail rfl).1
  | localRecovery =>
      dsimp only
      rw [hrecovery]
      constructor
      · rintro ⟨-, hdrag⟩
        exact ⟨nofun, fun _ ↦ hdrag⟩
      · rintro ⟨-, hdown⟩
        exact ⟨nofun, hdown rfl⟩
  | ecefAscent | eciCoast | ecefEntry =>
      dsimp only
      exact ⟨fun _ ↦ ⟨nofun, nofun⟩, fun _ ↦ ⟨fun time ↦ (hpowered time).mp, hglobal⟩⟩

end Agreement

/-! ## A vehicle that hops -/

def hopEarth : EarthModelPack where
  identity := 1
  gravity := .centralJ2V1
  orientation := .iers2010CompiledV1
  atmosphere := .compiledProfileV1
  semiMajorQ12Km := wgs84SemiMajorQ12Km
  semiMinorQ12Km := wgs84SemiMinorQ12Km
  inverseFlatteningQ20 := wgs84InverseFlatteningQ20
  muQ8Km3S2 := wgs84MuQ8Km3S2
  j2Q30 := wgs84J2Q30
  rotationQ30RadS := earthRotationQ30RadS
  epochUnixDay := 0
  epochTaiMinusUtc := 37
  eopStartUnixDay := 0
  eopEndUnixDay := 1
  leapSourceHash := 1
  eopSourceHash := 1
  conventionHash := 1
  leapCount := 0
  initialTaiMinusUtc := 37
  leaps := .replicate _ .default

def hopTransforms : TransformPack where
  identity := 2
  earthIdentity := 1
  knotSpacingQ16 := 3932160
  count := 2
  knots := (Vector.replicate _ .zero).setIfInBounds 1
    { TransformKnot.zero with time := ⟨3932160, by decide⟩ }

/-- No air. -/
def hopAtmosphere : CompiledAtmospherePack where
  identity := 3
  earthIdentity := 1
  sourceHash := 1
  count := 2
  zeroAboveLast := true
  knots := ((Vector.replicate _ .default).setIfInBounds 0
    ⟨-40960, 0, 0, 65536, 65536, .zero⟩).setIfInBounds 1 ⟨409600, 0, 0, 65536, 65536, .zero⟩

/-- A vehicle of three kilograms whose motor stops at once and whose jets push with a thousand
newtons. -/
def hopVehicle : GlobalVehiclePack where
  identity := 4
  sourceIdentity := 1
  dryMassQ21Kg := 2097152
  mainPropellantQ21Kg := 2097152
  rcsPropellantQ21Kg := 2097152
  lengthQ13M := 16384
  diameterQ13M := 8192
  referenceAreaQ29M2 := 1
  wetCgQ28M := 268435456
  dryCgQ28M := 268435456
  wetInertiaQ19 := ⟨8388608, 8388608, 8388608⟩
  dryInertiaQ19 := ⟨8388608, 8388608, 8388608⟩
  thrustQ13N := 327680
  mainMassFlowQ21KgS := 1
  burnTimeQ16S := 1
  gimbalLimitTurn16 := 1
  gimbalSlewTurn16PerRelease := 1
  rcsJetCount := 12
  rcsNominalThrustQ13N := 8388607
  rcsIspQ16S := 3932160
  rcsReserveQ16 := 1
  drogueCdaQ24M2 := 1
  mainCdaQ24M2 := 2
  aeroCount := 2
  aero := ((Vector.replicate _ .default).setIfInBounds 0 ⟨0, 1, 1, 1, 1, 1⟩).setIfInBounds 1
    ⟨16777216, 1, 1, 1, 1, 1⟩

/-- From a rail on the equator, which is a tenth of a millimetre long. -/
def hopMission : GlobalMissionPack where
  identity := 5
  sourceIdentity := 1
  earthIdentity := 1
  transformIdentity := 2
  atmosphereIdentity := 3
  vehicleIdentity := 4
  launchLatitudeQ28Rad := 0
  launchLongitudeQ28Rad := 0
  launchHeightQ12Km := 0
  launchAzimuthQ28Rad := 0
  launchElevationQ28Rad := 268435456
  railLengthQ13M := 1
  recoveryLatitudeQ28Rad := 0
  recoveryLongitudeQ28Rad := 0
  recoveryHeightQ12Km := 0
  eciTransitionAltitudeQ12Km := 491520
  entryTransitionAltitudeQ12Km := 491520
  recoveryTransitionAltitudeQ12Km := 81920
  recoveryRadiusQ12Km := 819200
  transitionDynamicPressureQ14Pa := 16384
  recoveryTransitionMachQ24 := 13421773
  mainDeploymentAltitudeQ12Km := 4096
  entryDragAreaScaleQ16 := 65536
  maxMissionTimeQ16S := 65536
  pitchCount := 2
  pitch := ((Vector.replicate _ .default).setIfInBounds 0 ⟨0, 268435456⟩).setIfInBounds 1
    ⟨65536, 268435456⟩

def hopPacks : WorldPacks := ⟨hopEarth, hopTransforms, hopAtmosphere, hopVehicle, hopMission⟩

/-- A command for the first jet. -/
def pulseCommand (frame : GlobalFrameId) (epoch : UInt16) (quanta : UInt8) : GlobalCommandCell where
  session := 0
  sourceEpoch := epoch
  effectiveEpoch := epoch
  frame := frame
  flags := 0
  discrete := 0
  gimbalQ15 := .replicate 2 0
  rcsPulseQuanta := (Vector.replicate 12 0).setIfInBounds 0 quanta
  torqueDemandQ12 := .replicate 3 0
  status := 0
  commandChecksum := 0

/-- The packs of the hopping vehicle are sound. -/
theorem hop_starts : ∃ w₀, new hopPacks = .ok w₀ := by
  have hstarts : (new hopPacks).toOption.isSome = true := by decide +kernel
  cases hnew : new hopPacks with
  | error e => rw [hnew] at hstarts; cases hstarts
  | ok w₀ => exact ⟨w₀, rfl⟩

end GlobalWorldMachine

end Ksa64.Sim
