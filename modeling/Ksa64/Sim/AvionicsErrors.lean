import Ksa64.Sim.AvionicsCalls

/-!
# Errors of the avionics mission

A call that fails should leave things as they were.  A release does unless its flight software has
already taken the release when the errors of the navigation turn out to be too large; a step of the
world does unless it fails after the vehicle has moved, or something was pending before.
-/

namespace Ksa64.Sim

open Ksa64.Library Ksa64.Core Ksa64.Interface Ksa64.Flight

namespace GlobalWorldMachine

/-! ## Steps of the world -/

/-- What a step that fails should keep. -/
structure SameWorld (w u : GlobalWorldMachine) : Prop where
  snapshot : u.snapshot = w.snapshot
  mainPropellant : u.mainPropellantQ21 = w.mainPropellantQ21
  rcsPropellant : u.rcsPropellantQ21 = w.rcsPropellantQ21
  pulses : u.actuators.pulseRemainingQ16 = w.actuators.pulseRemainingQ16
  events : u.events = w.events
  positionResidual : u.positionResidualQ28 = w.positionResidualQ28
  velocityResidual : u.velocityResidualQ20 = w.velocityResidualQ20

theorem SameWorld.refl (w : GlobalWorldMachine) : w.SameWorld w := ⟨rfl, rfl, rfl, rfl, rfl, rfl, rfl⟩

/-- What a step does once it has moved the vehicle. -/
def finished (w : GlobalWorldMachine) (command : Option GlobalCommandCell) :
    Attempt GlobalWorldError GlobalWorldMachine GlobalWorldSnapshot :=
  ((w.moved command).2.consumeRcsPropellant (w.started command).actuators.activeJets
    (w.callLength command)).andThen fun _ u ↦
  ((u.shrunk (w.callLength command)).processEventsAndTransitions command).andThen fun _ u ↦
  u.updateChecksum.andThen fun _ u ↦ (u.snapshot, u)

/-- If the vehicle cannot be moved, there was nothing pending: no event, no new pulses and nothing
integrated.  If it can, the checks after the move pass. -/
structure Spares (w : GlobalWorldMachine) (command : Option GlobalCommandCell) : Prop where
  early : (w.moved command).Failed → w.events = 0
    ∧ (w.started command).actuators.pulseRemainingQ16 = w.actuators.pulseRemainingQ16
    ∧ (w.moved command).2.positionResidualQ28 = w.positionResidualQ28
    ∧ (w.moved command).2.velocityResidualQ20 = w.velocityResidualQ20
  late : (w.moved command).1 = .ok () → ¬(w.finished command).Failed

section Step

variable {p : WorldPacks} {w : GlobalWorldMachine} {command : Option GlobalCommandCell}

/-- `u` is `w` but for the residuals. -/
def Rounded (w u : GlobalWorldMachine) : Prop :=
  u = { w with
    positionResidualQ28 := u.positionResidualQ28
    velocityResidualQ20 := u.velocityResidualQ20 }

/-- A move that fails changes nothing but the residuals. -/
theorem moveVehicle_failed {dt : UInt32} {controlled : Bool}
    (hflow : 0 ≤ w.vehicle.mainMassFlowQ21KgS) (hmain : 0 ≤ w.mainPropellantQ21) (hdt : dt ≤ 2048) :
    (w.moveVehicle dt controlled).Failed → w.Rounded (w.moveVehicle dt controlled).2 := by
  have hburn : ∀ (u : GlobalWorldMachine) (length : UInt32) (mach dynamic : Int32),
      u.vehicle = w.vehicle → u.mainPropellantQ21 = w.mainPropellantQ21 → length ≤ 2048 →
      ¬((u.consumeMainPropellant length).andThen fun _ v ↦
        ((.ok (), { v with machQ24 := mach, dynamicPressureQ14 := dynamic }) :
          Attempt GlobalWorldError GlobalWorldMachine Unit)).Failed := by
    intro u length mach dynamic hvehicle hpropellant hlength
    have hok := (@consumeMainPropellant_ok u length (by rw [hvehicle]; exact hflow)
      (by rw [hpropellant]; exact hmain) hlength).1
    rw [Attempt.andThen_ok hok]
    exact Attempt.not_failed_of_ok rfl
  unfold moveVehicle
  cases w.segment with
  | localLaunch =>
      dsimp only
      unfold stepLocalLaunch
      split
      · exact fun _ ↦ rfl
      · split
        · exact fun _ ↦ rfl
        · exact fun h ↦ absurd h (hburn _ _ _ _ rfl rfl (by decide))
  | localRecovery =>
      dsimp only
      unfold stepLocalRecovery
      split
      · exact fun _ ↦ rfl
      · split
        · exact fun _ ↦ rfl
        · exact fun h ↦ absurd h (Attempt.not_failed_of_ok rfl)
  | ecefAscent | eciCoast | ecefEntry =>
      dsimp only
      unfold stepGlobal
      split
      · exact fun _ ↦ rfl
      · split
        · exact fun _ ↦ rfl
        · dsimp only
          split
          split
          · exact fun _ ↦ rfl
          · exact fun h ↦ absurd h (hburn _ _ _ _ rfl rfl hdt)

/-- A call that takes its command moves the vehicle and goes on from there. -/
theorem call_finished (h : w.Takes command) (hok : (w.moved command).1 = .ok ()) :
    w.call command = w.finished command := by
  have hassoc : ∀ {α : Type} (t : Attempt GlobalWorldError GlobalWorldMachine Unit)
      (f : Unit → GlobalWorldMachine → Attempt GlobalWorldError GlobalWorldMachine Unit)
      (g : Unit → GlobalWorldMachine → Attempt GlobalWorldError GlobalWorldMachine α),
      (t.andThen f).andThen g = t.andThen fun a u ↦ (f a u).andThen g := by
    rintro α ⟨_ | _, _⟩ f g <;> rfl
  unfold finished
  rw [call_of_takes w command h, stepPhysical_eq, Attempt.andThen_ok hok]
  simp only [hassoc]

/-- A step that spares the world keeps it if it fails. -/
theorem Sound.spared (hp : p.vehicle.validate = .ok ()) (h : w.Sound p)
    (hspares : w.Takes command → w.Spares command) (hfailed : (w.call command).Failed) :
    w.SameWorld (w.after command) := by
  by_cases htakes : w.Takes command
  · cases hmoved : (w.moved command).1 with
    | ok _ =>
        rw [call_finished htakes hmoved] at hfailed
        exact absurd hfailed ((hspares htakes).late hmoved)
    | error e =>
        have hstopped : (w.moved command).Failed := ⟨e, hmoved⟩
        obtain ⟨hvehicle, hmain, -⟩ := started_keeps h command
        have hlength := ((w.acceptCommand command).stepLength_bounds command.isSome).2.1
        have hrounded : (w.started command).Rounded (w.moved command).2 :=
          moveVehicle_failed (by rw [hvehicle]; exact (flow_of_validate hp).1)
            (by rw [hmain]; exact h.mainPropellant) hlength hstopped
        obtain ⟨hevents, hpulses, hposition, hvelocity⟩ := (hspares htakes).early hstopped
        have hkept : (w.moved command).2 = { w with
            actuators := (w.started command).actuators
            events := 0
            positionResidualQ28 := (w.moved command).2.positionResidualQ28
            velocityResidualQ20 := (w.moved command).2.velocityResidualQ20 } := by
          unfold Rounded at hrounded
          rw [hrounded, started_eq]
        rw [after_of_failed htakes hstopped]
        exact {
          snapshot := by
            rw [hkept, ← hevents]
            rfl
          mainPropellant := by rw [hkept]
          rcsPropellant := by rw [hkept]
          pulses := by rw [hkept]; exact hpulses
          events := by rw [hkept, hevents]
          positionResidual := hposition
          velocityResidual := hvelocity }
  · rw [after_of_not_takes w command htakes]
    exact .refl w

end Step

end GlobalWorldMachine

namespace GlobalAvionicsMission

/-! ## Calls of the mission -/

section Calls

variable {P : Type} {m : GlobalAvionicsMission P}

/-- A result that can be measured. -/
theorem exists_of_isOk {ε α : Type} {x : Except ε α} (h : x.isOk = true) : ∃ a, x = .ok a := by
  cases x with
  | error e => cases h
  | ok a => exact ⟨a, rfl⟩

theorem measureAcceleration_ok {r : ReleaseReadings}
    (h : r.service = none → (vectorMagnitude (m.acceleration r)).isOk = true) :
    (m.measureAcceleration r).1 = .ok () := by
  unfold measureAcceleration
  split_ifs with hservice
  · obtain ⟨magnitude, hmagnitude⟩ := exists_of_isOk (h (Option.isNone_iff_eq_none.mp hservice))
    rw [hmagnitude]
  · rfl

variable [GlobalFlightReleaseProcessor P]

/-- The errors of the navigation that the release will find can be measured, and so can the
acceleration. -/
def Measurable (m : GlobalAvionicsMission P) (r : ReleaseReadings) : Prop :=
  (vectorMagnitude (positionError r (m.processed r).1.navigation)).isOk = true
    ∧ (vectorMagnitude (velocityError r (m.processed r).1.navigation)).isOk = true
    ∧ (r.service = none → (vectorMagnitude (m.acceleration r)).isOk = true)

instance (m : GlobalAvionicsMission P) (r : ReleaseReadings) : Decidable (m.Measurable r) :=
  inferInstanceAs (Decidable (_ ∧ _ ∧ (_ → _)))

/-- What a release finds can be measured, and every step on the way to the next one spares the
world. -/
def Careful (m : GlobalAvionicsMission P) : AvionicsCall → Prop
  | .release => ∀ r, m.readings = .ok r → m.Measurable r
  | .advance => ∀ target snapshot, m.nextRelease = .ok (target, snapshot) →
      ∀ m', m.StepsTo m' → m'.Due target → m'.world.Takes (some m'.heldCommand) →
        m'.world.Spares (some m'.heldCommand)

/-- A release that fails leaves the mission and its flight software as they were.  A way to the next
release that fails leaves the world as it was before the step that failed. -/
def Atomic (m : GlobalAvionicsMission P) : AvionicsCall → Prop
  | .release => m.releaseBundle.Failed → m.releaseBundle.2 = m
  | .advance => m.advanceToNextRelease.Failed → ∃ m', m.StepsTo m'
      ∧ (m.advanceToNextRelease.2 = m'
        ∨ m'.stepWorld.Failed ∧ m.advanceToNextRelease.2 = m'.stepWorld.2)
      ∧ m'.world.SameWorld m.advanceToNextRelease.2.world

/-- What can be measured is measured. -/
theorem measured_ok {r : ReleaseReadings} (h : m.Measurable r) :
    ((m.processed r).2.measured r (m.processed r).1.navigation).1 = .ok () := by
  obtain ⟨hposition, hvelocity, hacceleration⟩ := h
  obtain ⟨position, hposition⟩ := exists_of_isOk hposition
  obtain ⟨velocity, hvelocity⟩ := exists_of_isOk hvelocity
  unfold measured
  rw [hposition]
  dsimp only
  rw [hvelocity]
  exact measureAcceleration_ok hacceleration

/-- A release whose findings can be measured fails without any effect. -/
theorem release_atomic (h : m.Careful .release) : m.Atomic .release := by
  intro hfailed
  unfold releaseBundle at hfailed ⊢
  cases hreadings : m.readings with
  | error e => rfl
  | ok r =>
      rw [hreadings] at hfailed
      dsimp only at hfailed
      rw [Attempt.andThen_ok (measured_ok (h r hreadings))] at hfailed
      exact absurd hfailed (Attempt.not_failed_of_ok rfl)

variable {p : WorldPacks}

/-- A way whose steps spare the world leaves it as it was before the step that failed. -/
theorem advance_atomic (hp : p.vehicle.validate = .ok ()) (hsound : m.world.Sound p)
    (h : m.Careful .advance) : m.Atomic .advance := by
  intro _
  obtain ⟨m', hsteps, hend⟩ := m.advance_ends
  refine ⟨m', hsteps, hend.imp_right fun ⟨hfailed, hr, _⟩ ↦ ⟨hfailed, hr⟩, ?_⟩
  rcases hend with heq | ⟨hfailed, heq, target, snapshot, hnext, hdue⟩
  · rw [heq]
    exact .refl m'.world
  · rw [heq, stepWorld_world]
    exact (hsteps.sound hp hsound).spared hp (h target snapshot hnext m' hsteps hdue) (failed_stepWorld.mp hfailed)

end Calls

/-! ## A mission that times out -/

/-- The packs of a mission whose time is over at once. -/
def latePacks : WorldPacks :=
  { GlobalWorldMachine.hopPacks with
    mission := { GlobalWorldMachine.hopMission with maxMissionTimeQ16S := 1 } }

end GlobalAvionicsMission

end Ksa64.Sim
