import Ksa64.Sim.WorldClock

/-!
# What holds of the world in every run

The packs of the world stay what they were, nothing is taken from an empty tank, and in the local
frames the time is a multiple of the step.
-/

namespace Ksa64.Sim

open Ksa64.Library Ksa64.Core Ksa64.Interface GlobalWorldMachine

/-! ## Propellant of the jets -/

section Tank

/-- A saturating difference of two words of which the second is at most the first. -/
theorem saturatingSubI32_toInt {a b : Int32} (h : b ≤ a) :
    (saturatingSubI32 a b).toInt = min (2 ^ 31 - 1) (a.toInt - b.toInt) := by
  have hle := Int32.le_iff_toInt_le.mp h
  have ha := a.toInt_lt
  have hb := b.le_toInt
  have hdifference : (a.toInt64 - b.toInt64).toInt = a.toInt - b.toInt := by
    rw [Int64.toInt_sub, Int32.toInt_toInt64, Int32.toInt_toInt64]
    exact Int.bmod_eq_of_le (by omega) (by omega)
  have hmin : (min 2147483647 (a.toInt64 - b.toInt64)).toInt
      = min (2 ^ 31 - 1) (a.toInt - b.toInt) := by
    show (if 2147483647 ≤ a.toInt64 - b.toInt64 then (2147483647 : Int64)
      else a.toInt64 - b.toInt64).toInt = _
    have hmax : (2147483647 : Int64).toInt = 2147483647 := rfl
    split_ifs with hover
    · rw [Int64.le_iff_toInt_le, hdifference, hmax] at hover
      rw [hmax]
      omega
    · rw [Int64.le_iff_toInt_le, hdifference, hmax] at hover
      rw [hdifference]
      omega
  have hclamped : (max (-2147483648) (min 2147483647 (a.toInt64 - b.toInt64)))
      = min 2147483647 (a.toInt64 - b.toInt64) := by
    show (if -2147483648 ≤ min 2147483647 (a.toInt64 - b.toInt64) then
      min 2147483647 (a.toInt64 - b.toInt64) else _) = _
    rw [if_pos]
    rw [Int64.le_iff_toInt_le, hmin]
    show -2147483648 ≤ _
    omega
  unfold saturatingSubI32
  rw [hclamped, Int64.toInt_toInt32, hmin]
  exact Int.bmod_eq_of_le (by omega) (by omega)

/-- What is taken and is not negative leaves no more than there was. -/
theorem saturatingSubI32_le {a amount : Int32} (ha : 0 ≤ a) (hamount : 0 ≤ amount) :
    saturatingSubI32 a (min amount a) ≤ a := by
  have ha' := Int32.le_iff_toInt_le.mp ha
  have hamount' := Int32.le_iff_toInt_le.mp hamount
  have hzero : (0 : Int32).toInt = 0 := rfl
  rw [Int32.le_iff_toInt_le]
  rcases min_int32 amount a with ⟨heq, hle⟩ | ⟨heq, -⟩
  · rw [heq, saturatingSubI32_toInt hle]
    omega
  · rw [heq, saturatingSubI32_toInt (Int32.le_refl a)]
    omega

variable {w : GlobalWorldMachine} {activeJets : Nat} {dt : UInt32}

/-- The tank of the jets never holds less than nothing. -/
theorem consumeRcsPropellant_nonneg (h : 0 ≤ w.rcsPropellantQ21) :
    0 ≤ (w.consumeRcsPropellant activeJets dt).2.rcsPropellantQ21 := by
  unfold GlobalWorldMachine.consumeRcsPropellant
  split
  · exact h
  · next amount _ =>
    have htaken : min amount w.rcsPropellantQ21 ≤ w.rcsPropellantQ21 := by
      rcases min_int32 amount w.rcsPropellantQ21 with ⟨heq, hle⟩ | ⟨heq, -⟩
      · rw [heq]
        exact hle
      · rw [heq]
        exact Int32.le_refl _
    rw [Int32.le_iff_toInt_le]
    show (0 : Int) ≤ (saturatingSubI32 _ _).toInt
    rw [saturatingSubI32_toInt htaken]
    have := Int32.le_iff_toInt_le.mp htaken
    omega

end Tank

namespace GlobalWorldMachine

/-! ## Pulses -/

section Pulses

variable {a : GlobalActuatorState}

/-- No jet fires exactly if every pulse is over. -/
theorem activeJets_eq_zero : a.activeJets = 0 ↔ ∀ pulse ∈ a.pulseRemainingQ16.toList, pulse = 0 := by
  unfold GlobalActuatorState.activeJets
  rw [List.length_eq_zero_iff, List.filter_eq_nil_iff]
  simp

/-- Pulses that are over stay over. -/
theorem activeJets_advancePulses (h : a.activeJets = 0) (dt : UInt32) :
    (a.advancePulses dt).activeJets = 0 := by
  rw [activeJets_eq_zero] at h ⊢
  unfold GlobalActuatorState.advancePulses
  intro pulse hpulse
  rw [Vector.toList_map] at hpulse
  obtain ⟨before, hbefore, rfl⟩ := List.mem_map.mp hpulse
  rw [h before hbefore]
  show 0 - (if 0 ≤ dt.toUInt16 then 0 else dt.toUInt16) = 0
  rw [if_pos (UInt16.le_iff_toNat_le.mpr (Nat.zero_le _))]
  rfl

/-- No jet fires on the rail. -/
theorem activeJets_accept (h : a.activeJets = 0) (command : GlobalCommandCell)
    (vehicle : GlobalVehiclePack) (powered : Bool) (remaining : Int32) :
    (a.accept command vehicle powered true remaining).activeJets = 0 := by
  have hfires : GlobalActuatorState.fires command vehicle powered true remaining = false := by
    unfold GlobalActuatorState.fires
    simp
  unfold GlobalActuatorState.accept
  rw [hfires]
  split
  · exact h
  · rw [activeJets_eq_zero]
    intro pulse hpulse
    exact List.eq_of_mem_replicate (by rwa [← Vector.toList_replicate])

end Pulses

/-! ## The invariant -/

/-- What holds of the world in every run: the packs are those it started with, the tanks hold no
less than nothing, no jet fires on the rail, and in the local frames the time is a multiple of the
step. -/
structure Sound (p : WorldPacks) (w : GlobalWorldMachine) : Prop where
  packs : w.toWorldPacks = p
  mainPropellant : 0 ≤ w.mainPropellantQ21
  rcsPropellant : 0 ≤ w.rcsPropellantQ21
  launch : w.segment = .localLaunch →
    w.currentTime.raw.toNat % 512 = 0 ∧ w.actuators.activeJets = 0
  recovery : w.segment = .localRecovery → w.currentTime.raw.toNat % 2048 = 0

section Sound

variable {p : WorldPacks} {w : GlobalWorldMachine}

/-- At a release the time is a multiple of the period. -/
theorem atRelease_mod (h : w.atRelease = true) : w.currentTime.raw.toNat % 2048 = 0 := by
  have hmask : w.currentTime.raw &&& 2047 = 0 := eq_of_beq h
  have hnat := congrArg UInt32.toNat hmask
  rw [UInt32.toNat_and] at hnat
  rw [show (2047 : UInt32).toNat = 2 ^ 11 - 1 from rfl, Nat.and_two_pow_sub_one_eq_mod] at hnat
  exact hnat

/-- A vehicle pack that has been validated. -/
theorem flow_of_validate {v : GlobalVehiclePack} (h : v.validate = .ok ()) :
    0 ≤ v.mainMassFlowQ21KgS ∧ 0 ≤ v.mainPropellantQ21Kg ∧ 0 ≤ v.rcsPropellantQ21Kg
      ∧ 0 < v.rcsNominalThrustQ13N ∧ 0 < v.rcsIspQ16S := by
  obtain ⟨_, hrange, -⟩ := bind_eq_ok.mp h
  have hranges := reject_eq_ok.mp hrange
  simp only [not_or, Int32.not_le] at hranges
  obtain ⟨-, -, -, hmain, hrcs, -, -, -, -, -, -, -, hflow, -, -, -, -, hthrust, hisp, -⟩ := hranges
  exact ⟨Int32.le_of_lt hflow, Int32.le_of_lt hmain, Int32.le_of_lt hrcs, hthrust, hisp⟩

theorem started_keeps (h : w.Sound p) (command : Option GlobalCommandCell) :
    (w.started command).vehicle = p.vehicle
      ∧ (w.started command).mainPropellantQ21 = w.mainPropellantQ21
      ∧ (w.started command).rcsPropellantQ21 = w.rcsPropellantQ21
      ∧ (w.started command).segment = w.segment
      ∧ (w.started command).currentTime = w.currentTime := by
  rw [started_eq]
  exact ⟨congrArg WorldPacks.vehicle h.packs, rfl, rfl, rfl, rfl⟩

/-- No jet fires on the rail, with a command or without. -/
theorem Sound.started_jets (h : w.Sound p) (hlaunch : w.segment = .localLaunch)
    (command : Option GlobalCommandCell) : (w.started command).actuators.activeJets = 0 := by
  cases command with
  | none => exact (h.launch hlaunch).2
  | some c =>
      show (w.actuators.accept c w.vehicle _ (decide (w.segment = .localLaunch)) _).activeJets = 0
      rw [decide_eq_true hlaunch]
      exact activeJets_accept (h.launch hlaunch).2 c _ _ _

/-- The move of a call. -/
theorem Sound.moved_result (hp : p.vehicle.validate = .ok ()) (h : w.Sound p)
    (command : Option GlobalCommandCell) :
    MoveResult w (w.moveLength (w.callLength command)) (w.moved command) := by
  obtain ⟨hvehicle, hmain, -, hsegment, htime⟩ := started_keeps h command
  have hlength := ((w.acceptCommand command).stepLength_bounds command.isSome).2.1
  have hmove : MoveResult (w.started command) ((w.started command).moveLength
      (w.callLength command)) (w.moved command) := moveVehicle_result
    (by rw [hvehicle]; exact (flow_of_validate hp).1) (by rw [hmain]; exact h.mainPropellant) hlength
  have hsame : (w.started command).moveLength (w.callLength command)
      = w.moveLength (w.callLength command) := by
    unfold moveLength
    rw [hsegment]
  have hresult : MoveResult (w.started command) (w.moveLength (w.callLength command))
      (w.moved command) := hsame ▸ hmove
  cases hresult with
  | failed herror ht hm => exact .failed herror (ht.trans htime) (hm.trans hmain)
  | advanced hok ht hn hm => exact .advanced hok (by rw [ht, htime]) hn (by rw [← hmain]; exact hm)

/-- What is known of the world when its events are looked at. -/
structure Charged (w : GlobalWorldMachine) (command : Option GlobalCommandCell)
    (u : GlobalWorldMachine) : Prop where
  nonneg : 0 ≤ u.mainPropellantQ21 ∧ 0 ≤ u.rcsPropellantQ21
  main : u.mainPropellantQ21 ≤ w.mainPropellantQ21
  time : u.currentTime = (w.moved command).2.currentTime
  jets : w.segment = .localLaunch → u.actuators.activeJets = 0

/-- A call leads to a charged world, and from there to its events. -/
theorem Sound.processed (hp : p.vehicle.validate = .ok ()) (h : w.Sound p)
    {command : Option GlobalCommandCell} (htakes : w.Takes command) :
    ∃ u, w.Underway u ∧ w.Charged command u ∧ u.Processed command (w.after command) := by
  refine after_processed htakes ?_ ?_ ?_
  · have hkept : (w.moved command).2.rcsPropellantQ21 = w.rcsPropellantQ21
        ∧ (w.moved command).2.actuators = (w.started command).actuators := by
      have hmoves := moveVehicle_moves (w.started command) (w.callLength command) command.isSome
      unfold moved
      rw [hmoves, started_eq w command]
      exact ⟨rfl, rfl⟩
    have hmain : 0 ≤ (w.moved command).2.mainPropellantQ21
        ∧ (w.moved command).2.mainPropellantQ21 ≤ w.mainPropellantQ21 := by
      cases h.moved_result hp command with
      | failed _ _ hm =>
          rw [hm]
          exact ⟨h.mainPropellant, Int32.le_refl _⟩
      | advanced _ _ hn hm => exact ⟨hn, hm⟩
    exact {
      nonneg := ⟨hmain.1, by rw [hkept.1]; exact h.rcsPropellant⟩
      main := hmain.2
      time := rfl
      jets := fun hlaunch ↦ by rw [hkept.2]; exact h.started_jets hlaunch command }
  · rintro u - hu
    have hkept := consumeRcsPropellant_eq u (w.callLength command)
      (w.started command).actuators.activeJets
    exact {
      nonneg := ⟨by rw [hkept]; exact hu.nonneg.1, consumeRcsPropellant_nonneg hu.nonneg.2⟩
      main := by rw [hkept]; exact hu.main
      time := by rw [hkept]; exact hu.time
      jets := by rw [hkept]; exact hu.jets }
  · rintro u - hu
    exact { hu with jets := fun hl ↦ activeJets_advancePulses (hu.jets hl) _ }

/-- A call keeps what holds of the world. -/
theorem Sound.after (hp : p.vehicle.validate = .ok ()) (h : w.Sound p)
    (command : Option GlobalCommandCell) : (w.after command).Sound p := by
  by_cases htakes : w.Takes command
  · obtain ⟨u, hunder, hcharged, hprocessed⟩ := h.processed hp htakes
    have hkept : u.toWorldPacks = w.toWorldPacks ∧ u.segment = w.segment := by
      rw [hunder]
      exact ⟨rfl, rfl⟩
    have honward := hprocessed.onward
    have hstays : (w.after command).segment = u.segment →
        ((w.after command).segment = .localLaunch →
          (w.after command).currentTime.raw.toNat % 512 = 0
            ∧ (w.after command).actuators.activeJets = 0)
        ∧ ((w.after command).segment = .localRecovery →
          (w.after command).currentTime.raw.toNat % 2048 = 0) := by
      intro hsame
      have htime : (w.moved command).2.currentTime = w.currentTime
          ∨ (w.moved command).2.currentTime.raw.toNat
            = w.currentTime.raw.toNat + (w.moveLength (w.callLength command)).toNat := by
        cases h.moved_result hp command with
        | failed _ ht _ => exact .inl ht
        | advanced _ ht _ _ => exact .inr ht
      rw [hsame, hkept.2, honward.time, honward.actuators, hcharged.time]
      constructor
      · intro hlaunch
        refine ⟨?_, hcharged.jets hlaunch⟩
        have hmod := (h.launch hlaunch).1
        have hlength : (w.moveLength (w.callLength command)).toNat = 512 := by
          unfold moveLength
          rw [hlaunch]
          rfl
        rcases htime with htime | htime
        · rw [htime]
          exact hmod
        · omega
      · intro hrecovery
        have hmod := h.recovery hrecovery
        have hlength : (w.moveLength (w.callLength command)).toNat = 2048 := by
          unfold moveLength
          rw [hrecovery]
          rfl
        rcases htime with htime | htime
        · rw [htime]
          exact hmod
        · omega
    have hclock : ((w.after command).segment = .localLaunch →
          (w.after command).currentTime.raw.toNat % 512 = 0
            ∧ (w.after command).actuators.activeJets = 0)
        ∧ ((w.after command).segment = .localRecovery →
          (w.after command).currentTime.raw.toNat % 2048 = 0) := by
      cases hprocessed.advances with
      | stays hsegment _ _ => exact hstays hsegment
      | changes segment record hnext hnow hrelease _ _ _ _ =>
          refine ⟨fun hlaunch ↦ ?_, fun _ ↦ ?_⟩
          · rw [← hnow, hlaunch] at hnext
            cases hu : u.segment <;> rw [hu] at hnext <;> cases hnext
          · rw [honward.time]
            exact atRelease_mod hrelease
    exact {
      packs := honward.packs.trans (hkept.1.trans h.packs)
      mainPropellant := by rw [honward.mainPropellant]; exact hcharged.nonneg.1
      rcsPropellant := by rw [honward.rcsPropellant]; exact hcharged.nonneg.2
      launch := hclock.1
      recovery := hclock.2 }
  · rw [after_of_not_takes w command htakes]
    exact h

/-- A new world is sound, and its packs are valid. -/
theorem new_sound (h : new p = .ok w) : p.vehicle.validate = .ok () ∧ w.Sound p := by
  unfold new at h
  obtain ⟨_, hvalid, h⟩ := bind_eq_ok.mp h
  obtain ⟨_, -, h⟩ := bind_eq_ok.mp h
  obtain ⟨_, -, h⟩ := bind_eq_ok.mp h
  obtain ⟨_, -, h⟩ := bind_eq_ok.mp h
  obtain ⟨_, -, h⟩ := bind_eq_ok.mp h
  cases h
  unfold WorldPacks.validate at hvalid
  obtain ⟨_, -, hvalid⟩ := bind_eq_ok.mp hvalid
  obtain ⟨_, -, hvalid⟩ := bind_eq_ok.mp hvalid
  obtain ⟨_, -, hvalid⟩ := bind_eq_ok.mp hvalid
  obtain ⟨_, hvehicle, -⟩ := bind_eq_ok.mp hvalid
  have hvehicle' := mapError_eq_ok.mp hvehicle
  obtain ⟨-, hmain, hrcs, -⟩ := flow_of_validate hvehicle'
  refine ⟨hvehicle', rfl, hmain, hrcs, fun _ ↦ ⟨rfl, rfl⟩, nofun⟩

/-- A new world stands on the rail, and its actuators are neutral. -/
theorem new_neutral (h : new p = .ok w) : w.segment = .localLaunch ∧ w.actuators = .neutral := by
  unfold new at h
  obtain ⟨_, -, h⟩ := bind_eq_ok.mp h
  obtain ⟨_, -, h⟩ := bind_eq_ok.mp h
  obtain ⟨_, -, h⟩ := bind_eq_ok.mp h
  obtain ⟨_, -, h⟩ := bind_eq_ok.mp h
  obtain ⟨_, -, h⟩ := bind_eq_ok.mp h
  cases h
  exact ⟨rfl, rfl⟩

/-- In every run from a new world what holds of the world holds. -/
theorem run_sound (hnew : new p = .ok w) (commands : List (Option GlobalCommandCell)) :
    (run GlobalWorldMachine.after w commands).Sound p :=
  have ⟨hvehicle, hsound⟩ := new_sound hnew
  run_invariant GlobalWorldMachine.after (Sound p) (fun _ c h ↦ h.after hvehicle c) hsound commands

end Sound

end GlobalWorldMachine

end Ksa64.Sim
