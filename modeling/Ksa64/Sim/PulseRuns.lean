import Ksa64.Sim.WorldRuns

/-!
# The pulses of the jets

A step moves the vehicle, takes the propellant of the jets and shortens their pulses, each for a
length of its own.  Where the lengths agree, a pulse burns for exactly as long as its command says.
-/

namespace Ksa64.Sim

open Ksa64.Library Ksa64.Core Ksa64.Interface

namespace GlobalActuatorState

/-! ## Pulses -/

/-- What is left of the pulse of a jet. -/
def pulse (a : GlobalActuatorState) (jet : Fin 12) : Nat := (a.pulseRemainingQ16.get jet).toNat

section Pulse

variable {a : GlobalActuatorState} {jet : Fin 12}

theorem pulse_mem : a.pulseRemainingQ16.get jet ∈ a.pulseRemainingQ16.toList :=
  Vector.mem_toList_iff.mpr (Vector.getElem_mem jet.isLt)

/-- A jet whose pulse is not over fires. -/
theorem activeJets_of_pulse (h : a.pulse jet ≠ 0) : a.activeJets ≠ 0 := by
  intro hidle
  refine h ?_
  unfold pulse
  rw [GlobalWorldMachine.activeJets_eq_zero.mp hidle _ pulse_mem]
  rfl

/-- A step does not go beyond the end of a pulse. -/
theorem nextEdgeQ16_le (h : a.pulse jet ≠ 0) (maximum : UInt32) :
    (a.nextEdgeQ16 maximum).toNat ≤ a.pulse jet := by
  have hfires : (a.pulseRemainingQ16.get jet != 0) = true := by
    refine bne_iff_ne.mpr fun hzero ↦ h ?_
    unfold pulse
    rw [hzero]
    rfl
  have hmem : (a.pulseRemainingQ16.get jet).toUInt32 ∈ GlobalWorldMachine.pulsesLeft a :=
    List.mem_map_of_mem (List.mem_filter.mpr ⟨pulse_mem, hfires⟩)
  have hle := (GlobalWorldMachine.foldl_min_mem (GlobalWorldMachine.pulsesLeft a) maximum).2.2 _ hmem
  exact UInt32.le_iff_toNat_le.mp hle

/-- Jets that do not fire do not cut a step. -/
theorem nextEdgeQ16_of_idle (h : a.activeJets = 0) (maximum : UInt32) :
    a.nextEdgeQ16 maximum = maximum := by
  unfold nextEdgeQ16
  rw [List.eq_nil_of_length_eq_zero h]
  rfl

/-- A time is taken off a pulse. -/
theorem pulse_advancePulses {dt : UInt32} (h : dt ≤ 2048) :
    (a.advancePulses dt).pulse jet = a.pulse jet - dt.toNat := by
  have hshort := UInt32.le_iff_toNat_le.mp h
  have hlimit : (2048 : UInt32).toNat = 2048 := rfl
  have hword : dt.toUInt16.toNat = dt.toNat := by
    rw [UInt32.toNat_toUInt16]
    exact Nat.mod_eq_of_lt (by omega)
  have hget : (a.advancePulses dt).pulseRemainingQ16.get jet
      = a.pulseRemainingQ16.get jet - min (a.pulseRemainingQ16.get jet) dt.toUInt16 :=
    Vector.getElem_map _ _
  unfold pulse
  rw [hget]
  generalize a.pulseRemainingQ16.get jet = left
  show (left - if left ≤ dt.toUInt16 then left else dt.toUInt16).toNat = _
  split_ifs with hover
  · have hle := UInt16.le_iff_toNat_le.mp hover
    rw [UInt16.sub_self]
    show 0 = _
    omega
  · have hle := UInt16.le_of_lt (UInt16.not_le.mp hover)
    rw [UInt16.toNat_sub_of_le _ _ hle, hword]

variable {command : GlobalCommandCell} {vehicle : GlobalVehiclePack} {powered rail : Bool}
  {remaining : Int32}

/-- The command has been taken before. -/
def Knows (a : GlobalActuatorState) (epoch : UInt16) : Prop :=
  a.hasSourceEpoch = true ∧ a.lastSourceEpoch = epoch

theorem accept_of_knows (h : a.Knows command.sourceEpoch) :
    a.accept command vehicle powered rail remaining = a := by
  unfold accept
  rw [if_pos]
  rw [h.1, h.2, Bool.true_and]
  exact beq_self_eq_true _

/-- A command that is taken is known. -/
theorem knows_accept : (a.accept command vehicle powered rail remaining).Knows
    command.sourceEpoch := by
  unfold accept
  split
  · next hknown =>
    rw [Bool.and_eq_true] at hknown
    exact ⟨hknown.1, eq_of_beq hknown.2⟩
  · exact ⟨rfl, rfl⟩

/-- A new command that fires gives each jet its quanta. -/
theorem pulse_accept (hnew : ¬a.Knows command.sourceEpoch)
    (hfires : fires command vehicle powered rail remaining = true) :
    (a.accept command vehicle powered rail remaining).pulse jet
      = (command.rcsPulseQuanta.get jet).toNat * 256 := by
  have hnot : ¬(a.hasSourceEpoch && a.lastSourceEpoch == command.sourceEpoch) = true := by
    rw [Bool.and_eq_true]
    exact fun h ↦ hnew ⟨h.1, eq_of_beq h.2⟩
  have hpulses : (a.accept command vehicle powered rail remaining).pulseRemainingQ16
      = command.rcsPulseQuanta.map fun quanta ↦ quanta.toUInt16 * rcsQuantumQ16 := by
    unfold accept
    rw [if_neg hnot, hfires]
    rfl
  have hget : (a.accept command vehicle powered rail remaining).pulseRemainingQ16.get jet
      = (command.rcsPulseQuanta.get jet).toUInt16 * rcsQuantumQ16 := by
    rw [hpulses]
    exact Vector.getElem_map _ _
  unfold pulse
  rw [hget, UInt16.toNat_mul, UInt8.toNat_toUInt16]
  have := (command.rcsPulseQuanta.get jet).toNat_lt
  exact Nat.mod_eq_of_lt (by show _ * 256 < 65536; omega)

end Pulse

/-! ## The force -/

/-- The jets that are sampled are those that fire. -/
theorem sampleJets_activeJets (radius axialArm thrust : Int32) (pulses : List UInt16) (jet : Nat)
    (sample : GlobalEffectorSample) (status : NumericStatus)
    (h : sample.activeJets.toNat + pulses.length < 256) :
    (sampleJets radius axialArm thrust jet pulses sample status).1.activeJets.toNat
      = sample.activeJets.toNat + (pulses.filter (· != 0)).length := by
  induction pulses generalizing jet sample status with
  | nil => rfl
  | cons pulse rest ih =>
      rw [List.length_cons] at h
      unfold sampleJets
      by_cases hover : pulse = 0
      · rw [if_pos hover, ih _ _ _ (by omega), List.filter_cons_of_neg (by simp [hover])]
      · have hnext : ∀ (jet : Nat) (force : FixedVec3 13) (torque : GlobalBodyTorque)
            (status : NumericStatus), (sampleJets radius axialArm thrust jet rest
              ⟨force, torque, if sample.activeJets = 255 then 255 else sample.activeJets + 1⟩
              status).1.activeJets.toNat
                = sample.activeJets.toNat + ((pulse :: rest).filter (· != 0)).length := by
          intro jet force torque status
          have hmore : (if sample.activeJets = 255 then 255 else sample.activeJets + 1).toNat
              = sample.activeJets.toNat + 1 := by
            rw [if_neg, UInt8.toNat_add]
            · exact Nat.mod_eq_of_lt (by show sample.activeJets.toNat + 1 < 256; omega)
            · rintro hfull
              rw [hfull] at h
              change 255 + _ < 256 at h
              omega
          rw [ih _ _ _ (by dsimp only; rw [hmore]; omega), hmore,
            List.filter_cons_of_pos (by simp [hover]), List.length_cons]
          omega
        rw [if_neg hover]
        exact hnext _ _ _ _

end GlobalActuatorState

/-! ## What is taken from the tank -/

section Tank

variable {a amount : Int32}

theorem saturatingSubI32_zero (h : 0 ≤ a) : saturatingSubI32 a (min 0 a) = a := by
  have hmin : min 0 a = 0 := if_pos h
  have ha := a.toInt_lt
  rw [hmin, ← Int32.toInt_inj, saturatingSubI32_toInt h]
  show min (2 ^ 31 - 1) (a.toInt - 0) = _
  omega

/-- A charge makes a tank that is not empty emptier. -/
theorem saturatingSubI32_lt (ha : 0 < a) (hamount : 0 < amount) :
    saturatingSubI32 a (min amount a) < a := by
  have ha' := Int32.lt_iff_toInt_lt.mp ha
  have hamount' := Int32.lt_iff_toInt_lt.mp hamount
  have hzero : (0 : Int32).toInt = 0 := rfl
  rw [Int32.lt_iff_toInt_lt]
  rcases GlobalWorldMachine.min_int32 amount a with ⟨heq, hle⟩ | ⟨heq, -⟩
  · rw [heq, saturatingSubI32_toInt hle]
    omega
  · rw [heq, saturatingSubI32_toInt (Int32.le_refl a)]
    omega

end Tank

namespace GlobalWorldMachine

/-! ## The stages of a call -/

section Stages

variable {p : WorldPacks} {w : GlobalWorldMachine} {command : Option GlobalCommandCell}

/-- The stages of a step. -/
theorem stepPhysical_eq (w : GlobalWorldMachine) (command : Option GlobalCommandCell) :
    (w.acceptCommand command).stepPhysical command = (w.moved command).andThen fun _ u ↦
      (u.consumeRcsPropellant (w.started command).actuators.activeJets
        (w.callLength command)).andThen fun _ v ↦
      ((v.shrunk (w.callLength command)).processEventsAndTransitions command).andThen fun _ v ↦
      v.updateChecksum := rfl

/-- A call that cannot move the vehicle ends there. -/
theorem after_of_failed (h : w.Takes command) (hfailed : (w.moved command).Failed) :
    w.after command = (w.moved command).2 := by
  obtain ⟨e, he⟩ := hfailed
  have hstep : (w.acceptCommand command).stepPhysical command = (.error e, (w.moved command).2) := by
    rw [stepPhysical_eq, Attempt.andThen_error he]
  unfold after
  rw [call_of_takes w command h, Attempt.andThen_error (congrArg Prod.fst hstep), hstep]

/-- A world that has been charged and whose pulses are shorter. -/
def charged (w : GlobalWorldMachine) (amount : Int32) (dt : UInt32) : GlobalWorldMachine :=
  { w with
    rcsPropellantQ21 := saturatingSubI32 w.rcsPropellantQ21 (min amount w.rcsPropellantQ21)
    actuators := w.actuators.advancePulses dt }

theorem charged_time (w : GlobalWorldMachine) (amount : Int32) (dt : UInt32) :
    (w.charged amount dt).currentTime = w.currentTime := by
  unfold currentTime charged
  rfl

/-- A call that moves the vehicle and can charge the jets goes on from there. -/
theorem charged_onward {amount : Int32} (h : w.Takes command) (hok : (w.moved command).1 = .ok ())
    (hamount : rcsPropellantConsumedQ21 (w.moved command).2.vehicle
      (w.started command).actuators.activeJets (w.callLength command) = some amount) :
    ((w.moved command).2.charged amount (w.callLength command)).Onward (w.after command) := by
  have hcharge : ((w.moved command).2.consumeRcsPropellant (w.started command).actuators.activeJets
      (w.callLength command)) = (.ok (), { (w.moved command).2 with
        rcsPropellantQ21 := saturatingSubI32 (w.moved command).2.rcsPropellantQ21
          (min amount (w.moved command).2.rcsPropellantQ21) }) := by
    unfold consumeRcsPropellant
    rw [hamount]
  have hstep : ((w.moved command).2.charged amount (w.callLength command)).Onward
      ((w.acceptCommand command).stepPhysical command).2 := by
    rw [stepPhysical_eq, Attempt.andThen_ok hok, hcharge, Attempt.andThen_ok rfl]
    refine Attempt.andThen_keeps (processEvents_processed _ command).onward fun _ u hu ↦ ?_
    unfold updateChecksum
    split
    · exact hu
    · exact hu.trans (.of_kept rfl rfl rfl rfl rfl ⟨rfl, rfl⟩ fun _ h ↦ h)
  unfold after
  rw [call_of_takes w command h]
  exact Attempt.andThen_keeps hstep fun _ _ hs ↦ hs

/-- The move leaves the tank of the jets, their pulses and the packs alone. -/
theorem moved_keeps (w : GlobalWorldMachine) (command : Option GlobalCommandCell) :
    (w.moved command).2.rcsPropellantQ21 = w.rcsPropellantQ21
      ∧ (w.moved command).2.actuators = (w.started command).actuators
      ∧ (w.moved command).2.toWorldPacks = w.toWorldPacks := by
  have hmoves := moveVehicle_moves (w.started command) (w.callLength command) command.isSome
  unfold moved
  rw [hmoves, started_eq w command]
  exact ⟨rfl, rfl, rfl⟩

/-- Where no jet fires on the way down under the parachutes, the vehicle moves for as long as the
call says. -/
theorem Sound.moveLength_eq (h : w.Sound p)
    (hidle : w.segment = .localRecovery → (w.started command).actuators.activeJets = 0) :
    w.moveLength (w.callLength command) = w.callLength command := by
  have hphysical : (w.started command).actuators.activeJets = 0 →
      w.callLength command = w.physicalStep := by
    intro hjets
    cases command with
    | none => rfl
    | some c => exact GlobalActuatorState.nextEdgeQ16_of_idle hjets w.physicalStep
  have hwhole := w.physicalStep_toNat
  unfold moveLength
  cases hsegment : w.segment with
  | localLaunch =>
      rw [hphysical (h.started_jets hsegment command), ← UInt32.toNat_inj, hwhole, hsegment]
      have hmod := (h.launch hsegment).1
      show 512 = 512 - w.currentTime.raw.toNat % 512
      omega
  | localRecovery =>
      rw [hphysical (hidle hsegment), ← UInt32.toNat_inj, hwhole, hsegment]
      have hmod := h.recovery hsegment
      show 2048 = 2048 - w.currentTime.raw.toNat % 2048
      omega
  | ecefAscent | eciCoast | ecefEntry => rfl

end Stages

/-! ## One step -/

/-- The jets push: they fire, and the vehicle is in a frame in which they are asked. -/
def jetsPush (w : GlobalWorldMachine) : Prop :=
  match w.segment with
  | .localLaunch | .localRecovery => False
  | .ecefAscent | .eciCoast | .ecefEntry => w.actuators.activeJets ≠ 0

/-- The world with other actuators. -/
def withActuators (w : GlobalWorldMachine) (actuators : GlobalActuatorState) :
    GlobalWorldMachine := { w with actuators := actuators }

/-- On the rail nobody asks the jets. -/
theorem launchMove_withActuators (w : GlobalWorldMachine) (actuators : GlobalActuatorState) :
    (w.withActuators actuators).launchMove = w.launchMove := rfl

/-- Under the parachutes nobody asks them, either. -/
theorem recoveryMove_withActuators (w : GlobalWorldMachine) (actuators : GlobalActuatorState) :
    (w.withActuators actuators).recoveryMove = w.recoveryMove := rfl

/-- In the global frames the jets that fire are those that are sampled. -/
theorem sampleRcsEffectors_activeJets (w : GlobalWorldMachine) (cg : Int32)
    (status : NumericStatus) :
    (sampleRcsEffectors w.actuators w.vehicle cg status).1.activeJets.toNat
      = w.actuators.activeJets := by
  have hcount : (0 : UInt8).toNat + w.actuators.pulseRemainingQ16.toList.length < 256 := by
    rw [Vector.length_toList]
    decide
  unfold sampleRcsEffectors
  rw [GlobalActuatorState.sampleJets_activeJets _ _ _ _ _ _ status hcount]
  exact Nat.zero_add _

/-- The time by which a call moves the vehicle on. -/
def elapsed (w : GlobalWorldMachine) (command : GlobalCommandCell) : Nat :=
  (w.after (some command)).currentTime.raw.toNat - w.currentTime.raw.toNat

/-- What is left in the tank after the jets have fired for a time. -/
def rcsLeft (w : GlobalWorldMachine) (activeJets time : Nat) : Option Int32 :=
  if time = 0 then some w.rcsPropellantQ21
  else (rcsPropellantConsumedQ21 w.vehicle activeJets (.ofNat time)).map fun amount ↦
    saturatingSubI32 w.rcsPropellantQ21 (min amount w.rcsPropellantQ21)

/-- The time by which the vehicle moves on, that for which the jets are charged and that by which
the pulses get shorter are the same, and the jets push exactly if they are charged. -/
structure InStep (w : GlobalWorldMachine) (command : GlobalCommandCell) : Prop where
  clock : w.currentTime.raw.toNat ≤ (w.after (some command)).currentTime.raw.toNat
  charge : w.rcsLeft (w.started (some command)).actuators.activeJets (w.elapsed command)
    = some (w.after (some command)).rcsPropellantQ21
  pulses : ∀ jet, (w.after (some command)).actuators.pulse jet
    = (w.started (some command)).actuators.pulse jet - w.elapsed command
  force : w.elapsed command ≠ 0 ∧ (w.started (some command)).jetsPush ↔
    (w.after (some command)).rcsPropellantQ21 < w.rcsPropellantQ21

/-- Jets that fire do so before the vehicle hangs on its parachutes, from a tank that is not empty,
and are charged for it. -/
def Burns (w : GlobalWorldMachine) (command : GlobalCommandCell) : Prop :=
  (w.started (some command)).actuators.activeJets ≠ 0 →
    w.segment ≠ .localRecovery ∧ 0 < w.rcsPropellantQ21
      ∧ ∃ amount, rcsPropellantConsumedQ21 w.vehicle
          (w.started (some command)).actuators.activeJets (w.callLength (some command))
            = some amount ∧ 0 < amount

section Step

variable {p : WorldPacks} {w : GlobalWorldMachine} {command : GlobalCommandCell}

/-- What the jets are charged for a step in which they burn if they fire. -/
theorem Burns.consumed (h : w.Burns command) : ∃ amount,
    rcsPropellantConsumedQ21 w.vehicle (w.started (some command)).actuators.activeJets
      (w.callLength (some command)) = some amount
      ∧ ((w.started (some command)).actuators.activeJets = 0 ∧ amount = 0
        ∨ (w.started (some command)).actuators.activeJets ≠ 0 ∧ 0 < amount
          ∧ 0 < w.rcsPropellantQ21) := by
  by_cases hidle : (w.started (some command)).actuators.activeJets = 0
  · refine ⟨0, ?_, .inl ⟨hidle, rfl⟩⟩
    unfold rcsPropellantConsumedQ21
    rw [if_pos hidle]
  · obtain ⟨-, htank, amount, hamount, hpositive⟩ := h hidle
    exact ⟨amount, hamount, .inr ⟨hidle, hpositive, htank⟩⟩

/-- The jets of a sound world that fire and burn push. -/
theorem Sound.jetsPush_iff (h : w.Sound p) (hburns : w.Burns command) :
    (w.started (some command)).jetsPush ↔
      (w.started (some command)).actuators.activeJets ≠ 0 := by
  have hsegment : (w.started (some command)).segment = w.segment :=
    (started_keeps h (some command)).2.2.2.1
  unfold jetsPush
  rw [hsegment]
  cases hs : w.segment with
  | localLaunch => exact ⟨nofun, fun hjets ↦ hjets (h.started_jets hs _)⟩
  | localRecovery => exact ⟨nofun, fun hjets ↦ (hburns hjets).1 hs⟩
  | ecefAscent | eciCoast | ecefEntry => exact Iff.rfl

/-- A call whose jets burn is in step, and it lasts for no time or for its length. -/
theorem Sound.inStep (hp : p.vehicle.validate = .ok ()) (h : w.Sound p)
    (htakes : w.Takes (some command)) (hburns : w.Burns command) :
    w.InStep command ∧ (w.elapsed command = 0
      ∨ w.elapsed command = (w.callLength (some command)).toNat) := by
  obtain ⟨hrcs, hactuators, hpacks⟩ := w.moved_keeps (some command)
  have hbounds := (w.acceptCommand (some command)).stepLength_bounds true
  cases h.moved_result hp (some command) with
  | failed hfailed htime _ =>
      have hafter := after_of_failed htakes hfailed
      have hzero : w.elapsed command = 0 := by
        unfold elapsed
        rw [hafter, htime]
        exact Nat.sub_self _
      refine ⟨⟨?_, ?_, fun jet ↦ ?_, ?_⟩, .inl hzero⟩
      · rw [hafter, htime]
      · unfold rcsLeft
        rw [if_pos hzero, hafter, hrcs]
      · rw [hafter, hactuators, hzero]
        rfl
      · rw [hafter, hrcs]
        exact ⟨fun hmoves ↦ absurd hzero hmoves.1, fun hless ↦ (Int32.lt_irrefl hless).elim⟩
  | advanced hok htime _ _ =>
      obtain ⟨amount, hamount, hkind⟩ := hburns.consumed
      have hlength : w.moveLength (w.callLength (some command)) = w.callLength (some command) :=
        h.moveLength_eq fun hs ↦ by_contra fun hjets ↦ (hburns hjets).1 hs
      rw [hlength] at htime
      have hvehicle : (w.moved (some command)).2.vehicle = w.vehicle :=
        congrArg WorldPacks.vehicle hpacks
      have honward := charged_onward htakes hok (by rw [hvehicle]; exact hamount)
      have hafter := honward.time.trans (charged_time (w.moved (some command)).2 amount _)
      have helapsed : w.elapsed command = (w.callLength (some command)).toNat := by
        unfold elapsed
        rw [hafter, htime]
        exact Nat.add_sub_cancel_left _ _
      have hpositive : w.elapsed command ≠ 0 := by
        rw [helapsed]
        exact Nat.ne_of_gt (UInt32.lt_iff_toNat_lt.mp hbounds.1)
      have hleft : (w.after (some command)).rcsPropellantQ21
          = saturatingSubI32 w.rcsPropellantQ21 (min amount w.rcsPropellantQ21) := by
        rw [honward.rcsPropellant]
        unfold charged
        rw [hrcs]
      refine ⟨⟨?_, ?_, fun jet ↦ ?_, ?_⟩, .inr helapsed⟩
      · rw [hafter, htime]
        exact Nat.le_add_right _ _
      · unfold rcsLeft
        rw [if_neg hpositive, helapsed, UInt32.ofNat_toNat, hamount, hleft]
        rfl
      · rw [honward.actuators, helapsed]
        unfold charged
        rw [hactuators]
        exact GlobalActuatorState.pulse_advancePulses hbounds.2.1
      · rw [h.jetsPush_iff hburns, hleft]
        rcases hkind with ⟨hidle, rfl⟩ | ⟨hjets, hmore, htank⟩
        · rw [saturatingSubI32_zero h.rcsPropellant]
          exact ⟨fun hfires ↦ absurd hidle hfires.2, fun hless ↦ (Int32.lt_irrefl hless).elim⟩
        · exact ⟨fun _ ↦ saturatingSubI32_lt htank hmore, fun _ ↦ ⟨hpositive, hjets⟩⟩

end Step

/-! ## How long a jet burns -/

open Classical in
/-- How long a jet pushes in a call. -/
noncomputable def burn (jet : Fin 12) (w : GlobalWorldMachine) (command : GlobalCommandCell) : Nat :=
  if w.Takes (some command) ∧ (w.started (some command)).jetsPush
    ∧ (w.started (some command)).actuators.pulse jet ≠ 0 then w.elapsed command else 0

/-- How long a jet pushes over a run. -/
noncomputable def burned (jet : Fin 12) : GlobalWorldMachine → List GlobalCommandCell → Nat
  | _, [] => 0
  | w, c :: rest => burn jet w c + burned jet (w.after (some c)) rest

/-- The command is a new one, and the call takes it and fires its pulses. -/
def Fires (w : GlobalWorldMachine) (command : GlobalCommandCell) : Prop :=
  w.Takes (some command) ∧ ¬w.actuators.Knows command.sourceEpoch
    ∧ GlobalActuatorState.fires command w.vehicle (w.powered w.currentTime)
      (decide (w.segment = .localLaunch)) w.rcsPropellantQ21 = true

section Burn

variable {p : WorldPacks} {w : GlobalWorldMachine} {command : GlobalCommandCell}

/-- A jet burns its pulse down in a call that is taken. -/
theorem Sound.burn_add_pulse (hp : p.vehicle.validate = .ok ()) (h : w.Sound p)
    (htakes : w.Takes (some command)) (hburns : w.Burns command) (jet : Fin 12) :
    burn jet w command + (w.after (some command)).actuators.pulse jet
      = (w.started (some command)).actuators.pulse jet := by
  obtain ⟨hstep, htime⟩ := h.inStep hp htakes hburns
  rw [hstep.pulses]
  by_cases hpulse : (w.started (some command)).actuators.pulse jet = 0
  · have hnone : burn jet w command = 0 := if_neg fun hpush ↦ hpush.2.2 hpulse
    rw [hnone, hpulse]
    omega
  · have hpush : (w.started (some command)).jetsPush :=
      (h.jetsPush_iff hburns).mpr (GlobalActuatorState.activeJets_of_pulse hpulse)
    have hall : burn jet w command = w.elapsed command := if_pos ⟨htakes, hpush, hpulse⟩
    have hedge : (w.callLength (some command)).toNat
        ≤ (w.started (some command)).actuators.pulse jet :=
      GlobalActuatorState.nextEdgeQ16_le hpulse _
    rw [hall]
    omega

/-- A call keeps the epoch of the command that it finds or takes. -/
theorem after_knows (w : GlobalWorldMachine) (command : GlobalCommandCell)
    (h : w.Takes (some command) ∨ w.actuators.Knows command.sourceEpoch) :
    (w.after (some command)).actuators.Knows command.sourceEpoch := by
  by_cases htakes : w.Takes (some command)
  · obtain ⟨u, -, hknows, hprocessed⟩ := @after_processed w (some command)
      (fun u ↦ u.actuators.Knows command.sourceEpoch) htakes
      (by rw [(w.moved_keeps (some command)).2.1]; exact GlobalActuatorState.knows_accept)
      (fun u _ hu ↦ by rw [consumeRcsPropellant_eq]; exact hu) fun _ _ hu ↦ hu
    rw [hprocessed.onward.actuators]
    exact hknows
  · rw [after_of_not_takes w (some command) htakes]
    exact h.resolve_left htakes

/-- As long as no other command is taken, what a jet has burned and what is left of its pulse make
up the pulse. -/
theorem Sound.burned_add_pulse (hp : p.vehicle.validate = .ok ()) {epoch : UInt16} (jet : Fin 12)
    (rest : List GlobalCommandCell) (h : w.Sound p) (hknows : w.actuators.Knows epoch)
    (hepoch : ∀ c ∈ rest, c.sourceEpoch = epoch)
    (hburns : Meets (fun w c ↦ w.after (some c)) Burns w rest) :
    burned jet w rest + (run (fun w c ↦ w.after (some c)) w rest).actuators.pulse jet
      = w.actuators.pulse jet := by
  induction rest generalizing w with
  | nil => exact Nat.zero_add _
  | cons c rest ih =>
      have hc : w.actuators.Knows c.sourceEpoch := by
        rw [hepoch c List.mem_cons_self]
        exact hknows
      have hsame : (w.started (some c)).actuators = w.actuators :=
        GlobalActuatorState.accept_of_knows hc
      have hfirst : burn jet w c + (w.after (some c)).actuators.pulse jet
          = w.actuators.pulse jet := by
        by_cases htakes : w.Takes (some c)
        · rw [h.burn_add_pulse hp htakes hburns.1 jet, hsame]
        · have hnone : burn jet w c = 0 := if_neg fun hpush ↦ htakes hpush.1
          rw [hnone, after_of_not_takes w (some c) htakes]
          exact Nat.zero_add _
      have hnext : (w.after (some c)).actuators.Knows epoch := by
        rw [← hepoch c List.mem_cons_self]
        exact after_knows w c (.inr hc)
      have hrest := ih (h.after hp (some c)) hnext
        (fun d hd ↦ hepoch d (List.mem_cons_of_mem c hd)) hburns.2
      show burn jet w c + burned jet (w.after (some c)) rest + _ = _
      rw [run_cons]
      omega

/-- A command that fires burns each jet for its quanta, as long as no other command is taken. -/
theorem Sound.burned_of_fires (hp : p.vehicle.validate = .ok ()) (h : w.Sound p)
    (rest : List GlobalCommandCell) (hfires : w.Fires command)
    (hepoch : ∀ c ∈ rest, c.sourceEpoch = command.sourceEpoch)
    (hburns : Meets (fun w c ↦ w.after (some c)) Burns w (command :: rest)) (jet : Fin 12) :
    burned jet w (command :: rest)
        + (run (fun w c ↦ w.after (some c)) w (command :: rest)).actuators.pulse jet
      = (command.rcsPulseQuanta.get jet).toNat * 256 := by
  obtain ⟨htakes, hnew, hfire⟩ := hfires
  have hpulse : (w.started (some command)).actuators.pulse jet
      = (command.rcsPulseQuanta.get jet).toNat * 256 :=
    GlobalActuatorState.pulse_accept hnew hfire
  have hfirst := h.burn_add_pulse hp htakes hburns.1 jet
  have hrest := (h.after hp (some command)).burned_add_pulse hp jet rest
    (after_knows w command (.inl htakes)) hepoch hburns.2
  show burn jet w command + burned jet (w.after (some command)) rest + _ = _
  rw [run_cons]
  omega

end Burn

end GlobalWorldMachine

end Ksa64.Sim
