import Ksa64.Interface.Klr10
import Ksa64.Flight.Deployment

/-!
# Holding and safing

A tick without a valid fast cell holds the last torque demand, and the third in a row makes the
computer safe; so does a frame transition that is not valid.  A safe computer stays safe and commands
nothing.  `safing` says this of every run of the computer, its operational calls included, and that
whatever it commands can be written.
-/

namespace Ksa64.Flight

open Ksa64.Library Ksa64.Core Ksa64.Interface

namespace GlobalFlightComputer

/-! ## What the stages keep -/

section Kept

variable {β : Type} {c : GlobalFlightComputer} {t : TickCells}

/-- The recovery changes nothing but its latches and the alarms. -/
theorem recoveryCommand_keeps (f : GlobalFlightComputer → β)
    (hdrogue : ∀ c time, f { c with drogueLatched := true, drogueTimeQ16 := time } = f c)
    (hmain : ∀ c, f { c with mainLatched := true } = f c)
    (halarms : ∀ c alarms, f { c with alarms := alarms } = f c) (aid : Option GlobalAidFrameCell) :
    f (c.recoveryCommand aid).2 = f c := by
  have hdeploy (c : GlobalFlightComputer) (due continuity : Bool)
      (fire : GlobalFlightComputer → GlobalFlightComputer) (bit : UInt8) (hfire : f (fire c) = f c) :
      f (c.deploy due continuity fire bit).2 = f c := by
    rw [deploy_eq]
    split
    · exact hfire
    · exact halarms c _
  rw [recoveryCommand_eq]
  split
  · rfl
  · dsimp only
    rw [hdeploy _ _ _ _ _ (hmain _), hdeploy _ _ _ _ _ (hdrogue _ _)]

theorem recoveryCommand_discrete (aid : Option GlobalAidFrameCell) :
    (c.recoveryCommand aid).1 &&& ~~~globalCommandDiscreteMask = 0 := by
  have hdeploy (c : GlobalFlightComputer) (due continuity : Bool)
      (fire : GlobalFlightComputer → GlobalFlightComputer) (bit : UInt8) :
      (c.deploy due continuity fire bit).1 = bit ∨ (c.deploy due continuity fire bit).1 = 0 := by
    rw [deploy_eq]
    split
    · exact .inl rfl
    · exact .inr rfl
  rw [recoveryCommand_eq]
  split
  · show (0 : UInt8) &&& _ = 0
    decide
  · dsimp only
    rcases hdeploy c (!c.drogueLatched && c.drogueDue) (continuous aid) _ globalCommandDrogue with
      hbit | hbit <;> rw [hbit]
    · rcases hdeploy _ _ (continuous aid) (fun c ↦ { c with mainLatched := true })
        globalCommandMain with hbit | hbit <;> rw [hbit] <;> decide
    · rcases hdeploy _ _ (continuous aid) (fun c ↦ { c with mainLatched := true })
        globalCommandMain with hbit | hbit <;> rw [hbit] <;> decide

theorem recovered_safe : (c.recovered t).2.safe = (c.prepared t).safe :=
  recoveryCommand_keeps (·.safe) (fun _ _ ↦ rfl) (fun _ ↦ rfl) (fun _ _ ↦ rfl) _

theorem recovered_missingFast : (c.recovered t).2.missingFast = (c.prepared t).missingFast :=
  recoveryCommand_keeps (·.missingFast) (fun _ _ ↦ rfl) (fun _ ↦ rfl) (fun _ _ ↦ rfl) _

theorem recovered_lastCommand : (c.recovered t).2.lastCommand = (c.prepared t).lastCommand :=
  recoveryCommand_keeps (·.lastCommand) (fun _ _ ↦ rfl) (fun _ ↦ rfl) (fun _ _ ↦ rfl) _

theorem recovered_navigation : (c.recovered t).2.navigation = (c.aided t).navigation :=
  recoveryCommand_keeps (·.navigation) (fun _ _ ↦ rfl) (fun _ ↦ rfl) (fun _ _ ↦ rfl) _

theorem recovered_config : (c.recovered t).2.config = (c.aided t).config :=
  recoveryCommand_keeps (·.config) (fun _ _ ↦ rfl) (fun _ ↦ rfl) (fun _ _ ↦ rfl) _

/-- The last command and the misses. -/
def standing (c : GlobalFlightComputer) : GlobalCommandCell × UInt8 := (c.lastCommand, c.missingFast)

theorem standing_applyTransition (transition : Option GlobalTransitionCell) :
    (c.applyTransition transition).standing = c.standing := by
  have henter (c : GlobalFlightComputer) (cell : GlobalTransitionCell) :
      (c.enterFrame cell).standing = c.standing := by
    unfold enterFrame
    split <;> exact rfl
  unfold applyTransition
  cases transition with
  | none => rfl
  | some cell =>
      dsimp only
      split
      · exact rfl
      · split
        · exact rfl
        · rw [henter]
          unfold standing
          rfl

theorem standing_acceptAid (aid validAid : Option GlobalAidFrameCell) :
    (c.acceptAid aid validAid).standing = c.standing := by
  unfold acceptAid
  cases validAid with
  | some cell => rfl
  | none =>
      dsimp only
      split <;> rfl

theorem safe_acceptAid (aid validAid : Option GlobalAidFrameCell) :
    (c.acceptAid aid validAid).safe = c.safe := by
  unfold acceptAid
  cases validAid with
  | some cell => rfl
  | none =>
      dsimp only
      split <;> rfl

theorem lastCommand_acceptFast (fast : Option GlobalFastSensorCell) :
    (c.acceptFast fast).lastCommand = c.lastCommand := by
  unfold acceptFast
  cases fast with
  | some cell => rfl
  | none =>
      dsimp only
      split <;> rfl

theorem prepared_lastCommand : (c.prepared t).lastCommand = c.lastCommand := by
  show (c.aided t).standing.1 = _
  rw [aided, standing_acceptAid]
  show (c.sensed t).lastCommand = _
  rw [sensed, lastCommand_acceptFast]
  exact congrArg Prod.fst (standing_applyTransition _)

/-- A valid fast cell ends the misses, and another miss adds one. -/
theorem prepared_missingFast :
    (c.prepared t).missingFast =
      if (c.acceptedFast t).isSome then 0 else addSat8 c.missingFast 1 := by
  have hmissing : (c.transitioned t).missingFast = c.missingFast :=
    congrArg Prod.snd (standing_applyTransition t.transition)
  show (c.aided t).standing.2 = _
  rw [aided, standing_acceptAid]
  show (c.sensed t).missingFast = _
  unfold sensed acceptFast
  cases c.acceptedFast t with
  | some cell => rfl
  | none =>
      rw [hmissing]
      dsimp only
      split <;> rfl

/-- The third miss in a row makes the computer safe. -/
theorem prepared_safe :
    (c.prepared t).safe =
      ((c.transitioned t).safe || (c.acceptedFast t).isNone && decide (3 ≤ addSat8 c.missingFast 1)) := by
  have hmissing : (c.transitioned t).missingFast = c.missingFast :=
    congrArg Prod.snd (standing_applyTransition t.transition)
  show (c.aided t).safe = _
  rw [aided, safe_acceptAid]
  unfold sensed acceptFast
  cases c.acceptedFast t with
  | some cell => simp
  | none =>
      rw [hmissing]
      dsimp only
      split
      · rename_i hthird
        simp [hthird]
      · rename_i hthird
        simp [hthird]

end Kept

/-! ## Transitions -/

section Transitions

variable {c : GlobalFlightComputer} {fast : Option GlobalFastSensorCell}
  {aid : Option GlobalAidFrameCell} {cell : GlobalTransitionCell}

/-- The transition is for this release, and starts from the frame of the navigation. -/
def transitionValid (c : GlobalFlightComputer) (cell : GlobalTransitionCell) : Bool :=
  cell.session == c.config.session && cell.sourceEpoch == c.epoch && cell.effectiveEpoch == c.epoch
    && cell.fromFrame == c.navigation.frame

theorem applyTransition_of_not_valid (h : c.transitionValid cell = false) :
    c.applyTransition (some cell) =
      { c with alarms := c.alarms ||| (globalAlarmFrame ||| globalAlarmSafe), safe := true } := by
  unfold transitionValid at h
  unfold applyTransition
  dsimp only
  rw [h]
  rfl

theorem safe_applyTransition (h : c.transitionValid cell = true) :
    (c.applyTransition (some cell)).safe = c.safe := by
  have henter (c : GlobalFlightComputer) (cell : GlobalTransitionCell) :
      (c.enterFrame cell).safe = c.safe := by
    unfold enterFrame
    split <;> rfl
  have hframe : cell.fromFrame = c.navigation.frame := by
    unfold transitionValid at h
    simp only [Bool.and_eq_true, beq_iff_eq] at h
    exact h.2
  unfold transitionValid at h
  unfold applyTransition
  dsimp only
  rw [h]
  unfold GlobalNavigation.transition
  rw [if_neg (not_not.mpr hframe)]
  exact henter _ cell

/-- The computers differ in nothing but the alarms and whether they are safe. -/
def SameButSafe (c c' : GlobalFlightComputer) : Prop :=
  ∃ alarms safe, c' = { c with alarms := alarms, safe := safe }

theorem sameButSafe_acceptFast {c' : GlobalFlightComputer} (h : c.SameButSafe c') :
    (c.acceptFast (c.validFast fast)).SameButSafe (c'.acceptFast (c'.validFast fast)) := by
  obtain ⟨alarms, safe, rfl⟩ := h
  rw [show validFast { c with alarms := alarms, safe := safe } fast = c.validFast fast from rfl]
  unfold acceptFast
  cases c.validFast fast with
  | some cell => exact ⟨alarms, safe, rfl⟩
  | none =>
      dsimp only
      split
      · exact ⟨_, true, rfl⟩
      · exact ⟨_, safe, rfl⟩

theorem sameButSafe_acceptAid {c' : GlobalFlightComputer} (h : c.SameButSafe c') :
    (c.acceptAid aid (c.validAid aid)).SameButSafe (c'.acceptAid aid (c'.validAid aid)) := by
  obtain ⟨alarms, safe, rfl⟩ := h
  rw [show validAid { c with alarms := alarms, safe := safe } aid = c.validAid aid from rfl]
  unfold acceptAid
  cases c.validAid aid with
  | some cell => exact ⟨alarms, safe, rfl⟩
  | none =>
      dsimp only
      split
      · exact ⟨_, safe, rfl⟩
      · exact ⟨alarms, safe, rfl⟩

/-- A transition that is not valid leaves the navigation to the sensors. -/
theorem aided_of_not_valid (h : c.transitionValid cell = false) :
    (c.aided ⟨fast, aid, none⟩).SameButSafe (c.aided ⟨fast, aid, some cell⟩) := by
  have htransitioned : (c.transitioned ⟨fast, aid, none⟩).SameButSafe
      (c.transitioned ⟨fast, aid, some cell⟩) := ⟨_, true, applyTransition_of_not_valid h⟩
  exact sameButSafe_acceptAid (sameButSafe_acceptFast htransitioned)

end Transitions

/-! ## Commands -/

/-- A command that does nothing but to be safe. -/
structure Idle (command : GlobalCommandCell) : Prop where
  torque : command.torqueDemandQ12 = #v[0, 0, 0]
  gimbal : command.gimbalQ15 = #v[0, 0]
  pulses : command.rcsPulseQuanta = Vector.replicate 12 0
  discrete : command.discrete = globalCommandSafe

/-- A command that repeats the last torque demand. -/
structure Held (lastTorque : Vec3) (command : GlobalCommandCell) : Prop where
  torque : command.torqueDemandQ12 = lastTorque
  flags : command.flags &&& globalCommandHold ≠ 0
  discrete : command.discrete = 0

section Commands

variable {c : GlobalFlightComputer} {t : TickCells} {fast : Option GlobalFastSensorCell}
  {discrete : UInt8}

/-- The thrusters have used up their propellant. -/
def depleted (c : GlobalFlightComputer) : Bool :=
  match c.lastFast with
  | some cell => cell.rcsPropellantQ21 ≤ 0
  | none => false

theorem composeCommand_flags :
    (c.composeCommand fast discrete).flags =
      if c.depleted then (if c.holds then globalCommandHold else 0) ||| globalCommandRcsReserved
      else if c.holds then globalCommandHold else 0 := rfl

theorem composeCommand_torque :
    (c.composeCommand fast discrete).torqueDemandQ12 =
      if c.safe then #v[0, 0, 0]
      else if c.holds then c.lastCommand.torqueDemandQ12
      else match fast with
        | some cell => c.demandTorque (c.demand cell)
        | none => #v[0, 0, 0] := by
  cases fast <;> rfl

theorem composeCommand_gimbal :
    ∃ gimbal, (c.composeCommand fast discrete).gimbalQ15 =
      if c.powered && !c.safe then gimbal else #v[0, 0] := ⟨_, rfl⟩

theorem composeCommand_pulses :
    (c.composeCommand fast discrete).rcsPulseQuanta =
      if c.depleted then Vector.replicate 12 0
      else c.rcsPulses (c.composeCommand fast discrete).torqueDemandQ12 := rfl

theorem idle_composeCommand (h : c.safe = true) : Idle (c.composeCommand fast discrete) := by
  constructor
  · rw [composeCommand_torque, if_pos h]
  · obtain ⟨gimbal, hgimbal⟩ := @composeCommand_gimbal c fast discrete
    rw [hgimbal, h, Bool.not_true, Bool.and_false, if_neg Bool.false_ne_true]
  · rw [composeCommand_pulses]
    unfold rcsPulses
    rw [h, Bool.not_true, Bool.and_false, Bool.false_and, if_neg Bool.false_ne_true, ite_self]
  · rw [composeCommand_discrete, if_pos h]

theorem held_composeCommand (hsafe : c.safe = false) (h : c.holds = true) :
    Held c.lastCommand.torqueDemandQ12 (c.composeCommand fast discrete) := by
  have hunsafe : ¬c.safe = true := Bool.eq_false_iff.mp hsafe
  constructor
  · rw [composeCommand_torque, if_neg hunsafe, if_pos h]
  · rw [composeCommand_flags, h]
    cases c.depleted <;> decide
  · rw [composeCommand_discrete, if_neg hunsafe, if_pos h]

theorem quantum_le {p : Prop} [Decidable p] (quantum : UInt32) :
    (if p then 0 else (max 1 (min 8 quantum)).toUInt8) ≤ 8 := by
  have hclamp : max 1 (min 8 quantum) ≤ 8 := by
    show (if (1 : UInt32) ≤ min 8 quantum then min 8 quantum else 1) ≤ 8
    split
    · show (if (8 : UInt32) ≤ quantum then 8 else quantum) ≤ 8
      split
      · decide
      · rename_i hlt
        exact UInt32.le_of_lt (UInt32.not_le.mp hlt)
    · decide
  split
  · decide
  · rw [UInt8.le_iff_toNat_le, UInt32.toNat_toUInt8]
    exact Nat.le_trans (Nat.mod_le ..) (UInt32.le_iff_toNat_le.mp hclamp)

/-- The axes are driven by eight quanta at most. -/
theorem axisPulses_le {torque : Vec3} {axis : Fin 3} {pulses : Vector UInt8 12}
    (h : ∀ quantum ∈ pulses.toList, quantum ≤ 8) :
    ∀ quantum ∈ (c.axisPulses torque pulses axis).toList, quantum ≤ 8 := by
  have hset {pulses : Vector UInt8 12} {channel : Nat} {value : UInt8} (hvalue : value ≤ 8)
      (h : ∀ quantum ∈ pulses.toList, quantum ≤ 8) :
      ∀ quantum ∈ (pulses.setIfInBounds channel value).toList, quantum ≤ 8 := by
    intro quantum hmem
    rw [Vector.toList_setIfInBounds] at hmem
    rcases List.mem_or_eq_of_mem_set hmem with hmem | rfl
    · exact h quantum hmem
    · exact hvalue
  obtain ⟨quantum, channel, hquantum, heq⟩ : ∃ quantum channel, quantum ≤ 8
      ∧ c.axisPulses torque pulses axis = if quantum ≠ 0 then
          (pulses.setIfInBounds channel quantum).setIfInBounds (channel + 1) quantum
        else pulses :=
    ⟨_, _, quantum_le _, rfl⟩
  rw [heq]
  split
  · exact hset hquantum (hset hquantum h)
  · exact h

theorem idlePulses_le : ∀ quantum ∈ (Vector.replicate 12 (0 : UInt8)).toList, quantum ≤ 8 := by
  intro quantum hmem
  rw [Vector.toList_replicate] at hmem
  exact List.eq_of_mem_replicate hmem ▸ UInt8.zero_le

theorem rcsPulses_le {torque : Vec3} : ∀ quantum ∈ (c.rcsPulses torque).toList, quantum ≤ 8 := by
  have hfold (axes : List (Fin 3)) {pulses : Vector UInt8 12}
      (h : ∀ quantum ∈ pulses.toList, quantum ≤ 8) :
      ∀ quantum ∈ (axes.foldl (c.axisPulses torque) pulses).toList, quantum ≤ 8 := by
    induction axes generalizing pulses with
    | nil => exact h
    | cons axis axes ih => exact ih (axisPulses_le h)
  unfold rcsPulses
  split
  · exact hfold _ idlePulses_le
  · exact idlePulses_le

/-- Whatever is composed can be written. -/
theorem writable_composeCommand (h : discrete &&& ~~~globalCommandDiscreteMask = 0) :
    (c.composeCommand fast discrete).Writable := by
  constructor
  · rw [composeCommand_flags]
    cases c.holds <;> cases c.depleted <;> decide
  · rw [composeCommand_discrete]
    split
    · decide
    · split
      · decide
      · exact h
  · rw [composeCommand_pulses]
    split
    · exact idlePulses_le
    · exact rcsPulses_le

theorem writable_command : (c.command t).Writable := by
  obtain ⟨hflags, hdiscrete, hpulses⟩ :=
    @writable_composeCommand (c.recovered t).2 (c.acceptedFast t) (c.recovered t).1
      (recoveryCommand_discrete _)
  exact ⟨hflags, hdiscrete, hpulses⟩

end Commands

/-! ## One tick -/

section Tick

variable {c : GlobalFlightComputer} {t : TickCells}

theorem step_safe : (c.step t).safe = (c.prepared t).safe := by
  unfold step
  rw [tick_eq]
  exact recovered_safe

theorem idle_command (h : (c.step t).safe = true) : Idle (c.command t) := by
  rw [step_safe, ← recovered_safe] at h
  obtain ⟨htorque, hgimbal, hpulses, hdiscrete⟩ :=
    @idle_composeCommand _ (c.acceptedFast t) (c.recovered t).1 h
  exact ⟨htorque, hgimbal, hpulses, hdiscrete⟩

theorem held_command (hsafe : (c.step t).safe = false) (h : (c.prepared t).holds = true) :
    Held c.lastCommand.torqueDemandQ12 (c.command t) := by
  rw [step_safe, ← recovered_safe] at hsafe
  have hholds : (c.recovered t).2.holds = true := by
    unfold holds at h ⊢
    rwa [recovered_missingFast]
  obtain ⟨htorque, hflags, hdiscrete⟩ :=
    @held_composeCommand _ (c.acceptedFast t) (c.recovered t).1 hsafe hholds
  rw [recovered_lastCommand, prepared_lastCommand] at htorque
  exact ⟨htorque, hflags, hdiscrete⟩

theorem step_lastCommand : (c.step t).lastCommand = c.command t := rfl

theorem transitioned_safe (h : c.safe = true) : (c.transitioned t).safe = true := by
  unfold transitioned
  cases htransition : t.transition with
  | none => exact h
  | some cell =>
      cases hvalid : c.transitionValid cell with
      | false => rw [applyTransition_of_not_valid hvalid]
      | true => rw [safe_applyTransition hvalid, h]

theorem step_safe_of_safe (h : c.safe = true) : (c.step t).safe = true := by
  rw [step_safe, prepared_safe, transitioned_safe h, Bool.true_or]

/-- A transition that is not valid makes the computer safe and changes nothing else that it is
guided by. -/
theorem step_of_not_valid {fast : Option GlobalFastSensorCell} {aid : Option GlobalAidFrameCell}
    {cell : GlobalTransitionCell} (h : c.transitionValid cell = false) :
    (c.step ⟨fast, aid, some cell⟩).safe = true
      ∧ (c.step ⟨fast, aid, some cell⟩).navigation = (c.step ⟨fast, aid, none⟩).navigation
      ∧ (c.step ⟨fast, aid, some cell⟩).navigation.frame = c.navigation.frame
      ∧ (c.step ⟨fast, aid, some cell⟩).config = c.config := by
  have hnavigation (t : TickCells) : (c.step t).navigation = (c.aided t).navigation := by
    unfold step
    rw [tick_eq]
    exact recovered_navigation
  have hconfig (t : TickCells) : (c.step t).config = (c.aided t).config := by
    unfold step
    rw [tick_eq]
    exact recovered_config
  have hnone : (c.aided ⟨fast, aid, none⟩).config = c.config := by
    show (acceptAid (c.acceptFast (c.validFast fast)) aid _).config = _
    unfold acceptAid acceptFast
    cases c.validFast fast with
    | some cell =>
        dsimp only
        split
        · rfl
        · split <;> rfl
    | none =>
        dsimp only
        split
        · split <;> rfl
        · split <;> split <;> rfl
  obtain ⟨alarms, safe, haided⟩ := @aided_of_not_valid c fast aid cell h
  refine ⟨?_, ?_, ?_, ?_⟩
  · rw [step_safe, prepared_safe, transitioned, applyTransition_of_not_valid h, Bool.true_or]
  · rw [hnavigation, hnavigation, haided]
  · rw [hnavigation, haided]
    exact (hnavigation ⟨fast, aid, none⟩).symm ▸ tick_frame c fast aid
  · rw [hconfig, haided]
    exact hnone

end Tick

/-! ## Every run -/

/-- What is asked of a computer. -/
inductive FlightCall where
  | tick (cells : TickCells)
  | requestSafe
  | deadlineMiss
  | navigationUpdate (frame : GlobalFrameId) (positionQ12 velocityQ24 : Vec3) (epoch : UInt16)
  | guidanceTarget (selector : UInt8) (targetQ30 : Quaternion)

def call (c : GlobalFlightComputer) : FlightCall → GlobalFlightComputer
  | .tick cells => c.step cells
  | .requestSafe => c.operationalRequestSafe
  | .deadlineMiss => c.recordDeadlineMiss
  | .navigationUpdate frame position velocity epoch =>
      (c.operationalNavigationUpdate frame position velocity epoch).2
  | .guidanceTarget selector target => (c.operationalGuidanceTarget selector target).2

/-- A computer, the ticks without a valid fast cell since the last one with one, and the torque of
the last command. -/
structure Watched where
  computer : GlobalFlightComputer
  misses : Nat
  torque : Vec3

namespace Watched

def first (c : GlobalFlightComputer) : Watched := ⟨c, 0, .replicate 3 0⟩

def call (w : Watched) : FlightCall → Watched
  | .tick t =>
      { computer := w.computer.step t
        misses := if (w.computer.acceptedFast t).isSome then 0 else w.misses + 1
        torque := (w.computer.command t).torqueDemandQ12 }
  | asked => { w with computer := w.computer.call asked }

/-- The computer has counted the misses and kept the torque. -/
structure Follows (w : Watched) : Prop where
  missing : w.computer.missingFast.toNat = min w.misses 255
  torque : w.computer.lastCommand.torqueDemandQ12 = w.torque
  third : 3 ≤ w.misses → w.computer.safe = true

end Watched

section Runs

variable {c : GlobalFlightComputer} {w : Watched} {t : TickCells}

theorem call_safe (h : c.safe = true) (asked : FlightCall) : (c.call asked).safe = true := by
  cases asked with
  | tick t => exact step_safe_of_safe h
  | requestSafe => rfl
  | deadlineMiss => rfl
  | navigationUpdate frame position velocity epoch =>
      unfold call operationalNavigationUpdate
      dsimp only
      split <;> exact h
  | guidanceTarget selector target =>
      unfold call operationalGuidanceTarget
      dsimp only
      split
      · exact h
      · split <;> exact h

/-- Only a tick touches the misses and the last command. -/
theorem standing_call (asked : FlightCall) (h : ∀ t, asked ≠ .tick t) :
    (c.call asked).standing = c.standing := by
  cases asked with
  | tick t => exact absurd rfl (h t)
  | requestSafe => rfl
  | deadlineMiss => rfl
  | navigationUpdate frame position velocity epoch =>
      unfold call operationalNavigationUpdate
      dsimp only
      split <;> rfl
  | guidanceTarget selector target =>
      unfold call operationalGuidanceTarget standing
      dsimp only
      split
      · rfl
      · split <;> rfl

theorem step_missingFast : (c.step t).missingFast = (c.prepared t).missingFast := by
  unfold step
  rw [tick_eq]
  exact recovered_missingFast

/-- A miss is one more. -/
theorem missed_toNat (hfollows : w.Follows) (h : w.computer.acceptedFast t = none) :
    (w.computer.prepared t).missingFast.toNat = min (w.misses + 1) 255 := by
  rw [prepared_missingFast, h, Option.isSome_none, if_neg Bool.false_ne_true, toNat_addSat8,
    hfollows.missing]
  show min (min w.misses 255 + 1) 255 = _
  omega

theorem third_safe (hfollows : w.Follows) (h : w.computer.acceptedFast t = none)
    (hthird : 2 ≤ w.misses) : (w.computer.step t).safe = true := by
  have hmissed := missed_toNat hfollows h
  rw [prepared_missingFast, h, Option.isSome_none, if_neg Bool.false_ne_true] at hmissed
  have hle : 3 ≤ addSat8 w.computer.missingFast 1 := by
    rw [UInt8.le_iff_toNat_le, hmissed]
    show 3 ≤ _
    omega
  rw [step_safe, prepared_safe, h, decide_eq_true hle]
  exact Bool.or_true _

theorem follows_call (h : w.Follows) (asked : FlightCall) : (w.call asked).Follows := by
  have hkept (hasked : ∀ t, asked ≠ .tick t) :
      ({ w with computer := w.computer.call asked } : Watched).Follows := by
    have hstanding := @standing_call w.computer asked hasked
    constructor
    · rw [← h.missing]
      exact congrArg (·.2.toNat) hstanding
    · rw [← h.torque]
      exact congrArg (·.1.torqueDemandQ12) hstanding
    · exact fun hthird ↦ call_safe (h.third hthird) asked
  cases asked with
  | tick t =>
      refine ⟨?_, rfl, ?_⟩
      · show (w.computer.step t).missingFast.toNat = min (if _ then 0 else w.misses + 1) 255
        rw [step_missingFast]
        cases hfast : w.computer.acceptedFast t with
        | some cell =>
            rw [prepared_missingFast, hfast]
            rfl
        | none => exact missed_toNat h hfast
      · show 3 ≤ (if _ then 0 else w.misses + 1) → (w.computer.step t).safe = true
        cases hfast : w.computer.acceptedFast t with
        | some cell => exact fun hthird ↦ absurd (show 3 ≤ 0 from hthird) (by decide)
        | none => exact fun hthird ↦ third_safe h hfast (Nat.le_of_succ_le_succ hthird)
  | requestSafe => exact hkept fun t ↦ nofun
  | deadlineMiss => exact hkept fun t ↦ nofun
  | navigationUpdate frame position velocity epoch => exact hkept fun t ↦ nofun
  | guidanceTarget selector target => exact hkept fun t ↦ nofun

/-- A computer that is not safe and misses a fast cell repeats its last torque. -/
theorem held_of_follows (hfollows : w.Follows) (h : w.computer.acceptedFast t = none)
    (hsafe : (w.computer.step t).safe = false) :
    w.misses ≤ 1 ∧ Held w.torque (w.computer.command t) := by
  have hmisses : w.misses ≤ 1 := by
    by_contra hmany
    rw [third_safe hfollows h (by omega)] at hsafe
    cases hsafe
  refine ⟨hmisses, hfollows.torque ▸ held_command hsafe ?_⟩
  have hmissed := missed_toNat hfollows h
  have hzero : (w.computer.prepared t).missingFast ≠ 0 := by
    intro hzero
    rw [hzero] at hmissed
    change 0 = _ at hmissed
    omega
  have htwo : (w.computer.prepared t).missingFast ≤ 2 := by
    rw [UInt8.le_iff_toNat_le, hmissed]
    show _ ≤ 2
    omega
  exact decide_eq_true ⟨hzero, htwo⟩

/-- What is promised of a tick. -/
structure Watched.Safing (w : Watched) (t : TickCells) : Prop where
  idle : (w.computer.step t).safe = true → Idle (w.computer.command t)
  held : (w.computer.step t).safe = false → w.computer.acceptedFast t = none →
    w.misses ≤ 1 ∧ Held w.torque (w.computer.command t)
  third : w.computer.acceptedFast t = none → 2 ≤ w.misses → (w.computer.step t).safe = true
  refused : ∀ cell, t.transition = some cell → w.computer.transitionValid cell = false →
    (w.computer.step t).safe = true
      ∧ (w.computer.step t).navigation = (w.computer.step { t with transition := none }).navigation
      ∧ (w.computer.step t).navigation.frame = w.computer.navigation.frame
      ∧ (w.computer.step t).config = w.computer.config
  written : ∀ output : List UInt8, output.length = globalCommandLength →
    ∃ bytes, writeGlobalCommand (w.computer.command t) output = .ok bytes

/-- **Holding and safing.**  A computer that is safe stays safe, and at every tick of a run it
commands nothing when it is safe, holds the last torque over two misses at most, and becomes safe at
the third and at a transition that is not valid, which changes nothing else. -/
theorem safing {config : GlobalFlightConfig} (hnew : new config = some c)
    (calls : List FlightCall) :
    (∀ later, (run call c calls).safe = true → (run call c (calls ++ later)).safe = true)
      ∧ (run Watched.call (.first c) calls).computer = run call c calls
      ∧ ∀ t, (run Watched.call (.first c) calls).Safing t := by
  have hfirst : (Watched.first c).Follows := by
    unfold new at hnew
    split at hnew
    · cases hnew
      exact ⟨rfl, rfl, fun hthird ↦ absurd (show 3 ≤ 0 from hthird) (by decide)⟩
    · cases hnew
  have hfollows : (run Watched.call (.first c) calls).Follows :=
    run_invariant Watched.call Watched.Follows (fun w asked h ↦ follows_call h asked) hfirst calls
  refine ⟨?_, ?_, fun t ↦ ⟨idle_command, ?_, third_safe hfollows, ?_, ?_⟩⟩
  · intro later hsafe
    rw [run_append]
    exact run_invariant call (·.safe = true) (fun c asked h ↦ call_safe h asked) hsafe later
  · refine run_simulation Watched.call (fun w asked ↦ ?_) _ calls
    cases asked <;> rfl
  · exact fun hsafe h ↦ held_of_follows hfollows h hsafe
  · rintro cell hcell hvalid
    obtain ⟨fast, aid, transition⟩ := t
    cases hcell
    exact step_of_not_valid hvalid
  · intro output hlength
    exact ⟨_, writeGlobalCommand_eq_ok.mpr ⟨hlength, writable_command, rfl⟩⟩

end Runs

/-- A release without a cell, and an operator who asks for safety. -/
theorem safing_reference :
    (run call referenceComputer [.tick ⟨none, none, none⟩, .requestSafe]).safe = true
      ∧ ∀ t, (run Watched.call (.first referenceComputer)
        [.tick ⟨none, none, none⟩, .requestSafe]).Safing t :=
  ⟨rfl, (safing (Option.some_get _).symm _).2.2⟩

end GlobalFlightComputer

end Ksa64.Flight
