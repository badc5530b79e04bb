import Mathlib.Data.List.Induction
import Ksa64.Library.Run
import Ksa64.Flight.Phase10

/-!
# The parachutes

A tick latches a parachute when it is due and its circuit is continuous, and commands it in the same
tick: but a tick without a valid fast cell holds the last command, and then the deployment is latched
and never commanded.  `deployment_iff` says that this is all that can go wrong: in a run without
such a tick, each parachute is commanded when it is latched and at most once, and the main one only
when the drogue has been commanded long enough before.

The first part reads a tick through its stages; `prepared` is the state that the recovery looks at.
-/

namespace Ksa64.Flight

open Ksa64.Library Ksa64.Core Ksa64.Interface

/-- The cells of a release, as far as there are any. -/
structure TickCells where
  fast : Option GlobalFastSensorCell
  aid : Option GlobalAidFrameCell
  transition : Option GlobalTransitionCell
deriving DecidableEq

namespace GlobalFlightComputer

/-! ## The stages of a tick -/

section Stages

variable (c : GlobalFlightComputer) (t : TickCells)

/-- The computer after a tick. -/
def step : GlobalFlightComputer := (c.tick t.fast t.aid t.transition).2

/-- The command of a tick. -/
def command : GlobalCommandCell := (c.tick t.fast t.aid t.transition).1.command

def transitioned : GlobalFlightComputer := c.applyTransition t.transition

/-- The fast cell that the tick takes. -/
def acceptedFast : Option GlobalFastSensorCell := (c.transitioned t).validFast t.fast

def sensed : GlobalFlightComputer := (c.transitioned t).acceptFast (c.acceptedFast t)

/-- The aid cell that the tick takes. -/
def acceptedAid : Option GlobalAidFrameCell := (c.sensed t).validAid t.aid

def aided : GlobalFlightComputer := (c.sensed t).acceptAid t.aid (c.acceptedAid t)

/-- The computer as it comes to the recovery. -/
def prepared : GlobalFlightComputer :=
  (c.aided t).updateModeAndRecovery (c.acceptedFast t) (c.acceptedAid t)

/-- The discrete command of the recovery, and the computer after it. -/
def recovered : UInt8 × GlobalFlightComputer := (c.prepared t).recoveryCommand (c.acceptedAid t)

/-- The command but for its checksum. -/
def composed : GlobalCommandCell :=
  (c.recovered t).2.composeCommand (c.acceptedFast t) (c.recovered t).1

theorem tick_eq : c.tick t.fast t.aid t.transition = (c.recovered t).2.emit (c.composed t) := rfl

end Stages

/-- What only the recovery changes. -/
structure Latches where
  drogue : Bool
  main : Bool
  drogueTimeQ16 : UInt32
  separationQ16 : UInt32

def latches (c : GlobalFlightComputer) : Latches where
  drogue := c.drogueLatched
  main := c.mainLatched
  drogueTimeQ16 := c.drogueTimeQ16
  separationQ16 := c.config.minimumDeploymentSeparationQ16

section Kept

variable {c : GlobalFlightComputer} {t : TickCells}

theorem latches_enterFrame (cell : GlobalTransitionCell) :
    (c.enterFrame cell).latches = c.latches := by
  unfold enterFrame
  split <;> exact rfl

theorem latches_applyTransition (transition : Option GlobalTransitionCell) :
    (c.applyTransition transition).latches = c.latches := by
  unfold applyTransition
  cases transition with
  | none => rfl
  | some cell =>
      dsimp only
      split
      · exact rfl
      · split
        · exact rfl
        · rw [latches_enterFrame]
          unfold latches
          rfl

theorem latches_acceptFast (fast : Option GlobalFastSensorCell) :
    (c.acceptFast fast).latches = c.latches := by
  unfold acceptFast
  cases fast with
  | some cell => rfl
  | none =>
      dsimp only
      split <;> rfl

theorem latches_acceptAid (aid validAid : Option GlobalAidFrameCell) :
    (c.acceptAid aid validAid).latches = c.latches := by
  unfold acceptAid
  cases validAid with
  | some cell => rfl
  | none =>
      dsimp only
      split <;> rfl

theorem latches_prepared : (c.prepared t).latches = c.latches := by
  show (c.aided t).latches = _
  rw [aided, latches_acceptAid, sensed, latches_acceptFast, transitioned, latches_applyTransition]

theorem latches_step : (c.step t).latches = (c.recovered t).2.latches := rfl

end Kept

/-! ## The recovery -/

/-- The aid cell reports that the circuit is continuous. -/
def continuous (aid : Option GlobalAidFrameCell) : Bool :=
  match aid.filter fun cell ↦ cell.validity &&& globalAidContinuity != 0 with
  | some cell => cell.continuity &&& 1 != 0
  | none => false

/-- What the aid cell reports of the deployments. -/
def feedback (aid : Option GlobalAidFrameCell) : UInt16 :=
  match aid.filter fun cell ↦ cell.validity &&& globalAidDeploymentFeedback != 0 with
  | some cell => cell.deploymentFeedback
  | none => 0

section Recovery

variable (c : GlobalFlightComputer) (aid : Option GlobalAidFrameCell)

def subsonic : Bool :=
  match c.lastFast with
  | some cell => cell.machQ12 < 3277
  | none => false

/-- It is time for the drogue. -/
def drogueDue : Bool :=
  decide (c.mode = .recovery ∧ 2 ≤ c.descendingCount ∧ c.subsonic)
    || decide (c.config.drogueBackupTimeQ16 ≤ c.lastTimeQ16)

/-- The drogue has been out for long enough. -/
def separated : Bool :=
  c.config.minimumDeploymentSeparationQ16 ≤ subSat32 c.lastTimeQ16 c.drogueTimeQ16

/-- It is time for the main parachute. -/
def mainDue : Bool :=
  decide (c.drogueLatched ∧ feedback aid &&& 1 ≠ 0 ∧ c.separated ∧ c.mode = .recovery
      ∧ getElem c.navigation.velocityQ24 2 Axes.z_lt < 0
      ∧ getElem c.navigation.positionQ12 2 Axes.z_lt ≤ c.config.mainAltitudeQ12Km)
    || decide (c.drogueLatched ∧ c.separated ∧ c.config.mainBackupTimeQ16 ≤ c.lastTimeQ16)

/-- The recovery deploys the drogue. -/
def deploysDrogue : Bool :=
  !(c.safe || !c.armed) && (!c.drogueLatched && c.drogueDue) && continuous aid

/-- The recovery deploys the main parachute. -/
def deploysMain : Bool :=
  !(c.safe || !c.armed) && (!c.mainLatched && c.mainDue aid) && continuous aid

/-- The recovery, in terms of what is due. -/
theorem recoveryCommand_eq :
    c.recoveryCommand aid =
      if c.safe || !c.armed then (0, c)
      else
        let (drogue, c) := c.deploy (!c.drogueLatched && c.drogueDue) (continuous aid)
          (fun c ↦ { c with drogueLatched := true, drogueTimeQ16 := c.lastTimeQ16 })
          globalCommandDrogue
        let (main, c) := c.deploy (!c.mainLatched && c.mainDue aid) (continuous aid)
          (fun c ↦ { c with mainLatched := true }) globalCommandMain
        (drogue ||| main, c) := rfl

variable {c aid}

theorem deploy_eq {due continuity : Bool} {fire : GlobalFlightComputer → GlobalFlightComputer}
    {bit : UInt8} : c.deploy due continuity fire bit =
      if due && continuity then (bit, fire c)
      else (0, { c with alarms := if due then c.alarms ||| globalAlarmRecovery else c.alarms }) := by
  cases due <;> cases continuity <;> rfl

/-- A drogue that has just been latched has not been out for long enough. -/
theorem not_separated {time separation : UInt32} (h : 0 < separation) :
    ¬separation ≤ subSat32 time time := by
  have hzero : subSat32 time time = 0 := by simp [subSat32]
  rw [hzero, UInt32.not_le]
  exact h

/-- What the recovery commands is what it latches. -/
theorem recoveryCommand_spec (h : 0 < c.config.minimumDeploymentSeparationQ16) :
    (c.recoveryCommand aid).1 =
        (if c.deploysDrogue aid then globalCommandDrogue else 0)
          ||| (if c.deploysMain aid then globalCommandMain else 0)
      ∧ (c.recoveryCommand aid).2.latches =
        { drogue := c.drogueLatched || c.deploysDrogue aid
          main := c.mainLatched || c.deploysMain aid
          drogueTimeQ16 := if c.deploysDrogue aid then c.lastTimeQ16 else c.drogueTimeQ16
          separationQ16 := c.config.minimumDeploymentSeparationQ16 }
      ∧ (c.recoveryCommand aid).2.safe = c.safe
      ∧ (c.recoveryCommand aid).2.missingFast = c.missingFast
      ∧ (c.recoveryCommand aid).2.lastTimeQ16 = c.lastTimeQ16 := by
  rw [recoveryCommand_eq]
  unfold deploysDrogue deploysMain
  cases c.safe || !c.armed with
  | true =>
      rw [if_pos rfl]
      simp [latches]
  | false =>
      rw [if_neg Bool.false_ne_true, Bool.not_false, Bool.true_and, Bool.true_and]
      dsimp only
      rw [deploy_eq]
      cases hdrogue : (!c.drogueLatched && c.drogueDue) && continuous aid with
      | false =>
          rw [if_neg Bool.false_ne_true, deploy_eq]
          dsimp only
          -- nothing but the alarms has changed
          have hmain (alarms : UInt16) : mainDue { c with alarms := alarms } aid = c.mainDue aid := rfl
          rw [hmain]
          cases (!c.mainLatched && c.mainDue aid) && continuous aid with
          | false => simp [latches]
          | true => simp [latches]
      | true =>
          rw [if_pos rfl, deploy_eq]
          dsimp only
          have hmain : mainDue { c with drogueLatched := true, drogueTimeQ16 := c.lastTimeQ16 } aid
              = false := by
            unfold mainDue separated
            simp [not_separated h]
          have hnot : c.mainDue aid = false := by
            unfold mainDue
            simp at hdrogue
            simp [hdrogue]
          rw [hmain, hnot]
          simp [latches]

end Recovery

/-! ## One tick -/

/-- The tick that is composed holds the last command. -/
def holds (c : GlobalFlightComputer) : Bool := c.missingFast ≠ 0 ∧ c.missingFast ≤ 2

section Tick

variable (c : GlobalFlightComputer) (t : TickCells)

/-- The command of the tick has a bit set. -/
def Commands (bit : UInt8) : Prop := (c.command t).discrete &&& bit ≠ 0

/-- The drogue is latched at the tick. -/
def LatchesDrogue : Prop := c.drogueLatched = false ∧ (c.step t).drogueLatched = true

/-- The main parachute is latched at the tick. -/
def LatchesMain : Prop := c.mainLatched = false ∧ (c.step t).mainLatched = true

/-- A parachute is due and its circuit continuous, but the fast cell is missing: the tick holds the
last command. -/
def LosesDeployment : Prop :=
  (c.prepared t).holds ∧
    ((c.prepared t).deploysDrogue (c.acceptedAid t) ∨ (c.prepared t).deploysMain (c.acceptedAid t))

variable {c t}

theorem composeCommand_discrete {fast : Option GlobalFastSensorCell} {discrete : UInt8} :
    (c.composeCommand fast discrete).discrete =
      if c.safe then globalCommandSafe else if c.holds then 0 else discrete := rfl

theorem prepared_separation :
    (c.prepared t).config.minimumDeploymentSeparationQ16 = c.config.minimumDeploymentSeparationQ16 :=
  congrArg Latches.separationQ16 latches_prepared

theorem prepared_drogueLatched : (c.prepared t).drogueLatched = c.drogueLatched :=
  congrArg Latches.drogue latches_prepared

theorem prepared_mainLatched : (c.prepared t).mainLatched = c.mainLatched :=
  congrArg Latches.main latches_prepared

theorem prepared_drogueTime : (c.prepared t).drogueTimeQ16 = c.drogueTimeQ16 :=
  congrArg Latches.drogueTimeQ16 latches_prepared

/-- The bits of what the recovery commands. -/
theorem discrete_bits (drogue main : Bool) :
    ((if drogue then globalCommandDrogue else 0) ||| (if main then globalCommandMain else 0))
        &&& globalCommandDrogue ≠ 0 ↔ drogue := by
  cases drogue <;> cases main <;> decide

theorem discrete_bits_main (drogue main : Bool) :
    ((if drogue then globalCommandDrogue else 0) ||| (if main then globalCommandMain else 0))
        &&& globalCommandMain ≠ 0 ↔ main := by
  cases drogue <;> cases main <;> decide

/-- What a tick latches is what its recovery deploys. -/
theorem latches_step_eq (h : 0 < c.config.minimumDeploymentSeparationQ16) :
    (c.step t).latches =
      { drogue := c.drogueLatched || (c.prepared t).deploysDrogue (c.acceptedAid t)
        main := c.mainLatched || (c.prepared t).deploysMain (c.acceptedAid t)
        drogueTimeQ16 := if (c.prepared t).deploysDrogue (c.acceptedAid t)
          then (c.step t).lastTimeQ16 else c.drogueTimeQ16
        separationQ16 := c.config.minimumDeploymentSeparationQ16 } := by
  have hseparation := h
  rw [← @prepared_separation c t] at hseparation
  obtain ⟨-, hlatches, -, -, htime⟩ := @recoveryCommand_spec _ (c.acceptedAid t) hseparation
  have hstep : (c.step t).lastTimeQ16 = (c.prepared t).lastTimeQ16 := htime
  rw [prepared_drogueLatched, prepared_mainLatched, prepared_drogueTime, prepared_separation]
    at hlatches
  rw [hstep]
  exact hlatches

theorem deploysDrogue_safe {aid : Option GlobalAidFrameCell} (h : c.deploysDrogue aid) :
    c.safe = false := by
  unfold deploysDrogue at h
  cases hsafe : c.safe with
  | false => rfl
  | true => simp [hsafe] at h

theorem deploysMain_safe {aid : Option GlobalAidFrameCell} (h : c.deploysMain aid) :
    c.safe = false := by
  unfold deploysMain at h
  cases hsafe : c.safe with
  | false => rfl
  | true => simp [hsafe] at h

theorem deploysDrogue_latched {aid : Option GlobalAidFrameCell} (h : c.deploysDrogue aid) :
    c.drogueLatched = false := by
  unfold deploysDrogue at h
  cases hlatched : c.drogueLatched with
  | false => rfl
  | true => simp [hlatched] at h

theorem deploysMain_latched {aid : Option GlobalAidFrameCell} (h : c.deploysMain aid) :
    c.mainLatched = false := by
  unfold deploysMain at h
  cases hlatched : c.mainLatched with
  | false => rfl
  | true => simp [hlatched] at h

/-- The main parachute is deployed when the drogue has been out for long enough. -/
theorem deploysMain_separated {aid : Option GlobalAidFrameCell} (h : c.deploysMain aid)
    (hseparation : 0 < c.config.minimumDeploymentSeparationQ16) :
    c.drogueLatched = true
      ∧ c.drogueTimeQ16.toNat + c.config.minimumDeploymentSeparationQ16.toNat
        ≤ c.lastTimeQ16.toNat := by
  have hdue : c.mainDue aid = true := by
    unfold deploysMain at h
    simp at h
    exact h.1.2.2
  have hboth : c.drogueLatched = true ∧ c.separated = true := by
    unfold mainDue at hdue
    rw [Bool.or_eq_true, decide_eq_true_iff, decide_eq_true_iff] at hdue
    rcases hdue with hdue | hdue
    · exact ⟨hdue.1, hdue.2.2.1⟩
    · exact ⟨hdue.1, hdue.2.1⟩
  exact ⟨hboth.1, add_le_of_le_subSat32 hseparation (of_decide_eq_true hboth.2)⟩

theorem command_discrete (h : 0 < c.config.minimumDeploymentSeparationQ16) :
    (c.command t).discrete =
      if (c.prepared t).safe then globalCommandSafe
      else if (c.prepared t).holds then 0
      else (if (c.prepared t).deploysDrogue (c.acceptedAid t) then globalCommandDrogue else 0)
        ||| (if (c.prepared t).deploysMain (c.acceptedAid t) then globalCommandMain else 0) := by
  have hseparation := h
  rw [← @prepared_separation c t] at hseparation
  obtain ⟨hdiscrete, -, hsafe, hmissing, -⟩ := @recoveryCommand_spec _ (c.acceptedAid t) hseparation
  have hholds : (c.recovered t).2.holds = (c.prepared t).holds := by
    unfold holds
    rw [show (c.recovered t).2.missingFast = (c.prepared t).missingFast from hmissing]
  show (c.composed t).discrete = _
  rw [composed, composeCommand_discrete, hholds,
    show (c.recovered t).2.safe = (c.prepared t).safe from hsafe,
    show (c.recovered t).1 = _ from hdiscrete]

/-- A tick commands what its recovery deploys, unless it holds. -/
theorem commands_iff (h : 0 < c.config.minimumDeploymentSeparationQ16) :
    (c.Commands t globalCommandDrogue ↔
        (c.prepared t).deploysDrogue (c.acceptedAid t) ∧ (c.prepared t).holds = false)
      ∧ (c.Commands t globalCommandMain ↔
        (c.prepared t).deploysMain (c.acceptedAid t) ∧ (c.prepared t).holds = false)
      ∧ (c.Commands t globalCommandDrogue ∨ c.Commands t globalCommandMain →
        ¬c.Commands t globalCommandSafe) := by
  unfold Commands
  rw [command_discrete h]
  have hdrogue := @deploysDrogue_safe (c.prepared t) (c.acceptedAid t)
  have hmain := @deploysMain_safe (c.prepared t) (c.acceptedAid t)
  cases hsafe : (c.prepared t).safe with
  | true =>
      rw [hsafe] at hdrogue hmain
      rw [if_pos rfl]
      refine ⟨iff_of_false (by decide) fun h ↦ (nomatch hdrogue h.1),
        iff_of_false (by decide) fun h ↦ (nomatch hmain h.1), ?_⟩
      decide
  | false =>
      rw [if_neg Bool.false_ne_true]
      cases (c.prepared t).holds with
      | true =>
          rw [if_pos rfl]
          refine ⟨iff_of_false (by decide) fun h ↦ (nomatch h.2),
            iff_of_false (by decide) fun h ↦ (nomatch h.2), ?_⟩
          decide
      | false =>
          rw [if_neg Bool.false_ne_true, discrete_bits, discrete_bits_main, and_iff_left rfl,
            and_iff_left rfl]
          refine ⟨Iff.rfl, Iff.rfl, fun _ ↦ ?_⟩
          cases (c.prepared t).deploysDrogue (c.acceptedAid t) <;>
            cases (c.prepared t).deploysMain (c.acceptedAid t) <;> decide

theorem latchesDrogue_iff (h : 0 < c.config.minimumDeploymentSeparationQ16) :
    c.LatchesDrogue t ↔ (c.prepared t).deploysDrogue (c.acceptedAid t) := by
  have hstep : (c.step t).drogueLatched = _ := congrArg Latches.drogue (latches_step_eq h)
  unfold LatchesDrogue
  rw [hstep]
  constructor
  · rintro ⟨hlatched, hstep⟩
    rwa [hlatched, Bool.false_or] at hstep
  · intro hdeploys
    rw [hdeploys, Bool.or_true]
    exact ⟨prepared_drogueLatched.symm.trans (deploysDrogue_latched hdeploys), rfl⟩

theorem latchesMain_iff (h : 0 < c.config.minimumDeploymentSeparationQ16) :
    c.LatchesMain t ↔ (c.prepared t).deploysMain (c.acceptedAid t) := by
  have hstep : (c.step t).mainLatched = _ := congrArg Latches.main (latches_step_eq h)
  unfold LatchesMain
  rw [hstep]
  constructor
  · rintro ⟨hlatched, hstep⟩
    rwa [hlatched, Bool.false_or] at hstep
  · intro hdeploys
    rw [hdeploys, Bool.or_true]
    exact ⟨prepared_mainLatched.symm.trans (deploysMain_latched hdeploys), rfl⟩

/-- The parachutes are latched when they are commanded, unless a deployment is lost. -/
theorem latches_iff_commands (h : 0 < c.config.minimumDeploymentSeparationQ16) :
    (c.LatchesDrogue t ↔ c.Commands t globalCommandDrogue)
        ∧ (c.LatchesMain t ↔ c.Commands t globalCommandMain) ↔
      ¬c.LosesDeployment t := by
  obtain ⟨hdrogue, hmain, -⟩ := @commands_iff c t h
  unfold LosesDeployment
  rw [latchesDrogue_iff h, latchesMain_iff h, hdrogue, hmain]
  cases (c.prepared t).holds <;> cases (c.prepared t).deploysDrogue (c.acceptedAid t) <;>
    cases (c.prepared t).deploysMain (c.acceptedAid t) <;> decide

end Tick

/-! ## Runs -/

/-- What is claimed of the parachutes over a run. -/
structure Deploys (c : GlobalFlightComputer) (ts : List TickCells) : Prop where
  /-- Each is latched at the ticks that command it. -/
  latched : Meets step (fun c t ↦ (c.LatchesDrogue t ↔ c.Commands t globalCommandDrogue)
    ∧ (c.LatchesMain t ↔ c.Commands t globalCommandMain)) c ts
  /-- Each is commanded at most once. -/
  once : ∀ bit, bit = globalCommandDrogue ∨ bit = globalCommandMain →
    ∀ pre t post, ts = pre ++ t :: post → (run step c pre).Commands t bit →
      ¬Happens step (fun c t ↦ c.Commands t bit) c pre
  /-- The main one is commanded when the drogue has been commanded long enough before. -/
  ordered : ∀ pre t post, ts = pre ++ t :: post → (run step c pre).Commands t globalCommandMain →
    ∃ earlier drogue later, pre = earlier ++ drogue :: later
      ∧ (run step c earlier).Commands drogue globalCommandDrogue
      ∧ (run step c (earlier ++ [drogue])).lastTimeQ16.toNat
          + c.config.minimumDeploymentSeparationQ16.toNat
        ≤ (run step c (pre ++ [t])).lastTimeQ16.toNat
  /-- Neither is commanded by a safe command. -/
  unsafe_only : Meets step (fun c t ↦ c.Commands t globalCommandDrogue
    ∨ c.Commands t globalCommandMain → ¬c.Commands t globalCommandSafe) c ts

section Runs

variable {c : GlobalFlightComputer} {t : TickCells} {ts : List TickCells}

theorem step_separation (h : 0 < c.config.minimumDeploymentSeparationQ16) :
    (c.step t).config.minimumDeploymentSeparationQ16 = c.config.minimumDeploymentSeparationQ16 :=
  congrArg Latches.separationQ16 (latches_step_eq h)

theorem run_separation (h : 0 < c.config.minimumDeploymentSeparationQ16) :
    (run step c ts).config.minimumDeploymentSeparationQ16 = c.config.minimumDeploymentSeparationQ16 :=
  run_invariant step (fun s ↦
      s.config.minimumDeploymentSeparationQ16 = c.config.minimumDeploymentSeparationQ16)
    (fun _ _ hs ↦ (step_separation (hs ▸ h)).trans hs) rfl ts

theorem separation_run (h : 0 < c.config.minimumDeploymentSeparationQ16) :
    0 < (run step c ts).config.minimumDeploymentSeparationQ16 := by
  rw [run_separation h]
  exact h

theorem meets_of_separation {cond : GlobalFlightComputer → TickCells → Prop}
    (hcond : ∀ s t, 0 < s.config.minimumDeploymentSeparationQ16 → cond s t)
    (h : 0 < c.config.minimumDeploymentSeparationQ16) : Meets step cond c ts := by
  exact meets_iff_forall.mpr fun pre t post _ ↦ hcond _ t (separation_run h)

/-- A parachute that has been commanded stays latched. -/
theorem latched_of_happens (h : 0 < c.config.minimumDeploymentSeparationQ16) :
    (Happens step (fun c t ↦ c.Commands t globalCommandDrogue) c ts →
        (run step c ts).drogueLatched = true)
      ∧ (Happens step (fun c t ↦ c.Commands t globalCommandMain) c ts →
        (run step c ts).mainLatched = true) := by
  have hmeets : Meets step (fun c _ ↦ 0 < c.config.minimumDeploymentSeparationQ16) c ts :=
    meets_of_separation (fun _ _ hs ↦ hs) h
  have hdrogue {s : GlobalFlightComputer} {t : TickCells}
      (hs : 0 < s.config.minimumDeploymentSeparationQ16) : (s.step t).drogueLatched = _ :=
    congrArg Latches.drogue (latches_step_eq hs)
  have hmain {s : GlobalFlightComputer} {t : TickCells}
      (hs : 0 < s.config.minimumDeploymentSeparationQ16) : (s.step t).mainLatched = _ :=
    congrArg Latches.main (latches_step_eq hs)
  constructor
  · refine latch_of_happens _ (·.drogueLatched = true) (fun s t hs hnow ↦ ?_)
      (fun s t hs hlatched ↦ ?_) hmeets
    · rw [hdrogue hs, ((commands_iff hs).1.mp hnow).1, Bool.or_true]
    · rw [hdrogue hs, hlatched, Bool.true_or]
  · refine latch_of_happens _ (·.mainLatched = true) (fun s t hs hnow ↦ ?_)
      (fun s t hs hlatched ↦ ?_) hmeets
    · rw [hmain hs, ((commands_iff hs).2.1.mp hnow).1, Bool.or_true]
    · rw [hmain hs, hlatched, Bool.true_or]

/-- A drogue that is latched has been commanded, at the time that is kept. -/
theorem commanded_run (h : 0 < c.config.minimumDeploymentSeparationQ16)
    (hlatched : c.drogueLatched = false) (hloses : Meets step (fun c t ↦ ¬c.LosesDeployment t) c ts)
    (hdrogue : (run step c ts).drogueLatched = true) :
    ∃ earlier drogue later, ts = earlier ++ drogue :: later
      ∧ (run step c earlier).Commands drogue globalCommandDrogue
      ∧ (run step c ts).drogueTimeQ16 = (run step c (earlier ++ [drogue])).lastTimeQ16 := by
  have hmeets : Meets step (fun c t ↦ 0 < c.config.minimumDeploymentSeparationQ16
      ∧ ¬c.LosesDeployment t) c ts :=
    meets_iff_forall.mpr fun pre t post hts ↦
      ⟨separation_run h, meets_iff_forall.mp hloses pre t post hts⟩
  refine stamp_of_latch (fun c t ↦ c.Commands t globalCommandDrogue) (·.drogueLatched = true)
    (·.drogueTimeQ16) (·.lastTimeQ16) ?_ (Bool.eq_false_iff.mp hlatched) hmeets hdrogue
  rintro s t ⟨hs, hnow⟩ hafter
  have hlatches := @latches_step_eq s t hs
  rw [show (step s t).drogueLatched = _ from congrArg Latches.drogue hlatches] at hafter
  rw [show (step s t).drogueTimeQ16 = _ from congrArg Latches.drogueTimeQ16 hlatches]
  cases hdeploys : (s.prepared t).deploysDrogue (s.acceptedAid t) with
  | true =>
      obtain ⟨hiff, -⟩ := (latches_iff_commands hs).mpr hnow
      exact .inl ⟨hiff.mp ((latchesDrogue_iff hs).mpr hdeploys), rfl⟩
  | false =>
      rw [hdeploys, Bool.or_false] at hafter
      exact .inr ⟨hafter, rfl⟩

theorem new_eq_some {config : GlobalFlightConfig} (hnew : new config = some c) :
    0 < c.config.minimumDeploymentSeparationQ16 ∧ c.drogueLatched = false := by
  unfold new at hnew
  split at hnew
  · rename_i hvalid
    cases hnew
    refine ⟨?_, rfl⟩
    unfold GlobalFlightConfig.isValid at hvalid
    simp only [Bool.and_eq_true, decide_eq_true_eq] at hvalid
    exact hvalid.2
  · cases hnew

/-- A parachute that has been commanded is not commanded again. -/
theorem not_happens_of_commands (h : 0 < c.config.minimumDeploymentSeparationQ16) {bit : UInt8}
    (hbit : bit = globalCommandDrogue ∨ bit = globalCommandMain)
    (hcommands : (run step c ts).Commands t bit) :
    ¬Happens step (fun c t ↦ c.Commands t bit) c ts := by
  have hrun := @separation_run c ts h
  obtain ⟨hdrogue, hmain, -⟩ := @commands_iff _ t hrun
  intro hhappens
  rcases hbit with rfl | rfl
  · have hlatched := deploysDrogue_latched (hdrogue.mp hcommands).1
    rw [prepared_drogueLatched, (latched_of_happens h).1 hhappens] at hlatched
    cases hlatched
  · have hlatched := deploysMain_latched (hmain.mp hcommands).1
    rw [prepared_mainLatched, (latched_of_happens h).2 hhappens] at hlatched
    cases hlatched

/-- The main parachute is commanded when the drogue has been for long enough. -/
theorem ordered_of_commands (h : 0 < c.config.minimumDeploymentSeparationQ16)
    (hlatched : c.drogueLatched = false) (hloses : Meets step (fun c t ↦ ¬c.LosesDeployment t) c ts)
    (hcommands : (run step c ts).Commands t globalCommandMain) :
    ∃ earlier drogue later, ts = earlier ++ drogue :: later
      ∧ (run step c earlier).Commands drogue globalCommandDrogue
      ∧ (run step c (earlier ++ [drogue])).lastTimeQ16.toNat
          + c.config.minimumDeploymentSeparationQ16.toNat
        ≤ (run step c (ts ++ [t])).lastTimeQ16.toNat := by
  have hrun := @separation_run c ts h
  have hprepared := hrun
  rw [← @prepared_separation _ t] at hprepared
  obtain ⟨hdrogue, htime⟩ :=
    deploysMain_separated ((commands_iff hrun).2.1.mp hcommands).1 hprepared
  rw [prepared_drogueLatched] at hdrogue
  rw [prepared_drogueTime, prepared_separation, run_separation h] at htime
  obtain ⟨earlier, drogue, later, hts, hearlier, hdrogueTime⟩ :=
    commanded_run h hlatched hloses hdrogue
  refine ⟨earlier, drogue, later, hts, hearlier, ?_⟩
  have hlast : (run step c (ts ++ [t])).lastTimeQ16 = ((run step c ts).prepared t).lastTimeQ16 := by
    rw [run_concat]
    exact (recoveryCommand_spec hprepared).2.2.2.2
  rw [← hdrogueTime, hlast]
  exact htime

end Runs

instance (c : GlobalFlightComputer) (t : TickCells) : Decidable (c.LosesDeployment t) := by
  unfold LosesDeployment
  infer_instance

/-! ## A drogue that is not commanded -/

/-- The computer of the reference configuration. -/
def referenceComputer : GlobalFlightComputer :=
  (new ksaG10rReferenceFlightConfig).get (by decide +kernel)

/-- The reference configuration with a drogue that is due after a second. -/
def earlyDrogueConfig : GlobalFlightConfig :=
  { ksaG10rReferenceFlightConfig with
    session := 10
    minimumArmingTimeQ16 := 0
    drogueBackupTimeQ16 := 65536 }

def earlyDrogueComputer : GlobalFlightComputer := (new earlyDrogueConfig).get (by decide +kernel)

/-- A fast cell of the local frame. -/
def fastCell (epoch : UInt16) (timeQ16 : UInt32) (vehicleStatus : UInt16) : GlobalFastSensorCell where
  session := 10
  measurementEpoch := epoch
  productionEpoch := epoch
  frame := .localEnuV1
  validity := 7
  missionTimeQ16 := timeQ16
  deltaVelocityQ24 := .replicate 3 0
  deltaAngleQ24 := .replicate 3 0
  attitudeVectorQ15 := Axes.of 0 8192 0
  angularRateQ15 := .replicate 3 0
  dynamicPressureQ10 := 0
  machQ12 := 0
  gimbalAppliedQ15 := .replicate 2 0
  rcsPropellantQ21 := 1
  actuatorFeedback := 0
  vehicleStatus := vehicleStatus
  sensorChecksum := 0

/-- An aid cell that reports a continuous circuit. -/
def continuityCell (epoch : UInt16) : GlobalAidFrameCell where
  session := 10
  measurementEpoch := epoch
  productionEpoch := epoch
  frame := .localEnuV1
  validity := globalAidContinuity
  missionTimeQ16 := 0
  barometerQ12Km := 0
  gnssPositionQ12Km := .replicate 3 0
  gnssVelocityQ24KmS := .replicate 3 0
  attitudeQ30 := identityQuaternion
  frameRotationQ30 := identityQuaternion
  frameOmegaQ24 := .replicate 3 0
  events := 0
  continuity := 1
  deploymentFeedback := 0

/-- An engine that burns, one that has burnt out, and a release of which only the aid cell comes. -/
def heldDrogue : List TickCells :=
  [⟨some (fastCell 0 0 2), none, none⟩, ⟨some (fastCell 1 65536 0), none, none⟩,
    ⟨none, some (continuityCell 2), none⟩]

end GlobalFlightComputer

end Ksa64.Flight
