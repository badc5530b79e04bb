import Ksa64.Flight.Safehold

/-!
# What the safehold package promises

`SafeholdView` is what a reader of the journal sees of the package: the segment, the frame, the safe
state, the parachutes and the mode.  A release of the package is a release of the view
(`view_step`), and `safehold_sound` reads off it what is promised of every run.
-/

namespace Ksa64.Flight

open Ksa64.Library Ksa64.Core Ksa64.Interface

/-! ## The view -/

structure SafeholdView where
  segment : SafeholdSessionSegment
  frame : GlobalFrameId
  safe : Bool
  drogueLatched : Bool
  mainLatched : Bool
  drogueTimeQ16 : UInt32
  lastTimeQ16 : UInt32
  lastMode : GlobalFlightMode
  journal : EventJournal

/-- What a release decides by looking at the rest of the package. -/
structure Occurrence where
  epoch : UInt16
  /-- The transition cell, and whether it is for this release and this frame. -/
  transition : Option (GlobalTransitionCell × Bool)
  /-- The mission time of the fast cell, if there is a valid one. -/
  fast : Option UInt32
  /-- The drogue is to be deployed unless it has been. -/
  drogue : Bool
  /-- The main parachute is to be deployed when the drogue has been out for long enough. -/
  main : Bool
  separationQ16 : UInt32
  mode : GlobalFlightMode

namespace SafeholdView

def note (v : SafeholdView) (entry : JournalEntry) : SafeholdView :=
  { v with journal := v.journal.step entry }

def safeEntry (epoch alarm : UInt16) : JournalEntry :=
  ⟨epoch.toUInt32, .safeState, alarm.toUInt32, safeholdRecoveryManifestId, .replicate 4 0⟩

def transitionEntry (epoch : UInt16) (cell : GlobalTransitionCell) : JournalEntry :=
  ⟨epoch.toUInt32, .mode, cell.fromFrame.code.toUInt32, cell.toFrame.code.toUInt32,
    Quad.of cell.transformIdentity.toInt32 0 0 0⟩

def deployEntry (epoch : UInt16) (bit : UInt8) (timeQ16 : UInt32) : JournalEntry :=
  ⟨epoch.toUInt32, .mode, bit.toUInt32, 0, #v[timeQ16.toInt32, 0, 0, 0]⟩

def modeEntry (epoch : UInt16) (before after : GlobalFlightMode) : JournalEntry :=
  ⟨epoch.toUInt32, .mode, before.code.toUInt32, after.code.toUInt32, .replicate 4 0⟩

def enterSafe (v : SafeholdView) (epoch alarm : UInt16) : SafeholdView :=
  if v.safe then v else { v with safe := true }.note (safeEntry epoch alarm)

def transit (v : SafeholdView) (epoch : UInt16) :
    Option (GlobalTransitionCell × Bool) → SafeholdView
  | none => v
  | some (cell, admitted) =>
      match if admitted then v.segment.next cell.fromFrame cell.toFrame else none with
      | none => v.enterSafe epoch globalAlarmFrame
      | some next =>
          { v with segment := next, frame := cell.toFrame }.note (transitionEntry epoch cell)

def sense (v : SafeholdView) (epoch : UInt16) : Option UInt32 → SafeholdView
  | none => v.enterSafe epoch (globalAlarmFastSensor ||| globalAlarmLink)
  | some time => { v with lastTimeQ16 := time }

def deploysDrogue (v : SafeholdView) (o : Occurrence) : Bool := !v.drogueLatched && o.drogue

def deployDrogue (v : SafeholdView) (o : Occurrence) : SafeholdView :=
  if v.deploysDrogue o then
    { v with drogueLatched := true, drogueTimeQ16 := v.lastTimeQ16 }.note
      (deployEntry o.epoch globalCommandDrogue v.lastTimeQ16)
  else v

def deploysMain (v : SafeholdView) (o : Occurrence) : Bool :=
  !v.mainLatched && (v.drogueLatched
    && decide (o.separationQ16 ≤ subSat32 v.lastTimeQ16 v.drogueTimeQ16) && o.main)

def deployMain (v : SafeholdView) (o : Occurrence) : SafeholdView :=
  if v.deploysMain o then
    { v with mainLatched := true }.note (deployEntry o.epoch globalCommandMain v.lastTimeQ16)
  else v

def enterMode (v : SafeholdView) (epoch : UInt16) (mode : GlobalFlightMode) : SafeholdView :=
  if mode ≠ v.lastMode then { v.note (modeEntry epoch v.lastMode mode) with lastMode := mode } else v

/-- The view as it comes to the recovery. -/
def sensed (v : SafeholdView) (o : Occurrence) : SafeholdView :=
  (v.transit o.epoch o.transition).sense o.epoch o.fast

def release (v : SafeholdView) (o : Occurrence) : SafeholdView :=
  (((v.sensed o).deployDrogue o).deployMain o).enterMode o.epoch o.mode

/-- The parachutes that the release commands. -/
def deployment (v : SafeholdView) (o : Occurrence) : UInt8 :=
  (if (v.sensed o).deploysDrogue o then globalCommandDrogue else 0)
    ||| (if ((v.sensed o).deployDrogue o).deploysMain o then globalCommandMain else 0)

/-! ### What a release of the view does -/

section Release

variable {v : SafeholdView} {o : Occurrence}

/-- The transition refused or taken, and the safe state it leads to. -/
def arrivals (v : SafeholdView) (o : Occurrence) : List JournalEntry :=
  (match o.transition with
    | some (cell, _) =>
        if (v.sensed o).segment ≠ v.segment then [transitionEntry o.epoch cell] else []
    | none => [])
  ++ if !v.safe && (v.sensed o).safe then
      [safeEntry o.epoch
        (if o.transition.isSome ∧ (v.sensed o).segment = v.segment then globalAlarmFrame
          else globalAlarmFastSensor ||| globalAlarmLink)]
    else []

theorem next_frame {segment next : SafeholdSessionSegment} {source target : GlobalFrameId}
    (h : segment.next source target = some next) : target = next.frame := by
  cases segment <;> cases source <;> cases target <;> cases h <;> rfl

theorem next_ne {segment next : SafeholdSessionSegment} {source target : GlobalFrameId}
    (h : segment.next source target = some next) : next ≠ segment := by
  cases segment <;> cases source <;> cases target <;> cases h <;> decide

/-- A transition cell is refused, or opens the next segment. -/
theorem transit_cases (epoch : UInt16) (cell : GlobalTransitionCell) (admitted : Bool) :
    v.transit epoch (some (cell, admitted)) = v.enterSafe epoch globalAlarmFrame
      ∨ ∃ next, v.segment.next cell.fromFrame cell.toFrame = some next
        ∧ v.transit epoch (some (cell, admitted)) =
          { v with segment := next, frame := cell.toFrame }.note (transitionEntry epoch cell) := by
  unfold transit
  dsimp only
  split
  · exact .inl rfl
  · rename_i next hnext
    split at hnext
    · exact .inr ⟨next, hnext, rfl⟩
    · cases hnext

/-- What the transition and the fast cell do to the view. -/
structure Sensed (v : SafeholdView) (o : Occurrence) (v' : SafeholdView) : Prop where
  forward : v'.segment = v.segment ∧ v'.frame = v.frame
    ∨ ∃ cell admitted, o.transition = some (cell, admitted)
      ∧ v.segment.next cell.fromFrame cell.toFrame = some v'.segment ∧ v'.frame = cell.toFrame
  safe : v.safe = true → v'.safe = true
  drogueLatched : v'.drogueLatched = v.drogueLatched
  mainLatched : v'.mainLatched = v.mainLatched
  drogueTimeQ16 : v'.drogueTimeQ16 = v.drogueTimeQ16
  lastMode : v'.lastMode = v.lastMode
  journal : v'.journal = run EventJournal.step v.journal (v.arrivals o)

theorem sensed_spec : v.Sensed o (v.sensed o) := by
  obtain ⟨epoch, transition, fast, drogueWanted, mainWanted, separation, mode'⟩ := o
  obtain ⟨segment, frame, safe, drogue, main, drogueTime, time, mode, journal⟩ := v
  rcases transition with _ | ⟨cell, admitted⟩
  · constructor
    case forward => cases fast <;> cases safe <;> exact .inl ⟨rfl, rfl⟩
    case safe =>
      rintro ⟨⟩
      cases fast <;> rfl
    all_goals cases fast <;> cases safe <;> simp [arrivals, sensed, sense, transit, enterSafe, note]
  · rcases @transit_cases ⟨segment, frame, safe, drogue, main, drogueTime, time, mode, journal⟩ epoch
      cell admitted with hrefused | ⟨next, hnext, hopened⟩
    · constructor
      case forward =>
        unfold sensed
        rw [hrefused]
        cases fast <;> cases safe <;> exact .inl ⟨rfl, rfl⟩
      case safe =>
        rintro ⟨⟩
        unfold sensed
        rw [hrefused]
        cases fast <;> rfl
      all_goals cases fast <;> cases safe <;> simp [arrivals, sensed, hrefused, sense, enterSafe, note]
    · have hne : next ≠ segment := next_ne hnext
      constructor
      case forward =>
        unfold sensed
        rw [hopened]
        refine .inr ⟨cell, admitted, rfl, ?_⟩
        cases fast <;> cases safe <;> exact ⟨hnext, rfl⟩
      case safe =>
        rintro ⟨⟩
        unfold sensed
        rw [hopened]
        cases fast <;> rfl
      all_goals
        cases fast <;> cases safe <;> simp [arrivals, sensed, hopened, sense, enterSafe, note, hne]

theorem deployDrogue_eq :
    v.deployDrogue o =
      { v with
        drogueLatched := v.drogueLatched || v.deploysDrogue o
        drogueTimeQ16 := if v.deploysDrogue o then v.lastTimeQ16 else v.drogueTimeQ16
        journal := run EventJournal.step v.journal (if v.deploysDrogue o then
          [deployEntry o.epoch globalCommandDrogue v.lastTimeQ16] else []) } := by
  unfold deployDrogue
  split
  · rename_i hdeploys
    rw [hdeploys, Bool.or_true]
    rfl
  · rename_i hdeploys
    rw [Bool.eq_false_iff.mpr hdeploys, Bool.or_false]
    rfl

theorem deployMain_eq :
    v.deployMain o =
      { v with
        mainLatched := v.mainLatched || v.deploysMain o
        journal := run EventJournal.step v.journal (if v.deploysMain o then
          [deployEntry o.epoch globalCommandMain v.lastTimeQ16] else []) } := by
  unfold deployMain
  split
  · rename_i hdeploys
    rw [hdeploys, Bool.or_true]
    rfl
  · rename_i hdeploys
    rw [Bool.eq_false_iff.mpr hdeploys, Bool.or_false]
    rfl

theorem enterMode_eq (epoch : UInt16) (mode : GlobalFlightMode) :
    v.enterMode epoch mode =
      { v with
        lastMode := mode
        journal := run EventJournal.step v.journal
          (if mode ≠ v.lastMode then [modeEntry epoch v.lastMode mode] else []) } := by
  unfold enterMode
  split
  · rfl
  · rename_i hsame
    rw [not_not.mp hsame]
    rfl

/-- The drogue is deployed in this release. -/
def releasesDrogue (v : SafeholdView) (o : Occurrence) : Bool := (v.sensed o).deploysDrogue o

/-- The main parachute is deployed in this release. -/
def releasesMain (v : SafeholdView) (o : Occurrence) : Bool :=
  ((v.sensed o).deployDrogue o).deploysMain o

theorem release_eq :
    v.release o =
      { v.sensed o with
        drogueLatched := v.drogueLatched || v.releasesDrogue o
        mainLatched := v.mainLatched || v.releasesMain o
        drogueTimeQ16 := if v.releasesDrogue o then (v.sensed o).lastTimeQ16 else v.drogueTimeQ16
        lastMode := o.mode
        journal := run EventJournal.step v.journal (v.arrivals o
          ++ (if v.releasesDrogue o then
              [deployEntry o.epoch globalCommandDrogue (v.sensed o).lastTimeQ16] else [])
          ++ (if v.releasesMain o then
              [deployEntry o.epoch globalCommandMain (v.sensed o).lastTimeQ16] else [])
          ++ if o.mode ≠ v.lastMode then [modeEntry o.epoch v.lastMode o.mode] else []) } := by
  obtain ⟨-, -, hdrogue, hmain, htime, hmode, hjournal⟩ := @sensed_spec v o
  unfold release releasesMain
  rw [enterMode_eq, deployMain_eq, deployDrogue_eq]
  dsimp only
  rw [hdrogue, hmain, htime, hmode, hjournal]
  simp only [run_append]
  rfl

/-- The main parachute is released when the drogue has been out for long enough. -/
theorem releasesMain_separated (h : v.releasesMain o = true) (hseparation : 0 < o.separationQ16) :
    v.releasesDrogue o = false ∧ v.drogueLatched = true ∧ v.mainLatched = false
      ∧ v.drogueTimeQ16.toNat + o.separationQ16.toNat ≤ (v.sensed o).lastTimeQ16.toNat := by
  obtain ⟨-, -, hdrogueLatched, hmainLatched, hdrogueTime, -, -⟩ := @sensed_spec v o
  unfold releasesMain deploysMain at h
  rw [deployDrogue_eq] at h
  simp only [Bool.and_eq_true, Bool.not_eq_true', decide_eq_true_eq] at h
  obtain ⟨hmain, ⟨hlatched, hseparated⟩, -⟩ := h
  have hdrogue : v.releasesDrogue o = false := by
    cases hdrogue : v.releasesDrogue o with
    | false => rfl
    | true =>
        change (v.sensed o).deploysDrogue o = true at hdrogue
        rw [hdrogue] at hseparated
        exact absurd hseparated (GlobalFlightComputer.not_separated hseparation)
  change (v.sensed o).deploysDrogue o = false at hdrogue
  rw [hdrogue, hdrogueLatched, Bool.or_false] at hlatched
  rw [hdrogue, if_neg Bool.false_ne_true, hdrogueTime] at hseparated
  exact ⟨hdrogue, hlatched, hmainLatched ▸ hmain, add_le_of_le_subSat32 hseparation hseparated⟩

end Release

end SafeholdView

namespace SafeholdRecoveryV1

def view (s : SafeholdRecoveryV1) : SafeholdView where
  segment := s.segment
  frame := s.navigation.frame
  safe := s.safe
  drogueLatched := s.drogueLatched
  mainLatched := s.mainLatched
  drogueTimeQ16 := s.drogueTimeQ16
  lastTimeQ16 := s.lastTimeQ16
  lastMode := s.lastMode
  journal := s.journal

/-! ## The stages -/

section Stages

variable (s : SafeholdRecoveryV1) (t : TickCells)

/-- The package after a release. -/
def step : SafeholdRecoveryV1 := (s.processRelease t.fast t.aid t.transition).2

/-- The command of a release. -/
def command : GlobalCommandCell := (s.processRelease t.fast t.aid t.transition).1.command

def transitioned : SafeholdRecoveryV1 := s.applyTransition t.transition

def acceptedFast : Option GlobalFastSensorCell := (s.transitioned t).validFast t.fast

def sensed : SafeholdRecoveryV1 := (s.transitioned t).acceptFast (s.acceptedFast t)

def acceptedAid : Option GlobalAidFrameCell := (s.sensed t).validAid t.aid

def aided : SafeholdRecoveryV1 := (s.sensed t).acceptAid t.aid (s.acceptedAid t)

def recovered : UInt8 × SafeholdRecoveryV1 := (s.aided t).recoveryCommand (s.acceptedAid t)

def composed : GlobalCommandCell :=
  (s.recovered t).2.composeCommand (s.acceptedFast t) (s.recovered t).1

theorem processRelease_eq : s.processRelease t.fast t.aid t.transition =
    ((s.recovered t).2.enterMode ((s.recovered t).2.mode (s.acceptedAid t))).emit (s.composed t)
      ((s.recovered t).2.mode (s.acceptedAid t)) := rfl

/-- The transition cell is for this release and this frame. -/
def admits (cell : GlobalTransitionCell) : Bool :=
  ¬(cell.session ≠ s.config.session ∨ cell.sourceEpoch ≠ s.epoch ∨ cell.effectiveEpoch ≠ s.epoch
    ∨ cell.fromFrame ≠ s.navigation.frame)

/-- The recovery counts a descent. -/
def descended : SafeholdRecoveryV1 :=
  { s with
    descendingCount := if getElem s.navigation.velocityQ24 2 Axes.z_lt < 0 then addSat8 s.descendingCount 1 else 0 }

def subsonic : Bool :=
  match s.lastFast with
  | some value => value.machQ12 < subsonicMachQ12
  | none => false

/-- The drogue is due. -/
def drogueDue : Bool :=
  (2 ≤ s.descendingCount ∧ s.subsonic) ∨ s.config.drogueBackupTimeQ16 ≤ s.lastTimeQ16

/-- The main parachute is due, as soon as the drogue has been out for long enough. -/
def mainDue (aid : Option GlobalAidFrameCell) : Bool :=
  (GlobalFlightComputer.feedback aid &&& 1 ≠ 0 ∧ getElem s.navigation.velocityQ24 2 Axes.z_lt < 0
      ∧ getElem s.navigation.positionQ12 2 Axes.z_lt ≤ s.config.mainAltitudeQ12Km)
    ∨ s.config.mainBackupTimeQ16 ≤ s.lastTimeQ16

def occurrence : Occurrence where
  epoch := s.epoch
  transition := t.transition.map fun cell ↦ (cell, s.admits cell)
  fast := (s.acceptedFast t).map (·.missionTimeQ16)
  drogue := (s.aided t).segment = .localRecovery ∧ (s.aided t).descended.drogueDue
    ∧ GlobalFlightComputer.continuous (s.acceptedAid t)
  main := (s.aided t).segment = .localRecovery ∧ (s.aided t).mainDue (s.acceptedAid t)
    ∧ GlobalFlightComputer.continuous (s.acceptedAid t)
  separationQ16 := s.config.minimumDeploymentSeparationQ16
  mode := (s.recovered t).2.mode (s.acceptedAid t)

end Stages

section View

variable {s : SafeholdRecoveryV1} {t : TickCells}

theorem view_enterSafe (alarm : UInt16) : (s.enterSafe alarm).view = s.view.enterSafe s.epoch alarm := by
  unfold enterSafe SafeholdView.enterSafe
  show _ = if s.safe = true then s.view else _
  split
  · rename_i hsafe
    unfold view
    rw [hsafe]
  · rfl

theorem view_transitioned :
    (s.transitioned t).view = s.view.transit s.epoch (t.transition.map fun cell ↦ (cell, s.admits cell)) := by
  unfold transitioned applyTransition
  cases t.transition with
  | none => rfl
  | some cell =>
      rw [Option.map_some]
      unfold SafeholdView.transit
      dsimp only
      by_cases hrefused : cell.session ≠ s.config.session ∨ cell.sourceEpoch ≠ s.epoch
          ∨ cell.effectiveEpoch ≠ s.epoch ∨ cell.fromFrame ≠ s.navigation.frame
      · have hadmits : ¬s.admits cell = true := fun h ↦ of_decide_eq_true h hrefused
        rw [if_pos hrefused, if_neg hadmits]
        exact view_enterSafe _
      · have hadmits : s.admits cell = true := decide_eq_true hrefused
        rw [if_neg hrefused, if_pos hadmits]
        show _ = match s.segment.next cell.fromFrame cell.toFrame with
          | none => _
          | some next => _
        cases s.segment.next cell.fromFrame cell.toFrame with
        | none => exact view_enterSafe _
        | some next => rfl

theorem steady_enterSafe (alarm : UInt16) :
    (s.enterSafe alarm).epoch = s.epoch ∧ (s.enterSafe alarm).config = s.config := by
  unfold enterSafe
  dsimp only
  split <;> exact ⟨rfl, rfl⟩

theorem steady_transitioned :
    (s.transitioned t).epoch = s.epoch ∧ (s.transitioned t).config = s.config := by
  unfold transitioned applyTransition
  cases t.transition with
  | none => exact ⟨rfl, rfl⟩
  | some cell =>
      dsimp only
      split
      · exact steady_enterSafe _
      · split
        · exact steady_enterSafe _
        · exact ⟨rfl, rfl⟩

theorem view_sensed : (s.sensed t).view = s.view.sensed (s.occurrence t) := by
  show _ = SafeholdView.sense (s.view.transit s.epoch (t.transition.map fun cell ↦
    (cell, s.admits cell))) s.epoch ((s.acceptedFast t).map (·.missionTimeQ16))
  rw [← @view_transitioned s t]
  unfold sensed acceptFast SafeholdView.sense
  cases s.acceptedFast t with
  | some value => rfl
  | none =>
      rw [Option.map_none]
      dsimp only
      rw [view_enterSafe, steady_transitioned.1]
      rfl

theorem view_aided : (s.aided t).view = (s.sensed t).view := by
  have hbarometer (navigation : GlobalNavigation) (value : GlobalAidFrameCell) :
      (navigation.aidBarometer value).frame = navigation.frame := by
    unfold GlobalNavigation.aidBarometer
    split <;> rfl
  have hattitude (navigation : GlobalNavigation) (value : GlobalAidFrameCell) :
      (navigation.aidAttitude value).frame = navigation.frame := by
    unfold GlobalNavigation.aidAttitude
    split <;> rfl
  have haid (s : SafeholdRecoveryV1) (value : GlobalAidFrameCell) :
      (s.aid value).frame = s.navigation.frame := by
    unfold aid
    dsimp only
    rw [hattitude, hbarometer]
    split <;> rfl
  unfold aided acceptAid
  cases s.acceptedAid t with
  | some value =>
      unfold view
      dsimp only
      rw [haid]
  | none =>
      dsimp only
      split <;> rfl

/-- The drogue has been out for long enough. -/
def separated (s : SafeholdRecoveryV1) : Bool :=
  s.config.minimumDeploymentSeparationQ16 ≤ subSat32 s.lastTimeQ16 s.drogueTimeQ16

/-- The recovery, in terms of what is due. -/
theorem recoveryCommand_eq {aid : Option GlobalAidFrameCell} :
    s.recoveryCommand aid =
      if s.segment ≠ .localRecovery then (0, { s with descendingCount := 0 })
      else
        let (drogue, s) := s.descended.deploy (!s.drogueLatched && s.descended.drogueDue)
          (GlobalFlightComputer.continuous aid)
          (fun s ↦ { s with drogueLatched := true, drogueTimeQ16 := s.lastTimeQ16 })
          globalCommandDrogue
        let (main, s) := s.deploy
          (!s.mainLatched && (s.drogueLatched && s.separated && s.mainDue aid))
          (GlobalFlightComputer.continuous aid) (fun s ↦ { s with mainLatched := true })
          globalCommandMain
        (drogue ||| main, s) := by
  have hdue (s : SafeholdRecoveryV1) : (s.drogueLatched && s.separated && s.mainDue aid) =
      decide (s.drogueLatched ∧ s.separated
        ∧ ((GlobalFlightComputer.feedback aid &&& 1 ≠ 0 ∧ s.navigation.velocityQ24[2] < 0
            ∧ s.navigation.positionQ12[2] ≤ s.config.mainAltitudeQ12Km)
          ∨ s.config.mainBackupTimeQ16 ≤ s.lastTimeQ16)) := by
    unfold mainDue
    rw [Bool.and_assoc, Bool.decide_and, Bool.decide_and, Bool.decide_eq_true, Bool.decide_eq_true]
  simp only [hdue]
  rfl

theorem deploy_eq {due continuity : Bool} {fire : SafeholdRecoveryV1 → SafeholdRecoveryV1}
    {bit : UInt8} : s.deploy due continuity fire bit =
      if due && continuity then
        (bit, (fire s).appendJournal .mode bit.toUInt32 0 #v[s.lastTimeQ16.toInt32, 0, 0, 0])
      else (0, { s with alarms := if due then s.alarms ||| globalAlarmRecovery else s.alarms }) := by
  cases due <;> cases continuity <;> rfl

section Deploy

variable {o : Occurrence} {due continuity : Bool}

/-- What the deployments go by besides the view. -/
def Steady (s s' : SafeholdRecoveryV1) : Prop :=
  s'.epoch = s.epoch ∧ s'.config = s.config ∧ s'.navigation = s.navigation
    ∧ s'.lastTimeQ16 = s.lastTimeQ16

theorem view_deployDrogue (hepoch : o.epoch = s.epoch) (hdue : o.drogue = (due && continuity)) :
    ∃ s', s.deploy (!s.drogueLatched && due) continuity
        (fun s ↦ { s with drogueLatched := true, drogueTimeQ16 := s.lastTimeQ16 }) globalCommandDrogue
      = (if s.view.deploysDrogue o then globalCommandDrogue else 0, s')
      ∧ s'.view = s.view.deployDrogue o ∧ s.Steady s' := by
  have hdeploys : s.view.deploysDrogue o = ((!s.drogueLatched && due) && continuity) := by
    rw [Bool.and_assoc, ← hdue]
    rfl
  rw [deploy_eq]
  unfold SafeholdView.deployDrogue
  rw [hdeploys]
  cases (!s.drogueLatched && due) && continuity with
  | true =>
      rw [if_pos rfl, if_pos rfl, if_pos rfl]
      refine ⟨_, rfl, ?_, rfl, rfl, rfl, rfl⟩
      rw [hepoch]
      rfl
  | false =>
      rw [if_neg Bool.false_ne_true, if_neg Bool.false_ne_true, if_neg Bool.false_ne_true]
      exact ⟨_, rfl, rfl, rfl, rfl, rfl, rfl⟩

theorem view_deployMain (hepoch : o.epoch = s.epoch) (hdue : o.main = (due && continuity))
    (hseparation : o.separationQ16 = s.config.minimumDeploymentSeparationQ16) :
    ∃ s', s.deploy (!s.mainLatched && (s.drogueLatched && s.separated && due)) continuity
        (fun s ↦ { s with mainLatched := true }) globalCommandMain
      = (if s.view.deploysMain o then globalCommandMain else 0, s')
      ∧ s'.view = s.view.deployMain o ∧ s.Steady s' := by
  have hdeploys : s.view.deploysMain o
      = ((!s.mainLatched && (s.drogueLatched && s.separated && due)) && continuity) := by
    unfold SafeholdView.deploysMain separated
    rw [hseparation, hdue]
    simp only [Bool.and_assoc]
    rfl
  rw [deploy_eq]
  unfold SafeholdView.deployMain
  rw [hdeploys]
  cases (!s.mainLatched && (s.drogueLatched && s.separated && due)) && continuity with
  | true =>
      rw [if_pos rfl, if_pos rfl, if_pos rfl]
      refine ⟨_, rfl, ?_, rfl, rfl, rfl, rfl⟩
      rw [hepoch]
      rfl
  | false =>
      rw [if_neg Bool.false_ne_true, if_neg Bool.false_ne_true, if_neg Bool.false_ne_true]
      exact ⟨_, rfl, rfl, rfl, rfl, rfl, rfl⟩

end Deploy

theorem steady_aided : (s.aided t).epoch = s.epoch ∧ (s.aided t).config = s.config := by
  have hsensed : (s.sensed t).epoch = s.epoch ∧ (s.sensed t).config = s.config := by
    unfold sensed acceptFast
    cases s.acceptedFast t with
    | some value => exact steady_transitioned
    | none =>
        exact (steady_enterSafe _).imp (·.trans steady_transitioned.1) (·.trans steady_transitioned.2)
  unfold aided acceptAid
  cases s.acceptedAid t with
  | some value => exact hsensed
  | none =>
      dsimp only
      split <;> exact hsensed

/-- The recovery deploys what the view says. -/
theorem recovered_spec :
    (s.recovered t).1 = s.view.deployment (s.occurrence t)
      ∧ (s.recovered t).2.view = ((s.view.sensed (s.occurrence t)).deployDrogue (s.occurrence t)).deployMain
        (s.occurrence t)
      ∧ (s.recovered t).2.epoch = s.epoch ∧ (s.recovered t).2.config = s.config := by
  obtain ⟨hepoch, hconfig⟩ := @steady_aided s t
  unfold SafeholdView.deployment
  rw [← view_sensed, ← view_aided, recovered, recoveryCommand_eq]
  by_cases hlocal : (s.aided t).segment = .localRecovery
  · have hdrogueDue : (s.occurrence t).drogue = ((s.aided t).descended.drogueDue
        && GlobalFlightComputer.continuous (s.acceptedAid t)) := by
      unfold occurrence
      simp [hlocal]
    have hmainDue : (s.occurrence t).main = ((s.aided t).mainDue (s.acceptedAid t)
        && GlobalFlightComputer.continuous (s.acceptedAid t)) := by
      unfold occurrence
      simp [hlocal]
    obtain ⟨s', hdrogue, hview', hepoch', hconfig', hnavigation', htime'⟩ :=
      @view_deployDrogue (s.aided t).descended (s.occurrence t) _ _ hepoch.symm hdrogueDue
    have hdue' : s'.mainDue (s.acceptedAid t) = (s.aided t).mainDue (s.acceptedAid t) := by
      unfold mainDue
      rw [hconfig', hnavigation', htime']
      rfl
    obtain ⟨s'', hmain, hview'', hepoch'', hconfig'', -⟩ :=
      @view_deployMain s' (s.occurrence t) (s'.mainDue (s.acceptedAid t)) _
        (hepoch'.trans hepoch).symm (hdue' ▸ hmainDue)
        (by rw [hconfig']; exact congrArg (·.minimumDeploymentSeparationQ16) hconfig.symm)
    rw [if_neg (not_not.mpr hlocal)]
    change (s.aided t).descended.deploy (!(s.aided t).drogueLatched && (s.aided t).descended.drogueDue)
      _ _ _ = _ at hdrogue
    rw [hdrogue]
    dsimp only
    rw [hmain, hview'', hview']
    exact ⟨rfl, rfl, (hepoch''.trans hepoch').trans hepoch, (hconfig''.trans hconfig').trans hconfig⟩
  · rw [if_pos hlocal]
    have hdrogue : (s.aided t).view.deploysDrogue (s.occurrence t) = false := by
      unfold SafeholdView.deploysDrogue occurrence
      simp [hlocal]
    have hmain (v : SafeholdView) : v.deploysMain (s.occurrence t) = false := by
      unfold SafeholdView.deploysMain occurrence
      simp [hlocal]
    have hkept : (s.aided t).view.deployDrogue (s.occurrence t) = (s.aided t).view := by
      unfold SafeholdView.deployDrogue
      rw [hdrogue]
      rfl
    rw [hkept]
    unfold SafeholdView.deployMain
    rw [hdrogue, hmain]
    exact ⟨rfl, rfl, hepoch, hconfig⟩

/-- A release of the package is a release of its view. -/
theorem view_step : (s.step t).view = s.view.release (s.occurrence t) := by
  obtain ⟨-, hview, hepoch, -⟩ := @recovered_spec s t
  have henter (s : SafeholdRecoveryV1) (mode : GlobalFlightMode) :
      (s.enterMode mode).view = s.view.enterMode s.epoch mode := by
    unfold enterMode SafeholdView.enterMode
    show _ = if mode ≠ s.lastMode then _ else _
    split <;> rfl
  show ((s.recovered t).2.enterMode ((s.recovered t).2.mode (s.acceptedAid t))).view = _
  rw [henter, hview, hepoch]
  rfl

end View

/-! ## One release -/

section Release

variable {s : SafeholdRecoveryV1} {t : TickCells} {bit : UInt8}

/-- The command of the release has a bit set. -/
def Commands (s : SafeholdRecoveryV1) (t : TickCells) (bit : UInt8) : Prop :=
  (s.command t).discrete &&& bit ≠ 0

instance : Decidable (s.Commands t bit) := inferInstanceAs (Decidable (_ ≠ _))

/-- What the release journals, told from the package before and after it: the transition, the safe
state, the two deployments and the change of the mode, each with one record if it happens. -/
def entries (s : SafeholdRecoveryV1) (t : TickCells) : List JournalEntry :=
  (match t.transition with
    | some cell =>
        if (s.step t).segment ≠ s.segment then [SafeholdView.transitionEntry s.epoch cell] else []
    | none => [])
  ++ (if !s.safe && (s.step t).safe then
      [SafeholdView.safeEntry s.epoch
        (if t.transition.isSome ∧ (s.step t).segment = s.segment then globalAlarmFrame
          else globalAlarmFastSensor ||| globalAlarmLink)]
    else [])
  ++ (if s.Commands t globalCommandDrogue then
      [SafeholdView.deployEntry s.epoch globalCommandDrogue (s.step t).lastTimeQ16] else [])
  ++ (if s.Commands t globalCommandMain then
      [SafeholdView.deployEntry s.epoch globalCommandMain (s.step t).lastTimeQ16] else [])
  ++ if (s.step t).lastMode ≠ s.lastMode then
      [SafeholdView.modeEntry s.epoch s.lastMode (s.step t).lastMode]
    else []

theorem safe_recovered : (s.recovered t).2.safe = (s.step t).safe := by
  have hrecovered := congrArg SafeholdView.safe (@recovered_spec s t).2.1
  have hstep := congrArg SafeholdView.safe (@view_step s t)
  rw [SafeholdView.release_eq] at hstep
  rw [SafeholdView.deployMain_eq, SafeholdView.deployDrogue_eq] at hrecovered
  exact hrecovered.trans hstep.symm

theorem command_discrete :
    (s.command t).discrete =
      if (s.step t).safe then s.view.deployment (s.occurrence t) ||| globalCommandSafe
      else s.view.deployment (s.occurrence t) := by
  show (if (s.recovered t).2.safe then (s.recovered t).1 ||| _ else (s.recovered t).1) = _
  rw [safe_recovered, recovered_spec.1]

/-- A command deploys what the view releases, and a safe one says that it is safe. -/
theorem commands_iff :
    (s.Commands t globalCommandDrogue ↔ s.view.releasesDrogue (s.occurrence t) = true)
      ∧ (s.Commands t globalCommandMain ↔ s.view.releasesMain (s.occurrence t) = true)
      ∧ ((s.step t).safe = true → s.Commands t globalCommandSafe) := by
  unfold Commands
  rw [command_discrete]
  show (_ ↔ (s.view.sensed (s.occurrence t)).deploysDrogue (s.occurrence t) = true)
    ∧ (_ ↔ ((s.view.sensed (s.occurrence t)).deployDrogue (s.occurrence t)).deploysMain (s.occurrence t)
      = true) ∧ _
  unfold SafeholdView.deployment
  cases (s.step t).safe <;>
    cases (s.view.sensed (s.occurrence t)).deploysDrogue (s.occurrence t) <;>
    cases ((s.view.sensed (s.occurrence t)).deployDrogue (s.occurrence t)).deploysMain (s.occurrence t) <;>
    decide

/-- A safe package commands nothing but its parachutes. -/
theorem idle_command (h : (s.step t).safe = true) :
    (s.command t).torqueDemandQ12 = #v[0, 0, 0]
      ∧ (s.command t).rcsPulseQuanta = Vector.replicate 12 0 := by
  rw [← safe_recovered] at h
  constructor
  · show ((s.recovered t).2.control (s.acceptedFast t)).1 = _
    unfold control
    rw [h, Bool.true_or, if_pos rfl]
    rfl
  · show (if (s.recovered t).2.safe then Vector.replicate 12 0 else _) = _
    rw [h, if_pos rfl]

theorem view_step_eq : (s.step t).view =
    { s.view.sensed (s.occurrence t) with
      drogueLatched := s.drogueLatched || s.view.releasesDrogue (s.occurrence t)
      mainLatched := s.mainLatched || s.view.releasesMain (s.occurrence t)
      drogueTimeQ16 := if s.view.releasesDrogue (s.occurrence t) then (s.step t).lastTimeQ16
        else s.drogueTimeQ16
      lastMode := (s.step t).lastMode
      journal := (s.step t).journal } := by
  have hstep := (@view_step s t).trans SafeholdView.release_eq
  rw [show (s.step t).lastTimeQ16 = _ from congrArg SafeholdView.lastTimeQ16 hstep,
    show (s.step t).lastMode = _ from congrArg SafeholdView.lastMode hstep,
    show (s.step t).journal = _ from congrArg SafeholdView.journal hstep]
  exact hstep

theorem step_segment : (s.step t).segment = (s.view.sensed (s.occurrence t)).segment :=
  congrArg SafeholdView.segment view_step_eq

theorem step_frame : (s.step t).navigation.frame = (s.view.sensed (s.occurrence t)).frame :=
  congrArg SafeholdView.frame view_step_eq

theorem step_safe : (s.step t).safe = (s.view.sensed (s.occurrence t)).safe :=
  congrArg SafeholdView.safe view_step_eq

theorem step_drogueLatched :
    (s.step t).drogueLatched = (s.drogueLatched || s.view.releasesDrogue (s.occurrence t)) :=
  congrArg SafeholdView.drogueLatched view_step_eq

theorem step_mainLatched :
    (s.step t).mainLatched = (s.mainLatched || s.view.releasesMain (s.occurrence t)) :=
  congrArg SafeholdView.mainLatched view_step_eq

theorem step_drogueTime :
    (s.step t).drogueTimeQ16 =
      if s.view.releasesDrogue (s.occurrence t) then (s.step t).lastTimeQ16 else s.drogueTimeQ16 :=
  congrArg SafeholdView.drogueTimeQ16 view_step_eq

theorem step_lastTime : (s.step t).lastTimeQ16 = (s.view.sensed (s.occurrence t)).lastTimeQ16 :=
  congrArg SafeholdView.lastTimeQ16 view_step_eq

/-- The arrivals, told from the package before and after the release. -/
theorem arrivals_eq : s.view.arrivals (s.occurrence t) =
    (match t.transition with
      | some cell =>
          if (s.step t).segment ≠ s.segment then [SafeholdView.transitionEntry s.epoch cell] else []
      | none => [])
    ++ if !s.safe && (s.step t).safe then
        [SafeholdView.safeEntry s.epoch
          (if t.transition.isSome ∧ (s.step t).segment = s.segment then globalAlarmFrame
            else globalAlarmFastSensor ||| globalAlarmLink)]
      else [] := by
  rw [step_segment, step_safe]
  unfold SafeholdView.arrivals
  rw [show (s.occurrence t).transition = t.transition.map fun cell ↦ (cell, s.admits cell) from rfl]
  cases t.transition <;> rfl

theorem journal_step : (s.step t).journal = run EventJournal.step s.journal (s.entries t) := by
  obtain ⟨hdrogue, hmain, -⟩ := @commands_iff s t
  have hstep := congrArg SafeholdView.journal ((@view_step s t).trans SafeholdView.release_eq)
  change (s.step t).journal = run EventJournal.step s.journal _ at hstep
  rw [hstep, arrivals_eq, ← step_lastTime]
  unfold entries
  rw [show (s.step t).lastMode = (s.occurrence t).mode from
    congrArg SafeholdView.lastMode ((@view_step s t).trans SafeholdView.release_eq)]
  simp only [hdrogue, hmain]
  rfl

/-- What is promised of a release. -/
structure Sound (s : SafeholdRecoveryV1) (t : TickCells) : Prop where
  forward : (s.step t).segment = s.segment ∨ ∃ cell, t.transition = some cell
    ∧ s.segment.next cell.fromFrame cell.toFrame = some (s.step t).segment
  frame : (s.step t).navigation.frame = (s.step t).segment.frame
  absorbing : s.safe = true → (s.step t).safe = true
  idle : (s.step t).safe = true → (s.command t).torqueDemandQ12 = #v[0, 0, 0]
    ∧ (s.command t).rcsPulseQuanta = Vector.replicate 12 0 ∧ s.Commands t globalCommandSafe
  drogue : s.Commands t globalCommandDrogue ↔
    s.drogueLatched = false ∧ (s.step t).drogueLatched = true
  main : s.Commands t globalCommandMain ↔ s.mainLatched = false ∧ (s.step t).mainLatched = true
  latched : (s.drogueLatched = true → (s.step t).drogueLatched = true)
    ∧ (s.mainLatched = true → (s.step t).mainLatched = true)
  journal : (s.step t).journal = run EventJournal.step s.journal (s.entries t)

/-- Whatever is deployed in a release was not latched before. -/
theorem releases_latched :
    (s.view.releasesDrogue (s.occurrence t) = true → s.drogueLatched = false)
      ∧ (s.view.releasesMain (s.occurrence t) = true → s.mainLatched = false) := by
  obtain ⟨-, -, hdrogue, hmain, -, -, -⟩ := @SafeholdView.sensed_spec s.view (s.occurrence t)
  constructor
  · intro h
    unfold SafeholdView.releasesDrogue SafeholdView.deploysDrogue at h
    rw [Bool.and_eq_true, Bool.not_eq_true', hdrogue] at h
    exact h.1
  · intro h
    unfold SafeholdView.releasesMain SafeholdView.deploysMain at h
    rw [SafeholdView.deployDrogue_eq, Bool.and_eq_true, Bool.not_eq_true'] at h
    exact hmain.symm.trans h.1

theorem sound_step (hframe : s.navigation.frame = s.segment.frame) : s.Sound t := by
  obtain ⟨hforward, hsafe, -, -, -, -, -⟩ := @SafeholdView.sensed_spec s.view (s.occurrence t)
  obtain ⟨hdrogue, hmain, hcommandsSafe⟩ := @commands_iff s t
  obtain ⟨hdrogueLatched, hmainLatched⟩ := @releases_latched s t
  have htransition {cell : GlobalTransitionCell} {admitted : Bool}
      (h : (s.occurrence t).transition = some (cell, admitted)) : t.transition = some cell := by
    obtain ⟨cell', hcell, heq⟩ := Option.map_eq_some_iff.mp h
    cases heq
    exact hcell
  constructor
  case forward =>
    rw [step_segment]
    rcases hforward with ⟨hsegment, -⟩ | ⟨cell, admitted, hcell, hnext, -⟩
    · exact .inl hsegment
    · exact .inr ⟨cell, htransition hcell, hnext⟩
  case frame =>
    rw [step_segment, step_frame]
    rcases hforward with ⟨hsegment, hsame⟩ | ⟨cell, admitted, -, hnext, htarget⟩
    · rw [hsegment, hsame]
      exact hframe
    · rw [htarget]
      exact SafeholdView.next_frame hnext
  case absorbing =>
    rw [step_safe]
    exact hsafe
  case idle => exact fun h ↦ ⟨(idle_command h).1, (idle_command h).2, hcommandsSafe h⟩
  case drogue =>
    rw [hdrogue, step_drogueLatched]
    constructor
    · intro h
      exact ⟨hdrogueLatched h, by rw [h, Bool.or_true]⟩
    · rintro ⟨hnot, h⟩
      rwa [hnot, Bool.false_or] at h
  case main =>
    rw [hmain, step_mainLatched]
    constructor
    · intro h
      exact ⟨hmainLatched h, by rw [h, Bool.or_true]⟩
    · rintro ⟨hnot, h⟩
      rwa [hnot, Bool.false_or] at h
  case latched =>
    rw [step_drogueLatched, step_mainLatched]
    exact ⟨fun h ↦ by rw [h, Bool.true_or], fun h ↦ by rw [h, Bool.true_or]⟩
  case journal => exact journal_step

theorem step_config : (s.step t).config = s.config := by
  have henter (s : SafeholdRecoveryV1) (mode : GlobalFlightMode) :
      (s.enterMode mode).config = s.config := by
    unfold enterMode
    split <;> rfl
  show ((s.recovered t).2.enterMode _).config = _
  rw [henter, recovered_spec.2.2.2]

end Release

/-! ## Every run -/

section Runs

variable {s : SafeholdRecoveryV1} {ts : List TickCells}

/-- A package that has been started: its frame is that of its segment, and the parachutes are to be
kept apart. -/
structure Started (s : SafeholdRecoveryV1) : Prop where
  frame : s.navigation.frame = s.segment.frame
  separation : 0 < s.config.minimumDeploymentSeparationQ16

theorem started_step (h : s.Started) (t : TickCells) : (s.step t).Started := by
  refine ⟨(sound_step h.frame).frame, ?_⟩
  rw [step_config]
  exact h.separation

theorem started_run (h : s.Started) (ts : List TickCells) : (run step s ts).Started :=
  run_invariant step Started (fun _ t h ↦ started_step h t) h ts

theorem new_started {config : SafeholdRecoveryConfig} (hnew : new config = some s) :
    s.Started ∧ s.drogueLatched = false ∧ s.config = config := by
  unfold new at hnew
  split at hnew
  · rename_i hvalid
    cases hnew
    refine ⟨⟨rfl, ?_⟩, rfl, rfl⟩
    unfold SafeholdRecoveryConfig.isValid at hvalid
    simp only [Bool.and_eq_true, decide_eq_true_eq] at hvalid
    exact hvalid.2
  · cases hnew

theorem run_config : (run step s ts).config = s.config :=
  run_invariant step (·.config = s.config) (fun _ _ h ↦ step_config.trans h) rfl ts

/-- What has been commanded is latched. -/
theorem latched_of_happens :
    (Happens step (fun s t ↦ s.Commands t globalCommandDrogue) s ts →
        (run step s ts).drogueLatched = true)
      ∧ (Happens step (fun s t ↦ s.Commands t globalCommandMain) s ts →
        (run step s ts).mainLatched = true) := by
  constructor
  · refine latch_of_happens _ (·.drogueLatched = true) (fun s t _ hnow ↦ ?_)
      (fun s t _ hlatched ↦ ?_) (meets_true s ts)
    · rw [step_drogueLatched, commands_iff.1.mp hnow, Bool.or_true]
    · rw [step_drogueLatched, hlatched, Bool.true_or]
  · refine latch_of_happens _ (·.mainLatched = true) (fun s t _ hnow ↦ ?_)
      (fun s t _ hlatched ↦ ?_) (meets_true s ts)
    · rw [step_mainLatched, commands_iff.2.1.mp hnow, Bool.or_true]
    · rw [step_mainLatched, hlatched, Bool.true_or]

/-- A parachute that has been commanded is not commanded again. -/
theorem not_happens_of_commands {bit : UInt8} {t : TickCells}
    (hbit : bit = globalCommandDrogue ∨ bit = globalCommandMain)
    (hcommands : (run step s ts).Commands t bit) :
    ¬Happens step (fun s t ↦ s.Commands t bit) s ts := by
  obtain ⟨hdrogue, hmain, -⟩ := @commands_iff (run step s ts) t
  obtain ⟨hnotDrogue, hnotMain⟩ := @releases_latched (run step s ts) t
  intro hhappens
  rcases hbit with rfl | rfl
  · have hlatched := latched_of_happens.1 hhappens
    rw [hnotDrogue (hdrogue.mp hcommands)] at hlatched
    cases hlatched
  · have hlatched := latched_of_happens.2 hhappens
    rw [hnotMain (hmain.mp hcommands)] at hlatched
    cases hlatched

/-- A drogue that is latched was commanded at its time. -/
theorem commanded_run (hlatched : s.drogueLatched = false)
    (h : (run step s ts).drogueLatched = true) :
    ∃ earlier drogue later, ts = earlier ++ drogue :: later
      ∧ (run step s earlier).Commands drogue globalCommandDrogue
      ∧ (run step s ts).drogueTimeQ16 = (run step s (earlier ++ [drogue])).lastTimeQ16 := by
  refine stamp_of_latch (fun s t ↦ s.Commands t globalCommandDrogue) (·.drogueLatched = true)
    (·.drogueTimeQ16) (·.lastTimeQ16) (fun s t _ hafter ↦ ?_) (Bool.eq_false_iff.mp hlatched)
    (meets_true s ts) h
  rw [step_drogueLatched] at hafter
  rw [step_drogueTime, commands_iff.1]
  cases hreleases : s.view.releasesDrogue (s.occurrence t) with
  | true => exact .inl ⟨rfl, if_pos rfl⟩
  | false =>
      rw [hreleases, Bool.or_false] at hafter
      exact .inr ⟨hafter, if_neg Bool.false_ne_true⟩

/-- **The safehold package.**  Its segment moves on with its frame, its safe state is final and idle,
its parachutes are commanded as they are latched, once each and the main one long enough after the
drogue, and its journal says what happened. -/
theorem safehold_sound {config : SafeholdRecoveryConfig} (hnew : new config = some s)
    (ts : List TickCells) (t : TickCells) :
    (run step s ts).navigation.frame = (run step s ts).segment.frame
      ∧ (run step s ts).Sound t
      ∧ (∀ bit, bit = globalCommandDrogue ∨ bit = globalCommandMain →
        (run step s ts).Commands t bit → ¬Happens step (fun s t ↦ s.Commands t bit) s ts)
      ∧ ((run step s ts).Commands t globalCommandMain →
        ∃ earlier drogue later, ts = earlier ++ drogue :: later
          ∧ (run step s earlier).Commands drogue globalCommandDrogue
          ∧ (run step s (earlier ++ [drogue])).lastTimeQ16.toNat
              + config.minimumDeploymentSeparationQ16.toNat
            ≤ (run step s (ts ++ [t])).lastTimeQ16.toNat) := by
  obtain ⟨hstarted, hlatched, hconfig⟩ := new_started hnew
  have hrun := started_run hstarted ts
  refine ⟨hrun.frame, sound_step hrun.frame, fun bit ↦ not_happens_of_commands, fun hmain ↦ ?_⟩
  obtain ⟨-, hdrogue, -, htime⟩ :=
    SafeholdView.releasesMain_separated (commands_iff.2.1.mp hmain) hrun.separation
  obtain ⟨earlier, drogue, later, hts, hcommands, hstamp⟩ := commanded_run hlatched hdrogue
  refine ⟨earlier, drogue, later, hts, hcommands, ?_⟩
  rw [← hstamp, run_concat, step_lastTime, ← hconfig, ← @run_config s ts]
  exact htime

end Runs

/-- The package of the coast configuration. -/
def coastPackage : SafeholdRecoveryV1 :=
  (new ksaG10rSafeholdCoastConfig).get (by decide +kernel)

/-- A release without a fast cell. -/
theorem safehold_sound_coast :
    (run step coastPackage [⟨none, none, none⟩]).safe = true
      ∧ (run step coastPackage [⟨none, none, none⟩]).Sound ⟨none, none, none⟩ :=
  ⟨by decide +kernel, (safehold_sound (Option.some_get _).symm _ _).2.1⟩

end SafeholdRecoveryV1

end Ksa64.Flight
