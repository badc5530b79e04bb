import Ksa64.Flight.Phase6Realtime

/-!
# The local flight computer

The truth-blind flight software of Phase 8.5 in local coordinates.  A computer has a valid
configuration.  `tickInPlace` is one release, composed of its stages in the source's order.
-/

namespace Ksa64.Flight

open Ksa64.Library Ksa64.Interface

def localAlarmInertial : UInt16 := 1
def localAlarmAid : UInt16 := 2
def localAlarmLink : UInt16 := 4
def localAlarmSafe : UInt16 := 8
def localAlarmRecovery : UInt16 := 16
def localAlarmDeadline : UInt16 := 32
def gravityDeltaVQ19 : Int32 := 160671

inductive LocalControlCapability where
  | monitorOnly
  | twoAxisGimbal
deriving DecidableEq, Repr

structure LocalFlightConfig where
  session : UInt16
  capability : LocalControlCapability
  minimumArmingTimeQ18 : Int32
  minimumArmingAltitudeQ13 : Int32
  burnoutQualificationTimeQ18 : Int32
  drogueBackupTimeQ18 : Int32
  mainBackupTimeQ18 : Int32
  mainAltitudeQ13 : Int32
  minimumDeploymentSeparationQ18 : Int32
  proportionalGainQ15 : Int16
  derivativeGainQ15 : Int16
  gimbalLimitQ15 : Int16
deriving DecidableEq

def LocalFlightConfig.isValid (config : LocalFlightConfig) : Bool :=
  config.session != 0
    && 0 ≤ config.minimumArmingTimeQ18
    && 0 ≤ config.minimumArmingAltitudeQ13
    && config.minimumArmingTimeQ18 < config.burnoutQualificationTimeQ18
    && config.burnoutQualificationTimeQ18 < config.drogueBackupTimeQ18
    && config.drogueBackupTimeQ18 < config.mainBackupTimeQ18
    && 0 < config.mainAltitudeQ13
    && 0 < config.minimumDeploymentSeparationQ18
    && 0 ≤ config.proportionalGainQ15
    && 0 ≤ config.derivativeGainQ15
    && 0 ≤ config.gimbalLimitQ15

namespace LocalFlight

def hw (h value : UInt32) : UInt32 := (rotateLeft32 h 5 + 0x9e3779b9) ^^^ value

def hashNav (h : UInt32) (epoch : UInt16) (position velocity : Vec3) : UInt32 :=
  ((position.toList ++ velocity.toList).map Int32.toUInt32).foldl hw (hw h epoch.toUInt32)

def hashCommand (h : UInt32) (c : LocalCommandCell) : UInt32 :=
  let h := hw h c.sourceEpoch.toUInt32
  let h := hw h c.effectiveEpoch.toUInt32
  let h := hw h (Pair.first c.gimbal).toUInt16.toUInt32
  let h := hw h (Pair.second c.gimbal).toUInt16.toUInt32
  hw h c.discrete.toUInt32

def subSatI16 (a b : Int16) : Int16 := .ofInt (max (-2 ^ 15) (min (2 ^ 15 - 1) (a.toInt - b.toInt)))

end LocalFlight

open LocalFlight

/-! ## Navigation -/

structure LocalNavigation where
  positionQ13 : Vec3
  velocityQ19 : Vec3
  attitudeVector : Vector Int16 3
  checksum : UInt32
deriving DecidableEq

namespace LocalNavigation

def new (positionQ13 : Vec3) (attitudeVector : Vector Int16 3) : LocalNavigation where
  positionQ13 := positionQ13
  velocityQ19 := Axes.all 0
  attitudeVector := attitudeVector
  checksum := 0x811c9dc5

def inertial (nav : LocalNavigation) (cell : LocalInertialCell) : LocalNavigation :=
  let moved := Vector.zipWith (fun v (d : Int16) ↦ addSatI32 v (d.toInt32 <<< 7)) nav.velocityQ19
    cell.deltaVelocity
  let velocity := Axes.of (Axes.x moved) (Axes.y moved) (subSatI32 (Axes.z moved) gravityDeltaVQ19)
  let position := Vector.zipWith (fun p (v : Int32) ↦ addSatI32 p (v >>> 11)) nav.positionQ13 velocity
  { positionQ13 := position
    velocityQ19 := velocity
    attitudeVector := cell.platformAngle
    checksum := hashNav nav.checksum cell.measurementEpoch position velocity }

def barometer (nav : LocalNavigation) (cell : LocalAidCell) : LocalNavigation :=
  if cell.validity &&& localAidBarometer ≠ 0 then
    let p := nav.positionQ13
    { nav with positionQ13 := Axes.of (Axes.x p) (Axes.y p) (blend (Axes.z p) cell.barometerQ13 2) }
  else nav

def gps (nav : LocalNavigation) (cell : LocalAidCell) : LocalNavigation :=
  if cell.validity &&& localAidGps ≠ 0 then
    { nav with
      positionQ13 := .zipWith (blend · · 3) nav.positionQ13 cell.gpsPositionQ13
      velocityQ19 := .zipWith (blend · · 3) nav.velocityQ19 cell.gpsVelocityQ19 }
  else nav

def aid (nav : LocalNavigation) (cell : LocalAidCell) : LocalNavigation :=
  let nav := (nav.barometer cell).gps cell
  { nav with
    checksum := hashNav nav.checksum cell.measurementEpoch nav.positionQ13 nav.velocityQ19 }

end LocalNavigation

/-! ## The computer -/

structure LocalFlightEvidence where
  command : LocalCommandCell
  status : Option LocalStatusCell
  navigation : LocalNavigation
  safe : Bool
  armed : Bool
  drogueLatched : Bool
  mainLatched : Bool
  alarms : UInt16
  flightChecksum : UInt32
  deadlineMisses : UInt16
deriving DecidableEq

structure LocalFlightComputer where
  config : LocalFlightConfig
  valid : config.isValid = true
  epoch : UInt16
  navigation : LocalNavigation
  attitudeTarget : Vector Int16 3
  alarms : UInt16
  missing : UInt8
  safe : Bool
  armed : Bool
  launched : Bool
  seenPowered : Bool
  lastPowered : Bool
  burnoutQualified : Bool
  descendingCount : UInt8
  drogueLatched : Bool
  mainLatched : Bool
  drogueTimeQ18 : Int32
  lastAid : Option LocalAidCell
  lastCommand : LocalCommandCell
  lastStatus : Option LocalStatusCell
  flightChecksum : UInt32
  deadlineMisses : UInt16
deriving DecidableEq

namespace LocalFlightComputer

def fresh (config : LocalFlightConfig) (valid : config.isValid = true) (positionQ13 : Vec3)
    (attitudeVector : Vector Int16 3) : LocalFlightComputer where
  config := config
  valid := valid
  epoch := 0
  navigation := .new positionQ13 attitudeVector
  attitudeTarget := attitudeVector
  alarms := 0
  missing := 0
  safe := false
  armed := false
  launched := false
  seenPowered := false
  lastPowered := false
  burnoutQualified := false
  descendingCount := 0
  drogueLatched := false
  mainLatched := false
  drogueTimeQ18 := 0
  lastAid := none
  lastCommand := {
    session := config.session
    sourceEpoch := 0
    effectiveEpoch := 1
    flags := 0
    discrete := 0
    gimbal := Pair.of 0 0
    controlDemand := Pair.of 0 0
    status := 0 }
  lastStatus := none
  flightChecksum := 0x811c9dc5
  deadlineMisses := 0

def new (config : LocalFlightConfig) (positionQ13 : Vec3) (attitudeVector : Vector Int16 3) :
    Option LocalFlightComputer :=
  if h : config.isValid = true then some (fresh config h positionQ13 attitudeVector) else none

def recordDeadlineMiss (c : LocalFlightComputer) : LocalFlightComputer :=
  let misses := addSat16 c.deadlineMisses 1
  let alarms := c.alarms ||| localAlarmDeadline
  if 1 ≤ misses then
    { c with deadlineMisses := misses, safe := true, alarms := alarms ||| localAlarmSafe }
  else { c with deadlineMisses := misses, alarms := alarms }

/-- The time of the release. -/
def timeQ18 (c : LocalFlightComputer) : Int32 := mulSatI32 c.epoch.toUInt32.toInt32 8192

/-! ### What comes in -/

/-- The inertial cell is of the session and of the release. -/
def accepts (c : LocalFlightComputer) (cell : LocalInertialCell) : Bool :=
  cell.session == c.config.session && cell.measurementEpoch == c.epoch
    && cell.productionEpoch == c.epoch

def takeInertial (c : LocalFlightComputer) : Option LocalInertialCell → LocalFlightComputer
  | some cell => { c with navigation := c.navigation.inertial cell, missing := 0 }
  | none =>
      let missing := addSat8 c.missing 1
      let alarms := c.alarms ||| (localAlarmInertial ||| localAlarmLink)
      if 3 ≤ missing then
        { c with missing := missing, safe := true, alarms := alarms ||| localAlarmSafe }
      else { c with missing := missing, alarms := alarms }

def acceptsAid (c : LocalFlightComputer) (cell : LocalAidCell) : Bool :=
  cell.session == c.config.session && cell.measurementEpoch ≤ cell.productionEpoch
    && cell.productionEpoch ≤ c.epoch && c.epoch - cell.productionEpoch ≤ 32

def takeAid (c : LocalFlightComputer) : Option LocalAidCell → LocalFlightComputer
  | some cell =>
      if c.acceptsAid cell then
        { c with navigation := c.navigation.aid cell, lastAid := some cell }
      else { c with alarms := c.alarms ||| localAlarmAid }
  | none => c

/-! ### The phases of the flight -/

def measuredPowered (cell : LocalInertialCell) : Bool := cell.vehicleStatus &&& 2 != 0

def accelerationIndicator (cell : LocalInertialCell) : UInt32 :=
  let part (value : Int16) : UInt32 := .ofNat value.toInt.natAbs
  part (Axes.x cell.deltaVelocity) + part (Axes.y cell.deltaVelocity)
    + part (Axes.z cell.deltaVelocity)

/-- The acceleration is that of a launch. -/
def launches (c : LocalFlightComputer) (cell : LocalInertialCell) : Bool :=
  65536 ≤ c.timeQ18 && 1800 < accelerationIndicator cell

/-- What whatever cell there is says of the engine and of the launch. -/
def watch (c : LocalFlightComputer) : Option LocalInertialCell → LocalFlightComputer
  | some cell =>
      { c with
        lastPowered := measuredPowered cell
        seenPowered := c.seenPowered || measuredPowered cell
        launched := c.launched || c.launches cell }
  | none => { c with seenPowered := c.seenPowered || c.lastPowered }

/-- The arming and the burnout.  The last power is that of the release by now. -/
def qualify (c : LocalFlightComputer) : LocalFlightComputer :=
  { c with
    armed := c.armed || c.launched && c.config.minimumArmingTimeQ18 ≤ c.timeQ18
      && c.config.minimumArmingAltitudeQ13 ≤ Axes.z c.navigation.positionQ13
    burnoutQualified := c.burnoutQualified || c.seenPowered && !c.lastPowered
      && c.config.burnoutQualificationTimeQ18 ≤ c.timeQ18 }

/-! ### The recovery -/

def continuity (c : LocalFlightComputer) : Bool :=
  match c.lastAid with
  | some a => a.validity &&& localAidContinuity != 0 && a.continuity &&& 1 != 0
  | none => false

def feedback (c : LocalFlightComputer) : UInt16 :=
  match c.lastAid with
  | some a => if a.validity &&& localAidDeploymentFeedback ≠ 0 then a.deploymentFeedback else 0
  | none => 0

def countDescent (c : LocalFlightComputer) : LocalFlightComputer :=
  { c with
    descendingCount :=
      if c.burnoutQualified && Axes.z c.navigation.velocityQ19 < 0 then addSat8 c.descendingCount 1
      else 0 }

def drogueDue (c : LocalFlightComputer) : Bool :=
  c.armed && c.burnoutQualified && 2 ≤ c.descendingCount
    || c.armed && c.config.drogueBackupTimeQ18 ≤ c.timeQ18

def deployDrogue (c : LocalFlightComputer) : UInt8 × LocalFlightComputer :=
  if !c.drogueLatched && c.drogueDue then
    if c.continuity then
      (localCommandDrogue, { c with drogueLatched := true, drogueTimeQ18 := c.timeQ18 })
    else (0, { c with alarms := c.alarms ||| localAlarmRecovery })
  else (0, c)

def separated (c : LocalFlightComputer) : Bool :=
  c.config.minimumDeploymentSeparationQ18 ≤ subSatI32 c.timeQ18 c.drogueTimeQ18

def mainDue (c : LocalFlightComputer) : Bool :=
  c.drogueLatched && c.feedback &&& 1 != 0 && c.separated && Axes.z c.navigation.velocityQ19 < 0
      && Axes.z c.navigation.positionQ13 ≤ c.config.mainAltitudeQ13
    || c.drogueLatched && c.separated && c.config.mainBackupTimeQ18 ≤ c.timeQ18

def deployMain (c : LocalFlightComputer) : UInt8 × LocalFlightComputer :=
  if !c.mainLatched && c.mainDue then
    if c.continuity then (localCommandMain, { c with mainLatched := true })
    else (0, { c with alarms := c.alarms ||| localAlarmRecovery })
  else (0, c)

/-- Every fourth release looks at the parachutes. -/
def recover (c : LocalFlightComputer) : UInt8 × LocalFlightComputer :=
  if c.epoch &&& 3 = 0 then
    let (drogue, c) := c.countDescent.deployDrogue
    let (main, c) := c.deployMain
    (drogue ||| main, c)
  else (0, c)

/-! ### The command -/

def axisDemand (c : LocalFlightComputer) (angle target rate : Int16) : Int16 :=
  let angle := (subSatI16 angle target).toInt32
  let p := (-angle * c.config.proportionalGainQ15.toInt32) >>> 15
  let d := (-rate.toInt32 * c.config.derivativeGainQ15.toInt32) >>> 15
  clampI16 (addSatI32 p d)

/-- What a cell demands of the two axes across the vehicle. -/
def cellDemand (c : LocalFlightComputer) (cell : LocalInertialCell) : Vector Int16 2 :=
  Pair.of
    (c.axisDemand (Axes.y cell.platformAngle) (Axes.y c.attitudeTarget) (Axes.y cell.angularRate))
    (c.axisDemand (Axes.z cell.platformAngle) (Axes.z c.attitudeTarget) (Axes.z cell.angularRate))

def demand (c : LocalFlightComputer) : Option LocalInertialCell → Vector Int16 2
  | some cell => c.cellDemand cell
  | none => c.lastCommand.controlDemand

def clampedGimbal (c : LocalFlightComputer) (value : Int16) : Int16 :=
  max (-c.config.gimbalLimitQ15) (min c.config.gimbalLimitQ15 value)

def gimbal (c : LocalFlightComputer) (demand : Vector Int16 2) : Vector Int16 2 :=
  if !c.safe && c.missing ≤ 2 && c.lastPowered && c.config.capability == .twoAxisGimbal then
    if c.missing = 0 then demand.map c.clampedGimbal else c.lastCommand.gimbal
  else Pair.of 0 0

def compose (c : LocalFlightComputer) (discrete : UInt8) (demand : Vector Int16 2) :
    LocalCommandCell where
  session := c.config.session
  sourceEpoch := c.epoch
  effectiveEpoch := c.epoch + 1
  flags := if c.safe then 1 else 0
  discrete := if c.safe then localCommandSafe else discrete
  gimbal := c.gimbal demand
  controlDemand := demand
  status := c.alarms

def statusCell (c : LocalFlightComputer) : Option LocalStatusCell :=
  if c.epoch &&& 3 = 0 then
    some {
      session := c.config.session
      sourceEpoch := c.epoch
      productionEpoch := c.epoch
      mode := if c.safe then 7 else if c.mainLatched then 5 else if c.drogueLatched then 4
        else if c.armed then 2 else 1
      flags := 0
      alarms := c.alarms
      navigationPositionQ13 := c.navigation.positionQ13
      navigationVelocityQ19 := c.navigation.velocityQ19
      flightChecksum := c.flightChecksum
      deadlineMisses := c.deadlineMisses
      navigationChecksum := c.navigation.checksum.toUInt16 }
  else none

/-- The end of a release: its command and its status. -/
def conclude (c : LocalFlightComputer) (discrete : UInt8) (demand : Vector Int16 2) :
    LocalFlightComputer :=
  let command := c.compose discrete demand
  let checksum := LocalFlight.hashCommand c.flightChecksum command
  let c := { c with flightChecksum := checksum, lastCommand := command }
  { c with lastStatus := c.statusCell, epoch := c.epoch + 1 }

/-- The computer as it comes to the recovery. -/
def prepared (c : LocalFlightComputer) (inertial : Option LocalInertialCell)
    (aid : Option LocalAidCell) : LocalFlightComputer :=
  (((c.takeInertial (inertial.filter c.accepts)).takeAid aid).watch inertial).qualify

/-- An absent cell is read nowhere, so that `none` stands for it. -/
def tickInPlace (c : LocalFlightComputer) (inertial : Option LocalInertialCell)
    (aid : Option LocalAidCell) : LocalFlightComputer :=
  let recovered := (c.prepared inertial aid).recover
  recovered.2.conclude recovered.1 (c.demand inertial)

def evidence (c : LocalFlightComputer) : LocalFlightEvidence where
  command := c.lastCommand
  status := c.lastStatus
  navigation := c.navigation
  safe := c.safe
  armed := c.armed
  drogueLatched := c.drogueLatched
  mainLatched := c.mainLatched
  alarms := c.alarms
  flightChecksum := c.flightChecksum
  deadlineMisses := c.deadlineMisses

def tick (c : LocalFlightComputer) (inertial : Option LocalInertialCell)
    (aid : Option LocalAidCell) : LocalFlightEvidence × LocalFlightComputer :=
  ((c.tickInPlace inertial aid).evidence, c.tickInPlace inertial aid)

/-! ## Frames -/

section Frames

variable {c : LocalFlightComputer}

/-- What the intake of the cells leaves alone. -/
structure Intake (c c' : LocalFlightComputer) : Prop where
  config : c'.config = c.config
  epoch : c'.epoch = c.epoch
  launched : c'.launched = c.launched
  lastPowered : c'.lastPowered = c.lastPowered
  drogueLatched : c'.drogueLatched = c.drogueLatched
  mainLatched : c'.mainLatched = c.mainLatched
  drogueTimeQ18 : c'.drogueTimeQ18 = c.drogueTimeQ18

theorem Intake.trans {c' c'' : LocalFlightComputer} (h : Intake c c') (h' : Intake c' c'') :
    Intake c c'' :=
  ⟨h'.config.trans h.config, h'.epoch.trans h.epoch, h'.launched.trans h.launched,
    h'.lastPowered.trans h.lastPowered, h'.drogueLatched.trans h.drogueLatched,
    h'.mainLatched.trans h.mainLatched, h'.drogueTimeQ18.trans h.drogueTimeQ18⟩

theorem takeInertial_intake (cell : Option LocalInertialCell) : Intake c (c.takeInertial cell) := by
  cases cell with
  | some cell => exact ⟨rfl, rfl, rfl, rfl, rfl, rfl, rfl⟩
  | none =>
      unfold takeInertial
      dsimp only
      split_ifs <;> exact ⟨rfl, rfl, rfl, rfl, rfl, rfl, rfl⟩

theorem takeAid_intake (aid : Option LocalAidCell) : Intake c (c.takeAid aid) := by
  cases aid with
  | none => exact ⟨rfl, rfl, rfl, rfl, rfl, rfl, rfl⟩
  | some cell =>
      unfold takeAid
      dsimp only
      split_ifs <;> exact ⟨rfl, rfl, rfl, rfl, rfl, rfl, rfl⟩

theorem takeAid_safe (aid : Option LocalAidCell) : (c.takeAid aid).safe = c.safe := by
  cases aid with
  | none => rfl
  | some cell =>
      unfold takeAid
      dsimp only
      split_ifs <;> rfl

/-- What the recovery leaves alone. -/
structure Recovery (c c' : LocalFlightComputer) : Prop where
  config : c'.config = c.config
  epoch : c'.epoch = c.epoch
  safe : c'.safe = c.safe
  launched : c'.launched = c.launched
  lastPowered : c'.lastPowered = c.lastPowered

theorem Recovery.trans {c' c'' : LocalFlightComputer} (h : Recovery c c') (h' : Recovery c' c'') :
    Recovery c c'' :=
  ⟨h'.config.trans h.config, h'.epoch.trans h.epoch, h'.safe.trans h.safe,
    h'.launched.trans h.launched, h'.lastPowered.trans h.lastPowered⟩

theorem countDescent_recovery : Recovery c c.countDescent := ⟨rfl, rfl, rfl, rfl, rfl⟩

theorem deployDrogue_recovery : Recovery c c.deployDrogue.2 := by
  unfold deployDrogue
  split_ifs <;> exact ⟨rfl, rfl, rfl, rfl, rfl⟩

theorem deployMain_recovery : Recovery c c.deployMain.2 := by
  unfold deployMain
  split_ifs <;> exact ⟨rfl, rfl, rfl, rfl, rfl⟩

theorem recover_recovery : Recovery c c.recover.2 := by
  unfold recover
  split_ifs
  · exact (countDescent_recovery.trans deployDrogue_recovery).trans deployMain_recovery
  · exact ⟨rfl, rfl, rfl, rfl, rfl⟩

end Frames

/-! ## Rejected cells -/

section Rejected

variable {c : LocalFlightComputer} {cell : LocalInertialCell} {aid : Option LocalAidCell}

/-- The cells as far as a release that accepts no inertial cell takes them in. -/
def missed (c : LocalFlightComputer) (aid : Option LocalAidCell) : LocalFlightComputer :=
  (c.takeInertial none).takeAid aid

/-- A release that has taken its cells in, and goes on with whatever inertial cell there is. -/
def goOn (c : LocalFlightComputer) (inertial : Option LocalInertialCell)
    (demand : Vector Int16 2) : LocalFlightComputer :=
  let recovered := (c.watch inertial).qualify.recover
  recovered.2.conclude recovered.1 demand

theorem tickInPlace_none : c.tickInPlace none aid = (c.missed aid).goOn none (c.demand none) := rfl

theorem tickInPlace_rejected (h : c.accepts cell = false) :
    c.tickInPlace (some cell) aid = (c.missed aid).goOn (some cell) (c.demand (some cell)) := by
  have hfilter : (some cell).filter c.accepts = none := by
    rw [Option.filter_some, h, if_neg Bool.false_ne_true]
  unfold tickInPlace prepared
  rw [hfilter]
  rfl

theorem missed_intake : Intake c (c.missed aid) :=
  (takeInertial_intake none).trans (takeAid_intake aid)

theorem goOn_launched {inertial : Option LocalInertialCell} {demand : Vector Int16 2} :
    (c.goOn inertial demand).launched = (c.watch inertial).launched :=
  (@recover_recovery (c.watch inertial).qualify).launched

theorem goOn_lastPowered {inertial : Option LocalInertialCell} {demand : Vector Int16 2} :
    (c.goOn inertial demand).lastPowered = (c.watch inertial).lastPowered :=
  (@recover_recovery (c.watch inertial).qualify).lastPowered

theorem goOn_demand {inertial : Option LocalInertialCell} {demand : Vector Int16 2} :
    (c.goOn inertial demand).lastCommand.controlDemand = demand := rfl

/-- Nothing of a rejected cell is used: it says of the engine what the last one said, it is not the
launch, and it demands what was demanded last. -/
structure Ignores (c : LocalFlightComputer) (cell : LocalInertialCell) : Prop where
  powered : measuredPowered cell = c.lastPowered
  launched : c.launched = true ∨ c.launches cell = false
  demand : c.cellDemand cell = c.lastCommand.controlDemand

/-- A cell that says nothing new. -/
theorem watch_eq (hpowered : measuredPowered cell = c.lastPowered)
    (hlaunched : c.launched = true ∨ c.launches cell = false) :
    c.watch (some cell) = c.watch none := by
  have hkept : (c.launched || c.launches cell) = c.launched := by
    rcases hlaunched with h | h
    · rw [h, Bool.true_or]
    · rw [h, Bool.or_false]
  unfold watch
  dsimp only
  rw [hkept, hpowered]

theorem tick_rejected_eq_iff (h : c.accepts cell = false) :
    c.tick (some cell) aid = c.tick none aid ↔ c.Ignores cell := by
  have hintake := @missed_intake c aid
  have hlaunches : (c.missed aid).launches cell = c.launches cell := by
    unfold launches timeQ18
    rw [hintake.epoch]
  constructor
  · intro hsame
    have hstate : c.tickInPlace (some cell) aid = c.tickInPlace none aid := congrArg Prod.snd hsame
    rw [tickInPlace_rejected h, tickInPlace_none] at hstate
    refine ⟨?_, ?_, ?_⟩
    · have hflag := congrArg LocalFlightComputer.lastPowered hstate
      rw [goOn_lastPowered, goOn_lastPowered] at hflag
      exact hflag.trans hintake.lastPowered
    · have hflag := congrArg LocalFlightComputer.launched hstate
      rw [goOn_launched, goOn_launched] at hflag
      have hkept : (c.launched || c.launches cell) = c.launched := by
        rw [← hlaunches, ← hintake.launched]
        exact hflag
      cases hc : c.launched with
      | true => exact .inl rfl
      | false =>
          rw [hc, Bool.false_or] at hkept
          exact .inr hkept
    · have hlast := congrArg (fun s : LocalFlightComputer ↦ s.lastCommand.controlDemand) hstate
      rwa [goOn_demand, goOn_demand] at hlast
  · rintro ⟨hengine, hlaunch, hdemand⟩
    have hstate : c.tickInPlace (some cell) aid = c.tickInPlace none aid := by
      rw [tickInPlace_rejected h, tickInPlace_none]
      unfold goOn
      rw [@watch_eq (c.missed aid) cell (hengine.trans hintake.lastPowered.symm)
          (by rwa [hintake.launched, hlaunches]),
        show c.demand (some cell) = c.demand none from hdemand]
    unfold tick
    rw [hstate]

end Rejected

end LocalFlightComputer

/-! ## Both computers -/

/-- A rejected cell changes nothing exactly if nothing of it is used. -/
theorem rejected_cell_ignored_iff (c : RealtimeFlightComputer) (cell : RealtimeInertialCell)
    (aid : Option RealtimeAidCell) (d : LocalFlightComputer) (localCell : LocalInertialCell)
    (localAid : Option LocalAidCell) :
    (c.accepts cell = false → (c.tick (some cell) aid = c.tick none aid ↔ c.Ignores cell))
      ∧ (d.accepts localCell = false →
        (d.tick (some localCell) localAid = d.tick none localAid ↔ d.Ignores localCell)) :=
  ⟨fun h ↦ RealtimeFlightComputer.tick_rejected_eq_iff h,
    fun h ↦ LocalFlightComputer.tick_rejected_eq_iff h⟩

/-- A small rocket. -/
def sounderConfig : LocalFlightConfig where
  session := 0x8501
  capability := .monitorOnly
  minimumArmingTimeQ18 := 262144
  minimumArmingAltitudeQ13 := 81920
  burnoutQualificationTimeQ18 := 786432
  drogueBackupTimeQ18 := 3932160
  mainBackupTimeQ18 := 17039360
  mainAltitudeQ13 := 1638400
  minimumDeploymentSeparationQ18 := 524288
  proportionalGainQ15 := 8192
  derivativeGainQ15 := 4096
  gimbalLimitQ15 := 455

theorem sounderConfig_valid : sounderConfig.isValid = true := by decide

def sounder : LocalFlightComputer :=
  .fresh sounderConfig sounderConfig_valid (Axes.all 0) (Axes.all 0)

def realtimeStart : RealtimeFlightComputer := .new 0x601 (Axes.all 0) (Axes.all 0)

/-- A cell of another session. -/
def foreignRealtimeCell (stageStatus : UInt16) : RealtimeInertialCell :=
  ⟨0x602, 0, 0, 0, 0, Axes.all 0, Axes.all 0, Axes.all 0, Pair.of 0 0, stageStatus⟩

def foreignLocalCell (vehicleStatus : UInt16) : LocalInertialCell :=
  ⟨0x8502, 0, 0, 0, 0, Axes.all 0, Axes.all 0, Axes.all 0, Pair.of 0 0, vehicleStatus, 0⟩

theorem foreign_cell_ignored :
    realtimeStart.tick (some (foreignRealtimeCell 1)) none = realtimeStart.tick none none
      ∧ sounder.tick (some (foreignLocalCell 0)) none = sounder.tick none none :=
  have hignored := rejected_cell_ignored_iff realtimeStart (foreignRealtimeCell 1) none sounder
    (foreignLocalCell 0) none
  ⟨(hignored.1 (by decide)).mpr (by decide),
    (hignored.2 (by decide)).mpr ⟨by decide, by decide, by decide⟩⟩

/-- A cell of another session ignites the engine, and another one is taken for a burn. -/
theorem foreign_cell_obeyed :
    (¬∀ (c : RealtimeFlightComputer) (cell : RealtimeInertialCell) (aid : Option RealtimeAidCell),
        c.accepts cell = false → c.tick (some cell) aid = c.tick none aid)
      ∧ ¬∀ (c : LocalFlightComputer) (cell : LocalInertialCell) (aid : Option LocalAidCell),
        c.accepts cell = false → c.tick (some cell) aid = c.tick none aid := by
  constructor
  · intro hall
    have hsame := hall realtimeStart (foreignRealtimeCell 0) none (by decide)
    have hdiscrete := congrArg (fun e ↦ e.1.command.discrete) hsame
    exact absurd hdiscrete (by decide)
  · intro hall
    have hsame := hall sounder (foreignLocalCell 2) none (by decide)
    have hpowered := congrArg (fun e ↦ e.2.lastPowered) hsame
    exact absurd hpowered (by decide)

end Ksa64.Flight
