import Ksa64.Flight.Phase10Math
import Ksa64.Interface.EarlierCells

/-!
# The realtime flight profile

The 32, 8 and 1 Hz flight software of Phase 6.  `tick` is one release; each of its stages is a
definition of its own, in the source's order.  The arithmetic wraps where the source does not
saturate or clamp.
-/

namespace Ksa64.Flight

open Ksa64.Library Ksa64.Interface

def palCpuHz : UInt32 := 985248
def realtimeFastHz : UInt32 := 32
def palFastTickCycles : UInt32 := palCpuHz / realtimeFastHz
def palTickBudgetCycles : UInt32 := palFastTickCycles * 4 / 5

def alarmStaleLink : UInt16 := 1
def alarmDeadline : UInt16 := 2
def alarmSafeing : UInt16 := 4

structure ScheduleRelease where
  epoch : UInt16
  fast : Bool
  navigation : Bool
  guidance : Bool
  status : Bool
deriving DecidableEq

structure VirtualScheduler where
  epoch : UInt16
deriving DecidableEq

def VirtualScheduler.release (s : VirtualScheduler) : ScheduleRelease × VirtualScheduler :=
  ({ epoch := s.epoch
     fast := true
     navigation := s.epoch &&& 3 == 0
     guidance := s.epoch &&& 31 == 2
     status := s.epoch &&& 3 == 0 },
    ⟨s.epoch + 1⟩)

structure RealtimeNavigation where
  positionQ12 : Vector Int32 3
  velocityQ24 : Vector Int32 3
  platformAngle : Vector Int16 3
  angularRate : Vector Int16 3
  checksum : UInt32
deriving DecidableEq

structure RealtimeFlightEvidence where
  command : RealtimeCommandCell
  status : Option RealtimeStatusCell
  release : ScheduleRelease
  safe : Bool
deriving DecidableEq

structure RealtimeFlightComputer where
  session : UInt16
  scheduler : VirtualScheduler
  navigation : RealtimeNavigation
  target : Vector Int16 3
  targetAccumulatorQ5 : Vector Int32 3
  targetDeltaQ5 : Vector Int32 3
  targetRate : Vector Int16 3
  deltaAccumulator : Vector Int32 3
  missing : UInt8
  alarms : UInt16
  deadlineMisses : UInt16
  flightChecksum : UInt32
  safe : Bool
deriving DecidableEq

namespace RealtimeFlightComputer

/-! ## Checksums -/

def hashByte (h : UInt32) (byte : UInt8) : UInt32 :=
  (rotateLeft32 h 5 ^^^ byte.toUInt32) + 0x9e3779b9

def hw (h v : UInt32) : UInt32 := (le32 v).foldl hashByte h

/-- The four bytes of the widened value. -/
def hwI16 (h : UInt32) (v : Int16) : UInt32 :=
  let bytes := le16 v.toUInt16
  let sign : UInt8 := if bytes.getD 1 0 &&& 0x80 ≠ 0 then 0xff else 0
  (bytes ++ [sign, sign]).foldl hashByte h

/-- A release takes one axis into the checksum. -/
def releaseAxis (epoch : UInt16) : Fin 3 :=
  ⟨(epoch >>> 2).toNat % 3, Nat.mod_lt _ (Nat.zero_lt_succ 2)⟩

def hashNavigationRelease (h : UInt32) (epoch : UInt16) (position velocity : Vector Int32 3) :
    UInt32 :=
  let h := hw h epoch.toUInt32
  let h := hw h (position.get (releaseAxis epoch)).toUInt32
  hw h (velocity.get (releaseAxis epoch)).toUInt32

def hashCommand (h : UInt32) (c : RealtimeCommandCell) : UInt32 :=
  let h := hw h c.sourceEpoch.toUInt32
  let h := hw h c.effectiveEpoch.toUInt32
  let h := hwI16 h (Pair.first c.gimbal)
  let h := hwI16 h (Pair.second c.gimbal)
  hw h c.flags.toUInt32

/-! ## The release -/

def new (session : UInt16) (position velocity : Vector Int32 3) : RealtimeFlightComputer where
  session := session
  scheduler := ⟨0⟩
  navigation := ⟨position, velocity, Axes.all 0, Axes.all 0, 2166136261⟩
  target := Axes.all 0
  targetAccumulatorQ5 := Axes.all 0
  targetDeltaQ5 := Axes.all 0
  targetRate := Axes.all 0
  deltaAccumulator := Axes.all 0
  missing := 0
  alarms := 0
  deadlineMisses := 0
  flightChecksum := 2166136261
  safe := false

def setGuidanceSegment (c : RealtimeFlightComputer) (start stop rate : Vector Int16 3) :
    RealtimeFlightComputer :=
  { c with
    target := start
    targetRate := rate
    targetAccumulatorQ5 := start.map fun (s : Int16) ↦ s.toInt32 <<< (5 : Int32)
    targetDeltaQ5 := .zipWith (fun (s e : Int16) ↦ e.toInt32 - s.toInt32) start stop }

def recordCycles (c : RealtimeFlightComputer) (cycles : UInt32) : RealtimeFlightComputer :=
  if palTickBudgetCycles < cycles then
    { c with
      deadlineMisses := addSat16 c.deadlineMisses 1
      alarms := c.alarms ||| (alarmDeadline ||| alarmSafeing)
      safe := true }
  else c

/-- The inertial cell is of the session and of the release. -/
def accepts (c : RealtimeFlightComputer) (cell : RealtimeInertialCell) : Bool :=
  cell.session == c.session && cell.measurementEpoch == c.scheduler.epoch

def takeInertial (c : RealtimeFlightComputer) : Option RealtimeInertialCell →
    RealtimeFlightComputer
  | some cell =>
      { c with
        missing := 0
        navigation := { c.navigation with
          platformAngle := cell.platformAngle
          angularRate := cell.angularRate }
        deltaAccumulator := .zipWith (fun d (v : Int16) ↦ addSatI32 d v.toInt32)
          c.deltaAccumulator cell.deltaVelocity }
  | none =>
      let missing := addSat8 c.missing 1
      let alarms := c.alarms ||| alarmStaleLink
      if 3 ≤ missing then
        { c with missing := missing, safe := true, alarms := alarms ||| alarmSafeing }
      else { c with missing := missing, alarms := alarms }

def takeGps (nav : RealtimeNavigation) (fix : RealtimeAidCell) : RealtimeNavigation :=
  if fix.validity &&& realtimeAidGps ≠ 0 then
    { nav with
      positionQ12 := .zipWith (fun p g ↦ addSatI32 p ((g - p) >>> 2)) nav.positionQ12
        fix.gpsPositionQ12
      velocityQ24 := .zipWith (fun v g ↦ addSatI32 v ((g - v) >>> 3)) nav.velocityQ24
        fix.gpsVelocityQ24 }
  else nav

def addSatI16 (a b : Int16) : Int16 := .ofInt (max (-2 ^ 15) (min (2 ^ 15 - 1) (a.toInt + b.toInt)))

def takeStar (nav : RealtimeNavigation) (fix : RealtimeAidCell) : RealtimeNavigation :=
  if fix.validity &&& realtimeAidStar ≠ 0 then
    { nav with
      platformAngle := .zipWith (fun p s ↦ addSatI16 p ((s - p) >>> 2)) nav.platformAngle
        fix.starAngle }
  else nav

/-- The 8 Hz part: an aid cell of the session is blended in, and what has accumulated is
integrated. -/
def navigate (c : RealtimeFlightComputer) (release : ScheduleRelease)
    (aid : Option RealtimeAidCell) : RealtimeFlightComputer :=
  if release.navigation then
    let nav := match aid.filter fun cell ↦ cell.session == c.session with
      | some fix => takeStar (takeGps c.navigation fix) fix
      | none => c.navigation
    let velocity := .zipWith (fun v (d : Int32) ↦ addSatI32 v (d <<< 12)) nav.velocityQ24 c.deltaAccumulator
    let position := .zipWith (fun p (v : Int32) ↦ addSatI32 p (v >>> 15)) nav.positionQ12 velocity
    { c with
      navigation := { nav with
        velocityQ24 := velocity
        positionQ12 := position
        checksum := hashNavigationRelease nav.checksum release.epoch position velocity }
      deltaAccumulator := Axes.all 0 }
  else c

def clampGimbal (value : Int32) : Int16 := (max (-6863) (min 6863 value)).toInt16

/-- What the attitude error demands of the gimbals and of the roll jets. -/
def control (c : RealtimeFlightComputer) : Vector Int16 2 × Vector Int8 3 :=
  if !c.safe && c.missing == 0 then
    let angle := c.navigation.platformAngle
    let rate := c.navigation.angularRate
    let errorX := (Axes.x c.target).toInt32 - (Axes.x angle).toInt32
    let errorY := (Axes.y c.target).toInt32 - (Axes.y angle).toInt32
    let errorZ := (Axes.z c.target).toInt32 - (Axes.z angle).toInt32
    let pitchRateError := (Axes.y c.targetRate).toInt32 - (Axes.y rate).toInt32
    let yawRateError := (Axes.z c.targetRate).toInt32 - (Axes.z rate).toInt32
    let rollRateError := (Axes.x c.targetRate).toInt32 - (Axes.x rate).toInt32
    let pitch := -(errorY >>> 1) - (pitchRateError <<< 2)
    let yaw := -(errorZ >>> 1) - (yawRateError <<< 2)
    let roll := (errorX >>> 11) + (rollRateError >>> 11)
    (Pair.of (clampGimbal pitch) (clampGimbal yaw),
      Axes.of (max (-127) (min 127 roll)).toInt8 0 0)
  else (Pair.of 0 0, Axes.all 0)

/-- The discrete command goes by the stage status of whatever cell there is. -/
def discrete (c : RealtimeFlightComputer) (inertial : Option RealtimeInertialCell) : UInt8 :=
  if c.safe then 4
  else match inertial.map fun cell ↦ cell.stageStatus &&& 3 with
    | some status => if status = 0 then 1 else if status = 2 then 2 else 0
    | none => 0

def compose (c : RealtimeFlightComputer) (release : ScheduleRelease) (discrete : UInt8) :
    RealtimeCommandCell where
  session := c.session
  sourceEpoch := release.epoch
  effectiveEpoch := release.epoch + 1
  flags := if c.safe then 1 else 0
  discrete := discrete
  gimbal := c.control.1
  rcs := c.control.2
  status := c.missing

def statusCell (c : RealtimeFlightComputer) (release : ScheduleRelease) :
    Option RealtimeStatusCell :=
  if release.status then
    some {
      session := c.session
      sourceEpoch := release.epoch
      productionEpoch := release.epoch
      mode := if c.safe then 7 else 2
      flags := 0
      alarms := c.alarms
      navigationPositionQ12 := c.navigation.positionQ12
      navigationVelocityQ24 := c.navigation.velocityQ24
      flightChecksum := c.flightChecksum
      deadlineMisses := c.deadlineMisses }
  else none

def advanceGuidanceSlice (c : RealtimeFlightComputer) : RealtimeFlightComputer :=
  let accumulator := .zipWith addSatI32 c.targetAccumulatorQ5 c.targetDeltaQ5
  { c with
    targetAccumulatorQ5 := accumulator
    target := accumulator.map fun (value : Int32) ↦ clampI16 (value >>> 5) }

/-- The end of a release: its command and its status. -/
def conclude (c : RealtimeFlightComputer) (release : ScheduleRelease) (discrete : UInt8) :
    RealtimeFlightEvidence × RealtimeFlightComputer :=
  let command := c.compose release discrete
  let c := { c with flightChecksum := hashCommand c.flightChecksum command }
  (⟨command, c.statusCell release, release, c.safe⟩, c.advanceGuidanceSlice)

def tick (c : RealtimeFlightComputer) (inertial : Option RealtimeInertialCell)
    (aid : Option RealtimeAidCell) : RealtimeFlightEvidence × RealtimeFlightComputer :=
  let accepted := inertial.filter c.accepts
  let (release, scheduler) := c.scheduler.release
  let c := ({ c with scheduler := scheduler }.takeInertial accepted).navigate release aid
  c.conclude release (c.discrete inertial)

/-! ## Rejected cells -/

section Rejected

variable {c : RealtimeFlightComputer} {cell : RealtimeInertialCell} {aid : Option RealtimeAidCell}

/-- The release up to its command, when it accepts no cell. -/
def missed (c : RealtimeFlightComputer) (aid : Option RealtimeAidCell) : RealtimeFlightComputer :=
  ({ c with scheduler := c.scheduler.release.2 }.takeInertial none).navigate c.scheduler.release.1 aid

theorem tick_none : c.tick none aid =
    (c.missed aid).conclude c.scheduler.release.1 ((c.missed aid).discrete none) := rfl

/-- A rejected cell comes back in the discrete command. -/
theorem tick_rejected (h : c.accepts cell = false) : c.tick (some cell) aid =
    (c.missed aid).conclude c.scheduler.release.1 ((c.missed aid).discrete (some cell)) := by
  have hfilter : (some cell).filter c.accepts = none := by
    rw [Option.filter_some, h, if_neg Bool.false_ne_true]
  unfold tick
  rw [hfilter]
  rfl

theorem navigate_safe {release : ScheduleRelease} : (c.navigate release aid).safe = c.safe := by
  unfold navigate
  split_ifs <;> rfl

/-- Without a cell the computer is safe from the third release on. -/
theorem missed_safe : (c.missed aid).safe = (c.safe || decide (2 ≤ c.missing)) := by
  have hmissing : 3 ≤ addSat8 c.missing 1 ↔ 2 ≤ c.missing := by
    rw [UInt8.le_iff_toNat_le, UInt8.le_iff_toNat_le, toNat_addSat8]
    have hbound := c.missing.toNat_lt
    constructor <;> intro h <;> simp at h ⊢ <;> omega
  unfold missed
  rw [navigate_safe]
  unfold takeInertial
  dsimp only
  by_cases hlate : 2 ≤ c.missing
  · rw [if_pos (hmissing.mpr hlate), decide_eq_true hlate, Bool.or_true]
  · rw [if_neg (fun h ↦ hlate (hmissing.mp h)), decide_eq_false hlate, Bool.or_false]

/-- Both commands are the same when the stage status stands neither for the ignition nor for the
separation. -/
theorem discrete_some_iff : c.discrete (some cell) = c.discrete none ↔
    c.safe = true ∨ cell.stageStatus &&& 3 ≠ 0 ∧ cell.stageStatus &&& 3 ≠ 2 := by
  unfold discrete
  cases c.safe with
  | true => exact iff_of_true rfl (.inl rfl)
  | false =>
      rw [if_neg Bool.false_ne_true, if_neg Bool.false_ne_true, or_iff_right Bool.false_ne_true]
      dsimp only [Option.map]
      by_cases hignition : cell.stageStatus &&& 3 = 0
      · rw [if_pos hignition]
        exact iff_of_false (by decide) fun h ↦ h.1 hignition
      · rw [if_neg hignition]
        by_cases hseparate : cell.stageStatus &&& 3 = 2
        · rw [if_pos hseparate]
          exact iff_of_false (by decide) fun h ↦ h.2 hseparate
        · rw [if_neg hseparate]
          exact iff_of_true rfl ⟨hignition, hseparate⟩

/-- The discrete command is part of what a release ends with. -/
theorem conclude_inj {release : ScheduleRelease} {a b : UInt8}
    (h : c.conclude release a = c.conclude release b) : a = b :=
  congrArg (fun e : RealtimeFlightEvidence × RealtimeFlightComputer ↦ e.1.command.discrete) h

/-- Nothing of a rejected cell is used: the computer is safe by the end of the release, or the stage
status stands neither for the ignition nor for the separation. -/
def Ignores (c : RealtimeFlightComputer) (cell : RealtimeInertialCell) : Prop :=
  c.safe = true ∨ 2 ≤ c.missing ∨ cell.stageStatus &&& 3 ≠ 0 ∧ cell.stageStatus &&& 3 ≠ 2

instance (c : RealtimeFlightComputer) (cell : RealtimeInertialCell) : Decidable (c.Ignores cell) :=
  inferInstanceAs (Decidable (_ ∨ _))

theorem tick_rejected_eq_iff (h : c.accepts cell = false) :
    c.tick (some cell) aid = c.tick none aid ↔ c.Ignores cell := by
  rw [tick_rejected h, tick_none]
  have hsame : (c.missed aid).discrete (some cell) = (c.missed aid).discrete none ↔
      c.Ignores cell := by
    rw [discrete_some_iff, missed_safe, Bool.or_eq_true, decide_eq_true_iff, or_assoc]
    rfl
  rw [← hsame]
  exact ⟨conclude_inj, congrArg _⟩

end Rejected

end RealtimeFlightComputer

end Ksa64.Flight
