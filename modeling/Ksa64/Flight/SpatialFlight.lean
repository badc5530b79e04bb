import Ksa64.Flight.SpatialNavigation
import Ksa64.Library.Run

/-!
# The spatial flight computer

Guidance, attitude control and sequencing of Phase 5.  Whatever the computer cannot use latches the
abort, and an aborted computer commands the safe command only.
-/

namespace Ksa64.Flight

open Ksa64.Library Ksa64.Interface

def stage1CutoffStep : UInt32 := 1240
def stage2FlightCutoffStep : UInt32 := 3132
def gimbalLimitQ16 : Int32 := 6863
def rcsLimitQ15 : Int32 := 32767
def trackingLimitQ16 : Int32 := 2288
def trackingLimitSteps : UInt8 := 16

structure AttitudeControllerGains where
  gimbalErrorShift : UInt8
  gimbalRateShift : UInt8
  rcsErrorShift : UInt8
  rcsRateShift : UInt8
  rcsDeadbandQ15 : Int32
  bodyFrameError : Bool
deriving DecidableEq

def AttitudeControllerGains.referenceStage1 : AttitudeControllerGains :=
  ⟨16, 10, 18, 15, 64, true⟩

def AttitudeControllerGains.referenceStage2 : AttitudeControllerGains :=
  ⟨17, 9, 18, 8, 64, true⟩

structure SpatialGuidanceTarget where
  attitudeQ30 : Quaternion
  angularRateQ24 : Vec3
deriving DecidableEq

structure SpatialFlightStatus where
  mode : FlightMode
  alarms : UInt16
  abortLatched : Bool
  trackingBadSteps : UInt8
  checksum : UInt32
deriving DecidableEq

structure SpatialFlightOutput where
  sequence : UInt32
  navigation : SpatialNavigationState
  mode : FlightMode
  alarms : UInt16
  command : SpatialActuatorCommand
  flightChecksum : UInt32
deriving DecidableEq

structure SpatialFlightComputer where
  navigation : SpatialNavigation
  status : SpatialFlightStatus
  previousCommand : SpatialActuatorCommand
deriving DecidableEq

/-! ## Attitude control -/

namespace SpatialFlight

def product (left right : Int32) : Int32 := ((left.toInt64 * right.toInt64) >>> 30).toInt32

def component (q : Quaternion) (i : Nat) : Int32 := q.toList.getD i 0

/-- The error in the axes of the body. -/
def quaternionErrorBody (desired current : Quaternion) : Quaternion :=
  let d := component desired
  let w := component current 0
  let x := -component current 1
  let y := -component current 2
  let z := -component current 3
  SpatialNavigation.quad
    (product w (d 0) - product x (d 1) - product y (d 2) - product z (d 3))
    (product w (d 1) + product x (d 0) + product y (d 3) - product z (d 2))
    (product w (d 2) - product x (d 3) + product y (d 0) + product z (d 1))
    (product w (d 3) + product x (d 2) - product y (d 1) + product z (d 0))

def quaternionError (desired current : Quaternion) : Quaternion :=
  let d := component desired
  let w := component current 0
  let x := -component current 1
  let y := -component current 2
  let z := -component current 3
  SpatialNavigation.quad
    (product (d 0) w - product (d 1) x - product (d 2) y - product (d 3) z)
    (product (d 0) x + product (d 1) w + product (d 2) z - product (d 3) y)
    (product (d 0) y - product (d 1) z + product (d 2) w + product (d 3) x)
    (product (d 0) z + product (d 1) y - product (d 2) x + product (d 3) w)

def applyDeadband (value deadband : Int32) : Int32 :=
  if (if value < 0 then negSatI32 value else value) ≤ deadband then 0 else value

def clampTo (limit value : Int32) : Int32 := max (-limit) (min limit value)

/-- The magnitude of a number; that of the least one wraps. -/
def abs32 (value : Int32) : Int32 := if value < 0 then -value else value

def shifted (value : Int32) (shift : UInt8) : Int32 := value >>> shift.toUInt32.toInt32

/-- The gimbal turns against the error. -/
def gimbalAxis (gains : AttitudeControllerGains) (error rate : Int32) : Int32 :=
  let raw := -shifted error gains.gimbalErrorShift - shifted rate gains.gimbalRateShift
  clampTo gimbalLimitQ16 (if abs32 raw ≤ 1 then 0 else raw)

def rcsAxis (gains : AttitudeControllerGains) (error rate : Int32) : Int32 :=
  applyDeadband
    (clampTo rcsLimitQ15 (shifted error gains.rcsErrorShift + shifted rate gains.rcsRateShift))
    gains.rcsDeadbandQ15

def attitudeCommandWithGains (sequence : UInt32) (navigation : SpatialNavigationState)
    (target : SpatialGuidanceTarget) (gains : AttitudeControllerGains) : SpatialActuatorCommand :=
  let raw := if gains.bodyFrameError then
      quaternionErrorBody target.attitudeQ30 navigation.attitudeQ30
    else quaternionError target.attitudeQ30 navigation.attitudeQ30
  let error := if component raw 0 < 0 then raw.map negSatI32 else raw
  let rate := Vector.zipWith subSatI32 target.angularRateQ24 navigation.angularRateQ24
  { sequence := sequence
    gimbalQ16 := Pair.of (gimbalAxis gains (component error 2) (Axes.y rate))
      (gimbalAxis gains (component error 3) (Axes.z rate))
    rcsQ15 := Axes.of (rcsAxis gains (component error 1) (Axes.x rate))
      (rcsAxis gains (component error 2) (Axes.y rate))
      (rcsAxis gains (component error 3) (Axes.z rate))
    engineAction := .hold
    separate := false
    abortSafeing := false }

def hashFlight (hash : UInt32) (status : SpatialFlightStatus) (command : SpatialActuatorCommand) :
    UInt32 :=
  let hash := hashWord hash status.mode.code.toUInt32
  let hash := hashWord hash status.alarms.toUInt32
  let hash := hashWord hash command.sequence
  let hash := (command.gimbalQ16.toList.map Int32.toUInt32).foldl hashWord hash
  let hash := (command.rcsQ15.toList.map Int32.toUInt32).foldl hashWord hash
  let hash := hashWord hash command.engineAction.code.toUInt32
  hashWord hash ((if command.separate then 1 else 0) ||| (if command.abortSafeing then 2 else 0))

end SpatialFlight

open SpatialFlight

/-! ## The computer -/

namespace SpatialFlightComputer

def new : SpatialFlightComputer where
  navigation := .new
  status := ⟨.boot, 0, false, 0, 2166136261⟩
  previousCommand := .safe 0

def latchAbort (c : SpatialFlightComputer) (alarm : UInt16) : SpatialFlightComputer :=
  { c with
    status := { c.status with
      abortLatched := true
      mode := .abort
      alarms := c.status.alarms ||| (alarm ||| alarmAbort) } }

def withChecksum (c : SpatialFlightComputer) (checksum : UInt32) : SpatialFlightComputer :=
  { c with status := { c.status with checksum := checksum } }

def makeOutput (c : SpatialFlightComputer) (sequence : UInt32) (navigation : SpatialNavigationState)
    (command : SpatialActuatorCommand) : SpatialFlightOutput × SpatialFlightComputer :=
  let checksum := SpatialFlight.hashFlight c.status.checksum c.status command
  (⟨sequence, navigation, c.status.mode, c.status.alarms, command, checksum⟩,
    c.withChecksum checksum)

def safeOutput (c : SpatialFlightComputer) (sequence : UInt32) :
    SpatialFlightOutput × SpatialFlightComputer :=
  { c with previousCommand := .safe sequence }.makeOutput sequence c.navigation.state (.safe sequence)

def frameMode (frame : SpatialSensorFrame) : FlightMode :=
  if frame.stagePhase = .complete then .coast
  else if frame.stagePhase = .coastBeforeSeparation then .stageTransition
  else if frame.activeStage = 0 then .programmedAscent
  else if frame.engineOn then .insertion
  else .stageTransition

def updateMode (c : SpatialFlightComputer) (frame : SpatialSensorFrame) : SpatialFlightComputer :=
  { c with status := { c.status with mode := frameMode frame } }

/-- The actuator is somewhere else than it was commanded to. -/
def isOff (c : SpatialFlightComputer) (frame : SpatialSensorFrame) : Bool :=
  let pitchError := abs32
    (subSatI32 (Pair.first frame.gimbalAppliedQ16) (Pair.first c.previousCommand.gimbalQ16))
  let yawError := abs32
    (subSatI32 (Pair.second frame.gimbalAppliedQ16) (Pair.second c.previousCommand.gimbalQ16))
  trackingLimitQ16 < pitchError || trackingLimitQ16 < yawError

def countTracking (c : SpatialFlightComputer) (frame : SpatialSensorFrame) : SpatialFlightComputer :=
  { c with
    status := { c.status with
      trackingBadSteps := if c.isOff frame then addSat8 c.status.trackingBadSteps 1 else 0 } }

def monitorActuator (c : SpatialFlightComputer) (frame : SpatialSensorFrame) :
    SpatialFlightComputer :=
  if frame.validity &&& sensorValidActuator = 0 then c.latchAbort alarmCommandRejected
  else
    let c := c.countTracking frame
    if trackingLimitSteps ≤ c.status.trackingBadSteps then c.latchAbort alarmSteering else c

/-- Powered, the gimbal has pitch and yaw, and the jets have roll alone. -/
def sparePropellant (frame : SpatialSensorFrame) (command : SpatialActuatorCommand) :
    SpatialActuatorCommand :=
  if frame.engineOn then { command with rcsQ15 := Axes.of (Axes.x command.rcsQ15) 0 0 } else command

/-- The last cutoff ends the powered flight. -/
def endsFlight (frame : SpatialSensorFrame) : Bool :=
  frame.activeStage == 1 && frame.stagePhase == .burning && stage2FlightCutoffStep ≤ frame.sequence

def sequencedAction (frame : SpatialSensorFrame) (action : EngineAction) : EngineAction :=
  if endsFlight frame then .cutoff
  else if frame.activeStage == 0 && frame.stagePhase == .burning
      && stage1CutoffStep ≤ frame.sequence then .cutoff
  else if frame.stagePhase = .coastBeforeIgnition then .ignite
  else action

def applySequencer (c : SpatialFlightComputer) (frame : SpatialSensorFrame)
    (command : SpatialActuatorCommand) : SpatialActuatorCommand × SpatialFlightComputer :=
  ({ command with
      engineAction := sequencedAction frame command.engineAction
      separate := command.separate || frame.stagePhase == .coastBeforeSeparation },
    { c with
      status := { c.status with mode := if endsFlight frame then .coast else c.status.mode } })

/-- The computer with its estimate for the frame goes on to a command. -/
def fly (c : SpatialFlightComputer) (frame : SpatialSensorFrame)
    (navigation : SpatialNavigationState) (target : SpatialGuidanceTarget)
    (gains : AttitudeControllerGains) : SpatialFlightOutput × SpatialFlightComputer :=
  let c := (c.updateMode frame).monitorActuator frame
  if c.status.abortLatched then c.safeOutput frame.sequence
  else
    let attitude := attitudeCommandWithGains frame.sequence navigation target gains
    let (command, c) := c.applySequencer frame (sparePropellant frame attitude)
    { c with previousCommand := command }.makeOutput frame.sequence navigation command

def stepWithGains (c : SpatialFlightComputer) (frame : SpatialSensorFrame)
    (target : SpatialGuidanceTarget) (gains : AttitudeControllerGains) :
    SpatialFlightOutput × SpatialFlightComputer :=
  let updated := c.navigation.update frame
  let c := { c with navigation := updated.2 }
  match updated.1 with
  | .error _ => (c.latchAbort alarmNavigation).safeOutput frame.sequence
  | .ok navigation =>
      if c.status.abortLatched then c.safeOutput frame.sequence
      else c.fly frame navigation target gains

def stepSerializedWithGains (c : SpatialFlightComputer) (bytes : List UInt8)
    (target : SpatialGuidanceTarget) (gains : AttitudeControllerGains) :
    SpatialFlightOutput × SpatialFlightComputer :=
  match parseSpatialSensorFrame bytes with
  | .ok frame => c.stepWithGains frame target gains
  | .error _ => (c.latchAbort alarmSensorFrame).safeOutput c.navigation.state.sequence

/-! ## Runs -/

/-- What the computer is given: the bytes of a frame, or a frame. -/
inductive Input where
  | serialized (bytes : List UInt8) (target : SpatialGuidanceTarget)
      (gains : AttitudeControllerGains)
  | given (frame : SpatialSensorFrame) (target : SpatialGuidanceTarget)
      (gains : AttitudeControllerGains)
deriving DecidableEq

/-- The frame of an input, if its bytes are those of one. -/
def Input.parsed : Input → Option SpatialSensorFrame
  | .serialized bytes _ _ => (parseSpatialSensorFrame bytes).toOption
  | .given frame _ _ => some frame

def step (c : SpatialFlightComputer) : Input → SpatialFlightOutput × SpatialFlightComputer
  | .serialized bytes target gains => c.stepSerializedWithGains bytes target gains
  | .given frame target gains => c.stepWithGains frame target gains

def after (c : SpatialFlightComputer) (i : Input) : SpatialFlightComputer := (c.step i).2

/-- The applied gimbal is farther from the commanded one than the limit. -/
def Exceeds (c : SpatialFlightComputer) (i : Input) : Prop :=
  ∃ frame, i.parsed = some frame
    ∧ (2288 < ((Pair.first frame.gimbalAppliedQ16).toInt
          - (Pair.first c.previousCommand.gimbalQ16).toInt).natAbs
      ∨ 2288 < ((Pair.second frame.gimbalAppliedQ16).toInt
          - (Pair.second c.previousCommand.gimbalQ16).toInt).natAbs)

/-- The step takes the magnitude of a difference that has none. -/
def Overflows (c : SpatialFlightComputer) (i : Input) : Prop :=
  ∃ frame, i.parsed = some frame ∧ (c.navigation.update frame).1.isOk ∧ c.status.abortLatched = false
    ∧ frame.validity &&& sensorValidActuator ≠ 0
    ∧ (subSatI32 (Pair.first frame.gimbalAppliedQ16) (Pair.first c.previousCommand.gimbalQ16)
          = -2147483648
      ∨ subSatI32 (Pair.second frame.gimbalAppliedQ16) (Pair.second c.previousCommand.gimbalQ16)
          = -2147483648)

/-- The frame has what the computer needs. -/
def Complete (frame : SpatialSensorFrame) : Prop :=
  frame.validity &&& SpatialNavigation.requiredMask = SpatialNavigation.requiredMask
    ∧ frame.validity &&& sensorValidActuator ≠ 0

/-- The second frame is the next one after the first. -/
def Next (first second : SpatialSensorFrame) : Prop :=
  second.sequence = first.sequence + 1
    ∧ 0 ≤ second.onboardTimeQ16.toInt - first.onboardTimeQ16.toInt
    ∧ second.onboardTimeQ16.toInt - first.onboardTimeQ16.toInt ≤ 16384

/-- The clock starts at zero. -/
def First (frame : SpatialSensorFrame) : Prop :=
  0 ≤ frame.onboardTimeQ16.toInt ∧ frame.onboardTimeQ16.toInt ≤ 16384

/-- Every input is a complete frame, and they come in order. -/
structure Trusted (is : List Input) : Prop where
  frames : ∃ frames : List SpatialSensorFrame, is.map Input.parsed = frames.map some
    ∧ (∀ frame ∈ frames, Complete frame) ∧ frames.IsChain Next ∧ ∀ frame ∈ frames.head?, First frame

/-- The command is within the limits of the actuators. -/
structure Limited (command : SpatialActuatorCommand) : Prop where
  gimbal : ∀ value ∈ command.gimbalQ16.toList, -6863 ≤ value.toInt ∧ value.toInt ≤ 6863
  rcs : ∀ value ∈ command.rcsQ15.toList, -32767 ≤ value.toInt ∧ value.toInt ≤ 32767

/-- The computer is in the abort, and commands nothing. -/
def Safed (c : SpatialFlightComputer) (i : Input) : Prop :=
  (c.after i).status.mode = .abort ∧ (c.step i).1.mode = .abort
    ∧ (c.step i).1.command = .safe (c.step i).1.sequence

/-- What is claimed of a run from a state. -/
structure FailsClosed (c : SpatialFlightComputer) (is : List Input) : Prop where
  absorbing : Meets after (fun s i ↦ s.status.abortLatched = true →
    (s.after i).status.abortLatched = true) c is
  safed : Meets after (fun s i ↦ (s.after i).status.abortLatched = true → s.Safed i) c is
  limited : Meets after (fun s i ↦ Limited (s.step i).1.command) c is
  trusted : ∀ pre post, is = pre ++ post → (run after c pre).status.abortLatched = false → Trusted pre
  tracked : ∀ pre streak post, is = pre ++ streak ++ post → streak.length = 16 →
    (run after c (pre ++ streak)).status.abortLatched = false →
      ¬Meets after Exceeds (run after c pre) streak

/-! ## One step -/

section Step

variable {c : SpatialFlightComputer} {frame : SpatialSensorFrame} {target : SpatialGuidanceTarget}
  {gains : AttitudeControllerGains} {i : Input}

theorem withChecksum_status (checksum : UInt32) :
    (c.withChecksum checksum).status.abortLatched = c.status.abortLatched
      ∧ (c.withChecksum checksum).status.mode = c.status.mode
      ∧ (c.withChecksum checksum).status.trackingBadSteps = c.status.trackingBadSteps
      ∧ (c.withChecksum checksum).navigation = c.navigation := ⟨rfl, rfl, rfl, rfl⟩

theorem makeOutput_eq (sequence : UInt32) (navigation : SpatialNavigationState)
    (command : SpatialActuatorCommand) :
    (c.makeOutput sequence navigation command).1.mode = c.status.mode
      ∧ (c.makeOutput sequence navigation command).1.sequence = sequence
      ∧ (c.makeOutput sequence navigation command).1.command = command
      ∧ ∃ checksum, (c.makeOutput sequence navigation command).2 = c.withChecksum checksum :=
  ⟨rfl, rfl, rfl, _, rfl⟩

/-- What a step puts out that commands nothing. -/
theorem safeOutput_eq (sequence : UInt32) :
    (c.safeOutput sequence).1.mode = c.status.mode
      ∧ (c.safeOutput sequence).1.command = .safe (c.safeOutput sequence).1.sequence
      ∧ (c.safeOutput sequence).2.status.abortLatched = c.status.abortLatched
      ∧ (c.safeOutput sequence).2.status.mode = c.status.mode := by
  obtain ⟨hmode, hsequence, hcommand, checksum, hstate⟩ :=
    @makeOutput_eq { c with previousCommand := .safe sequence } sequence c.navigation.state
      (.safe sequence)
  obtain ⟨habort, hkept, -⟩ :=
    @withChecksum_status { c with previousCommand := .safe sequence } checksum
  unfold safeOutput
  rw [hsequence, hstate]
  exact ⟨hmode, hcommand, habort, hkept⟩

/-- The three ends of a step: the frame is no good, or the computer is aborted, or it flies. -/
inductive Ends (c : SpatialFlightComputer) (i : Input) : Prop
  /-- The abort is latched, if it was not before. -/
  | aborted (before : SpatialFlightComputer) (sequence : UInt32)
      (hlatched : before.status.abortLatched = true)
      (hmode : before.status.mode = .abort ∨ c.status.abortLatched = true
        ∧ before.status.mode = c.status.mode)
      (hstep : c.step i = before.safeOutput sequence)
  | flew (frame : SpatialSensorFrame) (navigation : SpatialNavigationState)
      (target : SpatialGuidanceTarget) (gains : AttitudeControllerGains)
      (hframe : i.parsed = some frame) (hupdate : (c.navigation.update frame).1 = .ok navigation)
      (hsound : c.status.abortLatched = false)
      (hstep : c.step i =
        { c with navigation := (c.navigation.update frame).2 }.fly frame navigation target gains)

theorem stepWithGains_ends (hstep : c.step i = c.stepWithGains frame target gains)
    (hframe : i.parsed = some frame) : c.Ends i := by
  have hmatch : c.stepWithGains frame target gains = (match (c.navigation.update frame).1 with
    | .error _ => ({ c with navigation := (c.navigation.update frame).2 }.latchAbort
        alarmNavigation).safeOutput frame.sequence
    | .ok navigation =>
        if c.status.abortLatched then
          { c with navigation := (c.navigation.update frame).2 }.safeOutput frame.sequence
        else { c with navigation := (c.navigation.update frame).2 }.fly frame navigation target
          gains) := rfl
  rw [hmatch] at hstep
  cases hupdate : (c.navigation.update frame).1 with
  | error e =>
      rw [hupdate] at hstep
      exact .aborted _ _ rfl (.inl rfl) hstep
  | ok navigation =>
      rw [hupdate] at hstep
      dsimp only at hstep
      cases hlatched : c.status.abortLatched with
      | true =>
          rw [hlatched, if_pos rfl] at hstep
          exact .aborted { c with navigation := (c.navigation.update frame).2 } _ hlatched
            (.inr ⟨hlatched, rfl⟩) hstep
      | false =>
          rw [hlatched, if_neg Bool.false_ne_true] at hstep
          exact .flew frame navigation target gains hframe hupdate hlatched hstep

theorem step_ends (c : SpatialFlightComputer) (i : Input) : c.Ends i := by
  cases i with
  | given frame target gains => exact stepWithGains_ends rfl rfl
  | serialized bytes target gains =>
      cases hparse : parseSpatialSensorFrame bytes with
      | ok frame =>
          refine @stepWithGains_ends c frame target gains _ ?_ ?_
          · show c.stepSerializedWithGains bytes target gains = _
            unfold stepSerializedWithGains
            rw [hparse]
          · show (parseSpatialSensorFrame bytes).toOption = _
            rw [hparse]
            rfl
      | error e =>
          refine .aborted (c.latchAbort alarmSensorFrame) c.navigation.state.sequence rfl (.inl rfl) ?_
          show c.stepSerializedWithGains bytes target gains = _
          unfold stepSerializedWithGains
          rw [hparse]

/-- The monitoring of the actuator finds it lost, or counts on. -/
theorem monitorActuator_cases (c : SpatialFlightComputer) (frame : SpatialSensorFrame) :
    (c.monitorActuator frame).status.abortLatched = true
        ∧ (c.monitorActuator frame).status.mode = .abort
      ∨ frame.validity &&& sensorValidActuator ≠ 0
        ∧ (c.countTracking frame).status.trackingBadSteps < trackingLimitSteps
        ∧ c.monitorActuator frame = c.countTracking frame := by
  unfold monitorActuator
  by_cases hactuator : frame.validity &&& sensorValidActuator = 0
  · rw [if_pos hactuator]
    exact .inl ⟨rfl, rfl⟩
  · rw [if_neg hactuator]
    dsimp only
    by_cases hlost : trackingLimitSteps ≤ (c.countTracking frame).status.trackingBadSteps
    · rw [if_pos hlost]
      exact .inl ⟨rfl, rfl⟩
    · rw [if_neg hlost]
      exact .inr ⟨hactuator, UInt8.not_le.mp hlost, rfl⟩

theorem countTracking_updateMode : ((c.updateMode frame).countTracking frame).status.trackingBadSteps
      = (c.countTracking frame).status.trackingBadSteps
    ∧ ((c.updateMode frame).countTracking frame).status.abortLatched = c.status.abortLatched
    ∧ ((c.updateMode frame).countTracking frame).navigation = c.navigation := ⟨rfl, rfl, rfl⟩

/-- The end of a step that commands. -/
theorem fly_eq {m : SpatialFlightComputer} (navigation : SpatialNavigationState)
    (hmonitored : (c.updateMode frame).monitorActuator frame = m)
    (hsound : m.status.abortLatched = false) :
    ∃ action separate n checksum,
      (c.fly frame navigation target gains).1.command = { sparePropellant frame
            (attitudeCommandWithGains frame.sequence navigation target gains) with
          engineAction := action, separate := separate }
        ∧ n.status.abortLatched = m.status.abortLatched
        ∧ n.status.trackingBadSteps = m.status.trackingBadSteps ∧ n.navigation = m.navigation
        ∧ (c.fly frame navigation target gains).2 = withChecksum n checksum := by
  unfold fly
  rw [hmonitored]
  dsimp only
  rw [hsound, if_neg Bool.false_ne_true]
  generalize sparePropellant frame
    (attitudeCommandWithGains frame.sequence navigation target gains) = attitude
  refine ⟨_, _, { (m.applySequencer frame attitude).2 with
    previousCommand := (m.applySequencer frame attitude).1 }, _, rfl, ?_, rfl, rfl, rfl⟩
  exact hsound

/-- A computer that flies: it finds the actuator lost, or it commands. -/
inductive Flies (c : SpatialFlightComputer) (frame : SpatialSensorFrame)
    (navigation : SpatialNavigationState) (target : SpatialGuidanceTarget)
    (gains : AttitudeControllerGains) : Prop
  | lost (before : SpatialFlightComputer) (hlatched : before.status.abortLatched = true)
      (hmode : before.status.mode = .abort)
      (hstep : c.fly frame navigation target gains = before.safeOutput frame.sequence)
  | commanded (action : EngineAction) (separate : Bool)
      (hactuator : frame.validity &&& sensorValidActuator ≠ 0)
      (htracked : (c.countTracking frame).status.trackingBadSteps < trackingLimitSteps)
      (hsound : (c.fly frame navigation target gains).2.status.abortLatched = false)
      (hcounted : (c.fly frame navigation target gains).2.status.trackingBadSteps
        = (c.countTracking frame).status.trackingBadSteps)
      (hnavigation : (c.fly frame navigation target gains).2.navigation = c.navigation)
      (hcommand : (c.fly frame navigation target gains).1.command =
        { sparePropellant frame
            (attitudeCommandWithGains frame.sequence navigation target gains) with
          engineAction := action, separate := separate })

theorem fly_cases (c : SpatialFlightComputer) (frame : SpatialSensorFrame)
    (navigation : SpatialNavigationState) (target : SpatialGuidanceTarget)
    (gains : AttitudeControllerGains) (hsound : c.status.abortLatched = false) :
    c.Flies frame navigation target gains := by
  rcases (c.updateMode frame).monitorActuator_cases frame with ⟨hlatched, hmode⟩ | ⟨hactuator, htracked, hkept⟩
  · refine .lost ((c.updateMode frame).monitorActuator frame) hlatched hmode ?_
    unfold fly
    dsimp only
    rw [hlatched, if_pos rfl]
  · obtain ⟨hcount, hlatched, hnavigation⟩ := @countTracking_updateMode c frame
    obtain ⟨action, separate, n, checksum, hcommand, hlatched', hcount', hnavigation', hstate⟩ :=
      @fly_eq c frame target gains _ navigation hkept (hlatched.trans hsound)
    refine .commanded action separate hactuator (hcount ▸ htracked) ?_ ?_ ?_ hcommand
    · rw [hstate, (withChecksum_status checksum).1]
      exact hlatched'.trans (hlatched.trans hsound)
    · rw [hstate, (withChecksum_status checksum).2.2.1]
      exact hcount'.trans hcount
    · rw [hstate, (withChecksum_status checksum).2.2.2]
      exact hnavigation'.trans hnavigation

/-- An aborted computer is in the abort mode. -/
def Settled (c : SpatialFlightComputer) : Prop :=
  c.status.abortLatched = true → c.status.mode = .abort

/-- Either the step does nothing and leaves the abort latched, or it commands. -/
theorem step_cases (c : SpatialFlightComputer) (i : Input) (hsettled : c.Settled) :
    ((c.after i).status.abortLatched = true ∧ c.Safed i)
      ∨ ∃ frame navigation target gains, i.parsed = some frame
        ∧ (c.navigation.update frame).1 = .ok navigation ∧ c.status.abortLatched = false
        ∧ c.step i = { c with navigation := (c.navigation.update frame).2 }.fly frame navigation
          target gains
        ∧ (c.after i).status.abortLatched = false := by
  have hsafe {before : SpatialFlightComputer} {sequence : UInt32}
      (hlatched : before.status.abortLatched = true) (hmode : before.status.mode = .abort)
      (hstep : c.step i = before.safeOutput sequence) :
      (c.after i).status.abortLatched = true ∧ c.Safed i := by
    obtain ⟨hout, hcommand, hkept, hleft⟩ := @safeOutput_eq before sequence
    unfold Safed after
    rw [hstep]
    exact ⟨hkept.trans hlatched, hleft.trans hmode, hout.trans hmode, hcommand⟩
  rcases c.step_ends i with ⟨before, sequence, hlatched, hmode, hstep⟩ |
    ⟨frame, navigation, target, gains, hframe, hupdate, hsound, hstep⟩
  · refine .inl (hsafe hlatched ?_ hstep)
    rcases hmode with hmode | ⟨hbefore, hsame⟩
    · exact hmode
    · exact hsame.trans (hsettled hbefore)
  · rcases fly_cases { c with navigation := (c.navigation.update frame).2 } frame navigation target
      gains hsound with ⟨before, hlatched, hmode, hfly⟩ | ⟨_, _, _, _, hflown⟩
    · exact .inl (hsafe hlatched hmode (hstep.trans hfly))
    · refine .inr ⟨frame, navigation, target, gains, hframe, hupdate, hsound, hstep, ?_⟩
      unfold after
      rw [hstep]
      exact hflown

theorem after_settled (hsettled : c.Settled) : (c.after i).Settled := by
  intro hlatched
  rcases c.step_cases i hsettled with ⟨-, hsafed⟩ | ⟨_, _, _, _, _, _, _, _, hflown⟩
  · exact hsafed.1
  · rw [hflown] at hlatched
    cases hlatched

theorem after_latched (hsettled : c.Settled) (h : c.status.abortLatched = true) :
    (c.after i).status.abortLatched = true := by
  rcases c.step_cases i hsettled with ⟨hlatched, -⟩ | ⟨_, _, _, _, _, _, hsound, _⟩
  · exact hlatched
  · rw [h] at hsound
    cases hsound

theorem safed_of_latched (hsettled : c.Settled) (h : (c.after i).status.abortLatched = true) :
    c.Safed i := by
  rcases c.step_cases i hsettled with ⟨-, hsafed⟩ | ⟨_, _, _, _, _, _, _, _, hflown⟩
  · exact hsafed
  · rw [h] at hflown
    cases hflown

/-! ### Limits -/

theorem clampTo_bounds {limit : Int32} (hlimit : 0 ≤ limit) (value : Int32) :
    -limit.toInt ≤ (SpatialFlight.clampTo limit value).toInt
      ∧ (SpatialFlight.clampTo limit value).toInt ≤ limit.toInt := by
  have hpos : 0 ≤ limit.toInt := Int32.le_iff_toInt_le.mp hlimit
  have hlt := limit.toInt_lt
  have hneg : (-limit).toInt = -limit.toInt := by
    rw [Int32.toInt_neg]
    exact Int.bmod_eq_of_le (by omega) (by omega)
  have hmax (a b : Int32) : max a b = if a ≤ b then b else a := rfl
  have hmin (a b : Int32) : min a b = if a ≤ b then a else b := rfl
  unfold SpatialFlight.clampTo
  rw [hmax, hmin]
  split_ifs with hlow hhigh hhigh <;> rw [Int32.le_iff_toInt_le] at * <;> omega

theorem gimbalAxis_bounds (error rate : Int32) :
    -6863 ≤ (gimbalAxis gains error rate).toInt ∧ (gimbalAxis gains error rate).toInt ≤ 6863 :=
  clampTo_bounds (by decide) _

theorem rcsAxis_bounds (error rate : Int32) :
    -32767 ≤ (rcsAxis gains error rate).toInt ∧ (rcsAxis gains error rate).toInt ≤ 32767 := by
  unfold rcsAxis applyDeadband
  split_ifs
  · decide
  · exact clampTo_bounds (by decide) _
  · decide
  · exact clampTo_bounds (by decide) _

theorem forall_pair {p : Int32 → Prop} {a b : Int32} (ha : p a) (hb : p b) :
    ∀ value ∈ (Pair.of a b).toList, p value := by
  intro value hvalue
  rcases List.mem_cons.mp hvalue with h | h
  · exact h ▸ ha
  · exact List.mem_singleton.mp h ▸ hb

theorem forall_axes {p : Int32 → Prop} {x y z : Int32} (hx : p x) (hy : p y) (hz : p z) :
    ∀ value ∈ (Axes.of x y z).toList, p value := by
  intro value hvalue
  rcases List.mem_cons.mp hvalue with h | h
  · exact h ▸ hx
  · rcases List.mem_cons.mp h with h | h
    · exact h ▸ hy
    · exact List.mem_singleton.mp h ▸ hz

theorem x_mem (v : Vec3) : Axes.x v ∈ v.toList :=
  Vector.mem_toList_iff.mpr (Vector.getElem_mem Axes.x_lt)

theorem limited_attitude (sequence : UInt32) (navigation : SpatialNavigationState) :
    Limited (attitudeCommandWithGains sequence navigation target gains) where
  gimbal := forall_pair (gimbalAxis_bounds _ _) (gimbalAxis_bounds _ _)
  rcs := forall_axes (rcsAxis_bounds _ _) (rcsAxis_bounds _ _) (rcsAxis_bounds _ _)

theorem limited_spare {command : SpatialActuatorCommand} (h : Limited command) :
    Limited (sparePropellant frame command) := by
  unfold sparePropellant
  split_ifs
  · exact ⟨h.gimbal, forall_axes (h.rcs _ (x_mem _)) (by decide) (by decide)⟩
  · exact h

theorem limited_safe (sequence : UInt32) : Limited (.safe sequence) := by
  refine ⟨fun value hvalue ↦ ?_, fun value hvalue ↦ ?_⟩
  · obtain rfl : value = 0 := by
      rcases List.mem_cons.mp hvalue with h | h
      · exact h
      · exact List.mem_singleton.mp h
    decide
  · obtain rfl : value = 0 := List.eq_of_mem_replicate (show value ∈ List.replicate 3 0 from hvalue)
    decide

/-- Every command is within the limits. -/
theorem step_limited (hsettled : c.Settled) : Limited (c.step i).1.command := by
  rcases c.step_cases i hsettled with ⟨-, hsafed⟩ |
    ⟨frame, navigation, target, gains, -, -, hsound, hstep, hflown⟩
  · rw [hsafed.2.2]
    exact limited_safe _
  · rcases fly_cases { c with navigation := (c.navigation.update frame).2 } frame navigation target
      gains hsound with ⟨before, -, -, hfly⟩ | ⟨action, separate, -, -, -, -, -, hcommand⟩
    · rw [hstep, hfly, (@safeOutput_eq before frame.sequence).2.1]
      exact limited_safe _
    · rw [hstep, hcommand]
      have hlimited := @limited_spare frame _
        (@limited_attitude target gains frame.sequence navigation)
      exact ⟨hlimited.gimbal, hlimited.rcs⟩

/-! ### The number of a command -/

theorem sparePropellant_sequence (command : SpatialActuatorCommand) :
    (sparePropellant frame command).sequence = command.sequence := by
  unfold sparePropellant
  split_ifs
  · rfl
  · rfl

theorem fly_sequence (navigation : SpatialNavigationState) :
    (c.fly frame navigation target gains).1.command.sequence = frame.sequence := by
  unfold fly
  dsimp only
  cases ((c.updateMode frame).monitorActuator frame).status.abortLatched
  · rw [if_neg Bool.false_ne_true]
    exact sparePropellant_sequence _
  · rw [if_pos rfl]
    rfl

/-- Whatever it is, the command is the one for the frame. -/
theorem stepWithGains_sequence :
    (c.stepWithGains frame target gains).1.command.sequence = frame.sequence := by
  unfold stepWithGains
  dsimp only
  cases (c.navigation.update frame).1 with
  | error e => rfl
  | ok navigation =>
      dsimp only
      cases c.status.abortLatched
      · rw [if_neg Bool.false_ne_true]
        exact fly_sequence navigation
      · rw [if_pos rfl]
        rfl

end Step

end SpatialFlightComputer

end Ksa64.Flight
