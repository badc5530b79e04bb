import Ksa64.Flight.ReferenceGuidance
import Ksa64.Interface.Link
import Ksa64.Interface.SpatialCodec
import Ksa64.Library.Run

/-!
# The exact paced endpoints

The world and the flight computer on the two ends of a link that may lose, repeat, delay and reorder
what they send.  The world repeats its sensor frame until it has the command for it; the flight
computer keeps its last command until the world has acknowledged it.
-/

namespace Ksa64.Sim

open Ksa64.Library Ksa64.Interface Ksa64.Flight

inductive Phase5VehicleError where
  | configuration
  | numericFault
  | complete
deriving DecidableEq, Repr

structure Phase5VehicleCommand where
  gimbalPitch : Int32
  gimbalYaw : Int32
  rcsQ15 : Vec3
  engineAction : EngineAction
  separate : Bool
  abortSafeing : Bool
deriving DecidableEq

def phase5MissionSteps : UInt32 := 7200

/-- The vehicle and its sensors, of which the link knows the number of the step alone.  A step that
fails leaves the vehicle as it was. -/
structure Phase5Rig where
  Machine : Type
  Snapshot : Type
  Suite : Type
  newKsa5a : Machine × Snapshot
  suite : UInt32 → Suite
  stepOf : Machine → UInt32
  snapshotStep : Snapshot → UInt32
  step : Machine → Phase5VehicleCommand → Except Phase5VehicleError (Machine × Snapshot)
  sample : Suite → Snapshot → SpatialSensorFrame × Suite
  new_step : stepOf newKsa5a.1 = 0 ∧ snapshotStep newKsa5a.2 = 0
  step_step : ∀ {machine command next snapshot}, step machine command = .ok (next, snapshot) →
    stepOf machine < phase5MissionSteps ∧ stepOf next = stepOf machine + 1
      ∧ snapshotStep snapshot = stepOf next
  sample_sequence : ∀ suite snapshot, (sample suite snapshot).1.sequence = snapshotStep snapshot
  sample_valid : ∀ suite snapshot, (sample suite snapshot).1.Valid

def phase6SessionId : UInt32 := 0x4b534136
def klf6None : UInt32 := 4294967295
def linkFlagAckRequired : UInt16 := 1

inductive ExactLinkError where
  | vehicle (error : Phase5VehicleError)
  | link (error : LinkCodecError)
  | payload
  | sequence
deriving DecidableEq

def writeExact (frame : LinkFrame) : Except ExactLinkError (List UInt8) :=
  (writeLinkFrame frame (.replicate klf6MaxDecoded 0) (.replicate klf6MaxEncoded 0)).mapError .link

/-! ## The world -/

structure ExactWorldEndpoint (rig : Phase5Rig) where
  vehicle : rig.Machine
  sensors : rig.Suite
  latest : rig.Snapshot
  pendingSequence : Option UInt32
  pendingSensor : List UInt8

def mapCommand (c : SpatialActuatorCommand) : Phase5VehicleCommand where
  gimbalPitch := Pair.first c.gimbalQ16
  gimbalYaw := Pair.second c.gimbalQ16
  rcsQ15 := c.rcsQ15
  engineAction := c.engineAction
  separate := c.separate
  abortSafeing := c.abortSafeing

namespace ExactWorldEndpoint

variable {rig : Phase5Rig}

def new (rig : Phase5Rig) (seed : UInt32) : ExactWorldEndpoint rig where
  vehicle := rig.newKsa5a.1
  sensors := rig.suite seed
  latest := rig.newKsa5a.2
  pendingSequence := none
  pendingSensor := .replicate spatialSensorFrameLength 0

def sampleSensor (w : ExactWorldEndpoint rig) :
    Attempt ExactLinkError (ExactWorldEndpoint rig) Unit :=
  let sampled := rig.sample w.sensors w.latest
  let w := { w with sensors := sampled.2 }
  match writeSpatialSensorFrame sampled.1 w.pendingSensor with
  | .error _ => (.error .payload, w)
  | .ok bytes => (.ok (), { w with
      pendingSensor := bytes
      pendingSequence := some sampled.1.sequence })

def sensorLinkFrame (sequence : UInt32) (payload : List UInt8) : LinkFrame where
  header := {
    recordType := .canonicalSensor
    flags := linkFlagAckRequired
    sessionId := phase6SessionId
    sequence := sequence
    acknowledgement := klf6None
    measurementEpoch := sequence
    productionEpoch := sequence
    effectiveEpoch := sequence }
  payload := payload

/-- The sensors are sampled when the last frame has been answered, and not before. -/
def sensorMessage (w : ExactWorldEndpoint rig) :
    Attempt ExactLinkError (ExactWorldEndpoint rig) (List UInt8) :=
  (if w.pendingSequence = none then w.sampleSensor else (.ok (), w)).andThen fun _ w ↦
    (writeExact (sensorLinkFrame (w.pendingSequence.getD 0) w.pendingSensor), w)

/-- The command that the world waits for. -/
def commandOf (w : ExactWorldEndpoint rig) (input : List UInt8) :
    Except ExactLinkError SpatialActuatorCommand := do
  let frame ← (parseLinkFrame input klf6MaxDecoded).mapError ExactLinkError.link
  reject (frame.header.recordType ≠ .canonicalCommand ∨ frame.header.sessionId ≠ phase6SessionId
    ∨ some frame.header.sequence ≠ w.pendingSequence) .sequence
  let command ← (parseSpatialActuatorCommand frame.payload).mapError fun _ ↦ ExactLinkError.payload
  reject (command.sequence ≠ frame.header.sequence) .sequence
  pure command

def acceptCommand (w : ExactWorldEndpoint rig) (input : List UInt8) :
    Attempt ExactLinkError (ExactWorldEndpoint rig) rig.Snapshot :=
  match w.commandOf input with
  | .error e => (.error e, w)
  | .ok command =>
      match rig.step w.vehicle (mapCommand command) with
      | .error e => (.error (.vehicle e), w)
      | .ok stepped => (.ok stepped.2, { w with
          vehicle := stepped.1
          latest := stepped.2
          pendingSequence := none })

end ExactWorldEndpoint

/-! ## The flight computer -/

structure ExactFlightEndpoint where
  flight : SpatialFlightComputer
  cachedSequence : Option UInt32
  cachedCommand : List UInt8
  lastOutput : Option SpatialFlightOutput
deriving DecidableEq

namespace ExactFlightEndpoint

def new : ExactFlightEndpoint where
  flight := .new
  cachedSequence := none
  cachedCommand := .replicate spatialActuatorCommandLength 0
  lastOutput := none

def gainsFor (sensor : SpatialSensorFrame) : AttitudeControllerGains :=
  if sensor.activeStage = 0 then .referenceStage1 else .referenceStage2

/-- The step of the flight computer for a frame. -/
def outputFor (f : ExactFlightEndpoint) (sensor : SpatialSensorFrame) :
    SpatialFlightOutput × SpatialFlightComputer :=
  f.flight.stepWithGains sensor (referenceGuidanceTarget sensor.sequence) (gainsFor sensor)

def fly (f : ExactFlightEndpoint) (sensor : SpatialSensorFrame) :
    Attempt ExactLinkError ExactFlightEndpoint Unit :=
  let output := f.outputFor sensor
  let f := { f with flight := output.2 }
  match writeSpatialActuatorCommand output.1.command f.cachedCommand with
  | .error _ => (.error .payload, f)
  | .ok bytes => (.ok (), { f with
      cachedCommand := bytes
      cachedSequence := some sensor.sequence
      lastOutput := some output.1 })

/-- The link frame of a sensor frame. -/
def receiveSensor (input : List UInt8) : Except ExactLinkError LinkFrame := do
  let frame ← (parseLinkFrame input klf6MaxDecoded).mapError ExactLinkError.link
  reject (frame.header.recordType ≠ .canonicalSensor
    ∨ frame.header.sessionId ≠ phase6SessionId) .sequence
  pure frame

def sensorOf (frame : LinkFrame) : Except ExactLinkError SpatialSensorFrame := do
  let sensor ← (parseSpatialSensorFrame frame.payload).mapError fun _ ↦ ExactLinkError.payload
  reject (sensor.sequence ≠ frame.header.sequence) .sequence
  pure sensor

/-- The sensor frame that the flight computer is stepped with; it is not stepped for the frame
whose command it keeps. -/
def freshSensor (f : ExactFlightEndpoint) (frame : LinkFrame) :
    Except ExactLinkError (Option SpatialSensorFrame) :=
  if f.cachedSequence = some frame.header.sequence then .ok none
  else (sensorOf frame).map some

def renew (f : ExactFlightEndpoint) (frame : LinkFrame) :
    Attempt ExactLinkError ExactFlightEndpoint Unit :=
  match f.freshSensor frame with
  | .error e => (.error e, f)
  | .ok none => (.ok (), f)
  | .ok (some sensor) => f.fly sensor

/-- The answer to a frame. -/
def responseFrame (request : LinkHeader) (command : List UInt8) : LinkFrame where
  header := {
    recordType := .canonicalCommand
    flags := linkFlagAckRequired
    sessionId := phase6SessionId
    sequence := request.sequence
    acknowledgement := request.sequence
    measurementEpoch := request.measurementEpoch
    productionEpoch := request.productionEpoch
    effectiveEpoch := request.effectiveEpoch }
  payload := command

def acceptSensor (f : ExactFlightEndpoint) (input : List UInt8) :
    Attempt ExactLinkError ExactFlightEndpoint (List UInt8) :=
  match receiveSensor input with
  | .error e => (.error e, f)
  | .ok frame => (f.renew frame).andThen fun _ f ↦
      (writeExact (responseFrame frame.header f.cachedCommand), f)

/-- The sequence of the step that the flight computer makes for some bytes. -/
def steps (f : ExactFlightEndpoint) (input : List UInt8) : Option UInt32 :=
  match receiveSensor input >>= f.freshSensor with
  | .ok (some sensor) => some sensor.sequence
  | _ => none

def acknowledgeCommit (f : ExactFlightEndpoint) (sequence : UInt32) :
    Attempt ExactLinkError ExactFlightEndpoint Unit :=
  if f.cachedSequence = some sequence then (.ok (), { f with cachedSequence := none })
  else (.error .sequence, f)

end ExactFlightEndpoint

/-! ## Without losses -/

section Lossless

variable {rig : Phase5Rig}

/-- One round of the nominal run. -/
def exchange (number : Nat) (ends : ExactWorldEndpoint rig × ExactFlightEndpoint) :
    Except ExactLinkError (ExactWorldEndpoint rig × ExactFlightEndpoint) := do
  let (sensor, world) := ends.1.sensorMessage
  let (command, flight) := ends.2.acceptSensor (← sensor)
  let (committed, world) := world.acceptCommand (← command)
  let _ ← committed
  let (acknowledged, flight) := flight.acknowledgeCommit (UInt32.ofNat number)
  let _ ← acknowledged
  pure (world, flight)

def lossless (rig : Phase5Rig) (seed : UInt32) :
    Nat → Except ExactLinkError (ExactWorldEndpoint rig × ExactFlightEndpoint)
  | 0 => .ok (.new rig seed, .new)
  | number + 1 => lossless rig seed number >>= exchange number

end Lossless

/-! ## Over the link -/

/-- The two ends, with all that either has sent, and the commits that the world has not
acknowledged yet. -/
structure ExactLink (rig : Phase5Rig) where
  world : ExactWorldEndpoint rig
  flight : ExactFlightEndpoint
  sensors : List (List UInt8)
  commands : List (List UInt8)
  unacknowledged : List UInt32

/-- A frame that is never delivered is lost; one may be delivered at any time and any number of
times. -/
inductive LinkEvent where
  | transmit
  | deliverSensor (index : Nat)
  | deliverCommand (index : Nat)
  | acknowledge
deriving DecidableEq

namespace ExactLink

variable {rig : Phase5Rig}

def start (rig : Phase5Rig) (seed : UInt32) : ExactLink rig := ⟨.new rig seed, .new, [], [], []⟩

def transmit (s : ExactLink rig) : ExactLink rig :=
  match s.world.sensorMessage with
  | (.ok bytes, world) => { s with world := world, sensors := s.sensors ++ [bytes] }
  | (.error _, world) => { s with world := world }

def deliverSensor (s : ExactLink rig) (bytes : List UInt8) : ExactLink rig :=
  match s.flight.acceptSensor bytes with
  | (.ok reply, flight) => { s with flight := flight, commands := s.commands ++ [reply] }
  | (.error _, flight) => { s with flight := flight }

def deliverCommand (s : ExactLink rig) (bytes : List UInt8) : ExactLink rig :=
  match s.world.acceptCommand bytes with
  | (.ok _, world) => { s with
      world := world
      unacknowledged := s.unacknowledged ++ s.world.pendingSequence.toList }
  | (.error _, world) => { s with world := world }

def acknowledge (s : ExactLink rig) : ExactLink rig :=
  match s.unacknowledged with
  | [] => s
  | sequence :: rest => { s with
      flight := (s.flight.acknowledgeCommit sequence).2
      unacknowledged := rest }

def step (s : ExactLink rig) : LinkEvent → ExactLink rig
  | .transmit => s.transmit
  | .deliverSensor index => (s.sensors[index]?).elim s s.deliverSensor
  | .deliverCommand index => (s.commands[index]?).elim s s.deliverCommand
  | .acknowledge => s.acknowledge

/-- The sequence of the step that the flight computer makes. -/
def flightStep (s : ExactLink rig) : LinkEvent → Option UInt32
  | .deliverSensor index => s.sensors[index]? >>= s.flight.steps
  | _ => none

/-- The sequence of the step that the world commits. -/
def worldStep (s : ExactLink rig) : LinkEvent → Option UInt32
  | .deliverCommand index => s.commands[index]? >>= fun bytes ↦
      if (s.world.acceptCommand bytes).1.isOk then s.world.pendingSequence else none
  | _ => none

def flightSteps (s : ExactLink rig) (es : List LinkEvent) : List UInt32 := emits step flightStep s es

def worldSteps (s : ExactLink rig) (es : List LinkEvent) : List UInt32 := emits step worldStep s es

/-- The first numbers, each of them once. -/
def InOrder (numbers : List UInt32) : Prop :=
  numbers = (List.range numbers.length).map UInt32.ofNat

/-- What is claimed of a run: each step is made once, and in order, and after a commit both are
where they are without losses. -/
structure ExactlyOnce (rig : Phase5Rig) (seed : UInt32) (es : List LinkEvent) : Prop where
  flight : InOrder ((start rig seed).flightSteps es)
  world : InOrder ((start rig seed).worldSteps es)
  together : ((start rig seed).worldSteps es).length ≤ ((start rig seed).flightSteps es).length
    ∧ ((start rig seed).flightSteps es).length ≤ ((start rig seed).worldSteps es).length + 1
  same : ∀ before e, es = before ++ [e] →
    (worldStep (run step (start rig seed) before) e).isSome →
      ∃ ends, lossless rig seed ((start rig seed).worldSteps es).length = .ok ends
        ∧ (run step (start rig seed) es).world = ends.1
        ∧ (run step (start rig seed) es).flight.flight = ends.2.flight
        ∧ (run step (start rig seed) es).flight.lastOutput = ends.2.lastOutput

/-- The frame delivered is one whose step the world has committed, and whose command the flight
computer no longer keeps. -/
def Stale (s : ExactLink rig) (e : LinkEvent) : Prop :=
  ∃ index bytes frame, e = .deliverSensor index ∧ s.sensors[index]? = some bytes
    ∧ ExactFlightEndpoint.receiveSensor bytes = .ok frame
    ∧ frame.header.sequence < rig.stepOf s.world.vehicle
    ∧ s.flight.cachedSequence ≠ some frame.header.sequence

end ExactLink

end Ksa64.Sim
