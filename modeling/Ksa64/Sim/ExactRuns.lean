import Ksa64.Sim.ExactLink
import Mathlib.Data.List.Induction

/-!
# Runs over the link

As long as no stale frame is delivered, the two ends go the way they go without losses, the flight
computer by at most one step ahead.
-/

namespace Ksa64.Sim

open Ksa64.Library Ksa64.Interface Ksa64.Flight

theorem writeExact_eq_ok {frame : LinkFrame} (h : frame.Valid) :
    writeExact frame = .ok frame.encoded := by
  have hdecoded : klf6MaxDecoded ≤ (List.replicate klf6MaxDecoded (0 : UInt8)).length :=
    le_of_eq List.length_replicate.symm
  have hencoded : klf6MaxEncoded ≤ (List.replicate klf6MaxEncoded (0 : UInt8)).length :=
    le_of_eq List.length_replicate.symm
  unfold writeExact
  rw [writeLinkFrame_eq_ok h hdecoded hencoded]
  rfl

/-! ## What is sent -/

section Frames

variable {sensor : SpatialSensorFrame} {command : SpatialActuatorCommand}

/-- The link frame of a sensor frame. -/
def sensorLink (sensor : SpatialSensorFrame) : LinkFrame :=
  ExactWorldEndpoint.sensorLinkFrame sensor.sequence sensor.bytes

theorem valid_sensorLink : (sensorLink sensor).Valid where
  payload := by
    show sensor.bytes.length ≤ 512
    rw [length_bytes_sensor]
    decide
  flags := by
    show linkFlagAckRequired &&& ~~~linkFlagMask = 0
    decide

theorem receiveSensor_sensorLink :
    ExactFlightEndpoint.receiveSensor (sensorLink sensor).encoded = .ok (sensorLink sensor) := by
  unfold ExactFlightEndpoint.receiveSensor
  rw [parseLinkFrame_encoded valid_sensorLink]
  rfl

theorem sensorOf_sensorLink (h : sensor.Valid) :
    ExactFlightEndpoint.sensorOf (sensorLink sensor) = .ok sensor := by
  have hparse : parseSpatialSensorFrame (sensorLink sensor).payload = .ok sensor :=
    parseSpatialSensorFrame_bytes h
  unfold ExactFlightEndpoint.sensorOf
  rw [hparse]
  show (reject (sensor.sequence ≠ sensor.sequence) ExactLinkError.sequence >>= fun _ ↦ _) = _
  rw [reject_bind (not_not.mpr rfl)]
  rfl

/-- The answer to a sensor frame. -/
def commandLink (sensor : SpatialSensorFrame) (command : SpatialActuatorCommand) : LinkFrame :=
  ExactFlightEndpoint.responseFrame (sensorLink sensor).header command.bytes

theorem valid_commandLink : (commandLink sensor command).Valid where
  payload := by
    show command.bytes.length ≤ 512
    rw [length_bytes_actuator]
    decide
  flags := by
    show linkFlagAckRequired &&& ~~~linkFlagMask = 0
    decide

end Frames

/-! ## The world -/

namespace ExactWorldEndpoint

variable {rig : Phase5Rig} {w : ExactWorldEndpoint rig}

def sensor (w : ExactWorldEndpoint rig) : SpatialSensorFrame := (rig.sample w.sensors w.latest).1

theorem sensor_sequence : w.sensor.sequence = rig.snapshotStep w.latest :=
  rig.sample_sequence w.sensors w.latest

theorem sensor_valid : w.sensor.Valid := rig.sample_valid w.sensors w.latest

/-- The world that waits for the answer to its frame. -/
def sampled (w : ExactWorldEndpoint rig) : ExactWorldEndpoint rig where
  vehicle := w.vehicle
  sensors := (rig.sample w.sensors w.latest).2
  latest := w.latest
  pendingSequence := some w.sensor.sequence
  pendingSensor := w.sensor.bytes

/-- The world after the step. -/
def stepped (w : ExactWorldEndpoint rig) (next : rig.Machine × rig.Snapshot) :
    ExactWorldEndpoint rig where
  vehicle := next.1
  sensors := w.sampled.sensors
  latest := next.2
  pendingSequence := none
  pendingSensor := w.sampled.pendingSensor

/-- A world with a frame to sample. -/
structure Ready (w : ExactWorldEndpoint rig) : Prop where
  idle : w.pendingSequence = none
  room : w.pendingSensor.length = spatialSensorFrameLength
  number : rig.snapshotStep w.latest = rig.stepOf w.vehicle

theorem ready_new (seed : UInt32) : (new rig seed).Ready where
  idle := rfl
  room := List.length_replicate
  number := rig.new_step.2.trans rig.new_step.1.symm

theorem sampleSensor_eq (h : w.Ready) : w.sampleSensor = (.ok (), w.sampled) := by
  unfold sampleSensor
  dsimp only
  rw [writeSpatialSensorFrame_eq_ok (rig.sample_valid w.sensors w.latest) h.room]
  rfl

theorem sensorMessage_ready (h : w.Ready) :
    w.sensorMessage = (.ok (sensorLink w.sensor).encoded, w.sampled) := by
  unfold sensorMessage
  rw [if_pos h.idle, sampleSensor_eq h, Attempt.andThen_ok rfl]
  exact congrArg (·, w.sampled) (writeExact_eq_ok valid_sensorLink)

theorem sensorMessage_sampled :
    w.sampled.sensorMessage = (.ok (sensorLink w.sensor).encoded, w.sampled) := by
  have hpending : ¬w.sampled.pendingSequence = none := Option.some_ne_none _
  unfold sensorMessage
  rw [if_neg hpending, Attempt.andThen_ok rfl]
  exact congrArg (·, w.sampled) (writeExact_eq_ok valid_sensorLink)

section Command

variable {sensor : SpatialSensorFrame} {command : SpatialActuatorCommand}

theorem commandOf_commandLink (hcommand : command.sequence = sensor.sequence) :
    w.commandOf (commandLink sensor command).encoded
      = if some sensor.sequence = w.pendingSequence then .ok command else .error .sequence := by
  have hlink : (parseLinkFrame (commandLink sensor command).encoded klf6MaxDecoded).mapError
      ExactLinkError.link = .ok (commandLink sensor command) := by
    rw [parseLinkFrame_encoded valid_commandLink]
    rfl
  have hparse : (parseSpatialActuatorCommand (commandLink sensor command).payload).mapError
      (fun _ ↦ ExactLinkError.payload) = .ok command := by
    have hbytes : (commandLink sensor command).payload = command.bytes := rfl
    rw [hbytes, parseSpatialActuatorCommand_bytes]
    rfl
  unfold commandOf
  rw [bind_of_ok hlink]
  by_cases hpending : some sensor.sequence = w.pendingSequence
  · rw [if_pos hpending, reject_bind, bind_of_ok hparse, reject_bind]
    · rfl
    · exact not_not.mpr hcommand
    · rintro (htype | hsession | hsequence)
      · exact htype rfl
      · exact hsession rfl
      · exact hsequence hpending
  · rw [if_neg hpending, reject_bind_of_fails (.inr (.inr hpending))]

/-- The command for another step is no command. -/
theorem acceptCommand_other (hcommand : command.sequence = sensor.sequence)
    (hpending : some sensor.sequence ≠ w.pendingSequence) :
    w.acceptCommand (commandLink sensor command).encoded = (.error .sequence, w) := by
  unfold acceptCommand
  rw [commandOf_commandLink hcommand, if_neg hpending]

theorem acceptCommand_sampled (hcommand : command.sequence = w.sensor.sequence) :
    w.sampled.acceptCommand (commandLink w.sensor command).encoded
      = match rig.step w.vehicle (mapCommand command) with
        | .error e => (.error (.vehicle e), w.sampled)
        | .ok next => (.ok next.2, w.stepped next) := by
  have hpending : some w.sensor.sequence = w.sampled.pendingSequence := rfl
  unfold acceptCommand
  rw [commandOf_commandLink hcommand, if_pos hpending]
  rfl

end Command

end ExactWorldEndpoint

/-! ## The flight computer -/

namespace ExactFlightEndpoint

variable {f : ExactFlightEndpoint} {sensor : SpatialSensorFrame}

/-- The flight computer after the step for a frame. -/
def flown (f : ExactFlightEndpoint) (sensor : SpatialSensorFrame) : ExactFlightEndpoint where
  flight := (f.outputFor sensor).2
  cachedSequence := some sensor.sequence
  cachedCommand := (f.outputFor sensor).1.command.bytes
  lastOutput := some (f.outputFor sensor).1

/-- The flight computer that keeps a command, or none. -/
def keeping (f : ExactFlightEndpoint) (cached : Option UInt32) : ExactFlightEndpoint :=
  { f with cachedSequence := cached }

theorem flown_keeping (cached : Option UInt32) : (f.keeping cached).flown sensor = f.flown sensor :=
  rfl

theorem fly_eq (hroom : f.cachedCommand.length = spatialActuatorCommandLength) :
    f.fly sensor = (.ok (), f.flown sensor) := by
  unfold fly
  dsimp only
  rw [writeSpatialActuatorCommand_eq_ok hroom]
  rfl

/-- The answer of the flight computer to a frame. -/
def reply (f : ExactFlightEndpoint) (sensor : SpatialSensorFrame) : LinkFrame :=
  commandLink sensor (f.outputFor sensor).1.command

/-- A new frame is flown. -/
theorem acceptSensor_fresh (hvalid : sensor.Valid)
    (hroom : f.cachedCommand.length = spatialActuatorCommandLength)
    (hfresh : f.cachedSequence ≠ some sensor.sequence) :
    f.acceptSensor (sensorLink sensor).encoded = (.ok (f.reply sensor).encoded, f.flown sensor)
      ∧ f.steps (sensorLink sensor).encoded = some sensor.sequence := by
  have hsensor : f.freshSensor (sensorLink sensor) = .ok (some sensor) := by
    have hunkept : ¬f.cachedSequence = some (sensorLink sensor).header.sequence := hfresh
    unfold freshSensor
    rw [if_neg hunkept, sensorOf_sensorLink hvalid]
    rfl
  constructor
  · unfold acceptSensor renew
    rw [receiveSensor_sensorLink]
    dsimp only
    rw [hsensor]
    dsimp only
    rw [fly_eq hroom, Attempt.andThen_ok rfl]
    exact congrArg (·, f.flown sensor) (writeExact_eq_ok valid_commandLink)
  · unfold steps
    rw [receiveSensor_sensorLink, bind_of_ok rfl, hsensor]

/-- The frame whose command is kept is answered with it. -/
theorem acceptSensor_flown :
    (f.flown sensor).acceptSensor (sensorLink sensor).encoded
        = (.ok (f.reply sensor).encoded, f.flown sensor)
      ∧ (f.flown sensor).steps (sensorLink sensor).encoded = none := by
  have hsensor : (f.flown sensor).freshSensor (sensorLink sensor) = .ok none := by
    unfold freshSensor
    exact if_pos rfl
  constructor
  · unfold acceptSensor renew
    rw [receiveSensor_sensorLink]
    dsimp only
    rw [hsensor, Attempt.andThen_ok rfl]
    exact congrArg (·, f.flown sensor) (writeExact_eq_ok valid_commandLink)
  · unfold steps
    rw [receiveSensor_sensorLink, bind_of_ok rfl, hsensor]

theorem outputFor_sequence : (f.outputFor sensor).1.command.sequence = sensor.sequence :=
  SpatialFlightComputer.stepWithGains_sequence

end ExactFlightEndpoint

/-! ## Without losses -/

section Lossless

variable {rig : Phase5Rig} {seed : UInt32} {n : Nat} {w : ExactWorldEndpoint rig}
  {f : ExactFlightEndpoint} {next : rig.Machine × rig.Snapshot}

/-- The two ends after a number of rounds without losses. -/
structure Paced (seed : UInt32) (n : Nat) (w : ExactWorldEndpoint rig) (f : ExactFlightEndpoint) :
    Prop where
  reached : lossless rig seed n = .ok (w, f)
  ready : w.Ready
  number : rig.stepOf w.vehicle = UInt32.ofNat n
  bound : n ≤ 7200
  cached : f.cachedSequence = none
  room : f.cachedCommand.length = spatialActuatorCommandLength

theorem Paced.sequence (h : Paced seed n w f) : w.sensor.sequence = UInt32.ofNat n := by
  rw [ExactWorldEndpoint.sensor_sequence, h.ready.number, h.number]

theorem Paced.unique {w' : ExactWorldEndpoint rig} {f' : ExactFlightEndpoint}
    (h : Paced seed n w f) (h' : Paced seed n w' f') : w' = w ∧ f' = f := by
  have hends := Except.ok.inj (h'.reached.symm.trans h.reached)
  exact ⟨congrArg Prod.fst hends, congrArg Prod.snd hends⟩

theorem paced_start (rig : Phase5Rig) (seed : UInt32) :
    Paced seed 0 (ExactWorldEndpoint.new rig seed) .new where
  reached := rfl
  ready := ExactWorldEndpoint.ready_new seed
  number := rig.new_step.1
  bound := Nat.zero_le _
  cached := rfl
  room := List.length_replicate

/-- A round in which nothing fails. -/
theorem exchange_ok {ends : ExactWorldEndpoint rig × ExactFlightEndpoint}
    {sensor command : List UInt8} {asked done : ExactWorldEndpoint rig}
    {answered acknowledged : ExactFlightEndpoint} {snapshot : rig.Snapshot}
    (hsensor : ends.1.sensorMessage = (.ok sensor, asked))
    (hcommand : ends.2.acceptSensor sensor = (.ok command, answered))
    (hcommitted : asked.acceptCommand command = (.ok snapshot, done))
    (hacknowledged : answered.acknowledgeCommit (UInt32.ofNat n) = (.ok (), acknowledged)) :
    exchange n ends = .ok (done, acknowledged) := by
  simp only [exchange, hsensor, bind, Except.bind, hcommand, hcommitted, hacknowledged]
  rfl

theorem exchange_eq (h : Paced seed n w f)
    (hstep : rig.step w.vehicle (mapCommand (f.outputFor w.sensor).1.command) = .ok next) :
    exchange n (w, f) = .ok (w.stepped next, (f.flown w.sensor).keeping none) := by
  have hfresh : f.cachedSequence ≠ some w.sensor.sequence := by
    rw [h.cached]
    exact Option.some_ne_none _ |>.symm
  have hflown := (ExactFlightEndpoint.acceptSensor_fresh ExactWorldEndpoint.sensor_valid h.room
    hfresh).1
  have hcommitted := @ExactWorldEndpoint.acceptCommand_sampled rig w
    (f.outputFor w.sensor).1.command ExactFlightEndpoint.outputFor_sequence
  rw [hstep] at hcommitted
  have hacknowledged : (f.flown w.sensor).acknowledgeCommit (UInt32.ofNat n)
      = (.ok (), (f.flown w.sensor).keeping none) := by
    unfold ExactFlightEndpoint.acknowledgeCommit
    exact if_pos (congrArg some h.sequence)
  exact exchange_ok (ExactWorldEndpoint.sensorMessage_ready h.ready) hflown hcommitted hacknowledged

/-- The next round. -/
theorem Paced.goesOn (h : Paced seed n w f)
    (hstep : rig.step w.vehicle (mapCommand (f.outputFor w.sensor).1.command) = .ok next) :
    Paced seed (n + 1) (w.stepped next) ((f.flown w.sensor).keeping none) := by
  obtain ⟨hlt, hnext, hsnapshot⟩ := rig.step_step hstep
  have hbound := h.bound
  rw [h.number, UInt32.lt_iff_toNat_lt, UInt32.toNat_ofNat_of_lt' (by
    show n < 2 ^ 32
    omega)] at hlt
  have hmissionSteps : phase5MissionSteps.toNat = 7200 := rfl
  refine ⟨?_, ⟨rfl, length_bytes_sensor, hsnapshot⟩, ?_, ?_, rfl, length_bytes_actuator⟩
  · show lossless rig seed n >>= exchange n = _
    rw [h.reached]
    exact exchange_eq h hstep
  · show rig.stepOf next.1 = _
    rw [hnext, h.number, UInt32.ofNat_add]
    rfl
  · omega

end Lossless

/-! ## Over the link -/

theorem ofNat_inj {k n : Nat} (hk : k ≤ 7200) (hn : n ≤ 7200) :
    UInt32.ofNat k = UInt32.ofNat n ↔ k = n := by
  rw [← UInt32.toNat_inj, UInt32.toNat_ofNat_of_lt' (by show k < 2 ^ 32; omega),
    UInt32.toNat_ofNat_of_lt' (by show n < 2 ^ 32; omega)]

theorem ofNat_lt {k n : Nat} (hk : k ≤ 7200) (hn : n ≤ 7200) :
    UInt32.ofNat k < UInt32.ofNat n ↔ k < n := by
  rw [UInt32.lt_iff_toNat_lt, UInt32.toNat_ofNat_of_lt' (by show k < 2 ^ 32; omega),
    UInt32.toNat_ofNat_of_lt' (by show n < 2 ^ 32; omega)]

namespace ExactLink

section Link

variable {rig : Phase5Rig} {seed : UInt32} {m n k : Nat} {w : ExactWorldEndpoint rig}
  {f : ExactFlightEndpoint} {s : ExactLink rig} {bytes : List UInt8}

/-- The bytes are those of the sensor frame of a round. -/
def SensorBytes (rig : Phase5Rig) (seed : UInt32) (k : Nat) (bytes : List UInt8) : Prop :=
  ∃ (w : ExactWorldEndpoint rig) (f : ExactFlightEndpoint),
    Paced seed k w f ∧ bytes = (sensorLink w.sensor).encoded

def CommandBytes (rig : Phase5Rig) (seed : UInt32) (k : Nat) (bytes : List UInt8) : Prop :=
  ∃ (w : ExactWorldEndpoint rig) (f : ExactFlightEndpoint),
    Paced seed k w f ∧ bytes = (f.reply w.sensor).encoded

/-- The flight computer between two steps: it may keep the command of the last one. -/
def Rests (rig : Phase5Rig) (seed : UInt32) (n : Nat) (f g : ExactFlightEndpoint) : Prop :=
  g = f ∨ ∃ (k : Nat) (w' : ExactWorldEndpoint rig) (f' : ExactFlightEndpoint), k + 1 = n
    ∧ Paced seed k w' f' ∧ g = f'.flown w'.sensor ∧ f = g.keeping none

/-- Either both have made the same number of steps, or the flight computer is one ahead. -/
inductive Stage (seed : UInt32) (n : Nat) (w : ExactWorldEndpoint rig) (f : ExactFlightEndpoint)
    (s : ExactLink rig) : Nat → Prop
  | level (world : s.world = w ∨ s.world = w.sampled) (flight : Rests rig seed n f s.flight) :
      Stage seed n w f s n
  | ahead (world : s.world = w.sampled) (flight : s.flight = f.flown w.sensor) :
      Stage seed n w f s (n + 1)

/-- The two ends after `m` steps of the flight computer and `n` steps of the world. -/
structure Holds (seed : UInt32) (m n : Nat) (s : ExactLink rig) (w : ExactWorldEndpoint rig)
    (f : ExactFlightEndpoint) : Prop where
  paced : Paced seed n w f
  stage : Stage seed n w f s m
  sensors : ∀ bytes ∈ s.sensors, ∃ k, SensorBytes rig seed k bytes
    ∧ (k < n ∨ k = n ∧ s.world = w.sampled)
  commands : ∀ bytes ∈ s.commands, ∃ k < m, CommandBytes rig seed k bytes
  unacknowledged : ∀ sequence ∈ s.unacknowledged, ∃ k < n, sequence = UInt32.ofNat k

theorem holds_start (rig : Phase5Rig) (seed : UInt32) :
    Holds seed 0 0 (start rig seed) (.new rig seed) .new where
  paced := paced_start rig seed
  stage := .level (.inl rfl) (.inl rfl)
  sensors := List.forall_mem_nil _
  commands := List.forall_mem_nil _
  unacknowledged := List.forall_mem_nil _

theorem holds_transmit (h : Holds seed m n s w f) : Holds seed m n s.transmit w f := by
  have hmessage : s.world.sensorMessage = (.ok (sensorLink w.sensor).encoded, w.sampled) := by
    have hworld : s.world = w ∨ s.world = w.sampled := by
      rcases h.stage with ⟨hworld, -⟩ | ⟨hworld, -⟩
      · exact hworld
      · exact .inr hworld
    rcases hworld with hworld | hworld
    · rw [hworld, ExactWorldEndpoint.sensorMessage_ready h.paced.ready]
    · rw [hworld, ExactWorldEndpoint.sensorMessage_sampled]
  unfold transmit
  rw [hmessage]
  refine ⟨h.paced, ?_, ?_, h.commands, h.unacknowledged⟩
  · rcases h.stage with ⟨-, hflight⟩ | ⟨-, hflight⟩
    · exact .level (.inr rfl) hflight
    · exact .ahead rfl hflight
  · rw [List.forall_mem_append, List.forall_mem_singleton]
    refine ⟨fun bytes hbytes ↦ ?_, n, ⟨w, f, h.paced, rfl⟩, .inr ⟨rfl, rfl⟩⟩
    obtain ⟨k, hsensor, hk⟩ := h.sensors bytes hbytes
    exact ⟨k, hsensor, hk.imp_right fun hlast ↦ ⟨hlast.1, rfl⟩⟩

/-! ### A sensor frame -/

/-- The flight computer makes no step. -/
structure Answers (s : ExactLink rig) (bytes : List UInt8) (reply : List UInt8) : Prop where
  next : s.deliverSensor bytes = { s with commands := s.commands ++ [reply] }
  steps : s.flight.steps bytes = none

theorem answers_flown {g : ExactFlightEndpoint} {sensor : SpatialSensorFrame}
    (hflight : s.flight = g.flown sensor) :
    s.Answers (sensorLink sensor).encoded (g.reply sensor).encoded := by
  obtain ⟨haccept, hsteps⟩ := @ExactFlightEndpoint.acceptSensor_flown g sensor
  rw [← hflight] at haccept hsteps
  refine ⟨?_, hsteps⟩
  unfold deliverSensor
  rw [haccept]

/-- An answer that repeats a command. -/
theorem holds_answers {reply : List UInt8} (h : Holds seed m n s w f) (hanswers : s.Answers bytes reply)
    (hk : k < m) (hreply : CommandBytes rig seed k reply) :
    Holds seed m n (s.deliverSensor bytes) w f := by
  rw [hanswers.next]
  refine ⟨h.paced, ?_, h.sensors, ?_, h.unacknowledged⟩
  · rcases h.stage with ⟨hworld, hflight⟩ | ⟨hworld, hflight⟩
    · exact .level hworld hflight
    · exact .ahead hworld hflight
  · rw [List.forall_mem_append, List.forall_mem_singleton]
    exact ⟨h.commands, k, hk, hreply⟩

/-- What the flight computer at rest keeps does not matter to its next step. -/
theorem Rests.flown_eq {g : ExactFlightEndpoint} (h : Rests rig seed n f g)
    (sensor : SpatialSensorFrame) : g.flown sensor = f.flown sensor := by
  rcases h with rfl | ⟨_, _, _, _, _, _, rfl⟩
  · rfl
  · rfl

theorem Rests.reply_eq {g : ExactFlightEndpoint} (h : Rests rig seed n f g)
    (sensor : SpatialSensorFrame) : g.reply sensor = f.reply sensor := by
  rcases h with rfl | ⟨_, _, _, _, _, _, rfl⟩
  · rfl
  · rfl

/-- Nothing is kept but the command of the last step. -/
theorem Rests.cached {g : ExactFlightEndpoint} (h : Rests rig seed n f g) (hpaced : Paced seed n w f) :
    g.cachedSequence = none ∨ ∃ k, k + 1 = n ∧ g.cachedSequence = some (UInt32.ofNat k) := by
  rcases h with rfl | ⟨k, w', f', hk, hpaced', rfl, -⟩
  · exact .inl hpaced.cached
  · exact .inr ⟨k, hk, congrArg some hpaced'.sequence⟩

/-- The sensor frame of the round is flown. -/
theorem holds_flies (h : Holds seed n n s w f) (hworld : s.world = w.sampled)
    (hflight : Rests rig seed n f s.flight) :
    Holds seed (n + 1) n (s.deliverSensor (sensorLink w.sensor).encoded) w f
      ∧ s.flight.steps (sensorLink w.sensor).encoded = some (UInt32.ofNat n) := by
  have hfresh : s.flight.cachedSequence ≠ some w.sensor.sequence := by
    intro hcached
    rcases hflight.cached h.paced with hnone | ⟨k, hk, hkept⟩
    · rw [hnone] at hcached
      cases hcached
    · rw [hkept, h.paced.sequence, Option.some_inj] at hcached
      have hbound := h.paced.bound
      rw [ofNat_inj (by omega) hbound] at hcached
      omega
  have hroom : s.flight.cachedCommand.length = spatialActuatorCommandLength := by
    rcases hflight with hrest | ⟨_, _, _, _, _, hkept, -⟩
    · rw [hrest]
      exact h.paced.room
    · rw [hkept]
      exact length_bytes_actuator
  obtain ⟨haccept, hsteps⟩ :=
    ExactFlightEndpoint.acceptSensor_fresh ExactWorldEndpoint.sensor_valid hroom hfresh
  rw [hflight.flown_eq, hflight.reply_eq] at haccept
  rw [h.paced.sequence] at hsteps
  refine ⟨?_, hsteps⟩
  unfold deliverSensor
  rw [haccept]
  refine ⟨h.paced, .ahead hworld rfl, h.sensors, ?_, h.unacknowledged⟩
  rw [List.forall_mem_append, List.forall_mem_singleton]
  refine ⟨fun bytes hbytes ↦ ?_, n, Nat.lt_succ_self n, w, f, h.paced, rfl⟩
  obtain ⟨k, hk, hcommand⟩ := h.commands bytes hbytes
  exact ⟨k, Nat.lt_succ_of_lt hk, hcommand⟩

/-- The frame is flown, or answered with the command that is kept, or it is an old one whose command
is not. -/
inductive Delivers (seed : UInt32) (m n : Nat) (s : ExactLink rig) (w : ExactWorldEndpoint rig)
    (f : ExactFlightEndpoint) (bytes : List UInt8) : Prop
  | flies (hlevel : m = n) (hsteps : s.flight.steps bytes = some (UInt32.ofNat n))
      (hholds : Holds seed (m + 1) n (s.deliverSensor bytes) w f)
  | answers (hsteps : s.flight.steps bytes = none)
      (hholds : Holds seed m n (s.deliverSensor bytes) w f)
  | old (k : Nat) (w' : ExactWorldEndpoint rig) (f' : ExactFlightEndpoint) (hk : k < n)
      (hpaced : Paced seed k w' f') (hbytes : bytes = (sensorLink w'.sensor).encoded)
      (hkept : s.flight.cachedSequence ≠ some w'.sensor.sequence)

theorem level_delivers (h : Holds seed n n s w f) (hflight : Rests rig seed n f s.flight)
    {w' : ExactWorldEndpoint rig} {f' : ExactFlightEndpoint} (hpaced : Paced seed k w' f')
    (hk : k < n ∨ k = n ∧ s.world = w.sampled) :
    Delivers seed n n s w f (sensorLink w'.sensor).encoded := by
  rcases hk with hk | ⟨rfl, hsampled⟩
  · by_cases hkept : s.flight.cachedSequence = some w'.sensor.sequence
    · rcases hflight with hrest | ⟨l, w'', f'', hl, hpaced', hflown, -⟩
      · rw [hrest, h.paced.cached] at hkept
        cases hkept
      · have hcached : s.flight.cachedSequence = some w''.sensor.sequence :=
          congrArg ExactFlightEndpoint.cachedSequence hflown
        rw [hcached, Option.some_inj, hpaced'.sequence, hpaced.sequence,
          ofNat_inj hpaced'.bound hpaced.bound] at hkept
        subst hkept
        obtain ⟨hworld, -⟩ := hpaced.unique hpaced'
        have hanswers := answers_flown hflown
        rw [hworld] at hanswers
        exact .answers hanswers.steps
          (holds_answers h hanswers hk ⟨w'', f'', hpaced', congrArg _ (hworld ▸ rfl)⟩)
    · exact .old k w' f' hk hpaced rfl hkept
  · obtain ⟨hworld, -⟩ := h.paced.unique hpaced
    obtain ⟨hholds, hsteps⟩ := holds_flies h hsampled hflight
    rw [hworld]
    exact .flies rfl hsteps hholds

theorem ahead_delivers (h : Holds seed (n + 1) n s w f) (hflight : s.flight = f.flown w.sensor)
    {w' : ExactWorldEndpoint rig} {f' : ExactFlightEndpoint} (hpaced : Paced seed k w' f')
    (hk : k < n ∨ k = n) : Delivers seed (n + 1) n s w f (sensorLink w'.sensor).encoded := by
  rcases hk with hk | rfl
  · refine .old k w' f' hk hpaced rfl ?_
    have hcached : s.flight.cachedSequence = some w.sensor.sequence :=
      congrArg ExactFlightEndpoint.cachedSequence hflight
    rw [hcached, h.paced.sequence, hpaced.sequence]
    intro hsame
    rw [Option.some_inj, ofNat_inj h.paced.bound hpaced.bound] at hsame
    omega
  · obtain ⟨hworld, -⟩ := h.paced.unique hpaced
    have hanswers := answers_flown hflight
    rw [hworld]
    exact .answers hanswers.steps
      (holds_answers h hanswers (Nat.lt_succ_self k) ⟨w, f, h.paced, rfl⟩)

theorem deliverSensor_cases (h : Holds seed m n s w f) (hbytes : bytes ∈ s.sensors) :
    Delivers seed m n s w f bytes := by
  obtain ⟨k, ⟨w', f', hpaced, hsent⟩, hk⟩ := h.sensors bytes hbytes
  rw [hsent]
  rcases h.stage with ⟨-, hflight⟩ | ⟨-, hflight⟩
  · exact level_delivers h hflight hpaced hk
  · exact ahead_delivers h hflight hpaced (hk.imp_right And.left)

/-! ### A command -/

/-! ### A command -/

/-- Both ends are where they are without losses. -/
def Same (seed : UInt32) (n : Nat) (s : ExactLink rig) : Prop :=
  ∃ ends, lossless rig seed n = .ok ends ∧ s.world = ends.1 ∧ s.flight.flight = ends.2.flight
    ∧ s.flight.lastOutput = ends.2.lastOutput

/-- The world commits, or nothing changes. -/
inductive Obeys (seed : UInt32) (m n : Nat) (s : ExactLink rig) (w : ExactWorldEndpoint rig)
    (f : ExactFlightEndpoint) (bytes : List UInt8) : Prop
  | ignores (hfails : (s.world.acceptCommand bytes).1.isOk = false)
      (hholds : Holds seed m n (s.deliverCommand bytes) w f)
  | commits (hsucceeds : (s.world.acceptCommand bytes).1.isOk = true)
      (hpending : s.world.pendingSequence = some (UInt32.ofNat n))
      (w' : ExactWorldEndpoint rig) (f' : ExactFlightEndpoint)
      (hholds : Holds seed m (n + 1) (s.deliverCommand bytes) w' f')
      (hsame : Same seed (n + 1) (s.deliverCommand bytes))

/-- A command that the world refuses leaves everything as it is. -/
theorem ignores {e : ExactLinkError} (h : Holds seed m n s w f)
    (haccept : s.world.acceptCommand bytes = (.error e, s.world)) : Obeys seed m n s w f bytes := by
  have hnext : s.deliverCommand bytes = s := by
    unfold deliverCommand
    rw [haccept]
  refine .ignores ?_ ?_
  · rw [haccept]
    rfl
  · rw [hnext]
    exact h

/-- The command for another step. -/
theorem ignores_other {w' : ExactWorldEndpoint rig} {f' : ExactFlightEndpoint}
    (h : Holds seed m n s w f) (hpaced : Paced seed k w' f')
    (hother : s.world.pendingSequence ≠ some (UInt32.ofNat k)) :
    Obeys seed m n s w f (f'.reply w'.sensor).encoded := by
  refine ignores h (ExactWorldEndpoint.acceptCommand_other
    ExactFlightEndpoint.outputFor_sequence ?_)
  rw [hpaced.sequence]
  exact hother.symm

/-- The command that the world waits for. -/
theorem obeys_awaited (h : Holds seed (n + 1) n s w f) (hworld : s.world = w.sampled)
    (hflight : s.flight = f.flown w.sensor) :
    Obeys seed (n + 1) n s w f (f.reply w.sensor).encoded := by
  have haccept : s.world.acceptCommand (f.reply w.sensor).encoded
      = match rig.step w.vehicle (mapCommand (f.outputFor w.sensor).1.command) with
        | .error e => (.error (.vehicle e), w.sampled)
        | .ok next => (.ok next.2, w.stepped next) := by
    rw [hworld]
    exact ExactWorldEndpoint.acceptCommand_sampled ExactFlightEndpoint.outputFor_sequence
  cases hstep : rig.step w.vehicle (mapCommand (f.outputFor w.sensor).1.command) with
  | error e =>
      rw [hstep] at haccept
      dsimp only at haccept
      rw [← hworld] at haccept
      exact ignores h haccept
  | ok next =>
      rw [hstep] at haccept
      dsimp only at haccept
      have hpending : s.world.pendingSequence = some (UInt32.ofNat n) := by
        rw [hworld]
        exact congrArg some h.paced.sequence
      have hnext : s.deliverCommand (f.reply w.sensor).encoded = { s with
          world := w.stepped next
          unacknowledged := s.unacknowledged ++ [UInt32.ofNat n] } := by
        unfold deliverCommand
        rw [haccept, hpending]
        rfl
      have hpaced := h.paced.goesOn hstep
      refine .commits ?_ hpending (w.stepped next) ((f.flown w.sensor).keeping none) ?_ ?_
      · rw [haccept]
        rfl
      · rw [hnext]
        refine ⟨hpaced, ?_, ?_, h.commands, ?_⟩
        · refine .level (.inl rfl) (.inr ⟨n, w, f, rfl, h.paced, hflight, ?_⟩)
          show _ = s.flight.keeping none
          rw [hflight]
        · intro bytes hbytes
          obtain ⟨k, hsensor, hk⟩ := h.sensors bytes hbytes
          exact ⟨k, hsensor, .inl (by omega)⟩
        · rw [List.forall_mem_append, List.forall_mem_singleton]
          refine ⟨fun sequence hsequence ↦ ?_, n, Nat.lt_succ_self n, rfl⟩
          obtain ⟨k, hk, hnumber⟩ := h.unacknowledged sequence hsequence
          exact ⟨k, Nat.lt_succ_of_lt hk, hnumber⟩
      · rw [hnext]
        refine ⟨_, hpaced.reached, rfl, ?_, ?_⟩
        · show s.flight.flight = _
          rw [hflight]
          rfl
        · show s.flight.lastOutput = _
          rw [hflight]
          rfl

theorem deliverCommand_cases (h : Holds seed m n s w f) (hbytes : bytes ∈ s.commands) :
    Obeys seed m n s w f bytes := by
  obtain ⟨k, hk, w', f', hpaced, hsent⟩ := h.commands bytes hbytes
  rw [hsent]
  have hother (hlt : k < n) : s.world.pendingSequence ≠ some (UInt32.ofNat k) := by
    have hpending : s.world.pendingSequence = none
        ∨ s.world.pendingSequence = some (UInt32.ofNat n) := by
      have hsampled : w.sampled.pendingSequence = some (UInt32.ofNat n) :=
        congrArg some h.paced.sequence
      rcases h.stage with ⟨hworld | hworld, -⟩ | ⟨hworld, -⟩
      · exact .inl (hworld ▸ h.paced.ready.idle)
      · exact .inr (hworld ▸ hsampled)
      · exact .inr (hworld ▸ hsampled)
    rcases hpending with hnone | hsome
    · rw [hnone]
      exact (Option.some_ne_none _).symm
    · rw [hsome]
      intro hsame
      rw [Option.some_inj, ofNat_inj h.paced.bound hpaced.bound] at hsame
      omega
  rcases h.stage with ⟨-, -⟩ | ⟨hworld, hflight⟩
  · exact ignores_other h hpaced (hother hk)
  · rcases Nat.lt_succ_iff_lt_or_eq.mp hk with hlt | heq
    · exact ignores_other h hpaced (hother hlt)
    · subst heq
      obtain ⟨hw, hf⟩ := h.paced.unique hpaced
      rw [hw, hf]
      exact obeys_awaited h hworld hflight

/-! ### An acknowledgement -/

theorem acknowledgeCommit_other {g : ExactFlightEndpoint} {sequence : UInt32}
    (h : g.cachedSequence ≠ some sequence) : (g.acknowledgeCommit sequence).2 = g := by
  unfold ExactFlightEndpoint.acknowledgeCommit
  rw [if_neg h]

theorem Rests.acknowledged {g : ExactFlightEndpoint} (h : Rests rig seed n f g)
    (hpaced : Paced seed n w f) (sequence : UInt32) :
    Rests rig seed n f (g.acknowledgeCommit sequence).2 := by
  by_cases hkept : g.cachedSequence = some sequence
  · rcases h with hrest | ⟨_, _, _, _, _, _, hnone⟩
    · rw [hrest, hpaced.cached] at hkept
      cases hkept
    · refine .inl ?_
      unfold ExactFlightEndpoint.acknowledgeCommit
      rw [if_pos hkept, hnone]
      rfl
  · rw [acknowledgeCommit_other hkept]
    exact h

theorem holds_acknowledge (h : Holds seed m n s w f) : Holds seed m n s.acknowledge w f := by
  unfold acknowledge
  cases hwaiting : s.unacknowledged with
  | nil => exact h
  | cons sequence rest =>
      have hall := h.unacknowledged
      rw [hwaiting, List.forall_mem_cons] at hall
      obtain ⟨⟨k, hk, hnumber⟩, hrest⟩ := hall
      refine ⟨h.paced, ?_, h.sensors, h.commands, hrest⟩
      rcases h.stage with ⟨hworld, hflight⟩ | ⟨hworld, hflight⟩
      · exact .level hworld (hflight.acknowledged h.paced sequence)
      · refine .ahead hworld ?_
        show (s.flight.acknowledgeCommit sequence).2 = _
        rw [acknowledgeCommit_other, hflight]
        rw [hflight, hnumber]
        show some w.sensor.sequence ≠ _
        rw [h.paced.sequence]
        intro hsame
        have hbound := h.paced.bound
        rw [Option.some_inj, ofNat_inj hbound (by omega)] at hsame
        omega

/-! ### Steps -/

section Delivery

variable (s) (index : Nat)

theorem step_deliverSensor :
    s.step (.deliverSensor index) = (s.sensors[index]?).elim s s.deliverSensor := rfl

theorem step_deliverCommand :
    s.step (.deliverCommand index) = (s.commands[index]?).elim s s.deliverCommand := rfl

theorem step_transmit : s.step .transmit = s.transmit := rfl

theorem step_acknowledge : s.step .acknowledge = s.acknowledge := rfl

theorem flightStep_deliverSensor :
    s.flightStep (.deliverSensor index) = s.sensors[index]? >>= s.flight.steps := rfl

theorem worldStep_deliverCommand :
    s.worldStep (.deliverCommand index) = s.commands[index]? >>= fun bytes ↦
      if (s.world.acceptCommand bytes).1.isOk then s.world.pendingSequence else none := rfl

end Delivery

theorem Holds.vehicle (h : Holds seed m n s w f) :
    rig.stepOf s.world.vehicle = UInt32.ofNat n := by
  have hvehicle : s.world.vehicle = w.vehicle := by
    rcases h.stage with ⟨hworld | hworld, -⟩ | ⟨hworld, -⟩
    · rw [hworld]
    · rw [hworld]
      rfl
    · rw [hworld]
      rfl
  rw [hvehicle, h.paced.number]

theorem Holds.room (h : Holds seed m n s w f) :
    s.flight.cachedCommand.length = spatialActuatorCommandLength := by
  rcases h.stage with ⟨-, hrest | ⟨_, _, _, _, _, hflight, -⟩⟩ | ⟨-, hflight⟩
  · rw [hrest]
    exact h.paced.room
  · rw [hflight]
    exact length_bytes_actuator
  · rw [hflight]
    exact length_bytes_actuator

theorem Holds.together (h : Holds seed m n s w f) : n ≤ m ∧ m ≤ n + 1 := by
  rcases h.stage with ⟨-, -⟩ | ⟨-, -⟩
  · exact ⟨Nat.le_refl _, Nat.le_succ _⟩
  · exact ⟨Nat.le_succ _, Nat.le_refl _⟩

/-- Over a stale frame the flight computer makes a step again. -/
theorem stale_steps {e : LinkEvent} (h : Holds seed m n s w f) (hstale : s.Stale e) :
    ∃ k < n, s.flightStep e = some (UInt32.ofNat k) := by
  obtain ⟨index, bytes, frame, rfl, hsent, hreceived, hcommitted, hkept⟩ := hstale
  obtain ⟨k, ⟨w', f', hpaced, hbytes⟩, hk⟩ := h.sensors bytes (List.mem_of_getElem? hsent)
  rw [hbytes, receiveSensor_sensorLink] at hreceived
  obtain rfl := Except.ok.inj hreceived
  have hnumber : (sensorLink w'.sensor).header.sequence = UInt32.ofNat k := hpaced.sequence
  rw [hnumber, h.vehicle, ofNat_lt hpaced.bound h.paced.bound] at hcommitted
  refine ⟨k, hcommitted, ?_⟩
  have hsteps := (ExactFlightEndpoint.acceptSensor_fresh ExactWorldEndpoint.sensor_valid h.room
    hkept).2
  rw [flightStep_deliverSensor, hsent, ← hpaced.sequence]
  show s.flight.steps bytes = _
  rw [hbytes, hsteps]

/-- A step over a frame that is not stale. -/
inductive Moves (seed : UInt32) (m n : Nat) (s : ExactLink rig) (e : LinkEvent) : Prop
  | stays (hflight : s.flightStep e = none) (hworld : s.worldStep e = none)
      (hholds : ∃ w f, Holds seed m n (s.step e) w f)
  | flies (hflight : s.flightStep e = some (UInt32.ofNat m)) (hworld : s.worldStep e = none)
      (hholds : ∃ w f, Holds seed (m + 1) n (s.step e) w f)
  | commits (hflight : s.flightStep e = none) (hworld : s.worldStep e = some (UInt32.ofNat n))
      (hholds : ∃ w f, Holds seed m (n + 1) (s.step e) w f) (hsame : Same seed (n + 1) (s.step e))

theorem deliverSensor_moves {index : Nat} (h : Holds seed m n s w f)
    (hfresh : ¬s.Stale (.deliverSensor index)) : Moves seed m n s (.deliverSensor index) := by
  cases hsent : s.sensors[index]? with
  | none =>
      refine .stays ?_ rfl ⟨w, f, ?_⟩
      · rw [flightStep_deliverSensor, hsent]
        rfl
      · rw [step_deliverSensor, hsent]
        exact h
  | some bytes =>
      have hnext : s.step (.deliverSensor index) = s.deliverSensor bytes := by
        rw [step_deliverSensor, hsent]
        rfl
      have hflight : s.flightStep (.deliverSensor index) = s.flight.steps bytes := by
        rw [flightStep_deliverSensor, hsent]
        rfl
      rcases deliverSensor_cases h (List.mem_of_getElem? hsent) with ⟨hlevel, hsteps, hholds⟩ |
        ⟨hsteps, hholds⟩ | ⟨k, w', f', hk, hpaced, hbytes, hkept⟩
      · refine .flies ?_ rfl ⟨w, f, hnext ▸ hholds⟩
        rw [hflight, hsteps, hlevel]
      · exact .stays (hflight.trans hsteps) rfl ⟨w, f, hnext ▸ hholds⟩
      · refine absurd ⟨index, bytes, sensorLink w'.sensor, rfl, hsent, ?_, ?_, hkept⟩ hfresh
        · rw [hbytes, receiveSensor_sensorLink]
        · have hnumber : (sensorLink w'.sensor).header.sequence = UInt32.ofNat k := hpaced.sequence
          rw [hnumber, h.vehicle, ofNat_lt hpaced.bound h.paced.bound]
          exact hk

theorem deliverCommand_moves {index : Nat} (h : Holds seed m n s w f) :
    Moves seed m n s (.deliverCommand index) := by
  cases hsent : s.commands[index]? with
  | none =>
      refine .stays rfl ?_ ⟨w, f, ?_⟩
      · rw [worldStep_deliverCommand, hsent]
        rfl
      · rw [step_deliverCommand, hsent]
        exact h
  | some bytes =>
      have hnext : s.step (.deliverCommand index) = s.deliverCommand bytes := by
        rw [step_deliverCommand, hsent]
        rfl
      have hworld : s.worldStep (.deliverCommand index)
          = if (s.world.acceptCommand bytes).1.isOk then s.world.pendingSequence else none := by
        rw [worldStep_deliverCommand, hsent]
        rfl
      rcases deliverCommand_cases h (List.mem_of_getElem? hsent) with ⟨hfails, hholds⟩ |
        ⟨hsucceeds, hpending, w', f', hholds, hsame⟩
      · refine .stays rfl ?_ ⟨w, f, hnext ▸ hholds⟩
        rw [hworld, hfails, if_neg Bool.false_ne_true]
      · refine .commits rfl ?_ ⟨w', f', hnext ▸ hholds⟩ (hnext ▸ hsame)
        rw [hworld, hsucceeds, if_pos rfl, hpending]

theorem step_moves {e : LinkEvent} (h : Holds seed m n s w f) (hfresh : ¬s.Stale e) :
    Moves seed m n s e := by
  cases e with
  | transmit => exact .stays rfl rfl ⟨w, f, holds_transmit h⟩
  | deliverSensor index => exact deliverSensor_moves h hfresh
  | deliverCommand index => exact deliverCommand_moves h
  | acknowledge => exact .stays rfl rfl ⟨w, f, holds_acknowledge h⟩

end Link

/-! ### Runs -/

section Runs

variable {rig : Phase5Rig} {seed : UInt32} {es : List LinkEvent} {e : LinkEvent}

def numbers (n : Nat) : List UInt32 := (List.range n).map UInt32.ofNat

theorem length_numbers (n : Nat) : (numbers n).length = n := by
  unfold numbers
  rw [List.length_map, List.length_range]

theorem numbers_succ (n : Nat) : numbers (n + 1) = numbers n ++ [UInt32.ofNat n] := by
  unfold numbers
  rw [List.range_succ, List.map_append, List.map_singleton]

theorem inOrder_numbers (n : Nat) : InOrder (numbers n) := by
  unfold InOrder
  rw [length_numbers]
  rfl

/-- The numbers of the steps made so far. -/
def Tracks (rig : Phase5Rig) (seed : UInt32) (es : List LinkEvent) : Prop :=
  ∃ m n w f, (start rig seed).flightSteps es = numbers m ∧ (start rig seed).worldSteps es = numbers n
    ∧ Holds seed m n (run step (start rig seed) es) w f

theorem flightSteps_concat (es : List LinkEvent) (e : LinkEvent) :
    (start rig seed).flightSteps (es ++ [e]) = (start rig seed).flightSteps es
      ++ ((run step (start rig seed) es).flightStep e).toList :=
  emits_concat _ _ _

theorem worldSteps_concat (es : List LinkEvent) (e : LinkEvent) :
    (start rig seed).worldSteps (es ++ [e]) = (start rig seed).worldSteps es
      ++ ((run step (start rig seed) es).worldStep e).toList :=
  emits_concat _ _ _

theorem tracks_start (rig : Phase5Rig) (seed : UInt32) : Tracks rig seed [] :=
  ⟨0, 0, _, _, rfl, rfl, holds_start rig seed⟩

theorem tracks_concat (h : Tracks rig seed es)
    (hfresh : ¬(run step (start rig seed) es).Stale e) : Tracks rig seed (es ++ [e]) := by
  obtain ⟨m, n, w, f, hflight, hworld, hholds⟩ := h
  unfold Tracks
  rw [flightSteps_concat, worldSteps_concat, run_concat, hflight, hworld]
  rcases step_moves hholds hfresh with ⟨hf, hw, w', f', hnext⟩ | ⟨hf, hw, w', f', hnext⟩ |
    ⟨hf, hw, ⟨w', f', hnext⟩, -⟩
  · refine ⟨m, n, w', f', ?_, ?_, hnext⟩
    · rw [hf, Option.toList_none, List.append_nil]
    · rw [hw, Option.toList_none, List.append_nil]
  · refine ⟨m + 1, n, w', f', ?_, ?_, hnext⟩
    · rw [hf, Option.toList_some, numbers_succ]
    · rw [hw, Option.toList_none, List.append_nil]
  · refine ⟨m, n + 1, w', f', ?_, ?_, hnext⟩
    · rw [hf, Option.toList_none, List.append_nil]
    · rw [hw, Option.toList_some, numbers_succ]

theorem exactlyOnce_of_tracks (h : Tracks rig seed es)
    (hlast : ∀ before e, es = before ++ [e] →
      (worldStep (run step (start rig seed) before) e).isSome →
        Same seed ((start rig seed).worldSteps es).length (run step (start rig seed) es)) :
    ExactlyOnce rig seed es := by
  obtain ⟨m, n, w, f, hflight, hworld, hholds⟩ := h
  refine ⟨?_, ?_, ?_, hlast⟩
  · rw [hflight]
    exact inOrder_numbers m
  · rw [hworld]
    exact inOrder_numbers n
  · rw [hflight, hworld, length_numbers, length_numbers]
    exact hholds.together

/-- A commit over a run without stale frames. -/
theorem same_of_tracks (h : Tracks rig seed es) (hfresh : ¬(run step (start rig seed) es).Stale e)
    (hcommits : (worldStep (run step (start rig seed) es) e).isSome) :
    Same seed ((start rig seed).worldSteps (es ++ [e])).length
      (run step (start rig seed) (es ++ [e])) := by
  obtain ⟨m, n, w, f, hflight, hworld, hholds⟩ := h
  rw [worldSteps_concat, run_concat, hworld]
  rcases step_moves hholds hfresh with ⟨-, hw, -⟩ | ⟨-, hw, -⟩ | ⟨-, hw, -, hsame⟩
  · rw [hw] at hcommits
    cases hcommits
  · rw [hw] at hcommits
    cases hcommits
  · rw [hw, Option.toList_some, ← numbers_succ, length_numbers]
    exact hsame

theorem tracks_of_fresh (h : Meets step (fun s e ↦ ¬s.Stale e) (start rig seed) es) :
    Tracks rig seed es := by
  induction es using List.reverseRecOn with
  | nil => exact tracks_start rig seed
  | append_singleton es e ih =>
      obtain ⟨hbefore, hfresh, -⟩ := meets_append.mp h
      exact tracks_concat (ih hbefore) hfresh

theorem exactlyOnce_of_fresh (h : Meets step (fun s e ↦ ¬s.Stale e) (start rig seed) es) :
    ExactlyOnce rig seed es := by
  refine exactlyOnce_of_tracks (tracks_of_fresh h) ?_
  rintro before e rfl hcommits
  obtain ⟨hbefore, hfresh, -⟩ := meets_append.mp h
  exact same_of_tracks (tracks_of_fresh hbefore) hfresh hcommits

/-- A step made again is out of order. -/
theorem not_exactlyOnce_of_stale (h : Tracks rig seed es)
    (hstale : (run step (start rig seed) es).Stale e) :
    ¬ExactlyOnce rig seed (es ++ [e]) := by
  intro hexact
  obtain ⟨m, n, w, f, hflight, hworld, hholds⟩ := h
  obtain ⟨k, hk, hsteps⟩ := stale_steps hholds hstale
  have horder := hexact.flight
  rw [flightSteps_concat, hflight, hsteps, Option.toList_some] at horder
  unfold InOrder at horder
  rw [List.length_append, length_numbers, List.length_singleton] at horder
  have hnumbers : numbers m ++ [UInt32.ofNat k] = numbers m ++ [UInt32.ofNat m] :=
    horder.trans (numbers_succ m)
  have hsame := List.singleton_inj.mp (List.append_cancel_left hnumbers)
  have hbound := hholds.paced.bound
  have htogether := hholds.together
  rw [← UInt32.toNat_inj, UInt32.toNat_ofNat_of_lt' (by show k < 2 ^ 32; omega),
    UInt32.toNat_ofNat_of_lt' (by show m < 2 ^ 32; omega)] at hsame
  omega

theorem tracks_of_exactlyOnce
    (h : ∀ pre post, es = pre ++ post → ExactlyOnce rig seed pre) :
    Meets step (fun s e ↦ ¬s.Stale e) (start rig seed) es := by
  induction es using List.reverseRecOn with
  | nil => trivial
  | append_singleton es e ih =>
      have hbefore := ih fun pre post hsplit ↦
        h pre (post ++ [e]) (by rw [hsplit, List.append_assoc])
      refine meets_append.mpr ⟨hbefore, fun hstale ↦ ?_, trivial⟩
      exact not_exactlyOnce_of_stale (tracks_of_fresh hbefore) hstale
        (h (es ++ [e]) [] (List.append_nil _).symm)

/-- Both ends make every step once, and agree with the exchange without losses, as long as no stale
frame is delivered. -/
theorem exactly_once_iff (rig : Phase5Rig) (seed : UInt32) (es : List LinkEvent) :
    (∀ pre post, es = pre ++ post → ExactlyOnce rig seed pre) ↔
      Meets step (fun s e ↦ ¬s.Stale e) (start rig seed) es := by
  refine ⟨tracks_of_exactlyOnce, fun h ↦ ?_⟩
  rintro pre post rfl
  exact exactlyOnce_of_fresh (meets_append.mp h).1

/-! ### A late duplicate -/

/-- The first round, in which nothing is lost. -/
def firstRound : List LinkEvent := [.transmit, .deliverSensor 0, .deliverCommand 0, .acknowledge]

/-- A round over the link in which nothing is lost. -/
theorem run_round {w asked done : ExactWorldEndpoint rig}
    {f answered acknowledged : ExactFlightEndpoint} {snapshot : rig.Snapshot}
    {sensor command : List UInt8} {number : UInt32}
    (hsensor : w.sensorMessage = (.ok sensor, asked))
    (hcommand : f.acceptSensor sensor = (.ok command, answered))
    (hpending : asked.pendingSequence = some number)
    (hcommitted : asked.acceptCommand command = (.ok snapshot, done))
    (hacknowledged : answered.acknowledgeCommit number = (.ok (), acknowledged)) :
    run step ⟨w, f, [], [], []⟩ firstRound = ⟨done, acknowledged, [sensor], [command], []⟩ := by
  have htransmit : step ⟨w, f, [], [], []⟩ .transmit = ⟨asked, f, [sensor], [], []⟩ := by
    rw [step_transmit, transmit, hsensor]
    rfl
  have hflight : step ⟨asked, f, [sensor], [], []⟩ (.deliverSensor 0)
      = ⟨asked, answered, [sensor], [command], []⟩ := by
    show deliverSensor _ sensor = _
    unfold deliverSensor
    rw [hcommand]
    rfl
  have hworld : step ⟨asked, answered, [sensor], [command], []⟩ (.deliverCommand 0)
      = ⟨done, answered, [sensor], [command], [number]⟩ := by
    show deliverCommand _ command = _
    unfold deliverCommand
    rw [hcommitted, hpending]
    rfl
  have hacknowledge : step ⟨done, answered, [sensor], [command], [number]⟩ .acknowledge
      = ⟨done, acknowledged, [sensor], [command], []⟩ := by
    rw [step_acknowledge, acknowledge]
    dsimp only
    rw [hacknowledged]
  unfold firstRound
  rw [run_cons, run_cons, run_cons, run_cons, run_nil, htransmit, hflight, hworld, hacknowledge]

theorem run_firstRound {w : ExactWorldEndpoint rig} {f : ExactFlightEndpoint}
    {next : rig.Machine × rig.Snapshot} (hw : ExactWorldEndpoint.new rig seed = w)
    (hf : ExactFlightEndpoint.new = f)
    (hstep : rig.step w.vehicle (mapCommand (f.outputFor w.sensor).1.command) = .ok next) :
    run step (start rig seed) firstRound = ⟨w.stepped next, (f.flown w.sensor).keeping none,
      [(sensorLink w.sensor).encoded], [(f.reply w.sensor).encoded], []⟩ := by
  have hpaced : Paced seed 0 w f := by
    rw [← hw, ← hf]
    exact paced_start rig seed
  have hfresh : f.cachedSequence ≠ some w.sensor.sequence := by
    rw [hpaced.cached]
    exact (Option.some_ne_none _).symm
  have hflown := (ExactFlightEndpoint.acceptSensor_fresh ExactWorldEndpoint.sensor_valid hpaced.room
    hfresh).1
  have hcommitted := @ExactWorldEndpoint.acceptCommand_sampled rig w _
    (@ExactFlightEndpoint.outputFor_sequence f w.sensor)
  rw [hstep] at hcommitted
  have hacknowledged : (f.flown w.sensor).acknowledgeCommit w.sensor.sequence
      = (.ok (), (f.flown w.sensor).keeping none) := if_pos rfl
  unfold start
  rw [hw, hf]
  exact run_round (ExactWorldEndpoint.sensorMessage_ready hpaced.ready) hflown rfl hcommitted
    hacknowledged

/-- The frame of the round, when the round is over. -/
theorem stale_firstRound {next : rig.Machine × rig.Snapshot}
    (hstep : rig.step (ExactWorldEndpoint.new rig seed).vehicle (mapCommand
      (ExactFlightEndpoint.new.outputFor (ExactWorldEndpoint.new rig seed).sensor).1.command)
      = .ok next) : (run step (start rig seed) firstRound).Stale (.deliverSensor 0) := by
  have hpaced := paced_start rig seed
  generalize hf : ExactFlightEndpoint.new = f at hstep hpaced
  generalize hw : ExactWorldEndpoint.new rig seed = w at hstep hpaced
  rw [run_firstRound hw hf hstep]
  refine ⟨0, _, _, rfl, rfl, receiveSensor_sensorLink, ?_, ?_⟩
  · have hnumber := (hpaced.goesOn hstep).number
    show w.sensor.sequence < rig.stepOf (w.stepped next).vehicle
    rw [hpaced.sequence, hnumber]
    decide
  · exact (Option.some_ne_none _).symm

/-- No frame is stale in the first round. -/
theorem fresh_firstRound (rig : Phase5Rig) (seed : UInt32) :
    Meets step (fun s e ↦ ¬s.Stale e) (start rig seed) firstRound := by
  have hnone {s : ExactLink rig} {e : LinkEvent} (h : ∀ index, e ≠ .deliverSensor index) :
      ¬s.Stale e := by
    rintro ⟨index, _, _, rfl, -⟩
    exact h index rfl
  refine ⟨hnone ?_, ?_, hnone ?_, hnone ?_, trivial⟩
  · intro index h
    cases h
  · rintro ⟨_, _, _, -, -, -, hlt, -⟩
    rw [step_transmit, (holds_transmit (holds_start rig seed)).vehicle] at hlt
    exact UInt32.not_lt_zero hlt
  · intro index h
    cases h
  · intro index h
    cases h

/-- Whenever the vehicle makes its first step, a late duplicate makes the flight computer repeat its
own. -/
theorem not_exactlyOnce_late {next : rig.Machine × rig.Snapshot}
    (hstep : rig.step (ExactWorldEndpoint.new rig seed).vehicle (mapCommand
      (ExactFlightEndpoint.new.outputFor (ExactWorldEndpoint.new rig seed).sensor).1.command)
      = .ok next) : ¬ExactlyOnce rig seed (firstRound ++ [.deliverSensor 0]) :=
  not_exactlyOnce_of_stale (tracks_of_fresh (fresh_firstRound rig seed)) (stale_firstRound hstep)

/-- What the sensors of a vehicle on the pad measure. -/
def benchFrame (step : UInt32) : SpatialSensorFrame where
  sequence := step
  onboardTimeQ16 := step.toInt32 * 8192
  validity := sensorValidImu ||| sensorValidClock ||| sensorValidActuator
  events := 0
  accelBodyQ28 := Axes.all 0
  gyroBodyQ24 := Axes.all 0
  baroAltitudeQ12 := 0
  gpsPositionQ12 := Axes.all 0
  gpsVelocityQ24 := Axes.all 0
  starAttitudeQ30 := SpatialNavigation.initialAttitude
  gimbalAppliedQ16 := Pair.of 0 0
  rcsPropellantQ12 := 410
  activeStage := 0
  stagePhase := .burning
  engineOn := true

theorem benchFrame_valid (step : UInt32) : (benchFrame step).Valid := by
  have hvalidity : (sensorValidImu ||| sensorValidClock ||| sensorValidActuator)
      &&& ~~~sensorValidMask = 0 := by decide
  have hevents : 0 &&& ~~~eventMask = 0 := by decide
  exact ⟨hvalidity, hevents⟩

def benchStep (machine : UInt32) (_ : Phase5VehicleCommand) :
    Except Phase5VehicleError (UInt32 × UInt32) :=
  if machine < phase5MissionSteps then .ok (machine + 1, machine + 1) else .error .complete

theorem benchStep_ok {machine : UInt32} {command : Phase5VehicleCommand} {next : UInt32 × UInt32}
    (h : benchStep machine command = .ok next) :
    machine < phase5MissionSteps ∧ next.1 = machine + 1 ∧ next.2 = next.1 := by
  unfold benchStep at h
  split_ifs at h with hlt
  obtain rfl := Except.ok.inj h
  exact ⟨hlt, rfl, rfl⟩

/-- A vehicle that stays where it is, and counts its steps. -/
def benchRig : Phase5Rig where
  Machine := UInt32
  Snapshot := UInt32
  Suite := Unit
  newKsa5a := (0, 0)
  suite _ := ()
  stepOf := id
  snapshotStep := id
  step := benchStep
  sample _ snapshot := (benchFrame snapshot, ())
  new_step := ⟨rfl, rfl⟩
  step_step := benchStep_ok
  sample_sequence _ _ := rfl
  sample_valid _ := benchFrame_valid

theorem benchStep_first (command : Phase5VehicleCommand) : benchStep 0 command = .ok (1, 1) := by
  unfold benchStep
  rw [if_pos (by decide)]
  rfl

theorem benchRig_first (command : Phase5VehicleCommand) :
    ∃ next, benchRig.step (ExactWorldEndpoint.new benchRig 0).vehicle command = .ok next :=
  ⟨_, benchStep_first command⟩

theorem late_duplicate_repeats :
    ¬ExactlyOnce benchRig 0 (firstRound ++ [.deliverSensor 0]) := by
  obtain ⟨next, hstep⟩ := benchRig_first _
  exact not_exactlyOnce_late hstep

end Runs

end ExactLink

end Ksa64.Sim
