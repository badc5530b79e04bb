import Ksa64.Sim.EventRuns

/-!
# What the session shows of a mission

After each release the session makes a frame for the telemetry and a point for the plot.  They show
the events of the world at the release.
-/

namespace Ksa64.Session

open Ksa64.Library Ksa64.Core Ksa64.Interface Ksa64.Flight Ksa64.Sim GlobalAvionicsMission

structure GlobalTelemetryFrame where
  step : UInt32
  missionTimeQ16 : UInt32
  frame : ReferenceFrameId
  segment : Core.GlobalSegment
  flightMode : UInt8
  events : UInt16
  truthPositionQ12 : Vec3
  truthVelocityQ24 : Vec3
  truthAttitudeQ30 : Quaternion
  truthAngularRateQ24 : Vec3
  ecefPositionQ12 : Vec3
  ecefVelocityQ24 : Vec3
  navigationPositionQ12 : Vec3
  navigationVelocityQ24 : Vec3
  navigationAttitudeQ30 : Quaternion
  altitudeQ12Km : Int32
  machQ24 : Int32
  dynamicPressureQ14Pa : Int32
  totalMassQ21Kg : Int32
  mainPropellantQ21Kg : Int32
  rcsPropellantQ21Kg : Int32
  gimbalQ15 : Vector Int16 2
  rcsPulses : Vector UInt8 12
  commandFlags : UInt8
  commandDiscrete : UInt8
  alarms : UInt16
  transitionCount : UInt8
  checksums : Vector UInt32 8
deriving DecidableEq

structure GlobalPlotPoint where
  missionTimeQ16 : UInt32
  latitudeQ28Rad : Int32
  longitudeQ28Rad : Int32
  altitudeQ12Km : Int32
  downrangeQ12Km : Int32
  crossrangeQ12Km : Int32
  speedQ24KmS : Int32
  frame : ReferenceFrameId
  segment : Core.GlobalSegment
  events : UInt16
  truthChecksum : UInt32
deriving DecidableEq

structure GlobalMissionUpdate where
  frame : GlobalTelemetryFrame
  plot : GlobalPlotPoint
  release : UInt32
deriving DecidableEq

/-! ## The update -/

/-- Where a state is, seen from the launch site. -/
def ecefToLaunchOffsetPublic (w : GlobalWorldMachine) (state : GlobalKinematicState) :
    Except GlobalWorldError GlobalPositionVec := guarded do
  let offset ← state.position.checkedSub w.launchAnchor.originEcef
  let seen ← w.launchAnchor.enuToEcef.conjugate.rotate offset
  requireClear .numeric
  return seen

/-- The speed over the ground, if it is an `i32`. -/
def groundSpeed (ecef : GlobalKinematicState) : Except GlobalWorldError Int32 := guarded do
  let speed ← ecef.velocity.magnitudeFloor
  requireClear .numeric
  if 0x7fffffff < speed then throw .numeric
  return speed.toInt32

theorem size_checksums (a b c d e f g h : UInt32) : #[a, b, c, d, e, f, g, h].size = 8 := rfl

/-- The checksums of a frame. -/
def frameChecksums (snapshot : Sim.GlobalWorldSnapshot) (flight : GlobalFlightEvidence)
    (caseSeed : UInt32) : Vector UInt32 8 :=
  ⟨#[snapshot.checksum, flight.navigation.checksum, flight.flightChecksum, flight.sensorChecksum,
    flight.command.commandChecksum, flight.status.elim 0 (·.flightChecksum),
    flight.deadlineMisses.toUInt32, caseSeed], size_checksums _ _ _ _ _ _ _ _⟩

variable {P : Type}

def missionUpdateWithCase (runner : GlobalAvionicsMission P) (snapshot : Sim.GlobalWorldSnapshot)
    (flight : GlobalFlightEvidence) (release caseSeed : UInt32) :
    Except GlobalWorldError GlobalMissionUpdate := do
  let state := snapshot.state
  let ecef ← runner.world.ecefState
  let geodetic ← ofEnvironment (ecefToGeodetic ecef.position)
  let offset ← ecefToLaunchOffsetPublic runner.world ecef
  let speed ← groundSpeed ecef
  pure {
    frame := {
      step := release
      missionTimeQ16 := state.time.raw
      frame := snapshot.frame
      segment := snapshot.segment
      flightMode := flight.mode.code
      events := snapshot.events
      truthPositionQ12 := vectorArray state.position
      truthVelocityQ24 := vectorArray state.velocity
      truthAttitudeQ30 := quaternionArray state.attitude
      truthAngularRateQ24 := vectorArray state.angularRate
      ecefPositionQ12 := vectorArray ecef.position
      ecefVelocityQ24 := vectorArray ecef.velocity
      navigationPositionQ12 := flight.navigation.positionQ12
      navigationVelocityQ24 := flight.navigation.velocityQ24
      navigationAttitudeQ30 := flight.navigation.attitudeQ30
      altitudeQ12Km := snapshot.altitudeQ12Km
      machQ24 := snapshot.machQ24
      dynamicPressureQ14Pa := snapshot.dynamicPressureQ14Pa
      totalMassQ21Kg := snapshot.totalMassQ21Kg
      mainPropellantQ21Kg := snapshot.mainPropellantQ21Kg
      rcsPropellantQ21Kg := snapshot.rcsPropellantQ21Kg
      gimbalQ15 := flight.command.gimbalQ15
      rcsPulses := flight.command.rcsPulseQuanta
      commandFlags := flight.command.flags
      commandDiscrete := flight.command.discrete
      alarms := flight.alarms
      transitionCount := snapshot.transitionCount
      checksums := frameChecksums snapshot flight caseSeed }
    plot := {
      missionTimeQ16 := state.time.raw
      latitudeQ28Rad := geodetic.latitudeQ28Rad
      longitudeQ28Rad := geodetic.longitudeQ28Rad
      altitudeQ12Km := geodetic.heightQ12Km
      downrangeQ12Km := offset.x
      crossrangeQ12Km := offset.y
      speedQ24KmS := speed
      frame := snapshot.frame
      segment := snapshot.segment
      events := snapshot.events
      truthChecksum := snapshot.checksum }
    release := release }

/-! ## The events of an interval -/

/-- Every event of the word is seen at the release to which a way has led: in the snapshot that the
way returns and in that of the world, in the aid cell and in the frame of the telemetry. -/
def Shows [GlobalFlightReleaseProcessor P] (n : GlobalAvionicsMission P)
    (last : Sim.GlobalWorldSnapshot) (events : UInt16) : Prop :=
  events &&& last.events = events ∧ ∀ bundle n', n.releaseBundle = (.ok bundle, n') →
    (∀ aid, bundle.aid = some aid → events &&& aid.events = events)
      ∧ ∀ snapshot, n'.world.snapshot = .ok snapshot → events &&& snapshot.events = events
        ∧ ∀ release caseSeed update,
          missionUpdateWithCase n' snapshot bundle.evidence release caseSeed = .ok update →
          events &&& update.frame.events = events

/-- The update shows the events of the snapshot. -/
theorem missionUpdate_events {runner : GlobalAvionicsMission P} {snapshot : Sim.GlobalWorldSnapshot}
    {flight : GlobalFlightEvidence} {release caseSeed : UInt32} {update : GlobalMissionUpdate}
    (h : missionUpdateWithCase runner snapshot flight release caseSeed = .ok update) :
    update.frame.events = snapshot.events ∧ update.plot.events = snapshot.events := by
  unfold missionUpdateWithCase at h
  obtain ⟨_, -, h⟩ := bind_eq_ok.mp h
  obtain ⟨_, -, h⟩ := bind_eq_ok.mp h
  obtain ⟨_, -, h⟩ := bind_eq_ok.mp h
  obtain ⟨_, -, h⟩ := bind_eq_ok.mp h
  cases h
  exact ⟨rfl, rfl⟩

section Flight

variable [GlobalFlightReleaseProcessor P] {p : WorldPacks} {config : GlobalFlightConfig}
  {processor : P} {faults : GlobalSensorFaults} {seed : UInt32}
  {m₀ m m' n : GlobalAvionicsMission P} {bundles : List GlobalReleaseBundle}
  {bundle : GlobalReleaseBundle} {last : Sim.GlobalWorldSnapshot} {events : UInt16}

/-- On every flight, what is raised on a quiet way from one release to the next is seen at the
next. -/
theorem flown_shows (hnew : withProcessor p config processor faults seed = .ok m₀)
    (hflown : m₀.Flown bundles m) (hrelease : m.releaseBundle = (.ok bundle, m'))
    (hquiet : m'.Quiet) (hway : m'.advanceToNextRelease = (.ok last, n))
    (hraised : m'.Raised events) : Shows n last events := by
  obtain ⟨hvehicle, hsound⟩ := GlobalWorldMachine.new_sound (withProcessor_world hnew)
  obtain ⟨hworld, htime, -⟩ := released_events hrelease
  have hreleased : m'.world.Sound p := by
    rw [hworld]
    exact hflown.sound hvehicle hsound
  obtain ⟨-, -, -, -, -, hseen⟩ := advance_comes hway
  have hcovers : ∀ word : UInt16, word = n.world.events → events &&& word = events := by
    rintro word rfl
    rcases hquiet.raised hvehicle hreleased (by rw [hworld]; exact htime) hway hraised with h | h
    · rw [h]
      exact UInt16.zero_and
    · rw [h]
      exact UInt16.and_self
  refine ⟨hcovers _ (snapshot_events hseen), fun bundle' n' hnext ↦ ?_⟩
  obtain ⟨hworld', -, aid, haid, hevents⟩ := released_events hnext
  refine ⟨fun aid' haid' ↦ ?_, fun snapshot hsnapshot ↦ ?_⟩
  · rw [haid] at haid'
    cases haid'
    exact hcovers _ hevents
  · have hsame : snapshot.events = n.world.events := by
      rw [snapshot_events hsnapshot, hworld']
    refine ⟨hcovers _ hsame, fun release caseSeed update hupdate ↦ ?_⟩
    exact hcovers _ ((missionUpdate_events hupdate).1.trans hsame)

end Flight

/-! ## The hopping vehicle -/

/-- The packs of a vehicle whose motor burns for a second. -/
def burningPacks : WorldPacks :=
  { GlobalWorldMachine.hopPacks with
    vehicle := { GlobalWorldMachine.hopPacks.vehicle with burnTimeQ16S := 65536 } }

/-- A new mission flies a flight computer. -/
theorem new_withProcessor {p : WorldPacks} {config : GlobalFlightConfig}
    {faults : GlobalSensorFaults} {seed : UInt32} {m : GlobalAvionicsMission GlobalFlightComputer}
    (hnew : new p config faults seed = .ok m) :
    ∃ processor, withProcessor p config processor faults seed = .ok m := by
  unfold new at hnew
  split at hnew
  · cases hnew
  · next flight _ => exact ⟨flight, hnew⟩

/-- A call that is known to succeed. -/
theorem ok_of_isOk {ε σ α : Type} {t : Attempt ε σ α} (h : t.1.isOk = true) :
    ∃ a, t = (.ok a, t.2) := by
  obtain ⟨_ | a, s⟩ := t
  · cases h
  · exact ⟨a, rfl⟩

/-- The burning vehicle comes off its rail at the end of its first way, and that is seen. -/
theorem burning_flown_shows : ∃ m₀ bundle m' last n,
    new burningPacks ksaG10rReferenceFlightConfig .none 0 = .ok m₀
      ∧ m₀.releaseBundle = (.ok bundle, m') ∧ m'.advanceToNextRelease = (.ok last, n)
      ∧ Shows n last 3 := by
  have hhop : ((new burningPacks ksaG10rReferenceFlightConfig .none 0).toOption.map fun m₀ ↦
      (m₀.releaseBundle.1.isOk, m₀.releaseBundle.2.heldCommand.discrete,
        m₀.releaseBundle.2.world.currentTime.raw, m₀.releaseBundle.2.world.complete,
        m₀.releaseBundle.2.advanceToNextRelease.1.isOk,
        m₀.releaseBundle.2.advanceToNextRelease.2.world.events))
      = some (true, 0, 0, false, true, 3) := by decide +kernel
  cases hnew : new burningPacks ksaG10rReferenceFlightConfig .none 0 with
  | error e => rw [hnew] at hhop; cases hhop
  | ok m₀ =>
      rw [hnew] at hhop
      simp only [Except.toOption, Option.map_some, Option.some.injEq, Prod.mk.injEq] at hhop
      obtain ⟨hreleased, horder, hstart, hopen, hcomes, hevents⟩ := hhop
      obtain ⟨bundle, hrelease⟩ := ok_of_isOk hreleased
      obtain ⟨last, hway⟩ := ok_of_isOk hcomes
      obtain ⟨processor, hflight⟩ := new_withProcessor hnew
      obtain ⟨hvehicle, hsound⟩ := GlobalWorldMachine.new_sound (withProcessor_world hflight)
      have hquiet : m₀.releaseBundle.2.Quiet := by
        refine quiet_of_burning hvehicle ?_ ?_ horder
        · rw [m₀.releaseBundle_world.1]
          exact hsound
        · rw [hstart]
          decide
      have hraised := raised_last hopen hway
      rw [hevents] at hraised
      exact ⟨m₀, bundle, _, last, _, rfl, hrelease, hway,
        flown_shows hflight .start hrelease hquiet hway hraised⟩

/-- The motor of the hopping vehicle burns out in its first step, and the next release does not see
it. -/
theorem burnout_lost : ¬∀ (p : WorldPacks) (config : GlobalFlightConfig)
    (faults : GlobalSensorFaults) (seed : UInt32) (m₀ : GlobalAvionicsMission GlobalFlightComputer),
    new p config faults seed = .ok m₀ → ∀ bundles m bundle m' last n events,
      m₀.Flown bundles m → m.releaseBundle = (.ok bundle, m') →
      m'.advanceToNextRelease = (.ok last, n) → m'.Raised events → Shows n last events := by
  intro hall
  have hhop : ((new GlobalWorldMachine.hopPacks ksaG10rReferenceFlightConfig .none 0).toOption.map
      fun m₀ ↦ (m₀.releaseBundle.1.isOk, m₀.releaseBundle.2.world.complete,
        m₀.releaseBundle.2.nextRelease.isOk, m₀.releaseBundle.2.stepWorld.2.world.events,
        m₀.releaseBundle.2.advanceToNextRelease.1.toOption.map (·.events)))
      = some (true, false, true, eventBurnout, some (eventRailClear ||| eventEcefOwner)) := by
    decide +kernel
  cases hnew : new GlobalWorldMachine.hopPacks ksaG10rReferenceFlightConfig .none 0 with
  | error e => rw [hnew] at hhop; cases hhop
  | ok m₀ =>
      rw [hnew] at hhop
      simp only [Except.toOption, Option.map_some, Option.some.injEq, Prod.mk.injEq] at hhop
      obtain ⟨hreleased, hopen, hnext, hburnout, hseen⟩ := hhop
      obtain ⟨bundle, hrelease⟩ := ok_of_isOk hreleased
      have hraised : m₀.releaseBundle.2.Raised eventBurnout := by
        cases hn : m₀.releaseBundle.2.nextRelease with
        | error e => rw [hn] at hnext; cases hnext
        | ok next =>
            exact ⟨next.1, next.2, hn, _, .refl _, due_of_next hn hopen, hburnout⟩
      cases hway : m₀.releaseBundle.2.advanceToNextRelease.1 with
      | error e => rw [hway] at hseen; cases hseen
      | ok last =>
          rw [hway] at hseen
          have hshown := (hall _ _ _ _ m₀ hnew [] m₀ bundle _ last _ _ .start hrelease
            (Prod.ext hway rfl) hraised).1
          rw [show last.events = eventRailClear ||| eventEcefOwner from Option.some.inj hseen]
            at hshown
          exact absurd hshown (by decide)

end Ksa64.Session
