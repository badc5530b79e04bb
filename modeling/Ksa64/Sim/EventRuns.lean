import Ksa64.Sim.AvionicsCalls

/-!
# The events between two releases

A step clears the events of the step before.  So a release sees those of the last step of its way,
and an event of an earlier step is lost.
-/

namespace Ksa64.Sim

open Ksa64.Library Ksa64.Core Ksa64.Interface Ksa64.Flight

namespace GlobalWorldMachine

/-! ## Steps without events -/

/-- No event is due in a step: the motor does not burn out, the vehicle does not pass its apogee,
and no parachute is ordered that is not out. -/
structure Silent (w : GlobalWorldMachine) (command : GlobalCommandCell) : Prop where
  burnout : w.mainPropellantQ21 = 0 ∨ w.vehicle.burnTimeQ16S ≤ w.currentTime.raw
    ∨ w.currentTime.raw.toNat + (w.moveLength (w.callLength (some command))).toNat
        < w.vehicle.burnTimeQ16S.toNat
  apogee : ∀ readings, (w.moved (some command)).2.eventReadings = .ok readings →
    w.apogeeQ12 < readings.altitude ∨ w.descending = true
      ∨ (w.moved (some command)).2.currentTime.raw ≤ w.vehicle.burnTimeQ16S
      ∨ 0 ≤ readings.verticalVelocityQ24
  drogue : command.discrete &&& globalCommandDrogue ≠ 0 → w.drogue = true
  main : w.drogue = true → command.discrete &&& globalCommandMain ≠ 0 → w.main = true

section Motor

variable {w : GlobalWorldMachine} {dt : UInt32}

/-- The motor does not burn out in a step that it burns through, or at whose start it does not
burn. -/
theorem consumeMainPropellant_events {start : Nat}
    (htime : w.currentTime.raw.toNat = start + dt.toNat)
    (h : w.mainPropellantQ21 = 0 ∨ w.vehicle.burnTimeQ16S.toNat ≤ start
      ∨ start + dt.toNat < w.vehicle.burnTimeQ16S.toNat) :
    (w.consumeMainPropellant dt).2.events = w.events := by
  have hprevious : (w.currentTime.raw - min w.currentTime.raw dt).toNat = start := by
    have hmin : (min w.currentTime.raw dt).toNat = dt.toNat := by
      rw [toNat_min32]
      omega
    rw [UInt32.toNat_sub_of_le, hmin]
    · omega
    · rw [UInt32.le_iff_toNat_le, hmin]
      omega
  unfold consumeMainPropellant
  dsimp only
  split_ifs with hover hout
  · rfl
  · rw [UInt32.le_iff_toNat_le] at hover hout
    rcases h with hempty | hburnt | hburning
    · exact absurd (.inr hempty) hover
    · exact absurd (.inl (by omega)) hover
    · omega
  · rfl

/-- Nor in a move. -/
theorem moveVehicle_events {controlled : Bool}
    (h : w.mainPropellantQ21 = 0 ∨ w.vehicle.burnTimeQ16S ≤ w.currentTime.raw
      ∨ w.currentTime.raw.toNat + (w.moveLength dt).toNat < w.vehicle.burnTimeQ16S.toNat) :
    (w.moveVehicle dt controlled).2.events = w.events := by
  have hburn : ∀ (u : GlobalWorldMachine) (length : UInt32) (mach dynamic : Int32),
      u.vehicle = w.vehicle → u.mainPropellantQ21 = w.mainPropellantQ21 → u.events = w.events →
      w.moveLength dt = length →
      u.currentTime.raw.toNat = w.currentTime.raw.toNat + length.toNat →
      ((u.consumeMainPropellant length).andThen fun _ v ↦
        ((.ok (), { v with machQ24 := mach, dynamicPressureQ14 := dynamic }) :
          Attempt GlobalWorldError GlobalWorldMachine Unit)).2.events = w.events := by
    intro u length mach dynamic hvehicle hpropellant hevents hlength htime
    have hkept : (u.consumeMainPropellant length).2.events = w.events := by
      rw [← hevents]
      refine consumeMainPropellant_events htime ?_
      rw [hpropellant, hvehicle, ← hlength]
      exact h.imp_right (Or.imp_left UInt32.le_iff_toNat_le.mp)
    exact Attempt.andThen_keeps (P := fun v : GlobalWorldMachine ↦ v.events = w.events) hkept
      fun _ _ hv ↦ hv
  have hlocal : ∀ {state : LocalKinematicState}, w.coordinates = .localState state →
      w.currentTime = state.time := fun hstate ↦ by
    unfold currentTime
    rw [hstate]
  unfold moveVehicle
  cases hsegment : w.segment with
  | localLaunch =>
      dsimp only
      unfold stepLocalLaunch
      split
      · rfl
      · next state hstate =>
        split
        · rfl
        · next move hmove =>
          refine hburn _ _ _ _ rfl rfl rfl ?_ ?_
          · unfold moveLength
            rw [hsegment]
          · rw [hlocal hstate]
            exact launchMove_time hmove
  | localRecovery =>
      dsimp only
      unfold stepLocalRecovery
      split
      · rfl
      · split <;> rfl
  | ecefAscent | eciCoast | ecefEntry =>
      dsimp only
      unfold stepGlobal
      split
      · rfl
      · next state hstate =>
        split
        · rfl
        · dsimp only
          split
          split
          · rfl
          · next next hnext =>
            refine hburn _ _ _ _ rfl rfl rfl ?_ ?_
            · unfold moveLength
              rw [hsegment]
            · have htime : w.currentTime = state.time := by
                unfold currentTime
                rw [hstate]
              rw [htime]
              exact globalSuccessor_time hnext

end Motor

section Step

variable {p : WorldPacks} {w u : GlobalWorldMachine} {command : GlobalCommandCell}

/-- `u` is `w` but for what the jets have left and do. -/
def ChargedFrom (w u : GlobalWorldMachine) : Prop :=
  u = { w with rcsPropellantQ21 := u.rcsPropellantQ21, actuators := u.actuators }

/-- The readings of the events look at where the vehicle is, not at what it has left. -/
theorem ChargedFrom.eventReadings (h : w.ChargedFrom u) : u.eventReadings = w.eventReadings := by
  rw [h]
  rfl

/-- No event is noted where none is due. -/
theorem noteEvents_events {readings : EventReadings}
    (hapogee : w.apogeeQ12 < readings.altitude ∨ w.descending = true
      ∨ w.currentTime.raw ≤ w.vehicle.burnTimeQ16S ∨ 0 ≤ readings.verticalVelocityQ24)
    (hdrogue : command.discrete &&& globalCommandDrogue ≠ 0 → w.drogue = true)
    (hmain : w.drogue = true → command.discrete &&& globalCommandMain ≠ 0 → w.main = true) :
    (w.noteEvents readings (some command)).events = w.events := by
  have htracked : w.trackApogee readings false = w
      ∨ w.trackApogee readings false = { w with apogeeQ12 := readings.altitude } := by
    by_cases hhigher : w.apogeeQ12 < readings.altitude
    · exact .inr (if_pos hhigher)
    · refine .inl ((if_neg hhigher).trans (if_neg fun hfalls ↦ ?_))
      rw [Bool.and_eq_true, Bool.and_eq_true] at hfalls
      obtain ⟨⟨hnot, hafter⟩, hdown⟩ := hfalls
      rcases hapogee with hup | hfallen | hburns | hrises
      · exact hhigher hup
      · rw [hfallen] at hnot
        cases hnot
      · exact UInt32.not_lt.mpr hburns (of_decide_eq_true hafter)
      · exact Int32.not_lt.mpr hrises (of_decide_eq_true hdown)
  have hkept : ∀ v : GlobalWorldMachine, v.drogue = w.drogue → v.main = w.main →
      (v.commandDrogue command).commandMain command = v := by
    intro v hvDrogue hvMain
    have hstays : v.commandDrogue command = v := by
      unfold commandDrogue
      refine if_neg fun hdue ↦ ?_
      rw [Bool.and_eq_true] at hdue
      rw [hvDrogue, hdrogue (bne_iff_ne.mp hdue.2)] at hdue
      cases hdue.1
    rw [hstays]
    unfold commandMain
    refine if_neg fun hdue ↦ ?_
    rw [Bool.and_eq_true, Bool.and_eq_true] at hdue
    rw [hvDrogue, hvMain] at hdue
    rw [hmain hdue.1.1 (bne_iff_ne.mp hdue.2)] at hdue
    cases hdue.1.2
  show ((w.trackApogee readings false).deployParachutes readings (some command)).events = w.events
  unfold deployParachutes
  dsimp only
  rcases htracked with heq | heq
  · rw [heq, hkept w rfl rfl]
  · rw [heq]
    have hhigher := hkept { w with apogeeQ12 := readings.altitude } rfl rfl
    exact (congrArg GlobalWorldMachine.events hhigher).trans rfl

/-- Between two releases, before the vehicle hangs on its parachutes, the look for events finds
only what has to be noted. -/
theorem processEvents_noted {readings : EventReadings} (hreadings : w.eventReadings = .ok readings)
    (hrelease : w.atRelease = false) (hsegment : w.segment ≠ .localRecovery) :
    (w.processEventsAndTransitions (some command)).2
      = w.noteEvents readings (some command) := by
  obtain ⟨hsame, -⟩ := w.noteEvents_keeps readings (some command)
  have hnoted := w.processed_noteEvents readings (some command)
  have hnot : (w.noteEvents readings (some command)).atRelease = false := by
    unfold atRelease at hrelease ⊢
    rw [hnoted.onward.time]
    exact hrelease
  unfold processEventsAndTransitions
  rw [hreadings]
  dsimp only
  rw [if_neg (by rw [hnot]; exact Bool.false_ne_true), Attempt.andThen_ok rfl]
  unfold checkLanding
  rw [if_neg (by rw [hsame.1]; exact hsegment), Attempt.andThen_ok rfl]
  unfold checkTimeout
  split_ifs <;> rfl

/-- A silent step between two releases leaves no event. -/
theorem Silent.after_events (h : w.Silent command) (htakes : w.Takes (some command))
    (hrelease : (w.moved (some command)).2.atRelease = false)
    (hsegment : w.segment ≠ .localRecovery) : (w.after (some command)).events = 0 := by
  have hunder := w.moved_underway (some command)
  refine @call_cases w (some command)
    (fun u ↦ (w.moved (some command)).2.ChargedFrom u ∧ u.events = 0) (fun u ↦ u.events = 0)
    htakes (fun u hu ↦ hu.2) ⟨rfl, ?_⟩ ?_ ?_ ?_ ?_
  · exact moveVehicle_events (w := w.started (some command)) h.burnout
  · rintro u ⟨hu, hevents⟩
    unfold ChargedFrom at hu ⊢
    rw [consumeRcsPropellant_eq]
    exact ⟨by rw [hu], hevents⟩
  · rintro u ⟨hu, hevents⟩
    unfold ChargedFrom at hu ⊢
    exact ⟨by rw [hu]; rfl, hevents⟩
  · rintro u ⟨hu, hevents⟩
    cases hreadings : u.eventReadings with
    | error e =>
        unfold processEventsAndTransitions
        rw [hreadings]
        exact hevents
    | ok readings =>
        have hmoved := hu.eventReadings.symm.trans hreadings
        have htime : u.currentTime = (w.moved (some command)).2.currentTime := by
          rw [hu]
          rfl
        have hkept : u.apogeeQ12 = w.apogeeQ12 ∧ u.descending = w.descending
            ∧ u.vehicle = w.vehicle ∧ u.drogue = w.drogue ∧ u.main = w.main
            ∧ u.segment = w.segment := by
          rw [hu, hunder]
          exact ⟨rfl, rfl, rfl, rfl, rfl, rfl⟩
        obtain ⟨hhighest, hdescending, hvehicle, hout, hopen, hs⟩ := hkept
        rw [processEvents_noted hreadings, noteEvents_events, hevents]
        · rw [hhighest, hdescending, htime, hvehicle]
          exact h.apogee readings hmoved
        · rw [hout]
          exact h.drogue
        · rw [hout, hopen]
          exact h.main
        · unfold atRelease at hrelease ⊢
          rw [htime]
          exact hrelease
        · rw [hs]
          exact hsegment
  · rintro u hu
    unfold updateChecksum
    split <;> exact hu

end Step

end GlobalWorldMachine

namespace GlobalAvionicsMission

/-! ## The way between two releases -/

section Way

variable {P : Type} {p : WorldPacks} {m m' n : GlobalAvionicsMission P} {target : UInt32}
  {next last : GlobalWorldSnapshot}

/-- The next step ends before the target. -/
def Early (m : GlobalAvionicsMission P) (target : UInt32) : Prop :=
  m.world.currentTime.raw.toNat
    + (m.world.moveLength (m.world.callLength (some m.heldCommand))).toNat < target.toNat

/-- On the way to the next release no event is due in a step that ends before the release. -/
def Quiet (m : GlobalAvionicsMission P) : Prop :=
  ∀ target snapshot, m.nextRelease = .ok (target, snapshot) → ∀ m', m.StepsTo m' →
    m'.Due target → m'.Early target → m'.world.Silent m'.heldCommand

/-- The events of a step on the way to the next release. -/
def Raised (m : GlobalAvionicsMission P) (events : UInt16) : Prop :=
  ∃ target snapshot, m.nextRelease = .ok (target, snapshot) ∧
    ∃ m', m.StepsTo m' ∧ m'.Due target ∧ m'.stepWorld.2.world.events = events

/-- The time of the next release. -/
theorem nextRelease_eq {snapshot : GlobalWorldSnapshot}
    (h : m.nextRelease = .ok (target, snapshot)) :
    target.toNat = m.world.currentTime.raw.toNat + 2048 := by
  unfold nextRelease at h
  obtain ⟨active, hactive, h⟩ := bind_eq_ok.mp h
  obtain ⟨_, hroom, h⟩ := bind_eq_ok.mp h
  obtain ⟨_, -, h⟩ := bind_eq_ok.mp h
  obtain ⟨rfl, -⟩ := Prod.mk.inj (Except.ok.inj h)
  have hle := UInt32.le_iff_toNat_le.mp (UInt32.not_lt.mp (reject_eq_ok.mp hroom))
  have hlimit : (0xffffffff - globalAvionicsPeriodQ16 : UInt32).toNat = 4294965247 := by decide
  have hperiod : globalAvionicsPeriodQ16.toNat = 2048 := by decide
  rw [activeState_time hactive] at hle ⊢
  rw [UInt32.toNat_add, hperiod, Nat.mod_eq_of_lt (by omega)]

/-- An early step of a way that starts at a release ends between two releases, and the vehicle does
not hang on its parachutes there. -/
theorem early_between (hp : p.vehicle.validate = .ok ()) (hm : m.world.Sound p)
    (hrelease : m.world.currentTime.raw.toNat % 2048 = 0)
    (htarget : target.toNat = m.world.currentTime.raw.toNat + 2048) (hsteps : m.StepsTo m')
    (hearly : m'.Early target) (hstep : m'.stepWorld = (.ok next, n)) :
    (m'.world.moved (some m'.heldCommand)).2.atRelease = false
      ∧ m'.world.segment ≠ .localRecovery := by
  have hm' := hsteps.sound hp hm
  have hstart := hsteps.later hp hm
  have hlater := stepWorld_later hp hm' hstep
  obtain ⟨-, -, -, hmoved, htime⟩ := stepWorld_ok hp hm' hstep
  unfold Early at hearly
  constructor
  · by_contra hat
    have hmod := GlobalWorldMachine.atRelease_mod (Bool.eq_true_of_not_eq_false hat)
    rw [hmoved] at hmod
    omega
  · intro hrecovery
    have hmod := hm'.recovery hrecovery
    have hlength : (m'.world.moveLength
        (m'.world.callLength (some m'.heldCommand))).toNat = 2048 := by
      unfold GlobalWorldMachine.moveLength
      rw [hrecovery]
      rfl
    omega

/-- What is raised on a quiet way is still there at its end, or there is nothing. -/
theorem Quiet.raised {events : UInt16} (hp : p.vehicle.validate = .ok ()) (h : m.Quiet)
    (hm : m.world.Sound p) (hrelease : m.world.currentTime.raw.toNat % 2048 = 0)
    (hway : m.advanceToNextRelease = (.ok last, n)) (hraised : m.Raised events) :
    events = 0 ∨ events = n.world.events := by
  obtain ⟨target, snapshot, hnext, m', hsteps, hdue, rfl⟩ := hraised
  obtain ⟨_, _, hnext', hcomes, -⟩ := advance_comes hway
  cases hnext.symm.trans hnext'
  obtain ⟨next, m'', hstep, hlast⟩ := hcomes.last hp hm rfl hsteps hdue
  rw [hstep]
  rcases hlast with rfl | hdue'
  · exact .inr rfl
  · have hm' := hsteps.sound hp hm
    obtain ⟨htakes, hworld, -, -, htime⟩ := stepWorld_ok hp hm' hstep
    have hearly : m'.Early target := by
      have hbefore := hdue'.time
      unfold Early
      omega
    obtain ⟨hbetween, hsegment⟩ :=
      early_between hp hm hrelease (nextRelease_eq hnext) hsteps hearly hstep
    left
    rw [hworld]
    exact (h target snapshot hnext m' hsteps hdue hearly).after_events htakes hbetween hsegment

/-- A world that has not ended is before the next release. -/
theorem due_of_next {snapshot : GlobalWorldSnapshot} (h : m.nextRelease = .ok (target, snapshot))
    (hopen : m.world.complete = false) : m.Due target := by
  have htarget := nextRelease_eq h
  unfold nextRelease at h
  obtain ⟨active, hactive, -⟩ := bind_eq_ok.mp h
  refine ⟨hopen, active, hactive, ?_⟩
  rw [UInt32.lt_iff_toNat_lt, activeState_time hactive, htarget]
  exact Nat.lt_add_of_pos_right (by decide)

/-- What the last step of a way raises is there at its end. -/
theorem raised_last (hopen : m.world.complete = false)
    (hway : m.advanceToNextRelease = (.ok last, n)) : m.Raised n.world.events := by
  obtain ⟨target, snapshot, hnext, hcomes, hcheck, -⟩ := advance_comes hway
  have hend : ∀ m, m.Due target → ∀ snapshot r, Comes target snapshot m r → r = (.ok last, n) →
      ∃ m', m.StepsTo m' ∧ m'.Due target ∧ m'.stepWorld.2 = n := by
    intro m hdue snapshot r hcomes hr
    induction hcomes with
    | unread | fails => cases hr
    | ended hended => exact absurd (hended.symm.trans hdue.1) (by decide)
    | there hactive htime =>
        obtain ⟨-, active, hactive', htime'⟩ := hdue
        cases hactive.symm.trans hactive'
        exact absurd htime' htime
    | @steps _ _ m m₁ _ hdue₀ hs hrest ih =>
        rcases hrest.over hr with rfl | hdue₁
        · exact ⟨m, .refl m, hdue₀, congrArg Prod.snd hs⟩
        · obtain ⟨m', hsteps, hdue', hlast⟩ := ih hdue₁ hr
          exact ⟨m', .step hs hsteps, hdue', hlast⟩
  obtain ⟨m', hsteps, hdue', hlast⟩ := hend m (due_of_next hnext hopen) snapshot _ hcomes rfl
  exact ⟨target, snapshot, hnext, m', hsteps, hdue', by rw [hlast]⟩

/-- While the motor burns and no parachute is ordered, every way is quiet. -/
theorem quiet_of_burning (hp : p.vehicle.validate = .ok ()) (hm : m.world.Sound p)
    (hburns : m.world.currentTime.raw.toNat + 2048 ≤ p.vehicle.burnTimeQ16S.toNat)
    (horder : m.heldCommand.discrete = 0) : m.Quiet := by
  intro target snapshot hnext m' hsteps hdue hearly
  have htarget := nextRelease_eq hnext
  have hm' := hsteps.sound hp hm
  have hkept : m'.heldCommand = m.heldCommand := hsteps.heldCommand
  have hvehicle : m'.world.vehicle = p.vehicle := congrArg WorldPacks.vehicle hm'.packs
  have hbefore := hdue.time
  unfold Early at hearly
  have hmoved : (m'.world.moved (some m'.heldCommand)).2.currentTime.raw.toNat < target.toNat := by
    cases hm'.moved_result hp (some m'.heldCommand) with
    | failed _ htime _ => rw [htime]; exact hbefore
    | advanced _ htime _ _ => rw [htime]; exact hearly
  have hnone : ∀ order : UInt8, ¬m'.heldCommand.discrete &&& order ≠ 0 := by
    intro order
    rw [hkept, horder, UInt8.zero_and]
    exact not_not.mpr rfl
  exact {
    burnout := by
      rw [hvehicle]
      exact .inr (.inr (by omega))
    apogee := fun _ _ ↦ by
      refine .inr (.inr (.inl ?_))
      rw [UInt32.le_iff_toNat_le, hvehicle]
      omega
    drogue := fun h ↦ absurd h (hnone _)
    main := fun _ h ↦ absurd h (hnone _) }

end Way

/-! ## The release at its end -/

section Release

variable {P : Type} {m : GlobalAvionicsMission P} {snapshot : GlobalWorldSnapshot}

/-- The events of a snapshot are those of the world. -/
theorem snapshot_events {w : GlobalWorldMachine} (h : w.snapshot = .ok snapshot) :
    snapshot.events = w.events := by
  unfold GlobalWorldMachine.snapshot at h
  obtain ⟨_, -, h⟩ := bind_eq_ok.mp h
  cases h
  rfl

/-- The aid cell has the events of the snapshot. -/
theorem aidFrame_events {active : GlobalKinematicState} {aid : GlobalAidFrameCell}
    (h : m.aidFrame snapshot active = .ok aid) : aid.events = snapshot.events := by
  unfold aidFrame at h
  obtain ⟨_, -, h⟩ := bind_eq_ok.mp h
  obtain ⟨_, -, h⟩ := bind_eq_ok.mp h
  obtain ⟨_, -, h⟩ := bind_eq_ok.mp h
  cases h
  rfl

variable [GlobalFlightReleaseProcessor P] {m' : GlobalAvionicsMission P}
  {bundle : GlobalReleaseBundle}

/-- A release that succeeds is at a multiple of the period and has an aid cell with the events of
the world. -/
theorem released_events (h : m.releaseBundle = (.ok bundle, m')) :
    m'.world = m.world ∧ m.world.currentTime.raw.toNat % 2048 = 0
      ∧ ∃ aid, bundle.aid = some aid ∧ aid.events = m.world.events := by
  have hworld : m'.world = m.world := by
    rw [← m.releaseBundle_world.1, h]
  obtain ⟨r, hreadings, rfl, -⟩ := releaseBundle_ok h
  obtain ⟨hsnapshot, -, htime, -, -, haid, -⟩ := readings_ok hreadings
  refine ⟨hworld, htime, r.aid, rfl, ?_⟩
  rw [aidFrame_events haid, snapshot_events hsnapshot]

end Release

end GlobalAvionicsMission

end Ksa64.Sim
