import Ksa64.Core.Faults
import Ksa64.Library.Run
import Ksa64.Sim.GlobalWorld

/-!
# What a step of the world can change

Each part of a step changes a few fields of the world and keeps the rest.  A call is followed stage
by stage: what holds before the events are looked at and what holds after them is shown of the
stages, and with it of the call (`call_cases`), however far the call has come.
-/

namespace Ksa64.Sim

open Ksa64.Library Ksa64.Core Ksa64.Interface

namespace GlobalWorldMachine

/-- A step, or a step with a command. -/
def call (w : GlobalWorldMachine) :
    Option GlobalCommandCell → Attempt GlobalWorldError GlobalWorldMachine GlobalWorldSnapshot
  | none => w.step
  | some command => w.stepCommanded command

/-- The world after a call, whatever the call returned. -/
def after (w : GlobalWorldMachine) (command : Option GlobalCommandCell) : GlobalWorldMachine :=
  (w.call command).2

/-- The call takes the command: nobody has to refuse it. -/
def Takes (w : GlobalWorldMachine) (command : Option GlobalCommandCell) : Prop :=
  w.complete = false ∧ ∀ c, command = some c → c.frame = interfaceFrame w.segment.frame

/-! ## The stages -/

/-- The world with the command in it, before it moves. -/
def started (w : GlobalWorldMachine) (command : Option GlobalCommandCell) : GlobalWorldMachine :=
  { w.acceptCommand command with events := 0 }

/-- How long the step of the call is. -/
def callLength (w : GlobalWorldMachine) (command : Option GlobalCommandCell) : UInt32 :=
  (w.acceptCommand command).stepLength command.isSome

def moved (w : GlobalWorldMachine) (command : Option GlobalCommandCell) :
    Attempt GlobalWorldError GlobalWorldMachine Unit :=
  (w.started command).moveVehicle (w.callLength command) command.isSome

/-- The world with a time taken off its pulses. -/
def shrunk (w : GlobalWorldMachine) (dt : UInt32) : GlobalWorldMachine :=
  { w with actuators := w.actuators.advancePulses dt }

section Stages

variable (w : GlobalWorldMachine) (command : Option GlobalCommandCell)

theorem started_eq : w.started command =
    { w with actuators := (w.started command).actuators, events := 0 } := by
  cases command <;> rfl

/-- A call that does not take the command fails and leaves the world as it is. -/
theorem call_of_not_takes (h : ¬w.Takes command) : ∃ e, w.call command = (.error e, w) := by
  have hinternal : w.complete = true → ∃ e, w.stepInternal command = (.error e, w) := fun hc ↦ by
    unfold stepInternal
    rw [if_pos hc]
    exact ⟨_, rfl⟩
  cases command with
  | none => exact hinternal (by simpa [Takes] using h)
  | some c =>
      show ∃ e, w.stepCommanded c = (.error e, w)
      unfold stepCommanded
      split_ifs with hframe
      · exact ⟨_, rfl⟩
      · refine hinternal ?_
        by_contra hc
        refine h ⟨by simpa using hc, ?_⟩
        rintro _ ⟨⟩
        exact not_not.mp hframe

theorem after_of_not_takes (h : ¬w.Takes command) : w.after command = w := by
  obtain ⟨e, hcall⟩ := call_of_not_takes w command h
  unfold after
  rw [hcall]

/-- A call that takes the command is a step with it. -/
theorem call_of_takes (h : w.Takes command) : w.call command =
    ((w.acceptCommand command).stepPhysical command).andThen fun _ w ↦ (w.snapshot, w) := by
  have hinternal : w.stepInternal command = ((w.acceptCommand command).stepPhysical
      command).andThen fun _ w ↦ (w.snapshot, w) := by
    unfold stepInternal
    rw [if_neg (by rw [h.1]; exact Bool.false_ne_true)]
  cases command with
  | none => exact hinternal
  | some c =>
      show w.stepCommanded c = _
      unfold stepCommanded
      rw [if_neg (not_not.mpr (h.2 c rfl))]
      exact hinternal

variable {w command} {Before After : GlobalWorldMachine → Prop}

/-- What is left by a call: `Before` is kept from the move to the pulses, the events lead from
`Before` to `After`, and `After` is what is left by a call that stops early, too. -/
theorem call_cases (h : w.Takes command) (hearly : ∀ u, Before u → After u)
    (hmove : Before (w.moved command).2)
    (hcharge : ∀ u, Before u → Before (u.consumeRcsPropellant (w.started command).actuators.activeJets
      (w.callLength command)).2)
    (hpulses : ∀ u, Before u → Before (u.shrunk (w.callLength command)))
    (hevents : ∀ u, Before u → After (u.processEventsAndTransitions command).2)
    (hchecksum : ∀ u, After u → After u.updateChecksum.2) : After (w.after command) := by
  have hstep : After ((w.acceptCommand command).stepPhysical command).2 := by
    show After ((w.moved command).andThen _).2
    refine Attempt.andThen_leads hmove hearly fun _ u hu ↦ ?_
    refine Attempt.andThen_leads (hcharge u hu) hearly fun _ v hv ↦ ?_
    exact Attempt.andThen_keeps (hevents _ (hpulses v hv)) fun _ _ ↦ hchecksum _
  unfold after
  rw [call_of_takes w command h]
  exact Attempt.andThen_keeps hstep fun _ _ hs ↦ hs

end Stages

/-! ## What the stages change -/

section Changes

variable (w : GlobalWorldMachine) (dt : UInt32) (controlled : Bool)

theorem consumeMainPropellant_eq : (w.consumeMainPropellant dt).2 =
    { w with
      mainPropellantQ21 := (w.consumeMainPropellant dt).2.mainPropellantQ21
      events := (w.consumeMainPropellant dt).2.events } := by
  unfold consumeMainPropellant
  dsimp only
  split <;> rfl

theorem consumeRcsPropellant_eq (activeJets : Nat) : (w.consumeRcsPropellant activeJets dt).2 =
    { w with rcsPropellantQ21 := (w.consumeRcsPropellant activeJets dt).2.rcsPropellantQ21 } := by
  unfold consumeRcsPropellant
  split <;> rfl

/-- `u` is `w` but for where the vehicle is, what air and motor have done, and the events. -/
def MovedFrom (w u : GlobalWorldMachine) : Prop :=
  u = { w with
    coordinates := u.coordinates
    mainPropellantQ21 := u.mainPropellantQ21
    machQ24 := u.machQ24
    dynamicPressureQ14 := u.dynamicPressureQ14
    events := u.events
    positionResidualQ28 := u.positionResidualQ28
    velocityResidualQ20 := u.velocityResidualQ20 }

variable {w dt}

theorem MovedFrom.burning {u : GlobalWorldMachine} (h : w.MovedFrom u) :
    w.MovedFrom (u.consumeMainPropellant dt).2 := by
  unfold MovedFrom
  rw [consumeMainPropellant_eq u dt, h]

variable (w dt)

theorem stepLocalLaunch_moves : w.MovedFrom w.stepLocalLaunch.2 := by
  unfold stepLocalLaunch
  split
  · rfl
  · split
    · rfl
    · refine Attempt.andThen_keeps (MovedFrom.burning rfl) fun _ u hu ↦ ?_
      unfold MovedFrom at hu ⊢
      rw [hu]

theorem stepGlobal_moves : w.MovedFrom (w.stepGlobal dt controlled).2 := by
  unfold stepGlobal
  split
  · rfl
  · split
    · rfl
    · dsimp only
      split
      split
      · rfl
      · refine Attempt.andThen_keeps (MovedFrom.burning rfl) fun _ u hu ↦ ?_
        unfold MovedFrom at hu ⊢
        rw [hu]

theorem stepLocalRecovery_moves : w.MovedFrom w.stepLocalRecovery.2 := by
  unfold stepLocalRecovery
  split
  · rfl
  · split <;> rfl

/-- The move of a step. -/
theorem moveVehicle_moves : w.MovedFrom (w.moveVehicle dt controlled).2 := by
  unfold moveVehicle
  split
  · exact w.stepLocalLaunch_moves
  all_goals first
    | exact w.stepGlobal_moves dt controlled
    | exact w.stepLocalRecovery_moves

end Changes

/-! ## Times -/

section Times

variable {w : GlobalWorldMachine}

theorem ofFrame_ok {α : Type} {x : Except FrameError α} {a : α} (h : ofFrame x = .ok a) :
    x = .ok a := by
  cases x with
  | error e => cases h
  | ok a' => cases h; rfl

/-- The Earth-fixed state has the time of the world. -/
theorem ecefState_time {ecef : GlobalKinematicState} (h : w.ecefState = .ok ecef) :
    ecef.time = w.currentTime := by
  unfold ecefState canonicalState at h
  unfold currentTime
  cases hc : w.coordinates with
  | localState state =>
      rw [hc] at h
      exact localToEcef_time (ofFrame_ok h)
  | globalState state =>
      rw [hc] at h
      dsimp only at h
      split_ifs at h
      · cases h
        rfl
      · cases hi : interpolateTransform w.transforms state.time with
        | error e => rw [hi] at h; cases h
        | ok transform =>
            rw [hi] at h
            exact gcrfToEcef_time (ofFrame_ok h)

theorem eventReadings_time {readings : EventReadings} (h : w.eventReadings = .ok readings) :
    readings.ecef.time = w.currentTime := by
  obtain ⟨s', hbody⟩ := guarded_ok h
  obtain ⟨ecef, s₁, hecef, hrest⟩ := bind_ok hbody
  have hreadings : readings.ecef = ecef := by
    refine (?_ : Returns _ fun r : EventReadings ↦ r.ecef = ecef) _ _ _ hrest
    repeat refine returns_bind fun _ ↦ ?_
    exact returns_pure rfl
  rw [hreadings]
  exact ecefState_time (except_ok hecef).1

end Times

/-! ## Events and changes of segment -/

/-- Every event of the one is one of the other. -/
def Raises (w u : GlobalWorldMachine) : Prop :=
  ∀ event : UInt16, w.events &&& event ≠ 0 → u.events &&& event ≠ 0

/-- The segment after this one. -/
def nextSegment : GlobalSegment → Option GlobalSegment
  | .localLaunch => some .ecefAscent
  | .ecefAscent => some .eciCoast
  | .eciCoast => some .ecefEntry
  | .ecefEntry => some .localRecovery
  | .localRecovery => none

/-- The frames and the time of a change of segment. -/
structure Change where
  fromFrame : ReferenceFrameId
  toFrame : ReferenceFrameId
  time : MissionTimeQ16
deriving DecidableEq

def recordedChange (record : FrameTransitionRecord) : Change :=
  ⟨record.fromFrame, record.toFrame, record.time⟩

/-- The parachutes of `u` are those of `w`, or have gone out with their event. -/
structure Latches (w u : GlobalWorldMachine) : Prop where
  drogue : u.drogue = w.drogue ∨ u.drogue = true ∧ u.events &&& eventDrogue ≠ 0
  main : u.main = w.main ∨ u.main = true ∧ u.events &&& eventMain ≠ 0

/-- `u` is in the segment of `w`, or in the next one with a record of the change. -/
inductive Advances (w u : GlobalWorldMachine) : Prop where
  | stays (hsegment : u.segment = w.segment) (htransitions : u.transitions = w.transitions)
      (hcount : u.transitionCount = w.transitionCount) : Advances w u
  | changes (segment : GlobalSegment) (record : FrameTransitionRecord)
      (hsegment : nextSegment w.segment = some segment) (hnow : u.segment = segment)
      (hrelease : w.atRelease = true) (hroom : w.transitionCount.toNat < transitionCapacity)
      (hrecord : recordedChange record = ⟨w.segment.frame, segment.frame, w.currentTime⟩)
      (htransitions : u.transitions = w.transitions.setIfInBounds w.transitionCount.toNat record)
      (hcount : u.transitionCount = w.transitionCount + 1) : Advances w u

section Events

variable {w u v : GlobalWorldMachine}

/-- The fields that tell of the changes of segment. -/
def SameSegments (w u : GlobalWorldMachine) : Prop :=
  u.segment = w.segment ∧ u.transitions = w.transitions ∧ u.transitionCount = w.transitionCount

theorem Advances.of_kept {w' u' : GlobalWorldMachine} (h : w.Advances u)
    (hw : w'.SameSegments w) (htime : w.currentTime = w'.currentTime) (hu : u.SameSegments u') :
    w'.Advances u' := by
  obtain ⟨hws, hwt, hwn⟩ := hw
  obtain ⟨hus, hut, hun⟩ := hu
  cases h with
  | stays hs ht hn =>
      exact .stays (hus.trans (hs.trans hws)) (hut.trans (ht.trans hwt)) (hun.trans (hn.trans hwn))
  | changes segment record hs hnow hrelease hroom hrecord ht hn =>
      have hrelease' : w'.atRelease = true := by
        unfold atRelease at hrelease ⊢
        rw [← htime]
        exact hrelease
      rw [hws] at hs hrecord
      rw [htime] at hrecord
      rw [hwn] at hroom ht hn
      rw [hwt] at ht
      exact .changes segment record hs (hus.trans hnow) hrelease' hroom hrecord (hut.trans ht)
        (hun.trans hn)

theorem raises_or {more : UInt16} (h : u.events = w.events ||| more) : w.Raises u := by
  intro event hw hu
  rw [h] at hu
  refine hw (UInt16.toBitVec_inj.mp ?_)
  have hbits := congrArg UInt16.toBitVec hu
  ext k hk
  have hbit := congrArg (fun b : BitVec 16 ↦ b.getLsbD k) hbits
  simp at hbit ⊢
  grind

theorem or_event_ne_zero (events : UInt16) {event : UInt16} (h : event ≠ 0) :
    (events ||| event) &&& event ≠ 0 := by
  intro hand
  refine h (UInt16.toBitVec_inj.mp ?_)
  have hbits := congrArg UInt16.toBitVec hand
  ext k hk
  have hbit := congrArg (fun b : BitVec 16 ↦ b.getLsbD k) hbits
  simp at hbit ⊢
  grind

theorem Raises.refl (w : GlobalWorldMachine) : w.Raises w := fun _ h ↦ h

theorem Raises.trans (h : w.Raises u) (h' : u.Raises v) : w.Raises v :=
  fun event hw ↦ h' event (h event hw)

theorem Latches.trans (h : w.Latches u) (h' : u.Latches v) (hraises : u.Raises v) :
    w.Latches v where
  drogue := by
    rcases h'.drogue with heq | hset
    · rw [heq]
      exact h.drogue.imp_right fun hset ↦ ⟨hset.1, hraises _ hset.2⟩
    · exact .inr hset
  main := by
    rcases h'.main with heq | hset
    · rw [heq]
      exact h.main.imp_right fun hset ↦ ⟨hset.1, hraises _ hset.2⟩
    · exact .inr hset

/-- Looking for events changes neither the packs, nor what is left of the propellants and pulses,
nor the time; it only adds events, and the parachutes stay out. -/
structure Onward (w u : GlobalWorldMachine) : Prop where
  packs : u.toWorldPacks = w.toWorldPacks
  mainPropellant : u.mainPropellantQ21 = w.mainPropellantQ21
  rcsPropellant : u.rcsPropellantQ21 = w.rcsPropellantQ21
  actuators : u.actuators = w.actuators
  time : u.currentTime = w.currentTime
  latches : w.Latches u
  raises : w.Raises u

theorem Onward.trans (h : w.Onward u) (h' : u.Onward v) : w.Onward v where
  packs := h'.packs.trans h.packs
  mainPropellant := h'.mainPropellant.trans h.mainPropellant
  rcsPropellant := h'.rcsPropellant.trans h.rcsPropellant
  actuators := h'.actuators.trans h.actuators
  time := h'.time.trans h.time
  latches := h.latches.trans h'.latches h'.raises
  raises := h.raises.trans h'.raises

/-- What keeps the parachutes and what looking for events keeps. -/
theorem Onward.of_kept (hpacks : u.toWorldPacks = w.toWorldPacks)
    (hmain : u.mainPropellantQ21 = w.mainPropellantQ21)
    (hrcs : u.rcsPropellantQ21 = w.rcsPropellantQ21) (hactuators : u.actuators = w.actuators)
    (htime : u.currentTime = w.currentTime) (hlatches : u.drogue = w.drogue ∧ u.main = w.main)
    (hraises : w.Raises u) : w.Onward u :=
  ⟨hpacks, hmain, hrcs, hactuators, htime, ⟨.inl hlatches.1, .inl hlatches.2⟩, hraises⟩

theorem Onward.refl (w : GlobalWorldMachine) : w.Onward w :=
  .of_kept rfl rfl rfl rfl rfl ⟨rfl, rfl⟩ (Raises.refl w)

theorem onward_raise (events : UInt16) : w.Onward (w.raise events) :=
  .of_kept rfl rfl rfl rfl rfl ⟨rfl, rfl⟩ (raises_or rfl)

theorem onward_deployDrogue : w.Onward w.deployDrogue :=
  { Onward.refl w with
    latches := ⟨.inr ⟨rfl, or_event_ne_zero w.events (by decide)⟩, .inl rfl⟩
    raises := raises_or rfl }

theorem onward_deployMain : w.Onward w.deployMain :=
  { Onward.refl w with
    latches := ⟨.inl rfl, .inr ⟨rfl, or_event_ne_zero w.events (by decide)⟩⟩
    raises := raises_or rfl }

/-- The events are looked at. -/
theorem onward_noteEvents (readings : EventReadings) (command : Option GlobalCommandCell) :
    w.Onward (w.noteEvents readings command) := by
  have hfallen : w.Onward { w with descending := true, events := w.events ||| eventApogee } :=
    .of_kept rfl rfl rfl rfl rfl ⟨rfl, rfl⟩ (raises_or rfl)
  have happogee : w.Onward (w.trackApogee readings command.isNone) := by
    unfold trackApogee
    split_ifs
    · exact .of_kept rfl rfl rfl rfl rfl ⟨rfl, rfl⟩ fun _ h ↦ h
    · exact hfallen.trans onward_deployDrogue
    · exact hfallen
    · exact Onward.refl w
  have hdrogue : ∀ (u : GlobalWorldMachine) (c : GlobalCommandCell),
      u.Onward (u.commandDrogue c) := fun u c ↦ by
    unfold commandDrogue
    split
    · exact onward_deployDrogue
    · exact Onward.refl u
  have hmain : ∀ (u : GlobalWorldMachine) (c : GlobalCommandCell),
      u.Onward (u.commandMain c) := fun u c ↦ by
    unfold commandMain
    split
    · exact onward_deployMain
    · exact Onward.refl u
  have hdeploy : ∀ u : GlobalWorldMachine, u.Onward (u.deployParachutes readings command) :=
      fun u ↦ by
    cases command with
    | some c => exact (hdrogue u c).trans (hmain _ c)
    | none =>
        unfold deployParachutes
        dsimp only
        split
        · exact onward_deployMain
        · exact Onward.refl u
  exact (happogee.trans (hdeploy _)).trans (.of_kept rfl rfl rfl rfl rfl ⟨rfl, rfl⟩ fun _ h ↦ h)

/-- Looking at the events leaves the segment and its records alone. -/
theorem noteEvents_keeps (w : GlobalWorldMachine) (readings : EventReadings)
    (command : Option GlobalCommandCell) : w.SameSegments (w.noteEvents readings command)
      ∧ (w.noteEvents readings command).complete = w.complete := by
  have happogee : ∀ automatic, w.SameSegments (w.trackApogee readings automatic)
      ∧ (w.trackApogee readings automatic).complete = w.complete := fun automatic ↦ by
    unfold trackApogee
    split_ifs <;> exact ⟨⟨rfl, rfl, rfl⟩, rfl⟩
  have hdeploy : ∀ u : GlobalWorldMachine, u.SameSegments (u.deployParachutes readings command)
      ∧ (u.deployParachutes readings command).complete = u.complete := fun u ↦ by
    unfold deployParachutes commandMain commandDrogue
    split <;> split_ifs <;> exact ⟨⟨rfl, rfl, rfl⟩, rfl⟩
  obtain ⟨⟨h₁, h₂, h₃⟩, h₄⟩ := happogee command.isNone
  obtain ⟨⟨k₁, k₂, k₃⟩, k₄⟩ := hdeploy (w.trackApogee readings command.isNone)
  exact ⟨⟨k₁.trans h₁, k₂.trans h₂, k₃.trans h₃⟩, k₄.trans h₄⟩

/-- The drogue goes out before the main parachute, if the vehicle has not passed its apogee
without it. -/
theorem noteEvents_sequenced (w : GlobalWorldMachine) (readings : EventReadings)
    (command : Option GlobalCommandCell) :
    ((w.noteEvents readings command).descending = true → w.descending = true ∨ command ≠ none
        ∨ (w.noteEvents readings command).drogue = true)
      ∧ ((w.noteEvents readings command).main = true → w.main = true
        ∨ (w.noteEvents readings command).drogue = true ∨ command = none ∧ w.descending = true) := by
  cases command with
  | some c =>
      have htracked : (w.trackApogee readings false).main = w.main := by
        unfold trackApogee
        split_ifs <;> rfl
      refine ⟨fun _ ↦ .inr (.inl nofun), fun hmain ↦ ?_⟩
      change (((w.trackApogee readings false).commandDrogue c).commandMain c).main = true at hmain
      show _ ∨ (((w.trackApogee readings false).commandDrogue c).commandMain c).drogue = true ∨ _
      rw [← htracked]
      generalize w.trackApogee readings false = u at hmain ⊢
      unfold commandMain at hmain ⊢
      split at hmain
      · next hout =>
        rw [if_pos hout]
        simp only [Bool.and_eq_true] at hout
        exact .inr (.inl hout.1.1)
      · have hkept : (u.commandDrogue c).main = u.main := by
          unfold commandDrogue
          split <;> rfl
        exact .inl (hkept.symm.trans hmain)
  | none =>
      have htracked : (w.trackApogee readings true).main = w.main
          ∧ ((w.trackApogee readings true).descending = true → w.descending = true
            ∨ (w.trackApogee readings true).drogue = true) := by
        unfold trackApogee
        split_ifs
        · exact ⟨rfl, .inl⟩
        · exact ⟨rfl, fun _ ↦ .inr rfl⟩
        · next hmanual => exact absurd rfl hmanual
        · exact ⟨rfl, .inl⟩
      obtain ⟨hmain, hdescending⟩ := htracked
      have hnoted : ∀ u : GlobalWorldMachine,
          (u.deployParachutes readings none).descending = u.descending
          ∧ (u.deployParachutes readings none).drogue = u.drogue
          ∧ ((u.deployParachutes readings none).main = true → u.main = true
            ∨ u.descending = true) := fun u ↦ by
        unfold deployParachutes
        dsimp only
        split_ifs with hout
        · simp only [Bool.and_eq_true] at hout
          exact ⟨rfl, rfl, fun _ ↦ .inr hout.1.1⟩
        · exact ⟨rfl, rfl, .inl⟩
      obtain ⟨hd, hg, hm⟩ := hnoted (w.trackApogee readings true)
      constructor
      · intro h
        rcases hdescending (hd.symm.trans h) with hbefore | hdrogue
        · exact .inl hbefore
        · exact .inr (.inr (hg.trans hdrogue))
      · intro h
        rcases hm h with hbefore | hdown
        · exact .inl (hmain.symm.trans hbefore)
        · rcases hdescending hdown with hbefore | hdrogue
          · exact .inr (.inr ⟨rfl, hbefore⟩)
          · exact .inr (.inl (hg.trans hdrogue))

end Events

section Segments

variable {w u : GlobalWorldMachine} {segment : GlobalSegment}

/-- The time of a state in either kind of frame. -/
def Coordinates.time : Coordinates → MissionTimeQ16
  | .localState state => state.time
  | .globalState state => state.time

/-- A change of segment at the time of the world. -/
def InTime (w : GlobalWorldMachine) (change : FrameChange) : Prop :=
  change.before.time = w.currentTime ∧ Coordinates.time change.after = w.currentTime

/-- A change of segment that may fail, but not at another time. -/
def TimelyChange (w : GlobalWorldMachine) (change : Except GlobalWorldError FrameChange) : Prop :=
  ∀ c, change = .ok c → w.InTime c

/-- A change of segment leaves the parachutes alone and does not end the flight. -/
structure Changed (w u : GlobalWorldMachine) : Prop where
  onward : w.Onward u
  advances : w.Advances u
  complete : u.complete = w.complete
  latches : u.descending = w.descending ∧ u.drogue = w.drogue ∧ u.main = w.main

theorem Changed.refl (w : GlobalWorldMachine) : w.Changed w :=
  ⟨Onward.refl w, .stays rfl rfl rfl, rfl, rfl, rfl, rfl⟩

/-- A change of segment is made with its record, or not at all. -/
theorem changeSegment_advances {change : Except GlobalWorldError FrameChange} {events : UInt16}
    (hchange : w.TimelyChange change) (hnext : nextSegment w.segment = some segment)
    (hrelease : w.atRelease = true) :
    w.Changed (w.changeSegment segment change events).2 := by
  unfold changeSegment
  split
  · exact Changed.refl w
  · next change' =>
    obtain ⟨hbefore, hafter⟩ := hchange change' rfl
    unfold recordTransition
    split_ifs with hfull
    · exact Changed.refl w
    · refine ⟨.of_kept rfl rfl rfl rfl ?_ ⟨rfl, rfl⟩ (raises_or rfl), ?_, rfl, rfl, rfl, rfl⟩
      · exact hafter
      · refine .changes segment _ hnext rfl hrelease ?_ ?_ rfl rfl
        · exact Nat.lt_of_not_le fun h ↦ hfull (.inl h)
        · exact congrArg (Change.mk w.segment.frame segment.frame) hbefore

/-- The state that leaves the rail is converted. -/
theorem timely_leaveRail {state : LocalKinematicState} (hstate : w.coordinates = .localState state)
    (events : UInt16) : (w.raise events).TimelyChange (do
      let global ← ofFrame (localToEcef (w.raise events).launchAnchor state)
      pure ⟨global, global, .globalState global⟩) := by
  intro c hc
  have htime : (w.raise events).currentTime = state.time := by
    show (match w.coordinates with | .localState s => s.time | .globalState s => s.time) = _
    rw [hstate]
  cases hglobal : ofFrame (localToEcef (w.raise events).launchAnchor state) with
  | error e => rw [hglobal] at hc; cases hc
  | ok global =>
      rw [hglobal] at hc
      cases hc
      have hkept := (localToEcef_time (ofFrame_ok hglobal)).trans htime.symm
      exact ⟨hkept, hkept⟩

/-- A conversion between the global frames that keeps the time is timely. -/
theorem timely_changeOfGlobal {there back : InterpolatedTransform → GlobalKinematicState →
      Except FrameError GlobalKinematicState}
    (hthere : ∀ t s s', there t s = .ok s' → s'.time = s.time) :
    w.TimelyChange (w.changeOfGlobal there back) := by
  intro c hc
  unfold changeOfGlobal at hc
  unfold InTime currentTime
  cases hstate : w.coordinates with
  | localState _ => rw [hstate] at hc; cases hc
  | globalState current =>
      rw [hstate] at hc
      dsimp only at hc
      cases ht : ofFrame (interpolateTransform w.transforms w.currentTime) with
      | error e => rw [ht] at hc; cases hc
      | ok transform =>
      cases ha : ofFrame (there transform current) with
      | error e => rw [ht] at hc; simp only [bind, Except.bind, ha] at hc; cases hc
      | ok state =>
      cases hb : ofFrame (back transform state) with
      | error e => rw [ht] at hc; simp only [bind, Except.bind, ha, hb] at hc; cases hc
      | ok roundTrip =>
          rw [ht] at hc
          simp only [bind, Except.bind, ha, hb] at hc
          cases hc
          exact ⟨rfl, hthere _ _ _ (ofFrame_ok ha)⟩

theorem timely_changeToRecovery {ecef : GlobalKinematicState} (hecef : ecef.time = w.currentTime) :
    w.TimelyChange (w.changeToRecovery ecef) := by
  intro c hc
  unfold changeToRecovery at hc
  cases ha : ofFrame (ecefToLocal w.recoveryAnchor ecef) with
  | error e => rw [ha] at hc; cases hc
  | ok state =>
  cases hb : ofFrame (localToEcef w.recoveryAnchor state) with
  | error e => simp only [bind, Except.bind, ha, hb] at hc; cases hc
  | ok roundTrip =>
      simp only [bind, Except.bind, ha, hb] at hc
      cases hc
      exact ⟨hecef, (ecefToLocal_time (ofFrame_ok ha)).trans hecef⟩

/-- At a release the segment stays, or the next one comes. -/
theorem changeAtRelease_advances {readings : EventReadings}
    (hreadings : readings.ecef.time = w.currentTime) (hrelease : w.atRelease = true) :
    w.Changed (w.changeAtRelease readings).2 := by
  have hstays := Changed.refl w
  have hsegment : ∀ segment, w.segment = segment → nextSegment w.segment = nextSegment segment :=
    fun _ h ↦ congrArg nextSegment h
  unfold changeAtRelease
  split
  · next hlaunch =>
    unfold leaveRail
    split
    · exact hstays
    · next state hstate =>
      split
      · exact hstays
      · split_ifs
        · have hchanged := @changeSegment_advances _ _ _ 0
            (timely_leaveRail hstate (eventRailClear ||| eventEcefOwner)) (hsegment _ hlaunch)
            hrelease
          refine ⟨(onward_raise _).trans hchanged.onward, ?_, hchanged.complete, hchanged.latches⟩
          exact hchanged.advances.of_kept ⟨rfl, rfl, rfl⟩ rfl ⟨rfl, rfl, rfl⟩
        · exact hstays
  · next hascent =>
    split_ifs
    · exact changeSegment_advances (timely_changeOfGlobal fun _ _ _ ↦ ecefToGcrf_time)
        (hsegment _ hascent) hrelease
    · exact hstays
  · next hcoast =>
    split_ifs
    · exact changeSegment_advances (timely_changeOfGlobal fun _ _ _ ↦ gcrfToEcef_time)
        (hsegment _ hcoast) hrelease
    · exact hstays
  · next hentry =>
    split
    · exact hstays
    · exact hstays
    · exact changeSegment_advances (timely_changeToRecovery hreadings) (hsegment _ hentry) hrelease
  · exact hstays

/-- What the look for events does to the world: it may end the flight, but only on the way down
under the parachutes. -/
structure Processed (w : GlobalWorldMachine) (command : Option GlobalCommandCell)
    (u : GlobalWorldMachine) : Prop where
  onward : w.Onward u
  advances : w.Advances u
  complete : u.complete = true → w.complete = true
    ∨ u.segment = .localRecovery ∧ u.events &&& eventLanding ≠ 0
  descending : u.descending = true → w.descending = true ∨ command ≠ none ∨ u.drogue = true
  main : u.main = true → w.main = true ∨ u.drogue = true ∨ command = none ∧ w.descending = true

theorem Processed.refl (w : GlobalWorldMachine) (command : Option GlobalCommandCell) :
    w.Processed command w := ⟨Onward.refl w, .stays rfl rfl rfl, .inl, .inl, .inl⟩

variable {command : Option GlobalCommandCell}

/-- Changes of other fields. -/
theorem Processed.of_kept {v : GlobalWorldMachine} (h : w.Processed command u) (hv : u.Onward v)
    (hsegments : u.SameSegments v)
    (hlatches : v.descending = u.descending ∧ v.drogue = u.drogue ∧ v.main = u.main)
    (hcomplete : v.complete = true → u.complete = true
      ∨ v.segment = .localRecovery ∧ v.events &&& eventLanding ≠ 0) : w.Processed command v where
  onward := h.onward.trans hv
  advances := h.advances.of_kept ⟨rfl, rfl, rfl⟩ rfl hsegments
  complete hc := by
    rcases hcomplete hc with hu | hlanded
    · exact (h.complete hu).imp_right fun ⟨hs, he⟩ ↦ ⟨hsegments.1.trans hs, hv.raises _ he⟩
    · exact .inr hlanded
  descending := by
    rw [hlatches.1, hlatches.2.1]
    exact h.descending
  main := by
    rw [hlatches.2.1, hlatches.2.2]
    exact h.main

theorem processed_checkLanding (h : w.Processed command u) :
    w.Processed command u.checkLanding.2 := by
  unfold checkLanding
  split_ifs with hrecovery
  · split
    · exact h
    · split_ifs
      · refine h.of_kept (.of_kept rfl rfl rfl rfl rfl ⟨rfl, rfl⟩ (raises_or rfl))
          ⟨rfl, rfl, rfl⟩ ⟨rfl, rfl, rfl⟩ fun _ ↦ .inr ⟨hrecovery, ?_⟩
        exact or_event_ne_zero u.events (by decide)
      · exact h
  · exact h

theorem processed_checkTimeout (time : MissionTimeQ16) (h : w.Processed command u) :
    w.Processed command (u.checkTimeout time).2 := by
  unfold checkTimeout
  split_ifs <;> exact h

theorem processed_noteEvents (w : GlobalWorldMachine) (readings : EventReadings)
    (command : Option GlobalCommandCell) : w.Processed command (w.noteEvents readings command) where
  onward := w.onward_noteEvents readings command
  advances :=
    have ⟨hs, ht, hn⟩ := (w.noteEvents_keeps readings command).1
    .stays hs ht hn
  complete h := .inl ((w.noteEvents_keeps readings command).2.symm.trans h)
  descending := (w.noteEvents_sequenced readings command).1
  main := (w.noteEvents_sequenced readings command).2

/-- The look for events, however far it has come. -/
theorem processEvents_processed (w : GlobalWorldMachine) (command : Option GlobalCommandCell) :
    w.Processed command (w.processEventsAndTransitions command).2 := by
  unfold processEventsAndTransitions
  split
  · exact Processed.refl w command
  · next readings hreadings =>
    have hnoted := w.processed_noteEvents readings command
    have hchanged : w.Processed command ((if (w.noteEvents readings command).atRelease then
        (w.noteEvents readings command).changeAtRelease readings
        else (.ok (), w.noteEvents readings command)) :
          Attempt GlobalWorldError GlobalWorldMachine Unit).2 := by
      split_ifs with hrelease
      · have hchange := changeAtRelease_advances
          ((eventReadings_time hreadings).trans hnoted.onward.time.symm) hrelease
        have hkept := w.noteEvents_keeps readings command
        exact {
          onward := hnoted.onward.trans hchange.onward
          advances := hchange.advances.of_kept hkept.1 hnoted.onward.time ⟨rfl, rfl, rfl⟩
          complete := fun h ↦ .inl (by rw [← hkept.2, ← hchange.complete, h])
          descending := by
            rw [hchange.latches.1, hchange.latches.2.1]
            exact hnoted.descending
          main := by
            rw [hchange.latches.2.1, hchange.latches.2.2]
            exact hnoted.main }
      · exact hnoted
    refine Attempt.andThen_keeps hchanged fun _ u hu ↦ ?_
    refine Attempt.andThen_keeps (processed_checkLanding hu) fun _ v hv ↦ ?_
    exact processed_checkTimeout _ hv

end Segments

/-! ## The whole call -/

section Call

variable {w u : GlobalWorldMachine} {command : Option GlobalCommandCell}

/-- `u` is `w` on the way from the command to the events. -/
def Underway (w u : GlobalWorldMachine) : Prop :=
  u = { w with
    coordinates := u.coordinates
    mainPropellantQ21 := u.mainPropellantQ21
    rcsPropellantQ21 := u.rcsPropellantQ21
    actuators := u.actuators
    machQ24 := u.machQ24
    dynamicPressureQ14 := u.dynamicPressureQ14
    events := u.events
    positionResidualQ28 := u.positionResidualQ28
    velocityResidualQ20 := u.velocityResidualQ20 }

theorem moved_underway (w : GlobalWorldMachine) (command : Option GlobalCommandCell) :
    w.Underway (w.moved command).2 := by
  have hmoved := moveVehicle_moves (w.started command) (w.callLength command) command.isSome
  unfold MovedFrom at hmoved
  unfold Underway moved
  rw [hmoved, started_eq w command]

/-- A call takes the world underway and then looks for events.  What holds of the moved world and
is kept by the charge and the pulses holds when the events are looked at. -/
theorem after_processed {P : GlobalWorldMachine → Prop} (h : w.Takes command)
    (hmove : P (w.moved command).2)
    (hcharge : ∀ u, w.Underway u → P u → P (u.consumeRcsPropellant
      (w.started command).actuators.activeJets (w.callLength command)).2)
    (hpulses : ∀ u, w.Underway u → P u → P (u.shrunk (w.callLength command))) :
    ∃ u, w.Underway u ∧ P u ∧ u.Processed command (w.after command) := by
  refine @call_cases w command (fun u ↦ w.Underway u ∧ P u)
    (fun v ↦ ∃ u, w.Underway u ∧ P u ∧ u.Processed command v) h ?_ ⟨w.moved_underway command, hmove⟩
    ?_ ?_ ?_ ?_
  · rintro u ⟨hu, hP⟩
    exact ⟨u, hu, hP, Processed.refl u command⟩
  · rintro u ⟨hu, hP⟩
    refine ⟨?_, hcharge u hu hP⟩
    unfold Underway at hu ⊢
    rw [consumeRcsPropellant_eq, hu]
  · rintro u ⟨hu, hP⟩
    refine ⟨?_, hpulses u hu hP⟩
    unfold Underway at hu ⊢
    rw [hu]
    rfl
  · rintro u ⟨hu, hP⟩
    exact ⟨u, hu, hP, u.processEvents_processed command⟩
  · rintro v ⟨u, hu, hP, hv⟩
    refine ⟨u, hu, hP, ?_⟩
    unfold updateChecksum
    split
    · exact hv
    · exact hv.of_kept (.of_kept rfl rfl rfl rfl rfl ⟨rfl, rfl⟩ fun _ h ↦ h) ⟨rfl, rfl, rfl⟩
        ⟨rfl, rfl, rfl⟩ .inl

end Call

end GlobalWorldMachine

end Ksa64.Sim
