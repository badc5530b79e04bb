import Ksa64.Sim.GlobalAvionics
import Ksa64.Sim.PulseRuns

/-!
# The calls of the avionics mission

A mission is called for a release or for the way to the next one.  The steps of the way are a loop
of the source; `Comes` says what the loop comes to, however many rounds it takes, and the rounds of
`advanceToNextRelease` are enough.
-/

namespace Ksa64.Sim

open Ksa64.Library Ksa64.Core Ksa64.Interface Ksa64.Flight

namespace GlobalAvionicsMission

variable {P : Type}

/-! ## The steps -/

section Steps

/-- The world has not come to the target yet. -/
def Due (m : GlobalAvionicsMission P) (target : UInt32) : Prop :=
  m.world.complete = false ∧ ∃ active, m.world.activeState = .ok active ∧ active.time.raw < target

/-- Steps that succeed lead from one mission to the other. -/
inductive StepsTo : GlobalAvionicsMission P → GlobalAvionicsMission P → Prop
  | refl (m : GlobalAvionicsMission P) : StepsTo m m
  | step {m m' m'' : GlobalAvionicsMission P} {snapshot : GlobalWorldSnapshot}
      (h : m.stepWorld = (.ok snapshot, m')) (hr : StepsTo m' m'') : StepsTo m m''

/-- What the loop of the steps comes to. -/
inductive Comes (target : UInt32) : GlobalWorldSnapshot → GlobalAvionicsMission P →
    Attempt GlobalWorldError (GlobalAvionicsMission P) GlobalWorldSnapshot → Prop
  | ended {snapshot : GlobalWorldSnapshot} {m : GlobalAvionicsMission P}
      (h : m.world.complete = true) : Comes target snapshot m (.ok snapshot, m)
  | unread {snapshot : GlobalWorldSnapshot} {m : GlobalAvionicsMission P} {e : GlobalWorldError}
      (h : m.world.activeState = .error e) : Comes target snapshot m (.error e, m)
  | there {snapshot : GlobalWorldSnapshot} {m : GlobalAvionicsMission P}
      {active : GlobalKinematicState} (h : m.world.activeState = .ok active)
      (htime : ¬active.time.raw < target) : Comes target snapshot m (.ok snapshot, m)
  | fails {snapshot : GlobalWorldSnapshot} {m m' : GlobalAvionicsMission P} {e : GlobalWorldError}
      (hdue : m.Due target) (h : m.stepWorld = (.error e, m')) : Comes target snapshot m (.error e, m')
  | steps {snapshot snapshot' : GlobalWorldSnapshot} {m m' : GlobalAvionicsMission P}
      {r : Attempt GlobalWorldError (GlobalAvionicsMission P) GlobalWorldSnapshot}
      (hdue : m.Due target) (h : m.stepWorld = (.ok snapshot', m')) (hr : Comes target snapshot' m' r) :
      Comes target snapshot m r

variable {target : UInt32} {snapshot : GlobalWorldSnapshot} {m : GlobalAvionicsMission P}
  {r : Attempt GlobalWorldError (GlobalAvionicsMission P) GlobalWorldSnapshot}

/-- What the loop computes in some rounds is what it comes to. -/
theorem comes_of_loop {rounds : Nat} (h : advanceLoop target rounds snapshot m = some r) :
    Comes target snapshot m r := by
  induction rounds generalizing snapshot m with
  | zero => cases h
  | succ rounds ih =>
      unfold advanceLoop at h
      split_ifs at h with hended
      · cases h
        exact .ended hended
      · split at h
        · next e hactive =>
          cases h
          exact .unread hactive
        · next active hactive =>
          split_ifs at h with htime
          · have hdue : m.Due target := ⟨by simpa using hended, active, hactive, htime⟩
            split at h
            · next e m' hstep =>
              cases h
              exact .fails hdue hstep
            · next snapshot' m' hstep => exact .steps hdue hstep (ih h)
          · cases h
            exact .there hactive htime

/-- A loop that has come to its end in some rounds does not use more. -/
theorem advanceLoop_succ {rounds : Nat} (h : advanceLoop target rounds snapshot m = some r) :
    advanceLoop target (rounds + 1) snapshot m = some r := by
  induction rounds generalizing snapshot m with
  | zero => cases h
  | succ rounds ih =>
      unfold advanceLoop at h ⊢
      split_ifs at h ⊢ with hended
      · exact h
      · split at h
        · exact h
        · next active hactive =>
          split_ifs at h ⊢ with htime
          · split at h
            · exact h
            · exact ih h
          · exact h

/-- The loop ends after some steps, or with a step that fails. -/
theorem Comes.ends (h : Comes target snapshot m r) : ∃ m', StepsTo m m' ∧
    (r.2 = m' ∨ m'.Due target ∧ m'.stepWorld.Failed ∧ r.2 = m'.stepWorld.2) := by
  induction h with
  | ended | unread | there => exact ⟨_, .refl _, .inl rfl⟩
  | fails hdue hstep =>
      refine ⟨_, .refl _, .inr ⟨hdue, ?_, ?_⟩⟩
      · exact ⟨_, congrArg Prod.fst hstep⟩
      · exact (congrArg Prod.snd hstep).symm
  | steps hdue hstep _ ih =>
      obtain ⟨m', hsteps, hend⟩ := ih
      exact ⟨m', .step hstep hsteps, hend⟩

/-- A step is a call of the world. -/
theorem stepWorld_world (m : GlobalAvionicsMission P) :
    m.stepWorld.2.world = m.world.after (some m.heldCommand) := by
  unfold stepWorld
  dsimp only
  split <;> rfl

/-- A step fails if the call of the world does. -/
theorem failed_stepWorld : m.stepWorld.Failed ↔ (m.world.call (some m.heldCommand)).Failed := by
  show (∃ e, _) ↔ ∃ e, (m.world.stepCommanded m.heldCommand).1 = .error e
  unfold stepWorld
  dsimp only
  split
  · next e he => exact ⟨fun _ ↦ ⟨e, he⟩, fun _ ↦ ⟨e, rfl⟩⟩
  · next snapshot hok =>
    constructor
    · rintro ⟨e, he⟩
      cases he
    · rintro ⟨e, he⟩
      cases hok.symm.trans he

/-- The time that is read is that of the world. -/
theorem activeState_time {w : GlobalWorldMachine} {active : GlobalKinematicState}
    (h : w.activeState = .ok active) : active.time = w.currentTime := by
  unfold GlobalWorldMachine.activeState at h
  unfold GlobalWorldMachine.currentTime
  split at h
  · unfold localActiveState at h
    obtain ⟨_, -, h⟩ := bind_eq_ok.mp h
    obtain ⟨_, -, h⟩ := bind_eq_ok.mp h
    obtain ⟨_, -, h⟩ := bind_eq_ok.mp h
    obtain ⟨_, -, h⟩ := bind_eq_ok.mp h
    obtain ⟨_, -, h⟩ := bind_eq_ok.mp h
    obtain ⟨_, -, h⟩ := bind_eq_ok.mp h
    cases h
    rfl
  · cases h
    rfl

/-- A world that the steps have not come to the target with is before it. -/
theorem Due.time (h : m.Due target) : m.world.currentTime.raw.toNat < target.toNat := by
  obtain ⟨-, active, hactive, htime⟩ := h
  rw [activeState_time hactive] at htime
  exact UInt32.lt_iff_toNat_lt.mp htime

/-- What holds of the world in every run is kept by the steps. -/
theorem StepsTo.sound {p : WorldPacks} (hp : p.vehicle.validate = .ok ())
    {m m' : GlobalAvionicsMission P} (h : m.StepsTo m') (hm : m.world.Sound p) :
    m'.world.Sound p := by
  induction h with
  | refl => exact hm
  | @step m m' _ _ hs _ ih =>
      refine ih ?_
      have hworld := m.stepWorld_world
      rw [hs] at hworld
      rw [show m'.world = m.world.after (some m.heldCommand) from hworld]
      exact hm.after hp _

/-- A step that succeeds takes its command, and its move advances the world by its length. -/
theorem stepWorld_ok {p : WorldPacks} (hp : p.vehicle.validate = .ok ())
    {m m' : GlobalAvionicsMission P} (hm : m.world.Sound p)
    (h : m.stepWorld = (.ok snapshot, m')) : m.world.Takes (some m.heldCommand)
      ∧ m'.world = m.world.after (some m.heldCommand) ∧ m'.heldCommand = m.heldCommand
      ∧ (m.world.moved (some m.heldCommand)).2.currentTime = m'.world.currentTime
      ∧ m'.world.currentTime.raw.toNat = m.world.currentTime.raw.toNat
        + (m.world.moveLength (m.world.callLength (some m.heldCommand))).toNat := by
  have hworld : m'.world = m.world.after (some m.heldCommand) := by
    rw [← stepWorld_world, h]
  have hnot : ¬(m.world.call (some m.heldCommand)).Failed := by
    rw [← failed_stepWorld, h]
    exact Attempt.not_failed_of_ok rfl
  have htakes : m.world.Takes (some m.heldCommand) := by
    by_contra hrefused
    obtain ⟨e, he⟩ := GlobalWorldMachine.call_of_not_takes m.world _ hrefused
    exact hnot ⟨e, congrArg Prod.fst he⟩
  obtain ⟨u, -, hcharged, hprocessed⟩ := hm.processed hp htakes
  have htime : m'.world.currentTime = (m.world.moved (some m.heldCommand)).2.currentTime := by
    rw [hworld, hprocessed.onward.time, hcharged.time]
  refine ⟨htakes, hworld, ?_, htime.symm, ?_⟩
  · unfold stepWorld at h
    dsimp only at h
    split at h
    · cases h
    · cases h
      rfl
  · rw [htime]
    cases hm.moved_result hp (some m.heldCommand) with
    | failed hfailed _ _ =>
        obtain ⟨e, he⟩ := hfailed
        refine absurd ⟨e, ?_⟩ hnot
        rw [GlobalWorldMachine.call_of_takes m.world _ htakes, GlobalWorldMachine.stepPhysical_eq,
          Attempt.andThen_error he]
        rfl
    | advanced _ hlater _ _ => exact hlater

/-- A step that succeeds takes some time. -/
theorem stepWorld_later {p : WorldPacks} (hp : p.vehicle.validate = .ok ())
    {m m' : GlobalAvionicsMission P} (hm : m.world.Sound p)
    (h : m.stepWorld = (.ok snapshot, m')) :
    m.world.currentTime.raw.toNat < m'.world.currentTime.raw.toNat := by
  obtain ⟨-, -, -, -, htime⟩ := stepWorld_ok hp hm h
  have hlength : 0 < (m.world.moveLength (m.world.callLength (some m.heldCommand))).toNat := by
    have hcall := ((m.world.acceptCommand (some m.heldCommand)).stepLength_bounds true).1
    unfold GlobalWorldMachine.moveLength
    cases m.world.segment with
    | localLaunch => exact (by decide : 0 < globalPoweredStepQ16.toNat)
    | localRecovery => exact (by decide : 0 < globalCoastStepQ16.toNat)
    | ecefAscent | eciCoast | ecefEntry => exact UInt32.lt_iff_toNat_lt.mp hcall
  omega

/-- The steps hold the command. -/
theorem StepsTo.heldCommand {m m' : GlobalAvionicsMission P} (h : m.StepsTo m') :
    m'.heldCommand = m.heldCommand := by
  induction h with
  | refl => rfl
  | step hs _ ih =>
      rw [ih]
      unfold stepWorld at hs
      dsimp only at hs
      split at hs
      · cases hs
      · cases hs
        rfl

/-- Steps do not go back in time. -/
theorem StepsTo.later {p : WorldPacks} (hp : p.vehicle.validate = .ok ())
    {m m' : GlobalAvionicsMission P} (h : m.StepsTo m') (hm : m.world.Sound p) :
    m.world.currentTime.raw.toNat ≤ m'.world.currentTime.raw.toNat := by
  induction h with
  | refl => exact Nat.le_refl _
  | @step m m' m'' snapshot hs hr ih =>
      have hfirst := stepWorld_later hp hm hs
      have hsound : m'.world.Sound p :=
        StepsTo.sound hp (.step hs (.refl m')) hm
      exact hfirst.le.trans (ih hsound)

/-- A way that does not fail is over, or it has not come to the target. -/
theorem Comes.over (h : Comes target snapshot m r) {n : GlobalAvionicsMission P}
    {last : GlobalWorldSnapshot} (hr : r = (.ok last, n)) : m = n ∨ m.Due target := by
  cases h with
  | unread | fails => cases hr
  | ended | there =>
      cases hr
      exact .inl rfl
  | steps hdue => exact .inr hdue

/-- Each step on a way that does not fail is its last one, or it has not come to the target. -/
theorem Comes.last {p : WorldPacks} (hp : p.vehicle.validate = .ok ())
    (h : Comes target snapshot m r) (hm : m.world.Sound p) {n m' : GlobalAvionicsMission P}
    {last : GlobalWorldSnapshot} (hr : r = (.ok last, n)) (hsteps : m.StepsTo m')
    (hdue : m'.Due target) : ∃ next m'', m'.stepWorld = (.ok next, m'')
      ∧ (m'' = n ∨ m''.Due target) := by
  induction h with
  | unread | fails => cases hr
  | ended hended =>
      cases hsteps with
      | refl => exact absurd (hended.symm.trans hdue.1) (by decide)
      | step hs _ => exact absurd (hended.symm.trans (stepWorld_ok hp hm hs).1.1) (by decide)
  | @there _ m active hactive htime =>
      have hlater := hsteps.later hp hm
      have hbefore := hdue.time
      rw [activeState_time hactive, UInt32.lt_iff_toNat_lt] at htime
      exact absurd (Nat.lt_of_le_of_lt hlater hbefore) htime
  | @steps _ snapshot' m m₁ r _ hs hrest ih =>
      cases hsteps with
      | refl => exact ⟨snapshot', m₁, hs, hrest.over hr⟩
      | step hs' hrest' =>
          rw [hs] at hs'
          cases hs'
          have hnext : m₁.world.Sound p := StepsTo.sound hp (.step hs (.refl m₁)) hm
          exact ih hnext hr hrest'

/-- A step that succeeds returns what is then seen of the world. -/
theorem stepWorld_snapshot {m' : GlobalAvionicsMission P} (h : m.stepWorld = (.ok snapshot, m')) :
    m'.world.snapshot = .ok snapshot := by
  have hcall : m.world.call (some m.heldCommand) = (.ok snapshot, m'.world) := by
    show m.world.stepCommanded m.heldCommand = _
    unfold stepWorld at h
    dsimp only at h
    split at h
    · cases h
    · next hok =>
      cases h
      exact Prod.ext hok rfl
  by_cases htakes : m.world.Takes (some m.heldCommand)
  · rw [GlobalWorldMachine.call_of_takes m.world _ htakes] at hcall
    unfold Attempt.andThen at hcall
    split at hcall
    · exact (Prod.mk.inj hcall).2 ▸ (Prod.mk.inj hcall).1
    · cases hcall
  · obtain ⟨e, he⟩ := GlobalWorldMachine.call_of_not_takes m.world _ htakes
    cases hcall.symm.trans he

/-- A way returns what is seen of the world at its end. -/
theorem Comes.seen (h : Comes target snapshot m r) (hm : m.world.snapshot = .ok snapshot)
    {n : GlobalAvionicsMission P} {last : GlobalWorldSnapshot} (hr : r = (.ok last, n)) :
    n.world.snapshot = .ok last := by
  induction h with
  | unread | fails => cases hr
  | ended | there =>
      cases hr
      exact hm
  | steps _ hs _ ih => exact ih (stepWorld_snapshot hs) hr

/-- What a release reads is there, at a multiple of the period. -/
theorem readings_ok {r : ReleaseReadings} (h : m.readings = .ok r) :
    m.world.snapshot = .ok r.snapshot ∧ m.world.activeState = .ok r.active
      ∧ m.world.currentTime.raw.toNat % 2048 = 0 ∧ m.pendingService r.snapshot = .ok r.service
      ∧ m.fastCell r.snapshot r.active r.service = .ok r.fast
      ∧ m.aidFrame r.snapshot r.active = .ok r.aid
      ∧ r.transition = r.service.map m.transitionCell := by
  unfold readings at h
  obtain ⟨found, hsnapshot, h⟩ := bind_eq_ok.mp h
  obtain ⟨active, hactive, h⟩ := bind_eq_ok.mp h
  obtain ⟨_, htime, h⟩ := bind_eq_ok.mp h
  obtain ⟨service, hservice, h⟩ := bind_eq_ok.mp h
  obtain ⟨fast, hfast, h⟩ := bind_eq_ok.mp h
  obtain ⟨aid, haid, h⟩ := bind_eq_ok.mp h
  rw [← Except.ok.inj h]
  refine ⟨hsnapshot, hactive, ?_, hservice, hfast, haid, rfl⟩
  refine GlobalWorldMachine.atRelease_mod ?_
  unfold GlobalWorldMachine.atRelease
  rw [← activeState_time hactive]
  exact beq_iff_eq.mpr (not_not.mp (reject_eq_ok.mp htime))

end Steps

/-! ## The way to the next release -/

/-- The way to the next release ends where some steps lead, or with a step that fails. -/
theorem advance_ends (m : GlobalAvionicsMission P) : ∃ m', StepsTo m m' ∧
    (m.advanceToNextRelease.2 = m' ∨
      m'.stepWorld.Failed ∧ m.advanceToNextRelease.2 = m'.stepWorld.2
        ∧ ∃ target snapshot, m.nextRelease = .ok (target, snapshot) ∧ m'.Due target) := by
  unfold advanceToNextRelease
  split
  · exact ⟨m, .refl m, .inl rfl⟩
  · next target snapshot hnext =>
    have hkept : ∀ r : Attempt GlobalWorldError (GlobalAvionicsMission P) GlobalWorldSnapshot,
        (r.andThen fun snapshot m ↦ (m.checkTarget target snapshot, m)).2 = r.2 := by
      rintro ⟨_ | _, _⟩ <;> rfl
    rw [hkept]
    cases hloop : advanceLoop target advanceRounds snapshot m with
    | none => exact ⟨m, .refl m, .inl rfl⟩
    | some r =>
        obtain ⟨m', hsteps, hend⟩ := (comes_of_loop hloop).ends
        refine ⟨m', hsteps, hend.imp_right ?_⟩
        rintro ⟨hdue, hfailed, hr⟩
        exact ⟨hfailed, hr, target, snapshot, hnext, hdue⟩

/-- A way that does not fail comes to its target. -/
theorem advance_comes {n : GlobalAvionicsMission P} {last : GlobalWorldSnapshot}
    (h : m.advanceToNextRelease = (.ok last, n)) : ∃ target snapshot,
      m.nextRelease = .ok (target, snapshot) ∧ Comes target snapshot m (.ok last, n)
        ∧ n.checkTarget target last = .ok last ∧ n.world.snapshot = .ok last := by
  unfold advanceToNextRelease at h
  split at h
  · cases h
  · next target snapshot hnext =>
    refine ⟨target, snapshot, hnext, ?_⟩
    have hseen : m.world.snapshot = .ok snapshot := by
      unfold nextRelease at hnext
      obtain ⟨_, -, hnext⟩ := bind_eq_ok.mp hnext
      obtain ⟨_, -, hnext⟩ := bind_eq_ok.mp hnext
      obtain ⟨_, hseen, hnext⟩ := bind_eq_ok.mp hnext
      rw [← (Prod.mk.inj (Except.ok.inj hnext)).2]
      exact hseen
    cases hloop : advanceLoop target advanceRounds snapshot m with
    | none =>
        rw [hloop] at h
        cases h
    | some r =>
        rw [hloop] at h
        obtain ⟨_ | found, n'⟩ := r
        · cases h
        · obtain ⟨hcheck, rfl⟩ := Prod.mk.inj h
          have hfound : found = last := by
            unfold checkTarget at hcheck
            split_ifs at hcheck
            · exact Except.ok.inj hcheck
            · obtain ⟨active, -, hcheck⟩ := bind_eq_ok.mp hcheck
              split_ifs at hcheck
              exact Except.ok.inj hcheck
          subst hfound
          have hcomes := comes_of_loop hloop
          exact ⟨hcomes, hcheck, hcomes.seen hseen rfl⟩

/-! ## Calls -/

/-- The world of a new mission. -/
theorem withProcessor_world {p : WorldPacks} {m : GlobalAvionicsMission P}
    {config : GlobalFlightConfig} {processor : P}
    {faults : GlobalSensorFaults} {seed : UInt32}
    (h : withProcessor p config processor faults seed = .ok m) :
    GlobalWorldMachine.new p = .ok m.world := by
  unfold withProcessor at h
  obtain ⟨world, hworld, h⟩ := bind_eq_ok.mp h
  obtain ⟨_, -, h⟩ := bind_eq_ok.mp h
  obtain ⟨_, -, h⟩ := bind_eq_ok.mp h
  cases h
  exact hworld

/-- A call of the mission. -/
inductive AvionicsCall where
  | release
  | advance

section Calls

variable [GlobalFlightReleaseProcessor P]

/-- The mission after a call, whatever the call returned. -/
def after (m : GlobalAvionicsMission P) : AvionicsCall → GlobalAvionicsMission P
  | .release => m.releaseBundle.2
  | .advance => m.advanceToNextRelease.2

/-- A release looks at the world and leaves it alone. -/
theorem releaseBundle_world (m : GlobalAvionicsMission P) :
    m.releaseBundle.2.world = m.world ∧ m.releaseBundle.2.faults = m.faults
      ∧ m.releaseBundle.2.seed = m.seed := by
  have hmeasured : ∀ (m : GlobalAvionicsMission P) (r : ReleaseReadings)
      (navigation : GlobalNavigation), (m.measured r navigation).2.world = m.world
        ∧ (m.measured r navigation).2.faults = m.faults
        ∧ (m.measured r navigation).2.seed = m.seed := by
    intro m r navigation
    unfold measured measureAcceleration
    split
    · exact ⟨rfl, rfl, rfl⟩
    · dsimp only
      split
      · exact ⟨rfl, rfl, rfl⟩
      · split_ifs
        · split <;> exact ⟨rfl, rfl, rfl⟩
        · exact ⟨rfl, rfl, rfl⟩
  unfold releaseBundle
  split
  · exact ⟨rfl, rfl, rfl⟩
  · next r _ =>
    exact Attempt.andThen_keeps (P := fun u : GlobalAvionicsMission P ↦ u.world = m.world ∧ u.faults = m.faults
      ∧ u.seed = m.seed) (hmeasured (m.processed r).2 r _) fun _ _ h ↦ h

/-- A release that succeeds gives its readings to the flight software, and then takes its
measurements. -/
theorem releaseBundle_ok {m m' : GlobalAvionicsMission P} {bundle : GlobalReleaseBundle}
    (h : m.releaseBundle = (.ok bundle, m')) : ∃ r, m.readings = .ok r
      ∧ bundle = ⟨r.fast, some r.aid, r.transition, (m.processed r).1⟩
      ∧ m' = ((m.processed r).2.measured r (m.processed r).1.navigation).2.concluded r
        (m.processed r).1 := by
  unfold releaseBundle at h
  cases hreadings : m.readings with
  | error e =>
      rw [hreadings] at h
      cases h
  | ok r =>
      rw [hreadings] at h
      dsimp only at h
      unfold Attempt.andThen at h
      split at h
      · obtain ⟨hbundle, hm'⟩ := Prod.mk.inj h
        exact ⟨r, rfl, (Except.ok.inj hbundle).symm, hm'.symm⟩
      · cases h

variable {p : WorldPacks} {m : GlobalAvionicsMission P}

/-- Every call keeps what holds of the world in every run. -/
theorem sound_after (hp : p.vehicle.validate = .ok ()) (h : m.world.Sound p) (call : AvionicsCall) :
    (m.after call).world.Sound p := by
  cases call with
  | release =>
      show m.releaseBundle.2.world.Sound p
      rw [m.releaseBundle_world.1]
      exact h
  | advance =>
      obtain ⟨m', hsteps, hend⟩ := m.advance_ends
      have hm' : m'.world.Sound p := hsteps.sound hp h
      show m.advanceToNextRelease.2.world.Sound p
      rcases hend with heq | ⟨-, heq, -⟩
      · rw [heq]
        exact hm'
      · rw [heq, stepWorld_world]
        exact hm'.after hp _

/-! ## Flights -/

/-- A flight: releases and the ways between them, none of which has failed. -/
inductive Flown (m₀ : GlobalAvionicsMission P) :
    List GlobalReleaseBundle → GlobalAvionicsMission P → Prop
  | start : Flown m₀ [] m₀
  | onward {bundles : List GlobalReleaseBundle} {m m' m'' : GlobalAvionicsMission P}
      {bundle : GlobalReleaseBundle} {snapshot : GlobalWorldSnapshot} (h : Flown m₀ bundles m)
      (hrelease : m.releaseBundle = (.ok bundle, m'))
      (hway : m'.advanceToNextRelease = (.ok snapshot, m'')) : Flown m₀ (bundles ++ [bundle]) m''

/-- What holds of the world in every run holds on every flight. -/
theorem Flown.sound {m₀ : GlobalAvionicsMission P} {bundles : List GlobalReleaseBundle}
    (h : m₀.Flown bundles m) (hp : p.vehicle.validate = .ok ()) (hm₀ : m₀.world.Sound p) :
    m.world.Sound p := by
  induction h with
  | start => exact hm₀
  | @onward bundles m m' m'' bundle snapshot _ hrelease hway ih =>
      have hreleased : m'.world.Sound p := by
        have hkept := sound_after hp ih .release
        unfold after at hkept
        dsimp only at hkept
        rw [hrelease] at hkept
        exact hkept
      have hkept := sound_after hp hreleased .advance
      unfold after at hkept
      dsimp only at hkept
      rw [hway] at hkept
      exact hkept

end Calls

end GlobalAvionicsMission

end Ksa64.Sim
