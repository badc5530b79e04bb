import Ksa64.Library.StagedLatches
import Ksa64.Flight.AdvancedFlight

/-!
# The parachutes of the local and of the advanced computer

The recovery latches a parachute when it is due and its circuit is continuous.  The local computer
then replaces its command by the safe one when it is safe, and the advanced computer also when it
has no fast cell: the deployment is latched and never commanded.  `deploys_iff` says that this is all
that can go wrong, over any run of either computer.
-/

namespace Ksa64.Flight

open Ksa64.Library Ksa64.Interface

namespace LocalFlightComputer

/-! ## The recovery -/

section Recovery

variable {c : LocalFlightComputer}

/-- The recovery deploys the drogue. -/
def deploysDrogue (c : LocalFlightComputer) : Bool :=
  c.epoch &&& 3 == 0 && (!c.drogueLatched && c.countDescent.drogueDue && c.continuity)

def deploysMain (c : LocalFlightComputer) : Bool :=
  c.epoch &&& 3 == 0 && (!c.mainLatched && c.mainDue && c.continuity)

/-- No time is long enough for the main parachute. -/
theorem separation_pos (c : LocalFlightComputer) :
    0 < c.config.minimumDeploymentSeparationQ18 := by
  have hvalid := c.valid
  unfold LocalFlightConfig.isValid at hvalid
  simp only [Bool.and_eq_true, decide_eq_true_eq] at hvalid
  exact hvalid.1.1.1.2

/-- What is left of a positive time is at least that time. -/
theorem add_le_of_le_subSatI32 {a b x : Int32} (hpos : 0 < x) (h : x ≤ subSatI32 a b) :
    b.toInt + x.toInt ≤ a.toInt := by
  rw [Int32.le_iff_toInt_le] at h
  rw [Int32.lt_iff_toInt_lt] at hpos
  have hzero : (0 : Int32).toInt = 0 := by decide
  unfold subSatI32 at h
  rw [toInt_clampI32] at h
  omega

theorem not_le_subSatI32_self {a x : Int32} (hpos : 0 < x) : ¬x ≤ subSatI32 a a := by
  intro h
  have hle := add_le_of_le_subSatI32 hpos h
  rw [Int32.lt_iff_toInt_lt] at hpos
  have hzero : (0 : Int32).toInt = 0 := by decide
  omega

/-- A main parachute that is due waits for the drogue. -/
theorem mainDue_late (h : c.mainDue = true) : c.drogueLatched = true ∧ c.separated = true := by
  unfold mainDue at h
  simp only [Bool.or_eq_true, Bool.and_eq_true] at h
  rcases h with h | h
  · exact ⟨h.1.1.1.1, h.1.1.2⟩
  · exact ⟨h.1.1, h.1.2⟩

/-- What the drogue does in a release. -/
theorem deployDrogue_eq : c.deployDrogue.1 =
      (if !c.drogueLatched && c.drogueDue && c.continuity then localCommandDrogue else 0)
    ∧ c.deployDrogue.2.drogueLatched
      = (c.drogueLatched || (!c.drogueLatched && c.drogueDue && c.continuity))
    ∧ c.deployDrogue.2.drogueTimeQ18
      = (if !c.drogueLatched && c.drogueDue && c.continuity then c.timeQ18 else c.drogueTimeQ18)
    ∧ c.deployDrogue.2.mainLatched = c.mainLatched
    ∧ c.deployDrogue.2.continuity = c.continuity ∧ c.deployDrogue.2.mainDue = c.mainDue := by
  unfold deployDrogue
  cases hdue : (!c.drogueLatched && c.drogueDue) with
  | false =>
      rw [if_neg Bool.false_ne_true, Bool.false_and, if_neg Bool.false_ne_true,
        if_neg Bool.false_ne_true, Bool.or_false]
      exact ⟨rfl, rfl, rfl, rfl, rfl, rfl⟩
  | true =>
      rw [if_pos rfl, Bool.true_and]
      cases hcontinuity : c.continuity with
      | false =>
          rw [if_neg Bool.false_ne_true, if_neg Bool.false_ne_true, if_neg Bool.false_ne_true,
            Bool.or_false]
          exact ⟨rfl, rfl, rfl, rfl, hcontinuity, rfl⟩
      | true =>
          rw [if_pos rfl, if_pos rfl, if_pos rfl, Bool.or_true]
          refine ⟨rfl, rfl, rfl, rfl, hcontinuity, ?_⟩
          -- The main parachute is not due just before the drogue is out, nor just after.
          have hbefore : c.mainDue = false := by
            refine Bool.eq_false_of_not_eq_true fun h ↦ ?_
            rw [(mainDue_late h).1] at hdue
            cases hdue
          rw [hbefore]
          refine Bool.eq_false_of_not_eq_true fun h ↦ ?_
          exact not_le_subSatI32_self c.separation_pos (of_decide_eq_true (mainDue_late h).2)

theorem deployMain_eq : c.deployMain.1 =
      (if !c.mainLatched && c.mainDue && c.continuity then localCommandMain else 0)
    ∧ c.deployMain.2.mainLatched
      = (c.mainLatched || (!c.mainLatched && c.mainDue && c.continuity))
    ∧ c.deployMain.2.drogueLatched = c.drogueLatched
    ∧ c.deployMain.2.drogueTimeQ18 = c.drogueTimeQ18 := by
  unfold deployMain
  cases !c.mainLatched && c.mainDue with
  | false =>
      rw [if_neg Bool.false_ne_true, Bool.false_and, if_neg Bool.false_ne_true, Bool.or_false]
      exact ⟨rfl, rfl, rfl, rfl⟩
  | true =>
      rw [if_pos rfl, Bool.true_and]
      cases c.continuity with
      | false =>
          rw [if_neg Bool.false_ne_true, if_neg Bool.false_ne_true, Bool.or_false]
          exact ⟨rfl, rfl, rfl, rfl⟩
      | true =>
          rw [if_pos rfl, if_pos rfl, Bool.or_true]
          exact ⟨rfl, rfl, rfl, rfl⟩

/-- The recovery commands and latches what it deploys. -/
theorem recover_eq : c.recover.1 = (if c.deploysDrogue then localCommandDrogue else 0)
      ||| (if c.deploysMain then localCommandMain else 0)
    ∧ c.recover.2.drogueLatched = (c.drogueLatched || c.deploysDrogue)
    ∧ c.recover.2.mainLatched = (c.mainLatched || c.deploysMain)
    ∧ c.recover.2.drogueTimeQ18 = (if c.deploysDrogue then c.timeQ18 else c.drogueTimeQ18) := by
  unfold recover deploysDrogue deploysMain
  by_cases hturn : c.epoch &&& 3 = 0
  · rw [if_pos hturn, beq_iff_eq.mpr hturn, Bool.true_and, Bool.true_and]
    obtain ⟨hdiscrete, hlatched, htime, hmain, hcontinuity, hdue⟩ := @deployDrogue_eq c.countDescent
    obtain ⟨hdiscrete', hlatched', hdrogue', htime'⟩ := @deployMain_eq c.countDescent.deployDrogue.2
    rw [hmain, hcontinuity, hdue] at hdiscrete' hlatched'
    rw [hlatched] at hdrogue'
    rw [htime] at htime'
    exact ⟨congrArg₂ (· ||| ·) hdiscrete hdiscrete', hdrogue', hlatched', htime'⟩
  · rw [if_neg hturn, beq_eq_false_iff_ne.mpr hturn, Bool.false_and, Bool.false_and,
      if_neg Bool.false_ne_true, if_neg Bool.false_ne_true, if_neg Bool.false_ne_true,
      Bool.or_false, Bool.or_false]
    exact ⟨rfl, rfl, rfl, rfl⟩

end Recovery

/-! ## Calls -/

/-- A release, or a release that came too late. -/
inductive Call where
  | tick (inertial : Option LocalInertialCell) (aid : Option LocalAidCell)
  | deadlineMiss
deriving DecidableEq

/-- The computer after a call. -/
def call (c : LocalFlightComputer) : Call → LocalFlightComputer
  | .tick inertial aid => (c.tick inertial aid).2
  | .deadlineMiss => c.recordDeadlineMiss

/-- The call deploys a parachute. -/
def Call.deploys (deploys : LocalFlightComputer → Bool) (c : LocalFlightComputer) : Call → Bool
  | .tick inertial aid => deploys (c.prepared inertial aid)
  | .deadlineMiss => false

/-- The call is a release whose command carries the bit. -/
def Commands (bit : UInt8) (c : LocalFlightComputer) : Call → Prop
  | .tick inertial aid => (c.tick inertial aid).1.command.discrete &&& bit ≠ 0
  | .deadlineMiss => False

/-- The computer is safe in the release. -/
def inhibits (c : LocalFlightComputer) : Call → Bool
  | .tick inertial aid => (c.prepared inertial aid).safe
  | .deadlineMiss => false

section Calls

variable {c : LocalFlightComputer} {inertial : Option LocalInertialCell}
  {aid : Option LocalAidCell} {i : Call}

theorem watch_kept : (c.watch inertial).config = c.config ∧ (c.watch inertial).epoch = c.epoch
    ∧ (c.watch inertial).drogueLatched = c.drogueLatched
    ∧ (c.watch inertial).mainLatched = c.mainLatched
    ∧ (c.watch inertial).drogueTimeQ18 = c.drogueTimeQ18
    ∧ (c.watch inertial).safe = c.safe := by
  cases inertial <;> exact ⟨rfl, rfl, rfl, rfl, rfl, rfl⟩

/-- What a release has not changed when it comes to the recovery. -/
theorem prepared_kept : (c.prepared inertial aid).config = c.config
    ∧ (c.prepared inertial aid).timeQ18 = c.timeQ18
    ∧ (c.prepared inertial aid).drogueLatched = c.drogueLatched
    ∧ (c.prepared inertial aid).mainLatched = c.mainLatched
    ∧ (c.prepared inertial aid).drogueTimeQ18 = c.drogueTimeQ18 := by
  have hintake : Intake c ((c.takeInertial (inertial.filter c.accepts)).takeAid aid) :=
    (takeInertial_intake _).trans (takeAid_intake aid)
  obtain ⟨hconfig, hepoch, hdrogue, hmain, htime, -⟩ :=
    @watch_kept ((c.takeInertial (inertial.filter c.accepts)).takeAid aid) inertial
  refine ⟨hconfig.trans hintake.config, ?_, hdrogue.trans hintake.drogueLatched,
    hmain.trans hintake.mainLatched, htime.trans hintake.drogueTimeQ18⟩
  exact congrArg (fun e : UInt16 ↦ mulSatI32 e.toUInt32.toInt32 8192) (hepoch.trans hintake.epoch)

/-- The computer is safe in every release after it has become so. -/
theorem prepared_safe (h : c.safe = true) : (c.prepared inertial aid).safe = true := by
  obtain ⟨-, -, -, -, -, hsafe⟩ :=
    @watch_kept ((c.takeInertial (inertial.filter c.accepts)).takeAid aid) inertial
  refine hsafe.trans ((takeAid_safe aid).trans ?_)
  cases inertial.filter c.accepts with
  | some cell => exact h
  | none =>
      unfold takeInertial
      dsimp only
      split_ifs
      · rfl
      · exact h

theorem tick_safe : (c.tick inertial aid).2.safe = (c.prepared inertial aid).safe :=
  (@recover_recovery (c.prepared inertial aid)).safe

/-- The command of a release. -/
theorem tick_discrete : (c.tick inertial aid).1.command.discrete =
    if (c.prepared inertial aid).safe then localCommandSafe
    else (c.prepared inertial aid).recover.1 := by
  rw [← (@recover_recovery (c.prepared inertial aid)).safe]
  rfl

theorem call_config : (c.call i).config = c.config := by
  cases i with
  | tick inertial aid =>
      exact (@recover_recovery (c.prepared inertial aid)).config.trans prepared_kept.1
  | deadlineMiss =>
      show c.recordDeadlineMiss.config = _
      unfold recordDeadlineMiss
      dsimp only
      split_ifs <;> rfl

/-- The latches after a call. -/
theorem call_latches :
    (c.call i).drogueLatched = (c.drogueLatched || Call.deploys deploysDrogue c i)
      ∧ (c.call i).mainLatched = (c.mainLatched || Call.deploys deploysMain c i)
      ∧ (c.call i).drogueTimeQ18
        = (if Call.deploys deploysDrogue c i then c.timeQ18 else c.drogueTimeQ18) := by
  cases i with
  | tick inertial aid =>
      obtain ⟨-, hdrogue, hmain, htime⟩ := @recover_eq (c.prepared inertial aid)
      obtain ⟨-, hnow, hdrogue', hmain', htime'⟩ := @prepared_kept c inertial aid
      rw [hdrogue'] at hdrogue
      rw [hmain'] at hmain
      rw [hnow, htime'] at htime
      exact ⟨hdrogue, hmain, htime⟩
  | deadlineMiss =>
      show c.recordDeadlineMiss.drogueLatched = _ ∧ c.recordDeadlineMiss.mainLatched = _
        ∧ c.recordDeadlineMiss.drogueTimeQ18 = _
      unfold recordDeadlineMiss Call.deploys
      dsimp only
      rw [Bool.or_false, Bool.or_false, if_neg Bool.false_ne_true]
      split_ifs <;> exact ⟨rfl, rfl, rfl⟩

theorem deploysDrogue_free (h : Call.deploys deploysDrogue c i = true) :
    c.drogueLatched = false := by
  cases i with
  | deadlineMiss => cases h
  | tick inertial aid =>
      rw [← (@prepared_kept c inertial aid).2.2.1]
      unfold Call.deploys deploysDrogue at h
      simp only [Bool.and_eq_true, Bool.not_eq_true'] at h
      exact h.2.1.1

theorem deploysMain_free (h : Call.deploys deploysMain c i = true) : c.mainLatched = false := by
  cases i with
  | deadlineMiss => cases h
  | tick inertial aid =>
      rw [← (@prepared_kept c inertial aid).2.2.2.1]
      unfold Call.deploys deploysMain at h
      simp only [Bool.and_eq_true, Bool.not_eq_true'] at h
      exact h.2.1.1

theorem deploysMain_late (h : Call.deploys deploysMain c i = true) : c.drogueLatched = true
    ∧ c.drogueTimeQ18.toInt + c.config.minimumDeploymentSeparationQ18.toInt ≤ c.timeQ18.toInt := by
  cases i with
  | deadlineMiss => cases h
  | tick inertial aid =>
      obtain ⟨hconfig, hnow, hdrogue, -, htime⟩ := @prepared_kept c inertial aid
      unfold Call.deploys deploysMain at h
      simp only [Bool.and_eq_true] at h
      obtain ⟨hlatched, hseparated⟩ := mainDue_late h.2.1.2
      have hlate := add_le_of_le_subSatI32 (c.prepared inertial aid).separation_pos
        (of_decide_eq_true hseparated)
      rw [hconfig, hnow, htime] at hlate
      exact ⟨hdrogue ▸ hlatched, hlate⟩

/-- The bits of a command without a safe one. -/
theorem discrete_bits (drogue main : Bool) :
    (((if drogue then localCommandDrogue else 0) ||| (if main then localCommandMain else 0))
        &&& localCommandDrogue ≠ 0 ↔ drogue = true)
      ∧ (((if drogue then localCommandDrogue else 0) ||| (if main then localCommandMain else 0))
        &&& localCommandMain ≠ 0 ↔ main = true) := by
  cases drogue <;> cases main <;> decide

/-- A release commands what it deploys, unless it is safe. -/
theorem commands_iff : (Commands localCommandDrogue c i ↔
      Call.deploys deploysDrogue c i = true ∧ c.inhibits i = false)
    ∧ (Commands localCommandMain c i ↔
      Call.deploys deploysMain c i = true ∧ c.inhibits i = false) := by
  cases i with
  | deadlineMiss =>
      have hnone {p : Prop} : ¬(false = true ∧ p) := fun h ↦ Bool.false_ne_true h.1
      exact ⟨iff_of_false id hnone, iff_of_false id hnone⟩
  | tick inertial aid =>
      unfold Commands inhibits Call.deploys
      dsimp only
      rw [tick_discrete]
      cases (c.prepared inertial aid).safe with
      | true =>
          rw [if_pos rfl]
          have hnone {p : Prop} : ¬(p ∧ true = false) := fun h ↦ Bool.false_ne_true h.2.symm
          exact ⟨iff_of_false (by decide) hnone, iff_of_false (by decide) hnone⟩
      | false =>
          rw [if_neg Bool.false_ne_true, (@recover_eq (c.prepared inertial aid)).1, and_iff_left rfl,
            and_iff_left rfl]
          exact discrete_bits _ _

end Calls

/-! ## The latches -/

/-- The parachutes of a computer with the configuration. -/
def latches (config : LocalFlightConfig) : StagedLatches call (fun c ↦ c.config = config) where
  first := drogueLatched
  second := mainLatched
  fires := Call.deploys deploysDrogue
  follows := Call.deploys deploysMain
  stamp c := c.drogueTimeQ18.toInt
  clock c := c.timeQ18.toInt
  wait := config.minimumDeploymentSeparationQ18.toInt
  inv_step := call_config.trans
  first_step _ := call_latches.1
  second_step _ := call_latches.2.1
  stamp_step := by
    intro c i _
    rw [call_latches.2.2]
    exact apply_ite Int32.toInt _ _ _
  fires_once _ := deploysDrogue_free
  follows_once _ := deploysMain_free
  follows_late := by
    rintro c i rfl hdeploys
    exact deploysMain_late hdeploys

/-- What the commands say of the parachutes. -/
def voice (config : LocalFlightConfig) : (latches config).Voice where
  tells := Commands localCommandDrogue
  tellsNext := Commands localCommandMain
  silent := inhibits
  tells_iff _ := commands_iff.1
  tellsNext_iff _ := commands_iff.2

/-- A call keeps the computer safe, and the command of a safe release does nothing. -/
def Safes (c : LocalFlightComputer) (i : Call) : Prop :=
  (c.safe = true → (c.call i).safe = true) ∧ ∀ inertial aid, i = .tick inertial aid →
    (c.call i).safe = true → (c.tick inertial aid).1.command.discrete = localCommandSafe
      ∧ (c.tick inertial aid).1.command.gimbal = Pair.of 0 0

theorem safes (c : LocalFlightComputer) (i : Call) : c.Safes i := by
  cases i with
  | deadlineMiss =>
      refine ⟨fun h ↦ ?_, fun _ _ htick ↦ by cases htick⟩
      show c.recordDeadlineMiss.safe = true
      unfold recordDeadlineMiss
      dsimp only
      split_ifs
      · rfl
      · exact h
  | tick inertial aid =>
      refine ⟨fun h ↦ tick_safe.trans (prepared_safe h), ?_⟩
      rintro _ _ ⟨rfl, rfl⟩ hsafe
      have hprepared : (c.prepared inertial aid).safe = true := tick_safe.symm.trans hsafe
      refine ⟨by rw [tick_discrete, hprepared, if_pos rfl], ?_⟩
      show ((c.prepared inertial aid).recover.2).gimbal (c.demand inertial) = _
      unfold gimbal
      rw [(@recover_recovery (c.prepared inertial aid)).safe, hprepared]
      rfl

end LocalFlightComputer

/-! ## The advanced computer -/

namespace AdvancedFlightComputer

open AdvancedFlight

inductive Call where
  | tick (fast : Option AdvancedFastSensorCell) (aid : Option AdvancedAidCell)
  | deadlineMiss
deriving DecidableEq

/-- The computer after a call. -/
def call (c : AdvancedFlightComputer) : Call → AdvancedFlightComputer
  | .tick fast aid => (c.tick fast aid).2
  | .deadlineMiss => c.recordDeadlineMiss

/-- The call of the computer within. -/
def localCall (c : AdvancedFlightComputer) : Call → LocalFlightComputer.Call
  | .tick fast aid => .tick ((fast.filter c.accepts).map toLocalInertial) (aid.map toLocalAid)
  | .deadlineMiss => .deadlineMiss

/-- The call is a release whose command carries the bit. -/
def Commands (bit : UInt8) (c : AdvancedFlightComputer) : Call → Prop
  | .tick fast aid => (c.tick fast aid).1.command.discrete &&& bit ≠ 0
  | .deadlineMiss => False

/-- The computer is safe in the release, or has no fast cell. -/
def inhibits (c : AdvancedFlightComputer) : Call → Bool
  | .tick fast aid => (fast.filter c.accepts).isNone
      || c.localFlight.inhibits (c.localCall (.tick fast aid))
  | .deadlineMiss => false

section Calls

variable {c : AdvancedFlightComputer} {fast : Option AdvancedFastSensorCell}
  {aid : Option AdvancedAidCell} {i : Call}

theorem call_local (c : AdvancedFlightComputer) (i : Call) :
    (c.call i).localFlight = c.localFlight.call (c.localCall i) := by
  cases i <;> rfl

/-- The evidence of the computer within, in a release. -/
def flown (c : AdvancedFlightComputer) (fast : Option AdvancedFastSensorCell)
    (aid : Option AdvancedAidCell) : LocalFlightEvidence :=
  (c.localFlight.tick ((fast.filter c.accepts).map toLocalInertial) (aid.map toLocalAid)).1

theorem tick_discrete : (c.tick fast aid).1.command.discrete =
    (c.takeFast (fast.filter c.accepts)).discrete (c.flown fast aid) := rfl

/-- A safe release demands no torque. -/
theorem tick_torque (h : (c.takeFast (fast.filter c.accepts)).isSafe (c.flown fast aid) = true) :
    (c.tick fast aid).1.command.torqueDemandQ12 = Axes.all 0 :=
  if_pos h

/-- The computer counts the missing cells. -/
theorem takeFast_missing : ((c.takeFast (fast.filter c.accepts)).missingFastEpochs = 0) ↔
    (fast.filter c.accepts).isNone = false := by
  cases fast.filter c.accepts with
  | some cell => exact iff_of_true rfl rfl
  | none =>
      refine iff_of_false (fun hzero ↦ ?_) (by decide)
      have hcount : (addSat8 c.missingFastEpochs 1).toNat = (0 : UInt8).toNat := congrArg _ hzero
      rw [toNat_addSat8] at hcount
      simp at hcount

/-- With a fast cell the command is that of the computer within; without one it has nothing of it. -/
theorem discrete_of_accepted {evidence : LocalFlightEvidence} :
    (c.takeFast (fast.filter c.accepts)).discrete evidence =
      if (c.takeFast (fast.filter c.accepts)).isSafe evidence then advancedCommandSafe
      else if (fast.filter c.accepts).isNone then 0 else evidence.command.discrete := by
  unfold discrete
  cases hnone : (fast.filter c.accepts).isNone with
  | true =>
      rw [if_neg (takeFast_missing.not.mpr (by rw [hnone]; decide)), if_pos rfl]
  | false => rw [if_pos (takeFast_missing.mpr hnone), if_neg Bool.false_ne_true]

theorem isSafe_of_accepted {evidence : LocalFlightEvidence}
    (h : (fast.filter c.accepts).isNone = false) :
    (c.takeFast (fast.filter c.accepts)).isSafe evidence = evidence.safe := by
  unfold isSafe
  rw [takeFast_missing.mpr h]
  rfl

/-- A release commands what it deploys, unless it is safe or has no fast cell. -/
theorem commands_iff : (Commands localCommandDrogue c i ↔
      LocalFlightComputer.Call.deploys LocalFlightComputer.deploysDrogue c.localFlight (c.localCall i) = true
        ∧ c.inhibits i = false)
    ∧ (Commands localCommandMain c i ↔
      LocalFlightComputer.Call.deploys LocalFlightComputer.deploysMain c.localFlight (c.localCall i) = true
        ∧ c.inhibits i = false) := by
  cases i with
  | deadlineMiss =>
      have hnone {p : Prop} : ¬(false = true ∧ p) := fun h ↦ Bool.false_ne_true h.1
      exact ⟨iff_of_false id hnone, iff_of_false id hnone⟩
  | tick fast aid =>
      obtain ⟨hdrogue, hmain⟩ := @LocalFlightComputer.commands_iff c.localFlight
        (c.localCall (.tick fast aid))
      unfold Commands inhibits
      dsimp only
      rw [tick_discrete, discrete_of_accepted]
      cases hnone : (fast.filter c.accepts).isNone with
      | true =>
          rw [Bool.true_or, if_pos rfl]
          have hfalse {p : Prop} : ¬(p ∧ true = false) := fun h ↦ Bool.false_ne_true h.2.symm
          cases (c.takeFast (fast.filter c.accepts)).isSafe (c.flown fast aid) with
          | true => exact ⟨iff_of_false (by decide) hfalse, iff_of_false (by decide) hfalse⟩
          | false => exact ⟨iff_of_false (by decide) hfalse, iff_of_false (by decide) hfalse⟩
      | false =>
          rw [Bool.false_or, if_neg Bool.false_ne_true, isSafe_of_accepted hnone, ← hdrogue, ← hmain]
          show ((if (c.flown fast aid).safe then _ else _) &&& _ ≠ 0
              ↔ (c.flown fast aid).command.discrete &&& _ ≠ 0)
            ∧ ((if (c.flown fast aid).safe then _ else _) &&& _ ≠ 0
              ↔ (c.flown fast aid).command.discrete &&& _ ≠ 0)
          cases hsafe : (c.flown fast aid).safe with
          | false =>
              rw [if_neg Bool.false_ne_true]
              exact ⟨Iff.rfl, Iff.rfl⟩
          | true =>
              have hcommand : (c.flown fast aid).command.discrete = localCommandSafe :=
                ((c.localFlight.safes (c.localCall (.tick fast aid))).2 _ _ rfl hsafe).1
              rw [hcommand]
              exact ⟨Iff.rfl, Iff.rfl⟩

end Calls

/-- The parachutes of the computer within. -/
def latches (config : LocalFlightConfig) :
    StagedLatches call (fun c : AdvancedFlightComputer ↦ c.localFlight.config = config) :=
  (LocalFlightComputer.latches config).comap localFlight localCall call_local

/-- What the commands say of the parachutes. -/
def voice (config : LocalFlightConfig) : (latches config).Voice where
  tells := Commands advancedCommandDrogue
  tellsNext := Commands advancedCommandMain
  silent := inhibits
  tells_iff _ := commands_iff.1
  tellsNext_iff _ := commands_iff.2

/-- A call keeps the computer safe, and the command of a safe release does nothing. -/
def Safes (c : AdvancedFlightComputer) (i : Call) : Prop :=
  (c.localFlight.safe = true → (c.call i).localFlight.safe = true) ∧ ∀ fast aid, i = .tick fast aid →
    (c.call i).localFlight.safe = true →
      (c.tick fast aid).1.command.discrete = advancedCommandSafe
        ∧ (c.tick fast aid).1.command.gimbal = Pair.of 0 0
        ∧ (c.tick fast aid).1.command.torqueDemandQ12 = Axes.all 0

theorem safes (c : AdvancedFlightComputer) (i : Call) : c.Safes i := by
  have hlocal := c.localFlight.safes (c.localCall i)
  unfold Safes
  rw [call_local]
  refine ⟨hlocal.1, ?_⟩
  rintro fast aid rfl hsafe
  have hflown : (c.takeFast (fast.filter c.accepts)).isSafe (c.flown fast aid) = true := by
    unfold isSafe
    rw [show (c.flown fast aid).safe = true from hsafe, Bool.or_true]
  refine ⟨?_, rfl, ?_⟩
  · rw [tick_discrete, discrete_of_accepted, hflown, if_pos rfl]
  · exact tick_torque hflown

end AdvancedFlightComputer

/-! ## Both computers -/

/-- What is claimed of the parachutes of the local computer over a run. -/
structure LocalFlightComputer.Deploys (c : LocalFlightComputer) (calls : List Call) : Prop where
  announced : (voice c.config).Announces c calls
  safed : Meets call Safes c calls

structure AdvancedFlightComputer.Deploys (c : AdvancedFlightComputer) (calls : List Call) : Prop where
  announced : (voice c.localFlight.config).Announces c calls
  safed : Meets call Safes c calls

/-- A deployment is latched in a release whose command is replaced. -/
def LocalFlightComputer.LosesDeployment (c : LocalFlightComputer) (i : Call) : Prop :=
  c.inhibits i = true ∧ (Call.deploys deploysDrogue c i = true ∨ Call.deploys deploysMain c i = true)

def AdvancedFlightComputer.LosesDeployment (c : AdvancedFlightComputer) (i : Call) : Prop :=
  c.inhibits i = true
    ∧ (LocalFlightComputer.Call.deploys LocalFlightComputer.deploysDrogue c.localFlight (c.localCall i) = true
      ∨ LocalFlightComputer.Call.deploys LocalFlightComputer.deploysMain c.localFlight (c.localCall i) = true)

theorem LocalFlightComputer.deploys_iff {c : LocalFlightComputer} (hfresh : c.drogueLatched = false)
    (calls : List Call) :
    c.Deploys calls ↔ Meets call (fun c i ↦ ¬c.LosesDeployment i) c calls := by
  have hiff := @StagedLatches.Voice.announces_iff _ _ _ _ _ (voice c.config) c calls rfl hfresh
  exact ⟨fun h ↦ hiff.mp h.announced,
    fun h ↦ ⟨hiff.mpr h, meets_iff_forall.mpr fun _ _ _ _ ↦ safes _ _⟩⟩

theorem AdvancedFlightComputer.deploys_iff {c : AdvancedFlightComputer}
    (hfresh : c.localFlight.drogueLatched = false) (calls : List Call) :
    c.Deploys calls ↔ Meets call (fun c i ↦ ¬c.LosesDeployment i) c calls := by
  have hiff := @StagedLatches.Voice.announces_iff _ _ _ _ _ (voice c.localFlight.config) c calls rfl
    hfresh
  exact ⟨fun h ↦ hiff.mp h.announced,
    fun h ↦ ⟨hiff.mpr h, meets_iff_forall.mpr fun _ _ _ _ ↦ safes _ _⟩⟩

/-- A run whose last call latches the drogue and does not command it. -/
theorem LocalFlightComputer.not_deploys {c : LocalFlightComputer} {calls : List Call} {i : Call}
    (hfree : (run call c calls).drogueLatched = false)
    (hlatched : ((run call c calls).call i).drogueLatched = true)
    (hquiet : ¬Commands localCommandDrogue (run call c calls) i) : ¬c.Deploys (calls ++ [i]) :=
  fun h ↦ hquiet ((meets_append.mp h.announced.latched).2.1.1.mp ⟨hfree, hlatched⟩)

theorem AdvancedFlightComputer.not_deploys {c : AdvancedFlightComputer} {calls : List Call} {i : Call}
    (hfree : (run call c calls).localFlight.drogueLatched = false)
    (hlatched : ((run call c calls).call i).localFlight.drogueLatched = true)
    (hquiet : ¬Commands advancedCommandDrogue (run call c calls) i) : ¬c.Deploys (calls ++ [i]) :=
  fun h ↦ hquiet ((meets_append.mp h.announced.latched).2.1.1.mp ⟨hfree, hlatched⟩)

theorem LocalFlightComputer.new_eq_some {config : LocalFlightConfig} {position : Vec3}
    {attitude : Vector Int16 3} {c : LocalFlightComputer} (h : new config position attitude = some c) :
    c.drogueLatched = false := by
  unfold new at h
  split at h
  · cases h
    rfl
  · cases h

theorem AdvancedFlightComputer.new_eq_some {config : AdvancedFlightConfig} {position : Vec3}
    {attitude : Vector Int16 3} {c : AdvancedFlightComputer}
    (h : new config position attitude = some c) : c.localFlight.drogueLatched = false := by
  unfold new at h
  split at h
  · cases h
    rfl
  · cases h

def hasteConfig : LocalFlightConfig where
  session := 0x8501
  capability := .monitorOnly
  minimumArmingTimeQ18 := 0
  minimumArmingAltitudeQ13 := 0
  burnoutQualificationTimeQ18 := 1
  drogueBackupTimeQ18 := 2
  mainBackupTimeQ18 := 3
  mainAltitudeQ13 := 1
  minimumDeploymentSeparationQ18 := 1
  proportionalGainQ15 := 0
  derivativeGainQ15 := 0
  gimbalLimitQ15 := 0

def advancedHasteConfig : AdvancedFlightConfig where
  localFlight := hasteConfig
  rollProportionalGainQ15 := 0
  rollDerivativeGainQ15 := 0
  torqueLimitQ12 := Axes.all 1
  fallbackDensityUpperQ10 := 1
  maximumWindQ19 := 0
  minimumSoundSpeedMps := 1
  maximumNavigationSpeedMps := 1
  propellantWetQ21 := 1
  reserveQ15 := 0

theorem hasteConfig_valid : hasteConfig.isValid = true := by decide

theorem advancedHasteConfig_valid : advancedHasteConfig.isValid = true := by decide +kernel

def haste : LocalFlightComputer := .fresh hasteConfig hasteConfig_valid (Axes.all 0) (Axes.all 0)

def advancedHaste : AdvancedFlightComputer :=
  .fresh advancedHasteConfig advancedHasteConfig_valid (Axes.all 0) (Axes.all 0)

theorem new_haste : LocalFlightComputer.new hasteConfig (Axes.all 0) (Axes.all 0) = some haste :=
  dif_pos hasteConfig_valid

theorem new_advancedHaste :
    AdvancedFlightComputer.new advancedHasteConfig (Axes.all 0) (Axes.all 0) = some advancedHaste :=
  dif_pos advancedHasteConfig_valid

/-- A launch at the ninth release. -/
def launchCell : LocalInertialCell :=
  ⟨0x8501, 8, 8, 7, 0, Axes.all 0, Axes.all 0, Axes.of 0 0 2000, Pair.of 0 0, 2, 0⟩

def launchAid : LocalAidCell :=
  ⟨0x8501, 8, 8, 8, 0, 0, 0, Axes.all 0, Axes.all 0, Axes.all 0, 1, 0, 0, 0⟩

def climbCell (epoch : UInt16) : AdvancedFastSensorCell :=
  ⟨0x8501, epoch, epoch, 7, Axes.all 0, Axes.all 0, Axes.of 0 0 2000, 0, 0, Pair.of 0 0,
    .replicate 4 0, 0, 0, 0, 2, 0, 0⟩

def climbAid : AdvancedAidCell :=
  ⟨0x8501, 12, 12, 8, 0, 0, 0, Axes.all 0, Axes.all 0, Axes.all 0, 1, 0, 0, 0⟩

/-- Eight releases without a cell. -/
def silence : List LocalFlightComputer.Call := .replicate 8 (.tick none none)

/-- Twelve releases of a climb. -/
def climb : List AdvancedFlightComputer.Call :=
  (List.range 12).map fun epoch ↦ .tick (some (climbCell (.ofNat epoch))) none

theorem silence_launch : (run LocalFlightComputer.call haste silence).drogueLatched = false
    ∧ ((run LocalFlightComputer.call haste silence).call
        (.tick (some launchCell) (some launchAid))).drogueLatched = true
    ∧ ((run LocalFlightComputer.call haste silence).tick (some launchCell)
        (some launchAid)).1.command.discrete = localCommandSafe :=
  ⟨by decide +kernel, by decide +kernel, by decide +kernel⟩

theorem climb_gap : (run AdvancedFlightComputer.call advancedHaste climb).localFlight.drogueLatched
      = false
    ∧ ((run AdvancedFlightComputer.call advancedHaste climb).call
        (.tick none (some climbAid))).localFlight.drogueLatched = true
    ∧ ((run AdvancedFlightComputer.call advancedHaste climb).tick none
        (some climbAid)).1.command.discrete = 0 :=
  ⟨by decide +kernel, by decide +kernel, by decide +kernel⟩

end Ksa64.Flight
