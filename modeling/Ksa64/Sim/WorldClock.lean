import Ksa64.Core.Products
import Ksa64.Sim.WorldSteps

/-!
# The clock of the world

A move that succeeds advances the time of the vehicle by its length, and one that fails leaves it
where it is.  On the rail and on the way down to the landing the length of the move is fixed, and it
is the length of the step because the time there is always a multiple of it.
-/

namespace Ksa64.Sim

open Ksa64.Library Ksa64.Core Ksa64.Interface

namespace GlobalWorldMachine

/-! ## Moves -/

section Moves

variable {w : GlobalWorldMachine}

/-- A time that is added and seen to be right is later by the addend. -/
theorem returns_checkedAdd {α : Type} {t : MissionTimeQ16} {dt : UInt32} {P : α → Prop}
    {f : MissionTimeQ16 → GuardedM GlobalWorldError α}
    (hf : ∀ t' : MissionTimeQ16, t'.raw.toNat = t.raw.toNat + dt.toNat → Returns (f t') P) :
    Returns (do
      let t' ← t.checkedAdd dt
      requireClear GlobalWorldError.numeric
      f t' : GuardedM GlobalWorldError α) P := by
  rintro s a s' h
  obtain ⟨t', s₁, htime, hrest⟩ := bind_ok h
  obtain ⟨u, s₂, hclear, hrest⟩ := bind_ok hrest
  exact hf t' (checkedAdd_advances (lift_ok htime) (requireClear_ok hclear).1) _ _ _ hrest

theorem launchMove_time {state : LocalKinematicState} {move : LocalMove}
    (h : w.launchMove state = .ok move) :
    move.state.time.raw.toNat = state.time.raw.toNat + 512 := by
  unfold launchMove at h
  refine guarded_returns (P := fun m : LocalMove ↦
    m.state.time.raw.toNat = state.time.raw.toNat + 512) ?_ h
  dsimp only
  iterate 14 refine returns_bind fun _ ↦ ?_
  refine returns_checkedAdd fun t ht ↦ ?_
  refine returns_bind fun _ ↦ returns_pure ?_
  exact ht

theorem recoveryMove_time {state : LocalKinematicState} {move : LocalMove}
    (h : w.recoveryMove state = .ok move) :
    move.state.time.raw.toNat = state.time.raw.toNat + 2048 := by
  unfold recoveryMove at h
  refine guarded_returns (P := fun m : LocalMove ↦
    m.state.time.raw.toNat = state.time.raw.toNat + 2048) ?_ h
  dsimp only
  iterate 9 refine returns_bind fun _ ↦ ?_
  refine returns_checkedAdd fun t ht ↦ returns_pure ?_
  exact ht

theorem globalSuccessor_time {current next : GlobalKinematicState} {m : Midpoint} {i : Increments}
    {dt : UInt32} {controlled : Bool} {s : NumericStatus}
    (h : ((w.globalSuccessor current m i dt controlled).run s).1 = .ok next) :
    next.time.raw.toNat = current.time.raw.toNat + dt.toNat := by
  have hrun : (w.globalSuccessor current m i dt controlled).run.run s
      = (.ok next, ((w.globalSuccessor current m i dt controlled).run.run s).2) :=
    Prod.ext h rfl
  unfold globalSuccessor at hrun
  obtain ⟨velocity, s₁, -, hrest⟩ := bind_ok hrun
  obtain ⟨position, s₂, -, hrest⟩ := bind_ok hrest
  obtain ⟨time, s₃, htime, hrest⟩ := bind_ok hrest
  have hclose : ∀ {rigid : GlobalRigidBodyState} {s₄ s' : NumericStatus},
      (do
        requireClear GlobalWorldError.numeric
        return ⟨position, velocity, rigid.attitude, rigid.angularRate, time⟩ :
          GuardedM GlobalWorldError GlobalKinematicState).run.run s₄ = (.ok next, s') →
        s₄.Clear ∧ time = next.time := fun h ↦ by
    obtain ⟨u, s₅, hclear, hrest⟩ := bind_ok h
    exact ⟨(requireClear_ok hclear).1, congrArg GlobalKinematicState.time (pure_ok hrest).1⟩
  dsimp only at hrest
  -- The rigid body only adds faults, so the time has been added without one.
  have htimeClear : s₃.Clear ∧ time = next.time := by
    split at hrest
    · obtain ⟨inertia, s₄, hinertia, hrest⟩ := bind_ok hrest
      obtain ⟨rigid, s₅, hrigid, hrest⟩ := bind_ok hrest
      obtain ⟨hclear, hnext⟩ := hclose hrest
      rw [(except_ok hinertia).2]
      exact ⟨clear_before (lift_ok hrigid) hclear, hnext⟩
    · obtain ⟨attitude, s₄, hattitude, hrest⟩ := bind_ok hrest
      obtain ⟨rigid, s₅, hrigid, hrest⟩ := bind_ok hrest
      obtain ⟨hclear, hnext⟩ := hclose hrest
      rw [(except_ok hattitude).2, (pure_ok hrigid).2]
      exact ⟨hclear, hnext⟩
  rw [← htimeClear.2]
  exact checkedAdd_advances (lift_ok htime) htimeClear.1

end Moves

/-! ## The motor's propellant -/

section Motor

variable {w : GlobalWorldMachine} {dt : UInt32}

/-- The smaller of two signed words. -/
theorem min_int32 (a b : Int32) : min a b = a ∧ a ≤ b ∨ min a b = b ∧ b ≤ a := by
  show (if a ≤ b then a else b) = a ∧ a ≤ b ∨ (if a ≤ b then a else b) = b ∧ b ≤ a
  split_ifs with h
  · exact .inl ⟨rfl, h⟩
  · exact .inr ⟨rfl, Int32.le_of_lt (Int32.not_le.mp h)⟩

/-- The smaller of two words is at most the first. -/
theorem min_le_left32 (a b : UInt32) : min a b ≤ a := by
  rw [UInt32.le_iff_toNat_le, toNat_min32]
  exact Nat.min_le_left a.toNat b.toNat

/-- What a word takes of another one leaves the rest of it. -/
theorem subtract_min {a flow : Int32} (ha : 0 ≤ a) (hflow : 0 ≤ flow) (s : NumericStatus) :
    ∃ r, (subtract a (min flow a)).run s = (r, s) ∧ 0 ≤ r ∧ r ≤ a := by
  have hmin : 0 ≤ min flow a ∧ min flow a ≤ a := by
    rcases min_int32 flow a with ⟨heq, h⟩ | ⟨heq, -⟩
    · rw [heq]
      exact ⟨hflow, h⟩
    · rw [heq]
      exact ⟨ha, Int32.le_refl a⟩
  generalize min flow a = taken at hmin ⊢
  have ha' := Int32.le_iff_toInt_le.mp ha
  have htaken := Int32.le_iff_toInt_le.mp hmin.1
  have hle := Int32.le_iff_toInt_le.mp hmin.2
  have hzero : (0 : Int32).toInt = 0 := rfl
  have hbound := a.toInt_lt
  have hsub : (a - taken).toInt = a.toInt - taken.toInt := by
    rw [Int32.toInt_sub]
    exact Int.bmod_eq_of_le (by omega) (by omega)
  refine ⟨a - taken, ?_, ?_, ?_⟩
  · unfold subtract
    rw [if_neg, if_neg]
    · rfl
    · rintro ⟨hneg, -⟩
      have := Int32.lt_iff_toInt_lt.mp hneg
      omega
    · rintro ⟨-, hlow⟩
      have hlow' := Int32.lt_iff_toInt_lt.mp hlow
      rw [Int32.toInt_add, Int32.toInt_minValue] at hlow'
      rw [Int.bmod_eq_of_le (by omega) (by omega)] at hlow'
      omega
  · rw [Int32.le_iff_toInt_le, hsub]
    omega
  · rw [Int32.le_iff_toInt_le, hsub]
    omega

/-- A time of at most a release as a signed word. -/
theorem toInt32_short (h : dt ≤ 2048) : 0 ≤ dt.toInt32 ∧ dt.toInt32 ≤ 2048 := by
  have h' := UInt32.le_iff_toNat_le.mp h
  have hmax : (2048 : UInt32).toNat = 2048 := rfl
  have hint : dt.toInt32.toInt = dt.toNat := by
    show dt.toBitVec.toInt = _
    exact BitVec.toInt_eq_toNat_of_lt (by show 2 * dt.toNat < 2 ^ 32; omega)
  refine ⟨nonneg_toInt32 (by omega), ?_⟩
  rw [Int32.le_iff_toInt_le, hint]
  show (dt.toNat : Int) ≤ 2048
  omega

/-- The motor is charged without a fault, and what it takes is there. -/
theorem consumeMainPropellant_ok (hflow : 0 ≤ w.vehicle.mainMassFlowQ21KgS)
    (hmain : 0 ≤ w.mainPropellantQ21) (hdt : dt ≤ 2048) :
    (w.consumeMainPropellant dt).1 = .ok ()
      ∧ 0 ≤ (w.consumeMainPropellant dt).2.mainPropellantQ21
      ∧ (w.consumeMainPropellant dt).2.mainPropellantQ21 ≤ w.mainPropellantQ21 := by
  unfold consumeMainPropellant
  dsimp only
  split
  · exact ⟨rfl, hmain, Int32.le_refl _⟩
  · have hactive : min dt (w.vehicle.burnTimeQ16S
        - (w.currentTime.raw - min w.currentTime.raw dt)) ≤ 2048 :=
      UInt32.le_trans (min_le_left32 _ _) hdt
    generalize min dt (w.vehicle.burnTimeQ16S
      - (w.currentTime.raw - min w.currentTime.raw dt)) = active at hactive ⊢
    obtain ⟨hnonneg, hshort⟩ := toInt32_short hactive
    obtain ⟨flow, hrun, hpositive⟩ := multiplyScaled_short hflow hnonneg hshort .clear
    obtain ⟨rest, hrest, hbounds⟩ := subtract_min hmain hpositive .clear
    rw [show multiplyScaled w.vehicle.mainMassFlowQ21KgS active.toInt32 16 .clear = (flow, .clear)
      from hrun]
    dsimp only
    rw [show subtract w.mainPropellantQ21 (min flow w.mainPropellantQ21) .clear = (rest, .clear)
      from hrest]
    exact ⟨rfl, hbounds⟩

end Motor

/-! ## What a move does -/

section Move

variable {w : GlobalWorldMachine} {dt : UInt32} {controlled : Bool}

/-- The time by which a move advances the vehicle. -/
def moveLength (w : GlobalWorldMachine) (dt : UInt32) : UInt32 :=
  match w.segment with
  | .localLaunch => globalPoweredStepQ16
  | .ecefAscent | .eciCoast | .ecefEntry => dt
  | .localRecovery => globalCoastStepQ16

/-- A move fails and leaves the vehicle and its propellant, or it advances the vehicle by its
length and takes some of the propellant. -/
inductive MoveResult (w : GlobalWorldMachine) (length : UInt32)
    (t : Attempt GlobalWorldError GlobalWorldMachine Unit) : Prop where
  | failed (herror : t.Failed) (htime : t.2.currentTime = w.currentTime)
      (hmain : t.2.mainPropellantQ21 = w.mainPropellantQ21) : MoveResult w length t
  | advanced (hok : t.1 = .ok ())
      (htime : t.2.currentTime.raw.toNat = w.currentTime.raw.toNat + length.toNat)
      (hnonneg : 0 ≤ t.2.mainPropellantQ21)
      (hmain : t.2.mainPropellantQ21 ≤ w.mainPropellantQ21) : MoveResult w length t

theorem moveVehicle_result (hflow : 0 ≤ w.vehicle.mainMassFlowQ21KgS)
    (hmain : 0 ≤ w.mainPropellantQ21) (hdt : dt ≤ 2048) :
    MoveResult w (w.moveLength dt) (w.moveVehicle dt controlled) := by
  have hburn : ∀ (u : GlobalWorldMachine) (length : UInt32) (mach dynamic : Int32),
      u.vehicle = w.vehicle → u.mainPropellantQ21 = w.mainPropellantQ21 → length ≤ 2048 →
      u.currentTime.raw.toNat = w.currentTime.raw.toNat + length.toNat →
      MoveResult w length ((u.consumeMainPropellant length).andThen fun _ v ↦
        (.ok (), { v with machQ24 := mach, dynamicPressureQ14 := dynamic })) := by
    intro u length mach dynamic hvehicle hpropellant hlength htime
    obtain ⟨hok, hnonneg, hless⟩ := @consumeMainPropellant_ok u length
      (by rw [hvehicle]; exact hflow) (by rw [hpropellant]; exact hmain) hlength
    rw [Attempt.andThen_ok hok]
    refine .advanced rfl ?_ hnonneg (by rw [← hpropellant]; exact hless)
    rw [← htime, consumeMainPropellant_eq]
    rfl
  have hlocal : ∀ {state : LocalKinematicState}, w.coordinates = .localState state →
      w.currentTime = state.time := fun h ↦ by
    unfold currentTime
    rw [h]
  unfold moveVehicle moveLength
  cases w.segment with
  | localLaunch =>
      dsimp only
      unfold stepLocalLaunch
      split
      · exact .failed ⟨_, rfl⟩ rfl rfl
      · next state hstate =>
        split
        · exact .failed ⟨_, rfl⟩ rfl rfl
        · next move hmove =>
          refine hburn _ _ _ _ rfl rfl (by decide) ?_
          rw [hlocal hstate]
          exact launchMove_time hmove
  | localRecovery =>
      dsimp only
      unfold stepLocalRecovery
      split
      · exact .failed ⟨_, rfl⟩ rfl rfl
      · next state hstate =>
        split
        · exact .failed ⟨_, rfl⟩ rfl rfl
        · next move hmove =>
          refine .advanced rfl ?_ hmain (Int32.le_refl _)
          rw [hlocal hstate]
          exact recoveryMove_time hmove
  | ecefAscent | eciCoast | ecefEntry =>
      dsimp only
      unfold stepGlobal
      split
      · exact .failed ⟨_, rfl⟩ rfl rfl
      · next state hstate =>
        split
        · exact .failed ⟨_, rfl⟩ rfl rfl
        · dsimp only
          split
          split
          · exact .failed ⟨_, rfl⟩ rfl rfl
          · next next hnext =>
            refine hburn _ _ _ _ rfl rfl hdt ?_
            have htime : w.currentTime = state.time := by
              unfold currentTime
              rw [hstate]
            rw [htime]
            exact globalSuccessor_time hnext

end Move

/-! ## The length of a step -/

section Length

/-- The least of some words is one of them, and at most each of them. -/
theorem foldl_min_mem (xs : List UInt32) (m : UInt32) :
    (xs.foldl min m = m ∨ xs.foldl min m ∈ xs) ∧ xs.foldl min m ≤ m
      ∧ ∀ x ∈ xs, xs.foldl min m ≤ x := by
  induction xs generalizing m with
  | nil => exact ⟨.inl rfl, UInt32.le_refl m, nofun⟩
  | cons x xs ih =>
      obtain ⟨hmem, hle, hall⟩ := ih (min m x)
      have hmin : min m x = m ∧ m ≤ x ∨ min m x = x ∧ x ≤ m := by
        show (if m ≤ x then m else x) = m ∧ m ≤ x ∨ (if m ≤ x then m else x) = x ∧ x ≤ m
        split_ifs with h
        · exact .inl ⟨rfl, h⟩
        · exact .inr ⟨rfl, UInt32.le_of_lt (UInt32.not_le.mp h)⟩
      rw [List.foldl_cons]
      rcases hmin with ⟨heq, hx⟩ | ⟨heq, hm⟩
      · rw [heq] at hmem hle hall ⊢
        refine ⟨hmem.imp_right (List.mem_cons_of_mem x), hle, ?_⟩
        rintro y (_ | ⟨_, hy⟩)
        · exact UInt32.le_trans hle hx
        · exact hall y hy
      · rw [heq] at hmem hle hall ⊢
        refine ⟨.inr ?_, UInt32.le_trans hle hm, ?_⟩
        · rcases hmem with hfirst | hrest
          · rw [hfirst]
            exact List.mem_cons_self
          · exact List.mem_cons_of_mem x hrest
        · rintro y (_ | ⟨_, hy⟩)
          · exact hle
          · exact hall y hy

/-- The pulses that are left, as times. -/
def pulsesLeft (a : GlobalActuatorState) : List UInt32 :=
  (a.pulseRemainingQ16.toList.filter (· != 0)).map UInt16.toUInt32

theorem mem_pulsesLeft {a : GlobalActuatorState} {x : UInt32} (h : x ∈ pulsesLeft a) : 0 < x := by
  obtain ⟨pulse, hpulse, rfl⟩ := List.mem_map.mp h
  have hne : pulse ≠ 0 := by
    have hfilter := (List.mem_filter.mp hpulse).2
    rintro rfl
    cases hfilter
  rw [UInt32.lt_iff_toNat_lt]
  show 0 < pulse.toNat
  have hne' : pulse.toNat ≠ 0 := fun h0 ↦ hne (UInt16.toNat_inj.mp h0)
  omega

variable {w : GlobalWorldMachine}

/-- The time to the next multiple of the longest step. -/
theorem physicalStep_toNat : w.physicalStep.toNat =
    (maximumStep w.segment).toNat - w.currentTime.raw.toNat % (maximumStep w.segment).toNat := by
  have hpos : 0 < (maximumStep w.segment).toNat := by cases w.segment <;> decide
  have hlt := Nat.mod_lt w.currentTime.raw.toNat hpos
  unfold physicalStep
  dsimp only
  rw [UInt32.toNat_sub_of_le, UInt32.toNat_mod]
  rw [UInt32.le_iff_toNat_le, UInt32.toNat_mod]
  exact hlt.le

theorem maximumStep_le (segment : GlobalSegment) : (maximumStep segment).toNat ≤ 2048 := by
  cases segment <;> decide

/-- A step takes some time, but no longer than a release. -/
theorem stepLength_bounds (controlled : Bool) :
    0 < w.stepLength controlled ∧ w.stepLength controlled ≤ 2048
      ∧ w.stepLength controlled ≤ w.physicalStep := by
  have hphysical : 0 < w.physicalStep ∧ w.physicalStep ≤ 2048 := by
    have hpos : 0 < (maximumStep w.segment).toNat := by cases w.segment <;> decide
    have hlt := Nat.mod_lt w.currentTime.raw.toNat hpos
    have hle := maximumStep_le w.segment
    have hstep := w.physicalStep_toNat
    constructor
    · rw [UInt32.lt_iff_toNat_lt]
      show 0 < _
      omega
    · rw [UInt32.le_iff_toNat_le]
      show _ ≤ 2048
      omega
  unfold stepLength
  split
  · obtain ⟨hmem, hle, -⟩ := foldl_min_mem (pulsesLeft w.actuators) w.physicalStep
    refine ⟨?_, UInt32.le_trans hle hphysical.2, hle⟩
    show 0 < (pulsesLeft w.actuators).foldl min w.physicalStep
    rcases hmem with heq | hpulse
    · rw [heq]
      exact hphysical.1
    · exact mem_pulsesLeft hpulse
  · exact ⟨hphysical.1, hphysical.2, UInt32.le_refl _⟩

end Length

end GlobalWorldMachine

end Ksa64.Sim
