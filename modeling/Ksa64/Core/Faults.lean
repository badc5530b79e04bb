import Ksa64.Core.GlobalFrames
import Ksa64.Core.GlobalVehicle
import Ksa64.Library.Stateful

/-!
# Faults are not forgotten

A status word only collects faults: if it is clear after a computation, it was clear before.  So a
status that is clear at the end of a function shows that none of the operations in it has failed,
and with it that the mission time has advanced.  The conversions between frames keep the time.
-/

namespace Ksa64.Core

open Ksa64.Library

/-- No fault is recorded. -/
def NumericStatus.Clear (s : NumericStatus) : Prop := s.isClear = true

/-- A recorded fault is seen. -/
theorem not_clear_record (s : NumericStatus) (fault : NumericFault) : ¬(s.record fault).Clear := by
  intro h
  have hbits : s.bits ||| fault.bit = 0 := eq_of_beq h
  have hfault : fault.bit ≠ 0 := by cases fault <;> decide
  exact hfault (UInt8.or_eq_zero_iff.mp hbits).2

/-- A computation that only adds faults. -/
abbrev Collects {α : Type} (x : NumericM α) : Prop := Reflects NumericStatus.Clear x

/-- A status that is clear after such a computation was clear before it. -/
theorem clear_before {α : Type} {x : NumericM α} [hx : Collects x] {a : α} {s s' : NumericStatus}
    (h : x.run s = (a, s')) (hclear : s'.Clear) : s.Clear := hx.before s (by rw [h]; exact hclear)

instance {fault : NumericFault} : Collects (recordFault fault) :=
  ⟨fun s h ↦ absurd h (not_clear_record s fault)⟩

section Arithmetic

variable {n m k : Nat}

instance {value : Unsigned64} {negative : Bool} :
    Collects (signedFromMagnitude value negative) := by
  refine ⟨fun s h ↦ ?_⟩
  change NumericStatus.Clear (signedFromMagnitude value negative s).2 at h
  unfold signedFromMagnitude at h
  split_ifs at h
  all_goals first
    | exact h
    | exact absurd h (not_clear_record _ _)

instance {a b : Int32} {shift : UInt8} : Collects (multiplyScaled a b shift) := by
  unfold multiplyScaled
  infer_instance

instance {a b : Int32} {shift : UInt8} : Collects (divideScaled a b shift) := by
  unfold divideScaled
  infer_instance

instance {a b : Int32} : Collects (add a b) := by
  unfold add
  infer_instance

instance {a b : Int32} : Collects (subtract a b) := by
  unfold subtract
  infer_instance

instance {value : UInt32} {shift : UInt8} : Collects (sqrtFloorScaledU32 value shift) := by
  unfold sqrtFloorScaledU32
  infer_instance

instance {a b : FixedVec3 n} : Collects (a.checkedAdd b) := by
  unfold FixedVec3.checkedAdd
  infer_instance

instance {v : FixedVec3 n} {bits : UInt8} {scalar : Int32} : Collects (v.scale bits scalar) := by
  unfold FixedVec3.scale
  infer_instance

instance {q : QuaternionQ30} : Collects q.normSquaredQ30 := by
  unfold QuaternionQ30.normSquaredQ30
  infer_instance

instance {q : QuaternionQ30} : Collects q.normalized := by
  unfold QuaternionQ30.normalized
  infer_instance

end Arithmetic

/-! ## The rigid body -/

instance {d a b : Int32} : Collects (coupledTorqueQ12 d a b) := by
  unfold coupledTorqueQ12
  infer_instance

instance {inertia : GlobalDiagonalInertiaQ19} {rate : GlobalAngularRateVec}
    {torque : GlobalBodyTorque} : Collects (globalAngularAcceleration inertia rate torque) := by
  unfold globalAngularAcceleration
  split
  · infer_instance
  · repeat refine Reflects.goesOn fun _ ↦ ?_
    infer_instance

instance {attitude : QuaternionQ30} {rate : GlobalAngularRateVec} {timestep : Int32} :
    Collects (integrateAttitude attitude rate timestep) := by
  unfold integrateAttitude
  split
  split
  repeat refine Reflects.goesOn fun _ ↦ ?_
  infer_instance

instance {state : GlobalRigidBodyState} {inertia : GlobalDiagonalInertiaQ19}
    {torque : GlobalBodyTorque} {timestep : Int32} :
    Collects (stepGlobalRigidBody state inertia torque timestep) := by
  unfold stepGlobalRigidBody
  infer_instance

/-! ## Guards and times -/

section Guards

variable {ε α : Type} {e : ε} {s s' : NumericStatus} {t t' : MissionTimeQ16} {delta : UInt32}

/-- A guard that lets pass has seen a clear status. -/
theorem requireClear_ok {u : Unit} (h : (requireClear e).run.run s = (.ok u, s')) :
    s.Clear ∧ s' = s := by
  unfold requireClear at h
  obtain ⟨a, s₁, hget, hrest⟩ := bind_ok h
  cases hget
  cases hclear : s.isClear
  · rw [hclear] at hrest
    cases hrest
  · rw [hclear] at hrest
    cases hrest
    exact ⟨hclear, rfl⟩

/-- A result of a guarded function is one of its body. -/
theorem guarded_ok {x : GuardedM ε α} {a : α} (h : guarded x = .ok a) :
    ∃ s', x.run.run .clear = (.ok a, s') := ⟨(x.run.run .clear).2, Prod.ext h rfl⟩

/-- What every result of the body is, every result of the function is. -/
theorem guarded_returns {x : GuardedM ε α} {P : α → Prop} (hx : Returns x P) {a : α}
    (h : guarded x = .ok a) : P a :=
  have ⟨_, hbody⟩ := guarded_ok h
  hx _ _ _ hbody

/-- A time that has been added without a fault has advanced by the addend. -/
theorem checkedAdd_advances (h : (t.checkedAdd delta).run s = (t', s')) (hclear : s'.Clear) :
    t'.raw.toNat = t.raw.toNat + delta.toNat := by
  unfold MissionTimeQ16.checkedAdd at h
  split_ifs at h with hfits
  · cases h
    rw [show (t.raw + delta).toNat = (t.raw.toNat + delta.toNat) % 2 ^ 32 from
      UInt32.toNat_add t.raw delta]
    exact Nat.mod_eq_of_lt hfits.1
  · cases h
    exact absurd hclear (not_clear_record s .saturation)

end Guards

/-! ## Conversions -/

section Conversions

variable {anchor : LocalAnchor} {transform : InterpolatedTransform}

/-- The conversion of a local state keeps its time. -/
theorem localToEcef_time {state : LocalKinematicState} {after : GlobalKinematicState}
    (h : localToEcef anchor state = .ok after) : after.time = state.time := by
  refine guarded_returns (P := fun after ↦ after.time = state.time) ?_ h
  repeat refine returns_bind fun _ ↦ ?_
  exact returns_pure rfl

/-- The conversion to a local state keeps the time. -/
theorem ecefToLocal_time {state : GlobalKinematicState} {after : LocalKinematicState}
    (h : ecefToLocal anchor state = .ok after) : after.time = state.time := by
  refine guarded_returns (P := fun after ↦ after.time = state.time) ?_ h
  repeat refine returns_bind fun _ ↦ ?_
  exact returns_pure rfl

/-- The conversion to the inertial frame keeps the time. -/
theorem ecefToGcrf_time {state after : GlobalKinematicState}
    (h : ecefToGcrf transform state = .ok after) : after.time = state.time := by
  refine guarded_returns (P := fun after ↦ after.time = state.time) ?_ h
  dsimp only
  split
  all_goals
    repeat refine returns_bind fun _ ↦ ?_
    exact returns_pure rfl

/-- The conversion from the inertial frame keeps the time. -/
theorem gcrfToEcef_time {state after : GlobalKinematicState}
    (h : gcrfToEcef transform state = .ok after) : after.time = state.time := by
  refine guarded_returns (P := fun after ↦ after.time = state.time) ?_ h
  dsimp only
  split
  all_goals
    repeat refine returns_bind fun _ ↦ ?_
    exact returns_pure rfl

end Conversions

end Ksa64.Core
