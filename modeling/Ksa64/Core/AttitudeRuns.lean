import Ksa64.Core.ScaledArithmetic
import Ksa64.Library.Renormalising
import Mathlib.Tactic.FinCases

/-!
# The attitude does not drift

Every step of the rigid body turns the attitude by a rounded product, which is perpendicular to it
up to rounding, and renormalises it.  So as long as no fault is recorded, the attitude is a unit
quaternion up to sixteen units of its last place after every step, however many steps there are.
-/

namespace Ksa64.Core

open Ksa64.Library Quadruple

/-- If no fault is recorded, the result is a `Q`. -/
abbrev Clean {α : Type} (x : NumericM α) (Q : α → Prop) : Prop :=
  Establishes NumericStatus.Clear x Q

section Operations

variable {a b : Int32} {shift : UInt8} {fault : NumericFault}

/-- A recorded fault is not clean. -/
theorem clean_recordFault : Clean (recordFault fault) fun _ ↦ False :=
  fun s h ↦ absurd h (not_clear_record s fault)

theorem clean_multiplyScaled (hpos : 0 < shift.toNat) (hshift : shift.toNat ≤ 31) :
    Clean (multiplyScaled a b shift) fun r ↦
      2 * |a.toInt * b.toInt - r.toInt * 2 ^ shift.toNat| ≤ 2 ^ shift.toNat :=
  .of_reflects fun _ h ↦ multiplyScaled_near rfl h hpos hshift

theorem clean_divideScaled (hb : 0 < b.toInt) (hshift : shift.toNat ≤ 31) :
    Clean (divideScaled a b shift) fun r ↦
      2 * |a.toInt * 2 ^ shift.toNat - r.toInt * b.toInt| ≤ b.toInt :=
  .of_reflects fun _ h ↦ divideScaled_near rfl h hb hshift

theorem clean_add : Clean (add a b) fun r ↦ r.toInt = a.toInt + b.toInt :=
  .of_reflects fun _ h ↦ add_exact rfl h

theorem clean_subtract : Clean (subtract a b) fun r ↦ r.toInt = a.toInt - b.toInt :=
  .of_reflects fun _ h ↦ subtract_exact rfl h

theorem clean_sqrtFloorScaledU32 {value : UInt32} (hshift : shift.toNat ≤ 31) :
    Clean (sqrtFloorScaledU32 value shift) fun r ↦
      IsFloorRoot (value.toNat * 2 ^ shift.toNat) r.toNat := by
  refine .of_reflects fun s _ ↦ ?_
  have hlarge : ¬31 < shift := fun hlt ↦ absurd (UInt8.lt_iff_toNat_lt.mp hlt) (not_lt.mpr hshift)
  unfold sqrtFloorScaledU32
  rw [if_neg hlarge, ← shiftLeft32_toNat hshift]
  exact sqrtFloorUnsigned64_isFloorRoot

end Operations

namespace QuaternionQ30

variable {q q' : QuaternionQ30}

/-- The components as numbers. -/
def components (q : QuaternionQ30) : Quadruple := ![q.w.toInt, q.x.toInt, q.y.toInt, q.z.toInt]

/-- The exact square of the norm, in squares of the last place. -/
def exactNormSquared (q : QuaternionQ30) : Int :=
  q.w.toInt ^ 2 + q.x.toInt ^ 2 + q.y.toInt ^ 2 + q.z.toInt ^ 2

theorem squares_components : q.components.squares = q.exactNormSquared :=
  Fin.sum_univ_four _

/-- The sum of the four rounded squares. -/
theorem clean_normSquared : Clean q.normSquaredQ30 fun n ↦
    ∃ rounded : Quadruple, n.toInt = ∑ i, rounded i ∧
      ∀ i, 2 * |q.components i ^ 2 - rounded i * 2 ^ 30| ≤ 2 ^ 30 := by
  have hsquare : ∀ a : Int32, Clean (multiplyScaled a a 30) fun r ↦
      2 * |a.toInt ^ 2 - r.toInt * 2 ^ 30| ≤ 2 ^ 30 := by
    intro a
    rw [sq]
    exact clean_multiplyScaled (by decide) (by decide)
  refine .bind (hsquare q.w) fun ww ↦ .bind (hsquare q.x) fun xx ↦ .bind clean_add fun wx ↦
    .bind (hsquare q.y) fun yy ↦ .bind (hsquare q.z) fun zz ↦ .bind clean_add fun yz ↦
    clean_add.mono ?_
  rintro n hn hyz hzz hyy hwx hxx hww
  refine ⟨![ww.toInt, xx.toInt, yy.toInt, zz.toInt], ?_, ?_⟩
  · rw [Fin.sum_univ_four]
    show _ = ww.toInt + xx.toInt + yy.toInt + zz.toInt
    omega
  · intro i
    fin_cases i
    · exact hww
    · exact hxx
    · exact hyy
    · exact hzz

/-- A quaternion is renormalised. -/
theorem clean_normalized : Clean q.normalized fun q' ↦ ∃ rounded root,
    0 < root ∧ Renormalises (2 ^ 30) q.components q'.components rounded root := by
  unfold normalized
  refine .bind clean_normSquared fun n ↦ ?_
  split_ifs with hn
  · refine .bind clean_recordFault fun _ ↦ .pure ?_
    exact fun h ↦ h.elim
  · refine .bind (clean_sqrtFloorScaledU32 (by decide)) fun norm ↦ ?_
    split_ifs with hnorm
    · refine .bind clean_recordFault fun _ ↦ .pure ?_
      exact fun h ↦ h.elim
    · rw [not_or, UInt32.lt_iff_toNat_lt] at hnorm
      have hlarge : (0x7fffffff : UInt32).toNat = 2 ^ 31 - 1 := rfl
      have hroot : norm.toInt32.toInt = norm.toNat := by
        show norm.toBitVec.toInt = _
        exact BitVec.toInt_eq_toNat_of_lt (by show 2 * norm.toNat < 2 ^ 32; omega)
      have hpos : 0 < norm.toInt32.toInt := by
        have hne : norm.toNat ≠ 0 := fun h ↦ hnorm.1 (UInt32.toNat_inj.mp h)
        omega
      have hquotient : ∀ a : Int32, Clean (divideScaled a norm.toInt32 30) fun r ↦
          2 * |a.toInt * 2 ^ 30 - r.toInt * norm.toInt32.toInt| ≤ norm.toInt32.toInt :=
        fun a ↦ clean_divideScaled hpos (by decide)
      refine .bind (hquotient q.w) fun w ↦ .bind (hquotient q.x) fun x ↦ .bind (hquotient q.y)
        fun y ↦ .bind (hquotient q.z) fun z ↦ .pure ?_
      rintro hz hy hx hw ⟨hle, hlt⟩ ⟨rounded, hsum, hsquare⟩
      rw [Int32.le_iff_toInt_le, not_le] at hn
      have hn' : n.toInt.toNat = n.toUInt32.toNat :=
        (Int32.toNat_toUInt32_of_le (Int32.le_iff_toInt_le.mpr hn.le)).symm
      have hcast : (n.toUInt32.toNat : Int) = ∑ i, rounded i := by
        rw [← hn', ← hsum]
        exact Int.toNat_of_nonneg hn.le
      refine ⟨rounded, norm.toInt32.toInt, hpos, hsquare, ?_, ?_, ?_⟩
      · rw [hroot, ← hcast]
        exact_mod_cast hle
      · rw [hroot, ← hcast]
        exact_mod_cast hlt
      · intro i
        fin_cases i
        · exact hw
        · exact hx
        · exact hy
        · exact hz

end QuaternionQ30

/-! ## One step -/

section Step

variable {attitude : QuaternionQ30} {rate : GlobalAngularRateVec} {timestep : Int32}

open QuaternionQ30

/-- The opposite product is rounded as well. -/
theorem rounded_neg {a r : Int} (h : 2 * |a - r * 2 ^ 30| ≤ 2 ^ 30) :
    2 * |-a - -r * 2 ^ 30| ≤ 2 ^ 30 := by
  rw [← abs_neg]
  convert h using 3
  ring

/-- The errors of three products add up. -/
theorem three_rounded {a b c r s t : Int} (ha : 2 * |a - r * 2 ^ 30| ≤ 2 ^ 30)
    (hb : 2 * |b - s * 2 ^ 30| ≤ 2 ^ 30) (hc : 2 * |c - t * 2 ^ 30| ≤ 2 ^ 30) :
    2 * |a + b + c - (r + s + t) * 2 ^ 30| ≤ 3 * 2 ^ 30 := by
  have hsum := abs_add_three (a - r * 2 ^ 30) (b - s * 2 ^ 30) (c - t * 2 ^ 30)
  have hterms : a + b + c - (r + s + t) * 2 ^ 30
      = a - r * 2 ^ 30 + (b - s * 2 ^ 30) + (c - t * 2 ^ 30) := by ring
  rw [hterms]
  omega

/-- The attitude is turned, and then renormalised. -/
theorem clean_integrateAttitude : Clean (integrateAttitude attitude rate timestep) fun q ↦
    ∃ product velocity change rounded root,
      Turns (2 ^ 30) (2 ^ 11) timestep.toInt attitude.components product velocity change ∧
      0 < root ∧ Renormalises (2 ^ 30) (attitude.components + change) q.components rounded root := by
  have hproduct : ∀ a b : Int32, Clean (multiplyScaled a b 30) fun r ↦
      2 * |a.toInt * b.toInt - r.toInt * 2 ^ 30| ≤ 2 ^ 30 :=
    fun a b ↦ clean_multiplyScaled (by decide) (by decide)
  have hscaled : ∀ a : Int32, Clean (multiplyScaled a timestep 11) fun r ↦
      2 * |a.toInt * timestep.toInt - r.toInt * 2 ^ 11| ≤ 2 ^ 11 :=
    fun a ↦ clean_multiplyScaled (by decide) (by decide)
  rcases attitude with ⟨w, x, y, z⟩
  rcases rate with ⟨wx, wy, wz⟩
  unfold integrateAttitude
  dsimp only
  refine .bind (hproduct x wx) fun xwx ↦ .bind clean_subtract fun d₁ ↦
    .bind (hproduct y wy) fun ywy ↦ .bind clean_subtract fun d₂ ↦
    .bind (hproduct z wz) fun zwz ↦ .bind clean_subtract fun dw ↦
    .bind (hproduct w wx) fun wwx ↦ .bind (hproduct y wz) fun ywz ↦ .bind clean_add fun d₃ ↦
    .bind (hproduct z wy) fun zwy ↦ .bind clean_subtract fun d₄ ↦ .bind clean_add fun dx ↦
    .bind (hproduct w wy) fun wwy ↦ .bind (hproduct z wx) fun zwx ↦ .bind clean_add fun d₅ ↦
    .bind (hproduct x wz) fun xwz ↦ .bind clean_subtract fun d₆ ↦ .bind clean_add fun dy ↦
    .bind (hproduct w wz) fun wwz ↦ .bind (hproduct x wy) fun xwy ↦ .bind clean_add fun d₇ ↦
    .bind (hproduct y wx) fun ywx ↦ .bind clean_subtract fun d₈ ↦ .bind clean_add fun dz ↦
    .bind (hscaled dw) fun vw ↦ .bind clean_add fun pw ↦
    .bind (hscaled dx) fun vx ↦ .bind clean_add fun px ↦
    .bind (hscaled dy) fun vy ↦ .bind clean_add fun py ↦
    .bind (hscaled dz) fun vz ↦ .bind clean_add fun pz ↦ clean_normalized.mono ?_
  rintro q ⟨rounded, root, hroot, hnormal⟩ hpz hvz hpy hvy hpx hvx hpw hvw hdz hd₈ hywx hd₇ hxwy hwwz
    hdy hd₆ hxwz hd₅ hzwx hwwy hdx hd₄ hzwy hd₃ hywz hwwx hdw hzwz hd₂ hywy hd₁ hxwx
  refine ⟨![-(x.toInt * wx.toInt) - y.toInt * wy.toInt - z.toInt * wz.toInt,
      w.toInt * wx.toInt + y.toInt * wz.toInt - z.toInt * wy.toInt,
      w.toInt * wy.toInt + z.toInt * wx.toInt - x.toInt * wz.toInt,
      w.toInt * wz.toInt + x.toInt * wy.toInt - y.toInt * wx.toInt],
    ![dw.toInt, dx.toInt, dy.toInt, dz.toInt], ![vw.toInt, vx.toInt, vy.toInt, vz.toInt],
    rounded, root, ⟨?_, ?_, ?_⟩, hroot, ?_⟩
  · unfold dot components
    rw [Fin.sum_univ_four]
    show w.toInt * _ + x.toInt * _ + y.toInt * _ + z.toInt * _ = 0
    dsimp only [Matrix.cons_val]
    ring
  · have hzero : (0 : Int32).toInt = 0 := rfl
    have hw := three_rounded hxwx hywy hzwz
    have hx := three_rounded hwwx hywz (rounded_neg hzwy)
    have hy := three_rounded hwwy hzwx (rounded_neg hxwz)
    have hz := three_rounded hwwz hxwy (rounded_neg hywx)
    intro i
    fin_cases i
    · show 2 * |-(x.toInt * wx.toInt) - y.toInt * wy.toInt - z.toInt * wz.toInt
        - dw.toInt * 2 ^ 30| ≤ 3 * 2 ^ 30
      rw [hdw, hd₂, hd₁, hzero, ← abs_neg]
      convert hw using 3
      ring
    · show 2 * |w.toInt * wx.toInt + y.toInt * wz.toInt - z.toInt * wy.toInt
        - dx.toInt * 2 ^ 30| ≤ 3 * 2 ^ 30
      rw [hdx, hd₃, hd₄, hzero]
      convert hx using 3
      ring
    · show 2 * |w.toInt * wy.toInt + z.toInt * wx.toInt - x.toInt * wz.toInt
        - dy.toInt * 2 ^ 30| ≤ 3 * 2 ^ 30
      rw [hdy, hd₅, hd₆, hzero]
      convert hy using 3
      ring
    · show 2 * |w.toInt * wz.toInt + x.toInt * wy.toInt - y.toInt * wx.toInt
        - dz.toInt * 2 ^ 30| ≤ 3 * 2 ^ 30
      rw [hdz, hd₇, hd₈, hzero]
      convert hz using 3
      ring
  · intro i
    fin_cases i
    · exact hvw
    · exact hvx
    · exact hvy
    · exact hvz
  · have hmoved : components ⟨w, x, y, z⟩ + ![vw.toInt, vx.toInt, vy.toInt, vz.toInt]
        = components ⟨pw, px, py, pz⟩ := by
      funext i
      fin_cases i
      · exact hpw.symm
      · exact hpx.symm
      · exact hpy.symm
      · exact hpz.symm
    rw [hmoved]
    exact hnormal

/-- A step without a fault leaves a unit quaternion, if there was one before. -/
theorem clean_integrateAttitude_near (htime : 0 ≤ timestep.toInt)
    (hlong : 31 * 2 ^ 60 ≤ 64 * attitude.exactNormSquared) :
    Clean (integrateAttitude attitude rate timestep) fun q ↦
      |q.exactNormSquared - 2 ^ 60| ≤ 16 * 2 ^ 30 := by
  refine clean_integrateAttitude.mono ?_
  rintro q ⟨product, velocity, change, rounded, root, hturns, hroot, hnormal⟩
  rw [← squares_components] at hlong ⊢
  have hpos : 0 < attitude.components.squares := by omega
  have hextent := @extent_le_squares (2 ^ 30) attitude.components (by omega)
  have hdot := hturns.dot_le (by decide) htime (by decide)
  have hbound := Int32.toInt_lt timestep
  have hturn : 128 * |attitude.components.dot change| ≤ attitude.components.squares := by
    have hmul : (3 * timestep.toInt + 2 ^ 11) * attitude.components.extent
        ≤ (3 * 2 ^ 31 + 2 ^ 11) * attitude.components.extent :=
      mul_le_mul_of_nonneg_right (by omega) extent_nonneg
    omega
  have hkept := squares_kept hturn hpos
  have hsquares := abs_le.mp hnormal.squares_near
  have hlt := hnormal.lt_root
  have hlarge : (2 : Int) ^ 30 ≤ 2 * root := by
    by_contra hsmall
    have hsmall' : root + 1 ≤ 2 ^ 29 := by omega
    have hsq : (root + 1) ^ 2 ≤ (2 ^ 29) ^ 2 := pow_le_pow_left₀ (by omega) hsmall' 2
    omega
  exact hnormal.near (by decide) hlarge

variable {state : GlobalRigidBodyState} {inertia : GlobalDiagonalInertiaQ19}
  {torque : GlobalBodyTorque}

/-- The norm after a step that records no fault. -/
theorem clean_stepGlobalRigidBody_near
    (hlong : 31 * 2 ^ 60 ≤ 64 * state.attitude.exactNormSquared) :
    Clean (stepGlobalRigidBody state inertia torque timestep) fun after ↦
      |after.attitude.exactNormSquared - 2 ^ 60| ≤ 16 * 2 ^ 30 := by
  unfold stepGlobalRigidBody
  split_ifs with htime
  · refine .bind clean_recordFault fun _ ↦ .pure ?_
    exact fun h ↦ h.elim
  · rw [Int32.le_iff_toInt_le, not_le] at htime
    have hzero : (0 : Int32).toInt = 0 := rfl
    refine .bind .reflected fun acceleration ↦ .bind .reflected fun change ↦
      .bind .reflected fun nextRate ↦
      .bind (clean_integrateAttitude_near (by omega) hlong) fun nextAttitude ↦
      .bind .get fun status ↦ .pure ?_
    rintro hclear hnear - - -
    rw [if_pos (show status.isClear = true from hclear)]
    exact hnear

/-- A step that ends with a fault on record has changed nothing. -/
theorem stepGlobalRigidBody_fallsBack :
    FallsBack NumericStatus.Clear (stepGlobalRigidBody state inertia torque timestep) state := by
  unfold stepGlobalRigidBody
  split_ifs
  · exact .bind fun _ ↦ .pure
  · refine .bind fun acceleration ↦ .bind fun change ↦ .bind fun nextRate ↦
      .bind fun nextAttitude ↦ .get ?_
    intro status hfault
    exact if_neg hfault

end Step

/-! ## Runs -/

/-- What a step is given besides the state. -/
structure RigidBodyInput where
  inertia : GlobalDiagonalInertiaQ19
  torque : GlobalBodyTorque
  timestep : Int32

/-- One step after the other, with one status. -/
def stepsGlobalRigidBody (state : GlobalRigidBodyState) (inputs : List RigidBodyInput) :
    NumericM GlobalRigidBodyState :=
  inputs.foldlM (fun state input ↦
    stepGlobalRigidBody state input.inertia input.torque input.timestep) state

namespace QuaternionQ30

variable {q : QuaternionQ30}

/-- Within sixteen units of the last place of one. -/
def NearUnit (q : QuaternionQ30) : Prop := |q.exactNormSquared - 2 ^ 60| ≤ 16 * 2 ^ 30

/-- A quaternion that has been normalised: its norm is one, or it is a result of `normalized`. -/
def Normalised (q : QuaternionQ30) : Prop :=
  q.NearUnit ∨ ∃ (source : QuaternionQ30) (status : NumericStatus),
    status.Clear ∧ source.normalized.run .clear = (q, status)

theorem NearUnit.long (h : q.NearUnit) : 31 * 2 ^ 60 ≤ 64 * q.exactNormSquared := by
  have hlow := (abs_le.mp h).1
  omega

/-- A normalised quaternion is at least about half a unit long, also if its source was so short that
the rounding of its squares doubled it. -/
theorem Normalised.long (h : q.Normalised) : 31 * 2 ^ 60 ≤ 64 * q.exactNormSquared := by
  rcases h with hnear | ⟨source, status, hclear, hrun⟩
  · exact hnear.long
  · obtain ⟨-, rounded, root, hroot, hnormal⟩ := clean_normalized (q := source) .clear (by
      rw [hrun]
      exact hclear)
    rw [hrun] at hnormal
    have hhalf := hnormal.half (by decide) hroot
    rw [squares_components] at hhalf
    exact hhalf

end QuaternionQ30

section Runs

variable {state : GlobalRigidBodyState}

instance {inputs : List RigidBodyInput} : Collects (stepsGlobalRigidBody state inputs) := by
  unfold stepsGlobalRigidBody
  induction inputs generalizing state with
  | nil => exact Reflects.pure
  | cons input inputs ih =>
    rw [List.foldlM_cons]
    exact Reflects.goesOn fun next ↦ ih

/-- The norm after a run that records no fault: every step starts with a quaternion that is long
enough, the first by assumption and the others because the step before has renormalised it. -/
theorem clean_stepsGlobalRigidBody_near (inputs : List RigidBodyInput)
    (hlong : 31 * 2 ^ 60 ≤ 64 * state.attitude.exactNormSquared) :
    Clean (stepsGlobalRigidBody state inputs) fun after ↦
      inputs ≠ [] → after.attitude.NearUnit := by
  induction inputs generalizing state with
  | nil => exact .pure fun h ↦ absurd rfl h
  | cons input inputs ih =>
    unfold stepsGlobalRigidBody
    rw [List.foldlM_cons]
    refine .bind (clean_stepGlobalRigidBody_near hlong) fun next ↦ ?_
    by_cases hnear : next.attitude.NearUnit
    · rcases inputs with _ | ⟨second, rest⟩
      · exact .pure fun _ _ ↦ hnear
      · refine (ih hnear.long).mono fun after hafter _ _ ↦ ?_
        exact hafter (List.cons_ne_nil second rest)
    · refine (Establishes.reflected (x := stepsGlobalRigidBody next inputs)).mono ?_
      exact fun _ _ hnear' ↦ absurd hnear' hnear

/-- However many steps are taken, the attitude stays a unit quaternion while no fault is recorded,
and a step that records one leaves the state as it was. -/
theorem attitude_stays_normalised :
    (∀ (state : GlobalRigidBodyState) (inputs : List RigidBodyInput),
      state.attitude.Normalised → inputs ≠ [] →
      ((stepsGlobalRigidBody state inputs).run .clear).2.Clear →
      ((stepsGlobalRigidBody state inputs).run .clear).1.attitude.NearUnit) ∧
    ∀ (state : GlobalRigidBodyState) (input : RigidBodyInput) (status : NumericStatus),
      ¬((stepGlobalRigidBody state input.inertia input.torque input.timestep).run status).2.Clear →
      ((stepGlobalRigidBody state input.inertia input.torque input.timestep).run status).1
        = state := by
  constructor
  · intro state inputs hnormal hsome hclear
    exact (clean_stepsGlobalRigidBody_near inputs hnormal.long .clear hclear).2 hsome
  · intro state input status hfault
    exact stepGlobalRigidBody_fallsBack status hfault

/-- A body at rest takes a step. -/
def restingBody : GlobalRigidBodyState := ⟨.identity, .zero⟩

def unitInput : RigidBodyInput := ⟨⟨524288, 524288, 524288⟩, ⟨4096, 0, 0⟩, 65536⟩

theorem attitude_stays_normalised_once :
    ((stepsGlobalRigidBody restingBody [unitInput]).run .clear).1.attitude.NearUnit := by
  refine attitude_stays_normalised.1 restingBody [unitInput] (.inl ?_) (List.cons_ne_nil _ _) ?_
  · show |QuaternionQ30.identity.exactNormSquared - 2 ^ 60| ≤ 16 * 2 ^ 30
    decide
  · show NumericStatus.isClear _ = true
    decide +kernel

end Runs

end Ksa64.Core
