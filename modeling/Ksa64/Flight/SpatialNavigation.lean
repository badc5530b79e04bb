import Ksa64.Flight.Phase10Math
import Ksa64.Interface.SpatialFrames
import Ksa64.Library.Attempt

/-!
# Spatial navigation

The aided inertial navigation of Phase 5.  An update that fails may have changed a part of the
estimate.  The arithmetic wraps where the source neither checks nor saturates.
-/

namespace Ksa64.Flight

open Ksa64.Library Ksa64.Interface

def earthRadiusQ12 : Int32 := 26124849
def earthMuQ12 : Int32 := 1632667410

inductive SpatialNavigationError where
  | sequence
  | missingInertial
  | numeric
deriving DecidableEq, Repr

structure SpatialNavigationState where
  sequence : UInt32
  timeQ16 : Int32
  positionQ12 : Vec3
  velocityQ24 : Vec3
  attitudeQ30 : Quaternion
  angularRateQ24 : Vec3
  gpsAided : Bool
  starAided : Bool
  barometerAided : Bool
  checksum : UInt32
deriving DecidableEq

structure SpatialNavigation where
  state : SpatialNavigationState
  initialized : Bool
deriving DecidableEq

namespace SpatialNavigation

/-! ## Numbers -/

/-- A component as a wide number. -/
def wide {n : Nat} (v : Vector Int32 n) (i : Nat) : Int64 := (v.toList.getD i 0).toInt64

/-- A wide number that fits into 32 bits. -/
def fit (value : Int64) : Option Int32 :=
  if value < -2147483648 ∨ 2147483647 < value then none else some value.toInt32

theorem size_quad (w x y z : Int32) : (#[w, x, y, z] : Array Int32).size = 4 := rfl

def quad (w x y z : Int32) : Quaternion := ⟨#[w, x, y, z], size_quad w x y z⟩

def initialAttitude : Quaternion := quad 1040703765 0 (-264305086) 0

/-- Newton steps; each makes the value smaller. -/
def isqrtLoop (value : UInt64) : Nat → UInt64 → UInt64
  | 0, x => x
  | fuel + 1, x =>
      let next := (x + value / x) >>> 1
      if x ≤ next then x else isqrtLoop value fuel next

def bitLength (value : UInt64) : UInt64 := .ofNat (Nat.log2 value.toNat + 1)

def isqrt (value : UInt64) : UInt64 :=
  if value < 2 then value
  else
    let x : UInt64 := 1 <<< ((bitLength value + 1) / 2)
    isqrtLoop value x.toNat x

def magnitude3 (v : Vec3) : Option Int32 :=
  let square (i : Nat) : UInt64 := (wide v i * wide v i).toUInt64
  let root := isqrt (square 0 + square 1 + square 2)
  if 2147483647 < root then none else some root.toUInt32.toInt32

/-- The Newton steps of the length of a quaternion, and its components over it. -/
def normalizeQuaternion (q : Quaternion) : Option Quaternion := do
  let square (i : Nat) : UInt64 := ((wide q i * wide q i) >>> 30).toUInt64
  let sum ← checkedAdd64 (square 0) (square 1)
  let sum ← checkedAdd64 sum (square 2)
  let sum ← checkedAdd64 sum (square 3)
  let norm := (isqrt (sum <<< 30)).toInt64
  if norm = 0 then none
  else
    let component (i : Nat) : Option Int32 := fit ((wide q i <<< (30 : Int64)) / norm)
    pure (quad (← component 0) (← component 1) (← component 2) (← component 3))

def rotateVector (q : Quaternion) (v : Vec3) : Option Vec3 := do
  let cross (a b c d : Nat) : Int64 := (wide q a * wide v b - wide q c * wide v d) >>> 30
  let twiceX := cross 2 2 3 1 * 2
  let twiceY := cross 3 0 1 2 * 2
  let twiceZ := cross 1 1 2 0 * 2
  let secondX := (wide q 2 * twiceZ - wide q 3 * twiceY) >>> 30
  let secondY := (wide q 3 * twiceX - wide q 1 * twiceZ) >>> 30
  let secondZ := (wide q 1 * twiceY - wide q 2 * twiceX) >>> 30
  let x ← fit (wide v 0 + ((wide q 0 * twiceX) >>> 30) + secondX)
  let y ← fit (wide v 1 + ((wide q 0 * twiceY) >>> 30) + secondY)
  let z ← fit (wide v 2 + ((wide q 0 * twiceZ) >>> 30) + secondZ)
  pure (Axes.of x y z)

def integrateQuaternion (q : Quaternion) (rate : Vec3) (dtQ16 : Int32) : Option Quaternion := do
  let part (a b : Nat) : Int64 := (wide q a * wide rate b) >>> 30
  let next (i : Nat) (product : Int64) : Option Int32 :=
    fit (wide q i + ((product * dtQ16.toInt64) >>> 11))
  let w ← next 0 (-(part 1 0 + part 2 1 + part 3 2))
  let x ← next 1 (part 0 0 + part 2 2 - part 3 1)
  let y ← next 2 (part 0 1 + part 3 0 - part 1 2)
  let z ← next 3 (part 0 2 + part 1 1 - part 2 0)
  normalizeQuaternion (quad w x y z)

def hashState (hash : UInt32) (state : SpatialNavigationState) : UInt32 :=
  let hash := hashWord hash state.sequence
  let hash := hashWord hash state.timeQ16.toUInt32
  let hash := (List.range 3).foldl (fun hash i ↦
    hashWord (hashWord (hashWord hash (state.positionQ12.toList.getD i 0).toUInt32)
      (state.velocityQ24.toList.getD i 0).toUInt32)
      (state.angularRateQ24.toList.getD i 0).toUInt32) hash
  let hash := (state.attitudeQ30.toList.map Int32.toUInt32).foldl hashWord hash
  hashWord hash ((if state.gpsAided then 1 else 0) ||| (if state.starAided then 2 else 0)
    ||| (if state.barometerAided then 4 else 0))

/-! ## The update -/

def new : SpatialNavigation where
  state := {
    sequence := 0
    timeQ16 := 0
    positionQ12 := Axes.of 22958965 0 12465701
    velocityQ24 := Axes.of 0 6857499 0
    attitudeQ30 := initialAttitude
    angularRateQ24 := Axes.all 0
    gpsAided := false
    starAided := false
    barometerAided := false
    checksum := 2166136261 }
  initialized := false

/-- The gravity along an axis. -/
def gravity (nav : SpatialNavigation) (radiusQ12 : Int32) (axis : Fin 3) : Int32 :=
  let muOverR := (earthMuQ12.toInt64 <<< (24 : Int64)) / radiusQ12.toInt64
  let magnitude := (muOverR <<< (16 : Int64)) / radiusQ12.toInt64
  let unit := ((nav.state.positionQ12.get axis).toInt64 <<< (30 : Int64)) / radiusQ12.toInt64
  (-((unit * magnitude) >>> 30)).toInt32

/-- One axis after the other is moved on, as long as both its numbers fit. -/
def advanceAxes (dtQ16 : Int32) (acceleration : Fin 3 → Int64) :
    List (Fin 3) → SpatialNavigation → Attempt SpatialNavigationError SpatialNavigation Unit
  | [], nav => (.ok (), nav)
  | axis :: axes, nav =>
      let velocity := (nav.state.velocityQ24.get axis).toInt64
        + ((acceleration axis * dtQ16.toInt64) >>> 20)
      let position := (nav.state.positionQ12.get axis).toInt64 + ((velocity * dtQ16.toInt64) >>> 28)
      match fit velocity, fit position with
      | some v, some p => advanceAxes dtQ16 acceleration axes { nav with
          state := { nav.state with
            velocityQ24 := nav.state.velocityQ24.set axis.val v axis.isLt
            positionQ12 := nav.state.positionQ12.set axis.val p axis.isLt } }
      | _, _ => (.error .numeric, nav)

def turn (nav : SpatialNavigation) (attitude : Option Quaternion) :
    Attempt SpatialNavigationError SpatialNavigation Unit :=
  match attitude with
  | none => (.error .numeric, nav)
  | some q => (.ok (), { nav with state := { nav.state with attitudeQ30 := q } })

def propagate (nav : SpatialNavigation) (frame : SpatialSensorFrame) (dtQ16 : Int32) :
    Attempt SpatialNavigationError SpatialNavigation Unit :=
  match (magnitude3 nav.state.positionQ12).filter (0 < ·),
      rotateVector nav.state.attitudeQ30 frame.accelBodyQ28 with
  | some radius, some proper =>
      let acceleration (axis : Fin 3) := (proper.get axis).toInt64 + (nav.gravity radius axis).toInt64
      (advanceAxes dtQ16 acceleration (List.finRange 3) nav).andThen fun _ nav ↦
        nav.turn (integrateQuaternion nav.state.attitudeQ30 frame.gyroBodyQ24 dtQ16)
  | _, _ => (.error .numeric, nav)

def applyGps (nav : SpatialNavigation) (frame : SpatialSensorFrame) : SpatialNavigation :=
  let projected := Vector.zipWith
    (fun p (v : Int32) ↦ addSatI32 p ((v.toInt64 * 16384) >>> 28).toInt32)
    frame.gpsPositionQ12 frame.gpsVelocityQ24
  { nav with
    state := { nav.state with
      positionQ12 := .zipWith (blend · · 1) nav.state.positionQ12 projected
      velocityQ24 := .zipWith (blend · · 3) nav.state.velocityQ24 frame.gpsVelocityQ24
      gpsAided := true } }

def applyBarometer (nav : SpatialNavigation) (altitudeQ12 : Int32) :
    Attempt SpatialNavigationError SpatialNavigation Unit :=
  match (magnitude3 nav.state.positionQ12).filter (0 < ·) with
  | none => (.error .numeric, nav)
  | some radius =>
      let measured := addSatI32 earthRadiusQ12 altitudeQ12
      let correction := subSatI32 measured radius >>> 3
      let moved (p : Int32) : Int32 :=
        addSatI32 p ((p.toInt64 * correction.toInt64) / radius.toInt64).toInt32
      (.ok (), { nav with
        state := { nav.state with
          positionQ12 := nav.state.positionQ12.map moved
          barometerAided := true } })

/-- The estimate takes the time of the frame. -/
def stamp (nav : SpatialNavigation) (frame : SpatialSensorFrame) : SpatialNavigation :=
  { nav with
    state := { nav.state with
      sequence := frame.sequence
      timeQ16 := frame.onboardTimeQ16
      angularRateQ24 := frame.gyroBodyQ24
      gpsAided := false
      starAided := false
      barometerAided := false } }

def aidBarometer (nav : SpatialNavigation) (frame : SpatialSensorFrame) :
    Attempt SpatialNavigationError SpatialNavigation Unit :=
  if frame.validity &&& sensorValidBarometer ≠ 0 then nav.applyBarometer frame.baroAltitudeQ12
  else (.ok (), nav)

def aidGps (nav : SpatialNavigation) (frame : SpatialSensorFrame) : SpatialNavigation :=
  if frame.validity &&& sensorValidGps ≠ 0 then nav.applyGps frame else nav

/-- The star tracker is one frame late: its attitude is carried on with the rates of this one. -/
def aidStar (nav : SpatialNavigation) (frame : SpatialSensorFrame) :
    Attempt SpatialNavigationError SpatialNavigation Unit :=
  if frame.validity &&& sensorValidStarTracker ≠ 0 then
    (nav.turn (integrateQuaternion frame.starAttitudeQ30 frame.gyroBodyQ24 8192)).andThen
      fun _ nav ↦ (.ok (), { nav with state := { nav.state with starAided := true } })
  else (.ok (), nav)

def withChecksum (state : SpatialNavigationState) (checksum : UInt32) : SpatialNavigationState :=
  { state with checksum := checksum }

/-- The estimate counts from now on. -/
def conclude (nav : SpatialNavigation) : SpatialNavigation where
  state := withChecksum nav.state (hashState nav.state.checksum nav.state)
  initialized := true

def elapsedQ16 (nav : SpatialNavigation) (frame : SpatialSensorFrame) : Int32 :=
  if nav.initialized then subSatI32 frame.onboardTimeQ16 nav.state.timeQ16
  else frame.onboardTimeQ16

def requiredMask : UInt16 := sensorValidImu ||| sensorValidClock

/-- The estimate is carried on to the frame and corrected by what else the frame has. -/
def carryOn (nav : SpatialNavigation) (frame : SpatialSensorFrame) (dtQ16 : Int32) :
    Attempt SpatialNavigationError SpatialNavigation SpatialNavigationState :=
  Attempt.andThen
    (if nav.initialized ∧ 0 < dtQ16 then nav.propagate frame dtQ16 else (.ok (), nav)) fun _ nav ↦
    ((nav.stamp frame).aidBarometer frame).andThen fun _ nav ↦
      ((nav.aidGps frame).aidStar frame).andThen fun _ nav ↦
        (.ok nav.conclude.state, nav.conclude)

/-- A quarter of a second. -/
def longestStepQ16 : Int32 := 16384

def update (nav : SpatialNavigation) (frame : SpatialSensorFrame) :
    Attempt SpatialNavigationError SpatialNavigation SpatialNavigationState :=
  if frame.validity &&& requiredMask ≠ requiredMask then (.error .missingInertial, nav)
  else if nav.initialized ∧ frame.sequence ≠ nav.state.sequence + 1 then (.error .sequence, nav)
  else if 0 ≤ nav.elapsedQ16 frame ∧ nav.elapsedQ16 frame ≤ longestStepQ16 then
    nav.carryOn frame (nav.elapsedQ16 frame)
  else (.error .numeric, nav)

/-! ## What an update accepts -/

section Update

variable {nav : SpatialNavigation} {frame : SpatialSensorFrame}

theorem turn_time (attitude : Option Quaternion) :
    (nav.turn attitude).2.state.sequence = nav.state.sequence
      ∧ (nav.turn attitude).2.state.timeQ16 = nav.state.timeQ16 := by
  cases attitude <;> exact ⟨rfl, rfl⟩

theorem aidBarometer_time : (nav.aidBarometer frame).2.state.sequence = nav.state.sequence
    ∧ (nav.aidBarometer frame).2.state.timeQ16 = nav.state.timeQ16 := by
  unfold aidBarometer applyBarometer
  split_ifs
  · cases (magnitude3 nav.state.positionQ12).filter (0 < ·) <;> exact ⟨rfl, rfl⟩
  · exact ⟨rfl, rfl⟩

theorem aidGps_time : (nav.aidGps frame).state.sequence = nav.state.sequence
    ∧ (nav.aidGps frame).state.timeQ16 = nav.state.timeQ16 := by
  unfold aidGps
  split_ifs <;> exact ⟨rfl, rfl⟩

theorem aidStar_time : (nav.aidStar frame).2.state.sequence = nav.state.sequence
    ∧ (nav.aidStar frame).2.state.timeQ16 = nav.state.timeQ16 := by
  unfold aidStar
  split_ifs
  · generalize integrateQuaternion frame.starAttitudeQ30 frame.gyroBodyQ24 8192 = attitude
    cases attitude <;> exact ⟨rfl, rfl⟩
  · exact ⟨rfl, rfl⟩

/-- What an update has checked when it succeeds, and what it leaves. -/
structure Accepts (nav : SpatialNavigation) (frame : SpatialSensorFrame) : Prop where
  valid : frame.validity &&& requiredMask = requiredMask
  sequence : nav.initialized = true → frame.sequence = nav.state.sequence + 1
  elapsed : 0 ≤ nav.elapsedQ16 frame ∧ nav.elapsedQ16 frame ≤ longestStepQ16
  initialized : (nav.update frame).2.initialized = true
  stamped : (nav.update frame).2.state.sequence = frame.sequence
    ∧ (nav.update frame).2.state.timeQ16 = frame.onboardTimeQ16

theorem stamp_time : (nav.stamp frame).state.sequence = frame.sequence
    ∧ (nav.stamp frame).state.timeQ16 = frame.onboardTimeQ16 := ⟨rfl, rfl⟩

/-- The aids keep the time that the estimate has been given. -/
theorem aided_time :
    ((((nav.stamp frame).aidBarometer frame).2.aidGps frame).aidStar frame).2.state.sequence
        = frame.sequence
      ∧ ((((nav.stamp frame).aidBarometer frame).2.aidGps frame).aidStar frame).2.state.timeQ16
        = frame.onboardTimeQ16 := by
  rw [aidStar_time.1, aidGps_time.1, aidBarometer_time.1, aidStar_time.2, aidGps_time.2,
    aidBarometer_time.2]
  exact stamp_time

theorem withChecksum_time (state : SpatialNavigationState) (checksum : UInt32) :
    (withChecksum state checksum).sequence = state.sequence
      ∧ (withChecksum state checksum).timeQ16 = state.timeQ16 := ⟨rfl, rfl⟩

theorem conclude_state : nav.conclude.state =
    withChecksum nav.state (hashState nav.state.checksum nav.state) := rfl

theorem conclude_initialized : nav.conclude.initialized = true := rfl

/-- An estimate that is carried on has the time of the frame. -/
theorem carryOn_ok {dtQ16 : Int32} {state : SpatialNavigationState}
    (h : (nav.carryOn frame dtQ16).1 = .ok state) :
    (nav.carryOn frame dtQ16).2.initialized = true
      ∧ (nav.carryOn frame dtQ16).2.state.sequence = frame.sequence
      ∧ (nav.carryOn frame dtQ16).2.state.timeQ16 = frame.onboardTimeQ16 := by
  unfold carryOn at h ⊢
  generalize (if nav.initialized ∧ 0 < dtQ16 then nav.propagate frame dtQ16
    else (.ok (), nav)) = t at h ⊢
  cases hpropagated : t.1 with
  | error e =>
      rw [Attempt.andThen_error hpropagated] at h
      cases h
  | ok _ =>
      rw [Attempt.andThen_ok hpropagated] at h ⊢
      cases hbarometer : ((t.2.stamp frame).aidBarometer frame).1 with
      | error e =>
          rw [Attempt.andThen_error hbarometer] at h
          cases h
      | ok _ =>
          rw [Attempt.andThen_ok hbarometer] at h ⊢
          cases hstar : ((((t.2.stamp frame).aidBarometer frame).2.aidGps frame).aidStar frame).1 with
          | error e =>
              rw [Attempt.andThen_error hstar] at h
              cases h
          | ok _ =>
              rw [Attempt.andThen_ok hstar]
              dsimp only
              rw [conclude_initialized, conclude_state, (withChecksum_time _ _).1,
                (withChecksum_time _ _).2]
              exact ⟨rfl, aided_time⟩

theorem update_ok {state : SpatialNavigationState} (h : (nav.update frame).1 = .ok state) :
    nav.Accepts frame := by
  by_cases hvalid : frame.validity &&& requiredMask = requiredMask
  · by_cases hsequence : nav.initialized = true ∧ frame.sequence ≠ nav.state.sequence + 1
    · have hupdate : nav.update frame = (.error .sequence, nav) := by
        unfold update
        rw [if_neg (not_not.mpr hvalid), if_pos hsequence]
      rw [hupdate] at h
      cases h
    · by_cases helapsed : 0 ≤ nav.elapsedQ16 frame ∧ nav.elapsedQ16 frame ≤ longestStepQ16
      · have hupdate : nav.update frame = nav.carryOn frame (nav.elapsedQ16 frame) := by
          unfold update
          rw [if_neg (not_not.mpr hvalid), if_neg hsequence, if_pos helapsed]
        rw [hupdate] at h
        have hcarried := carryOn_ok h
        rw [← hupdate] at hcarried
        refine ⟨hvalid, fun hinitialized ↦ ?_, helapsed, hcarried.1, hcarried.2⟩
        by_contra hskipped
        exact hsequence ⟨hinitialized, hskipped⟩
      · have hupdate : nav.update frame = (.error .numeric, nav) := by
          unfold update
          rw [if_neg (not_not.mpr hvalid), if_neg hsequence, if_neg helapsed]
        rw [hupdate] at h
        cases h
  · have hupdate : nav.update frame = (.error .missingInertial, nav) := by
      unfold update
      rw [if_pos hvalid]
    rw [hupdate] at h
    cases h

end Update

end SpatialNavigation

end Ksa64.Flight
