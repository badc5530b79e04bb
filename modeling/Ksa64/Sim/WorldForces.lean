import Ksa64.Sim.WorldState

/-!
# The forces on the vehicle

Gravity, drag, motor and jets, at a state and mass of the vehicle.  On the rail, in the global
frames and under the parachutes the forces are computed by rules of their own; which motor thrust and
which drag area each of them takes has a name here.
-/

namespace Ksa64.Sim

open Ksa64.Library Ksa64.Core Ksa64.Interface

/-! ## Air -/

/-- The norm of a vector, if it is an `i32`. -/
def checkedMagnitude {n : Nat} (v : FixedVec3 n) : Except GlobalWorldError Int64 :=
  let (magnitude, status) := v.magnitudeFloor .clear
  if !status.isClear || 0x7fffffff < magnitude then .error .numeric
  else .ok magnitude.toInt32.toInt64

/-- The speed, the Mach number and the dynamic pressure. -/
structure AirData where
  speedQ4 : Int32
  machQ24 : Int32
  dynamicQ14 : Int32
deriving DecidableEq

def airDataFromSpeed (speedQ4 : Int32) (atmosphere : AtmosphereSample) :
    Except GlobalWorldError AirData := guarded do
  if atmosphere.densityQ28KgM3 = 0 then return ⟨speedQ4, 0, 0⟩
  let soundQ4 := max ((atmosphere.speedOfSoundQ16MS + (1 : Int32) <<< 11) >>> 12) 1
  let machQ24 ← divideScaled speedQ4 soundQ4 24
  requireClear .numeric
  if maxMachQ24 < machQ24 then throw .envelopeMach
  let densityQ20 := (atmosphere.densityQ28KgM3 + 128) >>> 8
  let dynamicQ14 ← roundedI64 (densityQ20.toInt64 * speedQ4.toInt64 * speedQ4.toInt64)
    ((1 : Int64) <<< 15)
  if maxDynamicPressureQ14 < dynamicQ14 then throw .envelopeDynamicPressure
  return ⟨speedQ4, machQ24, dynamicQ14⟩

def globalAirData (velocity : GlobalVelocityVec) (atmosphere : AtmosphereSample) :
    Except GlobalWorldError AirData := do
  let speedQ4 ← roundedI64 ((← checkedMagnitude velocity) * 125) 131072
  airDataFromSpeed speedQ4 atmosphere

def localAirData (velocity : EnuVelocity) (atmosphere : AtmosphereSample) :
    Except GlobalWorldError AirData := do
  let speedQ4 ← roundedI64 (← checkedMagnitude velocity) ((1 : Int64) <<< 15)
  airDataFromSpeed speedQ4 atmosphere

def dragForceQ13 (dynamicQ14 cdaRaw : Int32) (cdaFractionalBits : UInt8) (cdQ24 : Int32) :
    Except GlobalWorldError Int32 := guarded do
  let shift := 14 + cdaFractionalBits - 13
  if 31 < shift then throw .numeric
  let areaForce ← multiplyScaled dynamicQ14 cdaRaw shift
  let force ← multiplyScaled areaForce cdQ24 24
  requireClear .numeric
  return max force 0

def forceToAccelerationQ19 (forceQ13 massQ13 : Int32) : Except GlobalWorldError Int32 :=
  roundedI64 (forceQ13.toInt64 * (1 : Int64) <<< 19) massQ13.toInt64

def forceMagnitudeToGlobalQ28 (forceQ13 massQ21 : Int32) : Except GlobalWorldError Int32 :=
  let massQ13 := ((massQ21.toInt64 + 128) >>> 8).toInt32
  roundedI64 (forceQ13.toInt64 * (1 : Int64) <<< 28) (massQ13.toInt64 * 1000)

def forceVectorToGlobalAcceleration (force : FixedVec3 13) (massQ21 : Int32) :
    Except GlobalWorldError GlobalAccelerationVec := do
  let massQ13 := (massQ21 + 128) >>> 8
  reject (massQ13 ≤ 0) .numeric
  let denominator := massQ13.toInt64 * 1000
  pure ⟨← roundedI64 (force.x.toInt64 * (1 : Int64) <<< 28) denominator,
    ← roundedI64 (force.y.toInt64 * (1 : Int64) <<< 28) denominator,
    ← roundedI64 (force.z.toInt64 * (1 : Int64) <<< 28) denominator⟩

def scaleDirection (n : Nat) (direction : FixedVec3 30) (magnitude : Int32) :
    NumericM (FixedVec3 n) := do
  return ⟨← multiplyScaled direction.x magnitude 30, ← multiplyScaled direction.y magnitude 30,
    ← multiplyScaled direction.z magnitude 30⟩

/-- An acceleration against a velocity. -/
def againstVelocity {n : Nat} (m : Nat) (velocity : FixedVec3 n)
    (acceleration : Except GlobalWorldError Int32) : Except GlobalWorldError (FixedVec3 m) :=
  guarded do
    let magnitude ← checkedMagnitude velocity
    if magnitude = 0 then throw .numeric
    let acceleration ← acceleration
    let ratio (component : Int32) : Except GlobalWorldError Int32 :=
      roundedI64 (-component.toInt64 * (1 : Int64) <<< 30) magnitude
    let direction : FixedVec3 30 :=
      ⟨← ratio velocity.x, ← ratio velocity.y, ← ratio velocity.z⟩
    let result ← scaleDirection m direction acceleration
    requireClear .numeric
    return result

def forceToGlobalAcceleration (forceQ13 massQ21 : Int32) (velocity : GlobalVelocityVec)
    (speedQ4 : Int32) : Except GlobalWorldError GlobalAccelerationVec :=
  if speedQ4 = 0 ∨ forceQ13 = 0 then .ok .zero
  else againstVelocity 28 velocity (forceMagnitudeToGlobalQ28 forceQ13 massQ21)

def unitAgainstLocalVelocity (velocity : EnuVelocity) (speedQ4 accelerationQ19 : Int32) :
    Except GlobalWorldError EnuAcceleration :=
  if speedQ4 = 0 ∨ accelerationQ19 = 0 then .ok .zero
  else againstVelocity 19 velocity (.ok accelerationQ19)

def dotMixedQ30 {n : Nat} (left : FixedVec3 n) (right : FixedVec3 30) : NumericM Int32 := do
  add (← add (← multiplyScaled left.x right.x 30) (← multiplyScaled left.y right.y 30))
    (← multiplyScaled left.z right.z 30)

/-! ## Gimbals -/

/-- The sine of the first quarter of a turn, at 257 points. -/
def sinQuarterQ15 : List Int16 :=
  [0, 201, 402, 603, 804, 1005, 1206, 1407, 1608, 1809, 2009, 2210, 2410, 2611, 2811, 3012, 3212,
    3412, 3612, 3811, 4011, 4210, 4410, 4609, 4808, 5007, 5205, 5404, 5602, 5800, 5998, 6195, 6393,
    6590, 6786, 6983, 7179, 7375, 7571, 7767, 7962, 8157, 8351, 8545, 8739, 8933, 9126, 9319, 9512,
    9704, 9896, 10087, 10278, 10469, 10659, 10849, 11039, 11228, 11417, 11605, 11793, 11980, 12167,
    12353, 12539, 12725, 12910, 13094, 13279, 13462, 13645, 13828, 14010, 14191, 14372, 14553,
    14732, 14912, 15090, 15269, 15446, 15623, 15800, 15976, 16151, 16325, 16499, 16673, 16846,
    17018, 17189, 17360, 17530, 17700, 17869, 18037, 18204, 18371, 18537, 18703, 18868, 19032,
    19195, 19357, 19519, 19680, 19841, 20000, 20159, 20317, 20475, 20631, 20787, 20942, 21096,
    21250, 21403, 21554, 21705, 21856, 22005, 22154, 22301, 22448, 22594, 22739, 22884, 23027,
    23170, 23311, 23452, 23592, 23731, 23870, 24007, 24143, 24279, 24413, 24547, 24680, 24811,
    24942, 25072, 25201, 25329, 25456, 25582, 25708, 25832, 25955, 26077, 26198, 26319, 26438,
    26556, 26674, 26790, 26905, 27019, 27133, 27245, 27356, 27466, 27575, 27683, 27790, 27896,
    28001, 28105, 28208, 28310, 28411, 28510, 28609, 28706, 28803, 28898, 28992, 29085, 29177,
    29268, 29358, 29447, 29534, 29621, 29706, 29791, 29874, 29956, 30037, 30117, 30195, 30273,
    30349, 30424, 30498, 30571, 30643, 30714, 30783, 30852, 30919, 30985, 31050, 31113, 31176,
    31237, 31297, 31356, 31414, 31470, 31526, 31580, 31633, 31685, 31736, 31785, 31833, 31880,
    31926, 31971, 32014, 32057, 32098, 32137, 32176, 32213, 32250, 32285, 32318, 32351, 32382,
    32412, 32441, 32469, 32495, 32521, 32545, 32567, 32589, 32609, 32628, 32646, 32663, 32678,
    32692, 32705, 32717, 32728, 32737, 32745, 32752, 32757, 32761, 32765, 32766, 32767]

def quarterWaveQ15 (raw : UInt16) : Int16 :=
  let index := (raw >>> 6).toNat
  if 256 ≤ index then sinQuarterQ15.getD 256 0
  else
    let fraction := (raw &&& 0x3f).toUInt32.toInt32
    let left := (sinQuarterQ15.getD index 0).toInt32
    let right := (sinQuarterQ15.getD (index + 1) 0).toInt32
    (left + (((right - left) * fraction + 32) >>> 6)).toInt16

/-- The sine and the cosine of an angle in parts of a turn. -/
def sinCosBinaryQ15 (raw : UInt16) : Int16 × Int16 :=
  let offset := raw &&& 0x3fff
  let forward := quarterWaveQ15 offset
  let reverse := quarterWaveQ15 (0x4000 - offset)
  match (raw >>> 14).toNat with
  | 0 => (forward, reverse)
  | 1 => (reverse, -forward)
  | 2 => (-forward, -reverse)
  | _ => (-reverse, forward)

def gimbaledThrustBody (thrust : Int32) (gimbal : Vector Int16 2) :
    NumericM (FixedVec3 13) := do
  let (sinPitch, cosPitch) := sinCosBinaryQ15 (gimbal.toList.getD 0 0).toUInt16
  let (sinYaw, cosYaw) := sinCosBinaryQ15 (gimbal.toList.getD 1 0).toUInt16
  let x ← multiplyScaled (← multiplyScaled thrust cosPitch.toInt32 15) cosYaw.toInt32 15
  let y ← multiplyScaled thrust sinYaw.toInt32 15
  let z ← multiplyScaled thrust sinPitch.toInt32 15
  return ⟨x, y, -z⟩

namespace GlobalWorldMachine

/-! ## The vehicle -/

/-- The motor burns: its time is not over and there is propellant. -/
def powered (w : GlobalWorldMachine) (time : MissionTimeQ16) : Bool :=
  time.raw < w.vehicle.burnTimeQ16S && 0 < w.mainPropellantQ21

/-- What part of the propellants the mass still holds. -/
def propellantFraction (w : GlobalWorldMachine) (massQ21 : Int32) :
    Except GlobalWorldError Int32 :=
  let propellant := max (saturatingSubI32 massQ21 w.vehicle.dryMassQ21Kg) 0
  let initial :=
    max (saturatingAddI32 w.vehicle.mainPropellantQ21Kg w.vehicle.rcsPropellantQ21Kg) 1
  roundedI64 (propellant.toInt64 <<< 16) initial.toInt64

/-- Between the dry value and the wet one. -/
def blendDry (dry wet fraction : Int32) : NumericM Int32 := do
  add dry (← multiplyScaled (wet - dry) fraction 16)

def cgFromNoseQ28 (w : GlobalWorldMachine) (massQ21 : Int32) : Except GlobalWorldError Int32 :=
  guarded do
    let fraction ← w.propellantFraction massQ21
    let value ← blendDry w.vehicle.dryCgQ28M w.vehicle.wetCgQ28M fraction
    requireClear .numeric
    return value

def inertiaQ19 (w : GlobalWorldMachine) (massQ21 : Int32) :
    Except GlobalWorldError GlobalDiagonalInertiaQ19 := guarded do
  let fraction ← w.propellantFraction massQ21
  let dry := w.vehicle.dryInertiaQ19
  let wet := w.vehicle.wetInertiaQ19
  let x ← blendDry dry.x wet.x fraction
  let y ← blendDry dry.y wet.y fraction
  let z ← blendDry dry.z wet.z fraction
  requireClear .numeric
  return ⟨x, y, z⟩

/-- How many knots to go up from one whose successors are given. -/
def aeroBelow (machQ24 : Int32) : List GlobalAeroKnot → Nat
  | [] => 0
  | knot :: rest => if knot.machQ24 < machQ24 then aeroBelow machQ24 rest + 1 else 0

def aeroKnot (w : GlobalWorldMachine) (machQ24 : Int32) :
    Except GlobalWorldError GlobalAeroKnot := guarded do
  let active := w.vehicle.activeAero
  let knot (index : Nat) := active.getD index .default
  if machQ24 ≤ (knot 0).machQ24 then return knot 0
  if (knot (active.length - 1)).machQ24 < machQ24 then throw .envelopeAeroTable
  let upper := 1 + aeroBelow machQ24 active.tail
  let lo := knot (upper - 1)
  let hi := knot upper
  let numerator := (machQ24 - lo.machQ24).toUInt32
  let denominator := (hi.machQ24 - lo.machQ24).toUInt32
  let axialCd ← interpolateI32 lo.axialCdQ24 hi.axialCdQ24 numerator denominator
  let cp ← interpolateI32 lo.cpFromNoseQ28M hi.cpFromNoseQ28M numerator denominator
  let slope ← interpolateI32 lo.normalForceSlopeQ24 hi.normalForceSlopeQ24 numerator denominator
  let pitch ← interpolateI32 lo.pitchDampingQ24 hi.pitchDampingQ24 numerator denominator
  let yaw ← interpolateI32 lo.yawDampingQ24 hi.yawDampingQ24 numerator denominator
  requireClear .numeric
  return ⟨machQ24, axialCd, cp, slope, pitch, yaw⟩

/-! ## The pitch program -/

def interpolatePitch (lo hi : PitchKnot) (time : MissionTimeQ16) :
    Except GlobalWorldError Int32 := guarded do
  let value ← interpolateI32 lo.elevationQ28Rad hi.elevationQ28Rad (time.raw - lo.timeQ16S)
    (hi.timeQ16S - lo.timeQ16S)
  requireClear .numeric
  return value

/-- How many knots to go up from one whose successors are given. -/
def pitchBelow (time : UInt32) : List PitchKnot → Nat
  | [] => 0
  | knot :: rest => if knot.timeQ16S < time then pitchBelow time rest + 1 else 0

def pitchAt (w : GlobalWorldMachine) (time : MissionTimeQ16) : Except GlobalWorldError Int32 :=
  let active := w.mission.activePitch
  let knot (index : Nat) := active.getD index .default
  if time.raw ≤ (knot 0).timeQ16S then .ok (knot 0).elevationQ28Rad
  else if (knot (active.length - 1)).timeQ16S ≤ time.raw then
    .ok (knot (active.length - 1)).elevationQ28Rad
  else
    let upper := 1 + pitchBelow time.raw active.tail
    interpolatePitch (knot (upper - 1)) (knot upper) time

def commandedDirectionEcef (w : GlobalWorldMachine) (time : MissionTimeQ16) :
    Except GlobalWorldError (FixedVec3 30) := guarded do
  let elevation ← w.pitchAt time
  let localDirection ← ofEnvironment
    (launchDirectionEnu w.mission.launchAzimuthQ28Rad elevation)
  let direction ← w.launchAnchor.enuToEcef.rotate localDirection
  requireClear .numeric
  return direction

def commandedAttitude (w : GlobalWorldMachine) (time : MissionTimeQ16) :
    Except GlobalWorldError QuaternionQ30 := guarded do
  let direction ← w.commandedDirectionEcef time
  if w.segment = .eciCoast then
    let transform ← ofFrame (interpolateTransform w.transforms time)
    let inertialDirection ← transform.ecefToGcrf.rotate direction
    requireClear .numeric
    ofEnvironment (bodyXAttitude inertialDirection)
  else ofEnvironment (bodyXAttitude direction)

/-! ## Drag -/

end GlobalWorldMachine

/-- What the air drags at. -/
inductive DragBody where
  | vehicle
  | drogue
  | main
deriving DecidableEq

namespace GlobalWorldMachine

/-- The body that drags in the global frames. -/
def sampleDragBody (w : GlobalWorldMachine) : DragBody :=
  if w.drogue then (if w.main then .main else .drogue) else .vehicle

/-- The body that drags on the way down to the landing. -/
def recoveryDragBody (w : GlobalWorldMachine) : DragBody := if w.main then .main else .drogue

/-- The area of a parachute; the vehicle has none of its own. -/
def parachuteCdaQ24 (w : GlobalWorldMachine) : DragBody → Int32
  | .main => w.vehicle.mainCdaQ24M2
  | .drogue | .vehicle => w.vehicle.drogueCdaQ24M2

/-- The area and its fractional bits.  A vehicle that enters broadside has a larger one. -/
def sampleDragArea (w : GlobalWorldMachine) : NumericM (Int32 × UInt8) :=
  match w.sampleDragBody with
  | .vehicle => do
      let area ← if w.segment = .ecefEntry ∧ w.descending = true then
          multiplyScaled w.vehicle.referenceAreaQ29M2 w.mission.entryDragAreaScaleQ16 16
        else pure w.vehicle.referenceAreaQ29M2
      return (area, 29)
  | body => pure (w.parachuteCdaQ24 body, 24)

def sampleDragCoefficient (w : GlobalWorldMachine) (machQ24 : Int32) :
    Except GlobalWorldError Int32 :=
  if w.drogue then .ok ((1 : Int32) <<< 24) else (w.aeroKnot machQ24).map (·.axialCdQ24)

def windEcef (geodetic : GeodeticState) (atmosphere : AtmosphereSample) :
    Except GlobalWorldError GlobalVelocityVec := guarded do
  let wind := atmosphere.windEnuQ19MS
  let windGlobal : GlobalVelocityVec := ⟨← roundedI64 (wind.x.toInt64 * 4) 125,
    ← roundedI64 (wind.y.toInt64 * 4) 125, ← roundedI64 (wind.z.toInt64 * 4) 125⟩
  let rotation ← ofEnvironment
    (enuToEcefRotation geodetic.latitudeQ28Rad geodetic.longitudeQ28Rad)
  let result ← rotation.rotate windGlobal
  requireClear .numeric
  return result

/-! ## The controlled vehicle -/

def tan15DegreesQ24 : UInt32 := 4495775

/-- The force and the torque of the air beside the drag. -/
def normalForce (w : GlobalWorldMachine) (state : GlobalKinematicState)
    (bodyAir : GlobalVelocityVec) (aero : GlobalAeroKnot) (dynamicQ14 : Int32) :
    GuardedM GlobalWorldError (FixedVec3 13 × GlobalBodyTorque) := do
  if bodyAir.x ≤ 0 then throw .envelopeAngleOfAttack
  let alphaY ← divideScaled bodyAir.y bodyAir.x 24
  let alphaZ ← divideScaled bodyAir.z bodyAir.x 24
  let alpha ← (⟨alphaY, alphaZ, 0⟩ : FixedVec3 24).magnitudeFloor
  if tan15DegreesQ24 < alpha then throw .envelopeAngleOfAttack
  let qArea ← multiplyScaled dynamicQ14 w.vehicle.referenceAreaQ29M2 29
  let normalPerAlpha ← multiplyScaled qArea aero.normalForceSlopeQ24 24
  let normalY ← multiplyScaled normalPerAlpha alphaY 24
  let normalZ ← multiplyScaled normalPerAlpha alphaZ 24
  let normal : FixedVec3 13 := ⟨0, -normalY, -normalZ⟩
  let force ← (FixedVec3.zero : FixedVec3 13).checkedAdd normal
  let cg ← w.cgFromNoseQ28 w.totalMassQ21
  let arm := saturatingSubI32 cg aero.cpFromNoseQ28M
  let pitch ← multiplyScaled arm normal.z 29
  let yaw ← multiplyScaled arm normal.y 29
  let torque ← (FixedVec3.zero : GlobalBodyTorque).checkedAdd ⟨0, -pitch, yaw⟩
  let qAreaLength ← multiplyScaled qArea w.vehicle.lengthQ13M 14
  let pitchDamping ← multiplyScaled (← multiplyScaled qAreaLength aero.pitchDampingQ24 24)
    state.angularRate.y 24
  let yawDamping ← multiplyScaled (← multiplyScaled qAreaLength aero.yawDampingQ24 24)
    state.angularRate.z 24
  let torque ← torque.checkedAdd ⟨0, -pitchDamping, -yawDamping⟩
  return (force, torque)

/-- The force and the torque of the motor are added. -/
def addMotor (w : GlobalWorldMachine) (cgQ28 : Int32)
    (sum : FixedVec3 13 × GlobalBodyTorque) : NumericM (FixedVec3 13 × GlobalBodyTorque) := do
  let thrust ← gimbaledThrustBody w.vehicle.thrustQ13N w.actuators.gimbalTurn16
  let force ← sum.1.checkedAdd thrust
  let arm := saturatingMulI32 (saturatingSubI32 w.vehicle.lengthQ13M (cgQ28 >>> 15))
    ((1 : Int32) <<< 15)
  let pitch ← multiplyScaled arm thrust.z 29
  let yaw ← multiplyScaled arm thrust.y 29
  let torque ← sum.2.checkedAdd ⟨0, -pitch, yaw⟩
  return (force, torque)

def controlledForceAndTorque (w : GlobalWorldMachine) (state : GlobalKinematicState)
    (airVelocity : GlobalVelocityVec) (air : AirData) (powered : Bool) :
    GuardedM GlobalWorldError (FixedVec3 13 × GlobalBodyTorque) := do
  let bodyAir ← state.attitude.conjugate.rotate airVelocity
  let aero ← w.aeroKnot air.machQ24
  let sum ← if !w.drogue && (1 : Int32) <<< 14 ≤ air.dynamicQ14 then
      w.normalForce state bodyAir aero air.dynamicQ14
    else pure (.zero, .zero)
  let cg ← w.cgFromNoseQ28 w.totalMassQ21
  let sum ← if powered then w.addMotor cg sum else pure sum
  let rcs ← sampleRcsEffectors w.actuators w.vehicle cg
  let force ← sum.1.checkedAdd rcs.forceBodyQ13
  let torque ← sum.2.checkedAdd rcs.torqueBodyQ12
  requireClear .numeric
  return (force, torque)

/-! ## Sampling -/

structure ForceSample where
  acceleration : GlobalAccelerationVec
  machQ24 : Int32
  dynamicPressureQ14Pa : Int32
  torqueBodyQ12 : GlobalBodyTorque
deriving DecidableEq

/-- The acceleration by the motor and the jets, and the torque.  A vehicle that nobody controls
has its motor along the pitch program. -/
def propulsion (w : GlobalWorldMachine) (state ecef : GlobalKinematicState) (massQ21 : Int32)
    (airVelocity : GlobalVelocityVec) (air : AirData) (acceleration : GlobalAccelerationVec)
    (controlled : Bool) :
    GuardedM GlobalWorldError (GlobalAccelerationVec × GlobalBodyTorque) := do
  let powered := w.powered state.time
  if controlled then
    let (bodyForce, bodyTorque) ← w.controlledForceAndTorque ecef airVelocity air powered
    let forceEcef ← ecef.attitude.rotate bodyForce
    let added ← forceVectorToGlobalAcceleration forceEcef massQ21
    return (← acceleration.checkedAdd added, bodyTorque)
  else if powered then
    let direction ← w.commandedDirectionEcef state.time
    let magnitude ← forceMagnitudeToGlobalQ28 w.vehicle.thrustQ13N massQ21
    let thrust ← scaleDirection 28 direction magnitude
    return (← acceleration.checkedAdd thrust, .zero)
  else return (acceleration, .zero)

def forceSampleWithMass (w : GlobalWorldMachine) (state : GlobalKinematicState) (massQ21 : Int32)
    (controlled : Bool) : Except GlobalWorldError ForceSample := guarded do
  let transform ← ofFrame (interpolateTransform w.transforms state.time)
  let ecef ← if w.segment = .eciCoast then ofFrame (gcrfToEcef transform state) else pure state
  let geodetic ← ofEnvironment (ecefToGeodetic ecef.position)
  let atmosphere ← ofEnvironment (w.atmosphere.sample geodetic.heightQ12Km)
  let wind ← windEcef geodetic atmosphere
  let airVelocity ← ecef.velocity.checkedSub wind
  requireClear .numeric
  let air ← globalAirData airVelocity atmosphere
  if maxDynamicPressureQ14 < air.dynamicQ14 then throw .envelopeDynamicPressure
  if maxMachQ24 < air.machQ24 then throw .envelopeMach
  let (cda, cdaBits) ← w.sampleDragArea
  let cd ← w.sampleDragCoefficient air.machQ24
  let dragForce ← dragForceQ13 air.dynamicQ14 cda cdaBits cd
  let dragAcceleration ← forceToGlobalAcceleration dragForce massQ21 airVelocity air.speedQ4
  let gravity ← ofEnvironment (centralJ2Gravity w.earth ecef.position)
  let acceleration ← gravity.checkedAdd dragAcceleration
  let acceleration ← if w.segment = .eciCoast then pure acceleration
    else do
      let rotating ← ofEnvironment (ecefRotatingTerms ecef.position ecef.velocity .zero)
      acceleration.checkedAdd rotating
  let (acceleration, torque) ←
    w.propulsion state ecef massQ21 airVelocity air acceleration controlled
  let acceleration ← if w.segment = .eciCoast then transform.ecefToGcrf.rotate acceleration
    else pure acceleration
  requireClear .numeric
  return ⟨acceleration, air.machQ24, air.dynamicQ14, torque⟩

def forceSample (w : GlobalWorldMachine) (state : GlobalKinematicState) (controlled : Bool) :
    Except GlobalWorldError ForceSample :=
  w.forceSampleWithMass state w.totalMassQ21 controlled

end GlobalWorldMachine

end Ksa64.Sim
