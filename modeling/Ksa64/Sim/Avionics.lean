import Ksa64.Flight.Package
import Ksa64.Sim.WorldState

/-!
# The avionics mission

`GlobalPackageAvionicsMission` flies a flight package in the simulated world.  The world
itself is not modelled: what it and the sensors say at a release is an input, with every
error they may answer.  A release of the mission is not atomic.  The package takes its
release first, and the navigation errors are measured after it.
-/

namespace Ksa64.Sim

open Ksa64.Library Ksa64.Core Ksa64.Interface Ksa64.Flight

/-! ## The flight configuration -/

/-- The state of the world at the start, and what the mission asks of the flight. -/
structure InitialWorld where
  position : Vec3
  velocity : Vec3
  attitude : Quaternion
  /-- the attitude at the end of the pitch program -/
  finalAttitude : Quaternion
  mainDeploymentAltitudeQ12Km : Int32
deriving DecidableEq

def referenceGlobalFlightConfig (session : UInt16) (initial : InitialWorld) :
    GlobalFlightConfig where
  session := session
  initialFrame := .localEnuV1
  initialPositionQ12 := initial.position
  initialAttitudeQ30 := initial.attitude
  launchTargetQ30 := initial.attitude
  poweredTargetQ30 := initial.finalAttitude
  entryTargetQ30 := initial.attitude
  pitchProgramEndQ16 := (60 : UInt32) <<< 16
  proportionalGainQ15 := Vector.replicate 3 8192
  derivativeGainQ15 := Vector.replicate 3 32767
  torqueLimitQ12 := Vector.replicate 3 ((4 : Int32) <<< 12)
  gimbalLimitQ15 := 455
  minimumArmingTimeQ16 := (60 : UInt32) <<< 16
  drogueBackupTimeQ16 := (600 : UInt32) <<< 16
  mainBackupTimeQ16 := (900 : UInt32) <<< 16
  mainAltitudeQ12Km := initial.mainDeploymentAltitudeQ12Km
  minimumDeploymentSeparationQ16 := (2 : UInt32) <<< 16

/-! ## The mission -/

/-- What the sensors and the world have for a release. -/
structure ReleaseCells where
  fast : Option GlobalFastSensorCell
  aid : GlobalAidFrameCell
  transition : Option GlobalTransitionCell
  activePosition : Vec3
  activeVelocity : Vec3
deriving DecidableEq

structure GlobalReleaseBundle where
  fast : Option GlobalFastSensorCell
  aid : Option GlobalAidFrameCell
  transition : Option GlobalTransitionCell
  evidence : GlobalFlightEvidence
deriving DecidableEq

structure GlobalPackageAvionicsMission where
  package : KsaG10rReferenceOpsV1
  previousVelocity : Vec3
  commandChecksum : UInt32
  lastFlight : Option GlobalFlightEvidence
deriving DecidableEq

/-- The norm of a vector, if it is an `i32`. -/
def vectorMagnitude (value : Vec3) : Except GlobalWorldError Int32 :=
  let (magnitude, status) := magnitude3Floor (getElem value 0 Axes.x_lt) (getElem value 1 Axes.y_lt) (getElem value 2 Axes.z_lt) .clear
  if !status.isClear || 2147483647 < magnitude then .error .numeric else .ok magnitude.toInt32

namespace GlobalPackageAvionicsMission

def withPackage (package : KsaG10rReferenceOpsV1) (initial : InitialWorld) :
    GlobalPackageAvionicsMission where
  package := package
  previousVelocity := initial.velocity
  commandChecksum := 0x811c9dc5
  lastFlight := none

/-- The errors of the navigation and the acceleration can be measured.  Over a change of
frame there is no acceleration. -/
def measureErrors (m : GlobalPackageAvionicsMission) (cells : ReleaseCells)
    (navigation : GlobalNavigation) : Except GlobalWorldError Unit := do
  let _ ← vectorMagnitude (subtractVector cells.activePosition navigation.positionQ12)
  let _ ← vectorMagnitude (subtractVector cells.activeVelocity navigation.velocityQ24)
  if cells.transition.isNone then
    let deltaVelocity := subtractVector cells.activeVelocity m.previousVelocity
    let _ ← vectorMagnitude (deltaVelocity.map fun component ↦
      mulSatI32 component 512)

/-- The release of the package. -/
def processCells (m : GlobalPackageAvionicsMission) (cells : ReleaseCells) :
    GlobalFlightEvidence × GlobalPackageAvionicsMission :=
  let released := m.package.processRelease cells.fast (some cells.aid) cells.transition
  (released.1, { m with
    package := released.2, commandChecksum := released.1.command.commandChecksum })

def releaseBundle (m : GlobalPackageAvionicsMission)
    (answer : Except GlobalWorldError ReleaseCells) :
    Attempt GlobalWorldError GlobalPackageAvionicsMission GlobalReleaseBundle :=
  match answer with
  | .error e => (.error e, m)
  | .ok cells =>
      let processed := m.processCells cells
      match m.measureErrors cells processed.1.navigation with
      | .error e => (.error e, processed.2)
      | .ok () =>
          (.ok {
            fast := cells.fast
            aid := some cells.aid
            transition := cells.transition
            evidence := processed.1 },
           { processed.2 with
            lastFlight := some processed.1, previousVelocity := cells.activeVelocity })

end GlobalPackageAvionicsMission

end Ksa64.Sim
