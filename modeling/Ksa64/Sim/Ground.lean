import Ksa64.Flight.Phase10Math
import Ksa64.Interface.Phase11

/-!
# Ground tracking

The ground station sees the true position through noise that is keyed by a seed, an epoch
and an axis, and estimates the state from what it sees.  The first observation is taken
as it is.
-/

namespace Ksa64.Sim

open Ksa64.Library Ksa64.Flight Ksa64.Interface

def groundTrackingSourceId : UInt32 := 0x11e00001
def groundEstimatorId : UInt32 := 0x11e01001

/-- FNV-1a over words, never zero. -/
def hashWords (values : List UInt32) : UInt32 := max (values.foldl hashWord 0x811c9dc5) 1

def hashState (seed : UInt32) (position velocity : Vector Int32 3) : UInt32 :=
  hashWords (seed :: (position.toList ++ velocity.toList).map Int32.toUInt32)

def mix (value : UInt32) : UInt32 :=
  let value := value ^^^ (value >>> 16)
  let value := value * 0x7feb352d
  let value := value ^^^ (value >>> 15)
  let value := value * 0x846ca68b
  value ^^^ (value >>> 16)

/-- A pseudorandom value between `-amplitude` and `amplitude`. -/
def keyedNoise (seed epoch axis : UInt32) (amplitude : Int32) : Int32 :=
  let value := mix (seed ^^^ (epoch * 0x9e3779b9) ^^^ (axis * 0x85ebca6b))
  (value % (amplitude.toUInt32 * 2 + 1)).toInt32 - amplitude

structure GroundTruthSample where
  epoch : UInt32
  frame : GlobalFrameId
  positionQ12Km : Vector Int32 3
  velocityQ24KmS : Vector Int32 3
deriving DecidableEq

/-- The vector with keyed noise on every axis. -/
def addNoise (value : Vector Int32 3) (seed epoch : UInt32) (amplitude : Int32) :
    Vector Int32 3 :=
  value.mapFinIdx fun axis component _ ↦
    addSatI32 component (keyedNoise seed epoch (UInt32.ofNat axis) amplitude)

def synthesizeGroundObservation (sample : GroundTruthSample) (delayReleases seed : UInt32) :
    GroundTrackingObservation :=
  let position := addNoise sample.positionQ12Km seed sample.epoch 8
  let velocity := addNoise sample.velocityQ24KmS (seed ^^^ 0xa5a55a5a) sample.epoch 1024
  let observationIdentity :=
    hashWords [groundTrackingSourceId, sample.epoch, seed, sample.frame.code.toUInt32]
  { sourceIdentity := groundTrackingSourceId
    observationIdentity := observationIdentity
    measurementEpoch := sample.epoch
    receiptEpoch := addSat32 sample.epoch delayReleases
    frame := sample.frame
    validity := 3
    positionQ12Km := position
    velocityQ24KmS := velocity
    uncertaintyQ16 := #v[131072, 131072, 196608]
    observationChecksum := hashState observationIdentity position velocity }

structure GroundEstimator where
  estimate : Option GroundEstimate
  checksum : UInt32
deriving DecidableEq

namespace GroundEstimator

def new : GroundEstimator where
  estimate := none
  checksum := 0x811c9dc5

/-- Half way from the previous value to the observed one. -/
def halfway (previous observed : Int32) : Int32 :=
  addSatI32 previous (subSatI32 observed previous / 2)

/-- Position, velocity and residual after an observation. -/
def blended (e : GroundEstimator) (observation : GroundTrackingObservation) :
    Vector Int32 3 × Vector Int32 3 × Vector Int32 3 :=
  let fresh := (observation.positionQ12Km, observation.velocityQ24KmS, .replicate 3 0)
  match e.estimate with
  | some previous =>
      if previous.frame = observation.frame then
        (Vector.zipWith halfway previous.positionQ12Km observation.positionQ12Km,
          Vector.zipWith halfway previous.velocityQ24KmS observation.velocityQ24KmS,
          Vector.zipWith subSatI32 observation.positionQ12Km previous.positionQ12Km)
      else fresh
  | none => fresh

def update (e : GroundEstimator) (observation : GroundTrackingObservation)
    (productionEpoch : UInt32) : Option GroundEstimate × GroundEstimator :=
  if observation.sourceIdentity ≠ groundTrackingSourceId
      ∨ observation.validity &&& 3 ≠ 3
      ∨ productionEpoch < observation.receiptEpoch
      ∨ observation.receiptEpoch < observation.measurementEpoch then (none, e)
  else
    let state := e.blended observation
    let checksum :=
      hashState (e.checksum ^^^ observation.observationChecksum) state.1 state.2.1
    let estimateIdentity := hashWords
      [groundEstimatorId, observation.observationIdentity, productionEpoch, checksum]
    let estimate : GroundEstimate := {
      estimatorIdentity := groundEstimatorId
      estimateIdentity := estimateIdentity
      sourceObservationIdentity := observation.observationIdentity
      measurementEpoch := observation.measurementEpoch
      productionEpoch := productionEpoch
      frame := observation.frame
      flags := if observation.receiptEpoch < productionEpoch then 1 else 0
      positionQ12Km := state.1
      velocityQ24KmS := state.2.1
      confidenceQ16 := observation.uncertaintyQ16
      residualQ16 := state.2.2
      estimatorChecksum := checksum }
    (some estimate, ⟨some estimate, checksum⟩)

end GroundEstimator

end Ksa64.Sim
