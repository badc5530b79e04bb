import Ksa64.Interface.Canonical
import Ksa64.Interface.SpatialFrames

/-!
# The spatial frames on the wire

What is written of a sensor frame or of an actuator command is read back.
-/

namespace Ksa64.Interface

open Ksa64.Library

section Spatial

variable {frame : SpatialSensorFrame} {command : SpatialActuatorCommand} {out : List UInt8}

@[simp] theorem parseSpatialBool_boolByte (value : Bool) :
    parseSpatialBool (boolByte value) = .ok value := by
  cases value <;> rfl

@[simp] theorem parseStage_code (phase : StagePhase) : parseStage phase.code = .ok phase := by
  cases phase <;> rfl

@[simp] theorem parseEngine_code (action : EngineAction) :
    parseEngine action.code = .ok action := by
  cases action <;> rfl

/-- What the writer of a sensor frame accepts. -/
def SpatialSensorFrame.Valid (frame : SpatialSensorFrame) : Prop :=
  frame.validity &&& ~~~sensorValidMask = 0 ∧ frame.events &&& ~~~eventMask = 0

instance (frame : SpatialSensorFrame) : Decidable frame.Valid := instDecidableAnd

def SpatialSensorFrame.bytes (frame : SpatialSensorFrame) : List UInt8 :=
  sealRecord 124 (spatialSensorCells frame)

def SpatialActuatorCommand.bytes (command : SpatialActuatorCommand) : List UInt8 :=
  sealRecord 28 (spatialActuatorCells command)

theorem fits_spatialSensor (frame : SpatialSensorFrame) :
    Layout.Fits 124 0 (spatialSensorCells frame) := by
  simp [spatialSensorCells]

theorem fits_spatialActuator (command : SpatialActuatorCommand) :
    Layout.Fits 28 0 (spatialActuatorCells command) := by
  simp [spatialActuatorCells]

theorem length_bytes_sensor : frame.bytes.length = 128 :=
  ((eq_sealRecord_iff (fits_spatialSensor frame)).mp rfl).1

theorem length_bytes_actuator : command.bytes.length = 32 :=
  ((eq_sealRecord_iff (fits_spatialActuator command)).mp rfl).1

theorem writeSpatialSensorFrame_eq_ok (h : frame.Valid) (hout : out.length = spatialSensorFrameLength) :
    writeSpatialSensorFrame frame out = .ok frame.bytes := by
  unfold writeSpatialSensorFrame
  rw [reject_bind (not_not.mpr hout), reject_bind (by
    rw [not_or]
    exact ⟨not_not.mpr h.1, not_not.mpr h.2⟩)]
  rfl

theorem writeSpatialActuatorCommand_eq_ok (hout : out.length = spatialActuatorCommandLength) :
    writeSpatialActuatorCommand command out = .ok command.bytes := by
  unfold writeSpatialActuatorCommand
  rw [reject_bind (not_not.mpr hout)]
  rfl

theorem parseSpatialSensorFrame_bytes (h : frame.Valid) :
    parseSpatialSensorFrame frame.bytes = .ok frame := by
  obtain ⟨hlen, hcrc, hreads⟩ :=
    (eq_sealRecord_iff (fits_spatialSensor frame)).mp (rfl : frame.bytes = _)
  simp [spatialSensorCells] at hreads
  obtain ⟨hsequence, htime, hvalidity, hevents, haccel, hgyro, hbaro, hposition, hvelocity, hstar,
    hgimbal, hpropellant, hstage, hphase, hengine, hzero⟩ := hreads
  simp only [parseSpatialSensorFrame, bind_eq_ok, reject_eq_ok, pure_eq_ok, exists_const, not_or,
    not_not, Bool.not_eq_true]
  refine ⟨hlen, hcrc.symm, zeroOn_iff_any.mp hzero, ?_, ?_⟩
  · rw [hvalidity, hevents]
    exact h
  · refine ⟨frame.stagePhase, ?_, frame.engineOn, ?_, ?_⟩
    · rw [hphase, parseStage_code]
    · rw [hengine, parseSpatialBool_boolByte]
    · rw [hsequence, htime, hvalidity, hevents, haccel, hgyro, hbaro, hposition, hvelocity, hstar,
        hgimbal, hpropellant, hstage]
      rfl

theorem parseSpatialActuatorCommand_bytes :
    parseSpatialActuatorCommand command.bytes = .ok command := by
  obtain ⟨hlen, hcrc, hreads⟩ :=
    (eq_sealRecord_iff (fits_spatialActuator command)).mp (rfl : command.bytes = _)
  simp [spatialActuatorCells] at hreads
  obtain ⟨hsequence, hgimbal, hrcs, hengine, hseparate, habort, hzero⟩ := hreads
  simp only [parseSpatialActuatorCommand, bind_eq_ok, reject_eq_ok, pure_eq_ok, exists_const,
    not_not]
  refine ⟨hlen, hcrc.symm, hzero, command.engineAction, ?_, command.separate, ?_,
    command.abortSafeing, ?_, ?_⟩
  · rw [hengine, parseEngine_code]
  · rw [hseparate, parseSpatialBool_boolByte]
  · rw [habort, parseSpatialBool_boolByte]
  · rw [hsequence, hgimbal, hrcs]

end Spatial

end Ksa64.Interface
