import Ksa64.Flight.Deployment
import Ksa64.Flight.SafeholdRuns

/-!
# How old an aid cell may be

An aid cell is used if it was produced at most 32 releases ago.  The epochs are 16-bit counters, so
ages are differences modulo `2 ^ 16`; but that the measurement precedes the production is checked by
comparing the counters themselves.  A cell that is fresh by its ages is refused exactly when the
counter wrapped around between its measurement and its production (`fresh_aid_accepted_iff`).
-/

namespace Ksa64.Flight

open Ksa64.Interface

/-- The age of an epoch at another one. -/
def releasesSince (epoch earlier : UInt16) : Nat := (epoch - earlier).toNat

/-- The cell belongs to the session and the frame, was produced at most 32 releases before the
epoch, and measured at most 32 releases before it was produced. -/
structure FreshAid (session epoch : UInt16) (frame : GlobalFrameId) (cell : GlobalAidFrameCell) :
    Prop where
  session_eq : cell.session = session
  frame_eq : cell.frame = frame
  produced : releasesSince epoch cell.productionEpoch ≤ 32
  measured : releasesSince cell.productionEpoch cell.measurementEpoch ≤ 32

/-- The counter passed zero between the measurement and the production. -/
def WrappedWhileProduced (cell : GlobalAidFrameCell) : Prop :=
  2 ^ 16 ≤ cell.measurementEpoch.toNat
    + releasesSince cell.productionEpoch cell.measurementEpoch

section Fresh

variable {session epoch : UInt16} {frame : GlobalFrameId} {cell : GlobalAidFrameCell}

/-- Counters are in order as long as they do not wrap around. -/
theorem measured_le_iff :
    cell.measurementEpoch ≤ cell.productionEpoch ↔ ¬WrappedWhileProduced cell := by
  have hmeasured := cell.measurementEpoch.toNat_lt
  have hproduced := cell.productionEpoch.toNat_lt
  unfold WrappedWhileProduced releasesSince
  rw [UInt16.le_iff_toNat_le, UInt16.toNat_sub]
  omega

/-- What remains of the check for a fresh cell. -/
theorem FreshAid.checked_iff (h : FreshAid session epoch frame cell) :
    (cell.session == session && decide (cell.measurementEpoch ≤ cell.productionEpoch)
      && decide (epoch - cell.productionEpoch ≤ 32) && cell.frame == frame) = true
      ↔ ¬WrappedWhileProduced cell := by
  have hproduced : epoch - cell.productionEpoch ≤ 32 := UInt16.le_iff_toNat_le.mpr h.produced
  rw [h.session_eq, h.frame_eq, decide_eq_true hproduced, beq_self_eq_true, beq_self_eq_true,
    Bool.true_and, Bool.and_true, Bool.and_true, decide_eq_true_iff, measured_le_iff]

end Fresh

/-- **Fresh aid cells.**  The flight computer and the safehold package accept a fresh cell if and
only if the counter did not wrap around between its measurement and its production. -/
theorem fresh_aid_accepted_iff (c : GlobalFlightComputer) (s : SafeholdRecoveryV1)
    (cell : GlobalAidFrameCell) :
    (FreshAid c.config.session c.epoch c.navigation.frame cell →
      (c.validAid (some cell) = some cell ↔ ¬WrappedWhileProduced cell)) ∧
    (FreshAid s.config.session s.epoch s.navigation.frame cell →
      (s.validAid (some cell) = some cell ↔ ¬WrappedWhileProduced cell)) := by
  constructor
  · intro h
    rw [← h.checked_iff]
    exact Option.filter_eq_some_iff.trans (and_iff_right rfl)
  · intro h
    rw [← h.checked_iff]
    exact Option.filter_eq_some_iff.trans (and_iff_right rfl)

/-- A cell with nothing in it. -/
def emptyAid (session measurement production : UInt16) (frame : GlobalFrameId) :
    GlobalAidFrameCell where
  session := session
  measurementEpoch := measurement
  productionEpoch := production
  frame := frame
  validity := 0
  missionTimeQ16 := 0
  barometerQ12Km := 0
  gnssPositionQ12Km := .replicate 3 0
  gnssVelocityQ24KmS := .replicate 3 0
  attitudeQ30 := .replicate 4 0
  frameRotationQ30 := .replicate 4 0
  frameOmegaQ24 := .replicate 3 0
  events := 0
  continuity := 0
  deploymentFeedback := 0

/-- The computer and the package at an epoch. -/
def computerAt (epoch : UInt16) : GlobalFlightComputer :=
  { GlobalFlightComputer.referenceComputer with epoch := epoch }

def packageAt (epoch : UInt16) : SafeholdRecoveryV1 :=
  { SafeholdRecoveryV1.coastPackage with epoch := epoch }

/-- What they would be sent. -/
def computerAid (measurement production : UInt16) : GlobalAidFrameCell :=
  emptyAid GlobalFlightComputer.referenceComputer.config.session measurement production
    GlobalFlightComputer.referenceComputer.navigation.frame

def packageAid (measurement production : UInt16) : GlobalAidFrameCell :=
  emptyAid SafeholdRecoveryV1.coastPackage.config.session measurement production
    SafeholdRecoveryV1.coastPackage.navigation.frame

/-- A cell that was produced after the wrap and measured after it as well. -/
theorem fresh_aid_accepted_after_wrap :
    (computerAt 3).validAid (some (computerAid 1 2)) = some (computerAid 1 2)
      ∧ (packageAt 3).validAid (some (packageAid 1 2)) = some (packageAid 1 2) := by
  constructor
  · refine ((fresh_aid_accepted_iff (computerAt 3) (packageAt 3) (computerAid 1 2)).1 ⟨rfl, rfl, ?_, ?_⟩).mpr ?_
    · show releasesSince 3 2 ≤ 32
      decide
    · show releasesSince 2 1 ≤ 32
      decide
    · show ¬2 ^ 16 ≤ (1 : UInt16).toNat + releasesSince 2 1
      decide
  · refine ((fresh_aid_accepted_iff (computerAt 3) (packageAt 3) (packageAid 1 2)).2 ⟨rfl, rfl, ?_, ?_⟩).mpr ?_
    · show releasesSince 3 2 ≤ 32
      decide
    · show releasesSince 2 1 ≤ 32
      decide
    · show ¬2 ^ 16 ≤ (1 : UInt16).toNat + releasesSince 2 1
      decide

/-- A cell that was measured six releases before the wrap is fresh and refused by both. -/
theorem fresh_aid_refused_at_wrap :
    (FreshAid (computerAt 3).config.session (computerAt 3).epoch (computerAt 3).navigation.frame
        (computerAid 65530 2)
      ∧ (computerAt 3).validAid (some (computerAid 65530 2)) = none) ∧
    (FreshAid (packageAt 3).config.session (packageAt 3).epoch (packageAt 3).navigation.frame
        (packageAid 65530 2)
      ∧ (packageAt 3).validAid (some (packageAid 65530 2)) = none) := by
  have hproduced : releasesSince 3 2 ≤ 32 := by decide
  have hmeasured : releasesSince 2 65530 ≤ 32 := by decide
  have hcomputer : FreshAid (computerAt 3).config.session (computerAt 3).epoch
      (computerAt 3).navigation.frame (computerAid 65530 2) := ⟨rfl, rfl, hproduced, hmeasured⟩
  have hpackage : FreshAid (packageAt 3).config.session (packageAt 3).epoch
      (packageAt 3).navigation.frame (packageAid 65530 2) := ⟨rfl, rfl, hproduced, hmeasured⟩
  have hwrapped : 2 ^ 16 ≤ (65530 : UInt16).toNat + releasesSince 2 65530 := by decide
  refine ⟨⟨hcomputer, ?_⟩, hpackage, ?_⟩
  · exact Option.filter_eq_none_iff.mpr (fun cell hcell hchecked ↦ by
      cases hcell
      exact hcomputer.checked_iff.mp hchecked hwrapped)
  · exact Option.filter_eq_none_iff.mpr (fun cell hcell hchecked ↦ by
      cases hcell
      exact hpackage.checked_iff.mp hchecked hwrapped)

end Ksa64.Flight
