import Ksa64.Core.Rcs
import Ksa64.Library.Run
import Ksa64.Library.Stateful

/-!
# What the jets were asked for

The accumulator of a jet is a byte, and it saturates.  Up to that, no release makes or loses
impulse: the pulses of a jet, what it has accumulated and what went over the end of the byte add up
to what was requested (`RcsState.pulses_accounted`).
-/

namespace Ksa64.Core

open Ksa64.Library

/-! ## One jet -/

section Jet

variable {release : Int32} {jet : RcsJetInstallation} {fault : RcsJetFault}
  {requested accumulated : UInt8}

/-- The quanta of the pulse of a jet. -/
def emittedQuanta (jet : RcsJetInstallation) (requested accumulated : UInt8) : UInt8 :=
  if requested = 0 ∨ addSat8 accumulated requested < jet.minPulseQuanta then 0
  else min (addSat8 accumulated requested) jet.maxPulseQuanta

/-- The delay of the valve. -/
def valveDelay (jet : RcsJetInstallation) (fault : RcsJetFault) : Nat :=
  jet.valveDelayQuanta.toNat + if fault = .delayedValveOneQuantum then 1 else 0

/-- What does not fit the accumulator. -/
def lostQuanta (requested accumulated : UInt8) : Nat :=
  accumulated.toNat + requested.toNat - 255

/-- A jet has no pulse if it was commanded none, and if its valve is stuck. -/
def Idle (jet : RcsJetInstallation) (fault : RcsJetFault) (requested accumulated : UInt8) : Prop :=
  requested = 0 ∨ addSat8 accumulated requested < jet.minPulseQuanta
    ∨ fault = .stuckClosed ∨ fault = .stuckOpen

theorem toNat_min (a b : UInt8) : (min a b).toNat = min a.toNat b.toNat := by
  show (if a ≤ b then a else b).toNat = _
  split_ifs with h
  · rw [UInt8.le_iff_toNat_le] at h
    omega
  · rw [UInt8.le_iff_toNat_le] at h
    omega

/-- A pulse is not longer than what there is. -/
theorem emittedQuanta_le :
    (emittedQuanta jet requested accumulated).toNat ≤ accumulated.toNat + requested.toNat := by
  unfold emittedQuanta
  split_ifs
  · exact Nat.zero_le _
  · rw [toNat_min, toNat_addSat8]
    omega

/-- A pulse is none, or it is neither too short nor too long. -/
theorem emittedQuanta_bounds (hjet : jet.minPulseQuanta.toNat ≤ jet.maxPulseQuanta.toNat) :
    (emittedQuanta jet requested accumulated).toNat = 0 ∨
      jet.minPulseQuanta.toNat ≤ (emittedQuanta jet requested accumulated).toNat ∧
        (emittedQuanta jet requested accumulated).toNat ≤ jet.maxPulseQuanta.toNat := by
  unfold emittedQuanta
  split_ifs with hnone
  · exact .inl rfl
  · rw [not_or, UInt8.lt_iff_toNat_lt] at hnone
    rw [toNat_min]
    omega

/-- The pulse and the accumulator take what is requested, up to the end of the byte. -/
theorem scheduleJet_accumulated :
    (emittedQuanta jet requested accumulated).toNat
        + (scheduleJet release jet fault requested accumulated).accumulated.toNat
        + lostQuanta requested accumulated
      = accumulated.toNat + requested.toNat := by
  have hsum := toNat_addSat8 accumulated requested
  have hbyte := accumulated.toNat_lt
  have hrest : ∀ total : UInt8, (min total jet.maxPulseQuanta).toNat
      + (total - min total jet.maxPulseQuanta).toNat = total.toNat := by
    intro total
    have hmin := toNat_min total jet.maxPulseQuanta
    rw [UInt8.toNat_sub_of_le _ _ (UInt8.le_iff_toNat_le.mpr (by omega))]
    omega
  unfold emittedQuanta scheduleJet lostQuanta
  dsimp only
  by_cases hzero : requested = 0
  · rw [if_pos (.inl hzero), if_pos hzero, hzero]
    show 0 + accumulated.toNat + (accumulated.toNat + 0 - 255) = accumulated.toNat + 0
    omega
  rw [if_neg hzero]
  by_cases hshort : addSat8 accumulated requested < jet.minPulseQuanta
  · rw [if_pos (.inr hshort), if_pos hshort]
    show 0 + (addSat8 accumulated requested).toNat + _ = _
    omega
  rw [if_neg hshort, if_neg (by simp only [hzero, hshort, or_self, not_false_eq_true])]
  have hsplit := hrest (addSat8 accumulated requested)
  split_ifs <;>
  · dsimp only
    omega

/-- A jet without a pulse has no edges. -/
theorem scheduleJet_idle (h : Idle jet fault requested accumulated) :
    (scheduleJet release jet fault requested accumulated).openAt = noEdge ∧
      (scheduleJet release jet fault requested accumulated).closeAt = noEdge := by
  unfold scheduleJet
  dsimp only
  by_cases hzero : requested = 0
  · rw [if_pos hzero]
    exact ⟨rfl, rfl⟩
  rw [if_neg hzero]
  by_cases hshort : addSat8 accumulated requested < jet.minPulseQuanta
  · rw [if_pos hshort]
    exact ⟨rfl, rfl⟩
  rw [if_neg hshort, if_pos ((h.resolve_left hzero).resolve_left hshort)]
  exact ⟨rfl, rfl⟩

/-- The times of a number of quanta. -/
theorem toInt_quanta {n : Nat} (h : n ≤ 264) :
    (Int32.ofNat n * rcsPulseQuantumQ18).toInt = n * 1024 := by
  have hn : (Int32.ofNat n).toInt = n := Int32.toInt_ofNat_of_lt (by omega)
  have hquantum : rcsPulseQuantumQ18.toInt = 1024 := rfl
  rw [Int32.toInt_mul, hn, hquantum, Int.bmod_def]
  omega

/-- A pulse begins the delay of the valve after the release, and lasts for its quanta. -/
theorem scheduleJet_pulse (hrelease : 0 ≤ release.toInt) (hdelay : jet.valveDelayQuanta.toNat ≤ 8)
    (h : ¬Idle jet fault requested accumulated) :
    (scheduleJet release jet fault requested accumulated).openAt.toInt
        = min (2 ^ 31 - 1) (release.toInt + valveDelay jet fault * 1024) ∧
      (scheduleJet release jet fault requested accumulated).closeAt.toInt
        = min (2 ^ 31 - 1) ((scheduleJet release jet fault requested accumulated).openAt.toInt
          + (emittedQuanta jet requested accumulated).toNat * 1024) := by
  unfold Idle at h
  rw [not_or, not_or] at h
  obtain ⟨hzero, hshort, hstuck⟩ := h
  have hextra : (addSat8 jet.valveDelayQuanta (if fault = .delayedValveOneQuantum then 1 else 0)).toNat
      = valveDelay jet fault := by
    rw [toNat_addSat8]
    unfold valveDelay
    split_ifs
    · show min (jet.valveDelayQuanta.toNat + 1) _ = _
      omega
    · show min (jet.valveDelayQuanta.toNat + 0) _ = _
      omega
  have hsmall : valveDelay jet fault ≤ 9 := by
    unfold valveDelay
    split_ifs <;> omega
  have hemitted : emittedQuanta jet requested accumulated
      = min (addSat8 accumulated requested) jet.maxPulseQuanta :=
    if_neg (by simp only [hzero, hshort, or_self, not_false_eq_true])
  have hbyte := (emittedQuanta jet requested accumulated).toNat_lt
  have hlast := Int32.toInt_lt release
  unfold scheduleJet
  dsimp only
  rw [if_neg hzero, if_neg hshort, if_neg hstuck, ← hemitted]
  dsimp only
  have hopen : (addSatI32 release (Int32.ofNat (valveDelay jet fault) * rcsPulseQuantumQ18)).toInt
      = min (2 ^ 31 - 1) (release.toInt + valveDelay jet fault * 1024) := by
    rw [toInt_addSatI32, toInt_quanta (by omega)]
    omega
  rw [hextra]
  refine ⟨hopen, ?_⟩
  rw [toInt_addSatI32, hopen, toInt_quanta (by omega)]
  omega

end Jet

/-! ## Releases -/

/-- The jets of a valid pack are valid. -/
theorem valid_jet {p : AdvancedEffectorPack} (h : p.isValid = true)
    (hrcs : p.effectors.hasRcs = true) (i : Fin 12) : (p.jets.get i).isValid = true := by
  simp only [AdvancedEffectorPack.isValid, hrcs, Bool.and_eq_true, if_true] at h
  have hcount : p.jetCount = 12 := by simpa using h.1.1.2
  have hall := h.2
  simp only [AdvancedEffectorPack.rcsValid, Bool.and_eq_true] at hall
  have hjets := hall.1.2
  rw [hcount, List.all_eq_true] at hjets
  apply hjets
  rw [List.take_of_length_le (by rw [Vector.length_toList]; decide), Vector.mem_toList_iff]
  exact Vector.getElem_mem i.isLt

/-- The bounds of a valid jet. -/
theorem jet_bounds {p : AdvancedEffectorPack} (h : p.isValid = true)
    (hrcs : p.effectors.hasRcs = true) (i : Fin 12) :
    (p.jets.get i).minPulseQuanta.toNat ≤ (p.jets.get i).maxPulseQuanta.toNat ∧
      (p.jets.get i).maxPulseQuanta.toNat ≤ 8 ∧ (p.jets.get i).valveDelayQuanta.toNat ≤ 8 := by
  have h := valid_jet h hrcs i
  simp only [RcsJetInstallation.isValid, Bool.and_eq_true, decide_eq_true_eq] at h
  obtain ⟨⟨⟨⟨⟨-, hpulse⟩, hmax⟩, hdelay⟩, -⟩, -⟩ := h
  exact ⟨UInt8.le_iff_toNat_le.mp hpulse, UInt8.le_iff_toNat_le.mp hmax,
    UInt8.le_iff_toNat_le.mp hdelay⟩

/-- One call of `scheduleSuccessor`. -/
structure ScheduleCall where
  releaseEpochQ18 : Int32
  command : RcsPulseCommand
  faults : Vector RcsJetFault 12

namespace RcsState

variable (pack : AdvancedEffectorPack) (index : Fin 12) (s : RcsState) (c : ScheduleCall)

/-- The result of a call, and the state that it leaves. -/
def call : Except RcsError Unit × RcsState :=
  (scheduleSuccessor c.releaseEpochQ18 c.command pack c.faults).run.run s

def step : RcsState := (s.call pack c).2

def accepts : Bool := (s.checkRelease c.releaseEpochQ18 c.command pack).isOk

def accumulated : Int := (s.accumulatorQuanta.get index).toNat

/-- The quanta of the jet's pulse. -/
def pulseQuanta : Int :=
  if s.accepts pack c then
    (emittedQuanta (pack.jets.get index) (c.command.quanta.get index)
      (s.accumulatorQuanta.get index)).toNat
  else 0

/-- The quanta that go over the end of the accumulator. -/
def overflowQuanta : Int :=
  if s.accepts pack c then
    lostQuanta (c.command.quanta.get index) (s.accumulatorQuanta.get index)
  else 0

def requestedQuanta : Int := if s.accepts pack c then (c.command.quanta.get index).toNat else 0

/-- The pulse that an accepted call leaves a jet with. -/
structure Pulsed : Prop where
  length :
    let emitted := emittedQuanta (pack.jets.get index) (c.command.quanta.get index)
      (s.accumulatorQuanta.get index);
    emitted.toNat = 0 ∨ (pack.jets.get index).minPulseQuanta.toNat ≤ emitted.toNat ∧
      emitted.toNat ≤ (pack.jets.get index).maxPulseQuanta.toNat
  idle : Idle (pack.jets.get index) (c.faults.get index) (c.command.quanta.get index)
      (s.accumulatorQuanta.get index) →
    (s.step pack c).openAtQ18.get index = noEdge ∧ (s.step pack c).closeAtQ18.get index = noEdge
  timed : ¬Idle (pack.jets.get index) (c.faults.get index) (c.command.quanta.get index)
      (s.accumulatorQuanta.get index) →
    ((s.step pack c).openAtQ18.get index).toInt
        = min (2 ^ 31 - 1) (c.releaseEpochQ18.toInt
          + valveDelay (pack.jets.get index) (c.faults.get index) * 1024) ∧
      ((s.step pack c).closeAtQ18.get index).toInt
        = min (2 ^ 31 - 1)
          (((s.step pack c).openAtQ18.get index).toInt + s.pulseQuanta pack index c * 1024)
  inside : ¬Idle (pack.jets.get index) (c.faults.get index) (c.command.quanta.get index)
      (s.accumulatorQuanta.get index) →
    valveDelay (pack.jets.get index) (c.faults.get index) + s.pulseQuanta pack index c ≤ 8 →
    c.releaseEpochQ18.toInt ≤ ((s.step pack c).openAtQ18.get index).toInt ∧
      ((s.step pack c).closeAtQ18.get index).toInt
        ≤ c.releaseEpochQ18.toInt + avionicsIntervalQ18.toInt

/-- A call either leaves every jet with its pulse, or fails and leaves the state; it fails as long
as a pulse of an earlier call is not over. -/
structure Released : Prop where
  accepted : s.accepts pack c = true → (s.call pack c).1 = .ok () ∧ ∀ index, s.Pulsed pack index c
  refused : s.accepts pack c = false → (∃ e, (s.call pack c).1 = .error e) ∧ s.step pack c = s
  pending : (∃ index, s.pulsePending c.releaseEpochQ18 index) → s.accepts pack c = false

variable {pack : AdvancedEffectorPack} {index : Fin 12} {s : RcsState} {c : ScheduleCall}

theorem scheduled_eq : s.scheduled c.releaseEpochQ18 c.command pack c.faults index
    = scheduleJet c.releaseEpochQ18 (pack.jets.get index) (c.faults.get index)
      (c.command.quanta.get index) (s.accumulatorQuanta.get index) := rfl

theorem call_eq : s.call pack c =
    match s.checkRelease c.releaseEpochQ18 c.command pack with
    | .ok _ => (.ok (), s.released c.releaseEpochQ18 c.command pack c.faults)
    | .error e => (.error e, s) := by
  unfold call scheduleSuccessor
  have hupdate := @checked_update RcsState RcsError s
    (fun s ↦ s.checkRelease c.releaseEpochQ18 c.command pack)
    (fun s ↦ s.released c.releaseEpochQ18 c.command pack c.faults)
  refine hupdate.trans ?_
  cases s.checkRelease c.releaseEpochQ18 c.command pack <;> rfl

theorem call_accepted (h : s.accepts pack c = true) :
    s.call pack c = (.ok (), s.released c.releaseEpochQ18 c.command pack c.faults) := by
  rw [call_eq]
  unfold accepts at h
  cases hcheck : s.checkRelease c.releaseEpochQ18 c.command pack with
  | ok _ => rfl
  | error e =>
    rw [hcheck] at h
    cases h

theorem call_refused (h : s.accepts pack c = false) : ∃ e, s.call pack c = (.error e, s) := by
  rw [call_eq]
  unfold accepts at h
  cases hcheck : s.checkRelease c.releaseEpochQ18 c.command pack with
  | error e => exact ⟨e, rfl⟩
  | ok _ =>
    rw [hcheck] at h
    cases h

/-- The state of a jet after an accepted call. -/
theorem step_accepted (h : s.accepts pack c = true) :
    s.step pack c = s.released c.releaseEpochQ18 c.command pack c.faults :=
  congrArg Prod.snd (call_accepted h)

theorem step_refused (h : s.accepts pack c = false) : s.step pack c = s := by
  obtain ⟨e, he⟩ := call_refused h
  exact congrArg Prod.snd he

/-- What an accepted call has checked. -/
theorem accepts_checked (h : s.accepts pack c = true) :
    0 ≤ c.releaseEpochQ18.toInt ∧ ∀ index, ¬s.pulsePending c.releaseEpochQ18 index := by
  unfold accepts at h
  cases hcheck : s.checkRelease c.releaseEpochQ18 c.command pack with
  | error e =>
    rw [hcheck] at h
    cases h
  | ok u =>
    cases u
    unfold checkRelease at hcheck
    simp only [bind_eq_ok, reject_eq_ok, forM_eq_ok] at hcheck
    obtain ⟨-, -, -, hepoch, -, -, hjets⟩ := hcheck
    rw [not_or, Int32.not_lt, Int32.le_iff_toInt_le] at hepoch
    refine ⟨hepoch.1, fun index ↦ ?_⟩
    obtain ⟨-, -, hpending⟩ := hjets index (List.mem_finRange index)
    exact hpending

/-- Every call does what it should. -/
theorem released_call (hvalid : pack.isValid = true) (hrcs : pack.effectors.hasRcs = true) :
    s.Released pack c := by
  constructor
  · intro haccepted
    refine ⟨congrArg Prod.fst (call_accepted haccepted), fun index ↦ ?_⟩
    obtain ⟨hmin, hmax, hdelay⟩ := jet_bounds hvalid hrcs index
    obtain ⟨hepoch, -⟩ := accepts_checked haccepted
    have hstep := step_accepted haccepted
    have hopen : (s.step pack c).openAtQ18.get index
        = (s.scheduled c.releaseEpochQ18 c.command pack c.faults index).openAt := by
      rw [hstep]
      exact Vector.getElem_ofFn index.isLt
    have hclose : (s.step pack c).closeAtQ18.get index
        = (s.scheduled c.releaseEpochQ18 c.command pack c.faults index).closeAt := by
      rw [hstep]
      exact Vector.getElem_ofFn index.isLt
    have hquanta : s.pulseQuanta pack index c = (emittedQuanta (pack.jets.get index)
        (c.command.quanta.get index) (s.accumulatorQuanta.get index)).toNat := if_pos haccepted
    have hlimits := @emittedQuanta_bounds (pack.jets.get index) (c.command.quanta.get index)
      (s.accumulatorQuanta.get index) hmin
    constructor
    · exact hlimits
    · intro hidle
      rw [hopen, hclose]
      exact scheduleJet_idle hidle
    · intro hpulse
      rw [hopen, hclose, hquanta]
      exact scheduleJet_pulse hepoch hdelay hpulse
    · intro hpulse hshort
      obtain ⟨hopens, hcloses⟩ := scheduleJet_pulse hepoch hdelay hpulse
      have hinterval : avionicsIntervalQ18.toInt = 8192 := rfl
      have hlast := Int32.toInt_lt c.releaseEpochQ18
      rw [hquanta] at hshort
      rw [hopen, hclose, hinterval, scheduled_eq]
      omega
  · intro hrefused
    obtain ⟨e, he⟩ := call_refused hrefused
    exact ⟨⟨e, congrArg Prod.fst he⟩, step_refused hrefused⟩
  · rintro ⟨index, hpending⟩
    rw [← Bool.not_eq_true]
    intro haccepted
    exact (accepts_checked haccepted).2 index hpending

/-- No call makes or loses impulse, but for what goes over the end of the accumulator. -/
theorem step_accounted :
    s.pulseQuanta pack index c + s.overflowQuanta pack index c + (s.step pack c).accumulated index
      = s.accumulated index + s.requestedQuanta pack index c := by
  unfold pulseQuanta overflowQuanta requestedQuanta accumulated
  cases haccepted : s.accepts pack c with
  | false =>
    rw [step_refused haccepted]
    simp only [Bool.false_eq_true, if_false]
    omega
  | true =>
    have hjet := @scheduleJet_accumulated c.releaseEpochQ18 (pack.jets.get index) (c.faults.get index)
      (c.command.quanta.get index) (s.accumulatorQuanta.get index)
    have hnext : (s.step pack c).accumulatorQuanta.get index
        = (s.scheduled c.releaseEpochQ18 c.command pack c.faults index).accumulated := by
      rw [step_accepted haccepted]
      exact Vector.getElem_ofFn index.isLt
    rw [hnext, scheduled_eq]
    simp only [if_true]
    omega

/-- Over any run, the pulses of a jet and its accumulator have what was requested of it but for what
went over the end of the accumulator, and every call does what it should. -/
theorem pulses_accounted (hvalid : pack.isValid = true) (hrcs : pack.effectors.hasRcs = true)
    (s : RcsState) (calls : List ScheduleCall) :
    (∀ index, total (step pack) (fun s c ↦ s.pulseQuanta pack index c + s.overflowQuanta pack index c)
        s calls + (run (step pack) s calls).accumulated index
      = s.accumulated index + total (step pack) (requestedQuanta pack index) s calls) ∧
    Meets (step pack) (fun s c ↦ s.Released pack c) s calls := by
  constructor
  · intro index
    have hall : Meets (step pack) (fun _ _ ↦ True) s calls :=
      meets_iff_forall.mpr fun _ _ _ _ ↦ trivial
    exact total_conserved (fun _ ↦ True) (fun s c _ _ ↦ ⟨trivial, step_accounted⟩) trivial hall
  · exact meets_iff_forall.mpr fun _ _ _ _ ↦ released_call hvalid hrcs

end RcsState

/-- A jet that is open for one quantum at a time. -/
def shortJet : RcsJetInstallation where
  positionQ28 := .replicate 3 0
  directionQ30 := .replicate 3 1
  nominalThrustQ23 := 1
  specificImpulseQ16 := 1
  minPulseQuanta := 1
  maxPulseQuanta := 1
  valveDelayQuanta := 0
  failureIdentity := 1
  provenanceIdentity := 1

def noCanard : CanardInstallation where
  normalQ15 := .replicate 3 0
  hingeAxisQ15 := .replicate 3 0
  rootQ28 := 0
  tipQ28 := 0
  spanQ28 := 0
  sweepQ28 := 0
  massQ21 := 0
  inertiaQ19 := .replicate 3 0
  limitTurn16 := 0
  slewTurn16PerRelease := 0
  lagReleases := 0
  failureIdentity := 0

/-- Twelve short jets. -/
def shortPack : AdvancedEffectorPack where
  identity := 1
  effectors := .rcsOnly
  supplySource := .regulatedV1
  vehicleIdentity := 1
  neutralVehicleIdentity := 1
  supplyIdentity := 1
  provenanceIdentity := 1
  tankDryMassQ21 := 1
  propellantWetMassQ21 := 1
  reserveQ15 := 0
  canardHingeLimitsQ24 := .replicate 4 0
  canardCount := 0
  jetCount := 12
  coefficientCount := 0
  supplyCount := 2
  canards := .replicate 4 noCanard
  coefficientKnots := .replicate 8 ⟨0, 0, 0, 0⟩
  jets := .replicate 12 shortJet
  supplyKnots := (Vector.replicate 16 ⟨0, 1, 1, 1⟩).setIfInBounds 1 ⟨1, 1, 1, 1⟩

/-- The state of the pack before the first call. -/
def freshState : RcsState := ⟨1, .replicate 12 0, .replicate 12 noEdge, .replicate 12 noEdge, -8192⟩

/-- At each of the releases, one jet is asked for a full interval. -/
def fullCalls (n : Nat) : List ScheduleCall :=
  (List.range n).map fun k ↦
    ⟨8192 * Int32.ofNat k, ⟨(Vector.replicate 12 0).setIfInBounds 0 8⟩, .replicate 12 .healthy⟩

theorem pulses_accounted_once :
    (∀ index, total (RcsState.step shortPack)
        (fun s c ↦ s.pulseQuanta shortPack index c + s.overflowQuanta shortPack index c)
        freshState (fullCalls 1) + (run (RcsState.step shortPack) freshState (fullCalls 1)).accumulated index
      = freshState.accumulated index
        + total (RcsState.step shortPack) (RcsState.requestedQuanta shortPack index) freshState
          (fullCalls 1)) ∧
    Meets (RcsState.step shortPack) (fun s c ↦ s.Released shortPack c) freshState (fullCalls 1) :=
  RcsState.pulses_accounted rfl rfl freshState (fullCalls 1)

/-- A jet that is open for one quantum and asked for eight accumulates seven at each release, until
the accumulator has no room for them. -/
theorem saturated_accumulator_loses :
    RcsState.new shortPack = .ok freshState ∧
      total (RcsState.step shortPack) (RcsState.pulseQuanta shortPack 0) freshState (fullCalls 37)
          + (run (RcsState.step shortPack) freshState (fullCalls 37)).accumulated 0
        ≠ freshState.accumulated 0
          + total (RcsState.step shortPack) (RcsState.requestedQuanta shortPack 0) freshState
            (fullCalls 37) := by
  refine ⟨rfl, ?_⟩
  decide +kernel

end Ksa64.Core
