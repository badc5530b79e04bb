import Ksa64.Core.GlobalGeodesy
import Ksa64.Sim.HistoryCodec

/-!
# Recording a history

A recorder keeps the initial point, each step that is a multiple of the stride, and the terminal step.
The events of the steps in between are carried to the next point.
-/

namespace Ksa64.Sim

open Ksa64.Library Ksa64.Core

/-- What is recorded of a vehicle. -/
structure Phase5VehicleSnapshot where
  step : UInt32
  positionQ12 : Vector Int32 3
  dynamicPressureQ16 : Int32
  events : UInt16

/-- What is recorded of a step of the closed loop. -/
structure Phase5ClosedLoopStep where
  vehicle : Phase5VehicleSnapshot
  alarms : UInt16
  navigationPositionQ12 : Vector Int32 3

/-! ## Points -/

def positionQuarterKm (q12Metres : Int32) : Int16 :=
  Int16.ofInt (max (-32768) (min (q12Metres / 1024).toInt 32767))

/-- The magnitude, or the largest number for the smallest one. -/
def saturatingAbs (a : Int32) : UInt32 := UInt32.ofNat (min a.toInt.natAbs 2147483647)

def saturatingAdd (a b : UInt32) : UInt32 := UInt32.ofNat (min (a.toNat + b.toNat) 4294967295)

/-- The sum of the errors along the axes. -/
def navErrorQuarterKm (step : Phase5ClosedLoopStep) : UInt16 :=
  let l1 := (step.vehicle.positionQ12.zip step.navigationPositionQ12).toList.foldl
    (fun l1 axis ↦ saturatingAdd l1 (saturatingAbs (saturatingSubI32 axis.1 axis.2))) 0
  (min (l1 / 1024) 65535).toUInt16

def pointFromSnapshot (snapshot : Phase5VehicleSnapshot) (events alarms : UInt16)
    (navigationErrorQuarterKm : UInt16) : Phase5HistoryPoint where
  step := (min snapshot.step 65535).toUInt16
  positionQuarterKm := snapshot.positionQ12.map positionQuarterKm
  dynamicPressureSixteenthKpa :=
    (min ((max snapshot.dynamicPressureQ16 0).toUInt32 >>> 12) 65535).toUInt16
  navigationErrorQuarterKm := navigationErrorQuarterKm
  events := events
  alarms := alarms

/-- The point without the words that are carried to it. -/
def Phase5HistoryPoint.unmasked (point : Phase5HistoryPoint) : Phase5HistoryPoint :=
  { point with
    events := 0
    alarms := 0 }

/-! ## The recorder -/

/-- The points in use, and what has happened since the last one. -/
structure Phase5HistoryRecorder where
  stride : UInt16
  points : List Phase5HistoryPoint
  eventsSinceSample : UInt16
  alarmsSinceSample : UInt16

namespace Phase5HistoryRecorder

def new (stride : UInt16) : Phase5HistoryRecorder where
  stride := stride
  points := []
  eventsSinceSample := 0
  alarmsSinceSample := 0

-- there is room for `capacity` points
variable (capacity : Nat)

def push (r : Phase5HistoryRecorder) (point : Phase5HistoryPoint) :
    Except Phase5HistoryError Phase5HistoryRecorder := do
  reject (r.stride = 0) .stride
  reject (r.points.length = capacity) .capacity
  pure { r with points := r.points ++ [point] }

def observeInitial (r : Phase5HistoryRecorder) (snapshot : Phase5VehicleSnapshot) :
    Except Phase5HistoryError Phase5HistoryRecorder :=
  r.push capacity (pointFromSnapshot snapshot 0 0 0)

def observeStep (r : Phase5HistoryRecorder) (step : Phase5ClosedLoopStep) (terminal : Bool) :
    Except Phase5HistoryError Phase5HistoryRecorder :=
  let n := step.vehicle.step
  let events := r.eventsSinceSample ||| step.vehicle.events
  let alarms := r.alarmsSinceSample ||| step.alarms
  if terminal ∨ r.stride ≠ 0 ∧ n % r.stride.toUInt32 = 0 then
    let point := pointFromSnapshot step.vehicle events alarms (navErrorQuarterKm step)
    let r := { r with eventsSinceSample := 0, alarmsSinceSample := 0 }
    if terminal ∧ (r.points.getLast?.map (·.step)) = some n.toUInt16 then
      .ok { r with points := r.points.dropLast ++ [point] }
    else r.push capacity point
  else .ok { r with eventsSinceSample := events, alarmsSinceSample := alarms }

end Phase5HistoryRecorder

/-! ## Missions -/

/-- The words of a list together. -/
def orAll (words : List UInt16) : UInt16 := words.foldr (· ||| ·) 0

theorem orAll_append (xs ys : List UInt16) : orAll (xs ++ ys) = orAll xs ||| orAll ys := by
  induction xs with
  | nil => exact UInt16.zero_or.symm
  | cons x xs ih =>
      show x ||| orAll (xs ++ ys) = (x ||| orAll xs) ||| orAll ys
      rw [ih, UInt16.or_assoc]

theorem orAll_singleton (x : UInt16) : orAll [x] = x := UInt16.or_zero

/-- An observed mission: the initial snapshot of a vehicle, and the steps after it with the numbers
1, 2, and so on.  The last step is terminal, unless the mission is cut off. -/
structure ObservedMission where
  initial : Phase5VehicleSnapshot
  steps : List Phase5ClosedLoopStep
  completed : Bool
  initial_step : initial.step = 0
  initial_events : initial.events = 0
  numbered : ∀ (i : Nat) (h : i < steps.length), (steps[i]).vehicle.step.toNat = i + 1
  bounded : steps.length ≤ 65535

namespace ObservedMission

variable (m : ObservedMission)

/-- The step is the terminal one. -/
def terminal (step : Phase5ClosedLoopStep) : Bool :=
  m.completed && step.vehicle.step.toNat == m.steps.length

/-- Observe the mission from the start. -/
def record (capacity : Nat) (stride : UInt16) : Except Phase5HistoryError Phase5HistoryRecorder := do
  let r ← (Phase5HistoryRecorder.new stride).observeInitial capacity m.initial
  m.steps.foldlM (fun r step ↦ r.observeStep capacity step (m.terminal step)) r

/-- The step is kept: it is a multiple of the stride, or the terminal one. -/
def Kept (stride : UInt16) (step : Phase5ClosedLoopStep) : Bool :=
  step.vehicle.step.toNat % stride.toNat == 0 || m.terminal step

/-- The initial point and the points of some steps, without the words that are carried to them. -/
def pointsOf (steps : List Phase5ClosedLoopStep) : List Phase5HistoryPoint :=
  pointFromSnapshot m.initial 0 0 0
    :: steps.map fun step ↦ pointFromSnapshot step.vehicle 0 0 (navErrorQuarterKm step)

/-- What has been recorded after some of the steps. -/
structure Recorded (stride : UInt16) (steps : List Phase5ClosedLoopStep) (r : Phase5HistoryRecorder) :
    Prop where
  stride_eq : r.stride = stride
  points : r.points.map Phase5HistoryPoint.unmasked = m.pointsOf (steps.filter (m.Kept stride))
  events : orAll (r.points.map (·.events)) ||| r.eventsSinceSample
    = orAll (steps.map (·.vehicle.events))
  alarms : orAll (r.points.map (·.alarms)) ||| r.alarmsSinceSample = orAll (steps.map (·.alarms))
  sampled : (∀ last ∈ steps.getLast?, m.Kept stride last) →
    r.eventsSinceSample = 0 ∧ r.alarmsSinceSample = 0

variable {m} {stride : UInt16} {capacity : Nat} {r : Phase5HistoryRecorder}
  {pre post : List Phase5ClosedLoopStep} {step : Phase5ClosedLoopStep}

/-- The step of a point is that of its snapshot. -/
theorem toNat_step {snapshot : Phase5VehicleSnapshot} {events alarms error : UInt16}
    (h : snapshot.step.toNat ≤ 65535) :
    (pointFromSnapshot snapshot events alarms error).step.toNat = snapshot.step.toNat := by
  have hle : snapshot.step ≤ 65535 := UInt32.le_iff_toNat_le.mpr h
  have hmin : min snapshot.step 65535 = snapshot.step := if_pos hle
  show (min snapshot.step 65535).toUInt16.toNat = _
  rw [hmin, UInt32.toNat_toUInt16]
  exact Nat.mod_eq_of_lt (by omega)

theorem number_of_split (h : m.steps = pre ++ step :: post) :
    step.vehicle.step.toNat = pre.length + 1 := by
  have hnumbered := m.numbered pre.length (by rw [h]; simp)
  simpa [h] using hnumbered

theorem number_le (h : step ∈ m.steps) : step.vehicle.step.toNat ≤ m.steps.length := by
  obtain ⟨i, hi, rfl⟩ := List.mem_iff_getElem.mp h
  rw [m.numbered i hi]
  exact hi

/-- Steps are numbered in order. -/
theorem pairwise_steps :
    m.steps.Pairwise fun a b ↦ a.vehicle.step.toNat < b.vehicle.step.toNat := by
  rw [List.pairwise_iff_getElem]
  intro i j hi hj hlt
  rw [m.numbered i hi, m.numbered j hj]
  omega

/-- The condition of the recorder is that the step is kept. -/
theorem keeps_iff (hstride : stride ≠ 0) :
    (m.terminal step ∨ stride ≠ 0 ∧ step.vehicle.step % stride.toUInt32 = 0) ↔ m.Kept stride step := by
  have hmod : step.vehicle.step % stride.toUInt32 = 0
      ↔ step.vehicle.step.toNat % stride.toNat = 0 := by
    rw [← UInt32.toNat_inj, UInt32.toNat_mod, UInt16.toNat_toUInt32]
    rfl
  unfold Kept
  rw [hmod, Bool.or_eq_true, beq_iff_eq, and_iff_right hstride, or_comm]

/-- No recorded point has the number of the next step. -/
theorem last_ne (h : m.steps = pre ++ step :: post) (hrecorded : m.Recorded stride pre r) :
    r.points.getLast?.map (·.step) ≠ some step.vehicle.step.toUInt16 := by
  intro hlast
  obtain ⟨point, hpoint, hsame⟩ := Option.map_eq_some_iff.mp hlast
  have hnumber := number_of_split h
  have hbound := m.bounded
  have hlength : pre.length < m.steps.length := by rw [h]; simp
  have hmem : point.unmasked ∈ m.pointsOf (pre.filter (m.Kept stride)) :=
    hrecorded.points ▸ List.mem_map_of_mem (List.mem_of_getLast? hpoint)
  have hstep : point.unmasked.step.toNat = pre.length + 1 := by
    show point.step.toNat = _
    rw [hsame, UInt32.toNat_toUInt16, hnumber]
    exact Nat.mod_eq_of_lt (by omega)
  obtain hinitial | hlater := List.mem_cons.mp hmem
  · rw [hinitial, toNat_step (by rw [m.initial_step]; decide), m.initial_step] at hstep
    cases hstep
  · obtain ⟨earlier, hearlier, heq⟩ := List.mem_map.mp hlater
    obtain ⟨i, hi, rfl⟩ := List.mem_iff_getElem.mp (List.mem_of_mem_filter hearlier)
    have hnumbered := m.numbered i (by omega)
    simp only [h, List.getElem_append_left hi] at hnumbered
    rw [← heq, toNat_step (by omega), hnumbered] at hstep
    omega

/-- A point for the step is pushed. -/
theorem observeStep_of_kept (hroom : r.points.length ≠ capacity) (hstride : r.stride ≠ 0)
    {terminal : Bool} (hkept : terminal ∨ r.stride ≠ 0 ∧ step.vehicle.step % r.stride.toUInt32 = 0)
    (hnew : r.points.getLast?.map (·.step) ≠ some step.vehicle.step.toUInt16) :
    r.observeStep capacity step terminal = .ok { r with
      points := r.points ++ [pointFromSnapshot step.vehicle
        (r.eventsSinceSample ||| step.vehicle.events) (r.alarmsSinceSample ||| step.alarms)
        (navErrorQuarterKm step)]
      eventsSinceSample := 0
      alarmsSinceSample := 0 } := by
  unfold Phase5HistoryRecorder.observeStep
  dsimp only
  rw [if_pos hkept, if_neg (fun hsame ↦ hnew hsame.2)]
  unfold Phase5HistoryRecorder.push
  rw [reject_bind hstride, reject_bind hroom]
  rfl

theorem observeStep_of_not_kept {terminal : Bool}
    (hkept : ¬(terminal ∨ r.stride ≠ 0 ∧ step.vehicle.step % r.stride.toUInt32 = 0)) :
    r.observeStep capacity step terminal = .ok { r with
      eventsSinceSample := r.eventsSinceSample ||| step.vehicle.events
      alarmsSinceSample := r.alarmsSinceSample ||| step.alarms } := by
  unfold Phase5HistoryRecorder.observeStep
  dsimp only
  rw [if_neg hkept]

section Carrying

variable {word : Phase5HistoryPoint → UInt16} {observed : Phase5ClosedLoopStep → UInt16}
  {points : List Phase5HistoryPoint} {pending : UInt16}

/-- What was pending goes into the new point. -/
theorem orAll_carried {point : Phase5HistoryPoint}
    (h : orAll (points.map word) ||| pending = orAll (pre.map observed))
    (hword : word point = pending ||| observed step) :
    orAll ((points ++ [point]).map word) ||| 0 = orAll ((pre ++ [step]).map observed) := by
  rw [List.map_append, List.map_append, orAll_append, orAll_append, List.map_singleton,
    List.map_singleton, orAll_singleton, orAll_singleton, hword, UInt16.or_zero, ← UInt16.or_assoc, h]

/-- Without a new point it stays pending. -/
theorem orAll_pending (h : orAll (points.map word) ||| pending = orAll (pre.map observed)) :
    orAll (points.map word) ||| (pending ||| observed step)
      = orAll ((pre ++ [step]).map observed) := by
  rw [List.map_append, orAll_append, List.map_singleton, orAll_singleton, ← UInt16.or_assoc, h]

end Carrying

/-- One step more is recorded. -/
theorem recorded_step (hstride : stride ≠ 0) (hroom : (m.steps.filter (m.Kept stride)).length < capacity)
    (h : m.steps = pre ++ step :: post) (hrecorded : m.Recorded stride pre r) :
    ∃ r', r.observeStep capacity step (m.terminal step) = .ok r'
      ∧ m.Recorded stride (pre ++ [step]) r' := by
  have hcondition : (m.terminal step ∨ stride ≠ 0 ∧ step.vehicle.step % stride.toUInt32 = 0)
      ↔ m.Kept stride step := keeps_iff hstride
  rw [← hrecorded.stride_eq] at hcondition
  by_cases hkept : m.Kept stride step
  · have hlength : r.points.length ≠ capacity := by
      have hpoints := congrArg List.length hrecorded.points
      rw [List.length_map, pointsOf, List.length_cons, List.length_map] at hpoints
      rw [h, List.filter_append, List.filter_cons_of_pos hkept, List.length_append,
        List.length_cons] at hroom
      omega
    refine ⟨_, observeStep_of_kept hlength (hrecorded.stride_eq ▸ hstride)
      (hcondition.mpr (hrecorded.stride_eq ▸ hkept)) (last_ne h hrecorded), ?_⟩
    have hfilter : (pre ++ [step]).filter (m.Kept stride) = pre.filter (m.Kept stride) ++ [step] := by
      rw [List.filter_append, List.filter_cons_of_pos hkept, List.filter_nil]
    constructor
    · exact hrecorded.stride_eq
    · rw [hfilter, List.map_append, hrecorded.points]
      unfold pointsOf
      rw [List.map_append]
      rfl
    · exact orAll_carried hrecorded.events rfl
    · exact orAll_carried hrecorded.alarms rfl
    · exact fun _ ↦ ⟨rfl, rfl⟩
  · refine ⟨_, observeStep_of_not_kept (mt hcondition.mp (hrecorded.stride_eq ▸ hkept)), ?_⟩
    have hfilter : (pre ++ [step]).filter (m.Kept stride) = pre.filter (m.Kept stride) := by
      rw [List.filter_append, List.filter_cons_of_neg hkept, List.filter_nil, List.append_nil]
    constructor
    · exact hrecorded.stride_eq
    · rw [hfilter]
      exact hrecorded.points
    · exact orAll_pending hrecorded.events
    · exact orAll_pending hrecorded.alarms
    · exact fun hlast ↦ absurd (hlast step List.getLast?_concat) hkept

/-- From the initial point on all steps are recorded. -/
theorem recorded_steps (hstride : stride ≠ 0)
    (hroom : (m.steps.filter (m.Kept stride)).length < capacity) (h : m.steps = pre ++ post)
    (hrecorded : m.Recorded stride pre r) :
    ∃ r', post.foldlM (fun r step ↦ r.observeStep capacity step (m.terminal step)) r = .ok r'
      ∧ m.Recorded stride m.steps r' := by
  induction post generalizing pre r with
  | nil =>
      rw [List.append_nil] at h
      exact ⟨r, rfl, h ▸ hrecorded⟩
  | cons step post ih =>
      obtain ⟨r₁, hstep, hrecorded⟩ := recorded_step hstride hroom h hrecorded
      obtain ⟨r', hrest, hall⟩ := ih (by rw [h, List.append_assoc]; rfl) hrecorded
      refine ⟨r', ?_, hall⟩
      rw [List.foldlM_cons, bind_of_ok hstep]
      exact hrest

theorem record_recorded (hstride : stride ≠ 0)
    (hroom : (m.steps.filter (m.Kept stride)).length < capacity) :
    ∃ r, m.record capacity stride = .ok r ∧ m.Recorded stride m.steps r := by
  have hinitial : (Phase5HistoryRecorder.new stride).observeInitial capacity m.initial
      = .ok ⟨stride, [pointFromSnapshot m.initial 0 0 0], 0, 0⟩ := by
    unfold Phase5HistoryRecorder.observeInitial Phase5HistoryRecorder.push
    refine (reject_bind hstride _).trans ((reject_bind ?_ _).trans rfl)
    show ¬0 = capacity
    omega
  unfold record
  rw [bind_of_ok hinitial]
  refine recorded_steps hstride hroom (List.nil_append _).symm ⟨rfl, rfl, ?_, ?_, fun _ ↦ ⟨rfl, rfl⟩⟩
  · show ((0 : UInt16) ||| 0) ||| 0 = 0
    rfl
  · show ((0 : UInt16) ||| 0) ||| 0 = 0
    rfl

/-- The steps of the recorded points are those of the initial point and of the steps that are kept. -/
theorem map_step (hrecorded : m.Recorded stride m.steps r) :
    r.points.map (·.step.toNat) = 0 :: (m.steps.filter (m.Kept stride)).map (·.vehicle.step.toNat) := by
  have hpoints := congrArg (List.map fun point : Phase5HistoryPoint ↦ point.step.toNat) hrecorded.points
  rw [List.map_map] at hpoints
  refine hpoints.trans ?_
  unfold pointsOf
  rw [List.map_cons, List.map_map, toNat_step (by rw [m.initial_step]; decide), m.initial_step]
  refine congrArg (List.cons 0) (List.map_congr_left fun step hmem ↦ toNat_step ?_)
  exact (number_le (List.mem_of_mem_filter hmem)).trans m.bounded

theorem rising_points (hrecorded : m.Recorded stride m.steps r) : Rising none r.points := by
  refine ⟨by rintro _ ⟨⟩, ?_⟩
  have hsteps : (r.points.map (·.step.toNat)).Pairwise (· < ·) := by
    rw [map_step hrecorded, List.pairwise_cons]
    constructor
    · intro n hn
      obtain ⟨step, hmem, rfl⟩ := List.mem_map.mp hn
      obtain ⟨i, hi, rfl⟩ := List.mem_iff_getElem.mp (List.mem_of_mem_filter hmem)
      rw [m.numbered i hi]
      omega
    · exact List.pairwise_map.mpr (pairwise_steps.filter _)
  exact (List.pairwise_map.mp hsteps).imp UInt16.lt_iff_toNat_lt.mpr

/-- The last step of a completed mission is kept. -/
theorem terminal_last (stride : UInt16) {last : Phase5ClosedLoopStep} (hcompleted : m.completed = true)
    (hlast : last ∈ m.steps.getLast?) :
    last.vehicle.step.toNat = m.steps.length ∧ m.Kept stride last := by
  obtain ⟨front, hfront⟩ := List.getLast?_eq_some_iff.mp hlast
  have hnumber : last.vehicle.step.toNat = m.steps.length := by
    rw [number_of_split hfront, hfront]
    simp
  refine ⟨hnumber, ?_⟩
  unfold Kept terminal
  rw [hcompleted, hnumber]
  simp

/-- The last point of a completed mission is that of its last step. -/
theorem last_step (hcompleted : m.completed = true) (hrecorded : m.Recorded stride m.steps r) :
    r.points.getLast?.map (·.step.toNat) = some m.steps.length := by
  rw [← List.getLast?_map, map_step hrecorded]
  cases hlast : m.steps.getLast? with
  | none =>
      rw [List.getLast?_eq_none_iff.mp hlast]
      rfl
  | some last =>
      obtain ⟨hnumber, hkept⟩ := terminal_last stride hcompleted hlast
      obtain ⟨front, hfront⟩ := List.getLast?_eq_some_iff.mp hlast
      have hfilter : m.steps.filter (m.Kept stride) = front.filter (m.Kept stride) ++ [last] := by
        rw [hfront, List.filter_append, List.filter_cons_of_pos hkept, List.filter_nil]
      rw [hfilter, List.map_append, ← List.cons_append, List.map_singleton, List.getLast?_concat,
        hnumber]

/-- All points fit into the count of the format, unless every one of the most steps is kept. -/
theorem length_points_le (hrecorded : m.Recorded stride m.steps r)
    (hfew : ¬(stride = 1 ∧ m.steps.length = 65535)) (hstride : stride ≠ 0) :
    r.points.length ≤ 65535 := by
  have hlength := congrArg List.length hrecorded.points
  rw [List.length_map, pointsOf, List.length_cons, List.length_map] at hlength
  have hfilter := List.length_filter_le (m.Kept stride) m.steps
  have hbounded := m.bounded
  by_cases hmost : m.steps.length = 65535
  · -- the first step is not kept
    have hone : stride ≠ 1 := fun heq ↦ hfew ⟨heq, hmost⟩
    have hdropped : ∃ step ∈ m.steps, ¬m.Kept stride step := by
      refine ⟨m.steps[0], List.getElem_mem _, ?_⟩
      have hnumber := m.numbered 0 (by omega)
      have hmod : 1 % stride.toNat = 1 := by
        refine Nat.mod_eq_of_lt ?_
        have hnotZero : stride.toNat ≠ 0 := fun heq ↦ hstride (UInt16.toNat_inj.mp heq)
        have hnotOne : stride.toNat ≠ 1 := fun heq ↦ hone (UInt16.toNat_inj.mp heq)
        omega
      unfold Kept terminal
      rw [hnumber, hmost, hmod]
      simp
    have hlt := List.length_filter_lt_length_iff_exists.mpr hdropped
    omega
  · omega

/-- The recording holds the initial point, the multiples of the stride and the terminal step, in order.
Of a completed mission it has every event and alarm in some point, and its history is written and taken
back, unless the stride is one and the mission has 65535 steps. -/
theorem recorded_history (m : ObservedMission) (stride : UInt16) (capacity : Nat) (hstride : stride ≠ 0)
    (hroom : (m.steps.filter (m.Kept stride)).length < capacity) :
    ∃ r, m.record capacity stride = .ok r
      ∧ r.points.map Phase5HistoryPoint.unmasked = m.pointsOf (m.steps.filter (m.Kept stride))
      ∧ (r.points.Pairwise fun a b ↦ a.step < b.step)
      ∧ (m.completed = true →
        orAll (r.points.map (·.events)) = orAll (m.steps.map (·.vehicle.events))
          ∧ orAll (r.points.map (·.alarms)) = orAll (m.steps.map (·.alarms))
          ∧ (¬(stride = 1 ∧ m.steps.length = 65535) → ∀ header : Phase5HistoryHeader,
            header.stride = stride → header.terminalStep = .ofNat m.steps.length →
              ∃ output parsed, writeKph5 header r.points
                  (kph5HeaderLength + r.points.length * kph5PointLength) = .ok output
                ∧ validateKph5 output = .ok parsed)) := by
  obtain ⟨r, hrecord, hrecorded⟩ := record_recorded hstride hroom
  have hrising := rising_points hrecorded
  refine ⟨r, hrecord, hrecorded.points, hrising.2, fun hcompleted ↦ ?_⟩
  have hsampled := hrecorded.sampled fun last hlast ↦ (terminal_last stride hcompleted hlast).2
  have hevents := hrecorded.events
  have halarms := hrecorded.alarms
  rw [hsampled.1, UInt16.or_zero] at hevents
  rw [hsampled.2, UInt16.or_zero] at halarms
  refine ⟨hevents, halarms, fun hfew header hheader hterminal ↦ ?_⟩
  have hfirst : r.points.head?.map (·.step) = some 0 := by
    have hhead := congrArg List.head? (map_step hrecorded)
    rw [List.head?_map] at hhead
    obtain ⟨point, hpoint, hzero⟩ := Option.map_eq_some_iff.mp hhead
    rw [hpoint]
    exact congrArg some (UInt16.toNat_inj.mp hzero)
  have hlast : r.points.getLast?.map (·.step.toUInt32) = some header.terminalStep := by
    obtain ⟨point, hpoint, hnumber⟩ := Option.map_eq_some_iff.mp (last_step hcompleted hrecorded)
    have hbounded := m.bounded
    rw [hpoint, hterminal, ← hnumber]
    refine congrArg some (UInt32.toNat_inj.mp ?_)
    rw [UInt16.toNat_toUInt32]
    exact (UInt32.toNat_ofNat_of_lt' (by show _ < 2 ^ 32; omega)).symm
  obtain ⟨output, hwrite, hvalidate⟩ := kph5_round_trip hrising hfirst hlast (hheader ▸ hstride)
    (length_points_le hrecorded hfew hstride)
  exact ⟨output, _, hwrite, hvalidate⟩

/-- A vehicle at a step. -/
def snapshotAt (step : UInt32) : Phase5VehicleSnapshot where
  step := step
  positionQ12 := .replicate 3 0
  dynamicPressureQ16 := 0
  events := 0

/-- A completed mission of some number of steps in which nothing happens. -/
def quiet (n : Nat) (hbound : n ≤ 65535) : ObservedMission where
  initial := snapshotAt 0
  steps := (List.range n).map fun i ↦ ⟨snapshotAt (.ofNat (i + 1)), 0, .replicate 3 0⟩
  completed := true
  initial_step := rfl
  initial_events := rfl
  numbered i h := by
    have hi : i < n := by simpa using h
    rw [List.getElem_map, List.getElem_range]
    exact UInt32.toNat_ofNat_of_lt' (by show _ < 2 ^ 32; omega)
  bounded := by simpa using hbound

theorem length_quiet (n : Nat) (hbound : n ≤ 65535) : (quiet n hbound).steps.length = n := by
  unfold quiet
  rw [List.length_map, List.length_range]

/-- With a stride of one every step is kept. -/
theorem filter_kept_one (m : ObservedMission) : m.steps.filter (m.Kept 1) = m.steps := by
  refine List.filter_eq_self.mpr fun step _ ↦ ?_
  unfold Kept
  rw [show (1 : UInt16).toNat = 1 from rfl, Nat.mod_one]
  rfl

/-- A mission of three steps with a stride of two: the recorder has room for four points. -/
theorem recorded_history_three : ∃ r, (quiet 3 (by decide)).record 4 2 = .ok r
    ∧ r.points.map Phase5HistoryPoint.unmasked = (quiet 3 (by decide)).pointsOf
      ((quiet 3 (by decide)).steps.filter ((quiet 3 (by decide)).Kept 2)) := by
  obtain ⟨r, hrecord, hpoints, -⟩ := recorded_history (quiet 3 (by decide)) 2 4 (by decide) (by decide)
  exact ⟨r, hrecord, hpoints⟩

/-- With a stride of one and 65535 steps there is a point more than the format can count: the writer
refuses the points, though there is room for them. -/
theorem most_points_refused : ∃ (m : ObservedMission) (capacity : Nat) (r : Phase5HistoryRecorder),
    (m.steps.filter (m.Kept 1)).length < capacity ∧ m.completed = true
      ∧ m.record capacity 1 = .ok r
      ∧ ∀ header, writeKph5 header r.points
          (kph5HeaderLength + r.points.length * kph5PointLength) = .error .length := by
  obtain ⟨n, hn⟩ : ∃ n, n = 65535 := ⟨_, rfl⟩
  have hlength := length_quiet n hn.le
  have hkept := filter_kept_one (quiet n hn.le)
  have hroom : ((quiet n hn.le).steps.filter ((quiet n hn.le).Kept 1)).length < n + 1 := by
    rw [hkept, hlength]
    exact Nat.lt_succ_self n
  have hone : (1 : UInt16) ≠ 0 := by decide
  obtain ⟨r, hrecord, hrecorded⟩ := record_recorded hone hroom
  refine ⟨quiet n hn.le, n + 1, r, hroom, rfl, hrecord, fun header ↦ ?_⟩
  have hpoints := congrArg List.length hrecorded.points
  rw [List.length_map, pointsOf, List.length_cons, List.length_map, hkept, hlength] at hpoints
  unfold writeKph5
  exact reject_bind_of_fails (.inr (.inr (by omega))) _

end ObservedMission

end Ksa64.Sim
