import Mathlib.Logic.Function.Iterate
import Mathlib.Tactic.Linarith
import Ksa64.Host.Search

/-!
# Values on the lattice

A variable has the values from its minimum in steps of its quantum, up to its maximum.  A value is
rounded to the closest step and then put between the bounds, so if the maximum is no step it can take
the place of one.  That does not happen iff what is left of the range after its last step is not
rounded up to another one (`generated_accepts_iff`).
-/

namespace Ksa64.Host

open Ksa64.Library
open Ksa64.Sim (CounterKey)

/-! ## One variable -/

def VariableSpec.accepts (spec : VariableSpec) (v : Int32) : Bool :=
  if v < spec.minimum ∨ spec.maximum < v then false
  else (v.toInt - spec.minimum.toInt).tmod spec.quantum.toNat = 0

def VariableSpec.range (spec : VariableSpec) : Int := spec.maximum.toInt - spec.minimum.toInt

/-- The rest of the range after its last step is not rounded up. -/
def VariableSpec.Aligned (spec : VariableSpec) : Prop :=
  spec.range % spec.quantum.toNat + (spec.quantum.toNat : Int) / 2 < spec.quantum.toNat

section Steps

variable {range quantum offset : Int}

/-- The step that is closest to an offset, but not beyond the range. -/
def nearestStep (range quantum offset : Int) : Int := min range ((offset + quantum / 2) / quantum * quantum)

theorem step_nonneg (hq : 0 < quantum) (hrange : 0 ≤ range) (h : 0 ≤ offset) :
    0 ≤ nearestStep range quantum offset :=
  le_min hrange (mul_nonneg (Int.ediv_nonneg (by omega) hq.le) hq.le)

/-- A step is its own closest one. -/
theorem step_mul (hq : 0 < quantum) {k : Int} (h : k * quantum ≤ range) :
    nearestStep range quantum (k * quantum) = k * quantum := by
  unfold nearestStep
  have hk : (k * quantum + quantum / 2) / quantum = k := by
    rw [Int.add_comm, Int.add_mul_ediv_right _ _ hq.ne', Int.ediv_eq_zero_of_lt (by omega) (by omega),
      Int.zero_add]
  rw [hk, min_eq_right h]

/-- If the rest of the range is not rounded up, no offset is rounded beyond the range. -/
theorem step_aligned (hq : 0 < quantum) (haligned : range % quantum + quantum / 2 < quantum)
    (h : offset ≤ range) :
    nearestStep range quantum offset = (offset + quantum / 2) / quantum * quantum := by
  have hdiv := Int.emod_add_mul_ediv range quantum
  have hrest := Int.emod_nonneg range hq.ne'
  have hlast : (offset + quantum / 2) / quantum ≤ range / quantum := by
    refine (Int.ediv_le_ediv hq (show _ ≤ range + quantum / 2 by omega)).trans ?_
    rw [show range + quantum / 2 = range % quantum + quantum / 2 + range / quantum * quantum by
      linarith only [hdiv, mul_comm quantum (range / quantum)],
      Int.add_mul_ediv_right _ _ hq.ne', Int.ediv_eq_zero_of_lt (by omega) haligned, Int.zero_add]
  refine min_eq_right ?_
  calc (offset + quantum / 2) / quantum * quantum ≤ range / quantum * quantum :=
        mul_le_mul_of_nonneg_right hlast hq.le
    _ ≤ range := by linarith only [hdiv, hrest, mul_comm quantum (range / quantum)]

/-- Otherwise the range is rounded to itself, and it is no step. -/
theorem step_range (hq : 0 < quantum) (hunaligned : quantum ≤ range % quantum + quantum / 2) :
    nearestStep range quantum range = range ∧ range % quantum ≠ 0 := by
  have hdiv := Int.emod_add_mul_ediv range quantum
  have hrest := Int.emod_lt_of_pos range hq
  refine ⟨min_eq_left ?_, by omega⟩
  have hnext : range / quantum + 1 ≤ (range + quantum / 2) / quantum := by
    rw [Int.le_ediv_iff_mul_le hq]
    linarith only [hdiv, hunaligned, mul_comm quantum (range / quantum)]
  calc range ≤ (range / quantum + 1) * quantum := by
        linarith only [hdiv, hrest.le, mul_comm quantum (range / quantum)]
    _ ≤ (range + quantum / 2) / quantum * quantum := mul_le_mul_of_nonneg_right hnext hq.le

/-- Rounding twice is rounding once. -/
theorem step_step (hq : 0 < quantum) (h : offset ≤ range) :
    nearestStep range quantum (nearestStep range quantum offset) = nearestStep range quantum offset := by
  obtain hfits | hbeyond := le_or_gt ((offset + quantum / 2) / quantum * quantum) range
  · have hstep : nearestStep range quantum offset = (offset + quantum / 2) / quantum * quantum :=
      min_eq_right hfits
    rw [hstep, step_mul hq hfits]
  · have hstep : nearestStep range quantum offset = range := min_eq_left hbeyond.le
    have hmono : (offset + quantum / 2) / quantum ≤ (range + quantum / 2) / quantum :=
      Int.ediv_le_ediv hq (by omega)
    rw [hstep]
    exact min_eq_left (hbeyond.le.trans (mul_le_mul_of_nonneg_right hmono hq.le))

end Steps

section Values

variable {spec : VariableSpec} {x : Int32}

/-- The bounds are in order, and there is a quantum. -/
theorem VariableSpec.validate_ok (h : spec.validate = .ok ()) :
    spec.minimum.toInt ≤ spec.maximum.toInt ∧ 0 < (spec.quantum.toNat : Int) := by
  unfold VariableSpec.validate at h
  simp only [bind_eq_ok, reject_eq_ok, not_or, Int32.not_lt, Int32.le_iff_toInt_le] at h
  obtain ⟨_, ⟨-, hbounds, hquantum⟩, -⟩ := h
  refine ⟨hbounds, ?_⟩
  have hne : spec.quantum.toNat ≠ 0 := fun hzero ↦ hquantum (UInt32.toNat_inj.mp hzero)
  omega

theorem clamp_bounds (h : spec.minimum.toInt ≤ spec.maximum.toInt) (v : Int) :
    spec.minimum.toInt ≤ spec.clamp v ∧ spec.clamp v ≤ spec.maximum.toInt := by
  unfold VariableSpec.clamp
  omega

/-- The value of a word that is put between the bounds. -/
theorem toInt_ofInt_clamp (h : spec.minimum.toInt ≤ spec.maximum.toInt) (v : Int) :
    (Int32.ofInt (spec.clamp v)).toInt = spec.clamp v := by
  have hbounds := clamp_bounds h v
  have hlow := Int32.le_toInt spec.minimum
  have hhigh := Int32.toInt_lt spec.maximum
  exact Int32.toInt_ofInt_of_le (by omega) (by omega)

/-- An offset that is rounded and put between the bounds. -/
theorem clamp_step {offset : Int} (hvalid : spec.minimum.toInt ≤ spec.maximum.toInt)
    (hq : 0 < (spec.quantum.toNat : Int)) (h : 0 ≤ offset) :
    spec.clamp (spec.minimum.toInt
        + (offset + (spec.quantum.toNat : Int).tdiv 2).tdiv spec.quantum.toNat * spec.quantum.toNat)
      = spec.minimum.toInt + nearestStep spec.range spec.quantum.toNat offset := by
  rw [Int.tdiv_eq_ediv_of_nonneg hq.le, Int.tdiv_eq_ediv_of_nonneg (by omega)]
  have hnonneg : 0 ≤ (offset + (spec.quantum.toNat : Int) / 2) / spec.quantum.toNat
      * spec.quantum.toNat := mul_nonneg (Int.ediv_nonneg (by omega) hq.le) hq.le
  unfold nearestStep VariableSpec.clamp VariableSpec.range
  omega

theorem quantizeClamp_toInt (hvalid : spec.minimum.toInt ≤ spec.maximum.toInt)
    (hq : 0 < (spec.quantum.toNat : Int)) : (quantizeClamp x spec).toInt
      = spec.minimum.toInt + nearestStep spec.range spec.quantum.toNat
        (spec.clamp x.toInt - spec.minimum.toInt) := by
  have hbounds := clamp_bounds hvalid x.toInt
  unfold quantizeClamp
  dsimp only
  rw [toInt_ofInt_clamp hvalid, clamp_step hvalid hq (by omega)]

/-- The values that a variable accepts are the steps between its bounds. -/
theorem accepts_iff : spec.accepts x = true ↔
    (spec.minimum.toInt ≤ x.toInt ∧ x.toInt ≤ spec.maximum.toInt) ∧
      (x.toInt - spec.minimum.toInt) % spec.quantum.toNat = 0 := by
  unfold VariableSpec.accepts
  split_ifs with houtside
  · rw [Int32.lt_iff_toInt_lt, Int32.lt_iff_toInt_lt] at houtside
    refine iff_of_false (fun h ↦ h) ?_
    omega
  · rw [Int32.lt_iff_toInt_lt, Int32.lt_iff_toInt_lt] at houtside
    rw [decide_eq_true_eq, Int.tmod_eq_emod_of_nonneg (by omega)]
    exact (and_iff_right (by omega)).symm

/-- Every value is rounded to a step if what is left of the range is not rounded up. -/
theorem quantizeClamp_accepts (hvalid : spec.minimum.toInt ≤ spec.maximum.toInt)
    (hq : 0 < (spec.quantum.toNat : Int)) (haligned : spec.Aligned) :
    spec.accepts (quantizeClamp x spec) = true := by
  have hbounds := clamp_bounds hvalid x.toInt
  have hnonneg := @step_nonneg spec.range spec.quantum.toNat
    (spec.clamp x.toInt - spec.minimum.toInt) hq (by unfold VariableSpec.range; omega) (by omega)
  have hle : nearestStep spec.range spec.quantum.toNat (spec.clamp x.toInt - spec.minimum.toInt)
      ≤ spec.range := min_le_left _ _
  rw [accepts_iff, quantizeClamp_toInt hvalid hq]
  constructor
  · unfold VariableSpec.range at hnonneg hle ⊢
    omega
  · rw [step_aligned hq haligned (by unfold VariableSpec.range; omega), add_sub_cancel_left,
      Int.mul_emod_left]

/-- Otherwise the maximum is rounded to itself, and it is no step. -/
theorem quantizeClamp_maximum (hvalid : spec.minimum.toInt ≤ spec.maximum.toInt)
    (hq : 0 < (spec.quantum.toNat : Int)) (hunaligned : ¬spec.Aligned) :
    quantizeClamp spec.maximum spec = spec.maximum ∧ spec.accepts spec.maximum = false := by
  obtain ⟨hrange, hrest⟩ := step_range hq (not_lt.mp hunaligned)
  constructor
  · have hclamp : spec.clamp spec.maximum.toInt = spec.maximum.toInt := by
      unfold VariableSpec.clamp
      omega
    rw [← Int32.toInt_inj, quantizeClamp_toInt hvalid hq, hclamp]
    show _ + nearestStep _ _ spec.range = _
    rw [hrange]
    unfold VariableSpec.range
    omega
  · rw [← Bool.not_eq_true, accepts_iff]
    exact fun h ↦ hrest h.2

theorem quantizeClamp_bounds (hvalid : spec.minimum.toInt ≤ spec.maximum.toInt) :
    spec.minimum.toInt ≤ (quantizeClamp x spec).toInt ∧
      (quantizeClamp x spec).toInt ≤ spec.maximum.toInt := by
  unfold quantizeClamp
  dsimp only
  rw [toInt_ofInt_clamp hvalid]
  exact clamp_bounds hvalid _

/-- Quantizing twice is quantizing once. -/
theorem quantizeClamp_quantizeClamp (hvalid : spec.minimum.toInt ≤ spec.maximum.toInt)
    (hq : 0 < (spec.quantum.toNat : Int)) :
    quantizeClamp (quantizeClamp x spec) spec = quantizeClamp x spec := by
  have hbounds := @quantizeClamp_bounds spec x hvalid
  have hclamped := clamp_bounds hvalid x.toInt
  have hclamp : spec.clamp (quantizeClamp x spec).toInt = (quantizeClamp x spec).toInt := by
    unfold VariableSpec.clamp
    omega
  rw [← Int32.toInt_inj, quantizeClamp_toInt hvalid hq, hclamp, quantizeClamp_toInt hvalid hq,
    add_sub_cancel_left, step_step hq (by unfold VariableSpec.range; omega)]

end Values

/-! ## Reflection -/

section Reflection

variable {v low high : Int}

/-- One turn of the loop. -/
def reflectStep (low high v : Int) : Int :=
  let raised := if v < low then low + (low - v) else v
  if high < raised then high - (raised - high) else raised

/-- How far a value is out of the bounds. -/
def excess (low high v : Int) : Int := max 0 (max (low - v) (v - high))

theorem excess_eq_zero : excess low high v = 0 ↔ low ≤ v ∧ v ≤ high := by
  unfold excess
  omega

/-- A turn of the loop brings a value closer. -/
theorem excess_reflectStep (h : low < high) (hout : ¬(low ≤ v ∧ v ≤ high)) :
    excess low high (reflectStep low high v) < excess low high v := by
  unfold excess reflectStep
  dsimp only
  split_ifs <;> omega

/-- A turn of the loop, as long as the value is out of the bounds. -/
theorem reflect_step (h : low < high) (hout : ¬(low ≤ v ∧ v ≤ high)) :
    reflect v low high = reflect (reflectStep low high v) low high := by
  rw [reflect, if_neg h.ne, dif_pos ⟨h, by omega⟩]
  rfl

theorem reflect_of_inside (h : low ≤ v ∧ v ≤ high) : reflect v low high = v := by
  rw [reflect]
  by_cases heq : low = high
  · rw [if_pos heq]
    omega
  · rw [if_neg heq, dif_neg (by omega)]

/-- The loop ends, with a value in the bounds, and no value on the way is further out than the
first. -/
theorem reflect_ends (h : low < high) : ∃ n, low ≤ (reflectStep low high)^[n] v ∧
    (reflectStep low high)^[n] v ≤ high ∧ reflect v low high = (reflectStep low high)^[n] v ∧
    ∀ k ≤ n, excess low high ((reflectStep low high)^[k] v) ≤ excess low high v := by
  induction hn : (excess low high v).toNat using Nat.strong_induction_on generalizing v with
  | _ n ih =>
    by_cases hin : low ≤ v ∧ v ≤ high
    · refine ⟨0, hin.1, hin.2, reflect_of_inside hin, fun k hk ↦ ?_⟩
      rw [Nat.le_zero.mp hk]
      exact le_rfl
    · have hcloser := excess_reflectStep h hin
      have hnonneg : 0 ≤ excess low high (reflectStep low high v) := le_max_left _ _
      obtain ⟨k, hlow, hhigh, hreflect, hall⟩ :=
        @ih (excess low high (reflectStep low high v)).toNat (by omega) _ rfl
      refine ⟨k + 1, hlow, hhigh, (reflect_step h hin).trans hreflect, fun j hj ↦ ?_⟩
      cases j with
      | zero => exact le_rfl
      | succ j => exact (hall j (Nat.le_of_succ_le_succ hj)).trans hcloser.le

end Reflection

/-! ## Designs -/

section Designs

variable {m : SearchManifest} {values w : Vector Int32 32} {i : Nat}

/-- The checks of a manifest on its variables. -/
theorem SearchManifest.validate_ok (h : m.validate = .ok ()) :
    m.variableCount.toNat ≤ maxVariables ∧
      ∀ i < m.variableCount.toNat, m.variableSpecs[i]!.validate = .ok () := by
  unfold SearchManifest.validate at h
  simp only [bind_eq_ok, reject_eq_ok, forM_eq_ok, not_or, not_lt] at h
  obtain ⟨-, ⟨hcount, -, -⟩, -, -, ⟨⟩, hspecs, -⟩ := h
  refine ⟨hcount, fun i hi ↦ ?_⟩
  obtain ⟨⟨⟩, hspec, -⟩ := bind_eq_ok.mp (forM_eq_ok.mp hspecs i (List.mem_range.mpr hi))
  exact hspec

/-- There is a variable for the mass of the ballast, and it is zero. -/
def BallastZero (m : SearchManifest) (values : Vector Int32 32) : Prop :=
  ∃ j < m.variableCount.toNat, m.variableSpecs[j]!.id = VariableId.ballastMassQ21 ∧
    quantizeClamp values[j]! m.variableSpecs[j]! = 0

instance : Decidable (BallastZero m values) := inferInstanceAs (Decidable (∃ j < _, _ ∧ _))

/-- A value of a vector that is mapped by place. -/
theorem mapFinIdx_getElem! {f : Nat → Int32 → Int32} (hi : i < 32) :
    (values.mapFinIdx fun i value _ ↦ f i value)[i]! = f i values[i]! := by
  rw [getElem!_pos _ i hi, getElem!_pos _ i hi, Vector.getElem_mapFinIdx]

theorem designFromValues_value (hi : i < m.variableCount.toNat)
    (hcount : m.variableCount.toNat ≤ maxVariables) :
    (designFromValues m values).values[i]! = if BallastZero m values ∧
        m.variableSpecs[i]!.id = VariableId.ballastPositionQ28 then m.variableSpecs[i]!.minimum
      else quantizeClamp values[i]! m.variableSpecs[i]! := by
  let quantizedValues := values.mapFinIdx fun i value _ ↦
    if i < m.variableCount.toNat then quantizeClamp value m.variableSpecs[i]! else value
  have hquantized : ∀ j < m.variableCount.toNat,
      quantizedValues[j]! = quantizeClamp values[j]! m.variableSpecs[j]! := by
    intro j hj
    refine (@mapFinIdx_getElem! values j (fun i value ↦ if i < m.variableCount.toNat
      then quantizeClamp value m.variableSpecs[i]! else value) (hj.trans_le hcount)).trans ?_
    exact if_pos hj
  have hballast : ((List.range m.variableCount.toNat).any fun j ↦
      m.variableSpecs[j]!.id = VariableId.ballastMassQ21 ∧ quantizedValues[j]! = 0) = true ↔
        BallastZero m values := by
    rw [List.any_eq_true]
    simp only [List.mem_range, decide_eq_true_eq]
    constructor
    · rintro ⟨j, hj, hid, hzero⟩
      exact ⟨j, hj, hid, (hquantized j hj).symm.trans hzero⟩
    · rintro ⟨j, hj, hid, hzero⟩
      exact ⟨j, hj, hid, (hquantized j hj).trans hzero⟩
  refine (@mapFinIdx_getElem! quantizedValues i (fun i value ↦
    if ((List.range m.variableCount.toNat).any fun j ↦
        m.variableSpecs[j]!.id = VariableId.ballastMassQ21 ∧ quantizedValues[j]! = 0) = true
      ∧ i < m.variableCount.toNat ∧ m.variableSpecs[i]!.id = VariableId.ballastPositionQ28
    then m.variableSpecs[i]!.minimum else value) (hi.trans_le hcount)).trans ?_
  rw [hquantized i hi]
  refine if_congr ?_ rfl rfl
  rw [hballast]
  exact and_congr_right fun _ ↦ and_iff_right hi

/-- The values of a design are between the bounds of their variables. -/
def InBounds (m : SearchManifest) (d : DesignVector) : Prop :=
  ∀ i < m.variableCount.toNat, m.variableSpecs[i]!.minimum.toInt ≤ d.values[i]!.toInt ∧
    d.values[i]!.toInt ≤ m.variableSpecs[i]!.maximum.toInt

/-- The candidates that the methods of generation propose, from any populations between the
bounds. -/
inductive Generated (m : SearchManifest) : DesignVector → Prop where
  | grid {axes : List Nat} {candidates : List DesignVector} {d : DesignVector}
      (h : gridCandidates m axes = .ok candidates) (hd : d ∈ candidates) : Generated m d
  | initial {d : DesignVector} (hd : d ∈ initialPopulation m) : Generated m d
  | offspring {g : UInt16} {pop : List DesignVector} {agg : List CandidateAggregate}
      {d : DesignVector} (hpop : ∀ c ∈ pop, InBounds m c) (hd : d ∈ offspring m g pop agg) :
      Generated m d
  | trial {g : UInt16} {pop : List DesignVector} {d : DesignVector}
      (hpop : ∀ c ∈ pop, InBounds m c) (hd : d ∈ trials m g pop) : Generated m d

/-- Every candidate is a design of some values. -/
theorem Generated.exists_values {d : DesignVector} (h : Generated m d) :
    ∃ values, d = designFromValues m values := by
  cases h with
  | grid h hd =>
    unfold gridCandidates at h
    simp only [bind_eq_ok, reject_eq_ok, pure_eq_ok] at h
    obtain ⟨-, -, -, -, rfl⟩ := h
    obtain ⟨n, -, rfl⟩ := List.mem_map.mp hd
    exact ⟨_, rfl⟩
  | initial hd =>
    rcases List.mem_cons.mp hd with rfl | hd
    · exact ⟨_, rfl⟩
    · obtain ⟨individual, -, rfl⟩ := List.mem_map.mp hd
      exact ⟨_, rfl⟩
  | offspring _ hd =>
    obtain ⟨child, -, rfl⟩ := List.mem_map.mp hd
    exact ⟨_, rfl⟩
  | trial _ hd =>
    obtain ⟨target, -, rfl⟩ := List.mem_map.mp hd
    exact ⟨_, rfl⟩

/-! ## A population of one design -/

/-- An index that is picked is one of the population. -/
theorem pickOther_lt {n : Nat} {avoid : List Nat} {fuel r : Nat} (h : r < n) :
    pickOther n avoid fuel r < n := by
  induction fuel generalizing r with
  | zero => exact h
  | succ fuel ih =>
    unfold pickOther
    split_ifs
    · exact ih (Nat.mod_lt _ (Nat.zero_lt_of_lt h))
    · exact h

/-- Values that are drawn as they are. -/
theorem drawValues_same {next : Vector Int32 32 → Nat → Drawn CounterKey Int32}
    (h : ∀ v < m.variableCount.toNat, (next w v).value = w[v]!)
    (hcount : m.variableCount.toNat ≤ maxVariables) : (drawValues m next w).value = w := by
  have hsame : ∀ v < m.variableCount.toNat, w.setIfInBounds v (next w v).value = w := by
    intro v hv
    rw [h v hv, getElem!_pos w v (hv.trans_le hcount)]
    ext j hj
    rw [Vector.getElem_setIfInBounds]
    split_ifs with heq
    · subst heq
      rfl
    · rfl
  have hall : ∀ vs : List Nat, (∀ v ∈ vs, v < m.variableCount.toNat) →
      (vs.foldlM (fun values v ↦ do
        let value ← next values v
        pure (values.setIfInBounds v value)) w).value = w := by
    intro vs
    induction vs with
    | nil => exact fun _ ↦ rfl
    | cons v vs ih =>
      intro hvs
      rw [List.foldlM_cons]
      show (vs.foldlM _ (w.setIfInBounds v (next w v).value) :
        Drawn CounterKey (Vector Int32 32)).value = w
      rw [hsame v (hvs v List.mem_cons_self)]
      exact ih fun u hu ↦ hvs u (List.mem_cons_of_mem v hu)
  exact hall _ fun v hv ↦ List.mem_range.mp hv

/-- The donor of three equal values that are quantized is the same value. -/
theorem donorValue_same {spec : VariableSpec} {x : Int32}
    (hvalid : spec.minimum.toInt ≤ spec.maximum.toInt) (hq : 0 < (spec.quantum.toNat : Int))
    (hfixed : quantizeClamp x spec = x) : donorValue spec x x x = x := by
  have hbounds := @quantizeClamp_bounds spec x hvalid
  rw [hfixed] at hbounds
  have hclamp : spec.clamp x.toInt = x.toInt := by
    unfold VariableSpec.clamp
    omega
  have hinside : reflect (x.toInt + ((x.toInt - x.toInt) * 3).tdiv 4) spec.minimum.toInt
      spec.maximum.toInt = x.toInt := by
    rw [Int.sub_self, Int.zero_mul, Int.zero_tdiv, Int.add_zero]
    exact reflect_of_inside hbounds
  have hvalue := @quantizeClamp_toInt spec x hvalid hq
  rw [hfixed, hclamp] at hvalue
  unfold donorValue
  dsimp only
  rw [hinside, ← Int32.toInt_inj, toInt_ofInt_clamp hvalid, clamp_step hvalid hq (by omega)]
  exact hvalue.symm

/-- The trial of a population of one design with quantized values has the same values. -/
theorem trial_same {d : DesignVector} {g : UInt16} (hvalid : m.validate = .ok ())
    (hfixed : ∀ v < m.variableCount.toNat,
      quantizeClamp d.values[v]! m.variableSpecs[v]! = d.values[v]!) :
    (trial m g (List.replicate 4 d) 0).value = designFromValues m d.values := by
  obtain ⟨hcount, hspecs⟩ := SearchManifest.validate_ok hvalid
  have hmember : ∀ {r : Nat}, r < 4 → (List.replicate 4 d)[r]! = d := by
    intro r hr
    rw [getElem!_pos _ r (by rwa [List.length_replicate]), List.getElem_replicate]
  have hpick : ∀ {avoid : List Nat} {x : Nat}, (List.replicate 4 d)[pickOther
      (List.replicate 4 d).length avoid (List.replicate 4 d).length
      (x % (List.replicate 4 d).length)]! = d :=
    hmember (pickOther_lt (Nat.mod_lt _ (show 0 < 4 by decide)))
  have hzero := hmember (show 0 < 4 by decide)
  show designFromValues m (drawValues m _ _).value = _
  rw [hzero, drawValues_same _ hcount]
  intro v hv
  obtain ⟨hbounds, hq⟩ := VariableSpec.validate_ok (hspecs v hv)
  unfold trialValue
  split_ifs with hkind
  · rfl
  · show (if _ then donorValue _ _ _ _ else _) = _
    rw [hpick, hpick, hpick, donorValue_same hbounds hq (hfixed v hv), ite_self]

/-- The variable is the position of a ballast without mass, which is always the minimum. -/
def Weightless (m : SearchManifest) (i : Nat) : Prop :=
  m.variableSpecs[i]!.id = VariableId.ballastPositionQ28 ∧ ∃ j < m.variableCount.toNat,
    m.variableSpecs[j]!.id = VariableId.ballastMassQ21 ∧ ∀ x, quantizeClamp x m.variableSpecs[j]! = 0

/-- The minimum is a step. -/
theorem accepts_minimum {spec : VariableSpec} (h : spec.minimum.toInt ≤ spec.maximum.toInt) :
    spec.accepts spec.minimum = true := by
  rw [accepts_iff, Int.sub_self, Int.zero_emod]
  exact ⟨⟨le_rfl, h⟩, rfl⟩

/-- If the rest of the range of a variable is rounded up, there is a trial with its maximum, unless
the variable has always its minimum. -/
theorem exists_generated_unaligned (hvalid : m.validate = .ok ()) (hi : i < m.variableCount.toNat)
    (hunaligned : ¬m.variableSpecs[i]!.Aligned) (hweight : ¬Weightless m i) :
    ∃ d, Generated m d ∧ m.variableSpecs[i]!.accepts d.values[i]! = false := by
  obtain ⟨hcount, hspecs⟩ := SearchManifest.validate_ok hvalid
  obtain ⟨hbounds, hq⟩ := VariableSpec.validate_ok (hspecs i hi)
  obtain ⟨hmaximum, hrejected⟩ := quantizeClamp_maximum hbounds hq hunaligned
  -- a mass that is not zero, if the variable is the position of the ballast
  have hchoice : ∀ j, ∃ x, m.variableSpecs[i]!.id = VariableId.ballastPositionQ28 →
      j < m.variableCount.toNat → m.variableSpecs[j]!.id = VariableId.ballastMassQ21 →
      quantizeClamp x m.variableSpecs[j]! ≠ 0 := by
    intro j
    by_contra hnone
    rw [not_exists] at hnone
    have hzero := hnone 0
    simp only [Classical.not_imp, not_not] at hnone hzero
    obtain ⟨hposition, hj, hmass, -⟩ := hzero
    exact hweight ⟨hposition, j, hj, hmass, fun x ↦ (hnone x).2.2.2⟩
  choose x hx using hchoice
  let w : Vector Int32 32 := .ofFn fun j ↦
    if j.val = i then m.variableSpecs[i]!.maximum else quantizeClamp (x j.val) m.variableSpecs[j.val]!
  have hw : ∀ j < m.variableCount.toNat, w[j]! = if j = i then m.variableSpecs[i]!.maximum
      else quantizeClamp (x j) m.variableSpecs[j]! := by
    intro j hj
    rw [getElem!_pos w j (hj.trans_le hcount)]
    exact Vector.getElem_ofFn _
  have hfixed : ∀ j < m.variableCount.toNat, quantizeClamp w[j]! m.variableSpecs[j]! = w[j]! := by
    intro j hj
    obtain ⟨hbounds', hq'⟩ := VariableSpec.validate_ok (hspecs j hj)
    rw [hw j hj]
    split_ifs with heq
    · rw [heq, hmaximum]
    · exact quantizeClamp_quantizeClamp hbounds' hq'
  let d : DesignVector := { (default : DesignVector) with values := w }
  have hpopulation : ∀ c ∈ List.replicate 4 d, InBounds m c := by
    intro c hc j hj
    rw [List.eq_of_mem_replicate hc, ← hfixed j hj]
    exact quantizeClamp_bounds (VariableSpec.validate_ok (hspecs j hj)).1
  have htrial := @trial_same m d 1 hvalid hfixed
  refine ⟨_, .trial hpopulation (List.mem_map.mpr ⟨0, List.mem_range.mpr (show 0 < 4 by decide),
    htrial⟩), ?_⟩
  rw [designFromValues_value hi hcount, if_neg]
  · rw [hfixed i hi, hw i hi, if_pos rfl]
    exact hrejected
  · rintro ⟨⟨j, hj, hmass, hzero⟩, hposition⟩
    have hne : j ≠ i := by
      rintro rfl
      rw [hposition] at hmass
      cases hmass
    rw [hfixed j hj, hw j hj, if_neg hne] at hzero
    exact hx j hposition hj hmass hzero

/-- Every generated candidate is on the lattice of the manifest and the reflection ends for every
value, if and only if for no variable what is left of its range after the last step is rounded up,
unless the variable always has its minimum. -/
theorem generated_accepts_iff (hvalid : m.validate = .ok ()) :
    ((∀ d, Generated m d → ∀ i < m.variableCount.toNat,
        m.variableSpecs[i]!.accepts d.values[i]! = true) ∧
      ∀ low high v : Int, low < high → ∃ n, low ≤ (reflectStep low high)^[n] v ∧
        (reflectStep low high)^[n] v ≤ high ∧ reflect v low high = (reflectStep low high)^[n] v ∧
        ∀ k ≤ n, excess low high ((reflectStep low high)^[k] v) ≤ excess low high v) ↔
      ∀ i < m.variableCount.toNat, m.variableSpecs[i]!.Aligned ∨ Weightless m i := by
  obtain ⟨hcount, hspecs⟩ := SearchManifest.validate_ok hvalid
  constructor
  · rintro ⟨hall, -⟩ i hi
    by_contra hneither
    rw [not_or] at hneither
    obtain ⟨d, hd, hrejected⟩ := exists_generated_unaligned hvalid hi hneither.1 hneither.2
    rw [hall d hd i hi] at hrejected
    cases hrejected
  · intro haligned
    refine ⟨fun d hd i hi ↦ ?_, fun low high v h ↦ reflect_ends h⟩
    obtain ⟨values, rfl⟩ := hd.exists_values
    obtain ⟨hbounds, hq⟩ := VariableSpec.validate_ok (hspecs i hi)
    rw [designFromValues_value hi hcount]
    split_ifs with hballast
    · exact accepts_minimum hbounds
    · rcases haligned i hi with haligned | ⟨hposition, j, hj, hmass, hzero⟩
      · exact quantizeClamp_accepts hbounds hq haligned
      · exact absurd ⟨⟨j, hj, hmass, hzero _⟩, hposition⟩ hballast

theorem generated_accepts_small :
    ((∀ d, Generated smallManifest d → ∀ i < smallManifest.variableCount.toNat,
        smallManifest.variableSpecs[i]!.accepts d.values[i]! = true) ∧
      ∀ low high v : Int, low < high → ∃ n, low ≤ (reflectStep low high)^[n] v ∧
        (reflectStep low high)^[n] v ≤ high ∧ reflect v low high = (reflectStep low high)^[n] v ∧
        ∀ k ≤ n, excess low high ((reflectStep low high)^[k] v) ≤ excess low high v) ↔
      ∀ i < smallManifest.variableCount.toNat,
        smallManifest.variableSpecs[i]!.Aligned ∨ Weightless smallManifest i :=
  generated_accepts_iff rfl

/-- A manifest of a scale whose range is five thirds of its quantum. -/
def unevenManifest : SearchManifest :=
  { smallManifest with variableSpecs := .replicate 32 ⟨VariableId.finRootScale, .integer, 0, 1000000,
      600000⟩ }

/-- The scale of the design that a search starts from is the maximum, which is no step. -/
theorem baseline_off_lattice : unevenManifest.validate = .ok () ∧
    ∃ d ∈ initialPopulation unevenManifest, ∃ i < unevenManifest.variableCount.toNat,
      unevenManifest.variableSpecs[i]!.accepts d.values[i]! = false :=
  ⟨rfl, baselineVector unevenManifest, List.mem_cons_self, 0, by decide, by decide +kernel⟩

end Designs

end Ksa64.Host
