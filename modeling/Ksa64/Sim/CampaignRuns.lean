import Ksa64.Interface.Codec
import Ksa64.Sim.Distributions

/-!
# The runs of a campaign

A campaign lists its distributions in some order.  A run has the variation of every parameter that
is listed, and as no parameter is listed twice, the order does not matter.
-/

namespace Ksa64.Sim

open Ksa64.Library Ksa64.Interface

/-- The bit that stands for a parameter. -/
def ParameterId.bit (parameter : ParameterId) : UInt16 := 1 <<< UInt16.ofNat parameter.index

structure CampaignConfig where
  masterSeed : UInt32
  runCount : UInt32
  distributionCount : UInt8
  distributions : Vector DistributionSpec 16
deriving DecidableEq

namespace CampaignConfig

/-- The distributions that are counted. -/
def listed (c : CampaignConfig) : List DistributionSpec :=
  c.distributions.toList.take c.distributionCount.toNat

/-- Every parameter is seen once, and every distribution is valid. -/
def validateListed : UInt16 → List DistributionSpec → Except CampaignError Unit
  | _, [] => pure ()
  | seen, spec :: specs => do
      reject (seen &&& spec.parameter.bit ≠ 0) .duplicateParameter
      validateDistribution spec
      validateListed (seen ||| spec.parameter.bit) specs

def validate (c : CampaignConfig) : Except CampaignError Unit := do
  reject (c.masterSeed = 0 ∨ c.runCount = 0) .empty
  reject (c.runCount > 65535) .tooManyRuns
  reject (c.distributionCount.toNat > 16) .tooManyDistributions
  validateListed 0 c.listed

end CampaignConfig

@[ext]
structure RunVariation where
  values : Vector Int32 15
  checksum : UInt32
deriving DecidableEq

def RunVariation.value (v : RunVariation) (parameter : ParameterId) : Int32 :=
  v.values.get parameter.index

structure RunSpec where
  index : UInt32
  sensorSeed : UInt32
  variation : RunVariation
deriving DecidableEq

/-- The values of the parameters that are listed, written over the ones that are there. -/
def deriveValues (masterSeed index : UInt32) (specs : List DistributionSpec)
    (values : Vector Int32 15) : Except CampaignError (Vector Int32 15) :=
  specs.foldlM (fun values spec ↦ do
    let sample ← sampleDistribution spec masterSeed index
    pure (values.set spec.parameter.index (sample - spec.baseline) spec.parameter.index.isLt)) values

def deriveSensorSeed (masterSeed index : UInt32) : UInt32 :=
  if index = 0 then 0x4b534133
  else
    let derived := mix32 (masterSeed ^^^ (index * 0xd1b54a35) ^^^ 0x53454544)
    if derived = 0 then 0x6d2b79f5 else derived

def deriveRun (c : CampaignConfig) (index : UInt32) : Except CampaignError RunSpec := do
  c.validate
  reject (index ≥ c.runCount) .tooManyRuns
  let values ← deriveValues c.masterSeed index c.listed (.replicate 15 0)
  let sensorSeed := deriveSensorSeed c.masterSeed index
  let bytes := le32 index ++ le32 sensorSeed ++ values.toList.flatMap fun value ↦ le32 value.toUInt32
  pure ⟨index, sensorSeed, ⟨values, crc32Ieee bytes⟩⟩

section Validation

variable {seen : UInt16} {specs : List DistributionSpec}

theorem bit_and_eq_zero {p q : ParameterId} : p.bit &&& q.bit = 0 ↔ p ≠ q := by
  have hbits : ∀ i j : Fin 15,
      ((1 : UInt16) <<< UInt16.ofNat i) &&& (1 <<< UInt16.ofNat j) = 0 ↔ i ≠ j := by decide
  exact (hbits p.index q.index).trans ParameterId.index_injective.ne_iff

/-- The mask holds what has been seen. -/
theorem validateListed_ok : CampaignConfig.validateListed seen specs = .ok () ↔
    (∀ spec ∈ specs, seen &&& spec.parameter.bit = 0 ∧ validateDistribution spec = .ok ()) ∧
      (specs.map DistributionSpec.parameter).Nodup := by
  induction specs generalizing seen with
  | nil => exact iff_of_true rfl ⟨List.forall_mem_nil _, List.nodup_nil⟩
  | cons spec specs ih =>
      have hsplit : ∀ b : UInt16, (seen ||| spec.parameter.bit) &&& b = 0 ↔
          seen &&& b = 0 ∧ spec.parameter.bit &&& b = 0 := by
        intro b
        rw [← UInt16.or_eq_zero_iff, ← UInt16.toNat_inj, ← UInt16.toNat_inj, UInt16.toNat_and,
          UInt16.toNat_or, UInt16.toNat_or, UInt16.toNat_and, UInt16.toNat_and,
          Nat.and_or_distrib_right]
      unfold CampaignConfig.validateListed
      simp only [bind_eq_ok, reject_eq_ok, ih, hsplit, bit_and_eq_zero, List.map_cons,
        List.nodup_cons, List.forall_mem_cons, List.mem_map, not_exists, not_and, ne_eq, not_not]
      constructor
      · rintro ⟨-, hseen, ⟨⟩, hvalid, hspecs, hnodup⟩
        exact ⟨⟨⟨hseen, hvalid⟩, fun x hx ↦ ⟨(hspecs x hx).1.1, (hspecs x hx).2⟩⟩,
          fun x hx heq ↦ (hspecs x hx).1.2 heq.symm, hnodup⟩
      · rintro ⟨⟨⟨hseen, hvalid⟩, hspecs⟩, hnew, hnodup⟩
        exact ⟨(), hseen, (), hvalid, fun x hx ↦
          ⟨⟨(hspecs x hx).1, fun heq ↦ hnew x hx heq.symm⟩, (hspecs x hx).2⟩, hnodup⟩

end Validation

section Values

variable {seed index : UInt32} {specs specs' : List DistributionSpec} {values values' : Vector Int32 15}

/-- What the distributions listed make of the values before. -/
structure Varied (seed index : UInt32) (specs : List DistributionSpec)
    (before after : Vector Int32 15) : Prop where
  listed : ∀ spec ∈ specs, ∃ sample, sampleDistribution spec seed index = .ok sample ∧
    after.get spec.parameter.index = sample - spec.baseline
  unlisted : ∀ parameter, parameter ∉ specs.map DistributionSpec.parameter →
    after.get parameter.index = before.get parameter.index

theorem get_set_of_ne {i j : Fin 15} (h : i ≠ j) (x : Int32) :
    (values.set i x i.isLt).get j = values.get j :=
  Vector.getElem_set_ne i.isLt j.isLt (Fin.val_ne_of_ne h)

/-- One distribution more. -/
theorem Varied.cons {spec : DistributionSpec} {sample : Int32}
    (hsample : sampleDistribution spec seed index = .ok sample)
    (hnew : spec.parameter ∉ specs.map DistributionSpec.parameter)
    (h : Varied seed index specs (values.set spec.parameter.index (sample - spec.baseline)
      spec.parameter.index.isLt) values') : Varied seed index (spec :: specs) values values' := by
  constructor
  · intro x hx
    rcases List.mem_cons.mp hx with rfl | hx
    · exact ⟨sample, hsample, (h.unlisted _ hnew).trans (Vector.getElem_set_self _)⟩
    · exact h.listed x hx
  · intro parameter hother
    rw [List.map_cons, List.mem_cons, not_or] at hother
    rw [h.unlisted parameter hother.2]
    exact get_set_of_ne (fun heq ↦ hother.1 (ParameterId.index_injective heq.symm)) _

/-- Every parameter that is listed gets its variation. -/
theorem deriveValues_varied (hvalid : ∀ spec ∈ specs, validateDistribution spec = .ok ())
    (hnodup : (specs.map DistributionSpec.parameter).Nodup) (seed index : UInt32)
    (values : Vector Int32 15) :
    ∃ after, deriveValues seed index specs values = .ok after ∧
      Varied seed index specs values after := by
  induction specs generalizing values with
  | nil => exact ⟨values, rfl, List.forall_mem_nil _, fun _ _ ↦ rfl⟩
  | cons spec specs ih =>
      rw [List.forall_mem_cons] at hvalid
      rw [List.map_cons, List.nodup_cons] at hnodup
      obtain ⟨sample, hsample, -⟩ := sampleDistribution_ok hvalid.1 seed index
      obtain ⟨after, hafter, hvaried⟩ := ih hvalid.2 hnodup.2
        (values.set spec.parameter.index (sample - spec.baseline) spec.parameter.index.isLt)
      refine ⟨after, ?_, hvaried.cons hsample hnodup.1⟩
      unfold deriveValues
      rw [List.foldlM_cons, hsample]
      exact hafter

/-- The order in which the distributions are listed does not matter. -/
theorem Varied.eq_of_perm (h : Varied seed index specs values values')
    {values'' : Vector Int32 15} (h' : Varied seed index specs' values values'')
    (hperm : specs'.Perm specs) : values'' = values' := by
  have hget : ∀ parameter : ParameterId,
      values''.get parameter.index = values'.get parameter.index := by
    intro parameter
    by_cases hlisted : parameter ∈ specs.map DistributionSpec.parameter
    · obtain ⟨spec, hspec, rfl⟩ := List.mem_map.mp hlisted
      obtain ⟨sample, hsample, hvalue⟩ := h.listed spec hspec
      obtain ⟨sample', hsample', hvalue'⟩ := h'.listed spec (hperm.mem_iff.mpr hspec)
      cases hsample.symm.trans hsample'
      rw [hvalue, hvalue']
    · rw [h.unlisted parameter hlisted,
        h'.unlisted parameter (mt (hperm.map _).mem_iff.mp hlisted)]
  refine Vector.ext fun i hi ↦ ?_
  have hvalue := hget (ParameterId.all.get ⟨i, hi⟩)
  rwa [ParameterId.index_all] at hvalue

end Values

section Runs

variable {c c' : CampaignConfig} {index : UInt32}

/-- A configuration is valid iff its numbers are in range and every parameter is listed once, with
a valid distribution. -/
theorem validate_ok : c.validate = .ok () ↔
    c.masterSeed ≠ 0 ∧ c.runCount ≠ 0 ∧ c.runCount ≤ 65535 ∧ c.distributionCount.toNat ≤ 16 ∧
      (∀ spec ∈ c.listed, validateDistribution spec = .ok ()) ∧
      (c.listed.map DistributionSpec.parameter).Nodup := by
  unfold CampaignConfig.validate
  simp only [bind_eq_ok, reject_eq_ok, validateListed_ok, exists_const, not_or, gt_iff_lt,
    UInt32.not_lt, Nat.not_lt, UInt16.zero_and, true_and, and_assoc, ne_eq]

/-- The variation of a parameter, between its bounds. -/
theorem Varied.bounds {seed : UInt32} {specs : List DistributionSpec}
    {before after : Vector Int32 15} (h : Varied seed index specs before after)
    (hvalid : ∀ spec ∈ specs, validateDistribution spec = .ok ()) {spec : DistributionSpec}
    (hspec : spec ∈ specs) :
    spec.minimum.toInt - spec.baseline.toInt ≤ (after.get spec.parameter.index).toInt ∧
      (after.get spec.parameter.index).toInt ≤ spec.maximum.toInt - spec.baseline.toInt ∧
      (index = 0 → after.get spec.parameter.index = 0) := by
  obtain ⟨hminimum, hmaximum, hlow, hhigh⟩ := bounded_of_valid (hvalid spec hspec)
  obtain ⟨value, hvalue, hleast, hlargest, hfirst⟩ :=
    sampleDistribution_ok (hvalid spec hspec) seed index
  obtain ⟨sample, hsample, hafter⟩ := h.listed spec hspec
  cases hvalue.symm.trans hsample
  rw [hafter, toInt_sub_of_fits (by omega) (by omega)]
  refine ⟨by omega, by omega, fun hzero ↦ ?_⟩
  rw [hfirst hzero, Int32.sub_self]

/-- The run of a valid campaign. -/
theorem deriveRun_ok (hvalid : c.validate = .ok ()) (hindex : index < c.runCount) :
    ∃ values, Varied c.masterSeed index c.listed (.replicate 15 0) values ∧
      deriveRun c index = .ok ⟨index, deriveSensorSeed c.masterSeed index, ⟨values,
        crc32Ieee (le32 index ++ le32 (deriveSensorSeed c.masterSeed index)
          ++ values.toList.flatMap fun value ↦ le32 value.toUInt32)⟩⟩ := by
  obtain ⟨-, -, -, -, hspecs, hnodup⟩ := validate_ok.mp hvalid
  obtain ⟨values, hvalues, hvaried⟩ :=
    deriveValues_varied hspecs hnodup c.masterSeed index (.replicate 15 0)
  refine ⟨values, hvaried, ?_⟩
  unfold deriveRun
  rw [bind_of_ok hvalid, reject_bind (UInt32.not_le.mpr hindex), hvalues]
  rfl

/-- A campaign that lists the same distributions in another order is as valid. -/
theorem validate_of_perm (hvalid : c.validate = .ok ()) (hseed : c'.masterSeed = c.masterSeed)
    (hcount : c'.runCount = c.runCount) (hlength : c'.distributionCount = c.distributionCount)
    (hperm : c'.listed.Perm c.listed) : c'.validate = .ok () := by
  rw [validate_ok] at hvalid ⊢
  rw [hseed, hcount, hlength, (hperm.map _).nodup_iff]
  obtain ⟨hseed, hempty, hmany, hroom, hspecs, hnodup⟩ := hvalid
  exact ⟨hseed, hempty, hmany, hroom, fun spec hspec ↦ hspecs spec (hperm.mem_iff.mp hspec), hnodup⟩

/-- The run that is derived from a valid campaign keeps every parameter between its bounds and
leaves the ones that are not listed alone; the first run is the baseline, and the order of the
distributions does not matter. -/
theorem deriveRun_sound (c : CampaignConfig) (index : UInt32) (hvalid : c.validate = .ok ())
    (hindex : index < c.runCount) :
    ∃ run, deriveRun c index = .ok run ∧
      (∀ spec ∈ c.listed,
        spec.minimum.toInt - spec.baseline.toInt ≤ (run.variation.value spec.parameter).toInt ∧
        (run.variation.value spec.parameter).toInt ≤ spec.maximum.toInt - spec.baseline.toInt) ∧
      (∀ parameter, (∀ spec ∈ c.listed, spec.parameter ≠ parameter) →
        run.variation.value parameter = 0) ∧
      (index = 0 → ∀ parameter, run.variation.value parameter = 0) ∧
      ∀ c' : CampaignConfig, c'.masterSeed = c.masterSeed → c'.runCount = c.runCount →
        c'.distributionCount = c.distributionCount → c'.listed.Perm c.listed →
        deriveRun c' index = .ok run := by
  obtain ⟨-, -, -, -, hspecs, -⟩ := validate_ok.mp hvalid
  obtain ⟨values, hvaried, hrun⟩ := deriveRun_ok hvalid hindex
  have hzero (parameter : ParameterId) :
      (Vector.replicate 15 (0 : Int32)).get parameter.index = 0 :=
    Vector.getElem_replicate parameter.index.isLt
  have hunlisted (parameter : ParameterId)
      (h : parameter ∉ c.listed.map DistributionSpec.parameter) :
      values.get parameter.index = 0 :=
    (hvaried.unlisted parameter h).trans (hzero parameter)
  refine ⟨_, hrun, fun spec hspec ↦ ?_, fun parameter hother ↦ ?_, fun hfirst parameter ↦ ?_, ?_⟩
  · obtain ⟨hlow, hhigh, -⟩ := hvaried.bounds hspecs hspec
    exact ⟨hlow, hhigh⟩
  · refine hunlisted parameter fun hlisted ↦ ?_
    obtain ⟨spec, hspec, heq⟩ := List.mem_map.mp hlisted
    exact hother spec hspec heq
  · by_cases hlisted : parameter ∈ c.listed.map DistributionSpec.parameter
    · obtain ⟨spec, hspec, rfl⟩ := List.mem_map.mp hlisted
      exact (hvaried.bounds hspecs hspec).2.2 hfirst
    · exact hunlisted parameter hlisted
  · intro c' hseed hcount hlength hperm
    have hvalid' := validate_of_perm hvalid hseed hcount hlength hperm
    obtain ⟨values', hvaried', hrun'⟩ := deriveRun_ok hvalid' (hcount ▸ hindex)
    rw [hseed] at hvaried' hrun'
    rw [hrun', hvaried.eq_of_perm hvaried' hperm]

/-- Drag, thrust and payload mass, in one order and in the other. -/
def threeDistributions (reversed : Bool) : CampaignConfig :=
  let drag : DistributionSpec := ⟨.dragPpm, .cltNormal3Sigma, 0, -50000, 0, 50000, 0⟩
  let thrust : DistributionSpec := ⟨.stage1ThrustPpm, .triangular, 3, -16777216, 0, 16777216, 0⟩
  let mass : DistributionSpec := ⟨.payloadMassPpm, .bernoulli, 3, -16777216, 5, 7, 250000⟩
  { masterSeed := 0x4b534134
    runCount := 9
    distributionCount := 3
    distributions := if reversed
      then #v[mass, thrust, drag, mass, mass, mass, mass, mass, mass, mass, mass, mass, mass, mass,
        mass, mass]
      else #v[drag, thrust, mass, drag, drag, drag, drag, drag, drag, drag, drag, drag, drag, drag,
        drag, drag] }

theorem deriveRun_sound_reversed :
    ∃ run, deriveRun (threeDistributions false) 7 = .ok run ∧
      deriveRun (threeDistributions true) 7 = .ok run ∧
      (run.variation.value .payloadMassPpm).toInt ≤ 2 ∧
      run.variation.value .gyroBiasQ24 = 0 := by
  obtain ⟨run, hrun, hbounds, hunlisted, -, horder⟩ :=
    deriveRun_sound (threeDistributions false) 7 rfl (by decide)
  have hmass : (⟨.payloadMassPpm, .bernoulli, 3, -16777216, 5, 7, 250000⟩ : DistributionSpec)
      ∈ (threeDistributions false).listed := by decide
  refine ⟨run, hrun, horder (threeDistributions true) rfl rfl rfl ?_, (hbounds _ hmass).2,
    hunlisted .gyroBiasQ24 ?_⟩
  · exact (List.reverse_perm (threeDistributions false).listed)
  · decide

end Runs

end Ksa64.Sim
