import Mathlib.Data.List.Perm.Subperm
import Ksa64.Library.Drawn
import Ksa64.Sim.Campaign
import Ksa64.Host.Selection

/-!
# Proposals

What a generation proposes is drawn from the keyed generator, so it depends on the manifest and on
the generation before only.  A word is meant to be keyed by the generation, the individual, the
variable and the draw.  But the words for parents and picks are drawn within a group, and so are
those for all variables but the first, where the generator does not look at the individual: all
children of a generation draw them under the same keys (`proposal_keys_apart_iff`).
-/

namespace Ksa64.Host

open Ksa64.Library
open Ksa64.Sim (CounterKey counterKey keyedWordRaw)

/-- A word, and the key under which it is drawn. -/
def draw (masterSeed runIndex : UInt32) (parameter correlationGroup drawIndex : UInt8) :
    Drawn CounterKey UInt32 :=
  ⟨keyedWordRaw masterSeed runIndex parameter correlationGroup drawIndex,
    [counterKey masterSeed runIndex parameter correlationGroup drawIndex]⟩

def quantized (spec : VariableSpec) (numer denom : Nat) : Int32 :=
  if denom = 0 then spec.minimum
  else
    let steps := ((spec.maximum.toInt - spec.minimum.toInt).tdiv spec.quantum.toNat).toNat
    let k : Int := ((numer * steps + denom / 2) / denom : Nat)
    Int32.ofInt (spec.minimum.toInt + k * spec.quantum.toNat)

/-- The values of the variables, each drawn from the values so far. -/
def drawValues (m : SearchManifest) (next : Vector Int32 32 → Nat → Drawn CounterKey Int32)
    (values : Vector Int32 32) : Drawn CounterKey (Vector Int32 32) :=
  (List.range m.variableCount.toNat).foldlM (fun values v ↦ do
    let value ← next values v
    pure (values.setIfInBounds v value)) values

/-! ## The first population -/

def initialValue (m : SearchManifest) (n individual v : Nat) : Drawn CounterKey Int32 := do
  let word ← draw m.masterSeed (UInt32.ofNat individual) (UInt8.ofNat v) 0 0
  let stratum := (individual + v * 17) % n
  let numer := stratum * 2 ^ 32 + word.toNat
  pure (quantized m.variableSpecs[v]! numer (n * 2 ^ 32 - 1))

def initialIndividual (m : SearchManifest) (n individual : Nat) : Drawn CounterKey DesignVector := do
  let values ← drawValues m (fun _ ↦ initialValue m n individual) (baselineVector m).values
  pure (designFromValues m values)

def initialPopulation (m : SearchManifest) : List DesignVector :=
  let n := max 1 m.budgets.population.toNat
  baselineVector m :: (List.range' 1 (n - 1)).map fun individual ↦ (initialIndividual m n individual).value

/-! ## Offspring -/

def tournament (m : SearchManifest) (a b : CandidateAggregate) : Bool :=
  if dominates m a b then true
  else if dominates m b a then false
  else if a.feasible ≠ b.feasible then a.feasible
  else if ¬a.feasible then feasibilityCmp a b ≠ .gt
  else a.candidateIdentity ≤ b.candidateIdentity

/-- A variable of a child, from the values `x` and `y` of its parents. -/
def offspringValue (m : SearchManifest) (g : UInt16) (child : Nat) (x y : Int32) (v : Nat) :
    Drawn CounterKey Int32 := do
  let spec := m.variableSpecs[v]!
  let cross ← draw m.masterSeed g.toUInt32 (UInt8.ofNat child) (UInt8.ofNat v) 4
  let crossed :=
    match spec.kind with
    | .boolean | .catalogue | .ordinal => if cross &&& 1 = 0 then x else y
    | _ =>
        let alpha : Int := (cross &&& 0xffff).toNat
        let mixed := (x.toInt * (65535 - alpha) + y.toInt * alpha + 32767).tdiv 65535
        Int32.ofInt (spec.clamp mixed)
  let mutation ← draw m.masterSeed g.toUInt32 (UInt8.ofNat child) (UInt8.ofNat v) 5
  let mutated :=
    if mutation % 8 = 0 then
      let delta : Int :=
        if (mutation >>> 8) % 3 = 0 then -1
        else if (mutation >>> 8) % 3 = 1 then 1
        else ((mutation >>> 16) % 5).toNat - 2
      Int32.ofInt (spec.clamp (crossed.toInt + delta * spec.quantum.toNat))
    else crossed
  pure (quantized spec (mutated.toInt - spec.minimum.toInt).toNat
    (max 1 (spec.maximum.toInt - spec.minimum.toInt)).toNat)

def offspringChild (m : SearchManifest) (g : UInt16) (pop : List DesignVector)
    (agg : List CandidateAggregate) (child : Nat) : Drawn CounterKey DesignVector := do
  let n := pop.length
  let drawn (d : UInt8) := draw m.masterSeed g.toUInt32 (UInt8.ofNat child) 11 d
  let a := (← drawn 0).toNat % n
  let b := (← drawn 1).toNat % n
  let p1 := if tournament m agg[a]! agg[b]! then a else b
  let c := (← drawn 2).toNat % n
  let d := (← drawn 3).toNat % n
  let p2 := if tournament m agg[c]! agg[d]! then c else d
  let values ← drawValues m
    (fun _ v ↦ offspringValue m g child pop[p1]!.values[v]! pop[p2]!.values[v]! v) pop[p1]!.values
  pure (designFromValues m values)

def offspring (m : SearchManifest) (g : UInt16) (pop : List DesignVector)
    (agg : List CandidateAggregate) : List DesignVector :=
  (List.range pop.length).map fun child ↦ (offspringChild m g pop agg child).value

/-! ## Differential evolution -/

/-- The value between the bounds that is reached by reflection at them. -/
def reflect (v min max : Int) : Int :=
  if min = max then min
  else if _h : min < max ∧ (v < min ∨ max < v) then
    let raised := if v < min then min + (min - v) else v
    reflect (if max < raised then max - (raised - max) else raised) min max
  else v
termination_by (Max.max (min - v) (v - max)).toNat
decreasing_by
  split_ifs <;> omega

/-- The next index that is not to be avoided, from `r` on and around. -/
def pickOther (n : Nat) (avoid : List Nat) : Nat → Nat → Nat
  | 0, r => r
  | fuel + 1, r => if r ∈ avoid then pickOther n avoid fuel ((r + 1) % n) else r

/-- There is another index if not all are to be avoided. -/
theorem pickOther_notMem {n : Nat} {avoid : List Nat} (h : avoid.length < n) {r : Nat} (hr : r < n) :
    pickOther n avoid n r ∉ avoid := by
  have hstuck (fuel r : Nat) (hr : r < n) (hmem : pickOther n avoid fuel r ∈ avoid) :
      ∀ k ≤ fuel, (r + k) % n ∈ avoid := by
    induction fuel generalizing r with
    | zero =>
        intro k hk
        rw [Nat.le_zero.mp hk, Nat.add_zero, Nat.mod_eq_of_lt hr]
        exact hmem
    | succ fuel ih =>
        rw [pickOther] at hmem
        split_ifs at hmem with havoid
        · intro k hk
          cases k with
          | zero => rwa [Nat.add_zero, Nat.mod_eq_of_lt hr]
          | succ k =>
              have := ih _ (Nat.mod_lt _ (Nat.zero_lt_of_lt hr)) hmem k (Nat.le_of_succ_le_succ hk)
              rwa [Nat.mod_add_mod, Nat.add_assoc, Nat.add_comm 1 k] at this
        · exact absurd hmem havoid
  intro hmem
  refine Nat.not_le.mpr h ?_
  have hall : List.range n ⊆ avoid := by
    intro i hi
    have hi := List.mem_range.mp hi
    have := hstuck n r hr hmem ((i + n - r) % n) (Nat.le_of_lt (Nat.mod_lt _ (Nat.zero_lt_of_lt hr)))
    have hback : r + (i + n - r) = i + n := Nat.add_sub_of_le (by omega)
    rwa [Nat.add_mod_mod, hback, Nat.add_mod_right, Nat.mod_eq_of_lt hi] at this
  have hlength := (List.subperm_of_subset List.nodup_range hall).length_le
  rwa [List.length_range] at hlength

/-- A variable of a donor. -/
def donorValue (spec : VariableSpec) (x1 x2 x3 : Int32) : Int32 :=
  let donor := x1.toInt + ((x2.toInt - x3.toInt) * 3).tdiv 4
  let bounded := reflect donor spec.minimum.toInt spec.maximum.toInt
  let quantum : Int := spec.quantum.toNat
  let steps := (bounded - spec.minimum.toInt + quantum.tdiv 2).tdiv quantum
  Int32.ofInt (spec.clamp (spec.minimum.toInt + steps * quantum))

/-- A variable of a trial, from the value of its target. -/
def trialValue (m : SearchManifest) (g : UInt16) (candidates : List DesignVector)
    (target r1 r2 r3 forced : Nat) (value : Int32) (v : Nat) : Drawn CounterKey Int32 :=
  if m.variableSpecs[v]!.kind = .catalogue then pure value
  else do
    let cross := (← draw m.masterSeed g.toUInt32 (UInt8.ofNat target) (UInt8.ofNat v) 4) &&& 0xffff
    pure (if v = forced ∨ cross ≤ 58981 then
        donorValue m.variableSpecs[v]! candidates[r1]!.values[v]! candidates[r2]!.values[v]!
          candidates[r3]!.values[v]!
      else value)

def trial (m : SearchManifest) (g : UInt16) (candidates : List DesignVector) (target : Nat) :
    Drawn CounterKey DesignVector := do
  let n := candidates.length
  let pick (d : UInt8) := draw m.masterSeed g.toUInt32 (UInt8.ofNat target) 41 d
  let r1 := pickOther n [target] n ((← pick 0).toNat % n)
  let r2 := pickOther n [target, r1] n ((← pick 1).toNat % n)
  let r3 := pickOther n [target, r1, r2] n ((← pick 2).toNat % n)
  let forced := (← pick 3).toNat % n % m.variableCount.toNat
  let values ← drawValues m
    (fun values v ↦ trialValue m g candidates target r1 r2 r3 forced values[v]! v)
    candidates[target]!.values
  pure (designFromValues m values)

def trials (m : SearchManifest) (g : UInt16) (candidates : List DesignVector) : List DesignVector :=
  (List.range candidates.length).map fun target ↦ (trial m g candidates target).value

/-! ## Keys -/

section Keys

variable {m : SearchManifest} {g : UInt16}

/-- The parents of every child are drawn under the same keys. -/
theorem parentKey_mem (pop : List DesignVector) (agg : List CandidateAggregate) (child : Nat) :
    counterKey m.masterSeed g.toUInt32 0 11 0 ∈ (offspringChild m g pop agg child).keys := by
  rw [@Sim.counterKey_of_group _ _ _ (UInt8.ofNat child) _ _ (by decide)]
  exact Drawn.mem_keys_bind (List.mem_singleton_self _)

/-- The picks for every target are drawn under the same keys. -/
theorem pickKey_mem (candidates : List DesignVector) (target : Nat) :
    counterKey m.masterSeed g.toUInt32 0 41 0 ∈ (trial m g candidates target).keys := by
  rw [@Sim.counterKey_of_group _ _ _ (UInt8.ofNat target) _ _ (by decide)]
  exact Drawn.mem_keys_bind (List.mem_singleton_self _)

/-- The keys of a variable are in a group of its own. -/
def InGroup (m : SearchManifest) (g : UInt16) (child v : Nat) (key : CounterKey) : Prop :=
  ∃ d, key = counterKey m.masterSeed g.toUInt32 (UInt8.ofNat child) (UInt8.ofNat v) d

theorem inGroup_of_mem_offspringValue {child : Nat} {x y : Int32} {v : Nat} {key : CounterKey}
    (h : key ∈ (offspringValue m g child x y v).keys) : InGroup m g child v key := by
  rcases List.mem_cons.mp h with rfl | h
  · exact ⟨_, rfl⟩
  · exact ⟨_, List.mem_singleton.mp h⟩

theorem inGroup_of_mem_trialValue {candidates : List DesignVector} {target r1 r2 r3 forced : Nat}
    {value : Int32} {v : Nat} {key : CounterKey}
    (h : key ∈ (trialValue m g candidates target r1 r2 r3 forced value v).keys) :
    InGroup m g target v key := by
  unfold trialValue at h
  split at h
  · cases h
  · exact ⟨_, List.mem_singleton.mp h⟩

/-- Computations for the variables that draw in their own groups are apart. -/
theorem apart_of_inGroup {α : Type} {drawn : Nat → Drawn CounterKey α} {child : Nat}
    (h : ∀ v, ∀ key ∈ (drawn v).keys, InGroup m g child v key) :
    Drawn.Apart drawn m.variableCount.toNat := by
  intro v hv w hw hne key hkey hkey'
  obtain ⟨d, rfl⟩ := h v _ hkey
  obtain ⟨d', heq⟩ := h w _ hkey'
  refine Sim.counterKey_ne_of_group_ne (fun hgroup ↦ hne ?_) heq
  have hlt := m.variableCount.toNat_lt
  have hnat := congrArg UInt8.toNat hgroup
  rwa [UInt8.toNat_ofNat', UInt8.toNat_ofNat', Nat.mod_eq_of_lt (hv.trans hlt),
    Nat.mod_eq_of_lt (hw.trans hlt)] at hnat

end Keys

/-- **The keys of proposals.**  The children of a generation, by crossing or by differential
evolution, are drawn under keys of their own if and only if there is at most one of them; the
variables of a child always are. -/
theorem proposal_keys_apart_iff (m : SearchManifest) (g : UInt16) :
    (∀ pop agg, Drawn.Apart (offspringChild m g pop agg) pop.length ↔ pop.length ≤ 1)
      ∧ (∀ candidates, Drawn.Apart (trial m g candidates) candidates.length ↔ candidates.length ≤ 1)
      ∧ (∀ child (x y : Nat → Int32), Drawn.Apart (fun v ↦ offspringValue m g child (x v) (y v) v)
        m.variableCount.toNat)
      ∧ ∀ candidates target r1 r2 r3 forced (value : Nat → Int32),
        Drawn.Apart (fun v ↦ trialValue m g candidates target r1 r2 r3 forced (value v) v)
          m.variableCount.toNat := by
  refine ⟨fun pop agg ↦ ?_, fun candidates ↦ ?_, fun child x y ↦ ?_, ?_⟩
  · exact Drawn.apart_iff_of_common fun child _ ↦ parentKey_mem pop agg child
  · exact Drawn.apart_iff_of_common fun target _ ↦ pickKey_mem candidates target
  · exact apart_of_inGroup fun v key hkey ↦ inGroup_of_mem_offspringValue hkey
  · intro candidates target r1 r2 r3 forced value
    exact apart_of_inGroup fun v key hkey ↦ inGroup_of_mem_trialValue hkey

/-- A manifest of one variable. -/
def smallManifest : SearchManifest where
  identity := 1
  engine := .nsga2V1
  masterSeed := 0x4b534139
  budgets := ⟨5, 8, 4, 4, 4096⟩
  variableCount := 1
  objectiveCount := 1
  constraintCount := 0
  variableSpecs := Vector.replicate 32 ⟨1, .fixed, -10, 10, 2⟩
  objectives := Vector.replicate 8 ⟨1, .maximize⟩
  constraints := Vector.replicate 16 ⟨0, 0⟩

/-- The eight children of a generation share keys. -/
theorem children_share_keys :
    ∃ (m : SearchManifest) (g : UInt16) (pop : List DesignVector) (agg : List CandidateAggregate),
      m.validate = .ok () ∧ pop.length = m.budgets.population.toNat
        ∧ ¬Drawn.Apart (offspringChild m g pop agg) pop.length := by
  refine ⟨smallManifest, 1, initialPopulation smallManifest, List.replicate 8 default, rfl, rfl, ?_⟩
  rw [Drawn.apart_iff_of_common fun child _ ↦ parentKey_mem _ _ child]
  exact fun hle ↦ nomatch hle

end Ksa64.Host
