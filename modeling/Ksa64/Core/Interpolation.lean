import Ksa64.Core.ReducedDivision

/-!
# Interpolation

A table is interpolated linearly between its knots and is constant beyond them.  How far the query
is into an interval is a fraction with sixteen binary places, and that is less than one: what would
round up to one is the largest fraction there is.  The faster interpolation, for intervals of whole
units, does not bound the fraction so.
-/

namespace Ksa64.Core

open Ksa64.Library

/-! ## The tables -/

/-- The loop over the intervals of a table. -/
def interpolateLoop (x : Int32) : List Int32 → List Int32 → NumericM Int32
  | x₀ :: x₁ :: xs, y₀ :: y₁ :: ys =>
    if x₁ ≤ x₀ then do
      recordFault .invalidInput
      pure 0
    else if x < x₁ then do
      let numerator ← subtract x x₀
      let denominator ← subtract x₁ x₀
      let fraction ← divideScaled numerator denominator 16
      let range ← subtract y₁ y₀
      let delta ← multiplyScaled range (max 0 (min 65535 fraction)) 16
      add y₀ delta
    else interpolateLoop x (x₁ :: xs) (y₁ :: ys)
  | _, _ => do
    recordFault .invalidInput
    pure 0

/-- Interpolation in a table, constant beyond its ends. -/
def interpolateClamped (x : Int32) (xs ys : List Int32) : NumericM Int32 :=
  if xs = [] ∨ xs.length ≠ ys.length then do
    recordFault .invalidInput
    pure 0
  else if x ≤ xs.headD 0 then pure (ys.headD 0)
  else if xs.getLastD 0 ≤ x then pure (ys.getLastD 0)
  else interpolateLoop x xs ys

/-- The loop over intervals of whole units. -/
def interpolateIntegralLoop (x : Int32) : List Int32 → List Int32 → NumericM Int32
  | x₀ :: x₁ :: xs, y₀ :: y₁ :: ys =>
    if x₁ ≤ x₀ then do
      recordFault .invalidInput
      pure 0
    else if x < x₁ then do
      let numerator ← subtract x x₀
      let denominator ← subtract x₁ x₀
      let fraction ← divideUnsignedFractionQ16IntegralQ12 numerator denominator
      let range ← subtract y₁ y₀
      let delta ← multiplyScaled range fraction 16
      add y₀ delta
    else interpolateIntegralLoop x (x₁ :: xs) (y₁ :: ys)
  | _, _ => do
    recordFault .invalidInput
    pure 0

/-- Interpolation in a table whose intervals are whole units. -/
def interpolateClampedIntegralQ12 (x : Int32) (xs ys : List Int32) : NumericM Int32 :=
  if xs = [] ∨ xs.length ≠ ys.length then do
    recordFault .invalidInput
    pure 0
  else if x ≤ xs.headD 0 then pure (ys.headD 0)
  else if xs.getLastD 0 ≤ x then pure (ys.getLastD 0)
  else interpolateIntegralLoop x xs ys

structure Knot where
  x : Int32
  y : Int32
deriving DecidableEq, Repr

/-- A table: at least one knot, and the abscissae increase. -/
structure KnotTable where
  knots : List Knot
  nonempty : knots ≠ []
  increasing : knots.Pairwise fun a b ↦ a.x < b.x

namespace KnotTable

variable (t : KnotTable)

def xs : List Int32 := t.knots.map Knot.x

def ys : List Int32 := t.knots.map Knot.y

def first : Knot := t.knots.head t.nonempty

def last : Knot := t.knots.getLast t.nonempty

/-- The knots are neighbours. -/
def Interval (a b : Knot) : Prop := [a, b] <:+: t.knots

end KnotTable

/-! ## One interval -/

section Interval

variable {x : Int32} {a b : Knot} {s : NumericStatus} {f : Int32}

/-- How far the query is into the interval. -/
def fraction (a b : Knot) (x : Int32) : Int :=
  roundAway (min (2 ^ 31 - 1) (x.toInt - a.x.toInt) * 2 ^ 16)
    (min (2 ^ 31 - 1) (b.x.toInt - a.x.toInt))

/-- The difference of the ordinates, as much of it as a word holds. -/
def range (a b : Knot) : Int := max (-2 ^ 31) (min (2 ^ 31 - 1) (b.y.toInt - a.y.toInt))

/-- The ordinate at a fraction of the interval. -/
def blended (a b : Knot) (f : Int) : Int := a.y.toInt + roundAway (range a b * f) (2 ^ 16)

/-- The last part of the interpolation, as one operation. -/
def blend (a b : Knot) (fraction : Int32) : NumericM Int32 := do
  let range ← subtract b.y a.y
  let delta ← multiplyScaled range fraction 16
  add a.y delta

/-- The ordinate is between those of the knots. -/
theorem blended_between {f : Int} (hf : 0 ≤ f) (hf' : f ≤ 2 ^ 16) :
    min a.y.toInt b.y.toInt ≤ blended a b f ∧ blended a b f ≤ max a.y.toInt b.y.toInt := by
  have hpart := @roundAway_part (range a b) f (2 ^ 16) (by decide) hf hf'
  unfold blended
  generalize roundAway (range a b * f) (2 ^ 16) = delta at hpart ⊢
  unfold range at hpart
  omega

/-- The blend is exact but for the range, which saturates if the ordinates are too far apart. -/
theorem blend_run (hf : 0 ≤ f.toInt) (hf' : f.toInt ≤ 2 ^ 16) :
    ∃ v, (blend a b f).run s = (v, (settled (b.y.toInt - a.y.toInt) s).2) ∧
      v.toInt = blended a b f.toInt := by
  have hbetween := @blended_between a b _ hf hf'
  have hpart := @roundAway_part (range a b) f.toInt (2 ^ 16) (by decide) hf hf'
  have hal := Int32.le_toInt a.y
  have hah := Int32.toInt_lt a.y
  have hbl := Int32.le_toInt b.y
  have hbh := Int32.toInt_lt b.y
  have hrange : (settled (b.y.toInt - a.y.toInt) s).1.toInt = range a b := toInt_settled
  have hrun : (subtract b.y a.y).run s = settled (b.y.toInt - a.y.toInt) s := subtract_settled
  generalize settled (b.y.toInt - a.y.toInt) s = settledRange at hrange hrun ⊢
  have hdelta : Fits (roundAway (range a b * f.toInt) (2 ^ 16)) := by
    have hbound : -2 ^ 31 ≤ range a b ∧ range a b < 2 ^ 31 := by
      unfold range
      omega
    constructor <;> omega
  have hproduct : (multiplyScaled settledRange.1 f 16).run settledRange.2
      = settled (roundAway (range a b * f.toInt) (2 ^ 16)) settledRange.2 := by
    rw [← hrange]
    exact multiplyScaled_settled (by decide) (by decide)
  have hword := @toInt_settled_of_fits settledRange.2 _ hdelta
  have hclear : (settled (roundAway (range a b * f.toInt) (2 ^ 16)) settledRange.2).2
      = settledRange.2 := if_pos hdelta
  have hsum := @add_settled a.y (settled (roundAway (range a b * f.toInt) (2 ^ 16)) settledRange.2).1
    settledRange.2
  rw [hword] at hsum
  change _ = settled (blended a b f.toInt) _ at hsum
  have hfits : Fits (blended a b f.toInt) := by constructor <;> omega
  refine ⟨(settled (blended a b f.toInt) settledRange.2).1, ?_, toInt_settled_of_fits hfits⟩
  unfold blend
  rw [run_bind_of hrun, run_bind_of hproduct, hclear, hsum]
  exact Prod.ext rfl (if_pos hfits)

/-- The fraction of a query in the interval is from zero to one. -/
theorem fraction_bounds (h : a.x.toInt ≤ x.toInt) (h' : x.toInt < b.x.toInt) :
    0 ≤ fraction a b x ∧ fraction a b x ≤ 2 ^ 16 := by
  have hn : 0 ≤ min (2 ^ 31 - 1) (x.toInt - a.x.toInt) := by omega
  have hd : 0 < min (2 ^ 31 - 1) (b.x.toInt - a.x.toInt) := by omega
  have hle : min (2 ^ 31 - 1) (x.toInt - a.x.toInt) ≤ min (2 ^ 31 - 1) (b.x.toInt - a.x.toInt) := by
    omega
  unfold fraction
  generalize min (2 ^ 31 - 1) (x.toInt - a.x.toInt) = n at hn hle ⊢
  generalize min (2 ^ 31 - 1) (b.x.toInt - a.x.toInt) = d at hd hle ⊢
  refine ⟨roundAway_nonneg (by omega) hd, ?_⟩
  calc roundAway (n * 2 ^ 16) d ≤ roundAway (2 ^ 16 * d) d := roundAway_mono hd (by omega)
    _ = 2 ^ 16 := roundAway_multiple hd _

/-- A later query is at a larger fraction. -/
theorem fraction_mono {x' : Int32} (h : a.x.toInt < b.x.toInt) (hle : x.toInt ≤ x'.toInt) :
    fraction a b x ≤ fraction a b x' := by
  unfold fraction
  exact roundAway_mono (by omega) (by omega)

/-- The quotient that the interpolation starts with. -/
theorem fraction_run (h : a.x.toInt ≤ x.toInt) (h' : x.toInt < b.x.toInt) {n d : Int32}
    (hn : n.toInt = min (2 ^ 31 - 1) (x.toInt - a.x.toInt))
    (hd : d.toInt = min (2 ^ 31 - 1) (b.x.toInt - a.x.toInt)) :
    ∃ q, (divideScaled n d 16).run s = (q, s) ∧ q.toInt = fraction a b x := by
  have hbounds := @fraction_bounds x a b h h'
  have hquotient := @divideScaled_settled n d 16 s (by omega) (by decide)
  rw [hn, hd] at hquotient
  change _ = settled (fraction a b x) s at hquotient
  have hfits : Fits (fraction a b x) := by constructor <;> omega
  exact ⟨_, hquotient.trans (Prod.ext rfl (if_pos hfits)), toInt_settled_of_fits (s := s) hfits⟩

/-- The status after the two differences that an interpolation starts with. -/
def spanStatus (a b : Knot) (x : Int32) (s : NumericStatus) : NumericStatus :=
  (settled (b.x.toInt - a.x.toInt) (settled (x.toInt - a.x.toInt) s).2).2

/-- A query in an interval that a word holds is without a fault. -/
theorem spanStatus_fits (h : a.x.toInt ≤ x.toInt) (h' : x.toInt < b.x.toInt)
    (hfits : Fits (b.x.toInt - a.x.toInt)) : spanStatus a b x s = s := by
  have hinside : Fits (x.toInt - a.x.toInt) := by
    obtain ⟨-, hlt⟩ := hfits
    constructor <;> omega
  unfold spanStatus settled
  dsimp only
  rw [if_pos hinside, if_pos hfits]

/-- What the interpolation does in one interval. -/
def between (x : Int32) (a b : Knot) : NumericM Int32 := do
  let numerator ← subtract x a.x
  let denominator ← subtract b.x a.x
  let fraction ← divideScaled numerator denominator 16
  blend a b (max 0 (min 65535 fraction))

/-- The interpolation's value is the blend at the fraction, which is less than one. -/
theorem between_run (h : a.x.toInt ≤ x.toInt) (h' : x.toInt < b.x.toInt) :
    ∃ v, (between x a b).run s = (v, (settled (b.y.toInt - a.y.toInt) (spanStatus a b x s)).2) ∧
      v.toInt = blended a b (min 65535 (fraction a b x)) := by
  have hal := Int32.le_toInt a.x
  have hbounds := @fraction_bounds x a b h h'
  have hlimit : (65535 : Int32).toInt = 65535 := rfl
  have hzero : (0 : Int32).toInt = 0 := rfl
  obtain ⟨q, hq, hvalue⟩ := @fraction_run x a b (spanStatus a b x s) h h'
    (settled (x.toInt - a.x.toInt) s).1
    (settled (b.x.toInt - a.x.toInt) (settled (x.toInt - a.x.toInt) s).2).1
    (by rw [toInt_settled]; omega) (by rw [toInt_settled]; omega)
  have hclamped : (max 0 (min 65535 q)).toInt = min 65535 (fraction a b x) := by
    rw [toInt_maxI32, toInt_minI32, hvalue, hlimit, hzero]
    omega
  obtain ⟨v, hv, hblend⟩ := @blend_run a b (spanStatus a b x s) (max 0 (min 65535 q))
    (by rw [hclamped]; omega) (by rw [hclamped]; omega)
  refine ⟨v, ?_, hblend.trans (congrArg _ hclamped)⟩
  unfold between
  rw [run_bind_of subtract_settled, run_bind_of subtract_settled]
  exact (run_bind_of hq).trans hv

end Interval

/-! ## The search -/

section Search

variable {x : Int32} {a b : Knot} {knots : List Knot} {within : Knot → Knot → NumericM Int32}

/-- The search for the interval of the query. -/
def search (within : Knot → Knot → NumericM Int32) (x : Int32) : List Knot → NumericM Int32
  | a :: b :: knots =>
    if b.x ≤ a.x then do
      recordFault .invalidInput
      pure 0
    else if x < b.x then within a b
    else search within x (b :: knots)
  | _ => do
    recordFault .invalidInput
    pure 0

theorem interpolateLoop_eq (x : Int32) : ∀ knots : List Knot,
    interpolateLoop x (knots.map Knot.x) (knots.map Knot.y) = search (between x) x knots
  | [] => rfl
  | [_] => rfl
  | a :: b :: knots => by
    have ih := interpolateLoop_eq x (b :: knots)
    simp only [List.map_cons] at ih ⊢
    unfold interpolateLoop search
    rw [ih]
    rfl

/-- The interval of the query is found. -/
theorem search_interval (hincreasing : knots.Pairwise fun a b ↦ a.x < b.x)
    (hinterval : [a, b] <:+: knots) (h : a.x ≤ x) (h' : x < b.x) :
    search within x knots = within a b := by
  induction knots with
  | nil => exact absurd (List.infix_nil.mp hinterval) (List.cons_ne_nil _ _)
  | cons c knots ih =>
    rw [List.pairwise_cons] at hincreasing
    rcases knots with - | ⟨d, knots⟩
    · exact absurd hinterval.length_le (by simp)
    have hlt := hincreasing.1 d List.mem_cons_self
    unfold search
    rw [if_neg (Int32.not_le.mpr hlt)]
    obtain hfront | hrest := List.infix_cons_iff.mp hinterval
    · obtain ⟨rfl, rfl⟩ : a = c ∧ b = d := by
        rw [List.cons_prefix_cons, List.cons_prefix_cons] at hfront
        exact ⟨hfront.1, hfront.2.1⟩
      rw [if_pos h']
    · have hle : d.x ≤ x := by
        have hmem : a ∈ d :: knots := hrest.subset List.mem_cons_self
        rcases List.mem_cons.mp hmem with rfl | hmem
        · exact h
        · have hlater := (List.pairwise_cons.mp hincreasing.2).1 a hmem
          exact Int32.le_trans (Int32.le_of_lt hlater) h
      rw [if_neg (Int32.not_lt.mpr hle)]
      exact ih hincreasing.2 hrest

/-- Between the ends there is an interval. -/
theorem exists_interval (hne : knots ≠ []) (h : (knots.head hne).x ≤ x)
    (h' : x < (knots.getLast hne).x) : ∃ a b, [a, b] <:+: knots ∧ a.x ≤ x ∧ x < b.x := by
  induction knots with
  | nil => exact absurd rfl hne
  | cons c knots ih =>
    rcases knots with - | ⟨d, knots⟩
    · exact absurd h (Int32.not_le.mpr h')
    by_cases hlt : x < d.x
    · exact ⟨c, d, ⟨[], knots, rfl⟩, h, hlt⟩
    · obtain ⟨a, b, hinfix, hbounds⟩ := ih (List.cons_ne_nil _ _) (Int32.not_lt.mp hlt) h'
      exact ⟨a, b, hinfix.trans (List.suffix_cons c _).isInfix, hbounds⟩

end Search

section Ends

variable {α β : Type}

theorem headD_map_of_ne (f : α → β) (d : β) : ∀ (l : List α) (h : l ≠ []),
    (l.map f).headD d = f (l.head h)
  | [], h => absurd rfl h
  | _ :: _, _ => rfl

theorem getLastD_map_of_ne (f : α → β) (d : β) : ∀ (l : List α) (h : l ≠ []),
    (l.map f).getLastD d = f (l.getLast h)
  | [], h => absurd rfl h
  | a :: l, h => by
    rw [List.map_cons, List.getLastD_cons, List.getLastD_map, List.getLast_eq_getLastD]

end Ends

/-! ## The order of the knots -/

namespace KnotTable

variable {t : KnotTable} {a b a' b' c d : Knot} {x x' : Int32}

/-- Knots with increasing abscissae have ordinates that are related as those of the list. -/
theorem ordered {R : Int32 → Int32 → Prop} (hrefl : ∀ y, R y y)
    (hR : t.knots.Pairwise fun a b ↦ R a.y b.y) (hc : c ∈ t.knots) (hd : d ∈ t.knots)
    (h : c.x ≤ d.x) : R c.y d.y := by
  obtain ⟨i, hi, rfl⟩ := List.mem_iff_getElem.mp hc
  obtain ⟨j, hj, rfl⟩ := List.mem_iff_getElem.mp hd
  obtain hlt | rfl | hgt := lt_trichotomy i j
  · exact List.pairwise_iff_getElem.mp hR i j hi hj hlt
  · exact hrefl _
  · exact absurd (List.pairwise_iff_getElem.mp t.increasing j i hj hi hgt) (Int32.not_lt.mpr h)

/-- Knots with one abscissa are one knot. -/
theorem eq_of_x (hc : c ∈ t.knots) (hd : d ∈ t.knots) (h : c.x = d.x) : c = d := by
  obtain ⟨i, hi, rfl⟩ := List.mem_iff_getElem.mp hc
  obtain ⟨j, hj, rfl⟩ := List.mem_iff_getElem.mp hd
  obtain hlt | rfl | hgt := lt_trichotomy i j
  · have hless := List.pairwise_iff_getElem.mp t.increasing i j hi hj hlt
    exact absurd hless (Int32.not_lt.mpr (h ▸ Int32.le_refl _))
  · rfl
  · have hless := List.pairwise_iff_getElem.mp t.increasing j i hj hi hgt
    exact absurd hless (Int32.not_lt.mpr (h ▸ Int32.le_refl _))

theorem Interval.left_mem (h : t.Interval a b) : a ∈ t.knots := h.subset List.mem_cons_self

theorem Interval.right_mem (h : t.Interval a b) : b ∈ t.knots :=
  h.subset (List.mem_cons_of_mem _ List.mem_cons_self)

theorem Interval.lt (h : t.Interval a b) : a.x < b.x :=
  (List.pairwise_cons.mp (t.increasing.sublist h.sublist)).1 b List.mem_cons_self

/-- There is no knot inside an interval. -/
theorem Interval.outside (h : t.Interval a b) (hc : c ∈ t.knots) : c.x ≤ a.x ∨ b.x ≤ c.x := by
  obtain ⟨before, after, hsplit⟩ := h
  have hincreasing := t.increasing
  rw [← hsplit] at hc hincreasing
  rw [List.append_assoc, List.pairwise_append] at hincreasing
  obtain ⟨-, hrest, hbefore⟩ := hincreasing
  simp only [List.mem_append, List.mem_cons, List.not_mem_nil, or_false] at hc
  rcases hc with (hc | rfl | rfl) | hc
  · exact .inl (Int32.le_of_lt (hbefore c hc a List.mem_cons_self))
  · exact .inl (Int32.le_refl _)
  · exact .inr (Int32.le_refl _)
  · have htail := (List.pairwise_cons.mp hrest).2
    exact .inr (Int32.le_of_lt ((List.pairwise_cons.mp htail).1 c hc))

/-- A later query is in the same interval, or in one further on. -/
theorem Interval.same_or_later (h : t.Interval a b) (h' : t.Interval a' b') (hle : x ≤ x')
    (ha : a.x ≤ x) (hb' : x' < b'.x) : (a = a' ∧ b = b') ∨ b.x ≤ a'.x := by
  obtain hleft | hright := h.outside h'.left_mem
  · left
    have hend : a.x < b'.x := Int32.lt_of_le_of_lt (Int32.le_trans ha hle) hb'
    have hstart : a.x ≤ a'.x := by
      obtain hstart | hstart := h'.outside h.left_mem
      · exact hstart
      · exact absurd hend (Int32.not_lt.mpr hstart)
    have heq : a.x = a'.x := Int32.le_antisymm hstart hleft
    refine ⟨eq_of_x h.left_mem h'.left_mem heq, eq_of_x h.right_mem h'.right_mem ?_⟩
    refine Int32.le_antisymm ?_ ?_
    · obtain hfirst | hlast := h.outside h'.right_mem
      · exact absurd hend (Int32.not_lt.mpr hfirst)
      · exact hlast
    · obtain hfirst | hlast := h'.outside h.right_mem
      · exact absurd (heq ▸ h.lt) (Int32.not_lt.mpr hfirst)
      · exact hlast
  · exact .inr hright

/-! ## The value -/

theorem first_mem : t.first ∈ t.knots := List.head_mem t.nonempty

theorem last_mem : t.last ∈ t.knots := List.getLast_mem t.nonempty

theorem first_le (hc : c ∈ t.knots) : t.first.x ≤ c.x := by
  obtain ⟨j, hj, rfl⟩ := List.mem_iff_getElem.mp hc
  unfold first
  rw [List.head_eq_getElem]
  obtain rfl | hpos := Nat.eq_zero_or_pos j
  · exact Int32.le_refl _
  · exact Int32.le_of_lt (List.pairwise_iff_getElem.mp t.increasing 0 j _ hj hpos)

theorem le_last (hc : c ∈ t.knots) : c.x ≤ t.last.x := by
  obtain ⟨i, hi, rfl⟩ := List.mem_iff_getElem.mp hc
  unfold last
  rw [List.getLast_eq_getElem]
  obtain hlt | heq := Nat.lt_or_eq_of_le (Nat.le_sub_one_of_lt hi)
  · exact Int32.le_of_lt (List.pairwise_iff_getElem.mp t.increasing i _ hi _ hlt)
  · simp only [heq]
    exact Int32.le_refl _

/-- A table has its ends, and between them the loop runs. -/
theorem ends_eq (fault loop : NumericM Int32) :
    (if t.xs = [] ∨ t.xs.length ≠ t.ys.length then fault
      else if x ≤ t.xs.headD 0 then pure (t.ys.headD 0)
      else if t.xs.getLastD 0 ≤ x then pure (t.ys.getLastD 0)
      else loop)
    = if x ≤ t.first.x then pure t.first.y
      else if t.last.x ≤ x then pure t.last.y
      else loop := by
  have hlength : ¬(t.xs = [] ∨ t.xs.length ≠ t.ys.length) := by
    unfold xs ys
    rw [List.map_eq_nil_iff, List.length_map, List.length_map]
    exact not_or.mpr ⟨t.nonempty, not_not_intro rfl⟩
  rw [if_neg hlength]
  unfold xs ys
  rw [headD_map_of_ne _ _ _ t.nonempty, headD_map_of_ne _ _ _ t.nonempty,
    getLastD_map_of_ne _ _ _ t.nonempty, getLastD_map_of_ne _ _ _ t.nonempty]
  rfl

/-- The interpolation searches between the ends. -/
theorem interpolateClamped_eq : interpolateClamped x t.xs t.ys
    = if x ≤ t.first.x then pure t.first.y
      else if t.last.x ≤ x then pure t.last.y
      else search (between x) x t.knots :=
  interpolateLoop_eq x t.knots ▸ ends_eq _ _

/-- The word of the interpolation at a query. -/
def valueAt (t : KnotTable) (x : Int32) (s : NumericStatus) : Int32 :=
  ((interpolateClamped x t.xs t.ys).run s).1

variable {s : NumericStatus}

theorem valueAt_first (h : x ≤ t.first.x) : t.valueAt x s = t.first.y := by
  unfold valueAt
  rw [interpolateClamped_eq, if_pos h]
  rfl

theorem valueAt_last (h : t.last.x ≤ x) : t.valueAt x s = t.last.y := by
  unfold valueAt
  rw [interpolateClamped_eq]
  split_ifs with hfirst
  · have heq : t.first.x = t.last.x :=
      Int32.le_antisymm (first_le last_mem) (Int32.le_trans h hfirst)
    rw [eq_of_x first_mem last_mem heq]
    rfl
  · rfl

/-- At the start of an interval the fraction is zero. -/
theorem blended_left (h : a.x < b.x) : blended a b (min 65535 (fraction a b a.x)) = a.y.toInt := by
  have hspan := Int32.lt_iff_toInt_lt.mp h
  have hzero : fraction a b a.x = 0 := by
    unfold fraction
    rw [sub_self]
    exact le_antisymm (roundAway_nonpos (by decide) (by omega))
      (roundAway_nonneg (by decide) (by omega))
  have hnone : roundAway (range a b * 0) (2 ^ 16) = 0 := by
    rw [mul_zero]
    rfl
  unfold blended
  rw [hzero, show min (65535 : Int) 0 = 0 from rfl, hnone, add_zero]

/-- In an interval the value is a blend of its ordinates. -/
theorem valueAt_interval (h : t.Interval a b) (ha : a.x ≤ x) (hb : x < b.x) :
    (t.valueAt x s).toInt = blended a b (min 65535 (fraction a b x)) := by
  have ha' := Int32.le_iff_toInt_le.mp ha
  have hb' := Int32.lt_iff_toInt_lt.mp hb
  unfold valueAt
  rw [interpolateClamped_eq, if_neg (Int32.not_le.mpr (Int32.lt_of_lt_of_le hb (le_last h.right_mem)))]
  split_ifs with hfirst
  · have heq : t.first = a :=
      eq_of_x first_mem h.left_mem
        (Int32.le_antisymm (first_le h.left_mem) (Int32.le_trans ha hfirst))
    have hx : x = a.x := Int32.le_antisymm (heq ▸ hfirst) ha
    rw [heq, hx]
    exact (blended_left h.lt).symm
  · obtain ⟨v, hrun, hvalue⟩ := @between_run x a b s ha' hb'
    rw [search_interval t.increasing h ha hb, hrun]
    exact hvalue

/-- Every query is beyond an end or in an interval. -/
theorem valueAt_cases (t : KnotTable) (x : Int32) :
    x ≤ t.first.x ∨ t.last.x ≤ x ∨ ∃ a b, t.Interval a b ∧ a.x ≤ x ∧ x < b.x := by
  by_cases hfirst : x ≤ t.first.x
  · exact .inl hfirst
  by_cases hlast : t.last.x ≤ x
  · exact .inr (.inl hlast)
  · exact .inr (.inr (exists_interval t.nonempty (Int32.le_of_lt (Int32.not_le.mp hfirst))
      (Int32.not_le.mp hlast)))

/-- A relation of values that the blends in an interval have: each is related to those at larger
fractions, and the ordinates to all of them. -/
structure Progresses (R : Int → Int → Prop) : Prop where
  refl : ∀ y, R y y
  trans : ∀ {x y z}, R x y → R y z → R x z
  blend : ∀ {a b : Knot} {f f' : Int}, R a.y.toInt b.y.toInt → 0 ≤ f → f ≤ f' → f' ≤ 2 ^ 16 →
    R a.y.toInt (blended a b f) ∧ R (blended a b f) (blended a b f') ∧
      R (blended a b f') b.y.toInt

/-- Rising ordinates have rising blends. -/
theorem progresses_le : Progresses (· ≤ ·) := by
  refine ⟨le_refl, le_trans, ?_⟩
  intro a b f f' h hf hff hf'
  have hrange : 0 ≤ range a b := by
    unfold range
    omega
  have hstart := @blended_between a b f hf (hff.trans hf')
  have hend := @blended_between a b f' (hf.trans hff) hf'
  rw [min_eq_left h] at hstart
  rw [max_eq_right h] at hend
  exact ⟨hstart.1, add_le_add_right
    (roundAway_mono (by decide) (mul_le_mul_of_nonneg_left hff hrange)) _, hend.2⟩

/-- Falling ordinates have falling blends. -/
theorem progresses_ge : Progresses (· ≥ ·) := by
  refine ⟨le_refl, fun h h' ↦ le_trans h' h, ?_⟩
  intro a b f f' h hf hff hf'
  have hrange : range a b ≤ 0 := by
    unfold range
    omega
  have hstart := @blended_between a b f hf (hff.trans hf')
  have hend := @blended_between a b f' (hf.trans hff) hf'
  rw [max_eq_left h] at hstart
  rw [min_eq_right h] at hend
  exact ⟨hstart.2, add_le_add_right
    (roundAway_mono (by decide) (mul_le_mul_of_nonpos_left hff hrange)) _, hend.1⟩

/-- A table whose ordinates progress has values that do. -/
theorem valueAt_progresses {R : Int → Int → Prop} (hR : Progresses R)
    (hknots : t.knots.Pairwise fun a b ↦ R a.y.toInt b.y.toInt) (hle : x ≤ x') :
    R (t.valueAt x s).toInt (t.valueAt x' s).toInt := by
  have hordered : ∀ {c d : Knot}, c ∈ t.knots → d ∈ t.knots → c.x ≤ d.x →
      R c.y.toInt d.y.toInt := fun hc hd h ↦
    @ordered t _ _ (fun y y' ↦ R y.toInt y'.toInt) (fun y ↦ hR.refl _) hknots hc hd h
  have hfraction : ∀ {a b : Knot} {x : Int32}, a.x ≤ x → x < b.x →
      0 ≤ min 65535 (fraction a b x) ∧ min 65535 (fraction a b x) ≤ 2 ^ 16 := by
    intro a b x ha hb
    have hbounds := @fraction_bounds x a b (Int32.le_iff_toInt_le.mp ha) (Int32.lt_iff_toInt_lt.mp hb)
    omega
  obtain hfirst | hlast | ⟨a, b, hinterval, ha, hb⟩ := t.valueAt_cases x
  · rw [valueAt_first hfirst]
    obtain hfirst' | hlast' | ⟨a', b', hinterval', ha', hb'⟩ := t.valueAt_cases x'
    · rw [valueAt_first hfirst']
      exact hR.refl _
    · rw [valueAt_last hlast']
      exact hordered first_mem last_mem (first_le last_mem)
    · rw [valueAt_interval hinterval' ha' hb']
      obtain ⟨hf, hf'⟩ := hfraction ha' hb'
      exact hR.trans (hordered first_mem hinterval'.left_mem (first_le hinterval'.left_mem))
        (hR.blend (hordered hinterval'.left_mem hinterval'.right_mem
          (Int32.le_of_lt hinterval'.lt)) hf le_rfl hf').1
  · rw [valueAt_last hlast, valueAt_last (Int32.le_trans hlast hle)]
    exact hR.refl _
  · rw [valueAt_interval hinterval ha hb]
    obtain ⟨hf, hf'⟩ := hfraction ha hb
    have hrise := hordered hinterval.left_mem hinterval.right_mem (Int32.le_of_lt hinterval.lt)
    obtain hfirst' | hlast' | ⟨a', b', hinterval', ha', hb'⟩ := t.valueAt_cases x'
    · have heq : x = x' := Int32.le_antisymm hle
        (Int32.le_trans hfirst' (Int32.le_trans (first_le hinterval.left_mem) ha))
      rw [← heq, valueAt_interval hinterval ha hb]
      exact hR.refl _
    · rw [valueAt_last hlast']
      exact hR.trans (hR.blend hrise hf le_rfl hf').2.2
        (hordered hinterval.right_mem last_mem (le_last hinterval.right_mem))
    · rw [valueAt_interval hinterval' ha' hb']
      obtain ⟨hg, hg'⟩ := hfraction ha' hb'
      obtain ⟨rfl, rfl⟩ | hlater := hinterval.same_or_later hinterval' hle ha hb'
      · have hmono := @fraction_mono x a b x' (Int32.lt_iff_toInt_lt.mp hinterval.lt)
          (Int32.le_iff_toInt_le.mp hle)
        exact (hR.blend hrise hf (min_le_min_left _ hmono) hg').2.1
      · have hrise' := hordered hinterval'.left_mem hinterval'.right_mem
          (Int32.le_of_lt hinterval'.lt)
        exact hR.trans (hR.blend hrise hf le_rfl hf').2.2 (hR.trans
          (hordered hinterval.right_mem hinterval'.left_mem hlater)
          (hR.blend hrise' hg le_rfl hg').1)

/-- The differences of neighbouring knots are words. -/
def Representable (t : KnotTable) : Prop :=
  ∀ a b, t.Interval a b → Fits (b.x.toInt - a.x.toInt) ∧ Fits (b.y.toInt - a.y.toInt)

/-- A table whose spans are words is interpolated without a fault. -/
theorem interpolateClamped_status (h : t.Representable) :
    ((interpolateClamped x t.xs t.ys).run s).2 = s := by
  rw [interpolateClamped_eq]
  split_ifs with hfirst hlast
  · rfl
  · rfl
  · obtain ⟨a, b, hinterval, ha, hb⟩ := exists_interval t.nonempty
      (Int32.le_of_lt (Int32.not_le.mp hfirst)) (Int32.not_le.mp hlast)
    obtain ⟨hx, hy⟩ := h a b hinterval
    have ha' := Int32.le_iff_toInt_le.mp ha
    have hb' := Int32.lt_iff_toInt_lt.mp hb
    obtain ⟨v, hrun, -⟩ := @between_run x a b s ha' hb'
    rw [search_interval t.increasing hinterval ha hb, hrun, spanStatus_fits ha' hb' hx]
    exact if_pos hy

/-- The interpolation is constant beyond the ends, between the ordinates of the interval inside,
rising or falling with the ordinates, and without a fault if the spans are words. -/
theorem interpolateClamped_sound (t : KnotTable) (s : NumericStatus) :
    (∀ x, x ≤ t.first.x → t.valueAt x s = t.first.y) ∧
    (∀ x, t.last.x ≤ x → t.valueAt x s = t.last.y) ∧
    (∀ a b x, t.Interval a b → a.x ≤ x → x < b.x →
      min a.y.toInt b.y.toInt ≤ (t.valueAt x s).toInt ∧
        (t.valueAt x s).toInt ≤ max a.y.toInt b.y.toInt) ∧
    (t.knots.Pairwise (fun a b ↦ a.y ≤ b.y) →
      ∀ x x', x ≤ x' → t.valueAt x s ≤ t.valueAt x' s) ∧
    (t.knots.Pairwise (fun a b ↦ b.y ≤ a.y) →
      ∀ x x', x ≤ x' → t.valueAt x' s ≤ t.valueAt x s) ∧
    (t.Representable → ∀ x, ((interpolateClamped x t.xs t.ys).run s).2 = s) := by
  refine ⟨fun x ↦ valueAt_first, fun x ↦ valueAt_last, ?_, ?_, ?_,
    fun h x ↦ interpolateClamped_status h⟩
  · intro a b x hinterval ha hb
    have hbounds := @fraction_bounds x a b (Int32.le_iff_toInt_le.mp ha) (Int32.lt_iff_toInt_lt.mp hb)
    rw [valueAt_interval hinterval ha hb]
    exact blended_between (by omega) (by omega)
  · intro hrising x x' hle
    rw [Int32.le_iff_toInt_le]
    exact valueAt_progresses progresses_le (hrising.imp Int32.le_iff_toInt_le.mp) hle
  · intro hfalling x x' hle
    rw [Int32.le_iff_toInt_le]
    exact @valueAt_progresses t x x' s (· ≥ ·) progresses_ge
      (hfalling.imp Int32.le_iff_toInt_le.mp) hle

/-- A wide interval, in which the fraction of the last query is nearest to one. -/
def wide : KnotTable where
  knots := [⟨0, 0⟩, ⟨131072, 65536⟩]
  nonempty := List.cons_ne_nil _ _
  increasing := by decide

theorem interpolateClamped_sound_wide :
    wide.knots.Pairwise (fun a b ↦ a.y ≤ b.y) ∧ wide.valueAt 7 .clear ≤ wide.valueAt 131071 .clear :=
  ⟨by decide, (interpolateClamped_sound wide .clear).2.2.2.1 (by decide) 7 131071 (by decide)⟩

/-! ## Whole units -/

/-- The intervals are whole units, not more than half a word counts. -/
def IntegralSpans (t : KnotTable) : Prop :=
  ∀ a b, t.Interval a b →
    (b.x.toInt - a.x.toInt) % 2 ^ 12 = 0 ∧ (b.x.toInt - a.x.toInt) / 2 ^ 12 ≤ 65535

/-- What the faster interpolation does in one interval. -/
def betweenIntegral (x : Int32) (a b : Knot) : NumericM Int32 := do
  let numerator ← subtract x a.x
  let denominator ← subtract b.x a.x
  let fraction ← divideUnsignedFractionQ16IntegralQ12 numerator denominator
  blend a b fraction

theorem interpolateIntegralLoop_eq (x : Int32) : ∀ knots : List Knot,
    interpolateIntegralLoop x (knots.map Knot.x) (knots.map Knot.y)
      = search (betweenIntegral x) x knots
  | [] => rfl
  | [_] => rfl
  | a :: b :: knots => by
    have ih := interpolateIntegralLoop_eq x (b :: knots)
    simp only [List.map_cons] at ih ⊢
    unfold interpolateIntegralLoop search
    rw [ih]
    rfl

theorem interpolateClampedIntegralQ12_eq : interpolateClampedIntegralQ12 x t.xs t.ys
    = if x ≤ t.first.x then pure t.first.y
      else if t.last.x ≤ x then pure t.last.y
      else search (betweenIntegral x) x t.knots :=
  interpolateIntegralLoop_eq x t.knots ▸ ends_eq _ _

/-- In whole units the faster interpolation's value is the blend at the fraction, even if that is
one. -/
theorem betweenIntegral_run (h : a.x.toInt ≤ x.toInt) (h' : x.toInt < b.x.toInt)
    (hwhole : (b.x.toInt - a.x.toInt) % 2 ^ 12 = 0)
    (hcount : (b.x.toInt - a.x.toInt) / 2 ^ 12 ≤ 65535) :
    ∃ v, (betweenIntegral x a b).run s
        = (v, (settled (b.y.toInt - a.y.toInt) (spanStatus a b x s)).2) ∧
      v.toInt = blended a b (fraction a b x) := by
  have hbounds := @fraction_bounds x a b h h'
  have hn : (settled (x.toInt - a.x.toInt) s).1.toInt = x.toInt - a.x.toInt := by
    rw [toInt_settled]
    omega
  have hd : (settled (b.x.toInt - a.x.toInt) (settled (x.toInt - a.x.toInt) s).2).1.toInt
      = b.x.toInt - a.x.toInt := by
    rw [toInt_settled]
    omega
  obtain ⟨q, hq, hvalue⟩ := @fraction_run x a b (spanStatus a b x s) h h' _ _
    (hn.trans (by omega)) (hd.trans (by omega))
  rw [← divideUnsignedFraction_run ⟨by omega, by omega, by omega, by omega⟩] at hq
  obtain ⟨v, hv, hblend⟩ := @blend_run a b (spanStatus a b x s) q (by omega) (by omega)
  refine ⟨v, ?_, hblend.trans (congrArg _ hvalue)⟩
  unfold betweenIntegral
  rw [run_bind_of subtract_settled, run_bind_of subtract_settled]
  exact (run_bind_of hq).trans hv

/-- A fraction rounds up to one in the last part of the interval. -/
theorem fraction_eq_one (h : a.x.toInt ≤ x.toInt) (h' : x.toInt < b.x.toInt)
    (hfits : b.x.toInt - a.x.toInt < 2 ^ 31) :
    fraction a b x = 2 ^ 16
      ↔ (2 ^ 17 - 1) * (b.x.toInt - a.x.toInt) ≤ 2 ^ 17 * (x.toInt - a.x.toInt) := by
  have hbounds := @fraction_bounds x a b h h'
  have hround : fraction a b x = (2 * ((x.toInt - a.x.toInt) * 2 ^ 16) + (b.x.toInt - a.x.toInt))
      / (2 * (b.x.toInt - a.x.toInt)) := by
    unfold fraction roundAway
    rw [min_eq_right (by omega), min_eq_right (by omega), if_neg (by omega)]
  have hreached : 2 ^ 16 ≤ fraction a b x
      ↔ 2 ^ 16 * (2 * (b.x.toInt - a.x.toInt))
        ≤ 2 * ((x.toInt - a.x.toInt) * 2 ^ 16) + (b.x.toInt - a.x.toInt) := by
    rw [hround]
    exact Int.le_ediv_iff_mul_le (by omega)
  omega

/-- The largest fraction of a small number rounds to the number. -/
theorem roundAway_largest (r : Int) :
    roundAway (r * 65535) (2 ^ 16) = r ↔ -2 ^ 15 ≤ r ∧ r ≤ 2 ^ 15 := by
  unfold roundAway
  split_ifs with h <;> omega

/-- The blend at one is that at the largest fraction if the ordinates are near. -/
theorem blended_one :
    blended a b 65535 = blended a b (2 ^ 16) ↔ |b.y.toInt - a.y.toInt| ≤ 2 ^ 15 := by
  have hlargest := roundAway_largest (range a b)
  have hone := @roundAway_multiple (2 ^ 16) (by decide) (range a b)
  have hnear : (-2 ^ 15 ≤ range a b ∧ range a b ≤ 2 ^ 15)
      ↔ -2 ^ 15 ≤ b.y.toInt - a.y.toInt ∧ b.y.toInt - a.y.toInt ≤ 2 ^ 15 := by
    unfold range
    omega
  unfold blended
  rw [hone, abs_le, ← hnear, ← hlargest]
  exact add_right_inj _

/-- The interpolations agree in an interval unless the fraction rounds up to one and the ordinates
are far apart. -/
theorem betweenIntegral_eq_iff (h : a.x.toInt ≤ x.toInt) (h' : x.toInt < b.x.toInt)
    (hwhole : (b.x.toInt - a.x.toInt) % 2 ^ 12 = 0)
    (hcount : (b.x.toInt - a.x.toInt) / 2 ^ 12 ≤ 65535) :
    (betweenIntegral x a b).run s = (between x a b).run s
      ↔ 2 ^ 17 * (x.toInt - a.x.toInt) < (2 ^ 17 - 1) * (b.x.toInt - a.x.toInt) ∨
        |b.y.toInt - a.y.toInt| ≤ 2 ^ 15 := by
  have hbounds := @fraction_bounds x a b h h'
  have hone := fraction_eq_one h h' (by omega)
  obtain ⟨v, hv, hvalue⟩ := @between_run x a b s h h'
  obtain ⟨w, hw, hvalue'⟩ := betweenIntegral_run (s := s) h h' hwhole hcount
  have hwords : (betweenIntegral x a b).run s = (between x a b).run s
      ↔ blended a b (fraction a b x) = blended a b (min 65535 (fraction a b x)) := by
    rw [hv, hw, ← hvalue, ← hvalue', Int32.toInt_inj]
    exact ⟨fun heq ↦ congrArg Prod.fst heq, fun heq ↦ by rw [heq]⟩
  rw [hwords]
  by_cases hup : fraction a b x = 2 ^ 16
  · rw [hup, show min (65535 : Int) (2 ^ 16) = 65535 from rfl, eq_comm, blended_one]
    exact (or_iff_right (not_lt.mpr (hone.mp hup))).symm
  · rw [min_eq_right (by omega)]
    exact iff_of_true rfl (.inl (not_le.mp (mt hone.mpr hup)))

/-- The two interpolations agree unless the fraction rounds up to one and the ordinates are far
apart. -/
theorem integral_eq_iff (t : KnotTable) (h : t.IntegralSpans) (x : Int32) (s : NumericStatus) :
    (interpolateClampedIntegralQ12 x t.xs t.ys).run s = (interpolateClamped x t.xs t.ys).run s ↔
      ∀ a b, t.Interval a b → a.x ≤ x → x < b.x →
        2 ^ 17 * (x.toInt - a.x.toInt) < (2 ^ 17 - 1) * (b.x.toInt - a.x.toInt) ∨
          |b.y.toInt - a.y.toInt| ≤ 2 ^ 15 := by
  rw [interpolateClamped_eq, interpolateClampedIntegralQ12_eq]
  by_cases hfirst : x ≤ t.first.x
  · rw [if_pos hfirst, if_pos hfirst]
    refine iff_of_true rfl ?_
    intro a b hinterval ha _
    have hx : x = a.x :=
      Int32.le_antisymm (Int32.le_trans hfirst (first_le hinterval.left_mem)) ha
    have hlt := Int32.lt_iff_toInt_lt.mp hinterval.lt
    left
    rw [hx]
    omega
  rw [if_neg hfirst, if_neg hfirst]
  by_cases hlast : t.last.x ≤ x
  · rw [if_pos hlast, if_pos hlast]
    refine iff_of_true rfl ?_
    intro a b hinterval _ hb
    exact absurd (Int32.lt_of_lt_of_le hb (Int32.le_trans (le_last hinterval.right_mem) hlast))
      (Int32.not_lt.mpr (Int32.le_refl _))
  rw [if_neg hlast, if_neg hlast]
  obtain ⟨a, b, hinfix, ha, hb⟩ := exists_interval t.nonempty
    (Int32.le_of_lt (Int32.not_le.mp hfirst)) (Int32.not_le.mp hlast)
  have hinterval : t.Interval a b := hinfix
  obtain ⟨hwhole, hcount⟩ := h a b hinterval
  rw [search_interval t.increasing hinterval ha hb, search_interval t.increasing hinterval ha hb,
    betweenIntegral_eq_iff (Int32.le_iff_toInt_le.mp ha) (Int32.lt_iff_toInt_lt.mp hb) hwhole hcount]
  constructor
  · intro hcondition a' b' hinterval' ha' hb'
    obtain ⟨rfl, rfl⟩ | hlater := hinterval.same_or_later hinterval' (Int32.le_refl x) ha hb'
    · exact hcondition
    · exact absurd (Int32.lt_of_lt_of_le hb (Int32.le_trans hlater ha'))
        (Int32.not_lt.mpr (Int32.le_refl _))
  · exact fun hcondition ↦ hcondition a b hinterval ha hb

theorem wide_integralSpans : wide.IntegralSpans := by
  intro a b hinterval
  obtain ⟨rfl, rfl⟩ : a = ⟨0, 0⟩ ∧ b = ⟨131072, 65536⟩ := by
    have hinfix : [a, b] <:+: [⟨0, 0⟩, ⟨131072, 65536⟩] := hinterval
    have heq := hinfix.eq_of_length rfl
    rw [List.cons.injEq, List.cons.injEq] at heq
    exact ⟨heq.1, heq.2.1⟩
  decide

theorem integral_eq_iff_wide :
    (interpolateClampedIntegralQ12 7 wide.xs wide.ys).run .clear
        = (interpolateClamped 7 wide.xs wide.ys).run .clear ↔
      ∀ a b, wide.Interval a b → a.x ≤ 7 → (7 : Int32) < b.x →
        2 ^ 17 * ((7 : Int32).toInt - a.x.toInt) < (2 ^ 17 - 1) * (b.x.toInt - a.x.toInt) ∨
          |b.y.toInt - a.y.toInt| ≤ 2 ^ 15 :=
  integral_eq_iff wide wide_integralSpans 7 .clear

/-- At the last query of a wide interval the interpolations differ. -/
theorem integral_differs : ¬∀ (t : KnotTable) (x : Int32) (s : NumericStatus), t.IntegralSpans →
    (interpolateClampedIntegralQ12 x t.xs t.ys).run s
      = (interpolateClamped x t.xs t.ys).run s := by
  intro hall
  have heq := hall wide 131071 .clear wide_integralSpans
  exact absurd (congrArg Prod.fst heq) (by decide +kernel)

end KnotTable

end Ksa64.Core
