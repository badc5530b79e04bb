import Mathlib.Data.Int.SuccPred
import Mathlib.Algebra.Order.Ring.Int

/-!
# Calendars with days of uneven length

A day has a length, and starts where the day before it ends.  An instant is a day and a position in
it.  Instants in the order of their days and positions have increasing distances from the origin, and
after each instant comes one at the next distance.
-/

namespace Ksa64.Library

structure Calendar where
  length : Int → Int
  start : Int → Int
  length_pos : ∀ day, 0 < length day
  start_succ : ∀ day, start (day + 1) = start day + length day

namespace Calendar

variable (c : Calendar)

/-- The position is in the day. -/
def Holds (day position : Int) : Prop := 0 ≤ position ∧ position < c.length day

/-- The distance from the origin. -/
def distance (day position : Int) : Int := c.start day + position

/-- Days in order, and positions within one day. -/
def Before (day position day' position' : Int) : Prop :=
  day < day' ∨ day = day' ∧ position < position'

variable {c} {day position day' position' : Int}

/-- A day ends before any later day starts. -/
theorem end_le_start (h : day < day') : c.start day + c.length day ≤ c.start day' := by
  induction day', Int.add_one_le_of_lt h using Int.leInduction with
  | base => exact (c.start_succ day).ge
  | succ later hle ih =>
      rw [c.start_succ later]
      exact (ih (Int.lt_of_add_one_le hle)).trans (le_add_of_nonneg_right (c.length_pos later).le)

theorem start_mono (h : day ≤ day') : c.start day ≤ c.start day' := by
  obtain rfl | hlt := h.eq_or_lt
  · exact le_rfl
  · exact (le_add_of_nonneg_right (c.length_pos day).le).trans (end_le_start hlt)

/-- The distance tells which instant comes first. -/
theorem distance_lt (h : c.Holds day position) (h' : c.Holds day' position')
    (hbefore : Before day position day' position') :
    c.distance day position < c.distance day' position' := by
  unfold distance
  obtain hlt | ⟨rfl, hlt⟩ := hbefore
  · calc c.start day + position < c.start day + c.length day := by simpa using h.2
      _ ≤ c.start day' := end_le_start hlt
      _ ≤ c.start day' + position' := le_add_of_nonneg_right h'.1
  · simpa using hlt

/-- Between an instant and a later one there is one at the next distance, unless that is the later
one itself. -/
theorem exists_next (h : c.Holds day position) (h' : c.Holds day' position')
    (hbefore : Before day position day' position') :
    ∃ next nextPosition, c.Holds next nextPosition ∧ day ≤ next ∧ next ≤ day'
      ∧ Before day position next nextPosition
      ∧ (Before next nextPosition day' position' ∨ next = day' ∧ nextPosition = position')
      ∧ c.distance next nextPosition = c.distance day position + 1 := by
  have hle : day ≤ day' := by
    obtain hlt | ⟨rfl, -⟩ := hbefore
    · exact hlt.le
    · exact le_rfl
  by_cases hsame : position + 1 < c.length day
  · refine ⟨day, position + 1, ⟨by have := h.1; omega, hsame⟩, le_rfl, hle,
      .inr ⟨rfl, Int.lt_succ position⟩, ?_, (add_assoc _ _ _).symm⟩
    unfold Before at hbefore ⊢
    omega
  · have hlast : position + 1 = c.length day := by
      have := h.2
      omega
    -- the next day: the later instant is not in this one any more
    have hlt : day < day' := by
      obtain hlt | ⟨rfl, hlt⟩ := hbefore
      · exact hlt
      · have := h'.2
        omega
    refine ⟨day + 1, 0, ⟨le_rfl, c.length_pos _⟩, by omega, hlt, .inl (Int.lt_succ day), ?_, ?_⟩
    · have := h'.1
      unfold Before
      omega
    · unfold distance
      rw [c.start_succ]
      omega

end Calendar

end Ksa64.Library
