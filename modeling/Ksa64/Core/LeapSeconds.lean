import Ksa64.Library.Calendar
import Ksa64.Library.Shifts
import Ksa64.Core.GlobalTime
import Ksa64.Core.ResidualCarry
import Mathlib.Order.Cover
import Mathlib.Data.Prod.Lex
import Mathlib.Data.List.Nodup

/-!
# TAI is continuous

The days of UTC, one second longer before a transition of the table, make a calendar, and TAI is the
distance in it.  The words of the source follow it between the places where one of them wraps around:
where an offset passes the largest 16-bit number, and where the seconds, shifted by 16 bits, do not fit
into 64 bits.
-/

namespace Ksa64.Core

open Ksa64.Library

/-! ## Instants in order -/

namespace UtcInstant

/-- Instants are in the order of their days, their seconds of the day and their parts of a second. -/
def key (u : UtcInstant) : ℤ ×ₗ ℕ ×ₗ ℕ :=
  toLex (u.unixDay.toInt, toLex (u.secondOfDay.toNat, u.subsecondQ16.toNat))

theorem key_injective : Function.Injective key := by
  rintro ⟨day, second, subsecond⟩ ⟨day', second', subsecond'⟩ h
  have hpair := Prod.ext_iff.mp (toLex.injective h)
  have hrest := Prod.ext_iff.mp (toLex.injective hpair.2)
  obtain rfl := Int32.toInt_inj.mp hpair.1
  obtain rfl := UInt32.toNat_inj.mp hrest.1
  obtain rfl := UInt16.toNat_inj.mp hrest.2
  rfl

instance : PartialOrder UtcInstant :=
  @PartialOrder.lift UtcInstant (ℤ ×ₗ ℕ ×ₗ ℕ)
    (@Prod.Lex.instPartialOrder ℤ (ℕ ×ₗ ℕ) instLatticeInt.toPartialOrder
      (@Prod.Lex.instPartialOrder ℕ ℕ Nat.instPartialOrder Nat.instPartialOrder))
    key key_injective

theorem lt_iff {u v : UtcInstant} :
    u < v ↔ u.unixDay.toInt < v.unixDay.toInt ∨ u.unixDay.toInt = v.unixDay.toInt
      ∧ (u.secondOfDay.toNat < v.secondOfDay.toNat ∨ u.secondOfDay.toNat = v.secondOfDay.toNat
        ∧ u.subsecondQ16.toNat < v.subsecondQ16.toNat) := by
  show u.key < v.key ↔ _
  unfold key
  rw [Prod.Lex.toLex_lt_toLex, Prod.Lex.toLex_lt_toLex]

/-- The position in the day, in units of a part of a second. -/
def position (u : UtcInstant) : Int := u.secondOfDay.toNat * 65536 + u.subsecondQ16.toNat

theorem eq_of_position {u v : UtcInstant} (hday : u.unixDay.toInt = v.unixDay.toInt)
    (hposition : u.position = v.position) : u = v := by
  have hu := u.subsecondQ16.toNat_lt
  have hv := v.subsecondQ16.toNat_lt
  unfold position at hposition
  refine key_injective ?_
  unfold key
  rw [hday, show u.secondOfDay.toNat = v.secondOfDay.toNat by omega,
    show u.subsecondQ16.toNat = v.subsecondQ16.toNat by omega]

/-- The order is that of the calendar. -/
theorem lt_iff_before {u v : UtcInstant} :
    u < v ↔ Calendar.Before u.unixDay.toInt u.position v.unixDay.toInt v.position := by
  have hu := u.subsecondQ16.toNat_lt
  have hv := v.subsecondQ16.toNat_lt
  rw [lt_iff]
  unfold Calendar.Before position
  omega

end UtcInstant

/-! ## The calendar of a table -/

namespace LeapSecondTable

variable (t : LeapSecondTable)

/-- The transitions up to a day. -/
def passed (day : Int) : Nat := t.used.countP fun entry ↦ entry.effectiveUnixDay.toInt ≤ day

/-- A transition is declared for the next day. -/
def LeapDay (day : Int) : Prop := ∃ entry ∈ t.used, entry.effectiveUnixDay.toInt = day + 1

instance (day : Int) : Decidable (t.LeapDay day) :=
  inferInstanceAs (Decidable (∃ entry ∈ t.used, _))

/-- The offset in force on a day. -/
def inForce (unixDay : Int32) : Int16 := offsetFrom t.initialTaiMinusUtc unixDay t.used

/-- The second 86400 is there exactly on the day before a declared transition. -/
def Valid (u : UtcInstant) : Prop :=
  u.secondOfDay.toNat < 86400 ∨ u.secondOfDay.toNat = 86400 ∧ t.LeapDay u.unixDay.toInt

variable {t}

section Rising

variable {day : Int32} {offset : Int16} {entries : List LeapSecondTransition}

theorem checkRising_cons {entry : LeapSecondTransition}
    (h : checkRising day offset (entry :: entries) = .ok ()) :
    day.toInt < entry.effectiveUnixDay.toInt ∧ entry.taiMinusUtcAfter = offset + 1
      ∧ checkRising entry.effectiveUnixDay entry.taiMinusUtcAfter entries = .ok () := by
  unfold checkRising at h
  obtain ⟨⟨⟩, hcheck, hrest⟩ := bind_eq_ok.mp h
  obtain ⟨hday, hoffset⟩ := not_or.mp (reject_eq_ok.mp hcheck)
  exact ⟨Int32.lt_iff_toInt_lt.mp (Int32.not_le.mp hday), not_not.mp hoffset, hrest⟩

/-- Checked transitions come after the day, each after the one before it. -/
theorem checkRising_sorted (h : checkRising day offset entries = .ok ()) :
    (∀ entry ∈ entries, day.toInt < entry.effectiveUnixDay.toInt)
      ∧ entries.Pairwise fun a b ↦ a.effectiveUnixDay.toInt < b.effectiveUnixDay.toInt := by
  induction entries generalizing day offset with
  | nil => exact ⟨by rintro _ ⟨⟩, .nil⟩
  | cons entry entries ih =>
      obtain ⟨hday, -, hrest⟩ := checkRising_cons h
      obtain ⟨hlater, hsorted⟩ := ih hrest
      refine ⟨fun other hmem ↦ ?_, .cons hlater hsorted⟩
      obtain rfl | hmem := List.mem_cons.mp hmem
      · exact hday
      · exact hday.trans (hlater other hmem)

theorem toInt_add_none (offset : Int16) :
    (offset.toInt + (0 : Nat)).bmod (2 ^ 16) = offset.toInt := by
  have hlt := offset.toInt_lt
  have hle := offset.le_toInt
  rw [Nat.cast_zero, add_zero]
  exact Int.bmod_eq_of_le hle hlt

/-- The offset in force is the first one and the number of transitions passed, in 16 bits. -/
theorem toInt_offsetFrom (h : checkRising day offset entries = .ok ()) (unixDay : Int32) :
    (offsetFrom offset unixDay entries).toInt
      = (offset.toInt + (entries.countP fun entry ↦
          entry.effectiveUnixDay.toInt ≤ unixDay.toInt : Nat)).bmod (2 ^ 16) := by
  induction entries generalizing day offset with
  | nil => exact (toInt_add_none offset).symm
  | cons entry entries ih =>
      obtain ⟨-, hoffset, hrest⟩ := checkRising_cons h
      unfold offsetFrom
      by_cases hbefore : unixDay < entry.effectiveUnixDay
      · -- the transitions after this one have not been passed either
        have hfirst := Int32.lt_iff_toInt_lt.mp hbefore
        have hnone : ((entry :: entries).countP fun entry ↦
            entry.effectiveUnixDay.toInt ≤ unixDay.toInt) = 0 := by
          rw [List.countP_eq_zero]
          intro other hmem
          obtain rfl | hmem := List.mem_cons.mp hmem
          · simpa using hfirst
          · simpa using hfirst.trans ((checkRising_sorted hrest).1 other hmem)
        rw [if_pos hbefore, hnone]
        exact (toInt_add_none offset).symm
      · have hpassed : entry.effectiveUnixDay.toInt ≤ unixDay.toInt :=
          Int32.le_iff_toInt_le.mp (Int32.not_lt.mp hbefore)
        rw [if_neg hbefore, ih hrest, hoffset, List.countP_cons_of_pos (by simpa using hpassed),
          Int16.toInt_add, Int.bmod_add_bmod]
        congr 1
        show offset.toInt + 1 + _ = _
        omega

end Rising

theorem countP_succ_of_notMem {day : Int} {entries : List LeapSecondTransition}
    (h : ¬∃ entry ∈ entries, entry.effectiveUnixDay.toInt = day + 1) :
    (entries.countP fun entry ↦ entry.effectiveUnixDay.toInt ≤ day + 1)
      = entries.countP fun entry ↦ entry.effectiveUnixDay.toInt ≤ day := by
  refine List.countP_congr fun entry hmem ↦ ?_
  have hne : entry.effectiveUnixDay.toInt ≠ day + 1 := fun heq ↦ h ⟨entry, hmem, heq⟩
  simp only [decide_eq_true_eq]
  omega

/-- No two transitions are on one day. -/
theorem countP_succ_of_mem {day : Int} {entries : List LeapSecondTransition}
    (hsorted : entries.Pairwise fun a b ↦ a.effectiveUnixDay.toInt < b.effectiveUnixDay.toInt)
    (h : ∃ entry ∈ entries, entry.effectiveUnixDay.toInt = day + 1) :
    (entries.countP fun entry ↦ entry.effectiveUnixDay.toInt ≤ day + 1)
      = (entries.countP fun entry ↦ entry.effectiveUnixDay.toInt ≤ day) + 1 := by
  induction entries with
  | nil =>
      obtain ⟨_, ⟨⟩, _⟩ := h
  | cons entry entries ih =>
      obtain ⟨hlater, hsorted⟩ := List.pairwise_cons.mp hsorted
      rw [List.countP_cons, List.countP_cons]
      simp only [decide_eq_true_eq]
      by_cases hhere : entry.effectiveUnixDay.toInt = day + 1
      · rw [if_pos (by omega), if_neg (by omega), countP_succ_of_notMem]
        rintro ⟨other, hmem, hother⟩
        have hlt := hlater other hmem
        omega
      · have hrest : ∃ other ∈ entries, other.effectiveUnixDay.toInt = day + 1 := by
          obtain ⟨other, hmem, hother⟩ := h
          obtain rfl | hmem := List.mem_cons.mp hmem
          · exact absurd hother hhere
          · exact ⟨other, hmem, hother⟩
        rw [ih hsorted hrest, add_right_comm]
        congr 2
        exact if_congr (by omega) rfl rfl

/-! ### Days and offsets -/

section Checked

variable (h : t.validate = .ok ())

include h in
theorem count_le : t.count.toNat ≤ maxLeapTransitions := by
  unfold validate at h
  obtain ⟨⟨⟩, hcount, -⟩ := bind_eq_ok.mp h
  exact not_lt.mp (reject_eq_ok.mp hcount)

include h in
theorem rising : checkRising Int32.minValue t.initialTaiMinusUtc t.used = .ok () := by
  unfold validate at h
  obtain ⟨⟨⟩, -, hrest⟩ := bind_eq_ok.mp h
  obtain ⟨⟨⟩, hrising, -⟩ := bind_eq_ok.mp hrest
  exact hrising

include h in
theorem passed_le (day : Int) : t.passed day ≤ 32 := by
  refine List.countP_le_length.trans ?_
  unfold used
  rw [List.length_take]
  exact (min_le_left _ _).trans (count_le h)

include h in
/-- A day later there is one more transition, if one is declared for that day. -/
theorem passed_succ (day : Int) :
    t.passed (day + 1) = t.passed day + if t.LeapDay day then 1 else 0 := by
  have hsorted := (checkRising_sorted (rising h)).2
  by_cases hleap : t.LeapDay day
  · rw [if_pos hleap]
    exact countP_succ_of_mem hsorted hleap
  · rw [if_neg hleap]
    exact countP_succ_of_notMem hleap

/-- The days of UTC, in units of a part of a second of TAI. -/
def calendar : Calendar where
  length day := (if t.LeapDay day then 86401 else 86400) * 65536
  start day := (day * 86400 + t.initialTaiMinusUtc.toInt + t.passed day) * 65536
  length_pos day := by split <;> omega
  start_succ day := by
    rw [passed_succ h]
    split <;> omega

/-- The valid instants are those of the calendar. -/
theorem valid_iff_holds {u : UtcInstant} :
    t.Valid u ↔ (calendar h).Holds u.unixDay.toInt u.position := by
  have hsub := u.subsecondQ16.toNat_lt
  unfold Valid Calendar.Holds UtcInstant.position
  show _ ↔ _ ∧ _ < (if t.LeapDay u.unixDay.toInt then 86401 else 86400) * 65536
  by_cases hleap : t.LeapDay u.unixDay.toInt
  · simp only [hleap, and_true, if_true]
    omega
  · simp only [hleap, and_false, or_false, if_false]
    omega

/-! ### The words -/

section Words

variable {u : UtcInstant}

include h in
/-- The next day of the last one is the first one, where no transition is. -/
theorem isPositiveLeapDay_eq (unixDay : Int32) :
    t.isPositiveLeapDay unixDay = .ok (decide (t.LeapDay unixDay.toInt)) := by
  have hlater := (checkRising_sorted (rising h)).1
  have hlt := unixDay.toInt_lt
  have hle := unixDay.le_toInt
  unfold isPositiveLeapDay
  rw [bind_of_ok h]
  refine congrArg Except.ok (Bool.eq_iff_iff.mpr ?_)
  rw [List.any_eq_true, decide_eq_true_iff]
  refine exists_congr fun entry ↦ and_congr_right fun hmem ↦ ?_
  have hfirst := hlater entry hmem
  have hentry := entry.effectiveUnixDay.toInt_lt
  have hentry' := entry.effectiveUnixDay.le_toInt
  rw [decide_eq_true_iff, ← Int32.toInt_inj, Int32.toInt_add, show (1 : Int32).toInt = 1 from rfl,
    Int.bmod_def]
  rw [show Int32.minValue.toInt = -2 ^ 31 from rfl] at hfirst
  omega

include h in
theorem offsetAtDay_eq (unixDay : Int32) :
    t.offsetAtDay unixDay = .ok (t.inForce unixDay) := by
  unfold offsetAtDay
  rw [bind_of_ok h]
  rfl

/-- The seconds since the first day, with the offset in force. -/
def seconds (t : LeapSecondTable) (u : UtcInstant) : Int :=
  u.unixDay.toInt * 86400 + u.secondOfDay.toNat
    + (t.inForce u.unixDay).toInt

theorem toInt_wholeSeconds (hsecond : u.secondOfDay.toNat ≤ 86400) :
    (wholeSeconds u (t.inForce u.unixDay)).toInt = t.seconds u := by
  have hlt := u.unixDay.toInt_lt
  have hle := u.unixDay.le_toInt
  unfold wholeSeconds seconds
  generalize t.inForce u.unixDay = offset
  have hoffset := offset.toInt_lt
  have hoffset' := offset.le_toInt
  have hday : (u.unixDay.toInt64 * secondsPerDay).toInt = u.unixDay.toInt * 86400 := by
    rw [Int64.toInt_mul, Int32.toInt_toInt64]
    exact Int.bmod_eq_of_le (by show _ ≤ _ * 86400; omega) (by show _ * 86400 < _; omega)
  rw [Int64.toInt_add, Int64.toInt_add, hday, toInt_unsigned32, Int16.toInt_toInt64,
    Int.bmod_add_bmod]
  exact Int.bmod_eq_of_le (by omega) (by omega)

/-- TAI in 64 bits: it wraps around where the seconds do not fit into 48. -/
theorem toInt_tai (hsecond : u.secondOfDay.toNat ≤ 86400) :
    ((wholeSeconds u (t.inForce u.unixDay) <<< 16)
      + u.subsecondQ16.toUInt64.toInt64).toInt
      = (t.seconds u * 65536 + u.subsecondQ16.toNat).bmod (2 ^ 64) := by
  rw [Int64.toInt_add, toInt_shiftLeft_sixteen, toInt_wholeSeconds hsecond, toInt_unsigned16,
    Int.bmod_add_bmod]

include h in
/-- The valid instants are those that are taken. -/
theorem utcToTaiQ16_eq_ok {tai : Int64} :
    t.utcToTaiQ16 u = .ok tai ↔
      t.Valid u ∧ tai.toInt = (t.seconds u * 65536 + u.subsecondQ16.toNat).bmod (2 ^ 64) := by
  have hpure (hsecond : u.secondOfDay.toNat ≤ 86400) :
      (do let offset ← t.offsetAtDay u.unixDay
          pure ((wholeSeconds u offset <<< 16) + u.subsecondQ16.toUInt64.toInt64)) = .ok tai ↔
        tai.toInt = (t.seconds u * 65536 + u.subsecondQ16.toNat).bmod (2 ^ 64) := by
    rw [bind_of_ok (offsetAtDay_eq h u.unixDay), ← toInt_tai hsecond, Int64.toInt_inj]
    constructor
    · rintro ⟨⟩
      rfl
    · rintro rfl
      rfl
  unfold utcToTaiQ16 Valid
  by_cases hlarge : 86400 < u.secondOfDay
  · rw [reject_bind_of_fails hlarge]
    have hover : 86400 < u.secondOfDay.toNat := UInt32.lt_iff_toNat_lt.mp hlarge
    exact iff_of_false (by rintro ⟨⟩) (by omega)
  · rw [reject_bind hlarge]
    have hsecond : u.secondOfDay.toNat ≤ 86400 := UInt32.le_iff_toNat_le.mp (UInt32.not_lt.mp hlarge)
    by_cases hleap : u.secondOfDay = 86400
    · have hnat : u.secondOfDay.toNat = 86400 := congrArg UInt32.toNat hleap
      rw [if_pos hleap, bind_of_ok (isPositiveLeapDay_eq h u.unixDay)]
      by_cases hday : t.LeapDay u.unixDay.toInt
      · rw [reject_bind (by simpa using hday)]
        exact (hpure hsecond).trans (and_iff_right (.inr ⟨hnat, hday⟩)).symm
      · rw [reject_bind_of_fails (by simpa using hday)]
        refine iff_of_false (by rintro ⟨⟩) ?_
        rintro ⟨hsmall | ⟨-, hvalid⟩, -⟩
        · omega
        · exact hday hvalid
    · have hnat : u.secondOfDay.toNat ≠ 86400 := fun heq ↦ hleap (UInt32.toNat_inj.mp heq)
      rw [if_neg hleap]
      exact (hpure hsecond).trans (and_iff_right (.inl (by omega))).symm

end Words

/-! ### Where a word wraps around -/

section Seams

variable {u v : UtcInstant}

/-- Whether the offset has passed the largest 16-bit number. -/
def wrapped (t : LeapSecondTable) (u : UtcInstant) : Int :=
  if 2 ^ 15 ≤ t.initialTaiMinusUtc.toInt + t.passed u.unixDay.toInt then 1 else 0

/-- Where the seconds are outside 48 bits, and on which side. -/
def band (t : LeapSecondTable) (u : UtcInstant) : Int :=
  if t.seconds u < -2 ^ 47 then 1 else if t.seconds u < 2 ^ 47 then 0 else -1

include h in
theorem toInt_inForce (unixDay : Int32) :
    (t.inForce unixDay).toInt = t.initialTaiMinusUtc.toInt + t.passed unixDay.toInt
      - 2 ^ 16 * (if 2 ^ 15 ≤ t.initialTaiMinusUtc.toInt + t.passed unixDay.toInt then 1 else 0) := by
  have hpassed := passed_le h unixDay.toInt
  have hlt := t.initialTaiMinusUtc.toInt_lt
  have hle := t.initialTaiMinusUtc.le_toInt
  have hoffset : (t.inForce unixDay).toInt
      = (t.initialTaiMinusUtc.toInt + t.passed unixDay.toInt).bmod (2 ^ 16) :=
    toInt_offsetFrom (rising h) unixDay
  rw [hoffset, Int.bmod_def]
  split_ifs <;> omega

/-- The distance in the calendar. -/
def ticks (h : t.validate = .ok ()) (u : UtcInstant) : Int :=
  (calendar h).distance u.unixDay.toInt u.position

theorem ticks_eq : ticks h u = (t.seconds u + 2 ^ 16 * t.wrapped u) * 65536
    + u.subsecondQ16.toNat := by
  unfold ticks Calendar.distance seconds UtcInstant.position wrapped
  rw [toInt_inForce h]
  show (u.unixDay.toInt * 86400 + t.initialTaiMinusUtc.toInt + t.passed u.unixDay.toInt) * 65536
    + _ = _
  omega

/-- How far TAI is from the distance in the calendar. -/
def deviation (t : LeapSecondTable) (u : UtcInstant) : Int := 2 ^ 64 * t.band u - 2 ^ 32 * t.wrapped u

include h in
theorem utcToTaiQ16_eq_ok_ticks {tai : Int64} :
    t.utcToTaiQ16 u = .ok tai ↔ t.Valid u ∧ tai.toInt = ticks h u + t.deviation u := by
  rw [utcToTaiQ16_eq_ok h]
  refine and_congr_right fun hvalid ↦ ?_
  have hday := u.unixDay.toInt_lt
  have hday' := u.unixDay.le_toInt
  have hoffset := (t.inForce u.unixDay).toInt_lt
  have hoffset' := (t.inForce u.unixDay).le_toInt
  have hsecond : u.secondOfDay.toNat ≤ 86400 := by
    unfold Valid at hvalid
    omega
  have hsub := u.subsecondQ16.toNat_lt
  have hseconds : -2 ^ 48 ≤ t.seconds u ∧ t.seconds u < 2 ^ 48 := by
    unfold seconds
    omega
  have hwraps : (t.seconds u * 65536 + u.subsecondQ16.toNat).bmod (2 ^ 64)
      = t.seconds u * 65536 + u.subsecondQ16.toNat + 2 ^ 64 * t.band u := by
    rw [Int.bmod_def]
    unfold band
    split_ifs <;> omega
  rw [hwraps, ticks_eq]
  unfold deviation
  omega

/-- The offset does not fall, and the seconds stay on one side of either end of 48 bits. -/
structure Seamless (t : LeapSecondTable) (lo hi : UtcInstant) : Prop where
  offset : t.inForce lo.unixDay ≤ t.inForce hi.unixDay
  low : t.seconds lo < -2 ^ 47 ↔ t.seconds hi < -2 ^ 47
  high : t.seconds lo < 2 ^ 47 ↔ t.seconds hi < 2 ^ 47

theorem passed_mono {day day' : Int} (hle : day ≤ day') : t.passed day ≤ t.passed day' := by
  refine List.countP_mono_left fun entry _ hpassed ↦ ?_
  simp only [decide_eq_true_eq] at hpassed ⊢
  exact hpassed.trans hle

theorem day_le (hle : u ≤ v) : u.unixDay.toInt ≤ v.unixDay.toInt := by
  obtain rfl | hlt := hle.eq_or_lt
  · exact le_rfl
  · have := UtcInstant.lt_iff.mp hlt
    omega

theorem wrapped_mono (hle : u ≤ v) : t.wrapped u ≤ t.wrapped v := by
  have hpassed := passed_mono (t := t) (day_le hle)
  unfold wrapped
  split_ifs <;> omega

/-- The calendar is in the order of the instants. -/
theorem ticks_lt (hu : t.Valid u) (hv : t.Valid v) (hlt : u < v) : ticks h u < ticks h v :=
  Calendar.distance_lt ((valid_iff_holds h).mp hu) ((valid_iff_holds h).mp hv)
    (UtcInstant.lt_iff_before.mp hlt)

theorem ticks_mono (hu : t.Valid u) (hv : t.Valid v) (hle : u ≤ v) : ticks h u ≤ ticks h v := by
  obtain rfl | hlt := hle.eq_or_lt
  · exact le_rfl
  · exact (ticks_lt h hu hv hlt).le

theorem wrapped_range (u : UtcInstant) : 0 ≤ t.wrapped u ∧ t.wrapped u ≤ 1 := by
  unfold wrapped
  split_ifs <;> decide

/-- The band is one of three. -/
theorem band_cases (u : UtcInstant) :
    t.seconds u < -2 ^ 47 ∧ t.band u = 1 ∨ 2 ^ 47 ≤ t.seconds u ∧ t.band u = -1
      ∨ -2 ^ 47 ≤ t.seconds u ∧ t.seconds u < 2 ^ 47 ∧ t.band u = 0 := by
  unfold band
  split_ifs <;> omega

include h in
/-- There are at most 32 transitions, so that an offset that wraps around is lower than before. -/
theorem inForce_le_iff (hle : u ≤ v) :
    t.inForce u.unixDay ≤ t.inForce v.unixDay ↔ t.wrapped u = t.wrapped v := by
  have hpassed := passed_mono (t := t) (day_le hle)
  have hmost := passed_le h v.unixDay.toInt
  have hfirst := t.initialTaiMinusUtc.toInt_lt
  rw [Int16.le_iff_toInt_le, toInt_inForce h, toInt_inForce h]
  unfold wrapped
  split_ifs <;> omega

include h in
theorem seamless_iff_parts (hle : u ≤ v) :
    Seamless t u v ↔ t.wrapped u = t.wrapped v ∧ t.band u = t.band v := by
  have hbands : (t.seconds u < -2 ^ 47 ↔ t.seconds v < -2 ^ 47)
      ∧ (t.seconds u < 2 ^ 47 ↔ t.seconds v < 2 ^ 47) ↔ t.band u = t.band v := by
    have hu := @band_cases t u
    have hv := @band_cases t v
    omega
  rw [← inForce_le_iff h hle, ← hbands]
  exact ⟨fun h ↦ ⟨h.offset, h.low, h.high⟩, fun h ↦ ⟨h.1, h.2.1, h.2.2⟩⟩

include h in
theorem seamless_iff (hle : u ≤ v) : Seamless t u v ↔ t.deviation u = t.deviation v := by
  have hu := @wrapped_range t u
  have hv := @wrapped_range t v
  rw [seamless_iff_parts h hle]
  unfold deviation
  omega

include h in
/-- Between two instants without a seam there is none. -/
theorem deviation_eq_of_between {lo hi : UtcInstant} (hlo : t.Valid lo) (hu : t.Valid u)
    (hhi : t.Valid hi) (hlou : lo ≤ u) (huhi : u ≤ hi) (hseamless : Seamless t lo hi) :
    t.deviation u = t.deviation lo := by
  obtain ⟨hsame, -⟩ := (seamless_iff_parts h (hlou.trans huhi)).mp hseamless
  have hticks := ticks_mono h hlo hu hlou
  have hticks' := ticks_mono h hu hhi huhi
  rw [ticks_eq, ticks_eq] at hticks hticks'
  have hmono := wrapped_mono (t := t) hlou
  have hmono' := wrapped_mono (t := t) huhi
  have hsub := lo.subsecondQ16.toNat_lt
  have hsub' := u.subsecondQ16.toNat_lt
  have hsub'' := hi.subsecondQ16.toNat_lt
  have hbetween : t.seconds lo ≤ t.seconds u ∧ t.seconds u ≤ t.seconds hi := by omega
  have hlow := hseamless.low
  have hhigh := hseamless.high
  have hband : t.band u = t.band lo := by
    have hbandu := @band_cases t u
    have hbandlo := @band_cases t lo
    omega
  unfold deviation
  rw [hband]
  omega

/-- After a valid instant before another one there is a valid instant one tick later. -/
theorem exists_next (hu : t.Valid u) (hv : t.Valid v) (hlt : u < v) :
    ∃ w, t.Valid w ∧ u < w ∧ w ≤ v ∧ ticks h w = ticks h u + 1 := by
  obtain ⟨day, position, hholds, hday, hday', hafter, hbefore, hnext⟩ :=
    Calendar.exists_next ((valid_iff_holds h).mp hu) ((valid_iff_holds h).mp hv)
      (UtcInstant.lt_iff_before.mp hlt)
  have hlow := u.unixDay.le_toInt
  have hhigh := v.unixDay.toInt_lt
  have hlength : position < 86401 * 65536 := by
    refine hholds.2.trans_le ?_
    show (if t.LeapDay day then 86401 else 86400) * 65536 ≤ _
    split_ifs <;> omega
  have hnonneg := hholds.1
  -- the instant in words
  let w : UtcInstant := ⟨.ofInt day, .ofNat (position / 65536).toNat, .ofNat (position % 65536).toNat⟩
  have hwday : w.unixDay.toInt = day := Int32.toInt_ofInt_of_le (by omega) (by omega)
  have hwposition : w.position = position := by
    have hsecond : w.secondOfDay.toNat = (position / 65536).toNat :=
      UInt32.toNat_ofNat_of_lt' (by show _ < 2 ^ 32; omega)
    have hsub : w.subsecondQ16.toNat = (position % 65536).toNat :=
      UInt16.toNat_ofNat_of_lt' (by show _ < 2 ^ 16; omega)
    unfold UtcInstant.position
    omega
  have hlater : u < w := by
    rw [UtcInstant.lt_iff_before, hwday, hwposition]
    exact hafter
  refine ⟨w, ?_, hlater, ?_, ?_⟩
  · rw [valid_iff_holds h, hwday, hwposition]
    exact hholds
  · obtain hwv | ⟨hsame, hsame'⟩ := hbefore
    · refine (UtcInstant.lt_iff_before.mpr ?_).le
      rwa [hwday, hwposition]
    · refine le_of_eq (UtcInstant.eq_of_position (hwday.trans hsame) (hwposition.trans hsame'))
  · unfold ticks
    rw [hwday, hwposition]
    exact hnext

end Seams

end Checked

/-! ## Elapsed time -/

section Elapsed

variable {u v : UtcInstant}

theorem toNat_toUInt32_of_nonneg {x : Int64} (hnonneg : 0 ≤ x.toInt) (hlt : x.toInt < 2 ^ 32) :
    (x.toUInt64.toUInt32.toNat : Int) = x.toInt := by
  have hword : (x.toUInt64.toNat : Int) = x.toInt := by
    show (x.toBitVec.toNat : Int) = x.toBitVec.toInt
    rw [BitVec.toInt_eq_toNat_cond]
    split
    · rfl
    · rename_i hhigh
      have hwrap : x.toInt = (x.toBitVec.toNat : Int) - (2 ^ 64 : Nat) := by
        show x.toBitVec.toInt = _
        rw [BitVec.toInt_eq_toNat_cond, if_neg hhigh]
      have := x.toBitVec.isLt
      omega
  rw [UInt64.toNat_toUInt32]
  omega

/-- The elapsed time is the difference of the two times, if it is a time of a mission. -/
theorem elapsedTai_eq_ok {r s : Int64} {c : MissionTimeQ16} (hr : t.utcToTaiQ16 u = .ok r)
    (hs : t.utcToTaiQ16 v = .ok s) :
    elapsedTai t u v = .ok c ↔ s.toInt - r.toInt = c.raw.toNat := by
  have hc := c.raw.toNat_lt
  unfold elapsedTai checkedSubI64
  rw [bind_of_ok hr, bind_of_ok hs]
  by_cases hfits : s.toInt - r.toInt < -2 ^ 63 ∨ 2 ^ 63 ≤ s.toInt - r.toInt
  · rw [if_pos hfits]
    exact iff_of_false (by rintro ⟨⟩) (by omega)
  · rw [if_neg hfits]
    have hdifference : (s - r).toInt = s.toInt - r.toInt := by
      rw [Int64.toInt_sub]
      exact Int.bmod_eq_of_le (by omega) (by omega)
    dsimp only
    by_cases hnegative : s - r < 0
    · rw [reject_bind_of_fails hnegative]
      have hlt : (s - r).toInt < 0 := Int64.lt_iff_toInt_lt.mp hnegative
      exact iff_of_false (by rintro ⟨⟩) (by omega)
    rw [reject_bind hnegative]
    have hnonneg : 0 ≤ (s - r).toInt := Int64.le_iff_toInt_le.mp (Int64.not_lt.mp hnegative)
    by_cases hlarge : 0xffffffff < s - r
    · rw [reject_bind_of_fails hlarge]
      have hlt : 0xffffffff < (s - r).toInt := Int64.lt_iff_toInt_lt.mp hlarge
      exact iff_of_false (by rintro ⟨⟩) (by omega)
    rw [reject_bind hlarge]
    have hword : (s - r).toInt ≤ 0xffffffff := Int64.le_iff_toInt_le.mp (Int64.not_lt.mp hlarge)
    have hraw := toNat_toUInt32_of_nonneg hnonneg (by omega)
    rw [hdifference] at hraw
    generalize (s - r).toUInt64.toUInt32 = raw at hraw
    unfold MissionTimeQ16.fromRaw
    by_cases hmission : raw ≤ globalMaxDurationRaw
    · rw [dif_pos hmission]
      constructor
      · rintro ⟨⟩
        exact hraw.symm
      · intro heq
        have hsame : raw = c.raw := UInt32.toNat_inj.mp (by omega)
        subst hsame
        rfl
    · rw [dif_neg hmission]
      refine iff_of_false (by rintro ⟨⟩) fun heq ↦ hmission ?_
      rw [show raw = c.raw from UInt32.toNat_inj.mp (by omega)]
      exact c.bounded

variable (t) in
/-- From the one instant to the other TAI increases, by one tick from each valid instant to the next,
and elapsed times add up. -/
structure Continuous (lo hi : {u : UtcInstant // t.Valid u}) : Prop where
  increasing : ∀ u v : {u : UtcInstant // t.Valid u}, lo ≤ u → u < v → v ≤ hi → ∀ r s,
    t.utcToTaiQ16 u = .ok r → t.utcToTaiQ16 v = .ok s → r < s
  noGap : ∀ u v : {u : UtcInstant // t.Valid u}, lo ≤ u → u ⋖ v → v ≤ hi → ∀ r s,
    t.utcToTaiQ16 u = .ok r → t.utcToTaiQ16 v = .ok s → s.toInt = r.toInt + 1
  additive : ∀ u v w : {u : UtcInstant // t.Valid u}, lo ≤ u → u ≤ v → v ≤ w → w ≤ hi → ∀ c,
    elapsedTai t u w = .ok c ↔ ∃ a b, elapsedTai t u v = .ok a ∧ elapsedTai t v w = .ok b
      ∧ a.raw.toNat + b.raw.toNat = c.raw.toNat

/-- A part of a time of a mission is one too. -/
theorem exists_time {c : MissionTimeQ16} {n : Int} (hnonneg : 0 ≤ n) (hle : n ≤ c.raw.toNat) :
    ∃ a : MissionTimeQ16, (a.raw.toNat : Int) = n := by
  have hc := c.raw.toNat_lt
  have hraw : (UInt32.ofNat n.toNat).toNat = n.toNat := UInt32.toNat_ofNat_of_lt' (by
    show _ < 2 ^ 32
    omega)
  refine ⟨⟨.ofNat n.toNat, UInt32.le_trans ?_ c.bounded⟩, ?_⟩
  · rw [UInt32.le_iff_toNat_le, hraw]
    omega
  · show ((UInt32.ofNat n.toNat).toNat : Int) = n
    omega

variable (h : t.validate = .ok ())

include h in
theorem utcToTaiQ16_of_valid (hu : t.Valid u) :
    ∃ r, t.utcToTaiQ16 u = .ok r ∧ r.toInt = ticks h u + t.deviation u := by
  obtain ⟨r, hr⟩ : ∃ r : Int64,
      r.toInt = (t.seconds u * 65536 + u.subsecondQ16.toNat).bmod (2 ^ 64) := by
    refine ⟨.ofInt (t.seconds u * 65536 + u.subsecondQ16.toNat), ?_⟩
    exact Int64.toInt_ofInt
  have hok := (utcToTaiQ16_eq_ok h).mpr ⟨hu, hr⟩
  exact ⟨r, hok, ((utcToTaiQ16_eq_ok_ticks h).mp hok).2⟩

/-- The next valid instant is one tick later. -/
theorem ticks_of_covBy {u v : {u : UtcInstant // t.Valid u}} (hnext : u ⋖ v) :
    ticks h v = ticks h u + 1 := by
  obtain ⟨w, hw, hlater, hle, hticks⟩ := exists_next h u.2 v.2 hnext.lt
  obtain heq | hlt := hle.eq_or_lt
  · rw [← heq]
    exact hticks
  · exact absurd hlt (hnext.2 (c := ⟨w, hw⟩) hlater)

include h in
theorem continuous_of_seamless {lo hi : {u : UtcInstant // t.Valid u}}
    (hseamless : Seamless t lo hi) : Continuous t lo hi := by
  have hdeviation : ∀ u : {u : UtcInstant // t.Valid u}, lo ≤ u → u ≤ hi →
      t.deviation u = t.deviation lo := fun u hlou huhi ↦
    deviation_eq_of_between h lo.2 u.2 hi.2 hlou huhi hseamless
  constructor
  · intro u v hlou hlt hvhi r s hr hs
    have hr := ((utcToTaiQ16_eq_ok_ticks h).mp hr).2
    have hs := ((utcToTaiQ16_eq_ok_ticks h).mp hs).2
    rw [hdeviation u hlou (hlt.le.trans hvhi)] at hr
    rw [hdeviation v (hlou.trans hlt.le) hvhi] at hs
    have hticks := ticks_lt h u.2 v.2 hlt
    exact Int64.lt_iff_toInt_lt.mpr (by omega)
  · intro u v hlou hnext hvhi r s hr hs
    have hr := ((utcToTaiQ16_eq_ok_ticks h).mp hr).2
    have hs := ((utcToTaiQ16_eq_ok_ticks h).mp hs).2
    rw [hdeviation u hlou (hnext.le.trans hvhi)] at hr
    rw [hdeviation v (hlou.trans hnext.le) hvhi] at hs
    have hticks := ticks_of_covBy h hnext
    omega
  · intro u v w hlou huv hvw hwhi c
    obtain ⟨r, hr, hrticks⟩ := utcToTaiQ16_of_valid h u.2
    obtain ⟨s, hs, hsticks⟩ := utcToTaiQ16_of_valid h v.2
    obtain ⟨q, hq, hqticks⟩ := utcToTaiQ16_of_valid h w.2
    rw [hdeviation u hlou (huv.trans (hvw.trans hwhi))] at hrticks
    rw [hdeviation v (hlou.trans huv) (hvw.trans hwhi)] at hsticks
    rw [hdeviation w (hlou.trans (huv.trans hvw)) hwhi] at hqticks
    have hbefore := ticks_mono h u.2 v.2 huv
    have hafter := ticks_mono h v.2 w.2 hvw
    simp only [elapsedTai_eq_ok hr hs, elapsedTai_eq_ok hs hq, elapsedTai_eq_ok hr hq]
    constructor
    · intro hc
      obtain ⟨a, ha⟩ := exists_time (c := c) (n := s.toInt - r.toInt) (by omega) (by omega)
      obtain ⟨b, hb⟩ := exists_time (c := c) (n := q.toInt - s.toInt) (by omega) (by omega)
      exact ⟨a, b, ha.symm, hb.symm, by omega⟩
    · rintro ⟨a, b, ha, hb, hsum⟩
      omega

include h in
/-- Along instants that follow each other without a gap the deviation stays the same. -/
theorem deviation_eq_of_noGap {lo hi : {u : UtcInstant // t.Valid u}} (hle : lo ≤ hi)
    (hcontinuous : Continuous t lo hi) : t.deviation lo = t.deviation hi := by
  -- the induction is on the number of ticks between the two
  obtain ⟨n, hn⟩ := Int.eq_ofNat_of_zero_le (sub_nonneg.mpr (ticks_mono h lo.2 hi.2 hle))
  induction n generalizing lo with
  | zero =>
      obtain rfl | hlt := hle.eq_or_lt
      · rfl
      · have hticks := ticks_lt h lo.2 hi.2 hlt
        omega
  | succ n ih =>
      have hlt : lo < hi := by
        refine hle.lt_of_ne ?_
        rintro rfl
        omega
      obtain ⟨w, hw, hlater, hwhi, hticks⟩ := exists_next h lo.2 hi.2 hlt
      have hnext : lo ⋖ (⟨w, hw⟩ : {u : UtcInstant // t.Valid u}) := by
        refine ⟨hlater, fun x hlox hxw ↦ ?_⟩
        have hbelow := ticks_lt h lo.2 x.2 hlox
        have habove := ticks_lt h x.2 hw hxw
        omega
      obtain ⟨r, hr, hrticks⟩ := utcToTaiQ16_of_valid h lo.2
      obtain ⟨s, hs, hsticks⟩ := utcToTaiQ16_of_valid h hw
      have hstep := hcontinuous.noGap lo ⟨w, hw⟩ le_rfl hnext hwhi r s hr hs
      have hrest : Continuous t ⟨w, hw⟩ hi := {
        increasing := fun u v hu ↦ hcontinuous.increasing u v (hnext.le.trans hu)
        noGap := fun u v hu ↦ hcontinuous.noGap u v (hnext.le.trans hu)
        additive := fun u v x hu ↦ hcontinuous.additive u v x (hnext.le.trans hu) }
      rw [← ih hwhi hrest (by show ticks h hi - ticks h w = _; omega)]
      show t.deviation lo = t.deviation w
      omega

/-- In a valid table the instants that are taken are the valid ones, and TAI is continuous from one of
them to a later one iff there is no seam between the two. -/
theorem continuous_iff (t : LeapSecondTable) (h : t.validate = .ok ()) :
    (∀ u, (∃ r, t.utcToTaiQ16 u = .ok r) ↔ t.Valid u)
      ∧ ∀ lo hi : {u : UtcInstant // t.Valid u}, lo ≤ hi →
        (Continuous t lo hi ↔ Seamless t lo hi) := by
  refine ⟨fun u ↦ ⟨?_, fun hu ↦ ?_⟩, fun lo hi hle ↦ ⟨fun hcontinuous ↦ ?_, ?_⟩⟩
  · rintro ⟨r, hr⟩
    exact ((utcToTaiQ16_eq_ok h).mp hr).1
  · obtain ⟨r, hr, -⟩ := utcToTaiQ16_of_valid h hu
    exact ⟨r, hr⟩
  · exact (seamless_iff h hle).mpr (deviation_eq_of_noGap h hle hcontinuous)
  · exact continuous_of_seamless h

/-- The table of the end of 2016. -/
def leap2016 : LeapSecondTable where
  count := 1
  initialTaiMinusUtc := 36
  transitions := (Vector.replicate maxLeapTransitions .zero).set 0 ⟨17167, 37⟩ (by decide)

theorem leap2016_validate : leap2016.validate = .ok () := by decide +kernel

/-- The last second before the leap second. -/
def beforeLeap : {u : UtcInstant // leap2016.Valid u} := ⟨⟨17166, 86399, 0⟩, .inl (by decide)⟩

/-- The first second of the next day. -/
def afterLeap : {u : UtcInstant // leap2016.Valid u} := ⟨⟨17167, 0, 0⟩, .inl (by decide)⟩

/-- TAI is continuous over the leap second of 2016. -/
theorem continuous_over_2016 : Continuous leap2016 beforeLeap afterLeap := by
  refine ((continuous_iff leap2016 leap2016_validate).2 beforeLeap afterLeap ?_).mpr ?_
  · exact (UtcInstant.lt_iff.mpr (.inl (by decide))).le
  · exact ⟨by decide +kernel, by decide +kernel, by decide +kernel⟩

/-- A table without transitions. -/
def emptyTable : LeapSecondTable where
  count := 0
  initialTaiMinusUtc := 10
  transitions := Vector.replicate maxLeapTransitions .zero

/-- The last instant whose TAI fits into 64 bits. -/
def lastFitting : {u : UtcInstant // emptyTable.Valid u} :=
  ⟨⟨1628906115, 19318 - 1, 65535⟩, .inl (by decide)⟩

/-- The instant after it. -/
def firstWrapped : {u : UtcInstant // emptyTable.Valid u} :=
  ⟨⟨1628906115, 19318, 0⟩, .inl (by decide)⟩

/-- From the one to the other TAI falls from the largest number of 64 bits to the smallest. -/
theorem tai_falls : ¬∀ t : LeapSecondTable, t.validate = .ok () →
    ∀ lo hi : {u : UtcInstant // t.Valid u}, Continuous t lo hi := by
  intro hclaim
  have hcontinuous := hclaim emptyTable (by decide +kernel) lastFitting firstWrapped
  have hlt : lastFitting < firstWrapped := UtcInstant.lt_iff.mpr (.inr ⟨rfl, .inl (by decide)⟩)
  have hfalls := hcontinuous.increasing lastFitting firstWrapped le_rfl hlt le_rfl
    9223372036854775807 (-9223372036854775808) (by decide +kernel) (by decide +kernel)
  exact absurd hfalls (by decide)

end Elapsed

end LeapSecondTable

end Ksa64.Core
