import Mathlib.Data.List.Forall2
import Ksa64.Library.Layout
import Ksa64.Library.Run

/-!
# Logs of segments

A log is a string of segments, one behind the other, that a scanner takes off the front.  What it
makes of a segment may depend on those before.  If a round of the scanner takes off what a writer
writes and nothing else (`SegmentFormat`), then the scanner accepts exactly the strings of segments
(`scanAll_eq_ok_iff`), and it refuses a log that was cut in a segment (`scanFrom_of_torn`).  If the bytes
in front tell which segment it is (`Delimits`), a log can be cut into segments in one way.
-/

universe u v

namespace Ksa64.Library

section Traversals

variable {ε : Type u} {γ : Type*} {δ : Type v}

/-- A list computed entry by entry. -/
theorem mapM_eq_ok {f : γ → Except ε δ} {xs : List γ} {ys : List δ} :
    xs.mapM f = .ok ys ↔ List.Forall₂ (fun x y ↦ f x = .ok y) xs ys := by
  induction xs generalizing ys with
  | nil =>
      rw [List.mapM_nil, pure_eq_ok]
      constructor
      · rintro rfl
        exact .nil
      · rintro ⟨⟩
        rfl
  | cons x xs ih =>
      simp only [List.mapM_cons, bind_eq_ok, pure_eq_ok, ih]
      constructor
      · rintro ⟨y, hy, ys, hys, rfl⟩
        exact .cons hy hys
      · rintro (_ | ⟨hy, hys⟩)
        exact ⟨_, hy, _, hys, rfl⟩

/-- A list computed from the numbers of its entries. -/
theorem mapM_range_eq_ok {f : Nat → Except ε δ} {n : Nat} {ys : List δ} :
    (List.range n).mapM f = .ok ys ↔ ys.length = n ∧ ∀ i (h : i < ys.length), f i = .ok ys[i] := by
  rw [mapM_eq_ok, List.forall₂_iff_get]
  simp only [List.length_range, List.get_eq_getElem, List.getElem_range]
  constructor
  · rintro ⟨hlen, hall⟩
    exact ⟨hlen.symm, fun i h ↦ hall i (hlen ▸ h) h⟩
  · rintro ⟨hlen, hall⟩
    exact ⟨hlen.symm, fun i _ h ↦ hall i h⟩

/-- A list computed entry by entry, where it is known what each entry comes to. -/
theorem mapM_eq_ok_iff {f : γ → Except ε δ} {P : γ → Prop} {g : γ → δ} {xs : List γ} {ys : List δ}
    (h : ∀ x y, f x = .ok y ↔ P x ∧ y = g x) :
    xs.mapM f = .ok ys ↔ (∀ x ∈ xs, P x) ∧ ys = xs.map g := by
  induction xs generalizing ys with
  | nil =>
      rw [List.mapM_nil, pure_eq_ok, List.map_nil, eq_comm, and_iff_right]
      rintro _ ⟨⟩
  | cons x xs ih =>
      simp only [List.mapM_cons, bind_eq_ok, pure_eq_ok, ih, h, List.forall_mem_cons, List.map_cons]
      constructor
      · rintro ⟨_, ⟨hx, rfl⟩, _, ⟨hxs, rfl⟩, rfl⟩
        exact ⟨⟨hx, hxs⟩, rfl⟩
      · rintro ⟨⟨hx, hxs⟩, rfl⟩
        exact ⟨_, ⟨hx, rfl⟩, _, ⟨hxs, rfl⟩, rfl⟩

end Traversals

/-! ## Reading the front of a string -/

section Fronts

variable {xs : List UInt8} {n off : Nat}

theorem readByte_take (h : off < n) : readByte (xs.take n) off = readByte xs off := by
  unfold readByte
  rw [List.getD_eq_getElem?_getD, List.getD_eq_getElem?_getD, List.getElem?_take_of_lt h]

theorem read16_take (h : off + 2 ≤ n) : read16 (xs.take n) off = read16 xs off := by
  unfold read16
  rw [readByte_take (by omega), readByte_take (by omega)]

theorem slice_take {a b : Nat} (h : b ≤ n) : slice (xs.take n) a b = slice xs a b := by
  rw [slice, List.take_take, Nat.min_eq_left h, slice]

end Fronts

/-! ## Tables -/

section Tables

variable {γ β : Type*} {encode : γ → List β} {len : Nat} {xs : List β} {ys : List γ}

/-- A string is a table of entries of one length exactly if each entry stands at its place. -/
theorem eq_flatMap_iff (hlen : ∀ y ∈ ys, (encode y).length = len)
    (hxs : xs.length = ys.length * len) :
    xs = ys.flatMap encode ↔
      ∀ i (h : i < ys.length), (xs.drop (i * len)).take len = encode ys[i] := by
  induction ys generalizing xs with
  | nil =>
      rw [List.length_nil, Nat.zero_mul, List.length_eq_zero_iff] at hxs
      exact iff_of_true hxs nofun
  | cons y ys ih =>
      obtain ⟨hy, hys⟩ := List.forall_mem_cons.mp hlen
      rw [List.length_cons, Nat.succ_mul] at hxs
      have hrest : (xs.drop len).length = ys.length * len := by
        rw [List.length_drop, hxs, Nat.add_sub_cancel]
      have hsplit : xs = (y :: ys).flatMap encode ↔
          xs.take len = encode y ∧ xs.drop len = ys.flatMap encode := by
        have hfirst : (xs.take len).length = (encode y).length := by
          rw [List.length_take, hy, hxs]
          exact Nat.min_eq_left (Nat.le_add_left ..)
        rw [List.flatMap_cons, ← append_eq_append_iff_of_length hfirst, List.take_append_drop]
      rw [hsplit, ih hys hrest]
      constructor
      · rintro ⟨hfirst, hall⟩ i h
        cases i with
        | zero => simpa using hfirst
        | succ i =>
            have hnext := hall i (Nat.lt_of_succ_lt_succ h)
            rwa [List.drop_drop, show len + i * len = (i + 1) * len by
              rw [Nat.succ_mul, Nat.add_comm]] at hnext
      · intro hall
        refine ⟨by simpa using hall 0 (Nat.zero_lt_succ _), fun i h ↦ ?_⟩
        have hnext := hall (i + 1) (Nat.succ_lt_succ h)
        rwa [List.drop_drop, show len + i * len = (i + 1) * len by
          rw [Nat.succ_mul, Nat.add_comm]]

end Tables

/-! ## Scanners -/

section Scanners

variable {ε σ : Type u} {α β : Type*}

/-- Take segments off the front until nothing is left, for the given number of rounds. -/
def scanFrom (step : σ → List β → Except ε (σ × Nat)) : Nat → σ → List β → Except ε σ
  | 0, s, _ => pure s
  | _ + 1, s, [] => pure s
  | n + 1, s, x :: xs => do
      let next ← step s (x :: xs)
      scanFrom step n next.1 ((x :: xs).drop next.2)

/-- Take segments off the front until nothing is left. -/
def scanAll (step : σ → List β → Except ε (σ × Nat)) (s : σ) (xs : List β) : Except ε σ :=
  scanFrom step xs.length s xs

/-- A scanner, and what is written of the segments that it takes. -/
structure SegmentFormat (ε σ : Type u) (α β : Type*) where
  step : σ → List β → Except ε (σ × Nat)
  bytes : α → List β
  Takes : σ → α → Prop
  advance : σ → α → σ
  bytes_ne_nil : ∀ a, bytes a ≠ []
  step_eq_ok : ∀ s xs t n, xs ≠ [] → (step s xs = .ok (t, n) ↔
    ∃ a, Takes s a ∧ bytes a <+: xs ∧ t = advance s a ∧ n = (bytes a).length)

namespace SegmentFormat

variable (F : SegmentFormat ε σ α β)

/-- The log of some segments. -/
def log (as : List α) : List β := as.flatMap F.bytes

/-- The segments are taken one after the other. -/
abbrev TakesAll (s : σ) (as : List α) : Prop := Meets F.advance F.Takes s as

variable {F} {s t : σ} {as bs : List α} {xs : List β} {n : Nat}

@[simp] theorem log_nil : F.log [] = [] := rfl

@[simp] theorem log_cons (a : α) : F.log (a :: as) = F.bytes a ++ F.log as := rfl

theorem log_append : F.log (as ++ bs) = F.log as ++ F.log bs := List.flatMap_append

theorem log_eq_nil : F.log as = [] ↔ as = [] := by
  cases as with
  | nil => exact iff_of_true rfl rfl
  | cons a as =>
      refine iff_of_false (fun h ↦ F.bytes_ne_nil a ?_) (List.cons_ne_nil a as)
      rw [log_cons] at h
      exact (List.append_eq_nil_iff.mp h).1

theorem bytes_pos (a : α) : 0 < (F.bytes a).length := List.length_pos_of_ne_nil (F.bytes_ne_nil a)

/-- With rounds enough, a scanner accepts exactly the logs of segments that it takes. -/
theorem scanFrom_eq_ok_iff (hn : xs.length ≤ n) :
    scanFrom F.step n s xs = .ok t ↔
      ∃ as, F.TakesAll s as ∧ xs = F.log as ∧ t = run F.advance s as := by
  induction n generalizing s xs with
  | zero =>
      obtain rfl := List.length_eq_zero_iff.mp (Nat.le_zero.mp hn)
      rw [scanFrom, pure_eq_ok]
      constructor
      · rintro rfl
        exact ⟨[], trivial, rfl, rfl⟩
      · rintro ⟨as, -, hlog, rfl⟩
        rw [log_eq_nil.mp hlog.symm, run_nil]
  | succ n ih =>
      cases xs with
      | nil =>
          rw [scanFrom, pure_eq_ok]
          constructor
          · rintro rfl
            exact ⟨[], trivial, rfl, rfl⟩
          · rintro ⟨as, -, hlog, rfl⟩
            rw [log_eq_nil.mp hlog.symm, run_nil]
      | cons x xs =>
          rw [scanFrom, bind_eq_ok]
          constructor
          · rintro ⟨⟨s', k⟩, hstep, hrest⟩
            obtain ⟨a, htakes, ⟨ys, hys⟩, rfl, rfl⟩ :=
              (F.step_eq_ok s _ s' k (List.cons_ne_nil x xs)).mp hstep
            have hpos := F.bytes_pos a
            have hlen := congrArg List.length hys
            rw [List.length_append] at hlen
            rw [← hys, List.drop_left] at hrest
            obtain ⟨as, hall, rfl, rfl⟩ := (ih (by omega)).mp hrest
            exact ⟨a :: as, meets_cons.mpr ⟨htakes, hall⟩, hys.symm, rfl⟩
          · rintro ⟨as, hall, hlog, rfl⟩
            cases as with
            | nil => cases hlog
            | cons a as =>
                obtain ⟨htakes, hall⟩ := meets_cons.mp hall
                have hpos := F.bytes_pos a
                have hlen := congrArg List.length hlog
                rw [log_cons, List.length_append] at hlen
                refine ⟨(F.advance s a, (F.bytes a).length),
                  (F.step_eq_ok s _ _ _ (List.cons_ne_nil x xs)).mpr
                    ⟨a, htakes, ⟨F.log as, hlog.symm⟩, rfl, rfl⟩, ?_⟩
                rw [hlog, log_cons, List.drop_left]
                exact (ih (by omega)).mpr ⟨as, hall, rfl, rfl⟩

/-- A scanner accepts exactly the logs of segments that it takes. -/
theorem scanAll_eq_ok_iff :
    scanAll F.step s xs = .ok t ↔
      ∃ as, F.TakesAll s as ∧ xs = F.log as ∧ t = run F.advance s as :=
  scanFrom_eq_ok_iff (Nat.le_refl _)

theorem scanAll_log (h : F.TakesAll s as) : scanAll F.step s (F.log as) = .ok (run F.advance s as) :=
  scanAll_eq_ok_iff.mpr ⟨as, h, rfl, rfl⟩

/-! ### Logs that were cut -/

/-- What is left of a segment that was cut is refused. -/
def RefusesTorn (F : SegmentFormat ε σ α β) (e : ε) : Prop :=
  ∀ s a k, F.Takes s a → 0 < k → k < (F.bytes a).length → F.step s ((F.bytes a).take k) = .error e

/-- The string ends with a segment. -/
def EndsIn (F : SegmentFormat ε σ α β) (as : List α) (xs : List β) : Prop :=
  ∃ j ≤ as.length, xs = F.log (as.take j)

theorem endsIn_nil : F.EndsIn as [] := ⟨0, Nat.zero_le _, rfl⟩

theorem endsIn_cons {a : α} : F.EndsIn (a :: as) (F.bytes a ++ xs) ↔ F.EndsIn as xs := by
  constructor
  · rintro ⟨j, hj, h⟩
    cases j with
    | zero => exact absurd (List.append_eq_nil_iff.mp h).1 (F.bytes_ne_nil a)
    | succ j =>
        rw [List.take_succ_cons, log_cons, List.append_cancel_left_eq] at h
        exact ⟨j, Nat.le_of_succ_le_succ hj, h⟩
  · rintro ⟨j, hj, rfl⟩
    exact ⟨j + 1, Nat.succ_le_succ hj, rfl⟩

/-- A log that was cut in a segment is refused. -/
theorem scanFrom_of_torn {e : ε} (htorn : F.RefusesTorn e) (hall : F.TakesAll s as)
    (hxs : xs <+: F.log as) (hends : ¬F.EndsIn as xs) (hn : xs.length ≤ n) :
    scanFrom F.step n s xs = .error e := by
  induction as generalizing s xs n with
  | nil =>
      rw [log_nil, List.prefix_nil] at hxs
      rw [hxs] at hends
      exact absurd endsIn_nil hends
  | cons a as ih =>
      obtain ⟨htakes, hall⟩ := meets_cons.mp hall
      have hne : xs ≠ [] := by
        rintro rfl
        exact hends endsIn_nil
      have hpos := List.length_pos_of_ne_nil hne
      obtain ⟨n, rfl⟩ : ∃ m, n = m + 1 := ⟨n - 1, by omega⟩
      have hscan : scanFrom F.step (n + 1) s xs =
          F.step s xs >>= fun next ↦ scanFrom F.step n next.1 (xs.drop next.2) := by
        cases xs with
        | nil => exact absurd rfl hne
        | cons x xs => rfl
      rw [hscan]
      rw [log_cons] at hxs
      by_cases hlt : xs.length < (F.bytes a).length
      · -- The cut is in the first segment.
        have htake : xs = (F.bytes a).take xs.length := by
          conv_lhs => rw [List.prefix_iff_eq_take.mp hxs]
          exact List.take_append_of_le_length (Nat.le_of_lt hlt)
        have hstep := htorn s a xs.length htakes hpos hlt
        rw [← htake] at hstep
        rw [hstep]
        rfl
      · obtain ⟨ys, rfl⟩ : F.bytes a <+: xs :=
          List.prefix_of_prefix_length_le (List.prefix_append _ (F.log as)) hxs (Nat.not_lt.mp hlt)
        have hstep : F.step s (F.bytes a ++ ys) = .ok (F.advance s a, (F.bytes a).length) :=
          (F.step_eq_ok s _ _ _ hne).mpr ⟨a, htakes, List.prefix_append .., rfl, rfl⟩
        have hlen := F.bytes_pos a
        rw [List.length_append] at hn
        rw [bind_of_ok hstep, List.drop_left]
        exact ih hall ((List.prefix_append_right_inj _).mp hxs) (fun h ↦ hends (endsIn_cons.mpr h))
          (by omega)

end SegmentFormat

end Scanners

/-! ## Logs that can be cut in one way -/

section Codes

variable {α β : Type*}

/-- The bytes in front tell which segment it is. -/
def Delimits (bytes : α → List β) (S : α → Prop) : Prop :=
  ∀ a b xs, S a → S b → bytes a <+: xs → bytes b <+: xs → a = b

/-- A log in front of another is one of the first segments. -/
theorem Delimits.flatMap_prefix_iff {bytes : α → List β} {S : α → Prop} (h : Delimits bytes S)
    (hne : ∀ a, bytes a ≠ []) {as bs : List α} (has : ∀ a ∈ as, S a) (hbs : ∀ b ∈ bs, S b) :
    as.flatMap bytes <+: bs.flatMap bytes ↔ as <+: bs := by
  induction as generalizing bs with
  | nil => exact iff_of_true List.nil_prefix List.nil_prefix
  | cons a as ih =>
      cases bs with
      | nil =>
          rw [List.flatMap_nil, List.prefix_nil, List.prefix_nil, List.flatMap_cons,
            List.append_eq_nil_iff]
          exact iff_of_false (fun hnil ↦ hne a hnil.1) (List.cons_ne_nil a as)
      | cons b bs =>
          obtain ⟨ha, has⟩ := List.forall_mem_cons.mp has
          obtain ⟨hb, hbs⟩ := List.forall_mem_cons.mp hbs
          rw [List.cons_prefix_cons, ← ih has hbs, List.flatMap_cons, List.flatMap_cons]
          constructor
          · intro hbegins
            obtain rfl : a = b := h a b _ ha hb
              ((List.prefix_append _ (as.flatMap bytes)).trans hbegins) (List.prefix_append ..)
            exact ⟨rfl, (List.prefix_append_right_inj _).mp hbegins⟩
          · rintro ⟨rfl, hbegins⟩
            exact (List.prefix_append_right_inj _).mpr hbegins

end Codes

end Ksa64.Library
