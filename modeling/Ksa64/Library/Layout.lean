import Ksa64.Library.Bytes
import Ksa64.Library.Checked

/-!
# Fixed layouts

A record of fixed layout is a byte string with a cell at each of some offsets and zeros in
between.  A writer fills a zeroed string cell by cell (`fill`); what a reader finds at the
offsets is `Reads`.  The two meet in `eq_fill_iff`: a string is the one a writer leaves
exactly when it has the length and reads as the cells, with nothing but zeros between them.
So a reader that looks at every byte accepts one spelling of a record only.
-/

namespace Ksa64.Library

/-! ## Zeros -/

/-- Every byte from `a` up to `b` is zero. -/
def ZeroOn (xs : List UInt8) (a b : Nat) : Prop := ∀ i, a ≤ i → i < b → readByte xs i = 0

section Zeros

variable {xs : List UInt8} {a b c : Nat}

@[simp] theorem zeroOn_self : ZeroOn xs a a := fun _ hl hr ↦ absurd hr (Nat.not_lt.mpr hl)

theorem zeroOn_succ : ZeroOn xs a (b + 1) ↔ ZeroOn xs a b ∧ (a ≤ b → readByte xs b = 0) := by
  constructor
  · intro h
    exact ⟨fun i hl hr ↦ h i hl (by omega), fun hab ↦ h b hab (by omega)⟩
  · rintro ⟨h, hb⟩ i hl hr
    obtain hlt | rfl := Nat.lt_succ_iff_lt_or_eq.mp hr
    · exact h i hl hlt
    · exact hb hl

@[simp] theorem zeroOn_one : ZeroOn xs a (a + 1) ↔ readByte xs a = 0 := by
  simp [zeroOn_succ]

@[simp] theorem zeroOn_two :
    ZeroOn xs a (a + 2) ↔ readByte xs a = 0 ∧ readByte xs (a + 1) = 0 := by
  simp [zeroOn_succ]

@[simp] theorem zeroOn_three : ZeroOn xs a (a + 3) ↔
    readByte xs a = 0 ∧ readByte xs (a + 1) = 0 ∧ readByte xs (a + 2) = 0 := by
  simp [zeroOn_succ, and_assoc]

/-- A range of zeros in two parts. -/
theorem zeroOn_split (hab : a ≤ b) (hbc : b ≤ c) :
    ZeroOn xs a c ↔ ZeroOn xs a b ∧ ZeroOn xs b c := by
  constructor
  · intro h
    exact ⟨fun i hl hr ↦ h i hl (by omega), fun i hl hr ↦ h i (by omega) hr⟩
  · rintro ⟨hl, hr⟩ i ha hc
    by_cases hi : i < b
    · exact hl i ha hi
    · exact hr i (by omega) hc

/-- A byte inside the string. -/
theorem readByte_eq_getElem {i : Nat} (h : i < xs.length) : readByte xs i = xs[i] := by
  simp [readByte, List.getD, h]

/-- Past the end there is nothing but zeros. -/
theorem readByte_eq_zero {i : Nat} (h : xs.length ≤ i) : readByte xs i = 0 := by
  simp [readByte, List.getD, h]

/-- A slice without a byte other than zero. -/
theorem zeroOn_iff_any : ZeroOn xs a b ↔ (slice xs a b).any (· != 0) = false := by
  rw [List.any_eq_false]
  constructor
  · intro h byte hbyte
    obtain ⟨i, hi, rfl⟩ := List.mem_iff_getElem.mp hbyte
    have hrange : i < min b xs.length - a := by simpa [slice] using hi
    have hzero := h (a + i) (by omega) (by omega)
    rw [readByte_eq_getElem (by omega)] at hzero
    simp [slice, hzero]
  · intro h i hl hr
    by_cases hlen : i < xs.length
    · have hmem : xs[i] ∈ slice xs a b := by
        refine List.mem_iff_getElem.mpr ⟨i - a, by simp [slice]; omega, ?_⟩
        simp [slice, Nat.add_sub_cancel' hl]
      rw [readByte_eq_getElem hlen]
      simpa using h _ hmem
    · exact readByte_eq_zero (by omega)

/-- A string of zeros. -/
theorem slice_eq_replicate_iff (hb : b ≤ xs.length) :
    slice xs a b = List.replicate (b - a) 0 ↔ ZeroOn xs a b := by
  rw [zeroOn_iff_any, any_ne_zero_eq_false, length_slice hb]

end Zeros

/-- Two neighbouring slices. -/
theorem slice_append_slice {xs : List UInt8} {a b c : Nat} (hab : a ≤ b) (hbc : b ≤ c) :
    slice xs a b ++ slice xs b c = slice xs a c := by
  have htake : slice (xs.take c) a b = slice xs a b := by
    rw [slice, List.take_take, Nat.min_eq_left hbc, ← slice]
  have hdrop := @drop_eq_slice_append (xs.take c) a b hab
  rw [htake] at hdrop
  exact hdrop.symm

/-- Strings whose first parts have the same length. -/
theorem append_eq_append_iff_of_length {α : Type*} {as bs cs ds : List α}
    (h : as.length = cs.length) : as ++ bs = cs ++ ds ↔ as = cs ∧ bs = ds :=
  ⟨fun heq ↦ List.append_inj heq h, fun heq ↦ by rw [heq.1, heq.2]⟩

/-! ## Cells -/

/-- What stands at an offset of a record. -/
inductive Cell where
  | byte (value : UInt8)
  | word16 (value : UInt16)
  | word32 (value : UInt32)
  | word64 (value : UInt64)
  | words (values : List UInt32)
  | bytes (values : List UInt8)

namespace Cell

/-- The bytes of a cell. -/
def encode : Cell → List UInt8
  | .byte value => [value]
  | .word16 value => le16 value
  | .word32 value => le32 value
  | .word64 value => le64 value
  | .words values => values.flatMap le32
  | .bytes values => values

/-- How many bytes the cell has. -/
@[simp] def length : Cell → Nat
  | .byte _ => 1
  | .word16 _ => 2
  | .word32 _ => 4
  | .word64 _ => 8
  | .words values => 4 * values.length
  | .bytes values => values.length

/-- What a reader finds at an offset is the cell. -/
def ReadsAs (xs : List UInt8) (off : Nat) : Cell → Prop
  | .byte value => readByte xs off = value
  | .word16 value => read16 xs off = value
  | .word32 value => read32 xs off = value
  | .word64 value => read64 xs off = value
  | .words values => ∀ i (h : i < values.length), read32 xs (off + 4 * i) = values[i]
  | .bytes values => slice xs off (off + values.length) = values

section Reads

variable {xs : List UInt8} {off : Nat}

@[simp] theorem readsAs_byte {value : UInt8} :
    (byte value).ReadsAs xs off ↔ readByte xs off = value := Iff.rfl

@[simp] theorem readsAs_word16 {value : UInt16} :
    (word16 value).ReadsAs xs off ↔ read16 xs off = value := Iff.rfl

@[simp] theorem readsAs_word32 {value : UInt32} :
    (word32 value).ReadsAs xs off ↔ read32 xs off = value := Iff.rfl

@[simp] theorem readsAs_word64 {value : UInt64} :
    (word64 value).ReadsAs xs off ↔ read64 xs off = value := Iff.rfl

@[simp] theorem readsAs_bytes {values : List UInt8} :
    (bytes values).ReadsAs xs off ↔ slice xs off (off + values.length) = values := Iff.rfl

end Reads

@[simp] theorem length_encode (c : Cell) : c.encode.length = c.length := by
  cases c with
  | words values =>
      simp only [encode, length, List.length_flatMap]
      simp [Nat.mul_comm]
  | _ => rfl

variable {xs : List UInt8} {off : Nat}

theorem slice_word16 (h : off + 2 ≤ xs.length) :
    slice xs off (off + 2) = le16 (read16 xs off) :=
  slice_of_drop_eq (drop_eq_le16_append h) rfl

theorem slice_word32 (h : off + 4 ≤ xs.length) :
    slice xs off (off + 4) = le32 (read32 xs off) :=
  slice_of_drop_eq (drop_eq_le32_append h) rfl

theorem slice_word64 (h : off + 8 ≤ xs.length) :
    slice xs off (off + 8) = le64 (read64 xs off) :=
  slice_of_drop_eq (drop_eq_le64_append h) rfl

theorem slice_byte (h : off < xs.length) : slice xs off (off + 1) = [readByte xs off] := by
  refine slice_of_drop_eq (?_ : _ = [readByte xs off] ++ xs.drop (off + 1)) rfl
  rw [readByte_eq_getElem h, List.drop_eq_getElem_cons h]
  rfl

theorem le16_inj {v w : UInt16} : le16 v = le16 w ↔ v = w := by
  refine ⟨fun h ↦ ?_, congrArg le16⟩
  rw [← read16_le16_append v [], h, read16_le16_append]

theorem le32_inj {v w : UInt32} : le32 v = le32 w ↔ v = w := by
  refine ⟨fun h ↦ ?_, congrArg le32⟩
  rw [← read32_le32_append v [], h, read32_le32_append]

theorem le64_inj {v w : UInt64} : le64 v = le64 w ↔ v = w := by
  refine ⟨fun h ↦ ?_, congrArg le64⟩
  rw [← read64_le64_append v [], h, read64_le64_append]

/-- Words one after the other. -/
theorem readsWords_iff {values : List UInt32} (h : off + 4 * values.length ≤ xs.length) :
    (∀ i (hi : i < values.length), read32 xs (off + 4 * i) = values[i]) ↔
      slice xs off (off + 4 * values.length) = values.flatMap le32 := by
  induction values generalizing off with
  | nil => simp [slice]
  | cons value values ih =>
      rw [List.length_cons] at h
      have hsplit : slice xs off (off + 4 * (value :: values).length) =
          le32 (read32 xs off) ++ slice xs (off + 4) (off + 4 + 4 * values.length) := by
        rw [← slice_word32 (by omega), slice_append_slice (by omega) (by omega)]
        congr 1
        rw [List.length_cons]
        omega
      rw [hsplit, List.flatMap_cons,
        append_eq_append_iff_of_length ((length_le32 (read32 xs off)).trans (length_le32 value).symm),
        le32_inj, ← ih (by omega)]
      constructor
      · intro hall
        refine ⟨hall 0 (Nat.zero_lt_succ _), fun i hi ↦ ?_⟩
        have hnext := hall (i + 1) (Nat.succ_lt_succ hi)
        rwa [show off + 4 * (i + 1) = off + 4 + 4 * i by omega] at hnext
      · rintro ⟨hfirst, hrest⟩ i hi
        cases i with
        | zero => exact hfirst
        | succ i =>
            rw [show off + 4 * (i + 1) = off + 4 + 4 * i by omega]
            exact hrest i (Nat.lt_of_succ_lt_succ hi)

/-- Inside the string, a cell is read where its bytes stand, and nowhere else. -/
theorem readsAs_iff {c : Cell} (h : off + c.length ≤ xs.length) :
    c.ReadsAs xs off ↔ slice xs off (off + c.length) = c.encode := by
  cases c with
  | byte value =>
      rw [length, encode, slice_byte h, List.singleton_inj]
      rfl
  | word16 value =>
      rw [length, encode, slice_word16 h, le16_inj]
      rfl
  | word32 value =>
      rw [length, encode, slice_word32 h, le32_inj]
      rfl
  | word64 value =>
      rw [length, encode, slice_word64 h, le64_inj]
      rfl
  | words values => exact readsWords_iff h
  | bytes values => rfl

end Cell

/-! ## Layouts -/

/-- The cells of a record with their offsets. -/
abbrev Layout := List (Nat × Cell)

namespace Layout

/-- The cells follow one another from `pos` on, and end before `n`. -/
@[simp] def Fits (n : Nat) : Nat → Layout → Prop
  | pos, [] => pos ≤ n
  | pos, (off, c) :: rest => pos ≤ off ∧ Fits n (off + c.length) rest

/-- What a reader finds from `pos` up to `n`: the cells, and zeros between them. -/
@[simp] def Reads (n : Nat) (xs : List UInt8) : Nat → Layout → Prop
  | pos, [] => ZeroOn xs pos n
  | pos, (off, c) :: rest =>
      ZeroOn xs pos off ∧ c.ReadsAs xs off ∧ Reads n xs (off + c.length) rest

/-- The bytes from `pos` up to `n`. -/
def render (n : Nat) : Nat → Layout → List UInt8
  | pos, [] => List.replicate (n - pos) 0
  | pos, (off, c) :: rest =>
      List.replicate (off - pos) 0 ++ (c.encode ++ render n (off + c.length) rest)

/-- Write the cells into a zeroed string. -/
def fill (n : Nat) (cells : Layout) : List UInt8 :=
  cells.foldl (fun output entry ↦ splice output entry.1 entry.2.encode) (List.replicate n 0)

variable {n pos : Nat} {cells : Layout} {xs : List UInt8}

theorem Fits.le (h : Fits n pos cells) : pos ≤ n := by
  induction cells generalizing pos with
  | nil => exact h
  | cons entry rest ih =>
      have hpos := h.1
      have hrest := ih h.2
      omega

theorem length_render (h : Fits n pos cells) : (render n pos cells).length = n - pos := by
  induction cells generalizing pos with
  | nil => exact List.length_replicate
  | cons entry rest ih =>
      obtain ⟨off, c⟩ := entry
      have hle : off + c.length ≤ n := h.2.le
      have hpos : pos ≤ off := h.1
      simp only [render, List.length_append, List.length_replicate, Cell.length_encode, ih h.2]
      omega

/-- Filling front to back leaves the rendered record. -/
theorem fill_eq_render (h : Fits n 0 cells) : fill n cells = render n 0 cells := by
  have key : ∀ (cells : Layout) (pre : List UInt8), Fits n pre.length cells →
      cells.foldl (fun output entry ↦ splice output entry.1 entry.2.encode)
        (pre ++ List.replicate (n - pre.length) 0) = pre ++ render n pre.length cells := by
    intro cells
    induction cells with
    | nil => intro pre _; rfl
    | cons entry rest ih =>
        intro pre hfits
        obtain ⟨off, c⟩ := entry
        have hpos : pre.length ≤ off := hfits.1
        have hle : off + c.length ≤ n := hfits.2.le
        have hlen : (pre ++ List.replicate (off - pre.length) 0 ++ c.encode).length =
            off + c.length := by
          simp only [List.length_append, List.length_replicate, Cell.length_encode]
          omega
        have hgap : pre ++ List.replicate (n - pre.length) (0 : UInt8) =
            (pre ++ List.replicate (off - pre.length) 0) ++ List.replicate (n - off) 0 := by
          rw [List.append_assoc, List.replicate_append_replicate]
          congr 2
          omega
        have hnext := ih (pre ++ List.replicate (off - pre.length) 0 ++ c.encode)
          (hlen.symm ▸ hfits.2)
        rw [List.foldl_cons, hgap, splice_frontier (by simp; omega), Cell.length_encode]
        rw [hlen, show n - (off + c.length) = n - off - c.length by omega] at hnext
        rw [hnext, render]
        simp only [List.append_assoc]
  exact key cells [] h

/-- A string is the rendered record exactly when it reads as its cells. -/
theorem drop_eq_render_iff (hlen : xs.length = n) (h : Fits n pos cells) :
    xs.drop pos = render n pos cells ↔ Reads n xs pos cells := by
  induction cells generalizing pos with
  | nil =>
      have hslice : xs.drop pos = slice xs pos n := by
        rw [slice, ← hlen, List.take_length]
      rw [render, Reads, hslice]
      exact slice_eq_replicate_iff (Nat.le_of_eq hlen.symm)
  | cons entry rest ih =>
      obtain ⟨off, c⟩ := entry
      obtain ⟨hpos, hfits⟩ := h
      have hle : off + c.length ≤ n := hfits.le
      have hgap : (slice xs pos off).length = (List.replicate (off - pos) (0 : UInt8)).length := by
        rw [length_slice (by omega), List.length_replicate]
      have hcell : (slice xs off (off + c.length)).length = c.encode.length := by
        rw [length_slice (by omega), Cell.length_encode]
        omega
      rw [render, Reads, drop_eq_slice_append hpos,
        drop_eq_slice_append (Nat.le_add_right off c.length),
        append_eq_append_iff_of_length hgap, append_eq_append_iff_of_length hcell,
        slice_eq_replicate_iff (by omega), ← Cell.readsAs_iff (by omega), ih hfits]

/-- A string is what a writer leaves exactly when it has the length and reads as the cells. -/
theorem eq_fill_iff (h : Fits n 0 cells) :
    xs = fill n cells ↔ xs.length = n ∧ Reads n xs 0 cells := by
  rw [fill_eq_render h]
  constructor
  · rintro rfl
    have hlen := length_render h
    exact ⟨hlen, (drop_eq_render_iff hlen h).mp rfl⟩
  · rintro ⟨hlen, hreads⟩
    exact (drop_eq_render_iff hlen h).mpr hreads

theorem length_fill (h : Fits n 0 cells) : (fill n cells).length = n := by
  rw [fill_eq_render h, length_render h]
  rfl

/-- A layout that ends early ends before any later end. -/
theorem Fits.mono {m : Nat} (h : Fits n pos cells) (hle : n ≤ m) : Fits m pos cells := by
  induction cells generalizing pos with
  | nil => exact Nat.le_trans h hle
  | cons entry rest ih => exact ⟨h.1, ih h.2⟩

/-- What reads up to a later end reads up to an earlier one. -/
theorem Reads.mono {m : Nat} (h : Reads m xs pos cells) (hle : n ≤ m) : Reads n xs pos cells := by
  induction cells generalizing pos with
  | nil => exact fun i hl hr ↦ h i hl (by omega)
  | cons entry rest ih => exact ⟨h.1, h.2.1, ih h.2.2⟩

/-- A reader does not look past the end. -/
theorem reads_take (hlen : n ≤ xs.length) (h : Fits n pos cells) :
    Reads n (xs.take n) pos cells ↔ Reads n xs pos cells := by
  have hzero {a b : Nat} (hb : b ≤ n) : ZeroOn (xs.take n) a b ↔ ZeroOn xs a b := by
    rw [zeroOn_iff_any, zeroOn_iff_any, slice, List.take_take, Nat.min_eq_left hb, ← slice]
  induction cells generalizing pos with
  | nil => exact hzero (Nat.le_refl n)
  | cons entry rest ih =>
      obtain ⟨off, c⟩ := entry
      have hle : off + c.length ≤ n := h.2.le
      have hcell : c.ReadsAs (xs.take n) off ↔ c.ReadsAs xs off := by
        rw [Cell.readsAs_iff (by rw [List.length_take]; omega), Cell.readsAs_iff (by omega), slice,
          List.take_take, Nat.min_eq_left hle, ← slice]
      have hpos : pos ≤ off := h.1
      exact and_congr (hzero (by omega)) (and_congr hcell (ih h.2))

/-- The front of a string is what a writer leaves exactly when it reads as the cells. -/
theorem take_eq_fill_iff (hlen : n ≤ xs.length) (h : Fits n 0 cells) :
    xs.take n = fill n cells ↔ Reads n xs 0 cells := by
  rw [eq_fill_iff h, reads_take hlen h, and_iff_right (by rw [List.length_take]; omega)]

/-- A longer string has the cells in front, too. -/
theorem take_fill {m : Nat} (h : Fits n 0 cells) (hle : n ≤ m) :
    (fill m cells).take n = fill n cells := by
  have hm := h.mono hle
  rw [take_eq_fill_iff (by rw [length_fill hm]; exact hle) h]
  exact ((eq_fill_iff hm).mp rfl).2.mono hle

/-- A record with a seal of its own bytes behind it: a string is the sealed record exactly when
it has the length, ends in the seal of its front and reads as the cells. -/
theorem eq_sealed_iff {k : Nat} {check : List UInt8 → List UInt8}
    (hcheck : ∀ ys, (check ys).length = k) (h : Fits n 0 cells) :
    xs = splice (fill (n + k) cells) n (check ((fill (n + k) cells).take n)) ↔
      xs.length = n + k ∧ xs.drop n = check (xs.take n) ∧ Reads n xs 0 cells := by
  have hle : n ≤ n + k := Nat.le_add_right n k
  have hfill := length_fill h
  have hsealed : splice (fill (n + k) cells) n (check ((fill (n + k) cells).take n)) =
      fill n cells ++ check (fill n cells) := by
    rw [splice, take_fill h hle, hcheck, List.drop_of_length_le (length_fill (h.mono hle)).le,
      List.append_nil]
  rw [hsealed]
  constructor
  · rintro rfl
    have htake : (fill n cells ++ check (fill n cells)).take n = fill n cells :=
      List.take_left' hfill
    have hlength : (fill n cells ++ check (fill n cells)).length = n + k := by
      rw [List.length_append, hfill, hcheck]
    refine ⟨hlength, ?_, ?_⟩
    · rw [htake, List.drop_left' hfill]
    · rw [← take_eq_fill_iff (hlength ▸ hle) h, htake]
  · rintro ⟨hlength, hdrop, hreads⟩
    have htake := (take_eq_fill_iff (hlength ▸ hle) h).mpr hreads
    rw [← htake, ← hdrop, List.take_append_drop]

section Regions

variable {a b : Nat} {first second : Layout}

/-- Two regions, one after the other. -/
theorem fits_append (hfirst : Fits b a first) (hsecond : Fits n b second) :
    Fits n a (first ++ second) := by
  induction first generalizing a with
  | nil =>
      cases second with
      | nil => exact Nat.le_trans hfirst hsecond
      | cons entry rest => exact ⟨Nat.le_trans hfirst hsecond.1, hsecond.2⟩
  | cons entry rest ih => exact ⟨hfirst.1, ih hfirst.2⟩

/-- A reader reads two regions one after the other. -/
theorem reads_append (hfirst : Fits b a first) (hsecond : Fits n b second) :
    Reads n xs a (first ++ second) ↔ Reads b xs a first ∧ Reads n xs b second := by
  induction first generalizing a with
  | nil =>
      cases second with
      | nil => exact zeroOn_split hfirst hsecond
      | cons entry rest =>
          rw [List.nil_append, Reads, Reads, Reads, zeroOn_split hfirst hsecond.1, and_assoc]
  | cons entry rest ih =>
      rw [List.cons_append, Reads, Reads, ih hfirst.2, and_assoc, and_assoc]

end Regions

section Table

variable {α : Type*} {len base : Nat} {cellsAt : Nat → α → Layout} {entries : List α}

/-- A table: entries of one length, side by side. -/
def table (len : Nat) (cellsAt : Nat → α → Layout) : Nat → List α → Layout
  | _, [] => []
  | base, entry :: rest => cellsAt base entry ++ table len cellsAt (base + len) rest

theorem fits_table (hcells : ∀ base entry, Fits (base + len) base (cellsAt base entry))
    (hle : base + entries.length * len ≤ n) : Fits n base (table len cellsAt base entries) := by
  induction entries generalizing base with
  | nil => exact Nat.le_trans (Nat.le_add_right ..) hle
  | cons entry rest ih =>
      rw [List.length_cons, Nat.succ_mul] at hle
      exact fits_append (hcells base entry) (ih (by omega))

/-- A reader reads a table entry by entry, and nothing but zeros after it. -/
theorem reads_table (hcells : ∀ base entry, Fits (base + len) base (cellsAt base entry))
    (hle : base + entries.length * len ≤ n) :
    Reads n xs base (table len cellsAt base entries) ↔
      (∀ i (hi : i < entries.length), Reads (base + i * len + len) xs (base + i * len)
          (cellsAt (base + i * len) entries[i]))
        ∧ ZeroOn xs (base + entries.length * len) n := by
  induction entries generalizing base with
  | nil => simp [table, Reads]
  | cons entry rest ih =>
      rw [List.length_cons, Nat.succ_mul] at hle
      have hrest : base + len + rest.length * len ≤ n := by omega
      rw [table, reads_append (hcells base entry) (fits_table hcells hrest), ih hrest,
        ← and_assoc, show base + (entry :: rest).length * len = base + len + rest.length * len by
          rw [List.length_cons, Nat.succ_mul]; omega]
      refine and_congr_left fun _ ↦ ?_
      constructor
      · rintro ⟨hfirst, hall⟩ i hi
        cases i with
        | zero => simpa using hfirst
        | succ i =>
            have hnext := hall i (Nat.lt_of_succ_lt_succ hi)
            rwa [show base + len + i * len = base + (i + 1) * len by
              rw [Nat.succ_mul]; omega] at hnext
      · intro hall
        refine ⟨by simpa using hall 0 (Nat.zero_lt_succ _), fun i hi ↦ ?_⟩
        have hnext := hall (i + 1) (Nat.succ_lt_succ hi)
        rwa [show base + (i + 1) * len = base + len + i * len by
          rw [Nat.succ_mul]; omega] at hnext

variable {ε : Type*} {capacity count stop : Nat} {empty : α} {decode : Nat → Except ε α}
  {Admissible : α → Prop} {slots : Vector α capacity} {xs : List UInt8}

/-- Decode the entries in use one after the other; the others are empty. -/
def decodeEntries (capacity count : Nat) (empty : α) (decode : Nat → Except ε α) :
    Except ε (Vector α capacity) :=
  Vector.ofFnM fun index : Fin capacity ↦
    if index.val < count then decode index.val else pure empty

/-- A table is decoded, with zeros after it, exactly if it reads as the entries in use, these
are admissible and the others are empty. -/
theorem decodeEntries_eq_ok
    (hdecode : ∀ index value, decode index = .ok value ↔
      Admissible value ∧ Reads (base + index * len + len) xs (base + index * len)
        (cellsAt (base + index * len) value))
    (hcells : ∀ offset value, Fits (offset + len) offset (cellsAt offset value))
    (hcount : count ≤ capacity) (hstop : base + count * len ≤ stop) :
    decodeEntries capacity count empty decode = .ok slots ∧ ZeroOn xs (base + count * len) stop ↔
      (∀ i : Fin capacity, i.val < count → Admissible slots[i])
        ∧ (∀ i : Fin capacity, count ≤ i.val → slots[i] = empty)
        ∧ Reads stop xs base (table len cellsAt base (slots.toList.take count)) := by
  have hlength : (slots.toList.take count).length = count := by
    rw [List.length_take, Vector.length_toList, Nat.min_eq_left hcount]
  rw [reads_table hcells (by rwa [hlength]), decodeEntries, ofFnM_eq_ok, ← and_assoc, ← and_assoc]
  refine and_congr ?_ (by rw [hlength])
  constructor
  · intro h
    refine ⟨⟨fun i hi ↦ ?_, fun i hi ↦ ?_⟩, fun i hi ↦ ?_⟩
    · have hentry := h i
      rw [if_pos hi, hdecode] at hentry
      exact hentry.1
    · have hentry := h i
      rw [if_neg (Nat.not_lt.mpr hi), pure_eq_ok] at hentry
      exact hentry.symm
    · rw [hlength] at hi
      have hentry := h ⟨i, Nat.lt_of_lt_of_le hi hcount⟩
      rw [if_pos hi, hdecode] at hentry
      simpa using hentry.2
  · rintro ⟨⟨hadmissible, hempty⟩, h⟩ i
    by_cases hi : i.val < count
    · rw [if_pos hi, hdecode]
      have hentry := h i (hlength.symm ▸ hi)
      rw [List.getElem_take, Vector.getElem_toList] at hentry
      exact ⟨hadmissible i hi, hentry⟩
    · rw [if_neg hi, hempty i (Nat.not_lt.mp hi), pure_eq_ok]

end Table

end Layout

end Ksa64.Library
