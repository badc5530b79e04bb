import Mathlib.Data.List.Basic
import Mathlib.Algebra.Order.Ring.Int
import Mathlib.Tactic.Common

/-!
# Little-endian words in byte strings

Byte strings are lists of `UInt8`.  A fixed-layout record is written by overwriting
parts of a zeroed string (`splice`) and read by taking words out at offsets
(`read16`, `read32`).  Two families of facts carry every codec proof:

* writing at the frontier between what is written and what is still zero only
  appends (`splice_frontier`), so a record written front to back is the
  concatenation of its fields;
* a word read at an offset is the one written there (`read32_append`), and
  conversely the bytes at an offset are the encoding of the word read there
  (`drop_eq_le32_append`), so a reader that checks every field accepts one
  spelling only.
-/

namespace Ksa64.Library

/-! ## Words -/

/-- The little-endian bytes of a 16-bit word. -/
def le16 (v : UInt16) : List UInt8 :=
  [UInt8.ofNat v.toNat, UInt8.ofNat (v.toNat / 2 ^ 8)]

/-- The little-endian bytes of a 32-bit word. -/
def le32 (v : UInt32) : List UInt8 :=
  [UInt8.ofNat v.toNat, UInt8.ofNat (v.toNat / 2 ^ 8), UInt8.ofNat (v.toNat / 2 ^ 16),
    UInt8.ofNat (v.toNat / 2 ^ 24)]

/-- The little-endian bytes of a 64-bit word: those of its lower half, then those of its upper
half. -/
def le64 (v : UInt64) : List UInt8 := le32 (UInt32.ofNat v.toNat) ++ le32 (UInt32.ofNat (v.toNat / 2 ^ 32))

/-- The big-endian bytes of a 32-bit word. -/
def be32 (v : UInt32) : List UInt8 := (le32 v).reverse

/-- The 16-bit word with the given little-endian bytes. -/
def word16 (b₀ b₁ : UInt8) : UInt16 := UInt16.ofNat (b₀.toNat + 2 ^ 8 * b₁.toNat)

/-- The 32-bit word with the given little-endian bytes. -/
def word32 (b₀ b₁ b₂ b₃ : UInt8) : UInt32 :=
  UInt32.ofNat (b₀.toNat + 2 ^ 8 * b₁.toNat + 2 ^ 16 * b₂.toNat + 2 ^ 24 * b₃.toNat)

@[simp] theorem length_le16 (v : UInt16) : (le16 v).length = 2 := rfl

@[simp] theorem length_le32 (v : UInt32) : (le32 v).length = 4 := rfl

@[simp] theorem length_le64 (v : UInt64) : (le64 v).length = 8 := rfl

@[simp] theorem length_be32 (v : UInt32) : (be32 v).length = 4 := rfl

/-- The bytes of a word determine it. -/
theorem word16_le16 (v : UInt16) :
    word16 (UInt8.ofNat v.toNat) (UInt8.ofNat (v.toNat / 2 ^ 8)) = v := by
  apply UInt16.toNat_inj.mp
  have hv := v.toNat_lt
  simp only [word16, UInt16.toNat_ofNat', UInt8.toNat_ofNat']
  omega

/-- The bytes of a word determine it. -/
theorem word32_le32 (v : UInt32) :
    word32 (UInt8.ofNat v.toNat) (UInt8.ofNat (v.toNat / 2 ^ 8))
      (UInt8.ofNat (v.toNat / 2 ^ 16)) (UInt8.ofNat (v.toNat / 2 ^ 24)) = v := by
  apply UInt32.toNat_inj.mp
  have hv := v.toNat_lt
  simp only [word32, UInt32.toNat_ofNat', UInt8.toNat_ofNat']
  omega

/-- A word is spelled by its bytes only. -/
theorem le16_word16 (b₀ b₁ : UInt8) : le16 (word16 b₀ b₁) = [b₀, b₁] := by
  have h₀ := b₀.toNat_lt
  have h₁ := b₁.toNat_lt
  simp only [le16, word16, UInt16.toNat_ofNat', List.cons.injEq, and_true,
    ← UInt8.toNat_inj, UInt8.toNat_ofNat']
  refine ⟨?_, ?_⟩ <;> omega

/-- A word is spelled by its bytes only. -/
theorem le32_word32 (b₀ b₁ b₂ b₃ : UInt8) : le32 (word32 b₀ b₁ b₂ b₃) = [b₀, b₁, b₂, b₃] := by
  have h₀ := b₀.toNat_lt
  have h₁ := b₁.toNat_lt
  have h₂ := b₂.toNat_lt
  have h₃ := b₃.toNat_lt
  simp only [le32, word32, UInt32.toNat_ofNat', List.cons.injEq, and_true,
    ← UInt8.toNat_inj, UInt8.toNat_ofNat']
  refine ⟨?_, ?_, ?_, ?_⟩ <;> omega

/-! ## Reading -/

/-- The byte at an offset. -/
def readByte (xs : List UInt8) (off : Nat) : UInt8 := xs.getD off 0

/-- The little-endian 16-bit word at an offset. -/
def read16 (xs : List UInt8) (off : Nat) : UInt16 :=
  word16 (readByte xs off) (readByte xs (off + 1))

/-- The little-endian 32-bit word at an offset. -/
def read32 (xs : List UInt8) (off : Nat) : UInt32 :=
  word32 (readByte xs off) (readByte xs (off + 1)) (readByte xs (off + 2))
    (readByte xs (off + 3))

/-- The little-endian 64-bit word at an offset. -/
def read64 (xs : List UInt8) (off : Nat) : UInt64 :=
  UInt64.ofNat ((read32 xs off).toNat + 2 ^ 32 * (read32 xs (off + 4)).toNat)

/-- The big-endian 32-bit word at an offset. -/
def readBe32 (xs : List UInt8) (off : Nat) : UInt32 :=
  word32 (readByte xs (off + 3)) (readByte xs (off + 2)) (readByte xs (off + 1)) (readByte xs off)

/-- The bytes from `a` up to `b`. -/
def slice (xs : List UInt8) (a b : Nat) : List UInt8 := (xs.take b).drop a

/-- Reading past a prefix reads the rest. -/
theorem readByte_drop (xs : List UInt8) (off k : Nat) :
    readByte xs (off + k) = readByte (xs.drop off) k := by
  simp [readByte, List.getD, List.getElem?_drop]

/-- Reading past a prefix reads the rest. -/
theorem read16_drop (xs : List UInt8) (off k : Nat) :
    read16 xs (off + k) = read16 (xs.drop off) k := by
  simp only [read16, ← readByte_drop, Nat.add_assoc]

/-- Reading past a prefix reads the rest. -/
theorem read32_drop (xs : List UInt8) (off k : Nat) :
    read32 xs (off + k) = read32 (xs.drop off) k := by
  simp only [read32, ← readByte_drop, Nat.add_assoc]

/-- Reading past a prefix reads the rest. -/
theorem read64_drop (xs : List UInt8) (off k : Nat) :
    read64 xs (off + k) = read64 (xs.drop off) k := by
  simp only [read64, ← read32_drop, Nat.add_assoc]

theorem read32_take {xs : List UInt8} {n off : Nat} (h : off + 4 ≤ n) :
    read32 (xs.take n) off = read32 xs off := by
  have hbyte {i : Nat} (hi : i < n) : readByte (xs.take n) i = readByte xs i := by
    simp [readByte, List.getD, hi]
  unfold read32
  rw [hbyte (by omega), hbyte (by omega), hbyte (by omega), hbyte (by omega)]

/-- A slice past a prefix is a slice of the rest. -/
theorem slice_drop (xs : List UInt8) (off a b : Nat) :
    slice xs (off + a) (off + b) = slice (xs.drop off) a b := by
  simp only [slice, List.drop_take, List.drop_drop, Nat.add_sub_add_left]

/-- A string in which no byte differs from zero is a string of zeros. -/
theorem any_ne_zero_eq_false {xs : List UInt8} :
    xs.any (· != 0) = false ↔ xs = List.replicate xs.length 0 := by
  rw [List.eq_replicate_iff, List.any_eq_false]
  simp

/-- A slice has the length of its range. -/
theorem length_slice {xs : List UInt8} {a b : Nat} (hb : b ≤ xs.length) :
    (slice xs a b).length = b - a := by
  simp only [slice, List.length_drop, List.length_take]
  omega

/-- The word at the front is the one written there. -/
@[simp] theorem read16_le16_append (v : UInt16) (xs : List UInt8) :
    read16 (le16 v ++ xs) 0 = v := word16_le16 v

/-- The word at the front is the one written there. -/
@[simp] theorem read32_le32_append (v : UInt32) (xs : List UInt8) :
    read32 (le32 v ++ xs) 0 = v := word32_le32 v

/-- The word at the front is the one written there. -/
@[simp] theorem read64_le64_append (v : UInt64) (xs : List UInt8) :
    read64 (le64 v ++ xs) 0 = v := by
  have hlow : read32 (le64 v ++ xs) 0 = UInt32.ofNat v.toNat := by
    rw [le64, List.append_assoc, read32_le32_append]
  have hhigh : read32 (le64 v ++ xs) (0 + 4) = UInt32.ofNat (v.toNat / 2 ^ 32) := by
    rw [le64, List.append_assoc, Nat.zero_add, ← Nat.add_zero 4, read32_drop,
      List.drop_left' (length_le32 _), read32_le32_append]
  apply UInt64.toNat_inj.mp
  have hv := v.toNat_lt
  rw [read64, hlow, hhigh]
  simp only [UInt64.toNat_ofNat', UInt32.toNat_ofNat']
  omega

/-- The word at the front is the one written there. -/
@[simp] theorem readBe32_be32_append (v : UInt32) (xs : List UInt8) :
    readBe32 (be32 v ++ xs) 0 = v := word32_le32 v

/-- The four bytes at the front spell the word read there. -/
theorem take_eq_be32 {xs : List UInt8} (h : 4 ≤ xs.length) : xs.take 4 = be32 (readBe32 xs 0) := by
  match xs, h with
  | b₀ :: b₁ :: b₂ :: b₃ :: rest, _ =>
      rw [be32, readBe32, le32_word32]
      rfl

/-- The word after a prefix is the one written there. -/
theorem read16_append {pre : List UInt8} {off : Nat} (hoff : off = pre.length) (v : UInt16)
    (post : List UInt8) : read16 (pre ++ (le16 v ++ post)) off = v := by
  rw [← Nat.add_zero off, read16_drop, hoff, List.drop_left]
  exact read16_le16_append v post

/-- The word after a prefix is the one written there. -/
theorem read32_append {pre : List UInt8} {off : Nat} (hoff : off = pre.length) (v : UInt32)
    (post : List UInt8) : read32 (pre ++ (le32 v ++ post)) off = v := by
  rw [← Nat.add_zero off, read32_drop, hoff, List.drop_left]
  exact read32_le32_append v post

/-- The slice after a prefix is what was written there. -/
theorem slice_append {pre ys : List UInt8} {a b : Nat} (ha : a = pre.length)
    (hb : b = pre.length + ys.length) (post : List UInt8) :
    slice (pre ++ (ys ++ post)) a b = ys := by
  subst ha hb
  rw [← Nat.add_zero pre.length, Nat.add_assoc, slice_drop, List.drop_left]
  simp [slice]

/-- The slice at an offset is what lies there. -/
theorem slice_of_drop_eq {xs ys post : List UInt8} {a b : Nat} (h : xs.drop a = ys ++ post)
    (hb : b = a + ys.length) : slice xs a b = ys := by
  rw [hb, ← Nat.add_zero a, Nat.add_assoc, slice_drop, h]
  simp [slice]

/-- Reading past a prefix reads the rest. -/
theorem read16_append_right {pre : List UInt8} {n : Nat} (hn : pre.length = n)
    (post : List UInt8) (off : Nat) : read16 (pre ++ post) (off + n) = read16 post off := by
  rw [Nat.add_comm, read16_drop, ← hn, List.drop_left]

/-- Reading past a prefix reads the rest. -/
theorem read32_append_right {pre : List UInt8} {n : Nat} (hn : pre.length = n)
    (post : List UInt8) (off : Nat) : read32 (pre ++ post) (off + n) = read32 post off := by
  rw [Nat.add_comm, read32_drop, ← hn, List.drop_left]

@[simp] theorem read16_le16_right (v : UInt16) (post : List UInt8) (off : Nat) :
    read16 (le16 v ++ post) (off + 2) = read16 post off := read16_append_right rfl post off

@[simp] theorem read16_le32_right (v : UInt32) (post : List UInt8) (off : Nat) :
    read16 (le32 v ++ post) (off + 4) = read16 post off := read16_append_right rfl post off

@[simp] theorem read32_le16_right (v : UInt16) (post : List UInt8) (off : Nat) :
    read32 (le16 v ++ post) (off + 2) = read32 post off := read32_append_right rfl post off

@[simp] theorem read32_le32_right (v : UInt32) (post : List UInt8) (off : Nat) :
    read32 (le32 v ++ post) (off + 4) = read32 post off := read32_append_right rfl post off

/-- The two bytes at an offset spell the word read there. -/
theorem drop_eq_le16_append {xs : List UInt8} {off : Nat} (h : off + 2 ≤ xs.length) :
    xs.drop off = le16 (read16 xs off) ++ xs.drop (off + 2) := by
  have h₀ : off < xs.length := by omega
  have h₁ : off + 1 < xs.length := by omega
  rw [read16, le16_word16, List.drop_eq_getElem_cons h₀, List.drop_eq_getElem_cons h₁]
  simp [readByte, h₀, h₁]

/-- The four bytes at an offset spell the word read there. -/
theorem drop_eq_le32_append {xs : List UInt8} {off : Nat} (h : off + 4 ≤ xs.length) :
    xs.drop off = le32 (read32 xs off) ++ xs.drop (off + 4) := by
  have h₀ : off < xs.length := by omega
  have h₁ : off + 1 < xs.length := by omega
  have h₂ : off + 2 < xs.length := by omega
  have h₃ : off + 3 < xs.length := by omega
  rw [read32, le32_word32, List.drop_eq_getElem_cons h₀, List.drop_eq_getElem_cons h₁,
    List.drop_eq_getElem_cons h₂, List.drop_eq_getElem_cons h₃]
  simp [readByte, h₀, h₁, h₂, h₃]

/-- The eight bytes at an offset spell the word read there. -/
theorem drop_eq_le64_append {xs : List UInt8} {off : Nat} (h : off + 8 ≤ xs.length) :
    xs.drop off = le64 (read64 xs off) ++ xs.drop (off + 8) := by
  have hlow := (read32 xs off).toNat_lt
  have hhigh := (read32 xs (off + 4)).toNat_lt
  have hword : le64 (read64 xs off) = le32 (read32 xs off) ++ le32 (read32 xs (off + 4)) := by
    have hsum : (read64 xs off).toNat
        = (read32 xs off).toNat + 2 ^ 32 * (read32 xs (off + 4)).toNat := by
      rw [read64, UInt64.toNat_ofNat']
      omega
    rw [le64, hsum]
    congr 2
    · apply UInt32.toNat_inj.mp
      rw [UInt32.toNat_ofNat']
      omega
    · apply UInt32.toNat_inj.mp
      rw [UInt32.toNat_ofNat']
      omega
  rw [hword, drop_eq_le32_append (by omega : off + 4 ≤ xs.length),
    drop_eq_le32_append (by omega : off + 4 + 4 ≤ xs.length), List.append_assoc]

/-- The bytes from an offset on are the slice up to `b` and the bytes from `b` on. -/
theorem drop_eq_slice_append {xs : List UInt8} {a b : Nat} (hab : a ≤ b) :
    xs.drop a = slice xs a b ++ xs.drop b := by
  have hb : b = a + (b - a) := by omega
  rw [slice, List.drop_take, hb, Nat.add_sub_cancel_left, ← List.drop_drop,
    List.take_append_drop]

/-! ## Writing -/

/-- Overwrite the part of a string that starts at an offset. -/
def splice {α : Type*} (xs : List α) (off : Nat) (ys : List α) : List α :=
  xs.take off ++ ys ++ xs.drop (off + ys.length)

/-- Overwriting inside a string keeps its length. -/
theorem length_splice {α : Type*} {xs ys : List α} {off : Nat} (h : off + ys.length ≤ xs.length) :
    (splice xs off ys).length = xs.length := by
  simp only [splice, List.length_append, List.length_take, List.length_drop]
  omega

/-- Writing at the frontier of a filled prefix appends to the prefix. -/
theorem splice_frontier {α : Type*} {pre ys : List α} {off n : Nat} {z : α}
    (hoff : off = pre.length) :
    splice (pre ++ List.replicate n z) off ys =
      (pre ++ ys) ++ List.replicate (n - ys.length) z := by
  subst hoff
  simp [splice, List.drop_append]

/-- Overwriting behind a prefix. -/
theorem splice_append_right {α : Type*} {pre xs ys : List α} {off d : Nat}
    (hoff : off = pre.length + d) : splice (pre ++ xs) off ys = pre ++ splice xs d ys := by
  subst hoff
  rw [splice, splice, List.take_length_add_append, Nat.add_assoc, List.drop_length_add_append,
    List.append_assoc, List.append_assoc, List.append_assoc]

/-- Overwriting the beginning. -/
theorem splice_zero {α : Type*} (xs ys : List α) : splice xs 0 ys = ys ++ xs.drop ys.length := by
  rw [splice, List.take_zero, List.nil_append, Nat.zero_add]

/-- Overwriting a prefix. -/
theorem splice_zero_append {α : Type*} {xs ys zs : List α} (h : ys.length = xs.length) :
    splice (xs ++ zs) 0 ys = ys ++ zs := by
  rw [splice_zero, h, List.drop_left]

/-- What was written lies at its offset. -/
theorem take_splice {α : Type*} {xs ys : List α} {off : Nat} (h : off ≤ xs.length) :
    (splice xs off ys).take (off + ys.length) = xs.take off ++ ys := by
  have hlen : (xs.take off ++ ys).length = off + ys.length := by simp [h]
  rw [splice, ← hlen, List.take_left]

end Ksa64.Library
