import Ksa64.Library.Layout

/-!
# What the codecs share

The error type of the fixed-layout codecs and their CRC-32.
-/

namespace Ksa64.Interface

inductive CodecError where
  | length
  | checksum
  | reserved
  | flags
  | enum
  | sequence
deriving DecidableEq, Repr

/-- One bit of the CRC: shift right and, if a one falls out, subtract the polynomial. -/
def crc32Bit (c : UInt32) : UInt32 := (c >>> 1) ^^^ (0xedb88320 &&& (0 - (c &&& 1)))

def crc32Byte (c : UInt32) (byte : UInt8) : UInt32 :=
  Nat.repeat crc32Bit 8 (c ^^^ byte.toUInt32)

def crc32Ieee (bytes : List UInt8) : UInt32 := ~~~(bytes.foldl crc32Byte 0xffffffff)

open Ksa64.Library

/-- A record whose last four bytes, from `n` on, are the checksum of the bytes before. -/
def sealRecord (n : Nat) (cells : Layout) : List UInt8 :=
  let output := Layout.fill (n + 4) cells
  splice output n (le32 (crc32Ieee (output.take n)))

/-- A string is the sealed record exactly when it has the length, the checksum is right and
the rest reads as the cells. -/
theorem eq_sealRecord_iff {n : Nat} {cells : Layout} {xs : List UInt8}
    (h : Layout.Fits n 0 cells) :
    xs = sealRecord n cells ↔
      xs.length = n + 4 ∧ crc32Ieee (slice xs 0 n) = read32 xs n ∧ Layout.Reads n xs 0 cells := by
  refine (Layout.eq_sealed_iff (fun ys ↦ length_le32 (crc32Ieee ys)) h).trans ?_
  refine and_congr_right fun hlength ↦ and_congr_left' ?_
  -- Behind the record stand the four bytes of one word.
  have hdrop : xs.drop n = le32 (read32 xs n) := by
    rw [drop_eq_le32_append hlength.ge, List.drop_of_length_le hlength.le, List.append_nil]
  rw [hdrop, Cell.le32_inj, eq_comm]
  rfl

/-- The front of a string is the sealed record exactly when the checksum is right and the rest
reads as the cells. -/
theorem take_eq_sealRecord_iff {n : Nat} {cells : Layout} {xs : List UInt8}
    (hlen : n + 4 ≤ xs.length) (h : Layout.Fits n 0 cells) :
    xs.take (n + 4) = sealRecord n cells ↔
      crc32Ieee (slice xs 0 n) = read32 xs n ∧ Layout.Reads n xs 0 cells := by
  have hle : n ≤ n + 4 := Nat.le_add_right n 4
  have htake : (xs.take (n + 4)).take n = xs.take n := by
    rw [List.take_take, Nat.min_eq_left hle]
  have hfront : n ≤ (xs.take (n + 4)).length := by
    rw [List.length_take, Nat.min_eq_left hlen]
    exact hle
  have hslice : slice (xs.take (n + 4)) 0 n = slice xs 0 n := congrArg (List.drop 0) htake
  have hreads : Layout.Reads n (xs.take (n + 4)) 0 cells ↔ Layout.Reads n xs 0 cells := by
    rw [← Layout.reads_take hfront h, htake, Layout.reads_take (Nat.le_trans hle hlen) h]
  rw [eq_sealRecord_iff h, hslice, hreads, read32_take (Nat.le_refl _),
    and_iff_right (by rw [List.length_take, Nat.min_eq_left hlen])]

end Ksa64.Interface
