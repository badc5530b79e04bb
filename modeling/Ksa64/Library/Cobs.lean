import Mathlib.Algebra.Order.Ring.Int
import Mathlib.Tactic.Common

/-!
# Consistent overhead byte stuffing

A string is cut at its zeros, and in runs of 254 bytes without one, into blocks; each block
is written behind its length plus one.  What is written has no zero, so a zero can end it
(`zero_notMem_encode`), it is hardly longer than the string (`length_encode_le`), and
`decode` takes it apart again (`decode_encode`).
-/

namespace Ksa64.Library.Cobs

/-- The byte in front of a block. -/
def code (block : List UInt8) : UInt8 := UInt8.ofNat (block.length + 1)

/-- Write the string behind a block that has been begun. -/
def encodeFrom : List UInt8 → List UInt8 → List UInt8
  | block, [] => code block :: block
  | block, byte :: rest =>
      if byte = 0 then code block :: (block ++ encodeFrom [] rest)
      else if block.length = 253 then 255 :: (block ++ byte :: encodeFrom [] rest)
      else encodeFrom (block ++ [byte]) rest

def encode (xs : List UInt8) : List UInt8 := encodeFrom [] xs

/-- Take the blocks apart.  A zero stands between two blocks unless the first is full. -/
def decode : List UInt8 → Option (List UInt8)
  | [] => some []
  | byte :: rest =>
      let n := byte.toNat - 1
      if byte = 0 ∨ rest.length < n then none
      else
        let after := rest.drop n
        (decode after).map fun xs ↦
          rest.take n ++ (if byte ≠ 255 ∧ after ≠ [] then 0 :: xs else xs)
termination_by xs => xs.length
decreasing_by
  rw [List.length_drop, List.length_cons]
  omega

section Encode

variable {block xs : List UInt8}

theorem encodeFrom_ne_nil (block xs : List UInt8) : encodeFrom block xs ≠ [] := by
  induction xs generalizing block with
  | nil => exact nofun
  | cons byte rest ih =>
      rw [encodeFrom]
      split_ifs
      · exact nofun
      · exact nofun
      · exact ih _

/-- The block that has been begun is written, and its code. -/
theorem length_lt_encodeFrom (block xs : List UInt8) : block.length < (encodeFrom block xs).length := by
  induction xs generalizing block with
  | nil => exact Nat.lt_succ_self _
  | cons byte rest ih =>
      rw [encodeFrom]
      split_ifs
      · rw [List.length_cons, List.length_append]
        omega
      · rw [List.length_cons, List.length_append]
        omega
      · have hnext := ih (block ++ [byte])
        rw [List.length_append, List.length_singleton] at hnext
        omega

theorem toNat_code (h : block.length ≤ 253) : (code block).toNat = block.length + 1 := by
  rw [code, UInt8.toNat_ofNat']
  omega

theorem code_ne_zero (h : block.length ≤ 253) : code block ≠ 0 := by
  intro hzero
  have hnat := toNat_code h
  rw [hzero] at hnat
  exact absurd hnat.symm (Nat.succ_ne_zero _)

theorem code_ne_full (h : block.length ≤ 253) : code block ≠ 255 := by
  intro hfull
  have hnat := toNat_code h
  rw [hfull] at hnat
  change 255 = block.length + 1 at hnat
  omega

/-- One byte more in the block. -/
theorem code_append (block : List UInt8) (byte : UInt8) : code (block ++ [byte]) = code block + 1 := by
  rw [code, code, List.length_append, List.length_singleton, UInt8.ofNat_add _ 1]
  rfl

/-- The code is the last one when the block is full. -/
theorem code_add_one_eq_full (h : block.length ≤ 253) : code block + 1 = 255 ↔ block.length = 253 := by
  have hcode := toNat_code h
  rw [← UInt8.toNat_inj, UInt8.toNat_add]
  change (_ + 1) % 256 = 255 ↔ _
  omega

/-- What is written has no zero. -/
theorem zero_notMem_encodeFrom (h : block.length ≤ 253) (hblock : (0 : UInt8) ∉ block) :
    (0 : UInt8) ∉ encodeFrom block xs := by
  induction xs generalizing block with
  | nil => exact List.not_mem_cons_of_ne_of_not_mem (code_ne_zero h).symm hblock
  | cons byte rest ih =>
      have hrest := @ih [] (Nat.zero_le _) List.not_mem_nil
      rw [encodeFrom]
      split_ifs with hzero hfull
      · simp [(code_ne_zero h).symm, hblock, hrest]
      · simp [hblock, hrest, Ne.symm hzero]
      · refine ih ?_ ?_
        · rw [List.length_append, List.length_singleton]
          omega
        · simp [hblock, Ne.symm hzero]

theorem zero_notMem_encode (xs : List UInt8) : (0 : UInt8) ∉ encode xs :=
  zero_notMem_encodeFrom (Nat.zero_le _) List.not_mem_nil

/-- One byte more, and one for each run of 254. -/
theorem length_encodeFrom_le (h : block.length ≤ 253) :
    (encodeFrom block xs).length ≤
      block.length + xs.length + 1 + (block.length + xs.length) / 254 := by
  induction xs generalizing block with
  | nil =>
      rw [encodeFrom, List.length_cons, List.length_nil]
      omega
  | cons byte rest ih =>
      have hrest := @ih [] (Nat.zero_le _)
      rw [List.length_nil] at hrest
      rw [encodeFrom, List.length_cons]
      split_ifs with hzero hfull
      · rw [List.length_cons, List.length_append]
        omega
      · rw [List.length_cons, List.length_append, List.length_cons]
        omega
      · have hnext := @ih (block ++ [byte]) (by
          rw [List.length_append, List.length_singleton]
          omega)
        rw [List.length_append, List.length_singleton] at hnext
        rwa [show block.length + (rest.length + 1) = block.length + 1 + rest.length by omega]

theorem length_encode_le (xs : List UInt8) :
    (encode xs).length ≤ xs.length + 1 + xs.length / 254 := by
  have h := @length_encodeFrom_le [] xs (Nat.zero_le _)
  rwa [List.length_nil, Nat.zero_add] at h

/-- A block is taken apart. -/
theorem decode_block {byte : UInt8} {after : List UInt8} (hbyte : byte ≠ 0)
    (hlength : byte.toNat - 1 = block.length) :
    decode (byte :: (block ++ after)) = (decode after).map fun xs ↦
      block ++ (if byte ≠ 255 ∧ after ≠ [] then 0 :: xs else xs) := by
  rw [decode]
  dsimp only
  rw [hlength, List.drop_left, List.take_left, if_neg]
  rw [not_or, List.length_append]
  exact ⟨hbyte, by omega⟩

/-- What is written is read back. -/
theorem decode_encodeFrom (h : block.length ≤ 253) :
    decode (encodeFrom block xs) = some (block ++ xs) := by
  induction xs generalizing block with
  | nil =>
      have hcode := toNat_code h
      rw [encodeFrom, ← List.append_nil block, decode_block, List.append_nil, decode]
      · simp
      · rw [List.append_nil]
        exact code_ne_zero h
      · rw [List.append_nil]
        omega
  | cons byte rest ih =>
      have hcode := toNat_code h
      have hrest := @ih [] (Nat.zero_le _)
      rw [encodeFrom]
      split_ifs with hzero hfull
      · rw [decode_block (code_ne_zero h) (by omega), hrest, Option.map_some,
          if_pos ⟨code_ne_full h, encodeFrom_ne_nil _ _⟩, hzero, List.nil_append]
      · rw [List.append_cons block byte (encodeFrom [] rest), decode_block (by decide), hrest, Option.map_some, if_neg]
        · rw [List.nil_append, List.append_assoc, List.singleton_append]
        · exact fun hne ↦ hne.1 rfl
        · rw [List.length_append, hfull]
          rfl
      · rw [ih, List.append_assoc, List.singleton_append]
        rw [List.length_append, List.length_singleton]
        omega

theorem decode_encode (xs : List UInt8) : decode (encode xs) = some xs :=
  decode_encodeFrom (Nat.zero_le _)

end Encode

end Ksa64.Library.Cobs
