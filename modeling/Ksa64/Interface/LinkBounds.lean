import Ksa64.Interface.Link

/-!
# Buffers of stuffed frames

The encoder and the decoder index their buffers, and an index beyond the end of a buffer would be a
panic.  There is none, whatever the input and the buffer are.  What an encoder's buffer is too short
for is a capacity error, and what a decoder's is too short for is one only if the first byte without
a place is a zero.
-/

namespace Ksa64.Interface

open Ksa64.Library

/-! ## Indices -/

/-- A byte written at an index; `none` is a panic. -/
def writeAt (out : List UInt8) (index : Nat) (byte : UInt8) : Option (List UInt8) :=
  if index < out.length then some (out.set index byte) else none

/-- The encoder with its indices checked. -/
def cobsEncodeStrictLoop : List UInt8 → List UInt8 → Nat → Nat → UInt8 →
    Option (Except LinkCodecError (List UInt8))
  | [], out, w, mark, code =>
      if out.length ≤ mark ∨ out.length ≤ w then some (.error .capacity)
      else do
        let out ← writeAt out mark code
        let out ← writeAt out w 0
        some (.ok (out.take (w + 1)))
  | byte :: rest, out, w, mark, code =>
      if byte = 0 then
        if out.length ≤ mark then some (.error .capacity)
        else do
          let out ← writeAt out mark code
          cobsEncodeStrictLoop rest out (w + 1) w 1
      else
        if out.length ≤ w then some (.error .capacity)
        else do
          let out ← writeAt out w byte
          if code + 1 = 0xff then do
            let out ← writeAt out mark (code + 1)
            cobsEncodeStrictLoop rest out (w + 2) (w + 1) 1
          else cobsEncodeStrictLoop rest out (w + 1) mark (code + 1)

def cobsEncodeStrict (input out : List UInt8) : Option (Except LinkCodecError (List UInt8)) :=
  if out = [] then some (.error .capacity) else cobsEncodeStrictLoop input out 1 0 1

/-- A slice of some length from the front; `none` is a panic. -/
def sliceFront (bytes : List UInt8) (n : Nat) : Option (List UInt8) :=
  if n ≤ bytes.length then some (bytes.take n) else none

/-- Bytes copied behind those written, into a buffer of the capacity; `none` is a panic. -/
def copyInto (capacity : Nat) (out bytes : List UInt8) : Option (List UInt8) :=
  if out.length + bytes.length ≤ capacity then some (out ++ bytes) else none

/-- The decoder with its indices checked. -/
def cobsDecodeStrictLoop (capacity : Nat) : List UInt8 → List UInt8 →
    Option (Except LinkCodecError (List UInt8))
  | [], out => some (.ok out)
  | code :: rest, out =>
      let n := code.toNat - 1
      if code = 0 ∨ rest.length < n ∨ capacity < out.length + n then some (.error .cobs)
      else do
        let block ← sliceFront rest n
        let out ← copyInto capacity out block
        let after := rest.drop n
        if code ≠ 0xff ∧ after ≠ [] then
          if capacity ≤ out.length then some (.error .capacity)
          else do
            let out ← copyInto capacity out [0]
            cobsDecodeStrictLoop capacity after out
        else cobsDecodeStrictLoop capacity after out
termination_by input => input.length
decreasing_by
  all_goals
    rw [List.length_drop, List.length_cons]
    omega

def cobsDecodeStrict (input : List UInt8) (capacity : Nat) :
    Option (Except LinkCodecError (List UInt8)) :=
  if input = [] ∨ input.getLast? ≠ some 0 then some (.error .cobs)
  else cobsDecodeStrictLoop capacity input.dropLast []

section Indices

variable {input out : List UInt8} {w mark capacity : Nat} {code : UInt8}

theorem writeAt_eq_some {index : Nat} {byte : UInt8} (h : index < out.length) :
    writeAt out index byte = some (out.set index byte) := if_pos h

/-- The place for the code is before the place of the next byte, and that is checked. -/
theorem cobsEncodeStrictLoop_eq (h : mark < w) :
    cobsEncodeStrictLoop input out w mark code = some (cobsEncodeLoop input out w mark code) := by
  induction input generalizing out w mark code with
  | nil =>
    unfold cobsEncodeStrictLoop cobsEncodeLoop
    by_cases hfull : out.length ≤ mark ∨ out.length ≤ w
    · rw [if_pos hfull, reject_bind_of_fails hfull]
    · rw [if_neg hfull, reject_bind hfull]
      obtain ⟨hmark, hw⟩ := not_or.mp hfull
      rw [writeAt_eq_some (not_le.mp hmark), Option.bind_eq_bind, Option.bind_some,
        writeAt_eq_some (by rw [List.length_set]; exact not_le.mp hw)]
      rfl
  | cons byte rest ih =>
    unfold cobsEncodeStrictLoop cobsEncodeLoop
    by_cases hzero : byte = 0
    · rw [if_pos hzero, if_pos hzero]
      by_cases hfull : out.length ≤ mark
      · rw [if_pos hfull, reject_bind_of_fails hfull]
      · rw [if_neg hfull, reject_bind hfull, writeAt_eq_some (not_le.mp hfull),
          Option.bind_eq_bind, Option.bind_some]
        exact ih (Nat.lt_succ_self w)
    · rw [if_neg hzero, if_neg hzero]
      by_cases hfull : out.length ≤ w
      · rw [if_pos hfull, reject_bind_of_fails hfull]
      · rw [if_neg hfull, reject_bind hfull, writeAt_eq_some (not_le.mp hfull),
          Option.bind_eq_bind, Option.bind_some]
        split_ifs with hlast
        · rw [writeAt_eq_some (by rw [List.length_set]; omega), Option.bind_some]
          exact ih (Nat.lt_succ_self (w + 1))
        · exact ih (h.trans (Nat.lt_succ_self w))

theorem cobsEncodeStrict_eq : cobsEncodeStrict input out = some (cobsEncode input out) := by
  unfold cobsEncodeStrict cobsEncode
  split_ifs with hempty
  · rw [reject_bind_of_fails hempty]
  · rw [reject_bind hempty]
    exact cobsEncodeStrictLoop_eq Nat.zero_lt_one

theorem copyInto_eq_some {bytes : List UInt8} (h : out.length + bytes.length ≤ capacity) :
    copyInto capacity out bytes = some (out ++ bytes) := if_pos h

/-- A block that is there and has room is copied. -/
theorem cobsDecodeStrictLoop_block {rest : List UInt8} {n : Nat} (hn : n = code.toNat - 1)
    (h : ¬(code = 0 ∨ rest.length < n ∨ capacity < out.length + n)) :
    cobsDecodeStrictLoop capacity (code :: rest) out
      = if code ≠ 0xff ∧ rest.drop n ≠ [] then
          if capacity ≤ out.length + n then some (.error .capacity)
          else cobsDecodeStrictLoop capacity (rest.drop n) (out ++ rest.take n ++ [0])
        else cobsDecodeStrictLoop capacity (rest.drop n) (out ++ rest.take n) := by
  subst hn
  have hroom := h
  rw [not_or, not_or, not_lt, not_lt] at hroom
  obtain ⟨-, hlong, hfits⟩ := hroom
  have htake : (rest.take (code.toNat - 1)).length = code.toNat - 1 :=
    List.length_take_of_le hlong
  have hslice : sliceFront rest (code.toNat - 1) = some (rest.take (code.toNat - 1)) := if_pos hlong
  rw [cobsDecodeStrictLoop]
  dsimp only
  rw [if_neg h, hslice, Option.bind_eq_bind, Option.bind_some,
    copyInto_eq_some (by rw [htake]; exact hfits), Option.bind_some, List.length_append, htake]
  split_ifs with hzero hfull
  · rfl
  · rw [copyInto_eq_some, Option.bind_some]
    rw [List.length_append, htake, List.length_singleton]
    omega
  · rfl

/-- Each block and each zero is checked before it is copied. -/
theorem cobsDecodeStrictLoop_eq :
    cobsDecodeStrictLoop capacity input out = some (cobsDecodeLoop capacity input out) := by
  fun_induction cobsDecodeLoop capacity input out
  case case1 =>
    rw [cobsDecodeStrictLoop]
    rfl
  case case2 hbad =>
    rw [cobsDecodeStrictLoop]
    dsimp only
    rw [if_pos hbad]
    rfl
  case case3 hgood after hzero hfull =>
    rw [cobsDecodeStrictLoop_block rfl hgood, if_pos hzero, if_pos hfull]
    rfl
  case case4 hgood after hzero hroom ih =>
    rw [cobsDecodeStrictLoop_block rfl hgood, if_pos hzero, if_neg hroom]
    exact ih
  case case5 hgood after hnone ih =>
    rw [cobsDecodeStrictLoop_block rfl hgood, if_neg hnone]
    exact ih

theorem cobsDecodeStrict_eq : cobsDecodeStrict input capacity = some (cobsDecode input capacity) := by
  unfold cobsDecodeStrict cobsDecode
  split_ifs with hunended
  · rw [reject_bind_of_fails hunended]
  · rw [reject_bind hunended]
    exact cobsDecodeStrictLoop_eq

end Indices

/-! ## Buffers that are too short -/

section Short

variable {input out done block left : List UInt8} {w mark capacity : Nat} {code : UInt8}

/-- Without a place for the code nothing more is written. -/
theorem cobsEncodeLoop_full (hmark : out.length ≤ mark) (hw : out.length ≤ w) :
    cobsEncodeLoop input out w mark code = .error .capacity := by
  cases input with
  | nil =>
    unfold cobsEncodeLoop
    exact reject_bind_of_fails (.inl hmark) _
  | cons byte rest =>
    unfold cobsEncodeLoop
    split_ifs
    · exact reject_bind_of_fails hmark _
    · exact reject_bind_of_fails hw _
    · exact reject_bind_of_fails hw _

/-- An encoder whose buffer has no place for all the blocks and the zero finds out. -/
theorem cobsEncodeLoop_short (h : CobsBuffer out w mark code done block left)
    (hshort : block.length + left.length < (Cobs.encodeFrom block input).length) :
    cobsEncodeLoop input out w mark code = .error .capacity := by
  -- on what is left to read; as long as there is a place for the code, the buffer is in parts
  induction input generalizing out done block left w mark code with
  | nil =>
    obtain ⟨⟨x, rfl⟩, rfl, rfl, rfl, -⟩ := h
    rw [Cobs.encodeFrom, List.length_cons] at hshort
    obtain rfl : left = [] := List.length_eq_zero_iff.mp (by omega)
    unfold cobsEncodeLoop
    refine reject_bind_of_fails (.inr ?_) _
    simp
    omega
  | cons byte rest ih =>
    obtain ⟨⟨x, rfl⟩, rfl, rfl, rfl, hblock⟩ := h
    rw [Cobs.encodeFrom] at hshort
    simp only [cobsEncodeLoop, Cobs.code_add_one_eq_full hblock]
    split_ifs at hshort ⊢ with hzero hfull
    · rw [List.length_cons, List.length_append] at hshort
      rw [reject_bind (by simp), set_append_cons rfl]
      obtain _ | ⟨y, left⟩ := left
      · exact cobsEncodeLoop_full (by simp; omega) (by simp; omega)
      · rw [List.length_cons] at hshort
        have hbuffer : CobsBuffer (done ++ Cobs.code block :: (block ++ y :: left))
            (done.length + 1 + block.length + 1) (done.length + 1 + block.length) 1
            (done ++ Cobs.code block :: block) [] left :=
          ⟨⟨y, by simp⟩, by simp; omega, by simp; omega, rfl, Nat.zero_le _⟩
        exact ih hbuffer (by rw [List.length_nil]; omega)
    · rw [List.length_cons, List.length_append, List.length_cons] at hshort
      obtain _ | ⟨y, left⟩ := left
      · exact reject_bind_of_fails (by simp; omega) _
      rw [reject_bind (by simp; omega), ← List.cons_append, ← List.append_assoc,
        set_append_cons (by simp; omega), List.append_assoc, List.cons_append, set_append_cons rfl,
        (Cobs.code_add_one_eq_full hblock).mpr hfull]
      obtain _ | ⟨z, left⟩ := left
      · exact cobsEncodeLoop_full (by simp; omega) (by simp; omega)
      · rw [List.length_cons, List.length_cons] at hshort
        have hbuffer : CobsBuffer (done ++ 255 :: (block ++ byte :: z :: left))
            (done.length + 1 + block.length + 2) (done.length + 1 + block.length + 1) 1
            (done ++ 255 :: (block ++ [byte])) [] left :=
          ⟨⟨z, by simp⟩, by simp; omega, by simp; omega, rfl, Nat.zero_le _⟩
        exact ih hbuffer (by rw [List.length_nil]; omega)
    · obtain _ | ⟨y, left⟩ := left
      · exact reject_bind_of_fails (by simp; omega) _
      have hbuffer : CobsBuffer (done ++ x :: block ++ byte :: left)
          (done.length + 1 + block.length + 1) done.length (Cobs.code block + 1) done
          (block ++ [byte]) left :=
        ⟨⟨x, by simp⟩, by simp; omega, rfl, (Cobs.code_append block byte).symm, by simp; omega⟩
      rw [List.length_cons] at hshort
      rw [reject_bind (by simp; omega), ← List.cons_append, ← List.append_assoc,
        set_append_cons (by simp; omega)]
      exact ih hbuffer (by simp; omega)

theorem cobsEncode_short (h : out.length ≤ (Cobs.encode input).length) :
    cobsEncode input out = .error .capacity := by
  obtain _ | ⟨x, left⟩ := out
  · rw [cobsEncode, reject_bind_of_fails rfl]
  · rw [cobsEncode, reject_bind (List.cons_ne_nil x left)]
    have hbuffer : CobsBuffer (x :: left) 1 0 1 [] [] left :=
      ⟨⟨x, rfl⟩, rfl, rfl, rfl, Nat.zero_le _⟩
    rw [List.length_cons] at h
    refine cobsEncodeLoop_short hbuffer ?_
    rw [List.length_nil, Nat.zero_add]
    exact h

/-- A block is taken apart, if it fits. -/
theorem cobsDecodeLoop_block {after : List UInt8} (hcode : code ≠ 0)
    (hlength : code.toNat - 1 = block.length) :
    cobsDecodeLoop capacity (code :: (block ++ after)) out
      = if capacity < out.length + block.length then .error .cobs
        else if code ≠ 0xff ∧ after ≠ [] then
          if capacity ≤ out.length + block.length then .error .capacity
          else cobsDecodeLoop capacity after (out ++ block ++ [0])
        else cobsDecodeLoop capacity after (out ++ block) := by
  have hbad : (code = 0 ∨ (block ++ after).length < block.length
      ∨ capacity < out.length + block.length) ↔ capacity < out.length + block.length := by
    rw [or_iff_right hcode, or_iff_right]
    rw [List.length_append]
    omega
  rw [cobsDecodeLoop]
  dsimp only
  rw [hlength, List.drop_left, List.take_left]
  by_cases hlong : capacity < out.length + block.length
  · rw [if_pos (hbad.mpr hlong), if_pos hlong]
    rfl
  · rw [if_neg (mt hbad.mp hlong), if_neg hlong]
    rfl

/-- The decoder's error, if its buffer has no place for the byte. -/
def shortError (byte : Option UInt8) : LinkCodecError := if byte = some 0 then .capacity else .cobs

/-- A byte of a block is not a zero. -/
theorem shortError_block {block : List UInt8} (xs : List UInt8) {index : Nat}
    (hzero : (0 : UInt8) ∉ block) (h : index < block.length) :
    shortError (block ++ xs)[index]? = .cobs := by
  rw [List.getElem?_append_left h, List.getElem?_eq_getElem h]
  refine if_neg fun hbyte ↦ hzero ?_
  rw [← Option.some_inj.mp hbyte]
  exact List.getElem_mem h

/-- A decoder whose buffer is too short stops at the first byte without a place: at a zero with a
capacity error, in a block as if the block were malformed. -/
theorem cobsDecodeLoop_short (hblock : block.length ≤ 253) (hnone : (0 : UInt8) ∉ block)
    {xs : List UInt8} (hout : out.length ≤ capacity)
    (hshort : capacity < out.length + (block ++ xs).length) :
    cobsDecodeLoop capacity (Cobs.encodeFrom block xs) out
      = .error (shortError (block ++ xs)[capacity - out.length]?) := by
  induction xs generalizing block out with
  | nil =>
    rw [List.append_nil] at hshort ⊢
    have hcode := Cobs.toNat_code hblock
    have herror := shortError_block [] hnone (show capacity - out.length < block.length by omega)
    rw [List.append_nil] at herror
    rw [Cobs.encodeFrom, ← List.append_nil block, cobsDecodeLoop_block, List.append_nil,
      if_pos hshort, herror]
    · rw [List.append_nil]
      exact Cobs.code_ne_zero hblock
    · rw [List.append_nil, hcode]
      rfl
  | cons byte rest ih =>
    have hcode := Cobs.toNat_code hblock
    rw [List.length_append, List.length_cons] at hshort
    rw [Cobs.encodeFrom]
    split_ifs with hzero hfull
    · rw [cobsDecodeLoop_block (Cobs.code_ne_zero hblock) (by omega)]
      by_cases hlong : capacity < out.length + block.length
      · rw [if_pos hlong, shortError_block _ hnone (by omega)]
      rw [if_neg hlong, if_pos ⟨Cobs.code_ne_full hblock, Cobs.encodeFrom_ne_nil _ _⟩]
      by_cases hedge : capacity ≤ out.length + block.length
      · have hindex : capacity - out.length = block.length := by omega
        rw [if_pos hedge, hindex, List.getElem?_append_right le_rfl, Nat.sub_self, hzero]
        rfl
      · have hindex : capacity - out.length = block.length + 1
            + (capacity - (out ++ block ++ [0]).length) := by
          simp
          omega
        rw [if_neg hedge, ih (Nat.zero_le _) List.not_mem_nil (by simp; omega) (by simp; omega),
          List.nil_append, hindex, List.getElem?_append_right (by omega)]
        congr 2
        generalize capacity - (out ++ block ++ [0]).length = k
        rw [show block.length + 1 + k - block.length = k + 1 by omega, List.getElem?_cons_succ]
    · have hnone' : (0 : UInt8) ∉ block ++ [byte] := by
        simp [hnone, Ne.symm hzero]
      rw [List.append_cons block byte (Cobs.encodeFrom [] rest), List.append_cons block byte rest,
        cobsDecodeLoop_block (by decide) (by rw [List.length_append, hfull]; rfl)]
      by_cases hlong : capacity < out.length + (block ++ [byte]).length
      · rw [if_pos hlong, shortError_block _ hnone' (by omega)]
      · have hindex : capacity - out.length = (block ++ [byte]).length
            + (capacity - (out ++ (block ++ [byte])).length) := by
          simp only [List.length_append] at hlong ⊢
          omega
        rw [if_neg hlong, if_neg (fun hne ↦ hne.1 rfl), ih (Nat.zero_le _) List.not_mem_nil
          (by simp at hlong ⊢; omega) (by simp; omega), List.nil_append, hindex,
          List.getElem?_append_right (Nat.le_add_right _ _), Nat.add_sub_cancel_left]
    · have hnone' : (0 : UInt8) ∉ block ++ [byte] := by
        simp [hnone, Ne.symm hzero]
      rw [ih (by rw [List.length_append, List.length_singleton]; omega) hnone' hout
        (by simp; omega), List.append_assoc, List.singleton_append]

theorem cobsDecode_short {xs : List UInt8} (h : capacity < xs.length) :
    cobsDecode (Cobs.encode xs ++ [0]) capacity = .error (shortError xs[capacity]?) := by
  rw [cobsDecode, reject_bind (by simp), List.dropLast_concat]
  exact cobsDecodeLoop_short (Nat.zero_le _) List.not_mem_nil (Nat.zero_le _) (by simpa using h)

end Short

/-- What is wanted of the stuffing for a string, an encoder's buffer and a decoder's capacity. -/
structure StuffingSound (x out : List UInt8) (capacity : Nat) : Prop where
  roundTrip : (Cobs.encode x).length < out.length → x.length ≤ capacity →
    ∃ encoded, cobsEncode x out = .ok encoded ∧ cobsDecode encoded capacity = .ok x
  oneZero : ∀ encoded, cobsEncode x out = .ok encoded →
    ∃ body, encoded = body ++ [0] ∧ (0 : UInt8) ∉ body
  length : ∀ encoded, cobsEncode x out = .ok encoded → encoded.length ≤ x.length + x.length / 254 + 2
  encodeShort : out.length ≤ (Cobs.encode x).length → cobsEncode x out = .error .capacity
  decodeShort : capacity < x.length →
    cobsDecode (Cobs.encode x ++ [0]) capacity = .error .capacity
  encodeInside : cobsEncodeStrict x out = some (cobsEncode x out)
  decodeInside : ∀ wire, cobsDecodeStrict wire capacity = some (cobsDecode wire capacity)

theorem shortError_eq {byte : Option UInt8} : shortError byte = .capacity ↔ byte = some 0 := by
  unfold shortError
  split_ifs with h
  · exact iff_of_true rfl h
  · exact iff_of_false nofun h

/-- An encoder that succeeds has written the blocks and the zero. -/
theorem cobsEncode_ok {x out encoded : List UInt8} (h : cobsEncode x out = .ok encoded) :
    encoded = Cobs.encode x ++ [0] := by
  obtain hlong | hshort := Nat.lt_or_ge (Cobs.encode x).length out.length
  · rw [cobsEncode_eq_ok hlong] at h
    cases h
    rfl
  · rw [cobsEncode_short hshort] at h
    cases h

/-- The stuffing is sound except that a decoder reports its short buffer as malformed input, unless
the first byte without a place is a zero. -/
theorem stuffingSound_iff (x out : List UInt8) (capacity : Nat) :
    StuffingSound x out capacity ↔ ∀ byte ∈ x[capacity]?, byte = 0 := by
  constructor
  · intro h byte hbyte
    have hlt : capacity < x.length := (List.getElem?_eq_some_iff.mp hbyte).choose
    have herror := (cobsDecode_short hlt).symm.trans (h.decodeShort hlt)
    have hzero := shortError_eq.mp (Except.error.inj herror)
    exact Option.some_inj.mp ((Option.mem_def.mp hbyte).symm.trans hzero)
  · intro h
    refine ⟨?_, ?_, ?_, cobsEncode_short, ?_, cobsEncodeStrict_eq, fun _ ↦ cobsDecodeStrict_eq⟩
    · intro hbuffer hcapacity
      exact ⟨_, cobsEncode_eq_ok hbuffer, cobsDecode_encode hcapacity⟩
    · intro encoded hencoded
      exact ⟨_, cobsEncode_ok hencoded, Cobs.zero_notMem_encode x⟩
    · intro encoded hencoded
      have hlength := Cobs.length_encode_le x
      rw [cobsEncode_ok hencoded, List.length_append, List.length_singleton]
      omega
    · intro hlt
      have hbyte : x[capacity]? = some x[capacity] := List.getElem?_eq_getElem hlt
      rw [cobsDecode_short hlt, shortError_eq.mpr (hbyte.trans (congrArg some (h _ hbyte)))]

/-- One byte does not fit into an empty buffer, and the decoder takes its block for malformed. -/
theorem stuffing_unsound : ¬∀ (x out : List UInt8) (capacity : Nat),
    StuffingSound x out capacity := by
  intro hall
  have hshort := (hall [5] [] 0).decodeShort Nat.zero_lt_one
  rw [cobsDecode_short Nat.zero_lt_one] at hshort
  cases hshort

end Ksa64.Interface
