import Ksa64.Library.Aliasing
import Ksa64.Library.Stateful
import Mathlib.Data.Set.Function
import Mathlib.Data.List.FinRange

/-!
# Detection of the expansion unit

The unit has banks of 64 KiB and answers to every bank number, with banks that stand for lower ones
where it has no more of its own.  How many it has is found by writing the numbers of the banks to
them, from the highest to the lowest, and reading them back; what was there before is kept and
written back.
-/

namespace Ksa64.Sim

open Ksa64.Library

inductive ReuError
  | absent
  | transfer
  | address
deriving DecidableEq

/-- A unit that is accessed byte by byte. -/
structure ByteReu (σ : Type) where
  probePresence : ExceptT ReuError (StateM σ) Bool
  readByte : UInt32 → ExceptT ReuError (StateM σ) UInt8
  writeByte : UInt32 → UInt8 → ExceptT ReuError (StateM σ) Unit

/-- The capacities that are supported, in KiB. -/
def supportedReuKib : List UInt32 := [128, 256, 512, 1024, 2048, 4096, 8192, 16384]

/-- The first byte of a bank. -/
def bankAddress (bank : Nat) : UInt32 := UInt32.ofNat bank <<< 16

section Detection

variable {σ : Type} (device : ByteReu σ) (originals : Vector UInt8 256)

def restoreBanks : StateM σ Unit :=
  (List.finRange 256).forM fun bank ↦ do
    let _ ← (device.writeByte (bankAddress bank) (originals.get bank)).run
    pure ()

/-- An access that must not fail before the banks are restored. -/
def orRestore {α : Type} (access : ExceptT ReuError (StateM σ) α) :
    ExceptT ReuError (StateM σ) α :=
  tryCatch access fun error ↦ do
    restoreBanks device originals
    throw error

/-- The bank numbers are written to the banks, the lowest last. -/
def markBanks : ExceptT ReuError (StateM σ) Unit :=
  (List.finRange 256).reverse.forM fun bank ↦
    orRestore device originals (device.writeByte (bankAddress bank) (.ofNat bank))

/-- The first bank that does not have its own number, of the last banks. -/
def countBanks : Nat → ExceptT ReuError (StateM σ) Nat
  | 0 => pure 256
  | left + 1 => do
      let bank := 255 - left
      let value ← orRestore device originals (device.readByte (bankAddress bank))
      if value = .ofNat bank then countBanks left else pure bank

/-- The capacity of the unit in KiB, zero if there is none. -/
def detectReuCapacity : ExceptT ReuError (StateM σ) UInt32 := do
  let present ← device.probePresence
  if present then
    let originals ← Vector.ofFnM fun bank : Fin 256 ↦ device.readByte (bankAddress bank)
    markBanks device originals
    let banks ← countBanks device originals 256
    restoreBanks device originals
    let capacityKib := if banks = 256 then 16384 else UInt32.ofNat banks * 64
    if capacityKib ∈ supportedReuKib then pure capacityKib else throw .address
  else pure 0

end Detection

/-! ## The unit of the computer -/

section Unit

/-- The bytes of a unit, by bank and offset. -/
abbrev ReuMemory (Bank : Type) := Bank × UInt16 → UInt8

variable {Bank : Type} (bankOf : Fin 256 → Bank)

/-- The byte under an address of 24 bits. -/
def place (address : UInt32) : Bank × UInt16 :=
  (bankOf (Fin.ofNat 256 ((address &&& 0x00ffffff) >>> 16).toNat), address.toUInt16)

/-- The place of the first byte of a bank. -/
def home (bankOf : Fin 256 → Bank) (bank : Fin 256) : Bank × UInt16 :=
  place bankOf (bankAddress bank)

variable {bankOf}

theorem home_eq (bank : Fin 256) : home bankOf bank = (bankOf bank, 0) := by
  have haddress : ∀ bank : Fin 256,
      Fin.ofNat 256 ((bankAddress bank &&& 0x00ffffff) >>> 16).toNat = bank ∧
        (bankAddress bank).toUInt16 = 0 := by decide +kernel
  obtain ⟨hbank, hoffset⟩ := haddress bank
  unfold home place
  rw [hbank, hoffset]

theorem home_ne {i j : Fin 256} (h : bankOf i ≠ bankOf j) : home bankOf i ≠ home bankOf j := by
  rw [home_eq, home_eq]
  exact fun heq ↦ h (congrArg Prod.fst heq)

/-- A transfer of one byte from the unit. -/
def fetch (bankOf : Fin 256 → Bank) (address : UInt32) : StateM (ReuMemory Bank) UInt8 := do
  let memory ← get
  pure (memory (place bankOf address))

theorem fetch_run (bankOf : Fin 256 → Bank) (memory : ReuMemory Bank)
    (address : UInt32) :
    (fetch bankOf address).run memory = (memory (place bankOf address), memory) := rfl

variable [DecidableEq Bank] (bankOf)

/-- A transfer of one byte to the unit. -/
def stash (address : UInt32) (value : UInt8) : StateM (ReuMemory Bank) Unit :=
  modify fun memory ↦ Function.update memory (place bankOf address) value

/-- A byte that is written and read back, and then restored. -/
def probe : StateM (ReuMemory Bank) Bool := do
  let original ← fetch bankOf 0
  stash bankOf 0 0x5a
  let value ← fetch bankOf 0
  if value = 0x5a then
    stash bankOf 0 original
    pure true
  else pure false

/-- The unit behind the transfer registers. -/
def c64ReuStorage : ByteReu (ReuMemory Bank) where
  probePresence := ExceptT.lift (probe bankOf)
  readByte address := ExceptT.lift (fetch bankOf address)
  writeByte address value := ExceptT.lift (stash bankOf address value)

variable {bankOf : Fin 256 → Bank} {memory : ReuMemory Bank} {originals : Vector UInt8 256}

theorem readByte_run (bank : Nat) :
    ((c64ReuStorage bankOf).readByte (bankAddress bank)).run.run memory
      = (.ok (memory (place bankOf (bankAddress bank))), memory) := rfl

theorem writeByte_run (bank : Nat) (value : UInt8) :
    ((c64ReuStorage bankOf).writeByte (bankAddress bank) value).run.run memory
      = (.ok (), Function.update memory (place bankOf (bankAddress bank)) value) := rfl

theorem orRestore_run {α : Type} {access : ExceptT ReuError (StateM (ReuMemory Bank)) α} {a : α}
    {memory' : ReuMemory Bank} (h : access.run.run memory = (.ok a, memory')) :
    (orRestore (c64ReuStorage bankOf) originals access).run.run memory = (.ok a, memory') :=
  tryCatch_run_ok h

theorem stash_run (address : UInt32) (value : UInt8) : (stash bankOf address value).run memory
    = ((), Function.update memory (place bankOf address) value) := rfl

/-- The presence of the unit is found without a trace. -/
theorem probe_run : (probe bankOf).run memory = (true, memory) := by
  unfold probe
  rw [run_bind_of (fetch_run _ _ 0), run_bind_of (stash_run 0 0x5a), run_bind_of (fetch_run _ _ 0)]
  dsimp only
  rw [if_pos (Function.update_self _ _ _), run_bind_of (stash_run 0 _)]
  show (true, Function.update (Function.update memory _ _) _ _) = _
  rw [Function.update_idem, Function.update_eq_self]

theorem probePresence_run :
    (c64ReuStorage bankOf).probePresence.run.run memory = (.ok true, memory) := by
  show (Except.ok ((probe bankOf).run memory).1, ((probe bankOf).run memory).2) = _
  rw [probe_run]

theorem write_run (banks : List (Fin 256)) :
    (banks.forM fun bank ↦ do
      let _ ← ((c64ReuStorage bankOf).writeByte (bankAddress bank) (originals.get bank)).run
      pure ()).run memory = ((), writeAll (home bankOf) originals.get banks memory) := by
  induction banks generalizing memory with
  | nil => rfl
  | cons bank banks ih => exact ih

theorem mark_run (banks : List (Fin 256)) :
    (banks.forM fun bank ↦ orRestore (c64ReuStorage bankOf) originals
      ((c64ReuStorage bankOf).writeByte (bankAddress bank) (.ofNat bank))).run.run memory
      = (.ok (), writeAll (home bankOf) (fun bank ↦ .ofNat bank) banks memory) := by
  induction banks generalizing memory with
  | nil => rfl
  | cons bank banks ih =>
      rw [List.forM, bind_run_ok (orRestore_run (writeByte_run _ _))]
      exact ih

/-- The bytes at the start of the banks. -/
theorem read_run (n : Nat) (bank : Fin n → Nat) :
    (Vector.ofFnM fun i ↦ (c64ReuStorage bankOf).readByte (bankAddress (bank i))).run.run memory
      = (.ok (Vector.ofFn fun i ↦ memory (place bankOf (bankAddress (bank i)))), memory) := by
  induction n with
  | zero =>
      rw [Vector.ofFnM_zero]
      rfl
  | succ n ih =>
      rw [Vector.ofFnM_succ, bind_run_ok (ih _), bind_run_ok (readByte_run _), Vector.ofFn_succ]
      rfl

/-! ## Marks and their count -/

variable {k : Nat}

/-- The count ends at the first bank that does not have its own number. -/
theorem countBanks_run (hk : k ≤ 256)
    (hown : ∀ bank : Fin 256, bank.val < k → memory (home bankOf bank) = .ofNat bank)
    (hother : ∀ bank : Fin 256, k ≤ bank.val → memory (home bankOf bank) ≠ .ofNat bank)
    (left : Nat) (hleft : left ≤ 256) (hcounted : 256 - left ≤ k) :
    (countBanks (c64ReuStorage bankOf) originals left).run.run memory = (.ok k, memory) := by
  induction left with
  | zero =>
      obtain rfl : k = 256 := by omega
      rfl
  | succ left ih =>
      have hbank : 255 - left < 256 := by omega
      unfold countBanks
      rw [bind_run_ok (orRestore_run (readByte_run _))]
      by_cases hlower : 255 - left < k
      · have hvalue : memory (place bankOf (bankAddress (255 - left))) = .ofNat (255 - left) :=
          hown ⟨255 - left, hbank⟩ hlower
        rw [if_pos hvalue]
        exact ih (by omega) (by omega)
      · obtain rfl : k = 255 - left := by omega
        have hvalue : memory (place bankOf (bankAddress (255 - left))) ≠ .ofNat (255 - left) :=
          hother ⟨255 - left, hbank⟩ le_rfl
        rw [if_neg hvalue]
        rfl

/-- The memory with the marks. -/
def marked (bankOf : Fin 256 → Bank) (memory : ReuMemory Bank) : ReuMemory Bank :=
  writeAll (home bankOf) (fun bank ↦ .ofNat bank) (List.finRange 256).reverse memory

theorem markBanks_run :
    (markBanks (c64ReuStorage bankOf) originals).run.run memory = (.ok (), marked bankOf memory) :=
  mark_run _

/-- A bank that no lower number stands for has its own number. -/
theorem marked_own {bank : Fin 256} (h : ∀ other < bank, bankOf other ≠ bankOf bank) :
    marked bankOf memory (home bankOf bank) = .ofNat bank := by
  obtain ⟨lower, higher, hsplit⟩ := List.mem_iff_append.mp (List.mem_finRange bank)
  have hsorted := List.pairwise_lt_finRange 256
  rw [hsplit, List.pairwise_append] at hsorted
  unfold marked
  rw [hsplit, List.reverse_append, List.reverse_cons, List.append_assoc, List.singleton_append]
  refine @writeAll_last _ _ _ _ (home bankOf) (fun bank ↦ UInt8.ofNat bank) _ _ bank memory ?_
  intro other hother
  exact home_ne (h other (hsorted.2.2 other (List.mem_reverse.mp hother) bank List.mem_cons_self))

/-- What has been read is written back. -/
theorem restoreBanks_run : (restoreBanks (c64ReuStorage bankOf)
    (Vector.ofFn fun bank : Fin 256 ↦ memory (place bankOf (bankAddress bank)))).run
      (marked bankOf memory) = ((), memory) := by
  refine (write_run _).trans (congrArg (Prod.mk ()) ?_)
  refine writeAll_restores (fun bank _ ↦ Vector.getElem_ofFn _) fun p hp ↦ ?_
  exact writeAll_of_forall_ne fun bank _ ↦ hp bank (List.mem_finRange bank)

/-- The detection finds the banks of the unit's own, and leaves the memory as it was. -/
theorem detectReuCapacity_run (bankOf : Fin 256 → Bank) (k : Nat) (hk : k ≤ 256)
    (hdistinct : ∀ i j : Fin 256, i.val < k → j.val < k → bankOf i = bankOf j → i = j)
    (halias : ∀ i : Fin 256, k ≤ i.val → ∃ j : Fin 256, j.val < k ∧ bankOf j = bankOf i)
    (memory : ReuMemory Bank) :
    (detectReuCapacity (c64ReuStorage bankOf)).run.run memory
      = (if UInt32.ofNat (k * 64) ∈ supportedReuKib then .ok (.ofNat (k * 64))
          else .error .address, memory) := by
  have hown : ∀ bank : Fin 256, bank.val < k →
      marked bankOf memory (home bankOf bank) = .ofNat bank := by
    intro bank hbank
    refine marked_own fun other hlower heq ↦ ?_
    exact absurd (hdistinct other bank (by omega) hbank heq) (Fin.ne_of_lt hlower)
  have hother : ∀ bank : Fin 256, k ≤ bank.val →
      marked bankOf memory (home bankOf bank) ≠ .ofNat bank := by
    intro bank hbank hvalue
    obtain ⟨lower, hlower, heq⟩ := halias bank hbank
    have hmark := hown lower hlower
    rw [home_eq, heq, ← home_eq, hvalue] at hmark
    have hnumber := congrArg UInt8.toNat hmark
    rw [UInt8.toNat_ofNat_of_lt' bank.isLt, UInt8.toNat_ofNat_of_lt' lower.isLt] at hnumber
    omega
  unfold detectReuCapacity
  rw [bind_run_ok probePresence_run, if_pos rfl, bind_run_ok (read_run 256 Fin.val),
    bind_run_ok markBanks_run, bind_run_ok (countBanks_run hk hown hother 256 le_rfl (by omega))]
  have hcapacity : (if k = 256 then 16384 else UInt32.ofNat k * 64) = UInt32.ofNat (k * 64) := by
    split_ifs with hall
    · rw [hall]
      rfl
    · exact (UInt32.ofNat_mul k 64).symm
  rw [bind_run_ok (lift_run restoreBanks_run)]
  dsimp only
  rw [hcapacity]
  split_ifs <;> rfl

/-- A unit of 256 KiB, whose contents look like marks. -/
theorem detectReuCapacity_run_four :
    (detectReuCapacity (c64ReuStorage fun bank ↦ bank.val % 4)).run.run
        (fun p ↦ UInt8.ofNat (p.1 + 4))
      = (.ok 256, fun p ↦ UInt8.ofNat (p.1 + 4)) := by
  refine detectReuCapacity_run (fun bank ↦ bank.val % 4) 4 (by decide) ?_ ?_ _
  · intro i j hi hj heq
    exact Fin.ext (by omega)
  · intro i _
    exact ⟨⟨i.val % 4, by omega⟩, Nat.mod_lt _ (by decide), Nat.mod_mod _ _⟩

end Unit

end Ksa64.Sim
