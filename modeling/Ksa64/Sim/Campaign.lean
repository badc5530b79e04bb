import Mathlib.Algebra.Order.Ring.Int
import Mathlib.Tactic.Common

/-!
# Keyed draws

The words of a campaign come from a counter-based generator: a word is a mix of the key under which
it is drawn.  A draw that is correlated within a group is drawn under the group in place of the
parameter.
-/

namespace Ksa64.Sim

def mix32 (value : UInt32) : UInt32 :=
  let value := value ^^^ (value >>> 16)
  let value := value * 0x7feb352d
  let value := value ^^^ (value >>> 15)
  let value := value * 0x846ca68b
  value ^^^ (value >>> 16)

/-- What a word depends on. -/
@[ext]
structure CounterKey where
  masterSeed : UInt32
  runIndex : UInt32
  source : UInt32
  drawIndex : UInt32
deriving DecidableEq

/-- The word that is drawn under a key. -/
def CounterKey.word (key : CounterKey) : UInt32 :=
  mix32 (key.masterSeed ^^^ (key.runIndex * 0x9e3779b9) ^^^ (key.source * 0x85ebca6b)
    ^^^ (key.drawIndex * 0xc2b2ae35))

/-- The key of a draw: the parameter counts only outside of a group. -/
def counterKey (masterSeed runIndex : UInt32) (parameter correlationGroup drawIndex : UInt8) :
    CounterKey where
  masterSeed := masterSeed
  runIndex := runIndex
  source :=
    if correlationGroup = 0 then parameter.toUInt32 else 0x100 + correlationGroup.toUInt32
  drawIndex := drawIndex.toUInt32

def keyedWordRaw (masterSeed runIndex : UInt32) (parameter correlationGroup drawIndex : UInt8) :
    UInt32 :=
  (counterKey masterSeed runIndex parameter correlationGroup drawIndex).word

variable {masterSeed runIndex : UInt32} {parameter parameter' group group' draw draw' : UInt8}

/-- Within a group, all parameters have one key. -/
theorem counterKey_of_group (h : group ≠ 0) :
    counterKey masterSeed runIndex parameter group draw =
      counterKey masterSeed runIndex parameter' group draw := by
  unfold counterKey
  rw [if_neg h, if_neg h]

theorem toNat_source_counterKey :
    (counterKey masterSeed runIndex parameter group draw).source.toNat =
      if group = 0 then parameter.toNat else 256 + group.toNat := by
  unfold counterKey
  by_cases h : group = 0
  · rw [if_pos h, if_pos h]
    exact UInt8.toNat_toUInt32 parameter
  · have hlt := group.toNat_lt
    rw [if_neg h, if_neg h, UInt32.toNat_add, UInt8.toNat_toUInt32]
    exact Nat.mod_eq_of_lt (Nat.lt_of_lt_of_le (Nat.add_lt_add_left hlt 256) (by decide))

/-- The keys of different groups are different. -/
theorem counterKey_ne_of_group_ne (h : group ≠ group') :
    counterKey masterSeed runIndex parameter group draw ≠
      counterKey masterSeed runIndex parameter' group' draw' := by
  intro heq
  have hsource := congrArg (UInt32.toNat ∘ CounterKey.source) heq
  rw [Function.comp_apply, Function.comp_apply, toNat_source_counterKey, toNat_source_counterKey] at hsource
  have hlt := parameter.toNat_lt
  have hlt' := parameter'.toNat_lt
  split_ifs at hsource with hgroup hgroup' hgroup'
  · exact h (hgroup.trans hgroup'.symm)
  · omega
  · omega
  · exact h (UInt8.toNat_inj.mp (Nat.add_left_cancel hsource))

end Ksa64.Sim
