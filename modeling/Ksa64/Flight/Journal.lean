import Ksa64.Library.Ring
import Ksa64.Library.Run
import Ksa64.Library.Words
import Ksa64.Flight.Phase10Math
import Ksa64.Interface.Phase11

/-!
# The event journal

A ring of the last 32 records, numbered from 1 and chained by a hash.  `JournalHistory`
relates the ring to the list of everything appended: the ring holds its last 32 records,
and every record carries its number and the chain value of the record before it, whether
or not that one is still in the ring.
-/

namespace Ksa64.Flight

open Ksa64.Library Ksa64.Interface

def eventJournalCapacity : Nat := 32

/-- The chain value before the first record. -/
def eventJournalSeed : UInt32 := 0x811c9dc5

structure EventJournal where
  records : Vector EventJournalRecord eventJournalCapacity
  start : Fin eventJournalCapacity
  len : Nat
  nextSequence : UInt32
  chain : UInt32
  len_le : len ≤ eventJournalCapacity
deriving DecidableEq

def hashJournal (hash sequence epoch : UInt32) (kind : UInt8) (primary secondary : UInt32)
    (arguments : Vector Int32 4) : UInt32 :=
  let hash := [sequence, epoch, kind.toUInt32, primary, secondary].foldl hashWord hash
  (arguments.toList.map Int32.toUInt32).foldl hashWord hash

/-- What the caller of `append` passes. -/
structure JournalEntry where
  epoch : UInt32
  kind : JournalEventKind
  primaryIdentity : UInt32
  secondaryIdentity : UInt32
  arguments : Vector Int32 4
deriving DecidableEq

namespace EventJournal

def new : EventJournal where
  records := Vector.replicate eventJournalCapacity .empty
  start := ⟨0, by decide⟩
  len := 0
  nextSequence := 1
  chain := eventJournalSeed
  len_le := Nat.zero_le _

/-- The record an entry becomes. -/
def record (j : EventJournal) (entry : JournalEntry) : EventJournalRecord where
  sequence := j.nextSequence
  epoch := entry.epoch
  kind := entry.kind
  flags := 0
  primaryIdentity := entry.primaryIdentity
  secondaryIdentity := entry.secondaryIdentity
  arguments := entry.arguments
  priorChain := j.chain
  chain := hashJournal j.chain j.nextSequence entry.epoch entry.kind.code entry.primaryIdentity
    entry.secondaryIdentity entry.arguments

/-- Append an entry: into the next free cell while there is one, over the oldest record
from then on. -/
def append (j : EventJournal) (entry : JournalEntry) : EventJournalRecord × EventJournal :=
  let record := j.record entry
  (record,
    if h : j.len < eventJournalCapacity then
      { records := j.records.set (ringIndex j.start j.len).val record (ringIndex j.start j.len).isLt
        start := j.start
        len := j.len + 1
        nextSequence := addSat32 j.nextSequence 1
        chain := record.chain
        len_le := h }
    else
      { records := j.records.set j.start.val record j.start.isLt
        start := ringIndex j.start 1
        len := j.len
        nextSequence := addSat32 j.nextSequence 1
        chain := record.chain
        len_le := j.len_le })

/-- One round of the recovery loop: copy the record if it is late enough and there is
room for it. -/
def recoverStep (sequence : UInt32) (state : Nat × List EventJournalRecord)
    (record : EventJournalRecord) : Nat × List EventJournalRecord :=
  if sequence < record.sequence ∧ state.1 < state.2.length then
    (state.1 + 1, state.2.set state.1 record)
  else state

/-- Copy the records after `sequence` into `output`; the number copied and the output. -/
def recoverAfter (j : EventJournal) (sequence : UInt32) (output : List EventJournalRecord) :
    Nat × List EventJournalRecord :=
  (List.range j.len).foldl
    (fun state offset ↦ recoverStep sequence state (j.records.get (ringIndex j.start offset)))
    (0, output)

/-- The journal after an entry. -/
def step (j : EventJournal) (entry : JournalEntry) : EventJournal := (j.append entry).2

/-- The records in the ring, oldest first. -/
def retained (j : EventJournal) : List EventJournalRecord := ringView j.records j.start j.len

end EventJournal

/-- Every record the entries become, in order. -/
def appended (entries : List JournalEntry) : List EventJournalRecord :=
  emits EventJournal.step (fun j entry ↦ some (j.append entry).1) .new entries

/-- The chain value after the records. -/
def chainAfter (records : List EventJournalRecord) : UInt32 :=
  (records.getLast?.map (·.chain)).getD eventJournalSeed

/-- The records are numbered from 1, up to the largest number, and each carries the
chain value of the one before it. -/
def Linked (records : List EventJournalRecord) : Prop :=
  ∀ before record after, records = before ++ record :: after →
    record.sequence.toNat = min (before.length + 1) (2 ^ 32 - 1)
      ∧ record.priorChain = chainAfter before

/-- How the journal stands to the records appended to it. -/
structure JournalHistory (records : List EventJournalRecord) (j : EventJournal) : Prop where
  linked : Linked records
  retained : j.retained = records.rtake eventJournalCapacity
  nextSequence : j.nextSequence.toNat = min (records.length + 1) (2 ^ 32 - 1)
  chain : j.chain = chainAfter records

/-! ## Appending -/

section Append

variable (j : EventJournal) (entry : JournalEntry)

@[simp] theorem append_fst : (j.append entry).1 = j.record entry := rfl

theorem step_nextSequence : (j.step entry).nextSequence = addSat32 j.nextSequence 1 := by
  unfold EventJournal.step EventJournal.append
  dsimp only
  split <;> rfl

theorem step_chain : (j.step entry).chain = (j.record entry).chain := by
  unfold EventJournal.step EventJournal.append
  dsimp only
  split <;> rfl

/-- The ring after an entry: one record longer, or with the oldest one gone. -/
theorem step_retained :
    (j.step entry).retained =
      if j.len < eventJournalCapacity then j.retained ++ [j.record entry]
      else j.retained.tail ++ [j.record entry] := by
  unfold EventJournal.step EventJournal.append
  dsimp only
  split
  · rename_i h
    exact ringView_push j.records j.start h _
  · rename_i h
    have hfull : j.len = eventJournalCapacity := Nat.le_antisymm j.len_le (Nat.not_lt.mp h)
    have hpush := ringView_push_full j.records j.start (j.record entry)
    unfold EventJournal.retained
    dsimp only
    rw [hfull, hpush]

end Append

variable {records : List EventJournalRecord} {j : EventJournal}

@[simp] theorem chainAfter_concat (record : EventJournalRecord) :
    chainAfter (records ++ [record]) = record.chain := by simp [chainAfter]

/-- A record that continues the chain. -/
theorem Linked.concat (h : Linked records) {record : EventJournalRecord}
    (hsequence : record.sequence.toNat = min (records.length + 1) (2 ^ 32 - 1))
    (hchain : record.priorChain = chainAfter records) : Linked (records ++ [record]) := by
  intro before r after hsplit
  rcases List.eq_nil_or_concat after with rfl | ⟨init, last, rfl⟩
  · obtain ⟨rfl, hr⟩ := List.append_inj' hsplit rfl
    obtain rfl := (List.cons.inj hr).1
    exact ⟨hsequence, hchain⟩
  · rw [List.concat_eq_append, ← List.cons_append, ← List.append_assoc] at hsplit
    exact h before r init (List.append_inj' hsplit rfl).1

/-- Appending an entry extends the history. -/
theorem JournalHistory.concat (h : JournalHistory records j) (entry : JournalEntry) :
    JournalHistory (records ++ [j.record entry]) (j.step entry) where
  linked := h.linked.concat h.nextSequence h.chain
  retained := by
    have hlen : j.len = (records.rtake eventJournalCapacity).length := by
      rw [← h.retained, EventJournal.retained, length_ringView]
    rw [length_rtake] at hlen
    have hroom : j.len < eventJournalCapacity ↔ records.length < eventJournalCapacity := by omega
    rw [step_retained, rtake_concat (by decide), h.retained]
    simp only [hroom]
  nextSequence := by
    rw [step_nextSequence, toNat_addSat32, h.nextSequence, UInt32.toNat_one, List.length_append,
      List.length_singleton]
    omega
  chain := by rw [step_chain, chainAfter_concat]

/-- The history of any run of a new journal. -/
theorem journalHistory_run (entries : List JournalEntry) :
    JournalHistory (appended entries) (run EventJournal.step .new entries) := by
  refine emits_invariant JournalHistory ?_ ?_ (meets_true ..)
  · intro records j entry h _
    exact h.concat entry
  · exact {
      linked := fun before _ after h ↦ by simp at h
      retained := rfl
      nextSequence := rfl
      chain := rfl }

/-! ## Recovery -/

/-- The recovery loop goes over the retained records. -/
theorem recoverAfter_eq (j : EventJournal) (sequence : UInt32)
    (output : List EventJournalRecord) :
    j.recoverAfter sequence output =
      j.retained.foldl (EventJournal.recoverStep sequence) (0, output) := by
  rw [EventJournal.retained, ringView, List.foldl_map]
  rfl

/-- The loop copies the late records in order, as far as there is room. -/
theorem foldl_recoverStep (sequence : UInt32) (records : List EventJournalRecord)
    (copied : List EventJournalRecord) (rest : List EventJournalRecord) :
    records.foldl (EventJournal.recoverStep sequence) (copied.length, copied ++ rest) =
      let late := (records.filter (sequence < ·.sequence)).take rest.length
      (copied.length + late.length, copied ++ late ++ rest.drop late.length) := by
  induction records generalizing copied rest with
  | nil => simp
  | cons record records ih =>
      rw [List.foldl_cons, EventJournal.recoverStep]
      by_cases hlate : sequence < record.sequence
      · cases rest with
        | nil =>
            have hih := ih copied []
            simp only [List.append_nil, List.length_nil, List.take_zero, Nat.add_zero,
              List.drop_nil] at hih ⊢
            rw [if_neg (by simp), hih]
        | cons place rest =>
            have hroom : copied.length < (copied ++ place :: rest).length := by simp
            have hih := ih (copied ++ [record]) rest
            rw [if_pos ⟨hlate, hroom⟩, List.set_append_right _ _ (Nat.le_refl _), Nat.sub_self,
              List.set_cons_zero]
            simp only [List.length_append, List.length_singleton, List.append_assoc,
              List.singleton_append] at hih
            rw [hih]
            simp [hlate, Nat.add_assoc, Nat.add_comm 1]
      · rw [if_neg fun h ↦ hlate h.1, ih copied rest]
        simp [hlate]

/-- The entry a record was made from. -/
def recordEntry (record : EventJournalRecord) : JournalEntry where
  epoch := record.epoch
  kind := record.kind
  primaryIdentity := record.primaryIdentity
  secondaryIdentity := record.secondaryIdentity
  arguments := record.arguments

/-- Every entry becomes a record of its own. -/
theorem map_recordEntry_appended (entries : List JournalEntry) :
    (appended entries).map recordEntry = entries :=
  map_emits (fun _ _ ↦ rfl) _ entries

theorem length_appended (entries : List JournalEntry) : (appended entries).length = entries.length := by
  conv_rhs => rw [← map_recordEntry_appended entries, List.length_map]

/-- What recovery promises after the entries were appended. -/
structure RecoversExactly (entries : List JournalEntry) (sequence : UInt32)
    (output : List EventJournalRecord) : Prop where
  /-- The records are those of the entries, in order. -/
  records : (appended entries).map recordEntry = entries
  /-- The retained records later than the request, cut to the room there is, are copied
  to the front of the output. -/
  recovered : (run EventJournal.step .new entries).recoverAfter sequence output =
    let late := (((appended entries).rtake eventJournalCapacity).filter
      (sequence < ·.sequence)).take output.length
    (late.length, late ++ output.drop late.length)
  /-- As many records are retained as fit. -/
  retained : ((appended entries).rtake eventJournalCapacity).length =
    min entries.length eventJournalCapacity
  /-- The records are numbered 1, 2, 3 and so on. -/
  contiguous : ∀ (i : Nat) (h : i < (appended entries).length),
    ((appended entries)[i]).sequence.toNat = i + 1
  /-- Each record carries the chain value of the record before it. -/
  chained : ∀ (i : Nat) (h : i + 1 < (appended entries).length),
    ((appended entries)[i + 1]).priorChain = ((appended entries)[i]).chain
  /-- No record is recovered twice. -/
  distinct : ((appended entries).rtake eventJournalCapacity).Pairwise
    fun a b ↦ a.sequence < b.sequence

/-- The number of a linked record. -/
theorem Linked.sequence (h : Linked records) (hlen : records.length < 2 ^ 32) {i : Nat}
    (hi : i < records.length) : records[i].sequence.toNat = i + 1 := by
  have hsplit : records = records.take i ++ records[i] :: records.drop (i + 1) := by
    rw [← List.drop_eq_getElem_cons hi, List.take_append_drop]
  have hsequence := (h _ _ _ hsplit).1
  rw [List.length_take] at hsequence
  omega

/-- The chain value a linked record starts from. -/
theorem Linked.priorChain (h : Linked records) {i : Nat} (hi : i + 1 < records.length) :
    records[i + 1].priorChain = records[i].chain := by
  have hsplit : records = records.take (i + 1) ++ records[i + 1] :: records.drop (i + 1 + 1) := by
    rw [← List.drop_eq_getElem_cons hi, List.take_append_drop]
  have hbefore : records.take (i + 1) = records.take i ++ [records[i]] :=
    List.take_succ_eq_append_getElem (by omega)
  rw [(h _ _ _ hsplit).2, hbefore, chainAfter_concat]

/-- Linked records come in the order of their numbers. -/
theorem Linked.pairwise (h : Linked records) (hlen : records.length < 2 ^ 32) :
    records.Pairwise fun a b ↦ a.sequence < b.sequence := by
  rw [List.pairwise_iff_getElem]
  intro i j hi hj hij
  rw [UInt32.lt_iff_toNat_lt, h.sequence hlen hi, h.sequence hlen hj]
  omega

/-- Recovery is exact for any number of appends the sequence can count. -/
theorem recover_after_exact (entries : List JournalEntry) (hlen : entries.length < 2 ^ 32)
    (sequence : UInt32) (output : List EventJournalRecord) :
    RecoversExactly entries sequence output := by
  have hhistory := journalHistory_run entries
  rw [← length_appended] at hlen
  exact {
    records := map_recordEntry_appended entries
    recovered := by
      rw [recoverAfter_eq, hhistory.retained]
      simpa using foldl_recoverStep sequence ((appended entries).rtake eventJournalCapacity) [] output
    retained := by rw [length_rtake, length_appended]
    contiguous := fun _ hi ↦ hhistory.linked.sequence hlen hi
    chained := fun _ hi ↦ hhistory.linked.priorChain hi
    distinct := (hhistory.linked.pairwise hlen).sublist (List.drop_sublist ..) }

/-- Forty appends, eight of them already overwritten, and room for three of the five
records asked for. -/
theorem recover_after_exact_forty :
    RecoversExactly (List.replicate 40 ⟨0, .mode, 1, 2, #v[0, 0, 0, 0]⟩) 35
      (List.replicate 3 .empty) :=
  recover_after_exact _ (by decide) _ _

end Ksa64.Flight
