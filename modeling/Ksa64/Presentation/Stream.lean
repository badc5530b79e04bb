import Ksa64.Library.Run
import Ksa64.Library.Words

/-!
# Retained streams

A stream keeps the most recent records that were pushed, and numbers them from
`presentationCursorBegin` on.  A reader comes with a cursor and goes with the next one: it is
given what follows the cursor, or told that some of it is gone.

`Consumption` is a stream together with one reader that resumes where it was told to.
`consumption_spec` is what the reader can rely on.
-/

universe u

namespace Ksa64.Presentation

open Ksa64.Library

variable {α : Type u}

def presentationCursorBegin : UInt64 := 1

structure Sequenced (α : Type u) where
  sequence : UInt64
  value : α
deriving DecidableEq

structure PresentationBatch (α : Type u) where
  requestedCursor : UInt64
  nextCursor : UInt64
  oldestAvailable : UInt64
  newestAvailable : UInt64
  records : List (Sequenced α)
deriving DecidableEq

inductive CursorError where
  | zero
  | capacity
  | limit
  | overflow
  | resyncRequired (oldestAvailable : UInt64)
  | ahead (nextAvailable : UInt64)
deriving DecidableEq

structure RetainedStream (α : Type u) where
  capacity : Nat
  oldestSequence : UInt64
  nextSequence : UInt64
  records : List α
deriving DecidableEq

namespace RetainedStream

def new (capacity : Nat) : Except CursorError (RetainedStream α) :=
  if capacity = 0 then .error .capacity
  else
    .ok
      { capacity := capacity
        oldestSequence := presentationCursorBegin
        nextSequence := presentationCursorBegin
        records := [] }

/-- What the next push evicts. -/
def evicts (s : RetainedStream α) : List α :=
  if s.records.length = s.capacity then s.records.take 1 else []

def push (s : RetainedStream α) (value : α) : Except CursorError UInt64 × RetainedStream α :=
  if s.nextSequence = 18446744073709551615 then (.error .overflow, s)
  else
    (.ok s.nextSequence,
      if s.records.length = s.capacity then
        { s with
          nextSequence := s.nextSequence + 1
          records := s.records.tail ++ [value]
          oldestSequence := s.oldestSequence + 1 }
      else
        { s with
          nextSequence := s.nextSequence + 1
          records := s.records ++ [value] })

/-- Number the records that are read. -/
def number (cursor : UInt64) : Nat → List α → Except CursorError (List (Sequenced α))
  | _, [] => .ok []
  | index, value :: rest =>
      match checkedAdd64 cursor (UInt64.ofNat index) with
      | none => .error .overflow
      | some sequence =>
          match number cursor (index + 1) rest with
          | .error error => .error error
          | .ok records => .ok (⟨sequence, value⟩ :: records)

/-- The offset of the cursor is at most the number of records, so it is a `usize`. -/
def read (s : RetainedStream α) (cursor : UInt64) (maxRecords : Nat) :
    Except CursorError (PresentationBatch α) :=
  if cursor = 0 then .error .zero
  else if maxRecords = 0 then .error .limit
  else if cursor < s.oldestSequence then .error (.resyncRequired s.oldestSequence)
  else if s.nextSequence < cursor then .error (.ahead s.nextSequence)
  else
    let offset := (cursor - s.oldestSequence).toNat
    match number cursor 0 ((s.records.drop offset).take maxRecords) with
    | .error error => .error error
    | .ok records =>
        match checkedAdd64 cursor (UInt64.ofNat records.length) with
        | none => .error .overflow
        | some nextCursor =>
            .ok
              { requestedCursor := cursor
                nextCursor := nextCursor
                oldestAvailable := s.oldestSequence
                newestAvailable := if s.nextSequence = 0 then 0 else s.nextSequence - 1
                records := records }

end RetainedStream

/-! ## Numbered records -/

/-- The records, numbered from `first` on. -/
def numbered (first : Nat) : List α → List (Sequenced α)
  | [] => []
  | value :: rest => ⟨UInt64.ofNat first, value⟩ :: numbered (first + 1) rest

@[simp] theorem length_numbered (first : Nat) (values : List α) :
    (numbered first values).length = values.length := by
  induction values generalizing first with
  | nil => rfl
  | cons value rest ih => exact congrArg (· + 1) (ih (first + 1))

theorem numbered_append (first : Nat) (xs ys : List α) :
    numbered first (xs ++ ys) = numbered first xs ++ numbered (first + xs.length) ys := by
  induction xs generalizing first with
  | nil => rfl
  | cons value rest ih =>
      rw [List.cons_append, numbered, ih, numbered, List.length_cons, List.cons_append,
        Nat.add_assoc, Nat.add_comm 1]

namespace RetainedStream

theorem number_eq {cursor : UInt64} {index : Nat} {values : List α}
    (h : cursor.toNat + index + values.length ≤ 2 ^ 64) :
    number cursor index values = .ok (numbered (cursor.toNat + index) values) := by
  induction values generalizing index with
  | nil => rfl
  | cons value rest ih =>
      rw [List.length_cons] at h
      have hsum : checkedAdd64 cursor (UInt64.ofNat index)
          = some (UInt64.ofNat (cursor.toNat + index)) := by
        have hsize : cursor.toNat + index < UInt64.size := Nat.lt_of_lt_of_le (by omega) h
        rw [checkedAdd64_eq_some, UInt64.toNat_ofNat_of_lt' hsize,
          UInt64.toNat_ofNat_of_lt' (by omega)]
      rw [number, hsum, ih (by omega)]
      rfl

/-- The cursors count, and there are no more records than fit. -/
structure Sound (s : RetainedStream α) : Prop where
  oldest : 1 ≤ s.oldestSequence.toNat
  next : s.oldestSequence.toNat + s.records.length = s.nextSequence.toNat
  room : s.records.length ≤ s.capacity
  capacity : 0 < s.capacity

theorem sound_of_new {capacity : Nat} {s : RetainedStream α} (h : new capacity = .ok s) :
    s.Sound ∧ s.capacity = capacity ∧ s.records = [] ∧ s.oldestSequence.toNat = 1 := by
  unfold new at h
  split_ifs at h with hzero
  cases h
  exact ⟨⟨Nat.le_refl _, rfl, Nat.zero_le _, Nat.pos_of_ne_zero hzero⟩, rfl, rfl, rfl⟩

theorem toNat_add_one {sequence : UInt64} (h : sequence ≠ 18446744073709551615) :
    (sequence + 1).toNat = sequence.toNat + 1 := by
  have hlt := sequence.toNat_lt
  have hne : sequence.toNat ≠ 18446744073709551615 := fun heq ↦ h (UInt64.toNat_inj.mp heq)
  rw [UInt64.toNat_add, UInt64.toNat_one, Nat.mod_eq_of_lt (by omega)]

/-- A push that does not overflow. -/
theorem push_of_ne {s : RetainedStream α} (h : s.Sound) (hnext : s.nextSequence ≠ 18446744073709551615)
    (value : α) :
    (s.push value).1 = .ok s.nextSequence
      ∧ (s.push value).2.Sound
      ∧ s.evicts ++ (s.push value).2.records = s.records ++ [value]
      ∧ (s.push value).2.nextSequence.toNat = s.nextSequence.toNat + 1
      ∧ (s.push value).2.oldestSequence.toNat = s.oldestSequence.toNat + s.evicts.length := by
  have hnextSucc : (s.nextSequence + 1).toNat = s.nextSequence.toNat + 1 := toNat_add_one hnext
  obtain ⟨holdest, hcount, hroom, hcapacity⟩ := h
  unfold push evicts
  rw [if_neg hnext]
  split_ifs with hfull
  · have holdestSucc : (s.oldestSequence + 1).toNat = s.oldestSequence.toNat + 1 := by
      refine toNat_add_one fun hmax ↦ ?_
      have := s.nextSequence.toNat_lt
      rw [hmax] at hcount
      simp at hcount
      omega
    have hlength : (s.records.take 1).length = 1 := by
      rw [List.length_take]
      omega
    have hkept : (s.records.tail ++ [value]).length = s.records.length := by
      rw [List.length_append, List.length_tail, List.length_singleton]
      omega
    refine ⟨rfl, ⟨?_, ?_, hkept.trans_le hroom, hcapacity⟩, ?_, hnextSucc, ?_⟩
    · rw [holdestSucc]
      omega
    · rw [holdestSucc, hnextSucc, hkept]
      omega
    · rw [← List.append_assoc, ← List.drop_one, List.take_append_drop]
    · rw [holdestSucc, hlength]
  · have hlonger : (s.records ++ [value]).length = s.records.length + 1 := List.length_append
    refine ⟨rfl, ⟨holdest, ?_, ?_, hcapacity⟩, rfl, hnextSucc, rfl⟩
    · rw [hnextSucc, hlonger, ← hcount]
      rfl
    · rw [hlonger]
      exact Nat.lt_of_le_of_ne hroom hfull

/-- What a read gives when the cursor is where records are retained. -/
theorem read_of_le {s : RetainedStream α} (h : s.Sound) {cursor : UInt64} {maxRecords : Nat}
    (hmax : 0 < maxRecords) (holdest : s.oldestSequence ≤ cursor) (hnext : cursor ≤ s.nextSequence) :
    ∃ batch, s.read cursor maxRecords = .ok batch
      ∧ batch.records = numbered cursor.toNat
          ((s.records.drop (cursor.toNat - s.oldestSequence.toNat)).take maxRecords)
      ∧ batch.nextCursor.toNat = cursor.toNat + batch.records.length := by
  have hzero : cursor ≠ 0 := by
    rintro rfl
    have := h.oldest.trans (UInt64.le_iff_toNat_le.mp holdest)
    exact absurd this (by decide)
  have hoffset : (cursor - s.oldestSequence).toNat = cursor.toNat - s.oldestSequence.toNat :=
    UInt64.toNat_sub_of_le _ _ holdest
  rw [UInt64.le_iff_toNat_le] at holdest
  have hnextNat := UInt64.le_iff_toNat_le.mp hnext
  have hlast := s.nextSequence.toNat_lt
  have hcount := h.next
  unfold read
  rw [if_neg hzero, if_neg (Nat.ne_of_gt hmax), if_neg (by rw [UInt64.lt_iff_toNat_lt]; omega),
    if_neg (by rw [UInt64.lt_iff_toNat_lt]; omega), hoffset]
  dsimp only
  generalize hrecords : (s.records.drop (cursor.toNat - s.oldestSequence.toNat)).take maxRecords
    = records
  have hlength : cursor.toNat + records.length ≤ s.nextSequence.toNat := by
    rw [← hrecords, List.length_take, List.length_drop]
    omega
  have hsum : checkedAdd64 cursor (UInt64.ofNat records.length)
      = some (UInt64.ofNat (cursor.toNat + records.length)) := by
    have hsize : cursor.toNat + records.length < UInt64.size := Nat.lt_of_le_of_lt hlength hlast
    rw [checkedAdd64_eq_some, UInt64.toNat_ofNat_of_lt' hsize,
      UInt64.toNat_ofNat_of_lt' (Nat.lt_of_le_of_lt (Nat.le_add_left ..) hsize)]
  rw [number_eq (by omega)]
  dsimp only
  rw [length_numbered, hsum]
  refine ⟨_, rfl, rfl, ?_⟩
  dsimp only
  rw [length_numbered]
  exact UInt64.toNat_ofNat_of_lt' (Nat.lt_of_le_of_lt hlength hlast)

/-- A read of no records is refused. -/
theorem pos_of_read {s : RetainedStream α} {cursor : UInt64} {maxRecords : Nat}
    {batch : PresentationBatch α} (h : s.read cursor maxRecords = .ok batch) : 0 < maxRecords := by
  refine Nat.pos_of_ne_zero fun hzero ↦ ?_
  unfold read at h
  by_cases hcursor : cursor = 0
  · rw [if_pos hcursor] at h
    cases h
  · rw [if_neg hcursor, if_pos hzero] at h
    cases h

theorem read_of_lt {s : RetainedStream α} {cursor : UInt64} {maxRecords : Nat}
    (hzero : cursor ≠ 0) (hmax : 0 < maxRecords) (holdest : cursor < s.oldestSequence) :
    s.read cursor maxRecords = .error (.resyncRequired s.oldestSequence) := by
  rw [read, if_neg hzero, if_neg (Nat.ne_of_gt hmax), if_pos holdest]

end RetainedStream

/-! ## A reader that resumes -/

inductive StreamCall (α : Type u) where
  | push (value : α)
  | read (maxRecords : Nat)

/-- A stream with one reader, and what has been pushed, evicted and received. -/
structure Consumption (α : Type u) where
  stream : RetainedStream α
  pushed : List α
  evicted : List α
  cursor : UInt64
  received : List (Sequenced α)

namespace Consumption

def start (stream : RetainedStream α) : Consumption α where
  stream := stream
  pushed := []
  evicted := []
  cursor := presentationCursorBegin
  received := []

def step (c : Consumption α) : StreamCall α → Consumption α
  | .push value =>
      match c.stream.push value with
      | (.error _, _) => c
      | (.ok _, stream) =>
          { c with
            stream := stream
            pushed := c.pushed ++ [value]
            evicted := c.evicted ++ c.stream.evicts }
  | .read maxRecords =>
      match c.stream.read c.cursor maxRecords with
      | .error _ => c
      | .ok batch =>
          { c with
            cursor := batch.nextCursor
            received := c.received ++ batch.records }

/-- The reader has received the front of what was pushed, and its cursor says how much. -/
structure Inv (capacity : Nat) (c : Consumption α) : Prop where
  sound : c.stream.Sound
  capacity : c.stream.capacity = capacity
  pushed : c.evicted ++ c.stream.records = c.pushed
  oldest : c.stream.oldestSequence.toNat = c.evicted.length + 1
  cursor : c.cursor.toNat = c.received.length + 1
  behind : c.received.length ≤ c.pushed.length
  received : c.received = numbered 1 (c.pushed.take c.received.length)

variable {capacity : Nat} {c : Consumption α}

theorem Inv.next (h : c.Inv capacity) : c.stream.nextSequence.toNat = c.pushed.length + 1 := by
  have hlength := congrArg List.length h.pushed
  have hnext := h.sound.next
  have holdest := h.oldest
  rw [List.length_append] at hlength
  omega

/-- A reader to which nothing is lost is given what it has not yet received. -/
theorem Inv.read (h : c.Inv capacity) (hkept : c.evicted.length ≤ c.received.length)
    {maxRecords : Nat} (hmax : 0 < maxRecords) :
    ∃ batch, c.stream.read c.cursor maxRecords = .ok batch
      ∧ batch.records = numbered (c.received.length + 1)
          ((c.pushed.drop c.received.length).take maxRecords)
      ∧ batch.nextCursor.toNat = c.cursor.toNat + batch.records.length := by
  have holdest := h.oldest
  have hcursor := h.cursor
  have hnext := h.next
  have hbehind := h.behind
  obtain ⟨batch, hbatch, hrecords, hresume⟩ := RetainedStream.read_of_le h.sound hmax
    (UInt64.le_iff_toNat_le.mpr (by omega) : c.stream.oldestSequence ≤ c.cursor)
    (UInt64.le_iff_toNat_le.mpr (by omega))
  refine ⟨batch, hbatch, ?_, hresume⟩
  have hoffset : c.cursor.toNat - c.stream.oldestSequence.toNat
      = c.received.length - c.evicted.length := by omega
  have hdrop : c.pushed.drop c.received.length
      = c.stream.records.drop (c.received.length - c.evicted.length) := by
    rw [← h.pushed, List.drop_append, List.drop_of_length_le hkept, List.nil_append]
  rw [hrecords, hcursor, ← hcursor, hoffset, ← hdrop, hcursor]

/-- A reader to which a record is lost is told so. -/
theorem Inv.resync (h : c.Inv capacity) (hlost : c.received.length < c.evicted.length)
    {maxRecords : Nat} (hmax : 0 < maxRecords) :
    c.stream.read c.cursor maxRecords = .error (.resyncRequired c.stream.oldestSequence) := by
  have holdest := h.oldest
  have hcursor := h.cursor
  refine RetainedStream.read_of_lt ?_ hmax (UInt64.lt_iff_toNat_lt.mpr (by omega))
  intro hzero
  rw [hzero] at hcursor
  exact absurd hcursor (by simp)

theorem Inv.push (h : c.Inv capacity) (value : α) : (c.step (.push value)).Inv capacity := by
  by_cases hnext : c.stream.nextSequence = 18446744073709551615
  · have hpush : c.stream.push value = (.error .overflow, c.stream) := if_pos hnext
    rw [step, hpush]
    exact h
  · obtain ⟨hok, hsound, hrecords, -, holdest⟩ := RetainedStream.push_of_ne h.sound hnext value
    have hcapacity : (c.stream.push value).2.capacity = c.stream.capacity := by
      unfold RetainedStream.push
      split_ifs <;> rfl
    rw [step]
    generalize c.stream.push value = pushed at hok hsound hrecords holdest hcapacity ⊢
    obtain ⟨result, stream⟩ := pushed
    obtain rfl : result = _ := hok
    refine ⟨hsound, hcapacity.trans h.capacity, ?_, ?_, h.cursor, ?_, ?_⟩
    · rw [List.append_assoc, hrecords, ← List.append_assoc, h.pushed]
    · rw [holdest, h.oldest, List.length_append]
      omega
    · rw [List.length_append]
      exact h.behind.trans (Nat.le_add_right ..)
    · rw [List.take_append_of_le_length h.behind]
      exact h.received

theorem Inv.receive (h : c.Inv capacity) {batch : PresentationBatch α} {maxRecords : Nat}
    (hrecords : batch.records = numbered (c.received.length + 1)
      ((c.pushed.drop c.received.length).take maxRecords))
    (hresume : batch.nextCursor.toNat = c.cursor.toNat + batch.records.length) :
    Inv capacity
      { c with
        cursor := batch.nextCursor
        received := c.received ++ batch.records } := by
  have hbehind := h.behind
  have hrest : (c.pushed.drop c.received.length).length = c.pushed.length - c.received.length :=
    List.length_drop
  have hlength : batch.records.length = min maxRecords (c.pushed.length - c.received.length) := by
    rw [hrecords, length_numbered, List.length_take, hrest]
  have hlonger : (c.received ++ batch.records).length
      = c.received.length + min maxRecords (c.pushed.length - c.received.length) := by
    rw [List.length_append, hlength]
  refine ⟨h.sound, h.capacity, h.pushed, h.oldest, ?_, ?_, ?_⟩
  · show batch.nextCursor.toNat = (c.received ++ batch.records).length + 1
    rw [hresume, h.cursor, List.length_append]
    omega
  · show (c.received ++ batch.records).length ≤ c.pushed.length
    omega
  · show c.received ++ batch.records
      = numbered 1 (c.pushed.take (c.received ++ batch.records).length)
    have hfront : (c.pushed.take c.received.length).length = c.received.length :=
      List.length_take_of_le hbehind
    rw [hlonger, List.take_add, numbered_append, hfront, ← h.received, hrecords, Nat.add_comm 1,
      ← hrest, ← List.take_eq_take_min]

theorem Inv.step (h : c.Inv capacity) (call : StreamCall α) : (c.step call).Inv capacity := by
  cases call with
  | push value => exact h.push value
  | read maxRecords =>
      rw [Consumption.step]
      cases hread : c.stream.read c.cursor maxRecords with
      | error error => exact h
      | ok batch =>
          have hmax := RetainedStream.pos_of_read hread
          have hkept : c.evicted.length ≤ c.received.length := by
            by_contra hlost
            rw [h.resync (Nat.lt_of_not_le hlost) hmax] at hread
            cases hread
          obtain ⟨_, hbatch, hrecords, hresume⟩ := h.read hkept hmax
          cases hread.symm.trans hbatch
          exact h.receive hrecords hresume

/-- However pushes and reads follow one another. -/
theorem consumption_spec {stream : RetainedStream α} (hnew : RetainedStream.new capacity = .ok stream)
    (calls : List (StreamCall α)) :
    let c := run step (start stream) calls
    c.received = numbered 1 (c.pushed.take c.received.length)
      ∧ (∀ maxRecords, 0 < maxRecords →
        (c.evicted.length ≤ c.received.length →
          ∃ batch, c.stream.read c.cursor maxRecords = .ok batch
            ∧ batch.records = numbered (c.received.length + 1)
              ((c.pushed.drop c.received.length).take maxRecords))
        ∧ (c.received.length < c.evicted.length →
          c.stream.read c.cursor maxRecords = .error (.resyncRequired c.stream.oldestSequence)))
      ∧ c.evicted ++ c.stream.records = c.pushed
      ∧ c.stream.oldestSequence.toNat + c.stream.records.length = c.stream.nextSequence.toNat
      ∧ c.stream.records.length ≤ capacity := by
  intro c
  obtain ⟨hsound, hcapacity, hrecords, holdest⟩ := RetainedStream.sound_of_new hnew
  have hinv : c.Inv capacity := run_invariant step (Inv capacity) (fun _ call h ↦ h.step call)
    (s := start stream) ⟨hsound, hcapacity, hrecords, holdest, rfl, Nat.le_refl _, rfl⟩ calls
  · refine ⟨hinv.received, fun maxRecords hmax ↦ ⟨fun hkept ↦ ?_, fun hlost ↦ hinv.resync hlost hmax⟩,
      hinv.pushed, hinv.sound.next, hinv.capacity ▸ hinv.sound.room⟩
    obtain ⟨batch, hbatch, hrecords, -⟩ := hinv.read hkept hmax
    exact ⟨batch, hbatch, hrecords⟩

/-- Three records pushed to a stream that retains two, and the first read after that. -/
theorem consumption_spec_three_pushed :
    let c := run step (start (⟨2, presentationCursorBegin, presentationCursorBegin, []⟩ :
      RetainedStream Nat)) [.push 10, .push 20, .push 30]
    c.evicted = [10] ∧ c.stream.read c.cursor 8 = .error (.resyncRequired 2) := by
  have hnew : RetainedStream.new 2 = .ok (⟨2, presentationCursorBegin, presentationCursorBegin, []⟩ :
    RetainedStream Nat) := rfl
  obtain ⟨-, hreads, -⟩ := consumption_spec hnew [.push 10, .push 20, .push 30]
  exact ⟨rfl, (hreads 8 (by decide)).2 (by decide)⟩

end Consumption

end Ksa64.Presentation
