import Ksa64.Library.FailingCalls
import Ksa64.Sim.ArchiveRecovery
import Mathlib.Data.List.Induction

/-!
# Archives over a storage that fails

A write may fail, and leaves the storage as it was; the caller may try again.  The first three writes
of a record lie behind what the superblock counts, so that a failure there leaves the archive as it
was.  A failure of the superblock does not: the writer has gone on, and the storage has not.
-/

namespace Ksa64.Sim

open Ksa64.Library Ksa64.Interface

/-! ## Calls with failures -/

inductive WriterCall where
  | append (kind : UInt16) (runIndex : UInt32) (payload : List UInt8)
  | finish
deriving DecidableEq

namespace WriterCall

def program (F : ArchiveFormat) (capacity : UInt32) (w : ArchiveWriter) :
    WriterCall → Archiving (Attempt ArchiveError ArchiveWriter Unit)
  | append kind runIndex payload => w.append F capacity kind runIndex payload
  | finish => w.finish F capacity

/-- The writes of a call that are writes of the superblock, from zero on. -/
def superblocks : WriterCall → List Nat
  | append .. => [3]
  | finish => [3, 4]

end WriterCall

/-- A call, and which of its writes the storage fails. -/
structure FatedCall where
  call : WriterCall
  fates : Nat → Bool

/-- A storage, and the writer that has it. -/
structure OpenArchive where
  storage : ArchiveStorage
  writer : ArchiveWriter
deriving DecidableEq

namespace OpenArchive

def storageFails (_ : StorageWrite) : Except ArchiveStorageError Unit := .error {}

/-- The storage after a created archive, and its writer. -/
def create (F : ArchiveFormat) (storage : ArchiveStorage) (campaignCrc32 : UInt32) :
    Option OpenArchive :=
  let (result, storage) :=
    (ArchiveWriter.create F storage.capacity campaignCrc32).run ArchiveStorage.write storage
  result.2.map (OpenArchive.mk storage)

def attempt (F : ArchiveFormat) (a : OpenArchive) (i : FatedCall) :
    Attempt ArchiveError OpenArchive Unit :=
  let result := (i.call.program F a.storage.capacity a.writer).run
    (Calls.failing storageFails ArchiveStorage.write i.fates) (a.storage, 0)
  (result.1.1, ⟨result.2.1, result.1.2⟩)

def after (F : ArchiveFormat) (a : OpenArchive) (i : FatedCall) : OpenArchive := (a.attempt F i).2

/-- The record whose `append` returns `Ok`. -/
def accepted (F : ArchiveFormat) (a : OpenArchive) (i : FatedCall) : Option ArchiveRecord :=
  match i.call, (a.attempt F i).1 with
  | .append kind runIndex payload, .ok () => some ⟨kind, runIndex, payload⟩
  | _, _ => none

/-- The call passes the writer's checks. -/
def Goes (a : OpenArchive) : WriterCall → Prop
  | .append kind _ payload => a.writer.finished = false ∧ kind ≠ recordFooter
      ∧ a.writer.logicalLength.toNat + (archiveRecordHeaderLength + payload.length)
        ≤ a.storage.capacity.toNat
  | .finish => a.writer.finished = false
      ∧ a.writer.logicalLength.toNat + 48 ≤ a.storage.capacity.toNat

/-- The first write of the call that fails is one of the superblock. -/
def Tears (a : OpenArchive) (i : FatedCall) : Prop :=
  a.Goes i.call ∧ ∃ k ∈ i.call.superblocks, (∀ j < k, i.fates j = false) ∧ i.fates k = true

/-- The storage has the contents, and a scan says so. -/
structure Commits (F : ArchiveFormat) (storage : ArchiveStorage) (c : ArchiveContents) : Prop where
  scan : scanArchive F storage = .ok c.report
  image : ∃ rest, storage = image F storage.capacity c.writer c.complete c.rendered rest

/-- What is claimed of the calls on a writer: what is committed are the records whose `append`
returned `Ok`, in order and once each, and they are complete when `finish` has returned `Ok`. -/
def CommitsAccepted (F : ArchiveFormat) (campaign : UInt32) (start : OpenArchive)
    (is : List FatedCall) : Prop :=
  ∃ complete, Commits F (run (after F) start is).storage
      ⟨campaign, emits (after F) (accepted F) start is, complete⟩
    ∧ ∀ before i, is = before ++ [i] → i.call = .finish →
      ((run (after F) start before).attempt F i).1 = .ok () → complete = true

end OpenArchive

/-! ## Writes that fail -/

section Writes

variable {F : ArchiveFormat} {capacity : UInt32} {s : ArchiveStorage} {w : ArchiveWriter}
  {offset : UInt32} {bytes : List UInt8} {k n : Nat}
  {next : Archiving (Attempt ArchiveError ArchiveWriter Unit)}

theorem ifFails_store_zero : (w.store offset bytes next).ifFails OpenArchive.storageFails
    ArchiveStorage.write 0 s = .done (.error .storage, w) := rfl

theorem ifFails_store_succ (h : offset.toNat + bytes.length ≤ s.length) :
    (w.store offset bytes next).ifFails OpenArchive.storageFails ArchiveStorage.write (k + 1) s =
      next.ifFails OpenArchive.storageFails ArchiveStorage.write k
        (splice s offset.toNat bytes) := by
  have hwrite : ArchiveStorage.write ⟨offset, bytes⟩ s = (.ok (), splice s offset.toNat bytes) :=
    if_pos h
  rw [ArchiveWriter.store, Calls.ifFails, hwrite]

/-- A failure before the superblock leaves the writer as it was. -/
theorem ifFails_appendInternal {r : ArchiveRecord} {c : ArchiveCursor} {campaign : UInt32}
    {finished : Bool} (hroom : c.offset.toNat + r.size ≤ capacity.toNat)
    (hs : capacity.toNat ≤ s.length) (hk : k < 3) :
    ((c.writer campaign finished).appendInternal F capacity r.kind r.runIndex r.payload).ifFails
        OpenArchive.storageFails ArchiveStorage.write k s =
      .done (.error .storage, c.writer campaign finished) := by
  have hbound := capacity.toNat_lt
  have hheader (flags : UInt16) := c.length_header (r := r) flags
  have hsize : r.size = archiveRecordHeaderLength + r.payload.length := rfl
  unfold archiveRecordHeaderLength at hheader hsize
  have hpayload : (c.offset + UInt32.ofNat archiveRecordHeaderLength).toNat = c.offset.toNat + 32 := by
    rw [UInt32.toNat_add, archiveRecordHeaderLength, UInt32.toNat_ofNat_of_lt' (by decide)]
    omega
  have hfirst : c.offset.toNat + (c.header r 0).length ≤ s.length := by
    rw [hheader]
    omega
  rw [appendInternal_eq hroom]
  obtain rfl | rfl | rfl : k = 0 ∨ k = 1 ∨ k = 2 := by omega
  · exact ifFails_store_zero
  · rw [ifFails_store_succ hfirst]
    exact ifFails_store_zero
  · rw [ifFails_store_succ hfirst, ifFails_store_succ]
    · exact ifFails_store_zero
    · rw [hpayload, length_splice hfirst]
      omega

end Writes

/-! ## Calls -/

namespace OpenArchive

section Attempt

variable {F : ArchiveFormat} {a : OpenArchive} {c : ArchiveContents} {i : FatedCall}

/-- The writer is at the contents that the storage holds. -/
structure AtContents (F : ArchiveFormat) (a : OpenArchive) (c : ArchiveContents) : Prop where
  writer_eq : a.writer = c.writer
  holds : Holds F a.storage c

theorem AtContents.commits (h : a.AtContents F c) : Commits F a.storage c :=
  ⟨h.holds.scan, h.holds.spells.eq_image⟩

theorem AtContents.offset (h : a.AtContents F c) : a.writer.logicalLength.toNat = c.size := by
  rw [h.writer_eq]
  exact h.holds.toNat_offset

theorem AtContents.goes_append (h : a.AtContents F c) (r : ArchiveRecord) :
    a.Goes (.append r.kind r.runIndex r.payload) ↔ c.Takes a.storage.capacity r := by
  have hfinished : a.writer.finished = c.complete := by
    rw [h.writer_eq]
    rfl
  show a.writer.finished = false ∧ _ ∧ a.writer.logicalLength.toNat + _ ≤ _ ↔ _
  rw [hfinished, h.offset]
  rfl

theorem AtContents.goes_finish (h : a.AtContents F c) :
    a.Goes .finish ↔ c.Finishes a.storage.capacity := by
  have hfinished : a.writer.finished = c.complete := by
    rw [h.writer_eq]
    rfl
  show a.writer.finished = false ∧ a.writer.logicalLength.toNat + _ ≤ _ ↔ _
  rw [hfinished, h.offset]
  rfl

/-- A storage in which what is counted is the same. -/
theorem holds_of_spells {s t : ArchiveStorage} (h : Holds F s c)
    (ht : Spells F s.capacity c.writer c.complete c.rendered t) : Holds F t c := by
  have hcapacity := ht.capacity_eq
  exact ⟨h.ordinary, hcapacity ▸ h.fits, hcapacity ▸ ht⟩

/-- The call changes nothing, and does not return `Ok`. -/
theorem attempt_of_done {result : Attempt ArchiveError ArchiveWriter Unit}
    (h : i.call.program F a.storage.capacity a.writer = .done result) :
    a.attempt F i = (result.1, ⟨a.storage, result.2⟩) := by
  unfold attempt
  rw [h]
  rfl

/-- A call none of whose writes fails. -/
theorem attempt_spared {P : Nat → ArchiveStorage → Prop}
    {result : Attempt ArchiveError ArchiveWriter Unit} {t : ArchiveStorage} {n : Nat}
    (h : (i.call.program F a.storage.capacity a.writer).Passes ArchiveStorage.write a.storage n P
      result t) (hspared : ∀ j < n, i.fates j = false) :
    a.attempt F i = (result.1, ⟨t, result.2⟩) := by
  unfold attempt
  rw [Calls.run_failing_spared]
  · rw [h.run]
  · rw [h.count]
    intro j hj
    rw [Nat.zero_add]
    exact hspared j hj

/-- A program one of whose writes fails. -/
theorem run_fated {p : Archiving (Attempt ArchiveError ArchiveWriter Unit)}
    {P : Nat → ArchiveStorage → Prop} {result failed : Attempt ArchiveError ArchiveWriter Unit}
    {s t : ArchiveStorage} {fates : Nat → Bool} {n k : Nat}
    (h : p.Passes ArchiveStorage.write s n P result t) (hk : k < n)
    (hspared : ∀ j < k, fates j = false) (hfated : fates k = true)
    (hfails : p.ifFails storageFails ArchiveStorage.write k s = .done failed) :
    ∃ t' m, P k t'
      ∧ p.run (Calls.failing storageFails ArchiveStorage.write fates) (s, 0) = (failed, (t', m)) := by
  refine ⟨_, _, h.through k hk, Calls.run_failing_fated (k := k) ?_ ?_ ?_ hfails⟩
  · intro j hj
    rw [Nat.zero_add]
    exact hspared j hj
  · rw [Nat.zero_add]
    exact hfated
  · rw [h.count]
    exact hk

/-! ### Appending -/

theorem append_program {r : ArchiveRecord} (h : a.AtContents F c)
    (hr : c.Takes a.storage.capacity r) :
    (WriterCall.append r.kind r.runIndex r.payload).program F a.storage.capacity a.writer =
      (c.cursor.writer c.campaignCrc32 c.complete).appendInternal F a.storage.capacity r.kind
        r.runIndex r.payload := by
  obtain ⟨hopen, hkind, hfits⟩ := hr
  have hbound := a.storage.capacity.toNat_lt
  have hgo : ¬(c.writer.finished ∨ r.kind = recordFooter ∨ 2 ^ 32 - 1 < r.payload.length) := by
    have hpayload : ¬2 ^ 32 - 1 < r.payload.length := by
      unfold ArchiveRecord.size at hfits
      omega
    exact not_or.mpr ⟨Bool.eq_false_iff.mp hopen, not_or.mpr ⟨hkind, hpayload⟩⟩
  show a.writer.append F _ _ _ _ = _
  rw [h.writer_eq, ArchiveWriter.append, if_neg hgo]
  rfl

/-- A failed `append` that leaves the superblock alone leaves the archive as it was. -/
theorem append_fails {r : ArchiveRecord} {k : Nat} (h : a.AtContents F c)
    (hcall : i.call = .append r.kind r.runIndex r.payload) (hr : c.Takes a.storage.capacity r)
    (hk : k < 3) (hspared : ∀ j < k, i.fates j = false) (hfated : i.fates k = true) :
    (a.attempt F i).1 = .error .storage ∧ (a.after F i).AtContents F c := by
  have hprogram := append_program h hr
  have hroom : c.cursor.offset.toNat + r.size ≤ a.storage.capacity.toNat := by
    rw [h.holds.toNat_offset]
    exact hr.2.2
  obtain ⟨t, hpasses, -⟩ := @appendInternal_passes _ _ _ _ _ _ r c.cursor c.campaignCrc32 c.complete
    h.holds.spells hr.2.2 rfl
  have hfails := @ifFails_appendInternal F _ a.storage k r c.cursor c.campaignCrc32 c.complete hroom
    (ArchiveStorage.capacity_le _) hk
  rw [← hprogram, ← hcall] at hpasses hfails
  obtain ⟨t', m, hspells, hrun⟩ := run_fated hpasses (by omega) hspared hfated hfails
  unfold after attempt
  rw [hrun]
  exact ⟨rfl, rfl, holds_of_spells h.holds hspells⟩

theorem append_succeeds {r : ArchiveRecord} (h : a.AtContents F c)
    (hcall : i.call = .append r.kind r.runIndex r.payload) (hr : c.Takes a.storage.capacity r)
    (hspared : ∀ j < 4, i.fates j = false) :
    (a.attempt F i).1 = .ok ()
      ∧ (a.after F i).AtContents F { c with records := c.records ++ [r] } := by
  obtain ⟨t, hpasses, -, hholds⟩ := append_passes h.holds hr
  have hprogram : i.call.program F a.storage.capacity a.writer =
      c.writer.append F a.storage.capacity r.kind r.runIndex r.payload := by
    rw [hcall, h.writer_eq]
    rfl
  rw [← hprogram] at hpasses
  have hattempt := attempt_spared hpasses hspared
  unfold after
  rw [hattempt]
  exact ⟨rfl, rfl, hholds⟩

theorem append_refused {r : ArchiveRecord} (h : a.AtContents F c)
    (hcall : i.call = .append r.kind r.runIndex r.payload) (hr : ¬c.Takes a.storage.capacity r) :
    (∃ e, (a.attempt F i).1 = .error e) ∧ a.after F i = a := by
  obtain ⟨e, he⟩ := append_rejects h.holds hr
  have hprogram : i.call.program F a.storage.capacity a.writer = .done (.error e, a.writer) := by
    rw [hcall, h.writer_eq]
    exact he
  unfold after
  rw [attempt_of_done hprogram]
  exact ⟨⟨e, rfl⟩, rfl⟩

/-! ### Finishing -/

/-- What `finish` does once it has appended the footer. -/
def conclude (F : ArchiveFormat) (capacity : UInt32) :
    Attempt ArchiveError ArchiveWriter Unit → Archiving (Attempt ArchiveError ArchiveWriter Unit)
  | (.error error, w) => .done (.error error, w)
  | (.ok (), w) => { w with finished := true }.writeSuperblock F capacity true

theorem finish_program {r : ArchiveRecord} (h : a.AtContents F c)
    (hc : c.Finishes a.storage.capacity) (hr : r = c.cursor.footer c.campaignCrc32) :
    WriterCall.finish.program F a.storage.capacity a.writer =
      ((c.cursor.writer c.campaignCrc32 c.complete).appendInternal F a.storage.capacity r.kind
        r.runIndex r.payload).andThen (conclude F a.storage.capacity) := by
  have hgo : ¬c.writer.finished = true := Bool.eq_false_iff.mp hc.1
  show a.writer.finish F _ = _
  rw [h.writer_eq, ArchiveWriter.finish, if_neg hgo, hr]
  rfl

theorem finish_succeeds (h : a.AtContents F c) (hcall : i.call = .finish)
    (hc : c.Finishes a.storage.capacity) (hspared : ∀ j < 5, i.fates j = false) :
    (a.attempt F i).1 = .ok () ∧ (a.after F i).AtContents F { c with complete := true } := by
  obtain ⟨t, hpasses, -, hholds⟩ := finish_passes h.holds hc
  have hprogram : i.call.program F a.storage.capacity a.writer =
      c.writer.finish F a.storage.capacity := by
    rw [hcall, h.writer_eq]
    rfl
  rw [← hprogram] at hpasses
  have hattempt := attempt_spared hpasses hspared
  unfold after
  rw [hattempt]
  exact ⟨rfl, rfl, hholds⟩

/-- A failed `finish` that leaves the superblock alone leaves the archive as it was. -/
theorem finish_fails {k : Nat} (h : a.AtContents F c) (hcall : i.call = .finish)
    (hc : c.Finishes a.storage.capacity) (hk : k < 3) (hspared : ∀ j < k, i.fates j = false)
    (hfated : i.fates k = true) :
    (a.attempt F i).1 = .error .storage ∧ (a.after F i).AtContents F c := by
  generalize hr : c.cursor.footer c.campaignCrc32 = r
  have hsize : r.size = 48 := by
    rw [← hr]
    rfl
  have hprogram := finish_program h hc hr.symm
  have hroom : c.cursor.offset.toNat + r.size ≤ a.storage.capacity.toNat := by
    rw [h.holds.toNat_offset, hsize]
    exact hc.2
  obtain ⟨t, hpasses, -⟩ := @appendInternal_passes _ _ _ _ _ _ r c.cursor c.campaignCrc32 c.complete
    h.holds.spells (by rw [hsize]; exact hc.2) rfl
  have hfails := @ifFails_appendInternal F _ a.storage k r c.cursor c.campaignCrc32 c.complete hroom
    (ArchiveStorage.capacity_le _) hk
  obtain ⟨t', m, hspells, hrun⟩ := run_fated hpasses (by omega) hspared hfated hfails
  unfold after attempt
  rw [hcall, hprogram, Calls.run_andThen, hrun]
  exact ⟨rfl, rfl, holds_of_spells h.holds hspells⟩

/-- When the last superblock fails, the writer has finished and the archive has not. -/
theorem finish_torn (h : a.AtContents F c) (hcall : i.call = .finish)
    (hc : c.Finishes a.storage.capacity) (hspared : ∀ j < 4, i.fates j = false)
    (hfated : i.fates 4 = true) :
    scanArchive F (a.after F i).storage = .error .incomplete
      ∧ (a.after F i).writer.finished = true := by
  generalize hr : c.cursor.footer c.campaignCrc32 = r
  have hsize : r.size = 48 := by
    rw [← hr]
    rfl
  have hprogram := finish_program h hc hr.symm
  obtain ⟨t, hpasses, -⟩ := @appendInternal_passes _ _ _ _ _ _ r c.cursor c.campaignCrc32 c.complete
    h.holds.spells (by rw [hsize]; exact hc.2) rfl
  obtain ⟨t', hwhole, -⟩ := finish_passes h.holds hc
  have hfinish : c.writer.finish F a.storage.capacity =
      i.call.program F a.storage.capacity a.writer := by
    rw [hcall, h.writer_eq]
    rfl
  rw [hfinish] at hwhole
  have hfails : (i.call.program F a.storage.capacity a.writer).ifFails storageFails
      ArchiveStorage.write 4 a.storage = .done (.error .storage,
        (c.cursor.next r).writer c.campaignCrc32 true) := by
    have hlast := @Calls.ifFails_andThen_add _ _ _ _ storageFails ArchiveStorage.write
      ((c.cursor.writer c.campaignCrc32 c.complete).appendInternal F a.storage.capacity r.kind
        r.runIndex r.payload) a.storage _ (conclude F a.storage.capacity) 0
    rw [hpasses.count, hpasses.run] at hlast
    rw [hcall, hprogram]
    exact hlast
  obtain ⟨t'', m, hinterim, hrun⟩ := run_fated hwhole (by omega) hspared hfated hfails
  unfold after attempt
  rw [hrun]
  rw [Interim, if_pos rfl] at hinterim
  exact ⟨hinterim, rfl⟩

/-- A writer that has finished returns `Ok`, and does nothing. -/
theorem finish_again (hcall : i.call = .finish) (h : a.writer.finished = true) :
    (a.attempt F i).1 = .ok () ∧ a.after F i = a := by
  have hprogram : i.call.program F a.storage.capacity a.writer = .done (.ok (), a.writer) := by
    rw [hcall]
    show a.writer.finish F _ = _
    rw [ArchiveWriter.finish, if_pos h]
  unfold after
  rw [attempt_of_done hprogram]
  exact ⟨rfl, rfl⟩

theorem finish_refused (h : a.AtContents F c) (hcall : i.call = .finish)
    (hc : ¬c.Finishes a.storage.capacity) :
    ((a.attempt F i).1 = .ok () → c.complete = true) ∧ a.after F i = a := by
  cases hcomplete : c.complete with
  | true =>
      obtain ⟨result, hresult⟩ := finish_rejects h.holds hc
      have hprogram : i.call.program F a.storage.capacity a.writer = .done (result, a.writer) := by
        rw [hcall, h.writer_eq]
        exact hresult
      unfold after
      rw [attempt_of_done hprogram]
      exact ⟨fun _ ↦ rfl, rfl⟩
  | false =>
      have hgo : ¬c.writer.finished = true := Bool.eq_false_iff.mp hcomplete
      have hroom : a.storage.capacity.toNat <
          c.cursor.offset.toNat + (c.cursor.footer c.campaignCrc32).size := by
        rw [h.holds.toNat_offset]
        exact Nat.lt_of_not_le fun hfits ↦ hc ⟨hcomplete, hfits⟩
      have hlength : (c.cursor.footer c.campaignCrc32).payload.length < 2 ^ 32 := by
        show 16 < 2 ^ 32
        decide
      obtain ⟨e, he⟩ := @appendInternal_rejects F _ _ _ c.campaignCrc32 c.complete hlength hroom
      have hprogram : i.call.program F a.storage.capacity a.writer =
          .done (.error e, a.writer) := by
        rw [hcall, h.writer_eq]
        show c.writer.finish F _ = _
        rw [ArchiveWriter.finish, if_neg hgo]
        exact congrArg (Calls.andThen · _) he
      unfold after
      rw [attempt_of_done hprogram]
      refine ⟨fun hok ↦ ?_, rfl⟩
      cases hok

/-! ### Runs -/

/-- A call that does not tear commits what it accepts. -/
structure GoesOn (F : ArchiveFormat) (a : OpenArchive) (c : ArchiveContents) (i : FatedCall)
    (complete : Bool) : Prop where
  contents : (a.after F i).AtContents F
    { c with records := c.records ++ (a.accepted F i).toList, complete := complete }
  finished : i.call = .finish → (a.attempt F i).1 = .ok () → complete = true

theorem append_goesOn {r : ArchiveRecord} (h : a.AtContents F c)
    (hcall : i.call = .append r.kind r.runIndex r.payload) (hwhole : ¬a.Tears i) :
    GoesOn F a c i c.complete := by
  have hnone {e : ArchiveError} (hfailed : (a.attempt F i).1 = .error e)
      (hafter : (a.after F i).AtContents F c) : GoesOn F a c i c.complete := by
    have haccepted : a.accepted F i = none := by
      unfold accepted
      rw [hcall, hfailed]
    refine ⟨?_, fun hfinish ↦ ?_⟩
    · rw [haccepted, Option.toList_none, List.append_nil]
      exact hafter
    · rw [hcall] at hfinish
      cases hfinish
  by_cases hr : c.Takes a.storage.capacity r
  · rcases Calls.spared_or_fated i.fates 4 with hspared | ⟨k, hk, hspared, hfated⟩
    · obtain ⟨hok, hafter⟩ := append_succeeds h hcall hr hspared
      have haccepted : a.accepted F i = some r := by
        unfold accepted
        rw [hcall, hok]
      refine ⟨?_, fun hfinish ↦ ?_⟩
      · rw [haccepted]
        exact hafter
      · rw [hcall] at hfinish
        cases hfinish
    · have hbefore : k < 3 := by
        by_contra hlast
        obtain rfl : k = 3 := by omega
        refine hwhole ⟨?_, 3, ?_, hspared, hfated⟩
        · rw [hcall]
          exact (h.goes_append r).mpr hr
        · rw [hcall]
          exact List.mem_singleton_self 3
      obtain ⟨hfailed, hafter⟩ := append_fails h hcall hr hbefore hspared hfated
      exact hnone hfailed hafter
  · obtain ⟨⟨e, hfailed⟩, hafter⟩ := append_refused h hcall hr
    refine hnone hfailed ?_
    rw [hafter]
    exact h

theorem finish_goesOn (h : a.AtContents F c) (hcall : i.call = .finish) (hwhole : ¬a.Tears i) :
    ∃ complete, GoesOn F a c i complete := by
  have haccepted : a.accepted F i = none := by
    unfold accepted
    rw [hcall]
  have hrecords : c.records ++ (a.accepted F i).toList = c.records := by
    rw [haccepted, Option.toList_none, List.append_nil]
  by_cases hc : c.Finishes a.storage.capacity
  · rcases Calls.spared_or_fated i.fates 5 with hspared | ⟨k, hk, hspared, hfated⟩
    · obtain ⟨-, hafter⟩ := finish_succeeds h hcall hc hspared
      refine ⟨true, ?_, fun _ _ ↦ rfl⟩
      rw [hrecords]
      exact hafter
    · have hbefore : k < 3 := by
        by_contra hlast
        refine hwhole ⟨?_, k, ?_, hspared, hfated⟩
        · rw [hcall]
          exact h.goes_finish.mpr hc
        · rw [hcall]
          show k ∈ [3, 4]
          rw [List.mem_cons, List.mem_singleton]
          omega
      obtain ⟨hfailed, hafter⟩ := finish_fails h hcall hc hbefore hspared hfated
      refine ⟨c.complete, ?_, fun _ hok ↦ ?_⟩
      · rw [hrecords]
        exact hafter
      · rw [hfailed] at hok
        cases hok
  · obtain ⟨hcomplete, hafter⟩ := finish_refused h hcall hc
    refine ⟨c.complete, ?_, fun _ ↦ hcomplete⟩
    rw [hrecords, hafter]
    exact h

theorem goesOn (h : a.AtContents F c) (hwhole : ¬a.Tears i) :
    ∃ complete, GoesOn F a c i complete := by
  cases hcall : i.call with
  | append kind runIndex payload =>
      exact ⟨_, @append_goesOn F a c i ⟨kind, runIndex, payload⟩ h hcall hwhole⟩
  | finish => exact finish_goesOn h hcall hwhole

end Attempt

section Runs

variable {F : ArchiveFormat} {storage : ArchiveStorage} {campaign : UInt32} {start : OpenArchive}
  {is : List FatedCall}

theorem atContents_create (h : create F storage campaign = some start) :
    start.AtContents F ⟨campaign, [], false⟩ := by
  unfold create at h
  by_cases hroom : archiveSuperblockLength ≤ storage.capacity.toNat
  · have hnone : Reports F storage none := by
      intro contents hcontents
      cases hcontents
    obtain ⟨t, hpasses, -, hholds⟩ := create_passes hnone hroom campaign
    rw [hpasses.run] at h
    obtain rfl := Option.some_inj.mp h
    exact ⟨rfl, hholds⟩
  · have hsmall : storage.capacity < UInt32.ofNat archiveSuperblockLength :=
      UInt32.lt_iff_toNat_lt.mpr (Nat.lt_of_not_le hroom)
    rw [ArchiveWriter.create, if_pos hsmall] at h
    cases h

theorem atContents_run (hcreated : create F storage campaign = some start)
    (h : Meets (after F) (fun a i ↦ ¬a.Tears i) start is) :
    ∃ complete, (run (after F) start is).AtContents F
      ⟨campaign, emits (after F) (accepted F) start is, complete⟩ := by
  induction is using List.reverseRecOn with
  | nil => exact ⟨false, atContents_create hcreated⟩
  | append_singleton is i ih =>
      obtain ⟨hbefore, hwhole, -⟩ := meets_append.mp h
      obtain ⟨complete, hcontents⟩ := ih hbefore
      obtain ⟨complete', hnext⟩ := goesOn hcontents hwhole
      rw [run_concat, emits_concat]
      exact ⟨complete', hnext.contents⟩

/-- As long as no superblock fails, exactly the accepted records are committed, whatever else fails and
however often it is tried again. -/
theorem commits_accepted (F : ArchiveFormat) (storage : ArchiveStorage) (campaign : UInt32)
    (start : OpenArchive) (is : List FatedCall) (hcreated : create F storage campaign = some start)
    (h : Meets (after F) (fun a i ↦ ¬a.Tears i) start is) :
    ∀ pre post, is = pre ++ post → CommitsAccepted F campaign start pre := by
  rintro pre post rfl
  have hpre := (meets_append.mp h).1
  rcases List.eq_nil_or_concat pre with rfl | ⟨before, i, rfl⟩
  · refine ⟨false, (atContents_create hcreated).commits, fun before i hnil ↦ ?_⟩
    exact absurd hnil.symm (List.append_ne_nil_of_right_ne_nil _ (List.cons_ne_nil _ _))
  · rw [List.concat_eq_append] at hpre ⊢
    obtain ⟨hbefore, hwhole, -⟩ := meets_append.mp hpre
    obtain ⟨complete, hcontents⟩ := atContents_run hcreated hbefore
    obtain ⟨complete', hnext⟩ := goesOn hcontents hwhole
    refine ⟨complete', ?_, fun before' i' hsame ↦ ?_⟩
    · rw [run_concat, emits_concat]
      exact hnext.contents.commits
    · obtain ⟨rfl, hlast⟩ := List.append_inj' hsame rfl
      obtain rfl := List.singleton_inj.mp hlast
      exact hnext.finished

/-- The creation of an archive that there is room for. -/
theorem create_of_room (h : archiveSuperblockLength ≤ storage.capacity.toNat) :
    ∃ start, create F storage campaign = some start
      ∧ start.storage.capacity = storage.capacity := by
  have hnone : Reports F storage none := by
    intro contents hcontents
    cases hcontents
  obtain ⟨t, hpasses, hcapacity, -⟩ := create_passes hnone h campaign
  refine ⟨⟨t, (ArchiveContents.mk campaign [] false).writer⟩, ?_, hcapacity⟩
  unfold create
  rw [hpasses.run]
  rfl

theorem capacity_replicate {n : Nat} (h : n < 2 ^ 32) :
    (ArchiveStorage.capacity (List.replicate n 0)).toNat = n := by
  rw [ArchiveStorage.capacity, List.length_replicate, UInt32.toNat_ofNat']
  omega

def never (_ : Nat) : Bool := false

/-- An `append` that is tried twice, and a `finish` that is tried twice. -/
def triedTwice : List FatedCall :=
  [⟨.append 1 0 [1, 2, 3], (· == 1)⟩, ⟨.append 1 0 [1, 2, 3], never⟩, ⟨.finish, (· == 2)⟩,
    ⟨.finish, never⟩]

theorem not_tears_of_spared {a : OpenArchive} {i : FatedCall} (h3 : i.fates 3 = false)
    (h4 : i.fates 4 = false) : ¬a.Tears i := by
  rintro ⟨-, k, hk, -, hfated⟩
  have hcases : k = 3 ∨ k = 4 := by
    cases hcall : i.call with
    | append kind runIndex payload =>
        rw [hcall] at hk
        exact .inl (List.mem_singleton.mp hk)
    | finish =>
        rw [hcall] at hk
        rcases List.mem_cons.mp hk with h | h
        · exact .inl h
        · exact .inr (List.mem_singleton.mp h)
  rcases hcases with rfl | rfl
  · rw [h3] at hfated
    cases hfated
  · rw [h4] at hfated
    cases hfated

theorem triedTwice_commits : ∃ start, create kra4 (List.replicate 400 0) 7 = some start
    ∧ ∀ pre post, triedTwice = pre ++ post → CommitsAccepted kra4 7 start pre := by
  have hroom : archiveSuperblockLength ≤ (ArchiveStorage.capacity (List.replicate 400 0)).toNat := by
    rw [capacity_replicate (by decide)]
    decide
  obtain ⟨start, hcreated, -⟩ := @create_of_room kra4 _ 7 hroom
  refine ⟨start, hcreated, commits_accepted kra4 _ 7 start triedTwice hcreated ?_⟩
  exact ⟨not_tears_of_spared rfl rfl, not_tears_of_spared rfl rfl, not_tears_of_spared rfl rfl,
    not_tears_of_spared rfl rfl, trivial⟩

/-- The superblock of a complete archive is not written, and never tried again. -/
theorem incomplete_finish : ∃ start, create kra4 (List.replicate 304 0) 7 = some start
    ∧ ¬CommitsAccepted kra4 7 start [⟨.finish, (· == 4)⟩, ⟨.finish, never⟩] := by
  have hcapacity := @capacity_replicate 304 (by decide)
  have hroom : archiveSuperblockLength ≤ (ArchiveStorage.capacity (List.replicate 304 0)).toNat := by
    rw [hcapacity]
    decide
  obtain ⟨start, hcreated, hsame⟩ := @create_of_room kra4 _ 7 hroom
  refine ⟨start, hcreated, ?_⟩
  rintro ⟨complete, hcommits, -⟩
  have hstart := atContents_create hcreated
  have hfinishes : (ArchiveContents.mk 7 [] false).Finishes start.storage.capacity := by
    refine ⟨rfl, ?_⟩
    rw [hsame, hcapacity]
    decide
  obtain ⟨hscan, hfinished⟩ := @finish_torn kra4 start _ ⟨.finish, (· == 4)⟩ hstart rfl hfinishes
    (by decide) rfl
  have hagain := (@finish_again kra4 _ ⟨.finish, never⟩ rfl hfinished).2
  have hlast := hcommits.scan
  rw [run_cons, run_cons, run_nil, hagain, hscan] at hlast
  cases hlast

end Runs

end OpenArchive

end Ksa64.Sim
