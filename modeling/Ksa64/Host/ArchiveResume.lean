import Ksa64.Library.Attempt
import Ksa64.Host.SearchArchive

/-!
# Resuming an archive

A search that is run again finds the archive of the run before.  It scans the file, counts the
generations in it and appends those that are missing, so that it continues where it was interrupted
(`resumeAppend_run`).  It depends on two things that it does not check.  An interruption may leave a
part of a segment behind, which the scanner refuses, in this call and in every later one.  And the
generations in the file are counted, not compared: it continues the archive of another search of the
same manifest as its own (`resumeAppend_of_scanned`).
-/

namespace Ksa64.Host

open Ksa64.Library Ksa64.Interface

/-- A call fails with an error of its own, or it panics. -/
inductive ResumeError where
  | archive (e : ArchiveError)
  | panicked
deriving DecidableEq

/-- What there is under a path. -/
abbrev ArchiveFile := Option (List UInt8)

section Resume

variable (manifest : UInt32) (generations : List SearchGeneration)

/-- The number of generations that are in the file already. -/
def existingGenerations : ArchiveFile → Except ArchiveError Nat
  | none => pure 0
  | some bytes => do
      let scan ← scanArchive bytes
      reject (scan.manifestIdentity ≠ 0 ∧ scan.manifestIdentity ≠ manifest) .identity
      pure scan.generations.length

/-- Append the segments one after the other, up to one that cannot be written. -/
def appendGenerations : List SearchGeneration → List UInt8 → Attempt ResumeError (List UInt8) Unit
  | [], file => (.ok (), file)
  | g :: rest, file =>
      match g.segment manifest with
      | .error e => (.error (.archive e), file)
      | .ok bytes => appendGenerations rest (file ++ bytes)

/-- The call and the file that it leaves.  The generations behind those in the file are a slice,
which panics if there are more in the file. -/
def resumeAppend (file : ArchiveFile) : Attempt ResumeError ArchiveFile Unit :=
  match existingGenerations manifest file with
  | .error e => (.error (.archive e), file)
  | .ok existing =>
      if generations.length < existing then (.error .panicked, some (file.getD []))
      else
        let appended := appendGenerations manifest (generations.drop existing) (file.getD [])
        (appended.1, some appended.2)

/-- A call that goes through, that is interrupted before it opens the file, or that is interrupted
when it has appended some bytes. -/
inductive ResumeCall where
  | whole
  | unopened
  | cut (appended : Nat)

/-- The file that a call leaves. -/
def ResumeCall.step (file : ArchiveFile) : ResumeCall → ArchiveFile
  | .whole => (resumeAppend manifest generations file).2
  | .unopened => file
  | .cut appended =>
      (resumeAppend manifest generations file).2.map (List.take ((file.getD []).length + appended))

end Resume

/-- The bytes of an archive. -/
def archiveBytes (manifest : UInt32) (generations : List SearchGeneration) : List UInt8 :=
  generations.flatMap (·.segmentBytes manifest)

/-- The file ends with a generation. -/
def EndsWithGeneration (manifest : UInt32) (generations : List SearchGeneration) (file : ArchiveFile) :
    Prop :=
  ∃ j ≤ generations.length, file.getD [] = archiveBytes manifest (generations.take j)

section Resuming

variable {manifest : UInt32} {generations : List SearchGeneration} {file : ArchiveFile}
  {xs : List UInt8}

theorem ArchivableFrom.take {n : Nat} (h : ArchivableFrom n generations) (j : Nat) :
    ArchivableFrom n (generations.take j) where
  index i hi := by
    rw [List.getElem_take]
    exact h.index i (lt_of_lt_of_le hi (List.length_take_le' ..))
  archivable g hg := h.archivable g (List.mem_of_mem_take hg)

/-- The segments of an archive. -/
theorem log_eq_archiveBytes :
    kra9Format.log (generations.map (Prod.mk manifest)) = archiveBytes manifest generations := by
  rw [SegmentFormat.log, List.flatMap_map]
  rfl

/-- What an archive says of the manifest: without a segment, nothing. -/
def namedManifest (manifest : UInt32) (generations : List SearchGeneration) : UInt32 :=
  if generations = [] then 0 else manifest

/-- An archive names its manifest in no segment or in all. -/
theorem exists_spelled (manifest : UInt32) (generations : List SearchGeneration) :
    ∃ k ≤ generations.length,
      (k < generations.length ↔ namedManifest manifest generations ≠ 0)
        ∧ generations.map (Prod.mk manifest) =
          spelled k (namedManifest manifest generations) generations := by
  unfold namedManifest
  by_cases hnil : generations = []
  · rw [if_pos hnil, hnil]
    exact ⟨0, Nat.le_refl _, iff_of_false (Nat.lt_irrefl _) (not_not.mpr rfl), rfl⟩
  · rw [if_neg hnil]
    by_cases hzero : manifest = 0
    · rw [hzero]
      refine ⟨generations.length, Nat.le_refl _,
        iff_of_false (Nat.lt_irrefl _) (not_not.mpr rfl), ?_⟩
      rw [spelled, List.take_length, List.drop_length, List.map_nil, List.append_nil]
    · exact ⟨0, Nat.zero_le _, iff_of_true (List.length_pos_of_ne_nil hnil) hzero, rfl⟩

theorem takesAll_archive (h : ArchivableFrom 0 generations) :
    kra9Format.TakesAll ⟨0, []⟩ (generations.map (Prod.mk manifest)) := by
  obtain ⟨k, hk, hiff, heq⟩ := exists_spelled manifest generations
  rw [heq]
  exact takesAll_spelled (s := ⟨0, []⟩) rfl h hk hiff

/-- The scanner reads what the writer writes. -/
theorem scanArchive_archiveBytes (h : ArchivableFrom 0 generations) :
    scanArchive (archiveBytes manifest generations) =
      .ok ⟨namedManifest manifest generations, generations,
        (archiveBytes manifest generations).length⟩ := by
  obtain ⟨k, hk, hiff, heq⟩ := exists_spelled manifest generations
  refine scanArchive_eq_ok_iff.mpr ⟨rfl, h, k, hk, hiff, ?_⟩
  rw [← log_eq_archiveBytes, heq, log_spelled hk]

/-- A generation without candidates. -/
def blankGeneration (index : UInt16) : SearchGeneration :=
  ⟨index, [], [], generationFingerprint index [] []⟩

theorem archivable_blank (index : UInt16) : (blankGeneration index).Archivable where
  lengths := rfl
  count := Nat.zero_le _
  pairs := by rintro pair ⟨⟩
  strict := by rintro pair ⟨⟩
  fingerprint := rfl

theorem archivableFrom_blank : ArchivableFrom 0 [blankGeneration 0, blankGeneration 1] where
  index i hi := by
    rcases i with _ | _ | i
    · rfl
    · rfl
    · exact absurd hi (Nat.not_lt.mpr (Nat.le_add_left 2 i))
  archivable g hg := by
    rcases List.mem_cons.mp hg with rfl | hg
    · exact archivable_blank 0
    · obtain rfl := List.mem_singleton.mp hg
      exact archivable_blank 1

/-- What is left of an archive that was cut in a segment is refused. -/
theorem scanArchive_of_torn (h : ArchivableFrom 0 generations)
    (hxs : xs <+: archiveBytes manifest generations)
    (hends : ¬EndsWithGeneration manifest generations (some xs)) :
    scanArchive xs = .error .length := by
  rw [← log_eq_archiveBytes] at hxs
  have hscan : scanAll scanGeneration ⟨0, []⟩ xs = .error .length := by
    refine SegmentFormat.scanFrom_of_torn (F := kra9Format) kra9_refusesTorn (takesAll_archive h) hxs ?_
      (Nat.le_refl _)
    rintro ⟨j, hj, hlog⟩
    rw [List.length_map] at hj
    rw [← List.map_take, log_eq_archiveBytes] at hlog
    exact hends ⟨j, hj, hlog⟩
  rw [scanArchive, hscan]
  rfl

/-! ## One call -/

theorem appendGenerations_eq (h : ∀ g ∈ generations, g.Writable) (bytes : List UInt8) :
    appendGenerations manifest generations bytes =
      (.ok (), bytes ++ archiveBytes manifest generations) := by
  induction generations generalizing bytes with
  | nil =>
      rw [appendGenerations, archiveBytes, List.flatMap_nil, List.append_nil]
  | cons g rest ih =>
      obtain ⟨hg, hrest⟩ := List.forall_mem_cons.mp h
      have hsegment : g.segment manifest = .ok (g.segmentBytes manifest) :=
        SearchGeneration.segment_eq_ok.mpr ⟨hg, rfl⟩
      rw [appendGenerations, hsegment]
      show appendGenerations manifest rest (bytes ++ g.segmentBytes manifest) = _
      rw [ih hrest, archiveBytes, archiveBytes, List.flatMap_cons, List.append_assoc]

theorem existingGenerations_archive (h : ArchivableFrom 0 generations) :
    existingGenerations manifest (some (archiveBytes manifest generations)) =
      .ok generations.length := by
  have hcheck : ¬(namedManifest manifest generations ≠ 0
      ∧ namedManifest manifest generations ≠ manifest) := by
    rintro ⟨hzero, hne⟩
    unfold namedManifest at hzero hne
    split_ifs at hzero hne
    exacts [hzero rfl, hne rfl]
  rw [existingGenerations]
  refine (bind_of_ok (scanArchive_archiveBytes h) _).trans ?_
  exact reject_bind hcheck _

/-- A call that finds an archive appends the generations that the archive does not have, by their
number, whatever those that it has are. -/
theorem resumeAppend_archive {others : List SearchGeneration} (h : ArchivableFrom 0 others)
    (hlength : others.length ≤ generations.length)
    (hwritable : ∀ g ∈ generations.drop others.length, g.Writable)
    (hfile : file.getD [] = archiveBytes manifest others) :
    resumeAppend manifest generations file =
      (.ok (), some (archiveBytes manifest (others ++ generations.drop others.length))) := by
  have hexisting : existingGenerations manifest file = .ok others.length := by
    cases file with
    | none =>
        -- No file is as good as an empty one.
        have hscan : scanArchive (archiveBytes manifest others) = _ := scanArchive_archiveBytes h
        rw [← show [] = archiveBytes manifest others from hfile] at hscan
        have hnil : others = [] := (congrArg ArchiveScan.generations (Except.ok.inj hscan)).symm
        rw [hnil]
        rfl
    | some bytes =>
        rw [show bytes = archiveBytes manifest others from hfile]
        exact existingGenerations_archive h
  have hbytes : archiveBytes manifest (others ++ generations.drop others.length) =
      archiveBytes manifest others ++ archiveBytes manifest (generations.drop others.length) :=
    List.flatMap_append
  rw [resumeAppend, hexisting]
  show (if generations.length < others.length then _ else _) = _
  rw [if_neg (Nat.not_lt.mpr hlength), appendGenerations_eq hwritable, hfile, hbytes]

/-- A call that finds the front of its own archive completes it, if the front ends with a
generation, and fails otherwise. -/
theorem resumeAppend_front (h : ArchivableFrom 0 generations)
    (hxs : file.getD [] <+: archiveBytes manifest generations) :
    EndsWithGeneration manifest generations file
        ∧ resumeAppend manifest generations file =
          (.ok (), some (archiveBytes manifest generations))
      ∨ ¬EndsWithGeneration manifest generations file
        ∧ resumeAppend manifest generations file = (.error (.archive .length), file) := by
  by_cases hends : EndsWithGeneration manifest generations file
  · obtain ⟨j, hj, hfile⟩ := id hends
    have hlength : (generations.take j).length = j := by
      rw [List.length_take, Nat.min_eq_left hj]
    have hcall := resumeAppend_archive (h.take j) (hlength.symm ▸ hj)
      (fun g hg ↦ (h.archivable g (List.mem_of_mem_drop hg)).toWritable) hfile
    rw [hlength, List.take_append_drop] at hcall
    exact .inl ⟨hends, hcall⟩
  · refine .inr ⟨hends, ?_⟩
    cases file with
    | none => exact absurd ⟨0, Nat.zero_le _, rfl⟩ hends
    | some xs =>
        have hexisting : existingGenerations manifest (some xs) = .error .length := by
          rw [existingGenerations]
          have hscan : scanArchive xs = .error .length := scanArchive_of_torn h hxs hends
          rw [hscan]
          rfl
        rw [resumeAppend, hexisting]

/-! ## Archives of others -/

theorem ArchivableFrom.append {others : List SearchGeneration} (hothers : ArchivableFrom 0 others)
    (h : ArchivableFrom 0 generations) :
    ArchivableFrom 0 (others ++ generations.drop others.length) where
  index i hi := by
    rw [List.getElem_append]
    split_ifs with hold
    · exact hothers.index i hold
    · rw [List.getElem_drop]
      have hlt : others.length + (i - others.length) < generations.length := by
        rw [List.length_append, List.length_drop] at hi
        omega
      rw [h.index _ hlt]
      omega
  archivable g hg := by
    rcases List.mem_append.mp hg with hold | hnew
    · exact hothers.archivable g hold
    · exact h.archivable g (List.mem_of_mem_drop hnew)

/-- What is appended to an archive that names no other manifest is read with it. -/
theorem scanArchive_append {bytes : List UInt8} {scan : ArchiveScan}
    {appended : List SearchGeneration} (hscan : scanArchive bytes = .ok scan)
    (hmanifest : ¬(scan.manifestIdentity ≠ 0 ∧ scan.manifestIdentity ≠ manifest))
    (h : ArchivableFrom 0 (scan.generations ++ appended)) :
    ∃ scan', scanArchive (bytes ++ archiveBytes manifest appended) = .ok scan'
      ∧ scan'.generations = scan.generations ++ appended := by
  obtain ⟨-, -, k, hk, hiff, rfl⟩ := scanArchive_eq_ok_iff.mp hscan
  have hlength := @List.length_append _ scan.generations appended
  by_cases hknown : scan.manifestIdentity = 0
  · -- No segment names a manifest so far.
    have hall : k = scan.generations.length :=
      Nat.le_antisymm hk (Nat.not_lt.mp fun hlt ↦ hiff.mp hlt hknown)
    have hbytes : (scan.generations.take k).flatMap (·.segmentBytes 0)
        ++ (scan.generations.drop k).flatMap (·.segmentBytes scan.manifestIdentity)
          = archiveBytes 0 scan.generations := by
      rw [hall, List.take_length, List.drop_length, List.flatMap_nil, List.append_nil]
      rfl
    rw [hbytes]
    by_cases hsilent : archiveBytes manifest appended = archiveBytes 0 appended
    · refine ⟨⟨0, scan.generations ++ appended, _⟩, scanArchive_eq_ok_iff.mpr ⟨rfl, h,
        (scan.generations ++ appended).length, Nat.le_refl _,
          iff_of_false (Nat.lt_irrefl _) (not_not.mpr rfl), ?_⟩, rfl⟩
      rw [hsilent, List.take_length, List.drop_length, List.flatMap_nil, List.append_nil,
        List.flatMap_append]
      rfl
    · refine ⟨⟨manifest, scan.generations ++ appended, _⟩, scanArchive_eq_ok_iff.mpr ⟨rfl, h,
        scan.generations.length, hlength ▸ Nat.le_add_right .., iff_of_true ?_ ?_, ?_⟩, rfl⟩
      · refine hlength ▸ Nat.lt_add_of_pos_right (List.length_pos_of_ne_nil fun hnil ↦ hsilent ?_)
        rw [hnil]
        rfl
      · exact fun hzero ↦ hsilent (congrArg (archiveBytes · appended) hzero)
      · rw [List.take_left, List.drop_left]
        rfl
  · obtain rfl : scan.manifestIdentity = manifest := by
      by_contra hne
      exact hmanifest ⟨hknown, hne⟩
    have hlt := hiff.mpr hknown
    refine ⟨⟨scan.manifestIdentity, scan.generations ++ appended, _⟩, scanArchive_eq_ok_iff.mpr ⟨rfl, h,
      k, hlength ▸ hk.trans (Nat.le_add_right ..),
        iff_of_true (hlength ▸ Nat.lt_of_lt_of_le hlt (Nat.le_add_right ..)) hknown, ?_⟩, rfl⟩
    rw [List.take_append_of_le_length hk, List.drop_append_of_le_length hk, List.flatMap_append,
      List.append_assoc]
    rfl

/-- **Whatever archive there is is continued.**  If it names another manifest, the call fails, and if
it has more generations than the search, the call panics; the file stays as it is.  Otherwise the
generations of the search from that number on are appended, and what the scanner reads then are the
generations that were there, of whatever search, and these. -/
theorem resumeAppend_of_scanned (h : ArchivableFrom 0 generations) {bytes : List UInt8}
    {scan : ArchiveScan} (hscan : scanArchive bytes = .ok scan) :
    let foreign := scan.manifestIdentity ≠ 0 ∧ scan.manifestIdentity ≠ manifest
    let appended := generations.drop scan.generations.length
    (foreign → resumeAppend manifest generations (some bytes) =
        (.error (.archive .identity), some bytes))
      ∧ (¬foreign → generations.length < scan.generations.length →
        resumeAppend manifest generations (some bytes) = (.error .panicked, some bytes))
      ∧ (¬foreign → scan.generations.length ≤ generations.length →
        resumeAppend manifest generations (some bytes) =
            (.ok (), some (bytes ++ archiveBytes manifest appended))
          ∧ ∃ scan', scanArchive (bytes ++ archiveBytes manifest appended) = .ok scan'
            ∧ scan'.generations = scan.generations ++ appended) := by
  intro foreign appended
  have hexisting : existingGenerations manifest (some bytes) =
      (do
        reject foreign .identity
        pure scan.generations.length) := by
    rw [existingGenerations, bind_of_ok hscan]
  refine ⟨fun hforeign ↦ ?_, fun hforeign hmany ↦ ?_, fun hforeign hfew ↦ ⟨?_, ?_⟩⟩
  · rw [reject_bind_of_fails hforeign] at hexisting
    rw [resumeAppend, hexisting]
  · rw [reject_bind hforeign] at hexisting
    rw [resumeAppend, hexisting]
    exact if_pos hmany
  · rw [reject_bind hforeign] at hexisting
    rw [resumeAppend, hexisting]
    show (if generations.length < scan.generations.length then _ else _) = _
    rw [if_neg (Nat.not_lt.mpr hfew), appendGenerations_eq fun g hg ↦
      (h.archivable g (List.mem_of_mem_drop hg)).toWritable]
    rfl
  · exact scanArchive_append hscan hforeign ((scanArchive_eq_ok_iff.mp hscan).2.1.append h)

theorem blank_resumeAppend_of_scanned : ∃ bytes,
    resumeAppend 5 [blankGeneration 0, blankGeneration 1]
        (some (archiveBytes 5 ([blankGeneration 0, blankGeneration 1].take 1))) = (.ok (), some bytes)
      ∧ ∃ scan, scanArchive bytes = .ok scan ∧ scan.generations.length = 2 := by
  have hscan := @scanArchive_archiveBytes 5 _ (archivableFrom_blank.take 1)
  obtain ⟨-, -, hcontinues⟩ := @resumeAppend_of_scanned 5 _ archivableFrom_blank _ _ hscan
  obtain ⟨hcall, scan, hscan', hgenerations⟩ := hcontinues (fun h ↦ h.2 rfl) (by decide)
  refine ⟨_, hcall, scan, hscan', ?_⟩
  rw [hgenerations]
  rfl

/-! ## Calls that are interrupted -/

/-- Whatever a call comes to, the file is a front of the archive. -/
theorem front_step (h : ArchivableFrom 0 generations)
    (hxs : file.getD [] <+: archiveBytes manifest generations) (call : ResumeCall) :
    (call.step manifest generations file).getD [] <+: archiveBytes manifest generations := by
  have hwhole : ((resumeAppend manifest generations file).2).getD [] <+:
      archiveBytes manifest generations := by
    rcases resumeAppend_front h hxs with ⟨-, hcall⟩ | ⟨-, hcall⟩
    · rw [hcall]
      exact List.prefix_refl _
    · rw [hcall]
      exact hxs
  cases call with
  | whole => exact hwhole
  | unopened => exact hxs
  | cut appended =>
      rw [ResumeCall.step]
      cases hfile : (resumeAppend manifest generations file).2 with
      | none => exact List.nil_prefix
      | some bytes =>
          rw [hfile] at hwhole
          exact (List.take_prefix _ bytes).trans hwhole

/-- However often a search is interrupted while it writes its archive, what is in the file is the
front of the archive.  If it ends with a generation, the next call that goes through completes the
archive; if not, the call fails, as will every later one, and the file stays as it is. -/
theorem resumeAppend_run (h : ArchivableFrom 0 generations) (calls : List ResumeCall) :
    let file := run (ResumeCall.step manifest generations) none calls
    file.getD [] <+: archiveBytes manifest generations
      ∧ (EndsWithGeneration manifest generations file →
        resumeAppend manifest generations file =
          (.ok (), some (archiveBytes manifest generations)))
      ∧ (¬EndsWithGeneration manifest generations file →
        resumeAppend manifest generations file = (.error (.archive .length), file)
          ∧ ∀ later, run (ResumeCall.step manifest generations) file later = file) := by
  have hfront : (run (ResumeCall.step manifest generations) none calls).getD [] <+:
      archiveBytes manifest generations :=
    run_invariant (ResumeCall.step manifest generations)
      (fun file : ArchiveFile ↦ file.getD [] <+: archiveBytes manifest generations)
      (fun _ call hxs ↦ front_step h hxs call) (s := none) List.nil_prefix calls
  refine ⟨hfront, fun hends ↦ ?_, fun hends ↦ ?_⟩
  · rcases resumeAppend_front h hfront with ⟨-, hcall⟩ | ⟨hnot, -⟩
    · exact hcall
    · exact absurd hends hnot
  · rcases resumeAppend_front h hfront with ⟨hnot, -⟩ | ⟨-, hcall⟩
    · exact absurd hnot hends
    · refine ⟨hcall, fun later ↦ ?_⟩
      generalize run (ResumeCall.step manifest generations) none calls = file at hends hcall
      refine run_invariant (ResumeCall.step manifest generations) (· = file)
        (fun _ call hfile ↦ ?_) rfl later
      rw [hfile]
      cases call with
      | whole => exact congrArg Prod.snd hcall
      | unopened => rfl
      | cut appended =>
          rw [ResumeCall.step, hcall]
          cases file with
          | none => rfl
          | some xs =>
              show some (xs.take (xs.length + appended)) = some xs
              rw [List.take_of_length_le (Nat.le_add_right ..)]

/-- A call that is interrupted in a segment, and one that would go through. -/
theorem blank_resumeAppend_run :
    let generations := [blankGeneration 0, blankGeneration 1]
    let file := run (ResumeCall.step 5 generations) none [.cut 3, .whole]
    file.getD [] <+: archiveBytes 5 generations
      ∧ (EndsWithGeneration 5 generations file →
        resumeAppend 5 generations file = (.ok (), some (archiveBytes 5 generations)))
      ∧ (¬EndsWithGeneration 5 generations file →
        resumeAppend 5 generations file = (.error (.archive .length), file)
          ∧ ∀ later, run (ResumeCall.step 5 generations) file later = file) :=
  resumeAppend_run archivableFrom_blank [.cut 3, .whole]

end Resuming

end Ksa64.Host
