import Ksa64.Library.Calls
import Ksa64.Host.SearchEvidence

/-!
# Replacing an archive

An archive with evidence is not appended to.  The new archive is written to a temporary file, which is
then renamed, so that under the path there is always a whole archive.  A search that is resumed asks
that the archive in place be a front of the new one (`resumes_iff`).  Whatever fails and wherever the
calls are interrupted, an archive is replaced by a longer one only (`history_run`).
-/

namespace Ksa64.Host

open Ksa64.Library Ksa64.Interface

/-! ## The file and its successor -/

/-- What the calls ask of the operating system; all but `probe` and `read` are about the temporary
file. -/
inductive ArchiveCall where
  | probe
  | read
  | create
  | write (bytes : List UInt8)
  | sync
  | rename

namespace ArchiveCall

def Answer : ArchiveCall → Type
  | probe => Bool
  | read => Option (List UInt8)
  | create | write _ | sync | rename => Bool

end ArchiveCall

/-- A call of the system that fails; if it is a write, `torn` is what was written. -/
structure ArchiveFault where
  torn : List UInt8
deriving DecidableEq

/-- The archive and the temporary file. -/
structure ArchiveDirectory where
  file : ArchiveFile
  temp : ArchiveFile
deriving DecidableEq

/-- The files, and for each of the calls to come whether it fails. -/
structure ArchiveSystem where
  directory : ArchiveDirectory
  faults : List (Option ArchiveFault)

namespace ArchiveCall

/-- What a call does if it does not fail. -/
def result (d : ArchiveDirectory) : (call : ArchiveCall) → call.Answer × ArchiveDirectory
  | probe => (d.file.isSome, d)
  | read => (d.file, d)
  | create => (true, { d with temp := some [] })
  | write bytes => (true, { d with temp := some bytes })
  | sync => (true, d)
  | rename => if d.temp.isSome then (true, ⟨d.temp, none⟩) else (false, d)

/-- What it does if it fails.  A file that cannot be looked at does not exist, for all that a caller
sees. -/
def failed (d : ArchiveDirectory) (fault : ArchiveFault) :
    (call : ArchiveCall) → call.Answer × ArchiveDirectory
  | probe => (false, d)
  | read => (none, d)
  | create | sync | rename => (false, d)
  | write _ => (false, { d with temp := some fault.torn })

end ArchiveCall

def ArchiveSystem.perform (call : ArchiveCall) (s : ArchiveSystem) : call.Answer × ArchiveSystem :=
  match s.faults.head? with
  | some (some fault) =>
      ((call.failed s.directory fault).1, ⟨(call.failed s.directory fault).2, s.faults.tail⟩)
  | _ => ((call.result s.directory).1, ⟨(call.result s.directory).2, s.faults.tail⟩)

/-! ## The calls -/

abbrev ArchiveProgram := Calls ArchiveCall ArchiveCall.Answer (Except ArchiveError Unit)

/-- The bytes come to the place of the archive. -/
def replaceArchive (desired : List UInt8) : ArchiveProgram :=
  .call .create fun
    | false => .done (.error .io)
    | true => .call (.write desired) fun
      | false => .done (.error .io)
      | true => .call .sync fun
        | false => .done (.error .io)
        | true => .call .rename fun
          | false => .done (.error .io)
          | true => .done (.ok ())

/-- They do so if the scanner accepts them. -/
def checkedReplace (desired : List UInt8) : ArchiveProgram :=
  match scanSearchArchive desired with
  | .error e => .done (.error e)
  | .ok scan =>
      if scan.validLength ≠ desired.length then .done (.error .length) else replaceArchive desired

def writeSearchArchiveAtomic (manifest : UInt32) (generations : List SearchGeneration)
    (evidence : List (CandidateEvaluation Kas8Bytes)) : ArchiveProgram :=
  match encodeSearchArchive manifest generations evidence with
  | .error e => .done (.error e)
  | .ok bytes => checkedReplace bytes

/-- A segment at the front of what is left, by its magic word and its length. -/
def walkSegment (_ : Unit) (rest : List UInt8) : Except ArchiveError (Unit × Nat) := do
  reject (rest.length < 12) .length
  let magic := slice rest 0 4
  reject (magic ≠ kra9Magic ∧ magic ≠ kre9Magic) .magic
  let length := (read32 rest 8).toNat
  reject (length < 36 ∨ rest.length < length) .length
  pure ((), length)

/-- The archive in place can be replaced by the desired one. -/
def checkExisting (existing desired : List UInt8) : Except ArchiveError Unit := do
  reject (desired.length < existing.length ∨ existing ≠ desired.take existing.length) .sequence
  scanAll walkSegment () existing

def resumeSearchArchiveAtomic (manifest : UInt32) (generations : List SearchGeneration)
    (evidence : List (CandidateEvaluation Kas8Bytes)) : ArchiveProgram :=
  match encodeSearchArchive manifest generations evidence with
  | .error e => .done (.error e)
  | .ok desired => .call .probe fun
    | false => checkedReplace desired
    | true => .call .read fun
      | none => .done (.error .io)
      | some existing =>
          if existing = desired then .done (.ok ())
          else match checkExisting existing desired with
            | .error e => .done (.error e)
            | .ok () => checkedReplace desired

/-- An attempt to write an archive: how the calls of the system fail, and after how many of them it is
interrupted, if it is. -/
structure ArchiveAttempt where
  resumes : Bool
  manifest : UInt32
  generations : List SearchGeneration
  evidence : List (CandidateEvaluation Kas8Bytes)
  faults : List (Option ArchiveFault)
  crash : Option Nat

namespace ArchiveAttempt

def program (a : ArchiveAttempt) : ArchiveProgram :=
  if a.resumes then resumeSearchArchiveAtomic a.manifest a.generations a.evidence
  else writeSearchArchiveAtomic a.manifest a.generations a.evidence

/-- The files after the attempt. -/
def step (d : ArchiveDirectory) (a : ArchiveAttempt) : ArchiveDirectory :=
  match a.crash with
  | none => (a.program.run ArchiveSystem.perform ⟨d, a.faults⟩).2.directory
  | some n => (a.program.stopAfter ArchiveSystem.perform n ⟨d, a.faults⟩).directory

end ArchiveAttempt

/-! ## What is in the place of the archive -/

section Attempts

variable {s : ArchiveSystem} {d : ArchiveDirectory} {a : ArchiveAttempt} {n : Nat}
  {desired existing bytes : List UInt8}

theorem perform_cases (call : ArchiveCall) (s : ArchiveSystem) :
    (∃ fault, (s.perform call).1 = (call.failed s.directory fault).1
        ∧ (s.perform call).2.directory = (call.failed s.directory fault).2)
      ∨ (s.perform call).1 = (call.result s.directory).1
        ∧ (s.perform call).2.directory = (call.result s.directory).2 := by
  unfold ArchiveSystem.perform
  split
  · exact .inl ⟨_, rfl, rfl⟩
  · exact .inr ⟨rfl, rfl⟩

theorem perform_create (s : ArchiveSystem) :
    (s.perform .create).2.directory.file = s.directory.file := by
  rcases perform_cases .create s with ⟨fault, -, h⟩ | ⟨-, h⟩
  · rw [h]
    rfl
  · rw [h]
    rfl

theorem perform_write (bytes : List UInt8) (s : ArchiveSystem) :
    (s.perform (.write bytes)).2.directory.file = s.directory.file
      ∧ ((s.perform (.write bytes)).1 = true →
        (s.perform (.write bytes)).2.directory.temp = some bytes) := by
  rcases perform_cases (.write bytes) s with ⟨fault, hanswer, h⟩ | ⟨-, h⟩
  · rw [h, hanswer]
    exact ⟨rfl, by rintro ⟨⟩⟩
  · rw [h]
    exact ⟨rfl, fun _ ↦ rfl⟩

theorem perform_sync (s : ArchiveSystem) : (s.perform .sync).2.directory = s.directory := by
  rcases perform_cases .sync s with ⟨fault, -, h⟩ | ⟨-, h⟩
  · exact h
  · exact h

theorem perform_rename (htemp : s.directory.temp = some bytes) :
    (s.perform .rename).2.directory.file = s.directory.file
      ∨ (s.perform .rename).2.directory.file = some bytes := by
  rcases perform_cases .rename s with ⟨fault, -, h⟩ | ⟨-, h⟩
  · rw [h]
    exact .inl rfl
  · rw [h, ArchiveCall.result, if_pos (by rw [htemp]; rfl)]
    exact .inr htemp

theorem perform_probe (s : ArchiveSystem) :
    (s.perform .probe).2.directory = s.directory
      ∧ (s.faults.head?.join = none → (s.perform .probe).1 = s.directory.file.isSome) := by
  unfold ArchiveSystem.perform
  split
  next fault hfault =>
    rw [hfault]
    exact ⟨rfl, by rintro ⟨⟩⟩
  next => exact ⟨rfl, fun _ ↦ rfl⟩

theorem perform_read (s : ArchiveSystem) :
    (s.perform .read).2.directory = s.directory
      ∧ ∀ bytes, (s.perform .read).1 = some bytes → s.directory.file = some bytes := by
  rcases perform_cases .read s with ⟨fault, hanswer, h⟩ | ⟨hanswer, h⟩
  · rw [hanswer]
    exact ⟨h, by rintro bytes ⟨⟩⟩
  · rw [hanswer]
    exact ⟨h, fun _ hbytes ↦ hbytes⟩

/-- Wherever it stops, a program is before its first call or behind it. -/
theorem stopAfter_call {P : ArchiveSystem → Prop} {call : ArchiveCall}
    {next : call.Answer → ArchiveProgram} (hs : P s)
    (hnext : ∀ n, P ((next (s.perform call).1).stopAfter ArchiveSystem.perform n (s.perform call).2)) :
    P ((Calls.call call next).stopAfter ArchiveSystem.perform n s) := by
  cases n with
  | zero => exact hs
  | succ n => exact hnext n

theorem stopAfter_done {P : ArchiveSystem → Prop} {result : Except ArchiveError Unit} (hs : P s) :
    P ((Calls.done result : ArchiveProgram).stopAfter ArchiveSystem.perform n s) := by
  rw [Calls.stopAfter_done]
  exact hs

/-- The archive is the old one or the new one. -/
def Replaces (old : ArchiveFile) (desired : List UInt8) (s : ArchiveSystem) : Prop :=
  s.directory.file = old ∨ s.directory.file = some desired

/-- However far it comes, the archive is the old one or the new one. -/
theorem replaces_replaceArchive (desired : List UInt8) (n : Nat) (s : ArchiveSystem) :
    Replaces s.directory.file desired
      ((replaceArchive desired).stopAfter ArchiveSystem.perform n s) := by
  refine stopAfter_call (.inl rfl) fun n ↦ ?_
  have hcreate := perform_create s
  generalize s.perform .create = created at hcreate ⊢
  rcases created with ⟨_ | _, s₁⟩
  · exact stopAfter_done (.inl hcreate)
  refine stopAfter_call (.inl hcreate) fun n ↦ ?_
  obtain ⟨hwrite, htemp⟩ := perform_write desired s₁
  generalize s₁.perform (.write desired) = written at hwrite htemp ⊢
  rcases written with ⟨_ | _, s₂⟩
  · exact stopAfter_done (.inl (hwrite.trans hcreate))
  refine stopAfter_call (.inl (hwrite.trans hcreate)) fun n ↦ ?_
  have hsync := perform_sync s₂
  generalize s₂.perform .sync = synced at hsync ⊢
  rcases synced with ⟨_ | _, s₃⟩
  · exact stopAfter_done (.inl ((congrArg ArchiveDirectory.file hsync).trans (hwrite.trans hcreate)))
  replace htemp : s₃.directory.temp = some desired :=
    (congrArg ArchiveDirectory.temp hsync).trans (htemp rfl)
  replace hwrite : s₃.directory.file = s.directory.file :=
    (congrArg ArchiveDirectory.file hsync).trans (hwrite.trans hcreate)
  refine stopAfter_call (.inl hwrite) fun n ↦ ?_
  have hrename := perform_rename htemp
  rw [hwrite] at hrename
  generalize s₃.perform .rename = renamed at hrename ⊢
  rcases renamed with ⟨_ | _, s₄⟩
  · exact stopAfter_done hrename
  · exact stopAfter_done hrename

/-- Only what the scanner accepts comes to its place. -/
theorem replaces_checkedReplace (desired : List UInt8) (n : Nat) (s : ArchiveSystem) :
    let after := (checkedReplace desired).stopAfter ArchiveSystem.perform n s
    after.directory.file = s.directory.file
      ∨ (∃ scan, scanSearchArchive desired = .ok scan) ∧ after.directory.file = some desired := by
  unfold checkedReplace
  cases hscan : scanSearchArchive desired with
  | error e => exact .inl (stopAfter_done (P := (·.directory.file = s.directory.file)) rfl)
  | ok scan =>
      dsimp only
      split
      · exact .inl (stopAfter_done (P := (·.directory.file = s.directory.file)) rfl)
      · exact (replaces_replaceArchive desired n s).imp_right fun h ↦ ⟨⟨scan, rfl⟩, h⟩

theorem checkExisting_eq_ok :
    checkExisting existing desired = .ok () ↔
      existing <+: desired ∧ scanAll walkSegment () existing = .ok () := by
  rw [checkExisting, bind_eq_ok]
  simp only [reject_eq_ok, exists_const, not_or, not_lt, not_not]
  refine and_congr_left fun _ ↦ ?_
  rw [List.prefix_iff_eq_take]
  refine and_iff_right_of_imp fun h ↦ ?_
  rw [h]
  exact List.length_take_le' ..

/-- The bytes that an attempt may put in the place of the archive. -/
structure ArchiveAttempt.Installs (a : ArchiveAttempt) (old : ArchiveFile) (desired : List UInt8) :
    Prop where
  encoded : encodeSearchArchive a.manifest a.generations a.evidence = .ok desired
  scanned : ∃ scan, scanSearchArchive desired = .ok scan
  continues : a.resumes → a.faults.head?.join = none → ∀ existing ∈ old, existing <+: desired

/-- However far an attempt comes, the archive is the old one or what the attempt may put there. -/
theorem stop_installs (a : ArchiveAttempt) (d : ArchiveDirectory) (n : Nat) :
    let after := a.program.stopAfter ArchiveSystem.perform n ⟨d, a.faults⟩
    after.directory.file = d.file
      ∨ ∃ desired, a.Installs d.file desired ∧ after.directory.file = some desired := by
  let P : ArchiveSystem → Prop := fun after ↦ after.directory.file = d.file
    ∨ ∃ desired, a.Installs d.file desired ∧ after.directory.file = some desired
  show P _
  have hreplace : ∀ desired n (s : ArchiveSystem), s.directory = d →
      encodeSearchArchive a.manifest a.generations a.evidence = .ok desired →
      (a.resumes → a.faults.head?.join = none → ∀ existing ∈ d.file, existing <+: desired) →
      P ((checkedReplace desired).stopAfter ArchiveSystem.perform n s) := by
    rintro desired n s rfl hencoded hcontinues
    rcases replaces_checkedReplace desired n s with h | ⟨hscanned, h⟩
    · exact .inl h
    · exact .inr ⟨desired, ⟨hencoded, hscanned, hcontinues⟩, h⟩
  unfold ArchiveAttempt.program
  split
  next =>
    unfold resumeSearchArchiveAtomic
    cases hencoded : encodeSearchArchive a.manifest a.generations a.evidence with
    | error e => exact stopAfter_done (.inl rfl)
    | ok desired =>
        refine stopAfter_call (.inl rfl) fun n ↦ ?_
        obtain ⟨hdirectory, hprobe⟩ := perform_probe ⟨d, a.faults⟩
        generalize ArchiveSystem.perform .probe ⟨d, a.faults⟩ = probed at hdirectory hprobe ⊢
        rcases probed with ⟨_ | _, s₁⟩
        · refine hreplace desired n s₁ hdirectory hencoded fun _ hfaults existing hexisting ↦ ?_
          have hsome := hprobe hfaults
          rw [show d.file = some existing from hexisting] at hsome
          cases hsome
        refine stopAfter_call (.inl (congrArg ArchiveDirectory.file hdirectory)) fun n ↦ ?_
        obtain ⟨hread, hbytes⟩ := perform_read s₁
        generalize s₁.perform .read = found at hread hbytes ⊢
        replace hread := hread.trans hdirectory
        rcases found with ⟨_ | existing, s₂⟩
        · exact stopAfter_done (.inl (congrArg ArchiveDirectory.file hread))
        show P (Calls.stopAfter _ n (if existing = desired then _ else _) s₂)
        have hexisting : d.file = some existing :=
          (congrArg ArchiveDirectory.file hdirectory).symm.trans (hbytes existing rfl)
        split_ifs with heq
        · exact stopAfter_done (.inl (congrArg ArchiveDirectory.file hread))
        cases hcheck : checkExisting existing desired with
        | error e => exact stopAfter_done (.inl (congrArg ArchiveDirectory.file hread))
        | ok u =>
            refine hreplace desired n s₂ hread hencoded fun _ _ old hold ↦ ?_
            obtain rfl : existing = old := Option.some.inj (hexisting.symm.trans hold)
            exact (checkExisting_eq_ok.mp hcheck).1
  next hresumes =>
    unfold writeSearchArchiveAtomic
    cases hencoded : encodeSearchArchive a.manifest a.generations a.evidence with
    | error e => exact stopAfter_done (.inl rfl)
    | ok desired => exact hreplace desired n _ rfl hencoded fun h ↦ absurd h hresumes

theorem step_installs (d : ArchiveDirectory) (a : ArchiveAttempt) :
    (a.step d).file = d.file
      ∨ ∃ desired, a.Installs d.file desired ∧ (a.step d).file = some desired := by
  unfold ArchiveAttempt.step
  split
  next =>
    rw [← Calls.stopAfter_of_count_le (Nat.le_refl _)]
    exact stop_installs a d _
  next n _ => exact stop_installs a d n

end Attempts

/-! ## The segments of an archive with evidence -/

/-- A segment and the manifest that it names. -/
inductive ArchivedSegment where
  | generation (manifest : UInt32) (g : SearchGeneration)
  | evidence (manifest : UInt32) (e : ArchivedCandidateEvidence)

namespace ArchivedSegment

def bytes : ArchivedSegment → List UInt8
  | generation manifest g => g.segmentBytes manifest
  | evidence manifest e => e.segmentBytes manifest

def Archivable : ArchivedSegment → Prop
  | generation _ g => g.Archivable
  | evidence _ e => e.Archivable

theorem bytes_ne_nil (a : ArchivedSegment) : a.bytes ≠ [] := by
  cases a with
  | generation manifest g => exact kra9Format.bytes_ne_nil (manifest, g)
  | evidence manifest e => exact (kre9Format manifest []).bytes_ne_nil e

/-- The segments of generations differ in the number, or the scanner would take either. -/
theorem generation_inj {manifest other : UInt32} {g g' : SearchGeneration} {xs : List UInt8}
    (hg : g.Archivable) (hg' : g'.Archivable) (h : g.segmentBytes manifest <+: xs)
    (h' : g'.segmentBytes other <+: xs) : manifest = other ∧ g = g' := by
  obtain ⟨-, -, -, -, -, -, hmanifest, hindex, -⟩ :=
    (SearchGeneration.segmentBytes_prefix_iff hg.lengths hg.count).mp h
  obtain ⟨-, -, -, -, -, -, hmanifest', hindex', -⟩ :=
    (SearchGeneration.segmentBytes_prefix_iff hg'.lengths hg'.count).mp h'
  -- A state of the scanner in which it waits for a generation of the number.
  let s : ArchiveState := ⟨0, List.replicate g.index.toNat g⟩
  have htakes : s.Takes (manifest, g) :=
    ⟨fun hne ↦ absurd rfl hne, List.length_replicate.symm, hg⟩
  have htakes' : s.Takes (other, g') := by
    refine ⟨fun hne ↦ absurd rfl hne, ?_, hg'⟩
    rw [List.length_replicate, ← hindex', hindex]
  have hscan := scanGeneration_eq_ok.mpr ⟨(manifest, g), htakes, h, rfl, rfl⟩
  have hscan' := scanGeneration_eq_ok.mpr ⟨(other, g'), htakes', h', rfl, rfl⟩
  have heq := congrArg (fun t ↦ t.1.generations) (Except.ok.inj (hscan.symm.trans hscan'))
  exact ⟨hmanifest.symm.trans hmanifest', (List.append_inj_right heq rfl |> List.cons.inj).1⟩

theorem evidence_inj {manifest other : UInt32} {e e' : ArchivedCandidateEvidence} {xs : List UInt8}
    (he : e.Archivable) (he' : e'.Archivable) (h : e.segmentBytes manifest <+: xs)
    (h' : e'.segmentBytes other <+: xs) : manifest = other ∧ e = e' := by
  obtain ⟨-, -, -, -, -, -, hmanifest, -⟩ := (ArchivedCandidateEvidence.segmentBytes_prefix_iff
    (ArchivedCandidateEvidence.TierCount.le he.tier)).mp h
  obtain ⟨-, -, -, -, -, -, hmanifest', -⟩ := (ArchivedCandidateEvidence.segmentBytes_prefix_iff
    (ArchivedCandidateEvidence.TierCount.le he'.tier)).mp h'
  obtain rfl : manifest = other := hmanifest.symm.trans hmanifest'
  let known := [e.candidateIdentity, e'.candidateIdentity]
  have htakes : EvidenceState.Takes known ⟨none, []⟩ e := ⟨by simp [known], by rintro _ ⟨⟩, he⟩
  have htakes' : EvidenceState.Takes known ⟨none, []⟩ e' := ⟨by simp [known], by rintro _ ⟨⟩, he'⟩
  have hscan := scanEvidence_eq_ok.mpr ⟨e, htakes, h, rfl, rfl⟩
  have hscan' := scanEvidence_eq_ok.mpr ⟨e', htakes', h', rfl, rfl⟩
  have heq := congrArg (fun t ↦ t.1.evidence) (Except.ok.inj (hscan.symm.trans hscan'))
  exact ⟨rfl, (List.cons.inj heq).1⟩

theorem delimits : Delimits bytes Archivable := by
  have hmagic : ∀ {manifest other : UInt32} {g : SearchGeneration} {e : ArchivedCandidateEvidence}
      {xs : List UInt8}, g.Archivable → e.Archivable → g.segmentBytes manifest <+: xs →
      ¬e.segmentBytes other <+: xs := by
    intro manifest other g e xs hg he h h'
    obtain ⟨-, -, hmagic, -⟩ :=
      (SearchGeneration.segmentBytes_prefix_iff hg.lengths hg.count).mp h
    obtain ⟨-, -, hmagic', -⟩ := (ArchivedCandidateEvidence.segmentBytes_prefix_iff
      (ArchivedCandidateEvidence.TierCount.le he.tier)).mp h'
    rw [hmagic] at hmagic'
    cases hmagic'
  intro a b xs ha hb hxs hys
  cases a with
  | generation manifest g =>
      cases b with
      | generation other g' =>
          obtain ⟨rfl, rfl⟩ := generation_inj ha hb hxs hys
          rfl
      | evidence other e => exact absurd hys (hmagic ha hb hxs)
  | evidence manifest e =>
      cases b with
      | generation other g => exact absurd hxs (hmagic hb ha hys)
      | evidence other e' =>
          obtain ⟨rfl, rfl⟩ := evidence_inj ha hb hxs hys
          rfl

end ArchivedSegment

/-- The segments of an archive. -/
def archivedSegments (as : List ArchivedGeneration) (manifest : UInt32)
    (es : List ArchivedCandidateEvidence) : List ArchivedSegment :=
  as.map (fun a ↦ .generation a.1 a.2) ++ es.map (.evidence manifest)

section Growth

variable {as as' : List ArchivedGeneration} {es es' : List ArchivedCandidateEvidence}
  {manifest manifest' : UInt32} {bytes bytes' : List UInt8} {scan scan' : SearchArchiveScan}

theorem bytes_archivedSegments :
    (archivedSegments as manifest es).flatMap ArchivedSegment.bytes =
      kra9Format.log as ++ es.flatMap (·.segmentBytes manifest) := by
  rw [archivedSegments, List.flatMap_append, List.flatMap_map, List.flatMap_map]
  rfl

theorem archivable_archivedSegments (has : ∀ a ∈ as, a.2.Archivable)
    (hes : ∀ e ∈ es, e.Archivable) : ∀ x ∈ archivedSegments as manifest es, x.Archivable := by
  intro x hx
  rcases List.mem_append.mp hx with hx | hx
  · obtain ⟨a, ha, rfl⟩ := List.mem_map.mp hx
    exact has a ha
  · obtain ⟨e, he, rfl⟩ := List.mem_map.mp hx
    exact hes e he

/-- An archive is in front of another if it ends in its generations and has no evidence, or has the
same generations and ends in its evidence. -/
theorem archivedSegments_prefix_iff :
    archivedSegments as manifest es <+: archivedSegments as' manifest' es' ↔
      (es = [] ∧ as <+: as') ∨ (es ≠ [] ∧ manifest = manifest' ∧ as = as' ∧ es <+: es') := by
  let generation? : ArchivedSegment → Option ArchivedGeneration
    | .generation manifest g => some (manifest, g)
    | .evidence .. => none
  let evidence? : ArchivedSegment → Option ArchivedCandidateEvidence
    | .generation .. => none
    | .evidence _ e => some e
  have hgenerations : ∀ as manifest es,
      (archivedSegments as manifest es).filterMap generation? = as := by
    intro as manifest es
    rw [archivedSegments, List.filterMap_append, List.filterMap_map, List.filterMap_map]
    show as.filterMap some ++ es.filterMap (fun _ ↦ none) = as
    rw [List.filterMap_some, List.filterMap_none, List.append_nil]
  have hevidence : ∀ as manifest es,
      (archivedSegments as manifest es).filterMap evidence? = es := by
    intro as manifest es
    rw [archivedSegments, List.filterMap_append, List.filterMap_map, List.filterMap_map]
    show as.filterMap (fun _ ↦ none) ++ es.filterMap some = es
    rw [List.filterMap_some, List.filterMap_none, List.nil_append]
  constructor
  · intro h
    have has : as <+: as' := by
      have hfilter := h.filterMap generation?
      rwa [hgenerations, hgenerations] at hfilter
    have hes : es <+: es' := by
      have hfilter := h.filterMap evidence?
      rwa [hevidence, hevidence] at hfilter
    cases es with
    | nil => exact .inl ⟨rfl, has⟩
    | cons e es =>
        obtain ⟨rest, rfl⟩ := has
        rw [archivedSegments, archivedSegments, List.map_append, List.append_assoc,
          List.prefix_append_right_inj, List.map_cons] at h
        cases rest with
        | nil =>
            cases es' with
            | nil => exact absurd h.length_le (Nat.not_succ_le_zero _)
            | cons e' es' =>
                have hfirst := (List.cons_prefix_cons.mp h).1
                cases hfirst
                exact .inr ⟨List.cons_ne_nil _ _, rfl, (List.append_nil as).symm, hes⟩
        | cons a rest =>
            have hfirst := (List.cons_prefix_cons.mp h).1
            cases hfirst
  · rintro (⟨rfl, rest, rfl⟩ | ⟨-, rfl, rfl, rest, rfl⟩)
    · rw [archivedSegments, archivedSegments, List.map_nil, List.append_nil, List.map_append,
        List.append_assoc]
      exact List.prefix_append ..
    · rw [archivedSegments, archivedSegments, List.map_append, ← List.append_assoc]
      exact List.prefix_append ..

/-- The segments that the scanner has found. -/
theorem exists_segments (h : scanSearchArchive bytes = .ok scan) :
    ∃ as : List ArchivedGeneration, as.map Prod.snd = scan.generations
      ∧ (run ArchiveState.advance ⟨0, []⟩ as).manifest = scan.manifestIdentity
      ∧ (∀ x ∈ archivedSegments as scan.manifestIdentity scan.evidence, x.Archivable)
      ∧ bytes =
        (archivedSegments as scan.manifestIdentity scan.evidence).flatMap ArchivedSegment.bytes := by
  obtain ⟨-, hevidence, front, hfront, hbytes⟩ := scanSearchArchive_eq_ok_iff.mp h
  obtain ⟨s, hs, heq⟩ := bind_eq_ok.mp hfront
  obtain ⟨as, htakes, hlog, hrun⟩ := (SegmentFormat.scanAll_eq_ok_iff (F := kra9Format)).mp hs
  obtain ⟨harchivable, -⟩ := (takesAll_of_unknown rfl).mp htakes
  have heq := pure_eq_ok.mp heq
  have hgenerations : as.map Prod.snd = scan.generations := by
    rw [← show s.generations = scan.generations from congrArg ArchiveScan.generations heq, hrun]
    exact (generations_run (s := ⟨0, []⟩)).symm
  refine ⟨as, hgenerations, ?_, archivable_archivedSegments ?_ hevidence.archivable, ?_⟩
  · rw [← show s.manifest = scan.manifestIdentity from congrArg ArchiveScan.manifestIdentity heq, hrun]
    rfl
  · exact fun a ha ↦ harchivable.archivable a.2 (List.mem_map_of_mem ha)
  · rw [bytes_archivedSegments, hbytes, hlog]

/-- An archive that has grown has kept its generations, and if it had evidence, nothing but evidence
was added. -/
structure ArchiveGrows (scan scan' : SearchArchiveScan) : Prop where
  manifest : scan.manifestIdentity ≠ 0 → scan'.manifestIdentity = scan.manifestIdentity
  generations : scan.generations <+: scan'.generations
  evidence : scan.evidence = []
    ∨ scan.generations = scan'.generations ∧ scan.evidence <+: scan'.evidence

theorem grows_of_prefix (h : scanSearchArchive bytes = .ok scan)
    (h' : scanSearchArchive bytes' = .ok scan') (hbegins : bytes <+: bytes') :
    ArchiveGrows scan scan' := by
  obtain ⟨as, hgenerations, hmanifest, harchivable, rfl⟩ := exists_segments h
  obtain ⟨as', hgenerations', hmanifest', harchivable', rfl⟩ := exists_segments h'
  have hsegments := archivedSegments_prefix_iff.mp ((ArchivedSegment.delimits.flatMap_prefix_iff
    ArchivedSegment.bytes_ne_nil harchivable harchivable').mp hbegins)
  have has : as <+: as' := by
    rcases hsegments with ⟨-, has⟩ | ⟨-, -, rfl, -⟩
    · exact has
    · exact List.prefix_refl as
  refine ⟨fun hknown ↦ ?_, ?_, ?_⟩
  · obtain ⟨rest, rfl⟩ := has
    rw [← hmanifest', run_append, ← hmanifest]
    exact manifest_run_of_known (hmanifest ▸ hknown)
  · rw [← hgenerations, ← hgenerations']
    exact has.map Prod.snd
  · rcases hsegments with ⟨hnil, -⟩ | ⟨-, -, rfl, hes⟩
    · exact .inl hnil
    · exact .inr ⟨hgenerations.symm.trans hgenerations', hes⟩

/-- Whatever the attempts come to, there is a whole archive under the path or nothing. -/
theorem whole_run (attempts : List ArchiveAttempt) :
    ∀ bytes ∈ (run ArchiveAttempt.step ⟨none, none⟩ attempts).file,
      ∃ scan, scanSearchArchive bytes = .ok scan := by
  refine run_invariant ArchiveAttempt.step
    (fun d ↦ ∀ bytes ∈ d.file, ∃ scan, scanSearchArchive bytes = .ok scan) (fun d a hd ↦ ?_)
    (s := ⟨none, none⟩) (by rintro _ ⟨⟩) attempts
  rcases step_installs d a with h | ⟨desired, hinstalls, h⟩
  · rw [h]
    exact hd
  · rw [h]
    rintro _ ⟨⟩
    exact hinstalls.scanned

/-- However often a search is interrupted, and whatever fails while it writes: under the path there is
a whole archive or nothing, and attempts that resume, if they can look at the file, replace an archive
only by one that has grown. -/
theorem history_run (attempts later : List ArchiveAttempt)
    (hlater : ∀ a ∈ later, a.resumes ∧ a.faults.head?.join = none) :
    let before := run ArchiveAttempt.step ⟨none, none⟩ attempts
    let after := run ArchiveAttempt.step before later
    (∀ bytes ∈ after.file, ∃ scan, scanSearchArchive bytes = .ok scan)
      ∧ ∀ bytes ∈ before.file, ∃ bytes' ∈ after.file, ∃ scan scan',
        scanSearchArchive bytes = .ok scan ∧ scanSearchArchive bytes' = .ok scan'
          ∧ ArchiveGrows scan scan' := by
  intro before after
  have hwhole : ∀ bytes ∈ after.file, ∃ scan, scanSearchArchive bytes = .ok scan := by
    have h := whole_run (attempts ++ later)
    rwa [run_append] at h
  refine ⟨hwhole, fun bytes hbytes ↦ ?_⟩
  have hgrown : ∃ bytes' ∈ after.file, bytes <+: bytes' := by
    refine run_invariant_of_meets (fun d : ArchiveDirectory ↦ ∃ bytes' ∈ d.file, bytes <+: bytes')
      (fun d a ⟨old, hold, hbegins⟩ (ha : a.resumes ∧ a.faults.head?.join = none) ↦ ?_)
      ⟨bytes, hbytes, List.prefix_refl bytes⟩ (meets_input.mpr hlater)
    rcases step_installs d a with h | ⟨desired, hinstalls, h⟩
    · exact ⟨old, h ▸ hold, hbegins⟩
    · exact ⟨desired, h, hbegins.trans (hinstalls.continues ha.1 ha.2 old hold)⟩
  obtain ⟨bytes', hbytes', hbegins⟩ := hgrown
  obtain ⟨scan, hscan⟩ := whole_run attempts bytes hbytes
  obtain ⟨scan', hscan'⟩ := hwhole bytes' hbytes'
  exact ⟨bytes', hbytes', scan, scan', hscan, hscan', grows_of_prefix hscan hscan' hbegins⟩

/-- An archive of one generation, and a search that goes on with another. -/
theorem blank_history_run :
    let before := run ArchiveAttempt.step ⟨none, none⟩ [⟨false, 5, [blankGeneration 0], [], [], none⟩]
    let after := run ArchiveAttempt.step before
      [⟨true, 5, [blankGeneration 0, blankGeneration 1], [], [], some 4⟩]
    (∀ bytes ∈ after.file, ∃ scan, scanSearchArchive bytes = .ok scan)
      ∧ ∀ bytes ∈ before.file, ∃ bytes' ∈ after.file, ∃ scan scan',
        scanSearchArchive bytes = .ok scan ∧ scanSearchArchive bytes' = .ok scan'
          ∧ ArchiveGrows scan scan' := by
  refine history_run _ _ fun a ha ↦ ?_
  obtain rfl := List.mem_singleton.mp ha
  exact ⟨rfl, rfl⟩

end Growth

/-! ## Resuming -/

section Resuming

variable {manifest : UInt32} {segments : List ArchivedSegment} {rest desired existing : List UInt8}
  {generations generations' : List SearchGeneration}
  {evidence evidence' : List (CandidateEvaluation Kas8Bytes)} {temp : ArchiveFile}

/-- The header of a segment says where it ends. -/
theorem walkSegment_segment {x : ArchivedSegment} (hx : x.Archivable) (h : x.bytes <+: rest) :
    walkSegment () rest = .ok ((), x.bytes.length) := by
  have hheader : (slice rest 0 4 = kra9Magic ∨ slice rest 0 4 = kre9Magic)
      ∧ (read32 rest 8).toNat = x.bytes.length ∧ 36 ≤ x.bytes.length := by
    cases x with
    | generation id g =>
        have hg : g.Archivable := hx
        have hlen : (g.segmentBytes id).length = g.segmentLength :=
          SearchGeneration.length_segmentBytes hg.lengths
        obtain ⟨-, -, hmagic, -, -, hsegment, -⟩ :=
          (SearchGeneration.segmentBytes_prefix_iff hg.lengths hg.count).mp h
        refine ⟨.inl hmagic, hsegment.trans hlen.symm, ?_⟩
        show 36 ≤ (g.segmentBytes id).length
        rw [hlen, SearchGeneration.segmentLength_eq]
        omega
    | evidence id e =>
        have he : e.Archivable := hx
        have hlen := e.length_segmentBytes id
        obtain ⟨-, -, hmagic, -, -, hsegment, -⟩ :=
          (ArchivedCandidateEvidence.segmentBytes_prefix_iff
            (ArchivedCandidateEvidence.TierCount.le he.tier)).mp h
        refine ⟨.inr hmagic, hsegment.trans hlen.symm, ?_⟩
        show 36 ≤ (e.segmentBytes id).length
        rw [hlen, e.segmentLength_eq]
        omega
  obtain ⟨hmagic, hlength, hlong⟩ := hheader
  have hle := h.length_le
  unfold walkSegment
  dsimp only
  rw [hlength]
  refine (reject_bind ?_ _).trans ((reject_bind ?_ _).trans (reject_bind ?_ _))
  · omega
  · rintro ⟨hkra9, hkre9⟩
    exact hmagic.elim hkra9 hkre9
  · omega

theorem scanFrom_segments (h : ∀ x ∈ segments, x.Archivable) {n : Nat}
    (hn : (segments.flatMap ArchivedSegment.bytes).length ≤ n) :
    scanFrom walkSegment n () (segments.flatMap ArchivedSegment.bytes) = .ok () := by
  induction segments generalizing n with
  | nil => cases n <;> rfl
  | cons x segments ih =>
      obtain ⟨hx, h⟩ := List.forall_mem_cons.mp h
      have hpos := List.length_pos_of_ne_nil x.bytes_ne_nil
      rw [List.flatMap_cons, List.length_append] at hn
      obtain ⟨n, rfl⟩ : ∃ m, n = m + 1 := ⟨n - 1, by omega⟩
      have hstep := walkSegment_segment hx
        (List.prefix_append x.bytes (segments.flatMap ArchivedSegment.bytes))
      have hrest := ih h (n := n) (by omega)
      rw [List.flatMap_cons]
      cases hbytes : x.bytes ++ segments.flatMap ArchivedSegment.bytes with
      | nil => exact absurd (List.append_eq_nil_iff.mp hbytes).1 x.bytes_ne_nil
      | cons b bs =>
          rw [hbytes] at hstep
          rw [scanFrom, bind_of_ok hstep, ← hbytes, List.drop_left]
          exact hrest

/-- An archive that the scanner accepts can be replaced by what it is a front of. -/
theorem checkExisting_of_scan {scan : SearchArchiveScan} (h : scanSearchArchive existing = .ok scan) :
    checkExisting existing desired = if existing <+: desired then .ok () else .error .sequence := by
  obtain ⟨as, -, -, harchivable, hbytes⟩ := exists_segments h
  have hwalk : scanAll walkSegment () existing = .ok () := by
    rw [hbytes]
    exact scanFrom_segments harchivable (Nat.le_refl _)
  split_ifs with hbegins
  · exact checkExisting_eq_ok.mpr ⟨hbegins, hwalk⟩
  · refine reject_bind_of_fails ?_ _
    by_contra hnot
    rw [not_or, not_not] at hnot
    exact hbegins (List.prefix_iff_eq_take.mpr hnot.2)

/-- The segments that the writer writes. -/
theorem exists_written (hgenerations : ArchivableFrom 0 generations)
    (h : encodeSearchArchive manifest generations evidence = .ok existing) :
    (∀ x ∈ archivedSegments (generations.map (Prod.mk manifest)) manifest
        ((orderedEvidence evidence).map (·.evidence)), x.Archivable)
      ∧ existing = (archivedSegments (generations.map (Prod.mk manifest)) manifest
        ((orderedEvidence evidence).map (·.evidence))).flatMap ArchivedSegment.bytes := by
  obtain ⟨-, harchivable, -, hbytes⟩ := encodeSearchArchive_eq_ok.mp h
  refine ⟨archivable_archivedSegments ?_ ?_, ?_⟩
  · rw [List.forall_mem_map]
    exact hgenerations.archivable
  · rw [List.forall_mem_map]
    exact fun v hv ↦ harchivable v ((orderedEvidence_perm evidence).mem_iff.mp hv)
  · rw [bytes_archivedSegments, log_eq_archiveBytes, hbytes]

/-- The new archive goes on where the old one ends. -/
def GoesOn (generations : List SearchGeneration) (evidence : List (CandidateEvaluation Kas8Bytes))
    (generations' : List SearchGeneration) (evidence' : List (CandidateEvaluation Kas8Bytes)) : Prop :=
  (evidence = [] ∧ generations <+: generations')
    ∨ (evidence ≠ [] ∧ generations = generations'
      ∧ (orderedEvidence evidence).map (·.evidence) <+: (orderedEvidence evidence').map (·.evidence))

theorem prefix_iff_goesOn (hold : ArchivableFrom 0 generations)
    (hnew : ArchivableFrom 0 generations')
    (hexisting : encodeSearchArchive manifest generations evidence = .ok existing)
    (hdesired : encodeSearchArchive manifest generations' evidence' = .ok desired) :
    existing <+: desired ↔ GoesOn generations evidence generations' evidence' := by
  obtain ⟨harchivable, rfl⟩ := exists_written hold hexisting
  obtain ⟨harchivable', rfl⟩ := exists_written hnew hdesired
  have hnil : (orderedEvidence evidence).map (·.evidence) = [] ↔ evidence = [] := by
    rw [List.map_eq_nil_iff, ← List.length_eq_zero_iff, (orderedEvidence_perm evidence).length_eq,
      List.length_eq_zero_iff]
  have hinjective : Function.Injective (Prod.mk manifest : SearchGeneration → ArchivedGeneration) :=
    Prod.mk_right_injective manifest
  rw [ArchivedSegment.delimits.flatMap_prefix_iff ArchivedSegment.bytes_ne_nil harchivable harchivable',
    archivedSegments_prefix_iff, hnil, List.prefix_map_iff_of_injective hinjective,
    hinjective.list_map.eq_iff]
  simp only [true_and, ne_eq, GoesOn, hnil]

/-- A search that is resumed, if nothing fails, replaces the archive by the new one if that goes on
where the old one ends, and leaves it alone otherwise.  As the evidence is behind the generations, an
archive with evidence takes no further generation. -/
theorem resumes_iff (hold : ArchivableFrom 0 generations)
    (hknown : ∀ v ∈ evidence, v.aggregate.candidateIdentity ∈ knownCandidates generations)
    (hexisting : encodeSearchArchive manifest generations evidence = .ok existing)
    (hnew : ArchivableFrom 0 generations')
    (hknown' : ∀ v ∈ evidence', v.aggregate.candidateIdentity ∈ knownCandidates generations')
    (hdesired : encodeSearchArchive manifest generations' evidence' = .ok desired)
    (temp : ArchiveFile) :
    let resumed := (resumeSearchArchiveAtomic manifest generations' evidence').run
      ArchiveSystem.perform ⟨⟨some existing, temp⟩, []⟩
    (GoesOn generations evidence generations' evidence' ∧ resumed.1 = .ok ()
        ∧ resumed.2.directory.file = some desired)
      ∨ (¬GoesOn generations evidence generations' evidence' ∧ resumed.1 = .error .sequence
        ∧ resumed.2.directory = ⟨some existing, temp⟩) := by
  intro resumed
  have hscan := scanSearchArchive_of_encode hold hknown hexisting
  have hscan' := scanSearchArchive_of_encode hnew hknown' hdesired
  have hresumed : resumed = Calls.run ArchiveSystem.perform
      (if existing = desired then .done (.ok ())
        else match checkExisting existing desired with
          | .error e => .done (.error e)
          | .ok () => checkedReplace desired) ⟨⟨some existing, temp⟩, []⟩ := by
    show Calls.run _ (resumeSearchArchiveAtomic manifest generations' evidence') _ = _
    rw [resumeSearchArchiveAtomic, hdesired]
    rfl
  have hreplace : checkedReplace desired = replaceArchive desired := by
    rw [checkedReplace, hscan']
    exact if_neg (not_not.mpr rfl)
  rw [← prefix_iff_goesOn hold hnew hexisting hdesired, hresumed, checkExisting_of_scan hscan]
  split_ifs with heq hbegins
  · exact .inl ⟨heq ▸ List.prefix_refl existing, rfl, congrArg some heq⟩
  · refine .inl ⟨hbegins, ?_⟩
    dsimp only
    rw [hreplace]
    exact ⟨rfl, rfl⟩
  · exact .inr ⟨hbegins, rfl, rfl⟩

theorem encodeSearchArchive_blank (h : ArchivableFrom 0 generations) :
    encodeSearchArchive manifest generations [] = .ok (archiveBytes manifest generations) := by
  refine encodeSearchArchive_eq_ok.mpr
    ⟨fun g hg ↦ (h.archivable g hg).toWritable, by rintro v ⟨⟩, List.nodup_nil, ?_⟩
  rw [orderedEvidence, List.mergeSort_nil]
  exact (List.append_nil _).symm

theorem blank_resumes_iff :
    let old := [blankGeneration 0, blankGeneration 1].take 1
    let new := [blankGeneration 0, blankGeneration 1]
    let resumed := (resumeSearchArchiveAtomic 5 new []).run ArchiveSystem.perform
      ⟨⟨some (archiveBytes 5 old), none⟩, []⟩
    (GoesOn old [] new [] ∧ resumed.1 = .ok ()
        ∧ resumed.2.directory.file = some (archiveBytes 5 new))
      ∨ (¬GoesOn old [] new [] ∧ resumed.1 = .error .sequence
        ∧ resumed.2.directory = ⟨some (archiveBytes 5 old), none⟩) :=
  have hold := archivableFrom_blank.take 1
  resumes_iff hold (by rintro v ⟨⟩) (encodeSearchArchive_blank hold) archivableFrom_blank
    (by rintro v ⟨⟩) (encodeSearchArchive_blank archivableFrom_blank) none

end Resuming

end Ksa64.Host
