import Mathlib.Data.List.Induction
import Ksa64.Library.Calls
import Ksa64.Library.Run

/-!
# The paired-state files

The identity of the server and the registry of its peers are files that are never written in
place.  `atomicWrite` writes a temporary file, moves the file that there is out of the way, to a
backup, and moves the temporary file to its place; `readRecoverable` reads the file, or else the
backup.  Every step may fail, and the host may crash between any two of them.

A file is a durable register (`readRecoverable_attempts`): what is read is what was written by the
last write that has been completed, or by one after it in which the host has crashed.
-/

namespace Ksa64.Broker

open Ksa64.Library

/-! ## Directories -/

structure Path where
  stem : String
  extension : String
deriving DecidableEq

def Path.withExtension (path : Path) (extension : String) : Path :=
  { path with extension := extension }

/-- The files of a directory and their bytes. -/
abbrev Directory := Path → Option (List UInt8)

structure IoError where
deriving DecidableEq

/-- The steps of a write; `metadata` is how it is found out whether a file exists. -/
inductive FileStep where
  | createDirAll
  | removeFile (path : Path)
  | createNew (path : Path)
  | writeAll (path : Path) (bytes : List UInt8)
  | syncAll (path : Path)
  | metadata (path : Path)
  | rename (source target : Path)
  | syncDirectory
deriving DecidableEq

/-- A step that fails; if it is a write, `torn` is what was written. -/
structure Fault where
  torn : List UInt8
deriving DecidableEq

/-- A directory, and for each of the steps to come whether it fails. -/
structure FileSystem where
  directory : Directory
  faults : List (Option Fault)

namespace Directory

variable (d : Directory)

def removeFile (path : Path) : Except IoError Unit × Directory :=
  if (d path).isSome then (.ok (), Function.update d path none) else (.error {}, d)

def createNew (path : Path) : Except IoError Unit × Directory :=
  if (d path).isSome then (.error {}, d) else (.ok (), Function.update d path (some []))

def writeAll (path : Path) (bytes : List UInt8) : Except IoError Unit × Directory :=
  (.ok (), Function.update d path (some bytes))

def rename (source target : Path) : Except IoError Unit × Directory :=
  if (d source).isSome then
    (.ok (), Function.update (Function.update d source none) target (d source))
  else (.error {}, d)

end Directory

namespace FileStep

/-- What the step does if it does not fail. -/
def result (d : Directory) : FileStep → Except IoError Unit × Directory
  | removeFile path => d.removeFile path
  | createNew path => d.createNew path
  | writeAll path bytes => d.writeAll path bytes
  | metadata path => (if (d path).isSome then .ok () else .error {}, d)
  | rename source target => d.rename source target
  | createDirAll | syncAll _ | syncDirectory => (.ok (), d)

/-- What is left if it fails. -/
def failed (d : Directory) (fault : Fault) : FileStep → Directory
  | writeAll path _ => Function.update d path (some fault.torn)
  | _ => d

end FileStep

def FileSystem.perform (step : FileStep) (s : FileSystem) : Except IoError Unit × FileSystem :=
  match s.faults.head? with
  | some (some fault) => (.error {}, ⟨step.failed s.directory fault, s.faults.tail⟩)
  | _ => ((step.result s.directory).1, ⟨(step.result s.directory).2, s.faults.tail⟩)

/-! ## Reading and writing -/

inductive PairedStateError where
  | io
deriving DecidableEq

def temporaryPath (target : Path) : Path := target.withExtension "tmp"

def backupPath (target : Path) : Path := target.withExtension "bak"

def readRecoverable (d : Directory) (filename : Path) : Option (List UInt8) :=
  match d filename with
  | some bytes => some bytes
  | none => d (backupPath filename)

/-- A program of file steps. -/
abbrev FileProgram := Calls FileStep (fun _ ↦ Except IoError Unit) (Except PairedStateError Unit)

namespace FileProgram

/-- A step that must not fail. -/
def must (step : FileStep) (next : FileProgram) : FileProgram :=
  .call step fun
    | .error _ => .done (.error .io)
    | .ok () => next

/-- A step that may fail. -/
def may (step : FileStep) (next : FileProgram) : FileProgram :=
  .call step fun _ ↦ next

end FileProgram

open FileProgram in
/-- The temporary file comes to its place, or the backup comes back. -/
def install (filename : Path) (hadPrimary : Bool) : FileProgram :=
  .call (.rename (temporaryPath filename) filename) fun
    | .error _ =>
        if hadPrimary then
          may (.rename (backupPath filename) filename) <|
            may (.removeFile (temporaryPath filename)) (.done (.error .io))
        else may (.removeFile (temporaryPath filename)) (.done (.error .io))
    | .ok () =>
        if hadPrimary then
          may (.removeFile (backupPath filename)) <| may .syncDirectory (.done (.ok ()))
        else may .syncDirectory (.done (.ok ()))

open FileProgram in
def atomicWrite (filename : Path) (bytes : List UInt8) : FileProgram :=
  must .createDirAll <|
  may (.removeFile (temporaryPath filename)) <|
  must (.createNew (temporaryPath filename)) <|
  must (.writeAll (temporaryPath filename) bytes) <|
  must (.syncAll (temporaryPath filename)) <|
  .call (.metadata filename) fun
    | .ok () =>
        may (.removeFile (backupPath filename)) <|
        must (.rename filename (backupPath filename)) <|
        install filename true
    | .error _ => install filename false

/-- The two files of the paired state. -/
inductive PairedFile where
  | serverIdentity
  | peerRegistry
deriving DecidableEq

def PairedFile.path : PairedFile → Path
  | serverIdentity => { stem := "paired-server", extension := "ksk1" }
  | peerRegistry => { stem := "paired-peers", extension := "ppr1" }

/-! ## Attempts -/

/-- An attempt to write a file: how its steps fail, and after how many of them the host crashes, if
it does. -/
structure WriteAttempt where
  file : PairedFile
  bytes : List UInt8
  faults : List (Option Fault)
  crash : Option Nat
deriving DecidableEq

namespace WriteAttempt

def program (a : WriteAttempt) : FileProgram := atomicWrite a.file.path a.bytes

/-- The directory after the attempt. -/
def step (d : Directory) (a : WriteAttempt) : Directory :=
  match a.crash with
  | none => (a.program.run FileSystem.perform ⟨d, a.faults⟩).2.directory
  | some n => (a.program.stopAfter FileSystem.perform n ⟨d, a.faults⟩).directory

/-- The write returned without an error. -/
def Completed (a : WriteAttempt) (d : Directory) : Prop :=
  a.crash = none ∧ (a.program.run FileSystem.perform ⟨d, a.faults⟩).1 = .ok ()

end WriteAttempt

/-- A write of the file is completed in the attempt. -/
def Completes (f : PairedFile) (d : Directory) (a : WriteAttempt) : Prop :=
  a.file = f ∧ a.Completed d

/-! ## What a step does -/

namespace FileSystem

variable {s : FileSystem} {path source target : Path} {bytes : List UInt8}

theorem perform_cases (step : FileStep) (s : FileSystem) :
    (∃ fault, (s.perform step).1 = .error {}
        ∧ (s.perform step).2.directory = step.failed s.directory fault)
      ∨ ((s.perform step).1 = (step.result s.directory).1
        ∧ (s.perform step).2.directory = (step.result s.directory).2) := by
  unfold perform
  split
  · exact .inl ⟨_, rfl, rfl⟩
  · exact .inr ⟨rfl, rfl⟩

/-- A step that only looks. -/
theorem directory_perform {step : FileStep} (hfailed : ∀ fault, step.failed s.directory fault = s.directory)
    (hresult : (step.result s.directory).2 = s.directory) :
    (s.perform step).2.directory = s.directory := by
  rcases perform_cases step s with ⟨fault, -, h⟩ | ⟨-, h⟩
  · exact h.trans (hfailed fault)
  · exact h.trans hresult

theorem perform_removeFile (path : Path) (s : FileSystem) :
    (s.perform (.removeFile path)).2.directory = s.directory
      ∨ (s.perform (.removeFile path)).2.directory = Function.update s.directory path none := by
  rcases perform_cases (.removeFile path) s with ⟨fault, -, h⟩ | ⟨-, h⟩
  · exact .inl h
  · rw [h, FileStep.result, Directory.removeFile]
    split
    · exact .inr rfl
    · exact .inl rfl

theorem perform_createNew (path : Path) (s : FileSystem) :
    (s.perform (.createNew path)).2.directory = s.directory
      ∨ (s.perform (.createNew path)).2.directory = Function.update s.directory path (some []) := by
  rcases perform_cases (.createNew path) s with ⟨fault, -, h⟩ | ⟨-, h⟩
  · exact .inl h
  · rw [h, FileStep.result, Directory.createNew]
    split
    · exact .inl rfl
    · exact .inr rfl

theorem perform_writeAll (path : Path) (bytes : List UInt8) (s : FileSystem) :
    ∃ written, (s.perform (.writeAll path bytes)).2.directory =
        Function.update s.directory path (some written)
      ∧ ((s.perform (.writeAll path bytes)).1 = .ok () → written = bytes) := by
  rcases perform_cases (.writeAll path bytes) s with ⟨fault, he, h⟩ | ⟨-, h⟩
  · exact ⟨fault.torn, h, fun hok ↦ nomatch he.symm.trans hok⟩
  · exact ⟨bytes, h, fun _ ↦ rfl⟩

theorem perform_metadata (h : (s.perform (.metadata path)).1 = .ok ()) :
    (s.directory path).isSome := by
  rcases perform_cases (.metadata path) s with ⟨fault, he, -⟩ | ⟨hr, -⟩
  · exact nomatch he.symm.trans h
  · by_contra hnone
    rw [h, FileStep.result, if_neg hnone] at hr
    exact nomatch hr

/-- A file is renamed, or nothing is done. -/
theorem perform_rename (source target : Path) (s : FileSystem) :
    ((s.perform (.rename source target)).1 = .error {}
        ∧ (s.perform (.rename source target)).2.directory = s.directory)
      ∨ ((s.perform (.rename source target)).1 = .ok ()
        ∧ (s.perform (.rename source target)).2.directory =
          Function.update (Function.update s.directory source none) target (s.directory source)) := by
  rcases perform_cases (.rename source target) s with ⟨fault, he, h⟩ | ⟨hr, h⟩
  · exact .inl ⟨he, h⟩
  · rw [hr, h, FileStep.result, Directory.rename]
    split
    · exact .inr ⟨rfl, rfl⟩
    · exact .inl ⟨rfl, rfl⟩

end FileSystem

/-! ## What is read -/

/-- The directory is as it was but for the files of one stem. -/
def SameElsewhere (filename : Path) (d d' : Directory) : Prop :=
  ∀ path, path.stem ≠ filename.stem → d' path = d path

/-- What was there is still to be read. -/
def Unwritten (filename : Path) (d : Directory) (old : Option (List UInt8)) (d' : Directory) : Prop :=
  SameElsewhere filename d d' ∧ readRecoverable d' filename = old

/-- The bytes are in their place. -/
def Written (filename : Path) (d : Directory) (bytes : List UInt8) (d' : Directory) : Prop :=
  SameElsewhere filename d d' ∧ d' filename = some bytes

theorem stem_temporaryPath (filename : Path) : (temporaryPath filename).stem = filename.stem := rfl

theorem stem_backupPath (filename : Path) : (backupPath filename).stem = filename.stem := rfl

theorem temporaryPath_ne_backupPath (filename : Path) :
    temporaryPath filename ≠ backupPath filename := fun h ↦
  absurd (congrArg Path.extension h) (by decide : "tmp" ≠ "bak")

section Write

variable {filename : Path} {d d' : Directory} {s : FileSystem} {old : Option (List UInt8)}
  {bytes : List UInt8}

theorem SameElsewhere.update (h : SameElsewhere filename d d') {path : Path}
    (hpath : path.stem = filename.stem) (value : Option (List UInt8)) :
    SameElsewhere filename d (Function.update d' path value) := by
  intro other hother
  have hne : other ≠ path := by
    rintro rfl
    exact hother hpath
  rw [Function.update_of_ne hne, h other hother]

theorem readRecoverable_of_some (h : d' filename = some bytes) :
    readRecoverable d' filename = some bytes := by
  rw [readRecoverable, h]

theorem readRecoverable_of_none (h : d' filename = none) :
    readRecoverable d' filename = d' (backupPath filename) := by
  rw [readRecoverable, h]

/-- The temporary file comes to its place. -/
theorem Unwritten.moveIn (h : Unwritten filename d old d')
    (htemporary : d' (temporaryPath filename) = some bytes) :
    Written filename d bytes (Function.update (Function.update d' (temporaryPath filename) none)
      filename (d' (temporaryPath filename))) := by
  refine ⟨(h.1.update (stem_temporaryPath _) none).update rfl _, ?_⟩
  rw [Function.update_self, htemporary]

-- The temporary file and the backup are other files than the file.
variable (hext : filename.extension ≠ "tmp" ∧ filename.extension ≠ "bak")

include hext

theorem ne_temporaryPath : filename ≠ temporaryPath filename := fun h ↦
  hext.1 (congrArg Path.extension h)

theorem ne_backupPath : filename ≠ backupPath filename := fun h ↦
  hext.2 (congrArg Path.extension h)

theorem readRecoverable_update_temporary (value : Option (List UInt8)) :
    readRecoverable (Function.update d' (temporaryPath filename) value) filename =
      readRecoverable d' filename := by
  rw [readRecoverable, readRecoverable, Function.update_of_ne (ne_temporaryPath hext),
    Function.update_of_ne (temporaryPath_ne_backupPath filename).symm]

theorem Unwritten.temporary (h : Unwritten filename d old d') (value : Option (List UInt8)) :
    Unwritten filename d old (Function.update d' (temporaryPath filename) value) :=
  ⟨h.1.update (stem_temporaryPath _) value, (readRecoverable_update_temporary hext value).trans h.2⟩

/-- The backup does not matter to a file that is there. -/
theorem Unwritten.backup (h : Unwritten filename d old d') (hsome : (d' filename).isSome)
    (value : Option (List UInt8)) :
    Unwritten filename d old (Function.update d' (backupPath filename) value) := by
  obtain ⟨current, hcurrent⟩ := Option.isSome_iff_exists.mp hsome
  refine ⟨h.1.update (stem_backupPath _) value, ?_⟩
  rw [← h.2, readRecoverable_of_some hcurrent, readRecoverable_of_some]
  rw [Function.update_of_ne (ne_backupPath hext), hcurrent]

theorem Written.backup (h : Written filename d bytes d') (value : Option (List UInt8)) :
    Written filename d bytes (Function.update d' (backupPath filename) value) :=
  ⟨h.1.update (stem_backupPath _) value, (Function.update_of_ne (ne_backupPath hext) ..).trans h.2⟩

/-- The file that there is becomes the backup. -/
theorem Unwritten.moveAway (h : Unwritten filename d old d') (hsome : (d' filename).isSome) :
    Unwritten filename d old (Function.update (Function.update d' filename none)
      (backupPath filename) (d' filename)) := by
  obtain ⟨current, hcurrent⟩ := Option.isSome_iff_exists.mp hsome
  refine ⟨(h.1.update rfl none).update (stem_backupPath _) _, ?_⟩
  rw [← h.2, readRecoverable_of_some hcurrent, readRecoverable_of_none, Function.update_self, hcurrent]
  rw [Function.update_of_ne (ne_backupPath hext), Function.update_self]

/-- The backup comes back. -/
theorem Unwritten.moveBack (h : Unwritten filename d old d') (hnone : d' filename = none) :
    Unwritten filename d old (Function.update (Function.update d' (backupPath filename) none)
      filename (d' (backupPath filename))) := by
  refine ⟨(h.1.update (stem_backupPath _) none).update rfl _, ?_⟩
  rw [← h.2, readRecoverable_of_none hnone, readRecoverable, Function.update_self,
    Function.update_of_ne (ne_backupPath hext).symm, Function.update_self]
  cases d' (backupPath filename) <;> rfl

end Write

/-! ## Writing -/

/-- Wherever a write is stopped, either the old bytes are to be read or the new ones are. -/
def EitherIsRead (filename : Path) (d : Directory) (old : Option (List UInt8)) (bytes : List UInt8)
    (s : FileSystem) : Prop :=
  Unwritten filename d old s.directory ∨ Written filename d bytes s.directory

/-- A write that returns has put its bytes in their place, or has left the old ones. -/
def AsReturned (filename : Path) (d : Directory) (old : Option (List UInt8)) (bytes : List UInt8) :
    Except PairedStateError Unit → FileSystem → Prop
  | .ok (), s => Written filename d bytes s.directory
  | .error _, s => Unwritten filename d old s.directory

/-- The program writes the file. -/
abbrev Writes (filename : Path) (d : Directory) (old : Option (List UInt8)) (bytes : List UInt8)
    (program : FileProgram) (s : FileSystem) : Prop :=
  program.Stays FileSystem.perform (EitherIsRead filename d old bytes)
    (AsReturned filename d old bytes) s

section Write

variable {filename : Path} {d : Directory} {s : FileSystem} {old : Option (List UInt8)}
  {bytes : List UInt8} {step : FileStep} {next : FileProgram}

open FileProgram

/-- A step that must not fail. -/
theorem Unwritten.must (h : Unwritten filename d old s.directory)
    (hfailed : (s.perform step).1 = .error {} →
      Unwritten filename d old (s.perform step).2.directory)
    (hnext : (s.perform step).1 = .ok () → Writes filename d old bytes next (s.perform step).2) :
    Writes filename d old bytes (must step next) s := by
  refine ⟨.inl h, ?_⟩
  cases hresult : (s.perform step).1 with
  | error e => exact ⟨.inl (hfailed hresult), hfailed hresult⟩
  | ok u => exact hnext hresult

variable (hext : filename.extension ≠ "tmp" ∧ filename.extension ≠ "bak")

include hext

/-- What is done when the temporary file has come to its place. -/
theorem Written.finish (h : Written filename d bytes s.directory) (hadPrimary : Bool) :
    Writes filename d old bytes
      (if hadPrimary then
        may (.removeFile (backupPath filename)) <| may .syncDirectory (.done (.ok ()))
      else may .syncDirectory (.done (.ok ()))) s := by
  have hsync {s' : FileSystem} (h' : Written filename d bytes s'.directory) :
      Writes filename d old bytes (may .syncDirectory (.done (.ok ()))) s' := by
    have hsynced : Written filename d bytes (s'.perform .syncDirectory).2.directory := by
      rw [FileSystem.directory_perform (fun _ ↦ rfl) rfl]
      exact h'
    exact ⟨.inr h', .inr hsynced, hsynced⟩
  cases hadPrimary with
  | false => exact hsync h
  | true =>
      refine ⟨.inr h, hsync ?_⟩
      rcases FileSystem.perform_removeFile (backupPath filename) s with hsame | hnone
      · rw [hsame]
        exact h
      · rw [hnone]
        exact h.backup hext none

/-- What is done when the temporary file has not come to its place. -/
theorem Unwritten.giveUp (h : Unwritten filename d old s.directory) :
    Writes filename d old bytes (may (.removeFile (temporaryPath filename)) (.done (.error .io))) s := by
  have hremoved : Unwritten filename d old
      (s.perform (.removeFile (temporaryPath filename))).2.directory := by
    rcases FileSystem.perform_removeFile (temporaryPath filename) s with hsame | hnone
    · rw [hsame]
      exact h
    · rw [hnone]
      exact h.temporary hext none
  exact ⟨.inl h, .inl hremoved, hremoved⟩

theorem Unwritten.install (h : Unwritten filename d old s.directory)
    (htemporary : s.directory (temporaryPath filename) = some bytes) (hadPrimary : Bool)
    (hmoved : hadPrimary = true → s.directory filename = none) :
    Writes filename d old bytes (install filename hadPrimary) s := by
  refine ⟨.inl h, ?_⟩
  rcases FileSystem.perform_rename (temporaryPath filename) filename s with ⟨hr, hsame⟩ | ⟨hr, hmove⟩
  · rw [hr]
    rw [← hsame] at h hmoved
    cases hadPrimary with
    | false => exact h.giveUp hext
    | true =>
        refine ⟨.inl h, Unwritten.giveUp hext ?_⟩
        rcases FileSystem.perform_rename (backupPath filename) filename
          (s.perform (.rename (temporaryPath filename) filename)).2 with ⟨-, hsame⟩ | ⟨-, hback⟩
        · rw [hsame]
          exact h
        · rw [hback]
          exact h.moveBack hext (hmoved rfl)
  · rw [hr]
    refine Written.finish hext ?_ hadPrimary
    rw [hmove]
    exact h.moveIn htemporary

/-- What is done with a file that there is. -/
theorem Unwritten.replace (h : Unwritten filename d old s.directory)
    (htemporary : s.directory (temporaryPath filename) = some bytes)
    (hsome : (s.directory filename).isSome) :
    Writes filename d old bytes
      (may (.removeFile (backupPath filename)) <|
        FileProgram.must (.rename filename (backupPath filename)) <|
          Broker.install filename true) s := by
  have hne : temporaryPath filename ≠ backupPath filename := temporaryPath_ne_backupPath filename
  refine ⟨.inl h, ?_⟩
  have hremoved : Unwritten filename d old
        (s.perform (.removeFile (backupPath filename))).2.directory
      ∧ (s.perform (.removeFile (backupPath filename))).2.directory (temporaryPath filename) =
        some bytes
      ∧ ((s.perform (.removeFile (backupPath filename))).2.directory filename).isSome := by
    rcases FileSystem.perform_removeFile (backupPath filename) s with hsame | hnone
    · rw [hsame]
      exact ⟨h, htemporary, hsome⟩
    · rw [hnone, Function.update_of_ne hne, Function.update_of_ne (ne_backupPath hext)]
      exact ⟨h.backup hext hsome none, htemporary, hsome⟩
  generalize (s.perform (.removeFile (backupPath filename))).2 = s₁ at hremoved ⊢
  obtain ⟨h₁, htemporary₁, hsome₁⟩ := hremoved
  rcases FileSystem.perform_rename filename (backupPath filename) s₁ with ⟨hr, hsame⟩ | ⟨hr, hmove⟩
  · refine h₁.must (fun _ ↦ hsame.symm ▸ h₁) fun hok ↦ nomatch hr.symm.trans hok
  · refine h₁.must (fun he ↦ nomatch hr.symm.trans he) fun _ ↦ ?_
    refine Unwritten.install hext ?_ ?_ true fun _ ↦ ?_
    · rw [hmove]
      exact h₁.moveAway hext hsome₁
    · rw [hmove, Function.update_of_ne hne,
        Function.update_of_ne (ne_temporaryPath hext).symm, htemporary₁]
    · rw [hmove, Function.update_of_ne (ne_backupPath hext), Function.update_self]

/-- The old bytes are to be read, or the new ones, wherever the write is stopped. -/
theorem atomicWrite_writes (bytes : List UInt8) (faults : List (Option Fault)) :
    Writes filename d (readRecoverable d filename) bytes (atomicWrite filename bytes) ⟨d, faults⟩ := by
  have hstart : Unwritten filename d (readRecoverable d filename)
      (FileSystem.mk d faults).directory := ⟨fun _ _ ↦ rfl, rfl⟩
  generalize FileSystem.mk d faults = s at hstart ⊢
  -- the directory is there
  have h₁ : Unwritten filename d (readRecoverable d filename)
      (s.perform .createDirAll).2.directory := by
    rw [FileSystem.directory_perform (fun _ ↦ rfl) rfl]
    exact hstart
  refine hstart.must (fun _ ↦ h₁) fun _ ↦ ?_
  generalize (s.perform .createDirAll).2 = s₁ at h₁ ⊢
  -- no temporary file is left
  refine ⟨.inl h₁, ?_⟩
  have h₂ : Unwritten filename d (readRecoverable d filename)
      (s₁.perform (.removeFile (temporaryPath filename))).2.directory := by
    rcases FileSystem.perform_removeFile (temporaryPath filename) s₁ with hsame | hnone
    · rw [hsame]
      exact h₁
    · rw [hnone]
      exact h₁.temporary hext none
  generalize (s₁.perform (.removeFile (temporaryPath filename))).2 = s₂ at h₂ ⊢
  -- a new one is made
  have h₃ : Unwritten filename d (readRecoverable d filename)
      (s₂.perform (.createNew (temporaryPath filename))).2.directory := by
    rcases FileSystem.perform_createNew (temporaryPath filename) s₂ with hsame | hnew
    · rw [hsame]
      exact h₂
    · rw [hnew]
      exact h₂.temporary hext _
  refine h₂.must (fun _ ↦ h₃) fun _ ↦ ?_
  generalize (s₂.perform (.createNew (temporaryPath filename))).2 = s₃ at h₃ ⊢
  -- and written
  obtain ⟨written, hwrite, hall⟩ :=
    FileSystem.perform_writeAll (temporaryPath filename) bytes s₃
  have h₄ : Unwritten filename d (readRecoverable d filename)
      (s₃.perform (.writeAll (temporaryPath filename) bytes)).2.directory := by
    rw [hwrite]
    exact h₃.temporary hext _
  refine h₃.must (fun _ ↦ h₄) fun hok ↦ ?_
  have htemporary : (s₃.perform (.writeAll (temporaryPath filename) bytes)).2.directory
      (temporaryPath filename) = some bytes := by
    rw [hwrite, Function.update_self, hall hok]
  generalize (s₃.perform (.writeAll (temporaryPath filename) bytes)).2 = s₄ at h₄ htemporary ⊢
  have hsync : (s₄.perform (.syncAll (temporaryPath filename))).2.directory = s₄.directory :=
    FileSystem.directory_perform (fun _ ↦ rfl) rfl
  have h₅ : Unwritten filename d (readRecoverable d filename)
      (s₄.perform (.syncAll (temporaryPath filename))).2.directory := hsync.symm ▸ h₄
  refine h₄.must (fun _ ↦ h₅) fun _ ↦ ?_
  rw [← hsync] at htemporary
  generalize (s₄.perform (.syncAll (temporaryPath filename))).2 = s₅ at h₅ htemporary ⊢
  -- whether there is a file to be replaced
  refine ⟨.inl h₅, ?_⟩
  have hlook : (s₅.perform (.metadata filename)).2.directory = s₅.directory :=
    FileSystem.directory_perform (fun _ ↦ rfl) rfl
  have hsome := @FileSystem.perform_metadata s₅ filename
  rw [← hlook] at h₅ htemporary hsome
  cases hresult : (s₅.perform (.metadata filename)).1 with
  | error e => exact h₅.install hext htemporary false nofun
  | ok u => exact h₅.replace hext htemporary (hsome hresult)

end Write

/-! ## Attempts to write -/

namespace PairedFile

theorem extension_path (f : PairedFile) : f.path.extension ≠ "tmp" ∧ f.path.extension ≠ "bak" := by
  cases f <;> decide

theorem stem_path_ne {f g : PairedFile} (h : f ≠ g) : f.path.stem ≠ g.path.stem := by
  cases f <;> cases g <;> first | exact absurd rfl h | decide

end PairedFile

section Attempts

variable {d : Directory} {a : WriteAttempt} {f : PairedFile} {as : List WriteAttempt}

theorem SameElsewhere.read {filename other : Path} {d' : Directory}
    (h : SameElsewhere filename d d') (hother : other.stem ≠ filename.stem) :
    readRecoverable d' other = readRecoverable d other := by
  rw [readRecoverable, readRecoverable, h other hother, h (backupPath other) hother]

namespace WriteAttempt

theorem writes (d : Directory) (a : WriteAttempt) :
    Writes a.file.path d (readRecoverable d a.file.path) a.bytes a.program ⟨d, a.faults⟩ :=
  atomicWrite_writes a.file.extension_path a.bytes a.faults

theorem step_cases (d : Directory) (a : WriteAttempt) :
    (Unwritten a.file.path d (readRecoverable d a.file.path) (step d a) ∧ ¬a.Completed d)
      ∨ (Written a.file.path d a.bytes (step d a) ∧ (a.Completed d ∨ a.crash.isSome)) := by
  have hwrites := a.writes d
  unfold step Completed
  cases a.crash with
  | none =>
      have hreturned := hwrites.run
      dsimp only
      cases hresult : (a.program.run FileSystem.perform ⟨d, a.faults⟩).1 with
      | error e =>
          rw [hresult] at hreturned
          exact .inl ⟨hreturned, fun h ↦ nomatch h.2⟩
      | ok u =>
          rw [hresult] at hreturned
          exact .inr ⟨hreturned, .inl ⟨rfl, rfl⟩⟩
  | some n =>
      rcases hwrites.stopAfter n with hu | hw
      · exact .inl ⟨hu, fun h ↦ nomatch h.1⟩
      · exact .inr ⟨hw, .inr rfl⟩

/-- The other file is left alone. -/
theorem read_of_ne (h : a.file ≠ f) :
    readRecoverable (step d a) f.path = readRecoverable d f.path := by
  have hstem := PairedFile.stem_path_ne h.symm
  rcases step_cases d a with ⟨hu, -⟩ | ⟨hw, -⟩
  · exact hu.1.read hstem
  · exact hw.1.read hstem

/-- What is read of a file after an attempt to write this file or the other. -/
theorem read_cases (a : WriteAttempt) (d : Directory) (f : PairedFile) :
    (readRecoverable (step d a) f.path = readRecoverable d f.path ∧ ¬Completes f d a)
      ∨ (a.file = f ∧ readRecoverable (step d a) f.path = some a.bytes
        ∧ (a.Completed d ∨ a.crash.isSome)) := by
  by_cases hf : a.file = f
  · subst hf
    rcases step_cases d a with ⟨hu, hnot⟩ | ⟨hw, hdone⟩
    · exact .inl ⟨hu.2, fun h ↦ hnot h.2⟩
    · exact .inr ⟨rfl, readRecoverable_of_some hw.2, hdone⟩
  · exact .inl ⟨read_of_ne hf, fun h ↦ hf h.1⟩

end WriteAttempt

end Attempts

/-- **A file is a durable register.**  After any attempts to write, with any failures of their steps
and any crashes, what is read of a file was written by the last of its writes that has been completed
or by one after it in which the host has crashed; nothing is read only if nothing has been
completed.  And one attempt more leaves what is read or puts its own bytes there. -/
theorem readRecoverable_attempts (d : Directory) (as : List WriteAttempt) (f : PairedFile) :
    ((readRecoverable (run WriteAttempt.step d as) f.path = readRecoverable d f.path
          ∧ ¬Happens WriteAttempt.step (Completes f) d as)
        ∨ ∃ pre a post, as = pre ++ a :: post ∧ a.file = f
          ∧ readRecoverable (run WriteAttempt.step d as) f.path = some a.bytes
          ∧ (a.Completed (run WriteAttempt.step d pre) ∨ a.crash.isSome)
          ∧ ¬Happens WriteAttempt.step (Completes f) (run WriteAttempt.step d (pre ++ [a])) post)
      ∧ ∀ a, readRecoverable (run WriteAttempt.step d (as ++ [a])) f.path =
            readRecoverable (run WriteAttempt.step d as) f.path
          ∨ a.file = f
            ∧ readRecoverable (run WriteAttempt.step d (as ++ [a])) f.path = some a.bytes := by
  have hone (as : List WriteAttempt) (a : WriteAttempt) :=
    a.read_cases (run WriteAttempt.step d as) f
  simp only [← run_concat] at hone
  refine ⟨?_, fun a ↦ (hone as a).imp And.left fun h ↦ ⟨h.1, h.2.1⟩⟩
  induction as using List.reverseRecOn with
  | nil => exact .inl ⟨rfl, id⟩
  | append_singleton as a ih =>
      rcases hone as a with ⟨hread, hnot⟩ | ⟨hfile, hread, hdone⟩
      · rw [hread]
        rcases ih with ⟨hold, hnone⟩ | ⟨pre, b, post, rfl, hb, hbytes, hdone, hnone⟩
        · refine .inl ⟨hold, fun h ↦ ?_⟩
          rcases happens_concat.mp h with h | h
          · exact hnone h
          · exact hnot h
        · refine .inr ⟨pre, b, post ++ [a], ?_, hb, hbytes, hdone, fun h ↦ ?_⟩
          · rw [List.append_assoc, List.cons_append]
          · rcases happens_concat.mp h with h | h
            · exact hnone h
            · rw [← run_append, List.append_assoc, List.singleton_append] at h
              exact hnot h
      · exact .inr ⟨as, a, [], rfl, hfile, hread, hdone, id⟩

end Ksa64.Broker
