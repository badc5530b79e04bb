import Ksa64.Library.Attempt
import Ksa64.Library.Calls
import Ksa64.Library.Words
import Ksa64.Interface.Records

/-!
# Campaign archives

A KRA4 or KRA5 archive is a superblock and records behind it.  The writer appends a record in
four writes: its header, not yet committed, its payload, the committed header, and the superblock
that counts it.  The last record is a footer, after which the superblock is written once more, as
that of a complete archive.  The scanner trusts the superblock and goes over the records that it
counts.

The two formats differ in the constants of the superblock, and in nothing else.
-/

namespace Ksa64.Sim

open Ksa64.Library Ksa64.Interface

structure ArchiveFormat where
  magic : List UInt8
  version : UInt16
  contractId : UInt32
  length_magic : magic.length = 4

def kra4 : ArchiveFormat where
  magic := [0x4b, 0x52, 0x41, 0x34]
  version := 4
  contractId := 0x04000001
  length_magic := rfl

def kra5 : ArchiveFormat where
  magic := [0x4b, 0x52, 0x41, 0x35]
  version := 5
  contractId := 0x050c0002
  length_magic := rfl

def archiveSuperblockLength : Nat := 256
def archiveRecordHeaderLength : Nat := 32
def recordCommitted : UInt16 := 1
def recordFooter : UInt16 := 0xffff
def superblockCrcOffset : Nat := archiveSuperblockLength - 4
def recordCrcOffset : Nat := archiveRecordHeaderLength - 4
def archiveChainSeed : UInt32 := 2166136261

inductive ArchiveError where
  | storage
  | capacity
  | length
  | magic
  | version
  | contract
  | reserved
  | checksum
  | sequence
  | incomplete
deriving DecidableEq, Repr

/-! ## Storage -/

structure ArchiveStorageError where
deriving DecidableEq

/-- The bytes of a `SliceStorage`. -/
abbrev ArchiveStorage := List UInt8

structure StorageWrite where
  offset : UInt32
  bytes : List UInt8
deriving DecidableEq

namespace ArchiveStorage

def capacity (s : ArchiveStorage) : UInt32 := UInt32.ofNat (min s.length (2 ^ 32 - 1))

def read (s : ArchiveStorage) (offset : UInt32) (length : Nat) :
    Except ArchiveStorageError (List UInt8) :=
  if offset.toNat + length ≤ s.length then .ok (slice s offset.toNat (offset.toNat + length))
  else .error {}

def write (w : StorageWrite) (s : ArchiveStorage) :
    Except ArchiveStorageError Unit × ArchiveStorage :=
  if w.offset.toNat + w.bytes.length ≤ s.length then (.ok (), splice s w.offset.toNat w.bytes)
  else (.error {}, s)

end ArchiveStorage

/-! ## Writing -/

/-- A program that writes to a storage. -/
abbrev Archiving (α : Type) := Calls StorageWrite (fun _ ↦ Except ArchiveStorageError Unit) α

structure ArchiveWriter where
  campaignCrc32 : UInt32
  logicalLength : UInt32
  recordCount : UInt32
  chain : UInt32
  finished : Bool
deriving DecidableEq

def recordHeader (kind flags : UInt16) (sequence run length payloadCrc previousChain : UInt32) :
    List UInt8 :=
  sealRecord recordCrcOffset
    [(0, .word16 kind),
      (2, .word16 flags),
      (4, .word32 sequence),
      (8, .word32 run),
      (12, .word32 length),
      (16, .word32 payloadCrc),
      (20, .word32 previousChain)]

def mixRecord (chain : UInt32) (kind : UInt16) (sequence run length crc : UInt32) : UInt32 :=
  crc32Ieee (Layout.fill 22
    [(0, .word32 chain),
      (4, .word16 kind),
      (6, .word32 sequence),
      (10, .word32 run),
      (14, .word32 length),
      (18, .word32 crc)])

namespace ArchiveWriter

section Write

variable (F : ArchiveFormat) (capacity : UInt32)

def superblockCells (w : ArchiveWriter) (complete : Bool) : Layout :=
  [(0, .bytes F.magic),
    (4, .word16 F.version),
    (6, .word16 256),
    (8, .word32 F.contractId),
    (12, .word32 w.campaignCrc32),
    (16, .word32 capacity),
    (20, .word32 w.logicalLength),
    (24, .word32 w.recordCount),
    (28, .word32 w.chain),
    (32, .byte complete.toUInt8)]

/-- Write, and give up if the storage fails. -/
def store (w : ArchiveWriter) (offset : UInt32) (bytes : List UInt8)
    (next : Archiving (Attempt ArchiveError ArchiveWriter Unit)) :
    Archiving (Attempt ArchiveError ArchiveWriter Unit) :=
  .call ⟨offset, bytes⟩ fun
    | .error _ => .done (.error .storage, w)
    | .ok () => next

def writeSuperblock (w : ArchiveWriter) (complete : Bool) :
    Archiving (Attempt ArchiveError ArchiveWriter Unit) :=
  w.store 0 (sealRecord superblockCrcOffset (w.superblockCells F capacity complete))
    (.done (.ok (), w))

def appendInternal (w : ArchiveWriter) (kind : UInt16) (runIndex : UInt32)
    (payload : List UInt8) : Archiving (Attempt ArchiveError ArchiveWriter Unit) :=
  let length := UInt32.ofNat payload.length
  match checkedAdd32 (UInt32.ofNat archiveRecordHeaderLength) length with
  | none => .done (.error .length, w)
  | some total =>
      match checkedAdd32 w.logicalLength total with
      | none => .done (.error .length, w)
      | some stop =>
          if capacity < stop then .done (.error .capacity, w)
          else
            let payloadCrc := crc32Ieee payload
            let header (flags : UInt16) :=
              recordHeader kind flags w.recordCount runIndex length payloadCrc w.chain
            let appended := { w with
              chain := mixRecord w.chain kind w.recordCount runIndex length payloadCrc
              logicalLength := stop
              recordCount := w.recordCount + 1 }
            w.store w.logicalLength (header 0) <|
              w.store (w.logicalLength + UInt32.ofNat archiveRecordHeaderLength) payload <|
                w.store w.logicalLength (header recordCommitted) <|
                  appended.writeSuperblock F capacity false

def create (campaignCrc32 : UInt32) :
    Archiving (Except ArchiveError Unit × Option ArchiveWriter) :=
  if capacity < UInt32.ofNat archiveSuperblockLength then .done (.error .capacity, none)
  else
    let writer : ArchiveWriter := {
      campaignCrc32 := campaignCrc32
      logicalLength := UInt32.ofNat archiveSuperblockLength
      recordCount := 0
      chain := archiveChainSeed
      finished := false }
    (writer.writeSuperblock F capacity false).andThen fun
      | (.error error, _) => .done (.error error, none)
      | (.ok (), w) => .done (.ok (), some w)

def append (w : ArchiveWriter) (kind : UInt16) (runIndex : UInt32) (payload : List UInt8) :
    Archiving (Attempt ArchiveError ArchiveWriter Unit) :=
  if w.finished ∨ kind = recordFooter ∨ 2 ^ 32 - 1 < payload.length then
    .done (.error .length, w)
  else w.appendInternal F capacity kind runIndex payload

def footer (w : ArchiveWriter) : List UInt8 :=
  le32 w.recordCount ++ (le32 w.logicalLength ++ (le32 w.chain ++ le32 w.campaignCrc32))

def finish (w : ArchiveWriter) : Archiving (Attempt ArchiveError ArchiveWriter Unit) :=
  if w.finished then .done (.ok (), w)
  else
    (w.appendInternal F capacity recordFooter 0xffffffff w.footer).andThen fun
      | (.error error, w) => .done (.error error, w)
      | (.ok (), w) => { w with finished := true }.writeSuperblock F capacity true

end Write

end ArchiveWriter

/-! ## Scanning -/

structure ArchiveScan where
  campaignCrc32 : UInt32
  validRecords : UInt32
  validBytes : UInt32
  complete : Bool
  chain : UInt32
deriving DecidableEq

/-- Where the scanner stands. -/
structure ScanCursor where
  offset : UInt32
  sequence : UInt32
  chain : UInt32
  footerValid : Bool
deriving DecidableEq

section Scan

variable (F : ArchiveFormat) (s : ArchiveStorage)

/-- Read from the storage. -/
def load (offset : UInt32) (length : Nat) : Except ArchiveError (List UInt8) :=
  (ArchiveStorage.read s offset length).mapError fun _ ↦ .storage

/-- The loop of `crcStorage`, 64 bytes at a time. -/
def crcChunks : Nat → UInt32 → UInt32 → UInt32 → Except ArchiveError UInt32
  | 0, _, _, state => pure state
  | fuel + 1, offset, length, state => do
      if length = 0 then pure state
      else
        let count := min length 64
        let chunk ← load s offset count.toNat
        crcChunks fuel (offset + count) (length - count) (chunk.foldl crc32Byte state)

def crcStorage (offset length : UInt32) : Except ArchiveError UInt32 := do
  let state ← crcChunks s length.toNat offset length 0xffffffff
  pure (~~~state)

/-- Whether there is a footer: it must be the last record, and tell what is before it. -/
def scanFooter (declaredRecords campaign : UInt32) (k : ScanCursor) (kind : UInt16)
    (payloadOffset length : UInt32) : Except ArchiveError Bool :=
  if kind = recordFooter then do
    reject (length ≠ 16 ∨ k.sequence + 1 ≠ declaredRecords) .sequence
    let footer ← load s payloadOffset 16
    reject
      (read32 footer 0 ≠ k.sequence
        ∨ read32 footer 4 ≠ k.offset
        ∨ read32 footer 8 ≠ k.chain
        ∨ read32 footer 12 ≠ campaign) .sequence
    pure true
  else pure k.footerValid

/-- One record of the scanner's loop. -/
def scanRecord (declaredLength declaredRecords campaign : UInt32) (k : ScanCursor) :
    Except ArchiveError ScanCursor := do
  let header ← load s k.offset archiveRecordHeaderLength
  reject (read32 header recordCrcOffset ≠ crc32Ieee (slice header 0 recordCrcOffset)) .checksum
  reject (read16 header 2 ≠ recordCommitted ∨ read32 header 4 ≠ k.sequence) .incomplete
  reject (read32 header 20 ≠ k.chain ∨ read32 header 24 ≠ 0) .sequence
  let kind := read16 header 0
  let run := read32 header 8
  let length := read32 header 12
  let expectedCrc := read32 header 16
  let payloadOffset := k.offset + UInt32.ofNat archiveRecordHeaderLength
  let stop ← (checkedAdd32 payloadOffset length).elim (throw .length) pure
  reject (declaredLength < stop) .length
  let actualCrc ← crcStorage s payloadOffset length
  reject (actualCrc ≠ expectedCrc) .checksum
  let footerValid ← scanFooter s declaredRecords campaign k kind payloadOffset length
  pure {
    offset := payloadOffset + length
    sequence := k.sequence + 1
    chain := mixRecord k.chain kind k.sequence run length expectedCrc
    footerValid := footerValid }

/-- The scanner's loop over the records that are declared. -/
def scanRecords (declaredLength declaredRecords campaign : UInt32) :
    Nat → ScanCursor → Except ArchiveError ScanCursor
  | 0, k => pure k
  | n + 1, k => do
      let k ← scanRecord s declaredLength declaredRecords campaign k
      scanRecords declaredLength declaredRecords campaign n k

def scanArchive : Except ArchiveError ArchiveScan := do
  let block ← load s 0 archiveSuperblockLength
  reject (slice block 0 4 ≠ F.magic) .magic
  reject (read16 block 4 ≠ F.version ∨ read16 block 6 ≠ 256) .version
  reject (read32 block 8 ≠ F.contractId) .contract
  reject (anyNonzero block 33 superblockCrcOffset ∨ 1 < readByte block 32) .reserved
  reject (crc32Ieee (slice block 0 superblockCrcOffset) ≠ read32 block superblockCrcOffset) .checksum
  reject (read32 block 16 ≠ ArchiveStorage.capacity s) .capacity
  let declaredLength := read32 block 20
  let declaredRecords := read32 block 24
  let declaredChain := read32 block 28
  let campaign := read32 block 12
  let k ← scanRecords s declaredLength declaredRecords campaign declaredRecords.toNat
    ⟨UInt32.ofNat archiveSuperblockLength, 0, archiveChainSeed, false⟩
  reject (k.offset ≠ declaredLength ∨ k.chain ≠ declaredChain) .sequence
  let complete := readByte block 32 == 1
  reject (complete ≠ k.footerValid) .incomplete
  pure {
    campaignCrc32 := campaign
    validRecords := k.sequence
    validBytes := k.offset
    complete := complete
    chain := k.chain }

end Scan

end Ksa64.Sim
