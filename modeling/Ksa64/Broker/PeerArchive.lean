import Ksa64.Interface.Codec
import Ksa64.Broker.Peers

/-!
# The archive of the peers

A registry is exported as an archive: a header, a sealed record for each peer, and a checksum of all
of it.  Importing is the inverse of exporting (`importBounded_eq_ok_iff`): an archive that is let in
is the one that its registry is exported as.

What can be exported is not quite what can be paired.  An export refuses a key of zeros and the
role of a scripted operator, and a pairing does not: `registry_saved_iff`.
-/

namespace Ksa64.Presentation

namespace PresentationRole

def raw : PresentationRole → UInt8
  | observer => 1
  | guidedOperator => 2
  | flightController => 3
  | flightSoftwareEngineer => 4
  | simDirector => 5
  | scriptedOperator => 6

def fromRaw : UInt8 → Option PresentationRole
  | 1 => some observer
  | 2 => some guidedOperator
  | 3 => some flightController
  | 4 => some flightSoftwareEngineer
  | 5 => some simDirector
  | 6 => some scriptedOperator
  | _ => none

theorem fromRaw_eq_some {byte : UInt8} {role : PresentationRole} :
    fromRaw byte = some role ↔ byte = role.raw := by
  constructor
  · intro h
    unfold fromRaw at h
    split at h <;> cases h <;> rfl
  · rintro rfl
    cases role <;> rfl

end PresentationRole

end Ksa64.Presentation

namespace Ksa64.Broker

open Ksa64.Library
open Ksa64.Presentation
open Ksa64.Interface (crc32Ieee sealRecord eq_sealRecord_iff take_eq_sealRecord_iff)

def peerRegistryHeaderLength : Nat := 16
def peerRegistryRecordLength : Nat := 40
def peerRegistryTrailerLength : Nat := 4
def peerRegistryMaxLength : Nat :=
  peerRegistryHeaderLength + maxPairedPeers * peerRegistryRecordLength + peerRegistryTrailerLength
def peerRegistryMagic : List UInt8 := [0x50, 0x50, 0x52, 0x31]
def peerRegistryVersion : UInt16 := 1
def peerFlagRevoked : UInt8 := 1

/-! ## Exporting -/

/-- A key without a byte other than zero. -/
def PublicKey.IsZero (publicKey : PublicKey) : Prop := publicKey.toList.all (· = 0)

instance (publicKey : PublicKey) : Decidable publicKey.IsZero := inferInstanceAs (Decidable (_ = true))

/-- The record of a peer but for its checksum. -/
def PeerRecord.cells (peer : PeerRecord) : Layout :=
  [(0, .bytes peer.publicKey.toList),
    (32, .byte peer.role.raw),
    (33, .byte (if peer.revoked then peerFlagRevoked else 0))]

def PeerRecord.bytes (peer : PeerRecord) : List UInt8 := sealRecord 36 peer.cells

namespace PeerRegistry

def headerCells (count : Nat) : Layout :=
  [(0, .bytes peerRegistryMagic),
    (4, .word16 peerRegistryVersion),
    (6, .word16 (UInt16.ofNat peerRegistryHeaderLength)),
    (8, .word16 (UInt16.ofNat count)),
    (10, .word16 (UInt16.ofNat peerRegistryRecordLength))]

def recordCells (base : Nat) (peer : PeerRecord) : Layout := [(base, .bytes peer.bytes)]

/-- The archive but for the checksum behind it. -/
def cells (peers : List PeerRecord) : Layout :=
  headerCells peers.length
    ++ Layout.table peerRegistryRecordLength recordCells peerRegistryHeaderLength peers

/-- The archive of a registry. -/
def bytes (r : PeerRegistry) : List UInt8 :=
  sealRecord (peerRegistryHeaderLength + r.peers.length * peerRegistryRecordLength) (cells r.peers)

/-- What an export checks of the records, one after the other. -/
def checkRecords : List PeerRecord → List PeerRecord → Except NoiseTransportError Unit
  | _, [] => pure ()
  | prior, peer :: rest => do
      reject (prior.any (·.publicKey = peer.publicKey)) .registryDuplicate
      reject (peer.publicKey.IsZero ∨ peer.role = .scriptedOperator) .registryKey
      checkRecords (prior ++ [peer]) rest

def exportBounded (r : PeerRegistry) : Except NoiseTransportError (List UInt8) := do
  reject (maxPairedPeers < r.peers.length) .peerLimit
  checkRecords [] r.peers
  pure r.bytes

/-! ## Importing -/

def importRecord (input : List UInt8) (offset : Nat) (peers : List PeerRecord) :
    Except NoiseTransportError PeerRecord := do
  reject (read32 input (offset + 36) ≠ crc32Ieee (slice input offset (offset + 36))) .registryCrc
  reject (readByte input (offset + 34) ≠ 0 ∨ readByte input (offset + 35) ≠ 0) .registryReserved
  let flags := readByte input (offset + 33)
  reject (flags &&& ~~~peerFlagRevoked ≠ 0) .registryReserved
  let publicKey : PublicKey := Vector.ofFn fun i ↦ readByte input (offset + i)
  reject (publicKey.IsZero ∨ peers.any (·.publicKey = publicKey))
    (if publicKey.IsZero then .registryKey else .registryDuplicate)
  let role ← (PresentationRole.fromRaw (readByte input (offset + 32))).elim (throw .roleMismatch) pure
  reject (role = .scriptedOperator) .roleMismatch
  pure ⟨publicKey, role, flags &&& peerFlagRevoked ≠ 0⟩

/-- Import some more records. -/
def importRecords (input : List UInt8) : Nat → List PeerRecord →
    Except NoiseTransportError (List PeerRecord)
  | 0, peers => pure peers
  | count + 1, peers => do
      let peer ← importRecord input
        (peerRegistryHeaderLength + peers.length * peerRegistryRecordLength) peers
      importRecords input count (peers ++ [peer])

def importBounded (input : List UInt8) : Except NoiseTransportError PeerRegistry := do
  reject (input.length < peerRegistryHeaderLength + peerRegistryTrailerLength
    ∨ peerRegistryMaxLength < input.length) .registryLength
  reject (slice input 0 4 ≠ peerRegistryMagic) .registryMagic
  reject (read16 input 4 ≠ peerRegistryVersion
    ∨ (read16 input 6).toNat ≠ peerRegistryHeaderLength
    ∨ (read16 input 10).toNat ≠ peerRegistryRecordLength) .registryVersion
  reject ((slice input 12 16).any (· != 0)) .registryReserved
  let count := (read16 input 8).toNat
  reject (maxPairedPeers < count) .peerLimit
  let trailer := peerRegistryHeaderLength + count * peerRegistryRecordLength
  reject (input.length ≠ trailer + peerRegistryTrailerLength) .registryLength
  reject (read32 input trailer ≠ crc32Ieee (slice input 0 trailer)) .registryCrc
  let peers ← importRecords input count []
  pure ⟨peers⟩

/-! ## Importing what is exported -/

/-- A peer that an export takes. -/
structure Storable (peer : PeerRecord) : Prop where
  key : ¬peer.publicKey.IsZero
  role : peer.role ≠ .scriptedOperator

section Records

variable {input : List UInt8} {peers rest : List PeerRecord} {peer : PeerRecord}

theorem fits_cells (peer : PeerRecord) : Layout.Fits 36 0 peer.cells := by
  simp [PeerRecord.cells]

theorem length_bytes (peer : PeerRecord) : peer.bytes.length = 40 :=
  ((eq_sealRecord_iff (fits_cells peer)).mp rfl).1

theorem fits_header (count : Nat) : Layout.Fits 16 0 (headerCells count) := by
  simp [headerCells, peerRegistryMagic]

theorem fits_record (base : Nat) (peer : PeerRecord) :
    Layout.Fits (base + 40) base (recordCells base peer) := by
  simp [recordCells, length_bytes]

theorem fits_archive (peers : List PeerRecord) : Layout.Fits (16 + peers.length * 40) 0 (cells peers) :=
  Layout.fits_append (fits_header _) (Layout.fits_table fits_record (Nat.le_refl _))

theorem ofFn_readByte_eq {xs : List UInt8} {publicKey : PublicKey} (h : 32 ≤ xs.length) :
    (Vector.ofFn fun i : Fin 32 ↦ readByte xs i) = publicKey ↔ slice xs 0 32 = publicKey.toList := by
  have hslice : (Vector.ofFn fun i : Fin 32 ↦ readByte xs i).toList = slice xs 0 32 := by
    refine List.ext_getElem (by rw [Vector.length_toList, length_slice h]) fun i hi hi' ↦ ?_
    rw [Vector.length_toList] at hi
    simp [slice, readByte_eq_getElem (Nat.lt_of_lt_of_le hi h)]
  rw [← hslice, Vector.toList_inj]

/-- The flags of a record that is let in. -/
theorem flags_eq_iff {flags : UInt8} {revoked : Bool} :
    flags &&& ~~~peerFlagRevoked = 0 ∧ decide (flags &&& peerFlagRevoked ≠ 0) = revoked ↔
      flags = if revoked then peerFlagRevoked else 0 := by
  have hall : ∀ (byte : Fin (2 ^ 8)) (b : Bool),
      UInt8.ofFin byte &&& ~~~peerFlagRevoked = 0
          ∧ decide (UInt8.ofFin byte &&& peerFlagRevoked ≠ 0) = b ↔
        UInt8.ofFin byte = if b then peerFlagRevoked else 0 := by
    decide +kernel
  exact hall flags.toFin revoked

/-- A record is imported exactly if it is that of a peer that may be stored, and is not stored yet. -/
theorem importRecord_eq_ok {offset : Nat} (hlen : offset + 40 ≤ input.length) :
    importRecord input offset peers = .ok peer ↔
      slice input offset (offset + 40) = peer.bytes ∧ Storable peer
        ∧ ¬peers.any (·.publicKey = peer.publicKey) := by
  have hdrop : 40 ≤ (input.drop offset).length := by
    rw [List.length_drop]
    exact Nat.le_sub_of_add_le' hlen
  have hslice : slice input offset (offset + 40) = (input.drop offset).take (36 + 4) :=
    slice_drop input offset 0 40
  have hkey : (Vector.ofFn fun i : Fin 32 ↦ readByte input (offset + i)) = peer.publicKey ↔
      slice (input.drop offset) 0 32 = peer.publicKey.toList := by
    rw [← ofFn_readByte_eq (Nat.le_trans (by decide) hdrop)]
    simp only [readByte_drop]
  rw [hslice, PeerRecord.bytes, take_eq_sealRecord_iff hdrop (fits_cells peer), PeerRecord.cells]
  simp only [Layout.Reads, zeroOn_self, Cell.readsAs_bytes, Cell.readsAs_byte, Cell.length,
    Vector.length_toList, Nat.zero_add, true_and, zeroOn_two, ← readByte_drop, ← flags_eq_iff]
  rw [← hkey, ← PresentationRole.fromRaw_eq_some, ← slice_drop, ← read32_drop]
  unfold importRecord
  simp only [bind_eq_ok, reject_eq_ok, pure_eq_ok, elim_throw_eq_ok, exists_const, not_or, not_not]
  constructor
  · rintro ⟨hcrc, ⟨h34, h35⟩, hflags, ⟨hzero, hknown⟩, role, hrole, hscripted, rfl⟩
    exact ⟨⟨hcrc.symm, rfl, hrole, ⟨hflags, rfl⟩, h34, h35⟩, ⟨hzero, hscripted⟩, hknown⟩
  · rintro ⟨⟨hcrc, hpublicKey, hrole, ⟨hflags, hrevoked⟩, h34, h35⟩, ⟨hzero, hscripted⟩, hknown⟩
    rw [hpublicKey]
    refine ⟨hcrc.symm, ⟨h34, h35⟩, hflags, ⟨hzero, hknown⟩, peer.role, hrole, hscripted, ?_⟩
    rw [hrevoked]

/-- What is imported is behind what there is already. -/
theorem exists_of_importRecords {count : Nat} {imported : List PeerRecord}
    (h : importRecords input count peers = .ok imported) : ∃ rest, imported = peers ++ rest := by
  induction count generalizing peers with
  | zero =>
      cases h
      exact ⟨[], (List.append_nil _).symm⟩
  | succ count ih =>
      obtain ⟨peer, -, hrest⟩ := bind_eq_ok.mp h
      obtain ⟨rest, rfl⟩ := ih hrest
      exact ⟨peer :: rest, List.append_assoc ..⟩

theorem checkRecords_cons_eq_ok :
    checkRecords peers (peer :: rest) = .ok () ↔
      (Storable peer ∧ ¬peers.any (·.publicKey = peer.publicKey))
        ∧ checkRecords (peers ++ [peer]) rest = .ok () := by
  rw [checkRecords]
  simp only [bind_eq_ok, reject_eq_ok, exists_const, not_or]
  constructor
  · rintro ⟨hknown, ⟨hzero, hscripted⟩, hrest⟩
    exact ⟨⟨⟨hzero, hscripted⟩, hknown⟩, hrest⟩
  · rintro ⟨⟨⟨hzero, hscripted⟩, hknown⟩, hrest⟩
    exact ⟨hknown, ⟨hzero, hscripted⟩, hrest⟩

theorem importRecords_succ_eq_ok {count : Nat} :
    importRecords input (count + 1) peers = .ok (peers ++ peer :: rest) ↔
      importRecord input (16 + peers.length * 40) peers = .ok peer
        ∧ importRecords input count (peers ++ [peer]) = .ok (peers ++ [peer] ++ rest) := by
  rw [List.append_assoc, List.singleton_append]
  constructor
  · intro h
    obtain ⟨first, hfirst, hrest⟩ := bind_eq_ok.mp h
    obtain ⟨others, heq⟩ := exists_of_importRecords hrest
    rw [List.append_assoc, List.append_cancel_left_eq] at heq
    cases heq
    exact ⟨hfirst, hrest⟩
  · rintro ⟨hfirst, hrest⟩
    exact bind_eq_ok.mpr ⟨peer, hfirst, hrest⟩

/-- Records are imported exactly if they stand in the archive one after the other and the export
would take them. -/
theorem importRecords_eq_ok {count : Nat}
    (hlen : 16 + (peers.length + count) * 40 ≤ input.length) :
    importRecords input count peers = .ok (peers ++ rest) ↔
      rest.length = count ∧ checkRecords peers rest = .ok ()
        ∧ Layout.Reads (16 + (peers.length + count) * 40) input (16 + peers.length * 40)
          (Layout.table 40 recordCells (16 + peers.length * 40) rest) := by
  induction count generalizing peers rest with
  | zero =>
      rw [importRecords, pure_eq_ok, List.self_eq_append_right]
      constructor
      · rintro rfl
        exact ⟨rfl, rfl, zeroOn_self⟩
      · exact fun h ↦ List.length_eq_zero_iff.mp h.1
  | succ count ih =>
      cases rest with
      | nil =>
          refine iff_of_false (fun h ↦ ?_) (fun h ↦ nomatch h.1)
          obtain ⟨peer, -, hrest⟩ := bind_eq_ok.mp h
          obtain ⟨rest, heq⟩ := exists_of_importRecords hrest
          simp at heq
      | cons peer rest =>
          have hlength : (peers ++ [peer]).length = peers.length + 1 := by simp
          have hbase : 16 + (peers.length + 1) * 40 = 16 + peers.length * 40 + 40 := by omega
          have hstop : peers.length + 1 + count = peers.length + (count + 1) := by omega
          have hnext := @ih (peers ++ [peer]) rest (by rw [hlength]; omega)
          rw [hlength, hbase, hstop] at hnext
          rw [importRecords_succ_eq_ok, importRecord_eq_ok (by omega), hnext,
            checkRecords_cons_eq_ok, List.length_cons, Nat.add_right_cancel_iff]
          constructor
          · rintro ⟨⟨hbytes, hpeer⟩, hcount, hrest, hreads⟩
            refine ⟨hcount, ⟨hpeer, hrest⟩, ?_⟩
            rw [Layout.table, Layout.reads_append (fits_record _ peer)
              (Layout.fits_table fits_record (by omega))]
            refine ⟨?_, hreads⟩
            simpa [recordCells, length_bytes] using hbytes
          · rintro ⟨hcount, ⟨hpeer, hrest⟩, hreads⟩
            rw [Layout.table, Layout.reads_append (fits_record _ peer)
              (Layout.fits_table fits_record (by omega))] at hreads
            refine ⟨⟨?_, hpeer⟩, hcount, hrest, hreads.2⟩
            simpa [recordCells, length_bytes] using hreads.1

theorem eq_ofNat_iff {word : UInt16} {n : Nat} (h : n < 2 ^ 16) :
    word = UInt16.ofNat n ↔ word.toNat = n := by
  rw [← UInt16.toNat_inj, UInt16.toNat_ofNat', Nat.mod_eq_of_lt h]

/-- What the cells of the header say. -/
theorem reads_header_iff {count : Nat} (hcount : count ≤ maxPairedPeers) :
    Layout.Reads 16 input 0 (headerCells count) ↔
      slice input 0 4 = peerRegistryMagic
        ∧ (read16 input 4 = peerRegistryVersion
          ∧ (read16 input 6).toNat = peerRegistryHeaderLength
          ∧ (read16 input 10).toNat = peerRegistryRecordLength)
        ∧ (slice input 12 16).any (· != 0) = false
        ∧ (read16 input 8).toNat = count := by
  have hheader : read16 input 6 = UInt16.ofNat peerRegistryHeaderLength ↔
      (read16 input 6).toNat = peerRegistryHeaderLength := eq_ofNat_iff (by decide)
  have hrecord : read16 input 10 = UInt16.ofNat peerRegistryRecordLength ↔
      (read16 input 10).toNat = peerRegistryRecordLength := eq_ofNat_iff (by decide)
  have hlength : read16 input 8 = UInt16.ofNat count ↔ (read16 input 8).toNat = count :=
    eq_ofNat_iff (Nat.lt_of_le_of_lt hcount (by decide))
  simp only [headerCells, Layout.Reads, zeroOn_self, Cell.readsAs_bytes, Cell.readsAs_word16,
    Cell.length, Nat.zero_add, true_and, Nat.reduceAdd, hheader, hrecord, hlength,
    ← zeroOn_iff_any, show peerRegistryMagic.length = 4 from rfl]
  constructor
  · rintro ⟨hmagic, hversion, hheader, hcount, hrecord, hzero⟩
    exact ⟨hmagic, ⟨hversion, hheader, hrecord⟩, hzero, hcount⟩
  · rintro ⟨hmagic, ⟨hversion, hheader, hrecord⟩, hzero, hcount⟩
    exact ⟨hmagic, hversion, hheader, hcount, hrecord, hzero⟩

end Records

theorem exportBounded_eq_ok {r : PeerRegistry} {output : List UInt8} :
    r.exportBounded = .ok output ↔
      r.peers.length ≤ maxPairedPeers ∧ checkRecords [] r.peers = .ok () ∧ output = r.bytes := by
  unfold exportBounded
  simp only [bind_eq_ok, reject_eq_ok, pure_eq_ok, exists_const, Nat.not_lt]
  constructor
  · rintro ⟨hlimit, _, hcheck, houtput⟩
    exact ⟨hlimit, hcheck, houtput.symm⟩
  · rintro ⟨hlimit, hcheck, houtput⟩
    exact ⟨hlimit, (), hcheck, houtput.symm⟩

/-- The bytes of an archive, field by field. -/
theorem eq_bytes_iff {input : List UInt8} {r : PeerRegistry} :
    input = r.bytes ↔
      input.length = 16 + r.peers.length * 40 + 4
        ∧ crc32Ieee (slice input 0 (16 + r.peers.length * 40)) = read32 input (16 + r.peers.length * 40)
        ∧ Layout.Reads 16 input 0 (headerCells r.peers.length)
        ∧ Layout.Reads (16 + r.peers.length * 40) input 16 (Layout.table 40 recordCells 16 r.peers) := by
  rw [bytes, peerRegistryHeaderLength, peerRegistryRecordLength,
    eq_sealRecord_iff (fits_archive r.peers), cells, peerRegistryHeaderLength,
    peerRegistryRecordLength,
    Layout.reads_append (fits_header _) (Layout.fits_table fits_record (Nat.le_refl _))]

/-- Importing is the inverse of exporting. -/
theorem importBounded_eq_ok_iff {input : List UInt8} {r : PeerRegistry} :
    importBounded input = .ok r ↔ r.exportBounded = .ok input := by
  have hrecords {count : Nat} (hlen : input.length = 16 + count * 40 + 4) {peers : List PeerRecord} :
      importRecords input count [] = .ok peers ↔
        peers.length = count ∧ checkRecords [] peers = .ok ()
          ∧ Layout.Reads (16 + count * 40) input 16 (Layout.table 40 recordCells 16 peers) := by
    have h := @importRecords_eq_ok input [] peers count (by rw [List.length_nil]; omega)
    rwa [List.length_nil, Nat.zero_add, Nat.zero_mul, List.nil_append] at h
  rw [exportBounded_eq_ok]
  unfold importBounded
  simp only [bind_eq_ok, reject_eq_ok, pure_eq_ok, exists_const, not_or, not_not, Nat.not_lt,
    Bool.not_eq_true]
  constructor
  · rintro ⟨_, hmagic, hversion, hreserved, hcount, hlength, hcrc, peers, himport, rfl⟩
    obtain ⟨hpeers, hcheck, hreads⟩ := (hrecords hlength).mp himport
    have hlimit : peers.length ≤ maxPairedPeers := hpeers ▸ hcount
    refine ⟨hlimit, hcheck, eq_bytes_iff.mpr ?_⟩
    dsimp only
    rw [reads_header_iff hlimit, hpeers]
    exact ⟨hlength, hcrc.symm, ⟨hmagic, hversion, hreserved, rfl⟩, hreads⟩
  · rintro ⟨hlimit, hcheck, hbytes⟩
    obtain ⟨hlength, hcrc, hheader, hreads⟩ := eq_bytes_iff.mp hbytes
    obtain ⟨hmagic, hversion, hreserved, hcount⟩ := (reads_header_iff hlimit).mp hheader
    rw [hcount]
    refine ⟨?_, hmagic, hversion, hreserved, hlimit, hlength, hcrc.symm, r.peers, ?_, rfl⟩
    · rw [hlength, peerRegistryMaxLength, peerRegistryHeaderLength, peerRegistryRecordLength,
        peerRegistryTrailerLength]
      omega
    · exact (hrecords hlength).mpr ⟨rfl, hcheck, hreads⟩

/-! ## Registries that can be saved -/

/-- What decides whether a registry can be exported. -/
structure Saveable (r : PeerRegistry) : Prop where
  limit : r.peers.length ≤ maxPairedPeers
  apart : (r.peers.map PeerRecord.publicKey).Nodup
  storable : ∀ peer ∈ r.peers, Storable peer

/-- The registry is exported, and imported again as it was. -/
def RoundTrips (r : PeerRegistry) : Prop :=
  ∃ output, r.exportBounded = .ok output ∧ importBounded output = .ok r

theorem checkRecords_eq_ok {prior rest : List PeerRecord} :
    checkRecords prior rest = .ok () ↔
      (rest.map PeerRecord.publicKey).Nodup
        ∧ (∀ peer ∈ rest, peer.publicKey ∉ prior.map PeerRecord.publicKey)
        ∧ ∀ peer ∈ rest, Storable peer := by
  have hany {peers : List PeerRecord} {publicKey : PublicKey} :
      (¬peers.any (·.publicKey = publicKey)) ↔ publicKey ∉ peers.map PeerRecord.publicKey := by
    simp
  induction rest generalizing prior with
  | nil => exact iff_of_true rfl ⟨List.nodup_nil, nofun, nofun⟩
  | cons peer rest ih =>
      rw [checkRecords_cons_eq_ok, and_congr_right fun _ ↦ ih, hany, List.map_cons, List.nodup_cons, List.forall_mem_cons,
        List.forall_mem_cons, List.map_append, List.map_singleton]
      simp only [List.mem_append, List.mem_singleton, not_or, List.mem_map, not_exists, not_and]
      constructor
      · rintro ⟨⟨hpeer, hknown⟩, hnodup, hprior, hrest⟩
        exact ⟨⟨fun other hother ↦ (hprior other hother).2, hnodup⟩,
          ⟨hknown, fun other hother ↦ (hprior other hother).1⟩, hpeer, hrest⟩
      · rintro ⟨⟨hapart, hnodup⟩, ⟨hknown, hprior⟩, hpeer, hrest⟩
        exact ⟨⟨hpeer, hknown⟩, hnodup, fun other hother ↦ ⟨hprior other hother, hapart other hother⟩,
          hrest⟩

theorem roundTrips_iff {r : PeerRegistry} : r.RoundTrips ↔ r.Saveable := by
  constructor
  · rintro ⟨output, hexport, -⟩
    obtain ⟨hlimit, hcheck, -⟩ := exportBounded_eq_ok.mp hexport
    obtain ⟨hapart, -, hstorable⟩ := checkRecords_eq_ok.mp hcheck
    exact ⟨hlimit, hapart, hstorable⟩
  · intro h
    have hexport : r.exportBounded = .ok r.bytes := exportBounded_eq_ok.mpr
      ⟨h.limit, checkRecords_eq_ok.mpr ⟨h.apart, fun _ _ ↦ List.not_mem_nil, h.storable⟩, rfl⟩
    exact ⟨r.bytes, hexport, importBounded_eq_ok_iff.mpr hexport⟩

/-- What is imported can be saved. -/
theorem saveable_of_import {input : List UInt8} {r : PeerRegistry} (h : importBounded input = .ok r) :
    r.Saveable :=
  roundTrips_iff.mp ⟨input, importBounded_eq_ok_iff.mp h, h⟩

/-! ## Runs -/

/-- A call that may change the registry. -/
inductive Call where
  | confirmPairing (pairing : UnconfirmedNoiseChannel) (code : ComparisonCode)
      (role : PresentationRole)
  | revoke (publicKey : PublicKey)
  | importBounded (input : List UInt8)
deriving DecidableEq

/-- The registry behind a call. -/
def step (r : PeerRegistry) : Call → PeerRegistry
  | .confirmPairing pairing code role => (r.confirmPairing pairing code role).2
  | .revoke publicKey => (r.revoke publicKey).2
  | .importBounded input =>
      match PeerRegistry.importBounded input with
      | .error _ => r
      | .ok imported => imported

/-- The call admits a peer that no export takes. -/
def AdmitsUnstorable (r : PeerRegistry) : Call → Prop
  | .confirmPairing pairing code role =>
      pairing.comparisonCode = code ∧ r.record pairing.remoteStatic = none
        ∧ r.peers.length < maxPairedPeers ∧ ¬Storable ⟨pairing.remoteStatic, role, false⟩
  | _ => False

section Steps

variable {r : PeerRegistry}

/-- A pairing changes the registry only by a new peer. -/
theorem confirmPairing_cases (pairing : UnconfirmedNoiseChannel) (code : ComparisonCode)
    (role : PresentationRole) :
    (r.confirmPairing pairing code role).2 = r
        ∧ ¬(pairing.comparisonCode = code ∧ r.record pairing.remoteStatic = none
          ∧ r.peers.length < maxPairedPeers)
      ∨ (r.confirmPairing pairing code role).2 =
          ⟨r.peers ++ [⟨pairing.remoteStatic, role, false⟩]⟩
        ∧ pairing.comparisonCode = code ∧ r.record pairing.remoteStatic = none
        ∧ r.peers.length < maxPairedPeers := by
  unfold confirmPairing record
  by_cases hcode : pairing.comparisonCode = code
  · rw [if_neg (not_not.mpr hcode)]
    cases r.peers.find? (·.publicKey = pairing.remoteStatic) with
    | some existing =>
        refine .inl ⟨?_, fun h ↦ nomatch h.2.1⟩
        dsimp only
        split_ifs <;> rfl
    | none =>
        dsimp only
        split_ifs with hlimit
        · exact .inl ⟨rfl, fun h ↦ Nat.not_le.mpr h.2.2 hlimit⟩
        · exact .inr ⟨rfl, hcode, rfl, Nat.not_le.mp hlimit⟩
  · rw [if_pos hcode]
    exact .inl ⟨rfl, fun h ↦ hcode h.1⟩

theorem record_eq_none {publicKey : PublicKey} :
    r.record publicKey = none ↔ publicKey ∉ r.peers.map PeerRecord.publicKey := by
  simp [record]

theorem saveable_append {peer : PeerRecord} (h : r.Saveable) (hlimit : r.peers.length < maxPairedPeers)
    (hnew : r.record peer.publicKey = none) :
    (PeerRegistry.mk (r.peers ++ [peer])).Saveable ↔ Storable peer := by
  constructor
  · exact fun h ↦ h.storable peer (List.mem_append_right _ (List.mem_singleton_self _))
  · intro hpeer
    refine ⟨?_, ?_, ?_⟩
    · rw [List.length_append]
      exact hlimit
    · rw [List.map_append]
      refine List.nodup_append.mpr ⟨h.apart, List.pairwise_singleton _ _, ?_⟩
      intro publicKey hmem other hother
      rw [List.mem_singleton.mp hother]
      rintro rfl
      exact record_eq_none.mp hnew hmem
    · intro other hother
      rcases List.mem_append.mp hother with hother | hother
      · exact h.storable other hother
      · obtain rfl := List.mem_singleton.mp hother
        exact hpeer

/-- A revocation leaves the keys and the roles. -/
theorem map_revokeIn {publicKey : PublicKey} {peers peers' : List PeerRecord}
    (h : revokeIn publicKey peers = some peers') :
    peers'.map (fun peer ↦ (peer.publicKey, peer.role)) =
      peers.map (fun peer ↦ (peer.publicKey, peer.role)) := by
  induction peers generalizing peers' with
  | nil => cases h
  | cons peer rest ih =>
      unfold revokeIn at h
      split at h
      · cases h
        rfl
      · obtain ⟨rest', hrest, rfl⟩ := Option.map_eq_some_iff.mp h
        rw [List.map_cons, List.map_cons, ih hrest]

theorem saveable_congr {peers peers' : List PeerRecord}
    (heq : peers'.map (fun peer ↦ (peer.publicKey, peer.role)) =
      peers.map (fun peer ↦ (peer.publicKey, peer.role)))
    (h : (PeerRegistry.mk peers).Saveable) : (PeerRegistry.mk peers').Saveable := by
  have hkeys : peers'.map PeerRecord.publicKey = peers.map PeerRecord.publicKey := by
    have hfirst := congrArg (List.map Prod.fst) heq
    rwa [List.map_map, List.map_map] at hfirst
  refine ⟨?_, ?_, fun peer hpeer ↦ ?_⟩
  · have hlength := congrArg List.length heq
    rw [List.length_map, List.length_map] at hlength
    show peers'.length ≤ _
    rw [hlength]
    exact h.limit
  · show (peers'.map _).Nodup
    rw [hkeys]
    exact h.apart
  · have hmem : (peer.publicKey, peer.role) ∈ peers.map (fun peer ↦ (peer.publicKey, peer.role)) := by
      rw [← heq]
      exact List.mem_map_of_mem hpeer
    obtain ⟨other, hother, heq⟩ := List.mem_map.mp hmem
    obtain ⟨hkey, hrole⟩ := Prod.mk.inj heq
    have hstorable := h.storable other hother
    exact ⟨hkey ▸ hstorable.key, hrole ▸ hstorable.role⟩

/-- From a registry that can be saved, a step leads to one that cannot if and only if it admits a
peer that no export takes. -/
theorem saveable_step_iff (h : r.Saveable) (call : Call) :
    (r.step call).Saveable ↔ ¬r.AdmitsUnstorable call := by
  cases call with
  | confirmPairing pairing code role =>
      show (r.confirmPairing pairing code role).2.Saveable ↔ _
      rcases confirmPairing_cases pairing code role with ⟨heq, hnot⟩ | ⟨heq, hcode, hnew, hlimit⟩
      · rw [heq]
        exact iff_of_true h fun ⟨hcode, hnew, hlimit, _⟩ ↦ hnot ⟨hcode, hnew, hlimit⟩
      · rw [heq, saveable_append h hlimit hnew, AdmitsUnstorable, and_iff_right hcode,
          and_iff_right hnew, and_iff_right hlimit, not_not]
  | revoke publicKey =>
      refine iff_of_true ?_ id
      show (r.revoke publicKey).2.Saveable
      unfold revoke
      cases hpeers : revokeIn publicKey r.peers with
      | none => exact h
      | some peers => exact saveable_congr (map_revokeIn hpeers) h
  | importBounded input =>
      refine iff_of_true ?_ id
      unfold step
      dsimp only
      cases himport : importBounded input with
      | error error => exact h
      | ok imported => exact saveable_of_import himport

end Steps

/-- **The archive.**  All registries that a run leads to can be exported and imported again if and
only if no pairing admits a peer with a key of zeros or with the role of a scripted operator.  And an
archive that is imported is the one that its registry is exported as. -/
theorem registry_saved_iff (calls : List Call) :
    ((∀ earlier later, calls = earlier ++ later → (run step ⟨[]⟩ earlier).RoundTrips) ↔
        Meets step (fun r call ↦ ¬r.AdmitsUnstorable call) ⟨[]⟩ calls)
      ∧ ∀ input r, importBounded input = .ok r → r.exportBounded = .ok input := by
  have hempty : (PeerRegistry.mk []).Saveable := ⟨Nat.zero_le _, List.nodup_nil, nofun⟩
  refine ⟨?_, fun input r ↦ importBounded_eq_ok_iff.mp⟩
  simp only [roundTrips_iff]
  rw [forall_reached_iff, and_iff_right hempty]
  exact meets_iff_of_invariant Saveable (fun r call h ↦ (saveable_step_iff h call).mpr)
    (fun r call h ↦ saveable_step_iff h call) hempty calls

/-- A peer with a key of zeros is paired, and the registry cannot be exported any more. -/
theorem zero_key_unsaveable :
    ∃ calls, ∀ output, (run step ⟨[]⟩ calls).exportBounded ≠ .ok output := by
  refine ⟨[.confirmPairing ⟨Vector.replicate 32 0, ⟨0, by decide⟩⟩ ⟨0, by decide⟩ .observer], ?_⟩
  intro output h
  have herror : (run step ⟨[]⟩ [.confirmPairing ⟨Vector.replicate 32 0, ⟨0, by decide⟩⟩
      ⟨0, by decide⟩ .observer]).exportBounded = .error .registryKey := by
    rfl
  rw [herror] at h
  cases h

end PeerRegistry

end Ksa64.Broker
