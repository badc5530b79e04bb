import Ksa64.Library.Checked
import Ksa64.Interface.Codec

/-!
# KPX11 object segments

An object of at most 4096 bytes (a manifest, a plan, a procedure pack or a
configuration) travels in segments of 512 bytes that carry up to 480 bytes of it
each.  The parser accepts a segment only if the writer would write it, and the
writer checks that the segment is the one of its index in the canonical cut of the
object; `CanonicalSegment` is that cut, and `parseKpx11_canonical` says that nothing
else comes out of the parser.
-/

namespace Ksa64.Interface

open Ksa64.Library

def kpx11Length : Nat := 512
def kpx11PayloadMax : Nat := 480
def kpx11Magic : List UInt8 := [0x4b, 0x50, 0x58, 0x31]

inductive PackageObjectType where
  | packageManifest
  | missionPlan
  | procedurePack
  | packageConfiguration
deriving DecidableEq, Repr

/-- The wire value of an object type. -/
def PackageObjectType.code : PackageObjectType → UInt8
  | .packageManifest => 1
  | .missionPlan => 2
  | .procedurePack => 3
  | .packageConfiguration => 4

def PackageObjectType.parse (value : UInt8) : Except CodecError PackageObjectType :=
  match value with
  | 1 => pure .packageManifest
  | 2 => pure .missionPlan
  | 3 => pure .procedurePack
  | 4 => pure .packageConfiguration
  | _ => throw .enum

structure PackageObjectSegment where
  objectType : PackageObjectType
  objectIdentity : UInt32
  totalLength : UInt32
  totalCrc32 : UInt32
  segmentIndex : UInt16
  segmentCount : UInt16
  logicalOffset : UInt16
  payload : List UInt8
deriving DecidableEq

/-- What the writer checks.  The products and differences are those of the source's
32-bit words; none of them wraps. -/
def checkKpx11 (value : PackageObjectSegment) : Except CodecError Unit :=
  let expectedCount := (value.totalLength.toNat + (kpx11PayloadMax - 1)) / kpx11PayloadMax
  let expectedOffset := value.segmentIndex.toNat * kpx11PayloadMax
  let remaining := value.totalLength.toNat - expectedOffset
  let expectedPayload := min remaining kpx11PayloadMax
  reject
    (value.objectIdentity = 0
      ∨ value.totalLength = 0
      ∨ 4096 < value.totalLength.toNat
      ∨ value.totalCrc32 = 0
      ∨ value.segmentCount = 0
      ∨ value.segmentCount.toNat ≠ expectedCount
      ∨ value.segmentCount ≤ value.segmentIndex
      ∨ value.logicalOffset.toNat ≠ expectedOffset
      ∨ value.payload.length ≠ expectedPayload) .sequence

def writeKpx11 (value : PackageObjectSegment) : Except CodecError (List UInt8) := do
  checkKpx11 value
  let output := List.replicate kpx11Length 0
  let output := splice output 0 kpx11Magic
  let output := splice output 4 [11]
  let output := splice output 5 [value.objectType.code]
  let output := splice output 6 (le16 28)
  let output := splice output 8 (le32 value.objectIdentity)
  let output := splice output 12 (le32 value.totalLength)
  let output := splice output 16 (le32 value.totalCrc32)
  let output := splice output 20 (le16 value.segmentIndex)
  let output := splice output 22 (le16 value.segmentCount)
  let output := splice output 24 (le16 value.logicalOffset)
  let output := splice output 26 (le16 (UInt16.ofNat value.payload.length))
  let output := splice output 28 value.payload
  pure (splice output 508 (le32 (crc32Ieee (output.take 508))))

def parseKpx11 (input : List UInt8) : Except CodecError PackageObjectSegment := do
  reject (input.length ≠ kpx11Length) .length
  reject (slice input 0 4 ≠ kpx11Magic ∨ readByte input 4 ≠ 11 ∨ read16 input 6 ≠ 28) .enum
  reject (crc32Ieee (slice input 0 508) ≠ read32 input 508) .checksum
  let payloadLength := (read16 input 26).toNat
  reject
    (kpx11PayloadMax < payloadLength
      ∨ (slice input (28 + payloadLength) 508).any (· != 0)) .reserved
  let objectType ← PackageObjectType.parse (readByte input 5)
  let value : PackageObjectSegment := {
    objectType := objectType
    objectIdentity := read32 input 8
    totalLength := read32 input 12
    totalCrc32 := read32 input 16
    segmentIndex := read16 input 20
    segmentCount := read16 input 22
    logicalOffset := read16 input 24
    payload := slice input 28 (28 + payloadLength) }
  let _ ← writeKpx11 value
  pure value

/-- The segment is the one of its index in the cut of an object into pieces of 480
bytes, the last of them shorter. -/
structure CanonicalSegment (value : PackageObjectSegment) : Prop where
  totalLength_pos : 0 < value.totalLength.toNat
  totalLength_le : value.totalLength.toNat ≤ 4096
  segmentCount : value.segmentCount.toNat =
    (value.totalLength.toNat + (kpx11PayloadMax - 1)) / kpx11PayloadMax
  segmentIndex_lt : value.segmentIndex.toNat < value.segmentCount.toNat
  logicalOffset : value.logicalOffset.toNat = value.segmentIndex.toNat * kpx11PayloadMax
  payload_length : value.payload.length =
    min (value.totalLength.toNat - value.segmentIndex.toNat * kpx11PayloadMax) kpx11PayloadMax

/-- What the writer's check establishes. -/
theorem canonical_of_checkKpx11 {value : PackageObjectSegment}
    (h : checkKpx11 value = .ok ()) : CanonicalSegment value := by
  have hc := reject_eq_ok.mp h
  simp only [not_or, not_not, ← UInt32.toNat_inj, UInt16.not_le, UInt16.lt_iff_toNat_lt] at hc
  obtain ⟨-, hpos, hle, -, -, hcount, hindex, hoffset, hpayload⟩ := hc
  exact {
    totalLength_pos := Nat.pos_of_ne_zero hpos
    totalLength_le := Nat.not_lt.mp hle
    segmentCount := hcount
    segmentIndex_lt := hindex
    logicalOffset := hoffset
    payload_length := hpayload }

/-- The parser accepts canonical segments only. -/
theorem parseKpx11_canonical {input : List UInt8} {value : PackageObjectSegment}
    (h : parseKpx11 input = .ok value) : CanonicalSegment value := by
  simp only [parseKpx11, bind_eq_ok] at h
  obtain ⟨_, -, _, -, _, -, _, -, objectType, -, output, hwrite, hvalue⟩ := h
  obtain ⟨_, hcheck, -⟩ := bind_eq_ok.mp hwrite
  exact canonical_of_checkKpx11 (pure_eq_ok.mp hvalue ▸ hcheck)

end Ksa64.Interface
