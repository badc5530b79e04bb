import Ksa64.Library.Run
import Ksa64.Library.Words
import Ksa64.Flight.Reference
import Ksa64.Interface.ObjectSegment

/-!
# The bounded object receiver

The receiver assembles an object from its segments in a buffer that is never cleared:
a first segment starts an object, a later one must be the next of the same object, and
anything else resets the receiver.  A mission plan is activated from a completed object
only.

The segments are those the parser accepts (`AcceptedSegment`).  Over any sequence of
them the receiver is idle or `Assembling` the last segments it was fed, and what it
holds of the current object is exactly their payloads in order; `CompleteObject` is
what that says once the object is complete.
-/

namespace Ksa64.Flight

open Ksa64.Library Ksa64.Interface

inductive ObjectReceiveError where
  | sequence
  | identity
  | capacity
  | checksum
  | contract
deriving DecidableEq, Repr

inductive ObjectReceiveState where
  | receiving
  | complete
deriving DecidableEq, Repr

def receiverCapacity : Nat := 4096

/-- The receiver.  The buffer has its fixed size and the object fits. -/
structure BoundedObjectReceiver where
  bytes : List UInt8
  objectType : Option PackageObjectType
  objectIdentity : UInt32
  totalLength : UInt16
  totalCrc32 : UInt32
  segmentCount : UInt16
  nextSegment : UInt16
  complete : Bool
  length_bytes : bytes.length = receiverCapacity
  totalLength_le : totalLength.toNat ≤ receiverCapacity
deriving DecidableEq

namespace BoundedObjectReceiver

def new : BoundedObjectReceiver where
  bytes := List.replicate receiverCapacity 0
  objectType := none
  objectIdentity := 0
  totalLength := 0
  totalCrc32 := 0
  segmentCount := 0
  nextSegment := 0
  complete := false
  length_bytes := List.length_replicate
  totalLength_le := Nat.zero_le _

/-- Forget the object; the buffer keeps its bytes. -/
def reset (r : BoundedObjectReceiver) : BoundedObjectReceiver where
  bytes := r.bytes
  objectType := none
  objectIdentity := 0
  totalLength := 0
  totalCrc32 := 0
  segmentCount := 0
  nextSegment := 0
  complete := false
  length_bytes := r.length_bytes
  totalLength_le := Nat.zero_le _

/-- A first segment resets the receiver and sets what it expects. -/
def beginObject (r : BoundedObjectReceiver) (segment : PackageObjectSegment)
    (h : segment.totalLength.toNat ≤ receiverCapacity) : BoundedObjectReceiver where
  bytes := r.bytes
  objectType := some segment.objectType
  objectIdentity := segment.objectIdentity
  totalLength := segment.totalLength.toUInt16
  totalCrc32 := segment.totalCrc32
  segmentCount := segment.segmentCount
  nextSegment := 0
  complete := false
  length_bytes := r.length_bytes
  totalLength_le := by
    rw [UInt32.toNat_toUInt16]
    exact Nat.le_trans (Nat.mod_le _ _) h

/-- Copy the payload of the next segment into the buffer. -/
def store (r : BoundedObjectReceiver) (segment : PackageObjectSegment)
    (h : segment.logicalOffset.toNat + segment.payload.length ≤ r.totalLength.toNat) :
    BoundedObjectReceiver :=
  { r with
    bytes := splice r.bytes segment.logicalOffset.toNat segment.payload
    nextSegment := addSat16 r.nextSegment 1
    length_bytes := by
      rw [length_splice (by rw [r.length_bytes]; exact Nat.le_trans h r.totalLength_le), r.length_bytes] }

/-- The segment is not of the object being received. -/
def otherObject (r : BoundedObjectReceiver) (segment : PackageObjectSegment) : Bool :=
  r.complete
    || r.objectType != some segment.objectType
    || r.objectIdentity != segment.objectIdentity
    || r.totalLength.toUInt32 != segment.totalLength
    || r.totalCrc32 != segment.totalCrc32
    || r.segmentCount != segment.segmentCount

/-- Receive a segment of the object being received. -/
def receiveNext (r : BoundedObjectReceiver) (segment : PackageObjectSegment) :
    Except ObjectReceiveError ObjectReceiveState × BoundedObjectReceiver :=
  if r.otherObject segment then (.error .identity, r.reset)
  else if h : segment.segmentIndex ≠ r.nextSegment
      ∨ r.totalLength.toNat < segment.logicalOffset.toNat + segment.payload.length then
    (.error .sequence, r.reset)
  else
    let r := r.store segment (Nat.not_lt.mp (not_or.mp h).2)
    if r.nextSegment ≠ r.segmentCount then (.ok .receiving, r)
    else if crc32Ieee (r.bytes.take r.totalLength.toNat) ≠ r.totalCrc32 then
      (.error .checksum, r.reset)
    else (.ok .complete, { r with complete := true })

def receive (r : BoundedObjectReceiver) (segment : PackageObjectSegment) :
    Except ObjectReceiveError ObjectReceiveState × BoundedObjectReceiver :=
  if h : segment.totalLength = 0 ∨ receiverCapacity < segment.totalLength.toNat then
    (.error .capacity, r)
  else if segment.segmentIndex = 0 then
    (r.beginObject segment (Nat.not_lt.mp (not_or.mp h).2)).receiveNext segment
  else r.receiveNext segment

/-- What makes a parsed plan unfit for the package. -/
def planUnfit (plan : MissionPlan) (manifest : FlightSoftwarePackageManifest) : Bool :=
  planForeign plan manifest
    || manifest.maximumPlanEvents < plan.eventCount
    || manifest.maximumBranches < plan.branchCount
    || manifest.maximumDecisions < plan.decisionCount

def activateMissionPlan (r : BoundedObjectReceiver) (manifest : FlightSoftwarePackageManifest) :
    Except ObjectReceiveError MissionPlan := do
  reject
    (!r.complete ∨ r.objectType ≠ some .missionPlan ∨ r.totalLength.toNat ≠ kmp11Length) .sequence
  let plan ← (parseKmp11 (r.bytes.take kmp11Length)).mapError fun _ ↦ .contract
  reject (planUnfit plan manifest) .identity
  pure plan

end BoundedObjectReceiver

/-! ## Objects -/

/-- A segment that comes out of the parser. -/
def AcceptedSegment : Type :=
  { segment : PackageObjectSegment // ∃ input, parseKpx11 input = .ok segment }

namespace AcceptedSegment

/-- An accepted segment is canonical. -/
theorem canonical (s : AcceptedSegment) : CanonicalSegment s.val :=
  let ⟨_, h⟩ := s.property
  parseKpx11_canonical h

end AcceptedSegment

/-- The bytes a list of segments carries. -/
def payloads (segments : List AcceptedSegment) : List UInt8 :=
  (segments.map (·.val.payload)).flatten

/-- The receiver after a segment. -/
def BoundedObjectReceiver.step (r : BoundedObjectReceiver) (s : AcceptedSegment) :
    BoundedObjectReceiver :=
  (r.receive s.val).2

/-- The segments belong to the object the receiver expects, and each of them starts
where the bytes before it end. -/
structure InOrder (r : BoundedObjectReceiver) (segments : List AcceptedSegment) : Prop where
  sameObject : ∀ s ∈ segments, r.objectType = some s.val.objectType
    ∧ r.objectIdentity = s.val.objectIdentity ∧ r.totalLength.toUInt32 = s.val.totalLength
    ∧ r.totalCrc32 = s.val.totalCrc32 ∧ r.segmentCount = s.val.segmentCount
  contiguous : ∀ before s after, segments = before ++ s :: after →
    s.val.segmentIndex.toNat = before.length
      ∧ s.val.logicalOffset.toNat = (payloads before).length

/-- The receiver is assembling an object and has just been fed these segments of it. -/
structure Assembling (r : BoundedObjectReceiver) (current : List AcceptedSegment) : Prop where
  inOrder : InOrder r current
  objectType : r.objectType ≠ none
  nextSegment : r.nextSegment.toNat = current.length
  segmentCount : r.segmentCount.toNat =
    (r.totalLength.toNat + (kpx11PayloadMax - 1)) / kpx11PayloadMax
  length : (payloads current).length = min (kpx11PayloadMax * current.length) r.totalLength.toNat
  bytes : r.bytes.take (payloads current).length = payloads current
  complete : r.complete = true → current.length = r.segmentCount.toNat
    ∧ crc32Ieee (r.bytes.take r.totalLength.toNat) = r.totalCrc32

/-- The receiver holds a complete object, made of the last segments it was fed: they
are all its segments in order, without gap or overlap, their bytes are the first
`totalLength` bytes of the buffer, and these have the declared checksum. -/
structure CompleteObject (segments : List AcceptedSegment) (r : BoundedObjectReceiver) : Prop where
  complete : r.complete = true
  assembled : ∃ earlier current, segments = earlier ++ current ∧ InOrder r current
    ∧ current.length = r.segmentCount.toNat
    ∧ (payloads current).length = r.totalLength.toNat
    ∧ r.bytes.take r.totalLength.toNat = payloads current
  checksum : crc32Ieee (r.bytes.take r.totalLength.toNat) = r.totalCrc32

/-- What the segments so far say about the receiver. -/
def ReceiverHistory (segments : List AcceptedSegment) (r : BoundedObjectReceiver) : Prop :=
  (r.objectType = none ∧ r.complete = false)
    ∨ ∃ earlier current, segments = earlier ++ current ∧ Assembling r current

/-! ## Assembly -/

variable {r : BoundedObjectReceiver} {s : AcceptedSegment} {current : List AcceptedSegment}

@[simp] theorem payloads_append (xs ys : List AcceptedSegment) :
    payloads (xs ++ ys) = payloads xs ++ payloads ys := by
  simp [payloads]

@[simp] theorem payloads_singleton (s : AcceptedSegment) : payloads [s] = s.val.payload := by
  simp [payloads]

/-- A word of at most 4096 survives the cut to 16 bits. -/
theorem toNat_toUInt16_of_le {n : UInt32} (h : n.toNat ≤ receiverCapacity) :
    n.toUInt16.toNat = n.toNat := by
  rw [UInt32.toNat_toUInt16]
  exact Nat.mod_eq_of_lt (Nat.lt_of_le_of_lt h (by decide))

/-- An accepted segment fits the receiver, so it is never refused for its size. -/
theorem capacity_of_accepted (s : AcceptedSegment) :
    ¬(s.val.totalLength = 0 ∨ receiverCapacity < s.val.totalLength.toNat) := by
  have hpos := s.canonical.totalLength_pos
  have hle := s.canonical.totalLength_le
  rintro (h | h)
  · rw [h] at hpos
    exact absurd hpos (by decide)
  · exact absurd h (Nat.not_lt.mpr hle)

/-- A first segment puts the receiver in the state of an object without segments. -/
theorem assembling_beginObject (s : AcceptedSegment)
    (h : s.val.totalLength.toNat ≤ receiverCapacity) :
    Assembling (r.beginObject s.val h) [] where
  inOrder := ⟨nofun, fun before _ after h ↦ by simp at h⟩
  objectType := nofun
  nextSegment := rfl
  segmentCount := by
    change s.val.segmentCount.toNat = (s.val.totalLength.toUInt16.toNat + _) / _
    rw [toNat_toUInt16_of_le h, s.canonical.segmentCount]
  length := by simp [payloads]
  bytes := by simp [payloads]
  complete := nofun

/-- What it takes for a segment to be of the object being received. -/
theorem otherObject_eq_false (h : r.otherObject s.val = false) :
    r.complete = false ∧ r.objectType = some s.val.objectType
      ∧ r.objectIdentity = s.val.objectIdentity ∧ r.totalLength.toUInt32 = s.val.totalLength
      ∧ r.totalCrc32 = s.val.totalCrc32 ∧ r.segmentCount = s.val.segmentCount := by
  simpa [BoundedObjectReceiver.otherObject, and_assoc] using h

/-- The offset of the next segment is the number of bytes received so far. -/
theorem offset_of_next (ha : Assembling r current) (hother : r.otherObject s.val = false)
    (hindex : s.val.segmentIndex = r.nextSegment) :
    s.val.logicalOffset.toNat = (payloads current).length
      ∧ (payloads (current ++ [s])).length =
        min (kpx11PayloadMax * (current ++ [s]).length) r.totalLength.toNat := by
  obtain ⟨-, -, -, hlength, -, -⟩ := otherObject_eq_false hother
  have htotal : s.val.totalLength.toNat = r.totalLength.toNat := by
    rw [← hlength, UInt16.toNat_toUInt32]
  have hnext : s.val.segmentIndex.toNat = current.length := by rw [hindex, ha.nextSegment]
  have hlt := s.canonical.segmentIndex_lt
  have hcount := s.canonical.segmentCount
  have hoffset := s.canonical.logicalOffset
  have hpayload := s.canonical.payload_length
  have hreceived := ha.length
  rw [htotal] at hcount hpayload
  simp only [payloads_append, payloads_singleton, List.length_append, List.length_singleton]
  simp only [kpx11PayloadMax] at *
  omega

/-- The segments stay in order when the next one is stored. -/
theorem inOrder_store (ha : Assembling r current) (hother : r.otherObject s.val = false)
    (hindex : s.val.segmentIndex = r.nextSegment)
    (hfit : s.val.logicalOffset.toNat + s.val.payload.length ≤ r.totalLength.toNat) :
    InOrder (r.store s.val hfit) (current ++ [s]) := by
  constructor
  · intro t ht
    rcases List.mem_append.mp ht with ht | ht
    · exact ha.inOrder.sameObject t ht
    · rw [List.mem_singleton.mp ht]
      exact (otherObject_eq_false hother).2
  · intro before t after hsplit
    rcases List.eq_nil_or_concat after with rfl | ⟨init, last, rfl⟩
    · obtain ⟨rfl, hst⟩ := List.append_inj' hsplit rfl
      obtain rfl := List.cons.inj hst |>.1
      exact ⟨by rw [hindex, ha.nextSegment], (offset_of_next ha hother hindex).1⟩
    · rw [List.concat_eq_append, ← List.cons_append, ← List.append_assoc] at hsplit
      exact ha.inOrder.contiguous before t init (List.append_inj' hsplit rfl).1

/-- Storing the next segment of the object. -/
theorem assembling_store (ha : Assembling r current) (hother : r.otherObject s.val = false)
    (hindex : s.val.segmentIndex = r.nextSegment)
    (hfit : s.val.logicalOffset.toNat + s.val.payload.length ≤ r.totalLength.toNat) :
    Assembling (r.store s.val hfit) (current ++ [s])
      ∧ (current ++ [s]).length ≤ r.segmentCount.toNat := by
  obtain ⟨hcomplete, -, -, -, -, hcount⟩ := otherObject_eq_false hother
  obtain ⟨hoffset, hreceived⟩ := offset_of_next ha hother hindex
  have hlt := s.canonical.segmentIndex_lt
  rw [hindex, ← hcount] at hlt
  have hbytes : (payloads current).length ≤ r.bytes.length := by
    rw [r.length_bytes, ← hoffset]
    exact Nat.le_trans (Nat.le_of_add_right_le hfit) r.totalLength_le
  refine ⟨?_, by rw [List.length_append, List.length_singleton, ← ha.nextSegment]; exact hlt⟩
  exact {
    inOrder := inOrder_store ha hother hindex hfit
    objectType := ha.objectType
    nextSegment := by
      rw [List.length_append, List.length_singleton, ← ha.nextSegment]
      exact toNat_addSat16_one hlt
    segmentCount := ha.segmentCount
    length := hreceived
    bytes := by
      rw [payloads_append, payloads_singleton, List.length_append]
      change (splice r.bytes s.val.logicalOffset.toNat s.val.payload).take _ = _
      rw [hoffset, take_splice hbytes, ha.bytes]
    complete := fun h ↦ absurd (hcomplete.symm.trans h) nofun }

/-- Marking the object complete once all its segments are in and its checksum fits. -/
theorem Assembling.completed (ha : Assembling r current)
    (hcount : current.length = r.segmentCount.toNat)
    (hcrc : crc32Ieee (r.bytes.take r.totalLength.toNat) = r.totalCrc32) :
    Assembling { r with complete := true } current where
  inOrder := ⟨ha.inOrder.sameObject, ha.inOrder.contiguous⟩
  objectType := ha.objectType
  nextSegment := ha.nextSegment
  segmentCount := ha.segmentCount
  length := ha.length
  bytes := ha.bytes
  complete := fun _ ↦ ⟨hcount, hcrc⟩

/-- What the receiver answers and becomes when it is fed a segment while it assembles
an object: it completes the object, or it goes on, or it rejects the segment and is
idle. -/
inductive ReceiveOutcome (current : List AcceptedSegment) (s : AcceptedSegment)
    (result : Except ObjectReceiveError ObjectReceiveState × BoundedObjectReceiver) : Prop where
  | completed (hanswer : result.1 = .ok .complete) (hcomplete : result.2.complete = true)
      (hassembling : Assembling result.2 (current ++ [s]))
  | continued (hanswer : result.1 = .ok .receiving) (hcomplete : result.2.complete = false)
      (hassembling : Assembling result.2 (current ++ [s]))
  | rejected (error : ObjectReceiveError) (hanswer : result.1 = .error error)
      (htype : result.2.objectType = none) (hcomplete : result.2.complete = false)

theorem receiveNext_outcome (ha : Assembling r current) (s : AcceptedSegment) :
    ReceiveOutcome current s (r.receiveNext s.val) := by
  unfold BoundedObjectReceiver.receiveNext
  split
  · exact .rejected .identity rfl rfl rfl
  · rename_i hother
    have hother : r.otherObject s.val = false := Bool.eq_false_of_not_eq_true hother
    split
    · exact .rejected .sequence rfl rfl rfl
    · rename_i hseq
      obtain ⟨hindex, hfit⟩ := not_or.mp hseq
      obtain ⟨hassembling, hle⟩ :=
        assembling_store ha hother (not_not.mp hindex) (Nat.not_lt.mp hfit)
      have hcomplete := (otherObject_eq_false hother).1
      dsimp only
      split
      · exact .continued rfl hcomplete hassembling
      · rename_i hlast
        split
        · exact .rejected .checksum rfl rfl rfl
        · rename_i hcrc
          have hcount := hassembling.nextSegment
          rw [not_not.mp hlast] at hcount
          exact .completed rfl rfl (hassembling.completed hcount.symm (not_not.mp hcrc))

/-- The receiver's answer over any history: it assembles the object of some last
segments, the one just fed among them, or it rejects the segment and is idle. -/
theorem receive_outcome {segments : List AcceptedSegment} (h : ReceiverHistory segments r)
    (s : AcceptedSegment) :
    ∃ earlier current, segments = earlier ++ current ∧ ReceiveOutcome current s (r.receive s.val) := by
  unfold BoundedObjectReceiver.receive
  rw [dif_neg (capacity_of_accepted s)]
  split
  · exact ⟨segments, [], by simp, receiveNext_outcome (assembling_beginObject s _) s⟩
  · rcases h with ⟨hidle, -⟩ | ⟨earlier, current, hsegments, ha⟩
    · have hother : r.otherObject s.val = true := by
        simp [BoundedObjectReceiver.otherObject, hidle]
      unfold BoundedObjectReceiver.receiveNext
      rw [if_pos hother]
      exact ⟨segments, [], by simp, .rejected .identity rfl rfl rfl⟩
    · exact ⟨earlier, current, hsegments, receiveNext_outcome ha s⟩

/-- Every segment extends the history. -/
theorem receiverHistory_concat {segments : List AcceptedSegment} (h : ReceiverHistory segments r)
    (s : AcceptedSegment) : ReceiverHistory (segments ++ [s]) (r.step s) := by
  obtain ⟨earlier, current, rfl, houtcome⟩ := receive_outcome h s
  cases houtcome with
  | completed _ _ ha | continued _ _ ha =>
      exact .inr ⟨earlier, current ++ [s], List.append_assoc .., ha⟩
  | rejected _ _ htype hcomplete => exact .inl ⟨htype, hcomplete⟩

/-- The history of any run of a new receiver. -/
theorem receiverHistory_run (segments : List AcceptedSegment) :
    ReceiverHistory segments (run BoundedObjectReceiver.step .new segments) :=
  history_invariant ReceiverHistory
    (fun _ _ s h ↦ receiverHistory_concat h s) (.inl ⟨rfl, rfl⟩) segments

/-- A receiver whose history ends with a complete flag holds a complete object. -/
theorem completeObject_of_history {segments : List AcceptedSegment}
    (h : ReceiverHistory segments r) (hcomplete : r.complete = true) :
    CompleteObject segments r := by
  rcases h with ⟨-, hidle⟩ | ⟨earlier, current, hsegments, ha⟩
  · exact absurd (hcomplete.symm.trans hidle) nofun
  · obtain ⟨hcount, hcrc⟩ := ha.complete hcomplete
    have hlength : (payloads current).length = r.totalLength.toNat := by
      have hreceived := ha.length
      have hsegmentCount := ha.segmentCount
      simp only [kpx11PayloadMax] at *
      omega
    exact {
      complete := hcomplete
      assembled := ⟨earlier, current, hsegments, ha.inOrder, hcount, hlength,
        hlength ▸ ha.bytes⟩
      checksum := hcrc }

/-- A plan is activated from a complete mission plan object only. -/
theorem activateMissionPlan_complete {manifest : FlightSoftwarePackageManifest}
    {plan : MissionPlan} (h : r.activateMissionPlan manifest = .ok plan) :
    r.complete = true ∧ r.objectType = some .missionPlan
      ∧ r.totalLength.toNat = kmp11Length
      ∧ parseKmp11 (r.bytes.take r.totalLength.toNat) = .ok plan
      ∧ BoundedObjectReceiver.planUnfit plan manifest = false := by
  simp only [BoundedObjectReceiver.activateMissionPlan, bind_eq_ok, reject_eq_ok, pure_eq_ok,
    mapError_eq_ok] at h
  obtain ⟨_, hready, parsed, hparse, _, hfit, rfl⟩ := h
  simp only [not_or, not_not, Bool.not_eq_true, Bool.not_eq_false'] at hready hfit
  obtain ⟨hcomplete, htype, hlength⟩ := hready
  exact ⟨hcomplete, htype, hlength, hlength ▸ hparse, hfit⟩

/-- The receiver after a run of segments. -/
def received (segments : List AcceptedSegment) : BoundedObjectReceiver :=
  run BoundedObjectReceiver.step .new segments

theorem received_concat (segments : List AcceptedSegment) (s : AcceptedSegment) :
    received (segments ++ [s]) = ((received segments).receive s.val).2 :=
  run_concat ..

/-- A complete flag was raised by the last segment. -/
theorem complete_of_last {segments : List AcceptedSegment}
    (hcomplete : (received segments).complete = true) :
    ∃ earlier last, segments = earlier ++ [last]
      ∧ ((received earlier).receive last.val).1 = .ok .complete := by
  rcases List.eq_nil_or_concat segments with rfl | ⟨earlier, last, rfl⟩
  · cases hcomplete
  · rw [List.concat_eq_append, received_concat] at hcomplete
    refine ⟨earlier, last, List.concat_eq_append .., ?_⟩
    obtain ⟨_, _, _, houtcome⟩ := receive_outcome (receiverHistory_run earlier) last
    cases houtcome with
    | completed hanswer => exact hanswer
    | continued _ hnot | rejected _ _ _ hnot => exact absurd (hcomplete.symm.trans hnot) nofun

/-- Reassembly over any sequence of accepted segments: a segment answered with
`complete` completes an exact object; after a rejected segment no object is complete;
and a mission plan comes from the bytes of an exact object only, whose last segment
was answered with `complete`. -/
theorem complete_object_is_exact (segments : List AcceptedSegment) (s : AcceptedSegment) :
    (((received segments).receive s.val).1 = .ok .complete →
      CompleteObject (segments ++ [s]) (received (segments ++ [s])))
    ∧ (∀ error, ((received segments).receive s.val).1 = .error error →
        (received (segments ++ [s])).complete = false)
    ∧ (∀ manifest plan, (received segments).activateMissionPlan manifest = .ok plan →
        CompleteObject segments (received segments)
        ∧ (∃ earlier last, segments = earlier ++ [last]
            ∧ ((received earlier).receive last.val).1 = .ok .complete)
        ∧ parseKmp11 ((received segments).bytes.take (received segments).totalLength.toNat)
            = .ok plan) := by
  obtain ⟨_, _, _, houtcome⟩ := receive_outcome (receiverHistory_run segments) s
  refine ⟨?_, ?_, ?_⟩
  · intro hanswer
    have hfinal : (received (segments ++ [s])).complete = true := by
      rw [received_concat]
      cases houtcome with
      | completed _ hcomplete => exact hcomplete
      | continued hother | rejected _ hother => exact nomatch hother.symm.trans hanswer
    exact completeObject_of_history (receiverHistory_run (segments ++ [s])) hfinal
  · intro error hanswer
    rw [received_concat]
    cases houtcome with
    | completed hother | continued hother => exact nomatch hother.symm.trans hanswer
    | rejected _ _ _ hcomplete => exact hcomplete
  · intro manifest plan hplan
    obtain ⟨hcomplete, -, -, hparse, -⟩ := activateMissionPlan_complete hplan
    exact ⟨completeObject_of_history (receiverHistory_run segments) hcomplete,
      complete_of_last hcomplete, hparse⟩

/-- An object of three bytes in one segment. -/
def threeByteSegment : PackageObjectSegment where
  objectType := .packageConfiguration
  objectIdentity := 1
  totalLength := 3
  totalCrc32 := crc32Ieee [1, 2, 3]
  segmentIndex := 0
  segmentCount := 1
  logicalOffset := 0
  payload := [1, 2, 3]

/-- The second segment of an object of 481 bytes. -/
def straySegment : PackageObjectSegment where
  objectType := .packageConfiguration
  objectIdentity := 2
  totalLength := 481
  totalCrc32 := 1
  segmentIndex := 1
  segmentCount := 2
  logicalOffset := 480
  payload := [0]

/-- The two as the parser returns them. -/
def threeByteObject : AcceptedSegment :=
  ⟨threeByteSegment, (writeKpx11 threeByteSegment).toOption.getD [], by decide +kernel⟩

def strayObject : AcceptedSegment :=
  ⟨straySegment, (writeKpx11 straySegment).toOption.getD [], by decide +kernel⟩

/-- A rejected segment can change which object is complete: one of another object
discards the object that was complete. -/
theorem rejected_segment_discards :
    ¬∀ (segments : List AcceptedSegment) (s : AcceptedSegment) (error : ObjectReceiveError),
      ((received segments).receive s.val).1 = .error error →
      (received (segments ++ [s])).complete = (received segments).complete := by
  intro h
  have hsame := h [threeByteObject] strayObject .identity (by decide +kernel)
  have hbefore : (received [threeByteObject]).complete = true := by decide +kernel
  have hafter : (received ([threeByteObject] ++ [strayObject])).complete = false := by
    decide +kernel
  exact absurd (hafter.symm.trans (hsame.trans hbefore)) nofun

end Ksa64.Flight
