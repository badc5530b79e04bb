import Mathlib.Data.Nat.Find
import Ksa64.Session.Segment

/-!
# What the scanner makes of a bundle

`bundleBytes identity segments` is the one spelling of a sealed bundle: the chain of its
segments and the manifest that seals it.  The builder writes exactly these bytes
(`encode_eq`), and the scanner reports a sealed bundle exactly on them, as long as the
length of the chain fits the manifest's word (`scan_sealed_iff`).  On a strict prefix of
a bundle it reports the segments that are complete (`scan_take`).
-/

namespace Ksa64.Session

open Ksa64.Library Ksa64.Interface

/-! ## The chain of segments -/

/-- The sequence word of the segment with the given number; the scanner's counter
saturates. -/
def sequenceWord (k : Nat) : UInt32 := UInt32.ofNat (min k 0xffffffff)

/-- The segment as a link of the chain. -/
def link (identity : SessionBundleIdentity) (k : Nat) (priorCrc : UInt32)
    (segment : SessionSegment) : WireSegment where
  identity := identity
  sequence := sequenceWord k
  kind := segment.kind
  flags := 0
  priorCrc := priorCrc
  payload := segment.payload

/-- The segments from number `k` on, each linked to the CRC of the one before. -/
def chain (identity : SessionBundleIdentity) : Nat → UInt32 → List SessionSegment → List UInt8
  | _, _, [] => []
  | k, priorCrc, segment :: rest =>
      (link identity k priorCrc segment).bytes
        ++ chain identity (k + 1) (link identity k priorCrc segment).crc rest

/-- The CRC of the last segment of the chain. -/
def chainCrc (identity : SessionBundleIdentity) : Nat → UInt32 → List SessionSegment → UInt32
  | _, priorCrc, [] => priorCrc
  | k, priorCrc, segment :: rest =>
      chainCrc identity (k + 1) (link identity k priorCrc segment).crc rest

/-- The length of a segment in the bundle. -/
def SessionSegment.encodedLength (segment : SessionSegment) : Nat := 68 + segment.payload.length

/-- The length of a chain of segments. -/
def encodedLength (segments : List SessionSegment) : Nat :=
  (segments.map SessionSegment.encodedLength).sum

/-- What the builder requires of a segment. -/
structure SessionSegment.Ordinary (segment : SessionSegment) : Prop where
  kind : segment.kind ≠ .integrityManifest
  payload : segment.payload.length ≤ ksb11MaxSegmentPayload

section Chain

variable {identity : SessionBundleIdentity} {k : Nat} {priorCrc : UInt32}
  {segments : List SessionSegment} {segment : SessionSegment}

/-- A link of a valid bundle is a valid segment. -/
theorem link_valid (hi : identity.isValid = true) (hs : segment.Ordinary) :
    (link identity k priorCrc segment).Valid :=
  ⟨hi, hs.payload, UInt16.zero_and⟩

theorem length_link : (link identity k priorCrc segment).length = segment.encodedLength := rfl

@[simp] theorem length_chain : (chain identity k priorCrc segments).length
    = encodedLength segments := by
  induction segments generalizing k priorCrc with
  | nil => rfl
  | cons segment rest ih =>
      rw [chain, List.length_append, ih, WireSegment.length_bytes, length_link]
      rfl

theorem encodedLength_append (xs ys : List SessionSegment) :
    encodedLength (xs ++ ys) = encodedLength xs + encodedLength ys := by
  rw [encodedLength, List.map_append, List.sum_append]
  rfl

/-- A chain goes on where its first part ends. -/
theorem chain_append (xs ys : List SessionSegment) :
    chain identity k priorCrc (xs ++ ys) = chain identity k priorCrc xs
      ++ chain identity (k + xs.length) (chainCrc identity k priorCrc xs) ys := by
  induction xs generalizing k priorCrc with
  | nil => rfl
  | cons x xs ih =>
      rw [List.cons_append, chain, ih, chain, List.append_assoc, chainCrc, List.length_cons,
        Nat.add_assoc k 1, Nat.add_comm 1]

/-- The CRC of a chain that goes on. -/
theorem chainCrc_append (xs ys : List SessionSegment) :
    chainCrc identity k priorCrc (xs ++ ys)
      = chainCrc identity (k + xs.length) (chainCrc identity k priorCrc xs) ys := by
  induction xs generalizing k priorCrc with
  | nil => rfl
  | cons x xs ih =>
      rw [List.cons_append, chainCrc, ih, chainCrc, List.length_cons, Nat.add_assoc k 1,
        Nat.add_comm 1]

end Chain

/-! ## The sealed bundle -/

/-- The payload of the manifest that seals what was written before it. -/
def manifestPayload (written : List UInt8) (count : Nat) : List UInt8 :=
  ksm1Magic ++ (le32 (UInt32.ofNat written.length)
    ++ (le32 (UInt32.ofNat count) ++ sha256 written))

@[simp] theorem length_manifestPayload (written : List UInt8) (count : Nat) :
    (manifestPayload written count).length = 44 := rfl

/-- The manifest segment that seals the chain. -/
def sealSegment (identity : SessionBundleIdentity) (segments : List SessionSegment) :
    WireSegment where
  identity := identity
  sequence := sequenceWord segments.length
  kind := .integrityManifest
  flags := ksb11FlagFinal
  priorCrc := chainCrc identity 0 0 segments
  payload := manifestPayload (chain identity 0 0 segments) segments.length

/-- The bytes of the sealed bundle of the segments. -/
def bundleBytes (identity : SessionBundleIdentity) (segments : List SessionSegment) :
    List UInt8 :=
  chain identity 0 0 segments ++ (sealSegment identity segments).bytes

theorem sealSegment_valid {identity : SessionBundleIdentity} (hi : identity.isValid = true)
    (segments : List SessionSegment) : (sealSegment identity segments).Valid where
  identity := hi
  payload := by
    change 44 ≤ ksb11MaxSegmentPayload
    decide
  flags := by
    change ksb11FlagFinal &&& ~~~ksb11FlagFinal = 0
    decide

/-! ## The builder writes these bytes -/

theorem sequenceWord_eq {k : Nat} (hk : k ≤ 0xffffffff) : sequenceWord k = UInt32.ofNat k := by
  rw [sequenceWord, Nat.min_eq_left hk]

/-- The loop of the writer appends the chain. -/
theorem encodeSegments_eq {identity : SessionBundleIdentity} (hi : identity.isValid = true)
    {segments : List SessionSegment} (hs : ∀ segment ∈ segments, segment.Ordinary) {k : Nat}
    (hk : k + segments.length ≤ 65535) (priorCrc : UInt32) (output : List UInt8) :
    SessionBundleBuilder.encodeSegments identity segments k priorCrc output =
      .ok (chainCrc identity k priorCrc segments,
        output ++ chain identity k priorCrc segments) := by
  induction segments generalizing k priorCrc output with
  | nil => rw [SessionBundleBuilder.encodeSegments, chain, chainCrc, List.append_nil]; rfl
  | cons segment rest ih =>
      rw [List.length_cons] at hk
      have hw : (link identity k priorCrc segment).Valid :=
        link_valid hi (hs segment List.mem_cons_self)
      have hbytes := WireSegment.encodeSegment_eq hw
      rw [show (link identity k priorCrc segment).sequence = UInt32.ofNat k from
        sequenceWord_eq (by omega)] at hbytes
      rw [SessionBundleBuilder.encodeSegments]
      refine (bind_of_ok hbytes _).trans ?_
      rw [ih (fun s h ↦ hs s (List.mem_cons_of_mem _ h)) (by omega), WireSegment.read32_bytes,
        chain, chainCrc, List.append_assoc]

namespace SessionBundleBuilder

theorem ordinary (b : SessionBundleBuilder) : ∀ segment ∈ b.segments, segment.Ordinary :=
  fun segment h ↦ ⟨b.kind_ne segment h, b.payload_length_le segment h⟩

/-- The writer fills the manifest front to back. -/
theorem manifest_eq (output : List UInt8) (count : Nat) :
    splice (splice (splice (splice (List.replicate ksb11ManifestLength 0) 0 ksm1Magic) 4
      (le32 (UInt32.ofNat output.length))) 8 (le32 (UInt32.ofNat count))) 12 (sha256 output)
      = manifestPayload output count := by
  rw [← List.nil_append (List.replicate ksb11ManifestLength (0 : UInt8))]
  iterate 4 rw [splice_frontier]
  · simp [manifestPayload, ksb11ManifestLength, ksm1Magic]
  all_goals rfl

/-- A builder with a segment encodes to the bytes of its bundle. -/
theorem encode_eq (b : SessionBundleBuilder) (hne : b.segments ≠ []) :
    b.encode = .ok (bundleBytes b.identity b.segments) := by
  have hcount := b.segments_length_le
  have hsegments := encodeSegments_eq b.identity_isValid b.ordinary
    (by rw [Nat.zero_add]; exact hcount) 0 []
  have hseal := WireSegment.encodeSegment_eq (sealSegment_valid b.identity_isValid b.segments)
  rw [show (sealSegment b.identity b.segments).sequence = UInt32.ofNat b.segments.length from
    sequenceWord_eq (by omega)] at hseal
  unfold encode
  refine (reject_bind hne _).trans ?_
  refine (bind_of_ok hsegments _).trans ?_
  rw [List.nil_append]
  dsimp only
  rw [manifest_eq]
  exact bind_of_ok hseal _

/-- A builder encodes iff it has a segment, and then to the bytes of its bundle. -/
theorem encode_eq_ok {b : SessionBundleBuilder} {bytes : List UInt8} :
    b.encode = .ok bytes ↔ b.segments ≠ [] ∧ bytes = bundleBytes b.identity b.segments := by
  constructor
  · intro h
    have hne : b.segments ≠ [] := by
      obtain ⟨_, hne, -⟩ := bind_eq_ok.mp h
      exact reject_eq_ok.mp hne
    rw [b.encode_eq hne] at h
    exact ⟨hne, (Except.ok.inj h).symm⟩
  · rintro ⟨hne, rfl⟩
    exact b.encode_eq hne

end SessionBundleBuilder

/-! ## The scanner reads them -/

/-- The state of the scanner after a chain of segments. -/
def ScanState.after (identity : SessionBundleIdentity) (segments : List SessionSegment) :
    ScanState where
  offset := encodedLength segments
  expectedIdentity := if segments = [] then none else some identity
  expectedSequence := sequenceWord segments.length
  expectedPriorCrc := chainCrc identity 0 0 segments
  segments := segments
  manifestSha256 := none
  sealed := false

/-- The loop of the scanner over an input. -/
abbrev Scans (input : List UInt8) : ScanState → Except SessionBundleError ScanState → Prop :=
  Loops (fun s ↦ s.offset < input.length) (scanSegment input)

/-- The scanner goes on past an ordinary segment that continues the chain. -/
theorem scanSegment_eq_yield {input : List UInt8} {s t : ScanState} :
    scanSegment input s = .ok (.yield t) ↔
      ∃ w, s.Continues input w ∧ w.kind ≠ .integrityManifest ∧ w.flags = 0 ∧ t = s.advance w := by
  rw [scanSegment_eq_ok]
  constructor
  · rintro (⟨-, h⟩ | ⟨w, hw, h⟩)
    · cases h
    · refine ⟨w, hw, ?_⟩
      unfold ScanState.finish at h
      split at h
      · obtain ⟨t, -, h⟩ := bind_eq_ok.mp h
        cases h
      · rename_i hkind
        obtain ⟨_, hflags, h⟩ := bind_eq_ok.mp h
        cases h
        exact ⟨hkind, not_not.mp (reject_eq_ok.mp hflags), rfl⟩
  · rintro ⟨w, hw, hkind, hflags, rfl⟩
    refine .inr ⟨w, hw, ?_⟩
    rw [ScanState.finish, if_neg hkind]
    exact reject_bind (fun h ↦ h hflags) _

/-- The scanner reports the last state of its loop: every round that goes on moves the
offset, so the rounds it allows are enough. -/
theorem scanSessionBundle_eq_ok {input : List UInt8} {scan : SessionBundleScan} :
    scanSessionBundle input = .ok scan ↔
      ∃ s, Scans input .initial (.ok s) ∧ s.report = scan := by
  have hpos (s : ScanState) (hs : s.offset < input.length) : 0 < input.length - s.offset := by
    omega
  have hdec (s t : ScanState) (hs : s.offset < input.length)
      (h : scanSegment input s = .ok (.yield t)) :
      input.length - t.offset < input.length - s.offset := by
    obtain ⟨w, -, -, -, rfl⟩ := scanSegment_eq_yield.mp h
    rw [ScanState.offset_advance, WireSegment.length]
    omega
  unfold scanSessionBundle
  rw [bind_eq_ok]
  constructor
  · rintro ⟨s, hs, h⟩
    exact ⟨s, (loop_eq_iff hpos hdec (Nat.sub_le ..)).mp hs, pure_eq_ok.mp h⟩
  · rintro ⟨s, hs, h⟩
    exact ⟨s, (loop_eq_iff hpos hdec (Nat.sub_le ..)).mpr hs, pure_eq_ok.mpr h⟩

/-- Before the first segment the identity is open. -/
theorem ScanState.after_nil (identity : SessionBundleIdentity) :
    ScanState.after identity [] = .initial := rfl

/-- The counter of the scanner follows the number of segments. -/
theorem sequenceWord_succ (k : Nat) :
    sequenceWord (k + 1) =
      if sequenceWord k = 0xffffffff then 0xffffffff else sequenceWord k + 1 := by
  rw [← UInt32.toNat_inj]
  have hk : (sequenceWord k).toNat = min k 0xffffffff := by
    rw [sequenceWord, UInt32.toNat_ofNat']
    omega
  have hk' : (sequenceWord (k + 1)).toNat = min (k + 1) 0xffffffff := by
    rw [sequenceWord, UInt32.toNat_ofNat']
    omega
  split
  · rename_i h
    rw [h] at hk
    rw [hk']
    have hmax : (0xffffffff : UInt32).toNat = 0xffffffff := rfl
    omega
  · rename_i h
    rw [← UInt32.toNat_inj, hk] at h
    have hmax : (0xffffffff : UInt32).toNat = 0xffffffff := rfl
    rw [UInt32.toNat_add, hk, hk', UInt32.toNat_one]
    omega

section After

variable {identity : SessionBundleIdentity} {segments : List SessionSegment}
  {segment : SessionSegment} {input : List UInt8}

/-- The next link of the chain. -/
def nextLink (identity : SessionBundleIdentity) (segments : List SessionSegment)
    (segment : SessionSegment) : WireSegment :=
  link identity segments.length (chainCrc identity 0 0 segments) segment

theorem chain_concat : chain identity 0 0 (segments ++ [segment])
    = chain identity 0 0 segments ++ (nextLink identity segments segment).bytes := by
  rw [chain_append, Nat.zero_add, chain, chain, List.append_nil]
  rfl

/-- Taking in the next link of the chain. -/
theorem ScanState.advance_after :
    (after identity segments).advance (nextLink identity segments segment)
      = after identity (segments ++ [segment]) := by
  have hcrc : chainCrc identity 0 0 (segments ++ [segment])
      = (nextLink identity segments segment).crc := by
    rw [chainCrc_append, Nat.zero_add]
    rfl
  have hlength : encodedLength (segments ++ [segment])
      = encodedLength segments + (nextLink identity segments segment).length :=
    encodedLength_append ..
  have hne : segments ++ [segment] ≠ [] := by simp
  rw [after, after, advance, hcrc, hlength, List.length_append, List.length_singleton,
    sequenceWord_succ, if_neg hne]
  rfl

/-- The chain that was read ends at the offset. -/
theorem drop_after {post : List UInt8} (h : input = chain identity 0 0 segments ++ post) :
    input.drop (ScanState.after identity segments).offset = post := by
  rw [h]
  exact List.drop_left' length_chain

/-- The identity expected after a chain. -/
theorem expectedIdentity_after {i : SessionBundleIdentity}
    (h : i ∈ (ScanState.after identity segments).expectedIdentity) : i = identity := by
  by_cases hne : segments = []
  · rw [ScanState.after, if_pos hne] at h
    cases h
  · rw [ScanState.after, if_neg hne] at h
    exact (Option.some.inj h).symm

/-- The next link of the chain, at the end of what was read, continues it. -/
theorem continues_nextLink (hi : identity.isValid = true) (hs : segment.Ordinary)
    {post : List UInt8} (h : input = chain identity 0 0 (segments ++ [segment]) ++ post) :
    (ScanState.after identity segments).Continues input (nextLink identity segments segment) where
  valid := link_valid hi hs
  identity := fun _ ↦ expectedIdentity_after
  sequence := rfl
  priorCrc := rfl
  bytes := by
    rw [chain_concat, List.append_assoc] at h
    rw [drop_after h]
    exact List.prefix_append ..

/-- The scanner reads a chain that lies at the front of the input. -/
theorem scans_after (hi : identity.isValid = true) {segments' : List SessionSegment}
    (hs : ∀ segment ∈ segments', segment.Ordinary) {post : List UInt8}
    (h : input = chain identity 0 0 (segments ++ segments') ++ post)
    {r : Except SessionBundleError ScanState}
    (hr : Scans input (.after identity (segments ++ segments')) r) :
    Scans input (.after identity segments) r := by
  induction segments' generalizing segments with
  | nil => rwa [List.append_nil] at hr
  | cons segment rest ih =>
      have hsplit : segments ++ segment :: rest = (segments ++ [segment]) ++ rest := by simp
      rw [hsplit] at h hr
      have hnext := ih (fun s hs' ↦ hs s (List.mem_cons_of_mem _ hs')) h hr
      have hsegment := hs segment List.mem_cons_self
      rw [chain_append, List.append_assoc] at h
      have hcontinues := continues_nextLink hi hsegment h
      refine Loops.yield ?_ (scanSegment_eq_yield.mpr
        ⟨_, hcontinues, hsegment.kind, rfl, rfl⟩) (ScanState.advance_after ▸ hnext)
      · have hlen := congrArg List.length h
        rw [List.length_append, length_chain, encodedLength_append] at hlen
        change encodedLength segments < input.length
        have hpos : 0 < encodedLength [segment] := by
          rw [encodedLength, List.map_singleton, List.sum_singleton,
            SessionSegment.encodedLength]
          omega
        omega

end After

/-- The payload of a segment lies past its header. -/
theorem WireSegment.drop_payload {w : WireSegment} {input : List UInt8} {offset : Nat}
    (hp : w.bytes <+: input.drop offset) :
    ∃ post, input.drop (offset + 64) = w.payload ++ post := by
  obtain ⟨post, hpost⟩ := hp
  refine ⟨le32 w.crc ++ post, ?_⟩
  rw [← List.drop_drop, ← hpost, bytes, body, List.append_assoc, List.append_assoc]
  exact List.drop_left' w.length_header

/-- The state in which the scanner seals. -/
def ScanState.sealWith (s : ScanState) (input : List UInt8) (w : WireSegment) : ScanState :=
  { s with
    manifestSha256 := some (sha256 (input.take s.offset))
    sealed := true
    offset := s.offset + w.length }

/-- The scanner seals iff the manifest is that of everything before it, the length of
which has to fit a word. -/
theorem scanManifest_eq_ok {input : List UInt8} {s t : ScanState} {w : WireSegment}
    (hp : w.bytes <+: input.drop s.offset) :
    scanManifest input s w.length w.flags w.payload.length = .ok t ↔
      w.flags = ksb11FlagFinal
        ∧ w.payload = manifestPayload (input.take s.offset) s.segments.length
        ∧ s.offset < 2 ^ 32
        ∧ s.offset + w.length = input.length
        ∧ t = s.sealWith input w := by
  obtain ⟨hlen, -⟩ := WireSegment.bytes_prefix_iff.mp hp
  obtain ⟨post, hd⟩ := WireSegment.drop_payload hp
  have hlength : w.length = 68 + w.payload.length := rfl
  have htake : (input.take s.offset).length = s.offset := by
    rw [List.length_take]
    omega
  have hslice : slice input 0 s.offset = input.take s.offset := by simp [slice]
  simp only [scanManifest, bind_eq_ok, reject_eq_ok, pure_eq_ok, hslice]
  simp only [not_or, not_not, ksb11HeaderLength, ksb11ManifestLength]
  constructor
  · rintro ⟨_, ⟨hflags, hpayload, hmagic, hoffset, hcount⟩, _, ⟨hhash, hend⟩, rfl⟩
    have hlt := (read32 input (s.offset + 64 + 4)).toNat_lt
    rw [hoffset] at hlt
    have hword : UInt32.ofNat s.offset = read32 input (s.offset + 64 + 4) := by
      rw [← UInt32.toNat_inj, hoffset, UInt32.toNat_ofNat', Nat.mod_eq_of_lt hlt]
    have hmanifest : input.drop (s.offset + 64)
        = manifestPayload (input.take s.offset) s.segments.length
          ++ input.drop (s.offset + 64 + 44) := by
      rw [drop_eq_slice_append (show s.offset + 64 ≤ s.offset + 64 + 4 by omega), hmagic,
        drop_eq_le32_append (show s.offset + 64 + 4 + 4 ≤ input.length by omega),
        drop_eq_le32_append (show s.offset + 64 + 8 + 4 ≤ input.length by omega), hcount,
        drop_eq_slice_append (show s.offset + 64 + 12 ≤ s.offset + 64 + 44 by omega), hhash,
        manifestPayload, htake, hword]
      simp only [List.append_assoc]
    refine ⟨hflags, ?_, hlt, hend, ?_⟩
    · exact (List.append_inj (hd.symm.trans hmanifest) hpayload).1
    · rw [ScanState.sealWith, hhash]
  · rintro ⟨hflags, hpayload, hoffset, hend, rfl⟩
    rw [hpayload] at hd ⊢
    simp only [manifestPayload, List.append_assoc, htake] at hd
    have hhash : slice input (s.offset + 64 + 12) (s.offset + 64 + 44)
        = sha256 (input.take s.offset) := by
      have hd' : input.drop (s.offset + 64 + 12) = sha256 (input.take s.offset) ++ post := by
        rw [← List.drop_drop, hd]
        rfl
      exact slice_of_drop_eq hd' rfl
    have hword : read32 input (s.offset + 64 + 4) = UInt32.ofNat s.offset := by
      rw [read32_drop, hd]
      exact read32_append rfl _ _
    have hcount : read32 input (s.offset + 64 + 8) = UInt32.ofNat s.segments.length := by
      rw [read32_drop, hd, ← List.append_assoc]
      exact read32_append rfl _ _
    refine ⟨⟨⟩, ⟨hflags, rfl, slice_of_drop_eq hd rfl, ?_, hcount⟩, ⟨⟩, ⟨hhash, hend⟩, ?_⟩
    · rw [hword, UInt32.toNat_ofNat', Nat.mod_eq_of_lt hoffset]
    · rw [ScanState.sealWith, hhash]

/-! ## Sealed bundles -/

/-- What the scanner knows after every round that goes on: it has read a chain. -/
def ReadsChain (input : List UInt8) (s : ScanState) : Prop :=
  ∃ identity, identity.isValid = true ∧ (∀ segment ∈ s.segments, segment.Ordinary)
    ∧ s = .after identity s.segments ∧ chain identity 0 0 s.segments <+: input

section ReadsChain

variable {input : List UInt8} {s : ScanState} {w : WireSegment}

/-- The chain that was read is that of the identity that continues it. -/
theorem ReadsChain.of_continues (h : ReadsChain input s) (hw : s.Continues input w) :
    s = .after w.identity s.segments ∧ chain w.identity 0 0 s.segments <+: input := by
  obtain ⟨identity, -, -, hs, hp⟩ := h
  by_cases hne : s.segments = []
  · rw [hne] at hs ⊢
    exact ⟨hs, List.nil_prefix⟩
  · have hi : identity = w.identity := by
      apply hw.identity
      rw [hs, ScanState.after, if_neg hne]
      rfl
    exact ⟨hi ▸ hs, hi ▸ hp⟩

/-- A segment that continues the chain lies where the chain ends. -/
theorem ReadsChain.append_prefix (h : ReadsChain input s) (hw : s.Continues input w) :
    chain w.identity 0 0 s.segments ++ w.bytes <+: input := by
  obtain ⟨hs, post, hpost⟩ := h.of_continues hw
  obtain ⟨post', hpost'⟩ := hw.bytes
  rw [hs, drop_after hpost.symm] at hpost'
  exact ⟨post', by rw [← hpost, ← hpost', List.append_assoc]⟩

/-- An ordinary segment that continues the chain is its next link. -/
theorem ReadsChain.eq_nextLink (h : ReadsChain input s) (hw : s.Continues input w)
    (hflags : w.flags = 0) : w = nextLink w.identity s.segments ⟨w.kind, w.payload⟩ := by
  obtain ⟨hs, -⟩ := h.of_continues hw
  have hsequence := hw.sequence
  have hpriorCrc := hw.priorCrc
  rw [hs] at hsequence hpriorCrc
  exact WireSegment.ext rfl hsequence rfl hflags hpriorCrc rfl

/-- Taking in an ordinary segment extends the chain that was read. -/
theorem ReadsChain.advance (h : ReadsChain input s) (hw : s.Continues input w)
    (hkind : w.kind ≠ .integrityManifest) (hflags : w.flags = 0) :
    ReadsChain input (s.advance w) := by
  obtain ⟨hs, -⟩ := h.of_continues hw
  have hp := h.append_prefix hw
  have hlink := h.eq_nextLink hw hflags
  obtain ⟨-, -, hordinary, -⟩ := h
  refine ⟨w.identity, hw.valid.identity, ?_, ?_, ?_⟩
  · intro segment hmem
    rcases List.mem_append.mp hmem with hmem | hmem
    · exact hordinary segment hmem
    · rw [List.mem_singleton.mp hmem]
      exact ⟨hkind, hw.valid.payload⟩
  · calc s.advance w
        = (ScanState.after w.identity s.segments).advance
            (nextLink w.identity s.segments ⟨w.kind, w.payload⟩) := by rw [← hlink, ← hs]
      _ = .after w.identity (s.segments ++ [⟨w.kind, w.payload⟩]) := ScanState.advance_after
  · change chain w.identity 0 0 (s.segments ++ [⟨w.kind, w.payload⟩]) <+: input
    rwa [chain_concat, ← hlink]

/-- A manifest that seals the chain is the seal of its segments. -/
theorem ReadsChain.eq_sealSegment (h : ReadsChain input s) (hw : s.Continues input w)
    (hkind : w.kind = .integrityManifest) (hflags : w.flags = ksb11FlagFinal)
    (hpayload : w.payload = manifestPayload (input.take s.offset) s.segments.length) :
    w = sealSegment w.identity s.segments := by
  obtain ⟨hs, post, hpost⟩ := h.of_continues hw
  have hsequence := hw.sequence
  have hpriorCrc := hw.priorCrc
  have htake : input.take s.offset = chain w.identity 0 0 s.segments := by
    rw [hs, ← hpost]
    exact List.take_left' length_chain
  rw [htake] at hpayload
  rw [hs] at hsequence hpriorCrc
  exact WireSegment.ext rfl hsequence hkind hflags hpriorCrc hpayload

end ReadsChain

/-- The scanner has read a chain whenever it goes on. -/
theorem readsChain_step {input : List UInt8} (s t : ScanState) (h : ReadsChain input s)
    (ht : scanSegment input s = .ok (.yield t)) : ReadsChain input t := by
  obtain ⟨w, hw, hkind, hflags, rfl⟩ := scanSegment_eq_yield.mp ht
  exact h.advance hw hkind hflags

theorem readsChain_initial (input : List UInt8) : ReadsChain input .initial :=
  ⟨⟨1, 0, 0⟩, rfl, by simp [ScanState.initial], rfl, List.nil_prefix⟩

/-- What the scanner seals is the bundle of the segments it has read. -/
theorem sealed_of_done {input : List UInt8} {s t : ScanState} (h : ReadsChain input s)
    (ht : scanSegment input s = .ok (.done t)) (hsealed : t.sealed = true) :
    ∃ identity, identity.isValid = true ∧ (∀ segment ∈ t.segments, segment.Ordinary)
      ∧ encodedLength t.segments < 2 ^ 32 ∧ input = bundleBytes identity t.segments
      ∧ t.expectedIdentity = some identity := by
  obtain ⟨_, -, hordinary, hafter, -⟩ := id h
  rcases scanSegment_eq_ok.mp ht with ⟨-, hdone⟩ | ⟨w, hw, hfinish⟩
  · cases hdone
    rw [hafter] at hsealed
    cases hsealed
  · unfold ScanState.finish at hfinish
    split at hfinish
    · rename_i hkind
      obtain ⟨t', ht', hdone⟩ := bind_eq_ok.mp hfinish
      cases hdone
      obtain ⟨hflags, hpayload, hoffset, hend, rfl⟩ :=
        (scanManifest_eq_ok (s := { s with expectedIdentity := some w.identity }) hw.bytes).mp ht'
      have hseal := h.eq_sealSegment hw hkind hflags hpayload
      have hlength : s.offset = encodedLength s.segments := by rw [hafter]; rfl
      refine ⟨w.identity, hw.valid.identity, hordinary, hlength ▸ hoffset, ?_, rfl⟩
      · change input = chain w.identity 0 0 s.segments ++ (sealSegment w.identity s.segments).bytes
        rw [← hseal]
        refine ((h.append_prefix hw).eq_of_length ?_).symm
        rw [List.length_append, length_chain, WireSegment.length_bytes, ← hlength]
        exact hend
    · obtain ⟨_, -, hdone⟩ := bind_eq_ok.mp hfinish
      cases hdone

/-- The scanner seals the bundle of a chain it has read, if the length of the chain fits
the manifest's word. -/
theorem scans_sealed {identity : SessionBundleIdentity} (hi : identity.isValid = true)
    {segments : List SessionSegment} (hlt : encodedLength segments < 2 ^ 32) :
    ∃ t, Scans (bundleBytes identity segments) (.after identity segments) (.ok t)
      ∧ t.sealed = true ∧ t.segments = segments ∧ t.expectedIdentity = some identity := by
  let input := bundleBytes identity segments
  let s := ScanState.after identity segments
  let w := sealSegment identity segments
  have hinput : input = chain identity 0 0 segments ++ w.bytes := rfl
  have htake : input.take s.offset = chain identity 0 0 segments := List.take_left' length_chain
  have hw : s.Continues input w := {
    valid := sealSegment_valid hi segments
    identity := fun _ ↦ expectedIdentity_after
    sequence := rfl
    priorCrc := rfl
    bytes := (drop_after hinput).symm ▸ List.prefix_rfl }
  have hlength : s.offset + w.length = input.length := by
    rw [hinput, List.length_append, length_chain, WireSegment.length_bytes]
    rfl
  have hpos : s.offset < input.length := by
    rw [← hlength, WireSegment.length]
    omega
  have hmanifest := (scanManifest_eq_ok (s := { s with expectedIdentity := some w.identity })
    hw.bytes).mpr ⟨rfl, by rw [htake]; rfl, hlt, hlength, rfl⟩
  refine ⟨ScanState.sealWith { s with expectedIdentity := some w.identity } input w,
    Loops.done hpos (scanSegment_eq_ok.mpr (.inr ⟨w, hw, ?_⟩)), rfl, rfl, rfl⟩
  rw [ScanState.finish, if_pos (show w.kind = .integrityManifest from rfl)]
  exact bind_of_ok hmanifest _

/-- The scanner reports a sealed bundle exactly on the bytes of a bundle whose chain has
a length that fits the manifest's word. -/
theorem scan_sealed_iff {input : List UInt8} {identity : SessionBundleIdentity}
    {segments : List SessionSegment} :
    (∃ scan, scanSessionBundle input = .ok scan ∧ scan.sealed = true ∧ scan.identity = identity
        ∧ scan.segments = segments) ↔
      identity.isValid = true ∧ (∀ segment ∈ segments, segment.Ordinary)
        ∧ encodedLength segments < 2 ^ 32 ∧ input = bundleBytes identity segments := by
  constructor
  · rintro ⟨scan, hscan, hsealed, rfl, rfl⟩
    obtain ⟨t, ht, rfl⟩ := scanSessionBundle_eq_ok.mp hscan
    rcases ht.invariant _ (fun s t h _ ↦ readsChain_step s t h) (readsChain_initial input) rfl
      with h | ⟨s, hs, -, hdone⟩
    · obtain ⟨_, -, -, hafter, -⟩ := h
      rw [hafter] at hsealed
      cases hsealed
    · obtain ⟨identity, hi, hordinary, hlt, hinput, hexpected⟩ := sealed_of_done hs hdone hsealed
      have hidentity : t.report.identity = identity := by
        rw [ScanState.report, hexpected]
        rfl
      rw [hidentity]
      exact ⟨hi, hordinary, hlt, hinput⟩
  · rintro ⟨hi, hordinary, hlt, rfl⟩
    obtain ⟨t, ht, hsealed, hsegments, hexpected⟩ := scans_sealed hi hlt
    have hinput : bundleBytes identity segments
        = chain identity 0 0 ([] ++ segments) ++ (sealSegment identity segments).bytes := rfl
    have hscan := scans_after hi hordinary hinput ht
    refine ⟨t.report, scanSessionBundle_eq_ok.mpr ⟨t, hscan, rfl⟩, hsealed, ?_, hsegments⟩
    rw [ScanState.report, hexpected]
    rfl

/-! ## Bundles that a crash cut short -/

/-- The number of segments that an input of the given length holds completely. -/
def completeSegments (segments : List SessionSegment) (n : Nat) : Nat :=
  Nat.findGreatest (fun k ↦ encodedLength (segments.take k) ≤ n) segments.length

/-- The complete segments fit the input, and no longer part of the chain does. -/
theorem completeSegments_spec (segments : List SessionSegment) (n : Nat) :
    encodedLength (segments.take (completeSegments segments n)) ≤ n
      ∧ ∀ k ≤ segments.length, encodedLength (segments.take k) ≤ n →
        k ≤ completeSegments segments n := by
  refine ⟨?_, fun k hk h ↦ Nat.le_findGreatest hk h⟩
  exact Nat.findGreatest_spec (P := fun k ↦ encodedLength (segments.take k) ≤ n)
    (Nat.zero_le _) (Nat.zero_le _)

/-- The scanner stops at a segment that the input cuts short. -/
theorem scans_torn {identity : SessionBundleIdentity} {segments : List SessionSegment}
    {w : WireSegment} (hw : w.Valid) {input post : List UInt8} {n : Nat}
    (hinput : input = chain identity 0 0 segments ++ (w.bytes ++ post))
    (hle : encodedLength segments ≤ n) (hlt : n < encodedLength segments + w.length) :
    Scans (input.take n) (.after identity segments) (.ok (.after identity segments)) := by
  let s := ScanState.after identity segments
  by_cases hend : s.offset < (input.take n).length
  · refine Loops.done hend (scanSegment_eq_ok.mpr (.inl ⟨frameLength_of_torn hw ?_ ?_, rfl⟩))
    · rw [List.drop_take, drop_after hinput, List.take_append_of_le_length]
      · exact List.take_prefix ..
      · rw [WireSegment.length_bytes]
        change n - encodedLength segments ≤ w.length
        omega
    · rw [List.length_take]
      change min n input.length - encodedLength segments < w.length
      omega
  · exact Loops.exit hend

/-- What follows the complete segments of a strict prefix of a bundle: a segment, or the
seal, that the prefix cuts short. -/
theorem exists_torn {identity : SessionBundleIdentity} (hi : identity.isValid = true)
    {segments : List SessionSegment} (hs : ∀ segment ∈ segments, segment.Ordinary) {n : Nat}
    (hn : n < (bundleBytes identity segments).length) :
    ∃ (w : WireSegment) (post : List UInt8), w.Valid
      ∧ bundleBytes identity segments = chain identity 0 0
          (segments.take (completeSegments segments n)) ++ (w.bytes ++ post)
      ∧ n < encodedLength (segments.take (completeSegments segments n)) + w.length := by
  have hmax := (completeSegments_spec segments n).2
  have hsplit := List.take_append_drop (completeSegments segments n) segments
  cases hrest : segments.drop (completeSegments segments n) with
  | nil =>
      rw [hrest, List.append_nil] at hsplit
      rw [hsplit]
      refine ⟨sealSegment identity segments, [], sealSegment_valid hi segments, ?_, ?_⟩
      · rw [List.append_nil, bundleBytes]
      · rwa [bundleBytes, List.length_append, length_chain, WireSegment.length_bytes] at hn
  | cons segment rest =>
      have hmem : segment ∈ segments := by
        rw [← hsplit, hrest]
        exact List.mem_append_right _ List.mem_cons_self
      rw [hrest] at hsplit
      let w := nextLink identity (segments.take (completeSegments segments n)) segment
      obtain ⟨post, hchain⟩ : ∃ post, chain identity 0 0 segments
          = chain identity 0 0 (segments.take (completeSegments segments n))
            ++ (w.bytes ++ post) := by
        conv in chain identity 0 0 segments => rw [← hsplit]
        rw [chain_append, chain, Nat.zero_add]
        exact ⟨_, rfl⟩
      refine ⟨w, post ++ (sealSegment identity segments).bytes, link_valid hi (hs segment hmem),
        ?_, ?_⟩
      · rw [bundleBytes, hchain, List.append_assoc, List.append_assoc]
      · apply Nat.lt_of_not_le
        intro hle
        have hlt : completeSegments segments n < segments.length := by
          apply Nat.lt_of_not_le
          intro hlong
          rw [List.drop_of_length_le hlong] at hrest
          cases hrest
        have hnext : segments.take (completeSegments segments n + 1)
            = segments.take (completeSegments segments n) ++ [segment] := by
          rw [List.take_add_one, ← List.head?_drop, hrest]
          rfl
        have := hmax (completeSegments segments n + 1) hlt (by
          rw [hnext, encodedLength_append]
          exact hle)
        omega

/-- On a strict prefix of a bundle the scanner reports the complete segments. -/
theorem scan_take {identity : SessionBundleIdentity} (hi : identity.isValid = true)
    {segments : List SessionSegment} (hs : ∀ segment ∈ segments, segment.Ordinary) {n : Nat}
    (hn : n < (bundleBytes identity segments).length) :
    scanSessionBundle ((bundleBytes identity segments).take n) =
      .ok (ScanState.after identity (segments.take (completeSegments segments n))).report := by
  obtain ⟨w, post, hw, hbundle, hlt⟩ := exists_torn hi hs hn
  have hle := (completeSegments_spec segments n).1
  have htorn := scans_torn hw hbundle hle hlt
  have hinput : (bundleBytes identity segments).take n = chain identity 0 0
      ([] ++ segments.take (completeSegments segments n))
        ++ (w.bytes ++ post).take (n - encodedLength (segments.take (completeSegments segments n))) := by
    rw [hbundle, List.nil_append, List.take_append, length_chain, List.take_of_length_le]
    rw [length_chain]
    exact hle
  have hscans := scans_after hi (fun s h ↦ hs s (List.mem_of_mem_take h)) hinput htorn
  exact scanSessionBundle_eq_ok.mpr ⟨_, hscans, rfl⟩

/-- What a crash leaves of a bundle is never taken for a complete session. -/
theorem verify_error_of_unsealed {input : List UInt8} {scan : SessionBundleScan}
    (h : scanSessionBundle input = .ok scan) (hsealed : scan.sealed = false) :
    verifyCompleteSession input = .error .manifest := by
  unfold verifyCompleteSession
  rw [bind_of_ok h, hsealed]
  rfl

/-- **Crash recovery**: on every strict prefix of an encoded bundle the scanner reports,
unsealed, exactly the segments that the prefix holds completely and their summed length,
and the prefix is rejected as a session. -/
theorem scan_strict_prefix {b : SessionBundleBuilder} {bytes : List UInt8}
    (h : b.encode = .ok bytes) {n : Nat} (hn : n < bytes.length) :
    ∃ scan k, scanSessionBundle (bytes.take n) = .ok scan
      ∧ scan.sealed = false
      ∧ scan.segments = b.segments.take k
      ∧ (∀ j ≤ b.segments.length, encodedLength (b.segments.take j) ≤ n → j ≤ k)
      ∧ scan.validLength = encodedLength scan.segments
      ∧ scan.validLength ≤ (bytes.take n).length
      ∧ verifyCompleteSession (bytes.take n) = .error .manifest := by
  obtain ⟨-, rfl⟩ := SessionBundleBuilder.encode_eq_ok.mp h
  have hscan := scan_take b.identity_isValid b.ordinary hn
  obtain ⟨hle, hmax⟩ := completeSegments_spec b.segments n
  refine ⟨_, completeSegments b.segments n, hscan, rfl, rfl, hmax, rfl, ?_,
    verify_error_of_unsealed hscan rfl⟩
  rw [List.length_take, Nat.min_eq_left (Nat.le_of_lt hn)]
  exact hle

/-- A completed session of three segments. -/
def completedBuilder : SessionBundleBuilder where
  identity := ⟨1, 2, 3⟩
  segments := [⟨.sourceLedger, [0x73]⟩, ⟨.actionLog, [0x61, 0x63]⟩, ⟨.debrief, [0x64]⟩]
  identity_isValid := rfl
  segments_length_le := by decide
  kind_ne := by decide
  payload_length_le := by decide

/-- Cut inside the header of its third segment, the session comes back with the first
two. -/
theorem scan_strict_prefix_completedBuilder :
    ∃ bytes, completedBuilder.encode = .ok bytes ∧ 150 < bytes.length
      ∧ (∃ scan k, scanSessionBundle (bytes.take 150) = .ok scan ∧ scan.sealed = false
        ∧ scan.segments = completedBuilder.segments.take k ∧ 2 ≤ k
        ∧ verifyCompleteSession (bytes.take 150) = .error .manifest) := by
  have hencode := completedBuilder.encode_eq (by decide)
  have hlen : 150 < (bundleBytes completedBuilder.identity completedBuilder.segments).length := by
    decide +kernel
  obtain ⟨scan, k, hscan, hsealed, hsegments, hmax, -, -, hverify⟩ := scan_strict_prefix hencode hlen
  exact ⟨_, hencode, hlen, scan, k, hscan, hsealed, hsegments, hmax 2 (by decide) (by decide),
    hverify⟩

/-! ## What scans as sealed -/

/-- The number of segments that the manifest at the end of the input counts. -/
def countedSegments (input : List UInt8) : Nat := (read32 input (input.length - 40)).toNat

/-- A chain is longer than the number of its segments. -/
theorem length_le_encodedLength (segments : List SessionSegment) :
    segments.length ≤ encodedLength segments := by
  induction segments with
  | nil => exact Nat.zero_le _
  | cons segment rest ih =>
      rw [encodedLength, List.map_cons, List.sum_cons, ← encodedLength,
        SessionSegment.encodedLength, List.length_cons]
      omega

/-- The manifest of a bundle counts its segments. -/
theorem countedSegments_bundleBytes {identity : SessionBundleIdentity}
    {segments : List SessionSegment} (hlt : encodedLength segments < 2 ^ 32) :
    countedSegments (bundleBytes identity segments) = segments.length := by
  let written := chain identity 0 0 segments
  let w := sealSegment identity segments
  have hle := length_le_encodedLength segments
  have hbytes : bundleBytes identity segments
      = (written ++ w.header ++ ksm1Magic ++ le32 (UInt32.ofNat written.length))
        ++ (le32 (UInt32.ofNat segments.length) ++ (sha256 written ++ le32 w.crc)) := by
    rw [bundleBytes, WireSegment.bytes, WireSegment.body,
      show (sealSegment identity segments).payload = manifestPayload written segments.length from
        rfl, manifestPayload]
    simp only [List.append_assoc]
    rfl
  have hpre : (bundleBytes identity segments).length - 40
      = (written ++ w.header ++ ksm1Magic ++ le32 (UInt32.ofNat written.length)).length := by
    rw [hbytes]
    simp [ksm1Magic]
  rw [countedSegments, hpre, hbytes, read32_append rfl, UInt32.toNat_ofNat']
  omega

/-- A builder with the given segments exists iff they are ordinary and few enough. -/
theorem exists_builder_iff {identity : SessionBundleIdentity} {segments : List SessionSegment} :
    (∃ b : SessionBundleBuilder, b.identity = identity ∧ b.segments = segments) ↔
      identity.isValid = true ∧ segments.length ≤ 65535
        ∧ ∀ segment ∈ segments, segment.Ordinary := by
  constructor
  · rintro ⟨b, rfl, rfl⟩
    exact ⟨b.identity_isValid, b.segments_length_le, b.ordinary⟩
  · rintro ⟨hi, hlen, hs⟩
    exact ⟨⟨identity, segments, hi, hlen, fun s h ↦ (hs s h).kind, fun s h ↦ (hs s h).payload⟩,
      rfl, rfl⟩

/-- **Builder and scanner**: what a builder encodes scans back as its own sealed bundle
exactly if the chain of its segments has a length that fits the manifest's word; what
scans as sealed is what a builder encodes exactly if it counts at least one segment and
not more than a builder takes; and no bundle has two spellings. -/
theorem scan_encode_iff (bytes : List UInt8) :
    (∀ b : SessionBundleBuilder, b.encode = .ok bytes →
      ((∃ scan, scanSessionBundle bytes = .ok scan ∧ scan.sealed = true
          ∧ scan.identity = b.identity ∧ scan.segments = b.segments) ↔
        encodedLength b.segments < 2 ^ 32))
    ∧ (∀ scan : SessionBundleScan, scanSessionBundle bytes = .ok scan →
        scan.sealed = true →
        ((∃ b : SessionBundleBuilder, b.identity = scan.identity ∧ b.segments = scan.segments
            ∧ b.encode = .ok bytes) ↔
          1 ≤ countedSegments bytes ∧ countedSegments bytes ≤ 65535))
    ∧ (∀ (bytes' : List UInt8) (scan scan' : SessionBundleScan),
        scanSessionBundle bytes = .ok scan → scanSessionBundle bytes' = .ok scan' →
        scan.sealed = true → scan'.sealed = true → scan.identity = scan'.identity →
        scan.segments = scan'.segments → bytes = bytes') := by
  refine ⟨?_, ?_, ?_⟩
  · intro b hencode
    obtain ⟨-, rfl⟩ := SessionBundleBuilder.encode_eq_ok.mp hencode
    rw [scan_sealed_iff]
    constructor
    · rintro ⟨-, -, hlt, -⟩
      exact hlt
    · intro hlt
      exact ⟨b.identity_isValid, b.ordinary, hlt, rfl⟩
  · intro scan hscan hsealed
    obtain ⟨hi, hordinary, hlt, hbytes⟩ := scan_sealed_iff.mp ⟨scan, hscan, hsealed, rfl, rfl⟩
    have hcount : countedSegments bytes = scan.segments.length := by
      rw [hbytes]
      exact countedSegments_bundleBytes hlt
    rw [hcount]
    constructor
    · rintro ⟨b, -, hsegments, hencode⟩
      have hne := (SessionBundleBuilder.encode_eq_ok.mp hencode).1
      rw [← hsegments]
      exact ⟨List.length_pos_of_ne_nil hne, b.segments_length_le⟩
    · rintro ⟨hpos, hlen⟩
      obtain ⟨b, hb, hsegments⟩ := exists_builder_iff.mpr ⟨hi, hlen, hordinary⟩
      refine ⟨b, hb, hsegments, SessionBundleBuilder.encode_eq_ok.mpr ⟨?_, ?_⟩⟩
      · rw [hsegments]
        exact List.ne_nil_of_length_pos hpos
      · rwa [hb, hsegments]
  · intro bytes' scan scan' hscan hscan' hsealed hsealed' hidentity hsegments
    obtain ⟨-, -, -, hbytes⟩ := scan_sealed_iff.mp ⟨scan, hscan, hsealed, rfl, rfl⟩
    obtain ⟨-, -, -, hbytes'⟩ := scan_sealed_iff.mp ⟨scan', hscan', hsealed', rfl, rfl⟩
    rw [hbytes, hbytes', hidentity, hsegments]

/-- The completed session scans back as its own sealed bundle. -/
theorem scan_encode_iff_completedBuilder :
    ∃ bytes, completedBuilder.encode = .ok bytes
      ∧ ∃ scan, scanSessionBundle bytes = .ok scan ∧ scan.sealed = true
        ∧ scan.identity = completedBuilder.identity
        ∧ scan.segments = completedBuilder.segments := by
  have hencode := completedBuilder.encode_eq (by decide)
  exact ⟨_, hencode, ((scan_encode_iff _).1 _ hencode).mpr (by decide)⟩

/-- A manifest that seals nothing scans as a sealed bundle, which no builder encodes. -/
theorem sealed_without_segments :
    ∃ scan, scanSessionBundle (bundleBytes ⟨1, 2, 3⟩ []) = .ok scan ∧ scan.sealed = true
      ∧ ¬∃ b : SessionBundleBuilder, b.identity = scan.identity ∧ b.segments = scan.segments
        ∧ b.encode = .ok (bundleBytes ⟨1, 2, 3⟩ []) := by
  refine ⟨{
    identity := ⟨1, 2, 3⟩
    segments := []
    validLength := 112
    manifestSha256 := some (sha256 [])
    sealed := true
    completed := true }, by decide +kernel, rfl, ?_⟩
  rintro ⟨b, -, hsegments, hencode⟩
  exact (SessionBundleBuilder.encode_eq_ok.mp hencode).1 hsegments

end Ksa64.Session
