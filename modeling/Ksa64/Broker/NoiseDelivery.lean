import Ksa64.Broker.Noise

/-!
# What the peer of a channel gets

The transport is taken to be an authenticated channel with an implicit nonce
(`AuthenticatedTransport`, `Unforged`).  The packets that one channel makes of a list of frames
are then a script for its peer (`Follows`): opened in order they give the frames, and the first
packet that is not the next one poisons the peer.
-/

namespace Ksa64.Broker

open Ksa64.Library
open Ksa64.Presentation

/-! ## Packets -/

theorem packet_inj_of_length {ciphertext bytes : List UInt8}
    (hbytes : bytes.length = (readBe32 bytes 0).toNat + 4) (hdrop : bytes.drop 4 = ciphertext) :
    bytes = packet ciphertext := by
  have hlength : ciphertext.length = (readBe32 bytes 0).toNat := by
    rw [← hdrop, List.length_drop, hbytes, Nat.add_sub_cancel]
  rw [packet, hlength, UInt32.ofNat_toNat, ← hdrop, ← take_eq_be32 (by omega),
    List.take_append_drop]

theorem drop_packet (ciphertext : List UInt8) : (packet ciphertext).drop 4 = ciphertext :=
  List.drop_left' (length_be32 _)

theorem length_packet (ciphertext : List UInt8) :
    (packet ciphertext).length = 4 + ciphertext.length := List.length_append

theorem readBe32_packet {ciphertext : List UInt8} (h : ciphertext.length ≤ maxNoiseCiphertextLength) :
    (readBe32 (packet ciphertext) 0).toNat = ciphertext.length := by
  unfold maxNoiseCiphertextLength at h
  rw [packet, readBe32_be32_append, UInt32.toNat_ofNat']
  omega

/-! ## Fragments -/

section Fragments

variable {messageId : UInt64} {totalLength offset : Nat} {chunk : List UInt8} {finalFragment : Bool}

theorem fits_fragment : Layout.Fits (secureFragmentHeaderLength + chunk.length) 0
    (fragmentCells messageId totalLength offset chunk finalFragment) := by
  simp [fragmentCells, secureFragmentHeaderLength]

/-- What a fragment says. -/
structure ReadsFragment (plaintext : List UInt8) (messageId : UInt64) (totalLength offset : Nat)
    (chunk : List UInt8) (finalFragment : Bool) : Prop where
  length : plaintext.length = secureFragmentHeaderLength + chunk.length
  magic : slice plaintext 0 4 = secureFragmentMagic
  message : read64 plaintext 4 = messageId
  total : (read32 plaintext 12).toNat = totalLength
  position : (read32 plaintext 16).toNat = offset
  count : (read16 plaintext 20).toNat = chunk.length
  flags : read16 plaintext 22 = if finalFragment then secureFragmentFinal else 0
  data : plaintext.drop secureFragmentHeaderLength = chunk

theorem readsFragment_fragment (htotal : totalLength ≤ maxEncryptedKps1Length)
    (hoffset : offset + chunk.length ≤ totalLength)
    (hchunk : chunk.length ≤ secureFragmentDataLength) :
    ReadsFragment (fragment messageId totalLength offset chunk finalFragment) messageId totalLength
      offset chunk finalFragment := by
  unfold maxEncryptedKps1Length kps1HeaderLength kps1MaxPayloadLength at htotal
  unfold secureFragmentDataLength secureFragmentPlaintextLength secureFragmentHeaderLength at hchunk
  obtain ⟨hlength, hreads⟩ := (Layout.eq_fill_iff fits_fragment).mp
    (rfl : fragment messageId totalLength offset chunk finalFragment = _)
  generalize fragment messageId totalLength offset chunk finalFragment = plaintext at hlength hreads ⊢
  simp [fragmentCells] at hreads
  obtain ⟨hmagic, hmessage, htotal', hoffset', hchunk', hflags, hdata, -⟩ := hreads
  refine ⟨hlength, hmagic, hmessage, ?_, ?_, ?_, hflags, ?_⟩
  · rw [htotal', UInt32.toNat_ofNat']
    omega
  · rw [hoffset', UInt32.toNat_ofNat']
    omega
  · rw [hchunk', UInt16.toNat_ofNat']
    omega
  · have hwhole : plaintext.length ≤ 24 + chunk.length := Nat.le_of_eq hlength
    rw [slice, List.take_of_length_le hwhole] at hdata
    exact hdata

end Fragments

namespace AuthenticatedNoiseChannel

variable {T : NoiseTransport} {c : AuthenticatedNoiseChannel T}

/-- The frame whose fragments come next, and what of it has come. -/
structure Assembles (c : AuthenticatedNoiseChannel T) (messageId : UInt64) (totalLength : Nat)
    (data : List UInt8) : Prop where
  message : messageId = c.nextReceiveMessage
  pending : c.pending = none ∧ data = [] ∨ c.pending = some ⟨messageId, totalLength, data⟩

theorem Assembles.getD {messageId : UInt64} {totalLength : Nat} {data : List UInt8}
    (h : c.Assembles messageId totalLength data) :
    c.pending.getD ⟨messageId, totalLength, []⟩ = ⟨messageId, totalLength, data⟩
      ∧ ¬(c.pending = none ∧ data.length ≠ 0) := by
  obtain ⟨hpending, rfl⟩ | hpending := h.pending
  · rw [hpending]
    exact ⟨rfl, fun h ↦ h.2 rfl⟩
  · rw [hpending]
    exact ⟨rfl, nofun⟩

/-- The next fragment. -/
theorem openFragment_eq {messageId : UInt64} {totalLength : Nat} {data chunk plaintext : List UInt8}
    {finalFragment : Bool} (h : c.Assembles messageId totalLength data)
    (hreads : ReadsFragment plaintext messageId totalLength data.length chunk finalFragment)
    (htotal : kps1HeaderLength ≤ totalLength ∧ totalLength ≤ maxEncryptedKps1Length)
    (hchunk : chunk ≠ []) (hroom : chunk.length ≤ secureFragmentDataLength)
    (hoffset : data.length + chunk.length ≤ totalLength)
    (hfinal : finalFragment = decide (data.length + chunk.length = totalLength)) :
    c.openFragment plaintext =
      if data.length + chunk.length = totalLength then
        openFrame { c with pending := none } (data ++ chunk)
      else (.ok none, { c with pending := some ⟨messageId, totalLength, data ++ chunk⟩ }) := by
  obtain ⟨hpending, hfirst⟩ := h.getD
  have hflags : (if finalFragment then secureFragmentFinal else 0) &&& ~~~secureFragmentFinal = 0 := by
    cases finalFragment <;> rfl
  have hisFinal : decide ((if finalFragment then secureFragmentFinal else 0) &&& secureFragmentFinal ≠ 0)
      = finalFragment := by
    cases finalFragment <;> rfl
  have hlength : chunk.length ≠ 0 := fun hzero ↦ hchunk (List.length_eq_zero_iff.mp hzero)
  unfold openFragment
  rw [if_neg (by rw [hreads.length, hreads.magic]; simp)]
  dsimp only
  rw [hreads.flags, hreads.total, hreads.count, hreads.message, hreads.position, hpending, hreads.data,
    if_neg (not_not.mpr hflags), if_neg (by rw [hreads.length]; omega),
    if_neg (not_not.mpr h.message), if_neg hfirst, if_neg (by simp; omega), hisFinal, hfinal]
  dsimp only
  rw [List.length_append, if_neg (not_not.mpr rfl)]
  simp only [decide_eq_true_eq]

end AuthenticatedNoiseChannel

/-! ## The transport -/

/-- The transport is authenticated: `record n plaintext` is what it makes of a plaintext at the
nonce `n`, `sends n` and `receives n` say at which nonce a state is.  A write takes the next
nonce, as long as there is one; the record at the nonce of the receiver is read. -/
structure AuthenticatedTransport (T : NoiseTransport) (record : Nat → List UInt8 → List UInt8)
    (sends receives : Nat → T.State → Prop) : Prop where
  write : ∀ {n : Nat} {s s' : T.State} {plaintext ciphertext : List UInt8}, sends n s →
    T.writeMessage s plaintext = some (ciphertext, s') →
      n + 1 < 2 ^ 64 ∧ ciphertext = record n plaintext ∧ sends (n + 1) s'
  length_record : ∀ (n : Nat) (plaintext : List UInt8),
    (record n plaintext).length = plaintext.length + 16
  read : ∀ {n : Nat} {r : T.State} {plaintext : List UInt8}, receives n r → n + 1 < 2 ^ 64 →
    (record n plaintext).length ≤ maxNoiseCiphertextLength →
      ∃ r', T.readMessage r (record n plaintext) = some (plaintext, r') ∧ receives (n + 1) r'

/-- None of the packets that are delivered is forged: at the nonce `n`, only the `n`-th packet
that was sent is read. -/
def Unforged (T : NoiseTransport) (receives : Nat → T.State → Prop)
    (sent delivered : List (List UInt8)) : Prop :=
  ∀ packet ∈ delivered, ∀ (n : Nat) (r : T.State), receives n r →
    (∀ genuine, sent[n]? = some genuine → packet.drop 4 ≠ genuine.drop 4) →
      T.readMessage r (packet.drop 4) = none

section Delivery

variable {T : NoiseTransport} {record : Nat → List UInt8 → List UInt8}
  {sends receives : Nat → T.State → Prop}

namespace AuthenticatedNoiseChannel

variable {c c' : AuthenticatedNoiseChannel T}

def step (c : AuthenticatedNoiseChannel T) (packet : List UInt8) : AuthenticatedNoiseChannel T :=
  (c.openPacket packet).2

def out (c : AuthenticatedNoiseChannel T) (packet : List UInt8) :
    Option (Except NoiseTransportError (Option (List UInt8))) :=
  some (c.openPacket packet).1

/-- Seal one frame after the other. -/
def sealAll (c : AuthenticatedNoiseChannel T) : List (List UInt8) →
    Attempt NoiseTransportError (AuthenticatedNoiseChannel T) (List (List (List UInt8)))
  | [] => (.ok [], c)
  | frame :: rest =>
      (c.sealKps1 frame).andThen fun packets c ↦
        (c.sealAll rest).andThen fun others c ↦ (.ok (packets :: others), c)

/-- A script: packets, and what opening them gives. -/
inductive Follows (receives : Nat → T.State → Prop) :
    Nat → AuthenticatedNoiseChannel T → List (List UInt8 × Option (List UInt8)) → Prop
  | done {n : Nat} {c : AuthenticatedNoiseChannel T} (hlive : c.poisoned = false)
      (hreceives : receives n c.transport) : Follows receives n c []
  | next {n : Nat} {c c' : AuthenticatedNoiseChannel T} {packet : List UInt8}
      {frame : Option (List UInt8)} {script : List (List UInt8 × Option (List UInt8))}
      (hlive : c.poisoned = false) (hreceives : receives n c.transport)
      (hopen : c.openPacket packet = (.ok frame, c')) (hrest : Follows receives (n + 1) c' script) :
      Follows receives n c ((packet, frame) :: script)

/-- The genuine packet is opened as its fragment. -/
theorem openPacket_record (hT : AuthenticatedTransport T record sends receives)
    (hlive : c.poisoned = false) {n : Nat} (hreceives : receives n c.transport)
    (hn : n + 1 < 2 ^ 64) {plaintext : List UInt8}
    (hlength : (record n plaintext).length ≤ maxNoiseCiphertextLength) :
    ∃ t, receives (n + 1) t ∧ ∀ frame c',
      openFragment { c with transport := t } plaintext = (.ok frame, c') →
        c.openPacket (packet (record n plaintext)) = (.ok frame, c') := by
  obtain ⟨t, hread, ht⟩ := hT.read hreceives hn hlength
  refine ⟨t, ht, fun frame c' hopen ↦ ?_⟩
  have hnonempty := hT.length_record n plaintext
  have hwhole := length_packet (record n plaintext)
  have hinner : c.openPacketInner (packet (record n plaintext)) = (.ok frame, c') := by
    unfold openPacketInner
    rw [if_neg (by omega)]
    dsimp only
    rw [readBe32_packet hlength, if_neg (by omega), drop_packet, hread]
    exact hopen
  unfold openPacket
  rw [if_neg (by rw [hlive]; exact Bool.false_ne_true), hinner]

/-- Any other packet poisons the channel. -/
theorem openPacket_other (hlive : c.poisoned = false) {n : Nat} (hreceives : receives n c.transport)
    {sent delivered : List (List UInt8)} (hunforged : Unforged T receives sent delivered)
    (hsent : ∀ genuine ∈ sent, ∃ ciphertext, genuine = packet ciphertext) {bytes : List UInt8}
    (hbytes : bytes ∈ delivered) (hother : sent[n]? ≠ some bytes) :
    (∃ error, (c.openPacket bytes).1 = .error error) ∧ (c.openPacket bytes).2.poisoned = true := by
  have hinner : ∃ error, c.openPacketInner bytes = (.error error, c) := by
    unfold openPacketInner
    dsimp only
    split_ifs with hshort hlength
    · exact ⟨_, rfl⟩
    · exact ⟨_, rfl⟩
    · have hnone : T.readMessage c.transport (bytes.drop 4) = none := by
        refine hunforged bytes hbytes n c.transport hreceives fun genuine hgenuine hdrop ↦ ?_
        obtain ⟨ciphertext, rfl⟩ := hsent genuine (List.mem_of_getElem? hgenuine)
        rw [drop_packet] at hdrop
        rw [packet_inj_of_length (by omega) hdrop] at hother
        exact hother hgenuine
      rw [hnone]
      exact ⟨_, rfl⟩
  obtain ⟨error, herror⟩ := hinner
  unfold openPacket
  rw [if_neg (by rw [hlive]; exact Bool.false_ne_true), herror]
  exact ⟨⟨error, rfl⟩, rfl⟩

/-- A channel that is poisoned stays so. -/
theorem openPacket_poisoned (h : c.poisoned = true) (bytes : List UInt8) :
    c.openPacket bytes = (.error .channelPoisoned, c) := by
  unfold openPacket
  rw [if_pos h]

/-- What opening the packets of a frame gives: the frame with the last one. -/
def frameScript (frame : List UInt8) : List (List UInt8) → List (List UInt8 × Option (List UInt8))
  | [] => []
  | [packet] => [(packet, some frame)]
  | packet :: other :: rest => (packet, none) :: frameScript frame (other :: rest)

theorem sealChunks_cons {messageId : UInt64} {totalLength chunkCount index : Nat}
    {chunk : List UInt8} {rest packets : List (List UInt8)} {s s' : T.State}
    (h : sealChunks T messageId totalLength chunkCount index (chunk :: rest) s = (.ok packets, s')) :
    ∃ ciphertext t others,
      T.writeMessage s (fragment messageId totalLength (index * secureFragmentDataLength) chunk
        (index + 1 = chunkCount)) = some (ciphertext, t)
        ∧ ciphertext.length ≤ maxNoiseCiphertextLength
        ∧ sealChunks T messageId totalLength chunkCount (index + 1) rest t = (.ok others, s')
        ∧ packets = packet ciphertext :: others := by
  rw [sealChunks] at h
  split at h
  · cases h
  · rename_i ciphertext t hwrite
    by_cases hlength : maxNoiseCiphertextLength < ciphertext.length
    · rw [if_pos hlength] at h
      cases h
    · rw [if_neg hlength] at h
      generalize hrest : sealChunks T messageId totalLength chunkCount (index + 1) rest t = sealed
        at h
      obtain ⟨result, t'⟩ := sealed
      cases result with
      | error error => cases h
      | ok others =>
          cases h
          exact ⟨ciphertext, t, others, hwrite, Nat.not_lt.mp hlength, hrest, rfl⟩

/-- The channel behind a frame. -/
def received (c : AuthenticatedNoiseChannel T) (cursor : Kps1SequenceCursor) (next : UInt64)
    (transport : T.State) : AuthenticatedNoiseChannel T :=
  { c with
    transport := transport
    pending := none
    inboundSequence := some cursor
    nextReceiveMessage := next }

/-- What sealing a frame, or the rest of one, comes to: `c` is the peer, and `done` what the peer
is when it has got the packets. -/
structure Sealed (record : Nat → List UInt8 → List UInt8) (sends receives : Nat → T.State → Prop)
    (n : Nat) (frame : List UInt8) (packets : List (List UInt8)) (s' : T.State)
    (c : AuthenticatedNoiseChannel T) (done : T.State → AuthenticatedNoiseChannel T) : Prop where
  nonempty : packets ≠ []
  ciphertexts : ∀ bytes ∈ packets, ∃ ciphertext, bytes = packet ciphertext
  sent : sends (n + packets.length) s'
  follows : ∃ t, receives (n + packets.length) t ∧ ∀ script,
    Follows receives (n + packets.length) (done t) script →
      Follows receives n c (frameScript frame packets ++ script)

section Frame

variable {messageId : UInt64} {frame : List UInt8} {chunkCount index n : Nat} {s s' : T.State}
  {data rest : List UInt8} {packets : List (List UInt8)}
  {done : T.State → AuthenticatedNoiseChannel T}

/-- The last fragment of a frame. -/
theorem sealed_last (hT : AuthenticatedTransport T record sends receives)
    (htotal : kps1HeaderLength ≤ frame.length ∧ frame.length ≤ maxEncryptedKps1Length)
    (hframe : frame = data ++ rest) (hrest : rest ≠ [])
    (hindex : data.length = index * secureFragmentDataLength) (hcount : chunkCount = index + 1)
    (hroom : rest.length ≤ secureFragmentDataLength)
    (hseal : sealChunks T messageId frame.length chunkCount index [rest] s = (.ok packets, s'))
    (hsends : sends n s) (hlive : c.poisoned = false) (hreceives : receives n c.transport)
    (hassembles : c.Assembles messageId frame.length data)
    (hdone : ∀ t, openFrame { c with transport := t, pending := none } frame
      = (.ok (some frame), done t)) : Sealed record sends receives n frame packets s' c done := by
  obtain ⟨ciphertext, t, others, hwrite, hlength, hothers, rfl⟩ := sealChunks_cons hseal
  cases hothers
  obtain ⟨hn, rfl, hsends'⟩ := hT.write hsends hwrite
  rw [← hindex] at hlength ⊢
  have hwhole : data.length + rest.length = frame.length := by rw [hframe, List.length_append]
  have hreads : ReadsFragment (fragment messageId frame.length data.length rest
      (index + 1 = chunkCount)) messageId frame.length data.length rest (index + 1 = chunkCount) :=
    readsFragment_fragment htotal.2 (Nat.le_of_eq hwhole) hroom
  obtain ⟨t', ht', hopen⟩ := openPacket_record hT hlive hreceives hn hlength
  have hassembles' : Assembles { c with transport := t' } messageId frame.length data :=
    ⟨hassembles.message, hassembles.pending⟩
  have hfragment := openFragment_eq hassembles' hreads htotal hrest hroom (Nat.le_of_eq hwhole)
    (by rw [hcount, hwhole]; simp)
  rw [if_pos hwhole, ← hframe, hdone t'] at hfragment
  refine ⟨nofun, ?_, hsends', t', ht', fun script hscript ↦ ?_⟩
  · intro bytes hbytes
    exact ⟨_, List.mem_singleton.mp hbytes⟩
  · exact .next hlive hreceives (hopen _ _ hfragment) hscript

/-- A fragment behind which others come. -/
theorem sealed_cons (hT : AuthenticatedTransport T record sends receives)
    (htotal : kps1HeaderLength ≤ frame.length ∧ frame.length ≤ maxEncryptedKps1Length)
    {chunk : List UInt8} {chunks : List (List UInt8)}
    (hframe : frame = data ++ (chunk ++ rest)) (hrest : rest ≠ []) (hchunk : chunk ≠ [])
    (hindex : data.length = index * secureFragmentDataLength) (hcount : chunkCount ≠ index + 1)
    (hroom : chunk.length ≤ secureFragmentDataLength)
    (hseal : sealChunks T messageId frame.length chunkCount index (chunk :: chunks) s
      = (.ok packets, s'))
    (hsends : sends n s) (hlive : c.poisoned = false) (hreceives : receives n c.transport)
    (hassembles : c.Assembles messageId frame.length data)
    (hsealed : ∀ {t : T.State} {t' : T.State} {others : List (List UInt8)},
      sealChunks T messageId frame.length chunkCount (index + 1) chunks t = (.ok others, s') →
        sends (n + 1) t → receives (n + 1) t' →
          Sealed record sends receives (n + 1) frame others s'
            { c with
              transport := t'
              pending := some ⟨messageId, frame.length, data ++ chunk⟩ } done) :
    Sealed record sends receives n frame packets s' c done := by
  obtain ⟨ciphertext, t, others, hwrite, hlength, hothers, rfl⟩ := sealChunks_cons hseal
  obtain ⟨hn, rfl, hsends'⟩ := hT.write hsends hwrite
  rw [← hindex] at hlength ⊢
  have hwhole : data.length + chunk.length < frame.length := by
    have hpos := List.length_pos_of_ne_nil hrest
    rw [hframe, List.length_append, List.length_append]
    omega
  have hreads : ReadsFragment (fragment messageId frame.length data.length chunk
      (index + 1 = chunkCount)) messageId frame.length data.length chunk (index + 1 = chunkCount) :=
    readsFragment_fragment htotal.2 (Nat.le_of_lt hwhole) hroom
  obtain ⟨t', ht', hopen⟩ := openPacket_record hT hlive hreceives hn hlength
  have hassembles' : Assembles { c with transport := t' } messageId frame.length data :=
    ⟨hassembles.message, hassembles.pending⟩
  have hfragment := openFragment_eq hassembles' hreads htotal hchunk hroom (Nat.le_of_lt hwhole)
    (by rw [decide_eq_decide]; exact iff_of_false hcount.symm (Nat.ne_of_lt hwhole))
  rw [if_neg (Nat.ne_of_lt hwhole)] at hfragment
  obtain ⟨hnonempty, hpackets, hsends'', t'', ht'', hfollows⟩ := hsealed hothers hsends' ht'
  have hcountPackets : n + (packet (record n (fragment messageId frame.length data.length chunk
      (index + 1 = chunkCount))) :: others).length = n + 1 + others.length := by
    rw [List.length_cons]
    omega
  refine ⟨nofun, ?_, ?_, t'', ?_, fun script hscript ↦ ?_⟩
  · intro bytes hbytes
    rcases List.mem_cons.mp hbytes with rfl | hbytes
    · exact ⟨_, rfl⟩
    · exact hpackets bytes hbytes
  · rw [hcountPackets]
    exact hsends''
  · rw [hcountPackets]
    exact ht''
  · rw [hcountPackets] at hscript
    obtain ⟨first, others, rfl⟩ := List.exists_cons_of_ne_nil hnonempty
    exact .next hlive hreceives (hopen _ _ hfragment) (hfollows script hscript)

theorem secureFragmentDataLength_pos : secureFragmentDataLength ≠ 0 := by decide

/-- The rest of a frame, of which `data` has come. -/
theorem sealed_chunks (hT : AuthenticatedTransport T record sends receives)
    (htotal : kps1HeaderLength ≤ frame.length ∧ frame.length ≤ maxEncryptedKps1Length)
    (hframe : frame = data ++ rest) (hrest : rest ≠ [])
    (hindex : data.length = index * secureFragmentDataLength)
    (hcount : chunkCount = index + (chunks secureFragmentDataLength rest).length)
    (hseal : sealChunks T messageId frame.length chunkCount index
      (chunks secureFragmentDataLength rest) s = (.ok packets, s'))
    (hsends : sends n s) (hlive : c.poisoned = false) (hreceives : receives n c.transport)
    (hassembles : c.Assembles messageId frame.length data)
    (hdone : ∀ t, openFrame { c with transport := t, pending := none } frame
      = (.ok (some frame), done t)) : Sealed record sends receives n frame packets s' c done := by
  -- on the chunks that are left
  induction hlength : rest.length using Nat.strongRecOn
    generalizing n c s data rest index packets with
  | ind m ih =>
      by_cases hroom : rest.length ≤ secureFragmentDataLength
      · rw [chunks_of_le secureFragmentDataLength_pos hrest hroom] at hseal hcount
        exact sealed_last hT htotal hframe hrest hindex hcount hroom hseal hsends hlive hreceives
          hassembles hdone
      · have hdrop : rest.drop secureFragmentDataLength ≠ [] := by
          rw [← List.length_pos_iff, List.length_drop]
          omega
        have hchunk : (rest.take secureFragmentDataLength).length = secureFragmentDataLength :=
          List.length_take_of_le (by omega)
        have hmore : 0 < (chunks secureFragmentDataLength
            (rest.drop secureFragmentDataLength)).length := by
          rw [chunks_of_ne_nil secureFragmentDataLength_pos hdrop]
          exact Nat.zero_lt_succ _
        rw [chunks_of_ne_nil secureFragmentDataLength_pos hrest] at hseal hcount
        rw [List.length_cons] at hcount
        have hsplit : frame = data ++ (rest.take secureFragmentDataLength
            ++ rest.drop secureFragmentDataLength) := by rw [List.take_append_drop, hframe]
        refine sealed_cons hT htotal hsplit hdrop ?_ hindex (by omega) (Nat.le_of_eq hchunk) hseal
          hsends hlive hreceives hassembles fun {t t' others} hothers hsends' hreceives' ↦ ?_
        · rw [← List.length_pos_iff, hchunk]
          exact Nat.pos_of_ne_zero secureFragmentDataLength_pos
        · have hnext : Assembles
              { c with
                transport := t'
                pending := some ⟨messageId, frame.length,
                  data ++ rest.take secureFragmentDataLength⟩ }
              messageId frame.length (data ++ rest.take secureFragmentDataLength) :=
            ⟨hassembles.message, .inr rfl⟩
          refine ih _ ?_ ?_ hdrop ?_ ?_ hothers hsends' hlive hreceives' hnext hdone rfl
          · have := Nat.pos_of_ne_zero secureFragmentDataLength_pos
            have := List.length_pos_of_ne_nil hrest
            rw [List.length_drop]
            omega
          · rw [List.append_assoc, ← hsplit]
          · rw [List.length_append, hchunk, hindex, Nat.succ_mul]
          · omega

end Frame

/-- One channel sends what the other receives next. -/
structure InStep (sends receives : Nat → T.State → Prop) (n : Nat)
    (sender receiver : AuthenticatedNoiseChannel T) : Prop where
  sent : sends n sender.transport
  received : receives n receiver.transport
  live : receiver.poisoned = false
  pending : receiver.pending = none
  message : sender.nextSendMessage = receiver.nextReceiveMessage
  cursor : sender.outboundSequence = receiver.inboundSequence

/-- A frame that is sealed. -/
theorem sealKps1_eq_ok {sender sender' : AuthenticatedNoiseChannel T} {frame : List UInt8}
    {packets : List (List UInt8)} (h : sender.sealKps1 frame = (.ok packets, sender')) :
    frame.length ≤ maxEncryptedKps1Length
      ∧ ∃ decoded cursor cursor' next t, parseKps1Frame frame = .ok decoded
        ∧ sender.outboundSequence = some cursor
        ∧ cursor.accept decoded.header = (.ok (), cursor')
        ∧ checkedAdd64 sender.nextSendMessage 1 = some next
        ∧ sealChunks T sender.nextSendMessage frame.length
          ((frame.length + (secureFragmentDataLength - 1)) / secureFragmentDataLength) 0
          (chunks secureFragmentDataLength frame) sender.transport = (.ok packets, t)
        ∧ sender' = { sender with
            outboundSequence := some cursor'
            nextSendMessage := next
            transport := t } := by
  have hinner : sender.sealKps1Inner frame = (.ok packets, sender') := by
    unfold sealKps1 at h
    by_cases hpoisoned : sender.poisoned = true
    · rw [if_pos hpoisoned] at h
      cases h
    · rw [if_neg hpoisoned] at h
      generalize sender.sealKps1Inner frame = sealed at h ⊢
      obtain ⟨result, c⟩ := sealed
      cases result with
      | error error => cases h
      | ok found => exact h
  unfold sealKps1Inner at hinner
  by_cases hlength : maxEncryptedKps1Length < frame.length
  · rw [if_pos hlength] at hinner
    cases hinner
  rw [if_neg hlength] at hinner
  refine ⟨Nat.not_lt.mp hlength, ?_⟩
  cases hparse : parseKps1Frame frame with
  | error error =>
      rw [hparse] at hinner
      cases hinner
  | ok decoded =>
      rw [hparse] at hinner
      dsimp only at hinner
      cases hcursor : sender.outboundSequence with
      | none =>
          rw [hcursor] at hinner
          cases hinner
      | some cursor =>
          rw [hcursor] at hinner
          dsimp only at hinner
          generalize haccept : cursor.accept decoded.header = accepted at hinner
          obtain ⟨result, cursor'⟩ := accepted
          cases result with
          | error error => cases hinner
          | ok u =>
              dsimp only at hinner
              cases hnext : checkedAdd64 sender.nextSendMessage 1 with
              | none =>
                  rw [hnext] at hinner
                  cases hinner
              | some next =>
                  rw [hnext] at hinner
                  dsimp only at hinner
                  generalize hseal : sealChunks T sender.nextSendMessage frame.length
                    ((frame.length + (secureFragmentDataLength - 1)) / secureFragmentDataLength) 0
                    (chunks secureFragmentDataLength frame) sender.transport = sealed at hinner
                  obtain ⟨result, t⟩ := sealed
                  cases hinner
                  exact ⟨decoded, cursor, cursor', next, t, rfl, rfl, haccept, rfl, rfl, rfl⟩

/-- A frame that is sealed is received, and the two channels stay in step. -/
theorem sealed_frame (hT : AuthenticatedTransport T record sends receives) {n : Nat}
    {sender sender' receiver : AuthenticatedNoiseChannel T}
    (h : InStep sends receives n sender receiver) {frame : List UInt8} {packets : List (List UInt8)}
    (hseal : sender.sealKps1 frame = (.ok packets, sender')) :
    packets ≠ [] ∧ (∀ bytes ∈ packets, ∃ ciphertext, bytes = packet ciphertext)
      ∧ ∃ receiver', InStep sends receives (n + packets.length) sender' receiver'
        ∧ ∀ script, Follows receives (n + packets.length) receiver' script →
          Follows receives n receiver (frameScript frame packets ++ script) := by
  obtain ⟨hlength, decoded, cursor, cursor', next, t, hparse, hcursor, haccept, hnext, hchunks, rfl⟩ :=
    sealKps1_eq_ok hseal
  have hheader : kps1HeaderLength ≤ frame.length := by
    have hbytes := (eq_bytes_iff.mp (parseKps1Frame_eq_ok.mp hparse).2).1
    omega
  have hne : frame ≠ [] := by
    rw [← List.length_pos_iff]
    exact Nat.lt_of_lt_of_le (by decide) hheader
  have hassembles : receiver.Assembles sender.nextSendMessage frame.length [] :=
    ⟨h.message, .inl ⟨h.pending, rfl⟩⟩
  have hdone (t' : T.State) : openFrame { receiver with transport := t', pending := none } frame
      = (.ok (some frame), receiver.received cursor' next t') := by
    unfold openFrame
    rw [hparse]
    dsimp only
    rw [← h.cursor, hcursor]
    dsimp only
    rw [haccept]
    dsimp only
    rw [← h.message, hnext]
    rfl
  have hsealed := sealed_chunks hT ⟨hheader, hlength⟩ rfl hne (by simp)
    (by rw [Nat.zero_add, length_chunks secureFragmentDataLength_pos]) hchunks h.sent h.live
    h.received hassembles hdone
  obtain ⟨t', ht', hfollows⟩ := hsealed.follows
  exact ⟨hsealed.nonempty, hsealed.ciphertexts, receiver.received cursor' next t',
    ⟨hsealed.sent, ht', h.live, rfl, rfl, rfl⟩, hfollows⟩

/-! ## Scripts -/

/-- What opening all packets gives. -/
def sealedScript (frames : List (List UInt8)) (packets : List (List (List UInt8))) :
    List (List UInt8 × Option (List UInt8)) :=
  (List.zipWith frameScript frames packets).flatten

/-- The frames and their packets go together. -/
def Packed (frames : List (List UInt8)) (packets : List (List (List UInt8))) : Prop :=
  List.Forall₂ (fun _ packets ↦ packets ≠ []) frames packets

theorem sealAll_follows (hT : AuthenticatedTransport T record sends receives) {n : Nat}
    {sender sender' receiver : AuthenticatedNoiseChannel T}
    (h : InStep sends receives n sender receiver) {frames : List (List UInt8)}
    {packets : List (List (List UInt8))} (hseal : sender.sealAll frames = (.ok packets, sender')) :
    Packed frames packets
      ∧ (∀ bytes ∈ packets.flatten, ∃ ciphertext, bytes = packet ciphertext)
      ∧ Follows receives n receiver (sealedScript frames packets) := by
  induction frames generalizing n sender receiver packets with
  | nil =>
      cases hseal
      exact ⟨.nil, nofun, .done h.live h.received⟩
  | cons frame rest ih =>
      rw [sealAll] at hseal
      generalize hfirst : sender.sealKps1 frame = first at hseal
      obtain ⟨result, between⟩ := first
      cases result with
      | error error => cases hseal
      | ok front =>
          rw [Attempt.andThen_ok rfl] at hseal
          generalize hothers : between.sealAll rest = others at hseal
          obtain ⟨result, last⟩ := others
          cases result with
          | error error => cases hseal
          | ok others =>
              cases hseal
              obtain ⟨hnonempty, hfront, receiver', hstep, hfollows⟩ := sealed_frame hT h hfirst
              obtain ⟨hpacked, hpackets, hscript⟩ := ih hstep hothers
              refine ⟨.cons hnonempty hpacked, fun bytes hbytes ↦ ?_, hfollows _ hscript⟩
              rw [List.flatten_cons, List.mem_append] at hbytes
              exact hbytes.elim (hfront bytes) (hpackets bytes)

theorem map_fst_frameScript (frame : List UInt8) (packets : List (List UInt8)) :
    (frameScript frame packets).map Prod.fst = packets := by
  fun_induction frameScript frame packets with
  | case1 => rfl
  | case2 packet => rfl
  | case3 packet other rest ih => rw [List.map_cons, ih]

theorem length_frameScript (frame : List UInt8) (packets : List (List UInt8)) :
    (frameScript frame packets).length = packets.length := by
  rw [← List.length_map Prod.fst, map_fst_frameScript]

theorem filterMap_frameScript (frame : List UInt8) {packets : List (List UInt8)} (h : packets ≠ []) :
    (frameScript frame packets).filterMap Prod.snd = [frame] := by
  fun_induction frameScript frame packets with
  | case1 => exact absurd rfl h
  | case2 packet => rfl
  | case3 packet other rest ih => exact ih nofun

/-- Before the last packet of a frame nothing is returned. -/
theorem filterMap_take_frameScript (frame : List UInt8) {packets : List (List UInt8)} {m : Nat}
    (h : m < packets.length) : ((frameScript frame packets).take m).filterMap Prod.snd = [] := by
  induction m generalizing packets with
  | zero => rfl
  | succ m ih =>
      obtain _ | ⟨packet, _ | ⟨other, rest⟩⟩ := packets
      · exact absurd h (Nat.not_lt_zero _)
      · exact absurd h (by simp)
      · exact ih (Nat.lt_of_succ_lt_succ h)

variable {frames : List (List UInt8)} {packets : List (List (List UInt8))}

theorem map_fst_sealedScript (h : Packed frames packets) :
    (sealedScript frames packets).map Prod.fst = packets.flatten := by
  induction h with
  | nil => rfl
  | @cons frame front frames packets hfront hrest ih =>
      rw [sealedScript, List.zipWith_cons_cons, List.flatten_cons, List.map_append,
        map_fst_frameScript, List.flatten_cons, ← ih]
      rfl

/-- The frames that are complete in the first `m` packets. -/
theorem exists_complete (h : Packed frames packets) (m : Nat) :
    ∃ k, ((sealedScript frames packets).take m).filterMap Prod.snd = frames.take k
      ∧ (packets.take k).flatten.length ≤ m
      ∧ (k < frames.length → m < (packets.take (k + 1)).flatten.length) := by
  induction h generalizing m with
  | nil => exact ⟨0, by simp [sealedScript], Nat.zero_le _, nofun⟩
  | @cons frame front frames packets hfront hrest ih =>
      have hscript : sealedScript (frame :: frames) (front :: packets)
          = frameScript frame front ++ sealedScript frames packets := rfl
      have hlength := length_frameScript frame front
      by_cases hm : m < front.length
      · refine ⟨0, ?_, Nat.zero_le _, fun _ ↦ ?_⟩
        · rw [hscript, List.take_append_of_le_length (by omega),
            filterMap_take_frameScript frame hm, List.take_zero]
        · simpa using hm
      · obtain ⟨k, hframes, hle, hlt⟩ := ih (m - front.length)
        refine ⟨k + 1, ?_, ?_, fun hk ↦ ?_⟩
        · rw [hscript, List.take_append, List.take_of_length_le (by omega), hlength,
            List.filterMap_append, filterMap_frameScript frame hfront, hframes]
          rfl
        · rw [List.take_succ_cons, List.flatten_cons, List.length_append]
          omega
        · have := hlt (Nat.lt_of_succ_lt_succ hk)
          rw [List.take_succ_cons, List.flatten_cons, List.length_append]
          omega

/-! ## Deliveries -/

/-- The frames among the results. -/
def returned (results : List (Except NoiseTransportError (Option (List UInt8)))) :
    List (List UInt8) :=
  results.filterMap fun
    | .ok frame => frame
    | .error _ => none

/-- Packets in the order of the script. -/
theorem Follows.run {n : Nat} {script : List (List UInt8 × Option (List UInt8))}
    (h : Follows receives n c script) {good : List (List UInt8)}
    (hgood : good <+: script.map Prod.fst) :
    emits step out c good = (script.take good.length).map (fun entry ↦ .ok entry.2)
      ∧ (run step c good).poisoned = false
      ∧ receives (n + good.length) (run step c good).transport := by
  induction h generalizing good with
  | done hlive hreceives =>
      obtain rfl := List.prefix_nil.mp hgood
      exact ⟨rfl, hlive, hreceives⟩
  | @next n c c' packet frame script hlive hreceives hopen hrest ih =>
      rw [List.map_cons] at hgood
      rcases List.prefix_cons_iff.mp hgood with rfl | ⟨rest, rfl, hfront⟩
      · exact ⟨rfl, hlive, hreceives⟩
      · obtain ⟨hemits, hlive', hreceives'⟩ := ih hfront
        have hstep : step c packet = c' := congrArg Prod.snd hopen
        have hout : out c packet = some (.ok frame) := congrArg (some ∘ Prod.fst) hopen
        refine ⟨?_, ?_, ?_⟩
        · rw [emits, hout, hstep, hemits]
          rfl
        · rw [run_cons, hstep]
          exact hlive'
        · rw [run_cons, hstep, List.length_cons, ← Nat.add_assoc, Nat.add_right_comm]
          exact hreceives'

/-- Behind the error there are only refusals. -/
theorem emits_of_poisoned (h : c.poisoned = true) (rest : List (List UInt8)) :
    emits step out c rest = List.replicate rest.length (.error .channelPoisoned)
      ∧ (Library.run step c rest).poisoned = true := by
  induction rest with
  | nil => exact ⟨rfl, h⟩
  | cons bytes rest ih =>
      have hopen := openPacket_poisoned h bytes
      have hstep : step c bytes = c := congrArg Prod.snd hopen
      have hout : out c bytes = some (.error .channelPoisoned) := congrArg (some ∘ Prod.fst) hopen
      rw [emits, hout, run_cons, hstep, ih.1]
      exact ⟨rfl, ih.2⟩

/-- A list is a front of another, or there is a first element at which it is not. -/
theorem prefix_or_deviates {α : Type} (xs ys : List α) :
    xs <+: ys ∨ ∃ good bad rest, xs = good ++ bad :: rest ∧ good <+: ys ∧ ys[good.length]? ≠ some bad := by
  induction xs generalizing ys with
  | nil => exact .inl List.nil_prefix
  | cons x xs ih =>
      by_cases hfirst : ys[0]? = some x
      · obtain ⟨y, ys, rfl⟩ : ∃ y zs, ys = y :: zs := by
          cases ys with
          | nil => cases hfirst
          | cons y zs => exact ⟨y, zs, rfl⟩
        obtain rfl : y = x := Option.some.inj hfirst
        rcases ih ys with hfront | ⟨good, bad, rest, rfl, hgood, hbad⟩
        · exact .inl (List.cons_prefix_cons.mpr ⟨rfl, hfront⟩)
        · exact .inr ⟨y :: good, bad, rest, rfl, List.cons_prefix_cons.mpr ⟨rfl, hgood⟩, hbad⟩
      · exact .inr ⟨[], x, xs, rfl, List.nil_prefix, hfirst⟩

/-- The peer has got a front of what was sent, and has returned the frames that are complete
in it. -/
structure Returns (receiver : AuthenticatedNoiseChannel T) (frames : List (List UInt8))
    (packets : List (List (List UInt8))) (good : List (List UInt8)) : Prop where
  front : good <+: packets.flatten
  ok : ∀ result ∈ emits step out receiver good, ∃ frame, result = .ok frame
  complete : ∃ k, returned (emits step out receiver good) = frames.take k
    ∧ (packets.take k).flatten <+: good
    ∧ (k < frames.length → ¬(packets.take (k + 1)).flatten <+: good)

theorem flatten_take_front (packets : List (List (List UInt8))) (k : Nat) :
    (packets.take k).flatten <+: packets.flatten := by
  nth_rewrite 2 [← List.take_append_drop k packets]
  rw [List.flatten_append]
  exact List.prefix_append ..

theorem Follows.returns {receiver : AuthenticatedNoiseChannel T} (hpacked : Packed frames packets)
    (h : Follows receives 0 receiver (sealedScript frames packets)) {good : List (List UInt8)}
    (hgood : good <+: packets.flatten) : Returns receiver frames packets good := by
  rw [← map_fst_sealedScript hpacked] at hgood
  obtain ⟨hemits, -, -⟩ := h.run hgood
  rw [map_fst_sealedScript hpacked] at hgood
  obtain ⟨k, hframes, hle, hlt⟩ := exists_complete hpacked good.length
  refine ⟨hgood, fun result hresult ↦ ?_, k, ?_, ?_, fun hk hfront ↦ ?_⟩
  · rw [hemits] at hresult
    obtain ⟨entry, -, rfl⟩ := List.mem_map.mp hresult
    exact ⟨_, rfl⟩
  · rw [hemits, returned, List.filterMap_map, ← hframes]
    rfl
  · exact List.prefix_of_prefix_length_le (flatten_take_front packets k) hgood hle
  · exact absurd (hlt hk) (Nat.not_lt.mpr hfront.length_le)

/-- A fresh channel that is bound to a session. -/
theorem bindKps1Session_new {t : T.State} {sessionNonce inbound outbound : UInt64}
    (h : (new t).bindKps1Session sessionNonce inbound outbound = (.ok (), c)) :
    c = { new t with
      inboundSequence := some ⟨sessionNonce, inbound⟩
      outboundSequence := some ⟨sessionNonce, outbound⟩ } := by
  have hnew {next : UInt64} {cursor : Kps1SequenceCursor}
      (hcursor : Kps1SequenceCursor.new sessionNonce next = .ok cursor) :
      cursor = ⟨sessionNonce, next⟩ := by
    unfold Kps1SequenceCursor.new at hcursor
    simp only [bind_eq_ok, reject_eq_ok, pure_eq_ok] at hcursor
    obtain ⟨-, -, -, -, rfl⟩ := hcursor
    rfl
  unfold bindKps1Session at h
  rw [if_neg (by simp [new])] at h
  cases hin : Kps1SequenceCursor.new sessionNonce inbound with
  | error error =>
      rw [hin] at h
      cases h
  | ok first =>
      rw [hin] at h
      dsimp only at h
      cases hout : Kps1SequenceCursor.new sessionNonce outbound with
      | error error =>
          rw [hout] at h
          cases h
      | ok second =>
          rw [hout] at h
          cases h
          rw [hnew hin, hnew hout]

/-- The peer of a channel returns the frames that were sealed, in order, as far as their packets
are delivered in order; the first packet that is not the next one is an error, and so is everything
behind it. -/
theorem channel_delivery (hT : AuthenticatedTransport T record sends receives) {s r : T.State}
    (hs : sends 0 s) (hr : receives 0 r) {sessionNonce back forth : UInt64}
    {sender sender' receiver : AuthenticatedNoiseChannel T}
    (hsender : (new s).bindKps1Session sessionNonce back forth = (.ok (), sender))
    (hreceiver : (new r).bindKps1Session sessionNonce forth back = (.ok (), receiver))
    (hseal : sender.sealAll frames = (.ok packets, sender')) {delivered : List (List UInt8)}
    (hunforged : Unforged T receives packets.flatten delivered) :
    (delivered = packets.flatten → returned (emits step out receiver delivered) = frames)
      ∧ (Returns receiver frames packets delivered
        ∨ ∃ good bad rest error, delivered = good ++ bad :: rest
          ∧ Returns receiver frames packets good
          ∧ packets.flatten[good.length]? ≠ some bad
          ∧ emits step out receiver delivered
            = emits step out receiver good
              ++ .error error :: List.replicate rest.length (.error .channelPoisoned)
          ∧ (Library.run step receiver delivered).poisoned = true) := by
  have hstep : InStep sends receives 0 sender receiver := by
    rw [bindKps1Session_new hsender, bindKps1Session_new hreceiver]
    exact ⟨hs, hr, rfl, rfl, rfl, rfl⟩
  obtain ⟨hpacked, hpackets, hfollows⟩ := sealAll_follows hT hstep hseal
  constructor
  · rintro rfl
    obtain ⟨-, -, k, hframes, -, hmore⟩ := hfollows.returns hpacked (List.prefix_refl _)
    have hk : frames.length ≤ k := by
      by_contra hk
      exact hmore (Nat.lt_of_not_le hk) (flatten_take_front packets (k + 1))
    rw [hframes, List.take_of_length_le hk]
  · rcases prefix_or_deviates delivered packets.flatten with hfront | ⟨good, bad, rest, rfl, hgood, hbad⟩
    · exact .inl (hfollows.returns hpacked hfront)
    · have hgood' := hgood
      rw [← map_fst_sealedScript hpacked] at hgood'
      obtain ⟨-, hlive, hreceives⟩ := hfollows.run hgood'
      rw [Nat.zero_add] at hreceives
      obtain ⟨⟨error, herror⟩, hpoisoned⟩ := openPacket_other hlive hreceives hunforged hpackets
        (by simp) hbad
      obtain ⟨hrest, hstays⟩ := emits_of_poisoned hpoisoned rest
      refine .inr ⟨good, bad, rest, error, rfl, hfollows.returns hpacked hgood, hbad, ?_, ?_⟩
      · rw [emits_append, emits, out, herror, step, hrest]
        rfl
      · rw [run_append]
        exact hstays

end AuthenticatedNoiseChannel

end Delivery

/-! ## Two receipts -/

/-- What stands for the authentication tag at a nonce. -/
def nonceTag (n : Nat) : List UInt8 := le64 (UInt64.ofNat n) ++ le64 0

/-- A transport that puts the nonce behind the plaintext. -/
def taggedTransport : NoiseTransport where
  State := Nat × Nat
  writeMessage s plaintext :=
    if s.1 + 1 < 2 ^ 64 then some (plaintext ++ nonceTag s.1, (s.1 + 1, s.2)) else none
  readMessage s ciphertext :=
    if s.2 + 1 < 2 ^ 64 ∧ ciphertext.drop (ciphertext.length - 16) = nonceTag s.2 then
      some (ciphertext.take (ciphertext.length - 16), (s.1, s.2 + 1))
    else none

theorem length_nonceTag (n : Nat) : (nonceTag n).length = 16 := rfl

theorem nonceTag_inj {m n : Nat} (hm : m < 2 ^ 64) (hn : n < 2 ^ 64)
    (h : nonceTag m = nonceTag n) : m = n := by
  have hword := (List.append_inj h rfl).1
  have hnat := congrArg UInt64.toNat (Cell.le64_inj.mp hword)
  rwa [UInt64.toNat_ofNat_of_lt' hm, UInt64.toNat_ofNat_of_lt' hn] at hnat

theorem drop_nonceTag (plaintext : List UInt8) (n : Nat) :
    (plaintext ++ nonceTag n).drop ((plaintext ++ nonceTag n).length - 16) = nonceTag n := by
  rw [List.length_append, length_nonceTag, Nat.add_sub_cancel, List.drop_left]

theorem authenticated_taggedTransport :
    AuthenticatedTransport taggedTransport (fun n plaintext ↦ plaintext ++ nonceTag n)
      (fun n s ↦ s.1 = n) (fun n s ↦ s.2 = n) := by
  refine ⟨?_, ?_, ?_⟩
  · rintro n s s' plaintext ciphertext rfl hwrite
    simp only [taggedTransport] at hwrite
    split_ifs at hwrite with hn
    cases hwrite
    exact ⟨hn, rfl, rfl⟩
  · intro n plaintext
    rw [List.length_append, length_nonceTag]
  · rintro n ⟨sent, received⟩ plaintext rfl hn -
    refine ⟨(sent, received + 1), ?_, rfl⟩
    simp only [taggedTransport]
    rw [if_pos ⟨hn, drop_nonceTag plaintext received⟩, List.length_append, length_nonceTag,
      Nat.add_sub_cancel, List.take_left]

/-- Packets that were sent are not forged. -/
theorem unforged_taggedTransport {sent delivered : List (List UInt8)}
    (hsent : ∀ n genuine, sent[n]? = some genuine →
      n < 2 ^ 64 ∧ ∃ plaintext, genuine.drop 4 = plaintext ++ nonceTag n)
    (hdelivered : ∀ packet ∈ delivered, packet ∈ sent) :
    Unforged taggedTransport (fun n s ↦ s.2 = n) sent delivered := by
  rintro packet hpacket n ⟨a, b⟩ rfl hother
  obtain ⟨m, hm⟩ := List.mem_iff_getElem?.mp (hdelivered packet hpacket)
  obtain ⟨hlt, plaintext, hplaintext⟩ := hsent m packet hm
  simp only [taggedTransport]
  rw [if_neg]
  rintro ⟨hn, htag⟩
  rw [hplaintext, drop_nonceTag] at htag
  obtain rfl := nonceTag_inj hlt (by omega) htag
  exact hother packet hm rfl

/-- A receipt of session 42. -/
def receipt (sequence : UInt64) : DecodedKps1Frame := ⟨receiptHeader 42 sequence, []⟩

/-- The one packet of a receipt. -/
def receiptPacket (n : Nat) (messageId sequence : UInt64) : List UInt8 :=
  packet (fragment messageId 48 0 (receipt sequence).bytes true ++ nonceTag n)

theorem parse_receipt {sequence : UInt64} (h : sequence ≠ 0) :
    parseKps1Frame (receipt sequence).bytes = .ok (receipt sequence) := by
  refine parseKps1Frame_eq_ok.mpr ⟨⟨?_, rfl⟩, rfl⟩
  unfold Kps1Header.validate
  have hflags : (receipt sequence).header.flags &&& kps1RequiredFlagMask
      &&& ~~~kps1SupportedRequiredFlags = 0 := by
    show (0 : UInt32) &&& kps1RequiredFlagMask &&& ~~~kps1SupportedRequiredFlags = 0
    decide
  rw [reject_bind (not_not.mpr hflags), reject_bind (show (receipt sequence).header.sequence ≠ 0 from h)]
  rfl

theorem length_receipt (sequence : UInt64) : (receipt sequence).bytes.length = 48 :=
  (eq_bytes_iff.mp rfl).1

/-- A channel at a nonce that seals a receipt. -/
def receiptChannel (n : Nat) (messageId sequence : UInt64) :
    AuthenticatedNoiseChannel taggedTransport :=
  { AuthenticatedNoiseChannel.new ((n, 0) : Nat × Nat) with
    inboundSequence := some ⟨42, 1⟩
    outboundSequence := some ⟨42, sequence⟩
    nextSendMessage := messageId }

theorem sealKps1_receipt {n : Nat} {messageId sequence : UInt64} (hsequence : sequence ≠ 0)
    (hn : n + 1 < 2 ^ 64) (hmessage : messageId.toNat + 1 < 2 ^ 64)
    (hlast : sequence.toNat + 1 < 2 ^ 64) :
    (receiptChannel n messageId sequence).sealKps1 (receipt sequence).bytes =
      (.ok [receiptPacket n messageId sequence],
        receiptChannel (n + 1) (messageId + 1) (sequence + 1)) := by
  have hchunks : chunks secureFragmentDataLength (receipt sequence).bytes = [(receipt sequence).bytes] := by
    refine chunks_of_le (by decide) ?_ ?_
    · rw [← List.length_pos_iff, length_receipt]
      decide
    · rw [length_receipt]
      decide
  have haccept : Kps1SequenceCursor.accept ⟨42, sequence⟩ (receipt sequence).header
      = (.ok (), ⟨42, sequence + 1⟩) := by
    have hsum : checkedAdd64 sequence 1 = some (sequence + 1) := if_pos hlast
    simp [Kps1SequenceCursor.accept, receipt, receiptHeader, hsum]
  have hnext : checkedAdd64 messageId 1 = some (messageId + 1) := if_pos hmessage
  have hwrite : taggedTransport.writeMessage (n, 0) (fragment messageId 48 0 (receipt sequence).bytes true)
      = some (fragment messageId 48 0 (receipt sequence).bytes true ++ nonceTag n, (n + 1, 0)) :=
    if_pos hn
  have hlength : (fragment messageId 48 0 (receipt sequence).bytes true ++ nonceTag n).length = 88 := by
    rw [List.length_append, fragment, Layout.length_fill fits_fragment, length_receipt]
    rfl
  have hseal : sealChunks taggedTransport messageId 48 1 0 [(receipt sequence).bytes] ((n, 0) : Nat × Nat)
      = (.ok [receiptPacket n messageId sequence], ((n + 1, 0) : Nat × Nat)) := by
    have hshort : ¬maxNoiseCiphertextLength
        < (fragment messageId 48 0 (receipt sequence).bytes true ++ nonceTag n).length := by
      rw [hlength]
      decide
    simp only [sealChunks, Nat.zero_mul, Nat.zero_add, decide_true, hwrite, if_neg hshort]
    rfl
  have hinner : (receiptChannel n messageId sequence).sealKps1Inner (receipt sequence).bytes =
      (.ok [receiptPacket n messageId sequence],
        receiptChannel (n + 1) (messageId + 1) (sequence + 1)) := by
    have hcount : (48 + (secureFragmentDataLength - 1)) / secureFragmentDataLength = 1 := by decide
    unfold AuthenticatedNoiseChannel.sealKps1Inner
    rw [if_neg (by rw [length_receipt]; decide), parse_receipt hsequence]
    simp only [receiptChannel, haccept, hnext, length_receipt, hchunks, hcount]
    simp only [AuthenticatedNoiseChannel.new, hseal]
  unfold AuthenticatedNoiseChannel.sealKps1
  rw [if_neg (by simp [receiptChannel, AuthenticatedNoiseChannel.new]), hinner]

theorem sealAll_receipts :
    (receiptChannel 0 1 1).sealAll [(receipt 1).bytes, (receipt 2).bytes] =
      (.ok [[receiptPacket 0 1 1], [receiptPacket 1 2 2]], receiptChannel 2 3 3) := by
  have hfirst : (receiptChannel 0 1 1).sealKps1 (receipt 1).bytes =
      (.ok [receiptPacket 0 1 1], receiptChannel 1 2 2) :=
    sealKps1_receipt (by decide) (by decide) (by decide) (by decide)
  have hsecond : (receiptChannel 1 2 2).sealKps1 (receipt 2).bytes =
      (.ok [receiptPacket 1 2 2], receiptChannel 2 3 3) :=
    sealKps1_receipt (by decide) (by decide) (by decide) (by decide)
  simp only [AuthenticatedNoiseChannel.sealAll, hfirst, hsecond, Attempt.andThen]

theorem bindKps1Session_receipts :
    (AuthenticatedNoiseChannel.new ((0, 0) : Nat × Nat) :
      AuthenticatedNoiseChannel taggedTransport).bindKps1Session 42 1 1
        = (.ok (), receiptChannel 0 1 1) := rfl

theorem unforged_receipts {delivered : List (List UInt8)}
    (h : ∀ packet ∈ delivered, packet ∈ [receiptPacket 0 1 1, receiptPacket 1 2 2]) :
    Unforged taggedTransport (fun n s ↦ s.2 = n)
      [[receiptPacket 0 1 1], [receiptPacket 1 2 2]].flatten delivered := by
  have hflatten (first second : List UInt8) : [[first], [second]].flatten = [first, second] := rfl
  rw [hflatten]
  refine unforged_taggedTransport ?_ h
  rintro (_ | _ | n) genuine hgenuine
  · obtain rfl := Option.some.inj hgenuine
    rw [receiptPacket, drop_packet]
    exact ⟨by decide, _, rfl⟩
  · obtain rfl := Option.some.inj hgenuine
    rw [receiptPacket, drop_packet]
    exact ⟨by decide, _, rfl⟩
  · exact absurd hgenuine nofun

namespace AuthenticatedNoiseChannel

/-- Two receipts, sealed and delivered. -/
theorem channel_delivery_receipts :
    returned (emits step out (receiptChannel 0 1 1) [receiptPacket 0 1 1, receiptPacket 1 2 2])
      = [(receipt 1).bytes, (receipt 2).bytes] := by
  have hunforged := unforged_receipts fun (_ : List UInt8)
    (h : _ ∈ [receiptPacket 0 1 1, receiptPacket 1 2 2]) ↦ h
  obtain ⟨hall, -⟩ := channel_delivery authenticated_taggedTransport rfl rfl bindKps1Session_receipts
    bindKps1Session_receipts sealAll_receipts hunforged
  exact hall (by simp)

/-- A delivery that is cut short is no error. -/
theorem cut_short_is_no_error :
    ¬∀ (T : NoiseTransport) (record : Nat → List UInt8 → List UInt8)
      (sends receives : Nat → T.State → Prop),
      AuthenticatedTransport T record sends receives → ∀ s r : T.State, sends 0 s → receives 0 r →
        ∀ (sessionNonce back forth : UInt64) (sender sender' receiver : AuthenticatedNoiseChannel T)
          (frames : List (List UInt8)) (packets : List (List (List UInt8)))
          (delivered : List (List UInt8)),
          (new s).bindKps1Session sessionNonce back forth = (.ok (), sender) →
            (new r).bindKps1Session sessionNonce forth back = (.ok (), receiver) →
              sender.sealAll frames = (.ok packets, sender') →
                Unforged T receives packets.flatten delivered → delivered ≠ packets.flatten →
                  ∃ error, .error error ∈ emits step out receiver delivered := by
  intro h
  obtain ⟨error, herror⟩ := h taggedTransport _ _ _ authenticated_taggedTransport (0, 0) (0, 0) rfl rfl
    42 1 1 _ _ _ _ _ [receiptPacket 0 1 1] bindKps1Session_receipts bindKps1Session_receipts
    sealAll_receipts (unforged_receipts fun _ h ↦ by simp_all) (by simp)
  have hstep : InStep (T := taggedTransport) (fun n s ↦ s.1 = n) (fun n s ↦ s.2 = n) 0
      (receiptChannel 0 1 1) (receiptChannel 0 1 1) := ⟨rfl, rfl, rfl, rfl, rfl, rfl⟩
  obtain ⟨hpacked, -, hfollows⟩ := sealAll_follows authenticated_taggedTransport hstep sealAll_receipts
  obtain ⟨frame, hframe⟩ := (hfollows.returns hpacked ⟨[receiptPacket 1 2 2], rfl⟩).ok _ herror
  cases hframe

end AuthenticatedNoiseChannel

end Ksa64.Broker
