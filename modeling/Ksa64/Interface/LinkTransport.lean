import Ksa64.Library.Poll
import Ksa64.Interface.Link

/-!
# The link pumps

The transmitter stages one encoded frame at a time and writes it as far as the transport takes
it; the receiver collects bytes up to a zero and parses what it has.  `LinkSystem` is the two
of them around a transport: a schedule says when a frame is staged, how many bytes the
transport takes at a time and how many it gives, so that frames are cut up in every way.

What is in the receiver and on the way is at all times the frames that are not yet delivered
(`LinkSystem.Inv`), which gives `link_delivery`.
-/

namespace Ksa64.Interface

open Ksa64.Library

inductive TransportError where
  | disconnected
  | fault
  | capacity
deriving DecidableEq

inductive ReceiveError where
  | transport (error : TransportError)
  | codec (error : LinkCodecError)
  | overflow
deriving DecidableEq

/-! ## The receiver -/

/-- The bytes since the last delimiter, and whether there were too many of them. -/
structure LinkReceiver where
  encoded : List UInt8
  overflow : Bool
deriving DecidableEq

namespace LinkReceiver

def new : LinkReceiver where
  encoded := []
  overflow := false

/-- One byte. -/
def receive (rx : LinkReceiver) (byte : UInt8) :
    LinkReceiver × Option (Except ReceiveError LinkFrame) :=
  if byte ≠ 0 then
    if rx.encoded.length + 1 < klf6MaxEncoded then
      ({ rx with encoded := rx.encoded ++ [byte] }, none)
    else ({ rx with overflow := true }, none)
  else if rx.overflow then ({ encoded := [], overflow := false }, some (.error .overflow))
  else if rx.encoded.length = 0 then (rx, none)
  else
    ({ rx with encoded := [] },
      some ((parseLinkFrame (rx.encoded ++ [0]) klf6MaxDecoded).mapError .codec))

def step (rx : LinkReceiver) (byte : UInt8) : LinkReceiver := (rx.receive byte).1

def out (rx : LinkReceiver) (byte : UInt8) : Option (Except ReceiveError LinkFrame) :=
  (rx.receive byte).2

/-- Read from a transport that gives some bytes and then none, or an error.  The bytes that
are left in the transport come last. -/
def poll (rx : LinkReceiver) (available : List UInt8) (ending : Option TransportError) :
    Except ReceiveError (Option LinkFrame) × LinkReceiver × List UInt8 :=
  match Library.poll step out rx available with
  | (some result, rx, left) => (result.map some, rx, left)
  | (none, rx, left) =>
      (match ending with
        | some error => .error (.transport error)
        | none => .ok none, rx, left)

/-- After a delimiter, the receiver starts afresh. -/
theorem step_zero (rx : LinkReceiver) : rx.step 0 = new := by
  obtain ⟨encoded, overflow⟩ := rx
  unfold step receive
  rw [if_neg (not_not.mpr rfl)]
  dsimp only
  split_ifs with hoverflow hempty
  · rfl
  · rw [Bool.not_eq_true] at hoverflow
    rw [List.length_eq_zero_iff.mp hempty, hoverflow]
    rfl
  · rw [Bool.not_eq_true] at hoverflow
    rw [hoverflow]
    rfl

/-- Nothing is put out within a frame. -/
theorem out_of_ne_zero {rx : LinkReceiver} {byte : UInt8} (h : byte ≠ 0) : rx.out byte = none := by
  unfold out receive
  rw [if_pos h]
  split_ifs <;> rfl

/-- At most one result for each delimiter. -/
theorem length_emits_le (rx : LinkReceiver) (bytes : List UInt8) :
    (emits step out rx bytes).length ≤ bytes.count 0 := by
  induction bytes generalizing rx with
  | nil => exact Nat.le_refl _
  | cons byte rest ih =>
      have hrest := ih (rx.step byte)
      rw [emits, List.length_append, List.count_cons]
      by_cases hzero : byte = 0
      · have hout : (rx.out byte).toList.length ≤ 1 := by cases rx.out byte <;> simp
        rw [if_pos (by simpa using hzero)]
        omega
      · rw [out_of_ne_zero hzero, if_neg (by simpa using hzero)]
        simpa using hrest

/-- Bytes without a delimiter are collected, as long as there is room for them. -/
theorem run_of_nonzero {held bytes : List UInt8} (hbytes : (0 : UInt8) ∉ bytes)
    (hroom : held.length + bytes.length < klf6MaxEncoded) :
    run step ⟨held, false⟩ bytes = ⟨held ++ bytes, false⟩
      ∧ emits step out ⟨held, false⟩ bytes = [] := by
  induction bytes generalizing held with
  | nil => exact ⟨by rw [run_nil, List.append_nil], rfl⟩
  | cons byte rest ih =>
      rw [List.mem_cons, not_or] at hbytes
      rw [List.length_cons] at hroom
      have hstep : step ⟨held, false⟩ byte = ⟨held ++ [byte], false⟩ := by
        unfold step receive
        rw [if_pos (Ne.symm hbytes.1)]
        dsimp only
        rw [if_pos (by omega)]
      obtain ⟨hrun, hemits⟩ := @ih (held ++ [byte]) hbytes.2 (by simp; omega)
      rw [run_cons, emits, hstep, hrun, hemits, out_of_ne_zero (Ne.symm hbytes.1),
        List.append_assoc, List.singleton_append]
      exact ⟨rfl, rfl⟩

/-- A frame is delivered with its delimiter. -/
theorem run_encoded {frame : LinkFrame} (h : frame.Valid) :
    run step new frame.encoded = new ∧ emits step out new frame.encoded = [.ok frame] := by
  have hlength := length_encoded_le h
  have hparse := parseLinkFrame_encoded h
  rw [LinkFrame.encoded] at hlength hparse ⊢
  rw [List.length_append, List.length_singleton] at hlength
  obtain ⟨hrun, hemits⟩ := run_of_nonzero (Cobs.zero_notMem_encode frame.decoded)
    (show ([] : List UInt8).length + _ < _ by rw [List.length_nil]; omega)
  have hne : ¬(Cobs.encode frame.decoded).length = 0 := by
    have hlt := Cobs.length_lt_encodeFrom [] frame.decoded
    exact Nat.ne_of_gt hlt
  rw [run_append, emits_append, new, hrun, hemits]
  refine ⟨step_zero _, ?_⟩
  simp only [emits, out, receive, List.nil_append]
  rw [if_neg (not_not.mpr rfl), if_neg Bool.false_ne_true, if_neg hne, hparse]
  rfl

/-- What is put out is not about the transport. -/
theorem out_ne_transport {rx : LinkReceiver} {byte : UInt8} {error : TransportError} :
    rx.out byte ≠ some (.error (.transport error)) := by
  unfold out receive
  split_ifs
  · exact nofun
  · exact nofun
  · exact nofun
  · exact nofun
  · cases parseLinkFrame (rx.encoded ++ [0]) klf6MaxDecoded <;> exact nofun

theorem emits_ne_transport {rx : LinkReceiver} {bytes : List UInt8} {error : TransportError} :
    emits step out rx bytes ≠ [.error (.transport error)] := by
  induction bytes generalizing rx with
  | nil => exact nofun
  | cons byte rest ih =>
      rw [emits]
      cases hout : rx.out byte with
      | none => exact ih
      | some result =>
          intro h
          rw [Option.toList_some, List.singleton_append, List.cons.injEq] at h
          exact out_ne_transport (hout.trans (congrArg some h.1))

/-- However the bytes are cut up, a poll reads some of them, at least one if there is one, and
returns what they put out. -/
theorem poll_eq (rx : LinkReceiver) (available : List UInt8) (ending : Option TransportError) :
    ∃ used, available = used ++ (rx.poll available ending).2.2
      ∧ (rx.poll available ending).2.1 = run step rx used
      ∧ (available ≠ [] → used ≠ [])
      ∧ match (rx.poll available ending).1 with
        | .ok none => emits step out rx used = []
        | .ok (some frame) => emits step out rx used = [.ok frame]
        | .error (.transport _) => emits step out rx used = []
        | .error error => emits step out rx used = [.error error] := by
  obtain ⟨used, hused, hrun, hemits, -, hne⟩ := Library.poll_eq step out rx available
  unfold poll
  generalize Library.poll step out rx available = result at hused hrun hemits
  obtain ⟨_ | result, rx', left⟩ := result
  · refine ⟨used, hused, hrun, hne, ?_⟩
    cases ending with
    | none => exact hemits
    | some error => exact hemits
  · refine ⟨used, hused, hrun, hne, ?_⟩
    obtain (error | error | _) | frame := result
    · exact absurd hemits emits_ne_transport
    · exact hemits
    · exact hemits
    · exact hemits

end LinkReceiver

/-! ## The transmitter -/

/-- The frame that is being written, and how much of it has been. -/
structure LinkTransmitter where
  encoded : List UInt8
  offset : Nat
deriving DecidableEq

namespace LinkTransmitter

def new : LinkTransmitter where
  encoded := []
  offset := 0

def IsIdle (tx : LinkTransmitter) : Prop := tx.offset = tx.encoded.length

instance (tx : LinkTransmitter) : Decidable tx.IsIdle := inferInstanceAs (Decidable (_ = _))

/-- What the buffers held before does not matter. -/
def stage (tx : LinkTransmitter) (frame : LinkFrame) : Except LinkCodecError LinkTransmitter := do
  reject (¬tx.IsIdle) .capacity
  let encoded ← writeLinkFrame frame (List.replicate klf6MaxDecoded 0)
    (List.replicate klf6MaxEncoded 0)
  pure { encoded := encoded, offset := 0 }

/-- The bytes that are still to be written. -/
def unsent (tx : LinkTransmitter) : List UInt8 := tx.encoded.drop tx.offset

/-- Write to a transport that takes some bytes and then no more, or fails.  The bytes that
were written come last. -/
def poll (tx : LinkTransmitter) (room : Nat) (refusal : Option TransportError) :
    Except TransportError Bool × LinkTransmitter × List UInt8 :=
  let written := tx.unsent.take room
  let result := if tx.unsent.length ≤ room then .ok true else
    match refusal with
    | some error => .error error
    | none => .ok false
  (result, { tx with offset := tx.offset + written.length }, written)

/-- A poll writes the front of what is still to be written. -/
theorem unsent_poll (tx : LinkTransmitter) (room : Nat) (refusal : Option TransportError) :
    (tx.poll room refusal).2.2 ++ (tx.poll room refusal).2.1.unsent = tx.unsent := by
  unfold poll unsent
  rw [← List.drop_drop, List.length_take]
  rcases Nat.le_total room (tx.encoded.drop tx.offset).length with hle | hle
  · rw [Nat.min_eq_left hle, List.take_append_drop]
  · rw [Nat.min_eq_right hle, List.take_of_length_le hle, List.drop_length, List.append_nil]

/-- When idle, a valid frame is staged whole. -/
theorem stage_eq_ok {tx : LinkTransmitter} {frame : LinkFrame} (h : frame.Valid) (hidle : tx.IsIdle) :
    tx.stage frame = .ok { encoded := frame.encoded, offset := 0 } := by
  rw [stage, reject_bind (not_not.mpr hidle), bind_of_ok (writeLinkFrame_eq_ok h ?_ ?_)]
  · rfl
  · exact Nat.le_of_eq List.length_replicate.symm
  · exact Nat.le_of_eq List.length_replicate.symm

end LinkTransmitter

/-! ## The link -/

/-- The frames that wait to be staged, the transmitter, the bytes on the way, and the receiver
with all that it has read and returned. -/
structure LinkSystem where
  pending : List LinkFrame
  transmitter : LinkTransmitter
  wire : List UInt8
  receiver : LinkReceiver
  received : List UInt8
  results : List (Except ReceiveError LinkFrame)

inductive LinkStep where
  | stage
  | transmit (room : Nat) (refusal : Option TransportError)
  | receive (available : Nat) (ending : Option TransportError)

namespace LinkSystem

/-- Both ends are new, and there is something on the way already. -/
def start (noise : List UInt8) (frames : List LinkFrame) : LinkSystem where
  pending := frames
  transmitter := .new
  wire := noise
  receiver := .new
  received := []
  results := []

/-- A frame that could not be staged stays pending.  A poll that ends without a result or with an
error of the transport is tried again. -/
def step (s : LinkSystem) : LinkStep → LinkSystem
  | .stage =>
      match s.pending with
      | [] => s
      | frame :: pending =>
          match s.transmitter.stage frame with
          | .ok transmitter => { s with pending := pending, transmitter := transmitter }
          | .error _ => s
  | .transmit room refusal =>
      let (_, transmitter, written) := s.transmitter.poll room refusal
      { s with transmitter := transmitter, wire := s.wire ++ written }
  | .receive available ending =>
      let (result, receiver, left) := s.receiver.poll (s.wire.take available) ending
      { s with
        receiver := receiver
        wire := left ++ s.wire.drop available
        received := s.received ++ (s.wire.take available).take
          ((s.wire.take available).length - left.length)
        results := s.results ++
          match result with
          | .ok none => []
          | .ok (some frame) => [.ok frame]
          | .error (.transport _) => []
          | .error error => [.error error] }

/-- Nothing is on its way any more. -/
structure Drained (s : LinkSystem) : Prop where
  pending : s.pending = []
  transmitter : s.transmitter.unsent = []
  wire : s.wire = []

/-- The receiver has done what the bytes it has read make it do, and the bytes read, those on
the way and those of the frames to come are the bytes that were there to be sent. -/
structure Inv (bytes : List UInt8) (s : LinkSystem) : Prop where
  receiver : s.receiver = run LinkReceiver.step .new s.received
  results : s.results = emits LinkReceiver.step LinkReceiver.out .new s.received
  valid : ∀ frame ∈ s.pending, frame.Valid
  offset : s.transmitter.offset ≤ s.transmitter.encoded.length
  bytes : s.received ++ s.wire ++ s.transmitter.unsent
    ++ s.pending.flatMap LinkFrame.encoded = bytes

variable {s : LinkSystem} {bytes : List UInt8}

/-- A transmitter that has nothing left to write is idle. -/
theorem isIdle_iff (h : s.transmitter.offset ≤ s.transmitter.encoded.length) :
    s.transmitter.IsIdle ↔ s.transmitter.unsent = [] := by
  unfold LinkTransmitter.IsIdle LinkTransmitter.unsent
  rw [List.drop_eq_nil_iff]
  omega

/-- What a receive step does to an invariant state. -/
theorem receive_eq (h : Inv bytes s) (available : Nat) (ending : Option TransportError) :
    ∃ used left, s.wire = used ++ left ∧ (s.wire ≠ [] → 0 < available → used ≠ [])
      ∧ s.step (.receive available ending) = { s with
        receiver := run LinkReceiver.step .new (s.received ++ used)
        wire := left
        received := s.received ++ used
        results := emits LinkReceiver.step LinkReceiver.out .new (s.received ++ used) } := by
  obtain ⟨used, hused, hrun, hne, hresult⟩ :=
    LinkReceiver.poll_eq s.receiver (s.wire.take available) ending
  simp only [step]
  generalize s.receiver.poll (s.wire.take available) ending = polled at hused hrun hresult
  obtain ⟨result, receiver, left⟩ := polled
  refine ⟨used, left ++ s.wire.drop available, ?_, ?_, ?_⟩
  · rw [← List.append_assoc, ← hused, List.take_append_drop]
  · intro hwire havailable
    refine hne fun htake ↦ ?_
    rcases List.take_eq_nil_iff.mp htake with hzero | hnil
    · omega
    · exact hwire hnil
  · have htake : (s.wire.take available).take ((s.wire.take available).length - left.length) = used := by
      rw [hused, List.length_append, Nat.add_sub_cancel, List.take_left]
    dsimp only at hrun hresult ⊢
    rw [htake, hrun, run_append, emits_append, ← h.receiver, ← h.results]
    obtain (error | error | _) | _ | frame := result <;> rw [hresult]

/-- What a transmit step does: the front of what is still to be written goes on the wire. -/
theorem inv_transmit (h : Inv bytes s) (room : Nat) (refusal : Option TransportError) :
    Inv bytes (s.step (.transmit room refusal)) := by
  have hunsent := s.transmitter.unsent_poll room refusal
  simp only [step]
  refine ⟨h.receiver, h.results, h.valid, ?_, ?_⟩
  · have hoffset := h.offset
    simp only [LinkTransmitter.poll, LinkTransmitter.unsent, List.length_take, List.length_drop]
    omega
  · rw [← h.bytes, ← hunsent]
    simp only [List.append_assoc]

theorem inv_stage (h : Inv bytes s) : Inv bytes (s.step .stage) := by
  simp only [step]
  cases hpending : s.pending with
  | nil => exact h
  | cons frame pending =>
      dsimp only
      cases hstage : s.transmitter.stage frame with
      | error error => exact h
      | ok transmitter =>
          obtain ⟨_, hidle, -⟩ := bind_eq_ok.mp hstage
          have hidle := not_not.mp (reject_eq_ok.mp hidle)
          have hvalid := h.valid
          have hbytes := h.bytes
          rw [hpending] at hvalid hbytes
          rw [LinkTransmitter.stage_eq_ok (hvalid frame List.mem_cons_self) hidle] at hstage
          cases hstage
          refine ⟨h.receiver, h.results, fun frame hframe ↦ hvalid frame (.tail _ hframe),
            Nat.zero_le _, ?_⟩
          rw [← hbytes, (isIdle_iff h.offset).mp hidle]
          simp [LinkTransmitter.unsent]

theorem inv_step (h : Inv bytes s) (i : LinkStep) : Inv bytes (s.step i) := by
  cases i with
  | stage => exact inv_stage h
  | transmit room refusal => exact inv_transmit h room refusal
  | receive available ending =>
      obtain ⟨used, left, hwire, -, hstep⟩ := receive_eq h available ending
      rw [hstep]
      refine ⟨rfl, rfl, h.valid, h.offset, ?_⟩
      rw [← h.bytes, hwire]
      simp only [List.append_assoc]

theorem inv_start (noise : List UInt8) {frames : List LinkFrame}
    (h : ∀ frame ∈ frames, frame.Valid) :
    Inv (noise ++ frames.flatMap LinkFrame.encoded) (start noise frames) :=
  ⟨rfl, rfl, h, Nat.le_refl _, by simp [start, LinkTransmitter.new, LinkTransmitter.unsent]⟩

theorem inv_run (noise : List UInt8) {frames : List LinkFrame}
    (h : ∀ frame ∈ frames, frame.Valid) (steps : List LinkStep) :
    Inv (noise ++ frames.flatMap LinkFrame.encoded) (run step (start noise frames) steps) :=
  run_invariant step (Inv _) (fun _ i hs ↦ inv_step hs i) (inv_start noise h) steps

/-- The receiver behind a delimiter, or at the very beginning, delivers the frames that come. -/
theorem run_frames {frames : List LinkFrame} (h : ∀ frame ∈ frames, frame.Valid) :
    run LinkReceiver.step .new (frames.flatMap LinkFrame.encoded) = .new
      ∧ emits LinkReceiver.step LinkReceiver.out .new (frames.flatMap LinkFrame.encoded)
        = frames.map .ok := by
  induction frames with
  | nil => exact ⟨rfl, rfl⟩
  | cons frame frames ih =>
      obtain ⟨hrun, hemits⟩ := LinkReceiver.run_encoded (h frame List.mem_cons_self)
      obtain ⟨hrest, hresults⟩ := ih fun frame hframe ↦ h frame (.tail _ hframe)
      rw [List.flatMap_cons, run_append, emits_append, hrun, hemits, hrest, hresults]
      exact ⟨rfl, rfl⟩

/-- What has been returned so far is the front of what all the bytes make the receiver return,
and all of it once nothing is on its way. -/
theorem results_eq (h : Inv bytes s) :
    s.results <+: emits LinkReceiver.step LinkReceiver.out .new bytes
      ∧ (s.Drained → s.results = emits LinkReceiver.step LinkReceiver.out .new bytes) := by
  rw [h.results, ← h.bytes]
  constructor
  · rw [List.append_assoc, List.append_assoc, emits_append]
    exact List.prefix_append ..
  · rintro ⟨hpending, hunsent, hwire⟩
    rw [hpending, hunsent, hwire]
    simp

/-- What is on the wire can be read. -/
theorem exists_wire_nil (h : Inv bytes s) :
    ∃ steps, (run step s steps).wire = [] ∧ (run step s steps).pending = s.pending
      ∧ (run step s steps).transmitter = s.transmitter := by
  induction hn : s.wire.length using Nat.strongRecOn generalizing s with
  | ind n ih =>
      by_cases hwire : s.wire = []
      · exact ⟨[], hwire, rfl, rfl⟩
      · obtain ⟨used, left, hused, hne, hstep⟩ := receive_eq h s.wire.length none
        have hpos := List.length_pos_of_ne_nil (hne hwire (List.length_pos_of_ne_nil hwire))
        have hlength := congrArg List.length hused
        rw [List.length_append] at hlength
        have hnext := inv_step h (.receive s.wire.length none)
        obtain ⟨steps, hsteps⟩ := ih left.length (by omega) hnext (by rw [hstep])
        rw [hstep] at hsteps
        exact ⟨.receive s.wire.length none :: steps, by rw [run_cons, hstep]; exact hsteps⟩

/-- What is staged can be written. -/
theorem unsent_transmit (s : LinkSystem) :
    (s.step (.transmit s.transmitter.unsent.length none)).transmitter.unsent = [] := by
  have hunsent := s.transmitter.unsent_poll s.transmitter.unsent.length none
  have hwritten : (s.transmitter.poll s.transmitter.unsent.length none).2.2
      = s.transmitter.unsent := List.take_length
  rw [hwritten] at hunsent
  exact List.append_cancel_left (hunsent.trans (List.append_nil _).symm)

/-- An idle transmitter takes the next frame. -/
theorem pending_stage (h : Inv bytes s) (hidle : s.transmitter.unsent = []) :
    (s.step .stage).pending = s.pending.tail := by
  simp only [step]
  cases hpending : s.pending with
  | nil => exact hpending
  | cons frame pending =>
      have hvalid := h.valid frame (by rw [hpending]; exact List.mem_cons_self)
      dsimp only
      rw [LinkTransmitter.stage_eq_ok hvalid ((isIdle_iff h.offset).mpr hidle)]
      rfl

/-- Every schedule can be continued until nothing is on its way. -/
theorem exists_drained (h : Inv bytes s) : ∃ steps, (run step s steps).Drained := by
  have htransmit := inv_step h (.transmit s.transmitter.unsent.length none)
  have hunsent := unsent_transmit s
  induction hpending : s.pending generalizing s with
  | nil =>
      obtain ⟨steps, hwire, hpending', htransmitter⟩ := exists_wire_nil htransmit
      refine ⟨_ :: steps, hpending'.trans hpending, ?_, hwire⟩
      rw [run_cons, htransmitter, hunsent]
  | cons frame pending ih =>
      have hstage := inv_step htransmit .stage
      obtain ⟨steps, hdrained⟩ := ih hstage (inv_step hstage _) (unsent_transmit _)
        ((pending_stage htransmit hunsent).trans (congrArg List.tail hpending))
      exact ⟨.transmit s.transmitter.unsent.length none :: .stage :: steps, hdrained⟩

/-- Behind some earlier results the frames are delivered as they are and in order, all of them
once nothing is on its way, and things can be brought to that. -/
structure Delivers (before : List (Except ReceiveError LinkFrame)) (frames : List LinkFrame)
    (s : LinkSystem) : Prop where
  inOrder : s.results <+: before ++ frames.map .ok
  all : s.Drained → s.results = before ++ frames.map .ok
  live : ∃ steps, (run step s steps).Drained

/-- Frames that are pushed through the link are delivered, however a schedule cuts them up.
Noise that a delimiter ends does not keep a frame from being delivered, and there is at most one
result, so at most one error, for each delimiter read. -/
theorem link_delivery (frames : List LinkFrame) (h : ∀ frame ∈ frames, frame.Valid)
    (steps : List LinkStep) :
    Delivers [] frames (run step (start [] frames) steps)
      ∧ ∀ noise : List UInt8,
        (∃ before, Delivers before frames (run step (start (noise ++ [0]) frames) steps)
            ∧ before.length ≤ (noise ++ [0]).count 0)
          ∧ (run step (start (noise ++ [0]) frames) steps).results.length
            ≤ (run step (start (noise ++ [0]) frames) steps).received.count 0 := by
  obtain ⟨-, hemits⟩ := run_frames h
  constructor
  · have hinv := inv_run [] h steps
    obtain ⟨hfront, hdrained⟩ := results_eq hinv
    rw [List.nil_append, hemits] at hfront hdrained
    exact ⟨hfront, hdrained, exists_drained hinv⟩
  · intro noise
    have hinv := inv_run (noise ++ [0]) h steps
    obtain ⟨hfront, hdrained⟩ := results_eq hinv
    rw [emits_append, run_concat, LinkReceiver.step_zero, hemits] at hfront hdrained
    refine ⟨⟨_, ⟨hfront, hdrained, exists_drained hinv⟩, LinkReceiver.length_emits_le _ _⟩, ?_⟩
    rw [hinv.results]
    exact LinkReceiver.length_emits_le _ _

/-- A heartbeat without a payload. -/
def heartbeat : LinkFrame where
  header := {
    recordType := .heartbeat
    flags := 0
    sessionId := 1
    sequence := 1
    acknowledgement := 0
    measurementEpoch := 0
    productionEpoch := 0
    effectiveEpoch := 0 }
  payload := []

theorem link_delivery_heartbeat :
    Delivers [] [heartbeat] (run step (start [] [heartbeat]) [.stage])
      ∧ ∀ noise : List UInt8,
        (∃ before, Delivers before [heartbeat] (run step (start (noise ++ [0]) [heartbeat]) [.stage])
            ∧ before.length ≤ (noise ++ [0]).count 0)
          ∧ (run step (start (noise ++ [0]) [heartbeat]) [.stage]).results.length
            ≤ (run step (start (noise ++ [0]) [heartbeat]) [.stage]).received.count 0 :=
  link_delivery [heartbeat]
    (fun frame hframe ↦ by
      rw [List.mem_singleton.mp hframe]
      exact ⟨by decide, by decide⟩)
    [.stage]

end LinkSystem

end Ksa64.Interface
