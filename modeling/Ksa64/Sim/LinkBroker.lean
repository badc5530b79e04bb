import Ksa64.Flight.Phase10Math
import Ksa64.Interface.Link
import Ksa64.Library.Attempt
import Ksa64.Library.Run

/-!
# The deterministic broker

The broker carries frames between the two endpoints of the link, with the impairments of its
schedule, and records what became of each frame.  It can hold one frame back.  `Accounted` says that
a call loses no frame, and `run_accounted_iff` when that is so.
-/

namespace Ksa64.Sim

open Ksa64.Library Ksa64.Interface Ksa64.Flight

inductive EndpointRole where
  | world
  | flight
  | missionControl
  | broker
deriving DecidableEq, Repr

def EndpointRole.code : EndpointRole → UInt32
  | .world => 1
  | .flight => 2
  | .missionControl => 3
  | .broker => 4

/-! ## The transcript -/

inductive DeliveryDisposition where
  | delivered
  | delayed
  | dropped
  | duplicated
  | corrupted
  | disconnected
deriving DecidableEq, Repr

def DeliveryDisposition.code : DeliveryDisposition → UInt32
  | .delivered => 0
  | .delayed => 1
  | .dropped => 2
  | .duplicated => 3
  | .corrupted => 4
  | .disconnected => 5

structure TranscriptRecord where
  logicalTime : UInt32
  source : EndpointRole
  destination : EndpointRole
  disposition : DeliveryDisposition
  frameLength : UInt16
  frameCrc : UInt32
  chain : UInt32
deriving DecidableEq

structure Transcript where
  count : UInt32
  chain : UInt32
  last : Option TranscriptRecord
deriving DecidableEq

namespace Transcript

def new : Transcript := ⟨0, 2166136261, none⟩

def record (t : Transcript) (logicalTime : UInt32) (source destination : EndpointRole)
    (disposition : DeliveryDisposition) (frame : List UInt8) : Transcript :=
  let crc := crc32Ieee frame
  let chain := [logicalTime, source.code, destination.code, disposition.code,
    .ofNat frame.length, crc].foldl hashWord t.chain
  { count := t.count + 1
    chain := chain
    last := some ⟨logicalTime, source, destination, disposition, .ofNat frame.length, crc, chain⟩ }

end Transcript

/-! ## The broker -/

structure ImpairmentSchedule where
  delayAt : Option UInt32
  dropAt : Option UInt32
  duplicateAt : Option UInt32
  corruptAt : Option UInt32
  disconnectAt : Option UInt32
deriving DecidableEq

inductive BrokerError where
  | capacity
  | disconnected
deriving DecidableEq, Repr

/-- Of the pending buffer only the part that is in use is kept. -/
structure DeterministicBroker where
  schedule : ImpairmentSchedule
  logicalTime : UInt32
  connected : Bool
  pending : List UInt8
  pendingValid : Bool
  transcript : Transcript
deriving DecidableEq

/-- A call: the frame, its way, and the room that there is for what is returned. -/
structure RouteCall where
  source : EndpointRole
  destination : EndpointRole
  input : List UInt8
  room : Nat
deriving DecidableEq

/-- A bit in the middle of the frame is flipped. -/
def corruptMiddle (frame : List UInt8) : List UInt8 := frame.modify (frame.length / 2) (· ^^^ 0x40)

namespace DeterministicBroker

def new (schedule : ImpairmentSchedule) : DeterministicBroker where
  schedule := schedule
  logicalTime := 0
  connected := true
  pending := []
  pendingValid := false
  transcript := .new

/-- The next call has another time. -/
def tickTime (b : DeterministicBroker) : DeterministicBroker :=
  { b with logicalTime := b.logicalTime + 1 }

/-- The call is recorded under its time. -/
def noted (b : DeterministicBroker) (c : RouteCall) (disposition : DeliveryDisposition)
    (frame : List UInt8) : DeterministicBroker :=
  { b.tickTime with
    transcript := b.transcript.record b.logicalTime c.source c.destination disposition frame }

/-- The link is down, or this is the call at which it breaks. -/
def isDown (b : DeterministicBroker) : Bool :=
  !b.connected || b.schedule.disconnectAt == some b.logicalTime

/-- The call corrupts its frame. -/
def corrupts (b : DeterministicBroker) (c : RouteCall) : Bool :=
  b.schedule.corruptAt == some b.logicalTime && !c.input.isEmpty

/-- The frame as the impairments leave it. -/
def impaired (b : DeterministicBroker) (c : RouteCall) : List UInt8 :=
  if b.corrupts c then corruptMiddle c.input else c.input

/-- A frame that is neither dropped nor behind another one.  There is no result if it does not fit
into the pending buffer: the call panics. -/
def forward (b : DeterministicBroker) (c : RouteCall) :
    Option (Attempt BrokerError DeterministicBroker (List UInt8 × Bool)) :=
  let output := b.impaired c
  if b.schedule.delayAt == some b.logicalTime then
    if klf6MaxEncoded < c.input.length then none
    else some (.ok ([], false), { b.noted c .delayed c.input with
      pending := output, pendingValid := true })
  else if b.schedule.duplicateAt == some b.logicalTime then
    some (.ok (output, true), b.noted c .duplicated output)
  else if b.corrupts c then some (.ok (output, false), b.noted c .corrupted output)
  else some (.ok (output, false), b.noted c .delivered output)

def route (b : DeterministicBroker) (c : RouteCall) :
    Option (Attempt BrokerError DeterministicBroker (List UInt8 × Bool)) :=
  if b.isDown then
    some (.error .disconnected, { b.noted c .disconnected c.input with connected := false })
  else if b.pendingValid then
    if c.room < b.pending.length then some (.error .capacity, b.tickTime)
    else some (.ok (b.pending, false), { b.noted c .delivered b.pending with pendingValid := false })
  else if b.schedule.dropAt == some b.logicalTime then
    some (.ok ([], false), b.noted c .dropped c.input)
  else if c.room < c.input.length then some (.error .capacity, b.tickTime)
  else b.forward c

end DeterministicBroker

/-! ## What becomes of a frame -/

/-- A broker, and the call whose frame it holds back. -/
structure RoutedBroker where
  broker : DeterministicBroker
  held : Option RouteCall
deriving DecidableEq

namespace RoutedBroker

def new (schedule : ImpairmentSchedule) : RoutedBroker := ⟨.new schedule, none⟩

/-- The broker after a call.  A call that panics leaves nothing that could go on. -/
def after (s : RoutedBroker) (c : RouteCall) : RoutedBroker :=
  match s.broker.route c with
  | none => s
  | some (_, b) => ⟨b, if b.pendingValid then (if s.broker.pendingValid then s.held else some c)
      else none⟩

/-- Both calls go the same way. -/
def SameWay (c d : RouteCall) : Prop := c.source = d.source ∧ c.destination = d.destination

instance (c d : RouteCall) : Decidable (SameWay c d) := inferInstanceAs (Decidable (_ ∧ _))

/-- The frame of the call is returned or recorded or held back, and so is the one that was held
back before.  A call without bytes brings no frame. -/
inductive Accounted (s : RoutedBroker) (c : RouteCall) : Prop
  | returned (bytes : List UInt8) (duplicate : Bool) (disposition : DeliveryDisposition)
      (b : DeterministicBroker) (hempty : s.held = none)
      (hroute : s.broker.route c = some (.ok (bytes, duplicate), b))
      (hrecord : b.transcript = (s.broker.noted c disposition bytes).transcript)
      (hsame : disposition = .delivered ∧ bytes = c.input ∧ duplicate = false
        ∨ disposition = .duplicated ∧ bytes = c.input ∧ duplicate = true
        ∨ disposition = .corrupted ∧ duplicate = false)
      (hheld : b.pendingValid = false)
  | dropped (b : DeterministicBroker) (hempty : s.held = none)
      (hroute : s.broker.route c = some (.ok ([], false), b))
      (hrecord : b.transcript = (s.broker.noted c .dropped c.input).transcript)
      (hheld : b.pendingValid = false)
  | disconnected (b : DeterministicBroker)
      (hroute : s.broker.route c = some (.error .disconnected, b))
      (hrecord : b.transcript = (s.broker.noted c .disconnected c.input).transcript)
      (hheld : b.pendingValid = s.broker.pendingValid ∧ b.pending = s.broker.pending)
  | delayed (b : DeterministicBroker) (hempty : s.held = none)
      (hroute : s.broker.route c = some (.ok ([], false), b))
      (hrecord : b.transcript = (s.broker.noted c .delayed c.input).transcript)
      (hheld : b.pendingValid = true ∧ b.pending = c.input)
  | flushed (d : RouteCall) (b : DeterministicBroker) (hd : s.held = some d) (hway : SameWay c d)
      (hnone : c.input = []) (hroute : s.broker.route c = some (.ok (d.input, false), b))
      (hrecord : b.transcript = (s.broker.noted c .delivered d.input).transcript)
      (hheld : b.pendingValid = false)
  | refused (hroute : s.broker.route c = some (.error .capacity, s.broker))

/-- The call finds the link down, or it does nothing that loses a frame: if a frame is held back, it
brings none and goes the way of that frame; if not, its frame is dropped, or is not corrupted and
delayed or duplicated at once; and there is room. -/
structure Clean (s : RoutedBroker) (c : RouteCall) : Prop where
  behind : s.broker.isDown = false → ∀ d, s.held = some d →
    c.input = [] ∧ SameWay c d ∧ d.input.length ≤ c.room
  room : s.broker.isDown = false → s.held = none →
    s.broker.schedule.dropAt ≠ some s.broker.logicalTime → c.input.length ≤ c.room
  fits : s.broker.isDown = false → s.held = none →
    s.broker.schedule.dropAt ≠ some s.broker.logicalTime →
    s.broker.schedule.delayAt = some s.broker.logicalTime → c.input.length ≤ klf6MaxEncoded
  single : s.broker.isDown = false → s.held = none →
    s.broker.schedule.dropAt ≠ some s.broker.logicalTime → s.broker.corrupts c = true →
    s.broker.schedule.delayAt ≠ some s.broker.logicalTime
      ∧ s.broker.schedule.duplicateAt ≠ some s.broker.logicalTime

/-- The broker holds back the frame of the call that is noted. -/
def Holds (s : RoutedBroker) : Prop :=
  match s.held with
  | none => s.broker.pendingValid = false
  | some d => s.broker.pendingValid = true ∧ s.broker.pending = d.input

/-! ## One call -/

section Call

variable {s : RoutedBroker} {c : RouteCall}

/-- A frame with bytes is not what it was after it has been corrupted. -/
theorem corruptMiddle_ne {frame : List UInt8} (h : frame ≠ []) : corruptMiddle frame ≠ frame := by
  have hpos : 0 < frame.length := List.length_pos_iff.mpr h
  have hmiddle : frame.length / 2 < frame.length := Nat.div_lt_self hpos (by decide)
  intro hsame
  have hbyte : (corruptMiddle frame)[frame.length / 2]? = frame[frame.length / 2]? := by rw [hsame]
  unfold corruptMiddle at hbyte
  rw [List.getElem?_modify_eq, List.getElem?_eq_getElem hmiddle] at hbyte
  have hflip : frame[frame.length / 2] ^^^ 0x40 = frame[frame.length / 2] := Option.some.inj hbyte
  generalize frame[frame.length / 2] = byte at hflip
  have hzero : (0x40 : UInt8) = 0 := by
    rw [← UInt8.xor_right_inj byte, hflip, UInt8.xor_zero]
  cases hzero

theorem corrupts_ne_nil {b : DeterministicBroker} (h : b.corrupts c = true) : c.input ≠ [] := by
  rintro hnil
  unfold DeterministicBroker.corrupts at h
  rw [hnil, Bool.and_eq_true] at h
  cases h.2

/-- The time does not stand still. -/
theorem tickTime_ne (b : DeterministicBroker) : b.tickTime ≠ b := by
  intro h
  have htime : b.logicalTime + 1 = b.logicalTime := congrArg DeterministicBroker.logicalTime h
  have hzero : (1 : UInt32) = 0 := by
    rw [← UInt32.add_right_inj b.logicalTime, htime, UInt32.add_zero]
  cases hzero

/-- The transcript tells the dispositions apart. -/
theorem noted_disposition {b : DeterministicBroker} {x y : DeliveryDisposition}
    {frame frame' : List UInt8}
    (h : (b.noted c x frame).transcript = (b.noted c y frame').transcript) : x = y := by
  have hlast := Option.some.inj (congrArg Transcript.last h)
  exact congrArg TranscriptRecord.disposition hlast

theorem route_of_down (h : s.broker.isDown = true) : s.broker.route c =
    some (.error .disconnected, { s.broker.noted c .disconnected c.input with connected := false }) :=
  if_pos h

/-- A call that finds a frame held back. -/
theorem route_behind (hup : s.broker.isDown = false) (hpending : s.broker.pendingValid = true) :
    s.broker.route c = if c.room < s.broker.pending.length then some (.error .capacity, s.broker.tickTime)
      else some (.ok (s.broker.pending, false),
        { s.broker.noted c .delivered s.broker.pending with pendingValid := false }) := by
  unfold DeterministicBroker.route
  rw [hup, hpending]
  rfl

/-- A call that finds none. -/
theorem route_free (hup : s.broker.isDown = false) (hfree : s.broker.pendingValid = false)
    (hkept : s.broker.schedule.dropAt ≠ some s.broker.logicalTime) : s.broker.route c =
      if c.room < c.input.length then some (.error .capacity, s.broker.tickTime)
      else s.broker.forward c := by
  unfold DeterministicBroker.route
  rw [hup, hfree, beq_false_of_ne hkept]
  rfl

/-- A call that finds no frame held back and neither drops nor refuses its own. -/
theorem route_forward (hup : s.broker.isDown = false) (hfree : s.broker.pendingValid = false)
    (hkept : s.broker.schedule.dropAt ≠ some s.broker.logicalTime)
    (hroom : c.input.length ≤ c.room) : s.broker.route c = s.broker.forward c := by
  rw [route_free hup hfree hkept, if_neg (Nat.not_lt.mpr hroom)]

theorem Holds.free (h : s.Holds) (hempty : s.held = none) : s.broker.pendingValid = false := by
  unfold Holds at h
  rw [hempty] at h
  exact h

theorem Holds.behind (h : s.Holds) {d : RouteCall} (hd : s.held = some d) :
    s.broker.pendingValid = true ∧ s.broker.pending = d.input := by
  unfold Holds at h
  rw [hd] at h
  exact h

/-- A clean call accounts for its frame and for the one that was held back. -/
theorem Clean.accounted (h : s.Clean c) (hs : s.Holds) : s.Accounted c := by
  cases hup : s.broker.isDown with
  | true => exact .disconnected _ (route_of_down hup) rfl ⟨rfl, rfl⟩
  | false =>
    cases hd : s.held with
    | some d =>
        obtain ⟨hnone, hway, hroom⟩ := h.behind hup d hd
        obtain ⟨hpending, hbytes⟩ := hs.behind hd
        refine .flushed d { s.broker.noted c .delivered s.broker.pending with pendingValid := false }
          hd hway hnone ?_ ?_ rfl
        · rw [route_behind hup hpending, hbytes, if_neg (Nat.not_lt.mpr hroom)]
        · rw [hbytes]
    | none =>
        have hfree := hs.free hd
        by_cases hdrop : s.broker.schedule.dropAt = some s.broker.logicalTime
        · refine .dropped (s.broker.noted c .dropped c.input) hd ?_ rfl hfree
          unfold DeterministicBroker.route
          rw [hup, hfree, hdrop, beq_self_eq_true]
          rfl
        · have hforward := route_forward (c := c) hup hfree hdrop (h.room hup hd hdrop)
          have hsingle := h.single hup hd hdrop
          unfold DeterministicBroker.forward DeterministicBroker.impaired at hforward
          dsimp only at hforward
          by_cases hdelay : s.broker.schedule.delayAt = some s.broker.logicalTime
          · have hclear : s.broker.corrupts c = false :=
              Bool.eq_false_of_not_eq_true fun hcorrupt ↦ (hsingle hcorrupt).1 hdelay
            rw [hdelay, beq_self_eq_true, if_pos rfl,
              if_neg (Nat.not_lt.mpr (h.fits hup hd hdrop hdelay))] at hforward
            rw [hclear] at hforward
            exact .delayed _ hd hforward rfl ⟨rfl, rfl⟩
          · rw [beq_false_of_ne hdelay, if_neg Bool.false_ne_true] at hforward
            by_cases hdouble : s.broker.schedule.duplicateAt = some s.broker.logicalTime
            · have hclear : s.broker.corrupts c = false :=
                Bool.eq_false_of_not_eq_true fun hcorrupt ↦ (hsingle hcorrupt).2 hdouble
              rw [hdouble, beq_self_eq_true, if_pos rfl, hclear] at hforward
              exact .returned _ _ _ _ hd hforward rfl (.inr (.inl ⟨rfl, rfl, rfl⟩)) hfree
            · rw [beq_false_of_ne hdouble, if_neg Bool.false_ne_true] at hforward
              cases hcorrupt : s.broker.corrupts c with
              | true =>
                  rw [hcorrupt] at hforward
                  exact .returned _ _ _ _ hd hforward rfl (.inr (.inr ⟨rfl, rfl⟩)) hfree
              | false =>
                  rw [hcorrupt] at hforward
                  exact .returned _ _ _ _ hd hforward rfl (.inl ⟨rfl, rfl, rfl⟩) hfree

/-- A call that accounts for its frame comes back. -/
theorem Accounted.returns (h : s.Accounted c) : s.broker.route c ≠ none := by
  intro hpanics
  cases h with
  | returned _ _ _ _ _ hroute | dropped _ _ hroute | disconnected _ hroute | delayed _ _ hroute
  | flushed _ _ _ _ _ hroute | refused hroute => cases hpanics.symm.trans hroute

/-- A call that accounts for its frame and has no room leaves the broker as it was. -/
theorem Accounted.refusal (h : s.Accounted c) {b : DeterministicBroker}
    (hfull : s.broker.route c = some (.error .capacity, b)) : b = s.broker := by
  cases h with
  | returned _ _ _ _ _ hroute | dropped _ _ hroute | disconnected _ hroute | delayed _ _ hroute
  | flushed _ _ _ _ _ hroute => cases hfull.symm.trans hroute
  | refused hroute => exact (Prod.mk.inj (Option.some.inj (hfull.symm.trans hroute))).2

/-- What is returned and recorded as something else than corrupted is what came in. -/
theorem Accounted.unaltered (h : s.Accounted c) (hempty : s.held = none) {bytes frame : List UInt8}
    {duplicate : Bool} {disposition : DeliveryDisposition} {b : DeterministicBroker}
    (hroute : s.broker.route c = some (.ok (bytes, duplicate), b))
    (hrecord : b.transcript = (s.broker.noted c disposition frame).transcript) :
    (disposition = .duplicated → bytes = c.input) ∧ (disposition = .delayed → b.pending = c.input) := by
  cases h with
  | disconnected _ hroute' => cases hroute.symm.trans hroute'
  | refused hroute' => cases hroute.symm.trans hroute'
  | flushed _ _ hd => cases hempty.symm.trans hd
  | returned _ _ _ _ _ hroute' hrecord' hsame =>
      cases hroute.symm.trans hroute'
      cases noted_disposition (hrecord.symm.trans hrecord')
      rcases hsame with ⟨rfl, -, -⟩ | ⟨rfl, hbytes, -⟩ | ⟨rfl, -⟩
      · exact ⟨nofun, nofun⟩
      · exact ⟨fun _ ↦ hbytes, nofun⟩
      · exact ⟨nofun, nofun⟩
  | dropped _ _ hroute' hrecord' =>
      cases hroute.symm.trans hroute'
      cases noted_disposition (hrecord.symm.trans hrecord')
      exact ⟨nofun, nofun⟩
  | delayed _ _ hroute' hrecord' hheld =>
      cases hroute.symm.trans hroute'
      cases noted_disposition (hrecord.symm.trans hrecord')
      exact ⟨nofun, fun _ ↦ hheld.2⟩

/-- Only a clean call accounts for its frame and for the one that was held back. -/
theorem Accounted.clean (h : s.Accounted c) (hs : s.Holds) : s.Clean c where
  behind := by
    intro hup d hd
    obtain ⟨hpending, hbytes⟩ := hs.behind hd
    have hroute := route_behind (c := c) hup hpending
    by_cases hfull : c.room < s.broker.pending.length
    · rw [if_pos hfull] at hroute
      exact absurd (h.refusal hroute) (tickTime_ne s.broker)
    · rw [if_neg hfull] at hroute
      cases h with
      | returned _ _ _ _ hempty | dropped _ hempty | delayed _ hempty => cases hd.symm.trans hempty
      | disconnected _ hroute' | refused hroute' => cases hroute.symm.trans hroute'
      | flushed d' _ hd' hway hnone =>
          cases hd.symm.trans hd'
          rw [hbytes] at hfull
          exact ⟨hnone, hway, Nat.not_lt.mp hfull⟩
  room := by
    intro hup hempty hdrop
    by_contra hfull
    have hroute := route_free (c := c) hup (hs.free hempty) hdrop
    rw [if_pos (Nat.not_le.mp hfull)] at hroute
    exact tickTime_ne s.broker (h.refusal hroute)
  fits := by
    intro hup hempty hdrop hdelay
    by_contra hlong
    have hroute := route_free (c := c) hup (hs.free hempty) hdrop
    split_ifs at hroute with hfull
    · exact tickTime_ne s.broker (h.refusal hroute)
    · unfold DeterministicBroker.forward at hroute
      rw [hdelay, beq_self_eq_true, if_pos rfl, if_pos (Nat.not_le.mp hlong)] at hroute
      exact h.returns hroute
  single := by
    intro hup hempty hdrop hcorrupt
    have hroute := route_free (c := c) hup (hs.free hempty) hdrop
    have haltered := corruptMiddle_ne (corrupts_ne_nil hcorrupt)
    by_cases hfull : c.room < c.input.length
    · rw [if_pos hfull] at hroute
      exact absurd (h.refusal hroute) (tickTime_ne s.broker)
    · rw [if_neg hfull] at hroute
      unfold DeterministicBroker.forward DeterministicBroker.impaired at hroute
      rw [hcorrupt, if_pos rfl] at hroute
      dsimp only at hroute
      by_cases hdelay : s.broker.schedule.delayAt = some s.broker.logicalTime
      · rw [hdelay, beq_self_eq_true, if_pos rfl] at hroute
        by_cases hlong : klf6MaxEncoded < c.input.length
        · rw [if_pos hlong] at hroute
          exact absurd hroute h.returns
        · rw [if_neg hlong] at hroute
          exact absurd ((h.unaltered hempty hroute rfl).2 rfl) haltered
      · refine ⟨hdelay, fun hdouble ↦ ?_⟩
        rw [beq_false_of_ne hdelay, if_neg Bool.false_ne_true, hdouble, beq_self_eq_true,
          if_pos rfl] at hroute
        exact haltered ((h.unaltered hempty hroute rfl).1 rfl)

/-- What is noted after a call. -/
theorem after_of_route {outcome : Except BrokerError (List UInt8 × Bool)} {b : DeterministicBroker}
    (h : s.broker.route c = some (outcome, b)) : s.after c = ⟨b, if b.pendingValid then
      (if s.broker.pendingValid then s.held else some c) else none⟩ := by
  unfold after
  rw [h]

/-- A broker that holds back as much as it did before keeps the note. -/
theorem Holds.unchanged (hs : s.Holds) {outcome : Except BrokerError (List UInt8 × Bool)}
    {b : DeterministicBroker} (hroute : s.broker.route c = some (outcome, b))
    (hvalid : b.pendingValid = s.broker.pendingValid) (hbytes : b.pending = s.broker.pending) :
    (s.after c).Holds := by
  rw [after_of_route hroute, hvalid]
  unfold Holds
  cases hd : s.held with
  | none =>
      rw [hs.free hd]
      exact hvalid.trans (hs.free hd)
  | some d =>
      obtain ⟨hpending, hframe⟩ := hs.behind hd
      rw [hpending]
      exact ⟨hvalid.trans hpending, hbytes.trans hframe⟩

/-- A broker that holds nothing back needs no note. -/
theorem holds_of_free {outcome : Except BrokerError (List UInt8 × Bool)} {b : DeterministicBroker}
    (hroute : s.broker.route c = some (outcome, b)) (hfree : b.pendingValid = false) :
    (s.after c).Holds := by
  rw [after_of_route hroute, hfree]
  exact hfree

/-- A call that accounts for its frame keeps the note of what is held back. -/
theorem Accounted.holds (h : s.Accounted c) (hs : s.Holds) : (s.after c).Holds := by
  cases h with
  | returned _ _ _ _ _ hroute _ _ hheld | dropped _ _ hroute _ hheld
  | flushed _ _ _ _ _ hroute _ hheld => exact holds_of_free hroute hheld
  | delayed _ hempty hroute _ hheld =>
      rw [after_of_route hroute, hs.free hempty, hheld.1]
      exact hheld
  | disconnected _ hroute _ hheld => exact hs.unchanged hroute hheld.1 hheld.2
  | refused hroute => exact hs.unchanged hroute rfl rfl

/-! ## Runs -/

/-- In a run of the broker every call accounts for its frame, and for the one that is held back,
exactly if every call is clean. -/
theorem run_accounted_iff (schedule : ImpairmentSchedule) (calls : List RouteCall) :
    Meets after Accounted (new schedule) calls ↔ Meets after Clean (new schedule) calls := by
  refine @meets_iff_of_invariant _ _ after Clean Accounted Holds ?_ ?_ (new schedule) rfl calls
  · exact fun s c hs hclean ↦ (hclean.accounted hs).holds hs
  · exact fun s c hs ↦ ⟨fun h ↦ h.clean hs, fun h ↦ h.accounted hs⟩

end Call

/-- A frame of a byte for the flight. -/
def byteFrame (byte : UInt8) : RouteCall := ⟨.world, .flight, [byte], klf6MaxEncoded⟩

/-- The frame that arrives while another is held back is lost. -/
theorem second_frame_lost : ¬∀ schedule calls,
    Meets after Accounted (new schedule) calls := by
  intro hall
  have hlost := (hall ⟨some 0, none, none, none, none⟩ [byteFrame 1, byteFrame 2]).2.1
  have hheld : ((new ⟨some 0, none, none, none, none⟩).after (byteFrame 1)).held
      = some (byteFrame 1) := by decide
  have hup : ((new ⟨some 0, none, none, none, none⟩).after (byteFrame 1)).broker.isDown = false := by
    decide
  have hholds : ((new ⟨some 0, none, none, none, none⟩).after (byteFrame 1)).Holds := by
    unfold Holds
    rw [hheld]
    decide
  cases ((hlost.clean hholds).behind hup _ hheld).1

end RoutedBroker

end Ksa64.Sim
