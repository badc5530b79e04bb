import Ksa64.Library.Vectors
import Ksa64.Library.Poll
import Ksa64.Interface.LinkTransport

/-!
# Realtime cells

Cells of four lengths follow one another without delimiters; the receiver looks for the
header that each begins with.  When a header breaks off after one byte, the receiver looks
whether the byte that breaks it off begins another; when it breaks off later, it does not.
So noise that ends in two or three bytes of a header costs the cell behind it.
`delivered_iff` says that nothing else does.
-/

namespace Ksa64.Interface

open Ksa64.Library

def klr6Sync : Vector UInt8 2 := Pair.of 0xd6 0x5a

def klr6SyncFirst : UInt8 := Pair.first klr6Sync
def klr6SyncSecond : UInt8 := Pair.second klr6Sync

theorem klr6SyncFirst_ne_second : klr6SyncFirst ≠ klr6SyncSecond := by decide

def realtimeInertialLength : Nat := 40
def realtimeCommandLength : Nat := 24
def realtimeAidLength : Nat := 64
def realtimeStatusLength : Nat := 48

/-- One bit of the CRC. -/
def crc16Bit (c : UInt16) : UInt16 :=
  if c &&& 0x8000 ≠ 0 then (c <<< 1) ^^^ 0x1021 else c <<< 1

def crc16Byte (c : UInt16) (byte : UInt8) : UInt16 :=
  Nat.repeat crc16Bit 8 (c ^^^ (byte.toUInt16 <<< 8))

def crc16Ccitt (bytes : List UInt8) : UInt16 := bytes.foldl crc16Byte 0xffff

inductive RealtimeCellKind where
  | inertial
  | command
  | aid
  | status
deriving DecidableEq, Repr

namespace RealtimeCellKind

def length : RealtimeCellKind → Nat
  | .inertial => realtimeInertialLength
  | .command => realtimeCommandLength
  | .aid => realtimeAidLength
  | .status => realtimeStatusLength

def fromTag (tag : UInt8) : Option RealtimeCellKind :=
  match tag with
  | 1 => some .inertial
  | 2 => some .command
  | 3 => some .aid
  | 4 => some .status
  | _ => none

/-- The fourth byte of a cell. -/
def tag : RealtimeCellKind → UInt8
  | .inertial => 1
  | .command => 2
  | .aid => 3
  | .status => 4

theorem fromTag_eq_some {byte : UInt8} {kind : RealtimeCellKind} :
    fromTag byte = some kind ↔ byte = kind.tag := by
  constructor
  · intro h
    unfold fromTag at h
    split at h <;> cases h <;> rfl
  · rintro rfl
    cases kind <;> rfl

/-- What a cell begins with. -/
def header (kind : RealtimeCellKind) : List UInt8 := [klr6SyncFirst, klr6SyncSecond, 6, kind.tag]

theorem lt_length (kind : RealtimeCellKind) : 6 < kind.length := by cases kind <;> decide

end RealtimeCellKind

inductive RealtimeReceiveError where
  | transport (error : TransportError)
  | checksum
deriving DecidableEq

/-- The bytes of the cell that has been begun, and how many it needs once its kind is known. -/
structure RealtimeCellReceiver where
  bytes : List UInt8
  needed : Nat
deriving DecidableEq

namespace RealtimeCellReceiver

def new : RealtimeCellReceiver where
  bytes := []
  needed := 0

/-- One byte. -/
def receive (rx : RealtimeCellReceiver) (byte : UInt8) :
    RealtimeCellReceiver × Option (Except RealtimeReceiveError (RealtimeCellKind × List UInt8)) :=
  if rx.bytes.length = 0 then
    if byte ≠ klr6SyncFirst then (rx, none) else ({ rx with bytes := [byte] }, none)
  else if rx.bytes.length = 1 then
    if byte ≠ klr6SyncSecond then
      ({ rx with bytes := if byte = klr6SyncFirst then rx.bytes else [] }, none)
    else ({ rx with bytes := rx.bytes ++ [byte] }, none)
  else if rx.bytes.length = 2 then
    if byte ≠ 6 then ({ rx with bytes := [] }, none)
    else ({ rx with bytes := rx.bytes ++ [byte] }, none)
  else if rx.bytes.length = 3 then
    match RealtimeCellKind.fromTag byte with
    | none => ({ rx with bytes := [] }, none)
    | some kind => ({ bytes := rx.bytes ++ [byte], needed := kind.length }, none)
  else
    let bytes := rx.bytes ++ [byte]
    if bytes.length = rx.needed then
      let n := bytes.length
      ({ rx with bytes := [] },
        (RealtimeCellKind.fromTag (readByte bytes 3)).map fun kind ↦
          if crc16Ccitt (slice bytes 0 (n - 2)) ≠ read16 bytes (n - 2) then .error .checksum
          else .ok (kind, bytes))
    else ({ rx with bytes := bytes }, none)

def step (rx : RealtimeCellReceiver) (byte : UInt8) : RealtimeCellReceiver := (rx.receive byte).1

def out (rx : RealtimeCellReceiver) (byte : UInt8) :
    Option (Except RealtimeReceiveError (RealtimeCellKind × List UInt8)) :=
  (rx.receive byte).2

/-- Read from a transport that gives some bytes and then none, or an error. -/
def poll (rx : RealtimeCellReceiver) (available : List UInt8) (ending : Option TransportError) :
    Except RealtimeReceiveError (Option (RealtimeCellKind × List UInt8))
      × RealtimeCellReceiver × List UInt8 :=
  match Library.poll step out rx available with
  | (some result, rx, left) => (result.map some, rx, left)
  | (none, rx, left) =>
      (match ending with
        | some error => .error (.transport error)
        | none => .ok none, rx, left)

end RealtimeCellReceiver

/-- A valid cell. -/
structure RealtimeCell where
  kind : RealtimeCellKind
  bytes : List UInt8
  length_bytes : bytes.length = kind.length
  header : bytes.take 4 = kind.header
  checksum : crc16Ccitt (slice bytes 0 (kind.length - 2)) = read16 bytes (kind.length - 2)

/-- The byte with which a cell is complete. -/
def RealtimeCell.last (cell : RealtimeCell) : UInt8 := cell.bytes.getLastD 0

/-- Noise holds no complete header. -/
def Headerless (noise : List UInt8) : Prop := ∀ kind : RealtimeCellKind, ¬kind.header <:+: noise

/-- Set aside, from the front on, every header that breaks off: what is left of the noise ends
in two or three bytes of one. -/
def leavesOpen : List UInt8 → Bool
  | [] => false
  | [_] => false
  | [first, second] => first = klr6SyncFirst ∧ second = klr6SyncSecond
  | [first, second, third] =>
      if first = klr6SyncFirst ∧ second = klr6SyncSecond then third = 6
      else leavesOpen [second, third]
  | first :: second :: third :: fourth :: rest =>
      if first = klr6SyncFirst ∧ second = klr6SyncSecond then
        if third = 6 then leavesOpen rest else leavesOpen (fourth :: rest)
      else leavesOpen (second :: third :: fourth :: rest)

namespace RealtimeCellReceiver

/-! ## Headers, byte by byte -/

section Steps

variable {needed : Nat} {byte : UInt8}

theorem receive_idle (h : byte ≠ klr6SyncFirst) :
    receive ⟨[], needed⟩ byte = (⟨[], needed⟩, none) := by
  simp [receive, h]

theorem receive_first :
    receive ⟨[], needed⟩ klr6SyncFirst = (⟨[klr6SyncFirst], needed⟩, none) := by
  simp [receive]

theorem receive_first_again :
    receive ⟨[klr6SyncFirst], needed⟩ klr6SyncFirst = (⟨[klr6SyncFirst], needed⟩, none) := by
  simp [receive, klr6SyncFirst_ne_second]

theorem receive_one (hfirst : byte ≠ klr6SyncFirst) (hsecond : byte ≠ klr6SyncSecond) :
    receive ⟨[klr6SyncFirst], needed⟩ byte = (⟨[], needed⟩, none) := by
  simp [receive, hfirst, hsecond]

theorem receive_second :
    receive ⟨[klr6SyncFirst], needed⟩ klr6SyncSecond
      = (⟨[klr6SyncFirst, klr6SyncSecond], needed⟩, none) := by
  simp [receive]

theorem receive_two (h : byte ≠ 6) :
    receive ⟨[klr6SyncFirst, klr6SyncSecond], needed⟩ byte = (⟨[], needed⟩, none) := by
  simp [receive, h]

theorem receive_third :
    receive ⟨[klr6SyncFirst, klr6SyncSecond], needed⟩ 6
      = (⟨[klr6SyncFirst, klr6SyncSecond, 6], needed⟩, none) := by
  simp [receive]

theorem receive_three (h : RealtimeCellKind.fromTag byte = none) :
    receive ⟨[klr6SyncFirst, klr6SyncSecond, 6], needed⟩ byte = (⟨[], needed⟩, none) := by
  simp [receive, h]

theorem receive_tag (kind : RealtimeCellKind) :
    receive ⟨[klr6SyncFirst, klr6SyncSecond, 6], needed⟩ kind.tag
      = (⟨kind.header, kind.length⟩, none) := by
  simp [receive, RealtimeCellKind.fromTag_eq_some.mpr rfl, RealtimeCellKind.header]

/-- A byte that does not begin a header with the byte behind it is as good as not there. -/
theorem receive_skip (needed : Nat) {first second : UInt8} (h : ¬(first = klr6SyncFirst ∧ second = klr6SyncSecond)) :
    out ⟨[], needed⟩ first = none
      ∧ receive (step ⟨[], needed⟩ first) second = receive ⟨[], needed⟩ second := by
  unfold out step
  by_cases hfirst : first = klr6SyncFirst
  · have hsecond : second ≠ klr6SyncSecond := fun hsecond ↦ h ⟨hfirst, hsecond⟩
    rw [hfirst, receive_first]
    by_cases hagain : second = klr6SyncFirst
    · rw [hagain, receive_first_again, receive_first]
      exact ⟨rfl, rfl⟩
    · rw [receive_one hagain hsecond, receive_idle hagain]
      exact ⟨rfl, rfl⟩
  · rw [receive_idle hfirst]
    exact ⟨rfl, rfl⟩

end Steps

/-- What the receiver holds behind noise: so much of a header. -/
structure Behind (noise : List UInt8) (needed : Nat) (held : List UInt8) : Prop where
  state : run step ⟨[], needed⟩ noise = ⟨held, needed⟩
  silent : emits step out ⟨[], needed⟩ noise = []
  front : held <+: [klr6SyncFirst, klr6SyncSecond, 6]
  opens : leavesOpen noise = true ↔ 2 ≤ held.length

/-- Noise that the receiver gets over is as good as not there. -/
theorem Behind.append {noise held : List UInt8} {needed : Nat} (lead : List UInt8)
    (h : Behind noise needed held)
    (hrun : run step ⟨[], needed⟩ lead = ⟨[], needed⟩)
    (hemits : emits step out ⟨[], needed⟩ lead = [])
    (hopens : leavesOpen (lead ++ noise) = leavesOpen noise) : Behind (lead ++ noise) needed held :=
  ⟨by rw [run_append, hrun, h.state], by rw [emits_append, hemits, hrun, h.silent]; rfl, h.front,
    by rw [hopens, h.opens]⟩

theorem leavesOpen_skip {first second : UInt8} {rest : List UInt8}
    (h : ¬(first = klr6SyncFirst ∧ second = klr6SyncSecond)) :
    leavesOpen (first :: second :: rest) = leavesOpen (second :: rest) := by
  obtain _ | ⟨third, _ | ⟨fourth, rest⟩⟩ := rest
  · simp [leavesOpen, h]
  · simp [leavesOpen, h]
  · rw [leavesOpen, if_neg h]

theorem Behind.skip {first second : UInt8} {rest held : List UInt8} {needed : Nat}
    (h : ¬(first = klr6SyncFirst ∧ second = klr6SyncSecond)) (hrest : Behind (second :: rest) needed held) :
    Behind (first :: second :: rest) needed held := by
  obtain ⟨hout, hreceive⟩ := receive_skip needed h
  have hstep : step (step ⟨[], needed⟩ first) second = step ⟨[], needed⟩ second :=
    congrArg Prod.fst hreceive
  have hout' : out (step ⟨[], needed⟩ first) second = out ⟨[], needed⟩ second :=
    congrArg Prod.snd hreceive
  refine ⟨?_, ?_, hrest.front, ?_⟩
  · rw [run_cons, run_cons, hstep]
    exact hrest.state
  · rw [emits, emits, hout, hout', hstep]
    exact hrest.silent
  · rw [leavesOpen_skip h]
    exact hrest.opens

theorem exists_behind_singleton (byte : UInt8) (needed : Nat) :
    ∃ held, Behind [byte] needed held := by
  by_cases h : byte = klr6SyncFirst
  · rw [h]
    refine ⟨[klr6SyncFirst], ?_, ?_, ⟨_, rfl⟩, by simp [leavesOpen]⟩
    · exact congrArg Prod.fst receive_first
    · rw [emits, out, receive_first]
      rfl
  · refine ⟨[], ?_, ?_, List.nil_prefix, by simp [leavesOpen]⟩
    · exact congrArg Prod.fst (receive_idle h)
    · rw [emits, out, receive_idle h]
      rfl

theorem Headerless.of_suffix {xs ys : List UInt8} (h : Headerless xs) (hsuffix : ys <:+ xs) :
    Headerless ys :=
  fun kind hkind ↦ h kind (hkind.trans hsuffix.isInfix)

theorem exists_behind {noise : List UInt8} (h : Headerless noise) (needed : Nat) :
    ∃ held, Behind noise needed held := by
  fun_induction leavesOpen noise
  case case1 => exact ⟨[], rfl, rfl, List.nil_prefix, by simp [leavesOpen]⟩
  case case2 byte => exact exists_behind_singleton byte needed
  case case3 first second =>
    by_cases hsync : first = klr6SyncFirst ∧ second = klr6SyncSecond
    · obtain ⟨rfl, rfl⟩ := hsync
      refine ⟨[klr6SyncFirst, klr6SyncSecond], ?_, ?_, ⟨_, rfl⟩, by simp [leavesOpen]⟩
      · simp [step, receive_first, receive_second]
      · simp [emits, out, step, receive_first, receive_second]
    · obtain ⟨held, hheld⟩ := exists_behind_singleton second needed
      exact ⟨held, hheld.skip hsync⟩
  case case4 first second third hsync =>
    obtain ⟨rfl, rfl⟩ := hsync
    by_cases hthird : third = 6
    · rw [hthird]
      refine ⟨[klr6SyncFirst, klr6SyncSecond, 6], ?_, ?_, ⟨_, rfl⟩, by simp [leavesOpen]⟩
      · simp [step, receive_first, receive_second, receive_third]
      · simp [emits, out, step, receive_first, receive_second, receive_third]
    · refine ⟨[], ?_, ?_, List.nil_prefix, by simp [leavesOpen, hthird]⟩
      · simp [step, receive_first, receive_second, receive_two hthird]
      · simp [emits, out, step, receive_first, receive_second, receive_two hthird]
  case case5 first second third hsync ih =>
    obtain ⟨held, hheld⟩ := ih (Headerless.of_suffix h ⟨[_], rfl⟩)
    exact ⟨held, hheld.skip hsync⟩
  case case6 first second fourth rest hsync ih =>
    -- a header that breaks off at the kind
    obtain ⟨rfl, rfl⟩ := hsync
    obtain ⟨held, hheld⟩ := ih (Headerless.of_suffix h ⟨[_, _, _, _], rfl⟩)
    have htag : RealtimeCellKind.fromTag fourth = none := by
      by_contra hne
      obtain ⟨kind, hkind⟩ := Option.ne_none_iff_exists'.mp hne
      rw [RealtimeCellKind.fromTag_eq_some.mp hkind] at h
      exact h kind ⟨[], rest, rfl⟩
    refine ⟨held, hheld.append [klr6SyncFirst, klr6SyncSecond, 6, fourth] ?_ ?_ ?_⟩
    · simp [step, receive_first, receive_second, receive_third, receive_three htag]
    · simp [emits, out, step, receive_first, receive_second, receive_third, receive_three htag]
    · simp [leavesOpen]
  case case7 first second third fourth rest hsync hthird ih =>
    -- a header that breaks off before the kind
    obtain ⟨rfl, rfl⟩ := hsync
    obtain ⟨held, hheld⟩ := ih (Headerless.of_suffix h ⟨[_, _, _], rfl⟩)
    refine ⟨held, hheld.append [klr6SyncFirst, klr6SyncSecond, third] ?_ ?_ ?_⟩
    · simp [step, receive_first, receive_second, receive_two hthird]
    · simp [emits, out, step, receive_first, receive_second, receive_two hthird]
    · simp [leavesOpen, hthird]
  case case8 first second third fourth rest hsync ih =>
    obtain ⟨held, hheld⟩ := ih (Headerless.of_suffix h ⟨[_], rfl⟩)
    exact ⟨held, hheld.skip hsync⟩

/-! ## Cells -/

theorem receive_header {rx : RealtimeCellReceiver} (h : rx.bytes.length < 4) (byte : UInt8) :
    out rx byte = none ∧ (step rx byte).bytes.length ≤ rx.bytes.length + 1 := by
  unfold out step receive
  by_cases h0 : rx.bytes.length = 0
  · rw [if_pos h0]
    split_ifs <;> exact ⟨rfl, by simp⟩
  by_cases h1 : rx.bytes.length = 1
  · rw [if_neg h0, if_pos h1]
    split_ifs <;> exact ⟨rfl, by simp⟩
  by_cases h2 : rx.bytes.length = 2
  · rw [if_neg h0, if_neg h1, if_pos h2]
    split_ifs <;> exact ⟨rfl, by simp⟩
  · rw [if_neg h0, if_neg h1, if_neg h2, if_pos (by omega)]
    cases RealtimeCellKind.fromTag byte <;> exact ⟨rfl, by simp⟩

/-- The last byte that is needed. -/
theorem receive_full {rx : RealtimeCellReceiver} (h : 4 ≤ rx.bytes.length)
    (hneeded : rx.bytes.length + 1 = rx.needed) (byte : UInt8) :
    receive rx byte = (⟨[], rx.needed⟩,
      (RealtimeCellKind.fromTag (readByte (rx.bytes ++ [byte]) 3)).map fun kind ↦
        if crc16Ccitt (slice (rx.bytes ++ [byte]) 0 (rx.needed - 2))
            ≠ read16 (rx.bytes ++ [byte]) (rx.needed - 2) then .error .checksum
        else .ok (kind, rx.bytes ++ [byte])) := by
  have hlength : (rx.bytes ++ [byte]).length = rx.needed := by
    rw [List.length_append, List.length_singleton, hneeded]
  unfold receive
  dsimp only
  rw [if_neg (by omega), if_neg (by omega), if_neg (by omega), if_neg (by omega), if_pos hlength,
    hlength]

/-- Not yet the last byte. -/
theorem receive_body {rx : RealtimeCellReceiver} (h : 4 ≤ rx.bytes.length)
    (hneeded : rx.bytes.length + 1 ≠ rx.needed) (byte : UInt8) :
    receive rx byte = (⟨rx.bytes ++ [byte], rx.needed⟩, none) := by
  have hlength : (rx.bytes ++ [byte]).length ≠ rx.needed := by
    rwa [List.length_append, List.length_singleton]
  unfold receive
  dsimp only
  rw [if_neg (by omega), if_neg (by omega), if_neg (by omega), if_neg (by omega), if_neg hlength]

/-- What is put out is what has been held, and the last byte. -/
theorem eq_append_of_out {rx : RealtimeCellReceiver} {byte : UInt8} {kind : RealtimeCellKind}
    {bytes : List UInt8} (h : rx.out byte = some (.ok (kind, bytes))) : bytes = rx.bytes ++ [byte] := by
  by_cases hheader : rx.bytes.length < 4
  · rw [(receive_header hheader byte).1] at h
    cases h
  · by_cases hneeded : rx.bytes.length + 1 = rx.needed
    · rw [out, receive_full (by omega) hneeded, Option.map_eq_some_iff] at h
      obtain ⟨found, -, hfound⟩ := h
      split_ifs at hfound
      cases hfound
      rfl
    · rw [out, receive_body (by omega) hneeded] at h
      cases h

theorem length_step_le (rx : RealtimeCellReceiver) (byte : UInt8) :
    (rx.step byte).bytes.length ≤ rx.bytes.length + 1 := by
  by_cases hheader : rx.bytes.length < 4
  · exact (receive_header hheader byte).2
  · by_cases hneeded : rx.bytes.length + 1 = rx.needed
    · rw [step, receive_full (by omega) hneeded]
      exact Nat.zero_le _
    · rw [step, receive_body (by omega) hneeded, List.length_append]
      exact Nat.le_refl _

theorem length_run_le (rx : RealtimeCellReceiver) (bytes : List UInt8) :
    (run step rx bytes).bytes.length ≤ rx.bytes.length + bytes.length := by
  induction bytes generalizing rx with
  | nil => exact Nat.le_refl _
  | cons byte rest ih =>
      have hstep := length_step_le rx byte
      have hrest := ih (rx.step byte)
      rw [run_cons, List.length_cons]
      omega

/-- Once the kind is known, bytes are collected until there are enough. -/
theorem run_body {held rest : List UInt8} (needed : Nat) (hheld : 4 ≤ held.length)
    (hlength : held.length + rest.length < needed) :
    run step ⟨held, needed⟩ rest = ⟨held ++ rest, needed⟩
      ∧ emits step out ⟨held, needed⟩ rest = [] := by
  induction rest generalizing held with
  | nil => exact ⟨by rw [run_nil, List.append_nil], rfl⟩
  | cons byte rest ih =>
      rw [List.length_cons] at hlength
      have hreceive : receive ⟨held, needed⟩ byte = (⟨held ++ [byte], needed⟩, none) :=
        receive_body hheld (by show held.length + 1 ≠ needed; omega) byte
      have hstep : step ⟨held, needed⟩ byte = ⟨held ++ [byte], needed⟩ := congrArg Prod.fst hreceive
      have hout : out ⟨held, needed⟩ byte = none := congrArg Prod.snd hreceive
      have hlonger : (held ++ [byte]).length = held.length + 1 := List.length_append
      obtain ⟨hrun, hemits⟩ := ih (by omega) (by omega : (held ++ [byte]).length + rest.length < needed)
      rw [run_cons, emits, hstep, hout, hrun, hemits, List.append_assoc]
      exact ⟨rfl, rfl⟩

/-- From where a header can begin, the header of a cell is found. -/
theorem run_header {held : List UInt8} (hheld : held = [] ∨ held = [klr6SyncFirst]) (needed : Nat)
    (kind : RealtimeCellKind) :
    run step ⟨held, needed⟩ kind.header = ⟨kind.header, kind.length⟩
      ∧ emits step out ⟨held, needed⟩ kind.header = [] := by
  have hfirst : receive ⟨held, needed⟩ klr6SyncFirst = (⟨[klr6SyncFirst], needed⟩, none) := by
    rcases hheld with rfl | rfl
    · exact receive_first
    · exact receive_first_again
  change run step ⟨held, needed⟩ [klr6SyncFirst, klr6SyncSecond, 6, kind.tag] = _
    ∧ emits step out ⟨held, needed⟩ [klr6SyncFirst, klr6SyncSecond, 6, kind.tag] = _
  constructor
  · simp only [run_cons, run_nil, step, hfirst, receive_second, receive_third, receive_tag]
  · simp only [emits, out, step, hfirst, receive_second, receive_third, receive_tag]
    rfl

variable (cell : RealtimeCell)

/-- All but the last byte of a cell. -/
theorem run_dropLast {held : List UInt8} (hheld : held = [] ∨ held = [klr6SyncFirst]) (needed : Nat) :
    run step ⟨held, needed⟩ cell.bytes.dropLast = ⟨cell.bytes.dropLast, cell.kind.length⟩
      ∧ emits step out ⟨held, needed⟩ cell.bytes.dropLast = [] := by
  have hheader : cell.kind.header.length = 4 := rfl
  obtain ⟨hrun, hemits⟩ := run_header hheld needed cell.kind
  have hroom : cell.kind.header.length + (cell.bytes.dropLast.drop 4).length < cell.kind.length := by
    have := cell.kind.lt_length
    rw [List.length_drop, List.length_dropLast, cell.length_bytes, hheader]
    omega
  obtain ⟨hbody, hsilent⟩ := run_body cell.kind.length (Nat.le_of_eq hheader.symm) hroom
  have hfront : cell.kind.header ++ cell.bytes.dropLast.drop 4 = cell.bytes.dropLast := by
    have htake : cell.bytes.dropLast.take 4 = cell.kind.header := by
      have := cell.kind.lt_length
      rw [List.dropLast_eq_take, List.take_take, cell.length_bytes, Nat.min_eq_left (by omega),
        cell.header]
    rw [← htake, List.take_append_drop]
  rw [← hfront, run_append, emits_append, hrun, hbody, hemits, hsilent, hfront]
  exact ⟨rfl, rfl⟩

theorem exists_dropLast_eq : ∃ rest, cell.bytes.dropLast = klr6SyncFirst :: rest := by
  have hkind := cell.kind.lt_length
  have hlength := cell.length_bytes
  have hheader := cell.header
  match hbytes : cell.bytes with
  | first :: second :: rest =>
      rw [hbytes, RealtimeCellKind.header] at hheader
      cases List.cons.inj hheader |>.1
      exact ⟨(second :: rest).dropLast, rfl⟩
  | [] | [_] =>
      rw [hbytes] at hlength
      simp at hlength
      omega

theorem dropLast_append_last : cell.bytes.dropLast ++ [cell.last] = cell.bytes := by
  have hne : cell.bytes ≠ [] := by
    rw [← List.length_pos_iff, cell.length_bytes]
    exact Nat.zero_lt_of_lt cell.kind.lt_length
  rw [RealtimeCell.last, List.getLastD_eq_getLast?, List.getLast?_eq_some_getLast hne,
    Option.getD_some, List.dropLast_append_getLast]

/-- The last byte of a cell. -/
theorem receive_last :
    receive ⟨cell.bytes.dropLast, cell.kind.length⟩ cell.last
      = (⟨[], cell.kind.length⟩, some (.ok (cell.kind, cell.bytes))) := by
  have hlength : cell.bytes.dropLast.length = cell.kind.length - 1 := by
    rw [List.length_dropLast, cell.length_bytes]
  have hkind := cell.kind.lt_length
  have htag : readByte cell.bytes 3 = cell.kind.tag := by
    have htake : (cell.bytes.take 4)[3]? = some cell.kind.tag := by
      rw [cell.header]
      rfl
    rw [List.getElem?_take_of_lt (by decide)] at htake
    rw [readByte, List.getD_eq_getElem?_getD, htake, Option.getD_some]
  rw [receive_full (by dsimp only; omega) (by dsimp only; omega)]
  dsimp only
  rw [dropLast_append_last, htag, RealtimeCellKind.fromTag_eq_some.mpr rfl, Option.map_some,
    if_neg (not_not.mpr cell.checksum)]

/-- A cell, and the noise in front of it. -/
structure NoisyCell where
  noise : List UInt8
  headerless : Headerless noise
  cell : RealtimeCell

namespace NoisyCell

def bytes (noisy : NoisyCell) : List UInt8 := noisy.noise ++ noisy.cell.bytes

/-- What the receiver should put out. -/
def result (noisy : NoisyCell) : Except RealtimeReceiveError (RealtimeCellKind × List UInt8) :=
  .ok (noisy.cell.kind, noisy.cell.bytes)

end NoisyCell

/-- The receiver reads the noise and the cell behind it. -/
def read (rx : RealtimeCellReceiver) (noisy : NoisyCell) : RealtimeCellReceiver :=
  run step rx noisy.bytes

/-- The cell is put out as its last byte comes in. -/
def Delivers (rx : RealtimeCellReceiver) (noisy : NoisyCell) : Prop :=
  out (run step rx (noisy.noise ++ noisy.cell.bytes.dropLast)) noisy.cell.last = some noisy.result

/-- What noise that leaves no header open does. -/
theorem read_of_closed {rx : RealtimeCellReceiver} (hrx : rx.bytes = []) {noisy : NoisyCell}
    (hclosed : leavesOpen noisy.noise = false) :
    (read rx noisy).bytes = []
      ∧ emits step out rx noisy.bytes = [noisy.result]
      ∧ Delivers rx noisy := by
  obtain ⟨bytes, needed⟩ := rx
  obtain rfl : bytes = [] := hrx
  obtain ⟨held, hbehind⟩ := exists_behind noisy.headerless needed
  have hheld : held = [] ∨ held = [klr6SyncFirst] := by
    have hlength : ¬2 ≤ held.length := by
      rw [← hbehind.opens, hclosed]
      exact Bool.false_ne_true
    rcases List.prefix_cons_iff.mp hbehind.front with rfl | ⟨rest, rfl, -⟩
    · exact .inl rfl
    · rw [List.length_cons] at hlength
      exact .inr (by rw [List.length_eq_zero_iff.mp (by omega : rest.length = 0)])
  obtain ⟨hrun, hemits⟩ := run_dropLast noisy.cell hheld needed
  have hlast := receive_last noisy.cell
  have hbytes : noisy.bytes = noisy.noise ++ (noisy.cell.bytes.dropLast ++ [noisy.cell.last]) := by
    rw [dropLast_append_last, NoisyCell.bytes]
  refine ⟨?_, ?_, ?_⟩
  · rw [read, hbytes, run_append, run_append, hbehind.state, hrun, run_cons, step, hlast]
    rfl
  · rw [hbytes, emits_append, emits_append, hbehind.silent, hbehind.state, hemits, hrun, emits, out,
      hlast]
    rfl
  · rw [Delivers, run_append, hbehind.state, hrun, out, hlast]
    rfl

theorem emits_of_closed {rx : RealtimeCellReceiver} (hrx : rx.bytes = []) {stream : List NoisyCell}
    (hclosed : ∀ noisy ∈ stream, leavesOpen noisy.noise = false) :
    emits step out rx (stream.flatMap NoisyCell.bytes) = stream.map NoisyCell.result := by
  induction stream generalizing rx with
  | nil => rfl
  | cons noisy stream ih =>
      rw [List.forall_mem_cons] at hclosed
      obtain ⟨hread, hemits, -⟩ := read_of_closed hrx hclosed.1
      rw [List.flatMap_cons, emits_append, hemits]
      exact congrArg (noisy.result :: ·) (ih hread hclosed.2)

/-- Noise that leaves a header open costs the cell behind it. -/
theorem not_delivers_of_open {rx : RealtimeCellReceiver} (hrx : rx.bytes = []) {noisy : NoisyCell}
    (hopen : leavesOpen noisy.noise = true) : ¬Delivers rx noisy := by
  obtain ⟨bytes, needed⟩ := rx
  obtain rfl : bytes = [] := hrx
  obtain ⟨held, hbehind⟩ := exists_behind noisy.headerless needed
  have hheld := hbehind.opens.mp hopen
  have hreset : step ⟨held, needed⟩ klr6SyncFirst = ⟨[], needed⟩ := by
    obtain ⟨rest, hrest⟩ := hbehind.front
    obtain _ | ⟨first, _ | ⟨second, _ | ⟨third, _ | ⟨fourth, held⟩⟩⟩⟩ := held
    · exact absurd hheld (by decide)
    · exact absurd hheld (by simp)
    · cases hrest
      exact congrArg Prod.fst (receive_two (by decide))
    · cases hrest
      exact congrArg Prod.fst (receive_three (by decide))
    · cases hrest
  obtain ⟨rest, hrest⟩ := exists_dropLast_eq noisy.cell
  have hlength : noisy.cell.kind.length = rest.length + 2 := by
    have := noisy.cell.kind.lt_length
    have hdrop := congrArg List.length hrest
    rw [List.length_dropLast, noisy.cell.length_bytes, List.length_cons] at hdrop
    omega
  intro hdelivers
  rw [Delivers, run_append, hbehind.state, hrest, run_cons, hreset] at hdelivers
  have hput := congrArg List.length (eq_append_of_out hdelivers)
  have hrun := length_run_le ⟨[], needed⟩ rest
  rw [List.length_append, List.length_singleton, noisy.cell.length_bytes] at hput
  simp only [List.length_nil] at hrun
  omega

/-- Cells and the noise in front of them, however they are dealt out to polls: each cell is put
out as its last byte comes in iff no noise leaves a header open; and then the polls return the
cells in order. -/
theorem delivered_iff (stream : List NoisyCell) :
    (Meets read Delivers new stream ↔ ∀ noisy ∈ stream, leavesOpen noisy.noise = false)
      ∧ ((∀ noisy ∈ stream, leavesOpen noisy.noise = false) → ∀ schedule : List Nat,
        let reader := run (Reader.poll step out) (Reader.start new (stream.flatMap NoisyCell.bytes))
          schedule
        reader.results <+: stream.map NoisyCell.result
          ∧ (reader.wire = [] → reader.results = stream.map NoisyCell.result)) := by
  constructor
  · refine (meets_iff_of_invariant (fun rx ↦ rx.bytes = []) ?_ ?_ rfl stream).trans meets_input
    · intro rx noisy hrx hclosed
      exact (read_of_closed hrx hclosed).1
    · intro rx noisy hrx
      constructor
      · intro hdelivers
        by_contra hopen
        rw [Bool.not_eq_false] at hopen
        exact not_delivers_of_open hrx hopen hdelivers
      · intro hclosed
        exact (read_of_closed hrx hclosed).2.2
  · intro hclosed schedule reader
    obtain ⟨hfront, hall, -⟩ :=
      Reader.run_poll step out new (stream.flatMap NoisyCell.bytes) schedule
    have hemits : emits step out new (stream.flatMap NoisyCell.bytes) = _ :=
      emits_of_closed rfl hclosed
    rw [hemits] at hfront hall
    exact ⟨hfront, hall⟩

/-- The command cell of session 1 in which all else is zero, behind a header that broke off after
two bytes. -/
def behindBrokenHeader : NoisyCell where
  noise := [0xd6, 0x5a]
  headerless := by
    intro kind hkind
    exact absurd hkind.length_le (by decide : ¬4 ≤ 2)
  cell :=
    { kind := .command
      bytes := [0xd6, 0x5a, 6, 2, 1] ++ List.replicate 17 0 ++ [0x48, 0x31]
      length_bytes := rfl
      header := rfl
      checksum := by decide +kernel }

/-- The receiver does not put out all cells. -/
theorem lost_behind_broken_header :
    ¬∀ (stream : List NoisyCell) (schedule : List Nat),
      let reader := run (Reader.poll step out) (Reader.start new (stream.flatMap NoisyCell.bytes))
        schedule
      reader.wire = [] → (stream.map NoisyCell.result).Sublist reader.results := by
  intro h
  have hlost := h [behindBrokenHeader] [26] rfl
  have hnone : (run (Reader.poll step out) (Reader.start new
      ([behindBrokenHeader].flatMap NoisyCell.bytes)) [26]).results = [] := rfl
  rw [hnone] at hlost
  cases hlost

end RealtimeCellReceiver

end Ksa64.Interface
