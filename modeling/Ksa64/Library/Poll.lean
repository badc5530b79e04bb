import Ksa64.Library.Run

/-!
# Polling a machine

A machine that puts something out now and then is polled with the inputs at hand: a poll
consumes them until the machine puts something out, and leaves the rest.  However the
inputs are dealt out to polls, the machine does what it would have done with all of them at
once (`poll_eq`).
-/

universe u v w

namespace Ksa64.Library

variable {σ : Type u} {ι : Type v} {ω : Type w}

/-- Consume inputs until something is put out.  What was put out, the state then, and the
inputs that are left. -/
def poll (step : σ → ι → σ) (out : σ → ι → Option ω) : σ → List ι → Option ω × σ × List ι
  | s, [] => (none, s, [])
  | s, i :: is =>
      match out s i with
      | some o => (some o, step s i, is)
      | none => poll step out (step s i) is

variable {step : σ → ι → σ} {out : σ → ι → Option ω}

variable (step out) in
/-- A poll that puts nothing out has consumed everything; the inputs it has consumed are those
of a run that puts out what it does. -/
theorem poll_eq (s : σ) (is : List ι) :
    ∃ used, is = used ++ (poll step out s is).2.2
      ∧ (poll step out s is).2.1 = run step s used
      ∧ emits step out s used = (poll step out s is).1.toList
      ∧ ((poll step out s is).1 = none → (poll step out s is).2.2 = [])
      ∧ (is ≠ [] → used ≠ []) := by
  induction is generalizing s with
  | nil => exact ⟨[], rfl, rfl, rfl, fun _ ↦ rfl, id⟩
  | cons i is ih =>
      rw [poll]
      cases hout : out s i with
      | some o => exact ⟨[i], rfl, rfl, by simp [emits, hout], by rintro ⟨⟩, fun _ ↦ List.cons_ne_nil i []⟩
      | none =>
          obtain ⟨used, hused, hstate, hemits, hnone, -⟩ := ih (step s i)
          exact ⟨i :: used, congrArg _ hused, hstate, by simp [emits, hout, hemits], hnone,
            fun _ ↦ List.cons_ne_nil i used⟩

/-- A machine that is polled, with the inputs that are there to be read, those it has read and
what it has put out. -/
structure Reader (σ : Type u) (ι : Type v) (ω : Type w) where
  wire : List ι
  state : σ
  received : List ι
  results : List ω

namespace Reader

def start (s : σ) (wire : List ι) : Reader σ ι ω where
  wire := wire
  state := s
  received := []
  results := []

/-- One poll, when so many inputs are at hand. -/
def poll (step : σ → ι → σ) (out : σ → ι → Option ω) (r : Reader σ ι ω) (available : Nat) :
    Reader σ ι ω :=
  let (result, state, left) := Library.poll step out r.state (r.wire.take available)
  { wire := left ++ r.wire.drop available
    state := state
    received := r.received ++ (r.wire.take available).take
      ((r.wire.take available).length - left.length)
    results := r.results ++ result.toList }

/-- The machine has done what the inputs it has read make it do. -/
structure Inv (step : σ → ι → σ) (out : σ → ι → Option ω) (s : σ) (inputs : List ι)
    (r : Reader σ ι ω) : Prop where
  state : r.state = run step s r.received
  results : r.results = emits step out s r.received
  inputs : r.received ++ r.wire = inputs

variable {s : σ} {inputs : List ι} {r : Reader σ ι ω}

theorem poll_reader_eq (h : Inv step out s inputs r) (available : Nat) :
    Inv step out s inputs (r.poll step out available)
      ∧ (r.wire ≠ [] → 0 < available → (r.poll step out available).wire.length < r.wire.length) := by
  obtain ⟨used, hused, hrun, hemits, -, hne⟩ :=
    poll_eq step out r.state (r.wire.take available)
  unfold poll
  generalize Library.poll step out r.state (r.wire.take available) = polled
    at hused hrun hemits
  obtain ⟨result, state, left⟩ := polled
  dsimp only at hused hrun hemits ⊢
  have htake : (r.wire.take available).take ((r.wire.take available).length - left.length) = used := by
    rw [hused, List.length_append, Nat.add_sub_cancel, List.take_left]
  have hwire : r.wire = used ++ (left ++ r.wire.drop available) := by
    rw [← List.append_assoc, ← hused, List.take_append_drop]
  refine ⟨⟨?_, ?_, ?_⟩, ?_⟩
  · rw [htake, run_append, ← h.state, hrun]
  · rw [htake, emits_append, ← h.state, ← h.results, hemits]
  · rw [htake, List.append_assoc, ← hwire, h.inputs]
  · intro hnil havailable
    have hpos : used ≠ [] := by
      refine hne fun htake ↦ ?_
      rcases List.take_eq_nil_iff.mp htake with hzero | hempty
      · omega
      · exact hnil hempty
    have hlength := congrArg List.length hwire
    rw [List.length_append] at hlength
    have := List.length_pos_of_ne_nil hpos
    omega

variable (step out) in
/-- However the inputs are dealt out, what has been put out is the front of what all of them
make the machine put out, and all of that once they have been read, to which every schedule can
be continued. -/
theorem run_poll (s : σ) (inputs : List ι) (schedule : List Nat) :
    (run (poll step out) (start s inputs) schedule).results <+: emits step out s inputs
      ∧ ((run (poll step out) (start s inputs) schedule).wire = [] →
        (run (poll step out) (start s inputs) schedule).results = emits step out s inputs)
      ∧ ∃ more, (run (poll step out) (start s inputs) (schedule ++ more)).wire = [] := by
  have hinv : Inv step out s inputs (run (poll step out) (start s inputs) schedule) :=
    run_invariant (poll step out) (Inv step out s inputs)
      (fun _ available h ↦ (poll_reader_eq h available).1) ⟨rfl, rfl, rfl⟩ schedule
  simp only [run_append]
  generalize run (poll step out) (start s inputs) schedule = r at hinv ⊢
  refine ⟨?_, fun hwire ↦ ?_, ?_⟩
  · rw [hinv.results, ← hinv.inputs, emits_append]
    exact List.prefix_append ..
  · rw [hinv.results, ← hinv.inputs, hwire, List.append_nil]
  · induction hn : r.wire.length using Nat.strongRecOn generalizing r with
    | ind n ih =>
        by_cases hwire : r.wire = []
        · exact ⟨[], hwire⟩
        · obtain ⟨hnext, hlt⟩ := poll_reader_eq hinv r.wire.length
          obtain ⟨more, hmore⟩ := ih _ (hn ▸ hlt hwire (List.length_pos_of_ne_nil hwire)) _ hnext rfl
          exact ⟨r.wire.length :: more, hmore⟩

end Reader

end Ksa64.Library
