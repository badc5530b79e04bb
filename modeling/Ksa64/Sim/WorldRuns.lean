import Ksa64.Library.Shifts
import Ksa64.Sim.ForceAgreement
import Ksa64.Sim.WorldSoundness

/-!
# The flight goes forward

A call of the world goes on by at most one segment, takes propellant and gives none back, opens
each parachute once and the main one after the drogue, and ends the flight for good on the ground.
The records of the world tell of each change of segment.
-/

namespace Ksa64.Sim

open Ksa64.Library Ksa64.Core Ksa64.Interface

/-! ## What the jets take -/

section Jets

variable {vehicle : GlobalVehiclePack} {activeJets : Nat} {dt : UInt32} {amount : Int32}

/-- The propellant that the jets take in a second can be rounded in 64 bits, if it can be computed
at all. -/
def JetFlowFits (vehicle : GlobalVehiclePack) (activeJets : Nat) : Prop :=
  vehicle.rcsNominalThrustQ13N.toInt * 2 ^ 40 * activeJets < 2 ^ 63 →
    vehicle.rcsNominalThrustQ13N.toInt * 2 ^ 40 * activeJets
      + vehicle.rcsIspQ16S.toInt * 642689 / 2 < 2 ^ 63

instance : Decidable (JetFlowFits vehicle activeJets) := inferInstanceAs (Decidable (_ → _))

/-- A product that fits. -/
theorem checkedMul_some {a b c : Int64} (h : checkedMul a b = some c) :
    c.toInt = a.toInt * b.toInt := by
  unfold checkedMul at h
  split_ifs at h with hover
  cases h
  rw [Int64.toInt_mul]
  exact Int.bmod_eq_of_le (by omega) (by omega)

/-- A word that is not negative, taken apart into quotient and rest. -/
theorem toInt_div_nonneg {a b : Int64} (ha : 0 ≤ a.toInt) :
    (a / b).toInt = a.toInt / b.toInt := by
  rw [Int64.toInt_div_of_ne_left, Int.tdiv_eq_ediv_of_nonneg ha]
  rintro rfl
  exact absurd ha (by decide)

/-- The rounding of a charge gives no negative amount from a charge that is not negative. -/
theorem rounded_nonneg {charge : Int64} (h : 0 ≤ charge.toInt)
    (hinside : ¬OutsideI32 ((charge + (1 : Int64) <<< 15) >>> 16)) :
    (0 : Int32) ≤ ((charge + (1 : Int64) <<< 15) >>> 16).toInt32 := by
  have hcharge := charge.toInt_lt
  have hshift := toInt_shiftRight_sixteen (charge + (1 : Int64) <<< 15)
  have hsum : (charge + (1 : Int64) <<< 15).toInt = (charge.toInt + 32768).bmod (2 ^ 64) :=
    Int64.toInt_add charge ((1 : Int64) <<< 15)
  unfold OutsideI32 at hinside
  rw [not_or, Int64.not_lt, Int64.not_lt, Int64.le_iff_toInt_le, Int64.le_iff_toInt_le] at hinside
  have hlow : (-2147483648 : Int64).toInt = -2147483648 := rfl
  have hhigh : (2147483647 : Int64).toInt = 2147483647 := rfl
  rw [hlow, hhigh, hshift, hsum] at hinside
  -- A sum that runs over is far outside, so this one has not.
  have hfits : charge.toInt + 32768 < 2 ^ 63 := by
    by_contra hover
    have hwrapped : (charge.toInt + 32768).bmod (2 ^ 64) = charge.toInt + 32768 - 2 ^ 64 :=
      (Int.bmod_eq_iff (by decide)).mpr ⟨by omega, by omega, -1, by omega⟩
    rw [hwrapped] at hinside
    omega
  rw [Int.bmod_eq_of_le (by omega) (by omega)] at hinside
  rw [Int32.le_iff_toInt_le, Int64.toInt_toInt32, hshift, hsum,
    Int.bmod_eq_of_le (n := charge.toInt + 32768) (by omega) (by omega),
    Int.bmod_eq_of_le (by omega) (by omega)]
  show 0 ≤ _
  omega

/-- Where the flow fits, the jets take no less than nothing. -/
theorem rcsPropellantConsumed_nonneg (hthrust : 0 ≤ vehicle.rcsNominalThrustQ13N)
    (hisp : 0 < vehicle.rcsIspQ16S) (hjets : activeJets ≤ 12)
    (hfits : JetFlowFits vehicle activeJets)
    (h : rcsPropellantConsumedQ21 vehicle activeJets dt = some amount) : 0 ≤ amount := by
  unfold rcsPropellantConsumedQ21 at h
  split_ifs at h with hidle
  · cases h
    exact Int32.le_refl 0
  · obtain ⟨numerator, hnumerator, h⟩ := Option.bind_eq_some_iff.mp h
    obtain ⟨thrust, hmul, hmul'⟩ := Option.bind_eq_some_iff.mp hnumerator
    obtain ⟨denominator, hdenominator, h⟩ := Option.bind_eq_some_iff.mp h
    obtain ⟨charge, hcharge, h⟩ := Option.bind_eq_some_iff.mp h
    have hcount : (Int64.ofNat activeJets).toInt = activeJets :=
      Int64.toInt_ofNat_of_lt (by omega)
    have hn : numerator.toInt = vehicle.rcsNominalThrustQ13N.toInt * 2 ^ 40 * activeJets := by
      rw [checkedMul_some hmul', checkedMul_some hmul, hcount, Int32.toInt_toInt64]
      rfl
    have hd : denominator.toInt = vehicle.rcsIspQ16S.toInt * 642689 := by
      rw [checkedMul_some hdenominator, Int32.toInt_toInt64]
      rfl
    have hthrust' : 0 ≤ vehicle.rcsNominalThrustQ13N.toInt := Int32.le_iff_toInt_le.mp hthrust
    have hisp' : 0 < vehicle.rcsIspQ16S.toInt := Int32.lt_iff_toInt_lt.mp hisp
    have hnonneg : 0 ≤ numerator.toInt := by
      rw [hn]
      exact Int.mul_nonneg (Int.mul_nonneg hthrust' (by decide)) (Int.natCast_nonneg activeJets)
    have hhalf : (denominator / 2).toInt = denominator.toInt / 2 :=
      toInt_div_nonneg (by omega)
    have hsum : (numerator + denominator / 2).toInt = numerator.toInt + denominator.toInt / 2 := by
      unfold JetFlowFits at hfits
      rw [Int64.toInt_add, hhalf]
      refine Int.bmod_eq_of_le ?_ ?_
      · omega
      · rw [hn, hd]
        exact hfits (by rw [← hn]; exact numerator.toInt_lt)
    have hflow : 0 ≤ ((numerator + denominator / 2) / denominator).toInt := by
      rw [toInt_div_nonneg (by omega)]
      exact Int.ediv_nonneg (by omega) (by omega)
    have hcharged : 0 ≤ charge.toInt := by
      rw [checkedMul_some hcharge]
      refine Int.mul_nonneg hflow ?_
      show 0 ≤ dt.toUInt64.toBitVec.toInt
      rw [BitVec.toInt_eq_toNat_of_lt]
      · exact Int.natCast_nonneg _
      · have := dt.toNat_lt
        show 2 * dt.toNat < 2 ^ 64
        omega
    dsimp only at h
    split_ifs at h with hinside
    rw [← Option.some.inj h]
    exact rounded_nonneg hcharged hinside

end Jets

namespace GlobalWorldMachine

/-- The number of jets that fire is at most that of the jets there are. -/
theorem activeJets_le (a : GlobalActuatorState) : a.activeJets ≤ 12 := by
  unfold GlobalActuatorState.activeJets
  exact (List.length_filter_le _ _).trans (by rw [Vector.length_toList])

/-! ## One call -/

/-- An automatic step finds the drogue out if the vehicle has passed its apogee, and what the jets
take can be rounded. -/
def Careful (w : GlobalWorldMachine) (command : Option GlobalCommandCell) : Prop :=
  (command = none → w.descending = true → w.drogue = true)
    ∧ JetFlowFits w.vehicle (w.started command).actuators.activeJets

/-- A call goes forward. -/
structure GoesForward (w : GlobalWorldMachine) (command : Option GlobalCommandCell) : Prop where
  segment : (w.after command).segment = w.segment ∨
    nextSegment w.segment = some (w.after command).segment ∧ (w.after command).atRelease = true
  main : 0 ≤ (w.after command).mainPropellantQ21
    ∧ (w.after command).mainPropellantQ21 ≤ w.mainPropellantQ21
  rcs : 0 ≤ (w.after command).rcsPropellantQ21
    ∧ (w.after command).rcsPropellantQ21 ≤ w.rcsPropellantQ21
  drogueOut : (w.after command).drogue = w.drogue
    ∨ (w.after command).drogue = true ∧ (w.after command).events &&& eventDrogue ≠ 0
  mainOut : (w.after command).main = w.main
    ∨ (w.after command).main = true ∧ (w.after command).events &&& eventMain ≠ 0
  sequenced : (w.after command).main = true → (w.after command).drogue = true
  complete : (w.after command).complete = true → (w.after command).segment = .localRecovery
  absorbing : w.complete = true → w.after command = w ∧ (w.call command).Failed
  clock : (∃ snapshot, (w.call command).1 = .ok snapshot) →
    w.currentTime.raw.toNat < (w.after command).currentTime.raw.toNat

section Call

variable {p : WorldPacks} {w : GlobalWorldMachine} {command : Option GlobalCommandCell}

/-- A world that flies forward. -/
structure Forward (p : WorldPacks) (w : GlobalWorldMachine) : Prop extends w.Sound p where
  sequenced : w.main = true → w.drogue = true
  recovered : w.complete = true → w.segment = .localRecovery

/-- A call that succeeds has taken its command and moved the vehicle. -/
theorem moved_of_call_ok {snapshot : GlobalWorldSnapshot}
    (h : (w.call command).1 = .ok snapshot) :
    w.Takes command ∧ (w.moved command).1 = .ok () := by
  have htakes : w.Takes command := by
    by_contra hnot
    obtain ⟨e, hcall⟩ := call_of_not_takes w command hnot
    rw [hcall] at h
    cases h
  refine ⟨htakes, ?_⟩
  rw [call_of_takes w command htakes] at h
  cases hstep : ((w.acceptCommand command).stepPhysical command).1 with
  | error e =>
      rw [Attempt.andThen_error hstep] at h
      cases h
  | ok _ =>
      cases hmoved : (w.moved command).1 with
      | ok _ => rfl
      | error e =>
          have herror : ((w.acceptCommand command).stepPhysical command).1 = .error e :=
            congrArg Prod.fst (Attempt.andThen_error hmoved)
          cases herror.symm.trans hstep

/-- What the jets take is not negative, so the tank does not fill. -/
theorem after_rcs_le (h : w.Sound p) (hp : p.vehicle.validate = .ok ())
    (hfits : JetFlowFits w.vehicle (w.started command).actuators.activeJets) :
    (w.after command).rcsPropellantQ21 ≤ w.rcsPropellantQ21 := by
  by_cases htakes : w.Takes command
  · obtain ⟨hflow, -, -, hthrust, hisp⟩ := flow_of_validate hp
    have hcharge : ∀ u : GlobalWorldMachine, w.Underway u →
        0 ≤ u.rcsPropellantQ21 ∧ u.rcsPropellantQ21 ≤ w.rcsPropellantQ21 →
        0 ≤ (u.consumeRcsPropellant (w.started command).actuators.activeJets
            (w.callLength command)).2.rcsPropellantQ21
          ∧ (u.consumeRcsPropellant (w.started command).actuators.activeJets
            (w.callLength command)).2.rcsPropellantQ21 ≤ w.rcsPropellantQ21 := by
      rintro u hunder ⟨hnonneg, hle⟩
      have hvehicle : u.vehicle = p.vehicle := by
        rw [hunder]
        exact congrArg WorldPacks.vehicle h.packs
      refine ⟨consumeRcsPropellant_nonneg hnonneg, Int32.le_trans ?_ hle⟩
      unfold consumeRcsPropellant
      split
      · exact Int32.le_refl _
      · next amount hamount =>
        have hpositive : 0 ≤ amount := by
          rw [hvehicle] at hamount
          rw [congrArg WorldPacks.vehicle h.packs] at hfits
          exact rcsPropellantConsumed_nonneg (Int32.le_of_lt hthrust) hisp (activeJets_le _) hfits
            hamount
        exact saturatingSubI32_le hnonneg hpositive
    have hmoved : (w.moved command).2.rcsPropellantQ21 = w.rcsPropellantQ21 := by
      have hmoves := moveVehicle_moves (w.started command) (w.callLength command) command.isSome
      unfold moved
      rw [hmoves, started_eq w command]
    obtain ⟨u, -, hu, hprocessed⟩ := @after_processed w command
      (fun u ↦ 0 ≤ u.rcsPropellantQ21 ∧ u.rcsPropellantQ21 ≤ w.rcsPropellantQ21) htakes
      ⟨by rw [hmoved]; exact h.rcsPropellant, by rw [hmoved]; exact Int32.le_refl _⟩ hcharge
      fun _ _ hu ↦ hu
    rw [hprocessed.onward.rcsPropellant]
    exact hu.2
  · rw [after_of_not_takes w command htakes]
    exact Int32.le_refl _

/-- What is out and what has ended stays so. -/
theorem Forward.after (hp : p.vehicle.validate = .ok ()) (h : w.Forward p)
    (hcareful : w.Careful command) : (w.after command).Forward p := by
  by_cases htakes : w.Takes command
  · obtain ⟨u, hunder, -, hprocessed⟩ := h.toSound.processed hp htakes
    have hkept : u.main = w.main ∧ u.drogue = w.drogue ∧ u.descending = w.descending
        ∧ u.complete = w.complete := by
      rw [hunder]
      exact ⟨rfl, rfl, rfl, rfl⟩
    have hdrogue : w.drogue = true → (w.after command).drogue = true := fun hout ↦ by
      rcases hprocessed.onward.latches.drogue with heq | hset
      · rw [heq, hkept.2.1, hout]
      · exact hset.1
    refine ⟨h.toSound.after hp command, fun hmain ↦ ?_, fun hcomplete ↦ ?_⟩
    · rcases hprocessed.main hmain with hbefore | hout | ⟨hnone, hdown⟩
      · exact hdrogue (h.sequenced (hkept.1.symm.trans hbefore))
      · exact hout
      · exact hdrogue (hcareful.1 hnone (hkept.2.2.1.symm.trans hdown))
    · rcases hprocessed.complete hcomplete with hbefore | ⟨hrecovery, -⟩
      · cases (htakes.1.symm.trans (hkept.2.2.2.symm.trans hbefore))
      · exact hrecovery
  · rw [after_of_not_takes w command htakes]
    exact h

/-- A careful call goes forward. -/
theorem Forward.goesForward (hp : p.vehicle.validate = .ok ()) (h : w.Forward p)
    (hcareful : w.Careful command) : w.GoesForward command := by
  have hafter := h.after hp hcareful
  by_cases htakes : w.Takes command
  · obtain ⟨u, hunder, hcharged, hprocessed⟩ := h.toSound.processed hp htakes
    have hkept : u.main = w.main ∧ u.drogue = w.drogue ∧ u.segment = w.segment := by
      rw [hunder]
      exact ⟨rfl, rfl, rfl⟩
    have honward := hprocessed.onward
    exact {
      segment := by
        cases hprocessed.advances with
        | stays hs _ _ => exact .inl (hs.trans hkept.2.2)
        | changes segment record hs hnow hrelease _ _ _ _ =>
            rw [hkept.2.2] at hs
            refine .inr ⟨by rw [hnow]; exact hs, ?_⟩
            unfold atRelease at hrelease ⊢
            rw [honward.time]
            exact hrelease
      main := ⟨hafter.mainPropellant, by rw [honward.mainPropellant]; exact hcharged.main⟩
      rcs := ⟨hafter.rcsPropellant, after_rcs_le h.toSound hp hcareful.2⟩
      drogueOut := by rw [← hkept.2.1]; exact honward.latches.drogue
      mainOut := by rw [← hkept.1]; exact honward.latches.main
      sequenced := hafter.sequenced
      complete := hafter.recovered
      absorbing := fun hc ↦ nomatch htakes.1.symm.trans hc
      clock := by
        rintro ⟨snapshot, hok⟩
        have hmoved := (moved_of_call_ok hok).2
        rw [honward.time, hcharged.time]
        cases h.toSound.moved_result hp command with
        | failed herror _ _ => exact absurd herror (Attempt.not_failed_of_ok hmoved)
        | advanced _ htime _ _ =>
            have hpositive : 0 < (w.moveLength (w.callLength command)).toNat := by
              unfold moveLength
              cases w.segment with
              | localLaunch => exact (by decide : 0 < globalPoweredStepQ16.toNat)
              | localRecovery => exact (by decide : 0 < globalCoastStepQ16.toNat)
              | ecefAscent | eciCoast | ecefEntry =>
                  exact UInt32.lt_iff_toNat_lt.mp
                    ((w.acceptCommand command).stepLength_bounds command.isSome).1
            omega }
  · obtain ⟨e, hcall⟩ := call_of_not_takes w command htakes
    have hsame := after_of_not_takes w command htakes
    exact {
      segment := .inl (by rw [hsame])
      main := ⟨hafter.mainPropellant, by rw [hsame]; exact Int32.le_refl _⟩
      rcs := ⟨hafter.rcsPropellant, by rw [hsame]; exact Int32.le_refl _⟩
      drogueOut := .inl (by rw [hsame])
      mainOut := .inl (by rw [hsame])
      sequenced := hafter.sequenced
      complete := hafter.recovered
      absorbing := fun _ ↦ ⟨hsame, ⟨e, congrArg Prod.fst hcall⟩⟩
      clock := by
        rintro ⟨snapshot, hok⟩
        rw [hcall] at hok
        cases hok }

end Call

/-! ## Runs -/

/-- The change of segment in a call. -/
def changeOf (w : GlobalWorldMachine) (command : Option GlobalCommandCell) : Option Change :=
  if (w.after command).segment = w.segment then none
  else some ⟨w.segment.frame, (w.after command).segment.frame, (w.after command).currentTime⟩

/-- The records of the world tell of the changes so far. -/
structure Tells (changes : List Change) (w : GlobalWorldMachine) : Prop where
  count : w.transitionCount.toNat = changes.length
  room : changes.length ≤ transitionCapacity
  records : (w.transitions.toList.take changes.length).map recordedChange = changes

section Run

/-- The entries up to one that has just been set. -/
theorem toList_setIfInBounds_take {α : Type} {n k : Nat} {v : Vector α n} {a : α} (h : k < n) :
    (v.setIfInBounds k a).toList.take (k + 1) = v.toList.take k ++ [a] := by
  have hlength : k < v.toList.length := by rwa [Vector.length_toList]
  have hset : (v.setIfInBounds k a).toList = v.toList.set k a := Vector.toList_setIfInBounds
  rw [hset, List.take_add_one, List.take_set_of_le (Nat.le_refl k), List.getElem?_set_self hlength]
  rfl

variable {p : WorldPacks} {w : GlobalWorldMachine}

/-- A call adds its change to the records. -/
theorem Tells.after {changes : List Change} (htells : w.Tells changes) (h : w.Sound p)
    (hp : p.vehicle.validate = .ok ()) (command : Option GlobalCommandCell) :
    (w.after command).Tells (changes ++ (w.changeOf command).toList) := by
  have hstays : (w.after command).SameSegments w →
      (w.after command).Tells (changes ++ (w.changeOf command).toList) := by
    rintro ⟨hsegment, htransitions, hcount⟩
    have hnone : w.changeOf command = none := if_pos hsegment.symm
    rw [hnone, Option.toList_none, List.append_nil]
    exact ⟨hcount ▸ htells.count, htells.room, htransitions ▸ htells.records⟩
  by_cases htakes : w.Takes command
  · obtain ⟨u, hunder, -, hprocessed⟩ := h.processed hp htakes
    have hkept : w.SameSegments u := by
      rw [hunder]
      exact ⟨rfl, rfl, rfl⟩
    obtain ⟨hsegment, htransitions, hcount⟩ := hkept
    cases hprocessed.advances with
    | stays hs ht hn =>
        exact hstays ⟨(hs.trans hsegment).symm, (ht.trans htransitions).symm,
          (hn.trans hcount).symm⟩
    | changes segment record hnext hnow _ hroom hrecord ht hn =>
        rw [hsegment] at hnext hrecord
        rw [hcount] at hroom ht hn
        rw [htransitions] at ht
        have hmoves : (w.after command).segment ≠ w.segment := by
          rw [hnow]
          rintro rfl
          cases hs : w.segment <;> rw [hs] at hnext <;> cases hnext
        have hchange : w.changeOf command = some (recordedChange record) := by
          unfold changeOf
          rw [if_neg hmoves, hrecord, hnow, hprocessed.onward.time]
        rw [hchange, Option.toList_some]
        have hlength : changes.length < transitionCapacity := htells.count ▸ hroom
        refine ⟨?_, ?_, ?_⟩
        · rw [hn, List.length_append, ← htells.count, UInt8.toNat_add]
          refine Nat.mod_eq_of_lt ?_
          show w.transitionCount.toNat + 1 < 2 ^ 8
          unfold transitionCapacity at hroom
          omega
        · rw [List.length_append]
          exact hlength
        · rw [ht, htells.count, List.length_append, List.length_singleton,
            toList_setIfInBounds_take hlength, List.map_append, htells.records]
          rfl
  · have hsame := after_of_not_takes w command htakes
    exact hstays (by rw [hsame]; exact ⟨rfl, rfl, rfl⟩)

/-- A new world flies forward, and nothing has changed yet. -/
theorem new_forward (hnew : new p = .ok w) : w.Forward p ∧ w.Tells [] := by
  obtain ⟨-, -, hmain, hcomplete, hcount⟩ := new_latches hnew
  refine ⟨⟨(new_sound hnew).2, fun h ↦ ?_, fun h ↦ ?_⟩, ?_, Nat.zero_le _, ?_⟩
  · cases hmain.symm.trans h
  · cases hcomplete.symm.trans h
  · rw [hcount]
    rfl
  · rfl

/-- Every run whose calls are careful goes forward, and its records tell of its changes. -/
theorem run_goesForward (hnew : new p = .ok w) (commands : List (Option GlobalCommandCell))
    (hcareful : Meets GlobalWorldMachine.after Careful w commands) :
    Meets GlobalWorldMachine.after GoesForward w commands
      ∧ (run GlobalWorldMachine.after w commands).Tells
        (emits GlobalWorldMachine.after changeOf w commands) := by
  have hvehicle := (new_sound hnew).1
  obtain ⟨hforward, htells⟩ := new_forward hnew
  constructor
  · exact meets_of_invariant (Forward p) (fun _ _ h hc ↦ h.after hvehicle hc)
      (fun _ _ h hc ↦ h.goesForward hvehicle hc) hforward hcareful
  · exact (@emits_invariant _ _ _ GlobalWorldMachine.after changeOf (fun _ _ ↦ True)
      (fun changes w ↦ w.Tells changes ∧ w.Sound p)
      (fun changes w c h _ ↦ ⟨h.1.after h.2 hvehicle c, h.2.after hvehicle c⟩)
      w ⟨htells, hforward.toSound⟩ commands (meets_true w commands)).1

end Run

/-! ## A tank that fills -/

/-- Up the rail. -/
def hopRail : List GlobalCommandCell := List.replicate 4 (pulseCommand .localEnuV1 0 0)

/-- A pulse of the first jet, as long as a release. -/
def hopPulse : GlobalCommandCell := pulseCommand .earthFixedEcefV1 1 8

/-- The jets of the hopping vehicle take so much that the charge runs over, and after a step in
which its first jet fires the tank holds more than before. -/
theorem hop_refuels : ∃ w₀ w, new hopPacks = .ok w₀
    ∧ run (fun w c ↦ w.after (some c)) w₀ hopRail = w
    ∧ w.segment = .ecefAscent ∧ (w.started (some hopPulse)).actuators.activeJets = 1
    ∧ w.Takes (some hopPulse) ∧ w.currentTime.raw < (w.after (some hopPulse)).currentTime.raw
    ∧ w.rcsPropellantQ21 < (w.after (some hopPulse)).rcsPropellantQ21 := by
  have hhop : ((new hopPacks).toOption.map fun w₀ ↦
      let w := run (fun w c ↦ w.after (some c)) w₀ hopRail
      let u := w.after (some hopPulse)
      (w.segment, (w.started (some hopPulse)).actuators.activeJets, w.complete,
        decide (w.currentTime.raw < u.currentTime.raw),
        decide (w.rcsPropellantQ21 < u.rcsPropellantQ21)))
        = some (.ecefAscent, 1, false, true, true) := by decide +kernel
  cases hnew : new hopPacks with
  | error e => rw [hnew] at hhop; cases hhop
  | ok w₀ =>
      rw [hnew] at hhop
      simp only [Except.toOption, Option.map_some, Option.some.injEq, Prod.mk.injEq] at hhop
      obtain ⟨hsegment, hjets, hcomplete, htime, hmore⟩ := hhop
      refine ⟨w₀, _, rfl, rfl, hsegment, hjets, ⟨hcomplete, ?_⟩, of_decide_eq_true htime,
        of_decide_eq_true hmore⟩
      rintro _ ⟨⟩
      rw [hsegment]
      rfl

/-- The first step of the hopping vehicle. -/
theorem hop_run_goesForward : ∃ w₀, new hopPacks = .ok w₀ ∧
    Meets GlobalWorldMachine.after GoesForward w₀ [some (pulseCommand .localEnuV1 0 0)]
      ∧ (run GlobalWorldMachine.after w₀ [some (pulseCommand .localEnuV1 0 0)]).Tells
        (emits GlobalWorldMachine.after changeOf w₀ [some (pulseCommand .localEnuV1 0 0)]) := by
  obtain ⟨w₀, hnew⟩ := hop_starts
  have hsound := (new_sound hnew).2
  refine ⟨w₀, hnew, run_goesForward hnew _ ⟨⟨nofun, ?_⟩, trivial⟩⟩
  rw [hsound.started_jets (new_neutral hnew).1, congrArg WorldPacks.vehicle hsound.packs]
  show JetFlowFits hopVehicle 0
  decide

/-- The tank of the jets fills up. -/
theorem tank_fills : ¬∀ (p : WorldPacks) (w₀ : GlobalWorldMachine), new p = .ok w₀ →
    ∀ commands : List (Option GlobalCommandCell),
      Meets GlobalWorldMachine.after GoesForward w₀ commands := by
  intro hall
  obtain ⟨w₀, w, hnew, hrail, -, -, -, -, hmore⟩ := hop_refuels
  have hforward := hall hopPacks w₀ hnew (hopRail.map some ++ [some hopPulse])
  have hlast := (meets_append.mp hforward).2
  rw [run_map, hrail] at hlast
  exact Int32.not_le.mpr hmore hlast.1.rcs.2

end GlobalWorldMachine

end Ksa64.Sim
