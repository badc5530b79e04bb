import Mathlib.Data.List.Forall2
import Ksa64.Library.Run
import Ksa64.Presentation.Global
import Ksa64.Session.GlobalDisplay
import Ksa64.Sim.Ground

/-!
# The transitions of the display

Beside its samples the publisher of the display keeps the transitions between reference
frames, and bookmarks for a replay.  The world counts its transitions and keeps a record of
each; the publisher learns of a new one by comparing the count with the one before.

The log holds one entry for each transition counted exactly when the count never rises by
more than one in a release.
-/

namespace Ksa64.Session

open Ksa64.Library Ksa64.Interface Ksa64.Sim Ksa64.Presentation

/-- What the world records of a transition between frames. -/
structure FrameTransitionRecord where
  fromFrame : GlobalFrameId
  toFrame : GlobalFrameId
  time : UInt32
  positionDeltaRaw : Int32
  velocityDeltaRaw : Int32
  attitudeDeltaRaw : Int32
  angularRateDeltaRaw : Int32
  checksum : UInt32
deriving DecidableEq

def FrameTransitionRecord.zero : FrameTransitionRecord where
  fromFrame := .localEnuV1
  toFrame := .localEnuV1
  time := 0
  positionDeltaRaw := 0
  velocityDeltaRaw := 0
  attitudeDeltaRaw := 0
  angularRateDeltaRaw := 0
  checksum := 0

def displayFrame : GlobalFrameId → GlobalDisplayFrameId
  | .localEnuV1 => .localEnu
  | .earthFixedEcefV1 => .earthFixedEcef
  | .earthInertialEciV1 => .earthInertialGcrf

def displaySegment : GlobalSegment → GlobalDisplaySegment
  | .localLaunch => .localLaunch
  | .ecefAscent => .ecefAscent
  | .eciCoast => .eciCoast
  | .ecefEntry => .ecefEntry
  | .localRecovery => .localRecovery

/-- What the log is told of a release. -/
structure LoggedRelease where
  releaseEpoch : UInt32
  missionTimeQ16 : UInt32
  segment : GlobalSegment
  events : UInt16
  transitionCount : UInt8
  records : Vector FrameTransitionRecord 4
  terminal : Bool
deriving DecidableEq

/-- The identities of the definition that the log names. -/
structure DisplayIdentities where
  transform : UInt32
  mission : UInt32
  launchAnchor : UInt32
  recoveryAnchor : UInt32
deriving DecidableEq

/-- The part of the publisher that keeps transitions and bookmarks.  Of the samples only the
releases stand here. -/
structure DisplayLog where
  identities : DisplayIdentities
  sampleReleases : List UInt32
  transitions : List GlobalDisplayTransitionV1
  replayEntries : List GlobalDisplayReplayEntryV1
  previousSegment : Option GlobalDisplaySegment
  previousTransitionCount : UInt8
deriving DecidableEq

namespace DisplayLog

def new (identities : DisplayIdentities) : DisplayLog where
  identities := identities
  sampleReleases := []
  transitions := []
  replayEntries := []
  previousSegment := none
  previousTransitionCount := 0

/-- The anchor of the segment, if its frame is local. -/
def anchorIdentity (d : DisplayLog) : GlobalDisplaySegment → UInt32
  | .localLaunch => d.identities.launchAnchor
  | .localRecovery => d.identities.recoveryAnchor
  | _ => 0

/-- The transition that a record tells of. -/
def transitionOf (d : DisplayLog) (releaseEpoch : UInt32) (record : FrameTransitionRecord)
    (toSegment : GlobalDisplaySegment) : GlobalDisplayTransitionV1 where
  releaseEpoch := releaseEpoch
  missionTimeQ16 := record.time
  fromFrame := displayFrame record.fromFrame
  toFrame := displayFrame record.toFrame
  fromSegment := d.previousSegment.getD toSegment
  toSegment := toSegment
  reason := 1
  transitionIdentity := hashWords [d.identities.transform, releaseEpoch,
    UInt32.ofNat d.transitions.length, record.checksum]
  transformIdentity := d.identities.transform
  anchorIdentity := d.anchorIdentity toSegment
  positionMaxDeltaRaw := record.positionDeltaRaw
  velocityMaxDeltaRaw := record.velocityDeltaRaw
  attitudeMaxDeltaRaw := record.attitudeDeltaRaw
  angularRateMaxDeltaRaw := record.angularRateDeltaRaw
  checksum := record.checksum

def pushTransition (d : DisplayLog) (releaseEpoch : UInt32) (record : FrameTransitionRecord)
    (toSegment : GlobalDisplaySegment) : DisplayLog :=
  let transition := d.transitionOf releaseEpoch record toSegment
  { d with
    transitions := d.transitions ++ [transition]
    replayEntries := d.replayEntries ++ [{
      releaseEpoch := releaseEpoch
      missionTimeQ16 := record.time
      kind := .frameTransition
      sourceIdentity := d.identities.transform
      eventIdentity := transition.transitionIdentity
      detailIdentity := record.checksum }] }

/-- Log a transition if the count has risen: the record of the last one counted. -/
def logTransition (d : DisplayLog) (release : LoggedRelease) : DisplayLog :=
  if d.previousTransitionCount < release.transitionCount then
    match release.records.toList[(release.transitionCount - 1).toNat]? with
    | none => d
    | some record => d.pushTransition release.releaseEpoch record (displaySegment release.segment)
  else d

/-- Bookmark the events of the release. -/
def logEvents (d : DisplayLog) (release : LoggedRelease) : DisplayLog :=
  if release.events ≠ 0 then
    { d with
      replayEntries := d.replayEntries ++ [{
        releaseEpoch := release.releaseEpoch
        missionTimeQ16 := release.missionTimeQ16
        kind := if release.terminal ∨ release.events &&& eventLanding ≠ 0 then .terminal
          else .missionEvent
        sourceIdentity := d.identities.mission
        eventIdentity := hashWords [d.identities.mission, release.releaseEpoch,
          release.events.toUInt32]
        detailIdentity := release.events.toUInt32 }] }
  else d

def publish (d : DisplayLog) (release : LoggedRelease) : DisplayLog :=
  { ({ d with
        sampleReleases := d.sampleReleases ++ [release.releaseEpoch] }.logTransition
      release).logEvents release with
    previousSegment := some (displaySegment release.segment)
    previousTransitionCount := release.transitionCount }

/-! ## One entry for each transition -/

/-- The transition shows the record. -/
structure Shows (transition : GlobalDisplayTransitionV1) (record : FrameTransitionRecord) :
    Prop where
  time : transition.missionTimeQ16 = record.time
  fromFrame : transition.fromFrame = displayFrame record.fromFrame
  toFrame : transition.toFrame = displayFrame record.toFrame
  position : transition.positionMaxDeltaRaw = record.positionDeltaRaw
  velocity : transition.velocityMaxDeltaRaw = record.velocityDeltaRaw
  attitude : transition.attitudeMaxDeltaRaw = record.attitudeDeltaRaw
  angularRate : transition.angularRateMaxDeltaRaw = record.angularRateDeltaRaw
  checksum : transition.checksum = record.checksum

/-- The next release counts at least the transitions counted before, and its records of them
are those of the world. -/
def Counts (world : List FrameTransitionRecord) (d : DisplayLog) (release : LoggedRelease) :
    Prop :=
  d.previousTransitionCount ≤ release.transitionCount ∧ release.transitionCount ≤ 4
    ∧ release.records.toList.take release.transitionCount.toNat =
      world.take release.transitionCount.toNat

/-- It counts at most one transition more. -/
def RisesByOne (d : DisplayLog) (release : LoggedRelease) : Prop :=
  release.transitionCount.toNat ≤ d.previousTransitionCount.toNat + 1

instance (world : List FrameTransitionRecord) (d : DisplayLog) (release : LoggedRelease) :
    Decidable (Counts world d release) := inferInstanceAs (Decidable (_ ∧ _))

instance (d : DisplayLog) (release : LoggedRelease) : Decidable (RisesByOne d release) :=
  inferInstanceAs (Decidable (_ ≤ _))

/-- The log shows each transition counted, in order. -/
def Complete (world : List FrameTransitionRecord) (d : DisplayLog) : Prop :=
  List.Forall₂ Shows d.transitions (world.take d.previousTransitionCount.toNat)

section Complete

variable {d : DisplayLog} {release : LoggedRelease} {world : List FrameTransitionRecord}
  {record : FrameTransitionRecord}

theorem logEvents_transitions (d : DisplayLog) (release : LoggedRelease) :
    (d.logEvents release).transitions = d.transitions := by
  unfold logEvents
  split <;> rfl

/-- A release that counts no more transitions adds none. -/
theorem publish_transitions_of_same
    (hsame : d.previousTransitionCount = release.transitionCount) :
    (d.publish release).transitions = d.transitions := by
  unfold publish
  dsimp only
  rw [logEvents_transitions]
  unfold logTransition
  dsimp only
  rw [if_neg (hsame ▸ UInt8.lt_irrefl _)]

/-- A release that counts more adds the last of them. -/
theorem publish_transitions_of_rise
    (hrise : d.previousTransitionCount < release.transitionCount)
    (hrecord : release.records.toList[(release.transitionCount - 1).toNat]? = some record) :
    ∃ transition, (d.publish release).transitions = d.transitions ++ [transition]
      ∧ Shows transition record := by
  refine ⟨d.transitionOf release.releaseEpoch record (displaySegment release.segment), ?_,
    ⟨rfl, rfl, rfl, rfl, rfl, rfl, rfl, rfl⟩⟩
  unfold publish
  dsimp only
  rw [logEvents_transitions]
  unfold logTransition
  dsimp only
  rw [if_pos hrise, hrecord]
  rfl

/-- The record of the last transition counted is that of the world. -/
theorem Counts.last (h : Counts world d release)
    (hrise : d.previousTransitionCount < release.transitionCount) :
    ∃ record, release.records.toList[(release.transitionCount - 1).toNat]? = some record
      ∧ world[(release.transitionCount - 1).toNat]? = some record := by
  obtain ⟨-, hfour, hrecords⟩ := h
  rw [UInt8.lt_iff_toNat_lt] at hrise
  rw [UInt8.le_iff_toNat_le] at hfour
  replace hfour : release.transitionCount.toNat ≤ 4 := hfour
  have hone : (1 : UInt8) ≤ release.transitionCount := by
    rw [UInt8.le_iff_toNat_le]
    exact Nat.lt_of_le_of_lt (Nat.zero_le _) hrise
  have hlast : (release.transitionCount - 1).toNat = release.transitionCount.toNat - 1 :=
    UInt8.toNat_sub_of_le _ _ hone
  have hindex : (release.transitionCount - 1).toNat < release.transitionCount.toNat := by omega
  have hlength : (release.transitionCount - 1).toNat < release.records.toList.length := by
    rw [Vector.length_toList]
    omega
  refine ⟨_, List.getElem?_eq_getElem hlength, ?_⟩
  rw [← List.getElem?_take_of_lt hindex, ← hrecords, List.getElem?_take_of_lt hindex]
  exact List.getElem?_eq_getElem hlength

/-- The world has as many records as are counted. -/
theorem Counts.le_length (h : Counts world d release) :
    release.transitionCount.toNat ≤ world.length := by
  obtain ⟨-, hfour, hrecords⟩ := h
  rw [UInt8.le_iff_toNat_le] at hfour
  replace hfour : release.transitionCount.toNat ≤ 4 := hfour
  have hlength := congrArg List.length hrecords
  rw [List.length_take, List.length_take, Vector.length_toList] at hlength
  omega

/-- One record more is shown by one transition more. -/
theorem forall₂_concat {α β : Type} {R : α → β → Prop} {as : List α} {bs : List β} {a : α} {b : β} :
    List.Forall₂ R (as ++ [a]) (bs ++ [b]) ↔ List.Forall₂ R as bs ∧ R a b := by
  rw [← List.forall₂_reverse_iff, List.reverse_append, List.reverse_append]
  simp only [List.reverse_singleton, List.singleton_append, List.forall₂_cons,
    List.forall₂_reverse_iff]
  exact and_comm

/-- A release keeps the log complete iff it counts at most one transition more. -/
theorem complete_publish_iff (h : Counts world d release)
    (hatMost : d.transitions.length ≤ d.previousTransitionCount.toNat) :
    (d.publish release).transitions.length ≤ (d.publish release).previousTransitionCount.toNat
      ∧ (Complete world (d.publish release) ↔ Complete world d ∧ RisesByOne d release) := by
  unfold Complete
  rw [show (d.publish release).previousTransitionCount = release.transitionCount from rfl]
  by_cases hsame : d.previousTransitionCount = release.transitionCount
  · rw [publish_transitions_of_same hsame, ← hsame]
    refine ⟨hatMost, (and_iff_left ?_).symm⟩
    unfold RisesByOne
    rw [hsame]
    exact Nat.le_succ _
  · have hrise : d.previousTransitionCount < release.transitionCount :=
      UInt8.lt_of_le_of_ne h.1 hsame
    obtain ⟨record, hrecord, hworld⟩ := h.last hrise
    obtain ⟨transition, htransitions, hshows⟩ := publish_transitions_of_rise hrise hrecord
    have hlast : (release.transitionCount - 1).toNat = release.transitionCount.toNat - 1 := by
      refine UInt8.toNat_sub_of_le _ _ ?_
      rw [UInt8.le_iff_toNat_le]
      exact Nat.lt_of_le_of_lt (Nat.zero_le _) (UInt8.lt_iff_toNat_lt.mp hrise)
    rw [UInt8.lt_iff_toNat_lt] at hrise
    rw [htransitions, List.length_append, List.length_singleton]
    refine ⟨by omega, ?_⟩
    by_cases hone : release.transitionCount.toNat = d.previousTransitionCount.toNat + 1
    · rw [hlast, hone, Nat.add_sub_cancel] at hworld
      rw [hone, List.take_add_one, hworld, Option.toList_some, forall₂_concat]
      exact ⟨fun ⟨hbefore, _⟩ ↦ ⟨hbefore, hone.le⟩, fun ⟨hbefore, _⟩ ↦ ⟨hbefore, hshows⟩⟩
    · refine iff_of_false (fun hcomplete ↦ ?_) fun ⟨_, hrises⟩ ↦ ?_
      · have hlength := hcomplete.length_eq
        rw [List.length_append, List.length_singleton, List.length_take,
          Nat.min_eq_left h.le_length] at hlength
        omega
      · have hrises : release.transitionCount.toNat ≤ d.previousTransitionCount.toNat + 1 := hrises
        omega

end Complete

/-- For every sequence of releases whose counts do not fall and whose records are those of the
world, the log is complete iff no count rises by more than one. -/
theorem complete_iff_risesByOne {identities : DisplayIdentities}
    {world : List FrameTransitionRecord} {releases : List LoggedRelease}
    (hcounts : Meets publish (Counts world) (.new identities) releases) :
    Complete world (run publish (.new identities) releases) ↔
      Meets publish RisesByOne (.new identities) releases := by
  have h := history_invariant_of_meets (fun releases d ↦
      d = run publish (.new identities) releases
        ∧ d.transitions.length ≤ d.previousTransitionCount.toNat
        ∧ (Complete world d ↔ Meets publish RisesByOne (.new identities) releases)) ?_
    ⟨rfl, Nat.le_refl _, iff_of_true List.Forall₂.nil trivial⟩ hcounts
  · exact h.2.2
  · rintro releases _ release ⟨rfl, hatMost, hcomplete⟩ hcount
    obtain ⟨hnext, hiff⟩ := complete_publish_iff hcount hatMost
    refine ⟨(run_concat publish _ releases release).symm, hnext, hiff.trans ?_⟩
    rw [hcomplete, meets_append]
    exact and_congr_right fun _ ↦ (and_iff_left trivial).symm

/-- A release at which the world counts so many transitions, without records of its own. -/
def countedRelease (releaseEpoch : UInt32) (transitionCount : UInt8) : LoggedRelease where
  releaseEpoch := releaseEpoch
  missionTimeQ16 := 0
  segment := .localLaunch
  events := 0
  transitionCount := transitionCount
  records := .replicate 4 .zero
  terminal := false

/-- Transitions that are counted one by one are all logged. -/
theorem complete_one_by_one :
    Complete (List.replicate 4 .zero)
      (run publish (.new ⟨1, 2, 3, 4⟩)
        [countedRelease 0 0, countedRelease 1 1, countedRelease 2 1, countedRelease 3 2]) :=
  (complete_iff_risesByOne (by decide)).mpr (by decide)

/-- Of two transitions counted in one release the first is skipped. -/
theorem transition_skipped :
    ¬∀ (identities : DisplayIdentities) (world : List FrameTransitionRecord)
      (releases : List LoggedRelease), Meets publish (Counts world) (.new identities) releases →
        Complete world (run publish (.new identities) releases) := by
  intro hcomplete
  have hone := hcomplete ⟨1, 2, 3, 4⟩ (List.replicate 4 .zero) [countedRelease 0 2] (by decide)
  exact absurd hone.length_eq (by decide)

end DisplayLog

end Ksa64.Session
