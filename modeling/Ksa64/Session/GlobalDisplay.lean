import Ksa64.Interface.Phase10

/-!
# The display of the full mission

The publisher keeps one sample for each release.  Of a sample only the mask of its
discontinuities is kept; the poses of the sources stand as their lineages.
-/

namespace Ksa64.Session

open Ksa64.Interface

def globalDiscontinuityFrame : UInt32 := (1 : UInt32) <<< 0
def globalDiscontinuitySegment : UInt32 := (1 : UInt32) <<< 1
def globalDiscontinuityDeployment : UInt32 := (1 : UInt32) <<< 2
def globalDiscontinuityAttitudeRetired : UInt32 := (1 : UInt32) <<< 3
def globalDiscontinuityNavigationReset : UInt32 := (1 : UInt32) <<< 4
def globalDiscontinuitySourceReplaced : UInt32 := (1 : UInt32) <<< 5
def globalDiscontinuityTerminal : UInt32 := (1 : UInt32) <<< 8

def eventDrogue : UInt16 := 0x0040
def eventMain : UInt16 := 0x0100
def eventLanding : UInt16 := 0x0200

inductive GlobalSegment where
  | localLaunch
  | ecefAscent
  | eciCoast
  | ecefEntry
  | localRecovery
deriving DecidableEq, Repr

/-- The model and the estimate behind each of the four sources, as far as it has a pose. -/
abbrev SourceLineages := Vector (Option (UInt32 × UInt32)) 4

structure GlobalDisplaySample where
  releaseEpoch : UInt32
  discontinuityMask : UInt32
deriving DecidableEq

/-- The sample is marked as a reset of the onboard navigation. -/
def GlobalDisplaySample.navigationReset (sample : GlobalDisplaySample) : Bool :=
  sample.discontinuityMask &&& globalDiscontinuityNavigationReset != 0

structure GlobalDisplayPublisher where
  samples : List GlobalDisplaySample
  previousFrame : Option GlobalFrameId
  previousSegment : Option GlobalSegment
  sourceLineages : SourceLineages
  attitudeRetired : Bool
  pendingDiscontinuityMask : UInt32
deriving DecidableEq

/-- What the publisher is shown of a release. -/
structure DisplayedRelease where
  frame : GlobalFrameId
  segment : GlobalSegment
  events : UInt16
  lineages : SourceLineages
  terminal : Bool
deriving DecidableEq

namespace GlobalDisplayPublisher

def new : GlobalDisplayPublisher where
  samples := []
  previousFrame := none
  previousSegment := none
  sourceLineages := Vector.replicate 4 none
  attitudeRetired := false
  pendingDiscontinuityMask := 0

/-- The mask with the bit, if the condition holds. -/
def mark (condition : Bool) (bit mask : UInt32) : UInt32 := if condition then mask ||| bit else mask

def deploys (release : DisplayedRelease) : Bool :=
  release.events &&& (eventDrogue ||| eventMain) != 0

/-- The discontinuities of a release, without those marked before. -/
def discontinuities (d : GlobalDisplayPublisher) (release : DisplayedRelease) : UInt32 :=
  let mask := mark (d.previousFrame.any (· != release.frame)) globalDiscontinuityFrame 0
  let mask := mark (d.previousSegment.any (· != release.segment)) globalDiscontinuitySegment mask
  let mask := mark (deploys release) globalDiscontinuityDeployment mask
  let mask := mark (deploys release && !d.attitudeRetired) globalDiscontinuityAttitudeRetired mask
  let mask := mark (release.terminal || release.events &&& eventLanding != 0)
    globalDiscontinuityTerminal mask
  mark (!d.samples.isEmpty && release.lineages != d.sourceLineages)
    globalDiscontinuitySourceReplaced mask

def publish (d : GlobalDisplayPublisher) (releaseEpoch : UInt32) (release : DisplayedRelease) :
    GlobalDisplayPublisher where
  samples := d.samples ++ [{
    releaseEpoch := releaseEpoch
    discontinuityMask := d.discontinuities release ||| d.pendingDiscontinuityMask }]
  previousFrame := some release.frame
  previousSegment := some release.segment
  sourceLineages := release.lineages
  attitudeRetired := d.attitudeRetired || deploys release
  pendingDiscontinuityMask := 0

/-- Mark the next sample as a reset of the onboard navigation. -/
def markNavigationReset (d : GlobalDisplayPublisher) : GlobalDisplayPublisher :=
  { d with
    pendingDiscontinuityMask :=
      d.pendingDiscontinuityMask ||| globalDiscontinuityNavigationReset }

theorem or_and_distrib32 (a b c : UInt32) : (a ||| b) &&& c = a &&& c ||| b &&& c := by
  rw [← UInt32.toBitVec_inj]
  ext i
  cases h : a.toBitVec[i] <;> simp [h]

/-- A mark leaves the other bits alone. -/
theorem mark_and {bit mask other : UInt32} (hmask : mask &&& other = 0)
    (hbit : bit &&& other = 0) (condition : Bool) : mark condition bit mask &&& other = 0 := by
  unfold mark
  split
  · rw [or_and_distrib32, hmask, hbit]
    rfl
  · exact hmask

/-- A release by itself never resets the navigation. -/
theorem discontinuities_navigationReset (d : GlobalDisplayPublisher)
    (release : DisplayedRelease) :
    d.discontinuities release &&& globalDiscontinuityNavigationReset = 0 := by
  have hzero : (0 : UInt32) &&& globalDiscontinuityNavigationReset = 0 := by decide
  exact mark_and (mark_and (mark_and (mark_and (mark_and (mark_and hzero (by decide) _) (by decide) _)
    (by decide) _) (by decide) _) (by decide) _) (by decide) _

/-- The sample of a release is marked as a reset exactly when one was marked before. -/
theorem publish_navigationReset (d : GlobalDisplayPublisher) (release : DisplayedRelease)
    (releaseEpoch : UInt32) {sample : GlobalDisplaySample}
    (hsample : sample ∈ (d.publish releaseEpoch release).samples)
    (hreset : sample.navigationReset = true) :
    sample ∈ d.samples ∨ sample.releaseEpoch = releaseEpoch
      ∧ d.pendingDiscontinuityMask &&& globalDiscontinuityNavigationReset ≠ 0 := by
  rcases List.mem_append.mp hsample with hold | hnew
  · exact .inl hold
  · obtain rfl := List.mem_singleton.mp hnew
    refine .inr ⟨rfl, fun hzero ↦ ?_⟩
    unfold GlobalDisplaySample.navigationReset at hreset
    rw [or_and_distrib32, discontinuities_navigationReset, hzero] at hreset
    exact absurd hreset (by decide)

/-- After the mark the next sample is marked. -/
theorem publish_marked (d : GlobalDisplayPublisher) (release : DisplayedRelease)
    (releaseEpoch : UInt32) :
    ∃ sample ∈ (d.markNavigationReset.publish releaseEpoch release).samples,
      sample.releaseEpoch = releaseEpoch ∧ sample.navigationReset = true := by
  refine ⟨_, List.mem_append_right _ (List.mem_singleton_self _), rfl, ?_⟩
  unfold GlobalDisplaySample.navigationReset markNavigationReset
  dsimp only
  rw [or_and_distrib32, or_and_distrib32, discontinuities_navigationReset, UInt32.zero_or,
    UInt32.and_self]
  rw [bne_iff_ne]
  intro hzero
  exact absurd (UInt32.or_eq_zero_iff.mp hzero).2 (by decide)

end GlobalDisplayPublisher

end Ksa64.Session
