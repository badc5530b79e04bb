import Ksa64.Presentation.Payload

/-!
# Global display products

The records that a session shows of its flight, apart from the samples: the transitions
between frames, and the index of bookmarks for a replay.  A client accepts what passes the
checks of `validate`.
-/

namespace Ksa64.Presentation

open Ksa64.Library

def globalDisplayModelId : UInt32 := 0x12c00001
def globalDisplayMaxReplayEntries : Nat := 512

inductive GlobalDisplayFrameId where
  | localEnu
  | earthFixedEcef
  | earthInertialGcrf
deriving DecidableEq, Repr

inductive GlobalDisplaySegment where
  | localLaunch
  | ecefAscent
  | eciCoast
  | ecefEntry
  | localRecovery
deriving DecidableEq, Repr

inductive GlobalDisplayReplayEntryKind where
  | missionEvent
  | frameTransition
  | procedureAction
  | fault
  | terminal
deriving DecidableEq, Repr

def GlobalDisplayReplayEntryKind.code : GlobalDisplayReplayEntryKind → UInt8
  | .missionEvent => 1
  | .frameTransition => 2
  | .procedureAction => 3
  | .fault => 4
  | .terminal => 5

structure GlobalDisplayTransitionV1 where
  releaseEpoch : UInt32
  missionTimeQ16 : UInt32
  fromFrame : GlobalDisplayFrameId
  toFrame : GlobalDisplayFrameId
  fromSegment : GlobalDisplaySegment
  toSegment : GlobalDisplaySegment
  reason : UInt8
  transitionIdentity : UInt32
  transformIdentity : UInt32
  anchorIdentity : UInt32
  positionMaxDeltaRaw : Int32
  velocityMaxDeltaRaw : Int32
  attitudeMaxDeltaRaw : Int32
  angularRateMaxDeltaRaw : Int32
  checksum : UInt32
deriving DecidableEq

structure GlobalDisplayReplayEntryV1 where
  releaseEpoch : UInt32
  missionTimeQ16 : UInt32
  kind : GlobalDisplayReplayEntryKind
  sourceIdentity : UInt32
  eventIdentity : UInt32
  detailIdentity : UInt32
deriving DecidableEq

structure GlobalReplayIndexV1 where
  indexIdentity : UInt32
  sessionDefinitionIdentity : UInt32
  firstRelease : UInt32
  lastRelease : UInt32
  terminalDisposition : UInt8
  dispositionAxes : Vector UInt8 6
  entries : List GlobalDisplayReplayEntryV1
deriving DecidableEq

namespace GlobalReplayIndexV1

/-- The entry before, if there is one, is not later than the entry. -/
def follows (prior : Option GlobalDisplayReplayEntryV1) (entry : GlobalDisplayReplayEntryV1) :
    Prop :=
  ∀ p ∈ prior, ¬(entry.releaseEpoch < p.releaseEpoch ∨ entry.missionTimeQ16 < p.missionTimeQ16)

instance (prior : Option GlobalDisplayReplayEntryV1) (entry : GlobalDisplayReplayEntryV1) :
    Decidable (follows prior entry) := inferInstanceAs (Decidable (∀ p ∈ prior, _))

/-- The checks of the entries, each against the one before it. -/
def validateEntries (index : GlobalReplayIndexV1) :
    Option GlobalDisplayReplayEntryV1 → List GlobalDisplayReplayEntryV1 → Except Kps1Error Unit
  | _, [] => .ok ()
  | prior, entry :: rest =>
      if entry.releaseEpoch < index.firstRelease ∨ index.lastRelease < entry.releaseEpoch
          ∨ entry.eventIdentity = 0 ∨ ¬follows prior entry then .error .sequence
      else index.validateEntries (some entry) rest

def validate (index : GlobalReplayIndexV1) : Except Kps1Error Unit := do
  reject (index.indexIdentity = 0 ∨ index.sessionDefinitionIdentity = 0
    ∨ index.lastRelease < index.firstRelease ∨ 5 < index.terminalDisposition
    ∨ globalDisplayMaxReplayEntries < index.entries.length) .identity
  index.validateEntries none index.entries

end GlobalReplayIndexV1

end Ksa64.Presentation
