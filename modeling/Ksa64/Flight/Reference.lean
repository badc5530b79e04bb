import Ksa64.Interface.MissionPlan

/-!
# The reference package's manifest and mission plan

The constants of the KSA-G10R reference operations package.
-/

namespace Ksa64.Flight

open Ksa64.Interface

def ksaG10rReferenceOpsManifestId : UInt32 := 0x11f5a001
def ksaG10rReferenceOpsImplementationId : UInt32 := 0x11f51001
def globalEcefProfileId : UInt32 := 5
def ksaG10rMissionCompatibilityId : UInt32 := 0x10a00001
def globalFlightContractId : UInt32 := 0x10530001
def klr10ContractId : UInt32 := 0x10520001

def ksaG10rReferenceOpsManifest : FlightSoftwarePackageManifest where
  manifestIdentity := ksaG10rReferenceOpsManifestId
  package := .ksaG10rReferenceOpsV1
  implementationIdentity := ksaG10rReferenceOpsImplementationId
  abi := .globalKlr10V1
  vehicleProfileIdentity := globalEcefProfileId
  missionCompatibilityIdentity := ksaG10rMissionCompatibilityId
  capabilities := packageCapMask
  segmentSupport := packageSegmentMask
  commandLoadSupport := packageLoadMask
  targets := 7
  safeState := .referenceGlobalSafeV1
  commandLoss := .frozenKlr10HoldThenSafe
  resource := {
    persistentBytes := 4096
    transientBytes := 4096
    stackBytes := 512
    journalRecords := 32
    maximumObjectBytes := 4096 }
  fastHz := 32
  navigationHz := 8
  guidanceHz := 1
  maximumPlanEvents := 24
  maximumBranches := 8
  maximumDecisions := 8
  codeIdentity := globalFlightContractId
  configurationIdentity := klr10ContractId
  resourceEvidenceSha256 := Vector.replicate 32 0x11

def ksaG10rReferencePlanEvent : MissionPlanEvent where
  eventId := 1
  kind := .plannedCorrection
  trigger := .exactRelease
  flags := 0
  failurePolicy := .failClosed
  earliestEpoch := 100
  latestEpoch := 120
  exactEpoch := 110
  prerequisiteEvents := 0
  requiredCapabilities := packageCapTargetUpdate
  arguments := .replicate 4 0
  guardMetric := 0
  guardComparison := 0

def ksaG10rReferenceMissionPlan : MissionPlan where
  planIdentity := 0x11a00001
  packageManifestIdentity := ksaG10rReferenceOpsManifestId
  package := .ksaG10rReferenceOpsV1
  abi := .globalKlr10V1
  vehicleProfileIdentity := globalEcefProfileId
  missionIdentity := ksaG10rMissionCompatibilityId
  earthIdentity := 0x10e00001
  environmentIdentity := 0x10a70001
  onboardPredictionModel := 0x11d00001
  groundPredictionModel := 0x11d00002
  requiredCapabilities := packageCapMask
  eventCount := 1
  branchCount := 0
  decisionCount := 0
  events := (Vector.replicate kmp11MaxEvents .empty).set 0 ksaG10rReferencePlanEvent (by decide)
  branches := Vector.replicate kmp11MaxBranches .empty
  decisions := Vector.replicate kmp11MaxDecisions .empty

/-- The plan does not belong to the package of the manifest, or asks for more than it
can do. -/
def planForeign (plan : MissionPlan) (manifest : FlightSoftwarePackageManifest) : Bool :=
  plan.packageManifestIdentity != manifest.manifestIdentity
    || plan.package != manifest.package
    || plan.abi != manifest.abi
    || plan.vehicleProfileIdentity != manifest.vehicleProfileIdentity
    || plan.missionIdentity != manifest.missionCompatibilityIdentity
    || plan.requiredCapabilities &&& ~~~manifest.capabilities != 0

/-- The reference plan passes the checks of its codec. -/
example : validatePlan ksaG10rReferenceMissionPlan = .ok () := by decide +kernel

end Ksa64.Flight
