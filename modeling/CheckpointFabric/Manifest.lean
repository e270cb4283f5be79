import CheckpointFabric.Checkpoint

/-!
# The canonical manifest

Every sealed checkpoint has a manifest. The digest of its canonical text is the
checkpoint's integrity anchor; the integrity root inside it derives from the
component hashes and the text with an empty root.

Serialization and hashing come from libraries; they are the parameter `Codecs`.
-/

set_option autoImplicit false

namespace CheckpointFabric

/-- Canonical serialization format version. -/
def manifestFormatVersion : ℕ := 1

/-- Integrity anchor of the manifest. -/
structure IntegrityInfo where
  contentHashAlgorithm : String
  root : String
  deriving DecidableEq, Repr

/-- The canonical manifest of a sealed checkpoint. The attempt id in a document can be any text; in
the manifests that are sealed it is one of the coordinator's. -/
structure Manifest (Attempt : Type := AttemptId) where
  formatVersion : ℕ
  checkpointId : Id
  workloadId : Id
  workloadGeneration : ℕ
  checkpointGeneration : ℕ
  parentCheckpoint : Option Id
  captureAttempt : Attempt
  coordinatorEpoch : ℕ
  createdMs : ℕ
  sealMs : ℕ
  sourceNode : NodeId
  sourceBackend : String
  frontier : ExecutionFrontier
  checkpointType : CheckpointType
  consistency : ConsistencyClass
  resumability : ResumabilityClass
  components : List ComponentEntry
  totalLogicalBytes : ℕ
  totalPhysicalBytes : ℕ
  compressedBytes : ℕ
  durableLocations : List DurableLocation
  replicaCount : ℕ
  lineageParents : List Id
  policyVersion : ℕ
  runtimeDescriptor : RuntimeCompatibilityDescriptor
  hardwareDescriptor : HardwareCompatibilityDescriptor
  dependencies : List ExternalDependency
  integrity : IntegrityInfo
  metadata : String
  deriving DecidableEq, Repr

/-- The serializer and the hash function. -/
structure Codecs (Attempt : Type := AttemptId) where
  /-- The canonical text of a manifest. -/
  toCanonical : Manifest Attempt → String
  /-- The manifest a text stands for, when it is one. -/
  ofCanonical : String → Option (Manifest Attempt)
  sha256Hex : String → String

/-- Sealed manifest record: canonical text, digest and root. -/
structure SealedManifest (Attempt : Type := AttemptId) where
  manifest : Manifest Attempt
  canonicalBytes : String
  digest : String
  integrityRoot : String

namespace Manifest

variable {Attempt : Type} (codecs : Codecs Attempt)

/-- The integrity root (root field ignored). -/
def computeIntegrityRoot (m : Manifest Attempt) : String :=
  let canonical := codecs.toCanonical { m with integrity := { m.integrity with root := "" } }
  codecs.sha256Hex (String.join (m.components.map (·.contentHash)) ++ canonical)

/-- Whether the embedded root matches the canonical derivation. -/
def verifyIntegrityRoot (m : Manifest Attempt) : Bool := m.computeIntegrityRoot codecs == m.integrity.root

/-- Build a manifest scaffold from a checkpoint object. -/
def scaffold (checkpoint : CheckpointObject) : Manifest where
  formatVersion := manifestFormatVersion
  checkpointId := checkpoint.checkpointId
  workloadId := checkpoint.workloadId
  workloadGeneration := checkpoint.workloadGeneration
  checkpointGeneration := checkpoint.checkpointGeneration
  parentCheckpoint := checkpoint.parentCheckpoint
  captureAttempt := checkpoint.captureAttempt
  coordinatorEpoch := checkpoint.coordinatorEpoch
  createdMs := checkpoint.createdMs
  sealMs := checkpoint.sealMs
  sourceNode := checkpoint.sourceNode
  sourceBackend := checkpoint.sourceBackend
  frontier := checkpoint.frontier
  checkpointType := checkpoint.checkpointType
  consistency := checkpoint.consistency
  resumability := checkpoint.resumability
  components := checkpoint.components
  totalLogicalBytes := checkpoint.totalLogicalBytes
  totalPhysicalBytes := checkpoint.totalPhysicalBytes
  compressedBytes := checkpoint.compressedBytes
  durableLocations := checkpoint.durableLocations
  replicaCount := checkpoint.replicaCount
  lineageParents := checkpoint.lineageParents
  policyVersion := checkpoint.policyVersion
  runtimeDescriptor := checkpoint.runtimeDescriptor
  hardwareDescriptor := checkpoint.hardwareDescriptor
  dependencies := checkpoint.dependencies
  integrity := { contentHashAlgorithm := "sha256", root := "" }
  metadata := checkpoint.metadata

/-- Seal a scaffold: compute the integrity root and digest. -/
def sealManifest (m : Manifest Attempt) : SealedManifest Attempt :=
  let root := m.computeIntegrityRoot codecs
  let m := { m with integrity := { m.integrity with root } }
  let canonicalBytes := codecs.toCanonical m
  { manifest := m
    canonicalBytes
    digest := codecs.sha256Hex canonicalBytes
    integrityRoot := root }

/-- Parse and validate a manifest from canonical text. -/
def parse (canonical : String) : FabricResult (Manifest Attempt) :=
  match codecs.ofCanonical canonical with
  | none => .error (.corruptedCheckpoint "bad manifest")
  | some m =>
    if m.formatVersion ≠ manifestFormatVersion then
      .error (.corruptedCheckpoint s!"unsupported manifest format version {m.formatVersion}")
    else if ¬ m.verifyIntegrityRoot codecs then
      .error (.integrityFailure "manifest integrity root mismatch")
    else .ok m

end Manifest

end CheckpointFabric
