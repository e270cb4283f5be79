import CheckpointFabric.Lifecycle

/-!
# The checkpoint object

Identities, the execution frontier, the descriptors a checkpoint carries, and the
checkpoint object itself. Two pieces of text that the coordinator only stores and
hands on are kept as opaque strings: application metadata, and the compatibility
note of a component.

An identity is a 128-bit number. A fencing token is only ever compared, so it is a
number as well; so is the random part of an attempt id.
-/

set_option autoImplicit false

namespace CheckpointFabric

/-- A stable identity. -/
abbrev Id := ℕ

/-- Authority to act as the active continuation of a workload. -/
abbrev FenceToken := ℕ

/-- The name a node registers under. -/
abbrev NodeId := String

/-- The low `digits` hexadecimal digits of `n`, most significant first. -/
def hexDigits (n : ℕ) : ℕ → List Char
  | 0 => []
  | digits + 1 => hexDigits (n / 16) digits ++ [(n % 16).digitChar]

/-- Hex encoding (32 lowercase hex characters). -/
def toHex (id : Id) : String := String.ofList (hexDigits id 32)

/-- The id of a capture, restore or replication attempt: what it is about, and a
random part. -/
inductive AttemptId
  | capture (workload nonce : Id)
  | restore (checkpoint nonce : Id)
  | replicate (checkpoint nonce : Id)
  deriving DecidableEq, Repr

/-- The identity that was drawn for an attempt. -/
def AttemptId.nonce : AttemptId → Id
  | capture _ nonce | restore _ nonce | replicate _ nonce => nonce

/-- The text of an attempt id. -/
protected def AttemptId.toString : AttemptId → String
  | capture workload nonce => s!"capture-{toHex workload}-{toHex nonce}"
  | restore checkpoint nonce => s!"restore-{toHex checkpoint}-{toHex nonce}"
  | replicate checkpoint nonce => s!"replicate-{toHex checkpoint}-{toHex nonce}"

instance : ToString AttemptId := ⟨AttemptId.toString⟩

/-- The text shown for an optional field that is absent. -/
def unwrapOrDefault (text : Option String) : String := text.getD ""

section Frontier

/-- An operation that is in flight at capture time. -/
structure InFlightOperation where
  operationId : String
  kind : String
  startedMs : ℕ
  idempotent : Bool
  externallyCommitted : Bool
  deriving DecidableEq, Inhabited, Repr

/-- What the frontier supports. -/
structure ResumabilityFlags where
  exact : Bool := true
  equivalent : Bool := true
  degraded : Bool := true
  deterministicReplayVerified : Bool := false
  pendingNonReplayable : Bool := false
  unknownSideEffects : Bool := false
  deriving DecidableEq, Repr

instance : Inhabited ResumabilityFlags := ⟨{}⟩

/-- The logical point to which a workload can safely resume. -/
structure ExecutionFrontier where
  workloadGeneration : ℕ := 0
  executionEpoch : ℕ := 0
  logicalStep : ℕ := 0
  applicationSequence : Option String := none
  durableSideEffectBoundary : ℕ := 0
  stateGenerationMap : List (String × ℕ) := []
  toolItemFrontier : Option String := none
  externalCommitFrontier : Option String := none
  lastCompletedOperationId : Option String := none
  inFlightOperations : List InFlightOperation := []
  flags : ResumabilityFlags := {}
  deriving DecidableEq, Repr

instance : Inhabited ExecutionFrontier := ⟨{}⟩

/-- Classification of an external side effect at capture time. -/
inductive SideEffectStatus
  | uncommitted
  | committed
  | replayable
  | nonReplayable
  | unknown
  deriving DecidableEq, Repr

/-- One tracked external side effect. -/
structure SideEffectEntry where
  sideEffectId : String
  kind : String
  status : SideEffectStatus
  idempotencyKey : Option String
  committedMs : Option ℕ
  deriving DecidableEq, Repr

/-- The side-effect manifest of a workload frontier. -/
structure SideEffectManifest where
  entries : List SideEffectEntry := []
  frontierBoundary : ℕ := 0
  deriving DecidableEq, Repr

/-- The first entry that rules out exact resumption decides the error. -/
def SideEffectManifest.validateForExact (manifest : SideEffectManifest) : FabricResult Unit :=
  go manifest.entries
where
  go : List SideEffectEntry → FabricResult Unit
    | [] => .ok ()
    | e :: entries =>
      match e.status with
      | .unknown => .error (.frontierInconsistency
          s!"side effect {e.sideEffectId} has UNKNOWN state; exact resumability cannot be claimed")
      | .nonReplayable => .error (.frontierInconsistency
          s!"side effect {e.sideEffectId} is NON_REPLAYABLE and not committed; capture must not cross an unresolved non-idempotent side-effect boundary")
      | _ => go entries

end Frontier

section Descriptors

/-- Runtime compatibility descriptor carried by workloads, checkpoints and nodes. -/
structure RuntimeCompatibilityDescriptor where
  os : String
  arch : String
  runtimeVersion : String
  stateSchemaVersion : ℕ
  workloadClass : String
  backendClass : String
  acceleratorCapabilities : List String
  providerVersions : List (String × String)
  application : Option String
  deriving DecidableEq, Inhabited, Repr

/-- Accelerator requirements. -/
structure AcceleratorRequirement where
  vendor : String
  model : Option String
  capability : String
  memoryBytes : Option ℕ
  deriving DecidableEq, Inhabited, Repr

/-- Hardware compatibility requirements of a checkpoint. -/
structure HardwareCompatibilityDescriptor where
  os : String := ""
  arch : String := ""
  accelerator : Option AcceleratorRequirement := none
  wordSizeBits : ℕ := 0
  endianness : String := ""
  deriving DecidableEq, Repr

instance : Inhabited HardwareCompatibilityDescriptor := ⟨{}⟩

/-- External dependency tracked by a checkpoint. -/
structure ExternalDependency where
  kind : String
  identity : String
  expectedHash : Option String
  required : Bool
  deriving DecidableEq, Repr

/-- A durable location of a checkpoint replica. -/
structure DurableLocation where
  node : NodeId
  path : String
  verified : Bool
  deriving DecidableEq, Repr

/-- Typed component classes. -/
inductive ComponentType
  | processMetadata
  | applicationState
  | memoryRegion
  | acceleratorState
  | runtimeState
  | queueState
  | schedulerState
  | rngState
  | filesystemState
  | openResourceDescriptor
  | toolState
  | modelState
  | kvState
  | customState
  deriving DecidableEq, Repr

/-- How a component's bytes are stored on disk. -/
structure StorageRepresentation where
  codec : String
  originalSize : ℕ
  storedSize : ℕ
  storedHash : String
  relativePath : String
  deriving DecidableEq, Repr

/-- A state component entry recorded in a checkpoint. -/
structure ComponentEntry where
  componentId : String
  componentType : ComponentType
  generation : ℕ
  required : Bool
  logicalSize : ℕ
  storageRepresentation : StorageRepresentation
  contentHash : String
  schemaVersion : ℕ
  restoreHandler : String
  compatibility : String
  dependencies : List String
  captureStatus : String
  restoreStatus : String
  deriving DecidableEq, Repr

end Descriptors

section Classes

/-- Checkpoint types supported by the fabric. -/
inductive CheckpointType
  | full
  | incremental
  | delta
  | application
  | process
  | executionFrontier
  | portable
  | localOnly
  deriving DecidableEq, Repr

/-- How coherent the captured state is. -/
inductive ConsistencyClass
  | crashConsistent
  | applicationConsistent
  | executionConsistent
  deriving DecidableEq, Repr

/-- The stored name of a consistency class. -/
def ConsistencyClass.asStr : ConsistencyClass → String
  | crashConsistent => "CRASH_CONSISTENT"
  | applicationConsistent => "APPLICATION_CONSISTENT"
  | executionConsistent => "EXECUTION_CONSISTENT"

/-- The position of a consistency class in its order, weakest first. -/
def ConsistencyClass.rank : ConsistencyClass → ℕ
  | crashConsistent => 0
  | applicationConsistent => 1
  | executionConsistent => 2

/-- What a restore may achieve. -/
inductive ResumabilityClass
  | nonResumable
  | restartFromCheckpoint
  | degraded
  | equivalent
  | exact
  deriving DecidableEq, Repr

/-- The position of a resumability class in its order, weakest first. -/
def ResumabilityClass.rank : ResumabilityClass → ℕ
  | nonResumable => 0
  | restartFromCheckpoint => 1
  | degraded => 2
  | equivalent => 3
  | exact => 4

/-- Integrity state of a durable checkpoint. -/
inductive IntegrityState
  | pending
  | valid
  | corrupt
  | unverifiable
  deriving DecidableEq, Repr

/-- Protection state of a checkpoint. -/
inductive ProtectionState
  | none
  | protected_
  | pinned
  deriving DecidableEq, Repr

/-- The name a protection state is shown with in errors. -/
def ProtectionState.debugName : ProtectionState → String
  | .none => "None"
  | .protected_ => "Protected"
  | .pinned => "Pinned"

/-- Retirement eligibility classification. -/
inductive RetirementEligibility
  | eligible
  | protected_
  | pinned
  | minimumGenerations
  | activeRestore
  | notEligible
  deriving DecidableEq, Repr

end Classes

/-- The authoritative checkpoint object. -/
structure CheckpointObject where
  checkpointId : Id
  workloadId : Id
  workloadGeneration : ℕ
  checkpointGeneration : ℕ
  parentCheckpoint : Option Id
  captureAttempt : AttemptId
  coordinatorEpoch : ℕ
  createdMs : ℕ
  sealMs : ℕ
  sourceNode : NodeId
  sourceBackend : String
  frontier : ExecutionFrontier
  checkpointType : CheckpointType
  consistency : ConsistencyClass
  resumability : ResumabilityClass
  components : List ComponentEntry
  totalLogicalBytes : ℕ
  totalPhysicalBytes : ℕ
  compressedBytes : ℕ
  durableLocations : List DurableLocation
  replicaCount : ℕ
  supersedes : Option Id
  supersededBy : Option Id
  policyVersion : ℕ
  runtimeDescriptor : RuntimeCompatibilityDescriptor
  hardwareDescriptor : HardwareCompatibilityDescriptor
  dependencies : List ExternalDependency
  integrityState : IntegrityState
  lifecycle : LifecycleState
  restoreCount : ℕ
  lastRestoreResult : Option String
  protection : ProtectionState
  retirementEligibility : RetirementEligibility
  metadata : String
  /-- Digest of the canonical manifest (set at seal time). -/
  manifestDigest : Option String
  /-- Canonical manifest text (set at seal time). -/
  manifestJson : Option String
  deriving DecidableEq, Repr

namespace CheckpointObject

/-- The checkpoint's parents in lineage: its base and the one it supersedes. -/
def lineageParents (c : CheckpointObject) : List Id :=
  c.parentCheckpoint.toList ++ c.supersedes.toList

/-- The checkpoints that supersede it. -/
def lineageChildren (c : CheckpointObject) : List Id := c.supersededBy.toList

/-- Restorable in lifecycle, and known to be intact. -/
def isRestorable (c : CheckpointObject) : Bool :=
  c.lifecycle.isRestorable && c.integrityState == .valid

end CheckpointObject

end CheckpointFabric
