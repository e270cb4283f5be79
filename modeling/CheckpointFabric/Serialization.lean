import CheckpointFabric.Replica
import CheckpointFabric.Wire.Json

/-!
# How a manifest is written

The structures are written as objects, with their fields in the order of declaration, and the
enumerations as names in capitals. The application metadata and the compatibility notes of the
components are JSON values already; what a note stands for is the parameter `value`.

## Main definitions

* `Manifest.serialize` — the JSON value of a manifest
* `Serde` — the serializer writes this value, and reads it back
-/

set_option autoImplicit false

namespace CheckpointFabric

open Replica Wire

namespace Serialization

def number (n : ℕ) : Json :=
  .number ⟨Nat.toDigits 10 n, fun _ hc => by
    simp [isNumberChar, Nat.isDigit_of_mem_toDigits (by decide) (by decide) hc]⟩

def option {α : Type} (write : α → Json) : Option α → Json
  | none => .null
  | some a => write a

def list {α : Type} (write : α → Json) (items : List α) : Json := .array (items.map write)

/-- A map, whose entries are in the order of their keys. -/
def map {α : Type} (write : α → Json) (entries : List (String × α)) : Json :=
  .object (entries.map fun entry => (entry.1, write entry.2))

def identity (id : Id) : Json := .string (toHex id)

end Serialization

open Serialization

def CheckpointType.asStr : CheckpointType → String
  | full => "FULL"
  | incremental => "INCREMENTAL"
  | delta => "DELTA"
  | application => "APPLICATION"
  | process => "PROCESS"
  | executionFrontier => "EXECUTION_FRONTIER"
  | portable => "PORTABLE"
  | localOnly => "LOCAL_ONLY"

def ResumabilityClass.asStr : ResumabilityClass → String
  | exact => "EXACT"
  | equivalent => "EQUIVALENT"
  | degraded => "DEGRADED"
  | restartFromCheckpoint => "RESTART_FROM_CHECKPOINT"
  | nonResumable => "NON_RESUMABLE"

def ComponentType.asStr : ComponentType → String
  | processMetadata => "PROCESS_METADATA"
  | applicationState => "APPLICATION_STATE"
  | memoryRegion => "MEMORY_REGION"
  | acceleratorState => "ACCELERATOR_STATE"
  | runtimeState => "RUNTIME_STATE"
  | queueState => "QUEUE_STATE"
  | schedulerState => "SCHEDULER_STATE"
  | rngState => "RNG_STATE"
  | filesystemState => "FILESYSTEM_STATE"
  | openResourceDescriptor => "OPEN_RESOURCE_DESCRIPTOR"
  | toolState => "TOOL_STATE"
  | modelState => "MODEL_STATE"
  | kvState => "KV_STATE"
  | customState => "CUSTOM_STATE"

def InFlightOperation.serialize (o : InFlightOperation) : Json :=
  .object [("operation_id", .string o.operationId), ("kind", .string o.kind),
    ("started_ms", number o.startedMs), ("idempotent", .bool o.idempotent),
    ("externally_committed", .bool o.externallyCommitted)]

def ResumabilityFlags.serialize (f : ResumabilityFlags) : Json :=
  .object [("exact", .bool f.exact), ("equivalent", .bool f.equivalent),
    ("degraded", .bool f.degraded),
    ("deterministic_replay_verified", .bool f.deterministicReplayVerified),
    ("pending_non_replayable", .bool f.pendingNonReplayable),
    ("unknown_side_effects", .bool f.unknownSideEffects)]

def ExecutionFrontier.serialize (f : ExecutionFrontier) : Json :=
  .object [("workload_generation", number f.workloadGeneration),
    ("execution_epoch", number f.executionEpoch), ("logical_step", number f.logicalStep),
    ("application_sequence", option .string f.applicationSequence),
    ("durable_side_effect_boundary", number f.durableSideEffectBoundary),
    ("state_generation_map", map number f.stateGenerationMap),
    ("tool_item_frontier", option .string f.toolItemFrontier),
    ("external_commit_frontier", option .string f.externalCommitFrontier),
    ("last_completed_operation_id", option .string f.lastCompletedOperationId),
    ("in_flight_operations", list InFlightOperation.serialize f.inFlightOperations),
    ("flags", f.flags.serialize)]

def RuntimeCompatibilityDescriptor.serialize (d : RuntimeCompatibilityDescriptor) : Json :=
  .object [("os", .string d.os), ("arch", .string d.arch),
    ("runtime_version", .string d.runtimeVersion),
    ("state_schema_version", number d.stateSchemaVersion),
    ("workload_class", .string d.workloadClass), ("backend_class", .string d.backendClass),
    ("accelerator_capabilities", list .string d.acceleratorCapabilities),
    ("provider_versions", map .string d.providerVersions),
    ("application", option .string d.application)]

def AcceleratorRequirement.serialize (a : AcceleratorRequirement) : Json :=
  .object [("vendor", .string a.vendor), ("model", option .string a.model),
    ("capability", .string a.capability), ("memory_bytes", option number a.memoryBytes)]

def HardwareCompatibilityDescriptor.serialize (d : HardwareCompatibilityDescriptor) : Json :=
  .object [("os", .string d.os), ("arch", .string d.arch),
    ("accelerator", option AcceleratorRequirement.serialize d.accelerator),
    ("word_size_bits", number d.wordSizeBits), ("endianness", .string d.endianness)]

def ExternalDependency.serialize (d : ExternalDependency) : Json :=
  .object [("kind", .string d.kind), ("identity", .string d.identity),
    ("expected_hash", option .string d.expectedHash), ("required", .bool d.required)]

def DurableLocation.serialize (l : DurableLocation) : Json :=
  .object [("node", .string l.node), ("path", .string l.path), ("verified", .bool l.verified)]

def StorageRepresentation.serialize (r : StorageRepresentation) : Json :=
  .object [("codec", .string r.codec), ("original_size", number r.originalSize),
    ("stored_size", number r.storedSize), ("stored_hash", .string r.storedHash),
    ("relative_path", .string r.relativePath)]

def IntegrityInfo.serialize (i : IntegrityInfo) : Json :=
  .object [("content_hash_algorithm", .string i.contentHashAlgorithm), ("root", .string i.root)]

section Notes

variable (value : String → Json)

def ComponentEntry.serialize (c : ComponentEntry) : Json :=
  .object [("component_id", .string c.componentId),
    ("component_type", .string c.componentType.asStr), ("generation", number c.generation),
    ("required", .bool c.required), ("logical_size", number c.logicalSize),
    ("storage_representation", c.storageRepresentation.serialize),
    ("content_hash", .string c.contentHash), ("schema_version", number c.schemaVersion),
    ("restore_handler", .string c.restoreHandler), ("compatibility", value c.compatibility),
    ("dependencies", list .string c.dependencies), ("capture_status", .string c.captureStatus),
    ("restore_status", .string c.restoreStatus)]

variable {Attempt : Type} [ToString Attempt]

/-- The fields behind the first one. -/
def Manifest.fields (m : Manifest Attempt) : List (String × Json) :=
  [("checkpoint_id", identity m.checkpointId), ("workload_id", identity m.workloadId),
    ("workload_generation", number m.workloadGeneration),
    ("checkpoint_generation", number m.checkpointGeneration),
    ("parent_checkpoint", option identity m.parentCheckpoint),
    ("capture_attempt", .string (toString m.captureAttempt)),
    ("coordinator_epoch", number m.coordinatorEpoch), ("created_ms", number m.createdMs),
    ("seal_ms", number m.sealMs), ("source_node", .string m.sourceNode),
    ("source_backend", .string m.sourceBackend), ("frontier", m.frontier.serialize),
    ("checkpoint_type", .string m.checkpointType.asStr),
    ("consistency", .string m.consistency.asStr), ("resumability", .string m.resumability.asStr),
    ("components", list (ComponentEntry.serialize value) m.components),
    ("total_logical_bytes", number m.totalLogicalBytes),
    ("total_physical_bytes", number m.totalPhysicalBytes),
    ("compressed_bytes", number m.compressedBytes),
    ("durable_locations", list DurableLocation.serialize m.durableLocations),
    ("replica_count", number m.replicaCount), ("lineage_parents", list identity m.lineageParents),
    ("policy_version", number m.policyVersion),
    ("runtime_descriptor", m.runtimeDescriptor.serialize),
    ("hardware_descriptor", m.hardwareDescriptor.serialize),
    ("dependencies", list ExternalDependency.serialize m.dependencies),
    ("integrity", m.integrity.serialize), ("metadata", value m.metadata)]

/-- The JSON value of a manifest. -/
def Manifest.serialize (m : Manifest Attempt) : Json :=
  .object (("format_version", number m.formatVersion) :: m.fields value)

/-- The serializer writes a manifest field by field, and reads back what it has written. -/
structure Serde (files : FileCodecs Attempt) (m : Manifest Attempt) : Prop where
  writes : files.toCanonical m = String.ofList (m.serialize value).text
  reads : files.fromSlice (utf8 (files.toCanonical m)) = some m

end Notes

end CheckpointFabric
