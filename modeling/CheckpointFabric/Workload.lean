import CheckpointFabric.Checkpoint

/-!
# Workloads

A workload is a long-running execution with a stable identity. Its row says which
node holds the active claim, under which fencing token, and in which execution
epoch.

## Main results

* `Workload.validateFence_eq_ok_iff` — the fence check accepts the active node with
  the current token, and nothing else
-/

set_option autoImplicit false

namespace CheckpointFabric

/-- Protection settings applied to a workload's checkpoints. -/
structure ProtectionSpec where
  protectedGenerations : ℕ := 1
  allowPin : Bool := true
  deriving DecidableEq, Repr

/-- User-supplied specification for creating a workload. -/
structure WorkloadSpec where
  workloadId : Option Id
  owner : String
  class_ : String
  backendClass : String
  stateSchemaVersion : ℕ
  runtime : RuntimeCompatibilityDescriptor
  metadata : String
  protection : ProtectionSpec
  singleActive : Bool
  deriving DecidableEq, Repr

/-- The resumable workload record as maintained by the coordinator. -/
structure Workload where
  workloadId : Id
  /-- Bumped by restore and rollback. -/
  workloadGeneration : ℕ
  owner : String
  class_ : String
  createdMs : ℕ
  /-- Bumped by fence, restore and migration authority changes. -/
  executionEpoch : ℕ
  activeNode : Option NodeId
  backendClass : String
  checkpointGeneration : ℕ
  parentWorkload : Option Id
  forkGeneration : ℕ
  policyVersion : ℕ
  metadata : String
  stateSchemaVersion : ℕ
  runtime : RuntimeCompatibilityDescriptor
  resumabilityClass : ResumabilityClass
  protection : ProtectionSpec
  singleActive : Bool
  fenceToken : Option FenceToken
  fenceEpoch : ℕ
  deriving DecidableEq, Repr

/-- An optional name as it is shown in an error text. -/
def debugOption : Option String → String
  | none => "None"
  | some s => "Some(\"" ++ s ++ "\")"

/-- The node id that stands for a migration in progress. -/
def migratingMarker : NodeId := "MIGRATING"

namespace Workload

/-- Whether this workload has no active continuation. -/
def isFenced (w : Workload) : Bool := w.fenceToken.isNone || w.activeNode.isNone

/-- Validate that an actor's fence token is still current. -/
def validateFence (w : Workload) (actor : NodeId) (token : FenceToken) : Except String Unit :=
  if w.activeNode ≠ some actor then
    .error s!"actor {actor} is not the active continuation {debugOption w.activeNode}"
  else
    match w.fenceToken with
    | none => .error "workload has no active authority"
    | some t =>
      if t ≠ token then
        .error s!"stale fence token from {actor}; workload is fenced by another continuation"
      else .ok ()

theorem validateFence_eq_ok_iff {w : Workload} {actor : NodeId} {token : FenceToken} :
    w.validateFence actor token = .ok () ↔
      w.activeNode = some actor ∧ w.fenceToken = some token := by
  unfold validateFence
  cases w.fenceToken with
  | none => split <;> simp_all
  | some t =>
    by_cases hnode : w.activeNode = some actor <;> by_cases ht : t = token <;>
      simp [hnode, ht]

end Workload

end CheckpointFabric
