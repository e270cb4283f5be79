import CheckpointFabric.Coordinator.Recovery

/-!
# Workloads, nodes and checkpoint maintenance

The remaining operations: creating, fencing, attaching and forking workloads;
registrations and heartbeats of nodes; the monitor; verification, protection and
retirement of checkpoints.
-/

set_option autoImplicit false

namespace CheckpointFabric.Coordinator

open Concurrency Fabric

variable (settings : Settings)

section Workloads

/-- The row of a new workload. -/
def newWorkload (workloadId : Id) (spec : WorkloadSpec) (createdMs : ℕ)
    (activeNode : Option NodeId) (fenceToken : Option FenceToken) (parentWorkload : Option Id)
    (forkGeneration : ℕ) : Workload where
  workloadId
  workloadGeneration := 0
  owner := spec.owner
  class_ := spec.class_
  createdMs
  executionEpoch := 0
  activeNode
  backendClass := spec.backendClass
  checkpointGeneration := 0
  parentWorkload
  forkGeneration
  policyVersion := settings.policy.version
  metadata := spec.metadata
  stateSchemaVersion := spec.stateSchemaVersion
  runtime := spec.runtime
  resumabilityClass := .restartFromCheckpoint
  protection := spec.protection
  singleActive := spec.singleActive
  fenceToken
  fenceEpoch := 0

/-- The identity asked for, or a fresh one. -/
def chosenId (id : Option Id) : Fabric Id :=
  match id with
  | some id => pure id
  | none => random

/-- A token for the claiming node, if there is one. -/
def claimToken (claimNode : Option NodeId) : Fabric (Option FenceToken) :=
  match claimNode with
  | some _ => do
    let token ← random
    pure (some token)
  | none => pure none

def createWorkload (spec : WorkloadSpec) (claimNode : Option NodeId) : Fabric Workload := do
  match claimNode with
  | some node =>
    let active ← nodeIsActive node
    Program.ensure active
      (.fencingFailure s!"cannot claim new workload for inactive node {node}")
  | none => pure ()
  let workloadId ← chosenId spec.workloadId
  let existing ← workloadGet workloadId
  Program.ensure existing.isNone
    (.invalidArgument s!"workload {toHex workloadId} already exists")
  let now ← nowMs
  let token ← claimToken claimNode
  let w := newWorkload settings workloadId spec now claimNode token none 0
  db (.workloadInsert w)
  pure w

def fenceWorkload (id : Id) (ctx : OperationContext) : Fabric Workload := do
  Program.ofExcept (settings.policy.authorize ctx.roles settings.policy.authority.fence)
  let w ← requireWorkload id
  (db (.workloadBumpFence id w.executionEpoch)).mapError fun _ =>
    .fencingFailure "workload fence race"
  db (.workloadRelease id (w.activeNode.getD ""))
  let fenced ← workloadGet id
  okOr fenced (.panicked "called unwrap on a None value")

/-- How a rejected claim is reported to the node. -/
def attachError : FabricError → FabricError
  | .fencingFailure s => .fencingFailure s!"attach rejected: {s}"
  | other => other

def attachWorkload (workloadId : Id) (node : NodeId) (nodeBootId : String) (fenceEpoch : ℕ) :
    Fabric FenceToken := do
  db (.nodeValidateIdentity node nodeBootId)
  (claim workloadId node fenceEpoch).mapError attachError

def detachWorkload (workloadId : Id) (node : NodeId) : Fabric Unit :=
  db (.workloadRelease workloadId node)

def fork (checkpointId : Id) (spec : WorkloadSpec) (ctx : OperationContext) :
    Fabric Workload := do
  Program.ofExcept (settings.policy.authorize ctx.roles settings.policy.authority.fork)
  let ckpt ← requireCheckpoint checkpointId
  let parent ← requireWorkload ckpt.workloadId
  let workloadId ← chosenId spec.workloadId
  let now ← nowMs
  let child := newWorkload settings workloadId spec now none none (some parent.workloadId)
    (Store.saturatingAdd parent.forkGeneration 1)
  db (.workloadInsertFork child parent.workloadId checkpointId
    s!"fork from checkpoint {toHex checkpointId} (gen {ckpt.checkpointGeneration})")
  let forked ← workloadGet child.workloadId
  okOr forked (.panicked "called unwrap on a None value")

end Workloads

section Nodes

/-- Provider versions reported now, then those known before under other handlers. -/
def mergeVersions (versions old : List (String × String)) : List (String × String) :=
  versions ++ old.filter fun entry => (versions.lookup entry.1).isNone

/-- Merge provider handler versions into a node's stored runtime descriptor. -/
def mergeNodeProviderVersions (node : NodeId) (versions : List (String × String)) :
    Fabric Unit := do
  let nodes ← nodeList
  match nodes.find? fun n => n.id == node with
  | none => Program.fail (.internal s!"node {node} not registered")
  | some n =>
    db (.nodeHeartbeat node
      { n.resources with
        runtime := n.resources.runtime.map fun rt =>
          { rt with providerVersions := mergeVersions versions rt.providerVersions } })

/-- An attach over the wire also advertises the provider handlers of the node; a failure
of that is only logged. -/
def serveAttach (workloadId : Id) (node : NodeId) (nodeBootId : String) (fenceEpoch : ℕ)
    (versions : List (String × String)) : Fabric FenceToken := do
  let token ← attachWorkload workloadId node nodeBootId fenceEpoch
  if versions.isEmpty then pure ()
  else (mergeNodeProviderVersions node versions).ignore
  pure token

/-- The registration message of a node. -/
structure NodeRegisterRequest where
  nodeId : NodeId
  listenAddr : String
  bootId : String
  dataDir : String
  runtime : RuntimeCompatibilityDescriptor
  committedCheckpoints : List Id
  coordinatorEpoch : ℕ

def rebindAll (node : NodeId) (dataDir : String) (checkpoints : List Id) : Fabric Unit :=
  Program.forEach checkpoints fun id => db (.checkpointRebindLocation id node dataDir)

/-- A node registers; a rejection tells it the current epoch. -/
def nodeRegister (req : NodeRegisterRequest) : Fabric Unit := do
  let epoch ← coordinatorEpoch
  Program.ensure (req.coordinatorEpoch = epoch) (.fencingFailure
    s!"stale coordinator epoch: node holds {req.coordinatorEpoch}, coordinator is {epoch}")
  db (.nodeRegister req.nodeId req.listenAddr req.bootId
    { dataDir := req.dataDir, runtime := some req.runtime })
  rebindAll req.nodeId req.dataDir req.committedCheckpoints

/-- A workload as a heartbeat reports it. -/
structure HeartbeatWorkload where
  workloadId : Id
  fenceToken : FenceToken
  executionEpoch : ℕ
  deriving DecidableEq, Repr

structure NodeHeartbeatRequest where
  nodeId : NodeId
  bootId : String
  coordinatorEpoch : ℕ
  workloads : List HeartbeatWorkload
  committedCheckpoints : List Id
  providerVersions : List (String × String)

/-- Whether a reported workload is still the node's, by the row read for it. -/
def heartbeatAccepts (node : NodeId) (hb : HeartbeatWorkload) (w : Workload) : Bool :=
  hb.executionEpoch == w.executionEpoch && (w.validateFence node hb.fenceToken).toOption.isSome

/-- The reported workloads that the node must let go of. A workload whose row cannot be
read is passed over. -/
def staleWorkloads (node : NodeId) : List HeartbeatWorkload → Fabric (List Id)
  | [] => pure []
  | hb :: workloads => do
    let row ← (workloadGet hb.workloadId).attempt
    let stale ← staleWorkloads node workloads
    match row with
    | .ok (some w) =>
      if heartbeatAccepts node hb w then pure stale else pure (hb.workloadId :: stale)
    | _ => pure stale

def nodeHeartbeat (req : NodeHeartbeatRequest) : Fabric (List Id) := do
  let epoch ← coordinatorEpoch
  Program.ensure (req.coordinatorEpoch = epoch) (.fencingFailure "stale coordinator epoch")
  db (.nodeValidateIdentity req.nodeId req.bootId)
  let nodes ← nodeList
  let existing := (nodes.find? fun n => n.id == req.nodeId).map (·.resources)
  let dataDir := (existing.map (·.dataDir)).getD ""
  db (.nodeHeartbeat req.nodeId
    { dataDir
      runtime := (existing.bind (·.runtime)).map fun rt =>
        { rt with providerVersions := req.providerVersions } })
  rebindAll req.nodeId dataDir req.committedCheckpoints
  staleWorkloads req.nodeId req.workloads

/-- Revoke the claims of a stale node. A fence that fails is passed over. -/
def fenceOwned (node : NodeId) (workloads : List Workload) : Fabric Unit :=
  Program.forEach workloads fun w =>
    if w.activeNode = some node then do
      (db (.workloadBumpFence w.workloadId w.executionEpoch)).ignore
      audit "workload.fence_by_stale_node"
    else pure ()

/-- The monitor declares overdue nodes STALE and revokes their claims. -/
def sweepStale : Fabric Unit := do
  let now ← nowMs
  let stale : List NodeId ← db (.nodesSweepStale (now - settings.staleMs))
  Program.forEach stale fun n => do
    db (.nodeSetStatus n .stale)
    audit "node.stale"
    let workloads : List Workload ← db .workloadList
    fenceOwned n workloads

/-- One round of the monitor. -/
def monitor : Fabric Unit := do
  (sweepStale settings).ignore
  let now ← nowMs
  (db (.reservationsExpire now)).ignore

end Nodes

section Checkpoints

def verifyCheckpoint (checkpointId : Id) (ctx : OperationContext) : Fabric NodeVerifyResult := do
  Program.ofExcept (settings.policy.authorize ctx.roles settings.policy.authority.verify)
  let ckpt ← requireCheckpoint checkpointId
  Program.ensure (ckpt.lifecycle ≠ .failed)
    (.corruptedCheckpoint "failed checkpoint cannot be verified as valid")
  let node ← firstActive ckpt.durableLocations
  let node ← okOr node (.internal "no active node holds a replica for verification")
  let expectedManifestDigest ← okOr ckpt.manifestDigest
    (.integrityFailure "checkpoint has no coordinator manifest anchor")
  let answer : NodeVerifyResult ← callNode node
    (.verify { checkpointId, expectedManifestDigest })
  let result : NodeVerifyResult :=
    if answer.ok && answer.manifestDigest != some expectedManifestDigest then
      { answer with
        ok := false
        error := some "node verification did not match coordinator manifest anchor" }
    else answer
  db (.checkpointSetIntegrity checkpointId (if result.ok then .valid else .corrupt))
  pure result

def protectCheckpoint (checkpointId : Id) (pinned : Bool) : Fabric Unit := do
  let _ ← requireCheckpoint checkpointId
  db (.checkpointSetProtection checkpointId (if pinned then .pinned else .protected_))

def unprotectCheckpoint (checkpointId : Id) : Fabric Unit := do
  let _ ← requireCheckpoint checkpointId
  db (.checkpointSetProtection checkpointId .none)

/-- The message that deletes a committed checkpoint from a node. -/
def deletion (checkpointId : Id) : NodeRequest :=
  .cleanup { stagingAttempts := [], restoreAttempts := [], checkpointIds := [checkpointId] }

/-- Delete every physical replica; the first failure stops. -/
def deleteReplicas (checkpointId : Id) (locations : List DurableLocation) : Fabric Unit :=
  Program.forEach locations fun loc => do
    let result : NodeCleanupResult ← callNode loc.node (deletion checkpointId)
    match result.error with
    | some error =>
      Program.fail (.cleanupFailure s!"retire cleanup on {loc.node} failed: {error}")
    | none => pure ()

/-- What a retirement checks before it deletes anything. -/
def admitRetire (checkpointId : Id) (ctx : OperationContext) : Fabric CheckpointObject := do
  Program.ofExcept (settings.policy.authorize ctx.roles settings.policy.authority.retire)
  let ckpt ← requireCheckpoint checkpointId
  let reserved : Option AttemptId ←
    db (.reservationActiveFor .restore none (some checkpointId))
  Program.ensure reserved.isNone
    (.policyViolation "checkpoint has an active restore reservation; retire refused")
  Program.ensure (ckpt.protection = .none)
    (.policyViolation s!"checkpoint is {ckpt.protection.debugName}; unprotect before retiring")
  pure ckpt

def retireCheckpoint (checkpointId : Id) (ctx : OperationContext) : Fabric Unit := do
  let ckpt ← admitRetire settings checkpointId ctx
  deleteReplicas checkpointId ckpt.durableLocations
  -- Metadata stays until every physical replica is confirmed deleted, so that an
  -- interrupted retirement can be retried.
  db (.checkpointRetire checkpointId)

end Checkpoints

end CheckpointFabric.Coordinator
