import CheckpointFabric.World

/-!
# Common steps of coordinator operations

Looking up nodes, calling them, and the guarded lifecycle update. Each is a program
of its own atomic steps: between the lookup of a node and the call, or between the
read of a lifecycle and its update, anything else may happen.
-/

set_option autoImplicit false

namespace CheckpointFabric.Coordinator

open Concurrency Fabric

/-- Default time a reservation lasts. -/
def reservationTtlMs : ℕ := 600000

/-- What a capture or restore reports to its caller. -/
structure OperationOutcome where
  attemptId : AttemptId
  checkpointId : Option Id
  workloadId : Option Id
  node : Option NodeId
  state : String
  result : Option String
  error : Option String
  resumability : Option ResumabilityClass
  workloadGeneration : Option ℕ
  executionEpoch : Option ℕ

abbrev nodeList : Fabric (List NodeRecord) := db .nodeList

abbrev workloadGet (id : Id) : Fabric (Option Workload) := db (.workloadGet id)

abbrev checkpointGet (id : Id) : Fabric (Option CheckpointObject) := db (.checkpointGet id)

/-- The workload, which must exist. -/
def requireWorkload (id : Id) : Fabric Workload := do
  okOr (← workloadGet id) (.workloadNotFound (toHex id))

/-- The checkpoint, which must exist. -/
def requireCheckpoint (id : Id) : Fabric CheckpointObject := do
  okOr (← checkpointGet id) (.checkpointNotFound (toHex id))

/-- Whether a node is currently ACTIVE. -/
def nodeIsActive (node : NodeId) : Fabric Bool := do
  let nodes ← nodeList
  pure (nodes.any fun n => n.id == node && n.status == .active)

/-- Runtime descriptor of a registered node. -/
def nodeRuntime (node : NodeId) : Fabric RuntimeCompatibilityDescriptor := do
  let nodes ← nodeList
  match nodes.find? fun n => n.id == node with
  | some n => okOr n.resources.runtime (.internal s!"node {node} has no runtime descriptor")
  | none => Program.fail (.internal s!"node {node} not registered")

/-- The address of a registered node. -/
def nodeAddr (node : NodeId) : Fabric String := do
  let nodes ← nodeList
  match nodes.find? fun n => n.id == node with
  | some n => pure n.addr
  | none => Program.fail (.internal s!"node {node} not registered")

/-- Call a node. An address that is no address fails the call before it is sent. -/
def callNode (node : NodeId) (request : NodeRequest) : Fabric request.Result := do
  let _ ← nodeAddr node
  send node request

/-- The first location whose node is ACTIVE; a failed lookup counts as inactive. -/
def firstActive : List DurableLocation → Fabric (Option NodeId)
  | [] => pure none
  | l :: locations => do
    let active ← (nodeIsActive l.node).attempt
    if active.toOption.getD false then pure (some l.node) else firstActive locations

/-- Move a checkpoint to another lifecycle state. The authoritative current state is the
durable one, not that of the checkpoint object at hand. -/
def setLifecycle (ckpt : CheckpointObject) (target : LifecycleState) : Fabric Unit := do
  let cur ← checkpointGet ckpt.checkpointId
  let current := (cur.map (·.lifecycle)).getD ckpt.lifecycle
  Program.ofExcept (current.transition target)
  db (.checkpointSetLifecycle ckpt.checkpointId target .pending)

/-- Append to the recovery journal. -/
def journal (kind : JournalKind) (key : AttemptId) (state : JournalState) (detail : String) :
    Fabric Unit :=
  db (.journalAppend kind key state detail)

/-- Whether the recovery journal has an entry. -/
def journalHas (kind : JournalKind) (key : AttemptId) (state : JournalState) : Fabric Bool :=
  db (.journalHas kind key state)

/-- Record the outcome of an attempt. -/
def attemptFinish (id : AttemptId) (state : AttemptState) (result error : Option String) :
    Fabric Unit :=
  db (.attemptFinish id state result error)

/-- Release the reservation of an attempt. -/
def reservationRelease (id : AttemptId) : Fabric Unit := db (.reservationRelease id)

end CheckpointFabric.Coordinator
