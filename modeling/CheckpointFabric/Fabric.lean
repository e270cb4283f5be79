import CheckpointFabric.Coordinator.Maintenance

/-!
# The fabric as a concurrent system

The requests a coordinator serves, each with the program of its operation, over the
coordinator's world. The monitor's rounds are requests of nobody; they run like any
other thread.
-/

set_option autoImplicit false

namespace CheckpointFabric

open Concurrency

/-- A request to the coordinator. -/
inductive Request
  | workloadCreate (spec : WorkloadSpec) (claimNode : Option NodeId)
  | workloadFence (id : Id) (ctx : OperationContext)
  | workloadAttach (workloadId : Id) (node : NodeId) (nodeBootId : String) (fenceEpoch : ℕ)
      (versions : List (String × String))
  | workloadDetach (workloadId : Id) (node : NodeId)
  | capture (workloadId : Id) (options : CaptureOptions) (ctx : OperationContext)
  | restore (checkpointId : Id) (node : NodeId) (options : RestoreOptions)
      (ctx : OperationContext)
  | rollback (checkpointId : Id) (node : NodeId) (ctx : OperationContext)
  | fork (checkpointId : Id) (spec : WorkloadSpec) (ctx : OperationContext)
  | migrate (depth : ℕ) (checkpointId : Id) (targetNode : NodeId) (ctx : OperationContext)
  | checkpointVerify (checkpointId : Id) (ctx : OperationContext)
  | checkpointProtect (checkpointId : Id) (pinned : Bool)
  | checkpointUnprotect (checkpointId : Id)
  | checkpointRetire (checkpointId : Id) (ctx : OperationContext)
  | recovery (ctx : OperationContext)
  | nodeRegister (req : Coordinator.NodeRegisterRequest)
  | nodeHeartbeat (req : Coordinator.NodeHeartbeatRequest)
  | monitor

/-- What the coordinator answers. -/
inductive Response
  | workload (w : Workload)
  | attached (token : FenceToken)
  | outcome (o : Coordinator.OperationOutcome)
  | verified (r : NodeVerifyResult)
  | recovered (out : Coordinator.RecoveryOutcome)
  | heartbeat (staleWorkloads : List Id)
  | done

namespace Request

/-- Answer with the value of a program. -/
def answer {α : Type} (p : Fabric α) (f : α → Response) : Fabric Response := do
  let a ← p
  pure (f a)

open Coordinator in
/-- The program of a request. -/
def serve (settings : Settings) : Request → Fabric Response
  | workloadCreate spec claimNode => answer (createWorkload settings spec claimNode) .workload
  | workloadFence id ctx => answer (fenceWorkload settings id ctx) .workload
  | workloadAttach workloadId node nodeBootId fenceEpoch versions =>
    answer (serveAttach workloadId node nodeBootId fenceEpoch versions) .attached
  | workloadDetach workloadId node => answer (detachWorkload workloadId node).ignore fun _ => .done
  | capture workloadId options ctx =>
    answer (requestCapture settings workloadId options ctx) .outcome
  | restore checkpointId node options ctx =>
    answer (requestRestore settings checkpointId node options ctx) .outcome
  | rollback checkpointId node ctx =>
    answer (requestRollback settings checkpointId node ctx) .outcome
  | fork checkpointId spec ctx => answer (Coordinator.fork settings checkpointId spec ctx) .workload
  | migrate depth checkpointId targetNode ctx =>
    answer (Coordinator.migrate settings depth checkpointId targetNode ctx) .outcome
  | checkpointVerify checkpointId ctx =>
    answer (verifyCheckpoint settings checkpointId ctx) .verified
  | checkpointProtect checkpointId pinned =>
    answer (protectCheckpoint checkpointId pinned) fun _ => .done
  | checkpointUnprotect checkpointId => answer (unprotectCheckpoint checkpointId) fun _ => .done
  | checkpointRetire checkpointId ctx =>
    answer (retireCheckpoint settings checkpointId ctx) fun _ => .done
  | recovery ctx => answer (runRecovery ctx) .recovered
  | nodeRegister req => answer (Coordinator.nodeRegister req) fun _ => .done
  | nodeHeartbeat req => answer (Coordinator.nodeHeartbeat req) .heartbeat
  | monitor => answer (Coordinator.monitor settings) fun _ => .done

end Request

/-- The coordinator with its nodes, as a system of interleaved requests. -/
abbrev fabric (settings : Settings) : System where
  toInterface := fabricInterface
  Error := FabricError
  Request := Request
  Response := Response
  State := World
  Input := Input
  Move := Move
  initial := .initial
  handle := World.handle settings.codecs
  serve := Request.serve settings
  accept := fun _ w => w
  restart := World.restart
  move := World.move settings.codecs

/-! ### A small fabric

One node, one workload: a schedule that registers the node, creates the workload under
its claim, captures it and restores it. Runs that show something start from here. -/

namespace Demo

def runtime : RuntimeCompatibilityDescriptor :=
  ⟨"linux", "x86_64", "1", 1, "agent", "cpu", [], [], none⟩

def spec : WorkloadSpec where
  workloadId := some 7
  owner := "owner"
  class_ := "agent"
  backendClass := "cpu"
  stateSchemaVersion := 1
  runtime := runtime
  metadata := ""
  protection := {}
  singleActive := true

/-- The manifest of the first capture: checkpoint 2, under the attempt with nonce 1. -/
def manifest (root : String) : Manifest :=
  { Manifest.scaffold (Capture.checkpointScaffold
      (Coordinator.newWorkload { policy := {}, staleMs := 0, codecs := ⟨fun _ => "", fun _ => none, id⟩ }
        7 spec 0 none none none 0) 2 1 (.capture 7 1) 1 "n1" {} {} 0) with
    integrity := ⟨"sha256", root⟩ }

/-- The text of a manifest is its checkpoint and its root; a hash marks its input. -/
def codecs : Codecs where
  toCanonical m := s!"manifest {m.checkpointId} {m.integrity.root}"
  ofCanonical text :=
    if text = "manifest 2 #manifest 2 " then some (manifest "#manifest 2 ") else none
  sha256Hex text := "#" ++ text

def settings : Settings := { policy := {}, staleMs := 6000, codecs }

def operator : OperationContext := ⟨"operator", ["operator"], 6000⟩

/-- A request is admitted as thread `tid` and runs alone, each operation with the plain
input. -/
def alone (tid : ℕ) (request : Request) : List (System.Action (fabric settings)) :=
  .accept request :: List.replicate 50 (.advance tid ({} : Input))

/-- Node `n` registers as thread `tid`. -/
def register (tid : ℕ) (n : NodeId) : List (System.Action (fabric settings)) :=
  .move (Move.adopt n 1) :: alone tid (.nodeRegister ⟨n, "addr", "boot", "/data", runtime, [], 1⟩)

/-- The workload is created under the claim of the only node. -/
def created : List (System.Action (fabric settings)) :=
  register 0 "n1" ++ alone 1 (.workloadCreate spec (some "n1"))

/-- The workload has an AVAILABLE checkpoint, 2. -/
def captured : List (System.Action (fabric settings)) := created ++ alone 2 (.capture 7 {} operator)

/-! Longer runs need more manifests: those of the first captures of workload 7. -/

/-- The manifest of the capture that draws `nonce`, and then the id of its checkpoint. -/
def manifestOf (nonce generation : ℕ) : Manifest :=
  { manifest s!"#manifest {nonce + 1} " with
    checkpointId := nonce + 1
    checkpointGeneration := generation
    captureAttempt := .capture 7 nonce }

def archive : Settings :=
  { settings with
    codecs :=
      { codecs with
        ofCanonical := fun text =>
          [manifestOf 1 1, manifestOf 3 2, manifestOf 5 3].find?
            fun m => codecs.toCanonical m == text } }

/-- Requests that run one after the other, each operation with the plain input. -/
def serve (requests : List Request) : List (System.Action (fabric archive)) :=
  requests.zipIdx.flatMap fun (request, tid) =>
    .accept request :: List.replicate 50 (.advance tid ({} : Input))

/-- Two nodes register, the workload is created under the claim of the first one, and then the
requests are served. -/
def serially (requests : List Request) : List (System.Action (fabric archive)) :=
  .move (Move.adopt "n1" 1) :: .move (Move.adopt "n2" 1) :: serve (
    .nodeRegister ⟨"n1", "addr", "boot", "/data", runtime, [], 1⟩ ::
    .nodeRegister ⟨"n2", "addr", "boot", "/data", runtime, [], 1⟩ ::
    .workloadCreate spec (some "n1") :: requests)

end Demo

end CheckpointFabric
