import CheckpointFabric.Cleanup
import CheckpointFabric.Concurrency.System
import CheckpointFabric.Staging

/-!
# Who releases what a capture has quiesced

A capture that succeeds leaves its providers quiesced and records the attempt; a resume message
takes the record away and resumes the providers. A node serves every message in a thread of its
own, so that the two meet in any order.

A cleanup message is processed by the code of `Cleanup`. The providers that are attached to the node
change on their own, as workloads come and go.

## Main definitions

* `Op` — the operations of a resume or a cleanup
* `doResume`, `doCleanup` — the two messages that end an attempt
* `Sources` — what the node and its providers remember of the captures
* `sources` — captures, resumes and cleanups on one node
-/

set_option autoImplicit false

namespace CheckpointFabric.Quiescence

open Concurrency Replica Staging

/-- An operation of a resume or a cleanup. -/
inductive Op
  | insertAttached (workloadId : Id) (attached : AttachedWorkload)
  /-- Remove the record of a quiesced capture. -/
  | takeQuiesced (attemptId : AttemptId)
  /-- Remove the record of an applied restore. -/
  | takePending (attemptId : AttemptId)
  /-- The components that have a provider. -/
  | providerList (workloadId : Id)
  | commitRestore (provider : Provider) (ctx : RestoreContext)
  | resumeSource (provider : Provider) (ctx : CaptureContext)
  | cleanupRestore (provider : Provider) (ctx : RestoreContext)
  | releaseStaging (path : String)
  | pathExists (path : String)
  | removeDirAll (path : String)
  | deleteCommitted (checkpointId : Id)

@[reducible] def Op.Reply : Op → Type
  | takeQuiesced _ => Option Id
  | takePending _ => Option PendingRestore
  | providerList _ => List String
  | pathExists _ => Bool
  | _ => Unit

/-- The operations of the messages about an attempt. -/
abbrev nodeInterface : Interface := stagingInterface.sum ⟨Op, Op.Reply⟩

abbrev Handling := Program nodeInterface FabricError

abbrev perform (op : Op) : Handling op.Reply := Program.call (I := nodeInterface) (.inr op)

def providerGet (workloadId : Id) (componentId : String) : Handling (Option Provider) :=
  Program.call (I := nodeInterface) (.inl (.providerGet workloadId componentId))

section Resume

variable (node : NodeState) (req : NodeResumeRequest)

/-- Perform a call of a provider if the message asks for it, and keep the first error. -/
def keepFirst (asked : Bool) (firstErr : Option FabricError) (call : Handling Unit) :
    Handling (Option FabricError) :=
  if asked then do
    match ← call.attempt with
    | .ok () => pure firstErr
    | .error e => pure (firstErr <|> some e)
  else pure firstErr

def resumeCtx : CaptureContext where
  workloadId := req.workloadId
  attemptId := req.attemptId
  stagingDir := ""
  compression := ⟨.none, 0, "1"⟩
  quiescence := .none

def restoreCtx : RestoreContext where
  checkpointId := req.checkpointId
  workloadId := req.workloadId
  attemptId := req.attemptId
  stagingDir := node.stagingDir req.attemptId
  commitDir := node.commitDir req.checkpointId

/-- Commit the restored state of the providers, or resume them, as the message asks. -/
def resumeProviders (authorityTransfer : Bool) :
    List String → (firstErr : Option FabricError) → Handling (Option FabricError)
  | [], firstErr => pure firstErr
  | componentId :: componentIds, firstErr => do
    match ← providerGet req.workloadId componentId with
    | none => resumeProviders authorityTransfer componentIds firstErr
    | some p => do
      let firstErr ← keepFirst authorityTransfer firstErr
        (perform (.commitRestore p (restoreCtx node req)))
      let firstErr ← keepFirst req.resume firstErr (perform (.resumeSource p (resumeCtx req)))
      resumeProviders authorityTransfer componentIds firstErr

/-- Resume the providers of the workload. -/
def resumeAll (authorityTransfer : Bool) : Handling NodeResumeResult := do
  let componentIds ← perform (.providerList req.workloadId)
  let firstErr ← resumeProviders node req authorityTransfer componentIds none
  if authorityTransfer ∧ firstErr.isNone then
    let _ ← perform (.takePending req.attemptId)
    pure { attemptId := req.attemptId, ok := true, error := none }
  else
    pure { attemptId := req.attemptId, ok := firstErr.isNone, error := firstErr.map toString }

/-- Resume the source of a capture, or the target of a restore. -/
def doResume : Handling NodeResumeResult :=
  match req.fenceToken, req.executionEpoch with
  | some token, some epoch => do
    perform (.insertAttached req.workloadId { fenceToken := token, executionEpoch := epoch })
    resumeAll node req true
  | none, some _ => Program.fail (.fencingFailure "authority grant is missing fence token")
  | some _, none => Program.fail (.fencingFailure "authority grant is missing execution epoch")
  | none, none => do
    match ← perform (.takeQuiesced req.attemptId) with
    -- An abort before the node quiesced anything is an idempotent no-op.
    | none => pure { attemptId := req.attemptId, ok := true, error := none }
    | some _ => resumeAll node req false

end Resume

section Cleanup

/-- What an operation of a cleanup is on a node that also captures. -/
def cleanupOp : (op : Cleanup.Op) → Handling op.Reply
  | .releaseStaging path => perform (.releaseStaging path)
  | .pathExists path => perform (.pathExists path)
  | .removeDirAll path => perform (.removeDirAll path)
  | .takePending attemptId => perform (.takePending attemptId)
  | .providerList workloadId => perform (.providerList workloadId)
  | .providerGet workloadId componentId => providerGet workloadId componentId
  | .cleanupRestore provider ctx => perform (.cleanupRestore provider ctx)
  | .deleteCommitted checkpointId => perform (.deleteCommitted checkpointId)

/-- Remove what the message names. -/
def doCleanup (node : NodeState) (req : NodeCleanupRequest) : Handling NodeCleanupResult :=
  (Cleanup.doCleanup node req).translate cleanupOp

end Cleanup

section Node

/-- What the node and its providers remember of the captures. -/
structure Sources where
  /-- The provider of each component. -/
  registry : List ((Id × String) × Provider) := []
  /-- The attempts that a capture has recorded, with their workloads. -/
  quiescedCaptures : List (AttemptId × Id) := []
  /-- The providers that an attempt has quiesced and that were not released since. -/
  quiesced : List (AttemptId × Provider) := []

variable (s : Sources)

/-- The components of a workload that have a provider, in their order. -/
def Sources.componentsOf (workloadId : Id) : List String :=
  ((s.registry.filter fun entry => entry.1.1 = workloadId).map fun entry => entry.1.2).insertionSort
    (· ≤ ·)

def Sources.release (attemptId : AttemptId) (p : Provider) : Sources :=
  { s with quiesced := s.quiesced.filter (· ≠ (attemptId, p)) }

/-- The effect of an operation: what a provider answers comes from outside, and a call that it
has answered with an error has no effect. -/
def handle : (op : nodeInterface.Op) → Except FabricError (nodeInterface.Reply op) → Sources →
    Except FabricError (nodeInterface.Reply op) × Sources
  | .inl (.providerGet w componentId), _, s => (.ok (s.registry.lookup (w, componentId)), s)
  | .inl (.quiesce p ctx), reply, s =>
    (reply, if reply.isOk then { s with quiesced := (ctx.attemptId, p) :: s.quiesced } else s)
  | .inl (.abortCapture p ctx), reply, s =>
    (reply, if reply.isOk then s.release ctx.attemptId p else s)
  | .inl (.insertQuiesced attemptId w), _, s =>
    (.ok (), { s with quiescedCaptures :=
      (attemptId, w) :: s.quiescedCaptures.filter (·.1 ≠ attemptId) })
  | .inr (.takeQuiesced attemptId), _, s =>
    (.ok (s.quiescedCaptures.lookup attemptId),
      { s with quiescedCaptures := s.quiescedCaptures.filter (·.1 ≠ attemptId) })
  | .inr (.providerList w), _, s => (.ok (s.componentsOf w), s)
  | .inr (.resumeSource p ctx), reply, s =>
    (reply, if reply.isOk then s.release ctx.attemptId p else s)
  | _, reply, s => (reply, s)

/-- A message about an attempt. -/
inductive Request
  | capture (req : NodeCaptureRequest)
  | resume (req : NodeResumeRequest)
  | cleanup (req : NodeCleanupRequest)

/-- How the providers of a node change. -/
inductive Move
  /-- A provider is registered for a component, in the place of the one before it. -/
  | register (workloadId : Id) (componentId : String) (p : Provider)
  | removeWorkload (workloadId : Id)

def Move.workloadId : Move → Id
  | .register workloadId _ _ | .removeWorkload workloadId => workloadId

def Sources.move : Move → Sources → Sources
  | .register w componentId p, s =>
    { s with registry :=
      ((w, componentId), p) :: s.registry.filter fun entry => entry.1 ≠ (w, componentId) }
  | .removeWorkload w, s => { s with registry := s.registry.filter fun entry => entry.1.1 ≠ w }

/-- Captures, resumes and cleanups on one node. The input of an operation is the answer of the
disk or of the provider. -/
@[reducible] def sources (codecs : WriteCodecs) (spec : Provider → ProviderSpec)
    (node : NodeState) : System where
  toInterface := nodeInterface
  Error := FabricError
  Request := Request
  Response := Unit
  State := Sources
  Input := ∀ op : nodeInterface.Op, Except FabricError (nodeInterface.Reply op)
  Move := Move
  initial := {}
  handle op input s := handle op (input op) s
  serve
    | .capture req => (doCapture codecs spec node req).inl >>= fun _ => pure ()
    | .resume req => doResume node req >>= fun _ => pure ()
    | .cleanup req => doCleanup node req >>= fun _ => pure ()
  accept _ s := s
  restart _ := {}
  move := Sources.move

end Node

end CheckpointFabric.Quiescence
