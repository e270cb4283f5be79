import CheckpointFabric.Coordinator.Capture

/-!
# Restore, rollback and migration

`requestRestore` admits a restore, reserves it and runs `executeRestore`; when that
fails, `abortRestoreAttempt` rolls back what did not commit. The run is cut into its
phases: provision the target, apply the components, commit the generation, finish.
-/

set_option autoImplicit false

namespace CheckpointFabric.Coordinator

open Concurrency Fabric

/-- What a running restore knows about itself. -/
structure RestoreRun where
  ckpt : CheckpointObject
  targetNode : NodeId
  attemptId : AttemptId
  options : RestoreOptions
  verdict : CompatVerdict

variable (settings : Settings) (run : RestoreRun)

/-- Bring a replica of the checkpoint to the target. -/
def ensureReplica : Fabric Unit := do
  let source ← firstActive run.ckpt.durableLocations
  let source ← okOr source (.internal "no active node holds a replica for restore")
  let token ← random
  let _ : Unit ← callNode source
    (.allowFetch { checkpointId := run.ckpt.checkpointId, fetchToken := token, ttlMs := 300000 })
  let fromAddr ← nodeAddr source
  let expectedManifestDigest ← okOr run.ckpt.manifestDigest
    (.integrityFailure "checkpoint has no coordinator manifest anchor")
  let result : NodeReplicateResult ← callNode run.targetNode (.replicate
    { attemptId := run.attemptId
      checkpointId := run.ckpt.checkpointId
      expectedManifestDigest, fromAddr
      fetchToken := token })
  Program.ensure result.ok (.restoreFailure
    s!"replica staging on target failed: {unwrapOrDefault result.error}")
  db (.checkpointAddLocation run.ckpt.checkpointId
    { node := run.targetNode, path := unwrapOrDefault result.path, verified := true })

/-- Take the checkpoint out of AVAILABLE and make sure the target has a replica. -/
def provisionRestore : Fabric Unit := do
  setLifecycle run.ckpt .restorePending
  journal .restore run.attemptId .provisioned "target provisioned"
  let result : NodeProbeResult ← callNode run.targetNode
    (.probe { checkpointId := run.ckpt.checkpointId })
  if result.hasReplica then pure () else ensureReplica run
  setLifecycle run.ckpt .restoring

/-- Apply the checkpoint on the target. -/
def applyRestore : Fabric Unit := do
  let expectedManifestDigest ← okOr run.ckpt.manifestDigest
    (.integrityFailure "checkpoint has no coordinator manifest anchor")
  let result : NodeRestoreResult ← callNode run.targetNode (.restore
    { attemptId := run.attemptId
      checkpointId := run.ckpt.checkpointId
      workloadId := run.ckpt.workloadId
      expectedManifestDigest
      maxComponentBytes := settings.policy.maxComponentBytes })
  Program.ensure result.ok (.restoreFailure (result.error.getD "node restore failed"))
  journal .restore run.attemptId .componentsRestored "components restored"

/-- The token of the restored execution: the caller's, or a fresh one. -/
def restoreToken : Fabric FenceToken :=
  match run.options.targetFenceToken with
  | some token => pure token
  | none => random

/-- Commit the generation, and read the workload back. -/
def commitRestore : Fabric (FenceToken × Workload) := do
  fire "restore.before_generation_commit"
  let token ← restoreToken run
  db (.restoreCommit run.ckpt.checkpointId run.attemptId run.targetNode token
    run.options.migration run.options.rollback)
  let w ← workloadGet run.ckpt.workloadId
  let w ← okOr w (.panicked "called unwrap on a None value")
  fire "restore.after_generation_commit"
  pure (token, w)

/-- The message that grants the target its authority. -/
def grantResume (attemptId : AttemptId) (checkpointId workloadId : Id)
    (fenceToken : Option FenceToken) (executionEpoch : ℕ) (resume : Bool) : NodeRequest :=
  .resume
    { attemptId, checkpointId, workloadId, fenceToken
      executionEpoch := some executionEpoch
      resume }

/-- Whether the target was to resume, and answered that it did. -/
def resumedBy (answer : FabricResult NodeResumeResult) : Bool :=
  match answer with
  | .ok r => run.options.resume && r.ok
  | .error _ => false

/-- What is recorded of a target that did not resume. -/
def resumeError (answer : FabricResult NodeResumeResult) : Option String :=
  match answer with
  | .ok r => if r.ok then none else r.error
  | .error e => some (toString e)

/-- Grant the target its authority, resume it, and close the attempt. A failure to
resume is recorded, not returned. -/
def finishRestore (token : FenceToken) (w : Workload) : Fabric OperationOutcome := do
  let answer : FabricResult NodeResumeResult ← (callNode run.targetNode
    (grantResume run.attemptId run.ckpt.checkpointId run.ckpt.workloadId (some token)
      w.executionEpoch run.options.resume)).attempt
  journal .restore run.attemptId .resumed
    (if resumedBy run answer then "resumed" else "not_resumed")
  attemptFinish run.attemptId (if resumedBy run answer then .committed else .committedNoResume)
    (some (if resumedBy run answer then "restore committed and resumed"
      else "restore committed without resume"))
    (resumeError answer)
  reservationRelease run.attemptId
  fire "restore.after_commit"
  pure
    { attemptId := run.attemptId
      checkpointId := some run.ckpt.checkpointId
      workloadId := some run.ckpt.workloadId
      node := some run.targetNode
      state := if resumedBy run answer then "RESTORED" else "RESTORED_NO_RESUME"
      result := some (if resumedBy run answer then "restored" else "restored without resume")
      error := resumeError answer
      resumability := some
        (Restore.restoredResumability run.ckpt.resumability run.verdict (resumedBy run answer))
      workloadGeneration := some w.workloadGeneration
      executionEpoch := some w.executionEpoch }

/-- Run a reserved restore. -/
def executeRestore : Fabric OperationOutcome := do
  provisionRestore run
  applyRestore settings run
  let (token, w) ← commitRestore run
  finishRestore run token w

/-- The message that rolls back what a restore attempt left on a node. -/
def restoreCleanup (attemptId : AttemptId) (checkpointId workloadId : Id) : NodeRequest :=
  .cleanup
    { stagingAttempts := [attemptId]
      restoreAttempts := [{ attemptId, checkpointId, workloadId }]
      checkpointIds := [] }

/-- A checkpoint that is on its way through a restore goes back to AVAILABLE. -/
def returnToAvailable (checkpointId : Id) : Fabric Unit := do
  match ← checkpointGet checkpointId with
  | none => pure ()
  | some c =>
    if c.lifecycle == .restorePending || c.lifecycle == .restoring then
      Program.ofExcept (c.lifecycle.transition .available)
      db (.checkpointSetLifecycle checkpointId .available .valid)

/-- Clean up after a restore that returned an error. -/
def abortRestoreAttempt (detail : String) : Fabric Unit := do
  let committed ← journalHas .restore run.attemptId .generationCommitted
  if committed then
    attemptFinish run.attemptId .committedNoResume
      (some "restore committed before post-commit failure") (some detail)
    reservationRelease run.attemptId
  else
    let attempt : Option AttemptRecord ← db (.attemptGet run.attemptId)
    match attempt with
    | some a =>
      (callNode a.node (restoreCleanup run.attemptId run.ckpt.checkpointId
        run.ckpt.workloadId)).ignore
    | none => pure ()
    returnToAvailable run.ckpt.checkpointId
    attemptFinish run.attemptId .failed none (some detail)
    reservationRelease run.attemptId

/-- The roles a restore needs. -/
def authorizeRestore (options : RestoreOptions) (ctx : OperationContext) :
    FabricResult Unit := do
  settings.policy.authorize ctx.roles settings.policy.authority.restore
  if options.rollback && options.migration then
    .error (.invalidArgument "restore cannot be both rollback and migration")
  else do
    if options.rollback then
      settings.policy.authorize ctx.roles settings.policy.authority.rollback
    if options.migration then
      settings.policy.authorize ctx.roles settings.policy.authority.migrate

/-- Everything a restore checks before it reserves, and the identity it draws. -/
def admitRestore (checkpointId : Id) (targetNode : NodeId) (options : RestoreOptions)
    (ctx : OperationContext) : Fabric RestoreRun := do
  Program.ofExcept (authorizeRestore settings options ctx)
  let active ← nodeIsActive targetNode
  Program.ensure active
    (.restoreFailure s!"restore target node {targetNode} is not active")
  let ckpt ← requireCheckpoint checkpointId
  Program.ofExcept (Restore.validateRestoreRequest ckpt settings.policy)
  Program.ofExcept (Restore.restoreEligible ckpt settings.policy)
  Program.ofExcept (Restore.validateContextRefs ckpt options.resolvedContextRefs)
  let workload ← requireWorkload ckpt.workloadId
  Program.ofExcept (Restore.validateTargetClaim workload targetNode options.migration)
  let target ← nodeRuntime targetNode
  let compat := Compatibility.evaluate target settings.policy ckpt
  Program.ensure (compat.verdict ≠ .incompatible)
    (.compatibilityFailure ("; ".intercalate compat.reasons))
  Program.ofExcept (enforceDegraded settings.policy compat.verdict)
  let nonce ← random
  pure
    { ckpt, targetNode, options
      attemptId := .restore checkpointId nonce
      verdict := compat.verdict }

/-- Reserve the checkpoint for the restore and open its attempt. -/
def reserveRestore (checkpointId : Id) : Fabric Unit := do
  db (.reservationCreate run.attemptId .restore none (some checkpointId) run.targetNode
    reservationTtlMs)
  db (.attemptBegin run.attemptId (if run.options.rollback then .rollback else .restore)
    (some checkpointId) (some run.ckpt.workloadId) run.targetNode)
  journal .restore run.attemptId .reserved "restore reserved"

def requestRestore (checkpointId : Id) (targetNode : NodeId) (options : RestoreOptions)
    (ctx : OperationContext) : Fabric OperationOutcome := do
  let run ← admitRestore settings checkpointId targetNode options ctx
  reserveRestore run checkpointId
  mapErr (executeRestore settings run) fun e =>
    abortRestoreAttempt run s!"restore failed: {e}"

def requestRollback (checkpointId : Id) (targetNode : NodeId) (ctx : OperationContext) :
    Fabric OperationOutcome := do
  Program.ofExcept (settings.policy.authorize ctx.roles settings.policy.authority.rollback)
  requestRestore settings checkpointId targetNode { rollback := true } ctx

/-- Validate a migration request's basics. -/
def validateMigrationRequest (workloadId checkpointId : Id) (sourceNode targetNode : NodeId) :
    FabricResult Unit :=
  if sourceNode = targetNode then
    .error (.migrationFailure "migration source and target are the same node")
  else if workloadId = checkpointId then
    .error (.invalidArgument "workload and checkpoint ids must differ")
  else if sourceNode.isEmpty || targetNode.isEmpty then
    .error (.invalidArgument "node names must not be empty")
  else .ok ()

/-- Migrate a workload to another node. A checkpoint that is not restorable is replaced
by a fresh capture, and the migration starts over with that one; `depth` bounds how
often, as the stack does. -/
def migrate : (depth : ℕ) → (checkpointId : Id) → (targetNode : NodeId) →
    (ctx : OperationContext) → Fabric OperationOutcome
  | 0, _, _, _ => Program.fail (.panicked "stack overflow")
  | depth + 1, checkpointId, targetNode, ctx => do
    Program.ofExcept (settings.policy.authorize ctx.roles settings.policy.authority.migrate)
    let ckpt ← requireCheckpoint checkpointId
    let workload ← requireWorkload ckpt.workloadId
    Program.ofExcept
      (validateMigrationRequest workload.workloadId checkpointId ckpt.sourceNode targetNode)
    if ¬ ckpt.lifecycle.isRestorable then
      let active ← nodeIsActive ckpt.sourceNode
      Program.ensure active (.migrationFailure
        s!"source node {ckpt.sourceNode} is not active; cannot capture fresh state")
      let captured ← requestCapture settings workload.workloadId { quiescence := .none } ctx
      let newId ← okOr captured.checkpointId (.internal "capture produced no checkpoint")
      migrate depth newId targetNode ctx
    else
      requestRestore settings checkpointId targetNode { migration := true } ctx

end CheckpointFabric.Coordinator
