import CheckpointFabric.Coordinator.Plumbing

/-!
# The capture operation

`requestCapture` admits a capture, reserves it and runs `executeCapture`; when that
fails, `abortCaptureAttempt` repairs what it can and the error is returned.

The long run of a capture is cut into its phases: stage the components on the node,
seal the manifest, promote the staged directory, commit the metadata, finish.
-/

set_option autoImplicit false

namespace CheckpointFabric.Coordinator

open Concurrency Fabric

/-- What a running capture knows about itself. -/
structure CaptureRun where
  workload : Workload
  node : NodeId
  attemptId : AttemptId
  checkpointId : Id
  checkpointGeneration : ℕ
  requestedConsistency : ConsistencyClass
  options : CaptureOptions

variable (settings : Settings) (run : CaptureRun)

/-- The protection of a new checkpoint: the most recent generations are protected. -/
def captureProtection : ProtectionState :=
  let latestGen := run.workload.checkpointGeneration + 1
  if latestGen - settings.policy.protectedGenerations ≤ run.checkpointGeneration then .protected_
  else .none

/-- Insert the checkpoint row and capture the components on the source node. -/
def stageCapture : Fabric CheckpointObject := do
  let epoch ← coordinatorEpoch
  let now ← nowMs
  let ckpt := Capture.checkpointScaffold run.workload run.checkpointId run.checkpointGeneration
    run.attemptId epoch run.node run.options settings.policy now
  db (.checkpointInsert ckpt)
  setLifecycle ckpt .capturing
  let result : NodeCaptureResult ← callNode run.node (.capture
    { attemptId := run.attemptId
      checkpointId := run.checkpointId
      workloadId := run.workload.workloadId
      checkpointGeneration := run.checkpointGeneration
      consistency := run.requestedConsistency
      quiescence := run.options.quiescence
      components := run.options.components
      compression := settings.policy.compressionSpec })
  Program.ensure result.ok
    (.captureProviderFailure (result.error.getD "node capture failed"))
  Program.ofExcept
    (Capture.validateComponentCompleteness run.options.components result.components)
  let achieved := Capture.deriveConsistency (some run.requestedConsistency)
    run.options.quiescence run.options.frontier result.cooperativeAck
  Program.ofExcept (enforceConsistency settings.policy achieved)
  pure { ckpt with
    components := result.components
    consistency := achieved
    resumability :=
      Capture.deriveResumability achieved run.options.frontier run.options.sideEffects
    totalLogicalBytes := result.totalLogicalBytes
    totalPhysicalBytes := result.totalPhysicalBytes
    compressedBytes := result.compressedBytes
    protection := captureProtection settings run }

/-- Seal the manifest of a staged checkpoint. -/
def sealCapture (ckpt : CheckpointObject) : Fabric (CheckpointObject × SealedManifest) := do
  setLifecycle ckpt .captured
  setLifecycle ckpt .validating
  fire "capture.before_seal"
  let sealMs ← nowMs
  let sealed := Manifest.sealManifest settings.codecs { Manifest.scaffold ckpt with sealMs }
  let ckpt :=
    { ckpt with
      sealMs
      manifestDigest := some sealed.digest
      manifestJson := some sealed.canonicalBytes }
  db (.checkpointSetDigest run.checkpointId sealed.digest sealed.canonicalBytes)
  setLifecycle ckpt .sealed
  journal .capture run.attemptId .sealed "manifest sealed"
  db (.checkpointSetIntegrity run.checkpointId .valid)
  pure (ckpt, sealed)

/-- The full metadata image of a promoted checkpoint. -/
def persistedCheckpoint (ckpt : CheckpointObject) (commitPath : String) : CheckpointObject :=
  { ckpt with
    durableLocations := [{ node := run.node, path := commitPath, verified := true }]
    replicaCount := 1
    integrityState := .pending
    lifecycle := .persisting
    retirementEligibility :=
      match ckpt.protection with
      | .none => .eligible
      | _ => .protected_ }

/-- Promote the staged directory. PERSISTED is journaled only after the full recoverable
metadata image is durable. -/
def persistCapture (ckpt : CheckpointObject) (sealed : SealedManifest) : Fabric Unit := do
  setLifecycle ckpt .persisting
  let result : NodePromoteResult ← callNode run.node (.promote
    { attemptId := run.attemptId
      checkpointId := run.checkpointId
      manifestBytes := sealed.canonicalBytes
      digest := sealed.digest
      integrityRoot := sealed.integrityRoot })
  Program.ensure result.ok (.persistenceError (result.error.getD "promote failed"))
  db (.checkpointUpdate (persistedCheckpoint run ckpt (unwrapOrDefault result.commitPath)))
  journal .capture run.attemptId .persisted "checkpoint promoted on node"

/-- The message that resumes the source of a capture. -/
def captureResume (attemptId : AttemptId) (checkpointId workloadId : Id) : NodeRequest :=
  .resume
    { attemptId, checkpointId, workloadId
      fenceToken := none
      executionEpoch := none
      resume := true }

/-- Replicate to further nodes until the policy is met. -/
def replicateLoop (checkpointId : Id) :
    List NodeId → CheckpointObject → Fabric CheckpointObject
  | [], ck => pure ck
  | target :: targets, ck =>
    if settings.policy.minValidReplicas ≤ ck.replicaCount then pure ck
    else
      match ck.durableLocations with
      | [] => Program.fail (.panicked "index out of bounds")
      | location :: _ => do
        let source := location.node
        let token ← random
        let _ : Unit ← callNode source
          (.allowFetch { checkpointId, fetchToken := token, ttlMs := 300000 })
        let fromAddr ← nodeAddr source
        let nonce ← random
        let expectedManifestDigest ← okOr ck.manifestDigest
          (.integrityFailure "checkpoint has no coordinator manifest anchor")
        let result : NodeReplicateResult ← callNode target (.replicate
          { attemptId := .replicate checkpointId nonce
            checkpointId, expectedManifestDigest, fromAddr
            fetchToken := token })
        if result.ok then
          db (.checkpointAddLocation checkpointId
            { node := target, path := unwrapOrDefault result.path, verified := true })
        let ck ← checkpointGet checkpointId
        let ck ← okOr ck (.panicked "called unwrap on a None value")
        replicateLoop checkpointId targets ck

/-- Replicate a committed checkpoint as the policy asks. -/
def replicateToPolicy (checkpointId : Id) : Fabric Unit :=
  if settings.policy.minValidReplicas ≤ 1 then pure ()
  else do
    let ck ← requireCheckpoint checkpointId
    let have_ := ck.durableLocations.map (·.node)
    let nodes ← nodeList
    let targets := (nodes.filter fun n => n.status == .active && !have_.contains n.id).map (·.id)
    let _ ← replicateLoop settings checkpointId targets ck
    pure ()

/-- Resume the source, replicate, and close the attempt. -/
def finishCapture (ckpt : CheckpointObject) : Fabric OperationOutcome := do
  let result : NodeResumeResult ← callNode run.node
    (captureResume run.attemptId run.checkpointId run.workload.workloadId)
  if ¬ result.ok then
    let detail := s!"checkpoint committed but source resume failed: {unwrapOrDefault result.error}"
    attemptFinish run.attemptId .resumeFailed (some "checkpoint committed") (some detail)
    Program.fail (.captureProviderFailure detail)
  else
    journal .capture run.attemptId .resumeDone "source resumed"
    replicateToPolicy settings run.checkpointId
    attemptFinish run.attemptId .committed (some "capture committed") none
    reservationRelease run.attemptId
    fire "capture.after_commit"
    pure
      { attemptId := run.attemptId
        checkpointId := some run.checkpointId
        workloadId := some run.workload.workloadId
        node := some run.node
        state := "AVAILABLE"
        result := some "capture committed"
        error := none
        resumability := some ckpt.resumability
        workloadGeneration := some run.workload.workloadGeneration
        executionEpoch := some run.workload.executionEpoch }

/-- Run a reserved capture. -/
def executeCapture : Fabric OperationOutcome := do
  let ckpt ← stageCapture settings run
  let (ckpt, sealed) ← sealCapture settings run ckpt
  persistCapture run ckpt sealed
  fire "capture.before_db_commit"
  db (.captureCommit run.checkpointId run.attemptId)
  finishCapture settings run ckpt

/-- Tell the node to let go of an attempt: resume what it quiesced, remove its staging
directory and, unless the capture committed, its committed directory. -/
def releaseCaptureOnNode (node : NodeId) (attemptId : AttemptId) (checkpointId workloadId : Id)
    (committed : Bool) : Fabric Unit := do
  (callNode node (captureResume attemptId checkpointId workloadId)).ignore
  (callNode node (.cleanup
    { stagingAttempts := [attemptId]
      restoreAttempts := []
      checkpointIds := if committed then [] else [checkpointId] })).ignore

/-- Fail the checkpoint of an aborted capture, unless it is beyond its capture. -/
def failAbortedCheckpoint (checkpointId : Id) (committed : Bool) : Fabric Unit := do
  match ← checkpointGet checkpointId with
  | none => pure ()
  | some ck =>
    if !committed && ck.lifecycle != .available && ck.lifecycle != .restored &&
        ck.lifecycle != .retired then
      db (.checkpointSetLifecycle checkpointId .failed .pending)

/-- Clean up after a capture that returned an error. -/
def abortCaptureAttempt (attemptId : AttemptId) (checkpointId workloadId : Id)
    (detail : String) : Fabric Unit := do
  let committed ← journalHas .capture attemptId .dbCommitted
  let attempt : Option AttemptRecord ← db (.attemptGet attemptId)
  match attempt with
  | some a => releaseCaptureOnNode a.node attemptId checkpointId workloadId committed
  | none => pure ()
  failAbortedCheckpoint checkpointId committed
  attemptFinish attemptId (if committed then .committed else .failed)
    (if committed then some "capture committed before later failure" else none)
    (if committed then none else some detail)
  reservationRelease attemptId

/-- The active node of the workload if it is ACTIVE, else the first ACTIVE node. -/
def pickCaptureNode (workload : Workload) : Fabric NodeId := do
  let own ← match workload.activeNode with
    | some node => do
      let active ← nodeIsActive node
      pure (if active then some node else none)
    | none => pure none
  match own with
  | some node => pure node
  | none =>
    let nodes ← nodeList
    okOr ((nodes.filter fun n => n.status == .active).head?.map (·.id))
      (.internal "no active nodes available for capture")

/-- When the workload's latest AVAILABLE checkpoint was sealed. -/
def lastSeal (checkpoints : List CheckpointObject) : Option ℕ :=
  ((checkpoints.filter fun c => c.lifecycle == .available).map (·.sealMs)).max?

/-- Everything a capture checks before it reserves, and the identities it draws. -/
def admitCapture (workloadId : Id) (options : CaptureOptions) (ctx : OperationContext) :
    Fabric CaptureRun := do
  Program.ofExcept
    (settings.policy.authorize ctx.roles settings.policy.authority.capture)
  fire "capture.before_validation"
  let workload ← requireWorkload workloadId
  let checkpoints : List CheckpointObject ← db (.checkpointList workloadId)
  let now ← nowMs
  Program.ofExcept (Capture.validateCaptureRequest workload options settings.policy
    (lastSeal checkpoints) now)
  Program.ofExcept (Capture.workloadCaptureable workload workload.activeNode)
  let node ← pickCaptureNode workload
  let nonce ← random
  let latest : ℕ ← db (.checkpointMaxGeneration workloadId)
  let checkpointId ← random
  pure
    { workload, node, checkpointId, options
      attemptId := .capture workloadId nonce
      checkpointGeneration := latest + 1
      requestedConsistency := options.consistency.getD .crashConsistent }

/-- Reserve the workload for the capture and open its attempt. -/
def reserveCapture (workloadId : Id) : Fabric Unit := do
  db (.reservationCreate run.attemptId .capture (some workloadId) none run.node
    reservationTtlMs)
  db (.attemptBegin run.attemptId .capture (some run.checkpointId) (some workloadId) run.node)
  journal .capture run.attemptId .reserved "reservation committed"

def requestCapture (workloadId : Id) (options : CaptureOptions) (ctx : OperationContext) :
    Fabric OperationOutcome := do
  let run ← admitCapture settings workloadId options ctx
  reserveCapture run workloadId
  mapErr (executeCapture settings run) fun e =>
    abortCaptureAttempt run.attemptId run.checkpointId workloadId s!"capture failed: {e}"

end CheckpointFabric.Coordinator
