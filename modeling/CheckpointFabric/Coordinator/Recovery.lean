import CheckpointFabric.Coordinator.Restore

/-!
# Recovery

`reconcile` decides the fate of every ACTIVE attempt from its journal; `runRecovery`
then visits the nodes of the attempts it decided.
-/

set_option autoImplicit false

namespace CheckpointFabric.Coordinator

open Concurrency Fabric

/-- What recovery made of an attempt. -/
inductive RecoveryState
  | dbCommitted
  | failedCleanup
  | failed
  | resumeUnverified
  | committed
  deriving DecidableEq, Repr

/-- One deterministic recovery action. -/
structure RecoveryAction where
  kind : ReservationKind
  key : AttemptId
  state : RecoveryState
  detail : String

/-- Outcome of a reconciliation pass. -/
structure RecoveryOutcome where
  actions : List RecoveryAction
  staleNodes : List NodeId
  expiredReservations : ℕ

/-- Append an audit record, and stop if that fails. -/
def audit (op : String) : Fabric Unit := db (.auditAppend op)

/-- Finish an attempt and release its reservation. -/
def closeAttempt (key : AttemptId) (state : AttemptState) (result error : Option String) :
    Fabric Unit := do
  attemptFinish key state result error
  reservationRelease key

/-- Complete the metadata commit of a capture whose physical commit is journaled. When
the metadata is refused, the checkpoint fails. -/
def recommitCapture (key : AttemptId) (checkpointId : Id) : Fabric RecoveryAction := do
  let ckpt ← requireCheckpoint checkpointId
  let committed : FabricResult Unit ← (db (.captureCommit checkpointId key)).attempt
  match committed with
  | .error error =>
    if ckpt.lifecycle == .persisting || ckpt.lifecycle == .available then
      Program.ofExcept (ckpt.lifecycle.transition .failed)
      db (.checkpointSetLifecycle checkpointId .failed .corrupt)
    closeAttempt key .failed none
      (some s!"persisted checkpoint metadata is incomplete: {error}")
    audit "capture.recovery_rejected"
    pure
      { kind := .capture, key, state := .failedCleanup
        detail := s!"persisted checkpoint metadata was incomplete and was rejected: {error}" }
  | .ok () =>
    closeAttempt key .committed (some "capture metadata commit completed by recovery") none
    audit "capture.recovery_commit"
    pure
      { kind := .capture, key, state := .dbCommitted
        detail := "capture physically persisted; metadata commit completed by recovery" }

/-- Decide a capture attempt from its journal. -/
def reconcileCapture (a : AttemptRecord) : Fabric RecoveryAction := do
  let hasPersisted ← journalHas .capture a.id .persisted
  let hasDb ← journalHas .capture a.id .dbCommitted
  if hasDb then
    closeAttempt a.id .committed (some "capture committed before restart") none
    pure
      { kind := .capture, key := a.id, state := .dbCommitted
        detail := "capture metadata commit confirmed after restart" }
  else if hasPersisted then
    let checkpointId ← okOr a.checkpointId
      (.internal s!"capture attempt {a.id} has no checkpoint id")
    recommitCapture a.id checkpointId
  else
    -- Nothing durable: the attempt is failed, its checkpoint is left as it is.
    closeAttempt a.id .failed none (some "attempt interrupted before durable commit")
    audit "capture.aborted_by_recovery"
    pure
      { kind := .capture, key := a.id, state := .failed
        detail := "capture attempt aborted by recovery (no durable commit evidence)" }

/-- Decide a restore or rollback attempt from its journal. -/
def reconcileRestore (a : AttemptRecord) : Fabric RecoveryAction := do
  let hasRestored ← journalHas .restore a.id .componentsRestored
  let hasCommitted ← journalHas .restore a.id .generationCommitted
  let hasResumed ← journalHas .restore a.id .resumed
  if hasCommitted then
    if ¬ hasResumed then
      closeAttempt a.id .committed
        (some "generation committed; resume unverified after restart") none
      audit "restore.resume_unverified"
      pure
        { kind := .restore, key := a.id, state := .resumeUnverified
          detail := "restore committed; resume unverified after restart" }
    else
      closeAttempt a.id .committed (some "restore committed before restart") none
      pure
        { kind := .restore, key := a.id, state := .committed
          detail := "restore confirmed committed after restart" }
  else if hasRestored then
    match a.checkpointId with
    | some checkpointId => returnToAvailable checkpointId
    | none => pure ()
    closeAttempt a.id .failed none (some "restore interrupted before generation commit")
    audit "restore.cleaned_by_recovery"
    pure
      { kind := .restore, key := a.id, state := .failedCleanup
        detail := "restore interrupted before generation commit; target cleanup required" }
  else
    -- No durable progress: the lifecycle of the checkpoint is left as it is.
    closeAttempt a.id .failed none (some "restore interrupted before provisioning")
    pure
      { kind := .restore, key := a.id, state := .failed
        detail := "restore attempt aborted by recovery (no durable progress)" }

def reconcileAttempt (a : AttemptRecord) : Fabric RecoveryAction :=
  match a.kind with
  | .capture => reconcileCapture a
  | .restore | .rollback => reconcileRestore a

/-- Declare overdue nodes STALE. Their workloads keep their claims. -/
def markStale (nodes : List NodeId) : Fabric Unit :=
  Program.forEach nodes fun n => do
    db (.nodeSetStatus n .stale)
    audit "node.stale"

/-- Reconcile the durable store after a restart. -/
def reconcile (ctx : OperationContext) : Fabric RecoveryOutcome := do
  let now ← nowMs
  let expiredReservations : ℕ ← db (.reservationsExpire now)
  let now ← nowMs
  let stale : List NodeId ← db (.nodesSweepStale (now - ctx.staleMs))
  markStale stale
  let attempts : List AttemptRecord ← db (.attemptsInState .active)
  let actions ← Program.mapEach attempts reconcileAttempt
  pure { actions, staleNodes := stale, expiredReservations }

/-- Send a cleanup, and stop if the node does not confirm it. -/
def confirmCleanup (node : NodeId) (req : NodeCleanupRequest) : Fabric Unit := do
  let result : NodeCleanupResult ← callNode node (.cleanup req)
  match result.error with
  | some error => Program.fail (.cleanupFailure error)
  | none => pure ()

/-- Send a resume, and stop if the node does not confirm it. -/
def confirmResume (what : String) (node : NodeId) (request : NodeResumeRequest) :
    Fabric Unit := do
  let result : NodeResumeResult ← callNode node (.resume request)
  Program.ensure result.ok
    (.cleanupFailure s!"{what} on {node} failed: {unwrapOrDefault result.error}")

/-- After a decided capture: resume the source and remove what the attempt left. -/
def visitCapture (action : RecoveryAction) (attempt : AttemptRecord) : Fabric Unit := do
  match attempt.checkpointId, attempt.workloadId with
  | some checkpointId, some workloadId =>
    confirmResume "capture recovery resume" attempt.node
      { attemptId := action.key, checkpointId, workloadId
        fenceToken := none
        executionEpoch := none
        resume := true }
  | _, _ => pure ()
  confirmCleanup attempt.node
    { stagingAttempts := [action.key]
      restoreAttempts := []
      checkpointIds :=
        if action.state == .failedCleanup then attempt.checkpointId.toList else [] }

/-- After a decided restore: roll the target back, or finalize it under the workload's
current authority. -/
def visitRestore (action : RecoveryAction) (attempt : AttemptRecord) : Fabric Unit :=
  match action.state, attempt.checkpointId, attempt.workloadId with
  | .failedCleanup, some checkpointId, some workloadId =>
    confirmCleanup attempt.node
      { stagingAttempts := [action.key]
        restoreAttempts := [{ attemptId := action.key, checkpointId, workloadId }]
        checkpointIds := [] }
  | .resumeUnverified, some checkpointId, some workloadId => do
    let workload ← requireWorkload workloadId
    confirmResume "restore recovery finalization" attempt.node
      { attemptId := action.key, checkpointId, workloadId
        fenceToken := workload.fenceToken
        executionEpoch := some workload.executionEpoch
        resume := false }
  | _, _, _ => pure ()

/-- Visit the node of a decided attempt, if it is ACTIVE. -/
def visitAction (action : RecoveryAction) : Fabric Unit := do
  let attempt : Option AttemptRecord ← db (.attemptGet action.key)
  match attempt with
  | none => pure ()
  | some attempt =>
    let active ← nodeIsActive attempt.node
    if active then
      match action.kind with
      | .capture => visitCapture action attempt
      | .restore => visitRestore action attempt
    else pure ()

def runRecovery (ctx : OperationContext) : Fabric RecoveryOutcome := do
  let out ← reconcile ctx
  Program.forEach out.actions visitAction
  pure out

/-- A request for recovery. -/
structure RecoveryRequest where
  dryRun : Bool
  authority : Authority

/-- Recovery on request. That it has run is audited, and a failure of that is ignored. -/
def serveRecovery (settings : Settings) (req : RecoveryRequest) : Fabric RecoveryOutcome := do
  let out ← runRecovery (.forAuthority req.authority settings.staleMs)
  (audit "coordinator.recovery").ignore
  pure out

end CheckpointFabric.Coordinator
