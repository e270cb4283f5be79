import Mathlib.Data.Nat.Notation

/-!
# The error model

Runtime failures of the fabric, by category, and the text each is shown with.
-/

set_option autoImplicit false

namespace CheckpointFabric

/-- Categorized runtime error. -/
inductive FabricError
  | invalidLifecycleTransition (source target : String)
  | staleCoordinatorEpoch (expected got : ℕ)
  | staleWorkloadEpoch (expected got : ℕ)
  | staleCaptureAttempt (text : String)
  | staleRestoreAttempt (text : String)
  | reservationConflict (text : String)
  | quiescenceFailure (text : String)
  | captureProviderFailure (text : String)
  | incompleteCheckpoint (text : String)
  | frontierInconsistency (text : String)
  | integrityFailure (text : String)
  | compatibilityFailure (text : String)
  | missingDependency (text : String)
  | unsupportedBackend (text : String)
  | unsupportedComponent (text : String)
  | corruptedCheckpoint (text : String)
  | persistenceError (text : String)
  | transportError (text : String)
  | protocolError (text : String)
  | storageError (text : String)
  | restoreFailure (text : String)
  | migrationFailure (text : String)
  | fencingFailure (text : String)
  | lineageViolation (text : String)
  | policyViolation (text : String)
  | checkpointNotFound (text : String)
  | workloadNotFound (text : String)
  | generationMismatch (text : String)
  | timeout (text : String)
  | cleanupFailure (text : String)
  | invalidArgument (text : String)
  | internal (text : String)
  | io (text : String)
  | json (text : String)
  | sqlite (text : String)
  /-- Deliberate injected failure. -/
  | failPoint (text : String)
  /-- Not an error value of the program: the operation panicked. No handler sees it. -/
  | panicked (text : String)
  deriving DecidableEq, Repr

namespace FabricError

/-- The text an error is shown with. -/
protected def toString : FabricError → String
  | invalidLifecycleTransition source target =>
    s!"invalid lifecycle transition: {source} -> {target}"
  | staleCoordinatorEpoch expected got =>
    s!"stale coordinator epoch: coordinator expects {expected}, actor holds {got}"
  | staleWorkloadEpoch expected got => s!"stale workload epoch: expected {expected}, got {got}"
  | staleCaptureAttempt s => s!"stale capture attempt: {s}"
  | staleRestoreAttempt s => s!"stale restore attempt: {s}"
  | reservationConflict s => s!"reservation conflict: {s}"
  | quiescenceFailure s => s!"quiescence failure: {s}"
  | captureProviderFailure s => s!"capture provider failure: {s}"
  | incompleteCheckpoint s => s!"incomplete checkpoint: {s}"
  | frontierInconsistency s => s!"execution frontier inconsistency: {s}"
  | integrityFailure s => s!"integrity failure: {s}"
  | compatibilityFailure s => s!"compatibility failure: {s}"
  | missingDependency s => s!"missing dependency: {s}"
  | unsupportedBackend s => s!"unsupported backend: {s}"
  | unsupportedComponent s => s!"unsupported component: {s}"
  | corruptedCheckpoint s => s!"corrupted checkpoint: {s}"
  | persistenceError s => s!"persistence error: {s}"
  | transportError s => s!"transport error: {s}"
  | protocolError s => s!"protocol error: {s}"
  | storageError s => s!"storage error: {s}"
  | restoreFailure s => s!"restore failure: {s}"
  | migrationFailure s => s!"migration failure: {s}"
  | fencingFailure s => s!"fencing failure: {s}"
  | lineageViolation s => s!"lineage violation: {s}"
  | policyViolation s => s!"policy violation: {s}"
  | checkpointNotFound s => s!"checkpoint not found: {s}"
  | workloadNotFound s => s!"workload not found: {s}"
  | generationMismatch s => s!"generation mismatch: {s}"
  | timeout s => s!"timeout: {s}"
  | cleanupFailure s => s!"cleanup failure: {s}"
  | invalidArgument s => s!"invalid argument: {s}"
  | internal s => s!"internal error: {s}"
  | io s => s!"io error: {s}"
  | json s => s!"serialization error: {s}"
  | sqlite s => s!"sqlite error: {s}"
  | failPoint s => s!"injected failpoint: {s}"
  | panicked s => s!"panicked: {s}"

instance : ToString FabricError := ⟨FabricError.toString⟩

/-- Whether the operation ended in a panic. -/
def isPanic : FabricError → Bool
  | panicked _ => true
  | _ => false

end FabricError

/-- The result of a fallible operation. -/
abbrev FabricResult (α : Type) := Except FabricError α

end CheckpointFabric
