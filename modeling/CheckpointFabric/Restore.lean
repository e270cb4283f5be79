import CheckpointFabric.Compatibility
import CheckpointFabric.Workload

/-!
# Restore decisions

The pure part of a restore: which checkpoints may be restored, who may become the
active node, and what the restored execution is worth.

## Main results

* `Restore.validateTargetClaim_eq_ok_iff` — what admission asks of the claim
* `Restore.lifecycle_of_validateRestoreRequest` — admission passes AVAILABLE and
  RESTORED checkpoints only
* `Restore.canTransition_restorePending_of_validateRestoreRequest_iff` — of those, only
  the AVAILABLE ones can take the next durable transition
* `Restore.rank_restoredResumability_le` — a restore never claims more than was captured
-/

set_option autoImplicit false

namespace CheckpointFabric

/-- A resolved reference to a context object at restore time. -/
structure ContextRefResolution where
  objectId : Id
  required : Bool
  deriving DecidableEq, Repr

/-- Options for a restore request. -/
structure RestoreOptions where
  resume : Bool := true
  rollback : Bool := false
  migration : Bool := false
  targetFenceToken : Option FenceToken := none
  resolvedContextRefs : List ContextRefResolution := []
  deriving DecidableEq, Repr

namespace Restore

/-- Validate a restore request against the checkpoint and policy. -/
def validateRestoreRequest (checkpoint : CheckpointObject) (policy : PolicySet) :
    FabricResult Unit :=
  if ¬ checkpoint.lifecycle.isRestorable then
    .error (.corruptedCheckpoint
      s!"checkpoint {toHex checkpoint.checkpointId} is not restorable in lifecycle state {checkpoint.lifecycle.asStr}")
  else if checkpoint.lifecycle = .retired then
    .error (.policyViolation "retired checkpoint requires archive-restore policy")
  else if checkpoint.integrityState = .corrupt then
    .error (.corruptedCheckpoint
      s!"checkpoint {toHex checkpoint.checkpointId} is marked corrupt; restore refused")
  else if checkpoint.replicaCount < policy.minValidReplicas then
    .error (.corruptedCheckpoint
      s!"checkpoint {toHex checkpoint.checkpointId} has {checkpoint.replicaCount} replicas but policy requires {policy.minValidReplicas}")
  else if checkpoint.durableLocations.isEmpty then
    .error (.corruptedCheckpoint
      s!"checkpoint {toHex checkpoint.checkpointId} has no durable locations")
  else .ok ()

theorem validateRestoreRequest_eq_ok_iff {checkpoint : CheckpointObject} {policy : PolicySet} :
    validateRestoreRequest checkpoint policy = .ok () ↔
      checkpoint.lifecycle.isRestorable ∧ checkpoint.integrityState ≠ .corrupt ∧
        policy.minValidReplicas ≤ checkpoint.replicaCount ∧
        checkpoint.durableLocations ≠ [] := by
  unfold validateRestoreRequest
  have hretired : checkpoint.lifecycle.isRestorable → checkpoint.lifecycle ≠ .retired := by
    cases checkpoint.lifecycle <;> decide
  by_cases h₁ : checkpoint.lifecycle.isRestorable
  · by_cases h₂ : checkpoint.integrityState = .corrupt
    · simp [h₁, h₂, hretired h₁]
    · by_cases h₃ : checkpoint.replicaCount < policy.minValidReplicas
      · simp only [h₁, h₂, h₃, hretired h₁, not_true_eq_false, if_false, if_true, reduceCtorEq,
          false_iff]
        rintro ⟨-, -, hle, -⟩
        omega
      · cases h₄ : checkpoint.durableLocations with
        | nil => simp [h₁, h₂, h₃, hretired h₁]
        | cons location locations =>
          simp [h₁, h₂, h₃, hretired h₁]
          omega
  · simp [h₁]

theorem lifecycle_of_validateRestoreRequest {checkpoint : CheckpointObject} {policy : PolicySet}
    (h : validateRestoreRequest checkpoint policy = .ok ()) :
    checkpoint.lifecycle = .available ∨ checkpoint.lifecycle = .restored :=
  LifecycleState.isRestorable_iff.mp (validateRestoreRequest_eq_ok_iff.mp h).1

/-- Validation accepts a RESTORED checkpoint, which the lifecycle does not let back into
RESTORE_PENDING. -/
theorem canTransition_restorePending_of_validateRestoreRequest_iff
    {checkpoint : CheckpointObject} {policy : PolicySet}
    (h : validateRestoreRequest checkpoint policy = .ok ()) :
    checkpoint.lifecycle.canTransition .restorePending ↔ checkpoint.lifecycle = .available := by
  rw [LifecycleState.canTransition_restorePending_iff]
  rcases lifecycle_of_validateRestoreRequest h with h | h <;> simp [h]

/-- The first required reference that the checkpoint does not list decides the error. -/
def validateContextRefs (checkpoint : CheckpointObject) :
    List ContextRefResolution → FabricResult Unit
  | [] => .ok ()
  | r :: resolved =>
    if r.required && !checkpoint.dependencies.any fun d =>
        d.kind == "context" && d.identity == toHex r.objectId then
      .error (.missingDependency
        s!"required context object {toHex r.objectId} is not referenced by this checkpoint")
    else validateContextRefs checkpoint resolved

/-- Derive the honest post-restore resumability class. -/
def restoredResumability (captured : ResumabilityClass) (compatVerdict : CompatVerdict)
    (resumed : Bool) : ResumabilityClass :=
  let base : ResumabilityClass :=
    match compatVerdict with
    | .compatible => captured
    | .compatibleWithTranslation =>
      match captured with
      | .exact => .equivalent
      | other => other
    | .compatibleDegraded =>
      match captured with
      | .exact | .equivalent => .degraded
      | other => other
    | .incompatible => .nonResumable
  if !resumed && ResumabilityClass.restartFromCheckpoint.rank < base.rank then
    .restartFromCheckpoint
  else base

/-- A restore never claims more than was captured. -/
theorem rank_restoredResumability_le (captured : ResumabilityClass) (verdict : CompatVerdict)
    (resumed : Bool) : (restoredResumability captured verdict resumed).rank ≤ captured.rank := by
  unfold restoredResumability
  extract_lets base
  have hbase : base.rank ≤ captured.rank := by
    subst base
    cases verdict with
    | compatible => exact Nat.le_refl _
    | incompatible => exact Nat.zero_le _
    | _ => cases captured <;> decide
  split
  · rename_i hweaker
    simp only [Bool.and_eq_true, decide_eq_true_eq] at hweaker
    exact Nat.le_trans (Nat.le_of_lt hweaker.2) hbase
  · exact hbase

/-- Validate target authority claim during restore commit. -/
def validateTargetClaim (workload : Workload) (targetNode : NodeId) (migration : Bool) :
    FabricResult Unit :=
  match workload.singleActive, workload.activeNode with
  | true, some active =>
    if active ≠ targetNode ∧ active ≠ migratingMarker ∧ ¬ migration then
      .error (.fencingFailure
        s!"restore target {targetNode} is not the active node ({active}); single-active workloads require migration or an explicit fence")
    else .ok ()
  | _, _ => .ok ()

theorem validateTargetClaim_eq_ok_iff {workload : Workload} {targetNode : NodeId} :
    validateTargetClaim workload targetNode false = .ok () ↔
      (workload.singleActive → ∀ active, workload.activeNode = some active →
        active = targetNode ∨ active = migratingMarker) := by
  unfold validateTargetClaim
  cases workload.singleActive <;> cases workload.activeNode with
  | none => simp
  | some active =>
    by_cases h₁ : active = targetNode <;> by_cases h₂ : active = migratingMarker <;> simp [h₁, h₂]

/-- Whether a restore is eligible given archive policy. -/
def restoreEligible (checkpoint : CheckpointObject) (policy : PolicySet) : FabricResult Unit :=
  if checkpoint.lifecycle = .retired ∧ ¬ policy.archiveRestorePermitted then
    .error (.policyViolation
      "archived checkpoint restore requires archive_restore_permitted policy")
  else .ok ()

end Restore

end CheckpointFabric
