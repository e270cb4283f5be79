import CheckpointFabric.Coordinator.Maintenance

/-!
# What can be reclaimed

A view of every checkpoint for external reclamation decisions, with a classification of whether it
may be retired: the newest generations of a workload are kept, by their numbers and by their count,
and so are pinned checkpoints. Of what is left, the AVAILABLE ones are eligible.

## Main definitions

* `ReclaimView` — the view of a checkpoint
* `retirementEligibility` — the classification
* `retirementCandidates` — the views of all checkpoints

## Main results

* `retirementEligibility_eq_eligible_iff` — what is eligible
-/

set_option autoImplicit false

namespace CheckpointFabric.Retention

open Concurrency Fabric Coordinator

/-- View of a checkpoint exposed for external reclamation decisions. -/
structure ReclaimView where
  checkpointId : Id
  workloadId : Id
  checkpointGeneration : ℕ
  lifecycle : String
  value : ℕ
  protection : ProtectionState
  reconstructibility : String
  lineageParents : List Id
  supersededBy : Option Id
  minGenerationsRetained : ℕ
  retirementEligibility : RetirementEligibility
  totalPhysicalBytes : ℕ
  replicas : ℕ
  deriving DecidableEq, Repr

section Classification

variable (policy : PolicySet)

/-- The generation is one of the newest by its number. A retired checkpoint does not count. -/
def ProtectedGen (w : Workload) (c : CheckpointObject) : Prop :=
  c.lifecycle ≠ .retired ∧
    w.checkpointGeneration - policy.protectedGenerations < c.checkpointGeneration

instance (w : Workload) (c : CheckpointObject) : Decidable (ProtectedGen policy w c) := by
  unfold ProtectedGen
  infer_instance

/-- The checkpoint at this position is one of the newest by count. Both counts are cut to 32 bits,
and their difference wraps. -/
def MinKept (total i : ℕ) : Prop :=
  (total.toUInt32 - i.toUInt32).toNat ≤ policy.minGenerationsRetained

instance (total i : ℕ) : Decidable (MinKept policy total i) := by
  unfold MinKept
  infer_instance

/-- Whether the checkpoint at position `i` of `total` may be retired. -/
def retirementEligibility (w : Workload) (total : ℕ) (c : CheckpointObject) (i : ℕ) :
    RetirementEligibility :=
  if ProtectedGen policy w c then .protected_
  else if c.protection = .pinned then .pinned
  else if MinKept policy total i then .minimumGenerations
  else if c.lifecycle ≠ .available then .notEligible
  else .eligible

/-- The checkpoints in the order of their generations. -/
def byGeneration (cks : List CheckpointObject) : List CheckpointObject :=
  cks.insertionSort fun a b => a.checkpointGeneration ≤ b.checkpointGeneration

def reclaimView (w : Workload) (total : ℕ) (c : CheckpointObject) (i : ℕ) : ReclaimView where
  checkpointId := c.checkpointId
  workloadId := c.workloadId
  checkpointGeneration := c.checkpointGeneration
  lifecycle := c.lifecycle.asStr
  value := c.restoreCount + c.replicaCount
  protection := c.protection
  reconstructibility := if c.isRestorable then "restorable" else "not_restorable"
  lineageParents := c.lineageParents
  supersededBy := c.supersededBy
  minGenerationsRetained := policy.minGenerationsRetained
  retirementEligibility := retirementEligibility policy w total c i
  totalPhysicalBytes := c.totalPhysicalBytes
  replicas := c.replicaCount

/-- The views of the checkpoints of one workload. -/
def reclaimViews (w : Workload) (cks : List CheckpointObject) : List ReclaimView :=
  (byGeneration cks).zipIdx.map fun (c, i) => reclaimView policy w cks.length c i

end Classification

def retirementCandidates (settings : Settings) : Fabric (List ReclaimView) := do
  let workloads : List Workload ← db .workloadList
  let views ← Program.mapEach workloads fun w => do
    let cks : List CheckpointObject ← db (.checkpointList w.workloadId)
    pure (reclaimViews settings.policy w cks)
  pure views.flatten

section Eligible

variable {policy : PolicySet} {w : Workload} {total i : ℕ} {c : CheckpointObject}

/-- What is eligible: an AVAILABLE checkpoint that is not pinned, and is not one of the newest in
either sense. -/
theorem retirementEligibility_eq_eligible_iff :
    retirementEligibility policy w total c i = .eligible ↔
      ¬ ProtectedGen policy w c ∧ c.protection ≠ .pinned ∧ ¬ MinKept policy total i ∧
        c.lifecycle = .available := by
  unfold retirementEligibility
  split
  · simp [*]
  · split
    · simp [*]
    · split
      · simp [*]
      · split <;> simp_all

end Eligible

end CheckpointFabric.Retention
