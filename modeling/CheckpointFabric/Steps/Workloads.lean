import CheckpointFabric.Fabric
import CheckpointFabric.Store.Specs

/-!
# How operations change the row of a workload

One inductive relation says everything that an operation of the coordinator may do
to the row of one workload. Invariants of workload rows are proved by cases on it.

## Main definitions

* `World.workload` — the row of a workload
* `WorkloadStep` — the changes of a row, one constructor for each way to write it

## Main results

* `World.workloadStep` — every operation takes such a step
* `issued_le_issued_handle` — used identities stay used
-/

set_option autoImplicit false

namespace CheckpointFabric

open Concurrency

/-- The row of a workload. -/
def World.workload (w : World) (id : Id) : Option Workload := w.store.workloads.get id

theorem World.workloadId_of_row {w : World} {id : Id} {r : Workload}
    (h : w.workload id = some r) : r.workloadId = id := Table.key_of_get h

/-- How an operation in the world `w` may change the row of workload `id`. -/
inductive WorkloadStep (w : World) (id : Id) : Op → Option Workload → Option Workload → Prop
  | kept {op : Op} {row : Option Workload} : WorkloadStep w id op row row
  | inserted {r : Workload} : r.workloadId = id →
    WorkloadStep w id (.db (.workloadInsert r)) none (some r)
  | forked {r : Workload} {parent checkpoint : Id} {detail : String} : r.workloadId = id →
    WorkloadStep w id (.db (.workloadInsertFork r parent checkpoint detail)) none (some r)
  | fenced {r : Workload} :
    WorkloadStep w id (.db (.workloadBumpFence id r.executionEpoch)) (some r)
      (some { r with
        executionEpoch := r.executionEpoch + 1
        fenceToken := none
        activeNode := none })
  | claimed {r : Workload} {node : NodeId} : Store.claimConflict r node = none →
    WorkloadStep w id (.claim id node r.executionEpoch) (some r)
      (some { r with
        activeNode := some node
        fenceToken := some w.issued
        fenceEpoch := r.executionEpoch })
  | released {r : Workload} {node : NodeId} : r.activeNode = some node →
    WorkloadStep w id (.db (.workloadRelease id node)) (some r)
      (some { r with fenceToken := none, activeNode := none })
  | recorded {r r' : Workload} {checkpointId : Id} {attemptId : AttemptId} :
    Store.Recorded r r' →
    WorkloadStep w id (.db (.captureCommit checkpointId attemptId)) (some r) (some r')
  | restored {r : Workload} {checkpointId : Id} {attemptId : AttemptId} {node : NodeId}
      {token : FenceToken} {migration rollback : Bool} {c : CheckpointObject} :
    w.store.checkpoints.get checkpointId = some c → c.workloadId = id →
    WorkloadStep w id
      (.db (.restoreCommit checkpointId attemptId node token migration rollback)) (some r)
      (some { r with
        workloadGeneration := r.workloadGeneration + 1
        checkpointGeneration := c.checkpointGeneration
        executionEpoch := r.executionEpoch + 1 + migration.toNat
        activeNode := some node
        fenceToken := some token
        fenceEpoch := r.executionEpoch + 1 + migration.toNat })

namespace World

variable {codecs : Codecs}

theorem workloadStep_execute (now : ℕ) (fault : Option FabricError) (op : StoreOp) (w : World)
    (id : Id) :
    WorkloadStep w id (.db op) (w.store.workloads.get id)
      ((op.execute now fault w.store).2.workloads.get id) := by
  rcases StoreOp.execute_cases now fault op w.store with ⟨e, h⟩ | ⟨reply, s', -, hrun, h⟩
  · rw [h]
    exact .kept
  rw [h]
  by_cases hwrites : op.writesWorkloads
  · cases op
    case workloadInsert r =>
      obtain ⟨hnew, rfl⟩ := Store.workloadInsert_ok (StoreOp.of_map_ok hrun)
      dsimp only
      rw [Table.get_insert]
      split
      · rename_i hid
        subst hid
        rw [hnew]
        exact .inserted rfl
      · exact .kept
    case workloadInsertFork r parent checkpoint detail =>
      obtain ⟨hnew, lineage, rfl⟩ := Store.workloadInsertFork_ok (StoreOp.of_map_ok hrun)
      dsimp only
      rw [Table.get_insert]
      split
      · rename_i hid
        subst hid
        rw [hnew]
        exact .forked rfl
      · exact .kept
    case workloadBumpFence id' expectedEpoch =>
      obtain ⟨r, hr, rfl, rfl⟩ := Store.workloadBumpFence_ok (StoreOp.of_map_ok hrun)
      dsimp only
      rw [Table.get_modify]
      split
      · rename_i hid
        subst hid
        rw [hr]
        exact .fenced
      · exact .kept
    case workloadRelease id' node =>
      obtain rfl := StoreOp.snd_of_ok hrun
      dsimp only [Store.workloadRelease]
      rw [Table.get_modify]
      split
      · rename_i hid
        subst hid
        cases hrow : w.store.workloads.get id' with
        | none => exact .kept
        | some r =>
          rw [Option.map_some]
          -- A release by a node that is not the active one changes nothing.
          split
          · rename_i hactive
            exact .released hactive
          · exact .kept
      · exact .kept
    case captureCommit checkpointId attemptId =>
      obtain ⟨c, r, hcommit⟩ := Store.captureCommit_ok (StoreOp.of_map_ok hrun)
      have hrow := hcommit.recorded id
      cases hbefore : w.store.workloads.get id with
      | none =>
        rw [hbefore] at hrow
        generalize s'.workloads.get id = after at hrow
        cases hrow
        exact .kept
      | some r =>
        rw [hbefore] at hrow
        obtain ⟨r', hafter, hr⟩ := Table.exists_of_rel_some hrow
        rw [hafter]
        exact .recorded hr
    case restoreCommit checkpointId attemptId node token migration rollback =>
      obtain ⟨c, r, hcommit⟩ := Store.restoreCommit_ok (StoreOp.of_map_ok hrun)
      dsimp only
      rw [hcommit.workloads, Table.get_modify]
      split
      · rename_i hid
        subst hid
        rw [hcommit.owner]
        exact .restored hcommit.found rfl
      · exact .kept
    -- Whatever else is a call of the store leaves the table.
    all_goals exact absurd hwrites not_false
  · rw [(StoreOp.frame_of_run hrun).workloads hwrites]
    exact .kept

/-- Every operation takes a step on the row of every workload. -/
theorem workloadStep (codecs : Codecs) (op : Op) (input : Input) (w : World) (id : Id) :
    WorkloadStep w id op (w.workload id) ((handle codecs op input w).2.workload id) := by
  unfold workload
  cases op with
  | db op =>
    rw [store_handle_db]
    exact workloadStep_execute ..
  | claim id' node fenceEpoch =>
    simp only [handle]
    split
    · exact .kept
    · split
      · rename_i s' hclaim
        obtain ⟨r, hr, hconflict, rfl, rfl⟩ := Store.workloadClaim_ok hclaim
        dsimp only
        rw [Table.get_modify]
        split
        · rename_i hid
          subst hid
          rw [hr]
          exact .claimed hconflict
        · exact .kept
      · exact .kept
  | call node request =>
    rw [store_handle_call]
    exact .kept
  | _ => exact .kept

@[simp] theorem workload_restart (w : World) (id : Id) : w.restart.workload id = w.workload id :=
  rfl

@[simp] theorem workload_move (m : Move) (w : World) (id : Id) :
    (move codecs m w).workload id = w.workload id := by
  simp [workload]

@[simp] theorem issued_restart (w : World) : w.restart.issued = w.issued := rfl

@[simp] theorem issued_move (m : Move) (w : World) : (move codecs m w).issued = w.issued := by
  cases m with
  | arrive index o =>
    simp only [move]
    split <;> rfl
  | _ => rfl

/-- Identities that were used stay used. -/
theorem issued_le_issued_handle (op : Op) (input : Input) (w : World) :
    w.issued ≤ (handle codecs op input w).2.issued := by
  cases op with
  | db op =>
    simp only [handle, remember]
    split
    · exact Nat.le_max_left _ _
    · exact Nat.le_refl _
  | claim id node fenceEpoch =>
    simp only [handle]
    split
    · exact Nat.le_refl _
    · split
      · exact Nat.le_succ _
      · exact Nat.le_refl _
  | random => exact Nat.le_succ _
  | call node request =>
    simp only [handle]
    split <;> exact Nat.le_refl _
  | _ => exact Nat.le_refl _

/-- A claim does nothing, or uses up the token it drew. -/
theorem claim_cases (codecs : Codecs) (workloadId : Id) (node : NodeId) (fenceEpoch : ℕ) (input : Input)
    (w : World) :
    (handle codecs (.claim workloadId node fenceEpoch) input w).2 = w ∨
      (handle codecs (.claim workloadId node fenceEpoch) input w).2.issued = w.issued + 1 := by
  simp only [handle]
  split
  · exact .inl rfl
  · split
    · exact .inr rfl
    · exact .inl rfl

/-- A token that a call of the store writes is used up. -/
theorem lt_issued_of_storedToken (op : StoreOp) {token : FenceToken}
    (h : storedToken op = some token) (input : Input) (w : World) :
    token < (handle codecs (.db op) input w).2.issued := by
  simp only [handle, h, remember]
  exact Nat.lt_of_lt_of_le (Nat.lt_succ_self token) (Nat.le_max_right _ _)

end World

/-- A row is never deleted, and stays single-active or not. -/
theorem WorkloadStep.singleActive_eq {w : World} {id : Id} {op : Op} {r : Workload}
    {row : Option Workload} (h : WorkloadStep w id op (some r) row) :
    ∃ r', row = some r' ∧ r'.singleActive = r.singleActive := by
  cases h
  case recorded hrecorded =>
    obtain ⟨generation, class_, rfl⟩ := hrecorded
    exact ⟨_, rfl, rfl⟩
  all_goals exact ⟨_, rfl, rfl⟩

end CheckpointFabric
