import CheckpointFabric.Fabric
import CheckpointFabric.Store.Specs

/-!
# How operations change the row of a checkpoint

As for workloads, one inductive relation says everything that a call of the store may
do to the row of one checkpoint. What is common to all of it: a row stays with its
workload, and it becomes AVAILABLE, RESTORED or RETIRED from few states only.

## Main definitions

* `World.checkpoint` — the row of a checkpoint
* `CheckpointStep` — the changes of a row, one constructor for each way to write it

## Main results

* `World.checkpointStep` — every operation takes such a step
* `CheckpointStep.workloadId_eq` — a checkpoint belongs to one workload for good
-/

set_option autoImplicit false

namespace CheckpointFabric

open Concurrency

/-- The row of a checkpoint. -/
def World.checkpoint (w : World) (id : Id) : Option CheckpointObject := w.store.checkpoints.get id

theorem World.checkpointId_of_row {w : World} {id : Id} {c : CheckpointObject}
    (h : w.checkpoint id = some c) : c.checkpointId = id := Table.key_of_get h

/-- How an operation may change the row of checkpoint `id`. -/
inductive CheckpointStep (id : Id) :
    Op → Option CheckpointObject → Option CheckpointObject → Prop
  | kept {op : Op} {row : Option CheckpointObject} : CheckpointStep id op row row
  | inserted {c : CheckpointObject} : c.checkpointId = id →
    CheckpointStep id (.db (.checkpointInsert c)) none (some c)
  | updated {c old : CheckpointObject} : c.checkpointId = id →
    CheckpointStep id (.db (.checkpointUpdate c)) (some old)
      (some { c with workloadId := old.workloadId })
  | lifecycleSet {c : CheckpointObject} {lifecycle : LifecycleState}
      {integrity : IntegrityState} :
    CheckpointStep id (.db (.checkpointSetLifecycle id lifecycle integrity)) (some c)
      (some { c with lifecycle, integrityState := integrity })
  | captured {c c' : CheckpointObject} {attemptId : AttemptId} :
    c.lifecycle = .persisting ∨ c.lifecycle = .available →
    Store.Relinked { c with lifecycle := .available, integrityState := .valid } c' →
    CheckpointStep id (.db (.captureCommit id attemptId)) (some c) (some c')
  | relinked {c c' : CheckpointObject} {other : Id} {attemptId : AttemptId} : other ≠ id →
    c' = c ∨ c.lifecycle = .available ∨ c.lifecycle = .restored → Store.Relinked c c' →
    CheckpointStep id (.db (.captureCommit other attemptId)) (some c) (some c')
  | restored {c : CheckpointObject} {attemptId : AttemptId} {node : NodeId} {token : FenceToken}
      {migration rollback : Bool} : c.lifecycle = .restoring →
    CheckpointStep id (.db (.restoreCommit id attemptId node token migration rollback)) (some c)
      (some { c with
        lifecycle := .restored
        integrityState := .valid
        restoreCount := c.restoreCount + 1
        lastRestoreResult := some "restored" })
  | sealed {c : CheckpointObject} {digest manifestJson : String} :
    CheckpointStep id (.db (.checkpointSetDigest id digest manifestJson)) (some c)
      (some { c with manifestDigest := some digest, manifestJson := some manifestJson })
  | integritySet {c : CheckpointObject} {state : IntegrityState} :
    CheckpointStep id (.db (.checkpointSetIntegrity id state)) (some c)
      (some { c with integrityState := state })
  | protectionSet {c : CheckpointObject} {p : ProtectionState} :
    CheckpointStep id (.db (.checkpointSetProtection id p)) (some c)
      (some { c with protection := p, retirementEligibility := .protected_ })
  | retired {c : CheckpointObject} : c.protection ≠ .pinned → c.lifecycle = .available →
    CheckpointStep id (.db (.checkpointRetire id)) (some c)
      (some { c with
        lifecycle := .retired
        retirementEligibility := .notEligible
        durableLocations := []
        replicaCount := 0 })
  | located {c : CheckpointObject} {location : DurableLocation}
      {locations : List DurableLocation} :
    CheckpointStep id (.db (.checkpointAddLocation id location)) (some c)
      (some { c with durableLocations := locations, replicaCount := locations.length })
  | rebound {c : CheckpointObject} {node : NodeId} {dataDir : String}
      {locations : List DurableLocation} :
    CheckpointStep id (.db (.checkpointRebindLocation id node dataDir)) (some c)
      (some { c with durableLocations := locations, replicaCount := locations.length })

/-- A change of one row by its key. -/
theorem CheckpointStep.of_update {id id' : Id} {op : Op} {s : Store}
    {f : CheckpointObject → CheckpointObject}
    {hf : ∀ c, c.checkpointId = id' → (f c).checkpointId = id'}
    (h : id' = id → ∀ c, s.checkpoints.get id = some c →
      CheckpointStep id op (some c) (some (f c))) :
    CheckpointStep id op (s.checkpoints.get id)
      ((s.updateCheckpoint id' f hf).checkpoints.get id) := by
  rw [Store.get_updateCheckpoint]
  split
  · rename_i heq
    cases hrow : s.checkpoints.get id with
    | none => exact .kept
    | some c => exact h heq c hrow
  · exact .kept

namespace World

variable {codecs : Codecs}

theorem checkpointStep_execute (now : ℕ) (fault : Option FabricError) (op : StoreOp) (s : Store)
    (id : Id) :
    CheckpointStep id (.db op) (s.checkpoints.get id)
      ((op.execute now fault s).2.checkpoints.get id) := by
  rcases StoreOp.execute_cases now fault op s with ⟨e, h⟩ | ⟨reply, s', -, hrun, h⟩
  · rw [h]
    exact .kept
  rw [h]
  -- The operations that write the table are gone through one by one; the others keep every row.
  by_cases hwrites : op.writesCheckpoints
  · cases op
    case checkpointInsert c =>
      obtain ⟨-, hnew, rfl⟩ := Store.checkpointInsert_ok (StoreOp.of_map_ok hrun)
      dsimp only
      rw [Table.get_insert]
      split
      · rename_i hid
        subst hid
        rw [hnew]
        exact .inserted rfl
      · exact .kept
    case checkpointUpdate c =>
      obtain ⟨hsome, rfl⟩ := Store.checkpointUpdate_ok (StoreOp.of_map_ok hrun)
      dsimp only
      rw [Table.get_modify]
      split
      · rename_i hid
        subst hid
        obtain ⟨old, hold⟩ := Option.isSome_iff_exists.mp hsome
        rw [hold]
        exact .updated rfl
      · exact .kept
    case checkpointSetLifecycle id' lifecycle integrity =>
      obtain ⟨-, rfl⟩ := Store.checkpointSetLifecycle_ok (StoreOp.of_map_ok hrun)
      exact .of_update fun hid c _ => hid ▸ .lifecycleSet
    case captureCommit id' attemptId =>
      obtain ⟨c, w, hcommit⟩ := Store.captureCommit_ok (StoreOp.of_map_ok hrun)
      by_cases hid : id' = id
      · subst hid
        obtain ⟨c', hc', hlinks⟩ := hcommit.committed
        rw [hcommit.found, hc']
        exact .captured hcommit.lifecycle hlinks
      -- The commit links the checkpoint to the ones it supersedes, and moves those on.
      · have hrow := hcommit.relinked id (Ne.symm hid)
        cases hbefore : s.checkpoints.get id with
        | none =>
          rw [hbefore] at hrow
          generalize s'.checkpoints.get id = after at hrow
          cases hrow
          exact .kept
        | some r =>
          rw [hbefore] at hrow
          obtain rfl := Table.key_of_get hbefore
          obtain ⟨r', hafter, hlinks⟩ := Table.exists_of_rel_some hrow
          rw [hafter]
          refine .relinked hid ?_ hlinks
          rcases hcommit.linked_cases hbefore (Ne.symm hid) with hsame | hstates
          · exact .inl (Option.some.inj (hafter.symm.trans hsame))
          · exact .inr hstates
    case restoreCommit id' attemptId node token migration rollback =>
      obtain ⟨c, w, hcommit⟩ := Store.restoreCommit_ok (StoreOp.of_map_ok hrun)
      dsimp only
      rw [hcommit.checkpoints, Table.get_modify]
      split
      · rename_i hid
        subst hid
        rw [hcommit.found]
        exact .restored hcommit.lifecycle
      · exact .kept
    case checkpointSetDigest id' digest manifestJson =>
      obtain rfl := StoreOp.snd_of_ok hrun
      exact .of_update fun hid c _ => hid ▸ .sealed
    case checkpointSetIntegrity id' state =>
      obtain rfl := StoreOp.snd_of_ok hrun
      exact .of_update fun hid c _ => hid ▸ .integritySet
    case checkpointSetProtection id' p =>
      obtain rfl := StoreOp.snd_of_ok hrun
      exact .of_update fun hid c _ => hid ▸ .protectionSet
    case checkpointRetire id' =>
      obtain ⟨c, hc, hpinned, havailable, rfl⟩ := Store.checkpointRetire_ok (StoreOp.of_map_ok hrun)
      refine .of_update fun hid c' hc' => ?_
      subst hid
      obtain rfl := Option.some.inj (hc.symm.trans hc')
      exact .retired hpinned havailable
    case checkpointAddLocation id' location =>
      obtain ⟨-, rfl⟩ := Store.checkpointAddLocation_ok (StoreOp.of_map_ok hrun)
      exact .of_update fun hid c _ => hid ▸ .located
    case checkpointRebindLocation id' node dataDir =>
      obtain rfl := StoreOp.snd_of_ok hrun
      exact .of_update fun hid c _ => hid ▸ .rebound
    all_goals exact absurd hwrites not_false
  · rw [(StoreOp.frame_of_run hrun).checkpoints hwrites]
    exact .kept

/-- Every operation takes a step on the row of every checkpoint. -/
theorem checkpointStep (codecs : Codecs) (op : Op) (input : Input) (w : World) (id : Id) :
    CheckpointStep id op (w.checkpoint id) ((handle codecs op input w).2.checkpoint id) := by
  unfold checkpoint
  cases op with
  | db op =>
    rw [store_handle_db]
    exact checkpointStep_execute ..
  | claim id' node fenceEpoch =>
    simp only [handle]
    split
    · exact .kept
    · split
      · rename_i s' hclaim
        obtain ⟨r, -, -, -, rfl⟩ := Store.workloadClaim_ok hclaim
        exact .kept
      · exact .kept
  | call node request =>
    rw [store_handle_call]
    exact .kept
  | _ => exact .kept

@[simp] theorem checkpoint_restart (w : World) (id : Id) :
    w.restart.checkpoint id = w.checkpoint id := rfl

@[simp] theorem checkpoint_move (m : Move) (w : World) (id : Id) :
    (move codecs m w).checkpoint id = w.checkpoint id := by
  simp [checkpoint]

end World

namespace CheckpointStep

variable {id : Id} {op : Op} {c : CheckpointObject} {row : Option CheckpointObject}

/-- A row is never deleted, and stays with its workload. -/
theorem workloadId_eq (h : CheckpointStep id op (some c) row) :
    ∃ c', row = some c' ∧ c'.workloadId = c.workloadId := by
  cases h
  case captured hlinks =>
    obtain ⟨supersedes, supersededBy, rfl⟩ := hlinks
    exact ⟨_, rfl, rfl⟩
  case relinked hlinks =>
    obtain ⟨supersedes, supersededBy, rfl⟩ := hlinks
    exact ⟨_, rfl, rfl⟩
  all_goals exact ⟨_, rfl, rfl⟩

end CheckpointStep

end CheckpointFabric
