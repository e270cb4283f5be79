import CheckpointFabric.Store.Methods
import Mathlib.Data.List.MinMax

/-!
# The commit transactions

`captureCommit` makes a persisted checkpoint visible; `restoreCommit` hands the
workload to the restore target. Each is one transaction over several tables, and
each marks the attempt's journal.
-/

set_option autoImplicit false

namespace CheckpointFabric.Store

open Concurrency

variable (s : Store)

/-- The committed checkpoints of a workload that a supersession link may name. -/
def supersedable (workloadId : Id) : List CheckpointObject :=
  s.checkpoints.rows.filter fun c =>
    c.workloadId == workloadId && (c.lifecycle == .available || c.lifecycle == .restored)

/-- The nearest older one. -/
def previous (workloadId : Id) (generation : ℕ) : Option Id :=
  (((s.supersedable workloadId).filter fun c => decide (c.checkpointGeneration < generation)).argmax
    (·.checkpointGeneration)).map (·.checkpointId)

/-- The nearest newer one. -/
def next (workloadId : Id) (generation : ℕ) : Option Id :=
  (((s.supersedable workloadId).filter fun c => decide (generation < c.checkpointGeneration)).argmin
    (·.checkpointGeneration)).map (·.checkpointId)

/-- Link the committed checkpoint between its neighbours. -/
def linkSupersession (id : Id) (prev next : Option Id) : Store :=
  let s := s.updateCheckpoint id fun c =>
    { c with lifecycle := .available, integrityState := .valid, supersedes := prev,
             supersededBy := next }
  let s :=
    match prev with
    | some p => s.updateCheckpoint p fun c => { c with supersededBy := some id }
    | none => s
  match next with
  | some n => s.updateCheckpoint n fun c => { c with supersedes := some id }
  | none => s

/-- Record the supersession in lineage, once. -/
def recordSupersession (workloadId id : Id) (generation : ℕ) (prev : Option Id) (now : ℕ) :
    Store :=
  match prev with
  | none => s
  | some p =>
    if s.lineage.any fun r =>
        r.relation == .supersedes && r.checkpointId == some id && r.otherCheckpoint == some p then
      s
    else
      { s with
        lineage := s.lineage ++ [
          { relation := .supersedes
            workloadId := some workloadId
            checkpointId := some id
            otherWorkload := none
            otherCheckpoint := some p
            tsMs := now
            detail := s!"generation {generation} supersedes {toHex p}" }] }

/-- Atomically finalize a physically persisted capture. -/
def captureCommit (id : Id) (attemptId : AttemptId) (now : ℕ) : FabricResult Store :=
  match s.checkpoints.get id with
  | none => .error (.checkpointNotFound (toHex id))
  | some c =>
    if c.lifecycle ≠ .persisting ∧ c.lifecycle ≠ .available then
      .error (.invalidLifecycleTransition c.lifecycle.asStr LifecycleState.available.asStr)
    else if c.durableLocations.isEmpty ∨ (c.manifestDigest.getD "").isEmpty then
      .error (.incompleteCheckpoint
        s!"persisted checkpoint {toHex id} lacks a durable location or manifest anchor")
    else
      match s.workloads.get c.workloadId with
      | none => .error (.workloadNotFound (toHex c.workloadId))
      | some w =>
        if c.lifecycle = .persisting ∧ w.workloadGeneration ≠ c.workloadGeneration then
          .error (.generationMismatch
            s!"capture generation {c.workloadGeneration} is stale; workload is generation {w.workloadGeneration}")
        else
          let prev := s.previous c.workloadId c.checkpointGeneration
          let next := s.next c.workloadId c.checkpointGeneration
          let linked := (s.linkSupersession id prev next).recordSupersession c.workloadId id
            c.checkpointGeneration prev now
          let counted :=
            if w.checkpointGeneration ≤ c.checkpointGeneration then
              { linked with
                workloads := linked.workloads.modify c.workloadId fun w =>
                  { w with
                    checkpointGeneration := c.checkpointGeneration
                    resumabilityClass := c.resumability } }
            else linked
          .ok (counted.journalAppend .capture attemptId .dbCommitted
            "metadata committed atomically" now)

/-- Addition that stops at the largest 64-bit value. -/
def saturatingAdd (a b : ℕ) : ℕ := min (a + b) (2 ^ 64 - 1)

/-- Record a restore of a checkpoint in lineage. -/
def recordRestore (relation : LineageRelation) (workloadId checkpointId : Id) (detail : String)
    (now : ℕ) : Store :=
  { s with
    lineage := s.lineage ++ [
      { relation
        workloadId := some workloadId
        checkpointId := some checkpointId
        otherWorkload := none
        otherCheckpoint := none
        tsMs := now
        detail }] }

/-- Atomically commit restored execution state, authority, checkpoint lifecycle and
counts, lineage, and the recovery commit marker. -/
def restoreCommit (checkpointId : Id) (attemptId : AttemptId) (targetNode : NodeId)
    (fenceToken : FenceToken) (migration rollback : Bool) (now : ℕ) : FabricResult Store :=
  match s.checkpoints.get checkpointId with
  | none => .error (.checkpointNotFound (toHex checkpointId))
  | some c =>
    match c.lifecycle.transition .restored with
    | .error e => .error e
    | .ok () =>
      match s.workloads.get c.workloadId with
      | none => .error (.workloadNotFound (toHex c.workloadId))
      | some w => do
        let newGeneration := saturatingAdd w.workloadGeneration 1
        let newEpoch := saturatingAdd (saturatingAdd w.executionEpoch 1) migration.toNat
        bindInteger [newGeneration, newEpoch]
        let moved :=
          { s with
            workloads := s.workloads.modify c.workloadId fun w =>
              { w with
                workloadGeneration := newGeneration
                checkpointGeneration := c.checkpointGeneration
                executionEpoch := newEpoch
                activeNode := some targetNode
                fenceToken := some fenceToken
                fenceEpoch := newEpoch } }
        let counted := moved.updateCheckpoint checkpointId fun c =>
          { c with
            lifecycle := .restored
            integrityState := .valid
            restoreCount := c.restoreCount + 1
            lastRestoreResult := some "restored" }
        let rolledBack :=
          if rollback then
            counted.recordRestore .rollbackOf c.workloadId checkpointId
              s!"rollback: workload generation {w.workloadGeneration} -> {newGeneration} via checkpoint {c.checkpointGeneration}"
              now
          else counted
        let migrated :=
          if migration then
            (rolledBack.recordRestore .migratedFrom c.workloadId checkpointId
              s!"migrated to {targetNode}" now).journalAppend .migration attemptId
                .authorityTransferred "authority transferred atomically" now
          else rolledBack
        .ok (migrated.journalAppend .restore attemptId .generationCommitted
          "generation committed atomically" now)

end CheckpointFabric.Store
