import CheckpointFabric.Concurrency.Points
import CheckpointFabric.Replica
import Mathlib.Data.List.Sort
import Mathlib.Logic.Function.Basic

/-!
# The cleanup on a node

How a node processes a cleanup message: it removes staging directories, asks the providers of
aborted restores to clean up, and deletes committed checkpoints. A failure is remembered, and the
rest is cleaned up all the same; the error of the answer is the last one.

An attempt that the node has completed is pending, with the components that it has restored. For any
other attempt the node goes over all the providers of the workload.

## Main definitions

* `ProviderRegistry` — the providers of a node, keyed by workload and component
* `Host` — the memory of the node that a restore and a cleanup change
* `doCleanup` — how the message is processed
* `Host.goneOver` — the providers that are asked to clean up
-/

set_option autoImplicit false

namespace CheckpointFabric.Cleanup

open Concurrency Replica

/-- An operation of a node that cleans up. -/
inductive Op
  | releaseStaging (path : String)
  | pathExists (path : String)
  | removeDirAll (path : String)
  | takePending (attemptId : AttemptId)
  | providerList (workloadId : Id)
  | providerGet (workloadId : Id) (componentId : String)
  | cleanupRestore (provider : Provider) (ctx : RestoreContext)
  | deleteCommitted (id : Id)

@[reducible] def Op.Reply : Op → Type
  | releaseStaging _ | removeDirAll _ | cleanupRestore .. | deleteCommitted _ => Unit
  | pathExists _ => Bool
  | takePending _ => Option PendingRestore
  | providerList _ => List String
  | providerGet .. => Option Provider

abbrev cleanupInterface : Interface := ⟨Op, Op.Reply⟩

abbrev Work := Program cleanupInterface FabricError

abbrev perform (op : Op) : Work op.Reply := Program.call (I := cleanupInterface) op

section Cleanup

variable (node : NodeState)

/-- Remove the staging directories that are there. -/
def cleanupStaging : List AttemptId → NodeCleanupResult → Work NodeCleanupResult
  | [], done => pure done
  | attempt :: attempts, done => do
    let path := node.stagingDir attempt
    perform (.releaseStaging path)
    match ← (perform (.pathExists path)).attempt with
    | .ok true =>
      match ← (perform (.removeDirAll path)).attempt with
      | .ok () => cleanupStaging attempts { done with removedPaths := done.removedPaths ++ [path] }
      | .error e =>
        cleanupStaging attempts { done with error := some s!"cleanup attempt {attempt}: {ioText e}" }
    | _ => cleanupStaging attempts done

/-- Ask the providers of the components to clean up. -/
def cleanupComponents (target : RestoreCleanupTarget) (ctx : RestoreContext) :
    List String → Option String → Work (Option String)
  | [], error => pure error
  | componentId :: componentIds, error => do
    match ← perform (.providerGet target.workloadId componentId) with
    | none => cleanupComponents target ctx componentIds error
    | some provider =>
      match ← (perform (.cleanupRestore provider ctx)).attempt with
      | .ok () => cleanupComponents target ctx componentIds error
      | .error e =>
        cleanupComponents target ctx componentIds
          (some s!"restore cleanup {target.attemptId} component {componentId}: {e}")

/-- The components to go over: those that were restored, or all that are registered. -/
def componentIds (target : RestoreCleanupTarget) : Work (List String) := do
  match ← perform (.takePending target.attemptId) with
  | some pending => pure pending.components
  | none => perform (.providerList target.workloadId)

def restoreContext (target : RestoreCleanupTarget) : RestoreContext where
  checkpointId := target.checkpointId
  workloadId := target.workloadId
  attemptId := target.attemptId
  stagingDir := node.stagingDir target.attemptId
  commitDir := node.commitDir target.checkpointId

/-- Roll back what the providers have restored, the last component first. -/
def cleanupTargets : List RestoreCleanupTarget → Option String → Work (Option String)
  | [], error => pure error
  | target :: targets, error => do
    let ids ← componentIds target
    let error ← cleanupComponents target (restoreContext node target) ids.reverse error
    cleanupTargets targets error

/-- Delete committed checkpoints. -/
def cleanupCheckpoints : List Id → NodeCleanupResult → Work NodeCleanupResult
  | [], done => pure done
  | id :: ids, done => do
    match ← (perform (.deleteCommitted id)).attempt with
    | .ok () =>
      cleanupCheckpoints ids { done with removedCheckpoints := done.removedCheckpoints ++ [toHex id] }
    | .error e => cleanupCheckpoints ids { done with error := some s!"cleanup {toHex id}: {e}" }

/-- Process a cleanup message. Its list of explicit paths is empty in every message that is sent. -/
def doCleanup (req : NodeCleanupRequest) : Work NodeCleanupResult := do
  let done ← cleanupStaging node req.stagingAttempts ⟨[], [], none⟩
  let error ← cleanupTargets node req.restoreAttempts done.error
  cleanupCheckpoints req.checkpointIds { done with error := error }

end Cleanup

/-- The providers of a node. A provider is registered under the component id of its spec. -/
structure ProviderRegistry where
  providers : List ((Id × String) × Provider)

namespace ProviderRegistry

variable (registry : ProviderRegistry) (workloadId : Id)

def get (componentId : String) : Option Provider :=
  registry.providers.lookup (workloadId, componentId)

/-- The component ids that are registered for a workload. -/
def list : List String :=
  (((registry.providers.filter fun x => x.1.1 = workloadId).map fun x => x.1.2)).insertionSort
    fun a b => a ≤ b

variable {registry workloadId}

/-- What is registered is listed. -/
theorem mem_list_of_get {componentId : String} {p : Provider}
    (h : registry.get workloadId componentId = some p) : componentId ∈ registry.list workloadId := by
  rw [list, List.mem_insertionSort, List.mem_map]
  refine ⟨((workloadId, componentId), p), List.mem_filter.mpr ⟨?_, decide_eq_true rfl⟩, rfl⟩
  obtain ⟨_, _, heq, -⟩ := List.lookup_eq_some_iff.mp h
  rw [heq]
  exact List.mem_append_right _ (.head _)

end ProviderRegistry

/-- Named regions of memory. -/
abbrev Regions := List (String × Bytes)

/-- The memory of a node that a restore and a cleanup change. -/
structure Host where
  pendingRestores : List (AttemptId × PendingRestore)
  registry : ProviderRegistry
  /-- The target regions of the providers that have any. -/
  regions : Provider → Regions

namespace Host

variable (s : Host)

/-- The component ids that the cleanup of a target goes over. -/
def idsOf (target : RestoreCleanupTarget) : List String :=
  ((s.pendingRestores.lookup target.attemptId).map (·.components)).getD
    (s.registry.list target.workloadId)

/-- The attempt is not pending any more. -/
def settle (attemptId : AttemptId) : Host :=
  { s with pendingRestores := s.pendingRestores.filter (·.1 ≠ attemptId) }

/-- The attempt is pending with these components. -/
def pend (attemptId : AttemptId) (pending : PendingRestore) : Host :=
  { s with pendingRestores := (attemptId, pending) :: (s.settle attemptId).pendingRestores }

/-- The target regions of a provider are replaced. -/
def setRegions (p : Provider) (regions : Regions) : Host :=
  { s with regions := Function.update s.regions p regions }

@[simp] theorem setRegions_self (p : Provider) (regions : Regions) :
    (s.setRegions p regions).regions p = regions := Function.update_self ..

theorem setRegions_of_ne {p q : Provider} (h : p ≠ q) (regions : Regions) :
    (s.setRegions q regions).regions p = s.regions p := Function.update_of_ne h ..

/-- The providers that the cleanup of a target goes over. -/
def providersOf (target : RestoreCleanupTarget) : List Provider :=
  (s.idsOf target).filterMap (s.registry.get target.workloadId)

end Host

/-- The providers that the cleanup of the targets goes over. -/
def Host.goneOver (s : Host) : List RestoreCleanupTarget → List Provider
  | [] => []
  | target :: targets => s.providersOf target ++ (s.settle target.attemptId).goneOver targets

section GoneOver

variable {s s' : Host} {target : RestoreCleanupTarget} {p : Provider}

/-- What is in the regions does not matter. -/
theorem Host.goneOver_congr {targets : List RestoreCleanupTarget}
    (hpending : s'.pendingRestores = s.pendingRestores) (hregistry : s'.registry = s.registry) :
    s'.goneOver targets = s.goneOver targets := by
  induction targets generalizing s s' with
  | nil => rfl
  | cons target targets ih =>
    have hproviders : s'.providersOf target = s.providersOf target := by
      rw [Host.providersOf, Host.providersOf, Host.idsOf, Host.idsOf, hpending, hregistry]
    have hsettled : (s'.settle target.attemptId).pendingRestores =
        (s.settle target.attemptId).pendingRestores := by
      rw [Host.settle, Host.settle, hpending]
    rw [Host.goneOver, Host.goneOver, hproviders, ih hsettled hregistry]

/-- A provider that the cleanup of a target goes over stays one of them when another attempt, or
the same one, is settled first. -/
theorem Host.mem_providersOf_settle {attemptId : AttemptId} (h : p ∈ s.providersOf target) :
    p ∈ (s.settle attemptId).providersOf target := by
  obtain ⟨id, hid, hget⟩ := List.mem_filterMap.mp h
  refine List.mem_filterMap.mpr ⟨id, ?_, hget⟩
  have hlookup : (s.settle attemptId).pendingRestores.lookup target.attemptId =
      if target.attemptId ≠ attemptId then s.pendingRestores.lookup target.attemptId else none := by
    rw [Host.settle, lookup_filter_fst fun a => decide (a ≠ attemptId)]
    simp only [decide_eq_true_eq]
  rw [Host.idsOf, hlookup]
  split
  · exact hid
  · exact ProviderRegistry.mem_list_of_get hget

theorem Host.mem_goneOver {targets : List RestoreCleanupTarget} (htarget : target ∈ targets)
    (h : p ∈ s.providersOf target) : p ∈ s.goneOver targets := by
  induction targets generalizing s with
  | nil => cases htarget
  | cons first targets ih =>
    rcases List.mem_cons.mp htarget with rfl | htarget
    · exact List.mem_append_left _ h
    · exact List.mem_append_right _ (ih htarget (Host.mem_providersOf_settle h))

end GoneOver

end CheckpointFabric.Cleanup
