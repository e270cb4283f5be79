import CheckpointFabric.Cleanup
import CheckpointFabric.Files.UnixPath

/-!
# Where a node keeps its files

The storage of a node has a directory for the attempts that are going on and one for the checkpoints
that are committed. What is in them is named by texts that come over the network or out of manifests,
and a cleanup message says by name what is to be deleted.

Besides names, a cleanup message can have explicit paths. Such a path must be a child of the staging
root, and lead to one when all links are followed.

## Main definitions

* `LocalStorage` — the directories of a node
* `LocalStorage.safeJoin` — a path out of a manifest, below a directory
* `doCleanup` — how a cleanup message is processed, explicit paths included
-/

set_option autoImplicit false

namespace CheckpointFabric.Storage

open Capture Concurrency Files Replica

/-- The local backend. -/
structure LocalStorage where
  root : String
  deriving DecidableEq, Repr

namespace LocalStorage

variable (storage : LocalStorage)

def stagingRoot : String := join storage.root "staging"

def checkpointsDir : String := join storage.root "checkpoints"

def stagingDir (attemptId : String) : String :=
  join storage.stagingRoot (sanitizeSegment attemptId)

def commitDir (checkpointId : Id) : String := join storage.checkpointsDir (toHex checkpointId)

end LocalStorage

/-- Join a relative path to a base, rejecting traversal. -/
def safeJoin (base rel : String) : FabricResult String :=
  if hasRoot rel ∨ Component.parentDir ∈ components rel then
    .error (.invalidArgument s!"path traversal attempt rejected: {rel}")
  else .ok (join base rel)

section Names

theorem isName_sanitizeSegment (name : String) : IsName (sanitizeSegment name) where
  ne_empty := (sanitizeSegment_ne name).1
  ne_current := (sanitizeSegment_ne name).2.1
  ne_parent := (sanitizeSegment_ne name).2.2
  slash := slash_notMem_sanitizeSegment name

theorem length_hexDigits (n digits : ℕ) : (hexDigits n digits).length = digits := by
  induction digits generalizing n with
  | zero => rfl
  | succ digits ih => rw [hexDigits, List.length_append, ih, List.length_singleton]

theorem slash_notMem_hexDigits {n digits : ℕ} : '/' ∉ hexDigits n digits := by
  induction digits generalizing n with
  | zero => simp [hexDigits]
  | succ digits ih =>
    have hdigit : ∀ k < 16, '/' ≠ Nat.digitChar k := by decide
    rw [hexDigits, List.mem_append, List.mem_singleton]
    exact not_or.2 ⟨ih, hdigit _ (Nat.mod_lt n (by decide))⟩

/-- The directory of a checkpoint has a name of 32 digits. -/
theorem isName_toHex (id : Id) : IsName (toHex id) := by
  have hlength : (toHex id).toList.length = 32 := by
    rw [toHex, String.toList_ofList, length_hexDigits]
  have hne (other : String) (h : other.toList.length ≠ 32) : toHex id ≠ other := by
    rintro rfl
    exact h hlength
  refine ⟨hne _ (by decide), hne _ (by decide), hne _ (by decide), ?_⟩
  rw [toHex, String.toList_ofList]
  exact slash_notMem_hexDigits

end Names

structure NodeCleanupRequest where
  stagingAttempts : List String
  stagingPaths : List String
  restoreAttempts : List (RestoreCleanupTarget String)
  checkpointIds : List Id

/-- An operation of a node that cleans up. -/
inductive Op
  | releaseStaging (path : String)
  | pathExists (path : String)
  | canonicalize (path : String)
  | removeDirAll (path : String)
  | takePending (attemptId : String)
  | providerList (workloadId : Id)
  | providerGet (workloadId : Id) (componentId : String)
  | cleanupRestore (provider : Provider) (ctx : RestoreContext String)

@[reducible] def Op.Reply : Op → Type
  | releaseStaging _ | removeDirAll _ | cleanupRestore .. => Unit
  | pathExists _ => Bool
  | canonicalize _ => String
  | takePending _ => Option PendingRestore
  | providerList _ => List String
  | providerGet .. => Option Provider

abbrev storageInterface : Interface := ⟨Op, Op.Reply⟩

abbrev Work := Program storageInterface FabricError

abbrev perform (op : Op) : Work op.Reply := Program.call (I := storageInterface) op

/-- Whether there is something; an error means no. -/
def isThere (path : String) : Work Bool := do
  match ← (perform (.pathExists path)).attempt with
  | .ok answer => pure answer
  | .error _ => pure false

section Cleanup

variable (storage : LocalStorage)

/-- Remove a committed checkpoint directory. -/
def deleteCommitted (checkpointId : Id) : Work Unit := do
  if ← isThere (storage.commitDir checkpointId) then
    perform (.removeDirAll (storage.commitDir checkpointId))

/-- What the path leads to is a child of the staging root. -/
def remainsUnderStaging (path : String) : Work Bool := do
  let root ← (perform (.canonicalize storage.stagingRoot)).attempt
  let candidate ← (perform (.canonicalize path)).attempt
  match root, candidate with
  | .ok root, .ok candidate => pure (parent candidate = some (components root))
  | _, _ => pure false

def isUnderStaging (path : String) : Work Bool :=
  match stripPrefix path storage.stagingRoot with
  | some [.normal _] => do
    if ← isThere path then remainsUnderStaging storage path else pure true
  | _ => pure false

/-- Remove the staging directories of attempts. -/
def cleanupStaging : List String → NodeCleanupResult → Work NodeCleanupResult
  | [], done => pure done
  | attempt :: attempts, done => do
    let path := storage.stagingDir attempt
    perform (.releaseStaging path)
    if ← isThere path then
      match ← (perform (.removeDirAll path)).attempt with
      | .ok () => cleanupStaging attempts { done with removedPaths := done.removedPaths ++ [path] }
      | .error e =>
        cleanupStaging attempts { done with error := some s!"cleanup attempt {attempt}: {ioText e}" }
    else cleanupStaging attempts done

/-- Remove staging directories that are given by their paths. -/
def cleanupPaths : List String → NodeCleanupResult → Work NodeCleanupResult
  | [], done => pure done
  | path :: paths, done => do
    if ← isUnderStaging storage path then
      if ← isThere path then
        perform (.releaseStaging path)
        match ← (perform (.removeDirAll path)).attempt with
        | .ok () => cleanupPaths paths { done with removedPaths := done.removedPaths ++ [path] }
        | .error e => cleanupPaths paths { done with error := some s!"cleanup {path}: {ioText e}" }
      else cleanupPaths paths done
    else cleanupPaths paths { done with error := some s!"cleanup path outside staging: {path}" }

/-- Ask the providers of the components to clean up. -/
def cleanupComponents (target : RestoreCleanupTarget String) (ctx : RestoreContext String) :
    List String → Option String → Work (Option String)
  | [], error => pure error
  | componentId :: componentIds, error => do
    match ← perform (.providerGet target.workloadId componentId) with
    | none => cleanupComponents target ctx componentIds error
    | some provider =>
      match ← (perform (.cleanupRestore provider ctx)).attempt with
      | .ok () => cleanupComponents target ctx componentIds error
      | .error e =>
        cleanupComponents target ctx componentIds
          (some s!"restore cleanup {target.attemptId} component {componentId}: {e}")

/-- The components to go over: those that were restored, or all that are registered. -/
def componentIds (target : RestoreCleanupTarget String) : Work (List String) := do
  match ← perform (.takePending target.attemptId) with
  | some pending => pure pending.components
  | none => perform (.providerList target.workloadId)

def restoreContext (target : RestoreCleanupTarget String) : RestoreContext String where
  checkpointId := target.checkpointId
  workloadId := target.workloadId
  attemptId := target.attemptId
  stagingDir := storage.stagingDir target.attemptId
  commitDir := storage.commitDir target.checkpointId

/-- Roll back what the providers have restored, the last component first. -/
def cleanupTargets : List (RestoreCleanupTarget String) → Option String → Work (Option String)
  | [], error => pure error
  | target :: targets, error => do
    let ids ← componentIds target
    let error ← cleanupComponents target (restoreContext storage target) ids.reverse error
    cleanupTargets targets error

/-- Delete committed checkpoints. -/
def cleanupCheckpoints : List Id → NodeCleanupResult → Work NodeCleanupResult
  | [], done => pure done
  | id :: ids, done => do
    match ← (deleteCommitted storage id).attempt with
    | .ok () =>
      cleanupCheckpoints ids { done with removedCheckpoints := done.removedCheckpoints ++ [toHex id] }
    | .error e => cleanupCheckpoints ids { done with error := some s!"cleanup {toHex id}: {e}" }

/-- Process a cleanup message. -/
def doCleanup (req : NodeCleanupRequest) : Work NodeCleanupResult := do
  let done ← cleanupStaging storage req.stagingAttempts ⟨[], [], none⟩
  let done ← cleanupPaths storage req.stagingPaths done
  let error ← cleanupTargets storage req.restoreAttempts done.error
  cleanupCheckpoints storage req.checkpointIds { done with error := error }

end Cleanup

end CheckpointFabric.Storage
