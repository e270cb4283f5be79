import CheckpointFabric.Storage

/-!
# The cleanup messages that are sent

The coordinator names attempts and checkpoints in its cleanup messages, and no paths. Its attempt ids
are names already, so the staging directory of an attempt is named after it as it is.

On such a message the cleanup of a node is the one that knows its attempts by their ids.

## Main definitions

* `Plain` — the data directory has no slash at its end
* `message` — a cleanup message as it is sent
* `operation` — what an operation of the cleanup stands for

## Main results

* `safeJoin_eq` — joining a path safely, below a directory of the node
* `doCleanup_message` — the two cleanups are the same
-/

set_option autoImplicit false

namespace CheckpointFabric.Storage

open Capture Concurrency Files Replica

/-- The path is that of a directory, without a slash at its end. -/
structure Plain (base : String) : Prop where
  ne_empty : base ≠ ""
  last : base.toList.getLast? ≠ some '/'

section Paths

variable {base rel : String}

theorem join_of_plain (h : Plain base) (hrel : hasRoot rel = false) :
    join base rel = base ++ "/" ++ rel := by
  rw [join, hrel, if_neg Bool.false_ne_true, if_neg (not_or.2 ⟨h.ne_empty, h.last⟩)]

theorem Plain.join (h : Plain base) (hrel : IsName rel) : Plain (join base rel) := by
  rw [join_of_plain h hrel.hasRoot]
  refine ⟨fun hempty => h.ne_empty ?_, fun hlast => hrel.slash ?_⟩
  · have hlist := congrArg String.toList hempty
    rw [String.toList_append, String.toList_append] at hlist
    exact String.toList_eq_nil_iff.1
      (List.append_eq_nil_iff.1 (List.append_eq_nil_iff.1 hlist).1).1
  · have hne : rel.toList ≠ [] := mt String.toList_eq_nil_iff.1 hrel.ne_empty
    rw [String.toList_append, List.getLast?_append_of_ne_nil _ hne] at hlast
    exact List.mem_of_getLast? hlast

/-- Joining a path safely, below a directory of the node. -/
theorem safeJoin_eq (h : Plain base) : safeJoin base rel = Replica.safeJoin base rel := by
  have hroot : hasRoot rel = true ↔ rel.toList.head? = some '/' := by
    rw [hasRoot, decide_eq_true_iff]
  have hparent : Component.parentDir ∈ components rel ↔ ['.', '.'] ∈ rel.toList.splitOn '/' := by
    rw [parentDir_mem_components, pathSegments]
    exact List.mem_map_of_injective (a := ['.', '.']) fun _ _ => String.ofList_inj.1
  unfold safeJoin Replica.safeJoin
  by_cases houtside : hasRoot rel = true ∨ Component.parentDir ∈ components rel
  · rw [if_pos houtside, if_pos (houtside.imp hroot.1 hparent.1)]
  · rw [if_neg houtside, if_neg (mt (Or.imp hroot.2 hparent.2) houtside),
      join_of_plain h (Bool.eq_false_iff.2 (not_or.1 houtside).1)]
    rfl

end Paths

section Attempts

/-- The characters of an attempt id. -/
theorem isSafeSegmentChar_hexDigits {n digits : ℕ} :
    ∀ c ∈ hexDigits n digits, isSafeSegmentChar c := by
  induction digits generalizing n with
  | zero => simp [hexDigits]
  | succ digits ih =>
    have hdigit : ∀ k < 16, isSafeSegmentChar (Nat.digitChar k) := by decide
    rw [hexDigits]
    exact List.forall_mem_append.2
      ⟨ih, List.forall_mem_singleton.2 (hdigit _ (Nat.mod_lt n (by decide)))⟩

/-- An attempt id is a name as it is. -/
theorem sanitizeSegment_attempt (attempt : AttemptId) :
    sanitizeSegment (toString attempt) = toString attempt := by
  have hnamed (kind : String) (id nonce : Id) (hsafe : kind.toList.all isSafeSegmentChar)
      (hlong : 3 ≤ kind.toList.length) :
      sanitizeSegment (kind ++ toHex id ++ "-" ++ toHex nonce) =
        kind ++ toHex id ++ "-" ++ toHex nonce := by
    have hne (other : String) (h : other.toList.length ≤ 2) :
        kind ++ toHex id ++ "-" ++ toHex nonce ≠ other := by
      rintro rfl
      simp only [String.toList_append, List.length_append] at h
      omega
    refine sanitizeSegment_eq_self (fun c hc => ?_) (hne _ (by decide)) (hne _ (by decide))
      (hne _ (by decide))
    simp only [String.toList_append, List.mem_append, toHex, String.toList_ofList] at hc
    rcases hc with ((hc | hc) | hc) | hc
    · exact List.all_eq_true.1 hsafe c hc
    · exact isSafeSegmentChar_hexDigits c hc
    · obtain rfl := List.mem_singleton.1 hc
      rfl
    · exact isSafeSegmentChar_hexDigits c hc
  cases attempt with
  | capture workload nonce => exact hnamed "capture-" workload nonce (by decide) (by decide)
  | restore checkpoint nonce => exact hnamed "restore-" checkpoint nonce (by decide) (by decide)
  | replicate checkpoint nonce =>
    exact hnamed "replicate-" checkpoint nonce (by decide) (by decide)

end Attempts

/-- The storage of a node. -/
def storageOf (node : NodeState) : LocalStorage := ⟨node.dataDir⟩

def targetText (target : CheckpointFabric.RestoreCleanupTarget) : RestoreCleanupTarget String :=
  { target with attemptId := toString target.attemptId }

def contextText (ctx : Replica.RestoreContext) : RestoreContext String :=
  { ctx with attemptId := toString ctx.attemptId }

/-- A cleanup message as it is sent. -/
def message (req : CheckpointFabric.NodeCleanupRequest) : NodeCleanupRequest where
  stagingAttempts := req.stagingAttempts.map toString
  stagingPaths := []
  restoreAttempts := req.restoreAttempts.map targetText
  checkpointIds := req.checkpointIds

/-- What an operation of the cleanup stands for. -/
def operation (node : NodeState) : (op : Cleanup.Op) → Work op.Reply
  | .releaseStaging path => perform (.releaseStaging path)
  | .pathExists path => perform (.pathExists path)
  | .removeDirAll path => perform (.removeDirAll path)
  | .takePending attemptId => perform (.takePending (toString attemptId))
  | .providerList workloadId => perform (.providerList workloadId)
  | .providerGet workloadId componentId => perform (.providerGet workloadId componentId)
  | .cleanupRestore provider ctx => perform (.cleanupRestore provider (contextText ctx))
  | .deleteCommitted id => deleteCommitted (storageOf node) id

section Messages

variable {node : NodeState}

theorem isName_staging : IsName "staging" := ⟨by decide, by decide, by decide, by decide⟩

theorem isName_checkpoints : IsName "checkpoints" := ⟨by decide, by decide, by decide, by decide⟩

theorem append_between {middle slashed : String} (h : "/" ++ middle ++ "/" = slashed)
    (base name : String) : base ++ "/" ++ middle ++ "/" ++ name = base ++ slashed ++ name := by
  rw [← h]
  simp only [String.append_assoc]

theorem stagingDir_eq (h : Plain node.dataDir) (attempt : AttemptId) :
    (storageOf node).stagingDir (toString attempt) = node.stagingDir attempt := by
  have hname : IsName (toString attempt) :=
    sanitizeSegment_attempt attempt ▸ isName_sanitizeSegment (toString attempt)
  rw [LocalStorage.stagingDir, sanitizeSegment_attempt]
  change join (join node.dataDir "staging") (toString attempt) = _
  rw [join_of_plain (h.join isName_staging) hname.hasRoot, join_of_plain h isName_staging.hasRoot]
  exact append_between (by decide) ..

theorem commitDir_eq (h : Plain node.dataDir) (id : Id) :
    (storageOf node).commitDir id = node.commitDir id := by
  change join (join node.dataDir "checkpoints") (toHex id) = _
  rw [join_of_plain (h.join isName_checkpoints) (isName_toHex id).hasRoot,
    join_of_plain h isName_checkpoints.hasRoot]
  exact append_between (by decide) ..

theorem restoreContext_eq (h : Plain node.dataDir) (target : CheckpointFabric.RestoreCleanupTarget) :
    restoreContext (storageOf node) (targetText target) =
      contextText (Cleanup.restoreContext node target) := by
  rw [restoreContext, commitDir_eq h, targetText, stagingDir_eq h]
  rfl

theorem cleanupStaging_map (h : Plain node.dataDir) (attempts : List AttemptId)
    (done : NodeCleanupResult) :
    cleanupStaging (storageOf node) (attempts.map toString) done =
      (Cleanup.cleanupStaging node attempts done).translate (operation node) := by
  induction attempts generalizing done with
  | nil => rfl
  | cons attempt attempts ih =>
    rw [List.map_cons, cleanupStaging, stagingDir_eq h]
    refine congrArg (Program.perform _) (funext fun released => ?_)
    cases released with
    | error e => rfl
    | ok _ =>
      refine congrArg (Program.perform _) (funext fun there => ?_)
      cases there with
      | error e => exact ih done
      | ok answer =>
        cases answer with
        | false => exact ih done
        | true =>
          refine congrArg (Program.perform _) (funext fun removed => ?_)
          cases removed with
          | ok _ => exact ih _
          | error e => exact ih _

theorem cleanupComponents_text (target : CheckpointFabric.RestoreCleanupTarget)
    (ctx : Replica.RestoreContext) (ids : List String) (error : Option String) :
    cleanupComponents (targetText target) (contextText ctx) ids error =
      (Cleanup.cleanupComponents target ctx ids error).translate (operation node) := by
  induction ids generalizing error with
  | nil => rfl
  | cons id ids ih =>
    refine congrArg (Program.perform _) (funext fun found => ?_)
    cases found with
    | error e => rfl
    | ok found =>
      cases found with
      | none => exact ih error
      | some provider =>
        refine congrArg (Program.perform _) (funext fun reply => ?_)
        cases reply with
        | ok _ => exact ih error
        | error e => exact ih _

theorem componentIds_text (node : NodeState) (target : CheckpointFabric.RestoreCleanupTarget) :
    componentIds (targetText target) =
      (Cleanup.componentIds target).translate (operation node) := by
  refine congrArg (Program.perform _) (funext fun pending => ?_)
  cases pending with
  | error e => rfl
  | ok pending => cases pending <;> rfl

theorem cleanupTargets_map (h : Plain node.dataDir)
    (targets : List CheckpointFabric.RestoreCleanupTarget) (error : Option String) :
    cleanupTargets (storageOf node) (targets.map targetText) error =
      (Cleanup.cleanupTargets node targets error).translate (operation node) := by
  induction targets generalizing error with
  | nil => rfl
  | cons target targets ih =>
    rw [List.map_cons, cleanupTargets, Cleanup.cleanupTargets, Program.translate_bind,
      componentIds_text node, restoreContext_eq h]
    refine congrArg _ (funext fun ids => ?_)
    rw [Program.translate_bind, cleanupComponents_text]
    exact congrArg _ (funext fun error => ih error)

theorem cleanupCheckpoints_eq (ids : List Id) (done : NodeCleanupResult) :
    cleanupCheckpoints (storageOf node) ids done =
      (Cleanup.cleanupCheckpoints ids done).translate (operation node) := by
  induction ids generalizing done with
  | nil => rfl
  | cons id ids ih =>
    rw [cleanupCheckpoints, Cleanup.cleanupCheckpoints, Program.translate_bind,
      Program.translate_attempt, Cleanup.perform, Program.translate_call]
    refine congrArg _ (funext fun deleted => ?_)
    cases deleted with
    | ok _ => exact ih _
    | error e => exact ih _

/-- On a message that is sent, the cleanup is the one that knows its attempts by their ids. -/
theorem doCleanup_message (h : Plain node.dataDir) (req : CheckpointFabric.NodeCleanupRequest) :
    doCleanup (storageOf node) (message req) =
      (Cleanup.doCleanup node req).translate (operation node) := by
  rw [doCleanup, Cleanup.doCleanup, Program.translate_bind]
  change cleanupStaging _ (req.stagingAttempts.map toString) _ >>= _ = _
  rw [cleanupStaging_map h]
  refine bind_congr fun done => ?_
  rw [Program.translate_bind]
  -- There are no explicit paths.
  change cleanupTargets _ (req.restoreAttempts.map targetText) done.error >>= _ = _
  rw [cleanupTargets_map h]
  exact bind_congr fun error => cleanupCheckpoints_eq req.checkpointIds _

end Messages

end CheckpointFabric.Storage
