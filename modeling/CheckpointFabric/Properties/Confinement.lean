import CheckpointFabric.Concurrency.History
import CheckpointFabric.Properties.Undo
import CheckpointFabric.Storage

/-!
# What a node can be made to touch

A sanitized name is one name, whatever it was made of, so the staging directory of an attempt is a
child of the staging root. A path out of a manifest stays below the directory that it is joined to.

A cleanup message deletes children of the staging root and the checkpoints that it names. It also
rolls back restores, and there the providers delete what is theirs.

## Main definitions

* `Deletable` — the directories that a cleanup may delete itself
* `deleted` — what a deed of a cleanup deletes
* `Confined` — a child of the staging root, or a checkpoint of the message

## Main results

* `isName_sanitizeSegment`, `sanitizeSegment_idem` — what sanitizing makes of a name
* `obeys_doCleanup` — the directories that a cleanup deletes
* `paths_confined` — what a node can be made to touch
-/

set_option autoImplicit false

namespace CheckpointFabric.Storage

open Capture Concurrency Files Replica

/-- The path is a child of the other one. -/
def IsChild (base path : String) : Prop :=
  ∃ name, components path = components base ++ [.normal name]

section Directories

variable (storage : LocalStorage)

theorem components_stagingDir (attemptId : String) :
    components (storage.stagingDir attemptId) =
      components storage.stagingRoot ++ [.normal (sanitizeSegment attemptId)] :=
  components_join_name (isName_sanitizeSegment attemptId)

/-- A path that was joined safely does not lead out of its base. -/
theorem exists_components_of_safeJoin {base rel path : String} (h : safeJoin base rel = .ok path) :
    ∃ rest, components path = components base ++ rest ∧ Component.rootDir ∉ rest ∧
      Component.parentDir ∉ rest := by
  unfold safeJoin at h
  split at h
  · cases h
  · rename_i hinside
    obtain ⟨hroot, hparent⟩ := not_or.1 hinside
    obtain rfl := Except.ok.inj h
    exact exists_components_join (Bool.eq_false_iff.2 hroot) hparent

theorem isChild_of_stripPrefix {path base name : String}
    (h : stripPrefix path base = some [.normal name]) : IsChild base path := by
  unfold stripPrefix at h
  split at h
  · rename_i hprefix
    obtain ⟨rest, hrest⟩ := hprefix
    rw [← hrest, List.drop_left, Option.some.injEq] at h
    exact ⟨name, by rw [← hrest, h]⟩
  · cases h

end Directories

abbrev StorageDeed := Deed storageInterface FabricError

section Deleting

variable (storage : LocalStorage) (req : NodeCleanupRequest)

/-- The node has seen that the path leads to a child of the staging root, or that there is nothing. -/
def Remained (ds : List StorageDeed) (path : String) : Prop :=
  (∃ reply, reply ≠ .ok true ∧ ⟨.pathExists path, reply⟩ ∈ ds) ∨
    ∃ root candidate, ⟨.canonicalize storage.stagingRoot, .ok root⟩ ∈ ds ∧
      ⟨.canonicalize path, .ok candidate⟩ ∈ ds ∧ parent candidate = some (components root)

/-- The directories that a cleanup may delete itself, after the deeds `ds`. -/
inductive Deletable (ds : List StorageDeed) : String → Prop
  | attempt {attempt : String} (h : attempt ∈ req.stagingAttempts) :
      Deletable ds (storage.stagingDir attempt)
  | path {path : String} (h : path ∈ req.stagingPaths) (hchild : IsChild storage.stagingRoot path)
      (hremained : Remained storage ds path) : Deletable ds path
  | checkpoint {id : Id} (h : id ∈ req.checkpointIds) : Deletable ds (storage.commitDir id)

/-- A cleanup deletes directories of its message, and rolls back restores of it. -/
def Permitted (ds : List StorageDeed) : Op → Prop
  | .removeDirAll path => Deletable storage req ds path
  | .cleanupRestore _ ctx => ∃ target ∈ req.restoreAttempts, ctx = restoreContext storage target
  | _ => True

variable {storage req} {ds : List StorageDeed}

theorem obeys_isThere_bind {α : Type} {path : String} {f : Bool → Work α}
    {conclude : List StorageDeed → FabricResult α → Prop}
    (h : ∀ answer reply, (answer = true ↔ reply = .ok true) →
      Obeys (Permitted storage req) conclude (⟨.pathExists path, reply⟩ :: ds) (f answer)) :
    Obeys (Permitted storage req) conclude ds (isThere path >>= f) := by
  rw [isThere, obeys_bind]
  refine obeys_call_attempt_bind trivial fun reply => ?_
  cases reply with
  | ok answer => exact h answer _ (by simp)
  | error e => exact h false _ (by simp)

/-- Nothing but the questions is asked before a path is taken for a staging directory. -/
theorem obeys_isUnderStaging {path : String} :
    Obeys (Permitted storage req)
      (fun ds' result => result = .ok true →
        IsChild storage.stagingRoot path ∧ Remained storage ds' path)
      ds (isUnderStaging storage path) := by
  unfold isUnderStaging
  split
  · rename_i name hname
    have hchild := isChild_of_stripPrefix hname
    refine obeys_isThere_bind fun answer reply hanswer => ?_
    by_cases hthere : answer = true
    · rw [if_pos hthere, remainsUnderStaging]
      refine obeys_call_attempt_bind trivial fun root => ?_
      refine obeys_call_attempt_bind trivial fun candidate => ?_
      cases root with
      | error e => exact fun h => by cases h
      | ok root =>
        cases candidate with
        | error e => exact fun h => by cases h
        | ok candidate =>
          intro h
          have hparent : parent candidate = some (components root) := by simpa using h
          exact ⟨hchild, .inr ⟨root, candidate, .tail _ (.head _), .head _, hparent⟩⟩
    · rw [if_neg hthere]
      exact fun _ => ⟨hchild, .inl ⟨reply, mt hanswer.2 hthere, .head _⟩⟩
  · exact fun h => by cases h

/-- What was seen stays so. -/
theorem Remained.mono {ds' : List StorageDeed} {path : String} (h : Remained storage ds path)
    (hsub : ds ⊆ ds') : Remained storage ds' path := by
  rcases h with ⟨reply, hne, hmem⟩ | ⟨root, candidate, hroot, hcandidate, hparent⟩
  · exact .inl ⟨reply, hne, hsub hmem⟩
  · exact .inr ⟨root, candidate, hsub hroot, hsub hcandidate, hparent⟩

end Deleting

section Cleanup

variable {storage : LocalStorage} {req : NodeCleanupRequest} {ds : List StorageDeed}

/-- One part after the other. -/
theorem obeys_then {α β : Type} {p : Work α} {f : α → Work β}
    (hp : Obeys (Permitted storage req) (fun _ _ => True) ds p)
    (hf : ∀ ds a, Obeys (Permitted storage req) (fun _ _ => True) ds (f a)) :
    Obeys (Permitted storage req) (fun _ _ => True) ds (p >>= f) := by
  rw [obeys_bind]
  refine hp.weaken fun ds' result _ => ?_
  cases result with
  | ok a => exact hf ds' a
  | error e => trivial

theorem obeys_cleanupStaging {attempts : List String} {done : NodeCleanupResult}
    (h : attempts ⊆ req.stagingAttempts) :
    Obeys (Permitted storage req) (fun _ _ => True) ds (cleanupStaging storage attempts done) := by
  induction attempts generalizing done ds with
  | nil => trivial
  | cons attempt attempts ih =>
    obtain ⟨hattempt, hrest⟩ := List.cons_subset.1 h
    refine obeys_call_bind (fun _ _ => trivial) trivial fun _ => ?_
    refine obeys_isThere_bind fun answer _ _ => ?_
    by_cases hthere : answer = true
    · rw [if_pos hthere]
      refine obeys_call_attempt_bind (.attempt hattempt) fun reply => ?_
      cases reply with
      | ok _ => exact ih hrest
      | error e => exact ih hrest
    · rw [if_neg hthere]
      exact ih hrest

theorem obeys_cleanupPaths {paths : List String} {done : NodeCleanupResult}
    (h : paths ⊆ req.stagingPaths) :
    Obeys (Permitted storage req) (fun _ _ => True) ds (cleanupPaths storage paths done) := by
  induction paths generalizing done ds with
  | nil => trivial
  | cons path paths ih =>
    obtain ⟨hpath, hrest⟩ := List.cons_subset.1 h
    rw [cleanupPaths, obeys_bind]
    refine obeys_isUnderStaging.weaken fun ds' result hunder => ?_
    cases result with
    | error e => trivial
    | ok answer =>
      change Obeys _ _ ds' (if answer = true then _ else _)
      by_cases hanswer : answer = true
      · obtain ⟨hchild, hremained⟩ := hunder (congrArg Except.ok hanswer)
        rw [if_pos hanswer]
        refine obeys_isThere_bind fun there reply _ => ?_
        by_cases hthere : there = true
        · rw [if_pos hthere]
          refine obeys_call_bind (fun _ _ => trivial) trivial fun _ => ?_
          -- What was seen of the path is two deeds further back by now.
          refine obeys_call_attempt_bind (.path hpath hchild
            (hremained.mono fun _ hd => .tail _ (.tail _ hd))) fun reply => ?_
          cases reply with
          | ok _ => exact ih hrest
          | error e => exact ih hrest
        · rw [if_neg hthere]
          exact ih hrest
      · rw [if_neg hanswer]
        exact ih hrest

theorem obeys_cleanupComponents {target : RestoreCleanupTarget String} {ids : List String}
    {error : Option String} (h : target ∈ req.restoreAttempts) :
    Obeys (Permitted storage req) (fun _ _ => True) ds
      (cleanupComponents target (restoreContext storage target) ids error) := by
  induction ids generalizing error ds with
  | nil => trivial
  | cons id ids ih =>
    refine obeys_call_bind (fun _ _ => trivial) trivial fun found => ?_
    cases found with
    | none => exact ih
    | some provider =>
      refine obeys_call_attempt_bind ⟨target, h, rfl⟩ fun reply => ?_
      cases reply with
      | ok _ => exact ih
      | error e => exact ih

theorem obeys_cleanupTargets {targets : List (RestoreCleanupTarget String)}
    {error : Option String} (h : targets ⊆ req.restoreAttempts) :
    Obeys (Permitted storage req) (fun _ _ => True) ds (cleanupTargets storage targets error) := by
  induction targets generalizing error ds with
  | nil => trivial
  | cons target targets ih =>
    obtain ⟨htarget, hrest⟩ := List.cons_subset.1 h
    have hids : Obeys (Permitted storage req) (fun _ _ => True) ds (componentIds target) := by
      refine obeys_call_bind (fun _ _ => trivial) trivial fun pending => ?_
      cases pending with
      | none => exact ⟨trivial, fun _ => trivial⟩
      | some pending => trivial
    refine obeys_then hids fun ds' ids => ?_
    exact obeys_then (obeys_cleanupComponents htarget) fun ds'' error => ih hrest

theorem obeys_cleanupCheckpoints {ids : List Id} {done : NodeCleanupResult}
    (h : ids ⊆ req.checkpointIds) :
    Obeys (Permitted storage req) (fun _ _ => True) ds (cleanupCheckpoints storage ids done) := by
  induction ids generalizing done ds with
  | nil => trivial
  | cons id ids ih =>
    obtain ⟨hid, hrest⟩ := List.cons_subset.1 h
    have hdelete : Obeys (Permitted storage req) (fun _ _ => True) ds
        (deleteCommitted storage id) := by
      refine obeys_isThere_bind fun answer _ _ => ?_
      exact obeys_ite (fun _ => ⟨.checkpoint hid, fun _ => trivial⟩) fun _ => trivial
    refine hdelete.attempt_bind fun ds' result _ => ?_
    cases result with
    | ok _ => exact ih hrest
    | error e => exact ih hrest

/-- A cleanup deletes only what its message names, in the places where it belongs. -/
theorem obeys_doCleanup :
    Obeys (Permitted storage req) (fun _ _ => True) ds (doCleanup storage req) := by
  refine obeys_then (obeys_cleanupStaging fun _ => id) fun _ done => ?_
  refine obeys_then (obeys_cleanupPaths fun _ => id) fun _ done => ?_
  refine obeys_then (obeys_cleanupTargets fun _ => id) fun _ error => ?_
  exact obeys_cleanupCheckpoints fun _ => id

end Cleanup

section Run

variable {storage : LocalStorage} {req : NodeCleanupRequest} {ds : List StorageDeed}

theorem Permitted.mono {ds' : List StorageDeed} {op : Op} (h : Permitted storage req ds op)
    (hsub : ds ⊆ ds') : Permitted storage req ds' op := by
  cases op with
  | removeDirAll path =>
    cases h with
    | attempt h => exact .attempt h
    | path h hchild hremained => exact .path h hchild (hremained.mono hsub)
    | checkpoint h => exact .checkpoint h
  | _ => exact h

/-- What was done in a cleanup was permitted. -/
theorem permitted_of_follows {q : Work NodeCleanupResult}
    (h : Follows (doCleanup storage req) ds q) : ∀ d ∈ ds, Permitted storage req ds d.op := by
  induction h with
  | start => exact fun _ hd => absurd hd List.not_mem_nil
  | @perform ds op rest reply hfollows ih =>
    intro d hd
    rcases List.mem_cons.1 hd with rfl | hd
    · have hobeys := obeys_doCleanup.of_follows hfollows
      exact hobeys.1.mono (List.subset_cons_self _ _)
    · exact (ih d hd).mono (List.subset_cons_self _ _)

end Run

/-- What a deed of a cleanup deletes, be it in part, when `rollback` are the paths that a provider
deletes as it takes a restore back. -/
def deleted (rollback : Provider → RestoreContext String → List String) : StorageDeed → List String
  | ⟨.removeDirAll path, _⟩ => [path]
  | ⟨.cleanupRestore provider ctx, _⟩ => rollback provider ctx
  | _ => []

/-- The path is a child of the staging root, or the directory of a checkpoint of the message. -/
def Confined (storage : LocalStorage) (req : NodeCleanupRequest) (path : String) : Prop :=
  IsChild storage.stagingRoot path ∨ ∃ id ∈ req.checkpointIds, path = storage.commitDir id

theorem Deletable.confined {storage : LocalStorage} {req : NodeCleanupRequest}
    {ds : List StorageDeed} {path : String} (h : Deletable storage req ds path) :
    Confined storage req path := by
  cases h with
  | attempt h => exact .inl ⟨_, components_stagingDir storage _⟩
  | path h hchild hremained => exact .inl hchild
  | checkpoint h => exact .inr ⟨_, h, rfl⟩

/-- A sanitized name is one name, and sanitizing it again changes nothing; the staging directory of an
attempt is a child of the staging root; a path that is joined safely stays below its base; and what a
cleanup deletes is confined to the children of the staging root and the checkpoints of its message,
but for what the providers delete as they take the restores of the message back. -/
theorem paths_confined :
    (∀ name, sanitizeSegment (sanitizeSegment name) = sanitizeSegment name ∧
      IsName (sanitizeSegment name)) ∧
    (∀ (storage : LocalStorage) attempt, components (storage.stagingDir attempt) =
      components storage.stagingRoot ++ [.normal (sanitizeSegment attempt)]) ∧
    (∀ base rel path, safeJoin base rel = .ok path → ∃ rest,
      components path = components base ++ rest ∧ Component.rootDir ∉ rest ∧
        Component.parentDir ∉ rest) ∧
    ∀ storage req rollback ds q, Follows (doCleanup storage req) ds q →
      ∀ d ∈ ds, ∀ path ∈ deleted rollback d,
        Confined storage req path ∧ Deletable storage req ds path ∨
          ∃ provider, ∃ target ∈ req.restoreAttempts,
            d.op = .cleanupRestore provider (restoreContext storage target) ∧
              path ∈ rollback provider (restoreContext storage target) := by
  refine ⟨fun name => ⟨sanitizeSegment_idem name, isName_sanitizeSegment name⟩,
    components_stagingDir, fun base rel path => exists_components_of_safeJoin,
    fun storage req rollback ds q hfollows d hd path hpath => ?_⟩
  have hpermitted := permitted_of_follows hfollows d hd
  obtain ⟨op, reply⟩ := d
  cases op with
  | removeDirAll removed =>
    obtain rfl := List.mem_singleton.1 hpath
    exact .inl ⟨hpermitted.confined, hpermitted⟩
  | cleanupRestore provider ctx =>
    obtain ⟨target, htarget, rfl⟩ := hpermitted
    exact .inr ⟨provider, target, htarget, rfl, hpath⟩
  | _ => cases hpath

/-! ## A cleanup of an explicit path, and one that takes back a restore -/

namespace Demo

def storage : LocalStorage := ⟨"/data"⟩

/-- A message with the path of a staging directory, and a path that leads out of them. -/
def explicit : NodeCleanupRequest := ⟨["../x"], ["/data/staging/old", "/data/staging/../x"], [], [2]⟩

/-- A message that aborts a restore. -/
def abort : NodeCleanupRequest := ⟨[], [], [⟨toString (AttemptId.restore 2 9), 2, 7⟩], []⟩

/-- Everything is there, and the only component of the restore has provider 1. -/
def answer : (op : Op) → FabricResult op.Reply
  | .pathExists _ => .ok true
  | .canonicalize path => .ok path
  | .takePending _ => .ok none
  | .providerList _ => .ok ["files"]
  | .providerGet .. => .ok (some 1)
  | .releaseStaging _ | .removeDirAll _ | .cleanupRestore .. => .ok ()

def run (req : NodeCleanupRequest) : List StorageDeed × Work NodeCleanupResult :=
  Program.advance answer 30 [] (doCleanup storage req)

theorem follows_run (req : NodeCleanupRequest) :
    Follows (doCleanup storage req) (run req).1 (run req).2 :=
  follows_advance 30 .start

/-- The paths that are there in the first tree and not in the second one. -/
def lost (root : String) (t t' : Filesystem.FileTree) : List String :=
  ((t.nodes.map Prod.fst).filter fun p => t.isThere p && !t'.isThere p).map (Filesystem.display root)

/-- What the provider deletes below its root `/srv`. -/
def rollback (_ : Provider) (_ : RestoreContext String) : List String :=
  let before := Filesystem.Demo.restored Filesystem.Demo.beside Filesystem.Demo.besideEntries
    Filesystem.Demo.used
  match Filesystem.cleanupRestore Filesystem.Demo.beside Filesystem.Demo.server.fresh
    (.restore 2 9) before with
  | .ok after => lost "/srv" before after
  | .error _ => []

theorem exists_deleted (req : NodeCleanupRequest) (path : String)
    (h : (run req).1.any (fun d => (deleted rollback d).contains path) = true) :
    ∃ d ∈ (run req).1, path ∈ deleted rollback d := by
  obtain ⟨d, hd, hpath⟩ := List.any_eq_true.1 h
  exact ⟨d, hd, List.contains_iff_mem.1 hpath⟩

end Demo

/-- The staging directory that is given by its path is deleted. -/
theorem paths_confined_explicit :
    ∃ d ∈ (Demo.run Demo.explicit).1, "/data/staging/old" ∈ deleted (fun _ _ => []) d ∧
      Confined Demo.storage Demo.explicit "/data/staging/old" := by
  have hany : (Demo.run Demo.explicit).1.any
      (fun d => (deleted (fun _ _ => []) d).contains "/data/staging/old") = true := by
    decide +kernel
  obtain ⟨d, hd, hpath⟩ := List.any_eq_true.1 hany
  have hdeleted := List.contains_iff_mem.1 hpath
  refine ⟨d, hd, hdeleted, ?_⟩
  rcases paths_confined.2.2.2 _ _ _ _ _ (Demo.follows_run Demo.explicit) d hd _ hdeleted with
    ⟨hconfined, -⟩ | ⟨_, _, -, -, hnone⟩
  · exact hconfined
  · cases hnone

/-- The provider takes back a restore below its own root. -/
theorem abort_not_confined :
    ∃ ds q, Follows (doCleanup Demo.storage Demo.abort) ds q ∧
      ∃ d ∈ ds, ∃ path ∈ deleted Demo.rollback d, ¬ Confined Demo.storage Demo.abort path := by
  obtain ⟨d, hd, hpath⟩ := Demo.exists_deleted Demo.abort "/srv/a/b" (by decide +kernel)
  refine ⟨_, _, Demo.follows_run Demo.abort, d, hd, _, hpath, ?_⟩
  rintro (⟨name, hname⟩ | ⟨id, hid, -⟩)
  · have hpath : components "/srv/a/b" =
        [.rootDir, .normal "srv", .normal "a", .normal "b"] := by decide +kernel
    have hroot : components Demo.storage.stagingRoot =
        [.rootDir, .normal "data", .normal "staging"] := by decide +kernel
    rw [hpath, hroot] at hname
    simp at hname
  · cases hid

end CheckpointFabric.Storage
