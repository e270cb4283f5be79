import CheckpointFabric.Concurrency.Alone
import CheckpointFabric.Properties.Anchoring

/-!
# Verification predicts a restore

A node verifies a replica on request, and it verifies one before it restores it. The two are
separate pieces of code. On a directory that stays as it is they come to the same verdict, when
the anchor is the digest of a manifest of the checkpoint that is asked for.

## Main definitions

* `Directory` — what the paths of the node lead to
* `integrityPhase` — the part of a restore that comes before the providers
* `Directory.on` — the result of a program on a directory that stays as it is

## Main results

* `doRestore_eq` — a restore is its integrity phase, and then the providers
* `verify_iff_passes` — verification succeeds iff the integrity phase does
-/

set_option autoImplicit false

namespace CheckpointFabric.Replica

open Concurrency

/-- What is at a path. -/
inductive PathEntry
  | file (bytes : Bytes)
  | directory
  deriving DecidableEq

/-- What the paths of a node lead to. -/
abbrev Directory := String → Option PathEntry

def noSuchFile : FabricError := .io "No such file or directory"

def isADirectory : FabricError := .io "Is a directory"

/-- The text of a file, if it is one. -/
def decodeText (bytes : Bytes) : FabricResult String :=
  match String.fromUTF8? ⟨bytes.toArray⟩ with
  | some text => .ok text
  | none => .error (.io "stream did not contain valid UTF-8")

namespace Directory

variable (dir : Directory)

/-- The answers of a directory that stays as it is. A directory can be opened, but not read. -/
def answer : (op : Op) → FabricResult op.Reply
  | .openFile path => if (dir path).isSome then .ok () else .error noSuchFile
  | .read path =>
    match dir path with
    | some (.file bytes) => .ok bytes
    | some .directory => .error isADirectory
    | none => .error noSuchFile
  | .readText path =>
    match dir path with
    | some (.file bytes) => decodeText bytes
    | some .directory => .error isADirectory
    | none => .error noSuchFile
  | .metadataLen path =>
    match dir path with
    | some (.file bytes) => .ok bytes.length
    | some .directory => .ok 4096
    | none => .error noSuchFile
  | .isFile path =>
    match dir path with
    | some (.file _) => .ok true
    | _ => .ok false
  | .pathExists path => .ok (dir path).isSome
  | .providerGet .. => .ok none
  | .fire _ | .restore .. | .verifyRestore .. | .cleanupRestore .. | .insertPending .. => .ok ()

/-- The result of a program on the directory. -/
def on {α : Type} (p : Work α) : FabricResult α :=
  (p.eval (fun op (_ : Unit) => (dir.answer op, ())) ()).1

end Directory

section Phases

variable (files : FileCodecs) (node : NodeState) (req : NodeRestoreRequest)

/-- A restore up to the point where it turns to the providers: the manifest, or the report of a
failure. -/
def integrityPhase : Work (Except NodeRestoreResult Manifest) := do
  let commit := node.commitDir req.checkpointId
  match ← (perform (.read s!"{commit}/manifest")).attempt with
  | .error _ =>
    pure (.error
      (refused req s!"no local replica of {toHex req.checkpointId} on node {node.nodeId}" []))
  | .ok manifestBytes =>
    let actualDigest := files.sha256Hex manifestBytes
    let sidecar ← (perform (.readText s!"{commit}/manifest.digest")).attempt
    let sidecarDigest := trim (sidecar.toOption.getD "")
    if actualDigest ≠ req.expectedManifestDigest ∨ sidecarDigest ≠ req.expectedManifestDigest then
      pure (.error (refused req "manifest does not match coordinator integrity anchor" []))
    else
      let manifest ← Program.ofExcept (parse files manifestBytes)
      if manifest.checkpointId ≠ req.checkpointId ∨ manifest.workloadId ≠ req.workloadId then
        pure (.error (refused req "manifest identity does not match restore request" []))
      else
        match ← verifyComponents files req commit manifest.components with
        | some failure => pure (.error failure)
        | none => pure (.ok manifest)

/-- What a restore does after its integrity phase. -/
def afterIntegrity : Except NodeRestoreResult Manifest → Work NodeRestoreResult
  | .error failure => pure failure
  | .ok manifest =>
    restoreComponents files req
      { checkpointId := req.checkpointId
        workloadId := req.workloadId
        attemptId := req.attemptId
        stagingDir := node.stagingDir req.attemptId
        commitDir := node.commitDir req.checkpointId } manifest.components [] []

/-- A restore is its integrity phase, and then the providers. -/
theorem doRestore_eq : doRestore files node req =
    perform (.fire "restore.node.before_apply") >>= fun _ =>
      integrityPhase files node req >>= afterIntegrity files node req := by
  refine congrArg (Program.perform _) (funext fun fired => ?_)
  cases fired with
  | error e => rfl
  | ok _ =>
    refine congrArg (Program.perform _) (funext fun shown => ?_)
    cases shown with
    | error e => rfl
    | ok doc =>
      refine congrArg (Program.perform _) (funext fun sidecar => ?_)
      simp only [Program.done_andThen, Program.onValue_ok]
      by_cases hanchor : files.sha256Hex doc ≠ req.expectedManifestDigest ∨
          trim (sidecar.toOption.getD "") ≠ req.expectedManifestDigest
      · rw [if_pos hanchor, if_pos hanchor]
        rfl
      · rw [if_neg hanchor, if_neg hanchor]
        cases parse files doc with
        | error e => rfl
        | ok m =>
          change (if m.checkpointId ≠ req.checkpointId ∨ m.workloadId ≠ req.workloadId then _
            else _) = Program.andThen (if m.checkpointId ≠ req.checkpointId ∨
              m.workloadId ≠ req.workloadId then _ else _) _
          by_cases hidentity : m.checkpointId ≠ req.checkpointId ∨ m.workloadId ≠ req.workloadId
          · rw [if_pos hidentity, if_pos hidentity]
            rfl
          · rw [if_neg hidentity, if_neg hidentity, Program.bind_def, Program.bind_def,
              Program.andThen_assoc]
            congr 1
            funext result
            rcases result with e | failure
            · rfl
            · cases failure <;> rfl

end Phases

section Directories

variable {files : FileCodecs} {node : NodeState} {dir : Directory} {α β : Type}

theorem on_ofExcept_bind {a : α} {f : α → Work β} :
    dir.on (Program.ofExcept (.ok a) >>= f) = dir.on (f a) := rfl

theorem on_perform (op : Op) : dir.on (perform op) = dir.answer op := rfl

theorem on_andThen (p : Work α) (f : FabricResult α → Work β) :
    dir.on (p.andThen f) = dir.on (f (dir.on p)) := by
  unfold Directory.on
  rw [eval_andThen]

theorem on_attempt_bind (p : Work α) (f : FabricResult α → Work β) :
    dir.on (p.attempt >>= f) = dir.on (f (dir.on p)) := by
  rw [Program.bind_def, Program.attempt, Program.andThen_assoc, on_andThen]
  rfl

theorem on_bind_eq_ok {p : Work α} {f : α → Work β} {b : β} :
    dir.on (p >>= f) = .ok b ↔ ∃ a, dir.on p = .ok a ∧ dir.on (f a) = .ok b := by
  rw [Program.bind_def, on_andThen]
  cases dir.on p with
  | ok a => simp
  | error e => simp [Directory.on, Program.eval]

theorem on_mapError_eq_ok {p : Work α} {f : FabricError → FabricError} {a : α} :
    dir.on (p.mapError f) = .ok a ↔ dir.on p = .ok a := by
  rw [Program.mapError, on_andThen]
  cases dir.on p <;> simp [Directory.on, Program.eval]

theorem on_asks_isFile {path : String} {bytes : Bytes} (h : dir path = some (.file bytes)) :
    dir.on (asks (perform (.isFile path))) = .ok true := by
  rw [asks, on_andThen, on_perform]
  simp only [Directory.answer, h]
  rfl

/-- Only a file can be read. -/
theorem isFile_of_sha256File {path digest : String}
    (h : dir.on (sha256File files path) = .ok digest) : ∃ bytes, dir path = some (.file bytes) := by
  obtain ⟨_, -, hrest⟩ := on_bind_eq_ok.mp h
  obtain ⟨bytes, hread, -⟩ := on_bind_eq_ok.mp hrest
  have hread := on_mapError_eq_ok.mp hread
  rw [on_perform] at hread
  simp only [Directory.answer] at hread
  split at hread
  · exact ⟨_, ‹_›⟩
  · cases hread
  · cases hread

/-- What passes verification is a file. -/
theorem isFile_of_verified {path hash : String} {size : Option ℕ}
    (h : dir.on (verifyStoredFile files path hash size) = .ok ()) :
    ∃ bytes, dir path = some (.file bytes) := by
  obtain ⟨_, -, hafterSize⟩ := on_bind_eq_ok.mp h
  obtain ⟨_, -, hafterCrc⟩ := on_bind_eq_ok.mp hafterSize
  obtain ⟨digest, hdigest, -⟩ := on_bind_eq_ok.mp hafterCrc
  exact isFile_of_sha256File hdigest

/-- The two passes over the components come to the same verdict: a restore asks in addition whether
a payload is a file, and nothing else passes verification. -/
theorem checkComponents_iff {req : NodeRestoreRequest} {commit : String}
    {components : List ComponentEntry} :
    dir.on (checkComponents files commit components) = .ok none ↔
      dir.on (verifyComponents files req commit components) = .ok none := by
  induction components with
  | nil => exact iff_of_true rfl rfl
  | cons c components ih =>
    unfold checkComponents verifyComponents
    cases safeJoin commit c.storageRepresentation.relativePath with
    | error e =>
      refine iff_of_false (fun h => ?_) fun h => ?_
      · cases h
      · cases h
    | ok path =>
      dsimp only
      rw [on_attempt_bind]
      -- The restore asks first whether the file is there; a file that verifies is.
      cases hverified : dir.on (verifyStoredFile files path c.storageRepresentation.storedHash
          (some c.storageRepresentation.storedSize)) with
      | error e =>
        refine iff_of_false (fun h => ?_) fun h => ?_
        · cases h
        · obtain ⟨path', hpath, hasked⟩ := on_bind_eq_ok.mp h
          obtain rfl := Except.ok.inj hpath
          obtain ⟨isFile, -, hrest⟩ := on_bind_eq_ok.mp hasked
          split at hrest
          · cases hrest
          · rw [on_attempt_bind, hverified] at hrest
            cases hrest
      | ok _ =>
        obtain ⟨bytes, hfile⟩ := isFile_of_verified hverified
        have hasked := on_asks_isFile hfile
        refine ih.trans ?_
        constructor
        · intro h
          refine on_bind_eq_ok.mpr ⟨path, rfl, on_bind_eq_ok.mpr ⟨true, hasked, ?_⟩⟩
          rw [if_neg (not_not_intro rfl), on_attempt_bind, hverified]
          exact h
        · intro h
          obtain ⟨path', hpath, hasked'⟩ := on_bind_eq_ok.mp h
          obtain rfl := Except.ok.inj hpath
          obtain ⟨isFile, htrue, hrest⟩ := on_bind_eq_ok.mp hasked'
          obtain rfl := Except.ok.inj (hasked.symm.trans htrue)
          rw [if_neg (not_not_intro rfl), on_attempt_bind, hverified] at hrest
          exact hrest

/-- The request to verify the replica that a restore would use. -/
abbrev verifyRequest (req : NodeRestoreRequest) : NodeVerifyRequest :=
  ⟨req.checkpointId, req.expectedManifestDigest⟩

section Verdicts

variable {req : NodeRestoreRequest} {doc : Bytes} {m : Manifest}

/-- A report that all components have passed. -/
theorem verified_iff {checked : Work (Option String)} {checkpointId : Id} {digest : Option String} :
    (∃ r : NodeVerifyResult, dir.on (checked >>= fun failed =>
      pure ⟨checkpointId, failed.isNone, failed, digest⟩) = .ok r ∧ r.ok = true) ↔
      dir.on checked = .ok none := by
  constructor
  · rintro ⟨r, hr, hok⟩
    obtain ⟨failed, hfailed, hreport⟩ := on_bind_eq_ok.mp hr
    obtain rfl := Except.ok.inj hreport
    rw [hfailed, Option.isNone_iff_eq_none.mp hok]
  · intro h
    exact ⟨⟨checkpointId, true, none, digest⟩, on_bind_eq_ok.mpr ⟨none, h, rfl⟩, rfl⟩

/-- No failure was found in the components. -/
theorem passed_iff {verified : Work (Option NodeRestoreResult)} {f : Option NodeRestoreResult →
      Work (Except NodeRestoreResult Manifest)} (hnone : f none = pure (.ok m))
    (hsome : ∀ failure, f (some failure) = pure (.error failure)) :
    dir.on (verified >>= f) = .ok (.ok m) ↔ dir.on verified = .ok none := by
  rw [on_bind_eq_ok]
  constructor
  · rintro ⟨failure, hverified, hresult⟩
    cases failure with
    | none => exact hverified
    | some failure =>
      rw [hsome] at hresult
      cases hresult
  · intro h
    refine ⟨none, h, ?_⟩
    rw [hnone]
    rfl

/-- Let `doc` be a manifest that was sealed for the checkpoint and the workload of the request, and
let the anchor be its digest, which no other document has. On any directory, verification reports a
valid replica iff a restore with the same anchor passes its integrity phase. -/
theorem verify_iff_passes (hsealed : parse files doc = .ok m)
    (hcheckpoint : m.checkpointId = req.checkpointId) (hworkload : m.workloadId = req.workloadId)
    (hanchor : files.sha256Hex doc = req.expectedManifestDigest)
    (hfree : ∀ bytes, files.sha256Hex bytes = files.sha256Hex doc → bytes = doc) :
    (∃ r, dir.on (doVerify files node (verifyRequest req)) = .ok r ∧ r.ok = true) ↔
      dir.on (integrityPhase files node req) = .ok (.ok m) := by
  unfold doVerify integrityPhase
  dsimp only [verifyRequest]
  rw [on_attempt_bind, on_attempt_bind]
  cases dir.on (perform (.read s!"{node.commitDir req.checkpointId}/manifest")) with
  | error e =>
    refine iff_of_false (fun ⟨r, hr, hok⟩ => ?_) fun h => by cases h
    obtain rfl := Except.ok.inj hr
    cases hok
  | ok bytes =>
    dsimp only
    by_cases hdigest : files.sha256Hex bytes = req.expectedManifestDigest
    · -- The document is the sealed one.
      obtain rfl := hfree bytes (hdigest.trans hanchor.symm)
      rw [hsealed, on_attempt_bind, on_ofExcept_bind, on_attempt_bind]
      generalize trim ((dir.on (perform (.readText
        s!"{node.commitDir req.checkpointId}/manifest.digest"))).toOption.getD "") = sidecar
      by_cases hsidecar : sidecar = req.expectedManifestDigest
      · rw [if_neg (by rw [hsidecar, hdigest]; simp), if_neg (by rw [hsidecar, hdigest]; simp),
          on_ofExcept_bind, if_neg (by rw [hcheckpoint, hworkload]; simp), verified_iff,
          passed_iff rfl fun _ => rfl]
        exact checkComponents_iff
      · rw [if_pos (.inl fun heq => hsidecar (heq.trans hdigest)), if_pos (.inr hsidecar)]
        refine iff_of_false (fun ⟨r, hr, hok⟩ => ?_) fun h => by cases h
        obtain rfl := Except.ok.inj hr
        cases hok
    · rw [on_attempt_bind, if_pos (.inl hdigest)]
      refine iff_of_false (fun ⟨r, hr, hok⟩ => ?_) fun h => by cases h
      obtain ⟨parsed, -, hrest⟩ := on_bind_eq_ok.mp hr
      rw [on_attempt_bind, if_pos (.inr hdigest)] at hrest
      obtain rfl := Except.ok.inj hrest
      cases hok

end Verdicts

end Directories

theorem eq_ok_of_toOption {α : Type} {result : FabricResult α} {a : α}
    (h : result.toOption = some a) : result = .ok a := by
  cases result with
  | ok b => rw [Option.some.inj h]
  | error e => cases h

/-- The small replica on a disk. -/
def Demo.replica : Directory := fun path =>
  if path = manifestPath then some (.file document)
  else if path = digestPath then some (.file (utf8 (digest ++ "\n")))
  else if path = node.commitDir 2 ++ "/components/app" then some (.file payload)
  else none

theorem Demo.replica_manifest : replica manifestPath = some (.file document) := if_pos rfl

theorem Demo.replica_digest : replica digestPath = some (.file (utf8 (digest ++ "\n"))) := by
  decide +kernel

theorem Demo.decodeText_digest : decodeText (utf8 (digest ++ "\n")) = .ok (digest ++ "\n") := by
  decide +kernel

/-- How the verification finds the manifest of the small replica. -/
theorem Demo.on_doVerify {dir : Directory} (hmanifest : dir manifestPath = some (.file document))
    (hdigest : dir digestPath = some (.file (utf8 (digest ++ "\n")))) :
    dir.on (doVerify files node (verifyRequest request)) = dir.on (do
      let failed ← checkComponents files (node.commitDir request.checkpointId) manifest.components
      pure { checkpointId := request.checkpointId, ok := failed.isNone, error := failed
             manifestDigest := some digest }) := by
  unfold manifestPath at hmanifest
  unfold digestPath at hdigest
  unfold doVerify verifyRequest
  simp only [Directory.on, Program.eval, perform, Program.call, Program.bind_def, Program.attempt,
    Program.perform_andThen, Program.done_andThen, Program.onValue_ok, Program.ofExcept,
    Directory.answer, hmanifest, hdigest, decodeText_digest, sha256Hex_document, trim_digest,
    Except.toOption, Option.getD_some, ne_eq, not_true_eq_false, parse_document]
  rfl

/-- It is valid, and a restore passes its integrity phase. -/
theorem verify_iff_passes_replica :
    (∃ r, Demo.replica.on (doVerify Demo.files Demo.node (verifyRequest Demo.request)) = .ok r ∧
      r.ok = true) ∧
    Demo.replica.on (integrityPhase Demo.files Demo.node Demo.request) = .ok (.ok Demo.manifest) := by
  have hvalid : ((Demo.replica.on (doVerify Demo.files Demo.node
      (verifyRequest Demo.request))).toOption.map (·.ok)) = some true := by
    rw [Demo.on_doVerify Demo.replica_manifest Demo.replica_digest]
    decide +kernel
  obtain ⟨r, hr, hok⟩ := Option.map_eq_some_iff.mp hvalid
  have hverified : ∃ r, Demo.replica.on (doVerify Demo.files Demo.node
      (verifyRequest Demo.request)) = .ok r ∧ r.ok = true :=
    ⟨r, eq_ok_of_toOption hr, hok⟩
  exact ⟨hverified, (verify_iff_passes Demo.parse_document rfl rfl Demo.sha256Hex_document
    fun _ => Demo.eq_document).mp hverified⟩

end CheckpointFabric.Replica
