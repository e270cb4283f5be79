import CheckpointFabric.Concurrency.History
import CheckpointFabric.Fabric
import CheckpointFabric.Properties.Sealing
import CheckpointFabric.Transport

/-!
# Only anchored bytes reach providers

A node checks the stored payloads of a replica in one pass and decodes them in another, and
the directory may change in between. What it hands to a provider is checked again, against
the entry of the manifest whose digest is the anchor.

## Main definitions

* `AnchorRead` — the manifest was read with the anchor's digest
* `Recorded` — the bytes are the content that an entry records
* `AnchoredPermits` — what may reach a provider

## Main results

* `obeys_doRestore` — a restore hands over nothing else, whatever the disk answers
* `restore_anchored` — what it hands over is recorded in the anchored document
* `doRestore_refines` — the node's answers are those that the coordinator's model expects
-/

set_option autoImplicit false

namespace CheckpointFabric.Replica

open Concurrency

/-- A deed of a node on a replica. -/
abbrev DiskDeed := Deed diskInterface FabricError

section Anchors

variable {files : FileCodecs} {node : NodeState} {req : NodeRestoreRequest}
  {ds ds' : List DiskDeed} {m : Manifest}

section Definitions

variable (files : FileCodecs) (req : NodeRestoreRequest)

/-- The disk has shown the manifest `m` in a document with the anchor's digest. -/
def AnchorRead (ds : List DiskDeed) (m : Manifest) : Prop :=
  ∃ path doc, (⟨.read path, .ok doc⟩ : DiskDeed) ∈ ds ∧
    files.sha256Hex doc = req.expectedManifestDigest ∧ parse files doc = .ok m

/-- The bytes are the content that the entry records. -/
structure Recorded (c : ComponentEntry) (payload : Bytes) : Prop where
  size : payload.length = c.storageRepresentation.originalSize
  content : files.sha256Hex payload = c.contentHash

/-- A provider gets nothing but the content that the anchored manifest records for its
component. -/
def AnchoredPermits (ds : List DiskDeed) : Op → Prop
  | .restore provider _ payload => ∃ m c, AnchorRead files req ds m ∧ c ∈ m.components ∧
      (⟨.providerGet req.workloadId c.componentId, .ok (some provider)⟩ : DiskDeed) ∈ ds ∧
      Recorded files c payload
  | _ => True

end Definitions

/-- The operation hands nothing to a provider. -/
def Op.Harmless : Op → Prop
  | .restore .. => False
  | _ => True

/-- The operation reads the directory. -/
def Op.Reads : Op → Prop
  | .openFile _ | .read _ | .readText _ | .metadataLen _ | .isFile _ | .pathExists _ => True
  | _ => False

theorem anchoredPermits_of_harmless {op : Op} (h : op.Harmless) :
    AnchoredPermits files req ds op := by
  cases op with
  | restore => exact h.elim
  | _ => trivial

theorem anchoredPermits_of_reads {op : Op} (h : op.Reads) : AnchoredPermits files req ds op := by
  cases op with
  | restore => exact h.elim
  | _ => trivial

theorem AnchorRead.mono (h : AnchorRead files req ds m) (hsuffix : ds <:+ ds') :
    AnchorRead files req ds' m := by
  obtain ⟨path, doc, hread, hdigest, hparse⟩ := h
  exact ⟨path, doc, hsuffix.subset hread, hdigest, hparse⟩

section Passes

theorem uses_asks {question : Work Bool} (h : Uses Op.Reads question) :
    Uses Op.Reads (asks question) := by
  refine Uses.andThen h fun result => ?_
  cases result <;> trivial

theorem uses_fileHash {α : Type} {path : String} {f : Bytes → α} :
    Uses Op.Reads (do
      (perform (.openFile path)).mapError fun e => .io s!"open {path}: {ioText e}"
      let bytes ← (perform (.read path)).mapError fun e => .io s!"read {path}: {ioText e}"
      pure (f bytes)) := by
  refine Uses.bind (Uses.mapError (uses_call.mpr trivial)) fun _ => ?_
  exact Uses.bind (Uses.mapError (uses_call.mpr trivial)) fun _ => trivial

theorem uses_verifyStoredFile {path expectedContentHash : String} {expectedSize : Option ℕ} :
    Uses Op.Reads (verifyStoredFile files path expectedContentHash expectedSize) := by
  have hsize : Uses Op.Reads (checkSize path expectedSize) := by
    refine Uses.bind (Uses.mapError (uses_call.mpr trivial)) fun len => ?_
    split
    · exact uses_ensure.mpr trivial
    · trivial
  have hcrc : Uses Op.Reads (checkCrc files path) := by
    refine Uses.bind (uses_asks (uses_call.mpr trivial)) fun hasCrc => ?_
    split
    · refine Uses.bind (Uses.mapError (uses_call.mpr trivial)) fun expected => ?_
      exact Uses.bind uses_fileHash fun actual => uses_ensure.mpr trivial
    · trivial
  refine Uses.bind hsize fun _ => Uses.bind hcrc fun _ => ?_
  exact Uses.bind uses_fileHash fun actual => uses_ensure.mpr trivial

/-- The first pass only reads. -/
theorem uses_verifyComponents {commit : String} {components : List ComponentEntry} :
    Uses Op.Reads (verifyComponents files req commit components) := by
  induction components with
  | nil => trivial
  | cons c components ih =>
    refine Uses.bind (uses_ofExcept.mpr trivial) fun path => ?_
    refine Uses.bind (uses_asks (uses_call.mpr trivial)) fun isFile => ?_
    split
    · trivial
    · refine Uses.bind (Uses.attempt uses_verifyStoredFile) fun result => ?_
      cases result with
      | error e => trivial
      | ok _ => exact ih

theorem uses_readComponentPayload {commit contentHash : String} {repr : StorageRepresentation}
    {maxBytes : ℕ} : Uses Op.Reads (readComponentPayload files commit repr contentHash maxBytes) := by
  refine Uses.bind (uses_ofExcept.mpr trivial) fun path => ?_
  refine Uses.bind (uses_call.mpr trivial) fun stored => ?_
  refine Uses.bind (uses_ensure.mpr trivial) fun _ => ?_
  refine Uses.bind (uses_ofExcept.mpr trivial) fun codec => ?_
  refine Uses.bind (uses_ofExcept.mpr trivial) fun out => ?_
  exact Uses.bind (uses_ensure.mpr trivial) fun _ => Uses.bind (uses_ensure.mpr trivial) fun _ => trivial

theorem uses_cleanupRestored {providers : List Provider} {ctx : RestoreContext} :
    Uses Op.Harmless (cleanupRestored providers ctx) :=
  Uses.forEach fun _ _ => Uses.ignore (uses_call.mpr trivial)

/-- The second pass returns what the entry records, whatever it has read. -/
theorem returns_readComponentPayload {commit : String} {c : ComponentEntry} {maxBytes : ℕ} :
    Returns (Recorded files c) (readComponentPayload files commit c.storageRepresentation
      c.contentHash maxBytes) := by
  refine Returns.bind fun path => Returns.bind fun stored => Returns.bind fun _ => ?_
  refine Returns.bind fun codec => Returns.bind fun out => ?_
  refine returns_ensure_bind fun hsize => returns_ensure_bind fun hcontent => ?_
  exact returns_pure ⟨hsize, hcontent⟩

theorem obeys_readComponentPayload {commit : String} {c : ComponentEntry} {maxBytes : ℕ} :
    Obeys (AnchoredPermits files req)
      (fun ds' result => ds <:+ ds' ∧ ∀ out, result = .ok out → Recorded files c out) ds
      (readComponentPayload files commit c.storageRepresentation c.contentHash maxBytes) :=
  (Obeys.extend uses_readComponentPayload fun _ _ _ => anchoredPermits_of_reads).and_returns
    returns_readComponentPayload

end Passes

section Answers

/-- The coordinator's model of the node expects the answer, if the node has the replica. -/
def Answers (node : NodeState) (req : NodeRestoreRequest) (result : FabricResult NodeRestoreResult) :
    Prop :=
  req.checkpointId ∈ node.committed → ∃ o, (node.doRestore req o).1 = result

theorem answers_error {e : FabricError} : Answers node req (.error e) := by
  intro _
  exact ⟨{ fault := some e }, rfl⟩

theorem answers_refused {text : String} {restored : List String} :
    Answers node req (.ok (refused req text restored)) := by
  intro hmem
  refine ⟨{ failure := some text, restoredComponents := restored }, ?_⟩
  rw [NodeState.doRestore, if_neg (not_not.mpr hmem)]
  rfl

theorem answers_restored {restored : List String} : Answers node req (.ok
    { attemptId := req.attemptId, ok := true, error := none, restoredComponents := restored }) := by
  intro hmem
  refine ⟨{ restoredComponents := restored }, ?_⟩
  rw [NodeState.doRestore, if_neg (not_not.mpr hmem)]

end Answers

section Restore

/-- A report of the first pass is a refusal. -/
theorem returns_verifyComponents {commit : String} {components : List ComponentEntry} :
    Returns (fun failure => ∀ report, failure = some report →
      ∃ text restored, report = refused req text restored)
      (verifyComponents files req commit components) := by
  induction components with
  | nil => exact returns_pure fun _ h => nomatch h
  | cons c components ih =>
    refine Returns.bind fun path => Returns.bind fun isFile => ?_
    split
    · exact returns_pure fun report h => ⟨_, _, (Option.some.inj h).symm⟩
    · refine Returns.bind fun result => ?_
      cases result with
      | error e => exact returns_pure fun report h => ⟨_, _, (Option.some.inj h).symm⟩
      | ok _ => exact ih

/-- What the deeds have shown lets the components of the manifest be restored. -/
theorem obeys_restoreComponents {ctx : RestoreContext} {components : List ComponentEntry}
    {restored : List String} {touched : List Provider} (hread : AnchorRead files req ds m)
    (hmem : components ⊆ m.components) :
    Obeys (AnchoredPermits files req) (fun _ result => Answers node req result) ds
      (restoreComponents files req ctx components restored touched) := by
  induction components generalizing ds restored touched with
  | nil => exact obeys_call_bind (fun _ _ => answers_error) trivial fun _ => answers_restored
  | cons c components ih =>
    have hrest : components ⊆ m.components := fun _ h => hmem (.tail c h)
    have hfail {ds : List DiskDeed} {touched : List Provider} {text : String} :
        Obeys (AnchoredPermits files req) (fun _ result => Answers node req result) ds (do
          cleanupRestored touched ctx
          pure (refused req text restored)) :=
      obeys_uses_bind (fun _ _ => answers_error) uses_cleanupRestored
        (fun _ _ _ => anchoredPermits_of_harmless) fun _ _ _ => answers_refused
    refine obeys_call_bind (fun _ _ => answers_error) trivial fun found => ?_
    have hread₁ := hread.mono
      (List.suffix_cons (⟨.providerGet req.workloadId c.componentId, .ok found⟩ : DiskDeed) ds)
    cases found with
    | none =>
      dsimp only
      split
      · exact hfail
      · exact ih hread₁ hrest
    | some provider =>
      refine Obeys.attempt_bind obeys_readComponentPayload ?_
      rintro ds₂ result ⟨hsuffix, hrecorded⟩
      cases result with
      | error e => exact hfail
      | ok payload =>
        -- This is where a provider gets its bytes.
        have hpermitted : AnchoredPermits files req ds₂ (.restore provider ctx payload) :=
          ⟨m, c, hread₁.mono hsuffix, hmem (.head _), hsuffix.subset (.head _), hrecorded _ rfl⟩
        refine obeys_call_attempt_bind hpermitted fun applied => ?_
        have hread₂ := (hread₁.mono hsuffix).mono
          (List.suffix_cons (⟨.restore provider ctx payload, applied⟩ : DiskDeed) ds₂)
        cases applied with
        | error e => exact hfail
        | ok _ =>
          refine obeys_call_attempt_bind trivial fun verified => ?_
          cases verified with
          | error e => exact hfail
          | ok _ => exact ih (hread₂.mono (List.suffix_cons _ _)) hrest

/-- A restore obeys what its reads, its refusals and the restoring of the components of an anchored
manifest obey. -/
theorem obeys_doRestore_of_components {permits : List DiskDeed → Op → Prop}
    {conclude : List DiskDeed → FabricResult NodeRestoreResult → Prop}
    (hfire : ∀ ds failpoint, permits ds (.fire failpoint))
    (hreads : ∀ ds op, op.Reads → permits ds op)
    (herror : ∀ ds e, conclude ds (.error e))
    (hrefused : ∀ ds text restored, conclude ds (.ok (refused req text restored)))
    (hcomponents : ∀ m ds ctx, AnchorRead files req ds m →
      Obeys permits conclude ds (restoreComponents files req ctx m.components [] [])) :
    Obeys permits conclude [] (doRestore files node req) := by
  refine obeys_call_bind herror (hfire _ _) fun _ => ?_
  refine obeys_call_attempt_bind (hreads _ _ trivial) fun shown => ?_
  cases shown with
  | error e => exact hrefused _ _ _
  | ok doc =>
    refine obeys_call_attempt_bind (hreads _ _ trivial) fun sidecar => ?_
    refine obeys_ite (fun _ => hrefused _ _ _) fun hanchor => ?_
    obtain ⟨hdigest, -⟩ := not_or.mp hanchor
    refine obeys_ofExcept_bind herror fun m hparse => ?_
    refine obeys_ite (fun _ => hrefused _ _ _) fun _ => ?_
    refine Obeys.bind herror (((Obeys.extend uses_verifyComponents
      fun _ _ _ => hreads _ _).and_returns returns_verifyComponents).weaken
        fun ds' result h failure hok => And.intro h.1 (h.2 failure hok)) ?_
    rintro ds₁ failure ⟨hsuffix, hreport⟩
    cases failure with
    | some report =>
      obtain ⟨text, restored, rfl⟩ := hreport report rfl
      exact hrefused _ _ _
    | none =>
      have hshown := hsuffix.subset (.tail _ (.head _))
      exact hcomponents m ds₁ _ ⟨_, doc, hshown, not_not.mp hdigest, hparse⟩

/-- Whatever the disk answers, a restore hands over nothing but anchored content, and reports what
the coordinator's model expects. -/
theorem obeys_doRestore : Obeys (AnchoredPermits files req) (fun _ result => Answers node req result)
    [] (doRestore files node req) :=
  obeys_doRestore_of_components (fun _ _ => trivial) (fun _ _ => anchoredPermits_of_reads)
    (fun _ _ => answers_error) (fun _ _ _ => answers_refused)
    fun _ _ _ hread => obeys_restoreComponents hread (List.Subset.refl _)

end Restore

/-- The node's answers are those that the coordinator's model of it gives for some outcome. -/
theorem doRestore_refines (hmem : req.checkpointId ∈ node.committed)
    {result : FabricResult NodeRestoreResult}
    (h : Follows (doRestore files node req) ds (.done result)) :
    ∃ o, (node.doRestore req o).1 = result :=
  obeys_doRestore.of_follows h hmem

/-- Let `doc` be a document with the anchor's digest that no document the disk has shown collides
with. Whatever the disk answers, every payload that a restore hands to a provider has the size and
the hash that the manifest in `doc` records for its component. -/
theorem restore_anchored {doc : Bytes} {provider : Provider} {ctx : RestoreContext} {payload : Bytes}
    {rest : FabricResult Unit → Work NodeRestoreResult}
    (hanchor : files.sha256Hex doc = req.expectedManifestDigest)
    (hfree : ∀ path doc', (⟨.read path, .ok doc'⟩ : DiskDeed) ∈ ds →
      files.sha256Hex doc' = files.sha256Hex doc → doc' = doc)
    (h : Follows (doRestore files node req) ds (.perform (.restore provider ctx payload) rest)) :
    ∃ m c, parse files doc = .ok m ∧ c ∈ m.components ∧
      (⟨.providerGet req.workloadId c.componentId, .ok (some provider)⟩ : DiskDeed) ∈ ds ∧
      payload.length = c.storageRepresentation.originalSize ∧
      files.sha256Hex payload = c.contentHash := by
  obtain ⟨m, c, ⟨path, doc', hread, hdigest, hparse⟩, hmem, hprovider, hrecorded⟩ :=
    (obeys_doRestore.of_follows h).1
  obtain rfl := hfree path doc' hread (hdigest.trans hanchor.symm)
  exact ⟨m, c, hparse, hmem, hprovider, hrecorded.size, hrecorded.content⟩

end Anchors

/-! ### A small replica

One component, stored as it is. Its manifest is the JSON text that the serializer writes, with notes
that are `null`, and the hashes are those of SHA-256. -/

namespace Demo

/-- The bytes of a manifest, as a file has them. -/
def bytesOf (m : Manifest) : Bytes :=
  (m.serialize fun _ => .null).text.flatMap String.utf8EncodeChar

theorem head?_bytesOf (m : Manifest) : (bytesOf m).head? = some 123 := rfl

/-- SHA-256, as far as it is known here. -/
def sha256 (hashes : List (Bytes × String)) (bytes : Bytes) : String :=
  (hashes.lookup bytes).getD ""

theorem sha256_self {hashes : List (Bytes × String)} {bytes : Bytes} {hash : String} :
    sha256 ((bytes, hash) :: hashes) bytes = hash := by
  rw [sha256, List.lookup_cons_self, Option.getD_some]

theorem sha256_of_head? {hashes : List (Bytes × String)} {bytes known : Bytes} {hash : String}
    (h : bytes.head? ≠ known.head?) :
    sha256 ((known, hash) :: hashes) bytes = sha256 hashes bytes := by
  have hne : (bytes == known) = false := by
    rw [beq_eq_false_iff_ne]
    rintro rfl
    exact h rfl
  rw [sha256, List.lookup_cons, hne, sha256]

/-- The libraries of a node, on these manifests and hashes. -/
def library (manifests : List Manifest) (hashes : List (Bytes × String)) : FileCodecs where
  toCanonical m := String.ofList (m.serialize fun _ => .null).text
  fromSlice doc := manifests.find? fun m => bytesOf m == doc
  sha256Hex := sha256 hashes
  crc32c := Transport.Demo.crc32c
  zstdDecode _ _ := .error "Unknown frame descriptor"

theorem sha256Hex_library {manifests : List Manifest} {hashes : List (Bytes × String)} :
    (library manifests hashes).sha256Hex = sha256 hashes := rfl

/-- What has a known hash is all that has it. -/
theorem eq_of_sha256 {hashes : List (Bytes × String)} {bytes known : Bytes}
    (hnodup : (hashes.map Prod.snd).Nodup) (hknown : sha256 hashes known ≠ "")
    (h : sha256 hashes bytes = sha256 hashes known) : bytes = known := by
  have hmem {key : Bytes} (hkey : sha256 hashes key ≠ "") : (key, sha256 hashes key) ∈ hashes := by
    unfold sha256 at hkey ⊢
    cases hlookup : hashes.lookup key with
    | none => simp [hlookup] at hkey
    | some hash =>
      obtain ⟨before, after, heq, -⟩ := List.lookup_eq_some_iff.mp hlookup
      simp [heq]
  have heq := List.inj_on_of_nodup_map hnodup (hmem (h ▸ hknown)) (hmem hknown) h
  exact congrArg Prod.fst heq

def payload : Bytes := utf8 "hi"

/-- The component `app` that has these bytes. -/
def entryOf (stored : Bytes) (hash : String) : ComponentEntry where
  componentId := "app"
  componentType := .applicationState
  generation := 0
  required := true
  logicalSize := stored.length
  storageRepresentation := ⟨"none", stored.length, stored.length, hash, "components/app"⟩
  contentHash := hash
  schemaVersion := 1
  restoreHandler := "application"
  compatibility := "null"
  dependencies := []
  captureStatus := "captured"
  restoreStatus := "pending"

def entry : ComponentEntry :=
  entryOf payload "8f434346648f6b96df89dda901c5176b10a6d83961dd3c1ac88b59b2dc327aa4"

/-- A manifest of checkpoint 2. -/
def manifestOf (components : List ComponentEntry) (root : String) : Manifest :=
  { CheckpointFabric.Demo.manifest root with components, metadata := "null" }

/-- What the root of a manifest is the hash of. -/
def hashed (m : Manifest) : Bytes :=
  utf8 (String.join (m.components.map (·.contentHash))) ++
    bytesOf { m with integrity := { m.integrity with root := "" } }

/-- A document of these manifests, whose root is the hash of what it should be, is parsed. -/
theorem parse_bytesOf {manifests : List Manifest} {hashes : List (Bytes × String)} {m : Manifest}
    (hfound : (manifests.find? fun m' => bytesOf m' == bytesOf m) = some m)
    (hversion : m.formatVersion = manifestFormatVersion)
    (hroot : sha256 hashes (hashed m) = m.integrity.root) :
    parse (library manifests hashes) (bytesOf m) = .ok m := by
  have hverified : m.verifyIntegrityRoot (library manifests hashes).codecs = true := by
    refine beq_iff_eq.mpr (Eq.trans ?_ hroot)
    exact congrArg (sha256 hashes) ((utf8_append _ _).trans (congrArg _ (utf8_ofList _)))
  rw [parse, show (library manifests hashes).fromSlice (bytesOf m) = some m from hfound]
  simp [hversion, hverified]

theorem mem_of_parse {manifests : List Manifest} {hashes : List (Bytes × String)} {doc : Bytes}
    {m : Manifest} (h : parse (library manifests hashes) doc = .ok m) : m ∈ manifests := by
  obtain ⟨hfound, -⟩ := Sealing.parse_eq_ok_iff.mp h
  exact List.mem_of_find?_eq_some hfound

def root : String := "e2758c1aaaeb8fd7862b85a857656dfee6691264d9e34782c3fe84f8eee5729c"

def manifest : Manifest := manifestOf [entry] root

/-- The file of the manifest. -/
def document : Bytes := bytesOf manifest

def digest : String := "8d1b38fe85b36dd25aa60cfda6a825c0e19ac5a7e07049ab3093a75d4943bb74"

def hashes : List (Bytes × String) :=
  [(payload, entry.contentHash), (hashed manifest, root), (document, digest)]

def files : FileCodecs := library [manifest] hashes

theorem sha256Hex_files : files.sha256Hex = sha256 hashes := sha256Hex_library

theorem hashes_nodup : (hashes.map Prod.snd).Nodup := by
  simp [hashes, entry, entryOf, root, digest]

theorem sha256_hashed : sha256 hashes (hashed manifest) = root := by
  rw [hashes, sha256_of_head? (by decide), sha256_self]

theorem sha256_document : sha256 hashes document = digest := by
  rw [hashes, sha256_of_head? (by decide), sha256_of_head? (by decide), sha256_self]

theorem sha256Hex_document : files.sha256Hex document = digest := by
  rw [sha256Hex_files, sha256_document]

theorem sha256Hex_payload : files.sha256Hex payload = entry.contentHash := by
  rw [sha256Hex_files, hashes, sha256_self]

theorem parse_document : parse files document = .ok manifest :=
  parse_bytesOf (by simp) rfl sha256_hashed

/-- No other document has the digest of the manifest. -/
theorem eq_document {doc : Bytes} (h : files.sha256Hex doc = files.sha256Hex document) :
    doc = document := by
  rw [sha256Hex_files] at h
  exact eq_of_sha256 hashes_nodup (by rw [sha256_document]; decide) h

/-- Nor has another payload the hash of the component. -/
theorem eq_payload {stored : Bytes} (h : files.sha256Hex stored = files.sha256Hex payload) :
    stored = payload :=
  eq_of_sha256 hashes_nodup (by rw [← sha256Hex_files, sha256Hex_payload]; decide) h

def node : NodeState := { nodeId := "n1", dataDir := "/data", committed := [2] }

def request : NodeRestoreRequest where
  attemptId := .restore 2 9
  checkpointId := 2
  workloadId := 7
  expectedManifestDigest := digest
  maxComponentBytes := none

/-- The manifest and the payload are in their places, and the component has provider 1. -/
def answer : (op : Op) → FabricResult op.Reply
  | .read path => .ok (if path = node.commitDir 2 ++ "/manifest" then document else payload)
  | .readText _ => .ok (digest ++ "\n")
  | .metadataLen _ => .ok 2
  | .isFile _ => .ok true
  | .pathExists _ => .ok false
  | .providerGet .. => .ok (some 1)
  | .fire _ | .openFile _ | .restore .. | .verifyRestore .. | .cleanupRestore ..
  | .insertPending .. => .ok ()

/-- What is left of a restore when the manifest is found to be the anchored one. -/
def applied (files : FileCodecs) (node : NodeState) (req : NodeRestoreRequest) (m : Manifest) :
    Work NodeRestoreResult := do
  match ← verifyComponents files req (node.commitDir req.checkpointId) m.components with
  | some failure => pure failure
  | none =>
    restoreComponents files req
      ⟨req.checkpointId, req.workloadId, req.attemptId, node.stagingDir req.attemptId,
        node.commitDir req.checkpointId⟩ m.components [] []

def manifestPath : String := s!"{node.commitDir request.checkpointId}/manifest"

def digestPath : String := s!"{node.commitDir request.checkpointId}/manifest.digest"

/-- The answers are those of a node that has the anchored manifest in its place. -/
structure Finds (files : FileCodecs) (req : NodeRestoreRequest) (doc : Bytes) (m : Manifest)
    (answer : (op : Op) → FabricResult op.Reply) : Prop where
  fire : answer (.fire "restore.node.before_apply") = .ok ()
  manifest : answer (.read s!"{node.commitDir req.checkpointId}/manifest") = .ok doc
  digest : answer (.readText s!"{node.commitDir req.checkpointId}/manifest.digest") =
    .ok (req.expectedManifestDigest ++ "\n")
  trimmed : trim (req.expectedManifestDigest ++ "\n") = req.expectedManifestDigest
  anchored : files.sha256Hex doc = req.expectedManifestDigest
  parsed : parse files doc = .ok m
  identity : m.checkpointId = req.checkpointId ∧ m.workloadId = req.workloadId

/-- The deeds by which the manifest is found. -/
def opening (req : NodeRestoreRequest) (doc : Bytes) : List DiskDeed :=
  [⟨.readText s!"{node.commitDir req.checkpointId}/manifest.digest",
      .ok (req.expectedManifestDigest ++ "\n")⟩,
    ⟨.read s!"{node.commitDir req.checkpointId}/manifest", .ok doc⟩,
    ⟨.fire "restore.node.before_apply", .ok ()⟩]

/-- How a restore finds the manifest. -/
theorem advance_doRestore {files : FileCodecs} {req : NodeRestoreRequest} {doc : Bytes}
    {m : Manifest} {answer : (op : Op) → FabricResult op.Reply} (h : Finds files req doc m answer)
    (n : ℕ) :
    Program.advance answer (n + 3) [] (doRestore files node req) =
      Program.advance answer n (opening req doc) (applied files node req m) := by
  obtain ⟨hcheckpoint, hworkload⟩ := h.identity
  unfold doRestore
  simp only [Program.advance, perform, Program.call, Program.bind_def, Program.attempt,
    Program.perform_andThen, Program.done_andThen, Program.onValue_ok, Program.ofExcept, h.fire,
    h.manifest, h.digest, h.anchored, h.trimmed, Except.toOption, Option.getD_some, ne_eq,
    not_true_eq_false, or_self, if_false, h.parsed, hcheckpoint, hworkload]
  rfl

theorem trim_digest : trim (digest ++ "\n") = digest := by decide +kernel

theorem finds_answer : Finds files request document manifest answer where
  fire := rfl
  manifest := congrArg Except.ok (if_pos rfl)
  digest := rfl
  trimmed := trim_digest
  anchored := sha256Hex_document
  parsed := parse_document
  identity := ⟨rfl, rfl⟩

/-- The deeds up to the call of the provider, and what is left to do. -/
def shown : List DiskDeed × Work NodeRestoreResult :=
  Program.advance answer 10 [] (doRestore files node request)

end Demo

/-- The bytes that a program hands to a provider next. -/
def handed {α : Type} : Work α → Option (Provider × Bytes)
  | .perform (.restore provider _ payload) _ => some (provider, payload)
  | _ => none

theorem exists_rest_of_handed {α : Type} {p : Work α} {provider : Provider} {payload : Bytes}
    (h : handed p = some (provider, payload)) :
    ∃ ctx rest, p = .perform (.restore provider ctx payload) rest := by
  unfold handed at h
  split at h
  · obtain ⟨rfl, rfl⟩ := Prod.mk.inj (Option.some.inj h)
    exact ⟨_, _, rfl⟩
  · cases h

/-- The small replica reaches its provider. -/
theorem restore_anchored_handed : handed Demo.shown.2 = some (1, Demo.payload) ∧
    ∃ m c, parse Demo.files Demo.document = .ok m ∧ c ∈ m.components ∧
      Demo.files.sha256Hex Demo.payload = c.contentHash := by
  have hhanded : handed Demo.shown.2 = some (1, Demo.payload) := by
    rw [Demo.shown, Demo.advance_doRestore Demo.finds_answer]
    decide +kernel
  have hfollows : Follows (doRestore Demo.files Demo.node Demo.request) Demo.shown.1 Demo.shown.2 :=
    follows_advance 10 .start
  obtain ⟨ctx, rest, hrest⟩ := exists_rest_of_handed hhanded
  obtain ⟨m, c, hparse, hmem, -, -, hcontent⟩ :=
    restore_anchored Demo.sha256Hex_document (fun _ _ _ => Demo.eq_document) (hrest ▸ hfollows)
  exact ⟨hhanded, m, c, hparse, hmem, hcontent⟩

end CheckpointFabric.Replica
