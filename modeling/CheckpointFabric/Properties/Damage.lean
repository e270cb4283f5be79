import CheckpointFabric.Alone.Basic
import CheckpointFabric.Properties.ComponentFiles
import CheckpointFabric.Properties.Verification
import CheckpointFabric.Serving
import CheckpointFabric.Steps.Checkpoints

/-!
# What a verification records

A verification asks a node to look at its replica, and records what the node says. The node parses
the manifest before it compares the digest with the anchor, and a manifest that cannot be parsed
ends the request with an error: of all damage, the one that no reader can miss is the one that is
not recorded.

## Main definitions

* `Committed` — what was committed for a checkpoint
* `Intact` — the files of a replica are those that were committed
* `VerifyStep` — the operations of a verification, whose node answers from a directory
* `Tellable` — the state of the directory comes out in the mark

## Main results

* `doVerify_ok_iff`, `doVerify_error_iff` — what the node says of its directory
* `verifyCheckpoint_recorded_iff` — when the mark agrees with the directory
-/

set_option autoImplicit false

namespace CheckpointFabric.Damage

open Concurrency Replica

/-- What was committed for a checkpoint: its manifest, and the stored payloads of the components. -/
structure Committed (files : FileCodecs) where
  doc : Bytes
  manifest : Manifest
  stored : ComponentEntry → Bytes
  parsed : parse files doc = .ok manifest
  hashed : ∀ c ∈ manifest.components, files.sha256Hex (stored c) = c.storageRepresentation.storedHash
  sized : ∀ c ∈ manifest.components, (stored c).length = c.storageRepresentation.storedSize
  placed : ∀ c ∈ manifest.components,
    c.storageRepresentation.relativePath = Staging.payloadPath c.componentId

namespace Committed

variable {files : FileCodecs} (committed : Committed files)

/-- The digest of the manifest, which the coordinator keeps as its anchor. -/
def digest : String := files.sha256Hex committed.doc

@[simp]
theorem doc_mk {doc : Bytes} {manifest : Manifest} {stored : ComponentEntry → Bytes}
    {parsed hashed sized placed} :
    (mk doc manifest stored parsed hashed sized placed : Committed files).doc = doc := rfl

/-- Nothing else has the digest of something that was committed. -/
def Unforged : Prop :=
  (∀ bytes, files.sha256Hex bytes = committed.digest → bytes = committed.doc) ∧
    ∀ c ∈ committed.manifest.components, ∀ bytes,
      files.sha256Hex bytes = c.storageRepresentation.storedHash → bytes = committed.stored c

end Committed

section Directories

variable {files : FileCodecs} (committed : Committed files) (commit : String) (dir : Directory)

/-- The stored payload of a component is the one that was committed. -/
def PayloadIntact (c : ComponentEntry) : Prop :=
  dir s!"{commit}/{c.storageRepresentation.relativePath}" = some (.file (committed.stored c))

/-- The files of the replica are those that were committed. -/
structure Intact : Prop where
  manifest : dir s!"{commit}/manifest" = some (.file committed.doc)
  sidecar : dir s!"{commit}/manifest.digest" = some (.file (utf8 s!"{committed.digest}\n"))
  payloads : ∀ c ∈ committed.manifest.components, PayloadIntact committed commit dir c

/-- The text of the digest sidecar as a verification reads it; a sidecar that is not there reads as
the empty text. -/
def sidecarText : String :=
  trim ((dir.answer (.readText s!"{commit}/manifest.digest")).toOption.getD "")

/-- There is no CRC-32C sidecar for the file, or it is the one of its bytes. -/
def CrcFits (files : FileCodecs) (path : String) (bytes : Bytes) : Prop :=
  dir (sidecarCrcPath path) = none ∨
    ∃ text, dir.answer (.readText (sidecarCrcPath path)) = .ok text ∧
      crcHex (files.crc32c bytes) = trim text

/-- The CRC-32C sidecars that are there are those of the committed payloads. -/
def CrcsFit : Prop :=
  ∀ c ∈ committed.manifest.components,
    CrcFits dir files s!"{commit}/{c.storageRepresentation.relativePath}" (committed.stored c)

end Directories

section Verdict

variable {files : FileCodecs} {commit path : String} {dir : Directory}

theorem answer_read_eq_ok {bytes : Bytes} :
    dir.answer (.read path) = .ok bytes ↔ dir path = some (.file bytes) := by
  simp only [Directory.answer]
  cases dir path with
  | none => simp
  | some entry =>
    cases entry with
    | file stored => simp
    | directory => simp

theorem on_ensure {condition : Prop} [Decidable condition] {e : FabricError} :
    dir.on (Program.ensure condition e) = .ok () ↔ condition := by
  by_cases h : condition
  · rw [Program.ensure, if_pos h]
    exact iff_of_true rfl h
  · rw [Program.ensure, if_neg h]
    refine iff_of_false (fun hok => ?_) h
    cases hok

/-- A file is read whole to be hashed. -/
theorem on_fileHash {β : Type} {hash : Bytes → β} {g g' : FabricError → FabricError} {b : β} :
    dir.on (do
      (perform (.openFile path)).mapError g
      let bytes ← (perform (.read path)).mapError g'
      pure (hash bytes)) = .ok b ↔ ∃ bytes, dir path = some (.file bytes) ∧ hash bytes = b := by
  rw [on_bind_eq_ok]
  constructor
  · rintro ⟨_, -, hrest⟩
    obtain ⟨bytes, hread, hhash⟩ := on_bind_eq_ok.mp hrest
    rw [on_mapError_eq_ok, on_perform, answer_read_eq_ok] at hread
    exact ⟨bytes, hread, Except.ok.inj hhash⟩
  · rintro ⟨bytes, hfile, rfl⟩
    refine ⟨(), on_mapError_eq_ok.mpr ?_, on_bind_eq_ok.mpr ⟨bytes, on_mapError_eq_ok.mpr ?_, rfl⟩⟩
    · rw [on_perform, Directory.answer, hfile]
      rfl
    · rw [on_perform, answer_read_eq_ok, hfile]

theorem on_checkSize {bytes : Bytes} {size : ℕ} (hfile : dir path = some (.file bytes)) :
    dir.on (checkSize path (some size)) = .ok () ↔ bytes.length = size := by
  have hlength : dir.answer (.metadataLen path) = .ok bytes.length := by
    simp only [Directory.answer, hfile]
  unfold checkSize
  rw [on_bind_eq_ok]
  constructor
  · rintro ⟨len, hlen, hsize⟩
    rw [on_mapError_eq_ok, on_perform, hlength] at hlen
    obtain rfl := Except.ok.inj hlen
    exact on_ensure.mp hsize
  · intro hsize
    refine ⟨bytes.length, on_mapError_eq_ok.mpr ?_, on_ensure.mpr hsize⟩
    rw [on_perform, hlength]

theorem on_checkCrc {bytes : Bytes} (hfile : dir path = some (.file bytes)) :
    dir.on (checkCrc files path) = .ok () ↔ CrcFits dir files path bytes := by
  have hasked : dir.on (asks (perform (.pathExists (sidecarCrcPath path)))) =
      .ok (dir (sidecarCrcPath path)).isSome := by
    rw [asks, on_andThen, on_perform]
    rfl
  unfold checkCrc CrcFits
  rw [on_bind_eq_ok]
  constructor
  · rintro ⟨asked, hanswer, hrest⟩
    obtain rfl := Except.ok.inj (hasked.symm.trans hanswer)
    split at hrest
    · obtain ⟨text, htext, hcompared⟩ := on_bind_eq_ok.mp hrest
      rw [on_mapError_eq_ok, on_perform] at htext
      obtain ⟨crc, hcrc, hequal⟩ := on_bind_eq_ok.mp hcompared
      obtain ⟨bytes', hfile', rfl⟩ := on_fileHash.mp hcrc
      obtain ⟨⟩ := hfile.symm.trans hfile'
      exact .inr ⟨text, htext, on_ensure.mp hequal⟩
    · rename_i hmissing
      exact .inl (Option.not_isSome_iff_eq_none.mp hmissing)
  · intro hfits
    refine ⟨_, hasked, ?_⟩
    rcases hfits with hmissing | ⟨text, htext, hequal⟩
    · rw [hmissing]
      rfl
    · have hthere : (dir (sidecarCrcPath path)).isSome = true := by
        cases hentry : dir (sidecarCrcPath path) with
        | none =>
          simp only [Directory.answer, hentry] at htext
          cases htext
        | some entry => rfl
      rw [hthere, if_pos rfl]
      refine on_bind_eq_ok.mpr ⟨text, on_mapError_eq_ok.mpr htext, ?_⟩
      exact on_bind_eq_ok.mpr ⟨_, on_fileHash.mpr ⟨bytes, hfile, rfl⟩, on_ensure.mpr hequal⟩

/-- What a stored payload has to be for its verification to succeed. -/
theorem on_verifyStoredFile {hash : String} {size : ℕ} :
    dir.on (verifyStoredFile files path hash (some size)) = .ok () ↔
      ∃ bytes, dir path = some (.file bytes) ∧ bytes.length = size ∧
        CrcFits dir files path bytes ∧ files.sha256Hex bytes = hash := by
  constructor
  · intro h
    obtain ⟨bytes, hfile⟩ := isFile_of_verified h
    obtain ⟨_, hsize, hafterSize⟩ := on_bind_eq_ok.mp h
    obtain ⟨_, hcrc, hafterCrc⟩ := on_bind_eq_ok.mp hafterSize
    obtain ⟨digest, hdigest, hequal⟩ := on_bind_eq_ok.mp hafterCrc
    obtain ⟨bytes', hfile', rfl⟩ := on_fileHash.mp hdigest
    obtain ⟨⟩ := hfile.symm.trans hfile'
    exact ⟨bytes, hfile, (on_checkSize hfile).mp hsize, (on_checkCrc hfile).mp hcrc,
      on_ensure.mp hequal⟩
  · rintro ⟨bytes, hfile, hsize, hfits, hequal⟩
    refine on_bind_eq_ok.mpr ⟨(), (on_checkSize hfile).mpr hsize, ?_⟩
    refine on_bind_eq_ok.mpr ⟨(), (on_checkCrc hfile).mpr hfits, ?_⟩
    exact on_bind_eq_ok.mpr ⟨_, on_fileHash.mpr ⟨bytes, hfile, rfl⟩, on_ensure.mpr hequal⟩

/-- The pass over the components always comes to a verdict. -/
theorem on_checkComponents (components : List ComponentEntry) :
    ∃ failed, dir.on (checkComponents files commit components) = .ok failed := by
  induction components with
  | nil => exact ⟨none, rfl⟩
  | cons c components ih =>
    unfold checkComponents
    cases safeJoin commit c.storageRepresentation.relativePath with
    | error e => exact ⟨_, rfl⟩
    | ok path =>
      dsimp only
      rw [on_attempt_bind]
      cases dir.on (verifyStoredFile files path c.storageRepresentation.storedHash
          (some c.storageRepresentation.storedSize)) with
      | error e => exact ⟨_, rfl⟩
      | ok _ => exact ih

theorem on_checkComponents_eq_none {components : List ComponentEntry}
    (hplaced : ∀ c ∈ components,
      c.storageRepresentation.relativePath = Staging.payloadPath c.componentId) :
    dir.on (checkComponents files commit components) = .ok none ↔
      ∀ c ∈ components, dir.on (verifyStoredFile files
        s!"{commit}/{c.storageRepresentation.relativePath}" c.storageRepresentation.storedHash
        (some c.storageRepresentation.storedSize)) = .ok () := by
  induction components with
  | nil => exact iff_of_true rfl fun _ hc => absurd hc List.not_mem_nil
  | cons c components ih =>
    obtain ⟨hpath, hrest⟩ := List.forall_mem_cons.mp hplaced
    have hjoin : safeJoin commit c.storageRepresentation.relativePath =
        .ok s!"{commit}/{c.storageRepresentation.relativePath}" := by
      rw [hpath]
      exact Staging.safeJoin_payloadPath commit c.componentId
    unfold checkComponents
    rw [hjoin, List.forall_mem_cons, ← ih hrest]
    dsimp only
    rw [on_attempt_bind]
    cases dir.on (verifyStoredFile files s!"{commit}/{c.storageRepresentation.relativePath}"
        c.storageRepresentation.storedHash (some c.storageRepresentation.storedSize)) with
    | error e =>
      refine iff_of_false (fun h => ?_) fun h => ?_
      · cases h
      · cases h.1
    | ok _ => exact (and_iff_right rfl).symm

end Verdict

section Node

variable {files : FileCodecs} {node : NodeState} {dir : Directory} {id : Id}

/-- The replica passes every check of a verification. -/
structure Passes (committed : Committed files) (commit : String) (dir : Directory) : Prop where
  manifest : dir s!"{commit}/manifest" = some (.file committed.doc)
  sidecar : sidecarText commit dir = committed.digest
  payloads : ∀ c ∈ committed.manifest.components, PayloadIntact committed commit dir c
  crcs : CrcsFit committed commit dir

/-- The manifest on the disk is a file that cannot be parsed. -/
def Unparsable (files : FileCodecs) (commit : String) (dir : Directory) : Prop :=
  ∃ bytes e, dir s!"{commit}/manifest" = some (.file bytes) ∧ parse files bytes = .error e

variable (committed : Committed files)

theorem not_unparsable {commit : String}
    (h : dir s!"{commit}/manifest" = some (.file committed.doc)) : ¬ Unparsable files commit dir := by
  rintro ⟨bytes, e, hfile, hparse⟩
  obtain ⟨⟩ := h.symm.trans hfile
  cases committed.parsed.symm.trans hparse

theorem checkComponents_iff_payloads {commit : String} (hunforged : committed.Unforged) :
    dir.on (checkComponents files commit committed.manifest.components) = .ok none ↔
      (∀ c ∈ committed.manifest.components, PayloadIntact committed commit dir c) ∧
        CrcsFit committed commit dir := by
  rw [on_checkComponents_eq_none committed.placed, CrcsFit, ← forall₂_and]
  refine forall₂_congr fun c hc => ?_
  rw [on_verifyStoredFile]
  constructor
  · rintro ⟨bytes, hfile, -, hfits, hhash⟩
    obtain rfl := hunforged.2 c hc bytes hhash
    exact ⟨hfile, hfits⟩
  · rintro ⟨hfile, hfits⟩
    exact ⟨_, hfile, committed.sized c hc, hfits, committed.hashed c hc⟩

/-- What a node answers to a verification: an error for a manifest that it cannot parse, and else
whether all the checks have passed. -/
theorem on_doVerify (hunforged : committed.Unforged) :
    (Unparsable files (node.commitDir id) dir ∧
      ∃ e, dir.on (doVerify files node ⟨id, committed.digest⟩) = .error e) ∨
    (¬ Unparsable files (node.commitDir id) dir ∧
      ∃ r, dir.on (doVerify files node ⟨id, committed.digest⟩) = .ok r ∧
        (r.ok = true → r.manifestDigest = some committed.digest) ∧
        (r.ok = true ↔ Passes committed (node.commitDir id) dir)) := by
  have hrefused {r : NodeVerifyResult} (hok : r.ok = false)
      (hnot : ¬ Passes committed (node.commitDir id) dir) :
      (r.ok = true → r.manifestDigest = some committed.digest) ∧
        (r.ok = true ↔ Passes committed (node.commitDir id) dir) := by
    rw [hok]
    exact ⟨Bool.noConfusion, iff_of_false Bool.noConfusion hnot⟩
  unfold doVerify
  dsimp only
  rw [on_attempt_bind]
  cases hread : dir.on (perform (.read s!"{node.commitDir id}/manifest")) with
  | error e =>
    have hmissing (bytes : Bytes) : dir s!"{node.commitDir id}/manifest" ≠ some (.file bytes) := by
      intro hfile
      rw [on_perform, answer_read_eq_ok.mpr hfile] at hread
      cases hread
    refine .inr ⟨?_, _, rfl, hrefused rfl fun h => hmissing _ h.manifest⟩
    rintro ⟨bytes, -, hfile, -⟩
    exact hmissing bytes hfile
  | ok bytes =>
    rw [on_perform, answer_read_eq_ok] at hread
    dsimp only
    cases hparse : parse files bytes with
    | error e => exact .inl ⟨⟨bytes, e, hread, hparse⟩, e, rfl⟩
    | ok m =>
      refine .inr ⟨?_, ?_⟩
      · rintro ⟨bytes', e, hfile, herror⟩
        obtain ⟨⟩ := hread.symm.trans hfile
        cases hparse.symm.trans herror
      rw [on_ofExcept_bind, on_attempt_bind, on_perform]
      by_cases hanchor : trim ((dir.answer (.readText
          s!"{node.commitDir id}/manifest.digest")).toOption.getD "") ≠ files.sha256Hex bytes ∨
          files.sha256Hex bytes ≠ committed.digest
      · rw [if_pos hanchor]
        refine ⟨_, rfl, hrefused rfl fun h => ?_⟩
        obtain ⟨⟩ := hread.symm.trans h.manifest
        exact hanchor.elim (fun hne => hne h.sidecar) fun hne => hne rfl
      · rw [if_neg hanchor]
        obtain ⟨hsidecar, hdigest⟩ := not_or.mp hanchor
        have hdigest : files.sha256Hex bytes = committed.digest := not_not.mp hdigest
        have htext : sidecarText (node.commitDir id) dir = committed.digest :=
          (not_not.mp hsidecar).trans hdigest
        -- The document is the committed one, and so are its components.
        obtain rfl := hunforged.1 bytes hdigest
        obtain rfl := Except.ok.inj (committed.parsed.symm.trans hparse)
        obtain ⟨failed, hfailed⟩ : ∃ failed, dir.on (checkComponents files (node.commitDir id)
          committed.manifest.components) = .ok failed := on_checkComponents _
        refine ⟨⟨id, failed.isNone, failed, some (files.sha256Hex committed.doc)⟩,
          on_bind_eq_ok.mpr ⟨failed, hfailed, rfl⟩, fun _ => rfl, ?_⟩
        rw [Option.isNone_iff_eq_none]
        have hverdict : dir.on (checkComponents files (node.commitDir id)
          committed.manifest.components) = .ok none ↔ _ :=
          checkComponents_iff_payloads committed hunforged
        rw [hfailed, Except.ok.injEq] at hverdict
        refine hverdict.trans ⟨?_, ?_⟩
        · rintro ⟨hpayloads, hcrcs⟩
          exact ⟨hread, htext, hpayloads, hcrcs⟩
        · intro h
          exact ⟨h.payloads, h.crcs⟩

end Node

section Marks

variable {files : FileCodecs} (committed : Committed files) (commit : String) (dir : Directory)

/-- The mark agrees with the directory. -/
structure Recorded (result : FabricResult NodeVerifyResult) (mark : Option IntegrityState) :
    Prop where
  valid : Intact committed commit dir → mark = some .valid
  corrupt : ¬ Intact committed commit dir → mark = some .corrupt
  noError : ¬ Intact committed commit dir → ∀ e, result = .error e → mark ≠ some .valid

/-- The state of the directory comes out in the mark, which was `before`. -/
structure Tellable (before : IntegrityState) : Prop where
  /-- A manifest that cannot be parsed is met in a checkpoint that is marked already. -/
  parsable : Unparsable files commit dir → before = .corrupt
  /-- The digest sidecar is not all that has changed, and in nothing but the white space around
  it. -/
  sidecar : dir s!"{commit}/manifest" = some (.file committed.doc) →
    (∀ c ∈ committed.manifest.components, PayloadIntact committed commit dir c) →
    CrcsFit committed commit dir → sidecarText commit dir = committed.digest →
    dir s!"{commit}/manifest.digest" = some (.file (utf8 s!"{committed.digest}\n"))
  /-- The CRC-32C sidecars are not all that has changed. -/
  crcs : Intact committed commit dir → CrcsFit committed commit dir

variable {committed commit dir}

theorem decodeText_utf8 (text : String) : decodeText (utf8 text) = .ok text := by
  have hdecoded : String.fromUTF8? ⟨text.toUTF8.data.toList.toArray⟩ = some text := by
    have hbytes : (⟨text.toUTF8.data.toList.toArray⟩ : ByteArray) = text.toUTF8 := by simp
    rw [hbytes, String.fromUTF8?, dif_pos]
    rfl
  rw [decodeText, utf8, hdecoded]

/-- A sidecar that is as it was written reads as the digest. -/
theorem Intact.sidecarText_eq (h : Intact committed commit dir)
    (hhex : ∀ c ∈ committed.digest.toList, isWhiteSpace c = false) :
    sidecarText commit dir = committed.digest := by
  have hread : dir.answer (.readText s!"{commit}/manifest.digest") =
      .ok (committed.digest ++ "\n") := by
    simp only [Directory.answer, h.sidecar]
    exact decodeText_utf8 _
  rw [sidecarText, hread]
  exact Staging.trim_line hhex

/-- The node's verdict is right iff the state of the directory can be told from what it looks at. -/
theorem recorded_iff {result : FabricResult NodeVerifyResult} {before : IntegrityState}
    {mark : Option IntegrityState} (hhex : ∀ c ∈ committed.digest.toList, isWhiteSpace c = false)
    (hmark : (Unparsable files commit dir ∧ mark = some before) ∨
      (¬ Unparsable files commit dir ∧ (Passes committed commit dir → mark = some .valid) ∧
        (¬ Passes committed commit dir → mark = some .corrupt))) :
    Recorded committed commit dir result mark ↔ Tellable committed commit dir before := by
  -- A manifest that does not parse ends the verification with an error, before any mark is set.
  rcases hmark with ⟨hunparsable, rfl⟩ | ⟨hparsable, hvalid, hcorrupt⟩
  · have hdamaged : ¬ Intact committed commit dir := fun h =>
      not_unparsable committed h.manifest hunparsable
    constructor
    · intro h
      refine ⟨fun _ => Option.some.inj (h.corrupt hdamaged), fun hmanifest => ?_, fun h => ?_⟩
      · exact absurd hunparsable (not_unparsable committed hmanifest)
      · exact absurd h hdamaged
    · intro h
      obtain rfl := h.parsable hunparsable
      exact ⟨fun h => absurd h hdamaged, fun _ => rfl, fun _ _ _ => by simp⟩
  -- Otherwise the mark says whether the checks passed, so damage shows exactly when they fail on
  -- it.
  · have hiff : Tellable committed commit dir before ↔
        (Intact committed commit dir ↔ Passes committed commit dir) := by
      constructor
      · intro h
        constructor
        · intro hintact
          exact ⟨hintact.manifest, hintact.sidecarText_eq hhex, hintact.payloads, h.crcs hintact⟩
        · intro hpasses
          refine ⟨hpasses.manifest, ?_, hpasses.payloads⟩
          exact h.sidecar hpasses.manifest hpasses.payloads hpasses.crcs hpasses.sidecar
      · intro h
        refine ⟨fun hunparsable => absurd hunparsable hparsable, ?_, fun hintact => ?_⟩
        · intro hmanifest hpayloads hcrcs hsidecar
          exact (h.mpr ⟨hmanifest, hsidecar, hpayloads, hcrcs⟩).sidecar
        · exact (h.mp hintact).crcs
    rw [hiff]
    by_cases hpasses : Passes committed commit dir
    · obtain rfl := hvalid hpasses
      constructor
      · intro h
        refine iff_of_true ?_ hpasses
        by_contra hdamaged
        cases h.corrupt hdamaged
      · intro h
        have hintact := h.mpr hpasses
        exact ⟨fun _ => rfl, fun hnot => absurd hintact hnot, fun hnot => absurd hintact hnot⟩
    · obtain rfl := hcorrupt hpasses
      constructor
      · intro h
        refine iff_of_false (fun hintact => ?_) hpasses
        cases h.valid hintact
      · intro h
        have hdamaged : ¬ Intact committed commit dir := fun hintact => hpasses (h.mp hintact)
        exact ⟨fun hintact => absurd hintact hdamaged, fun _ => rfl, fun _ _ _ => by simp⟩

end Marks

section Coordinator

open Coordinator Fabric

variable (settings : Settings) (files : FileCodecs) (node : NodeState) (dir : Directory)

/-- What the node says to a verification, it says of its directory. -/
def Answers : (op : Op) → FabricResult op.Reply → Prop
  | .call _ (.verify req), reply =>
    reply = World.parseReply (.verify req) (dir.on (doVerify files node req))
  | _, _ => True

/-- An operation of a verification that runs alone; the call reaches the node, and the answer
arrives. -/
def VerifyStep (op : Op) (w : World) (reply : FabricResult op.Reply) (w' : World) : Prop :=
  System.AloneStep (S := fabric settings) Op.Sound op w reply w' ∧ Answers files node dir op reply

/-- The node is listed as ACTIVE. -/
def Listed (store : Store) (node : NodeId) : Prop :=
  (store.nodeList.any fun n => n.id == node && n.status == .active) = true

/-- The verification of the checkpoint gets as far as a node. -/
structure Reaches (ctx : OperationContext) (w : World) (c : CheckpointObject) : Prop where
  authorized : settings.policy.authorize ctx.roles settings.policy.authority.verify = .ok ()
  live : c.lifecycle ≠ .failed
  chosen : ∃ l ∈ c.durableLocations, Listed w.store l.node

/-- What the operations do to a snapshot. -/
def SnapshotStep (op : Op) (s : Snapshot) (reply : FabricResult op.Reply) (s' : Snapshot) : Prop :=
  Snapshot.Step op s reply s' ∧ Answers files node dir op reply

variable {settings files node dir} {α β : Type} {s : Snapshot}

theorem snapshotStep_le (op : Op) (s : Snapshot) (reply : FabricResult op.Reply) (s' : Snapshot)
    (h : SnapshotStep files node dir op s reply s') : Snapshot.Step op s reply s' := h.1

theorem ends_nodeIsActive (name : NodeId) : Ends Snapshot.Step (fun result s' =>
    s'.store = s.store ∧ ∃ active, result = .ok active ∧ (active = true ↔ Listed s.store name))
    (nodeIsActive name) s :=
  ends_db_bind (fun _ => rfl) fun _ _ _ _ => ⟨rfl, _, rfl, Iff.rfl⟩

/-- A node is found as long as there is one. -/
theorem ends_firstActive {locations : List DurableLocation}
    (h : ∃ l ∈ locations, Listed s.store l.node) : Ends Snapshot.Step (fun result s' =>
      s'.store = s.store ∧ ∃ name, result = .ok (some name) ∧ Listed s.store name)
      (firstActive locations) s := by
  induction locations generalizing s with
  | nil =>
    obtain ⟨l, hl, -⟩ := h
    cases hl
  | cons l locations ih =>
    unfold firstActive
    refine (ends_nodeIsActive l.node).attempt_bind ?_
    rintro _ s₁ ⟨hstore, active, rfl, hactive⟩
    cases active with
    | true => exact ⟨hstore, l.node, rfl, hactive.mp rfl⟩
    | false =>
      obtain ⟨l', hl', hlisted⟩ := h
      rcases List.mem_cons.mp hl' with rfl | hl'
      · cases hactive.mpr hlisted
      · have hrest := ih (s := s₁) ⟨l', hl', hstore ▸ hlisted⟩
        rw [hstore] at hrest
        exact hrest

/-- A node that is listed has an address. -/
theorem ends_nodeAddr {name : NodeId} (h : Listed s.store name) : Ends Snapshot.Step
    (fun result s' => s'.store = s.store ∧ ∃ addr, result = .ok addr) (nodeAddr name) s := by
  refine ends_db_bind (fun _ => rfl) fun now n _ _ => ?_
  obtain ⟨record, hmem, hrecord⟩ := List.any_eq_true.mp h
  have hid := (Bool.and_eq_true_iff.mp hrecord).1
  cases hfound : s.store.nodeList.find? fun n => n.id == name with
  | none => exact absurd hid (List.find?_eq_none.mp hfound record hmem)
  | some found =>
    exact ⟨rfl, found.addr, rfl⟩

/-- A part that is run on snapshots whose nodes answer freely. -/
theorem ends_free_bind {p : Fabric α} {f : α → Fabric β} {middle : FabricResult α → Snapshot → Prop}
    {post : FabricResult β → Snapshot → Prop} (hp : Ends Snapshot.Step middle p s)
    (hok : ∀ a s', middle (.ok a) s' → Ends (SnapshotStep files node dir) post (f a) s')
    (herror : ∀ e s', middle (.error e) s' → post (.error e) s') :
    Ends (SnapshotStep files node dir) post (p >>= f) s :=
  Ends.bind (hp.of_step snapshotStep_le) hok herror

theorem ends_callNode {name : NodeId} {req : NodeVerifyRequest} (h : Listed s.store name) :
    Ends (SnapshotStep files node dir) (fun result s' => s'.store = s.store ∧
      result = World.parseReply (.verify req) (dir.on (doVerify files node req)))
      (callNode name (.verify req)) s := by
  refine ends_free_bind (ends_nodeAddr h) ?_ ?_
  · rintro addr s₁ ⟨hstore, -⟩ reply s₂ ⟨hstep, hanswer⟩
    exact ⟨(hstep.store_of_quiet trivial).trans hstore, hanswer⟩
  · rintro e s₁ ⟨-, addr, ⟨⟩⟩

variable {committed : Committed files} {id : Id} {c : CheckpointObject} {ctx : OperationContext}
  {w w' : World}

/-- The mark follows the node: an error leaves it as it was. -/
theorem ends_verifyCheckpoint (hunforged : committed.Unforged)
    (hrow : s.store.checkpoints.get id = some c) (hanchor : c.manifestDigest = some committed.digest)
    (hauthorized : settings.policy.authorize ctx.roles settings.policy.authority.verify = .ok ())
    (hlive : c.lifecycle ≠ .failed) (hchosen : ∃ l ∈ c.durableLocations, Listed s.store l.node) :
    Ends (SnapshotStep files node dir) (fun _ s' =>
      (Unparsable files (node.commitDir id) dir ∧ s'.store = s.store) ∨
      (¬ Unparsable files (node.commitDir id) dir ∧
        (Passes committed (node.commitDir id) dir →
          s'.store = s.store.checkpointSetIntegrity id .valid) ∧
        (¬ Passes committed (node.commitDir id) dir →
          s'.store = s.store.checkpointSetIntegrity id .corrupt)))
      (verifyCheckpoint settings id ctx) s := by
  unfold verifyCheckpoint
  rw [hauthorized]
  refine ends_ofExcept_bind.mpr ⟨fun _ _ => ?_, by rintro _ ⟨⟩⟩
  have hfound : Ends Snapshot.Step (fun result s' => s'.store = s.store ∧
      result = .ok (Store.readCheckpoint c)) (requireCheckpoint id) s := by
    refine ends_db_bind (fun _ => rfl) fun now n _ _ => ?_
    rw [Store.checkpointGet, hrow]
    exact ⟨rfl, rfl⟩
  refine ends_free_bind hfound ?_ ?_
  · rintro _ s₁ ⟨hstore₁, ⟨⟩⟩
    refine ends_ensure_bind.mpr ⟨fun _ => ?_, fun hfailed => absurd hlive hfailed⟩
    rw [← hstore₁] at hchosen
    refine ends_free_bind (ends_firstActive hchosen) ?_ ?_
    · rintro _ s₂ ⟨hstore₂, name, ⟨⟩, hlisted⟩
      have hdigest : (Store.readCheckpoint c).manifestDigest = some committed.digest := hanchor
      rw [hdigest]
      change Ends _ _ (callNode name (.verify ⟨id, committed.digest⟩) >>= _) _
      rw [← hstore₂] at hlisted
      have hstore₂ : s₂.store = s.store := hstore₂.trans hstore₁
      refine Ends.bind (ends_callNode hlisted) ?_ ?_
      · rintro r s₃ ⟨hstore₃, hanswer⟩
        have hstore₃ : s₃.store = s.store := hstore₃.trans hstore₂
        rcases on_doVerify committed hunforged with ⟨-, e, herror⟩ | ⟨hparsable, r', hok, hdigest, hpasses⟩
        · rw [herror] at hanswer
          cases hanswer
        · rw [hok] at hanswer
          obtain rfl := Except.ok.inj hanswer
          -- A result that is right names the anchor, so that the coordinator takes it over.
          have hkept : (if r.ok && r.manifestDigest != some committed.digest then
              { r with
                ok := false
                error := some "node verification did not match coordinator manifest anchor" }
              else r) = r := by
            refine if_neg fun hwrong => ?_
            obtain ⟨hok, hne⟩ := Bool.and_eq_true_iff.mp hwrong
            rw [hdigest hok] at hne
            simp at hne
          rw [hkept]
          rintro reply s₄ ⟨hstep, -⟩
          have hstored : s₄.store = s₃.store.checkpointSetIntegrity id
              (if r.ok then .valid else .corrupt) := by
            rcases hstep.db_cases with ⟨value, -, hrun⟩ | ⟨e, -, hrun, -⟩
            · exact (Prod.mk.inj (Except.ok.inj hrun)).2.symm
            · cases hrun
          have hpost : ¬ Unparsable files (node.commitDir id) dir ∧
              (Passes committed (node.commitDir id) dir →
                s₄.store = s.store.checkpointSetIntegrity id .valid) ∧
              (¬ Passes committed (node.commitDir id) dir →
                s₄.store = s.store.checkpointSetIntegrity id .corrupt) := by
            rw [hstored, hstore₃]
            refine ⟨hparsable, fun hpass => ?_, fun hfail => ?_⟩
            · rw [if_pos (hpasses.mpr hpass)]
            · rw [if_neg fun hok => hfail (hpasses.mp hok)]
          cases reply with
          | ok _ => exact .inr hpost
          | error e => exact .inr hpost
      · rintro e s₃ ⟨hstore₃, hanswer⟩
        rcases on_doVerify committed hunforged with ⟨hunparsable, -⟩ | ⟨-, r', hok, -⟩
        · exact .inl ⟨hunparsable, hstore₃.trans hstore₂⟩
        · rw [hok] at hanswer
          cases hanswer
    · rintro e s₂ ⟨-, name, ⟨⟩, -⟩
  · rintro e s₁ ⟨-, ⟨⟩⟩

/-- When a verification reaches a node and is answered, the mark that it leaves agrees with the
directory of the node iff the state of the directory can be told: the manifest parses or the mark
was CORRUPT before, and neither the white space of the digest sidecar nor a CRC-32C sidecar is all
that has changed. -/
theorem verifyCheckpoint_recorded_iff (hunforged : committed.Unforged)
    (hhex : ∀ ch ∈ committed.digest.toList, isWhiteSpace ch = false)
    (hrow : w.checkpoint id = some c) (hanchor : c.manifestDigest = some committed.digest)
    (hreaches : Reaches settings ctx w c) (result : FabricResult NodeVerifyResult)
    (hruns : Runs (VerifyStep settings files node dir) (verifyCheckpoint settings id ctx) w
      result w') :
    Recorded committed (node.commitDir id) dir result ((w'.checkpoint id).map (·.integrityState)) ↔
      Tellable committed (node.commitDir id) dir c.integrityState := by
  have hsnapshot : Runs (SnapshotStep files node dir) (verifyCheckpoint settings id ctx) w.snapshot
      result w'.snapshot := by
    refine hruns.map fun op w₁ reply w₂ hstep => ?_
    exact ⟨step_of_aloneStep hstep.1, hstep.2⟩
  have hget : w.snapshot.store.checkpoints.get id = some c := hrow
  have hends := ends_iff.mp (ends_verifyCheckpoint hunforged hget hanchor hreaches.authorized
    hreaches.live hreaches.chosen) _ _ hsnapshot
  have hmark (state : IntegrityState) :
      ((w.store.checkpointSetIntegrity id state).checkpoints.get id).map (·.integrityState) =
        some state := by
    rw [Store.checkpointSetIntegrity, Store.get_updateCheckpoint, if_pos rfl,
      show w.store.checkpoints.get id = some c from hrow]
    rfl
  refine recorded_iff hhex ?_
  rcases hends with ⟨hunparsable, hstore⟩ | ⟨hparsable, hpass, hfail⟩
  · refine .inl ⟨hunparsable, ?_⟩
    rw [World.checkpoint, show w'.store = w.store from hstore,
      show w.store.checkpoints.get id = some c from hrow]
    rfl
  · refine .inr ⟨hparsable, fun h => ?_, fun h => ?_⟩
    · rw [World.checkpoint, show w'.store = _ from hpass h]
      exact hmark .valid
    · rw [World.checkpoint, show w'.store = _ from hfail h]
      exact hmark .corrupt

end Coordinator

section Answering

open Coordinator Fabric

variable (settings : Settings) (files : FileCodecs) (node : NodeState) (dir : Directory)

/-- How the node of the model comes to such an answer. -/
def outcomeOf : FabricResult NodeVerifyResult → Outcome
  | .ok r => { failure := r.error, manifestDigest := r.manifestDigest }
  | .error e => { fault := some e }

/-- The plain input, but that a node verifies its directory. -/
def inputOf : Op → Input
  | .call _ (.verify req) =>
    { delivery := .answered (outcomeOf (dir.on (doVerify files node req))) }
  | _ => {}

/-- The node that is called has taken over the epoch of the coordinator. -/
def adopting : Op → World → World
  | .call name _, w => World.move settings.codecs (.adopt name w.coordinatorEpoch) w
  | _, w => w

/-- One way in which an operation of a verification can go. -/
def verifyAnswer (op : Op) (w : World) : FabricResult op.Reply × World :=
  World.handle settings.codecs op (inputOf files node dir op) (adopting settings op w)

variable {settings files node dir}

theorem on_returns {α : Type} {post : α → Prop} {p : Work α} {a : α} (h : Returns post p)
    (hon : dir.on p = .ok a) : post a := by
  induction p with
  | done result => exact h a hon
  | perform op rest ih => exact ih _ (h _) hon

/-- A verification reports an error just when it does not report success. -/
theorem returns_doVerify {req : NodeVerifyRequest} : Returns
    (fun r => r.checkpointId = req.checkpointId ∧ r.ok = r.error.isNone)
    (doVerify files node req) := by
  unfold doVerify
  refine Returns.bind fun read => ?_
  cases read with
  | error e => exact returns_pure ⟨rfl, rfl⟩
  | ok bytes =>
    refine Returns.bind fun parsed => Returns.bind fun sidecar => ?_
    dsimp only
    split
    · exact returns_pure ⟨rfl, rfl⟩
    · exact Returns.bind fun failed => returns_pure ⟨rfl, rfl⟩

theorem doVerify_outcomeOf (req : NodeVerifyRequest) :
    NodeState.doVerify req (outcomeOf (dir.on (doVerify files node req))) =
      dir.on (doVerify files node req) := by
  cases hresult : dir.on (doVerify files node req) with
  | error e => rfl
  | ok r =>
    obtain ⟨hid, hok⟩ := on_returns returns_doVerify hresult
    rw [outcomeOf, NodeState.doVerify, ← hid, ← hok]

theorem verifyStep_answer (op : Op) (w : World) :
    VerifyStep settings files node dir op w (verifyAnswer settings files node dir op w).1
      (verifyAnswer settings files node dir op w).2 := by
  have hadopting : System.Moves (S := fabric settings) w (adopting settings op w) := by
    cases op with
    | call name request => exact Relation.ReflTransGen.single ⟨Move.adopt name w.coordinatorEpoch, rfl⟩
    | _ => exact Relation.ReflTransGen.refl
  have hsound : op.Sound (inputOf files node dir op) := by
    cases op with
    | call name request =>
      cases request with
      | _ => exact fun e he => absurd he (Option.some_ne_none e).symm
    | db | claim => rfl
    | _ => trivial
  refine ⟨⟨_, _, hadopting, hsound, rfl⟩, ?_⟩
  cases op with
  | call name request =>
    cases request with
    | verify req =>
      have hserved : (World.served settings.codecs (adopting settings (.call name (.verify req)) w)
          ⟨name, w.coordinatorEpoch, .verify req⟩
          (outcomeOf (dir.on (doVerify files node req)))).1 = dir.on (doVerify files node req) := by
        simp [World.served, adopting, World.move, World.setNode, NodeState.serve,
          NodeState.serve.guarded, NodeState.checkEpoch, doVerify_outcomeOf]
      exact congrArg (World.parseReply (.verify req)) hserved
    | _ => trivial
  | _ => trivial

end Answering

section Demo

open Coordinator

/-- What the small replica was committed as. -/
def Demo.committed : Committed Replica.Demo.files where
  doc := Replica.Demo.document
  manifest := Replica.Demo.manifest
  stored _ := Replica.Demo.payload
  parsed := Replica.Demo.parse_document
  hashed := List.forall_mem_singleton.mpr Replica.Demo.sha256Hex_payload
  sized := by decide
  placed := by decide +kernel

theorem Demo.committed_doc : committed.doc = Replica.Demo.document := by
  unfold committed
  exact Committed.doc_mk

theorem Demo.committed_digest : committed.digest = Replica.Demo.digest := by
  rw [Committed.digest, committed_doc, Replica.Demo.sha256Hex_document]

theorem Demo.committed_unforged : committed.Unforged := by
  refine ⟨fun bytes h => ?_, fun c hc bytes h => ?_⟩
  · rw [committed_digest, ← Replica.Demo.sha256Hex_document] at h
    rw [committed_doc]
    exact Replica.Demo.eq_document h
  · rw [← committed.hashed c hc] at h
    exact Replica.Demo.eq_payload h

/-- The checkpoint of the small fabric, with the small replica for its anchor. -/
def Demo.anchored : World :=
  let w := System.stateOf (System.exec CheckpointFabric.Demo.captured).trace
  { w with
    store := w.store.checkpointSetDigest 2 Replica.Demo.digest
      (Replica.Demo.files.toCanonical Replica.Demo.manifest) }

theorem Demo.anchored_row : ∃ c, anchored.checkpoint 2 = some c ∧
    c.manifestDigest = some committed.digest ∧ c.integrityState = .valid ∧
    Reaches CheckpointFabric.Demo.settings CheckpointFabric.Demo.operator anchored c := by
  have hfacts : (anchored.checkpoint 2).map (fun c => (c.lifecycle, c.manifestDigest,
      c.integrityState, c.durableLocations.any fun l =>
        anchored.store.nodeList.any fun n => n.id == l.node && n.status == .active)) =
      some (.available, some Replica.Demo.digest, .valid, true) := by decide +kernel
  obtain ⟨c, hc, hrow⟩ := Option.map_eq_some_iff.mp hfacts
  simp only [Prod.mk.injEq] at hrow
  obtain ⟨hlifecycle, hdigest, hintegrity, hlisted⟩ := hrow
  refine ⟨c, hc, hdigest.trans (congrArg some committed_digest.symm), hintegrity, by rfl, ?_,
    List.any_eq_true.mp hlisted⟩
  rw [hlifecycle]
  exact LifecycleState.noConfusion

/-- The small replica with an empty manifest. -/
def Demo.emptied : Directory := fun path =>
  if path = Replica.Demo.manifestPath then some (.file []) else Replica.Demo.replica path

/-- The verification of the checkpoint, whose node has this directory. -/
def Demo.verified (dir : Directory) : FabricResult NodeVerifyResult × World :=
  (verifyCheckpoint CheckpointFabric.Demo.settings 2 CheckpointFabric.Demo.operator).eval
    (verifyAnswer CheckpointFabric.Demo.settings Replica.Demo.files Replica.Demo.node dir) anchored

theorem Demo.runs_verified (dir : Directory) :
    Runs (VerifyStep CheckpointFabric.Demo.settings Replica.Demo.files Replica.Demo.node dir)
      (verifyCheckpoint CheckpointFabric.Demo.settings 2 CheckpointFabric.Demo.operator) anchored
      (verified dir).1 (verified dir).2 :=
  runs_eval verifyStep_answer _ _

/-- The replica that is intact is marked VALID. -/
theorem replica_recorded :
    Recorded Demo.committed (Replica.Demo.node.commitDir 2) Replica.Demo.replica
      (Demo.verified Replica.Demo.replica).1
      (((Demo.verified Replica.Demo.replica).2.checkpoint 2).map (·.integrityState)) := by
  obtain ⟨c, hrow, hanchor, -, hreaches⟩ := Demo.anchored_row
  have hcrcs : CrcsFit Demo.committed (Replica.Demo.node.commitDir 2) Replica.Demo.replica := by
    have hnone : ∀ c ∈ Demo.committed.manifest.components, (Replica.Demo.replica (sidecarCrcPath
        s!"{Replica.Demo.node.commitDir 2}/{c.storageRepresentation.relativePath}")).isNone := by
      decide +kernel
    exact fun c hc => .inl (Option.isNone_iff_eq_none.mp (hnone c hc))
  have hmanifest : Replica.Demo.replica s!"{Replica.Demo.node.commitDir 2}/manifest" =
      some (.file Demo.committed.doc) := by
    rw [Demo.committed_doc]
    exact Replica.Demo.replica_manifest
  have hsidecar : Replica.Demo.replica s!"{Replica.Demo.node.commitDir 2}/manifest.digest" =
      some (.file (utf8 s!"{Demo.committed.digest}\n")) := by
    rw [Demo.committed_digest]
    exact Replica.Demo.replica_digest
  have hhex : ∀ ch ∈ Demo.committed.digest.toList, isWhiteSpace ch = false := by
    have hall : (Replica.Demo.digest.toList.all fun ch => !isWhiteSpace ch) = true := by
      decide +kernel
    rw [Demo.committed_digest]
    intro ch hch
    simpa using List.all_eq_true.mp hall ch hch
  refine (verifyCheckpoint_recorded_iff Demo.committed_unforged hhex hrow hanchor
    hreaches _ (Demo.runs_verified _)).mpr ⟨fun hunparsable => ?_, fun _ _ _ _ => hsidecar,
    fun _ => hcrcs⟩
  exact absurd hunparsable (not_unparsable Demo.committed hmanifest)

/-- The one whose manifest is gone is not marked. -/
theorem emptied_not_recorded : ∃ result w',
    Runs (VerifyStep CheckpointFabric.Demo.settings Replica.Demo.files Replica.Demo.node Demo.emptied)
      (verifyCheckpoint CheckpointFabric.Demo.settings 2 CheckpointFabric.Demo.operator)
      Demo.anchored result w' ∧
    (∃ e, result = .error e) ∧ (w'.checkpoint 2).map (·.integrityState) = some .valid ∧
    ¬ Intact Demo.committed (Replica.Demo.node.commitDir 2) Demo.emptied := by
  refine ⟨_, _, Demo.runs_verified Demo.emptied, ?_, by decide +kernel, fun hintact => ?_⟩
  · have hresult : (Demo.verified Demo.emptied).1.toOption.isNone = true := by decide +kernel
    cases hverified : (Demo.verified Demo.emptied).1 with
    | error e => exact ⟨e, rfl⟩
    | ok r =>
      rw [hverified] at hresult
      cases hresult
  · have hempty : Demo.emptied s!"{Replica.Demo.node.commitDir 2}/manifest" =
        some (.file []) := by decide +kernel
    have hdoc : Replica.Demo.document = [] := by
      have hfile := hempty.symm.trans hintact.manifest
      rw [Demo.committed_doc] at hfile
      exact (PathEntry.file.inj (Option.some.inj hfile)).symm
    have hhead := Replica.Demo.head?_bytesOf Replica.Demo.manifest
    rw [← Replica.Demo.document, hdoc] at hhead
    cases hhead

end Demo

end CheckpointFabric.Damage
