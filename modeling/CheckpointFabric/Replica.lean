import CheckpointFabric.Concurrency.Program
import CheckpointFabric.Node
import Mathlib.Algebra.Ring.Nat
import Mathlib.Data.List.DropRight

/-!
# Restoring from a local replica

How a node applies a checkpoint: it reads the committed directory, checks it against the
coordinator's anchor, and hands the decoded payloads to its providers. Every read of the
disk is an operation of its own, and so is every call of a provider; between two of them
the directory may change in any way.

The serializer, the hash functions and the decompressor come from libraries; they are the
parameter `FileCodecs`.

## Main definitions

* `Op` — the operations on the disk and the providers of a node
* `verifyStoredFile`, `readComponentPayload` — the two passes over a payload
* `doRestore` — the restore of a replica
* `doVerify` — the check of a replica that is not applied
-/

set_option autoImplicit false

namespace CheckpointFabric.Replica

open Concurrency

/-- The contents of a file. -/
abbrev Bytes := List UInt8

/-- The bytes of a text. -/
def utf8 (text : String) : Bytes := text.toUTF8.data.toList

theorem utf8_append (s t : String) : utf8 (s ++ t) = utf8 s ++ utf8 t := by
  simp [utf8, String.toByteArray_append]

theorem utf8_ofList (chars : List Char) :
    utf8 (String.ofList chars) = chars.flatMap String.utf8EncodeChar := by
  simp [utf8, List.utf8Encode]

/-- The libraries that a node reads a replica with. -/
structure FileCodecs (Attempt : Type := AttemptId) where
  toCanonical : Manifest Attempt → String
  /-- The manifest that a document stands for, when it is one. -/
  fromSlice : Bytes → Option (Manifest Attempt)
  sha256Hex : Bytes → String
  crc32c : Bytes → UInt32
  /-- At most `limit` bytes of the decoded stream, or why it cannot be decoded. -/
  zstdDecode : Bytes → (limit : ℕ) → Except String Bytes

/-- The same serializer and hash function, as the coordinator uses them on texts. -/
def FileCodecs.codecs {Attempt : Type} (files : FileCodecs Attempt) : Codecs Attempt where
  toCanonical := files.toCanonical
  ofCanonical text := files.fromSlice (utf8 text)
  sha256Hex text := files.sha256Hex (utf8 text)

/-- A registered capture provider, by the number of its registration. -/
abbrev Provider := ℕ

/-- Context handed to providers during restore. -/
structure RestoreContext (Attempt : Type := AttemptId) where
  checkpointId : Id
  workloadId : Id
  attemptId : Attempt
  stagingDir : String
  commitDir : String

/-- An operation on the disk or the providers of the node. -/
inductive Op
  | fire (failpoint : String)
  | openFile (path : String)
  | read (path : String)
  | readText (path : String)
  | metadataLen (path : String)
  | isFile (path : String)
  | pathExists (path : String)
  | providerGet (workloadId : Id) (componentId : String)
  | restore (provider : Provider) (ctx : RestoreContext) (payload : Bytes)
  | verifyRestore (provider : Provider) (ctx : RestoreContext)
  | cleanupRestore (provider : Provider) (ctx : RestoreContext)
  | insertPending (attemptId : AttemptId) (pending : PendingRestore)

@[reducible] def Op.Reply : Op → Type
  | fire _ | openFile _ | restore .. | verifyRestore .. | cleanupRestore .. | insertPending .. => Unit
  | read _ => Bytes
  | readText _ => String
  | metadataLen _ => ℕ
  | isFile _ | pathExists _ => Bool
  | providerGet .. => Option Provider

abbrev diskInterface : Interface := ⟨Op, Op.Reply⟩

/-- Work of a node on a replica. -/
abbrev Work := Program diskInterface FabricError

abbrev perform (op : Op) : Work op.Reply := Program.call (I := diskInterface) op

/-- The text of an error of the operating system. -/
def ioText : FabricError → String
  | .io text => text
  | e => e.toString

/-- A question about a path; an error means no. -/
def asks (question : Work Bool) : Work Bool :=
  question.andThen fun
    | .ok answer => .done (.ok answer)
    | .error _ => .done (.ok false)

section Integrity

variable (files : FileCodecs)

/-- Unicode white space. -/
def isWhiteSpace (c : Char) : Bool :=
  (9 ≤ c.val && c.val ≤ 13) || (0x2000 ≤ c.val && c.val ≤ 0x200A) ||
    [0x20, 0x85, 0xA0, 0x1680, 0x2028, 0x2029, 0x202F, 0x205F, 0x3000].contains c.val

/-- The text without white space at its ends. -/
def trim (text : String) : String :=
  String.ofList ((text.toList.dropWhile isWhiteSpace).rdropWhile isWhiteSpace)

/-- Streamed SHA-256 of a file, hex-encoded. -/
def sha256File (path : String) : Work String := do
  (perform (.openFile path)).mapError fun e => .io s!"open {path}: {ioText e}"
  let bytes ← (perform (.read path)).mapError fun e => .io s!"read {path}: {ioText e}"
  pure (files.sha256Hex bytes)

/-- Streamed CRC-32C of a file. -/
def crc32cFile (path : String) : Work UInt32 := do
  (perform (.openFile path)).mapError fun e => .io s!"open {path}: {ioText e}"
  let bytes ← (perform (.read path)).mapError fun e => .io s!"read {path}: {ioText e}"
  pure (files.crc32c bytes)

/-- Eight hexadecimal digits. -/
def crcHex (crc : UInt32) : String := String.ofList (hexDigits crc.toNat 8)

def sidecarCrcPath (path : String) : String := path ++ ".crc32c"

/-- The file has the expected size, if one is expected. -/
def checkSize (path : String) (expectedSize : Option ℕ) : Work Unit := do
  let len ← (perform (.metadataLen path)).mapError fun e =>
    .integrityFailure s!"missing {path}: {ioText e}"
  match expectedSize with
  | some size =>
    Program.ensure (len = size)
      (.integrityFailure s!"size mismatch for {path}: expected {size}, got {len}")
  | none => pure ()

/-- The file matches its CRC-32C sidecar, if there is one. -/
def checkCrc (path : String) : Work Unit := do
  let crcPath := sidecarCrcPath path
  if ← asks (perform (.pathExists crcPath)) then
    let expected ← (perform (.readText crcPath)).mapError fun e => .integrityFailure (ioText e)
    let actual ← crc32cFile files path
    Program.ensure (crcHex actual = trim expected)
      (.integrityFailure s!"fast corruption detected for {path}: crc mismatch")
  else pure ()

/-- Verify a stored payload file against expected content hash and (optionally) a stored
CRC-32C sidecar, to catch fast corruption before full hashing. -/
def verifyStoredFile (path expectedContentHash : String) (expectedSize : Option ℕ) : Work Unit := do
  checkSize path expectedSize
  checkCrc files path
  let actual ← sha256File files path
  Program.ensure (actual = expectedContentHash) (.integrityFailure
    s!"content hash mismatch for {path}: expected {expectedContentHash}, got {actual}")

end Integrity

section Payloads

variable (files : FileCodecs)

/-- Join a relative path to a base, rejecting traversal. -/
def safeJoin (base rel : String) : FabricResult String :=
  if rel.toList.head? = some '/' ∨ ['.', '.'] ∈ rel.toList.splitOn '/' then
    .error (.invalidArgument s!"path traversal attempt rejected: {rel}")
  else .ok s!"{base}/{rel}"

def codecOfStrStrict : String → FabricResult Codec
  | "none" => .ok .none
  | "zstd" => .ok .zstd
  | other => .error (.unsupportedBackend s!"unknown compression codec '{other}'")

/-- Decompress with the codec, bounding output size. -/
def decompressBytes (codec : Codec) (stored : Bytes) (maxOutput : ℕ) : FabricResult Bytes :=
  match codec with
  | .none =>
    if maxOutput < stored.length then
      .error (.integrityFailure "stored payload exceeds bounded output size")
    else .ok stored
  | .zstd =>
    match files.zstdDecode stored (min (maxOutput + 1) (2 ^ 64 - 1)) with
    | .error e => .error (.internal s!"zstd decode: {e}")
    | .ok out =>
      if maxOutput < out.length then
        .error (.integrityFailure "decompressed payload exceeds bounded output size")
      else .ok out

/-- Read and decode a stored component payload from a committed checkpoint dir, verifying
the decoded content against its recorded content hash and size. -/
def readComponentPayload (commit : String) (repr : StorageRepresentation) (contentHash : String)
    (maxBytes : ℕ) : Work Bytes := do
  let path ← Program.ofExcept (safeJoin commit repr.relativePath)
  let stored ← perform (.read path)
  Program.ensure (stored.length ≤ maxBytes)
    (.integrityFailure "component payload exceeds policy size bound")
  let codec ← Program.ofExcept (codecOfStrStrict repr.codec)
  let out ← Program.ofExcept (decompressBytes files codec stored maxBytes)
  Program.ensure (out.length = repr.originalSize) (.integrityFailure
    s!"component decoded size {out.length} does not match recorded original size {repr.originalSize}")
  Program.ensure (files.sha256Hex out = contentHash) (.integrityFailure
    s!"component {repr.relativePath} content hash mismatch after decode")
  pure out

end Payloads

section Documents

variable {Attempt : Type} (files : FileCodecs Attempt)

/-- Parse and validate a manifest from the bytes of its file. -/
def parse (canonical : Bytes) : FabricResult (Manifest Attempt) :=
  match files.fromSlice canonical with
  | none => .error (.corruptedCheckpoint "bad manifest")
  | some m =>
    if m.formatVersion ≠ manifestFormatVersion then
      .error (.corruptedCheckpoint s!"unsupported manifest format version {m.formatVersion}")
    else if ¬ m.verifyIntegrityRoot files.codecs then
      .error (.integrityFailure "manifest integrity root mismatch")
    else .ok m

end Documents

section Restore

variable (files : FileCodecs) (node : NodeState) (req : NodeRestoreRequest)

/-- A restore that is reported as failed. -/
def refused (error : String) (restored : List String) : NodeRestoreResult where
  attemptId := req.attemptId
  ok := false
  error := some error
  restoredComponents := restored

/-- Verify the stored payloads in manifest order; the result is the report of the first failure. -/
def verifyComponents (commit : String) : List ComponentEntry → Work (Option NodeRestoreResult)
  | [] => pure none
  | c :: components => do
    let path ← Program.ofExcept (safeJoin commit c.storageRepresentation.relativePath)
    let isFile ← asks (perform (.isFile path))
    if ¬ isFile then
      pure (some (refused req
        s!"missing component payload {c.storageRepresentation.relativePath}" []))
    else
      match ← (verifyStoredFile files path c.storageRepresentation.storedHash
        (some c.storageRepresentation.storedSize)).attempt with
      | .error e =>
        pure (some (refused req s!"component '{c.componentId}' failed integrity: {e}" []))
      | .ok () => verifyComponents commit components

/-- Roll back the providers that were touched, the last one first; failures are ignored. -/
def cleanupRestored (providers : List Provider) (ctx : RestoreContext) : Work Unit :=
  Program.forEach providers fun provider => (perform (.cleanupRestore provider ctx)).ignore

/-- Restore the components in manifest order. `restored` and `touched` (the last one first)
are the components and the providers so far. -/
def restoreComponents (ctx : RestoreContext) : List ComponentEntry → (restored : List String) →
    (touched : List Provider) → Work NodeRestoreResult
  | [], restored, _ => do
    perform (.insertPending req.attemptId ⟨req.workloadId, req.checkpointId, restored⟩)
    pure { attemptId := req.attemptId, ok := true, error := none, restoredComponents := restored }
  | c :: components, restored, touched => do
    match ← perform (.providerGet req.workloadId c.componentId) with
    | none =>
      if c.required then
        cleanupRestored touched ctx
        pure (refused req
          s!"no restore handler '{c.restoreHandler}' for required component '{c.componentId}'"
          restored)
      else restoreComponents ctx components restored touched
    | some provider =>
      match ← (readComponentPayload files ctx.commitDir c.storageRepresentation c.contentHash
        (req.maxComponentBytes.getD (2 ^ 30))).attempt with
      | .error e =>
        cleanupRestored touched ctx
        pure (refused req s!"payload decode of '{c.componentId}' failed: {e}" restored)
      | .ok payload =>
        -- The provider is rolled back as well when its own restore fails.
        let touched := provider :: touched
        match ← (perform (.restore provider ctx payload)).attempt with
        | .error e =>
          cleanupRestored touched ctx
          pure (refused req s!"restore of '{c.componentId}' failed: {e}" restored)
        | .ok () =>
          match ← (perform (.verifyRestore provider ctx)).attempt with
          | .error e =>
            cleanupRestored touched ctx
            pure (refused req s!"verification of '{c.componentId}' failed: {e}" restored)
          | .ok () => restoreComponents ctx components (restored ++ [c.componentId]) touched

/-- Apply a checkpoint from the local replica, once it is found to be the anchored one. -/
def doRestore : Work NodeRestoreResult := do
  perform (.fire "restore.node.before_apply")
  let commit := node.commitDir req.checkpointId
  match ← (perform (.read s!"{commit}/manifest")).attempt with
  | .error _ =>
    pure (refused req s!"no local replica of {toHex req.checkpointId} on node {node.nodeId}" [])
  | .ok manifestBytes =>
    let actualDigest := files.sha256Hex manifestBytes
    let sidecar ← (perform (.readText s!"{commit}/manifest.digest")).attempt
    let sidecarDigest := trim (sidecar.toOption.getD "")
    if actualDigest ≠ req.expectedManifestDigest ∨ sidecarDigest ≠ req.expectedManifestDigest then
      pure (refused req "manifest does not match coordinator integrity anchor" [])
    else
      let manifest ← Program.ofExcept (parse files manifestBytes)
      if manifest.checkpointId ≠ req.checkpointId ∨ manifest.workloadId ≠ req.workloadId then
        pure (refused req "manifest identity does not match restore request" [])
      else
        match ← verifyComponents files req commit manifest.components with
        | some failure => pure failure
        | none =>
          let ctx : RestoreContext :=
            { checkpointId := req.checkpointId
              workloadId := req.workloadId
              attemptId := req.attemptId
              stagingDir := node.stagingDir req.attemptId
              commitDir := commit }
          restoreComponents files req ctx manifest.components [] []

end Restore

section Verify

variable (files : FileCodecs) (node : NodeState) (req : NodeVerifyRequest)

/-- Verify the stored payloads in manifest order; the result is the text of the first failure. -/
def checkComponents (commit : String) : List ComponentEntry → Work (Option String)
  | [] => pure none
  | c :: components =>
    match safeJoin commit c.storageRepresentation.relativePath with
    | .error e => pure (some (toString e))
    | .ok path => do
      match ← (verifyStoredFile files path c.storageRepresentation.storedHash
        (some c.storageRepresentation.storedSize)).attempt with
      | .error e => pure (some s!"component '{c.componentId}': {e}")
      | .ok () => checkComponents commit components

/-- Say whether the local replica is the anchored one and undamaged. -/
def doVerify : Work NodeVerifyResult := do
  let commit := node.commitDir req.checkpointId
  match ← (perform (.read s!"{commit}/manifest")).attempt with
  | .error _ =>
    pure { checkpointId := req.checkpointId, ok := false
           error := some "checkpoint not present on this node", manifestDigest := none }
  | .ok manifestBytes =>
    let parsed ← Program.ofExcept (parse files manifestBytes)
    let digest := files.sha256Hex manifestBytes
    let sidecar ← (perform (.readText s!"{commit}/manifest.digest")).attempt
    let storedDigest := trim (sidecar.toOption.getD "")
    if storedDigest ≠ digest ∨ digest ≠ req.expectedManifestDigest then
      pure { checkpointId := req.checkpointId, ok := false
             error := some "manifest digest does not match coordinator anchor"
             manifestDigest := none }
    else
      let failed ← checkComponents files commit parsed.components
      pure { checkpointId := req.checkpointId, ok := failed.isNone, error := failed
             manifestDigest := some digest }

end Verify

end CheckpointFabric.Replica
