import CheckpointFabric.Replica

/-!
# Building a replica

How a node fills the staging directory of an attempt, with the payloads of its own providers
or with those of a peer, and how the directory becomes a committed one. The directory is a
tree of files; every call of the file system, of a provider and of the peer is an operation
of its own, and each may fail.

## Main definitions

* `Op` — the operations on the directories, the providers and the peer
* `doCapture`, `doPromote` — capture into the staging directory, and commit it
* `doReplicate` — fetch a replica from a peer, and commit it
-/

set_option autoImplicit false

namespace CheckpointFabric.Staging

open Concurrency Replica

/-- The libraries that a node writes a replica with. -/
structure WriteCodecs extends FileCodecs where
  /-- The compressed stream of a payload, or why there is none. -/
  zstdEncode : Bytes → (level : ℤ) → Except String Bytes

/-- Descriptor of a component a provider can capture and restore. -/
structure ProviderSpec where
  componentId : String
  componentType : ComponentType
  required : Bool
  schemaVersion : ℕ
  restoreHandler : String
  compatibility : String
  dependencies : List String

/-- Outcome of quiescence. -/
inductive QuiesceOutcome
  /-- Cooperative ack from the application: a safe capture point. -/
  | acked
  /-- Forced quiescence applied at the platform level. -/
  | forced
  deriving DecidableEq, Repr

/-- Context handed to providers during capture. -/
structure CaptureContext where
  workloadId : Id
  attemptId : AttemptId
  stagingDir : String
  compression : CompressionSpec
  quiescence : QuiescenceMode

structure FetchManifestResponse where
  ok : Bool
  error : Option String
  manifestBytes : Option Bytes
  components : List ComponentEntry

structure FetchChunkResponse where
  ok : Bool
  error : Option String
  offset : ℕ
  bytes : Bytes
  last : Bool

/-- An operation on the directories of an attempt, on a provider, or on the peer. Paths are
those below the staging directory. -/
inductive Op
  | stagingExists
  | removeStaging
  | createDir (path : String)
  /-- Open an empty file for writing. -/
  | createFile (path : String)
  /-- Append to a file, which is created when it is missing. -/
  | appendFile (path : String) (bytes : Bytes)
  | syncFile (path : String)
  | writeFile (path : String) (bytes : Bytes)
  | readFile (path : String)
  | commitExists
  | commitParentExists
  | createCommitParent
  | syncStaging
  | renameToCommit
  | now
  | providerGet (workloadId : Id) (componentId : String)
  | prepareCapture (provider : Provider) (ctx : CaptureContext)
  | quiesce (provider : Provider) (ctx : CaptureContext)
  | capture (provider : Provider) (ctx : CaptureContext)
  | verifyCapture (provider : Provider) (ctx : CaptureContext)
  | abortCapture (provider : Provider) (ctx : CaptureContext)
  | insertQuiesced (attemptId : AttemptId) (workloadId : Id)
  | connect (addr : String)
  | fetchManifest (checkpointId : Id) (fetchToken : FenceToken)
  | fetchComponent (checkpointId : Id) (componentId : String) (offset : ℕ)
      (fetchToken : FenceToken)

@[reducible] def Op.Reply : Op → Type
  | stagingExists | commitExists | commitParentExists => Bool
  | readFile _ | capture .. => Bytes
  | now => ℕ
  | providerGet .. => Option Provider
  | quiesce .. => QuiesceOutcome
  | fetchManifest .. => FetchManifestResponse
  | fetchComponent .. => FetchChunkResponse
  | _ => Unit

abbrev stagingInterface : Interface := ⟨Op, Op.Reply⟩

/-- Work of a node on the staging directory of an attempt. -/
abbrev Work := Program stagingInterface FabricError

abbrev perform (op : Op) : Work op.Reply := Program.call (I := stagingInterface) op

/-- A question about a path; an error means no. -/
def asks (question : Work Bool) : Work Bool :=
  question.andThen fun
    | .ok answer => .done (.ok answer)
    | .error _ => .done (.ok false)

/-- Write a file of one line. -/
def writeLine (path line : String) : Work Unit := perform (.writeFile path (utf8 s!"{line}\n"))

/-- A fresh staging directory. -/
def createStaging : Work Unit := do
  if ← asks (perform .stagingExists) then perform .removeStaging
  perform (.createDir "components")
  perform (.createDir "integrity")
  perform (.createDir "journal")

/-- Atomically promote a staging directory to a committed checkpoint directory. -/
def promote (commit : String) : Work Unit := do
  if ← asks (perform .commitExists) then
    Program.fail (.storageError s!"commit path already exists: {commit}")
  else
    if ¬ (← asks (perform .commitParentExists)) then perform .createCommitParent
    perform .syncStaging
    perform .renameToCommit

section Payloads

variable (codecs : WriteCodecs)

/-- Compress a byte slice with the codec. -/
def compressBytes (spec : CompressionSpec) (payload : Bytes) : FabricResult Bytes :=
  match spec.codec with
  | .none => .ok payload
  | .zstd =>
    match codecs.zstdEncode payload spec.level with
    | .ok stored => .ok stored
    | .error e => .error (.internal s!"zstd encode: {e}")

def codecAsStr : Codec → String
  | .none => "none"
  | .zstd => "zstd"

/-- The path of a component's payload. -/
def payloadPath (componentId : String) : String :=
  s!"components/{Capture.sanitizeSegment componentId}"

/-- The path of the content hash of a component. -/
def contentPath (componentId : String) : String :=
  s!"integrity/{Capture.sanitizeSegment componentId}.sha256"

/-- Write the sidecars of a stored payload, and its content hash. -/
def writeSidecars (componentId : String) (stored : Bytes) (shaFirst : Bool)
    (contentHash : String) : Work Unit := do
  let path := payloadPath componentId
  let writeSha := writeLine s!"{path}.sha256" (codecs.sha256Hex stored)
  let writeCrc := writeLine s!"{path}.crc32c" (crcHex (codecs.crc32c stored))
  if shaFirst then do writeSha; writeCrc
  else do writeCrc; writeSha
  writeLine (contentPath componentId) contentHash

/-- Write a component payload into the staging directory, applying the checkpoint compression
spec, and return the storage representation. -/
def writeComponentPayload (componentId : String) (payload : Bytes)
    (compression : CompressionSpec) : Work StorageRepresentation := do
  perform (.createDir "components")
  perform (.createDir "integrity")
  let stored ← Program.ofExcept (compressBytes codecs compression payload)
  perform (.createFile (payloadPath componentId))
  perform (.appendFile (payloadPath componentId) stored)
  perform (.syncFile (payloadPath componentId))
  writeSidecars codecs componentId stored true (codecs.sha256Hex payload)
  pure
    { codec := codecAsStr compression.codec
      originalSize := payload.length
      storedSize := stored.length
      storedHash := codecs.sha256Hex stored
      relativePath := payloadPath componentId }

end Payloads

section Capture

variable (codecs : WriteCodecs) (spec : Provider → ProviderSpec) (node : NodeState)
  (req : NodeCaptureRequest)

/-- Select providers for the requested components. -/
def selectProviders : List CaptureComponentRequest → Work (List Provider)
  | [] => pure []
  | c :: components => do
    match ← perform (.providerGet req.workloadId c.componentId) with
    | some provider => do
      let providers ← selectProviders components
      pure (provider :: providers)
    | none =>
      if c.required then
        Program.fail (.missingDependency
          s!"required component '{c.componentId}' has no provider attached")
      else selectProviders components

/-- Prepare the providers in turn. Those that are prepared come back, the last one first, with
the error that stopped it. -/
def prepareProviders (ctx : CaptureContext) :
    List Provider → (prepared : List Provider) → Work (List Provider × Option FabricError)
  | [], prepared => pure (prepared, none)
  | provider :: providers, prepared => do
    match ← (perform (.prepareCapture provider ctx)).attempt with
    | .error e => pure (prepared, some e)
    | .ok () => prepareProviders ctx providers (provider :: prepared)

/-- Quiesce the providers one after the other; `ack` says whether all have acknowledged. -/
def quiesceAll (ctx : CaptureContext) : List Provider → (ack : Bool) → Work Bool
  | [], ack => pure ack
  | provider :: providers, ack => do
    match ← perform (.quiesce provider ctx) with
    | .acked => quiesceAll ctx providers ack
    | .forced => quiesceAll ctx providers false

/-- Quiesce as the request asks, and say whether it was a cooperative ack. -/
def quiesceProviders (ctx : CaptureContext) (providers : List Provider) : Work Bool :=
  match req.quiescence with
  | .none => pure false
  | .cooperative => quiesceAll ctx providers (!providers.isEmpty)
  | .forced => do
    Program.forEach providers fun provider => (perform (.quiesce provider ctx)).ignore
    pure false

/-- Addition of 64-bit numbers that stops at the largest one. -/
def saturatingAdd (a b : ℕ) : ℕ := min (a + b) (2 ^ 64 - 1)

/-- What was captured so far. -/
structure Captured where
  components : List ComponentEntry := []
  totalLogical : ℕ := 0
  totalStored : ℕ := 0
  compressed : ℕ := 0

/-- The entry of a captured component. -/
def componentEntry (spec : ProviderSpec) (repr : StorageRepresentation) (contentHash : String) :
    ComponentEntry where
  componentId := spec.componentId
  componentType := spec.componentType
  generation := 0
  required := spec.required
  logicalSize := repr.originalSize
  storageRepresentation := repr
  contentHash
  schemaVersion := spec.schemaVersion
  restoreHandler := spec.restoreHandler
  compatibility := spec.compatibility
  dependencies := spec.dependencies
  captureStatus := "captured"
  restoreStatus := "pending"

/-- Capture, verify and write the components in turn. -/
def captureComponents (ctx : CaptureContext) : List Provider → Captured → Work Captured
  | [], captured => pure captured
  | provider :: providers, captured => do
    let payload ← perform (.capture provider ctx)
    perform (.verifyCapture provider ctx)
    let repr ← writeComponentPayload codecs (spec provider).componentId payload req.compression
    captureComponents ctx providers
      { components :=
          captured.components ++ [componentEntry (spec provider) repr (codecs.sha256Hex payload)]
        totalLogical := saturatingAdd captured.totalLogical payload.length
        totalStored := saturatingAdd captured.totalStored repr.storedSize
        compressed :=
          if req.compression.codec ≠ .none then saturatingAdd captured.compressed repr.storedSize
          else captured.compressed }

/-- Clean abort: resume quiesced providers, drop staging. -/
def abortCapture (ctx : CaptureContext) (prepared : List Provider) (e : FabricError) :
    Work NodeCaptureResult := do
  Program.forEach prepared fun provider => (perform (.abortCapture provider ctx)).ignore
  (perform .removeStaging).ignore
  pure
    { attemptId := req.attemptId, ok := false, error := some (toString e), components := []
      totalLogicalBytes := 0, totalPhysicalBytes := 0, compressedBytes := 0
      cooperativeAck := false }

/-- Capture the requested components into a fresh staging directory. -/
def doCapture : Work NodeCaptureResult := do
  createStaging
  let ctx : CaptureContext :=
    { workloadId := req.workloadId
      attemptId := req.attemptId
      stagingDir := node.stagingDir req.attemptId
      compression := req.compression
      quiescence := req.quiescence }
  match ← (selectProviders req req.components).attempt with
  | .error e => abortCapture req ctx [] e
  | .ok providers =>
    match ← prepareProviders ctx providers [] with
    | (prepared, some e) => abortCapture req ctx prepared e
    | (prepared, none) =>
      match ← (quiesceProviders req ctx providers).attempt with
      | .error e => abortCapture req ctx prepared e
      | .ok cooperativeAck =>
        match ← (captureComponents codecs spec req ctx providers {}).attempt with
        | .error e => abortCapture req ctx prepared e
        | .ok captured =>
          perform (.insertQuiesced req.attemptId req.workloadId)
          pure
            { attemptId := req.attemptId, ok := true, error := none
              components := captured.components
              totalLogicalBytes := captured.totalLogical
              totalPhysicalBytes := captured.totalStored
              compressedBytes := captured.compressed
              cooperativeAck }

end Capture

section Promote

variable (files : FileCodecs) (node : NodeState) (req : NodePromoteRequest)

def promoteFailed (error : String) : NodePromoteResult where
  attemptId := req.attemptId
  ok := false
  error := some error
  commitPath := none

/-- Write the sealed manifest and move the staging directory to its committed place. -/
def doPromote : Work NodePromoteResult := do
  Program.ofExcept (NodeState.checkPromote files.codecs req)
  if ¬ (← asks (perform .stagingExists)) then
    pure (promoteFailed req "staging directory is missing")
  else
    perform (.writeFile "manifest" (utf8 req.manifestBytes))
    writeLine "manifest.digest" req.digest
    perform (.createDir "integrity")
    writeLine "integrity/root" req.integrityRoot
    let now ← perform .now
    perform (.appendFile "journal/records.jsonl" (utf8 s!"{now} promote manifest\n"))
    match ← (promote (node.commitDir req.checkpointId)).attempt with
    | .ok () =>
      pure { attemptId := req.attemptId, ok := true, error := none
             commitPath := some (node.commitDir req.checkpointId) }
    | .error e => pure (promoteFailed req (toString e))

end Promote

section Replicate

variable (codecs : WriteCodecs) (node : NodeState) (req : NodeReplicateRequest)

def replicateFailed (error : Option String) : NodeReplicateResult where
  attemptId := req.attemptId
  ok := false
  error := error
  path := none

/-- Drop the staging directory and report the failure. -/
def discard (error : Option String) : Work NodeReplicateResult := do
  (perform .removeStaging).ignore
  pure (replicateFailed req error)

/-- What the peer sent does not serve as the next chunk. -/
def chunkError (c : ComponentEntry) (offset : ℕ) (chunk : FetchChunkResponse) :
    Option (Option String) :=
  if ¬ chunk.ok then some chunk.error
  else if chunk.offset ≠ offset then
    some (some s!"fetch offset mismatch: expected {offset}, got {chunk.offset}")
  -- The sum saturates in the source, where no file is long enough to tell the difference.
  else if (chunk.bytes = [] ∧ ¬ chunk.last) ∨
      c.storageRepresentation.storedSize < offset + chunk.bytes.length then
    some (some s!"component '{c.componentId}' made no progress or exceeded declared size")
  else none

/-- A chunk that is not the last one brings the component closer to its declared size. -/
theorem lt_of_chunkError {c : ComponentEntry} {offset : ℕ} {chunk : FetchChunkResponse}
    (h : chunkError c offset chunk = none) (hlast : ¬ chunk.last) :
    c.storageRepresentation.storedSize - (offset + chunk.bytes.length) <
      c.storageRepresentation.storedSize - offset := by
  unfold chunkError at h
  split at h
  · cases h
  · split at h
    · cases h
    · split at h
      · cases h
      · rename_i hbound
        have hnonempty : chunk.bytes ≠ [] := fun hempty => hbound (.inl ⟨hempty, hlast⟩)
        have hpos := List.length_pos_iff.mpr hnonempty
        omega

/-- Fetch the rest of a component, chunk by chunk; the value is its length, or the report of a
failure. -/
def fetchChunks (c : ComponentEntry) (offset : ℕ) : Work (Except NodeReplicateResult ℕ) := do
  let chunk ← perform (.fetchComponent req.checkpointId c.componentId offset req.fetchToken)
  match _h : chunkError c offset chunk with
  | some error => do
    let failure ← discard req error
    pure (.error failure)
  | none => do
    perform (.appendFile c.storageRepresentation.relativePath chunk.bytes)
    if _hlast : chunk.last then pure (.ok (offset + chunk.bytes.length))
    else fetchChunks c (offset + chunk.bytes.length)
termination_by c.storageRepresentation.storedSize - offset
decreasing_by exact lt_of_chunkError _h _hlast

/-- Fetch the components in manifest order; the result is the report of the first failure. -/
def fetchComponents : List ComponentEntry → Work (Option NodeReplicateResult)
  | [] => pure none
  | c :: components => do
    let safeComponent := Capture.sanitizeSegment c.componentId
    if safeComponent ≠ c.componentId ∨
        c.storageRepresentation.relativePath ≠ s!"components/{safeComponent}" then
      let failure ← discard req
        (some s!"unsafe or inconsistent component path for '{c.componentId}'")
      pure (some failure)
    else
      let _ ← Program.ofExcept
        (safeJoin (node.stagingDir req.attemptId) c.storageRepresentation.relativePath)
      perform (.createFile c.storageRepresentation.relativePath)
      match ← fetchChunks req c 0 with
      | .error failure => pure (some failure)
      | .ok offset =>
        if offset ≠ c.storageRepresentation.storedSize then
          let failure ← discard req (some
            s!"component '{c.componentId}' ended at {offset} bytes, expected {c.storageRepresentation.storedSize}")
          pure (some failure)
        else
          perform (.syncFile c.storageRepresentation.relativePath)
          let stored ← perform (.readFile c.storageRepresentation.relativePath)
          if codecs.sha256Hex stored ≠ c.storageRepresentation.storedHash then
            let failure ← discard req
              (some s!"fetched component '{c.componentId}' failed hash check")
            pure (some failure)
          else
            writeSidecars codecs c.componentId stored false c.contentHash
            fetchComponents components

/-- Fetch a replica from a peer, check it against the coordinator's anchor, and commit it. -/
def doReplicate : Work NodeReplicateResult := do
  perform (.connect req.fromAddr)
  let mresp ← perform (.fetchManifest req.checkpointId req.fetchToken)
  if ¬ mresp.ok then pure (replicateFailed req mresp.error)
  else
    match mresp.manifestBytes with
    | none => Program.fail (.protocolError "missing manifest bytes")
    | some manifestBytes =>
      if codecs.sha256Hex manifestBytes ≠ req.expectedManifestDigest then
        pure (replicateFailed req (some "source manifest does not match coordinator anchor"))
      else
        let manifest ← Program.ofExcept (parse codecs.toFileCodecs manifestBytes)
        if manifest.checkpointId ≠ req.checkpointId then
          Program.fail (.integrityFailure "replication manifest checkpoint id mismatch")
        else
          createStaging
          perform (.writeFile "manifest" manifestBytes)
          writeLine "manifest.digest" (codecs.sha256Hex manifestBytes)
          writeLine "integrity/root" manifest.integrity.root
          if mresp.components ≠ manifest.components then
            discard req (some "source component list does not match anchored manifest")
          else
            match ← fetchComponents codecs node req manifest.components with
            | some failure => pure failure
            | none =>
              match ← (promote (node.commitDir req.checkpointId)).attempt with
              | .ok () =>
                pure { attemptId := req.attemptId, ok := true, error := none
                       path := some (node.commitDir req.checkpointId) }
              | .error e => pure (replicateFailed req (some (toString e)))

end Replicate

end CheckpointFabric.Staging
