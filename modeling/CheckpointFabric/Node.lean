import CheckpointFabric.Capture
import CheckpointFabric.Manifest

/-!
# The node side of the protocol

The messages a coordinator sends to a node, and what the node does with them: which
directories exist below its data directory, which captures are quiesced, which
restores are pending, which workloads are attached and under which authority.

What a node meets on its own (the work of its providers, the contents of its disk) is
the `Outcome` of the message, an input of the model.
-/

set_option autoImplicit false

namespace CheckpointFabric

section Messages

structure NodeCaptureRequest where
  attemptId : AttemptId
  checkpointId : Id
  workloadId : Id
  checkpointGeneration : ℕ
  consistency : ConsistencyClass
  quiescence : QuiescenceMode
  components : List CaptureComponentRequest
  compression : CompressionSpec

structure NodeCaptureResult where
  attemptId : AttemptId
  ok : Bool
  error : Option String
  components : List ComponentEntry
  totalLogicalBytes : ℕ
  totalPhysicalBytes : ℕ
  compressedBytes : ℕ
  cooperativeAck : Bool

/-- Write the sealed manifest and move the staged checkpoint to its committed place. -/
structure NodePromoteRequest where
  attemptId : AttemptId
  checkpointId : Id
  manifestBytes : String
  digest : String
  integrityRoot : String

structure NodePromoteResult where
  attemptId : AttemptId
  ok : Bool
  error : Option String
  commitPath : Option String

/-- Resume the source of a capture, or the target of a restore. Token and epoch are
present for an authority transfer and absent when a capture source is merely
resumed. -/
structure NodeResumeRequest where
  attemptId : AttemptId
  checkpointId : Id
  workloadId : Id
  fenceToken : Option FenceToken
  executionEpoch : Option ℕ
  resume : Bool

structure NodeResumeResult where
  attemptId : AttemptId
  ok : Bool
  error : Option String

structure NodeRestoreRequest where
  attemptId : AttemptId
  checkpointId : Id
  workloadId : Id
  expectedManifestDigest : String
  maxComponentBytes : Option ℕ

structure NodeRestoreResult where
  attemptId : AttemptId
  ok : Bool
  error : Option String
  restoredComponents : List String

structure NodeProbeRequest where
  checkpointId : Id

structure NodeProbeResult where
  checkpointId : Id
  hasReplica : Bool

structure NodeVerifyRequest where
  checkpointId : Id
  expectedManifestDigest : String

structure NodeVerifyResult where
  checkpointId : Id
  ok : Bool
  error : Option String
  manifestDigest : Option String

/-- Provider state to roll back after a restore abort. -/
structure RestoreCleanupTarget (Attempt : Type := AttemptId) where
  attemptId : Attempt
  checkpointId : Id
  workloadId : Id

structure NodeCleanupRequest where
  stagingAttempts : List AttemptId
  restoreAttempts : List RestoreCleanupTarget
  checkpointIds : List Id

structure NodeCleanupResult where
  removedPaths : List String
  removedCheckpoints : List String
  error : Option String

structure NodeReplicateRequest where
  attemptId : AttemptId
  checkpointId : Id
  expectedManifestDigest : String
  fromAddr : String
  fetchToken : FenceToken

structure NodeReplicateResult where
  attemptId : AttemptId
  ok : Bool
  error : Option String
  path : Option String

structure NodeAllowFetchRequest where
  checkpointId : Id
  fetchToken : FenceToken
  ttlMs : ℕ

/-- A message to a node. -/
inductive NodeRequest
  | capture (req : NodeCaptureRequest)
  | promote (req : NodePromoteRequest)
  | resume (req : NodeResumeRequest)
  | restore (req : NodeRestoreRequest)
  | probe (req : NodeProbeRequest)
  | verify (req : NodeVerifyRequest)
  | cleanup (req : NodeCleanupRequest)
  | replicate (req : NodeReplicateRequest)
  | allowFetch (req : NodeAllowFetchRequest)

/-- What a node answers. -/
@[reducible] def NodeRequest.Result : NodeRequest → Type
  | capture _ => NodeCaptureResult
  | promote _ => NodePromoteResult
  | resume _ => NodeResumeResult
  | restore _ => NodeRestoreResult
  | probe _ => NodeProbeResult
  | verify _ => NodeVerifyResult
  | cleanup _ => NodeCleanupResult
  | replicate _ => NodeReplicateResult
  | allowFetch _ => Unit

end Messages

/-- The authority under which a node hosts a workload. -/
structure AttachedWorkload where
  fenceToken : FenceToken
  executionEpoch : ℕ
  deriving DecidableEq, Repr

/-- A restore that was applied on the node and not yet committed or rolled back. -/
structure PendingRestore where
  workloadId : Id
  checkpointId : Id
  components : List String
  deriving DecidableEq, Repr

/-- A registry that is filtered by its keys keeps an entry or drops it. -/
theorem lookup_filter_fst {κ β : Type} [BEq κ] [LawfulBEq κ] (q : κ → Bool)
    (entries : List (κ × β)) {key : κ} :
    (entries.filter fun x => q x.1).lookup key = if q key then entries.lookup key else none := by
  induction entries with
  | nil => simp
  | cons x entries ih =>
    obtain ⟨k, b⟩ := x
    by_cases hk : key = k
    · subst hk
      cases hq : q key with
      | true => simp [hq]
      | false => simpa [hq] using ih
    · have hne : (key == k) = false := by simpa using hk
      cases hq : q k with
      | true => simp [hq, List.lookup_cons, hne, ih]
      | false => simp [hq, List.lookup_cons, hne, ih]

/-- The state of a node that the coordinator's messages read and write. -/
structure NodeState where
  nodeId : NodeId := ""
  /-- The coordinator epoch the node adopted at registration. -/
  coordinatorEpoch : ℕ := 0
  dataDir : String := ""
  /-- The staging directories that exist. -/
  staging : List AttemptId := []
  /-- The committed checkpoint directories that exist. -/
  committed : List Id := []
  quiescedCaptures : List (AttemptId × Id) := []
  pendingRestores : List (AttemptId × PendingRestore) := []
  attached : List (Id × AttachedWorkload) := []
  fetchTokens : List (Id × FenceToken) := []
  deriving DecidableEq, Repr

instance : Inhabited NodeState := ⟨{}⟩

/-- What a node meets while it serves a message. -/
structure Outcome where
  /-- An I/O failure that ends the operation with an error reply. -/
  fault : Option FabricError := none
  /-- Whether the failure left the attempt's staging directory behind. -/
  leavesStaging : Bool := false
  /-- A failure of the work itself, reported in the result. -/
  failure : Option String := none
  components : List ComponentEntry := []
  totalLogicalBytes : ℕ := 0
  totalPhysicalBytes : ℕ := 0
  compressedBytes : ℕ := 0
  cooperativeAck : Bool := false
  restoredComponents : List String := []
  manifestDigest : Option String := none
  /-- Directories that cannot be removed, and why. -/
  stuckStaging : List AttemptId := []
  stuckCheckpoints : List Id := []
  ioError : String := ""

namespace NodeState

variable (node : NodeState)

/-- Messages of another coordinator epoch are refused. -/
def checkEpoch (claimed : ℕ) : FabricResult Unit :=
  if claimed ≠ node.coordinatorEpoch then
    .error (.staleCoordinatorEpoch node.coordinatorEpoch claimed)
  else .ok ()

def commitDir (id : Id) : String := s!"{node.dataDir}/checkpoints/{toHex id}"

def stagingDir (attempt : AttemptId) : String := s!"{node.dataDir}/staging/{attempt}"

def addStaging (attempt : AttemptId) : NodeState :=
  { node with staging := attempt :: node.staging.filter (· ≠ attempt) }

def removeStaging (attempt : AttemptId) : NodeState :=
  { node with staging := node.staging.filter (· ≠ attempt) }

/-- Capture into a fresh staging directory. A failure of the providers drops the
directory again; only a success leaves the capture quiesced. -/
def doCapture (req : NodeCaptureRequest) (o : Outcome) :
    FabricResult NodeCaptureResult × NodeState :=
  let dropped := if o.leavesStaging then node.addStaging req.attemptId
    else node.removeStaging req.attemptId
  match o.fault, o.failure with
  | some e, _ => (.error e, dropped)
  | none, some text =>
    (.ok { attemptId := req.attemptId, ok := false, error := some text, components := []
           totalLogicalBytes := 0, totalPhysicalBytes := 0, compressedBytes := 0
           cooperativeAck := false }, dropped)
  | none, none =>
    (.ok { attemptId := req.attemptId, ok := true, error := none, components := o.components
           totalLogicalBytes := o.totalLogicalBytes, totalPhysicalBytes := o.totalPhysicalBytes
           compressedBytes := o.compressedBytes, cooperativeAck := o.cooperativeAck },
      { node.addStaging req.attemptId with
        quiescedCaptures :=
          (req.attemptId, req.workloadId) ::
            node.quiescedCaptures.filter (·.1 ≠ req.attemptId) })

/-- The checks on the manifest of a promote message. -/
def checkPromote (codecs : Codecs) (req : NodePromoteRequest) : FabricResult Unit := do
  if codecs.sha256Hex req.manifestBytes ≠ req.digest then
    .error (.integrityFailure "promoted manifest does not match coordinator digest")
  else do
    let parsed ← Manifest.parse codecs req.manifestBytes
    if parsed.checkpointId ≠ req.checkpointId ∨ parsed.captureAttempt ≠ req.attemptId ∨
        parsed.integrity.root ≠ req.integrityRoot then
      .error (.integrityFailure "promoted manifest identity or integrity root mismatch")
    else .ok ()

/-- Move a staging directory to the committed place, which must be free. -/
def promoteDir (attempt : AttemptId) (checkpoint : Id) (o : Outcome) :
    Except String Unit × NodeState :=
  if node.committed.contains checkpoint then
    (.error s!"storage error: commit path already exists: {node.commitDir checkpoint}", node)
  else
    match o.failure with
    | some text => (.error text, node)
    | none =>
      (.ok (), { node.removeStaging attempt with committed := checkpoint :: node.committed })

def doPromote (codecs : Codecs) (req : NodePromoteRequest) (o : Outcome) :
    FabricResult NodePromoteResult × NodeState :=
  match checkPromote codecs req with
  | .error e => (.error e, node)
  | .ok () =>
    if req.attemptId ∉ node.staging then
      (.ok { attemptId := req.attemptId, ok := false
             error := some "staging directory is missing", commitPath := none }, node)
    else
      match o.fault with
      | some e => (.error e, node)
      | none =>
        match node.promoteDir req.attemptId req.checkpointId o with
        | (.ok (), node') =>
          (.ok { attemptId := req.attemptId, ok := true, error := none
                 commitPath := some (node.commitDir req.checkpointId) }, node')
        | (.error text, node') =>
          (.ok { attemptId := req.attemptId, ok := false, error := some text
                 commitPath := none }, node')

/-- An authority grant attaches the workload; otherwise the message releases the
quiesced capture of the attempt, and is a no-op when there is none. -/
def doResume (req : NodeResumeRequest) (o : Outcome) :
    FabricResult NodeResumeResult × NodeState :=
  let answer : FabricResult NodeResumeResult :=
    .ok { attemptId := req.attemptId, ok := o.failure.isNone, error := o.failure }
  match req.fenceToken, req.executionEpoch with
  | some token, some epoch =>
    (answer,
      { node with
        attached := (req.workloadId, { fenceToken := token, executionEpoch := epoch }) ::
          node.attached.filter (·.1 ≠ req.workloadId)
        pendingRestores :=
          if o.failure.isNone then node.pendingRestores.filter (·.1 ≠ req.attemptId)
          else node.pendingRestores })
  | none, some _ =>
    (.error (.fencingFailure "authority grant is missing fence token"), node)
  | some _, none =>
    (.error (.fencingFailure "authority grant is missing execution epoch"), node)
  | none, none =>
    if (node.quiescedCaptures.lookup req.attemptId).isNone then
      (.ok { attemptId := req.attemptId, ok := true, error := none }, node)
    else
      (answer,
        { node with quiescedCaptures := node.quiescedCaptures.filter (·.1 ≠ req.attemptId) })

/-- Apply a checkpoint; a success leaves the restore pending. -/
def doRestore (req : NodeRestoreRequest) (o : Outcome) :
    FabricResult NodeRestoreResult × NodeState :=
  match o.fault with
  | some e => (.error e, node)
  | none =>
    if req.checkpointId ∉ node.committed then
      (.ok { attemptId := req.attemptId, ok := false
             error := some s!"no local replica of {toHex req.checkpointId} on node {node.nodeId}"
             restoredComponents := [] }, node)
    else
      match o.failure with
      | some text =>
        (.ok { attemptId := req.attemptId, ok := false, error := some text
               restoredComponents := o.restoredComponents }, node)
      | none =>
        (.ok { attemptId := req.attemptId, ok := true, error := none
               restoredComponents := o.restoredComponents },
          { node with
            pendingRestores :=
              (req.attemptId, ⟨req.workloadId, req.checkpointId, o.restoredComponents⟩) ::
                node.pendingRestores.filter (·.1 ≠ req.attemptId) })

def doProbe (req : NodeProbeRequest) : NodeProbeResult :=
  { checkpointId := req.checkpointId, hasReplica := node.committed.contains req.checkpointId }

def doVerify (req : NodeVerifyRequest) (o : Outcome) : FabricResult NodeVerifyResult :=
  match o.fault with
  | some e => .error e
  | none =>
    .ok { checkpointId := req.checkpointId, ok := o.failure.isNone, error := o.failure
          manifestDigest := o.manifestDigest }

/-- Remove what the message names. What is not there counts as removed. -/
def doCleanup (req : NodeCleanupRequest) (o : Outcome) : NodeCleanupResult × NodeState :=
  let stagingLeft := req.stagingAttempts.filter fun a =>
    a ∈ node.staging ∧ a ∈ o.stuckStaging
  let checkpointsLeft := req.checkpointIds.filter fun c =>
    c ∈ node.committed ∧ c ∈ o.stuckCheckpoints
  let gone := req.restoreAttempts.map (·.attemptId)
  ({ removedPaths := (req.stagingAttempts.filter fun a =>
        a ∈ node.staging ∧ a ∉ o.stuckStaging).map node.stagingDir
     removedCheckpoints := (req.checkpointIds.filter (· ∉ checkpointsLeft)).map toHex
     -- The last error stands.
     error :=
      (checkpointsLeft.getLast?.map fun c => s!"cleanup {toHex c}: {o.ioError}") <|>
        o.failure <|>
        (stagingLeft.getLast?.map fun a => s!"cleanup attempt {a}: {o.ioError}") },
    { node with
      staging := node.staging.filter fun a => a ∉ req.stagingAttempts ∨ a ∈ o.stuckStaging
      committed := node.committed.filter fun c => c ∉ req.checkpointIds ∨ c ∈ o.stuckCheckpoints
      pendingRestores := node.pendingRestores.filter fun p => p.1 ∉ gone })

/-- Fetch a replica from another node and promote it. -/
def doReplicate (req : NodeReplicateRequest) (o : Outcome) :
    FabricResult NodeReplicateResult × NodeState :=
  let dropped := if o.leavesStaging then node.addStaging req.attemptId
    else node.removeStaging req.attemptId
  match o.fault with
  | some e => (.error e, dropped)
  | none =>
    match o.failure with
    | some text =>
      (.ok { attemptId := req.attemptId, ok := false, error := some text, path := none }, dropped)
    | none =>
      match (node.addStaging req.attemptId).promoteDir req.attemptId req.checkpointId o with
      | (.ok (), node') =>
        (.ok { attemptId := req.attemptId, ok := true, error := none
               path := some (node.commitDir req.checkpointId) }, node')
      | (.error text, node') =>
        (.ok { attemptId := req.attemptId, ok := false, error := some text, path := none }, node')

/-- A node serves a message of coordinator epoch `epoch`. -/
def serve (codecs : Codecs) (epoch : ℕ) (o : Outcome) :
    (request : NodeRequest) → FabricResult request.Result × NodeState
  | .capture req => guarded (node.doCapture req o)
  | .promote req => guarded (node.doPromote codecs req o)
  | .resume req => guarded (node.doResume req o)
  | .restore req => guarded (node.doRestore req o)
  | .probe req => guarded (.ok (node.doProbe req), node)
  | .verify req => guarded (doVerify req o, node)
  | .cleanup req =>
    guarded (let (result, node') := node.doCleanup req o; (.ok result, node'))
  | .replicate req => guarded (node.doReplicate req o)
  | .allowFetch req =>
    guarded (.ok (),
      { node with fetchTokens := (req.checkpointId, req.fetchToken) :: node.fetchTokens })
where
  guarded {α : Type} (served : FabricResult α × NodeState) : FabricResult α × NodeState :=
    match node.checkEpoch epoch with
    | .error e => (.error e, node)
    | .ok () => served

end NodeState

end CheckpointFabric
