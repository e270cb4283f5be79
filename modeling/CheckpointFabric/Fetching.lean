import CheckpointFabric.Concurrency.System
import CheckpointFabric.Serving

/-!
# Who may fetch from a node

A node serves its checkpoints to other nodes. It does not ask who they are: the coordinator has told
it a token for the checkpoint before, and who fetches shows the token. A token is good for a while.
When any token is checked, those whose time is over are dropped.

The table of tokens is behind a lock. The clock is read outside of it, and so a check can come with an
old time.

## Main definitions

* `checkToken`, `serveManifest`, `serveComponent` — how a node serves
* `Gate` — the table of tokens, with the coordinator epoch of the node
* `gate` — all of it as one system
-/

set_option autoImplicit false

namespace CheckpointFabric.Fetching

open Concurrency Replica Staging

/-- An operation of a node that serves its checkpoints. -/
inductive Op
  | loadEpoch
  | allow (checkpointId : Id) (fetchToken : FenceToken) (ttlMs : ℕ)
  | now
  /-- Drop the tokens whose time was over by `now`, and look for this one. -/
  | lookUp (checkpointId : Id) (fetchToken : FenceToken) (now : ℕ)
  | readManifest (path : String)
  | file (op : ServeOp)

@[reducible] def Op.Reply : Op → Type
  | loadEpoch | now => ℕ
  | allow .. => Unit
  | lookUp .. => Bool
  | readManifest _ => Bytes
  | file op => op.Reply

abbrev fetchInterface : Interface := ⟨Op, Op.Reply⟩

abbrev Work := Program fetchInterface FabricError

abbrev perform (op : Op) : Work op.Reply := Program.call (I := fetchInterface) op

structure FetchManifestRequest where
  checkpointId : Id
  fetchToken : FenceToken

section Serving

variable (files : FileCodecs) (node : NodeState)

def checkToken (checkpointId : Id) (fetchToken : FenceToken) : Work Unit := do
  let now ← perform .now
  let found ← perform (.lookUp checkpointId fetchToken now)
  Program.ensure found (.fencingFailure s!"unknown fetch token for {toHex checkpointId}")

def serveManifest (req : FetchManifestRequest) : Work FetchManifestResponse := do
  checkToken req.checkpointId req.fetchToken
  let manifestBytes ← (perform (.readManifest s!"{node.commitDir req.checkpointId}/manifest")).mapError
    fun _ => .corruptedCheckpoint s!"no replica of {toHex req.checkpointId}"
  let manifest ← Program.ofExcept (parse files manifestBytes)
  pure { ok := true, error := none, manifestBytes := some manifestBytes
         components := manifest.components }

/-- What an operation of the code that serves a component stands for. -/
def serveOp : (op : ServeOp) → Work op.Reply
  | .checkToken checkpointId fetchToken => checkToken checkpointId fetchToken
  | op => perform (.file op)

def serveComponent (req : FetchComponentRequest) : Work FetchChunkResponse :=
  (Staging.serveComponent node req).translate serveOp

/-- Let a checkpoint be fetched with a token. Messages of another coordinator epoch are refused. -/
def allowFetch (epoch : ℕ) (req : NodeAllowFetchRequest) : Work Unit := do
  let actual ← perform .loadEpoch
  Program.ensure (epoch = actual) (.staleCoordinatorEpoch actual epoch)
  perform (.allow req.checkpointId req.fetchToken req.ttlMs)

end Serving

/-- What an operation finds out. -/
structure Input where
  now : ℕ
  manifest : FabricResult Bytes
  file : ∀ op : ServeOp, FabricResult op.Reply

/-- What the threads of the node share. -/
structure Gate where
  coordinatorEpoch : ℕ
  /-- Until when each token is good. -/
  fetchTokens : List ((Id × FenceToken) × ℕ)
  deriving DecidableEq, Repr

namespace Gate

variable (s : Gate)

/-- The time until which a token is good. The sum wraps. -/
def expiry (now ttlMs : ℕ) : ℕ := (now + ttlMs) % 2 ^ 64

def allow (key : Id × FenceToken) (expires : ℕ) : Gate :=
  { s with fetchTokens := (key, expires) :: s.fetchTokens.filter (·.1 ≠ key) }

/-- Keep the tokens that are still good. -/
def retain (now : ℕ) : Gate :=
  { s with fetchTokens := s.fetchTokens.filter (now ≤ ·.2) }

def handle (input : Input) : (op : Op) → FabricResult op.Reply × Gate
  | .loadEpoch => (.ok s.coordinatorEpoch, s)
  | .allow checkpointId fetchToken ttlMs =>
    (.ok (), s.allow (checkpointId, fetchToken) (expiry input.now ttlMs))
  | .now => (.ok input.now, s)
  | .lookUp checkpointId fetchToken now =>
    (.ok ((s.retain now).fetchTokens.lookup (checkpointId, fetchToken)).isSome, s.retain now)
  | .readManifest _ => (input.manifest, s)
  | .file op => (input.file op, s)

end Gate

inductive Request
  | allowFetch (epoch : ℕ) (req : NodeAllowFetchRequest)
  | fetchManifest (req : FetchManifestRequest)
  | fetchComponent (req : FetchComponentRequest)

inductive Response
  | allowed
  | manifest (res : FetchManifestResponse)
  | chunk (res : FetchChunkResponse)

/-- What a request is to fetch, and the token that it shows. -/
def Request.fetches : Request → Option (Id × FenceToken)
  | .allowFetch .. => none
  | .fetchManifest req => some (req.checkpointId, req.fetchToken)
  | .fetchComponent req => some (req.checkpointId, req.fetchToken)

def serve (files : FileCodecs) (node : NodeState) : Request → Work Response
  | .allowFetch epoch req => do
    allowFetch epoch req
    pure .allowed
  | .fetchManifest req => do return .manifest (← serveManifest files node req)
  | .fetchComponent req => do return .chunk (← serveComponent node req)

/-- A node that serves its checkpoints. It registers once in a while, and adopts an epoch. -/
abbrev gate (files : FileCodecs) (node : NodeState) : System where
  toInterface := fetchInterface
  Error := FabricError
  Request := Request
  Response := Response
  State := Gate
  Input := Input
  Move := ℕ
  initial := ⟨0, []⟩
  handle op input s := s.handle input op
  serve := serve files node
  accept := fun _ s => s
  restart := fun _ => ⟨0, []⟩
  move := fun epoch s => { s with coordinatorEpoch := epoch }

end CheckpointFabric.Fetching
