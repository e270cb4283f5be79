import CheckpointFabric.Staging

/-!
# The lease on a staging directory

A node that fetches a replica leases the staging directory of the attempt, so that its own sweep
of stale directories leaves it alone. The lease is an entry in the memory of the node: taking and
releasing it never fails, and nothing but the text of `do_replicate` releases it.

`doReplicate` is told again here with the lease. Without it the text is the one of
`CheckpointFabric.Staging`.

## Main definitions

* `LeaseOp` — take or release the lease of the attempt
* `doReplicate` — fetch a replica under a lease

## Main results

* `unleased_doReplicate` — but for the lease it is `Staging.doReplicate`
-/

set_option autoImplicit false

namespace CheckpointFabric.Leases

open Concurrency Replica Staging

inductive LeaseOp
  | leaseStaging
  | releaseStaging

/-- The operations of a replication, with those on its lease. -/
abbrev leasedInterface : Interface := stagingInterface.sum ⟨LeaseOp, fun _ => Unit⟩

abbrev Leased := Program leasedInterface FabricError

def leaseStaging : Leased Unit := Program.call (I := leasedInterface) (.inr .leaseStaging)

def releaseStaging : Leased Unit := Program.call (I := leasedInterface) (.inr .releaseStaging)

/-- An operation on the directories or the peer. -/
abbrev stage (op : Staging.Op) : Leased op.Reply := (Staging.perform op).inl

section Replicate

variable (codecs : WriteCodecs) (node : NodeState) (req : NodeReplicateRequest)

/-- Drop the staging directory, whether or not that succeeds, release it and report the failure. -/
def discard (error : Option String) : Leased NodeReplicateResult := do
  (stage .removeStaging).ignore
  releaseStaging
  pure (replicateFailed req error)

/-- Fetch the rest of a component, chunk by chunk. -/
def fetchChunks (c : ComponentEntry) (offset : ℕ) : Leased (Except NodeReplicateResult ℕ) := do
  let chunk ← stage (.fetchComponent req.checkpointId c.componentId offset req.fetchToken)
  match _h : chunkError c offset chunk with
  | some error => do
    let failure ← discard req error
    pure (.error failure)
  | none => do
    stage (.appendFile c.storageRepresentation.relativePath chunk.bytes)
    if _hlast : chunk.last then pure (.ok (offset + chunk.bytes.length))
    else fetchChunks c (offset + chunk.bytes.length)
termination_by c.storageRepresentation.storedSize - offset
decreasing_by exact lt_of_chunkError _h _hlast

/-- Fetch the components in manifest order; the result is the report of the first failure. -/
def fetchComponents : List ComponentEntry → Leased (Option NodeReplicateResult)
  | [] => pure none
  | c :: components => do
    let safeComponent := Capture.sanitizeSegment c.componentId
    if safeComponent ≠ c.componentId ∨
        c.storageRepresentation.relativePath ≠ s!"components/{safeComponent}" then
      let failure ← discard req
        (some s!"unsafe or inconsistent component path for '{c.componentId}'")
      pure (some failure)
    else
      let _ ← Program.ofExcept
        (safeJoin (node.stagingDir req.attemptId) c.storageRepresentation.relativePath)
      stage (.createFile c.storageRepresentation.relativePath)
      match ← fetchChunks req c 0 with
      | .error failure => pure (some failure)
      | .ok offset =>
        if offset ≠ c.storageRepresentation.storedSize then
          let failure ← discard req (some
            s!"component '{c.componentId}' ended at {offset} bytes, expected {c.storageRepresentation.storedSize}")
          pure (some failure)
        else
          stage (.syncFile c.storageRepresentation.relativePath)
          let stored ← stage (.readFile c.storageRepresentation.relativePath)
          if codecs.sha256Hex stored ≠ c.storageRepresentation.storedHash then
            let failure ← discard req
              (some s!"fetched component '{c.componentId}' failed hash check")
            pure (some failure)
          else
            (writeSidecars codecs c.componentId stored false c.contentHash).inl
            fetchComponents components

/-- Fetch a replica into the staging directory under a lease, and commit it. -/
def replicateLeased (mresp : FetchManifestResponse) (manifestBytes : Bytes) (manifest : Manifest) :
    Leased NodeReplicateResult := do
  leaseStaging
  createStaging.inl
  stage (.writeFile "manifest" manifestBytes)
  (writeLine "manifest.digest" (codecs.sha256Hex manifestBytes)).inl
  (writeLine "integrity/root" manifest.integrity.root).inl
  if mresp.components ≠ manifest.components then
    discard req (some "source component list does not match anchored manifest")
  else
    match ← fetchComponents codecs node req manifest.components with
    | some failure => pure failure
    | none =>
      match ← ((promote (node.commitDir req.checkpointId)).inl : Leased Unit).attempt with
      | .ok () => do
        releaseStaging
        pure { attemptId := req.attemptId, ok := true, error := none
               path := some (node.commitDir req.checkpointId) }
      | .error e => do
        releaseStaging
        pure (replicateFailed req (some (toString e)))

/-- Fetch a replica from a peer, check it against the coordinator's anchor, and commit it. -/
def doReplicate : Leased NodeReplicateResult := do
  stage (.connect req.fromAddr)
  let mresp ← stage (.fetchManifest req.checkpointId req.fetchToken)
  if ¬ mresp.ok then pure (replicateFailed req mresp.error)
  else
    match mresp.manifestBytes with
    | none => Program.fail (.protocolError "missing manifest bytes")
    | some manifestBytes =>
      if codecs.sha256Hex manifestBytes ≠ req.expectedManifestDigest then
        pure (replicateFailed req (some "source manifest does not match coordinator anchor"))
      else
        let manifest ← Program.ofExcept (parse codecs.toFileCodecs manifestBytes)
        if manifest.checkpointId ≠ req.checkpointId then
          Program.fail (.integrityFailure "replication manifest checkpoint id mismatch")
        else replicateLeased codecs node req mresp manifestBytes manifest

end Replicate

section Mute

variable {codecs : WriteCodecs} {node : NodeState} {req : NodeReplicateRequest} {α β : Type}

/-- The program without its lease. -/
abbrev unleased (p : Leased α) : Staging.Work α := p.mute fun _ => ()

theorem unleased_bind (p : Leased α) (f : α → Leased β) :
    unleased (p >>= f) = unleased p >>= fun a => unleased (f a) := Program.mute_bind p f

theorem unleased_inl_bind (p : Staging.Work α) (f : α → Leased β) :
    unleased (p.inl >>= f) = p >>= fun a => unleased (f a) := by
  rw [unleased_bind, unleased, Program.mute_inl]

theorem unleased_attempt_bind (p : Staging.Work α) (f : Except FabricError α → Leased β) :
    unleased ((p.inl : Leased α).attempt >>= f) = p.attempt >>= fun a => unleased (f a) := by
  rw [unleased, Program.mute_bind, Program.attempt, Program.mute_andThen, Program.mute_inl]
  rfl

theorem unleased_leaseStaging_bind (f : Unit → Leased α) :
    unleased (leaseStaging >>= f) = unleased (f ()) := rfl

theorem unleased_fetchChunks (c : ComponentEntry) (offset : ℕ) :
    unleased (fetchChunks req c offset) = Staging.fetchChunks req c offset := by
  induction offset using Staging.fetchChunks.induct req c with
  | case1 offset ih =>
    rw [fetchChunks, Staging.fetchChunks, unleased_inl_bind]
    congr 1
    funext chunk
    cases hchunk : chunkError c offset chunk with
    | some error => rfl
    | none =>
      rw [unleased_inl_bind]
      congr 1
      funext _
      split
      · rfl
      · rename_i hlast
        exact ih chunk hchunk hlast

theorem unleased_fetchComponents (components : List ComponentEntry) :
    unleased (fetchComponents codecs node req components) =
      Staging.fetchComponents codecs node req components := by
  induction components with
  | nil => rfl
  | cons c components ih =>
    rw [fetchComponents, Staging.fetchComponents]
    split
    · rfl
    · rw [unleased_bind]
      congr 1
      funext _
      rw [unleased_inl_bind]
      congr 1
      funext _
      rw [unleased_bind]
      refine congr (congrArg _ (unleased_fetchChunks c 0)) ?_
      funext outcome
      cases outcome with
      | error failure => rfl
      | ok offset =>
        dsimp only
        split
        · rfl
        · rw [unleased_inl_bind]
          congr 1
          funext _
          rw [unleased_inl_bind]
          congr 1
          funext stored
          split
          · rfl
          · rw [unleased_inl_bind]
            congr 1
            funext _
            exact ih

/-- But for its lease, a replication is the one of `CheckpointFabric.Staging`. -/
theorem unleased_doReplicate :
    unleased (doReplicate codecs node req) = Staging.doReplicate codecs node req := by
  rw [doReplicate, Staging.doReplicate, unleased_inl_bind]
  congr 1
  funext _
  rw [unleased_inl_bind]
  congr 1
  funext mresp
  split
  · rfl
  cases mresp.manifestBytes with
  | none => rfl
  | some manifestBytes =>
    dsimp only
    split
    · rfl
    rw [unleased_bind]
    congr 1
    funext manifest
    split
    · rfl
    -- The lease is the only operation that the plain replication does not have.
    rw [replicateLeased, unleased_leaseStaging_bind, unleased_inl_bind]
    congr 1
    funext _
    rw [unleased_inl_bind]
    congr 1
    funext _
    rw [unleased_inl_bind]
    congr 1
    funext _
    rw [unleased_inl_bind]
    congr 1
    funext _
    split
    · rfl
    rw [unleased_bind]
    refine congr (congrArg _ (unleased_fetchComponents manifest.components)) ?_
    funext outcome
    cases outcome with
    | some failure => rfl
    | none =>
      rw [unleased_attempt_bind]
      congr 1
      funext result
      cases result with
      | ok _ => rfl
      | error e => rfl

end Mute

end CheckpointFabric.Leases
