import CheckpointFabric.Footprints.Images

/-!
# What is behind the locations of a checkpoint

A coordinator adds locations in two ways of its own: with the full image of a capture, when a node
has promoted the checkpoint, and one at a time, when a node has fetched a replica. In both cases the
node has compared the manifest with a digest that it was given, and this is the digest of the
checkpoint. A third way is the report of a node, and nothing is behind that.

## Main definitions

* `LocationPermits` — what is behind the locations that a thread writes
* `ReadCommitted` — a thread has read the row of a checkpoint that was committed

## Main results

* `locationPermits_of_run` — every location that is written in a run has that behind it
-/

set_option autoImplicit false

namespace CheckpointFabric.Coordinator

open Concurrency Fabric

section Definitions

/-- The deeds have read the row of a checkpoint that can be restored, or that was committed
before. -/
def ReadCommitted (ds : List FabricDeed) (id : Id) (ck : CheckpointObject) : Prop :=
  ∃ older, ⟨.db (.checkpointGet id), .ok (some ck)⟩ :: older <:+ ds ∧
    (ck.lifecycle.isRestorable ∨
      ∃ attemptId, (⟨.db (.captureCommit id attemptId), .ok ()⟩ : FabricDeed) ∈ older)

/-- A node has promoted the checkpoint, with this digest. -/
def Promoted (ds : List FabricDeed) (node : NodeId) (id : Id) (digest : String) : Prop :=
  ∃ req result, (⟨.call node (.promote req), .ok result⟩ : FabricDeed) ∈ ds ∧ result.ok = true ∧
    req.checkpointId = id ∧ req.digest = digest

/-- A node has fetched a replica of the checkpoint, with this digest. -/
def Fetched (ds : List FabricDeed) (node : NodeId) (id : Id) (digest : String) : Prop :=
  ∃ req result, (⟨.call node (.replicate req), .ok result⟩ : FabricDeed) ∈ ds ∧ result.ok = true ∧
    req.checkpointId = id ∧ req.expectedManifestDigest = digest

/-- What is behind the locations that a thread writes. -/
def LocationPermits (ds : List FabricDeed) : Op → Prop
  | .db (.checkpointInsert c) => c.durableLocations = []
  | .db (.checkpointUpdate c) => ∃ node path digest, c.durableLocations = [⟨node, path, true⟩] ∧
    c.manifestDigest = some digest ∧ Promoted ds node c.checkpointId digest
  | .db (.checkpointAddLocation id location) => ∃ id' ck digest, ReadCommitted ds id' ck ∧
    (id = id' ∨ id = ck.checkpointId) ∧ ck.manifestDigest = some digest ∧
    Fetched ds location.node id digest
  | _ => True

/-- The operation writes no location. -/
def NoLocation : Op → Prop
  | .db (.checkpointInsert _) | .db (.checkpointUpdate _)
  | .db (.checkpointAddLocation _ _) => False
  | _ => True

end Definitions

section Rules

variable {α β : Type} {ds ds' : List FabricDeed} {op : Op} {id : Id} {ck : CheckpointObject}

theorem noLocation_of_reads (h : op.Reads) : NoLocation op := by
  cases op with
  | db op =>
    cases op with
    | checkpointInsert | checkpointUpdate | checkpointAddLocation => exact absurd h not_false
    | _ => trivial
  | _ => trivial

theorem locationPermits_of_noLocation (h : NoLocation op) : LocationPermits ds op := by
  cases op with
  | db op =>
    cases op with
    | checkpointInsert | checkpointUpdate | checkpointAddLocation => exact absurd h not_false
    | _ => trivial
  | _ => trivial

theorem ReadCommitted.mono (h : ReadCommitted ds id ck) (hsuffix : ds <:+ ds') :
    ReadCommitted ds' id ck := by
  obtain ⟨older, hread, hcommitted⟩ := h
  exact ⟨older, hread.trans hsuffix, hcommitted⟩

theorem obeys_noLocation_bind {p : Fabric α} {f : α → Fabric β}
    {conclude : List FabricDeed → FabricResult β → Prop} (hp : Uses NoLocation p)
    (herror : ∀ ds e, conclude ds (.error e))
    (hf : ∀ ds' a, ds <:+ ds' → Obeys LocationPermits conclude ds' (f a)) :
    Obeys LocationPermits conclude ds (p >>= f) :=
  obeys_uses_bind herror hp (fun _ _ _ => locationPermits_of_noLocation) hf

theorem obeys_of_noLocation {p : Fabric α} (hp : Uses NoLocation p) :
    Obeys LocationPermits (fun _ _ => True) ds p :=
  (Obeys.extend hp fun _ _ _ => locationPermits_of_noLocation).weaken fun _ _ _ => trivial

/-- An answer of a node is a deed. -/
theorem obeys_callNode_answered {node : NodeId} {request : NodeRequest}
    {f : request.Result → Fabric β} {conclude : List FabricDeed → FabricResult β → Prop} (herror : ∀ ds e, conclude ds (.error e))
    (hf : ∀ ds' a, ds <:+ ds' → (⟨.call node request, .ok a⟩ : FabricDeed) ∈ ds' →
      Obeys LocationPermits conclude ds' (f a)) :
    Obeys LocationPermits conclude ds (callNode node request >>= f) := by
  have huses : Uses NoLocation (callNode node request) :=
    uses_callNode (fun _ => noLocation_of_reads) trivial
  have hasked : Obeys LocationPermits
      (fun ds' result => ∀ a, result = .ok a → ds <:+ ds' ∧
        (⟨.call node request, .ok a⟩ : FabricDeed) ∈ ds') ds (callNode node request) := by
    refine ((Obeys.extend huses fun _ _ _ => locationPermits_of_noLocation).and
      (obeys_callNode_ended node request)).mono (fun _ _ h => h.1) ?_
    rintro ds' result ⟨hsuffix, ⟨nodes, rfl⟩ | ⟨nodes, e, rfl, rfl, -⟩⟩ a ha
    · exact ⟨hsuffix, ha ▸ .head _⟩
    · cases ha
  exact Obeys.bind herror hasked fun ds' a h => hf ds' a h.1 h.2

theorem uses_setLifecycle_noLocation {target : LifecycleState} :
    Uses NoLocation (setLifecycle ck target) :=
  uses_setLifecycle (fun _ => noLocation_of_reads) trivial

end Rules

section Capture

variable {settings : Settings} {run : CaptureRun} {ds : List FabricDeed} {c : CheckpointObject}

theorem obeys_stageCapture_locations :
    Obeys LocationPermits
      (fun _ result => ∀ c, result = .ok c → c.checkpointId = run.checkpointId) ds
      (stageCapture settings run) := by
  have herror : ∀ (_ : List FabricDeed) (e : FabricError), ∀ c : CheckpointObject,
      Except.error e = Except.ok c → c.checkpointId = run.checkpointId :=
    fun _ _ _ h => absurd h (by simp)
  unfold stageCapture
  refine obeys_call_bind herror trivial fun epoch => ?_
  refine obeys_call_bind herror trivial fun created => ?_
  refine obeys_call_bind herror rfl fun _ => ?_
  refine obeys_noLocation_bind uses_setLifecycle_noLocation herror fun ds₁ _ _ => ?_
  refine obeys_callNode_answered herror fun ds₂ result _ _ => ?_
  refine obeys_ensure_bind herror fun _ => obeys_ofExcept_bind herror fun _ _ => ?_
  refine obeys_ofExcept_bind herror fun _ _ => ?_
  intro c hc
  rw [← Except.ok.inj hc]
  rfl

/-- A sealed checkpoint has the digest of its manifest. -/
theorem obeys_sealCapture_locations :
    Obeys LocationPermits
      (fun _ result => ∀ sealed, result = .ok sealed →
        sealed.1.checkpointId = c.checkpointId ∧ sealed.1.manifestDigest = some sealed.2.digest)
      ds (sealCapture settings run c) := by
  have herror : ∀ (_ : List FabricDeed) (e : FabricError),
      ∀ sealed : CheckpointObject × SealedManifest, Except.error e = Except.ok sealed →
        sealed.1.checkpointId = c.checkpointId ∧ sealed.1.manifestDigest = some sealed.2.digest :=
    fun _ _ _ h => absurd h (by simp)
  unfold sealCapture
  refine obeys_noLocation_bind uses_setLifecycle_noLocation herror fun ds₁ _ _ => ?_
  refine obeys_noLocation_bind uses_setLifecycle_noLocation herror fun ds₂ _ _ => ?_
  refine obeys_noLocation_bind (uses_call.mpr trivial) herror fun ds₃ _ _ => ?_
  refine obeys_call_bind herror trivial fun sealMs => ?_
  refine obeys_noLocation_bind (uses_db trivial) herror fun ds₅ _ _ => ?_
  refine obeys_noLocation_bind uses_setLifecycle_noLocation herror fun ds₆ _ _ => ?_
  refine obeys_noLocation_bind (uses_db trivial) herror fun ds₇ _ _ => ?_
  refine obeys_noLocation_bind (uses_db trivial) herror fun ds₈ _ _ => ?_
  intro sealed hsealed
  rw [← Except.ok.inj hsealed]
  exact ⟨rfl, rfl⟩

/-- The full image is written when the node has promoted the checkpoint. -/
theorem obeys_persistCapture_locations {manifest : SealedManifest}
    (hid : c.checkpointId = run.checkpointId) (hdigest : c.manifestDigest = some manifest.digest) :
    Obeys LocationPermits (fun _ _ => True) ds (persistCapture run c manifest) := by
  have herror : ∀ (ds : List FabricDeed) (e : FabricError), (fun _ _ => True :
      List FabricDeed → FabricResult Unit → Prop) ds (.error e) := fun _ _ => trivial
  unfold persistCapture
  refine obeys_noLocation_bind uses_setLifecycle_noLocation herror fun ds₁ _ _ => ?_
  refine obeys_callNode_answered herror fun ds₂ result _ hpromoted => ?_
  refine obeys_ensure_bind herror fun hok => ?_
  refine obeys_call_bind herror ⟨run.node, _, manifest.digest, rfl, hdigest, ?_⟩ fun _ => ?_
  · exact ⟨_, result, hpromoted, hok, hid.symm, rfl⟩
  · exact obeys_of_noLocation (uses_db trivial)

/-- A replica is added when its node has fetched it. -/
theorem obeys_replicateLoop_locations {id : Id} {targets : List NodeId}
    (hcommitted : ∃ attemptId, (⟨.db (.captureCommit id attemptId), .ok ()⟩ : FabricDeed) ∈ ds)
    (hread : ReadCommitted ds id c) :
    Obeys LocationPermits (fun _ _ => True) ds (replicateLoop settings id targets c) := by
  have herror : ∀ (ds : List FabricDeed) (e : FabricError), (fun _ _ => True :
      List FabricDeed → FabricResult CheckpointObject → Prop) ds (.error e) := fun _ _ => trivial
  induction targets generalizing ds c with
  | nil => trivial
  | cons target targets ih =>
    unfold replicateLoop
    refine obeys_ite (fun _ => trivial) fun _ => ?_
    split
    · trivial
    · refine obeys_noLocation_bind (uses_call.mpr trivial) herror fun ds₁ token h₁ => ?_
      refine obeys_callNode_answered herror fun ds₂ _ h₂ _ => ?_
      refine obeys_noLocation_bind (uses_nodeAddr fun _ => noLocation_of_reads) herror
        fun ds₃ fromAddr h₃ => ?_
      refine obeys_noLocation_bind (uses_call.mpr trivial) herror fun ds₄ nonce h₄ => ?_
      refine obeys_okOr_bind herror fun digest hdigest => ?_
      refine obeys_callNode_answered herror fun ds₅ result h₅ hfetched => ?_
      have hsuffix := (((h₁.trans h₂).trans h₃).trans h₄).trans h₅
      obtain ⟨attemptId, hcommit⟩ := hcommitted
      have hnext (ds' : List FabricDeed) (h' : ds₅ <:+ ds') :
          Obeys LocationPermits (fun _ _ => True) ds' (do
            let ck ← checkpointGet id
            let ck ← okOr ck (.panicked "called unwrap on a None value")
            replicateLoop settings id targets ck) := by
        have hcommit' := (hsuffix.trans h').subset hcommit
        refine obeys_call_bind herror trivial fun row => ?_
        refine obeys_okOr_bind herror fun ck hrow => ?_
        subst hrow
        exact ih ⟨attemptId, .tail _ hcommit'⟩
          ⟨ds', List.suffix_refl _, .inr ⟨attemptId, hcommit'⟩⟩
      refine obeys_ite (fun hok => ?_) fun _ => hnext ds₅ (List.suffix_refl _)
      refine obeys_call_bind herror ?_ fun _ => hnext _ (List.suffix_cons _ _)
      refine ⟨id, c, digest, hread.mono hsuffix, .inl rfl, hdigest, ?_⟩
      exact ⟨_, result, hfetched, hok, rfl, rfl⟩

theorem obeys_finishCapture_locations
    (hcommitted : ∃ attemptId,
      (⟨.db (.captureCommit run.checkpointId attemptId), .ok ()⟩ : FabricDeed) ∈ ds) :
    Obeys LocationPermits (fun _ _ => True) ds (finishCapture settings run c) := by
  have herror : ∀ (ds : List FabricDeed) (e : FabricError), (fun _ _ => True :
      List FabricDeed → FabricResult OperationOutcome → Prop) ds (.error e) := fun _ _ => trivial
  have hfails : ∀ (ds : List FabricDeed) (e : FabricError), (fun _ _ => True :
      List FabricDeed → FabricResult Unit → Prop) ds (.error e) := fun _ _ => trivial
  obtain ⟨attemptId, hcommit⟩ := hcommitted
  unfold finishCapture
  refine obeys_callNode_answered herror fun ds₁ result h₁ _ => ?_
  refine obeys_ite (fun _ => ?_) fun _ => ?_
  · exact obeys_of_noLocation (Uses.bind (uses_db trivial) fun _ => trivial)
  · refine obeys_noLocation_bind (uses_db trivial) herror fun ds₂ _ h₂ => ?_
    have hreplicate : Obeys LocationPermits (fun _ _ => True) ds₂
        (replicateToPolicy settings run.checkpointId) := by
      refine obeys_ite (fun _ => trivial) fun _ => ?_
      refine Obeys.bind hfails (obeys_requireCheckpoint trivial) fun ds₃ ck h₃ => ?_
      subst h₃
      have hcommit' := (h₁.trans h₂).subset hcommit
      refine obeys_call_bind hfails trivial fun nodes => ?_
      refine Obeys.bind hfails ((obeys_replicateLoop_locations
        ⟨attemptId, .tail _ (.tail _ hcommit')⟩
        ⟨ds₂, List.suffix_cons _ _, .inr ⟨attemptId, hcommit'⟩⟩).weaken
          fun _ _ _ _ _ => trivial) fun _ _ (_ : True) => trivial
    refine Obeys.bind herror (hreplicate.weaken fun _ _ _ _ _ => trivial) fun ds₃ _ (_ : True) => ?_
    refine obeys_of_noLocation ?_
    refine Uses.bind (uses_db trivial) fun _ => Uses.bind (uses_db trivial) fun _ => ?_
    exact Uses.bind (uses_call.mpr trivial) fun _ => trivial

theorem obeys_requestCapture_locations {workloadId : Id} {options : CaptureOptions}
    {ctx : OperationContext} :
    Obeys LocationPermits (fun _ _ => True) ds
      (requestCapture settings workloadId options ctx) := by
  have herror : ∀ (ds : List FabricDeed) (e : FabricError), (fun _ _ => True :
      List FabricDeed → FabricResult OperationOutcome → Prop) ds (.error e) := fun _ _ => trivial
  unfold requestCapture
  have hadmitted : Obeys (fun _ => NoLocation) _ []
      (admitCapture settings workloadId options ctx) :=
    obeys_admitCapture fun _ _ => noLocation_of_reads
  refine obeys_noLocation_bind hadmitted.uses herror fun ds₁ run _ => ?_
  have hreserve : Uses NoLocation (reserveCapture run workloadId) := by
    unfold reserveCapture
    exact Uses.bind (uses_db trivial) fun _ => Uses.bind (uses_db trivial) fun _ => uses_db trivial
  refine obeys_noLocation_bind hreserve herror fun ds₂ _ _ => ?_
  have hexecute : Obeys LocationPermits (fun _ _ => True) ds₂ (executeCapture settings run) := by
    unfold executeCapture
    refine Obeys.bind herror obeys_stageCapture_locations fun ds₃ c hid => ?_
    refine Obeys.bind herror obeys_sealCapture_locations fun ds₄ sealed hsealed => ?_
    refine Obeys.bind herror ((obeys_persistCapture_locations (hsealed.1.trans hid)
      hsealed.2).weaken fun _ _ _ _ _ => trivial) fun ds₅ _ (_ : True) => ?_
    refine obeys_noLocation_bind (uses_call.mpr trivial) herror fun ds₆ _ _ => ?_
    refine obeys_call_bind herror trivial fun _ => ?_
    exact obeys_finishCapture_locations ⟨run.attemptId, .head _⟩
  unfold mapErr Program.onError
  rw [obeys_andThen]
  refine hexecute.weaken fun ds₃ result _ => ?_
  cases result with
  | ok a => trivial
  | error e =>
    refine obeys_andThen.mpr ((obeys_of_noLocation ?_).weaken fun _ _ _ => trivial)
    refine Uses.ite trivial ?_
    exact (uses_abortCaptureAttempt_of (fun _ => noLocation_of_reads) (fun _ _ => trivial)
      (fun _ _ => trivial) trivial (fun _ _ _ _ => trivial) trivial).ignore

end Capture

section Restore

variable {settings : Settings} {checkpointId : Id} {targetNode : NodeId} {run : RestoreRun}
  {ds : List FabricDeed}

theorem uses_applyRestore_noLocation : Uses NoLocation (applyRestore settings run) := by
  unfold applyRestore
  refine Uses.bind uses_okOr fun _ => ?_
  refine Uses.bind (uses_callNode (fun _ => noLocation_of_reads) trivial) fun _ => ?_
  exact Uses.bind (uses_ensure.mpr trivial) fun _ => uses_db trivial

theorem uses_commitRestore_noLocation : Uses NoLocation (commitRestore run) := by
  have htoken : Uses NoLocation (restoreToken run) := by
    unfold restoreToken
    split
    · trivial
    · exact uses_call.mpr trivial
  unfold commitRestore
  refine Uses.bind (uses_call.mpr trivial) fun _ => Uses.bind htoken fun _ => ?_
  refine Uses.bind (uses_db trivial) fun _ => Uses.bind (uses_db trivial) fun _ => ?_
  exact Uses.bind uses_okOr fun _ => Uses.bind (uses_call.mpr trivial) fun _ => trivial

theorem uses_finishRestore_noLocation {token : FenceToken} {w : Workload} :
    Uses NoLocation (finishRestore run token w) := by
  unfold finishRestore
  refine Uses.bind (uses_callNode (fun _ => noLocation_of_reads) trivial).attempt fun _ => ?_
  refine Uses.bind (uses_db trivial) fun _ => Uses.bind (uses_db trivial) fun _ => ?_
  exact Uses.bind (uses_db trivial) fun _ => Uses.bind (uses_call.mpr trivial) fun _ => trivial

theorem uses_abortRestoreAttempt_noLocation {detail : String} :
    Uses NoLocation (abortRestoreAttempt run detail) :=
  uses_abortRestoreAttempt (fun _ => noLocation_of_reads) trivial (fun _ _ _ _ => trivial) trivial
    fun _ => trivial

/-- The replica of a restore is added when the target has fetched it. -/
theorem obeys_ensureReplica_locations (hread : ReadCommitted ds checkpointId run.ckpt) :
    Obeys LocationPermits (fun _ _ => True) ds (ensureReplica run) := by
  have herror : ∀ (ds : List FabricDeed) (e : FabricError), (fun _ _ => True :
      List FabricDeed → FabricResult Unit → Prop) ds (.error e) := fun _ _ => trivial
  unfold ensureReplica
  refine obeys_noLocation_bind (uses_firstActive fun _ => noLocation_of_reads) herror
    fun ds₁ source h₁ => ?_
  refine obeys_okOr_bind herror fun source _ => ?_
  refine obeys_noLocation_bind (uses_call.mpr trivial) herror fun ds₂ token h₂ => ?_
  refine obeys_callNode_answered herror fun ds₃ _ h₃ _ => ?_
  refine obeys_noLocation_bind (uses_nodeAddr fun _ => noLocation_of_reads) herror
    fun ds₄ fromAddr h₄ => ?_
  refine obeys_okOr_bind herror fun digest hdigest => ?_
  refine obeys_callNode_answered herror fun ds₅ result h₅ hfetched => ?_
  refine obeys_ensure_bind herror fun hok => ?_
  have hsuffix := (((h₁.trans h₂).trans h₃).trans h₄).trans h₅
  refine ⟨?_, fun _ => trivial⟩
  refine ⟨checkpointId, run.ckpt, digest, hread.mono hsuffix, .inr rfl, hdigest, ?_⟩
  exact ⟨_, result, hfetched, hok, rfl, rfl⟩

theorem obeys_executeRestore_locations (hread : ReadCommitted ds checkpointId run.ckpt) :
    Obeys LocationPermits (fun _ _ => True) ds (executeRestore settings run) := by
  have herror : ∀ (ds : List FabricDeed) (e : FabricError), (fun _ _ => True :
      List FabricDeed → FabricResult OperationOutcome → Prop) ds (.error e) := fun _ _ => trivial
  have hfails : ∀ (ds : List FabricDeed) (e : FabricError), (fun _ _ => True :
      List FabricDeed → FabricResult Unit → Prop) ds (.error e) := fun _ _ => trivial
  have hprovision : Obeys LocationPermits (fun _ _ => True) ds (provisionRestore run) := by
    unfold provisionRestore
    refine obeys_noLocation_bind uses_setLifecycle_noLocation hfails fun ds₁ _ h₁ => ?_
    refine obeys_noLocation_bind (uses_db trivial) hfails fun ds₂ _ h₂ => ?_
    refine obeys_callNode_answered hfails fun ds₃ result h₃ _ => ?_
    refine obeys_ite (fun _ => obeys_of_noLocation uses_setLifecycle_noLocation) fun _ => ?_
    refine Obeys.bind hfails ((obeys_ensureReplica_locations (hread.mono ((h₁.trans h₂).trans
      h₃))).weaken fun _ _ _ _ _ => trivial) fun _ _ (_ : True) => ?_
    exact obeys_of_noLocation uses_setLifecycle_noLocation
  unfold executeRestore
  refine Obeys.bind herror (hprovision.weaken fun _ _ _ _ _ => trivial) fun _ _ (_ : True) => ?_
  refine obeys_noLocation_bind uses_applyRestore_noLocation herror fun _ _ _ => ?_
  refine obeys_noLocation_bind uses_commitRestore_noLocation herror fun _ committed _ => ?_
  exact obeys_of_noLocation uses_finishRestore_noLocation

theorem obeys_requestRestore_locations {options : RestoreOptions} {ctx : OperationContext} :
    Obeys LocationPermits (fun _ _ => True) ds
      (requestRestore settings checkpointId targetNode options ctx) := by
  have herror : ∀ (ds : List FabricDeed) (e : FabricError), (fun _ _ => True :
      List FabricDeed → FabricResult OperationOutcome → Prop) ds (.error e) := fun _ _ => trivial
  unfold requestRestore
  refine Obeys.bind herror (obeys_admitRestore_checked
    fun _ _ h => locationPermits_of_noLocation (noLocation_of_reads h)) fun ds₁ run h₁ => ?_
  obtain ⟨later, older, hsplit⟩ := List.append_of_mem h₁.1.read
  have hrestorable := (Restore.validateRestoreRequest_eq_ok_iff.mp h₁.1.restorable).1
  have hread : ReadCommitted ds₁ checkpointId run.ckpt :=
    ⟨older, ⟨later, hsplit.symm⟩, .inl hrestorable⟩
  have hreserve : Uses NoLocation (reserveRestore run checkpointId) := by
    unfold reserveRestore
    exact Uses.bind (uses_db trivial) fun _ => Uses.bind (uses_db trivial) fun _ => uses_db trivial
  refine obeys_noLocation_bind hreserve herror fun ds₂ _ h₂ => ?_
  unfold mapErr Program.onError
  rw [obeys_andThen]
  refine (obeys_executeRestore_locations (hread.mono h₂)).weaken fun ds₃ result _ => ?_
  cases result with
  | ok a => trivial
  | error e =>
    refine obeys_andThen.mpr ((obeys_of_noLocation ?_).weaken fun _ _ _ => trivial)
    exact Uses.ite trivial uses_abortRestoreAttempt_noLocation.ignore

theorem obeys_migrate_locations {depth : ℕ} {ctx : OperationContext} :
    Obeys LocationPermits (fun _ _ => True) ds
      (Coordinator.migrate settings depth checkpointId targetNode ctx) := by
  have herror : ∀ (ds : List FabricDeed) (e : FabricError), (fun _ _ => True :
      List FabricDeed → FabricResult OperationOutcome → Prop) ds (.error e) := fun _ _ => trivial
  induction depth generalizing checkpointId ds with
  | zero => trivial
  | succ depth ih =>
    unfold Coordinator.migrate
    refine obeys_noLocation_bind (uses_ofExcept.mpr trivial) herror fun _ _ _ => ?_
    refine obeys_noLocation_bind (uses_requireCheckpoint fun _ => noLocation_of_reads) herror
      fun _ ckpt _ => ?_
    refine obeys_noLocation_bind (uses_requireWorkload fun _ => noLocation_of_reads) herror
      fun _ workload _ => ?_
    refine obeys_noLocation_bind (uses_ofExcept.mpr trivial) herror fun _ _ _ => ?_
    refine obeys_ite (fun _ => ?_) fun _ => obeys_requestRestore_locations
    refine obeys_noLocation_bind (uses_nodeIsActive fun _ => noLocation_of_reads) herror
      fun _ active _ => ?_
    refine obeys_noLocation_bind (uses_ensure.mpr trivial) herror fun _ _ _ => ?_
    refine Obeys.bind herror (obeys_requestCapture_locations.weaken fun _ _ _ _ _ => trivial)
      fun _ captured (_ : True) => ?_
    exact obeys_noLocation_bind uses_okOr herror fun _ newId _ => ih

end Restore

section Requests

variable {settings : Settings}

/-- The thread of a request writes no other location. -/
theorem obeys_serve_locations (request : Request) :
    Obeys LocationPermits (fun _ _ => True) [] (request.serve settings) := by
  have hnone (hpermits : ∀ ds op, request.Permits settings ds op → NoLocation op) :
      Obeys LocationPermits (fun _ _ => True) [] (request.serve settings) :=
    (obeys_serve request).mono (fun ds op h => locationPermits_of_noLocation (hpermits ds op h))
      fun _ _ => id
  cases request with
  | capture => exact obeys_answer obeys_requestCapture_locations
  | migrate => exact obeys_answer obeys_migrate_locations
  | restore => exact obeys_answer obeys_requestRestore_locations
  | rollback checkpointId node ctx =>
    refine obeys_answer (obeys_noLocation_bind (uses_ofExcept.mpr trivial) (fun _ _ => trivial)
      fun _ _ _ => obeys_requestRestore_locations)
  | recovery ctx =>
    refine hnone fun ds op h => ?_
    cases op with
    | db op =>
      cases op with
      | checkpointInsert | checkpointUpdate | checkpointAddLocation =>
        rcases h with h | h <;> exact absurd h not_false
      | _ => trivial
    | _ => trivial
  | _ =>
    refine hnone fun ds op h => ?_
    cases op with
    | db op =>
      cases op with
      | checkpointInsert | checkpointUpdate | checkpointAddLocation =>
        simp [Request.Permits, Forks, Rebinds, MonitorWrites, Op.Reads, StoreOp.Reads] at h
      | _ => trivial
    | _ => trivial

end Requests

end CheckpointFabric.Coordinator

namespace CheckpointFabric

open Concurrency Coordinator

/-- Every location that is written in a run has been promoted or fetched. -/
theorem locationPermits_of_run {settings : Settings} {t : List (Event (fabric settings))} {tid : ℕ}
    {op : Op} {input : Input} {before : World}
    (h : System.Run (S := fabric settings) (.performed tid op input before :: t)) :
    LocationPermits (System.deeds tid t) op := by
  obtain ⟨request, -, hpermits⟩ := h.permitted fun request => obeys_serve_locations request
  exact hpermits

end CheckpointFabric
