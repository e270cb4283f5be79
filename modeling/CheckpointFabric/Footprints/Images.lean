import CheckpointFabric.Footprints.Actors
import CheckpointFabric.Footprints.Stages

/-!
# What a capture writes of its checkpoint

A capture inserts the row of its checkpoint bare, and writes it in full when the staged directory
is promoted. Both rows are spelled out here, with what the thread had found out before: the reads
that admitted it, the answer of its node, the time of the seal.

## Main definitions

* `CaptureChecked` — the reads that admitted a capture, and what they showed
* `CaptureRun.Answered`, `CaptureRun.Sealed` — the full image, and the deeds it rests on
* `ImagePermits` — the rows a capture writes, and the node that it asks

## Main results

* `obeys_serve_images` — no request writes another row, or asks another node
-/

set_option autoImplicit false

namespace CheckpointFabric.Coordinator

open Concurrency Fabric

section Definitions

variable (settings : Settings) (run : CaptureRun)

/-- The message that asks the node for what the capture was asked for. -/
def captureRequest : NodeCaptureRequest where
  attemptId := run.attemptId
  checkpointId := run.checkpointId
  workloadId := run.workload.workloadId
  checkpointGeneration := run.checkpointGeneration
  consistency := run.requestedConsistency
  quiescence := run.options.quiescence
  components := run.options.components
  compression := settings.policy.compressionSpec

/-- The bare row of a new checkpoint. -/
def bareCheckpoint (epoch created : ℕ) : CheckpointObject :=
  Capture.checkpointScaffold run.workload run.checkpointId run.checkpointGeneration run.attemptId
    epoch run.node run.options settings.policy created

/-- The class that the answer of the node bears out. -/
def achievedConsistency (result : NodeCaptureResult) : ConsistencyClass :=
  Capture.deriveConsistency (some run.requestedConsistency) run.options.quiescence
    run.options.frontier result.cooperativeAck

/-- The row with what the node has answered. -/
def answeredCheckpoint (epoch created : ℕ) (result : NodeCaptureResult) : CheckpointObject :=
  { bareCheckpoint settings run epoch created with
    components := result.components
    consistency := achievedConsistency run result
    resumability := Capture.deriveResumability (achievedConsistency run result)
      run.options.frontier run.options.sideEffects
    totalLogicalBytes := result.totalLogicalBytes
    totalPhysicalBytes := result.totalPhysicalBytes
    compressedBytes := result.compressedBytes
    protection := captureProtection settings run }

/-- The deeds with which a capture looks at its workload, newest first. -/
def checkReads (workloadId : Id) (w : Workload) (checkpoints : List CheckpointObject) (now : ℕ)
    (older : List FabricDeed) : List FabricDeed :=
  ⟨.now, .ok now⟩ :: ⟨.db (.checkpointList workloadId), .ok checkpoints⟩ ::
    ⟨.db (.workloadGet workloadId), .ok (some w)⟩ :: older

/-- The list of checkpoints that was read last. -/
def lastListRead : List FabricDeed → Option (List CheckpointObject)
  | [] => none
  | ⟨.db (.checkpointList _), .ok checkpoints⟩ :: _ => some checkpoints
  | _ :: ds => lastListRead ds

/-- The node is in the list, and ACTIVE. -/
def activeIn (nodes : List NodeRecord) (node : NodeId) : Bool :=
  nodes.any fun n => n.id == node && n.status == .active

/-- The first ACTIVE node of the list. -/
def leadActive (nodes : List NodeRecord) : Option NodeId :=
  (nodes.filter fun n => n.status == .active).head?.map (·.id)

/-- The lookups after these reads pick the node: the workload's own if a first one shows it ACTIVE,
else the first ACTIVE node that a second one shows. -/
def PickedFor (own node : NodeId) (reads ds : List FabricDeed) : Prop :=
  ∃ nodes : List NodeRecord, ⟨.db .nodeList, .ok nodes⟩ :: reads <:+ ds ∧
    (activeIn nodes own = true ∧ node = own ∨
      activeIn nodes own = false ∧ ∃ others : List NodeRecord,
        ⟨.db .nodeList, .ok others⟩ :: ⟨.db .nodeList, .ok nodes⟩ :: reads <:+ ds ∧
          leadActive others = some node)

/-- The reads `checkReads` let the capture pass, and the lookups after them picked its node. -/
structure Validated (workloadId : Id) (ds : List FabricDeed) (checkpoints : List CheckpointObject)
    (now : ℕ) (older : List FabricDeed) : Prop where
  reads : checkReads workloadId run.workload checkpoints now older <:+ ds
  valid : Capture.validateCaptureRequest run.workload run.options settings.policy
    (lastSeal checkpoints) now = .ok ()
  picked : ∀ own, run.workload.activeNode = some own →
    PickedFor own run.node (checkReads workloadId run.workload checkpoints now older) ds
  listed : ∃ ds₀, ⟨.random, .ok run.attemptId.nonce⟩ :: ds₀ <:+ ds ∧
    lastListRead ds₀ = some checkpoints

/-- The deeds admitted a capture that was asked for. -/
structure CaptureChecked (asks : CaptureOptions → Prop) (workloadId : Id) (ds : List FabricDeed) :
    Prop where
  admitted : CaptureAdmitted workloadId run.options ds run
  asked : asks run.options
  consistency : run.requestedConsistency = run.options.consistency.getD .crashConsistent
  validated : ∃ checkpoints now older, Validated settings run workloadId ds checkpoints now older

/-- The image shows what the node has answered. -/
def CaptureRun.Answered (ds : List FabricDeed) (c : CheckpointObject) : Prop :=
  ∃ epoch created result, c = answeredCheckpoint settings run epoch created result ∧
    result.ok = true ∧
    (⟨.call run.node (.capture (captureRequest settings run)), .ok result⟩ : FabricDeed) ∈ ds

/-- The image is the one that was answered before it was sealed, at this time. -/
def CaptureRun.Sealed (asks : CaptureOptions → Prop) (workloadId : Id) (ds : List FabricDeed)
    (c : CheckpointObject) : Prop :=
  ∃ answered sealMs digest text older, ⟨.now, .ok sealMs⟩ :: older <:+ ds ∧
    CaptureChecked settings run asks workloadId older ∧ run.Answered settings older answered ∧
    c = { answered with sealMs, manifestDigest := some digest, manifestJson := some text }

end Definitions

/-- The rows that a capture writes in full, and the messages that ask for components. -/
def ImagePermits (settings : Settings) (asks : CaptureOptions → Prop) (ds : List FabricDeed) :
    Op → Prop
  | .db (.checkpointInsert c) => ∃ workloadId run epoch created,
    CaptureChecked settings run asks workloadId ds ∧ c = bareCheckpoint settings run epoch created
  | .db (.checkpointUpdate c) => ∃ workloadId run imaged path,
    run.Sealed settings asks workloadId ds imaged ∧ c = persistedCheckpoint run imaged path
  | .call node (.capture req) => ∃ workloadId run,
    CaptureChecked settings run asks workloadId ds ∧ node = run.node ∧
      req = captureRequest settings run
  | _ => True

/-- The operation writes no row in full, and asks no node for components. -/
def NoImage : Op → Prop
  | .db (.checkpointInsert _) | .db (.checkpointUpdate _) | .call _ (.capture _) => False
  | _ => True

section Rules

variable {settings : Settings} {asks : CaptureOptions → Prop} {α β : Type} {workloadId : Id}
  {run : CaptureRun} {ds ds' : List FabricDeed} {c : CheckpointObject} {op : Op}

theorem noImage_of_reads (h : op.Reads) : NoImage op := by
  cases op with
  | db op =>
    cases op with
    | checkpointInsert | checkpointUpdate => exact absurd h not_false
    | _ => trivial
  | call => exact absurd h not_false
  | _ => trivial

theorem noImage_of_tends (h : op.Tends) : NoImage op := by
  cases op with
  | db op =>
    cases op with
    | checkpointInsert | checkpointUpdate => exact absurd h not_false
    | _ => trivial
  | call node request => cases request <;> first | exact absurd h not_false | trivial
  | _ => trivial

theorem noImage_of_aborts (h : op.Aborts) : NoImage op := by
  cases op with
  | db op =>
    cases op with
    | checkpointInsert | checkpointUpdate => exact absurd h not_false
    | _ => trivial
  | call node request => cases request <;> first | exact absurd h not_false | trivial
  | _ => trivial

theorem imagePermits_of_noImage (h : NoImage op) : ImagePermits settings asks ds op := by
  cases op with
  | db op =>
    cases op with
    | checkpointInsert | checkpointUpdate => exact absurd h not_false
    | _ => trivial
  | call node request => cases request <;> first | exact absurd h not_false | trivial
  | _ => trivial

theorem PickedFor.mono {own node : NodeId} {reads : List FabricDeed}
    (h : PickedFor own node reads ds) (hsuffix : ds <:+ ds') : PickedFor own node reads ds' := by
  obtain ⟨nodes, hnodes, hpicked⟩ := h
  refine ⟨nodes, hnodes.trans hsuffix, hpicked.imp_right ?_⟩
  rintro ⟨hown, others, hothers, hfirst⟩
  exact ⟨hown, others, hothers.trans hsuffix, hfirst⟩

theorem CaptureChecked.mono (h : CaptureChecked settings run asks workloadId ds)
    (hsuffix : ds <:+ ds') : CaptureChecked settings run asks workloadId ds' where
  admitted := h.admitted.mono hsuffix
  asked := h.asked
  consistency := h.consistency
  validated := by
    obtain ⟨checkpoints, now, older, hreads, hvalid, hpicked, ds₀, hdrawn, hlisted⟩ := h.validated
    exact ⟨checkpoints, now, older, hreads.trans hsuffix, hvalid,
      fun own hown => (hpicked own hown).mono hsuffix, ds₀, hdrawn.trans hsuffix, hlisted⟩

theorem CaptureRun.Answered.mono (h : run.Answered settings ds c) (hsuffix : ds <:+ ds') :
    run.Answered settings ds' c := by
  obtain ⟨epoch, created, result, hc, hok, hmem⟩ := h
  exact ⟨epoch, created, result, hc, hok, hsuffix.subset hmem⟩

theorem CaptureRun.Sealed.mono (h : run.Sealed settings asks workloadId ds c)
    (hsuffix : ds <:+ ds') : run.Sealed settings asks workloadId ds' c := by
  obtain ⟨answered, sealMs, digest, text, older, holder, hrest⟩ := h
  exact ⟨answered, sealMs, digest, text, older, holder.trans hsuffix, hrest⟩

theorem obeys_noImage_bind {p : Fabric α} {f : α → Fabric β}
    {conclude : List FabricDeed → FabricResult β → Prop} (hp : Uses NoImage p)
    (herror : ∀ ds e, conclude ds (.error e))
    (hf : ∀ ds' a, ds <:+ ds' → Obeys (ImagePermits settings asks) conclude ds' (f a)) :
    Obeys (ImagePermits settings asks) conclude ds (p >>= f) :=
  obeys_uses_bind herror hp (fun _ _ _ => imagePermits_of_noImage) hf

theorem obeys_of_noImage {p : Fabric α} (hp : Uses NoImage p) :
    Obeys (ImagePermits settings asks) (fun _ _ => True) ds p :=
  (Obeys.extend hp fun _ _ _ => imagePermits_of_noImage).weaken fun _ _ _ => trivial

end Rules

section Admission

variable {settings : Settings} {asks : CaptureOptions → Prop} {workloadId : Id}
  {options : CaptureOptions} {ctx : OperationContext} {ds : List FabricDeed}
  {permits : List FabricDeed → Op → Prop}

theorem obeys_nodeIsActive {node : NodeId} (hlist : permits ds (.db .nodeList)) :
    Obeys permits
      (fun ds' result => ∀ active, result = .ok active → ∃ nodes : List NodeRecord,
        ds' = ⟨.db .nodeList, .ok nodes⟩ :: ds ∧ active = activeIn nodes node)
      ds (nodeIsActive node) := by
  refine obeys_call_bind (fun _ _ _ h => absurd h (by simp)) hlist fun nodes active hactive => ?_
  exact ⟨nodes, rfl, (Except.ok.inj hactive).symm⟩

/-- The node of the workload is looked up first, and picked if it is ACTIVE. -/
theorem obeys_pickCaptureNode_own (hreads : ∀ ds op, Op.Reads op → permits ds op)
    {workload : Workload} :
    Obeys permits
      (fun ds' result => ∀ node, result = .ok node → ds <:+ ds' ∧
        ∀ own, workload.activeNode = some own → PickedFor own node ds ds')
      ds (pickCaptureNode workload) := by
  -- Without a node of its own, or with one that is not ACTIVE, the first ACTIVE node is picked from
  -- a list of its own.
  have hrest : ∀ ds', ds <:+ ds' → Obeys permits
      (fun ds'' result => ∀ node, result = .ok node → ∃ others : List NodeRecord,
        ds'' = ⟨.db .nodeList, .ok others⟩ :: ds' ∧ leadActive others = some node) ds' (do
      let nodes ← nodeList
      okOr ((nodes.filter fun n => n.status == .active).head?.map (·.id))
        (.internal "no active nodes available for capture") : Fabric NodeId) := by
    intro ds' _
    refine obeys_call_bind (fun _ _ _ h => absurd h (by simp)) (hreads _ _ trivial) fun others => ?_
    have hpick : Obeys permits
        (fun ds'' result => ∀ node, result = .ok node → ds'' = ⟨.db .nodeList, .ok others⟩ :: ds' ∧
          leadActive others = some node)
        (⟨.db .nodeList, .ok others⟩ :: ds')
        (okOr (leadActive others) (.internal "no active nodes available for capture")) := by
      cases hlead : leadActive others with
      | none => exact fun node h => absurd h (by simp)
      | some lead =>
        intro node hnode
        obtain rfl := Except.ok.inj hnode
        exact ⟨rfl, rfl⟩
    exact hpick.weaken fun _ _ h node hnode => ⟨others, h node hnode⟩
  unfold pickCaptureNode
  cases hactive : workload.activeNode with
  | none =>
    refine (hrest ds (List.suffix_refl ds)).weaken fun ds' _ hothers node hnode => ?_
    obtain ⟨others, rfl, -⟩ := hothers node hnode
    refine ⟨List.suffix_cons _ _, ?_⟩
    rintro own ⟨⟩
  | some own =>
    refine Obeys.bind (fun _ _ _ h => absurd h (by simp)) (obeys_nodeIsActive (hreads _ _ trivial))
      ?_
    rintro ds₁ active ⟨nodes, rfl, rfl⟩
    cases hown : activeIn nodes own with
    | true =>
      intro node hnode
      obtain rfl := Except.ok.inj hnode
      refine ⟨List.suffix_cons _ _, ?_⟩
      rintro own ⟨⟩
      exact ⟨nodes, List.suffix_refl _, .inl ⟨hown, rfl⟩⟩
    | false =>
      refine (hrest _ (List.suffix_cons _ _)).weaken fun ds' _ hothers node hnode => ?_
      obtain ⟨others, rfl, hfirst⟩ := hothers node hnode
      refine ⟨List.suffix_append [_, _] ds, ?_⟩
      rintro own ⟨⟩
      exact ⟨nodes, List.suffix_cons _ _, .inr ⟨hown, others, List.suffix_refl _, hfirst⟩⟩

/-- Listing the nodes leaves the newest list of checkpoints. -/
theorem obeys_pickCaptureNode_listed (hreads : ∀ ds op, Op.Reads op → permits ds op)
    {workload : Workload} {checkpoints : List CheckpointObject}
    (hlisted : lastListRead ds = some checkpoints) :
    Obeys permits (fun ds _ => lastListRead ds = some checkpoints) ds
      (pickCaptureNode workload) := by
  refine Obeys.of_uses uses_pickCaptureNode (fun ds' op hop hlisted => ?_) hlisted
  obtain rfl : op = .db .nodeList := hop
  exact ⟨hreads _ _ trivial, fun _ => hlisted⟩

/-- A capture that is admitted has passed its checks. -/
theorem obeys_admitCapture_checked (hreads : ∀ ds op, Op.Reads op → permits ds op)
    (hasks : asks options) :
    Obeys permits
      (fun ds' result => ∀ run, result = .ok run → ds <:+ ds' ∧
        CaptureChecked settings run asks workloadId ds')
      ds (admitCapture settings workloadId options ctx) := by
  have hvalidated : Obeys permits
      (fun ds' result => ∀ run, result = .ok run → run.options = options ∧
        run.requestedConsistency = options.consistency.getD .crashConsistent ∧
        ∃ checkpoints now older, Validated settings run workloadId ds' checkpoints now older)
      ds (admitCapture settings workloadId options ctx) := by
    have herror : ∀ (ds' : List FabricDeed) (e : FabricError), ∀ run : CaptureRun,
        Except.error e = Except.ok run → run.options = options ∧
          run.requestedConsistency = options.consistency.getD .crashConsistent ∧
          ∃ checkpoints now older, Validated settings run workloadId ds' checkpoints now older :=
      fun _ _ _ h => absurd h (by simp)
    unfold admitCapture
    refine obeys_ofExcept_bind herror fun _ _ => ?_
    refine obeys_call_bind herror (hreads _ _ trivial) fun _ => ?_
    refine Obeys.bind herror (obeys_requireWorkload (hreads _ _ trivial)) fun ds₁ workload hw => ?_
    refine obeys_call_bind herror (hreads _ _ trivial) fun checkpoints => ?_
    refine obeys_call_bind herror (hreads _ _ trivial) fun now => ?_
    -- The checks see the workload, the list and the time as they were just read.
    refine obeys_ofExcept_bind herror fun _ hvalid => obeys_ofExcept_bind herror fun _ _ => ?_
    subst hw
    refine Obeys.bind herror (((obeys_pickCaptureNode_own hreads).and
      (obeys_pickCaptureNode_listed hreads rfl)).mono (fun _ _ h => h.1)
        fun _ _ h node hnode => And.intro (h.1 node hnode) h.2) fun ds₂ node hpicked => ?_
    obtain ⟨hpicked, hlisted⟩ := hpicked
    refine obeys_call_bind herror (hreads _ _ trivial) fun nonce => ?_
    refine obeys_call_bind herror (hreads _ _ trivial) fun latest => ?_
    refine obeys_call_bind herror (hreads _ _ trivial) fun checkpointId => ?_
    intro run hrun
    obtain rfl := Except.ok.inj hrun
    have hsuffix : ds₂ <:+ ⟨.random, .ok checkpointId⟩ ::
        ⟨.db (.checkpointMaxGeneration workloadId), .ok latest⟩ :: ⟨.random, .ok nonce⟩ :: ds₂ :=
      List.suffix_append [_, _, _] ds₂
    exact ⟨rfl, rfl, checkpoints, now, _, hpicked.1.trans hsuffix, hvalid,
      fun own hown => (hpicked.2 own hown).mono hsuffix, ds₂, List.suffix_append [_, _] _, hlisted⟩
  refine ((obeys_admitCapture hreads).extends.and hvalidated).mono (fun _ _ h => h.1) ?_
  rintro ds' result ⟨⟨hsuffix, hadmitted⟩, hvalidated⟩ run hrun
  obtain ⟨hadmitted, -⟩ := hadmitted run hrun
  obtain ⟨rfl, hconsistency, hvalidated⟩ := hvalidated run hrun
  exact ⟨hsuffix, hadmitted, hasks, hconsistency, hvalidated⟩

end Admission

section Capture

variable {settings : Settings} {asks : CaptureOptions → Prop} {workloadId : Id} {run : CaptureRun}
  {ds : List FabricDeed} {c : CheckpointObject}

theorem uses_setLifecycle_noImage {target : LifecycleState} :
    Uses NoImage (setLifecycle c target) :=
  uses_setLifecycle (fun _ => noImage_of_reads) trivial

/-- What is staged is what the node has answered. -/
theorem obeys_stageCapture_images (hchecked : CaptureChecked settings run asks workloadId ds) :
    Obeys (ImagePermits settings asks)
      (fun ds' result => ∀ c, result = .ok c → ds <:+ ds' ∧ run.Answered settings ds' c) ds
      (stageCapture settings run) := by
  have herror : ∀ (ds' : List FabricDeed) (e : FabricError), ∀ c : CheckpointObject,
      Except.error e = Except.ok c → ds <:+ ds' ∧ run.Answered settings ds' c :=
    fun _ _ _ h => absurd h (by simp)
  unfold stageCapture
  refine obeys_call_bind herror trivial fun epoch => obeys_call_bind herror trivial fun created => ?_
  have hsuffix : ds <:+ ⟨.now, .ok created⟩ :: ⟨.epoch, .ok epoch⟩ :: ds :=
    List.suffix_append [_, _] ds
  generalize hds₁ : (_ :: _ :: ds : List FabricDeed) = ds₁ at hsuffix ⊢
  refine obeys_call_bind herror ⟨workloadId, run, epoch, created, hchecked.mono hsuffix, rfl⟩
    fun _ => ?_
  refine obeys_noImage_bind uses_setLifecycle_noImage herror fun ds₂ _ h₂ => ?_
  have h₂ : ds <:+ ds₂ := hsuffix.trans ((List.suffix_cons _ _).trans h₂)
  -- The node is looked up, and asked.
  have hasked : Obeys (ImagePermits settings asks)
      (fun ds' result => ∀ result' : NodeCaptureResult, result = .ok result' → ds₂ <:+ ds' ∧
        (⟨.call run.node (.capture (captureRequest settings run)), .ok result'⟩ : FabricDeed) ∈ ds')
      ds₂ (callNode run.node (.capture (captureRequest settings run))) := by
    refine obeys_noImage_bind (uses_nodeAddr fun _ => noImage_of_reads)
      (fun _ _ _ h => absurd h (by simp)) fun ds₃ _ h₃ => ⟨?_, fun reply result' hreply => ?_⟩
    · exact ⟨workloadId, run, hchecked.mono (h₂.trans h₃), rfl, rfl⟩
    · rw [show reply = .ok result' from hreply]
      exact ⟨h₃.trans (List.suffix_cons _ _), .head _⟩
  refine Obeys.bind herror hasked fun ds₃ result h₃ => ?_
  refine obeys_ensure_bind herror fun hok => obeys_ofExcept_bind herror fun _ _ => ?_
  refine obeys_ofExcept_bind herror fun _ _ => ?_
  intro c hc
  obtain rfl := Except.ok.inj hc
  exact ⟨h₂.trans h₃.1, epoch, created, result, rfl, hok, h₃.2⟩

theorem obeys_sealCapture_images (hchecked : CaptureChecked settings run asks workloadId ds)
    (hanswered : run.Answered settings ds c) :
    Obeys (ImagePermits settings asks)
      (fun ds' result => ∀ sealed, result = .ok sealed →
        run.Sealed settings asks workloadId ds' sealed.1) ds
      (sealCapture settings run c) := by
  have herror : ∀ (ds' : List FabricDeed) (e : FabricError),
      ∀ sealed : CheckpointObject × SealedManifest, Except.error e = Except.ok sealed →
        run.Sealed settings asks workloadId ds' sealed.1 := fun _ _ _ h => absurd h (by simp)
  unfold sealCapture
  refine obeys_noImage_bind uses_setLifecycle_noImage herror fun ds₁ _ h₁ => ?_
  refine obeys_noImage_bind uses_setLifecycle_noImage herror fun ds₂ _ h₂ => ?_
  refine obeys_noImage_bind (uses_call.mpr trivial) herror fun ds₃ _ h₃ => ?_
  refine obeys_call_bind herror trivial fun sealMs => ?_
  refine obeys_noImage_bind (uses_db trivial) herror fun ds₅ _ h₅ => ?_
  refine obeys_noImage_bind uses_setLifecycle_noImage herror fun ds₆ _ h₆ => ?_
  refine obeys_noImage_bind (uses_db trivial) herror fun ds₇ _ h₇ => ?_
  refine obeys_noImage_bind (uses_db trivial) herror fun ds₈ _ h₈ => ?_
  intro sealed hsealed
  obtain rfl := Except.ok.inj hsealed
  have holder := (h₁.trans h₂).trans h₃
  exact ⟨c, sealMs, _, _, ds₃, ((h₅.trans h₆).trans h₇).trans h₈, hchecked.mono holder,
    hanswered.mono holder, rfl⟩

theorem obeys_persistCapture_images {manifest : SealedManifest}
    (hsealed : run.Sealed settings asks workloadId ds c) :
    Obeys (ImagePermits settings asks) (fun _ _ => True) ds (persistCapture run c manifest) := by
  have herror : ∀ (ds : List FabricDeed) (e : FabricError), (fun _ _ => True :
      List FabricDeed → FabricResult Unit → Prop) ds (.error e) := fun _ _ => trivial
  unfold persistCapture
  refine obeys_noImage_bind uses_setLifecycle_noImage herror fun ds₁ _ h₁ => ?_
  refine obeys_noImage_bind (uses_callNode (fun _ => noImage_of_reads) trivial) herror
    fun ds₂ result h₂ => ?_
  refine obeys_noImage_bind (uses_ensure.mpr trivial) herror fun ds₃ _ h₃ => ?_
  refine obeys_call_bind herror ⟨workloadId, run, c, _, hsealed.mono ((h₁.trans h₂).trans h₃), rfl⟩
    fun _ => ?_
  exact obeys_of_noImage (uses_db trivial)

theorem uses_finishCapture_noImage : Uses NoImage (finishCapture settings run c) := by
  unfold finishCapture
  refine Uses.bind (uses_callNode (fun _ => noImage_of_reads) trivial) fun result => ?_
  refine Uses.ite (Uses.bind (uses_db trivial) fun _ => trivial) ?_
  refine Uses.bind (uses_db trivial) fun _ => ?_
  refine Uses.bind (uses_replicateToPolicy.mono fun _ => noImage_of_tends) fun _ => ?_
  refine Uses.bind (uses_db trivial) fun _ => Uses.bind (uses_db trivial) fun _ => ?_
  exact Uses.bind (uses_call.mpr trivial) fun _ => trivial

theorem obeys_executeCapture_images (hchecked : CaptureChecked settings run asks workloadId ds) :
    Obeys (ImagePermits settings asks) (fun _ _ => True) ds (executeCapture settings run) := by
  have herror : ∀ (ds : List FabricDeed) (e : FabricError), (fun _ _ => True :
      List FabricDeed → FabricResult OperationOutcome → Prop) ds (.error e) := fun _ _ => trivial
  unfold executeCapture
  refine Obeys.bind herror (obeys_stageCapture_images hchecked) fun ds₁ c h₁ => ?_
  refine Obeys.bind herror (obeys_sealCapture_images (hchecked.mono h₁.1) h₁.2)
    fun ds₂ sealed h₂ => ?_
  refine Obeys.bind herror ((obeys_persistCapture_images h₂).weaken fun _ _ _ _ _ => trivial)
    fun ds₃ _ (_ : True) => ?_
  refine obeys_noImage_bind (uses_call.mpr trivial) herror fun ds₄ _ _ => ?_
  refine obeys_noImage_bind (uses_db trivial) herror fun ds₅ _ _ => ?_
  exact obeys_of_noImage uses_finishCapture_noImage

theorem obeys_requestCapture_images {options : CaptureOptions} {ctx : OperationContext}
    (hasks : asks options) :
    Obeys (ImagePermits settings asks) (fun _ _ => True) ds
      (requestCapture settings workloadId options ctx) := by
  have herror : ∀ (ds : List FabricDeed) (e : FabricError), (fun _ _ => True :
      List FabricDeed → FabricResult OperationOutcome → Prop) ds (.error e) := fun _ _ => trivial
  unfold requestCapture
  refine Obeys.bind herror (obeys_admitCapture_checked
    (fun _ _ h => imagePermits_of_noImage (noImage_of_reads h)) hasks) fun ds₁ run h₁ => ?_
  have hreserve : Uses NoImage (reserveCapture run workloadId) := by
    unfold reserveCapture
    exact Uses.bind (uses_db trivial) fun _ => Uses.bind (uses_db trivial) fun _ => uses_db trivial
  refine obeys_noImage_bind hreserve herror fun ds₂ _ h₂ => ?_
  unfold mapErr Program.onError
  rw [obeys_andThen]
  refine (obeys_executeCapture_images (h₁.2.mono h₂)).weaken fun ds₃ result _ => ?_
  cases result with
  | ok a => trivial
  | error e =>
    refine obeys_andThen.mpr ((obeys_of_noImage ?_).weaken fun _ _ _ => trivial)
    exact Uses.ite trivial (uses_abortCaptureAttempt.mono fun _ => noImage_of_aborts).ignore

end Capture

section Requests

variable {settings : Settings} {ds : List FabricDeed}

theorem noImage_of_restorePermits {checkpointId : Id} {targetNode : NodeId}
    {options : RestoreOptions} {start : List FabricDeed} {op : Op}
    (h : RestorePermits settings checkpointId targetNode options start ds op) : NoImage op := by
  obtain hreads | ⟨run, hdoes⟩ := h
  · exact noImage_of_reads hreads
  · have hperforms := hdoes.performs
    cases op with
    | db op =>
      cases op with
      | checkpointInsert | checkpointUpdate =>
        rcases hperforms with h | h <;> exact absurd h not_false
      | _ => trivial
    | call node request => cases request <;> first | exact absurd hperforms not_false | trivial
    | _ => trivial

theorem obeys_migrate_images {depth : ℕ} {checkpointId : Id} {targetNode : NodeId}
    {ctx : OperationContext} {asks : CaptureOptions → Prop} (hasks : asks { quiescence := .none }) :
    Obeys (ImagePermits settings asks) (fun _ _ => True) ds
      (Coordinator.migrate settings depth checkpointId targetNode ctx) := by
  have herror : ∀ (ds : List FabricDeed) (e : FabricError), (fun _ _ => True :
      List FabricDeed → FabricResult OperationOutcome → Prop) ds (.error e) := fun _ _ => trivial
  induction depth generalizing checkpointId ds with
  | zero => trivial
  | succ depth ih =>
    unfold Coordinator.migrate
    refine obeys_noImage_bind (uses_ofExcept.mpr trivial) herror fun _ _ _ => ?_
    refine obeys_noImage_bind (uses_requireCheckpoint fun _ => noImage_of_reads) herror
      fun _ ckpt _ => ?_
    refine obeys_noImage_bind (uses_requireWorkload fun _ => noImage_of_reads) herror
      fun _ workload _ => ?_
    refine obeys_noImage_bind (uses_ofExcept.mpr trivial) herror fun _ _ _ => ?_
    refine obeys_ite (fun _ => ?_) fun _ => ?_
    · refine obeys_noImage_bind (uses_nodeIsActive fun _ => noImage_of_reads) herror
        fun _ active _ => ?_
      refine obeys_noImage_bind (uses_ensure.mpr trivial) herror fun _ _ _ => ?_
      refine Obeys.bind herror ((obeys_requestCapture_images hasks).weaken fun _ _ _ _ _ => trivial)
        fun _ captured (_ : True) => ?_
      exact obeys_noImage_bind uses_okOr herror fun _ newId _ => ih
    · exact obeys_requestRestore.mono
        (fun _ _ h => imagePermits_of_noImage (noImage_of_restorePermits h)) fun _ _ _ => trivial

/-- The thread of a request writes no other row of a checkpoint in full, and asks no other node. -/
theorem obeys_serve_images (request : Request) :
    Obeys (ImagePermits settings request.Captures) (fun _ _ => True) []
      (request.serve settings) := by
  have hnone (hpermits : ∀ ds op, request.Permits settings ds op → NoImage op) :
      Obeys (ImagePermits settings request.Captures) (fun _ _ => True) []
        (request.serve settings) :=
    (obeys_serve request).mono (fun ds op h => imagePermits_of_noImage (hpermits ds op h))
      fun _ _ => id
  cases request with
  | capture => exact obeys_answer (obeys_requestCapture_images rfl)
  | migrate => exact obeys_answer (obeys_migrate_images rfl)
  | restore => exact hnone fun _ _ => noImage_of_restorePermits
  | rollback => exact hnone fun _ _ => noImage_of_restorePermits
  | recovery ctx =>
    refine hnone fun ds op h => ?_
    cases op with
    | db op =>
      cases op with
      | checkpointInsert | checkpointUpdate => rcases h with h | h <;> exact absurd h not_false
      | _ => trivial
    | call node request =>
      cases request with
      | capture => exact absurd (h : RecoverySends ds node _) (by rintro (h | h) <;> exact h)
      | _ => trivial
    | _ => trivial
  | _ =>
    refine hnone fun ds op h => ?_
    cases op with
    | db op =>
      cases op with
      | checkpointInsert | checkpointUpdate =>
        simp [Request.Permits, Forks, Rebinds, MonitorWrites, Op.Reads, StoreOp.Reads] at h
      | _ => trivial
    | call node request =>
      cases request with
      | capture => simp [Request.Permits, Forks, Rebinds, deletion, Op.Reads] at h
      | _ => trivial
    | _ => trivial

end Requests

end CheckpointFabric.Coordinator

namespace CheckpointFabric

open Concurrency Coordinator

/-- Every row that is written in full in a run, and every node that is asked, is one of a capture
that was admitted. -/
theorem imagePermits_of_run {settings : Settings} {t : List (Event (fabric settings))} {tid : ℕ}
    {op : Op} {input : Input} {before : World}
    (h : System.Run (S := fabric settings) (.performed tid op input before :: t)) :
    ∃ request, System.requestOf tid t = some request ∧
      ImagePermits settings request.Captures (System.deeds tid t) op :=
  h.permitted obeys_serve_images

end CheckpointFabric
