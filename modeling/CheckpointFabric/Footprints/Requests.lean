import CheckpointFabric.Fabric
import CheckpointFabric.Footprints.Capture
import CheckpointFabric.Footprints.Recovery

/-!
# The footprint of every request

For each request, the operations that its thread may perform, given what it did
before. `permitted` says that no run of the fabric contains any other operation.

## Main definitions

* `Request.Permits` — the operations a request may perform

## Main results

* `obeys_serve` — the program of a request performs these operations only
* `permitted` — so does every thread of every run
-/

set_option autoImplicit false

namespace CheckpointFabric

open Concurrency Coordinator Fabric

/-- A workload row as it is created: it carries a token just when it is claimed. -/
structure Created (settings : Settings) (spec : WorkloadSpec) (claimNode : Option NodeId)
    (w : Workload) : Prop where
  row : ∃ id now token, w = newWorkload settings id spec now claimNode token none 0
  claimed : w.fenceToken.isSome ↔ claimNode.isSome

/-- The operations that fork a workload: the child starts unclaimed. -/
def Forks (settings : Settings) (spec : WorkloadSpec) (op : Op) : Prop :=
  op.Reads ∨ ∃ child parent checkpoint detail,
    op = .db (.workloadInsertFork child parent checkpoint detail) ∧
      ∃ id now ancestor generation,
        child = newWorkload settings id spec now none none ancestor generation

/-- The deeds `ds` admitted the retirement of a checkpoint that was read as `ckpt`. -/
structure RetireAdmitted (checkpointId : Id) (ds : List FabricDeed) (ckpt : CheckpointObject) :
    Prop where
  read : ⟨.db (.checkpointGet checkpointId), .ok (some ckpt)⟩ ∈ ds
  unreserved : ⟨.db (.reservationActiveFor .restore none (some checkpointId)), .ok none⟩ ∈ ds
  unprotected : ckpt.protection = .none

/-- A node was found overdue, by a sweep of this thread. -/
def Swept (ds : List FabricDeed) (n : NodeId) : Prop :=
  ∃ (before : ℕ) (names : List NodeId), ⟨.db (.nodesSweepStale before), .ok names⟩ ∈ ds ∧ n ∈ names

/-- What a round of the monitor may do. -/
def MonitorWrites (ds : List FabricDeed) : StoreOp → Prop
  | .nodesSweepStale _ | .reservationsExpire _ => True
  | .nodeSetStatus n status => status = .stale ∧ Swept ds n
  | .workloadBumpFence id epoch =>
    ∃ (workloads : List Workload) (w : Workload) (n : NodeId), Swept ds n ∧
      ⟨.db .workloadList, .ok workloads⟩ ∈ ds ∧ w ∈ workloads ∧ w.activeNode = some n ∧
      w.workloadId = id ∧ w.executionEpoch = epoch
  | _ => False

/-- The state is what a verification says. -/
def IntegrityState.Decided (state : IntegrityState) : Prop := state = .valid ∨ state = .corrupt

theorem IntegrityState.decided_ite {condition : Prop} [Decidable condition] :
    (if condition then IntegrityState.valid else .corrupt).Decided := by
  split
  · exact .inl rfl
  · exact .inr rfl

/-- A node reports a committed directory. -/
def Rebinds (node : NodeId) (op : Op) : Prop :=
  ∃ id dataDir, op = .db (.checkpointRebindLocation id node dataDir)

namespace Request

/-- The operations that the thread of a request may perform after the deeds `ds`. -/
def Permits (settings : Settings) : Request → List FabricDeed → Op → Prop
  | workloadCreate spec claimNode, _, op =>
    op.Reads ∨ ∃ w, op = .db (.workloadInsert w) ∧ Created settings spec claimNode w
  | workloadFence id _, _, op =>
    op.Reads ∨ (∃ epoch, op = .db (.workloadBumpFence id epoch)) ∨
      ∃ node, op = .db (.workloadRelease id node)
  | workloadAttach workloadId node nodeBootId fenceEpoch _, ds, op =>
    op.Reads ∨ (op = .claim workloadId node fenceEpoch ∧
        ⟨.db (.nodeValidateIdentity node nodeBootId), .ok ()⟩ ∈ ds) ∨
      ∃ resources, op = .db (.nodeHeartbeat node resources)
  | workloadDetach workloadId node, _, op => op = .db (.workloadRelease workloadId node)
  | capture workloadId options _, ds, op => CapturePermits settings workloadId options ds op
  | restore checkpointId node options _, ds, op =>
    RestorePermits settings checkpointId node options [] ds op
  | rollback checkpointId node _, ds, op =>
    RestorePermits settings checkpointId node { rollback := true } [] ds op
  | fork _ spec _, _, op => Forks settings spec op
  | migrate _ _ targetNode _, ds, op =>
    (∃ workloadId, CapturePermits settings workloadId { quiescence := .none } ds op) ∨
      ∃ checkpointId start,
        RestorePermits settings checkpointId targetNode { migration := true } start ds op
  | checkpointVerify checkpointId _, _, op =>
    op.Reads ∨ (∃ node req, op = .call node (.verify req)) ∨
      ∃ state, state.Decided ∧ op = .db (.checkpointSetIntegrity checkpointId state)
  | checkpointProtect checkpointId _, _, op | checkpointUnprotect checkpointId, _, op =>
    op.Reads ∨ ∃ p, op = .db (.checkpointSetProtection checkpointId p)
  | checkpointRetire checkpointId _, ds, op =>
    op.Reads ∨ ∃ ckpt, RetireAdmitted checkpointId ds ckpt ∧
      ((∃ node, op = .call node (deletion checkpointId)) ∨
        op = .db (.checkpointRetire checkpointId))
  | recovery _, ds, op => RecoveryPermits ds op
  | nodeRegister req, _, op =>
    op.Reads ∨ (∃ resources,
        op = .db (.nodeRegister req.nodeId req.listenAddr req.bootId resources)) ∨
      Rebinds req.nodeId op
  | nodeHeartbeat req, ds, op =>
    op.Reads ∨ (∃ resources, op = .db (.nodeHeartbeat req.nodeId resources) ∧
        ⟨.db (.nodeValidateIdentity req.nodeId req.bootId), .ok ()⟩ ∈ ds) ∨
      Rebinds req.nodeId op
  | monitor, ds, op => op.Reads ∨ ∃ call, op = .db call ∧ MonitorWrites ds call

end Request

section Parts

variable {settings : Settings} {ds : List FabricDeed}

theorem obeys_answer {α : Type} {permits : List FabricDeed → Op → Prop}
    {conclude : List FabricDeed → FabricResult α → Prop} {p : Fabric α} {f : α → Response}
    (h : Obeys permits conclude ds p) :
    Obeys permits (fun _ _ => True) ds (Request.answer p f) := by
  unfold Request.answer
  rw [obeys_bind]
  refine h.weaken fun ds' result _ => ?_
  cases result <;> trivial

theorem obeys_answer_of_uses {α : Type} {permits : List FabricDeed → Op → Prop}
    {allowed : Op → Prop} {p : Fabric α} {f : α → Response} (h : Uses allowed p)
    (hpermits : ∀ ds' op, ds <:+ ds' → allowed op → permits ds' op) :
    Obeys permits (fun _ _ => True) ds (Request.answer p f) :=
  obeys_answer (Obeys.extend h hpermits)

theorem uses_chosenId {allowed : Op → Prop} {id : Option Id}
    (hreads : ∀ op, Op.Reads op → allowed op) : Uses allowed (chosenId id) := by
  cases id with
  | none => exact uses_call.mpr (hreads _ trivial)
  | some id => trivial

theorem uses_claimToken {allowed : Op → Prop} {claimNode : Option NodeId}
    (hreads : ∀ op, Op.Reads op → allowed op) : Uses allowed (claimToken claimNode) := by
  cases claimNode with
  | none => trivial
  | some node => exact Uses.bind (uses_call.mpr (hreads _ trivial)) fun _ => trivial

theorem returns_claimToken {claimNode : Option NodeId} :
    Returns (fun token : Option FenceToken => token.isSome ↔ claimNode.isSome)
      (claimToken claimNode) := by
  cases claimNode with
  | none => exact returns_pure (by simp)
  | some node => exact Returns.bind fun _ => returns_pure (by simp)

/-- The operations that create a workload. -/
def Creates (settings : Settings) (spec : WorkloadSpec) (claimNode : Option NodeId) (op : Op) :
    Prop :=
  op.Reads ∨ ∃ w, op = .db (.workloadInsert w) ∧ Created settings spec claimNode w

theorem uses_createWorkload {spec : WorkloadSpec} {claimNode : Option NodeId} :
    Uses (Creates settings spec claimNode) (createWorkload settings spec claimNode) := by
  have hreads : ∀ op, Op.Reads op → Creates settings spec claimNode op := fun _ => .inl
  unfold createWorkload
  have hcreate : Uses (Creates settings spec claimNode) (do
      let workloadId ← chosenId spec.workloadId
      let existing ← workloadGet workloadId
      Program.ensure existing.isNone
        (.invalidArgument s!"workload {toHex workloadId} already exists")
      let now ← nowMs
      let token ← claimToken claimNode
      let w := newWorkload settings workloadId spec now claimNode token none 0
      db (.workloadInsert w)
      pure w) := by
    refine Uses.bind (uses_chosenId hreads) fun id => ?_
    refine Uses.bind (uses_db (hreads _ trivial)) fun _ => ?_
    refine Uses.bind (uses_ensure.mpr trivial) fun _ => ?_
    refine Uses.bind (uses_call.mpr (hreads _ trivial)) fun now => ?_
    refine Uses.bind_of_returns (uses_claimToken hreads) returns_claimToken fun token htoken => ?_
    exact Uses.bind (uses_db (.inr ⟨_, rfl, ⟨id, now, token, rfl⟩, htoken⟩)) fun _ => trivial
  dsimp only
  split
  · exact Uses.bind (uses_nodeIsActive hreads) fun _ =>
      Uses.bind (uses_ensure.mpr trivial) fun _ => hcreate
  · exact hcreate

/-- The operations that fence a workload. -/
def Fences (id : Id) (op : Op) : Prop :=
  op.Reads ∨ (∃ epoch, op = .db (.workloadBumpFence id epoch)) ∨
    ∃ node, op = .db (.workloadRelease id node)

theorem uses_fenceWorkload {id : Id} {ctx : OperationContext} :
    Uses (Fences id) (fenceWorkload settings id ctx) := by
  refine Uses.bind trivial fun _ => Uses.bind (uses_requireWorkload fun _ => .inl) fun w => ?_
  refine Uses.bind (uses_db (.inr (.inl ⟨_, rfl⟩))).mapError fun _ => ?_
  refine Uses.bind (uses_db (.inr (.inr ⟨_, rfl⟩))) fun _ => ?_
  exact Uses.bind (uses_db (.inl trivial)) fun _ => uses_okOr

theorem uses_mergeNodeProviderVersions {node : NodeId} {versions : List (String × String)}
    {allowed : Op → Prop} (hreads : ∀ op, Op.Reads op → allowed op)
    (hheartbeat : ∀ resources, allowed (.db (.nodeHeartbeat node resources))) :
    Uses allowed (mergeNodeProviderVersions node versions) := by
  refine Uses.bind (uses_db (hreads _ trivial)) fun nodes => ?_
  split
  · trivial
  · exact uses_db (hheartbeat _)

theorem obeys_serveAttach {workloadId : Id} {node : NodeId} {nodeBootId : String} {fenceEpoch : ℕ}
    {versions : List (String × String)} :
    Obeys ((Request.workloadAttach workloadId node nodeBootId fenceEpoch versions).Permits settings)
      (fun _ _ => True) ds (serveAttach workloadId node nodeBootId fenceEpoch versions) := by
  generalize hpermits : (Request.workloadAttach workloadId node nodeBootId fenceEpoch
    versions).Permits settings = permits
  have hreads : ∀ ds op, Op.Reads op → permits ds op := by
    rw [← hpermits]
    exact fun _ _ => .inl
  have hclaim : ∀ ds, ⟨.db (.nodeValidateIdentity node nodeBootId), .ok ()⟩ ∈ ds →
      permits ds (.claim workloadId node fenceEpoch) := by
    rw [← hpermits]
    exact fun _ h => .inr (.inl ⟨rfl, h⟩)
  have hheartbeat : ∀ ds resources, permits ds (.db (.nodeHeartbeat node resources)) := by
    rw [← hpermits]
    exact fun _ resources => .inr (.inr ⟨resources, rfl⟩)
  have hadvertise : ∀ (ds : List FabricDeed) (token : FenceToken),
      Obeys permits (fun _ _ => True) ds (do
        if versions.isEmpty then pure ()
        else (mergeNodeProviderVersions node versions).ignore
        pure token : Fabric FenceToken) := by
    intro ds token
    have huses : Uses (fun op => ∀ ds, permits ds op) (do
        if versions.isEmpty then pure ()
        else (mergeNodeProviderVersions node versions).ignore
        pure token : Fabric FenceToken) :=
      Uses.ite trivial (Uses.bind (Uses.ignore (uses_mergeNodeProviderVersions
        (fun op h ds => hreads ds op h) fun resources ds => hheartbeat ds resources))
          fun _ => trivial)
    exact (Obeys.extend huses fun ds' op _ h => h ds').weaken fun _ _ _ => trivial
  refine ⟨hreads _ _ trivial, fun valid => ?_⟩
  cases valid with
  | error e => trivial
  | ok u =>
    refine ⟨hclaim _ (.head _), fun token => ?_⟩
    cases token with
    | error e => trivial
    | ok token => exact hadvertise _ token

theorem uses_fork {checkpointId : Id} {spec : WorkloadSpec} {ctx : OperationContext} :
    Uses (Forks settings spec) (Coordinator.fork settings checkpointId spec ctx) := by
  have hreads : ∀ op, Op.Reads op → Forks settings spec op := fun _ => .inl
  refine Uses.bind trivial fun _ => Uses.bind (uses_requireCheckpoint hreads) fun _ => ?_
  refine Uses.bind (uses_requireWorkload hreads) fun _ => ?_
  refine Uses.bind (uses_chosenId hreads) fun _ => ?_
  refine Uses.bind (uses_call.mpr (hreads _ trivial)) fun _ => ?_
  refine Uses.bind (uses_db (.inr ⟨_, _, _, _, rfl, _, _, _, _, rfl⟩)) fun _ => ?_
  exact Uses.bind (uses_db (hreads _ trivial)) fun _ => uses_okOr

theorem uses_rebindAll {node : NodeId} {dataDir : String} {checkpoints : List Id} :
    Uses (Rebinds node) (rebindAll node dataDir checkpoints) :=
  Uses.forEach fun id _ => uses_db ⟨id, dataDir, rfl⟩

theorem obeys_nodeRegister {req : NodeRegisterRequest} :
    Obeys ((Request.nodeRegister req).Permits settings) (fun _ _ => True) ds
      (Coordinator.nodeRegister req) := by
  refine obeys_call_bind (fun _ _ => trivial) (.inl trivial) fun epoch => ?_
  refine obeys_ensure_bind (fun _ _ => trivial) fun _ => ?_
  refine obeys_call_bind (fun _ _ => trivial) (.inr (.inl ⟨_, rfl⟩)) fun _ => ?_
  exact (Obeys.extend uses_rebindAll fun _ _ _ h => .inr (.inr h)).weaken fun _ _ _ => trivial

theorem uses_staleWorkloads {node : NodeId} {workloads : List HeartbeatWorkload} :
    Uses Op.Reads (staleWorkloads node workloads) := by
  induction workloads with
  | nil => trivial
  | cons hb workloads ih =>
    refine Uses.bind (uses_db trivial).attempt fun row => Uses.bind ih fun stale => ?_
    split
    · exact Uses.ite trivial trivial
    · trivial

theorem obeys_nodeHeartbeat {req : NodeHeartbeatRequest} :
    Obeys ((Request.nodeHeartbeat req).Permits settings) (fun _ _ => True) ds
      (Coordinator.nodeHeartbeat req) := by
  refine obeys_call_bind (fun _ _ => trivial) (.inl trivial) fun epoch => ?_
  refine obeys_ensure_bind (fun _ _ => trivial) fun _ => ?_
  refine obeys_call_bind (fun _ _ => trivial) (.inl trivial) fun _ => ?_
  refine obeys_call_bind (fun _ _ => trivial) (.inl trivial) fun nodes => ?_
  refine obeys_call_bind (fun _ _ => trivial) (.inr (.inl ⟨_, rfl, .tail _ (.head _)⟩)) fun _ => ?_
  refine obeys_uses_bind (fun _ _ => trivial) uses_rebindAll (fun _ _ _ h => .inr (.inr h))
    fun _ _ _ => ?_
  exact (Obeys.extend uses_staleWorkloads fun _ _ _ => .inl).weaken fun _ _ _ => trivial

theorem monitorPermits_of_writes {call : StoreOp} (h : MonitorWrites ds call) :
    Request.monitor.Permits settings ds (.db call) := .inr ⟨call, rfl, h⟩

theorem Swept.mono {ds' : List FabricDeed} (h : ds <:+ ds') {n : NodeId} (hswept : Swept ds n) :
    Swept ds' n := by
  obtain ⟨before, names, hmem, hn⟩ := hswept
  exact ⟨before, names, h.subset hmem, hn⟩

theorem obeys_fenceOwned {n : NodeId} {workloads : List Workload} (hswept : Swept ds n)
    (hlist : ⟨.db .workloadList, .ok workloads⟩ ∈ ds) :
    Obeys (Request.monitor.Permits settings) (fun ds' _ => ds <:+ ds') ds
      (fenceOwned n workloads) := by
  refine obeys_forEach (fun w hw ds' hds' => obeys_ite (fun hactive => ?_) fun _ => hds')
    (List.suffix_refl ds)
  have hbump : Obeys (Request.monitor.Permits settings) (fun ds'' _ => ds <:+ ds'') ds'
      (db (.workloadBumpFence w.workloadId w.executionEpoch)).ignore :=
    ⟨monitorPermits_of_writes ⟨workloads, w, n, hswept.mono hds', hds'.subset hlist, hw, hactive,
      rfl, rfl⟩, fun _ => hds'.trans (List.suffix_cons _ _)⟩
  rw [obeys_bind]
  refine hbump.weaken fun ds'' result h => ?_
  cases result with
  | error e => exact h
  | ok u => exact ⟨.inl trivial, fun _ => h.trans (List.suffix_cons _ _)⟩

theorem obeys_sweepStale :
    Obeys (Request.monitor.Permits settings) (fun ds' _ => ds <:+ ds') ds
      (sweepStale settings) := by
  refine ⟨.inl trivial, fun now => ?_⟩
  cases now with
  | error e => exact List.suffix_cons _ _
  | ok now =>
    refine ⟨monitorPermits_of_writes trivial, fun stale => ?_⟩
    cases stale with
    | error e => exact List.suffix_append [_, _] ds
    | ok stale =>
      generalize hds₁ : (_ :: _ :: ds : List FabricDeed) = ds₁
      have h₁ : ds <:+ ds₁ := hds₁ ▸ List.suffix_append [_, _] ds
      have hread : ⟨.db (.nodesSweepStale (now - settings.staleMs)), .ok stale⟩ ∈ ds₁ :=
        hds₁ ▸ .head _
      refine Obeys.weaken (obeys_forEach (fun n hn ds₂ h₂ => ?_) (List.suffix_refl ds₁))
        fun _ _ h => h₁.trans h
      have hswept : Swept ds₂ n := ⟨_, stale, h₂.subset hread, hn⟩
      refine ⟨monitorPermits_of_writes ⟨rfl, hswept⟩, fun marked => ?_⟩
      cases marked with
      | error e => exact h₂.trans (List.suffix_cons _ _)
      | ok u =>
        refine ⟨.inl trivial, fun audited => ?_⟩
        cases audited with
        | error e => exact h₂.trans (List.suffix_append [_, _] ds₂)
        | ok u =>
          refine ⟨.inl trivial, fun workloads => ?_⟩
          cases workloads with
          | error e => exact h₂.trans (List.suffix_append [_, _, _] ds₂)
          | ok workloads =>
            refine (obeys_fenceOwned (hswept.mono (List.suffix_append [_, _, _] ds₂))
              (.head _)).weaken fun _ _ h => ?_
            exact (h₂.trans (List.suffix_append [_, _, _] ds₂)).trans h

theorem obeys_monitor :
    Obeys (Request.monitor.Permits settings) (fun _ _ => True) ds (monitor settings) := by
  unfold monitor
  rw [obeys_bind, Program.ignore, obeys_andThen]
  refine obeys_sweepStale.weaken fun ds₁ _ _ => ?_
  refine ⟨.inl trivial, fun now => ?_⟩
  cases now with
  | error e => trivial
  | ok now => exact ⟨monitorPermits_of_writes trivial, fun _ => trivial⟩

/-- The operations that verify a checkpoint. -/
def Verifies (checkpointId : Id) (op : Op) : Prop :=
  op.Reads ∨ (∃ node req, op = .call node (.verify req)) ∨
    ∃ state, state.Decided ∧ op = .db (.checkpointSetIntegrity checkpointId state)

theorem uses_verifyCheckpoint {checkpointId : Id} {ctx : OperationContext} :
    Uses (Verifies checkpointId) (verifyCheckpoint settings checkpointId ctx) := by
  have hreads : ∀ op, Op.Reads op → Verifies checkpointId op := fun _ => .inl
  refine Uses.bind trivial fun _ => Uses.bind (uses_requireCheckpoint hreads) fun ckpt => ?_
  refine Uses.bind (uses_ensure.mpr trivial) fun _ => ?_
  refine Uses.bind (uses_firstActive hreads) fun _ => Uses.bind uses_okOr fun node => ?_
  refine Uses.bind uses_okOr fun digest => ?_
  refine Uses.bind (uses_callNode hreads (.inr (.inl ⟨_, _, rfl⟩))) fun answer => ?_
  exact Uses.bind (uses_db (.inr (.inr ⟨_, IntegrityState.decided_ite, rfl⟩))) fun _ => trivial

/-- The operations that change the protection of a checkpoint. -/
def Protects (checkpointId : Id) (op : Op) : Prop :=
  op.Reads ∨ ∃ p, op = .db (.checkpointSetProtection checkpointId p)

theorem uses_protectCheckpoint {checkpointId : Id} {pinned : Bool} :
    Uses (Protects checkpointId) (protectCheckpoint checkpointId pinned) :=
  Uses.bind (uses_requireCheckpoint fun _ => .inl) fun _ => uses_db (.inr ⟨_, rfl⟩)

theorem uses_unprotectCheckpoint {checkpointId : Id} :
    Uses (Protects checkpointId) (unprotectCheckpoint checkpointId) :=
  Uses.bind (uses_requireCheckpoint fun _ => .inl) fun _ => uses_db (.inr ⟨_, rfl⟩)

theorem obeys_admitRetire {checkpointId : Id} {ctx : OperationContext}
    {permits : List FabricDeed → Op → Prop} (hreads : ∀ ds op, Op.Reads op → permits ds op) :
    Obeys permits
      (fun ds' result => ∀ ckpt, result = .ok ckpt → RetireAdmitted checkpointId ds' ckpt) ds
      (admitRetire settings checkpointId ctx) := by
  have herror : ∀ (ds : List FabricDeed) (e : FabricError), ∀ ckpt : CheckpointObject,
      Except.error e = Except.ok ckpt → RetireAdmitted checkpointId ds ckpt :=
    fun _ _ _ h => nomatch h
  unfold admitRetire
  refine obeys_ofExcept_bind herror fun _ _ => ?_
  refine Obeys.bind herror (obeys_requireCheckpoint (hreads _ _ trivial)) fun ds₁ ckpt hckpt => ?_
  refine obeys_call_bind herror (hreads _ _ trivial) fun reserved => ?_
  refine obeys_ensure_bind herror fun hreserved => obeys_ensure_bind herror fun hprotection => ?_
  intro ckpt' hckpt'
  obtain rfl := Except.ok.inj hckpt'
  subst hckpt
  obtain rfl : reserved = none := by simpa using hreserved
  exact ⟨.tail _ (.head _), .head _, hprotection⟩

theorem RetireAdmitted.mono {checkpointId : Id} {ckpt : CheckpointObject}
    {ds' : List FabricDeed} (h : ds <:+ ds') (hadmitted : RetireAdmitted checkpointId ds ckpt) :
    RetireAdmitted checkpointId ds' ckpt :=
  ⟨h.subset hadmitted.read, h.subset hadmitted.unreserved, hadmitted.unprotected⟩

/-- The operations that delete a checkpoint once it is admitted. -/
def Retires (checkpointId : Id) (op : Op) : Prop :=
  op.Reads ∨ (∃ node, op = .call node (deletion checkpointId)) ∨
    op = .db (.checkpointRetire checkpointId)

theorem uses_deleteReplicas {checkpointId : Id} {locations : List DurableLocation} :
    Uses (Retires checkpointId) (deleteReplicas checkpointId locations) := by
  refine Uses.forEach fun loc _ => ?_
  refine Uses.bind (uses_callNode (fun _ => .inl) (.inr (.inl ⟨_, rfl⟩))) fun result => ?_
  split <;> trivial

theorem obeys_retireCheckpoint {checkpointId : Id} {ctx : OperationContext} :
    Obeys ((Request.checkpointRetire checkpointId ctx).Permits settings) (fun _ _ => True) ds
      (retireCheckpoint settings checkpointId ctx) := by
  unfold retireCheckpoint
  refine Obeys.bind (fun _ _ => trivial) (obeys_admitRetire fun _ _ => .inl) fun ds₁ ckpt h₁ => ?_
  have huses : Uses (Retires checkpointId) (do
      deleteReplicas checkpointId ckpt.durableLocations
      db (.checkpointRetire checkpointId)) :=
    Uses.bind uses_deleteReplicas fun _ => uses_db (.inr (.inr rfl))
  refine (Obeys.extend huses fun ds₂ op h₂ hop => ?_).weaken fun _ _ _ => trivial
  exact hop.imp_right fun hop => ⟨ckpt, h₁.mono h₂, hop⟩

theorem uses_detachWorkload {workloadId : Id} {node : NodeId} :
    Uses (fun op : fabricInterface.Op => op = .db (.workloadRelease workloadId node))
      (detachWorkload workloadId node).ignore :=
  Uses.ignore (uses_db rfl)

theorem obeys_requestRollback {checkpointId : Id} {targetNode : NodeId} {ctx : OperationContext} :
    Obeys (RestorePermits settings checkpointId targetNode { rollback := true } ds)
      (fun ds' _ => Unasked ds → Concluded ds') ds
      (requestRollback settings checkpointId targetNode ctx) := by
  unfold requestRollback
  cases settings.policy.authorize ctx.roles settings.policy.authority.rollback with
  | error e => exact .inl
  | ok u => exact obeys_requestRestore

theorem restoreKey_of_capturePermits {workloadId : Id} {options : CaptureOptions} {op : Op}
    (h : CapturePermits settings workloadId options ds op) : op.restoreKey = none := by
  obtain hreads | ⟨run, hdoes⟩ := h
  · exact Op.restoreKey_of_reads hreads
  · cases op with
    | call node request =>
      cases request with
      | restore => exact absurd hdoes.performs not_false
      | _ => rfl
    | _ => rfl

theorem obeys_migrate {depth : ℕ} {checkpointId : Id} {targetNode : NodeId}
    {ctx : OperationContext} :
    Obeys ((Request.migrate depth checkpointId targetNode ctx).Permits settings)
      (fun ds' _ => Unasked ds → Concluded ds') ds
      (Coordinator.migrate settings depth checkpointId targetNode ctx) := by
  -- The permits are the same at every depth and for every checkpoint.
  show Obeys (fun ds op =>
    (∃ workloadId, CapturePermits settings workloadId { quiescence := .none } ds op) ∨
    ∃ checkpointId start,
      RestorePermits settings checkpointId targetNode { migration := true } start ds op) _ _ _
  induction depth generalizing checkpointId ds with
  | zero => exact .inl
  | succ depth ih =>
    have hreads {ds : List FabricDeed} : ∀ (ds' : List FabricDeed) (op : Op), ds <:+ ds' →
        op.Reads →
          (∃ workloadId, CapturePermits settings workloadId { quiescence := .none } ds' op) ∨
          ∃ checkpointId start, RestorePermits settings checkpointId targetNode
            { migration := true } start ds' op := fun _ _ _ h => .inl ⟨0, .inl h⟩
    unfold Coordinator.migrate
    refine obeys_reads_bind_concluded (uses_ofExcept.mpr trivial) hreads fun _ _ => ?_
    refine obeys_reads_bind_concluded (uses_requireCheckpoint fun _ => id) hreads fun _ ckpt => ?_
    refine obeys_reads_bind_concluded (uses_requireWorkload fun _ => id) hreads
      fun _ workload => ?_
    refine obeys_reads_bind_concluded (uses_ofExcept.mpr trivial) hreads fun ds₁ _ => ?_
    refine obeys_ite (fun _ => ?_) fun _ => ?_
    · refine obeys_reads_bind_concluded (uses_nodeIsActive fun _ => id) hreads fun _ active => ?_
      refine obeys_reads_bind_concluded (uses_ensure.mpr trivial) hreads fun ds₂ _ => ?_
      have hcapture : Obeys (CapturePermits settings workload.workloadId { quiescence := .none })
          (fun _ _ => True) ds₂ (requestCapture settings workload.workloadId
            { quiescence := .none } ctx) := obeys_requestCapture
      refine (AsksNone.of_obeys hcapture fun _ _ => restoreKey_of_capturePermits).bind
        (hcapture.mono (fun _ _ h => .inl ⟨workload.workloadId, h⟩) fun _ _ => id)
        fun ds₃ captured _ => ?_
      exact obeys_reads_bind_concluded uses_okOr hreads fun _ newId => ih
    · exact obeys_requestRestore.mono (fun _ _ h => .inr ⟨_, ds₁, h⟩) fun _ _ => id

/-- The program of a request performs the operations that the request permits. -/
theorem obeys_serve (request : Request) :
    Obeys (request.Permits settings) (fun _ _ => True) [] (request.serve settings) := by
  cases request with
  | workloadCreate spec claimNode =>
    exact obeys_answer_of_uses uses_createWorkload fun _ _ _ h => h
  | workloadFence id ctx => exact obeys_answer_of_uses uses_fenceWorkload fun _ _ _ h => h
  | workloadAttach workloadId node nodeBootId fenceEpoch versions =>
    exact obeys_answer obeys_serveAttach
  | workloadDetach workloadId node =>
    exact obeys_answer_of_uses uses_detachWorkload fun _ _ _ h => h
  | capture workloadId options ctx => exact obeys_answer obeys_requestCapture
  | restore checkpointId node options ctx => exact obeys_answer obeys_requestRestore
  | rollback checkpointId node ctx => exact obeys_answer obeys_requestRollback
  | fork checkpointId spec ctx => exact obeys_answer_of_uses uses_fork fun _ _ _ h => h
  | migrate depth checkpointId targetNode ctx => exact obeys_answer obeys_migrate
  | checkpointVerify checkpointId ctx =>
    exact obeys_answer_of_uses uses_verifyCheckpoint fun _ _ _ h => h
  | checkpointProtect checkpointId pinned =>
    exact obeys_answer_of_uses uses_protectCheckpoint fun _ _ _ h => h
  | checkpointUnprotect checkpointId =>
    exact obeys_answer_of_uses uses_unprotectCheckpoint fun _ _ _ h => h
  | checkpointRetire checkpointId ctx => exact obeys_answer obeys_retireCheckpoint
  | recovery ctx => exact obeys_answer obeys_runRecovery
  | nodeRegister req => exact obeys_answer obeys_nodeRegister
  | nodeHeartbeat req => exact obeys_answer obeys_nodeHeartbeat
  | monitor => exact obeys_answer obeys_monitor

end Parts

section Concluded

variable {settings : Settings} {ds : List FabricDeed}

theorem obeys_answer_fact {α : Type} {permits : List FabricDeed → Op → Prop}
    {fact : List FabricDeed → Prop} {p : Fabric α} {f : α → Response}
    (h : Obeys permits (fun ds' _ => fact ds') ds p) :
    Obeys permits (fun ds' _ => fact ds') ds (Request.answer p f) := by
  unfold Request.answer
  rw [obeys_bind]
  refine h.weaken fun ds' result hfact => ?_
  cases result with
  | ok a => exact hfact
  | error e => exact hfact

theorem unasked_nil : Unasked [] := fun _ h => absurd h List.not_mem_nil

/-- Recovery asks no node to restore. -/
theorem restoreKey_of_recoveryPermits {op : Op} (h : RecoveryPermits ds op) :
    op.restoreKey = none := by
  cases op with
  | call node request =>
    cases request with
    | restore => exact absurd (h : RecoverySends ds node _) (by rintro (h | h) <;> exact h)
    | _ => rfl
  | _ => rfl

/-- The thread of a request that asks a node to restore accounts for it before it answers. -/
theorem obeys_serve_concluded (request : Request) :
    Obeys (request.Permits settings) (fun ds _ => Concluded ds) [] (request.serve settings) := by
  have hnone (hpermits : ∀ ds op, request.Permits settings ds op → op.restoreKey = none) :
      Obeys (request.Permits settings) (fun ds _ => Concluded ds) [] (request.serve settings) :=
    ((obeys_serve request).and (AsksNone.of_obeys (obeys_serve request) hpermits)).mono
      (fun _ _ h => h.1) fun _ _ h => .inl (h.2 unasked_nil)
  cases request with
  | restore checkpointId node options ctx =>
    exact (obeys_answer_fact obeys_requestRestore).weaken fun _ _ h => h unasked_nil
  | rollback checkpointId node ctx =>
    exact (obeys_answer_fact obeys_requestRollback).weaken fun _ _ h => h unasked_nil
  | migrate depth checkpointId targetNode ctx =>
    exact (obeys_answer_fact obeys_migrate).weaken fun _ _ h => h unasked_nil
  | recovery ctx => exact hnone fun _ _ => restoreKey_of_recoveryPermits
  | capture workloadId options ctx => exact hnone fun _ _ => restoreKey_of_capturePermits
  | _ =>
    refine hnone fun ds op h => ?_
    cases op with
    | call node request =>
      cases request with
      | restore => simp [Request.Permits, Forks, Rebinds, deletion, Op.Reads] at h
      | _ => rfl
    | _ => rfl

end Concluded

/-- Every operation of every run is one that its thread's request permits. -/
theorem permitted {settings : Settings} {t : List (Event (fabric settings))} {tid : ℕ} {op : Op}
    {input : Input} {before : World}
    (h : System.Run (.performed tid op input before :: t)) :
    ∃ request, System.requestOf tid t = some request ∧
      request.Permits settings (System.deeds tid t) op :=
  h.permitted obeys_serve

end CheckpointFabric
