import CheckpointFabric.Coordinator.Plumbing
import CheckpointFabric.Store.Specs

/-!
# Footprints of the common steps

The footprint of a program is the class of operations it may perform. Reads belong
to every footprint; here are the footprints of the steps that all operations share.
-/

set_option autoImplicit false

namespace CheckpointFabric

open Concurrency

/-- The operations that write to no table and send no message. -/
def Op.Reads : Op → Prop
  | .db op => op.Reads
  | .claim _ _ _ | .call _ _ => False
  | .now | .epoch | .random | .fire _ => True

/-- The commit transaction of a restore. -/
def Op.CommitsRestore : Op → Prop
  | .db (.restoreCommit _ _ _ _ _ _) => True
  | _ => False

/-- A message that carries authority. -/
def Op.Grants : Op → Prop
  | .call _ (.resume req) => req.fenceToken.isSome
  | _ => False

/-- The attempt whose components the operation asks a node to restore. -/
def Op.restoreKey : Op → Option AttemptId
  | .call _ (.restore req) => some req.attemptId
  | _ => none

theorem Op.restoreKey_of_reads {op : Op} (h : op.Reads) : op.restoreKey = none := by
  cases op with
  | call => exact absurd h not_false
  | _ => rfl

/-- No node was asked to restore. -/
def Unasked (ds : List FabricDeed) : Prop := ∀ d ∈ ds, d.op.restoreKey = none

theorem Unasked.cons {ds : List FabricDeed} {d : FabricDeed} (h : Unasked ds)
    (hd : d.op.restoreKey = none) : Unasked (d :: ds) := by
  intro d' hd'
  rcases List.mem_cons.mp hd' with rfl | hd'
  · exact hd
  · exact h d' hd'

/-- Nodes were asked to restore for this attempt only. -/
def AskedFor (key : AttemptId) (ds : List FabricDeed) : Prop :=
  ∀ d ∈ ds, ∀ k ∈ d.op.restoreKey, k = key

theorem AskedFor.cons {key : AttemptId} {ds : List FabricDeed} {d : FabricDeed}
    (h : AskedFor key ds) (hd : ∀ k ∈ d.op.restoreKey, k = key) : AskedFor key (d :: ds) := by
  intro d' hd'
  rcases List.mem_cons.mp hd' with rfl | hd'
  · exact hd
  · exact h d' hd'

theorem Unasked.askedFor {key : AttemptId} {ds : List FabricDeed} (h : Unasked ds) :
    AskedFor key ds := by
  intro d hd k hk
  rw [h d hd] at hk
  exact absurd hk (Option.not_mem_none k)

/-- The operations that open an attempt. -/
def Op.Opens : Op → Prop
  | .db (.reservationCreate _ _ _ _ _ _) | .db (.attemptBegin _ _ _ _ _) => True
  | _ => False

/-- The deed draws the identity. -/
def drawsId (id : Id) : FabricDeed → Bool
  | ⟨.random, .ok n⟩ => n == id
  | _ => false

theorem eq_of_drawsId {id : Id} {d : FabricDeed} (h : drawsId id d = true) :
    d = ⟨.random, .ok id⟩ := by
  unfold drawsId at h
  split at h
  · rw [eq_of_beq h]
  · exact absurd h Bool.false_ne_true

/-- The deed draws the nonce of the attempt. -/
def drawsAttempt (key : AttemptId) : FabricDeed → Bool := drawsId key.nonce

namespace Coordinator

open Fabric

/-- The journal entry was looked up, with this answer. -/
def Looked (ds : List FabricDeed) (kind : JournalKind) (key : AttemptId) (state : JournalState)
    (found : Bool) : Prop :=
  ⟨.db (.journalHas kind key state), .ok found⟩ ∈ ds

/-- The last deed has read the row of a checkpoint: if it is there, its lifecycle is one of
these. -/
def JustRead (ds : List FabricDeed) (id : Id) (states : LifecycleState → Prop) : Prop :=
  ∃ row older, ds = ⟨.db (.checkpointGet id), .ok row⟩ :: older ∧
    ∀ c : CheckpointObject, row = some c → states c.lifecycle

/-- No restore was committed. -/
def Uncommitted (ds : List FabricDeed) : Prop := ∀ d ∈ ds, ¬ d.op.CommitsRestore

/-- The node is one of the list. -/
def ListsNode (nodes : List NodeRecord) (node : NodeId) : Prop := ∃ n ∈ nodes, n.id = node

/-- A call of a node has ended with this result: the node was called, or it was not found. -/
def Ended (ds : List FabricDeed) (node : NodeId) (request : NodeRequest)
    (result : FabricResult request.Result) : Prop :=
  ⟨.call node request, result⟩ ∈ ds ∨
    ∃ nodes : FabricResult (List NodeRecord), ⟨.db .nodeList, nodes⟩ ∈ ds ∧
      ∀ listed, nodes = .ok listed → ¬ ListsNode listed node

theorem Ended.mono {ds ds' : List FabricDeed} {node : NodeId} {request : NodeRequest}
    {result : FabricResult request.Result} (h : Ended ds node request result)
    (hsub : ds ⊆ ds') : Ended ds' node request result := by
  rcases h with hcall | ⟨nodes, hnodes, hfind⟩
  · exact .inl (hsub hcall)
  · exact .inr ⟨nodes, hsub hnodes, hfind⟩

section LastRead

/-- The deed reads the row of a workload. -/
def readsWorkload (d : FabricDeed) : Bool :=
  match d.op with
  | .db (.workloadGet _) => true
  | _ => false

/-- The newest read of a workload row. -/
def lastWorkloadRead (ds : List FabricDeed) : Option FabricDeed := ds.find? readsWorkload

/-- The newest read of a workload row found `w`, after the deeds `older`. -/
def LastRead (ds : List FabricDeed) (id : Id) (w : Workload) (older : List FabricDeed) : Prop :=
  ∃ recent, ds = recent ++ ⟨.db (.workloadGet id), .ok (some w)⟩ :: older ∧
    ∀ d ∈ recent, readsWorkload d = false

variable {ds older : List FabricDeed} {id : Id} {w : Workload}

theorem LastRead.start : LastRead (⟨.db (.workloadGet id), .ok (some w)⟩ :: older) id w older :=
  ⟨[], rfl, fun _ h => absurd h List.not_mem_nil⟩

theorem LastRead.cons {d : FabricDeed} (hd : readsWorkload d = false) (h : LastRead ds id w older) :
    LastRead (d :: ds) id w older := by
  obtain ⟨recent, rfl, hrecent⟩ := h
  refine ⟨d :: recent, rfl, fun d' hd' => ?_⟩
  rcases List.mem_cons.mp hd' with rfl | hd'
  · exact hd
  · exact hrecent d' hd'

theorem LastRead.suffix (h : LastRead ds id w older) :
    (⟨.db (.workloadGet id), .ok (some w)⟩ : FabricDeed) :: older <:+ ds := by
  obtain ⟨recent, rfl, -⟩ := h
  exact List.suffix_append recent _

end LastRead

section LastSeen

/-- The deed reads the row of the checkpoint. -/
def readsCheckpoint (id : Id) (d : FabricDeed) : Bool :=
  match d.op with
  | .db (.checkpointGet id') => id' == id
  | _ => false

/-- The lifecycle that a read of a checkpoint showed. -/
def shownLifecycle : FabricDeed → Option LifecycleState
  | ⟨.db (.checkpointGet _), .ok (some c)⟩ => some c.lifecycle
  | _ => none

/-- The lifecycle that the newest read of the row showed. -/
def lastSeen (id : Id) (ds : List FabricDeed) : Option LifecycleState :=
  (ds.find? (readsCheckpoint id)).bind shownLifecycle

variable {ds : List FabricDeed} {id : Id} {l : LifecycleState}

theorem lastSeen_cons_of_get {row : FabricResult (Option CheckpointObject)} :
    lastSeen id (⟨.db (.checkpointGet id), row⟩ :: ds) =
      shownLifecycle ⟨.db (.checkpointGet id), row⟩ := by
  rw [lastSeen, List.find?_cons_of_pos (by simp [readsCheckpoint])]
  rfl

theorem lastSeen_cons_of_not_reads {d : FabricDeed} (h : readsCheckpoint id d = false) :
    lastSeen id (d :: ds) = lastSeen id ds := by
  rw [lastSeen, List.find?_cons_of_neg (by simp [h]), lastSeen]

/-- What the newest read showed was read. -/
theorem exists_mem_of_lastSeen (h : lastSeen id ds = some l) :
    ∃ c : CheckpointObject, ⟨.db (.checkpointGet id), .ok (some c)⟩ ∈ ds ∧ c.lifecycle = l := by
  obtain ⟨d, hfind, hshown⟩ := Option.bind_eq_some_iff.mp h
  have hmem := List.mem_of_find?_eq_some hfind
  have hreads := List.find?_some hfind
  unfold shownLifecycle at hshown
  split at hshown
  · rename_i id' c
    obtain rfl : id' = id := eq_of_beq hreads
    exact ⟨c, hmem, Option.some.inj hshown⟩
  · exact absurd hshown nofun

/-- A row that was just read was seen in a state that is allowed. -/
theorem JustRead.of_lastSeen {states : LifecycleState → Prop} (h : JustRead ds id states)
    (hseen : lastSeen id ds = some l) : states l := by
  obtain ⟨row, older, rfl, hstates⟩ := h
  rw [lastSeen_cons_of_get] at hseen
  cases row with
  | none => exact absurd hseen nofun
  | some c => exact Option.some.inj hseen ▸ hstates c rfl

end LastSeen

variable {allowed : Op → Prop} {α β : Type}

section Rules

theorem uses_db {op : StoreOp} (h : allowed (.db op)) : Uses allowed (db op) :=
  ⟨h, fun _ => trivial⟩

theorem uses_okOr {value : Option α} {e : FabricError} : Uses allowed (okOr value e) := by
  cases value <;> trivial

theorem uses_mapErr {p : Fabric α} {handler : FabricError → Fabric Unit} (hp : Uses allowed p)
    (hhandler : ∀ e, Uses allowed (handler e)) : Uses allowed (mapErr p handler) := by
  refine hp.onError fun e => ?_
  split
  · trivial
  · exact (hhandler e).ignore

end Rules

theorem uses_fire {failpoint : String} : Uses Op.Reads (fire failpoint) :=
  ⟨trivial, fun _ => trivial⟩

section Lookups

variable (hreads : ∀ op, Op.Reads op → allowed op)
include hreads

theorem uses_requireWorkload {id : Id} : Uses allowed (requireWorkload id) :=
  Uses.bind (uses_db (hreads _ trivial)) fun _ => uses_okOr

theorem uses_requireCheckpoint {id : Id} : Uses allowed (requireCheckpoint id) :=
  Uses.bind (uses_db (hreads _ trivial)) fun _ => uses_okOr

theorem uses_nodeIsActive {node : NodeId} : Uses allowed (nodeIsActive node) :=
  Uses.bind (uses_db (hreads _ trivial)) fun _ => trivial

theorem uses_nodeRuntime {node : NodeId} : Uses allowed (nodeRuntime node) := by
  refine Uses.bind (uses_db (hreads _ trivial)) fun _ => ?_
  split
  · exact uses_okOr
  · trivial

theorem uses_nodeAddr {node : NodeId} : Uses allowed (nodeAddr node) := by
  refine Uses.bind (uses_db (hreads _ trivial)) fun _ => ?_
  split <;> trivial

theorem uses_callNode {node : NodeId} {request : NodeRequest} (h : allowed (.call node request)) :
    Uses allowed (callNode node request) :=
  (uses_nodeAddr hreads).bind fun _ => ⟨h, fun _ => trivial⟩

theorem uses_firstActive {locations : List DurableLocation} :
    Uses allowed (firstActive locations) := by
  induction locations with
  | nil => trivial
  | cons l locations ih =>
    refine (uses_nodeIsActive hreads).attempt.bind fun _ => ?_
    split
    · trivial
    · exact ih

theorem uses_setLifecycle {ckpt : CheckpointObject} {target : LifecycleState}
    (h : allowed (.db (.checkpointSetLifecycle ckpt.checkpointId target .pending))) :
    Uses allowed (setLifecycle ckpt target) :=
  Uses.bind (uses_db (hreads _ trivial)) fun _ => Uses.bind trivial fun _ => uses_db h

end Lookups

section Keeps

variable {permits : List FabricDeed → Op → Prop} {fact : List FabricDeed → Prop}

theorem keeps_okOr {value : Option α} {e : FabricError} :
    Keeps permits fact (okOr value e) := by
  cases value <;> exact keeps_done

variable (hreads : ∀ ds op, fact ds → Op.Reads op →
  permits ds op ∧ ∀ reply, fact (⟨op, reply⟩ :: ds))
include hreads

theorem keeps_of_reads {p : Fabric α} (huses : Uses Op.Reads p) : Keeps permits fact p :=
  Keeps.of_uses huses hreads

theorem keeps_callNode {node : NodeId} {request : NodeRequest}
    (h : ∀ ds, fact ds → permits ds (.call node request) ∧
      ∀ reply, fact (⟨.call node request, reply⟩ :: ds)) :
    Keeps permits fact (callNode node request) :=
  (keeps_of_reads hreads (uses_nodeAddr fun _ => id)).bind fun _ => keeps_call h

/-- A lifecycle is set just after the row was read in a state that allows it. -/
theorem keeps_setLifecycle {ckpt : CheckpointObject} {target : LifecycleState}
    (h : ∀ ds, fact ds → JustRead ds ckpt.checkpointId (·.canTransition target) →
      permits ds (.db (.checkpointSetLifecycle ckpt.checkpointId target .pending)) ∧
      ∀ reply, fact (⟨.db (.checkpointSetLifecycle ckpt.checkpointId target .pending), reply⟩ ::
        ds)) :
    Keeps permits fact (setLifecycle ckpt target) := by
  intro ds hds
  obtain ⟨hpermits, hkeep⟩ := hreads ds (.db (.checkpointGet ckpt.checkpointId)) hds trivial
  refine ⟨hpermits, fun reply => ?_⟩
  cases reply with
  | error e => exact hkeep _
  | ok cur =>
    show Obeys _ _ _ (Program.ofExcept (((cur.map (·.lifecycle)).getD ckpt.lifecycle).transition
      target) >>= fun _ => db (.checkpointSetLifecycle ckpt.checkpointId target .pending))
    rw [obeys_bind, obeys_ofExcept]
    cases htransition : ((cur.map (·.lifecycle)).getD ckpt.lifecycle).transition target with
    | error e => exact hkeep _
    | ok u =>
      refine h _ (hkeep _) ⟨cur, ds, rfl, fun c hc => ?_⟩
      rw [hc] at htransition
      exact LifecycleState.transition_eq_ok_iff.mp htransition

end Keeps

section Facts

variable {permits : List FabricDeed → Op → Prop} {ds : List FabricDeed}

theorem obeys_okOr_bind {conclude : List FabricDeed → FabricResult β → Prop} {value : Option α}
    {e : FabricError} {f : α → Fabric β} (herror : ∀ ds e, conclude ds (.error e))
    (h : ∀ a, value = some a → Obeys permits conclude ds (f a)) :
    Obeys permits conclude ds (okOr value e >>= f) := by
  cases value with
  | none => exact herror ds e
  | some a => exact h a rfl

theorem obeys_requireWorkload {id : Id} (hpermits : permits ds (.db (.workloadGet id))) :
    Obeys permits
      (fun ds' result => ∀ w : Workload, result = .ok w →
        ds' = ⟨.db (.workloadGet id), .ok (some w)⟩ :: ds)
      ds (requireWorkload id) := by
  refine obeys_call_bind (fun _ _ _ h => nomatch h) hpermits fun row => ?_
  cases row with
  | none => exact fun _ h => nomatch h
  | some w => exact fun _ h => by rw [← Except.ok.inj h]

theorem obeys_requireCheckpoint {id : Id} (hpermits : permits ds (.db (.checkpointGet id))) :
    Obeys permits
      (fun ds' result => ∀ c : CheckpointObject, result = .ok c →
        ds' = ⟨.db (.checkpointGet id), .ok (some c)⟩ :: ds)
      ds (requireCheckpoint id) := by
  refine obeys_call_bind (fun _ _ _ h => nomatch h) hpermits fun row => ?_
  cases row with
  | none => exact fun _ h => nomatch h
  | some c => exact fun _ h => by rw [← Except.ok.inj h]

/-- A lifecycle update that succeeds has set the lifecycle. -/
theorem obeys_setLifecycle {ckpt : CheckpointObject} {target : LifecycleState} :
    Obeys (fun _ _ => True)
      (fun ds' result => ∀ u, result = .ok u →
        ⟨.db (.checkpointSetLifecycle ckpt.checkpointId target .pending), .ok ()⟩ ∈ ds')
      ds (setLifecycle ckpt target) := by
  refine obeys_call_bind (fun _ _ _ h => nomatch h) trivial fun cur => ?_
  refine obeys_ofExcept_bind (fun _ _ _ h => nomatch h) fun _ _ => ⟨trivial, fun reply u hu => ?_⟩
  rw [show reply = .ok () from hu]
  exact .head _

/-- The address of a node is that of a node in the list. -/
theorem obeys_nodeAddr {node : NodeId} (hlist : permits ds (.db .nodeList)) :
    Obeys permits
      (fun ds' result => ∃ nodes : FabricResult (List NodeRecord),
        ds' = ⟨.db .nodeList, nodes⟩ :: ds ∧
          ((∃ addr, result = .ok addr) ∧ (∃ listed, nodes = .ok listed ∧ ListsNode listed node) ∨
            (∃ e, result = .error e) ∧ ∀ listed, nodes = .ok listed → ¬ ListsNode listed node))
      ds (nodeAddr node) := by
  unfold nodeAddr
  rw [obeys_bind]
  refine ⟨hlist, fun nodes => ?_⟩
  cases nodes with
  | error e => exact ⟨.error e, rfl, .inr ⟨⟨e, rfl⟩, fun _ h => nomatch h⟩⟩
  | ok listed =>
    rw [obeys_done, Program.onValue_ok]
    split
    · rename_i n hfind
      refine ⟨.ok listed, rfl, .inl ⟨⟨n.addr, rfl⟩, listed, rfl, ?_⟩⟩
      exact ⟨n, List.mem_of_find?_eq_some hfind, by simpa using List.find?_some hfind⟩
    · rename_i hfind
      refine ⟨.ok listed, rfl, .inr ⟨⟨_, rfl⟩, fun listed' h => ?_⟩⟩
      obtain rfl := Except.ok.inj h
      rintro ⟨n, hmem, rfl⟩
      exact absurd (List.find?_eq_none.mp hfind n hmem) (by simp)

/-- A call of a node lists the nodes first, and is sent to a node of the list. -/
theorem obeys_callNode {fact : List FabricDeed → Prop} {node : NodeId} {request : NodeRequest}
    (hlist : permits ds (.db .nodeList)) (hlisted : ∀ reply, fact (⟨.db .nodeList, reply⟩ :: ds))
    (hsend : ∀ nodes : List NodeRecord, ListsNode nodes node →
      permits (⟨.db .nodeList, .ok nodes⟩ :: ds) (.call node request) ∧
        ∀ reply, fact (⟨.call node request, reply⟩ :: ⟨.db .nodeList, .ok nodes⟩ :: ds)) :
    Obeys permits (fun ds' _ => fact ds') ds (callNode node request) := by
  unfold callNode
  rw [obeys_bind]
  refine (obeys_nodeAddr hlist).weaken fun ds' result h => ?_
  obtain ⟨nodes, rfl, ⟨⟨addr, rfl⟩, listed, rfl, hnode⟩ | ⟨⟨e, rfl⟩, -⟩⟩ := h
  · exact hsend listed hnode
  · exact hlisted nodes

/-- A call of a node lists the nodes and sends its message, or does not find the node. -/
theorem obeys_callNode_deeds (node : NodeId) (request : NodeRequest)
    (hlist : permits ds (.db .nodeList))
    (hcall : ∀ nodes, permits (⟨.db .nodeList, nodes⟩ :: ds) (.call node request)) :
    Obeys permits
      (fun ds' result =>
        (∃ nodes, ds' = ⟨.call node request, result⟩ :: ⟨.db .nodeList, nodes⟩ :: ds) ∨
          ∃ nodes e, ds' = ⟨.db .nodeList, nodes⟩ :: ds ∧ result = .error e ∧
            ∀ listed, nodes = .ok listed → ¬ ListsNode listed node)
      ds (callNode node request) := by
  unfold callNode
  rw [obeys_bind]
  refine (obeys_nodeAddr hlist).weaken fun ds' result h => ?_
  obtain ⟨nodes, rfl, ⟨⟨addr, rfl⟩, -⟩ | ⟨⟨e, rfl⟩, hnone⟩⟩ := h
  · exact ⟨hcall nodes, fun reply => .inl ⟨nodes, rfl⟩⟩
  · exact .inr ⟨nodes, e, rfl, rfl, hnone⟩

/-- Likewise, when nothing needs to be known of the operations. -/
theorem obeys_callNode_ended (node : NodeId) (request : NodeRequest) :
    Obeys (fun _ _ => True)
      (fun ds' result =>
        (∃ nodes, ds' = ⟨.call node request, result⟩ :: ⟨.db .nodeList, nodes⟩ :: ds) ∨
          ∃ nodes e, ds' = ⟨.db .nodeList, nodes⟩ :: ds ∧ result = .error e ∧
            ∀ listed, nodes = .ok listed → ¬ ListsNode listed node)
      ds (callNode node request) :=
  obeys_callNode_deeds node request trivial fun _ => trivial

end Facts

end Coordinator

end CheckpointFabric
