import CheckpointFabric.Footprints.Requests

/-!
# Who performs an operation

The footprints of the requests, sorted by what performs an operation: a capture, a
restore, recovery, or a request that opens no attempt. An argument about all
requests splits into these cases.

## Main definitions

* `Actor` — who performs an operation
* `Writer` — who makes a call of the store that may write

## Main results

* `writer_of_run` — every call of every run that may write has a writer
-/

set_option autoImplicit false

namespace CheckpointFabric

open Concurrency Coordinator Fabric

section Actors

variable {settings : Settings} {request : Request} {ds : List FabricDeed} {op : Op}

/-- The request captures with these options. -/
def Request.Captures : Request → CaptureOptions → Prop
  | capture _ options _, options' => options' = options
  | migrate _ _ _ _, options' => options' = { quiescence := .none }
  | _, _ => False

theorem Request.Captures.eq {options options' : CaptureOptions} (h : request.Captures options)
    (h' : request.Captures options') : options = options' := by
  cases request with
  | capture | migrate => exact h.trans h'.symm
  | _ => exact absurd h not_false

/-- The operation is one of an admitted capture. -/
def ByCapture (settings : Settings) (request : Request) (ds : List FabricDeed) (op : Op) : Prop :=
  ∃ workloadId options run, request.Captures options ∧
    CaptureDoes settings workloadId options ds op run

/-- The request restores to this node. -/
def Request.Restores : Request → NodeId → Prop
  | restore _ node _ _, target | rollback _ node _, target | migrate _ _ node _, target =>
    target = node
  | _, _ => False

theorem Request.Restores.eq {target target' : NodeId} (h : request.Restores target)
    (h' : request.Restores target') : target = target' := by
  cases request with
  | restore | rollback | migrate => exact h.trans h'.symm
  | _ => exact absurd h not_false

/-- The operation is one of an admitted restore. -/
def ByRestore (settings : Settings) (request : Request) (ds : List FabricDeed) (op : Op) : Prop :=
  ∃ checkpointId targetNode options start run,
    RestoreDoes settings checkpointId targetNode options start ds op run ∧
      request.Restores targetNode

/-- The operations of the requests that open no attempt. -/
def Op.Plain (settings : Settings) : Op → Prop
  | .db (.workloadInsert w) => ∃ spec claimNode, Created settings spec claimNode w
  | .db (.workloadInsertFork child _ _ _) => ∃ spec id now ancestor generation,
    child = newWorkload settings id spec now none none ancestor generation
  | .db (.checkpointSetIntegrity _ state) => state.Decided
  | .db (.workloadBumpFence _ _) | .db (.workloadRelease _ _)
  | .db (.checkpointSetProtection _ _) | .db (.checkpointRetire _)
  | .db (.checkpointRebindLocation _ _ _)
  | .db (.nodeRegister _ _ _ _) | .db (.nodeHeartbeat _ _) | .db (.nodeSetStatus _ _)
  | .db (.nodesSweepStale _) | .db (.reservationsExpire _) | .claim _ _ _
  | .call _ (.verify _) | .call _ (.cleanup _) => True
  | _ => False

/-- Who performs an operation. -/
inductive Actor (settings : Settings) (request : Request) (ds : List FabricDeed) (op : Op) : Prop
  | reads : op.Reads → Actor settings request ds op
  | capture : ByCapture settings request ds op → Actor settings request ds op
  | restore : ByRestore settings request ds op → Actor settings request ds op
  | recovery {ctx : OperationContext} : RecoveryPermits ds op → request = .recovery ctx →
    Actor settings request ds op
  | plain : op.Plain settings → Actor settings request ds op

theorem actor_of_capture {workloadId : Id} {options : CaptureOptions}
    (hrequest : request.Captures options) (h : CapturePermits settings workloadId options ds op) :
    Actor settings request ds op := by
  rcases h with hreads | ⟨run, hdoes⟩
  · exact .reads hreads
  · exact .capture ⟨workloadId, options, run, hrequest, hdoes⟩

theorem actor_of_restore {checkpointId : Id} {targetNode : NodeId} {options : RestoreOptions}
    {start : List FabricDeed} (hrequest : request.Restores targetNode)
    (h : RestorePermits settings checkpointId targetNode options start ds op) :
    Actor settings request ds op := by
  rcases h with hreads | ⟨run, hdoes⟩
  · exact .reads hreads
  · exact .restore ⟨checkpointId, targetNode, options, start, run, hdoes, hrequest⟩

theorem actor_of_permits (h : request.Permits settings ds op) :
    Actor settings request ds op := by
  cases request with
  | workloadCreate spec claimNode =>
    obtain hreads | ⟨w, rfl, hcreated⟩ := h
    · exact .reads hreads
    · exact .plain ⟨spec, claimNode, hcreated⟩
  | workloadFence id ctx =>
    obtain hreads | ⟨epoch, rfl⟩ | ⟨node, rfl⟩ := h
    · exact .reads hreads
    · exact .plain trivial
    · exact .plain trivial
  | workloadAttach workloadId node nodeBootId fenceEpoch versions =>
    obtain hreads | ⟨rfl, -⟩ | ⟨resources, rfl⟩ := h
    · exact .reads hreads
    · exact .plain trivial
    · exact .plain trivial
  | workloadDetach workloadId node =>
    obtain rfl : op = .db (.workloadRelease workloadId node) := h
    exact .plain trivial
  | capture workloadId options ctx => exact actor_of_capture rfl h
  | restore checkpointId node options ctx => exact actor_of_restore rfl h
  | rollback checkpointId node ctx => exact actor_of_restore rfl h
  | fork checkpointId spec ctx =>
    obtain hreads | ⟨child, parent, checkpoint, detail, rfl, hchild⟩ := h
    · exact .reads hreads
    · exact .plain ⟨spec, hchild⟩
  -- A migration takes a checkpoint first, and then restores it on its target.
  | migrate depth checkpointId targetNode ctx =>
    obtain ⟨workloadId, hcapture⟩ | ⟨checkpointId, start, hrestore⟩ := h
    · exact actor_of_capture rfl hcapture
    · exact actor_of_restore rfl hrestore
  | checkpointVerify checkpointId ctx =>
    obtain hreads | ⟨node, req, rfl⟩ | ⟨state, hdecided, rfl⟩ := h
    · exact .reads hreads
    · exact .plain trivial
    · exact .plain hdecided
  | checkpointProtect checkpointId pinned =>
    obtain hreads | ⟨p, rfl⟩ := h
    · exact .reads hreads
    · exact .plain trivial
  | checkpointUnprotect checkpointId =>
    obtain hreads | ⟨p, rfl⟩ := h
    · exact .reads hreads
    · exact .plain trivial
  | checkpointRetire checkpointId ctx =>
    obtain hreads | ⟨ckpt, -, ⟨node, rfl⟩ | rfl⟩ := h
    · exact .reads hreads
    · exact .plain trivial
    · exact .plain trivial
  | recovery ctx => exact .recovery h rfl
  | nodeRegister req =>
    obtain hreads | ⟨resources, rfl⟩ | ⟨id, dataDir, rfl⟩ := h
    · exact .reads hreads
    · exact .plain trivial
    · exact .plain trivial
  | nodeHeartbeat req =>
    obtain hreads | ⟨resources, rfl, -⟩ | ⟨id, dataDir, rfl⟩ := h
    · exact .reads hreads
    · exact .plain trivial
    · exact .plain trivial
  | monitor =>
    obtain hreads | ⟨call, rfl, hwrites⟩ := h
    · exact .reads hreads
    -- The monitor writes registrations, reservations and fences.
    · cases call <;> first | exact .plain trivial | exact absurd hwrites not_false

/-- Who writes to the store. -/
inductive Writer (settings : Settings) (request : Request) (ds : List FabricDeed) (op : StoreOp) :
    Prop
  | capture {workloadId : Id} {options : CaptureOptions} {run : CaptureRun} :
    request.Captures options → CaptureDoes settings workloadId options ds (.db op) run →
    run.Writes settings workloadId op → Writer settings request ds op
  | restore {checkpointId : Id} {targetNode : NodeId} {options : RestoreOptions}
      {start : List FabricDeed} {run : RestoreRun} :
    RestoreDoes settings checkpointId targetNode options start ds (.db op) run →
    run.Writes checkpointId op → request.Restores targetNode → Writer settings request ds op
  | recovery {ctx : OperationContext} : RecoveryWrites ds op → request = .recovery ctx →
    Writer settings request ds op
  | plain : (Op.db op).Plain settings → Writer settings request ds op

theorem writer_of_permits {op : StoreOp} (h : request.Permits settings ds (.db op))
    (hop : ¬ op.Reads) : Writer settings request ds op := by
  cases actor_of_permits h with
  | reads hreads => exact absurd hreads hop
  | capture hcapture =>
    obtain ⟨workloadId, options, run, hrequest, hdoes⟩ := hcapture
    exact .capture hrequest hdoes (hdoes.performs.resolve_left hop)
  | restore hrestore =>
    obtain ⟨checkpointId, targetNode, options, start, run, hdoes, hrequest⟩ := hrestore
    exact .restore hdoes (hdoes.performs.resolve_left hop) hrequest
  | recovery hrecovery hrequest => exact .recovery (hrecovery.resolve_left hop) hrequest
  | plain hplain => exact .plain hplain

/-- Every call of every run that may write is one of a capture, a restore, recovery, or a request
without an attempt. -/
theorem writer_of_run {t : List (Event (fabric settings))} {tid : ℕ} {op : StoreOp}
    {input : Input} {before : World}
    (h : System.Run (S := fabric settings) (.performed tid (.db op) input before :: t))
    (hop : ¬ op.Reads) :
    ∃ request, System.requestOf tid t = some request ∧
      Writer settings request (System.deeds tid t) op := by
  obtain ⟨request, hrequest, hpermits⟩ := permitted h
  exact ⟨request, hrequest, writer_of_permits hpermits hop⟩

/-- A row that is inserted is one of a creation. -/
theorem created_of_writer {w : Workload} (h : Writer settings request ds (.workloadInsert w)) :
    ∃ spec claimNode, Created settings spec claimNode w := by
  cases h with
  | capture _ _ hwrites | restore _ hwrites | recovery hwrites => exact absurd hwrites not_false
  | plain hplain => exact hplain

/-- A child that is inserted starts unclaimed. -/
theorem forked_of_writer {child : Workload} {parent checkpoint : Id} {detail : String}
    (h : Writer settings request ds (.workloadInsertFork child parent checkpoint detail)) :
    ∃ spec id now ancestor generation,
      child = newWorkload settings id spec now none none ancestor generation := by
  cases h with
  | capture _ _ hwrites | restore _ hwrites | recovery hwrites => exact absurd hwrites not_false
  | plain hplain => exact hplain

end Actors

end CheckpointFabric
