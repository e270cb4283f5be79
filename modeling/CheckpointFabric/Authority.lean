import CheckpointFabric.Node

/-!
# What a node knows of its authority

A node keeps the workloads that it hosts in a registry, each with the token and the epoch of its
claim. The registry is written from several sides, on connections of their own: by the reply to an
attach, by the grants that restores and recovery send, by the revocations that a heartbeat brings
back, and by the node itself. Every writer follows its own rule, and none compares epochs.

## Main definitions

* `NodeEvent`, `NodeState.process` — what a node processes, and what that does to the node
* `NodeState.authority` — the claim that the node has recorded for a workload
* `NodeState.grantOf`, `NodeEvent.drops` — the claim that an event records, and those it drops

## Main results

* `NodeState.authority_process` — an event records its grant, or drops what it revokes
-/

set_option autoImplicit false

namespace CheckpointFabric

/-- What a node processes. Messages come over several connections, replies when they come. -/
inductive NodeEvent
  /-- A message of the coordinator, under the epoch that it carries. -/
  | message (epoch : ℕ) (outcome : Outcome) (request : NodeRequest)
  /-- What came of the attach that the node had asked for. -/
  | attachReply (workloadId : Id) (fenceEpoch : ℕ) (reply : FabricResult FenceToken)
  /-- What came of a heartbeat: the workloads that are the node's no more. -/
  | heartbeatReply (reply : FabricResult (List Id))
  | detach (workloadId : Id)
  /-- The node registers again, with a coordinator of another epoch. -/
  | adopt (epoch : ℕ)
  | shutdown

/-- Whether an event drops the claim of the workload. -/
def NodeEvent.drops : NodeEvent → Id → Bool
  | .heartbeatReply (.ok staleWorkloads), id => id ∈ staleWorkloads
  | .detach workloadId, id => id = workloadId
  | .shutdown, _ => true
  | _, _ => false

namespace NodeState

variable (node : NodeState)

/-- The claim that the node has recorded for a workload. -/
def authority (id : Id) : Option AttachedWorkload := node.attached.lookup id

/-- The end of `attach_workload`, once the coordinator has replied. -/
def attachWorkload (workloadId : Id) (fenceEpoch : ℕ) (reply : FabricResult FenceToken) :
    FabricResult AttachedWorkload × NodeState :=
  match reply with
  | .error e => (.error e, node)
  | .ok token =>
    let attached : AttachedWorkload := { fenceToken := token, executionEpoch := fenceEpoch }
    (.ok attached, { node with
      attached := (workloadId, attached) :: node.attached.filter (·.1 ≠ workloadId) })

def detachWorkload (workloadId : Id) : NodeState :=
  { node with attached := node.attached.filter (·.1 ≠ workloadId) }

/-- The end of `heartbeat_tick`; the answer tells whether the node is still registered. -/
def heartbeatTick (reply : FabricResult (List Id)) : Bool × NodeState :=
  match reply with
  | .error _ => (false, node)
  | .ok staleWorkloads =>
    (true, { node with attached := node.attached.filter (·.1 ∉ staleWorkloads) })

def shutdown : NodeState := { node with attached := [] }

/-- The node after an event. -/
def process (codecs : Codecs) : NodeEvent → NodeState
  | .message epoch outcome request => (node.serve codecs epoch outcome request).2
  | .attachReply workloadId fenceEpoch reply => (node.attachWorkload workloadId fenceEpoch reply).2
  | .heartbeatReply reply => (node.heartbeatTick reply).2
  | .detach workloadId => node.detachWorkload workloadId
  | .adopt epoch => { node with coordinatorEpoch := epoch }
  | .shutdown => node.shutdown

def processAll (codecs : Codecs) (events : List NodeEvent) : NodeState :=
  events.foldl (process · codecs) node

/-- The claim that an event records. -/
def grantOf : NodeEvent → Option (Id × AttachedWorkload)
  | .message epoch _ (.resume req) =>
    if epoch = node.coordinatorEpoch then
      match req.fenceToken, req.executionEpoch with
      | some token, some epoch => some (req.workloadId, ⟨token, epoch⟩)
      | _, _ => none
    else none
  | .attachReply workloadId fenceEpoch (.ok token) => some (workloadId, ⟨token, fenceEpoch⟩)
  | _ => none

variable {node} {codecs : Codecs} {id : Id} {a a' : AttachedWorkload} {e : NodeEvent}
  {events events' : List NodeEvent}

@[simp] theorem processAll_nil : node.processAll codecs [] = node := rfl

@[simp] theorem processAll_cons :
    node.processAll codecs (e :: events) = (node.process codecs e).processAll codecs events := rfl

theorem processAll_append :
    node.processAll codecs (events ++ events') =
      (node.processAll codecs events).processAll codecs events' := by
  rw [processAll, processAll, processAll, List.foldl_append]

section Steps

theorem authority_insert {id' : Id} :
    ((id', a) :: node.attached.filter (·.1 ≠ id')).lookup id =
      if id = id' then some a else node.authority id := by
  by_cases hid : id = id'
  · simp [hid]
  · have hne : (id == id') = false := by simpa using hid
    rw [List.lookup_cons, hne, if_neg hid]
    refine (lookup_filter_fst (fun k => k ≠ id') _).trans ?_
    simp [hid, authority]

theorem attached_guarded {α : Type} {epoch : ℕ} {served : FabricResult α × NodeState}
    (h : served.2.attached = node.attached) :
    (serve.guarded node epoch served).2.attached = node.attached := by
  unfold serve.guarded
  split
  · rfl
  · exact h

theorem attached_promoteDir {attempt : AttemptId} {checkpoint : Id} {o : Outcome} :
    (node.promoteDir attempt checkpoint o).2.attached = node.attached := by
  unfold promoteDir
  split
  · rfl
  · split <;> rfl

theorem attached_dropped {attempt : AttemptId} {o : Outcome} :
    (if o.leavesStaging then node.addStaging attempt else node.removeStaging attempt).attached =
      node.attached := by
  split <;> rfl

/-- Only a grant writes the registry among the messages. -/
theorem attached_serve {epoch : ℕ} {outcome : Outcome} {request : NodeRequest}
    (h : ∀ req, request ≠ .resume req) :
    (node.serve codecs epoch outcome request).2.attached = node.attached := by
  cases request with
  | capture req =>
    refine attached_guarded ?_
    unfold doCapture
    cases outcome.fault with
    | some err => exact attached_dropped
    | none =>
      cases outcome.failure with
      | some text => exact attached_dropped
      | none => rfl
  | promote req =>
    refine attached_guarded ?_
    unfold doPromote
    -- A promotion is refused for three reasons before the directory is renamed.
    split
    · rfl
    split
    · rfl
    split
    · rfl
    have hpromoted : (node.promoteDir req.attemptId req.checkpointId outcome).2.attached =
      node.attached := attached_promoteDir
    split
    all_goals
      rename_i hdir
      rw [hdir] at hpromoted
      exact hpromoted
  | resume req => exact absurd rfl (h req)
  | restore req =>
    -- The provider may refuse or fail; none of it reaches the registry.
    refine attached_guarded ?_
    unfold doRestore
    split
    · rfl
    split
    · rfl
    · split <;> rfl
  | probe req => exact attached_guarded rfl
  | verify req => exact attached_guarded rfl
  | cleanup req => exact attached_guarded rfl
  | replicate req =>
    refine attached_guarded ?_
    unfold doReplicate
    dsimp only
    split
    · exact attached_dropped
    split
    · exact attached_dropped
    have hpromoted : ((node.addStaging req.attemptId).promoteDir req.attemptId req.checkpointId
      outcome).2.attached = node.attached := attached_promoteDir
    split
    all_goals
      rename_i hdir
      rw [hdir] at hpromoted
      exact hpromoted
  | allowFetch req => exact attached_guarded rfl

/-- A resume message records its grant, if it is one and of the node's coordinator. -/
theorem attached_resume {epoch : ℕ} {outcome : Outcome} {req : NodeResumeRequest} :
    (node.serve codecs epoch outcome (.resume req)).2.attached =
      match node.grantOf (.message epoch outcome (.resume req)) with
      | some (id, a) => (id, a) :: node.attached.filter (·.1 ≠ id)
      | none => node.attached := by
  simp only [serve, serve.guarded, checkEpoch, grantOf]
  by_cases hepoch : epoch = node.coordinatorEpoch
  · rw [if_neg (fun hne => hne hepoch), if_pos hepoch]
    unfold doResume
    cases req.fenceToken <;> cases req.executionEpoch
    · dsimp only
      split <;> rfl
    all_goals rfl
  · rw [if_pos hepoch, if_neg hepoch]

/-- An event records its grant, or drops what it revokes. -/
theorem authority_process (e : NodeEvent) (id : Id) :
    (node.process codecs e).authority id =
      match node.grantOf e with
      | some (id', a) => if id = id' then some a else node.authority id
      | none => if e.drops id then none else node.authority id := by
  cases e with
  | message epoch outcome request =>
    cases request with
    | resume req =>
      refine (congrArg (List.lookup id) attached_resume).trans ?_
      cases node.grantOf (.message epoch outcome (.resume req)) with
      | none => rfl
      | some g => exact authority_insert
    | _ => exact congrArg (List.lookup id) (attached_serve fun _ h => absurd h (by simp))
  | attachReply workloadId fenceEpoch reply =>
    cases reply with
    | error err => rfl
    | ok token => exact authority_insert
  | heartbeatReply reply =>
    cases reply with
    | error err => rfl
    | ok stale =>
      refine (lookup_filter_fst (fun k => k ∉ stale) node.attached).trans ?_
      by_cases hid : id ∈ stale <;> simp [grantOf, NodeEvent.drops, hid, authority]
  | detach workloadId =>
    refine (lookup_filter_fst (fun k => k ≠ workloadId) node.attached).trans ?_
    by_cases hid : id = workloadId <;> simp [grantOf, NodeEvent.drops, hid, authority]
  | adopt epoch => rfl
  | shutdown => rfl

end Steps

end NodeState

end CheckpointFabric
