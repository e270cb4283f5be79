import CheckpointFabric.Authority
import CheckpointFabric.Coordinator.Maintenance
import CheckpointFabric.Hosting

/-!
# The process of a node

A node registers with the coordinator when it starts, and tries again until it is accepted or the
time for it is over. Then a thread sends heartbeats, one in every round. The connection to the
coordinator is behind a lock, which the thread holds from its message to the answer; an attach takes
the same lock. Messages of the coordinator come over connections of their own.

When a heartbeat does not succeed, the thread drops the connection.

## Main definitions

* `NodeRuntime` — what the threads of a node share, and where they are
* `NodeRuntime.registerOnce`, `heartbeatTick`, `attachWorkload` — what a node does with its connection
* `NodeRuntime.step`, `NodeRuntime.run` — what happens at a node, and what it sends
-/

set_option autoImplicit false

namespace CheckpointFabric.Runtime

open Coordinator Hosting Staging

structure NodeRegisterResponse where
  accepted : Bool
  coordinatorEpoch : ℕ
  error : Option String

structure NodeHeartbeatResponse where
  ok : Bool
  staleWorkloads : List Id
  error : Option String

/-- A message to the coordinator. -/
inductive Message
  | register (req : NodeRegisterRequest)
  | heartbeat (req : NodeHeartbeatRequest)
  | attach (req : WorkloadAttachRequest)

/-- Where the start of a node is. -/
inductive Stage
  | registering (lastErr : Option FabricError)
  | running
  | failed (e : FabricError)

/-- Where the heartbeat thread is, with its failures in a row and its rounds. -/
inductive Heart
  | waiting (consecutiveFailures tick : ℕ)
  | awaiting (consecutiveFailures tick : ℕ)
  | ended
  deriving DecidableEq

structure NodeRuntime where
  node : NodeState
  bootId : String
  listen : Option String
  runtime : RuntimeCompatibilityDescriptor
  /-- Whether there is a connection to the coordinator. -/
  coordinator : Bool
  stop : Bool
  stage : Stage
  heart : Heart
  /-- A shutdown waits for the heartbeat thread. -/
  closing : Bool

/-- What a node meets in one attempt to register. -/
structure RegisterInput where
  connect : FabricResult Unit
  committed : FabricResult (List Id)
  reply : FabricResult NodeRegisterResponse

/-- What happens at a node. -/
inductive Event
  /-- A round of `register_with_retries`, while there is time. -/
  | register (input : RegisterInput)
  | deadline
  /-- A round of the heartbeat thread begins. -/
  | beat (committed : FabricResult (List Id)) (providerVersions : List (String × String))
  | answered (reply : FabricResult NodeHeartbeatResponse)
  | attach (workloadId : Id) (fenceEpoch : ℕ) (specs : List ProviderSpec)
      (reply : FabricResult WorkloadAttachResponse)
  | detach (workloadId : Id)
  /-- A message of the coordinator, under the epoch that it carries. -/
  | message (epoch : ℕ) (outcome : Outcome) (request : NodeRequest)
  | shutdown
  /-- The heartbeat thread is gone, and the shutdown goes on. -/
  | joined

namespace NodeRuntime

variable (rt : NodeRuntime)

/-- A node that was just started. -/
def initial (node : NodeState) (bootId : String) (listen : Option String)
    (runtime : RuntimeCompatibilityDescriptor) : NodeRuntime where
  node := { node with coordinatorEpoch := 0, attached := [] }
  bootId := bootId
  listen := listen
  runtime := runtime
  coordinator := false
  stop := false
  stage := .registering none
  heart := .ended
  closing := false

def adopt (epoch : ℕ) : NodeRuntime := { rt with node := { rt.node with coordinatorEpoch := epoch } }

def registerRequest (listenAddr : String) (committed : List Id) : NodeRegisterRequest where
  nodeId := rt.node.nodeId
  listenAddr := listenAddr
  bootId := rt.bootId
  dataDir := rt.node.dataDir
  runtime := rt.runtime
  committedCheckpoints := committed
  coordinatorEpoch := rt.node.coordinatorEpoch

/-- Connect, and ask to be registered. -/
def registerOnce (input : RegisterInput) : FabricResult ℕ × NodeRuntime × List Message :=
  match input.connect, rt.listen, input.committed with
  | .error e, _, _ => (.error e, rt, [])
  | .ok (), none, _ => (.error (.internal "node has no listener yet"), rt, [])
  | .ok (), some _, .error e => (.error e, rt, [])
  | .ok (), some listenAddr, .ok committed =>
    let sent := [.register (rt.registerRequest listenAddr committed)]
    match input.reply with
    | .error e => (.error e, rt, sent)
    | .ok resp =>
      -- The epoch is taken from a rejection as well, so that a retry carries a current one.
      let adopted := rt.adopt resp.coordinatorEpoch
      if resp.accepted then (.ok resp.coordinatorEpoch, { adopted with coordinator := true }, sent)
      else (.error (.fencingFailure (resp.error.getD "registration rejected")), adopted, sent)

def heartbeatRequest (committed : FabricResult (List Id)) (providerVersions : List (String × String)) :
    NodeHeartbeatRequest where
  nodeId := rt.node.nodeId
  bootId := rt.bootId
  coordinatorEpoch := rt.node.coordinatorEpoch
  workloads := rt.node.attached.map fun w => ⟨w.1, w.2.fenceToken, w.2.executionEpoch⟩
  committedCheckpoints := committed.toOption.getD []
  providerVersions := providerVersions

/-- The end of `heartbeat_tick`, when the coordinator has answered or the call has failed. -/
def heartbeatTick (reply : FabricResult NodeHeartbeatResponse) : Bool × NodeRuntime :=
  match reply with
  | .error _ => (false, { rt with coordinator := false })
  | .ok resp =>
    if resp.ok then (true, { rt with node := (rt.node.heartbeatTick (.ok resp.staleWorkloads)).2 })
    else (false, { rt with coordinator := false })

/-- The end of a round of the heartbeat thread. -/
def endRound (ok : Bool) (consecutiveFailures tick : ℕ) : NodeRuntime :=
  if ok then { rt with heart := .waiting 0 (tick + 1) }
  else if 10 ≤ consecutiveFailures + 1 then { rt with stop := true, heart := .ended }
  else { rt with heart := .waiting (consecutiveFailures + 1) (tick + 1) }

def attachRequest (workloadId : Id) (fenceEpoch : ℕ) (specs : List ProviderSpec) :
    WorkloadAttachRequest where
  workloadId := workloadId
  node := rt.node.nodeId
  nodeBootId := rt.bootId
  providers := specs
  fenceEpoch := fenceEpoch

/-- The claim that the coordinator grants with its answer. -/
def claimOf (reply : FabricResult WorkloadAttachResponse) : FabricResult FenceToken := do
  let resp ← reply
  if resp.accepted then .ok (tokenOf resp)
  else .error (.fencingFailure (resp.error.getD "attach rejected"))

/-- Attach a workload, what the registry of providers has to do with it aside. -/
def attachWorkload (workloadId : Id) (fenceEpoch : ℕ) (specs : List ProviderSpec)
    (reply : FabricResult WorkloadAttachResponse) :
    FabricResult AttachedWorkload × NodeRuntime × List Message :=
  if rt.coordinator then
    let (result, node) := rt.node.attachWorkload workloadId fenceEpoch (claimOf reply)
    (result, { rt with node }, [.attach (rt.attachRequest workloadId fenceEpoch specs)])
  else (.error (.internal "not connected to coordinator"), rt, [])

/-- The lock of the connection is free. -/
def Unlocked : Prop := ∀ consecutiveFailures tick, rt.heart ≠ .awaiting consecutiveFailures tick

instance : Decidable rt.Unlocked :=
  match h : rt.heart with
  | .awaiting failures tick => .isFalse fun hunlocked => hunlocked failures tick h
  | .waiting _ _ => .isTrue fun _ _ hlocked => nomatch h.symm.trans hlocked
  | .ended => .isTrue fun _ _ hlocked => nomatch h.symm.trans hlocked

/-- The node after an event that can happen, and what it sends. -/
def step (codecs : Codecs) (rt : NodeRuntime) : Event → Option (NodeRuntime × List Message)
  | .register input =>
    match rt.stage with
    | .registering _ =>
      match rt.registerOnce input with
      | (.ok epoch, rt', sent) => some ({ rt'.adopt epoch with stage := .running, heart := .waiting 0 0 }, sent)
      | (.error e, rt', sent) => some ({ rt' with stage := .registering (some e) }, sent)
    | _ => none
  | .deadline =>
    match rt.stage with
    | .registering lastErr =>
      some ({ rt with stage := .failed (lastErr.getD (.timeout "node registration timed out")) }, [])
    | _ => none
  | .beat committed providerVersions =>
    match rt.heart with
    | .waiting failures tick =>
      if rt.stop then some ({ rt with heart := .ended }, [])
      else if rt.coordinator then
        some ({ rt with heart := .awaiting failures tick },
          [.heartbeat (rt.heartbeatRequest committed providerVersions)])
      else some (rt.endRound false failures tick, [])
    | _ => none
  | .answered reply =>
    match rt.heart with
    | .awaiting failures tick =>
      let (ok, rt') := rt.heartbeatTick reply
      some (rt'.endRound ok failures tick, [])
    | _ => none
  | .attach workloadId fenceEpoch specs reply =>
    match rt.stage with
    | .running =>
      if rt.Unlocked then some (rt.attachWorkload workloadId fenceEpoch specs reply).2 else none
    | _ => none
  | .detach workloadId => some ({ rt with node := rt.node.detachWorkload workloadId }, [])
  | .message epoch outcome request =>
    match rt.stage with
    | .running => some ({ rt with node := (rt.node.serve codecs epoch outcome request).2 }, [])
    | _ => none
  | .shutdown =>
    match rt.stage with
    | .running => some ({ rt with stop := true, closing := true }, [])
    | _ => none
  | .joined =>
    if rt.closing ∧ rt.heart = .ended then
      some ({ rt with coordinator := false, closing := false, node := rt.node.shutdown }, [])
    else none

/-- The node after a sequence of events that can happen one after the other, and what it has sent. -/
def run (codecs : Codecs) (rt : NodeRuntime) : List Event → Option (NodeRuntime × List Message)
  | [] => some (rt, [])
  | e :: es => do
    let (rt', sent) ← rt.step codecs e
    let (rt'', sent') ← run codecs rt' es
    pure (rt'', sent ++ sent')

end NodeRuntime

end CheckpointFabric.Runtime
