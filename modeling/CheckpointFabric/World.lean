import CheckpointFabric.Concurrency.System
import CheckpointFabric.Store.Operation
import CheckpointFabric.Node
import CheckpointFabric.Restore

/-!
# The coordinator's world

The state that coordinator operations act on: the durable store, the clock, the
source of fresh identities, the coordinator epoch, the nodes, and the messages that
were sent and not yet served. The atomic operations are the calls of the store, the
reads of the clock, the draws of an identity, the failpoints, and the calls of a
node.

A call of a node is never replayed. It may fail before anything is sent; it may be
served and answered; it may be served while its answer is lost; and it may be given
up while the node still has it before it.

The clock is that of the system, and here it never goes back, which the system does not
promise. It is the same for all threads and across restarts.

## Main results

* `World.store_handle_db`, `World.store_handle_call`, `World.store_move` — which
  operations reach the store
-/

set_option autoImplicit false

namespace CheckpointFabric

open Concurrency

/-- What the coordinator runs with. -/
structure Settings where
  policy : PolicySet
  staleMs : ℕ
  codecs : Codecs

/-- A message that was sent, with the coordinator epoch it carries. -/
structure Transit where
  node : NodeId
  epoch : ℕ
  request : NodeRequest

structure World where
  store : Store
  /-- Milliseconds since the Unix epoch. It is assumed that nobody sets the clock back. -/
  clock : ℕ
  /-- Fresh identities and tokens are numbered; this is the next one. -/
  issued : ℕ
  coordinatorEpoch : ℕ
  nodes : NodeId → NodeState
  inFlight : List Transit

/-- An atomic operation of the coordinator. -/
inductive Op
  | db (op : StoreOp)
  /-- Draw a token and claim a workload with it. Drawing reads and writes nothing that
  anyone shares, so it is part of the step that stores the token. -/
  | claim (workloadId : Id) (node : NodeId) (fenceEpoch : ℕ)
  | now
  /-- The epoch of this coordinator process. -/
  | epoch
  | random
  | fire (failpoint : String)
  | call (node : NodeId) (request : NodeRequest)

/-- What an operation returns. -/
@[reducible] def Op.Reply : Op → Type
  | db op => op.Reply
  | claim _ _ _ => FenceToken
  | now => ℕ
  | epoch => ℕ
  | random => Id
  | fire _ => Unit
  | call _ request => request.Result

/-- What becomes of a message to a node. -/
inductive Delivery
  /-- The call fails before anything is sent. -/
  | unsent (error : FabricError)
  | answered (outcome : Outcome)
  /-- The node serves the message, and its answer is lost. -/
  | replyLost (outcome : Outcome) (error : FabricError)
  /-- The coordinator gives up; the node may serve the message later. -/
  | late (error : FabricError)

/-- What an operation meets outside the model. -/
structure Input where
  /-- A failure of the database, or an armed failpoint. -/
  fault : Option FabricError := none
  delivery : Delivery := .answered {}

/-- What happens without the coordinator. -/
inductive Move
  /-- Time passes. The clock of the system may be set back; that is left out. -/
  | tick (ms : ℕ)
  /-- A message that was given up is served. -/
  | arrive (index : ℕ) (outcome : Outcome)
  /-- A node registers and takes over the coordinator's epoch. -/
  | adopt (node : NodeId) (epoch : ℕ)
  /-- A node process starts on the data directory of one that has stopped. -/
  | boot (node predecessor : NodeId) (dataDir : String)
  /-- A node changes its own registry: an attach reply, a detach, a revocation. -/
  | attachments (node : NodeId) (attached : List (Id × AttachedWorkload))

namespace World

/-- The world of a fresh data directory. -/
def initial : World where
  store := .empty
  clock := 0
  issued := 0
  coordinatorEpoch := 1
  nodes := fun _ => {}
  inFlight := []

/-- The state of one node. -/
def setNode (w : World) (node : NodeId) (state : NodeState) : World :=
  { w with nodes := Function.update w.nodes node state }

/-- The token that a store call writes. A fresh token never repeats one that was
stored. -/
def storedToken : StoreOp → Option FenceToken
  | .workloadInsert w => w.fenceToken
  | .workloadInsertFork w _ _ _ => w.fenceToken
  | .restoreCommit _ _ _ token _ _ => some token
  | _ => none

/-- Identities up to the stored token are not fresh any more. -/
def remember (w : World) (token : Option FenceToken) : World :=
  match token with
  | some t => { w with issued := max w.issued (t + 1) }
  | none => w

/-- A node's error reply does not parse as the result that was expected; only the
allow-fetch call takes any envelope for an answer. -/
def parseReply : (request : NodeRequest) → FabricResult request.Result →
    FabricResult request.Result
  | .allowFetch _, _ => .ok ()
  | .capture _, .error e | .promote _, .error e | .resume _, .error e | .restore _, .error e
  | .probe _, .error e | .verify _, .error e | .cleanup _, .error e | .replicate _, .error e =>
    .error (.protocolError s!"bad node response: {e}")
  | .capture _, .ok r | .promote _, .ok r | .resume _, .ok r | .restore _, .ok r
  | .probe _, .ok r | .verify _, .ok r | .cleanup _, .ok r | .replicate _, .ok r => .ok r

/-- A node serves a message. -/
def served (codecs : Codecs) (w : World) (t : Transit) (o : Outcome) :
    FabricResult t.request.Result × World :=
  let (reply, state) := (w.nodes t.node).serve codecs t.epoch o t.request
  (reply, w.setNode t.node state)

/-- The effect of an operation. -/
def handle (codecs : Codecs) : (op : Op) → Input → World → FabricResult op.Reply × World
  | .db op, input, w =>
    let (reply, store) := op.execute w.clock input.fault w.store
    (reply, { w with store }.remember (storedToken op))
  | .claim workloadId node fenceEpoch, input, w =>
    match input.fault with
    | some e => (.error e, w)
    | none =>
      match w.store.workloadClaim workloadId node w.issued fenceEpoch with
      | .ok store => (.ok w.issued, { w with store, issued := w.issued + 1 })
      | .error e => (.error e, w)
  | .now, _, w => (.ok w.clock, w)
  | .epoch, _, w => (.ok w.coordinatorEpoch, w)
  | .random, _, w => (.ok w.issued, { w with issued := w.issued + 1 })
  | .fire failpoint, input, w =>
    (if input.fault.isSome then .error (.failPoint failpoint) else .ok (), w)
  | .call node request, input, w =>
    let sent : Transit := ⟨node, w.coordinatorEpoch, request⟩
    match input.delivery with
    | .unsent e => (.error e, w)
    | .answered o =>
      let (reply, w') := w.served codecs sent o
      (parseReply request reply, w')
    | .replyLost o e => (.error e, (w.served codecs sent o).2)
    | .late e => (.error e, { w with inFlight := w.inFlight ++ [sent] })

/-- The effect of a move of the environment. -/
def move (codecs : Codecs) : Move → World → World
  | .tick ms, w => { w with clock := w.clock + ms }
  | .arrive index o, w =>
    match w.inFlight[index]? with
    | some t => { (w.served codecs t o).2 with inFlight := w.inFlight.eraseIdx index }
    | none => w
  | .adopt node epoch, w => w.setNode node { w.nodes node with coordinatorEpoch := epoch }
  | .boot node predecessor dataDir, w =>
    (w.setNode predecessor {}).setNode node
      { nodeId := node, dataDir, committed := (w.nodes predecessor).committed }
  | .attachments node attached, w => w.setNode node { w.nodes node with attached }

/-- A coordinator that starts claims the next epoch. -/
def restart (w : World) : World := { w with coordinatorEpoch := w.coordinatorEpoch + 1 }

section Effects

variable {codecs : Codecs} {w : World}

@[simp] theorem store_remember (w : World) (token : Option FenceToken) :
    (w.remember token).store = w.store := by
  cases token <;> rfl

@[simp] theorem nodes_remember (w : World) (token : Option FenceToken) :
    (w.remember token).nodes = w.nodes := by
  cases token <;> rfl

@[simp] theorem clock_remember (w : World) (token : Option FenceToken) :
    (w.remember token).clock = w.clock := by
  cases token <;> rfl

theorem issued_le_issued_remember (w : World) (token : Option FenceToken) :
    w.issued ≤ (w.remember token).issued := by
  cases token with
  | none => exact Nat.le_refl _
  | some t => exact Nat.le_max_left _ _

@[simp] theorem store_setNode (w : World) (node : NodeId) (state : NodeState) :
    (w.setNode node state).store = w.store := rfl

@[simp] theorem clock_setNode (w : World) (node : NodeId) (state : NodeState) :
    (w.setNode node state).clock = w.clock := rfl

@[simp] theorem store_handle_db (op : StoreOp) (input : Input) :
    (handle codecs (.db op) input w).2.store =
      (op.execute w.clock input.fault w.store).2 := by
  simp [handle]

@[simp] theorem fst_handle_db (op : StoreOp) (input : Input) :
    (handle codecs (.db op) input w).1 = (op.execute w.clock input.fault w.store).1 := rfl

/-- A call of a node does not touch the store. -/
@[simp] theorem store_handle_call (node : NodeId) (request : NodeRequest) (input : Input) :
    (handle codecs (.call node request) input w).2.store = w.store := by
  simp only [handle]
  split <;> rfl

@[simp] theorem store_handle_now (input : Input) :
    (handle codecs .now input w).2.store = w.store := rfl

@[simp] theorem store_handle_epoch (input : Input) :
    (handle codecs .epoch input w).2.store = w.store := rfl

@[simp] theorem store_handle_random (input : Input) :
    (handle codecs .random input w).2.store = w.store := rfl

@[simp] theorem store_handle_fire (failpoint : String) (input : Input) :
    (handle codecs (.fire failpoint) input w).2.store = w.store := rfl

/-- The environment does not touch the store. -/
@[simp] theorem store_move (m : Move) : (move codecs m w).store = w.store := by
  cases m with
  | arrive index o =>
    simp only [move]
    split <;> rfl
  | _ => rfl

/-- An operation that fails does not touch the store. -/
theorem store_handle_of_error {op : Op} {input : Input} {e : FabricError}
    (h : (handle codecs op input w).1 = .error e) : (handle codecs op input w).2.store = w.store := by
  cases op with
  | db op =>
    rw [fst_handle_db] at h
    rw [store_handle_db]
    unfold StoreOp.execute at h ⊢
    split
    · rfl
    · rename_i hfault
      rw [hfault] at h
      cases hrun : op.run w.clock w.store with
      | error e' => rfl
      | ok result => simp [hrun] at h
  | claim workloadId node fenceEpoch =>
    simp only [handle] at h ⊢
    split
    · rfl
    · rename_i hfault
      simp only [hfault] at h
      cases hclaim : w.store.workloadClaim workloadId node w.issued fenceEpoch with
      | error e' => rfl
      | ok store => simp [hclaim] at h
  | call node request => exact store_handle_call node request input
  | _ => rfl

@[simp] theorem store_restart : w.restart.store = w.store := rfl

/-- Only the environment moves the clock. -/
theorem clock_handle (op : Op) (input : Input) : (handle codecs op input w).2.clock = w.clock := by
  cases op with
  | db op => simp [handle]
  | claim workloadId node fenceEpoch =>
    simp only [handle]
    split
    · rfl
    · split <;> rfl
  | call node request =>
    simp only [handle]
    split <;> rfl
  | _ => rfl

theorem clock_le_move (codecs : Codecs) (m : Move) (w : World) :
    w.clock ≤ (move codecs m w).clock := by
  cases m with
  | tick ms => exact Nat.le_add_right _ _
  | arrive index o =>
    simp only [move]
    split <;> exact Nat.le_refl _
  | _ => exact Nat.le_refl _

end Effects

end World

/-- The interface of coordinator programs. -/
abbrev fabricInterface : Interface := ⟨Op, Op.Reply⟩

/-- A coordinator operation. -/
abbrev Fabric (α : Type) := Program fabricInterface FabricError α

/-- What a thread of the coordinator has done. -/
abbrev FabricDeed := Deed fabricInterface FabricError

namespace Fabric

/-- Perform a call of the store. -/
def db (op : StoreOp) : Fabric op.Reply := Program.call (I := fabricInterface) (.db op)

/-- Send a message to a node and wait for its answer. -/
def send (node : NodeId) (request : NodeRequest) : Fabric request.Result :=
  Program.call (I := fabricInterface) (.call node request)

/-- Draw a fresh identity. -/
def random : Fabric Id := Program.call (I := fabricInterface) .random

/-- Read the clock. -/
def nowMs : Fabric ℕ := Program.call (I := fabricInterface) .now

/-- The epoch of this coordinator process. -/
def coordinatorEpoch : Fabric ℕ := Program.call (I := fabricInterface) .epoch

/-- Fail here if the failpoint is armed. -/
def fire (failpoint : String) : Fabric Unit :=
  Program.call (I := fabricInterface) (.fire failpoint)

/-- Claim a workload under a fresh token. -/
def claim (workloadId : Id) (node : NodeId) (fenceEpoch : ℕ) : Fabric FenceToken :=
  Program.call (I := fabricInterface) (.claim workloadId node fenceEpoch)

/-- Run `p`; when it returns an error, run `handler` as well, whatever comes of it. A
panic passes by. -/
def mapErr {α : Type} (p : Fabric α) (handler : FabricError → Fabric Unit) : Fabric α :=
  p.onError fun e => if e.isPanic then pure () else (handler e).ignore

/-- Take the value out, or stop with `e`. -/
def okOr {α : Type} (value : Option α) (e : FabricError) : Fabric α :=
  match value with
  | some a => pure a
  | none => Program.fail e

end Fabric

end CheckpointFabric
