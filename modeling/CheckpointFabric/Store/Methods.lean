import CheckpointFabric.Store.Records
import Mathlib.Data.List.Sort

/-!
# The methods of the store

Every statement and transaction of the store except the two commit transactions
(`CheckpointFabric.Store.Commits`): workloads, checkpoints, attempts, nodes,
reservations and the journal, table by table.
-/

set_option autoImplicit false

namespace CheckpointFabric.Store

open Concurrency

variable (s : Store)

section Workloads

def workloadGet (id : Id) : Option Workload := s.workloads.get id

/-- Every workload, oldest first. -/
def workloadList : List Workload :=
  s.workloads.rows.insertionSort fun a b => a.createdMs ≤ b.createdMs

/-- The values bound to the INTEGER columns of a workload row. -/
def workloadIntegers (w : Workload) : List ℕ :=
  [w.workloadGeneration, w.createdMs, w.executionEpoch, w.checkpointGeneration,
    w.forkGeneration, w.fenceEpoch]

def workloadInsert (w : Workload) : FabricResult Store := do
  bindInteger (workloadIntegers w)
  let workloads ← insertRow s.workloads w (.sqlite "UNIQUE constraint failed: workloads.id")
  .ok { s with workloads }

/-- Atomically create a fork child and its lineage edge. -/
def workloadInsertFork (child : Workload) (parent checkpoint : Id) (detail : String) (now : ℕ) :
    FabricResult Store := do
  let s ← s.workloadInsert child
  .ok { s with
    lineage := s.lineage ++ [
      { relation := .forkedFrom
        workloadId := some child.workloadId
        checkpointId := none
        otherWorkload := some parent
        otherCheckpoint := some checkpoint
        tsMs := now
        detail }] }

/-- Atomic check-and-set bump of the execution epoch. Clears the active claim and the
fence token. -/
def workloadBumpFence (id : Id) (expectedEpoch : ℕ) : FabricResult Store :=
  match s.workloads.get id with
  | none => .error (.workloadNotFound (toHex id))
  | some w =>
    if w.executionEpoch ≠ expectedEpoch then
      .error (.staleWorkloadEpoch expectedEpoch w.executionEpoch)
    else do
      bindInteger [w.executionEpoch + 1]
      .ok { s with
        workloads := s.workloads.modify id fun w =>
          { w with
            executionEpoch := w.executionEpoch + 1
            fenceToken := none
            activeNode := none } }

/-- A single-active workload is claimed by its own node only. -/
def claimConflict (w : Workload) (node : NodeId) : Option NodeId :=
  if w.singleActive then w.activeNode.filter fun an => an ≠ node ∧ an ≠ migratingMarker else none

/-- Atomically claim a workload for a node. -/
def workloadClaim (id : Id) (node : NodeId) (token : FenceToken) (fenceEpoch : ℕ) :
    FabricResult Store :=
  match s.workloads.get id with
  | none => .error (.workloadNotFound (toHex id))
  | some w =>
    match claimConflict w node with
    | some an => .error (.fencingFailure
        s!"workload is single-active and already claimed by node {an}")
    | none =>
      if w.executionEpoch ≠ fenceEpoch then
        .error (.staleWorkloadEpoch w.executionEpoch fenceEpoch)
      else
        .ok { s with
          workloads := s.workloads.modify id fun w =>
            { w with
              activeNode := some node
              fenceToken := some token
              fenceEpoch := w.executionEpoch } }

/-- Release a workload's active claim, if `node` holds it. -/
def workloadRelease (id : Id) (node : NodeId) : Store :=
  { s with
    workloads := s.workloads.modify id (fun w =>
        if w.activeNode = some node then { w with fenceToken := none, activeNode := none } else w)
      (by intro w h; split <;> exact h) }

end Workloads

section Checkpoints

/-- The values bound to the INTEGER columns of a checkpoint row. -/
def checkpointIntegers (c : CheckpointObject) : List ℕ :=
  [c.workloadGeneration, c.checkpointGeneration, c.coordinatorEpoch, c.createdMs, c.sealMs,
    c.totalLogicalBytes, c.totalPhysicalBytes, c.compressedBytes, c.restoreCount]

/-- Write the component rows of a checkpoint: their ids are part of the primary key. -/
def bindComponents (c : CheckpointObject) : FabricResult Unit := do
  bindInteger (c.components.flatMap fun e => [e.generation, e.logicalSize])
  if (c.components.map (·.componentId)).Nodup then .ok ()
  else .error (.sqlite
    "UNIQUE constraint failed: components.checkpoint_id, components.component_id")

/-- Whether another checkpoint already has this workload and generation. -/
def generationTaken (c : CheckpointObject) : Bool :=
  s.checkpoints.rows.any fun r =>
    r.checkpointId != c.checkpointId && r.workloadId == c.workloadId &&
      r.checkpointGeneration == c.checkpointGeneration

/-- Insert a new checkpoint. Conflicting identities or generations fail closed. -/
def checkpointInsert (c : CheckpointObject) : FabricResult Store :=
  let conflict := FabricError.persistenceError
    s!"checkpoint {toHex c.checkpointId} insertion conflict: UNIQUE constraint failed"
  if ¬ (checkpointIntegers c).all (· ≤ integerMax) then
    .error (.persistenceError
      s!"checkpoint {toHex c.checkpointId} insertion conflict: value out of range")
  else if s.generationTaken c then .error conflict
  else do
    let checkpoints ← insertRow s.checkpoints c conflict
    bindComponents c
    .ok { s with checkpoints }

/-- Update a checkpoint's mutable fields in place; the workload it belongs to is not one
of them. -/
def checkpointUpdate (c : CheckpointObject) : FabricResult Store := do
  bindInteger (checkpointIntegers c)
  match s.checkpoints.get c.checkpointId with
  | none => .error (.checkpointNotFound (toHex c.checkpointId))
  | some old =>
    if s.generationTaken { c with workloadId := old.workloadId } then
      .error (.sqlite
        "UNIQUE constraint failed: checkpoints.workload_id, checkpoints.checkpoint_generation")
    else do
      bindComponents c
      .ok { s with
        checkpoints := s.checkpoints.modify c.checkpointId
          (fun old => { c with workloadId := old.workloadId }) (fun _ _ => rfl) }

/-- Update lifecycle and integrity of a checkpoint. -/
def checkpointSetLifecycle (id : Id) (lifecycle : LifecycleState) (integrity : IntegrityState) :
    FabricResult Store :=
  match s.checkpoints.get id with
  | none => .error (.checkpointNotFound (toHex id))
  | some _ =>
    .ok { s with
      checkpoints := s.checkpoints.modify id fun c =>
        { c with lifecycle, integrityState := integrity } }

/-- The number of the workload's latest checkpoint, 0 when it has none. -/
def checkpointMaxGeneration (workloadId : Id) : ℕ :=
  ((s.checkpoints.rows.filter fun c => c.workloadId == workloadId).map
    (·.checkpointGeneration)).foldr max 0

/-- A checkpoint as it is read back: component rows come in the order of their ids. -/
def readCheckpoint (c : CheckpointObject) : CheckpointObject :=
  { c with components := c.components.insertionSort fun a b => a.componentId ≤ b.componentId }

def checkpointGet (id : Id) : Option CheckpointObject :=
  (s.checkpoints.get id).map readCheckpoint

/-- The checkpoints of a workload, in the order of their generations. -/
def checkpointList (workloadId : Id) : List CheckpointObject :=
  ((s.checkpoints.rows.filter fun c => c.workloadId == workloadId).insertionSort
    fun a b => a.checkpointGeneration ≤ b.checkpointGeneration).map readCheckpoint

/-- Change one checkpoint's columns; an unknown id changes nothing. -/
def updateCheckpoint (id : Id) (f : CheckpointObject → CheckpointObject)
    (hf : ∀ c, c.checkpointId = id → (f c).checkpointId = id := by intro c h; exact h) : Store :=
  { s with checkpoints := s.checkpoints.modify id f hf }

def checkpointSetDigest (id : Id) (digest manifestJson : String) : Store :=
  s.updateCheckpoint id fun c =>
    { c with manifestDigest := some digest, manifestJson := some manifestJson }

def checkpointSetIntegrity (id : Id) (state : IntegrityState) : Store :=
  s.updateCheckpoint id fun c => { c with integrityState := state }

/-- Every protection state, also none, is stored with PROTECTED eligibility. -/
def checkpointSetProtection (id : Id) (p : ProtectionState) : Store :=
  s.updateCheckpoint id fun c =>
    { c with protection := p, retirementEligibility := .protected_ }

/-- The guarded transition to RETIRED, which also empties the location list. -/
def checkpointRetire (id : Id) : FabricResult Store :=
  match s.checkpoints.get id with
  | none => .error (.checkpointNotFound (toHex id))
  | some c =>
    if c.protection = .pinned then
      .error (.policyViolation "pinned checkpoint cannot be retired")
    else do
      c.lifecycle.transition .retired
      .ok (s.updateCheckpoint id fun c =>
        { c with
          lifecycle := .retired
          retirementEligibility := .notEligible
          durableLocations := []
          replicaCount := 0 })

/-- Change the location list of a checkpoint, and its replica count with it. -/
def setLocations (id : Id) (f : List DurableLocation → List DurableLocation) : Store :=
  s.updateCheckpoint id fun c =>
    { c with
      durableLocations := f c.durableLocations
      replicaCount := (f c.durableLocations).length }

/-- Add a location unless the node already has one. -/
def checkpointAddLocation (id : Id) (location : DurableLocation) : FabricResult Store :=
  match s.checkpoints.get id with
  | none => .error (.sqlite "Query returned no rows")
  | some _ =>
    .ok (s.setLocations id fun locations =>
      if locations.any fun l => l.node == location.node then locations
      else locations ++ [location])

/-- Take a location out of the list. Nothing in the coordinator calls this. -/
def checkpointRemoveLocation (id : Id) (node : NodeId) : FabricResult Store :=
  match s.checkpoints.get id with
  | none => .error (.sqlite "Query returned no rows")
  | some _ => .ok (s.setLocations id fun locations => locations.filter fun l => l.node != node)

/-- Join a relative path to a directory. -/
def joinPath (dir path : String) : String :=
  if dir.isEmpty || dir.toList.getLast? == some '/' then dir ++ path else s!"{dir}/{path}"

/-- The components of a path. The root counts, and so does a leading dot; empty components and
other dots do not. -/
def pathComponents (path : String) : List (List Char) :=
  let parts := path.toList.splitOn '/'
  let start :=
    if path.toList.head? = some '/' then [[]]
    else if parts.head? = some ['.'] then [['.']]
    else []
  start ++ parts.filter fun part => part ≠ [] && part ≠ ['.']

/-- Paths are compared by their components. -/
def samePath (path path' : String) : Bool := pathComponents path == pathComponents path'

/-- The directory of a committed checkpoint under a node's data directory. -/
def commitPath (dataDir : String) (id : Id) : String :=
  joinPath (joinPath dataDir "checkpoints") (toHex id)

/-- Rebind a checkpoint found on a restarted node to its new node id. Locations that
name the same directory or the node itself are replaced. -/
def checkpointRebindLocation (id : Id) (node : NodeId) (dataDir : String) : Store :=
  let commit := commitPath dataDir id
  s.setLocations id fun locations =>
    let verified := locations.any fun l => (samePath l.path commit || l.node == node) && l.verified
    (locations.filter fun l => !samePath l.path commit && l.node != node) ++
      [{ node, path := commit, verified }]

end Checkpoints

section Attempts

/-- Record a new ACTIVE attempt; an id that is already there is left as it is. -/
def attemptBegin (id : AttemptId) (kind : AttemptKind) (checkpointId workloadId : Option Id)
    (node : NodeId) (now : ℕ) : Store :=
  if h : s.attempts.get id = none then
    { s with
      attempts := s.attempts.insert
        { id, kind, checkpointId, workloadId, node
          state := .active
          startedMs := now
          finishedMs := none
          result := none
          error := none } h }
  else s

/-- Record the outcome of an attempt, whatever its state was. -/
def attemptFinish (id : AttemptId) (state : AttemptState) (result error : Option String)
    (now : ℕ) : Store :=
  { s with
    attempts := s.attempts.modify id fun a =>
      { a with state, result, error, finishedMs := some now } }

def attemptGet (id : AttemptId) : Option AttemptRecord := s.attempts.get id

/-- The attempts in a state, oldest first. -/
def attemptsInState (state : AttemptState) : List AttemptRecord :=
  (s.attempts.rows.filter fun a => a.state == state).insertionSort
    fun a b => a.startedMs ≤ b.startedMs

/-- Append a journal record, unique per kind, key and state. -/
def journalAppend (kind : JournalKind) (key : AttemptId) (state : JournalState)
    (detail : String) (now : ℕ) : Store :=
  if s.journal.any fun e => e.kind == kind && e.key == key && e.state == state then s
  else { s with journal := s.journal ++ [{ kind, key, state, detail, tsMs := now }] }

def journalHas (kind : JournalKind) (key : AttemptId) (state : JournalState) : Bool :=
  s.journal.any fun e => e.kind == kind && e.key == key && e.state == state

end Attempts

section Nodes

/-- Register a node. A different boot id takes over a registration only when that one
is stale or retired. -/
def nodeRegister (id : NodeId) (addr bootId : String) (resources : NodeResources) (now : ℕ) :
    FabricResult Store :=
  match h : s.nodes.get id with
  | none =>
    .ok { s with
      nodes := s.nodes.insert
        { id, addr, bootId, resources
          status := .active
          registeredMs := now
          lastHeartbeatMs := now } h }
  | some old =>
    if old.bootId = bootId then
      .ok { s with
        nodes := s.nodes.modify id fun n =>
          { n with addr, bootId, resources, status := .active, lastHeartbeatMs := now } }
    else if old.status = .stale ∨ old.status = .retired then
      .ok { s with
        nodes := s.nodes.modify id fun n =>
          { n with
            addr, bootId, resources
            status := .active
            registeredMs := now
            lastHeartbeatMs := now } }
    else .error (.fencingFailure s!"node {id} is already registered with a different boot id")

def nodeHeartbeat (id : NodeId) (resources : NodeResources) (now : ℕ) : FabricResult Store :=
  match s.nodes.get id with
  | none => .error (.internal s!"heartbeat for unknown node {id}")
  | some _ =>
    .ok { s with
      nodes := s.nodes.modify id fun n =>
        { n with resources, status := .active, lastHeartbeatMs := now } }

def nodeSetStatus (id : NodeId) (status : NodeStatus) : Store :=
  { s with nodes := s.nodes.modify id fun n => { n with status } }

/-- Every registration, in the order of node ids. -/
def nodeList : List NodeRecord := s.nodes.rows.insertionSort fun a b => a.id ≤ b.id

/-- A request of a node must come from the boot instance that is registered. -/
def nodeValidateIdentity (id : NodeId) (bootId : String) : FabricResult Unit :=
  match s.nodes.get id with
  | none => .error (.fencingFailure s!"node {id} is not registered")
  | some n =>
    if n.bootId = bootId ∧ n.status = .active then .ok ()
    else .error (.fencingFailure
      s!"node {id} boot identity is stale or status is {n.status.asStr}")

/-- The nodes whose last heartbeat is older than `before`. -/
def overdue (before : ℕ) (n : NodeRecord) : Bool :=
  n.status == .active && decide (n.lastHeartbeatMs < before)

/-- Mark overdue nodes STALE, and return their ids. -/
def nodesSweepStale (before : ℕ) : List NodeId × Store :=
  ((s.nodes.rows.filter (overdue before)).map (·.id),
    { s with
      nodes := s.nodes.mapRows
        (fun n => if overdue before n then { n with status := .stale } else n)
        (by intro n; split <;> rfl) })

end Nodes

section Reservations

/-- Whether a reservation is ACTIVE for this kind and scope. -/
def Reserves (kind : ReservationKind) (workloadId checkpointId : Option Id) (r : Reservation) :
    Prop :=
  r.kind = kind ∧ r.state = .active ∧
    (workloadId.isSome → r.workloadId = workloadId) ∧
    (checkpointId.isSome → r.checkpointId = checkpointId)

instance (kind : ReservationKind) (workloadId checkpointId : Option Id) (r : Reservation) :
    Decidable (Reserves kind workloadId checkpointId r) := by
  unfold Reserves
  infer_instance

def reservationActiveFor (kind : ReservationKind) (workloadId checkpointId : Option Id) :
    Option AttemptId :=
  (s.reservations.rows.find? fun r => Reserves kind workloadId checkpointId r).map (·.id)

/-- Create an active reservation, unless one is active for the same scope. -/
def reservationCreate (id : AttemptId) (kind : ReservationKind)
    (workloadId checkpointId : Option Id) (node : NodeId) (ttlMs now : ℕ) : FabricResult Store :=
  let conflict := FabricError.reservationConflict
    s!"an active {kind.asStr} reservation already exists for this scope"
  if (s.reservationActiveFor kind workloadId checkpointId).isSome then .error conflict
  else do
    let reservations ← insertRow s.reservations
      { id, kind, workloadId, checkpointId, node
        state := .active
        createdMs := now
        expiresMs := now + ttlMs } conflict
    .ok { s with reservations }

def reservationRelease (id : AttemptId) : Store :=
  { s with
    reservations := s.reservations.modify id (fun r =>
        if r.state = .active then { r with state := .released } else r)
      (by intro r h; split <;> exact h) }

/-- Mark reservations whose time is over EXPIRED, and return how many. -/
def reservationsExpire (before : ℕ) : ℕ × Store :=
  let elapsed (r : Reservation) : Bool := r.state == .active && decide (r.expiresMs < before)
  ((s.reservations.rows.filter elapsed).length,
    { s with
      reservations := s.reservations.mapRows
        (fun r => if elapsed r then { r with state := .expired } else r)
        (by intro r; split <;> rfl) })

end Reservations

end CheckpointFabric.Store
