import CheckpointFabric.Store.Commits

/-!
# Store calls as operations

A `StoreOp` is a call of the store with its arguments; `StoreOp.run` is its effect.
The claim of a workload is missing here: it stores a token that is drawn for it, so
it is an operation of the coordinator's world (`CheckpointFabric.World`).

The audit table has no reader in this development. An audit record is an operation
only where the caller stops when it cannot be written.
-/

set_option autoImplicit false

namespace CheckpointFabric

/-- A call of the store. -/
inductive StoreOp
  | workloadGet (id : Id)
  | workloadList
  | workloadInsert (w : Workload)
  | workloadInsertFork (child : Workload) (parent checkpoint : Id) (detail : String)
  | workloadBumpFence (id : Id) (expectedEpoch : ℕ)
  | workloadRelease (id : Id) (node : NodeId)
  | checkpointInsert (c : CheckpointObject)
  | checkpointUpdate (c : CheckpointObject)
  | checkpointSetLifecycle (id : Id) (lifecycle : LifecycleState) (integrity : IntegrityState)
  | captureCommit (id : Id) (attemptId : AttemptId)
  | restoreCommit (checkpointId : Id) (attemptId : AttemptId) (targetNode : NodeId)
      (fenceToken : FenceToken) (migration rollback : Bool)
  | checkpointMaxGeneration (workloadId : Id)
  | checkpointGet (id : Id)
  | checkpointList (workloadId : Id)
  | checkpointSetDigest (id : Id) (digest manifestJson : String)
  | checkpointSetProtection (id : Id) (p : ProtectionState)
  | checkpointRetire (id : Id)
  | checkpointSetIntegrity (id : Id) (state : IntegrityState)
  | checkpointAddLocation (id : Id) (location : DurableLocation)
  | checkpointRebindLocation (id : Id) (node : NodeId) (dataDir : String)
  | attemptBegin (id : AttemptId) (kind : AttemptKind) (checkpointId workloadId : Option Id)
      (node : NodeId)
  | attemptFinish (id : AttemptId) (state : AttemptState) (result error : Option String)
  | attemptGet (id : AttemptId)
  | attemptsInState (state : AttemptState)
  | nodeRegister (id : NodeId) (addr bootId : String) (resources : NodeResources)
  | nodeHeartbeat (id : NodeId) (resources : NodeResources)
  | nodeSetStatus (id : NodeId) (status : NodeStatus)
  | nodeList
  | nodeValidateIdentity (id : NodeId) (bootId : String)
  | nodesSweepStale (before : ℕ)
  | reservationCreate (id : AttemptId) (kind : ReservationKind)
      (workloadId checkpointId : Option Id) (node : NodeId) (ttlMs : ℕ)
  | reservationRelease (id : AttemptId)
  | reservationActiveFor (kind : ReservationKind) (workloadId checkpointId : Option Id)
  | reservationsExpire (before : ℕ)
  | auditAppend (op : String)
  | journalAppend (kind : JournalKind) (key : AttemptId) (state : JournalState) (detail : String)
  | journalHas (kind : JournalKind) (key : AttemptId) (state : JournalState)
  deriving DecidableEq

namespace StoreOp

/-- What a call returns. -/
@[reducible] def Reply : StoreOp → Type
  | workloadGet _ => Option Workload
  | workloadList => List Workload
  | checkpointMaxGeneration _ => ℕ
  | checkpointGet _ => Option CheckpointObject
  | checkpointList _ => List CheckpointObject
  | attemptGet _ => Option AttemptRecord
  | attemptsInState _ => List AttemptRecord
  | nodeList => List NodeRecord
  | nodesSweepStale _ => List NodeId
  | reservationActiveFor _ _ _ => Option AttemptId
  | reservationsExpire _ => ℕ
  | journalHas _ _ _ => Bool
  | _ => Unit

/-- The effect of a call at time `now`. -/
def run (now : ℕ) (s : Store) : (op : StoreOp) → FabricResult (op.Reply × Store)
  | workloadGet id => .ok (s.workloadGet id, s)
  | workloadList => .ok (s.workloadList, s)
  | workloadInsert w => (s.workloadInsert w).map ((), ·)
  | workloadInsertFork child parent checkpoint detail =>
    (s.workloadInsertFork child parent checkpoint detail now).map ((), ·)
  | workloadBumpFence id expectedEpoch => (s.workloadBumpFence id expectedEpoch).map ((), ·)
  | workloadRelease id node => .ok ((), s.workloadRelease id node)
  | checkpointInsert c => (s.checkpointInsert c).map ((), ·)
  | checkpointUpdate c => (s.checkpointUpdate c).map ((), ·)
  | checkpointSetLifecycle id lifecycle integrity =>
    (s.checkpointSetLifecycle id lifecycle integrity).map ((), ·)
  | captureCommit id attemptId => (s.captureCommit id attemptId now).map ((), ·)
  | restoreCommit checkpointId attemptId targetNode fenceToken migration rollback =>
    (s.restoreCommit checkpointId attemptId targetNode fenceToken migration rollback now).map
      ((), ·)
  | checkpointMaxGeneration workloadId => .ok (s.checkpointMaxGeneration workloadId, s)
  | checkpointGet id => .ok (s.checkpointGet id, s)
  | checkpointList workloadId => .ok (s.checkpointList workloadId, s)
  | checkpointSetDigest id digest manifestJson =>
    .ok ((), s.checkpointSetDigest id digest manifestJson)
  | checkpointSetProtection id p => .ok ((), s.checkpointSetProtection id p)
  | checkpointRetire id => (s.checkpointRetire id).map ((), ·)
  | checkpointSetIntegrity id state => .ok ((), s.checkpointSetIntegrity id state)
  | checkpointAddLocation id location => (s.checkpointAddLocation id location).map ((), ·)
  | checkpointRebindLocation id node dataDir =>
    .ok ((), s.checkpointRebindLocation id node dataDir)
  | attemptBegin id kind checkpointId workloadId node =>
    .ok ((), s.attemptBegin id kind checkpointId workloadId node now)
  | attemptFinish id state result error => .ok ((), s.attemptFinish id state result error now)
  | attemptGet id => .ok (s.attemptGet id, s)
  | attemptsInState state => .ok (s.attemptsInState state, s)
  | nodeRegister id addr bootId resources =>
    (s.nodeRegister id addr bootId resources now).map ((), ·)
  | nodeHeartbeat id resources => (s.nodeHeartbeat id resources now).map ((), ·)
  | nodeSetStatus id status => .ok ((), s.nodeSetStatus id status)
  | nodeList => .ok (s.nodeList, s)
  | nodeValidateIdentity id bootId => (s.nodeValidateIdentity id bootId).map (·, s)
  | nodesSweepStale before => .ok (s.nodesSweepStale before)
  | reservationCreate id kind workloadId checkpointId node ttlMs =>
    (s.reservationCreate id kind workloadId checkpointId node ttlMs now).map ((), ·)
  | reservationRelease id => .ok ((), s.reservationRelease id)
  | reservationActiveFor kind workloadId checkpointId =>
    .ok (s.reservationActiveFor kind workloadId checkpointId, s)
  | reservationsExpire before => .ok (s.reservationsExpire before)
  | auditAppend _ => .ok ((), s)
  | journalAppend kind key state detail => .ok ((), s.journalAppend kind key state detail now)
  | journalHas kind key state => .ok (s.journalHas kind key state, s)

/-- Run a call that may meet a fault of the database; either way a failure leaves the
store as it was. -/
def execute (now : ℕ) (fault : Option FabricError) (op : StoreOp) (s : Store) :
    FabricResult op.Reply × Store :=
  match fault with
  | some e => (.error e, s)
  | none =>
    match op.run now s with
    | .ok (reply, s') => (.ok reply, s')
    | .error e => (.error e, s)

end StoreOp

end CheckpointFabric
