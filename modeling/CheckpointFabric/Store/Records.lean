import CheckpointFabric.Concurrency.Table
import CheckpointFabric.Workload
import Mathlib.Algebra.Ring.Nat

/-!
# The tables of the durable store

The coordinator keeps workloads, checkpoints, lineage, attempts, nodes,
reservations and the recovery journal in one SQLite database. A table with a
primary key is a `Table`; the two append-only tables are lists, oldest entry
first.

Every call of the store holds its mutex and is one statement or one transaction,
so each is atomic. A call that fails leaves the store as it was.
-/

set_option autoImplicit false

namespace CheckpointFabric

open Concurrency

/-- What an attempt is for. -/
inductive AttemptKind
  | capture
  | restore
  | rollback
  deriving DecidableEq, Repr

/-- The recorded state of an attempt. -/
inductive AttemptState
  | active
  | committed
  | committedNoResume
  | resumeFailed
  | failed
  deriving DecidableEq, Repr

/-- The durable record of a capture or restore attempt. -/
structure AttemptRecord where
  id : AttemptId
  kind : AttemptKind
  checkpointId : Option Id
  workloadId : Option Id
  node : NodeId
  state : AttemptState
  startedMs : ℕ
  finishedMs : Option ℕ
  result : Option String
  error : Option String
  deriving DecidableEq, Repr

/-- The registration status of a node. -/
inductive NodeStatus
  | active
  | stale
  | retired
  deriving DecidableEq, Repr

/-- The stored name of a status. -/
def NodeStatus.asStr : NodeStatus → String
  | active => "ACTIVE"
  | stale => "STALE"
  | retired => "RETIRED"

/-- What a node reported about itself. The descriptor is absent when the stored text
holds none that can be read back. -/
structure NodeResources where
  dataDir : String
  runtime : Option RuntimeCompatibilityDescriptor
  deriving DecidableEq, Repr

/-- The registration of a node. -/
structure NodeRecord where
  id : NodeId
  addr : String
  bootId : String
  status : NodeStatus
  registeredMs : ℕ
  lastHeartbeatMs : ℕ
  resources : NodeResources
  deriving DecidableEq, Repr

inductive ReservationKind
  | capture
  | restore
  deriving DecidableEq, Repr

/-- The name a reservation kind is stored and shown with. -/
def ReservationKind.asStr : ReservationKind → String
  | capture => "capture"
  | restore => "restore"

inductive ReservationState
  | active
  | released
  | expired
  deriving DecidableEq, Repr

/-- A reservation: at most one is ACTIVE for a workload's captures, and one for a
checkpoint's restores. -/
structure Reservation where
  id : AttemptId
  kind : ReservationKind
  workloadId : Option Id
  checkpointId : Option Id
  node : NodeId
  state : ReservationState
  createdMs : ℕ
  expiresMs : ℕ
  deriving DecidableEq, Repr

/-- What a journal entry is about. -/
inductive JournalKind
  | capture
  | restore
  | migration
  deriving DecidableEq, Repr

/-- The recovery journal states of captures, restores and migrations. -/
inductive JournalState
  | reserved
  | sealed
  | persisted
  | dbCommitted
  | resumeDone
  | provisioned
  | componentsRestored
  | generationCommitted
  | resumed
  | authorityTransferred
  deriving DecidableEq, Repr

/-- One entry of the recovery journal. -/
structure JournalEntry where
  kind : JournalKind
  key : AttemptId
  state : JournalState
  detail : String
  tsMs : ℕ
  deriving DecidableEq, Repr

/-- Relationships tracked in lineage. -/
inductive LineageRelation
  | parent
  | supersedes
  | forkedFrom
  | rollbackOf
  | deltaBase
  | migratedFrom
  deriving DecidableEq, Repr

/-- One durable lineage record. -/
structure LineageRecord where
  relation : LineageRelation
  workloadId : Option Id
  checkpointId : Option Id
  otherWorkload : Option Id
  otherCheckpoint : Option Id
  tsMs : ℕ
  detail : String
  deriving DecidableEq, Repr

/-- The durable store. -/
structure Store where
  workloads : Table Workload.workloadId
  checkpoints : Table CheckpointObject.checkpointId
  lineage : List LineageRecord
  attempts : Table AttemptRecord.id
  nodes : Table NodeRecord.id
  reservations : Table Reservation.id
  journal : List JournalEntry

/-- The largest value of an INTEGER column. -/
def integerMax : ℕ := 2 ^ 63 - 1

/-- Binding a larger value to an INTEGER column fails the statement. -/
def bindInteger (values : List ℕ) : FabricResult Unit :=
  if values.all (· ≤ integerMax) then .ok ()
  else .error (.sqlite "value out of range for an INTEGER column")

theorem bindInteger_eq_ok_iff {values : List ℕ} :
    bindInteger values = .ok () ↔ ∀ v ∈ values, v ≤ integerMax := by
  unfold bindInteger
  split <;> simp_all

/-- Add a row under its key, or fail as a conflicting primary key does. -/
def insertRow {κ ρ : Type} {key : ρ → κ} [DecidableEq κ] (t : Table key) (r : ρ)
    (conflict : FabricError) : FabricResult (Table key) :=
  if h : t.get (key r) = none then .ok (t.insert r h) else .error conflict

theorem insertRow_eq_ok_iff {κ ρ : Type} {key : ρ → κ} [DecidableEq κ] {t t' : Table key}
    {r : ρ} {conflict : FabricError} :
    insertRow t r conflict = .ok t' ↔ ∃ h : t.get (key r) = none, t' = t.insert r h := by
  unfold insertRow
  split
  · rename_i h
    simp [h, eq_comm]
  · rename_i h
    simp [h]

namespace Store

/-- The store of a fresh data directory. -/
def empty : Store where
  workloads := .empty
  checkpoints := .empty
  lineage := []
  attempts := .empty
  nodes := .empty
  reservations := .empty
  journal := []

end Store

end CheckpointFabric
