import CheckpointFabric.Store.Operation
import CheckpointFabric.Capture

/-!
# What fails does not panic

The handlers of failed operations do not run at a panic. The calls of the store and the checks
of a capture or restore report their errors; none of them panics.

## Main definitions

* `NoPanic` — a result that is no panic

## Main results

* `StoreOp.noPanic_run` — a call of the store does not panic
-/

set_option autoImplicit false

namespace CheckpointFabric

/-- The result is no panic. -/
def NoPanic {α : Type} (result : FabricResult α) : Prop :=
  ∀ e, result = .error e → ¬ e.isPanic

section Rules

variable {α β : Type}

theorem noPanic_ok (a : α) : NoPanic (.ok a : FabricResult α) := by
  rintro _ ⟨⟩

theorem noPanic_error {e : FabricError} (h : e.isPanic = false) :
    NoPanic (.error e : FabricResult α) := by
  rintro _ ⟨⟩
  simp [h]

theorem NoPanic.bind {result : FabricResult α} {f : α → FabricResult β} (h : NoPanic result)
    (hf : ∀ a, NoPanic (f a)) : NoPanic (result >>= f) := by
  cases result with
  | ok a => exact hf a
  | error e =>
    rintro _ ⟨⟩
    exact h e rfl

theorem NoPanic.map {result : FabricResult α} {f : α → β} (h : NoPanic result) :
    NoPanic (result.map f) := by
  cases result with
  | ok a => exact noPanic_ok _
  | error e =>
    rintro _ ⟨⟩
    exact h e rfl

theorem NoPanic.ite {condition : Prop} [Decidable condition] {result result' : FabricResult α}
    (h : NoPanic result) (h' : NoPanic result') :
    NoPanic (if condition then result else result') := by
  by_cases hcondition : condition
  · rwa [if_pos hcondition]
  · rwa [if_neg hcondition]

end Rules

section Checks

theorem noPanic_transition (current target : LifecycleState) :
    NoPanic (current.transition target) :=
  NoPanic.ite (noPanic_ok _) (noPanic_error rfl)

theorem noPanic_validateComponentCompleteness (requested : List CaptureComponentRequest)
    (captured : List ComponentEntry) :
    NoPanic (Capture.validateComponentCompleteness requested captured) := by
  unfold Capture.validateComponentCompleteness
  split
  · exact noPanic_error rfl
  · exact noPanic_ok _

theorem noPanic_enforceConsistency (policy : PolicySet) (achieved : ConsistencyClass) :
    NoPanic (enforceConsistency policy achieved) := by
  unfold enforceConsistency
  split
  · exact noPanic_ok _
  · exact NoPanic.ite (noPanic_error rfl) (noPanic_ok _)

end Checks

namespace Store

variable (s : Store)

theorem noPanic_bindInteger (values : List ℕ) : NoPanic (bindInteger values) :=
  NoPanic.ite (noPanic_ok _) (noPanic_error rfl)

theorem noPanic_insertRow {κ ρ : Type} {key : ρ → κ} [DecidableEq κ]
    (t : Concurrency.Table key) (r : ρ) {conflict : FabricError} (h : conflict.isPanic = false) :
    NoPanic (insertRow t r conflict) := by
  unfold insertRow
  split
  · exact noPanic_ok _
  · exact noPanic_error h

theorem noPanic_bindComponents (c : CheckpointObject) : NoPanic (bindComponents c) :=
  (noPanic_bindInteger _).bind fun _ => NoPanic.ite (noPanic_ok _) (noPanic_error rfl)

theorem noPanic_workloadInsert (w : Workload) : NoPanic (s.workloadInsert w) :=
  (noPanic_bindInteger _).bind fun _ => (noPanic_insertRow _ _ rfl).bind fun _ => noPanic_ok _

theorem noPanic_workloadBumpFence (id : Id) (expectedEpoch : ℕ) :
    NoPanic (s.workloadBumpFence id expectedEpoch) := by
  unfold workloadBumpFence
  split
  · exact noPanic_error rfl
  · exact NoPanic.ite (noPanic_error rfl) ((noPanic_bindInteger _).bind fun _ => noPanic_ok _)

theorem noPanic_workloadClaim (id : Id) (node : NodeId) (token : FenceToken) (fenceEpoch : ℕ) :
    NoPanic (s.workloadClaim id node token fenceEpoch) := by
  unfold workloadClaim
  split
  · exact noPanic_error rfl
  split
  · exact noPanic_error rfl
  · exact NoPanic.ite (noPanic_error rfl) (noPanic_ok _)

theorem noPanic_checkpointInsert (c : CheckpointObject) : NoPanic (s.checkpointInsert c) := by
  unfold checkpointInsert
  refine NoPanic.ite (noPanic_error rfl) (NoPanic.ite (noPanic_error rfl) ?_)
  exact (noPanic_insertRow _ _ rfl).bind fun _ => (noPanic_bindComponents c).bind fun _ =>
    noPanic_ok _

theorem noPanic_checkpointUpdate (c : CheckpointObject) : NoPanic (s.checkpointUpdate c) := by
  refine (noPanic_bindInteger _).bind fun _ => ?_
  split
  · exact noPanic_error rfl
  · exact NoPanic.ite (noPanic_error rfl) ((noPanic_bindComponents c).bind fun _ => noPanic_ok _)

theorem noPanic_checkpointSetLifecycle (id : Id) (lifecycle : LifecycleState)
    (integrity : IntegrityState) : NoPanic (s.checkpointSetLifecycle id lifecycle integrity) := by
  unfold checkpointSetLifecycle
  split
  · exact noPanic_error rfl
  · exact noPanic_ok _

theorem noPanic_checkpointRetire (id : Id) : NoPanic (s.checkpointRetire id) := by
  unfold checkpointRetire
  split
  · exact noPanic_error rfl
  · exact NoPanic.ite (noPanic_error rfl) ((noPanic_transition _ _).bind fun _ => noPanic_ok _)

theorem noPanic_checkpointAddLocation (id : Id) (location : DurableLocation) :
    NoPanic (s.checkpointAddLocation id location) := by
  unfold checkpointAddLocation
  split
  · exact noPanic_error rfl
  · exact noPanic_ok _

theorem noPanic_nodeRegister (id : NodeId) (addr bootId : String) (resources : NodeResources)
    (now : ℕ) : NoPanic (s.nodeRegister id addr bootId resources now) := by
  unfold nodeRegister
  split
  · exact noPanic_ok _
  · exact NoPanic.ite (noPanic_ok _) (NoPanic.ite (noPanic_ok _) (noPanic_error rfl))

theorem noPanic_nodeHeartbeat (id : NodeId) (resources : NodeResources) (now : ℕ) :
    NoPanic (s.nodeHeartbeat id resources now) := by
  unfold nodeHeartbeat
  split
  · exact noPanic_error rfl
  · exact noPanic_ok _

theorem noPanic_nodeValidateIdentity (id : NodeId) (bootId : String) :
    NoPanic (s.nodeValidateIdentity id bootId) := by
  unfold nodeValidateIdentity
  split
  · exact noPanic_error rfl
  · exact NoPanic.ite (noPanic_ok _) (noPanic_error rfl)

theorem noPanic_reservationCreate (id : AttemptId) (kind : ReservationKind)
    (workloadId checkpointId : Option Id) (node : NodeId) (ttlMs now : ℕ) :
    NoPanic (s.reservationCreate id kind workloadId checkpointId node ttlMs now) :=
  NoPanic.ite (noPanic_error rfl) ((noPanic_insertRow _ _ rfl).bind fun _ => noPanic_ok _)

theorem noPanic_captureCommit (id : Id) (key : AttemptId) (now : ℕ) :
    NoPanic (s.captureCommit id key now) := by
  unfold captureCommit
  split
  · exact noPanic_error rfl
  refine NoPanic.ite (noPanic_error rfl) (NoPanic.ite (noPanic_error rfl) ?_)
  split
  · exact noPanic_error rfl
  · exact NoPanic.ite (noPanic_error rfl) (noPanic_ok _)

theorem noPanic_restoreCommit (id : Id) (key : AttemptId) (node : NodeId) (token : FenceToken)
    (migration rollback : Bool) (now : ℕ) :
    NoPanic (s.restoreCommit id key node token migration rollback now) := by
  unfold restoreCommit
  split
  · exact noPanic_error rfl
  split
  · rename_i htransition
    rintro _ ⟨⟩
    exact noPanic_transition _ _ _ htransition
  split
  · exact noPanic_error rfl
  · exact (noPanic_bindInteger _).bind fun _ => noPanic_ok _

end Store

/-- A call of the store does not panic. -/
theorem StoreOp.noPanic_run (now : ℕ) (s : Store) (op : StoreOp) : NoPanic (op.run now s) := by
  cases op with
  | workloadInsert w => exact (s.noPanic_workloadInsert w).map
  | workloadInsertFork child parent checkpoint detail =>
    exact ((s.noPanic_workloadInsert child).bind fun _ => noPanic_ok _).map
  | workloadBumpFence id expectedEpoch => exact (s.noPanic_workloadBumpFence id expectedEpoch).map
  | checkpointInsert c => exact (s.noPanic_checkpointInsert c).map
  | checkpointUpdate c => exact (s.noPanic_checkpointUpdate c).map
  | checkpointSetLifecycle id lifecycle integrity =>
    exact (s.noPanic_checkpointSetLifecycle id lifecycle integrity).map
  | captureCommit id key => exact (s.noPanic_captureCommit id key now).map
  | restoreCommit id key node token migration rollback =>
    exact (s.noPanic_restoreCommit id key node token migration rollback now).map
  | checkpointRetire id => exact (s.noPanic_checkpointRetire id).map
  | checkpointAddLocation id location => exact (s.noPanic_checkpointAddLocation id location).map
  | nodeRegister id addr bootId resources =>
    exact (s.noPanic_nodeRegister id addr bootId resources now).map
  | nodeHeartbeat id resources => exact (s.noPanic_nodeHeartbeat id resources now).map
  | nodeValidateIdentity id bootId => exact (s.noPanic_nodeValidateIdentity id bootId).map
  | reservationCreate id kind workloadId checkpointId node ttlMs =>
    exact (s.noPanic_reservationCreate id kind workloadId checkpointId node ttlMs now).map
  | _ => exact noPanic_ok _

end CheckpointFabric
