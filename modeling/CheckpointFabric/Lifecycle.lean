import CheckpointFabric.Errors

/-!
# The checkpoint lifecycle

The states of a checkpoint and the transitions between them. Illegal transitions
fail with a typed error.

## Main results

* `LifecycleState.transition_eq_ok_iff` — a transition succeeds on legal pairs only
* `LifecycleState.canTransition_restorePending_iff` — where a restore can begin
* `LifecycleState.canTransition_retired_iff` — where a retirement can end
* `LifecycleState.not_canTransition_of_failed` — a failed checkpoint stays failed
-/

set_option autoImplicit false

namespace CheckpointFabric

/-- Lifecycle states of a checkpoint. -/
inductive LifecycleState
  | created
  | capturing
  | captured
  | validating
  | sealed
  | persisting
  | available
  | restorePending
  | restoring
  | restored
  | retired
  | failed
  deriving DecidableEq, Repr

namespace LifecycleState

/-- The stored name of a state. -/
def asStr : LifecycleState → String
  | created => "CREATED"
  | capturing => "CAPTURING"
  | captured => "CAPTURED"
  | validating => "VALIDATING"
  | sealed => "SEALED"
  | persisting => "PERSISTING"
  | available => "AVAILABLE"
  | restorePending => "RESTORE_PENDING"
  | restoring => "RESTORING"
  | restored => "RESTORED"
  | retired => "RETIRED"
  | failed => "FAILED"

/-- Can a checkpoint in this state begin a restore? -/
def isRestorable : LifecycleState → Bool
  | available | restored => true
  | _ => false

/-- Is this a terminal state? -/
def isTerminal : LifecycleState → Bool
  | retired | failed => true
  | _ => false

/-- Deterministic transition check. -/
def canTransition : LifecycleState → LifecycleState → Bool
  | created, target => (target matches capturing)
  | capturing, target => (target matches captured | failed)
  | captured, target => (target matches validating | failed)
  | validating, target => (target matches sealed | failed)
  | sealed, target => (target matches persisting | failed)
  | persisting, target => (target matches available | failed)
  | available, target => (target matches restorePending | retired | failed)
  | restorePending, target => (target matches restoring | failed | available)
  -- A failed restore rolls the source checkpoint back to AVAILABLE: applying it to
  -- one target failed, which says nothing about the checkpoint itself.
  | restoring, target => (target matches restored | available | failed)
  | restored, target => (target matches available | failed)
  | retired, target => (target matches restorePending | failed)
  | failed, _ => false

/-- Transition, with a typed error for illegal transitions. -/
def transition (current target : LifecycleState) : FabricResult Unit :=
  if current.canTransition target then .ok ()
  else .error (.invalidLifecycleTransition current.asStr target.asStr)

theorem transition_eq_ok_iff {current target : LifecycleState} :
    current.transition target = .ok () ↔ current.canTransition target := by
  unfold transition
  split <;> simp_all

theorem canTransition_restorePending_iff {current : LifecycleState} :
    current.canTransition restorePending ↔ current = available ∨ current = retired := by
  cases current <;> decide

theorem canTransition_restored_iff {current : LifecycleState} :
    current.canTransition restored ↔ current = restoring := by
  cases current <;> decide

theorem canTransition_retired_iff {current : LifecycleState} :
    current.canTransition retired ↔ current = available := by
  cases current <;> decide

theorem isRestorable_iff {current : LifecycleState} :
    current.isRestorable ↔ current = available ∨ current = restored := by
  cases current <;> decide

theorem not_canTransition_of_failed {target : LifecycleState} :
    ¬ failed.canTransition target := by
  cases target <;> decide

/-- Every state but a failed one can still fail, once the capture has begun. -/
theorem canTransition_failed_iff {current : LifecycleState} :
    current.canTransition failed ↔ current ≠ created ∧ current ≠ failed := by
  cases current <;> decide

theorem isTerminal_eq_false_iff {current : LifecycleState} :
    current.isTerminal = false ↔ current ≠ retired ∧ current ≠ failed := by
  cases current <;> decide

end LifecycleState

end CheckpointFabric
