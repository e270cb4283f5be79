import CheckpointFabric.Checkpoint
import Mathlib.Data.Int.Notation

/-!
# Policy

The policy set of the coordinator, the role check, and the two rules that bound
what a capture or a restore may settle for.

## Main results

* `PolicySet.authorize_eq_ok_of_operator` — an operator may do everything
-/

set_option autoImplicit false

namespace CheckpointFabric

/-- Which actor roles are permitted for each operation kind. An empty list means any
registered actor may perform the operation. -/
structure AuthorityPolicy where
  capture : List String := ["owner"]
  restore : List String := ["owner", "operator"]
  seal_ : List String := ["owner"]
  retire : List String := ["operator"]
  migrate : List String := ["operator"]
  fence : List String := ["operator"]
  fork : List String := ["owner"]
  rollback : List String := ["operator"]
  verify : List String := ["operator", "auditor"]

/-- Compatibility policy knobs. -/
structure CompatibilityPolicy where
  allowCrossOs : Bool := false
  allowCrossArch : Bool := false
  schemaStrict : Bool := true

/-- Component compression. -/
inductive Codec
  | none
  | zstd
  deriving DecidableEq, Repr

/-- Compression settings recorded on a checkpoint. -/
structure CompressionSpec where
  codec : Codec
  level : ℤ
  formatVersion : String
  deriving DecidableEq, Repr

/-- The complete policy set. -/
structure PolicySet where
  version : ℕ := 1
  minCaptureIntervalMs : ℕ := 0
  maxCheckpointAgeMs : Option ℕ := none
  minValidReplicas : ℕ := 1
  requiredConsistency : Option ConsistencyClass := none
  requirePortable : Bool := false
  forbidDegradedRestore : Bool := false
  protectedGenerations : ℕ := 1
  minGenerationsRetained : ℕ := 1
  maxIncrementalChainDepth : ℕ := 8
  singleActiveDefault : Bool := true
  archiveRestorePermitted : Bool := false
  maxComponentBytes : Option ℕ := none
  compression : Codec := .zstd
  compressionLevel : ℤ := 3
  authority : AuthorityPolicy := {}
  compatibility : CompatibilityPolicy := {}

/-- A list of strings as it is shown in an error text. -/
def debugList (items : List String) : String :=
  "[" ++ ", ".intercalate (items.map fun s => "\"" ++ s ++ "\"") ++ "]"

namespace PolicySet

/-- Check that an actor with the given roles may perform an operation kind. -/
def authorize (_policy : PolicySet) (roles requiredRoles : List String) : FabricResult Unit :=
  if requiredRoles.isEmpty then .ok ()
  else if roles.contains "operator" || roles.contains "root" then .ok ()
  else if requiredRoles.any roles.contains then .ok ()
  else .error (.policyViolation
    s!"actor roles {debugList roles} lack required roles {debugList requiredRoles}")

theorem authorize_eq_ok_of_operator {policy : PolicySet} {roles requiredRoles : List String}
    (h : "operator" ∈ roles) : policy.authorize roles requiredRoles = .ok () := by
  unfold authorize
  split
  · rfl
  · simp [h]

/-- Compression settings sent to a node with a capture. -/
def compressionSpec (policy : PolicySet) : CompressionSpec :=
  match policy.compression with
  | .none => ⟨.none, 0, "1"⟩
  | .zstd => ⟨.zstd, max 1 (min 22 policy.compressionLevel), "1"⟩

end PolicySet

/-- Who asks for an operation. -/
structure Authority where
  actor : String
  roles : List String

/-- Actor context for an operation. -/
structure OperationContext where
  actor : String
  roles : List String
  staleMs : ℕ

def OperationContext.forAuthority (a : Authority) (staleMs : ℕ) : OperationContext :=
  ⟨a.actor, a.roles, staleMs⟩

/-- Enforce that a captured consistency class meets the policy requirement. -/
def enforceConsistency (policy : PolicySet) (achieved : ConsistencyClass) : FabricResult Unit :=
  match policy.requiredConsistency with
  | none => .ok ()
  | some required =>
    if achieved.rank < required.rank then
      .error (.policyViolation
        s!"capture achieved {achieved.asStr} but policy requires {required.asStr}")
    else .ok ()

end CheckpointFabric
