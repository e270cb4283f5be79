import CheckpointFabric.Policy

/-!
# Restore compatibility

The verdict of restoring a checkpoint into a target environment, with its reasons.
The evaluation collects one finding for each aspect; the verdict is the worst of
them.

## Main results

* `CompatVerdict.rank_le_overall` — the verdict is at least as bad as every finding
* `CompatVerdict.overall_mem` — and no worse than some finding
* `enforceDegraded_eq_ok_of_compatible` — the degraded-restore rule spares full matches
-/

set_option autoImplicit false

namespace CheckpointFabric

/-- The verdict of a compatibility evaluation, best first. -/
inductive CompatVerdict
  | compatible
  | compatibleWithTranslation
  | compatibleDegraded
  | incompatible
  deriving DecidableEq, Repr

namespace CompatVerdict

/-- The position of a verdict in its order, best first. -/
def rank : CompatVerdict → ℕ
  | compatible => 0
  | compatibleWithTranslation => 1
  | compatibleDegraded => 2
  | incompatible => 3

/-- The worse of two verdicts. -/
def worse (a b : CompatVerdict) : CompatVerdict := if a.rank < b.rank then b else a

/-- The worst of a list of verdicts. -/
def overall (verdicts : List CompatVerdict) : CompatVerdict := verdicts.foldr worse compatible

theorem rank_worse (a b : CompatVerdict) : (worse a b).rank = max a.rank b.rank := by
  unfold worse
  split <;> omega

theorem rank_le_overall {verdicts : List CompatVerdict} {v : CompatVerdict}
    (h : v ∈ verdicts) : v.rank ≤ (overall verdicts).rank := by
  induction verdicts with
  | nil => cases h
  | cons a verdicts ih =>
    change v.rank ≤ (worse a (overall verdicts)).rank
    rw [rank_worse]
    rcases List.mem_cons.mp h with rfl | h
    · exact Nat.le_max_left _ _
    · exact Nat.le_trans (ih h) (Nat.le_max_right _ _)

theorem overall_mem (verdicts : List CompatVerdict) :
    overall verdicts = compatible ∨ overall verdicts ∈ verdicts := by
  induction verdicts with
  | nil => exact .inl rfl
  | cons a verdicts ih =>
    change worse a (overall verdicts) = compatible ∨ worse a (overall verdicts) ∈ a :: verdicts
    unfold worse
    split
    · exact ih.imp_right (.tail _)
    · exact .inr (.head _)

end CompatVerdict

/-- Structured compatibility result with explicit reasons. -/
structure CompatibilityResult where
  verdict : CompatVerdict
  reasons : List String
  checkpointId : Option Id
  source : RuntimeCompatibilityDescriptor
  target : RuntimeCompatibilityDescriptor
  policyVersion : ℕ

namespace Compatibility

/-- The checkpoint format this build reads and writes. -/
def formatVersion : ℕ := 1

/-- What the evaluation found about one aspect. -/
abbrev Finding := CompatVerdict × String

variable (src target : RuntimeCompatibilityDescriptor) (policy : PolicySet)

/-- Two environments agree on an aspect, or differ in a way the policy may allow with
translation. -/
def translatable (aspect : String) (source target : String) (allowed : Bool) : Finding :=
  if source = target then (.compatible, s!"{aspect} matches: {source}")
  else if allowed then
    (.compatibleWithTranslation, s!"{aspect} differs ({source} -> {target}), translation required")
  else
    (.incompatible, s!"{aspect} differs ({source} -> {target}) and policy forbids translation")

def osFinding : Finding :=
  translatable "os" src.os target.os policy.compatibility.allowCrossOs

def archFinding : Finding :=
  translatable "arch" src.arch target.arch policy.compatibility.allowCrossArch

def backendFinding : Finding :=
  if src.backendClass = target.backendClass then
    (.compatible, s!"backend matches: {src.backendClass}")
  else
    (.compatibleDegraded,
      s!"backend differs ({src.backendClass} -> {target.backendClass}): degraded resume only")

def schemaFinding : Finding :=
  if src.stateSchemaVersion = target.stateSchemaVersion then
    (.compatible, s!"state schema matches: v{src.stateSchemaVersion}")
  else if policy.compatibility.schemaStrict then
    (.incompatible, s!"state schema mismatch (v{src.stateSchemaVersion} -> v{target.stateSchemaVersion}) and policy is strict")
  else
    (.compatibleDegraded, s!"state schema differs (v{src.stateSchemaVersion} -> v{target.stateSchemaVersion}): degraded resume only")

def workloadClassFinding : Finding :=
  if src.workloadClass = target.workloadClass then
    (.compatible, s!"workload class matches: {src.workloadClass}")
  else
    (.compatibleDegraded, s!"workload class differs ({src.workloadClass} -> {target.workloadClass})")

def acceleratorFinding : Finding :=
  let required := src.acceleratorCapabilities.filter (·.startsWith "REQUIRED:")
  if !required.isEmpty && !required.all target.acceleratorCapabilities.contains then
    (.incompatible, "target lacks required accelerator capabilities")
  else (.compatible, "accelerator capabilities satisfied")

/-- The target's format version is read off the checkpoint's own descriptor, which
carries none: both are this build's. -/
def formatFinding : Finding :=
  let checkpointFormat := formatVersion
  let targetFormat := formatVersion
  if checkpointFormat = targetFormat then
    (.compatible, s!"checkpoint format matches: v{checkpointFormat}")
  else if checkpointFormat < targetFormat then
    (.compatibleWithTranslation,
      s!"checkpoint format v{checkpointFormat} restored by newer runtime v{targetFormat}")
  else
    (.incompatible, s!"checkpoint format v{checkpointFormat} newer than target v{targetFormat}")

/-- Whether the target has a provider for a component's restore handler. A component
without a handler is passed over. -/
def handlerFinding (c : ComponentEntry) : Option Finding :=
  if c.restoreHandler.isEmpty then none
  else
    match target.providerVersions.lookup c.restoreHandler with
    | none => some
        (if c.required then .incompatible else .compatibleDegraded,
          s!"target has no provider for required handler '{c.restoreHandler}'")
    | some v => some (.compatible, s!"handler '{c.restoreHandler}' available at version {v}")

/-- Evaluate whether a checkpoint can be restored into an environment. -/
def evaluate (checkpoint : CheckpointObject) : CompatibilityResult :=
  let src := checkpoint.runtimeDescriptor
  let findings :=
    [osFinding src target policy, archFinding src target policy, backendFinding src target,
      schemaFinding src target policy, workloadClassFinding src target,
      acceleratorFinding src target, formatFinding] ++
    checkpoint.components.filterMap (handlerFinding target)
  let verdict := CompatVerdict.overall (findings.map Prod.fst)
  { verdict
    reasons := findings.map Prod.snd ++
      if verdict = .compatible then ["all compatibility checks passed"] else []
    checkpointId := some checkpoint.checkpointId
    source := src
    target
    policyVersion := policy.version }

end Compatibility

/-- Enforce degraded-restore prohibition. -/
def enforceDegraded (policy : PolicySet) (verdict : CompatVerdict) : FabricResult Unit :=
  if policy.forbidDegradedRestore && verdict == .compatibleDegraded then
    .error (.policyViolation "degraded restore is forbidden by policy")
  else .ok ()

theorem enforceDegraded_eq_ok_of_compatible {policy : PolicySet} :
    enforceDegraded policy .compatible = .ok () := by
  simp [enforceDegraded, show (CompatVerdict.compatible == .compatibleDegraded) = false from rfl]

end CheckpointFabric
