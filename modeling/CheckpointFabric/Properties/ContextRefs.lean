import CheckpointFabric.Properties.HandlerVersions

/-!
# The context references of a restore

A checkpoint may depend on objects of another system, and whoever asks for a restore says how these
are resolved. The check asks of every required resolution that the checkpoint refers to its object.
It does not ask the converse, which is what its name says: a required reference that nobody has
resolved goes unnoticed, unless some resolution is for an object that the checkpoint does not know.

## Main definitions

* `Referenced`, `ContextRefsResolved` — the two quantifications
* `PastContextRefs` — a restore that goes on after the check has passed the check

## Main results

* `Restore.validateContextRefs_eq_ok_iff` — what the check asks
* `contextRefs_resolved_iff` — when that is what it should ask
-/

set_option autoImplicit false

namespace CheckpointFabric

open Concurrency Coordinator System

namespace Restore

variable {c : CheckpointObject} {resolved : List ContextRefResolution}

/-- The checkpoint depends on the object that the resolution is for. -/
def Referenced (c : CheckpointObject) (r : ContextRefResolution) : Prop :=
  ∃ d ∈ c.dependencies, d.kind = "context" ∧ d.identity = toHex r.objectId

/-- Every context object that the checkpoint requires has a resolution. -/
def ContextRefsResolved (c : CheckpointObject) (resolved : List ContextRefResolution) : Prop :=
  ∀ d ∈ c.dependencies, d.kind = "context" → d.required = true →
    ∃ r ∈ resolved, toHex r.objectId = d.identity

theorem any_eq_true_iff_referenced {r : ContextRefResolution} :
    (c.dependencies.any fun d => d.kind == "context" && d.identity == toHex r.objectId) = true ↔
      Referenced c r := by
  simp [Referenced]

/-- The check asks that the checkpoint refer to every object with a required resolution. -/
theorem validateContextRefs_eq_ok_iff : validateContextRefs c resolved = .ok () ↔
    ∀ r ∈ resolved, r.required = true → Referenced c r := by
  induction resolved with
  | nil => simp [validateContextRefs]
  | cons r resolved ih =>
    rw [List.forall_mem_cons, ← ih, ← any_eq_true_iff_referenced]
    simp only [validateContextRefs]
    split
    · rename_i hunknown
      obtain ⟨hrequired, hnone⟩ := Bool.and_eq_true_iff.mp hunknown
      rw [Bool.not_eq_true'] at hnone
      simp [hrequired, hnone]
    · rename_i hknown
      rw [Bool.and_eq_true, Bool.not_eq_true', not_and, Bool.not_eq_false] at hknown
      exact iff_and_self.mpr fun _ => hknown

/-- The check does what it should iff the required references are resolved, or a required resolution
is for an object that the checkpoint does not refer to. -/
theorem contextRefsResolved_iff :
    (validateContextRefs c resolved = .ok () → ContextRefsResolved c resolved) ↔
      ContextRefsResolved c resolved ∨ ∃ r ∈ resolved, r.required = true ∧ ¬ Referenced c r := by
  rw [validateContextRefs_eq_ok_iff, imp_iff_or_not]
  simp only [not_forall, exists_prop]

end Restore

section Request

variable {settings : Settings} {checkpointId : Id} {targetNode : NodeId} {options : RestoreOptions}
  {ctx : OperationContext} {ds : List FabricDeed}

/-- The checkpoint that was read has passed the check. -/
def PassedContextRefs (checkpointId : Id) (options : RestoreOptions) (ds : List FabricDeed) : Prop :=
  ∃ c, ⟨.db (.checkpointGet checkpointId), .ok (some c)⟩ ∈ ds ∧
    Restore.validateContextRefs c options.resolvedContextRefs = .ok ()

/-- The lookup of the workload comes after the check. -/
def PastContextRefs (checkpointId : Id) (options : RestoreOptions) (ds : List FabricDeed) (op : Op) :
    Prop :=
  (∃ id, op = .db (.workloadGet id)) → PassedContextRefs checkpointId options ds

theorem PassedContextRefs.obeys {α : Type} {p : Fabric α}
    (h : PassedContextRefs checkpointId options ds) :
    Obeys (PastContextRefs checkpointId options)
      (fun ds' _ => PassedContextRefs checkpointId options ds') ds p := by
  refine Obeys.of_uses (Uses.of_true p) (fun ds' op _ hpassed => ⟨fun _ => hpassed, ?_⟩) h
  obtain ⟨c, hread, hok⟩ := hpassed
  exact fun _ => ⟨c, .tail _ hread, hok⟩

theorem obeys_admitRestore_contextRefs :
    Obeys (PastContextRefs checkpointId options)
      (fun ds' result => ∀ run, result = .ok run → PassedContextRefs checkpointId options ds') ds
      (admitRestore settings checkpointId targetNode options ctx) := by
  have herror : ∀ (ds : List FabricDeed) (e : FabricError), ∀ run : RestoreRun,
      Except.error e = Except.ok run → PassedContextRefs checkpointId options ds :=
    fun _ _ _ h => absurd h (by simp)
  unfold admitRestore
  refine obeys_ofExcept_bind herror fun _ _ => ?_
  have hlists : Uses (fun op : Op => op = .db .nodeList) (nodeIsActive targetNode) :=
    Uses.bind (uses_db rfl) fun _ => trivial
  refine obeys_uses_bind herror hlists (fun ds' op _ hop => ?_) fun ds₁ active _ => ?_
  · rintro ⟨id, rfl⟩
    cases hop
  refine obeys_ensure_bind herror fun _ => ?_
  refine Obeys.bind herror (obeys_requireCheckpoint ?_) fun ds₂ c hc => ?_
  · rintro ⟨id, h⟩
    cases h
  refine obeys_ofExcept_bind herror fun _ _ => obeys_ofExcept_bind herror fun _ _ => ?_
  refine obeys_ofExcept_bind herror fun _ hpassed => ?_
  -- From here on the checkpoint that was read has passed the check.
  have hfact : PassedContextRefs checkpointId options ds₂ := ⟨c, hc ▸ .head _, hpassed⟩
  exact hfact.obeys.weaken fun _ _ h _ _ => h

theorem obeys_requestRestore_contextRefs :
    Obeys (PastContextRefs checkpointId options) (fun _ _ => True) []
      (requestRestore settings checkpointId targetNode options ctx) := by
  unfold requestRestore
  refine Obeys.bind (fun _ _ => trivial) obeys_admitRestore_contextRefs fun ds run h => ?_
  exact h.obeys.weaken fun _ _ _ => trivial

end Request

/-- For every checkpoint and every list of resolutions: what passes the check has its required
context references resolved iff they are resolved, or a required resolution is for an object that the
checkpoint does not refer to. Whatever a restore does after the check, the checkpoint that it has
read has passed it. -/
theorem contextRefs_resolved_iff (c : CheckpointObject) (resolved : List ContextRefResolution) :
    ((Restore.validateContextRefs c resolved = .ok () → Restore.ContextRefsResolved c resolved) ↔
      Restore.ContextRefsResolved c resolved ∨
        ∃ r ∈ resolved, r.required = true ∧ ¬ Restore.Referenced c r) ∧
    ∀ settings checkpointId targetNode options ctx ds id rest,
      Follows (requestRestore settings checkpointId targetNode options ctx) ds
        (.perform (.db (.workloadGet id)) rest) →
      PassedContextRefs checkpointId options ds := by
  refine ⟨Restore.contextRefsResolved_iff, ?_⟩
  intro settings checkpointId targetNode options ctx ds id rest hfollows
  exact (obeys_requestRestore_contextRefs.of_follows hfollows).1 ⟨id, rfl⟩

namespace Demo

/-- A checkpoint that cannot do without a context object. -/
def referring : CheckpointObject :=
  { versioned with dependencies := [⟨"context", toHex 5, none, true⟩] }

/-- The coordinator knows this checkpoint. -/
def referringAnswer : (op : Op) → FabricResult op.Reply
  | .db (.checkpointGet _) => .ok (some referring)
  | op => versionedAnswer .available op

/-- A restore of it that resolves nothing, up to where it goes on after the check. -/
def unresolved : List FabricDeed × Fabric OperationOutcome :=
  Program.advance referringAnswer 2 [] (requestRestore settings 2 "n1" {} operator)

/-- The workload that a program looks up next. -/
def nextWorkload {α : Type} : Fabric α → Option Id
  | .perform (.db (.workloadGet id)) _ => some id
  | _ => none

theorem exists_rest_of_nextWorkload {α : Type} {p : Fabric α} {id : Id}
    (h : nextWorkload p = some id) : ∃ rest, p = .perform (.db (.workloadGet id)) rest := by
  unfold nextWorkload at h
  split at h
  · cases h
    exact ⟨_, rfl⟩
  · cases h

end Demo

/-- A restore without resolutions goes on with a checkpoint that requires a context object. -/
theorem contextRefs_unresolved : ∃ ds id rest,
    Follows (requestRestore Demo.settings 2 "n1" {} Demo.operator) ds
      (.perform (.db (.workloadGet id)) rest) ∧
    ⟨.db (.checkpointGet 2), .ok (some Demo.referring)⟩ ∈ ds ∧
    ¬ Restore.ContextRefsResolved Demo.referring [] := by
  obtain ⟨rest, hrest⟩ := Demo.exists_rest_of_nextWorkload
    (show Demo.nextWorkload Demo.unresolved.2 = some 7 by decide +kernel)
  refine ⟨Demo.unresolved.1, 7, rest, hrest ▸ follows_advance 2 .start, .head _, ?_⟩
  intro hresolved
  obtain ⟨r, hr, -⟩ := hresolved ⟨"context", toHex 5, none, true⟩ (.head _) rfl rfl
  cases hr

end CheckpointFabric
