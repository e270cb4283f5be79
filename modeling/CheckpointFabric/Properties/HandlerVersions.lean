import CheckpointFabric.Footprints.Outcome
import CheckpointFabric.Lineage
import CheckpointFabric.Properties.AllOrNothing
import CheckpointFabric.Properties.Compatibility
import CheckpointFabric.Properties.Requirements

/-!
# The versions of restore handlers

The schema version of a component is recorded when it is captured, and a node tells the versions of
its handlers when it registers. The evaluation looks for the handler and reports its version; it
does not compare it. Nor does the node, which hands a payload to whatever provider it has for the
component. What keeps the two apart, where anything does, is a difference of another kind, or a
provider that happens to have the right version.

## Main definitions

* `Compatibility.VersionDiffers` — the target has the handler of a component at another version
* `Compatibility.JudgesVersions` — such a target is not found compatible
* `RestoredOnto` — what a restore has read, asked and reported
* `DeliversVersions` — a payload that went to another version comes with a lower class
* `Lowered` — the class is lowered for another reason

## Main results

* `Compatibility.judgesVersions_iff` — when the evaluation does what it should
* `deliversVersions_iff` — when a restore does
* `handler_versions_iff` — the two together
-/

set_option autoImplicit false

namespace CheckpointFabric

open Concurrency Coordinator System

namespace Compatibility

variable {checkpoint : CheckpointObject} {target : RuntimeCompatibilityDescriptor}
  {policy : PolicySet}

/-- The target has the restore handler of the component, at a version other than the schema version
of the component. -/
def VersionDiffers (target : RuntimeCompatibilityDescriptor) (e : ComponentEntry) : Prop :=
  ∃ v, target.providerVersions.lookup e.restoreHandler = some v ∧ v ≠ toString e.schemaVersion

/-- A target that has the handler of a required component at another version is not compatible. -/
def JudgesVersions (checkpoint : CheckpointObject) (target : RuntimeCompatibilityDescriptor)
    (policy : PolicySet) : Prop :=
  (∃ e ∈ checkpoint.components, e.required = true ∧ VersionDiffers target e) →
    (evaluate target policy checkpoint).verdict ≠ .compatible

/-- The evaluation heeds the versions of the handlers iff they agree, or there is a difference of
another kind. -/
theorem judgesVersions_iff : JudgesVersions checkpoint target policy ↔
    (∀ e ∈ checkpoint.components, e.required = true → ¬ VersionDiffers target e) ∨
      ∃ v, Mismatch checkpoint target policy v := by
  unfold JudgesVersions
  rw [ne_eq, verdict_eq_compatible_iff, not_forall_not, imp_iff_not_or]
  refine or_congr_left ⟨fun h e he hrequired hdiffers => h ⟨e, he, hrequired, hdiffers⟩, ?_⟩
  rintro h ⟨e, he, hrequired, hdiffers⟩
  exact h e he hrequired hdiffers

/-- The class of the checkpoint is not the one that a restore reports: there is a difference, and
the class stands for none or for less; or the target did not resume. -/
def Lowered (checkpoint : CheckpointObject) (target : RuntimeCompatibilityDescriptor)
    (policy : PolicySet) (resumed : Bool) : Prop :=
  (checkpoint.resumability = .exact ∧ ∃ v, Mismatch checkpoint target policy v) ∨
  (checkpoint.resumability = .equivalent ∧ Mismatch checkpoint target policy .compatibleDegraded) ∨
  (resumed = false ∧
    ResumabilityClass.restartFromCheckpoint.rank < checkpoint.resumability.rank)

theorem verdict_eq_degraded_iff
    (h : (evaluate target policy checkpoint).verdict ≠ .incompatible) :
    (evaluate target policy checkpoint).verdict = .compatibleDegraded ↔
      Mismatch checkpoint target policy .compatibleDegraded := by
  constructor
  · intro hdegraded
    have hcases := verdict_cases checkpoint target policy
    rw [hdegraded] at hcases
    exact hcases.resolve_left (by decide)
  · intro hmismatch
    have hrank := rank_le_verdict_of_mismatch hmismatch
    generalize (evaluate target policy checkpoint).verdict = v at h hrank ⊢
    cases v with
    | compatibleDegraded => rfl
    | incompatible => exact absurd rfl h
    | _ => exact absurd hrank (by decide)

/-- Onto a target that is not incompatible, a restore reports the class of the checkpoint iff
nothing lowers it. -/
theorem restoredResumability_eq_iff {resumed : Bool}
    (h : (evaluate target policy checkpoint).verdict ≠ .incompatible) :
    Restore.restoredResumability checkpoint.resumability (evaluate target policy checkpoint).verdict
      resumed = checkpoint.resumability ↔ ¬ Lowered checkpoint target policy resumed := by
  have hnone : (∃ v, Mismatch checkpoint target policy v) ↔
      (evaluate target policy checkpoint).verdict ≠ .compatible := by
    rw [ne_eq, verdict_eq_compatible_iff, not_forall_not]
  unfold Lowered
  rw [hnone, ← verdict_eq_degraded_iff h]
  generalize (evaluate target policy checkpoint).verdict = v at h
  cases v with
  | incompatible => exact absurd rfl h
  | _ => cases checkpoint.resumability <;> cases resumed <;> decide

end Compatibility

open Compatibility

section Restores

variable {settings : Settings} {checkpointId : Id} {targetNode : NodeId} {options : RestoreOptions}
  {ctx : OperationContext} {ds : List FabricDeed} {outcome : OperationOutcome} {run : RestoreRun}
  {target : RuntimeCompatibilityDescriptor} {result : NodeRestoreResult} {digest : String}
  {resumed : Bool}

/-- The message that asks the target to apply the components. -/
def restoreRequest (settings : Settings) (run : RestoreRun) (digest : String) :
    NodeRestoreRequest where
  attemptId := run.attemptId
  checkpointId := run.ckpt.checkpointId
  workloadId := run.ckpt.workloadId
  expectedManifestDigest := digest
  maxComponentBytes := settings.policy.maxComponentBytes

/-- What the admission of a restore has read: the checkpoint, and the descriptor of the target,
which it has not found incompatible. -/
structure AdmittedOnto (settings : Settings) (checkpointId : Id) (targetNode : NodeId)
    (options : RestoreOptions) (ds : List FabricDeed) (run : RestoreRun)
    (target : RuntimeCompatibilityDescriptor) : Prop where
  node : run.targetNode = targetNode
  options_eq : run.options = options
  read : ⟨.db (.checkpointGet checkpointId), .ok (some run.ckpt)⟩ ∈ ds
  described : ∃ nodes n, ⟨.db .nodeList, .ok nodes⟩ ∈ ds ∧ n ∈ nodes ∧ n.id = targetNode ∧
    n.resources.runtime = some target
  verdict : run.verdict = (evaluate target settings.policy run.ckpt).verdict
  admitted : run.verdict ≠ .incompatible

/-- What a restore has asked and reported: the target has applied the components, and the class is
derived from that of the checkpoint, from the verdict and from whether the target resumed. -/
structure Reported (settings : Settings) (ds : List FabricDeed) (outcome : OperationOutcome)
    (run : RestoreRun) (digest : String) (result : NodeRestoreResult) (resumed : Bool) : Prop where
  anchor : run.ckpt.manifestDigest = some digest
  answered : ⟨.call run.targetNode (.restore (restoreRequest settings run digest)), .ok result⟩ ∈ ds
  ok : result.ok = true
  asked : resumed = true → run.options.resume = true
  reports : outcome.resumability =
    some (Restore.restoredResumability run.ckpt.resumability run.verdict resumed)

/-- A restore of a checkpoint onto a node that has come back with an outcome. -/
structure RestoredOnto (settings : Settings) (checkpointId : Id) (targetNode : NodeId)
    (options : RestoreOptions) (ds : List FabricDeed) (outcome : OperationOutcome)
    (run : RestoreRun) (target : RuntimeCompatibilityDescriptor) (digest : String)
    (result : NodeRestoreResult) (resumed : Bool) : Prop
    extends AdmittedOnto settings checkpointId targetNode options ds run target,
      Reported settings ds outcome run digest result resumed

/-- The descriptor of a node is that of a node in a list. -/
theorem obeys_nodeRuntime {node : NodeId} :
    Obeys (fun _ _ => True)
      (fun ds' result => ∀ rt : RuntimeCompatibilityDescriptor, result = .ok rt →
        ∃ nodes n, ds' = ⟨.db .nodeList, .ok nodes⟩ :: ds ∧ n ∈ nodes ∧ n.id = node ∧
          n.resources.runtime = some rt)
      ds (nodeRuntime node) := by
  refine obeys_call_bind (fun _ _ _ h => absurd h (by simp)) trivial fun nodes => ?_
  split
  · rename_i n hfind
    cases hruntime : n.resources.runtime with
    | none => exact fun _ h => absurd h (by simp)
    | some found =>
      intro rt hrt
      obtain rfl := Except.ok.inj hrt
      exact ⟨nodes, n, rfl, List.mem_of_find?_eq_some hfind, eq_of_beq (List.find?_some hfind :),
        hruntime⟩
  · exact fun _ h => absurd h (by simp)

theorem obeys_admitRestore_onto :
    Obeys (fun _ _ => True)
      (fun ds' result => ∀ run, result = .ok run →
        ∃ target, AdmittedOnto settings checkpointId targetNode options ds' run target)
      ds (admitRestore settings checkpointId targetNode options ctx) := by
  have herror : ∀ (ds : List FabricDeed) (e : FabricError), ∀ run : RestoreRun,
      Except.error e = Except.ok run →
        ∃ target, AdmittedOnto settings checkpointId targetNode options ds run target :=
    fun _ _ _ h => absurd h (by simp)
  unfold admitRestore
  refine obeys_ofExcept_bind herror fun _ _ => ?_
  refine obeys_uses_bind herror (uses_nodeIsActive fun _ => id) (fun _ _ _ _ => trivial)
    fun _ active _ => ?_
  refine obeys_ensure_bind herror fun _ => ?_
  refine Obeys.bind herror (obeys_requireCheckpoint trivial) fun ds₁ ckpt hckpt => ?_
  refine obeys_ofExcept_bind herror fun _ _ => obeys_ofExcept_bind herror fun _ _ => ?_
  refine obeys_ofExcept_bind herror fun _ _ => ?_
  refine obeys_uses_bind herror (uses_requireWorkload fun _ => id) (fun _ _ _ _ => trivial)
    fun ds₂ workload hds₂ => ?_
  refine obeys_ofExcept_bind herror fun _ _ => ?_
  refine Obeys.bind herror obeys_nodeRuntime fun ds₃ target hdescribed => ?_
  refine obeys_ensure_bind herror fun hadmitted => obeys_ofExcept_bind herror fun _ _ => ?_
  refine obeys_call_bind herror trivial fun nonce => ?_
  -- All checks have passed; the run is put together from what they read.
  intro run hrun
  obtain rfl := Except.ok.inj hrun
  obtain ⟨nodes, n, rfl, hn, hid, hruntime⟩ := hdescribed
  subst hckpt
  exact ⟨target,
    { node := rfl
      options_eq := rfl
      read := .tail _ (.tail _ (hds₂.subset (.head _)))
      described := ⟨nodes, n, .tail _ (.head _), hn, hid, hruntime⟩
      verdict := rfl
      admitted := hadmitted }⟩

/-- An answer of a node is the newest deed. -/
theorem obeys_callNode_returned (node : NodeId) (request : NodeRequest) :
    Obeys (fun _ _ => True)
      (fun ds' answer => ∀ a, answer = .ok a → ⟨.call node request, .ok a⟩ ∈ ds') ds
      (callNode node request) := by
  refine (obeys_callNode_ended node request).weaken fun ds' answer h a ha => ?_
  rcases h with ⟨nodes, rfl⟩ | ⟨nodes, e, rfl, rfl, -⟩
  · exact ha ▸ .head _
  · cases ha

theorem obeys_executeRestore_reported :
    Obeys (fun _ _ => True)
      (fun ds' result => ∀ outcome, result = .ok outcome →
        ∃ digest answer resumed, Reported settings ds' outcome run digest answer resumed)
      ds (executeRestore settings run) := by
  have herror : ∀ (ds : List FabricDeed) (e : FabricError), ∀ outcome : OperationOutcome,
      Except.error e = Except.ok outcome →
        ∃ digest answer resumed, Reported settings ds outcome run digest answer resumed :=
    fun _ _ _ h => absurd h (by simp)
  have hany {α : Type} {p : Fabric α} {f : α → Fabric OperationOutcome} {ds : List FabricDeed}
      (h : ∀ ds' a, ds <:+ ds' → Obeys (fun _ _ => True) (fun ds' result => ∀ outcome,
        result = .ok outcome →
          ∃ digest answer resumed, Reported settings ds' outcome run digest answer resumed)
        ds' (f a)) := obeys_uses_bind herror (Uses.of_true p) (fun _ _ _ _ => trivial) h
  have happlied {ds : List FabricDeed} : Obeys (fun _ _ => True)
      (fun ds' result => ∀ u, result = .ok u → ∃ digest answer,
        run.ckpt.manifestDigest = some digest ∧ answer.ok = true ∧
        ⟨.call run.targetNode (.restore (restoreRequest settings run digest)), .ok answer⟩ ∈ ds')
      ds (applyRestore settings run) := by
    refine obeys_okOr_bind (fun _ _ _ h => absurd h (by simp)) fun digest hdigest => ?_
    refine Obeys.bind (fun _ _ _ h => absurd h (by simp)) (obeys_callNode_returned run.targetNode
      (.restore (restoreRequest settings run digest))) fun ds' answer hanswered => ?_
    refine obeys_ensure_bind (fun _ _ _ h => absurd h (by simp)) fun hok => ?_
    refine ((Obeys.extend (Uses.of_true _) fun _ _ _ _ => trivial).weaken
      fun ds'' _ hsuffix u _ => ?_)
    exact ⟨digest, answer, hdigest, hok, hsuffix.subset hanswered⟩
  unfold executeRestore
  refine hany fun ds₁ _ _ => ?_
  refine Obeys.bind herror happlied fun ds₂ _ h => ?_
  obtain ⟨digest, answer, hdigest, hok, hanswered⟩ := h
  refine hany fun ds₃ committed hds₃ => ?_
  obtain ⟨token, w⟩ := committed
  unfold finishRestore
  refine hany fun ds₄ resumeAnswer hds₄ => ?_
  refine hany fun ds₅ _ hds₅ => hany fun ds₆ _ hds₆ => hany fun ds₇ _ hds₇ => ?_
  refine hany fun ds₈ _ hds₈ => ?_
  intro outcome houtcome
  obtain rfl := Except.ok.inj houtcome
  refine ⟨digest, answer, resumedBy run resumeAnswer,
    { anchor := hdigest
      answered := ?_
      ok := hok
      asked := ?_
      reports := rfl }⟩
  · have hsuffix := hds₃.trans (hds₄.trans (hds₅.trans (hds₆.trans (hds₇.trans hds₈))))
    exact hsuffix.subset hanswered
  · intro hresumed
    cases resumeAnswer with
    | error e => cases hresumed
    | ok r => exact (Bool.and_eq_true_iff.mp hresumed).1

theorem obeys_requestRestore_onto :
    Obeys (fun _ _ => True)
      (fun ds' result => ∀ outcome, result = .ok outcome → ∃ run target digest answer resumed,
        RestoredOnto settings checkpointId targetNode options ds' outcome run target digest answer
          resumed)
      ds (requestRestore settings checkpointId targetNode options ctx) := by
  have herror : ∀ (ds : List FabricDeed) (e : FabricError), ∀ outcome : OperationOutcome,
      Except.error e = Except.ok outcome → ∃ run target digest answer resumed,
        RestoredOnto settings checkpointId targetNode options ds outcome run target digest answer
          resumed :=
    fun _ _ _ h => absurd h (by simp)
  unfold requestRestore
  refine Obeys.bind herror obeys_admitRestore_onto fun ds₁ run hadmitted => ?_
  obtain ⟨target, hadmitted⟩ := hadmitted
  refine obeys_uses_bind herror (Uses.of_true _) (fun _ _ _ _ => trivial) fun ds₂ _ hds₂ => ?_
  refine obeys_mapErr obeys_executeRestore_reported.extends ?_ (fun ds' e _ _ => herror ds' e)
    fun ds' e _ _ => (Obeys.extend (Uses.of_true _) fun _ _ _ _ => trivial).weaken
      fun ds'' _ _ => herror ds'' e
  rintro ds₃ outcome ⟨hds₃, hreported⟩ _ ⟨⟩
  obtain ⟨digest, answer, resumed, hreported⟩ := hreported outcome rfl
  have hsubset := (hds₂.trans hds₃).subset
  obtain ⟨nodes, n, hnodes, hdescribed⟩ := hadmitted.described
  exact ⟨run, target, digest, answer, resumed,
    { hadmitted, hreported with
      read := hsubset hadmitted.read
      described := ⟨nodes, n, hsubset hnodes, hdescribed⟩ }⟩

/-- The registry of a node answers with these providers. -/
def Registered (registry : Id → String → Option Replica.Provider) (nds : List Replica.DiskDeed) :
    Prop :=
  ∀ workloadId id found, ⟨.providerGet workloadId id, .ok found⟩ ∈ nds →
    registry workloadId id = found

/-- Where the target has the handler of a required component at another version, and the node hands
the content of the component to a provider of another version, the class of the checkpoint is not
the one reported. -/
def DeliversVersions (spec : Replica.Provider → Staging.ProviderSpec) (files : Replica.FileCodecs)
    (c : CheckpointObject) (target : RuntimeCompatibilityDescriptor) (nds : List Replica.DiskDeed)
    (outcome : OperationOutcome) : Prop :=
  ∀ e ∈ c.components, e.required = true → VersionDiffers target e →
    ∀ p ctx payload reply, ⟨.providerGet c.workloadId e.componentId, .ok (some p)⟩ ∈ nds →
      ⟨.restore p ctx payload, reply⟩ ∈ nds → Replica.Recorded files e payload →
      (spec p).schemaVersion ≠ e.schemaVersion → outcome.resumability ≠ some c.resumability

/-- A restore that succeeds hands over the content of every required component. -/
theorem handed_of_restored {files : Replica.FileCodecs} {node : NodeState}
    {req : NodeRestoreRequest} {nds : List Replica.DiskDeed} {entries : List ComponentEntry}
    (hfollows : Follows (Replica.doRestore files node req) nds (.done (.ok result)))
    (hok : result.ok = true) (hshown : ∀ m, Replica.AnchorRead files req nds m →
      m.components = entries) :
    ∀ e ∈ entries, e.required = true → Replica.Handed files req e nds := by
  have hobeys : Obeys (fun _ _ => True) (fun ds result => ∀ a, result = .ok a → a.ok = true →
      ∃ m, Replica.AnchorRead files req ds m ∧
        ∀ e ∈ m.components, e.required = true → Replica.Handed files req e ds) []
      (Replica.doRestore files node req) := by
    refine Replica.obeys_doRestore_of_components (fun _ _ => trivial) (fun _ _ _ => trivial)
      (fun _ _ _ h => absurd h (by simp))
      (fun _ _ _ _ ha hok => absurd hok (Replica.not_ok_of_refused ha)) fun m ds ctx hread => ?_
    refine Replica.obeys_restoreComponents_handed.extends.weaken fun ds₂ result h a ha hok => ?_
    exact ⟨m, hread.mono h.1, h.2 a ha hok⟩
  obtain ⟨m, hread, hhanded⟩ := hobeys.of_follows hfollows result rfl hok
  exact hshown m hread ▸ hhanded

/-- When a restore heeds the versions of the providers. -/
theorem deliversVersions_iff {files : Replica.FileCodecs} {node : NodeState}
    {spec : Replica.Provider → Staging.ProviderSpec}
    {registry : Id → String → Option Replica.Provider} {nds : List Replica.DiskDeed}
    (honto : RestoredOnto settings checkpointId targetNode options ds outcome run target digest
      result resumed)
    (hfollows : Follows (Replica.doRestore files node (restoreRequest settings run digest)) nds
      (.done (.ok result)))
    (hregistered : Registered registry nds)
    (hshown : ∀ m, Replica.AnchorRead files (restoreRequest settings run digest) nds m →
      m.components = run.ckpt.components) :
    DeliversVersions spec files run.ckpt target nds outcome ↔
      ∀ e ∈ run.ckpt.components, e.required = true → VersionDiffers target e →
        (∀ p ∈ registry run.ckpt.workloadId e.componentId,
          (spec p).schemaVersion = e.schemaVersion) ∨
        Lowered run.ckpt target settings.policy resumed := by
  have hclass : outcome.resumability ≠ some run.ckpt.resumability ↔
      Lowered run.ckpt target settings.policy resumed := by
    rw [honto.reports, honto.verdict, ne_eq, Option.some.injEq,
      restoredResumability_eq_iff (honto.verdict ▸ honto.admitted), not_not]
  constructor
  · intro hdelivers e he hrequired hdiffers
    by_contra hneither
    obtain ⟨hother, hkept⟩ := not_or.mp hneither
    -- The restore has succeeded, so the component was handed to the provider that is registered.
    obtain ⟨p, ctx, payload, hfound, hrecorded, hrestored, -⟩ :=
      handed_of_restored hfollows honto.ok hshown e he hrequired
    have hregistry := hregistered _ _ _ hfound
    refine hkept (hclass.mp (hdelivers e he hrequired hdiffers p ctx payload _ hfound hrestored
      hrecorded fun hversion => hother fun q hq => ?_))
    obtain rfl := Option.some.inj (hregistry.symm.trans hq)
    exact hversion
  · intro hheeded e he hrequired hdiffers p ctx payload reply hfound _ _ hversion
    rcases hheeded e he hrequired hdiffers with hsame | hlowered
    · exact absurd (hsame p (hregistered _ _ _ hfound)) hversion
    · exact hclass.mpr hlowered

end Restores

/-- For every checkpoint, target and policy, the evaluation heeds the versions of the handlers iff
they agree or there is a difference of another kind. For every restore that comes back with an
outcome, however its node has come to its answer, the restore heeds the versions of the providers
iff, for every required component whose handler the target has at another version, the provider
that is registered has the right version, or the class is lowered for another reason. -/
theorem handler_versions_iff (checkpoint : CheckpointObject)
    (target : RuntimeCompatibilityDescriptor) (policy : PolicySet) :
    (JudgesVersions checkpoint target policy ↔
      (∀ e ∈ checkpoint.components, e.required = true → ¬ VersionDiffers target e) ∨
        ∃ v, Mismatch checkpoint target policy v) ∧
    ∀ settings checkpointId targetNode options ctx ds outcome,
      Follows (requestRestore settings checkpointId targetNode options ctx) ds
        (.done (.ok outcome)) →
      ∃ run target digest result resumed,
        RestoredOnto settings checkpointId targetNode options ds outcome run target digest result
          resumed ∧
        ∀ files node spec registry nds,
          Follows (Replica.doRestore files node (restoreRequest settings run digest)) nds
            (.done (.ok result)) →
          Registered registry nds →
          (∀ m, Replica.AnchorRead files (restoreRequest settings run digest) nds m →
            m.components = run.ckpt.components) →
          (DeliversVersions spec files run.ckpt target nds outcome ↔
            ∀ e ∈ run.ckpt.components, e.required = true → VersionDiffers target e →
              (∀ p ∈ registry run.ckpt.workloadId e.componentId,
                (spec p).schemaVersion = e.schemaVersion) ∨
              Lowered run.ckpt target settings.policy resumed) := by
  refine ⟨judgesVersions_iff, ?_⟩
  intro settings checkpointId targetNode options ctx ds outcome hfollows
  obtain ⟨run, target, digest, result, resumed, honto⟩ :=
    obeys_requestRestore_onto.of_follows hfollows outcome rfl
  refine ⟨run, target, digest, result, resumed, honto, ?_⟩
  intro files node spec registry nds hrestored hregistered hshown
  exact deliversVersions_iff honto hrestored hregistered hshown

/-! ### A handler of another version

The only component was captured at version 1. The target has its handler at version 2. -/

namespace Demo

/-- The target: like the source, with one handler. -/
def upgraded : RuntimeCompatibilityDescriptor :=
  { runtime with providerVersions := [("application", "2")] }

/-- A checkpoint that can be resumed as it was. -/
def versioned : CheckpointObject :=
  { Lineage.Demo.orphan with
    checkpointId := 2
    checkpointType := .full
    resumability := .exact
    runtimeDescriptor := runtime
    components := [Replica.Demo.entry]
    durableLocations := [⟨"n1", "/data", true⟩]
    replicaCount := 1
    manifestDigest := some Replica.Demo.digest }

/-- Every provider is one of the component, at version 2. -/
def upgradedSpec (_ : Replica.Provider) : Staging.ProviderSpec :=
  ⟨"app", .applicationState, true, 2, "application", "", []⟩

/-- The answers of a coordinator whose checkpoint is in this state. -/
def versionedAnswer (state : LifecycleState) : (op : Op) → FabricResult op.Reply
  | .db .nodeList => .ok [⟨"n1", "addr", "boot", .active, 0, 0, ⟨"/data", some upgraded⟩⟩]
  | .db (.checkpointGet _) => .ok (some { versioned with lifecycle := state })
  | .db (.workloadGet _) => .ok (some (newWorkload settings 7 spec 0 none none none 0))
  | .db (.reservationCreate ..) | .db (.attemptBegin ..) | .db (.journalAppend ..)
  | .db (.checkpointSetLifecycle ..) | .db (.restoreCommit ..) | .db (.attemptFinish ..)
  | .db (.reservationRelease _) | .fire _ => .ok ()
  | .random => .ok 9
  | .call _ (.probe req) => .ok ⟨req.checkpointId, true⟩
  | .call _ (.restore req) => .ok ⟨req.attemptId, true, none, ["app"]⟩
  | .call _ (.resume req) => .ok ⟨req.attemptId, true, none⟩
  | _ => .error (.internal "")

/-- The restore up to the answer of the probe, and then to its end. -/
def versionedRestore : List FabricDeed × Fabric OperationOutcome :=
  let (ds, rest) := Program.advance (versionedAnswer .available) 13 []
    (requestRestore settings 2 "n1" {} operator)
  Program.advance (versionedAnswer .restorePending) 40 ds rest

/-- The node applies the component with its provider 1. -/
def versionedNode : List Replica.DiskDeed × Replica.Work NodeRestoreResult :=
  Program.advance Replica.Demo.answer 20 []
    (Replica.doRestore Replica.Demo.files Replica.Demo.node Replica.Demo.request)

/-- The nodes that a deed has listed. -/
def listedNodes : FabricDeed → Option (List NodeRecord)
  | ⟨.db .nodeList, .ok nodes⟩ => some nodes
  | _ => none

/-- The row that a deed has read. -/
def shownCheckpoint : FabricDeed → Option CheckpointObject
  | ⟨.db (.checkpointGet _), .ok row⟩ => row
  | _ => none

/-- The message that has asked a node to apply components, and the answer. -/
def appliedWith : FabricDeed → Option (NodeRestoreRequest × NodeRestoreResult)
  | ⟨.call _ (.restore req), .ok result⟩ => some (req, result)
  | _ => none

deriving instance DecidableEq for NodeRestoreRequest, NodeRestoreResult

theorem versionedNode_eq : versionedNode = Program.advance Replica.Demo.answer 17
    (Replica.Demo.opening Replica.Demo.request Replica.Demo.document)
    (Replica.Demo.applied Replica.Demo.files Replica.Demo.node Replica.Demo.request
      Replica.Demo.manifest) :=
  Replica.Demo.advance_doRestore Replica.Demo.finds_answer 17

theorem versionedNode_done : Follows (Replica.doRestore Replica.Demo.files Replica.Demo.node
    Replica.Demo.request) versionedNode.1
      (.done (.ok ⟨.restore 2 9, true, none, ["app"]⟩)) := by
  have hdone : versionedNode.2.result?.bind (·.toOption) =
      some ⟨.restore 2 9, true, none, ["app"]⟩ := by
    rw [versionedNode_eq]
    decide +kernel
  obtain ⟨result, hresult, hok⟩ := Option.bind_eq_some_iff.mp hdone
  cases result with
  | error e => cases hok
  | ok a =>
    obtain rfl := Option.some.inj hok
    rw [← Program.eq_done_of_result? hresult]
    exact follows_advance 20 .start

/-- The restore comes back with an outcome of the captured class. -/
theorem versionedRestore_done : ∃ outcome,
    Follows (requestRestore settings 2 "n1" {} operator) versionedRestore.1
      (.done (.ok outcome)) ∧ outcome.resumability = some .exact := by
  have hdone : (versionedRestore.2.result?.bind (·.toOption)).map (·.resumability) =
      some (some .exact) := by decide +kernel
  obtain ⟨outcome, hdone, hclass⟩ := Option.map_eq_some_iff.mp hdone
  obtain ⟨result, hresult, hok⟩ := Option.bind_eq_some_iff.mp hdone
  cases result with
  | error e => cases hok
  | ok a =>
    obtain rfl := Option.some.inj hok
    refine ⟨a, ?_, hclass⟩
    rw [← Program.eq_done_of_result? hresult]
    exact follows_advance 40 (follows_advance 13 .start)

/-- What the restore was about. -/
structure VersionedRun (run : RestoreRun) (target : RuntimeCompatibilityDescriptor)
    (digest : String) (result : NodeRestoreResult) : Prop where
  components : run.ckpt.components = [Replica.Demo.entry]
  workload : run.ckpt.workloadId = 7
  class_ : run.ckpt.resumability = .exact
  target : target = upgraded
  request : restoreRequest settings run digest = Replica.Demo.request
  result : result = ⟨.restore 2 9, true, none, ["app"]⟩

/-- What the deeds show is what the answers were. -/
theorem versionedRun_of_restored {outcome : OperationOutcome} {run : RestoreRun}
    {target : RuntimeCompatibilityDescriptor} {digest : String} {result : NodeRestoreResult}
    {resumed : Bool} (honto : RestoredOnto settings 2 "n1" {} versionedRestore.1 outcome run target
      digest result resumed) : VersionedRun run target digest result := by
  have hrow : ∀ d ∈ versionedRestore.1, ∀ c ∈ shownCheckpoint d,
      c.components = [Replica.Demo.entry] ∧ c.workloadId = 7 ∧ c.resumability = .exact := by
    decide +kernel
  have htarget : ∀ d ∈ versionedRestore.1, ∀ nodes ∈ listedNodes d,
      ∀ n ∈ nodes, n.resources.runtime = some upgraded := by
    decide +kernel
  have hasked : ∀ d ∈ versionedRestore.1, ∀ x ∈ appliedWith d,
      x.1 = Replica.Demo.request ∧ x.2 = ⟨.restore 2 9, true, none, ["app"]⟩ := by
    decide +kernel
  obtain ⟨hcomponents, hworkload, hclass⟩ := hrow _ honto.read _ rfl
  obtain ⟨nodes, n, hmem, hn, -, hruntime⟩ := honto.described
  obtain ⟨hrequest, hresult⟩ := hasked _ honto.answered _ rfl
  exact ⟨hcomponents, hworkload, hclass,
    Option.some.inj (hruntime.symm.trans (htarget _ hmem nodes rfl n hn)), hrequest, hresult⟩

/-- The only manifest of the libraries has the components of the row. -/
theorem components_of_anchorRead {m : Manifest} (h : Replica.AnchorRead Replica.Demo.files
    Replica.Demo.request versionedNode.1 m) : m.components = [Replica.Demo.entry] := by
  obtain ⟨_, doc, -, -, hparse⟩ := h
  obtain rfl := List.mem_singleton.mp (Replica.Demo.mem_of_parse hparse)
  rfl

/-- Provider 1, which is registered for the component, has it at the version of the capture. -/
def capturedSpec (_ : Replica.Provider) : Staging.ProviderSpec :=
  ⟨"app", .applicationState, true, 1, "application", "", []⟩

/-- What a lookup has found. -/
def foundProvider : Replica.DiskDeed → Option (Option Replica.Provider)
  | ⟨.providerGet _ _, .ok found⟩ => some found
  | _ => none

theorem registered_versionedNode : Registered (fun _ _ => some 1) versionedNode.1 := by
  have hall : ∀ d ∈ versionedNode.1, ∀ found ∈ foundProvider d, some 1 = found := by
    rw [versionedNode_eq]
    decide +kernel
  exact fun workloadId id found hmem => hall _ hmem found rfl

end Demo

/-- Where the registered provider has the version of the capture, the restore heeds the versions
although the target has its handler at another one; the evaluation does not. -/
theorem handler_versions_iff_provided :
    ¬ JudgesVersions Demo.versioned Demo.upgraded Demo.settings.policy ∧
    ∃ outcome run digest result resumed,
      RestoredOnto Demo.settings 2 "n1" {} Demo.versionedRestore.1 outcome run Demo.upgraded digest
        result resumed ∧
      Follows (Replica.doRestore Replica.Demo.files Replica.Demo.node
        (restoreRequest Demo.settings run digest)) Demo.versionedNode.1 (.done (.ok result)) ∧
      (∃ e ∈ run.ckpt.components, e.required = true ∧ VersionDiffers Demo.upgraded e) ∧
      DeliversVersions Demo.capturedSpec Replica.Demo.files run.ckpt Demo.upgraded
        Demo.versionedNode.1 outcome := by
  obtain ⟨hjudges, hrestores⟩ :=
    handler_versions_iff Demo.versioned Demo.upgraded Demo.settings.policy
  have hdiffers : VersionDiffers Demo.upgraded Replica.Demo.entry :=
    ⟨"2", rfl, by decide +kernel⟩
  refine ⟨fun h => ?_, ?_⟩
  · rcases hjudges.mp h with hsame | ⟨v, hother⟩
    · exact hsame Replica.Demo.entry (.head _) rfl hdiffers
    · exact verdict_eq_compatible_iff.mp (by decide +kernel) v hother
  obtain ⟨outcome, hfollows, -⟩ := Demo.versionedRestore_done
  obtain ⟨run, target, digest, result, resumed, honto, hiff⟩ :=
    hrestores Demo.settings 2 "n1" {} Demo.operator _ outcome hfollows
  obtain ⟨hcomponents, -, -, rfl, hrequest, rfl⟩ := Demo.versionedRun_of_restored honto
  have hnode := hrequest ▸ Demo.versionedNode_done
  refine ⟨outcome, run, digest, _, resumed, honto, hnode, ⟨Replica.Demo.entry, ?_, rfl, hdiffers⟩,
    (hiff _ _ Demo.capturedSpec _ _ hnode Demo.registered_versionedNode fun m hread => ?_).mpr ?_⟩
  · rw [hcomponents]
    exact .head _
  · rw [hrequest] at hread
    rw [hcomponents]
    exact Demo.components_of_anchorRead hread
  · intro e he _ _
    obtain rfl := List.mem_singleton.mp (hcomponents ▸ he)
    exact .inl fun _ _ => rfl

/-- A target with the handler at another version is found compatible. A restore onto it hands the
component to the provider of that version, and reports that the execution is exactly the captured
one. -/
theorem handler_versions_ignored :
    ¬ JudgesVersions Demo.versioned Demo.upgraded Demo.settings.policy ∧
    ∃ outcome run digest result resumed,
      Follows (requestRestore Demo.settings 2 "n1" {} Demo.operator) Demo.versionedRestore.1
        (.done (.ok outcome)) ∧
      RestoredOnto Demo.settings 2 "n1" {} Demo.versionedRestore.1 outcome run Demo.upgraded digest
        result resumed ∧
      Follows (Replica.doRestore Replica.Demo.files Replica.Demo.node
        (restoreRequest Demo.settings run digest)) Demo.versionedNode.1 (.done (.ok result)) ∧
      ¬ DeliversVersions Demo.upgradedSpec Replica.Demo.files run.ckpt Demo.upgraded
        Demo.versionedNode.1 outcome := by
  refine ⟨fun hjudges => hjudges ⟨Replica.Demo.entry, by decide, rfl, "2", ?_⟩ ?_, ?_⟩
  · decide +kernel
  · decide +kernel
  obtain ⟨outcome, hfollows, hclass⟩ := Demo.versionedRestore_done
  obtain ⟨run, target, digest, result, resumed, honto⟩ :=
    obeys_requestRestore_onto.of_follows hfollows outcome rfl
  obtain ⟨hcomponents, hworkload, hexact, rfl, hrequest, rfl⟩ := Demo.versionedRun_of_restored honto
  refine ⟨outcome, run, digest, _, resumed, hfollows, honto, hrequest ▸ Demo.versionedNode_done, ?_⟩
  obtain ⟨p, ctx, payload, hfound, hrecorded, hrestored, -⟩ :=
    handed_of_restored Demo.versionedNode_done rfl (fun _ => Demo.components_of_anchorRead)
      Replica.Demo.entry (.head _) rfl
  intro hdelivers
  refine hdelivers Replica.Demo.entry (hcomponents ▸ .head _) rfl ⟨"2", ?_, ?_⟩ p ctx payload _
    (hworkload ▸ hfound) hrestored hrecorded ?_ (hclass.trans (congrArg some hexact.symm))
  · rfl
  · decide +kernel
  · exact (by decide : (2 : ℕ) ≠ 1)

end CheckpointFabric
