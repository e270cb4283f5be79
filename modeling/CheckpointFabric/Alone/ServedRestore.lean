import CheckpointFabric.Alone.Served

/-!
# Restores that are served

A restore of an AVAILABLE checkpoint whose calls of nodes all succeed goes through, as long
as the counters of the workload fit into their columns: it leaves the checkpoint RESTORED
and the workload in its next generation.

## Main definitions

* `Restorable` — an AVAILABLE checkpoint, and a target that it can be restored onto
* `Workload.Fits` — the next counters of the workload fit into their columns
* `RestoreRun.Underway`, `RestoreRun.Finished` — a restore before and after its commit

## Main results

* `delivers_admitRestore`, `delivers_reserveRestore`, `delivers_provisionRestore`,
  `delivers_applyRestore`, `ends_commitRestore_served`, `delivers_finishRestore` — the phases
* `ends_requestRestore_served` — when a restore goes through
-/

set_option autoImplicit false

namespace CheckpointFabric

open Concurrency Coordinator Fabric Snapshot

theorem Store.active_congr {s s' : Store} {node : NodeId} (h : s'.nodes = s.nodes)
    (hlive : s.Active node) : s'.Active node := by
  rw [Store.Active, Store.nodeList, h]
  exact hlive

/-- The runtime that a node has registered. -/
def Store.runtimeOf (s : Store) (node : NodeId) : Option RuntimeCompatibilityDescriptor :=
  (s.nodeList.find? fun n => n.id == node).bind (·.resources.runtime)

/-- The checkpoint `c` of the workload `w` is AVAILABLE, and its restore onto the node passes what
is checked; and an active node holds a replica. -/
structure Restorable (settings : Settings) (id : Id) (node : NodeId) (options : RestoreOptions)
    (ctx : OperationContext) (s : Store) (c : CheckpointObject) (w : Workload) : Prop where
  authorized : authorizeRestore settings options ctx = .ok ()
  found : s.checkpoints.get id = some c
  available : c.lifecycle = .available
  accepted : Restore.validateRestoreRequest (Store.readCheckpoint c) settings.policy = .ok ()
  resolved : Restore.validateContextRefs (Store.readCheckpoint c) options.resolvedContextRefs =
    .ok ()
  owner : s.workloads.get c.workloadId = some w
  claim : w.activeNode = none ∨ w.activeNode = some node
  live : s.Active node
  compatible : ∃ runtime ∈ s.runtimeOf node,
    (Compatibility.evaluate runtime settings.policy (Store.readCheckpoint c)).verdict ≠
      .incompatible ∧
    enforceDegraded settings.policy
      (Compatibility.evaluate runtime settings.policy (Store.readCheckpoint c)).verdict = .ok ()
  unreserved : s.reservationActiveFor .restore none (some id) = none
  source : ∃ l ∈ c.durableLocations, s.Active l.node

instance (settings : Settings) (id : Id) (node : NodeId) (options : RestoreOptions)
    (ctx : OperationContext) (s : Store) (c : CheckpointObject) (w : Workload) :
    Decidable (Restorable settings id node options ctx s c w) :=
  decidable_of_iff
    ((authorizeRestore settings options ctx = .ok () ∧ s.checkpoints.get id = some c ∧
      c.lifecycle = .available) ∧
      (Restore.validateRestoreRequest (Store.readCheckpoint c) settings.policy = .ok () ∧
        Restore.validateContextRefs (Store.readCheckpoint c) options.resolvedContextRefs =
          .ok ()) ∧
      (s.workloads.get c.workloadId = some w ∧
        (w.activeNode = none ∨ w.activeNode = some node)) ∧
      s.Active node ∧
      (∃ runtime ∈ s.runtimeOf node,
        (Compatibility.evaluate runtime settings.policy (Store.readCheckpoint c)).verdict ≠
          .incompatible ∧
        enforceDegraded settings.policy
          (Compatibility.evaluate runtime settings.policy (Store.readCheckpoint c)).verdict =
            .ok ()) ∧
      s.reservationActiveFor .restore none (some id) = none ∧
      ∃ l ∈ c.durableLocations, s.Active l.node)
    ⟨fun ⟨⟨h₁, h₂, h₃⟩, ⟨h₄, h₅⟩, ⟨h₆, h₇⟩, h₈, h₉, h₁₀, h₁₁⟩ =>
      ⟨h₁, h₂, h₃, h₄, h₅, h₆, h₇, h₈, h₉, h₁₀, h₁₁⟩,
    fun h => ⟨⟨h.authorized, h.found, h.available⟩, ⟨h.accepted, h.resolved⟩, ⟨h.owner, h.claim⟩,
      h.live, h.compatible, h.unreserved, h.source⟩⟩

/-- The next generation and epoch of the workload fit into their columns. -/
def Workload.Fits (w : Workload) (migration : Bool) : Prop :=
  w.workloadGeneration + 1 ≤ integerMax ∧ w.executionEpoch + 1 + migration.toNat ≤ integerMax

instance (w : Workload) (migration : Bool) : Decidable (w.Fits migration) := by
  unfold Workload.Fits
  infer_instance

/-- A commit whose counters fit goes through. -/
theorem Store.exists_restoreCommit {s : Store} {id : Id} {key : AttemptId} {node : NodeId}
    {token : FenceToken} {migration rollback : Bool} {now : ℕ} {c : CheckpointObject}
    {w : Workload} (hc : s.checkpoints.get id = some c) (hlifecycle : c.lifecycle = .restoring)
    (hw : s.workloads.get c.workloadId = some w) (hfits : w.Fits migration) :
    ∃ s', s.restoreCommit id key node token migration rollback now = .ok s' := by
  have hle (a b : ℕ) : Store.saturatingAdd a b ≤ a + b := by
    unfold Store.saturatingAdd
    omega
  have hbind : bindInteger [Store.saturatingAdd w.workloadGeneration 1,
      Store.saturatingAdd (Store.saturatingAdd w.executionEpoch 1) migration.toNat] = .ok () := by
    rw [bindInteger_eq_ok_iff]
    have hgeneration := hle w.workloadGeneration 1
    have hepoch := hle w.executionEpoch 1
    have hepoch' := hle (Store.saturatingAdd w.executionEpoch 1) migration.toNat
    obtain ⟨hfirst, hsecond⟩ := hfits
    simp only [List.mem_cons, List.not_mem_nil, or_false, forall_eq_or_imp, forall_eq]
    omega
  have htransition : c.lifecycle.transition .restored = .ok () := by
    rw [hlifecycle]
    rfl
  unfold Store.restoreCommit
  simp only [hc, htransition, hw, hbind, bind, Except.bind]
  exact ⟨_, rfl⟩

section Admission

variable {settings : Settings} {id : Id} {node : NodeId} {options : RestoreOptions}
  {ctx : OperationContext} {c : CheckpointObject} {w : Workload} {s : Snapshot}

theorem validateTargetClaim_of_claim {migration : Bool}
    (h : w.activeNode = none ∨ w.activeNode = some node) :
    Restore.validateTargetClaim w node migration = .ok () := by
  unfold Restore.validateTargetClaim
  rcases h with h | h <;> rw [h] <;> cases w.singleActive <;> simp

theorem delivers_requireCheckpoint (hc : s.store.checkpoints.get id = some c) :
    Delivers Served (fun ckpt s' => ckpt = Store.readCheckpoint c ∧ Unwritten s s')
      (requireCheckpoint id) s := by
  refine (delivers_read fun _ => rfl).bind fun row s₁ ⟨hrow, h₁⟩ => ?_
  rw [hrow, Store.checkpointGet, hc]
  exact delivers_pure ⟨rfl, h₁⟩

theorem delivers_requireWorkload (hw : s.store.workloads.get id = some w) :
    Delivers Served (fun row s' => row = w ∧ Unwritten s s') (requireWorkload id) s := by
  refine (delivers_read fun _ => rfl).bind fun row s₁ ⟨hrow, h₁⟩ => ?_
  rw [hrow, Store.workloadGet, hw]
  exact delivers_pure ⟨rfl, h₁⟩

theorem delivers_nodeRuntime {runtime : RuntimeCompatibilityDescriptor}
    (h : s.store.runtimeOf node = some runtime) :
    Delivers Served (fun found s' => found = runtime ∧ Unwritten s s') (nodeRuntime node) s := by
  refine (delivers_read fun _ => rfl).bind fun nodes s₁ ⟨hnodes, h₁⟩ => ?_
  rw [hnodes]
  unfold Store.runtimeOf at h
  split
  · rename_i n hn
    rw [hn] at h
    rw [show n.resources.runtime = some runtime from h]
    exact delivers_pure ⟨rfl, h₁⟩
  · rename_i hn
    rw [hn] at h
    cases h

/-- The admission passes, and draws a nonce. -/
theorem delivers_admitRestore (h : Restorable settings id node options ctx s.store c w) :
    Delivers Served (fun run s' => Unwritten s s' ∧ run.ckpt = Store.readCheckpoint c ∧
        run.targetNode = node ∧ run.options = options ∧
        ∃ nonce, run.attemptId = .restore id nonce ∧ s.issued ≤ nonce)
      (admitRestore settings id node options ctx) s := by
  obtain ⟨runtime, hruntime, hcompatible, hdegraded⟩ := h.compatible
  have heligible : Restore.restoreEligible (Store.readCheckpoint c) settings.policy = .ok () := by
    have hlifecycle : (Store.readCheckpoint c).lifecycle ≠ .retired := by
      rw [show (Store.readCheckpoint c).lifecycle = c.lifecycle from rfl, h.available]
      decide
    rw [Restore.restoreEligible, if_neg fun hretired => hlifecycle hretired.1]
  unfold admitRestore
  refine delivers_ofExcept_bind h.authorized ?_
  refine delivers_nodeIsActive.bind fun active s₁ ⟨hactive, h₁⟩ => ?_
  refine delivers_ensure_bind (hactive.mpr h.live) ?_
  refine (delivers_requireCheckpoint (h₁.store ▸ h.found)).bind fun ckpt s₂ ⟨hckpt, h₂⟩ => ?_
  subst hckpt
  replace h₂ := h₁.trans h₂
  refine delivers_ofExcept_bind h.accepted (delivers_ofExcept_bind heligible ?_)
  refine delivers_ofExcept_bind h.resolved ?_
  refine (delivers_requireWorkload (h₂.store ▸ h.owner)).bind fun workload s₃ ⟨hw, h₃⟩ => ?_
  subst hw
  replace h₃ := h₂.trans h₃
  refine delivers_ofExcept_bind (validateTargetClaim_of_claim h.claim) ?_
  refine (delivers_nodeRuntime (h₃.store ▸ hruntime)).bind fun target s₄ ⟨htarget, h₄⟩ => ?_
  subst htarget
  replace h₄ := h₃.trans h₄
  -- What the verdict is does not matter, and it is not to be computed here.
  generalize Compatibility.evaluate target settings.policy (Store.readCheckpoint c) = compat
    at hcompatible hdegraded
  refine delivers_ensure_bind hcompatible (delivers_ofExcept_bind hdegraded ?_)
  refine delivers_random.bind fun nonce s₅ ⟨hnonce, h₅⟩ => delivers_pure ?_
  exact ⟨h₄.trans h₅, rfl, rfl, rfl, nonce, rfl, h₄.issued.trans hnonce⟩

end Admission

namespace Coordinator

/-- The restore is under way: its checkpoint is in this state, and nothing else that it relies on
has changed. -/
structure RestoreRun.Underway (run : RestoreRun) (l : LifecycleState) (s₀ s : Store) : Prop where
  row : ∃ c, s.checkpoints.get run.ckpt.checkpointId = some c ∧ c.lifecycle = l ∧
    c.workloadId = run.ckpt.workloadId
  workloads : s.workloads = s₀.workloads
  nodes : s.nodes = s₀.nodes

section Phases

variable {settings : Settings} {run : RestoreRun} {l : LifecycleState} {s₀ : Store} {s : Snapshot}
  {α : Type}

theorem delivers_okOr_bind {β : Type} {post : β → Snapshot → Prop} {value : Option α} {a : α}
    {e : FabricError} {f : α → Fabric β} (hsome : value = some a)
    (h : Delivers Served post (f a) s) : Delivers Served post (okOr value e >>= f) s := by
  rw [hsome]
  exact h

theorem RestoreRun.Underway.of_unwritten {s' : Snapshot} (h : run.Underway l s₀ s.store)
    (h' : Unwritten s s') : run.Underway l s₀ s'.store := by
  rw [h'.store]
  exact h

/-- The row of the checkpoint is all that changes. -/
theorem RestoreRun.Underway.update {target : LifecycleState} {s : Store}
    {f : CheckpointObject → CheckpointObject}
    {hf : ∀ c, c.checkpointId = run.ckpt.checkpointId → (f c).checkpointId = run.ckpt.checkpointId}
    (h : run.Underway l s₀ s) (hlifecycle : ∀ c, c.lifecycle = l → (f c).lifecycle = target)
    (howner : ∀ c, (f c).workloadId = c.workloadId) :
    run.Underway target s₀ (s.updateCheckpoint run.ckpt.checkpointId f hf) := by
  obtain ⟨c, hc, hl, hworkload⟩ := h.row
  refine ⟨⟨f c, ?_, hlifecycle c hl, (howner c).trans hworkload⟩, h.workloads, h.nodes⟩
  rw [Store.get_updateCheckpoint, if_pos rfl, hc, Option.map_some]

/-- An entry in the journal is all that is written. -/
theorem delivers_journal {kind : JournalKind} {key : AttemptId} {state : JournalState}
    {detail : String} (h : run.Underway l s₀ s.store) :
    Delivers Served (fun _ s' => run.Underway l s₀ s'.store) (journal kind key state detail) s := by
  refine delivers_db (fun now => rfl) fun now n _ => ?_
  exact ⟨by simpa using h.row, by simpa using h.workloads, by simpa using h.nodes⟩

theorem delivers_setLifecycle {target : LifecycleState} (h : run.Underway l s₀ s.store)
    (hlegal : l.canTransition target) :
    Delivers Served (fun _ s' => run.Underway target s₀ s'.store) (setLifecycle run.ckpt target)
      s := by
  obtain ⟨c, hc, hlifecycle, -⟩ := h.row
  unfold setLifecycle
  refine (delivers_read fun _ => rfl).bind fun row s₁ ⟨hrow, h₁⟩ => ?_
  have hcurrent : ((row.map (·.lifecycle)).getD run.ckpt.lifecycle).transition target = .ok () := by
    have hlegal : c.lifecycle.canTransition target := by rw [hlifecycle, hlegal]
    rw [hrow, Store.checkpointGet, hc]
    exact LifecycleState.transition_eq_ok_iff.mpr hlegal
  refine delivers_ofExcept_bind hcurrent ?_
  have hset (now : ℕ) : (StoreOp.checkpointSetLifecycle run.ckpt.checkpointId target .pending).run
      now s₁.store = .ok ((), s.store.updateCheckpoint run.ckpt.checkpointId fun c =>
        { c with lifecycle := target, integrityState := .pending }) := by
    rw [StoreOp.run, h₁.store, Store.checkpointSetLifecycle, hc]
    rfl
  exact delivers_db hset fun now n _ => h.update (fun _ _ => rfl) fun _ => rfl

theorem delivers_ensureReplica (h : run.Underway l s₀ s.store) (hlive : s₀.Active run.targetNode)
    (hsource : ∃ l ∈ run.ckpt.durableLocations, s₀.Active l.node)
    (hanchored : run.ckpt.manifestDigest.isSome) :
    Delivers Served (fun _ s' => run.Underway l s₀ s'.store) (ensureReplica run) s := by
  obtain ⟨digest, hdigest⟩ := Option.isSome_iff_exists.mp hanchored
  have hactive {s' : Snapshot} {n : NodeId} (h' : run.Underway l s₀ s'.store) (hn : s₀.Active n) :
      s'.store.Active n := Store.active_congr h'.nodes hn
  obtain ⟨location, hlocation, hlocated⟩ := hsource
  unfold ensureReplica
  refine (delivers_firstActive ⟨location, hlocation, hactive h hlocated⟩).bind
    fun source s₁ ⟨n, hsource, hn, h₁⟩ => ?_
  replace h₁ := h.of_unwritten h₁
  have hn : s₀.Active n := Store.active_congr h.nodes.symm hn
  refine delivers_okOr_bind hsource ?_
  refine delivers_random.bind fun token s₂ ⟨_, h₂⟩ => ?_
  replace h₂ := h₁.of_unwritten h₂
  refine (delivers_callNode (hactive h₂ hn)).bind fun _ s₃ ⟨_, h₃⟩ => ?_
  replace h₃ := h₂.of_unwritten h₃
  refine (delivers_nodeAddr (hactive h₃ hn)).bind fun addr s₄ h₄ => ?_
  replace h₄ := h₃.of_unwritten h₄
  refine delivers_okOr_bind hdigest ?_
  refine (delivers_callNode (hactive h₄ hlive)).bind fun result s₅ ⟨hdone, h₅⟩ => ?_
  replace h₅ := h₄.of_unwritten h₅
  refine delivers_ensure_bind hdone ?_
  obtain ⟨c, hc, -⟩ := h₅.row
  have hadd (now : ℕ) : (StoreOp.checkpointAddLocation run.ckpt.checkpointId
      ⟨run.targetNode, unwrapOrDefault result.path, true⟩).run now s₅.store =
        .ok ((), s₅.store.setLocations run.ckpt.checkpointId fun locations =>
          if locations.any fun l => l.node == run.targetNode then locations
          else locations ++ [⟨run.targetNode, unwrapOrDefault result.path, true⟩]) := by
    rw [StoreOp.run, Store.checkpointAddLocation, hc]
    rfl
  exact delivers_db hadd fun now n _ => h₅.update (fun _ => id) fun _ => rfl

/-- The checkpoint is taken out of AVAILABLE, and the target has a replica. -/
theorem delivers_provisionRestore (h : run.Underway .available s₀ s.store)
    (hlive : s₀.Active run.targetNode)
    (hsource : ∃ l ∈ run.ckpt.durableLocations, s₀.Active l.node)
    (hanchored : run.ckpt.manifestDigest.isSome) :
    Delivers Served (fun _ s' => run.Underway .restoring s₀ s'.store) (provisionRestore run) s := by
  unfold provisionRestore
  refine (delivers_setLifecycle h (by decide)).bind fun _ s₁ h₁ => ?_
  refine (delivers_journal h₁).bind fun _ s₂ h₂ => ?_
  refine (delivers_callNode (Store.active_congr h₂.nodes hlive)).bind fun result s₃ ⟨_, h₃⟩ => ?_
  replace h₃ := h₂.of_unwritten h₃
  split
  · exact delivers_setLifecycle h₃ (by decide)
  · exact (delivers_ensureReplica h₃ hlive hsource hanchored).bind fun _ s₄ h₄ =>
      delivers_setLifecycle h₄ (by decide)

theorem delivers_applyRestore (h : run.Underway l s₀ s.store) (hlive : s₀.Active run.targetNode)
    (hanchored : run.ckpt.manifestDigest.isSome) :
    Delivers Served (fun _ s' => run.Underway l s₀ s'.store) (applyRestore settings run) s := by
  obtain ⟨digest, hdigest⟩ := Option.isSome_iff_exists.mp hanchored
  unfold applyRestore
  refine delivers_okOr_bind hdigest ?_
  refine (delivers_callNode (Store.active_congr h.nodes hlive)).bind fun result s₁ ⟨hdone, h₁⟩ => ?_
  exact delivers_ensure_bind hdone (delivers_journal (h.of_unwritten h₁))

theorem delivers_restoreToken (h : run.Underway l s₀ s.store) :
    Delivers Served (fun _ s' => run.Underway l s₀ s'.store) (restoreToken run) s := by
  unfold restoreToken
  split
  · exact delivers_pure h
  · exact delivers_random.weaken fun _ s' h' => h.of_unwritten h'.2

/-- The checkpoint is RESTORED, and its workload is in the generation after that of `w`. -/
structure RestoreRun.Finished (run : RestoreRun) (w : Workload) (s₀ s : Store) : Prop where
  restored : ∃ c, s.checkpoints.get run.ckpt.checkpointId = some c ∧ c.lifecycle = .restored
  generation : ∃ r, s.workloads.get run.ckpt.workloadId = some r ∧
    r.workloadGeneration = w.workloadGeneration + 1
  nodes : s.nodes = s₀.nodes

theorem RestoreRun.Finished.of_unwritten {w : Workload} {s' : Snapshot}
    (h : run.Finished w s₀ s.store) (h' : Unwritten s s') : run.Finished w s₀ s'.store := by
  rw [h'.store]
  exact h

/-- The commit of a restore that is under way finishes it. -/
theorem RestoreRun.Underway.finished {key : AttemptId} {node : NodeId} {token : FenceToken}
    {migration : Bool} {s s' : Store} {c : CheckpointObject} {w w' : Workload}
    (h : run.Underway l s₀ s) (hw : s₀.workloads.get run.ckpt.workloadId = some w)
    (hcommitted : s.RestoreCommitted run.ckpt.checkpointId key node token migration s' c w') :
    w' = w ∧ run.Finished w s₀ s' := by
  obtain ⟨c', hc', -, hworkload⟩ := h.row
  obtain rfl := Option.some.inj (hcommitted.found.symm.trans hc')
  have howner := hcommitted.owner
  rw [hworkload, h.workloads] at howner
  obtain rfl := Option.some.inj (howner.symm.trans hw)
  have hrow := congrArg (fun rows => rows.get run.ckpt.checkpointId) hcommitted.checkpoints
  have hnext := congrArg (fun rows => rows.get run.ckpt.workloadId) hcommitted.workloads
  simp only [Table.get_modify_self, hc', Option.map_some] at hrow
  simp only [hworkload, Table.get_modify_self, h.workloads, hw, Option.map_some] at hnext
  exact ⟨rfl, ⟨_, hrow, rfl⟩, ⟨_, hnext, rfl⟩, hcommitted.nodes.trans h.nodes⟩

section Commit

variable {w : Workload} (h : run.Underway .restoring s₀ s.store)
  (hw : s₀.workloads.get run.ckpt.workloadId = some w)
include h hw

/-- The commit goes through just when the counters fit. -/
theorem ends_restoreCommit {token : FenceToken} :
    Ends Served (fun result s' =>
        w.Fits run.options.migration ∧ result = .ok () ∧ run.Finished w s₀ s'.store ∨
          ¬ w.Fits run.options.migration ∧ ∃ e, result = .error e)
      (db (.restoreCommit run.ckpt.checkpointId run.attemptId run.targetNode token
        run.options.migration run.options.rollback)) s := by
  refine (ends_db_cases (fun now n reply store _ _ hrun => ?_) fun now n e _ _ hrun => ?_).of_step
    fun _ _ _ _ hserved => hserved.1
  · obtain ⟨c, w', hcommitted⟩ := Store.restoreCommit_ok (StoreOp.of_map_ok hrun)
    obtain ⟨rfl, hfinished⟩ := h.finished hw hcommitted
    exact .inl ⟨⟨hcommitted.generation_le, hcommitted.epoch_le⟩, rfl, hfinished⟩
  · refine .inr ⟨fun hfits => ?_, e, rfl⟩
    obtain ⟨c, hc, hlifecycle, hworkload⟩ := h.row
    rw [← h.workloads, ← hworkload] at hw
    obtain ⟨s', hs'⟩ : ∃ s', s.store.restoreCommit run.ckpt.checkpointId run.attemptId
        run.targetNode token run.options.migration run.options.rollback now = .ok s' :=
      Store.exists_restoreCommit hc hlifecycle hw hfits
    have hrun : (s.store.restoreCommit run.ckpt.checkpointId run.attemptId run.targetNode token
        run.options.migration run.options.rollback now).map ((), ·) = .error e := hrun
    rw [hs'] at hrun
    cases hrun

theorem ends_commitRestore_served :
    Ends Served (fun result s' =>
        w.Fits run.options.migration ∧ (∃ value, result = .ok value) ∧ run.Finished w s₀ s'.store ∨
          ¬ w.Fits run.options.migration ∧ ∃ e, result = .error e)
      (commitRestore run) s := by
  unfold commitRestore
  refine delivers_fire.ends_bind fun _ s₁ h₁ => ?_
  refine (delivers_restoreToken (h.of_unwritten h₁)).ends_bind fun token s₂ h₂ => ?_
  refine Ends.bind (ends_restoreCommit h₂ hw) (fun _ s₃ h₃ => ?_) fun e s₃ h₃ => ?_
  · obtain ⟨hfits, -, hfinished⟩ | ⟨-, e, he⟩ := h₃
    · obtain ⟨r, hr, -⟩ := hfinished.generation
      refine (delivers_read fun _ => rfl).ends_bind fun row s₄ ⟨hrow, h₄⟩ => ?_
      rw [hrow, Store.workloadGet, hr]
      refine delivers_fire.ends_bind fun _ s₅ h₅ => .inl ⟨hfits, ⟨_, rfl⟩, ?_⟩
      exact hfinished.of_unwritten (h₄.trans h₅)
    · cases he
  · obtain ⟨-, he, -⟩ | ⟨hfits, -⟩ := h₃
    · cases he
    · exact .inr ⟨hfits, e, rfl⟩

end Commit

/-- Closing the attempt leaves the restore finished. -/
theorem delivers_finishRestore {token : FenceToken} {r w : Workload}
    (h : run.Finished w s₀ s.store) (hlive : s₀.Active run.targetNode) :
    Delivers Served (fun _ s' => run.Finished w s₀ s'.store) (finishRestore run token r) s := by
  unfold finishRestore
  refine (delivers_callNode (Store.active_congr h.nodes hlive)).attempt.bind
    fun answer s₁ ⟨_, _, _, h₁⟩ => ?_
  replace h₁ := h.of_unwritten h₁
  refine delivers_db_bind (fun now => rfl) fun now₂ n₂ _ => ?_
  refine delivers_db_bind (fun now => rfl) fun now₃ n₃ _ => ?_
  refine delivers_db_bind (fun now => rfl) fun now₄ n₄ _ => ?_
  refine delivers_fire.bind fun _ s₅ h₅ => delivers_pure ?_
  -- The attempt and its reservation are in other tables.
  have hjournaled : run.Finished w s₀ (s₁.store.journalAppend .restore run.attemptId .resumed
      (if resumedBy run answer then "resumed" else "not_resumed") now₂) :=
    ⟨by simpa using h₁.restored, by simpa using h₁.generation, by simpa using h₁.nodes⟩
  rw [h₅.store]
  exact ⟨hjournaled.restored, hjournaled.generation, hjournaled.nodes⟩

/-- A reserved restore is executed to its end just when the counters fit. -/
theorem ends_executeRestore_served {w : Workload} (h : run.Underway .available s₀ s.store)
    (hw : s₀.workloads.get run.ckpt.workloadId = some w) (hlive : s₀.Active run.targetNode)
    (hsource : ∃ l ∈ run.ckpt.durableLocations, s₀.Active l.node)
    (hanchored : run.ckpt.manifestDigest.isSome) :
    Ends Served (fun result s' =>
        w.Fits run.options.migration ∧ (∃ out, result = .ok out) ∧ run.Finished w s₀ s'.store ∨
          ¬ w.Fits run.options.migration ∧ ∃ e, result = .error e)
      (executeRestore settings run) s := by
  unfold executeRestore
  refine (delivers_provisionRestore h hlive hsource hanchored).ends_bind fun _ s₁ h₁ => ?_
  refine (delivers_applyRestore h₁ hlive hanchored).ends_bind fun _ s₂ h₂ => ?_
  refine Ends.bind (ends_commitRestore_served h₂ hw) (fun ⟨token, r⟩ s₃ h₃ => ?_) fun e s₃ h₃ => ?_
  · obtain ⟨hfits, -, hfinished⟩ | ⟨-, e, he⟩ := h₃
    · have hends : Delivers Served (fun _ s' => run.Finished w s₀ s'.store)
          (finishRestore run token r) s₃ := delivers_finishRestore hfinished hlive
      exact Ends.weaken hends fun result s₄ ⟨out, hout, h₄⟩ => .inl ⟨hfits, ⟨out, hout⟩, h₄⟩
    · cases he
  · obtain ⟨-, ⟨_, he⟩, -⟩ | ⟨hfits, -⟩ := h₃
    · cases he
    · exact .inr ⟨hfits, e, rfl⟩

/-- A fresh reservation of a checkpoint that nobody has reserved puts the restore under way. -/
theorem delivers_reserveRestore {id : Id} {c : CheckpointObject} (hid : run.ckpt.checkpointId = id)
    (hc : s.store.checkpoints.get id = some c) (hworkload : c.workloadId = run.ckpt.workloadId)
    (hfresh : s.store.reservations.get run.attemptId = none)
    (hunreserved : s.store.reservationActiveFor .restore none (some id) = none) :
    Delivers Served (fun _ s' => run.Underway c.lifecycle s.store s'.store)
      (reserveRestore run id) s := by
  let reservation (now : ℕ) : Reservation :=
    ⟨run.attemptId, .restore, none, some id, run.targetNode, .active, now, now + reservationTtlMs⟩
  have hcreate (now : ℕ) : (StoreOp.reservationCreate run.attemptId .restore none (some id)
      run.targetNode reservationTtlMs).run now s.store =
        .ok ((), { s.store with
          reservations := s.store.reservations.insert (reservation now) hfresh }) := by
    have hinsert (conflict : FabricError) :
        insertRow s.store.reservations (reservation now) conflict =
          .ok (s.store.reservations.insert (reservation now) hfresh) :=
      insertRow_eq_ok_iff.mpr ⟨hfresh, rfl⟩
    rw [StoreOp.run, Store.reservationCreate, hunreserved]
    simp only [Option.isSome_none, Bool.false_eq_true, if_false]
    rw [show insertRow s.store.reservations ⟨run.attemptId, .restore, none, some id,
      run.targetNode, .active, now, now + reservationTtlMs⟩ _ = _ from hinsert _]
    rfl
  unfold reserveRestore
  refine delivers_db_bind hcreate fun now n _ => ?_
  refine delivers_db_bind (fun now => rfl) fun now' n' _ => ?_
  refine delivers_journal ⟨⟨c, ?_, rfl, hworkload⟩, ?_, ?_⟩
  · rw [hid, Store.checkpoints_attemptBegin]
    exact hc
  · rw [Store.workloads_attemptBegin]
  · rw [Store.nodes_attemptBegin]

end Phases

section Request

variable {settings : Settings} {id : Id} {node : NodeId} {options : RestoreOptions}
  {ctx : OperationContext} {c : CheckpointObject} {w : Workload} {s : Snapshot}

/-- A restore whose calls succeed goes through just when the counters fit. -/
theorem ends_requestRestore_served (h : Restorable settings id node options ctx s.store c w)
    (hanchored : c.manifestDigest.isSome)
    (hfresh : ∀ nonce, s.issued ≤ nonce →
      s.store.reservations.get (.restore id nonce) = none) :
    Ends Served (fun result s' =>
        w.Fits options.migration ∧ (∃ out, result = .ok out) ∧
          (∃ c', s'.store.checkpoints.get id = some c' ∧ c'.lifecycle = .restored) ∧
          (∃ r, s'.store.workloads.get c.workloadId = some r ∧
            r.workloadGeneration = w.workloadGeneration + 1) ∨
        ¬ w.Fits options.migration ∧ ∃ e, result = .error e)
      (requestRestore settings id node options ctx) s := by
  unfold requestRestore
  refine (delivers_admitRestore h).ends_bind fun run s₁ hrun => ?_
  obtain ⟨h₁, hckpt, rfl, rfl, nonce, hkey, hnonce⟩ := hrun
  have hid : run.ckpt.checkpointId = id := by
    rw [hckpt]
    exact (Table.key_of_get h.found : c.checkpointId = id)
  have howner : c.workloadId = run.ckpt.workloadId := by rw [hckpt]; rfl
  have hreserve : Delivers Served (fun _ s' => run.Underway .available s.store s'.store)
      (reserveRestore run id) s₁ := by
    rw [← h.available, ← h₁.store]
    refine delivers_reserveRestore hid (h₁.store ▸ h.found) howner ?_ (h₁.store ▸ h.unreserved)
    rw [h₁.store, hkey]
    exact hfresh nonce hnonce
  refine hreserve.ends_bind fun _ s₂ h₂ => ?_
  refine Ends.onError ((ends_executeRestore_served h₂ (howner ▸ h.owner) h.live ?_ ?_).weaken
    fun result s₃ h₃ => ?_) fun e s' s'' herror => ?_
  · rw [hckpt]
    exact h.source
  · rw [hckpt]
    exact hanchored
  · refine h₃.imp_left fun ⟨hfits, hout, hfinished⟩ => ⟨hfits, hout, ?_, ?_⟩
    · rw [← hid]
      exact hfinished.restored
    · rw [howner]
      exact hfinished.generation
  · obtain ⟨-, ⟨_, he⟩, -⟩ | hnot := herror
    · cases he
    · exact .inr hnot

end Request

end Coordinator

end CheckpointFabric
