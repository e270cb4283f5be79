import CheckpointFabric.Alone.Basic
import CheckpointFabric.Coordinator.Restore

/-!
# A restore that runs alone

Before its commit a restore takes its checkpoint out of AVAILABLE, and writes to its attempt and
its reservation. Its abort puts the checkpoint back. After the commit nothing is taken back: the
abort only records that the target was not resumed.

## Main definitions

* `UnderRestore` — a checkpoint is as it was, or on its way through a restore
* `RestoreRun.Confined` — only the rows of the restore have changed, and it has not committed
* `RestoreRun.Undone` — and they are neutralised
* `RestoreRun.Stands` — the restore has committed its generation
* `RecordedAs` — what the attempt of a committed restore is recorded as

## Main results

* `ends_executeRestore` — a restore comes to its commit, or is confined to its rows
* `ends_abortRestoreAttempt_of_stands`, `ends_abortRestoreAttempt_of_confined` — what the abort
  makes of either
-/

set_option autoImplicit false

namespace CheckpointFabric

open Concurrency Fabric

/-- The checkpoint has the lifecycle and the integrity it had. -/
def SameState (c c' : CheckpointObject) : Prop :=
  c'.lifecycle = c.lifecycle ∧ c'.integrityState = c.integrityState

/-- The attempt is recorded as committed when the restored workload was resumed, and as committed
without resume when it was not. -/
def RecordedAs (key : AttemptId) (result : FabricResult Coordinator.OperationOutcome) (s : Store) :
    Prop :=
  ∃ a, s.attempts.get key = some a ∧
    ((∃ out, result = .ok out ∧ out.state = "RESTORED") ∧ a.state = .committed ∨
      (∀ out, result = .ok out → out.state ≠ "RESTORED") ∧ a.state = .committedNoResume)

/-- The checkpoint is as it was, or it was AVAILABLE and intact and is now on its way through a
restore. -/
def UnderRestore (c c' : CheckpointObject) : Prop :=
  c'.workloadId = c.workloadId ∧ (SameState c c' ∨
    c.lifecycle = .available ∧ c.integrityState = .valid ∧
      (c'.lifecycle = .restorePending ∨ c'.lifecycle = .restoring))

namespace Coordinator

namespace RestoreRun

variable (run : RestoreRun) (c : CheckpointObject)

/-- The operations of a restore before its commit. -/
def Prepares : Op → Prop
  | .db (.checkpointSetLifecycle id lifecycle _) =>
    id = run.ckpt.checkpointId ∧ (lifecycle = .restorePending ∨ lifecycle = .restoring)
  | .db (.checkpointAddLocation id _) => id = run.ckpt.checkpointId
  | .db (.journalAppend kind _ state _) => kind = .restore ∧ state ≠ .generationCommitted
  | op => op.Quiet

/-- Only the rows of the restore have changed, and no restore has committed. The checkpoint was
`c`. -/
structure Confined (s s' : Store) : Prop
    extends Store.OnlyRows run.ckpt.checkpointId run.attemptId s s' where
  own : ∃ c', s'.checkpoints.get run.ckpt.checkpointId = some c' ∧ UnderRestore c c'
  opened : s'.attempts.get run.attemptId ≠ none
  held : ∀ r, s'.reservations.get run.attemptId = some r → r.state = .active
  uncommitted : ∀ key, s'.Journaled .restore key .generationCommitted →
    s.Journaled .restore key .generationCommitted

/-- Only the rows of the restore have changed. The state of its checkpoint is back, its attempt is
FAILED, and its reservation is released. -/
structure Undone (s s' : Store) : Prop
    extends Store.OnlyRows run.ckpt.checkpointId run.attemptId s s' where
  returned : ∃ c', s'.checkpoints.get run.ckpt.checkpointId = some c' ∧ SameState c c'
  finished : ∀ a, s'.attempts.get run.attemptId = some a → a.state = .failed
  released : ∀ r, s'.reservations.get run.attemptId = some r → r.state = .released
  uncommitted : ∀ key, s'.Journaled .restore key .generationCommitted →
    s.Journaled .restore key .generationCommitted

/-- The restore has committed its generation, and its target owns the workload. -/
structure Stands (s s' : Store) : Prop where
  journaled : s'.Journaled .restore run.attemptId .generationCommitted
  only : ∀ key, s'.Journaled .restore key .generationCommitted →
    s.Journaled .restore key .generationCommitted ∨ key = run.attemptId
  committed : ∃ w w', s.workloads.get c.workloadId = some w ∧
    s'.workloads.get c.workloadId = some w' ∧
    w'.workloadGeneration = w.workloadGeneration + 1 ∧ w'.activeNode = some run.targetNode
  opened : s'.attempts.get run.attemptId ≠ none

end RestoreRun

section Steps

variable {run : RestoreRun} {c : CheckpointObject} {s s' s'' : Store}

theorem RestoreRun.Confined.update {f : CheckpointObject → CheckpointObject}
    {hf : ∀ c, c.checkpointId = run.ckpt.checkpointId → (f c).checkpointId = run.ckpt.checkpointId}
    (h : run.Confined c s s') (hown : ∀ c', UnderRestore c c' → UnderRestore c (f c')) :
    run.Confined c s (s'.updateCheckpoint run.ckpt.checkpointId f hf) := by
  obtain ⟨c', hc', hunder⟩ := h.own
  refine { h with toOnlyRows := h.toOnlyRows.updateCheckpoint, own := ⟨f c', ?_, hown c' hunder⟩ }
  rw [Store.get_updateCheckpoint, if_pos rfl, hc', Option.map_some]

theorem RestoreRun.Confined.journalAppend {kind : JournalKind} {key : AttemptId}
    {state : JournalState} {detail : String} {now : ℕ} (h : run.Confined c s s')
    (hstate : state ≠ .generationCommitted) :
    run.Confined c s (s'.journalAppend kind key state detail now) where
  toOnlyRows := h.toOnlyRows.journalAppend
  own := by simpa using h.own
  opened := by simpa using h.opened
  held := by simpa using h.held
  uncommitted := fun key' hj => by
    rcases Store.journaled_journalAppend.mp hj with hold | ⟨-, -, heq⟩
    · exact h.uncommitted key' hold
    · exact absurd heq hstate

/-- An operation before the commit keeps the restore confined. -/
theorem RestoreRun.Confined.step {op : StoreOp} {reply : op.Reply} {now : ℕ}
    (h : run.Confined c s s') (havailable : c.lifecycle = .available)
    (hvalid : c.integrityState = .valid) (hop : run.Prepares (.db op))
    (hrun : op.run now s' = .ok (reply, s'')) : run.Confined c s s'' := by
  cases op with
  | checkpointSetLifecycle id lifecycle integrity =>
    obtain ⟨-, rfl⟩ := Store.checkpointSetLifecycle_ok (StoreOp.of_map_ok hrun)
    obtain ⟨rfl, hlifecycle⟩ := hop
    exact h.update fun c' hunder => ⟨hunder.1, .inr ⟨havailable, hvalid, hlifecycle⟩⟩
  | checkpointAddLocation id location =>
    obtain ⟨-, rfl⟩ := Store.checkpointAddLocation_ok (StoreOp.of_map_ok hrun)
    obtain rfl : id = run.ckpt.checkpointId := hop
    exact h.update fun _ hunder => hunder
  | journalAppend kind key state detail =>
    obtain rfl := StoreOp.snd_of_ok hrun
    exact h.journalAppend hop.2
  | _ =>
    obtain rfl := StoreOp.store_of_reads (by exact hop) hrun
    exact h

/-- So does every operation before the commit. -/
theorem RestoreRun.Confined.of_step {op : Op} {s₁ s₂ : Snapshot} {reply : FabricResult op.Reply}
    (h : run.Confined c s s₁.store) (havailable : c.lifecycle = .available)
    (hvalid : c.integrityState = .valid) (hop : run.Prepares op)
    (hstep : Snapshot.Step op s₁ reply s₂) : run.Confined c s s₂.store := by
  cases op with
  | db op =>
    rcases hstep.db_cases with ⟨value, -, hrun⟩ | ⟨e, -, -, hstore⟩
    · exact h.step havailable hvalid hop hrun
    · rwa [hstore]
  | claim => exact absurd hop not_false
  | _ => rwa [hstep.store_of_quiet trivial]

/-- The commit of a confined restore stands. -/
theorem stands_of_restoreCommit {token : FenceToken} {now : ℕ} (h : run.Confined c s s')
    (hcommit : s'.restoreCommit run.ckpt.checkpointId run.attemptId run.targetNode token
      run.options.migration run.options.rollback now = .ok s'') : run.Stands c s s'' := by
  obtain ⟨c', w, hcommitted⟩ := Store.restoreCommit_ok hcommit
  obtain ⟨c₁, hc₁, hworkload, -⟩ := h.own
  obtain rfl := Option.some.inj (hcommitted.found.symm.trans hc₁)
  refine
    { journaled := (hcommitted.journaled _ _ _).mpr (.inr (.inl ⟨rfl, rfl, rfl⟩))
      only := fun key hj => ?_
      committed := ⟨w, ?_⟩
      opened := hcommitted.attempts ▸ h.opened }
  · rcases (hcommitted.journaled _ _ _).mp hj with hold | ⟨-, rfl, -⟩ | ⟨-, hkind, -⟩
    · exact .inl (h.uncommitted key hold)
    · exact .inr rfl
    · cases hkind
  · rw [← h.workloads, hcommitted.workloads, ← hworkload, Table.get_modify_self, hcommitted.owner]
    exact ⟨_, rfl, rfl, rfl, rfl⟩

section Stands

variable (h : run.Stands c s s')
include h

theorem RestoreRun.Stands.journalAppend {kind : JournalKind} {key : AttemptId}
    {state : JournalState} {detail : String} {now : ℕ} (hstate : state ≠ .generationCommitted) :
    run.Stands c s (s'.journalAppend kind key state detail now) where
  journaled := Store.journaled_journalAppend.mpr (.inl h.journaled)
  only := fun key' hj => by
    rcases Store.journaled_journalAppend.mp hj with hold | ⟨-, -, heq⟩
    · exact h.only key' hold
    · exact absurd heq hstate
  committed := by simpa using h.committed
  opened := by simpa using h.opened

/-- Closing the attempt and releasing its reservation. -/
theorem RestoreRun.Stands.close {state : AttemptState} {result error : Option String}
    {now : ℕ} :
    run.Stands c s ((s'.attemptFinish run.attemptId state result error now).reservationRelease
        run.attemptId) ∧
      ∃ a, ((s'.attemptFinish run.attemptId state result error now).reservationRelease
        run.attemptId).attempts.get run.attemptId = some a ∧ a.state = state := by
  obtain ⟨a, ha⟩ := Option.ne_none_iff_exists'.mp h.opened
  have hclosed : ((s'.attemptFinish run.attemptId state result error now).reservationRelease
      run.attemptId).attempts.get run.attemptId =
        some { a with state, result, error, finishedMs := some now } :=
    Store.get_attemptFinish.trans (by rw [if_pos rfl, ha, Option.map_some])
  exact ⟨⟨h.journaled, h.only, h.committed, by simp [hclosed]⟩, _, hclosed, rfl⟩

end Stands

/-- Closing the attempt as failed undoes the restore, once the state of its checkpoint is back. -/
theorem RestoreRun.Confined.undone {result error : Option String} {now : ℕ}
    (h : run.Confined c s s')
    (hreturned : ∃ c', s'.checkpoints.get run.ckpt.checkpointId = some c' ∧ SameState c c') :
    run.Undone c s ((s'.attemptFinish run.attemptId .failed result error now).reservationRelease
      run.attemptId) where
  toOnlyRows := h.toOnlyRows.attemptFinish.reservationRelease
  returned := hreturned
  finished := fun a ha => by
    have ha : (s'.attemptFinish run.attemptId .failed result error now).attempts.get
      run.attemptId = some a := ha
    rw [Store.get_attemptFinish, if_pos rfl, Option.map_eq_some_iff] at ha
    obtain ⟨_, -, rfl⟩ := ha
    rfl
  released := fun r hr => by
    rw [Store.get_reservationRelease, if_pos rfl, Option.map_eq_some_iff] at hr
    obtain ⟨r', hr', rfl⟩ := hr
    rw [if_pos (h.held r' hr')]
  uncommitted := h.uncommitted

end Steps

section Parts

variable {settings : Settings} {run : RestoreRun}

theorem RestoreRun.prepares_of_reads {op : Op} (h : op.Reads) : run.Prepares op := by
  cases op with
  | db op =>
    cases op with
    | checkpointSetLifecycle | checkpointAddLocation | journalAppend => exact absurd h not_false
    | _ => exact h
  | claim => exact absurd h not_false
  | _ => trivial

theorem calm_ensureReplica : Calm run.Prepares (ensureReplica run) := by
  have hreads : ∀ op : Op, op.Reads → run.Prepares op := fun _ => RestoreRun.prepares_of_reads
  unfold ensureReplica
  refine Contained.bind (calm_firstActive hreads) fun source => ?_
  refine Contained.bind (calm_okOr rfl) fun source => ?_
  refine Contained.bind (contained_call trivial) fun token => ?_
  refine Contained.bind (calm_callNode hreads trivial) fun _ => ?_
  refine Contained.bind (calm_nodeAddr hreads) fun fromAddr => ?_
  refine Contained.bind (calm_okOr rfl) fun digest => ?_
  refine Contained.bind (calm_callNode hreads trivial) fun result => ?_
  exact Contained.bind (calm_ensure rfl) fun _ => contained_call rfl

theorem calm_provisionRestore : Calm run.Prepares (provisionRestore run) := by
  have hreads : ∀ op : Op, op.Reads → run.Prepares op := fun _ => RestoreRun.prepares_of_reads
  have hrestoring : Calm run.Prepares (setLifecycle run.ckpt .restoring) :=
    calm_setLifecycle hreads ⟨rfl, .inr rfl⟩
  have hjournal : run.Prepares
      (.db (.journalAppend .restore run.attemptId .provisioned "target provisioned")) :=
    ⟨rfl, by decide⟩
  unfold provisionRestore
  refine Contained.bind (calm_setLifecycle hreads ⟨rfl, .inl rfl⟩) fun _ => ?_
  refine Contained.bind (contained_call hjournal) fun _ => ?_
  refine Contained.bind (calm_callNode hreads trivial) fun result => ?_
  exact Contained.ite hrestoring (Contained.bind calm_ensureReplica fun _ => hrestoring)

theorem calm_applyRestore : Calm run.Prepares (applyRestore settings run) := by
  have hjournal : run.Prepares
      (.db (.journalAppend .restore run.attemptId .componentsRestored "components restored")) :=
    ⟨rfl, by decide⟩
  unfold applyRestore
  refine Contained.bind (calm_okOr rfl) fun digest => ?_
  refine Contained.bind (calm_callNode (fun _ => RestoreRun.prepares_of_reads) trivial)
    fun result => ?_
  exact Contained.bind (calm_ensure rfl) fun _ => contained_call hjournal

theorem calm_restoreToken : Calm run.Prepares (restoreToken run) := by
  unfold restoreToken
  split
  · exact contained_pure
  · exact contained_call trivial

end Parts

section Ends

variable {settings : Settings} {run : RestoreRun} {c : CheckpointObject} {s₀ : Store}
  {s : Snapshot} {α : Type}

/-- The restore has committed and says what became of it, or it has failed without a panic. What
has not committed is confined. -/
def RestoreRun.Settled (run : RestoreRun) (c : CheckpointObject) (s₀ : Store)
    (result : FabricResult α) (s : Snapshot) : Prop :=
  (run.Stands c s₀ s.store ∨ run.Confined c s₀ s.store) ∧ ∃ e, result = .error e ∧ ¬ e.isPanic

/-- A part of the restore before its commit. -/
theorem ends_prepares_bind {β : Type} {p : Fabric α} {f : α → Fabric β}
    {post : FabricResult β → Snapshot → Prop} (hp : Calm run.Prepares p)
    (havailable : c.lifecycle = .available) (hvalid : c.integrityState = .valid)
    (h : run.Confined c s₀ s.store)
    (hok : ∀ a s', run.Confined c s₀ s'.store → Ends Snapshot.Step post (f a) s')
    (herror : ∀ e s', run.Settled c s₀ (.error e : FabricResult β) s' → post (.error e) s') :
    Ends Snapshot.Step post (p >>= f) s := by
  have hconfined : Ends Snapshot.Step
      (fun result s' => NoPanic result ∧ run.Confined c s₀ s'.store) p s :=
    hp.ends (fun _ _ _ _ hop hstep h₁ => h₁.of_step havailable hvalid hop hstep) h
  exact Ends.bind hconfined (fun a s' h' => hok a s' h'.2) fun e s' h' =>
    herror e s' ⟨.inr h'.2, e, rfl, h'.1 e rfl⟩

/-- The workload is there when it is read back after the commit. -/
theorem ends_commitRestore (havailable : c.lifecycle = .available)
    (hvalid : c.integrityState = .valid) (hckpt : run.ckpt.workloadId = c.workloadId)
    (h : run.Confined c s₀ s.store) :
    Ends Snapshot.Step (fun result s' =>
        run.Settled c s₀ result s' ∨ (∃ value, result = .ok value) ∧ run.Stands c s₀ s'.store)
      (commitRestore run) s := by
  unfold commitRestore
  refine ends_prepares_bind (contained_call trivial) havailable hvalid h (fun _ s₁ h₁ => ?_)
    fun _ _ => .inl
  refine ends_prepares_bind calm_restoreToken havailable hvalid h₁ (fun token s₂ h₂ => ?_)
    fun _ _ => .inl
  have hcommit : Ends Snapshot.Step (fun result s' =>
      run.Settled c s₀ result s' ∨ result = .ok () ∧ run.Stands c s₀ s'.store)
      (db (.restoreCommit run.ckpt.checkpointId run.attemptId run.targetNode token
        run.options.migration run.options.rollback)) s₂ := by
    refine ends_db_cases (fun now n reply store _ _ hrun => .inr ⟨rfl, ?_⟩)
      fun now n e _ _ hrun => .inl ⟨.inr h₂, e, rfl, StoreOp.noPanic_run _ _ _ _ hrun⟩
    exact stands_of_restoreCommit h₂ (StoreOp.of_map_ok hrun)
  refine Ends.bind hcommit (fun _ s₃ h₃ => ?_) fun e s₃ h₃ => ?_
  · obtain ⟨-, e, he, -⟩ | ⟨-, hstands⟩ := h₃
    · cases he
    obtain ⟨w, w', -, hw', -⟩ := hstands.committed
    refine ends_db_bind (fun now => rfl) fun now n _ _ => ?_
    rw [hckpt, show s₃.store.workloadGet c.workloadId = some w' from hw']
    change Ends Snapshot.Step _
      (fire "restore.after_generation_commit" >>= fun _ => pure (token, w')) _
    refine Ends.bind ends_fire (fun _ s₄ h₄ => .inr ⟨⟨_, rfl⟩, ?_⟩) fun e s₄ h₄ => .inl ?_
    · rw [h₄.1]
      exact hstands
    · rw [RestoreRun.Settled, h₄.1]
      exact ⟨.inl hstands, e, rfl, h₄.2 e rfl⟩
  · obtain hsettled | ⟨he, -⟩ := h₃
    · obtain ⟨hrows, e', he, hpanic⟩ := hsettled
      exact .inl ⟨hrows, e, rfl, Except.error.inj he ▸ hpanic⟩
    · cases he

/-- After the commit the target is resumed or not, and the attempt says which. -/
theorem ends_finishRestore {token : FenceToken} {w : Workload} (h : run.Stands c s₀ s.store) :
    Ends Snapshot.Step (fun result s' => run.Settled c s₀ result s' ∨
        (∃ out, result = .ok out) ∧ run.Stands c s₀ s'.store ∧
          RecordedAs run.attemptId result s'.store)
      (finishRestore run token w) s := by
  unfold finishRestore
  refine Ends.attempt_bind
    (ends_quiet (uses_callNode (fun _ => Op.quiet_of_reads) trivial)) fun answer s₁ h₁ => ?_
  have hstands : run.Stands c s₀ s₁.store := h₁.1 ▸ h
  have hmark : JournalState.resumed ≠ .generationCommitted := by decide
  refine ends_db_bind (fun now => rfl) fun now₂ n₂ _ _ => ?_
  refine ends_db_bind (fun now => rfl) fun now₃ n₃ _ _ => ?_
  refine ends_db_bind (fun now => rfl) fun now₄ n₄ _ _ => ?_
  obtain ⟨hclosed, a, ha, hstate⟩ := (hstands.journalAppend hmark).close
  refine Ends.bind ends_fire (fun _ s₅ h₅ => .inr ?_) fun e s₅ h₅ => .inl ?_
  · rw [h₅.1]
    refine ⟨⟨_, rfl⟩, hclosed, a, ha, ?_⟩
    cases hresumed : resumedBy run answer with
    | true => exact .inl ⟨⟨_, rfl, rfl⟩, by rw [hstate, hresumed, if_pos rfl]⟩
    | false =>
      refine .inr ⟨?_, by rw [hstate, hresumed, if_neg Bool.false_ne_true]⟩
      rintro _ ⟨⟩
      exact (by decide : "RESTORED_NO_RESUME" ≠ "RESTORED")
  · rw [RestoreRun.Settled, h₅.1]
    exact ⟨.inl hclosed, e, rfl, h₅.2 e rfl⟩

theorem ends_executeRestore_of_available (havailable : c.lifecycle = .available)
    (hvalid : c.integrityState = .valid) (hckpt : run.ckpt.workloadId = c.workloadId)
    (h : run.Confined c s₀ s.store) :
    Ends Snapshot.Step (fun result s' => run.Settled c s₀ result s' ∨
        (∃ out, result = .ok out) ∧ run.Stands c s₀ s'.store ∧
          RecordedAs run.attemptId result s'.store)
      (executeRestore settings run) s := by
  unfold executeRestore
  refine ends_prepares_bind calm_provisionRestore havailable hvalid h (fun _ s₁ h₁ => ?_)
    fun _ _ => .inl
  refine ends_prepares_bind calm_applyRestore havailable hvalid h₁ (fun _ s₂ h₂ => ?_)
    fun _ _ => .inl
  refine Ends.bind (ends_commitRestore havailable hvalid hckpt h₂) (fun value s₃ h₃ => ?_)
    fun e s₃ h₃ => ?_
  · obtain ⟨-, e, he, -⟩ | ⟨-, hstands⟩ := h₃
    · cases he
    · exact ends_finishRestore hstands
  · obtain ⟨hrows, e', he, hpanic⟩ | ⟨⟨_, he⟩, -⟩ := h₃
    · exact .inl ⟨hrows, e, rfl, Except.error.inj he ▸ hpanic⟩
    · cases he

/-- A transition that is not legal changes nothing. -/
theorem ends_setLifecycle_illegal {ckpt row : CheckpointObject} {target : LifecycleState}
    (hrow : s.store.checkpoints.get ckpt.checkpointId = some row)
    (hillegal : ¬ row.lifecycle.canTransition target) :
    Ends Snapshot.Step (fun result s' => s'.store = s.store ∧ ∃ e, result = .error e ∧ ¬ e.isPanic)
      (setLifecycle ckpt target) s := by
  unfold setLifecycle
  refine ends_db_bind (fun _ => rfl) fun now n _ _ => ?_
  rw [Store.checkpointGet, hrow]
  change Ends Snapshot.Step _ (Program.ofExcept (row.lifecycle.transition target) >>= fun _ =>
    db (.checkpointSetLifecycle ckpt.checkpointId target .pending)) _
  rw [ends_ofExcept_bind]
  refine ⟨fun _ hlegal => ?_, fun e he => ⟨rfl, e, rfl, noPanic_transition _ _ e he⟩⟩
  exact absurd (LifecycleState.transition_eq_ok_iff.mp hlegal) hillegal

/-- A RESTORED checkpoint passes the checks of a restore, but cannot be taken out of its state. -/
theorem ends_executeRestore_of_restored (hrestored : c.lifecycle = .restored)
    (h : run.Confined c s₀ s.store) :
    Ends Snapshot.Step (run.Settled c s₀) (executeRestore settings run) s := by
  obtain ⟨c', hc', hunder⟩ := h.own
  have hillegal : ¬ c'.lifecycle.canTransition .restorePending := by
    rcases hunder.2 with ⟨hsame, -⟩ | ⟨havailable, -⟩
    · rw [hsame, hrestored]
      decide
    · exact absurd (hrestored.symm.trans havailable) (by decide)
  have hsettled {α : Type} {e : FabricError} {s' : Snapshot} (hstore : s'.store = s.store)
      (hpanic : ¬ e.isPanic) : run.Settled c s₀ (.error e : FabricResult α) s' := by
    rw [RestoreRun.Settled, hstore]
    exact ⟨.inr h, e, rfl, hpanic⟩
  have hprovision : Ends Snapshot.Step
      (fun result s' => s'.store = s.store ∧ ∃ e, result = .error e ∧ ¬ e.isPanic)
      (provisionRestore run) s := by
    unfold provisionRestore
    refine Ends.bind (ends_setLifecycle_illegal hc' hillegal) (fun _ s₁ h₁ => ?_)
      fun e s₁ h₁ => ?_
    · obtain ⟨-, e, he, -⟩ := h₁
      cases he
    · obtain ⟨hstore, e', he, hpanic⟩ := h₁
      exact ⟨hstore, e, rfl, Except.error.inj he ▸ hpanic⟩
  unfold executeRestore
  refine Ends.bind hprovision (fun _ s₁ h₁ => ?_) fun e s₁ h₁ => ?_
  · obtain ⟨-, e, he, -⟩ := h₁
    cases he
  · obtain ⟨hstore, e', he, hpanic⟩ := h₁
    exact hsettled hstore (Except.error.inj he ▸ hpanic)

/-- A restore comes to its commit, or it fails with its rows only changed. -/
theorem ends_executeRestore
    (hstate : c.lifecycle = .available ∧ c.integrityState = .valid ∨ c.lifecycle = .restored)
    (hckpt : run.ckpt.workloadId = c.workloadId) (h : run.Confined c s₀ s.store) :
    Ends Snapshot.Step (fun result s' => run.Settled c s₀ result s' ∨
        (∃ out, result = .ok out) ∧ run.Stands c s₀ s'.store ∧
          RecordedAs run.attemptId result s'.store)
      (executeRestore settings run) s := by
  rcases hstate with ⟨havailable, hvalid⟩ | hrestored
  · exact ends_executeRestore_of_available havailable hvalid hckpt h
  · exact (ends_executeRestore_of_restored hrestored h).weaken fun _ _ => .inl

/-- The state of a checkpoint that was taken out of AVAILABLE is put back. -/
theorem ends_returnToAvailable (hstate : c.lifecycle = .available ∨ c.lifecycle = .restored)
    (h : run.Confined c s₀ s.store) :
    Ends Snapshot.Step (fun result s' => result = .ok () ∧ run.Confined c s₀ s'.store ∧
        ∃ c', s'.store.checkpoints.get run.ckpt.checkpointId = some c' ∧ SameState c c')
      (returnToAvailable run.ckpt.checkpointId) s := by
  obtain ⟨c', hc', hworkload, hunder⟩ := h.own
  unfold returnToAvailable
  refine ends_db_bind (fun _ => rfl) fun now n _ _ => ?_
  rw [Store.checkpointGet, hc', Option.map_some]
  dsimp only
  split
  · rename_i hpending
    have hpending : c'.lifecycle = .restorePending ∨ c'.lifecycle = .restoring :=
      (Bool.or_eq_true_iff.mp hpending).imp beq_iff_eq.mp beq_iff_eq.mp
    obtain ⟨havailable, hvalid⟩ : c.lifecycle = .available ∧ c.integrityState = .valid := by
      rcases hunder with ⟨hsame, -⟩ | ⟨havailable, hvalid, -⟩
      · rcases hstate with hstate | hstate <;> rcases hpending with hpending | hpending <;>
          exact absurd (hpending.symm.trans (hsame.trans hstate)) (by decide)
      · exact ⟨havailable, hvalid⟩
    have htransition : (Store.readCheckpoint c').lifecycle.transition .available = .ok () := by
      rw [show (Store.readCheckpoint c').lifecycle = c'.lifecycle from rfl]
      rcases hpending with hpending | hpending <;> rw [hpending] <;> rfl
    rw [htransition, ends_ofExcept_bind]
    refine ⟨fun _ _ => ?_, by rintro _ ⟨⟩⟩
    refine ends_db_cases (fun now n reply store _ _ hrun => ?_) fun now n e _ _ hrun => ?_
    · obtain ⟨-, rfl⟩ := Store.checkpointSetLifecycle_ok (StoreOp.of_map_ok hrun)
      refine ⟨rfl, h.update fun c' hunder => ⟨hunder.1, .inl ⟨havailable.symm, hvalid.symm⟩⟩,
        { c' with lifecycle := .available, integrityState := .valid }, ?_,
        havailable.symm, hvalid.symm⟩
      rw [Store.get_updateCheckpoint, if_pos rfl, hc', Option.map_some]
    · have hset : (s.store.checkpointSetLifecycle run.ckpt.checkpointId .available .valid).map
        ((), ·) = .error e := hrun
      rw [Store.checkpointSetLifecycle, hc'] at hset
      cases hset
  · rename_i hpending
    refine ⟨rfl, h, c', hc', ?_⟩
    rcases hunder with hsame | ⟨-, -, hstates⟩
    · exact hsame
    · refine absurd (Bool.or_eq_true_iff.mpr ?_) hpending
      exact hstates.imp beq_iff_eq.mpr beq_iff_eq.mpr

/-- The abort of a restore that did not commit neutralises what it has left. -/
theorem ends_abortRestoreAttempt_of_confined {detail : String}
    (hstate : c.lifecycle = .available ∨ c.lifecycle = .restored)
    (hfresh : ¬ s.store.Journaled .restore run.attemptId .generationCommitted)
    (h : run.Confined c s₀ s.store) :
    Ends Snapshot.Step (fun _ s' => run.Undone c s₀ s'.store) (abortRestoreAttempt run detail)
      s := by
  have hcommitted : s.store.journalHas .restore run.attemptId .generationCommitted = false :=
    Bool.eq_false_iff.mpr fun h => hfresh (Store.journalHas_eq_true_iff.mp h)
  have hfinish (s₁ : Snapshot) (h₁ : run.Confined c s₀ s₁.store) :
      Ends Snapshot.Step (fun _ s' => run.Undone c s₀ s'.store)
        (do
          returnToAvailable run.ckpt.checkpointId
          attemptFinish run.attemptId .failed none (some detail)
          reservationRelease run.attemptId) s₁ := by
    refine Ends.bind (ends_returnToAvailable hstate h₁) (fun _ s₂ h₂ => ?_) fun e s₂ h₂ => ?_
    · refine ends_db_bind (fun now => rfl) fun now n _ _ => ?_
      exact ends_db_ok (fun now => rfl) fun now' n' _ _ => h₂.2.1.undone h₂.2.2
    · exact absurd h₂.1 (by simp)
  unfold abortRestoreAttempt
  refine ends_db_bind (fun _ => rfl) fun now n _ _ => ?_
  rw [hcommitted]
  refine ends_db_bind (fun _ => rfl) fun now n _ _ => ?_
  cases s.store.attemptGet run.attemptId with
  | none => exact hfinish _ h
  | some a =>
    refine Ends.bind (ends_quiet_ignore (uses_callNode (fun _ => Op.quiet_of_reads) trivial))
      (fun _ s₁ h₁ => ?_) fun e s₁ h₁ => ?_
    · exact hfinish s₁ (h₁.2 ▸ h)
    · exact absurd h₁.1 (by simp)

/-- The abort of a restore that has committed records that it did not resume. -/
theorem ends_abortRestoreAttempt_of_stands {detail : String} (h : run.Stands c s₀ s.store) :
    Ends Snapshot.Step (fun _ s' => run.Stands c s₀ s'.store ∧
        ∃ a, s'.store.attempts.get run.attemptId = some a ∧ a.state = .committedNoResume)
      (abortRestoreAttempt run detail) s := by
  have hcommitted : s.store.journalHas .restore run.attemptId .generationCommitted = true :=
    Store.journalHas_eq_true_iff.mpr h.journaled
  unfold abortRestoreAttempt
  refine ends_db_bind (fun _ => rfl) fun now n _ _ => ?_
  rw [hcommitted]
  refine ends_db_bind (fun now => rfl) fun now' n' _ _ => ?_
  exact ends_db_ok (fun now => rfl) fun now'' n'' _ _ => h.close

end Ends

end Coordinator

end CheckpointFabric
