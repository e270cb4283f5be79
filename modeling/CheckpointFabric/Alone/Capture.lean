import CheckpointFabric.Alone.Basic
import CheckpointFabric.Footprints.Stages

/-!
# A capture that runs alone

Before its metadata commit a capture writes to the rows that it has opened itself: its
checkpoint, its attempt, its reservation. Its abort neutralises them.

## Main definitions

* `CaptureRun.Prepares` — the operations of a capture before its commit
* `CaptureRun.Confined` — only the rows of the capture have changed, and it has not committed
* `CaptureRun.Undone` — and they are neutralised

## Main results

* `ends_executeCapture` — a capture that does not come to its commit is confined to its rows
* `ends_abortCaptureAttempt` — its abort undoes it
-/

set_option autoImplicit false

namespace CheckpointFabric

open Concurrency Fabric

/-- The checkpoint is not beyond its capture. -/
def LifecycleState.inCapture : LifecycleState → Bool
  | available | restored | retired => false
  | _ => true

namespace Coordinator

namespace CaptureRun

variable (run : CaptureRun)

/-- The operations of a capture before its commit. -/
def Prepares : Op → Prop
  | .db (.checkpointInsert c) | .db (.checkpointUpdate c) =>
    c.checkpointId = run.checkpointId ∧ c.lifecycle.inCapture
  | .db (.checkpointSetLifecycle id lifecycle _) =>
    id = run.checkpointId ∧ lifecycle.inCapture
  | .db (.checkpointSetDigest id _ _) | .db (.checkpointSetIntegrity id _) =>
    id = run.checkpointId
  | .db (.journalAppend _ _ state _) => state ≠ .dbCommitted
  | op => op.Quiet

/-- Only the rows of the capture have changed, and no capture has committed. -/
structure Confined (s s' : Store) : Prop
    extends Store.OnlyRows run.checkpointId run.attemptId s s' where
  own : ∀ c, s'.checkpoints.get run.checkpointId = some c → c.lifecycle.inCapture
  held : ∀ r, s'.reservations.get run.attemptId = some r → r.state = .active
  uncommitted : ∀ key, s'.Journaled .capture key .dbCommitted →
    s.Journaled .capture key .dbCommitted

/-- Only the rows of the capture have changed. Its checkpoint and its attempt are FAILED, and its
reservation is released. -/
structure Undone (s s' : Store) : Prop
    extends Store.OnlyRows run.checkpointId run.attemptId s s' where
  failed : ∀ c, s'.checkpoints.get run.checkpointId = some c → c.lifecycle = .failed
  finished : ∀ a, s'.attempts.get run.attemptId = some a → a.state = .failed
  released : ∀ r, s'.reservations.get run.attemptId = some r → r.state = .released

end CaptureRun

section Steps

variable {run : CaptureRun} {s s' s'' : Store} {id : Id}

/-- A change of the checkpoint that leaves its lifecycle as it is keeps the capture confined. -/
theorem CaptureRun.Confined.update {f : CheckpointObject → CheckpointObject}
    {hf : ∀ c, c.checkpointId = run.checkpointId → (f c).checkpointId = run.checkpointId}
    (h : run.Confined s s')
    (hown : ∀ c, s'.checkpoints.get run.checkpointId = some c → (f c).lifecycle.inCapture) :
    run.Confined s (s'.updateCheckpoint run.checkpointId f hf) := by
  refine { h with toOnlyRows := h.toOnlyRows.updateCheckpoint, own := fun c hc => ?_ }
  rw [Store.get_updateCheckpoint, if_pos rfl, Option.map_eq_some_iff] at hc
  obtain ⟨c', hc', rfl⟩ := hc
  exact hown c' hc'

/-- An operation before the commit keeps the capture confined. -/
theorem CaptureRun.Confined.step {op : StoreOp} {reply : op.Reply} {now : ℕ}
    (h : run.Confined s s') (hop : run.Prepares (.db op))
    (hrun : op.run now s' = .ok (reply, s'')) : run.Confined s s'' := by
  cases op with
  -- A capture writes the row of its own checkpoint, in its five forms, and its journal.
  | checkpointInsert c =>
    obtain ⟨-, hnew, rfl⟩ := Store.checkpointInsert_ok (StoreOp.of_map_ok hrun)
    obtain ⟨hid, hlifecycle⟩ := hop
    refine { h with toOnlyRows := h.of_checkpoints fun k hk => ?_, own := fun c' hc' => ?_ }
    · rw [Table.get_insert, if_neg fun heq => hk (heq.symm.trans hid)]
    · have hc' : (s'.checkpoints.insert c hnew).get run.checkpointId = some c' := hc'
      rw [Table.get_insert, if_pos hid] at hc'
      exact Option.some.inj hc' ▸ hlifecycle
  | checkpointUpdate c =>
    obtain ⟨-, rfl⟩ := Store.checkpointUpdate_ok (StoreOp.of_map_ok hrun)
    obtain ⟨hid, hlifecycle⟩ := hop
    refine { h with toOnlyRows := h.of_checkpoints fun k hk => ?_, own := fun c' hc' => ?_ }
    · exact Table.get_modify_of_ne _ _ _ fun heq => hk (heq.symm.trans hid)
    · dsimp only at hc'
      rw [← hid, Table.get_modify_self, Option.map_eq_some_iff] at hc'
      obtain ⟨old, -, rfl⟩ := hc'
      exact hlifecycle
  | checkpointSetLifecycle id lifecycle integrity =>
    obtain ⟨-, rfl⟩ := Store.checkpointSetLifecycle_ok (StoreOp.of_map_ok hrun)
    obtain ⟨rfl, hlifecycle⟩ := hop
    exact h.update fun _ _ => hlifecycle
  | checkpointSetDigest id digest manifestJson =>
    obtain rfl := StoreOp.snd_of_ok hrun
    obtain rfl : id = run.checkpointId := hop
    exact h.update h.own
  | checkpointSetIntegrity id state =>
    obtain rfl := StoreOp.snd_of_ok hrun
    obtain rfl : id = run.checkpointId := hop
    exact h.update h.own
  | journalAppend kind key state detail =>
    obtain rfl := StoreOp.snd_of_ok hrun
    refine
      { toOnlyRows := h.toOnlyRows.journalAppend
        own := by simpa using h.own
        held := by simpa using h.held
        uncommitted := fun key' hj => ?_ }
    -- GENERATION_COMMITTED is appended by the commit itself, which is no longer preparation.
    · rcases Store.journaled_journalAppend.mp hj with hold | ⟨-, -, heq⟩
      · exact h.uncommitted key' hold
      · exact absurd heq hop
  | _ =>
    obtain rfl := StoreOp.store_of_reads (by exact hop) hrun
    exact h

/-- So does every operation before the commit. -/
theorem CaptureRun.Confined.of_step {op : Op} {s₁ s₂ : Snapshot} {reply : FabricResult op.Reply}
    (h : run.Confined s s₁.store) (hop : run.Prepares op)
    (hstep : Snapshot.Step op s₁ reply s₂) : run.Confined s s₂.store := by
  cases op with
  | db op =>
    rcases hstep.db_cases with ⟨value, -, hrun⟩ | ⟨e, -, -, hstore⟩
    · exact h.step hop hrun
    · rwa [hstore]
  | claim => exact absurd hop not_false
  | _ => rwa [hstep.store_of_quiet trivial]

end Steps

section Parts

variable {settings : Settings} {run : CaptureRun}

theorem prepares_of_reads {op : Op} (h : op.Reads) : run.Prepares op := by
  cases op with
  | db op =>
    cases op with
    | checkpointInsert | checkpointUpdate | checkpointSetLifecycle | checkpointSetDigest
    | checkpointSetIntegrity | journalAppend => exact absurd h not_false
    | _ => exact h
  | claim => exact absurd h not_false
  | _ => trivial

theorem prepares_journal {kind : JournalKind} {key : AttemptId} {state : JournalState}
    {detail : String} (h : state ≠ .dbCommitted) :
    run.Prepares (.db (.journalAppend kind key state detail)) := h

theorem calm_stageCapture : Calm run.Prepares (stageCapture settings run) := by
  unfold stageCapture
  refine Contained.bind (contained_call trivial) fun epoch => ?_
  refine Contained.bind (contained_call trivial) fun now => ?_
  refine Contained.bind (contained_call ⟨rfl, rfl⟩) fun _ => ?_
  refine Contained.bind (calm_setLifecycle (fun _ => prepares_of_reads) ⟨rfl, rfl⟩)
    fun _ => ?_
  refine Contained.bind (calm_callNode (fun _ => prepares_of_reads) trivial) fun result => ?_
  refine Contained.bind (calm_ensure rfl) fun _ => ?_
  refine Contained.bind (calm_ofExcept (noPanic_validateComponentCompleteness _ _)) fun _ => ?_
  exact Contained.bind (calm_ofExcept (noPanic_enforceConsistency _ _)) fun _ => contained_pure

theorem calm_sealCapture {ckpt : CheckpointObject} (hckpt : ckpt.checkpointId = run.checkpointId) :
    Calm run.Prepares (sealCapture settings run ckpt) := by
  unfold sealCapture
  refine Contained.bind (calm_setLifecycle (fun _ => prepares_of_reads) ⟨hckpt, rfl⟩)
    fun _ => ?_
  refine Contained.bind (calm_setLifecycle (fun _ => prepares_of_reads) ⟨hckpt, rfl⟩)
    fun _ => ?_
  refine Contained.bind (contained_call trivial) fun _ => ?_
  refine Contained.bind (contained_call trivial) fun sealMs => ?_
  refine Contained.bind (contained_call rfl) fun _ => ?_
  refine Contained.bind (calm_setLifecycle (fun _ => prepares_of_reads) ⟨hckpt, rfl⟩)
    fun _ => ?_
  refine Contained.bind (contained_call (prepares_journal (by decide))) fun _ => ?_
  exact Contained.bind (contained_call rfl) fun _ => contained_pure

theorem calm_persistCapture {ckpt : CheckpointObject} {sealed : SealedManifest}
    (hckpt : ckpt.checkpointId = run.checkpointId) :
    Calm run.Prepares (persistCapture run ckpt sealed) := by
  unfold persistCapture
  refine Contained.bind (calm_setLifecycle (fun _ => prepares_of_reads) ⟨hckpt, rfl⟩)
    fun _ => ?_
  refine Contained.bind (calm_callNode (fun _ => prepares_of_reads) trivial) fun result => ?_
  refine Contained.bind (calm_ensure rfl) fun _ => ?_
  exact Contained.bind (contained_call ⟨hckpt, rfl⟩) fun _ =>
    contained_call (prepares_journal (by decide))

end Parts

section Ends

variable {settings : Settings} {run : CaptureRun} {s₀ : Store} {s : Snapshot} {α : Type}

theorem ends_of_calm {p : Fabric α} (hp : Calm run.Prepares p) (h : run.Confined s₀ s.store) :
    Ends Snapshot.Step (fun result s' => NoPanic result ∧ run.Confined s₀ s'.store) p s :=
  hp.ends (fun _ _ _ _ hop hstep h => h.of_step hop hstep) h

/-- The capture has committed, or it has failed without a panic and is confined to its rows. -/
def CaptureRun.Settled (run : CaptureRun) (s₀ : Store) (result : FabricResult α) (s : Snapshot) :
    Prop :=
  s.store.Journaled .capture run.attemptId .dbCommitted ∨
    run.Confined s₀ s.store ∧ ∃ e, result = .error e ∧ ¬ e.isPanic

theorem ends_calm_bind {β : Type} {p : Fabric α} {f : α → Fabric β} (hp : Calm run.Prepares p)
    (h : run.Confined s₀ s.store) {value : α → Prop} (hreturns : Returns value p)
    (hf : ∀ a s', value a → run.Confined s₀ s'.store →
      Ends Snapshot.Step (run.Settled s₀) (f a) s') :
    Ends Snapshot.Step (run.Settled s₀) (p >>= f) s := by
  refine Ends.bind ((ends_of_calm hp h).and_returns hreturns) (fun a s' h' => ?_)
    fun e s' h' => ?_
  · exact hf a s' (h'.2 a rfl) h'.1.2
  · exact .inr ⟨h'.1.2, e, rfl, h'.1.1 e rfl⟩

/-- A capture comes to its commit, or it fails with its rows only changed. -/
theorem ends_executeCapture (h : run.Confined s₀ s.store) :
    Ends Snapshot.Step (run.Settled s₀) (executeCapture settings run) s := by
  unfold executeCapture
  refine ends_calm_bind calm_stageCapture h returns_stageCapture fun ckpt s₁ hstaged h₁ => ?_
  have hckpt := hstaged.describes.checkpointId
  refine ends_calm_bind (calm_sealCapture hckpt) h₁ (returns_sealCapture hstaged)
    fun sealed s₂ hsealed h₂ => ?_
  refine ends_calm_bind (calm_persistCapture hsealed.1.describes.checkpointId) h₂
    (Returns.of_true _) fun _ s₃ _ h₃ => ?_
  refine ends_calm_bind (contained_call trivial) h₃ (Returns.of_true _) fun _ s₄ _ h₄ => ?_
  have hcommit : Ends Snapshot.Step (run.Settled s₀)
      (db (.captureCommit run.checkpointId run.attemptId)) s₄ := by
    refine ends_db_cases (fun now n reply store _ _ hrun => .inl ?_)
      fun now n e _ _ hrun => .inr ⟨h₄, e, rfl, ?_⟩
    · exact (StoreOp.journaled_of_run hrun).mpr (.inr ⟨rfl, rfl, rfl⟩)
    · exact StoreOp.noPanic_run _ _ _ _ hrun
  refine Ends.bind hcommit (fun _ s₅ h₅ => ?_) fun e s₅ h₅ => ?_
  · rcases h₅ with hj | ⟨-, e, he, -⟩
    · exact (ends_journaled hj).weaken fun _ _ => .inl
    · cases he
  · rcases h₅ with hj | ⟨hconfined, e', he, hpanic⟩
    · exact .inl hj
    · exact .inr ⟨hconfined, e, rfl, Except.error.inj he ▸ hpanic⟩

theorem ends_releaseCaptureOnNode {node : NodeId} {key : AttemptId} {id workloadId : Id}
    {committed : Bool} :
    Ends Snapshot.Step (fun result s' => result = .ok () ∧ s'.store = s.store)
      (releaseCaptureOnNode node key id workloadId committed) s := by
  have hcall (request : NodeRequest) (s : Snapshot) :
      Ends Snapshot.Step (fun result s' => result = .ok () ∧ s'.store = s.store)
        (callNode node request).ignore s :=
    ends_quiet_ignore (uses_callNode (fun _ => Op.quiet_of_reads) trivial)
  unfold releaseCaptureOnNode
  refine Ends.bind (hcall _ s) (fun _ s₁ h₁ => ?_) fun e s₁ h₁ => ?_
  · exact (hcall _ s₁).weaken fun _ _ h₂ => ⟨h₂.1, h₂.2.trans h₁.2⟩
  · exact absurd h₁.1 (by simp)

/-- The checkpoint of a capture that did not commit fails, in whatever state it is. -/
theorem ends_failAbortedCheckpoint (h : run.Confined s₀ s.store) :
    Ends Snapshot.Step
      (fun result s' => result = .ok () ∧ run.Confined s₀ s'.store ∧
        ∀ c, s'.store.checkpoints.get run.checkpointId = some c → c.lifecycle = .failed)
      (failAbortedCheckpoint run.checkpointId false) s := by
  unfold failAbortedCheckpoint
  refine ends_db_bind (fun _ => rfl) fun now n _ _ => ?_
  cases hrow : s.store.checkpoints.get run.checkpointId with
  | none =>
    rw [Store.checkpointGet, hrow]
    exact ⟨rfl, h, fun c hc => absurd (hrow.symm.trans hc) (Option.some_ne_none c).symm⟩
  | some c =>
    rw [Store.checkpointGet, hrow]
    dsimp only [Option.map_some]
    -- A checkpoint in its capture is in none of the states that are spared.
    have hspared : (!false && (Store.readCheckpoint c).lifecycle != .available &&
        (Store.readCheckpoint c).lifecycle != .restored &&
        (Store.readCheckpoint c).lifecycle != .retired) = true := by
      have hcapture : (Store.readCheckpoint c).lifecycle.inCapture := h.own c hrow
      revert hcapture
      cases (Store.readCheckpoint c).lifecycle <;> decide
    rw [if_pos hspared]
    refine ends_db_cases (fun now n reply store _ _ hrun => ?_) fun now n e _ _ hrun => ?_
    · obtain ⟨-, rfl⟩ := Store.checkpointSetLifecycle_ok (StoreOp.of_map_ok hrun)
      refine ⟨rfl, h.update fun _ _ => rfl, fun c' hc' => ?_⟩
      rw [Store.get_updateCheckpoint, if_pos rfl, hrow] at hc'
      rw [← Option.some.inj hc']
    · have hset : (s.store.checkpointSetLifecycle run.checkpointId .failed .pending).map
        ((), ·) = .error e := hrun
      rw [Store.checkpointSetLifecycle, hrow] at hset
      cases hset

/-- Closing the attempt as failed undoes the capture, once its checkpoint has failed. -/
theorem CaptureRun.Confined.undone {s s' : Store} {result error : Option String} {now : ℕ}
    (h : run.Confined s s')
    (hfailed : ∀ c, s'.checkpoints.get run.checkpointId = some c → c.lifecycle = .failed) :
    run.Undone s ((s'.attemptFinish run.attemptId .failed result error now).reservationRelease
      run.attemptId) where
  toOnlyRows := h.toOnlyRows.attemptFinish.reservationRelease
  failed := hfailed
  finished := fun a ha => by
    have ha : (s'.attemptFinish run.attemptId .failed result error now).attempts.get
      run.attemptId = some a := ha
    rw [Store.get_attemptFinish, if_pos rfl, Option.map_eq_some_iff] at ha
    obtain ⟨_, -, rfl⟩ := ha
    rfl
  released := fun r hr => by
    rw [Store.get_reservationRelease, if_pos rfl, Option.map_eq_some_iff] at hr
    obtain ⟨r', hr', rfl⟩ := hr
    rw [if_pos (h.held r' hr')]

/-- The abort of a capture neutralises what a capture that did not commit has left. -/
theorem ends_abortCaptureAttempt {workloadId : Id} {detail : String}
    (h : run.Confined s₀ s.store) :
    Ends Snapshot.Step
      (fun _ s' => s'.store.Journaled .capture run.attemptId .dbCommitted ∨
        run.Undone s₀ s'.store)
      (abortCaptureAttempt run.attemptId run.checkpointId workloadId detail) s := by
  by_cases hj : s.store.Journaled .capture run.attemptId .dbCommitted
  · exact (ends_journaled hj).weaken fun _ _ => .inl
  have hcommitted : s.store.journalHas .capture run.attemptId .dbCommitted = false :=
    Bool.eq_false_iff.mpr fun h => hj (Store.journalHas_eq_true_iff.mp h)
  have hfinish (s₁ : Snapshot) (h₁ : run.Confined s₀ s₁.store) :
      Ends Snapshot.Step (fun _ s' => s'.store.Journaled .capture run.attemptId .dbCommitted ∨
          run.Undone s₀ s'.store)
        (do
          failAbortedCheckpoint run.checkpointId false
          attemptFinish run.attemptId .failed none (some detail)
          reservationRelease run.attemptId) s₁ := by
    refine Ends.bind (ends_failAbortedCheckpoint h₁) (fun _ s₂ h₂ => ?_) fun e s₂ h₂ => ?_
    · refine ends_db_bind (fun now => rfl) fun now n _ _ => ?_
      refine ends_db_ok (fun now => rfl) fun now' n' _ _ => .inr ?_
      exact CaptureRun.Confined.undone h₂.2.1 h₂.2.2
    · exact absurd h₂.1 (by simp)
  unfold abortCaptureAttempt
  refine ends_db_bind (fun _ => rfl) fun now n _ _ => ?_
  rw [show s.store.journalHas .capture run.attemptId .dbCommitted = false from hcommitted]
  refine ends_db_bind (fun _ => rfl) fun now n _ _ => ?_
  cases s.store.attemptGet run.attemptId with
  | none => exact hfinish _ h
  | some a =>
    refine Ends.bind ends_releaseCaptureOnNode (fun _ s₁ h₁ => ?_) fun e s₁ h₁ => ?_
    · exact hfinish s₁ (h₁.2 ▸ h)
    · exact absurd h₁.1 (by simp)

end Ends

end Coordinator

end CheckpointFabric
