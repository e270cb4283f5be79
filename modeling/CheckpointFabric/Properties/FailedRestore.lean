import CheckpointFabric.Alone.Restore
import CheckpointFabric.Properties.Exclusion
import CheckpointFabric.Properties.FailedCapture
import CheckpointFabric.Steps.Attempts
import CheckpointFabric.Steps.Images

/-!
# A failed restore leaves the state as it was

A restore that runs alone either commits its generation or leaves nothing: the workloads, the
lineage and the state of every checkpoint are as they were, its attempt is FAILED and its
reservation released. What fails after the commit takes nothing back. The target owns the
workload in its next generation, and the attempt is recorded as committed without resume.

## Main definitions

* `RestoreFailed` — what a restore that did not commit leaves
* `RestoreCommitStands` — what a restore that did commit leaves

## Main results

* `decided_of_available` — an AVAILABLE checkpoint is intact, or was found corrupt
* `failed_restore` — a restore that runs alone fails without a trace, or its commit stands
-/

set_option autoImplicit false

namespace CheckpointFabric

open Concurrency Coordinator System Fabric

/-- What a restore that did not commit leaves. -/
structure RestoreFailed (s s' : Store) : Prop where
  workloads : s'.workloads = s.workloads
  lineage : s'.lineage = s.lineage
  checkpoints : ∀ id, Option.Rel SameState (s.checkpoints.get id) (s'.checkpoints.get id)
  attempts : ∀ key, OnlyNew (·.state = .failed) (s.attempts.get key) (s'.attempts.get key)
  reservations : ∀ key, OnlyNew (·.state = .released) (s.reservations.get key)
    (s'.reservations.get key)

/-- What a restore of the checkpoint to the target leaves when it has committed. -/
structure RestoreCommitStands (s s' : Store) (checkpointId : Id) (targetNode : NodeId)
    (key : AttemptId) (result : FabricResult OperationOutcome) : Prop where
  committed : ∃ c w w', s.checkpoints.get checkpointId = some c ∧
    s.workloads.get c.workloadId = some w ∧ s'.workloads.get c.workloadId = some w' ∧
    w'.workloadGeneration = w.workloadGeneration + 1 ∧ w'.activeNode = some targetNode
  recorded : RecordedAs key result s'

theorem RestoreFailed.refl (s : Store) : RestoreFailed s s where
  workloads := rfl
  lineage := rfl
  checkpoints := fun _ => Table.rel_refl (fun _ => ⟨rfl, rfl⟩) _
  attempts := fun _ => .inl rfl
  reservations := fun _ => .inl rfl

section Runs

variable {settings : Settings} {t : List (Event (fabric settings))}
  {e : Event (fabric settings)} {tid : ℕ} {id : Id} {c : CheckpointObject}

/-- An update of the lifecycle that makes a checkpoint AVAILABLE declares it intact. -/
theorem valid_of_lifecycle {integrity : IntegrityState} (h : Run (e :: t))
    (hcalls : Calls e t tid (.checkpointSetLifecycle id .available integrity) ()) :
    integrity = .valid := by
  obtain ⟨request, -, hwriter⟩ := hcalls.writer h not_false
  cases hwriter with
  | capture _ _ hwrites => simp [CaptureRun.Writes] at hwrites
  | restore _ hwrites =>
    obtain ⟨-, ⟨hstate | hstate, -⟩ | ⟨-, hvalid⟩⟩ := hwrites
    · cases hstate
    · cases hstate
    · exact hvalid
  | recovery hwrites =>
    obtain ⟨-, hvalid, -⟩ | ⟨hstate, -⟩ := hwrites
    · exact hvalid
    · cases hstate
  | plain hwrites => exact absurd hwrites not_false

/-- The integrity of a checkpoint is declared after a check only. -/
theorem decided_of_calls {state : IntegrityState} (h : Run (e :: t))
    (hcalls : Calls e t tid (.checkpointSetIntegrity id state) ()) : state.Decided := by
  obtain ⟨request, -, hwriter⟩ := hcalls.writer h not_false
  cases hwriter with
  | capture _ _ hwrites => exact .inl hwrites.2
  | restore _ hwrites | recovery hwrites => exact absurd hwrites not_false
  | plain hwrites => exact hwrites

/-- An AVAILABLE checkpoint is intact, or it was found corrupt. -/
theorem decided_of_available (h : Run t) (hc : (stateOf t).checkpoint id = some c)
    (havailable : c.lifecycle = .available) : c.integrityState.Decided := by
  induction t generalizing c with
  | nil => cases hc
  | cons e t ih =>
    rw [stateOf_cons] at hc
    rcases checkpoint_cases h id with ⟨tid, op, reply, hop, hcalls, hstep⟩ | hsame
    · rw [hc] at hstep
      generalize hrow : (stateOf t).checkpoint id = row at hstep
      cases hstep with
      | kept => exact ih h.tail hrow havailable
      | inserted =>
        obtain ⟨request, -, hwriter⟩ := hcalls.writer h hop
        have hearly := (early_of_writer (.inl rfl) hwriter).preliminary
        rw [havailable] at hearly
        exact absurd hearly not_false
      | updated =>
        obtain ⟨request, -, hwriter⟩ := hcalls.writer h hop
        have hearly := (early_of_writer (.inr rfl) hwriter).preliminary
        rw [show _ = LifecycleState.available from havailable] at hearly
        exact absurd hearly not_false
      | lifecycleSet =>
        obtain rfl := havailable
        exact .inl (valid_of_lifecycle h hcalls)
      | captured _ hlinks =>
        obtain ⟨supersedes, supersededBy, rfl⟩ := hlinks
        exact .inl rfl
      | relinked _ _ hlinks =>
        obtain ⟨supersedes, supersededBy, rfl⟩ := hlinks
        have hdecided := ih h.tail hrow havailable
        exact hdecided
      | restored | retired => cases havailable
      | integritySet => exact decided_of_calls h hcalls
      | _ =>
        have hdecided := ih h.tail hrow havailable
        exact hdecided
    · exact ih h.tail (hsame.symm.trans hc) havailable

/-- A checkpoint that may be restored is AVAILABLE and intact, or RESTORED. -/
theorem state_of_restorable (h : Run t) (hc : (stateOf t).checkpoint id = some c)
    (hrestorable : Restore.validateRestoreRequest (Store.readCheckpoint c) settings.policy =
      .ok ()) :
    c.lifecycle = .available ∧ c.integrityState = .valid ∨ c.lifecycle = .restored := by
  obtain ⟨-, hcorrupt, -⟩ := Restore.validateRestoreRequest_eq_ok_iff.mp hrestorable
  refine (Restore.lifecycle_of_validateRestoreRequest hrestorable).imp_left fun havailable => ?_
  exact ⟨havailable, (decided_of_available h hc havailable).resolve_right hcorrupt⟩

/-- The nonce of a restore attempt has been used up. -/
theorem restoreNonce_lt_issued {checkpointId nonce : Id} {a : AttemptRecord} (h : Run t)
    (ha : (stateOf t).attempt (.restore checkpointId nonce) = some a) :
    nonce < (stateOf t).issued := by
  obtain ⟨tid, hrestores⟩ := restores_of_attempt h ha
  obtain ⟨later, ds, hsplit⟩ := List.append_of_mem hrestores.drawn
  exact lt_issued_of_draw h ⟨later, hsplit.symm⟩

end Runs

section Request

variable {settings : Settings} {checkpointId : Id} {targetNode : NodeId} {options : RestoreOptions}
  {ctx : OperationContext} {run : RestoreRun} {c : CheckpointObject} {s : Snapshot}

/-- The admission of a restore has written nothing since `s`. It has read the checkpoint, found it
restorable, and drawn a fresh nonce. -/
def RestoreChosen (settings : Settings) (checkpointId : Id) (targetNode : NodeId) (s : Snapshot)
    (result : FabricResult RestoreRun) (s' : Snapshot) : Prop :=
  s'.store = s.store ∧ ∀ run, result = .ok run → run.targetNode = targetNode ∧
    (∃ c, s.store.checkpoints.get checkpointId = some c ∧ run.ckpt = Store.readCheckpoint c ∧
      Restore.validateRestoreRequest run.ckpt settings.policy = .ok ()) ∧
    ∃ nonce, run.attemptId = .restore checkpointId nonce ∧ s.issued ≤ nonce

theorem ends_admitRestore :
    Ends Snapshot.Step (RestoreChosen settings checkpointId targetNode s)
      (admitRestore settings checkpointId targetNode options ctx) s := by
  have herror : ∀ (e : FabricError) (s' : Snapshot), s'.store = s.store →
      RestoreChosen settings checkpointId targetNode s (.error e) s' :=
    fun e s' hstore => ⟨hstore, by rintro _ ⟨⟩⟩
  have hreads : ∀ op : Op, op.Reads → op.Quiet := fun _ => Op.quiet_of_reads
  unfold admitRestore
  refine ends_reading_bind herror trivial rfl (Nat.le_refl _) fun _ s₁ h₁ hn₁ => ?_
  refine ends_reading_bind herror (uses_nodeIsActive hreads) h₁ hn₁ fun active s₂ h₂ hn₂ => ?_
  refine ends_reading_bind herror (uses_ensure.mpr trivial) h₂ hn₂ fun _ s₃ h₃ hn₃ => ?_
  cases hrow : s.store.checkpoints.get checkpointId with
  | none =>
    exact ends_requireCheckpoint_bind_of_none (h₃ ▸ hrow) fun e s' hstore =>
      herror e s' (hstore.trans h₃)
  | some c =>
    refine ends_requireCheckpoint_bind (h₃ ▸ hrow) fun now₄ n₄ _ hn₄ => ?_
    have hn₄ : s.issued ≤ n₄ := hn₃.trans hn₄
    rw [ends_ofExcept_bind]
    refine ⟨fun _ hrestorable => ?_, fun e _ => herror e _ h₃⟩
    refine ends_reading_bind herror trivial h₃ hn₄ fun _ s₅ h₅ hn₅ => ?_
    refine ends_reading_bind herror trivial h₅ hn₅ fun _ s₆ h₆ hn₆ => ?_
    refine ends_reading_bind herror (uses_requireWorkload hreads) h₆ hn₆
      fun workload s₇ h₇ hn₇ => ?_
    refine ends_reading_bind herror trivial h₇ hn₇ fun _ s₈ h₈ hn₈ => ?_
    refine ends_reading_bind herror (uses_nodeRuntime hreads) h₈ hn₈ fun target s₉ h₉ hn₉ => ?_
    -- What the verdict is does not matter, and it is not to be computed here.
    generalize Compatibility.evaluate target settings.policy (Store.readCheckpoint c) = compat
    refine ends_reading_bind herror (uses_ensure.mpr trivial) h₉ hn₉ fun _ s₁₀ h₁₀ hn₁₀ => ?_
    refine ends_reading_bind herror trivial h₁₀ hn₁₀ fun _ s₁₁ h₁₁ hn₁₁ => ?_
    refine ends_random_bind fun now n _ _ => ⟨h₁₁, ?_⟩
    rintro _ ⟨⟩
    exact ⟨rfl, ⟨c, hrow, rfl, hrestorable⟩, s₁₁.issued, rfl, hn₁₁⟩

/-- A restore whose attempt is fresh is confined once it is reserved. -/
theorem RestoreRun.confined_of_reserved {s₀ : Store} {r : Reservation}
    {hnew : s₀.reservations.get r.id = none} (hr : r.id = run.attemptId ∧ r.state = .active)
    (hc : s₀.checkpoints.get run.ckpt.checkpointId = some c) {kind : AttemptKind}
    {checkpointId workloadId : Option Id} {node : NodeId} {detail : String} {now now' : ℕ} :
    run.Confined c s₀
      ((({ s₀ with reservations := s₀.reservations.insert r hnew } : Store).attemptBegin
        run.attemptId kind checkpointId workloadId node now).journalAppend .restore run.attemptId
          .reserved detail now') := by
  refine
    { toOnlyRows := (Store.onlyRows_of_opened hr.1).journalAppend
      own := ⟨c, ?_, rfl, .inl ⟨rfl, rfl⟩⟩
      opened := ?_
      held := fun r' hr' => ?_
      uncommitted := fun key hj => ?_ }
  · rwa [Store.checkpoints_journalAppend, Store.checkpoints_attemptBegin]
  · rw [Store.attempts_journalAppend]
    exact Store.get_attemptBegin_self
  · rw [Store.reservations_journalAppend, Store.reservations_attemptBegin, Table.get_insert,
      if_pos hr.1] at hr'
    exact Option.some.inj hr' ▸ hr.2
  · rcases Store.journaled_journalAppend.mp hj with hold | ⟨-, -, hstate⟩
    · rwa [Store.Journaled, Store.journal_attemptBegin] at hold
    · cases hstate

/-- Reserving the restore confines it, or it has changed nothing. -/
theorem ends_reserveRestore (hc : s.store.checkpoints.get run.ckpt.checkpointId = some c) :
    Ends Snapshot.Step (fun result s' =>
        result = .ok () ∧ run.Confined c s.store s'.store ∧
            s.store.reservations.get run.attemptId = none ∨
          (∃ e, result = .error e) ∧ s'.store = s.store)
      (reserveRestore run checkpointId) s := by
  unfold reserveRestore
  refine Ends.bind Store.ends_reservationCreate (fun _ s₁ h₁ => ?_) fun e s₁ h₁ => ?_
  · obtain ⟨-, r, hnew, hr, hstore⟩ | ⟨⟨e, he⟩, -⟩ := h₁
    · refine ends_db_bind (fun now => rfl) fun now n _ _ => ?_
      refine ends_db_ok (fun now => rfl) fun now' n' _ _ => .inl ⟨rfl, ?_, hr.1 ▸ hnew⟩
      rw [hstore]
      exact RestoreRun.confined_of_reserved hr hc
    · cases he
  · obtain ⟨he, -⟩ | ⟨-, hstore⟩ := h₁
    · cases he
    · exact .inr ⟨⟨e, rfl⟩, hstore⟩

/-- The abort runs at every failure but a panic. -/
theorem ends_executeOrAbortRestore {s₀ : Store}
    (hstate : c.lifecycle = .available ∧ c.integrityState = .valid ∨ c.lifecycle = .restored)
    (hckpt : run.ckpt.workloadId = c.workloadId)
    (hfresh : ¬ s₀.Journaled .restore run.attemptId .generationCommitted)
    (h : run.Confined c s₀ s.store) :
    Ends Snapshot.Step (fun result s' =>
        run.Stands c s₀ s'.store ∧ RecordedAs run.attemptId result s'.store ∨
          (∃ e, result = .error e) ∧ run.Undone c s₀ s'.store)
      (mapErr (executeRestore settings run) fun e => abortRestoreAttempt run
        s!"restore failed: {e}") s := by
  unfold mapErr Program.onError
  rw [ends_andThen]
  refine (ends_executeRestore hstate hckpt h).weaken fun result s₁ h₁ => ?_
  rcases h₁ with ⟨hrows, e, rfl, hpanic⟩ | ⟨⟨out, rfl⟩, hstands, hrecorded⟩
  · dsimp only
    rw [if_neg hpanic, Program.ignore, ends_andThen, ends_andThen]
    rcases hrows with hstands | hconfined
    · refine (ends_abortRestoreAttempt_of_stands hstands).weaken fun _ s₂ h₂ => .inl ⟨h₂.1, ?_⟩
      obtain ⟨a, ha, hclosed⟩ := h₂.2
      refine ⟨a, ha, .inr ⟨?_, hclosed⟩⟩
      rintro _ ⟨⟩
    · have hlifecycle : c.lifecycle = .available ∨ c.lifecycle = .restored :=
        hstate.imp_left And.left
      have hfresh₁ : ¬ s₁.store.Journaled .restore run.attemptId .generationCommitted :=
        fun hj => hfresh (hconfined.uncommitted _ hj)
      refine (ends_abortRestoreAttempt_of_confined hlifecycle hfresh₁ hconfined).weaken
        fun _ s₂ h₂ => .inr ⟨⟨e, rfl⟩, h₂⟩
  · exact .inl ⟨hstands, hrecorded⟩

theorem restoreFailed_of_undone {s₀ s' : Store} (h : run.Undone c s₀ s')
    (hc : s₀.checkpoints.get run.ckpt.checkpointId = some c)
    (hattempt : s₀.attempts.get run.attemptId = none)
    (hreservation : s₀.reservations.get run.attemptId = none) : RestoreFailed s₀ s' where
  workloads := h.workloads
  lineage := h.lineage
  checkpoints := fun id => by
    by_cases hid : id = run.ckpt.checkpointId
    · obtain ⟨c', hc', hsame⟩ := h.returned
      rw [hid, hc, hc']
      exact .some hsame
    · rw [h.checkpoints id hid]
      exact Table.rel_refl (fun _ => ⟨rfl, rfl⟩) _
  attempts := fun key => by
    by_cases hkey : key = run.attemptId
    · subst hkey
      exact onlyNew_of_none hattempt h.finished
    · exact .inl (h.attempts key hkey)
  reservations := fun key => by
    by_cases hkey : key = run.attemptId
    · subst hkey
      exact onlyNew_of_none hreservation h.released
    · exact .inl (h.reservations key hkey)

/-- No restore of the checkpoint has used the nonces that are still to be drawn. -/
structure FreshRestores (checkpointId : Id) (s : Snapshot) : Prop where
  attempts : ∀ nonce, s.store.attempts.get (.restore checkpointId nonce) ≠ none →
    nonce < s.issued
  commits : ∀ nonce, s.store.Journaled .restore (.restore checkpointId nonce)
    .generationCommitted → nonce < s.issued

theorem freshRestores_of_run {t : List (Event (fabric settings))} (h : Run t) :
    FreshRestores checkpointId (stateOf t).snapshot where
  attempts := fun nonce hrow => by
    obtain ⟨a, ha⟩ := Option.ne_none_iff_exists'.mp hrow
    exact restoreNonce_lt_issued h ha
  commits := fun nonce hj => by
    obtain ⟨a, ha⟩ := exists_attempt_of_journaled h hj
    exact restoreNonce_lt_issued h ha

/-- A restore commits, or it fails and leaves nothing but closed rows. -/
theorem ends_requestRestore (hfresh : FreshRestores checkpointId s)
    (hstate : ∀ c, s.store.checkpoints.get checkpointId = some c →
      Restore.validateRestoreRequest (Store.readCheckpoint c) settings.policy = .ok () →
      c.lifecycle = .available ∧ c.integrityState = .valid ∨ c.lifecycle = .restored) :
    Ends Snapshot.Step (fun result s' =>
        (∃ key, (∀ key', s'.store.Journaled .restore key' .generationCommitted →
            s.store.Journaled .restore key' .generationCommitted ∨ key' = key) ∧
          s'.store.Journaled .restore key .generationCommitted ∧
          ¬ s.store.Journaled .restore key .generationCommitted ∧
          RestoreCommitStands s.store s'.store checkpointId targetNode key result) ∨
        (∀ key, s'.store.Journaled .restore key .generationCommitted →
            s.store.Journaled .restore key .generationCommitted) ∧
          (∃ e, result = .error e) ∧ RestoreFailed s.store s'.store)
      (requestRestore settings checkpointId targetNode options ctx) s := by
  unfold requestRestore
  refine Ends.bind ends_admitRestore (fun run s₁ h₁ => ?_) fun e s₁ h₁ => ?_
  · obtain ⟨hstore, hchosen⟩ := h₁
    obtain ⟨htarget, ⟨c, hc, hckpt, hrestorable⟩, nonce, hkey, hnonce⟩ := hchosen run rfl
    have hid : run.ckpt.checkpointId = checkpointId := by
      have hrow : c.checkpointId = checkpointId := Table.key_of_get hc
      rw [hckpt]
      exact hrow
    have hstates := hstate c hc (hckpt ▸ hrestorable)
    -- The nonce is fresh, so no attempt and no commit bears the key of this restore yet.
    have hattempt : s.store.attempts.get run.attemptId = none := by
      by_contra hrow
      exact absurd (hfresh.attempts nonce (hkey ▸ hrow)) (Nat.not_lt.mpr hnonce)
    have huncommitted : ¬ s.store.Journaled .restore run.attemptId .generationCommitted :=
      fun hj => absurd (hfresh.commits nonce (hkey ▸ hj)) (Nat.not_lt.mpr hnonce)
    subst hid
    rw [← hstore] at hc hattempt huncommitted ⊢
    -- A failure up to the reservation is passed on as it is; after it the restore is undone.
    refine Ends.bind (ends_reserveRestore hc) (fun _ s₂ h₂ => ?_) fun e s₂ h₂ => ?_
    · obtain ⟨-, hconfined, hreservation⟩ | ⟨⟨e, he⟩, -⟩ := h₂
      · have hworkload : run.ckpt.workloadId = c.workloadId := by rw [hckpt]; rfl
        refine (ends_executeOrAbortRestore hstates hworkload huncommitted hconfined).weaken
          fun result s₃ h₃ => ?_
        rcases h₃ with ⟨hstands, hrecorded⟩ | ⟨herror, hundone⟩
        · obtain ⟨w, w', hw, hw', hgeneration, hnode⟩ := hstands.committed
          refine .inl ⟨run.attemptId, hstands.only, hstands.journaled, huncommitted, ?_⟩
          exact ⟨⟨c, w, w', hc, hw, hw', hgeneration, htarget ▸ hnode⟩, hrecorded⟩
        · exact .inr ⟨hundone.uncommitted, herror,
            restoreFailed_of_undone hundone hc hattempt hreservation⟩
      · cases he
    · obtain ⟨he, -⟩ | ⟨-, hstore₂⟩ := h₂
      · cases he
      · rw [hstore₂]
        exact .inr ⟨fun _ => id, ⟨e, rfl⟩, RestoreFailed.refl _⟩
  · rw [h₁.1]
    exact .inr ⟨fun _ => id, ⟨e, rfl⟩, RestoreFailed.refl _⟩

/-- A restore that runs alone after any run, and that does not commit, returns an error. It leaves
the workloads, the lineage and the lifecycle and integrity of every checkpoint as they were; its
attempt is FAILED and its reservation released. When it does commit, the target owns the workload
in its next generation, whatever fails afterwards, and unless the restore returns that the
workload was resumed, its attempt is recorded as committed without resume. -/
theorem failed_restore {t : List (Event (fabric settings))} {w : World}
    {result : FabricResult OperationOutcome} (h : Run t)
    (halone : Alone settings (requestRestore settings checkpointId targetNode options ctx)
      (stateOf t) result w) :
    ((∀ key, w.store.Journaled .restore key .generationCommitted →
        Journaled t .restore key .generationCommitted) →
      (∃ e, result = .error e) ∧ RestoreFailed (stateOf t).store w.store) ∧
    ∀ key, w.store.Journaled .restore key .generationCommitted →
      ¬ Journaled t .restore key .generationCommitted →
      RestoreCommitStands (stateOf t).store w.store checkpointId targetNode key result := by
  rcases halone.ends (ends_requestRestore (freshRestores_of_run h) fun c =>
    state_of_restorable h) with
    ⟨key, honly, hj, hnew, hstands⟩ | ⟨huncommitted, hfailed⟩
  · refine ⟨fun hnone => absurd (hnone key hj) hnew, fun key' hj' hnew' => ?_⟩
    obtain rfl := (honly key' hj').resolve_left hnew'
    exact hstands
  · exact ⟨fun _ => hfailed, fun key hj hnew => absurd (huncommitted key hj) hnew⟩

end Request

/-- The small fabric does not restore a checkpoint a second time: it is RESTORED already. -/
theorem failed_restore_restored :
    (∃ a, (((requestRestore Demo.settings 2 "n1" {} Demo.operator).eval
        (World.answerAfter Demo.codecs 0) (stateOf (exec Demo.restored).trace)).2).attempt
          (.restore 2 5) = some a ∧ a.state = .failed) ∧
    ∃ e, ((requestRestore Demo.settings 2 "n1" {} Demo.operator).eval
      (World.answerAfter Demo.codecs 0) (stateOf (exec Demo.restored).trace)).1 = .error e := by
  have hmarks : ∀ e ∈ ((requestRestore Demo.settings 2 "n1" {} Demo.operator).eval
      (World.answerAfter Demo.codecs 0) (stateOf (exec Demo.restored).trace)).2.store.journal,
      e.kind = .restore → e.state = .generationCommitted →
        e ∈ (stateOf (exec Demo.restored).trace).store.journal := by
    decide +kernel
  have halone : Alone Demo.settings (requestRestore Demo.settings 2 "n1" {} Demo.operator)
      (stateOf (exec Demo.restored).trace)
      ((requestRestore Demo.settings 2 "n1" {} Demo.operator).eval
        (World.answerAfter Demo.codecs 0) (stateOf (exec Demo.restored).trace)).1
      ((requestRestore Demo.settings 2 "n1" {} Demo.operator).eval
        (World.answerAfter Demo.codecs 0) (stateOf (exec Demo.restored).trace)).2 :=
    alone_eval 0 _ _
  refine ⟨by decide +kernel, ((failed_restore (exec_run Demo.restored) halone).1
    fun key hj => ?_).1⟩
  obtain ⟨e, he, hkind, hkey, hstate⟩ := hj
  exact ⟨e, hmarks e he hkind hstate, hkind, hkey, hstate⟩

end CheckpointFabric
