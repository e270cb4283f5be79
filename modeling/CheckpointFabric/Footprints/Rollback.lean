import CheckpointFabric.Footprints.Restore

/-!
# The footprint of a restore that fails

A restore that returns an error is followed by its handler. Before anything is committed
the handler tells the target to roll back what the attempt left, and closes the attempt.
So a thread that has asked a node to restore accounts for it before it answers.

## Main definitions

* `RestoreRun.Told` — what the deeds tell after the target was asked
* `Concluded` — no node was asked to restore, or the thread accounted for it

## Main results

* `obeys_abortRestoreAttempt` — how the handler of a failed restore accounts for it
* `obeys_requestRestore` — a restore only reads until it is admitted, and then performs
  the operations of its run
-/

set_option autoImplicit false

namespace CheckpointFabric.Coordinator

open Concurrency Fabric

section Parts

variable {settings : Settings} {checkpointId : Id} {targetNode : NodeId} {options : RestoreOptions}
  {run : RestoreRun} {start base ds : List FabricDeed}

open RestoreRun

section Told

theorem uses_ensureReplica {allowed : Op → Prop} (hreads : ∀ op, Op.Reads op → allowed op)
    (hfetch : ∀ node req, allowed (.call node (.allowFetch req)))
    (hreplicate : ∀ node req, allowed (.call node (.replicate req)))
    (hlocation : ∀ location,
      allowed (.db (.checkpointAddLocation run.ckpt.checkpointId location))) :
    Uses allowed (ensureReplica run) := by
  unfold ensureReplica
  refine Uses.bind (uses_firstActive hreads) fun _ => Uses.bind uses_okOr fun _ => ?_
  refine Uses.bind (uses_call.mpr (hreads _ trivial)) fun _ => ?_
  refine Uses.bind (uses_callNode hreads (hfetch _ _)) fun _ => ?_
  refine Uses.bind (uses_nodeAddr hreads) fun _ => Uses.bind uses_okOr fun _ => ?_
  refine Uses.bind (uses_callNode hreads (hreplicate _ _)) fun _ => ?_
  exact Uses.bind (uses_ensure.mpr trivial) fun _ => uses_db (hlocation _)

theorem uses_provisionRestore :
    Uses (fun op : Op => op.restoreKey = none) (provisionRestore run) := by
  have hreads : ∀ op : Op, op.Reads → op.restoreKey = none := fun _ => Op.restoreKey_of_reads
  unfold provisionRestore
  refine Uses.bind (uses_setLifecycle hreads rfl) fun _ => Uses.bind (uses_db rfl) fun _ => ?_
  refine Uses.bind (uses_callNode hreads rfl) fun _ => ?_
  exact Uses.ite (uses_setLifecycle hreads rfl)
    (Uses.bind (uses_ensureReplica hreads (fun _ _ => rfl) (fun _ _ => rfl) fun _ => rfl)
      fun _ => uses_setLifecycle hreads rfl)

theorem uses_commitRestore : Uses (fun op : Op => op.restoreKey = none) (commitRestore run) := by
  unfold commitRestore
  refine Uses.bind (uses_call.mpr rfl) fun _ => Uses.bind ?_ fun _ => ?_
  · unfold restoreToken
    split
    · trivial
    · exact uses_call.mpr rfl
  · refine Uses.bind (uses_db rfl) fun _ => Uses.bind (uses_db rfl) fun _ => ?_
    refine Uses.bind uses_okOr fun _ => ?_
    exact Uses.bind (uses_call.mpr rfl) fun _ => trivial

theorem uses_finishRestore {token : FenceToken} {w : Workload} :
    Uses (fun op : Op => op.restoreKey = none) (finishRestore run token w) := by
  have hreads : ∀ op : Op, op.Reads → op.restoreKey = none := fun _ => Op.restoreKey_of_reads
  unfold finishRestore
  refine Uses.bind (uses_callNode hreads rfl).attempt fun _ => Uses.bind (uses_db rfl) fun _ => ?_
  refine Uses.bind (uses_db rfl) fun _ => Uses.bind (uses_db rfl) fun _ => ?_
  exact Uses.bind (uses_call.mpr rfl) fun _ => trivial

theorem uses_reserveRestore :
    Uses (fun op : Op => op.restoreKey = none) (reserveRestore run checkpointId) :=
  Uses.bind (uses_db rfl) fun _ => Uses.bind (uses_db rfl) fun _ => uses_db rfl

/-- The restored components were journaled. -/
def RestoreRun.Applied (run : RestoreRun) (ds : List FabricDeed) : Prop :=
  ∃ detail : String,
    ⟨.db (.journalAppend .restore run.attemptId .componentsRestored detail), .ok ()⟩ ∈ ds

/-- What the deeds of a restore tell when it ends with this result: no node was asked, or that
its components were restored is journaled, or it failed; with a panic only where a node was
asked. -/
def RestoreRun.Told {α : Type} (run : RestoreRun) (ds : List FabricDeed)
    (result : FabricResult α) : Prop :=
  AskedFor run.attemptId ds ∧ (Unasked ds ∨ run.Applied ds ∨
    ∃ e, result = .error e ∧ (e.isPanic → ∃ d ∈ ds, run.Panics d))

/-- Applying asks the target, and journals that it has restored the components. -/
theorem obeys_applyRestore_told (h : Unasked ds) :
    Obeys (fun _ _ => True)
      (fun ds' result => AskedFor run.attemptId ds' ∧ ((∃ e, result = .error e ∧ Unasked ds') ∨
        run.Applied ds' ∨ ∃ e, result = .error e ∧ (e.isPanic → ∃ d ∈ ds', run.Panics d)))
      ds (applyRestore settings run) := by
  unfold applyRestore
  cases run.ckpt.manifestDigest with
  | none => exact ⟨h.askedFor, .inl ⟨_, rfl, h⟩⟩
  | some digest =>
  show Obeys _ _ ds (callNode run.targetNode (.restore _) >>= _)
  rw [obeys_bind]
  refine (obeys_callNode_ended run.targetNode (.restore _)).weaken fun ds₁ result h₁ => ?_
  have hlisted {nodes : FabricResult (List NodeRecord)} :
      Unasked (⟨.db .nodeList, nodes⟩ :: ds : List FabricDeed) := h.cons rfl
  have hasked {nodes : FabricResult (List NodeRecord)} {d : FabricDeed}
      (hd : d.op.restoreKey = some run.attemptId) :
      AskedFor run.attemptId (d :: ⟨.db .nodeList, nodes⟩ :: ds) :=
    hlisted.askedFor.cons fun k hk => (Option.some.inj (hd.symm.trans hk)).symm
  obtain ⟨nodes, rfl⟩ | ⟨nodes, e, rfl, rfl, -⟩ := h₁
  · -- Whatever comes of the call, it asked for this attempt.
    cases result with
    | error e =>
      refine ⟨hasked rfl, .inr (.inr ⟨e, rfl, fun hpanic => ?_⟩)⟩
      exact ⟨_, .head _, e, hpanic, .inl ⟨_, _, rfl, rfl⟩⟩
    | ok answer =>
      rw [Program.onValue_ok, obeys_bind, obeys_ensure]
      split
      · refine ⟨trivial, fun reply => ⟨(hasked rfl).cons fun k hk => ?_, ?_⟩⟩
        · exact absurd hk (Option.not_mem_none k)
        cases reply with
        | ok u => exact .inr (.inl ⟨_, .head _⟩)
        | error e =>
          refine .inr (.inr ⟨e, rfl, fun hpanic => ?_⟩)
          exact ⟨_, .head _, e, hpanic, .inr ⟨_, rfl⟩⟩
      · exact ⟨hasked rfl, .inr (.inr ⟨_, rfl, fun hpanic => nomatch hpanic⟩)⟩
  · exact ⟨hlisted.askedFor, .inl ⟨e, rfl, hlisted⟩⟩

theorem obeys_executeRestore_told (h : Unasked ds) :
    Obeys (fun _ _ => True) (fun ds' result => run.Told ds' result) ds
      (executeRestore settings run) := by
  unfold executeRestore
  have hprovision : Obeys (fun _ _ => True) (fun ds' _ => Unasked ds') ds (provisionRestore run) :=
    Obeys.of_uses uses_provisionRestore (fun _ _ hop hds => ⟨trivial, fun _ => hds.cons hop⟩) h
  rw [obeys_bind]
  refine hprovision.weaken fun ds₁ provisioned h₁ => ?_
  cases provisioned with
  | error e => exact ⟨h₁.askedFor, .inl h₁⟩
  | ok u =>
  rw [Program.onValue_ok, obeys_bind]
  refine (obeys_applyRestore_told h₁).weaken fun ds₂ applied h₂ => ?_
  obtain ⟨hasked, happlied⟩ := h₂
  cases applied with
  | error e =>
    refine ⟨hasked, happlied.imp (fun hnone => ?_) (Or.imp_right ?_)⟩
    · obtain ⟨_, -, hunasked⟩ := hnone
      exact hunasked
    rintro ⟨e', he, hpanics⟩
    exact ⟨e, rfl, Except.error.inj he ▸ hpanics⟩
  | ok u =>
  have happlied : run.Applied ds₂ := by
    obtain ⟨_, he, -⟩ | happlied | ⟨_, he, -⟩ := happlied
    · cases he
    · exact happlied
    · cases he
  -- What follows asks no node to restore.
  have hkeep : ∀ (ds' : List FabricDeed) (op : Op), op.restoreKey = none →
      AskedFor run.attemptId ds' ∧ run.Applied ds' → True ∧ ∀ reply,
        AskedFor run.attemptId (⟨op, reply⟩ :: ds') ∧ run.Applied (⟨op, reply⟩ :: ds') := by
    rintro ds' op hop ⟨hasked, detail, hdetail⟩
    refine ⟨trivial, fun reply => ⟨hasked.cons fun k hk => ?_, detail, .tail _ hdetail⟩⟩
    exact absurd (hop.symm.trans hk) (Option.some_ne_none k).symm
  refine (Obeys.of_uses (Uses.bind uses_commitRestore fun _ => uses_finishRestore) hkeep
    ⟨hasked, happlied⟩).weaken fun _ _ h₃ => ?_
  exact ⟨h₃.1, .inr (.inl h₃.2)⟩

end Told

section Run

variable (hadmitted : RestoreAdmitted settings checkpointId targetNode options start base run)
  (hbegun : run.Begun checkpointId base)
include hadmitted hbegun

/-- A checkpoint goes back to AVAILABLE from the restore states only. -/
theorem keeps_returnToAvailable
    (hlooked : Looked base .restore run.attemptId .generationCommitted false) :
    Keeps (RestorePermits settings checkpointId targetNode options start) (run.At base 2)
      (returnToAvailable run.ckpt.checkpointId) := by
  intro ds h
  have hkeep := at_cons_of_reads h (.db (.checkpointGet run.ckpt.checkpointId)) trivial
  refine ⟨.inl trivial, fun reply => ?_⟩
  cases reply with
  | error e => exact hkeep _
  | ok row =>
    cases row with
    | none => exact hkeep _
    | some c =>
      refine obeys_ite (fun hstate => ?_) fun _ => hkeep _
      rw [obeys_bind, obeys_ofExcept]
      cases c.lifecycle.transition .available with
      | error e => exact hkeep _
      | ok u =>
        refine restoreDoes hadmitted hbegun (hkeep _) (.inr ⟨rfl, .inr ⟨rfl, rfl⟩⟩) rfl
          (by decide) ⟨(hkeep (.ok (some c))).suffix.subset hlooked, some c, ds, rfl, ?_⟩
        intro c' hc'
        rw [← Option.some.inj hc']
        simpa using hstate

/-- Once the target was told to roll back, the attempt is closed. -/
theorem keeps_closeAborted {detail : String}
    (hlooked : Looked base .restore run.attemptId .generationCommitted false) :
    Keeps (RestorePermits settings checkpointId targetNode options start)
      (fun ds => run.At base 2 ds ∧ run.RolledBack ds) (do
        returnToAvailable run.ckpt.checkpointId
        attemptFinish run.attemptId .failed none (some detail)
        reservationRelease run.attemptId) := by
  refine Keeps.bind ((keeps_returnToAvailable hadmitted hbegun hlooked).and_uses
    (uses_returnToAvailable (fun _ => Op.restoreKey_of_reads) rfl) fun ds op hop hrolled _ =>
      hrolled.cons hop) fun _ => ?_
  refine Keeps.bind (fun ds h => ?_) fun _ => ?_
  · have hperforms : run.Performs checkpointId
        (.db (.attemptFinish run.attemptId .failed none (some detail))) := .inr rfl
    obtain ⟨hpermits, hat⟩ := restoreDoes hadmitted hbegun h.1 hperforms rfl (by decide)
      ⟨h.1.suffix.subset hlooked, h.2⟩
    exact ⟨hpermits, fun reply => ⟨hat reply, h.2.cons rfl⟩⟩
  · have hrelease : Keeps (RestorePermits settings checkpointId targetNode options start)
        (run.At base 2) (reservationRelease run.attemptId) :=
      keeps_restoreWrites hadmitted hbegun rfl rfl (by decide) fun _ _ => trivial
    have huses : Uses (fun op : Op => op.restoreKey = none) (reservationRelease run.attemptId) :=
      uses_db rfl
    exact hrelease.and_uses huses fun ds op hop hrolled _ => hrolled.cons hop

/-- The handler of a failed restore looks up what was committed, and decides from that. -/
theorem obeys_abortRestoreAttempt {detail : String} (h : run.At base 2 ds) :
    Obeys (RestorePermits settings checkpointId targetNode options start)
      (fun ds' _ => run.Accounted ds') ds (abortRestoreAttempt run detail) := by
  unfold abortRestoreAttempt
  refine ⟨.inl trivial, fun committed => ?_⟩
  have h₁ := at_cons_of_reads h (.db (.journalHas .restore run.attemptId .generationCommitted))
    trivial committed
  cases committed with
  | error e => exact .unread rfl ⟨e, .inl rfl⟩
  | ok committed =>
  generalize hds₁ : (_ :: ds : List FabricDeed) = ds₁ at h₁
  have hlooked : Looked ds₁ .restore run.attemptId .generationCommitted committed :=
    hds₁ ▸ .head _
  have hadmitted₁ := hadmitted.mono h₁.suffix
  have hbegun₁ := hbegun.mono h₁.suffix
  -- What was journaled decides: a restore that committed is closed, any other is rolled back.
  refine obeys_ite (fun hcommitted => ?_) fun hcommitted => ?_
  · subst hcommitted
    have hkeeps : Keeps (RestorePermits settings checkpointId targetNode options start)
        (run.At ds₁ 2) (do
          attemptFinish run.attemptId .committedNoResume
            (some "restore committed before post-commit failure") (some detail)
          reservationRelease run.attemptId) := by
      refine Keeps.bind (keeps_restoreWrites hadmitted₁ hbegun₁ rfl rfl (by decide)
        fun ds₂ hsuffix => .inl (hsuffix.subset hlooked)) fun _ => ?_
      exact keeps_restoreWrites hadmitted₁ hbegun₁ rfl rfl (by decide) fun _ _ => trivial
    exact (hkeeps _ (h₁.here (Nat.le_refl 2))).weaken fun ds₂ _ h₂ =>
      .committed (h₂.suffix.subset hlooked)
  · rw [Bool.not_eq_true] at hcommitted
    subst hcommitted
    refine ⟨.inl trivial, fun attempt => ?_⟩
    have h₂ := at_cons_of_reads h₁ (.db (.attemptGet run.attemptId)) trivial attempt
    have hsuffix₂ : ds₁ <:+ ⟨.db (.attemptGet run.attemptId), attempt⟩ :: ds₁ :=
      List.suffix_cons _ _
    have hlooked₂ := hsuffix₂.subset hlooked
    have hadmitted₂ := hadmitted.mono h₂.suffix
    have hbegun₂ := hbegun.mono h₂.suffix
    cases attempt with
    | error e => exact .unread rfl ⟨e, .inr rfl⟩
    | ok attempt =>
    have hclose : Keeps (RestorePermits settings checkpointId targetNode options start)
        (fun ds' => run.At (⟨.db (.attemptGet run.attemptId), .ok attempt⟩ :: ds₁) 2 ds' ∧
          run.RolledBack ds') (do
            returnToAvailable run.ckpt.checkpointId
            attemptFinish run.attemptId .failed none (some detail)
            reservationRelease run.attemptId) :=
      keeps_closeAborted hadmitted₂ hbegun₂ hlooked₂
    -- Without a row of the attempt nothing is known to clean up, and the rollback begins at once.
    cases attempt with
    | none =>
      exact (hclose _ ⟨h₂.here (Nat.le_refl 2), [], none, ds₁, rfl, by simp,
        fun _ h => nomatch h⟩).weaken fun _ _ h => .rolledBack h.2
    | some a =>
      have hcleanup : Keeps (RestorePermits settings checkpointId targetNode options start)
          (run.At (⟨.db (.attemptGet run.attemptId), .ok (some a)⟩ :: ds₁) 2) (callNode a.node
            (restoreCleanup run.attemptId run.ckpt.checkpointId run.ckpt.workloadId)) :=
        keeps_restoreSends hadmitted₂ hbegun₂ ⟨rfl, rfl, rfl⟩ rfl (by decide)
          fun ds₃ hsuffix => hsuffix.subset hlooked₂
      show Obeys _ _ _ ((callNode a.node _).ignore >>= fun _ => _)
      rw [obeys_bind, Program.ignore, obeys_andThen]
      refine ((hcleanup _ (h₂.here (Nat.le_refl 2))).and (obeys_callNode_ended a.node
        (restoreCleanup _ _ _))).mono (fun _ _ h => h.1) fun ds₃ result h₃ => ?_
      -- The cleanup was sent and answered, or its node was not found; the rollback goes on in both
      -- cases.
      obtain ⟨hat, ⟨nodes, rfl⟩ | ⟨nodes, e, rfl, rfl, hnone⟩⟩ := h₃
      · refine (hclose _ ⟨hat, [_, _], some a, ds₁, rfl, by simp [Op.restoreKey, restoreCleanup],
          fun a' ha' => ?_⟩).weaken fun _ _ h => .rolledBack h.2
        obtain rfl := Option.some.inj ha'
        exact ⟨result, .inl (.head _)⟩
      · refine (hclose _ ⟨hat, [_], some a, ds₁, rfl, by simp [Op.restoreKey],
          fun a' ha' => ?_⟩).weaken fun _ _ h => .rolledBack h.2
        obtain rfl := Option.some.inj ha'
        exact ⟨.error e, .inr ⟨nodes, .head _, hnone⟩⟩

end Run

theorem uses_abortRestoreAttempt_untold {detail : String} :
    Uses (fun op : Op => op.restoreKey = none) (abortRestoreAttempt run detail) :=
  uses_abortRestoreAttempt (fun _ => Op.restoreKey_of_reads) rfl (fun _ _ _ _ => rfl) rfl
    fun _ => rfl

/-- Opening the attempt leaves the run reserved, and still preparing. -/
theorem obeys_reserveRestore
    (hadmitted : RestoreAdmitted settings checkpointId targetNode options start ds run)
    (hwithin : Within restoreTimetable (drawsAttempt run.attemptId) 0 ds) :
    Obeys (RestorePermits settings checkpointId targetNode options start)
      (fun ds' result => ∀ u, result = .ok u →
        RestoreAdmitted settings checkpointId targetNode options start ds' run ∧
          run.Begun checkpointId ds' ∧ run.At ds' 0 ds') ds (reserveRestore run checkpointId) := by
  have herror : ∀ (ds' : List FabricDeed) (e : FabricError), ∀ u : Unit,
      Except.error e = Except.ok u →
        RestoreAdmitted settings checkpointId targetNode options start ds' run ∧
          run.Begun checkpointId ds' ∧ run.At ds' 0 ds' := fun _ _ _ h => nomatch h
  have hopens {op : StoreOp} {ds' : List FabricDeed} (hsuffix : ds <:+ ds')
      (hwithin' : Within restoreTimetable (drawsAttempt run.attemptId) 0 ds')
      (hwrites : run.Writes checkpointId op) (hphase : restorePhase (.db op) = some 0)
      (hop : Op.Opens (.db op)) (hbacked : run.Backed ds' (.db op)) :
      RestorePermits settings checkpointId targetNode options start ds' (.db op) :=
    .inr ⟨run, hadmitted.mono hsuffix, .inr hwrites,
      (inPhase_of_restorePhase hphase (by decide)).inTurn hwithin', .inl hop, hbacked⟩
  unfold reserveRestore
  refine obeys_call_bind herror (hopens (List.suffix_refl ds) hwithin ⟨rfl, rfl, rfl, rfl, rfl⟩ rfl
    trivial trivial) fun reserved => ?_
  have hwithin₁ := hwithin.cons (d := (⟨.db (.reservationCreate run.attemptId .restore none
    (some checkpointId) run.targetNode reservationTtlMs), .ok reserved⟩ : FabricDeed))
    (inPhase_of_restorePhase rfl (by decide)).2
  refine obeys_call_bind herror (hopens (List.suffix_cons _ _) hwithin₁ ⟨rfl, rfl, rfl, rfl, rfl⟩
    rfl trivial trivial) fun opened => ?_
  have hwithin₂ := hwithin₁.cons (d := (⟨.db (.attemptBegin run.attemptId
    (if run.options.rollback then .rollback else .restore) (some checkpointId)
    (some run.ckpt.workloadId) run.targetNode), .ok opened⟩ : FabricDeed))
    (inPhase_of_restorePhase rfl (by decide)).2
  generalize hds₂ : (_ :: _ :: ds : List FabricDeed) = ds₂ at hwithin₂ ⊢
  have hsuffix : ds <:+ ds₂ := hds₂ ▸ List.suffix_append [_, _] ds
  have hbegun : run.Begun checkpointId ds₂ := hds₂ ▸ ⟨.tail _ (.head _), .head _⟩
  have hkeeps : Keeps (RestorePermits settings checkpointId targetNode options start)
      (run.At ds₂ 0) (journal .restore run.attemptId .reserved "restore reserved") :=
    keeps_restoreWrites (hadmitted.mono hsuffix) hbegun ⟨rfl, rfl, .inl rfl⟩ rfl (by decide)
      fun _ _ => trivial
  refine (hkeeps ds₂ ⟨List.suffix_refl ds₂, hwithin₂⟩).weaken fun ds₃ _ h₃ _ _ => ?_
  exact ⟨(hadmitted.mono hsuffix).mono h₃.suffix, hbegun.mono h₃.suffix, h₃.here (Nat.le_refl 0)⟩

end Parts

section Request

variable {settings : Settings} {checkpointId : Id} {targetNode : NodeId} {options : RestoreOptions}
  {ctx : OperationContext} {ds : List FabricDeed}

theorem uses_admitRestore :
    Uses Op.Reads (admitRestore settings checkpointId targetNode options ctx) := by
  have hreads : ∀ op, Op.Reads op → Op.Reads op := fun _ => id
  refine Uses.bind trivial fun _ => Uses.bind (uses_nodeIsActive hreads) fun _ => ?_
  refine Uses.bind (uses_ensure.mpr trivial) fun _ => ?_
  refine Uses.bind (uses_requireCheckpoint hreads) fun _ => Uses.bind trivial fun _ => ?_
  refine Uses.bind trivial fun _ => Uses.bind trivial fun _ => ?_
  refine Uses.bind (uses_requireWorkload hreads) fun _ => Uses.bind trivial fun _ => ?_
  refine Uses.bind (uses_nodeRuntime hreads) fun _ => ?_
  refine Uses.bind (uses_ensure.mpr trivial) fun _ => Uses.bind trivial fun _ => ?_
  exact Uses.bind (uses_call.mpr trivial) fun _ => trivial

theorem obeys_admitRestore_checked {permits : List FabricDeed → Op → Prop}
    (hreads : ∀ ds op, Op.Reads op → permits ds op) :
    Obeys permits
      (fun ds result => ∀ run, result = .ok run →
        RestoreChecked settings checkpointId targetNode options ds run ∧
          ∃ nonce ds₀, run.attemptId = .restore checkpointId nonce ∧
            ds = ⟨.random, .ok nonce⟩ :: ds₀)
      ds (admitRestore settings checkpointId targetNode options ctx) := by
  have hpermits {ds : List FabricDeed} :
      ∀ (ds' : List FabricDeed) (op : Op), ds <:+ ds' → op.Reads → permits ds' op :=
    fun _ _ _ => hreads _ _
  have herror : ∀ (ds : List FabricDeed) (e : FabricError), ∀ run : RestoreRun,
      Except.error e = Except.ok run →
        RestoreChecked settings checkpointId targetNode options ds run ∧
          ∃ nonce ds₀, run.attemptId = .restore checkpointId nonce ∧
            ds = ⟨.random, .ok nonce⟩ :: ds₀ :=
    fun _ _ _ h => nomatch h
  unfold admitRestore
  refine obeys_ofExcept_bind herror fun _ _ => ?_
  refine obeys_uses_bind herror (uses_nodeIsActive fun _ => id) hpermits fun _ active _ => ?_
  refine obeys_ensure_bind herror fun _ => ?_
  refine Obeys.bind herror (obeys_requireCheckpoint (hreads _ _ trivial)) fun ds₁ ckpt hckpt => ?_
  refine obeys_ofExcept_bind herror fun _ hrestorable => ?_
  refine obeys_ofExcept_bind herror fun _ _ => obeys_ofExcept_bind herror fun _ _ => ?_
  refine Obeys.bind herror (obeys_requireWorkload (hreads _ _ trivial)) fun ds₂ workload hw => ?_
  refine obeys_ofExcept_bind herror fun _ hclaim => ?_
  refine obeys_uses_bind herror (uses_nodeRuntime fun _ => id) hpermits fun ds₃ target hds₃ => ?_
  refine obeys_ensure_bind herror fun _ => obeys_ofExcept_bind herror fun _ _ => ?_
  refine obeys_call_bind herror (hreads _ _ trivial) fun nonce => ?_
  -- All checks have passed; the run is put together from what they read.
  intro run hrun
  obtain rfl := Except.ok.inj hrun
  subst hckpt hw
  have hmem : ∀ d, d ∈ ds₃ → d ∈ (⟨.random, .ok nonce⟩ :: ds₃ : List FabricDeed) :=
    fun _ => List.mem_cons_of_mem _
  refine ⟨?_, nonce, ds₃, rfl, rfl⟩
  exact
    { target := rfl
      options_eq := rfl
      read := hmem _ (hds₃.subset (.tail _ (.head _)))
      restorable := hrestorable
      claim := ⟨workload, hmem _ (hds₃.subset (.head _)), hclaim⟩ }

/-- Admission only reads; it ends with the draw of the nonce. -/
theorem obeys_admitRestore {permits : List FabricDeed → Op → Prop}
    (hreads : ∀ ds op, Op.Reads op → permits ds op) :
    Obeys permits
      (fun ds' result => ∀ run, result = .ok run →
        RestoreAdmitted settings checkpointId targetNode options ds ds' run ∧
          Within restoreTimetable (drawsAttempt run.attemptId) 0 ds')
      ds (admitRestore settings checkpointId targetNode options ctx) := by
  have hquiet : Obeys (fun _ _ => True)
      (fun ds' _ => ∀ d : FabricDeed, d ∈ ds' → d.op.Reads ∨ d ∈ ds) ds
      (admitRestore settings checkpointId targetNode options ctx) := by
    refine Obeys.of_uses uses_admitRestore (fun ds' op hop h => ⟨trivial, fun reply d hd => ?_⟩)
      fun d hd => .inr hd
    rcases List.mem_cons.mp hd with rfl | hd
    · exact .inl hop
    · exact h d hd
  refine ((obeys_admitRestore_checked hreads).and hquiet).mono (fun _ _ h => h.1)
    fun ds' result h run hrun => ?_
  obtain ⟨hchecked, nonce, ds₀, hid, rfl⟩ := h.1 run hrun
  refine ⟨{ hchecked with
    drawn := ⟨nonce, ds₀, hid, List.suffix_refl _, fun d hd => h.2 d (.tail _ hd)⟩ }, ?_⟩
  refine within_of_mark ?_
  simp [hid, drawsAttempt, drawsId, AttemptId.nonce]

/-- No node was asked to restore, or the restore that asked accounted for it. -/
def Concluded (ds : List FabricDeed) : Prop :=
  Unasked ds ∨ ∃ run : RestoreRun, AskedFor run.attemptId ds ∧ run.Accounted ds

/-- The program asks no node to restore. -/
def AsksNone {α : Type} (ds : List FabricDeed) (p : Fabric α) : Prop :=
  Obeys (fun _ _ => True) (fun ds' _ => Unasked ds → Unasked ds') ds p

theorem AsksNone.of_uses {α : Type} {p : Fabric α}
    (huses : Uses (fun op : Op => op.restoreKey = none) p) : AsksNone ds p :=
  Obeys.of_uses huses (fun _ _ hop hds => ⟨trivial, fun _ h => (hds h).cons hop⟩) id

theorem AsksNone.of_reads {α : Type} {p : Fabric α} (huses : Uses Op.Reads p) : AsksNone ds p :=
  .of_uses (huses.mono fun _ => Op.restoreKey_of_reads)

theorem AsksNone.of_obeys {α : Type} {permits : List FabricDeed → Op → Prop}
    {conclude : List FabricDeed → FabricResult α → Prop} {p : Fabric α}
    (h : Obeys permits conclude ds p)
    (hpermits : ∀ ds op, permits ds op → op.restoreKey = none) : AsksNone ds p := by
  have hkept : Obeys permits (fun ds' result => conclude ds' result ∧ (Unasked ds → Unasked ds'))
      ds p :=
    h.preserves (fun ds' op hop hds _ hnone => (hds hnone).cons (hpermits ds' op hop)) id
  exact hkept.mono (fun _ _ _ => trivial) fun _ _ h => h.2

/-- What comes after a part that asks no node. -/
theorem AsksNone.bind {α β : Type} {permits : List FabricDeed → Op → Prop}
    {middle : List FabricDeed → FabricResult α → Prop} {p : Fabric α} {f : α → Fabric β}
    (hnone : AsksNone ds p) (hp : Obeys permits middle ds p)
    (hf : ∀ ds' a, middle ds' (.ok a) →
      Obeys permits (fun ds'' _ => Unasked ds' → Concluded ds'') ds' (f a)) :
    Obeys permits (fun ds' _ => Unasked ds → Concluded ds') ds (p >>= f) := by
  rw [obeys_bind]
  refine (hp.and hnone).mono (fun _ _ h => h.1) fun ds' result h => ?_
  cases result with
  | error e => exact fun hds => .inl (h.2 hds)
  | ok a => exact (hf ds' a h.1).weaken fun _ _ hconcluded hds => hconcluded (h.2 hds)

/-- What comes after reads. -/
theorem obeys_reads_bind_concluded {α β : Type} {permits : List FabricDeed → Op → Prop}
    {p : Fabric α} {f : α → Fabric β} (huses : Uses Op.Reads p)
    (hreads : ∀ ds' op, ds <:+ ds' → Op.Reads op → permits ds' op)
    (hf : ∀ ds' a, Obeys permits (fun ds'' _ => Unasked ds' → Concluded ds'') ds' (f a)) :
    Obeys permits (fun ds' _ => Unasked ds → Concluded ds') ds (p >>= f) :=
  (AsksNone.of_reads huses).bind (Obeys.extend huses hreads) fun ds' a _ => hf ds' a

theorem RestoreRun.Told.concluded {run : RestoreRun} {result : FabricResult OperationOutcome}
    (h : run.Told ds result) (hresult : ∀ e, result = .error e → e.isPanic) : Concluded ds := by
  obtain ⟨hasked, hnone | ⟨detail, happlied⟩ | ⟨e, he, hpanics⟩⟩ := h
  · exact .inl hnone
  · exact .inr ⟨run, hasked, .applied happlied⟩
  · obtain ⟨d, hd, hpanic⟩ := hpanics (hresult e he)
    exact .inr ⟨run, hasked, .panicked hd hpanic⟩

/-- A restore only reads until it is admitted, and then performs the operations of its run. If
it is the first to ask a node, it accounts for that. -/
theorem obeys_requestRestore :
    Obeys (RestorePermits settings checkpointId targetNode options ds)
      (fun ds' _ => Unasked ds → Concluded ds') ds
      (requestRestore settings checkpointId targetNode options ctx) := by
  unfold requestRestore
  refine (AsksNone.of_reads uses_admitRestore).bind (obeys_admitRestore fun _ _ => .inl)
    fun ds₁ run hrun => ?_
  obtain ⟨hadmitted₁, hwithin⟩ := hrun run rfl
  refine (AsksNone.of_uses uses_reserveRestore).bind (obeys_reserveRestore hadmitted₁ hwithin)
    fun ds₂ u hreserved => ?_
  obtain ⟨hadmitted, hbegun, hat⟩ := hreserved u rfl
  unfold mapErr Program.onError
  rw [obeys_andThen]
  have htold : Obeys (fun _ _ => True) (fun ds' result => Unasked ds₂ → run.Told ds' result) ds₂
      (executeRestore settings run) := by
    by_cases hnone : Unasked ds₂
    · exact (obeys_executeRestore_told hnone).weaken fun _ _ h _ => h
    · exact (Obeys.extend (Uses.of_true _) fun _ _ _ _ => trivial).weaken
        fun _ _ _ h => absurd h hnone
  refine ((obeys_executeRestore hadmitted hbegun hat).extends.and htold).mono (fun _ _ h => h.1)
    fun ds₃ result h₃ => ?_
  obtain ⟨⟨hsuffix, -⟩, htold⟩ := h₃
  cases result with
  | ok a => exact fun h => (htold h).concluded fun e he => nomatch he
  | error e =>
    refine obeys_andThen.mpr (obeys_ite (fun hpanic h => ?_) fun _ => ?_)
    · exact (htold h).concluded fun e' he => Except.error.inj he ▸ hpanic
    · have hlast : run.At ds₃ 2 ds₃ := ⟨List.suffix_refl ds₃, within_of_last restorePhase_le⟩
      have habort : Obeys (RestorePermits settings checkpointId targetNode options ds)
          (fun ds' _ => run.Accounted ds') ds₃ (abortRestoreAttempt run s!"restore failed: {e}") :=
        obeys_abortRestoreAttempt (hadmitted.mono hsuffix) (hbegun.mono hsuffix) hlast
      have hasked : Obeys (fun _ _ => True)
          (fun ds' _ => AskedFor run.attemptId ds₃ → AskedFor run.attemptId ds') ds₃
          (abortRestoreAttempt run s!"restore failed: {e}") :=
        Obeys.of_uses uses_abortRestoreAttempt_untold (fun _ _ hop hds => ⟨trivial, fun _ h =>
          (hds h).cons fun k hk => nomatch hop.symm.trans hk⟩) id
      rw [Program.ignore, obeys_andThen]
      refine (habort.and hasked).mono (fun _ _ h => h.1) fun ds₄ _ h₄ h => ?_
      exact .inr ⟨run, h₄.2 (htold h).1, h₄.1⟩

end Request

end CheckpointFabric.Coordinator
