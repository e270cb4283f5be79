import CheckpointFabric.Steps.Images
import CheckpointFabric.Steps.Rows

/-!
# The commits of restores along a run

The generation commit of a restore belongs to an attempt that was opened for the workload
of its checkpoint, and no attempt commits twice. It is the only event that changes what
the three tables count: the generation of the workload, the restores of the checkpoint,
and the journal.

## Main definitions

* `Restored` — the event commits a restore
* `RestoresOf` — the event commits a restore of a checkpoint of the workload

## Main results

* `Restored.exists_attempt` — the attempt of a commit has a row, and is not journaled yet
* `journaled_generationCommitted_iff` — a commit is journaled by itself only
* `workloadGeneration_cases`, `restoreCounts_cases`, `attemptRows_cases` — what an event does to the
  tables that count restores
-/

set_option autoImplicit false

namespace CheckpointFabric

open Concurrency Coordinator System

variable {settings : Settings} {t t' : List (Event (fabric settings))}
  {e : Event (fabric settings)} {tid : ℕ} {id workloadId : Id} {key : AttemptId}
  {c : CheckpointObject}

/-- The event commits the restore of checkpoint `id` under the attempt `key`. -/
def Restored (e : Event (fabric settings)) (past : List (Event (fabric settings))) (id : Id)
    (key : AttemptId) : Prop :=
  ∃ tid node token migration rollback,
    Calls e past tid (.restoreCommit id key node token migration rollback) ()

/-- A commit found its rows. -/
theorem Restored.committed (h : Restored e t id key) :
    ∃ node token migration c w, (stateOf t).store.RestoreCommitted id key node token migration
      (after e).store c w := by
  obtain ⟨tid, node, token, migration, rollback, hcalls⟩ := h
  obtain ⟨c, w, hcommit⟩ := Store.restoreCommit_ok (StoreOp.of_map_ok hcalls.run)
  exact ⟨node, token, migration, c, w, hcommit⟩

/-- A commit is one of an admitted restore of its checkpoint. -/
theorem Restored.does (h : Run (e :: t)) (hrestored : Restored e t id key) :
    ∃ tid target options start node token migration rollback run,
      Calls e t tid (.restoreCommit id key node token migration rollback) () ∧
      RestoreDoes settings id target options start (deeds tid t)
        (.db (.restoreCommit id key node token migration rollback)) run ∧
      run.ckpt.checkpointId = id ∧ run.attemptId = key := by
  obtain ⟨tid, node, token, migration, rollback, hcalls⟩ := hrestored
  obtain ⟨request, -, hwriter⟩ := hcalls.writer h not_false
  cases hwriter with
  | restore hdoes hwrites =>
    obtain ⟨hid, hkey, -⟩ := hwrites
    have hsame := hdoes.admitted.checkpointId_eq h.tail
    obtain rfl := hid.trans hsame
    exact ⟨tid, _, _, _, node, token, migration, rollback, _, hcalls, hdoes, hsame, hkey.symm⟩
  | capture _ _ hwrites | recovery hwrites | plain hwrites => exact absurd hwrites not_false

/-- No attempt commits twice. -/
theorem Restored.not_journaled (h : Run (e :: t)) (hrestored : Restored e t id key) :
    ¬ Journaled t .restore key .generationCommitted := by
  intro hj
  obtain ⟨e', t', tid', id', node, token, migration, rollback, hsuffix, hcalls⟩ :=
    exists_restoreCommit_of_journaled h.tail hj
  obtain ⟨tid₁, _, _, _, _, _, _, _, run₁, hcalls₁, hdoes₁, -, rfl⟩ :=
    Restored.does (h.tail.of_suffix hsuffix) ⟨tid', node, token, migration, rollback, hcalls⟩
  obtain ⟨nonce₁, ds₁, hattempt₁, hdrawn₁, -⟩ := hdoes₁.admitted.drawn
  have hdrawn : (⟨.random, .ok run₁.attemptId.nonce⟩ : FabricDeed) ∈ deeds tid₁ t' := by
    rw [hattempt₁]
    exact hdrawn₁.subset (.head _)
  have hreached : Reached restoreTimetable t run₁.attemptId 1 :=
    ⟨tid₁, _, deeds tid₁ t', hcalls₁.deeds_eq ▸ deeds_suffix hsuffix, hdrawn, 1, rfl, Nat.le_refl 1⟩
  -- The second commit would come when something is committed.
  obtain ⟨tid, _, _, _, _, _, _, _, run, -, hdoes, -, hkey⟩ := Restored.does h hrestored
  obtain ⟨nonce, ds₀, hattempt, hdrawn, -⟩ := hdoes.admitted.drawn
  rw [← hkey] at hreached
  have hle : 1 ≤ 0 :=
    hreached.le h.tail (hattempt ▸ hdrawn.subset (.head _)) hdoes.inTurn rfl
  exact absurd hle (by decide)

/-- The attempt of a commit was opened for a restore of the checkpoint's workload. -/
theorem Restored.exists_attempt (h : Run (e :: t)) (hrestored : Restored e t id key)
    (hc : (stateOf t).checkpoint id = some c) :
    ∃ a, (stateOf t).attempt key = some a ∧ a.kind ≠ .capture ∧
      a.workloadId = some c.workloadId := by
  obtain ⟨tid, _, _, _, _, _, _, _, run, -, hdoes, -, rfl⟩ := Restored.does h hrestored
  have hbegun : run.Begun id (deeds tid t) := hdoes.begun.resolve_left not_false
  obtain ⟨nonce, ds₀, hattempt, -⟩ := hdoes.admitted.drawn
  obtain ⟨a, ha⟩ := exists_attempt_of_opened h.tail hbegun.opened
  have hkey : a.id = run.attemptId := Table.key_of_get ha
  refine ⟨a, ha, ?_⟩
  cases opened_of_run h.tail ha with
  | capture hcaptures hid =>
    obtain ⟨workloadId, nonce', ds₀', hdrawn⟩ := hcaptures.drawn
    exact nomatch hdrawn.attemptId.symm.trans (hid.symm.trans (hkey.trans hattempt))
  | restore hc' hid hkind _ howner =>
    obtain ⟨rfl, -⟩ := AttemptId.restore.inj (hid.symm.trans (hkey.trans hattempt))
    obtain rfl := Option.some.inj (hc'.symm.trans hc)
    exact ⟨hkind, howner⟩

/-- The commit of a generation is journaled by itself only. -/
theorem journaled_generationCommitted_iff (h : Run (e :: t)) :
    Journaled (e :: t) .restore key .generationCommitted ↔
      Journaled t .restore key .generationCommitted ∨ ∃ id, Restored e t id key := by
  constructor
  · intro hj
    rcases journaled_cases h hj with hold | ⟨tid, op, reply, hop, hcalls, hmarks⟩
    · exact .inl hold
    · obtain ⟨id, node, token, migration, rollback, hcommit⟩ :=
        restoreCommit_of_marks h hop hcalls hmarks
      exact .inr ⟨id, tid, node, token, migration, rollback, hcommit⟩
  · rintro (hj | ⟨id, tid, node, token, migration, rollback, hcalls⟩)
    · exact journaled_cons h hj
    · exact (StoreOp.journaled_of_run hcalls.run).mpr (.inr (.inl ⟨rfl, rfl, rfl⟩))

section Counts

/-- The event commits a restore of a checkpoint of the workload. -/
def RestoresOf (e : Event (fabric settings)) (past : List (Event (fabric settings)))
    (workloadId : Id) : Prop :=
  ∃ id key c, Restored e past id key ∧ (stateOf past).checkpoint id = some c ∧
    c.workloadId = workloadId

/-- An event restores one checkpoint at most. -/
theorem Restored.unique {id' : Id} {key' : AttemptId} (h : Restored e t id key)
    (h' : Restored e t id' key') : id = id' ∧ key = key' := by
  obtain ⟨tid, node, token, migration, rollback, hcalls⟩ := h
  obtain ⟨tid', node', token', migration', rollback', hcalls'⟩ := h'
  obtain ⟨rfl, rfl, -⟩ := StoreOp.restoreCommit.inj (hcalls.op_eq hcalls')
  exact ⟨rfl, rfl⟩

theorem Restored.restoresOf_iff (h : Restored e t id key)
    (hc : (stateOf t).checkpoint id = some c) : RestoresOf e t workloadId ↔ c.workloadId = workloadId := by
  constructor
  · rintro ⟨id', key', c', h', hc', howner⟩
    obtain ⟨rfl, -⟩ := h.unique h'
    obtain rfl := Option.some.inj (hc'.symm.trans hc)
    exact howner
  · exact fun howner => ⟨id, key, c, h, hc, howner⟩

/-- The restores of the workload's checkpoints, as their rows count them. -/
def World.restoreCounts (w : World) (workloadId : Id) : ℕ :=
  ((w.checkpointRows.filter fun c => c.workloadId = workloadId).map (·.restoreCount)).sum

/-- The restore attempts of the workload whose commit is journaled. -/
def World.restoresJournaled (w : World) (workloadId : Id) : ℕ :=
  w.store.attempts.rows.countP fun a => a.kind ≠ .capture ∧ a.workloadId = some workloadId ∧
    w.store.journalHas .restore a.id .generationCommitted

section Checkpoints

/-- Rows that count the same restores of the same workload. -/
def SameCount (c c' : CheckpointObject) : Prop :=
  c'.workloadId = c.workloadId ∧ c'.restoreCount = c.restoreCount

/-- Only the commit of a restore changes what the row of a checkpoint counts. -/
theorem sameCount_cons (h : Run (e :: t)) (hno : ∀ id key, ¬ Restored e t id key)
    (hc : (stateOf t).checkpoint id = some c) :
    ∃ c', (after e).checkpoint id = some c' ∧ SameCount c c' := by
  rcases checkpoint_cases h id with ⟨tid, op, reply, hop, hcalls, hstep⟩ | hsame
  · rw [hc] at hstep
    generalize hrow : (after e).checkpoint id = row at hstep
    cases hstep with
    | updated hid =>
      obtain ⟨request, hrequest, hwriter⟩ := hcalls.writer h hop
      have hunused := (early_of_writer (.inr rfl) hwriter).unused
      have hearly := (earlyOrPersisted_of_run h.tail id c hc).resolve_right fun hpersisted =>
        (late_of_writer h.tail hrequest hwriter hc hpersisted).1 _ hid rfl
      exact ⟨_, rfl, rfl, hunused.restoreCount.trans hearly.unused.restoreCount.symm⟩
    | captured _ hlinks | relinked _ _ hlinks =>
      obtain ⟨supersedes, supersededBy, rfl⟩ := hlinks
      exact ⟨_, rfl, rfl, rfl⟩
    | restored => exact absurd ⟨tid, _, _, _, _, hcalls⟩ (hno _ _)
    | _ => exact ⟨_, rfl, rfl, rfl⟩
  · exact ⟨c, hsame.trans hc, rfl, rfl⟩

theorem restoreCounts_eq_of_sameCount {w w' : World}
    (h : List.Forall₂ SameCount w.checkpointRows w'.checkpointRows) (workloadId : Id) :
    w'.restoreCounts workloadId = w.restoreCounts workloadId := by
  unfold World.restoreCounts
  generalize w.checkpointRows = rows at h ⊢
  generalize w'.checkpointRows = rows' at h ⊢
  induction h with
  | nil => rfl
  | cons hsame _ ih =>
    obtain ⟨howner, hcount⟩ := hsame
    simp only [List.filter_cons, howner]
    split
    · rw [List.map_cons, List.map_cons, List.sum_cons, List.sum_cons, ih, hcount]
    · exact ih

/-- The rows count one more restore of a workload with every commit, and none otherwise. -/
theorem restoreCounts_cases (h : Run (e :: t)) (workloadId : Id) :
    RestoresOf e t workloadId ∧
        (after e).restoreCounts workloadId = (stateOf t).restoreCounts workloadId + 1 ∨
      ¬ RestoresOf e t workloadId ∧
        (after e).restoreCounts workloadId = (stateOf t).restoreCounts workloadId := by
  by_cases hcommits : ∃ id key, Restored e t id key
  · obtain ⟨id, key, hrestored⟩ := hcommits
    obtain ⟨node, token, migration, c, w, hcommit⟩ := hrestored.committed
    rw [hrestored.restoresOf_iff hcommit.found]
    obtain ⟨older, newer, hrows, hrows'⟩ := Table.rows_modify_of_get hcommit.found
    rw [← hcommit.checkpoints] at hrows'
    unfold World.restoreCounts World.checkpointRows
    rw [hrows, hrows']
    by_cases howner : c.workloadId = workloadId
    · refine .inl ⟨howner, ?_⟩
      simp [howner]
      omega
    · exact .inr ⟨howner, by simp [howner]⟩
  · have hno : ∀ id key, ¬ Restored e t id key := fun id key hr => hcommits ⟨id, key, hr⟩
    refine .inr ⟨fun ⟨id, key, c, hr, _⟩ => hno id key hr, ?_⟩
    rcases calls_or_leavesTables h with ⟨tid, op, reply, hop, hcalls⟩ | ⟨⟨workloads, hsame⟩, -⟩
    · rcases StoreOp.keys_of_run hcalls.run with ⟨c, hnew, rfl, -, hrows⟩ | hkeys
      · -- A new row has counted nothing.
        obtain ⟨request, -, hwriter⟩ := hcalls.writer h hop
        have hunused := (early_of_writer (.inl rfl) hwriter).unused
        unfold World.restoreCounts World.checkpointRows
        rw [hrows, Table.rows_insert, List.filter_append, List.map_append, List.sum_append]
        have hzero : ((([c].filter fun c => c.workloadId = workloadId)).map
            (·.restoreCount)).sum = 0 := by
          by_cases howner : c.workloadId = workloadId <;> simp [howner, hunused.restoreCount]
        rw [hzero, Nat.add_zero]
      · exact restoreCounts_eq_of_sameCount (Table.forall₂_rows_of_get hkeys fun id c hc =>
          sameCount_cons h hno hc) workloadId
    · unfold World.restoreCounts World.checkpointRows
      rw [hsame]

end Checkpoints

section Attempts

/-- Rows of the same attempt. -/
def SameAttempt (a a' : AttemptRecord) : Prop :=
  a'.id = a.id ∧ a'.kind = a.kind ∧ a'.workloadId = a.workloadId

/-- An event opens an attempt, or leaves every row one of the same attempt. -/
theorem attemptRows_cases (h : Run (e :: t)) :
    (∃ a, (stateOf t).attempt a.id = none ∧
      (after e).store.attempts.rows = (stateOf t).store.attempts.rows ++ [a]) ∨
    List.Forall₂ SameAttempt (stateOf t).store.attempts.rows (after e).store.attempts.rows := by
  have hkept (hkeys : (after e).store.attempts.keys = (stateOf t).store.attempts.keys) :
      List.Forall₂ SameAttempt (stateOf t).store.attempts.rows (after e).store.attempts.rows := by
    refine Table.forall₂_rows_of_get hkeys fun key a ha => ?_
    obtain ⟨a', ha', hsame⟩ := attempt_of_suffix h (List.suffix_cons e t) ha
    exact ⟨a', ha', (Table.key_of_get ha').trans (Table.key_of_get ha).symm, hsame⟩
  rcases calls_or_leavesTables h with ⟨tid, op, reply, -, hcalls⟩ | ⟨⟨workloads, hsame⟩, -⟩
  · rcases StoreOp.attempts_of_run hcalls.run with ⟨a, hnew, hrows⟩ | hkeys
    · exact .inl ⟨a, hnew, by rw [hrows, Table.rows_insert]⟩
    · exact .inr (hkept hkeys)
  · exact .inr (hkept (by rw [hsame]))

/-- A journaled commit has an attempt. -/
theorem exists_attempt_of_journaled (h : Run t)
    (hj : Journaled t .restore key .generationCommitted) :
    ∃ a, (stateOf t).attempt key = some a := by
  obtain ⟨e, t', tid, id, node, token, migration, rollback, hsuffix, hcalls⟩ :=
    exists_restoreCommit_of_journaled h hj
  have hrestored : Restored e t' id key := ⟨tid, node, token, migration, rollback, hcalls⟩
  obtain ⟨_, _, _, c, w, hcommit⟩ := hrestored.committed
  obtain ⟨a, ha, -⟩ := hrestored.exists_attempt (h.of_suffix hsuffix) hcommit.found
  obtain ⟨a', ha', -⟩ := attempt_of_suffix h ((List.suffix_cons e t').trans hsuffix) ha
  exact ⟨a', ha'⟩

theorem countP_eq_of_sameAttempt {rows rows' : List AttemptRecord}
    {p : AttemptRecord → Bool} (h : List.Forall₂ SameAttempt rows rows')
    (hp : ∀ a a', SameAttempt a a' → p a' = p a) : rows'.countP p = rows.countP p := by
  induction h with
  | nil => rfl
  | cons hsame _ ih => rw [List.countP_cons, List.countP_cons, ih, hp _ _ hsame]

/-- The journal says the same of an attempt that the event does not commit. -/
theorem journalHas_cons (h : Run (e :: t)) (hno : ∀ id, ¬ Restored e t id key) :
    (after e).store.journalHas .restore key .generationCommitted =
      (stateOf t).store.journalHas .restore key .generationCommitted := by
  rw [Bool.eq_iff_iff, Store.journalHas_eq_true_iff, Store.journalHas_eq_true_iff]
  refine (journaled_generationCommitted_iff h).trans (or_iff_left ?_)
  exact fun ⟨id, hr⟩ => hno id hr

/-- The attempts count one more restore of a workload with every commit, and none otherwise. -/
theorem restoresJournaled_cases (h : Run (e :: t)) (workloadId : Id) :
    RestoresOf e t workloadId ∧
        (after e).restoresJournaled workloadId = (stateOf t).restoresJournaled workloadId + 1 ∨
      ¬ RestoresOf e t workloadId ∧
        (after e).restoresJournaled workloadId = (stateOf t).restoresJournaled workloadId := by
  by_cases hcommits : ∃ id key, Restored e t id key
  · obtain ⟨id, key, hrestored⟩ := hcommits
    obtain ⟨_, _, _, c, w, hcommit⟩ := hrestored.committed
    obtain ⟨a, ha, hkind, howner⟩ := hrestored.exists_attempt h hcommit.found
    obtain rfl : a.id = key := Table.key_of_get ha
    obtain ⟨older, newer, hrows, holder, hnewer⟩ := Table.exists_rows_of_get ha
    -- The journal says something new of the attempt that commits, and of no other one.
    have hsame (rows : List AttemptRecord) (hne : ∀ a' ∈ rows, a'.id ≠ a.id) :
        (rows.countP fun a' => a'.kind ≠ .capture ∧ a'.workloadId = some workloadId ∧
          (after e).store.journalHas .restore a'.id .generationCommitted) =
        rows.countP fun a' => a'.kind ≠ .capture ∧ a'.workloadId = some workloadId ∧
          (stateOf t).store.journalHas .restore a'.id .generationCommitted := by
      refine List.countP_congr fun a' ha' => ?_
      rw [journalHas_cons h fun id' hr => hne a' ha' (hr.unique hrestored).2]
    have hbefore : (stateOf t).store.journalHas .restore a.id .generationCommitted = false :=
      Bool.eq_false_iff.mpr fun hj =>
        hrestored.not_journaled h (Store.journalHas_eq_true_iff.mp hj)
    have hafter : (after e).store.journalHas .restore a.id .generationCommitted = true :=
      Store.journalHas_eq_true_iff.mpr ((journaled_generationCommitted_iff h).mpr (.inr ⟨id, hrestored⟩))
    rw [hrestored.restoresOf_iff hcommit.found]
    unfold World.restoresJournaled
    rw [hcommit.attempts, hrows, List.countP_append, List.countP_append, List.countP_cons,
      List.countP_cons, hsame older holder, hsame newer hnewer]
    by_cases hworkload : c.workloadId = workloadId
    · refine .inl ⟨hworkload, ?_⟩
      simp [hbefore, hafter, hkind, howner, hworkload]
      omega
    · exact .inr ⟨hworkload, by simp [hbefore, howner, hworkload]⟩
  · have hno : ∀ id key, ¬ Restored e t id key := fun id key hr => hcommits ⟨id, key, hr⟩
    refine .inr ⟨fun ⟨id, key, c, hr, _⟩ => hno id key hr, ?_⟩
    have hsame (key : AttemptId) : (after e).store.journalHas .restore key .generationCommitted =
        (stateOf t).store.journalHas .restore key .generationCommitted :=
      journalHas_cons h fun id => hno id key
    unfold World.restoresJournaled
    simp only [hsame]
    rcases attemptRows_cases h with ⟨a, hnew, hrows⟩ | hrows
    · -- An attempt that is opened has committed nothing.
      have hfresh : (stateOf t).store.journalHas .restore a.id .generationCommitted = false := by
        refine Bool.eq_false_iff.mpr fun hj => ?_
        obtain ⟨a', ha'⟩ := exists_attempt_of_journaled h.tail (Store.journalHas_eq_true_iff.mp hj)
        exact nomatch hnew.symm.trans ha'
      rw [hrows, List.countP_append, List.countP_singleton, if_neg (by simp [hfresh]), Nat.add_zero]
    · exact countP_eq_of_sameAttempt hrows fun a a' hsame => by rw [hsame.1, hsame.2.1, hsame.2.2]

end Attempts

section Workloads

/-- The generation of a workload advances by one with every commit of a restore of it, and stays
otherwise. -/
theorem workloadGeneration_cases {r : Workload} (h : Run (e :: t))
    (hr : (stateOf t).workload workloadId = some r) :
    ∃ r', (after e).workload workloadId = some r' ∧
      (RestoresOf e t workloadId ∧ r'.workloadGeneration = r.workloadGeneration + 1 ∨
        ¬ RestoresOf e t workloadId ∧ r'.workloadGeneration = r.workloadGeneration) := by
  by_cases hrestores : RestoresOf e t workloadId
  · obtain ⟨id, key, c, hrestored, hc, rfl⟩ := hrestores
    obtain ⟨_, _, _, c', w, hcommit⟩ := hrestored.committed
    obtain rfl := Option.some.inj (hcommit.found.symm.trans hc)
    obtain rfl := Option.some.inj (hcommit.owner.symm.trans hr)
    have hrow := congrArg (fun workloads => workloads.get c'.workloadId) hcommit.workloads
    simp only [Table.get_modify_self, hcommit.owner, Option.map_some] at hrow
    exact ⟨_, hrow, .inl ⟨⟨id, key, c', hrestored, hc, rfl⟩, rfl⟩⟩
  · rcases calls_or_leavesTables h with ⟨tid, op, reply, -, hcalls⟩ | ⟨-, hclaims⟩
    · rcases workloadStep_of_run h workloadId with ⟨tid', op', input', he', hstep⟩ | hsame
      · obtain ⟨input, he, -⟩ := id hcalls
        obtain ⟨rfl, rfl, -⟩ := Event.performed.inj (he.symm.trans he')
        rw [hr] at hstep
        generalize hrow : (after e).workload workloadId = row at hstep
        cases hstep with
        | recorded hrecorded =>
          obtain ⟨generation, class_, rfl⟩ := hrecorded
          exact ⟨_, rfl, .inr ⟨hrestores, rfl⟩⟩
        | restored hc howner =>
          exact absurd ⟨_, _, _, ⟨tid, _, _, _, _, hcalls⟩, hc, howner⟩ hrestores
        | _ => exact ⟨_, rfl, .inr ⟨hrestores, rfl⟩⟩
      · exact ⟨r, hsame.trans hr, .inr ⟨hrestores, rfl⟩⟩
    · have hclaim := hclaims workloadId
      rw [hr] at hclaim
      obtain ⟨r', hr', node, token, epoch, rfl⟩ := Table.exists_of_rel_some hclaim
      exact ⟨_, hr', .inr ⟨hrestores, rfl⟩⟩

end Workloads

end Counts

end CheckpointFabric
