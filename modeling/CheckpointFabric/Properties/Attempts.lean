import CheckpointFabric.Footprints.Outcome
import CheckpointFabric.Steps.Attempts

/-!
# The recorded outcomes of attempts

The row of an attempt is opened ACTIVE, and leaves that state once: every call that records an
outcome records another one. It shows the times of the two calls, and when it shows a success, the
commit of the attempt is journaled.

## Main definitions

* `AttemptKind.commit` — the journal entry of the commit of an attempt
* `Op.Decides` — an outcome that is recorded is not ACTIVE
* `Op.Brings` — what a restore does until it is committed
* `Truthful` — what the row of an attempt says is so

## Main results

* `obeys_serve_decides` — every outcome that a request records is one
* `attempts_truthful` — in every state of every run; and what is decided stays so
-/

set_option autoImplicit false

namespace CheckpointFabric

open Concurrency Coordinator System

/-- The journal entry of the commit of an attempt. -/
def AttemptKind.commit : AttemptKind → JournalKind × JournalState
  | capture => (.capture, .dbCommitted)
  | restore | rollback => (.restore, .generationCommitted)

/-- An outcome that is recorded is not ACTIVE. -/
def Op.Decides : Op → Prop
  | .db (.attemptFinish _ state _ _) => state ≠ .active
  | _ => True

section Footprint

variable {settings : Settings} {op : Op}

theorem decides_of_unmarked (h : Unmarked op) : op.Decides := by
  cases op with
  | db op =>
    cases op with
    | attemptFinish => exact absurd h not_false
    | _ => trivial
  | _ => trivial

theorem decides_of_precommits (h : Precommits op) : op.Decides := by
  cases op with
  | db op =>
    cases op with
    | attemptFinish => exact absurd h not_false
    | _ => trivial
  | _ => trivial

theorem decides_of_reads (h : op.Reads) : op.Decides := decides_of_unmarked (unmarked_of_reads h)

section Capture

variable {run : CaptureRun} {workloadId : Id} {options : CaptureOptions} {ctx : OperationContext}

theorem uses_finishCapture_decides {ckpt : CheckpointObject} :
    Uses Op.Decides (finishCapture settings run ckpt) := by
  unfold finishCapture
  refine Uses.bind (uses_callNode (fun _ => decides_of_reads) trivial) fun answer => Uses.ite ?_ ?_
  · exact Uses.bind (uses_db (show AttemptState.resumeFailed ≠ .active by decide)) fun _ => trivial
  · refine Uses.bind (uses_db trivial) fun _ => ?_
    refine Uses.bind (uses_replicateToPolicy.mono fun _ h =>
      decides_of_unmarked (unmarked_of_tends h)) fun _ => ?_
    refine Uses.bind (uses_db (show AttemptState.committed ≠ .active by decide)) fun _ => ?_
    exact Uses.bind (uses_db trivial) fun _ => Uses.bind (uses_call.mpr trivial) fun _ => trivial

theorem uses_abortCaptureAttempt_decides {key : AttemptId} {id : Id} {detail : String} :
    Uses Op.Decides (abortCaptureAttempt key id workloadId detail) := by
  unfold abortCaptureAttempt
  refine Uses.bind (uses_db trivial) fun committed => Uses.bind (uses_db trivial) fun attempt => ?_
  have hfail : Uses Op.Decides (failAbortedCheckpoint id committed) := by
    refine Uses.bind (uses_db trivial) fun row => ?_
    cases row with
    | none => trivial
    | some ck => exact Uses.ite (uses_db trivial) trivial
  have hstate : (if committed then AttemptState.committed else .failed) ≠ .active := by
    cases committed <;> decide
  have hrest : Uses Op.Decides (do
      failAbortedCheckpoint id committed
      attemptFinish key (if committed then .committed else .failed)
        (if committed then some "capture committed before later failure" else none)
        (if committed then none else some detail)
      reservationRelease key) :=
    Uses.bind hfail fun _ => Uses.bind (uses_db hstate) fun _ => uses_db trivial
  cases attempt with
  | none => exact hrest
  | some a =>
    refine Uses.bind ?_ fun _ => hrest
    refine Uses.bind (uses_callNode (fun _ => decides_of_reads) trivial).ignore fun _ => ?_
    exact (uses_callNode (fun _ => decides_of_reads) trivial).ignore

theorem uses_requestCapture_decides :
    Uses Op.Decides (requestCapture settings workloadId options ctx) := by
  unfold requestCapture
  refine Uses.bind (uses_admitCapture.mono fun _ => decides_of_precommits) fun run => ?_
  refine Uses.bind (uses_reserveCapture.mono fun _ => decides_of_precommits) fun _ => ?_
  refine uses_mapErr ?_ fun _ => uses_abortCaptureAttempt_decides
  unfold executeCapture
  refine Uses.bind (uses_stageCapture.mono fun _ => decides_of_unmarked) fun ckpt => ?_
  refine Uses.bind (uses_sealCapture.mono fun _ => decides_of_precommits) fun sealed => ?_
  refine Uses.bind (uses_persistCapture.mono fun _ => decides_of_precommits) fun _ => ?_
  refine Uses.bind (uses_call.mpr trivial) fun _ => Uses.bind (uses_db trivial) fun _ => ?_
  exact uses_finishCapture_decides

end Capture

section Restore

variable {run : RestoreRun} {checkpointId : Id} {targetNode : NodeId} {options : RestoreOptions}
  {ctx : OperationContext}

/-- The operations of a restore until its generation is committed. -/
def Op.Brings : Op → Prop
  | .db (.checkpointSetLifecycle _ _ _) | .db (.journalAppend _ _ _ _)
  | .db (.checkpointAddLocation _ _) | .db (.restoreCommit _ _ _ _ _ _) | .call _ (.probe _)
  | .call _ (.allowFetch _) | .call _ (.replicate _) | .call _ (.restore _) => True
  | op => op.Reads

theorem brings_of_reads (h : op.Reads) : op.Brings := by
  unfold Op.Brings
  split <;> trivial

theorem decides_of_brings (h : op.Brings) : op.Decides := by
  unfold Op.Brings at h
  split at h <;> first | trivial | exact decides_of_reads h

theorem uses_provisionRestore_brings : Uses Op.Brings (provisionRestore run) := by
  unfold provisionRestore
  refine Uses.bind (uses_setLifecycle (fun _ => brings_of_reads) trivial) fun _ => ?_
  refine Uses.bind (uses_db trivial) fun _ => ?_
  refine Uses.bind (uses_callNode (fun _ => brings_of_reads) trivial) fun _ => ?_
  exact Uses.ite (uses_setLifecycle (fun _ => brings_of_reads) trivial)
    (Uses.bind (uses_ensureReplica (fun _ => brings_of_reads) (fun _ _ => trivial)
      (fun _ _ => trivial) fun _ => trivial) fun _ =>
        uses_setLifecycle (fun _ => brings_of_reads) trivial)

theorem uses_applyRestore_brings : Uses Op.Brings (applyRestore settings run) := by
  unfold applyRestore
  refine Uses.bind uses_okOr fun _ => ?_
  refine Uses.bind (uses_callNode (fun _ => brings_of_reads) trivial) fun _ => ?_
  exact Uses.bind (uses_ensure.mpr trivial) fun _ => uses_db trivial

theorem uses_commitRestore_brings : Uses Op.Brings (commitRestore run) := by
  have htoken : Uses Op.Brings (restoreToken run) := by
    unfold restoreToken
    split
    · trivial
    · exact uses_call.mpr trivial
  unfold commitRestore
  refine Uses.bind (uses_call.mpr trivial) fun _ => Uses.bind htoken fun _ => ?_
  refine Uses.bind (uses_db trivial) fun _ => Uses.bind (uses_db trivial) fun _ => ?_
  exact Uses.bind uses_okOr fun _ => Uses.bind (uses_call.mpr trivial) fun _ => trivial

theorem uses_executeRestore_decides : Uses Op.Decides (executeRestore settings run) := by
  have hstate (answer : FabricResult NodeResumeResult) :
      (if resumedBy run answer then AttemptState.committed else .committedNoResume) ≠ .active := by
    split <;> decide
  unfold executeRestore
  refine Uses.bind (uses_provisionRestore_brings.mono fun _ => decides_of_brings) fun _ => ?_
  refine Uses.bind (uses_applyRestore_brings.mono fun _ => decides_of_brings) fun _ => ?_
  refine Uses.bind (uses_commitRestore_brings.mono fun _ => decides_of_brings) fun committed => ?_
  unfold finishRestore
  refine Uses.bind (uses_callNode (fun _ => decides_of_reads) trivial).attempt fun answer => ?_
  refine Uses.bind (uses_db trivial) fun _ => Uses.bind (uses_db (hstate answer)) fun _ => ?_
  exact Uses.bind (uses_db trivial) fun _ => Uses.bind (uses_call.mpr trivial) fun _ => trivial

theorem uses_abortRestoreAttempt_decides {detail : String} :
    Uses Op.Decides (abortRestoreAttempt run detail) :=
  uses_abortRestoreAttempt (fun _ => decides_of_reads) trivial (fun _ _ _ => id) trivial
    fun _ => trivial

theorem uses_requestRestore_decides :
    Uses Op.Decides (requestRestore settings checkpointId targetNode options ctx) := by
  unfold requestRestore
  refine Uses.bind (uses_admitRestore.mono fun _ => decides_of_reads) fun run => ?_
  refine Uses.bind ?_ fun _ =>
    uses_mapErr uses_executeRestore_decides fun _ => uses_abortRestoreAttempt_decides
  exact Uses.bind (uses_db trivial) fun _ => Uses.bind (uses_db trivial) fun _ => uses_db trivial

theorem uses_migrate_decides {depth : ℕ} :
    Uses Op.Decides (Coordinator.migrate settings depth checkpointId targetNode ctx) := by
  induction depth generalizing checkpointId with
  | zero => trivial
  | succ depth ih =>
    unfold Coordinator.migrate
    refine Uses.bind trivial fun _ => ?_
    refine Uses.bind (uses_requireCheckpoint fun _ => decides_of_reads) fun ckpt => ?_
    refine Uses.bind (uses_requireWorkload fun _ => decides_of_reads) fun workload => ?_
    refine Uses.bind trivial fun _ => Uses.ite ?_ uses_requestRestore_decides
    refine Uses.bind (uses_nodeIsActive fun _ => decides_of_reads) fun active => ?_
    refine Uses.bind (uses_ensure.mpr trivial) fun _ => ?_
    exact Uses.bind uses_requestCapture_decides fun captured => Uses.bind uses_okOr fun newId => ih

end Restore

/-- Every outcome that a request records is one. -/
theorem obeys_serve_decides (request : Request) :
    Obeys (fun _ => Op.Decides) (fun _ _ => True) [] (request.serve settings) := by
  have hobeys {α : Type} {p : Fabric α} {f : α → Response} (h : Uses Op.Decides p) :
      Obeys (fun _ => Op.Decides) (fun _ _ => True) [] (Request.answer p f) :=
    obeys_answer ((Obeys.extend h fun _ _ _ => id).weaken fun _ _ _ => trivial)
  cases request with
  | capture => exact hobeys uses_requestCapture_decides
  | restore => exact hobeys uses_requestRestore_decides
  | rollback => exact hobeys (Uses.bind trivial fun _ => uses_requestRestore_decides)
  | migrate => exact hobeys uses_migrate_decides
  | recovery ctx =>
    refine (obeys_serve (.recovery ctx)).mono (fun ds op h => ?_) fun _ _ => id
    cases op with
    | db op =>
      cases op with
      | attemptFinish key state result error =>
        obtain hreads | ⟨a, -, -, hverdict⟩ := h
        · exact absurd hreads not_false
        · cases hverdict <;> exact fun h => nomatch h
      | _ => trivial
    | _ => trivial
  | _ =>
    refine (obeys_serve _).mono (fun ds op h => ?_) fun _ _ => id
    cases op with
    | db op =>
      cases op with
      | attemptFinish =>
        simp [Request.Permits, Forks, Rebinds, MonitorWrites, Op.Reads, StoreOp.Reads] at h
      | _ => trivial
    | _ => trivial

end Footprint

section Rows

variable {settings : Settings} {t t' : List (Event (fabric settings))}
  {e : Event (fabric settings)} {tid : ℕ} {key : AttemptId} {a : AttemptRecord}

/-- Where the row of an attempt comes from, when a call at time `now` has left it. -/
inductive LeftBy (key : AttemptId) (now : ℕ) (op : StoreOp) (row : Option AttemptRecord)
    (a : AttemptRecord) : Prop
  | kept : row = some a → LeftBy key now op row a
  | opened : op = .attemptBegin key a.kind a.checkpointId a.workloadId a.node →
    a.state = .active → a.startedMs = now → a.finishedMs = none → LeftBy key now op row a
  | finished {a₀ : AttemptRecord} {state : AttemptState} {result error : Option String} :
    op = .attemptFinish key state result error → row = some a₀ →
    a = { a₀ with state, result, error, finishedMs := some now } → LeftBy key now op row a

theorem leftBy_of_run {op : StoreOp} {now : ℕ} {s s' : Store} {reply : op.Reply}
    (h : op.run now s = .ok (reply, s')) (ha : s'.attempts.get key = some a) :
    LeftBy key now op (s.attempts.get key) a := by
  -- Only two operations write the table of the attempts.
  by_cases hwrites : op.writesAttempts
  · cases op
    case attemptBegin id kind checkpointId workloadId node =>
      obtain rfl := StoreOp.snd_of_ok h
      unfold Store.attemptBegin at ha
      split at ha
      · rw [Table.get_insert] at ha
        split at ha
        · rename_i hid
          obtain rfl : id = key := hid
          obtain rfl := Option.some.inj ha
          exact .opened rfl rfl rfl rfl
        · exact .kept ha
      · exact .kept ha
    case attemptFinish id state result error =>
      obtain rfl := StoreOp.snd_of_ok h
      rw [Store.attemptFinish, Table.get_modify] at ha
      split at ha
      · rename_i hid
        subst hid
        obtain ⟨a₀, hrow, rfl⟩ := Option.map_eq_some_iff.mp ha
        exact .finished rfl hrow rfl
      · exact .kept ha
    all_goals exact absurd hwrites not_false
  · rw [(StoreOp.frame_of_run h).attempts hwrites] at ha
    exact .kept ha

/-- The row of an attempt after an event: a call has left it, or it is the row before. -/
theorem leftBy_cases (h : Run (e :: t)) (ha : (after e).attempt key = some a) :
    (∃ tid op reply, Calls e t tid op reply ∧
      LeftBy key (stateOf t).clock op ((stateOf t).attempt key) a) ∨
    (stateOf t).attempt key = some a := by
  rcases calls_or_leavesTables h with ⟨tid, op, reply, -, hcalls⟩ | ⟨⟨workloads, hsame⟩, -⟩
  · exact .inl ⟨tid, op, reply, hcalls, leftBy_of_run hcalls.run ha⟩
  · rw [World.attempt, hsame] at ha
    exact .inr ha

/-- An outcome that is recorded is not ACTIVE. -/
theorem outcome_of_calls {state : AttemptState} {result error : Option String} (h : Run (e :: t))
    (hcalls : Calls e t tid (.attemptFinish key state result error) ()) : state ≠ .active := by
  obtain ⟨input, rfl, -⟩ := hcalls
  obtain ⟨request, -, hdecides⟩ := h.permitted obeys_serve_decides
  exact hdecides

/-- When a success is recorded, the commit of the attempt is journaled. -/
theorem commit_of_finished {state : AttemptState} {result error : Option String} (h : Run (e :: t))
    (hcalls : Calls e t tid (.attemptFinish key state result error) ())
    (hfailed : state ≠ .failed) (ha : (stateOf t).attempt key = some a) :
    Journaled t a.kind.commit.1 key a.kind.commit.2 := by
  have hid : a.id = key := Table.key_of_get ha
  obtain ⟨request, hrequest, hwriter⟩ := hcalls.writer h not_false
  cases hwriter with
  | @capture _ _ run hasks hdoes hwrites =>
    obtain rfl : key = run.attemptId := hwrites
    have hkind : a.kind = .capture := by
      cases opened_of_run h.tail ha with
      | capture _ _ hkind => exact hkind
      | restore _ hid' =>
        obtain ⟨workloadId, nonce, ds₀, hdrawn⟩ := (Captures.of_does hrequest hasks hdoes).drawn
        cases hdrawn.attemptId.symm.trans (hid.symm.trans hid')
    have hsettles : run.Settles (deeds tid t) state := hdoes.backed
    rw [CaptureRun.Settles, if_neg hfailed] at hsettles
    rw [hkind]
    -- The capture has found its commit in the journal, or has just made it.
    rcases hsettles with hlooked | hcommit
    · exact journaled_of_looked h.tail hlooked
    · obtain ⟨e', t', hsuffix, hcalls'⟩ := exists_calls_of_mem h.tail hcommit
      exact journaled_of_suffix h.tail hsuffix
        ((StoreOp.journaled_of_run hcalls'.run).mpr (.inr ⟨rfl, rfl, rfl⟩))
  | @restore _ _ _ _ run hdoes hwrites hrestores =>
    obtain rfl : key = run.attemptId := hwrites
    have hkind : a.kind ≠ .capture := by
      cases opened_of_run h.tail ha with
      | capture hcaptures hid' =>
        obtain ⟨workloadId, nonce, ds₀, hdrawn⟩ := hcaptures.drawn
        obtain ⟨nonce', ds₀', hattempt, -⟩ := hdoes.admitted.drawn
        cases hattempt.symm.trans (hid.symm.trans (hid'.trans hdrawn.attemptId))
      | restore _ _ hkind => exact hkind
    have hcommitted : Journaled t .restore run.attemptId .generationCommitted := by
      have hsettles : run.Settles (deeds tid t) state := hdoes.backed
      rw [RestoreRun.Settles, if_neg hfailed] at hsettles
      -- So has the restore.
      rcases hsettles with hlooked | ⟨token, d, hd, hcommits⟩
      · exact journaled_of_looked h.tail hlooked
      · exact journaled_of_commits h.tail hd hcommits
    cases hk : a.kind with
    | capture => exact absurd hk hkind
    | restore | rollback => exact hcommitted
  | recovery hwrites hrecovery =>
    obtain ⟨a₀, hlisted, rfl, hverdict⟩ := hwrites
    -- Recovery judges the row that it has listed, which is of the kind of the row there is now.
    obtain ⟨t', hsuffix, ha₀⟩ := exists_attempt_of_listed h.tail hlisted
    obtain ⟨a', ha', hkind, -⟩ := attempt_of_suffix h.tail hsuffix ha₀
    obtain rfl := Option.some.inj (ha'.symm.trans ha)
    cases hverdict with
    | captured hcapture hcommit =>
      rw [hkind, hcapture]
      rcases hcommit with hlooked | ⟨d, hd, id, rfl⟩
      · exact journaled_of_looked h.tail hlooked
      · obtain ⟨e', t', hsuffix, hcalls'⟩ := exists_calls_of_mem h.tail hd
        exact journaled_of_suffix h.tail hsuffix
          ((StoreOp.journaled_of_run hcalls'.run).mpr (.inr ⟨rfl, rfl, rfl⟩))
    | restored hrestore hlooked =>
      have hcommitted := journaled_of_looked h.tail hlooked
      cases hk : a₀.kind with
      | capture => exact absurd hk hrestore
      | restore | rollback =>
        rw [hkind, hk]
        exact hcommitted
    | notCaptured | notRestored => exact absurd rfl hfailed
  | plain hwrites => exact absurd hwrites not_false

/-- What the row of an attempt says is so. -/
structure Truthful (t : List (Event (fabric settings))) (a : AttemptRecord) : Prop where
  started_le : a.startedMs ≤ (stateOf t).clock
  finished_iff : a.finishedMs = none ↔ a.state = .active
  finished_le : ∀ ms ∈ a.finishedMs, a.startedMs ≤ ms ∧ ms ≤ (stateOf t).clock
  committed : a.state ≠ .active → a.state ≠ .failed →
    Journaled t a.kind.commit.1 a.id a.kind.commit.2

theorem Truthful.cons (h : Run (e :: t)) (ha : Truthful t a) : Truthful (e :: t) a where
  started_le := ha.started_le.trans (clock_le_of_run h (List.suffix_cons e t))
  finished_iff := ha.finished_iff
  finished_le ms hms :=
    ⟨(ha.finished_le ms hms).1,
      (ha.finished_le ms hms).2.trans (clock_le_of_run h (List.suffix_cons e t))⟩
  committed hactive hfailed := journaled_cons h (ha.committed hactive hfailed)

theorem truthful_of_run (h : Run t) (ha : (stateOf t).attempt key = some a) : Truthful t a := by
  -- The induction is on the run: its last event has opened the attempt, finished it, or neither.
  induction t generalizing a with
  | nil => exact nomatch ha
  | cons e t ih =>
    have hclock := clock_le_of_run h (List.suffix_cons e t)
    rw [stateOf_cons] at ha
    rcases leftBy_cases h ha with ⟨tid, op, reply, hcalls, hleft⟩ | hold
    · cases hleft with
      | kept hold => exact (ih h.tail hold).cons h
      | opened _ hactive hstarted hfinished =>
        refine ⟨hstarted ▸ hclock, ⟨fun _ => hactive, fun _ => hfinished⟩, ?_,
          fun hnot => absurd hactive hnot⟩
        rw [hfinished]
        exact fun ms hms => nomatch hms
      | @finished a₀ state result error hop hold heq =>
        subst hop heq
        have htruthful := ih h.tail hold
        have hdecided := outcome_of_calls h hcalls
        refine ⟨htruthful.started_le.trans hclock,
          ⟨fun hnone => absurd hnone (Option.some_ne_none _),
            fun hactive => absurd hactive hdecided⟩, ?_, ?_⟩
        · rintro ms ⟨⟩
          exact ⟨htruthful.started_le, hclock⟩
        · intro _ hfailed
          have hid : a₀.id = key := Table.key_of_get hold
          have hcommitted := commit_of_finished h hcalls hfailed hold
          rw [← hid] at hcommitted
          exact journaled_cons h hcommitted
    · exact (ih h.tail hold).cons h

/-- A later row of the same attempt, which is decided if the earlier one was. -/
structure Continues (a a' : AttemptRecord) : Prop where
  kind_eq : a'.kind = a.kind
  checkpointId_eq : a'.checkpointId = a.checkpointId
  workloadId_eq : a'.workloadId = a.workloadId
  node_eq : a'.node = a.node
  startedMs_eq : a'.startedMs = a.startedMs
  decided : a.state ≠ .active → a'.state ≠ .active

/-- An attempt that has a row is not opened again. -/
theorem attemptBegin_of_get {s : Store} {kind : AttemptKind} {checkpointId workloadId : Option Id}
    {node : NodeId} {now : ℕ} (h : s.attempts.get key = some a) :
    s.attemptBegin key kind checkpointId workloadId node now = s := by
  rw [Store.attemptBegin, dif_neg]
  rw [h]
  exact Option.some_ne_none a

theorem continues_of_suffix (h : Run t) (hsuffix : t' <:+ t)
    (ha : (stateOf t').attempt key = some a) :
    ∃ a', (stateOf t).attempt key = some a' ∧ Continues a a' := by
  refine suffix_induction (P := fun past : List (Event (fabric settings)) =>
    ∃ a', (stateOf past).attempt key = some a' ∧ Continues a a') hsuffix
    ⟨a, ha, rfl, rfl, rfl, rfl, rfl, id⟩ ?_
  rintro e past - hpast ⟨a₁, ha₁, hcontinues⟩
  have hrun := h.of_suffix hpast
  obtain ⟨a₂, ha₂, -⟩ := attempt_of_suffix hrun (List.suffix_cons e past) ha₁
  rw [stateOf_cons] at ha₂ ⊢
  rcases leftBy_cases hrun ha₂ with ⟨tid, op, reply, hcalls, hleft⟩ | hold
  · rw [ha₁] at hleft
    cases hleft with
    | kept hold =>
      obtain rfl := Option.some.inj hold
      exact ⟨a₁, ha₂, hcontinues⟩
    | opened hop =>
      subst hop
      -- The key is in use, so nothing was opened.
      have hstore := StoreOp.snd_of_ok hcalls.run
      rw [attemptBegin_of_get ha₁] at hstore
      refine ⟨a₁, ?_, hcontinues⟩
      rw [World.attempt, ← hstore]
      exact ha₁
    | finished hop hold heq =>
      subst hop heq
      obtain rfl := Option.some.inj hold
      exact ⟨_, ha₂, { hcontinues with decided := fun _ => outcome_of_calls hrun hcalls }⟩
  · obtain rfl := Option.some.inj (ha₁.symm.trans hold)
    exact ⟨a₁, ha₂, hcontinues⟩

/-- At every point of every run the row of an attempt tells the truth: when it was opened and
finished, and that a success was committed. From there on it is a row of the same attempt, and once
it is decided it is never ACTIVE again. That the times are in order rests on a clock that is never
set back. -/
theorem attempts_truthful (h : Run t) (hsuffix : t' <:+ t)
    (ha : (stateOf t').attempt key = some a) :
    Truthful t' a ∧ ∃ a', (stateOf t).attempt key = some a' ∧ Continues a a' :=
  ⟨truthful_of_run (h.of_suffix hsuffix) ha, continues_of_suffix h hsuffix ha⟩

/-- The capture of the small fabric. -/
theorem attempts_truthful_captured :
    ∃ a, (stateOf (exec Demo.captured).trace).attempt (.capture 7 1) = some a ∧
      a.state = .committed ∧ Truthful (exec Demo.captured).trace a := by
  obtain ⟨a, ha, hstate⟩ := Option.map_eq_some_iff.mp (show
    ((stateOf (exec Demo.captured).trace).attempt (.capture 7 1)).map (·.state) =
      some .committed by decide +kernel)
  exact ⟨a, ha, hstate,
    (attempts_truthful (exec_run Demo.captured) (List.suffix_refl _) ha).1⟩

end Rows

end CheckpointFabric
