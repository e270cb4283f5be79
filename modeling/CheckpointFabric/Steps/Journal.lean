import CheckpointFabric.Steps.Captures

/-!
# Attempts and the journal along a run

An entry of the recovery journal is never removed, and was made by a call of the run. A
row of an attempt is never removed either, and says what the attempt was opened with.

## Main definitions

* `AttemptStep` — the changes of the row of an attempt
* `Opened` — a row that shows an admitted capture or restore

## Main results

* `exists_calls_of_journaled` — an entry was made by a call of the run
* `captures_of_persisted` — a capture that is journaled as persisted has written its image
* `opened_of_run` — every row of an attempt shows what it was opened with
-/

set_option autoImplicit false

namespace CheckpointFabric

open Concurrency Coordinator System

variable {settings : Settings} {t t' : List (Event (fabric settings))}
  {e : Event (fabric settings)} {tid : ℕ} {kind : JournalKind} {key : AttemptId}
  {state : JournalState}

theorem Calls.writer {op : StoreOp} {reply : op.Reply} (h : Run (e :: t))
    (hcalls : Calls e t tid op reply) (hop : ¬ op.Reads) :
    ∃ request, requestOf tid t = some request ∧ Writer settings request (deeds tid t) op := by
  obtain ⟨input, rfl, -⟩ := hcalls
  exact writer_of_run h hop

section Journal

/-- The recovery journal has the entry. -/
abbrev Journaled (t : List (Event (fabric settings))) (kind : JournalKind) (key : AttemptId)
    (state : JournalState) : Prop :=
  (stateOf t).store.Journaled kind key state

/-- An entry is new at the call that makes it. -/
theorem journaled_cases (h : Run (e :: t)) (hj : Journaled (e :: t) kind key state) :
    Journaled t kind key state ∨ ∃ tid op reply, ¬ op.Reads ∧ Calls e t tid op reply ∧
      op.Marks kind key state := by
  rcases calls_or_leavesTables h with ⟨tid, op, reply, hop, hcalls⟩ | ⟨⟨workloads, hsame⟩, -⟩
  · rcases (StoreOp.journaled_of_run hcalls.run).mp hj with hold | hmarks
    · exact .inl hold
    · exact .inr ⟨tid, op, reply, hop, hcalls, hmarks⟩
  · refine .inl ?_
    rw [Journaled, stateOf_cons, hsame] at hj
    exact hj

theorem journaled_cons (h : Run (e :: t)) (hj : Journaled t kind key state) :
    Journaled (e :: t) kind key state := by
  rcases calls_or_leavesTables h with ⟨tid, op, reply, -, hcalls⟩ | ⟨⟨workloads, hsame⟩, -⟩
  · exact (StoreOp.journaled_of_run hcalls.run).mpr (.inl hj)
  · rw [Journaled, stateOf_cons, hsame]
    exact hj

/-- An entry is never removed. -/
theorem journaled_of_suffix (h : Run t) (hsuffix : t' <:+ t) (hj : Journaled t' kind key state) :
    Journaled t kind key state :=
  suffix_induction (P := fun past : List (Event (fabric settings)) =>
    Journaled past kind key state) hsuffix hj fun _ _ _ hpast => journaled_cons (h.of_suffix hpast)

/-- An entry that was not there at some point was made by a call since then. -/
theorem exists_calls_of_journaled_since (h : Run t) (hsuffix : t' <:+ t)
    (hbefore : ¬ Journaled t' kind key state) (hj : Journaled t kind key state) :
    ∃ e past tid op reply, e :: past <:+ t ∧ t' <:+ past ∧ ¬ op.Reads ∧ Calls e past tid op reply ∧
      op.Marks kind key state := by
  refine suffix_induction (P := fun past : List (Event (fabric settings)) =>
    Journaled past kind key state → ∃ e past' tid op reply, e :: past' <:+ past ∧ t' <:+ past' ∧
      ¬ op.Reads ∧ Calls e past' tid op reply ∧ op.Marks kind key state) hsuffix
    (fun hj => absurd hj hbefore) ?_ hj
  intro e past hlater hpast ih hj
  rcases journaled_cases (h.of_suffix hpast) hj with hold | ⟨tid, op, reply, hop, hcalls, hmarks⟩
  · obtain ⟨e', past', tid, op, reply, hsuffix', hrest⟩ := ih hold
    exact ⟨e', past', tid, op, reply, hsuffix'.trans (List.suffix_cons e past), hrest⟩
  · exact ⟨e, past, tid, op, reply, List.suffix_refl _, hlater, hop, hcalls, hmarks⟩

/-- An entry was made by a call of the run. -/
theorem exists_calls_of_journaled (h : Run t) (hj : Journaled t kind key state) :
    ∃ e t' tid op reply, e :: t' <:+ t ∧ ¬ op.Reads ∧ Calls e t' tid op reply ∧
      op.Marks kind key state := by
  have hempty : ¬ Journaled ([] : List (Event (fabric settings))) kind key state :=
    fun ⟨_, hentry, _⟩ => List.not_mem_nil hentry
  obtain ⟨e, past, tid, op, reply, hsuffix, -, hrest⟩ :=
    exists_calls_of_journaled_since h (List.nil_suffix) hempty hj
  exact ⟨e, past, tid, op, reply, hsuffix, hrest⟩

/-- An entry that was found is there. -/
theorem journaled_of_looked (h : Run t) (hlooked : Looked (deeds tid t) kind key state true) :
    Journaled t kind key state := by
  have hreads : (StoreOp.journalHas kind key state).Reads := trivial
  obtain ⟨t', hsuffix, -, now, hrun⟩ := exists_store_of_read h hreads hlooked
  exact journaled_of_suffix h hsuffix
    (Store.journalHas_eq_true_iff.mp (Prod.mk.inj (Except.ok.inj hrun)).1)

/-- Only a metadata commit journals itself. -/
theorem captureCommit_of_marks {op : StoreOp} {reply : op.Reply} (h : Run (e :: t))
    (hop : ¬ op.Reads) (hcalls : Calls e t tid op reply)
    (hmarks : op.Marks .capture key .dbCommitted) :
    ∃ id, Calls e t tid (.captureCommit id key) () := by
  cases op with
  | captureCommit id key' =>
    obtain ⟨-, rfl, -⟩ := hmarks
    exact ⟨id, hcalls⟩
  | restoreCommit => rcases hmarks with ⟨hkind, -⟩ | ⟨-, hkind, -⟩ <;> exact nomatch hkind
  | journalAppend kind' key' state' detail =>
    obtain ⟨rfl, rfl, rfl⟩ := hmarks
    obtain ⟨request, -, hwriter⟩ := hcalls.writer h hop
    cases hwriter with
    | capture _ _ hwrites => simp [CaptureRun.Writes] at hwrites
    | restore _ hwrites => simp [RestoreRun.Writes] at hwrites
    | recovery hwrites | plain hwrites => exact absurd hwrites not_false
  | _ => exact absurd hmarks not_false

/-- So does only the commit of a generation. -/
theorem restoreCommit_of_marks {op : StoreOp} {reply : op.Reply} (h : Run (e :: t))
    (hop : ¬ op.Reads) (hcalls : Calls e t tid op reply)
    (hmarks : op.Marks .restore key .generationCommitted) :
    ∃ id node token migration rollback,
      Calls e t tid (.restoreCommit id key node token migration rollback) () := by
  cases op with
  | captureCommit => exact nomatch hmarks.1
  | restoreCommit id key' node token migration rollback =>
    rcases hmarks with ⟨-, rfl, -⟩ | ⟨-, hkind, -⟩
    · exact ⟨id, node, token, migration, rollback, hcalls⟩
    · exact nomatch hkind
  | journalAppend kind' key' state' detail =>
    obtain ⟨rfl, rfl, rfl⟩ := hmarks
    obtain ⟨request, -, hwriter⟩ := hcalls.writer h hop
    cases hwriter with
    | capture _ _ hwrites => simp [CaptureRun.Writes] at hwrites
    | restore _ hwrites => simp [RestoreRun.Writes] at hwrites
    | recovery hwrites | plain hwrites => exact absurd hwrites not_false
  | _ => exact absurd hmarks not_false

/-- A commit that is journaled was made by a commit transaction. -/
theorem exists_captureCommit_of_journaled (h : Run t)
    (hj : Journaled t .capture key .dbCommitted) :
    ∃ e t' tid id, e :: t' <:+ t ∧ Calls e t' tid (.captureCommit id key) () := by
  obtain ⟨e, t', tid, op, reply, hsuffix, hop, hcalls, hmarks⟩ := exists_calls_of_journaled h hj
  obtain ⟨id, hcommit⟩ := captureCommit_of_marks (h.of_suffix hsuffix) hop hcalls hmarks
  exact ⟨e, t', tid, id, hsuffix, hcommit⟩

/-- So was the commit of a generation. -/
theorem exists_restoreCommit_of_journaled (h : Run t)
    (hj : Journaled t .restore key .generationCommitted) :
    ∃ e t' tid id node token migration rollback, e :: t' <:+ t ∧
      Calls e t' tid (.restoreCommit id key node token migration rollback) () := by
  obtain ⟨e, t', tid, op, reply, hsuffix, hop, hcalls, hmarks⟩ := exists_calls_of_journaled h hj
  obtain ⟨id, node, token, migration, rollback, hcommit⟩ :=
    restoreCommit_of_marks (h.of_suffix hsuffix) hop hcalls hmarks
  exact ⟨e, t', tid, id, node, token, migration, rollback, hsuffix, hcommit⟩

/-- The capture of an attempt has written its full image. -/
def Imaged (t : List (Event (fabric settings))) (key : AttemptId) : Prop :=
  ∃ tid run, Captures t tid run ∧ run.attemptId = key ∧ run.Updated settings (deeds tid t)

theorem Imaged.mono (h : Run t) (hsuffix : t' <:+ t) (himaged : Imaged t' key) :
    Imaged t key := by
  obtain ⟨tid, run, hcaptures, hid, hupdated⟩ := himaged
  exact ⟨tid, run, hcaptures.mono h hsuffix, hid, hupdated.mono (deeds_suffix hsuffix)⟩

/-- A capture that is journaled as persisted has written its image, and does not go back. -/
theorem captures_of_persisted (h : Run t) (hj : Journaled t .capture key .persisted) :
    Imaged t key ∧ Reached captureTimetable t key 2 := by
  obtain ⟨e, t', tid, op, reply, hsuffix, hop, hcalls, hmarks⟩ := exists_calls_of_journaled h hj
  cases op with
  | captureCommit => exact nomatch hmarks.2.2
  | restoreCommit => rcases hmarks with ⟨hkind, -⟩ | ⟨-, hkind, -⟩ <;> exact nomatch hkind
  | journalAppend kind' key' state' detail =>
    obtain ⟨rfl, rfl, rfl⟩ := hmarks
    obtain ⟨request, hrequest, hwriter⟩ := hcalls.writer (h.of_suffix hsuffix) hop
    cases hwriter with
    | capture hasks hdoes hwrites =>
      obtain ⟨-, rfl, -⟩ := hwrites
      have hcaptures := Captures.of_does hrequest hasks hdoes
      refine ⟨Imaged.mono h ((List.suffix_cons e t').trans hsuffix)
        ⟨tid, _, hcaptures, rfl, hdoes.backed⟩, ?_⟩
      exact ⟨tid, _, deeds tid t', hcalls.deeds_eq ▸ deeds_suffix hsuffix,
        hcaptures.drawn_nonce, 2, rfl, Nat.le_refl 2⟩
    | restore _ hwrites => exact nomatch hwrites.1
    | recovery hwrites | plain hwrites => exact absurd hwrites not_false
  | _ => exact absurd hmarks not_false

end Journal

section Attempts

/-- The row of an attempt. -/
def World.attempt (w : World) (key : AttemptId) : Option AttemptRecord := w.store.attempts.get key

/-- How a call of the store may change the row of attempt `key`. -/
inductive AttemptStep (key : AttemptId) :
    StoreOp → Option AttemptRecord → Option AttemptRecord → Prop
  | kept {op : StoreOp} {row : Option AttemptRecord} : AttemptStep key op row row
  | opened {a : AttemptRecord} : a.id = key → a.state = .active →
    AttemptStep key (.attemptBegin a.id a.kind a.checkpointId a.workloadId a.node) none (some a)
  | finished {a : AttemptRecord} {state : AttemptState} {result error : Option String}
      {finishedMs : Option ℕ} :
    AttemptStep key (.attemptFinish key state result error) (some a)
      (some { a with state, result, error, finishedMs })

theorem attemptStep_of_run {op : StoreOp} {now : ℕ} {s s' : Store} {reply : op.Reply}
    (h : op.run now s = .ok (reply, s')) (key : AttemptId) :
    AttemptStep key op (s.attempts.get key) (s'.attempts.get key) := by
  by_cases hwrites : op.writesAttempts
  · cases op
    case attemptBegin id kind checkpointId workloadId node =>
      obtain rfl := StoreOp.snd_of_ok h
      unfold Store.attemptBegin
      split
      · rename_i hnew
        dsimp only
        rw [Table.get_insert]
        split
        · rename_i hid
          subst hid
          rw [hnew]
          exact .opened rfl rfl
        · exact .kept
      · exact .kept
    case attemptFinish id state result error =>
      obtain rfl := StoreOp.snd_of_ok h
      dsimp only [Store.attemptFinish]
      rw [Table.get_modify]
      split
      · rename_i hid
        subst hid
        cases hrow : s.attempts.get id with
        | none => exact .kept
        | some a => exact .finished
      · exact .kept
    all_goals exact absurd hwrites not_false
  · rw [(StoreOp.frame_of_run h).attempts hwrites]
    exact .kept

/-- An event takes a step on the row of every attempt, or leaves it. -/
theorem attemptStep_cases (h : Run (e :: t)) (key : AttemptId) :
    (∃ tid op reply, ¬ op.Reads ∧ Calls e t tid op reply ∧
      AttemptStep key op ((stateOf t).attempt key) ((after e).attempt key)) ∨
    (after e).attempt key = (stateOf t).attempt key := by
  rcases calls_or_leavesTables h with ⟨tid, op, reply, hop, hcalls⟩ | ⟨⟨workloads, hsame⟩, -⟩
  · exact .inl ⟨tid, op, reply, hop, hcalls, attemptStep_of_run hcalls.run key⟩
  · exact .inr (by rw [World.attempt, World.attempt, hsame])

/-- A row that shows an admitted capture or restore. -/
inductive Opened (t : List (Event (fabric settings))) (a : AttemptRecord) : Prop
  | capture {tid : ℕ} {run : CaptureRun} : Captures t tid run → a.id = run.attemptId →
    a.kind = .capture → a.checkpointId = some run.checkpointId → Opened t a
  | restore {checkpointId nonce : Id} {c : CheckpointObject} :
    (stateOf t).checkpoint checkpointId = some c → a.id = .restore checkpointId nonce →
    a.kind ≠ .capture → a.checkpointId = some checkpointId → a.workloadId = some c.workloadId →
    Opened t a

theorem Opened.mono {a : AttemptRecord} (h : Run t) (hsuffix : t' <:+ t) (hopened : Opened t' a) :
    Opened t a := by
  cases hopened with
  | capture hcaptures hid hkind hckpt => exact .capture (hcaptures.mono h hsuffix) hid hkind hckpt
  | restore hc hid hkind hckpt howner =>
    obtain ⟨c', hc', howner'⟩ := checkpoint_of_suffix h hsuffix hc
    exact .restore hc' hid hkind hckpt (howner' ▸ howner)

/-- Every row of an attempt shows what it was opened with. -/
theorem opened_of_run (h : Run t) {a : AttemptRecord} (ha : (stateOf t).attempt key = some a) :
    Opened t a := by
  induction t generalizing a with
  | nil => exact nomatch ha
  | cons e t ih =>
    rw [stateOf_cons] at ha
    rcases attemptStep_cases h key with ⟨tid, op, reply, hop, hcalls, hstep⟩ | hsame
    · rw [ha] at hstep
      generalize hrow : (stateOf t).attempt key = row at hstep
      cases hstep with
      | kept => exact (ih h.tail hrow).mono h (List.suffix_cons e t)
      | opened hid hstate =>
        obtain ⟨request, hrequest, hwriter⟩ := hcalls.writer h hop
        cases hwriter with
        | capture hasks hdoes hwrites =>
          obtain ⟨hid, hkind, hckpt, -⟩ := hwrites
          exact .capture ((Captures.of_does hrequest hasks hdoes).mono h (List.suffix_cons e t)) hid
            hkind hckpt
        | restore hdoes hwrites =>
          obtain ⟨hid, hkind, hckpt, howner, -⟩ := hwrites
          obtain ⟨nonce, ds₀, hattempt, -⟩ := hdoes.admitted.drawn
          obtain ⟨t₁, hsuffix, -, row, hrow, hread⟩ :=
            checkpoint_of_read h.tail hdoes.admitted.read
          obtain ⟨c, hc, hsame⟩ :=
            checkpoint_of_suffix h (hsuffix.trans (List.suffix_cons e t)) hrow
          refine .restore hc (hid.trans hattempt) ?_ hckpt ?_
          · rw [hkind]
            split <;> decide
          · rw [howner, hread, hsame]
            rfl
        | recovery hwrites | plain hwrites => exact absurd hwrites not_false
      | finished =>
        cases (ih h.tail hrow).mono h (List.suffix_cons e t) with
        | capture hcaptures hid hkind hckpt => exact .capture hcaptures hid hkind hckpt
        | restore hc hid hkind hckpt howner => exact .restore hc hid hkind hckpt howner
    · exact (ih h.tail (hsame.symm.trans ha)).mono h (List.suffix_cons e t)

/-- An attempt that was opened has a row. -/
theorem exists_attempt_of_begin {kind : AttemptKind} {checkpointId workloadId : Option Id}
    {node : NodeId} {now : ℕ} {s : Store} :
    ∃ a, (s.attemptBegin key kind checkpointId workloadId node now).attempts.get key = some a := by
  unfold Store.attemptBegin
  split
  · exact ⟨_, by rw [Table.get_insert, if_pos rfl]⟩
  · rename_i hrow
    exact Option.ne_none_iff_exists'.mp hrow

/-- A row of an attempt is never removed, and keeps what it was opened with. -/
theorem attempt_of_suffix (h : Run t) (hsuffix : t' <:+ t) {a : AttemptRecord}
    (ha : (stateOf t').attempt key = some a) :
    ∃ a', (stateOf t).attempt key = some a' ∧ a'.kind = a.kind ∧ a'.workloadId = a.workloadId := by
  refine suffix_induction (P := fun past : List (Event (fabric settings)) =>
    ∃ a', (stateOf past).attempt key = some a' ∧ a'.kind = a.kind ∧ a'.workloadId = a.workloadId)
    hsuffix ⟨a, ha, rfl, rfl⟩ ?_
  rintro e past - hpast ⟨a₁, ha₁, hkind, howner⟩
  rcases attemptStep_cases (h.of_suffix hpast) key with ⟨_, _, _, -, -, hstep⟩ | hsame
  · rw [ha₁] at hstep
    generalize hafter : (after e).attempt key = row at hstep
    cases hstep with
    | kept => exact ⟨a₁, hafter, hkind, howner⟩
    | finished => exact ⟨_, hafter, hkind, howner⟩
  · exact ⟨a₁, hsame.trans ha₁, hkind, howner⟩

theorem exists_attempt_of_opened {kind : AttemptKind} {checkpointId workloadId : Option Id}
    {node : NodeId} (h : Run t)
    (hd : (⟨.db (.attemptBegin key kind checkpointId workloadId node), .ok ()⟩ : FabricDeed) ∈
      deeds tid t) : ∃ a, (stateOf t).attempt key = some a := by
  obtain ⟨e, t', hsuffix, hcalls⟩ := exists_calls_of_mem h hd
  obtain ⟨a, ha⟩ := exists_attempt_of_begin (s := (stateOf t').store)
  have hrow : (stateOf (e :: t')).attempt key = some a := by
    rw [stateOf_cons, World.attempt, ← StoreOp.snd_of_ok hcalls.run]
    exact ha
  obtain ⟨a', ha', -⟩ := attempt_of_suffix h hsuffix hrow
  exact ⟨a', ha'⟩

/-- A capture that has written its image did so by an update, after it was opened. -/
theorem exists_update_of_imaged (h : Run t) (himaged : Imaged t key) :
    ∃ e t' tid c run, e :: t' <:+ t ∧ Calls e t' tid (.checkpointUpdate c) () ∧
      Captures t' tid run ∧ run.attemptId = key ∧ run.Persisted settings c ∧
      ∃ a, (stateOf t').attempt key = some a := by
  obtain ⟨tid, run, hcaptures, rfl, c, hpersisted, hupdate⟩ := himaged
  obtain ⟨e, t', hsuffix, hcalls⟩ := exists_calls_of_mem h hupdate
  have hrun := h.of_suffix hsuffix
  obtain ⟨request, hrequest, hwriter⟩ := hcalls.writer hrun not_false
  cases hwriter with
  | @capture workloadId options run' hasks hdoes hwrites =>
    have hcaptures' := Captures.of_does hrequest hasks hdoes
    obtain ⟨-, hsame⟩ := hcaptures.unique_of_checkpoint h
      (hcaptures'.mono h ((List.suffix_cons e t').trans hsuffix))
      (hpersisted.staged.describes.checkpointId.symm.trans hwrites.staged.describes.checkpointId)
    refine ⟨e, t', tid, c, run', hsuffix, hcalls, hcaptures', hsame.attemptId.symm, hwrites, ?_⟩
    rw [hsame.attemptId]
    have hbegun : run'.Begun workloadId (deeds tid t') := hdoes.begun.resolve_left not_false
    exact exists_attempt_of_opened hrun.tail hbegun.opened
  | restore _ hwrites | recovery hwrites | plain hwrites => exact absurd hwrites not_false

end Attempts

end CheckpointFabric
