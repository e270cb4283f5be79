import CheckpointFabric.Properties.Reservations
import CheckpointFabric.Steps.Forks

/-!
# The records of rollbacks and migrations

The lineage is a list of records that only grows. The commit of a restore appends a record when it
is a rollback, and another one when it is a migration. So the records of a workload are as many as
its attempts that have committed a rollback or transferred the authority.

## Main definitions

* `World.recordsOf` — the records of a workload, as the lineage counts them
* `World.attemptsWith` — the attempts of a workload that the journal has an entry of

## Main results

* `lineage_prefix_of_suffix` — the lineage only grows
* `lineage_accounting` — the lineage counts what the attempts and the journal count
-/

set_option autoImplicit false

namespace CheckpointFabric

open Concurrency Coordinator System

/-- The records of the workload with this relation. -/
def Store.recordsOf (s : Store) (relation : LineageRelation) (workloadId : Id) : ℕ :=
  s.lineage.countP fun l => l.relation == relation && l.workloadId == some workloadId

section Store

variable {s s' : Store} {relation : LineageRelation} {workloadId : Id}

theorem Store.lineage_captureCommit {id : Id} {key : AttemptId} {now : ℕ}
    (h : s.captureCommit id key now = .ok s') :
    s'.lineage = s.lineage ∨ ∃ l, l.relation = .supersedes ∧ s'.lineage = s.lineage ++ [l] := by
  have hrecord (s : Store) (owner : Id) (generation : ℕ) (prev : Option Id) :
      (s.recordSupersession owner id generation prev now).lineage = s.lineage ∨
        ∃ l, l.relation = .supersedes ∧
          (s.recordSupersession owner id generation prev now).lineage = s.lineage ++ [l] := by
    unfold Store.recordSupersession
    split
    · exact .inl rfl
    · split
      · exact .inl rfl
      · exact .inr ⟨_, rfl, rfl⟩
  unfold Store.captureCommit at h
  split at h
  · exact absurd h (by simp)
  rename_i c hc
  split at h
  · exact absurd h (by simp)
  split at h
  · exact absurd h (by simp)
  split at h
  · exact absurd h (by simp)
  rename_i w hw
  split at h
  · exact absurd h (by simp)
  dsimp only at h
  obtain ⟨checkpoints, hlinked⟩ := s.linkSupersession_eq id
    (s.previous c.workloadId c.checkpointGeneration) (s.next c.workloadId c.checkpointGeneration)
  rw [hlinked] at h
  obtain rfl := Except.ok.inj h
  rw [Store.lineage_journalAppend]
  split
  · exact hrecord { s with checkpoints } _ _ _
  · exact hrecord { s with checkpoints } _ _ _

/-- The records that the commit of a restore appends, by their relations. -/
def restoreRelations (migration rollback : Bool) : List LineageRelation :=
  (if rollback then [.rollbackOf] else []) ++ if migration then [.migratedFrom] else []

theorem Store.lineage_restoreCommit {id : Id} {key : AttemptId} {node : NodeId}
    {token : FenceToken} {migration rollback : Bool} {now : ℕ} {c : CheckpointObject}
    (h : s.restoreCommit id key node token migration rollback now = .ok s')
    (hc : s.checkpoints.get id = some c) :
    ∃ more, s'.lineage = s.lineage ++ more ∧
      more.map (fun l => (l.relation, l.workloadId)) =
        (restoreRelations migration rollback).map (·, some c.workloadId) := by
  unfold Store.restoreCommit at h
  rw [hc] at h
  dsimp only at h
  split at h
  · exact absurd h (by simp)
  split at h
  · exact absurd h (by simp)
  rename_i w hw
  cases hbind : bindInteger [saturatingAdd w.workloadGeneration 1,
      saturatingAdd (saturatingAdd w.executionEpoch 1) migration.toNat] with
  | error e => simp [hbind, bind, Except.bind] at h
  | ok u =>
    simp only [hbind, bind, Except.bind, Except.ok.injEq] at h
    subst h
    rw [Store.lineage_journalAppend]
    cases migration with
    | false =>
      cases rollback with
      | false => exact ⟨[], (List.append_nil _).symm, rfl⟩
      | true => exact ⟨_, rfl, rfl⟩
    | true =>
      rw [if_pos rfl, Store.lineage_journalAppend]
      cases rollback with
      | false => exact ⟨_, rfl, rfl⟩
      | true => exact ⟨_, List.append_assoc _ _ _, rfl⟩

/-- A call commits a restore and appends its records, or it appends records of other relations. -/
theorem StoreOp.lineage_cases {op : StoreOp} {now : ℕ} {reply : op.Reply}
    (h : op.run now s = .ok (reply, s')) :
    (∃ id key node token migration rollback c more,
      op = .restoreCommit id key node token migration rollback ∧
      s.checkpoints.get id = some c ∧ s'.lineage = s.lineage ++ more ∧
      more.map (fun l => (l.relation, l.workloadId)) =
        (restoreRelations migration rollback).map (·, some c.workloadId)) ∨
    ∃ more, s'.lineage = s.lineage ++ more ∧
      ∀ l ∈ more, l.relation = .supersedes ∨ l.relation = .forkedFrom := by
  have hkept (h : s'.lineage = s.lineage) : ∃ more, s'.lineage = s.lineage ++ more ∧
      ∀ l ∈ more, l.relation = .supersedes ∨ l.relation = .forkedFrom :=
    ⟨[], by rw [h, List.append_nil], fun l hl => absurd hl List.not_mem_nil⟩
  cases op with
  | restoreCommit id key node token migration rollback =>
    obtain ⟨c, w, hcommit⟩ := Store.restoreCommit_ok (of_map_ok h)
    obtain ⟨more, hmore⟩ := Store.lineage_restoreCommit (of_map_ok h) hcommit.found
    exact .inl ⟨id, key, node, token, migration, rollback, c, more, rfl, hcommit.found, hmore⟩
  | captureCommit id key =>
    rcases Store.lineage_captureCommit (of_map_ok h) with hsame | ⟨l, hrelation, hlineage⟩
    · exact .inr (hkept hsame)
    · refine .inr ⟨[l], hlineage, fun l' hl' => .inl ?_⟩
      rw [List.mem_singleton.mp hl', hrelation]
  | workloadInsertFork child parent checkpoint detail =>
    have hfork : s.workloadInsertFork child parent checkpoint detail now = .ok s' := of_map_ok h
    unfold Store.workloadInsertFork at hfork
    cases hins : s.workloadInsert child with
    | error e => simp [hins, bind, Except.bind] at hfork
    | ok s₁ =>
      obtain ⟨hnew, rfl⟩ := Store.workloadInsert_ok hins
      simp only [hins, bind, Except.bind, Except.ok.injEq] at hfork
      subst hfork
      refine .inr ⟨_, rfl, fun l' hl' => .inr ?_⟩
      rw [List.mem_singleton.mp hl']
  -- No other call writes the lineage.
  | workloadInsert w =>
    obtain ⟨hnew, rfl⟩ := Store.workloadInsert_ok (of_map_ok h)
    exact .inr (hkept rfl)
  | workloadBumpFence id expectedEpoch =>
    obtain ⟨w, -, -, rfl⟩ := Store.workloadBumpFence_ok (of_map_ok h)
    exact .inr (hkept rfl)
  | checkpointInsert c =>
    obtain ⟨-, hnew, rfl⟩ := Store.checkpointInsert_ok (of_map_ok h)
    exact .inr (hkept rfl)
  | checkpointUpdate c =>
    obtain ⟨-, rfl⟩ := Store.checkpointUpdate_ok (of_map_ok h)
    exact .inr (hkept rfl)
  | checkpointSetLifecycle id lifecycle integrity =>
    obtain ⟨-, rfl⟩ := Store.checkpointSetLifecycle_ok (of_map_ok h)
    exact .inr (hkept rfl)
  | checkpointRetire id =>
    obtain ⟨c, -, -, -, rfl⟩ := Store.checkpointRetire_ok (of_map_ok h)
    exact .inr (hkept rfl)
  | checkpointAddLocation id location =>
    obtain ⟨-, rfl⟩ := Store.checkpointAddLocation_ok (of_map_ok h)
    exact .inr (hkept rfl)
  | nodeRegister id addr bootId resources =>
    obtain ⟨nodes, rfl⟩ := Store.nodeRegister_ok (of_map_ok h)
    exact .inr (hkept rfl)
  | nodeHeartbeat id resources =>
    obtain rfl := Store.nodeHeartbeat_ok (of_map_ok h)
    exact .inr (hkept rfl)
  | nodeValidateIdentity id bootId =>
    have hreads : (StoreOp.nodeValidateIdentity id bootId).Reads := trivial
    rw [StoreOp.store_of_reads hreads h] at hkept ⊢
    exact .inr (hkept rfl)
  | reservationCreate id kind workloadId checkpointId node ttlMs =>
    obtain ⟨-, r, hnew, -, rfl⟩ := Store.reservationCreate_ok (of_map_ok h)
    exact .inr (hkept rfl)
  | attemptBegin id kind checkpointId workloadId node =>
    refine .inr (hkept ?_)
    rw [← snd_of_ok h]
    dsimp only
    unfold Store.attemptBegin
    split <;> rfl
  | journalAppend kind key state detail =>
    refine .inr (hkept ?_)
    rw [← snd_of_ok h]
    exact Store.lineage_journalAppend _ _ _ _ _
  | _ => exact .inr (hkept ((congrArg Store.lineage (snd_of_ok h).symm).trans rfl))

/-- What the appended records add to the records of a workload. -/
theorem Store.recordsOf_append {more : List LineageRecord} (h : s'.lineage = s.lineage ++ more) :
    s'.recordsOf relation workloadId = s.recordsOf relation workloadId +
      (more.map fun l => (l.relation, l.workloadId)).countP
        fun p => p.1 == relation && p.2 == some workloadId := by
  unfold Store.recordsOf
  rw [h, List.countP_append, List.countP_map]
  rfl

end Store

section Options

variable {settings : Settings} {t t' : List (Event (fabric settings))}
  {e : Event (fabric settings)} {tid : ℕ} {key : AttemptId} {request : Request}
  {ds : List FabricDeed} {op : Op}

/-- The options of the restores that a request runs. -/
def Request.restoreOptions : Request → RestoreOptions
  | restore _ _ options _ => options
  | rollback _ _ _ => { rollback := true }
  | migrate _ _ _ _ => { migration := true }
  | _ => {}

/-- The kind of the attempt of a restore. -/
def RestoreOptions.kind (options : RestoreOptions) : AttemptKind :=
  if options.rollback then .rollback else .restore

/-- Attempts and commits are the ones of these options. -/
def Op.Follows (options : RestoreOptions) : Op → Prop
  | .db (.attemptBegin _ kind _ _ _) => kind = .capture ∨ kind = options.kind
  | .db (.restoreCommit _ _ _ _ migration rollback) =>
    migration = options.migration ∧ rollback = options.rollback
  | _ => True

theorem follows_of_reads {options : RestoreOptions} (h : op.Reads) : op.Follows options := by
  cases op with
  | db op =>
    cases op with
    | attemptBegin | restoreCommit => exact absurd h not_false
    | _ => trivial
  | _ => trivial

theorem follows_of_capture {workloadId : Id} {capture : CaptureOptions} {options : RestoreOptions}
    (h : CapturePermits settings workloadId capture ds op) : op.Follows options := by
  obtain hreads | ⟨run, hdoes⟩ := h
  · exact follows_of_reads hreads
  · cases op with
    | db op =>
      have hwrites := hdoes.performs
      cases op with
      | attemptBegin => exact .inl (hwrites.resolve_left not_false).2.1
      | restoreCommit => exact absurd (hwrites.resolve_left not_false) not_false
      | _ => trivial
    | _ => trivial

theorem follows_of_restore {checkpointId : Id} {targetNode : NodeId} {options : RestoreOptions}
    {start : List FabricDeed}
    (h : RestorePermits settings checkpointId targetNode options start ds op) :
    op.Follows options := by
  obtain hreads | ⟨run, hdoes⟩ := h
  · exact follows_of_reads hreads
  · obtain rfl := hdoes.admitted.options_eq
    cases op with
    | db op =>
      have hwrites := hdoes.performs
      cases op with
      | attemptBegin => exact .inr (hwrites.resolve_left not_false).2.1
      | restoreCommit =>
        obtain ⟨-, -, -, hmigration, hrollback⟩ := hwrites.resolve_left not_false
        exact ⟨hmigration, hrollback⟩
      | _ => trivial
    | _ => trivial

/-- A request restores with its own options. -/
theorem follows_of_permits (h : request.Permits settings ds op) :
    op.Follows request.restoreOptions := by
  cases request with
  | capture workloadId options ctx => exact follows_of_capture h
  | restore checkpointId node options ctx => exact follows_of_restore h
  | rollback checkpointId node ctx => exact follows_of_restore h
  | migrate depth checkpointId targetNode ctx =>
    obtain ⟨workloadId, hcapture⟩ | ⟨checkpointId, start, hrestore⟩ := h
    · exact follows_of_capture hcapture
    · exact follows_of_restore hrestore
  | _ =>
    cases op with
    | db op =>
      cases op with
      | attemptBegin | restoreCommit => cases actor_of_permits h with
        | reads hreads => exact absurd hreads not_false
        | capture hcapture =>
          obtain ⟨_, _, _, hcaptures, -⟩ := hcapture
          exact absurd hcaptures not_false
        | restore hrestore =>
          obtain ⟨_, _, _, _, _, -, hrestores⟩ := hrestore
          exact absurd hrestores not_false
        | recovery hrecovery => exact absurd (hrecovery.resolve_left not_false) not_false
        | plain hplain => exact absurd hplain not_false
      | _ => trivial
    | _ => trivial

/-- Calls follow the options of the request of their thread. -/
theorem follows_of_calls {op : StoreOp} {reply : op.Reply} (h : Run (e :: t))
    (hcalls : Calls e t tid op reply) : ∃ request, requestOf tid t = some request ∧
      (Op.db op).Follows request.restoreOptions := by
  obtain ⟨input, rfl, -⟩ := hcalls
  obtain ⟨request, hrequest, hpermits⟩ := permitted h
  exact ⟨request, hrequest, follows_of_permits hpermits⟩

end Options

section Kinds

variable {settings : Settings} {t t' : List (Event (fabric settings))}
  {e : Event (fabric settings)} {tid : ℕ} {id workloadId : Id} {key : AttemptId}
  {a : AttemptRecord} {c : CheckpointObject}

theorem Draws.mono (hsuffix : t' <:+ t) (h : Draws t' tid key) : Draws t tid key :=
  (deeds_suffix hsuffix).subset h

/-- The attempt was drawn by a thread whose request asks for attempts of this kind. -/
def Asked (t : List (Event (fabric settings))) (a : AttemptRecord) : Prop :=
  ∃ tid request, requestOf tid t = some request ∧ Draws t tid a.id ∧
    (a.kind = .capture ∨ a.kind = request.restoreOptions.kind)

theorem Asked.mono (h : Run t) (hsuffix : t' <:+ t) (hasked : Asked t' a) : Asked t a := by
  obtain ⟨tid, request, hrequest, hdraws, hkind⟩ := hasked
  have hadmitted := lt_admissions_of_mem_deeds (h.of_suffix hsuffix) hdraws
  exact ⟨tid, request, (requestOf_of_suffix h hsuffix hadmitted).trans hrequest,
    hdraws.mono hsuffix, hkind⟩

/-- Whoever opens an attempt has drawn it. -/
theorem draws_of_begin {kind : AttemptKind} {checkpointId workloadId : Option Id} {node : NodeId}
    (h : Run (e :: t)) (hcalls : Calls e t tid (.attemptBegin key kind checkpointId workloadId node) ()) :
    Draws t tid key := by
  obtain ⟨request, hrequest, hwriter⟩ := hcalls.writer h not_false
  cases hwriter with
  | capture hasks hdoes hwrites =>
    rw [hwrites.1]
    exact (Captures.of_does hrequest hasks hdoes).drawn_nonce
  | restore hdoes hwrites hrestores =>
    rw [hwrites.1]
    exact (Restores.of_does hrequest hrestores hdoes).drawn
  | recovery hwrites | plain hwrites => exact absurd hwrites not_false

theorem asked_of_run (h : Run t) (ha : (stateOf t).attempt key = some a) : Asked t a := by
  induction t generalizing a with
  | nil => exact nomatch ha
  | cons e t ih =>
    have hsuffix := List.suffix_cons e t
    rw [stateOf_cons] at ha
    rcases attemptStep_cases h key with ⟨tid, op, reply, -, hcalls, hstep⟩ | hsame
    · rw [ha] at hstep
      generalize hrow : (stateOf t).attempt key = row at hstep
      cases hstep with
      | kept => exact (ih h.tail hrow).mono h hsuffix
      | opened =>
        obtain ⟨request, hrequest, hkind⟩ := follows_of_calls h hcalls
        exact Asked.mono h hsuffix ⟨tid, request, hrequest, draws_of_begin h hcalls, hkind⟩
      | finished => exact (ih h.tail hrow).mono h hsuffix
    · exact (ih h.tail (hsame.symm.trans ha)).mono h hsuffix

/-- The commit of a restore, as its attempt and its checkpoint have it. -/
structure CommitsRestore (e : Event (fabric settings)) (past : List (Event (fabric settings)))
    (migration rollback : Bool) (a : AttemptRecord) (workloadId : Id) : Prop where
  restored : ∃ id, Restored e past id a.id
  attempt : (stateOf past).attempt a.id = some a
  attempts : (after e).store.attempts = (stateOf past).store.attempts
  kind : a.kind = .rollback ↔ rollback = true
  owner : a.workloadId = some workloadId
  marks (kind : JournalKind) (key : AttemptId) (state : JournalState) :
    Journaled (e :: past) kind key state ↔ Journaled past kind key state ∨
      (.restore = kind ∧ a.id = key ∧ .generationCommitted = state) ∨
      (migration = true ∧ .migration = kind ∧ a.id = key ∧ .authorityTransferred = state)
  records (relation : LineageRelation) (workloadId' : Id) :
    (after e).store.recordsOf relation workloadId' =
      (stateOf past).store.recordsOf relation workloadId' +
        ((restoreRelations migration rollback).map (·, some workloadId)).countP
          fun p => p.1 == relation && p.2 == some workloadId'

theorem commitsRestore_of_restored (h : Run (e :: t)) (hrestored : Restored e t id key) :
    ∃ migration rollback a workloadId, a.id = key ∧
      CommitsRestore e t migration rollback a workloadId := by
  have ⟨tid, node, token, migration, rollback, hcalls⟩ := hrestored
  obtain ⟨c, w, hcommit⟩ := Store.restoreCommit_ok (StoreOp.of_map_ok hcalls.run)
  obtain ⟨a, ha, hkind, howner⟩ := hrestored.exists_attempt h hcommit.found
  obtain rfl : a.id = key := Table.key_of_get ha
  obtain ⟨more, hmore, hrelations⟩ :=
    Store.lineage_restoreCommit (StoreOp.of_map_ok hcalls.run) hcommit.found
  refine ⟨migration, rollback, a, c.workloadId, rfl, ⟨id, hrestored⟩, ha, hcommit.attempts, ?_,
    howner, fun kind key state => ?_, fun relation workloadId' => ?_⟩
  · -- The thread that commits has opened the attempt, for the same request.
    obtain ⟨request, hrequest, -, hrollback⟩ := follows_of_calls h hcalls
    obtain ⟨tid', request', hrequest', hdraws', hasked⟩ := asked_of_run h.tail ha
    obtain ⟨request'', hrequest'', hwriter⟩ := hcalls.writer h not_false
    cases hwriter with
    | restore hdoes hwrites hrestores =>
      have hdraws : Draws t tid a.id := by
        rw [hwrites.2.1]
        exact (Restores.of_does hrequest'' hrestores hdoes).drawn
      obtain rfl := hdraws'.unique h.tail (List.suffix_refl t) hdraws
      obtain rfl := Option.some.inj (hrequest'.symm.trans hrequest)
      rw [hasked.resolve_left hkind, hrollback, RestoreOptions.kind]
      cases request'.restoreOptions.rollback <;> decide
    | capture _ _ hwrites | recovery hwrites | plain hwrites => exact absurd hwrites not_false
  · exact StoreOp.journaled_of_run hcalls.run
  · rw [Store.recordsOf_append hmore, hrelations]

/-- Only the commit of a generation journals that authority was transferred. -/
theorem restoreCommit_of_transferred {op : StoreOp} {reply : op.Reply} (h : Run (e :: t))
    (hop : ¬ op.Reads) (hcalls : Calls e t tid op reply)
    (hmarks : op.Marks .migration key .authorityTransferred) : ∃ id, Restored e t id key := by
  cases op with
  | captureCommit => exact nomatch hmarks.1
  | restoreCommit id key' node token migration rollback =>
    rcases hmarks with ⟨hkind, -⟩ | ⟨-, -, rfl, -⟩
    · exact nomatch hkind
    · exact ⟨id, tid, node, token, migration, rollback, hcalls⟩
  | journalAppend kind key' state detail =>
    obtain ⟨rfl, rfl, rfl⟩ := hmarks
    obtain ⟨request, -, hwriter⟩ := hcalls.writer h hop
    cases hwriter with
    | capture _ _ hwrites => simp [CaptureRun.Writes] at hwrites
    | restore _ hwrites => simp [RestoreRun.Writes] at hwrites
    | recovery hwrites | plain hwrites => exact absurd hwrites not_false
  | _ => exact absurd hmarks not_false

/-- The journal entries of a commit that records this relation. -/
def LineageRelation.entry : LineageRelation → JournalKind × JournalState
  | migratedFrom => (.migration, .authorityTransferred)
  | _ => (.restore, .generationCommitted)

/-- Such an entry is new only with the commit of a restore. -/
theorem journaled_entry_iff {relation : LineageRelation} (h : Run (e :: t))
    (hno : ∀ id, ¬ Restored e t id key) :
    Journaled (e :: t) relation.entry.1 key relation.entry.2 ↔
      Journaled t relation.entry.1 key relation.entry.2 := by
  refine ⟨fun hj => ?_, journaled_cons h⟩
  rcases journaled_cases h hj with hold | ⟨tid, op, reply, hop, hcalls, hmarks⟩
  · exact hold
  · refine absurd ?_ (not_exists.mpr hno)
    cases relation with
    | migratedFrom => exact restoreCommit_of_transferred h hop hcalls hmarks
    | _ =>
      obtain ⟨id, node, token, migration, rollback, hcommit⟩ :=
        restoreCommit_of_marks h hop hcalls hmarks
      exact ⟨id, tid, node, token, migration, rollback, hcommit⟩

/-- An attempt that authority was transferred under has committed. -/
theorem committed_of_entry {relation : LineageRelation} (h : Run t)
    (hj : Journaled t relation.entry.1 key relation.entry.2) :
    Journaled t .restore key .generationCommitted := by
  induction t with
  | nil =>
    obtain ⟨entry, hentry, -⟩ := hj
    exact absurd hentry List.not_mem_nil
  | cons e t ih =>
    by_cases hcommits : ∃ id, Restored e t id key
    · exact (journaled_generationCommitted_iff h).mpr (.inr hcommits)
    · exact journaled_cons h
        (ih h.tail ((journaled_entry_iff h (not_exists.mp hcommits)).mp hj))

/-- The attempt of the workload has committed what this relation records. -/
def World.HasCommitted (w : World) (relation : LineageRelation) (workloadId : Id)
    (a : AttemptRecord) : Prop :=
  (relation = .rollbackOf → a.kind = .rollback) ∧ a.workloadId = some workloadId ∧
    w.store.journalHas relation.entry.1 a.id relation.entry.2

instance (w : World) (relation : LineageRelation) (workloadId : Id) :
    DecidablePred (w.HasCommitted relation workloadId) :=
  fun _ => inferInstanceAs (Decidable (_ ∧ _ ∧ _))

/-- The attempts of the workload that have committed what this relation records. -/
def World.attemptsOf (w : World) (relation : LineageRelation) (workloadId : Id) : ℕ :=
  w.store.attempts.rows.countP fun a => w.HasCommitted relation workloadId a

variable {relation : LineageRelation}

theorem journalHas_entry_iff {w : World} : w.store.journalHas relation.entry.1 key relation.entry.2 ↔
    w.store.Journaled relation.entry.1 key relation.entry.2 := Store.journalHas_eq_true_iff

/-- A commit is counted among the attempts as it is recorded in the lineage. -/
theorem attemptsOf_of_commits {migration rollback : Bool} {owner : Id} (h : Run (e :: t))
    (hcommits : CommitsRestore e t migration rollback a owner)
    (hrelation : relation = .rollbackOf ∨ relation = .migratedFrom) :
    (after e).attemptsOf relation workloadId = (stateOf t).attemptsOf relation workloadId +
      ((restoreRelations migration rollback).map (·, some owner)).countP
        fun p => p.1 == relation && p.2 == some workloadId := by
  obtain ⟨id, hrestored⟩ := hcommits.restored
  -- The attempt that commits is counted after the event and not before; no other is counted anew.
  have hbefore : ¬ Journaled t relation.entry.1 a.id relation.entry.2 := fun hj =>
    hrestored.not_journaled h (committed_of_entry h.tail hj)
  have hafter : Journaled (e :: t) relation.entry.1 a.id relation.entry.2 ↔
      (relation = .migratedFrom → migration = true) := by
    rw [hcommits.marks, or_iff_right hbefore]
    rcases hrelation with rfl | rfl <;> simp [LineageRelation.entry]
  have hother (key : AttemptId) (hne : key ≠ a.id) :
      Journaled (e :: t) relation.entry.1 key relation.entry.2 ↔
        Journaled t relation.entry.1 key relation.entry.2 := by
    rw [hcommits.marks, or_iff_left]
    rintro (⟨-, hkey, -⟩ | ⟨-, -, hkey, -⟩) <;> exact hne hkey.symm
  have hcounted : decide ((after e).HasCommitted relation workloadId a) =
      decide ((relation = .rollbackOf → rollback = true) ∧ owner = workloadId ∧
        (relation = .migratedFrom → migration = true)) := by
    rw [decide_eq_decide, World.HasCommitted, hcommits.kind, hcommits.owner, Option.some.injEq,
      journalHas_entry_iff]
    exact and_congr_right' (and_congr_right' hafter)
  have hold : decide ((stateOf t).HasCommitted relation workloadId a) = false :=
    decide_eq_false fun hhas => hbefore (journalHas_entry_iff.mp hhas.2.2)
  have hothers : ∀ a' ∈ (stateOf t).store.attempts.rows, a'.id ≠ a.id →
      decide ((after e).HasCommitted relation workloadId a') =
        decide ((stateOf t).HasCommitted relation workloadId a') := by
    intro a' _ hne
    rw [decide_eq_decide, World.HasCommitted, World.HasCommitted, journalHas_entry_iff,
      journalHas_entry_iff]
    exact and_congr_right' (and_congr_right' (hother a'.id hne))
  unfold World.attemptsOf
  rw [hcommits.attempts, Table.countP_of_get hcommits.attempt hold hothers]
  rw [hcounted]
  congr 1
  rcases hrelation with rfl | rfl <;> cases migration <;> cases rollback <;>
    by_cases howner : owner = workloadId <;> simp [restoreRelations, howner]

/-- Without a commit the attempts count what they counted. -/
theorem attemptsOf_of_none (h : Run (e :: t)) (hno : ∀ id key, ¬ Restored e t id key) :
    (after e).attemptsOf relation workloadId = (stateOf t).attemptsOf relation workloadId := by
  have hsame (a : AttemptRecord) : (after e).HasCommitted relation workloadId a ↔
      (stateOf t).HasCommitted relation workloadId a := by
    rw [World.HasCommitted, World.HasCommitted, journalHas_entry_iff, journalHas_entry_iff]
    exact and_congr_right' (and_congr_right' (journaled_entry_iff h fun id => hno id a.id))
  unfold World.attemptsOf
  simp only [hsame]
  rcases attemptRows_cases h with ⟨a, hnew, hrows⟩ | hrows
  · -- An attempt that is opened has committed nothing.
    have hfresh : ¬ (stateOf t).HasCommitted relation workloadId a := by
      rintro ⟨-, -, hj⟩
      obtain ⟨a', ha'⟩ := exists_attempt_of_journaled h.tail
        (committed_of_entry h.tail (journalHas_entry_iff.mp hj))
      exact nomatch hnew.symm.trans ha'
    rw [hrows, List.countP_append, List.countP_singleton, if_neg (by simp [hfresh]), Nat.add_zero]
  · refine countP_eq_of_sameAttempt hrows fun a a' hsame => ?_
    rw [decide_eq_decide, World.HasCommitted, World.HasCommitted, hsame.1, hsame.2.1, hsame.2.2]

/-- The records of other relations are none of a restore. -/
theorem recordsOf_of_none (h : Run (e :: t)) (hno : ∀ id key, ¬ Restored e t id key)
    (hrelation : relation = .rollbackOf ∨ relation = .migratedFrom) :
    (after e).store.recordsOf relation workloadId = (stateOf t).store.recordsOf relation workloadId := by
  rcases calls_or_leavesTables h with ⟨tid, op, reply, -, hcalls⟩ | ⟨⟨workloads, hsame⟩, -⟩
  · rcases StoreOp.lineage_cases hcalls.run with
      ⟨id, key, node, token, migration, rollback, c, more, rfl, -⟩ | ⟨more, hmore, hothers⟩
    · exact absurd ⟨tid, node, token, migration, rollback, hcalls⟩ (hno id key)
    · rw [Store.recordsOf_append hmore, Nat.add_eq_left, List.countP_map, List.countP_eq_zero]
      intro l hl hcounted
      obtain ⟨heq, -⟩ := Bool.and_eq_true_iff.mp hcounted
      have heq : l.relation = relation := beq_iff_eq.mp heq
      rcases hothers l hl with hl | hl <;> rcases hrelation with hr | hr <;>
        exact nomatch hl.symm.trans (heq.trans hr)
  · rw [hsame]
    rfl

/-- The lineage only grows. -/
theorem lineage_prefix_of_suffix (h : Run t) (hsuffix : t' <:+ t) :
    (stateOf t').store.lineage <+: (stateOf t).store.lineage := by
  refine suffix_induction (P := fun past : List (Event (fabric settings)) =>
    (stateOf t').store.lineage <+: (stateOf past).store.lineage) hsuffix (List.prefix_refl _) ?_
  intro e past _ hpast hprefix
  refine hprefix.trans ?_
  rw [stateOf_cons]
  rcases calls_or_leavesTables (h.of_suffix hpast) with ⟨tid, op, reply, -, hcalls⟩ |
    ⟨⟨workloads, hsame⟩, -⟩
  · rcases StoreOp.lineage_cases hcalls.run with
      ⟨id, key, node, token, migration, rollback, c, more, -, -, hmore, -⟩ | ⟨more, hmore, -⟩
    · exact ⟨more, hmore.symm⟩
    · exact ⟨more, hmore.symm⟩
  · rw [hsame]

/-- In every state of every run, the records of rollbacks and migrations of a workload are as many
as its attempts that have committed a rollback or transferred authority; and no record is ever
lost or changed. -/
theorem lineage_accounting (h : Run t) :
    (∀ workloadId, (stateOf t).store.recordsOf .rollbackOf workloadId =
        (stateOf t).attemptsOf .rollbackOf workloadId ∧
      (stateOf t).store.recordsOf .migratedFrom workloadId =
        (stateOf t).attemptsOf .migratedFrom workloadId) ∧
    ∀ t', t' <:+ t → (stateOf t').store.lineage <+: (stateOf t).store.lineage := by
  have hcounts (relation : LineageRelation) (workloadId : Id)
      (hrelation : relation = .rollbackOf ∨ relation = .migratedFrom) :
      (stateOf t).store.recordsOf relation workloadId =
        (stateOf t).attemptsOf relation workloadId := by
    induction t with
    | nil => rfl
    | cons e t ih =>
      rw [stateOf_cons]
      -- An event that commits a restore adds to both counts alike, and any other to neither.
      by_cases hcommits : ∃ id key, Restored e t id key
      · obtain ⟨id, key, hrestored⟩ := hcommits
        obtain ⟨migration, rollback, a, owner, -, hcommit⟩ := commitsRestore_of_restored h hrestored
        rw [hcommit.records, attemptsOf_of_commits h hcommit hrelation, ih h.tail]
      · have hno : ∀ id key, ¬ Restored e t id key := fun id key hr => hcommits ⟨id, key, hr⟩
        rw [recordsOf_of_none h hno hrelation, attemptsOf_of_none h hno, ih h.tail]
  exact ⟨fun workloadId => ⟨hcounts _ _ (.inl rfl), hcounts _ _ (.inr rfl)⟩,
    fun t' hsuffix => lineage_prefix_of_suffix h hsuffix⟩

end Kinds

/-- Two captures, a migration with the first one, and a rollback to the second one. -/
def Demo.returned : List (Action (fabric Demo.archive)) :=
  [.move (Move.boot "n1" "n0" "/data"), .move (Move.boot "n2" "n0" "/data")] ++
    Demo.serially [.capture 7 {} Demo.operator, .capture 7 {} Demo.operator,
      .migrate 1 2 "n2" Demo.operator, .rollback 4 "n2" Demo.operator]

theorem lineage_accounting_returned :
    (stateOf (exec Demo.returned).trace).store.recordsOf .rollbackOf 7 = 1 ∧
      (stateOf (exec Demo.returned).trace).attemptsOf .rollbackOf 7 = 1 ∧
      (stateOf (exec Demo.returned).trace).attemptsOf .migratedFrom 7 = 1 := by
  have hrollback : (stateOf (exec Demo.returned).trace).store.recordsOf .rollbackOf 7 = 1 := by
    decide +kernel
  have hmigration : (stateOf (exec Demo.returned).trace).store.recordsOf .migratedFrom 7 = 1 := by
    decide +kernel
  obtain ⟨hrollbacks, hmigrations⟩ := (lineage_accounting (exec_run Demo.returned)).1 7
  exact ⟨hrollback, hrollbacks.symm.trans hrollback, hmigrations.symm.trans hmigration⟩

end CheckpointFabric
