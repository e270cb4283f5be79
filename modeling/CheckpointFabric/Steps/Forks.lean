import CheckpointFabric.Steps.Journal

/-!
# Forks along a run

A fork writes a workload and its lineage record in one transaction, from a checkpoint and a
workload that it has read before. Nothing else writes such a record, and nothing changes what a
workload was forked from.

## Main definitions

* `Store.forkRecords` — the FORKED_FROM records of a workload
* `Grafted` — a child that is made from what its thread has read

## Main results

* `forkRecords_cases` — a call is a fork, or leaves the records
* `obeys_serve_forks` — every fork is made from what was read
* `origin_of_suffix` — a workload keeps its parent and its generation
-/

set_option autoImplicit false

namespace CheckpointFabric

open Concurrency Coordinator Fabric System

namespace Store

/-- The FORKED_FROM records of a workload. -/
def forkRecords (s : Store) (id : Id) : List LineageRecord :=
  s.lineage.filter fun l => l.relation == .forkedFrom && l.workloadId == some id

variable {s s' : Store} {id : Id}

/-- A record of another relation is no FORKED_FROM record. -/
theorem forkRecords_append {l : LineageRecord} (h : l.relation ≠ .forkedFrom) :
    ({ s with lineage := s.lineage ++ [l] } : Store).forkRecords id = s.forkRecords id := by
  unfold forkRecords
  rw [List.filter_append, List.filter_cons_of_neg (by simp [h]), List.filter_nil, List.append_nil]

theorem forkRecords_of_lineage (h : s'.lineage = s.lineage) :
    s'.forkRecords id = s.forkRecords id := by
  unfold forkRecords
  rw [h]

@[simp] theorem forkRecords_journalAppend {kind : JournalKind} {key : AttemptId}
    {state : JournalState} {detail : String} {now : ℕ} :
    (s.journalAppend kind key state detail now).forkRecords id = s.forkRecords id :=
  forkRecords_of_lineage (by simp)

@[simp] theorem forkRecords_recordRestore {relation : LineageRelation} {workloadId ckpt : Id}
    {detail : String} {now : ℕ} (h : relation ≠ .forkedFrom) :
    (s.recordRestore relation workloadId ckpt detail now).forkRecords id = s.forkRecords id :=
  forkRecords_append h

theorem forkRecords_recordSupersession {workloadId ckpt : Id} {generation : ℕ}
    {prev : Option Id} {now : ℕ} :
    (s.recordSupersession workloadId ckpt generation prev now).forkRecords id =
      s.forkRecords id := by
  unfold recordSupersession
  split
  · rfl
  · split
    · rfl
    · exact forkRecords_append (by simp)

theorem forkRecords_captureCommit {ckpt : Id} {key : AttemptId} {now : ℕ}
    (h : s.captureCommit ckpt key now = .ok s') : s'.forkRecords id = s.forkRecords id := by
  unfold captureCommit at h
  split at h
  · exact absurd h (by simp)
  rename_i c hc
  split at h
  · exact absurd h (by simp)
  split at h
  · exact absurd h (by simp)
  split at h
  · exact absurd h (by simp)
  rename_i w hw
  split at h
  · exact absurd h (by simp)
  dsimp only at h
  obtain ⟨checkpoints, hlinked⟩ := s.linkSupersession_eq ckpt
    (s.previous c.workloadId c.checkpointGeneration) (s.next c.workloadId c.checkpointGeneration)
  rw [hlinked] at h
  obtain rfl := Except.ok.inj h
  rw [forkRecords_journalAppend]
  split
  · exact forkRecords_recordSupersession
  · exact forkRecords_recordSupersession

theorem forkRecords_restoreCommit {ckpt : Id} {key : AttemptId} {node : NodeId}
    {token : FenceToken} {migration rollback : Bool} {now : ℕ}
    (h : s.restoreCommit ckpt key node token migration rollback now = .ok s') :
    s'.forkRecords id = s.forkRecords id := by
  unfold restoreCommit at h
  split at h
  · exact absurd h (by simp)
  split at h
  · exact absurd h (by simp)
  split at h
  · exact absurd h (by simp)
  rename_i w hw
  dsimp only at h
  cases hbind : bindInteger [saturatingAdd w.workloadGeneration 1,
      saturatingAdd (saturatingAdd w.executionEpoch 1) migration.toNat] with
  | error e => simp [hbind, bind, Except.bind] at h
  | ok u =>
    simp only [hbind, bind, Except.bind, Except.ok.injEq] at h
    subst h
    rw [forkRecords_journalAppend]
    cases migration <;> cases rollback <;>
      simp [forkRecords, recordRestore, updateCheckpoint]

/-- What a fork did. -/
structure Grafts (s : Store) (child : Workload) (parent checkpoint : Id) (s' : Store) : Prop where
  new : s.workloads.get child.workloadId = none
  workload : ∀ id, s'.workloads.get id =
    if child.workloadId = id then some child else s.workloads.get id
  checkpoints : s'.checkpoints = s.checkpoints
  bound : child.forkGeneration ≤ integerMax
  record : ∃ l, l.otherWorkload = some parent ∧ l.otherCheckpoint = some checkpoint ∧
    ∀ id, s'.forkRecords id =
      s.forkRecords id ++ if child.workloadId = id then [l] else []

theorem grafts_of_insertFork {child : Workload} {parent checkpoint : Id} {detail : String}
    {now : ℕ} (h : s.workloadInsertFork child parent checkpoint detail now = .ok s') :
    s.Grafts child parent checkpoint s' := by
  unfold workloadInsertFork at h
  cases hins : s.workloadInsert child with
  | error e => simp [hins, bind, Except.bind] at h
  | ok s₁ =>
    have hbound : child.forkGeneration ≤ integerMax := by
      unfold workloadInsert at hins
      cases hbind : bindInteger (workloadIntegers child) with
      | error e => simp [hbind, bind, Except.bind] at hins
      | ok u => exact bindInteger_eq_ok_iff.mp hbind _ (by simp [workloadIntegers])
    obtain ⟨hnew, rfl⟩ := workloadInsert_ok hins
    simp only [hins, bind, Except.bind, Except.ok.injEq] at h
    subst h
    refine ⟨hnew, fun id => Table.get_insert _ _ hnew _, rfl, hbound, ?_⟩
    refine ⟨⟨.forkedFrom, some child.workloadId, none, some parent, some checkpoint, now, detail⟩,
      rfl, rfl, fun id => ?_⟩
    unfold forkRecords
    rw [List.filter_append]
    split
    · rename_i hid
      rw [List.filter_cons_of_pos (by simp [hid]), List.filter_nil]
    · rename_i hid
      rw [List.filter_cons_of_neg (by simp [hid]), List.filter_nil]

end Store

/-- A call is a fork, or leaves the FORKED_FROM records. -/
theorem StoreOp.forkRecords_cases {op : StoreOp} {now : ℕ} {s s' : Store} {reply : op.Reply}
    (h : op.run now s = .ok (reply, s')) :
    (∃ child parent checkpoint detail, op = .workloadInsertFork child parent checkpoint detail) ∨
      ∀ id, s'.forkRecords id = s.forkRecords id := by
  cases op with
  | workloadInsertFork child parent checkpoint detail => exact .inl ⟨_, _, _, _, rfl⟩
  -- The two commits append to the lineage, and what they append is of other relations.
  | captureCommit ckpt key =>
    exact .inr fun id => Store.forkRecords_captureCommit (of_map_ok h)
  | restoreCommit ckpt key node token migration rollback =>
    exact .inr fun id => Store.forkRecords_restoreCommit (of_map_ok h)
  -- No other call writes the lineage.
  | workloadInsert w =>
    obtain ⟨hnew, rfl⟩ := Store.workloadInsert_ok (of_map_ok h)
    exact .inr fun id => rfl
  | workloadBumpFence id expectedEpoch =>
    obtain ⟨w, -, -, rfl⟩ := Store.workloadBumpFence_ok (of_map_ok h)
    exact .inr fun id => rfl
  | checkpointInsert c =>
    obtain ⟨-, hnew, rfl⟩ := Store.checkpointInsert_ok (of_map_ok h)
    exact .inr fun id => rfl
  | checkpointUpdate c =>
    obtain ⟨-, rfl⟩ := Store.checkpointUpdate_ok (of_map_ok h)
    exact .inr fun id => rfl
  | checkpointSetLifecycle id lifecycle integrity =>
    obtain ⟨-, rfl⟩ := Store.checkpointSetLifecycle_ok (of_map_ok h)
    exact .inr fun id => rfl
  | checkpointRetire id =>
    obtain ⟨c, -, -, -, rfl⟩ := Store.checkpointRetire_ok (of_map_ok h)
    exact .inr fun id => rfl
  | checkpointAddLocation id location =>
    obtain ⟨-, rfl⟩ := Store.checkpointAddLocation_ok (of_map_ok h)
    exact .inr fun id => rfl
  | nodeRegister id addr bootId resources =>
    obtain ⟨nodes, rfl⟩ := Store.nodeRegister_ok (of_map_ok h)
    exact .inr fun id => rfl
  | nodeHeartbeat id resources =>
    obtain rfl := Store.nodeHeartbeat_ok (of_map_ok h)
    exact .inr fun id => rfl
  | nodeValidateIdentity id bootId =>
    have hreads : (StoreOp.nodeValidateIdentity id bootId).Reads := trivial
    rw [StoreOp.store_of_reads hreads h]
    exact .inr fun id => rfl
  | reservationCreate id kind workloadId checkpointId node ttlMs =>
    obtain ⟨-, r, hnew, -, rfl⟩ := Store.reservationCreate_ok (of_map_ok h)
    exact .inr fun id => rfl
  | attemptBegin id kind checkpointId workloadId node =>
    rw [← snd_of_ok h]
    refine .inr fun id => ?_
    dsimp only
    unfold Store.attemptBegin
    split <;> rfl
  | journalAppend kind key state detail =>
    rw [← snd_of_ok h]
    exact .inr fun id => Store.forkRecords_journalAppend
  | _ =>
    rw [← snd_of_ok h]
    exact .inr fun id => rfl

section Footprint

variable {settings : Settings}

/-- The child is made from a checkpoint and the workload of that checkpoint, as they were read. -/
structure Grafted (ds : List FabricDeed) (child : Workload) (parent checkpoint : Id) : Prop where
  ancestor : child.parentWorkload = some parent
  read : ∃ (ckpt : CheckpointObject) (w : Workload),
    ⟨.db (.checkpointGet checkpoint), .ok (some ckpt)⟩ ∈ ds ∧
    ⟨.db (.workloadGet ckpt.workloadId), .ok (some w)⟩ ∈ ds ∧ parent = w.workloadId ∧
    child.forkGeneration = Store.saturatingAdd w.forkGeneration 1

/-- A fork that an operation performs is one of what was read. -/
def ForkPermits (ds : List FabricDeed) : Op → Prop
  | .db (.workloadInsertFork child parent checkpoint _) => Grafted ds child parent checkpoint
  | _ => True

theorem forkPermits_of_reads {ds : List FabricDeed} {op : Op} (h : op.Reads) :
    ForkPermits ds op := by
  cases op with
  | db op =>
    cases op with
    | workloadInsertFork => exact absurd h not_false
    | _ => trivial
  | _ => trivial

theorem obeys_fork {checkpointId : Id} {spec : WorkloadSpec} {ctx : OperationContext}
    {ds : List FabricDeed} :
    Obeys ForkPermits (fun _ _ => True) ds (Coordinator.fork settings checkpointId spec ctx) := by
  have herror : ∀ (ds : List FabricDeed) (e : FabricError), (fun _ _ => True :
      List FabricDeed → FabricResult Workload → Prop) ds (.error e) := fun _ _ => trivial
  unfold Coordinator.fork
  refine obeys_ofExcept_bind herror fun _ _ => ?_
  refine Obeys.bind herror (obeys_requireCheckpoint trivial) fun ds₁ ckpt hckpt => ?_
  refine Obeys.bind herror (obeys_requireWorkload trivial) fun ds₂ parent hparent => ?_
  refine obeys_uses_bind herror (uses_chosenId fun _ => id)
    (fun _ _ _ => forkPermits_of_reads) fun ds₃ workloadId h₃ => ?_
  refine obeys_call_bind herror trivial fun now => ?_
  subst hparent hckpt
  have hchild : Grafted (⟨.now, .ok now⟩ :: ds₃)
      (newWorkload settings workloadId spec now none none (some parent.workloadId)
        (Store.saturatingAdd parent.forkGeneration 1)) parent.workloadId checkpointId :=
    ⟨rfl, ckpt, parent, .tail _ (h₃.subset (.tail _ (.head _))),
      .tail _ (h₃.subset (.head _)), rfl, rfl⟩
  refine obeys_call_bind herror hchild fun _ => ?_
  refine obeys_call_bind herror trivial fun forked => ?_
  cases forked with
  | none => trivial
  | some w => trivial

section Others

variable {ds : List FabricDeed} {child : Workload} {parent checkpoint : Id} {detail : String}

theorem not_capturePermits_fork {workloadId : Id} {options : CaptureOptions} :
    ¬ CapturePermits settings workloadId options ds
      (.db (.workloadInsertFork child parent checkpoint detail)) := by
  rintro (hreads | ⟨run, hdoes⟩)
  · exact hreads
  · exact hdoes.performs.elim id id

theorem not_restorePermits_fork {checkpointId : Id} {node : NodeId} {options : RestoreOptions}
    {start : List FabricDeed} :
    ¬ RestorePermits settings checkpointId node options start ds
      (.db (.workloadInsertFork child parent checkpoint detail)) := by
  rintro (hreads | ⟨run, hdoes⟩)
  · exact hreads
  · exact hdoes.performs.elim id id

end Others

/-- Every fork that a request performs is one of what was read. -/
theorem obeys_serve_forks (request : Request) :
    Obeys ForkPermits (fun _ _ => True) [] (request.serve settings) := by
  have hnone (hnot : ∀ ds child parent checkpoint detail, ¬ request.Permits settings ds
      (.db (.workloadInsertFork child parent checkpoint detail))) :
      Obeys ForkPermits (fun _ _ => True) [] (request.serve settings) := by
    refine (obeys_serve request).mono (fun ds op h => ?_) fun _ _ => id
    cases op with
    | db op =>
      cases op with
      | workloadInsertFork => exact absurd h (hnot _ _ _ _ _)
      | _ => trivial
    | _ => trivial
  cases request with
  | fork checkpointId spec ctx => exact obeys_answer obeys_fork
  | capture => exact hnone fun _ _ _ _ _ => not_capturePermits_fork
  | restore => exact hnone fun _ _ _ _ _ => not_restorePermits_fork
  | rollback => exact hnone fun _ _ _ _ _ => not_restorePermits_fork
  | migrate =>
    refine hnone fun _ _ _ _ _ => ?_
    rintro (⟨_, h⟩ | ⟨_, _, h⟩)
    · exact not_capturePermits_fork h
    · exact not_restorePermits_fork h
  | recovery =>
    refine hnone fun _ _ _ _ _ => ?_
    rintro (h | h) <;> exact h
  | _ =>
    refine hnone fun _ _ _ _ _ h => ?_
    simp [Request.Permits, Rebinds, MonitorWrites, Op.Reads, StoreOp.Reads] at h

end Footprint

section Rows

variable {settings : Settings} {t t' : List (Event (fabric settings))}

/-- A row is never deleted, and keeps what it was forked from. -/
theorem WorkloadStep.origin_eq {w : World} {id : Id} {op : Op} {r : Workload}
    {row : Option Workload} (h : WorkloadStep w id op (some r) row) :
    ∃ r', row = some r' ∧ r'.parentWorkload = r.parentWorkload ∧
      r'.forkGeneration = r.forkGeneration := by
  cases h
  case recorded hrecorded =>
    obtain ⟨generation, class_, rfl⟩ := hrecorded
    exact ⟨_, rfl, rfl, rfl⟩
  all_goals exact ⟨_, rfl, rfl, rfl⟩

/-- A workload keeps its parent and its fork generation. -/
theorem origin_of_suffix (h : Run t) (hsuffix : t' <:+ t) {id : Id} {r : Workload}
    (hr : (stateOf t').workload id = some r) :
    ∃ r', (stateOf t).workload id = some r' ∧ r'.parentWorkload = r.parentWorkload ∧
      r'.forkGeneration = r.forkGeneration :=
  workload_rel_of_run
    (R := fun r r' => r'.parentWorkload = r.parentWorkload ∧ r'.forkGeneration = r.forkGeneration)
    (fun _ => ⟨rfl, rfl⟩) (fun _ _ _ h h' => ⟨h'.1.trans h.1, h'.2.trans h.2⟩)
    (fun _ _ _ _ _ => WorkloadStep.origin_eq) h hsuffix hr

end Rows

end CheckpointFabric
