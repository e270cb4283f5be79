import CheckpointFabric.Store.Operation

/-!
# What the fallible calls of the store guarantee

For every call that can fail, what a success says about the store before it, and the
store it leaves. Later arguments use these facts and never look inside a call.

## Main definitions

* `Store.Journaled` — an entry of the recovery journal
* `Store.CaptureCommitted`, `Store.RestoreCommitted` — what a commit transaction did

## Main results

* `Store.captureCommit_ok`, `Store.restoreCommit_ok` — the commit transactions
* `StoreOp.execute_cases` — a call fails without effect, or succeeds
-/

set_option autoImplicit false

namespace CheckpointFabric

open Concurrency

namespace Store

variable {s s' : Store}

section Journal

/-- The recovery journal has an entry. -/
def Journaled (s : Store) (kind : JournalKind) (key : AttemptId) (state : JournalState) : Prop :=
  ∃ e ∈ s.journal, e.kind = kind ∧ e.key = key ∧ e.state = state

theorem journalHas_eq_true_iff {kind : JournalKind} {key : AttemptId} {state : JournalState} :
    s.journalHas kind key state = true ↔ s.Journaled kind key state := by
  simp [journalHas, Journaled, and_assoc]

/-- An append leaves everything but the journal as it was. -/
theorem journalAppend_eq (s : Store) (kind : JournalKind) (key : AttemptId)
    (state : JournalState) (detail : String) (now : ℕ) :
    ∃ journal, s.journalAppend kind key state detail now = { s with journal } := by
  unfold journalAppend
  split <;> exact ⟨_, rfl⟩

section

variable (kind : JournalKind) (key : AttemptId) (state : JournalState) (detail : String) (now : ℕ)

@[simp] theorem workloads_journalAppend :
    (s.journalAppend kind key state detail now).workloads = s.workloads := by
  obtain ⟨journal, h⟩ := s.journalAppend_eq kind key state detail now
  rw [h]

@[simp] theorem checkpoints_journalAppend :
    (s.journalAppend kind key state detail now).checkpoints = s.checkpoints := by
  obtain ⟨journal, h⟩ := s.journalAppend_eq kind key state detail now
  rw [h]

@[simp] theorem lineage_journalAppend :
    (s.journalAppend kind key state detail now).lineage = s.lineage := by
  obtain ⟨journal, h⟩ := s.journalAppend_eq kind key state detail now
  rw [h]

@[simp] theorem attempts_journalAppend :
    (s.journalAppend kind key state detail now).attempts = s.attempts := by
  obtain ⟨journal, h⟩ := s.journalAppend_eq kind key state detail now
  rw [h]

@[simp] theorem nodes_journalAppend :
    (s.journalAppend kind key state detail now).nodes = s.nodes := by
  obtain ⟨journal, h⟩ := s.journalAppend_eq kind key state detail now
  rw [h]

@[simp] theorem reservations_journalAppend :
    (s.journalAppend kind key state detail now).reservations = s.reservations := by
  obtain ⟨journal, h⟩ := s.journalAppend_eq kind key state detail now
  rw [h]

end

@[simp] theorem journaled_journalAppend {kind kind' : JournalKind} {key key' : AttemptId}
    {state state' : JournalState} {detail : String} {now : ℕ} :
    (s.journalAppend kind key state detail now).Journaled kind' key' state' ↔
      s.Journaled kind' key' state' ∨ (kind = kind' ∧ key = key' ∧ state = state') := by
  unfold journalAppend
  split
  · rename_i hhas
    rw [← journalHas, journalHas_eq_true_iff] at hhas
    constructor
    · exact .inl
    · rintro (h | ⟨rfl, rfl, rfl⟩)
      · exact h
      · exact hhas
  · simp [Journaled, or_and_right, exists_or]

end Journal

section Workloads

variable {id : Id} {w : Workload}

theorem workloadInsert_ok (h : s.workloadInsert w = .ok s') :
    ∃ hnew : s.workloads.get w.workloadId = none,
      s' = { s with workloads := s.workloads.insert w hnew } := by
  unfold workloadInsert at h
  cases hbind : bindInteger (workloadIntegers w) with
  | error e => simp [hbind, bind, Except.bind] at h
  | ok u =>
    cases hrow : insertRow s.workloads w (.sqlite "UNIQUE constraint failed: workloads.id") with
    | error e => simp [hbind, hrow, bind, Except.bind] at h
    | ok workloads =>
      obtain ⟨hnew, rfl⟩ := insertRow_eq_ok_iff.mp hrow
      simp only [hbind, hrow, bind, Except.bind, Except.ok.injEq] at h
      exact ⟨hnew, h.symm⟩

theorem workloadInsertFork_ok {parent checkpoint : Id} {detail : String} {now : ℕ}
    (h : s.workloadInsertFork w parent checkpoint detail now = .ok s') :
    ∃ (hnew : s.workloads.get w.workloadId = none) (lineage : List LineageRecord),
      s' = { s with workloads := s.workloads.insert w hnew, lineage } := by
  unfold workloadInsertFork at h
  cases hins : s.workloadInsert w with
  | error e => simp [hins, bind, Except.bind] at h
  | ok s₁ =>
    obtain ⟨hnew, rfl⟩ := workloadInsert_ok hins
    simp only [hins, bind, Except.bind, Except.ok.injEq] at h
    exact ⟨hnew, _, h.symm⟩

theorem workloadBumpFence_ok {expectedEpoch : ℕ}
    (h : s.workloadBumpFence id expectedEpoch = .ok s') :
    ∃ w, s.workloads.get id = some w ∧ w.executionEpoch = expectedEpoch ∧
      s' = { s with
        workloads := s.workloads.modify id fun w =>
          { w with
            executionEpoch := w.executionEpoch + 1
            fenceToken := none
            activeNode := none } } := by
  unfold workloadBumpFence at h
  split at h
  · simp at h
  · rename_i w hget
    split at h
    · simp at h
    · rename_i hepoch
      cases hbind : bindInteger [w.executionEpoch + 1] with
      | error e => simp [hbind, bind, Except.bind] at h
      | ok u =>
        simp only [hbind, bind, Except.bind, Except.ok.injEq] at h
        exact ⟨w, hget, not_not.mp hepoch, h.symm⟩

theorem workloadClaim_ok {node : NodeId} {token : FenceToken} {fenceEpoch : ℕ}
    (h : s.workloadClaim id node token fenceEpoch = .ok s') :
    ∃ w, s.workloads.get id = some w ∧ claimConflict w node = none ∧
      w.executionEpoch = fenceEpoch ∧
      s' = { s with
        workloads := s.workloads.modify id fun w =>
          { w with
            activeNode := some node
            fenceToken := some token
            fenceEpoch := w.executionEpoch } } := by
  unfold workloadClaim at h
  split at h
  · simp at h
  · rename_i w hget
    split at h
    · simp at h
    · rename_i hconflict
      split at h
      · simp at h
      · rename_i hepoch
        exact ⟨w, hget, hconflict, not_not.mp hepoch, (Except.ok.inj h).symm⟩

end Workloads

section Checkpoints

variable {id : Id} {c : CheckpointObject}

@[simp] theorem get_updateCheckpoint {k : Id} {f : CheckpointObject → CheckpointObject}
    {hf : ∀ c, c.checkpointId = id → (f c).checkpointId = id} :
    (s.updateCheckpoint id f hf).checkpoints.get k =
      if id = k then (s.checkpoints.get k).map f else s.checkpoints.get k :=
  Table.get_modify _ _ _ hf _

@[simp] theorem keys_updateCheckpoint {f : CheckpointObject → CheckpointObject}
    {hf : ∀ c, c.checkpointId = id → (f c).checkpointId = id} :
    (s.updateCheckpoint id f hf).checkpoints.keys = s.checkpoints.keys :=
  Table.keys_modify _ _ _ hf

theorem bindComponents_cases (c : CheckpointObject) :
    bindComponents c = .ok () ∨ ∃ e, bindComponents c = .error e := by
  cases h : bindComponents c with
  | ok u => exact .inl rfl
  | error e => exact .inr ⟨e, rfl⟩

theorem checkpointInsert_ok (h : s.checkpointInsert c = .ok s') :
    s.generationTaken c = false ∧ ∃ hnew : s.checkpoints.get c.checkpointId = none,
      s' = { s with checkpoints := s.checkpoints.insert c hnew } := by
  unfold checkpointInsert at h
  dsimp only at h
  split at h
  · simp at h
  · split at h
    · simp at h
    · rename_i htaken
      generalize FabricError.persistenceError _ = conflict at h
      cases hrow : insertRow s.checkpoints c conflict with
      | error e => simp [hrow, bind, Except.bind] at h
      | ok checkpoints =>
        obtain ⟨hnew, rfl⟩ := insertRow_eq_ok_iff.mp hrow
        rcases bindComponents_cases c with hcomp | ⟨e, hcomp⟩
        · simp only [hrow, hcomp, bind, Except.bind, Except.ok.injEq] at h
          exact ⟨by simpa using htaken, hnew, h.symm⟩
        · simp [hrow, hcomp, bind, Except.bind] at h

theorem checkpointUpdate_ok (h : s.checkpointUpdate c = .ok s') :
    (s.checkpoints.get c.checkpointId).isSome ∧
      s' = { s with
        checkpoints := s.checkpoints.modify c.checkpointId
          (fun old => { c with workloadId := old.workloadId }) (fun _ _ => rfl) } := by
  unfold checkpointUpdate at h
  cases hbind : bindInteger (checkpointIntegers c) with
  | error e => simp [hbind, bind, Except.bind] at h
  | ok u =>
    cases hget : s.checkpoints.get c.checkpointId with
    | none => simp [hbind, hget, bind, Except.bind] at h
    | some old =>
      simp only [hbind, hget, bind, Except.bind] at h
      split at h
      · simp at h
      · rcases bindComponents_cases c with hcomp | ⟨e, hcomp⟩
        · simp only [hcomp, Except.ok.injEq] at h
          exact ⟨rfl, h.symm⟩
        · simp [hcomp] at h

theorem checkpointSetLifecycle_ok {lifecycle : LifecycleState} {integrity : IntegrityState}
    (h : s.checkpointSetLifecycle id lifecycle integrity = .ok s') :
    (s.checkpoints.get id).isSome ∧
      s' = s.updateCheckpoint id fun c => { c with lifecycle, integrityState := integrity } := by
  unfold checkpointSetLifecycle at h
  split at h
  · simp at h
  · rename_i hget
    exact ⟨by simp [hget], (Except.ok.inj h).symm⟩

theorem checkpointRetire_ok (h : s.checkpointRetire id = .ok s') :
    ∃ c, s.checkpoints.get id = some c ∧ c.protection ≠ .pinned ∧ c.lifecycle = .available ∧
      s' = s.updateCheckpoint id fun c =>
        { c with
          lifecycle := .retired
          retirementEligibility := .notEligible
          durableLocations := []
          replicaCount := 0 } := by
  unfold checkpointRetire at h
  split at h
  · simp at h
  · rename_i c hget
    split at h
    · simp at h
    · rename_i hpinned
      cases htrans : c.lifecycle.transition .retired with
      | error e => simp [htrans, bind, Except.bind] at h
      | ok u =>
        simp only [htrans, bind, Except.bind, Except.ok.injEq] at h
        exact ⟨c, hget, hpinned, LifecycleState.canTransition_retired_iff.mp
          (LifecycleState.transition_eq_ok_iff.mp htrans), h.symm⟩

theorem checkpointAddLocation_ok {location : DurableLocation}
    (h : s.checkpointAddLocation id location = .ok s') :
    (s.checkpoints.get id).isSome ∧ s' = s.setLocations id fun locations =>
      if locations.any fun l => l.node == location.node then locations
      else locations ++ [location] := by
  unfold checkpointAddLocation at h
  split at h
  · simp at h
  · rename_i hget
    exact ⟨by simp [hget], (Except.ok.inj h).symm⟩

end Checkpoints

section Nodes

variable {id : NodeId}

/-- A node that is registered has its row, and nothing else changes. -/
theorem nodeRegister_ok {addr bootId : String} {resources : NodeResources} {now : ℕ}
    (h : s.nodeRegister id addr bootId resources now = .ok s') :
    ∃ nodes, s' = { s with nodes } := by
  unfold nodeRegister at h
  split at h
  · exact ⟨_, (Except.ok.inj h).symm⟩
  · split at h
    · exact ⟨_, (Except.ok.inj h).symm⟩
    · split at h
      · exact ⟨_, (Except.ok.inj h).symm⟩
      · simp at h

theorem nodeHeartbeat_ok {resources : NodeResources} {now : ℕ}
    (h : s.nodeHeartbeat id resources now = .ok s') :
    s' = { s with
      nodes := s.nodes.modify id fun n =>
        { n with resources, status := .active, lastHeartbeatMs := now } } := by
  unfold nodeHeartbeat at h
  split at h
  · simp at h
  · exact (Except.ok.inj h).symm

theorem nodeValidateIdentity_ok {bootId : String} (h : s.nodeValidateIdentity id bootId = .ok ()) :
    ∃ n, s.nodes.get id = some n ∧ n.bootId = bootId ∧ n.status = .active := by
  unfold nodeValidateIdentity at h
  split at h
  · simp at h
  · rename_i n hget
    split at h
    · rename_i hn
      exact ⟨n, hget, hn⟩
    · simp at h

end Nodes

section Attempts

section Begin

variable {key : AttemptId} {kind : AttemptKind} {checkpointId workloadId : Option Id}
  {node : NodeId} {now : ℕ}

@[simp] theorem checkpoints_attemptBegin :
    (s.attemptBegin key kind checkpointId workloadId node now).checkpoints = s.checkpoints := by
  unfold attemptBegin
  split <;> rfl

@[simp] theorem workloads_attemptBegin :
    (s.attemptBegin key kind checkpointId workloadId node now).workloads = s.workloads := by
  unfold attemptBegin
  split <;> rfl

@[simp] theorem nodes_attemptBegin :
    (s.attemptBegin key kind checkpointId workloadId node now).nodes = s.nodes := by
  unfold attemptBegin
  split <;> rfl

@[simp] theorem reservations_attemptBegin :
    (s.attemptBegin key kind checkpointId workloadId node now).reservations = s.reservations := by
  unfold attemptBegin
  split <;> rfl

@[simp] theorem journal_attemptBegin :
    (s.attemptBegin key kind checkpointId workloadId node now).journal = s.journal := by
  unfold attemptBegin
  split <;> rfl

theorem get_attemptBegin_self :
    (s.attemptBegin key kind checkpointId workloadId node now).attempts.get key ≠ none := by
  unfold attemptBegin
  split
  · rw [Table.get_insert, if_pos rfl]
    exact Option.some_ne_none _
  · assumption

end Begin

theorem get_attemptFinish {key k : AttemptId} {state : AttemptState} {result error : Option String}
    {now : ℕ} :
    (s.attemptFinish key state result error now).attempts.get k =
      if key = k then (s.attempts.get k).map fun a =>
        { a with state, result, error, finishedMs := some now }
      else s.attempts.get k := by
  rw [attemptFinish, Table.get_modify]

end Attempts

section Reservations

theorem get_reservationRelease {key k : AttemptId} :
    (s.reservationRelease key).reservations.get k =
      if key = k then (s.reservations.get k).map fun r =>
        if r.state = .active then { r with state := .released } else r
      else s.reservations.get k := by
  rw [reservationRelease, Table.get_modify]

theorem reservationCreate_ok {id : AttemptId} {kind : ReservationKind}
    {workloadId checkpointId : Option Id} {node : NodeId} {ttlMs now : ℕ}
    (h : s.reservationCreate id kind workloadId checkpointId node ttlMs now = .ok s') :
    s.reservationActiveFor kind workloadId checkpointId = none ∧
      ∃ (r : Reservation) (hnew : s.reservations.get r.id = none),
        r = ⟨id, kind, workloadId, checkpointId, node, .active, now, now + ttlMs⟩ ∧
        s' = { s with reservations := s.reservations.insert r hnew } := by
  unfold reservationCreate at h
  dsimp only at h
  split at h
  · simp at h
  · rename_i hactive
    generalize FabricError.reservationConflict _ = conflict at h
    cases hrow : insertRow s.reservations
        ⟨id, kind, workloadId, checkpointId, node, .active, now, now + ttlMs⟩ conflict with
    | error e => simp [hrow, bind, Except.bind] at h
    | ok reservations =>
      obtain ⟨hnew, rfl⟩ := insertRow_eq_ok_iff.mp hrow
      simp only [hrow, bind, Except.bind, Except.ok.injEq] at h
      exact ⟨by simpa using hactive, _, hnew, rfl, h.symm⟩

end Reservations

section Commits

/-- The effect of a metadata commit on the row of a checkpoint that it only links. -/
def Relinked (r r' : CheckpointObject) : Prop :=
  ∃ supersedes supersededBy, r' = { r with supersedes, supersededBy }

/-- The effect of a metadata commit on the row of a workload. -/
def Recorded (r r' : Workload) : Prop :=
  ∃ checkpointGeneration resumabilityClass, r' = { r with checkpointGeneration, resumabilityClass }

theorem Recorded.refl (r : Workload) : Recorded r r := ⟨_, _, rfl⟩

theorem previous_eq_some {workloadId : Id} {generation : ℕ} {p : Id}
    (h : s.previous workloadId generation = some p) :
    ∃ r ∈ s.supersedable workloadId, r.checkpointId = p ∧ r.checkpointGeneration < generation := by
  obtain ⟨r, hr, rfl⟩ := Option.map_eq_some_iff.mp h
  obtain ⟨hmem, hlt⟩ := List.mem_filter.mp (List.argmax_mem hr)
  exact ⟨r, hmem, rfl, of_decide_eq_true hlt⟩

theorem next_eq_some {workloadId : Id} {generation : ℕ} {n : Id}
    (h : s.next workloadId generation = some n) :
    ∃ r ∈ s.supersedable workloadId, r.checkpointId = n ∧ generation < r.checkpointGeneration := by
  obtain ⟨r, hr, rfl⟩ := Option.map_eq_some_iff.mp h
  obtain ⟨hmem, hlt⟩ := List.mem_filter.mp (List.argmin_mem hr)
  exact ⟨r, hmem, rfl, of_decide_eq_true hlt⟩

theorem mem_supersedable {workloadId : Id} {r : CheckpointObject} :
    r ∈ s.supersedable workloadId ↔ s.checkpoints.get r.checkpointId = some r ∧
      r.workloadId = workloadId ∧ (r.lifecycle = .available ∨ r.lifecycle = .restored) := by
  simp [supersedable, Table.get_eq_some_iff]

/-- A row after checkpoint `id` was committed between its neighbours. -/
def linked (id : Id) (prev next : Option Id) (r : CheckpointObject) : CheckpointObject :=
  if r.checkpointId = id then
    { r with
      lifecycle := .available
      integrityState := .valid
      supersedes := prev
      supersededBy := next }
  else
    { r with
      supersedes := if next = some r.checkpointId then some id else r.supersedes
      supersededBy := if prev = some r.checkpointId then some id else r.supersededBy }

theorem linked_self {c : CheckpointObject} {prev next : Option Id} :
    linked c.checkpointId prev next c =
      { c with
        lifecycle := .available
        integrityState := .valid
        supersedes := prev
        supersededBy := next } :=
  if_pos rfl

theorem linked_of_ne {c : CheckpointObject} {id : Id} {prev next : Option Id}
    (h : c.checkpointId ≠ id) : Relinked c (linked id prev next c) := by
  rw [linked, if_neg h]
  exact ⟨_, _, rfl⟩

/-- A row that is no neighbour stays as it is. -/
theorem linked_eq_self {c : CheckpointObject} {id : Id} {prev next : Option Id}
    (h : c.checkpointId ≠ id) (hprev : prev ≠ some c.checkpointId)
    (hnext : next ≠ some c.checkpointId) : linked id prev next c = c := by
  rw [linked, if_neg h, if_neg hprev, if_neg hnext]

@[simp] theorem checkpointId_linked {c : CheckpointObject} {id : Id} {prev next : Option Id} :
    (linked id prev next c).checkpointId = c.checkpointId := by
  unfold linked
  split <;> rfl

/-- Linking changes the checkpoints only. -/
theorem linkSupersession_eq (id : Id) (prev next : Option Id) :
    ∃ checkpoints, s.linkSupersession id prev next = { s with checkpoints } := by
  cases prev <;> cases next <;> exact ⟨_, rfl⟩

theorem get_linkSupersession {id : Id} {prev next : Option Id} (hprev : prev ≠ some id)
    (hnext : next ≠ some id) (k : Id) :
    (s.linkSupersession id prev next).checkpoints.get k =
      (s.checkpoints.get k).map (linked id prev next) := by
  cases hrow : s.checkpoints.get k with
  | none => cases prev <;> cases next <;> simp [linkSupersession, hrow]
  | some r =>
    obtain rfl := Table.key_of_get hrow
    by_cases hid : id = r.checkpointId
    · subst hid
      cases prev <;> cases next <;> simp_all [linkSupersession, linked]
    · have hlink (prev next : Option Id) : linked id prev next r =
          { r with
            supersedes := if next = some r.checkpointId then some id else r.supersedes
            supersededBy := if prev = some r.checkpointId then some id else r.supersededBy } :=
        if_neg (Ne.symm hid)
      rw [Option.map_some, hlink]
      cases prev with
      | none =>
        cases next with
        | none => simp [linkSupersession, hrow, hid]
        | some n => by_cases hn : n = r.checkpointId <;> simp [linkSupersession, hrow, hid, hn]
      | some p =>
        cases next with
        | none => by_cases hp : p = r.checkpointId <;> simp [linkSupersession, hrow, hid, hp]
        | some n =>
          by_cases hp : p = r.checkpointId <;> by_cases hn : n = r.checkpointId <;>
            simp [linkSupersession, hrow, hid, hp, hn]

theorem keys_linkSupersession (id : Id) (prev next : Option Id) :
    (s.linkSupersession id prev next).checkpoints.keys = s.checkpoints.keys := by
  cases prev <;> cases next <;> simp [linkSupersession, updateCheckpoint]

theorem recordSupersession_eq (workloadId id : Id) (generation : ℕ) (prev : Option Id) (now : ℕ) :
    ∃ lineage, s.recordSupersession workloadId id generation prev now = { s with lineage } := by
  unfold recordSupersession
  split
  · exact ⟨_, rfl⟩
  · split <;> exact ⟨_, rfl⟩

/-- The workloads after a metadata commit of `c`: it counts if it is the latest. -/
def recordLatest (s : Store) (c : CheckpointObject) (w : Workload) : Table Workload.workloadId :=
  if w.checkpointGeneration ≤ c.checkpointGeneration then
    s.workloads.modify c.workloadId fun w =>
      { w with
        checkpointGeneration := c.checkpointGeneration
        resumabilityClass := c.resumability }
  else s.workloads

/-- What a metadata commit of checkpoint `id` did: `c` and `w` are the rows it found. -/
structure CaptureCommitted (s : Store) (id : Id) (attemptId : AttemptId) (s' : Store)
    (c : CheckpointObject) (w : Workload) : Prop where
  found : s.checkpoints.get id = some c
  lifecycle : c.lifecycle = .persisting ∨ c.lifecycle = .available
  located : c.durableLocations ≠ []
  anchored : ¬ (c.manifestDigest.getD "").isEmpty
  owner : s.workloads.get c.workloadId = some w
  generation : c.lifecycle = .persisting → w.workloadGeneration = c.workloadGeneration
  checkpoints : ∀ k, s'.checkpoints.get k = (s.checkpoints.get k).map
    (linked id (s.previous c.workloadId c.checkpointGeneration)
      (s.next c.workloadId c.checkpointGeneration))
  keys : s'.checkpoints.keys = s.checkpoints.keys
  workloads : s'.workloads = s.recordLatest c w
  attempts : s'.attempts = s.attempts
  nodes : s'.nodes = s.nodes
  reservations : s'.reservations = s.reservations
  journaled : ∀ kind key state, s'.Journaled kind key state ↔ s.Journaled kind key state ∨
    (.capture = kind ∧ attemptId = key ∧ .dbCommitted = state)

section Committed

variable {id : Id} {attemptId : AttemptId} {c : CheckpointObject} {w : Workload}
  (h : s.CaptureCommitted id attemptId s' c w)
include h

theorem CaptureCommitted.committed : ∃ c', s'.checkpoints.get id = some c' ∧
    Relinked { c with lifecycle := .available, integrityState := .valid } c' := by
  obtain rfl := Table.key_of_get h.found
  exact ⟨_, (h.checkpoints _).trans (congrArg _ h.found), _, _, linked_self⟩

theorem CaptureCommitted.relinked (k : Id) (hk : k ≠ id) :
    Option.Rel Relinked (s.checkpoints.get k) (s'.checkpoints.get k) := by
  rw [h.checkpoints]
  cases hrow : s.checkpoints.get k with
  | none => exact .none
  | some r => exact .some (linked_of_ne ((Table.key_of_get hrow).trans_ne hk))

/-- Only rows that are AVAILABLE or RESTORED are linked. -/
theorem CaptureCommitted.linked_cases {r : CheckpointObject}
    (hr : s.checkpoints.get r.checkpointId = some r) (hid : r.checkpointId ≠ id) :
    s'.checkpoints.get r.checkpointId = some r ∨ r.lifecycle = .available ∨
      r.lifecycle = .restored := by
  by_cases hprev : s.previous c.workloadId c.checkpointGeneration = some r.checkpointId
  · obtain ⟨p, hp, hpid, -⟩ := previous_eq_some hprev
    rw [mem_supersedable, hpid, hr] at hp
    obtain rfl := Option.some.inj hp.1
    exact .inr hp.2.2
  · by_cases hnext : s.next c.workloadId c.checkpointGeneration = some r.checkpointId
    · obtain ⟨n, hn, hnid, -⟩ := next_eq_some hnext
      rw [mem_supersedable, hnid, hr] at hn
      obtain rfl := Option.some.inj hn.1
      exact .inr hn.2.2
    · refine .inl ?_
      rw [h.checkpoints, hr, Option.map_some, linked_eq_self hid hprev hnext]

/-- The workload is marked with the later of its mark and the checkpoint. -/
theorem CaptureCommitted.exists_workload : ∃ w', s'.workloads.get c.workloadId = some w' ∧
    w'.checkpointGeneration = max w.checkpointGeneration c.checkpointGeneration := by
  rw [h.workloads, recordLatest]
  split
  · rename_i hle
    rw [Table.get_modify_self, h.owner]
    exact ⟨_, rfl, (Nat.max_eq_right hle).symm⟩
  · rename_i hlt
    exact ⟨w, h.owner, (Nat.max_eq_left (Nat.le_of_not_le hlt)).symm⟩

theorem CaptureCommitted.workload_of_ne {k : Id} (hk : c.workloadId ≠ k) :
    s'.workloads.get k = s.workloads.get k := by
  rw [h.workloads, recordLatest]
  split
  · exact Table.get_modify_of_ne _ _ _ hk
  · rfl

theorem CaptureCommitted.recorded (k : Id) :
    Option.Rel Recorded (s.workloads.get k) (s'.workloads.get k) := by
  rw [h.workloads, recordLatest]
  split
  · exact Table.rel_get_modify Recorded.refl fun _ => ⟨_, _, rfl⟩
  · exact Table.rel_refl Recorded.refl _

end Committed

theorem captureCommit_ok {id : Id} {attemptId : AttemptId} {now : ℕ}
    (h : s.captureCommit id attemptId now = .ok s') :
    ∃ c w, s.CaptureCommitted id attemptId s' c w := by
  unfold captureCommit at h
  split at h
  · simp at h
  rename_i c hc
  split at h
  · simp at h
  rename_i hlifecycle
  split at h
  · simp at h
  rename_i hanchor
  split at h
  · simp at h
  rename_i w hw
  split at h
  · simp at h
  rename_i hgeneration
  refine ⟨c, w, ?_⟩
  dsimp only at h
  -- The neighbours are other checkpoints: their generations are smaller or larger.
  have hprev : s.previous c.workloadId c.checkpointGeneration ≠ some id := by
    intro hid
    obtain ⟨r, hr, hrid, hlt⟩ := previous_eq_some hid
    rw [mem_supersedable, hrid, hc] at hr
    obtain rfl := Option.some.inj hr.1
    exact Nat.lt_irrefl _ hlt
  have hnext : s.next c.workloadId c.checkpointGeneration ≠ some id := by
    intro hid
    obtain ⟨r, hr, hrid, hlt⟩ := next_eq_some hid
    rw [mem_supersedable, hrid, hc] at hr
    obtain rfl := Option.some.inj hr.1
    exact Nat.lt_irrefl _ hlt
  have hget := get_linkSupersession (s := s) hprev hnext
  have hkeys := s.keys_linkSupersession id (s.previous c.workloadId c.checkpointGeneration)
    (s.next c.workloadId c.checkpointGeneration)
  obtain ⟨checkpoints, hlinked⟩ := s.linkSupersession_eq id
    (s.previous c.workloadId c.checkpointGeneration) (s.next c.workloadId c.checkpointGeneration)
  rw [hlinked] at h hget hkeys
  obtain ⟨lineage, hlineage⟩ := ({ s with checkpoints } : Store).recordSupersession_eq
    c.workloadId id c.checkpointGeneration (s.previous c.workloadId c.checkpointGeneration) now
  rw [hlineage] at h
  have hs' := Except.ok.inj h
  subst hs'
  refine
    { found := hc
      lifecycle := by simpa [not_and_or, or_iff_not_imp_left] using hlifecycle
      located := fun hnil => hanchor (.inl (by simp [hnil]))
      anchored := fun hempty => hanchor (.inr hempty)
      owner := hw
      generation := fun hp => by simpa [hp] using hgeneration
      checkpoints := ?_
      keys := ?_
      workloads := ?_
      attempts := ?_
      nodes := ?_
      reservations := ?_
      journaled := ?_ }
  · intro k
    split <;> simpa using hget k
  · split <;> simpa using hkeys
  · rw [workloads_journalAppend, recordLatest]
    split <;> rfl
  · split <;> simp
  · split <;> simp
  · split <;> simp
  · intro kind key state
    split <;> rw [journaled_journalAppend] <;> rfl

/-- What a generation commit of checkpoint `checkpointId` did: `c` and `w` are the rows it
found. -/
structure RestoreCommitted (s : Store) (checkpointId : Id) (attemptId : AttemptId)
    (targetNode : NodeId) (fenceToken : FenceToken) (migration : Bool) (s' : Store)
    (c : CheckpointObject) (w : Workload) : Prop where
  found : s.checkpoints.get checkpointId = some c
  lifecycle : c.lifecycle = .restoring
  owner : s.workloads.get c.workloadId = some w
  generation_le : w.workloadGeneration + 1 ≤ integerMax
  epoch_le : w.executionEpoch + 1 + migration.toNat ≤ integerMax
  workloads : s'.workloads = s.workloads.modify c.workloadId fun r =>
    { r with
      workloadGeneration := w.workloadGeneration + 1
      checkpointGeneration := c.checkpointGeneration
      executionEpoch := w.executionEpoch + 1 + migration.toNat
      activeNode := some targetNode
      fenceToken := some fenceToken
      fenceEpoch := w.executionEpoch + 1 + migration.toNat }
  checkpoints : s'.checkpoints = s.checkpoints.modify checkpointId fun c =>
    { c with
      lifecycle := .restored
      integrityState := .valid
      restoreCount := c.restoreCount + 1
      lastRestoreResult := some "restored" }
  attempts : s'.attempts = s.attempts
  nodes : s'.nodes = s.nodes
  reservations : s'.reservations = s.reservations
  journaled : ∀ kind key state, s'.Journaled kind key state ↔ s.Journaled kind key state ∨
    (.restore = kind ∧ attemptId = key ∧ .generationCommitted = state) ∨
    (migration = true ∧ .migration = kind ∧ attemptId = key ∧ .authorityTransferred = state)

/-- Within the bounds of an INTEGER column the sum is not cut off. -/
theorem saturatingAdd_of_le {a b : ℕ} (h : saturatingAdd a b ≤ integerMax) :
    saturatingAdd a b = a + b := by
  unfold saturatingAdd integerMax at *
  omega

theorem restoreCommit_ok {checkpointId : Id} {attemptId : AttemptId} {targetNode : NodeId}
    {fenceToken : FenceToken} {migration rollback : Bool} {now : ℕ}
    (h : s.restoreCommit checkpointId attemptId targetNode fenceToken migration rollback now =
      .ok s') :
    ∃ c w, s.RestoreCommitted checkpointId attemptId targetNode fenceToken migration s' c w := by
  unfold restoreCommit at h
  split at h
  · simp at h
  rename_i c hc
  split at h
  · simp at h
  rename_i htransition
  split at h
  · simp at h
  rename_i w hw
  dsimp only at h
  cases hbind : bindInteger [saturatingAdd w.workloadGeneration 1,
      saturatingAdd (saturatingAdd w.executionEpoch 1) migration.toNat] with
  | error e => simp [hbind, bind, Except.bind] at h
  | ok u =>
    obtain ⟨hgen, hepoch⟩ : saturatingAdd w.workloadGeneration 1 ≤ integerMax ∧
        saturatingAdd (saturatingAdd w.executionEpoch 1) migration.toNat ≤ integerMax := by
      simpa using bindInteger_eq_ok_iff.mp hbind
    -- The sums are bound to INTEGER columns, so none of them was cut off.
    have hepoch₁ : saturatingAdd w.executionEpoch 1 = w.executionEpoch + 1 := by
      refine saturatingAdd_of_le (le_trans ?_ hepoch)
      rw [saturatingAdd_of_le hepoch]
      exact Nat.le_add_right _ _
    have hepoch₂ := saturatingAdd_of_le hepoch
    have hgen₁ := saturatingAdd_of_le hgen
    rw [hepoch₁] at hepoch₂ hepoch
    rw [hepoch₂] at hepoch
    rw [hgen₁] at hgen
    simp only [hbind, bind, Except.bind, Except.ok.injEq] at h
    simp only [hepoch₁, hepoch₂, hgen₁] at h
    subst h
    refine ⟨c, w,
      { found := hc
        lifecycle := LifecycleState.canTransition_restored_iff.mp
          (LifecycleState.transition_eq_ok_iff.mp htransition)
        owner := hw
        generation_le := hgen
        epoch_le := hepoch
        workloads := ?_
        checkpoints := ?_
        attempts := ?_
        nodes := ?_
        reservations := ?_
        journaled := ?_ }⟩
    · cases migration <;> cases rollback <;> simp [recordRestore, updateCheckpoint]
    · cases migration <;> cases rollback <;> simp [recordRestore, updateCheckpoint]
    · cases migration <;> cases rollback <;> simp [recordRestore, updateCheckpoint]
    · cases migration <;> cases rollback <;> simp [recordRestore, updateCheckpoint]
    · cases migration <;> cases rollback <;> simp [recordRestore, updateCheckpoint]
    · intro kind key state
      -- A migration journals the transfer of authority on top of the commit.
      cases migration
      · rw [journaled_journalAppend]
        cases rollback <;> simp [Journaled, recordRestore, updateCheckpoint]
      · rw [journaled_journalAppend, if_pos rfl, journaled_journalAppend]
        cases rollback <;> simp only [true_and] <;>
          exact or_assoc.trans (or_congr_right or_comm)

end Commits

end Store

namespace StoreOp

variable {now : ℕ} {fault : Option FabricError} {op : StoreOp} {s : Store}

/-- A call fails and leaves the store as it was, or there is no fault and it succeeds. -/
theorem execute_cases (now : ℕ) (fault : Option FabricError) (op : StoreOp) (s : Store) :
    (∃ e, op.execute now fault s = (.error e, s)) ∨
      (∃ reply s', fault = none ∧ op.run now s = .ok (reply, s') ∧
        op.execute now fault s = (.ok reply, s')) := by
  unfold execute
  cases fault with
  | some e => exact .inl ⟨e, rfl⟩
  | none =>
    cases h : op.run now s with
    | error e => exact .inl ⟨e, rfl⟩
    | ok result => exact .inr ⟨result.1, result.2, rfl, rfl, rfl⟩

/-- For calls without a value, success is success of the method. -/
theorem of_map_ok {result : FabricResult Store} {u : Unit} {s' : Store}
    (h : result.map ((), ·) = .ok (u, s')) : result = .ok s' := by
  cases result with
  | error e => simp [Except.map] at h
  | ok t =>
    simp only [Except.map, Except.ok.injEq, Prod.mk.injEq] at h
    rw [h.2]

/-- For calls that cannot fail, the store they leave. -/
theorem snd_of_ok {α : Type} {result : α × Store} {reply : α} {s' : Store}
    (h : (.ok result : FabricResult (α × Store)) = .ok (reply, s')) : result.2 = s' :=
  congrArg Prod.snd (Except.ok.inj h)

/-- The calls that may write to the workloads. -/
def writesWorkloads : StoreOp → Prop
  | workloadInsert _ | workloadInsertFork _ _ _ _ | workloadBumpFence _ _ | workloadRelease _ _
  | captureCommit _ _ | restoreCommit _ _ _ _ _ _ => True
  | _ => False

/-- The calls that may write to the checkpoints. -/
def writesCheckpoints : StoreOp → Prop
  | checkpointInsert _ | checkpointUpdate _ | checkpointSetLifecycle _ _ _
  | captureCommit _ _ | restoreCommit _ _ _ _ _ _ | checkpointSetDigest _ _ _
  | checkpointSetProtection _ _ | checkpointRetire _ | checkpointSetIntegrity _ _
  | checkpointAddLocation _ _ | checkpointRebindLocation _ _ _ => True
  | _ => False

/-- The calls that may write to the attempts. -/
def writesAttempts : StoreOp → Prop
  | attemptBegin _ _ _ _ _ | attemptFinish _ _ _ _ => True
  | _ => False

/-- The calls that may write to the nodes. -/
def writesNodes : StoreOp → Prop
  | nodeRegister _ _ _ _ | nodeHeartbeat _ _ | nodeSetStatus _ _ | nodesSweepStale _ => True
  | _ => False

/-- The calls that may write to the reservations. -/
def writesReservations : StoreOp → Prop
  | reservationCreate _ _ _ _ _ _ | reservationRelease _ | reservationsExpire _ => True
  | _ => False

/-- The calls that may write to the journal. -/
def writesJournal : StoreOp → Prop
  | captureCommit _ _ | restoreCommit _ _ _ _ _ _ | journalAppend _ _ _ _ => True
  | _ => False

/-- A table that a call does not write to stays as it is. -/
structure Frame (op : StoreOp) (s s' : Store) : Prop where
  workloads : ¬ op.writesWorkloads → s'.workloads = s.workloads
  checkpoints : ¬ op.writesCheckpoints → s'.checkpoints = s.checkpoints
  attempts : ¬ op.writesAttempts → s'.attempts = s.attempts
  nodes : ¬ op.writesNodes → s'.nodes = s.nodes
  reservations : ¬ op.writesReservations → s'.reservations = s.reservations
  journal : ¬ op.writesJournal → s'.journal = s.journal

theorem Frame.refl (op : StoreOp) (s : Store) : Frame op s s := by
  constructor <;> exact fun _ => rfl

theorem frame_of_run {reply : op.Reply} {s' : Store} (h : op.run now s = .ok (reply, s')) :
    Frame op s s' := by
  cases op
  case workloadInsert w =>
    obtain ⟨hnew, rfl⟩ := Store.workloadInsert_ok (of_map_ok h)
    constructor <;> simp [writesWorkloads]
  case workloadInsertFork child parent checkpoint detail =>
    obtain ⟨hnew, lineage, rfl⟩ := Store.workloadInsertFork_ok (of_map_ok h)
    constructor <;> simp [writesWorkloads]
  case workloadBumpFence id expectedEpoch =>
    obtain ⟨w, -, -, rfl⟩ := Store.workloadBumpFence_ok (of_map_ok h)
    constructor <;> simp [writesWorkloads]
  case checkpointInsert c =>
    obtain ⟨-, hnew, rfl⟩ := Store.checkpointInsert_ok (of_map_ok h)
    constructor <;> simp [writesCheckpoints]
  case checkpointUpdate c =>
    obtain ⟨-, rfl⟩ := Store.checkpointUpdate_ok (of_map_ok h)
    constructor <;> simp [writesCheckpoints]
  case checkpointSetLifecycle id lifecycle integrity =>
    obtain ⟨-, rfl⟩ := Store.checkpointSetLifecycle_ok (of_map_ok h)
    constructor <;> simp [writesCheckpoints, Store.updateCheckpoint]
  case checkpointRetire id =>
    obtain ⟨c, -, -, -, rfl⟩ := Store.checkpointRetire_ok (of_map_ok h)
    constructor <;> simp [writesCheckpoints, Store.updateCheckpoint]
  case checkpointAddLocation id location =>
    obtain ⟨-, rfl⟩ := Store.checkpointAddLocation_ok (of_map_ok h)
    constructor <;> simp [writesCheckpoints, Store.setLocations, Store.updateCheckpoint]
  case captureCommit id attemptId =>
    obtain ⟨c, w, hcommit⟩ := Store.captureCommit_ok (of_map_ok h)
    constructor <;> simp [writesWorkloads, writesCheckpoints, writesJournal, hcommit.attempts,
      hcommit.nodes, hcommit.reservations]
  case restoreCommit checkpointId attemptId targetNode fenceToken migration rollback =>
    obtain ⟨c, w, hcommit⟩ := Store.restoreCommit_ok (of_map_ok h)
    constructor <;> simp [writesWorkloads, writesCheckpoints, writesJournal, hcommit.attempts,
      hcommit.nodes, hcommit.reservations]
  case nodeRegister id addr bootId resources =>
    obtain ⟨nodes, rfl⟩ := Store.nodeRegister_ok (of_map_ok h)
    constructor <;> simp [writesNodes]
  case nodeHeartbeat id resources =>
    obtain rfl := Store.nodeHeartbeat_ok (of_map_ok h)
    constructor <;> simp [writesNodes]
  -- A check: it fails, or leaves the store as it is.
  case nodeValidateIdentity id bootId =>
    simp only [run] at h
    cases hvalid : s.nodeValidateIdentity id bootId with
    | error e => simp [hvalid, Except.map] at h
    | ok u =>
      simp only [hvalid, Except.map] at h
      rw [← snd_of_ok h]
      exact Frame.refl _ _
  case reservationCreate id kind workloadId checkpointId node ttlMs =>
    obtain ⟨-, r, hnew, -, rfl⟩ := Store.reservationCreate_ok (of_map_ok h)
    constructor <;> simp [writesReservations]
  case attemptBegin id kind checkpointId workloadId node =>
    rw [← snd_of_ok h]
    unfold Store.attemptBegin
    split
    · constructor <;> simp [writesAttempts]
    · exact Frame.refl _ _
  case journalAppend kind key state detail =>
    obtain ⟨journal, hjournal⟩ := s.journalAppend_eq kind key state detail now
    rw [← snd_of_ok h, hjournal]
    constructor <;> simp [writesJournal]
  -- What is left never fails, and is an update of one table.
  all_goals
    obtain rfl := snd_of_ok h
    constructor <;> simp [writesWorkloads, writesCheckpoints, writesAttempts, writesNodes,
      writesReservations, writesJournal, Store.workloadRelease, Store.checkpointSetDigest,
      Store.checkpointSetIntegrity, Store.checkpointSetProtection, Store.checkpointRebindLocation,
      Store.setLocations, Store.updateCheckpoint, Store.attemptFinish, Store.nodeSetStatus,
      Store.nodesSweepStale, Store.reservationRelease, Store.reservationsExpire]

/-- A call inserts a checkpoint, or leaves the keys of the checkpoints as they are. -/
theorem keys_of_run {reply : op.Reply} {s' : Store} (h : op.run now s = .ok (reply, s')) :
    (∃ c, ∃ hnew : s.checkpoints.get c.checkpointId = none, op = .checkpointInsert c ∧
      s.generationTaken c = false ∧ s'.checkpoints = s.checkpoints.insert c hnew) ∨
    s'.checkpoints.keys = s.checkpoints.keys := by
  by_cases hwrites : op.writesCheckpoints
  · cases op
    case checkpointInsert c =>
      obtain ⟨htaken, hnew, rfl⟩ := Store.checkpointInsert_ok (of_map_ok h)
      exact .inl ⟨c, hnew, rfl, htaken, rfl⟩
    case checkpointUpdate c =>
      obtain ⟨-, rfl⟩ := Store.checkpointUpdate_ok (of_map_ok h)
      exact .inr (by simp)
    case checkpointSetLifecycle id lifecycle integrity =>
      obtain ⟨-, rfl⟩ := Store.checkpointSetLifecycle_ok (of_map_ok h)
      exact .inr Store.keys_updateCheckpoint
    case captureCommit id attemptId =>
      obtain ⟨c, w, hcommit⟩ := Store.captureCommit_ok (of_map_ok h)
      exact .inr hcommit.keys
    case restoreCommit checkpointId attemptId targetNode token migration rollback =>
      obtain ⟨c, w, hcommit⟩ := Store.restoreCommit_ok (of_map_ok h)
      exact .inr (by simp [hcommit.checkpoints])
    case checkpointRetire id =>
      obtain ⟨c, -, -, -, rfl⟩ := Store.checkpointRetire_ok (of_map_ok h)
      exact .inr Store.keys_updateCheckpoint
    case checkpointAddLocation id location =>
      obtain ⟨-, rfl⟩ := Store.checkpointAddLocation_ok (of_map_ok h)
      exact .inr Store.keys_updateCheckpoint
    all_goals first
      | exact absurd hwrites not_false
      | (obtain rfl := snd_of_ok h
         exact .inr Store.keys_updateCheckpoint)
  · exact .inr (congrArg Table.keys ((frame_of_run h).checkpoints hwrites))

/-- A call inserts an attempt, or leaves the keys of the attempts as they are. -/
theorem attempts_of_run {reply : op.Reply} {s' : Store} (h : op.run now s = .ok (reply, s')) :
    (∃ a, ∃ hnew : s.attempts.get a.id = none, s'.attempts = s.attempts.insert a hnew) ∨
    s'.attempts.keys = s.attempts.keys := by
  by_cases hwrites : op.writesAttempts
  · cases op
    case attemptBegin id kind checkpointId workloadId node =>
      obtain rfl := snd_of_ok h
      unfold Store.attemptBegin
      split
      · rename_i hnew
        exact .inl ⟨_, hnew, rfl⟩
      · exact .inr rfl
    case attemptFinish id state result error =>
      obtain rfl := snd_of_ok h
      exact .inr (by simp [Store.attemptFinish])
    all_goals exact absurd hwrites not_false
  · exact .inr (congrArg Table.keys ((frame_of_run h).attempts hwrites))

/-- The call marks the journal. -/
def Marks : StoreOp → JournalKind → AttemptId → JournalState → Prop
  | journalAppend kind key state _, kind', key', state' =>
    kind = kind' ∧ key = key' ∧ state = state'
  | captureCommit _ key, kind', key', state' =>
    .capture = kind' ∧ key = key' ∧ .dbCommitted = state'
  | restoreCommit _ key _ _ migration _, kind', key', state' =>
    (.restore = kind' ∧ key = key' ∧ .generationCommitted = state') ∨
      (migration = true ∧ .migration = kind' ∧ key = key' ∧ .authorityTransferred = state')
  | _, _, _, _ => False

/-- A call adds its marks to the journal, and removes none. -/
theorem journaled_of_run {reply : op.Reply} {s' : Store} {kind : JournalKind} {key : AttemptId}
    {state : JournalState} (h : op.run now s = .ok (reply, s')) :
    s'.Journaled kind key state ↔ s.Journaled kind key state ∨ op.Marks kind key state := by
  by_cases hwrites : op.writesJournal
  · cases op
    case captureCommit id attemptId =>
      obtain ⟨c, w, hcommit⟩ := Store.captureCommit_ok (of_map_ok h)
      exact hcommit.journaled kind key state
    case restoreCommit checkpointId attemptId targetNode token migration rollback =>
      obtain ⟨c, w, hcommit⟩ := Store.restoreCommit_ok (of_map_ok h)
      exact hcommit.journaled kind key state
    case journalAppend kind' key' state' detail =>
      rw [← snd_of_ok h]
      exact Store.journaled_journalAppend
    all_goals exact absurd hwrites not_false
  · have hmarks : ¬ op.Marks kind key state := by
      cases op <;> first | exact not_false | exact absurd trivial hwrites
    rw [or_iff_left hmarks, Store.Journaled, (frame_of_run h).journal hwrites, Store.Journaled]

/-- The calls that only look. -/
def Reads : StoreOp → Prop
  | workloadGet _ | workloadList | checkpointMaxGeneration _ | checkpointGet _
  | checkpointList _ | attemptGet _ | attemptsInState _ | nodeList | nodeValidateIdentity _ _
  | reservationActiveFor _ _ _ | auditAppend _ | journalHas _ _ _ => True
  | _ => False

/-- A call that only looks leaves the store as it was. -/
theorem store_of_reads {op : StoreOp} {now : ℕ} {s s' : Store} {reply : op.Reply} (hop : op.Reads)
    (h : op.run now s = .ok (reply, s')) : s' = s := by
  cases op
  case nodeValidateIdentity id bootId =>
    unfold run at h
    cases hvalid : s.nodeValidateIdentity id bootId with
    | error e => simp [hvalid, Except.map] at h
    | ok u =>
      simp only [hvalid, Except.map, Except.ok.injEq, Prod.mk.injEq] at h
      exact h.2.symm
  all_goals first
    | exact absurd hop not_false
    | exact (Prod.mk.inj (Except.ok.inj h)).2.symm

end StoreOp

end CheckpointFabric
