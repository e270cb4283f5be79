import CheckpointFabric.Alone.Basic
import CheckpointFabric.Footprints.Decisions

/-!
# Recovery that runs alone

A pass decides the ACTIVE attempts one after the other. Nothing that it does can be refused: the
lifecycle changes it asks for are legal in every state that it asks for them in, and the rows it
needs are there. What it decides about a restore follows from the journal alone, and only a
restore whose components are journaled as restored has its checkpoint put back.

## Main definitions

* `Recoverable` — what the decision about an attempt rests on
* `Closed` — what the decision about an attempt changes
* `Repairs` — the decision about an attempt puts a checkpoint back
* `Deciding` — what holds between two decisions

## Main results

* `ends_reconcileAttempt` — an attempt is decided, and only its rows change
* `ends_reconcile` — what a pass does before it decides the attempts
-/

set_option autoImplicit false

namespace CheckpointFabric

open Concurrency Coordinator Fabric

/-- A capture that is journaled as persisted has a checkpoint that can be committed. -/
def Recoverable (s : Store) (a : AttemptRecord) : Prop :=
  a.kind = .capture → s.Journaled .capture a.id .persisted →
    ∃ id ∈ a.checkpointId, s.checkpoints.get id ≠ none

/-- The workload is in the same generation, and under the same authority. -/
def SameAuthority (r r' : Workload) : Prop :=
  r'.workloadGeneration = r.workloadGeneration ∧ r'.executionEpoch = r.executionEpoch ∧
    r'.activeNode = r.activeNode ∧ r'.fenceToken = r.fenceToken

theorem SameAuthority.refl (r : Workload) : SameAuthority r r := ⟨rfl, rfl, rfl, rfl⟩

/-- What is left as it is before an attempt is closed: the attempts and reservations, the authority
over the workloads, and what the next decisions rest on. -/
structure Kept (s s' : Store) : Prop where
  attempts : s'.attempts = s.attempts
  reservations : s'.reservations = s.reservations
  rows : ∀ id, s.checkpoints.get id ≠ none → s'.checkpoints.get id ≠ none
  persisted : ∀ key, s'.Journaled .capture key .persisted → s.Journaled .capture key .persisted
  workloads : ∀ id, Option.Rel SameAuthority (s.workloads.get id) (s'.workloads.get id)
  restores : ∀ key state, s'.Journaled .restore key state ↔ s.Journaled .restore key state

/-- The attempt is finished as `state` and its reservation is released; other attempts and
reservations are left as they are. -/
structure Closed (key : AttemptId) (state : AttemptState) (s s' : Store) : Prop where
  finished : ∀ a, s'.attempts.get key = some a → a.state = state
  opened : s.attempts.get key ≠ none → s'.attempts.get key ≠ none
  attempts : ∀ k, k ≠ key → s'.attempts.get k = s.attempts.get k
  released : ∀ r, s'.reservations.get key = some r → r.state ≠ .active
  reservations : ∀ k, k ≠ key → s'.reservations.get k = s.reservations.get k
  rows : ∀ id, s.checkpoints.get id ≠ none → s'.checkpoints.get id ≠ none
  persisted : ∀ key, s'.Journaled .capture key .persisted → s.Journaled .capture key .persisted
  workloads : ∀ id, Option.Rel SameAuthority (s.workloads.get id) (s'.workloads.get id)
  restores : ∀ key state, s'.Journaled .restore key state ↔ s.Journaled .restore key state

/-- The attempt is finished, whatever as. -/
def Decided (key : AttemptId) (s s' : Store) : Prop :=
  ∃ state, state ≠ .active ∧ Closed key state s s'

/-- What recovery finishes the attempt of a restore as. -/
def restoreVerdict (s : Store) (key : AttemptId) : AttemptState :=
  if s.journalHas .restore key .generationCommitted then .committed else .failed

section Decisions

variable {s s' s'' : Store} {key : AttemptId} {state : AttemptState}

theorem restoreVerdict_ne_active : restoreVerdict s key ≠ .active := by
  unfold restoreVerdict
  split <;> decide

theorem SameAuthority.trans {r r' r'' : Workload} (h : SameAuthority r r')
    (h' : SameAuthority r' r'') : SameAuthority r r'' :=
  ⟨h'.1.trans h.1, h'.2.1.trans h.2.1, h'.2.2.1.trans h.2.2.1, h'.2.2.2.trans h.2.2.2⟩

/-- No workload changes hands in either of two parts. -/
theorem rel_authority_trans {r r' r'' : Option Workload} (h : Option.Rel SameAuthority r r')
    (h' : Option.Rel SameAuthority r' r'') : Option.Rel SameAuthority r r'' := by
  cases h with
  | none => exact h'
  | some h =>
    cases h' with
    | some h' => exact .some (h.trans h')

theorem Kept.refl (s : Store) : Kept s s :=
  ⟨rfl, rfl, fun _ h => h, fun _ h => h, fun _ => Table.rel_refl SameAuthority.refl _,
    fun _ _ => Iff.rfl⟩

theorem Kept.of_closed (h : Kept s s') (hclosed : Closed key state s' s'') :
    Closed key state s s'' where
  finished := hclosed.finished
  opened := h.attempts ▸ hclosed.opened
  attempts := h.attempts ▸ hclosed.attempts
  released := hclosed.released
  reservations := h.reservations ▸ hclosed.reservations
  rows := fun id hid => hclosed.rows id (h.rows id hid)
  persisted := fun key hj => h.persisted key (hclosed.persisted key hj)
  workloads := fun id => rel_authority_trans (h.workloads id) (hclosed.workloads id)
  restores := fun key state => (hclosed.restores key state).trans (h.restores key state)

theorem Recoverable.mono {a : AttemptRecord} (h : Recoverable s a)
    (hrows : ∀ id, s.checkpoints.get id ≠ none → s'.checkpoints.get id ≠ none)
    (hpersisted : ∀ key, s'.Journaled .capture key .persisted →
      s.Journaled .capture key .persisted) : Recoverable s' a := by
  intro hkind hj
  obtain ⟨id, hid, hrow⟩ := h hkind (hpersisted _ hj)
  exact ⟨id, hid, hrows id hrow⟩

/-- A metadata commit keeps what the decisions rest on. -/
theorem kept_of_captureCommit {id : Id} {now : ℕ} (h : s.captureCommit id key now = .ok s') :
    Kept s s' := by
  obtain ⟨c, w, hcommit⟩ := Store.captureCommit_ok h
  refine ⟨hcommit.attempts, hcommit.reservations, fun k hk => ?_, fun k hj => ?_, fun k => ?_,
    fun k state => ?_⟩
  · rwa [← Table.mem_keys_iff, hcommit.keys, Table.mem_keys_iff]
  · rcases (hcommit.journaled _ _ _).mp hj with hold | ⟨-, -, hstate⟩
    · exact hold
    · exact nomatch hstate
  · rw [hcommit.workloads, Store.recordLatest]
    split
    · rw [Table.get_modify]
      cases s.workloads.get k with
      | none => split <;> exact .none
      | some r => split <;> exact .some ⟨rfl, rfl, rfl, rfl⟩
    · exact Table.rel_refl SameAuthority.refl _
  · rw [hcommit.journaled]
    refine or_iff_left ?_
    rintro ⟨hkind, -⟩
    cases hkind

/-- So does a change of the lifecycle. -/
theorem kept_of_setLifecycle {id : Id} {lifecycle : LifecycleState} {integrity : IntegrityState}
    (h : s.checkpointSetLifecycle id lifecycle integrity = .ok s') : Kept s s' := by
  obtain ⟨-, rfl⟩ := Store.checkpointSetLifecycle_ok h
  refine ⟨rfl, rfl, fun k hk => ?_, fun _ hj => hj, fun _ => Table.rel_refl SameAuthority.refl _,
    fun _ _ => Iff.rfl⟩
  rw [Store.get_updateCheckpoint]
  split
  · rwa [Ne, Option.map_eq_none_iff]
  · exact hk

theorem checkpointSetLifecycle_of_row {id : Id} {lifecycle : LifecycleState}
    {integrity : IntegrityState} (h : s.checkpoints.get id ≠ none) :
    ∃ s', s.checkpointSetLifecycle id lifecycle integrity = .ok s' := by
  unfold Store.checkpointSetLifecycle
  cases hrow : s.checkpoints.get id with
  | none => exact absurd hrow h
  | some c => exact ⟨_, rfl⟩

theorem mem_attemptsInState {a : AttemptRecord} :
    a ∈ s.attemptsInState state ↔ s.attempts.get a.id = some a ∧ a.state = state := by
  rw [Store.attemptsInState, List.mem_insertionSort, List.mem_filter, beq_iff_eq]
  exact and_congr_left fun _ => ⟨Table.get_of_mem, Table.mem_of_get⟩

end Decisions

section Reconcile

variable {s : Snapshot} {key : AttemptId} {id : Id}

/-- Closing an attempt never fails. -/
theorem ends_closeAttempt {s₀ : Store} {state : AttemptState} {result error : Option String}
    (hkept : Kept s₀ s.store) :
    Ends Snapshot.Step (fun reply s' => reply = .ok () ∧ Closed key state s₀ s'.store)
      (closeAttempt key state result error) s := by
  refine ends_db_bind (fun now => rfl) fun now n _ _ => ?_
  refine ends_db_ok (fun now => rfl) fun now' n' _ _ => ⟨rfl, hkept.of_closed ?_⟩
  refine ⟨fun a ha => ?_, fun hopened => ?_, fun k hk => ?_, fun r hr => ?_, fun k hk => ?_,
    fun _ h => h, fun _ h => h, fun _ => Table.rel_refl SameAuthority.refl _, fun _ _ => Iff.rfl⟩
  · have ha : (s.store.attemptFinish key state result error now).attempts.get key = some a := ha
    rw [Store.get_attemptFinish, if_pos rfl, Option.map_eq_some_iff] at ha
    obtain ⟨_, -, rfl⟩ := ha
    rfl
  · change (s.store.attemptFinish key state result error now).attempts.get key ≠ none
    rw [Store.get_attemptFinish, if_pos rfl, Ne, Option.map_eq_none_iff]
    exact hopened
  · exact Store.get_attemptFinish.trans (if_neg hk.symm)
  · rw [Store.get_reservationRelease, if_pos rfl, Option.map_eq_some_iff] at hr
    obtain ⟨r', -, rfl⟩ := hr
    split
    · simp
    · assumption
  · exact Store.get_reservationRelease.trans (if_neg hk.symm)

theorem ends_audit {op : String} :
    Ends Snapshot.Step
      (fun reply s' => reply = .ok () ∧ s'.store = s.store ∧ s.clock ≤ s'.clock) (audit op) s :=
  ends_db_ok (fun _ => rfl) fun _ _ hclock _ => ⟨rfl, rfl, hclock⟩

/-- What closes an attempt and then answers with an action. -/
theorem ends_closing {p : Fabric Unit} {s₀ : Store} {state : AttemptState}
    {action : RecoveryAction}
    (hp : Ends Snapshot.Step (fun reply s' => reply = .ok () ∧ Closed key state s₀ s'.store) p s) :
    Ends Snapshot.Step
      (fun result s' => (∃ action, result = .ok action) ∧ Closed key state s₀ s'.store)
      (p >>= fun _ => pure action) s := by
  refine Ends.bind hp (fun _ s' h => ⟨⟨_, rfl⟩, h.2⟩) ?_
  rintro e s' ⟨h, -⟩
  cases h

/-- Likewise with an audit record in between. -/
theorem ends_closing_audit {p : Fabric Unit} {s₀ : Store} {state : AttemptState}
    {action : RecoveryAction} {op : String}
    (hp : Ends Snapshot.Step (fun reply s' => reply = .ok () ∧ Closed key state s₀ s'.store) p s) :
    Ends Snapshot.Step
      (fun result s' => (∃ action, result = .ok action) ∧ Closed key state s₀ s'.store)
      (p >>= fun _ => audit op >>= fun _ => pure action) s := by
  refine Ends.bind hp (fun _ s' h => ?_) ?_
  · refine ends_closing (ends_audit.weaken fun result s'' h' => ⟨h'.1, ?_⟩)
    rw [h'.2.1]
    exact h.2
  · rintro e s' ⟨h, -⟩
    cases h

/-- What is closed as anything but ACTIVE is decided. -/
theorem ends_decided {p : Fabric RecoveryAction} {s₀ : Store} {state : AttemptState}
    (hstate : state ≠ .active)
    (hp : Ends Snapshot.Step
      (fun result s' => (∃ action, result = .ok action) ∧ Closed key state s₀ s'.store) p s) :
    Ends Snapshot.Step
      (fun result s' => (∃ action, result = .ok action) ∧ Decided key s₀ s'.store) p s :=
  hp.weaken fun _ _ h => ⟨h.1, state, hstate, h.2⟩

theorem ends_setLifecycle_row {lifecycle : LifecycleState} {integrity : IntegrityState}
    (hrow : s.store.checkpoints.get id ≠ none) :
    Ends Snapshot.Step (fun reply s' => reply = .ok () ∧ Kept s.store s'.store)
      (db (.checkpointSetLifecycle id lifecycle integrity)) s := by
  obtain ⟨store, hset⟩ : ∃ store,
      s.store.checkpointSetLifecycle id lifecycle integrity = .ok store :=
    checkpointSetLifecycle_of_row hrow
  refine ends_db_ok (fun now => ?_) fun now n _ _ => ⟨rfl, kept_of_setLifecycle hset⟩
  rw [StoreOp.run, hset]
  rfl

/-- A capture that is journaled as persisted is committed now, or its checkpoint fails. -/
theorem ends_recommitCapture (hrow : s.store.checkpoints.get id ≠ none) :
    Ends Snapshot.Step
      (fun result s' => (∃ action, result = .ok action) ∧ Decided key s.store s'.store)
      (recommitCapture key id) s := by
  obtain ⟨c, hc⟩ := Option.ne_none_iff_exists'.mp hrow
  unfold recommitCapture
  refine ends_requireCheckpoint_bind hc fun now n _ _ => ?_
  have hcommit (s : Snapshot) : Ends Snapshot.Step (fun result s' =>
      result = .ok () ∧ Kept s.store s'.store ∨ (∃ e, result = .error e) ∧ s'.store = s.store)
      (db (.captureCommit id key)) s := by
    refine ends_db_cases (fun now n reply store _ _ hrun => .inl ⟨rfl, ?_⟩)
      fun now n e _ _ _ => .inr ⟨⟨e, rfl⟩, rfl⟩
    exact kept_of_captureCommit (StoreOp.of_map_ok hrun)
  refine Ends.attempt_bind (hcommit _) fun result s' h => ?_
  rcases h with ⟨rfl, hkept⟩ | ⟨⟨e, rfl⟩, hstore⟩
  · exact ends_decided (by decide) (ends_closing_audit (ends_closeAttempt hkept))
  · dsimp only
    split
    · rename_i hlifecycle
      -- Both states can fail, so the transition is legal.
      have hlegal : c.lifecycle.canTransition .failed := by
        rw [LifecycleState.canTransition_failed_iff]
        rcases Bool.or_eq_true_iff.mp hlifecycle with h | h <;>
          simp [show c.lifecycle = _ from beq_iff_eq.mp h]
      have htransition : (Store.readCheckpoint c).lifecycle.transition .failed = .ok () :=
        LifecycleState.transition_eq_ok_iff.mpr hlegal
      rw [htransition, ends_ofExcept_bind]
      refine ⟨fun _ _ => Ends.bind (ends_setLifecycle_row (hstore ▸ hrow))
        (fun _ s₁ h => ends_decided (by decide)
          (ends_closing_audit (ends_closeAttempt (hstore ▸ h.2)))) ?_, ?_⟩
      · rintro e s' ⟨h, -⟩
        cases h
      · rintro _ ⟨⟩
    · exact ends_decided (by decide)
        (ends_closing_audit (ends_closeAttempt (hstore ▸ Kept.refl s'.store)))

/-- A capture attempt is decided. -/
theorem ends_reconcileCapture {a : AttemptRecord} (hkind : a.kind = .capture)
    (h : Recoverable s.store a) :
    Ends Snapshot.Step
      (fun result s' => (∃ action, result = .ok action) ∧ Decided a.id s.store s'.store)
      (reconcileCapture a) s := by
  unfold reconcileCapture
  refine ends_db_bind (fun _ => rfl) fun now n _ _ => ?_
  refine ends_db_bind (fun _ => rfl) fun now n _ _ => ?_
  dsimp only
  split
  · exact ends_decided (by decide) (ends_closing (ends_closeAttempt (Kept.refl s.store)))
  · split
    · rename_i hpersisted
      obtain ⟨id, hid, hrow⟩ := h hkind (Store.journalHas_eq_true_iff.mp hpersisted)
      rw [Option.mem_def.mp hid]
      exact ends_recommitCapture hrow
    · exact ends_decided (by decide)
        (ends_closing_audit (ends_closeAttempt (Kept.refl s.store)))

/-- A checkpoint that is on its way through a restore can go back. -/
theorem ends_returnToAvailable :
    Ends Snapshot.Step (fun reply s' => reply = .ok () ∧ Kept s.store s'.store)
      (returnToAvailable id) s := by
  unfold returnToAvailable
  refine ends_db_bind (fun _ => rfl) fun now n _ _ => ?_
  cases hrow : s.store.checkpoints.get id with
  | none =>
    rw [Store.checkpointGet, hrow]
    exact ⟨rfl, Kept.refl _⟩
  | some c =>
    rw [Store.checkpointGet, hrow]
    dsimp only [Option.map_some]
    split
    · rename_i hlifecycle
      have htransition : (Store.readCheckpoint c).lifecycle.transition .available = .ok () := by
        rcases Bool.or_eq_true_iff.mp hlifecycle with h | h <;> rw [beq_iff_eq.mp h] <;> rfl
      rw [htransition]
      exact ends_setLifecycle_row (by simp [hrow])
    · exact ⟨rfl, Kept.refl _⟩

/-- A restore attempt is decided by its journal. -/
theorem ends_reconcileRestore {a : AttemptRecord} :
    Ends Snapshot.Step
      (fun result s' => (∃ action, result = .ok action) ∧
        Closed a.id (restoreVerdict s.store a.id) s.store s'.store)
      (reconcileRestore a) s := by
  unfold reconcileRestore
  refine ends_db_bind (fun _ => rfl) fun now n _ _ => ?_
  refine ends_db_bind (fun _ => rfl) fun now n _ _ => ?_
  refine ends_db_bind (fun _ => rfl) fun now n _ _ => ?_
  dsimp only
  split
  · rename_i hcommitted
    rw [restoreVerdict, if_pos hcommitted]
    split
    · exact ends_closing_audit (ends_closeAttempt (Kept.refl s.store))
    · exact ends_closing (ends_closeAttempt (Kept.refl s.store))
  · rename_i hcommitted
    rw [restoreVerdict, if_neg hcommitted]
    split
    · cases a.checkpointId with
      | none => exact ends_closing_audit (ends_closeAttempt (Kept.refl s.store))
      | some id =>
        refine Ends.bind ends_returnToAvailable
          (fun _ s₁ h => ends_closing_audit (ends_closeAttempt h.2)) ?_
        rintro e s' ⟨h, -⟩
        cases h
    · exact ends_closing (ends_closeAttempt (Kept.refl s.store))

/-- An attempt is decided, and nothing but its rows and its checkpoint changes. What becomes of a
restore follows from its journal. -/
theorem ends_reconcileAttempt {a : AttemptRecord} (h : Recoverable s.store a) :
    Ends Snapshot.Step
      (fun result s' => (∃ action, result = .ok action) ∧ ∃ state,
        (state ≠ .active ∧ (a.kind ≠ .capture → state = restoreVerdict s.store a.id)) ∧
          Closed a.id state s.store s'.store)
      (reconcileAttempt a) s := by
  unfold reconcileAttempt
  cases hkind : a.kind with
  | capture =>
    refine (ends_reconcileCapture hkind h).weaken fun result s' h' => ?_
    obtain ⟨hok, state, hstate, hclosed⟩ := h'
    exact ⟨hok, state, ⟨hstate, fun hne => absurd rfl hne⟩, hclosed⟩
  | restore | rollback =>
    exact ends_reconcileRestore.weaken fun result s' h' =>
      ⟨h'.1, _, ⟨restoreVerdict_ne_active, fun _ => rfl⟩, h'.2⟩

/-- The row of the attempt is ACTIVE. -/
def Store.Pending (s : Store) (a : AttemptRecord) : Prop :=
  s.attempts.get a.id = some a ∧ a.state = .active

/-- What the decisions so far have made of the store `s₀`; those about `rest` are to come. -/
structure Deciding (s₀ : Store) (rest : List AttemptRecord) (s : Snapshot) : Prop where
  recoverable : ∀ a ∈ rest, Recoverable s.store a
  pending : ∀ a ∈ rest, s₀.Pending a
  kept : ∀ key, (∀ a, s₀.Pending a → a.id ≠ key) →
    s.store.attempts.get key = s₀.attempts.get key ∧
      s.store.reservations.get key = s₀.reservations.get key
  opened : ∀ key, s₀.attempts.get key ≠ none → s.store.attempts.get key ≠ none
  finished : ∀ a, s₀.Pending a → a ∉ rest → ∀ a', s.store.attempts.get a.id = some a' →
    a'.state ≠ .active ∧ (a.kind ≠ .capture → a'.state = restoreVerdict s₀ a.id)
  released : ∀ a, s₀.Pending a → a ∉ rest →
    ∀ r, s.store.reservations.get a.id = some r → r.state ≠ .active
  workloads : ∀ id, Option.Rel SameAuthority (s₀.workloads.get id) (s.store.workloads.get id)
  restores : ∀ key state, s.store.Journaled .restore key state ↔ s₀.Journaled .restore key state

theorem Store.Pending.eq {s₀ : Store} {a b : AttemptRecord} (ha : s₀.Pending a)
    (hb : s₀.Pending b) (hid : a.id = b.id) : a = b :=
  Option.some.inj (ha.1.symm.trans (hid ▸ hb.1))

theorem restoreVerdict_congr {s₀ s₁ : Store}
    (h : ∀ state, s₁.Journaled .restore key state ↔ s₀.Journaled .restore key state) :
    restoreVerdict s₁ key = restoreVerdict s₀ key := by
  have hsame : s₁.journalHas .restore key .generationCommitted =
      s₀.journalHas .restore key .generationCommitted := by
    rw [Bool.eq_iff_iff, Store.journalHas_eq_true_iff, Store.journalHas_eq_true_iff, h]
  rw [restoreVerdict, restoreVerdict, hsame]

/-- A pass starts with everything that is ACTIVE to be decided. -/
theorem deciding_of_recoverable {s₀ : Store} {nodes : Table NodeRecord.id} {now n : ℕ}
    (h : ∀ a, s₀.attempts.get a.id = some a → Recoverable s₀ a) :
    Deciding s₀ (s₀.attemptsInState .active) ⟨{ s₀ with nodes }, now, n⟩ where
  recoverable := fun a ha => h a (mem_attemptsInState.mp ha).1
  pending := fun _ ha => mem_attemptsInState.mp ha
  kept := fun _ _ => ⟨rfl, rfl⟩
  opened := fun _ => id
  finished := fun _ ha hrest => absurd (mem_attemptsInState.mpr ha) hrest
  released := fun _ ha hrest => absurd (mem_attemptsInState.mpr ha) hrest
  workloads := fun _ => Table.rel_refl SameAuthority.refl _
  restores := fun _ _ => Iff.rfl

theorem Deciding.next {s₀ : Store} {s₁ s₂ : Snapshot} {a : AttemptRecord}
    {rest : List AttemptRecord} {state : AttemptState} (h : Deciding s₀ (a :: rest) s₁)
    (hstate : state ≠ .active ∧ (a.kind ≠ .capture → state = restoreVerdict s₁.store a.id))
    (hclosed : Closed a.id state s₁.store s₂.store) : Deciding s₀ rest s₂ where
  recoverable := fun b hb => (h.recoverable b (.tail a hb)).mono hclosed.rows hclosed.persisted
  pending := fun b hb => h.pending b (.tail a hb)
  kept := fun key hkey => by
    have hne : key ≠ a.id := fun heq => hkey a (h.pending a (.head rest)) heq.symm
    obtain ⟨hattempt, hreservation⟩ := h.kept key hkey
    exact ⟨(hclosed.attempts key hne).trans hattempt,
      (hclosed.reservations key hne).trans hreservation⟩
  opened := fun key hrow => by
    by_cases hkey : key = a.id
    · exact hkey ▸ hclosed.opened (hkey ▸ h.opened key hrow)
    · rw [hclosed.attempts key hkey]
      exact h.opened key hrow
  finished := fun b hb hrest a' ha' => by
    by_cases hid : b.id = a.id
    · obtain rfl := hb.eq (h.pending a (.head rest)) hid
      obtain rfl := hclosed.finished a' ha'
      exact ⟨hstate.1, fun hkind => (hstate.2 hkind).trans (restoreVerdict_congr (h.restores _))⟩
    · rw [hclosed.attempts b.id hid] at ha'
      refine h.finished b hb (fun hmem => ?_) a' ha'
      rcases List.mem_cons.mp hmem with rfl | hmem
      · exact hid rfl
      · exact hrest hmem
  released := fun b hb hrest r hr => by
    by_cases hid : b.id = a.id
    · exact hclosed.released r (hid ▸ hr)
    · rw [hclosed.reservations b.id hid] at hr
      refine h.released b hb (fun hmem => ?_) r hr
      rcases List.mem_cons.mp hmem with rfl | hmem
      · exact hid rfl
      · exact hrest hmem
  workloads := fun id => rel_authority_trans (h.workloads id) (hclosed.workloads id)
  restores := fun key state => (hclosed.restores key state).trans (h.restores key state)

/-- A pass leaves no attempt ACTIVE. -/
theorem Deciding.ne_active {s₀ : Store} {a : AttemptRecord} (h : Deciding s₀ [] s)
    (ha : s.store.attempts.get key = some a) : a.state ≠ .active := by
  intro hactive
  obtain rfl : a.id = key := Table.key_of_get ha
  by_cases hpending : ∃ b, s₀.Pending b ∧ b.id = a.id
  · obtain ⟨b, hb, hid⟩ := hpending
    exact (h.finished b hb List.not_mem_nil a (hid ▸ ha)).1 hactive
  · refine hpending ⟨a, ⟨?_, hactive⟩, rfl⟩
    rwa [(h.kept a.id fun b hb hid => hpending ⟨b, hb, hid⟩).1] at ha

/-- Every attempt of the list is decided. -/
theorem ends_mapEach_reconcileAttempt {s₀ : Store} {rest : List AttemptRecord}
    (h : Deciding s₀ rest s) :
    Ends Snapshot.Step (fun result s' => ∃ actions, result = .ok actions ∧ Deciding s₀ [] s')
      (Program.mapEach rest reconcileAttempt) s := by
  refine ends_mapEach (fun a rest s₁ h₁ => ?_) h
  refine (ends_reconcileAttempt (h₁.recoverable a (.head rest))).weaken fun result s₂ h₂ => ?_
  obtain ⟨⟨action, hok⟩, state, hstate, hclosed⟩ := h₂
  exact ⟨action, hok, h₁.next hstate hclosed⟩

/-- The lifecycle of a checkpoint. -/
def Store.lifecycle (s : Store) (id : Id) : Option LifecycleState :=
  (s.checkpoints.get id).map (·.lifecycle)

/-- A checkpoint that is on its way through a restore is AVAILABLE again. -/
def LifecycleState.putBack : LifecycleState → LifecycleState
  | .restorePending | .restoring => .available
  | lifecycle => lifecycle

/-- The decision about the attempt puts the checkpoint back. -/
def Repairs (s : Store) (a : AttemptRecord) (id : Id) : Prop :=
  a.kind ≠ .capture ∧ a.checkpointId = some id ∧
    s.Journaled .restore a.id .componentsRestored ∧
    ¬ s.Journaled .restore a.id .generationCommitted

/-- The operation leaves the lifecycle of the checkpoint as it is. -/
def Op.SparesLifecycle (id : Id) : Op → Prop
  | .db (.captureCommit id' _) | .db (.checkpointSetLifecycle id' _ _) => id' ≠ id
  | .db (.attemptFinish _ _ _ _) | .db (.reservationRelease _) => True
  | op => op.Quiet

theorem Op.sparesLifecycle_of_reads {op : Op} (h : op.Reads) : op.SparesLifecycle id := by
  unfold SparesLifecycle
  split
  · exact absurd h not_false
  · exact absurd h not_false
  · trivial
  · trivial
  · exact quiet_of_reads h

theorem ends_sparesLifecycle {α : Type} {p : Fabric α} (h : Uses (Op.SparesLifecycle id) p) :
    Ends Snapshot.Step (fun _ s' => s'.store.lifecycle id = s.store.lifecycle id) p s := by
  refine Ends.of_uses h (fun op s₁ reply s₂ hop hstep h₁ => Eq.trans ?_ h₁) rfl
  cases op with
  | db op =>
    rcases hstep.db_cases with ⟨value, -, hrun⟩ | ⟨e, -, -, hstore⟩
    · cases op with
      | captureCommit id' key =>
        obtain ⟨c, w, hcommit⟩ := Store.captureCommit_ok (StoreOp.of_map_ok hrun)
        have hrel := hcommit.relinked id (Ne.symm hop)
        unfold Store.lifecycle
        generalize s₁.store.checkpoints.get id = row at hrel ⊢
        generalize s₂.store.checkpoints.get id = row' at hrel ⊢
        cases hrel with
        | none => rfl
        | some hlinks =>
          obtain ⟨supersedes, supersededBy, rfl⟩ := hlinks
          rfl
      | checkpointSetLifecycle id' lifecycle integrity =>
        obtain ⟨-, hset⟩ := Store.checkpointSetLifecycle_ok (StoreOp.of_map_ok hrun)
        rw [hset, Store.lifecycle, Store.get_updateCheckpoint, if_neg (by exact hop)]
        rfl
      | attemptFinish key state result error =>
        rw [← StoreOp.snd_of_ok hrun]
        rfl
      | reservationRelease key =>
        rw [← StoreOp.snd_of_ok hrun]
        rfl
      | _ => rw [StoreOp.store_of_reads (by exact hop) hrun]
    · rw [hstore]
  | claim => exact absurd hop not_false
  | _ => rw [hstep.store_of_quiet trivial]

/-- A checkpoint that is put back is AVAILABLE if it was on its way through a restore. -/
theorem ends_returnToAvailable_lifecycle :
    Ends Snapshot.Step
      (fun _ s' => s'.store.lifecycle id = (s.store.lifecycle id).map LifecycleState.putBack)
      (returnToAvailable id) s := by
  unfold returnToAvailable
  refine ends_db_bind (fun _ => rfl) fun now n _ _ => ?_
  cases hrow : s.store.checkpoints.get id with
  | none =>
    rw [Store.checkpointGet, hrow]
    change s.store.lifecycle id = _
    rw [Store.lifecycle, hrow]
    rfl
  | some c =>
    rw [Store.checkpointGet, hrow]
    dsimp only [Option.map_some]
    split
    · rename_i hpending
      have hpending : c.lifecycle = .restorePending ∨ c.lifecycle = .restoring :=
        (Bool.or_eq_true_iff.mp hpending).imp beq_iff_eq.mp beq_iff_eq.mp
      have hback : c.lifecycle.putBack = .available := by
        rcases hpending with h | h <;> rw [h] <;> rfl
      have htransition : (Store.readCheckpoint c).lifecycle.transition .available = .ok () := by
        rw [show (Store.readCheckpoint c).lifecycle = c.lifecycle from rfl]
        rcases hpending with h | h <;> rw [h] <;> rfl
      rw [htransition, ends_ofExcept_bind]
      refine ⟨fun _ _ => ?_, by rintro _ ⟨⟩⟩
      refine ends_db_cases (fun now n reply store _ _ hrun => ?_) fun now n e _ _ hrun => ?_
      · obtain ⟨-, rfl⟩ := Store.checkpointSetLifecycle_ok (StoreOp.of_map_ok hrun)
        simp [Store.lifecycle, hrow, hback]
      · have hset : (s.store.checkpointSetLifecycle id .available .valid).map ((), ·) =
          .error e := hrun
        rw [Store.checkpointSetLifecycle, hrow] at hset
        cases hset
    · rename_i hpending
      have hback : c.lifecycle.putBack = c.lifecycle := by
        change ¬ (c.lifecycle == .restorePending || c.lifecycle == .restoring) = true at hpending
        revert hpending
        cases c.lifecycle <;> decide
      change s.store.lifecycle id = _
      simp [Store.lifecycle, hrow, hback]

/-- The decision about an attempt puts the checkpoint back, or leaves its lifecycle as it is. -/
def PutsBack (a : AttemptRecord) (id : Id) (s s' : Store) : Prop :=
  (Repairs s a id → s'.lifecycle id = (s.lifecycle id).map LifecycleState.putBack) ∧
    (¬ Repairs s a id → s'.lifecycle id = s.lifecycle id)

theorem putsBack_of_spares {α : Type} {a : AttemptRecord} {s₀ : Store} {p : Fabric α}
    (hrepairs : ¬ Repairs s₀ a id) (hstore : s.store = s₀) (h : Uses (Op.SparesLifecycle id) p) :
    Ends Snapshot.Step (fun _ s' => PutsBack a id s₀ s'.store) p s := by
  subst hstore
  exact (ends_sparesLifecycle h).weaken fun _ _ hsame =>
    ⟨fun h => absurd h hrepairs, fun _ => hsame⟩

/-- The decision about a capture of another checkpoint, or of one that is committed, puts nothing
back. -/
theorem ends_reconcileCapture_lifecycle {a : AttemptRecord} (hkind : a.kind = .capture)
    (h : a.checkpointId = some id → s.store.Journaled .capture a.id .dbCommitted) :
    Ends Snapshot.Step (fun _ s' => PutsBack a id s.store s'.store) (reconcileCapture a) s := by
  have hrepairs : ¬ Repairs s.store a id := fun hrepairs => hrepairs.1 hkind
  unfold reconcileCapture
  refine ends_db_bind (fun _ => rfl) fun now n _ _ => ?_
  refine ends_db_bind (fun _ => rfl) fun now n _ _ => ?_
  dsimp only
  split
  · exact putsBack_of_spares hrepairs rfl (uses_closing trivial trivial)
  · rename_i huncommitted
    split
    · refine putsBack_of_spares hrepairs rfl ?_
      cases hid : a.checkpointId with
      | none => trivial
      | some id' =>
        have hne : id' ≠ id := by
          rintro rfl
          exact huncommitted (Store.journalHas_eq_true_iff.mpr (h hid))
        exact uses_recommitCapture (fun _ => Op.sparesLifecycle_of_reads) hne hne
          (fun _ _ _ => trivial) trivial
    · exact putsBack_of_spares hrepairs rfl (uses_closing_audit trivial trivial trivial)

/-- The decision about a restore puts its checkpoint back if the components are journaled as
restored, and the generation is not committed. -/
theorem ends_reconcileRestore_lifecycle {a : AttemptRecord} (hkind : a.kind ≠ .capture) :
    Ends Snapshot.Step (fun _ s' => PutsBack a id s.store s'.store) (reconcileRestore a) s := by
  unfold reconcileRestore
  refine ends_db_bind (fun _ => rfl) fun now n _ _ => ?_
  refine ends_db_bind (fun _ => rfl) fun now n _ _ => ?_
  refine ends_db_bind (fun _ => rfl) fun now n _ _ => ?_
  dsimp only
  split
  · rename_i hcommitted
    have hrepairs : ¬ Repairs s.store a id := fun hrepairs =>
      hrepairs.2.2.2 (Store.journalHas_eq_true_iff.mp hcommitted)
    split
    · exact putsBack_of_spares hrepairs rfl (uses_closing_audit trivial trivial trivial)
    · exact putsBack_of_spares hrepairs rfl (uses_closing trivial trivial)
  · rename_i hcommitted
    split
    · rename_i hrestored
      cases hid : a.checkpointId with
      | none =>
        have hrepairs : ¬ Repairs s.store a id := fun hrepairs =>
          nomatch hid.symm.trans hrepairs.2.1
        exact putsBack_of_spares hrepairs rfl (uses_closing_audit trivial trivial trivial)
      | some id' =>
        by_cases hown : id' = id
        · subst hown
          have hrepairs : Repairs s.store a id' :=
            ⟨hkind, hid, Store.journalHas_eq_true_iff.mp hrestored, fun hj =>
              hcommitted (Store.journalHas_eq_true_iff.mpr hj)⟩
          refine Ends.bind ends_returnToAvailable_lifecycle (fun _ s₁ h₁ => ?_) ?_
          · refine (ends_sparesLifecycle (uses_closing_audit trivial trivial trivial)).weaken
              fun _ s₂ h₂ => ⟨fun _ => h₂.trans h₁, fun h => absurd hrepairs h⟩
          · exact fun e s₁ h₁ => ⟨fun _ => h₁, fun h => absurd hrepairs h⟩
        · have hrepairs : ¬ Repairs s.store a id := fun hrepairs =>
            hown (Option.some.inj (hid.symm.trans hrepairs.2.1))
          exact putsBack_of_spares hrepairs rfl
            (Uses.bind (uses_returnToAvailable (fun _ => Op.sparesLifecycle_of_reads) hown)
              fun _ => uses_closing_audit trivial trivial trivial)
    · rename_i hrestored
      have hrepairs : ¬ Repairs s.store a id := fun hrepairs =>
        hrestored (Store.journalHas_eq_true_iff.mpr hrepairs.2.2.1)
      exact putsBack_of_spares hrepairs rfl (uses_closing trivial trivial)

theorem ends_reconcileAttempt_lifecycle {a : AttemptRecord}
    (h : a.kind = .capture → a.checkpointId = some id →
      s.store.Journaled .capture a.id .dbCommitted) :
    Ends Snapshot.Step (fun _ s' => PutsBack a id s.store s'.store) (reconcileAttempt a) s := by
  unfold reconcileAttempt
  cases hkind : a.kind with
  | capture => exact ends_reconcileCapture_lifecycle hkind (h hkind)
  | restore | rollback => exact ends_reconcileRestore_lifecycle (by rw [hkind]; decide)

/-- An ACTIVE attempt of the store puts the checkpoint back. -/
def Store.Repairable (s : Store) (id : Id) : Prop := ∃ a, s.Pending a ∧ Repairs s a id

/-- Every ACTIVE capture of the checkpoint is committed. -/
def Store.Settled (s : Store) (id : Id) : Prop :=
  ∀ a, s.Pending a → a.kind = .capture → a.checkpointId = some id →
    s.Journaled .capture a.id .dbCommitted

/-- What the decisions so far have made of the lifecycle of a checkpoint. -/
structure DecidingFor (id : Id) (s₀ : Store) (rest : List AttemptRecord) (s : Snapshot) : Prop
    extends Deciding s₀ rest s where
  settled : ∀ a ∈ rest, a.kind = .capture → a.checkpointId = some id →
    s.store.Journaled .capture a.id .dbCommitted
  lifecycle : (∀ a, s₀.Pending a → Repairs s₀ a id → a ∈ rest) ∧
      s.store.lifecycle id = s₀.lifecycle id ∨
    s₀.Repairable id ∧ s.store.lifecycle id = (s₀.lifecycle id).map LifecycleState.putBack

theorem repairs_congr {s₀ s₁ : Store} {a : AttemptRecord}
    (h : ∀ state, s₁.Journaled .restore a.id state ↔ s₀.Journaled .restore a.id state) :
    Repairs s₁ a id ↔ Repairs s₀ a id := by
  rw [Repairs, Repairs, h, h]

theorem map_putBack_putBack (row : Option LifecycleState) :
    (row.map LifecycleState.putBack).map LifecycleState.putBack =
      row.map LifecycleState.putBack := by
  cases row with
  | none => rfl
  | some lifecycle => cases lifecycle <;> rfl

theorem DecidingFor.next {s₀ : Store} {s₁ s₂ : Snapshot} {a : AttemptRecord}
    {rest : List AttemptRecord} (h : DecidingFor id s₀ (a :: rest) s₁)
    (hdeciding : Deciding s₀ rest s₂) (hputs : PutsBack a id s₁.store s₂.store)
    (hjournal : ∀ key, s₁.store.Journaled .capture key .dbCommitted →
      s₂.store.Journaled .capture key .dbCommitted) : DecidingFor id s₀ rest s₂ where
  toDeciding := hdeciding
  settled := fun b hb hkind hid => hjournal b.id (h.settled b (.tail a hb) hkind hid)
  lifecycle := by
    have hcongr : Repairs s₁.store a id ↔ Repairs s₀ a id := repairs_congr (h.restores a.id)
    by_cases hrepairs : Repairs s₀ a id
    · refine .inr ⟨⟨a, h.pending a (.head rest), hrepairs⟩, ?_⟩
      rw [hputs.1 (hcongr.mpr hrepairs)]
      rcases h.lifecycle with ⟨-, hsame⟩ | ⟨-, hback⟩
      · rw [hsame]
      · rw [hback, map_putBack_putBack]
    · rw [hputs.2 (mt hcongr.mp hrepairs)]
      refine h.lifecycle.imp_left fun ⟨hrest, hsame⟩ => ⟨fun b hb hb' => ?_, hsame⟩
      rcases List.mem_cons.mp (hrest b hb hb') with rfl | hmem
      · exact absurd hb' hrepairs
      · exact hmem

/-- A pass that is over has put the checkpoint back if there was an attempt to do so. -/
theorem DecidingFor.lifecycle_of_nil {s₀ : Store} (h : DecidingFor id s₀ [] s) :
    (s₀.Repairable id → s.store.lifecycle id = (s₀.lifecycle id).map LifecycleState.putBack) ∧
      (¬ s₀.Repairable id → s.store.lifecycle id = s₀.lifecycle id) := by
  rcases h.lifecycle with ⟨hnone, hsame⟩ | ⟨hrepairable, hback⟩
  · refine ⟨?_, fun _ => hsame⟩
    rintro ⟨a, ha, hrepairs⟩
    exact absurd (hnone a ha hrepairs) List.not_mem_nil
  · exact ⟨fun _ => hback, fun hnot => absurd hrepairable hnot⟩

theorem ends_mapEach_lifecycle {s₀ : Store} {rest : List AttemptRecord}
    (h : DecidingFor id s₀ rest s) :
    Ends Snapshot.Step (fun result s' => ∃ actions, result = .ok actions ∧ DecidingFor id s₀ [] s')
      (Program.mapEach rest reconcileAttempt) s := by
  refine ends_mapEach (fun a rest s₁ h₁ => ?_) h
  have hdecides := ends_reconcileAttempt (h₁.recoverable a (.head rest))
  have hputs := ends_reconcileAttempt_lifecycle (h₁.settled a (.head rest))
  refine ends_iff.mpr fun result s₂ hruns => ?_
  obtain ⟨⟨action, hok⟩, state, hstate, hclosed⟩ := ends_iff.mp hdecides _ _ hruns
  refine ⟨action, hok, h₁.next (h₁.toDeciding.next hstate hclosed)
    (ends_iff.mp hputs _ _ hruns) fun key hj => ?_⟩
  exact ends_iff.mp (ends_journaled hj) _ _ hruns

/-- Since `store`, only rows of nodes have changed; the time `before` is over. -/
def OnlyNodes (store : Store) (before : ℕ) (s : Snapshot) : Prop :=
  (∃ nodes, s.store = { store with nodes }) ∧ before ≤ s.clock

/-- Declaring nodes STALE changes their rows only. -/
theorem ends_markStale {store : Store} {before : ℕ} {stale : List NodeId}
    (h : OnlyNodes store before s) :
    Ends Snapshot.Step (fun reply s' => reply = .ok () ∧ OnlyNodes store before s')
      (markStale stale) s := by
  refine ends_forEach (fun node _ s₁ h₁ => ?_) h
  obtain ⟨⟨nodes, hstore⟩, hclock₁⟩ := h₁
  refine ends_db_bind (fun _ => rfl) fun now n hnow _ => ?_
  refine ends_audit.weaken fun result s₂ h₂ =>
    ⟨h₂.1, ⟨(s₁.store.nodeSetStatus node .stale).nodes, ?_⟩, ?_⟩
  · rw [h₂.2.1, Store.nodeSetStatus, hstore]
  · exact (hclock₁.trans hnow).trans h₂.2.2

/-- Before it decides the attempts, a pass expires reservations and sweeps nodes. -/
theorem ends_reconcile {ctx : OperationContext}
    {post : FabricResult RecoveryOutcome → Snapshot → Prop}
    (h : ∀ before now n nodes expired stale, s.clock ≤ before → before ≤ now →
      Ends Snapshot.Step post
        (Program.mapEach
          ((s.store.reservationsExpire before).2.attemptsInState .active) reconcileAttempt >>=
            fun actions => pure { actions, staleNodes := stale, expiredReservations := expired })
        ⟨{ (s.store.reservationsExpire before).2 with nodes }, now, n⟩) :
    Ends Snapshot.Step post (reconcile ctx) s := by
  unfold reconcile
  refine ends_now_bind fun before n₁ hbefore _ => ?_
  refine ends_db_bind (fun _ => rfl) fun now₂ n₂ h₂ _ => ?_
  refine ends_now_bind fun now₃ n₃ h₃ _ => ?_
  refine ends_db_bind (fun _ => rfl) fun now₄ n₄ h₄ _ => ?_
  have hswept : OnlyNodes (s.store.reservationsExpire before).2 before
      ⟨((s.store.reservationsExpire before).2.nodesSweepStale (now₃ - ctx.staleMs)).2, now₄, n₄⟩ :=
    ⟨⟨_, rfl⟩, (h₂.trans h₃).trans h₄⟩
  refine Ends.bind (ends_markStale hswept) (fun _ s₅ h₅ => ?_) ?_
  · obtain ⟨store₅, clock₅, n₅⟩ := s₅
    obtain ⟨-, ⟨nodes, rfl⟩, hclock₅⟩ := h₅
    refine ends_db_bind (fun _ => rfl) fun now₆ n₆ h₆ _ => ?_
    exact h before now₆ n₆ nodes _ _ hbefore (hclock₅.trans h₆)
  · rintro e s' ⟨h, -⟩
    cases h

/-- What a pass that begins with the store `s` at a time up to `before` has made of it. -/
structure Recovered (before : ℕ) (s : Store) (s' : Snapshot) : Prop
    extends Deciding (s.reservationsExpire before).2 [] s' where
  lifecycles : ∀ id, s.Settled id →
    (s.Repairable id → s'.store.lifecycle id = (s.lifecycle id).map LifecycleState.putBack) ∧
      (¬ s.Repairable id → s'.store.lifecycle id = s.lifecycle id)

theorem Recovered.of_store {before : ℕ} {s₀ : Store} {s s' : Snapshot} (h : Recovered before s₀ s)
    (hstore : s'.store = s.store) : Recovered before s₀ s' := by
  obtain ⟨store, clock, issued⟩ := s'
  obtain rfl := hstore
  exact { h with }

/-- A pass decides all that is ACTIVE, and succeeds. -/
theorem ends_reconcile_recovers {ctx : OperationContext}
    (h : ∀ a, s.store.attempts.get a.id = some a → Recoverable s.store a) :
    Ends Snapshot.Step (fun result s' => (∃ out, result = .ok out) ∧
        ∃ before, s.clock ≤ before ∧ before ≤ s'.clock ∧ Recovered before s.store s')
      (reconcile ctx) s := by
  refine ends_reconcile fun before now n nodes expired stale hbefore hnow => ?_
  have hdeciding : Deciding (s.store.reservationsExpire before).2
      ((s.store.reservationsExpire before).2.attemptsInState .active)
      ⟨{ (s.store.reservationsExpire before).2 with nodes }, now, n⟩ := deciding_of_recoverable h
  have hdecides : Ends Snapshot.Step
      (fun result s' => (∃ actions, result = .ok actions) ∧ before ≤ s'.clock ∧
        Recovered before s.store s')
      (Program.mapEach ((s.store.reservationsExpire before).2.attemptsInState .active)
        reconcileAttempt)
      ⟨{ (s.store.reservationsExpire before).2 with nodes }, now, n⟩ := by
    refine ends_iff.mpr fun result s' hruns => ?_
    obtain ⟨actions, hok, hdecided⟩ :=
      ends_iff.mp (ends_mapEach_reconcileAttempt hdeciding) _ _ hruns
    refine ⟨⟨actions, hok⟩, hnow.trans (ends_iff.mp ends_clock _ _ hruns),
      { hdecided with lifecycles := fun id hsettled => ?_ }⟩
    have hfor : DecidingFor id (s.store.reservationsExpire before).2
        ((s.store.reservationsExpire before).2.attemptsInState .active)
        ⟨{ (s.store.reservationsExpire before).2 with nodes }, now, n⟩ :=
      { hdeciding with
        settled := fun a ha => hsettled a (mem_attemptsInState.mp ha)
        lifecycle := .inl ⟨fun a ha _ => mem_attemptsInState.mpr ha, rfl⟩ }
    obtain ⟨_, -, hlast⟩ := ends_iff.mp (ends_mapEach_lifecycle hfor) _ _ hruns
    exact hlast.lifecycle_of_nil
  refine Ends.bind hdecides (fun actions s' h' => ⟨⟨_, rfl⟩, before, hbefore, h'.2⟩) ?_
  rintro e s' ⟨⟨actions, h'⟩, -⟩
  cases h'

/-- The visits that follow write nothing. -/
theorem ends_runRecovery_recovers {ctx : OperationContext}
    (h : ∀ a, s.store.attempts.get a.id = some a → Recoverable s.store a) :
    Ends Snapshot.Step (fun _ s' =>
        ∃ before, s.clock ≤ before ∧ before ≤ s'.clock ∧ Recovered before s.store s')
      (runRecovery ctx) s := by
  unfold runRecovery
  refine Ends.bind (ends_reconcile_recovers h) (fun out s₁ h₁ => ?_) fun _ _ h₁ => h₁.2
  obtain ⟨-, before, hbefore, hle, hrecovered⟩ := h₁
  have hvisits : Uses Op.Quiet (Program.forEach out.actions visitAction >>= fun _ => pure out) :=
    Uses.bind (Uses.forEach fun _ _ => uses_visitAction (fun _ => Op.quiet_of_reads)
      fun _ _ => trivial) fun _ => trivial
  refine ((ends_quiet hvisits).and ends_clock).weaken fun _ s₂ h₂ => ?_
  exact ⟨before, hbefore, hle.trans h₂.2, hrecovered.of_store h₂.1.1⟩

end Reconcile

end CheckpointFabric
