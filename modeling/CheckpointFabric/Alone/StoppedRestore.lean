import CheckpointFabric.Alone.Restore
import CheckpointFabric.Concurrency.Points

/-!
# A restore that is stopped

A restore that runs alone can be stopped between any two of its operations, and so can its abort.
Wherever that happens, it has left the attempts and reservations of others, and either it has not
committed, and the workloads are as they were, or it has committed, and its checkpoint is
RESTORED.

## Main definitions

* `RestoreOpen` — the restore has not committed
* `RestoreLanded` — the restore has committed
* `Stays` — what holds of the store wherever a program is stopped, and at its end

## Main results

* `stays_reserveRestore` — wherever a restore is stopped before its attempt is open
* `stays_executeOrAbortRestore` — wherever it is stopped afterwards
-/

set_option autoImplicit false

namespace CheckpointFabric

open Concurrency Fabric

variable {id : Id} {key : AttemptId} {c : CheckpointObject} {s s' s'' : Store}

/-- The attempts and reservations of others, the captures, and the rows of the checkpoints are left
as they were; the attempt under `key` is no capture. -/
structure Store.SparesOthers (key : AttemptId) (s s' : Store) : Prop where
  rows : ∀ k, s.checkpoints.get k ≠ none → s'.checkpoints.get k ≠ none
  attempts : ∀ k, k ≠ key → s'.attempts.get k = s.attempts.get k
  reservations : ∀ k, k ≠ key → s'.reservations.get k = s.reservations.get k
  captures : ∀ k state, s'.Journaled .capture k state ↔ s.Journaled .capture k state
  restores : ∀ a, s'.attempts.get key = some a → a.kind ≠ .capture

/-- A restore of checkpoint `id`, which was `c`, has not committed its generation under `key`. -/
structure RestoreOpen (id : Id) (key : AttemptId) (c : CheckpointObject) (s s' : Store) : Prop
    extends Store.SparesOthers key s s' where
  workloads : s'.workloads = s.workloads
  uncommitted : ¬ s'.Journaled .restore key .generationCommitted
  own : ∃ c', s'.checkpoints.get id = some c' ∧ UnderRestore c c'
  undecided : ∀ a, s'.attempts.get key = some a → a.state = .active ∨ a.state = .failed

/-- The restore has committed its generation. -/
structure RestoreLanded (id : Id) (key : AttemptId) (c : CheckpointObject) (s s' : Store) : Prop
    extends Store.SparesOthers key s s' where
  advanced : ∃ w w', s.workloads.get c.workloadId = some w ∧
    s'.workloads.get c.workloadId = some w' ∧ w'.workloadGeneration = w.workloadGeneration + 1
  committed : s'.Journaled .restore key .generationCommitted
  restored : ∃ c', s'.checkpoints.get id = some c' ∧ c'.lifecycle = .restored
  opened : ∃ a, s'.attempts.get key = some a ∧ a.state ≠ .failed

/-- What a restore leaves wherever it is stopped. -/
def RestoreLeft (id : Id) (key : AttemptId) (c : CheckpointObject) (s s' : Store) : Prop :=
  RestoreOpen id key c s s' ∨ RestoreLanded id key c s s'

/-- The restore has not committed, and its attempt is ACTIVE. -/
structure RestoreRunning (id : Id) (key : AttemptId) (c : CheckpointObject) (s s' : Store) : Prop
    extends RestoreOpen id key c s s' where
  active : ∃ a, s'.attempts.get key = some a ∧ a.state = .active

section Stores

theorem Store.SparesOthers.updateCheckpoint {f : CheckpointObject → CheckpointObject}
    {hf : ∀ c, c.checkpointId = id → (f c).checkpointId = id} (h : s.SparesOthers key s') :
    s.SparesOthers key (s'.updateCheckpoint id f hf) where
  __ := h
  rows := fun k hk => by
    rw [Store.get_updateCheckpoint]
    split
    · rw [Ne, Option.map_eq_none_iff]
      exact h.rows k hk
    · exact h.rows k hk

theorem Store.SparesOthers.journalAppend {key' : AttemptId} {state : JournalState}
    {detail : String} {now : ℕ} (h : s.SparesOthers key s') :
    s.SparesOthers key (s'.journalAppend .restore key' state detail now) where
  rows := by simpa using h.rows
  attempts := by simpa using h.attempts
  reservations := by simpa using h.reservations
  captures := fun k state' => by
    rw [← h.captures, Store.journaled_journalAppend]
    refine or_iff_left ?_
    rintro ⟨hkind, -⟩
    cases hkind
  restores := by simpa using h.restores

theorem Store.SparesOthers.attemptFinish {state : AttemptState} {result error : Option String}
    {now : ℕ} (h : s.SparesOthers key s') :
    s.SparesOthers key (s'.attemptFinish key state result error now) where
  __ := h
  attempts := fun k hk => (Store.get_attemptFinish.trans (if_neg hk.symm)).trans (h.attempts k hk)
  restores := fun a ha => by
    have ha : (s'.attemptFinish key state result error now).attempts.get key = some a := ha
    rw [Store.get_attemptFinish, if_pos rfl, Option.map_eq_some_iff] at ha
    obtain ⟨a', ha', rfl⟩ := ha
    exact h.restores a' ha'

theorem Store.SparesOthers.reservationRelease (h : s.SparesOthers key s') :
    s.SparesOthers key (s'.reservationRelease key) where
  __ := h
  reservations := fun k hk =>
    (Store.get_reservationRelease.trans (if_neg hk.symm)).trans (h.reservations k hk)

theorem RestoreOpen.update {f : CheckpointObject → CheckpointObject}
    {hf : ∀ c, c.checkpointId = id → (f c).checkpointId = id}
    (h : RestoreOpen id key c s s') (hown : ∀ c', UnderRestore c c' → UnderRestore c (f c')) :
    RestoreOpen id key c s (s'.updateCheckpoint id f hf) := by
  obtain ⟨c', hc', hunder⟩ := h.own
  refine { h with
    toSparesOthers := h.toSparesOthers.updateCheckpoint
    own := ⟨f c', ?_, hown c' hunder⟩ }
  rw [Store.get_updateCheckpoint, if_pos rfl, hc', Option.map_some]

theorem RestoreRunning.update {f : CheckpointObject → CheckpointObject}
    {hf : ∀ c, c.checkpointId = id → (f c).checkpointId = id}
    (h : RestoreRunning id key c s s') (hown : ∀ c', UnderRestore c c' → UnderRestore c (f c')) :
    RestoreRunning id key c s (s'.updateCheckpoint id f hf) where
  toRestoreOpen := h.toRestoreOpen.update hown
  active := h.active

theorem RestoreRunning.journalAppend {key' : AttemptId} {state : JournalState} {detail : String}
    {now : ℕ} (h : RestoreRunning id key c s s') (hstate : state ≠ .generationCommitted) :
    RestoreRunning id key c s (s'.journalAppend .restore key' state detail now) where
  toSparesOthers := h.toSparesOthers.journalAppend
  workloads := by simpa using h.workloads
  uncommitted := by
    rw [Store.journaled_journalAppend, not_or]
    exact ⟨h.uncommitted, fun hnew => hstate hnew.2.2⟩
  own := by simpa using h.own
  undecided := by simpa using h.undecided
  active := by simpa using h.active

theorem RestoreOpen.reservationRelease (h : RestoreOpen id key c s s') :
    RestoreOpen id key c s (s'.reservationRelease key) where
  __ := h
  toSparesOthers := h.toSparesOthers.reservationRelease

theorem RestoreOpen.attemptFinish {result error : Option String} {now : ℕ}
    (h : RestoreOpen id key c s s') :
    RestoreOpen id key c s (s'.attemptFinish key .failed result error now) where
  __ := h
  toSparesOthers := h.toSparesOthers.attemptFinish
  undecided := fun a ha => by
    have ha : (s'.attemptFinish key .failed result error now).attempts.get key = some a := ha
    rw [Store.get_attemptFinish, if_pos rfl, Option.map_eq_some_iff] at ha
    obtain ⟨_, -, rfl⟩ := ha
    exact .inr rfl

theorem RestoreLanded.journalAppend {key' : AttemptId} {state : JournalState} {detail : String}
    {now : ℕ} (h : RestoreLanded id key c s s') :
    RestoreLanded id key c s (s'.journalAppend .restore key' state detail now) where
  toSparesOthers := h.toSparesOthers.journalAppend
  advanced := by simpa using h.advanced
  committed := Store.journaled_journalAppend.mpr (.inl h.committed)
  restored := by simpa using h.restored
  opened := by simpa using h.opened

theorem RestoreLanded.attemptFinish {state : AttemptState} {result error : Option String}
    {now : ℕ} (h : RestoreLanded id key c s s') (hstate : state ≠ .failed) :
    RestoreLanded id key c s (s'.attemptFinish key state result error now) where
  __ := h
  toSparesOthers := h.toSparesOthers.attemptFinish
  opened := by
    obtain ⟨a, ha, -⟩ := h.opened
    refine ⟨{ a with state, result, error, finishedMs := some now }, ?_, hstate⟩
    exact Store.get_attemptFinish.trans (by rw [if_pos rfl, ha, Option.map_some])

theorem RestoreLanded.reservationRelease (h : RestoreLanded id key c s s') :
    RestoreLanded id key c s (s'.reservationRelease key) where
  __ := h
  toSparesOthers := h.toSparesOthers.reservationRelease

/-- Before it writes, a restore under a fresh key has left everything as it was. -/
theorem restoreOpen_of_fresh (hc : s.checkpoints.get id = some c)
    (hattempt : s.attempts.get key = none)
    (huncommitted : ¬ s.Journaled .restore key .generationCommitted) :
    RestoreOpen id key c s s where
  rows := fun _ h => h
  attempts := fun _ _ => rfl
  reservations := fun _ _ => rfl
  captures := fun _ _ => Iff.rfl
  restores := fun _ ha => nomatch hattempt.symm.trans ha
  workloads := rfl
  uncommitted := huncommitted
  own := ⟨c, hc, rfl, .inl ⟨rfl, rfl⟩⟩
  undecided := fun _ ha => nomatch hattempt.symm.trans ha

theorem RestoreOpen.reserved {r : Reservation} {hnew : s'.reservations.get r.id = none}
    (h : RestoreOpen id key c s s') (hr : r.id = key) :
    RestoreOpen id key c s { s' with reservations := s'.reservations.insert r hnew } where
  __ := h
  toSparesOthers :=
    { h.toSparesOthers with
      reservations := fun k hk => by
        dsimp only
        rw [Table.get_insert, if_neg fun heq => hk (heq.symm.trans hr), h.reservations k hk] }

/-- Opening the attempt. -/
theorem RestoreOpen.begun {kind : AttemptKind} (h : RestoreOpen id key c s s')
    (hnone : s'.attempts.get key = none) (hkind : kind ≠ .capture)
    (checkpointId workloadId : Option Id) (node : NodeId) (now : ℕ) :
    RestoreRunning id key c s (s'.attemptBegin key kind checkpointId workloadId node now) := by
  have hown : ∃ a, (s'.attemptBegin key kind checkpointId workloadId node now).attempts.get key =
      some a ∧ a.kind = kind ∧ a.state = .active := by
    rw [Store.attemptBegin, dif_pos hnone]
    dsimp only
    rw [Table.get_insert, if_pos rfl]
    exact ⟨_, rfl, rfl, rfl⟩
  obtain ⟨a, ha, rfl, hactive⟩ := hown
  refine
    { rows := by simpa using h.rows
      attempts := fun k hk => ?_
      reservations := by simpa using h.reservations
      captures := fun k state => ?_
      restores := fun a' ha' => Option.some.inj (ha.symm.trans ha') ▸ hkind
      workloads := by simpa using h.workloads
      uncommitted := ?_
      own := by simpa using h.own
      undecided := fun a' ha' => .inl (Option.some.inj (ha.symm.trans ha') ▸ hactive)
      active := ⟨a, ha, hactive⟩ }
  · rw [← h.attempts k hk, Store.attemptBegin, dif_pos hnone]
    dsimp only
    rw [Table.get_insert, if_neg hk.symm]
  · rw [← h.captures, Store.Journaled, Store.journal_attemptBegin]
    rfl
  · rw [Store.Journaled, Store.journal_attemptBegin]
    exact h.uncommitted

/-- The commit of a restore that is at work. -/
theorem landed_of_restoreCommit {node : NodeId} {token : FenceToken} {migration rollback : Bool}
    {now : ℕ} (h : RestoreRunning id key c s s')
    (hcommit : s'.restoreCommit id key node token migration rollback now = .ok s'') :
    RestoreLanded id key c s s'' := by
  obtain ⟨c', w, hcommitted⟩ := Store.restoreCommit_ok hcommit
  obtain ⟨c₁, hc₁, hworkload, -⟩ := h.own
  obtain rfl := Option.some.inj (hcommitted.found.symm.trans hc₁)
  obtain ⟨a, ha, hactive⟩ := h.active
  refine
    { rows := fun k hk => ?_
      attempts := hcommitted.attempts ▸ h.attempts
      reservations := hcommitted.reservations ▸ h.reservations
      captures := fun k state => ?_
      restores := hcommitted.attempts ▸ h.restores
      advanced := ⟨w, ?_⟩
      committed := (hcommitted.journaled _ _ _).mpr (.inr (.inl ⟨rfl, rfl, rfl⟩))
      restored := ?_
      opened := ⟨a, hcommitted.attempts ▸ ha, by rw [hactive]; decide⟩ }
  · rw [hcommitted.checkpoints, Table.get_modify]
    split
    · rw [Ne, Option.map_eq_none_iff]
      exact h.rows k hk
    · exact h.rows k hk
  · rw [← h.captures, hcommitted.journaled]
    refine or_iff_left ?_
    rintro (⟨hkind, -⟩ | ⟨-, hkind, -⟩) <;> cases hkind
  · rw [← h.workloads, hcommitted.workloads, ← hworkload, Table.get_modify_self, hcommitted.owner]
    exact ⟨_, rfl, rfl, rfl⟩
  · rw [hcommitted.checkpoints, Table.get_modify_self, hc₁]
    exact ⟨_, rfl, rfl⟩

end Stores

namespace Coordinator

section Steps

variable {run : RestoreRun} {s₀ : Store} {s₁ s₂ : Snapshot} {op : Op}
  {reply : FabricResult op.Reply}

/-- The operations of a restore after its commit. -/
def RestoreRun.Concludes (run : RestoreRun) : Op → Prop
  | .db (.journalAppend kind _ _ _) => kind = .restore
  | .db (.attemptFinish key state _ _) => key = run.attemptId ∧ state ≠ .failed
  | .db (.reservationRelease key) => key = run.attemptId
  | op => op.Quiet

/-- The operations that close the attempt of a restore that did not commit. -/
def RestoreRun.Abandons (run : RestoreRun) : Op → Prop
  | .db (.attemptFinish key state _ _) => key = run.attemptId ∧ state = .failed
  | .db (.reservationRelease key) => key = run.attemptId
  | op => op.Quiet

theorem RestoreRun.open_of_step
    (h : RestoreOpen run.ckpt.checkpointId run.attemptId c s₀ s₁.store) (hop : run.Abandons op)
    (hstep : Snapshot.Step op s₁ reply s₂) :
    RestoreOpen run.ckpt.checkpointId run.attemptId c s₀ s₂.store := by
  cases op with
  | db op =>
    rcases hstep.db_cases with ⟨value, -, hrun⟩ | ⟨e, -, -, hstore⟩
    · cases op with
      | attemptFinish key state result error =>
        obtain ⟨rfl, rfl⟩ := hop
        rw [← StoreOp.snd_of_ok hrun]
        exact h.attemptFinish
      | reservationRelease key =>
        obtain rfl : key = run.attemptId := hop
        rw [← StoreOp.snd_of_ok hrun]
        exact h.reservationRelease
      | _ =>
        rw [StoreOp.store_of_reads (by exact hop) hrun]
        exact h
    · rwa [hstore]
  | claim => exact absurd hop not_false
  | _ => rwa [hstep.store_of_quiet trivial]

theorem RestoreRun.running_of_step
    (h : RestoreRunning run.ckpt.checkpointId run.attemptId c s₀ s₁.store)
    (havailable : c.lifecycle = .available) (hvalid : c.integrityState = .valid)
    (hop : run.Prepares op) (hstep : Snapshot.Step op s₁ reply s₂) :
    RestoreRunning run.ckpt.checkpointId run.attemptId c s₀ s₂.store := by
  cases op with
  | db op =>
    rcases hstep.db_cases with ⟨value, -, hrun⟩ | ⟨e, -, -, hstore⟩
    · cases op with
      | checkpointSetLifecycle id lifecycle integrity =>
        obtain ⟨rfl, hlifecycle⟩ := hop
        rw [(Store.checkpointSetLifecycle_ok (StoreOp.of_map_ok hrun)).2]
        exact h.update fun c' hunder => ⟨hunder.1, .inr ⟨havailable, hvalid, hlifecycle⟩⟩
      | checkpointAddLocation id location =>
        obtain rfl : id = run.ckpt.checkpointId := hop
        rw [(Store.checkpointAddLocation_ok (StoreOp.of_map_ok hrun)).2]
        exact h.update fun _ hunder => hunder
      | journalAppend kind key state detail =>
        obtain ⟨rfl, hstate⟩ := hop
        rw [← StoreOp.snd_of_ok hrun]
        exact h.journalAppend hstate
      | _ =>
        rw [StoreOp.store_of_reads (by exact hop) hrun]
        exact h
    · rwa [hstore]
  | claim => exact absurd hop not_false
  | _ => rwa [hstep.store_of_quiet trivial]

theorem RestoreRun.landed_of_step
    (h : RestoreLanded run.ckpt.checkpointId run.attemptId c s₀ s₁.store)
    (hop : run.Concludes op) (hstep : Snapshot.Step op s₁ reply s₂) :
    RestoreLanded run.ckpt.checkpointId run.attemptId c s₀ s₂.store := by
  cases op with
  | db op =>
    rcases hstep.db_cases with ⟨value, -, hrun⟩ | ⟨e, -, -, hstore⟩
    · cases op with
      | journalAppend kind key state detail =>
        obtain rfl : kind = .restore := hop
        rw [← StoreOp.snd_of_ok hrun]
        exact h.journalAppend
      | attemptFinish key state result error =>
        obtain ⟨rfl, hstate⟩ := hop
        rw [← StoreOp.snd_of_ok hrun]
        exact h.attemptFinish hstate
      | reservationRelease key =>
        obtain rfl : key = run.attemptId := hop
        rw [← StoreOp.snd_of_ok hrun]
        exact h.reservationRelease
      | _ =>
        rw [StoreOp.store_of_reads (by exact hop) hrun]
        exact h
    · rwa [hstore]
  | claim => exact absurd hop not_false
  | _ => rwa [hstep.store_of_quiet trivial]

end Steps

section Points

variable {settings : Settings} {run : RestoreRun} {s₀ : Store} {s : Snapshot} {α β : Type}
  {inv : Store → Prop}

/-- Wherever the program is stopped the store satisfies `inv`, and at its end `post`. -/
abbrev Stays (inv : Store → Prop) (post : FabricResult α → Store → Prop) (p : Fabric α)
    (s : Snapshot) : Prop :=
  Throughout Snapshot.Step (fun s => inv s.store) (fun result s => post result s.store) p s

/-- A call that always succeeds, in a program that may be stopped before it and after it. -/
theorem stays_db_bind {op : StoreOp} {post : FabricResult α → Store → Prop}
    {f : op.Reply → Fabric α} {reply : ℕ → op.Reply} {store : ℕ → Store} (hinv : inv s.store)
    (hrun : ∀ now, op.run now s.store = .ok (reply now, store now))
    (h : ∀ now n, s.clock ≤ now → s.issued ≤ n →
      Stays inv post (f (reply now)) ⟨store now, now, n⟩) :
    Stays inv post (db op >>= f) s := by
  refine ⟨hinv, fun result s' hstep => ?_⟩
  have hends : Ends Snapshot.Step
      (fun result s' => ∃ now n, s.clock ≤ now ∧ s.issued ≤ n ∧ result = .ok (reply now) ∧
        s' = ⟨store now, now, n⟩) (db op) s :=
    ends_db_ok hrun fun now n hclock hissued => ⟨now, n, hclock, hissued, rfl, rfl⟩
  obtain ⟨now, n, hclock, hissued, rfl, rfl⟩ := hends result s' hstep
  exact h now n hclock hissued

/-- A part that writes nothing. -/
theorem stays_quiet {p : Fabric α} (hp : Uses Op.Quiet p) :
    Stays (· = s.store) (fun _ _ => True) p s :=
  Throughout.of_uses hp (fun _ _ _ _ hop hstep h₁ => (hstep.store_of_quiet hop).trans h₁) rfl

/-- The restore has not committed. -/
abbrev RestoreRun.Open (run : RestoreRun) (c : CheckpointObject) (s s' : Store) : Prop :=
  RestoreOpen run.ckpt.checkpointId run.attemptId c s s'

/-- What the restore leaves wherever it is stopped. -/
abbrev RestoreRun.Left (run : RestoreRun) (c : CheckpointObject) (s s' : Store) : Prop :=
  RestoreLeft run.ckpt.checkpointId run.attemptId c s s'

/-- The restore is at work, and has not committed. -/
abbrev RestoreRun.Running (run : RestoreRun) (c : CheckpointObject) (s s' : Store) : Prop :=
  RestoreRunning run.ckpt.checkpointId run.attemptId c s s'

/-- The restore has committed. -/
abbrev RestoreRun.Landed (run : RestoreRun) (c : CheckpointObject) (s s' : Store) : Prop :=
  RestoreLanded run.ckpt.checkpointId run.attemptId c s s'

theorem RestoreRun.Running.left {s₁ : Store} (h : run.Running c s₀ s₁) : run.Left c s₀ s₁ :=
  .inl h.toRestoreOpen

/-- A part of the restore before its commit. -/
theorem stays_prepares {p : Fabric α} (hp : Calm run.Prepares p)
    (havailable : c.lifecycle = .available) (hvalid : c.integrityState = .valid)
    (h : run.Running c s₀ s.store) : Stays (run.Running c s₀) (fun _ _ => True) p s :=
  Throughout.of_contained hp (fun _ _ _ _ hop hstep h₁ =>
    ⟨hstep.noPanic, RestoreRun.running_of_step h₁ havailable hvalid hop hstep⟩) h

theorem stays_prepares_bind {p : Fabric α} {f : α → Fabric β}
    {post : FabricResult β → Store → Prop} (hp : Calm run.Prepares p)
    (havailable : c.lifecycle = .available) (hvalid : c.integrityState = .valid)
    (h : run.Running c s₀ s.store) (herror : ∀ e s', post (.error e) s')
    (hf : ∀ a s', run.Running c s₀ s'.store → Stays (run.Left c s₀) post (f a) s') :
    Stays (run.Left c s₀) post (p >>= f) s := by
  have hprepares : Stays (run.Left c s₀) (fun _ => run.Running c s₀) p s :=
    (stays_prepares hp havailable hvalid h).weaken (fun _ => RestoreRun.Running.left)
      fun _ _ hrunning _ => hrunning
  exact hprepares.bind (fun a s' _ h' => hf a s' h') fun e s' _ _ => herror e s'.store

/-- A part of the restore after its commit. -/
theorem stays_landed {p : Fabric α} (hp : Uses run.Concludes p) (h : run.Landed c s₀ s.store) :
    Stays (run.Landed c s₀) (fun _ _ => True) p s :=
  Throughout.of_uses hp (fun _ _ _ _ hop hstep h₁ => RestoreRun.landed_of_step h₁ hop hstep) h

/-- What closes the attempt of a restore that has not committed. -/
theorem stays_abandons {p : Fabric α} (hp : Uses run.Abandons p) (h : run.Open c s₀ s.store) :
    Stays (run.Open c s₀) (fun _ _ => True) p s :=
  Throughout.of_uses hp (fun _ _ _ _ hop hstep h₁ => RestoreRun.open_of_step h₁ hop hstep) h

theorem RestoreRun.abandons_of_reads {op : Op} (h : op.Reads) : run.Abandons op := by
  cases op with
  | db op =>
    cases op with
    | attemptFinish | reservationRelease => exact absurd h not_false
    | _ => exact h
  | claim => exact absurd h not_false
  | _ => trivial

theorem RestoreRun.concludes_of_reads {op : Op} (h : op.Reads) : run.Concludes op := by
  cases op with
  | db op =>
    cases op with
    | journalAppend | attemptFinish | reservationRelease => exact absurd h not_false
    | _ => exact h
  | claim => exact absurd h not_false
  | _ => trivial

theorem uses_finishRestore_concludes {token : FenceToken} {w : Workload} :
    Uses run.Concludes (finishRestore run token w) := by
  unfold finishRestore
  refine Uses.bind (uses_callNode (fun _ => RestoreRun.concludes_of_reads) trivial).attempt
    fun answer => ?_
  refine Uses.bind (uses_db rfl) fun _ => ?_
  refine Uses.bind (uses_db ⟨rfl, ?_⟩) fun _ => ?_
  · split <;> decide
  refine Uses.bind (uses_db rfl) fun _ => ?_
  exact Uses.bind (uses_fire.mono fun _ => RestoreRun.concludes_of_reads) fun _ => trivial

/-- What is read back after the commit. -/
theorem uses_readBack_concludes {token : FenceToken} :
    Uses run.Concludes (do
      let w ← workloadGet run.ckpt.workloadId
      let w ← okOr w (.panicked "called unwrap on a None value")
      fire "restore.after_generation_commit"
      pure (token, w)) := by
  refine Uses.bind (uses_db (by trivial)) fun w => ?_
  refine Uses.bind uses_okOr fun w => ?_
  exact Uses.bind (uses_fire.mono fun _ => RestoreRun.concludes_of_reads) fun _ => trivial

/-- Wherever the commit is stopped; what it returns, it returns after it has gone through. -/
theorem stays_commitRestore (havailable : c.lifecycle = .available)
    (hvalid : c.integrityState = .valid) (h : run.Running c s₀ s.store) :
    Stays (run.Left c s₀) (fun result s' => ∀ value, result = .ok value → run.Landed c s₀ s')
      (commitRestore run) s := by
  have herror : ∀ (e : FabricError) (s' : Store) (value : FenceToken × Workload),
      .error e = (.ok value : FabricResult _) → run.Landed c s₀ s' := by
    rintro _ _ _ ⟨⟩
  unfold commitRestore
  refine stays_prepares_bind (contained_call trivial) havailable hvalid h herror fun _ s₁ h₁ => ?_
  refine stays_prepares_bind calm_restoreToken havailable hvalid h₁ herror fun token s₂ h₂ => ?_
  have hcommit : Stays (run.Left c s₀) (fun result s' => result = .ok () → run.Landed c s₀ s')
      (db (.restoreCommit run.ckpt.checkpointId run.attemptId run.targetNode token
        run.options.migration run.options.rollback)) s₂ := by
    refine ⟨h₂.left, fun reply s₃ hstep => ?_⟩
    rcases hstep.db_cases with ⟨value, -, hrun⟩ | ⟨e, rfl, -, hstore⟩
    · have hlanded := landed_of_restoreCommit h₂ (StoreOp.of_map_ok hrun)
      exact ⟨.inr hlanded, fun _ => hlanded⟩
    · refine ⟨?_, by rintro ⟨⟩⟩
      change run.Left c s₀ s₃.store
      rw [hstore]
      exact h₂.left
  refine Throughout.bind hcommit (fun _ s₃ _ h₃ => ?_) fun e s₃ _ _ => herror e s₃.store
  exact (stays_landed uses_readBack_concludes (h₃ rfl)).weaken (fun _ => .inr)
    fun _ _ hlanded _ _ _ => hlanded

theorem stays_executeRestore_of_available (havailable : c.lifecycle = .available)
    (hvalid : c.integrityState = .valid) (h : run.Running c s₀ s.store) :
    Stays (run.Left c s₀) (fun _ _ => True) (executeRestore settings run) s := by
  have herror : ∀ (e : FabricError) (s' : Store), True := fun _ _ => trivial
  unfold executeRestore
  refine stays_prepares_bind calm_provisionRestore havailable hvalid h herror fun _ s₁ h₁ => ?_
  refine stays_prepares_bind calm_applyRestore havailable hvalid h₁ herror fun _ s₂ h₂ => ?_
  refine Throughout.bind (stays_commitRestore havailable hvalid h₂) (fun value s₃ _ h₃ => ?_)
    fun _ _ _ _ => trivial
  exact (stays_landed uses_finishRestore_concludes (h₃ value rfl)).weaken (fun _ => .inr)
    fun _ _ _ => id

/-- A RESTORED checkpoint is not taken out of its state. -/
theorem stays_executeRestore_of_restored (hrestored : c.lifecycle = .restored)
    (h : run.Running c s₀ s.store) :
    Stays (run.Running c s₀) (fun _ _ => True) (executeRestore settings run) s := by
  obtain ⟨c', hc', hunder⟩ := h.own
  have hillegal : ¬ c'.lifecycle.canTransition .restorePending := by
    rcases hunder.2 with ⟨hsame, -⟩ | ⟨havailable, -⟩
    · rw [hsame, hrestored]
      decide
    · exact absurd (hrestored.symm.trans havailable) (by decide)
  have hset : Stays (run.Running c s₀) (fun result _ => result ≠ .ok ())
      (setLifecycle run.ckpt .restorePending) s := by
    unfold setLifecycle
    refine stays_db_bind h (fun _ => rfl) fun now n _ _ => ?_
    rw [Store.checkpointGet, hc']
    change Stays _ _ (Program.ofExcept (c'.lifecycle.transition .restorePending) >>=
      fun _ => db (.checkpointSetLifecycle run.ckpt.checkpointId .restorePending .pending)) _
    refine throughout_ofExcept_bind h (fun _ hlegal => ?_) fun e _ => by rintro ⟨⟩
    exact absurd (LifecycleState.transition_eq_ok_iff.mp hlegal) hillegal
  have hprovision : Stays (run.Running c s₀) (fun result _ => result ≠ .ok ())
      (provisionRestore run) s := by
    unfold provisionRestore
    refine Throughout.bind hset (fun _ _ _ hfailed => absurd rfl hfailed) fun e _ _ _ => ?_
    rintro ⟨⟩
  unfold executeRestore
  exact Throughout.bind hprovision (fun _ _ _ hfailed => absurd rfl hfailed) fun _ _ _ _ => trivial

theorem stays_executeRestore
    (hstate : c.lifecycle = .available ∧ c.integrityState = .valid ∨ c.lifecycle = .restored)
    (h : run.Running c s₀ s.store) :
    Stays (run.Left c s₀) (fun _ _ => True) (executeRestore settings run) s := by
  rcases hstate with ⟨havailable, hvalid⟩ | hrestored
  · exact stays_executeRestore_of_available havailable hvalid h
  · exact (stays_executeRestore_of_restored hrestored h).weaken (fun _ => RestoreRun.Running.left)
      fun _ _ _ => id

/-- A checkpoint that was taken out of AVAILABLE is put back. -/
theorem stays_returnToAvailable
    (hstate : c.lifecycle = .available ∧ c.integrityState = .valid ∨ c.lifecycle = .restored)
    (h : run.Open c s₀ s.store) :
    Stays (run.Open c s₀) (fun _ _ => True) (returnToAvailable run.ckpt.checkpointId) s := by
  obtain ⟨c', hc', hworkload, hunder⟩ := h.own
  unfold returnToAvailable
  refine stays_db_bind h (fun _ => rfl) fun now n _ _ => ?_
  rw [Store.checkpointGet, hc', Option.map_some]
  dsimp only
  split
  · rename_i hpending
    have hpending : c'.lifecycle = .restorePending ∨ c'.lifecycle = .restoring :=
      (Bool.or_eq_true_iff.mp hpending).imp beq_iff_eq.mp beq_iff_eq.mp
    have hintact : c.lifecycle = .available ∧ c.integrityState = .valid := by
      rcases hunder with ⟨hsame, -⟩ | ⟨havailable, hvalid, -⟩
      · rcases hstate with ⟨hstate, -⟩ | hstate <;> rcases hpending with hpending | hpending <;>
          exact absurd (hpending.symm.trans (hsame.trans hstate)) (by decide)
      · exact ⟨havailable, hvalid⟩
    refine throughout_ofExcept_bind h (fun _ _ => ⟨h, fun reply s' hstep => ⟨?_, trivial⟩⟩)
      fun _ _ => trivial
    change run.Open c s₀ s'.store
    rcases hstep.db_cases with ⟨value, -, hrun⟩ | ⟨e, -, -, hstore⟩
    · rw [(Store.checkpointSetLifecycle_ok (StoreOp.of_map_ok hrun)).2]
      exact h.update fun _ hunder' => ⟨hunder'.1, .inl ⟨hintact.1.symm, hintact.2.symm⟩⟩
    · rw [hstore]
      exact h
  · exact ⟨h, trivial⟩

/-- The abort goes by the journal. -/
theorem stays_abortRestoreAttempt {detail : String}
    (hstate : c.lifecycle = .available ∧ c.integrityState = .valid ∨ c.lifecycle = .restored)
    (h : run.Left c s₀ s.store) :
    Stays (run.Left c s₀) (fun _ _ => True) (abortRestoreAttempt run detail) s := by
  unfold abortRestoreAttempt
  refine stays_db_bind h (fun _ => rfl) fun now n _ _ => ?_
  rcases h with hopen | hlanded
  · have huncommitted : s.store.journalHas .restore run.attemptId .generationCommitted = false :=
      Bool.eq_false_iff.mpr fun h => hopen.uncommitted (Store.journalHas_eq_true_iff.mp h)
    rw [huncommitted]
    have hfinish (s₁ : Snapshot) (h₁ : run.Open c s₀ s₁.store) :
        Stays (run.Open c s₀) (fun _ _ => True) (do
          returnToAvailable run.ckpt.checkpointId
          attemptFinish run.attemptId .failed none (some detail)
          reservationRelease run.attemptId) s₁ := by
      refine Throughout.bind (stays_returnToAvailable hstate h₁)
        (fun _ s₂ h₂ _ => stays_abandons ?_ h₂) fun _ _ _ _ => trivial
      exact Uses.bind (uses_db ⟨rfl, rfl⟩) fun _ => uses_db rfl
    have hopens {p : Fabric Unit} {s₁ : Snapshot}
        (h₁ : Stays (run.Open c s₀) (fun _ _ => True) p s₁) :
        Stays (run.Left c s₀) (fun _ _ => True) p s₁ := h₁.weaken (fun _ => .inl) fun _ _ _ => id
    refine hopens (stays_db_bind hopen (fun _ => rfl) fun now₁ n₁ _ _ => ?_)
    cases s.store.attemptGet run.attemptId with
    | none => exact hfinish _ hopen
    | some a =>
      have hcall : Stays (run.Open c s₀) (fun _ _ => True) (callNode a.node (restoreCleanup
          run.attemptId run.ckpt.checkpointId run.ckpt.workloadId)).ignore ⟨s.store, now₁, n₁⟩ :=
        stays_abandons (uses_callNode (fun _ => RestoreRun.abandons_of_reads) trivial).ignore hopen
      exact Throughout.bind hcall (fun _ s₁ h₁ _ => hfinish s₁ h₁) fun _ _ _ _ => trivial
  · have hcommitted : s.store.journalHas .restore run.attemptId .generationCommitted = true :=
      Store.journalHas_eq_true_iff.mpr hlanded.committed
    rw [hcommitted]
    have hcloses : Stays (run.Landed c s₀) (fun _ _ => True) (do
        attemptFinish run.attemptId .committedNoResume
          (some "restore committed before post-commit failure") (some detail)
        reservationRelease run.attemptId) ⟨s.store, now, n⟩ :=
      stays_landed (Uses.bind (uses_db ⟨rfl, by decide⟩) fun _ => uses_db rfl) hlanded
    exact hcloses.weaken (fun _ => .inr) fun _ _ _ => id

/-- Reserving the restore opens its attempt, or fails. -/
theorem stays_reserveRestore {checkpointId : Id} (h : run.Open c s₀ s.store)
    (hnone : s.store.attempts.get run.attemptId = none) :
    Stays (run.Open c s₀) (fun result s' => result = .ok () → run.Running c s₀ s')
      (reserveRestore run checkpointId) s := by
  have hkind : (if run.options.rollback then AttemptKind.rollback else .restore) ≠ .capture := by
    split <;> decide
  have hreserve : Stays (run.Open c s₀) (fun _ s' => s'.attempts.get run.attemptId = none)
      (db (.reservationCreate run.attemptId .restore none (some checkpointId) run.targetNode
        reservationTtlMs)) s := by
    refine ⟨h, fun reply s₁ hstep => ?_⟩
    rcases Store.ends_reservationCreate reply s₁ hstep with ⟨-, r, hnew, hr, hstore⟩ | ⟨-, hstore⟩
    · change run.Open c s₀ s₁.store ∧ s₁.store.attempts.get run.attemptId = none
      rw [hstore]
      exact ⟨h.reserved hr.1, hnone⟩
    · change run.Open c s₀ s₁.store ∧ s₁.store.attempts.get run.attemptId = none
      rw [hstore]
      exact ⟨h, hnone⟩
  unfold reserveRestore
  refine Throughout.bind hreserve (fun _ s₁ h₁ hnone₁ => ?_) fun e _ _ _ => by rintro ⟨⟩
  change Stays (run.Open c s₀) (fun result s' => result = .ok () → run.Running c s₀ s') _ s₁
  refine stays_db_bind h₁ (fun _ => rfl) fun now n _ _ => ?_
  have hbegun :=
    h₁.begun hnone₁ hkind (some checkpointId) (some run.ckpt.workloadId) run.targetNode now
  refine ⟨hbegun.toRestoreOpen, fun reply s₂ hstep => ?_⟩
  have hrunning : run.Running c s₀ s₂.store := by
    rcases hstep.db_cases with ⟨value, -, hrun⟩ | ⟨e, -, -, hstore⟩
    · rw [← StoreOp.snd_of_ok hrun]
      exact hbegun.journalAppend (by decide)
    · rw [hstore]
      exact hbegun
  exact ⟨hrunning.toRestoreOpen, fun _ => hrunning⟩

/-- Wherever a reserved restore is stopped, or its abort. -/
theorem stays_executeOrAbortRestore
    (hstate : c.lifecycle = .available ∧ c.integrityState = .valid ∨ c.lifecycle = .restored)
    (h : run.Running c s₀ s.store) :
    Stays (run.Left c s₀) (fun _ _ => True)
      (mapErr (executeRestore settings run) fun e => abortRestoreAttempt run
        s!"restore failed: {e}") s := by
  unfold mapErr Program.onError
  refine (stays_executeRestore hstate h).andThen fun result s₁ h₁ _ => ?_
  cases result with
  | ok out => exact ⟨h₁, trivial⟩
  | error e =>
    dsimp only
    split
    · exact ⟨h₁, trivial⟩
    · have hignored : Stays (run.Left c s₀) (fun _ _ => True)
          (abortRestoreAttempt run s!"restore failed: {e}").ignore s₁ :=
        (stays_abortRestoreAttempt hstate h₁).andThen fun _ _ h₂ _ => ⟨h₂, trivial⟩
      exact hignored.andThen fun _ _ h₂ _ => ⟨h₂, trivial⟩

end Points

end Coordinator

end CheckpointFabric
