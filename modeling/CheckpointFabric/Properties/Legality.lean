import CheckpointFabric.Properties.Exclusion
import CheckpointFabric.Steps.Images

/-!
# The lifecycle of a checkpoint along a run

An update of the lifecycle reads the row, checks the transition, and writes: what it
overwrites may not be what it checked. Nor do all writers check. The abort of a capture
fails whatever was not committed, and the state machine itself lets a RETIRED checkpoint
be restored from an archive, which no restore is meant to do. Where none of these comes
about, a checkpoint only takes the edges of `canTransition`, and RETIRED and FAILED are
final.

## Main definitions

* `LifecycleState.Lawful` — the lifecycle stays, or takes an edge out of a state that is not final
* `OutdatedUpdate` — an update of the lifecycle by a thread that has not seen the present one
* `AbortsCreated` — a capture fails that has not come to CAPTURING
* `RestoresRetired` — a restore goes on though its checkpoint was retired

## Main results

* `lifecycle_legal` — without such steps every write is lawful, and terminal states stay
* `retired_restored`, `created_failed` — runs that take a RETIRED checkpoint to RESTORE_PENDING and
  a CREATED one to FAILED
-/

set_option autoImplicit false

namespace CheckpointFabric

open Concurrency Coordinator System

variable {settings : Settings} {t t' past : List (Event (fabric settings))}
  {e : Event (fabric settings)} {tid : ℕ} {id : Id} {c c' : CheckpointObject}

section Definitions

/-- The lifecycle is left as it is, or takes an edge of the state machine out of a state that is not
terminal. -/
def LifecycleState.Lawful (l l' : LifecycleState) : Prop :=
  l' = l ∨ l.canTransition l' ∧ l.isTerminal = false

instance {l l' : LifecycleState} : Decidable (l.Lawful l') := by
  unfold LifecycleState.Lawful
  infer_instance

/-- The event keeps the checkpoint, and takes its lifecycle on lawfully. -/
def ChangesLawfully (e : Event (fabric settings)) (past : List (Event (fabric settings)))
    (id : Id) : Prop :=
  ∀ c ∈ (stateOf past).checkpoint id, ∃ c' ∈ (after e).checkpoint id,
    c.lifecycle.Lawful c'.lifecycle

instance : Decidable (ChangesLawfully e past id) := by
  unfold ChangesLawfully
  infer_instance

/-- The operation updates the lifecycle of the row. -/
def updatesLifecycle (id : Id) : StoreOp → Bool
  | .checkpointSetLifecycle id' _ _ => id' = id
  | _ => false

/-- A thread updates the lifecycle of the row, though its newest read of the row did not show the
lifecycle that the row has. -/
def OutdatedUpdate (e : Event (fabric settings)) (past : List (Event (fabric settings))) (id : Id) :
    Prop :=
  ∃ call ∈ callOf e, updatesLifecycle id call.2 ∧
    lastSeen id (deeds call.1 past) ≠ ((stateOf past).checkpoint id).map (·.lifecycle)

instance : Decidable (OutdatedUpdate e past id) := by
  unfold OutdatedUpdate
  infer_instance

/-- The deed has opened a capture attempt for the checkpoint. -/
def opensCapture (id : Id) : FabricDeed → Bool
  | ⟨.db (.attemptBegin _ .capture (some id') _ _), .ok _⟩ => id' = id
  | _ => false

/-- The deed has taken the checkpoint to CAPTURING. -/
def entersCapturing (id : Id) : FabricDeed → Bool
  | ⟨.db (.checkpointSetLifecycle id' .capturing _), .ok _⟩ => id' = id
  | _ => false

/-- The operation fails the checkpoint. -/
def failsRow (id : Id) : StoreOp → Bool
  | .checkpointSetLifecycle id' .failed _ => id' = id
  | _ => false

/-- A capture fails its checkpoint, which it has not taken to CAPTURING. -/
def AbortsCreated (e : Event (fabric settings)) (past : List (Event (fabric settings))) (id : Id) :
    Prop :=
  ∃ call ∈ callOf e, failsRow id call.2 ∧ (deeds call.1 past).any (opensCapture id) ∧
    ¬ (deeds call.1 past).any (entersCapturing id)

instance : Decidable (AbortsCreated e past id) := by
  unfold AbortsCreated
  infer_instance

/-- The operation retires the checkpoint. -/
def retiresRow (id : Id) : StoreOp → Bool
  | .checkpointRetire id' => id' = id
  | _ => false

/-- The event retires the checkpoint. -/
def RetiresRow (e : Event (fabric settings)) (id : Id) : Prop :=
  ∃ call ∈ callOf e, retiresRow id call.2

instance : Decidable (RetiresRow e id) := by
  unfold RetiresRow
  infer_instance

/-- The deed has read the checkpoint in a state from which it can be restored. -/
def readsRestorable (id : Id) (d : FabricDeed) : Bool :=
  readsCheckpoint id d && (shownLifecycle d).any (·.isRestorable)

/-- The operation takes the checkpoint to RESTORE_PENDING. -/
def preparesRow (id : Id) : StoreOp → Bool
  | .checkpointSetLifecycle id' .restorePending _ => id' = id
  | _ => false

/-- A thread takes a checkpoint to RESTORE_PENDING that was retired after the thread had read it as
restorable. -/
def RestoresRetired (e : Event (fabric settings)) (past : List (Event (fabric settings)))
    (id : Id) : Prop :=
  ∃ call ∈ callOf e, preparesRow id call.2 ∧ ¬ EveryStep (fun e' past' =>
    RetiresRow e' id → ¬ (deeds call.1 past').any (readsRestorable id)) past

instance : Decidable (RestoresRetired e past id) := by
  unfold RestoresRetired
  infer_instance

/-- The event is no step by which a lifecycle goes wrong. -/
structure Orderly (e : Event (fabric settings)) (past : List (Event (fabric settings))) (id : Id) :
    Prop where
  current : ¬ OutdatedUpdate e past id
  begun : ¬ AbortsCreated e past id
  unretired : ¬ RestoresRetired e past id

instance : Decidable (Orderly e past id) :=
  decidable_of_iff
    (¬ OutdatedUpdate e past id ∧ ¬ AbortsCreated e past id ∧ ¬ RestoresRetired e past id)
    ⟨fun h => ⟨h.1, h.2.1, h.2.2⟩, fun h => ⟨h.current, h.begun, h.unretired⟩⟩

end Definitions

section Persisting

variable {run : CaptureRun}

/-- Once a capture has declared its checkpoint PERSISTING, every update that is made before the
checkpoint is persisted declares the same. -/
theorem persisting_of_lifecycle {lifecycle : LifecycleState} {integrity : IntegrityState}
    (h : Run (e :: t)) (hcaptures : Captures t tid run)
    (hdeclared : Reached captureTimetable t run.attemptId 1)
    (hnot : ¬ Persisted (e :: t) run.attemptId) {tid' : ℕ}
    (hcalls : Calls e t tid' (.checkpointSetLifecycle run.checkpointId lifecycle integrity) ())
    (hc : (stateOf t).checkpoint run.checkpointId = some c) : lifecycle = .persisting := by
  have hpast : ∀ t', t' <:+ t → EarlyOrPersisted t' :=
    fun t' hsuffix => earlyOrPersisted_of_run (h.tail.of_suffix hsuffix)
  have hattempt := hcaptures.captureAttempt_eq h.tail hc
  have hpreliminary : lifecycle.Preliminary := by
    refine (preliminary_or_persisted h hpast hcalls hc).resolve_right fun hpersisted => hnot ?_
    rwa [hattempt] at hpersisted
  obtain ⟨request, hrequest, hwriter⟩ := hcalls.writer h not_false
  cases hwriter with
  | @capture workloadId options run' hasks hdoes hwrites =>
    obtain ⟨hid, -, hstates⟩ := hwrites
    have hcaptures' := Captures.of_does hrequest hasks hdoes
    obtain ⟨rfl, hsame⟩ := hcaptures.unique_of_checkpoint h.tail hcaptures' hid
    -- The capture is past its first phase.
    rw [hsame.attemptId] at hdeclared
    rcases hstates with rfl | rfl | rfl | rfl | rfl | rfl
    case inr.inr.inr.inr.inl => rfl
    case inr.inr.inr.inr.inr => exact absurd hpreliminary not_false
    all_goals exact absurd (capture_inTurn h.tail hdoes hcaptures' rfl hdeclared) (by decide)
  | restore _ hwrites =>
    obtain ⟨-, ⟨rfl | rfl, -⟩ | ⟨rfl, -⟩⟩ := hwrites <;> exact absurd hpreliminary not_false
  | recovery hwrites =>
    obtain ⟨rfl, -⟩ | ⟨rfl, -⟩ := hwrites <;> exact absurd hpreliminary not_false
  | plain hwrites => exact absurd hwrites not_false

/-- A row that its capture has declared PERSISTING stays so until it is persisted. -/
theorem persisting_step (h : Run (e :: t)) (hcaptures : Captures t tid run)
    (hdeclared : Reached captureTimetable t run.attemptId 1)
    (hnot : ¬ Persisted (e :: t) run.attemptId)
    (hc : (stateOf t).checkpoint run.checkpointId = some c) (hstate : c.lifecycle = .persisting) :
    ∃ c', (after e).checkpoint run.checkpointId = some c' ∧ c'.lifecycle = .persisting := by
  rcases checkpoint_cases h run.checkpointId with ⟨tid', op, reply, hop, hcalls, hstep⟩ | hsame
  · rw [hc] at hstep
    generalize hrow : (after e).checkpoint run.checkpointId = row at hstep
    cases hstep with
    | updated hid =>
      obtain ⟨request, -, hwriter⟩ := hcalls.writer h hop
      cases hwriter with
      | capture _ _ hwrites => exact ⟨_, rfl, hwrites.lifecycle⟩
      | restore _ hwrites | recovery hwrites | plain hwrites => exact absurd hwrites not_false
    | lifecycleSet =>
      exact ⟨_, rfl, persisting_of_lifecycle h hcaptures hdeclared hnot hcalls hc⟩
    | captured _ hlinks =>
      have hattempt := (hcaptures.mono h (List.suffix_cons e t)).captureAttempt_eq h hrow
      have hpersisted := (persisted_of_captureCommit h hcalls hrow).1
      rw [hattempt] at hpersisted
      exact absurd hpersisted hnot
    | relinked _ _ hlinks =>
      obtain ⟨supersedes, supersededBy, rfl⟩ := hlinks
      exact ⟨_, rfl, hstate⟩
    | restored hrestoring => exact nomatch hstate.symm.trans hrestoring
    | retired _ havailable => exact nomatch hstate.symm.trans havailable
    | _ => exact ⟨_, rfl, hstate⟩
  · exact ⟨c, hsame.trans hc, hstate⟩

/-- The event by which a capture declares its checkpoint PERSISTING. -/
theorem declared_of_calls {id : Id} {integrity : IntegrityState} (h : Run (e :: t))
    (hcalls : Calls e t tid (.checkpointSetLifecycle id .persisting integrity) ()) :
    ∃ run, Captures t tid run ∧ run.checkpointId = id ∧
      Reached captureTimetable (e :: t) run.attemptId 1 ∧
      ∃ c, (after e).checkpoint id = some c ∧ c.lifecycle = .persisting := by
  obtain ⟨request, hrequest, hwriter⟩ := hcalls.writer h not_false
  cases hwriter with
  | @capture workloadId options run hasks hdoes hwrites =>
    have hcaptures := Captures.of_does hrequest hasks hdoes
    have hreached : Reached captureTimetable (e :: t) run.attemptId 1 :=
      ⟨tid, ⟨.db (.checkpointSetLifecycle id .persisting integrity), .ok ()⟩, deeds tid t,
        hcalls.deeds_eq ▸ List.suffix_refl _, hcaptures.drawn_nonce, 1, rfl, Nat.le_refl 1⟩
    refine ⟨run, hcaptures, hwrites.1.symm, hreached, ?_⟩
    obtain ⟨hsome, hafter⟩ := Store.checkpointSetLifecycle_ok (StoreOp.of_map_ok hcalls.run)
    obtain ⟨c, hc⟩ := Option.isSome_iff_exists.mp hsome
    refine ⟨{ c with lifecycle := .persisting, integrityState := integrity }, ?_, rfl⟩
    rw [World.checkpoint, hafter, Store.get_updateCheckpoint, if_pos rfl, hc]
    rfl
  | restore _ hwrites =>
    obtain ⟨-, ⟨hstate | hstate, -⟩ | ⟨hstate, -⟩⟩ := hwrites <;> exact absurd hstate (by decide)
  | recovery hwrites =>
    obtain ⟨hstate, -⟩ | ⟨hstate, -⟩ := hwrites <;> exact absurd hstate (by decide)
  | plain hwrites => exact absurd hwrites not_false

/-- The full image of a checkpoint is written over a row that is PERSISTING. -/
theorem persisting_of_update (h : Run (e :: t)) (hcalls : Calls e t tid (.checkpointUpdate c') ())
    (hc : (stateOf t).checkpoint c'.checkpointId = some c) : c.lifecycle = .persisting := by
  obtain ⟨request, hrequest, hwriter⟩ := hcalls.writer h not_false
  cases hwriter with
  | @capture workloadId options run hasks hdoes hwrites =>
    have hcaptures := Captures.of_does hrequest hasks hdoes
    have hid := hwrites.staged.describes.checkpointId
    rw [hid] at hc
    have hnot : ¬ Persisted t run.attemptId := by
      intro hpersisted
      rw [← hcaptures.captureAttempt_eq h.tail hc] at hpersisted
      exact absurd (two_le_of_persisted h.tail hrequest hasks hdoes rfl hc hpersisted) (by decide)
    -- From the declaration on nobody but the capture has written the row.
    obtain ⟨e₁, t₁, hsuffix₁, hcalls₁⟩ := exists_calls_of_mem h.tail hdoes.backed
    obtain ⟨run₁, hcaptures₁, hid₁, hreached₁, hrow₁⟩ :=
      declared_of_calls (h.tail.of_suffix hsuffix₁) hcalls₁
    have hpast₁ := (List.suffix_cons e₁ t₁).trans hsuffix₁
    obtain ⟨-, hsame⟩ :=
      (hcaptures₁.mono h.tail hpast₁).unique_of_checkpoint h.tail hcaptures hid₁
    rw [← hid₁] at hc hrow₁
    rw [← hsame.attemptId] at hnot
    obtain ⟨c₂, hc₂, hstate⟩ := suffix_induction (P := fun past : List (Event (fabric settings)) =>
      ∃ c, (stateOf past).checkpoint run₁.checkpointId = some c ∧ c.lifecycle = .persisting)
      hsuffix₁ hrow₁ fun e past hsuffix hpast ⟨c, hc, hstate⟩ =>
        persisting_step (h.tail.of_suffix hpast)
          (hcaptures₁.mono (h.tail.of_suffix ((List.suffix_cons e past).trans hpast))
            ((List.suffix_cons e₁ t₁).trans hsuffix))
          (hreached₁.mono hsuffix) (fun hpersisted => hnot (hpersisted.mono hpast)) hc hstate
    exact Option.some.inj (hc₂.symm.trans hc) ▸ hstate
  | restore _ hwrites | recovery hwrites | plain hwrites => exact absurd hwrites not_false

end Persisting

section Written

/-- Which states an event can put a row into: never CREATED, and RETIRED only by a retirement. -/
theorem written_of_step (h : Run (e :: t)) (hc : (stateOf t).checkpoint id = some c) :
    ∃ c', (after e).checkpoint id = some c' ∧ (c'.lifecycle = c.lifecycle ∨
      c'.lifecycle ≠ .created ∧ (c'.lifecycle = .retired → RetiresRow e id)) := by
  rcases checkpoint_cases h id with ⟨tid, op, reply, hop, hcalls, hstep⟩ | hsame
  · rw [hc] at hstep
    generalize hrow : (after e).checkpoint id = row at hstep
    cases hstep with
    | updated hid =>
      obtain ⟨request, -, hwriter⟩ := hcalls.writer h hop
      cases hwriter with
      | capture _ _ hwrites =>
        refine ⟨_, rfl, .inr ?_⟩
        rw [show _ = LifecycleState.persisting from hwrites.lifecycle]
        exact ⟨nofun, nofun⟩
      | restore _ hwrites | recovery hwrites | plain hwrites => exact absurd hwrites not_false
    | @lifecycleSet _ lifecycle integrity =>
      refine ⟨_, rfl, .inr ?_⟩
      show lifecycle ≠ .created ∧ (lifecycle = .retired → _)
      obtain ⟨request, -, hwriter⟩ := hcalls.writer h hop
      cases hwriter with
      | capture _ _ hwrites =>
        obtain ⟨-, -, rfl | rfl | rfl | rfl | rfl | rfl⟩ := hwrites <;> exact ⟨nofun, nofun⟩
      | restore _ hwrites =>
        obtain ⟨-, ⟨rfl | rfl, -⟩ | ⟨rfl, -⟩⟩ := hwrites <;> exact ⟨nofun, nofun⟩
      | recovery hwrites => obtain ⟨rfl, -⟩ | ⟨rfl, -⟩ := hwrites <;> exact ⟨nofun, nofun⟩
      | plain hwrites => exact absurd hwrites not_false
    | captured _ hlinks =>
      obtain ⟨supersedes, supersededBy, rfl⟩ := hlinks
      exact ⟨_, rfl, .inr ⟨nofun, nofun⟩⟩
    | relinked _ _ hlinks =>
      obtain ⟨supersedes, supersededBy, rfl⟩ := hlinks
      exact ⟨_, rfl, .inl rfl⟩
    | restored => exact ⟨_, rfl, .inr ⟨nofun, nofun⟩⟩
    | retired =>
      exact ⟨_, rfl, .inr ⟨nofun, fun _ => ⟨_, hcalls.callOf_eq, decide_eq_true rfl⟩⟩⟩
    | _ => exact ⟨_, rfl, .inl rfl⟩
  · exact ⟨c, hsame.trans hc, .inl rfl⟩

/-- A checkpoint that has left CREATED does not come back to it. -/
theorem ne_created_of_suffix (h : Run t) (hsuffix : t' <:+ t)
    (hc' : ∃ c, (stateOf t').checkpoint id = some c ∧ c.lifecycle ≠ .created) :
    ∃ c, (stateOf t).checkpoint id = some c ∧ c.lifecycle ≠ .created := by
  refine suffix_induction (P := fun past : List (Event (fabric settings)) =>
    ∃ c, (stateOf past).checkpoint id = some c ∧ c.lifecycle ≠ .created) hsuffix hc' ?_
  intro e past _ hpast ⟨c, hc, hstate⟩
  obtain ⟨c', hc', hsame | ⟨hstate', -⟩⟩ := written_of_step (h.of_suffix hpast) hc
  · exact ⟨c', hc', hsame ▸ hstate⟩
  · exact ⟨c', hc', hstate'⟩

/-- A checkpoint that was not retired meanwhile is not RETIRED. -/
theorem ne_retired_of_suffix (h : Run t) (hsuffix : t' <:+ t)
    (hc' : ∃ c, (stateOf t').checkpoint id = some c ∧ c.lifecycle ≠ .retired)
    (hnot : ∀ e past, t' <:+ past → e :: past <:+ t → ¬ RetiresRow e id) :
    ∃ c, (stateOf t).checkpoint id = some c ∧ c.lifecycle ≠ .retired := by
  refine suffix_induction (P := fun past : List (Event (fabric settings)) =>
    ∃ c, (stateOf past).checkpoint id = some c ∧ c.lifecycle ≠ .retired) hsuffix hc' ?_
  intro e past hmid hpast ⟨c, hc, hstate⟩
  obtain ⟨c', hc', hsame | ⟨-, hretires⟩⟩ := written_of_step (h.of_suffix hpast) hc
  · exact ⟨c', hc', hsame ▸ hstate⟩
  · exact ⟨c', hc', fun hretired => hnot e past hmid hpast (hretires hretired)⟩

end Written

section Lawful

/-- An edge to any other state leaves no terminal one. -/
theorem LifecycleState.Lawful.of_canTransition {l l' : LifecycleState} (h : l.canTransition l')
    (hpending : l' ≠ .restorePending) (hfailed : l' ≠ .failed) : l.Lawful l' := by
  refine .inr ⟨h, ?_⟩
  apply LifecycleState.isTerminal_eq_false_iff.mpr
  constructor
  · rintro rfl
    cases l' <;> first | exact absurd h (by decide) | exact hpending rfl | exact hfailed rfl
  · rintro rfl
    exact LifecycleState.not_canTransition_of_failed h

/-- What an update that is not outdated has seen. -/
theorem lastSeen_of_current {lifecycle : LifecycleState} {integrity : IntegrityState}
    (hcalls : Calls e t tid (.checkpointSetLifecycle id lifecycle integrity) ())
    (hc : (stateOf t).checkpoint id = some c) (hcurrent : ¬ OutdatedUpdate e t id) :
    lastSeen id (deeds tid t) = some c.lifecycle := by
  by_contra hseen
  apply hcurrent
  refine ⟨_, hcalls.callOf_eq, decide_eq_true rfl, ?_⟩
  rw [hc]
  exact hseen

/-- A capture that has come to CAPTURING fails no CREATED checkpoint. -/
theorem ne_created_of_begun {integrity : IntegrityState} {run : CaptureRun} {workloadId : Id}
    (h : Run (e :: t)) (hcalls : Calls e t tid (.checkpointSetLifecycle id .failed integrity) ())
    (hid : id = run.checkpointId) (hopened : run.Begun workloadId (deeds tid t))
    (hbegun : ¬ AbortsCreated e t id) (hc : (stateOf t).checkpoint id = some c) :
    c.lifecycle ≠ .created := by
  have hopens : (deeds tid t).any (opensCapture id) :=
    List.any_eq_true.mpr ⟨_, hopened.opened, decide_eq_true hid.symm⟩
  have hentered : (deeds tid t).any (entersCapturing id) := by
    by_contra hnot
    exact hbegun ⟨_, hcalls.callOf_eq, decide_eq_true rfl, hopens, hnot⟩
  obtain ⟨d, hd, henters⟩ := List.any_eq_true.mp hentered
  unfold entersCapturing at henters
  split at henters
  · rename_i id' integrity' reply
    obtain rfl := of_decide_eq_true henters
    obtain ⟨e₁, t₁, hsuffix, hcalls₁⟩ := exists_calls_of_mem h.tail hd
    -- At that update the row became CAPTURING.
    obtain ⟨hsome, hafter⟩ := Store.checkpointSetLifecycle_ok (StoreOp.of_map_ok hcalls₁.run)
    obtain ⟨c₁, hc₁⟩ := Option.isSome_iff_exists.mp hsome
    have hrow : (after e₁).checkpoint id' =
        some { c₁ with lifecycle := .capturing, integrityState := integrity' } := by
      rw [World.checkpoint, hafter, Store.get_updateCheckpoint, if_pos rfl, hc₁]
      rfl
    have hleft : LifecycleState.capturing ≠ .created := by decide
    obtain ⟨c₂, hc₂, hstate⟩ := ne_created_of_suffix h.tail hsuffix ⟨_, hrow, hleft⟩
    exact Option.some.inj (hc₂.symm.trans hc) ▸ hstate
  · exact absurd henters (by decide)

/-- A restore whose checkpoint was not retired after it was validated finds it in another state. -/
theorem ne_retired_of_unretired {integrity : IntegrityState}
    {checkpointId : Id} {targetNode : NodeId} {options : RestoreOptions} {start : List FabricDeed}
    {run : RestoreRun} (h : Run (e :: t))
    (hcalls : Calls e t tid (.checkpointSetLifecycle id .restorePending integrity) ())
    (hid : id = run.ckpt.checkpointId)
    (hadmitted : RestoreAdmitted settings checkpointId targetNode options start (deeds tid t) run)
    (hunretired : ¬ RestoresRetired e t id) (hc : (stateOf t).checkpoint id = some c) :
    c.lifecycle ≠ .retired := by
  have hread := hadmitted.read
  rw [← hadmitted.checkpointId_eq h.tail, ← hid] at hread
  have hrestorable : run.ckpt.lifecycle.isRestorable :=
    (Restore.validateRestoreRequest_eq_ok_iff.mp hadmitted.restorable).1
  obtain ⟨t₁, hsuffix, hd, row, hrow, hckpt⟩ := checkpoint_of_read h.tail hread
  have hstate : row.lifecycle ≠ .retired := by
    intro hretired
    rw [hckpt, show (Store.readCheckpoint row).lifecycle = row.lifecycle from rfl, hretired]
      at hrestorable
    exact absurd hrestorable (by decide)
  have hvalidated : ∀ past, t₁ <:+ past → (deeds tid past).any (readsRestorable id) := by
    intro past hpast
    refine List.any_eq_true.mpr ⟨_, (deeds_suffix hpast).subset hd, ?_⟩
    simp [readsRestorable, readsCheckpoint, shownLifecycle, hrestorable]
  obtain ⟨c', hc', hstate'⟩ := ne_retired_of_suffix h.tail hsuffix ⟨row, hrow, hstate⟩ (by
    intro e' past hmid hpast hretires
    refine hunretired ⟨_, hcalls.callOf_eq, decide_eq_true rfl, fun hsteps => ?_⟩
    exact hsteps e' past hpast hretires (hvalidated past hmid))
  exact Option.some.inj (hc'.symm.trans hc) ▸ hstate'

/-- An orderly update is lawful. -/
theorem lawful_of_lifecycle {lifecycle : LifecycleState} {integrity : IntegrityState}
    (h : Run (e :: t)) (hcalls : Calls e t tid (.checkpointSetLifecycle id lifecycle integrity) ())
    (hc : (stateOf t).checkpoint id = some c) (horderly : Orderly e t id) :
    c.lifecycle.Lawful lifecycle := by
  have hseen := lastSeen_of_current hcalls hc horderly.current
  obtain ⟨request, hrequest, hwriter⟩ := hcalls.writer h not_false
  cases hwriter with
  | @capture workloadId options run hasks hdoes hwrites =>
    have hread := hdoes.backed
    obtain ⟨hid, -, rfl | rfl | rfl | rfl | rfl | rfl⟩ := hwrites
    case inr.inr.inr.inr.inr =>
      have hcreated : c.lifecycle ≠ .created :=
        ne_created_of_begun h hcalls hid (hdoes.begun.resolve_left not_false) horderly.begun hc
      obtain ⟨-, -, hretired⟩ := hread.2.of_lastSeen hseen
      by_cases hfailed : c.lifecycle = .failed
      · exact .inl hfailed.symm
      · refine .inr ⟨LifecycleState.canTransition_failed_iff.mpr ⟨hcreated, hfailed⟩, ?_⟩
        exact LifecycleState.isTerminal_eq_false_iff.mpr ⟨hretired, hfailed⟩
    all_goals
      have hallowed : JustRead (deeds tid t) id (·.canTransition _) := hread
      exact .of_canTransition (hallowed.of_lastSeen hseen) nofun nofun
  | restore hdoes hwrites =>
    have hread := hdoes.backed
    obtain ⟨hid, ⟨rfl | rfl, -⟩ | ⟨rfl, -⟩⟩ := hwrites
    · have hallowed : JustRead (deeds tid t) id (·.canTransition _) := hread
      have hretired := ne_retired_of_unretired h hcalls hid hdoes.admitted horderly.unretired hc
      refine .inr ⟨hallowed.of_lastSeen hseen, ?_⟩
      refine LifecycleState.isTerminal_eq_false_iff.mpr ⟨hretired, fun hfailed => ?_⟩
      exact LifecycleState.not_canTransition_of_failed (hfailed ▸ hallowed.of_lastSeen hseen)
    · have hallowed : JustRead (deeds tid t) id (·.canTransition _) := hread
      exact .of_canTransition (hallowed.of_lastSeen hseen) nofun nofun
    · rcases hread.2.of_lastSeen hseen with hstate | hstate
      all_goals
        rw [hstate]
        exact .inr ⟨rfl, rfl⟩
  | recovery hwrites =>
    obtain ⟨rfl, -, hread, -⟩ | ⟨rfl, -, hread, -⟩ := hwrites
    all_goals
      rcases hread.of_lastSeen hseen with hstate | hstate
      all_goals
        rw [hstate]
        exact .inr ⟨rfl, rfl⟩
  | plain hwrites => exact absurd hwrites not_false

/-- One orderly step takes the lifecycle of a checkpoint on lawfully. -/
theorem changesLawfully_of_run (h : Run (e :: t)) (horderly : Orderly e t id) :
    ChangesLawfully e t id := by
  intro c hc
  have hkept : c.lifecycle.Lawful c.lifecycle := .inl rfl
  rcases checkpoint_cases h id with ⟨tid, op, reply, hop, hcalls, hstep⟩ | hsame
  · rw [show (stateOf t).checkpoint id = some c from hc] at hstep
    generalize hrow : (after e).checkpoint id = row at hstep
    cases hstep with
    | updated hid =>
      obtain ⟨request, -, hwriter⟩ := hcalls.writer h hop
      refine ⟨_, rfl, ?_⟩
      have hstate := persisting_of_update h hcalls (hid ▸ hc)
      cases hwriter with
      | capture _ _ hwrites => exact .inl (hwrites.lifecycle.trans hstate.symm)
      | restore _ hwrites | recovery hwrites | plain hwrites => exact absurd hwrites not_false
    | lifecycleSet => exact ⟨_, rfl, lawful_of_lifecycle h hcalls hc horderly⟩
    | captured hstates hlinks =>
      obtain ⟨supersedes, supersededBy, rfl⟩ := hlinks
      refine ⟨_, rfl, ?_⟩
      rcases hstates with hstate | hstate
      · exact .inr (by rw [hstate]; exact ⟨rfl, rfl⟩)
      · exact .inl hstate.symm
    | relinked _ _ hlinks =>
      obtain ⟨supersedes, supersededBy, rfl⟩ := hlinks
      exact ⟨_, rfl, hkept⟩
    | restored hstate => exact ⟨_, rfl, .inr (by rw [hstate]; exact ⟨rfl, rfl⟩)⟩
    | retired _ hstate => exact ⟨_, rfl, .inr (by rw [hstate]; exact ⟨rfl, rfl⟩)⟩
    | _ => exact ⟨_, rfl, hkept⟩
  · exact ⟨c, hsame.trans hc, hkept⟩

end Lawful

/-- In a run whose steps are all orderly, every write of the lifecycle of a checkpoint leaves it as
it is or takes an edge of the state machine, and what was RETIRED or FAILED once stays so. -/
theorem lifecycle_legal (h : Run t) (hsteps : EveryStep (fun e past => Orderly e past id) t) :
    EveryStep (fun e past => ChangesLawfully e past id) t ∧
      ∀ t' c, t' <:+ t → (stateOf t').checkpoint id = some c → c.lifecycle.isTerminal →
        ((stateOf t).checkpoint id).map (·.lifecycle) = some c.lifecycle := by
  have hlawful : EveryStep (fun e past => ChangesLawfully e past id) t :=
    fun e past hsuffix => changesLawfully_of_run (h.of_suffix hsuffix) (hsteps e past hsuffix)
  refine ⟨hlawful, fun t' c hsuffix hc hterminal => ?_⟩
  have hnow : ((stateOf t').checkpoint id).map (·.lifecycle) = some c.lifecycle := by
    rw [hc]
    rfl
  refine suffix_induction (P := fun past : List (Event (fabric settings)) =>
    ((stateOf past).checkpoint id).map (·.lifecycle) = some c.lifecycle) hsuffix hnow ?_
  intro e past _ hpast hstate
  obtain ⟨c₁, hc₁, hstate₁⟩ := Option.map_eq_some_iff.mp hstate
  obtain ⟨c', hc', hsame | ⟨-, hrunning⟩⟩ := hlawful e past hpast c₁ hc₁
  · rw [stateOf_cons, show (after e).checkpoint id = some c' from hc', Option.map_some, hsame,
      hstate₁]
  · rw [hstate₁, hterminal] at hrunning
    exact absurd hrunning (by decide)

/-- The checkpoint of the workload is retired, and a restore of it is refused. -/
def Demo.retiredTried : List (Action (fabric Demo.settings)) :=
  Demo.captured ++ Demo.alone 3 (.checkpointUnprotect 2) ++
    Demo.alone 4 (.checkpointRetire 2 Demo.operator) ++
    Demo.alone 5 (.restore 2 "n1" {} Demo.operator)

theorem lifecycle_legal_retired :
    EveryStep (fun e past => ChangesLawfully e past 2) (exec Demo.retiredTried).trace ∧
      ((stateOf (exec Demo.retiredTried).trace).checkpoint 2).map (·.lifecycle) = some .retired := by
  have hsteps : EveryStep (fun e past => Orderly e past 2) (exec Demo.retiredTried).trace := by
    decide +kernel
  obtain ⟨hlawful, hterminal⟩ := lifecycle_legal (exec_run Demo.retiredTried) hsteps
  obtain ⟨t', hsuffix, hretired⟩ : ∃ t' ∈ (exec Demo.retiredTried).trace.tails,
      ((stateOf t').checkpoint 2).map (·.lifecycle) = some .retired := by
    decide +kernel
  obtain ⟨c, hc, hstate⟩ := Option.map_eq_some_iff.mp hretired
  refine ⟨hlawful, ?_⟩
  rw [hterminal t' c ((List.mem_tails _ _).mp hsuffix) hc (by rw [hstate]; rfl), hstate]

/-- A restore reads an AVAILABLE checkpoint, which is retired before the restore takes it to
RESTORE_PENDING. -/
def Demo.restoredRetired : List (Action (fabric Demo.settings)) :=
  let restore := Request.restore 2 "n1" {} Demo.operator
  Demo.captured ++ Demo.alone 3 (.checkpointUnprotect 2) ++
    [.accept restore] ++ List.replicate 5 (.advance 4 ({} : Input)) ++
    Demo.alone 5 (.checkpointRetire 2 Demo.operator) ++
    List.replicate 8 (.advance 4 ({} : Input))

/-- The RETIRED checkpoint is in RESTORE_PENDING in the end. -/
theorem retired_restored :
    Run (exec Demo.restoredRetired).trace ∧
      ¬ EveryStep (fun e past => ChangesLawfully e past 2) (exec Demo.restoredRetired).trace ∧
      ∃ t', t' <:+ (exec Demo.restoredRetired).trace ∧
        ((stateOf t').checkpoint 2).map (·.lifecycle) = some .retired ∧
        ((stateOf (exec Demo.restoredRetired).trace).checkpoint 2).map (·.lifecycle) =
          some .restorePending := by
  refine ⟨exec_run Demo.restoredRetired, by decide +kernel, ?_⟩
  obtain ⟨t', hsuffix, hretired⟩ : ∃ t' ∈ (exec Demo.restoredRetired).trace.tails,
      ((stateOf t').checkpoint 2).map (·.lifecycle) = some .retired := by
    decide +kernel
  exact ⟨t', (List.mem_tails _ _).mp hsuffix, hretired, by decide +kernel⟩

/-- The database fails when a capture takes its new checkpoint to CAPTURING. -/
def Demo.failedEarly : List (Action (fabric Demo.settings)) :=
  Demo.created ++ [.accept (.capture 7 {} Demo.operator)] ++
    List.replicate 15 (.advance 2 ({} : Input)) ++
    [.advance 2 ({ fault := some (.sqlite "disk I/O error") } : Input)] ++
    List.replicate 20 (.advance 2 ({} : Input))

/-- The abort writes FAILED over CREATED, which is no edge. -/
theorem created_failed :
    Run (exec Demo.failedEarly).trace ∧
      ¬ EveryStep (fun e past => ChangesLawfully e past 2) (exec Demo.failedEarly).trace ∧
      ∃ t', t' <:+ (exec Demo.failedEarly).trace ∧
        ((stateOf t').checkpoint 2).map (·.lifecycle) = some .created ∧
        ((stateOf (exec Demo.failedEarly).trace).checkpoint 2).map (·.lifecycle) =
          some .failed := by
  refine ⟨exec_run Demo.failedEarly, by decide +kernel, ?_⟩
  obtain ⟨t', hsuffix, hcreated⟩ : ∃ t' ∈ (exec Demo.failedEarly).trace.tails,
      ((stateOf t').checkpoint 2).map (·.lifecycle) = some .created := by
    decide +kernel
  exact ⟨t', (List.mem_tails _ _).mp hsuffix, hcreated, by decide +kernel⟩

end CheckpointFabric
