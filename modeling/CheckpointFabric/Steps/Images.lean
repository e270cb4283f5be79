import CheckpointFabric.Steps.Journal

/-!
# What a checkpoint row shows of its capture

Until a capture has persisted its checkpoint, nothing but the capture touches the row:
it is not linked, not restored, and in one of the early states. Once the full image is
written, the row keeps it.

## Main definitions

* `CheckpointObject.Early` — the row of a checkpoint that was not persisted yet

## Main results

* `earlyOrPersisted_of_run` — a row is early, or its capture has persisted it
-/

set_option autoImplicit false

namespace CheckpointFabric

open Concurrency Coordinator System

variable {settings : Settings} {t t' : List (Event (fabric settings))}
  {e : Event (fabric settings)} {tid : ℕ} {key : AttemptId} {id : Id} {c c' : CheckpointObject}

/-- The states of a capture under way. -/
def LifecycleState.Preliminary : LifecycleState → Prop
  | .created | .capturing | .captured | .validating | .sealed | .persisting => True
  | .available | .restorePending | .restoring | .restored | .retired | .failed => False

/-- The row of a checkpoint that nothing but its capture has touched. -/
structure CheckpointObject.Early (c : CheckpointObject) : Prop where
  unused : c.Unused
  preliminary : c.lifecycle.Preliminary

/-- The capture of the attempt has journaled that its checkpoint is persisted, or has gone further. -/
abbrev Persisted (t : List (Event (fabric settings))) (key : AttemptId) : Prop :=
  Reached captureTimetable t key 2

/-- Every row is early, or was persisted. -/
def EarlyOrPersisted (t : List (Event (fabric settings))) : Prop :=
  ∀ id c, (stateOf t).checkpoint id = some c → c.Early ∨ Persisted t c.captureAttempt

section Early

variable (h : Run t) (hpast : ∀ t', t' <:+ t → EarlyOrPersisted t')
include h hpast

/-- A row that was read in a later state had been persisted. -/
theorem persisted_of_read (hc : (stateOf t).checkpoint id = some c)
    (hd : (⟨.db (.checkpointGet id), .ok (some c')⟩ : FabricDeed) ∈ deeds tid t)
    (hlate : ¬ c'.lifecycle.Preliminary) : Persisted t c.captureAttempt := by
  obtain ⟨t₁, hsuffix, -, row, hrow, rfl⟩ := checkpoint_of_read h hd
  obtain ⟨c₁, hc₁, hsame⟩ := sameImage_of_suffix h hsuffix hrow
  obtain rfl := Option.some.inj (hc₁.symm.trans hc)
  rcases hpast t₁ hsuffix id row hrow with hearly | hreached
  · exact absurd hearly.preliminary hlate
  · rw [hsame.captureAttempt]
    exact hreached.mono hsuffix

/-- So had the checkpoint of a restore. -/
theorem persisted_of_admitted {checkpointId : Id} {targetNode : NodeId} {options : RestoreOptions}
    {start : List FabricDeed} {run : RestoreRun}
    (hadmitted : RestoreAdmitted settings checkpointId targetNode options start (deeds tid t) run)
    (hc : (stateOf t).checkpoint run.ckpt.checkpointId = some c) : Persisted t c.captureAttempt := by
  have hread := hadmitted.read
  rw [← hadmitted.checkpointId_eq h] at hread
  refine persisted_of_read h hpast hc hread ?_
  rcases Restore.lifecycle_of_validateRestoreRequest hadmitted.restorable with hstate | hstate
  all_goals
    rw [hstate]
    exact not_false

end Early

/-- Whoever tries to commit the metadata of a checkpoint has seen that it is persisted, and uses the
attempt of its capture. -/
theorem persisted_of_commit {attemptId : AttemptId} {input : Input} {before : World} (h : Run t)
    (hsuffix : .performed tid (.db (.captureCommit id attemptId)) input before :: t' <:+ t)
    (hc : (stateOf t).checkpoint id = some c) :
    Persisted t c.captureAttempt ∧ Imaged t c.captureAttempt ∧ c.captureAttempt = attemptId := by
  have hrun := h.of_suffix hsuffix
  have hpast := (List.suffix_cons _ t').trans hsuffix
  obtain ⟨request, hrequest, hwriter⟩ := writer_of_run hrun not_false
  obtain ⟨tid', run', himage⟩ := described_of_run h hc
  cases hwriter with
  | @capture workloadId options run hasks hdoes hwrites =>
    obtain ⟨rfl, rfl⟩ := hwrites
    have hcaptures := Captures.of_does hrequest hasks hdoes
    obtain ⟨-, hsame⟩ := himage.eq_of_checkpoint h (hcaptures.mono h hpast)
      (World.checkpointId_of_row hc)
    have hattempt : c.captureAttempt = run.attemptId :=
      himage.2.captureAttempt.trans hsame.attemptId
    rw [hattempt]
    refine ⟨⟨tid, _, deeds tid t', deeds_performed ▸ deeds_suffix hsuffix, hcaptures.drawn_nonce, 3,
      ?_, by decide⟩, Imaged.mono h hpast ⟨tid, run, hcaptures, rfl, hdoes.backed⟩, rfl⟩
    rfl
  | restore _ hwrites | plain hwrites => exact absurd hwrites not_false
  | recovery hwrites =>
    -- The listed row shows the capture that it was opened with.
    obtain ⟨a, ⟨attempts, hlisted, hmem⟩, hkind, rfl, hckpt, hlooked, -⟩ := hwrites
    obtain ⟨himaged, hreached⟩ := captures_of_persisted hrun.tail
      (journaled_of_looked hrun.tail hlooked)
    have hreads : (StoreOp.attemptsInState .active).Reads := trivial
    obtain ⟨t₁, hsuffix₁, -, now, hread⟩ := exists_store_of_read hrun.tail hreads hlisted
    have hattempts : (stateOf t₁).store.attemptsInState .active = attempts :=
      (Prod.mk.inj (Except.ok.inj hread)).1
    rw [← hattempts, Store.attemptsInState, List.mem_insertionSort, List.mem_filter] at hmem
    have ha : (stateOf t₁).attempt a.id = some a := Table.get_of_mem hmem.1
    have hsuffix₁ := hsuffix₁.trans hpast
    cases (opened_of_run (h.of_suffix hsuffix₁) ha).mono h hsuffix₁ with
    | capture hcaptures hid _ hckpt' =>
      obtain rfl := Option.some.inj (hckpt.symm.trans hckpt')
      obtain ⟨-, hsame⟩ := himage.eq_of_checkpoint h hcaptures (World.checkpointId_of_row hc)
      have hattempt : c.captureAttempt = a.id := by
        rw [himage.2.captureAttempt, hsame.attemptId, hid]
      rw [hattempt]
      exact ⟨hreached.mono hpast, himaged.mono h hpast, rfl⟩
    | restore _ _ hrestore => exact absurd hkind hrestore

/-- Likewise at the commit itself. -/
theorem persisted_of_captureCommit {attemptId : AttemptId} {c' : CheckpointObject}
    (h : Run (e :: t)) (hcalls : Calls e t tid (.captureCommit id attemptId) ())
    (hc : (after e).checkpoint id = some c') :
    Persisted (e :: t) c'.captureAttempt ∧ Imaged (e :: t) c'.captureAttempt ∧
      c'.captureAttempt = attemptId := by
  obtain ⟨input, rfl, -⟩ := hcalls
  exact persisted_of_commit h (List.suffix_refl _) hc

/-- An update of the lifecycle leaves a row in the early states, or had seen it in a later one. -/
theorem preliminary_or_persisted {lifecycle : LifecycleState} {integrity : IntegrityState}
    (h : Run (e :: t)) (hpast : ∀ t', t' <:+ t → EarlyOrPersisted t')
    (hcalls : Calls e t tid (.checkpointSetLifecycle id lifecycle integrity) ())
    (hc : (stateOf t).checkpoint id = some c) :
    lifecycle.Preliminary ∨ Persisted (e :: t) c.captureAttempt := by
  obtain ⟨request, hrequest, hwriter⟩ := hcalls.writer h not_false
  cases hwriter with
  | @capture workloadId options run hasks hdoes hwrites =>
    obtain ⟨rfl, rfl, hstates⟩ := hwrites
    obtain ⟨tid', run', himage⟩ := described_of_run h.tail hc
    have hcaptures := Captures.of_does hrequest hasks hdoes
    obtain ⟨-, hsame⟩ := himage.eq_of_checkpoint h.tail hcaptures (World.checkpointId_of_row hc)
    rcases hstates with rfl | rfl | rfl | rfl | rfl | rfl
    -- A capture that gives up is in its last phase.
    case inr.inr.inr.inr.inr =>
      refine .inr ⟨tid, ⟨.db (.checkpointSetLifecycle run.checkpointId .failed .pending), .ok ()⟩,
        deeds tid t, hcalls.deeds_eq ▸ List.suffix_refl _, ?_, 4, rfl, by decide⟩
      rw [himage.2.captureAttempt, hsame.attemptId]
      exact hcaptures.drawn_nonce
    all_goals exact .inl trivial
  | restore hdoes hwrites =>
    obtain ⟨rfl, -⟩ := hwrites
    exact .inr ((persisted_of_admitted h.tail hpast hdoes.admitted hc).mono (List.suffix_cons e t))
  | recovery hwrites =>
    refine .inr (Reached.mono ?_ (List.suffix_cons e t))
    obtain ⟨-, -, hseen, -⟩ | ⟨-, -, -, a, -, -, -, err, htried⟩ := hwrites
    · obtain ⟨c', hread, hstates⟩ := hseen.exists_mem
      refine persisted_of_read h.tail hpast hc hread ?_
      rcases hstates with hstate | hstate
      all_goals
        rw [hstate]
        exact not_false
    · obtain ⟨later, ds, hsplit⟩ := List.append_of_mem htried
      obtain ⟨input, t', hsuffix, -⟩ := exists_event_of_deed h.tail ⟨later, hsplit.symm⟩
      exact (persisted_of_commit h.tail hsuffix hc).1
  | plain hwrites => exact absurd hwrites not_false

/-- A row that is written whole is early. -/
theorem early_of_writer {request : Request} {op : StoreOp} {ds : List FabricDeed}
    (hop : op = .checkpointInsert c ∨ op = .checkpointUpdate c)
    (h : Writer settings request ds op) : c.Early := by
  rcases hop with rfl | rfl
  · cases h with
    | capture _ _ hwrites =>
      obtain ⟨-, hstate, hunused⟩ := hwrites
      exact ⟨hunused, hstate ▸ trivial⟩
    | restore _ hwrites | recovery hwrites | plain hwrites => exact absurd hwrites not_false
  · cases h with
    | capture _ _ hwrites => exact ⟨hwrites.staged.unused, hwrites.lifecycle ▸ trivial⟩
    | restore _ hwrites | recovery hwrites | plain hwrites => exact absurd hwrites not_false

theorem EarlyOrPersisted.step (h : Run (e :: t)) (hpast : ∀ t', t' <:+ t → EarlyOrPersisted t') :
    EarlyOrPersisted (e :: t) := by
  intro id c' hc'
  have hnow := hpast t (List.suffix_refl t) id
  -- A row whose image is kept stays early or persisted when its state stays preliminary.
  have hkeep : ∀ {c}, (stateOf t).checkpoint id = some c → SameImage c c' →
      (c.Early → c'.Early) → c'.Early ∨ Persisted (e :: t) c'.captureAttempt := by
    intro c hc hsame hearly
    rw [hsame.captureAttempt]
    exact (hnow c hc).imp hearly fun hreached => hreached.mono (List.suffix_cons e t)
  rw [stateOf_cons] at hc'
  rcases checkpoint_cases h id with ⟨tid, op, reply, hop, hcalls, hstep⟩ | hsame
  · rw [hc'] at hstep
    generalize hrow : (stateOf t).checkpoint id = row at hstep
    cases hstep with
    | kept => exact hkeep hrow (.refl _) fun hearly => hearly
    -- Only a capture writes images, and it writes the preliminary one before PERSISTED.
    | inserted hid =>
      obtain ⟨request, -, hwriter⟩ := hcalls.writer h hop
      exact .inl (early_of_writer (.inl rfl) hwriter)
    | updated hid =>
      obtain ⟨request, -, hwriter⟩ := hcalls.writer h hop
      obtain ⟨hunused, hpreliminary⟩ := early_of_writer (.inr rfl) hwriter
      exact .inl ⟨⟨hunused.1, hunused.2, hunused.3⟩, hpreliminary⟩
    | lifecycleSet =>
      rcases hnow _ hrow with hearly | hreached
      · exact (preliminary_or_persisted h hpast hcalls hrow).imp_left fun hpreliminary =>
          ⟨⟨hearly.1.1, hearly.1.2, hearly.1.3⟩, hpreliminary⟩
      · exact .inr (hreached.mono (List.suffix_cons e t))
    | captured hstates hlinks => exact .inr (persisted_of_captureCommit h hcalls hc').1
    | relinked hne hstates hlinks =>
      rcases hstates with rfl | hstates
      · exact hkeep hrow (.refl _) fun hearly => hearly
      · obtain ⟨supersedes, supersededBy, rfl⟩ := hlinks
        refine hkeep hrow ⟨rfl, rfl, rfl, rfl, rfl⟩ fun hearly => ?_
        have hpreliminary := hearly.preliminary
        rcases hstates with hstate | hstate <;> rw [hstate] at hpreliminary
        all_goals exact absurd hpreliminary not_false
    | restored hstate =>
      refine hkeep hrow ⟨rfl, rfl, rfl, rfl, rfl⟩ fun hearly => ?_
      have hpreliminary := hearly.preliminary
      rw [hstate] at hpreliminary
      exact absurd hpreliminary not_false
    | retired hpinned hstate =>
      refine hkeep hrow ⟨rfl, rfl, rfl, rfl, rfl⟩ fun hearly => ?_
      have hpreliminary := hearly.preliminary
      rw [hstate] at hpreliminary
      exact absurd hpreliminary not_false
    | _ =>
      refine hkeep hrow ⟨rfl, rfl, rfl, rfl, rfl⟩ fun hearly => ?_
      exact ⟨⟨hearly.1.1, hearly.1.2, hearly.1.3⟩, hearly.2⟩
  · exact hkeep (hsame.symm.trans hc') (.refl _) fun hearly => hearly

/-- Every row is early, or its capture has persisted it. -/
theorem earlyOrPersisted_of_run (h : Run t) : EarlyOrPersisted t := by
  suffices hall : ∀ t', t' <:+ t → EarlyOrPersisted t' from hall t (List.suffix_refl t)
  induction t with
  | nil =>
    intro t' hsuffix id c hc
    rw [List.suffix_nil.mp hsuffix] at hc
    exact nomatch hc
  | cons e t ih =>
    intro t' hsuffix
    rcases List.suffix_cons_iff.mp hsuffix with rfl | hsuffix
    · exact EarlyOrPersisted.step h (ih h.tail)
    · exact ih h.tail t' hsuffix

section Late

/-- The capture of a checkpoint that was persisted writes in its late phases only. -/
theorem two_le_of_persisted {workloadId : Id} {options : CaptureOptions} {op : Op} {n : ℕ}
    {request : Request} {run : CaptureRun} (h : Run t) (hrequest : requestOf tid t = some request)
    (hasks : request.Captures options)
    (hdoes : CaptureDoes settings workloadId options (deeds tid t) op run)
    (hphase : capturePhase op = some n) (hc : (stateOf t).checkpoint run.checkpointId = some c)
    (hpersisted : Persisted t c.captureAttempt) : 2 ≤ n := by
  have hcaptures := Captures.of_does hrequest hasks hdoes
  obtain ⟨tid', run', himage⟩ := described_of_run h hc
  obtain ⟨-, hsame⟩ := himage.eq_of_checkpoint h hcaptures (World.checkpointId_of_row hc)
  rw [himage.2.captureAttempt, hsame.attemptId] at hpersisted
  exact capture_inTurn h hdoes hcaptures hphase hpersisted

/-- A row that was persisted is written by nobody whole, and its lifecycle is no early state. -/
theorem late_of_writer {request : Request} {op : StoreOp} (h : Run t)
    (hrequest : requestOf tid t = some request) (hwriter : Writer settings request (deeds tid t) op)
    (hc : (stateOf t).checkpoint id = some c) (hpersisted : Persisted t c.captureAttempt) :
    (∀ c', c'.checkpointId = id → op ≠ .checkpointUpdate c') ∧
      ∀ lifecycle integrity, op = .checkpointSetLifecycle id lifecycle integrity →
        ¬ lifecycle.Preliminary := by
  cases hwriter with
  | @capture workloadId options run hasks hdoes hwrites =>
    refine ⟨?_, ?_⟩
    · rintro c' hid rfl
      rw [← hid, hwrites.staged.describes.checkpointId] at hc
      exact absurd (two_le_of_persisted h hrequest hasks hdoes rfl hc hpersisted) (by decide)
    · rintro lifecycle integrity rfl hpreliminary
      obtain ⟨rfl, -, rfl | rfl | rfl | rfl | rfl | rfl⟩ := hwrites
      case inr.inr.inr.inr.inr => exact hpreliminary
      all_goals
        exact absurd (two_le_of_persisted h hrequest hasks hdoes rfl hc hpersisted) (by decide)
  | restore _ hwrites =>
    refine ⟨fun c' _ hop => ?_, ?_⟩
    · subst hop
      exact hwrites
    · rintro lifecycle integrity rfl hpreliminary
      obtain ⟨-, ⟨rfl | rfl, -⟩ | ⟨rfl, -⟩⟩ := hwrites <;> exact hpreliminary
  | recovery hwrites =>
    refine ⟨fun c' _ hop => ?_, ?_⟩
    · subst hop
      exact hwrites
    · rintro lifecycle integrity rfl hpreliminary
      obtain ⟨rfl, -⟩ | ⟨rfl, -⟩ := hwrites <;> exact hpreliminary
  | plain hwrites =>
    refine ⟨fun c' _ hop => ?_, ?_⟩
    · subst hop
      exact hwrites
    · rintro lifecycle integrity rfl
      exact absurd hwrites not_false

/-- A row never goes back to the states of a capture under way. -/
theorem late_of_step (h : Run (e :: t)) (hc : (stateOf t).checkpoint id = some c)
    (hlate : ¬ c.lifecycle.Preliminary) :
    ∃ c', (after e).checkpoint id = some c' ∧ ¬ c'.lifecycle.Preliminary := by
  have hpersisted := (earlyOrPersisted_of_run h.tail id c hc).resolve_left
    fun hearly => hlate hearly.preliminary
  rcases checkpoint_cases h id with ⟨tid, op, reply, hop, hcalls, hstep⟩ | hsame
  · obtain ⟨request, hrequest, hwriter⟩ := hcalls.writer h hop
    obtain ⟨hupdate, hlifecycle⟩ := late_of_writer h.tail hrequest hwriter hc hpersisted
    rw [hc] at hstep
    generalize hrow : (after e).checkpoint id = row at hstep
    cases hstep with
    | updated hid => exact absurd rfl (hupdate _ hid)
    | lifecycleSet => exact ⟨_, rfl, hlifecycle _ _ rfl⟩
    | captured _ hlinks =>
      obtain ⟨supersedes, supersededBy, rfl⟩ := hlinks
      exact ⟨_, rfl, not_false⟩
    | relinked _ _ hlinks =>
      obtain ⟨supersedes, supersededBy, rfl⟩ := hlinks
      exact ⟨_, rfl, hlate⟩
    | restored | retired => exact ⟨_, rfl, not_false⟩
    | _ => exact ⟨_, rfl, hlate⟩
  · exact ⟨c, hsame.trans hc, hlate⟩

theorem late_of_suffix (h : Run t) (hsuffix : t' <:+ t) (hc : (stateOf t').checkpoint id = some c)
    (hlate : ¬ c.lifecycle.Preliminary) :
    ∃ c', (stateOf t).checkpoint id = some c' ∧ ¬ c'.lifecycle.Preliminary := by
  refine suffix_induction (P := fun past : List (Event (fabric settings)) =>
    ∃ c', (stateOf past).checkpoint id = some c' ∧ ¬ c'.lifecycle.Preliminary) hsuffix
    ⟨c, hc, hlate⟩ ?_
  rintro e past - hpast ⟨c₁, hc₁, hlate₁⟩
  exact late_of_step (h.of_suffix hpast) hc₁ hlate₁

/-- A row that was read in a later state is in a later state. -/
theorem late_of_read (h : Run t) (hc : (stateOf t).checkpoint id = some c)
    (hd : (⟨.db (.checkpointGet id), .ok (some c')⟩ : FabricDeed) ∈ deeds tid t)
    (hlate : ¬ c'.lifecycle.Preliminary) : ¬ c.lifecycle.Preliminary := by
  obtain ⟨t₁, hsuffix, -, row, hrow, rfl⟩ := checkpoint_of_read h hd
  obtain ⟨c₁, hc₁, hlate₁⟩ := late_of_suffix h hsuffix hrow hlate
  obtain rfl := Option.some.inj (hc₁.symm.trans hc)
  exact hlate₁

/-- The checkpoint of a restore is in a later state. -/
theorem late_of_admitted {checkpointId : Id} {targetNode : NodeId} {options : RestoreOptions}
    {start : List FabricDeed} {run : RestoreRun} (h : Run t)
    (hadmitted : RestoreAdmitted settings checkpointId targetNode options start (deeds tid t) run)
    (hc : (stateOf t).checkpoint run.ckpt.checkpointId = some c) : ¬ c.lifecycle.Preliminary := by
  have hread := hadmitted.read
  rw [← hadmitted.checkpointId_eq h] at hread
  refine late_of_read h hc hread ?_
  rcases Restore.lifecycle_of_validateRestoreRequest hadmitted.restorable with hstate | hstate
  all_goals
    rw [hstate]
    exact not_false

end Late

end CheckpointFabric
