import CheckpointFabric.Properties.Captures
import CheckpointFabric.Steps.Images

/-!
# How a checkpoint becomes visible

Only the metadata commit takes a checkpoint from PERSISTING to AVAILABLE. The other
writers of the lifecycle have seen the row in a later state, and no row goes back.

## Main definitions

* `MakesAvailable` — an event that takes a checkpoint from PERSISTING to AVAILABLE

## Main results

* `no_stale_capture` — a checkpoint becomes AVAILABLE in the generation it was captured in
-/

set_option autoImplicit false

namespace CheckpointFabric

open Concurrency Coordinator System

variable {settings : Settings} {t : List (Event (fabric settings))} {e : Event (fabric settings)}
  {tid : ℕ} {id : Id} {c : CheckpointObject}

section Stale

/-- The event takes the checkpoint from PERSISTING to AVAILABLE. -/
def MakesAvailable (e : Event (fabric settings)) (past : List (Event (fabric settings)))
    (id : Id) : Prop :=
  ((stateOf past).checkpoint id).map (·.lifecycle) = some .persisting ∧
    ((after e).checkpoint id).map (·.lifecycle) = some .available

instance (e : Event (fabric settings)) (past : List (Event (fabric settings))) (id : Id) :
    Decidable (MakesAvailable e past id) :=
  inferInstanceAs (Decidable (_ ∧ _))

/-- An update of the lifecycle does not make a PERSISTING checkpoint AVAILABLE. -/
theorem not_available_of_lifecycle {integrity : IntegrityState} (h : Run (e :: t))
    (hc : (stateOf t).checkpoint id = some c) (hpersisting : c.lifecycle = .persisting) :
    ¬ Calls e t tid (.checkpointSetLifecycle id .available integrity) () := by
  intro hcalls
  have hpreliminary : c.lifecycle.Preliminary := hpersisting ▸ trivial
  obtain ⟨request, -, hwriter⟩ := hcalls.writer h not_false
  cases hwriter with
  | capture _ _ hwrites => simp [CaptureRun.Writes] at hwrites
  | restore hdoes hwrites =>
    obtain ⟨rfl, -⟩ := hwrites
    exact late_of_admitted h.tail hdoes.admitted hc hpreliminary
  | recovery hwrites =>
    obtain ⟨-, -, hseen, -⟩ | ⟨hfailed, -⟩ := hwrites
    · obtain ⟨c', hread, hstates⟩ := hseen.exists_mem
      refine late_of_read h.tail hc hread ?_ hpreliminary
      rcases hstates with hstate | hstate
      all_goals
        rw [hstate]
        exact not_false
    · cases hfailed
  | plain hwrites => exact not_false hwrites

/-- Only the metadata commit makes a PERSISTING checkpoint AVAILABLE. -/
theorem captureCommit_of_makesAvailable (h : Run (e :: t)) (hmakes : MakesAvailable e t id) :
    ∃ tid attemptId, Calls e t tid (.captureCommit id attemptId) () := by
  obtain ⟨c, hc, hpersisting⟩ := Option.map_eq_some_iff.mp hmakes.1
  obtain ⟨c', hc', havailable⟩ := Option.map_eq_some_iff.mp hmakes.2
  rcases checkpoint_cases h id with ⟨tid, op, reply, hop, hcalls, hstep⟩ | hsame
  · rw [hc, hc'] at hstep
    cases hstep with
    | captured => exact ⟨tid, _, hcalls⟩
    | updated hid =>
      obtain ⟨request, -, hwriter⟩ := hcalls.writer h hop
      have hearly := (early_of_writer (.inr rfl) hwriter).preliminary
      rw [show _ = LifecycleState.available from havailable] at hearly
      exact absurd hearly not_false
    | lifecycleSet =>
      obtain rfl := havailable
      exact absurd hcalls (not_available_of_lifecycle h hc hpersisting)
    | relinked _ _ hlinks =>
      obtain ⟨supersedes, supersededBy, rfl⟩ := hlinks
      exact nomatch hpersisting.symm.trans havailable
    | restored | retired => exact nomatch havailable
    | _ => exact nomatch hpersisting.symm.trans havailable
  · rw [hsame, hc] at hc'
    obtain rfl := Option.some.inj hc'
    exact nomatch hpersisting.symm.trans havailable

/-- The states that only a committed checkpoint has. -/
def LifecycleState.Visible : LifecycleState → Prop
  | .available | .restorePending | .restoring | .restored | .retired => True
  | .created | .capturing | .captured | .validating | .sealed | .persisting | .failed => False

theorem LifecycleState.Visible.not_preliminary {l : LifecycleState} (h : l.Visible) :
    ¬ l.Preliminary := by
  cases l <;> first | exact not_false | exact absurd h not_false

/-- The checkpoint became AVAILABLE at some event of the run. -/
def WasMadeAvailable (t : List (Event (fabric settings))) (id : Id) : Prop :=
  ∃ e past, e :: past <:+ t ∧ MakesAvailable e past id

theorem WasMadeAvailable.mono {t' : List (Event (fabric settings))} (hsuffix : t' <:+ t)
    (h : WasMadeAvailable t' id) : WasMadeAvailable t id := by
  obtain ⟨e, past, hpast, hmakes⟩ := h
  exact ⟨e, past, hpast.trans hsuffix, hmakes⟩

/-- What was visible was made AVAILABLE. -/
def VisibleMade (t : List (Event (fabric settings))) : Prop :=
  ∀ id c, (stateOf t).checkpoint id = some c → c.lifecycle.Visible → WasMadeAvailable t id

/-- A checkpoint that was read when it was visible was made AVAILABLE. -/
theorem madeAvailable_of_read {c' : CheckpointObject} (h : Run t)
    (hpast : ∀ t', t' <:+ t → VisibleMade t')
    (hd : (⟨.db (.checkpointGet id), .ok (some c')⟩ : FabricDeed) ∈ deeds tid t)
    (hvisible : c'.lifecycle.Visible) : WasMadeAvailable t id := by
  obtain ⟨t₁, hsuffix, -, row, hrow, rfl⟩ := checkpoint_of_read h hd
  exact (hpast t₁ hsuffix id row hrow hvisible).mono hsuffix

/-- Whoever makes a checkpoint visible by an update of its lifecycle has seen it visible. -/
theorem madeAvailable_of_lifecycle {lifecycle : LifecycleState} {integrity : IntegrityState}
    (h : Run (e :: t)) (hpast : ∀ t', t' <:+ t → VisibleMade t')
    (hcalls : Calls e t tid (.checkpointSetLifecycle id lifecycle integrity) ())
    (hvisible : lifecycle.Visible) : WasMadeAvailable t id := by
  obtain ⟨request, -, hwriter⟩ := hcalls.writer h not_false
  cases hwriter with
  | capture _ _ hwrites =>
    obtain ⟨-, -, rfl | rfl | rfl | rfl | rfl | rfl⟩ := hwrites <;> exact absurd hvisible not_false
  | restore hdoes hwrites =>
    obtain ⟨rfl, -⟩ := hwrites
    have hread := hdoes.admitted.read
    rw [← hdoes.admitted.checkpointId_eq h.tail] at hread
    refine madeAvailable_of_read h.tail hpast hread ?_
    rcases Restore.lifecycle_of_validateRestoreRequest hdoes.admitted.restorable with hstate | hstate
    all_goals
      rw [hstate]
      trivial
  | recovery hwrites =>
    obtain ⟨-, -, hseen, -⟩ | ⟨rfl, -⟩ := hwrites
    · obtain ⟨c', hread, hstates⟩ := hseen.exists_mem
      refine madeAvailable_of_read h.tail hpast hread ?_
      rcases hstates with hstate | hstate
      all_goals
        rw [hstate]
        trivial
    · exact absurd hvisible not_false
  | plain hwrites => exact absurd hwrites not_false

theorem VisibleMade.step (h : Run (e :: t)) (hpast : ∀ t', t' <:+ t → VisibleMade t') :
    VisibleMade (e :: t) := by
  intro id c' hc' hvisible
  have hcons := List.suffix_cons e t
  have hkeep : ∀ {c}, (stateOf t).checkpoint id = some c → c.lifecycle.Visible →
      WasMadeAvailable (e :: t) id :=
    fun hc hv => (hpast t (List.suffix_refl t) id _ hc hv).mono hcons
  rw [stateOf_cons] at hc'
  rcases checkpoint_cases h id with ⟨tid, op, reply, hop, hcalls, hstep⟩ | hsame
  · rw [hc'] at hstep
    generalize hrow : (stateOf t).checkpoint id = row at hstep
    cases hstep with
    | kept => exact hkeep hrow hvisible
    | inserted hid =>
      obtain ⟨request, -, hwriter⟩ := hcalls.writer h hop
      exact absurd (early_of_writer (.inl rfl) hwriter).preliminary hvisible.not_preliminary
    | updated hid =>
      obtain ⟨request, -, hwriter⟩ := hcalls.writer h hop
      exact absurd (early_of_writer (.inr rfl) hwriter).preliminary hvisible.not_preliminary
    | lifecycleSet => exact (madeAvailable_of_lifecycle h hpast hcalls hvisible).mono hcons
    | captured hstates hlinks =>
      obtain ⟨supersedes, supersededBy, rfl⟩ := hlinks
      rcases hstates with hstate | hstate
      · refine ⟨e, t, List.suffix_refl _, ?_, ?_⟩
        · rw [hrow, Option.map_some, hstate]
        · rw [hc']
          rfl
      · exact hkeep hrow (hstate ▸ trivial)
    | relinked hne hstates hlinks =>
      obtain ⟨supersedes, supersededBy, rfl⟩ := hlinks
      exact hkeep hrow hvisible
    | restored hstate | retired _ hstate => exact hkeep hrow (hstate ▸ trivial)
    | _ => exact hkeep hrow hvisible
  · exact hkeep (hsame.symm.trans hc') hvisible

/-- What is visible was made AVAILABLE by a metadata commit. -/
theorem visibleMade_of_run (h : Run t) : VisibleMade t := by
  suffices hall : ∀ t', t' <:+ t → VisibleMade t' from hall t (List.suffix_refl t)
  induction t with
  | nil =>
    intro t' hsuffix id c hc
    rw [List.suffix_nil.mp hsuffix] at hc
    exact nomatch hc
  | cons e t ih =>
    intro t' hsuffix
    rcases List.suffix_cons_iff.mp hsuffix with rfl | hsuffix
    · exact VisibleMade.step h (ih h.tail)
    · exact ih h.tail t' hsuffix

/-- The event makes checkpoints AVAILABLE only in the generation that they recorded at admission:
the workload row that admitted the capture was there at some point of the run, and no restore of
the workload has committed since then. -/
def AvailableInGeneration (e : Event (fabric settings)) (past : List (Event (fabric settings))) :
    Prop :=
  ∀ id, MakesAvailable e past id → ∃ c w tid w₀ read,
    (stateOf past).checkpoint id = some c ∧ (stateOf past).workload c.workloadId = some w ∧
    c.workloadGeneration = w.workloadGeneration ∧
    admittedRow id (deeds tid past) = some w₀ ∧ c.workloadGeneration = w₀.workloadGeneration ∧
    read <:+ past ∧
    (⟨.db (.workloadGet c.workloadId), .ok (some w₀)⟩ : FabricDeed) ∈ deeds tid read ∧
    (stateOf read).workload c.workloadId = some w₀ ∧
    ∀ e' between, e' :: between <:+ past → read <:+ between →
      ¬ RestoresWorkload e' c.workloadId

theorem availableInGeneration_of_run (h : Run (e :: t)) : AvailableInGeneration e t := by
  intro id hmakes
  obtain ⟨tid', attemptId, hcalls⟩ := captureCommit_of_makesAvailable h hmakes
  obtain ⟨c, w, hcommit⟩ := Store.captureCommit_ok (StoreOp.of_map_ok hcalls.run)
  have hc : (stateOf t).checkpoint id = some c := hcommit.found
  have hw : (stateOf t).workload c.workloadId = some w := hcommit.owner
  have hpersisting : c.lifecycle = .persisting := by simpa [hc] using hmakes.1
  have hgeneration := hcommit.generation hpersisting
  obtain ⟨input, rfl, hreply⟩ := hcalls
  have hcommitted : committedCapture (.performed tid' (.db (.captureCommit id attemptId)) input
      (stateOf t) : Event (fabric settings)) = some (id, stateOf t) := by
    rw [committedCapture, if_pos ⟨by rw [hreply]; rfl, hmakes.1⟩]
  obtain ⟨c₁, w₁, tid, w₀, read, hc₁, hw₁, hadmitted, hsame, hread⟩ :=
    commitsInGeneration_of_run h _ hcommitted
  obtain rfl : c₁ = c := Option.some.inj (hc₁.symm.trans hc)
  obtain rfl : w₁ = w := Option.some.inj (hw₁.symm.trans hw)
  exact ⟨c₁, w₁, tid, w₀, read, hc, hw, hgeneration.symm, hadmitted,
    hgeneration.symm.trans hsame.symm, hread⟩

/-- A checkpoint records the generation of the row that admitted its capture. -/
theorem generation_of_admittedRow {w : Workload} (h : Run t)
    (hc : (stateOf t).checkpoint id = some c) (hadmitted : admittedRow id (deeds tid t) = some w) :
    c.workloadGeneration = w.workloadGeneration := by
  obtain ⟨tid', run, hcaptures, hdescribes⟩ := described_of_run h hc
  obtain rfl : run.checkpointId = id :=
    hdescribes.checkpointId.symm.trans (World.checkpointId_of_row hc)
  obtain ⟨workloadId, nonce, ds₀, hdrawn⟩ := hcaptures.drawn
  obtain ⟨latest, -, hdraws⟩ := hdrawn.draws
  obtain ⟨older, hdraw⟩ := exists_draw_of_admittedRow hadmitted
  obtain ⟨rfl, -⟩ := drawn_unique h hdraw hdraws
  rw [admittedRow_of_drawn h hdrawn] at hadmitted
  rw [hdescribes.workloadGeneration, Option.some.inj hadmitted]

/-- A commit of a restore is no metadata commit. -/
theorem not_restoresWorkload_of_calls {workloadId : Id} {attemptId : AttemptId}
    (hcalls : Calls e t tid (.captureCommit id attemptId) ()) : ¬ RestoresWorkload e workloadId := by
  rintro ⟨tid', checkpointId, attemptId', node, token, migration, rollback, input, before, c, he, -⟩
  obtain ⟨input', he', -⟩ := hcalls
  exact nomatch (Event.performed.inj (he.symm.trans he')).2.1

end Stale

/-- In every run, a checkpoint becomes AVAILABLE only in the generation it was captured in. So a
checkpoint whose capture had read its workload before a restore committed is AVAILABLE only if it
became so before that commit. -/
theorem no_stale_capture (h : Run t) :
    EveryStep AvailableInGeneration t ∧
      ∀ id c e past tid w₀, (stateOf t).checkpoint id = some c → c.lifecycle = .available →
        e :: past <:+ t → RestoresWorkload e c.workloadId →
        admittedRow id (deeds tid t) = some w₀ →
        (⟨.db (.workloadGet c.workloadId), .ok (some w₀)⟩ : FabricDeed) ∈ deeds tid past →
        WasMadeAvailable past id := by
  refine ⟨fun e past hsuffix => availableInGeneration_of_run (h.of_suffix hsuffix), ?_⟩
  intro id c e past tid w₀ hc havailable hsuffix hrestores hadmitted hread
  obtain ⟨e₁, t₁, hsuffix₁, hmakes⟩ := visibleMade_of_run h id c hc (havailable ▸ trivial)
  obtain ⟨tid₁, attemptId, hcalls⟩ :=
    captureCommit_of_makesAvailable (h.of_suffix hsuffix₁) hmakes
  rcases List.suffix_or_suffix_of_suffix hsuffix₁ hsuffix with hbefore | hafter
  · rcases List.suffix_cons_iff.mp hbefore with heq | hbefore
    · obtain ⟨rfl, rfl⟩ := List.cons.inj heq
      exact absurd hrestores (not_restoresWorkload_of_calls hcalls)
    · exact ⟨e₁, t₁, hbefore, hmakes⟩
  · rcases List.suffix_cons_iff.mp hafter with heq | hafter
    · obtain ⟨rfl, rfl⟩ := List.cons.inj heq
      exact absurd hrestores (not_restoresWorkload_of_calls hcalls)
    · -- The restore has left a larger generation for good.
      have hrun₁ := (h.of_suffix hsuffix₁).tail
      obtain ⟨c₁, w₁, -, -, -, hc₁, hw₁, hsame₁, -⟩ :=
        availableInGeneration_of_run (h.of_suffix hsuffix₁) id hmakes
      obtain ⟨c', hc', hsame⟩ :=
        sameImage_of_suffix h ((List.suffix_cons e₁ t₁).trans hsuffix₁) hc₁
      obtain rfl := Option.some.inj (hc'.symm.trans hc)
      obtain ⟨t₂, hsuffix₂, -, hw₂⟩ := workload_of_read (h.of_suffix hsuffix).tail hread
      obtain ⟨r₃, hr₃, hle₃⟩ := generation_le_of_run (h.of_suffix hsuffix).tail hsuffix₂ hw₂
      obtain ⟨r₄, hr₄, hlt⟩ := generation_lt_of_restore (h.of_suffix hsuffix) hrestores hr₃
      obtain ⟨r₅, hr₅, hle₅⟩ := generation_le_of_run hrun₁ hafter hr₄
      rw [← hsame.workloadId] at hw₁
      obtain rfl := Option.some.inj (hr₅.symm.trans hw₁)
      have := generation_of_admittedRow h hc hadmitted
      have := hsame.workloadGeneration
      omega

/-- The capture of the small fabric makes its checkpoint AVAILABLE. -/
theorem no_stale_capture_captured :
    ¬ EveryStep (fun e past => ¬ MakesAvailable e past 2) (exec Demo.captured).trace ∧
      EveryStep AvailableInGeneration (exec Demo.captured).trace :=
  ⟨by decide +kernel, (no_stale_capture (exec_run Demo.captured)).1⟩

end CheckpointFabric
