import CheckpointFabric.Steps.Captures

/-!
# Captures and the generation they commit in

A capture reads the workload once, at admission. Its commit compares the generation of
that row with the current one: a restore in between stops the commit.

## Main definitions

* `admittedRow` — the workload row that a capture was admitted with
* `committedCapture` — a commit that makes a checkpoint AVAILABLE

## Main results

* `commitsInGeneration_of_run` — a commit finds the generation of its admission
-/

set_option autoImplicit false

namespace CheckpointFabric

open Concurrency Coordinator System

variable {settings : Settings} {t : List (Event (fabric settings))}

section Admission

/-- The row that a deed has read. -/
def rowRead : FabricDeed → Option Workload
  | ⟨.db (.workloadGet _), .ok row⟩ => row
  | _ => none

/-- The workload row that a capture was admitted with: the last one that its thread had read when
it drew the id of the checkpoint. -/
def admittedRow (id : Id) : List FabricDeed → Option Workload
  | [] => none
  | d :: ds => if drawsId id d then (lastWorkloadRead ds).bind rowRead else admittedRow id ds

/-- Where an identity is drawn once, the row is the last one read before. -/
theorem admittedRow_eq {id : Id} {ds ds₁ : List FabricDeed}
    (hd : (⟨.random, .ok id⟩ : FabricDeed) :: ds₁ <:+ ds)
    (hunique : ∀ ds', (⟨.random, .ok id⟩ : FabricDeed) :: ds' <:+ ds → ds' = ds₁) :
    admittedRow id ds = (lastWorkloadRead ds₁).bind rowRead := by
  induction ds with
  | nil => simp at hd
  | cons d ds ih =>
    by_cases hdraws : drawsId id d = true
    · rw [admittedRow, if_pos hdraws]
      rw [hunique ds (eq_of_drawsId hdraws ▸ List.suffix_refl _)]
    · rw [admittedRow, if_neg hdraws]
      rcases List.suffix_cons_iff.mp hd with heq | hd
      · exact absurd (by rw [← (List.cons.inj heq).1]; simp [drawsId]) hdraws
      · exact ih hd fun ds' hds' => hunique ds' (hds'.trans (List.suffix_cons d ds))

theorem admittedRow_of_drawn {tid : ℕ} {workloadId nonce : Id} {ds₀ : List FabricDeed}
    {run : CaptureRun} (h : Run t) (hdrawn : CaptureDrawn workloadId nonce ds₀ (deeds tid t) run) :
    admittedRow run.checkpointId (deeds tid t) = some run.workload := by
  obtain ⟨latest, -, hdraws⟩ := hdrawn.draws
  rw [admittedRow_eq hdraws fun ds' hds' => (drawn_unique h hds' hdraws).2]
  exact (congrArg (Option.bind · rowRead) hdrawn.read : _)

/-- A draw of the checkpoint's id comes before the row that admitted its capture is known. -/
theorem exists_draw_of_admittedRow {id : Id} {ds : List FabricDeed} {w : Workload}
    (h : admittedRow id ds = some w) :
    ∃ older, (⟨.random, .ok id⟩ : FabricDeed) :: older <:+ ds := by
  induction ds with
  | nil => exact nomatch h
  | cons d ds ih =>
    by_cases hdraws : drawsId id d = true
    · exact ⟨ds, eq_of_drawsId hdraws ▸ List.suffix_refl _⟩
    · rw [admittedRow, if_neg hdraws] at h
      obtain ⟨older, hsuffix⟩ := ih h
      exact ⟨older, hsuffix.trans (List.suffix_cons d ds)⟩

end Admission

section Commits

/-- The event is the commit of a restore of workload `id`. -/
def RestoresWorkload (e : Event (fabric settings)) (id : Id) : Prop :=
  ∃ tid checkpointId attemptId node token migration rollback input before c,
    e = .performed tid
      (.db (.restoreCommit checkpointId attemptId node token migration rollback)) input before ∧
    (World.handle settings.codecs
      (.db (.restoreCommit checkpointId attemptId node token migration rollback)) input
        before).1 = .ok () ∧
    before.checkpoint checkpointId = some c ∧ c.workloadId = id

/-- The commit of a capture that makes a checkpoint AVAILABLE: the checkpoint, and the world it
was made in. -/
def committedCapture : Event (fabric settings) → Option (Id × World)
  | .performed _ (.db (.captureCommit id attemptId)) input before =>
    if (World.handle settings.codecs (.db (.captureCommit id attemptId)) input
        before).1.toOption.isSome ∧
        (before.checkpoint id).map (·.lifecycle) = some .persisting then
      some (id, before)
    else none
  | _ => none

theorem committedCapture_eq_some {e : Event (fabric settings)} {id : Id} {before : World}
    (h : committedCapture e = some (id, before)) :
    ∃ tid attemptId input, e = .performed tid (.db (.captureCommit id attemptId)) input before ∧
      (World.handle settings.codecs (.db (.captureCommit id attemptId)) input
        before).1.toOption.isSome ∧
      (before.checkpoint id).map (·.lifecycle) = some .persisting := by
  unfold committedCapture at h
  split at h
  · split at h
    · rename_i hcommit
      obtain ⟨rfl, rfl⟩ := Prod.mk.inj (Option.some.inj h)
      exact ⟨_, _, _, rfl, hcommit⟩
    · exact nomatch h
  · exact nomatch h

/-- Generations never decrease. -/
theorem generation_le {w : World} {id : Id} {op : Op} {r : Workload} {row : Option Workload}
    (h : WorkloadStep w id op (some r) row) :
    ∃ r', row = some r' ∧ r.workloadGeneration ≤ r'.workloadGeneration := by
  cases h
  case recorded hrecorded =>
    obtain ⟨generation, class_, rfl⟩ := hrecorded
    exact ⟨_, rfl, Nat.le_refl _⟩
  case restored => exact ⟨_, rfl, Nat.le_succ _⟩
  all_goals exact ⟨_, rfl, Nat.le_refl _⟩

theorem generation_le_of_run {t' : List (Event (fabric settings))} (h : Run t)
    (hsuffix : t' <:+ t) {id : Id} {r : Workload} (hr : (stateOf t').workload id = some r) :
    ∃ r', (stateOf t).workload id = some r' ∧ r.workloadGeneration ≤ r'.workloadGeneration :=
  workload_rel_of_run (R := fun r r' => r.workloadGeneration ≤ r'.workloadGeneration)
    (fun _ => Nat.le_refl _) (fun _ _ _ => Nat.le_trans) (fun _ _ _ _ _ => generation_le) h
    hsuffix hr

/-- The commit of a restore advances the generation. -/
theorem generation_lt_of_restore {e : Event (fabric settings)} (h : Run (e :: t)) {id : Id}
    (hrestores : RestoresWorkload e id) {r : Workload} (hr : (stateOf t).workload id = some r) :
    ∃ r', (after e).workload id = some r' ∧ r.workloadGeneration < r'.workloadGeneration := by
  obtain ⟨tid, checkpointId, attemptId, node, token, migration, rollback, input, before, c, rfl,
    hok, hc, rfl⟩ := hrestores
  obtain rfl := h.before_eq
  have hrun := World.run_of_handle_ok hok
  obtain ⟨c', w, hcommit⟩ := Store.restoreCommit_ok (StoreOp.of_map_ok hrun)
  obtain rfl : c = c' := Option.some.inj (hc.symm.trans hcommit.found)
  obtain rfl : r = w := Option.some.inj (hr.symm.trans hcommit.owner)
  have hrow := congrArg (fun workloads => workloads.get c.workloadId) hcommit.workloads
  simp only [Table.get_modify_self, hcommit.owner, Option.map_some] at hrow
  exact ⟨_, hrow, Nat.lt_succ_self r.workloadGeneration⟩

/-- While the generation of a workload stays what it is, no restore of it commits. -/
theorem not_restores_of_generation {past t₁ : List (Event (fabric settings))}
    {e : Event (fabric settings)} {id : Id} {w₁ w : Workload} (h : Run t)
    (hw₁ : (stateOf t₁).workload id = some w₁) (hw : (stateOf t).workload id = some w)
    (hgeneration : w₁.workloadGeneration = w.workloadGeneration) (hpast : e :: past <:+ t)
    (hafter : t₁ <:+ past) : ¬ RestoresWorkload e id := by
  intro hrestores
  -- A restore in between would leave a larger generation for good.
  obtain ⟨r₁, hr₁, hle₁⟩ := generation_le_of_run (h.of_suffix hpast).tail hafter hw₁
  obtain ⟨r₂, hr₂, hlt⟩ := generation_lt_of_restore (h.of_suffix hpast) hrestores hr₁
  obtain ⟨r₃, hr₃, hle₃⟩ := generation_le_of_run h hpast hr₂
  obtain rfl : r₃ = w := Option.some.inj (hr₃.symm.trans hw)
  omega

/-- If the event makes a checkpoint AVAILABLE, the workload is still in the generation of the row
that admitted the capture: that row was there at some point of the run, and since then no restore
of the workload has committed. -/
def CommitsInGeneration (e : Event (fabric settings)) (past : List (Event (fabric settings))) :
    Prop :=
  ∀ commit ∈ committedCapture e, ∃ c w tid w₀ read,
    commit.2.checkpoint commit.1 = some c ∧ commit.2.workload c.workloadId = some w ∧
    admittedRow commit.1 (deeds tid past) = some w₀ ∧
    w₀.workloadGeneration = w.workloadGeneration ∧
    read <:+ past ∧
    (⟨.db (.workloadGet c.workloadId), .ok (some w₀)⟩ : FabricDeed) ∈ deeds tid read ∧
    (stateOf read).workload c.workloadId = some w₀ ∧
    ∀ e' between, e' :: between <:+ past → read <:+ between →
      ¬ RestoresWorkload e' c.workloadId

/-- The capture whose commit makes a checkpoint AVAILABLE, and the generation it commits in. -/
theorem exists_capture_of_commit {e : Event (fabric settings)} {id : Id} {before : World}
    (h : Run (e :: t)) (he : committedCapture e = some (id, before)) :
    ∃ c w tid nonce ds₀, ∃ run : CaptureRun, before = stateOf t ∧ run.checkpointId = id ∧
      (stateOf t).checkpoint id = some c ∧ (stateOf t).workload c.workloadId = some w ∧
      CaptureDrawn c.workloadId nonce ds₀ (deeds tid t) run ∧
      run.workload.workloadGeneration = w.workloadGeneration := by
  obtain ⟨tid', attemptId, input, rfl, hok, hlifecycle⟩ := committedCapture_eq_some he
  obtain rfl := h.before_eq
  obtain ⟨_, hrun⟩ := World.run_of_isSome hok
  obtain ⟨c, w, hcommit⟩ := Store.captureCommit_ok (StoreOp.of_map_ok hrun)
  have hc : (stateOf t).checkpoint id = some c := hcommit.found
  have hpersisting : c.lifecycle = .persisting := by simpa [hc] using hlifecycle
  obtain ⟨tid, run, hcaptures, hdescribes⟩ := described_of_run h.tail hc
  obtain ⟨workloadId, nonce, ds₀, hdrawn⟩ := hcaptures.drawn
  have hread := hdrawn.nonce_suffix.subset (List.mem_cons_of_mem _ hdrawn.read_mem)
  obtain ⟨t₁, -, -, hw₁⟩ := workload_of_read h.tail hread
  obtain rfl : c.workloadId = workloadId :=
    hdescribes.workloadId.trans (World.workloadId_of_row hw₁)
  exact ⟨c, w, tid, nonce, ds₀, run, rfl,
    hdescribes.checkpointId.symm.trans (World.checkpointId_of_row hc), hc, hcommit.owner, hdrawn,
    hdescribes.workloadGeneration.symm.trans (hcommit.generation hpersisting).symm⟩

theorem commitsInGeneration_of_run {e : Event (fabric settings)} (h : Run (e :: t)) :
    CommitsInGeneration e t := by
  rintro ⟨id, before⟩ he
  obtain ⟨c, w, tid, nonce, ds₀, run, rfl, rfl, hc, hw, hdrawn, hgeneration⟩ :=
    exists_capture_of_commit h he
  have hread := hdrawn.nonce_suffix.subset (List.mem_cons_of_mem _ hdrawn.read_mem)
  obtain ⟨t₁, hsuffix₁, hmem₁, hw₁⟩ := workload_of_read h.tail hread
  refine ⟨c, w, tid, run.workload, t₁, hc, hw, admittedRow_of_drawn h.tail hdrawn, hgeneration,
    hsuffix₁, hmem₁, hw₁, fun e' past hpast hbetween => ?_⟩
  exact not_restores_of_generation h.tail hw₁ hw hgeneration hpast hbetween

end Commits

end CheckpointFabric
