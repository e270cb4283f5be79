import CheckpointFabric.Steps.Images
import CheckpointFabric.Steps.Rows
import Mathlib.Order.Nat

/-!
# Checkpoint generations

A capture reads the latest generation of its workload and later inserts its checkpoint
with the next one. Whatever was inserted in between has taken that number, and the insert
is refused; so the checkpoints of a workload are numbered from 1 on, without a gap.

## Main results

* `generations_allocated` — the generations of a workload are `1, …, n`, and stay
-/

set_option autoImplicit false

namespace CheckpointFabric

open Concurrency Coordinator System

variable {settings : Settings} {t : List (Event (fabric settings))} {e : Event (fabric settings)}
  {tid : ℕ} {workloadId : Id} {c : CheckpointObject}

theorem foldr_max_range' (n : ℕ) : (List.range' 1 n).foldr max 0 = n := by
  refine Nat.le_antisymm ?_ ?_
  · refine List.max_le_of_forall_le _ n fun x hx => ?_
    rw [List.mem_range'_1] at hx
    omega
  · cases n with
    | zero => exact Nat.zero_le _
    | succ n =>
      refine List.le_max_of_le' 0 (x := n + 1) ?_ (Nat.le_refl _)
      rw [List.mem_range'_1]
      omega

/-- The generations of the workload's checkpoints are `1, …, n`, oldest first. -/
def Numbered (t : List (Event (fabric settings))) (workloadId : Id) : Prop :=
  ((stateOf t).generations workloadId).map Prod.snd =
    List.range' 1 ((stateOf t).generations workloadId).length

/-- The latest generation is the number of the checkpoints. -/
theorem Numbered.checkpointMaxGeneration (h : Numbered t workloadId) :
    (stateOf t).store.checkpointMaxGeneration workloadId =
      ((stateOf t).generations workloadId).length := by
  have hmap : ((stateOf t).store.checkpoints.rows.filter fun c => c.workloadId == workloadId).map
      (·.checkpointGeneration) = ((stateOf t).generations workloadId).map Prod.snd := by
    rw [World.generations, List.map_map]
    rfl
  rw [Store.checkpointMaxGeneration, hmap, h, foldr_max_range']

/-- A generation that is in use is refused. -/
theorem not_mem_of_generationTaken {w : World} (h : w.store.generationTaken c = false)
    (hnew : w.checkpoint c.checkpointId = none) (howner : c.workloadId = workloadId) :
    c.checkpointGeneration ∉ (w.generations workloadId).map Prod.snd := by
  intro hmem
  obtain ⟨⟨id, generation⟩, hmem, hgeneration⟩ := List.mem_map.mp hmem
  obtain ⟨c', hc', howner', hgeneration'⟩ := World.mem_generations.mp hmem
  rw [Store.generationTaken, List.any_eq_false] at h
  refine h c' (Table.mem_of_get hc') ?_
  have hid : c'.checkpointId ≠ c.checkpointId := by
    intro hid
    rw [← hid, World.checkpointId_of_row hc', hc'] at hnew
    exact nomatch hnew
  simp [hid, howner, howner', hgeneration', ← hgeneration]

/-- The checkpoint that is inserted has the generation after the latest one that its capture read. -/
theorem generation_of_insert (h : Run (e :: t)) (hcalls : Calls e t tid (.checkpointInsert c) ()) :
    ∃ t', t' <:+ t ∧ c.checkpointGeneration =
      (stateOf t').store.checkpointMaxGeneration c.workloadId + 1 := by
  obtain ⟨request, -, hwriter⟩ := hcalls.writer h not_false
  cases hwriter with
  | capture hasks hdoes hwrites =>
    obtain ⟨hdescribes, -⟩ := hwrites
    obtain ⟨nonce, ds₀, hdrawn⟩ := hdoes.admitted.drawn
    obtain ⟨latest, hgeneration, hdraws⟩ := hdrawn.draws
    have hsuffix := (List.suffix_append [_, _, _] ds₀).trans hdraws
    obtain ⟨t₀, -, -, hrow⟩ := workload_of_read h.tail (hsuffix.subset hdrawn.read_mem)
    have howner := Table.key_of_get hrow
    have hreads : (StoreOp.checkpointMaxGeneration c.workloadId).Reads := trivial
    rw [← howner, ← hdescribes.workloadId] at hdraws
    obtain ⟨t', hsuffix', -, now, hread⟩ :=
      exists_store_of_read h.tail hreads (hdraws.subset (.tail _ (.head _)))
    refine ⟨t', hsuffix', ?_⟩
    rw [hdescribes.checkpointGeneration, hgeneration, ← (Prod.mk.inj (Except.ok.inj hread)).1]
  | restore _ hwrites | recovery hwrites | plain hwrites => exact absurd hwrites not_false

theorem Numbered.step (h : Run (e :: t)) (hpast : ∀ t', t' <:+ t → Numbered t' workloadId) :
    Numbered (e :: t) workloadId := by
  have hnow := hpast t (List.suffix_refl t)
  rw [Numbered, stateOf_cons]
  rcases generations_cases h workloadId with ⟨tid, c, hcalls, howner, htaken, hnew, hrows⟩ | hsame
  · obtain ⟨t', hsuffix, hgeneration⟩ := generation_of_insert h hcalls
    rw [howner, (hpast t' hsuffix).checkpointMaxGeneration] at hgeneration
    have hle := (generations_prefix_of_suffix h.tail hsuffix workloadId).length_le
    -- A number that is not the next one has been taken since it was read.
    have hfree := not_mem_of_generationTaken htaken hnew howner
    rw [hnow, List.mem_range'_1] at hfree
    have hnext : c.checkpointGeneration = 1 + ((stateOf t).generations workloadId).length := by
      omega
    rw [hrows, List.map_append, hnow, List.length_append, List.map_singleton, hnext]
    exact List.range'_1_concat.symm
  · rw [hsame]
    exact hnow

theorem numbered_of_run (h : Run t) (workloadId : Id) : Numbered t workloadId := by
  suffices hall : ∀ t', t' <:+ t → Numbered t' workloadId from hall t (List.suffix_refl t)
  induction t with
  | nil =>
    intro t' hsuffix
    rw [List.suffix_nil.mp hsuffix]
    rfl
  | cons e t ih =>
    intro t' hsuffix
    rcases List.suffix_cons_iff.mp hsuffix with rfl | hsuffix
    · exact Numbered.step h (ih h.tail)
    · exact ih h.tail t' hsuffix

/-- In every state of every run the checkpoints of a workload have the generations `1, …, n` in the
order of their insertion, and a checkpoint keeps its generation for good. -/
theorem generations_allocated (h : Run t) (workloadId : Id) :
    ((stateOf t).generations workloadId).map Prod.snd =
        List.range' 1 ((stateOf t).generations workloadId).length ∧
      ∀ t', t' <:+ t →
        (stateOf t').generations workloadId <+: (stateOf t).generations workloadId :=
  ⟨numbered_of_run h workloadId, fun _ hsuffix => generations_prefix_of_suffix h hsuffix workloadId⟩

/-- The small fabric is captured again. That fails at the node, which does not know the manifest;
the next capture does not take the number again. -/
def Demo.capturedAfterFailure : List (System.Action (fabric Demo.settings)) :=
  captured ++ alone 3 (.capture 7 {} operator) ++ alone 4 (.capture 7 {} operator)

theorem generations_allocated_after_failure :
    ((stateOf (exec Demo.capturedAfterFailure).trace).checkpoint 4).map (·.lifecycle) =
        some .failed ∧
      ((stateOf (exec Demo.capturedAfterFailure).trace).generations 7).map Prod.snd =
        List.range' 1 3 := by
  have hlength : ((stateOf (exec Demo.capturedAfterFailure).trace).generations 7).length = 3 := by
    decide +kernel
  exact ⟨by decide +kernel, hlength ▸ (generations_allocated (exec_run _) 7).1⟩

end CheckpointFabric
