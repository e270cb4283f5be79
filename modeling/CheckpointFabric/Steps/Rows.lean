import CheckpointFabric.Steps.Captures

/-!
# The table of the checkpoints along a run

An event inserts one new checkpoint behind the others, or leaves every row in its place,
an image of the same checkpoint. So the checkpoints of a workload are numbered in the
order in which they were inserted.

## Main definitions

* `World.generations` — the checkpoints of a workload and their generations, oldest first

## Main results

* `rows_cases` — an event inserts a row, or keeps the rows
* `generations_prefix_of_suffix` — what was numbered stays so
-/

set_option autoImplicit false

namespace CheckpointFabric

open Concurrency Coordinator System

variable {settings : Settings} {t t' : List (Event (fabric settings))}
  {e : Event (fabric settings)} {tid : ℕ} {workloadId : Id} {c c' : CheckpointObject}

/-- The rows of the checkpoints, oldest first. -/
abbrev World.checkpointRows (w : World) : List CheckpointObject := w.store.checkpoints.rows

/-- An event inserts a row, or leaves every row an image of the same checkpoint. -/
theorem rows_cases (h : Run (e :: t)) :
    (∃ tid c, Calls e t tid (.checkpointInsert c) () ∧
      (stateOf t).store.generationTaken c = false ∧ (stateOf t).checkpoint c.checkpointId = none ∧
      (after e).checkpointRows = (stateOf t).checkpointRows ++ [c]) ∨
    List.Forall₂ SameImage (stateOf t).checkpointRows (after e).checkpointRows := by
  have hkept (hkeys : (after e).store.checkpoints.keys = (stateOf t).store.checkpoints.keys) :
      List.Forall₂ SameImage (stateOf t).checkpointRows (after e).checkpointRows :=
    Table.forall₂_rows_of_get hkeys fun id c hc => sameImage_of_suffix h (List.suffix_cons e t) hc
  rcases calls_or_leavesTables h with ⟨tid, op, reply, -, hcalls⟩ | ⟨⟨workloads, hsame⟩, -⟩
  · rcases StoreOp.keys_of_run hcalls.run with ⟨c, hnew, rfl, htaken, hrows⟩ | hkeys
    · refine .inl ⟨tid, c, hcalls, htaken, hnew, ?_⟩
      rw [World.checkpointRows, hrows, Table.rows_insert]
    · exact .inr (hkept hkeys)
  · exact .inr (hkept (by rw [hsame]))

section Generations

/-- The checkpoints of a workload and their generations, oldest first. -/
def World.generations (w : World) (workloadId : Id) : List (Id × ℕ) :=
  (w.checkpointRows.filter fun c => c.workloadId = workloadId).map
    fun c => (c.checkpointId, c.checkpointGeneration)

theorem World.mem_generations {w : World} {id : Id} {generation : ℕ} :
    (id, generation) ∈ w.generations workloadId ↔ ∃ c, w.checkpoint id = some c ∧
      c.workloadId = workloadId ∧ c.checkpointGeneration = generation := by
  simp only [generations, List.mem_map, List.mem_filter, decide_eq_true_eq, Prod.mk.injEq]
  constructor
  · rintro ⟨c, ⟨hmem, howner⟩, rfl, rfl⟩
    exact ⟨c, Table.get_of_mem hmem, howner, rfl⟩
  · rintro ⟨c, hc, howner, rfl⟩
    exact ⟨c, ⟨Table.mem_of_get hc, howner⟩, World.checkpointId_of_row hc, rfl⟩

/-- Images of the same checkpoints are numbered alike. -/
theorem generations_eq_of_sameImage {w w' : World}
    (h : List.Forall₂ SameImage w.checkpointRows w'.checkpointRows) (workloadId : Id) :
    w'.generations workloadId = w.generations workloadId := by
  unfold World.generations
  generalize w.checkpointRows = rows at h ⊢
  generalize w'.checkpointRows = rows' at h ⊢
  induction h with
  | nil => rfl
  | cons hsame _ ih =>
    simp only [List.filter_cons, hsame.workloadId]
    split
    · rw [List.map_cons, List.map_cons, ih, hsame.checkpointId, hsame.checkpointGeneration]
    · exact ih

/-- An event numbers one new checkpoint, behind the others, or none. -/
theorem generations_cases (h : Run (e :: t)) (workloadId : Id) :
    (∃ tid c, Calls e t tid (.checkpointInsert c) () ∧ c.workloadId = workloadId ∧
      (stateOf t).store.generationTaken c = false ∧ (stateOf t).checkpoint c.checkpointId = none ∧
      (after e).generations workloadId =
        (stateOf t).generations workloadId ++ [(c.checkpointId, c.checkpointGeneration)]) ∨
    (after e).generations workloadId = (stateOf t).generations workloadId := by
  rcases rows_cases h with ⟨tid, c, hcalls, htaken, hnew, hrows⟩ | hsame
  · by_cases howner : c.workloadId = workloadId
    · refine .inl ⟨tid, c, hcalls, howner, htaken, hnew, ?_⟩
      simp [World.generations, hrows, howner]
    · refine .inr ?_
      simp [World.generations, hrows, howner]
  · exact .inr (generations_eq_of_sameImage hsame workloadId)

/-- What was numbered stays so. -/
theorem generations_prefix_of_suffix (h : Run t) (hsuffix : t' <:+ t) (workloadId : Id) :
    (stateOf t').generations workloadId <+: (stateOf t).generations workloadId := by
  refine suffix_induction (P := fun past : List (Event (fabric settings)) =>
    (stateOf t').generations workloadId <+: (stateOf past).generations workloadId) hsuffix
    (List.prefix_refl _) ?_
  intro e past _ hpast hstart
  rw [stateOf_cons]
  rcases generations_cases (h.of_suffix hpast) workloadId with ⟨tid, c, -, -, -, -, hnew⟩ | hsame
  · exact hnew ▸ hstart.trans (List.prefix_append _ _)
  · exact hsame ▸ hstart

end Generations

end CheckpointFabric
