import CheckpointFabric.Steps.Images
import CheckpointFabric.Steps.Rows
import Mathlib.Order.Nat

/-!
# The committed checkpoints of a workload along a run

A checkpoint is committed once the journal says so of the attempt of its capture. Only a
metadata commit adds to the committed checkpoints, and none ever leaves them.

## Main definitions

* `World.committedGenerations` — the generations of the committed checkpoints of a workload
* `World.highestCommitted` — the greatest of them

## Main results

* `mem_committedGenerations_cons_iff` — a generation is committed by its metadata commit
* `highestCommitted_cases` — what an event does to the highest committed generation
-/

set_option autoImplicit false

namespace CheckpointFabric

open Concurrency Coordinator System

variable {settings : Settings} {t t' : List (Event (fabric settings))}
  {e : Event (fabric settings)} {tid : ℕ} {id id' workloadId : Id} {key : AttemptId}
  {c c' : CheckpointObject}

section Attempts

/-- Every capture takes one checkpoint. -/
theorem id_eq_of_captureAttempt (h : Run t) (hc : (stateOf t).checkpoint id = some c)
    (hc' : (stateOf t).checkpoint id' = some c') (hattempt : c.captureAttempt = c'.captureAttempt) :
    id = id' := by
  obtain ⟨tid, run, hcaptures, hdescribes⟩ := described_of_run h hc
  obtain ⟨tid', run', hcaptures', hdescribes'⟩ := described_of_run h hc'
  obtain ⟨-, hsame⟩ := hcaptures.unique h hcaptures'
    (by rw [← hdescribes.captureAttempt, ← hdescribes'.captureAttempt, hattempt])
  calc id = c.checkpointId := (World.checkpointId_of_row hc).symm
    _ = run.checkpointId := hdescribes.checkpointId
    _ = run'.checkpointId := hsame.checkpointId
    _ = c'.checkpointId := hdescribes'.checkpointId.symm
    _ = id' := World.checkpointId_of_row hc'

/-- A metadata commit uses the attempt of the capture. -/
theorem captureAttempt_of_calls (h : Run (e :: t))
    (hcalls : Calls e t tid (.captureCommit id key) ()) (hc : (stateOf t).checkpoint id = some c) :
    c.captureAttempt = key := by
  obtain ⟨c', hc', hsame⟩ := sameImage_of_suffix h (List.suffix_cons e t) hc
  exact hsame.captureAttempt.symm.trans (persisted_of_captureCommit h hcalls hc').2.2

/-- A commit that is journaled found the row of its checkpoint. -/
theorem exists_row_of_dbCommitted (h : Run t) (hj : Journaled t .capture key .dbCommitted) :
    ∃ id c, (stateOf t).checkpoint id = some c ∧ c.captureAttempt = key := by
  obtain ⟨e, t', tid, id, hsuffix, hcalls⟩ := exists_captureCommit_of_journaled h hj
  obtain ⟨c, owner, hcommit⟩ := Store.captureCommit_ok (StoreOp.of_map_ok hcalls.run)
  obtain ⟨c', hc', hsame⟩ :=
    sameImage_of_suffix h ((List.suffix_cons e t').trans hsuffix) hcommit.found
  exact ⟨id, c', hc', hsame.captureAttempt.trans
    (captureAttempt_of_calls (h.of_suffix hsuffix) hcalls hcommit.found)⟩

/-- A metadata commit is journaled by itself only. -/
theorem journaled_dbCommitted_iff (h : Run (e :: t)) :
    Journaled (e :: t) .capture key .dbCommitted ↔
      Journaled t .capture key .dbCommitted ∨ ∃ tid id, Calls e t tid (.captureCommit id key) () := by
  constructor
  · intro hj
    rcases journaled_cases h hj with hold | ⟨tid, op, reply, hop, hcalls, hmarks⟩
    · exact .inl hold
    · obtain ⟨id, hcommit⟩ := captureCommit_of_marks h hop hcalls hmarks
      exact .inr ⟨tid, id, hcommit⟩
  · rintro (hj | ⟨tid, id, hcalls⟩)
    · exact journaled_cons h hj
    · exact (StoreOp.journaled_of_run hcalls.run).mpr (.inr ⟨rfl, rfl, rfl⟩)

end Attempts

section Generations

/-- The generations of the workload's checkpoints whose commit is journaled. -/
def World.committedGenerations (w : World) (workloadId : Id) : List ℕ :=
  (w.checkpointRows.filter fun c => c.workloadId = workloadId ∧
    w.store.journalHas .capture c.captureAttempt .dbCommitted).map (·.checkpointGeneration)

/-- The highest of them, 0 when there are none. -/
def World.highestCommitted (w : World) (workloadId : Id) : ℕ :=
  (w.committedGenerations workloadId).foldr max 0

theorem World.mem_committedGenerations {w : World} {generation : ℕ} :
    generation ∈ w.committedGenerations workloadId ↔ ∃ id c, w.checkpoint id = some c ∧
      c.workloadId = workloadId ∧ c.checkpointGeneration = generation ∧
      w.store.Journaled .capture c.captureAttempt .dbCommitted := by
  simp only [committedGenerations, List.mem_map, List.mem_filter, decide_eq_true_eq,
    Store.journalHas_eq_true_iff]
  constructor
  · rintro ⟨c, ⟨hmem, howner, hj⟩, rfl⟩
    exact ⟨c.checkpointId, c, Table.get_of_mem hmem, howner, rfl, hj⟩
  · rintro ⟨id, c, hc, howner, rfl, hj⟩
    exact ⟨c, ⟨Table.mem_of_get hc, howner, hj⟩, rfl⟩

theorem World.highestCommitted_le_iff {w : World} {n : ℕ} :
    w.highestCommitted workloadId ≤ n ↔ ∀ g ∈ w.committedGenerations workloadId, g ≤ n :=
  ⟨fun h g hg => (List.le_max_of_le' 0 hg (Nat.le_refl g)).trans h,
    fun h => List.max_le_of_forall_le _ n h⟩

/-- The event commits the metadata of a checkpoint of the workload, with this generation. -/
def Commits (e : Event (fabric settings)) (past : List (Event (fabric settings)))
    (workloadId : Id) (generation : ℕ) : Prop :=
  ∃ tid id key c, Calls e past tid (.captureCommit id key) () ∧
    (stateOf past).checkpoint id = some c ∧ c.workloadId = workloadId ∧
    c.checkpointGeneration = generation

theorem Commits.unique {g g' : ℕ} (h : Commits e t workloadId g) (h' : Commits e t workloadId g') :
    g = g' := by
  obtain ⟨tid, id, key, c, hcalls, hc, -, rfl⟩ := h
  obtain ⟨tid', id', key', c', hcalls', hc', -, rfl⟩ := h'
  obtain ⟨rfl, -⟩ := StoreOp.captureCommit.inj (hcalls.op_eq hcalls')
  obtain rfl := Option.some.inj (hc.symm.trans hc')
  rfl

/-- A generation is committed by the metadata commit of its checkpoint only, and stays so. -/
theorem mem_committedGenerations_cons_iff (h : Run (e :: t)) {generation : ℕ} :
    generation ∈ (after e).committedGenerations workloadId ↔
      generation ∈ (stateOf t).committedGenerations workloadId ∨ Commits e t workloadId generation := by
  rw [World.mem_committedGenerations, World.mem_committedGenerations]
  constructor
  · rintro ⟨id, c', hc', howner, hgeneration, hj⟩
    rcases (journaled_dbCommitted_iff h).mp hj with hold | ⟨tid, id', hcalls⟩
    · -- The row of a commit that is journaled already is there already.
      refine .inl ?_
      obtain ⟨id', c, hc, hattempt⟩ := exists_row_of_dbCommitted h.tail hold
      obtain ⟨c'', hc'', hsame⟩ := sameImage_of_suffix h (List.suffix_cons e t) hc
      obtain rfl := id_eq_of_captureAttempt h hc'' hc' (hsame.captureAttempt.trans hattempt)
      obtain rfl := Option.some.inj (hc''.symm.trans hc')
      exact ⟨id', c, hc, hsame.workloadId.symm.trans howner,
        hsame.checkpointGeneration.symm.trans hgeneration, hattempt ▸ hold⟩
    · refine .inr ?_
      obtain ⟨c, owner, hcommit⟩ := Store.captureCommit_ok (StoreOp.of_map_ok hcalls.run)
      obtain ⟨c'', hc'', hsame⟩ := sameImage_of_suffix h (List.suffix_cons e t) hcommit.found
      obtain rfl := id_eq_of_captureAttempt h hc'' hc'
        (hsame.captureAttempt.trans (captureAttempt_of_calls h hcalls hcommit.found))
      obtain rfl := Option.some.inj (hc''.symm.trans hc')
      exact ⟨tid, id', _, c, hcalls, hcommit.found, hsame.workloadId.symm.trans howner,
        hsame.checkpointGeneration.symm.trans hgeneration⟩
  · have hkept {id : Id} {c : CheckpointObject} (hc : (stateOf t).checkpoint id = some c)
        (howner : c.workloadId = workloadId) (hgeneration : c.checkpointGeneration = generation)
        (hj : Journaled (e :: t) .capture c.captureAttempt .dbCommitted) :
        ∃ id c', (after e).checkpoint id = some c' ∧ c'.workloadId = workloadId ∧
          c'.checkpointGeneration = generation ∧
          (after e).store.Journaled .capture c'.captureAttempt .dbCommitted := by
      obtain ⟨c', hc', hsame⟩ := sameImage_of_suffix h (List.suffix_cons e t) hc
      exact ⟨id, c', hc', hsame.workloadId.trans howner,
        hsame.checkpointGeneration.trans hgeneration, hsame.captureAttempt ▸ hj⟩
    rintro (⟨id, c, hc, howner, hgeneration, hj⟩ | ⟨tid, id, key, c, hcalls, hc, howner, hgeneration⟩)
    · exact hkept hc howner hgeneration (journaled_cons h hj)
    · refine hkept hc howner hgeneration ((journaled_dbCommitted_iff h).mpr (.inr ⟨tid, id, ?_⟩))
      rw [captureAttempt_of_calls h hcalls hc]
      exact hcalls

/-- A metadata commit raises the highest committed generation to its own, and nothing else moves
it. -/
theorem highestCommitted_cases (h : Run (e :: t)) (workloadId : Id) :
    (∃ generation, Commits e t workloadId generation ∧ (after e).highestCommitted workloadId =
      max ((stateOf t).highestCommitted workloadId) generation) ∨
    (∀ generation, ¬ Commits e t workloadId generation) ∧
      (after e).highestCommitted workloadId = (stateOf t).highestCommitted workloadId := by
  have hmem (g : ℕ) : g ∈ (after e).committedGenerations workloadId ↔
      g ∈ (stateOf t).committedGenerations workloadId ∨ Commits e t workloadId g :=
    mem_committedGenerations_cons_iff h
  by_cases hcommits : ∃ generation, Commits e t workloadId generation
  · obtain ⟨generation, hcommit⟩ := hcommits
    refine .inl ⟨generation, hcommit, eq_of_forall_ge_iff fun n => ?_⟩
    rw [max_le_iff, World.highestCommitted_le_iff, World.highestCommitted_le_iff]
    constructor
    · exact fun hle => ⟨fun g hg => hle g ((hmem g).mpr (.inl hg)),
        hle generation ((hmem generation).mpr (.inr hcommit))⟩
    · rintro ⟨hle, hgeneration⟩ g hg
      rcases (hmem g).mp hg with hold | hnew
      · exact hle g hold
      · exact (hnew.unique hcommit).le.trans hgeneration
  · have hno : ∀ g, ¬ Commits e t workloadId g := fun g hg => hcommits ⟨g, hg⟩
    refine .inr ⟨hno, eq_of_forall_ge_iff fun n => ?_⟩
    rw [World.highestCommitted_le_iff, World.highestCommitted_le_iff]
    exact forall_congr' fun g => by rw [hmem g, or_iff_left (hno g)]

/-- The highest committed generation never decreases. -/
theorem highestCommitted_le_of_suffix (h : Run t) (hsuffix : t' <:+ t) :
    (stateOf t').highestCommitted workloadId ≤ (stateOf t).highestCommitted workloadId := by
  refine suffix_induction (P := fun past : List (Event (fabric settings)) =>
    (stateOf t').highestCommitted workloadId ≤ (stateOf past).highestCommitted workloadId) hsuffix
    (Nat.le_refl _) ?_
  intro e past _ hpast hle
  rw [stateOf_cons]
  rcases highestCommitted_cases (h.of_suffix hpast) workloadId with ⟨g, -, hnew⟩ | ⟨-, hsame⟩
  · exact hnew ▸ hle.trans (le_max_left _ g)
  · exact hsame ▸ hle

end Generations

end CheckpointFabric
