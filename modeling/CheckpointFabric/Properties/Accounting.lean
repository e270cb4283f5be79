import CheckpointFabric.Properties.Exclusion
import CheckpointFabric.Steps.Restores

/-!
# Generation accounting

The generation of a workload, the journal and the rows of its checkpoints count the same
restores: every commit advances all three by one, and nothing else does.

## Main definitions

* `CreatedAs` — the row that a workload was created with

## Main results

* `generation_accounting` — the three counts agree in every reachable state
-/

set_option autoImplicit false

namespace CheckpointFabric

open Concurrency Coordinator System

variable {settings : Settings} {t : List (Event (fabric settings))} {e : Event (fabric settings)}
  {workloadId : Id} {r r₀ : Workload}

/-- The row that the workload was created with. -/
def CreatedAs (t : List (Event (fabric settings))) (workloadId : Id) (r₀ : Workload) : Prop :=
  ∃ e past, e :: past <:+ t ∧ (stateOf past).workload workloadId = none ∧
    (after e).workload workloadId = some r₀

theorem CreatedAs.cons (h : CreatedAs t workloadId r₀) : CreatedAs (e :: t) workloadId r₀ := by
  obtain ⟨e', past, hsuffix, hrest⟩ := h
  exact ⟨e', past, hsuffix.trans (List.suffix_cons e t), hrest⟩

/-- What is not there is not restored. -/
theorem not_restoresOf_of_none (hnone : (stateOf t).workload workloadId = none) :
    ¬ RestoresOf e t workloadId := by
  rintro ⟨id, key, c, hrestored, hc, rfl⟩
  obtain ⟨_, _, _, c', w, hcommit⟩ := hrestored.committed
  obtain rfl := Option.some.inj (hcommit.found.symm.trans hc)
  exact nomatch hnone.symm.trans hcommit.owner

/-- Before a workload is created nothing is counted for it. -/
theorem counts_eq_zero_of_none (h : Run t) (hnone : (stateOf t).workload workloadId = none) :
    (stateOf t).restoresJournaled workloadId = 0 ∧ (stateOf t).restoreCounts workloadId = 0 := by
  induction t with
  | nil => exact ⟨rfl, rfl⟩
  | cons e t ih =>
    have hbefore : (stateOf t).workload workloadId = none := by
      cases hr : (stateOf t).workload workloadId with
      | none => rfl
      | some r =>
        obtain ⟨r', hr', -⟩ := workloadGeneration_cases h hr
        exact nomatch hnone.symm.trans hr'
    obtain ⟨hjournaled, hcounts⟩ := ih h.tail hbefore
    have hno := not_restoresOf_of_none (e := e) hbefore
    obtain ⟨hrestores, -⟩ | ⟨-, hsame⟩ := restoresJournaled_cases h workloadId
    · exact absurd hrestores hno
    · obtain ⟨hrestores, -⟩ | ⟨-, hsame'⟩ := restoreCounts_cases h workloadId
      · exact absurd hrestores hno
      · exact ⟨hsame.trans hjournaled, hsame'.trans hcounts⟩

/-- In every state of every run, the generation of a workload is the one it was created with and
the number of its restore attempts whose commit is journaled, and also that and the restores that
the rows of its checkpoints count. -/
theorem generation_accounting (h : Run t) (hr : (stateOf t).workload workloadId = some r) :
    ∃ r₀, CreatedAs t workloadId r₀ ∧
      r.workloadGeneration = r₀.workloadGeneration + (stateOf t).restoresJournaled workloadId ∧
      r.workloadGeneration = r₀.workloadGeneration + (stateOf t).restoreCounts workloadId := by
  induction t generalizing r with
  | nil => exact nomatch hr
  | cons e t ih =>
    rw [stateOf_cons] at hr ⊢
    cases hbefore : (stateOf t).workload workloadId with
    | none =>
      -- The workload is created here, and nothing was counted yet.
      obtain ⟨hjournaled, hcounts⟩ := counts_eq_zero_of_none h.tail hbefore
      have hno := not_restoresOf_of_none (e := e) hbefore
      have hjournaled' := (restoresJournaled_cases h workloadId).resolve_left fun hr => hno hr.1
      have hcounts' := (restoreCounts_cases h workloadId).resolve_left fun hr => hno hr.1
      refine ⟨r, ⟨e, t, List.suffix_refl _, hbefore, hr⟩, ?_, ?_⟩
      · omega
      · omega
    | some r₁ =>
      obtain ⟨r₀, hcreated, hjournaled, hcounts⟩ := ih h.tail hbefore
      obtain ⟨r', hr', hcases⟩ := workloadGeneration_cases h hbefore
      obtain rfl := Option.some.inj (hr'.symm.trans hr)
      rcases hcases with ⟨hrestores, hgeneration⟩ | ⟨hno, hgeneration⟩
      · have hjournaled' := (restoresJournaled_cases h workloadId).resolve_right
          fun hr => hr.1 hrestores
        have hcounts' := (restoreCounts_cases h workloadId).resolve_right fun hr => hr.1 hrestores
        exact ⟨r₀, hcreated.cons, by omega, by omega⟩
      · have hjournaled' := (restoresJournaled_cases h workloadId).resolve_left fun hr => hno hr.1
        have hcounts' := (restoreCounts_cases h workloadId).resolve_left fun hr => hno hr.1
        exact ⟨r₀, hcreated.cons, by omega, by omega⟩

/-- The restored workload of the small fabric is in generation 1. -/
theorem generation_accounting_restored :
    ∃ r r₀, (stateOf (exec Demo.restored).trace).workload 7 = some r ∧ r.workloadGeneration = 1 ∧
      CreatedAs (exec Demo.restored).trace 7 r₀ ∧
      r.workloadGeneration =
        r₀.workloadGeneration + (stateOf (exec Demo.restored).trace).restoresJournaled 7 := by
  obtain ⟨r, hr, hgeneration⟩ := Option.map_eq_some_iff.mp (show
    ((stateOf (exec Demo.restored).trace).workload 7).map (·.workloadGeneration) = some 1 by
      decide +kernel)
  obtain ⟨r₀, hcreated, hjournaled, -⟩ := generation_accounting (exec_run Demo.restored) hr
  exact ⟨r, r₀, hr, hgeneration, hcreated, hjournaled⟩

end CheckpointFabric
