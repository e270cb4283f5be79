import CheckpointFabric.Properties.Captures
import CheckpointFabric.Steps.Committed
import CheckpointFabric.Steps.Restores

/-!
# The marker of the highest committed generation

A capture raises the marker of its workload to the generation it commits. The commit of a
restore writes the generation of the checkpoint it restores instead, so the marker is
right for as long as only the newest committed checkpoints are restored.

## Main definitions

* `HighestMarked` — the marker of every workload is its highest committed generation
* `RestoresNewest` — a restore that commits restores the newest committed checkpoint

## Main results

* `marker_exact` — the markers are right and never decrease exactly while that is so
* `restore_lowers_marker` — a restore that takes the marker back
-/

set_option autoImplicit false

namespace CheckpointFabric

open Concurrency Coordinator System

variable {settings : Settings} {t t' : List (Event (fabric settings))}
  {e : Event (fabric settings)} {id workloadId : Id}

/-- Every workload is marked with its highest committed generation. -/
def HighestMarked (w : World) : Prop :=
  ∀ id r, w.workload id = some r → r.checkpointGeneration = w.highestCommitted id

/-- No marker of an earlier state is above that of the same workload now. -/
def MarkersKept (past now : World) : Prop :=
  ∀ id r r', past.workload id = some r → now.workload id = some r' →
    r.checkpointGeneration ≤ r'.checkpointGeneration

/-- The checkpoint whose restore the event commits. -/
def restoredId : Event (fabric settings) → Option Id
  | .performed _ (.db (.restoreCommit id attemptId node token migration rollback)) input before =>
    if (World.handle settings.codecs
        (.db (.restoreCommit id attemptId node token migration rollback)) input
          before).1.toOption.isSome then some id
    else none
  | _ => none

theorem restoredId_eq_some_iff (h : Run (e :: t)) :
    restoredId e = some id ↔ ∃ key, Restored e t id key := by
  constructor
  · intro hid
    unfold restoredId at hid
    split at hid
    · rename_i tid id' attemptId node token migration rollback input before
      split at hid
      · rename_i hreply
        obtain rfl := Option.some.inj hid
        cases h with
        | perform input =>
          refine ⟨attemptId, tid, node, token, migration, rollback, input, rfl, ?_⟩
          cases hanswer : (World.handle settings.codecs (.db (.restoreCommit id' attemptId node
              token migration rollback)) input (stateOf t)).1 with
          | error err => simp [hanswer, Except.toOption] at hreply
          | ok reply => rfl
      · cases hid
    · cases hid
  · rintro ⟨key, tid, node, token, migration, rollback, input, rfl, hreply⟩
    rw [restoredId, hreply]
    rfl

/-- If the event commits a restore, its checkpoint is the newest one that was committed. -/
def RestoresNewest (e : Event (fabric settings)) (past : List (Event (fabric settings))) : Prop :=
  ∀ id ∈ restoredId e, ∀ c ∈ (stateOf past).checkpoint id,
    c.checkpointGeneration = (stateOf past).highestCommitted c.workloadId

instance (e : Event (fabric settings)) (past : List (Event (fabric settings))) :
    Decidable (RestoresNewest e past) := by
  unfold RestoresNewest
  infer_instance

section Steps

/-- A workload that is not there has committed nothing. -/
theorem highestCommitted_eq_zero_of_none (h : Run t)
    (hnone : (stateOf t).workload workloadId = none) :
    (stateOf t).highestCommitted workloadId = 0 := by
  refine Nat.le_zero.mp (World.highestCommitted_le_iff.mpr fun g hg => ?_)
  obtain ⟨id, c, hc, rfl, -, hj⟩ := World.mem_committedGenerations.mp hg
  obtain ⟨e, t', tid, id', hsuffix, hcalls⟩ := exists_captureCommit_of_journaled h hj
  obtain ⟨c', owner, hcommit⟩ := Store.captureCommit_ok (StoreOp.of_map_ok hcalls.run)
  have hpast := (List.suffix_cons e t').trans hsuffix
  -- The commit found the workload of the checkpoint.
  obtain ⟨c'', hc'', hsame⟩ := sameImage_of_suffix h hpast hcommit.found
  obtain rfl := id_eq_of_captureAttempt h hc'' hc (hsame.captureAttempt.trans
    (captureAttempt_of_calls (h.of_suffix hsuffix) hcalls hcommit.found))
  obtain rfl := Option.some.inj (hc''.symm.trans hc)
  obtain ⟨r, hr, -⟩ := generation_le_of_run h hpast hcommit.owner
  rw [← hsame.workloadId] at hr
  exact nomatch hnone.symm.trans hr

/-- A metadata commit raises the marker to the generation of its checkpoint. -/
theorem marker_of_commits {generation : ℕ} {r r' : Workload}
    (hcommits : Commits e t workloadId generation) (hr : (stateOf t).workload workloadId = some r)
    (hr' : (after e).workload workloadId = some r') :
    r'.checkpointGeneration = max r.checkpointGeneration generation := by
  obtain ⟨tid, id, key, c, hcalls, hc, rfl, rfl⟩ := hcommits
  obtain ⟨c', owner, hcommit⟩ := Store.captureCommit_ok (StoreOp.of_map_ok hcalls.run)
  obtain rfl := Option.some.inj (hcommit.found.symm.trans hc)
  obtain rfl := Option.some.inj (hcommit.owner.symm.trans hr)
  obtain ⟨w', hw', hmarked⟩ := hcommit.exists_workload
  obtain rfl := Option.some.inj (hw'.symm.trans hr')
  exact hmarked

/-- The commit of a restore marks the generation of its checkpoint. -/
theorem marker_of_restored {key : AttemptId} {c : CheckpointObject} (hrestored : Restored e t id key)
    (hc : (stateOf t).checkpoint id = some c) :
    ∃ r', (after e).workload c.workloadId = some r' ∧
      r'.checkpointGeneration = c.checkpointGeneration := by
  obtain ⟨_, _, _, c', w, hcommit⟩ := hrestored.committed
  obtain rfl := Option.some.inj (hcommit.found.symm.trans hc)
  have hrow := congrArg (fun workloads => workloads.get c'.workloadId) hcommit.workloads
  simp only [Table.get_modify_self, hcommit.owner, Option.map_some] at hrow
  exact ⟨_, hrow, rfl⟩

/-- Without a commit, a marker stays, or the workload is new and marked with 0. -/
theorem marker_of_not_commits {r' : Workload} (h : Run (e :: t))
    (hno : ∀ generation, ¬ Commits e t workloadId generation) (hrestores : ¬ RestoresOf e t workloadId)
    (hr' : (after e).workload workloadId = some r') :
    (stateOf t).workload workloadId = none ∧ r'.checkpointGeneration = 0 ∨
      ∃ r, (stateOf t).workload workloadId = some r ∧
        r'.checkpointGeneration = r.checkpointGeneration := by
  rcases calls_or_leavesTables h with ⟨tid, op, reply, hop, hcalls⟩ | ⟨-, hclaims⟩
  · rcases workloadStep_of_run h workloadId with ⟨tid', op', input', he', hstep⟩ | hsame
    · obtain ⟨input, he, -⟩ := id hcalls
      obtain ⟨rfl, rfl, -⟩ := Event.performed.inj (he.symm.trans he')
      rw [hr'] at hstep
      generalize hrow : (stateOf t).workload workloadId = row at hstep
      cases hstep with
      | kept => exact .inr ⟨r', rfl, rfl⟩
      | inserted =>
        obtain ⟨request, -, hwriter⟩ := hcalls.writer h hop
        obtain ⟨spec, claimNode, ⟨id, now, token, rfl⟩, -⟩ := created_of_writer hwriter
        exact .inl ⟨rfl, rfl⟩
      | forked =>
        obtain ⟨request, -, hwriter⟩ := hcalls.writer h hop
        obtain ⟨spec, id, now, ancestor, generation, rfl⟩ := forked_of_writer hwriter
        exact .inl ⟨rfl, rfl⟩
      | recorded =>
        -- The commit is one of a checkpoint of another workload.
        obtain ⟨c, owner, hcommit⟩ := Store.captureCommit_ok (StoreOp.of_map_ok hcalls.run)
        have hne : c.workloadId ≠ workloadId := fun howner =>
          hno _ ⟨tid, _, _, c, hcalls, hcommit.found, howner, rfl⟩
        have hsame := (hcommit.workload_of_ne hne).symm.trans hr'
        exact .inr ⟨_, rfl, congrArg _ (Option.some.inj (hsame.symm.trans hrow))⟩
      | restored hc howner =>
        exact absurd ⟨_, _, _, ⟨tid, _, _, _, _, hcalls⟩, hc, howner⟩ hrestores
      | _ => exact .inr ⟨_, rfl, rfl⟩
    · exact .inr ⟨r', hsame.symm.trans hr', rfl⟩
  · have hclaim := hclaims workloadId
    rw [hr'] at hclaim
    obtain ⟨r, hr, node, token, epoch, rfl⟩ := Table.exists_of_rel_some_right hclaim
    exact .inr ⟨r, hr, rfl⟩

/-- A restore is no capture. -/
theorem not_commits_of_restored {key : AttemptId} {generation : ℕ} (hrestored : Restored e t id key) :
    ¬ Commits e t workloadId generation := by
  rintro ⟨tid, id', key', c, hcalls, -⟩
  obtain ⟨tid', node, token, migration, rollback, hcalls'⟩ := hrestored
  exact nomatch hcalls.op_eq hcalls'

/-- An event leaves right markers exactly if it restores nothing but the newest. -/
theorem highestMarked_cons_iff (h : Run (e :: t)) (hmarked : HighestMarked (stateOf t)) :
    HighestMarked (stateOf (e :: t)) ↔ RestoresNewest e t := by
  rw [stateOf_cons]
  constructor
  · intro hafter id hid c hc
    obtain ⟨key, hrestored⟩ := (restoredId_eq_some_iff h).mp hid
    obtain ⟨r', hr', hgeneration⟩ := marker_of_restored hrestored hc
    obtain ⟨g, hcommits, -⟩ | ⟨-, hhighest⟩ := highestCommitted_cases h c.workloadId
    · exact absurd hcommits (not_commits_of_restored hrestored)
    · exact hgeneration.symm.trans ((hafter _ r' hr').trans hhighest)
  · intro hnewest workloadId r' hr'
    rcases highestCommitted_cases h workloadId with ⟨g, hcommits, hhighest⟩ | ⟨hno, hhighest⟩
    · cases hr : (stateOf t).workload workloadId with
      | none =>
        obtain ⟨tid, id, key, c, hcalls, hc, rfl, rfl⟩ := hcommits
        obtain ⟨c', owner, hcommit⟩ := Store.captureCommit_ok (StoreOp.of_map_ok hcalls.run)
        obtain rfl := Option.some.inj (hcommit.found.symm.trans hc)
        exact nomatch hr.symm.trans hcommit.owner
      | some r => rw [hhighest, marker_of_commits hcommits hr hr', hmarked workloadId r hr]
    · rw [hhighest]
      by_cases hrestores : RestoresOf e t workloadId
      · obtain ⟨id, key, c, hrestored, hc, rfl⟩ := hrestores
        obtain ⟨r'', hr'', hgeneration⟩ := marker_of_restored hrestored hc
        obtain rfl := Option.some.inj (hr''.symm.trans hr')
        exact hgeneration.trans
          (hnewest id ((restoredId_eq_some_iff h).mpr ⟨key, hrestored⟩) c hc)
      · rcases marker_of_not_commits h hno hrestores hr' with ⟨hnone, hzero⟩ | ⟨r, hr, hsame⟩
        · exact hzero.trans (highestCommitted_eq_zero_of_none h.tail hnone).symm
        · exact hsame.trans (hmarked workloadId r hr)

end Steps

/-- In every state of a run every marker is the highest committed generation, and none has
decreased, exactly if every restore that commits in the run restores the newest committed
checkpoint of its workload. -/
theorem marker_exact (h : Run t) :
    (∀ t', t' <:+ t → HighestMarked (stateOf t') ∧
      ∀ t'', t'' <:+ t' → MarkersKept (stateOf t'') (stateOf t')) ↔ EveryStep RestoresNewest t := by
  constructor
  · intro hall e past hsuffix
    have hpast := (hall past ((List.suffix_cons e past).trans hsuffix)).1
    exact (highestMarked_cons_iff (h.of_suffix hsuffix) hpast).mp (hall _ hsuffix).1
  · intro hnewest
    have hmarked : ∀ t', t' <:+ t → HighestMarked (stateOf t') := by
      intro t' hsuffix
      induction t' with
      | nil => exact fun id r hr => nomatch hr
      | cons e past ih =>
        have hpast := ih ((List.suffix_cons e past).trans hsuffix)
        exact (highestMarked_cons_iff (h.of_suffix hsuffix) hpast).mpr (hnewest e past hsuffix)
    intro t' hsuffix
    refine ⟨hmarked t' hsuffix, fun t'' hsuffix' id r r' hr hr' => ?_⟩
    rw [hmarked t' hsuffix id r' hr', hmarked t'' (hsuffix'.trans hsuffix) id r hr]
    exact highestCommitted_le_of_suffix (h.of_suffix hsuffix) hsuffix'

/-- The second checkpoint of a workload is restored, and then the workload captured again. -/
def Demo.restoredNewest : List (System.Action (fabric archive)) :=
  serially [.capture 7 {} operator, .capture 7 {} operator, .restore 4 "n1" {} operator,
    .capture 7 {} operator]

theorem marker_exact_restored :
    ¬ EveryStep (fun e _ => restoredId e ≠ some 4) (exec Demo.restoredNewest).trace ∧
      HighestMarked (stateOf (exec Demo.restoredNewest).trace) :=
  ⟨by decide +kernel,
    ((marker_exact (exec_run _)).mpr (by decide +kernel) _ (List.suffix_refl _)).1⟩

/-- The first checkpoint of a workload is restored after the second one was committed. -/
def Demo.restoredFirst : List (System.Action (fabric archive)) :=
  serially [.capture 7 {} operator, .capture 7 {} operator, .restore 2 "n1" {} operator]

/-- A restore takes the marker of the workload back from 2 to 1, though generation 2 stays
committed. -/
theorem restore_lowers_marker : ∃ t : List (Event (fabric Demo.archive)), Run t ∧
    ¬ HighestMarked (stateOf t) ∧ ∃ t', t' <:+ t ∧ ¬ MarkersKept (stateOf t') (stateOf t) := by
  refine ⟨_, exec_run Demo.restoredFirst, ?_⟩
  obtain ⟨r', hr', hmarker⟩ := Option.map_eq_some_iff.mp (show
    ((stateOf (exec Demo.restoredFirst).trace).workload 7).map (·.checkpointGeneration) = some 1 by
      decide +kernel)
  have hhighest : (stateOf (exec Demo.restoredFirst).trace).highestCommitted 7 = 2 := by
    decide +kernel
  obtain ⟨t', hsuffix, hbefore⟩ : ∃ t' ∈ (exec Demo.restoredFirst).trace.tails,
      ((stateOf t').workload 7).map (·.checkpointGeneration) = some 2 := by
    decide +kernel
  obtain ⟨r, hr, hearlier⟩ := Option.map_eq_some_iff.mp hbefore
  constructor
  · intro hmarked
    have := hmarked 7 r' hr'
    omega
  · refine ⟨t', (List.mem_tails _ _).mp hsuffix, fun hkept => ?_⟩
    have := hkept 7 r r' hr hr'
    omega

end CheckpointFabric
