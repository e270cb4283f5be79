import CheckpointFabric.Steps.Forks

/-!
# The forest of forks

A workload is created on its own, or forked from a checkpoint of another one. A fork is one
generation below its parent, and the parent was there before it; so the links to the parents lead
through a forest, whatever identities the callers choose.

## Main definitions

* `World.ForkOf` — a workload hangs below its parent, and one record says so
* `World.Forest` — every workload is a root or hangs below its parent

## Main results

* `fork_forest` — the workloads of every reachable state are a forest, and the links to the parents
  come to an end
-/

set_option autoImplicit false

namespace CheckpointFabric

open Concurrency Coordinator System

/-- The parent is there, one generation above, and one FORKED_FROM record names it and one of its
checkpoints. -/
structure World.ForkOf (w : World) (r : Workload) (parent : Id) : Prop where
  above : ∃ p, w.workload parent = some p ∧ r.forkGeneration = p.forkGeneration + 1
  record : ∃ l, w.store.forkRecords r.workloadId = [l] ∧ l.otherWorkload = some parent ∧
    ∃ ckpt c, l.otherCheckpoint = some ckpt ∧ w.checkpoint ckpt = some c ∧ c.workloadId = parent

/-- Every workload is a root or hangs below its parent. -/
structure World.Forest (w : World) : Prop where
  root : ∀ id r, w.workload id = some r → r.parentWorkload = none →
    r.forkGeneration = 0 ∧ w.store.forkRecords id = []
  fork : ∀ id r parent, w.workload id = some r → r.parentWorkload = some parent →
    w.ForkOf r parent
  unknown : ∀ id, w.workload id = none → w.store.forkRecords id = []

/-- The workload that a workload was forked from. -/
def World.parentOf (w : World) (id : Id) : Option Id := (w.workload id).bind (·.parentWorkload)

/-- In a forest the links to the parents come to an end. -/
theorem World.Forest.wellFounded {w : World} (h : w.Forest) :
    WellFounded fun parent id => w.parentOf id = some parent := by
  -- Every link leads one generation up.
  let generation (id : Id) : ℕ := ((w.workload id).map (·.forkGeneration)).getD 0
  have hup : ∀ {parent id}, w.parentOf id = some parent → generation parent < generation id := by
    intro parent id hlink
    obtain ⟨r, hr, hparent⟩ := Option.bind_eq_some_iff.mp hlink
    obtain ⟨p, hp, hgeneration⟩ := (h.fork id r parent hr hparent).above
    simp only [generation, hr, hp, Option.map_some, Option.getD_some, hgeneration]
    exact Nat.lt_succ_self _
  exact Subrelation.wf hup (measure generation).wf

variable {settings : Settings} {t : List (Event (fabric settings))}
  {e : Event (fabric settings)} {tid : ℕ} {id : Id} {r r' : Workload}

section Steps

/-- A row was there before, with the same parent and generation, or an event has made it. -/
theorem workload_born (h : Run (e :: t)) (hr' : (after e).workload id = some r') :
    (∃ r, (stateOf t).workload id = some r ∧ r'.parentWorkload = r.parentWorkload ∧
      r'.forkGeneration = r.forkGeneration) ∨
    (stateOf t).workload id = none ∧
      ((∃ tid, Calls e t tid (.workloadInsert r') ()) ∨
        ∃ tid parent ckpt detail, Calls e t tid (.workloadInsertFork r' parent ckpt detail) ()) := by
  cases hbefore : (stateOf t).workload id with
  | some r =>
    obtain ⟨r₁, hr₁, hsame⟩ := origin_of_suffix h (List.suffix_cons e t) hbefore
    obtain rfl := Option.some.inj (hr₁.symm.trans hr')
    exact .inl ⟨r, rfl, hsame⟩
  | none =>
    refine .inr ⟨rfl, ?_⟩
    rcases calls_or_leavesTables h with ⟨tid, op, reply, hop, hcalls⟩ | ⟨-, hclaimed⟩
    · have hstep : WorkloadStep (stateOf t) id (.db op) ((stateOf t).workload id)
          ((after e).workload id) := by
        obtain ⟨input, rfl, -⟩ := hcalls
        exact World.workloadStep settings.codecs (.db op) input (stateOf t) id
      rw [hbefore, hr'] at hstep
      cases hstep with
      | inserted => exact .inl ⟨tid, hcalls⟩
      | forked => exact .inr ⟨tid, _, _, _, hcalls⟩
    · have hrow := hclaimed id
      rw [hbefore, hr'] at hrow
      cases hrow

/-- An event is a fork, or leaves the FORKED_FROM records. -/
theorem forkRecords_cases (h : Run (e :: t)) :
    (∃ tid child parent ckpt detail,
      Calls e t tid (.workloadInsertFork child parent ckpt detail) ()) ∨
    ∀ id, (after e).store.forkRecords id = (stateOf t).store.forkRecords id := by
  rcases calls_or_leavesTables h with ⟨tid, op, reply, -, hcalls⟩ | ⟨⟨workloads, hsame⟩, -⟩
  · rcases StoreOp.forkRecords_cases hcalls.run with ⟨child, parent, ckpt, detail, rfl⟩ | hrecords
    · exact .inl ⟨tid, child, parent, ckpt, detail, hcalls⟩
    · exact .inr hrecords
  · exact .inr fun id => Store.forkRecords_of_lineage (by rw [hsame])

/-- What hangs below its parent goes on doing so while its records are left. -/
theorem World.ForkOf.step {parent : Id} (h : Run (e :: t)) (hfork : (stateOf t).ForkOf r parent)
    (hgeneration : r'.forkGeneration = r.forkGeneration) (hid : r'.workloadId = r.workloadId)
    (hrecords : (after e).store.forkRecords r.workloadId =
      (stateOf t).store.forkRecords r.workloadId) : (after e).ForkOf r' parent where
  above := by
    obtain ⟨p, hp, hp'⟩ := hfork.above
    obtain ⟨p₁, hp₁, -, hsame⟩ := origin_of_suffix h (List.suffix_cons e t) hp
    exact ⟨p₁, hp₁, by rw [hgeneration, hsame, hp']⟩
  record := by
    obtain ⟨l, hl, hother, ckpt, c, hckpt, hc, howner⟩ := hfork.record
    obtain ⟨c', hc', hsame⟩ := checkpoint_of_suffix h (List.suffix_cons e t) hc
    exact ⟨l, by rw [hid, hrecords, hl], hother, ckpt, c', hckpt, hc', hsame.trans howner⟩

/-- A fork hangs below the workload that its thread has read. -/
theorem forkOf_of_calls {child : Workload} {parent ckpt : Id} {detail : String}
    (h : Run (e :: t)) (hpast : (stateOf t).Forest)
    (hcalls : Calls e t tid (.workloadInsertFork child parent ckpt detail) ()) :
    child.parentWorkload = some parent ∧ (after e).ForkOf child parent := by
  have hgrafts := Store.grafts_of_insertFork (StoreOp.of_map_ok hcalls.run)
  have hgrafted : Grafted (deeds tid t) child parent ckpt := by
    obtain ⟨input, rfl, -⟩ := hcalls
    obtain ⟨request, -, hpermits⟩ := h.permitted obeys_serve_forks
    exact hpermits
  obtain ⟨c, w, hc, hw, rfl, hgeneration⟩ := hgrafted.read
  obtain ⟨t₁, hsuffix₁, -, hrow⟩ := workload_of_read h.tail hw
  obtain ⟨p, hp, -, hsame⟩ := origin_of_suffix h.tail hsuffix₁ hrow
  rw [← World.workloadId_of_row hrow] at hp
  refine ⟨hgrafted.ancestor, ⟨p, ?_, ?_⟩, ?_⟩
  · have hne : child.workloadId ≠ w.workloadId := by
      intro hid
      have hnew := hgrafts.new
      rw [hid] at hnew
      exact absurd (hnew.symm.trans hp) (by simp)
    exact (hgrafts.workload _).trans ((if_neg hne).trans hp)
  · have hbound := hgrafts.bound
    rw [hgeneration] at hbound
    rw [hgeneration, Store.saturatingAdd_of_le hbound, hsame]
  · obtain ⟨l, hother, hckpt, hrecords⟩ := hgrafts.record
    obtain ⟨t₂, hsuffix₂, -, row, hrow₂, rfl⟩ := checkpoint_of_read h.tail hc
    obtain ⟨c', hc', howner⟩ :=
      checkpoint_of_suffix h (hsuffix₂.trans (List.suffix_cons e t)) hrow₂
    have hnone : (stateOf t).store.forkRecords child.workloadId = [] :=
      hpast.unknown _ hgrafts.new
    refine ⟨l, ?_, hother, ckpt, c', hckpt, hc', howner.trans ?_⟩
    · rw [hrecords, hnone, if_pos rfl, List.nil_append]
    · exact (World.workloadId_of_row hrow).symm

/-- An event that forks nothing keeps the forest. -/
theorem World.Forest.step (h : Run (e :: t)) (hpast : (stateOf t).Forest)
    (hrecords : ∀ id, (after e).store.forkRecords id = (stateOf t).store.forkRecords id)
    (hnot : ∀ tid child parent ckpt detail,
      ¬ Calls e t tid (.workloadInsertFork child parent ckpt detail) ()) : (after e).Forest where
  root id r' hr' hparent := by
    rw [hrecords]
    rcases workload_born h hr' with ⟨r, hr, hsame, hgeneration⟩ | ⟨hnew, ⟨tid, hcalls⟩ | hforked⟩
    · obtain ⟨hzero, hnone⟩ := hpast.root id r hr (hsame.symm.trans hparent)
      exact ⟨hgeneration.trans hzero, hnone⟩
    · obtain ⟨request, -, hwriter⟩ := hcalls.writer h not_false
      obtain ⟨spec, claimNode, hcreated⟩ := created_of_writer hwriter
      obtain ⟨id', now, token, rfl⟩ := hcreated.row
      exact ⟨rfl, hpast.unknown id hnew⟩
    · obtain ⟨tid, parent, ckpt, detail, hcalls⟩ := hforked
      exact absurd hcalls (hnot _ _ _ _ _)
  fork id r' parent hr' hparent := by
    rcases workload_born h hr' with ⟨r, hr, hsame, hgeneration⟩ | ⟨hnew, ⟨tid, hcalls⟩ | hforked⟩
    · have hid : r'.workloadId = r.workloadId :=
        (World.workloadId_of_row hr').trans (World.workloadId_of_row hr).symm
      exact (hpast.fork id r parent hr (hsame.symm.trans hparent)).step h hgeneration hid
        (hrecords _)
    · obtain ⟨request, -, hwriter⟩ := hcalls.writer h not_false
      obtain ⟨spec, claimNode, hcreated⟩ := created_of_writer hwriter
      obtain ⟨id', now, token, rfl⟩ := hcreated.row
      exact absurd hparent (by simp [newWorkload])
    · obtain ⟨tid, parent, ckpt, detail, hcalls⟩ := hforked
      exact absurd hcalls (hnot _ _ _ _ _)
  unknown id hnone := by
    rw [hrecords]
    refine hpast.unknown id ?_
    cases hr : (stateOf t).workload id with
    | none => rfl
    | some r =>
      obtain ⟨r', hr', -⟩ := origin_of_suffix h (List.suffix_cons e t) hr
      exact absurd (hr'.symm.trans hnone) (by simp)

/-- A fork keeps the forest. -/
theorem World.Forest.graft {child : Workload} {parent ckpt : Id} {detail : String}
    (h : Run (e :: t)) (hpast : (stateOf t).Forest)
    (hcalls : Calls e t tid (.workloadInsertFork child parent ckpt detail) ()) :
    (after e).Forest := by
  have hgrafts := Store.grafts_of_insertFork (StoreOp.of_map_ok hcalls.run)
  obtain ⟨hancestor, hfork⟩ := forkOf_of_calls h hpast hcalls
  obtain ⟨l, -, -, hrecords⟩ := hgrafts.record
  have hrow (id : Id) : (after e).workload id =
      if child.workloadId = id then some child else (stateOf t).workload id := hgrafts.workload id
  have hothers {id : Id} (hid : child.workloadId ≠ id) :
      (after e).store.forkRecords id = (stateOf t).store.forkRecords id := by
    rw [hrecords, if_neg hid, List.append_nil]
  constructor
  · intro id r hr hroot
    rw [hrow] at hr
    split at hr
    · obtain rfl := Option.some.inj hr
      exact absurd (hancestor.symm.trans hroot) (by simp)
    · rename_i hid
      rw [hothers hid]
      exact hpast.root id r hr hroot
  · intro id r p hr hparent
    rw [hrow] at hr
    split at hr
    · obtain rfl := Option.some.inj hr
      obtain rfl := Option.some.inj (hancestor.symm.trans hparent)
      exact hfork
    · rename_i hid
      have hold := hpast.fork id r p hr hparent
      have hrid : r.workloadId = id := World.workloadId_of_row hr
      exact hold.step h rfl rfl (hothers (hrid ▸ hid))
  · intro id hnone
    rw [hrow] at hnone
    split at hnone
    · exact absurd hnone (by simp)
    · rename_i hid
      rw [hothers hid]
      exact hpast.unknown id hnone

end Steps

/-- In every reachable state a workload without a parent is of generation 0; a workload with a parent
is one generation below it, the parent is there, and exactly one FORKED_FROM record names the
parent and a checkpoint of it. So the links to the parents come to an end. -/
theorem fork_forest (h : Run t) :
    (stateOf t).Forest ∧ WellFounded fun parent id => (stateOf t).parentOf id = some parent := by
  have hforest : (stateOf t).Forest := by
    induction t with
    | nil =>
      constructor
      · exact fun id r hr => absurd hr (by simp [World.workload, World.initial, Store.empty])
      · exact fun id r p hr => absurd hr (by simp [World.workload, World.initial, Store.empty])
      · exact fun id _ => rfl
    | cons e t ih =>
      have hpast := ih h.tail
      by_cases hforks : ∃ tid child parent ckpt detail,
          Calls e t tid (.workloadInsertFork child parent ckpt detail) ()
      · obtain ⟨tid, child, parent, ckpt, detail, hcalls⟩ := hforks
        exact hpast.graft h hcalls
      · refine hpast.step h ((forkRecords_cases h).resolve_left hforks) ?_
        exact fun tid child parent ckpt detail hcalls =>
          hforks ⟨tid, child, parent, ckpt, detail, hcalls⟩
  exact ⟨hforest, hforest.wellFounded⟩

/-- The checkpoint of the small fabric is forked. -/
def Demo.forked : List (Action (fabric Demo.settings)) :=
  Demo.captured ++ Demo.alone 3 (.fork 2 { Demo.spec with workloadId := some 8 } Demo.operator)

theorem fork_forest_forked : ∃ t : List (Event (fabric Demo.settings)), Run t ∧
    (stateOf t).parentOf 8 = some 7 ∧ (stateOf t).Forest ∧
      WellFounded fun parent id => (stateOf t).parentOf id = some parent := by
  obtain ⟨t, hrun, hlink⟩ : ∃ t : List (Event (fabric Demo.settings)), Run t ∧
      (stateOf t).parentOf 8 = some 7 := ⟨_, exec_run Demo.forked, by decide +kernel⟩
  exact ⟨t, hrun, hlink, fork_forest hrun⟩

end CheckpointFabric
