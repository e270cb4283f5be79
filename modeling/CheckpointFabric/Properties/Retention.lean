import CheckpointFabric.Alone.Basic
import CheckpointFabric.Lineage
import CheckpointFabric.Retention
import Mathlib.Data.List.Count

/-!
# Retiring what is eligible

The newest checkpoints of a workload are kept by count whatever has become of them, so those that
failed take the places of those that can be restored; and of the reasons for which a retirement is
refused the classification knows one.

## Main definitions

* `retireAll` — retire some checkpoints, one after the other
* `RetentionSafe` — what retiring all eligible checkpoints should respect
* `Disposable` — what the classification gives up
* `Retainable` — when it gives up nothing that should be kept

## Main results

* `retirementCandidates_alone` — the views are those of the store
* `retireAll_eligible` — every eligible checkpoint can be retired
* `retentionSafe_iff` — when retiring them all is safe
-/

set_option autoImplicit false

namespace CheckpointFabric.Retention

open Concurrency Fabric Coordinator

/-- A request for the views that runs alone returns those of the store. -/
theorem retirementCandidates_alone {settings : Settings} {before after : World}
    {result : FabricResult (List ReclaimView)}
    (h : Alone settings (retirementCandidates settings) before result after) :
    result = .ok (before.store.workloadList.flatMap fun w =>
      reclaimViews settings.policy w (before.store.checkpointList w.workloadId)) := by
  have hviews : ∀ (ws : List Workload) (s : Snapshot), Ends Snapshot.Step
      (fun views _ => views = .ok (ws.map fun w =>
        reclaimViews settings.policy w (s.store.checkpointList w.workloadId)))
      (Program.mapEach ws fun w => do
        let cks : List CheckpointObject ← db (.checkpointList w.workloadId)
        pure (reclaimViews settings.policy w cks)) s := by
    intro ws
    induction ws with
    | nil => exact fun s => rfl
    | cons w ws ih =>
      intro s
      rw [Program.mapEach, ends_andThen]
      refine ends_db_bind (fun _ => rfl) fun now n _ _ => ?_
      rw [ends_pure, Program.onValue, ends_andThen]
      refine (ih _).weaken fun views s' hviews => ?_
      rw [hviews]
      rfl
  have hends : Ends Snapshot.Step
      (fun result _ => result = .ok (before.store.workloadList.flatMap fun w =>
        reclaimViews settings.policy w (before.store.checkpointList w.workloadId)))
      (retirementCandidates settings) before.snapshot := by
    refine ends_db_bind (fun _ => rfl) fun now n _ _ => ?_
    rw [Program.bind_def, ends_andThen]
    refine (hviews _ _).weaken fun views s' hviews => ?_
    rw [hviews, List.flatMap_def]
    rfl
  exact h.ends hends

section Safety

variable (policy : PolicySet) (s : Store) (w : Workload)

/-- The checkpoints of a workload that are reported as Eligible. -/
def eligibleIds : List Id :=
  ((reclaimViews policy w (s.checkpointList w.workloadId)).filter fun v =>
    v.retirementEligibility = .eligible).map (·.checkpointId)

/-- The number of its AVAILABLE checkpoints. -/
def availableCount : ℕ :=
  (s.checkpointList w.workloadId).countP fun c => c.lifecycle = .available

/-- Retire checkpoints, one after the other. -/
def retireAll (ids : List Id) : FabricResult Store := ids.foldlM Store.checkpointRetire s

/-- Retiring all eligible checkpoints, which leads from `s` to `s'`, leaves enough of them, and none
of them was protected, pinned, in use, or is needed by an incremental checkpoint that is left. -/
structure RetentionSafe (s' : Store) : Prop where
  enough : min policy.minGenerationsRetained (availableCount s w) ≤ availableCount s' w
  unprotected : ∀ id ∈ eligibleIds policy s w, ∀ c, s.checkpoints.get id = some c →
    c.protection = .none
  unused : ∀ id ∈ eligibleIds policy s w, s.reservationActiveFor .restore none (some id) = none
  unneeded : ∀ id ∈ eligibleIds policy s w, ∀ d ∈ s'.checkpoints.rows,
    ¬ d.lifecycle.isTerminal → Lineage.chainBase d ≠ some id

/-- The checkpoints of a workload with their positions in the order of the generations. -/
def ranked : List (CheckpointObject × ℕ) :=
  (byGeneration (s.checkpointList w.workloadId)).zipIdx

/-- The checkpoint at a position is one of the newest by count. -/
def Newest (row : CheckpointObject × ℕ) : Prop :=
  MinKept policy (s.checkpointList w.workloadId).length row.2

/-- The checkpoint is kept for its number, or pinned. -/
def Spared (c : CheckpointObject) : Prop := ProtectedGen policy w c ∨ c.protection = .pinned

/-- An AVAILABLE checkpoint that nothing keeps. -/
def Disposable (row : CheckpointObject × ℕ) : Prop :=
  ¬ Newest policy s w row ∧ ¬ Spared policy w row.1 ∧ row.1.lifecycle = .available

instance (row : CheckpointObject × ℕ) : Decidable (Newest policy s w row) := by
  unfold Newest
  infer_instance

instance (c : CheckpointObject) : Decidable (Spared policy w c) := by
  unfold Spared
  infer_instance

instance (row : CheckpointObject × ℕ) : Decidable (Disposable policy s w row) := by
  unfold Disposable
  infer_instance

/-- The rows of `ranked` that have a property. -/
def count (p : CheckpointObject × ℕ → Prop) [DecidablePred p] : ℕ := (ranked s w).countP fun r => p r

/-- What the classification gives up can be missed. Unless there is nothing of it, the newest
checkpoints by count that are not AVAILABLE are made up for by older ones that are; it is not
protected or in use, and incremental checkpoints above it are given up with it. -/
structure Retainable : Prop where
  covered : (∃ row ∈ ranked s w, Disposable policy s w row) →
    policy.minGenerationsRetained +
        count s w (fun row => Newest policy s w row ∧ row.1.lifecycle ≠ .available) ≤
      count s w (Newest policy s w) +
        count s w (fun row => ¬ Newest policy s w row ∧ Spared policy w row.1 ∧
          row.1.lifecycle = .available)
  unprotected : ∀ row ∈ ranked s w, Disposable policy s w row → row.1.protection = .none
  unused : ∀ row ∈ ranked s w, Disposable policy s w row →
    s.reservationActiveFor .restore none (some row.1.checkpointId) = none
  unneeded : ∀ row ∈ ranked s w, Disposable policy s w row → ∀ d ∈ s.checkpoints.rows,
    ¬ d.lifecycle.isTerminal → Lineage.chainBase d = some row.1.checkpointId →
    ∃ above ∈ ranked s w, Disposable policy s w above ∧ above.1.checkpointId = d.checkpointId

end Safety

section Eligible

variable {policy : PolicySet} {s s' : Store} {w : Workload} {id : Id}

theorem mem_eligibleIds : id ∈ eligibleIds policy s w ↔
    ∃ row ∈ ranked s w, Disposable policy s w row ∧ row.1.checkpointId = id := by
  simp only [eligibleIds, reclaimViews, List.mem_map, List.mem_filter, decide_eq_true_eq]
  have hiff : ∀ row : CheckpointObject × ℕ,
      (reclaimView policy w (s.checkpointList w.workloadId).length row.1
        row.2).retirementEligibility = .eligible ↔ Disposable policy s w row := by
    intro row
    rw [reclaimView, retirementEligibility_eq_eligible_iff, Disposable, Newest, Spared, not_or]
    tauto
  constructor
  · rintro ⟨view, ⟨⟨row, hrow, rfl⟩, helig⟩, rfl⟩
    exact ⟨row, hrow, (hiff row).mp helig, rfl⟩
  · rintro ⟨row, hrow, hdisposable, rfl⟩
    exact ⟨_, ⟨⟨row, hrow, rfl⟩, (hiff row).mpr hdisposable⟩, rfl⟩

theorem map_fst_ranked : (ranked s w).map Prod.fst = byGeneration (s.checkpointList w.workloadId) :=
  List.zipIdx_map_fst _ _

/-- The checkpoints of a workload, up to their order, are its rows as they are read. -/
theorem perm_checkpointList : (s.checkpointList w.workloadId).Perm
    ((s.checkpoints.rows.filter fun c => c.workloadId == w.workloadId).map Store.readCheckpoint) :=
  (List.perm_insertionSort _ _).map _

theorem perm_ranked : ((ranked s w).map Prod.fst).Perm
    ((s.checkpoints.rows.filter fun c => c.workloadId == w.workloadId).map Store.readCheckpoint) := by
  rw [map_fst_ranked]
  exact (List.perm_insertionSort _ _).trans perm_checkpointList

/-- The rows of a workload that have a property of what is read of them. -/
theorem countP_ranked (p : CheckpointObject → Bool) :
    (ranked s w).countP (fun row => p row.1) =
      s.checkpoints.rows.countP fun c => c.workloadId == w.workloadId && p (Store.readCheckpoint c) := by
  calc (ranked s w).countP (fun row => p row.1)
      = ((ranked s w).map Prod.fst).countP p := by rw [List.countP_map]; rfl
    _ = ((s.checkpoints.rows.filter fun c => c.workloadId == w.workloadId).map
          Store.readCheckpoint).countP p := perm_ranked.countP_eq _
    _ = _ := by
      rw [List.countP_map, List.countP_filter]
      refine List.countP_congr fun c _ => ?_
      simp [Bool.and_comm]

theorem mem_ranked {row : CheckpointObject × ℕ} (h : row ∈ ranked s w) :
    ∃ c ∈ s.checkpoints.rows, c.workloadId = w.workloadId ∧ row.1 = Store.readCheckpoint c := by
  have hmem := perm_ranked.mem_iff.mp (List.mem_map_of_mem h)
  obtain ⟨c, hc, heq⟩ := List.mem_map.mp hmem
  obtain ⟨hc, hid⟩ := List.mem_filter.mp hc
  exact ⟨c, hc, by simpa using hid, heq.symm⟩

/-- Checkpoints at different positions are different ones. -/
theorem ranked_ids_nodup : ((ranked s w).map fun row => row.1.checkpointId).Nodup := by
  have hids : ((ranked s w).map fun row => row.1.checkpointId) =
      ((ranked s w).map Prod.fst).map (·.checkpointId) := by
    rw [List.map_map]
    rfl
  rw [hids, (perm_ranked.map _).nodup_iff, List.map_map]
  exact (s.checkpoints.nodup).sublist (List.filter_sublist.map _)

theorem eq_of_ranked {row row' : CheckpointObject × ℕ} (h : row ∈ ranked s w)
    (h' : row' ∈ ranked s w) (hid : row.1.checkpointId = row'.1.checkpointId) : row = row' :=
  List.inj_on_of_nodup_map ranked_ids_nodup h h' hid

theorem eligibleIds_nodup : (eligibleIds policy s w).Nodup := by
  have hids : ((ranked s w).map fun row => row.1.checkpointId) =
      (reclaimViews policy w (s.checkpointList w.workloadId)).map (·.checkpointId) := by
    rw [reclaimViews, List.map_map]
    rfl
  have hsub : (eligibleIds policy s w).Sublist
      ((ranked s w).map fun row => row.1.checkpointId) := by
    rw [hids]
    exact List.filter_sublist.map _
  exact ranked_ids_nodup.sublist hsub

end Eligible

section Retired

variable {policy : PolicySet} {s s' : Store} {w : Workload}

/-- A checkpoint that was retired. -/
def retiredRow (c : CheckpointObject) : CheckpointObject :=
  { c with
    lifecycle := .retired
    retirementEligibility := .notEligible
    durableLocations := []
    replicaCount := 0 }

/-- The store in which the checkpoints `ids` were retired. -/
def retired (s : Store) (ids : List Id) : Store :=
  { s with
    checkpoints := s.checkpoints.mapRows
      (fun c => if c.checkpointId ∈ ids then retiredRow c else c)
      (by intro c; split <;> rfl) }

theorem checkpointRetire_of_available {id : Id} {c : CheckpointObject}
    (hc : s.checkpoints.get id = some c) (hpinned : c.protection ≠ .pinned)
    (havailable : c.lifecycle = .available) :
    s.checkpointRetire id = .ok (s.updateCheckpoint id retiredRow) := by
  have htransition : c.lifecycle.transition .retired = .ok () :=
    LifecycleState.transition_eq_ok_iff.mpr (LifecycleState.canTransition_retired_iff.mpr havailable)
  unfold Store.checkpointRetire
  rw [hc]
  dsimp only
  rw [if_neg hpinned, htransition]
  rfl

theorem retired_nil : retired s [] = s := by
  unfold retired Table.mapRows
  simp

/-- Retiring one checkpoint and then others is retiring them together. -/
theorem retired_updateCheckpoint {id : Id} {ids : List Id} (hfresh : id ∉ ids) :
    retired (s.updateCheckpoint id retiredRow) ids = retired s (id :: ids) := by
  unfold retired Store.updateCheckpoint Table.mapRows Table.modify
  simp only [List.map_map, Store.mk.injEq, Table.mk.injEq, true_and, and_true]
  refine List.map_congr_left fun c _ => ?_
  rw [Function.comp_apply]
  by_cases hid : c.checkpointId = id
  · have hrest : (retiredRow c).checkpointId ∉ ids := fun hmem => hfresh (hid ▸ hmem)
    rw [if_pos hid, if_neg hrest, if_pos (hid ▸ .head _)]
  · rw [if_neg hid]
    simp [hid]

/-- Distinct AVAILABLE checkpoints that are not pinned can all be retired. -/
theorem retireAll_eq {ids : List Id} (hnodup : ids.Nodup)
    (hids : ∀ id ∈ ids, ∃ c, s.checkpoints.get id = some c ∧ c.protection ≠ .pinned ∧
      c.lifecycle = .available) : retireAll s ids = .ok (retired s ids) := by
  induction ids generalizing s with
  | nil => rw [retired_nil]; rfl
  | cons id ids ih =>
    obtain ⟨hfresh, hnodup⟩ := List.nodup_cons.mp hnodup
    obtain ⟨c, hc, hpinned, havailable⟩ := hids id (.head _)
    have hrest : ∀ id' ∈ ids, ∃ c, (s.updateCheckpoint id retiredRow).checkpoints.get id' = some c ∧
        c.protection ≠ .pinned ∧ c.lifecycle = .available := by
      intro id' hid'
      have hne : id ≠ id' := fun heq => hfresh (heq ▸ hid')
      have hget : (s.updateCheckpoint id retiredRow).checkpoints.get id' = s.checkpoints.get id' :=
        s.checkpoints.get_modify_of_ne retiredRow (fun _ h => h) hne
      rw [hget]
      exact hids id' (.tail _ hid')
    rw [← retired_updateCheckpoint hfresh, ← ih hnodup hrest, retireAll, List.foldlM_cons,
      checkpointRetire_of_available hc hpinned havailable]
    rfl

/-- Every eligible checkpoint can be retired. -/
theorem retireAll_eligible :
    retireAll s (eligibleIds policy s w) = .ok (retired s (eligibleIds policy s w)) := by
  refine retireAll_eq eligibleIds_nodup fun id hid => ?_
  obtain ⟨row, hrow, ⟨-, hspared, havailable⟩, rfl⟩ := mem_eligibleIds.mp hid
  obtain ⟨c, hc, -, heq⟩ := mem_ranked hrow
  rw [heq] at havailable hspared ⊢
  exact ⟨c, Table.get_of_mem hc, fun hpinned => hspared (.inr hpinned), havailable⟩

theorem availableCount_eq : availableCount s w =
    count s w (fun row => row.1.lifecycle = .available) := by
  rw [count, countP_ranked (s := s) (w := w) fun c => c.lifecycle = .available, availableCount,
    perm_checkpointList.countP_eq, List.countP_map, List.countP_filter]
  refine List.countP_congr fun c _ => ?_
  simp [Bool.and_comm]

/-- The checkpoints that are AVAILABLE afterwards. -/
theorem availableCount_retired : availableCount (retired s (eligibleIds policy s w)) w =
    count s w (fun row => row.1.lifecycle = .available ∧ ¬ Disposable policy s w row) := by
  have hafter : availableCount (retired s (eligibleIds policy s w)) w =
      (ranked s w).countP fun row =>
        decide (row.1.lifecycle = .available ∧ row.1.checkpointId ∉ eligibleIds policy s w) := by
    rw [countP_ranked (s := s) (w := w) fun c =>
        decide (c.lifecycle = .available ∧ c.checkpointId ∉ eligibleIds policy s w),
      availableCount, perm_checkpointList.countP_eq, List.countP_map, List.countP_filter, retired,
      Table.mapRows, List.countP_map]
    refine List.countP_congr fun c _ => ?_
    by_cases hid : c.checkpointId ∈ eligibleIds policy s w
    · simp [hid, retiredRow, Store.readCheckpoint]
    · simp [hid, Store.readCheckpoint, and_comm]
  rw [hafter, count]
  refine List.countP_congr fun row hrow => ?_
  have hiff : row.1.checkpointId ∈ eligibleIds policy s w ↔ Disposable policy s w row := by
    rw [mem_eligibleIds]
    constructor
    · rintro ⟨row', hrow', hdisposable, hid⟩
      rwa [← eq_of_ranked hrow' hrow hid]
    · exact fun hdisposable => ⟨row, hrow, hdisposable, rfl⟩
  simp [hiff]

end Retired

section Counts

variable {policy : PolicySet} {s s' : Store} {w : Workload}

theorem count_split (p q : CheckpointObject × ℕ → Prop) [DecidablePred p] [DecidablePred q] :
    count s w p = count s w (fun row => p row ∧ q row) + count s w (fun row => p row ∧ ¬ q row) := by
  unfold count
  rw [List.countP_eq_countP_filter_add _ _ (fun row => decide (q row)), List.countP_filter,
    List.countP_filter]
  simp

theorem count_congr {p q : CheckpointObject × ℕ → Prop} [DecidablePred p] [DecidablePred q]
    (h : ∀ row ∈ ranked s w, p row ↔ q row) : count s w p = count s w q :=
  List.countP_congr fun row hrow => by simpa using h row hrow

theorem count_pos_iff {p : CheckpointObject × ℕ → Prop} [DecidablePred p] :
    0 < count s w p ↔ ∃ row ∈ ranked s w, p row := by
  simp [count, List.countP_pos_iff]

/-- Enough AVAILABLE checkpoints are left iff the newest ones that are not AVAILABLE are made up
for. -/
theorem enough_iff : min policy.minGenerationsRetained (availableCount s w) ≤
      availableCount (retired s (eligibleIds policy s w)) w ↔
    ((∃ row ∈ ranked s w, Disposable policy s w row) →
      policy.minGenerationsRetained +
          count s w (fun row => Newest policy s w row ∧ row.1.lifecycle ≠ .available) ≤
        count s w (Newest policy s w) +
          count s w (fun row => ¬ Newest policy s w row ∧ Spared policy w row.1 ∧
            row.1.lifecycle = .available)) := by
  have hbefore := count_split (s := s) (w := w) (fun row => row.1.lifecycle = .available)
    (Disposable policy s w)
  have hdisposable : count s w (fun row => row.1.lifecycle = .available ∧ Disposable policy s w row) =
      count s w (Disposable policy s w) :=
    count_congr fun row _ => and_iff_right_of_imp fun h => h.2.2
  have hnewest : count s w (Newest policy s w) =
      count s w (fun row => Newest policy s w row ∧ row.1.lifecycle = .available) +
        count s w (fun row => Newest policy s w row ∧ row.1.lifecycle ≠ .available) :=
    count_split _ _
  -- What is left is AVAILABLE and among the newest, or older and kept for another reason.
  have hafter := count_split (s := s) (w := w)
    (fun row => row.1.lifecycle = .available ∧ ¬ Disposable policy s w row) (Newest policy s w)
  have hkept : count s w (fun row => (row.1.lifecycle = .available ∧ ¬ Disposable policy s w row) ∧
      Newest policy s w row) =
      count s w (fun row => Newest policy s w row ∧ row.1.lifecycle = .available) := by
    refine count_congr fun row _ => ?_
    unfold Disposable
    grind
  have hspared : count s w (fun row => (row.1.lifecycle = .available ∧ ¬ Disposable policy s w row) ∧
      ¬ Newest policy s w row) = count s w (fun row => ¬ Newest policy s w row ∧
        Spared policy w row.1 ∧ row.1.lifecycle = .available) := by
    refine count_congr fun row _ => ?_
    unfold Disposable
    grind
  rw [availableCount_retired, availableCount_eq, ← count_pos_iff]
  omega

end Counts

/-- For every policy, store and workload: retiring every checkpoint that is reported as Eligible is
safe, iff what the classification gives up can be missed. -/
theorem retentionSafe_iff (policy : PolicySet) (s : Store) (w : Workload) :
    (∃ s', retireAll s (eligibleIds policy s w) = .ok s' ∧ RetentionSafe policy s w s') ↔
      Retainable policy s w := by
  have hrow : ∀ row ∈ ranked s w, ∃ c, s.checkpoints.get row.1.checkpointId = some c ∧
      c.protection = row.1.protection := by
    intro row hrow
    obtain ⟨c, hc, -, heq⟩ := mem_ranked hrow
    rw [heq]
    exact ⟨c, Table.get_of_mem hc, rfl⟩
  rw [retireAll_eligible]
  constructor
  · rintro ⟨s', hretired, hsafe⟩
    obtain rfl := Except.ok.inj hretired
    constructor
    · exact enough_iff.mp hsafe.enough
    · intro row hmem hdisposable
      obtain ⟨c, hc, heq⟩ := hrow row hmem
      rw [← heq]
      exact hsafe.unprotected _ (mem_eligibleIds.mpr ⟨row, hmem, hdisposable, rfl⟩) c hc
    · intro row hmem hdisposable
      exact hsafe.unused _ (mem_eligibleIds.mpr ⟨row, hmem, hdisposable, rfl⟩)
    · intro row hmem hdisposable d hd hlive hbase
      by_contra hleft
      -- An incremental checkpoint that is not given up is left with its base gone.
      have hd' : d.checkpointId ∉ eligibleIds policy s w := fun h => hleft (mem_eligibleIds.mp h)
      refine hsafe.unneeded _ (mem_eligibleIds.mpr ⟨row, hmem, hdisposable, rfl⟩) d ?_ hlive hbase
      exact List.mem_map.mpr ⟨d, hd, if_neg hd'⟩
  · intro hretainable
    refine ⟨_, rfl, enough_iff.mpr hretainable.covered, ?_, ?_, ?_⟩
    · intro id hid c hc
      obtain ⟨row, hmem, hdisposable, rfl⟩ := mem_eligibleIds.mp hid
      obtain ⟨c', hc', heq⟩ := hrow row hmem
      obtain rfl := Option.some.inj (hc.symm.trans hc')
      exact heq.trans (hretainable.unprotected row hmem hdisposable)
    · intro id hid
      obtain ⟨row, hmem, hdisposable, rfl⟩ := mem_eligibleIds.mp hid
      exact hretainable.unused row hmem hdisposable
    · intro id hid d' hd' hlive hbase
      obtain ⟨row, hmem, hdisposable, rfl⟩ := mem_eligibleIds.mp hid
      obtain ⟨d, hd, rfl⟩ := List.mem_map.mp hd'
      by_cases hgone : d.checkpointId ∈ eligibleIds policy s w
      · rw [if_pos hgone] at hlive
        exact hlive rfl
      · rw [if_neg hgone] at hlive hbase
        exact hgone (mem_eligibleIds.mpr
          (hretainable.unneeded row hmem hdisposable d hd hlive hbase))

open CheckpointFabric.Demo in
/-- Of two checkpoints the newer one was retired, and the other one is not protected. -/
def Demo.newestRetired : Store :=
  (System.stateOf (System.exec (serially [.capture 7 {} operator, .capture 7 {} operator,
    .checkpointUnprotect 2, .checkpointUnprotect 4, .checkpointRetire 4 operator])).trace).store

/-- The last AVAILABLE checkpoint is eligible, because the retired one counts as retained. -/
theorem newestRetired_unsafe : ∃ w, Demo.newestRetired.workloadGet 7 = some w ∧
    ¬ ∃ s', retireAll Demo.newestRetired
        (eligibleIds CheckpointFabric.Demo.archive.policy Demo.newestRetired w) = .ok s' ∧
      RetentionSafe CheckpointFabric.Demo.archive.policy Demo.newestRetired w s' := by
  have hcounts : (Demo.newestRetired.workloadGet 7).map (fun w =>
      (availableCount Demo.newestRetired w, availableCount (retired Demo.newestRetired
        (eligibleIds CheckpointFabric.Demo.archive.policy Demo.newestRetired w)) w)) =
      some (1, 0) := by
    decide +kernel
  obtain ⟨w, hw, heq⟩ := Option.map_eq_some_iff.mp hcounts
  obtain ⟨hbefore, hafter⟩ := Prod.mk.inj heq
  refine ⟨w, hw, ?_⟩
  rintro ⟨s', hretired, hsafe⟩
  rw [retireAll_eligible] at hretired
  obtain rfl := Except.ok.inj hretired
  have henough := hsafe.enough
  rw [hbefore, hafter] at henough
  exact absurd henough (by decide)

end CheckpointFabric.Retention
