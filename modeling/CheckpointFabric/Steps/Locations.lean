import CheckpointFabric.Footprints.Images
import CheckpointFabric.Steps.Journal

/-!
# The locations of a checkpoint along a run

A checkpoint lists where its replicas are, and counts them. Only five calls of the store write
the list: a row is inserted without locations, the full image brings the first one, a
replication adds one, a rebinding replaces some, and a retirement takes all of them away. A
sixth removes one, and nothing calls it.

## Main definitions

* `withLocation`, `withoutNode`, `reboundTo` — the lists these calls leave
* `LocationStep` — the changes of the locations of a row, one constructor for each way

## Main results

* `World.locationStep` — every operation takes such a step
* `retired_cases` — a row is RETIRED because it was retired
-/

set_option autoImplicit false

namespace CheckpointFabric

open Concurrency Coordinator System

section Lists

variable {node : NodeId} {path : String} {l location : DurableLocation}
  {locations : List DurableLocation}

/-- The locations with a new one, unless its node has one already. -/
def withLocation (location : DurableLocation) (locations : List DurableLocation) :
    List DurableLocation :=
  if locations.any fun l => l.node == location.node then locations else locations ++ [location]

/-- The locations without the one of a node. -/
def withoutNode (node : NodeId) (locations : List DurableLocation) : List DurableLocation :=
  locations.filter fun l => l.node != node

/-- The locations after a rebinding: what names the node or the directory gives way to a new
entry. -/
def reboundTo (node : NodeId) (path : String) (locations : List DurableLocation) :
    List DurableLocation :=
  (locations.filter fun l => !Store.samePath l.path path && l.node != node) ++
    [{ node, path
       verified := locations.any fun l =>
        (Store.samePath l.path path || l.node == node) && l.verified }]

/-- No node has two replicas. -/
def DistinctNodes (locations : List DurableLocation) : Prop := (locations.map (·.node)).Nodup

theorem DistinctNodes.filter {keep : DurableLocation → Bool} (h : DistinctNodes locations) :
    DistinctNodes (locations.filter keep) :=
  h.sublist (List.filter_sublist.map _)

/-- A location on a node that has none may be added. -/
theorem DistinctNodes.concat (h : DistinctNodes locations)
    (hnew : ∀ l ∈ locations, l.node ≠ location.node) :
    DistinctNodes (locations ++ [location]) := by
  unfold DistinctNodes
  rw [List.map_append, List.nodup_append]
  refine ⟨h, List.nodup_singleton _, ?_⟩
  intro n hn n' hn'
  obtain ⟨l, hl, rfl⟩ := List.mem_map.mp hn
  rw [List.mem_singleton.mp hn']
  exact hnew l hl

theorem DistinctNodes.withLocation (h : DistinctNodes locations) :
    DistinctNodes (withLocation location locations) := by
  unfold CheckpointFabric.withLocation
  split
  · exact h
  · rename_i hnew
    refine h.concat fun l hl hnode => hnew ?_
    exact List.any_eq_true.mpr ⟨l, hl, beq_iff_eq.mpr hnode⟩

theorem DistinctNodes.withoutNode (h : DistinctNodes locations) :
    DistinctNodes (withoutNode node locations) := h.filter

theorem DistinctNodes.reboundTo (h : DistinctNodes locations) :
    DistinctNodes (reboundTo node path locations) := by
  refine h.filter.concat fun l hl => ?_
  have hkept := (List.mem_filter.mp hl).2
  simp only [Bool.and_eq_true, bne_iff_ne] at hkept
  exact hkept.2

theorem withLocation_ne_nil : withLocation location locations ≠ [] := by
  unfold withLocation
  split
  · rename_i hany
    obtain ⟨l, hl, -⟩ := List.any_eq_true.mp hany
    exact List.ne_nil_of_mem hl
  · exact List.concat_ne_nil _ _

theorem reboundTo_ne_nil : reboundTo node path locations ≠ [] := List.concat_ne_nil _ _

/-- An entry of another node is kept just when it names another directory. -/
theorem mem_reboundTo_iff (hnode : l.node ≠ node) :
    l ∈ reboundTo node path locations ↔ l ∈ locations ∧ Store.samePath l.path path = false := by
  unfold reboundTo
  rw [List.mem_append, List.mem_filter, List.mem_singleton]
  constructor
  · rintro (⟨hl, hkept⟩ | rfl)
    · simp only [Bool.and_eq_true, Bool.not_eq_true'] at hkept
      exact ⟨hl, hkept.1⟩
    · exact absurd rfl hnode
  · rintro ⟨hl, hpath⟩
    refine .inl ⟨hl, ?_⟩
    simp [hpath, hnode]

end Lists

/-- The checkpoint with other locations, counted. -/
def CheckpointObject.relocate (c : CheckpointObject)
    (f : List DurableLocation → List DurableLocation) : CheckpointObject :=
  { c with
    durableLocations := f c.durableLocations
    replicaCount := (f c.durableLocations).length }

/-- How an operation may change the locations of checkpoint `id`. -/
inductive LocationStep (id : Id) :
    Op → Option CheckpointObject → Option CheckpointObject → Prop
  | absent {op : Op} : LocationStep id op none none
  | kept {op : Op} {c c' : CheckpointObject} : c'.durableLocations = c.durableLocations →
    c'.replicaCount = c.replicaCount → LocationStep id op (some c) (some c')
  | inserted {c : CheckpointObject} : LocationStep id (.db (.checkpointInsert c)) none (some c)
  | updated {c old : CheckpointObject} :
    LocationStep id (.db (.checkpointUpdate c)) (some old)
      (some { c with workloadId := old.workloadId })
  | retired {c c' : CheckpointObject} : c'.durableLocations = [] → c'.replicaCount = 0 →
    LocationStep id (.db (.checkpointRetire id)) (some c) (some c')
  | added {c : CheckpointObject} {location : DurableLocation} :
    LocationStep id (.db (.checkpointAddLocation id location)) (some c)
      (some (c.relocate (withLocation location)))
  | rebound {c : CheckpointObject} {node : NodeId} {dataDir : String} :
    LocationStep id (.db (.checkpointRebindLocation id node dataDir)) (some c)
      (some (c.relocate (reboundTo node (Store.commitPath dataDir id))))

namespace LocationStep

variable {id : Id} {op : Op} {row row' : Option CheckpointObject}

theorem same : LocationStep id op row row := by
  cases row with
  | none => exact .absent
  | some c => exact .kept rfl rfl

/-- Apart from the two calls that edit the list, a row changes as a whole. -/
theorem of_checkpointStep (hadd : ∀ location, op ≠ .db (.checkpointAddLocation id location))
    (hrebind : ∀ node dataDir, op ≠ .db (.checkpointRebindLocation id node dataDir))
    (h : CheckpointStep id op row row') : LocationStep id op row row' := by
  cases h with
  | kept => exact .same
  | inserted => exact .inserted
  | updated => exact .updated
  | captured _ hlinks | relinked _ _ hlinks =>
    obtain ⟨supersedes, supersededBy, rfl⟩ := hlinks
    exact .kept rfl rfl
  | retired => exact .retired rfl rfl
  | located => exact absurd rfl (hadd _)
  | rebound => exact absurd rfl (hrebind _ _)
  | lifecycleSet | restored | «sealed» | integritySet | protectionSet => exact .kept rfl rfl

end LocationStep

namespace Store

/-- The row of a checkpoint whose locations were changed. -/
theorem get_setLocations {s : Store} {id id' : Id}
    {f : List DurableLocation → List DurableLocation} :
    (s.setLocations id' f).checkpoints.get id =
      if id' = id then (s.checkpoints.get id).map fun c => c.relocate f
      else s.checkpoints.get id := by
  unfold setLocations
  rw [get_updateCheckpoint]
  rfl

end Store

namespace World

variable {codecs : Codecs} {id : Id}

/-- A row whose locations only the named operation may have changed. -/
theorem locationStep_setLocations {s : Store} {op : Op} {id' : Id}
    {f : List DurableLocation → List DurableLocation}
    (h : id' = id → ∀ c, LocationStep id op (some c) (some (c.relocate f))) :
    LocationStep id op (s.checkpoints.get id) ((s.setLocations id' f).checkpoints.get id) := by
  rw [Store.get_setLocations]
  cases hrow : s.checkpoints.get id with
  | none =>
    rw [Option.map_none, ite_self]
    exact .absent
  | some c =>
    split
    · rename_i hid
      exact h hid c
    · exact .kept rfl rfl

theorem locationStep_execute (now : ℕ) (fault : Option FabricError) (op : StoreOp) (s : Store)
    (id : Id) :
    LocationStep id (.db op) (s.checkpoints.get id)
      ((op.execute now fault s).2.checkpoints.get id) := by
  rcases StoreOp.execute_cases now fault op s with ⟨e, h⟩ | ⟨reply, s', -, hrun, h⟩
  · rw [h]
    exact .same
  · have hstep := checkpointStep_execute now fault op s id
    rw [h] at hstep ⊢
    cases op with
    | checkpointAddLocation id' location =>
      obtain ⟨-, rfl⟩ := Store.checkpointAddLocation_ok (StoreOp.of_map_ok hrun)
      exact locationStep_setLocations fun hid c => hid ▸ .added
    | checkpointRebindLocation id' node dataDir =>
      obtain rfl := StoreOp.snd_of_ok hrun
      exact locationStep_setLocations fun hid c => hid ▸ .rebound
    | _ => exact .of_checkpointStep (by simp) (by simp) hstep

/-- Every operation takes a step on the locations of every checkpoint. -/
theorem locationStep (codecs : Codecs) (op : Op) (input : Input) (w : World) (id : Id) :
    LocationStep id op (w.checkpoint id) ((handle codecs op input w).2.checkpoint id) := by
  unfold checkpoint
  cases op with
  | db op =>
    rw [store_handle_db]
    exact locationStep_execute ..
  | claim id' node fenceEpoch =>
    simp only [handle]
    split
    · exact .same
    · split
      · rename_i s' hclaim
        obtain ⟨r, -, -, -, rfl⟩ := Store.workloadClaim_ok hclaim
        exact .same
      · exact .same
  | call node request =>
    rw [store_handle_call]
    exact .same
  | _ => exact .same

end World

section Runs

variable {settings : Settings} {t : List (Event (fabric settings))}
  {e : Event (fabric settings)} {tid : ℕ} {id : Id} {c c' : CheckpointObject}

/-- A successful call takes a step on the locations of every checkpoint, and nothing else changes a
row. -/
theorem location_cases (h : Run (e :: t)) (id : Id) :
    (∃ tid op reply, ¬ op.Reads ∧ Calls e t tid op reply ∧
      LocationStep id (.db op) ((stateOf t).checkpoint id) ((after e).checkpoint id)) ∨
    (after e).checkpoint id = (stateOf t).checkpoint id := by
  rcases checkpoint_cases h id with ⟨tid, op, reply, hop, hcalls, -⟩ | hsame
  · refine .inl ⟨tid, op, reply, hop, hcalls, ?_⟩
    obtain ⟨input, rfl, -⟩ := hcalls
    exact World.locationStep settings.codecs (.db op) input (stateOf t) id
  · exact .inr hsame

/-- Nobody but a retirement takes a row to RETIRED. -/
theorem retired_cases (h : Run (e :: t)) (hc' : (after e).checkpoint id = some c')
    (hretired : c'.lifecycle = .retired) :
    (∃ tid, Calls e t tid (.checkpointRetire id) ()) ∨
      ∃ c, (stateOf t).checkpoint id = some c ∧ c.lifecycle = .retired := by
  rcases checkpoint_cases h id with ⟨tid, op, reply, hop, hcalls, hstep⟩ | hsame
  · obtain ⟨request, -, hwriter⟩ := hcalls.writer h hop
    rw [hc'] at hstep
    generalize (stateOf t).checkpoint id = row at hstep ⊢
    cases hstep with
    | kept => exact .inr ⟨c', rfl, hretired⟩
    | inserted =>
      cases hwriter with
      | capture _ _ hwrites => exact absurd (hwrites.2.1.symm.trans hretired) (by decide)
      | restore _ hwrites | recovery hwrites | plain hwrites => exact absurd hwrites not_false
    | updated =>
      cases hwriter with
      | capture _ _ hwrites => exact absurd (hwrites.lifecycle.symm.trans hretired) (by decide)
      | restore _ hwrites | recovery hwrites | plain hwrites => exact absurd hwrites not_false
    | lifecycleSet =>
      obtain rfl := hretired
      cases hwriter with
      | capture _ _ hwrites => exact absurd hwrites.2.2 (by simp)
      | restore _ hwrites => exact absurd hwrites.2 (by simp)
      | recovery hwrites => exact absurd hwrites (by simp [RecoveryWrites])
      | plain hwrites => exact absurd hwrites not_false
    | captured _ hlinks =>
      obtain ⟨supersedes, supersededBy, rfl⟩ := hlinks
      exact absurd hretired (by simp)
    | relinked _ _ hlinks =>
      obtain ⟨supersedes, supersededBy, rfl⟩ := hlinks
      exact .inr ⟨_, rfl, hretired⟩
    | restored => exact absurd hretired (by simp)
    | retired => exact .inl ⟨tid, hcalls⟩
    | «sealed» | integritySet | protectionSet | located | rebound =>
      exact .inr ⟨_, rfl, hretired⟩
  · exact .inr ⟨c', hsame.symm.trans hc', hretired⟩

end Runs

end CheckpointFabric
