import CheckpointFabric.Steps.Locations

/-!
# Replicas: how many, whose, and until when

The replica count of a checkpoint is the length of its location list, and no node is in the list
twice. What a heartbeat does to the list is another matter. A rebinding looks for its entry by
the directory as well as by the node, and directories of different hosts may have the same name.
And neither a rebinding nor an addition looks at the lifecycle, so both give locations to a
checkpoint that has been retired.

## Main definitions

* `CheckpointObject.Accounted` — the count and the list agree
* `fabricRemoving` — the fabric, where locations may be removed besides
* `KeepsOthers`, `SharesPath` — a rebinding that is confined, and what it depends on
* `RelocatesRetired` — a call that gives a location to a RETIRED checkpoint

## Main results

* `replicas_accounted` — counts and lists agree in every reachable state
* `rebind_confined_iff` — a rebinding keeps the entries of the other live nodes just when none of
  them names its directory
* `retired_empty_iff` — RETIRED checkpoints stay empty just while no call gives one a location
-/

set_option autoImplicit false

namespace CheckpointFabric

open Concurrency Coordinator System

section Accounting

/-- The replicas of a checkpoint are counted, and they are on distinct nodes. -/
structure CheckpointObject.Accounted (c : CheckpointObject) : Prop where
  count : c.replicaCount = c.durableLocations.length
  distinct : DistinctNodes c.durableLocations

/-- The replicas of every checkpoint are accounted for. -/
def Store.Accounted (s : Store) : Prop :=
  ∀ id c, s.checkpoints.get id = some c → c.Accounted

theorem CheckpointObject.Accounted.relocate {c : CheckpointObject}
    {f : List DurableLocation → List DurableLocation}
    (hf : DistinctNodes (f c.durableLocations)) : (c.relocate f).Accounted := ⟨rfl, hf⟩

/-- Removing a location keeps the account. -/
theorem Store.Accounted.removeLocation {s s' : Store} {id : Id} {node : NodeId}
    (h : s.Accounted) (hs' : s.checkpointRemoveLocation id node = .ok s') : s'.Accounted := by
  have hset : s' = s.setLocations id (withoutNode node) := by
    unfold Store.checkpointRemoveLocation at hs'
    split at hs'
    · exact absurd hs' (by simp)
    · exact (Except.ok.inj hs').symm
  subst hset
  intro id' c' hc'
  rw [get_setLocations] at hc'
  split at hc'
  · obtain ⟨c, hc, rfl⟩ := Option.map_eq_some_iff.mp hc'
    exact .relocate (h id' c hc).distinct.withoutNode
  · exact h id' c' hc'

variable {settings : Settings}

/-- An operation that a request performs keeps the account. -/
theorem accounted_handle {asks : CaptureOptions → Prop} {ds : List FabricDeed} {op : Op}
    {input : Input} {w : World} (hpermits : ImagePermits settings asks ds op)
    (h : w.store.Accounted) : (World.handle settings.codecs op input w).2.store.Accounted := by
  intro id c' hc'
  have hstep := World.locationStep settings.codecs op input w id
  rw [World.checkpoint, World.checkpoint, hc'] at hstep
  generalize hrow : w.store.checkpoints.get id = row at hstep
  cases hstep with
  | kept hlocations hcount =>
    have hc := h id _ hrow
    exact ⟨by rw [hlocations, hcount]; exact hc.count, by rw [hlocations]; exact hc.distinct⟩
  | inserted =>
    obtain ⟨workloadId, run, epoch, created, -, rfl⟩ := hpermits
    exact ⟨rfl, List.nodup_nil⟩
  | updated =>
    obtain ⟨workloadId, run, imaged, path, -, rfl⟩ := hpermits
    exact ⟨rfl, List.nodup_singleton _⟩
  | retired hlocations hcount => exact ⟨by rw [hlocations, hcount]; rfl, hlocations ▸ List.nodup_nil⟩
  | added => exact .relocate (h id _ hrow).distinct.withLocation
  | rebound => exact .relocate (h id _ hrow).distinct.reboundTo

/-- A location is removed. -/
def World.removeLocation (id : Id) (node : NodeId) (w : World) : World :=
  match w.store.checkpointRemoveLocation id node with
  | .ok store => { w with store }
  | .error _ => w

/-- The fabric with one more move. Nothing in the coordinator removes a single location; here it
may happen to any checkpoint at any time. -/
abbrev fabricRemoving (settings : Settings) : System :=
  { fabric settings with
    Move := Move ⊕ Id × NodeId
    move := Sum.elim (World.move settings.codecs) fun removal =>
      World.removeLocation removal.1 removal.2 }

theorem accounted_initial : World.initial.store.Accounted := by
  intro id c hc
  exact absurd hc (by simp [World.initial, Store.empty])

theorem accounted_removeLocation {id : Id} {node : NodeId} {w : World} (h : w.store.Accounted) :
    (w.removeLocation id node).store.Accounted := by
  unfold World.removeLocation
  split
  · rename_i store hstore
    exact h.removeLocation hstore
  · exact h

/-- Whatever the fabric does, its rows stay accounted for. -/
theorem accounted_of_run {t : List (Event (fabric settings))} (h : Run t) :
    (stateOf t).store.Accounted := by
  refine h.invariant_of_obeys (P := fun w : World => w.store.Accounted)
    (fun request => obeys_serve_images request) accounted_initial (fun _ _ h => h)
    (fun _ _ _ _ _ => accounted_handle) (fun _ h => h) fun m w hw => ?_
  rw [show (World.move settings.codecs m w).store = w.store from World.store_move m]
  exact hw

/-- In every reachable state the replica count of every checkpoint is the number of its locations,
and these are on distinct nodes: whatever is captured, replicated, rebound and retired, and
whatever is removed besides. -/
theorem replicas_accounted {w : World}
    (h : Reachable (S := fabric settings) w ∨ Reachable (S := fabricRemoving settings) w) :
    w.store.Accounted := by
  rcases h with ⟨t, hrun, rfl⟩ | ⟨t, hrun, rfl⟩
  · exact accounted_of_run hrun
  · refine hrun.invariant_of_obeys (P := fun w : World => w.store.Accounted)
      (fun request => obeys_serve_images request) accounted_initial (fun _ _ h => h)
      (fun _ _ _ _ _ => accounted_handle) (fun _ h => h) ?_
    intro m w hw
    cases m with
    | inl m =>
      rw [show ((fabricRemoving settings).move (.inl m) w).store = w.store from World.store_move m]
      exact hw
    | inr removal => exact accounted_removeLocation hw

/-- Two hosts, the second one with its data in `dir`. A checkpoint is captured on the first and
restored on the second, which gets a replica of its own. Then the first sends a heartbeat. -/
def Demo.layouts (dir : String) : List (Action (fabric Demo.archive)) :=
  [.move (Move.boot "n1" "n0" "/data"), .move (Move.boot "n2" "n0" dir), .move (Move.adopt "n1" 1),
    .move (Move.adopt "n2" 1)] ++
    Demo.serve [.nodeRegister ⟨"n1", "addr", "boot", "/data", Demo.runtime, [], 1⟩,
      .nodeRegister ⟨"n2", "addr", "boot", dir, Demo.runtime, [], 1⟩,
      .workloadCreate Demo.spec (some "n1"), .capture 7 {} Demo.operator,
      .migrate 1 2 "n2" Demo.operator, .nodeHeartbeat ⟨"n1", "boot", 1, [], [2], []⟩]

/-- A replication and a rebinding have left two replicas. -/
theorem replicas_accounted_rebound :
    ((stateOf (exec (Demo.layouts "/data2")).trace).checkpoint 2).map (·.replicaCount) = some 2 ∧
      (stateOf (exec (Demo.layouts "/data2")).trace).store.Accounted :=
  ⟨by decide +kernel, replicas_accounted (.inl ⟨_, exec_run (Demo.layouts "/data2"), rfl⟩)⟩

end Accounting

variable {settings : Settings} {t t' : List (Event (fabric settings))}
  {e : Event (fabric settings)} {tid : ℕ} {id : Id} {c c' : CheckpointObject}

/-- The row after a rebinding. -/
theorem checkpoint_of_rebind {node : NodeId} {dataDir : String}
    (hcalls : Calls e t tid (.checkpointRebindLocation id node dataDir) ()) (id' : Id) :
    (after e).checkpoint id' =
      if id = id' then ((stateOf t).checkpoint id').map fun c =>
        c.relocate (reboundTo node (Store.commitPath dataDir id))
      else (stateOf t).checkpoint id' := by
  have hstore := (StoreOp.snd_of_ok hcalls.run).symm
  dsimp only at hstore
  rw [World.checkpoint, World.checkpoint, hstore]
  exact Store.get_setLocations

/-- The row after an addition. -/
theorem checkpoint_of_add {location : DurableLocation}
    (hcalls : Calls e t tid (.checkpointAddLocation id location) ()) :
    (after e).checkpoint id =
      ((stateOf t).checkpoint id).map fun c => c.relocate (withLocation location) := by
  obtain ⟨-, hstore⟩ := Store.checkpointAddLocation_ok (StoreOp.of_map_ok hcalls.run)
  rw [World.checkpoint, World.checkpoint, hstore]
  exact Store.get_setLocations.trans (if_pos rfl)

section Rebinding

/-- The node is registered, and ACTIVE. -/
def World.LiveNode (w : World) (node : NodeId) : Prop :=
  (w.store.nodes.get node).map (·.status) = some .active

instance (w : World) (node : NodeId) : Decidable (w.LiveNode node) := by
  unfold World.LiveNode
  infer_instance

/-- The event keeps every location entry of the live nodes other than `node`. -/
def KeepsOthers (e : Event (fabric settings)) (past : List (Event (fabric settings)))
    (node : NodeId) : Prop :=
  ∀ id c l, (stateOf past).checkpoint id = some c → l ∈ c.durableLocations → l.node ≠ node →
    (stateOf past).LiveNode l.node →
      ∃ c', (after e).checkpoint id = some c' ∧ l ∈ c'.durableLocations

/-- Another live node has its replica of the checkpoint in a directory of the same name. -/
def SharesPath (past : List (Event (fabric settings))) (id : Id) (node : NodeId)
    (dataDir : String) : Prop :=
  ∃ c l, (stateOf past).checkpoint id = some c ∧ l ∈ c.durableLocations ∧ l.node ≠ node ∧
    (stateOf past).LiveNode l.node ∧ Store.samePath l.path (Store.commitPath dataDir id) = true

/-- A rebinding keeps the entries of all other live nodes just when none of them has its replica in
a directory of the same name. -/
theorem rebind_confined_iff {node : NodeId} {dataDir : String}
    (hcalls : Calls e t tid (.checkpointRebindLocation id node dataDir) ()) :
    KeepsOthers e t node ↔ ¬ SharesPath t id node dataDir := by
  constructor
  · rintro hkeeps ⟨c, l, hc, hl, hnode, hlive, hpath⟩
    obtain ⟨c', hc', hl'⟩ := hkeeps id c l hc hl hnode hlive
    rw [checkpoint_of_rebind hcalls, if_pos rfl, hc] at hc'
    obtain rfl := Option.some.inj hc'
    have hother := ((mem_reboundTo_iff hnode).mp hl').2
    exact absurd (hpath.symm.trans hother) (by simp)
  · intro hshares id' c l hc hl hnode hlive
    rw [checkpoint_of_rebind hcalls]
    split
    · rename_i hid
      subst hid
      rw [hc]
      refine ⟨_, rfl, (mem_reboundTo_iff hnode).mpr ⟨hl, ?_⟩⟩
      by_contra hpath
      exact hshares ⟨c, l, hc, hl, hnode, hlive, eq_true_of_ne_false hpath⟩
    · exact ⟨c, hc, hl⟩

/-- The other host is live too, and has its replica in a directory of another name. -/
theorem rebind_confined_registered : ∃ (t : List (Event (fabric Demo.archive)))
    (e : Event (fabric Demo.archive)), Run (e :: t) ∧ (stateOf t).LiveNode "n2" ∧
      ((stateOf t).checkpoint 2).map (fun c => c.durableLocations.map (·.node)) =
        some ["n1", "n2"] ∧
      (KeepsOthers e t "n1" ↔ ¬ SharesPath t 2 "n1" "/data") := by
  obtain ⟨e, t, hsuffix, hcall, hlive, hnodes⟩ :
      ∃ e t, e :: t <:+ (exec (Demo.layouts "/data2")).trace ∧
        callOf e = some (5, .checkpointRebindLocation 2 "n1" "/data") ∧
        (stateOf t).LiveNode "n2" ∧
        ((stateOf t).checkpoint 2).map (fun c => c.durableLocations.map (·.node)) =
          some ["n1", "n2"] :=
    exists_of_not_everyStep (by decide +kernel)
  have hrun := (exec_run _).of_suffix hsuffix
  obtain ⟨reply, hcalls⟩ := exists_calls_of_callOf hrun hcall
  exact ⟨t, e, hrun, hlive, hnodes, rebind_confined_iff hcalls⟩

/-- Two hosts with equal directory layouts. The heartbeat of the first one takes the replica of the
second, live as it is, out of the list. -/
theorem rebind_removes_replica : ∃ (t : List (Event (fabric Demo.archive)))
    (e : Event (fabric Demo.archive)), Run (e :: t) ∧
      Calls e t 5 (.checkpointRebindLocation 2 "n1" "/data") () ∧ (stateOf t).LiveNode "n1" ∧
      (stateOf t).LiveNode "n2" ∧ ¬ KeepsOthers e t "n1" := by
  obtain ⟨e, t, hsuffix, hcall, hlive₁, hlive₂, hbefore, hafter⟩ :
      ∃ e t, e :: t <:+ (exec (Demo.layouts "/data")).trace ∧
        callOf e = some (5, .checkpointRebindLocation 2 "n1" "/data") ∧
        (stateOf t).LiveNode "n1" ∧ (stateOf t).LiveNode "n2" ∧
        ((stateOf t).checkpoint 2).map (fun c => c.durableLocations.map (·.node)) =
          some ["n1", "n2"] ∧
        ((after e).checkpoint 2).map (fun c => c.durableLocations.map (·.node)) = some ["n1"] :=
    exists_of_not_everyStep (by decide +kernel)
  have hrun := (exec_run _).of_suffix hsuffix
  obtain ⟨reply, hcalls⟩ := exists_calls_of_callOf hrun hcall
  refine ⟨t, e, hrun, hcalls, hlive₁, hlive₂, fun hkeeps => ?_⟩
  obtain ⟨c, hc, hnodes⟩ := Option.map_eq_some_iff.mp hbefore
  have hn2 : "n2" ∈ c.durableLocations.map (·.node) := by
    rw [hnodes]
    simp
  obtain ⟨l, hl, hnode⟩ := List.mem_map.mp hn2
  obtain ⟨c', hc', hl'⟩ := hkeeps 2 c l hc hl (by rw [hnode]; decide) (hnode ▸ hlive₂)
  rw [hc'] at hafter
  have hnodes' : c'.durableLocations.map (·.node) = ["n1"] := Option.some.inj hafter
  have hmem : l.node ∈ c'.durableLocations.map (·.node) := List.mem_map_of_mem hl'
  rw [hnodes', hnode] at hmem
  exact absurd hmem (by decide)

end Rebinding

section Retirement

/-- The checkpoint that a call of the store gives a location to. -/
def StoreOp.relocates : StoreOp → Option Id
  | checkpointAddLocation id _ | checkpointRebindLocation id _ _ => some id
  | _ => none

/-- The event gives a location to a RETIRED checkpoint. -/
def RelocatesRetired (e : Event (fabric settings)) (past : List (Event (fabric settings))) : Prop :=
  ∃ tid op reply id c, Calls e past tid op reply ∧ op.relocates = some id ∧
    (stateOf past).checkpoint id = some c ∧ c.lifecycle = .retired

/-- A RETIRED checkpoint has no location. -/
def World.RetiredEmpty (w : World) : Prop :=
  ∀ id c, w.checkpoint id = some c → c.lifecycle = .retired →
    c.durableLocations = [] ∧ c.replicaCount = 0

/-- An event that gives no RETIRED checkpoint a location leaves the RETIRED checkpoints empty. -/
theorem retiredEmpty_step (h : Run (e :: t)) (hnot : ¬ RelocatesRetired e t)
    (hpast : (stateOf t).RetiredEmpty) : (after e).RetiredEmpty := by
  intro id c' hc' hretired
  rcases retired_cases h hc' hretired with ⟨tid, hcalls⟩ | ⟨c, hc, hbefore⟩
  · obtain ⟨c, -, -, -, hstore⟩ := Store.checkpointRetire_ok (StoreOp.of_map_ok hcalls.run)
    rw [World.checkpoint, hstore, Store.get_updateCheckpoint, if_pos rfl] at hc'
    obtain ⟨c₁, -, rfl⟩ := Option.map_eq_some_iff.mp hc'
    exact ⟨rfl, rfl⟩
  · obtain ⟨hlocations, hcount⟩ := hpast id c hc hbefore
    rcases location_cases h id with ⟨tid, op, reply, hop, hcalls, hstep⟩ | hsame
    · rw [hc, hc'] at hstep
      cases hstep with
      | kept hlocations' hcount' => exact ⟨hlocations'.trans hlocations, hcount'.trans hcount⟩
      | updated =>
        obtain ⟨request, -, hwriter⟩ := hcalls.writer h hop
        cases hwriter with
        | capture _ _ hwrites => exact absurd (hwrites.lifecycle.symm.trans hretired) (by simp)
        | restore _ hwrites | recovery hwrites | plain hwrites => exact absurd hwrites not_false
      | retired hlocations' hcount' => exact ⟨hlocations', hcount'⟩
      | added => exact absurd ⟨tid, _, _, id, c, hcalls, rfl, hc, hbefore⟩ hnot
      | rebound => exact absurd ⟨tid, _, _, id, c, hcalls, rfl, hc, hbefore⟩ hnot
    · obtain rfl := Option.some.inj (hc'.symm.trans (hsame.trans hc))
      exact ⟨hlocations, hcount⟩

/-- A checkpoint that is given a location has one, and keeps its lifecycle. -/
theorem not_retiredEmpty_of_relocates (hrelocates : RelocatesRetired e t) :
    ¬ (after e).RetiredEmpty := by
  obtain ⟨tid, op, reply, id, c, hcalls, hop, hc, hretired⟩ := hrelocates
  intro hempty
  cases op with
  | checkpointAddLocation id' location =>
    obtain rfl := Option.some.inj hop
    have hc' := checkpoint_of_add hcalls
    rw [hc] at hc'
    exact absurd (hempty id' _ hc' hretired).1 withLocation_ne_nil
  | checkpointRebindLocation id' node dataDir =>
    obtain rfl := Option.some.inj hop
    have hc' := checkpoint_of_rebind hcalls id'
    rw [if_pos rfl, hc] at hc'
    exact absurd (hempty id' _ hc' hretired).1 reboundTo_ne_nil
  | _ => exact absurd hop (by simp [StoreOp.relocates])

/-- The RETIRED checkpoints are empty throughout a run just when no call of it gives one of them a
location. -/
theorem retired_empty_iff (h : Run t) :
    (∀ t', t' <:+ t → (stateOf t').RetiredEmpty) ↔
      EveryStep (fun e past => ¬ RelocatesRetired e past) t := by
  constructor
  · intro hempty e past hsuffix hrelocates
    exact not_retiredEmpty_of_relocates hrelocates (hempty _ hsuffix)
  · intro hsteps t' hsuffix
    have hsteps' := hsteps.of_suffix hsuffix
    have hrun := h.of_suffix hsuffix
    clear hsteps hsuffix h
    induction t' with
    | nil =>
      intro id c hc
      exact absurd hc (by simp [World.checkpoint, World.initial, Store.empty])
    | cons e past ih =>
      obtain ⟨hnot, hpast⟩ := everyStep_cons.mp hsteps'
      exact retiredEmpty_step hrun hnot (ih hpast hrun.tail)

/-- The checkpoint of the small fabric is retired. -/
def Demo.retired : List (Action (fabric Demo.settings)) :=
  Demo.captured ++ Demo.alone 3 (.checkpointUnprotect 2) ++
    Demo.alone 4 (.checkpointRetire 2 Demo.operator)

/-- Nothing is located in that run after the capture, and the RETIRED checkpoint is empty. -/
theorem retired_empty_retired :
    ((stateOf (exec Demo.retired).trace).checkpoint 2).map (·.lifecycle) = some .retired ∧
      (stateOf (exec Demo.retired).trace).RetiredEmpty := by
  have hnone : EveryStep (fun e _ => (callOf e).bind (fun call => call.2.relocates) = none)
      (exec Demo.retired).trace := by
    decide +kernel
  refine ⟨by decide +kernel, (retired_empty_iff (exec_run Demo.retired)).mpr ?_ _
    (List.suffix_refl _)⟩
  rintro e past hsuffix ⟨tid, op, reply, id, c, hcalls, hop, -⟩
  have hcall : (callOf e).bind (fun call => call.2.relocates) = none := hnone e past hsuffix
  rw [hcalls.callOf_eq, Option.bind_some, hop] at hcall
  exact absurd hcall (by simp)

/-- A heartbeat reports the directory of a checkpoint that is retired while the heartbeat is
processed. -/
def Demo.lateHeartbeat : List (Action (fabric Demo.settings)) :=
  Demo.captured ++ Demo.alone 3 (.checkpointUnprotect 2) ++
    [.accept (.nodeHeartbeat ⟨"n1", "boot", 1, [], [2], []⟩)] ++
    List.replicate 4 (.advance 4 ({} : Input)) ++
    Demo.alone 5 (.checkpointRetire 2 Demo.operator) ++ [.advance 4 ({} : Input)]

/-- The heartbeat gives the RETIRED checkpoint a replica that is gone. -/
theorem retired_relocated :
    Run (exec Demo.lateHeartbeat).trace ∧
      ¬ (stateOf (exec Demo.lateHeartbeat).trace).RetiredEmpty := by
  refine ⟨exec_run _, fun hempty => ?_⟩
  have hrow : ((stateOf (exec Demo.lateHeartbeat).trace).checkpoint 2).map
      (fun c => (c.lifecycle, c.replicaCount)) = some (.retired, 1) := by
    decide +kernel
  obtain ⟨c, hc, hstate⟩ := Option.map_eq_some_iff.mp hrow
  obtain ⟨hretired, hcount⟩ := Prod.mk.inj hstate
  exact absurd ((hempty 2 c hc hretired).2.symm.trans hcount) (by decide)

end Retirement

end CheckpointFabric
