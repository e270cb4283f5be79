import CheckpointFabric.Concurrency.Links
import CheckpointFabric.Steps.Images

/-!
# The supersession links along a run

Only the metadata commit writes the links of checkpoints: it puts the checkpoint between
its nearest committed neighbours. Every other event leaves all links as they are.

## Main definitions

* `World.links` — the supersession links of the checkpoint rows
* `World.Precedes` — a checkpoint of the same workload with a smaller generation

## Main results

* `links_cases` — an event is a metadata commit, which splices, or leaves the links
* `links_follow` — the links of every reachable state follow the generations
-/

set_option autoImplicit false

namespace CheckpointFabric

open Concurrency Coordinator System

variable {settings : Settings} {t t' : List (Event (fabric settings))}
  {e : Event (fabric settings)} {tid : ℕ} {id : Id} {c c' : CheckpointObject}

/-- The supersession links of the checkpoint rows. -/
def World.links (w : World) : Links Id where
  older id := (w.checkpoint id).bind (·.supersedes)
  newer id := (w.checkpoint id).bind (·.supersededBy)

section Commit

variable {w w' : World} {attemptId : AttemptId} {owner : Workload}
  (h : w.store.CaptureCommitted id attemptId w'.store c owner)
include h

/-- A metadata commit puts its checkpoint between its neighbours. -/
theorem links_of_captureCommitted :
    w'.links = w.links.splice id (w.store.previous c.workloadId c.checkpointGeneration)
      (w.store.next c.workloadId c.checkpointGeneration) := by
  -- Only checkpoints with a row are linked.
  have hid : w.checkpoint id ≠ none := by
    rw [World.checkpoint, h.found]
    exact Option.some_ne_none _
  have hprev {k : Id} (hk : w.store.previous c.workloadId c.checkpointGeneration = some k) :
      w.checkpoint k ≠ none := by
    obtain ⟨p, hp, rfl, -⟩ := Store.previous_eq_some hk
    rw [World.checkpoint, (Store.mem_supersedable.mp hp).1]
    exact Option.some_ne_none _
  have hnext {k : Id} (hk : w.store.next c.workloadId c.checkpointGeneration = some k) :
      w.checkpoint k ≠ none := by
    obtain ⟨n, hn, rfl, -⟩ := Store.next_eq_some hk
    rw [World.checkpoint, (Store.mem_supersedable.mp hn).1]
    exact Option.some_ne_none _
  have hrow (k : Id) : w'.checkpoint k = (w.checkpoint k).map (Store.linked id _ _) :=
    h.checkpoints k
  refine Links.ext (funext fun k => ?_) (funext fun k => ?_)
  · rw [Links.older_splice, World.links, World.links]
    dsimp only
    rw [hrow]
    cases hk : w.checkpoint k with
    | none =>
      have hself : k ≠ id := fun heq => hid (heq ▸ hk)
      have hneighbour : _ ≠ some k := fun hn => hnext hn hk
      rw [if_neg hself, if_neg hneighbour]
      rfl
    | some r =>
      obtain rfl := World.checkpointId_of_row hk
      rw [Option.map_some, Option.bind_some, Option.bind_some, Store.linked]
      split <;> rfl
  · rw [Links.newer_splice, World.links, World.links]
    dsimp only
    rw [hrow]
    cases hk : w.checkpoint k with
    | none =>
      have hself : k ≠ id := fun heq => hid (heq ▸ hk)
      have hneighbour : _ ≠ some k := fun hp => hprev hp hk
      rw [if_neg hself, if_neg hneighbour]
      rfl
    | some r =>
      obtain rfl := World.checkpointId_of_row hk
      rw [Option.map_some, Option.bind_some, Option.bind_some, Store.linked]
      split <;> rfl

end Commit

/-- Rows with the same links. -/
def SameLinks (row row' : Option CheckpointObject) : Prop :=
  row'.bind (·.supersedes) = row.bind (·.supersedes) ∧
    row'.bind (·.supersededBy) = row.bind (·.supersededBy)

theorem SameLinks.of_unused {row : Option CheckpointObject} (h : ∀ c ∈ row, c.Unused)
    (h' : c'.Unused) : SameLinks row (some c') := by
  cases row with
  | none => exact ⟨h'.supersedes, h'.supersededBy⟩
  | some c =>
    have hc := h c rfl
    exact ⟨h'.supersedes.trans hc.supersedes.symm, h'.supersededBy.trans hc.supersededBy.symm⟩

/-- A call that is no metadata commit leaves the links of every row. -/
theorem sameLinks_of_calls {op : StoreOp} {reply : op.Reply} (h : Run (e :: t)) (hop : ¬ op.Reads)
    (hcalls : Calls e t tid op reply) (hcommit : ∀ id attemptId, op ≠ .captureCommit id attemptId)
    (id : Id) : SameLinks ((stateOf t).checkpoint id) ((after e).checkpoint id) := by
  obtain ⟨request, hrequest, hwriter⟩ := hcalls.writer h hop
  obtain ⟨input, rfl, -⟩ := hcalls
  have hstep := World.checkpointStep settings.codecs (.db op) input (stateOf t) id
  rw [after]
  generalize hrow : (stateOf t).checkpoint id = row at hstep ⊢
  generalize (World.handle settings.codecs (.db op) input (stateOf t)).2.checkpoint id = row' at hstep ⊢
  cases hstep with
  | inserted hid =>
    exact .of_unused (fun _ hc => absurd hc (Option.not_mem_none _))
      (early_of_writer (.inl rfl) hwriter).unused
  | updated hid =>
    obtain ⟨h₁, h₂, h₃⟩ := (early_of_writer (.inr rfl) hwriter).unused
    refine .of_unused (fun c hc => ?_) ⟨h₁, h₂, h₃⟩
    obtain rfl := Option.some.inj hc
    refine ((earlyOrPersisted_of_run h.tail id _ hrow).resolve_right fun hpersisted => ?_).unused
    exact (late_of_writer h.tail hrequest hwriter hrow hpersisted).1 _ hid rfl
  | captured | relinked => exact absurd rfl (hcommit _ _)
  | _ => exact ⟨rfl, rfl⟩

theorem links_eq_of_sameLinks {w w' : World}
    (h : ∀ id, SameLinks (w.checkpoint id) (w'.checkpoint id)) : w'.links = w.links :=
  Links.ext (funext fun id => (h id).1) (funext fun id => (h id).2)

/-- An event is a metadata commit, which puts its checkpoint between its neighbours, or leaves
all links as they are. -/
theorem links_cases (h : Run (e :: t)) :
    (∃ tid id attemptId c, Calls e t tid (.captureCommit id attemptId) () ∧
      (stateOf t).checkpoint id = some c ∧
      (after e).links = (stateOf t).links.splice id
        ((stateOf t).store.previous c.workloadId c.checkpointGeneration)
        ((stateOf t).store.next c.workloadId c.checkpointGeneration)) ∨
    (∀ tid id attemptId, ¬ Calls e t tid (.captureCommit id attemptId) ()) ∧
      (after e).links = (stateOf t).links := by
  by_cases hcommit : ∃ tid id attemptId, Calls e t tid (.captureCommit id attemptId) ()
  · obtain ⟨tid, id, attemptId, hcalls⟩ := hcommit
    obtain ⟨c, owner, hcommitted⟩ := Store.captureCommit_ok (StoreOp.of_map_ok hcalls.run)
    exact .inl ⟨tid, id, attemptId, c, hcalls, hcommitted.found,
      links_of_captureCommitted hcommitted⟩
  · refine .inr ⟨fun tid id attemptId hcalls => hcommit ⟨tid, id, attemptId, hcalls⟩, ?_⟩
    rcases calls_or_leavesTables h with ⟨tid, op, reply, hop, hcalls⟩ | ⟨⟨workloads, hsame⟩, -⟩
    · refine links_eq_of_sameLinks (sameLinks_of_calls h hop hcalls ?_)
      rintro id attemptId rfl
      exact hcommit ⟨tid, id, attemptId, hcalls⟩
    · refine links_eq_of_sameLinks fun id => ?_
      rw [World.checkpoint, World.checkpoint, hsame]
      exact ⟨rfl, rfl⟩

section Order

/-- Checkpoint `a` is of the same workload as `b`, and has a smaller generation. -/
def World.Precedes (w : World) (a b : Id) : Prop :=
  ∃ c d, w.checkpoint a = some c ∧ w.checkpoint b = some d ∧ c.workloadId = d.workloadId ∧
    c.checkpointGeneration < d.checkpointGeneration

theorem precedes_cons (h : Run (e :: t)) {a b : Id} (hprecedes : (stateOf t).Precedes a b) :
    (stateOf (e :: t)).Precedes a b := by
  obtain ⟨c, d, hc, hd, howner, hlt⟩ := hprecedes
  obtain ⟨c', hc', hsame⟩ := sameImage_of_suffix h (List.suffix_cons e t) hc
  obtain ⟨d', hd', hsame'⟩ := sameImage_of_suffix h (List.suffix_cons e t) hd
  refine ⟨c', d', hc', hd', ?_, ?_⟩
  · rw [hsame.workloadId, hsame'.workloadId, howner]
  · rw [hsame.checkpointGeneration, hsame'.checkpointGeneration]
    exact hlt

theorem precedes_of_previous {w : World} {p : Id} (hc : w.checkpoint id = some c)
    (hp : p ∈ w.store.previous c.workloadId c.checkpointGeneration) : w.Precedes p id := by
  obtain ⟨r, hr, rfl, hlt⟩ := Store.previous_eq_some hp
  obtain ⟨hrow, howner, -⟩ := Store.mem_supersedable.mp hr
  exact ⟨r, c, hrow, hc, howner, hlt⟩

theorem precedes_of_next {w : World} {n : Id} (hc : w.checkpoint id = some c)
    (hn : n ∈ w.store.next c.workloadId c.checkpointGeneration) : w.Precedes id n := by
  obtain ⟨r, hr, rfl, hlt⟩ := Store.next_eq_some hn
  obtain ⟨hrow, howner, -⟩ := Store.mem_supersedable.mp hr
  exact ⟨c, r, hc, hrow, howner.symm, hlt⟩

/-- The links of every reachable state follow the generations within one workload. -/
theorem links_follow (h : Run t) : (stateOf t).links.Follows (stateOf t).Precedes := by
  induction t with
  | nil => exact ⟨nofun, nofun⟩
  | cons e t ih =>
    have hfollows := (ih h.tail).mono fun a b => precedes_cons h
    rw [stateOf_cons e t] at hfollows ⊢
    rcases links_cases h with ⟨tid, id, attemptId, c, -, hc, hlinks⟩ | ⟨-, hlinks⟩
    · rw [hlinks]
      exact hfollows.splice (fun p hp => precedes_cons h (precedes_of_previous hc hp))
        fun n hn => precedes_cons h (precedes_of_next hc hn)
    · rw [hlinks]
      exact hfollows

/-- The generation of a checkpoint, 0 when it has no row. -/
def World.generationOf (w : World) (id : Id) : ℕ :=
  ((w.checkpoint id).map (·.checkpointGeneration)).getD 0

theorem World.Precedes.generationOf_lt {w : World} {a b : Id} (h : w.Precedes a b) :
    w.generationOf a < w.generationOf b := by
  obtain ⟨c, d, hc, hd, -, hlt⟩ := h
  simpa [generationOf, hc, hd] using hlt

/-- The greatest generation of all checkpoints. -/
def World.latestGeneration (w : World) : ℕ :=
  (w.store.checkpoints.rows.map (·.checkpointGeneration)).foldr max 0

theorem World.Precedes.generationOf_le {w : World} {a b : Id} (h : w.Precedes a b) :
    w.generationOf b ≤ w.latestGeneration := by
  obtain ⟨c, d, -, hd, -⟩ := h
  rw [generationOf, hd, Option.map_some, Option.getD_some]
  exact List.le_max_of_le' _ (List.mem_map_of_mem (Table.mem_of_get hd)) (Nat.le_refl _)

theorem World.wellFounded_precedes (w : World) : WellFounded w.Precedes :=
  Subrelation.wf (fun h => h.generationOf_lt) (measure w.generationOf).wf

theorem World.wellFounded_flip_precedes (w : World) : WellFounded fun b a => w.Precedes a b := by
  refine Subrelation.wf (fun {b a} h => ?_)
    (measure fun id => w.latestGeneration - w.generationOf id).wf
  show w.latestGeneration - w.generationOf b < w.latestGeneration - w.generationOf a
  have := h.generationOf_lt
  have := h.generationOf_le
  omega

end Order

end CheckpointFabric
