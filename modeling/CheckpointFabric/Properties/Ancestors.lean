import CheckpointFabric.Lineage
import CheckpointFabric.Walks
import Mathlib.Data.Finset.Card

/-!
# The ancestors of a checkpoint

The path remembers which ancestors it has visited, and so always comes to an end. It does not
remember the checkpoint that it started at: what is stored as a change of a full checkpoint may be
recorded as the parent of that very checkpoint, and then it is its own ancestor.

## Main definitions

* `Ancestors` — what the path of a checkpoint should be
* `LoopFree` — the path comes to an end, and is that list without repetitions and without the
  checkpoint itself
* `SelfAncestor` — the checkpoint is reached from its parent, and the path ends below it

## Main results

* `ancestorsFrom_eq_ok_iff` — what the loop returns
* `exists_isSome_ancestorPath` — it comes to an end
* `loopFree_iff` — the path of a checkpoint is free of loops iff it is not an ancestor of itself
* `selfAncestor_iff` — where the checkpoint is stored under its id, that takes a full checkpoint
-/

set_option autoImplicit false

namespace CheckpointFabric.AncestorPath

open Lineage Walks

variable {get : Id → FabricResult (Option CheckpointObject)} {c d : CheckpointObject} {fuel : ℕ}
  {seen path ids : List Id} {current : Option Id} {id : Id}

/-- The ids of sixteen bytes. -/
def idBound : ℕ := Nat.pow 2 128

/-- The ids that `c` and the stored checkpoints record are of sixteen bytes. -/
structure RecordsIds (get : Id → FabricResult (Option CheckpointObject)) (c : CheckpointObject) :
    Prop where
  start : ∀ id ∈ c.parentCheckpoint, id < idBound
  stored : ∀ parent d, get parent = .ok (some d) → ∀ id ∈ d.parentCheckpoint, id < idBound

/-- The successive ancestors of `c`: each but the last is stored as a change of the next one, and
the last has no parent or is neither incremental nor a delta. -/
structure Ancestors (get : Id → FabricResult (Option CheckpointObject)) (c : CheckpointObject)
    (ids : List Id) : Prop where
  start : ids.head? = c.parentCheckpoint
  linked : ids.IsChain fun a b =>
    ∃ d, get a = .ok (some d) ∧ isIncremental d ∧ d.parentCheckpoint = some b
  ends : ∀ last ∈ ids.getLast?,
    ∃ d, get last = .ok (some d) ∧ (d.parentCheckpoint = none ∨ ¬ isIncremental d)

/-- The ancestor path comes to an end, and where it succeeds it is the list of the ancestors:
distinct ones, none of which is the checkpoint. -/
structure LoopFree (get : Id → FabricResult (Option CheckpointObject)) (c : CheckpointObject) :
    Prop where
  terminates : ∃ fuel, (ancestorPath get fuel c).isSome
  successive : ∀ fuel ids, ancestorPath get fuel c = some (.ok ids) → Ancestors get c ids
  distinct : ∀ fuel ids, ancestorPath get fuel c = some (.ok ids) → ids.Nodup
  proper : ∀ fuel ids, ancestorPath get fuel c = some (.ok ids) → c.checkpointId ∉ ids

/-- Following the links of incremental checkpoints, the parent of `c` leads to `c` and from there
to a checkpoint where the links stop. -/
def SelfAncestor (get : Id → FabricResult (Option CheckpointObject)) (c : CheckpointObject) :
    Prop :=
  ∃ parent ∈ c.parentCheckpoint,
    Relation.ReflTransGen (Link (ancestorBase get)) parent c.checkpointId ∧
    ∃ last, Relation.ReflTransGen (Link (ancestorBase get)) c.checkpointId last ∧
      Stops (ancestorBase get) last

section Links

theorem ancestorBase_eq_ok_iff :
    ancestorBase get id = .ok current ↔ ∃ d, get id = .ok (some d) ∧ chainBase d = current := by
  unfold ancestorBase
  cases get id with
  | error e => simp [bind, Except.bind]
  | ok found => cases found <;> simp [bind, Except.bind]

theorem link_iff {a b : Id} : Link (ancestorBase get) a b ↔
    ∃ d, get a = .ok (some d) ∧ isIncremental d ∧ d.parentCheckpoint = some b := by
  simp only [Link, ancestorBase_eq_ok_iff, chainBase_eq_some_iff]

theorem stops_iff : Stops (ancestorBase get) id ↔
    ∃ d, get id = .ok (some d) ∧ (d.parentCheckpoint = none ∨ ¬ isIncremental d) := by
  simp only [Stops, ancestorBase_eq_ok_iff, chainBase_eq_none_iff]
  refine exists_congr fun d => and_congr_right fun _ => ?_
  tauto

/-- The ancestors are the places that following the links visits. -/
theorem ancestors_iff :
    Ancestors get c ids ↔ Follows (ancestorBase get) c.parentCheckpoint ids := by
  rw [follows_iff]
  have hlinks : Link (ancestorBase get) = fun a b =>
      ∃ d, get a = .ok (some d) ∧ isIncremental d ∧ d.parentCheckpoint = some b :=
    funext₂ fun _ _ => propext link_iff
  simp only [hlinks, stops_iff]
  exact ⟨fun ⟨h, h', h''⟩ => ⟨h, h', h''⟩, fun ⟨h, h', h''⟩ => ⟨h, h', h''⟩⟩

end Links

section Loop

theorem ancestorsFrom_none : ancestorsFrom get fuel seen path none = some (.ok path) := by
  unfold ancestorsFrom
  rfl

theorem ancestorsFrom_none_eq_ok_iff : ancestorsFrom get fuel seen path none = some (.ok ids) ↔
    ∃ visited, Follows (ancestorBase get) none visited ∧ ids = path ++ visited ∧
      visited.length ≤ fuel ∧ ∀ a ∈ visited, a ∉ seen := by
  rw [ancestorsFrom_none, Option.some.injEq, Except.ok.injEq]
  constructor
  · intro h
    exact ⟨[], .done, by simp [h], Nat.zero_le _, by simp⟩
  · rintro ⟨visited, hfollows, rfl, -, -⟩
    cases hfollows
    simp

/-- The loop returns what following the links visits, where nothing of that was seen. -/
theorem ancestorsFrom_eq_ok_iff : ancestorsFrom get fuel seen path current = some (.ok ids) ↔
    ∃ visited, Follows (ancestorBase get) current visited ∧ ids = path ++ visited ∧
      visited.length ≤ fuel ∧ ∀ a ∈ visited, a ∉ seen := by
  -- By induction on the fuel: the ids seen so far stay outside what is still to be visited.
  induction fuel generalizing seen path current with
  | zero =>
    cases current with
    | none => exact ancestorsFrom_none_eq_ok_iff
    | some id =>
      refine ⟨by rintro ⟨⟩, ?_⟩
      rintro ⟨visited, hfollows, -, hlength, -⟩
      cases hfollows
      cases hlength
  | succ fuel ih =>
    cases current with
    | none => exact ancestorsFrom_none_eq_ok_iff
    | some id =>
      unfold ancestorsFrom
      by_cases hseen : id ∈ seen
      · rw [if_pos hseen]
        refine ⟨by rintro ⟨⟩, ?_⟩
        rintro ⟨visited, hfollows, -, -, hfresh⟩
        cases hfollows with
        | step hbase rest => exact absurd hseen (hfresh id (.head _))
      rw [if_neg hseen]
      constructor
      · intro h
        cases hbase : ancestorBase get id with
        | error e =>
          rw [hbase] at h
          cases h
        | ok next =>
          rw [hbase] at h
          obtain ⟨visited, hfollows, rfl, hlength, hfresh⟩ := ih.mp h
          refine ⟨id :: visited, .step hbase hfollows, by simp, Nat.succ_le_succ hlength, ?_⟩
          refine List.forall_mem_cons.mpr ⟨hseen, fun a ha hmem => ?_⟩
          exact hfresh a ha (.tail _ hmem)
      · rintro ⟨visited, hfollows, rfl, hlength, hfresh⟩
        have hnodup := hfollows.nodup
        cases hfollows with
        | @step _ next visited hbase rest =>
          rw [hbase]
          refine ih.mpr ⟨visited, rest, by simp, Nat.le_of_succ_le_succ hlength, ?_⟩
          intro a ha hmem
          rcases List.mem_cons.mp hmem with rfl | hmem
          · exact (List.nodup_cons.mp hnodup).1 ha
          · exact hfresh a (.tail _ ha) hmem

/-- What the ancestor path returns. -/
theorem ancestorPath_eq_ok_iff : ancestorPath get fuel c = some (.ok ids) ↔
    Ancestors get c ids ∧ ids.length ≤ fuel := by
  unfold ancestorPath
  rw [ancestorsFrom_eq_ok_iff, ancestors_iff]
  constructor
  · rintro ⟨visited, hfollows, rfl, hlength, -⟩
    exact ⟨hfollows, hlength⟩
  · rintro ⟨hfollows, hlength⟩
    exact ⟨ids, hfollows, rfl, hlength, by simp⟩

/-- Distinct ids of sixteen bytes are not more than there are. -/
theorem length_le_idBound (hnodup : seen.Nodup) (hfit : ∀ a ∈ seen, a < idBound) :
    seen.length ≤ idBound := by
  have hsubset : seen.toFinset ⊆ Finset.range idBound := by
    intro a ha
    exact Finset.mem_range.mpr (hfit a (List.mem_toFinset.mp ha))
  have hcard := Finset.card_le_card hsubset
  rwa [List.toFinset_card_of_nodup hnodup, Finset.card_range] at hcard

/-- With more fuel than there are ids left, the loop comes to an end. -/
theorem isSome_ancestorsFrom (hids : RecordsIds get c) (hnodup : seen.Nodup)
    (hfit : ∀ a ∈ seen, a < idBound) (hcurrent : ∀ id ∈ current, id < idBound)
    (hfuel : idBound < fuel + seen.length) :
    (ancestorsFrom get fuel seen path current).isSome := by
  -- Each round visits an id that was not seen, and there are no more ids than the bound.
  induction fuel generalizing seen path current with
  | zero =>
    have hlength := length_le_idBound hnodup hfit
    omega
  | succ fuel ih =>
    cases current with
    | none => simp [ancestorsFrom_none]
    | some id =>
      unfold ancestorsFrom
      split
      · rfl
      · rename_i hseen
        cases hbase : ancestorBase get id with
        | error e => rfl
        | ok next =>
          refine ih (List.nodup_cons.mpr ⟨hseen, hnodup⟩)
            (List.forall_mem_cons.mpr ⟨hcurrent id rfl, hfit⟩) (fun parent hparent => ?_) ?_
          · obtain ⟨d, hfound, hchain⟩ := ancestorBase_eq_ok_iff.mp hbase
            have hrecorded := (chainBase_eq_some_iff.mp (hchain.trans hparent)).2
            exact hids.stored id d hfound parent hrecorded
          · rw [List.length_cons]
            omega

/-- The ancestor path comes to an end. -/
theorem exists_isSome_ancestorPath (hids : RecordsIds get c) :
    ∃ fuel, (ancestorPath get fuel c).isSome :=
  ⟨idBound + 1, isSome_ancestorsFrom hids List.nodup_nil (by simp) hids.start (by simp)⟩

/-- A checkpoint is on a path of its ancestors iff it is an ancestor of itself. -/
theorem exists_ancestors_mem_iff :
    (∃ ids, Ancestors get c ids ∧ c.checkpointId ∈ ids) ↔ SelfAncestor get c := by
  simp only [ancestors_iff, SelfAncestor]
  cases hparent : c.parentCheckpoint with
  | none =>
    simp only [Option.mem_def, reduceCtorEq, false_and, exists_false, iff_false]
    rintro ⟨ids, hfollows, hmem⟩
    cases hfollows
    cases hmem
  | some parent => simp [exists_follows_mem_iff]

end Loop

/-- For every graph and every checkpoint whose ids are of sixteen bytes: the ancestor path is free
of loops iff the checkpoint is not an ancestor of itself. -/
theorem loopFree_iff (get : Id → FabricResult (Option CheckpointObject)) (c : CheckpointObject)
    (hids : RecordsIds get c) : LoopFree get c ↔ ¬ SelfAncestor get c := by
  constructor
  · intro hfree hself
    obtain ⟨ids, hancestors, hmem⟩ := exists_ancestors_mem_iff.mpr hself
    have hpath := ancestorPath_eq_ok_iff.mpr ⟨hancestors, le_rfl⟩
    exact hfree.proper ids.length ids hpath hmem
  · intro hself
    constructor
    · exact exists_isSome_ancestorPath hids
    · exact fun fuel ids h => (ancestorPath_eq_ok_iff.mp h).1
    · exact fun fuel ids h => (ancestors_iff.mp (ancestorPath_eq_ok_iff.mp h).1).nodup
    · intro fuel ids h hmem
      exact hself (exists_ancestors_mem_iff.mp ⟨ids, (ancestorPath_eq_ok_iff.mp h).1, hmem⟩)

/-- Where the checkpoint is stored under its own id, it is an ancestor of itself iff it is not
stored as a change and its parent leads to it. -/
theorem selfAncestor_iff (hstored : get c.checkpointId = .ok (some c)) : SelfAncestor get c ↔
    ¬ isIncremental c ∧ ∃ parent ∈ c.parentCheckpoint,
      Relation.ReflTransGen (Link (ancestorBase get)) parent c.checkpointId := by
  constructor
  · rintro ⟨parent, hparent, hreach, last, hbelow, hstops⟩
    refine ⟨fun hincremental => ?_, parent, hparent, hreach⟩
    -- An incremental checkpoint goes on to its parent, so the walk would pass it twice.
    have hlink : Link (ancestorBase get) c.checkpointId parent :=
      link_iff.mpr ⟨c, hstored, hincremental, hparent⟩
    obtain ⟨visited, hfollows, hmem⟩ := exists_follows_mem_iff.mpr ⟨hreach, last, hbelow, hstops⟩
    exact (List.nodup_cons.mp (Follows.step hlink hfollows).nodup).1 hmem
  · rintro ⟨hfull, parent, hparent, hreach⟩
    exact ⟨parent, hparent, hreach, c.checkpointId, .refl, stops_iff.mpr ⟨c, hstored, .inr hfull⟩⟩

/-- A full checkpoint, recorded with a parent. -/
def Demo.rebased : CheckpointObject :=
  { Lineage.Demo.orphan with checkpointType := .full, parentCheckpoint := some 2 }

/-- The parent, stored as a change of that full checkpoint. -/
def Demo.change : CheckpointObject :=
  { Lineage.Demo.orphan with checkpointId := 2, parentCheckpoint := some 1 }

/-- The two are each other's parent. -/
def Demo.entwined : Id → FabricResult (Option CheckpointObject) := fun id =>
  .ok (if id = 1 then some Demo.rebased else if id = 2 then some Demo.change else none)

theorem recordsIds_entwined : RecordsIds Demo.entwined Demo.rebased := by
  constructor
  · decide +kernel
  · intro parent d hfound
    unfold Demo.entwined at hfound
    split_ifs at hfound
    · cases hfound
      decide +kernel
    · cases hfound
      decide +kernel
    · cases hfound

/-- The full checkpoint is listed among its own ancestors. -/
theorem rebased_not_loopFree : ¬ LoopFree Demo.entwined Demo.rebased := by
  intro hfree
  exact hfree.proper 2 [2, 1] (by decide +kernel) (by decide +kernel)

/-- It is reached from its parent. -/
theorem rebased_selfAncestor :
    RecordsIds Demo.entwined Demo.rebased ∧ SelfAncestor Demo.entwined Demo.rebased := by
  refine ⟨recordsIds_entwined, not_not.mp fun hself => ?_⟩
  have hfree := (loopFree_iff Demo.entwined Demo.rebased recordsIds_entwined).mpr hself
  exact hfree.proper 2 [2, 1] (by decide +kernel) (by decide +kernel)

end CheckpointFabric.AncestorPath
