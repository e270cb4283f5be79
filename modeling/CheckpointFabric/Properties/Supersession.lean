import CheckpointFabric.Steps.Links

/-!
# Supersession

The supersession links never leave their workload and follow the generations, so they
come to an end. They are answered by each other exactly as long as every metadata commit
finds nothing else linked where it puts its checkpoint: the links of a checkpoint that was
retired stay, and the next commit takes its neighbours away from it.

## Main definitions

* `LinksFit` — a metadata commit finds nothing else linked at the place of its checkpoint

## Main results

* `supersession_ordered` — the links follow the generations, and end
* `supersession_reciprocal` — they are reciprocal exactly while all commits fit
* `retired_keeps_link` — a run that leaves a link without an answer
-/

set_option autoImplicit false

namespace CheckpointFabric

open Concurrency Coordinator System

variable {settings : Settings} {t : List (Event (fabric settings))} {e : Event (fabric settings)}
  {id : Id} {c : CheckpointObject}

/-- In every state of every run, every link goes to a checkpoint of the same workload, down or up
in its generation, and following the links of one kind comes to an end. -/
theorem supersession_ordered (h : Run t) :
    (stateOf t).links.Follows (stateOf t).Precedes ∧
      WellFounded (fun b a => (stateOf t).links.older a = some b) ∧
      WellFounded (fun b a => (stateOf t).links.newer a = some b) :=
  ⟨links_follow h, (links_follow h).wellFounded_older (stateOf t).wellFounded_precedes,
    (links_follow h).wellFounded_newer (stateOf t).wellFounded_flip_precedes⟩

/-- The workload of the small fabric, captured twice. -/
def Demo.capturedTwice : List (System.Action (fabric archive)) :=
  serially [.capture 7 {} operator, .capture 7 {} operator]

/-- The newer of the two checkpoints is retired, and the workload captured again. -/
def Demo.capturedAfterRetire : List (System.Action (fabric archive)) :=
  serially [.capture 7 {} operator, .capture 7 {} operator, .checkpointUnprotect 4,
    .checkpointRetire 4 operator, .capture 7 {} operator]

/-- The second checkpoint is linked to the first one. -/
theorem supersession_ordered_captured :
    (stateOf (exec Demo.capturedTwice).trace).links.older 4 = some 2 ∧
      (stateOf (exec Demo.capturedTwice).trace).Precedes 2 4 := by
  have hlinked : (stateOf (exec Demo.capturedTwice).trace).links.older 4 = some 2 := by
    decide +kernel
  exact ⟨hlinked, (supersession_ordered (exec_run _)).1.older 4 2 hlinked⟩

section Reciprocal

/-- The checkpoint whose metadata the event commits. -/
def committedId : Event (fabric settings) → Option Id
  | .performed _ (.db (.captureCommit id attemptId)) input before =>
    if (World.handle settings.codecs (.db (.captureCommit id attemptId)) input
        before).1.toOption.isSome then some id
    else none
  | _ => none

theorem committedId_of_calls {tid : ℕ} {attemptId : AttemptId}
    (h : Calls e t tid (.captureCommit id attemptId) ()) : committedId e = some id := by
  obtain ⟨input, rfl, hreply⟩ := h
  rw [committedId, hreply]
  rfl

/-- If the event commits a checkpoint, its row may be put between its neighbours: its own links
name no others, and they are linked to nothing but each other and the checkpoint. -/
def LinksFit (e : Event (fabric settings)) (past : List (Event (fabric settings))) : Prop :=
  ∀ id ∈ committedId e, ∀ c ∈ (stateOf past).checkpoint id, (stateOf past).links.Fits id
    ((stateOf past).store.previous c.workloadId c.checkpointGeneration)
    ((stateOf past).store.next c.workloadId c.checkpointGeneration)

instance (e : Event (fabric settings)) (past : List (Event (fabric settings))) :
    Decidable (LinksFit e past) := by
  unfold LinksFit
  infer_instance

theorem committedId_eq_some (h : Run (e :: t)) (hid : committedId e = some id) :
    ∃ tid attemptId, Calls e t tid (.captureCommit id attemptId) () := by
  unfold committedId at hid
  split at hid
  · rename_i tid id' attemptId input before
    split at hid
    · rename_i hreply
      obtain rfl := Option.some.inj hid
      cases h with
      | perform input =>
        refine ⟨tid, attemptId, input, rfl, ?_⟩
        cases hanswer : (World.handle settings.codecs (.db (.captureCommit id' attemptId)) input
            (stateOf t)).1 with
        | error err => simp [hanswer, Except.toOption] at hreply
        | ok reply => rfl
    · cases hid
  · cases hid

theorem not_precedes_self {w : World} : ¬ w.Precedes id id :=
  fun h => Nat.lt_irrefl _ h.generationOf_lt

/-- A commit leaves the links reciprocal exactly if it fits. -/
theorem reciprocal_cons_iff (h : Run (e :: t)) (hreciprocal : (stateOf t).links.Reciprocal) :
    (stateOf (e :: t)).links.Reciprocal ↔ LinksFit e t := by
  rw [stateOf_cons]
  rcases links_cases h with ⟨tid, id, attemptId, c, hcalls, hc, hlinks⟩ | ⟨hcommit, hlinks⟩
  · rw [hlinks, Links.reciprocal_splice_iff hreciprocal
      (fun hself => not_precedes_self ((links_follow h.tail).older id id hself))
      (fun hself => not_precedes_self (precedes_of_previous hc hself))
      (fun hself => not_precedes_self (precedes_of_next hc hself))]
    have hid := committedId_of_calls hcalls
    constructor
    · intro hfits id' hid' c' hc'
      obtain rfl := Option.some.inj (hid.symm.trans hid')
      obtain rfl := Option.some.inj (hc.symm.trans hc')
      exact hfits
    · exact fun hfits => hfits id hid c hc
  · rw [hlinks]
    refine iff_of_true hreciprocal fun id hid => ?_
    obtain ⟨tid, attemptId, hcalls⟩ := committedId_eq_some h hid
    exact absurd hcalls (hcommit tid id attemptId)

/-- The links are reciprocal in every state of a run exactly if every metadata commit of the run
finds nothing else linked at the place of its checkpoint. -/
theorem supersession_reciprocal (h : Run t) :
    (∀ t', t' <:+ t → (stateOf t').links.Reciprocal) ↔ EveryStep LinksFit t := by
  constructor
  · intro hall e past hsuffix
    have hpast := hall past ((List.suffix_cons e past).trans hsuffix)
    exact (reciprocal_cons_iff (h.of_suffix hsuffix) hpast).mp (hall _ hsuffix)
  · intro hfits t' hsuffix
    induction t' with
    | nil => exact fun a b => iff_of_false nofun nofun
    | cons e past ih =>
      have hpast := ih ((List.suffix_cons e past).trans hsuffix)
      exact (reciprocal_cons_iff (h.of_suffix hsuffix) hpast).mpr (hfits e past hsuffix)

/-- The captures of a small fabric leave every link answered. -/
theorem supersession_reciprocal_captured :
    (stateOf (exec Demo.capturedTwice).trace).links.Reciprocal :=
  (supersession_reciprocal (exec_run _)).mpr (by decide +kernel) _ (List.suffix_refl _)

/-- Checkpoint 4 supersedes checkpoint 2 and is retired. The next capture takes its place: 4 still
names 2, and 2 names the new one. -/
theorem retired_keeps_link : ∃ t : List (Event (fabric Demo.archive)), Run t ∧
    (stateOf t).links.older 4 = some 2 ∧ (stateOf t).links.newer 2 = some 6 ∧
    ¬ (stateOf t).links.Reciprocal := by
  refine ⟨_, exec_run Demo.capturedAfterRetire, ?_⟩
  have holder : (stateOf (exec Demo.capturedAfterRetire).trace).links.older 4 = some 2 := by
    decide +kernel
  have hnewer : (stateOf (exec Demo.capturedAfterRetire).trace).links.newer 2 = some 6 := by
    decide +kernel
  exact ⟨holder, hnewer, fun h => nomatch hnewer.symm.trans ((h 4 2).mp holder)⟩

end Reciprocal

end CheckpointFabric
