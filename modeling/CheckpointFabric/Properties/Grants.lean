import CheckpointFabric.Authority
import CheckpointFabric.Fabric

/-!
# A node's view of its authority

While a node stays attached to a workload the epoch that it has recorded should only grow. A grant
is recorded whatever it carries, though, and so is the reply to an attach: one that was held up, and
comes after a newer one, takes its place.

## Main definitions

* `ViewMonotone` — the recorded epochs never decrease while the node stays attached
* `NodeState.Outdated` — a grant is older than the claim that the node has recorded

## Main results

* `view_monotone_iff` — the view is monotone just when no grant is outdated when it is processed
-/

set_option autoImplicit false

namespace CheckpointFabric

variable {codecs : Codecs} {node : NodeState} {e : NodeEvent} {events : List NodeEvent} {id : Id}
  {a a' : AttachedWorkload}

section Definitions

/-- The event brings a grant that is older than the claim that the node has recorded. -/
def NodeState.Outdated (node : NodeState) (e : NodeEvent) : Prop :=
  ∃ g ∈ node.grantOf e, ∃ a ∈ node.authority g.1, g.2.executionEpoch < a.executionEpoch

instance (node : NodeState) (e : NodeEvent) : Decidable (node.Outdated e) := by
  unfold NodeState.Outdated
  infer_instance

/-- The node is attached to the workload before, between and after the events. -/
def AttachedThroughout (codecs : Codecs) (id : Id) : NodeState → List NodeEvent → Prop
  | node, [] => (node.authority id).isSome
  | node, e :: events =>
    (node.authority id).isSome ∧ AttachedThroughout codecs id (node.process codecs e) events

/-- Over every stretch of events during which the node stays attached to a workload, the epoch that
it has recorded does not decrease. -/
def ViewMonotone (codecs : Codecs) (node : NodeState) (events : List NodeEvent) : Prop :=
  ∀ before stretch rest, events = before ++ stretch ++ rest →
    ∀ id, AttachedThroughout codecs id (node.processAll codecs before) stretch →
      ∀ a a', (node.processAll codecs before).authority id = some a →
        (node.processAll codecs (before ++ stretch)).authority id = some a' →
        a.executionEpoch ≤ a'.executionEpoch

end Definitions

/-- An event that brings no outdated grant does not take an epoch back. -/
theorem executionEpoch_le_of_process (h : ¬ node.Outdated e) (ha : node.authority id = some a)
    (ha' : (node.process codecs e).authority id = some a') :
    a.executionEpoch ≤ a'.executionEpoch := by
  rw [NodeState.authority_process] at ha'
  cases hgrant : node.grantOf e with
  | none =>
    rw [hgrant] at ha'
    dsimp only at ha'
    split at ha'
    · exact absurd ha' (by simp)
    · rw [Option.some.inj (ha.symm.trans ha')]
  | some g =>
    rw [hgrant] at ha'
    dsimp only at ha'
    split at ha'
    · rename_i hid
      obtain rfl := Option.some.inj ha'
      by_contra hlt
      exact h ⟨g, hgrant, a, hid ▸ ha, Nat.lt_of_not_le hlt⟩
    · rw [Option.some.inj (ha.symm.trans ha')]

/-- Neither does a stretch of such events. -/
theorem executionEpoch_le_of_processAll
    (h : ∀ before e rest, events = before ++ e :: rest →
      ¬ (node.processAll codecs before).Outdated e)
    (hattached : AttachedThroughout codecs id node events) (ha : node.authority id = some a)
    (ha' : (node.processAll codecs events).authority id = some a') :
    a.executionEpoch ≤ a'.executionEpoch := by
  induction events generalizing node a with
  | nil => rw [Option.some.inj (ha.symm.trans ha')]
  | cons e events ih =>
    obtain ⟨-, hrest⟩ := hattached
    have hfirst : ((node.process codecs e).authority id).isSome := by
      cases events with
      | nil => exact hrest
      | cons e' events => exact hrest.1
    obtain ⟨a₁, ha₁⟩ := Option.isSome_iff_exists.mp hfirst
    calc a.executionEpoch
        ≤ a₁.executionEpoch := executionEpoch_le_of_process (h [] e events rfl) ha ha₁
      _ ≤ a'.executionEpoch := by
        refine ih (fun before e' rest hsplit => ?_) hrest ha₁ ha'
        exact h (e :: before) e' rest (congrArg (e :: ·) hsplit)

/-- An event that brings an outdated grant does. -/
theorem exists_lt_of_outdated (h : node.Outdated e) :
    ∃ id a a', node.authority id = some a ∧ (node.process codecs e).authority id = some a' ∧
      a'.executionEpoch < a.executionEpoch := by
  obtain ⟨g, hgrant, a, ha, hlt⟩ := h
  refine ⟨g.1, a, g.2, ha, ?_, hlt⟩
  rw [NodeState.authority_process, hgrant]
  exact if_pos rfl

/-- It takes the epoch back in a single step. -/
theorem not_viewMonotone_of_outdated {before rest : List NodeEvent}
    (h : (node.processAll codecs before).Outdated e) :
    ¬ ViewMonotone codecs node (before ++ e :: rest) := by
  intro hmonotone
  obtain ⟨id, a, a', ha, ha', hlt⟩ := @exists_lt_of_outdated codecs _ _ h
  have hle := hmonotone before [e] rest (by simp) id ⟨?_, ?_⟩ a a' ha ?_
  · exact Nat.not_le.mpr hlt hle
  · exact Option.isSome_iff_exists.mpr ⟨a, ha⟩
  · exact Option.isSome_iff_exists.mpr ⟨a', ha'⟩
  · rw [NodeState.processAll_append]
    exact ha'

/-- **A monotone view of authority.** Whatever a node processes, and in whatever order: the epochs
it records grow while it stays attached exactly when every grant is at least as new as the claim
that it finds. -/
theorem view_monotone_iff :
    ViewMonotone codecs node events ↔
      ∀ before e rest, events = before ++ e :: rest →
        ¬ (node.processAll codecs before).Outdated e := by
  constructor
  · rintro hmonotone before e rest rfl houtdated
    exact not_viewMonotone_of_outdated houtdated hmonotone
  · rintro hgrants before stretch rest rfl id hattached a a' ha ha'
    rw [NodeState.processAll_append] at ha'
    refine executionEpoch_le_of_processAll (fun before' e rest' hsplit => ?_) hattached ha ha'
    rw [← NodeState.processAll_append]
    exact hgrants (before ++ before') e (rest' ++ rest) (by simp [hsplit])

open Concurrency System

/-- The grant of a first restore is held up, and the coordinator gives it up. The workload is
captured again, and the new checkpoint is restored. -/
def Demo.heldUp : List (Action (fabric Demo.archive)) :=
  Demo.serially [.capture 7 {} operator] ++ [.accept (.restore 2 "n1" {} operator)] ++
    List.replicate 24 (.advance 4 ({} : Input)) ++
    [.advance 4 ({ delivery := .late (.timeout "transport idle timeout") } : Input)] ++
    List.replicate 10 (.advance 4 ({} : Input)) ++
    [(5, Request.capture 7 {} operator), (6, Request.restore 6 "n1" {} operator)].flatMap
      fun (tid, request) => .accept request :: List.replicate 40 (.advance tid ({} : Input))

/-- The first grant is still on its way, and takes the place of the second. -/
theorem late_grant_replaces : ∃ t : List (Event (fabric Demo.archive)), Run t ∧
    ∃ late ∈ (stateOf t).inFlight, late.node = "n1" ∧
      ¬ ViewMonotone Demo.archive.codecs ((stateOf t).nodes "n1")
        [.message late.epoch {} late.request] := by
  obtain ⟨t, hrun, late, hlate, hnode, houtdated⟩ : ∃ t : List (Event (fabric Demo.archive)),
      Run t ∧ ∃ late ∈ (stateOf t).inFlight, late.node = "n1" ∧
        ((stateOf t).nodes "n1").Outdated (.message late.epoch {} late.request) :=
    ⟨_, exec_run Demo.heldUp, by decide +kernel⟩
  exact ⟨t, hrun, late, hlate, hnode, @not_viewMonotone_of_outdated _ _ _ [] [] houtdated⟩

end CheckpointFabric
