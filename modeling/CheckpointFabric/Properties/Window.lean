import CheckpointFabric.Properties.Evidence
import CheckpointFabric.Properties.Protection

/-!
# The window of protected generations

A policy asks for the most recent generations of a workload to be protected. A capture compares its
own generation with the window below the marker that it has read, and protects its checkpoint: no
marker is ever ahead of the latest generation. Nothing looks at the older checkpoints again, so the
window only grows.

## Main definitions

* `Windowed` — just the most recently committed generations are protected
* `Unhandled` — no request has set a protection, or taken one away

## Main results

* `protected_of_committed` — every committed checkpoint is protected
* `windowed_iff` — so the window is right as long as it has room for all of them
-/

set_option autoImplicit false

namespace CheckpointFabric

open Concurrency Coordinator Fabric System

variable {settings : Settings} {t : List (Event (fabric settings))} {e : Event (fabric settings)}
  {id workloadId : Id} {c : CheckpointObject}

section Definitions

/-- Of the committed generations of every workload, just the `k` most recent ones are protected: a
checkpoint is protected iff fewer than `k` of them are above its own. -/
def Windowed (k : ℕ) (w : World) : Prop :=
  ∀ id c, w.checkpoint id = some c → w.store.Journaled .capture c.captureAttempt .dbCommitted →
    (c.protection ≠ .none ↔
      ((w.committedGenerations c.workloadId).filter fun g => c.checkpointGeneration < g).length < k)

/-- The event sets a protection, or takes one away. -/
def SetsProtection (e : Event (fabric settings)) : Prop :=
  match (callOf e).map Prod.snd with
  | some (.checkpointSetProtection _ _) => True
  | _ => False

instance (e : Event (fabric settings)) : Decidable (SetsProtection e) := by
  unfold SetsProtection
  split
  · exact isTrue trivial
  · exact isFalse not_false

/-- No event of the run does. -/
def Unhandled (t : List (Event (fabric settings))) : Prop :=
  EveryStep (fun e _ => ¬ SetsProtection e) t

end Definitions

section Committed

theorem not_set_of_not_setsProtection {p : ProtectionState} (h : ¬ SetsProtection e) :
    writeOf id e ≠ some (.set p) := by
  intro hwrite
  obtain ⟨⟨tid, op⟩, hcall, hop⟩ := Option.bind_eq_some_iff.mp hwrite
  cases op with
  | checkpointSetProtection id' p' => exact h (by rw [SetsProtection, hcall]; trivial)
  | checkpointInsert | checkpointUpdate | checkpointRetire => simp [StoreOp.columnWrite] at hop
  | _ => cases hop

/-- Unless somebody takes its protection away, every committed checkpoint is protected. -/
theorem protected_of_committed (h : Run t) (hunhandled : Unhandled t)
    (hc : (stateOf t).checkpoint id = some c)
    (hcommitted : Journaled t .capture c.captureAttempt .dbCommitted) :
    c.protection = .protected_ := by
  refine imaged_induction (P := fun _ c => c.protection = .protected_) h hc
    (imaged_of_committed h hcommitted) (fun e past tid c₁ workloadId hsuffix hcalls => ?_)
    fun e past c₁ hsuffix hc₁ hprotected => ?_
  · exact (columns_of_update (h.of_suffix hsuffix) hcalls).1
  · have hrun := h.of_suffix hsuffix
    obtain ⟨c₂, hc₂, -⟩ := checkpoint_of_suffix hrun (List.suffix_cons e past) hc₁
    refine ⟨c₂, hc₂, ?_⟩
    have hstep := columnStep_of_run hrun hc₂
    generalize hwrite : writeOf id e = write at hstep
    cases hstep with
    | inserted hnone => exact nomatch hnone.symm.trans hc₁
    | imaged _ hprotection => exact hprotection
    | set => exact absurd hwrite (not_set_of_not_setsProtection (hunhandled e past hsuffix))
    | retired hold _ hprotection =>
      obtain rfl := Option.some.inj (hold.symm.trans hc₁)
      exact hprotection.trans hprotected
    | kept hold hprotection =>
      obtain rfl := Option.some.inj (hold.symm.trans hc₁)
      exact hprotection.trans hprotected

/-- The committed generations of a workload are distinct. -/
theorem committedGenerations_nodup (h : Run t) (workloadId : Id) :
    ((stateOf t).committedGenerations workloadId).Nodup := by
  have hnumbered : (((stateOf t).checkpointRows.filter fun c => c.workloadId = workloadId).map
      (·.checkpointGeneration)).Nodup := by
    have hnodup := List.nodup_range' (n := ((stateOf t).generations workloadId).length) (s := 1)
    rw [← numbered_of_run h workloadId, World.generations, List.map_map] at hnodup
    exact hnodup
  refine hnumbered.sublist (List.Sublist.map _ ?_)
  exact List.monotone_filter_right _ fun c hcommitted => by simp_all

end Committed

section Room

/-- Of distinct numbers, all but one are above the least. -/
theorem length_filter_lt_of_least {gens : List ℕ} {least : ℕ} (hnodup : gens.Nodup)
    (hmem : least ∈ gens) (hleast : ∀ g ∈ gens, least ≤ g) :
    (gens.filter fun g => least < g).length = gens.length - 1 := by
  have hothers : (gens.filter fun g => least < g) = gens.erase least := by
    rw [hnodup.erase_eq_filter]
    refine List.filter_congr fun g hg => ?_
    have hle := hleast g hg
    by_cases heq : g = least
    · simp [heq]
    · have hlt : least < g := by omega
      simp [heq, hlt]
  rw [hothers, List.length_erase_of_mem hmem]

/-- In every state that is reached without a protection being set or taken away: just the
`protected_generations` most recent of the committed generations of every workload are protected,
iff no workload has committed more than that. -/
theorem windowed_iff (h : Run t) (hunhandled : Unhandled t) :
    Windowed settings.policy.protectedGenerations (stateOf t) ↔
      ∀ workloadId, ((stateOf t).committedGenerations workloadId).length ≤
        settings.policy.protectedGenerations := by
  constructor
  · intro hwindowed workloadId
    by_contra hmore
    have hnonempty : (stateOf t).committedGenerations workloadId ≠ [] := by
      rintro hnil
      rw [hnil] at hmore
      exact hmore (Nat.zero_le _)
    -- The least of too many generations is beyond the window, and it is protected.
    obtain ⟨least, hmem, hleast⟩ : ∃ least ∈ (stateOf t).committedGenerations workloadId,
        ∀ g ∈ (stateOf t).committedGenerations workloadId, least ≤ g := by
      cases hmin : ((stateOf t).committedGenerations workloadId).min? with
      | none => exact absurd (List.min?_eq_none_iff.mp hmin) hnonempty
      | some least => exact ⟨least, List.min?_eq_some_iff.mp hmin⟩
    obtain ⟨id, c, hc, rfl, rfl, hcommitted⟩ := World.mem_committedGenerations.mp hmem
    have hprotected : c.protection ≠ .none := by
      rw [protected_of_committed h hunhandled hc hcommitted]
      decide
    have hfew := (hwindowed id c hc hcommitted).mp hprotected
    rw [length_filter_lt_of_least (committedGenerations_nodup h _) hmem hleast] at hfew
    omega
  · intro hroom id c hc hcommitted
    have hprotected : c.protection ≠ .none := by
      rw [protected_of_committed h hunhandled hc hcommitted]
      decide
    refine iff_of_true hprotected (lt_of_lt_of_le ?_ (hroom c.workloadId))
    have hmem : c.checkpointGeneration ∈ (stateOf t).committedGenerations c.workloadId :=
      World.mem_committedGenerations.mpr ⟨id, c, hc, rfl, rfl, hcommitted⟩
    exact List.length_filter_lt_length_iff_exists.mpr ⟨_, hmem, by simp⟩

/-- The window has room for the only checkpoint of the small fabric. -/
theorem windowed_captured : Windowed 1 (stateOf (exec Demo.captured).trace) := by
  have hunhandled : Unhandled (exec Demo.captured).trace := by
    unfold Unhandled
    decide +kernel
  refine (windowed_iff (exec_run Demo.captured) hunhandled).mpr fun workloadId => ?_
  have hrows : (stateOf (exec Demo.captured).trace).checkpointRows.length ≤ 1 := by decide +kernel
  rw [World.committedGenerations, List.length_map]
  exact (List.length_filter_le _ _).trans hrows

/-- The workload is captured twice, under a policy that protects one generation. -/
def Demo.passedWindow : List (Action (fabric Demo.archive)) :=
  Demo.serially [.capture 7 {} Demo.operator, .capture 7 {} Demo.operator]

/-- The first checkpoint stays protected. -/
theorem first_stays_protected : Run (exec Demo.passedWindow).trace ∧
    Unhandled (exec Demo.passedWindow).trace ∧
    ¬ Windowed 1 (stateOf (exec Demo.passedWindow).trace) := by
  refine ⟨exec_run _, by unfold Unhandled; decide +kernel, fun hwindowed => ?_⟩
  obtain ⟨c, hc, hstate⟩ : ∃ c, (stateOf (exec Demo.passedWindow).trace).checkpoint 2 = some c ∧
      (c.protection, c.captureAttempt, c.workloadId, c.checkpointGeneration) =
        (.protected_, .capture 7 1, 7, 1) :=
    Option.map_eq_some_iff.mp (by decide +kernel)
  obtain ⟨hprotection, hstate⟩ := Prod.mk.inj hstate
  obtain ⟨hattempt, hstate⟩ := Prod.mk.inj hstate
  obtain ⟨howner, hgeneration⟩ := Prod.mk.inj hstate
  have hcommitted : (stateOf (exec Demo.passedWindow).trace).store.Journaled .capture
      c.captureAttempt .dbCommitted := by
    rw [hattempt, ← Store.journalHas_eq_true_iff]
    decide +kernel
  have hgenerations : (stateOf (exec Demo.passedWindow).trace).committedGenerations 7 = [1, 2] := by
    decide +kernel
  have hfew := (hwindowed 2 c hc hcommitted).mp (by rw [hprotection]; decide)
  rw [howner, hgenerations, hgeneration] at hfew
  exact absurd hfew (by decide)

end Room

end CheckpointFabric
