import CheckpointFabric.Compatibility

/-!
# What a compatibility verdict promises

Where the environment of a checkpoint and the target differ, each difference demands a verdict. The
evaluation returns the worst that is demanded: no difference is overlooked, and where there is none
the target is compatible. A target that offers more is never judged worse.

## Main definitions

* `Mismatch` — a difference, with the verdict that it demands
* `Extends` — a target that offers more
* `FailClosed` — the verdict answers for every difference, and more capabilities do not spoil it

## Main results

* `rank_le_verdict_of_mismatch` — the verdict is at least as bad as each difference demands
* `verdict_cases` — and some difference demands it, unless it is COMPATIBLE
* `failClosed` — the evaluation is fail-closed and monotone
-/

set_option autoImplicit false

namespace CheckpointFabric.Compatibility

variable {checkpoint : CheckpointObject} {target target' : RuntimeCompatibilityDescriptor}
  {policy : PolicySet} {v : CompatVerdict} {e : ComponentEntry}

/-- The component names a restore handler, and the target has no provider for it. -/
def LacksHandler (target : RuntimeCompatibilityDescriptor) (e : ComponentEntry) : Prop :=
  e.restoreHandler ≠ "" ∧ target.providerVersions.lookup e.restoreHandler = none

/-- A difference between the environment of a checkpoint and the target, with the verdict that it
demands under the policy. -/
inductive Mismatch (checkpoint : CheckpointObject) (target : RuntimeCompatibilityDescriptor)
    (policy : PolicySet) : CompatVerdict → Prop
  | os (h : checkpoint.runtimeDescriptor.os ≠ target.os) :
    Mismatch checkpoint target policy
      (if policy.compatibility.allowCrossOs then .compatibleWithTranslation else .incompatible)
  | arch (h : checkpoint.runtimeDescriptor.arch ≠ target.arch) :
    Mismatch checkpoint target policy
      (if policy.compatibility.allowCrossArch then .compatibleWithTranslation else .incompatible)
  | backend (h : checkpoint.runtimeDescriptor.backendClass ≠ target.backendClass) :
    Mismatch checkpoint target policy .compatibleDegraded
  | schema (h : checkpoint.runtimeDescriptor.stateSchemaVersion ≠ target.stateSchemaVersion) :
    Mismatch checkpoint target policy
      (if policy.compatibility.schemaStrict then .incompatible else .compatibleDegraded)
  | workloadClass (h : checkpoint.runtimeDescriptor.workloadClass ≠ target.workloadClass) :
    Mismatch checkpoint target policy .compatibleDegraded
  | accelerator {capability : String}
    (h : capability ∈ checkpoint.runtimeDescriptor.acceleratorCapabilities)
    (hrequired : capability.startsWith "REQUIRED:" = true)
    (habsent : capability ∉ target.acceleratorCapabilities) :
    Mismatch checkpoint target policy .incompatible
  | requiredHandler {e : ComponentEntry} (h : e ∈ checkpoint.components)
    (hrequired : e.required = true) (hlacks : LacksHandler target e) :
    Mismatch checkpoint target policy .incompatible
  | optionalHandler {e : ComponentEntry} (h : e ∈ checkpoint.components)
    (hoptional : e.required = false) (hlacks : LacksHandler target e) :
    Mismatch checkpoint target policy .compatibleDegraded

/-- `target'` is `target` with more accelerator capabilities or provider handlers. -/
structure Extends (target target' : RuntimeCompatibilityDescriptor) : Prop where
  os : target'.os = target.os
  arch : target'.arch = target.arch
  backendClass : target'.backendClass = target.backendClass
  stateSchemaVersion : target'.stateSchemaVersion = target.stateSchemaVersion
  workloadClass : target'.workloadClass = target.workloadClass
  capabilities : target.acceleratorCapabilities ⊆ target'.acceleratorCapabilities
  handlers : ∀ handler, target'.providerVersions.lookup handler = none →
    target.providerVersions.lookup handler = none

/-- The verdict is at least as bad as every difference demands, COMPATIBLE only without any, and
never worse for a target that offers more. -/
structure FailClosed (checkpoint : CheckpointObject) (target : RuntimeCompatibilityDescriptor)
    (policy : PolicySet) : Prop where
  demanded : ∀ v, Mismatch checkpoint target policy v →
    v.rank ≤ (evaluate target policy checkpoint).verdict.rank
  compatible : (evaluate target policy checkpoint).verdict = .compatible →
    ∀ v, ¬ Mismatch checkpoint target policy v
  monotone : ∀ target', Extends target target' →
    (evaluate target' policy checkpoint).verdict.rank ≤
      (evaluate target policy checkpoint).verdict.rank

section Findings

/-- The verdicts that the evaluation has collected. -/
def verdicts (checkpoint : CheckpointObject) (target : RuntimeCompatibilityDescriptor)
    (policy : PolicySet) : List CompatVerdict :=
  [(osFinding checkpoint.runtimeDescriptor target policy).1,
    (archFinding checkpoint.runtimeDescriptor target policy).1,
    (backendFinding checkpoint.runtimeDescriptor target).1,
    (schemaFinding checkpoint.runtimeDescriptor target policy).1,
    (workloadClassFinding checkpoint.runtimeDescriptor target).1,
    (acceleratorFinding checkpoint.runtimeDescriptor target).1, formatFinding.1] ++
  (checkpoint.components.filterMap (handlerFinding target)).map Prod.fst

theorem verdict_evaluate : (evaluate target policy checkpoint).verdict =
    CompatVerdict.overall (verdicts checkpoint target policy) := by
  simp only [evaluate, verdicts, List.map_append]
  rfl

theorem translatable_fst {aspect source place : String} {allowed : Bool} :
    (translatable aspect source place allowed).1 =
      if source = place then .compatible
      else if allowed then .compatibleWithTranslation else .incompatible := by
  unfold translatable
  split
  · rfl
  · split <;> rfl

section Aspects

variable {src : RuntimeCompatibilityDescriptor}

theorem osFinding_fst : (osFinding src target policy).1 =
    if src.os = target.os then .compatible
    else if policy.compatibility.allowCrossOs then .compatibleWithTranslation
    else .incompatible :=
  translatable_fst

theorem archFinding_fst : (archFinding src target policy).1 =
    if src.arch = target.arch then .compatible
    else if policy.compatibility.allowCrossArch then .compatibleWithTranslation
    else .incompatible :=
  translatable_fst

theorem backendFinding_fst : (backendFinding src target).1 =
    if src.backendClass = target.backendClass then .compatible else .compatibleDegraded := by
  unfold backendFinding
  split <;> rfl

theorem schemaFinding_fst : (schemaFinding src target policy).1 =
    if src.stateSchemaVersion = target.stateSchemaVersion then .compatible
    else if policy.compatibility.schemaStrict then .incompatible
    else .compatibleDegraded := by
  unfold schemaFinding
  split
  · rfl
  · split <;> rfl

theorem workloadClassFinding_fst : (workloadClassFinding src target).1 =
    if src.workloadClass = target.workloadClass then .compatible else .compatibleDegraded := by
  unfold workloadClassFinding
  split <;> rfl

/-- The target lacks an accelerator capability that is marked as required. -/
def LacksCapability (src target : RuntimeCompatibilityDescriptor) : Prop :=
  ∃ capability ∈ src.acceleratorCapabilities, capability.startsWith "REQUIRED:" = true ∧
    capability ∉ target.acceleratorCapabilities

theorem acceleratorFinding_fst (src target : RuntimeCompatibilityDescriptor) :
    (LacksCapability src target ∧ (acceleratorFinding src target).1 = .incompatible) ∨
      (¬ LacksCapability src target ∧ (acceleratorFinding src target).1 = .compatible) := by
  -- Nothing is absent where nothing is required, so the first test of the source decides nothing.
  have hlacks : (!(src.acceleratorCapabilities.filter (·.startsWith "REQUIRED:")).isEmpty &&
      !(src.acceleratorCapabilities.filter (·.startsWith "REQUIRED:")).all
        target.acceleratorCapabilities.contains) = true ↔ LacksCapability src target := by
    rw [Bool.and_eq_true, Bool.not_eq_true', Bool.not_eq_true', List.all_eq_false]
    simp only [List.mem_filter, List.contains_iff_mem]
    constructor
    · rintro ⟨-, capability, ⟨hmem, hrequired⟩, habsent⟩
      exact ⟨capability, hmem, hrequired, by simpa using habsent⟩
    · rintro ⟨capability, hmem, hrequired, habsent⟩
      refine ⟨?_, capability, ⟨hmem, hrequired⟩, by simpa using habsent⟩
      rw [List.isEmpty_eq_false_iff_exists_mem]
      exact ⟨capability, List.mem_filter.mpr ⟨hmem, hrequired⟩⟩
  unfold acceleratorFinding
  dsimp only
  split
  · exact .inl ⟨hlacks.mp ‹_›, rfl⟩
  · exact .inr ⟨fun h => absurd (hlacks.mpr h) ‹_›, rfl⟩

theorem formatFinding_fst : formatFinding.1 = .compatible := rfl

end Aspects

/-- A component whose handler is there, or that names none, is found compatible or passed over. -/
theorem handlerFinding_fst {f : Finding} (h : handlerFinding target e = some f) :
    f.1 = .compatible ∨ LacksHandler target e ∧
      f.1 = if e.required then .incompatible else .compatibleDegraded := by
  unfold handlerFinding at h
  split at h
  · cases h
  · rename_i hnamed
    split at h
    · rename_i habsent
      cases h
      exact .inr ⟨⟨fun hempty => hnamed (by simp [hempty]), habsent⟩, rfl⟩
    · cases h
      exact .inl rfl

theorem exists_handlerFinding_of_lacksHandler (h : LacksHandler target e) :
    ∃ f, handlerFinding target e = some f ∧
      f.1 = if e.required then .incompatible else .compatibleDegraded := by
  obtain ⟨hnamed, habsent⟩ := h
  have hnonempty : ¬ e.restoreHandler.isEmpty = true := by simpa [String.isEmpty_iff] using hnamed
  unfold handlerFinding
  rw [if_neg hnonempty, habsent]
  exact ⟨_, rfl, rfl⟩

end Findings

section Verdict

/-- What a difference demands has been collected. -/
theorem mem_verdicts_of_mismatch (h : Mismatch checkpoint target policy v) :
    v ∈ verdicts checkpoint target policy := by
  have hhandler {e : ComponentEntry} (he : e ∈ checkpoint.components)
      (hlacks : LacksHandler target e) :
      (if e.required then .incompatible else .compatibleDegraded) ∈
        verdicts checkpoint target policy := by
    obtain ⟨f, hf, heq⟩ := exists_handlerFinding_of_lacksHandler hlacks
    refine List.mem_append_right _ (List.mem_map.mpr ⟨f, ?_, heq⟩)
    exact List.mem_filterMap.mpr ⟨e, he, hf⟩
  cases h with
  | os hne => simp [verdicts, osFinding_fst, hne]
  | arch hne => simp [verdicts, archFinding_fst, hne]
  | backend hne => simp [verdicts, backendFinding_fst, hne]
  | schema hne => simp [verdicts, schemaFinding_fst, hne]
  | workloadClass hne => simp [verdicts, workloadClassFinding_fst, hne]
  | accelerator hmem hrequired habsent =>
    rcases acceleratorFinding_fst checkpoint.runtimeDescriptor target
      with ⟨-, hfound⟩ | ⟨hpresent, -⟩
    · simp [verdicts, hfound]
    · exact absurd ⟨_, hmem, hrequired, habsent⟩ hpresent
  | requiredHandler he hrequired hlacks => simpa [hrequired] using hhandler he hlacks
  | optionalHandler he hoptional hlacks => simpa [hoptional] using hhandler he hlacks

/-- What has been collected is COMPATIBLE or demanded by a difference. -/
theorem mismatch_of_mem_verdicts (h : v ∈ verdicts checkpoint target policy) :
    v = .compatible ∨ Mismatch checkpoint target policy v := by
  rcases List.mem_append.mp h with haspect | hhandler
  · simp only [List.mem_cons, List.not_mem_nil, or_false] at haspect
    rcases haspect with rfl | rfl | rfl | rfl | rfl | rfl | rfl
    · rw [osFinding_fst]
      split
      · exact .inl rfl
      · exact .inr (.os ‹_›)
    · rw [archFinding_fst]
      split
      · exact .inl rfl
      · exact .inr (.arch ‹_›)
    · rw [backendFinding_fst]
      split
      · exact .inl rfl
      · exact .inr (.backend ‹_›)
    · rw [schemaFinding_fst]
      split
      · exact .inl rfl
      · exact .inr (.schema ‹_›)
    · rw [workloadClassFinding_fst]
      split
      · exact .inl rfl
      · exact .inr (.workloadClass ‹_›)
    · rcases acceleratorFinding_fst checkpoint.runtimeDescriptor target
        with ⟨⟨_, hmem, hrequired, habsent⟩, hfound⟩ | ⟨-, hfound⟩
      · rw [hfound]
        exact .inr (.accelerator hmem hrequired habsent)
      · exact .inl hfound
    · exact .inl formatFinding_fst
  · obtain ⟨f, hf, rfl⟩ := List.mem_map.mp hhandler
    obtain ⟨e, he, hfound⟩ := List.mem_filterMap.mp hf
    refine (handlerFinding_fst hfound).imp_right ?_
    rintro ⟨hlacks, hverdict⟩
    rw [hverdict]
    split
    · exact .requiredHandler he ‹_› hlacks
    · exact .optionalHandler he (Bool.not_eq_true _ ▸ ‹_›) hlacks

/-- The verdict is at least as bad as each difference demands. -/
theorem rank_le_verdict_of_mismatch (h : Mismatch checkpoint target policy v) :
    v.rank ≤ (evaluate target policy checkpoint).verdict.rank := by
  rw [verdict_evaluate]
  exact CompatVerdict.rank_le_overall (mem_verdicts_of_mismatch h)

/-- A verdict other than COMPATIBLE is demanded by a difference. -/
theorem verdict_cases (checkpoint : CheckpointObject) (target : RuntimeCompatibilityDescriptor)
    (policy : PolicySet) : (evaluate target policy checkpoint).verdict = .compatible ∨
      Mismatch checkpoint target policy (evaluate target policy checkpoint).verdict := by
  rw [verdict_evaluate]
  rcases CompatVerdict.overall_mem (verdicts checkpoint target policy) with hnone | hmem
  · exact .inl hnone
  · exact mismatch_of_mem_verdicts hmem

theorem not_mismatch_compatible : ¬ Mismatch checkpoint target policy .compatible := by
  intro h
  generalize hv : CompatVerdict.compatible = v at h
  cases h with
  | os | arch | schema =>
    split at hv
    all_goals cases hv
  | _ => cases hv

/-- The verdict is COMPATIBLE iff there is no difference. -/
theorem verdict_eq_compatible_iff : (evaluate target policy checkpoint).verdict = .compatible ↔
    ∀ v, ¬ Mismatch checkpoint target policy v := by
  constructor
  · intro hcompatible v h
    have hrank := rank_le_verdict_of_mismatch h
    rw [hcompatible] at hrank
    cases v with
    | compatible => exact not_mismatch_compatible h
    | _ => exact absurd hrank (by decide)
  · exact fun hnone => (verdict_cases checkpoint target policy).resolve_right (hnone _)

/-- A target that offers more differs no more. -/
theorem Extends.mismatch (hextends : Extends target target')
    (h : Mismatch checkpoint target' policy v) : Mismatch checkpoint target policy v := by
  cases h with
  | os hne => exact .os (hextends.os ▸ hne)
  | arch hne => exact .arch (hextends.arch ▸ hne)
  | backend hne => exact .backend (hextends.backendClass ▸ hne)
  | schema hne => exact .schema (hextends.stateSchemaVersion ▸ hne)
  | workloadClass hne => exact .workloadClass (hextends.workloadClass ▸ hne)
  | accelerator hmem hrequired habsent =>
    exact .accelerator hmem hrequired fun hoffered => habsent (hextends.capabilities hoffered)
  | requiredHandler he hrequired hlacks =>
    exact .requiredHandler he hrequired ⟨hlacks.1, hextends.handlers _ hlacks.2⟩
  | optionalHandler he hoptional hlacks =>
    exact .optionalHandler he hoptional ⟨hlacks.1, hextends.handlers _ hlacks.2⟩

/-- A target that offers more is judged no worse. -/
theorem Extends.rank_verdict_le (hextends : Extends target target') :
    (evaluate target' policy checkpoint).verdict.rank ≤
      (evaluate target policy checkpoint).verdict.rank := by
  rcases verdict_cases checkpoint target' policy with hcompatible | hdemanded
  · rw [hcompatible]
    exact Nat.zero_le _
  · exact rank_le_verdict_of_mismatch (hextends.mismatch hdemanded)

end Verdict

/-- For every checkpoint, target and policy: the evaluation overlooks no difference, finds a target
compatible only where there is none, and is never worse for a target that offers more. -/
theorem failClosed (checkpoint : CheckpointObject) (target : RuntimeCompatibilityDescriptor)
    (policy : PolicySet) : FailClosed checkpoint target policy where
  demanded _ h := rank_le_verdict_of_mismatch h
  compatible h := verdict_eq_compatible_iff.mp h
  monotone _ h := h.rank_verdict_le

end CheckpointFabric.Compatibility
