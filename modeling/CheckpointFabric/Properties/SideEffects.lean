import CheckpointFabric.Footprints.Images

/-!
# What an exact capture says of its side effects

The side effects of a workload come as a list with a boundary: the entries before it are meant to
be committed. A capture that derives EXACT has looked at the status of every entry and at the
flags of the frontier; where the boundary stands it has not looked.

## Main definitions

* `Resolved` — no side effect is left open
* `AsksExact` — what of a request and its acknowledgement decides for EXACT

## Main results

* `deriveResumability_eq_exact_iff`, `resumability_eq_exact_iff` — exactly these captures are EXACT
* `exact_resolved_iff` — they leave nothing open iff the boundary is where it is meant to be
-/

set_option autoImplicit false

namespace CheckpointFabric.Capture

open Coordinator

/-- The status rules out exact resumption. -/
def SideEffectStatus.Blocks (status : SideEffectStatus) : Prop :=
  status = .unknown ∨ status = .nonReplayable

/-- No side effect is left open: none is unknown or cannot be replayed, those before the boundary
are committed, and the frontier has none pending. -/
structure Resolved (options : CaptureOptions) : Prop where
  entries : ∀ se ∈ options.sideEffects, ∀ e ∈ se.entries, ¬ SideEffectStatus.Blocks e.status
  boundary : ∀ se ∈ options.sideEffects, ∀ e ∈ se.entries.take se.frontierBoundary,
    e.status = .committed
  frontier : ∀ f ∈ options.frontier,
    f.flags.pendingNonReplayable = false ∧ f.flags.unknownSideEffects = false

/-- The frontier declares that it can be resumed exactly, with nothing pending. -/
structure DeclaresExact (f : ExecutionFrontier) : Prop where
  replay : f.flags.deterministicReplayVerified = true
  exact : f.flags.exact = true
  pending : f.flags.pendingNonReplayable = false
  unknown : f.flags.unknownSideEffects = false

/-- What of a request, and of the acknowledgement of its quiesce, decides for EXACT. -/
structure AsksExact (requested : ConsistencyClass) (options : CaptureOptions)
    (cooperativeAck : Bool) : Prop where
  consistency : requested = .executionConsistent
  cooperative : options.quiescence = .cooperative
  ack : cooperativeAck = true
  frontier : ∃ f, options.frontier = some f ∧ DeclaresExact f
  entries : ∀ se ∈ options.sideEffects, ∀ e ∈ se.entries, ¬ SideEffectStatus.Blocks e.status

section Classes

variable {sideEffects : Option SideEffectManifest} {frontier : Option ExecutionFrontier}
  {consistency requested : ConsistencyClass} {quiescence : QuiescenceMode} {cooperativeAck : Bool}
  {options : CaptureOptions}

/-- The check passes iff no entry blocks. -/
theorem validateForExact_eq_ok_iff {se : SideEffectManifest} :
    se.validateForExact = .ok () ↔ ∀ e ∈ se.entries, ¬ SideEffectStatus.Blocks e.status := by
  unfold SideEffectManifest.validateForExact
  induction se.entries with
  | nil => simp [SideEffectManifest.validateForExact.go]
  | cons e entries ih =>
    rw [List.forall_mem_cons, ← ih, SideEffectManifest.validateForExact.go]
    cases hstatus : e.status with
    | unknown | nonReplayable => simp [SideEffectStatus.Blocks]
    | uncommitted | committed | replayable => simp [SideEffectStatus.Blocks]

theorem any_blocked_eq_false_iff :
    (sideEffects.any fun se => se.validateForExact.toOption.isNone) = false ↔
      ∀ se ∈ sideEffects, ∀ e ∈ se.entries, ¬ SideEffectStatus.Blocks e.status := by
  cases sideEffects with
  | none => simp
  | some se =>
    rw [Option.any_some]
    simp only [Option.mem_def, Option.some.injEq, forall_eq', ← validateForExact_eq_ok_iff]
    cases se.validateForExact with
    | ok u => simp [Except.toOption]
    | error e => simp [Except.toOption]

/-- EXACT takes an execution-consistent class, a frontier that declares it, and side effects none
of which blocks. -/
theorem deriveResumability_eq_exact_iff :
    deriveResumability consistency frontier sideEffects = .exact ↔
      consistency = .executionConsistent ∧ (∃ f, frontier = some f ∧ DeclaresExact f) ∧
        ∀ se ∈ sideEffects, ∀ e ∈ se.entries, ¬ SideEffectStatus.Blocks e.status := by
  rw [← any_blocked_eq_false_iff]
  unfold deriveResumability
  by_cases hconsistency : consistency = .executionConsistent
  · cases frontier with
    | none => simp [hconsistency]
    | some f =>
      rw [if_neg (not_not.mpr hconsistency)]
      dsimp only
      have hdeclares : DeclaresExact f ↔ (f.flags.pendingNonReplayable ||
          f.flags.unknownSideEffects) = false ∧
          (f.flags.deterministicReplayVerified && f.flags.exact) = true := by
        rw [Bool.or_eq_false_iff, Bool.and_eq_true_iff]
        exact ⟨fun h => ⟨⟨h.pending, h.unknown⟩, h.replay, h.exact⟩,
          fun h => ⟨h.2.1, h.2.2, h.1.1, h.1.2⟩⟩
      simp only [hconsistency, Option.some.injEq, exists_eq_left', hdeclares, true_and]
      split
      · rename_i hblocked
        simp [hblocked]
      · rename_i hclear
        split
        · rename_i hpending
          simp [hpending]
        · rename_i hsettled
          split
          · rename_i hflags
            simp [hclear, hsettled, hflags]
          · rename_i hflags
            split <;> simp [hflags]
  · rw [if_pos hconsistency]
    simp [hconsistency]

theorem deriveConsistency_eq_execution_iff :
    deriveConsistency (some requested) quiescence frontier cooperativeAck =
        .executionConsistent ↔
      requested = .executionConsistent ∧ quiescence = .cooperative ∧ cooperativeAck = true ∧
        frontier.isSome := by
  cases requested with
  | crashConsistent => simp [deriveConsistency]
  | applicationConsistent =>
    rw [deriveConsistency]
    split <;> simp
  | executionConsistent =>
    rw [deriveConsistency]
    split
    · rename_i hack
      simpa [and_assoc] using hack
    · rename_i hack
      simpa [and_assoc] using hack

end Classes

variable {settings : Settings} {run : CaptureRun} {epoch created : ℕ} {result : NodeCaptureResult}

/-- The class of a capture is EXACT iff its request and the answer of its node ask for it. -/
theorem resumability_eq_exact_iff :
    (answeredCheckpoint settings run epoch created result).resumability = .exact ↔
      AsksExact run.requestedConsistency run.options result.cooperativeAck := by
  have hderived : (answeredCheckpoint settings run epoch created result).resumability =
      deriveResumability (achievedConsistency run result) run.options.frontier
        run.options.sideEffects := rfl
  rw [hderived, deriveResumability_eq_exact_iff, achievedConsistency,
    deriveConsistency_eq_execution_iff]
  constructor
  · rintro ⟨⟨hconsistency, hcooperative, hack, -⟩, hfrontier, hentries⟩
    exact ⟨hconsistency, hcooperative, hack, hfrontier, hentries⟩
  · rintro ⟨hconsistency, hcooperative, hack, hfrontier, hentries⟩
    obtain ⟨f, hf, hdeclares⟩ := hfrontier
    exact ⟨⟨hconsistency, hcooperative, hack, hf ▸ rfl⟩, ⟨f, hf, hdeclares⟩, hentries⟩

/-- For every capture, with any side effects and any frontier: EXACT means that nothing is left
open, iff a request that asks for EXACT has neither uncommitted nor replayable side effects before
its boundary. -/
theorem exact_resolved_iff (settings : Settings) (run : CaptureRun) (epoch created : ℕ)
    (result : NodeCaptureResult) :
    ((answeredCheckpoint settings run epoch created result).resumability = .exact →
        Resolved run.options) ↔
      (AsksExact run.requestedConsistency run.options result.cooperativeAck →
        ∀ se ∈ run.options.sideEffects, ∀ e ∈ se.entries.take se.frontierBoundary,
          e.status ≠ .uncommitted ∧ e.status ≠ .replayable) := by
  rw [resumability_eq_exact_iff]
  constructor
  · intro h hasks se hse e he
    have hcommitted := (h hasks).boundary se hse e he
    rw [hcommitted]
    exact ⟨by decide, by decide⟩
  · intro h hasks
    obtain ⟨f, hf, hdeclares⟩ := hasks.frontier
    refine ⟨hasks.entries, fun se hse e he => ?_, fun f' hf' => ?_⟩
    · obtain ⟨huncommitted, hreplayable⟩ := h hasks se hse e he
      have hblocks := hasks.entries se hse e (List.mem_of_mem_take he)
      cases hstatus : e.status with
      | committed => rfl
      | uncommitted => exact absurd hstatus huncommitted
      | replayable => exact absurd hstatus hreplayable
      | nonReplayable => exact absurd (.inr hstatus) hblocks
      | unknown => exact absurd (.inl hstatus) hblocks
    · obtain rfl := Option.some.inj (hf.symm.trans hf')
      exact ⟨hdeclares.pending, hdeclares.unknown⟩

/-! ### A boundary beyond an uncommitted side effect -/

namespace Demo

/-- The frontier is declared exact, and the boundary lies behind a mail that was not sent. -/
def unsent : CaptureOptions where
  consistency := some .executionConsistent
  quiescence := .cooperative
  frontier := some { flags := { deterministicReplayVerified := true } }
  sideEffects := some ⟨[⟨"mail-1", "mail", .uncommitted, none, none⟩], 1⟩

def unsentRun : CaptureRun where
  workload := newWorkload CheckpointFabric.Demo.settings 7 CheckpointFabric.Demo.spec 0 none none
    none 0
  node := "n1"
  attemptId := .capture 7 1
  checkpointId := 2
  checkpointGeneration := 1
  requestedConsistency := .executionConsistent
  options := unsent

/-- The answer of a node all of whose providers have acknowledged. -/
def acknowledgedAnswer : NodeCaptureResult where
  attemptId := .capture 7 1
  ok := true
  error := none
  components := []
  totalLogicalBytes := 0
  totalPhysicalBytes := 0
  compressedBytes := 0
  cooperativeAck := true

end Demo

/-- The request is accepted and its capture is EXACT, with a side effect left open. -/
theorem exact_unresolved :
    validateCaptureRequest Demo.unsentRun.workload Demo.unsentRun.options
        CheckpointFabric.Demo.settings.policy none 0 = .ok () ∧
    Demo.unsentRun.requestedConsistency = Demo.unsent.consistency.getD .crashConsistent ∧
    (answeredCheckpoint CheckpointFabric.Demo.settings Demo.unsentRun 1 0
      Demo.acknowledgedAnswer).resumability = .exact ∧ ¬ Resolved Demo.unsentRun.options := by
  refine ⟨by decide +kernel, rfl, by decide +kernel, fun h => ?_⟩
  have hcommitted := h.boundary _ rfl _ (.head _)
  cases hcommitted

end CheckpointFabric.Capture
