import CheckpointFabric.Concurrency.History
import CheckpointFabric.Staging

/-!
# The footprint of a node's capture

The parts of a capture on its node are told apart by the operations that they use. Only the
selection looks providers up, and the answer lists the components of those that it has found,
marked as their providers mark them.

## Main definitions

* `Op.Fills`, `Op.Steady` — the classes of operations
* `Selects` — the providers that a selection has found
* `Lists` — an answer lists the components of these providers

## Main results

* `obeys_doCapture_lists` — so does every answer of a capture
-/

set_option autoImplicit false

namespace CheckpointFabric.Staging

open Concurrency Replica

abbrev StagingDeed := Deed stagingInterface FabricError

/-- The operation is one on the files of the staging directory. -/
def Op.Fills : Op → Prop
  | .stagingExists | .removeStaging | .createDir _ | .createFile _ | .appendFile .. | .syncFile _
  | .writeFile .. | .readFile _ => True
  | _ => False

/-- The operation prepares a provider. -/
def Op.Prepares : Op → Prop
  | .prepareCapture .. => True
  | _ => False

/-- The operation neither looks a provider up, nor begins or ends a quiescence. -/
def Op.Steady : Op → Prop
  | .providerGet .. | .quiesce .. | .abortCapture .. | .insertQuiesced .. => False
  | _ => True

theorem Op.Fills.steady {op : Op} (h : op.Fills) : op.Steady := by
  cases op <;> trivial

theorem Op.Prepares.steady {op : Op} (h : op.Prepares) : op.Steady := by
  cases op <;> trivial

section Parts

variable {codecs : WriteCodecs} {spec : Provider → ProviderSpec} {req : NodeCaptureRequest}
  {ctx : CaptureContext} {providers prepared : List Provider}

theorem uses_createStaging : Uses Op.Fills createStaging := by
  have hdir (path : String) : Uses Op.Fills (perform (.createDir path)) := uses_call.mpr trivial
  have hdirs := (hdir "components").bind fun _ => (hdir "integrity").bind fun _ => hdir "journal"
  have hasks : Uses Op.Fills (asks (perform .stagingExists)) := by
    refine Uses.andThen (uses_call.mpr trivial) fun result => ?_
    cases result <;> trivial
  refine Uses.bind hasks fun present => ?_
  split
  · exact Uses.bind (uses_call.mpr trivial) fun _ => hdirs
  · exact hdirs

theorem uses_writeSidecars {componentId contentHash : String} {stored : Bytes} {shaFirst : Bool} :
    Uses Op.Fills (writeSidecars codecs componentId stored shaFirst contentHash) := by
  have hline (path line : String) : Uses Op.Fills (writeLine path line) := uses_call.mpr trivial
  unfold writeSidecars
  cases shaFirst with
  | true => exact (hline _ _).bind fun _ => (hline _ _).bind fun _ => hline _ _
  | false => exact (hline _ _).bind fun _ => (hline _ _).bind fun _ => hline _ _

theorem uses_writeComponentPayload {componentId : String} {payload : Bytes}
    {compression : CompressionSpec} :
    Uses Op.Fills (writeComponentPayload codecs componentId payload compression) := by
  refine Uses.bind (uses_call.mpr trivial) fun _ => Uses.bind (uses_call.mpr trivial) fun _ => ?_
  refine Uses.bind trivial fun stored => Uses.bind (uses_call.mpr trivial) fun _ => ?_
  refine Uses.bind (uses_call.mpr trivial) fun _ => Uses.bind (uses_call.mpr trivial) fun _ => ?_
  exact Uses.bind uses_writeSidecars fun _ => trivial

theorem uses_captureComponents {captured : Captured} :
    Uses Op.Steady (captureComponents codecs spec req ctx providers captured) := by
  induction providers generalizing captured with
  | nil => trivial
  | cons provider providers ih =>
    refine Uses.bind (uses_call.mpr trivial) fun payload => ?_
    refine Uses.bind (uses_call.mpr trivial) fun _ => ?_
    exact Uses.bind (uses_writeComponentPayload.mono fun _ => Op.Fills.steady) fun _ => ih

theorem uses_prepareProviders : Uses Op.Prepares (prepareProviders ctx providers prepared) := by
  induction providers generalizing prepared with
  | nil => trivial
  | cons provider providers ih =>
    refine Uses.bind (Uses.attempt (uses_call.mpr trivial)) fun result => ?_
    cases result with
    | ok _ => exact ih
    | error e => trivial

/-- Only the selected providers are quiesced. -/
theorem uses_quiesceProviders :
    Uses (I := stagingInterface) (fun op => ∃ p ∈ providers, op = Op.quiesce p ctx)
      (quiesceProviders req ctx providers) := by
  unfold quiesceProviders
  cases req.quiescence with
  | none => trivial
  | cooperative =>
    suffices hall : ∀ (qs : List Provider) (ack : Bool), qs ⊆ providers →
        Uses (I := stagingInterface) (fun op => ∃ p ∈ providers, op = Op.quiesce p ctx)
          (quiesceAll ctx qs ack) from
      hall providers _ (List.Subset.refl _)
    intro qs
    induction qs with
    | nil => exact fun _ _ => trivial
    | cons p qs ih =>
      intro ack hsub
      refine Uses.bind (uses_call.mpr ⟨p, hsub (.head _), rfl⟩) fun outcome => ?_
      cases outcome <;> exact ih _ fun p' hp' => hsub (.tail _ hp')
  | forced =>
    refine Uses.bind (Uses.forEach fun p hp => ?_) fun _ => trivial
    exact Uses.ignore (uses_call.mpr ⟨p, hp, rfl⟩)

end Parts

section Selection

variable {codecs : WriteCodecs} {spec : Provider → ProviderSpec} {node : NodeState}
  {req : NodeCaptureRequest} {components : List CaptureComponentRequest} {ctx : CaptureContext}
  {providers : List Provider} {ds₀ ds ds' : List StagingDeed} {id : String} {p : Provider}

/-- The registry was asked for the provider of a component, and has answered with this one. -/
def LookedUp (req : NodeCaptureRequest) (ds : List StagingDeed) (id : String) (p : Provider) : Prop :=
  ⟨.providerGet req.workloadId id, .ok (some p)⟩ ∈ ds

/-- The deeds `ds` go on from `ds₀`, and no provider was found on the way. -/
structure Unselecting (req : NodeCaptureRequest) (ds₀ ds : List StagingDeed) : Prop where
  suffix : ds₀ <:+ ds
  kept : ∀ id p, LookedUp req ds id p → LookedUp req ds₀ id p

/-- From `ds₀` to `ds`, these are the providers that were found for the components. -/
structure Selects (req : NodeCaptureRequest) (components : List CaptureComponentRequest)
    (ds₀ ds : List StagingDeed) (providers : List Provider) : Prop where
  suffix : ds₀ <:+ ds
  found : ∀ p ∈ providers, ∃ r ∈ components, LookedUp req ds r.componentId p
  selected : ∀ id p, LookedUp req ds id p → LookedUp req ds₀ id p ∨ p ∈ providers
  required : ∀ r ∈ components, r.required = true → ∃ p, LookedUp req ds r.componentId p

theorem Unselecting.trans (h : Unselecting req ds₀ ds) (h' : Unselecting req ds ds') :
    Unselecting req ds₀ ds' where
  suffix := h.suffix.trans h'.suffix
  kept id p hfound := h.kept id p (h'.kept id p hfound)

/-- What was found since there is what was found since nothing. -/
theorem Selects.of_unselecting (h : Selects req components ds₀ ds providers)
    (h' : Unselecting req [] ds₀) : Selects req components [] ds providers where
  suffix := List.nil_suffix
  found := h.found
  selected id p hfound := (h.selected id p hfound).imp_left (h'.kept id p)
  required := h.required

theorem Selects.trans (h : Selects req components ds₀ ds providers) (h' : Unselecting req ds ds') :
    Selects req components ds₀ ds' providers where
  suffix := h.suffix.trans h'.suffix
  found p hp := by
    obtain ⟨r, hr, hfound⟩ := h.found p hp
    exact ⟨r, hr, h'.suffix.subset hfound⟩
  selected id p hfound := h.selected id p (h'.kept id p hfound)
  required r hr hrequired := by
    obtain ⟨p, hfound⟩ := h.required r hr hrequired
    exact ⟨p, h'.suffix.subset hfound⟩

/-- A reply that shows no provider selects nothing. -/
theorem Unselecting.cons {d : StagingDeed} (h : Unselecting req ds₀ ds)
    (hd : ∀ id p, d ≠ ⟨.providerGet req.workloadId id, .ok (some p)⟩) :
    Unselecting req ds₀ (d :: ds) where
  suffix := h.suffix.trans (List.suffix_cons d ds)
  kept id p hfound := by
    rcases List.mem_cons.mp hfound with heq | hfound
    · exact absurd heq.symm (hd id p)
    · exact h.kept id p hfound

theorem obeys_unselecting (req : NodeCaptureRequest) {α : Type} {allowed : Op → Prop} {q : Work α}
    (huses : Uses (I := stagingInterface) allowed q)
    (hallowed : ∀ workloadId id, ¬ allowed (.providerGet workloadId id)) :
    Obeys (fun _ _ => True) (fun ds' _ => Unselecting req ds ds') ds q := by
  refine Obeys.of_uses huses (fun ds' op hop h => ⟨trivial, fun reply => h.cons ?_⟩)
    ⟨List.suffix_refl ds, fun _ _ h => h⟩
  rintro id p heq
  obtain ⟨rfl, -⟩ := Deed.mk.inj heq
  exact hallowed _ _ hop

/-- The providers of the first component and of the others. -/
theorem Selects.cons {r : CaptureComponentRequest} {found : Option Provider}
    (h : Selects req components
      (⟨.providerGet req.workloadId r.componentId, .ok found⟩ :: ds) ds' providers)
    (hrequired : found = none → ¬ r.required = true) :
    Selects req (r :: components) ds ds' (found.toList ++ providers) where
  suffix := (List.suffix_cons _ ds).trans h.suffix
  found p hp := by
    rcases List.mem_append.mp hp with hp | hp
    · obtain rfl := Option.mem_toList.mp hp
      exact ⟨r, .head _, h.suffix.subset (.head _)⟩
    · obtain ⟨r', hr', hfound⟩ := h.found p hp
      exact ⟨r', .tail r hr', hfound⟩
  selected id p hfound := by
    rcases h.selected id p hfound with hmem | hp
    · rcases List.mem_cons.mp hmem with heq | hmem
      · obtain ⟨-, hreply⟩ := Deed.mk.inj heq
        obtain rfl := Except.ok.inj (eq_of_heq hreply)
        exact .inr (List.mem_append_left _ (Option.mem_toList.mpr rfl))
      · exact .inl hmem
    · exact .inr (List.mem_append_right _ hp)
  required := by
    refine List.forall_mem_cons.mpr ⟨fun hr => ?_, h.required⟩
    cases found with
    | none => exact absurd hr (hrequired rfl)
    | some p => exact ⟨p, h.suffix.subset (.head _)⟩

theorem obeys_selectProviders_selects :
    Obeys (fun _ _ => True)
      (fun ds' result => ∀ providers, result = .ok providers →
        Selects req components ds ds' providers) ds (selectProviders req components) := by
  induction components generalizing ds with
  | nil =>
    intro providers hproviders
    obtain rfl := Except.ok.inj hproviders
    exact ⟨List.suffix_refl ds, by simp, fun _ _ h => .inl h, by simp⟩
  | cons r components ih =>
    have herror : ∀ (ds' : List StagingDeed) (e : FabricError), ∀ providers : List Provider,
        Except.error e = Except.ok providers → Selects req (r :: components) ds ds' providers :=
      fun _ _ _ h => absurd h (by simp)
    refine obeys_call_bind herror trivial fun found => ?_
    cases found with
    | some provider =>
      refine Obeys.bind herror ih fun ds' providers h => ?_
      intro providers' hproviders
      obtain rfl := Except.ok.inj hproviders
      exact h.cons fun hnone => absurd hnone (Option.some_ne_none _)
    | none =>
      refine obeys_ite (fun _ => herror _ _) fun hoptional => ?_
      refine ih.weaken fun ds' result h providers hok => ?_
      exact (h providers hok).cons fun _ => hoptional

/-- The entries are those of the captured providers, marked as their providers mark them. -/
theorem returns_captureComponents {captured : Captured} :
    Returns (fun captured' => captured'.components.map (fun e => (e.componentId, e.required)) =
        captured.components.map (fun e => (e.componentId, e.required)) ++
          providers.map fun p => ((spec p).componentId, (spec p).required))
      (captureComponents codecs spec req ctx providers captured) := by
  induction providers generalizing captured with
  | nil => exact returns_pure (by simp)
  | cons provider providers ih =>
    refine Returns.bind fun payload => Returns.bind fun _ => Returns.bind fun repr => ?_
    refine ih.mono fun captured' hcaptured => ?_
    rw [hcaptured]
    simp [componentEntry]

/-- An answer that reports success lists the components of the providers that were found, marked as
these mark them. -/
def Lists (spec : Provider → ProviderSpec) (req : NodeCaptureRequest) (ds : List StagingDeed)
    (result : FabricResult NodeCaptureResult) : Prop :=
  ∀ a, result = .ok a → a.ok = true → ∃ providers, Selects req req.components [] ds providers ∧
    a.components.map (fun e => (e.componentId, e.required)) =
      providers.map fun p => ((spec p).componentId, (spec p).required)

theorem lists_error {e : FabricError} : Lists spec req ds (.error e) :=
  fun _ h => absurd h (by simp)

theorem obeys_abortCapture_lists {prepared : List Provider} {e : FabricError} :
    Obeys (fun _ _ => True) (Lists spec req) ds (abortCapture req ctx prepared e) := by
  have hfails : Returns (fun a : NodeCaptureResult => a.ok = false)
      (abortCapture req ctx prepared e) :=
    Returns.bind fun _ => Returns.bind fun _ => returns_pure rfl
  refine (Obeys.and_returns (Obeys.extend (Uses.of_true _) fun _ _ _ _ => trivial) hfails).weaken ?_
  intro ds' result h a ha hok
  exact absurd (hok.symm.trans (h.2 a ha)) (by simp)

/-- A part that looks no provider up comes before the rest. -/
theorem obeys_unselecting_bind {α : Type} {allowed : Op → Prop} {q : Work α}
    {f : α → Work NodeCaptureResult} (huses : Uses (I := stagingInterface) allowed q)
    (hallowed : ∀ workloadId id, ¬ allowed (.providerGet workloadId id))
    (hf : ∀ ds' a, Unselecting req ds ds' → Obeys (fun _ _ => True) (Lists spec req) ds' (f a)) :
    Obeys (fun _ _ => True) (Lists spec req) ds (q >>= f) := by
  rw [obeys_bind]
  refine (obeys_unselecting req huses hallowed).weaken fun ds' result h => ?_
  cases result with
  | error e => exact lists_error
  | ok a => exact hf ds' a h

/-- A capture lists what it has found. -/
theorem obeys_doCapture_lists :
    Obeys (fun _ _ => True) (Lists spec req) [] (doCapture codecs spec node req) := by
  unfold doCapture
  refine obeys_unselecting_bind uses_createStaging (fun _ _ => not_false) fun ds₁ _ h₁ => ?_
  refine Obeys.attempt_bind obeys_selectProviders_selects fun ds₂ selected h₂ => ?_
  cases selected with
  | error e => exact obeys_abortCapture_lists
  | ok providers =>
    refine obeys_unselecting_bind uses_prepareProviders (fun _ _ => not_false) fun ds₃ prepared h₃ => ?_
    obtain ⟨prepared, failure⟩ := prepared
    cases failure with
    | some e => exact obeys_abortCapture_lists
    | none =>
      refine Obeys.attempt_bind (obeys_unselecting req uses_quiesceProviders (by simp))
        fun ds₄ acked h₄ => ?_
      cases acked with
      | error e => exact obeys_abortCapture_lists
      | ok ack =>
        refine Obeys.attempt_bind ((obeys_unselecting req uses_captureComponents
          fun _ _ => not_false).and_returns returns_captureComponents) fun ds₅ captured h₅ => ?_
        obtain ⟨h₅, hcaptured⟩ := h₅
        cases captured with
        | error e => exact obeys_abortCapture_lists
        | ok captured =>
          refine obeys_call_bind (fun _ _ => lists_error) trivial fun recorded => ?_
          intro a ha _
          obtain rfl := Except.ok.inj ha
          have h₆ : Unselecting req ds₅ (⟨.insertQuiesced req.attemptId req.workloadId,
              .ok recorded⟩ :: ds₅) :=
            Unselecting.cons ⟨List.suffix_refl _, fun _ _ h => h⟩ (by simp)
          have hselects := (((h₂ providers rfl).trans h₃).trans h₄).trans (h₅.trans h₆)
          exact ⟨providers, hselects.of_unselecting h₁, hcaptured captured rfl⟩

end Selection

end CheckpointFabric.Staging
