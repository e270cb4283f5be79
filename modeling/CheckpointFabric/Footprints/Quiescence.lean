import CheckpointFabric.Footprints.Staging
import CheckpointFabric.Quiescence

/-!
# What the messages about an attempt do to its providers

Only a capture quiesces, and it either records the attempt or aborts every provider that it has
quiesced. Only a resume that has taken the record, or that carries an authority, resumes; it then
resumes every provider of the workload that it finds.

## Main definitions

* `CapturePermits`, `ResumePermits` — what the text of the two messages allows
* `Resumed` — every provider that the message found was resumed

## Main results

* `obeys_doCapture`, `obeys_doResume`, `uses_doCleanup` — what holds of the text of each message
-/

set_option autoImplicit false

namespace CheckpointFabric.Quiescence

open Concurrency Staging

open Replica (Provider Bytes)

abbrev NodeDeed := Deed nodeInterface FabricError

section Capture

/-- The operation neither quiesces a provider nor ends a quiescence. -/
def Plain : Staging.Op → Prop
  | .quiesce .. | .abortCapture .. | .insertQuiesced .. => False
  | _ => True

/-- The operation ends the quiescence that a capture has begun. -/
def EndsCapture : Staging.Op → Prop
  | .abortCapture .. | .insertQuiesced .. => True
  | _ => False

variable {codecs : WriteCodecs} {spec : Provider → ProviderSpec} {node : NodeState}
  {req : NodeCaptureRequest} {ctx : CaptureContext} {providers prepared : List Provider}
  {ds : List StagingDeed} {p : Provider}

/-- The capture has found the provider of a component. -/
def Found (req : NodeCaptureRequest) (ds : List StagingDeed) (p : Provider) : Prop :=
  ∃ id, ⟨.providerGet req.workloadId id, .ok (some p)⟩ ∈ ds

/-- What the text of a capture allows. -/
def CapturePermits (req : NodeCaptureRequest) (ds : List StagingDeed) : Staging.Op → Prop
  | .quiesce p ctx => ctx.attemptId = req.attemptId ∧ Found req ds p ∧ ∀ d ∈ ds, ¬ EndsCapture d.op
  | .abortCapture _ ctx => ctx.attemptId = req.attemptId
  | .insertQuiesced attemptId _ => attemptId = req.attemptId
  | _ => True

/-- The attempt was recorded. -/
def Recorded (req : NodeCaptureRequest) (ds : List StagingDeed) : Prop :=
  ∃ reply, ⟨.insertQuiesced req.attemptId req.workloadId, reply⟩ ∈ ds

/-- Every provider that was quiesced was asked to abort. -/
def AllAborted (req : NodeCaptureRequest) (ds : List StagingDeed) : Prop :=
  ∀ p ctx outcome, ⟨.quiesce p ctx, .ok outcome⟩ ∈ ds →
    ∃ ctx' reply, ctx'.attemptId = req.attemptId ∧ ⟨.abortCapture p ctx', reply⟩ ∈ ds

/-- A capture under way: it has quiesced at most these providers, and has found each of them. -/
structure Quiescing (req : NodeCaptureRequest) (providers : List Provider)
    (ds : List StagingDeed) : Prop where
  quiesced : ∀ p ctx outcome, ⟨.quiesce p ctx, .ok outcome⟩ ∈ ds → p ∈ providers
  found : ∀ p ∈ providers, Found req ds p
  unended : ∀ d ∈ ds, ¬ EndsCapture d.op

theorem Found.cons {d : StagingDeed} (h : Found req ds p) : Found req (d :: ds) p := by
  obtain ⟨id, hmem⟩ := h
  exact ⟨id, .tail _ hmem⟩

theorem permits_of_plain {op : Staging.Op} (h : Plain op) : CapturePermits req ds op := by
  cases op <;> trivial

theorem plain_of_steady {op : Staging.Op} (h : op.Steady) : Plain op := by
  cases op <;> trivial

/-- A plain operation leaves a capture under way. -/
theorem Quiescing.cons {op : Staging.Op} {reply : FabricResult op.Reply}
    (h : Quiescing req providers ds) (hplain : Plain op) :
    Quiescing req providers (⟨op, reply⟩ :: ds) where
  quiesced p ctx outcome hmem := by
    rcases List.mem_cons.mp hmem with heq | hmem
    · rw [← (Deed.mk.inj heq).1] at hplain
      exact absurd hplain not_false
    · exact h.quiesced p ctx outcome hmem
  found p hp := (h.found p hp).cons
  unended := by
    refine List.forall_mem_cons.mpr ⟨?_, h.unended⟩
    cases op <;> first | exact not_false | exact absurd hplain not_false

theorem Quiescing.of_uses {α : Type} {q : Work α} (huses : Uses Plain q)
    (h : Quiescing req providers ds) :
    Obeys (CapturePermits req) (fun ds' _ => Quiescing req providers ds') ds q :=
  Obeys.of_uses huses (fun _ _ hop hds => ⟨permits_of_plain hop, fun _ => hds.cons hop⟩) h

section Phases

/-- The providers that are selected were found. -/
theorem obeys_selectProviders {components : List CaptureComponentRequest}
    (h : Quiescing req [] ds) :
    Obeys (CapturePermits req) (fun ds' result => Quiescing req [] ds' ∧ ds <:+ ds' ∧
      ∀ providers, result = .ok providers → Quiescing req providers ds')
      ds (selectProviders req components) := by
  have hsome {ds : List StagingDeed} {providers : List Provider} (h : Quiescing req [] ds)
      (hfound : ∀ p ∈ providers, Found req ds p) : Quiescing req providers ds :=
    ⟨fun p ctx outcome hmem => absurd (h.quiesced p ctx outcome hmem) List.not_mem_nil, hfound,
      h.unended⟩
  induction components generalizing ds with
  | nil => exact ⟨h, List.suffix_refl _, fun _ heq => Except.ok.inj heq ▸ h⟩
  | cons r components ih =>
    refine ⟨trivial, fun reply => ?_⟩
    have hquiet : Quiescing req [] (⟨.providerGet req.workloadId r.componentId, reply⟩ :: ds) :=
      h.cons trivial
    cases reply with
    | error e => exact ⟨hquiet, List.suffix_cons _ _, fun _ heq => absurd heq (by simp)⟩
    | ok found =>
      cases found with
      | none =>
        refine obeys_ite (fun _ => ⟨hquiet, List.suffix_cons _ _, fun _ heq => absurd heq (by simp)⟩)
          fun _ => (ih hquiet).weaken fun ds' result h' => ?_
        exact ⟨h'.1, (List.suffix_cons _ _).trans h'.2.1, h'.2.2⟩
      | some provider =>
        -- A provider that was found comes first, the others follow.
        change Obeys _ _ _ (selectProviders req components >>= fun providers =>
          pure (provider :: providers))
        rw [obeys_bind]
        refine (ih hquiet).weaken fun ds' result h' => ?_
        obtain ⟨hquiet', hsuffix, hall⟩ := h'
        cases result with
        | error e => exact ⟨hquiet', (List.suffix_cons _ _).trans hsuffix, fun _ heq => absurd heq (by simp)⟩
        | ok providers =>
          refine ⟨hquiet', (List.suffix_cons _ _).trans hsuffix, fun providers' heq => ?_⟩
          rw [← Except.ok.inj heq]
          refine hsome hquiet' (List.forall_mem_cons.mpr ⟨?_, (hall providers rfl).found⟩)
          exact ⟨r.componentId, hsuffix.subset (.head _)⟩

/-- If no error stops the preparation, then every provider is prepared. -/
theorem returns_prepareProviders :
    Returns (fun x => x.2 = none → (∀ p ∈ providers, p ∈ x.1) ∧ prepared ⊆ x.1)
      (prepareProviders ctx providers prepared) := by
  induction providers generalizing prepared with
  | nil => exact returns_pure fun _ => ⟨by simp, List.Subset.refl _⟩
  | cons provider providers ih =>
    intro reply
    cases reply with
    | error e => exact returns_pure fun h => absurd h (Option.some_ne_none e)
    | ok _ =>
      refine (@ih (provider :: prepared)).mono fun x hx hnone => ?_
      obtain ⟨hall, hsub⟩ := hx hnone
      exact ⟨List.forall_mem_cons.mpr ⟨hsub (.head _), hall⟩,
        fun p hp => hsub (.tail _ hp)⟩

/-- One of the providers was quiesced. -/
theorem Quiescing.quiesce {reply : FabricResult QuiesceOutcome} (h : Quiescing req providers ds)
    (hp : p ∈ providers) : Quiescing req providers (⟨.quiesce p ctx, reply⟩ :: ds) where
  quiesced p' ctx' outcome hmem := by
    rcases List.mem_cons.mp hmem with heq | hmem
    · obtain ⟨rfl, -⟩ := Staging.Op.quiesce.inj (Deed.mk.inj heq).1
      exact hp
    · exact h.quiesced p' ctx' outcome hmem
  found p hp := (h.found p hp).cons
  unended := List.forall_mem_cons.mpr ⟨not_false, h.unended⟩

theorem obeys_quiesceProviders (h : Quiescing req providers ds)
    (hctx : ctx.attemptId = req.attemptId) :
    Obeys (CapturePermits req) (fun ds' _ => Quiescing req providers ds') ds
      (quiesceProviders req ctx providers) := by
  refine Obeys.of_uses uses_quiesceProviders (fun ds' op hop hds => ?_) h
  obtain ⟨p, hp, rfl⟩ := hop
  exact ⟨⟨hctx, hds.found p hp, hds.unended⟩, fun _ => hds.quiesce hp⟩

/-- An aborted capture has asked every provider that it has quiesced to abort. -/
theorem obeys_abortCapture {e : FabricError} (h : Quiescing req providers ds)
    (hprepared : ∀ p ∈ providers, p ∈ prepared) (hctx : ctx.attemptId = req.attemptId) :
    Obeys (CapturePermits req) (fun ds' _ => Recorded req ds' ∨ AllAborted req ds') ds
      (Staging.abortCapture req ctx prepared e) := by
  -- The calls of the loop are the only operations in it, and none of them stops it.
  have hloop : ∀ (qs : List Provider) (ds : List StagingDeed),
      Obeys (CapturePermits req) (fun ds' _ => ds <:+ ds' ∧
          (∀ p ∈ qs, ∃ reply, ⟨.abortCapture p ctx, reply⟩ ∈ ds') ∧
          ∀ d ∈ ds', d ∈ ds ∨ ∃ p, d.op = .abortCapture p ctx) ds
        (Program.forEach qs fun p => (Staging.perform (.abortCapture p ctx)).ignore) := by
    intro qs
    induction qs with
    | nil => exact fun ds => ⟨List.suffix_refl _, by simp, fun _ hd => .inl hd⟩
    | cons p qs ih =>
      refine fun ds => ⟨hctx, fun reply => (ih (⟨.abortCapture p ctx, reply⟩ :: ds)).weaken ?_⟩
      rintro ds' result ⟨hsuffix, hall, honly⟩
      refine ⟨(List.suffix_cons _ _).trans hsuffix, ?_, fun d hd => ?_⟩
      · exact List.forall_mem_cons.mpr ⟨⟨reply, hsuffix.subset (.head _)⟩, hall⟩
      · rcases honly d hd with hd | hd
        · rcases List.mem_cons.mp hd with rfl | hd
          · exact .inr ⟨p, rfl⟩
          · exact .inl hd
        · exact .inr hd
  have hdone {ds' : List StagingDeed} (hall : ∀ p ∈ prepared, ∃ reply,
      ⟨.abortCapture p ctx, reply⟩ ∈ ds') (honly : ∀ d ∈ ds', d ∈ ds ∨ ∃ p, d.op = .abortCapture p ctx) :
      AllAborted req ds' := by
    intro p ctx' outcome hmem
    rcases honly _ hmem with hmem | ⟨p', heq⟩
    · obtain ⟨reply, hreply⟩ := hall p (hprepared p (h.quiesced p ctx' outcome hmem))
      exact ⟨ctx, reply, hctx, hreply⟩
    · exact absurd heq (by simp)
  unfold Staging.abortCapture
  rw [obeys_bind]
  refine (hloop prepared ds).weaken fun ds' result h' => ?_
  obtain ⟨-, hall, honly⟩ := h'
  cases result with
  | error e => exact .inr (hdone hall honly)
  | ok _ =>
    refine ⟨trivial, fun reply => .inr ?_⟩
    intro p ctx' outcome hmem
    rcases List.mem_cons.mp hmem with heq | hmem
    · exact absurd (Deed.mk.inj heq).1 (by simp)
    · obtain ⟨ctx'', reply', hctx', hreply⟩ := hdone hall honly p ctx' outcome hmem
      exact ⟨ctx'', reply', hctx', .tail _ hreply⟩

end Phases

/-- A capture records its attempt, or asks every provider that it has quiesced to abort. -/
theorem obeys_doCapture :
    Obeys (CapturePermits req) (fun ds' _ => Recorded req ds' ∨ AllAborted req ds') []
      (doCapture codecs spec node req) := by
  have hstart : Quiescing req [] [] := ⟨by simp, by simp, by simp⟩
  have hnone {ds : List StagingDeed} (h : Quiescing req [] ds) : AllAborted req ds :=
    fun p ctx outcome hmem => absurd (h.quiesced p ctx outcome hmem) List.not_mem_nil
  have hprepares {ctx : CaptureContext} {providers prepared : List Provider} :
      Uses Plain (prepareProviders ctx providers prepared) :=
    uses_prepareProviders.mono fun _ h => plain_of_steady h.steady
  have hcaptures {ctx : CaptureContext} {providers : List Provider} {captured : Captured} :
      Uses Plain (captureComponents codecs spec req ctx providers captured) :=
    uses_captureComponents.mono fun _ => plain_of_steady
  unfold doCapture
  rw [obeys_bind]
  -- Nothing is quiesced while the staging directory is made: there is nothing to abort yet.
  refine (hstart.of_uses (uses_createStaging.mono fun _ h => plain_of_steady h.steady)).weaken fun ds₁ result h₁ => ?_
  cases result with
  | error e => exact .inr (hnone h₁)
  | ok _ =>
    refine Obeys.attempt_bind (obeys_selectProviders h₁) fun ds₂ selected h₂ => ?_
    cases selected with
    | error e => exact obeys_abortCapture h₂.1 (by simp) rfl
    | ok providers =>
      have hproviders := h₂.2.2 providers rfl
      rw [obeys_bind]
      refine (((h₂.1.of_uses hprepares).and (hproviders.of_uses hprepares)).and_returns returns_prepareProviders).mono
        (fun _ _ h => h.1) fun ds₃ result h₃ => ?_
      obtain ⟨⟨hquiet, hquiescing⟩, hprepared⟩ := h₃
      cases result with
      | error e => exact .inr (hnone hquiet)
      | ok x =>
        obtain ⟨prepared, failure⟩ := x
        cases failure with
        | some e => exact obeys_abortCapture hquiet (by simp) rfl
        | none =>
          obtain ⟨hall, -⟩ := hprepared _ rfl rfl
          -- From here on some of the providers are quiesced, and every error leads to the abort.
          refine Obeys.attempt_bind (obeys_quiesceProviders hquiescing rfl) fun ds₄ result h₄ => ?_
          cases result with
          | error e => exact obeys_abortCapture h₄ hall rfl
          | ok ack =>
            refine Obeys.attempt_bind (h₄.of_uses hcaptures) fun ds₅ result h₅ => ?_
            cases result with
            | error e => exact obeys_abortCapture h₅ hall rfl
            | ok captured =>
              refine ⟨rfl, fun reply => ?_⟩
              -- The quiesced row is inserted last; what the database answers plays no part.
              have hrecorded : Recorded req (⟨.insertQuiesced req.attemptId req.workloadId, reply⟩ ::
                  ds₅) := ⟨reply, .head _⟩
              cases reply with
              | error e => exact .inl hrecorded
              | ok _ => exact .inl hrecorded

end Capture

section Resume

variable {node : NodeState} {req : NodeResumeRequest} {ds ds' : List NodeDeed}
  {authorityTransfer : Bool} {firstErr : Option FabricError}

/-- The record of the attempt was taken. -/
def TookRecord (attemptId : AttemptId) (ds : List NodeDeed) : Prop :=
  ∃ w, ⟨.inr (.takeQuiesced attemptId), .ok (some w)⟩ ∈ ds

/-- The message may resume: it carries an authority, or it has taken the record. -/
def Entitled (req : NodeResumeRequest) (ds : List NodeDeed) : Prop :=
  req.fenceToken = none → TookRecord req.attemptId ds

/-- What the text of a resume allows. -/
def ResumePermits (req : NodeResumeRequest) (ds : List NodeDeed) : nodeInterface.Op → Prop
  | .inr (.takeQuiesced attemptId) => attemptId = req.attemptId
  | .inr (.resumeSource _ ctx) => ctx.attemptId = req.attemptId ∧ Entitled req ds
  | .inr (.providerList _) | .inl (.providerGet ..) => Entitled req ds
  | .inr _ => True
  | .inl _ => False

/-- A look into the registry has failed. -/
def LookupFailed (ds : List NodeDeed) : Prop :=
  (∃ w e, ⟨.inr (.providerList w), .error e⟩ ∈ ds) ∨
    ∃ w id e, ⟨.inl (.providerGet w id), .error e⟩ ∈ ds

/-- The component was looked up, and its provider was resumed if there was one. -/
def Served (req : NodeResumeRequest) (ds : List NodeDeed) (id : String) : Prop :=
  ∃ found, ⟨.inl (.providerGet req.workloadId id), .ok found⟩ ∈ ds ∧
    ∀ p, found = some p → ∃ reply, ⟨.inr (.resumeSource p (resumeCtx req)), reply⟩ ∈ ds

/-- Every component that has a provider was served. -/
def Resumed (req : NodeResumeRequest) (ds : List NodeDeed) : Prop :=
  ∃ ids, ⟨.inr (.providerList req.workloadId), .ok ids⟩ ∈ ds ∧ ∀ id ∈ ids, Served req ds id

theorem Entitled.mono (h : Entitled req ds) (hsuffix : ds <:+ ds') : Entitled req ds' := by
  intro hnone
  obtain ⟨w, hmem⟩ := h hnone
  exact ⟨w, hsuffix.subset hmem⟩

theorem LookupFailed.mono (h : LookupFailed ds) (hsuffix : ds <:+ ds') : LookupFailed ds' := by
  rcases h with ⟨w, e, hmem⟩ | ⟨w, id, e, hmem⟩
  · exact .inl ⟨w, e, hsuffix.subset hmem⟩
  · exact .inr ⟨w, id, e, hsuffix.subset hmem⟩

theorem Served.mono {id : String} (h : Served req ds id) (hsuffix : ds <:+ ds') :
    Served req ds' id := by
  obtain ⟨found, hmem, hall⟩ := h
  refine ⟨found, hsuffix.subset hmem, fun p hp => ?_⟩
  obtain ⟨reply, hreply⟩ := hall p hp
  exact ⟨reply, hsuffix.subset hreply⟩

/-- Work goes on after a call, whether it was asked for or not. -/
theorem obeys_keepFirst_bind {α : Type} {asked : Bool} {call : Handling Unit}
    {f : Option FabricError → Handling α} (fact : List NodeDeed → Prop)
    {conclude : List NodeDeed → FabricResult α → Prop}
    (hcall : Obeys (ResumePermits req) (fun ds' _ => ds <:+ ds' ∧ fact ds') ds call)
    (h : ∀ ds' firstErr, ds <:+ ds' → (asked = true → fact ds') →
      Obeys (ResumePermits req) conclude ds' (f firstErr)) :
    Obeys (ResumePermits req) conclude ds (keepFirst asked firstErr call >>= f) := by
  rw [obeys_bind]
  refine obeys_ite (fun hasked => ?_) fun hasked => ?_
  · refine Obeys.attempt_bind hcall fun ds' result hdone => ?_
    cases result with
    | ok _ => exact h ds' _ hdone.1 fun _ => hdone.2
    | error e => exact h ds' _ hdone.1 fun _ => hdone.2
  · exact h ds _ (List.suffix_refl _) fun h => absurd h hasked

/-- Every component of the list is served. -/
theorem obeys_resumeProviders {ids : List String} (h : Entitled req ds) :
    Obeys (ResumePermits req) (fun ds' _ => ds <:+ ds' ∧
        (req.resume = true → LookupFailed ds' ∨ ∀ id ∈ ids, Served req ds' id)) ds
      (resumeProviders node req authorityTransfer ids firstErr) := by
  induction ids generalizing ds firstErr with
  | nil => exact ⟨List.suffix_refl _, fun _ => .inr (by simp)⟩
  | cons id ids ih =>
    refine ⟨h, fun reply => ?_⟩
    have hsuffix := List.suffix_cons (⟨.inl (.providerGet req.workloadId id), reply⟩ : NodeDeed) ds
    have h₁ := h.mono hsuffix
    -- What the rest serves is served with this component.
    have hrest {ds₂ : List NodeDeed} {firstErr : Option FabricError}
        (hgrown : ⟨.inl (.providerGet req.workloadId id), reply⟩ :: ds <:+ ds₂)
        (hserved : req.resume = true → Served req ds₂ id) :
        Obeys (ResumePermits req) (fun ds' _ => ds <:+ ds' ∧
            (req.resume = true → LookupFailed ds' ∨ ∀ id' ∈ id :: ids, Served req ds' id')) ds₂
          (resumeProviders node req authorityTransfer ids firstErr) := by
      refine (ih (h₁.mono hgrown)).weaken fun ds' result h' => ?_
      obtain ⟨hsuffix', hall⟩ := h'
      refine ⟨hsuffix.trans (hgrown.trans hsuffix'), fun hresume => ?_⟩
      refine (hall hresume).imp_right fun hall => List.forall_mem_cons.mpr ⟨?_, hall⟩
      exact (hserved hresume).mono hsuffix'
    cases reply with
    | error e => exact ⟨hsuffix, fun _ => .inl (.inr ⟨_, _, e, .head _⟩)⟩
    | ok found =>
      cases found with
      | none =>
        exact hrest (List.suffix_refl _) fun _ => ⟨none, .head _, fun p hp => absurd hp (by simp)⟩
      | some p =>
        refine obeys_keepFirst_bind (fun _ => True)
          ⟨trivial, fun _ => ⟨List.suffix_cons _ _, trivial⟩⟩ fun ds₁ firstErr hds₁ _ => ?_
        refine obeys_keepFirst_bind
          (fun ds' => ∃ reply, ⟨.inr (.resumeSource p (resumeCtx req)), reply⟩ ∈ ds')
          ⟨⟨rfl, h₁.mono hds₁⟩, fun reply => ⟨List.suffix_cons _ _, reply, .head _⟩⟩
          fun ds₂ firstErr hds₂ hresumed => ?_
        refine hrest (hds₁.trans hds₂) fun hresume => ⟨some p, ?_, fun p' hp' => ?_⟩
        · exact (hds₁.trans hds₂).subset (.head _)
        · obtain rfl := Option.some.inj hp'
          exact hresumed hresume

/-- A message that may resume lets go of every provider of the workload. -/
theorem obeys_resumeAll (h : Entitled req ds) :
    Obeys (ResumePermits req) (fun ds' _ => req.resume = true → LookupFailed ds' ∨ Resumed req ds')
      ds (resumeAll node req authorityTransfer) := by
  refine ⟨h, fun reply => ?_⟩
  have hsuffix := List.suffix_cons (⟨.inr (.providerList req.workloadId), reply⟩ : NodeDeed) ds
  cases reply with
  | error e => exact fun _ => .inl (.inl ⟨_, e, .head _⟩)
  | ok ids =>
    change Obeys _ _ _ (resumeProviders node req authorityTransfer ids none >>= _)
    rw [obeys_bind]
    refine (obeys_resumeProviders (h.mono hsuffix)).weaken fun ds' result h' => ?_
    obtain ⟨hsuffix', hserved⟩ := h'
    have hdone {ds'' : List NodeDeed} (hgrown : ds' <:+ ds'') (hresume : req.resume = true) :
        LookupFailed ds'' ∨ Resumed req ds'' := by
      refine (hserved hresume).imp (fun hfailed => hfailed.mono hgrown) fun hall => ?_
      refine ⟨ids, (hsuffix'.trans hgrown).subset (.head _), fun id hid => ?_⟩
      exact (hall id hid).mono hgrown
    cases result with
    | error e => exact hdone (List.suffix_refl _)
    | ok firstErr =>
      refine obeys_ite (fun _ => ⟨trivial, fun reply => ?_⟩) fun _ => hdone (List.suffix_refl _)
      cases reply <;> exact hdone (List.suffix_cons _ _)

/-- A resume of the coordinator that takes the record lets go of every provider. -/
theorem obeys_doResume :
    Obeys (ResumePermits req) (fun ds' _ => req.fenceToken = none → req.resume = true →
      TookRecord req.attemptId ds' → LookupFailed ds' ∨ Resumed req ds') []
      (doResume node req) := by
  unfold doResume
  split
  · rename_i token epoch htoken _
    have hgrant (ds : List NodeDeed) : Entitled req ds := fun hnone => by simp [htoken] at hnone
    refine ⟨trivial, fun reply => ?_⟩
    cases reply with
    | error e => exact fun hnone => absurd (htoken.symm.trans hnone) (by simp)
    | ok _ =>
      exact (obeys_resumeAll (hgrant _)).weaken fun _ _ hdone _ hresume _ => hdone hresume
  · exact fun _ _ htook => by simp [TookRecord] at htook
  · exact fun _ _ htook => by simp [TookRecord] at htook
  · refine ⟨rfl, fun reply => ?_⟩
    cases reply with
    | error e => exact fun _ _ htook => by simp [TookRecord] at htook
    | ok record =>
      cases record with
      | none => exact fun _ _ htook => by simp [TookRecord] at htook
      | some w =>
        have h : Entitled req [⟨.inr (.takeQuiesced req.attemptId), .ok (some w)⟩] :=
          fun _ => ⟨w, .head _⟩
        exact (obeys_resumeAll h).weaken fun _ _ hdone _ hresume _ => hdone hresume

end Resume

section Cleanup

variable {node : NodeState} {req : NodeCleanupRequest}

/-- The operation has nothing to do with what is quiesced. -/
def Unrelated : nodeInterface.Op → Prop
  | .inl op => Plain op
  | .inr (.takeQuiesced _) | .inr (.resumeSource ..) => False
  | .inr _ => True

theorem uses_doCleanup : Uses Unrelated (doCleanup node req) :=
  Uses.translate (fun op => by cases op <;> exact uses_call.mpr trivial) _

end Cleanup

section Serve

variable {codecs : WriteCodecs} {spec : Provider → ProviderSpec} {node : NodeState}

/-- What the text of a message allows. -/
def Permits (ds : List NodeDeed) (op : nodeInterface.Op) : Request → Prop
  | .capture req => ∃ ds₀ op₀, ds = ds₀.map Deed.inl ∧ op = .inl op₀ ∧ CapturePermits req ds₀ op₀
  | .resume req => ResumePermits req ds op
  | .cleanup _ => Unrelated op

/-- What is true of a message that has been handled. -/
def Concludes (ds : List NodeDeed) : Request → Prop
  | .capture req => ∃ ds₀, ds = ds₀.map Deed.inl ∧ (Recorded req ds₀ ∨ AllAborted req ds₀)
  | .resume req => req.fenceToken = none → req.resume = true → TookRecord req.attemptId ds →
      LookupFailed ds ∨ Resumed req ds
  | .cleanup _ => True

theorem obeys_serve (request : Request) :
    Obeys (fun ds op => Permits ds op request) (fun ds _ => Concludes ds request) []
      ((sources codecs spec node).serve request) := by
  have hlast {α : Type} {p : Handling α} (h : Obeys (fun ds op => Permits ds op request)
      (fun ds _ => Concludes ds request) [] p) :
      Obeys (fun ds op => Permits ds op request) (fun ds _ => Concludes ds request) []
        (p >>= fun _ => pure ()) := by
    rw [obeys_bind]
    refine h.weaken fun ds result hdone => ?_
    cases result <;> exact hdone
  cases request with
  | capture req => exact hlast ((@obeys_doCapture codecs spec node req).sum_inl)
  | resume req => exact hlast obeys_doResume
  | cleanup req =>
    exact hlast (Obeys.of_uses uses_doCleanup (fun _ _ hop _ => ⟨hop, fun _ => trivial⟩) trivial)

end Serve

end CheckpointFabric.Quiescence
