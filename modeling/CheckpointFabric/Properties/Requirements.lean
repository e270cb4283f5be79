import CheckpointFabric.Footprints.Staging
import CheckpointFabric.Properties.Anchoring
import CheckpointFabric.Properties.Evidence

/-!
# Required components

A capture request says which components are required. The node records for each component what its
provider says instead, so a requirement reaches the restore only where the two agree. A restore
that reports success has applied every component that its manifest marks required.

## Main definitions

* `Replica.Applied` — a restore has found the provider of a component and applied the payload
* `Survives` — a component is marked required, and no restore skips it

## Main results

* `Replica.obeys_doRestore_applied` — a restore that succeeds skips no required component
* `required_survives_iff` — when the requirements of a capture survive
* `required_lost` — not always
-/

set_option autoImplicit false

namespace CheckpointFabric.Replica

open Concurrency

variable {files : FileCodecs} {node : NodeState} {req : NodeRestoreRequest} {ds ds' : List DiskDeed}
  {id : String}

/-- The provider of the component was found, has restored the component and has verified it. -/
def Applied (req : NodeRestoreRequest) (id : String) (ds : List DiskDeed) : Prop :=
  ∃ p ctx payload, ⟨.providerGet req.workloadId id, .ok (some p)⟩ ∈ ds ∧
    ⟨.restore p ctx payload, .ok ()⟩ ∈ ds ∧ ⟨.verifyRestore p ctx, .ok ()⟩ ∈ ds

theorem Applied.mono (h : Applied req id ds) (hsuffix : ds <:+ ds') : Applied req id ds' := by
  obtain ⟨p, ctx, payload, hfound, hrestored, hverified⟩ := h
  exact ⟨p, ctx, payload, hsuffix.subset hfound, hsuffix.subset hrestored, hsuffix.subset hverified⟩

theorem not_ok_of_refused {text : String} {restored : List String} {a : NodeRestoreResult}
    (h : (.ok (refused req text restored) : FabricResult NodeRestoreResult) = .ok a) :
    ¬ a.ok = true := by
  obtain rfl := Except.ok.inj h
  exact Bool.false_ne_true

/-- A result that reports success has these components applied as far as they are required. -/
def AppliesRequired (req : NodeRestoreRequest) (components : List ComponentEntry)
    (ds : List DiskDeed) (result : FabricResult NodeRestoreResult) : Prop :=
  ∀ a, result = .ok a → a.ok = true → ∀ e ∈ components, e.required = true →
    Applied req e.componentId ds

/-- A provider was found for the entry, has been handed its content and has verified it. -/
def Handed (files : FileCodecs) (req : NodeRestoreRequest) (e : ComponentEntry)
    (ds : List DiskDeed) : Prop :=
  ∃ p ctx payload, ⟨.providerGet req.workloadId e.componentId, .ok (some p)⟩ ∈ ds ∧
    Recorded files e payload ∧ ⟨.restore p ctx payload, .ok ()⟩ ∈ ds ∧
    ⟨.verifyRestore p ctx, .ok ()⟩ ∈ ds

theorem Handed.mono {e : ComponentEntry} (h : Handed files req e ds) (hsuffix : ds <:+ ds') :
    Handed files req e ds' := by
  obtain ⟨p, ctx, payload, hfound, hrecorded, hrestored, hverified⟩ := h
  exact ⟨p, ctx, payload, hsuffix.subset hfound, hrecorded, hsuffix.subset hrestored,
    hsuffix.subset hverified⟩

theorem Handed.applied {e : ComponentEntry} (h : Handed files req e ds) :
    Applied req e.componentId ds := by
  obtain ⟨p, ctx, payload, hfound, -, hrestored, hverified⟩ := h
  exact ⟨p, ctx, payload, hfound, hrestored, hverified⟩

/-- A result that reports success has handed these components over as far as they are required. -/
def HandsRequired (files : FileCodecs) (req : NodeRestoreRequest) (components : List ComponentEntry)
    (ds : List DiskDeed) (result : FabricResult NodeRestoreResult) : Prop :=
  ∀ a, result = .ok a → a.ok = true → ∀ e ∈ components, e.required = true → Handed files req e ds

theorem obeys_restoreComponents_handed {ctx : RestoreContext} {components : List ComponentEntry}
    {restored : List String} {touched : List Provider} :
    Obeys (fun _ _ => True) (HandsRequired files req components) ds
      (restoreComponents files req ctx components restored touched) := by
  have herror {components : List ComponentEntry} : ∀ (ds : List DiskDeed) (e : FabricError),
      HandsRequired files req components ds (.error e) :=
    fun _ _ _ h => absurd h (by simp)
  induction components generalizing ds restored touched with
  | nil =>
    refine obeys_call_bind herror trivial fun _ => ?_
    exact fun _ _ _ e he => absurd he List.not_mem_nil
  | cons c components ih =>
    have hfail {ds : List DiskDeed} {touched : List Provider} {text : String} :
        Obeys (fun _ _ => True) (HandsRequired files req (c :: components)) ds (do
          cleanupRestored touched ctx
          pure (refused req text restored)) :=
      obeys_uses_bind herror uses_cleanupRestored (fun _ _ _ _ => trivial)
        fun _ _ _ _ ha hok => absurd hok (not_ok_of_refused ha)
    -- The others are handed over after the first one.
    have hrest {ds : List DiskDeed} {restored : List String} {touched : List Provider}
        (hc : c.required = true → Handed files req c ds) :
        Obeys (fun _ _ => True) (HandsRequired files req (c :: components)) ds
          (restoreComponents files req ctx components restored touched) := by
      refine ih.extends.weaken fun ds' result h a ha hok => ?_
      obtain ⟨hsuffix, hhanded⟩ := h
      refine List.forall_mem_cons.mpr ⟨fun hrequired => ?_, hhanded a ha hok⟩
      exact (hc hrequired).mono hsuffix
    refine obeys_call_bind herror trivial fun found => ?_
    cases found with
    | none => exact obeys_ite (fun _ => hfail) fun hoptional => hrest fun h => absurd h hoptional
    | some provider =>
      refine Obeys.attempt_bind ((Obeys.extend uses_readComponentPayload
        fun _ _ _ _ => trivial).and_returns returns_readComponentPayload) ?_
      rintro ds₁ result ⟨hsuffix, hrecorded⟩
      cases result with
      | error e => exact hfail
      | ok payload =>
        refine obeys_call_attempt_bind trivial fun applied => ?_
        cases applied with
        | error e => exact hfail
        | ok _ =>
          refine obeys_call_attempt_bind trivial fun verified => ?_
          cases verified with
          | error e => exact hfail
          | ok _ =>
            refine hrest fun _ => ⟨provider, ctx, payload, ?_, hrecorded payload rfl,
              .tail _ (.head _), .head _⟩
            exact .tail _ (.tail _ (hsuffix.subset (.head _)))

theorem obeys_restoreComponents_applied {ctx : RestoreContext} {components : List ComponentEntry}
    {restored : List String} {touched : List Provider} :
    Obeys (fun _ _ => True) (AppliesRequired req components) ds
      (restoreComponents files req ctx components restored touched) :=
  obeys_restoreComponents_handed.weaken fun _ _ h a ha hok e he hrequired =>
    (h a ha hok e he hrequired).applied

/-- A result that reports success has applied every required component of a manifest that was read
under the anchor. -/
def AppliesManifest (files : FileCodecs) (req : NodeRestoreRequest) (ds : List DiskDeed)
    (result : FabricResult NodeRestoreResult) : Prop :=
  ∀ a, result = .ok a → a.ok = true → ∃ m, AnchorRead files req ds m ∧
    ∀ e ∈ m.components, e.required = true → Applied req e.componentId ds

theorem obeys_doRestore_applied :
    Obeys (fun _ _ => True) (AppliesManifest files req) [] (doRestore files node req) := by
  refine obeys_doRestore_of_components (fun _ _ => trivial) (fun _ _ _ => trivial)
    (fun _ _ _ h => absurd h (by simp))
    (fun _ _ _ _ ha hok => absurd hok (not_ok_of_refused ha)) fun m ds ctx hread => ?_
  refine obeys_restoreComponents_applied.extends.weaken fun ds₂ result h a ha hok => ?_
  exact ⟨m, hread.mono h.1, h.2 a ha hok⟩

end CheckpointFabric.Replica

namespace CheckpointFabric

open Concurrency Coordinator System

section Requirements

variable {settings : Settings} {t : List (Event (fabric settings))} {id : Id} {c : CheckpointObject}

/-- A component is in the entries, marked required. Wherever every manifest that the disk shows under
the anchor has these entries, a restore that reports success has applied the component. -/
structure Survives (entries : List ComponentEntry) (id : String) : Prop where
  listed : ∃ e ∈ entries, e.componentId = id
  marked : ∀ e ∈ entries, e.componentId = id → e.required = true
  applied : ∀ files node req ds result,
    Follows (Replica.doRestore files node req) ds (.done (.ok result)) → result.ok = true →
    (∀ m, Replica.AnchorRead files req ds m → m.components = entries) → Replica.Applied req id ds

/-- The mark is enough. -/
theorem survives_iff {entries : List ComponentEntry} {id : String} :
    Survives entries id ↔ (∃ e ∈ entries, e.componentId = id) ∧
      ∀ e ∈ entries, e.componentId = id → e.required = true := by
  refine ⟨fun h => ⟨h.listed, h.marked⟩, fun ⟨hlisted, hmarked⟩ => ⟨hlisted, hmarked, ?_⟩⟩
  intro files node req ds result hfollows hok hshown
  obtain ⟨m, hread, happlied⟩ := Replica.obeys_doRestore_applied.of_follows hfollows result rfl hok
  obtain ⟨e, he, rfl⟩ := hlisted
  rw [hshown m hread] at happlied
  exact happlied e he (hmarked e he rfl)

/-- The registry answers with providers of the component that was asked for. -/
def Keyed (spec : Replica.Provider → Staging.ProviderSpec) (ds : List Staging.StagingDeed) : Prop :=
  ∀ workloadId id p, ⟨.providerGet workloadId id, .ok (some p)⟩ ∈ ds → (spec p).componentId = id

/-- The requirements of a capture survive in its answer exactly if every provider that was found for
a required component says itself that its component is required. -/
theorem survives_iff_of_captured {codecs : Staging.WriteCodecs}
    {spec : Replica.Provider → Staging.ProviderSpec} {node : NodeState} {req : NodeCaptureRequest}
    {ds : List Staging.StagingDeed} {result : NodeCaptureResult}
    (hcaptured : Follows (Staging.doCapture codecs spec node req) ds (.done (.ok result)))
    (hok : result.ok = true) (hkeyed : Keyed spec ds) :
    (∀ r ∈ req.components, r.required = true → Survives result.components r.componentId) ↔
      ∀ r ∈ req.components, r.required = true → ∀ p, Staging.LookedUp req ds r.componentId p →
        (spec p).required = true := by
  obtain ⟨providers, hselects, hentries⟩ :=
    Staging.obeys_doCapture_lists.of_follows hcaptured result rfl hok
  have hentry {id : String} {required : Bool} :
      (∃ e ∈ result.components, e.componentId = id ∧ e.required = required) ↔
        ∃ p ∈ providers, (spec p).componentId = id ∧ (spec p).required = required := by
    have hmem : (id, required) ∈ result.components.map (fun e => (e.componentId, e.required)) ↔
        (id, required) ∈ providers.map fun p => ((spec p).componentId, (spec p).required) := by
      rw [hentries]
    simpa [List.mem_map] using hmem
  constructor
  · intro hsurvives r hr hrequired p hfound
    have hp : p ∈ providers :=
      (hselects.selected _ p hfound).resolve_left List.not_mem_nil
    obtain ⟨e, he, hid, hmark⟩ := hentry.mpr ⟨p, hp, hkeyed _ _ p hfound, rfl⟩
    exact hmark ▸ (hsurvives r hr hrequired).marked e he hid
  · intro hmarks r hr hrequired
    refine survives_iff.mpr ⟨?_, fun e he hid => ?_⟩
    · obtain ⟨p, hfound⟩ := hselects.required r hr hrequired
      have hp : p ∈ providers :=
        (hselects.selected _ p hfound).resolve_left List.not_mem_nil
      obtain ⟨e, he, hid, -⟩ := hentry.mpr ⟨p, hp, hkeyed _ _ p hfound, rfl⟩
      exact ⟨e, he, hid⟩
    · obtain ⟨p, hp, hpid, hmark⟩ := hentry.mp ⟨e, he, hid, rfl⟩
      obtain ⟨r', -, hfound⟩ := hselects.found p hp
      -- The provider was found under the id that it has.
      rw [← hkeyed _ _ p hfound, hpid] at hfound
      exact hmark ▸ hmarks r hr hrequired p hfound

/-- In every run, the requirements of a capture that was committed survive in the manifest of its
checkpoint exactly if every provider that the node has found for a required component says itself
that its component is required. -/
theorem required_survives_iff (h : Run t) (hc : (stateOf t).checkpoint id = some c)
    (hcommitted : Journaled t .capture c.captureAttempt .dbCommitted) :
    c.Anchored settings.codecs ∧ ∃ tid run result, Evidenced t c tid run result ∧
      ∀ codecs spec node ds,
        Follows (Staging.doCapture codecs spec node (captureRequest settings run)) ds
          (.done (.ok result)) →
        Keyed spec ds →
        ((∀ r ∈ run.options.components, r.required = true → Survives c.components r.componentId) ↔
          ∀ r ∈ run.options.components, r.required = true → ∀ p,
            Staging.LookedUp (captureRequest settings run) ds r.componentId p →
              (spec p).required = true) := by
  obtain ⟨_, _, -, hfull⟩ := full_of_imaged h hc (imaged_of_committed h hcommitted)
  obtain ⟨tid, run, result, hevidenced⟩ := evidenced_of_committed h hc hcommitted
  refine ⟨hfull.anchored, tid, run, result, hevidenced, fun codecs spec node ds hcaptured hkeyed => ?_⟩
  rw [hevidenced.components]
  exact survives_iff_of_captured hcaptured hevidenced.ok hkeyed

end Requirements

/-! ### A requirement that is lost

The request marks its component as required, the provider of the component does not. -/

deriving instance DecidableEq for NodeCaptureRequest, NodeCaptureResult

namespace Demo

/-- Every provider is one of the component `app`, which it holds to be optional. -/
def optional (_ : Replica.Provider) : Staging.ProviderSpec :=
  ⟨"app", .applicationState, false, 1, "application", "", []⟩

/-- There is a provider, and nothing fails. -/
def captureAnswer : (op : Staging.Op) → FabricResult op.Reply
  | .stagingExists | .commitExists => .ok false
  | .commitParentExists => .ok true
  | .readFile _ => .ok (Staging.Demo.frame Replica.Demo.payload)
  | .capture .. => .ok Replica.Demo.payload
  | .now => .ok 0
  | .providerGet .. => .ok (some 1)
  | .quiesce .. => .ok .acked
  | .fetchManifest .. => .ok ⟨false, none, none, []⟩
  | .fetchComponent .. => .ok ⟨false, none, 0, [], true⟩
  | .removeStaging | .createDir _ | .createFile _ | .appendFile .. | .syncFile _ | .writeFile ..
  | .createCommitParent | .syncStaging | .renameToCommit | .prepareCapture .. | .verifyCapture ..
  | .abortCapture .. | .insertQuiesced .. | .connect _ => .ok ()

def requiredRequest : NodeCaptureRequest where
  attemptId := .capture 7 1
  checkpointId := 2
  workloadId := 7
  checkpointGeneration := 1
  consistency := .crashConsistent
  quiescence := .none
  components := [Staging.Demo.component "app"]
  compression := settings.policy.compressionSpec

/-- The deeds of the capture on its node, and what is left to do. -/
def requiredShown : List Staging.StagingDeed × Staging.Work NodeCaptureResult :=
  Program.advance captureAnswer 30 []
    (Staging.doCapture Staging.Demo.library optional Replica.Demo.node requiredRequest)

/-- The value that a program has come to. -/
def valueOf {α : Type} : Staging.Work α → Option α
  | .done (.ok a) => some a
  | _ => none

theorem eq_done_of_valueOf {α : Type} {p : Staging.Work α} {a : α} (h : valueOf p = some a) :
    p = .done (.ok a) := by
  unfold valueOf at h
  split at h
  · rw [Option.some.inj h]
  · cases h

def requiredAnswer : NodeCaptureResult where
  attemptId := .capture 7 1
  ok := true
  error := none
  components := [Staging.entryOf Staging.Demo.library optional settings.policy.compressionSpec
    (1, Replica.Demo.payload)]
  totalLogicalBytes := 2
  totalPhysicalBytes := 11
  compressedBytes := 11
  cooperativeAck := false

/-- What the coordinator has hashed for the root of the manifest. -/
def oneComponentRoot : String := "#" ++ Replica.Demo.entry.contentHash ++ "manifest 2 "

/-- The libraries know the manifest of this capture. -/
def oneComponent : Settings :=
  { settings with
    codecs :=
      { codecs with
        ofCanonical := fun text =>
          if text = "manifest 2 " ++ oneComponentRoot then
            some { manifest oneComponentRoot with components := requiredAnswer.components }
          else none } }

/-- A capture of a required component, which the node answers in this way. -/
def required : List (Action (fabric oneComponent)) :=
  let served (tid : ℕ) (request : Request) (outcome : Outcome) : List (Action (fabric oneComponent)) :=
    .accept request :: List.replicate 50 (.advance tid ({ delivery := .answered outcome } : Input))
  .move (Move.adopt "n1" 1) ::
    served 0 (.nodeRegister ⟨"n1", "addr", "boot", "/data", runtime, [], 1⟩) {} ++
    served 1 (.workloadCreate spec (some "n1")) {} ++
    served 2 (.capture 7 { components := [Staging.Demo.component "app"] } operator)
      { components := requiredAnswer.components
        totalLogicalBytes := 2
        totalPhysicalBytes := 11
        compressedBytes := 11 }

/-- The message that has asked a node for components, and the answer. -/
def askedWith : FabricDeed → Option (NodeCaptureRequest × NodeCaptureResult)
  | ⟨.call _ (.capture req), .ok result⟩ => some (req, result)
  | _ => none

/-- The provider that was looked up, with its workload and its component. -/
def lookedUp : Staging.StagingDeed → Option (Id × String × Replica.Provider)
  | ⟨.providerGet workloadId id, .ok (some p)⟩ => some (workloadId, id, p)
  | _ => none

theorem eq_of_lookedUp {d : Staging.StagingDeed} {workloadId : Id} {id : String}
    {p : Replica.Provider} (h : lookedUp d = some (workloadId, id, p)) :
    d = ⟨.providerGet workloadId id, .ok (some p)⟩ := by
  unfold lookedUp at h
  split at h
  · cases h
    rfl
  · cases h

/-- The node has captured what it answers, from a provider that does not require it. -/
theorem required_captured :
    Follows (Staging.doCapture Staging.Demo.library optional Replica.Demo.node requiredRequest)
      requiredShown.1 (.done (.ok requiredAnswer)) ∧ Keyed optional requiredShown.1 := by
  refine ⟨?_, fun workloadId id p hmem => ?_⟩
  · have hfollows : Follows (Staging.doCapture Staging.Demo.library optional Replica.Demo.node
        requiredRequest) requiredShown.1 requiredShown.2 := follows_advance 30 .start
    rw [← eq_done_of_valueOf (show valueOf requiredShown.2 = some requiredAnswer by decide +kernel)]
    exact hfollows
  · have hall : ∀ d ∈ requiredShown.1, ∀ x ∈ lookedUp d, "app" = x.2.1 := by
      decide +kernel
    exact hall _ hmem _ rfl

/-- The checkpoint of this capture is committed, with that answer. -/
theorem required_committed :
    ∃ (t : List (Event (fabric oneComponent))) (c : CheckpointObject), Run t ∧
      (stateOf t).checkpoint 2 = some c ∧ Journaled t .capture c.captureAttempt .dbCommitted ∧
      ∀ tid run result, Evidenced t c tid run result →
        captureRequest oneComponent run = requiredRequest ∧ result = requiredAnswer := by
  obtain ⟨c, hc, hattempt⟩ := Option.map_eq_some_iff.mp (show
    ((stateOf (exec required).trace).checkpoint 2).map (·.captureAttempt) = some (.capture 7 1) by
      decide +kernel)
  have hcommitted : Journaled (exec required).trace .capture (.capture 7 1) .dbCommitted :=
    Store.journalHas_eq_true_iff.mp (by decide +kernel)
  have hasked : ∀ tid < admissions (exec required).trace, ∀ d ∈ deeds tid (exec required).trace,
      ∀ x ∈ askedWith d, x = (requiredRequest, requiredAnswer) := by
    decide +kernel
  refine ⟨(exec required).trace, c, exec_run required, hc, hattempt ▸ hcommitted, ?_⟩
  intro tid run result hevidenced
  have hmem := hevidenced.answered
  exact Prod.mk.inj (hasked tid (lt_admissions_of_mem_deeds (exec_run required) hmem) _ hmem _ rfl)

end Demo

/-- So a requirement that its provider does not share is lost. -/
theorem required_survives_iff_optional :
    ∃ (t : List (Event (fabric Demo.oneComponent))) (c : CheckpointObject) (run : CaptureRun),
      c.Anchored Demo.oneComponent.codecs ∧
      (∃ tid result, Evidenced t c tid run result) ∧
      run.options.components = [Staging.Demo.component "app"] ∧
      ¬ ∀ r ∈ run.options.components, r.required = true → Survives c.components r.componentId := by
  obtain ⟨t, c, h, hc, hcommitted, hasked⟩ := Demo.required_committed
  obtain ⟨hanchored, tid, run, result, hevidenced, hiff⟩ := required_survives_iff h hc hcommitted
  obtain ⟨hrequest, rfl⟩ := hasked tid run result hevidenced
  have hcomponents : run.options.components = [Staging.Demo.component "app"] :=
    congrArg NodeCaptureRequest.components hrequest
  obtain ⟨hcaptured, hkeyed⟩ := Demo.required_captured
  refine ⟨t, c, run, hanchored, ⟨tid, _, hevidenced⟩, hcomponents, fun hsurvives => ?_⟩
  have hmarks := (hiff _ _ _ _ (hrequest ▸ hcaptured) hkeyed).mp hsurvives
  obtain ⟨d, hd, hfound⟩ : ∃ d ∈ Demo.requiredShown.1, Demo.lookedUp d = some (7, "app", 1) := by
    decide +kernel
  obtain rfl := Demo.eq_of_lookedUp hfound
  have hmark := hmarks (Staging.Demo.component "app") (by simp [hcomponents]) rfl 1
  rw [hrequest] at hmark
  exact absurd (hmark hd) Bool.false_ne_true

/-- Not every requirement survives. -/
theorem required_lost :
    ¬ ∀ (settings : Settings) (t : List (Event (fabric settings))) (id : Id)
      (c : CheckpointObject), Run t → (stateOf t).checkpoint id = some c →
      Journaled t .capture c.captureAttempt .dbCommitted →
      ∀ tid run result, Evidenced t c tid run result →
      ∀ codecs spec node ds,
        Follows (Staging.doCapture codecs spec node (captureRequest settings run)) ds
          (.done (.ok result)) →
        Keyed spec ds →
        ∀ r ∈ run.options.components, r.required = true → Survives c.components r.componentId := by
  intro hall
  obtain ⟨t, c, h, hc, hcommitted, hasked⟩ := Demo.required_committed
  obtain ⟨tid, run, result, hevidenced⟩ := evidenced_of_committed h hc hcommitted
  obtain ⟨hrequest, rfl⟩ := hasked tid run result hevidenced
  have hcomponents : run.options.components = [Staging.Demo.component "app"] :=
    congrArg NodeCaptureRequest.components hrequest
  obtain ⟨hcaptured, hkeyed⟩ := Demo.required_captured
  have hsurvives := hall _ t 2 c h hc hcommitted tid run _ hevidenced _ _ _ _
    (hrequest ▸ hcaptured) hkeyed (Staging.Demo.component "app") (by simp [hcomponents]) rfl
  obtain ⟨e, he, hid⟩ := hsurvives.listed
  have hmarked := hsurvives.marked e he hid
  rw [hevidenced.components] at he
  obtain rfl := List.mem_singleton.mp he
  exact absurd hmarked Bool.false_ne_true

end CheckpointFabric
