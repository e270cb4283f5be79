import CheckpointFabric.Disk
import CheckpointFabric.Footprints.Staging
import CheckpointFabric.Properties.Anchoring

/-!
# What a capture leaves on its node

A capture asks the providers of the requested components for their payloads, one after the
other, and writes each payload with its sidecars. The answer describes exactly what was taken.

## Main definitions

* `entryOf` — how a captured payload is recorded
* `Written` — the payloads are in the staging directory
* `Took` — what an answer that reports success says

## Main results

* `yields_doCapture` — every capture that reports success took what it reports
-/

set_option autoImplicit false

namespace CheckpointFabric.Staging

open Concurrency Replica

section NodeCapture

variable {codecs : WriteCodecs} {spec : Provider → ProviderSpec} {node : NodeState}
  {req : NodeCaptureRequest} {s s' : Site} {tree tree' tree₁ : Tree} {ctx : CaptureContext}
  {taken : List (Provider × Bytes)} {providers : List Provider}

section Definitions

variable (codecs : WriteCodecs) (spec : Provider → ProviderSpec) (compression : CompressionSpec)

/-- The bytes that a payload is stored as, if it can be compressed. -/
def storedOf (payload : Bytes) : Bytes := (compressBytes codecs compression payload).toOption.getD []

/-- How a captured payload is recorded. -/
def entryOf (x : Provider × Bytes) : ComponentEntry :=
  componentEntry (spec x.1) (representation codecs (spec x.1).componentId x.2
    (storedOf codecs compression x.2) compression) (codecs.sha256Hex x.2)

/-- The payloads were written into a directory that held `tree`. Each of them can be read back if
no two of the components share a file. -/
structure Written (tree : Tree) (taken : List (Provider × Bytes)) (tree' : Tree) : Prop where
  compressed : ∀ x ∈ taken, compressBytes codecs compression x.2 = .ok (storedOf codecs compression x.2)
  frame : ∀ path, (∀ x ∈ taken, path ∉ componentFiles (spec x.1).componentId) → tree' path = tree path
  holds : taken.Pairwise (fun x y => (componentFiles (spec x.1).componentId).Disjoint
      (componentFiles (spec y.1).componentId)) →
    ∀ x ∈ taken, Holds codecs tree' (spec x.1).componentId (storedOf codecs compression x.2)
      (codecs.sha256Hex x.2)

end Definitions

section Components

/-- A payload that was written stays while the others are written. -/
theorem Written.cons {x : Provider × Bytes}
    (hcompressed : compressBytes codecs req.compression x.2 = .ok (storedOf codecs req.compression x.2))
    (hsame : ∀ path ∉ componentFiles (spec x.1).componentId, tree₁ path = tree path)
    (hholds : Holds codecs tree₁ (spec x.1).componentId (storedOf codecs req.compression x.2)
      (codecs.sha256Hex x.2))
    (h : Written codecs spec req.compression tree₁ taken tree') :
    Written codecs spec req.compression tree (x :: taken) tree' where
  compressed := List.forall_mem_cons.mpr ⟨hcompressed, h.compressed⟩
  frame path hpath := by
    obtain ⟨hnot, hrest⟩ := List.forall_mem_cons.mp hpath
    exact (h.frame path hrest).trans (hsame path hnot)
  holds hdisjoint := by
    obtain ⟨hx, hrest⟩ := List.pairwise_cons.mp hdisjoint
    refine List.forall_mem_cons.mpr ⟨hholds.congr fun path hpath => ?_, h.holds hrest⟩
    exact h.frame path fun y hy hpath' => hx y hy hpath hpath'

/-- The payloads are taken and written in the order of the providers. -/
theorem yields_captureComponents {captured : Captured} (hs : s.staging = some tree) :
    Yields (Step spec) (fun captured' s' => ∃ taken tree', taken.map Prod.fst = providers ∧
      s' = { s with staging := some tree', captured := taken.reverse ++ s.captured } ∧
      captured'.components = captured.components ++ taken.map (entryOf codecs spec req.compression) ∧
      Written codecs spec req.compression tree taken tree')
      (captureComponents codecs spec req ctx providers captured) s := by
  induction providers generalizing s tree captured with
  | nil =>
    refine yields_pure.mpr ⟨[], tree, rfl, ?_, ?_, ?_⟩
    · rw [← hs]
      rfl
    · simp
    · exact ⟨by simp, fun _ _ => rfl, by simp⟩
  | cons provider providers ih =>
    refine yields_call_bind fun payload s₁ hstep => ?_
    obtain rfl := hstep
    refine yields_call_bind fun _ s₂ hverify => ?_
    obtain rfl := hverify.eq_of_quiet not_false
    refine yields_writeComponentPayload.bind fun repr s₃ hwritten => ?_
    obtain ⟨stored, hstored, rfl, rfl⟩ := hwritten
    have hstoredOf : storedOf codecs req.compression payload = stored := by
      rw [storedOf, hstored]
      rfl
    refine (ih rfl).weaken ?_
    rintro captured' s₄ ⟨taken, tree', hproviders, rfl, hcomponents, hrest⟩
    refine ⟨(provider, payload) :: taken, tree', ?_, ?_, ?_, ?_⟩
    · rw [List.map_cons, hproviders]
    · simp [Site.stage]
    · rw [hcomponents, List.map_cons, List.append_assoc]
      simp only [entryOf, hstoredOf]
      rfl
    · refine Written.cons (by rw [hstored, hstoredOf]) (fun path hpath => ?_) ?_ hrest
      · rw [Tree.writeSidecars_of_notMem hpath, Tree.write_of_ne, hs, Option.getD_some]
        rintro rfl
        exact hpath (.head _)
      · rw [hstoredOf]
        exact holds_writeSidecars (Tree.write_self _ _ _)

end Components

section Preparation

/-- The providers are those of the requested components, and a required component has one. -/
theorem yields_selectProviders {components : List CaptureComponentRequest} :
    Yields (Step spec) (fun providers s' => s' = s ∧
      (providers.map fun p => (spec p).componentId).Sublist (components.map (·.componentId)) ∧
      ∀ r ∈ components, r.required = true → r.componentId ∈ providers.map fun p => (spec p).componentId)
      (selectProviders req components) s := by
  induction components with
  | nil => exact yields_pure.mpr ⟨rfl, .slnil, by simp⟩
  | cons r components ih =>
    refine yields_call_bind fun found s₁ hstep => ?_
    obtain ⟨hid, rfl⟩ := hstep
    cases found with
    | some provider =>
      refine ih.bind fun providers s₂ hrest => yields_pure.mpr ?_
      obtain ⟨rfl, hsub, hrequired⟩ := hrest
      have hid := hid provider rfl
      refine ⟨rfl, ?_, List.forall_mem_cons.mpr ⟨fun _ => ?_, fun r' hr' hr'' => ?_⟩⟩
      · rw [List.map_cons, List.map_cons, hid]
        exact hsub.cons_cons _
      · rw [List.map_cons, hid]
        exact .head _
      · exact .tail _ (hrequired r' hr' hr'')
    | none =>
      dsimp only
      split
      · exact yields_fail
      · rename_i hoptional
        refine ih.weaken ?_
        rintro providers s₂ ⟨rfl, hsub, hrequired⟩
        exact ⟨rfl, hsub.cons _, List.forall_mem_cons.mpr ⟨fun h => absurd h hoptional, hrequired⟩⟩

theorem Op.Prepares.quiet {op : Op} (h : op.Prepares) : op.Quiet := by
  cases op <;> first | exact not_false | exact h.elim

/-- A cooperative acknowledgement is one of every provider. -/
theorem yields_quiesceAll {ack : Bool} :
    Yields (Step spec) (fun ack' s' => ∃ acked, s' = { s with acked := acked ++ s.acked } ∧
      (ack' = true → ack = true ∧ ∀ p ∈ providers, p ∈ acked))
      (quiesceAll ctx providers ack) s := by
  induction providers generalizing s ack with
  | nil => exact yields_pure.mpr ⟨[], rfl, fun h => ⟨h, by simp⟩⟩
  | cons provider providers ih =>
    refine yields_call_bind fun outcome s₁ hstep => ?_
    cases outcome with
    | acked =>
      obtain rfl := hstep
      refine ih.weaken ?_
      rintro ack' s₂ ⟨acked, rfl, hall⟩
      refine ⟨acked ++ [provider], by simp, fun h => ⟨(hall h).1, ?_⟩⟩
      refine List.forall_mem_cons.mpr ⟨by simp, fun p hp => ?_⟩
      exact List.mem_append_left _ ((hall h).2 p hp)
    | forced =>
      obtain rfl := hstep
      refine ih.weaken ?_
      rintro ack' s₂ ⟨acked, rfl, hall⟩
      exact ⟨acked, rfl, fun h => absurd (hall h).1 (by simp)⟩

theorem yields_quiesceProviders :
    Yields (Step spec) (fun ack s' => ∃ acked, s' = { s with acked := acked ++ s.acked } ∧
      (ack = true → req.quiescence = .cooperative ∧ providers ≠ [] ∧ ∀ p ∈ providers, p ∈ acked))
      (quiesceProviders req ctx providers) s := by
  unfold quiesceProviders
  split
  · exact yields_pure.mpr ⟨[], rfl, by simp⟩
  · rename_i hcooperative
    refine yields_quiesceAll.weaken ?_
    rintro ack s' ⟨acked, rfl, hall⟩
    refine ⟨acked, rfl, fun h => ⟨hcooperative, ?_, (hall h).2⟩⟩
    have hsome := (hall h).1
    rintro rfl
    simp at hsome
  · -- Whether a forced quiesce succeeds does not matter.
    have hforced : Ends (Step spec) (fun _ s' => ∃ acked, s' = { s with acked := acked ++ s.acked })
        (Program.forEach providers fun p => (perform (.quiesce p ctx)).ignore) s := by
      have huses : Uses (fun op : stagingInterface.Op => ∃ p ctx, op = Op.quiesce p ctx)
          (Program.forEach providers fun p => (perform (.quiesce p ctx)).ignore) :=
        Uses.forEach fun p _ => Uses.ignore (uses_call.mpr ⟨p, ctx, rfl⟩)
      refine Ends.of_uses huses ?_ ⟨[], rfl⟩
      rintro _ s₁ reply s₂ ⟨p, ctx, rfl⟩ hstep ⟨acked, rfl⟩
      cases reply with
      | error e =>
        obtain ⟨staging, hsame, rfl⟩ := hstep
        exact ⟨acked, by rw [hsame not_false]; rfl⟩
      | ok outcome =>
        cases outcome with
        | acked => exact ⟨p :: acked, hstep⟩
        | forced => exact ⟨acked, hstep⟩
    refine Yields.bind (hforced.weaken fun _ _ h _ _ => h) fun _ s' h => ?_
    obtain ⟨acked, rfl⟩ := h
    exact yields_pure.mpr ⟨acked, rfl, by simp⟩

end Preparation

/-- What a capture has taken when its answer reports success: the payloads of providers of the
requested components, in the order of the request. -/
structure Took (codecs : WriteCodecs) (spec : Provider → ProviderSpec) (req : NodeCaptureRequest)
    (s : Site) (a : NodeCaptureResult) (s' : Site) (taken : List (Provider × Bytes)) : Prop where
  ids : (taken.map fun x => (spec x.1).componentId).Sublist (req.components.map (·.componentId))
  required : ∀ r ∈ req.components, r.required = true → ∃ x ∈ taken,
    (spec x.1).componentId = r.componentId
  captured : s'.captured = taken.reverse ++ s.captured
  entries : a.components = taken.map (entryOf codecs spec req.compression)
  written : ∃ tree tree', s'.staging = some tree' ∧
    Written codecs spec req.compression tree taken tree'
  acked : ∃ acked, s'.acked = acked ++ s.acked ∧ (a.cooperativeAck = true →
    req.quiescence = .cooperative ∧ taken ≠ [] ∧ ∀ x ∈ taken, x.1 ∈ acked)

theorem yields_abortCapture {prepared : List Provider} {e : FabricError} :
    Yields (Step spec) (fun a _ => a.ok = false) (abortCapture req ctx prepared e) s :=
  Yields.of_returns (Returns.bind fun _ => Returns.bind fun _ => returns_pure rfl)

/-- A capture that reports success took what it reports. -/
theorem yields_doCapture :
    Yields (Step spec) (fun a s' => a.ok = true → ∃ taken, Took codecs spec req s a s' taken)
      (doCapture codecs spec node req) s := by
  have habort {ctx : CaptureContext} {prepared : List Provider} {e : FabricError} {s₁ : Site} :
      Yields (Step spec) (fun a s' => a.ok = true → ∃ taken, Took codecs spec req s a s' taken)
        (abortCapture req ctx prepared e) s₁ :=
    yields_abortCapture.weaken fun a _ hfailed hok => absurd hok (by simp [hfailed])
  unfold doCapture
  refine yields_createStaging.bind fun _ s₁ h₁ => ?_
  obtain ⟨tree, rfl⟩ := h₁
  refine Yields.attempt_bind yields_selectProviders (fun providers s₂ h₂ => ?_) fun e s₂ => habort
  obtain ⟨rfl, hids, hrequired⟩ := h₂
  refine Ends.bind (ends_quiet (uses_prepareProviders.mono fun _ => Op.Prepares.quiet)) (fun prepared s₃ h₃ => ?_)
    fun _ _ _ _ h => absurd h (by simp)
  obtain rfl := h₃
  obtain ⟨prepared, failure⟩ := prepared
  cases failure with
  | some e => exact habort
  | none =>
    refine Yields.attempt_bind yields_quiesceProviders (fun ack s₄ h₄ => ?_) fun e s₄ => habort
    obtain ⟨acked, rfl, hack⟩ := h₄
    refine Yields.attempt_bind (yields_captureComponents rfl) (fun captured s₅ h₅ => ?_)
      fun e s₅ => habort
    obtain ⟨taken, tree', rfl, rfl, hentries, hwritten⟩ := h₅
    refine yields_call_bind fun _ s₆ h₆ => ?_
    obtain rfl := h₆
    rw [List.map_map] at hids hrequired
    refine yields_pure.mpr fun _ => ⟨taken, hids, fun r hr hr' => ?_, rfl, ?_, ⟨tree, tree', rfl, hwritten⟩,
      acked, rfl, fun h => ?_⟩
    · exact List.mem_map.mp (hrequired r hr hr')
    · exact hentries.trans (List.nil_append _)
    · obtain ⟨hcooperative, hsome, hall⟩ := hack h
      refine ⟨hcooperative, fun hnil => hsome (by rw [hnil]; rfl), fun x hx => ?_⟩
      exact hall _ (List.mem_map_of_mem hx)

end NodeCapture

/-! ### A small capture

Providers whose payloads are given, and are among those that the libraries know here. -/

namespace Demo

def payloads : List Bytes := [utf8 "hi", utf8 "hello", [1, 2]]

/-- What zstd makes of a short payload: a frame with one block, which has the payload as it is. -/
def frame (payload : Bytes) : Bytes :=
  [0x28, 0xB5, 0x2F, 0xFD, 0x00, 0x58, UInt8.ofNat (8 * payload.length + 1), 0x00, 0x00] ++ payload

def hashes : List (Bytes × String) :=
  [(utf8 "hi", "8f434346648f6b96df89dda901c5176b10a6d83961dd3c1ac88b59b2dc327aa4"),
    (utf8 "hello", "2cf24dba5fb0a30e26e83b2ac5b9e29e1b161e5c1fa7425e73043362938b9824"),
    ([1, 2], "a12871fee210fb8619291eaea194581cbd2531e4b23759d225f6806923f63222"),
    (frame (utf8 "hi"), "81feab543f2aa081bbe0d7703ef5c545686d17bddf4b012e759e5a029a485f8c"),
    (frame (utf8 "hello"), "390cc7ff3ad82fc1db21ca5904e32b8e2fe20a681d814b1116a4aea3dad8d0bf"),
    (frame [1, 2], "86a907340cf4e06f7e90ffa86edb6644978eca13395ccddd95a36e56ad5de160")]

/-- The libraries, on these payloads. -/
def library : WriteCodecs :=
  { Replica.Demo.library [] hashes with
    zstdEncode := fun payload level =>
      if level = 3 ∧ payload ∈ payloads then .ok (frame payload) else .error "no memory"
    zstdDecode := fun stored limit =>
      match payloads.find? fun payload => frame payload == stored with
      | some payload => .ok (payload.take limit)
      | none => .error "Unknown frame descriptor" }

/-- The providers of components with these ids and payloads. -/
def providers (contents : List (String × Bytes)) : Surroundings where
  spec p := ⟨(contents.getD p ("", [])).1, .applicationState, true, 1, "application", "", []⟩
  providers := List.range contents.length
  payload p := (contents.getD p ("", [])).2

def component (componentId : String) : CaptureComponentRequest :=
  ⟨componentId, .applicationState, true, 1, "application"⟩

def capture (ids : List String) : NodeCaptureRequest where
  attemptId := .capture 7 1
  checkpointId := 2
  workloadId := 7
  checkpointGeneration := 1
  consistency := .crashConsistent
  quiescence := .none
  components := ids.map component
  compression := ⟨.none, 0, "1"⟩

/-- The capture of these components alone, and the site that it leaves. -/
def capturedAlone (contents : List (String × Bytes)) : FabricResult NodeCaptureResult × Site :=
  (doCapture library (providers contents).spec Replica.Demo.node
    (capture (contents.map Prod.fst))).eval (providers contents).answer .fresh

end Demo

end CheckpointFabric.Staging
