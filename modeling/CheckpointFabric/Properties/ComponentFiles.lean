import CheckpointFabric.Properties.NodeCapture
import Mathlib.Data.List.Pairwise

/-!
# The files of different components

The validation of a capture request asks that the ids of the components are safe path segments
and differ. That keeps the payloads apart, but not a payload from a sidecar: beside the payload
of `a` lies `a.sha256`, which is an admitted id as well.

## Main definitions

* `KeptApart` — no component touches the files of another

## Main results

* `ends_verifyStoredFile` — what was written verifies
* `keptApart_iff` — the files stay apart iff no id is that of a sidecar of another
-/

set_option autoImplicit false

namespace CheckpointFabric.Staging

open Concurrency Replica

section Reading

variable {files : FileCodecs} {codecs : WriteCodecs} {base : String} {tree : Tree} {α : Type}
  {post : FabricResult α → Unit → Prop}

/-- A line without white space is read back without its end. -/
theorem trim_line {text : String} (h : ∀ c ∈ text.toList, isWhiteSpace c = false) :
    trim (text ++ "\n") = text := by
  have hdrop : (text ++ "\n").toList.dropWhile isWhiteSpace =
      if text.toList = [] then [] else text.toList ++ ['\n'] := by
    rw [String.toList_append]
    cases htext : text.toList with
    | nil => rfl
    | cons c chars =>
      have hc := h c (htext ▸ .head _)
      rw [List.cons_append, List.dropWhile_cons_of_neg (by simp [hc]), if_neg (by simp)]
      rfl
  rw [trim, hdrop]
  split
  · rename_i hnil
    rw [List.rdropWhile_nil, ← hnil, String.ofList_toList]
  · rw [List.rdropWhile_concat_pos _ _ _ (by decide), List.rdropWhile_eq_self_iff.mpr]
    · exact String.ofList_toList
    · intro hne
      simp [h _ (List.getLast_mem hne)]

/-- Hexadecimal digits are no white space. -/
theorem isWhiteSpace_hexDigits {n digits : ℕ} : ∀ c ∈ hexDigits n digits, isWhiteSpace c = false := by
  induction digits generalizing n with
  | zero => simp [hexDigits]
  | succ digits ih =>
    have hdigit : ∀ k < 16, isWhiteSpace (Nat.digitChar k) = false := by decide
    rw [hexDigits]
    refine List.forall_mem_append.mpr ⟨ih, List.forall_mem_singleton.mpr ?_⟩
    exact hdigit _ (Nat.mod_lt n (by decide))

theorem trim_crcHex {crc : UInt32} : trim (crcHex crc ++ "\n") = crcHex crc := by
  refine trim_line fun c hc => ?_
  rw [crcHex, String.toList_ofList] at hc
  exact isWhiteSpace_hexDigits c hc

theorem ends_answered_mapError_bind {op : Replica.Op} {answer : op.Reply}
    {g : FabricError → FabricError} {f : op.Reply → Replica.Work α}
    (hanswer : ∀ reply, Undamaged base tree op () reply () → reply = .ok answer)
    (h : Ends (Undamaged base tree) post (f answer) ()) :
    Ends (Undamaged base tree) post ((Replica.perform op).mapError g >>= f) () := by
  intro reply _ hstep
  rw [hanswer reply hstep]
  exact h

variable {componentId contentHash rel : String} {stored : Bytes}

/-- Reading a whole file and hashing it. -/
theorem ends_fileHash {β : Type} {hash : Bytes → β} {g g' : FabricError → FabricError}
    (hfile : tree rel = some stored) :
    Ends (Undamaged base tree) (fun result _ => result = .ok (hash stored))
      (do
        (Replica.perform (.openFile s!"{base}/{rel}")).mapError g
        let bytes ← (Replica.perform (.read s!"{base}/{rel}")).mapError g'
        pure (hash bytes)) () := by
  refine ends_answered_mapError_bind (fun reply hreply => hreply _ _ rfl hfile) ?_
  exact ends_answered_mapError_bind (fun reply hreply => hreply _ _ rfl hfile) rfl

theorem ends_checkSize (hfile : tree rel = some stored) :
    Ends (Undamaged base tree) (fun result _ => result = .ok ())
      (checkSize s!"{base}/{rel}" (some stored.length)) () := by
  refine ends_answered_mapError_bind (fun reply hreply => hreply _ _ rfl hfile) ?_
  exact Ends.ensure rfl rfl

theorem ends_checkCrc (hfile : tree rel = some stored)
    (hsidecar : tree (rel ++ ".crc32c") = some (utf8 (crcHex (files.crc32c stored) ++ "\n"))) :
    Ends (Undamaged base tree) (fun result _ => result = .ok ())
      (checkCrc files s!"{base}/{rel}") () := by
  have hpath : sidecarCrcPath s!"{base}/{rel}" = s!"{base}/{sidecarCrcPath rel}" :=
    String.append_assoc
  unfold checkCrc
  dsimp only
  rw [hpath]
  have hasks : Ends (Undamaged base tree) (fun result _ => result = .ok true)
      (Replica.asks (Replica.perform (.pathExists s!"{base}/{sidecarCrcPath rel}"))) () := by
    intro reply _ hstep
    rw [hstep _ _ rfl hsidecar]
    exact rfl
  refine hasks.bind (fun present _ hpresent => ?_) (by rintro _ _ ⟨⟩)
  obtain rfl := Except.ok.inj hpresent
  generalize hline : crcHex (files.crc32c stored) ++ "\n" = line at hsidecar
  refine ends_answered_mapError_bind (fun reply hreply => hreply _ _ rfl hsidecar) ?_
  refine (ends_fileHash hfile).bind (fun actual _ hactual => ?_) (by rintro _ _ ⟨⟩)
  obtain rfl := Except.ok.inj hactual
  exact Ends.ensure (hline ▸ trim_crcHex.symm) rfl

/-- The payload of a component is found intact where it was written. -/
theorem ends_verifyStoredFile (h : Holds codecs tree componentId stored contentHash) :
    Ends (Undamaged base tree) (fun result _ => result = .ok ())
      (verifyStoredFile codecs.toFileCodecs s!"{base}/{payloadPath componentId}"
        (codecs.sha256Hex stored) (some stored.length)) () := by
  refine (ends_checkSize h.payload).bind (fun _ _ _ => ?_) (by rintro _ _ ⟨⟩)
  refine (ends_checkCrc h.payload h.crc32c).bind (fun _ _ _ => ?_) (by rintro _ _ ⟨⟩)
  refine (ends_fileHash h.payload).bind (fun actual _ hactual => ?_) (by rintro _ _ ⟨⟩)
  obtain rfl := Except.ok.inj hactual
  exact Ends.ensure rfl rfl

end Reading

section Requests

variable {workload : Workload} {options : CaptureOptions} {policy : PolicySet}
  {lastCaptureMs : Option ℕ} {now : ℕ}

theorem safe_of_validateComponentIds {components : List CaptureComponentRequest}
    (h : Capture.validateComponentIds components = .ok ()) : ∀ r ∈ components, Safe r.componentId := by
  induction components with
  | nil => simp
  | cons r components ih =>
    unfold Capture.validateComponentIds at h
    split at h
    · cases h
    · split at h
      · cases h
      · rename_i hsafe
        exact List.forall_mem_cons.mpr ⟨not_not.mp hsafe, ih h⟩

/-- What the validation asks of the component ids. -/
theorem ids_of_validateCaptureRequest
    (h : Capture.validateCaptureRequest workload options policy lastCaptureMs now = .ok ()) :
    (∀ r ∈ options.components, Safe r.componentId) ∧
      (options.components.map (·.componentId)).Nodup := by
  unfold Capture.validateCaptureRequest at h
  cases hinterval : Capture.validateInterval policy lastCaptureMs now with
  | error e =>
    rw [hinterval] at h
    cases h
  | ok _ =>
    rw [hinterval] at h
    cases hids : Capture.validateComponentIds options.components with
    | error e =>
      rw [hids] at h
      cases h
    | ok _ =>
      rw [hids] at h
      simp only [bind, Except.bind] at h
      split at h
      · cases h
      · rename_i hnodup
        exact ⟨safe_of_validateComponentIds hids, not_not.mp hnodup⟩

/-- No component touches the files of another: they have no file in common, and after a capture of
them the files of each one hold what was written, and its payload passes the integrity check. -/
structure KeptApart (options : CaptureOptions) : Prop where
  disjoint : options.components.Pairwise fun r r' =>
    (componentFiles r.componentId).Disjoint (componentFiles r'.componentId)
  verified : ∀ codecs spec node (req : NodeCaptureRequest) s, req.components = options.components →
    Yields (Step spec) (fun a s' => a.ok = true → ∃ taken tree, Took codecs spec req s a s' taken ∧
      s'.staging = some tree ∧ ∀ x ∈ taken,
        Holds codecs tree (spec x.1).componentId (storedOf codecs req.compression x.2)
          (codecs.sha256Hex x.2) ∧
        ∀ base, Ends (Undamaged base tree) (fun result _ => result = .ok ())
          (verifyStoredFile codecs.toFileCodecs
            s!"{base}/{(entryOf codecs spec req.compression x).storageRepresentation.relativePath}"
            (entryOf codecs spec req.compression x).storageRepresentation.storedHash
            (some (entryOf codecs spec req.compression x).storageRepresentation.storedSize)) ())
      (doCapture codecs spec node req) s

/-- For every request that is admitted, the components are kept apart iff no id is named like a
sidecar of another. -/
theorem keptApart_iff
    (h : Capture.validateCaptureRequest workload options policy lastCaptureMs now = .ok ()) :
    KeptApart options ↔ ∀ r ∈ options.components, ∀ r' ∈ options.components,
      ¬ Shadows r.componentId r'.componentId := by
  obtain ⟨hsafe, hnodup⟩ := ids_of_validateCaptureRequest h
  constructor
  · intro hkept r hr r' hr' hshadows
    have hne : r ≠ r' := by
      rintro rfl
      rcases hshadows with heq | heq
      all_goals exact append_ne_self (by decide) heq.symm
    have hsymm : Std.Symm fun r r' : CaptureComponentRequest =>
        (componentFiles r.componentId).Disjoint (componentFiles r'.componentId) :=
      ⟨fun _ _ h _ hpath hpath' => h hpath' hpath⟩
    have hdisjoint := hkept.disjoint.forall hr hr' hne
    exact ((disjoint_componentFiles (hsafe r hr) (hsafe r' hr')).mp hdisjoint).2.1 hshadows
  · intro hshadows
    have hdisjoint : options.components.Pairwise fun r r' =>
        (componentFiles r.componentId).Disjoint (componentFiles r'.componentId) := by
      refine (List.pairwise_map.mp hnodup).imp_of_mem fun hr hr' hne => ?_
      exact (disjoint_componentFiles (hsafe _ hr) (hsafe _ hr')).mpr
        ⟨hne, hshadows _ hr _ hr', hshadows _ hr' _ hr⟩
    refine ⟨hdisjoint, fun codecs spec node req s hreq => yields_doCapture.weaken ?_⟩
    intro a s' htook hok
    obtain ⟨taken, htook⟩ := htook hok
    obtain ⟨tree, tree', htree', hwritten⟩ := htook.written
    -- The components that were taken are some of those that were asked for.
    have htaken : taken.Pairwise fun x y => (componentFiles (spec x.1).componentId).Disjoint
        (componentFiles (spec y.1).componentId) := by
      have hall : (taken.map fun x => (spec x.1).componentId).Pairwise fun a b =>
          (componentFiles a).Disjoint (componentFiles b) := by
        refine List.Pairwise.sublist htook.ids ?_
        rw [hreq]
        exact List.pairwise_map.mpr hdisjoint
      have htaken := List.pairwise_map.mp hall
      exact htaken
    refine ⟨taken, tree', htook, htree', fun x hx => ?_⟩
    have hholds := hwritten.holds htaken x hx
    exact ⟨hholds, fun base => ends_verifyStoredFile hholds⟩

end Requests

/-! ### A component named like a sidecar

The id of the first component is that of the second with the suffix of a sidecar. -/

namespace Demo

def options (ids : List String) : CaptureOptions := { components := ids.map component }

def workload : Workload :=
  Coordinator.newWorkload CheckpointFabric.Demo.settings 7 CheckpointFabric.Demo.spec 0 none none none 0

def contents : List (String × Bytes) := [("app.sha256", utf8 "hello"), ("app", utf8 "hi")]

end Demo

/-- Two ordinary components are kept apart. -/
theorem keptApart_ordinary : KeptApart (Demo.options ["app", "db"]) := by
  have hadmitted : Capture.validateCaptureRequest Demo.workload (Demo.options ["app", "db"]) {} none 0
      = .ok () := by decide +kernel
  refine (keptApart_iff hadmitted).mpr ?_
  unfold Shadows
  decide +kernel

/-- The request is admitted, and the components share a file; the capture reports success, and the
payload of the first component is gone. -/
theorem capture_overwritten :
    Capture.validateCaptureRequest Demo.workload (Demo.options ["app.sha256", "app"]) {} none 0 = .ok () ∧
    "components/app.sha256" ∈ componentFiles "app.sha256" ∧
    "components/app.sha256" ∈ componentFiles "app" ∧
    ∃ a s' tree, Runs (Step (Demo.providers Demo.contents).spec)
      (doCapture Demo.library (Demo.providers Demo.contents).spec Replica.Demo.node
        (Demo.capture ["app.sha256", "app"])) .fresh (.ok a) s' ∧
      a.ok = true ∧ (0, utf8 "hello") ∈ s'.captured ∧ s'.staging = some tree ∧
      tree "components/app.sha256" =
        some (utf8 "8f434346648f6b96df89dda901c5176b10a6d83961dd3c1ac88b59b2dc327aa4\n") := by
  have hruns := runs_eval (Demo.providers Demo.contents).step_answer
    (doCapture Demo.library (Demo.providers Demo.contents).spec Replica.Demo.node
      (Demo.capture ["app.sha256", "app"])) .fresh
  have hok : (Demo.capturedAlone Demo.contents).1.toOption.map (·.ok) = some true := by
    decide +kernel
  have hcaptured : (0, utf8 "hello") ∈ (Demo.capturedAlone Demo.contents).2.captured := by
    decide +kernel
  have hfile : ((Demo.capturedAlone Demo.contents).2.staging.bind fun tree =>
      tree "components/app.sha256") =
        some (utf8 "8f434346648f6b96df89dda901c5176b10a6d83961dd3c1ac88b59b2dc327aa4\n") := by
    decide +kernel
  change Runs _ _ _ (Demo.capturedAlone Demo.contents).1 (Demo.capturedAlone Demo.contents).2 at hruns
  generalize Demo.capturedAlone Demo.contents = outcome at hruns hok hcaptured hfile
  obtain ⟨result, s'⟩ := outcome
  obtain ⟨a, hresult, ha⟩ := Option.map_eq_some_iff.mp hok
  obtain ⟨tree, htree, hstored⟩ := Option.bind_eq_some_iff.mp hfile
  cases result with
  | error e => cases hresult
  | ok a' =>
    obtain rfl := Option.some.inj hresult
    exact ⟨by decide +kernel, by decide +kernel, by decide +kernel, a', s', tree, hruns, ha,
      hcaptured, htree, hstored⟩

end CheckpointFabric.Staging
