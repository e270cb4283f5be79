import CheckpointFabric.Concurrency.Alone
import CheckpointFabric.Staging
import Mathlib.Logic.Function.Basic

/-!
# The directories of an attempt

What the operations of a node do to the staging directory of an attempt and to the committed
directory of its checkpoint. A write that fails may leave the staging directory in any state;
the committed directory changes in one step, by the rename.

Four files belong to a component: its payload, two sidecars beside the payload, and its content
hash. The functions that write them leave every other file alone.

## Main definitions

* `Site`, `Step` — the directories, and what an operation does to them
* `Undamaged` — the answers of a directory in which every file is as it was written
* `componentFiles`, `Holds` — the files of a component, and what they hold
* `Surroundings.answer` — a disk that never fails, with a peer and providers that are functions

## Main results

* `disjoint_componentFiles` — two components share a file iff one is named like a sidecar
* `yields_writeComponentPayload` — a payload is written next to whatever else is there
-/

set_option autoImplicit false

namespace CheckpointFabric.Staging

open Concurrency Replica

/-- The files of a directory, by their paths below it. -/
abbrev Tree := String → Option Bytes

/-- The directory with a file written. -/
def Tree.write (tree : Tree) (path : String) (bytes : Bytes) : Tree :=
  Function.update tree path (some bytes)

@[simp] theorem Tree.write_self (tree : Tree) (path : String) (bytes : Bytes) :
    tree.write path bytes path = some bytes := by
  rw [Tree.write, Function.update_self]

theorem Tree.write_comm {tree : Tree} {path path' : String} {bytes bytes' : Bytes}
    (h : path ≠ path') :
    (tree.write path bytes).write path' bytes' = (tree.write path' bytes').write path bytes := by
  simp only [Tree.write]
  exact Function.update_comm h _ _ tree

theorem Tree.write_write {tree : Tree} {path : String} {bytes bytes' : Bytes} :
    (tree.write path bytes).write path bytes' = tree.write path bytes' := by
  simp [Tree.write]

theorem Tree.write_of_ne {tree : Tree} {path path' : String} {bytes : Bytes} (h : path' ≠ path) :
    tree.write path bytes path' = tree path' := by
  rw [Tree.write, Function.update_of_ne h]

/-- The directories of an attempt, and what the peer and the providers have done for it. -/
structure Site where
  staging : Option Tree
  committed : Option Tree
  /-- The components that chunks were asked of, the latest first. -/
  fetched : List String
  /-- The providers that have acknowledged a quiesce, the latest first. -/
  acked : List Provider
  /-- What the providers have captured, the latest first. -/
  captured : List (Provider × Bytes)

/-- The site with these files in the staging directory. -/
def Site.stage (s : Site) (tree : Tree) : Site := { s with staging := some tree }

section Stage

variable (s : Site) (tree tree' : Tree)

@[simp] theorem Site.stage_staging : (s.stage tree).staging = some tree := rfl
@[simp] theorem Site.stage_committed : (s.stage tree).committed = s.committed := rfl
@[simp] theorem Site.stage_fetched : (s.stage tree).fetched = s.fetched := rfl
@[simp] theorem Site.stage_acked : (s.stage tree).acked = s.acked := rfl
@[simp] theorem Site.stage_captured : (s.stage tree).captured = s.captured := rfl
@[simp] theorem Site.stage_stage : (s.stage tree).stage tree' = s.stage tree' := rfl

end Stage

/-- The component that an operation asks a chunk of. -/
def Op.fetches : Op → List String
  | .fetchComponent _ componentId .. => [componentId]
  | _ => []

/-- The operation changes the files of the staging directory. -/
def Op.Writes : Op → Prop
  | .removeStaging | .createDir _ | .createFile _ | .appendFile .. | .writeFile .. => True
  | _ => False

/-- The operation leaves the site as it is. -/
def Op.Quiet : Op → Prop
  | .renameToCommit | .quiesce .. | .capture .. | .fetchComponent .. => False
  | op => ¬ op.Writes

section Step

variable (spec : Provider → ProviderSpec)

/-- What an operation that succeeds does. The registry of the providers is keyed by the component
ids of their specs. -/
def Effect : (op : Op) → Site → op.Reply → Site → Prop
  | .stagingExists, s, reply, s' => reply = s.staging.isSome ∧ s' = s
  | .removeStaging, s, _, s' => s' = { s with staging := none }
  | .createDir _, s, _, s' => s' = s.stage (s.staging.getD fun _ => none)
  | .createFile path, s, _, s' =>
    ∃ tree, s.staging = some tree ∧ s' = s.stage (tree.write path [])
  | .appendFile path bytes, s, _, s' =>
    ∃ tree, s.staging = some tree ∧ s' = s.stage (tree.write path ((tree path).getD [] ++ bytes))
  | .writeFile path bytes, s, _, s' =>
    ∃ tree, s.staging = some tree ∧ s' = s.stage (tree.write path bytes)
  | .readFile path, s, reply, s' => (∃ tree, s.staging = some tree ∧ tree path = some reply) ∧ s' = s
  | .commitExists, s, reply, s' => reply = s.committed.isSome ∧ s' = s
  | .renameToCommit, s, _, s' =>
    s.committed = none ∧ ∃ tree, s.staging = some tree ∧
      s' = { s with staging := none, committed := some tree }
  | .providerGet _ componentId, s, reply, s' =>
    (∀ provider, reply = some provider → (spec provider).componentId = componentId) ∧ s' = s
  | .quiesce provider _, s, .acked, s' => s' = { s with acked := provider :: s.acked }
  | .capture provider _, s, payload, s' =>
    s' = { s with captured := (provider, payload) :: s.captured }
  | .fetchComponent _ componentId .., s, _, s' =>
    s' = { s with fetched := componentId :: s.fetched }
  | _, s, _, s' => s' = s

/-- What an operation does; a write that fails may leave anything in the staging directory. -/
def Step (op : Op) (s : Site) : Except FabricError op.Reply → Site → Prop
  | .ok reply, s' => Effect spec op s reply s'
  | .error _, s' =>
    ∃ staging, (¬ op.Writes → staging = s.staging) ∧
      s' = { s with staging, fetched := op.fetches ++ s.fetched }

variable {spec} {op : Op} {s s' : Site} {reply : Except FabricError op.Reply}

theorem Step.eq_of_quiet (h : Step spec op s reply s') (hop : op.Quiet) : s' = s := by
  cases op with
  | renameToCommit | quiesce | capture | fetchComponent => exact hop.elim
  | removeStaging | createDir | createFile | appendFile | writeFile => exact absurd trivial hop
  | _ =>
    cases reply with
    | error e =>
      obtain ⟨staging, hsame, rfl⟩ := h
      rw [hsame hop]
      rfl
    | ok a =>
      first
        | exact h
        | exact h.2

theorem ends_quiet {α : Type} {p : Work α} (huses : Uses Op.Quiet p) :
    Ends (Step spec) (fun _ s' => s' = s) p s := by
  refine Ends.of_uses huses (fun op s₁ reply s₂ hop hstep hsame => ?_) rfl
  rw [hstep.eq_of_quiet hop, hsame]

/-- A question is answered, and nothing else happens. -/
theorem ends_asks_bind {α : Type} {post : FabricResult α → Site → Prop} {question : Work Bool}
    {f : Bool → Work α} (huses : Uses Op.Quiet question)
    (h : ∀ answer, Ends (Step spec) post (f answer) s) :
    Ends (Step spec) post (asks question >>= f) s := by
  rw [Program.bind_def, asks, ends_andThen, ends_andThen]
  refine (ends_quiet huses).weaken fun result s' hsame => ?_
  subst hsame
  cases result with
  | ok answer => exact h answer
  | error _ => exact h false

/-- Every operation counts what it fetches, and only that. -/
theorem Step.fetched_eq (h : Step spec op s reply s') : s'.fetched = op.fetches ++ s.fetched := by
  cases reply with
  | error e =>
    obtain ⟨staging, -, rfl⟩ := h
    rfl
  | ok a =>
    cases op with
    | createFile | appendFile | writeFile =>
      obtain ⟨tree, -, rfl⟩ := h
      rfl
    | renameToCommit =>
      obtain ⟨-, tree, -, rfl⟩ := h
      rfl
    | stagingExists | readFile | commitExists | providerGet =>
      obtain ⟨-, rfl⟩ := h
      rfl
    | quiesce =>
      cases a
      all_goals
        obtain rfl := h
        rfl
    | _ =>
      obtain rfl := h
      rfl

/-- Only the rename changes the committed directory, and only when it succeeds. -/
theorem Step.committed_eq (h : Step spec op s reply s')
    (hop : op = .renameToCommit → ∃ e, reply = .error e) : s'.committed = s.committed := by
  cases reply with
  | error e =>
    obtain ⟨staging, -, rfl⟩ := h
    rfl
  | ok a =>
    cases op with
    | createFile | appendFile | writeFile =>
      obtain ⟨tree, -, rfl⟩ := h
      rfl
    | renameToCommit =>
      obtain ⟨e, he⟩ := hop rfl
      cases he
    | stagingExists | readFile | commitExists | providerGet =>
      obtain ⟨-, rfl⟩ := h
      rfl
    | quiesce =>
      cases a
      all_goals
        obtain rfl := h
        rfl
    | _ =>
      obtain rfl := h
      rfl

end Step

/-- How a directory at `base` answers in which every file is as it was written. -/
def Undamaged (base : String) (tree : Tree) :
    (op : Replica.Op) → Unit → Except FabricError op.Reply → Unit → Prop
  | .openFile path, _, reply, _ =>
    ∀ rel bytes, path = s!"{base}/{rel}" → tree rel = some bytes → reply = .ok ()
  | .read path, _, reply, _ =>
    ∀ rel bytes, path = s!"{base}/{rel}" → tree rel = some bytes → reply = .ok bytes
  | .readText path, _, reply, _ =>
    ∀ rel text, path = s!"{base}/{rel}" → tree rel = some (utf8 text) → reply = .ok text
  | .metadataLen path, _, reply, _ =>
    ∀ rel bytes, path = s!"{base}/{rel}" → tree rel = some bytes → reply = .ok bytes.length
  | .isFile path, _, reply, _ | .pathExists path, _, reply, _ =>
    ∀ rel bytes, path = s!"{base}/{rel}" → tree rel = some bytes → reply = .ok true
  | _, _, _, _ => True

section Names

/-- The files of a component. -/
def componentFiles (componentId : String) : List String :=
  [payloadPath componentId, payloadPath componentId ++ ".sha256",
    payloadPath componentId ++ ".crc32c", contentPath componentId]

/-- One component is named like a sidecar of another. -/
def Shadows (a b : String) : Prop := a = b ++ ".sha256" ∨ a = b ++ ".crc32c"

/-- A component id that is its own path segment. -/
def Safe (componentId : String) : Prop := Capture.sanitizeSegment componentId = componentId

variable {a b : String}

theorem append_ne_self {text suffix : String} (h : suffix ≠ "") : text ++ suffix ≠ text := by
  intro heq
  have hlength := congrArg String.length heq
  rw [String.length_append] at hlength
  exact h (String.length_eq_zero_iff.mp (by omega))

theorem payloadPath_of_safe (h : Safe a) : payloadPath a = "components/" ++ a := by
  rw [payloadPath, h]
  rfl

theorem contentPath_of_safe (h : Safe a) : contentPath a = "integrity/" ++ a ++ ".sha256" := by
  rw [contentPath, h]
  rfl

/-- Nothing below `components` is below `integrity`. -/
theorem components_ne_integrity {x y : String} : "components/" ++ x ≠ "integrity/" ++ y := by
  intro h
  have hchars := congrArg String.toList h
  simp at hchars

theorem sha256_ne_crc32c {x y : String} : x ++ ".sha256" ≠ y ++ ".crc32c" := by
  intro h
  have hlast := congrArg (fun text => text.toList.getLast?) h
  simp at hlast

/-- The files of a component below `components`. -/
theorem component_mem (h : Safe a) {name : String} : "components/" ++ name ∈ componentFiles a ↔
    name = a ∨ name = a ++ ".sha256" ∨ name = a ++ ".crc32c" := by
  simp [componentFiles, payloadPath_of_safe h, contentPath_of_safe h, String.append_assoc,
    components_ne_integrity]

/-- And the one below `integrity`. -/
theorem integrity_mem (h : Safe a) {name : String} : "integrity/" ++ name ∈ componentFiles a ↔
    name = a ++ ".sha256" := by
  simp [componentFiles, payloadPath_of_safe h, contentPath_of_safe h, String.append_assoc,
    components_ne_integrity.symm]

theorem mem_componentFiles (h : Safe a) {path : String} : path ∈ componentFiles a ↔
    path = "components/" ++ a ∨ path = "components/" ++ (a ++ ".sha256") ∨
      path = "components/" ++ (a ++ ".crc32c") ∨ path = "integrity/" ++ (a ++ ".sha256") := by
  simp [componentFiles, payloadPath_of_safe h, contentPath_of_safe h, String.append_assoc]

/-- Two components have a file in common iff they have the same name, or one is named like a
sidecar of the other. -/
theorem disjoint_componentFiles (ha : Safe a) (hb : Safe b) :
    (componentFiles a).Disjoint (componentFiles b) ↔ a ≠ b ∧ ¬ Shadows a b ∧ ¬ Shadows b a := by
  constructor
  · intro h
    refine ⟨?_, fun hshadows => ?_, fun hshadows => ?_⟩
    · rintro rfl
      exact h (.head _) (.head _)
    · -- The payload of `a` lies where a sidecar of `b` does.
      have hpath := (component_mem ha).mpr (.inl rfl)
      exact h hpath ((component_mem hb).mpr (.inr hshadows))
    · have hpath := (component_mem hb).mpr (.inl rfl)
      exact h ((component_mem ha).mpr (.inr hshadows)) hpath
  · rintro ⟨hne, hab, hba⟩ path hpath hpath'
    obtain ⟨hsha, hcrc⟩ := not_or.mp hba
    rcases (mem_componentFiles ha).mp hpath with rfl | rfl | rfl | rfl
    · rcases (component_mem hb).mp hpath' with heq | hshadows
      · exact hne heq
      · exact hab hshadows
    · rcases (component_mem hb).mp hpath' with heq | heq | heq
      · exact hsha heq.symm
      · exact hne ((String.append_left_inj _).mp heq)
      · exact sha256_ne_crc32c heq
    · rcases (component_mem hb).mp hpath' with heq | heq | heq
      · exact hcrc heq.symm
      · exact sha256_ne_crc32c heq.symm
      · exact hne ((String.append_left_inj _).mp heq)
    · exact hne ((String.append_left_inj _).mp ((integrity_mem hb).mp hpath'))

/-- The four files of a component are different ones. -/
theorem nodup_componentFiles (componentId : String) : (componentFiles componentId).Nodup := by
  have hsha (name : String) : name ++ ".sha256" ≠ name := append_ne_self (by decide)
  have hcrc (name : String) : name ++ ".crc32c" ≠ name := append_ne_self (by decide)
  rw [componentFiles, payloadPath, contentPath]
  generalize Capture.sanitizeSegment componentId = name
  change ["components/" ++ name, "components/" ++ name ++ ".sha256",
    "components/" ++ name ++ ".crc32c", "integrity/" ++ name ++ ".sha256"].Nodup
  simp [String.append_assoc, components_ne_integrity, (hsha _).symm, (hcrc _).symm]

end Names

section Writing

variable {codecs : WriteCodecs} {spec : Provider → ProviderSpec} {s s' : Site} {tree : Tree}
  {componentId contentHash : String} {stored : Bytes} {α : Type} {post : α → Site → Prop}

/-- The files of a component hold what belongs to a stored payload. -/
structure Holds (codecs : WriteCodecs) (tree : Tree) (componentId : String) (stored : Bytes)
    (contentHash : String) : Prop where
  payload : tree (payloadPath componentId) = some stored
  sha256 : tree (payloadPath componentId ++ ".sha256") =
    some (utf8 (codecs.sha256Hex stored ++ "\n"))
  crc32c : tree (payloadPath componentId ++ ".crc32c") =
    some (utf8 (crcHex (codecs.crc32c stored) ++ "\n"))
  content : tree (contentPath componentId) = some (utf8 (contentHash ++ "\n"))

/-- Writes to other files do not matter. -/
theorem Holds.congr {tree' : Tree} (h : Holds codecs tree componentId stored contentHash)
    (hsame : ∀ path ∈ componentFiles componentId, tree' path = tree path) :
    Holds codecs tree' componentId stored contentHash where
  payload := (hsame _ (by simp [componentFiles])).trans h.payload
  sha256 := (hsame _ (by simp [componentFiles])).trans h.sha256
  crc32c := (hsame _ (by simp [componentFiles])).trans h.crc32c
  content := (hsame _ (by simp [componentFiles])).trans h.content

/-- Whatever was there, the staging directory is fresh or at least present. -/
theorem yields_createStaging :
    Yields (Step spec) (fun _ s' => ∃ tree, s' = s.stage tree) createStaging s := by
  have hdirs {s₁ : Site} (hsame : ∀ tree, s₁.stage tree = s.stage tree) :
      Yields (Step spec) (fun _ s' => ∃ tree, s' = s.stage tree)
        (do perform (.createDir "components"); perform (.createDir "integrity")
            perform (.createDir "journal")) s₁ := by
    refine yields_call_bind fun _ s₂ h₂ => yields_call_bind fun _ s₃ h₃ => ?_
    refine yields_call.mpr fun _ s₄ h₄ => ?_
    obtain rfl := h₂
    obtain rfl := h₃
    obtain rfl := h₄
    exact ⟨_, hsame _⟩
  refine ends_asks_bind (uses_call.mpr not_false) fun present => ?_
  split
  · refine yields_call_bind fun _ s₁ hstep => ?_
    obtain rfl := hstep
    exact hdirs fun _ => rfl
  · exact hdirs fun _ => rfl

/-- The directory with the sidecars of a stored payload and its content hash written. -/
def Tree.writeSidecars (codecs : WriteCodecs) (tree : Tree) (componentId : String) (stored : Bytes)
    (contentHash : String) : Tree :=
  ((tree.write (payloadPath componentId ++ ".sha256") (utf8 (codecs.sha256Hex stored ++ "\n"))).write
    (payloadPath componentId ++ ".crc32c") (utf8 (crcHex (codecs.crc32c stored) ++ "\n"))).write
    (contentPath componentId) (utf8 (contentHash ++ "\n"))

theorem Tree.writeSidecars_of_notMem {path : String} (h : path ∉ componentFiles componentId) :
    tree.writeSidecars codecs componentId stored contentHash path = tree path := by
  simp only [componentFiles, List.mem_cons, List.not_mem_nil, or_false, not_or] at h
  obtain ⟨-, hsha, hcrc, hcontent⟩ := h
  rw [Tree.writeSidecars, write_of_ne hcontent, write_of_ne hcrc, write_of_ne hsha]

/-- Next to the payload they make a component. -/
theorem holds_writeSidecars (hpayload : tree (payloadPath componentId) = some stored) :
    Holds codecs (tree.writeSidecars codecs componentId stored contentHash) componentId stored
      contentHash := by
  have hnodup := nodup_componentFiles componentId
  simp only [componentFiles, List.nodup_cons, List.mem_cons, List.not_mem_nil, or_false,
    not_or] at hnodup
  obtain ⟨⟨hsha, hcrc, hcontent⟩, ⟨hsha', hsha''⟩, hcrc', -⟩ := hnodup
  constructor
  · rw [Tree.writeSidecars, Tree.write_of_ne hcontent, Tree.write_of_ne hcrc,
      Tree.write_of_ne hsha, hpayload]
  · rw [Tree.writeSidecars, Tree.write_of_ne hsha'', Tree.write_of_ne hsha', Tree.write_self]
  · rw [Tree.writeSidecars, Tree.write_of_ne hcrc', Tree.write_self]
  · rw [Tree.writeSidecars, Tree.write_self]

/-- How a payload is recorded that was stored as these bytes. -/
def representation (codecs : WriteCodecs) (componentId : String) (payload stored : Bytes)
    (compression : CompressionSpec) : StorageRepresentation where
  codec := codecAsStr compression.codec
  originalSize := payload.length
  storedSize := stored.length
  storedHash := codecs.sha256Hex stored
  relativePath := payloadPath componentId

theorem yields_writeLine_bind {path line : String} {f : Unit → Work α} (hs : s.staging = some tree)
    (h : Yields (Step spec) post (f ()) (s.stage (tree.write path (utf8 (line ++ "\n"))))) :
    Yields (Step spec) post (writeLine path line >>= f) s := by
  refine yields_call_bind fun _ s' hstep => ?_
  obtain ⟨tree', hs', rfl⟩ := hstep
  obtain rfl := Option.some.inj (hs.symm.trans hs')
  exact h

theorem yields_writeLine {path line : String} {post : Unit → Site → Prop}
    (hs : s.staging = some tree)
    (h : post () (s.stage (tree.write path (utf8 (line ++ "\n"))))) :
    Yields (Step spec) post (writeLine path line) s := by
  refine yields_call.mpr fun _ s' hstep => ?_
  obtain ⟨tree', hs', rfl⟩ := hstep
  obtain rfl := Option.some.inj (hs.symm.trans hs')
  exact h

/-- The sidecars and the content hash are written in either order. -/
theorem yields_writeSidecars {shaFirst : Bool} (hs : s.staging = some tree) :
    Yields (Step spec)
      (fun _ s' => s' = s.stage (tree.writeSidecars codecs componentId stored contentHash))
      (writeSidecars codecs componentId stored shaFirst contentHash) s := by
  have hne : payloadPath componentId ++ ".sha256" ≠ payloadPath componentId ++ ".crc32c" :=
    sha256_ne_crc32c
  unfold writeSidecars
  cases shaFirst with
  | true => exact yields_writeLine_bind hs (yields_writeLine_bind rfl (yields_writeLine rfl rfl))
  | false =>
    refine yields_writeLine_bind hs (yields_writeLine_bind rfl (yields_writeLine rfl ?_))
    rw [Tree.writeSidecars, Tree.write_comm hne]
    rfl

/-- A payload is written with everything that belongs to it. -/
theorem yields_writeComponentPayload {payload : Bytes} {compression : CompressionSpec} :
    Yields (Step spec)
      (fun repr s' => ∃ stored, compressBytes codecs compression payload = .ok stored ∧
        repr = representation codecs componentId payload stored compression ∧
        s' = s.stage (((s.staging.getD fun _ => none).write (payloadPath componentId)
          stored).writeSidecars codecs componentId stored (codecs.sha256Hex payload)))
      (writeComponentPayload codecs componentId payload compression) s := by
  unfold writeComponentPayload
  refine yields_call_bind fun _ s₁ h₁ => yields_call_bind fun _ s₂ h₂ => ?_
  obtain rfl := h₁
  obtain rfl := h₂
  refine yields_ofExcept_bind fun stored hstored => ?_
  refine yields_call_bind fun _ s₃ h₃ => yields_call_bind fun _ s₄ h₄ => ?_
  obtain ⟨tree₃, htree₃, rfl⟩ := h₃
  obtain ⟨tree₄, htree₄, rfl⟩ := h₄
  obtain rfl := Option.some.inj htree₃
  obtain rfl := Option.some.inj htree₄
  refine yields_call_bind fun _ s₅ h₅ => ?_
  obtain rfl := h₅
  refine (yields_writeSidecars rfl).bind fun _ s₆ h₆ => ?_
  obtain rfl := h₆
  refine yields_pure.mpr ⟨stored, hstored, rfl, ?_⟩
  simp [Tree.write_write]

end Writing

section Answers

/-- A peer and providers that answer in a fixed way. -/
structure Surroundings where
  spec : Provider → ProviderSpec
  providers : List Provider := []
  outcome : Provider → QuiesceOutcome := fun _ => .acked
  payload : Provider → Bytes := fun _ => []
  manifest : FetchManifestResponse := ⟨false, none, none, []⟩
  /-- The answer to a fetch after those of the list. -/
  chunk : List String → String → ℕ → FetchChunkResponse := fun _ _ _ => ⟨false, none, 0, [], true⟩

/-- Change the files of the staging directory, if it is there. -/
def Site.edit (s : Site) (f : Tree → Tree) : FabricResult Unit × Site :=
  match s.staging with
  | some tree => (.ok (), s.stage (f tree))
  | none => (.error (.io "No such file or directory"), s)

/-- What an operation does on a disk that never fails. -/
def Surroundings.answer (around : Surroundings) :
    (op : Op) → Site → FabricResult op.Reply × Site
  | .stagingExists, s => (.ok s.staging.isSome, s)
  | .removeStaging, s => (.ok (), { s with staging := none })
  | .createDir _, s => (.ok (), s.stage (s.staging.getD fun _ => none))
  | .createFile path, s => s.edit fun tree => tree.write path []
  | .appendFile path bytes, s =>
    s.edit fun tree => tree.write path ((tree path).getD [] ++ bytes)
  | .writeFile path bytes, s => s.edit fun tree => tree.write path bytes
  | .readFile path, s =>
    match s.staging.bind (· path) with
    | some bytes => (.ok bytes, s)
    | none => (.error (.io "No such file or directory"), s)
  | .commitExists, s => (.ok s.committed.isSome, s)
  | .commitParentExists, s => (.ok true, s)
  | .renameToCommit, s =>
    match s.committed, s.staging with
    | none, some tree => (.ok (), { s with staging := none, committed := some tree })
    | _, _ => (.error (.io "Directory not empty"), s)
  | .now, s => (.ok 0, s)
  | .providerGet _ componentId, s =>
    (.ok (around.providers.find? fun p => (around.spec p).componentId = componentId), s)
  | .quiesce provider _, s =>
    (.ok (around.outcome provider),
      match around.outcome provider with
      | .acked => { s with acked := provider :: s.acked }
      | .forced => s)
  | .capture provider _, s =>
    (.ok (around.payload provider),
      { s with captured := (provider, around.payload provider) :: s.captured })
  | .fetchManifest .., s => (.ok around.manifest, s)
  | .fetchComponent _ componentId offset _, s =>
    (.ok (around.chunk s.fetched componentId offset),
      { s with fetched := componentId :: s.fetched })
  | .syncFile _, s | .createCommitParent, s | .syncStaging, s | .prepareCapture .., s
  | .verifyCapture .., s | .abortCapture .., s | .insertQuiesced .., s | .connect _, s => (.ok (), s)

variable {around : Surroundings} {s : Site}

theorem Site.edit_step {f : Tree → Tree} {step : FabricResult Unit → Site → Prop}
    (hok : ∀ tree, s.staging = some tree → step (.ok ()) (s.stage (f tree)))
    (herror : step (.error (.io "No such file or directory")) s) :
    step (s.edit f).1 (s.edit f).2 := by
  unfold Site.edit
  split
  · exact hok _ ‹_›
  · exact herror

/-- This is one of the ways in which the operation may go. -/
theorem Surroundings.step_answer (op : Op) (s : Site) :
    Step around.spec op s (around.answer op s).1 (around.answer op s).2 := by
  have hmissing {op : Op} {e : FabricError} (hop : op.fetches = []) :
      Step around.spec op s (.error e) s := ⟨s.staging, fun _ => rfl, by rw [hop]; rfl⟩
  cases op with
  | createFile | appendFile | writeFile =>
    refine Site.edit_step (fun tree htree => ?_) (hmissing rfl)
    exact ⟨tree, htree, rfl⟩
  | readFile path =>
    simp only [Surroundings.answer]
    split
    · rename_i bytes hbytes
      obtain ⟨tree, htree, hbytes⟩ := Option.bind_eq_some_iff.mp hbytes
      exact ⟨⟨tree, htree, hbytes⟩, rfl⟩
    · exact hmissing rfl
  | renameToCommit =>
    simp only [Surroundings.answer]
    split
    · rename_i tree hfree htree
      exact ⟨hfree, tree, htree, rfl⟩
    · exact hmissing rfl
  | providerGet workloadId componentId =>
    refine ⟨fun provider hprovider => ?_, rfl⟩
    simpa using List.find?_some hprovider
  | quiesce provider ctx =>
    simp only [Surroundings.answer]
    cases around.outcome provider with
    | acked => exact (rfl : _)
    | forced => exact (rfl : _)
  | stagingExists | commitExists => exact ⟨rfl, rfl⟩
  | _ => exact (rfl : _)

/-- The site of an attempt that has not begun, whose checkpoint is not committed. -/
def Site.fresh : Site := ⟨none, none, [], [], []⟩

end Answers

end CheckpointFabric.Staging
