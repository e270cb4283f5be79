import CheckpointFabric.Serialization

/-!
# Sealed manifests

The root of a manifest is the hash of the hashes of its components, one after the other, and its own
text with an empty root. It covers every field but the root itself.

Nothing separates the hashes from the text. But the text is an object, and no object ends in another
one that starts with the same key, so what is hashed determines the text.

## Main definitions

* `Manifest.covered` — what the root covers
* `hashed` — what the root is the hash of
* `Collision` — two inputs with one hash

## Main results

* `parse_sealed` — a sealed manifest is accepted
* `covered_eq_of_hashed_eq` — what is hashed determines what is covered
* `sealed_agrees` — sealing and parsing agree
-/

set_option autoImplicit false

namespace CheckpointFabric.Sealing

open Replica Wire

variable {Attempt : Type}

/-- The manifest without its root, which is what the root covers. -/
def covered (m : Manifest Attempt) : Manifest Attempt :=
  { m with integrity := { m.integrity with root := "" } }

/-- The bytes whose hash is the root of a manifest. -/
def hashed (files : FileCodecs Attempt) (m : Manifest Attempt) : Bytes :=
  utf8 (String.join (m.components.map (·.contentHash)) ++ files.toCanonical (covered m))

/-- Two inputs that have one hash. -/
structure Collision (files : FileCodecs Attempt) (x y : Bytes) : Prop where
  ne : x ≠ y
  eq : files.sha256Hex x = files.sha256Hex y

section Agreement

variable {files : FileCodecs Attempt} {m m' : Manifest Attempt}

theorem computeIntegrityRoot_eq :
    m.computeIntegrityRoot files.codecs = files.sha256Hex (hashed files m) := rfl

section Parsing

variable {bytes : Bytes}

theorem parse_eq_ok_iff :
    parse files bytes = .ok m ↔ files.fromSlice bytes = some m ∧
      m.formatVersion = manifestFormatVersion ∧
      m.integrity.root = m.computeIntegrityRoot files.codecs := by
  unfold parse
  cases hread : files.fromSlice bytes with
  | none => simp
  | some found =>
    simp only [Option.some.injEq, Manifest.verifyIntegrityRoot, beq_iff_eq]
    constructor
    · intro h
      split_ifs at h with hversion hroot
      · obtain rfl := Except.ok.inj h
        exact ⟨rfl, not_not.1 hversion, hroot.symm⟩
    · rintro ⟨rfl, hversion, hroot⟩
      rw [if_neg (not_not.2 hversion), if_neg (not_not.2 hroot.symm)]

theorem parse_ok_or_error (files : FileCodecs Attempt) (bytes : Bytes) :
    (∃ m, parse files bytes = .ok m) ∨ ∃ e, parse files bytes = .error e := by
  cases parse files bytes with
  | ok m => exact .inl ⟨m, rfl⟩
  | error e => exact .inr ⟨e, rfl⟩

end Parsing

section Sealed

variable (files m)

/-- The manifest with its root. -/
def sealed : Manifest Attempt := (m.sealManifest files.codecs).manifest

theorem sealed_eq : sealed files m =
    { m with integrity := { m.integrity with root := files.sha256Hex (hashed files m) } } := rfl

@[simp] theorem covered_sealed : covered (sealed files m) = covered m := rfl

@[simp] theorem hashed_sealed : hashed files (sealed files m) = hashed files m := rfl

@[simp] theorem root_sealed :
    (sealed files m).integrity.root = files.sha256Hex (hashed files m) := rfl

end Sealed

variable {value : String → Json} [ToString Attempt]

/-- What sealing has written is accepted. -/
theorem parse_sealed (hversion : m.formatVersion = manifestFormatVersion)
    (hserde : Serde value files (sealed files m)) :
    parse files (utf8 (m.sealManifest files.codecs).canonicalBytes) = .ok (sealed files m) :=
  parse_eq_ok_iff.2 ⟨hserde.reads, hversion, rfl⟩

section Covering

theorem utf8_injective {s t : String} (h : utf8 s = utf8 t) : s = t :=
  String.toByteArray_inj.1 (ByteArray.ext (Array.toList_inj.1 h))

theorem startsWithKey_serialize : Json.StartsWithKey (m.serialize value).text :=
  ⟨'f', _, rfl, by decide⟩

/-- A text of hashes that is in front of a document is not part of it. -/
theorem toCanonical_eq_of_append_eq {front front' : List Char}
    (h : front ++ (m.serialize value).text = front' ++ (m'.serialize value).text) :
    (m.serialize value).text = (m'.serialize value).text := by
  -- One of the documents ends in the other one; what is in front of it there is empty.
  rcases List.append_eq_append_iff.1 h with ⟨rest, -, hrest⟩ | ⟨rest, -, hrest⟩
  · obtain rfl := Json.eq_nil_of_text_object_eq startsWithKey_serialize hrest
    exact hrest
  · obtain rfl := Json.eq_nil_of_text_object_eq startsWithKey_serialize hrest
    exact hrest.symm

/-- What is hashed determines what is covered. -/
theorem covered_eq_of_hashed_eq (hm : Serde value files (covered m))
    (hm' : Serde value files (covered m')) (h : hashed files m = hashed files m') :
    covered m = covered m' := by
  have htext := congrArg String.toList (utf8_injective h)
  rw [hm.writes, hm'.writes, String.toList_append, String.toList_append, String.toList_ofList,
    String.toList_ofList] at htext
  have hcanonical : files.toCanonical (covered m) = files.toCanonical (covered m') := by
    rw [hm.writes, hm'.writes, toCanonical_eq_of_append_eq htext]
  have hread := hm.reads
  rw [hcanonical, hm'.reads] at hread
  exact (Option.some.inj hread).symm

/-- A document that has the root of another one, and does not agree with it, is refused unless it
collides with it. -/
theorem refused_or_collision {bytes : Bytes} (hm : Serde value files (covered m))
    (hm' : Serde value files (covered m')) (hread : files.fromSlice bytes = some m')
    (hroot : m'.integrity.root = files.sha256Hex (hashed files m)) (hne : covered m' ≠ covered m) :
    (∃ e, parse files bytes = .error e) ∨ Collision files (hashed files m) (hashed files m') := by
  rcases parse_ok_or_error files bytes with ⟨found, hparse⟩ | herror
  · obtain ⟨hfound, -, hderived⟩ := parse_eq_ok_iff.1 hparse
    obtain rfl : m' = found := Option.some.inj (hread.symm.trans hfound)
    -- It was accepted, so the root that it has is that of what it covers itself.
    refine .inr ⟨fun h => hne (covered_eq_of_hashed_eq hm hm' h).symm, ?_⟩
    rw [← hroot, hderived, computeIntegrityRoot_eq]
  · exact .inl herror

end Covering

end Agreement

/-- A manifest of the current version that was sealed is read back with its root, every document that
is accepted has the root of what it covers, and a document that has the root of a sealed manifest but
does not agree with it is refused, or else two inputs with one hash are found. -/
theorem sealed_agrees {Attempt : Type} [ToString Attempt] {value : String → Json}
    {files : FileCodecs Attempt} {m : Manifest Attempt}
    (hversion : m.formatVersion = manifestFormatVersion)
    (hsealed : Serde value files (sealed files m)) (hcovered : Serde value files (covered m)) :
    (parse files (utf8 (m.sealManifest files.codecs).canonicalBytes) = .ok (sealed files m) ∧
      covered (sealed files m) = covered m ∧
      (sealed files m).integrity.root = (sealed files m).computeIntegrityRoot files.codecs) ∧
    (∀ bytes m', parse files bytes = .ok m' →
      m'.integrity.root = m'.computeIntegrityRoot files.codecs) ∧
    ∀ bytes m', files.fromSlice bytes = some m' → Serde value files (covered m') →
      m'.integrity.root = (sealed files m).integrity.root → covered m' ≠ covered m →
      (∃ e, parse files bytes = .error e) ∨ Collision files (hashed files m) (hashed files m') := by
  refine ⟨⟨parse_sealed hversion hsealed, covered_sealed files m, ?_⟩, fun bytes m' hparse => ?_,
    fun bytes m' hread hm' hroot hne => ?_⟩
  · rw [computeIntegrityRoot_eq, hashed_sealed, root_sealed]
  · exact (parse_eq_ok_iff.1 hparse).2.2
  · exact refused_or_collision hcovered hm' hread (hroot.trans (root_sealed files m)) hne

/-! ## A manifest of one component -/

namespace Demo

def entry : ComponentEntry where
  componentId := "app"
  componentType := .applicationState
  generation := 0
  required := true
  logicalSize := 2
  storageRepresentation := ⟨"none", 2, 2,
    "8f434346648f6b96df89dda901c5176b10a6d83961dd3c1ac88b59b2dc327aa4", "components/app"⟩
  contentHash := "8f434346648f6b96df89dda901c5176b10a6d83961dd3c1ac88b59b2dc327aa4"
  schemaVersion := 1
  restoreHandler := "application"
  compatibility := "null"
  dependencies := []
  captureStatus := "captured"
  restoreStatus := "pending"

def document (root : String) : Manifest String where
  formatVersion := 1
  checkpointId := 2
  workloadId := 7
  workloadGeneration := 1
  checkpointGeneration := 1
  parentCheckpoint := none
  captureAttempt := "capture-1"
  coordinatorEpoch := 1
  createdMs := 0
  sealMs := 0
  sourceNode := "n1"
  sourceBackend := "cpu"
  frontier := { stateGenerationMap := [("app", 1)] }
  checkpointType := .full
  consistency := .applicationConsistent
  resumability := .exact
  components := [entry]
  totalLogicalBytes := 2
  totalPhysicalBytes := 2
  compressedBytes := 2
  durableLocations := [⟨"n1", "/data/checkpoints/2", true⟩]
  replicaCount := 1
  lineageParents := []
  policyVersion := 1
  runtimeDescriptor := ⟨"linux", "x86_64", "1", 1, "generic", "cpu", [], [("application", "1")], none⟩
  hardwareDescriptor := {}
  dependencies := []
  integrity := ⟨"sha256", root⟩
  metadata := "null"

/-- The only note is `null`. -/
def note (_ : String) : Json := .null

def text (root : String) : String := String.ofList ((document root).serialize note).text

/-- What is hashed, and its SHA-256. -/
def input : Bytes := utf8 (String.join [entry.contentHash] ++ text "")

def root : String := "a75d2665298faff112ba87efb8016d4338b914f41bf90d4cc11a511b033078d3"

/-- The codecs, as they are on the document without and with its root. -/
def files : FileCodecs String where
  toCanonical m := String.ofList (m.serialize note).text
  fromSlice bytes :=
    if bytes = utf8 (text "") then some (document "")
    else if bytes = utf8 (text root) then some (document root)
    else none
  sha256Hex bytes :=
    if bytes = input then root
    else if bytes = utf8 (text root) then
      "4664f7bfd31af285b5cc11f20c8ed3c1e1ae62d34d9bf256da0dbef3f4e9bee2"
    else ""
  crc32c _ := 0
  zstdDecode stored _ := .ok stored

/-- The two texts differ where the root is. -/
theorem text_root_ne : text root ≠ text "" := by
  intro h
  have hroot : ((document root).integrity.serialize).text =
      ((document "").integrity.serialize).text :=
    Json.text_eq_of_text_object_eq
      (("format_version", Serialization.number 1) :: ((document "").fields note).take 26) [_]
      (String.ofList_inj.1 h)
  revert hroot
  decide +kernel

theorem sha256Hex_input : files.sha256Hex input = root := by
  dsimp only [files]
  rw [if_pos rfl]

theorem sealed_document : sealed files (document "") = document root := by
  rw [sealed_eq, show hashed files (document "") = input from rfl, sha256Hex_input]
  rfl

theorem serde_document : Serde note files (document "") where
  writes := rfl
  reads := by
    change files.fromSlice (utf8 (text "")) = _
    dsimp only [files]
    rw [if_pos rfl]

theorem serde_document_root : Serde note files (document root) where
  writes := rfl
  reads := by
    change files.fromSlice (utf8 (text root)) = _
    dsimp only [files]
    rw [if_neg fun h => text_root_ne (utf8_injective h), if_pos rfl]

end Demo

theorem sealed_agrees_document :
    parse Demo.files (utf8 ((Demo.document "").sealManifest Demo.files.codecs).canonicalBytes) =
      .ok (Demo.document Demo.root) := by
  have hsealed : Serde Demo.note Demo.files (sealed Demo.files (Demo.document "")) :=
    Demo.sealed_document ▸ Demo.serde_document_root
  have hagrees := sealed_agrees rfl hsealed Demo.serde_document
  exact hagrees.1.1.trans (congrArg Except.ok Demo.sealed_document)

end CheckpointFabric.Sealing
