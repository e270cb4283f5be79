import CheckpointFabric.Filesystem
import CheckpointFabric.Serialization

/-!
# What a rejected archive leaves behind

A restore checks all of its entries before it writes any. But it makes the root directory first, if
that is missing, and leaves it there when it then rejects an entry.

## Main results

* `rejected_untouched_iff` — when a rejected restore leaves the tree as it was
* `rejected_makes_root` — a restore that is rejected and makes the root
-/

set_option autoImplicit false

namespace CheckpointFabric.Filesystem

open Files Replica

variable {codecs : ArchiveCodecs} {provider : FilesystemProvider} {attemptId : AttemptId}
  {payload : Bytes} {t t' : FileTree} {root : String} {rootCreated : Bool} {e : FabricError}

section Root

/-- The root is made iff there was nothing in its place, and nothing else changes. -/
theorem openRoot_eq_ok (h : openRoot root t = .ok (rootCreated, t')) :
    (rootCreated = false ∧ t' = t ∧ t.get [] ≠ none ∧ ∀ target, t.get [] ≠ some (.link target)) ∨
      (rootCreated = true ∧ t.get [] = none ∧
        ∀ p, t'.get p = if p = [] then some .directory else t.get p) := by
  unfold openRoot at h
  split at h
  · cases h
  · cases h
  · rename_i hfile hdirectory
    split at h
    · rename_i hthere
      cases h
      refine .inl ⟨rfl, rfl, fun hnone => ?_, fun target htarget => ?_⟩
      · have hnot : t.isThere [] = false := Tree.isThere_eq_false_iff.mpr (.inl hnone)
        rw [hnot] at hthere
        cases hthere
      · cases target with
        | file => exact hfile htarget
        | directory => exact hdirectory htarget
        | nothing creatable =>
          have hnot : t.isThere [] = false :=
            Tree.isThere_eq_false_iff.mpr (.inr (.inl ⟨creatable, htarget⟩))
          rw [hnot] at hthere
          cases hthere
        | inside way =>
          have hnot : t.isThere [] = false :=
            Tree.isThere_eq_false_iff.mpr (.inr (.inr ⟨way, htarget⟩))
          rw [hnot] at hthere
          cases hthere
    · rename_i hmissing
      split at h
      · rename_i t₁ hmade
        cases h
        obtain ⟨hget, hfree⟩ := Tree.get_createDirAll hmade
        refine .inr ⟨rfl, ?_, fun p => ?_⟩
        · have hthere : t.isThere [] = false := by simpa using hmissing
          rcases hfree [] (List.prefix_refl []) with hnone | hdir
          · exact hnone
          · rw [Tree.isThere, hdir] at hthere
            cases hthere
        · rw [hget, if_congr List.prefix_nil rfl rfl]
      · cases h

end Root

section Rejected

/-- The payload is not a list of entries, or there is no root to restore to. -/
def Unreadable (codecs : ArchiveCodecs) (provider : FilesystemProvider) (payload : Bytes) : Prop :=
  (∃ e, codecs.fromSlice payload = .error e) ∨ provider.restoreRoot = none

/-- What a rejected restore leaves: the root, if it was missing and the payload could be read. -/
theorem get_prepare (h : (prepare codecs provider payload t).1 = .error e) :
    (prepare codecs provider payload t).2 = t ∨
      (¬ Unreadable codecs provider payload ∧ t.get [] = none ∧
        ∀ p, (prepare codecs provider payload t).2.get p =
          if p = [] then some .directory else t.get p) := by
  unfold prepare at h ⊢
  split
  · exact .inl rfl
  · rename_i entries hentries
    split
    · exact .inl rfl
    · rename_i root hroot
      have hreadable : ¬ Unreadable codecs provider payload := by
        rintro (⟨e', he'⟩ | hnone)
        · cases hentries.symm.trans he'
        · rw [FilesystemProvider.root, hnone] at hroot
          cases hroot
      split
      · exact .inl rfl
      · rename_i rootCreated t₁ hopen
        have hcase : t₁ = t ∨ (¬ Unreadable codecs provider payload ∧ t.get [] = none ∧
            ∀ p, t₁.get p = if p = [] then some .directory else t.get p) := by
          rcases openRoot_eq_ok hopen with ⟨-, rfl, -⟩ | ⟨-, hnone, hget⟩
          · exact .inl rfl
          · exact .inr ⟨hreadable, hnone, hget⟩
        split
        · exact hcase
        · exact hcase

/-- When the payload can be read, the root is there afterwards. -/
theorem get_prepare_root (h : ¬ Unreadable codecs provider payload) :
    (prepare codecs provider payload t).2.get [] ≠ none := by
  obtain ⟨hentries, hroot⟩ := not_or.mp h
  unfold prepare
  split
  · rename_i e' he'
    exact absurd ⟨e', he'⟩ hentries
  · split
    · rename_i e' he'
      rw [FilesystemProvider.root] at he'
      split at he'
      · cases he'
      · rename_i hnone
        exact absurd hnone hroot
    · split
      · rename_i e' he'
        intro hnone
        -- The root can always be made in a free place.
        have hthere : t.isThere [] = false := Tree.isThere_eq_false_iff.mpr (.inl hnone)
        obtain ⟨t₁, hmade⟩ := Tree.exists_createDirAll (t := t) (p := []) fun q hq =>
          .inl (List.prefix_nil.mp hq ▸ hnone)
        rw [openRoot] at he'
        simp [hnone, hthere, hmade] at he'
      · rename_i rootCreated t₁ hopen
        have hthere : t₁.get [] ≠ none := by
          rcases openRoot_eq_ok hopen with ⟨-, rfl, hthere, -⟩ | ⟨-, -, hget⟩
          · exact hthere
          · rw [hget, if_pos rfl]
            simp
        split
        · exact hthere
        · exact hthere

end Rejected

/-- Let a restore be rejected before it has a journal. It leaves every place of the tree as it was,
and no journal of the attempt, iff the root was there before, or the payload cannot be read as a
list of entries, or there is no root to restore to. -/
theorem rejected_untouched_iff (h : (prepare codecs provider payload t).1 = .error e) :
    (∃ t', restore codecs provider attemptId payload t = (.error e, t') ∧ t'.get = t.get ∧
      (t.get (journalPath codecs attemptId) = none → t'.get (journalPath codecs attemptId) = none)) ↔
    t.get [] ≠ none ∨ Unreadable codecs provider payload := by
  have hrestore : restore codecs provider attemptId payload t =
      (.error e, (prepare codecs provider payload t).2) := by
    unfold restore
    generalize prepare codecs provider payload t = prepared at h
    obtain ⟨result, t₁⟩ := prepared
    obtain rfl := h
    rfl
  constructor
  · rintro ⟨t', hresult, hsame, -⟩
    obtain rfl := (Prod.mk.inj (hrestore.symm.trans hresult)).2
    by_contra hnot
    obtain ⟨hnone, hreadable⟩ := not_or.mp hnot
    exact get_prepare_root hreadable ((congrFun hsame []).trans (not_not.mp hnone))
  · intro hcondition
    refine ⟨_, hrestore, ?_⟩
    rcases get_prepare h with hsame | ⟨hreadable, hnone, -⟩
    · rw [hsame]
      exact ⟨rfl, fun hjournal => hjournal⟩
    · exact absurd hcondition (not_or.mpr ⟨not_not_intro hnone, hreadable⟩)

/-! ### An archive that leads out of the root

Payloads and journals are the JSON texts that the serializer writes. -/

namespace Demo

open Wire Serialization

/-- The bytes of a document, as a file has them. -/
def textOf (document : Json) : Bytes := document.text.flatMap String.utf8EncodeChar

def bytesJson (bytes : Bytes) : Json := list (fun b => number b.toNat) bytes

def payloadJson (entries : List (String × Bytes)) : Json :=
  list (fun entry => .array [.string entry.1, bytesJson entry.2]) entries

def journalJson (journal : RestoreJournal) : Json :=
  .object [
    ("files", list (fun file => .array [.string file.1, option bytesJson file.2]) journal.files),
    ("created_dirs", list (fun dir => .string ("/".intercalate dir)) journal.createdDirs),
    ("root_created", .bool journal.rootCreated)]

/-- Read back what was written for one of these. -/
def readBack {α : Type} (write : α → Bytes) (known : List α) (text : Bytes) : Except String α :=
  match known.find? fun a => write a == text with
  | some a => .ok a
  | none => .error "expected value at line 1 column 1"

/-- The libraries of a provider, for these payloads and journals. The hash is that of the text of
the attempt. -/
def archive (payloads : List (List (String × Bytes))) (journals : List RestoreJournal) :
    ArchiveCodecs where
  toVec entries := textOf (payloadJson entries)
  fromSlice := readBack (fun entries => textOf (payloadJson entries)) payloads
  journalToVec journal := textOf (journalJson journal)
  journalFromSlice := readBack (fun journal => textOf (journalJson journal)) journals
  sha256Hex bytes :=
    if bytes = utf8 (toString (AttemptId.restore 2 9)) then
      "e810cf81a7f3669f06c389e27c4c729cc79eceeeef0a7e13c3016cc4c3632b23"
    else ""

def server : FilesystemProvider where
  restoreRoot := some "/srv"

def escaping : ArchiveCodecs := archive [[("../x", [1])]] []

/-- The text `[["../x",[1]]]`. -/
def escapingPayload : Bytes := escaping.toVec [("../x", [1])]

def nowhere : FileTree := ⟨[]⟩

/-- A root with nothing in it. -/
def bare : FileTree := ⟨[([], .directory)]⟩

def rejection : FabricError :=
  .invalidArgument "restore payload path traversal rejected: ../x"

end Demo

theorem rejected_untouched_iff_escaping :
    (prepare Demo.escaping Demo.server Demo.escapingPayload Demo.bare).1 = .error Demo.rejection ∧
    ((∃ t', restore Demo.escaping Demo.server (.restore 2 9) Demo.escapingPayload Demo.bare =
        (.error Demo.rejection, t') ∧
      t'.get = Demo.bare.get ∧
      (Demo.bare.get (journalPath Demo.escaping (.restore 2 9)) = none →
        t'.get (journalPath Demo.escaping (.restore 2 9)) = none)) ↔
      Demo.bare.get [] ≠ none ∨ Unreadable Demo.escaping Demo.server Demo.escapingPayload) :=
  ⟨by decide +kernel, rejected_untouched_iff (by decide +kernel)⟩

/-- The root is missing; the archive is rejected, and the root is there. -/
theorem rejected_makes_root :
    (prepare Demo.escaping Demo.server Demo.escapingPayload Demo.nowhere).1 =
      .error Demo.rejection ∧
    (restore Demo.escaping Demo.server (.restore 2 9) Demo.escapingPayload Demo.nowhere).1 =
      .error Demo.rejection ∧
    Demo.nowhere.get [] = none ∧
    (restore Demo.escaping Demo.server (.restore 2 9) Demo.escapingPayload Demo.nowhere).2.get [] =
      some .directory := by
  refine ⟨?_, ?_, rfl, ?_⟩ <;> decide +kernel

end CheckpointFabric.Filesystem
