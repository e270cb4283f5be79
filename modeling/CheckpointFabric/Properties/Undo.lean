import CheckpointFabric.Properties.Plan

/-!
# Taking a restore back

A cleanup follows the journal of a restore that has stopped somewhere. It brings the tree back to
what it was before the restore, as long as no link into the tree was followed, unless one of three
things has happened. A file that the journal records as missing is a directory now, because an entry
below it was written first; then the cleanup fails. A link to nothing was written through or
replaced by the journal; then the cleanup removes it. Or the journal directory was there before,
with nothing in it; then the cleanup removes it.

A link into the tree that was followed was taken for a missing directory or file by the plan. Then
it depends on the order of the calls what the cleanup leaves.

## Main definitions

* `Between` — some files are taken back, and the others are as they were at the stop
* `Rewrites` — what taking files back never does
* `Undoable` — a stop that can be taken back

## Main results

* `undoFiles_ok`, `removeDirs_ok` — the parts of the cleanup when nothing of that has happened
* `cleanup_exact_iff` — when a cleanup is exact
* `nested_not_exact` — a payload whose restore cannot be taken back
* `followed_not_exact` — a link that was followed
-/

set_option autoImplicit false

namespace CheckpointFabric.Filesystem

open Files Replica

variable {codecs : ArchiveCodecs} {provider : FilesystemProvider} {attemptId : AttemptId}
  {payload : Bytes} {name : String} {p : Path} {entries : List (String × Bytes)}
  {journal : RestoreJournal} {t t' t₀ t₁ t₂ t₃ : FileTree}

section Stopped

variable (h : Stopped codecs attemptId entries journal t₀ t₁ t₂ t₃)

include h

theorem Stopped.mem_entries {file : String × Option Bytes} (hfile : file ∈ journal.files) :
    ∃ bytes, (file.1, bytes) ∈ entries := by
  have hname : file.1 ∈ entries.map Prod.fst := by
    rw [← h.planned.names_eq]
    exact List.mem_map_of_mem hfile
  obtain ⟨entry, hentry, heq⟩ := List.mem_map.mp hname
  exact ⟨entry.2, heq ▸ hentry⟩

theorem Stopped.accepted {file : String × Option Bytes} (hfile : file ∈ journal.files) :
    Accepted file.1 := by
  obtain ⟨bytes, hentry⟩ := h.mem_entries hfile
  exact h.planned.accepted _ hentry

/-- No two entries lead to one place. -/
theorem Stopped.eq_of_componentsOf {entry entry' : String × Bytes} (hentry : entry ∈ entries)
    (hentry' : entry' ∈ entries) (heq : componentsOf entry.1 = componentsOf entry'.1) :
    entry = entry' :=
  List.inj_on_of_nodup_map h.planned.distinct hentry hentry' heq

/-- Outside of the journal directory the journal changes nothing. -/
theorem Stopped.get_outside (hp : ∀ rest, p ≠ restoreJournalDir :: rest) : t₂.get p = t₁.get p :=
  h.kept.get_other p (hp _) (hp _)

theorem Stopped.get_componentsOf (haccepted : Accepted name) :
    t₂.get (componentsOf name) = t₁.get (componentsOf name) :=
  h.get_outside fun rest heq => haccepted.not_below rest (heq ▸ List.prefix_refl _)

theorem Stopped.recorded {file : String × Option Bytes} (hfile : file ∈ journal.files) :
    Recorded t₂ file.1 file.2 := by
  have hrecorded := h.planned.recorded file hfile
  have hget := h.get_componentsOf (h.accepted hfile)
  obtain ⟨name, previous⟩ := file
  cases previous with
  | none =>
    rwa [Recorded, hereAs, Tree.isDirectory, Tree.isThere, hget]
  | some bytes => exact ⟨hrecorded.1, hget.trans hrecorded.2⟩

/-- In the journal directory nothing changes, but for links that are written through. -/
theorem Stopped.get_inside (rest : Path)
    (hlink : Tree.Loose (t₂.get (restoreJournalDir :: rest)) →
      t₃.get (restoreJournalDir :: rest) = t₂.get (restoreJournalDir :: rest)) :
    t₃.get (restoreJournalDir :: rest) = t₂.get (restoreJournalDir :: rest) := by
  have hchange := h.change (restoreJournalDir :: rest)
  generalize hafter : t₃.get (restoreJournalDir :: rest) = after at hchange
  cases hchange with
  | same => rfl
  | written hmem _ hp _ =>
    exact absurd (hp ▸ List.prefix_refl _) ((h.planned.accepted _ hmem).not_below rest)
  | made hmem hp _ =>
    exact absurd (hp.trans (List.dropLast_prefix _)) ((h.planned.accepted _ hmem).not_below rest)
  | followed hbefore => rw [← hafter, hlink (.inl ⟨true, hbefore⟩)]

end Stopped

section UndoFiles

/-- Every place is as it was at the stop or as it was before, and the directories are there. -/
structure Between (t₂ t₃ t : FileTree) : Prop where
  get : ∀ p, t.get p = t₃.get p ∨ t.get p = t₂.get p
  directory : ∀ p, t₃.get p = some .directory → t.get p = some .directory

/-- Nothing is there now that is not there at the stop. -/
theorem Between.grows (h : Between t₂ t₃ t) (hgrows : t₂.Grows t₃) : t.Grows t₃ := by
  refine ⟨fun q hq => ?_, fun q way hq => ?_, fun q hq => ?_, fun q hq => ?_, fun q target hq hne => ?_⟩
  · rcases h.get q with hsame | hsame
    · rw [← hsame, hq]
    · exact hgrows.directory q (hsame.symm.trans hq)
  · rcases h.get q with hsame | hsame
    · rw [← hsame, hq]
    · exact hgrows.inside q way (hsame.symm.trans hq)
  · rcases h.get q with hsame | hsame
    · rw [← hsame, hq]
    · exact hgrows.outside q (hsame.symm.trans hq)
  · rw [Tree.isThere] at hq
    rcases h.get q with hsame | hsame
    · rwa [hsame, ← Tree.isThere] at hq
    · rw [hsame, ← Tree.isThere] at hq
      exact hgrows.there q hq
  · rcases h.get q with hsame | hsame
    · rw [hsame, hq]
    · rw [hsame]
      exact hgrows.link q target hq hne

theorem Between.closed (h : Between t₂ t₃ t)
    (hstopped : Stopped codecs attemptId entries journal t₀ t₁ t₂ t₃) : t.Closed := by
  intro p name hp
  refine h.directory p (hstopped.stop_closed p name fun hnone => hp ?_)
  rcases h.get (p ++ [name]) with hsame | hsame
  · rw [hsame, hnone]
  · have hchange := hstopped.change (p ++ [name])
    rw [hnone] at hchange
    rw [hsame, hchange.of_none]

/-- What is found under the name of a file is in its place. -/
theorem Between.thereAs_eq (h : Between t₂ t₃ t)
    (hstopped : Stopped codecs attemptId entries journal t₀ t₁ t₂ t₃) {bytes : Bytes}
    (hentry : (name, bytes) ∈ entries) : thereAs t name = hereAs t name :=
  ((hstopped.plain _ hentry).of_grows (h.grows hstopped.grows)).thereAs_eq (h.closed hstopped)

/-- Making the directories that a file is in changes nothing while it is there. -/
theorem pathCreateDirAll_of_file {old : Bytes} (hclosed : t.Closed)
    (hfile : t.get p = some (.file old)) (hne : p ≠ []) :
    ∃ t', t.pathCreateDirAll p.dropLast = .ok t' ∧ t'.Closed ∧ ∀ q, t'.get q = t.get q := by
  have hway (q : Path) (hq : q <+: p.dropLast) : t.get q = some .directory := by
    have hthere : t.get p ≠ none := by simp [hfile]
    refine hclosed.get_prefix hthere (hq.trans (List.dropLast_prefix _)) fun heq => ?_
    have hlength := hq.length_le
    have hpos := List.length_pos_iff.mpr hne
    rw [heq, List.length_dropLast] at hlength
    omega
  obtain ⟨t', hmade, hget⟩ := Tree.exists_pathCreateDirAll hclosed fun q hq => .inr (hway q hq)
  refine ⟨t', hmade, hclosed.pathCreateDirAll hmade, fun q => ?_⟩
  rw [hget]
  split
  · rename_i hq
    exact (hway q hq).symm
  · rfl

/-- A file is taken back, if its place is not a directory and no link was written through. -/
theorem undoFile_ok {file : String × Option Bytes}
    (h : Stopped codecs attemptId entries journal t₀ t₁ t₂ t₃) (hfile : file ∈ journal.files)
    (hfree : file.2 = none → t₃.get (componentsOf file.1) ≠ some .directory)
    (hlinks : ∀ p, Tree.Loose (t₂.get p) → t₃.get p = t₂.get p) (hbetween : Between t₂ t₃ t) :
    ∃ t', undoFile file t = .ok t' ∧
      ∀ p, t'.get p = if p = componentsOf file.1 then t₂.get p else t.get p := by
  obtain ⟨bytes, hentry⟩ := h.mem_entries hfile
  have haccepted := h.accepted hfile
  have hrecorded := h.recorded hfile
  have hchange := h.change (componentsOf file.1)
  have hhere := hbetween.get (componentsOf file.1)
  have hclosed := hbetween.closed h
  obtain ⟨name, previous⟩ := file
  dsimp only at hentry haccepted hrecorded hchange hhere hfree
  rw [undoFile, checkedRestoreRelative_of_accepted haccepted]
  cases previous with
  | some old =>
    obtain ⟨hname, hold⟩ := hrecorded
    -- The file is still one, so the directories that it is in are there.
    obtain ⟨now, hnow⟩ : ∃ now, t₃.get (componentsOf name) = some (.file now) := by
      generalize t₃.get (componentsOf name) = after at hchange
      cases hchange with
      | same => exact ⟨old, hold⟩
      | written => exact ⟨_, rfl⟩
      | made _ _ hbefore => cases hold.symm.trans hbefore
      | followed hbefore => cases hold.symm.trans hbefore
    obtain ⟨contents, hcontents⟩ : ∃ contents, t.get (componentsOf name) = some (.file contents) := by
      rcases hhere with heq | heq
      · exact ⟨now, heq.trans hnow⟩
      · exact ⟨old, heq.trans hold⟩
    obtain ⟨tw, hmade, hclosed', hsame⟩ :=
      pathCreateDirAll_of_file hclosed hcontents haccepted.componentsOf_ne_nil
    have hcontents' := (hsame _).trans hcontents
    have hwritten : writeAs tw name old = .ok (tw.put (componentsOf name) (.file old)) := by
      have hlocate : tw.locate true (componentsOf name) = .ok (componentsOf name) :=
        hclosed'.locate_of_get hcontents' (by simp)
      rw [writeAs, if_neg (by simp [hname]), Tree.pathWrite, hlocate]
      exact Tree.write_file hcontents'
    refine ⟨tw.put (componentsOf name) (.file old), ?_, fun q => ?_⟩
    · exact bind_eq_ok.mpr ⟨_, rfl, bind_eq_ok.mpr ⟨tw, mapError_eq_ok.mpr hmade,
        mapError_eq_ok.mpr hwritten⟩⟩
    · rw [Tree.get_put, hsame]
      split
      · rename_i heq
        rw [heq, hold]
      · rfl
  | none =>
    have hthere := hbetween.thereAs_eq h hentry
    -- If nothing is there, nothing is to be done.
    have hskip (hsame : t.get (componentsOf name) = t₂.get (componentsOf name)) :
        ∃ t', (if thereAs t name then (removeAs t name).mapError cleanupFailure else .ok t) = .ok t' ∧
          ∀ p, t'.get p = if p = componentsOf name then t₂.get p else t.get p := by
      have hnot : thereAs t name = false := by
        rw [hthere, hereAs, Tree.isDirectory, Tree.isThere, hsame]
        exact hrecorded
      refine ⟨t, by rw [hnot]; rfl, fun q => ?_⟩
      split
      · rename_i heq
        rw [heq, hsame]
      · rfl
    suffices hundo : ∃ t', (if thereAs t name then (removeAs t name).mapError cleanupFailure
        else .ok t) = .ok t' ∧
          ∀ p, t'.get p = if p = componentsOf name then t₂.get p else t.get p from hundo
    generalize hafter : t₃.get (componentsOf name) = after at hchange hhere
    cases hchange with
    | same => exact hskip (hhere.elim id id)
    | @written name' _ _ hmem hname heq hbefore =>
      obtain rfl : name = name' := congrArg Prod.fst (h.eq_of_componentsOf hentry hmem heq)
      have hplace (tree : FileTree) : hereAs tree name = tree.isThere (componentsOf name) := by
        rw [hereAs, if_neg (by simp [hname])]
      -- The file was made by the restore.
      have hnone : t₂.get (componentsOf name) = none := by
        refine hbefore.resolve_right ?_
        rintro ⟨old, hold⟩
        have hmissing : t₂.isThere (componentsOf name) = false := (hplace t₂).symm.trans hrecorded
        rw [Tree.isThere, hold] at hmissing
        cases hmissing
      rcases hhere with hfile' | hsame
      · have hlocate : t.locate false (componentsOf name) = .ok (componentsOf name) :=
          hclosed.locate_of_get hfile' (by simp)
        refine ⟨t.erase (componentsOf name), ?_, fun q => ?_⟩
        · rw [hthere, hplace, Tree.isThere, hfile']
          refine mapError_eq_ok.mpr ?_
          rw [removeAs, if_neg (by simp [hname]), Tree.pathRemoveFile, hlocate]
          exact Tree.removeFile_file hfile'
        · rw [Tree.get_erase]
          split
          · rename_i heq
            rw [heq, hnone]
          · rfl
      · exact hskip hsame
    | made => exact absurd hafter (hfree rfl)
    | followed hbefore =>
      have hkept := hlinks _ (.inl ⟨true, hbefore⟩)
      rw [hafter, hbefore] at hkept
      cases hkept

theorem undoFiles_ok (h : Stopped codecs attemptId entries journal t₀ t₁ t₂ t₃)
    (files : List (String × Option Bytes)) (hfiles : files ⊆ journal.files)
    (hfree : ∀ file ∈ files, file.2 = none → t₃.get (componentsOf file.1) ≠ some .directory)
    (hlinks : ∀ p, Tree.Loose (t₂.get p) → t₃.get p = t₂.get p) (hbetween : Between t₂ t₃ t) :
    ∃ t', undoFiles files t = .ok t' ∧ Between t₂ t₃ t' ∧
      (∀ p, t.get p = t₂.get p → t'.get p = t₂.get p) ∧
      ∀ file ∈ files, t'.get (componentsOf file.1) = t₂.get (componentsOf file.1) := by
  induction files generalizing t with
  | nil => exact ⟨t, rfl, hbetween, fun _ => id, fun _ hfile => absurd hfile List.not_mem_nil⟩
  | cons file files ih =>
    have hfile := hfiles (.head _)
    obtain ⟨tm, hundone, hget⟩ := undoFile_ok h hfile (hfree file (.head _)) hlinks hbetween
    -- Undoing the first file puts its place back and touches no other, so the rest can go on.
    have hbetween' : Between t₂ t₃ tm := by
      constructor
      · intro p
        rw [hget]
        split
        · exact .inr rfl
        · exact hbetween.get p
      · intro p hp
        rw [hget]
        split
        · -- The place of a file is not a directory, neither before nor at the stop.
          rename_i heq
          subst heq
          have hdirectory := hfree file (.head _)
          have hrecorded := h.recorded hfile
          have hchange := h.change (componentsOf file.1)
          cases hprevious : file.2 with
          | none => exact absurd hp (hdirectory hprevious)
          | some old =>
            rw [hprevious] at hrecorded
            rw [hp] at hchange
            generalize hafter : some Node.directory = after at hchange
            cases hchange with
            | same => rfl
            | written => cases hafter
            | made _ _ hbefore => cases hrecorded.2.symm.trans hbefore
            | followed => cases hafter
        · exact hbetween.directory p hp
    obtain ⟨t', hrest, hbetween'', hkept, hdone⟩ :=
      ih (fun x hx => hfiles (.tail _ hx)) (fun x hx => hfree x (.tail _ hx)) hbetween'
    refine ⟨t', bind_eq_ok.mpr ⟨tm, hundone, hrest⟩, hbetween'', fun p hp => hkept p ?_, ?_⟩
    · rw [hget]
      split
      · rfl
      · exact hp
    · intro x hx
      rcases List.mem_cons.mp hx with rfl | hx
      · exact hkept _ (by rw [hget, if_pos rfl])
      · exact hdone x hx

end UndoFiles

section RemoveDirs

/-- A directory is removed iff nothing is in it. -/
theorem removeDirectoryIfEmpty_directory (hlocate : ∀ follow, t.locate follow p = .ok p)
    (h : t.get p = some .directory) :
    removeDirectoryIfEmpty t p = .ok (if t.hasChild p then t else t.erase p) := by
  rw [removeDirectoryIfEmpty, hlocate true]
  dsimp only
  rw [h]
  dsimp only
  split
  · rfl
  · rename_i hempty
    rw [Tree.pathRemoveDir, hlocate false]
    dsimp only
    rw [Tree.removeDir_directory h, if_neg hempty]

/-- Directories that were made are removed, the deepest ones first: each is empty when it is its
turn. -/
theorem removeDirs_ok {dirs : List Path} (hclosed₂ : t₂.Closed)
    (hsorted : dirs.Pairwise fun a b => b.length ≤ a.length)
    (hmissing : ∀ dir ∈ dirs, t₂.isThere dir = false) (hdead : ∀ dir ∈ dirs, t₃.Dead dir)
    (hclosed : t.Closed) (hgrows : t.Grows t₃)
    (hget : ∀ p, t.get p = t₂.get p ∨ (p ∈ dirs ∧ t.get p = some .directory ∧ t₂.get p = none)) :
    ∃ t', removeDirs dirs t = .ok t' ∧ ∀ p, t'.get p = t₂.get p := by
  induction dirs generalizing t with
  | nil => exact ⟨t, rfl, fun p => (hget p).resolve_right fun hp => absurd hp.1 List.not_mem_nil⟩
  | cons dir dirs ih =>
    obtain ⟨hdepth, hsorted⟩ := List.pairwise_cons.mp hsorted
    have hrest (t : FileTree) := @ih t hsorted (fun d hd => hmissing d (.tail _ hd))
      fun d hd => hdead d (.tail _ hd)
    have hfound : t.pathExists dir = t.isThere dir :=
      ((hdead dir (.head _)).of_grows hgrows).pathExists hclosed
    by_cases hthere : t.isThere dir = true
    · have hmade : t.get dir = some .directory ∧ t₂.get dir = none := by
        rcases hget dir with hsame | ⟨-, hmade⟩
        · have hnot := hmissing dir (.head _)
          rw [Tree.isThere, ← hsame, ← Tree.isThere, hthere] at hnot
          cases hnot
        · exact hmade
      -- What is in it would be deeper, so it would have been removed before.
      have hempty : t.hasChild dir = false := by
        by_contra hchild
        obtain ⟨name, hname⟩ := Tree.hasChild_iff.mp (by simpa using hchild)
        rcases hget (dir ++ [name]) with hsame | ⟨hmem, -, -⟩
        · rw [hclosed₂.get_child (by rw [hmade.2]; simp)] at hsame
          exact hname hsame
        · rcases List.mem_cons.mp hmem with heq | hmem
          · simp at heq
          · have hlength := hdepth _ hmem
            rw [List.length_append, List.length_singleton] at hlength
            omega
      have hremoved : removeIfThere dir t = .ok (t.erase dir) := by
        rw [removeIfThere, hfound, hthere, if_pos rfl,
          removeDirectoryIfEmpty_directory (fun _ => hclosed.locate_of_get hmade.1 (by simp)) hmade.1,
          hempty]
        rfl
      obtain ⟨t', hdone, hsame⟩ := hrest (t.erase dir) (hclosed.erase hempty)
        ((Tree.grows_erase hmade.1).trans hgrows) fun p => by
          rw [Tree.get_erase]
          split
          · rename_i heq
            exact .inl (by rw [heq, hmade.2])
          · rename_i hne
            refine (hget p).imp_right fun hp => ?_
            exact ⟨(List.mem_cons.mp hp.1).resolve_left hne, hp.2⟩
      exact ⟨t', bind_eq_ok.mpr ⟨_, hremoved, hdone⟩, hsame⟩
    -- It was never made.
    · have hskipped : removeIfThere dir t = .ok t := if_neg (by rwa [hfound])
      obtain ⟨t', hdone, hsame⟩ := hrest t hclosed hgrows fun p => by
        refine (hget p).imp_right fun hp => ⟨?_, hp.2⟩
        refine (List.mem_cons.mp hp.1).resolve_left fun heq => hthere ?_
        rw [← heq, Tree.isThere, hp.2.1]
      exact ⟨t', bind_eq_ok.mpr ⟨_, hskipped, hdone⟩, hsame⟩

end RemoveDirs

section Journal

/-- The journal is removed, and then its directory if nothing else is in it. -/
theorem removeRestoreJournal_ok {contents : Bytes} (hclosed : t.Closed)
    (hfile : t.get (journalPath codecs attemptId) = some (.file contents))
    (hdirectory : t.get [restoreJournalDir] = some .directory) :
    removeRestoreJournal codecs attemptId t =
      .ok (if (t.erase (journalPath codecs attemptId)).hasChild [restoreJournalDir] then
        t.erase (journalPath codecs attemptId)
      else (t.erase (journalPath codecs attemptId)).erase [restoreJournalDir]) := by
  have hlocate : t.locate false (journalPath codecs attemptId) = .ok (journalPath codecs attemptId) :=
    hclosed.locate_of_get hfile (by simp)
  have hthere : t.pathExists (journalPath codecs attemptId) = true :=
    hclosed.pathExists (by rw [Tree.isThere, hfile])
  have herased := Tree.removeFile_file hfile
  have hremoved : removeJournalFile codecs attemptId t =
      .ok (t.erase (journalPath codecs attemptId)) := by
    rw [removeJournalFile, if_pos hthere, Tree.pathRemoveFile, hlocate]
    dsimp only
    rw [herased]
    rfl
  have hdirectory' : (t.erase (journalPath codecs attemptId)).get [restoreJournalDir] =
      some .directory := by
    rw [Tree.get_erase_of_ne (Ne.symm journalPath_ne), hdirectory]
  have hlocate' (follow : Bool) : (t.erase (journalPath codecs attemptId)).locate follow
      [restoreJournalDir] = .ok [restoreJournalDir] :=
    (hclosed.removeFile herased).locate_of_get hdirectory' (by simp)
  exact bind_eq_ok.mpr ⟨_, hremoved, removeDirectoryIfEmpty_directory hlocate' hdirectory'⟩

end Journal

section Exact

/-- A link to nothing is one before and after the journal is made durable. -/
theorem Stopped.links (h : Stopped codecs attemptId entries journal t₀ t₁ t₂ t₃)
    (hlinks : ∀ p, Tree.Loose (t₀.get p) → t₃.get p = t₀.get p) (p : Path)
    (hp : Tree.Loose (t₂.get p)) : t₃.get p = t₂.get p := by
  have hother : t₂.get p = t₁.get p := by
    refine h.kept.get_other p (fun heq => ?_) fun heq => ?_
    · rw [heq, h.kept.get_journal] at hp
      exact absurd hp Tree.not_loose_file
    · rw [heq, h.kept.get_directory] at hp
      exact absurd hp Tree.not_loose_directory
  rw [hother] at hp ⊢
  rcases h.root with ⟨-, rfl⟩ | ⟨-, -, hget⟩
  · exact hlinks p hp
  · rw [hget] at hp
    split at hp
    · exact absurd hp Tree.not_loose_directory
    · exact absurd hp Tree.not_loose_none

/-- The journal is at the stop what it was when it was made durable. -/
theorem Stopped.get_journal (h : Stopped codecs attemptId entries journal t₀ t₁ t₂ t₃) :
    t₃.get (journalPath codecs attemptId) = some (.file (codecs.journalToVec journal)) := by
  refine (h.get_inside _ fun hloose => ?_).trans h.kept.get_journal
  have hjournal := h.kept.get_journal
  rw [journalPath] at hjournal
  rw [hjournal] at hloose
  exact absurd hloose Tree.not_loose_file

/-- Nothing was in the place of the journal. -/
theorem Stopped.get_journal_before (h : Stopped codecs attemptId entries journal t₀ t₁ t₂ t₃)
    (hlinks : ∀ p, Tree.Loose (t₀.get p) → t₃.get p = t₀.get p) :
    t₁.get (journalPath codecs attemptId) = none := by
  rcases h.kept.free with hnone | hloose
  · exact hnone
  · rcases h.root with ⟨-, rfl⟩ | ⟨-, -, hget⟩
    · have hkept := hlinks _ hloose
      rw [h.get_journal] at hkept
      rw [← hkept] at hloose
      exact absurd hloose Tree.not_loose_file
    · rw [hget, if_neg (by simp [journalPath])]

/-- Then making the journal durable takes nothing away. -/
theorem Kept.grows (h : Kept codecs attemptId journal t₁ t₂)
    (hfree : t₁.get (journalPath codecs attemptId) = none) : t₁.Grows t₂ := by
  refine .of_changed (fun q target hlink _ => ?_) fun q => ?_
  · rwa [← h.get_other q (fun heq => ?_) fun heq => ?_]
    · cases (heq ▸ h.get_journal).symm.trans hlink
    · cases (heq ▸ h.get_directory).symm.trans hlink
  · by_cases hjournal : q = journalPath codecs attemptId
    · exact .inr (.inl (hjournal ▸ hfree))
    · by_cases hdirectory : q = [restoreJournalDir]
      · subst hdirectory
        rcases h.directory with hnone | hdir
        · exact .inr (.inl hnone)
        · exact .inl (h.get_directory.trans hdir.symm)
      · exact .inl (h.get_other q hjournal hdirectory)

/-- Taking the files back leaves only directories that were made. -/
theorem Stopped.undone (h : Stopped codecs attemptId entries journal t₀ t₁ t₂ t₃)
    (hfree : t₁.get (journalPath codecs attemptId) = none)
    (hlinks : ∀ p, Tree.Loose (t₂.get p) → t₃.get p = t₂.get p) (hbetween : Between t₂ t₃ t)
    (hdone : ∀ file ∈ journal.files, t.get (componentsOf file.1) = t₂.get (componentsOf file.1))
    (p : Path) :
    t.get p = t₂.get p ∨ (p ∈ journal.createdDirs ∧ t.get p = some .directory ∧ t₂.get p = none) := by
  rcases hbetween.get p with hstop | hsame
  · rw [hstop]
    have hchange := h.change p
    generalize hafter : t₃.get p = after at hchange
    cases hchange with
    | same => exact .inl rfl
    | @written name bytes _ hmem _ heq _ =>
      have hname : name ∈ journal.files.map Prod.fst := by
        rw [h.planned.names_eq]
        exact List.mem_map_of_mem hmem
      obtain ⟨file, hfile, rfl⟩ := List.mem_map.mp hname
      rw [← hafter, ← hstop, heq]
      exact .inl (hdone file hfile)
    | @made name bytes hmem hp hnone =>
      refine .inr ⟨(h.planned.mem_createdDirs p).mpr ⟨?_, fun hnil => ?_, _, hmem, hp⟩, rfl, hnone⟩
      · have hbefore : t₁.get p = none := by
          rw [← h.get_outside fun rest heq => ?_, hnone]
          exact (h.planned.accepted _ hmem).not_below rest
            (heq ▸ hp.trans (List.dropLast_prefix _))
        have hdead := ((h.plain _ hmem).way.of_prefix hp).of_grows
          ((h.kept.grows hfree).trans h.grows)
        rw [hdead.pathExists h.closed]
        exact Tree.isThere_eq_false_iff.mpr (.inl hbefore)
      · cases h.kept.root.symm.trans (hnil ▸ hnone)
    | followed hbefore =>
      have hkept := hlinks p (.inl ⟨true, hbefore⟩)
      rw [hafter] at hkept
      exact .inl hkept
  · exact .inl hsame

/-- Without the journal the tree is what it was before, but for a root that was made. -/
theorem removeRestoreJournal_exact (h : Stopped codecs attemptId entries journal t₀ t₁ t₂ t₃)
    (hfree : t₁.get (journalPath codecs attemptId) = none)
    (hdirectory : t₁.get [restoreJournalDir] = some .directory → t₁.hasChild [restoreJournalDir] = true)
    (hget : ∀ p, t.get p = t₂.get p) :
    ∃ t', removeRestoreJournal codecs attemptId t = .ok t' ∧ ∀ p, t'.get p = t₁.get p := by
  have herased (p : Path) (hp : p ≠ [restoreJournalDir]) :
      (t.erase (journalPath codecs attemptId)).get p = t₁.get p := by
    rw [Tree.get_erase]
    split
    · rename_i heq
      rw [heq, hfree]
    · rename_i hne
      rw [hget, h.kept.get_other p hne hp]
  have hchild (name : String) : (t.erase (journalPath codecs attemptId)).get
      ([restoreJournalDir] ++ [name]) = t₁.get ([restoreJournalDir] ++ [name]) :=
    herased _ (by simp)
  refine ⟨_, removeRestoreJournal_ok (h.kept.closed.congr hget)
    ((hget _).trans h.kept.get_journal) ((hget _).trans h.kept.get_directory), fun p => ?_⟩
  by_cases hpopulated : (t.erase (journalPath codecs attemptId)).hasChild [restoreJournalDir] = true
  · rw [if_pos hpopulated]
    obtain ⟨name, hname⟩ := Tree.hasChild_iff.mp hpopulated
    rw [hchild] at hname
    have hdir := h.closed _ _ hname
    by_cases hp : p = [restoreJournalDir]
    · rw [hp, Tree.get_erase_of_ne (Ne.symm journalPath_ne), hget, h.kept.get_directory, hdir]
    · exact herased p hp
  · rw [if_neg hpopulated, Tree.get_erase]
    split
    · rename_i hp
      rw [hp]
      refine (h.kept.directory.resolve_right fun hdir => hpopulated ?_).symm
      obtain ⟨name, hname⟩ := Tree.hasChild_iff.mp (hdirectory hdir)
      exact Tree.hasChild_iff.mpr ⟨name, by rwa [hchild]⟩
    · rename_i hp
      exact herased p hp

/-- The cleanup of a restore that has left the places of its files free. -/
theorem takeBack_exact (h : Stopped codecs attemptId entries journal t₀ t₁ t₂ t₃)
    (hfree : ∀ file ∈ journal.files, file.2 = none →
      t₃.get (componentsOf file.1) ≠ some .directory)
    (hlinks : ∀ p, Tree.Loose (t₀.get p) → t₃.get p = t₀.get p)
    (hdirectory : t₀.get [restoreJournalDir] = some .directory →
      t₀.hasChild [restoreJournalDir] = true) :
    ∃ t', takeBack codecs attemptId journal t₃ = .ok t' ∧ t'.get = t₀.get := by
  have hlinks₂ := h.links hlinks
  have hunused := h.get_journal_before hlinks
  -- First the files are undone, the last one first;
  obtain ⟨ta, hundone, hbetween, -, hdone⟩ := undoFiles_ok h journal.files.reverse
    (fun file hfile => List.mem_reverse.mp hfile)
    (fun file hfile => hfree file (List.mem_reverse.mp hfile)) hlinks₂
    ⟨fun _ => .inl rfl, fun _ => id⟩
  have hleft := h.undone hunused hlinks₂ hbetween fun file hfile =>
    hdone file (List.mem_reverse.mpr hfile)
  -- then the directories that were made are removed, the deepest ones first;
  obtain ⟨tb, hremoved, hsame⟩ := removeDirs_ok (t := ta) h.kept.closed
    (List.pairwise_insertionSort (fun a b : Path => b.length ≤ a.length) journal.createdDirs)
    (fun dir hdir => by
      obtain ⟨hmissing, hne, entry, hentry, hpart⟩ :=
        (h.planned.mem_createdDirs dir).mp (List.mem_insertionSort _ |>.mp hdir)
      rw [Tree.isThere, h.get_outside fun rest heq => (h.planned.accepted _ hentry).not_below rest
        (heq ▸ hpart.trans (List.dropLast_prefix _)), ← Tree.isThere]
      exact Tree.isThere_eq_false_iff.mpr (loose_of_not_exists h.closed hmissing))
    (fun dir hdir => by
      obtain ⟨-, -, entry, hentry, hpart⟩ :=
        (h.planned.mem_createdDirs dir).mp (List.mem_insertionSort _ |>.mp hdir)
      exact (h.plain entry hentry).way.of_prefix hpart)
    (hbetween.closed h) (hbetween.grows h.grows)
    fun p => (hleft p).imp_right fun hp => ⟨(List.mem_insertionSort _).mpr hp.1, hp.2⟩
  have hdirectory₁ : t₁.get [restoreJournalDir] = some .directory →
      t₁.hasChild [restoreJournalDir] = true := by
    rcases h.root with ⟨-, rfl⟩ | ⟨-, -, hget⟩
    · exact hdirectory
    · rw [hget, if_neg (by simp)]
      exact fun hnone => by cases hnone
  -- and last the journal, whose directory goes if it is empty.
  obtain ⟨tc, hdropped, hbefore⟩ := removeRestoreJournal_exact h hunused hdirectory₁ hsame
  have hstart {t' : FileTree} (hlast : (if journal.rootCreated then removeIfThere [] tc else .ok tc) =
      .ok t') : takeBack codecs attemptId journal t₃ = .ok t' :=
    bind_eq_ok.mpr ⟨ta, hundone, bind_eq_ok.mpr ⟨tb, hremoved, bind_eq_ok.mpr ⟨tc, hdropped, hlast⟩⟩⟩
  rcases h.root with ⟨hfalse, rfl⟩ | ⟨htrue, hnone, hget⟩
  · exact ⟨tc, hstart (by rw [hfalse]; rfl), funext hbefore⟩
  · -- The root was made, and nothing is in it.
    have hclosed := h.closed.congr hbefore
    have hroot : tc.get [] = some .directory := by rw [hbefore, hget, if_pos rfl]
    have hempty : tc.hasChild [] = false := by
      by_contra hchild
      obtain ⟨name, hname⟩ := Tree.hasChild_iff.mp (by simpa using hchild)
      rw [hbefore, hget, if_neg (by simp)] at hname
      exact hname rfl
    refine ⟨tc.erase [], hstart ?_, funext fun p => ?_⟩
    · rw [htrue, if_pos rfl, removeIfThere, hclosed.pathExists (by rw [Tree.isThere, hroot])]
      rw [removeDirectoryIfEmpty_directory (fun _ => hclosed.locate_of_get hroot (by simp)) hroot,
        hempty]
      rfl
    · rw [Tree.get_erase, hnone]
      split
      · rfl
      · rename_i hp
        rw [hbefore, hget, if_neg hp]

end Exact

section Inexact

/-- No directory goes away, and no link to nothing is made. -/
def Rewrites (t t' : FileTree) : Prop :=
  ∀ p, t'.get p = t.get p ∨ (t.get p ≠ some .directory ∧ ¬ Tree.Loose (t'.get p))

theorem Rewrites.refl (t : FileTree) : Rewrites t t := fun _ => .inl rfl

theorem Rewrites.trans (h : Rewrites t t₁) (h' : Rewrites t₁ t₂) : Rewrites t t₂ := by
  intro p
  rcases h p with hsame | ⟨hnot, hplain⟩
  · rw [← hsame]
    exact h' p
  · rcases h' p with hsame' | ⟨-, hplain'⟩
    · exact .inr ⟨hnot, hsame' ▸ hplain⟩
    · exact .inr ⟨hnot, hplain'⟩

theorem rewrites_of_made (h : t.Made t') : Rewrites t t' := by
  intro p
  rcases h p with hsame | ⟨hnone, hmade⟩
  · exact .inl hsame
  · exact .inr ⟨by rw [hnone]; simp, by rw [hmade]; simp⟩

theorem rewrites_write {contents : Bytes} (h : t.write p contents = .ok t') : Rewrites t t' := by
  obtain ⟨hother, hself⟩ := Tree.get_write h
  intro q
  by_cases heq : q = p
  · subst heq
    rcases hself with hsame | ⟨hfile, -, -, hold⟩ | ⟨hfile, now, hold⟩ | ⟨hlink, hold⟩
    · exact .inl hsame
    · exact .inr ⟨by rw [hold]; simp, by rw [hfile]; simp⟩
    · exact .inr ⟨by rw [hold]; simp, by rw [hfile]; simp⟩
    · exact .inr ⟨by rw [hold]; simp, by rw [hlink]; simp⟩
  · exact .inl (hother q heq)

theorem rewrites_removeFile (h : t.removeFile p = .ok t') : Rewrites t t' := by
  obtain ⟨hget, hnot⟩ := Tree.get_removeFile h
  intro q
  rw [hget]
  split
  · rename_i heq
    exact .inr ⟨heq ▸ hnot, Tree.not_loose_none⟩
  · exact .inl rfl

/-- A file that was there is written again, after the directories on its way; a file that was not is
removed. Links on its way are followed. -/
theorem undoFile_rewrites {file : String × Option Bytes} (h : undoFile file t = .ok t') :
    Rewrites t t' ∧ (t.Closed → t'.Closed) := by
  obtain ⟨name, previous⟩ := file
  obtain ⟨path, -, h⟩ := bind_eq_ok.mp h
  cases previous with
  | some old =>
    obtain ⟨tm, hmade, hwritten⟩ := bind_eq_ok.mp h
    have hmade := mapError_eq_ok.mp hmade
    have hwritten := mapError_eq_ok.mp hwritten
    refine ⟨?_, fun hclosed => closed_writeAs (hclosed.pathCreateDirAll hmade) hwritten⟩
    rw [writeAs] at hwritten
    split at hwritten
    · cases hwritten
    · obtain ⟨place, -, hwritten⟩ := Tree.pathWrite_ok hwritten
      exact (rewrites_of_made (Tree.pathCreateDirAll_made hmade)).trans (rewrites_write hwritten)
  | none =>
    dsimp only at h
    split at h
    · have hremoved := mapError_eq_ok.mp h
      rw [removeAs] at hremoved
      split at hremoved
      · cases hremoved
      · obtain ⟨place, -, hremoved⟩ := Tree.pathRemoveFile_ok hremoved
        exact ⟨rewrites_removeFile hremoved, fun hclosed => hclosed.removeFile hremoved⟩
    · obtain rfl := Except.ok.inj h
      exact ⟨.refl t, id⟩

theorem undoFiles_rewrites {files : List (String × Option Bytes)} (h : undoFiles files t = .ok t') :
    Rewrites t t' := by
  induction files generalizing t with
  | nil =>
    obtain rfl := Except.ok.inj h
    exact .refl t
  | cons file files ih =>
    obtain ⟨tm, hundone, hrest⟩ := bind_eq_ok.mp h
    exact (undoFile_rewrites hundone).1.trans (ih hrest)

/-- A directory in the place of a file that was missing cannot be taken back. -/
theorem undoFiles_ne_ok {files : List (String × Option Bytes)} {file : String × Option Bytes}
    (hclosed : t.Closed) (hfile : file ∈ files) (hnone : file.2 = none)
    (hdirectory : t.get (componentsOf file.1) = some .directory) : undoFiles files t ≠ .ok t' := by
  intro h
  induction files generalizing t with
  | nil => cases hfile
  | cons first files ih =>
    obtain ⟨tm, hundone, hrest⟩ := bind_eq_ok.mp h
    rcases List.mem_cons.mp hfile with rfl | hfile
    · obtain ⟨path, -, hundone⟩ := bind_eq_ok.mp hundone
      rw [hnone] at hundone
      have hhere : hereAs t file.1 = true := by
        rw [hereAs, Tree.isDirectory, Tree.isThere, hdirectory, ite_self]
      have hlocate : t.locate false (componentsOf file.1) = .ok (componentsOf file.1) :=
        hclosed.locate_of_get hdirectory (by simp)
      dsimp only at hundone
      rw [if_pos (thereAs_of_hereAs hclosed hhere)] at hundone
      have hremoved := mapError_eq_ok.mp hundone
      rw [removeAs, Tree.pathRemoveFile, hlocate] at hremoved
      dsimp only at hremoved
      rw [Tree.removeFile, hdirectory] at hremoved
      split at hremoved <;> cases hremoved
    · obtain ⟨hrewrites, hclosed'⟩ := undoFile_rewrites hundone
      refine ih (hclosed' hclosed) hfile ?_ hrest
      rcases hrewrites (componentsOf file.1) with hsame | ⟨hnot, -⟩
      · rw [hsame, hdirectory]
      · exact absurd hdirectory hnot

theorem removeDirectoryIfEmpty_get {path : Path} (h : removeDirectoryIfEmpty t path = .ok t')
    (p : Path) : t'.get p = t.get p ∨ t'.get p = none := by
  have hsame (h : (Except.ok t : FabricResult FileTree) = .ok t') : t'.get p = t.get p := by
    rw [Except.ok.inj h]
  rw [removeDirectoryIfEmpty] at h
  split at h
  · exact .inl (hsame h)
  · cases h
  · split at h
    · exact .inl (hsame h)
    · exact .inl (hsame h)
    · exact .inl (hsame h)
    · split at h
      · exact .inl (hsame h)
      · split at h
        · rename_i hremoved
          obtain rfl := Except.ok.inj h
          exact Tree.get_pathRemoveDir hremoved p
        · exact .inl (hsame h)
        · cases h
    · cases h

theorem removeIfThere_get {path : Path} (h : removeIfThere path t = .ok t') (p : Path) :
    t'.get p = t.get p ∨ t'.get p = none := by
  rw [removeIfThere] at h
  split at h
  · exact removeDirectoryIfEmpty_get h p
  · obtain rfl := Except.ok.inj h
    exact .inl rfl

theorem removeDirs_get {dirs : List Path} (h : removeDirs dirs t = .ok t') (p : Path) :
    t'.get p = t.get p ∨ t'.get p = none := by
  induction dirs generalizing t with
  | nil =>
    obtain rfl := Except.ok.inj h
    exact .inl rfl
  | cons dir dirs ih =>
    obtain ⟨tm, hremoved, hrest⟩ := bind_eq_ok.mp h
    rcases ih hrest with hsame | hnone
    · rw [hsame]
      exact removeIfThere_get hremoved p
    · exact .inr hnone

theorem removeJournalFile_get (h : removeJournalFile codecs attemptId t = .ok t') (p : Path) :
    t'.get p = t.get p ∨ t'.get p = none := by
  rw [removeJournalFile] at h
  split at h
  · obtain ⟨place, -, hremoved⟩ := Tree.pathRemoveFile_ok (mapError_eq_ok.mp h)
    rw [(Tree.get_removeFile hremoved).1]
    split
    · exact .inr rfl
    · exact .inl rfl
  · obtain rfl := Except.ok.inj h
    exact .inl rfl

theorem removeRestoreJournal_get (h : removeRestoreJournal codecs attemptId t = .ok t') (p : Path) :
    t'.get p = t.get p ∨ t'.get p = none := by
  obtain ⟨tm, hremoved, hlast⟩ := bind_eq_ok.mp h
  rcases removeDirectoryIfEmpty_get hlast p with hsame | hnone
  · rw [hsame]
    exact removeJournalFile_get hremoved p
  · exact .inr hnone

/-- The parts of a cleanup that has succeeded. -/
theorem takeBack_parts (h : takeBack codecs attemptId journal t = .ok t') :
    ∃ ta tb tc, undoFiles journal.files.reverse t = .ok ta ∧
      removeDirs (journal.createdDirs.insertionSort fun a b => b.length ≤ a.length) ta = .ok tb ∧
      removeRestoreJournal codecs attemptId tb = .ok tc ∧
      (if journal.rootCreated then removeIfThere [] tc else .ok tc) = .ok t' := by
  obtain ⟨ta, hundone, h⟩ := bind_eq_ok.mp h
  obtain ⟨tb, hremoved, h⟩ := bind_eq_ok.mp h
  obtain ⟨tc, hdropped, h⟩ := bind_eq_ok.mp h
  exact ⟨ta, tb, tc, hundone, hremoved, hdropped, h⟩

/-- A cleanup that succeeds leaves no link to nothing that it has not found. -/
theorem takeBack_loose (h : takeBack codecs attemptId journal t = .ok t')
    (hp : Tree.Loose (t'.get p)) : t'.get p = t.get p := by
  have hthere {after before : Option (Node UInt8)} (hafter : Tree.Loose after)
      (h : after = before ∨ after = none) : after = before :=
    h.resolve_right fun hnone => Tree.not_loose_none (hnone ▸ hafter)
  obtain ⟨ta, tb, tc, hundone, hremoved, hdropped, hlast⟩ := takeBack_parts h
  have hc : t'.get p = tc.get p := by
    split at hlast
    · exact hthere hp (removeIfThere_get hlast p)
    · rw [Except.ok.inj hlast]
  have hb : t'.get p = tb.get p :=
    hc.trans (hthere (hc ▸ hp) (removeRestoreJournal_get hdropped p))
  have ha : t'.get p = ta.get p := hb.trans (hthere (hb ▸ hp) (removeDirs_get hremoved p))
  refine ha.trans ((undoFiles_rewrites hundone p).resolve_right fun hplain => hplain.2 ?_)
  exact ha ▸ hp

/-- The journal directory does not survive a cleanup that finds nothing else in it. -/
theorem takeBack_directory (hroot : journal.rootCreated = false)
    (hdone : takeBack codecs attemptId journal t = .ok t') (htop : t'.get [] = some .directory)
    (hdirectory : t'.get [restoreJournalDir] = some .directory) :
    t'.hasChild [restoreJournalDir] = true := by
  obtain ⟨ta, tb, tc, hundone, hremoved, hdropped, hlast⟩ := takeBack_parts hdone
  rw [hroot] at hlast
  obtain rfl := Except.ok.inj hlast
  obtain ⟨tm, -, hlast⟩ := bind_eq_ok.mp hdropped
  -- The directories that are there at the end were there before the last call.
  have hbefore {q : Path} (hq : tc.get q = some .directory) : tm.get q = some .directory := by
    rcases removeDirectoryIfEmpty_get hlast q with hsame | hnone
    · exact hsame.symm.trans hq
    · cases hnone.symm.trans hq
  have hlocate (follow : Bool) :
      tm.locate follow [restoreJournalDir] = .ok [restoreJournalDir] := by
    refine Tree.locate_of_directories (fun q hq hne => ?_) fun _ way => by
      rw [hbefore hdirectory]
      simp
    rw [List.prefix_nil.mp (prefix_dropLast hq hne)]
    exact hbefore htop
  rw [removeDirectoryIfEmpty_directory hlocate (hbefore hdirectory)] at hlast
  have hlast := Except.ok.inj hlast
  by_cases hchild : tm.hasChild [restoreJournalDir] = true
  · rwa [← hlast, if_pos hchild]
  · rw [← hlast, if_neg hchild, Tree.get_erase_self] at hdirectory
    cases hdirectory

end Inexact

/-- No link into the tree was followed, the places of missing files are not directories at the stop,
links to nothing are as they were, and the journal directory was not there with nothing in it. -/
structure Undoable (journal : RestoreJournal) (t₀ t₃ : FileTree) : Prop where
  unfollowed : ¬ Followed journal t₃
  free : ∀ file ∈ journal.files, file.2 = none → t₃.get (componentsOf file.1) ≠ some .directory
  links : ∀ p, Tree.Loose (t₀.get p) → t₃.get p = t₀.get p
  directory : ¬ (t₀.get [restoreJournalDir] = some .directory ∧
    t₀.hasChild [restoreJournalDir] = false)

/-- A new instance takes back what the journal says. -/
theorem Stopped.cleanupRestore_eq (h : Stopped codecs attemptId entries journal t₀ t₁ t₂ t₃)
    (hcodec : codecs.journalFromSlice (codecs.journalToVec journal) = .ok journal)
    (hroot : ∃ root, provider.root = .ok root) :
    cleanupRestore codecs provider.fresh attemptId t₃ = takeBack codecs attemptId journal t₃ := by
  obtain ⟨root, hroot⟩ := hroot
  have hfile := h.get_journal
  have hexists := h.stop_closed.pathExists (p := journalPath codecs attemptId)
    (by rw [Tree.isThere, hfile])
  have hread : readJournal codecs attemptId t₃ = .ok (codecs.journalToVec journal) := by
    rw [readJournal, h.stop_closed.locate_of_get hfile (by simp)]
    dsimp only
    rw [hfile]
  have hload : loadRestoreJournal codecs attemptId t₃ = .ok (some journal) := by
    rw [loadRestoreJournal, if_pos hexists, hread]
    dsimp only
    rw [hcodec]
  have hfresh : provider.fresh.root = .ok root := hroot
  rw [cleanupRestore, hfresh, hload]
  rfl

/-- Let a restore stop anywhere after its journal is durable. The cleanup by a new instance succeeds
and leaves every place as it was before the restore, and no journal, if the stop is undoable. It
does not otherwise, unless a link into the tree was followed. -/
theorem cleanup_exact_iff (hclosed : t₀.Closed)
    (hcodec : codecs.journalFromSlice (codecs.journalToVec journal) = .ok journal)
    (hstops : StopsAt codecs provider attemptId payload t₀ journal t₃) :
    ((∃ t', cleanupRestore codecs provider.fresh attemptId t₃ = .ok t' ∧ t'.get = t₀.get ∧
      t'.get (journalPath codecs attemptId) = none) ∧ ¬ Followed journal t₃) ↔
    Undoable journal t₀ t₃ := by
  constructor
  · rintro ⟨⟨t', hdone, hsame, -⟩, hfollowed⟩
    obtain ⟨entries, t₁, t₂, h⟩ := hstops.stopped hclosed hfollowed
    rw [h.cleanupRestore_eq hcodec hstops.root_eq_ok] at hdone
    refine ⟨hfollowed, fun file hfile hnone hdirectory => ?_, fun p hp => ?_, ?_⟩
    · obtain ⟨ta, -, -, hundone, -⟩ := takeBack_parts hdone
      exact undoFiles_ne_ok h.stop_closed (List.mem_reverse.mpr hfile) hnone hdirectory hundone
    · rw [← takeBack_loose hdone (p := p) (by rwa [hsame]), hsame]
    · rintro ⟨hdirectory, hempty⟩
      have hroot : journal.rootCreated = false := by
        rcases h.root with ⟨hfalse, -⟩ | ⟨-, hnone, -⟩
        · exact hfalse
        · cases (hnone _).symm.trans hdirectory
      have hthere : t₀.get ([] ++ [restoreJournalDir]) ≠ none := by
        rw [List.nil_append, hdirectory]
        simp
      have hchild := takeBack_directory hroot hdone (by rw [hsame, hclosed _ _ hthere])
        (by rw [hsame, hdirectory])
      obtain ⟨name, hname⟩ := Tree.hasChild_iff.mp hchild
      rw [hsame] at hname
      rw [Tree.hasChild_iff.mpr ⟨name, hname⟩] at hempty
      cases hempty
  · intro hundoable
    obtain ⟨entries, t₁, t₂, h⟩ := hstops.stopped hclosed hundoable.unfollowed
    rw [h.cleanupRestore_eq hcodec hstops.root_eq_ok]
    obtain ⟨t', hdone, hsame⟩ := takeBack_exact h hundoable.free hundoable.links fun hdirectory => by
      by_contra hempty
      exact hundoable.directory ⟨hdirectory, by simpa using hempty⟩
    refine ⟨⟨t', hdone, hsame, ?_⟩, hundoable.unfollowed⟩
    rw [hsame]
    have hfree := h.get_journal_before hundoable.links
    rcases h.root with ⟨-, hsame₁⟩ | ⟨-, hnone, -⟩
    · rwa [hsame₁] at hfree
    · exact hnone _

/-! ### A file below another one, and a file behind a link

In one archive the second file is in the way of the directory of the first. In another one the
second file is behind a link to the directory of the first. -/

namespace Demo

/-- The tree that a restore of these entries leaves at its end. -/
def restored (codecs : ArchiveCodecs) (entries : List (String × Bytes)) (t : FileTree) : FileTree :=
  (restore codecs server (.restore 2 9) (codecs.toVec entries) t).2

def besideEntries : List (String × Bytes) := [("a/b", [1]), ("c", [2])]

def besideJournal : RestoreJournal := ⟨[("a/b", none), ("c", some [7])], [["a"]], false⟩

def beside : ArchiveCodecs := archive [besideEntries] [besideJournal]

/-- A file that is there before. -/
def used : FileTree := ⟨[([], .directory), (["c"], .file [7])]⟩

def nestedEntries : List (String × Bytes) := [("a/b", [1]), ("a", [2])]

def nestedJournal : RestoreJournal := ⟨[("a/b", none), ("a", none)], [["a"]], false⟩

def nested : ArchiveCodecs := archive [nestedEntries] [nestedJournal]

def followedEntries : List (String × Bytes) := [("d/y", [1]), ("k/l/z", [2])]

def followedJournal : RestoreJournal :=
  ⟨[("d/y", none), ("k/l/z", none)], [["d"], ["k", "l"]], false⟩

def followed : ArchiveCodecs := archive [followedEntries] [followedJournal]

/-- A directory with the link `../d`, which leads to nothing. -/
def linked : FileTree :=
  ⟨[([], .directory), (["k"], .directory),
    (["k", "l"], .link (.inside [.down "k", .up, .down "d"]))]⟩

theorem closed_used : used.Closed := by
  intro p name hp
  have hname : p ++ [name] = ["c"] := by
    by_contra hne
    refine hp ?_
    rw [Files.Tree.get, used, List.lookup_cons, beq_false_of_ne (by simp), List.lookup_cons,
      beq_false_of_ne hne]
    rfl
  obtain ⟨rfl, -⟩ := List.append_inj' (hname.trans (List.nil_append _).symm) rfl
  rfl

theorem closed_bare : bare.Closed := by
  intro p name hp
  refine absurd ?_ hp
  rw [Files.Tree.get, bare, List.lookup_cons, beq_false_of_ne (by simp)]
  rfl

theorem stopsAt_beside : StopsAt beside server (.restore 2 9) (beside.toVec besideEntries) used
    besideJournal (restored beside besideEntries used) := by
  have hprepare : prepare beside server (beside.toVec besideEntries) used =
      (.ok (besideEntries, besideJournal), used) := by decide +kernel
  have hkeep : keepJournal beside server (.restore 2 9) besideJournal used =
      .ok ⟨[(journalPath beside (.restore 2 9), .file (beside.journalToVec besideJournal)),
        ([restoreJournalDir], .directory), ([], .directory), (["c"], .file [7])]⟩ := by
    decide +kernel
  exact stopsAt_restore hprepare hkeep

theorem stopsAt_nested : StopsAt nested server (.restore 2 9) (nested.toVec nestedEntries) bare
    nestedJournal (restored nested nestedEntries bare) := by
  have hprepare : prepare nested server (nested.toVec nestedEntries) bare =
      (.ok (nestedEntries, nestedJournal), bare) := by decide +kernel
  have hkeep : keepJournal nested server (.restore 2 9) nestedJournal bare =
      .ok ⟨[(journalPath nested (.restore 2 9), .file (nested.journalToVec nestedJournal)),
        ([restoreJournalDir], .directory), ([], .directory)]⟩ := by decide +kernel
  exact stopsAt_restore hprepare hkeep

end Demo

/-- The restore is complete, and is taken back. -/
theorem cleanup_exact_iff_beside :
    (Demo.restored Demo.beside Demo.besideEntries Demo.used).get ["c"] = some (.file [2]) ∧
    (((∃ t', cleanupRestore Demo.beside Demo.server.fresh (.restore 2 9)
        (Demo.restored Demo.beside Demo.besideEntries Demo.used) = .ok t' ∧
        t'.get = Demo.used.get ∧ t'.get (journalPath Demo.beside (.restore 2 9)) = none) ∧
        ¬ Followed Demo.besideJournal (Demo.restored Demo.beside Demo.besideEntries Demo.used)) ↔
      Undoable Demo.besideJournal Demo.used
        (Demo.restored Demo.beside Demo.besideEntries Demo.used)) :=
  ⟨by decide +kernel,
    cleanup_exact_iff Demo.closed_used (by decide +kernel) Demo.stopsAt_beside⟩

/-- Below an empty root, the restore makes a directory in the place of the second file and stops
there. The cleanup fails. -/
theorem nested_not_exact :
    Demo.bare.Closed ∧
    Demo.nested.journalFromSlice (Demo.nested.journalToVec Demo.nestedJournal) =
      .ok Demo.nestedJournal ∧
    StopsAt Demo.nested Demo.server (.restore 2 9) (Demo.nested.toVec Demo.nestedEntries) Demo.bare
      Demo.nestedJournal (Demo.restored Demo.nested Demo.nestedEntries Demo.bare) ∧
    cleanupRestore Demo.nested Demo.server.fresh (.restore 2 9)
        (Demo.restored Demo.nested Demo.nestedEntries Demo.bare) =
      .error (cleanupFailure .isADirectory) :=
  ⟨Demo.closed_bare, by decide +kernel, Demo.stopsAt_nested, by decide +kernel⟩

/-- The plan takes the link to nothing for a missing directory. The first file makes what it leads
to, and the second one is written through it. The cleanup fails where it would remove the link. -/
theorem followed_not_exact :
    (Demo.restored Demo.followed Demo.followedEntries Demo.linked).get ["d", "z"] =
      some (.file [2]) ∧
    (Demo.restored Demo.followed Demo.followedEntries Demo.linked).get ["k", "l"] =
      Demo.linked.get ["k", "l"] ∧
    cleanupRestore Demo.followed Demo.server.fresh (.restore 2 9)
      (Demo.restored Demo.followed Demo.followedEntries Demo.linked) =
        .error (cleanupFailure .notADirectory) := by
  refine ⟨?_, ?_, ?_⟩ <;> decide +kernel

end CheckpointFabric.Filesystem
