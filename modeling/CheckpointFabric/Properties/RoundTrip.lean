import CheckpointFabric.Properties.Plan

/-!
# An archive restored into an empty root

A capture takes the files of several sources under names of one kind: those of a directory are
relative to it, and a backslash becomes a slash. A restore reads the names as paths, and refuses some
of them. So two files can get names that lead to one place, or to places one of which is in the way
of the other, or a name that is refused.

## Main definitions

* `Restorable` — what the names have to be like
* `Listing.Holds` — the regular files below a directory

## Main results

* `mem_walk_iff` — a capture finds every regular file
* `restore_captured_iff` — when an archive can be restored
* `capture_collides` — two sources that get the same name
-/

set_option autoImplicit false

namespace CheckpointFabric.Filesystem

open Files Replica

variable {codecs : ArchiveCodecs} {provider : FilesystemProvider} {attemptId : AttemptId}
  {lossy : OsName → String} {sources : List Source} {name : String} {bytes : Bytes} {p : Path}
  {entries done rest : List (String × Bytes)} {journal : RestoreJournal} {t t' t₁ t₂ : FileTree}

/-- Every file has a name that is accepted and can be that of a file, the places are different, and
none is on the way to another. -/
structure Restorable (entries : List (String × Bytes)) : Prop where
  accepted : ∀ entry ∈ entries, Accepted entry.1
  files : ∀ entry ∈ entries, namesDirectory entry.1 = false
  distinct : (entries.map fun entry => componentsOf entry.1).Nodup
  apart : ∀ entry ∈ entries, ∀ entry' ∈ entries, componentsOf entry.1 <+: componentsOf entry'.1 →
    componentsOf entry.1 = componentsOf entry'.1

/-- There is the root, and nothing else. -/
def Bare (t : FileTree) : Prop := ∀ p, t.get p = if p = [] then some .directory else none

theorem Restorable.perm {entries' : List (String × Bytes)} (hperm : entries.Perm entries') :
    Restorable entries ↔ Restorable entries' := by
  have himp {entries entries' : List (String × Bytes)} (hperm : entries.Perm entries')
      (h : Restorable entries) : Restorable entries' := by
    refine ⟨fun e he => h.accepted e (hperm.mem_iff.mpr he),
      fun e he => h.files e (hperm.mem_iff.mpr he), (hperm.map _).nodup_iff.mp h.distinct, ?_⟩
    exact fun e he e' he' => h.apart e (hperm.mem_iff.mpr he) e' (hperm.mem_iff.mpr he')
  exact ⟨himp hperm, himp hperm.symm⟩

section Walk

/-- A regular file is at this path below the directory. -/
inductive Listing.Holds : Listing → List OsName → Bytes → Prop
  | here {name : OsName} {contents : Bytes} {rest : Listing} :
      Holds (.file name contents rest) [name] contents
  | inside {name : OsName} {contents : Bytes} {children rest : Listing} {path : List OsName} :
      Holds children path contents → Holds (.directory name children rest) (name :: path) contents
  | afterFile {name : OsName} {old contents : Bytes} {rest : Listing} {path : List OsName} :
      Holds rest path contents → Holds (.file name old rest) path contents
  | afterDirectory {name : OsName} {contents : Bytes} {children rest : Listing}
      {path : List OsName} :
      Holds rest path contents → Holds (.directory name children rest) path contents
  | afterOther {name : OsName} {contents : Bytes} {rest : Listing} {path : List OsName} :
      Holds rest path contents → Holds (.other name rest) path contents

variable {listing : Listing} {path : List OsName} {contents : Bytes}

theorem mem_files_iff (dir path : List OsName) :
    (path, contents) ∈ listing.filesHere dir ++ listing.filesBelow dir ↔
      ∃ suffix, path = dir ++ suffix ∧ listing.Holds suffix contents := by
  induction listing generalizing dir with
  | nil =>
    refine ⟨fun h => absurd h List.not_mem_nil, ?_⟩
    rintro ⟨suffix, -, hholds⟩
    cases hholds
  | file name bytes rest ih =>
    rw [Listing.filesHere, Listing.filesBelow, List.cons_append, List.mem_cons, ih]
    constructor
    · rintro (heq | ⟨suffix, rfl, hholds⟩)
      · obtain ⟨rfl, rfl⟩ := Prod.mk.inj heq
        exact ⟨[name], rfl, .here⟩
      · exact ⟨suffix, rfl, .afterFile hholds⟩
    · rintro ⟨suffix, rfl, hholds⟩
      cases hholds with
      | here => exact .inl rfl
      | afterFile hholds => exact .inr ⟨suffix, rfl, hholds⟩
  | directory name children rest ihc ihr =>
    -- The files of the directory come before those of its children and after those beside it.
    have hsplit : (path, contents) ∈ (Listing.directory name children rest).filesHere dir ++
          (Listing.directory name children rest).filesBelow dir ↔
        (path, contents) ∈ rest.filesHere dir ++ rest.filesBelow dir ∨
          (path, contents) ∈ children.filesHere (dir ++ [name]) ++
            children.filesBelow (dir ++ [name]) := by
      rw [Listing.filesHere, Listing.filesBelow, ← List.append_assoc, List.mem_append]
    rw [hsplit, ihr, ihc]
    constructor
    · rintro (⟨suffix, rfl, hholds⟩ | ⟨suffix, rfl, hholds⟩)
      · exact ⟨suffix, rfl, .afterDirectory hholds⟩
      · exact ⟨name :: suffix, by simp, .inside hholds⟩
    · rintro ⟨suffix, rfl, hholds⟩
      cases hholds with
      | inside hholds => exact .inr ⟨_, by simp, hholds⟩
      | afterDirectory hholds => exact .inl ⟨suffix, rfl, hholds⟩
  | other name rest ih =>
    rw [Listing.filesHere, Listing.filesBelow, ih]
    constructor
    · rintro ⟨suffix, rfl, hholds⟩
      exact ⟨suffix, rfl, .afterOther hholds⟩
    · rintro ⟨suffix, rfl, hholds⟩
      cases hholds with
      | afterOther hholds => exact ⟨suffix, rfl, hholds⟩

/-- The walk finds the regular files, and nothing else. -/
theorem mem_walk_iff : (path, contents) ∈ listing.walk ↔ listing.Holds path contents := by
  rw [Listing.walk, mem_files_iff]
  constructor
  · rintro ⟨suffix, rfl, hholds⟩
    exact hholds
  · intro hholds
    exact ⟨path, rfl, hholds⟩

end Walk

section Empty

theorem Bare.closed (h : Bare t) : t.Closed := by
  intro p name hp
  rw [h, if_neg (by simp)] at hp
  exact absurd rfl hp

/-- There are no links. -/
theorem Bare.get_ne_link (h : Bare t) (p : Path) (target : Target) :
    t.get p ≠ some (.link target) := by
  rw [h]
  split <;> simp

/-- Nothing but the root can be found. -/
theorem Bare.locate (h : Bare t) (hp : p ≠ []) {follow : Bool} {place : Path}
    (hlocate : t.locate follow p = .ok place) : t.get place = none := by
  obtain ⟨init, name, rfl⟩ := (List.eq_nil_or_concat p).resolve_left hp
  rw [List.concat_eq_append] at hlocate
  obtain ⟨d, hd, hdirectory, -⟩ := Tree.locate_concat hlocate
  have hdead : t.Dead init := fun q _ =>
    ⟨h.get_ne_link q _, fun way hlink => absurd hlink (h.get_ne_link q _)⟩
  obtain rfl := hdead.located h.closed hd (Tree.isThere_of_directory hdirectory)
  have hown : t.locate follow (d ++ [name]) = .ok (d ++ [name]) := by
    refine Tree.locate_of_directories (fun q hq hne => ?_) fun _ way => h.get_ne_link _ _
    have hq := (List.prefix_concat_iff.mp hq).resolve_left hne
    by_cases heq : q = d
    · rw [heq, hdirectory]
    · exact h.closed.get_prefix (by rw [hdirectory]; simp) hq heq
  obtain rfl := Except.ok.inj (hlocate.symm.trans hown)
  rw [h, if_neg (by simp)]

theorem Bare.pathExists (h : Bare t) (hp : p ≠ []) : t.pathExists p = false := by
  by_contra hexists
  obtain ⟨place, hlocate, hthere⟩ := Tree.pathExists_iff.mp (by simpa using hexists)
  rw [Tree.isThere, h.locate hp hlocate] at hthere
  cases hthere

theorem Bare.thereAs (h : Bare t) (hname : componentsOf name ≠ []) : thereAs t name = false := by
  rw [Filesystem.thereAs]
  split
  · by_contra hdirectory
    have hexists := Tree.pathExists_of_pathIsDir (by simpa using hdirectory)
    rw [h.pathExists hname] at hexists
    cases hexists
  · exact h.pathExists hname

theorem Bare.planAncestors (h : Bare t) (root : String) (cursors createdDirs : List Path)
    (hcursors : ∀ cursor ∈ cursors, cursor ≠ []) :
    ∃ createdDirs', planAncestors root t cursors createdDirs = .ok createdDirs' := by
  induction cursors generalizing createdDirs with
  | nil => exact ⟨createdDirs, rfl⟩
  | cons cursor cursors ih =>
    have hnot := h.pathExists (hcursors cursor (.head _))
    rw [Filesystem.planAncestors, hnot]
    exact ih _ fun c hc => hcursors c (.tail _ hc)

/-- Below an empty root every archive with good names can be planned. -/
theorem Bare.plan (h : Bare t) (root : String) (seen : List Path) (journal : RestoreJournal)
    (haccepted : ∀ entry ∈ entries, Accepted entry.1)
    (hdistinct : (entries.map fun entry => componentsOf entry.1).Nodup)
    (hseen : ∀ entry ∈ entries, componentsOf entry.1 ∉ seen) :
    ∃ journal', plan root t entries seen journal = .ok journal' := by
  induction entries generalizing seen journal with
  | nil => exact ⟨journal, rfl⟩
  | cons entry entries ih =>
    obtain ⟨name, bytes⟩ := entry
    obtain ⟨hnew, hdistinct⟩ := List.nodup_cons.mp hdistinct
    have hname := haccepted _ (.head _)
    obtain ⟨createdDirs, hdirs⟩ := h.planAncestors root (ancestors (componentsOf name))
      journal.createdDirs fun cursor hcursor => (mem_ancestors.mp hcursor).2
    have hprevious : previousOf root t name = .ok none := by
      rw [previousOf, h.thereAs hname.componentsOf_ne_nil]
      rfl
    have hseen' (entry : String × Bytes) (hentry : entry ∈ entries) :
        componentsOf entry.1 ∉ componentsOf name :: seen := by
      rw [List.mem_cons, not_or]
      refine ⟨fun heq => hnew ?_, hseen entry (.tail _ hentry)⟩
      exact List.mem_map.mpr ⟨entry, hentry, heq⟩
    obtain ⟨journal', hrest⟩ := ih (componentsOf name :: seen)
      { journal with files := journal.files ++ [(name, none)], createdDirs := createdDirs }
      (fun entry hentry => haccepted entry (.tail _ hentry)) hdistinct hseen'
    refine ⟨journal', bind_eq_ok.mpr ⟨_, checkedRestoreRelative_of_accepted hname, ?_⟩⟩
    rw [if_neg (hseen _ (.head _))]
    exact bind_eq_ok.mpr ⟨_, hdirs, bind_eq_ok.mpr ⟨_, hprevious, hrest⟩⟩

/-- The journal can be made durable there. -/
theorem Bare.persist (h : Bare t) (codecs : ArchiveCodecs) (root : String) (attemptId : AttemptId)
    (journal : RestoreJournal) :
    ∃ t', persistRestoreJournal codecs root attemptId t journal = .ok t' := by
  obtain ⟨t₁, hmade, hget⟩ := Tree.exists_pathCreateDirAll (p := [restoreJournalDir]) h.closed
    fun q _ => by
      rw [h]
      split
      · exact .inr rfl
      · exact .inl rfl
  have hopened : openJournalDir root t = .ok t₁ := by
    rw [openJournalDir, h.pathExists (by simp), hmade]
    rfl
  have hnone : t₁.get (journalPath codecs attemptId) = none := by
    rw [hget, if_neg, h, if_neg (by simp [journalPath])]
    exact fun hpart => by simpa [journalPath] using hpart.length_le
  have hdirectory : t₁.get [restoreJournalDir] = some .directory := by
    rw [hget, if_pos (List.prefix_refl _)]
  have hfree : t₁.pathExists (journalPath codecs attemptId) = false := by
    have hlocate : t₁.locate true (journalPath codecs attemptId) =
        .ok (journalPath codecs attemptId) := by
      refine Tree.locate_of_directories (fun q hq hne => ?_) fun _ way => by rw [hnone]; simp
      have hq : q <+: [restoreJournalDir] := prefix_dropLast hq hne
      rw [hget, if_pos hq]
    rw [Tree.pathExists, hlocate]
    dsimp only
    rw [Tree.isThere, hnone]
  refine ⟨t₁.put (journalPath codecs attemptId) (.file (codecs.journalToVec journal)),
    bind_eq_ok.mpr ⟨t₁, hopened, ?_⟩⟩
  rw [hfree]
  rfl

/-- What a prepared restore starts to write on. -/
theorem Bare.prepare (h : Bare t) (hroot : provider.restoreRoot ≠ none) {payload : Bytes}
    (hpayload : codecs.fromSlice payload = .ok entries)
    (haccepted : ∀ entry ∈ entries, Accepted entry.1)
    (hdistinct : (entries.map fun entry => componentsOf entry.1).Nodup) :
    ∃ journal, prepare codecs provider payload t = (.ok (entries, journal), t) := by
  obtain ⟨root, hroot⟩ := Option.ne_none_iff_exists'.mp hroot
  have hopen : openRoot root t = .ok (false, t) := by
    have htop := h []
    rw [if_pos rfl] at htop
    rw [openRoot, Tree.isThere, htop]
    rfl
  obtain ⟨journal, hplan⟩ := h.plan root [] ⟨[], [], false⟩ haccepted hdistinct
    fun _ _ => List.not_mem_nil
  refine ⟨journal, ?_⟩
  rw [Filesystem.prepare, hpayload, FilesystemProvider.root, hroot]
  dsimp only
  rw [hopen]
  dsimp only
  rw [hplan]

end Empty

section Writing

/-- Writing has come so far: the places of the files that are done hold them, everything else has
changed as far as these files have made it. -/
structure Writing (t₂ : FileTree) (done : List (String × Bytes)) (t : FileTree) : Prop where
  closed : t.Closed
  change : ∀ p, Change done p (t₂.get p) (t.get p)
  holds : ∀ entry ∈ done, t.get (componentsOf entry.1) = some (.file entry.2)

theorem Change.mono {before after : Option (Node UInt8)} (h : Change done p before after)
    (hsub : done ⊆ entries) : Change entries p before after := by
  cases h with
  | same => exact .same
  | written hmem hname heq hbefore => exact .written (hsub hmem) hname heq hbefore
  | made hmem hp hbefore => exact .made (hsub hmem) hp hbefore
  | followed hbefore => exact .followed hbefore

theorem Change.get_ne_link {before after : Option (Node UInt8)} (h : Change entries p before after)
    (hbefore : ∀ target, before ≠ some (.link target)) (target : Target) :
    after ≠ some (.link target) := by
  cases h with
  | same => exact hbefore target
  | written => simp
  | made => simp
  | followed hlink => exact absurd hlink (hbefore _)

/-- The journal brings no link into an empty root. -/
theorem Kept.get_ne_link (h : Kept codecs attemptId journal t₁ t₂) (hbare : Bare t₁) (p : Path)
    (target : Target) : t₂.get p ≠ some (.link target) := by
  by_cases hjournal : p = journalPath codecs attemptId
  · rw [hjournal, h.get_journal]
    simp
  · by_cases hdirectory : p = [restoreJournalDir]
    · rw [hdirectory, h.get_directory]
      simp
    · rw [h.get_other p hjournal hdirectory]
      exact hbare.get_ne_link p target

theorem plain_of_unlinked (h : ∀ p target, t.get p ≠ some (.link target)) : Plain t name :=
  ⟨fun q _ => ⟨h q _, fun _ hlink => absurd hlink (h q _)⟩, h _ _,
    fun _ hlink => absurd hlink (h _ _)⟩

/-- The next file can be written, with the directories that it is in. -/
theorem Writing.next {entry : String × Bytes} (hw : Writing t₂ done t)
    (hkept : Kept codecs attemptId journal t₁ t₂) (hbare : Bare t₁)
    (hgood : Restorable (done ++ entry :: rest)) :
    ∃ tm t', t.pathCreateDirAll (componentsOf entry.1).dropLast = .ok tm ∧
      writeAs tm entry.1 entry.2 = .ok t' ∧ Writing t₂ (done ++ [entry]) t' := by
  obtain ⟨name, bytes⟩ := entry
  have hmem : (name, bytes) ∈ done ++ (name, bytes) :: rest := List.mem_append_right _ (.head _)
  have hdone {e : String × Bytes} (he : e ∈ done) : e ∈ done ++ (name, bytes) :: rest :=
    List.mem_append_left _ he
  have hname : Accepted name := hgood.accepted _ hmem
  have hlength : (componentsOf name).dropLast.length < (componentsOf name).length := by
    have hpos := List.length_pos_iff.mpr hname.componentsOf_ne_nil
    rw [List.length_dropLast]
    omega
  have hne {e : String × Bytes} (he : e ∈ done) : componentsOf e.1 ≠ componentsOf name := by
    intro heq
    have hdistinct := hgood.distinct
    rw [List.map_append, List.map_cons] at hdistinct
    exact (List.nodup_append.mp hdistinct).2.2 _ (List.mem_map_of_mem he) _ (.head _) heq
  -- Outside of the journal directory there was nothing but the root.
  have hbefore {q : Path} (hq : q <+: componentsOf name) (hnil : q ≠ []) : t₂.get q = none := by
    have hinside (rest : Path) : q ≠ restoreJournalDir :: rest :=
      fun heq => hname.not_below rest (heq ▸ hq)
    rw [hkept.get_other q (hinside _) (hinside _), hbare, if_neg hnil]
  have hway (q : Path) (hq : q <+: (componentsOf name).dropLast) :
      t.get q = none ∨ t.get q = some .directory := by
    by_cases hnil : q = []
    · have hchange := hw.change []
      rw [hkept.root] at hchange
      rw [hnil]
      generalize t.get [] = after at hchange
      cases hchange with
      | same => exact .inr rfl
      | written _ _ _ hfree => rcases hfree with hfree | ⟨_, hfree⟩ <;> cases hfree
      | made _ _ hfree => cases hfree
      | followed hfree => cases hfree
    · have hpart := hq.trans (List.dropLast_prefix _)
      have hchange := hw.change q
      rw [hbefore hpart hnil] at hchange
      generalize t.get q = after at hchange
      cases hchange with
      | same => exact .inl rfl
      | written hmem' _ heq _ =>
        have hsame := hgood.apart _ (hdone hmem') _ hmem (heq ▸ hpart)
        exact absurd hsame (hne hmem')
      | made => exact .inr rfl
      | followed hlink => cases hlink
  obtain ⟨tm, hmade, hget⟩ := Tree.exists_pathCreateDirAll hw.closed hway
  have hself : ¬ componentsOf name <+: (componentsOf name).dropLast :=
    fun hpart => absurd hpart.length_le (by omega)
  have hnone : t.get (componentsOf name) = none := by
    have hchange := hw.change (componentsOf name)
    rw [hbefore (List.prefix_refl _) hname.componentsOf_ne_nil] at hchange
    generalize t.get (componentsOf name) = after at hchange
    cases hchange with
    | same => rfl
    | written hmem' _ heq _ => exact absurd heq.symm (hne hmem')
    | made hmem' hp _ =>
      have hsame := hgood.apart _ hmem _ (hdone hmem') (hp.trans (List.dropLast_prefix _))
      exact absurd hsame.symm (hne hmem')
    | followed hlink => cases hlink
  have hnone' : tm.get (componentsOf name) = none := by rw [hget, if_neg hself, hnone]
  have hlocate : tm.locate true (componentsOf name) = .ok (componentsOf name) := by
    refine Tree.locate_of_directories (fun q hq hne => ?_) fun _ way => by rw [hnone']; simp
    rw [hget, if_pos (prefix_dropLast hq hne)]
  have hwritten : writeAs tm name bytes = .ok (tm.put (componentsOf name) (.file bytes)) := by
    have hparent : tm.isRealDirectory (componentsOf name).dropLast = true :=
      Tree.isRealDirectory_iff.mpr (by rw [hget, if_pos (List.prefix_refl _)])
    rw [writeAs, if_neg (by simp [hgood.files _ hmem]), Tree.pathWrite, hlocate]
    dsimp only
    rw [Tree.write, hnone']
    dsimp only
    rw [if_pos ⟨hname.componentsOf_ne_nil, hparent⟩]
  refine ⟨tm, _, hmade, hwritten, ?_, ?_, ?_⟩
  · exact closed_writeAs (hw.closed.pathCreateDirAll hmade) hwritten
  · have hlast : (name, bytes) ∈ done ++ [(name, bytes)] := List.mem_append_right _ (.head _)
    -- No link was there, and none is made.
    have hplain : Plain tm name := by
      refine plain_of_unlinked fun q target hlink => ?_
      rw [hget] at hlink
      split at hlink
      · cases hlink
      · exact (hw.change q).get_ne_link (hkept.get_ne_link hbare q) target hlink
    have hplain' : Plain (tm.put (componentsOf name) (.file bytes)) name := by
      refine plain_of_unlinked fun q target hlink => ?_
      rw [Tree.get_put, hget] at hlink
      split at hlink
      · cases hlink
      · split at hlink
        · cases hlink
        · exact (hw.change q).get_ne_link (hkept.get_ne_link hbare q) target hlink
    exact change_writeAs hlast (hw.closed.pathCreateDirAll hmade) hwritten hplain'
      (change_createDirAll hlast (List.prefix_refl _) hw.closed hmade hplain
        fun q => (hw.change q).mono (List.subset_append_left _ _))
  · intro e he
    rcases List.mem_append.mp he with he | he
    · rw [Tree.get_put_of_ne (hne he), hget, if_neg fun hpart => ?_, hw.holds e he]
      rcases hway _ hpart with hfree | hfree <;> cases (hw.holds e he).symm.trans hfree
    · obtain rfl := List.mem_singleton.mp he
      exact Tree.get_put_self

/-- All the files are written. -/
theorem Writing.all (hw : Writing t₂ done t) (hkept : Kept codecs attemptId journal t₁ t₂)
    (hbare : Bare t₁) (hgood : Restorable (done ++ rest)) :
    ∃ t', writeEntries rest t = (.ok (), t') ∧ Writing t₂ (done ++ rest) t' := by
  induction rest generalizing done t with
  | nil => exact ⟨t, rfl, by rwa [List.append_nil]⟩
  | cons entry rest ih =>
    obtain ⟨tm, tw, hmade, hwritten, hnext⟩ := hw.next hkept hbare hgood
    obtain ⟨name, bytes⟩ := entry
    rw [List.append_cons] at hgood ⊢
    obtain ⟨t', hrest, hall⟩ := ih hnext hgood
    refine ⟨t', ?_, hall⟩
    rw [writeEntries, hmade]
    dsimp only
    rw [hwritten]
    exact hrest

/-- Only names that can be that of a file are written. -/
theorem writeEntries_files (h : writeEntries entries t = (.ok (), t')) :
    ∀ entry ∈ entries, namesDirectory entry.1 = false := by
  induction entries generalizing t with
  | nil => exact fun entry hentry => absurd hentry List.not_mem_nil
  | cons entry entries ih =>
    obtain ⟨name, bytes⟩ := entry
    rw [writeEntries] at h
    split at h
    · cases h
    · rename_i tm hmade
      split at h
      · cases h
      · rename_i tw hwritten
        intro entry hentry
        rcases List.mem_cons.mp hentry with rfl | hentry
        · by_contra hdirectory
          rw [writeAs, if_pos (by simpa using hdirectory)] at hwritten
          cases hwritten
        · exact ih h entry hentry

end Writing

section RoundTrip

/-- Good names are restored. -/
theorem Restorable.restored (hgood : Restorable entries) (hbare : Bare t)
    (hroot : provider.restoreRoot ≠ none) (hnew : provider.restoreJournals.lookup attemptId = none)
    {payload : Bytes} (hpayload : codecs.fromSlice payload = .ok entries) :
    ∃ t', restore codecs provider attemptId payload t = (.ok (), t') ∧
      ∀ entry ∈ entries, t'.get (componentsOf entry.1) = some (.file entry.2) := by
  obtain ⟨journal, hprepare⟩ := hbare.prepare hroot hpayload hgood.accepted hgood.distinct
  obtain ⟨t₂, hpersist⟩ := hbare.persist codecs (provider.restoreRoot.getD "") attemptId journal
  have hkeep : keepJournal codecs provider attemptId journal t = .ok t₂ := by
    rw [keepJournal, hnew]
    exact hpersist
  have hkept := kept_of_persist hbare.closed (by rw [hbare, if_pos rfl]; simp)
    (hbare.get_ne_link []) hpersist
  have hstart : Writing t₂ [] t₂ :=
    ⟨hkept.closed, fun p => .same, fun entry hentry => absurd hentry List.not_mem_nil⟩
  obtain ⟨t', hwritten, hall⟩ : ∃ t', writeEntries entries t₂ = (.ok (), t') ∧
      Writing t₂ ([] ++ entries) t' := hstart.all hkept hbare hgood
  refine ⟨t', ?_, hall.holds⟩
  rw [restore, hprepare]
  dsimp only
  rw [hkeep]
  exact hwritten

theorem fromSlice_of_prepare {payload : Bytes}
    (h : prepare codecs provider payload t = (.ok (entries, journal), t')) :
    codecs.fromSlice payload = .ok entries := by
  unfold prepare at h
  split at h
  · cases h
  · rename_i entries' hentries
    split at h
    · cases h
    · split at h
      · cases h
      · split at h
        · cases h
        · cases h
          exact hentries

/-- The root is there already. -/
theorem Bare.eq_of_prepare (h : Bare t) {payload : Bytes}
    (hprepare : Filesystem.prepare codecs provider payload t = (.ok (entries, journal), t')) :
    t' = t := by
  unfold Filesystem.prepare at hprepare
  split at hprepare
  · cases hprepare
  · split at hprepare
    · cases hprepare
    · split at hprepare
      · cases hprepare
      · rename_i hopen
        split at hprepare
        · cases hprepare
        · cases hprepare
          rcases openRoot_eq_ok hopen with ⟨-, hsame, -⟩ | ⟨-, hnone, -⟩
          · exact hsame
          · rw [h, if_pos rfl] at hnone
            cases hnone

/-- What was restored into an empty root had good names. -/
theorem restorable_of_restored {payload : Bytes} (hbare : Bare t)
    (hpayload : codecs.fromSlice payload = .ok entries)
    (h : restore codecs provider attemptId payload t = (.ok (), t'))
    (hholds : ∀ entry ∈ entries, t'.get (componentsOf entry.1) = some (.file entry.2)) :
    Restorable entries := by
  rw [restore] at h
  split at h
  · cases h
  · rename_i entries' journal t₁ hprepare
    obtain rfl := Except.ok.inj ((fromSlice_of_prepare hprepare).symm.trans hpayload)
    split at h
    · cases h
    · rename_i t₂ hkeep
      have hstops : Stops t₂ entries' t' := by
        have hend : Stops t₂ entries' (writeEntries entries' t₂).2 := stops_writeEntries
        rwa [h] at hend
      have hkept : Kept codecs attemptId journal t₁ t₂ := by
        have hsame := hbare.eq_of_prepare hprepare
        subst hsame
        rw [keepJournal] at hkeep
        split at hkeep
        · cases hkeep
        · exact kept_of_persist hbare.closed (by rw [hbare, if_pos rfl]; simp)
            (hbare.get_ne_link []) hkeep
      have hunlinked (p : Path) (way : List Step) : t'.get p ≠ some (.link (.inside way)) := by
        intro hlink
        have hsame := hbare.eq_of_prepare hprepare
        subst hsame
        exact hkept.get_ne_link hbare p _ (hstops.grows.link p _ hlink (by simp))
      have hfollowed : ¬ Followed journal t' := by
        rintro ⟨file, -, ⟨p, way, -, hlink, -⟩ | ⟨way, hlink, -⟩⟩
        · exact hunlinked p way hlink
        · exact hunlinked _ way hlink
      have hstopped := stopped_of_stops hbare.closed hprepare hkeep hstops hfollowed
      refine ⟨hstopped.planned.accepted, writeEntries_files h, hstopped.planned.distinct, ?_⟩
      intro entry hentry entry' hentry' hpart
      by_contra hne
      -- What is on the way to a file is a directory.
      have hthere : t'.get (componentsOf entry'.1) ≠ none := by
        rw [hholds entry' hentry']
        simp
      have hdirectory := hstopped.stop_closed.get_prefix hthere hpart hne
      cases (hholds entry hentry).symm.trans hdirectory

/-- A capture of sources is restored into an empty root, each file under its name and no two in one
place, iff the names are restorable. -/
theorem restore_captured_iff
    (hcodec : codecs.fromSlice (capture lossy codecs sources) = .ok (captureEntries lossy sources))
    (hroot : provider.restoreRoot ≠ none) (hnew : provider.restoreJournals.lookup attemptId = none)
    (hbare : Bare t) :
    (∃ t', restore codecs provider attemptId (capture lossy codecs sources) t = (.ok (), t') ∧
      (∀ entry ∈ captureEntries lossy sources,
        t'.get (componentsOf entry.1) = some (.file entry.2)) ∧
      ((captureEntries lossy sources).map fun entry => componentsOf entry.1).Nodup) ↔
    Restorable (sources.flatMap (Source.entries lossy)) := by
  have hperm : (captureEntries lossy sources).Perm (sources.flatMap (Source.entries lossy)) :=
    List.perm_insertionSort _ _
  rw [← Restorable.perm hperm]
  constructor
  · rintro ⟨t', hrestored, hholds, -⟩
    exact restorable_of_restored hbare hcodec hrestored hholds
  · intro hgood
    obtain ⟨t', hrestored, hholds⟩ := hgood.restored hbare hroot hnew hcodec
    exact ⟨t', hrestored, hholds, hgood.distinct⟩

end RoundTrip

/-! ### Two files of one name

They are in different directories, and each is a source. -/

namespace Demo

def ascii (name : OsName) : String := String.ofList (name.map fun b => Char.ofNat b.toNat)

/-- A directory with a file `b`, and a file `e` in its directory `d`. -/
def home : List Source :=
  [.directory (.directory [100] (.file [101] [2] .nil) (.file [98] [1] .nil))]

def homeCodecs : ArchiveCodecs := archive [[("b", [1]), ("d/e", [2])]] []

def homonyms : List Source := [.file [97] [1], .file [97] [2]]

def homonymCodecs : ArchiveCodecs := archive [[("a", [1]), ("a", [2])]] []

theorem bare_bare : Bare bare := by
  intro p
  rw [Files.Tree.get, bare, List.lookup_cons]
  by_cases hp : p = []
  · rw [if_pos hp, hp]
    rfl
  · rw [if_neg hp, beq_false_of_ne hp]
    rfl

end Demo

theorem restore_captured_iff_home :
    captureEntries Demo.ascii Demo.home = [("b", [1]), ("d/e", [2])] ∧
    ((∃ t', restore Demo.homeCodecs Demo.server (.restore 2 9)
        (capture Demo.ascii Demo.homeCodecs Demo.home) Demo.bare = (.ok (), t') ∧
      (∀ entry ∈ captureEntries Demo.ascii Demo.home,
        t'.get (componentsOf entry.1) = some (.file entry.2)) ∧
      ((captureEntries Demo.ascii Demo.home).map fun entry => componentsOf entry.1).Nodup) ↔
    Restorable (Demo.home.flatMap (Source.entries Demo.ascii))) :=
  ⟨by decide +kernel,
    restore_captured_iff (by decide +kernel) (by simp [Demo.server]) rfl Demo.bare_bare⟩

/-- Both files are captured as `a`, and the restore into an empty root is refused. -/
theorem capture_collides :
    Bare Demo.bare ∧
    Demo.homonymCodecs.fromSlice (capture Demo.ascii Demo.homonymCodecs Demo.homonyms) =
      .ok (captureEntries Demo.ascii Demo.homonyms) ∧
    captureEntries Demo.ascii Demo.homonyms = [("a", [1]), ("a", [2])] ∧
    (restore Demo.homonymCodecs Demo.server (.restore 2 9)
      (capture Demo.ascii Demo.homonymCodecs Demo.homonyms) Demo.bare).1 =
        .error (.restoreFailure "duplicate filesystem restore destination /srv/a") :=
  ⟨Demo.bare_bare, by decide +kernel, by decide +kernel, by decide +kernel⟩

end CheckpointFabric.Filesystem
