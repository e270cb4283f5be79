import CheckpointFabric.Properties.Archive

/-!
# The plan of a restore and the points where it stops

A journal records each entry of the payload with what its file was before, and every directory that
is missing on the way to one. A link that leads nowhere counts as missing. As long as none of those
into the tree has come to lead to something, a place changes until the restore stops only if a file
is written there, a missing directory is made, or a link to nothing outside is written through.

## Main definitions

* `Recorded` — what the journal says about a file
* `Planned` — what the journal says about a payload
* `Followed` — a link into the tree has come to lead to something
* `Change` — what may have happened to a place when the restore stops
* `StopsAt` — a restore that has made its journal durable and stops

## Main results

* `planned_of_plan` — what a plan records
* `Stops.change` — what a restore has done when it stops
* `stopped_of_stops` — both, for a restore that starts with a closed tree
-/

set_option autoImplicit false

namespace CheckpointFabric.Filesystem

open Files Replica

variable {codecs : ArchiveCodecs} {provider : FilesystemProvider} {attemptId : AttemptId}
  {payload bytes : Bytes} {t t₁ t₂ t' : FileTree} {root name : String} {p path : Path}
  {entries rest : List (String × Bytes)} {journal journal' : RestoreJournal}

theorem bind_eq_ok {ε α β : Type} {x : Except ε α} {f : α → Except ε β} {b : β} :
    (x >>= f) = .ok b ↔ ∃ a, x = .ok a ∧ f a = .ok b := by
  constructor
  · intro h
    cases x with
    | error e => cases h
    | ok a => exact ⟨a, rfl, h⟩
  · rintro ⟨a, rfl, h⟩
    exact h

theorem mapError_eq_ok {ε ε' α : Type} {x : Except ε α} {f : ε → ε'} {a : α} :
    x.mapError f = .ok a ↔ x = .ok a := by
  cases x <;> simp [Except.mapError]

section Names

theorem checkedRestoreRelative_eq_ok (h : checkedRestoreRelative name = .ok path) :
    Accepted name ∧ path = componentsOf name := by
  rw [checkedRestoreRelative] at h
  split at h
  · rename_i haccepted
    exact ⟨haccepted, (Except.ok.inj h).symm⟩
  · cases h

theorem checkedRestoreRelative_of_accepted (h : Accepted name) :
    checkedRestoreRelative name = .ok (componentsOf name) := if_pos h

/-- An accepted name leads somewhere. -/
theorem Accepted.componentsOf_ne_nil (h : Accepted name) : componentsOf name ≠ [] := by
  obtain ⟨hempty, hdot, -, -⟩ := h
  unfold componentsOf
  cases hsegments : segments name with
  | nil =>
    have hne : (name.toList.splitOn '/') ≠ [] := List.splitOn_ne_nil _ _
    exact absurd (List.map_eq_nil_iff.mp hsegments) hne
  | cons s rest =>
    rw [hsegments] at hempty hdot
    have hs : s ≠ "" ∧ s ≠ "." :=
      ⟨fun heq => hempty (by rw [heq]; rfl), fun heq => hdot (by rw [heq]; rfl)⟩
    rw [List.filter_cons_of_pos (by simpa using hs)]
    exact List.cons_ne_nil _ _

/-- Nothing on the way to an accepted name is in the journal directory. -/
theorem Accepted.not_below (h : Accepted name) (rest : Path) :
    ¬ restoreJournalDir :: rest <+: componentsOf name := by
  rintro ⟨suffix, heq⟩
  refine h.2.2.2 ?_
  rw [← heq]
  rfl

theorem mem_ancestors : p ∈ ancestors path ↔ p <+: path.dropLast ∧ p ≠ [] := by
  rcases List.eq_nil_or_concat path with rfl | ⟨init, last, rfl⟩
  · refine ⟨fun h => by simp [ancestors] at h, fun ⟨h, hne⟩ => ?_⟩
    exact absurd (List.prefix_nil.mp h) hne
  · have hancestors : ancestors (init ++ [last]) = init.inits.tail := by
      rw [ancestors, List.inits_append]
      cases init with
      | nil => rfl
      | cons a init => simp
    rw [List.concat_eq_append, hancestors, List.dropLast_concat, ← List.mem_inits]
    cases init with
    | nil => simp
    | cons a init =>
      rw [List.inits_cons, List.tail_cons, List.mem_cons]
      constructor
      · intro hmem
        obtain ⟨q, -, rfl⟩ := List.mem_map.mp hmem
        exact ⟨.inr hmem, List.cons_ne_nil _ _⟩
      · rintro ⟨hnil | hmem, hne⟩
        · exact absurd hnil hne
        · exact hmem

end Names

section Plan

/-- Something is in the place of a name itself. -/
def hereAs (t : FileTree) (name : String) : Bool :=
  if namesDirectory name then t.isDirectory (componentsOf name) else t.isThere (componentsOf name)

/-- It is found there. -/
theorem thereAs_of_hereAs (hclosed : t.Closed) (h : hereAs t name = true) :
    thereAs t name = true := by
  rw [hereAs] at h
  rw [thereAs]
  split
  · rename_i hname
    rw [if_pos hname] at h
    exact hclosed.pathIsDir h
  · rename_i hname
    rw [if_neg hname] at h
    exact hclosed.pathExists h

/-- What the journal says about a file: it is a regular one with these contents, or there is
nothing. -/
def Recorded (t : FileTree) (name : String) : Option Bytes → Prop
  | some bytes => namesDirectory name = false ∧ t.get (componentsOf name) = some (.file bytes)
  | none => hereAs t name = false

/-- The directories that were recorded are the missing ones. -/
theorem mem_planAncestors {cursors createdDirs createdDirs' : List Path}
    (h : planAncestors root t cursors createdDirs = .ok createdDirs') :
    p ∈ createdDirs' ↔ p ∈ createdDirs ∨ (p ∈ cursors ∧ t.pathExists p = false) := by
  induction cursors generalizing createdDirs with
  | nil =>
    obtain rfl := Except.ok.inj h
    simp
  | cons cursor cursors ih =>
    rw [planAncestors] at h
    split at h
    · rename_i hthere
      split at h
      · rw [ih h]
        constructor
        · rintro (hold | ⟨hmem, hnot⟩)
          · exact .inl hold
          · exact .inr ⟨.tail _ hmem, hnot⟩
        · rintro (hold | ⟨hmem, hnot⟩)
          · exact .inl hold
          · rcases List.mem_cons.mp hmem with rfl | hmem
            · rw [hthere] at hnot
              cases hnot
            · exact .inr ⟨hmem, hnot⟩
      · cases h
    · rename_i hmissing
      rw [ih h]
      -- A missing directory is recorded once, however many entries lie below it.
      have hcursor : p ∈ (if cursor ∈ createdDirs then createdDirs else createdDirs ++ [cursor]) ↔
          p ∈ createdDirs ∨ p = cursor := by
        split
        · rename_i hmem
          exact ⟨.inl, fun hcase => hcase.elim id fun heq => heq ▸ hmem⟩
        · simp
      rw [hcursor]
      constructor
      · rintro ((hold | rfl) | ⟨hmem, hnot⟩)
        · exact .inl hold
        · exact .inr ⟨.head _, Bool.eq_false_iff.mpr hmissing⟩
        · exact .inr ⟨.tail _ hmem, hnot⟩
      · rintro (hold | ⟨hmem, hnot⟩)
        · exact .inl (.inl hold)
        · rcases List.mem_cons.mp hmem with rfl | hmem
          · exact .inl (.inr rfl)
          · exact .inr ⟨hmem, hnot⟩

/-- The others are directories, and no links to them. -/
theorem pathGet_of_planAncestors {cursors createdDirs createdDirs' : List Path}
    (h : planAncestors root t cursors createdDirs = .ok createdDirs') :
    ∀ p ∈ cursors, t.pathExists p = true → t.pathGet p = some .directory := by
  induction cursors generalizing createdDirs with
  | nil => exact fun p hp => absurd hp List.not_mem_nil
  | cons cursor cursors ih =>
    rw [planAncestors] at h
    intro p hp hexists
    split at h
    · split at h
      · rename_i hdirectory
        rcases List.mem_cons.mp hp with rfl | hp
        · exact hdirectory
        · exact ih h p hp hexists
      · cases h
    · rename_i hmissing
      rcases List.mem_cons.mp hp with rfl | hp
      · exact absurd hexists hmissing
      · exact ih h p hp hexists

/-- What a path leads to is below directories, if the plan has found no link on its way. -/
theorem directories_of_exists {rest : Path} (hclosed : t.Closed)
    (hroot : ∀ target, t.get [] ≠ some (.link target))
    (hway : ∀ q, q <+: p → q ≠ [] → t.pathExists q = true → t.pathGet q = some .directory)
    (hne : rest ≠ []) (hexists : t.pathExists (p ++ rest) = true) : t.get p = some .directory := by
  obtain ⟨place, hlocate, -⟩ := Tree.pathExists_iff.mp hexists
  obtain ⟨d, hd, hdirectory⟩ := Tree.locate_append hne hlocate
  have hhere : t.pathExists p = true :=
    Tree.pathExists_iff.mpr ⟨d, hd, Tree.isThere_of_directory hdirectory⟩
  induction p using List.reverseRecOn generalizing d rest place with
  | nil =>
    have hown : t.locate true [] = .ok [] := Tree.locate_of_directories
      (fun q hq hne => absurd (List.prefix_nil.mp hq) hne) fun _ way => hroot (.inside way)
    obtain rfl := Except.ok.inj (hd.symm.trans hown)
    exact hdirectory
  | append_singleton p name ih =>
    obtain ⟨d', hd', hdirectory', -⟩ := Tree.locate_concat hd
    have hp : t.get p = some .directory := by
      refine ih (fun q hq => hway q (hq.trans (List.prefix_append _ _))) (List.cons_ne_nil name [])
        hhere d hd d' hd' hdirectory' ?_
      exact Tree.pathExists_iff.mpr ⟨d', hd', Tree.isThere_of_directory hdirectory'⟩
    -- The place itself is in a directory, so the plan has looked at it.
    have hown : t.locate false (p ++ [name]) = .ok (p ++ [name]) := by
      refine Tree.locate_of_directories (fun q hq hne => ?_) fun hfalse => by simp at hfalse
      have hq := (List.prefix_concat_iff.mp hq).resolve_left hne
      by_cases heq : q = p
      · rw [heq, hp]
      · exact hclosed.get_prefix (by rw [hp]; simp) hq heq
    have hget := hway _ (List.prefix_refl _) (by simp) hhere
    rwa [Tree.pathGet, hown] at hget

/-- The journal says of a file what is in its place. -/
theorem recorded_of_previousOf {previous : Option Bytes} (hclosed : t.Closed)
    (hroot : ∀ target, t.get [] ≠ some (.link target))
    (hway : ∀ q ∈ ancestors (componentsOf name), t.pathExists q = true →
      t.pathGet q = some .directory) (hname : componentsOf name ≠ [])
    (h : previousOf root t name = .ok previous) : Recorded t name previous := by
  rw [previousOf] at h
  split at h
  · rename_i hthere
    split at h
    · rename_i bytes hfile
      obtain rfl := Except.ok.inj h
      have hexists : t.pathExists (componentsOf name) = true := by
        rw [thereAs] at hthere
        split at hthere
        · exact Tree.pathExists_of_pathIsDir hthere
        · exact hthere
      obtain ⟨init, last, hsplit⟩ := (List.eq_nil_or_concat (componentsOf name)).resolve_left hname
      rw [List.concat_eq_append] at hsplit
      have hparent : t.get init = some .directory := by
        refine directories_of_exists hclosed hroot (fun q hq hne => hway q ?_)
          (List.cons_ne_nil last []) (hsplit ▸ hexists)
        rw [mem_ancestors, hsplit, List.dropLast_concat]
        exact ⟨hq, hne⟩
      have hown (follow : Bool) (hplain : follow = true → ∀ way,
          t.get (componentsOf name) ≠ some (.link (.inside way))) :
          t.locate follow (componentsOf name) = .ok (componentsOf name) := by
        refine Tree.locate_of_directories (fun q hq hne => ?_) hplain
        rw [hsplit] at hq hne
        have hq := (List.prefix_concat_iff.mp hq).resolve_left hne
        by_cases heq : q = init
        · rw [heq, hparent]
        · exact hclosed.get_prefix (by rw [hparent]; simp) hq heq
      rw [Tree.pathGet, hown false fun hfalse => by simp at hfalse] at hfile
      have hfile : t.get (componentsOf name) = some (.file bytes) := hfile
      refine ⟨?_, hfile⟩
      by_contra hdirectory
      rw [thereAs, if_pos (by simpa using hdirectory)] at hthere
      obtain ⟨place, hlocate, hdir⟩ := Tree.pathIsDir_iff.mp hthere
      rw [hown true fun _ way => by rw [hfile]; simp] at hlocate
      obtain rfl := Except.ok.inj hlocate
      rcases Tree.isDirectory_iff.mp hdir with hnode | hnode <;> cases hfile.symm.trans hnode
    · cases h
  · rename_i hnot
    obtain rfl := Except.ok.inj h
    exact Bool.eq_false_iff.mpr fun hhere => hnot (thereAs_of_hereAs hclosed hhere)

/-- No link to a directory outside is on the way to a file that could be planned, or in its place.
-/
theorem outside_of_plan {previous : Option Bytes} (hclosed : t.Closed)
    (hroot : ∀ target, t.get [] ≠ some (.link target))
    (hway : ∀ q ∈ ancestors (componentsOf name), t.pathExists q = true →
      t.pathGet q = some .directory) (h : previousOf root t name = .ok previous)
    (hp : p <+: componentsOf name) : t.get p ≠ some (.link .directory) := by
  intro hlink
  have hown (follow : Bool) : t.locate follow p = .ok p :=
    hclosed.locate (by rw [hlink]; simp) fun way hinside => by cases hlink.symm.trans hinside
  have hget : t.pathGet p = some (.link .directory) := by
    rw [Tree.pathGet, hown false]
    exact hlink
  have hdir : t.pathIsDir p = true :=
    Tree.pathIsDir_iff.mpr ⟨p, hown true, Tree.isDirectory_iff.mpr (.inr hlink)⟩
  have hexists := Tree.pathExists_of_pathIsDir hdir
  by_cases heq : p = componentsOf name
  · subst heq
    have hthere : thereAs t name = true := by
      rw [thereAs]
      split
      · exact hdir
      · exact hexists
    rw [previousOf, if_pos hthere, hget] at h
    cases h
  · have hne : p ≠ [] := fun hnil => hroot _ (hnil ▸ hlink)
    have hmem : p ∈ ancestors (componentsOf name) := mem_ancestors.mpr ⟨prefix_dropLast hp heq, hne⟩
    cases (hway p hmem hexists).symm.trans hget

/-- What a journal says about the entries of a payload. -/
structure Planned (t : FileTree) (entries : List (String × Bytes)) (journal : RestoreJournal) :
    Prop where
  accepted : ∀ entry ∈ entries, Accepted entry.1
  distinct : (entries.map fun entry => componentsOf entry.1).Nodup
  names_eq : journal.files.map Prod.fst = entries.map Prod.fst
  recorded : ∀ file ∈ journal.files, Recorded t file.1 file.2
  mem_createdDirs : ∀ p, p ∈ journal.createdDirs ↔
    t.pathExists p = false ∧ p ≠ [] ∧ ∃ entry ∈ entries, p <+: (componentsOf entry.1).dropLast
  outside : ∀ entry ∈ entries, ∀ p, p <+: componentsOf entry.1 → t.get p ≠ some (.link .directory)

/-- Planning goes on from the entries that were planned before. -/
theorem planned_of_plan {before : List (String × Bytes)} {seen : List Path} (hclosed : t.Closed)
    (hroot : ∀ target, t.get [] ≠ some (.link target))
    (h : plan root t rest seen journal = .ok journal') (hbefore : Planned t before journal)
    (hseen : ∀ p, p ∈ seen ↔ p ∈ before.map fun entry => componentsOf entry.1) :
    Planned t (before ++ rest) journal' ∧ journal'.rootCreated = journal.rootCreated := by
  induction rest generalizing before seen journal with
  | nil =>
    obtain rfl := Except.ok.inj h
    rw [List.append_nil]
    exact ⟨hbefore, rfl⟩
  | cons entry rest ih =>
    obtain ⟨name, bytes⟩ := entry
    obtain ⟨path, hpath, h⟩ := bind_eq_ok.mp h
    obtain ⟨haccepted, rfl⟩ := checkedRestoreRelative_eq_ok hpath
    split at h
    · cases h
    · rename_i hnew
      obtain ⟨createdDirs, hdirs, h⟩ := bind_eq_ok.mp h
      obtain ⟨previous, hprevious, h⟩ := bind_eq_ok.mp h
      -- The entry is accepted, its place is new, and its previous contents and missing directories
      -- are recorded.
      have hnext : Planned t (before ++ [(name, bytes)])
          { journal with files := journal.files ++ [(name, previous)], createdDirs := createdDirs } := by
        constructor
        · intro entry hentry
          rcases List.mem_append.mp hentry with hentry | hentry
          · exact hbefore.accepted entry hentry
          · obtain rfl := List.mem_singleton.mp hentry
            exact haccepted
        · rw [List.map_append, List.nodup_append]
          refine ⟨hbefore.distinct, List.nodup_singleton _, fun p hp q hq heq => ?_⟩
          rw [List.map_singleton, List.mem_singleton] at hq
          exact hnew ((hseen _).mpr (hq ▸ heq ▸ hp))
        · rw [List.map_append, List.map_append, hbefore.names_eq]
          rfl
        · intro file hfile
          rcases List.mem_append.mp hfile with hfile | hfile
          · exact hbefore.recorded file hfile
          · obtain rfl := List.mem_singleton.mp hfile
            exact recorded_of_previousOf hclosed hroot (pathGet_of_planAncestors hdirs)
              haccepted.componentsOf_ne_nil hprevious
        · intro p
          rw [mem_planAncestors hdirs, hbefore.mem_createdDirs, mem_ancestors]
          constructor
          · rintro (⟨hnot, hne, entry, hentry, hp⟩ | ⟨⟨hp, hne⟩, hnot⟩)
            · exact ⟨hnot, hne, entry, List.mem_append_left _ hentry, hp⟩
            · exact ⟨hnot, hne, _, List.mem_append_right _ (.head _), hp⟩
          · rintro ⟨hnot, hne, entry, hentry, hp⟩
            rcases List.mem_append.mp hentry with hentry | hentry
            · exact .inl ⟨hnot, hne, entry, hentry, hp⟩
            · obtain rfl := List.mem_singleton.mp hentry
              exact .inr ⟨⟨hp, hne⟩, hnot⟩
        · intro entry hentry p hp
          rcases List.mem_append.mp hentry with hentry | hentry
          · exact hbefore.outside entry hentry p hp
          · obtain rfl := List.mem_singleton.mp hentry
            exact outside_of_plan hclosed hroot (pathGet_of_planAncestors hdirs) hprevious hp
      have hrest := ih h hnext fun p => by
        rw [List.mem_cons, hseen, List.map_append, List.mem_append, List.map_singleton,
          List.mem_singleton]
        exact or_comm
      rwa [List.append_assoc] at hrest

theorem planned_nil {rootCreated : Bool} : Planned t [] ⟨[], [], rootCreated⟩ := by
  constructor <;> simp

end Plan

section Keep

/-- A journal that was made durable, in a tree that has its root. -/
structure Kept (codecs : ArchiveCodecs) (attemptId : AttemptId) (journal : RestoreJournal)
    (t t' : FileTree) : Prop where
  free : t.get (journalPath codecs attemptId) = none ∨
    Tree.Loose (t.get (journalPath codecs attemptId))
  directory : t.get [restoreJournalDir] = none ∨ t.get [restoreJournalDir] = some .directory
  root : t'.get [] = some .directory
  get_journal : t'.get (journalPath codecs attemptId) = some (.file (codecs.journalToVec journal))
  get_directory : t'.get [restoreJournalDir] = some .directory
  get_other : ∀ p, p ≠ journalPath codecs attemptId → p ≠ [restoreJournalDir] → t'.get p = t.get p
  closed : t'.Closed

theorem journalPath_ne : journalPath codecs attemptId ≠ [restoreJournalDir] := by simp [journalPath]

/-- What no path leads to is not there, or is a link. -/
theorem loose_of_not_exists (hclosed : t.Closed) (h : t.pathExists p = false) :
    t.get p = none ∨ Tree.Loose (t.get p) := by
  apply Tree.isThere_eq_false_iff.mp
  by_contra hthere
  rw [hclosed.pathExists (by simpa using hthere)] at h
  cases h

/-- A root that is there is the place of the empty path. -/
theorem locate_root (hroot : ∀ target, t.get [] ≠ some (.link target)) {follow : Bool} :
    t.locate follow [] = .ok [] :=
  Tree.locate_of_directories (fun _ hq hne => absurd (List.prefix_nil.mp hq) hne)
    fun _ way => hroot (.inside way)

/-- A directory that is missing below the root is made there. -/
theorem get_createDirAll_below {top : String} (hthere : t.get [] ≠ none)
    (hroot : ∀ target, t.get [] ≠ some (.link target)) (hmissing : t.pathExists [top] = false)
    (h : t.pathCreateDirAll [top] = .ok t') :
    t.get [] = some .directory ∧ t.get [top] = none ∧
      ∀ q, t'.get q = if q = [top] then some .directory else t.get q := by
  have hensured : t.pathEnsureDir [top] = .ok t' := by
    have h : t.pathMakeUp [top] = .ok t' := h
    rcases Tree.pathMakeUp_cons h with hensured | ⟨t₁, hmade, hensured⟩
    · exact hensured
    · -- The root itself is there already.
      rcases Tree.pathEnsureDir_ok (p := []) hmade with hmkdir | ⟨rfl, -⟩
      · obtain ⟨place, hlocate, hnone, -⟩ := Tree.pathMkdir_ok hmkdir
        obtain rfl := Except.ok.inj (hlocate.symm.trans (locate_root hroot))
        exact absurd hnone hthere
      · exact hensured
  rcases Tree.pathEnsureDir_ok hensured with hmkdir | ⟨-, hdirectory⟩
  · obtain ⟨place, hlocate, hnone, rfl⟩ := Tree.pathMkdir_ok hmkdir
    obtain ⟨d, hd, hdirectory, hplace⟩ := Tree.locate_concat (p := []) hlocate
    obtain rfl := Except.ok.inj (hd.symm.trans (locate_root hroot))
    obtain rfl := hplace rfl
    exact ⟨hdirectory, hnone, fun q => Tree.get_put⟩
  · rw [Tree.pathExists_of_pathIsDir hdirectory] at hmissing
    cases hmissing

/-- The journal directory is there or is made, and then the journal is put into it. -/
theorem kept_of_persist (hclosed : t.Closed) (hthere : t.get [] ≠ none)
    (hroot : ∀ target, t.get [] ≠ some (.link target))
    (h : persistRestoreJournal codecs root attemptId t journal = .ok t') :
    Kept codecs attemptId journal t t' := by
  obtain ⟨t₁, hdirectory, h⟩ := bind_eq_ok.mp h
  rw [openJournalDir] at hdirectory
  -- Either way the journal directory is one now, and all other places are as they were.
  obtain ⟨htop, hbefore, hget⟩ : t.get [] = some .directory ∧
      (t.get [restoreJournalDir] = none ∨ t.get [restoreJournalDir] = some .directory) ∧
      ∀ q, t₁.get q = if q = [restoreJournalDir] then some .directory else t.get q := by
    split at hdirectory
    · split at hdirectory
      · rename_i hreal
        obtain rfl := Except.ok.inj hdirectory
        rw [Tree.pathGet] at hreal
        split at hreal
        · rename_i place hlocate
          obtain ⟨d, hd, hdir, hplace⟩ := Tree.locate_concat (p := []) hlocate
          obtain rfl := Except.ok.inj (hd.symm.trans (locate_root hroot))
          obtain rfl := hplace rfl
          refine ⟨hdir, .inr hreal, fun q => ?_⟩
          split
          · rename_i heq
            rw [heq]
            exact hreal
          · rfl
        · cases hreal
      · cases hdirectory
    · rename_i hmissing
      obtain ⟨htop, hnone, hget⟩ := get_createDirAll_below hthere hroot (by simpa using hmissing)
        (mapError_eq_ok.mp hdirectory)
      exact ⟨htop, .inl hnone, hget⟩
  have hdir : t₁.get [restoreJournalDir] = some .directory := by rw [hget, if_pos rfl]
  have hclosed₁ : t₁.Closed := by
    refine hclosed.of_grows (fun q hq => by rw [hget, hq, ite_self]) fun q name hold hnew => ?_
    have heq : q ++ [name] = [restoreJournalDir] := by
      by_contra hne
      rw [hget, if_neg hne] at hnew
      exact hnew hold
    obtain ⟨rfl, -⟩ := List.append_inj' (heq.trans (List.nil_append _).symm) rfl
    rw [hget, if_neg (by simp), htop]
  split at h
  · cases h
  · rename_i hmissing
    obtain rfl := Except.ok.inj h
    have hfree := loose_of_not_exists hclosed₁ (p := journalPath codecs attemptId)
      (by simpa using hmissing)
    have hput {q : Path} (hq : q ≠ journalPath codecs attemptId) :
        (t₁.put (journalPath codecs attemptId) (.file (codecs.journalToVec journal))).get q =
          t₁.get q := Tree.get_put_of_ne hq
    -- The place of the journal is free, so it is not a directory that the file would replace.
    have hnode : t₁.get (journalPath codecs attemptId) ≠ some .directory := by
      intro hnode
      rcases hfree with hnone | ⟨creatable, hlink⟩ | ⟨way, hlink⟩
      · cases hnone.symm.trans hnode
      · cases hlink.symm.trans hnode
      · cases hlink.symm.trans hnode
    have hkeep : (t₁.put (journalPath codecs attemptId)
        (.file (codecs.journalToVec journal))).Closed :=
      Tree.Closed.put (d := [restoreJournalDir]) hclosed₁ hdir hnode
    refine ⟨?_, hbefore, ?_, Tree.get_put_self, ?_, fun q hq hne => ?_, hkeep⟩
    · rwa [hget, if_neg journalPath_ne] at hfree
    · rw [hput (by simp [journalPath]), hget, if_neg (by simp), htop]
    · rw [hput (Ne.symm journalPath_ne), hdir]
    · rw [hput hq, hget, if_neg hne]

end Keep

section Plain

/-- No link leads on from the way of a name, or to what it names. -/
structure Plain (t : FileTree) (name : String) : Prop where
  way : t.Dead (componentsOf name).dropLast
  outside : t.get (componentsOf name) ≠ some (.link .directory)
  inside : ∀ way, t.get (componentsOf name) = some (.link (.inside way)) → thereAs t name = false

theorem grows_thereAs (h : t.Grows t') (hthere : thereAs t name = true) :
    thereAs t' name = true := by
  rw [thereAs] at hthere ⊢
  split
  · rename_i hname
    rw [if_pos hname] at hthere
    exact h.pathIsDir hthere
  · rename_i hname
    rw [if_neg hname] at hthere
    exact h.pathExists hthere

/-- Links that do not lead on have not done so before. -/
theorem Plain.of_grows (h : Plain t' name) (hgrows : t.Grows t') : Plain t name := by
  refine ⟨h.way.of_grows hgrows, fun hlink => h.outside (hgrows.outside _ hlink), ?_⟩
  intro way hlink
  by_contra hthere
  have hnot := h.inside way (hgrows.inside _ way hlink)
  rw [grows_thereAs hgrows (by simpa using hthere)] at hnot
  cases hnot

theorem Plain.dead (h : Plain t name) (hname : namesDirectory name = false) :
    t.Dead (componentsOf name) := by
  refine h.way.of_dropLast h.outside fun way hlink => ?_
  have hnot := h.inside way hlink
  rwa [thereAs, if_neg (by simp [hname])] at hnot

/-- What is found under the name is in the place of the name itself. -/
theorem Plain.thereAs_eq (hclosed : t.Closed) (h : Plain t name) :
    thereAs t name = hereAs t name := by
  by_cases hlink : ∃ way, t.get (componentsOf name) = some (.link (.inside way))
  · obtain ⟨way, hlink⟩ := hlink
    rw [h.inside way hlink, hereAs, Tree.isDirectory, Tree.isThere, hlink]
    simp
  · have hdead : t.Dead (componentsOf name) :=
      h.way.of_dropLast h.outside fun way hway => absurd ⟨way, hway⟩ hlink
    rw [thereAs, hereAs, hdead.pathIsDir hclosed, hdead.pathExists hclosed]

end Plain

section Change

/-- What may have happened to a place while the entries were written. -/
inductive Change (entries : List (String × Bytes)) (p : Path) (before : Option (Node UInt8)) :
    Option (Node UInt8) → Prop
  | same : Change entries p before before
  | written {name : String} {bytes contents : Bytes} : (name, bytes) ∈ entries →
      namesDirectory name = false → p = componentsOf name →
      (before = none ∨ ∃ old, before = some (.file old)) →
      Change entries p before (some (.file contents))
  | made {name : String} {bytes : Bytes} : (name, bytes) ∈ entries →
      p <+: (componentsOf name).dropLast → before = none → Change entries p before (some .directory)
  | followed : before = some (.link (.nothing true)) → Change entries p before (some (.link .file))

variable {before : Option (Node UInt8)}

/-- Where there is nothing there was nothing. -/
theorem Change.of_none (h : Change entries p before none) : before = none := by
  cases h
  rfl

/-- A file was one before, or was made where there was nothing. -/
theorem Change.of_file {old : Bytes} (h : Change entries p before (some (.file old))) :
    before = none ∨ ∃ old, before = some (.file old) := by
  cases h with
  | same => exact .inr ⟨old, rfl⟩
  | written _ _ _ hbefore => exact hbefore

/-- No link to nothing is made. -/
theorem Change.of_dangling {creatable : Bool}
    (h : Change entries p before (some (.link (.nothing creatable)))) :
    before = some (.link (.nothing creatable)) := by
  cases h
  rfl

theorem change_createDirAll {dir : Path} (hmem : (name, bytes) ∈ entries)
    (hdir : dir <+: (componentsOf name).dropLast) (hclosed : t.Closed)
    (hmade : t.pathCreateDirAll dir = .ok t') (hplain : Plain t' name)
    (h : ∀ p, Change entries p (t₂.get p) (t.get p)) (p : Path) :
    Change entries p (t₂.get p) (t'.get p) := by
  obtain ⟨hget, hway⟩ := (hplain.way.of_prefix hdir).get_createDirAll hclosed hmade
  have hp := h p
  rw [hget]
  split
  · rename_i hpart
    rcases hway p hpart with hnone | hdirectory
    · rw [hnone] at hp
      exact .made hmem (hpart.trans hdir) hp.of_none
    · rwa [hdirectory] at hp
  · exact hp

theorem change_writeAs {contents : Bytes} (hmem : (name, bytes) ∈ entries) (hclosed : t.Closed)
    (hwritten : writeAs t name contents = .ok t') (hplain : Plain t' name)
    (h : ∀ p, Change entries p (t₂.get p) (t.get p)) (p : Path) :
    Change entries p (t₂.get p) (t'.get p) := by
  rw [writeAs] at hwritten
  split at hwritten
  · cases hwritten
  · rename_i hname
    have hname : namesDirectory name = false := Bool.eq_false_iff.mpr hname
    obtain ⟨hother, hself⟩ := Tree.get_write ((hplain.dead hname).pathWrite hclosed hwritten)
    have hp := h p
    by_cases heq : p = componentsOf name
    · subst heq
      rcases hself with hsame | ⟨hfile, -, -, hnone⟩ | ⟨hfile, old, hold⟩ | ⟨hlink, hold⟩
      · rwa [hsame]
      · rw [hnone] at hp
        rw [hfile]
        exact .written hmem hname rfl (.inl hp.of_none)
      · rw [hold] at hp
        rw [hfile]
        exact .written hmem hname rfl hp.of_file
      · rw [hold] at hp
        rw [hlink]
        exact .followed hp.of_dangling
    · rwa [hother p heq]

theorem closed_writeAs {contents : Bytes} (h : t.Closed) (hwritten : writeAs t name contents = .ok t') :
    t'.Closed := by
  rw [writeAs] at hwritten
  split at hwritten
  · cases hwritten
  · exact h.pathWrite hwritten

theorem grows_writeAs {contents : Bytes} (hwritten : writeAs t name contents = .ok t') :
    t.Grows t' := by
  rw [writeAs] at hwritten
  split at hwritten
  · cases hwritten
  · exact Tree.grows_pathWrite hwritten

/-- Writing takes nothing away. -/
theorem Stops.grows (h : Stops t rest t') : t.Grows t' := by
  induction h with
  | here => exact .refl _
  | making _ hmade => exact (Tree.pathCreateDirAll_made hmade).grows
  | writing hmade hwritten =>
    exact (Tree.pathCreateDirAll_made hmade).grows.trans (grows_writeAs hwritten)
  | next hmade hwritten _ ih =>
    exact ((Tree.pathCreateDirAll_made hmade).grows.trans (grows_writeAs hwritten)).trans ih

theorem Stops.closed (h : Stops t rest t') (hclosed : t.Closed) : t'.Closed := by
  induction h with
  | here => exact hclosed
  | making _ hmade => exact hclosed.pathCreateDirAll hmade
  | writing hmade hwritten => exact closed_writeAs (hclosed.pathCreateDirAll hmade) hwritten
  | next hmade hwritten _ ih => exact ih (closed_writeAs (hclosed.pathCreateDirAll hmade) hwritten)

/-- Wherever the restore stops, each place has changed in one of these ways, unless a link leads
on. -/
theorem Stops.change (h : Stops t rest t') (hsub : rest ⊆ entries) (hclosed : t.Closed)
    (hplain : ∀ entry ∈ entries, Plain t' entry.1)
    (hchange : ∀ p, Change entries p (t₂.get p) (t.get p)) :
    ∀ p, Change entries p (t₂.get p) (t'.get p) := by
  induction h with
  | here => exact hchange
  | making hdir hmade =>
    have hmem := hsub (.head _)
    exact change_createDirAll hmem hdir hclosed hmade (hplain _ hmem) hchange
  | writing hmade hwritten =>
    have hmem := hsub (.head _)
    have hmade' := change_createDirAll hmem (List.prefix_refl _) hclosed hmade
      ((hplain _ hmem).of_grows (grows_writeAs hwritten)) hchange
    exact change_writeAs hmem (hclosed.pathCreateDirAll hmade) hwritten (hplain _ hmem) hmade'
  | next hmade hwritten hstops ih =>
    have hmem := hsub (.head _)
    -- The links do not lead on at the stop, so they have not done so before.
    have hplain₂ := (hplain _ hmem).of_grows hstops.grows
    have hmade' := change_createDirAll hmem (List.prefix_refl _) hclosed hmade
      (hplain₂.of_grows (grows_writeAs hwritten)) hchange
    have hclosed₁ := hclosed.pathCreateDirAll hmade
    exact ih (fun entry hentry => hsub (.tail _ hentry)) (closed_writeAs hclosed₁ hwritten) hplain
      (change_writeAs hmem hclosed₁ hwritten hplain₂ hmade')

end Change

section StopsAt

/-- The restore of a payload has made its journal durable, and stops. -/
def StopsAt (codecs : ArchiveCodecs) (provider : FilesystemProvider) (attemptId : AttemptId)
    (payload : Bytes) (t₀ : FileTree) (journal : RestoreJournal) (t₃ : FileTree) : Prop :=
  ∃ entries t₁ t₂, prepare codecs provider payload t₀ = (.ok (entries, journal), t₁) ∧
    keepJournal codecs provider attemptId journal t₁ = .ok t₂ ∧ Stops t₂ entries t₃

/-- A restore that runs to its end is one of them, if it gets that far. -/
theorem stopsAt_restore {t₀ : FileTree}
    (hprepare : prepare codecs provider payload t₀ = (.ok (entries, journal), t₁))
    (hkeep : keepJournal codecs provider attemptId journal t₁ = .ok t₂) :
    StopsAt codecs provider attemptId payload t₀ journal
      (restore codecs provider attemptId payload t₀).2 := by
  refine ⟨entries, t₁, t₂, hprepare, hkeep, ?_⟩
  rw [restore, hprepare]
  dsimp only
  rw [hkeep]
  exact stops_writeEntries

/-- A provider that has restored something has a root to restore to. -/
theorem StopsAt.root_eq_ok {t₀ t₃ : FileTree}
    (h : StopsAt codecs provider attemptId payload t₀ journal t₃) :
    ∃ root, provider.root = .ok root := by
  obtain ⟨entries, t₁, t₂, hprepare, -, -⟩ := h
  unfold prepare at hprepare
  split at hprepare
  · cases hprepare
  · split at hprepare
    · cases hprepare
    · rename_i root hroot
      exact ⟨root, hroot⟩

/-- A link into the tree that is on the way to a recorded file leads to something, or one that is in
its place leads to what could be the file. -/
def Followed (journal : RestoreJournal) (t : FileTree) : Prop :=
  ∃ file ∈ journal.files,
    (∃ p way, p <+: (componentsOf file.1).dropLast ∧ t.get p = some (.link (.inside way)) ∧
      t.pathExists p = true) ∨
    ∃ way, t.get (componentsOf file.1) = some (.link (.inside way)) ∧ thereAs t file.1 = true

/-- What is known about a restore that has stopped with no link followed: the trees before the root
was made, with the root, with the journal, and at the stop. -/
structure Stopped (codecs : ArchiveCodecs) (attemptId : AttemptId) (entries : List (String × Bytes))
    (journal : RestoreJournal) (t₀ t₁ t₂ t₃ : FileTree) : Prop where
  root : (journal.rootCreated = false ∧ t₁ = t₀) ∨
    (journal.rootCreated = true ∧ (∀ p, t₀.get p = none) ∧
      ∀ p, t₁.get p = if p = [] then some .directory else none)
  closed : t₁.Closed
  planned : Planned t₁ entries journal
  kept : Kept codecs attemptId journal t₁ t₂
  stop_closed : t₃.Closed
  grows : t₂.Grows t₃
  plain : ∀ entry ∈ entries, Plain t₃ entry.1
  change : ∀ p, Change entries p (t₂.get p) (t₃.get p)

/-- Nothing is below a root that is missing. -/
theorem get_eq_none_of_closed (h : t.Closed) (hroot : t.get [] = none) (p : Path) :
    t.get p = none := by
  by_cases hp : p = []
  · rw [hp, hroot]
  · by_contra hthere
    cases hroot.symm.trans (h.get_prefix hthere List.nil_prefix (Ne.symm hp))

/-- Unless a link into the tree was followed, no link leads on: the plan has found none to a
directory outside, and the restore makes none. -/
theorem plain_of_not_followed {t₃ : FileTree} (hplanned : Planned t₁ entries journal)
    (hkept : Kept codecs attemptId journal t₁ t₂) (hstops : Stops t₂ entries t₃)
    (hfollowed : ¬ Followed journal t₃) : ∀ entry ∈ entries, Plain t₃ entry.1 := by
  intro entry hentry
  have hname : entry.1 ∈ journal.files.map Prod.fst := by
    rw [hplanned.names_eq]
    exact List.mem_map_of_mem hentry
  obtain ⟨file, hfile, heq⟩ := List.mem_map.mp hname
  have houtside (p : Path) (hp : p <+: componentsOf entry.1) :
      t₃.get p ≠ some (.link .directory) := by
    intro hlink
    have hlink₂ := hstops.grows.link p _ hlink (by simp)
    refine hplanned.outside entry hentry p hp ?_
    have hbelow (rest : Path) : p ≠ restoreJournalDir :: rest := fun heq =>
      (hplanned.accepted entry hentry).not_below rest (heq ▸ hp)
    rwa [hkept.get_other p (hbelow _) (hbelow _)] at hlink₂
  refine ⟨fun p hp => ⟨houtside p (hp.trans (List.dropLast_prefix _)), fun way hlink => ?_⟩,
    houtside _ (List.prefix_refl _), fun way hlink => ?_⟩
  · by_contra hexists
    exact hfollowed ⟨file, hfile, .inl ⟨p, way, heq ▸ hp, hlink, by simpa using hexists⟩⟩
  · by_contra hthere
    exact hfollowed ⟨file, hfile, .inr ⟨way, heq ▸ hlink, by simpa [heq] using hthere⟩⟩

theorem stopped_of_stops {t₀ t₃ : FileTree} (hclosed : t₀.Closed)
    (hprepare : prepare codecs provider payload t₀ = (.ok (entries, journal), t₁))
    (hkeep : keepJournal codecs provider attemptId journal t₁ = .ok t₂)
    (hstops : Stops t₂ entries t₃) (hfollowed : ¬ Followed journal t₃) :
    Stopped codecs attemptId entries journal t₀ t₁ t₂ t₃ := by
  unfold prepare at hprepare
  split at hprepare
  · cases hprepare
  · rename_i entries' hentries
    split at hprepare
    · cases hprepare
    · rename_i root hroot
      split at hprepare
      · cases hprepare
      · rename_i rootCreated t₁' hopen
        split at hprepare
        · cases hprepare
        · rename_i journal' hplan
          cases hprepare
          -- All parts of the preparation have passed: the entries, the root, and the plan.
          obtain ⟨hthere, hplain⟩ :
              t₁.get [] ≠ none ∧ ∀ target, t₁.get [] ≠ some (.link target) := by
            rcases openRoot_eq_ok hopen with ⟨-, rfl, hthere, hplain⟩ | ⟨-, -, hget⟩
            · exact ⟨hthere, hplain⟩
            · rw [hget, if_pos rfl]
              simp
          have hopened : (rootCreated = false ∧ t₁ = t₀) ∨
              (rootCreated = true ∧ (∀ p, t₀.get p = none) ∧
                ∀ p, t₁.get p = if p = [] then some .directory else none) := by
            rcases openRoot_eq_ok hopen with ⟨hfalse, hsame, -⟩ | ⟨htrue, hnone, hget⟩
            · exact .inl ⟨hfalse, hsame⟩
            · have hbefore := get_eq_none_of_closed hclosed hnone
              exact .inr ⟨htrue, hbefore, fun p => by rw [hget, hbefore]⟩
          -- A root that was made is the only place there is.
          have hclosed₁ : t₁.Closed := by
            rcases hopened with ⟨-, rfl⟩ | ⟨-, -, hget⟩
            · exact hclosed
            · intro p name hp
              rw [hget, if_neg (by simp)] at hp
              exact absurd rfl hp
          obtain ⟨hplanned, hcreated⟩ :=
            planned_of_plan hclosed₁ hplain hplan planned_nil (by simp)
          rw [List.nil_append] at hplanned
          have hkept : Kept codecs attemptId journal t₁ t₂ := by
            rw [keepJournal] at hkeep
            split at hkeep
            · cases hkeep
            · exact kept_of_persist hclosed₁ hthere hplain hkeep
          have hplain' := plain_of_not_followed hplanned hkept hstops hfollowed
          exact
            { root := hcreated ▸ hopened
              closed := hclosed₁
              planned := hplanned
              kept := hkept
              stop_closed := hstops.closed hkept.closed
              grows := hstops.grows
              plain := hplain'
              change := hstops.change (List.Subset.refl _) hkept.closed hplain' fun p => .same }

theorem StopsAt.stopped {t₀ t₃ : FileTree} (hclosed : t₀.Closed)
    (h : StopsAt codecs provider attemptId payload t₀ journal t₃)
    (hfollowed : ¬ Followed journal t₃) :
    ∃ entries t₁ t₂, Stopped codecs attemptId entries journal t₀ t₁ t₂ t₃ := by
  obtain ⟨entries, t₁, t₂, hprepare, hkeep, hstops⟩ := h
  exact ⟨entries, t₁, t₂, stopped_of_stops hclosed hprepare hkeep hstops hfollowed⟩

end StopsAt

end CheckpointFabric.Filesystem
