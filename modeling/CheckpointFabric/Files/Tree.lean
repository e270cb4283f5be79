import Mathlib.Data.List.Infix
import Mathlib.Data.List.Basic

/-!
# Trees of files

A tree below a root directory, as a program sees it that works on it alone. A place is named by the
names on the way from the root; a directory lists nothing of its own, its contents are the places
that extend its own.

A link may lead out of the tree. It says what is at its other end, and writing through a link to
nothing makes a file there, if that is possible. Or a link leads to a place in the tree, by a way
that starts at the root. The calls here are those of a program that names places: they do not follow
a link into the tree.

## Main definitions

* `Node`, `Tree` — what is at a place, and the places of a tree
* `Tree.createDirAll`, `Tree.write`, `Tree.removeFile`, `Tree.removeDir` — the calls of a program
* `Tree.Closed` — everything is in a directory

## Main results

* `get_createDirAll`, `get_write`, `get_removeFile` — what the calls leave at each place
* `Closed.createDirAll`, `Closed.write` — a tree stays closed
-/

set_option autoImplicit false

namespace Files

variable {α : Type}

/-- The names on the way from the root. -/
abbrev Path := List String

/-- A step of the way of a link: to what a directory has under a name, or to the directory above. -/
inductive Step
  | down (name : String)
  | up
  deriving DecidableEq, Repr

/-- What a link leads to. -/
inductive Target
  | file
  | directory
  /-- There is nothing, but a file can be made there or not. -/
  | nothing (creatable : Bool)
  /-- It leads into the tree, by this way from the root. -/
  | inside (way : List Step)
  deriving DecidableEq, Repr

/-- What is at a place. -/
inductive Node (α : Type)
  | file (contents : List α)
  | directory
  | link (target : Target)
  | special
  deriving DecidableEq, Repr

structure Tree (α : Type) where
  nodes : List (Path × Node α)
  deriving DecidableEq, Repr

/-- Why a call fails. -/
inductive Failure
  | notFound
  | alreadyExists
  | notADirectory
  | isADirectory
  | directoryNotEmpty
  | tooManyLinks
  deriving DecidableEq, Repr

namespace Tree

section Calls

variable (t : Tree α) (p : Path)

/-- What is at a place, without following a link. -/
def get : Option (Node α) := t.nodes.lookup p

def put (node : Node α) : Tree α := ⟨(p, node) :: t.nodes⟩

def erase : Tree α := ⟨t.nodes.filter fun x => x.1 ≠ p⟩

/-- There is something, at the other end if it is a link. -/
def isThere : Bool :=
  match t.get p with
  | none | some (.link (.nothing _)) | some (.link (.inside _)) => false
  | some _ => true

def isDirectory : Bool :=
  match t.get p with
  | some .directory | some (.link .directory) => true
  | _ => false

def isRealDirectory : Bool :=
  match t.get p with
  | some .directory => true
  | _ => false

/-- Make these directories, as far as they are missing. -/
def makeAll (t : Tree α) : List Path → Except Failure (Tree α)
  | [] => .ok t
  | p :: ps =>
    match t.get p with
    | none => makeAll (t.put p .directory) ps
    | some .directory => makeAll t ps
    | some _ => .error .alreadyExists

/-- Make a directory and those that it is in. -/
def createDirAll : Except Failure (Tree α) := t.makeAll p.inits

/-- Create or truncate a file and write its contents. -/
def write (contents : List α) : Except Failure (Tree α) :=
  match t.get p with
  | none =>
    if p ≠ [] ∧ t.isRealDirectory p.dropLast then .ok (t.put p (.file contents))
    else .error .notFound
  | some (.file _) => .ok (t.put p (.file contents))
  | some .directory | some (.link .directory) => .error .isADirectory
  | some (.link .file) | some .special => .ok t
  | some (.link (.nothing true)) => .ok (t.put p (.link .file))
  | some (.link (.nothing false)) | some (.link (.inside _)) => .error .notFound

/-- Remove what is at a place, a link rather than what it leads to. -/
def removeFile : Except Failure (Tree α) :=
  match t.get p with
  | none => .error .notFound
  | some .directory => .error .isADirectory
  | some _ => .ok (t.erase p)

/-- Something is in the directory. -/
def hasChild : Bool := t.nodes.any fun x => x.1 ≠ [] && x.1.dropLast = p

def removeDir : Except Failure (Tree α) :=
  match t.get p with
  | none => .error .notFound
  | some .directory => if t.hasChild p then .error .directoryNotEmpty else .ok (t.erase p)
  | some _ => .error .notADirectory

end Calls

/-- Everything is in a directory. -/
def Closed (t : Tree α) : Prop :=
  ∀ p name, t.get (p ++ [name]) ≠ none → t.get p = some .directory

/-- A link to nothing, or into the tree, where there may be nothing. -/
def Loose (node : Option (Node α)) : Prop :=
  (∃ creatable, node = some (.link (.nothing creatable))) ∨
    ∃ way, node = some (.link (.inside way))

@[simp] theorem not_loose_none : ¬ Loose (none : Option (Node α)) := by
  rintro (⟨_, ⟨⟩⟩ | ⟨_, ⟨⟩⟩)

@[simp] theorem not_loose_file {contents : List α} : ¬ Loose (some (.file contents)) := by
  rintro (⟨_, ⟨⟩⟩ | ⟨_, ⟨⟩⟩)

@[simp] theorem not_loose_directory : ¬ Loose (some (.directory : Node α)) := by
  rintro (⟨_, ⟨⟩⟩ | ⟨_, ⟨⟩⟩)

@[simp] theorem not_loose_link_file : ¬ Loose (some (.link .file : Node α)) := by
  rintro (⟨_, ⟨⟩⟩ | ⟨_, ⟨⟩⟩)

section Get

variable {t t' : Tree α} {p q : Path} {node : Node α} {contents : List α}

theorem get_put : (t.put p node).get q = if q = p then some node else t.get q := by
  rw [get, put, List.lookup_cons]
  by_cases h : q = p
  · rw [if_pos h, h, beq_self_eq_true]
  · rw [if_neg h, beq_false_of_ne h]
    rfl

@[simp] theorem get_put_self : (t.put p node).get p = some node := by rw [get_put, if_pos rfl]

theorem get_put_of_ne (h : q ≠ p) : (t.put p node).get q = t.get q := by rw [get_put, if_neg h]

theorem get_erase : (t.erase p).get q = if q = p then none else t.get q := by
  rw [get, get, erase]
  dsimp only
  induction t.nodes with
  | nil => simp
  | cons x nodes ih =>
    obtain ⟨k, node⟩ := x
    by_cases hk : k = p
    · rw [List.filter_cons_of_neg (by simpa using hk), ih]
      by_cases hq : q = p
      · rw [if_pos hq, if_pos hq]
      · rw [if_neg hq, if_neg hq, List.lookup_cons, beq_false_of_ne fun h => hq (h.trans hk)]
    · rw [List.filter_cons_of_pos (by simpa using hk), List.lookup_cons, ih, List.lookup_cons]
      by_cases hq : q = k
      · simp [hq, hk]
      · rw [beq_false_of_ne hq]

@[simp] theorem get_erase_self : (t.erase p).get p = none := by rw [get_erase, if_pos rfl]

theorem get_erase_of_ne (h : q ≠ p) : (t.erase p).get q = t.get q := by rw [get_erase, if_neg h]

@[simp] theorem isRealDirectory_iff : t.isRealDirectory p = true ↔ t.get p = some .directory := by
  rw [isRealDirectory]
  split
  · rename_i h
    exact ⟨fun _ => h, fun _ => rfl⟩
  · rename_i h
    exact ⟨fun hfalse => by simp at hfalse, fun heq => absurd heq h⟩

theorem mem_nodes_iff : (∃ node, (p, node) ∈ t.nodes) ↔ t.get p ≠ none := by
  rw [get, ne_eq, List.lookup_eq_none_iff]
  constructor
  · rintro ⟨node, hmem⟩ hnone
    exact absurd (hnone _ hmem) (by simp)
  · intro h
    push Not at h
    obtain ⟨x, hx, heq⟩ := h
    have hp : p = x.1 := by simpa using heq
    exact ⟨x.2, hp ▸ hx⟩

theorem hasChild_iff : t.hasChild p = true ↔ ∃ name, t.get (p ++ [name]) ≠ none := by
  rw [hasChild, List.any_eq_true]
  constructor
  · rintro ⟨x, hx, hp⟩
    obtain ⟨hne, hdrop⟩ := by simpa using hp
    refine ⟨x.1.getLast hne, mem_nodes_iff.mp ⟨x.2, ?_⟩⟩
    rwa [← hdrop, List.dropLast_append_getLast]
  · rintro ⟨name, hname⟩
    obtain ⟨node, hnode⟩ := mem_nodes_iff.mpr hname
    exact ⟨_, hnode, by simp⟩

end Get

section Calls

variable {t t' : Tree α} {p q : Path} {contents : List α}

theorem isThere_eq_false_iff : t.isThere p = false ↔ t.get p = none ∨ Loose (t.get p) := by
  rw [isThere]
  split
  · rename_i h
    exact ⟨fun _ => .inl h, fun _ => rfl⟩
  · rename_i c h
    exact ⟨fun _ => .inr (.inl ⟨c, h⟩), fun _ => rfl⟩
  · rename_i way h
    exact ⟨fun _ => .inr (.inr ⟨way, h⟩), fun _ => rfl⟩
  · rename_i node hnothing hinside h
    refine ⟨fun hfalse => by simp at hfalse, ?_⟩
    rintro (hnone | ⟨c, hlink⟩ | ⟨way, hlink⟩)
    · cases h.symm.trans hnone
    · exact absurd (Option.some.inj (h.symm.trans hlink)) (hnothing c)
    · exact absurd (Option.some.inj (h.symm.trans hlink)) (hinside way)

/-- Directories are made where there was nothing, and everywhere else there was a directory. -/
theorem get_makeAll {ps : List Path} (h : t.makeAll ps = .ok t') :
    (∀ q, t'.get q = if q ∈ ps then some .directory else t.get q) ∧
      ∀ q ∈ ps, t.get q = none ∨ t.get q = some .directory := by
  induction ps generalizing t with
  | nil =>
    obtain rfl := Except.ok.inj h
    exact ⟨fun q => by rw [if_neg List.not_mem_nil], fun q hq => absurd hq List.not_mem_nil⟩
  | cons p ps ih =>
    rw [makeAll] at h
    have hstep (t₁ : Tree α) (hp : t.get p = none ∨ t.get p = some .directory)
        (h₁ : ∀ q, t₁.get q = if q = p then some .directory else t.get q)
        (hrest : t₁.makeAll ps = .ok t') :
        (∀ q, t'.get q = if q ∈ p :: ps then some .directory else t.get q) ∧
          ∀ q ∈ p :: ps, t.get q = none ∨ t.get q = some .directory := by
      obtain ⟨hget, hfree⟩ := ih hrest
      constructor
      · intro q
        rw [hget, h₁]
        by_cases hq : q = p <;> simp [hq]
      · intro q hq
        by_cases heq : q = p
        · rwa [heq]
        · have hmem := hfree q ((List.mem_cons.mp hq).resolve_left heq)
          rwa [h₁, if_neg heq] at hmem
    split at h
    · rename_i hp
      exact hstep _ (.inl hp) (fun q => get_put) h
    · rename_i hp
      refine hstep t (.inr hp) (fun q => ?_) h
      by_cases hq : q = p
      · rw [if_pos hq, hq, hp]
      · rw [if_neg hq]
    · cases h

theorem exists_makeAll {ps : List Path} (h : ∀ q ∈ ps, t.get q = none ∨ t.get q = some .directory) :
    ∃ t', t.makeAll ps = .ok t' := by
  induction ps generalizing t with
  | nil => exact ⟨t, rfl⟩
  | cons p ps ih =>
    rw [makeAll]
    rcases h p (.head _) with hp | hp
    · rw [hp]
      refine ih fun q hq => ?_
      by_cases heq : q = p
      · exact .inr (by rw [heq, get_put_self])
      · rw [get_put_of_ne heq]
        exact h q (.tail _ hq)
    · rw [hp]
      exact ih fun q hq => h q (.tail _ hq)

/-- All the directories on the way are there afterwards, and nothing else has changed. -/
theorem get_createDirAll (h : t.createDirAll p = .ok t') :
    (∀ q, t'.get q = if q <+: p then some .directory else t.get q) ∧
      ∀ q, q <+: p → t.get q = none ∨ t.get q = some .directory := by
  obtain ⟨hget, hfree⟩ := get_makeAll h
  exact ⟨fun q => by rw [hget]; simp only [List.mem_inits],
    fun q hq => hfree q ((List.mem_inits q p).mpr hq)⟩

theorem exists_createDirAll (h : ∀ q, q <+: p → t.get q = none ∨ t.get q = some .directory) :
    ∃ t', t.createDirAll p = .ok t' :=
  exists_makeAll fun q hq => h q ((List.mem_inits q p).mp hq)

/-- A file is written where there was none or a file, or a link is written through. -/
theorem get_write (h : t.write p contents = .ok t') :
    (∀ q, q ≠ p → t'.get q = t.get q) ∧
      (t'.get p = t.get p ∨
        (t'.get p = some (.file contents) ∧ p ≠ [] ∧ t.get p.dropLast = some .directory ∧
          t.get p = none) ∨
        (t'.get p = some (.file contents) ∧ ∃ old, t.get p = some (.file old)) ∨
        (t'.get p = some (.link .file) ∧ t.get p = some (.link (.nothing true)))) := by
  rw [write] at h
  split at h
  · rename_i hp
    split at h
    · rename_i hparent
      obtain rfl := Except.ok.inj h
      exact ⟨fun q hq => get_put_of_ne hq,
        .inr (.inl ⟨get_put_self, hparent.1, isRealDirectory_iff.mp hparent.2, hp⟩)⟩
    · cases h
  · rename_i old hp
    obtain rfl := Except.ok.inj h
    exact ⟨fun q hq => get_put_of_ne hq, .inr (.inr (.inl ⟨get_put_self, old, hp⟩))⟩
  · cases h
  · cases h
  · obtain rfl := Except.ok.inj h
    exact ⟨fun _ _ => rfl, .inl rfl⟩
  · obtain rfl := Except.ok.inj h
    exact ⟨fun _ _ => rfl, .inl rfl⟩
  · rename_i hp
    obtain rfl := Except.ok.inj h
    exact ⟨fun q hq => get_put_of_ne hq, .inr (.inr (.inr ⟨get_put_self, hp⟩))⟩
  · cases h
  · cases h

theorem write_file {old : List α} (h : t.get p = some (.file old)) :
    t.write p contents = .ok (t.put p (.file contents)) := by
  rw [write, h]

theorem get_removeFile (h : t.removeFile p = .ok t') :
    (∀ q, t'.get q = if q = p then none else t.get q) ∧ t.get p ≠ some .directory := by
  rw [removeFile] at h
  split at h
  · cases h
  · cases h
  · rename_i node hdirectory hp
    obtain rfl := Except.ok.inj h
    exact ⟨fun q => get_erase, fun hdir => hdirectory (Option.some.inj (hp.symm.trans hdir))⟩

theorem removeFile_file {old : List α} (h : t.get p = some (.file old)) :
    t.removeFile p = .ok (t.erase p) := by
  rw [removeFile, h]

/-- An empty directory is removed, and any other one stays. -/
theorem removeDir_directory (h : t.get p = some .directory) :
    t.removeDir p = if t.hasChild p then .error .directoryNotEmpty else .ok (t.erase p) := by
  rw [removeDir, h]

end Calls

section Closed

variable {t t' : Tree α} {p q : Path} {node : Node α} {contents : List α}

/-- Everything on the way to a place is a directory. -/
theorem Closed.get_prefix (h : t.Closed) (hp : t.get p ≠ none) (hq : q <+: p) (hne : q ≠ p) :
    t.get q = some .directory := by
  obtain ⟨rest, rfl⟩ := hq
  induction rest using List.reverseRecOn with
  | nil => exact absurd (List.append_nil q).symm hne
  | append_singleton rest name ih =>
    rw [← List.append_assoc] at hp
    have hparent := h _ _ hp
    by_cases hrest : rest = []
    · rwa [hrest, List.append_nil] at hparent
    · exact ih (by rw [hparent]; simp) fun heq => hrest (by simpa using heq)

theorem Closed.get_child (h : t.Closed) (hp : t.get p ≠ some .directory) (name : String) :
    t.get (p ++ [name]) = none := by
  by_contra hchild
  exact hp (h p name hchild)

theorem Closed.congr (h : t.Closed) (hsame : ∀ q, t'.get q = t.get q) : t'.Closed := by
  intro q name hq
  rw [hsame] at hq ⊢
  exact h q name hq

/-- What takes no directory away and adds only what is in one keeps the tree closed. -/
theorem Closed.of_grows (h : t.Closed)
    (hkeeps : ∀ q, t.get q = some .directory → t'.get q = some .directory)
    (hnew : ∀ q name, t.get (q ++ [name]) = none → t'.get (q ++ [name]) ≠ none →
      t'.get q = some .directory) : t'.Closed := by
  intro q name hq
  by_cases hold : t.get (q ++ [name]) = none
  · exact hnew q name hold hq
  · exact hkeeps q (h q name hold)

theorem Closed.createDirAll (h : t.Closed) (hmade : t.createDirAll p = .ok t') : t'.Closed := by
  obtain ⟨hget, -⟩ := get_createDirAll hmade
  refine h.of_grows (fun q hq => ?_) fun q name hold hq => ?_
  · rw [hget, hq, ite_self]
  · rw [hget, hold] at hq
    have hprefix : q ++ [name] <+: p := by
      by_contra hnot
      rw [if_neg hnot] at hq
      exact hq rfl
    rw [hget, if_pos ((List.prefix_append q [name]).trans hprefix)]

theorem Closed.write (h : t.Closed) (hwritten : t.write p contents = .ok t') : t'.Closed := by
  obtain ⟨hget, hp⟩ := get_write hwritten
  have hnode : t.get p = some .directory → t'.get p = some .directory := by
    intro hdir
    rcases hp with hp | ⟨-, -, -, hp⟩ | ⟨-, old, hp⟩ | ⟨-, hp⟩
    · rw [hp, hdir]
    all_goals cases hdir.symm.trans hp
  refine h.of_grows (fun q hq => ?_) fun q name hold hq => ?_
  · by_cases heq : q = p
    · rw [heq]
      exact hnode (heq ▸ hq)
    · rw [hget q heq, hq]
  · by_cases heq : q ++ [name] = p
    · subst heq
      have hne : q ≠ q ++ [name] := by simp
      rcases hp with hp | ⟨-, -, hparent, -⟩ | ⟨-, old, hp⟩ | ⟨-, hp⟩
      · exact absurd (hp.trans hold) hq
      · rw [List.dropLast_concat] at hparent
        rw [hget q hne, hparent]
      · cases hold.symm.trans hp
      · cases hold.symm.trans hp
    · exact absurd ((hget _ heq).trans hold) hq

theorem Closed.put {d : Path} {name : String} (h : t.Closed) (hparent : t.get d = some .directory)
    (hp : t.get (d ++ [name]) ≠ some .directory) : (t.put (d ++ [name]) node).Closed := by
  refine h.of_grows (fun q hq => ?_) fun q name' hold hq => ?_
  · rw [get_put_of_ne (fun heq : q = d ++ [name] => hp (heq ▸ hq)), hq]
  · have heq : q ++ [name'] = d ++ [name] := by
      by_contra hne
      exact hq ((get_put_of_ne hne).trans hold)
    obtain ⟨rfl, -⟩ := List.append_inj' heq rfl
    rw [get_put_of_ne (by simp), hparent]

end Closed

end Tree

end Files
