import CheckpointFabric.Files.Tree

/-!
# Paths through links

A path is followed from the root, name by name. So is the way of a link into the tree, in the place
of the link, until too many links were met. Some calls go through a link at the end of a path,
others act on the link itself.

What lies behind a link that leads out of the tree is out of sight: a path goes no further there.

## Main definitions

* `Tree.locate` — the place that a path leads to
* `Tree.pathExists`, `Tree.pathCreateDirAll`, `Tree.pathWrite`, `Tree.pathRemoveFile` — the calls of
  a program that names paths
* `Tree.Grows` — nothing that can be seen goes away
* `Tree.Dead` — no link on the way of a path leads anywhere

## Main results

* `locate_of_directories` — a path through directories leads to the place of its name
* `Grows.locate` — what was found is found again in a tree that has grown
* `Dead.located` — whatever is there, at the end of a path without live links, is in its own place
* `Dead.get_createDirAll`, `Dead.pathWrite` — so the calls act on the places that are named
-/

set_option autoImplicit false

namespace Files

variable {α : Type}

/-- What is on the way to a place is on the way to the directory that it is in. -/
theorem prefix_dropLast {p q : Path} (h : q <+: p) (hne : q ≠ p) : q <+: p.dropLast := by
  rcases List.eq_nil_or_concat p with rfl | ⟨init, last, rfl⟩
  · exact h
  · rw [List.concat_eq_append] at h hne
    rw [List.concat_eq_append, List.dropLast_concat]
    exact (List.prefix_concat_iff.mp h).resolve_left hne

/-- Where a step leads to from a directory. -/
def Step.go (p : Path) : Step → Path
  | down name => p ++ [name]
  | up => p.dropLast

namespace Tree

section Locate

variable (t : Tree α)

/-- Go on from a place; `jump` starts again from the root with the way of a link. -/
def walk (follow : Bool) (jump : List Step → Except Failure Path) :
    Path → List Step → Except Failure Path
  | place, [] =>
    match t.get place with
    | some (.link (.inside way)) => if follow then jump way else .ok place
    | _ => .ok place
  | place, step :: steps =>
    match t.get place with
    | some .directory => walk follow jump (step.go place) steps
    | some (.link (.inside way)) => jump (way ++ step :: steps)
    | none | some (.link (.nothing _)) | some (.link .directory) => .error .notFound
    | some (.file _) | some (.link .file) | some .special => .error .notADirectory

/-- Follow these steps from the root, through so many links at most. -/
def resolve (follow : Bool) : ℕ → List Step → Except Failure Path
  | 0 => t.walk follow (fun _ => .error .tooManyLinks) []
  | links + 1 => t.walk follow (resolve follow links) []

/-- The place that a path leads to, through a link at its end or not. -/
def locate (follow : Bool) (p : Path) : Except Failure Path :=
  t.resolve follow 40 (p.map .down)

end Locate

section Calls

variable (t : Tree α) (p : Path)

def pathExists : Bool :=
  match t.locate true p with
  | .ok place => t.isThere place
  | .error _ => false

def pathIsDir : Bool :=
  match t.locate true p with
  | .ok place => t.isDirectory place
  | .error _ => false

/-- What is there, not through a link at the end. -/
def pathGet : Option (Node α) :=
  match t.locate false p with
  | .ok place => t.get place
  | .error _ => none

def pathMkdir : Except Failure (Tree α) :=
  match t.locate false p with
  | .error failure => .error failure
  | .ok place =>
    match t.get place with
    | none => .ok (t.put place .directory)
    | some _ => .error .alreadyExists

/-- Make a directory, or find one. -/
def pathEnsureDir : Except Failure (Tree α) :=
  match t.pathMkdir p with
  | .ok t' => .ok t'
  | .error failure => if t.pathIsDir p then .ok t else .error failure

/-- Make a directory; when that misses another one, this is made first. The names are those of the
path from its end. -/
def pathMakeUp (t : Tree α) : List String → Except Failure (Tree α)
  | [] => t.pathEnsureDir []
  | name :: names =>
    match t.pathMkdir (names.reverse ++ [name]) with
    | .error .notFound =>
      match pathMakeUp t names with
      | .error failure => .error failure
      | .ok t' => t'.pathEnsureDir (names.reverse ++ [name])
    | _ => t.pathEnsureDir (names.reverse ++ [name])

def pathCreateDirAll : Except Failure (Tree α) := t.pathMakeUp p.reverse

def pathWrite (contents : List α) : Except Failure (Tree α) :=
  match t.locate true p with
  | .error failure => .error failure
  | .ok place => t.write place contents

def pathRemoveFile : Except Failure (Tree α) :=
  match t.locate false p with
  | .error failure => .error failure
  | .ok place => t.removeFile place

def pathRemoveDir : Except Failure (Tree α) :=
  match t.locate false p with
  | .error failure => .error failure
  | .ok place => t.removeDir place

end Calls

/-- What can be seen in `t` can be seen in `t'`, and the links are the same, but for those to files
outside. -/
structure Grows (t t' : Tree α) : Prop where
  directory : ∀ q, t.get q = some .directory → t'.get q = some .directory
  inside : ∀ q way, t.get q = some (.link (.inside way)) → t'.get q = some (.link (.inside way))
  outside : ∀ q, t.get q = some (.link .directory) → t'.get q = some (.link .directory)
  there : ∀ q, t.isThere q = true → t'.isThere q = true
  link : ∀ q target, t'.get q = some (.link target) → target ≠ .file → t.get q = some (.link target)

/-- No link on the way, or at the end, leads on: none to a directory outside, and none into the tree
to where something is. -/
def Dead (t : Tree α) (p : Path) : Prop :=
  ∀ q, q <+: p → t.get q ≠ some (.link .directory) ∧
    ∀ way, t.get q = some (.link (.inside way)) → t.pathExists q = false

section Locate

variable {t t' : Tree α} {p q place : Path} {name : String} {follow : Bool}
  {jump jump' : List Step → Except Failure Path}

theorem isThere_of_directory (h : t.get p = some .directory) : t.isThere p = true := by
  rw [isThere, h]

theorem not_inside_of_isThere (h : t.isThere p = true) (way : List Step) :
    t.get p ≠ some (.link (.inside way)) := by
  intro hlink
  rw [isThere, hlink] at h
  cases h

/-- The walk ends at a place that is no link into the tree. -/
theorem walk_nil (hplain : follow = true → ∀ way, t.get p ≠ some (.link (.inside way))) :
    t.walk follow jump p [] = .ok p := by
  rw [walk]
  split
  · rename_i way hlink
    cases follow with
    | false => rfl
    | true => exact absurd hlink (hplain rfl way)
  · rfl

theorem walk_down (h : t.get p = some .directory) {steps : List Step} :
    t.walk follow jump p (.down name :: steps) = t.walk follow jump (p ++ [name]) steps := by
  rw [walk, h]
  rfl

theorem walk_of_directories {rest : Path}
    (hway : ∀ q, p <+: q → q <+: p ++ rest → q ≠ p ++ rest → t.get q = some .directory)
    (hplain : follow = true → ∀ way, t.get (p ++ rest) ≠ some (.link (.inside way))) :
    t.walk follow jump p (rest.map .down) = .ok (p ++ rest) := by
  induction rest generalizing p with
  | nil =>
    rw [List.append_nil] at hplain ⊢
    exact walk_nil hplain
  | cons name rest ih =>
    have hsplit : p ++ name :: rest = (p ++ [name]) ++ rest := by simp
    have hhere := hway p (List.prefix_refl _) (List.prefix_append _ _) (by simp)
    rw [List.map_cons, walk_down hhere, hsplit]
    rw [hsplit] at hway hplain
    exact ih (fun q hq => hway q ((List.prefix_append _ _).trans hq)) hplain

/-- A path through directories leads to the place of its name. -/
theorem locate_of_directories (hway : ∀ q, q <+: p → q ≠ p → t.get q = some .directory)
    (hplain : follow = true → ∀ way, t.get p ≠ some (.link (.inside way))) :
    t.locate follow p = .ok p :=
  walk_of_directories (p := []) (fun q _ => hway q) hplain

/-- A path that goes on after a place where there is nothing leads nowhere. -/
theorem walk_of_missing {rest : Path}
    (hway : ∀ q, p <+: q → q <+: p ++ rest → t.get q = none ∨ t.get q = some .directory)
    (hmissing : t.get (p ++ rest) = none) :
    t.walk follow jump p ((rest ++ [name]).map .down) = .error .notFound := by
  induction rest generalizing p with
  | nil =>
    rw [List.append_nil] at hmissing
    rw [List.nil_append, List.map_singleton, walk, hmissing]
  | cons name' rest ih =>
    have hsplit : p ++ name' :: rest = (p ++ [name']) ++ rest := by simp
    rw [List.cons_append, List.map_cons]
    rcases hway p (List.prefix_refl _) (List.prefix_append _ _) with hnone | hdirectory
    · rw [walk, hnone]
    · rw [walk_down hdirectory]
      rw [hsplit] at hway hmissing
      exact ih (fun q hq => hway q ((List.prefix_append _ _).trans hq)) hmissing

theorem locate_of_missing (hway : ∀ q, q <+: p → t.get q = none ∨ t.get q = some .directory)
    (hmissing : t.get p = none) : t.locate follow (p ++ [name]) = .error .notFound :=
  walk_of_missing (p := []) (fun q _ => hway q) hmissing

/-- A longer path leads through a directory. -/
theorem walk_append {s₁ s₂ : List Step} (hne : s₂ ≠ [])
    (hjump : ∀ way, jump (way ++ s₂) = .ok place → ∃ d, jump' way = .ok d ∧
      t.get d = some .directory ∧ (follow = false → s₂ = [.down name] → place = d ++ [name]))
    (h : t.walk follow jump p (s₁ ++ s₂) = .ok place) :
    ∃ d, t.walk true jump' p s₁ = .ok d ∧ t.get d = some .directory ∧
      (follow = false → s₂ = [.down name] → place = d ++ [name]) := by
  induction s₁ generalizing p with
  | nil =>
    obtain ⟨step, steps, rfl⟩ := List.exists_cons_of_ne_nil hne
    rw [List.nil_append, walk] at h
    split at h
    · rename_i hdirectory
      refine ⟨p, walk_nil fun _ way hlink => ?_, hdirectory, fun hfollow hlast => ?_⟩
      · cases hdirectory.symm.trans hlink
      · obtain ⟨rfl, rfl⟩ := List.cons.inj hlast
        rw [walk_nil fun htrue => by simp [hfollow] at htrue] at h
        exact (Except.ok.inj h).symm
    · rename_i way hlink
      rw [walk, hlink]
      exact hjump way h
    all_goals cases h
  | cons step steps ih =>
    rw [List.cons_append, walk] at h
    rw [walk]
    split at h
    · exact ih h
    · apply hjump
      rwa [List.append_assoc, List.cons_append]
    all_goals cases h

theorem resolve_append {s₁ s₂ : List Step} {links : ℕ} (name : String) (hne : s₂ ≠ [])
    (h : t.resolve follow links (s₁ ++ s₂) = .ok place) :
    ∃ d, t.resolve true links s₁ = .ok d ∧ t.get d = some .directory ∧
      (follow = false → s₂ = [.down name] → place = d ++ [name]) := by
  induction links generalizing s₁ with
  | zero => exact walk_append hne (fun way hjump => by cases hjump) h
  | succ links ih => exact walk_append hne (fun way hjump => ih hjump) h

/-- A path leads through directories, links on the way or not. -/
theorem locate_append {rest : Path} (hne : rest ≠ [])
    (h : t.locate follow (p ++ rest) = .ok place) :
    ∃ d, t.locate true p = .ok d ∧ t.get d = some .directory := by
  rw [locate, List.map_append] at h
  obtain ⟨d, hd, hdirectory, -⟩ := resolve_append "" (by simpa using hne) h
  exact ⟨d, hd, hdirectory⟩

/-- What is found in a directory is found by way of it. -/
theorem locate_concat (h : t.locate follow (p ++ [name]) = .ok place) :
    ∃ d, t.locate true p = .ok d ∧ t.get d = some .directory ∧
      (follow = false → place = d ++ [name]) := by
  rw [locate, List.map_append] at h
  obtain ⟨d, hd, hdirectory, hlast⟩ := resolve_append name (by simp) h
  exact ⟨d, hd, hdirectory, fun hfollow => hlast hfollow rfl⟩

/-- A step from a directory leads into one, or to the root. -/
theorem Closed.get_go (h : t.Closed) {step : Step} (hp : t.get p = some .directory)
    (hne : step.go p ≠ []) : t.get (step.go p).dropLast = some .directory := by
  cases step with
  | down name =>
    rw [Step.go, List.dropLast_concat]
    exact hp
  | up =>
    have hthere : t.get p ≠ none := by simp [hp]
    have hprefix : p.dropLast.dropLast <+: p :=
      (List.dropLast_prefix _).trans (List.dropLast_prefix _)
    refine h.get_prefix hthere hprefix fun heq => ?_
    have hlength := congrArg List.length heq
    rw [List.length_dropLast, Step.go, List.length_dropLast] at hlength
    have hpos : 0 < p.dropLast.length := List.length_pos_iff.mpr hne
    rw [List.length_dropLast] at hpos
    omega

/-- What a walk ends at is in a directory, unless it is the root, and is not a link that was to be
followed. -/
theorem walk_ok (hclosed : t.Closed) {steps : List Step}
    (hjump : ∀ way, jump way = .ok place → (place ≠ [] → t.get place.dropLast = some .directory) ∧
      (follow = true → ∀ way, t.get place ≠ some (.link (.inside way))))
    (hp : p ≠ [] → t.get p.dropLast = some .directory)
    (h : t.walk follow jump p steps = .ok place) :
    (place ≠ [] → t.get place.dropLast = some .directory) ∧
      (follow = true → ∀ way, t.get place ≠ some (.link (.inside way))) := by
  induction steps generalizing p with
  | nil =>
    rw [walk] at h
    split at h
    · split at h
      · exact hjump _ h
      · rename_i hfollow
        obtain rfl := Except.ok.inj h
        exact ⟨hp, fun htrue => absurd htrue hfollow⟩
    · rename_i hplain
      obtain rfl := Except.ok.inj h
      exact ⟨hp, fun _ => hplain⟩
  | cons step steps ih =>
    rw [walk] at h
    split at h
    · rename_i hdirectory
      exact ih (hclosed.get_go hdirectory) h
    · exact hjump _ h
    all_goals cases h

theorem locate_ok (hclosed : t.Closed) (h : t.locate follow p = .ok place) :
    (place ≠ [] → t.get place.dropLast = some .directory) ∧
      (follow = true → ∀ way, t.get place ≠ some (.link (.inside way))) := by
  have hresolve (links : ℕ) (steps : List Step) (h : t.resolve follow links steps = .ok place) :
      (place ≠ [] → t.get place.dropLast = some .directory) ∧
        (follow = true → ∀ way, t.get place ≠ some (.link (.inside way))) := by
    induction links generalizing steps with
    | zero => exact walk_ok hclosed (fun way hjump => by cases hjump) (fun hne => absurd rfl hne) h
    | succ links ih => exact walk_ok hclosed (fun way => ih way) (fun hne => absurd rfl hne) h
  exact hresolve 40 _ h

end Locate

section Grows

variable {t t' t₁ t₂ t₃ : Tree α} {p q place : Path} {node : Node α} {contents : List α}
  {name : String} {follow : Bool}

theorem Grows.refl (t : Tree α) : t.Grows t :=
  ⟨fun _ => id, fun _ _ => id, fun _ => id, fun _ => id, fun _ _ h _ => h⟩

theorem Grows.trans (h : t₁.Grows t₂) (h' : t₂.Grows t₃) : t₁.Grows t₃ where
  directory q hq := h'.directory q (h.directory q hq)
  inside q way hq := h'.inside q way (h.inside q way hq)
  outside q hq := h'.outside q (h.outside q hq)
  there q hq := h'.there q (h.there q hq)
  link q target hq hne := h.link q target (h'.link q target hq hne) hne

/-- It is enough to look at the places that have changed. -/
theorem Grows.of_changed (hlink : ∀ q target, t'.get q = some (.link target) → target ≠ .file →
      t.get q = some (.link target))
    (h : ∀ q, t'.get q = t.get q ∨ t.get q = none ∨
      (t'.isThere q = true ∧ t.get q ≠ some .directory ∧ t.get q ≠ some (.link .directory) ∧
        ∀ way, t.get q ≠ some (.link (.inside way)))) : t.Grows t' := by
  refine ⟨?_, ?_, ?_, ?_, hlink⟩
  · intro q hq
    rcases h q with hsame | hnone | ⟨-, hnot, -⟩
    · exact hsame.trans hq
    · cases hnone.symm.trans hq
    · exact absurd hq hnot
  · intro q way hq
    rcases h q with hsame | hnone | ⟨-, -, -, hnot⟩
    · exact hsame.trans hq
    · cases hnone.symm.trans hq
    · exact absurd hq (hnot way)
  · intro q hq
    rcases h q with hsame | hnone | ⟨-, -, hnot, -⟩
    · exact hsame.trans hq
    · cases hnone.symm.trans hq
    · exact absurd hq hnot
  · intro q hq
    rcases h q with hsame | hnone | ⟨hthere, -⟩
    · rwa [isThere, hsame]
    · rw [isThere, hnone] at hq
      cases hq
    · exact hthere

theorem Grows.walk {jump jump' : List Step → Except Failure Path} (h : t.Grows t')
    (hjump : ∀ steps, jump steps = .ok place → jump' steps = .ok place)
    (hthere : t'.isThere place = true) {steps : List Step}
    (hwalk : t.walk follow jump p steps = .ok place) :
    t'.walk true jump' p steps = .ok place := by
  induction steps generalizing p with
  | nil =>
    rw [Tree.walk] at hwalk
    split at hwalk
    · rename_i way hlink
      have hlink' := h.inside p way hlink
      split at hwalk
      · rw [Tree.walk, hlink']
        exact hjump way hwalk
      · obtain rfl := Except.ok.inj hwalk
        exact absurd hlink' (not_inside_of_isThere hthere way)
    · obtain rfl := Except.ok.inj hwalk
      exact walk_nil fun _ => not_inside_of_isThere hthere
  | cons step steps ih =>
    rw [Tree.walk] at hwalk
    split at hwalk
    · rename_i hdirectory
      rw [Tree.walk, h.directory p hdirectory]
      exact ih hwalk
    · rename_i way hlink
      rw [Tree.walk, h.inside p way hlink]
      exact hjump _ hwalk
    all_goals cases hwalk

/-- What was found is found again, when there is something now. -/
theorem Grows.locate (h : t.Grows t') (hlocate : t.locate follow p = .ok place)
    (hthere : t'.isThere place = true) : t'.locate true p = .ok place := by
  have hresolve (links : ℕ) (steps : List Step)
      (hsteps : t.resolve follow links steps = .ok place) :
      t'.resolve true links steps = .ok place := by
    induction links generalizing steps with
    | zero => exact h.walk (fun _ => id) hthere hsteps
    | succ links ih => exact h.walk ih hthere hsteps
  exact hresolve 40 _ hlocate

theorem pathExists_iff :
    t.pathExists p = true ↔ ∃ place, t.locate true p = .ok place ∧ t.isThere place = true := by
  rw [pathExists]
  split
  · rename_i place hlocate
    rw [hlocate]
    exact ⟨fun hthere => ⟨place, rfl, hthere⟩, fun ⟨_, heq, hthere⟩ => Except.ok.inj heq ▸ hthere⟩
  · rename_i failure hlocate
    rw [hlocate]
    exact ⟨fun hfalse => by simp at hfalse, fun ⟨_, heq, _⟩ => nomatch heq⟩

theorem isDirectory_iff :
    t.isDirectory p = true ↔ t.get p = some .directory ∨ t.get p = some (.link .directory) := by
  rw [isDirectory]
  split <;> simp_all

theorem pathIsDir_iff :
    t.pathIsDir p = true ↔ ∃ place, t.locate true p = .ok place ∧ t.isDirectory place = true := by
  rw [pathIsDir]
  split
  · rename_i place hlocate
    rw [hlocate]
    exact ⟨fun hdir => ⟨place, rfl, hdir⟩, fun ⟨_, heq, hdir⟩ => Except.ok.inj heq ▸ hdir⟩
  · rename_i failure hlocate
    rw [hlocate]
    exact ⟨fun hfalse => by simp at hfalse, fun ⟨_, heq, _⟩ => nomatch heq⟩

theorem isThere_of_isDirectory (h : t.isDirectory p = true) : t.isThere p = true := by
  rcases isDirectory_iff.mp h with hnode | hnode
  all_goals rw [isThere, hnode]

theorem pathExists_of_pathIsDir (h : t.pathIsDir p = true) : t.pathExists p = true := by
  obtain ⟨place, hlocate, hdirectory⟩ := pathIsDir_iff.mp h
  exact pathExists_iff.mpr ⟨place, hlocate, isThere_of_isDirectory hdirectory⟩

/-- What is below directories is in its own place. -/
theorem Closed.locate (h : t.Closed) (hp : t.get p ≠ none) {follow : Bool}
    (hplain : ∀ way, t.get p ≠ some (.link (.inside way))) : t.locate follow p = .ok p :=
  locate_of_directories (fun _ hq hne => h.get_prefix hp hq hne) fun _ => hplain

theorem Closed.locate_of_get (h : t.Closed) (hp : t.get p = some node)
    (hplain : ∀ way, node ≠ .link (.inside way)) : t.locate follow p = .ok p :=
  h.locate (by rw [hp]; simp) fun way hlink => hplain way (Option.some.inj (hp.symm.trans hlink))

theorem Closed.pathExists (h : t.Closed) (hp : t.isThere p = true) : t.pathExists p = true := by
  have hne : t.get p ≠ none := fun hnone => by simp [isThere, hnone] at hp
  exact pathExists_iff.mpr ⟨p, h.locate hne (not_inside_of_isThere hp), hp⟩

theorem Closed.pathIsDir (h : t.Closed) (hp : t.isDirectory p = true) : t.pathIsDir p = true := by
  have hthere := isThere_of_isDirectory hp
  have hne : t.get p ≠ none := fun hnone => by simp [isThere, hnone] at hthere
  exact pathIsDir_iff.mpr ⟨p, h.locate hne (not_inside_of_isThere hthere), hp⟩

theorem Grows.pathExists (h : t.Grows t') (hp : t.pathExists p = true) :
    t'.pathExists p = true := by
  obtain ⟨place, hlocate, hthere⟩ := pathExists_iff.mp hp
  exact pathExists_iff.mpr ⟨place, h.locate hlocate (h.there _ hthere), h.there _ hthere⟩

theorem Grows.pathIsDir (h : t.Grows t') (hp : t.pathIsDir p = true) : t'.pathIsDir p = true := by
  obtain ⟨place, hlocate, hnode⟩ := pathIsDir_iff.mp hp
  have hdirectory : t'.isDirectory place = true :=
    isDirectory_iff.mpr ((isDirectory_iff.mp hnode).imp (h.directory _) (h.outside _))
  exact pathIsDir_iff.mpr
    ⟨place, h.locate hlocate (isThere_of_isDirectory hdirectory), hdirectory⟩

/-- A directory that goes away leaves everything else as it was. -/
theorem grows_erase (h : t.get p = some .directory) : (t.erase p).Grows t := by
  refine .of_changed (fun q target hlink _ => ?_) fun q => ?_
  · rwa [get_erase_of_ne]
    rintro rfl
    cases h.symm.trans hlink
  · by_cases heq : q = p
    · exact .inr (.inl (by rw [heq, get_erase_self]))
    · exact .inl (get_erase_of_ne heq).symm

end Grows

section Dead

variable {t t' : Tree α} {p q place : Path} {contents : List α} {name : String} {follow : Bool}

theorem Dead.of_prefix (h : t.Dead p) (hq : q <+: p) : t.Dead q :=
  fun r hr => h r (hr.trans hq)

/-- Links that do not lead on have not done so before. -/
theorem Dead.of_grows (h : t'.Dead p) (hgrows : t.Grows t') : t.Dead p := by
  refine fun q hq => ⟨fun hlink => (h q hq).1 (hgrows.outside q hlink), fun way hlink => ?_⟩
  by_contra hexists
  have hnot := (h q hq).2 way (hgrows.inside q way hlink)
  rw [hgrows.pathExists (by simpa using hexists)] at hnot
  cases hnot

/-- It is enough to look at the way and at the end. -/
theorem Dead.of_dropLast (h : t.Dead p.dropLast) (houtside : t.get p ≠ some (.link .directory))
    (hinside : ∀ way, t.get p = some (.link (.inside way)) → t.pathExists p = false) :
    t.Dead p := by
  intro q hq
  by_cases heq : q = p
  · exact heq ▸ ⟨houtside, hinside⟩
  · exact h q (prefix_dropLast hq heq)

/-- Whatever is there, at the end of such a path, is in its own place. -/
theorem Dead.located (hclosed : t.Closed) (h : t.Dead p) (hlocate : t.locate true p = .ok place)
    (hthere : t.isThere place = true) : place = p := by
  have hplain : ∀ way, t.get p ≠ some (.link (.inside way)) := by
    intro way hlink
    have hnot := (h p (List.prefix_refl _)).2 way hlink
    rw [pathExists_iff.mpr ⟨place, hlocate, hthere⟩] at hnot
    cases hnot
  induction p using List.reverseRecOn generalizing place with
  | nil =>
    have hroot : t.locate true [] = .ok [] :=
      locate_of_directories (fun q hq hne => absurd (List.prefix_nil.mp hq) hne) fun _ => hplain
    exact Except.ok.inj (hlocate.symm.trans hroot)
  | append_singleton p name ih =>
    obtain ⟨d, hd, hdirectory, -⟩ := locate_concat hlocate
    have hdead := h.of_prefix (List.prefix_append p [name])
    have hplace : d = p := by
      refine ih hdead hd (isThere_of_directory hdirectory) fun way hlink => ?_
      have hnot := (hdead p (List.prefix_refl _)).2 way hlink
      rw [pathExists_iff.mpr ⟨d, hd, isThere_of_directory hdirectory⟩] at hnot
      cases hnot
    -- The path leads through directories, so it leads to its own place.
    have hown : t.locate true (p ++ [name]) = .ok (p ++ [name]) := by
      refine locate_of_directories (fun q hq hne => ?_) fun _ => hplain
      have hq := (List.prefix_concat_iff.mp hq).resolve_left hne
      by_cases heq : q = p
      · rw [heq, ← hplace, hdirectory]
      · have hp : t.get p ≠ none := by rw [← hplace, hdirectory]; simp
        exact hclosed.get_prefix hp hq heq
    exact Except.ok.inj (hlocate.symm.trans hown)

/-- What a program sees under such a path is what is in the place of its name. -/
theorem Dead.pathExists (hclosed : t.Closed) (h : t.Dead p) : t.pathExists p = t.isThere p := by
  apply Bool.eq_iff_iff.mpr
  constructor
  · intro hexists
    obtain ⟨place, hlocate, hthere⟩ := pathExists_iff.mp hexists
    exact h.located hclosed hlocate hthere ▸ hthere
  · exact hclosed.pathExists

theorem Dead.pathIsDir (hclosed : t.Closed) (h : t.Dead p) : t.pathIsDir p = t.isDirectory p := by
  apply Bool.eq_iff_iff.mpr
  constructor
  · intro hdirectory
    obtain ⟨place, hlocate, hnode⟩ := pathIsDir_iff.mp hdirectory
    exact h.located hclosed hlocate (isThere_of_isDirectory hnode) ▸ hnode
  · exact hclosed.pathIsDir

end Dead

section CreateDirAll

variable {t t' t₁ : Tree α} {p q place : Path} {names : List String} {name : String}

/-- Some directories were made where nothing was. -/
def Made (t t' : Tree α) : Prop :=
  ∀ q, t'.get q = t.get q ∨ (t.get q = none ∧ t'.get q = some .directory)

theorem Made.trans {t₂ : Tree α} (h : t.Made t₁) (h' : t₁.Made t₂) : t.Made t₂ := by
  intro q
  rcases h q with hsame | ⟨hnone, hmade⟩
  · rw [← hsame]
    exact h' q
  · rcases h' q with hsame' | ⟨hnone', -⟩
    · exact .inr ⟨hnone, hsame'.trans hmade⟩
    · cases hnone'.symm.trans hmade

theorem Made.grows (h : t.Made t') : t.Grows t' := by
  refine .of_changed (fun q target hlink _ => ?_) fun q => (h q).imp_right fun hmade => .inl hmade.1
  rcases h q with hsame | ⟨-, hmade⟩
  · rw [← hsame, hlink]
  · cases hmade.symm.trans hlink

theorem pathMkdir_ok (h : t.pathMkdir p = .ok t') : ∃ place, t.locate false p = .ok place ∧
    t.get place = none ∧ t' = t.put place .directory := by
  rw [pathMkdir] at h
  split at h
  · cases h
  · rename_i place hlocate
    split at h
    · rename_i hnone
      exact ⟨place, hlocate, hnone, (Except.ok.inj h).symm⟩
    · cases h

theorem made_put (hnone : t.get p = none) : t.Made (t.put p .directory) := by
  intro q
  rw [get_put]
  split
  · rename_i heq
    exact .inr ⟨heq ▸ hnone, rfl⟩
  · exact .inl rfl

theorem pathEnsureDir_ok (h : t.pathEnsureDir p = .ok t') :
    t.pathMkdir p = .ok t' ∨ (t' = t ∧ t.pathIsDir p = true) := by
  rw [pathEnsureDir] at h
  split at h
  · rename_i t₁ hmade
    exact .inl (hmade.trans h)
  · split at h
    · rename_i hdirectory
      exact .inr ⟨(Except.ok.inj h).symm, hdirectory⟩
    · cases h

theorem pathEnsureDir_made (h : t.pathEnsureDir p = .ok t') :
    t.Made t' ∧ (t.Closed → t'.Closed) := by
  rcases pathEnsureDir_ok h with hmkdir | ⟨rfl, -⟩
  · obtain ⟨place, hlocate, hnone, rfl⟩ := pathMkdir_ok hmkdir
    refine ⟨made_put hnone, fun hclosed => ?_⟩
    obtain ⟨hparent, -⟩ := locate_ok hclosed hlocate
    apply hclosed.of_grows
    · intro q hq
      rw [get_put_of_ne (fun heq => ?_), hq]
      rw [heq, hnone] at hq
      cases hq
    · intro q name hold hnew
      have heq : q ++ [name] = place := by
        by_contra hne
        exact hnew ((get_put_of_ne hne).trans hold)
      subst heq
      have hq := hparent (by simp)
      rw [List.dropLast_concat] at hq
      rw [get_put_of_ne (by simp), hq]
  · exact ⟨fun _ => .inl rfl, id⟩

/-- The parent is made first if it is missing. -/
theorem pathMakeUp_cons (h : t.pathMakeUp (name :: names) = .ok t') :
    t.pathEnsureDir (names.reverse ++ [name]) = .ok t' ∨
      ∃ t₁, t.pathMakeUp names = .ok t₁ ∧ t₁.pathEnsureDir (names.reverse ++ [name]) = .ok t' := by
  rw [pathMakeUp] at h
  split at h
  · split at h
    · cases h
    · rename_i t₁ hmade
      exact .inr ⟨t₁, hmade, h⟩
  · exact .inl h

theorem pathMakeUp_made (h : t.pathMakeUp names = .ok t') : t.Made t' ∧ (t.Closed → t'.Closed) := by
  induction names generalizing t' with
  | nil => exact pathEnsureDir_made h
  | cons name names ih =>
    rcases pathMakeUp_cons h with hensured | ⟨t₁, hmade, hensured⟩
    · exact pathEnsureDir_made hensured
    · obtain ⟨hfirst, hclosed⟩ := ih hmade
      obtain ⟨hlast, hclosed'⟩ := pathEnsureDir_made hensured
      exact ⟨hfirst.trans hlast, fun h => hclosed' (hclosed h)⟩

theorem pathCreateDirAll_made (h : t.pathCreateDirAll p = .ok t') : t.Made t' :=
  (pathMakeUp_made h).1

theorem Closed.pathCreateDirAll (h : t.Closed) (hmade : t.pathCreateDirAll p = .ok t') :
    t'.Closed :=
  (pathMakeUp_made hmade).2 h

/-- Without live links a directory is made, or found, in the place of its name. -/
theorem Dead.get_ensureDir (hclosed : t.Closed) (h : t.pathEnsureDir p = .ok t')
    (hdead : t'.Dead p) :
    (∀ q, t'.get q = if q = p then some .directory else t.get q) ∧
      (t.get p = none ∨ t.get p = some .directory) ∧
      ∀ q, q <+: p → q ≠ p → t.get q = some .directory := by
  obtain ⟨hmade, hkept⟩ := pathEnsureDir_made h
  have hway (hp : t'.get p ≠ none) (q : Path) (hq : q <+: p) (hne : q ≠ p)
      (hsame : t'.get q = t.get q) : t.get q = some .directory := by
    rw [← hsame]
    exact Closed.get_prefix (hkept hclosed) hp hq hne
  rcases pathEnsureDir_ok h with hmkdir | ⟨rfl, hdirectory⟩
  · obtain ⟨place, hlocate, hnone, rfl⟩ := pathMkdir_ok hmkdir
    have hthere : (t.put place .directory).isThere place = true :=
      isThere_of_directory get_put_self
    -- What was made is there now, and is found under this path.
    obtain rfl := hdead.located (hkept hclosed) (hmade.grows.locate hlocate hthere) hthere
    refine ⟨fun q => get_put, .inl hnone, fun q hq hne => ?_⟩
    exact hway (by simp) q hq hne (get_put_of_ne hne)
  · obtain ⟨place, hlocate, hisDir⟩ := pathIsDir_iff.mp hdirectory
    obtain rfl := hdead.located hclosed hlocate (isThere_of_isDirectory hisDir)
    have hp : t'.get place = some .directory :=
      (isDirectory_iff.mp hisDir).resolve_right (hdead place (List.prefix_refl _)).1
    refine ⟨fun q => ?_, .inr hp, fun q hq hne => hway (by rw [hp]; simp) q hq hne rfl⟩
    split
    · rename_i heq
      rw [heq, hp]
    · rfl

/-- Without live links all the directories on the way are there afterwards, and nothing else has
changed. -/
theorem Dead.get_createDirAll (hclosed : t.Closed) (h : t.pathCreateDirAll p = .ok t')
    (hdead : t'.Dead p) :
    (∀ q, t'.get q = if q <+: p then some .directory else t.get q) ∧
      ∀ q, q <+: p → t.get q = none ∨ t.get q = some .directory := by
  -- If the directories above the last one are there, this one is the only new one.
  have hlast {t t' : Tree α} {p : Path} (hclosed : t.Closed) (h : t.pathEnsureDir p = .ok t')
      (hdead : t'.Dead p) : (∀ q, t'.get q = if q <+: p then some .directory else t.get q) ∧
        ∀ q, q <+: p → t.get q = none ∨ t.get q = some .directory := by
    obtain ⟨hget, hfree, hway⟩ := hdead.get_ensureDir hclosed h
    constructor
    · intro q
      rw [hget]
      by_cases heq : q = p
      · rw [if_pos heq, if_pos (heq ▸ List.prefix_refl _)]
      · rw [if_neg heq]
        split
        · rename_i hq
          exact hway q hq heq
        · rfl
    · intro q hq
      by_cases heq : q = p
      · exact heq ▸ hfree
      · exact .inr (hway q hq heq)
  rw [pathCreateDirAll] at h
  rw [← List.reverse_reverse p] at hdead ⊢
  generalize p.reverse = names at h hdead
  induction names generalizing t' with
  | nil => exact hlast hclosed h hdead
  | cons name names ih =>
    rw [List.reverse_cons] at hdead ⊢
    rcases pathMakeUp_cons h with hensured | ⟨t₁, hmade, hensured⟩
    · exact hlast hclosed hensured hdead
    · obtain ⟨-, hclosed₁⟩ := pathMakeUp_made hmade
      obtain ⟨hgrows, -⟩ := pathEnsureDir_made hensured
      obtain ⟨hget, hfree⟩ :=
        ih hmade ((hdead.of_prefix (List.prefix_append _ _)).of_grows hgrows.grows)
      obtain ⟨hget', hfree'⟩ := hlast (hclosed₁ hclosed) hensured hdead
      constructor
      · intro q
        rw [hget', hget]
        split
        · rfl
        · rename_i hq
          rw [if_neg fun hshort => hq (hshort.trans (List.prefix_append _ _))]
      · intro q hq
        rcases List.prefix_concat_iff.mp hq with rfl | hshort
        · have hnot : ¬ names.reverse ++ [name] <+: names.reverse :=
            fun hlong => absurd hlong.length_le (by simp)
          have hself := hfree' _ (List.prefix_refl _)
          rwa [hget, if_neg hnot] at hself
        · exact hfree q hshort

/-- Directories can be made where nothing is in the way. -/
theorem exists_pathCreateDirAll (hclosed : t.Closed)
    (h : ∀ q, q <+: p → t.get q = none ∨ t.get q = some .directory) :
    ∃ t', t.pathCreateDirAll p = .ok t' ∧
      ∀ q, t'.get q = if q <+: p then some .directory else t.get q := by
  have hlast {t : Tree α} {p : Path} (hway : ∀ q, q <+: p → q ≠ p → t.get q = some .directory)
      (hp : t.get p = none ∨ t.get p = some .directory) :
      ∃ t', t.pathEnsureDir p = .ok t' ∧
        ∀ q, t'.get q = if q = p then some .directory else t.get q := by
    have hlocate (follow : Bool) : t.locate follow p = .ok p := by
      refine locate_of_directories hway fun _ way hlink => ?_
      rcases hp with hp | hp <;> cases hp.symm.trans hlink
    rw [pathEnsureDir, pathMkdir, hlocate false]
    dsimp only
    rcases hp with hp | hp
    · exact ⟨t.put p .directory, by rw [hp], fun q => get_put⟩
    · refine ⟨t, ?_, fun q => ?_⟩
      · have hfound : t.pathIsDir p = true := by
          rw [pathIsDir, hlocate true]
          dsimp only
          rw [isDirectory, hp]
        rw [hp, hfound]
        rfl
      · split
        · rename_i heq
          rw [heq, hp]
        · rfl
  rw [pathCreateDirAll]
  rw [← List.reverse_reverse p] at h ⊢
  generalize p.reverse = names at h ⊢
  rw [List.reverse_reverse]
  induction names with
  | nil =>
    obtain ⟨t', hmade, hget⟩ := hlast (p := []) (fun q hq hne => absurd (List.prefix_nil.mp hq) hne)
      (h [] (List.nil_prefix))
    refine ⟨t', hmade, fun q => ?_⟩
    rw [hget, List.reverse_nil, if_congr List.prefix_nil rfl rfl]
  | cons name names ih =>
    rw [List.reverse_cons] at h ⊢
    have hshort (q : Path) (hq : q <+: names.reverse) : q <+: names.reverse ++ [name] :=
      hq.trans (List.prefix_append _ _)
    rw [pathMakeUp]
    rcases h names.reverse (List.prefix_append _ _) with hmissing | hdirectory
    · -- The directory above is missing, and is made first.
      obtain ⟨t₁, hmade, hget⟩ := ih fun q hq => h q (hshort q hq)
      have hnew : ¬ names.reverse ++ [name] <+: names.reverse :=
        fun hlong => absurd hlong.length_le (by simp)
      obtain ⟨t', hensured, hget'⟩ := hlast (t := t₁) (p := names.reverse ++ [name])
        (fun q hq hne => by
          rw [hget, if_pos ((List.prefix_concat_iff.mp hq).resolve_left hne)])
        (by rw [hget, if_neg hnew]; exact h _ (List.prefix_refl _))
      refine ⟨t', ?_, fun q => ?_⟩
      · rw [pathMkdir, locate_of_missing (fun q hq => h q (hshort q hq)) hmissing]
        dsimp only
        rw [hmade]
        exact hensured
      · rw [hget', hget]
        by_cases heq : q = names.reverse ++ [name]
        · rw [if_pos heq, if_pos (heq ▸ List.prefix_refl _)]
        · rw [if_neg heq]
          have hlong (hq : q <+: names.reverse ++ [name]) : q <+: names.reverse :=
            (List.prefix_concat_iff.mp hq).resolve_left heq
          exact if_congr ⟨hshort q, hlong⟩ rfl rfl
    · have hway (q : Path) (hq : q <+: names.reverse ++ [name])
          (hne : q ≠ names.reverse ++ [name]) : t.get q = some .directory := by
        have hq := (List.prefix_concat_iff.mp hq).resolve_left hne
        by_cases heq : q = names.reverse
        · rw [heq, hdirectory]
        · exact hclosed.get_prefix (by rw [hdirectory]; simp) hq heq
      obtain ⟨t', hensured, hget⟩ := hlast hway (h _ (List.prefix_refl _))
      have hfound : t.pathMkdir (names.reverse ++ [name]) ≠ .error .notFound := by
        rw [pathMkdir, locate_of_directories hway fun hfalse => by simp at hfalse]
        dsimp only
        split <;> simp
      refine ⟨t', ?_, fun q => ?_⟩
      · split
        · rename_i hmissing
          exact absurd hmissing hfound
        · exact hensured
      · rw [hget]
        by_cases heq : q = names.reverse ++ [name]
        · rw [if_pos heq, if_pos (heq ▸ List.prefix_refl _)]
        · rw [if_neg heq]
          split
          · rename_i hq
            exact hway q hq heq
          · rfl

end CreateDirAll

section Write

variable {t t' : Tree α} {p place : Path} {contents : List α}

theorem pathWrite_ok (h : t.pathWrite p contents = .ok t') :
    ∃ place, t.locate true p = .ok place ∧ t.write place contents = .ok t' := by
  rw [pathWrite] at h
  split at h
  · cases h
  · rename_i place hlocate
    exact ⟨place, hlocate, h⟩

/-- What is written is there afterwards, and nothing else has changed. -/
theorem grows_write (h : t.write p contents = .ok t') : t.Grows t' ∧ t'.isThere p = true := by
  have hplace (node : Node α) (hthere : (t.put p node).isThere p = true)
      (hdirectory : t.get p ≠ some .directory) (houtside : t.get p ≠ some (.link .directory))
      (hinside : ∀ way, t.get p ≠ some (.link (.inside way)))
      (hlink : ∀ target, node = .link target → target = .file) :
      t.Grows (t.put p node) ∧ (t.put p node).isThere p = true := by
    refine ⟨.of_changed (fun q target htarget hne => ?_) fun q => ?_, hthere⟩
    · rw [get_put] at htarget
      split at htarget
      · exact absurd (hlink target (Option.some.inj htarget)) hne
      · exact htarget
    · by_cases heq : q = p
      · subst heq
        exact .inr (.inr ⟨hthere, hdirectory, houtside, hinside⟩)
      · exact .inl (get_put_of_ne heq)
  rw [write] at h
  split at h
  · rename_i hnode
    split at h
    · obtain rfl := Except.ok.inj h
      refine hplace _ ?_ ?_ ?_ ?_ ?_ <;> simp [hnode, isThere]
    · cases h
  · rename_i hnode
    obtain rfl := Except.ok.inj h
    refine hplace _ ?_ ?_ ?_ ?_ ?_ <;> simp [hnode, isThere]
  · cases h
  · cases h
  · rename_i hnode
    obtain rfl := Except.ok.inj h
    exact ⟨.refl t, by rw [isThere, hnode]⟩
  · rename_i hnode
    obtain rfl := Except.ok.inj h
    exact ⟨.refl t, by rw [isThere, hnode]⟩
  · rename_i hnode
    obtain rfl := Except.ok.inj h
    refine hplace _ ?_ ?_ ?_ ?_ ?_ <;> simp [hnode, isThere]
  · cases h
  · cases h

theorem grows_pathWrite (h : t.pathWrite p contents = .ok t') : t.Grows t' := by
  obtain ⟨place, -, hwritten⟩ := pathWrite_ok h
  exact (grows_write hwritten).1

theorem Closed.pathWrite (h : t.Closed) (hwritten : t.pathWrite p contents = .ok t') :
    t'.Closed := by
  obtain ⟨place, -, hwritten⟩ := pathWrite_ok hwritten
  exact h.write hwritten

/-- Without live links a file is written in the place of its name. -/
theorem Dead.pathWrite (hclosed : t.Closed) (h : t.pathWrite p contents = .ok t')
    (hdead : t'.Dead p) : t.write p contents = .ok t' := by
  obtain ⟨place, hlocate, hwritten⟩ := pathWrite_ok h
  obtain ⟨hgrows, hthere⟩ := grows_write hwritten
  obtain rfl := hdead.located (hclosed.pathWrite h) (hgrows.locate hlocate hthere) hthere
  exact hwritten

/-- Only what was there is gone afterwards. -/
theorem get_pathRemoveDir (h : t.pathRemoveDir p = .ok t') (q : Path) :
    t'.get q = t.get q ∨ t'.get q = none := by
  rw [pathRemoveDir] at h
  split at h
  · cases h
  · rename_i place hlocate
    rw [removeDir] at h
    split at h
    · cases h
    · split at h
      · cases h
      · obtain rfl := Except.ok.inj h
        rw [get_erase]
        split
        · exact .inr rfl
        · exact .inl rfl
    · cases h

theorem pathRemoveFile_ok (h : t.pathRemoveFile p = .ok t') :
    ∃ place, t.locate false p = .ok place ∧ t.removeFile place = .ok t' := by
  rw [pathRemoveFile] at h
  split at h
  · cases h
  · rename_i place hlocate
    exact ⟨place, hlocate, h⟩

/-- An empty directory can go. -/
theorem Closed.erase (h : t.Closed) (hempty : t.hasChild p = false) : (t.erase p).Closed := by
  intro q name hq
  rw [get_erase] at hq ⊢
  split at hq
  · exact absurd rfl hq
  · have hparent := h q name hq
    rw [if_neg, hparent]
    rintro rfl
    rw [hasChild_iff.mpr ⟨name, hq⟩] at hempty
    cases hempty

theorem Closed.removeFile (h : t.Closed) (hremoved : t.removeFile p = .ok t') : t'.Closed := by
  obtain ⟨hget, hne⟩ := get_removeFile hremoved
  intro q name hq
  rw [hget] at hq ⊢
  split at hq
  · exact absurd rfl hq
  · have hparent := h q name hq
    rw [if_neg fun heq : q = p => hne (heq ▸ hparent), hparent]

end Write

end Tree

end Files
