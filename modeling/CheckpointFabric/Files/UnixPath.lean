import Mathlib.Data.List.Infix
import Mathlib.Data.Nat.Notation

/-!
# Paths on Unix

A path is a text. What it names is read off its components: the root, the current directory at the
front of a relative path, the parent directory, and names. Repeated and trailing slashes do not
count, and neither does the current directory further back. Nothing is looked up: a parent directory
stays as it is.

## Main definitions

* `Component`, `components` — what a path consists of
* `join`, `stripPrefix`, `parent` — a path below another one, and back
* `IsName` — the text is one name

## Main results

* `components_join` — a relative path that is joined to another one comes behind it
* `components_join_name` — a name that is joined to a path is a child of it
-/

set_option autoImplicit false

namespace Files

inductive Component
  | rootDir
  | curDir
  | parentDir
  | normal (name : String)
  deriving DecidableEq, Repr

/-- What is between the slashes of a path. -/
def pathSegments (path : String) : List String := (path.toList.splitOn '/').map String.ofList

/-- What stands between two slashes, if it counts. -/
def componentOf (segment : String) : Option Component :=
  if segment = "" ∨ segment = "." then none
  else if segment = ".." then some .parentDir
  else some (.normal segment)

def hasRoot (path : String) : Bool := path.toList.head? = some '/'

/-- The component that only the front of a path can have. -/
def frontOf (path : String) : List Component :=
  if hasRoot path then [.rootDir]
  else if (pathSegments path).head? = some "." then [.curDir]
  else []

def components (path : String) : List Component :=
  frontOf path ++ (pathSegments path).filterMap componentOf

/-- A path with a root stays as it is. -/
def join (base rel : String) : String :=
  if hasRoot rel then rel
  else if base = "" ∨ base.toList.getLast? = some '/' then base ++ rel
  else base ++ "/" ++ rel

/-- The components that are left of a path below another one. -/
def stripPrefix (path base : String) : Option (List Component) :=
  if components base <+: components path then
    some ((components path).drop (components base).length)
  else none

/-- The components of what a path is in. -/
def parent (path : String) : Option (List Component) :=
  match (components path).getLast? with
  | none | some .rootDir => none
  | some _ => some (components path).dropLast

/-- The text is one name. -/
structure IsName (name : String) : Prop where
  ne_empty : name ≠ ""
  ne_current : name ≠ "."
  ne_parent : name ≠ ".."
  slash : '/' ∉ name.toList

section Segments

variable {path base rel name : String}

theorem pathSegments_ne_nil : pathSegments path ≠ [] := by
  simp [pathSegments, List.splitOn_ne_nil]

theorem pathSegments_append_slash :
    pathSegments (base ++ "/" ++ rel) = pathSegments base ++ pathSegments rel := by
  have hlist : (base ++ "/" ++ rel).toList = base.toList ++ '/' :: rel.toList := by simp
  rw [pathSegments, hlist, List.splitOn_append_cons_self, List.map_append]
  rfl

/-- What is behind a slash at the end does not count. -/
theorem componentOf_empty : componentOf "" = none := rfl

theorem IsName.pathSegments (h : IsName name) : pathSegments name = [name] := by
  rw [Files.pathSegments, List.splitOn_eq_singleton h.slash, List.map_singleton, String.ofList_toList]

theorem IsName.componentOf (h : IsName name) : componentOf name = some (.normal name) := by
  rw [Files.componentOf, if_neg (not_or.2 ⟨h.ne_empty, h.ne_current⟩), if_neg h.ne_parent]

theorem IsName.hasRoot (h : IsName name) : hasRoot name = false := by
  rw [Files.hasRoot, decide_eq_false_iff_not]
  exact fun hhead => h.slash (List.mem_of_mem_head? hhead)

theorem IsName.components (h : IsName name) : components name = [.normal name] := by
  have hfront : frontOf name = [] := by
    rw [frontOf, h.hasRoot, if_neg Bool.false_ne_true, h.pathSegments, if_neg]
    exact fun hhead => h.ne_current (Option.some.inj hhead)
  rw [Files.components, hfront, h.pathSegments, List.filterMap_cons_some h.componentOf]
  rfl

theorem componentOf_eq_parentDir {segment : String} :
    componentOf segment = some .parentDir ↔ segment = ".." := by
  unfold componentOf
  split_ifs with hempty hparent
  · refine iff_of_false (fun h => by cases h) ?_
    rintro rfl
    revert hempty
    decide
  · exact iff_of_true rfl hparent
  · exact iff_of_false (fun h => by cases h) hparent

theorem parentDir_mem_components :
    Component.parentDir ∈ components path ↔ ".." ∈ pathSegments path := by
  have hfront : Component.parentDir ∉ frontOf path := by
    unfold frontOf
    split_ifs <;> simp
  rw [components, List.mem_append, or_iff_right hfront, List.mem_filterMap]
  constructor
  · rintro ⟨segment, hsegment, hparent⟩
    exact componentOf_eq_parentDir.1 hparent ▸ hsegment
  · exact fun h => ⟨_, h, rfl⟩

end Segments

section Join

variable {path base rel name : String}

@[simp] theorem components_empty : components "" = [] := by decide

theorem hasRoot_append (h : base ≠ "") (rest : String) : hasRoot (base ++ rest) = hasRoot base := by
  rw [hasRoot, hasRoot, String.toList_append,
    List.head?_append_of_ne_nil _ (mt String.toList_eq_nil_iff.1 h)]

/-- A path that is joined to another one, as its segments. A slash at the end of the other one makes
an empty segment, which does not count. -/
theorem pathSegments_join (hrel : hasRoot rel = false) (hbase : base ≠ "") :
    (pathSegments (join base rel)).head? = (pathSegments base).head? ∧
    (pathSegments (join base rel)).filterMap componentOf =
      (pathSegments base).filterMap componentOf ++ (pathSegments rel).filterMap componentOf := by
  rw [join, hrel, if_neg Bool.false_ne_true]
  by_cases hlast : base.toList.getLast? = some '/'
  · obtain ⟨init, hinit⟩ := List.getLast?_eq_some_iff.1 hlast
    obtain rfl : base = String.ofList init ++ "/" := by
      rw [← String.toList_inj, String.toList_append, String.toList_ofList, hinit]
      rfl
    -- The base ends in an empty segment, and the relative path adds its own behind it.
    have hinner : pathSegments (String.ofList init ++ "/") =
        pathSegments (String.ofList init) ++ [""] := by
      rw [← String.append_empty (s := String.ofList init ++ "/"), pathSegments_append_slash]
      rfl
    rw [if_pos (.inr hlast), pathSegments_append_slash, hinner, List.filterMap_append,
      List.filterMap_append, List.head?_append_of_ne_nil _ pathSegments_ne_nil,
      List.head?_append_of_ne_nil _ pathSegments_ne_nil]
    exact ⟨rfl, by simp [componentOf_empty]⟩
  · rw [if_neg (not_or.2 ⟨hbase, hlast⟩), pathSegments_append_slash, List.filterMap_append,
      List.head?_append_of_ne_nil _ pathSegments_ne_nil]
    exact ⟨rfl, rfl⟩

theorem hasRoot_join (hrel : hasRoot rel = false) (hbase : base ≠ "") :
    hasRoot (join base rel) = hasRoot base := by
  rw [join, hrel, if_neg Bool.false_ne_true]
  split
  · exact hasRoot_append hbase rel
  · rw [String.append_assoc]
    exact hasRoot_append hbase ("/" ++ rel)

/-- A relative path that is joined to another one comes behind it. -/
theorem components_join (hrel : hasRoot rel = false) (hbase : base ≠ "") :
    components (join base rel) = components base ++ (pathSegments rel).filterMap componentOf := by
  obtain ⟨hhead, hsegments⟩ := pathSegments_join hrel hbase
  rw [components, hsegments, frontOf, hasRoot_join hrel hbase, hhead, ← frontOf, ← List.append_assoc]
  rfl

theorem join_empty (hrel : hasRoot rel = false) : join "" rel = rel := by
  rw [join, hrel, if_neg Bool.false_ne_true, if_pos (.inl rfl), String.empty_append]

/-- A name that is joined to a path is a child of it. -/
theorem components_join_name (h : IsName name) :
    components (join base name) = components base ++ [.normal name] := by
  by_cases hbase : base = ""
  · rw [hbase, join_empty h.hasRoot, h.components, components_empty, List.nil_append]
  · rw [components_join h.hasRoot hbase, h.pathSegments, List.filterMap_cons_some h.componentOf]
    rfl

/-- A relative path that does not go up stays below what it is joined to. -/
theorem exists_components_join (hrel : hasRoot rel = false)
    (hparent : Component.parentDir ∉ components rel) :
    ∃ rest, components (join base rel) = components base ++ rest ∧ Component.rootDir ∉ rest ∧
      Component.parentDir ∉ rest := by
  have hsegments : Component.rootDir ∉ (pathSegments rel).filterMap componentOf := by
    intro hroot
    obtain ⟨segment, -, hsegment⟩ := List.mem_filterMap.1 hroot
    unfold componentOf at hsegment
    split_ifs at hsegment <;> cases hsegment
  rw [components, List.mem_append, not_or] at hparent
  by_cases hbase : base = ""
  · refine ⟨components rel, ?_, ?_, ?_⟩
    · rw [hbase, join_empty hrel, components_empty, List.nil_append]
    · rw [components, List.mem_append, not_or]
      refine ⟨?_, hsegments⟩
      rw [frontOf, hrel, if_neg Bool.false_ne_true]
      split <;> simp
    · rw [components, List.mem_append]
      exact not_or.2 hparent
  · exact ⟨_, components_join hrel hbase, hsegments, hparent.2⟩

end Join

end Files
