import CheckpointFabric.Files.Tree
import Mathlib.Data.List.Dedup

/-!
# Listing and moving what is in a tree

A directory lists the names of what is in it. What is at a place can be moved to another one, with
everything below it. A directory only takes a place where there is nothing, or where there is a
directory that is empty.

## Main definitions

* `Tree.children` — what a directory lists
* `Tree.rename` — move a place with everything below it
* `Tree.removeLeaf` — remove a file, a link or an empty directory

## Main results

* `mem_children_iff` — the names of what is in a directory
* `get_rename`, `get_removeLeaf` — what is at each place afterwards
* `Closed.rename`, `Closed.removeLeaf` — a tree stays closed
-/

set_option autoImplicit false

namespace Files

variable {α : Type}

namespace Tree

section Calls

variable (t : Tree α) (p q : Path)

def isFile : Bool :=
  match t.get p with
  | some (.file _) | some (.link .file) => true
  | _ => false

/-- The names of what is in a directory, each of them once. -/
def children : List String :=
  (t.nodes.filterMap fun x => if x.1.dropLast = p then x.1.getLast? else none).dedup

/-- What is at `p` and below it, put at `q` instead. -/
def move : Tree α where
  nodes := (t.nodes.filter fun x => p <+: x.1).map (fun x => (q ++ x.1.drop p.length, x.2)) ++
    t.nodes.filter fun x => ¬ (p <+: x.1 ∨ q <+: x.1)

/-- Whether a node can take a place, by what is there. -/
def takes (node : Node α) : Bool :=
  match node, t.get q with
  | _, none => true
  | .directory, some .directory => !t.hasChild q
  | .directory, some _ => false
  | _, some .directory => false
  | _, some _ => true

/-- Move what is at a place to another one, with everything below it, unless that fails. -/
def rename : Option (Tree α) :=
  match t.get p with
  | none => none
  | some node =>
    if p = q then some t
    else if p <+: q ∨ q <+: p then none
    else if t.isRealDirectory q.dropLast && t.takes q node then some (t.move p q)
    else none

/-- Remove a file, a link, or a directory that is empty. -/
def removeLeaf : Except Failure (Tree α) :=
  if t.isRealDirectory p then t.removeDir p else t.removeFile p

end Calls

section Get

variable {t t' : Tree α} {p q r : Path} {name : String}

theorem mem_children_iff : name ∈ t.children p ↔ t.get (p ++ [name]) ≠ none := by
  rw [children, List.mem_dedup, List.mem_filterMap, ← mem_nodes_iff]
  constructor
  · rintro ⟨⟨place, node⟩, hmem, hname⟩
    split at hname
    · rename_i hp
      obtain ⟨front, rfl⟩ := List.getLast?_eq_some_iff.mp hname
      rw [List.dropLast_concat] at hp
      exact ⟨node, hp ▸ hmem⟩
    · exact nomatch hname
  · rintro ⟨node, hmem⟩
    exact ⟨(p ++ [name], node), hmem, by simp⟩

theorem get_filter (f : Path → Bool) :
    (⟨t.nodes.filter fun x => f x.1⟩ : Tree α).get p = if f p then t.get p else none := by
  rw [get, get]
  dsimp only
  induction t.nodes with
  | nil => simp
  | cons x nodes ih =>
    obtain ⟨k, node⟩ := x
    by_cases hk : p = k
    · subst hk
      cases hf : f p with
      | true => simp [hf]
      | false => simpa [hf] using ih
    · cases hf : f k with
      | true => simp [hf, List.lookup_cons, beq_false_of_ne hk, ih]
      | false => simp [hf, List.lookup_cons, beq_false_of_ne hk, ih]

/-- A place below `p`, as one below `q`. -/
theorem get_transplant :
    (⟨(t.nodes.filter fun x => p <+: x.1).map fun x => (q ++ x.1.drop p.length, x.2)⟩ :
      Tree α).get r = if q <+: r then t.get (p ++ r.drop q.length) else none := by
  rw [get, get]
  dsimp only
  induction t.nodes with
  | nil => simp
  | cons x nodes ih =>
    obtain ⟨k, node⟩ := x
    by_cases hk : p <+: k
    · obtain ⟨rest, rfl⟩ := hk
      rw [List.filter_cons_of_pos (by simp), List.map_cons, List.lookup_cons, List.lookup_cons, ih,
        List.drop_left]
      by_cases hr : r = q ++ rest
      · subst hr
        simp
      · rw [beq_false_of_ne hr]
        by_cases hprefix : q <+: r
        · obtain ⟨rest', rfl⟩ := hprefix
          rw [List.drop_left, beq_false_of_ne fun heq => hr (by rw [List.append_cancel_left heq])]
        · rw [if_neg hprefix, if_neg hprefix]
    · rw [List.filter_cons_of_neg (by simpa using hk), ih, List.lookup_cons, beq_false_of_ne]
      rintro rfl
      exact hk (List.prefix_append _ _)

/-- What was at `p` and below it is at `q`, where there is nothing else. -/
theorem get_move : (t.move p q).get r =
    if q <+: r then t.get (p ++ r.drop q.length) else if p <+: r then none else t.get r := by
  have happend (nodes nodes' : List (Path × Node α)) :
      (⟨nodes ++ nodes'⟩ : Tree α).get r = ((⟨nodes⟩ : Tree α).get r).or ((⟨nodes'⟩ : Tree α).get r) :=
    List.lookup_append
  rw [move, happend, get_transplant, get_filter fun k => ¬ (p <+: k ∨ q <+: k)]
  by_cases hq : q <+: r
  · rw [if_pos hq, if_pos hq, if_neg (by simp [hq]), Option.or_none]
  · by_cases hp : p <+: r <;> simp [hq, hp]

/-- What a place was moved to, and where it could be. -/
theorem rename_eq_some (h : t.rename p q = some t') (hne : p ≠ q) : ∃ node, t.get p = some node ∧
    ¬ p <+: q ∧ ¬ q <+: p ∧ t.get q.dropLast = some .directory ∧ t.takes q node = true ∧
      t' = t.move p q := by
  rw [rename] at h
  split at h
  · exact nomatch h
  · rename_i node hnode
    rw [if_neg hne] at h
    split at h
    · exact nomatch h
    · rename_i hapart
      split at h
      · rename_i hfits
        obtain ⟨hparent, htakes⟩ := Bool.and_eq_true_iff.mp hfits
        exact ⟨node, hnode, fun hp => hapart (.inl hp), fun hq => hapart (.inr hq),
          isRealDirectory_iff.mp hparent, htakes, (Option.some.inj h).symm⟩
      · exact nomatch h

theorem get_removeLeaf (h : t.removeLeaf p = .ok t') :
    (∀ q, t'.get q = if q = p then none else t.get q) ∧ ∀ name, t.get p = some .directory →
      t.get (p ++ [name]) = none := by
  rw [removeLeaf] at h
  split at h
  · rename_i hdir
    have hp := isRealDirectory_iff.mp hdir
    rw [removeDir_directory hp] at h
    split at h
    · exact nomatch h
    · rename_i hchild
      obtain rfl := Except.ok.inj h
      refine ⟨fun q => get_erase, fun name _ => ?_⟩
      by_contra hname
      exact hchild (hasChild_iff.mpr ⟨name, hname⟩)
  · rename_i hdir
    obtain ⟨hget, hne⟩ := get_removeFile h
    exact ⟨hget, fun name hp => absurd hp hne⟩

end Get

section Closed

variable {t t' : Tree α} {p q : Path}

theorem Closed.removeLeaf (h : t.Closed) (hremoved : t.removeLeaf p = .ok t') : t'.Closed := by
  obtain ⟨hget, hempty⟩ := get_removeLeaf hremoved
  intro r name hr
  rw [hget] at hr ⊢
  split at hr
  · exact absurd rfl hr
  · have hparent := h r name hr
    rw [if_neg]
    · exact hparent
    · rintro rfl
      exact hr (hempty name hparent)

theorem Closed.rename (h : t.Closed) (hrenamed : t.rename p q = some t') : t'.Closed := by
  by_cases hne : p = q
  · subst hne
    rw [Tree.rename] at hrenamed
    split at hrenamed
    · exact nomatch hrenamed
    · rw [if_pos rfl] at hrenamed
      obtain rfl := Option.some.inj hrenamed
      exact h
  obtain ⟨node, hnode, hpq, hqp, hparent, htakes, rfl⟩ := rename_eq_some hrenamed hne
  intro r name hr
  rw [get_move] at hr ⊢
  by_cases hq : q <+: r ++ [name]
  · rw [if_pos hq] at hr
    rcases List.prefix_concat_iff.mp hq with rfl | hq
    · -- What is moved takes its place in a directory.
      rw [List.dropLast_concat] at hparent
      rw [if_neg fun hlong => absurd hlong.length_le (by simp), if_neg, hparent]
      exact fun hp => hpq (hp.trans (List.prefix_append r [name]))
    · rw [if_pos hq]
      rw [List.drop_append_of_le_length hq.length_le, ← List.append_assoc] at hr
      exact h _ name hr
  · rw [if_neg hq] at hr
    rw [if_neg fun hshort => hq (hshort.trans (List.prefix_append r [name]))]
    split at hr
    · exact absurd rfl hr
    · rename_i hp
      rw [if_neg fun hshort => hp (hshort.trans (List.prefix_append r [name]))]
      exact h r name hr

end Closed

end Tree

end Files
