import Mathlib.Data.List.Nodup

/-!
# Tables with a primary key

A table is a list of rows no two of which have the same key. Rows are added only
under a new key, and changed only in ways that keep their key, so a table cannot
lose this property.

## Main definitions

* `Table` — rows with pairwise distinct keys
* `Table.get`, `Table.insert`, `Table.modify`, `Table.put`, `Table.mapRows` — the operations
* `Table.keys` — the keys in the order of insertion

## Main results

* `Table.get_eq_some_iff` — a lookup finds exactly the row with that key
* `Table.get_insert`, `Table.get_modify`, `Table.get_mapRows` — lookups after a change
* `Table.rel_get_modify` — a change that every row may undergo relates all lookups
* `Table.countP_of_get` — what is counted when one row changes
-/

set_option autoImplicit false

namespace Concurrency

variable {κ ρ : Type}

/-- Rows with pairwise distinct keys. -/
structure Table (key : ρ → κ) where
  rows : List ρ
  nodup : (rows.map key).Nodup

namespace Table

variable {key : ρ → κ} [DecidableEq κ]

/-- The table without rows. -/
def empty : Table key := ⟨[], List.nodup_nil⟩

/-- The row with key `k`. -/
def get (t : Table key) (k : κ) : Option ρ := t.rows.find? fun r => key r = k

@[simp] theorem get_empty (k : κ) : (empty : Table key).get k = none := rfl

theorem get_eq_some_iff {t : Table key} {k : κ} {r : ρ} :
    t.get k = some r ↔ r ∈ t.rows ∧ key r = k := by
  obtain ⟨rows, hnodup⟩ := t
  unfold get
  dsimp only
  induction rows with
  | nil => simp
  | cons a rows ih =>
    rw [List.map_cons, List.nodup_cons] at hnodup
    by_cases ha : key a = k
    · rw [List.find?_cons_of_pos (by simpa using ha)]
      constructor
      · intro h
        obtain rfl := Option.some.inj h
        exact ⟨.head _, ha⟩
      · rintro ⟨hmem, hr⟩
        rcases List.mem_cons.mp hmem with rfl | hmem
        · rfl
        · exact absurd (ha.trans hr.symm ▸ List.mem_map_of_mem hmem) hnodup.1
    · rw [List.find?_cons_of_neg (by simpa using ha), ih hnodup.2]
      constructor
      · exact fun ⟨hmem, hr⟩ => ⟨.tail _ hmem, hr⟩
      · rintro ⟨hmem, hr⟩
        rcases List.mem_cons.mp hmem with rfl | hmem
        · exact absurd hr ha
        · exact ⟨hmem, hr⟩

theorem key_of_get {t : Table key} {k : κ} {r : ρ} (h : t.get k = some r) : key r = k :=
  (get_eq_some_iff.mp h).2

theorem mem_of_get {t : Table key} {k : κ} {r : ρ} (h : t.get k = some r) : r ∈ t.rows :=
  (get_eq_some_iff.mp h).1

theorem get_of_mem {t : Table key} {r : ρ} (h : r ∈ t.rows) : t.get (key r) = some r :=
  get_eq_some_iff.mpr ⟨h, rfl⟩

theorem get_eq_none_iff {t : Table key} {k : κ} :
    t.get k = none ↔ ∀ r ∈ t.rows, key r ≠ k := by
  simp [get, List.find?_eq_none]

/-- The keys of the rows, oldest row first. -/
def keys (t : Table key) : List κ := t.rows.map key

theorem mem_keys_iff {t : Table key} {k : κ} : k ∈ t.keys ↔ t.get k ≠ none := by
  simp [keys, get_eq_none_iff]

/-- Add a row under a new key. -/
def insert (t : Table key) (r : ρ) (h : t.get (key r) = none) : Table key where
  rows := t.rows ++ [r]
  nodup := by
    rw [List.map_append, List.nodup_append]
    refine ⟨t.nodup, List.nodup_singleton _, ?_⟩
    intro k hk k' hk'
    obtain ⟨r', hr', rfl⟩ := List.mem_map.mp hk
    obtain rfl := List.mem_singleton.mp hk'
    exact get_eq_none_iff.mp h r' hr'

@[simp] theorem rows_insert (t : Table key) (r : ρ) (h : t.get (key r) = none) :
    (t.insert r h).rows = t.rows ++ [r] := rfl

@[simp] theorem keys_insert (t : Table key) (r : ρ) (h : t.get (key r) = none) :
    (t.insert r h).keys = t.keys ++ [key r] := by
  simp [keys]

theorem get_insert (t : Table key) (r : ρ) (h : t.get (key r) = none) (k : κ) :
    (t.insert r h).get k = if key r = k then some r else t.get k := by
  unfold get
  rw [rows_insert, List.find?_append]
  by_cases hk : key r = k
  · subst hk
    simp only [get] at h
    simp [h]
  · cases hget : t.rows.find? fun r => key r = k <;> simp [hk]

/-- Change the row with key `k`, if there is one, keeping its key. -/
def modify (t : Table key) (k : κ) (f : ρ → ρ)
    (hf : ∀ r, key r = k → key (f r) = k := by intro r h; exact h) : Table key where
  rows := t.rows.map fun r => if key r = k then f r else r
  nodup := by
    have hkeys : (t.rows.map fun r => if key r = k then f r else r).map key = t.rows.map key := by
      rw [List.map_map]
      refine List.map_congr_left fun r _ => ?_
      rw [Function.comp_apply]
      split
      · exact (hf r ‹_›).trans (Eq.symm ‹_›)
      · rfl
    exact hkeys ▸ t.nodup

@[simp] theorem keys_modify (t : Table key) (k : κ) (f : ρ → ρ)
    (hf : ∀ r, key r = k → key (f r) = k) : (t.modify k f hf).keys = t.keys := by
  unfold keys modify
  rw [List.map_map]
  refine List.map_congr_left fun r _ => ?_
  rw [Function.comp_apply]
  split
  · exact (hf r ‹_›).trans (Eq.symm ‹_›)
  · rfl

theorem get_modify (t : Table key) (k : κ) (f : ρ → ρ) (hf : ∀ r, key r = k → key (f r) = k)
    (k' : κ) : (t.modify k f hf).get k' = if k = k' then (t.get k').map f else t.get k' := by
  have hnone : t.get k' = none → (t.modify k f hf).get k' = none := by
    intro h
    rw [get_eq_none_iff] at h ⊢
    intro r hr
    obtain ⟨r', hr', rfl⟩ := List.mem_map.mp hr
    split
    · rename_i hk
      rw [hf r' hk, ← hk]
      exact h r' hr'
    · exact h r' hr'
  cases hget : t.get k' with
  | none => split <;> simp [hnone hget]
  | some r =>
    obtain ⟨hmem, hr⟩ := get_eq_some_iff.mp hget
    have hmem' : (if key r = k then f r else r) ∈ (t.modify k f hf).rows :=
      List.mem_map.mpr ⟨r, hmem, rfl⟩
    by_cases hk : k = k'
    · subst hk
      rw [if_pos hr] at hmem'
      rw [if_pos rfl]
      exact get_eq_some_iff.mpr ⟨hmem', hf r hr⟩
    · rw [if_neg fun h => hk (h.symm.trans hr)] at hmem'
      rw [if_neg hk]
      exact get_eq_some_iff.mpr ⟨hmem', hr⟩

theorem get_modify_self (t : Table key) (k : κ) (f : ρ → ρ)
    (hf : ∀ r, key r = k → key (f r) = k) : (t.modify k f hf).get k = (t.get k).map f := by
  rw [get_modify, if_pos rfl]

theorem get_modify_of_ne (t : Table key) {k k' : κ} (f : ρ → ρ)
    (hf : ∀ r, key r = k → key (f r) = k) (h : k ≠ k') :
    (t.modify k f hf).get k' = t.get k' := by
  rw [get_modify, if_neg h]

/-- Insert a row, or put it in the place of the one with its key. -/
def put (t : Table key) (r : ρ) : Table key :=
  if h : t.get (key r) = none then t.insert r h else t.modify (key r) (fun _ => r) fun _ _ => rfl

theorem get_put (t : Table key) (r : ρ) (k : κ) :
    (t.put r).get k = if key r = k then some r else t.get k := by
  unfold put
  split
  · exact get_insert t r _ k
  · rename_i h
    rw [get_modify]
    split
    · rename_i hk
      obtain ⟨old, hold⟩ := Option.ne_none_iff_exists'.mp h
      rw [← hk, hold, Option.map_some]
    · rfl

/-- Change every row, keeping the keys. -/
def mapRows (t : Table key) (f : ρ → ρ) (hf : ∀ r, key (f r) = key r) : Table key where
  rows := t.rows.map f
  nodup := by
    have hkeys : (t.rows.map f).map key = t.rows.map key := by
      rw [List.map_map]
      exact List.map_congr_left fun r _ => hf r
    exact hkeys ▸ t.nodup

theorem get_mapRows (t : Table key) (f : ρ → ρ) (hf : ∀ r, key (f r) = key r) (k : κ) :
    (t.mapRows f hf).get k = (t.get k).map f := by
  cases hget : t.get k with
  | none =>
    rw [Option.map_none, get_eq_none_iff]
    intro r hr
    obtain ⟨r', hr', rfl⟩ := List.mem_map.mp hr
    rw [hf]
    exact get_eq_none_iff.mp hget r' hr'
  | some r =>
    obtain ⟨hmem, hr⟩ := get_eq_some_iff.mp hget
    exact get_eq_some_iff.mpr ⟨List.mem_map.mpr ⟨r, hmem, rfl⟩, (hf r).trans hr⟩

/-- A change that leaves the row as it is changes nothing. -/
theorem modify_eq_self {t : Table key} {k : κ} {f : ρ → ρ}
    {hf : ∀ r, key r = k → key (f r) = k} (h : ∀ r, t.get k = some r → f r = r) :
    t.modify k f hf = t := by
  obtain ⟨rows, hnodup⟩ := t
  have hrows : (rows.map fun r => if key r = k then f r else r) = rows := by
    refine (List.map_congr_left fun r hr => ?_).trans (List.map_id rows)
    split
    · exact h r (get_eq_some_iff.mpr ⟨hr, ‹_›⟩)
    · rfl
  simp only [modify, hrows]

omit [DecidableEq κ] in
theorem mapRows_eq_self_iff {t : Table key} {f : ρ → ρ} {hf : ∀ r, key (f r) = key r} :
    t.mapRows f hf = t ↔ ∀ r ∈ t.rows, f r = r := by
  obtain ⟨rows, hnodup⟩ := t
  have hmap : rows.map f = rows ↔ ∀ r ∈ rows, f r = r := by
    rw [← List.map_eq_map_iff, List.map_id']
  simpa only [mapRows, mk.injEq] using hmap

section Related

/-! Two lookups related by `Option.Rel` both find nothing, or find related rows. -/

variable {R : ρ → ρ → Prop}

theorem rel_refl (hrefl : ∀ r, R r r) (row : Option ρ) : Option.Rel R row row := by
  cases row with
  | none => exact .none
  | some r => exact .some (hrefl r)

theorem exists_of_rel_some {r : ρ} {row : Option ρ} (h : Option.Rel R (some r) row) :
    ∃ r', row = some r' ∧ R r r' := by
  cases h with
  | some h => exact ⟨_, rfl, h⟩

theorem exists_of_rel_some_right {r' : ρ} {row : Option ρ} (h : Option.Rel R row (some r')) :
    ∃ r, row = some r ∧ R r r' := by
  cases h with
  | some h => exact ⟨_, rfl, h⟩

theorem rel_get_modify {t : Table key} {k k' : κ} {f : ρ → ρ}
    {hf : ∀ r, key r = k → key (f r) = k} (hrefl : ∀ r, R r r) (hR : ∀ r, R r (f r)) :
    Option.Rel R (t.get k') ((t.modify k f hf).get k') := by
  rw [get_modify]
  split
  · cases t.get k' with
    | none => exact .none
    | some r => exact .some (hR r)
  · exact rel_refl hrefl _

/-- Rows under the same keys that every lookup relates are related one by one. -/
theorem forall₂_rows {t t' : Table key} (hkeys : t'.keys = t.keys)
    (h : ∀ k, Option.Rel R (t.get k) (t'.get k)) : List.Forall₂ R t.rows t'.rows := by
  rw [List.forall₂_iff_get]
  have hlength : t.rows.length = t'.rows.length := by
    simpa [keys] using (congrArg List.length hkeys).symm
  refine ⟨hlength, fun i hi hi' => ?_⟩
  have hkey : key (t'.rows.get ⟨i, hi'⟩) = key (t.rows.get ⟨i, hi⟩) := by
    have := List.getElem_of_eq hkeys (i := i) (by simpa [keys] using hi')
    simpa [keys] using this
  have hrel := h (key (t.rows.get ⟨i, hi⟩))
  rw [get_of_mem (List.get_mem _ _), ← hkey, get_of_mem (List.get_mem _ _)] at hrel
  cases hrel with
  | some hrel => exact hrel

/-- Likewise if every row that was there is still there, and related. -/
theorem forall₂_rows_of_get {t t' : Table key} (hkeys : t'.keys = t.keys)
    (h : ∀ k r, t.get k = some r → ∃ r', t'.get k = some r' ∧ R r r') :
    List.Forall₂ R t.rows t'.rows := by
  refine forall₂_rows hkeys fun k => ?_
  cases hr : t.get k with
  | some r =>
    obtain ⟨r', hr', hR⟩ := h k r hr
    rw [hr']
    exact .some hR
  | none =>
    have hr' : t'.get k = none := by
      rw [get_eq_none_iff] at hr ⊢
      intro r' hr' hk
      have hmem : k ∈ t.keys := hkeys ▸ hk ▸ List.mem_map_of_mem hr'
      obtain ⟨r, hmem, hkr⟩ := List.mem_map.mp hmem
      exact hr r hmem hkr
    rw [hr']
    exact .none

end Related

section Rows

/-- A row stands at one place of the table. -/
theorem exists_rows_of_get {t : Table key} {k : κ} {r : ρ} (h : t.get k = some r) :
    ∃ older newer, t.rows = older ++ r :: newer ∧
      (∀ r' ∈ older, key r' ≠ k) ∧ ∀ r' ∈ newer, key r' ≠ k := by
  obtain ⟨older, newer, hrows⟩ := List.append_of_mem (mem_of_get h)
  have hnodup := t.nodup
  rw [hrows, List.map_append, List.map_cons, List.nodup_append, List.nodup_cons] at hnodup
  obtain ⟨-, ⟨hnewer, -⟩, holder⟩ := hnodup
  refine ⟨older, newer, hrows, fun r' hr' hk => ?_, fun r' hr' hk => ?_⟩
  · exact holder _ (List.mem_map_of_mem hr') _ (.head _) (hk.trans (key_of_get h).symm)
  · exact hnewer (hk.trans (key_of_get h).symm ▸ List.mem_map_of_mem hr')

/-- A change of one row leaves the others in their places. -/
theorem rows_modify_of_get {t : Table key} {k : κ} {r : ρ} {f : ρ → ρ}
    {hf : ∀ r, key r = k → key (f r) = k} (h : t.get k = some r) :
    ∃ older newer, t.rows = older ++ r :: newer ∧ (t.modify k f hf).rows = older ++ f r :: newer := by
  obtain ⟨older, newer, hrows, holder, hnewer⟩ := exists_rows_of_get h
  refine ⟨older, newer, hrows, ?_⟩
  have hsame (rows : List ρ) (hne : ∀ r' ∈ rows, key r' ≠ k) :
      (rows.map fun r => if key r = k then f r else r) = rows := by
    rw [List.map_congr_left fun r' hr' => if_neg (hne r' hr'), List.map_id']
  show t.rows.map _ = _
  rw [hrows, List.map_append, List.map_cons, hsame older holder, hsame newer hnewer,
    if_pos (key_of_get h)]

/-- What is counted of the rows changes by one row only. -/
theorem countP_of_get {t : Table key} {k : κ} {r : ρ} {p p' : ρ → Bool} (h : t.get k = some r)
    (hr : p r = false) (hsame : ∀ r' ∈ t.rows, key r' ≠ k → p' r' = p r') :
    t.rows.countP p' = t.rows.countP p + (p' r).toNat := by
  obtain ⟨older, newer, hrows, holder, hnewer⟩ := exists_rows_of_get h
  rw [hrows] at hsame ⊢
  have holder' : older.countP p' = older.countP p :=
    List.countP_congr fun r' hr' => by rw [hsame r' (by simp [hr']) (holder r' hr')]
  have hnewer' : newer.countP p' = newer.countP p :=
    List.countP_congr fun r' hr' => by rw [hsame r' (by simp [hr']) (hnewer r' hr')]
  rw [List.countP_append, List.countP_append, List.countP_cons, List.countP_cons, holder', hnewer',
    hr]
  cases p' r <;> simp [Nat.add_assoc]

end Rows

end Table

end Concurrency
