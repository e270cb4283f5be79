import CheckpointFabric.Directories

/-!
# What is below the directories of the storage

A checkpoint appears with everything that its attempt had staged at that moment, and nothing but the
deletion of that checkpoint ever changes it, whatever goes on at the same time and however often the
process stops.

## Main results

* `fromHex_toHex` — the name of a directory tells the checkpoint
* `handle_cases`, `step_below` — what a call changes, and what it can change below a checkpoint
* `committed_as_promoted` — what is below the directory of a checkpoint is what was promoted
-/

set_option autoImplicit false

namespace CheckpointFabric

section Hex

theorem hexValue_digitChar {digit : ℕ} (h : digit < 16) :
    hexValue (Nat.digitChar digit) = some digit := by
  have hall : ∀ digit < 16, hexValue (Nat.digitChar digit) = some digit := by decide
  exact hall digit h

/-- The digits of a number are read as that number. -/
theorem decodeHex_hexDigits {n digits index value : ℕ} {cs : List Char} :
    decodeHex (hexDigits n digits ++ cs) index value =
      decodeHex cs (index + digits) (16 ^ digits * value + n % 16 ^ digits) := by
  induction digits generalizing n cs with
  | zero => simp [hexDigits, Nat.mod_one]
  | succ digits ih =>
    rw [hexDigits, List.append_assoc, List.singleton_append, ih, decodeHex,
      hexValue_digitChar (Nat.mod_lt n (by decide))]
    dsimp only
    rw [Nat.pow_succ', Nat.mod_mul, Nat.mul_assoc]
    congr 1
    rw [Nat.mul_add]
    omega

theorem utf8ByteSize_hexDigits {n digits : ℕ} :
    (String.ofList (hexDigits n digits)).utf8ByteSize = digits := by
  induction digits generalizing n with
  | zero => rfl
  | succ digits ih =>
    have hdigit : ∀ digit < 16, (Nat.digitChar digit).utf8Size = 1 := by decide
    rw [hexDigits, String.ofList_append, String.utf8ByteSize_append, ih, ← String.singleton_eq_ofList,
      String.utf8ByteSize_singleton, hdigit _ (Nat.mod_lt n (by decide))]

theorem fromHex_toHex (id : Id) : fromHex (toHex id) = .ok (id % 2 ^ 128) := by
  rw [fromHex, toHex, utf8ByteSize_hexDigits, if_neg (by decide), String.toList_ofList,
    ← List.append_nil (hexDigits id 32), decodeHex_hexDigits, decodeHex, Nat.mul_zero, Nat.zero_add]
  rfl

theorem hexDigits_mod (n digits : ℕ) : hexDigits (n % 16 ^ digits) digits = hexDigits n digits := by
  induction digits generalizing n with
  | zero => rfl
  | succ digits ih =>
    rw [hexDigits, hexDigits, Nat.pow_succ', Nat.mod_mul_right_div_self, ih, Nat.mod_mul_right_mod]

/-- The name of a directory is that of an id of 16 bytes. -/
theorem toHex_mod (id : Id) : toHex (id % 2 ^ 128) = toHex id :=
  congrArg String.ofList (hexDigits_mod id 32)

end Hex

namespace Directories

open Concurrency Concurrency.System Files Files.Tree
open Storage (LocalStorage)

section Programs

/-- The request clears the staging root. -/
def Request.Clears : Request → Prop
  | .sweep _ | .recoverPartial _ => True
  | _ => False

/-- The requests that a call which changes something belongs to. -/
def Allowed (request : Request) : Op → Prop
  | .createDirAll p => p = checkpointsDir
  | .rename p q => ∃ attempt id, request = .promote attempt id ∧ p = stagingDir attempt ∧
      q = commitDir id
  | .removeBelow p | .removeDir p => (∃ id, request = .deleteCommitted id ∧ p = commitDir id) ∨
      request.Clears ∧ ∃ name, p = stagingRoot ++ [name]
  | _ => True

variable {request : Request} {allowed : Op → Prop}

theorem uses_removeEntries {p : Path} (h : allowed (.removeBelow p)) (entries : ℕ) :
    Uses allowed (removeEntries p entries) := by
  induction entries with
  | zero => trivial
  | succ entries ih => exact .bind (uses_call.mpr h) fun _ => ih

theorem uses_removeDirAll {p : Path} (hread : allowed (.readTree p)) (hbelow : allowed (.removeBelow p))
    (hdir : allowed (.removeDir p)) : Uses allowed (removeDirAll p) :=
  .bind (uses_call.mpr hread) fun entries =>
    .bind (uses_removeEntries hbelow entries) fun _ => uses_call.mpr hdir

theorem uses_isCommittedDir (p : Path) : Uses (Allowed request) (isCommittedDir p) := by
  refine .bind (uses_call.mpr trivial) fun isDir => .ite ?_ trivial
  refine .bind (uses_call.mpr trivial) fun manifest => .ite ?_ trivial
  exact .bind (uses_call.mpr trivial) fun digest => .ite (uses_call.mpr trivial) trivial

theorem uses_enumerateEntries (names : List String) (out : List Id) :
    Uses (Allowed request) (enumerateEntries names out) := by
  induction names generalizing out with
  | nil => trivial
  | cons name names ih =>
    refine .bind (uses_call.mpr trivial) fun _ => .bind (uses_call.mpr trivial) fun isDir => ?_
    refine .ite ?_ (ih out)
    cases fromHex name with
    | error e => exact ih out
    | ok id => exact .bind (uses_isCommittedDir _) fun committed => .ite (ih _) (ih out)

theorem uses_recoverEntries {keep : List Path} {ttlMs : ℕ} (hclears : request.Clears)
    (names : List String) (removed : List Path) : Uses (Allowed request) (recoverEntries keep ttlMs names removed) := by
  induction names generalizing removed with
  | nil => trivial
  | cons name names ih =>
    refine .bind (uses_call.mpr trivial) fun _ => .bind (uses_call.mpr trivial) fun isDir => ?_
    refine .ite (ih removed) (.bind ?_ fun old => .ite ?_ (ih removed))
    · refine .ite trivial (.bind (uses_call.mpr trivial) fun age => ?_)
      cases age <;> trivial
    · refine .bind (uses_removeDirAll trivial ?_ ?_) fun _ => ih _
      all_goals exact .inr ⟨hclears, name, rfl⟩

theorem uses_recoverPartialOlderThan {keep : List Path} {ttlMs : ℕ} (hclears : request.Clears) :
    Uses (Allowed request) (recoverPartialOlderThan keep ttlMs) := by
  refine .bind (.attempt (uses_call.mpr trivial)) fun listing => ?_
  cases listing with
  | ok names => exact uses_recoverEntries hclears names []
  | error e => trivial

theorem uses_serve (storage : LocalStorage) (request : Request) :
    Uses (Allowed request) (serve storage request) := by
  cases request with
  | promote attempt id =>
    refine .bind (.bind (uses_call.mpr trivial) fun taken => .ite trivial ?_) fun _ => trivial
    have hlast : Uses (Allowed (.promote attempt id)) (do
        perform (.syncChildren (stagingDir attempt))
        perform (.rename (stagingDir attempt) (commitDir id)) : Work Unit) :=
      .bind (uses_call.mpr trivial) fun _ => uses_call.mpr ⟨attempt, id, rfl, rfl, rfl⟩
    refine .bind (uses_call.mpr trivial) fun parent => .ite ?_ hlast
    exact .bind (uses_call.mpr (by simp [Allowed, commitDir])) fun _ => hlast
  | hasCommitted id => exact .bind (uses_isCommittedDir _) fun _ => trivial
  | enumerateCommitted =>
    refine .bind (.bind (uses_call.mpr trivial) fun names => ?_) fun _ => trivial
    exact .bind (uses_enumerateEntries names []) fun _ => trivial
  | deleteCommitted id =>
    refine .bind (.bind (uses_call.mpr trivial) fun there => .ite ?_ trivial) fun _ => trivial
    exact uses_removeDirAll trivial (.inl ⟨id, rfl, rfl⟩) (.inl ⟨id, rfl, rfl⟩)
  | sweep ttlMs =>
    refine .bind (.bind (uses_call.mpr trivial) fun keep => ?_) fun _ => trivial
    exact uses_recoverPartialOlderThan trivial
  | recoverPartial keep => exact .bind (uses_recoverPartialOlderThan trivial) fun _ => trivial

end Programs

section Steps

variable {s : Disk} {t t' : Files.Tree UInt8} {op : Op} {input : Input} {id : Id}

/-- What a call changes, when it does. -/
def Changes (input : Input) (t t' : Files.Tree UInt8) : Op → Prop
  | .createDirAll p => t.createDirAll p = .ok t'
  | .rename p q => t.rename p q = some t'
  | .removeBelow p => input.below ≠ [] ∧ t.removeLeaf (p ++ input.below) = .ok t'
  | .removeDir p => t.removeDir p = .ok t'
  | _ => False

theorem ok_of_toOption {result : Except Failure (Files.Tree UInt8)} (h : result.toOption = some t) :
    result = .ok t := by
  cases result with
  | ok t' => exact congrArg Except.ok (Option.some.inj h)
  | error e => exact nomatch h

theorem handle_cases (s : Disk) (op : Op) (input : Input) : (s.handle op input).2 = s ∨
    ∃ t', (s.handle op input).2 = { s with tree := t' } ∧ Changes input s.tree t' op := by
  have hchange (changed : Option (Files.Tree UInt8)) : (s.change input changed).2 = s ∨
      ∃ t', changed = some t' ∧ (s.change input changed).2 = { s with tree := t' } := by
    cases changed with
    | none => exact .inl rfl
    | some t' => exact .inr ⟨t', rfl, rfl⟩
  unfold Disk.handle
  split
  · cases op <;> exact .inl rfl
  · cases op with
    | createDirAll p =>
      obtain heq | ⟨t', hmade, heq⟩ := hchange (s.tree.createDirAll p).toOption
      · exact .inl heq
      · exact .inr ⟨t', heq, ok_of_toOption hmade⟩
    | syncChildren p =>
      obtain heq | ⟨t', hsame, heq⟩ :=
        hchange (if s.tree.isDirectory p then some s.tree else none)
      · exact .inl heq
      · split at hsame
        · exact .inl (heq.trans (by rw [← Option.some.inj hsame]))
        · exact nomatch hsame
    | rename p q =>
      obtain heq | ⟨t', hrenamed, heq⟩ := hchange (s.tree.rename p q)
      · exact .inl heq
      · exact .inr ⟨t', heq, hrenamed⟩
    | removeBelow p =>
      obtain heq | ⟨t', hremoved, heq⟩ := hchange
        (if input.below = [] then none else (s.tree.removeLeaf (p ++ input.below)).toOption)
      · exact .inl heq
      · split at hremoved
        · exact nomatch hremoved
        · exact .inr ⟨t', heq, ‹_›, ok_of_toOption hremoved⟩
    | removeDir p =>
      obtain heq | ⟨t', hremoved, heq⟩ := hchange (s.tree.removeDir p).toOption
      · exact .inl heq
      · exact .inr ⟨t', heq, ok_of_toOption hremoved⟩
    | readDir p | readTree p =>
      refine .inl ?_
      rw [Disk.respond]
      split <;> rfl
    | _ => exact .inl rfl

/-- The directories of attempts and checkpoints are not in one another. -/
theorem place_eq_of_isPrefix {place other : Path} (hplace : place.length = 2) (hother : other.length = 2)
    {rest : Path} (h : place <+: other ++ rest) : place = other :=
  (List.prefix_of_prefix_length_le h (List.prefix_append other rest) (by omega)).eq_of_length
    (by omega)

theorem length_commitDir (id : Id) : (commitDir id).length = 2 := rfl

theorem length_staging (name : String) : (stagingRoot ++ [name]).length = 2 := rfl

theorem staging_ne_checkpoints {name name' : String} :
    stagingRoot ++ [name] ≠ checkpointsDir ++ [name'] := by
  simp [stagingRoot, checkpointsDir]

/-- The directories of the storage are there, and those of checkpoints are named by ids. -/
structure Sound (t : Files.Tree UInt8) : Prop where
  closed : t.Closed
  staging : t.get stagingRoot = some .directory
  checkpoints : t.get checkpointsDir = some .directory
  named : ∀ name, t.get (checkpointsDir ++ [name]) ≠ none → ∃ id : Id, name = toHex id

theorem Sound.root (h : Sound t) : t.get [] = some .directory :=
  h.closed [] "staging" (by rw [List.nil_append]; exact h.staging ▸ nofun)

/-- Where nothing is below a directory of an attempt or a checkpoint, the tree is the same, and where
something is below the checkpoints it has the name of one. -/
theorem Sound.of_frame {place : Path} (h : Sound t) (hclosed : t'.Closed)
    (hplace : (∃ name, place = stagingRoot ++ [name]) ∨ ∃ id, place = commitDir id)
    (hget : ∀ q, ¬ place <+: q → t'.get q = t.get q) : Sound t' := by
  have hlength : place.length = 2 := by
    obtain ⟨name, rfl⟩ | ⟨id, rfl⟩ := hplace <;> rfl
  have hshort (q : Path) (hq : q.length < 2) : t'.get q = t.get q :=
    hget q fun hpre => absurd hpre.length_le (by omega)
  refine ⟨hclosed, (hshort _ (by decide)).trans h.staging, (hshort _ (by decide)).trans h.checkpoints,
    fun name hname => ?_⟩
  by_cases hsame : place = checkpointsDir ++ [name]
  · obtain ⟨other, rfl⟩ | ⟨id, rfl⟩ := hplace
    · exact absurd hsame staging_ne_checkpoints
    · exact ⟨id, by simpa [commitDir, eq_comm] using hsame⟩
  · refine h.named name (hget _ (fun hpre => hsame (hpre.eq_of_length ?_)) ▸ hname)
    rw [hlength]
    rfl

/-- A removal takes one entry away. -/
theorem removeLeaf_of_removeDir {p : Path} (h : t.removeDir p = .ok t') : t.removeLeaf p = .ok t' := by
  have hdir : t.isRealDirectory p = true := by
    rw [isRealDirectory_iff]
    unfold Files.Tree.removeDir at h
    split at h
    · exact nomatch h
    · assumption
    · exact nomatch h
  rw [Files.Tree.removeLeaf, hdir, if_pos rfl, h]

/-- The same is below a place. -/
def SameBelow (t t' : Files.Tree UInt8) (p : Path) : Prop :=
  ∀ rest, t'.get (p ++ rest) = t.get (p ++ rest)

/-- What is below a place is what was there. -/
def LeftBelow (t t' : Files.Tree UInt8) (p : Path) : Prop :=
  ∀ rest, t'.get (p ++ rest) = none ∨ t'.get (p ++ rest) = t.get (p ++ rest)

theorem Sound.rename {attempt : String} (h : Sound t)
    (hrenamed : t.rename (stagingDir attempt) (commitDir id) = some t') : Sound t' ∧
      (∀ rest, t'.get (commitDir id ++ rest) = t.get (stagingDir attempt ++ rest)) ∧
      ∀ other, commitDir other ≠ commitDir id → SameBelow t t' (commitDir other) := by
  obtain ⟨node, -, -, -, -, -, rfl⟩ := rename_eq_some hrenamed staging_ne_checkpoints
  have hother (q : Path) (hq : ¬ commitDir id <+: q) (hp : ¬ stagingDir attempt <+: q) :
      (t.move (stagingDir attempt) (commitDir id)).get q = t.get q := by
    rw [get_move, if_neg hq, if_neg hp]
  have hshort (q : Path) (hq : q.length < 2) :
      (t.move (stagingDir attempt) (commitDir id)).get q = t.get q :=
    hother q (fun h => absurd h.length_le (by rw [length_commitDir]; omega))
      fun h => absurd h.length_le (by rw [stagingDir, length_staging]; omega)
  refine ⟨⟨h.closed.rename hrenamed, (hshort _ (by decide)).trans h.staging,
    (hshort _ (by decide)).trans h.checkpoints, fun name hname => ?_⟩, fun rest => ?_,
    fun other hne rest => ?_⟩
  · by_cases hsame : commitDir id = checkpointsDir ++ [name]
    · exact ⟨id, by simpa [commitDir, eq_comm] using hsame⟩
    · have hlength : (checkpointsDir ++ [name]).length = 2 := rfl
      rw [hother _ (fun hpre => hsame (hpre.eq_of_length (by rw [length_commitDir, hlength])))
        fun hpre => staging_ne_checkpoints (hpre.eq_of_length
          (by rw [stagingDir, length_staging, hlength]))] at hname
      exact h.named name hname
  · rw [get_move, if_pos (List.prefix_append _ _), List.drop_left]
  · have hlength := length_commitDir other
    refine hother _
      (fun hpre => hne (place_eq_of_isPrefix (length_commitDir id) hlength hpre).symm)
      fun hpre => ?_
    exact staging_ne_checkpoints (place_eq_of_isPrefix (length_staging _) hlength hpre)

/-- Where an entry is removed at or below a directory of an attempt or a checkpoint. -/
theorem Sound.removeLeaf {place below : Path} (h : Sound t)
    (hplace : (∃ name, place = stagingRoot ++ [name]) ∨ ∃ id, place = commitDir id)
    (hremoved : t.removeLeaf (place ++ below) = .ok t') : Sound t' ∧
      (∀ p, LeftBelow t t' p) ∧ ∀ id, commitDir id ≠ place → SameBelow t t' (commitDir id) := by
  have hget := (get_removeLeaf hremoved).1
  refine ⟨h.of_frame (h.closed.removeLeaf hremoved) hplace fun q hq => ?_, fun p rest => ?_,
    fun id hne rest => ?_⟩
  · rw [hget, if_neg]
    rintro rfl
    exact hq (List.prefix_append place below)
  · rw [hget]
    split
    · exact .inl rfl
    · exact .inr rfl
  · rw [hget, if_neg]
    intro heq
    have hlength : place.length = 2 := by
      obtain ⟨name, rfl⟩ | ⟨id, rfl⟩ := hplace <;> rfl
    exact hne (place_eq_of_isPrefix hlength (length_commitDir id)
      (heq ▸ List.prefix_append place below)).symm

/-- Directories that are there are not made again. -/
theorem get_createDirAll_of_directory {p : Path} (h : t.Closed) (hp : t.get p = some .directory)
    (hmade : t.createDirAll p = .ok t') (q : Path) : t'.get q = t.get q := by
  rw [(get_createDirAll hmade).1]
  split
  · rename_i hpre
    by_cases hq : q = p
    · rw [hq, hp]
    · rw [h.get_prefix (hp ▸ nofun) hpre hq]
  · rfl

theorem Sound.congr (h : Sound t) (hclosed : t'.Closed) (hget : ∀ q, t'.get q = t.get q) : Sound t' :=
  ⟨hclosed, (hget _).trans h.staging, (hget _).trans h.checkpoints,
    fun name hname => h.named name (hget _ ▸ hname)⟩

/-- What a call of a request can do below the directory of a checkpoint: nothing, or the request
deletes the checkpoint, or it promotes an attempt to it. -/
theorem step_below {request : Request} (h : Sound t) (hallowed : Allowed request op)
    (hchanges : Changes input t t' op) : Sound t' ∧ ∀ id, SameBelow t t' (commitDir id) ∨
      (LeftBelow t t' (commitDir id) ∧ (op = .removeBelow (commitDir id) ∨
        op = .removeDir (commitDir id)) ∧ ∃ id', request = .deleteCommitted id' ∧
          commitDir id' = commitDir id) ∨
      ∃ attempt id', request = .promote attempt id' ∧ commitDir id' = commitDir id ∧
        op = .rename (stagingDir attempt) (commitDir id) ∧
          ∀ rest, t'.get (commitDir id ++ rest) = t.get (stagingDir attempt ++ rest) := by
  -- Both ways to remove: what goes is a part of the checkpoint that is deleted, or of an attempt.
  have hremoval (p below : Path) (hop : op = .removeBelow p ∨ op = .removeDir p)
      (hp : (∃ id, request = .deleteCommitted id ∧ p = commitDir id) ∨
        request.Clears ∧ ∃ name, p = stagingRoot ++ [name])
      (hremoved : t.removeLeaf (p ++ below) = .ok t') : Sound t' ∧ ∀ id,
        SameBelow t t' (commitDir id) ∨ (LeftBelow t t' (commitDir id) ∧
          (op = .removeBelow (commitDir id) ∨ op = .removeDir (commitDir id)) ∧
            ∃ id', request = .deleteCommitted id' ∧ commitDir id' = commitDir id) := by
    obtain ⟨hsound, hleft, hsame⟩ := h.removeLeaf
      (hp.symm.imp And.right fun ⟨id, _, hid⟩ => ⟨id, hid⟩) hremoved
    refine ⟨hsound, fun id => ?_⟩
    by_cases hne : commitDir id = p
    · subst hne
      rcases hp with ⟨id', hrequest, hid'⟩ | ⟨-, name, hname⟩
      · exact .inr ⟨hleft _, hop, id', hrequest, hid'.symm⟩
      · exact absurd hname.symm staging_ne_checkpoints
    · exact .inl (hsame id hne)
  cases op with
  | createDirAll p =>
    obtain rfl : p = checkpointsDir := hallowed
    have hget := get_createDirAll_of_directory h.closed h.checkpoints hchanges
    exact ⟨h.congr (h.closed.createDirAll hchanges) hget, fun id => .inl fun rest => hget _⟩
  | rename p q =>
    obtain ⟨attempt, id', rfl, rfl, rfl⟩ := hallowed
    obtain ⟨hsound, hmoved, hsame⟩ := h.rename hchanges
    refine ⟨hsound, fun id => ?_⟩
    by_cases hne : commitDir id = commitDir id'
    · exact .inr (.inr ⟨attempt, id', rfl, hne.symm, by rw [hne], by rw [hne]; exact hmoved⟩)
    · exact .inl (hsame id hne)
  | removeBelow p =>
    obtain ⟨hsound, hbelow⟩ := hremoval p input.below (.inl rfl) hallowed hchanges.2
    exact ⟨hsound, fun id => (hbelow id).imp_right .inl⟩
  | removeDir p =>
    obtain ⟨hsound, hbelow⟩ := hremoval p [] (.inr rfl) hallowed
      ((List.append_nil p).symm ▸ removeLeaf_of_removeDir hchanges)
    exact ⟨hsound, fun id => (hbelow id).imp_right .inl⟩
  | _ => exact hchanges.elim

theorem sameBelow_of_frame {name : String}
    (hget : ∀ q, ¬ stagingRoot ++ [name] <+: q → t'.get q = t.get q) (id : Id) :
    SameBelow t t' (commitDir id) :=
  fun _ => hget _ fun hpre =>
    staging_ne_checkpoints (place_eq_of_isPrefix (length_staging name) (length_commitDir id) hpre)

/-- What an attempt does stays in its directory. -/
theorem step_staged (h : Sound s.tree) (m : Move) :
    Sound (s.move m).tree ∧ ∀ id, SameBelow s.tree (s.move m).tree (commitDir id) := by
  cases m with
  | lease name | release name => exact ⟨h, fun id rest => rfl⟩
  | stage name rest change =>
    have hsuffices (hclosed : (s.move (.stage name rest change)).tree.Closed)
        (hget : ∀ q, ¬ stagingRoot ++ [name] <+: q →
          (s.move (.stage name rest change)).tree.get q = s.tree.get q) :
        Sound (s.move (.stage name rest change)).tree ∧
          ∀ id, SameBelow s.tree (s.move (.stage name rest change)).tree (commitDir id) :=
      ⟨h.of_frame hclosed (.inl ⟨name, rfl⟩) hget, sameBelow_of_frame hget⟩
    have hbelow : stagingRoot ++ [name] <+: stagingRoot ++ name :: rest :=
      ⟨rest, by rw [List.append_assoc, List.singleton_append]⟩
    have hne (q : Path) (hq : ¬ stagingRoot ++ [name] <+: q) : q ≠ stagingRoot ++ name :: rest := by
      rintro rfl
      exact hq hbelow
    unfold Disk.move at hsuffices ⊢
    dsimp only at hsuffices ⊢
    split at hsuffices
    · rename_i t' hchanged
      cases change with
      | createDirAll =>
        obtain ⟨hget, -⟩ := get_createDirAll hchanged
        refine hsuffices (h.closed.createDirAll hchanged) fun q hq => ?_
        rw [hget]
        split
        · -- The directories on the way to the attempt are there.
          rename_i hpre
          rcases List.prefix_or_prefix_of_prefix hpre hbelow with hshort | hlong
          · have hcases : q = stagingRoot ++ [name] ∨ q <+: stagingRoot :=
              List.prefix_concat_iff.mp hshort
            rcases hcases with rfl | hshort
            · exact absurd (List.prefix_refl _) hq
            · have hroot : q = [] ++ ["staging"] ∨ q <+: [] := List.prefix_concat_iff.mp hshort
              rcases hroot with rfl | hroot
              · exact h.staging.symm
              · rw [List.prefix_nil.mp hroot, h.root]
          · exact absurd hlong hq
        · rfl
      | write contents =>
        exact hsuffices (h.closed.write hchanged) fun q hq => (get_write hchanged).1 q (hne q hq)
      | remove =>
        refine hsuffices (h.closed.removeLeaf hchanged) fun q hq => ?_
        rw [(get_removeLeaf hchanged).1, if_neg (hne q hq)]
    · exact hsuffices h.closed fun _ _ => rfl

/-- Starting again changes nothing in the tree. -/
theorem step_restarted (h : Sound s.tree) :
    Sound s.restart.tree ∧ ∀ q, s.restart.tree.get q = s.tree.get q := by
  rw [Disk.restart, Disk.new]
  cases hstaging : s.tree.createDirAll stagingRoot with
  | error failure => exact ⟨h, fun _ => rfl⟩
  | ok t₁ =>
    have hget := get_createDirAll_of_directory h.closed h.staging hstaging
    have hsound := h.congr (h.closed.createDirAll hstaging) hget
    dsimp only [bind, Except.bind]
    cases hcheckpoints : t₁.createDirAll checkpointsDir with
    | error failure => exact ⟨h, fun _ => rfl⟩
    | ok t₂ =>
      have hget' := get_createDirAll_of_directory hsound.closed hsound.checkpoints hcheckpoints
      exact ⟨hsound.congr (hsound.closed.createDirAll hcheckpoints) hget',
        fun q => (hget' q).trans (hget q)⟩

theorem initial_tree : Disk.initial.tree =
    ⟨[(["checkpoints"], .directory), (["staging"], .directory), ([], .directory)]⟩ := by decide

/-- Both directories are empty at first. -/
theorem get_initial {p : Path} {name : String} (h : p ≠ []) :
    Disk.initial.tree.get (p ++ [name]) = none := by
  have hne (other : String) : p ++ [name] ≠ [other] := fun heq =>
    h (by simpa using congrArg List.dropLast heq)
  have hnil : p ++ [name] ≠ [] := by simp
  rw [initial_tree]
  simp only [Files.Tree.get, List.lookup_cons, List.lookup_nil, beq_false_of_ne (hne "checkpoints"),
    beq_false_of_ne (hne "staging"), beq_false_of_ne hnil]

theorem sound_initial : Sound Disk.initial.tree := by
  refine ⟨fun p name hname => ?_, by rw [initial_tree]; rfl, by rw [initial_tree]; rfl,
    fun name hname => absurd (get_initial (by simp [checkpointsDir])) hname⟩
  by_contra hp
  refine hname (get_initial ?_)
  rintro rfl
  exact hp (by rw [initial_tree]; rfl)

end Steps

section Committed

variable {storage : LocalStorage} {t : List (Event (directories storage))} {id : Id}

theorem obeys_serve (storage : LocalStorage) (request : Request) :
    Obeys (fun _ op => Allowed request op) (fun _ _ => True) [] (serve storage request) :=
  (Obeys.extend (uses_serve storage request) fun _ _ _ hallowed => hallowed).weaken
    fun _ _ _ => trivial

theorem sound_of_run (h : Run t) : Sound (stateOf t).tree := by
  refine h.invariant_of_obeys (P := fun s : Disk => Sound s.tree) (obeys_serve storage)
    sound_initial (fun _ _ hs => hs) (fun request _ op input s hallowed hs => ?_)
    (fun s hs => (step_restarted hs).1) fun m s hs => (step_staged hs m).1
  obtain hsame | ⟨t', hchanged, hchanges⟩ := handle_cases s op input
  · change Sound (s.handle op input).2.tree
    rw [hsame]
    exact hs
  · exact hchanged ▸ (step_below hs hallowed hchanges).1

/-- A request that deletes the checkpoint removes something. -/
def Deletes (id : Id) : Event (directories storage) → List (Event (directories storage)) → Prop
  | .performed tid op _ _, past =>
    (op = .removeBelow (commitDir id) ∨ op = .removeDir (commitDir id)) ∧
      ∃ id', requestOf tid past = some (.deleteCommitted id') ∧ commitDir id' = commitDir id
  | _, _ => False

/-- An attempt was promoted to the checkpoint, and what is left below its directory is what was
staged then: all of it, unless the checkpoint has been deleted since. -/
def Promoted (id : Id) (t : List (Event (directories storage))) : Prop :=
  ∃ tid attempt id' input past,
    .performed tid (.rename (stagingDir attempt) (commitDir id)) input (stateOf past) :: past <:+ t ∧
    requestOf tid past = some (.promote attempt id') ∧ commitDir id' = commitDir id ∧
    (∀ rest, (stateOf t).tree.get (commitDir id ++ rest) = none ∨
      (stateOf t).tree.get (commitDir id ++ rest) =
        (stateOf past).tree.get (stagingDir attempt ++ rest)) ∧
    ((∀ rest, (stateOf t).tree.get (commitDir id ++ rest) =
        (stateOf past).tree.get (stagingDir attempt ++ rest)) ∨
      ∃ e past', e :: past' <:+ t ∧
        .performed tid (.rename (stagingDir attempt) (commitDir id)) input (stateOf past) :: past <:+
          past' ∧ Deletes id e past')

theorem Promoted.same {e : Event (directories storage)} (h : Promoted id t)
    (hsame : SameBelow (stateOf t).tree (stateOf (e :: t)).tree (commitDir id)) :
    Promoted id (e :: t) := by
  obtain ⟨tid, attempt, id', input, past, hsuffix, hrequest, hid, hleft, hall⟩ := h
  refine ⟨tid, attempt, id', input, past, hsuffix.trans (List.suffix_cons e t), hrequest, hid,
    fun rest => hsame rest ▸ hleft rest, hall.imp (fun hall rest => hsame rest ▸ hall rest) ?_⟩
  rintro ⟨e', past', hdeleted, hafter, hdeletes⟩
  exact ⟨e', past', hdeleted.trans (List.suffix_cons e t), hafter, hdeletes⟩

theorem Promoted.deleted {e : Event (directories storage)} (h : Promoted id t)
    (hleft : LeftBelow (stateOf t).tree (stateOf (e :: t)).tree (commitDir id))
    (hdeletes : Deletes id e t) : Promoted id (e :: t) := by
  obtain ⟨tid, attempt, id', input, past, hsuffix, hrequest, hid, hbefore, -⟩ := h
  refine ⟨tid, attempt, id', input, past, hsuffix.trans (List.suffix_cons e t), hrequest, hid,
    fun rest => ?_, .inr ⟨e, t, List.suffix_refl _, hsuffix, hdeletes⟩⟩
  rcases hleft rest with hnone | hsame
  · exact .inl hnone
  · exact hsame ▸ hbefore rest

/-- In every run, what is below the directory of a checkpoint is what one promotion took out of the
staging directory of its attempt, or what the deletion of that checkpoint has left of it. -/
theorem committed_as_promoted (h : Run t)
    (hthere : (stateOf t).tree.get (commitDir id) ≠ none) : Promoted id t := by
  have hroot (t t' : Files.Tree UInt8) (hsame : t'.get (commitDir id ++ []) = t.get (commitDir id ++ [])) :
      t'.get (commitDir id) = t.get (commitDir id) := by simpa using hsame
  -- The induction is on the run. Only a call of a request can do something below the directory.
  induction h with
  | start => exact absurd (get_initial (by simp [checkpointsDir])) hthere
  | accept request hrun ih => exact (ih hthere).same fun _ => rfl
  | @perform t tid request op rest input hrun hlive hrequest hfollows ih =>
    obtain hsame | ⟨tree, hchanged, hchanges⟩ := handle_cases (stateOf t) op input
    · have hstate : stateOf (.performed tid op input (stateOf t) :: t) = stateOf t := hsame
      rw [hstate] at hthere
      exact (ih hthere).same fun rest => by rw [hstate]
    · have hstate : (stateOf (.performed tid op input (stateOf t) :: t)).tree = tree :=
        congrArg Disk.tree hchanged
      have hallowed := ((obeys_serve storage request).of_follows hfollows).1
      rw [hstate] at hthere
      rcases (step_below (sound_of_run hrun) hallowed hchanges).2 id with hsame | ⟨hleft, hop, hid⟩ |
        ⟨attempt, id', rfl, hid, rfl, hmoved⟩
      · exact (ih (hroot _ _ (hsame []) ▸ hthere)).same (hstate ▸ hsame)
      -- A removal leaves nothing at a place, or what was there.
      · obtain ⟨id', rfl, hid⟩ := hid
        refine (ih fun hnone => ?_).deleted (hstate ▸ hleft) ⟨hop, id', hrequest, hid⟩
        rcases hleft [] with hgone | hsame
        · exact hthere (by simpa using hgone)
        · exact hthere (hroot _ _ hsame ▸ hnone)
      · exact ⟨tid, attempt, id', input, t, List.suffix_refl _, hrequest, hid,
          fun rest => .inr (hstate ▸ hmoved rest), .inl fun rest => hstate ▸ hmoved rest⟩
  | answer hrun hlive hrequest hfollows ih => exact (ih hthere).same fun _ => rfl
  | @restart t hrun ih =>
    have hsame := (step_restarted (sound_of_run hrun)).2
    exact (ih (hsame _ ▸ hthere)).same fun rest => hsame _
  | @move t m hrun ih =>
    have hsame := (step_staged (sound_of_run hrun) m).2 id
    exact (ih (hroot _ _ (hsame []) ▸ hthere)).same hsame

end Committed

/-! ### A small storage

One attempt stages a checkpoint and another one works while it is promoted. -/

namespace Demo

/-- A call that succeeds. -/
def sound : Input := ⟨false, "", none, 0, []⟩

/-- What an attempt stages, as far as it makes a committed checkpoint. -/
def staged (name : String) : List (Action (directories ⟨"/data"⟩)) :=
  [.move (.stage name [] .createDirAll),
    .move (.stage name ["manifest"] (.write [109])),
    .move (.stage name ["manifest.digest"] (.write [100])),
    .move (.stage name ["integrity"] .createDirAll)]

def promoted : List (Action (directories ⟨"/data"⟩)) :=
  staged "capture-1" ++ [.accept (.promote "capture-1" 7), .advance 0 sound, .advance 0 sound] ++
    staged "capture-2" ++ List.replicate 3 (.advance 0 sound)

end Demo

theorem committed_as_promoted_capture : Promoted 7 (exec Demo.promoted).trace :=
  committed_as_promoted (exec_run Demo.promoted) (by decide +kernel)

end Directories

end CheckpointFabric
