import CheckpointFabric.Checkpoint
import Mathlib.Data.List.Chain
import Mathlib.Data.List.Nodup

/-!
# Incremental chains

An incremental checkpoint is worth nothing without the checkpoints below it. Before it is relied
on, its parents are walked down to a base, with a bound on the depth and a memory of what was
visited.

## Main definitions

* `validateIncrementalChain` — the walk
* `ancestorPath` — the parents of a checkpoint, one after the other
* `Chain` — the checkpoints that following the parents visits, each of them fit to be visited
* `EndsInBase`, `EndsOpen` — the two ways in which such a chain comes to an end

## Main results

* `validateIncrementalChain_iff` — the walk accepts the chains that end in either way
* `Complete.unique` — there is one way to walk
* `validateIncrementalChain_exact_iff` — so it accepts the chains that end in a base where none
  ends in an incremental checkpoint without a parent
-/

set_option autoImplicit false

namespace CheckpointFabric.Lineage

/-- The name of a lifecycle state in debug output. -/
def debugLifecycle : LifecycleState → String
  | .created => "Created"
  | .capturing => "Capturing"
  | .captured => "Captured"
  | .validating => "Validating"
  | .sealed => "Sealed"
  | .persisting => "Persisting"
  | .available => "Available"
  | .restorePending => "RestorePending"
  | .restoring => "Restoring"
  | .restored => "Restored"
  | .retired => "Retired"
  | .failed => "Failed"

/-- The name of an integrity state in debug output. -/
def debugIntegrity : IntegrityState → String
  | .pending => "Pending"
  | .valid => "Valid"
  | .corrupt => "Corrupt"
  | .unverifiable => "Unverifiable"

/-- The checkpoint is stored as a change of another. -/
def isIncremental (c : CheckpointObject) : Bool :=
  match c.checkpointType with
  | .incremental | .delta => true
  | _ => false

/-- The parent that the walk goes on with. -/
def chainBase (c : CheckpointObject) : Option Id :=
  if isIncremental c then c.parentCheckpoint else none

section Walk

variable (getParent : Id → FabricResult (Option CheckpointObject)) (maxDepth : ℕ)

/-- A parent, if it is there and can be relied on. -/
def fetchParent (parentId : Id) : FabricResult CheckpointObject := do
  match ← getParent parentId with
  | none => .error (.missingDependency
      s!"incremental chain requires parent checkpoint {toHex parentId} which is missing")
  | some parent =>
    if parent.lifecycle.isTerminal ∨ parent.integrityState = .corrupt then
      .error (.missingDependency
        s!"parent checkpoint {toHex parentId} is not restorable ({debugLifecycle parent.lifecycle}, {debugIntegrity parent.integrityState})")
    else .ok parent

/-- The walk from `c`, when `remaining` more checkpoints may be visited. -/
def validateFrom : (remaining : ℕ) → (seen : List Id) → CheckpointObject → FabricResult Unit
  | remaining, seen, c =>
    if c.checkpointId ∈ seen then
      .error (.lineageViolation
        s!"incremental chain contains a cycle at {toHex c.checkpointId}")
    else
      match remaining with
      | 0 => .error (.lineageViolation
          s!"incremental chain exceeds policy depth limit of {maxDepth}")
      | remaining + 1 =>
        match chainBase c with
        | none => .ok ()
        | some parentId => do
          let parent ← fetchParent getParent parentId
          validateFrom remaining (c.checkpointId :: seen) parent

/-- Validate an incremental chain: walk from `c` through parent links and ensure no cycles,
missing links, or broken chains. -/
def validateIncrementalChain (c : CheckpointObject) : FabricResult Unit :=
  validateFrom getParent maxDepth maxDepth [] c

end Walk

section AncestorPath

variable (get : Id → FabricResult (Option CheckpointObject))

/-- Look an ancestor up: the parent that the path goes on with, if it goes on. -/
def ancestorBase (id : Id) : FabricResult (Option Id) := do
  match ← get id with
  | none => .error (.missingDependency s!"lineage ancestor {toHex id} missing")
  | some c => .ok (chainBase c)

/-- The loop: `cur` is the ancestor that comes next. It goes round `fuel` times at most, and is
`none` where this is too few. -/
def ancestorsFrom : (fuel : ℕ) → (seen path : List Id) → (cur : Option Id) →
    Option (FabricResult (List Id))
  | _, _, path, none => some (.ok path)
  | 0, _, _, some _ => none
  | fuel + 1, seen, path, some id =>
    if id ∈ seen then some (.error (.lineageViolation "lineage cycle detected"))
    else
      match ancestorBase get id with
      | .error e => some (.error e)
      | .ok cur => ancestorsFrom fuel (id :: seen) (path ++ [id]) cur

/-- Build the ancestor path of a checkpoint through parent links. -/
def ancestorPath (fuel : ℕ) (c : CheckpointObject) : Option (FabricResult (List Id)) :=
  ancestorsFrom get fuel [] [] c.parentCheckpoint

end AncestorPath

section Chain

/-- `d` is recorded as the parent of `c`, and is there. -/
def Parent (getParent : Id → FabricResult (Option CheckpointObject)) (c d : CheckpointObject) :
    Prop :=
  ∃ id, c.parentCheckpoint = some id ∧ getParent id = .ok (some d)

/-- Following the parents of `c` visits these checkpoints: distinct ones, not more than the bound,
where every parent can be relied on and every checkpoint but the last is incremental. -/
structure Chain (getParent : Id → FabricResult (Option CheckpointObject)) (maxDepth : ℕ)
    (c : CheckpointObject) (visited : List CheckpointObject) : Prop where
  start : visited.head? = some c
  linked : visited.IsChain (Parent getParent)
  distinct : (visited.map (·.checkpointId)).Nodup
  bounded : visited.length ≤ maxDepth
  restorable : ∀ d ∈ visited.tail, ¬ d.lifecycle.isTerminal ∧ d.integrityState ≠ .corrupt
  incremental : ∀ d ∈ visited.dropLast, isIncremental d

/-- The last checkpoint is a base. -/
def EndsInBase (visited : List CheckpointObject) : Prop :=
  ∀ d ∈ visited.getLast?, ¬ isIncremental d

/-- The last checkpoint is incremental, and no parent of it is recorded. -/
def EndsOpen (visited : List CheckpointObject) : Prop :=
  ∀ d ∈ visited.getLast?, isIncremental d ∧ d.parentCheckpoint = none

variable {getParent : Id → FabricResult (Option CheckpointObject)} {maxDepth remaining : ℕ}
  {seen : List Id} {c d : CheckpointObject} {visited visited' : List CheckpointObject}

theorem chainBase_eq_none_iff :
    chainBase c = none ↔ ¬ isIncremental c ∨ (isIncremental c ∧ c.parentCheckpoint = none) := by
  unfold chainBase
  by_cases h : isIncremental c = true
  · simp [h]
  · simp [h]

theorem chainBase_eq_some_iff {id : Id} :
    chainBase c = some id ↔ isIncremental c ∧ c.parentCheckpoint = some id := by
  unfold chainBase
  by_cases h : isIncremental c = true
  · simp [h]
  · simp [h]

theorem fetchParent_eq_ok_iff {id : Id} :
    fetchParent getParent id = .ok d ↔ getParent id = .ok (some d) ∧
      ¬ d.lifecycle.isTerminal ∧ d.integrityState ≠ .corrupt := by
  unfold fetchParent
  cases getParent id with
  | error e => simp [bind, Except.bind]
  | ok found =>
    cases found with
    | none => simp [bind, Except.bind]
    | some parent =>
      simp only [bind, Except.bind]
      split
      · rename_i hbad
        simp only [reduceCtorEq, false_iff, Except.ok.injEq, Option.some.injEq]
        rintro ⟨rfl, hlive, hintact⟩
        exact hbad.elim hlive hintact
      · rename_i hgood
        simp only [Except.ok.injEq, Option.some.injEq]
        constructor
        · rintro rfl
          exact ⟨rfl, not_or.mp hgood⟩
        · exact fun h => h.1

/-- A chain that cannot go on. -/
def Complete (visited : List CheckpointObject) : Prop := ∀ d ∈ visited.getLast?, chainBase d = none

theorem complete_singleton : Complete [c] ↔ chainBase c = none := by simp [Complete]

theorem complete_cons_cons : Complete (c :: d :: visited) ↔ Complete (d :: visited) := by
  simp [Complete]

theorem Chain.mem_start (h : Chain getParent maxDepth c visited) : c ∈ visited :=
  List.mem_of_head? h.start

theorem Chain.exists_last (h : Chain getParent maxDepth c visited) :
    ∃ last, visited.getLast? = some last := by
  cases hlast : visited.getLast? with
  | some last => exact ⟨last, rfl⟩
  | none =>
    rw [List.getLast?_eq_none_iff] at hlast
    cases hlast ▸ h.start

/-- A checkpoint alone is a chain. -/
theorem chain_singleton : Chain getParent (remaining + 1) c [c] where
  start := rfl
  linked := .singleton c
  distinct := List.nodup_singleton _
  bounded := Nat.succ_le_succ (Nat.zero_le _)
  restorable := by simp
  incremental := by simp

/-- A chain can be put below an incremental checkpoint that is not in it. -/
theorem Chain.cons (h : Chain getParent remaining d visited) (hincremental : isIncremental c)
    (hparent : Parent getParent c d)
    (hrestorable : ¬ d.lifecycle.isTerminal ∧ d.integrityState ≠ .corrupt)
    (hfresh : ∀ x ∈ visited, x.checkpointId ≠ c.checkpointId) :
    Chain getParent (remaining + 1) c (c :: visited) := by
  obtain ⟨rest, rfl⟩ : ∃ rest, visited = d :: rest := List.head?_eq_some_iff.mp h.start
  constructor
  · rfl
  · exact .cons_cons hparent h.linked
  · rw [List.map_cons, List.nodup_cons]
    refine ⟨fun hmem => ?_, h.distinct⟩
    obtain ⟨x, hx, heq⟩ := List.mem_map.mp hmem
    exact hfresh x hx heq
  · exact Nat.succ_le_succ h.bounded
  · exact List.forall_mem_cons.mpr ⟨hrestorable, h.restorable⟩
  · exact List.forall_mem_cons.mpr ⟨hincremental, h.incremental⟩

/-- A chain is its first checkpoint, or a chain below it. -/
theorem Chain.cases_start (h : Chain getParent (remaining + 1) c visited) :
    visited = [c] ∨ ∃ d rest, visited = c :: d :: rest ∧ Chain getParent remaining d (d :: rest) ∧
      isIncremental c ∧ Parent getParent c d ∧
      (¬ d.lifecycle.isTerminal ∧ d.integrityState ≠ .corrupt) ∧
      ∀ x ∈ d :: rest, x.checkpointId ≠ c.checkpointId := by
  obtain ⟨tail, rfl⟩ : ∃ tail, visited = c :: tail := List.head?_eq_some_iff.mp h.start
  cases tail with
  | nil => exact .inl rfl
  | cons d rest =>
    obtain ⟨hparent, hlinked⟩ := List.isChain_cons_cons.mp h.linked
    obtain ⟨hrestorable, hrest⟩ := List.forall_mem_cons.mp h.restorable
    obtain ⟨hincremental, hbelow⟩ := List.forall_mem_cons.mp h.incremental
    obtain ⟨hfresh, hdistinct⟩ := List.nodup_cons.mp h.distinct
    refine .inr ⟨d, rest, rfl, ⟨rfl, hlinked, hdistinct, Nat.le_of_succ_le_succ h.bounded, hrest,
      hbelow⟩, hincremental, hparent, hrestorable, fun x hx heq => ?_⟩
    exact hfresh (List.mem_map.mpr ⟨x, hx, heq⟩)

/-- The walk succeeds iff a chain of checkpoints that were not seen comes to an end. -/
theorem validateFrom_iff : validateFrom getParent maxDepth remaining seen c = .ok () ↔
    ∃ visited, Chain getParent remaining c visited ∧ (∀ d ∈ visited, d.checkpointId ∉ seen) ∧
      Complete visited := by
  -- By induction on the steps that are left; the ids seen so far stay outside the chain.
  induction remaining generalizing seen c with
  | zero =>
    unfold validateFrom
    constructor
    · intro h
      split at h
      all_goals cases h
    · rintro ⟨visited, hchain, -, -⟩
      have hnil := List.eq_nil_of_length_eq_zero (Nat.le_zero.mp hchain.bounded)
      cases hnil ▸ hchain.start
  | succ remaining ih =>
    unfold validateFrom
    by_cases hseen : c.checkpointId ∈ seen
    · rw [if_pos hseen]
      refine ⟨by rintro ⟨⟩, ?_⟩
      rintro ⟨visited, hchain, hfresh, -⟩
      exact absurd hseen (hfresh c hchain.mem_start)
    rw [if_neg hseen]
    cases hbase : chainBase c with
    | none =>
      refine ⟨fun _ => ⟨[c], chain_singleton, ?_, complete_singleton.mpr hbase⟩, fun _ => rfl⟩
      exact List.forall_mem_singleton.mpr hseen
    | some parentId =>
      obtain ⟨hincremental, hrecorded⟩ := chainBase_eq_some_iff.mp hbase
      dsimp only
      constructor
      · intro h
        cases hfetch : fetchParent getParent parentId with
        | error e =>
          rw [hfetch] at h
          cases h
        | ok parent =>
          rw [hfetch] at h
          obtain ⟨hfound, hrestorable⟩ := fetchParent_eq_ok_iff.mp hfetch
          obtain ⟨visited, hchain, hfresh, hcomplete⟩ := ih.mp h
          obtain ⟨rest, rfl⟩ := List.head?_eq_some_iff.mp hchain.start
          refine ⟨c :: parent :: rest, hchain.cons hincremental ⟨parentId, hrecorded, hfound⟩
            hrestorable fun x hx heq => ?_, ?_, complete_cons_cons.mpr hcomplete⟩
          · exact hfresh x hx (heq ▸ .head _)
          · refine List.forall_mem_cons.mpr ⟨hseen, fun x hx hmem => ?_⟩
            exact hfresh x hx (.tail _ hmem)
      · rintro ⟨visited, hchain, hfresh, hcomplete⟩
        rcases hchain.cases_start with rfl | ⟨d, rest, rfl, hbelow, -, hparent, hrestorable, hnew⟩
        · rw [complete_singleton, hbase] at hcomplete
          cases hcomplete
        · obtain ⟨id, hid, hfound⟩ := hparent
          obtain rfl := Option.some.inj (hrecorded.symm.trans hid)
          rw [fetchParent_eq_ok_iff.mpr ⟨hfound, hrestorable⟩]
          refine ih.mpr ⟨d :: rest, hbelow, fun x hx hmem => ?_, complete_cons_cons.mp hcomplete⟩
          rcases List.mem_cons.mp hmem with heq | hmem
          · exact hnew x hx heq
          · exact hfresh x (.tail _ hx) hmem

/-- There is one way to walk: two chains from a checkpoint that cannot go on are the same. -/
theorem Complete.unique (h : Chain getParent maxDepth c visited)
    (h' : Chain getParent maxDepth c visited') (hcomplete : Complete visited)
    (hcomplete' : Complete visited') : visited = visited' := by
  induction maxDepth generalizing c visited visited' with
  | zero =>
    have hnil := List.eq_nil_of_length_eq_zero (Nat.le_zero.mp h.bounded)
    cases hnil ▸ h.start
  | succ remaining ih =>
    rcases h.cases_start with rfl | ⟨d, rest, rfl, hbelow, hincremental, hparent, -, -⟩
    · rcases h'.cases_start with rfl | ⟨d', rest', rfl, -, hincremental', ⟨id, hid, -⟩, -, -⟩
      · rfl
      · have hbase := chainBase_eq_some_iff.mpr ⟨hincremental', hid⟩
        cases hbase.symm.trans (complete_singleton.mp hcomplete)
    · obtain ⟨id, hid, hfound⟩ := hparent
      have hbase := chainBase_eq_some_iff.mpr ⟨hincremental, hid⟩
      rcases h'.cases_start with rfl | ⟨d', rest', rfl, hbelow', -, ⟨id', hid', hfound'⟩, -, -⟩
      · cases hbase.symm.trans (complete_singleton.mp hcomplete')
      · obtain rfl := Option.some.inj (hid.symm.trans hid')
        obtain rfl := Option.some.inj (Except.ok.inj (hfound.symm.trans hfound'))
        rw [ih hbelow hbelow' (complete_cons_cons.mp hcomplete) (complete_cons_cons.mp hcomplete')]

/-- A chain from a checkpoint is complete iff it ends in one of the two ways. -/
theorem Chain.complete_iff (h : Chain getParent maxDepth c visited) :
    Complete visited ↔ EndsInBase visited ∨ EndsOpen visited := by
  obtain ⟨last, hlast⟩ := h.exists_last
  simp [Complete, EndsInBase, EndsOpen, hlast, chainBase_eq_none_iff]

/-- What the walk accepts. -/
theorem validateIncrementalChain_iff :
    validateIncrementalChain getParent maxDepth c = .ok () ↔
      ∃ visited, Chain getParent maxDepth c visited ∧ (EndsInBase visited ∨ EndsOpen visited) := by
  unfold validateIncrementalChain
  rw [validateFrom_iff]
  constructor
  · rintro ⟨visited, hchain, -, hcomplete⟩
    exact ⟨visited, hchain, hchain.complete_iff.mp hcomplete⟩
  · rintro ⟨visited, hchain, hends⟩
    exact ⟨visited, hchain, by simp, hchain.complete_iff.mpr hends⟩

/-- For every graph, depth limit and checkpoint: the walk accepts exactly the chains that end in a
base, iff no chain from the checkpoint ends in an incremental checkpoint without a parent. -/
theorem validateIncrementalChain_exact_iff
    (getParent : Id → FabricResult (Option CheckpointObject)) (maxDepth : ℕ) (c : CheckpointObject) :
    (validateIncrementalChain getParent maxDepth c = .ok () ↔
      ∃ visited, Chain getParent maxDepth c visited ∧ EndsInBase visited) ↔
    ¬ ∃ visited, Chain getParent maxDepth c visited ∧ EndsOpen visited := by
  rw [validateIncrementalChain_iff]
  constructor
  · rintro hexact ⟨open_, hopen, hends⟩
    obtain ⟨visited, hchain, hbase⟩ := hexact.mp ⟨open_, hopen, .inr hends⟩
    -- Both chains cannot go on, so they are one and the same, and it ends in both ways.
    obtain rfl := Complete.unique hopen hchain (hopen.complete_iff.mpr (.inr hends))
      (hchain.complete_iff.mpr (.inl hbase))
    obtain ⟨last, hlast⟩ := hopen.exists_last
    exact hbase last hlast (hends last hlast).1
  · intro hclosed
    constructor
    · rintro ⟨visited, hchain, hbase | hopen⟩
      · exact ⟨visited, hchain, hbase⟩
      · exact absurd ⟨visited, hchain, hopen⟩ hclosed
    · rintro ⟨visited, hchain, hbase⟩
      exact ⟨visited, hchain, .inl hbase⟩

end Chain

/-- An incremental checkpoint that records no parent. -/
def Demo.orphan : CheckpointObject where
  checkpointId := 1
  workloadId := 7
  workloadGeneration := 0
  checkpointGeneration := 1
  parentCheckpoint := none
  captureAttempt := .capture 7 1
  coordinatorEpoch := 1
  createdMs := 0
  sealMs := 0
  sourceNode := "n1"
  sourceBackend := ""
  frontier := {}
  checkpointType := .incremental
  consistency := .crashConsistent
  resumability := .restartFromCheckpoint
  components := []
  totalLogicalBytes := 0
  totalPhysicalBytes := 0
  compressedBytes := 0
  durableLocations := []
  replicaCount := 0
  supersedes := none
  supersededBy := none
  policyVersion := 1
  runtimeDescriptor := default
  hardwareDescriptor := {}
  dependencies := []
  integrityState := .valid
  lifecycle := .available
  restoreCount := 0
  lastRestoreResult := none
  protection := .none
  retirementEligibility := .eligible
  metadata := "null"
  manifestDigest := none
  manifestJson := none

/-- It is accepted, and there is no base below it. -/
theorem orphan_accepted :
    validateIncrementalChain (fun _ => .ok none) 8 Demo.orphan = .ok () ∧
    ¬ ∃ visited, Chain (fun _ => .ok none) 8 Demo.orphan visited ∧ EndsInBase visited := by
  refine ⟨by decide +kernel, ?_⟩
  rintro ⟨visited, hchain, hbase⟩
  rcases hchain.cases_start with rfl | ⟨d, rest, rfl, -, -, ⟨id, hid, -⟩, -, -⟩
  · exact hbase Demo.orphan rfl (by decide)
  · cases hid

end CheckpointFabric.Lineage
