import CheckpointFabric.Disk
import CheckpointFabric.Footprints.Staging
import CheckpointFabric.Properties.Anchoring

/-!
# Replication promotes what is anchored

A node that fetches a replica believes its peer in nothing. Whatever the peer answers, the
directory becomes a committed one only when it holds the anchored manifest and, for every
component of it, a file with the recorded size and hash; and each component is fetched with at
most one call more than it has bytes.

## Main definitions

* `Replicated` — what a replication that succeeds has committed

## Main results

* `ends_fetchChunks` — how often a component is asked for
* `doReplicate_anchored` — nothing else is promoted
-/

set_option autoImplicit false

namespace CheckpointFabric.Staging

open Concurrency Replica

section Replicas

variable {codecs : WriteCodecs} {spec : Provider → ProviderSpec} {node : NodeState}
  {req : NodeReplicateRequest} {s s' : Site} {tree : Tree} {c : ComponentEntry}

section Fetching

theorem ends_fetched {α : Type} {p : Work α}
    (huses : Uses (fun op : stagingInterface.Op => Op.fetches op = []) p) :
    Ends (Step spec) (fun _ s' => s'.fetched = s.fetched) p s := by
  refine Ends.of_uses huses (fun op s₁ reply s₂ hop hstep hinv => ?_) rfl
  rw [hstep.fetched_eq, hop, List.nil_append, hinv]

theorem yields_discard {error : Option String} :
    Yields (Step spec) (fun failure _ => failure.ok = false) (discard req error) s :=
  Yields.of_returns (Returns.bind fun _ => returns_pure rfl)

theorem uses_discard {allowed : Op → Prop} (h : allowed .removeStaging) {error : Option String} :
    Uses allowed (discard req error) :=
  Uses.bind (Uses.ignore (uses_call.mpr h)) fun _ => trivial

/-- The fetch loop of a component makes at most one call more than bytes are missing. -/
theorem ends_fetchChunks (offset : ℕ) :
    Ends (Step spec) (fun _ s' => s'.fetched.length ≤
      s.fetched.length + (c.storageRepresentation.storedSize - offset) + 1)
      (fetchChunks req c offset) s := by
  induction offset using fetchChunks.induct req c generalizing s with
  | case1 offset ih =>
    rw [fetchChunks]
    refine ends_call_bind (fun chunk s₁ hstep => ?_) fun e s₁ hstep => ?_
    · have hone : s₁.fetched.length = s.fetched.length + 1 := by
        rw [hstep.fetched_eq]
        rfl
      split
      · refine Ends.bind (ends_fetched (uses_discard (by rfl))) (fun failure s₂ hsame => ?_) fun e s₂ hsame => ?_
        · rw [ends_pure, hsame]
          omega
        · rw [hsame]
          omega
      · rename_i hchunk
        have hsame {reply : FabricResult Unit} {s₂ : Site} (hstep : Step spec
            (.appendFile c.storageRepresentation.relativePath chunk.bytes) s₁ reply s₂) :
            s₂.fetched.length = s₁.fetched.length := by
          rw [hstep.fetched_eq]
          rfl
        refine ends_call_bind (fun _ s₂ hstep => ?_) fun e s₂ hstep => ?_
        · have hcount := hsame hstep
          split
          · rw [ends_pure]
            omega
          · rename_i hlast
            -- A chunk that is not the last one is not empty.
            have hprogress := lt_of_chunkError hchunk hlast
            refine (ih chunk hchunk hlast).weaken fun _ s₃ hrest => ?_
            omega
        · have hcount := hsame hstep
          omega
    · rw [hstep.fetched_eq]
      simp [Op.fetches]

end Fetching

section Committing

theorem ends_committed {α : Type} {p : Work α}
    (huses : Uses (fun op : stagingInterface.Op => op ≠ Op.renameToCommit) p) :
    Ends (Step spec) (fun _ s' => s'.committed = s.committed) p s := by
  refine Ends.of_uses huses (fun op s₁ reply s₂ hop hstep hinv => ?_) rfl
  rw [hstep.committed_eq fun heq => absurd heq hop, hinv]

/-- A promotion moves the directory as it is, or leaves the committed place alone. -/
theorem ends_promote {commit : String} :
    Ends (Step spec) (fun result s' =>
      (result = .ok () → s.committed = none ∧ ∃ tree, s.staging = some tree ∧
        s'.committed = some tree) ∧
      ∀ e, result = .error e → s'.committed = s.committed) (promote commit) s := by
  have hfailed {e : FabricError} {s' : Site} (h : s'.committed = s.committed) :
      ((.error e : FabricResult Unit) = .ok () → s.committed = none ∧ ∃ tree,
        s.staging = some tree ∧ s'.committed = some tree) ∧
      ∀ e', (.error e : FabricResult Unit) = .error e' → s'.committed = s.committed :=
    ⟨by rintro ⟨⟩, fun _ _ => h⟩
  -- The end of a promotion, once the parent directory is there.
  have hrename : Ends (Step spec) (fun result s' =>
      (result = .ok () → s.committed = none ∧ ∃ tree, s.staging = some tree ∧
        s'.committed = some tree) ∧
      ∀ e, result = .error e → s'.committed = s.committed)
      (do perform .syncStaging; perform .renameToCommit) s := by
    refine ends_call_bind (fun _ s₁ hsync => ?_) fun e s₁ hsync => ?_
    · obtain rfl := hsync.eq_of_quiet not_false
      intro reply s₂ hstep
      cases reply with
      | ok _ =>
        obtain ⟨hfree, tree, htree, rfl⟩ := hstep
        exact ⟨fun _ => ⟨hfree, tree, htree, rfl⟩, by rintro _ ⟨⟩⟩
      | error e => exact hfailed (hstep.committed_eq fun _ => ⟨e, rfl⟩)
    · obtain rfl := hsync.eq_of_quiet not_false
      exact hfailed rfl
  unfold promote
  refine ends_asks_bind (uses_call.mpr not_false) fun exists_ => ?_
  split
  · exact hfailed rfl
  · refine ends_asks_bind (uses_call.mpr not_false) fun parentExists => ?_
    split
    · refine ends_call_bind (fun _ s₁ hcreate => ?_) fun e s₁ hcreate => ?_
      · obtain rfl := hcreate.eq_of_quiet not_false
        exact hrename
      · obtain rfl := hcreate.eq_of_quiet not_false
        exact hfailed rfl
    · exact hrename

theorem Op.Fills.ne_rename {op : Op} (h : op.Fills) : op ≠ .renameToCommit := by
  rintro rfl
  exact h

/-- Fetching a component promotes nothing. -/
theorem uses_fetchChunks (offset : ℕ) :
    Uses (fun op : stagingInterface.Op => op ≠ Op.renameToCommit) (fetchChunks req c offset) := by
  induction offset using fetchChunks.induct req c with
  | case1 offset ih =>
    rw [fetchChunks]
    refine Uses.bind (uses_call.mpr (by simp)) fun chunk => ?_
    split
    · exact Uses.bind (uses_discard (by simp)) fun _ => trivial
    · rename_i hchunk
      refine Uses.bind (uses_call.mpr (by simp)) fun _ => ?_
      split
      · trivial
      · exact ih chunk hchunk ‹_›

theorem uses_writeLine {path line : String} :
    Uses (fun op : stagingInterface.Op => op ≠ Op.renameToCommit) (writeLine path line) :=
  uses_call.mpr (by simp)

theorem uses_fetchComponents {components : List ComponentEntry} :
    Uses (fun op : stagingInterface.Op => op ≠ Op.renameToCommit)
      (fetchComponents codecs node req components) := by
  induction components with
  | nil => trivial
  | cons c components ih =>
    have hfail {error : Option String} : Uses (fun op : stagingInterface.Op => op ≠ Op.renameToCommit)
        (do let failure ← discard req error; pure (some failure)) :=
      Uses.bind (uses_discard (by simp)) fun _ => trivial
    rw [fetchComponents]
    dsimp only
    split
    · exact hfail
    · refine Uses.bind (uses_ofExcept.mpr trivial) fun _ => ?_
      refine Uses.bind (uses_call.mpr (by simp)) fun _ => ?_
      refine Uses.bind (uses_fetchChunks 0) fun outcome => ?_
      cases outcome with
      | error failure => trivial
      | ok offset =>
        dsimp only
        split
        · exact hfail
        · refine Uses.bind (uses_call.mpr (by simp)) fun _ => ?_
          refine Uses.bind (uses_call.mpr (by simp)) fun stored => ?_
          split
          · exact hfail
          · exact Uses.bind (uses_writeSidecars.mono fun _ => Op.Fills.ne_rename) fun _ => ih

end Committing

section Contents

/-- What was fetched so far is followed by what is fetched now. -/
theorem yields_fetchChunks {prev : Bytes} (offset : ℕ) (hs : s.staging = some tree)
    (hfile : tree c.storageRepresentation.relativePath = some prev) (hlength : prev.length = offset) :
    Yields (Step spec) (fun outcome s' =>
      (∀ failure, outcome = .error failure → failure.ok = false) ∧
      ∀ n, outcome = .ok n → ∃ stored : Bytes, stored.length = n ∧
        s'.staging = some (tree.write c.storageRepresentation.relativePath stored))
      (fetchChunks req c offset) s := by
  induction offset using fetchChunks.induct req c generalizing s tree prev with
  | case1 offset ih =>
    rw [fetchChunks]
    refine yields_call_bind fun chunk s₁ hstep => ?_
    obtain rfl := hstep
    split
    · refine Yields.bind yields_discard fun failure s₂ hfailed => yields_pure.mpr ⟨?_, ?_⟩
      · rintro _ ⟨⟩
        exact hfailed
      · rintro _ ⟨⟩
    · rename_i hchunk
      refine yields_call_bind fun _ s₂ hstep => ?_
      obtain ⟨tree', hs', rfl⟩ := hstep
      obtain rfl := Option.some.inj (hs.symm.trans hs')
      rw [hfile, Option.getD_some]
      split
      · refine yields_pure.mpr ⟨by rintro _ ⟨⟩, ?_⟩
        rintro _ ⟨⟩
        exact ⟨prev ++ chunk.bytes, by rw [List.length_append, hlength], rfl⟩
      · rename_i hlast
        refine (ih chunk hchunk hlast rfl (Tree.write_self _ _ _) ?_).weaken ?_
        · rw [List.length_append, hlength]
        · rintro outcome s₃ ⟨hfailure, hdone⟩
          refine ⟨hfailure, fun n hn => ?_⟩
          obtain ⟨stored, hstored, hs₃⟩ := hdone n hn
          exact ⟨stored, hstored, by rw [hs₃, Tree.write_write]⟩

/-- The files of the component are those that its entry records. -/
structure Stored (codecs : WriteCodecs) (tree : Tree) (c : ComponentEntry) : Prop where
  path : c.storageRepresentation.relativePath = payloadPath c.componentId
  files : ∃ stored, Holds codecs tree c.componentId stored c.contentHash ∧
    stored.length = c.storageRepresentation.storedSize ∧
    codecs.sha256Hex stored = c.storageRepresentation.storedHash

/-- No component is named like a sidecar of another. -/
def Unshadowed (components : List ComponentEntry) : Prop :=
  ∀ c ∈ components, ∀ c' ∈ components, ¬ Shadows c.componentId c'.componentId

/-- The components are stored; where several have the same id, the last one of them is. -/
def AllStored (codecs : WriteCodecs) (tree : Tree) (components : List ComponentEntry) : Prop :=
  ∀ before c after, components = before ++ c :: after →
    (∀ c' ∈ after, c'.componentId ≠ c.componentId) → Stored codecs tree c

/-- What a fetch of the components leaves in a directory that held `tree`. -/
structure Fetched (codecs : WriteCodecs) (tree : Tree) (components : List ComponentEntry)
    (tree' : Tree) : Prop where
  safe : ∀ c ∈ components, Safe c.componentId
  frame : ∀ path, (∀ c ∈ components, path ∉ componentFiles c.componentId) → tree' path = tree path
  stored : Unshadowed components → AllStored codecs tree' components

/-- A component that was fetched stays stored while the others are fetched. -/
theorem Fetched.cons {components : List ComponentEntry} {tree₁ tree' : Tree} (hsafe : Safe c.componentId)
    (hsame : ∀ path ∉ componentFiles c.componentId, tree₁ path = tree path)
    (hc : Stored codecs tree₁ c) (h : Fetched codecs tree₁ components tree') :
    Fetched codecs tree (c :: components) tree' where
  safe := List.forall_mem_cons.mpr ⟨hsafe, h.safe⟩
  frame path hpath := by
    obtain ⟨hnot, hrest⟩ := List.forall_mem_cons.mp hpath
    exact (h.frame path hrest).trans (hsame path hnot)
  stored hunshadowed before c' after heq hlast := by
    cases before with
    | nil =>
      obtain ⟨rfl, rfl⟩ := List.cons.inj heq
      refine ⟨hc.path, ?_⟩
      obtain ⟨stored, hholds, hrecorded⟩ := hc.files
      refine ⟨stored, hholds.congr fun path hpath => ?_, hrecorded⟩
      refine h.frame path fun c' hc' hpath' => ?_
      have hdisjoint := (disjoint_componentFiles hsafe (h.safe c' hc')).mpr
        ⟨(hlast c' hc').symm, hunshadowed _ (.head _) _ (.tail _ hc'),
          hunshadowed _ (.tail _ hc') _ (.head _)⟩
      exact hdisjoint hpath hpath'
    | cons c₀ before =>
      obtain ⟨rfl, rfl⟩ := List.cons.inj heq
      have hrest : Unshadowed (before ++ c' :: after) :=
        fun a ha b hb => hunshadowed a (.tail _ ha) b (.tail _ hb)
      exact h.stored hrest before c' after rfl hlast

theorem yields_fetchComponents {components : List ComponentEntry} (hs : s.staging = some tree) :
    Yields (Step spec) (fun outcome s' =>
      (∀ failure, outcome = some failure → failure.ok = false) ∧
      (outcome = none → ∃ tree', s'.staging = some tree' ∧ Fetched codecs tree components tree'))
      (fetchComponents codecs node req components) s := by
  induction components generalizing s tree with
  | nil =>
    refine yields_pure.mpr ⟨by rintro _ ⟨⟩, fun _ => ⟨tree, hs, ?_, fun _ _ => rfl, ?_⟩⟩
    · exact fun _ hc => absurd hc List.not_mem_nil
    · rintro - before c after heq
      simp at heq
  | cons c components ih =>
    -- Whatever goes wrong with the component, its staging directory is dropped and the failure
    -- reported.
    have hfail {error : Option String} {s₁ : Site} : Yields (Step spec) (fun outcome s' =>
        (∀ failure, outcome = some failure → failure.ok = false) ∧
        (outcome = none → ∃ tree', s'.staging = some tree' ∧
          Fetched codecs tree (c :: components) tree'))
        (do let failure ← discard req error; pure (some failure)) s₁ := by
      refine yields_discard.bind fun failure s₂ hfailed => yields_pure.mpr ⟨?_, by rintro ⟨⟩⟩
      rintro _ ⟨⟩
      exact hfailed
    rw [fetchComponents]
    split
    · exact hfail
    · rename_i hpaths
      obtain ⟨hsafe, hpath⟩ := not_or.mp hpaths
      have hsafe : Safe c.componentId := not_not.mp hsafe
      have hpath : c.storageRepresentation.relativePath = payloadPath c.componentId :=
        not_not.mp hpath
      refine yields_ofExcept_bind fun _ _ => yields_call_bind fun _ s₁ hstep => ?_
      obtain ⟨tree₀, hs₀, rfl⟩ := hstep
      obtain rfl := Option.some.inj (hs.symm.trans hs₀)
      -- The loop fills an empty file; what the file held before does not show in it.
      refine (yields_fetchChunks 0 rfl (Tree.write_self _ _ _) rfl).bind fun outcome s₂ hchunks => ?_
      obtain ⟨hfailure, hdone⟩ := hchunks
      cases outcome with
      | error failure =>
        refine yields_pure.mpr ⟨?_, by rintro ⟨⟩⟩
        rintro _ ⟨⟩
        exact hfailure failure rfl
      | ok offset =>
        obtain ⟨stored, hlength, hs₂⟩ := hdone offset rfl
        rw [Tree.write_write, hpath] at hs₂
        dsimp only
        split
        · exact hfail
        · rename_i hsize
          refine yields_call_bind fun _ s₃ hsync => ?_
          obtain rfl := hsync.eq_of_quiet not_false
          refine yields_call_bind fun bytes s₄ hread => ?_
          obtain ⟨⟨tree₄, hs₄, hbytes⟩, rfl⟩ := hread
          obtain rfl := Option.some.inj (hs₂.symm.trans hs₄)
          rw [hpath, Tree.write_self] at hbytes
          obtain rfl := Option.some.inj hbytes
          split
          · exact hfail
          · rename_i hhash
            refine (yields_writeSidecars hs₂).bind fun _ s₅ hwritten => ?_
            obtain rfl := hwritten
            -- The components after this one write to other files, unless their ids collide.
            refine (ih rfl).weaken fun outcome s₆ hrest => ⟨hrest.1, fun hnone => ?_⟩
            obtain ⟨tree', hs', hfetched⟩ := hrest.2 hnone
            refine ⟨tree', hs', hfetched.cons hsafe (fun path hpath' => ?_) ⟨hpath, stored, ?_, ?_, ?_⟩⟩
            · rw [Tree.writeSidecars_of_notMem hpath', Tree.write_of_ne]
              rintro rfl
              exact hpath' (.head _)
            · exact holds_writeSidecars (Tree.write_self _ _ _)
            · exact hlength.trans (not_not.mp hsize)
            · exact not_not.mp hhash

end Contents

section Replication

/-- What a replication that succeeds has committed. -/
structure Replicated (codecs : WriteCodecs) (req : NodeReplicateRequest) (s s' : Site) : Prop where
  free : s.committed = none
  committed : ∃ tree doc m, s'.committed = some tree ∧ tree "manifest" = some doc ∧
    codecs.sha256Hex doc = req.expectedManifestDigest ∧
    parse codecs.toFileCodecs doc = .ok m ∧ m.checkpointId = req.checkpointId ∧
    (Unshadowed m.components → AllStored codecs tree m.components)

/-- The manifest is no file of a component. -/
theorem manifest_notMem {componentId : String} (h : Safe componentId) :
    "manifest" ∉ componentFiles componentId := by
  intro hmem
  have hchars {rest : String} : "manifest" ≠ "components/" ++ rest := by
    intro heq
    have hhead := congrArg String.toList heq
    simp at hhead
  have hchars' {rest : String} : "manifest" ≠ "integrity/" ++ rest := by
    intro heq
    have hhead := congrArg String.toList heq
    simp at hhead
  rcases (mem_componentFiles h).mp hmem with heq | heq | heq | heq
  · exact hchars heq
  · exact hchars heq
  · exact hchars heq
  · exact hchars' heq

/-- A replication that does not succeed promotes nothing. -/
theorem ends_doReplicate : Ends (Step spec) (fun result s' =>
    (∀ a, result = .ok a → a.ok = false) → s'.committed = s.committed)
    (doReplicate codecs node req) s := by
  -- A part that promotes nothing comes first.
  have hpart {α : Type} {p : Work α} {f : α → Work NodeReplicateResult} {s₁ : Site}
      (hsame : s₁.committed = s.committed)
      (huses : Uses (fun op : stagingInterface.Op => op ≠ Op.renameToCommit) p)
      (hf : ∀ a s', s'.committed = s.committed → Ends (Step spec) (fun result s' =>
        (∀ a, result = .ok a → a.ok = false) → s'.committed = s.committed) (f a) s') :
      Ends (Step spec) (fun result s' =>
        (∀ a, result = .ok a → a.ok = false) → s'.committed = s.committed) (p >>= f) s₁ :=
    Ends.bind (ends_committed huses) (fun a s' h => hf a s' (h.trans hsame))
      fun e s' h _ => h.trans hsame
  unfold doReplicate
  refine hpart rfl (uses_call.mpr (by simp)) fun _ s₁ h₁ => ?_
  refine hpart h₁ (uses_call.mpr (by simp)) fun mresp s₂ h₂ => ?_
  split
  · exact fun _ => h₂
  · split
    · exact fun _ => h₂
    · split
      · exact fun _ => h₂
      · refine hpart h₂ (uses_ofExcept.mpr trivial) fun manifest s₃ h₃ => ?_
        split
        · exact fun _ => h₃
        · refine hpart h₃ (uses_createStaging.mono fun _ => Op.Fills.ne_rename) fun _ s₄ h₄ => ?_
          refine hpart h₄ (uses_call.mpr (by simp)) fun _ s₅ h₅ => ?_
          refine hpart h₅ uses_writeLine fun _ s₆ h₆ => ?_
          refine hpart h₆ uses_writeLine fun _ s₇ h₇ => ?_
          split
          · exact (ends_committed (uses_discard (by simp))).weaken fun _ _ h _ => h.trans h₇
          · refine hpart h₇ uses_fetchComponents fun outcome s₈ h₈ => ?_
            cases outcome with
            | some failure => exact fun _ => h₈
            | none =>
              refine Ends.attempt_bind ends_promote fun result s₉ h₉ => ?_
              cases result with
              | ok _ => exact fun hfailed => absurd (hfailed _ rfl) (by simp)
              | error e => exact fun _ => (h₉.2 e rfl).trans h₈

/-- A replication that succeeds has committed the anchored replica. -/
theorem yields_doReplicate :
    Yields (Step spec) (fun a s' => a.ok = true → Replicated codecs req s s')
      (doReplicate codecs node req) s := by
  unfold doReplicate
  refine yields_call_bind fun _ s₁ h₁ => yields_call_bind fun mresp s₂ h₂ => ?_
  obtain rfl := h₁
  obtain rfl := h₂
  split
  · exact yields_pure.mpr fun hok => absurd hok (by simp [replicateFailed])
  · split
    · exact yields_fail
    · rename_i doc _
      split
      · exact yields_pure.mpr fun hok => absurd hok (by simp [replicateFailed])
      · rename_i hdigest
        -- The manifest has the digest that was asked for; its contents are read from it now.
        refine yields_ofExcept_bind fun m hparse => ?_
        split
        · exact yields_fail
        · rename_i hid
          refine yields_createStaging.bind fun _ s₃ h₃ => ?_
          obtain ⟨tree, rfl⟩ := h₃
          refine yields_call_bind fun _ s₄ h₄ => ?_
          obtain ⟨_, htree, rfl⟩ := h₄
          obtain rfl := Option.some.inj htree
          refine yields_writeLine_bind rfl (yields_writeLine_bind rfl ?_)
          split
          · exact yields_discard.weaken fun failure _ hfailed hok => absurd hok (by simp [hfailed])
          · refine ((yields_fetchComponents rfl).and ((ends_committed uses_fetchComponents).weaken
              fun _ _ h _ _ => h)).bind fun outcome s₅ h₅ => ?_
            obtain ⟨⟨hfailure, hfetched⟩, hsame⟩ := h₅
            cases outcome with
            | some failure =>
              exact yields_pure.mpr fun hok => absurd hok (by simp [hfailure failure rfl])
            | none =>
              obtain ⟨tree', hs', hfetched⟩ := hfetched rfl
              refine Ends.attempt_bind ends_promote fun result s₆ h₆ => ?_
              cases result with
              | error e => exact yields_pure.mpr fun hok => absurd hok (by simp [replicateFailed])
              | ok _ =>
                obtain ⟨hfree, tree₆, hs₆, hcommitted⟩ := h₆.1 rfl
                obtain rfl := Option.some.inj (hs'.symm.trans hs₆)
                refine yields_pure.mpr fun _ => ⟨hsame.symm.trans hfree, _, doc, m, hcommitted, ?_,
                  not_not.mp hdigest, hparse, not_not.mp hid, hfetched.stored⟩
                -- The manifest was written first, and the components lie beside it.
                rw [hfetched.frame _ fun c hc => manifest_notMem (hfetched.safe c hc)]
                rw [Tree.write_of_ne (by decide), Tree.write_of_ne (by decide), Tree.write_self]

/-- Whatever a peer answers, a replication reports success only when it has committed the anchored
replica, and promotes nothing otherwise. The loop of a component asks at most once more than the
component has bytes. -/
theorem doReplicate_anchored :
    Ends (Step spec) (fun result s' =>
      (∀ a, result = .ok a → a.ok = true → Replicated codecs req s s') ∧
      ((∀ a, result = .ok a → a.ok = false) → s'.committed = s.committed))
      (doReplicate codecs node req) s ∧
    ∀ c s, Ends (Step spec) (fun _ s' =>
      s'.fetched.length ≤ s.fetched.length + (c.storageRepresentation.storedSize + 1))
      (fetchChunks req c 0) s :=
  ⟨Ends.and yields_doReplicate ends_doReplicate, fun _ _ => ends_fetchChunks 0⟩

end Replication

end Replicas

/-! ### A manifest with two entries of one id

Nothing on the receiving node asks that the ids of a manifest differ. The second entry is fetched
into the file of the first. -/

namespace Demo

def second : ComponentEntry :=
  Replica.Demo.entryOf (utf8 "ho") "a821c62e8104f8519d639b4c0948aece641b143f6601fa145993bb2e2c7299d4"

def twinRoot : String := "476efd260cce84d13a1a5ab6cef978ddfb6cd3c79829d14b87aa11092815c025"

def twins : Manifest := Replica.Demo.manifestOf [Replica.Demo.entry, second] twinRoot

/-- The file of the manifest. -/
def twinDocument : Bytes := Replica.Demo.bytesOf twins

def twinDigest : String := "4b06af0c94bc09d34ebb42e31cb9172570397408539c93416ee96c205be1e459"

def twinHashes : List (Bytes × String) :=
  [(utf8 "hi", Replica.Demo.entry.contentHash), (utf8 "ho", second.contentHash),
    (Replica.Demo.hashed twins, twinRoot), (twinDocument, twinDigest)]

def codecs : WriteCodecs :=
  { Replica.Demo.library [twins] twinHashes with zstdEncode := fun _ _ => .error "no memory" }

theorem sha256Hex_codecs : codecs.sha256Hex = Replica.Demo.sha256 twinHashes := rfl

theorem sha256Hex_twinDocument : codecs.sha256Hex twinDocument = twinDigest := by
  rw [sha256Hex_codecs, twinHashes, Replica.Demo.sha256_of_head? (by decide),
    Replica.Demo.sha256_of_head? (by decide), Replica.Demo.sha256_of_head? (by decide),
    Replica.Demo.sha256_self]

theorem parse_twinDocument : parse codecs.toFileCodecs twinDocument = .ok twins := by
  refine Replica.Demo.parse_bytesOf (by simp) rfl ?_
  rw [twinHashes, Replica.Demo.sha256_of_head? (by decide),
    Replica.Demo.sha256_of_head? (by decide), Replica.Demo.sha256_self]
  rfl

/-- A peer that sends the contents of the first entry, and then those of the second. -/
def peer : Surroundings where
  spec _ := ⟨"app", .applicationState, true, 1, "application", "null", []⟩
  manifest := ⟨true, none, some twinDocument, twins.components⟩
  chunk fetched _ _ := ⟨true, none, 0, utf8 (if fetched = [] then "hi" else "ho"), true⟩

def replicate : NodeReplicateRequest := ⟨.replicate 2 9, 2, twinDigest, "n1", 5⟩

/-- What is left of a replication when the manifest of the peer is the anchored one. -/
def received (manifestBytes : Bytes) (manifest : Manifest) : Work NodeReplicateResult := do
  createStaging
  perform (.writeFile "manifest" manifestBytes)
  writeLine "manifest.digest" replicate.expectedManifestDigest
  writeLine "integrity/root" manifest.integrity.root
  match ← fetchComponents codecs Replica.Demo.node replicate manifest.components with
  | some failure => pure failure
  | none =>
    match ← (promote (Replica.Demo.node.commitDir replicate.checkpointId)).attempt with
    | .ok () =>
      pure { attemptId := replicate.attemptId, ok := true, error := none
             path := some (Replica.Demo.node.commitDir replicate.checkpointId) }
    | .error e => pure (replicateFailed replicate (some (toString e)))

theorem eval_doReplicate {around : Surroundings} {manifestBytes : Bytes} {manifest : Manifest}
    {s : Site} (hanswer : around.manifest = ⟨true, none, some manifestBytes, manifest.components⟩)
    (hdigest : codecs.sha256Hex manifestBytes = replicate.expectedManifestDigest)
    (hparse : parse codecs.toFileCodecs manifestBytes = .ok manifest)
    (hid : manifest.checkpointId = replicate.checkpointId) :
    (doReplicate codecs Replica.Demo.node replicate).eval around.answer s =
      (received manifestBytes manifest).eval around.answer s := by
  unfold doReplicate received
  simp only [Program.eval, perform, Program.call, Program.bind_def, Program.perform_andThen,
    Program.done_andThen, Program.onValue_ok, Program.ofExcept, Surroundings.answer, hanswer,
    not_true_eq_false, if_false, ne_eq, hdigest, hparse, hid]
  all_goals rfl

/-- The replication alone, and the site that it leaves. -/
def replicated : FabricResult NodeReplicateResult × Site :=
  (doReplicate codecs Replica.Demo.node replicate).eval peer.answer .fresh

theorem replicated_ok : replicated.1.toOption.map (·.ok) = some true ∧
    (replicated.2.committed.bind fun tree => tree "components/app") = some (utf8 "ho") := by
  rw [replicated, eval_doReplicate rfl sha256Hex_twinDocument parse_twinDocument rfl]
  decide +kernel

end Demo

/-- The replication of the two entries succeeds, and the first one is not what is stored. -/
theorem doReplicate_twins :
    ∃ a s', Runs (Step Demo.peer.spec)
      (doReplicate Demo.codecs Replica.Demo.node Demo.replicate) .fresh (.ok a) s' ∧ a.ok = true ∧
    ∃ tree, s'.committed = some tree ∧
      Demo.codecs.sha256Hex Demo.twinDocument = Demo.replicate.expectedManifestDigest ∧
      parse Demo.codecs.toFileCodecs Demo.twinDocument = .ok Demo.twins ∧
      Unshadowed Demo.twins.components ∧
      ∃ c ∈ Demo.twins.components, ∀ stored, tree c.storageRepresentation.relativePath = some stored →
        Demo.codecs.sha256Hex stored ≠ c.storageRepresentation.storedHash := by
  have hruns := runs_eval Demo.peer.step_answer
    (doReplicate Demo.codecs Replica.Demo.node Demo.replicate) .fresh
  obtain ⟨hok, hfile⟩ := Demo.replicated_ok
  change Runs _ _ _ Demo.replicated.1 Demo.replicated.2 at hruns
  generalize Demo.replicated = outcome at hruns hok hfile
  obtain ⟨result, s'⟩ := outcome
  obtain ⟨a, hresult, ha⟩ := Option.map_eq_some_iff.mp hok
  obtain ⟨tree, htree, hstored⟩ := Option.bind_eq_some_iff.mp hfile
  cases result with
  | error e => cases hresult
  | ok a' =>
    obtain rfl := Option.some.inj hresult
    refine ⟨a', s', hruns, ha, tree, htree, Demo.sha256Hex_twinDocument, Demo.parse_twinDocument, ?_,
      Replica.Demo.entry, .head _, fun stored hfound => ?_⟩
    · unfold Unshadowed Shadows
      decide +kernel
    · obtain rfl := Option.some.inj (hstored.symm.trans hfound)
      decide +kernel

end CheckpointFabric.Staging
