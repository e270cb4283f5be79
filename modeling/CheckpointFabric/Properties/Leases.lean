import CheckpointFabric.Disk
import CheckpointFabric.Leases
import CheckpointFabric.Serving

/-!
# What a replication that fails leaves behind

A replication that does not promote drops its staging directory and releases the lease on it, as
long as it fails by what the peer says. When an operation fails under the lease, because the
connection is lost, an answer cannot be read or the disk is full, the error leaves the function on
the spot, and the directory stays with a lease that shields it from the sweep.

## Main definitions

* `LeasedSite` — the directories of an attempt with its lease
* `goesWrong` — the answers of an operation that stop a replication without a report
* `LeaseStep` — what the operations do to the directories and the lease

## Main results

* `doReplicate_clean_iff` — when nothing is left behind
-/

set_option autoImplicit false

namespace CheckpointFabric.Leases

open Concurrency Replica Staging

/-- The directories of an attempt with its lease, and what has happened under it. -/
structure LeasedSite where
  site : Site
  leased : Bool
  /-- The lease was taken. -/
  begun : Bool
  /-- An operation went wrong since then. -/
  faulted : Bool

/-- The attempt before it runs. -/
def LeasedSite.start (site : Site) (leased : Bool) : LeasedSite := ⟨site, leased, false, false⟩

/-- No staging directory is left, and no lease on it. -/
def LeasedSite.Clean (s : LeasedSite) : Prop := s.site.staging = none ∧ s.leased = false

/-- An operation fails, or the checkpoint turns out to be committed already. The questions whether a
directory is there do not fail: an error is a no. -/
def goesWrong : (op : Staging.Op) → FabricResult op.Reply → Bool
  | .commitExists, .ok answer => answer
  | .stagingExists, .error _ | .commitExists, .error _ | .commitParentExists, .error _ => false
  | _, .ok _ => false
  | _, .error _ => true

section Step

variable (spec : Provider → ProviderSpec)

/-- An operation on the directories or the peer. Where the staging directory cannot be removed, it
is still there. -/
def StageStep (op : Staging.Op) (s : LeasedSite) (reply : FabricResult op.Reply) (s' : LeasedSite) : Prop :=
  ∃ site, Step spec op s.site reply site ∧
    ((∃ e, reply = .error e) → op = .removeStaging →
      (site.staging = none ↔ s.site.staging = none)) ∧
    s' = { s with site, faulted := s.faulted || (s.begun && goesWrong op reply) }

/-- What an operation does. The lease is in the memory of the node. -/
def LeaseStep : (op : leasedInterface.Op) → LeasedSite →
    FabricResult (leasedInterface.Reply op) → LeasedSite → Prop
  | .inl op, s, reply, s' => StageStep spec op s reply s'
  | .inr .leaseStaging, s, reply, s' => reply = .ok () ∧ s' = { s with leased := true, begun := true }
  | .inr .releaseStaging, s, reply, s' => reply = .ok () ∧ s' = { s with leased := false }

end Step

/-- The replication was promoted. -/
def Promoted (result : FabricResult NodeReplicateResult) : Prop := ∃ a, result = .ok a ∧ a.ok = true

section Stages

/-! ### The stages of a replication under the lease -/

/-- The staging directory is being filled. -/
structure Holding (s : LeasedSite) : Prop where
  begun : s.begun = true
  leased : s.leased = true
  sound : s.faulted = false
  staged : s.site.staging ≠ none

/-- An error leaves the function under the lease. -/
structure Lost (s : LeasedSite) : Prop where
  begun : s.begun = true
  leased : s.leased = true
  faulted : s.faulted = true

/-- The failure was reported, and the lease released. -/
structure Released (s : LeasedSite) : Prop where
  begun : s.begun = true
  released : s.leased = false
  removed : s.site.staging = none ↔ s.faulted = false

/-- What a replication under the lease comes to. -/
structure Settled (result : FabricResult NodeReplicateResult) (s : LeasedSite) : Prop where
  begun : s.begun = true
  clean_iff : (¬ Promoted result → s.Clean) ↔ s.faulted = false

variable {s : LeasedSite}

theorem Lost.settled (h : Lost s) (e : FabricError) : Settled (.error e) s := by
  refine ⟨h.begun, fun hclean => ?_, fun hsound => ?_⟩
  · have hfree := (hclean (by rintro ⟨a, ha, -⟩; cases ha)).2
    cases h.leased.symm.trans hfree
  · cases h.faulted.symm.trans hsound

theorem Released.settled (h : Released s) (failure : NodeReplicateResult)
    (hfailed : failure.ok = false) : Settled (.ok failure) s := by
  refine ⟨h.begun, fun hclean => ?_, fun hsound _ => ⟨h.removed.mpr hsound, h.released⟩⟩
  have hnot : ¬ Promoted (.ok failure) := by
    rintro ⟨a, ha, hok⟩
    cases ha
    cases hfailed.symm.trans hok
  exact h.removed.mp (hclean hnot).1

end Stages

section Straight

/-! ### Operations whose error leaves the function -/

variable {spec : Provider → ProviderSpec} {α β : Type}

/-- The operation fills the staging directory. -/
def Builds : Staging.Op → Prop
  | .createDir _ | .createFile _ | .appendFile .. | .syncFile _ | .writeFile .. | .readFile _
  | .fetchComponent .. => True
  | _ => False

/-- Every error of the part is one under the lease. -/
def Straight (spec : Provider → ProviderSpec) (p : Staging.Work α) : Prop :=
  ∀ s, Holding s → Ends (StageStep spec)
    (fun result s' => (∀ a, result = .ok a → Holding s') ∧ ∀ e, result = .error e → Lost s') p s

theorem goesWrong_of_builds {op : Staging.Op} (h : Builds op) (reply : FabricResult op.Reply) :
    goesWrong op reply = true ↔ ∃ e, reply = .error e := by
  cases op with
  | createDir | createFile | appendFile | syncFile | writeFile | readFile | fetchComponent =>
    cases reply with
    | ok a => simp [goesWrong]
    | error e => simp [goesWrong]
  | _ => exact h.elim

/-- What fills the staging directory finds it and leaves it there. -/
theorem staged_of_builds {op : Staging.Op} (h : Builds op) {s s' : Site} {a : op.Reply}
    (hstep : Effect spec op s a s') (hs : s.staging ≠ none) : s'.staging ≠ none := by
  cases op with
  | createDir =>
    obtain rfl := hstep
    exact Option.some_ne_none _
  | createFile | appendFile | writeFile =>
    obtain ⟨tree, -, rfl⟩ := hstep
    exact Option.some_ne_none _
  | readFile =>
    obtain ⟨-, rfl⟩ := hstep
    exact hs
  | syncFile | fetchComponent =>
    obtain rfl := hstep
    exact hs
  | _ => exact h.elim

theorem straight_perform (op : Staging.Op) (h : Builds op) : Straight spec (Staging.perform op) := by
  rintro s hs reply s' ⟨site, hsite, -, rfl⟩
  cases reply with
  | ok a =>
    have hright : goesWrong op (.ok a) = false := by
      rw [Bool.eq_false_iff, Ne, goesWrong_of_builds h]
      rintro ⟨e, he⟩
      cases he
    refine ⟨fun _ _ => ⟨hs.begun, hs.leased, ?_, staged_of_builds h hsite hs.staged⟩, by rintro _ ⟨⟩⟩
    rw [hs.sound, hright, Bool.and_false, Bool.or_false]
  | error e =>
    have hwrong : goesWrong op (.error e) = true := (goesWrong_of_builds h _).mpr ⟨e, rfl⟩
    refine ⟨by rintro _ ⟨⟩, fun _ _ => ⟨hs.begun, hs.leased, ?_⟩⟩
    rw [hs.begun, hwrong, Bool.and_true, Bool.or_true]

theorem Straight.bind {p : Staging.Work α} {f : α → Staging.Work β} (hp : Straight spec p)
    (hf : ∀ a, Straight spec (f a)) : Straight spec (p >>= f) := by
  intro s hs
  refine (hp s hs).bind (fun a s' h => hf a s' (h.1 a rfl)) fun e s' h => ?_
  exact ⟨by rintro _ ⟨⟩, fun _ _ => h.2 e rfl⟩

theorem straight_writeSidecars {codecs : WriteCodecs} {componentId contentHash : String}
    {stored : Bytes} : Straight spec (writeSidecars codecs componentId stored false contentHash) := by
  have hline (path line : String) : Straight spec (writeLine path line) :=
    straight_perform (.writeFile path _) trivial
  exact (hline _ _).bind fun _ => (hline _ _).bind fun _ => hline _ _

end Straight

section Replication

variable {spec : Provider → ProviderSpec} {codecs : WriteCodecs} {node : NodeState}
  {req : NodeReplicateRequest} {s : LeasedSite} {α β : Type}

/-- A straight part, and what follows it. -/
theorem Straight.ends_bind {post : FabricResult β → LeasedSite → Prop} {p : Staging.Work α}
    {f : α → Leased β} (hp : Straight spec p) (hs : Holding s)
    (hok : ∀ a s', Holding s' → Ends (LeaseStep spec) post (f a) s')
    (herror : ∀ e s', Lost s' → post (.error e) s') :
    Ends (LeaseStep spec) post (p.inl >>= f) s :=
  Ends.bind (ends_inl.mpr (hp s hs)) (fun a s' h => hok a s' (h.1 a rfl))
    fun e s' h => herror e s' (h.2 e rfl)

theorem ends_stage_bind {op : Staging.Op} {post : FabricResult β → LeasedSite → Prop}
    {f : op.Reply → Leased β} (hop : Builds op) (hs : Holding s)
    (hok : ∀ a s', Holding s' → Ends (LeaseStep spec) post (f a) s')
    (herror : ∀ e s', Lost s' → post (.error e) s') :
    Ends (LeaseStep spec) post (stage op >>= f) s :=
  (straight_perform op hop).ends_bind hs hok herror

/-- The report of a failure always comes out; the directory stays where it cannot be removed. -/
theorem ends_discard {error : Option String} (hs : Holding s) :
    Ends (LeaseStep spec) (fun result s' => result = .ok (replicateFailed req error) ∧ Released s')
      (discard req error) s := by
  rintro reply s₁ ⟨site, hsite, hkept, rfl⟩ reply' s₂ ⟨rfl, rfl⟩
  refine ⟨rfl, hs.begun, rfl, ?_⟩
  cases reply with
  | ok a =>
    obtain rfl := hsite
    simp [hs.sound, goesWrong]
  | error e =>
    have hstill := hkept ⟨e, rfl⟩ rfl
    simp [hs.begun, goesWrong, hstill, hs.staged]

theorem ends_discard_bind {error : Option String} {post : FabricResult β → LeasedSite → Prop}
    {f : NodeReplicateResult → Leased β} (hs : Holding s)
    (hf : ∀ s', Released s' → Ends (LeaseStep spec) post (f (replicateFailed req error)) s') :
    Ends (LeaseStep spec) post (discard req error >>= f) s := by
  refine (ends_discard hs).bind ?_ ?_
  · rintro _ s' ⟨⟨⟩, hreleased⟩
    exact hf s' hreleased
  · rintro e s' ⟨⟨⟩, -⟩

/-- The loop ends under the lease, with the component or an error, or it reports a failure. -/
theorem ends_fetchChunks (c : ComponentEntry) (offset : ℕ) (hs : Holding s) :
    Ends (LeaseStep spec) (fun result s' =>
      (∀ n, result = .ok (.ok n) → Holding s') ∧
      (∀ failure, result = .ok (.error failure) → failure.ok = false ∧ Released s') ∧
      ∀ e, result = .error e → Lost s') (fetchChunks req c offset) s := by
  induction offset using fetchChunks.induct req c generalizing s with
  | case1 offset ih =>
    rw [fetchChunks]
    refine ends_stage_bind trivial hs (fun chunk s₁ hs₁ => ?_) fun e s₁ hlost => ?_
    · split
      · refine ends_discard_bind hs₁ fun s₂ hreleased => ends_pure.mpr ⟨?_, ?_, ?_⟩
        · rintro _ ⟨⟩
        · rintro _ ⟨⟩
          exact ⟨rfl, hreleased⟩
        · rintro _ ⟨⟩
      · rename_i hchunk
        refine ends_stage_bind trivial hs₁ (fun _ s₂ hs₂ => ?_) fun e s₂ hlost => ?_
        · split
          · refine ends_pure.mpr ⟨fun _ _ => hs₂, ?_, ?_⟩
            · rintro _ ⟨⟩
            · rintro _ ⟨⟩
          · rename_i hlast
            exact ih chunk hchunk hlast hs₂
        · exact ⟨by rintro _ ⟨⟩, by rintro _ ⟨⟩, fun _ _ => hlost⟩
    · exact ⟨by rintro _ ⟨⟩, by rintro _ ⟨⟩, fun _ _ => hlost⟩

/-- Likewise for all components. -/
theorem ends_fetchComponents (components : List ComponentEntry) (hs : Holding s) :
    Ends (LeaseStep spec) (fun result s' =>
      (result = .ok none → Holding s') ∧
      (∀ failure, result = .ok (some failure) → failure.ok = false ∧ Released s') ∧
      ∀ e, result = .error e → Lost s') (fetchComponents codecs node req components) s := by
  induction components generalizing s with
  | nil => exact ⟨fun _ => hs, by rintro _ ⟨⟩, by rintro _ ⟨⟩⟩
  | cons c components ih =>
    have hlost {e : FabricError} {s' : LeasedSite} (h : Lost s') :
        ((.error e : FabricResult (Option NodeReplicateResult)) = .ok none → Holding s') ∧
        (∀ failure, (.error e : FabricResult (Option NodeReplicateResult)) = .ok (some failure) →
          failure.ok = false ∧ Released s') ∧
        ∀ e', (.error e : FabricResult (Option NodeReplicateResult)) = .error e' → Lost s' :=
      ⟨by rintro ⟨⟩, by rintro _ ⟨⟩, fun _ _ => h⟩
    have hfailed {failure : NodeReplicateResult} {s' : LeasedSite} (hok : failure.ok = false)
        (h : Released s') :
        ((.ok (some failure) : FabricResult (Option NodeReplicateResult)) = .ok none → Holding s') ∧
        (∀ failure', (.ok (some failure) : FabricResult (Option NodeReplicateResult)) =
          .ok (some failure') → failure'.ok = false ∧ Released s') ∧
        ∀ e, (.ok (some failure) : FabricResult (Option NodeReplicateResult)) = .error e →
          Lost s' := by
      refine ⟨by rintro ⟨⟩, ?_, by rintro _ ⟨⟩⟩
      rintro _ ⟨⟩
      exact ⟨hok, h⟩
    rw [fetchComponents]
    split
    · exact ends_discard_bind hs fun s₁ hreleased => hfailed rfl hreleased
    · rename_i hpaths
      obtain ⟨hsafe, hpath⟩ := not_or.mp hpaths
      -- The check of the path has kept out whatever the join would refuse.
      have hpath : c.storageRepresentation.relativePath = payloadPath c.componentId :=
        not_not.mp hpath
      rw [hpath, safeJoin_payloadPath]
      refine ends_stage_bind trivial hs (fun _ s₁ hs₁ => ?_) fun e s₁ h => hlost h
      refine (ends_fetchChunks c 0 hs₁).bind (fun outcome s₂ hchunks => ?_) fun e s₂ hchunks =>
        hlost (hchunks.2.2 e rfl)
      cases outcome with
      | error failure =>
        obtain ⟨hok, hreleased⟩ := hchunks.2.1 failure rfl
        exact hfailed hok hreleased
      | ok offset =>
        have hs₂ := hchunks.1 offset rfl
        dsimp only
        split
        · exact ends_discard_bind hs₂ fun s₃ hreleased => hfailed rfl hreleased
        refine ends_stage_bind trivial hs₂ (fun _ s₃ hs₃ => ?_) fun e s₃ h => hlost h
        refine ends_stage_bind trivial hs₃ (fun stored s₄ hs₄ => ?_)
          fun e s₄ h => hlost h
        split
        · exact ends_discard_bind hs₄ fun s₅ hreleased => hfailed rfl hreleased
        refine straight_writeSidecars.ends_bind hs₄ (fun _ s₅ hs₅ => ?_) fun e s₅ h => hlost h
        exact ih hs₅

/-- A promotion that fails leaves the directory where it is. -/
structure Stuck (s : LeasedSite) : Prop extends Lost s where
  staged : s.site.staging ≠ none

theorem StageStep.eq_self {op : Staging.Op} {reply : FabricResult op.Reply} {s' : LeasedSite}
    (h : StageStep spec op s reply s') (hquiet : op.Quiet)
    (hright : (s.faulted || (s.begun && goesWrong op reply)) = s.faulted) : s' = s := by
  obtain ⟨site, hsite, -, rfl⟩ := h
  rw [hsite.eq_of_quiet hquiet, hright]

theorem Holding.stuck {op : Staging.Op} {e : FabricError} {s' : LeasedSite} (hs : Holding s)
    (h : StageStep spec op s (.error e) s') (hwrites : ¬ op.Writes)
    (hwrong : goesWrong op (.error e) = true) : Stuck s' := by
  obtain ⟨site, ⟨staging, hsame, rfl⟩, -, rfl⟩ := h
  refine ⟨⟨hs.begun, hs.leased, ?_⟩, ?_⟩
  · rw [hs.begun, hwrong, Bool.and_true, Bool.or_true]
  · rw [hsame hwrites]
    exact hs.staged

/-- A fresh staging directory; the one of an earlier attempt is removed before. -/
theorem ends_createStaging (hbegun : s.begun = true) (hleased : s.leased = true)
    (hsound : s.faulted = false) : Ends (StageStep spec) (fun result s' =>
      (∀ a, result = .ok a → Holding s') ∧ ∀ e, result = .error e → Lost s') createStaging s := by
  have hcreate {s : LeasedSite} (hbegun : s.begun = true) (hleased : s.leased = true)
      (hsound : s.faulted = false) : Ends (StageStep spec) (fun result s' =>
        (∀ a, result = .ok a → Holding s') ∧ ∀ e, result = .error e → Lost s')
        (do Staging.perform (.createDir "components")
            Staging.perform (.createDir "integrity")
            Staging.perform (.createDir "journal")) s := by
    have hdir (path : String) : Straight spec (Staging.perform (.createDir path)) :=
      straight_perform (.createDir path) trivial
    refine ends_call_bind ?_ ?_
    · rintro _ s₁ ⟨site, rfl, -, rfl⟩
      refine Straight.bind (hdir _) (fun _ => hdir _) _ ⟨hbegun, hleased, ?_, Option.some_ne_none _⟩
      simp [hsound, goesWrong]
    · rintro e s₁ ⟨site, hsite, -, rfl⟩
      refine ⟨by rintro _ ⟨⟩, fun _ _ => ⟨hbegun, hleased, ?_⟩⟩
      simp [hbegun, goesWrong]
  have hremove : Ends (StageStep spec) (fun result s' =>
      (∀ a, result = .ok a → Holding s') ∧ ∀ e, result = .error e → Lost s')
      (do Staging.perform .removeStaging
          Staging.perform (.createDir "components")
          Staging.perform (.createDir "integrity")
          Staging.perform (.createDir "journal")) s := by
    refine ends_call_bind ?_ ?_
    · rintro _ s₁ ⟨site, rfl, -, rfl⟩
      exact hcreate hbegun hleased (by simp [hsound, goesWrong])
    · rintro e s₁ ⟨site, hsite, -, rfl⟩
      refine ⟨by rintro _ ⟨⟩, fun _ _ => ⟨hbegun, hleased, ?_⟩⟩
      simp [hbegun, goesWrong]
  intro reply s₁ hstep
  cases reply with
  | error e =>
    obtain rfl := hstep.eq_self not_false (by simp [goesWrong])
    exact hcreate hbegun hleased hsound
  | ok answer =>
    obtain rfl := hstep.eq_self not_false (by simp [goesWrong])
    cases answer with
    | false => exact hcreate hbegun hleased hsound
    | true => exact hremove

theorem ends_promote {commit : String} (hs : Holding s) : Ends (StageStep spec) (fun result s' =>
      (result = .ok () → s'.begun = true ∧ s'.faulted = false) ∧ ∀ e, result = .error e → Stuck s')
      (promote commit) s := by
  have hstuck {e : FabricError} {s' : LeasedSite} (h : Stuck s') :
      ((.error e : FabricResult Unit) = .ok () → s'.begun = true ∧ s'.faulted = false) ∧
      ∀ e', (.error e : FabricResult Unit) = .error e' → Stuck s' :=
    ⟨by rintro ⟨⟩, fun _ _ => h⟩
  have hrename : Ends (StageStep spec) (fun result s' =>
      (result = .ok () → s'.begun = true ∧ s'.faulted = false) ∧ ∀ e, result = .error e → Stuck s')
      (do Staging.perform .syncStaging; Staging.perform .renameToCommit) s := by
    refine ends_call_bind (fun _ s₁ hsync => ?_) fun e s₁ hsync =>
      hstuck (hs.stuck hsync not_false rfl)
    obtain rfl := hsync.eq_self not_false (by simp [goesWrong])
    intro reply s₂ hstep
    cases reply with
    | ok a =>
      obtain ⟨site, -, -, rfl⟩ := hstep
      exact ⟨fun _ => ⟨hs.begun, by simp [hs.sound, goesWrong]⟩, by rintro _ ⟨⟩⟩
    | error e => exact hstuck (hs.stuck hstep not_false rfl)
  have hparent : Ends (StageStep spec) (fun result s' =>
      (result = .ok () → s'.begun = true ∧ s'.faulted = false) ∧ ∀ e, result = .error e → Stuck s')
      (do if ¬ (← asks (Staging.perform .commitParentExists)) then
            Staging.perform .createCommitParent
          Staging.perform .syncStaging
          Staging.perform .renameToCommit) s := by
    have hcreate : Ends (StageStep spec) (fun result s' =>
        (result = .ok () → s'.begun = true ∧ s'.faulted = false) ∧
        ∀ e, result = .error e → Stuck s')
        (do Staging.perform .createCommitParent
            Staging.perform .syncStaging
            Staging.perform .renameToCommit) s := by
      refine ends_call_bind (fun _ s₁ hstep => ?_) fun e s₁ hstep =>
        hstuck (hs.stuck hstep not_false rfl)
      obtain rfl := hstep.eq_self not_false (by simp [goesWrong])
      exact hrename
    intro reply s₁ hstep
    cases reply with
    | error e =>
      obtain rfl := hstep.eq_self not_false (by simp [goesWrong])
      exact hcreate
    | ok answer =>
      obtain rfl := hstep.eq_self not_false (by simp [goesWrong])
      cases answer with
      | false => exact hcreate
      | true => exact hrename
  intro reply s₁ hstep
  cases reply with
  | error e =>
    obtain rfl := hstep.eq_self not_false (by simp [goesWrong])
    exact hparent
  | ok answer =>
    cases answer with
    | false =>
      obtain rfl := hstep.eq_self not_false (by simp [goesWrong])
      exact hparent
    | true =>
      -- The checkpoint is there already, and the staging directory stays next to it.
      obtain ⟨site, ⟨-, rfl⟩, -, rfl⟩ := hstep
      refine hstuck ⟨⟨hs.begun, hs.leased, ?_⟩, hs.staged⟩
      simp [hs.begun, goesWrong]

theorem ends_replicateLeased {mresp : FetchManifestResponse} {manifestBytes : Bytes}
    {manifest : Manifest} (hsound : s.faulted = false) : Ends (LeaseStep spec) Settled
      (replicateLeased codecs node req mresp manifestBytes manifest) s := by
  rintro reply s₁ ⟨rfl, rfl⟩
  change Ends _ _ (createStaging.inl >>= _) _
  refine Ends.bind (ends_inl.mpr (ends_createStaging rfl rfl hsound)) (fun _ s₂ h => ?_)
    fun e s₂ h => (h.2 e rfl).settled e
  have hs₂ := h.1 _ rfl
  refine ends_stage_bind trivial hs₂ (fun _ s₃ hs₃ => ?_) fun e s₃ h => h.settled e
  refine ends_stage_bind trivial hs₃ (fun _ s₄ hs₄ => ?_) fun e s₄ h => h.settled e
  refine ends_stage_bind trivial hs₄ (fun _ s₅ hs₅ => ?_) fun e s₅ h => h.settled e
  split
  · refine (ends_discard hs₅).weaken ?_
    rintro _ s₆ ⟨rfl, hreleased⟩
    exact hreleased.settled _ rfl
  refine (ends_fetchComponents manifest.components hs₅).bind (fun outcome s₆ hfetched => ?_)
    fun e s₆ hfetched => (hfetched.2.2 e rfl).settled e
  cases outcome with
  | some failure =>
    obtain ⟨hok, hreleased⟩ := hfetched.2.1 failure rfl
    exact hreleased.settled _ hok
  | none =>
    have hs₆ := hfetched.1 rfl
    refine Ends.attempt_bind (ends_inl.mpr (ends_promote hs₆)) fun result s₇ hpromoted => ?_
    cases result with
    | ok _ =>
      obtain ⟨hbegun, hsound⟩ := hpromoted.1 rfl
      rintro reply s₈ ⟨rfl, rfl⟩
      refine ⟨hbegun, fun _ => hsound, fun _ hnot => absurd ⟨_, rfl, rfl⟩ hnot⟩
    | error e =>
      have hstuck := hpromoted.2 e rfl
      rintro reply s₈ ⟨rfl, rfl⟩
      have hreleased : Released { s₇ with leased := false } :=
        ⟨hstuck.begun, rfl, by simp [hstuck.staged, hstuck.faulted]⟩
      exact hreleased.settled _ rfl

/-- A replication that has not promoted leaves neither a staging directory nor a lease on one, if
and only if nothing went wrong under the lease, and there was none before if the lease was never
taken. -/
theorem doReplicate_clean_iff (spec : Provider → ProviderSpec) (codecs : WriteCodecs)
    (node : NodeState) (req : NodeReplicateRequest) (site : Site) (leased : Bool)
    (result : FabricResult NodeReplicateResult) (s' : LeasedSite)
    (hruns : Runs (LeaseStep spec) (doReplicate codecs node req) (.start site leased) result s') :
    (¬ Promoted result → s'.Clean) ↔
      s'.faulted = false ∧ (s'.begun = true ∨ (LeasedSite.start site leased).Clean) := by
  have hends : Ends (LeaseStep spec) (fun result s' => (¬ Promoted result → s'.Clean) ↔
      s'.faulted = false ∧ (s'.begun = true ∨ (LeasedSite.start site leased).Clean))
      (doReplicate codecs node req) (.start site leased) := ?_
  · exact ends_iff.mp hends result s' hruns
  -- Before the lease is taken nothing changes.
  have hbefore {result : FabricResult NodeReplicateResult} (hnot : ¬ Promoted result) :
      (¬ Promoted result → (LeasedSite.start site leased).Clean) ↔
        (LeasedSite.start site leased).faulted = false ∧
          ((LeasedSite.start site leased).begun = true ∨ (LeasedSite.start site leased).Clean) := by
    constructor
    · exact fun hclean => ⟨rfl, .inr (hclean hnot)⟩
    · intro h _
      rcases h.2 with hbegun | hclean
      · cases hbegun
      · exact hclean
  have herror (e : FabricError) : ¬ Promoted (.error e) := by
    rintro ⟨a, ⟨⟩, -⟩
  have hfailed (error : Option String) : ¬ Promoted (.ok (replicateFailed req error)) := by
    rintro ⟨a, ⟨⟩, hok⟩
    cases hok
  intro reply s₁ hstep
  obtain rfl := hstep.eq_self not_false (Bool.or_false _)
  cases reply with
  | error e => exact hbefore (herror e)
  | ok _ =>
    intro reply s₂ hstep
    obtain rfl := hstep.eq_self not_false (Bool.or_false _)
    cases reply with
    | error e => exact hbefore (herror e)
    | ok mresp =>
      change Ends _ _ (if ¬ mresp.ok then _ else _) _
      split
      · exact hbefore (hfailed _)
      split
      · exact hbefore (herror _)
      split
      · exact hbefore (hfailed _)
      refine ends_ofExcept_bind.mpr ⟨fun manifest _ => ?_, fun e _ => hbefore (herror e)⟩
      split
      · exact hbefore (herror _)
      refine (ends_replicateLeased rfl).weaken fun result s' h => h.clean_iff.trans ?_
      exact ⟨fun hsound => ⟨hsound, .inl h.begun⟩, And.left⟩

end Replication

section Demo

/-- The operations are answered as on a disk that never fails, but for those of `fails`. -/
def answer (around : Surroundings) (fails : Staging.Op → Bool) :
    (op : leasedInterface.Op) → LeasedSite → FabricResult (leasedInterface.Reply op) × LeasedSite
  | .inl op, s =>
    if fails op then
      (.error (.io "connection reset"),
        { s with
          site := { s.site with fetched := op.fetches ++ s.site.fetched }
          faulted := s.faulted || (s.begun && goesWrong op (.error (.io "connection reset"))) })
    else
      ((around.answer op s.site).1,
        { s with
          site := (around.answer op s.site).2
          faulted := s.faulted || (s.begun && goesWrong op (around.answer op s.site).1) })
  | .inr .leaseStaging, s => (.ok (), { s with leased := true, begun := true })
  | .inr .releaseStaging, s => (.ok (), { s with leased := false })

theorem step_answer (around : Surroundings) (fails : Staging.Op → Bool) (op : leasedInterface.Op)
    (s : LeasedSite) :
    LeaseStep around.spec op s (answer around fails op s).1 (answer around fails op s).2 := by
  cases op with
  | inl op =>
    simp only [answer]
    split
    · exact ⟨_, ⟨s.site.staging, fun _ => rfl, rfl⟩, fun _ _ => Iff.rfl, rfl⟩
    · refine ⟨_, around.step_answer op s.site, ?_, rfl⟩
      -- Here every removal succeeds.
      rintro ⟨e, he⟩ rfl
      cases he
  | inr op =>
    cases op with
    | leaseStaging => exact ⟨rfl, rfl⟩
    | releaseStaging => exact ⟨rfl, rfl⟩

/-- A peer that refuses every chunk. -/
def Demo.refusing : Surroundings :=
  { Staging.Demo.peer with chunk := fun _ _ _ => ⟨false, none, 0, [], true⟩ }

/-- A replication gets as far as the manifest of a peer that has the anchored one. -/
theorem eval_doReplicate {around : Surroundings} {fails : Staging.Op → Bool} {codecs : WriteCodecs}
    {node : NodeState} {req : NodeReplicateRequest} {manifestBytes : Bytes} {manifest : Manifest}
    {s : LeasedSite} (hbegun : s.begun = false)
    (hconnected : fails (.connect req.fromAddr) = false)
    (hfetched : fails (.fetchManifest req.checkpointId req.fetchToken) = false)
    (hanswer : around.manifest = ⟨true, none, some manifestBytes, manifest.components⟩)
    (hdigest : codecs.sha256Hex manifestBytes = req.expectedManifestDigest)
    (hparse : parse codecs.toFileCodecs manifestBytes = .ok manifest)
    (hid : manifest.checkpointId = req.checkpointId) :
    (doReplicate codecs node req).eval (answer around fails) s =
      (replicateLeased codecs node req ⟨true, none, some manifestBytes, manifest.components⟩
        manifestBytes manifest).eval (answer around fails) s := by
  unfold doReplicate
  simp only [Program.eval, stage, Staging.perform, Program.call, Program.inl, Program.bind_def,
    Program.perform_andThen, Program.done_andThen, Program.onValue_ok, Program.ofExcept, answer,
    hconnected, hfetched, hbegun, Surroundings.answer, Staging.Op.fetches, hanswer,
    Bool.false_eq_true, Bool.false_and, Bool.or_false, not_true_eq_false, if_false, ne_eq, hdigest,
    hparse, hid, List.nil_append]
  rw [← hbegun]

/-- The replication from that peer, or from one that is lost before it answers. -/
def Demo.interrupted (lost : Bool) : FabricResult NodeReplicateResult × LeasedSite :=
  (doReplicate Staging.Demo.codecs Replica.Demo.node Staging.Demo.replicate).eval
    (answer refusing fun op => lost && decide (op.fetches ≠ [])) (.start .fresh false)

theorem Demo.runs_interrupted (lost : Bool) :
    Runs (LeaseStep refusing.spec)
      (doReplicate Staging.Demo.codecs Replica.Demo.node Staging.Demo.replicate)
      (.start .fresh false) (interrupted lost).1 (interrupted lost).2 :=
  runs_eval (step_answer refusing fun op => lost && decide (op.fetches ≠ [])) _ _

theorem Demo.interrupted_eq (lost : Bool) : interrupted lost =
    (replicateLeased Staging.Demo.codecs Replica.Demo.node Staging.Demo.replicate
      ⟨true, none, some Staging.Demo.twinDocument, Staging.Demo.twins.components⟩
      Staging.Demo.twinDocument Staging.Demo.twins).eval
      (answer refusing fun op => lost && decide (op.fetches ≠ [])) (.start .fresh false) :=
  eval_doReplicate rfl (by simp [Staging.Op.fetches]) (by simp [Staging.Op.fetches]) rfl
    Staging.Demo.sha256Hex_twinDocument Staging.Demo.parse_twinDocument rfl

/-- A refusal is cleaned up after. -/
theorem refused_cleaned : (Demo.interrupted false).2.begun = true ∧
    ((¬ Promoted (Demo.interrupted false).1 → (Demo.interrupted false).2.Clean) ↔
      (Demo.interrupted false).2.faulted = false ∧ ((Demo.interrupted false).2.begun = true ∨
        (LeasedSite.start .fresh false).Clean)) :=
  ⟨by rw [Demo.interrupted_eq]; decide +kernel,
    doReplicate_clean_iff _ _ _ _ _ _ _ _ (Demo.runs_interrupted false)⟩

/-- A lost connection is not. -/
theorem lost_left_behind : ∃ result s', Runs (LeaseStep Demo.refusing.spec)
      (doReplicate Staging.Demo.codecs Replica.Demo.node Staging.Demo.replicate)
      (.start .fresh false) result s' ∧
    ¬ Promoted result ∧ s'.site.staging ≠ none ∧ s'.leased = true := by
  refine ⟨_, _, Demo.runs_interrupted true, ?_, ?_, by rw [Demo.interrupted_eq]; decide +kernel⟩
  · have hresult : (Demo.interrupted true).1.toOption.map (·.ok) = none := by
      rw [Demo.interrupted_eq]
      decide +kernel
    rintro ⟨a, ha, -⟩
    rw [ha] at hresult
    cases hresult
  · have hstaged : (Demo.interrupted true).2.site.staging.isSome = true := by
      rw [Demo.interrupted_eq]
      decide +kernel
    exact Option.isSome_iff_ne_none.mp hstaged

end Demo

end CheckpointFabric.Leases
