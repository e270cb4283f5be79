import CheckpointFabric.Cleanup
import CheckpointFabric.Properties.Anchoring

/-!
# What a cleanup leaves in a memory region

A provider of memory regions replaces its target regions when it restores, and empties them when it
is asked to clean up. It does not remember what was in them before, so a cleanup that reaches it
brings nothing back, and one that reaches a provider that has restored nothing destroys what is
there.

An attempt is stopped at any point of its run, or the node has never seen it. Either way the cleanup
goes over every provider whose regions the attempt has changed.

## Main definitions

* `MemoryRegionProvider.restore`, `MemoryRegionProvider.cleanupRestore` — the two methods
* `RestoreStep`, `CleanupStep` — the operations on the memory of the node
* `Aborted` — where an attempt is stopped
* `Covered` — the cleanup undoes what the attempt has done to a provider

## Main results

* `regions_restored_iff` — when the cleanup leaves the regions as they were before the attempt
* `cleanup_destroys_regions` — a run in which it does not
-/

set_option autoImplicit false

namespace CheckpointFabric.Cleanup

open Concurrency Replica

section MemoryRegionProvider

variable (fromSlice : Bytes → Except String Regions)

/-- Replace the target regions by those of the payload. -/
def MemoryRegionProvider.restore (payload : Bytes) (target : Regions) : FabricResult Unit × Regions :=
  match fromSlice payload with
  | .error e => (.error (.restoreFailure s!"bad memory payload: {e}"), target)
  | .ok entries => (.ok (), entries)

/-- Empty the target regions. -/
def MemoryRegionProvider.cleanupRestore (_target : Regions) : FabricResult Unit × Regions :=
  (.ok (), [])

end MemoryRegionProvider

section Steps

variable (memory : Provider → Prop) (fromSlice : Bytes → Except String Regions)

/-- A call of a provider: those of memory regions work on their target regions, and the others have
none. -/
def ProviderStep (p : Provider) (method : Regions → FabricResult Unit × Regions) (s : Host)
    (reply : FabricResult Unit) (s' : Host) : Prop :=
  (memory p → (reply, s') = ((method (s.regions p)).1, s.setRegions p (method (s.regions p)).2)) ∧
    (¬ memory p → s' = s)

/-- What the operations of a restore do to the memory of the node. -/
def RestoreStep : (op : Replica.Op) → Host → FabricResult op.Reply → Host → Prop
  | .providerGet workloadId componentId, s, reply, s' =>
    reply = .ok (s.registry.get workloadId componentId) ∧ s' = s
  | .restore p _ payload, s, reply, s' =>
    ProviderStep memory p (MemoryRegionProvider.restore fromSlice payload) s reply s'
  | .cleanupRestore p _, s, reply, s' =>
    ProviderStep memory p MemoryRegionProvider.cleanupRestore s reply s'
  | .insertPending attemptId pending, s, reply, s' => reply = .ok () ∧ s' = s.pend attemptId pending
  | _, s, _, s' => s' = s

/-- What the operations of a cleanup do to it. What is in the memory always answers. -/
def CleanupStep : (op : Op) → Host → FabricResult op.Reply → Host → Prop
  | .releaseStaging _, s, reply, s' => reply = .ok () ∧ s' = s
  | .takePending attemptId, s, reply, s' =>
    reply = .ok (s.pendingRestores.lookup attemptId) ∧ s' = s.settle attemptId
  | .providerList workloadId, s, reply, s' => reply = .ok (s.registry.list workloadId) ∧ s' = s
  | .providerGet workloadId componentId, s, reply, s' =>
    reply = .ok (s.registry.get workloadId componentId) ∧ s' = s
  | .cleanupRestore p _, s, reply, s' =>
    ProviderStep memory p MemoryRegionProvider.cleanupRestore s reply s'
  | _, s, _, s' => s' = s

/-- The attempt was stopped here: the node has never seen it, or it has come to some point of its
run, which may be the end. An attempt is new to a node that sees it first. -/
inductive Aborted (files : FileCodecs) (node : NodeState) (req : NodeRestoreRequest) (s : Host) :
    Host → Prop
  | unseen : Aborted files node req s s
  | reached {rest : Replica.Work NodeRestoreResult} {s' : Host} :
      s.pendingRestores.lookup req.attemptId = none →
      Reaches (RestoreStep memory fromSlice) (doRestore files node req) s rest s' →
      Aborted files node req s s'

/-- What the cleanup message says about the attempt. -/
def targetOf (req : NodeRestoreRequest) : RestoreCleanupTarget :=
  ⟨req.attemptId, req.checkpointId, req.workloadId⟩

end Steps

variable {memory : Provider → Prop} {fromSlice : Bytes → Except String Regions}
  {files : FileCodecs} {node : NodeState} {req : NodeRestoreRequest} {p : Provider} {s₀ s s' : Host}

section Restore

/-- The provider still has the regions that it had before, or the cleanup of the attempt goes over
it. -/
structure Covered (req : NodeRestoreRequest) (p : Provider) (s₀ s : Host) : Prop where
  registry_eq : s.registry = s₀.registry
  covered : s.regions p = s₀.regions p ∨ p ∈ s.providersOf (targetOf req)

/-- The provider is registered for one of the components. -/
def FoundIn (req : NodeRestoreRequest) (s₀ : Host) (ids : List String) (p : Provider) : Prop :=
  ∃ id ∈ ids, s₀.registry.get req.workloadId id = some p

/-- The attempt is under way: what it has changed belongs to one of these components. -/
structure Underway (req : NodeRestoreRequest) (p : Provider) (s₀ : Host) (ids : List String)
    (s : Host) : Prop where
  registry_eq : s.registry = s₀.registry
  new : s.pendingRestores.lookup req.attemptId = none
  changed : s.regions p = s₀.regions p ∨ FoundIn req s₀ ids p

variable {ids : List String}

theorem FoundIn.append {ids' : List String} (h : FoundIn req s₀ ids p) :
    FoundIn req s₀ (ids ++ ids') p := by
  obtain ⟨id, hid, hget⟩ := h
  exact ⟨id, List.mem_append_left _ hid, hget⟩

theorem Underway.append {ids' : List String} (h : Underway req p s₀ ids s) :
    Underway req p s₀ (ids ++ ids') s :=
  ⟨h.registry_eq, h.new, h.changed.imp_right FoundIn.append⟩

/-- An attempt that is not pending is cleaned up with all the providers of its workload. -/
theorem Underway.covered (h : Underway req p s₀ ids s) : Covered req p s₀ s := by
  refine ⟨h.registry_eq, h.changed.imp_right fun hfound => ?_⟩
  obtain ⟨id, -, hget⟩ := hfound
  rw [← h.registry_eq] at hget
  have hids : s.idsOf (targetOf req) = s.registry.list req.workloadId := by
    rw [Host.idsOf, targetOf, h.new]
    rfl
  rw [Host.providersOf, hids, List.mem_filterMap]
  exact ⟨id, ProviderRegistry.mem_list_of_get hget, hget⟩

/-- When the attempt is done, its components are pending. -/
theorem Underway.covered_pend {pending : PendingRestore} (h : Underway req p s₀ pending.components s) :
    Covered req p s₀ (s.pend req.attemptId pending) := by
  refine ⟨h.registry_eq, h.changed.imp_right fun hfound => ?_⟩
  obtain ⟨id, hid, hget⟩ := hfound
  rw [← h.registry_eq] at hget
  have hids : (s.pend req.attemptId pending).idsOf (targetOf req) = pending.components := by
    rw [Host.idsOf, targetOf, Host.pend, List.lookup_cons_self]
    rfl
  rw [Host.providersOf, hids, List.mem_filterMap]
  exact ⟨id, hid, hget⟩

/-- A call of a provider that is registered. -/
theorem Underway.call {q : Provider} {method : Regions → FabricResult Unit × Regions}
    {reply : FabricResult Unit} (h : Underway req p s₀ ids s) (hq : FoundIn req s₀ ids q)
    (hstep : ProviderStep memory q method s reply s') : Underway req p s₀ ids s' := by
  by_cases hmemory : memory q
  · obtain ⟨-, rfl⟩ := Prod.mk.inj (hstep.1 hmemory)
    by_cases hp : p = q
    · exact ⟨h.registry_eq, h.new, .inr (hp ▸ hq)⟩
    · refine ⟨h.registry_eq, h.new, h.changed.imp_left fun heq => ?_⟩
      rw [s.setRegions_of_ne hp, heq]
  · obtain rfl := hstep.2 hmemory
    exact h

theorem Underway.of_reads {op : Replica.Op} {reply : FabricResult op.Reply} (hop : op.Reads)
    (hstep : RestoreStep memory fromSlice op s reply s') (h : Underway req p s₀ ids s) :
    Underway req p s₀ ids s' := by
  cases op with
  | openFile | read | readText | metadataLen | isFile | pathExists =>
    obtain rfl := hstep
    exact h
  | _ => exact hop.elim

/-- Reading leaves the memory of the node as it is. -/
theorem Underway.throughout_reads {α : Type} {work : Replica.Work α} (huses : Uses Replica.Op.Reads work)
    (h : Underway req p s₀ ids s) :
    Throughout (RestoreStep memory fromSlice) (Covered req p s₀)
      (fun _ s' => Underway req p s₀ ids s') work s :=
  (Throughout.of_uses huses (fun _ _ _ _ hop hstep hunder => hunder.of_reads hop hstep) h).weaken
    (fun _ hunder => hunder.covered) fun _ _ hunder _ => hunder

/-- A failed restore asks providers to clean up that it has found. -/
theorem Underway.throughout_refuse {touched : List Provider} {ctx : RestoreContext} {text : String}
    {restored : List String} (h : Underway req p s₀ ids s)
    (htouched : ∀ q ∈ touched, FoundIn req s₀ ids q) :
    Throughout (RestoreStep memory fromSlice) (Covered req p s₀) (fun _ _ => True) (do
      cleanupRestored touched ctx
      pure (refused req text restored)) s := by
  have hcleanup : Throughout (RestoreStep memory fromSlice) (Covered req p s₀) (fun _ _ => True)
      (cleanupRestored touched ctx) s := by
    induction touched generalizing s with
    | nil => exact ⟨h.covered, trivial⟩
    | cons q touched ih =>
      refine ⟨h.covered, fun reply s' hstep => ?_⟩
      exact ih (h.call (htouched q (.head _)) hstep) fun q' hq' => htouched q' (.tail _ hq')
  exact hcleanup.bind (fun _ _ hcovered _ => ⟨hcovered, trivial⟩) fun _ _ _ _ => trivial

theorem throughout_restoreComponents {ctx : RestoreContext} {components : List ComponentEntry}
    {touched : List Provider} (h : Underway req p s₀ ids s)
    (htouched : ∀ q ∈ touched, FoundIn req s₀ ids q) :
    Throughout (RestoreStep memory fromSlice) (Covered req p s₀) (fun _ _ => True)
      (restoreComponents files req ctx components ids touched) s := by
  induction components generalizing s ids touched with
  | nil =>
    refine throughout_call_bind h.covered ?_ ?_
    · rintro _ s₁ ⟨-, rfl⟩
      exact ⟨h.covered_pend, trivial⟩
    · rintro e s₁ ⟨herror, -⟩
      cases herror
  | cons c components ih =>
    refine throughout_call_bind h.covered ?_ ?_
    · rintro found s₁ ⟨hfound, rfl⟩
      rw [h.registry_eq] at hfound
      cases found with
      | none => exact Throughout.ite (fun _ => h.throughout_refuse htouched) fun _ => ih h htouched
      | some provider =>
        refine (h.throughout_reads uses_readComponentPayload).attempt_bind
          fun result s₂ _ h₂ => ?_
        cases result with
        | error e => exact h₂.throughout_refuse htouched
        | ok payload =>
          -- From here on the component counts, although it is not among the restored ones yet.
          have hget : FoundIn req s₀ (ids ++ [c.componentId]) provider :=
            ⟨c.componentId, List.mem_append_right _ (.head _), (Except.ok.inj hfound).symm⟩
          have htouched' : ∀ q ∈ provider :: touched, FoundIn req s₀ (ids ++ [c.componentId]) q := by
            intro q hq
            rcases List.mem_cons.mp hq with rfl | hq
            · exact hget
            · exact (htouched q hq).append
          refine throughout_call_attempt_bind h₂.covered fun applied s₃ hrestore => ?_
          have h₃ := h₂.append.call hget hrestore
          cases applied with
          | error e => exact h₃.throughout_refuse htouched'
          | ok _ =>
            refine throughout_call_attempt_bind h₃.covered fun verified s₄ hverify => ?_
            obtain rfl := hverify
            cases verified with
            | error e => exact h₃.throughout_refuse htouched'
            | ok _ => exact ih h₃ htouched'
    · rintro e s₁ ⟨herror, -⟩
      cases herror

/-- At every point of the attempt its cleanup goes over what it has changed. -/
theorem throughout_doRestore (hnew : s₀.pendingRestores.lookup req.attemptId = none) :
    Throughout (RestoreStep memory fromSlice) (Covered req p s₀) (fun _ _ => True)
      (doRestore files node req) s₀ := by
  have hstart : Underway req p s₀ [] s₀ := ⟨rfl, hnew, .inl rfl⟩
  have hcovered := hstart.covered
  have hstop {result : FabricResult NodeRestoreResult} :
      Throughout (RestoreStep memory fromSlice) (Covered req p s₀) (fun _ _ => True)
        (.done result : Replica.Work NodeRestoreResult) s₀ := ⟨hcovered, trivial⟩
  refine throughout_call_bind hcovered ?_ ?_
  · rintro _ s₁ rfl
    refine throughout_call_attempt_bind hcovered fun shown s₂ hread => ?_
    obtain rfl := hread
    cases shown with
    | error e => exact hstop
    | ok doc =>
      refine throughout_call_attempt_bind hcovered fun sidecar s₃ hread => ?_
      obtain rfl := hread
      refine Throughout.ite (fun _ => hstop) fun _ => ?_
      cases hparse : parse files doc with
      | error e => exact hstop
      | ok m =>
        refine Throughout.ite (fun _ => hstop) fun _ => ?_
        refine (hstart.throughout_reads uses_verifyComponents).bind
          (fun report s₄ _ h₄ => ?_) fun _ _ _ _ => trivial
        cases report with
        | some failure => exact ⟨h₄.covered, trivial⟩
        | none =>
          exact throughout_restoreComponents h₄ fun q hq => absurd hq List.not_mem_nil
  · rintro e s₁ rfl
    exact ⟨hcovered, trivial⟩

theorem Aborted.covered (h : Aborted memory fromSlice files node req s₀ s) : Covered req p s₀ s := by
  cases h with
  | unseen => exact ⟨rfl, .inl rfl⟩
  | reached hnew hreaches => exact ((throughout_doRestore hnew).of_reaches hreaches).start

end Restore

section Cleanup

/-- The regions of these providers were emptied, and those of the others kept. -/
structure Emptied (memory : Provider → Prop) (ps : List Provider) (s s' : Host) : Prop where
  registry_eq : s'.registry = s.registry
  regions_eq : ∀ p, memory p → s'.regions p = if p ∈ ps then [] else s.regions p

variable {ps qs : List Provider} {s'' : Host}

theorem Emptied.refl : Emptied memory [] s s := ⟨rfl, fun _ _ => rfl⟩

theorem Emptied.trans (h : Emptied memory ps s s') (h' : Emptied memory qs s' s'') :
    Emptied memory (ps ++ qs) s s'' := by
  refine ⟨h'.registry_eq.trans h.registry_eq, fun p hp => ?_⟩
  rw [h'.regions_eq p hp, h.regions_eq p hp]
  by_cases hps : p ∈ ps
  · rw [if_pos hps, if_pos (List.mem_append_left _ hps), ite_self]
  · rw [if_neg hps]
    by_cases hqs : p ∈ qs
    · rw [if_pos hqs, if_pos (List.mem_append_right _ hqs)]
    · rw [if_neg hqs, if_neg fun h => (List.mem_append.mp h).elim hps hqs]

theorem Emptied.congr (h : Emptied memory ps s s') (heq : ∀ p, p ∈ ps ↔ p ∈ qs) :
    Emptied memory qs s s' := by
  refine ⟨h.registry_eq, fun p hp => ?_⟩
  rw [h.regions_eq p hp, if_congr (heq p) rfl rfl]

theorem emptied_of_step {q : Provider} {reply : FabricResult Unit}
    (hstep : ProviderStep memory q MemoryRegionProvider.cleanupRestore s reply s') :
    s'.pendingRestores = s.pendingRestores ∧ Emptied memory [q] s s' := by
  by_cases hmemory : memory q
  · obtain ⟨-, rfl⟩ := Prod.mk.inj (hstep.1 hmemory)
    refine ⟨rfl, rfl, fun p _ => ?_⟩
    by_cases hp : p = q
    · subst hp
      rw [if_pos (.head _), Host.setRegions_self]
      rfl
    · rw [if_neg (by simpa using hp), s.setRegions_of_ne hp]
  · obtain rfl := hstep.2 hmemory
    refine ⟨rfl, rfl, fun p hp => ?_⟩
    have hne : p ≠ q := fun heq => hmemory (heq ▸ hp)
    rw [if_neg (by simpa using hne)]

theorem ends_cleanupComponents {target : RestoreCleanupTarget} {ctx : RestoreContext}
    {ids : List String} {error : Option String} :
    Ends (CleanupStep memory) (fun result s' => (∃ error', result = .ok error') ∧
      s'.pendingRestores = s.pendingRestores ∧
        Emptied memory (ids.filterMap (s.registry.get target.workloadId)) s s')
      (cleanupComponents target ctx ids error) s := by
  induction ids generalizing s error with
  | nil => exact ⟨⟨error, rfl⟩, rfl, Emptied.refl⟩
  | cons id ids ih =>
    refine ends_call_bind ?_ ?_
    · rintro found s₁ ⟨hfound, rfl⟩
      have hget := (Except.ok.inj hfound).symm
      cases found with
      | none =>
        rw [List.filterMap_cons_none hget]
        exact ih
      | some provider =>
        rw [List.filterMap_cons_some hget]
        refine Ends.attempt_bind (fun _ _ hstep => hstep) fun reply s₂ hstep => ?_
        obtain ⟨hpending, hemptied⟩ := emptied_of_step hstep
        have hrest (error : Option String) : Ends (CleanupStep memory)
            (fun result s' => (∃ error', result = .ok error') ∧
              s'.pendingRestores = s₁.pendingRestores ∧ Emptied memory
                (provider :: ids.filterMap (s₁.registry.get target.workloadId)) s₁ s')
            (cleanupComponents target ctx ids error) s₂ := by
          refine ih.weaken fun _ s' h => ⟨h.1, h.2.1.trans hpending, ?_⟩
          rw [← hemptied.registry_eq]
          exact hemptied.trans h.2.2
        cases reply with
        | ok _ => exact hrest _
        | error e => exact hrest _
    · rintro e s₁ ⟨herror, -⟩
      cases herror

theorem ends_componentIds {target : RestoreCleanupTarget} :
    Ends (CleanupStep memory) (fun result s' =>
      result = .ok (s.idsOf target) ∧ s' = s.settle target.attemptId) (componentIds target) s := by
  refine ends_call_bind ?_ ?_
  · rintro found s₁ ⟨hfound, rfl⟩
    have hids : s.idsOf target = (found.map (·.components)).getD
        (s.registry.list target.workloadId) := by
      rw [Host.idsOf, ← Except.ok.inj hfound]
    rw [hids]
    cases found with
    | some pending => exact ⟨rfl, rfl⟩
    | none =>
      rintro reply s₂ ⟨rfl, rfl⟩
      exact ⟨rfl, rfl⟩
  · rintro e s₁ ⟨herror, -⟩
    cases herror

theorem ends_cleanupTargets {targets : List RestoreCleanupTarget} {error : Option String} :
    Ends (CleanupStep memory) (fun result s' => (∃ error', result = .ok error') ∧
      Emptied memory (s.goneOver targets) s s') (cleanupTargets node targets error) s := by
  induction targets generalizing s error with
  | nil => exact ⟨⟨error, rfl⟩, Emptied.refl⟩
  | cons target targets ih =>
    refine Ends.bind ends_componentIds ?_ ?_
    · rintro ids s₁ ⟨hids, rfl⟩
      obtain rfl := Except.ok.inj hids
      refine Ends.bind ends_cleanupComponents ?_ ?_
      · rintro error' s₂ ⟨-, hpending, hemptied⟩
        have hfirst : Emptied memory (s.providersOf target) s s₂ :=
          ⟨hemptied.registry_eq, (hemptied.congr fun p => by
            simp only [Host.providersOf, List.mem_filterMap, List.mem_reverse]
            rfl).regions_eq⟩
        refine ih.weaken fun _ s' h => ⟨h.1, hfirst.trans ?_⟩
        have hrest := h.2
        rwa [Host.goneOver_congr hpending hemptied.registry_eq] at hrest
      · rintro e s₂ ⟨⟨_, hok⟩, -⟩
        cases hok
    · rintro e s₁ ⟨herror, -⟩
      cases herror

/-- Removing directories does not reach the providers. -/
theorem ends_cleanupStaging {attempts : List AttemptId} {done : NodeCleanupResult} :
    Ends (CleanupStep memory) (fun result s' => (∃ done', result = .ok done') ∧ s' = s)
      (cleanupStaging node attempts done) s := by
  induction attempts generalizing done with
  | nil => exact ⟨⟨done, rfl⟩, rfl⟩
  | cons attempt attempts ih =>
    refine ends_call_bind ?_ ?_
    · rintro _ s₁ ⟨-, rfl⟩
      refine Ends.attempt_bind (fun _ _ hstep => hstep) fun there s₂ hthere => ?_
      obtain rfl := hthere
      split
      · refine Ends.attempt_bind (fun _ _ hstep => hstep) fun removed s₃ hremoved => ?_
        obtain rfl := hremoved
        cases removed with
        | ok _ => exact ih
        | error e => exact ih
      · exact ih
    · rintro e s₁ ⟨herror, -⟩
      cases herror

theorem ends_cleanupCheckpoints {ids : List Id} {done : NodeCleanupResult} :
    Ends (CleanupStep memory) (fun _ s' => s' = s) (cleanupCheckpoints ids done) s := by
  induction ids generalizing done with
  | nil => exact rfl
  | cons id ids ih =>
    refine Ends.attempt_bind (fun _ _ hstep => hstep) fun deleted s₁ hdeleted => ?_
    obtain rfl := hdeleted
    cases deleted with
    | ok _ => exact ih
    | error e => exact ih

/-- The cleanup empties the regions of the providers that it goes over. -/
theorem ends_doCleanup {creq : NodeCleanupRequest} :
    Ends (CleanupStep memory) (fun _ s' => Emptied memory (s.goneOver creq.restoreAttempts) s s')
      (doCleanup node creq) s := by
  refine Ends.bind ends_cleanupStaging ?_ ?_
  · rintro done s₁ ⟨-, rfl⟩
    refine Ends.bind ends_cleanupTargets ?_ ?_
    · rintro error s₂ ⟨-, hemptied⟩
      refine ends_cleanupCheckpoints.weaken fun _ s₃ hsame => ?_
      rwa [hsame]
    · rintro e s₂ ⟨⟨_, hok⟩, -⟩
      cases hok
  · rintro e s₁ ⟨⟨_, hok⟩, -⟩
    cases hok

end Cleanup

/-- Let an attempt be stopped anywhere, and let the node process a cleanup message about it. The target
regions of a provider are what they were before the attempt iff they were empty, or the cleanup does
not go over the provider. -/
theorem regions_restored_iff {creq : NodeCleanupRequest} {s₁ s₂ : Host}
    {result : FabricResult NodeCleanupResult} (hp : memory p)
    (haborted : Aborted memory fromSlice files node req s₀ s₁)
    (htarget : targetOf req ∈ creq.restoreAttempts)
    (hcleanup : Runs (CleanupStep memory) (doCleanup node creq) s₁ result s₂) :
    s₂.regions p = s₀.regions p ↔
      s₀.regions p = [] ∨ p ∉ s₁.goneOver creq.restoreAttempts := by
  have hemptied := (ends_iff.mp ends_doCleanup _ _ hcleanup).regions_eq p hp
  have hcovered : s₁.regions p = s₀.regions p ∨ p ∈ s₁.providersOf (targetOf req) :=
    haborted.covered.covered
  by_cases hgone : p ∈ s₁.goneOver creq.restoreAttempts
  · rw [if_pos hgone] at hemptied
    rw [hemptied]
    exact ⟨fun h => .inl h.symm, fun h => h.elim Eq.symm fun hnot => absurd hgone hnot⟩
  · -- What the cleanup does not go over has kept its regions.
    have hkept : s₁.regions p = s₀.regions p :=
      hcovered.resolve_right fun hproviders => hgone (Host.mem_goneOver htarget hproviders)
    rw [if_neg hgone, hkept] at hemptied
    exact ⟨fun _ => .inr hgone, fun _ => hemptied⟩

/-! ### A node with one provider

All providers are of memory regions, and a payload is one region. -/

namespace Demo

def ofPayload (payload : Bytes) : Except String Regions := .ok [("heap", payload)]

def host (regions : Regions) : Host where
  pendingRestores := []
  registry := ⟨[((7, "app"), 1)]⟩
  regions _ := regions

def cleanup : NodeCleanupRequest := ⟨[], [targetOf Replica.Demo.request], []⟩

/-- A method of a provider, and the host after it. -/
def call (p : Provider) (method : Regions → FabricResult Unit × Regions) (s : Host) :
    FabricResult Unit × Host :=
  ((method (s.regions p)).1, s.setRegions p (method (s.regions p)).2)

def restoreAnswer : (op : Replica.Op) → Host → FabricResult op.Reply × Host
  | .providerGet workloadId componentId, s => (.ok (s.registry.get workloadId componentId), s)
  | .restore p _ payload, s => call p (MemoryRegionProvider.restore ofPayload payload) s
  | .cleanupRestore p _, s => call p MemoryRegionProvider.cleanupRestore s
  | .insertPending attemptId pending, s => (.ok (), s.pend attemptId pending)
  | op, s => (Replica.Demo.answer op, s)

def cleanupAnswer : (op : Op) → Host → FabricResult op.Reply × Host
  | .takePending attemptId, s => (.ok (s.pendingRestores.lookup attemptId), s.settle attemptId)
  | .providerList workloadId, s => (.ok (s.registry.list workloadId), s)
  | .providerGet workloadId componentId, s => (.ok (s.registry.get workloadId componentId), s)
  | .cleanupRestore p _, s => call p MemoryRegionProvider.cleanupRestore s
  | .pathExists _, s => (.ok false, s)
  | .releaseStaging _, s | .removeDirAll _, s | .deleteCommitted _, s => (.ok (), s)

theorem providerStep_call (p : Provider) (method : Regions → FabricResult Unit × Regions) (s : Host) :
    ProviderStep (fun _ => True) p method s (call p method s).1 (call p method s).2 :=
  ⟨fun _ => rfl, fun hnot => absurd trivial hnot⟩

theorem restoreStep_answer (op : Replica.Op) (s : Host) :
    RestoreStep (fun _ => True) ofPayload op s (restoreAnswer op s).1 (restoreAnswer op s).2 := by
  cases op with
  | providerGet | insertPending => exact ⟨rfl, rfl⟩
  | restore | cleanupRestore => exact providerStep_call _ _ s
  | _ => exact rfl

theorem cleanupStep_answer (op : Op) (s : Host) :
    CleanupStep (fun _ => True) op s (cleanupAnswer op s).1 (cleanupAnswer op s).2 := by
  cases op with
  | releaseStaging | takePending | providerList | providerGet => exact ⟨rfl, rfl⟩
  | cleanupRestore => exact providerStep_call _ _ s
  | _ => exact rfl

/-- The attempt, which succeeds, and the host after it. -/
def restored (regions : Regions) : FabricResult NodeRestoreResult × Host :=
  (doRestore Replica.Demo.files Replica.Demo.node Replica.Demo.request).eval restoreAnswer
    (host regions)

/-- How a restore finds the manifest, whatever the state is. -/
theorem eval_doRestore {files : FileCodecs} {req : NodeRestoreRequest} {doc : Bytes} {m : Manifest}
    {answer : (op : Replica.Op) → FabricResult op.Reply}
    (h : Replica.Demo.Finds files req doc m answer)
    {answerIn : (op : Replica.Op) → Host → FabricResult op.Reply × Host} {s : Host}
    (hfire : ∀ name, answerIn (.fire name) s = (answer (.fire name), s))
    (hread : ∀ path, answerIn (.read path) s = (answer (.read path), s))
    (hreadText : ∀ path, answerIn (.readText path) s = (answer (.readText path), s)) :
    (doRestore files Replica.Demo.node req).eval answerIn s =
      (Replica.Demo.applied files Replica.Demo.node req m).eval answerIn s := by
  obtain ⟨hcheckpoint, hworkload⟩ := h.identity
  unfold doRestore
  simp only [Program.eval, Replica.perform, Program.call, Program.bind_def, Program.attempt,
    Program.perform_andThen, Program.done_andThen, Program.onValue_ok, Program.ofExcept, hfire,
    hread, hreadText, h.fire, h.manifest, h.digest, h.anchored, h.trimmed, Except.toOption,
    Option.getD_some, ne_eq, not_true_eq_false, or_self, if_false, h.parsed, hcheckpoint, hworkload]
  rfl

theorem restored_eq (regions : Regions) : restored regions =
    (Replica.Demo.applied Replica.Demo.files Replica.Demo.node Replica.Demo.request
      Replica.Demo.manifest).eval restoreAnswer (host regions) :=
  eval_doRestore Replica.Demo.finds_answer (fun _ => rfl) (fun _ => rfl) fun _ => rfl

theorem aborted_restored (regions : Regions) :
    Aborted (fun _ => True) ofPayload Replica.Demo.files Replica.Demo.node Replica.Demo.request
      (host regions) (restored regions).2 :=
  .reached rfl (runs_eval restoreStep_answer _ _).reaches

/-- The cleanup alone, and the host that it leaves. -/
def cleaned (s : Host) : FabricResult NodeCleanupResult × Host :=
  (doCleanup Replica.Demo.node cleanup).eval cleanupAnswer s

theorem runs_cleaned (s : Host) :
    Runs (CleanupStep fun _ => True) (doCleanup Replica.Demo.node cleanup) s (cleaned s).1
      (cleaned s).2 :=
  runs_eval cleanupStep_answer _ _

end Demo

/-- A region that was empty is empty again after the payload was in it. One that was in use is not
what it was. -/
theorem regions_restored_iff_restored :
    (Demo.restored []).2.regions 1 = [("heap", Replica.Demo.payload)] ∧
    ((Demo.cleaned (Demo.restored []).2).2.regions 1 = (Demo.host []).regions 1 ↔
      (Demo.host []).regions 1 = [] ∨
        1 ∉ (Demo.restored []).2.goneOver Demo.cleanup.restoreAttempts) ∧
    (Demo.restored [("heap", [1])]).2.regions 1 = [("heap", Replica.Demo.payload)] ∧
    ((Demo.cleaned (Demo.restored [("heap", [1])]).2).2.regions 1 =
        (Demo.host [("heap", [1])]).regions 1 ↔
      (Demo.host [("heap", [1])]).regions 1 = [] ∨
        1 ∉ (Demo.restored [("heap", [1])]).2.goneOver Demo.cleanup.restoreAttempts) ∧
    (Demo.cleaned (Demo.restored [("heap", [1])]).2).2.regions 1 = [] := by
  refine ⟨?_, regions_restored_iff trivial (Demo.aborted_restored []) (.head _)
    (Demo.runs_cleaned _), ?_, regions_restored_iff trivial (Demo.aborted_restored _) (.head _)
    (Demo.runs_cleaned _), ?_⟩
  · rw [Demo.restored_eq]
    decide +kernel
  · rw [Demo.restored_eq]
    decide +kernel
  · rw [Demo.restored_eq]
    decide +kernel

/-- The node has never seen the attempt; its cleanup empties a region that was in use. -/
theorem cleanup_destroys_regions :
    let before := Demo.host [("heap", [1])]
    Aborted (fun _ => True) Demo.ofPayload Replica.Demo.files Replica.Demo.node Replica.Demo.request
      before before ∧
    targetOf Replica.Demo.request ∈ Demo.cleanup.restoreAttempts ∧
    ∃ result s₂, Runs (CleanupStep fun _ => True) (doCleanup Replica.Demo.node Demo.cleanup)
      before result s₂ ∧ before.regions 1 = [("heap", [1])] ∧ s₂.regions 1 = [] := by
  intro before
  refine ⟨.unseen, .head _, _, _, Demo.runs_cleaned before, rfl, ?_⟩
  decide +kernel

end CheckpointFabric.Cleanup
