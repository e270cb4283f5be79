import CheckpointFabric.Properties.Captures
import CheckpointFabric.Properties.Fencing
import CheckpointFabric.Properties.Staleness

/-!
# Captures and the authority they were admitted under

A capture is admitted under an epoch and a holder of its workload, and its image is taken by a node
that may lose the workload meanwhile. The commit looks at neither. A restore in between fails it, by
the generation; a fence, a claim, a release or a sweep in between does not.

## Main definitions

* `CommitsLiveImage` — no image is committed of a workload that was fenced, or of a node that was
  declared STALE, during the capture
* `Undisturbed` — no fence and no sweep comes between, and the workload is back with its holder

## Main results

* `commits_authorized_iff` — the commits are under unchanged authority iff they are undisturbed
* `fenced_capture_commits`, `swept_capture_commits` — a capture that is fenced commits all the same,
  and so does the image of a node that has been declared STALE
-/

set_option autoImplicit false

namespace CheckpointFabric.CaptureAuthority

open Concurrency Coordinator Staleness System

variable {settings : Settings} {t past past' : List (Event (fabric settings))}
  {e : Event (fabric settings)} {tid : ℕ} {id : Id} {n : NodeId}

section Definitions

/-- What a thread had done when it drew the id of the checkpoint, from the read of the workload on
that admitted the capture. -/
def admissionOf (id : Id) : List FabricDeed → List FabricDeed
  | [] => []
  | d :: ds => if drawsId id d then ds.dropWhile fun d => !readsWorkload d else admissionOf id ds

/-- At `past'` the thread has read the row already that admits its capture. -/
def Underway (tid : ℕ) (id : Id) (past past' : List (Event (fabric settings))) : Prop :=
  (admissionOf id (deeds tid past)).length ≤ (deeds tid past').length

instance : Decidable (Underway tid id past past') := by
  unfold Underway
  infer_instance

/-- The nodes that a thread has asked for the image of the checkpoint. -/
def imageNodes (id : Id) (ds : List FabricDeed) : List NodeId :=
  ds.filterMap fun
    | ⟨.call node (.capture req), _⟩ => if req.checkpointId = id then some node else none
    | _ => none

/-- The event takes the workload from its node, to a later epoch. -/
def FencesWorkload (e : Event (fabric settings)) (past : List (Event (fabric settings))) (id : Id) :
    Prop :=
  ∃ w ∈ (stateOf past).workload id, ∃ w' ∈ (after e).workload id,
    w.executionEpoch < w'.executionEpoch ∧ w'.activeNode = none

instance : Decidable (FencesWorkload e past id) := by
  unfold FencesWorkload
  infer_instance

/-- The event makes the node STALE. -/
def DeclaresStale (e : Event (fabric settings)) (past : List (Event (fabric settings)))
    (n : NodeId) : Prop :=
  ¬ StaleNode (stateOf past) n ∧ StaleNode (after e) n

instance : Decidable (DeclaresStale e past n) := by
  unfold DeclaresStale StaleNode
  infer_instance

/-- If the event makes a checkpoint AVAILABLE, the workload has the epoch and the active node of
the row that admitted the capture. -/
def CommitsUnderAuthority (e : Event (fabric settings)) (past : List (Event (fabric settings))) :
    Prop :=
  ∀ commit ∈ committedCapture e, ∀ c ∈ commit.2.checkpoint commit.1,
    ∀ w ∈ commit.2.workload c.workloadId, ∀ tid < admissions past,
      ∀ w₀ ∈ admittedRow commit.1 (deeds tid past),
        w.executionEpoch = w₀.executionEpoch ∧ w.activeNode = w₀.activeNode

instance (e : Event (fabric settings)) (past : List (Event (fabric settings))) :
    Decidable (CommitsUnderAuthority e past) :=
  inferInstanceAs (Decidable (∀ commit ∈ committedCapture e,
    ∀ c ∈ commit.2.checkpoint commit.1, ∀ w ∈ commit.2.workload c.workloadId,
      ∀ tid < admissions past, ∀ w₀ ∈ admittedRow commit.1 (deeds tid past),
        w.executionEpoch = w₀.executionEpoch ∧ w.activeNode = w₀.activeNode))

/-- Since the read that admitted the capture the workload was not fenced, and no node that was asked
for the image was declared STALE. -/
def KeepsAuthority (tid : ℕ) (id workloadId : Id) (past : List (Event (fabric settings))) : Prop :=
  EveryStep (fun e' past' => Underway tid id past past' →
    ¬ FencesWorkload e' past' workloadId ∧
      ∀ n ∈ imageNodes id (deeds tid past), ¬ DeclaresStale e' past' n) past

instance {workloadId : Id} : Decidable (KeepsAuthority tid id workloadId past) := by
  unfold KeepsAuthority
  infer_instance

/-- If the event makes a checkpoint AVAILABLE, neither its workload nor the node of its image has
lost its authority during the capture. -/
def CommitsLiveImage (e : Event (fabric settings)) (past : List (Event (fabric settings))) : Prop :=
  ∀ commit ∈ committedCapture e, ∀ c ∈ commit.2.checkpoint commit.1, ∀ tid < admissions past,
    ∀ _w₀ ∈ admittedRow commit.1 (deeds tid past), KeepsAuthority tid commit.1 c.workloadId past

instance : Decidable (CommitsLiveImage e past) := by
  unfold CommitsLiveImage
  infer_instance

/-- The operation fences the workload. -/
def bumpsFence (id : Id) : StoreOp → Bool
  | .workloadBumpFence id' _ => id' = id
  | _ => false

/-- The event is a fence of the workload that goes through. -/
def Bumps (e : Event (fabric settings)) (id : Id) : Prop :=
  ∃ call ∈ callOf e, bumpsFence id call.2

instance : Decidable (Bumps e id) := by
  unfold Bumps
  infer_instance

/-- The operation marks the node STALE. -/
def setsStale (n : NodeId) : StoreOp → Bool
  | .nodeSetStatus n' .stale => n' = n
  | _ => false

/-- The event marks the node STALE. -/
def MarksStale (e : Event (fabric settings)) (n : NodeId) : Prop :=
  ∃ call ∈ callOf e, setsStale n call.2

instance : Decidable (MarksStale e n) := by
  unfold MarksStale
  infer_instance

/-- A sweep finds the node overdue, or it is marked while it is not STALE. -/
def Overtakes (e : Event (fabric settings)) (past : List (Event (fabric settings))) (n : NodeId) :
    Prop :=
  (∃ a ∈ deedOf e, n ∈ declaredBy a.2) ∨
    MarksStale e n ∧ ∃ status ∈ nodeStatus (stateOf past) n, status ≠ .stale

instance : Decidable (Overtakes e past n) := by
  unfold Overtakes
  infer_instance

/-- Whom a claim of the workload, or a release by its node, leaves it with. -/
def leavesWith (id : Id) (e : Event (fabric settings)) (past : List (Event (fabric settings))) :
    Option (Option NodeId) :=
  match attachOf e with
  | some (id', node, _) => if id' = id then some (some node) else none
  | none =>
    match callOf e with
    | some (_, .workloadRelease id' node) =>
      if id' = id ∧ ((stateOf past).workload id).bind (·.activeNode) = some node then some none
      else none
    | _ => none

/-- Whom the newest claim or release since the admission has left the workload with. -/
def leftWith (tid : ℕ) (id : Id) (past : List (Event (fabric settings))) (workloadId : Id) :
    List (Event (fabric settings)) → Option (Option NodeId)
  | [] => none
  | e :: past' =>
    if Underway tid id past past' then
      (leavesWith workloadId e past').or (leftWith tid id past workloadId past')
    else none

/-- Since the read that admitted the capture no fence of the workload went through, and no sweep has
overtaken a node that was asked for the image. -/
def Unfenced (tid : ℕ) (id workloadId : Id) (past : List (Event (fabric settings))) : Prop :=
  EveryStep (fun e' past' => Underway tid id past past' →
    ¬ Bumps e' workloadId ∧
      ∀ n ∈ imageNodes id (deeds tid past), ¬ Overtakes e' past' n) past

instance {workloadId : Id} : Decidable (Unfenced tid id workloadId past) := by
  unfold Unfenced
  infer_instance

/-- If the event makes a checkpoint AVAILABLE, the capture was not fenced, and the claims and
releases since its admission have left the workload with the node of the admission at last. -/
def Undisturbed (e : Event (fabric settings)) (past : List (Event (fabric settings))) : Prop :=
  ∀ commit ∈ committedCapture e, ∀ c ∈ commit.2.checkpoint commit.1, ∀ tid < admissions past,
    ∀ w₀ ∈ admittedRow commit.1 (deeds tid past), Unfenced tid commit.1 c.workloadId past ∧
      ∀ holder ∈ leftWith tid commit.1 past c.workloadId past, holder = w₀.activeNode

instance : Decidable (Undisturbed e past) := by
  unfold Undisturbed
  infer_instance

end Definitions

section Admission

variable {workloadId nonce : Id} {ds ds₀ ds₁ : List FabricDeed} {run : CaptureRun}

/-- Where an identity is drawn once, the admission is what was there before. -/
theorem admissionOf_eq (hd : (⟨.random, .ok id⟩ : FabricDeed) :: ds₁ <:+ ds)
    (hunique : ∀ ds', (⟨.random, .ok id⟩ : FabricDeed) :: ds' <:+ ds → ds' = ds₁) :
    admissionOf id ds = ds₁.dropWhile fun d => !readsWorkload d := by
  induction ds with
  | nil => simp at hd
  | cons d ds ih =>
    by_cases hdraws : drawsId id d = true
    · rw [admissionOf, if_pos hdraws]
      rw [hunique ds (eq_of_drawsId hdraws ▸ List.suffix_refl _)]
    · rw [admissionOf, if_neg hdraws]
      rcases List.suffix_cons_iff.mp hd with heq | hd
      · exact absurd (by rw [← (List.cons.inj heq).1]; simp [drawsId]) hdraws
      · exact ih hd fun ds' hds' => hunique ds' (hds'.trans (List.suffix_cons d ds))

/-- An admission begins with the read of the row. -/
theorem admissionOf_of_drawn (h : Run t)
    (hdrawn : CaptureDrawn workloadId nonce ds₀ (deeds tid t) run) :
    ∃ older, admissionOf run.checkpointId (deeds tid t) =
        ⟨.db (.workloadGet workloadId), .ok (some run.workload)⟩ :: older ∧
      (⟨.db (.workloadGet workloadId), .ok (some run.workload)⟩ : FabricDeed) :: older <:+
        deeds tid t := by
  obtain ⟨latest, -, hdraws⟩ := hdrawn.draws
  obtain ⟨-, recent, older, rfl, hrecent⟩ := List.find?_eq_some_iff_append.mp hdrawn.read
  refine ⟨older, ?_, ?_⟩
  · rw [admissionOf_eq hdraws fun ds' hds' => (drawn_unique h hds' hdraws).2]
    rw [List.dropWhile_cons_of_pos rfl, List.dropWhile_cons_of_pos rfl,
      List.dropWhile_append_of_pos hrecent]
    rfl
  · apply List.IsSuffix.trans _ hdrawn.nonce_suffix
    exact (List.suffix_append recent _).trans (List.suffix_cons _ _)

/-- The capture is underway from the event on by which its thread has read the row. -/
theorem underway_iff {d : FabricDeed} {t₁ : List (Event (fabric settings))} (hread : e :: t₁ <:+ t)
    (hpast : past <:+ t) (hdeeds : deeds tid (e :: t₁) = d :: deeds tid t₁)
    (hadmission : admissionOf id (deeds tid t) = d :: deeds tid t₁) :
    Underway tid id t past ↔ e :: t₁ <:+ past := by
  rw [Underway, hadmission, ← hdeeds]
  constructor
  · intro hle
    rcases List.suffix_or_suffix_of_suffix hread hpast with hsuffix | hsuffix
    · exact hsuffix
    rcases List.suffix_cons_iff.mp hsuffix with rfl | hsuffix
    · exact List.suffix_refl _
    · have hshorter := (deeds_suffix hsuffix : deeds tid past <:+ _).length_le
      rw [hdeeds, List.length_cons] at hle
      omega
  · exact fun hsuffix => (deeds_suffix hsuffix).length_le

end Admission

section Steps

variable {w w' : Workload}

theorem eq_of_bumpsFence {op : StoreOp} (h : bumpsFence id op) :
    ∃ expectedEpoch, op = .workloadBumpFence id expectedEpoch := by
  cases op with
  | workloadBumpFence id' expectedEpoch =>
    obtain rfl : id' = id := of_decide_eq_true h
    exact ⟨expectedEpoch, rfl⟩
  | _ => cases h

/-- A fence goes on to a later epoch. -/
theorem epoch_lt_of_bumps (h : Run (e :: t)) (hbumps : Bumps e id)
    (hw : (stateOf t).workload id = some w) :
    ∃ w', (after e).workload id = some w' ∧ w.executionEpoch < w'.executionEpoch := by
  obtain ⟨⟨tid, op⟩, hcall, hop⟩ := hbumps
  obtain ⟨epoch, rfl⟩ := eq_of_bumpsFence hop
  obtain ⟨reply, hcalls⟩ := exists_calls_of_callOf h hcall
  obtain ⟨w₁, hw₁, -, hstore⟩ := Store.workloadBumpFence_ok (StoreOp.of_map_ok hcalls.run)
  obtain rfl : w = w₁ := Option.some.inj (hw.symm.trans hw₁)
  have hrow : (after e).workload id = some { w with
      executionEpoch := w.executionEpoch + 1, fenceToken := none, activeNode := none } := by
    rw [World.workload, hstore, Table.get_modify_self, hw₁, Option.map_some]
  exact ⟨_, hrow, Nat.lt_succ_self w.executionEpoch⟩

/-- A release by the node that has the workload leaves it with none, in its epoch. -/
theorem workload_of_release {node : NodeId} (h : Run (e :: t))
    (hcall : callOf e = some (tid, .workloadRelease id node))
    (hw : (stateOf t).workload id = some w) (hactive : w.activeNode = some node) :
    (after e).workload id = some { w with fenceToken := none, activeNode := none } := by
  obtain ⟨reply, hcalls⟩ := exists_calls_of_callOf h hcall
  have hrow : (stateOf t).store.workloads.get id = some w := hw
  rw [World.workload, ← StoreOp.snd_of_ok hcalls.run, Store.workloadRelease, Table.get_modify_self,
    hrow, Option.map_some, if_pos hactive]

theorem attachOf_of_calls {op : StoreOp} {reply : op.Reply} (h : Calls e t tid op reply) :
    attachOf e = none := by
  obtain ⟨input, rfl, -⟩ := h
  rfl

/-- Whom a call of the store leaves a workload with. -/
theorem workload_of_calls {op : StoreOp} {reply : op.Reply} (h : Run (e :: t))
    (hcalls : Calls e t tid op reply) (hw : (stateOf t).workload id = some w)
    (hbumps : ¬ Bumps e id) (hrestores : ¬ RestoresWorkload e id) :
    ∃ w', (after e).workload id = some w' ∧ w'.executionEpoch = w.executionEpoch ∧
      w'.activeNode = (leavesWith id e t).getD w.activeNode := by
  have hcall := hcalls.callOf_eq
  by_cases hreleases : ∃ node, op = .workloadRelease id node ∧ w.activeNode = some node
  · obtain ⟨node, rfl, hactive⟩ := hreleases
    refine ⟨_, workload_of_release h hcall hw hactive, rfl, ?_⟩
    simp [leavesWith, attachOf_of_calls hcalls, hcall, hw, hactive]
  have hleaves : leavesWith id e t = none := by
    rw [leavesWith, attachOf_of_calls hcalls]
    dsimp only
    split
    · rename_i tid' id' node hcall'
      obtain ⟨-, rfl⟩ := Prod.mk.inj (Option.some.inj (hcall.symm.trans hcall'))
      rw [if_neg]
      rintro ⟨rfl, hactive⟩
      rw [hw, Option.bind_some] at hactive
      exact hreleases ⟨node, rfl, hactive⟩
    · rfl
  rw [hleaves, Option.getD_none]
  have hstep : WorkloadStep (stateOf t) id (.db op) (some w) ((after e).workload id) := by
    obtain ⟨input, rfl, -⟩ := hcalls
    exact hw ▸ World.workloadStep settings.codecs (.db op) input (stateOf t) id
  generalize (after e).workload id = row at hstep
  cases hstep with
  | kept => exact ⟨w, rfl, rfl, rfl⟩
  | recorded hrecorded =>
    obtain ⟨generation, class_, rfl⟩ := hrecorded
    exact ⟨_, rfl, rfl, rfl⟩
  | fenced => exact absurd ⟨_, hcall, decide_eq_true rfl⟩ hbumps
  | released hactive => exact absurd ⟨_, rfl, hactive⟩ hreleases
  | restored hckpt howner =>
    obtain ⟨input, rfl, hreply⟩ := hcalls
    exact absurd ⟨_, _, _, _, _, _, _, _, _, _, rfl, hreply, hckpt, howner⟩ hrestores

/-- Whom an attach leaves a workload with. -/
theorem workload_of_attach {a : Id × NodeId × FenceToken} (h : Run (e :: t))
    (hattach : attachOf e = some a) (hw : (stateOf t).workload id = some w) :
    ∃ w', (after e).workload id = some w' ∧ w'.executionEpoch = w.executionEpoch ∧
      w'.activeNode = (leavesWith id e t).getD w.activeNode := by
  obtain ⟨id', node, token⟩ := a
  have hheld := heldUnder_of_attach h hattach
  obtain ⟨tid, node', fenceEpoch, input, he⟩ := exists_claim_of_attach h hattach
  have hstep : WorkloadStep (stateOf t) id (.claim id' node' fenceEpoch) (some w)
      ((after e).workload id) := by
    rw [he, ← hw]
    exact World.workloadStep settings.codecs (.claim id' node' fenceEpoch) input (stateOf t) id
  rw [leavesWith, hattach]
  dsimp only
  by_cases hid : id' = id
  · subst hid
    rw [if_pos rfl, Option.getD_some]
    obtain ⟨w', hw', hlease⟩ := Option.map_eq_some_iff.mp hheld
    rw [hw'] at hstep
    have hepoch : w'.executionEpoch = w.executionEpoch := by
      cases hstep <;> rfl
    exact ⟨w', hw', hepoch, congrArg Prod.fst hlease⟩
  · rw [if_neg hid, Option.getD_none]
    generalize (after e).workload id = row at hstep
    cases hstep with
    | kept => exact ⟨w, rfl, rfl, rfl⟩
    | claimed => exact absurd rfl hid

/-- A workload that the event neither fences nor restores is in its epoch, with the node that a
claim or a release has left it with. -/
theorem workload_of_unfenced (h : Run (e :: t)) (hw : (stateOf t).workload id = some w)
    (hbumps : ¬ Bumps e id) (hrestores : ¬ RestoresWorkload e id) :
    ∃ w', (after e).workload id = some w' ∧ w'.executionEpoch = w.executionEpoch ∧
      w'.activeNode = (leavesWith id e t).getD w.activeNode := by
  cases hattach : attachOf e with
  | some a => exact workload_of_attach h hattach hw
  | none =>
    cases hcall : callOf e with
    | some call =>
      obtain ⟨reply, hcalls⟩ := exists_calls_of_callOf h hcall
      exact workload_of_calls h hcalls hw hbumps hrestores
    | none =>
      have hleaves : leavesWith id e t = none := by rw [leavesWith, hattach, hcall]
      rw [hleaves, Option.getD_none]
      rcases store_cases h with ⟨tid, op, reply, hcalls⟩ | ⟨a, hattach'⟩ | hstore
      · exact nomatch hcall.symm.trans hcalls.callOf_eq
      · exact nomatch hattach.symm.trans hattach'
      · refine ⟨w, ?_, rfl, rfl⟩
        rw [World.workload, hstore]
        exact hw

theorem eq_of_setsStale {op : StoreOp} (h : setsStale n op) : op = .nodeSetStatus n .stale := by
  cases op with
  | nodeSetStatus n' status =>
    cases status with
    | stale =>
      obtain rfl : n' = n := of_decide_eq_true h
      rfl
    | _ => cases h
  | _ => cases h

theorem nodeStatus_of_marksStale (h : Run (e :: t)) (hmarks : MarksStale e n) :
    nodeStatus (after e) n = (nodeStatus (stateOf t) n).map fun _ => .stale := by
  obtain ⟨⟨tid, op⟩, hcall, hop⟩ := hmarks
  obtain rfl := eq_of_setsStale hop
  obtain ⟨reply, hcalls⟩ := exists_calls_of_callOf h hcall
  rw [nodeStatus, ← StoreOp.snd_of_ok hcalls.run, Store.nodeSetStatus, Table.get_modify_self,
    nodeStatus, Option.map_map, Option.map_map]
  rfl

/-- A call of the store has failed and left it, or succeeded. -/
theorem error_or_callOf {d : FabricDeed} {op : StoreOp} (h : Run (e :: t))
    (hd : deedOf e = some (tid, d)) (hop : d.op = .db op) :
    (after e).store = (stateOf t).store ∨ callOf e = some (tid, op) := by
  cases h with
  | @perform _ tid' request op' rest input hrun hlive hrequest hfollows =>
    obtain ⟨rfl, rfl⟩ := Prod.mk.inj (Option.some.inj hd)
    obtain rfl : op' = .db op := hop
    cases hreply : (World.handle settings.codecs (.db op) input (stateOf t)).1 with
    | error err => exact .inl (World.store_handle_of_error hreply)
    | ok reply =>
      refine .inr ?_
      rw [callOf, hreply]
      rfl
  | _ => cases hd

/-- A node becomes STALE when it is overtaken. -/
theorem declaresStale_iff_overtakes (h : Run (e :: t)) : DeclaresStale e t n ↔ Overtakes e t n := by
  constructor
  · rintro ⟨hbefore, hafter⟩
    unfold StaleNode at hbefore hafter
    cases hd : deedOf e with
    | none =>
      rw [nodeStatus, store_of_deedOf_eq_none h hd] at hafter
      exact absurd hafter hbefore
    | some a =>
      obtain ⟨tid, d⟩ := a
      have hstep := @statusStep_of_deed _ _ _ _ n _ h hd
      rw [hafter] at hstep
      generalize hold : nodeStatus (stateOf t) n = old at hstep hbefore
      generalize hnew : some NodeStatus.stale = new at hstep
      cases hstep with
      | kept => exact absurd hnew.symm hbefore
      | activated => cases hnew
      | declared hmem => exact .inl ⟨_, hd, hmem⟩
      | marked hop =>
        obtain rfl := Option.some.inj hnew
        rcases error_or_callOf h hd hop with hstore | hcall
        · rw [nodeStatus, hstore] at hafter
          exact absurd (hold.symm.trans hafter) hbefore
        · refine .inr ⟨⟨_, hcall, decide_eq_true rfl⟩, _, hold, ?_⟩
          exact fun heq => hbefore (congrArg some heq)
  · rintro (⟨⟨tid, d⟩, hd, hmem⟩ | ⟨hmarks, status, hstatus, hne⟩)
    · have hstep := @statusStep_of_deed _ _ _ _ n _ h hd
      unfold DeclaresStale StaleNode
      generalize nodeStatus (stateOf t) n = old at hstep ⊢
      generalize nodeStatus (after e) n = new at hstep ⊢
      cases hstep with
      | kept hnot => exact absurd hmem hnot
      | activated hactivates => exact absurd hmem (not_declaredBy_of_activates hactivates)
      | declared => exact ⟨by simp, rfl⟩
      | marked hop =>
        obtain ⟨op, reply⟩ := d
        obtain rfl : op = _ := hop
        exact absurd hmem List.not_mem_nil
    · rw [DeclaresStale, StaleNode, StaleNode, nodeStatus_of_marksStale h hmarks,
        Option.mem_def.mp hstatus]
      exact ⟨fun heq => hne (Option.some.inj heq), rfl⟩

end Steps

section Commits

/-- The part of the run from the read that admitted the capture to its commit, in which no restore
of the workload has committed. -/
structure Window (t : List (Event (fabric settings))) (id workloadId : Id) (w : Workload) (tid : ℕ)
    (w₀ : Workload) (start : List (Event (fabric settings))) : Prop where
  row : (stateOf t).workload workloadId = some w
  admitted : admittedRow id (deeds tid t) = some w₀
  unique : ∀ tid' w', admittedRow id (deeds tid' t) = some w' → tid' = tid
  suffix : start <:+ t
  nonempty : start ≠ []
  begins : (stateOf start).workload workloadId = some w₀
  underway : ∀ past, past <:+ t → (Underway tid id t past ↔ start <:+ past)
  unrestored : ∀ e' past, e' :: past <:+ t → start <:+ past → ¬ RestoresWorkload e' workloadId

/-- Every commit that makes a checkpoint AVAILABLE ends such a part of the run. -/
theorem exists_window {before : World} (h : Run (e :: t))
    (hcommit : committedCapture e = some (id, before)) :
    ∃ c w tid w₀ start, before = stateOf t ∧ (stateOf t).checkpoint id = some c ∧
      Window t id c.workloadId w tid w₀ start := by
  obtain ⟨c, w, tid, nonce, ds₀, run, rfl, rfl, hc, hw, hdrawn, hgeneration⟩ :=
    exists_capture_of_commit h hcommit
  -- The capture is underway since its read of the row.
  obtain ⟨older, hadmission, hread⟩ := admissionOf_of_drawn h.tail hdrawn
  obtain ⟨e₁, t₁, hsuffix, hcalls, rfl⟩ := exists_calls_of_deed h.tail hread
  have hreads : (StoreOp.workloadGet c.workloadId).Reads := trivial
  have hstart : (stateOf (e₁ :: t₁)).workload c.workloadId = some run.workload := by
    rw [stateOf_cons, World.workload, StoreOp.store_of_reads hreads hcalls.run]
    exact (Prod.mk.inj (Except.ok.inj hcalls.run)).1
  refine ⟨c, w, tid, run.workload, _, rfl, hc, hw, admittedRow_of_drawn h.tail hdrawn,
    fun tid' w' hadmitted => ?_, hsuffix, List.cons_ne_nil _ _, hstart,
    fun past hpast => underway_iff hsuffix hpast hcalls.deeds_eq hadmission,
    fun e' past hpast hafter => ?_⟩
  · obtain ⟨ds', hdraws'⟩ := exists_draw_of_admittedRow hadmitted
    obtain ⟨latest, -, hdraws⟩ := hdrawn.draws
    exact (drawn_unique h.tail hdraws' hdraws).1
  · exact not_restores_of_generation h.tail hstart hw hgeneration hpast hafter

/-- While the workload is not fenced, it is in the epoch of the admission, with the node that the
claims and releases have left it with. -/
theorem Window.row_of_unfenced {workloadId : Id} {w w₀ : Workload}
    {start : List (Event (fabric settings))} (h : Run t)
    (hwindow : Window t id workloadId w tid w₀ start)
    (hunfenced : ∀ e' past, e' :: past <:+ t → start <:+ past → ¬ Bumps e' workloadId)
    (hpast : past <:+ t) (hafter : start <:+ past) :
    ∃ w', (stateOf past).workload workloadId = some w' ∧ w'.executionEpoch = w₀.executionEpoch ∧
      w'.activeNode = (leftWith tid id t workloadId past).getD w₀.activeNode := by
  refine suffix_induction (P := fun past : List (Event (fabric settings)) =>
      ∃ w', (stateOf past).workload workloadId = some w' ∧ w'.executionEpoch = w₀.executionEpoch ∧
      w'.activeNode = (leftWith tid id t workloadId past).getD w₀.activeNode) hafter ?_ ?_
  · refine ⟨w₀, hwindow.begins, rfl, ?_⟩
    cases start with
    | nil => exact absurd rfl hwindow.nonempty
    | cons e₁ t₁ =>
      have hnot : ¬ Underway tid id t t₁ := by
        rw [hwindow.underway t₁ (suffix_of_cons hwindow.suffix)]
        exact fun hsuffix => absurd hsuffix.length_le (by simp)
      rw [leftWith, if_neg hnot, Option.getD_none]
  · rintro e' past' hstart hpast' ⟨w₁, hw₁, hepoch₁, hactive₁⟩
    have hsuffix := hpast'.trans hpast
    obtain ⟨w₂, hw₂, hepoch₂, hactive₂⟩ := workload_of_unfenced (h.of_suffix hsuffix) hw₁
      (hunfenced e' past' hsuffix hstart) (hwindow.unrestored e' past' hsuffix hstart)
    refine ⟨w₂, hw₂, hepoch₂.trans hepoch₁, ?_⟩
    rw [leftWith, if_pos ((hwindow.underway past' (suffix_of_cons hsuffix)).mpr hstart), hactive₂,
      hactive₁]
    cases leavesWith workloadId e' past' <;> rfl

/-- While the workload is not fenced, it stays in the epoch of the admission. -/
theorem Window.not_fencesWorkload {workloadId : Id} {w w₀ : Workload}
    {start : List (Event (fabric settings))} (h : Run t)
    (hwindow : Window t id workloadId w tid w₀ start)
    (hunfenced : ∀ e' past, e' :: past <:+ t → start <:+ past → ¬ Bumps e' workloadId)
    (hpast : e :: past <:+ t) (hafter : start <:+ past) : ¬ FencesWorkload e past workloadId := by
  rintro ⟨r₁, hr₁, r₂, hr₂, hlt, -⟩
  obtain ⟨w₁, hw₁, hepoch₁, -⟩ :=
    hwindow.row_of_unfenced h hunfenced (suffix_of_cons hpast) hafter
  obtain ⟨w₂, hw₂, hepoch₂, -⟩ :=
    hwindow.row_of_unfenced h hunfenced hpast (hafter.trans (List.suffix_cons e past))
  obtain rfl : w₁ = r₁ := Option.some.inj (hw₁.symm.trans hr₁)
  obtain rfl : w₂ = r₂ := Option.some.inj (hw₂.symm.trans hr₂)
  omega

/-- Where the epoch is that of the admission in the end, no fence has come between. -/
theorem Window.not_bumps {workloadId : Id} {w w₀ : Workload}
    {start : List (Event (fabric settings))} (h : Run t) (hwindow : Window t id workloadId w tid w₀ start)
    (hepoch : w.executionEpoch = w₀.executionEpoch) (hpast : e :: past <:+ t)
    (hafter : start <:+ past) : ¬ Bumps e workloadId := by
  intro hbumps
  -- A fence in between would leave a later epoch for good.
  obtain ⟨r₁, hr₁, hle₁⟩ := epoch_le_of_run (h.of_suffix hpast).tail hafter hwindow.begins
  obtain ⟨r₂, hr₂, hlt⟩ := epoch_lt_of_bumps (h.of_suffix hpast) hbumps hr₁
  obtain ⟨r₃, hr₃, hle₃⟩ := epoch_le_of_run h hpast hr₂
  obtain rfl : r₃ = w := Option.some.inj (hr₃.symm.trans hwindow.row)
  omega

/-- The window of a commit is that of any thread that has read a row for it. -/
theorem window_of_commit {before : World} {c : CheckpointObject} {w₀ : Workload} (h : Run (e :: t))
    (hcommit : committedCapture e = some (id, before)) (hc : before.checkpoint id = some c)
    (hadmitted : admittedRow id (deeds tid t) = some w₀) :
    before = stateOf t ∧ ∃ w start, Window t id c.workloadId w tid w₀ start := by
  obtain ⟨c', w, tid', w₁, start, rfl, hc', hwindow⟩ := exists_window h hcommit
  obtain rfl : c' = c := Option.some.inj (hc'.symm.trans hc)
  obtain rfl := hwindow.unique tid w₀ hadmitted
  obtain rfl : w₁ = w₀ := Option.some.inj (hwindow.admitted.symm.trans hadmitted)
  exact ⟨rfl, w, start, hwindow⟩

/-- A commit that is under unchanged authority was not disturbed. -/
theorem undisturbed_of_authorized (h : Run (e :: t)) (hauthority : CommitsUnderAuthority e t)
    (hlive : CommitsLiveImage e t) : Undisturbed e t := by
  rintro ⟨id, before⟩ hcommit c hc tid htid w₀ hadmitted
  obtain ⟨rfl, w, start, hwindow⟩ := window_of_commit h hcommit hc hadmitted
  obtain ⟨hepoch, hactive⟩ := hauthority _ hcommit c hc w hwindow.row tid htid w₀ hadmitted
  have hkeeps := hlive _ hcommit c hc tid htid w₀ hadmitted
  constructor
  · intro e' past hpast hunderway
    have hafter := (hwindow.underway past (suffix_of_cons hpast)).mp hunderway
    refine ⟨hwindow.not_bumps h.tail hepoch hpast hafter, fun n hn hovertakes => ?_⟩
    apply (hkeeps e' past hpast hunderway).2 n hn
    exact (declaresStale_iff_overtakes (h.tail.of_suffix hpast)).mpr hovertakes
  · intro holder hholder
    obtain ⟨w', hw', -, hleft⟩ := hwindow.row_of_unfenced h.tail
      (fun _ _ hpast hafter => hwindow.not_bumps h.tail hepoch hpast hafter) (List.suffix_refl _)
      hwindow.suffix
    obtain rfl : w' = w := Option.some.inj (hw'.symm.trans hwindow.row)
    rw [Option.mem_def.mp hholder, Option.getD_some] at hleft
    exact hleft.symm.trans hactive

/-- A commit that was not disturbed is under unchanged authority. -/
theorem authorized_of_undisturbed (h : Run (e :: t)) (hundisturbed : Undisturbed e t) :
    CommitsUnderAuthority e t ∧ CommitsLiveImage e t := by
  have hunfenced {id workloadId : Id} {w w₀ : Workload} {tid : ℕ}
      {start : List (Event (fabric settings))} (hwindow : Window t id workloadId w tid w₀ start)
      (hspared : Unfenced tid id workloadId t) :
      ∀ e' past, e' :: past <:+ t → start <:+ past → ¬ Bumps e' workloadId :=
    fun e' past hpast hafter =>
      (hspared e' past hpast ((hwindow.underway past (suffix_of_cons hpast)).mpr hafter)).1
  constructor
  · rintro ⟨id, before⟩ hcommit c hc w hw tid htid w₀ hadmitted
    obtain ⟨hspared, hleft⟩ := hundisturbed _ hcommit c hc tid htid w₀ hadmitted
    obtain ⟨rfl, w', start, hwindow⟩ := window_of_commit h hcommit hc hadmitted
    obtain ⟨w₁, hw₁, hepoch, hactive⟩ := hwindow.row_of_unfenced h.tail
      (hunfenced hwindow hspared) (List.suffix_refl _) hwindow.suffix
    obtain rfl : w₁ = w := Option.some.inj (hw₁.symm.trans hw)
    refine ⟨hepoch, hactive.trans ?_⟩
    -- The newest claim or release, if there is one, has left it with the same node.
    cases hnewest : leftWith tid id t c.workloadId t with
    | none => rfl
    | some holder => exact hleft holder hnewest
  · rintro ⟨id, before⟩ hcommit c hc tid htid w₀ hadmitted e' past hpast hunderway
    obtain ⟨hspared, -⟩ := hundisturbed _ hcommit c hc tid htid w₀ hadmitted
    obtain ⟨rfl, w, start, hwindow⟩ := window_of_commit h hcommit hc hadmitted
    have hafter := (hwindow.underway past (suffix_of_cons hpast)).mp hunderway
    refine ⟨hwindow.not_fencesWorkload h.tail (hunfenced hwindow hspared) hpast hafter,
      fun n hn hdeclares => ?_⟩
    apply (hspared e' past hpast hunderway).2 n hn
    exact (declaresStale_iff_overtakes (h.tail.of_suffix hpast)).mp hdeclares

/-- **Captures commit under the authority of their admission** in a run, and no image is committed
of a workload or a node that has lost its authority meanwhile, iff no capture that commits is
disturbed. -/
theorem commits_authorized_iff (h : Run t) :
    EveryStep CommitsUnderAuthority t ∧ EveryStep CommitsLiveImage t ↔ EveryStep Undisturbed t := by
  constructor
  · rintro ⟨hauthority, hlive⟩ e past hpast
    exact undisturbed_of_authorized (h.of_suffix hpast) (hauthority e past hpast)
      (hlive e past hpast)
  · intro hundisturbed
    have hsteps e past (hpast : e :: past <:+ t) :=
      authorized_of_undisturbed (h.of_suffix hpast) (hundisturbed e past hpast)
    exact ⟨fun e past hpast => (hsteps e past hpast).1, fun e past hpast => (hsteps e past hpast).2⟩

end Commits

section Runs

/-- A capture of the small fabric, and what happens while its components are captured. -/
def Demo.during (requests : List (Action (fabric Demo.settings))) :
    List (Action (fabric Demo.settings)) :=
  Demo.created ++ [.accept (.capture 7 {} Demo.operator)] ++
    List.replicate 20 (.advance 2 ({} : Input)) ++ requests ++
    List.replicate 40 (.advance 2 ({} : Input))

/-- The node lets go of the workload and attaches it again. -/
def Demo.reattached : List (Action (fabric Demo.settings)) :=
  Demo.during (Demo.alone 3 (.workloadDetach 7 "n1") ++
    Demo.alone 4 (.workloadAttach 7 "n1" "boot" 0 []))

/-- A capture whose workload comes back to its node commits under the authority of its admission. -/
theorem commits_authorized_iff_reattached :
    (∃ e past, e :: past <:+ (exec Demo.reattached).trace ∧ ∃ commit ∈ committedCapture e,
      ∃ tid < admissions past, leftWith tid commit.1 past 7 past = some (some "n1")) ∧
    EveryStep CommitsUnderAuthority (exec Demo.reattached).trace ∧
    EveryStep CommitsLiveImage (exec Demo.reattached).trace := by
  refine ⟨exists_of_not_everyStep ?_, (commits_authorized_iff (exec_run Demo.reattached)).mpr ?_⟩
  · decide +kernel
  · decide +kernel

/-- The workload is fenced. -/
def Demo.fencedCapture : List (Action (fabric Demo.settings)) :=
  Demo.during (Demo.alone 3 (.workloadFence 7 Demo.operator))

/-- The commit makes the checkpoint AVAILABLE all the same, in a later epoch and without an active
node. -/
theorem fenced_capture_commits : Run (exec Demo.fencedCapture).trace ∧
    ¬ EveryStep CommitsUnderAuthority (exec Demo.fencedCapture).trace ∧
    ¬ EveryStep CommitsLiveImage (exec Demo.fencedCapture).trace :=
  ⟨exec_run Demo.fencedCapture, by decide +kernel, by decide +kernel⟩

/-- A round of the monitor has found the node overdue, and has not come to its workloads yet. -/
def Demo.sweptCapture : List (Action (fabric Demo.settings)) :=
  Demo.during (.move (Move.tick 7000) :: .accept .monitor ::
    List.replicate 3 (.advance 3 ({} : Input)))

/-- The image of the node is committed, in the epoch of the admission. -/
theorem swept_capture_commits : Run (exec Demo.sweptCapture).trace ∧
    EveryStep CommitsUnderAuthority (exec Demo.sweptCapture).trace ∧
    ¬ EveryStep CommitsLiveImage (exec Demo.sweptCapture).trace :=
  ⟨exec_run Demo.sweptCapture, by decide +kernel, by decide +kernel⟩

end Runs

end CheckpointFabric.CaptureAuthority
