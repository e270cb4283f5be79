import CheckpointFabric.Footprints.Requests
import CheckpointFabric.Properties.Retention
import CheckpointFabric.Steps.Runs

/-!
# Whether a retirement is all or nothing

A retirement checks the row of the checkpoint, has every node delete its replica, and then marks the
checkpoint RETIRED. What it checks first is not what the transaction checks last: that the
checkpoint is AVAILABLE it finds out when the replicas are gone, and what was pinned in between it
finds out then, too.

## Main definitions

* `Deletes`, `confirmed` — the calls that delete a replica, and the nodes that confirmed theirs
* `RetireEnd` — how a retirement ends
* `InOrder`, `DeletesLeft` — the confirmations come in the order of the row, and some are left
* `RetiresWhole` — an error that is not a node's leaves the replicas; deleted replicas leave no
  restorable checkpoint
* `RetiresInTime` — where replicas were deleted, the transaction finds the row as it needs it, and
  the coordinator stops before the last of them is

## Main results

* `obeys_retireCheckpoint_end` — a retirement deletes in order, and ends in one of three ways
* `stopsInTime_iff` — what a stop cuts off, from the confirmations before it
* `retires_whole_iff` — retirements are all or nothing just while their transactions come in time
-/

set_option autoImplicit false

namespace CheckpointFabric.Retirement

open Concurrency Coordinator System

section Ends

variable {settings : Settings} {id : Id} {ds : List FabricDeed}

/-- The deed asks a node to delete the checkpoint. -/
def Deletes (id : Id) (d : FabricDeed) : Prop :=
  match d.op with
  | .call _ (.cleanup req) => id ∈ req.checkpointIds
  | _ => False

/-- The deed looks nodes up. -/
def LooksUp (d : FabricDeed) : Prop :=
  match d.op with
  | .db .nodeList => True
  | _ => False

instance (id : Id) (d : FabricDeed) : Decidable (Deletes id d) := by
  unfold Deletes
  split <;> infer_instance

instance (d : FabricDeed) : Decidable (LooksUp d) := by
  unfold LooksUp
  split <;> infer_instance

/-- The node that has confirmed with this deed that its replica is deleted. -/
def confirmedBy (id : Id) : FabricDeed → Option NodeId
  | ⟨.call node (.cleanup req), .ok result⟩ =>
    if id ∈ req.checkpointIds ∧ (result : NodeCleanupResult).error = none then some node else none
  | _ => none

/-- The nodes that have confirmed that their replicas are deleted, the last one first. -/
def confirmed (id : Id) (ds : List FabricDeed) : List NodeId := ds.filterMap (confirmedBy id)

/-- The thread did not get past the deletions: the last thing it did was to call a node for one, or
to look the node up. -/
def EndsInDeletion (id : Id) (ds : List FabricDeed) : Prop :=
  ∃ d ∈ ds.head?, Deletes id d ∨ LooksUp d

instance (id : Id) (ds : List FabricDeed) : Decidable (EndsInDeletion id ds) :=
  inferInstanceAs (Decidable (∃ d ∈ ds.head?, Deletes id d ∨ LooksUp d))

/-- The replicas of the checkpoint were deleted: every location of the row that was read. -/
def Deleted (id : Id) (ds : List FabricDeed) : Prop :=
  (∃ d ∈ ds, Deletes id d) ∧
    ∀ ckpt : CheckpointObject, ⟨.db (.checkpointGet id), .ok (some ckpt)⟩ ∈ ds →
      confirmed id ds = (ckpt.durableLocations.map (·.node)).reverse

/-- How a retirement ends: it is refused before anything is deleted; a deletion fails; or all
replicas are deleted, and the transaction decides. -/
inductive RetireEnd (id : Id) (ds : List FabricDeed) (result : FabricResult Unit) : Prop
  | refused : (∀ d ∈ ds, ¬ Deletes id d) → (∃ e, result = .error e) → RetireEnd id ds result
  | undeleted {ckpt : CheckpointObject} : EndsInDeletion id ds → (∃ e, result = .error e) →
    ⟨.db (.checkpointGet id), .ok (some ckpt)⟩ ∈ ds →
    (confirmed id ds).length < ckpt.durableLocations.length → RetireEnd id ds result
  | asked {older : List FabricDeed} : ds = ⟨.db (.checkpointRetire id), result⟩ :: older →
    RetireEnd id ds result

theorem not_deletes_of_reads {d : FabricDeed} (h : d.op.Reads) : ¬ Deletes id d := by
  obtain ⟨op, reply⟩ := d
  cases op with
  | call => exact absurd h not_false
  | _ => exact not_false

theorem confirmed_of_reads (h : ∀ d ∈ ds, d.op.Reads) : confirmed id ds = [] := by
  refine List.filterMap_eq_nil_iff.mpr fun d hd => ?_
  obtain ⟨op, reply⟩ := d
  cases op with
  | call => exact absurd (h _ hd) not_false
  | _ => rfl

/-- The replicas are deleted in the order of the row that was read, with none left out. -/
def InOrder (id : Id) (ds : List FabricDeed) : Prop :=
  ∀ ckpt : CheckpointObject, ⟨.db (.checkpointGet id), .ok (some ckpt)⟩ ∈ ds →
    confirmed id ds <:+ (ckpt.durableLocations.map (·.node)).reverse

/-- The row was read as `ckpt`, and these nodes have confirmed their deletions. -/
structure Confirming (id : Id) (ckpt : CheckpointObject) (nodes : List NodeId)
    (ds : List FabricDeed) : Prop where
  read : ∀ c, ⟨.db (.checkpointGet id), .ok (some c)⟩ ∈ ds → c = ckpt
  nodes : confirmed id ds = nodes

theorem Confirming.inOrder {ckpt : CheckpointObject} {earlier later : List DurableLocation}
    (h : Confirming id ckpt (earlier.map (·.node)).reverse ds)
    (hlocations : ckpt.durableLocations = earlier ++ later) : InOrder id ds := by
  intro c hc
  rw [h.read c hc, h.nodes, hlocations, List.map_append, List.reverse_append]
  exact List.suffix_append _ _

/-- What is not the row being read adds its confirmation, if it is one. -/
theorem Confirming.cons {ckpt : CheckpointObject} {nodes : List NodeId} {d : FabricDeed}
    (h : Confirming id ckpt nodes ds)
    (hd : ∀ c, d ≠ ⟨.db (.checkpointGet id), .ok (some c)⟩) :
    Confirming id ckpt ((confirmedBy id d).toList ++ nodes) (d :: ds) := by
  constructor
  · intro c hc
    exact h.read c ((List.mem_cons.mp hc).resolve_left fun heq => hd c heq.symm)
  · rw [← h.nodes, confirmed, List.filterMap_cons]
    cases confirmedBy id d <;> rfl

theorem inOrder_of_reads (h : ∀ d ∈ ds, d.op.Reads) : InOrder id ds := by
  intro ckpt _
  rw [confirmed_of_reads h]
  exact List.nil_suffix

/-- The checks of a retirement read the row once. -/
theorem obeys_admitRetire_read {ctx : OperationContext} :
    Obeys (fun _ _ => True)
      (fun ds' result => ∀ ckpt : CheckpointObject, result = .ok ckpt →
        ⟨.db (.checkpointGet id), .ok (some ckpt)⟩ ∈ ds' ∧
          ∀ c, ⟨.db (.checkpointGet id), .ok (some c)⟩ ∈ ds' → c = ckpt) []
      (admitRetire settings id ctx) := by
  have herror : ∀ (ds : List FabricDeed) (e : FabricError), ∀ ckpt : CheckpointObject,
      Except.error e = Except.ok ckpt → ⟨.db (.checkpointGet id), .ok (some ckpt)⟩ ∈ ds ∧
        ∀ c, ⟨.db (.checkpointGet id), .ok (some c)⟩ ∈ ds → c = ckpt :=
    fun _ _ _ h => nomatch h
  unfold admitRetire
  refine obeys_ofExcept_bind herror fun _ _ => ?_
  refine Obeys.bind herror (obeys_requireCheckpoint trivial) fun ds₁ ckpt hckpt => ?_
  refine obeys_call_bind herror trivial fun reserved => ?_
  refine obeys_ensure_bind herror fun _ => obeys_ensure_bind herror fun _ => ?_
  intro ckpt' hckpt'
  obtain rfl := Except.ok.inj hckpt'
  subst hckpt
  refine ⟨.tail _ (.head _), fun c hc => ?_⟩
  simpa using hc

/-- One replica: its node confirms the deletion, or there is an error. -/
theorem obeys_deleteReplica {loc : DurableLocation} {ckpt : CheckpointObject}
    {nodes : List NodeId} (h : Confirming id ckpt nodes ds) :
    Obeys (fun ds' _ => Confirming id ckpt nodes ds')
      (fun ds' result => ds <:+ ds' ∧
        ((∃ e, result = .error e) ∧ EndsInDeletion id ds' ∧ Confirming id ckpt nodes ds' ∨
          (∃ u, result = .ok u) ∧ Confirming id ckpt (loc.node :: nodes) ds'))
      ds (do
        let result : NodeCleanupResult ← callNode loc.node (deletion id)
        match result.error with
        | some error =>
          Program.fail (.cleanupFailure s!"retire cleanup on {loc.node} failed: {error}")
        | none => pure () : Fabric Unit) := by
  have hlisted (nodes') : Confirming id ckpt nodes (⟨.db .nodeList, nodes'⟩ :: ds) :=
    h.cons (d := ⟨.db .nodeList, nodes'⟩) fun c => by simp
  refine obeys_bind.mpr ((obeys_callNode_deeds loc.node (deletion id) h hlisted).weaken
    fun ds₁ answer hended => ?_)
  rcases hended with ⟨nodes', rfl⟩ | ⟨nodes', e, rfl, rfl, -⟩
  · have hends : EndsInDeletion id
        (⟨.call loc.node (deletion id), answer⟩ :: ⟨.db .nodeList, nodes'⟩ :: ds) :=
      ⟨_, rfl, .inl (List.mem_singleton_self id)⟩
    have hsuffix : ds <:+
        ⟨.call loc.node (deletion id), answer⟩ :: ⟨.db .nodeList, nodes'⟩ :: ds :=
      List.suffix_append [_, _] ds
    have hcalled := (hlisted nodes').cons (d := ⟨.call loc.node (deletion id), answer⟩)
      fun c => by simp
    cases answer with
    | error e => exact ⟨hsuffix, .inl ⟨⟨e, rfl⟩, hends, hcalled⟩⟩
    | ok result =>
      obtain ⟨paths, checkpoints, error⟩ : NodeCleanupResult := result
      cases error with
      | some error =>
        refine ⟨hsuffix, .inl ⟨⟨_, rfl⟩, hends, ?_⟩⟩
        simpa [confirmedBy, deletion] using hcalled
      | none =>
        refine ⟨hsuffix, .inr ⟨⟨_, rfl⟩, ?_⟩⟩
        simpa [confirmedBy, deletion] using hcalled
  · exact ⟨List.suffix_cons _ _, .inl ⟨⟨e, rfl⟩, ⟨_, rfl, .inr trivial⟩, hlisted nodes'⟩⟩

/-- The replicas of a row are deleted one after the other, and the deletion of one of them may
fail. -/
theorem obeys_deleteReplicas {ckpt : CheckpointObject} {earlier later : List DurableLocation}
    (hlocations : ckpt.durableLocations = earlier ++ later)
    (h : Confirming id ckpt (earlier.map (·.node)).reverse ds) :
    Obeys (fun ds' _ => InOrder id ds')
      (fun ds' result => InOrder id ds' ∧ ds <:+ ds' ∧ ∀ e, result = .error e →
        EndsInDeletion id ds' ∧ (confirmed id ds').length < ckpt.durableLocations.length)
      ds (deleteReplicas id later) := by
  unfold deleteReplicas
  induction later generalizing earlier ds with
  | nil => exact ⟨h.inOrder hlocations, List.suffix_refl ds, fun e he => by cases he⟩
  | cons loc later ih =>
    rw [Program.forEach_cons, obeys_andThen]
    refine (obeys_deleteReplica h).mono (fun _ _ h' => h'.inOrder hlocations)
      fun ds₁ result h₁ => ?_
    obtain ⟨hsuffix, ⟨⟨e, rfl⟩, hends, hfailed⟩ | ⟨⟨u, rfl⟩, hdone⟩⟩ := h₁
    · refine ⟨hfailed.inOrder hlocations, hsuffix, fun _ _ => ⟨hends, ?_⟩⟩
      rw [hfailed.nodes, hlocations, List.length_reverse, List.length_map, List.length_append,
        List.length_cons]
      omega
    · rw [Program.onValue_ok]
      have hnext : Confirming id ckpt ((earlier ++ [loc]).map (·.node)).reverse ds₁ := by
        rw [List.map_append, List.reverse_append]
        exact hdone
      have hrest : ckpt.durableLocations = (earlier ++ [loc]) ++ later := by
        rw [hlocations, List.append_assoc]
        rfl
      refine (ih hrest hnext).weaken fun ds₂ result h₂ => ?_
      obtain ⟨horder, hlater, hfailed⟩ := h₂
      exact ⟨horder, hsuffix.trans hlater, hfailed⟩

/-- **How a retirement ends**, with its replicas deleted in order all the way. -/
theorem obeys_retireCheckpoint_end {ctx : OperationContext} :
    Obeys (fun ds _ => InOrder id ds) (fun ds result => InOrder id ds ∧ RetireEnd id ds result) []
      (retireCheckpoint settings id ctx) := by
  have hadmit : Obeys (fun _ op => Op.Reads op)
      (fun ds' result => ∀ ckpt, result = .ok ckpt → RetireAdmitted id ds' ckpt) []
      (admitRetire settings id ctx) := obeys_admitRetire fun _ _ h => h
  have hreads : Obeys (fun ds (_ : Op) => ∀ d : FabricDeed, d ∈ ds → d.op.Reads)
      (fun ds _ => ∀ d : FabricDeed, d ∈ ds → d.op.Reads) [] (admitRetire settings id ctx) :=
    Obeys.of_uses hadmit.uses
      (fun ds op hop hds => ⟨hds, fun reply => List.forall_mem_cons.mpr ⟨hop, hds⟩⟩)
      fun d hd => absurd hd List.not_mem_nil
  unfold retireCheckpoint
  rw [obeys_bind]
  refine (hreads.and obeys_admitRetire_read).mono (fun _ _ h => inOrder_of_reads h.1)
    fun ds₁ result h => ?_
  obtain ⟨hds, hread⟩ := h
  cases result with
  | error e =>
    exact ⟨inOrder_of_reads hds, .refused (fun d hd => not_deletes_of_reads (hds d hd)) ⟨e, rfl⟩⟩
  | ok ckpt =>
    obtain ⟨hrow, hunique⟩ := hread ckpt rfl
    have hstart : Confirming id ckpt (([] : List DurableLocation).map (·.node)).reverse ds₁ :=
      ⟨hunique, confirmed_of_reads hds⟩
    rw [Program.onValue_ok, obeys_bind]
    refine (obeys_deleteReplicas rfl hstart).weaken fun ds₂ result h => ?_
    obtain ⟨horder, hsuffix, hfailed⟩ := h
    cases result with
    | error e =>
      obtain ⟨hends, hfew⟩ := hfailed e rfl
      exact ⟨horder, .undeleted hends ⟨e, rfl⟩ (hsuffix.subset hrow) hfew⟩
    | ok _ =>
      refine ⟨horder, fun reply => ⟨fun c hc => ?_, .asked rfl⟩⟩
      exact horder c ((List.mem_cons.mp hc).resolve_left (by simp))

/-- Some replica of the row that was read is not confirmed to be deleted, if any was to be. -/
def DeletesLeft (id : Id) (ds : List FabricDeed) : Prop :=
  (∀ d ∈ ds, ¬ Deletes id d) ∨
    ∃ ckpt : CheckpointObject, ⟨.db (.checkpointGet id), .ok (some ckpt)⟩ ∈ ds ∧
      (confirmed id ds).length < ckpt.durableLocations.length

/-- Replicas that are deleted in order are all deleted when there are enough confirmations. -/
theorem InOrder.deletesLeft_iff (h : InOrder id ds) : DeletesLeft id ds ↔ ¬ Deleted id ds := by
  constructor
  · rintro (hnone | ⟨ckpt, hread, hfew⟩) ⟨⟨d, hd, hdeletes⟩, hall⟩
    · exact hnone d hd hdeletes
    · rw [hall ckpt hread, List.length_reverse, List.length_map] at hfew
      exact Nat.lt_irrefl _ hfew
  · intro hnot
    by_cases hnone : ∀ d ∈ ds, ¬ Deletes id d
    · exact .inl hnone
    · push Not at hnone
      have hfew : ¬ ∀ ckpt : CheckpointObject, ⟨.db (.checkpointGet id), .ok (some ckpt)⟩ ∈ ds →
          confirmed id ds = (ckpt.durableLocations.map (·.node)).reverse :=
        fun hall => hnot ⟨hnone, hall⟩
      push Not at hfew
      obtain ⟨ckpt, hread, hne⟩ := hfew
      refine .inr ⟨ckpt, hread, ?_⟩
      have hsuffix := h ckpt hread
      have hle := hsuffix.length_le
      rw [List.length_reverse, List.length_map] at hle
      refine Nat.lt_of_le_of_ne hle fun heq => hne (hsuffix.eq_of_length ?_)
      rw [heq, List.length_reverse, List.length_map]

end Ends

section Runs

variable {settings : Settings} {t : List (Event (fabric settings))} {e : Event (fabric settings)}
  {tid : ℕ} {id : Id} {failed : Bool}

/-- The trace up to the last operation of the thread. -/
def lastOf (tid : ℕ) : List (Event (fabric settings)) → List (Event (fabric settings))
  | [] => []
  | .performed tid' op input before :: past =>
    if tid' = tid then .performed tid' op input before :: past else lastOf tid past
  | _ :: past => lastOf tid past

/-- A retirement that returns: its thread and its checkpoint, and whether it returns an error. -/
def retirementOf (e : Event (fabric settings)) (past : List (Event (fabric settings))) :
    Option (ℕ × Id × Bool) :=
  match e with
  | .answered tid result _ =>
    match requestOf tid past with
    | some (.checkpointRetire id _) => some (tid, id, result.toOption.isNone)
    | _ => none
  | _ => none

/-- The replicas of the checkpoint were deleted, and its row says that it can be restored. -/
def LeftRestorable (id : Id) (ds : List FabricDeed) (w : World) : Prop :=
  Deleted id ds ∧ ∃ c ∈ w.checkpoint id, c.lifecycle = .available ∨ c.lifecycle = .restored

/-- The coordinator stops, and starts again. -/
def stops : Event (fabric settings) → Bool
  | .restarted _ => true
  | _ => false

/-- The coordinator stops during a retirement that has deleted the replicas, while the row of the
checkpoint says that it can be restored. -/
def CutsOff (e : Event (fabric settings)) (past : List (Event (fabric settings))) : Prop :=
  stops e = true ∧ ∃ tid id ctx, Live tid past ∧
    requestOf tid past = some (.checkpointRetire id ctx) ∧
      LeftRestorable id (deeds tid past) (stateOf past)

/-- Retirement is all or nothing: one that returns an error that is not the failure of a deletion
has deleted nothing; and none that returns or is cut off leaves a checkpoint AVAILABLE or RESTORED
whose replicas it has deleted. -/
def RetiresWhole (e : Event (fabric settings)) (past : List (Event (fabric settings))) : Prop :=
  (∀ r ∈ retirementOf e past,
    (r.2.2 = true → ¬ EndsInDeletion r.2.1 (deeds r.1 past) →
      ∀ d ∈ deeds r.1 past, ¬ Deletes r.2.1 d) ∧
    ¬ LeftRestorable r.2.1 (deeds r.1 past) (stateOf (lastOf r.1 past))) ∧ ¬ CutsOff e past

/-- The trace does not end in a retire transaction, or the transaction finds the database working,
and the checkpoint AVAILABLE and not pinned. -/
def InTime (id : Id) : List (Event (fabric settings)) → Prop
  | .performed _ (.db (.checkpointRetire _)) input before :: _ =>
    input.fault = none ∧
      ∃ c ∈ before.checkpoint id, c.lifecycle = .available ∧ c.protection ≠ .pinned
  | _ => True

instance decidableInTime (id : Id) :
    ∀ t : List (Event (fabric settings)), Decidable (InTime id t) := fun t => by
  unfold InTime
  split <;> infer_instance

/-- When the coordinator stops, every retirement that is running has replicas left to delete, or the
row of its checkpoint says that it cannot be restored. -/
def StopsInTime (e : Event (fabric settings)) (past : List (Event (fabric settings))) : Prop :=
  stops e = true → ∀ tid id ctx, Live tid past →
    requestOf tid past = some (.checkpointRetire id ctx) → DeletesLeft id (deeds tid past) ∨
      ∀ c ∈ (stateOf past).checkpoint id, c.lifecycle ≠ .available ∧ c.lifecycle ≠ .restored

/-- Where a retirement that returns has deleted replicas, its transaction came in time; and the
coordinator stops in time for those that do not return. -/
def RetiresInTime (e : Event (fabric settings)) (past : List (Event (fabric settings))) : Prop :=
  (∀ r ∈ retirementOf e past, (∃ d ∈ deeds r.1 past, Deletes r.2.1 d) →
    InTime r.2.1 (lastOf r.1 past)) ∧ StopsInTime e past

/-- The newest deed of a thread is its last operation. -/
theorem lastOf_of_deeds {d : FabricDeed} {older : List FabricDeed} (h : Run t)
    (hdeeds : deeds tid t = d :: older) :
    ∃ input t', lastOf tid t = .performed tid d.op input (stateOf t') :: t' ∧ Run (lastOf tid t) ∧
      d.reply = (World.handle settings.codecs d.op input (stateOf t')).1 := by
  induction h with
  | start => cases hdeeds
  | @perform t tid' request op rest input hrun hlive hrequest hfollows ih =>
    by_cases htid : tid' = tid
    · subst htid
      rw [deeds_performed] at hdeeds
      obtain ⟨rfl, rfl⟩ := List.cons.inj hdeeds
      have hlast : lastOf tid' (.performed tid' op input (stateOf t) :: t) =
          .performed tid' op input (stateOf t) :: t := if_pos rfl
      rw [hlast]
      exact ⟨input, t, rfl, hrun.perform input hlive hrequest hfollows, rfl⟩
    · have hlast : lastOf tid (.performed tid' op input (stateOf t) :: t) = lastOf tid t :=
        if_neg htid
      rw [deeds, if_neg htid] at hdeeds
      rw [hlast]
      exact ih hdeeds
  | accept _ _ ih | restart _ ih | move _ _ ih | answer _ _ _ _ ih => exact ih hdeeds

/-- What the server makes of a retirement. -/
theorem obeys_serve_retire (settings : Settings) (id : Id) (ctx : OperationContext) :
    Obeys (fun ds _ => InOrder id ds)
      (fun ds (answer : FabricResult Response) => InOrder id ds ∧ ∃ result, RetireEnd id ds result ∧
        answer.toOption.isNone = result.toOption.isNone) []
      ((Request.checkpointRetire id ctx).serve settings) := by
  refine obeys_bind.mpr (obeys_retireCheckpoint_end.weaken fun ds result hend => ?_)
  cases result with
  | error e => exact ⟨hend.1, _, hend.2, rfl⟩
  | ok _ => exact ⟨hend.1, _, hend.2, rfl⟩

/-- A retirement that has returned has ended in one of the three ways. -/
theorem retireEnd_of_retirementOf (h : Run (e :: t))
    (hr : (tid, id, failed) ∈ retirementOf e t) :
    ∃ result, RetireEnd id (deeds tid t) result ∧ failed = result.toOption.isNone := by
  cases h with
  | @answer _ tid' request answer hrun hlive hrequest hfollows =>
    simp only [retirementOf, hrequest] at hr
    cases request with
    | checkpointRetire id' ctx =>
      obtain ⟨rfl, hreturned⟩ := Prod.mk.inj (Option.some.inj hr)
      obtain ⟨rfl, rfl⟩ := Prod.mk.inj hreturned
      exact ((obeys_serve_retire settings id' ctx).of_follows hfollows).2
    | _ => exact absurd hr (by simp)
  | _ => exact absurd hr (by simp [retirementOf])

/-- A thread that did not get past the deletions has not come to the transaction. -/
theorem inTime_of_endsInDeletion (h : Run t) (hends : EndsInDeletion id (deeds tid t)) :
    InTime id (lastOf tid t) := by
  obtain ⟨d, hd, hlast⟩ := hends
  obtain ⟨older, hdeeds⟩ := List.head?_eq_some_iff.mp hd
  obtain ⟨input, t', hevent, -, -⟩ := lastOf_of_deeds h hdeeds
  rw [hevent]
  obtain ⟨op, reply⟩ := d
  cases op with
  | db op =>
    have hlooks := hlast.resolve_left not_false
    cases op with
    | nodeList => trivial
    | _ => exact absurd hlooks not_false
  | _ => trivial

/-- The transaction of a retirement that comes in time succeeds, and the checkpoint is RETIRED. -/
theorem retired_of_inTime {result : FabricResult Unit} {older : List FabricDeed} (h : Run t)
    (hdeeds : deeds tid t = ⟨.db (.checkpointRetire id), result⟩ :: older)
    (hin : InTime id (lastOf tid t)) : result = .ok () ∧
      ∀ c, (stateOf (lastOf tid t)).checkpoint id = some c → c.lifecycle = .retired := by
  obtain ⟨input, t', hevent, -, hreply⟩ := lastOf_of_deeds h hdeeds
  rw [hevent] at hin ⊢
  obtain ⟨hfault, c, hc, havailable, hpinned⟩ := hin
  have hretire := Retention.checkpointRetire_of_available hc hpinned havailable
  have hrun : (StoreOp.checkpointRetire id).run (stateOf t').clock (stateOf t').store =
      .ok ((), (stateOf t').store.updateCheckpoint id Retention.retiredRow) := by
    rw [StoreOp.run, hretire]
    rfl
  have hanswered : (World.handle settings.codecs (.db (.checkpointRetire id)) input
      (stateOf t')).1 = .ok () := World.reply_of_run hfault hrun
  refine ⟨hreply.trans hanswered, fun c' hc' => ?_⟩
  obtain ⟨-, -, -, -, hstore⟩ :=
    Store.checkpointRetire_ok (StoreOp.of_map_ok (World.run_of_handle_ok hanswered))
  rw [stateOf_cons, World.checkpoint, after, hstore, Store.get_updateCheckpoint, if_pos rfl] at hc'
  obtain ⟨row, -, rfl⟩ := Option.map_eq_some_iff.mp hc'
  rfl

/-- A transaction that has retired the checkpoint came in time. -/
theorem inTime_of_ok {older : List FabricDeed} (h : Run t)
    (hdeeds : deeds tid t = ⟨.db (.checkpointRetire id), .ok ()⟩ :: older) :
    InTime id (lastOf tid t) := by
  obtain ⟨input, t', hevent, -, hreply⟩ := lastOf_of_deeds h hdeeds
  rw [hevent]
  rw [World.fst_handle_db] at hreply
  rcases StoreOp.execute_cases (stateOf t').clock input.fault (.checkpointRetire id)
      (stateOf t').store with ⟨e, he⟩ | ⟨reply, s', hfault, hrun, he⟩
  · rw [he] at hreply
    cases hreply
  · obtain ⟨c, hc, hpinned, havailable, -⟩ :=
      Store.checkpointRetire_ok (StoreOp.of_map_ok hrun)
    exact ⟨hfault, c, hc, havailable, hpinned⟩

/-- A stop cuts off no retirement just when it comes in time. -/
theorem stopsInTime_iff (h : Run t) : StopsInTime e t ↔ ¬ CutsOff e t := by
  have horder (tid id ctx) (hrequest : requestOf tid t = some (.checkpointRetire id ctx)) :
      InOrder id (deeds tid t) :=
    h.deeds_of_obeys hrequest
      ((obeys_serve_retire settings id ctx).weaken fun _ _ hserved => hserved.1)
  constructor
  · rintro hin ⟨hstops, tid, id, ctx, hlive, hrequest, hdeleted, c, hc, hrestorable⟩
    rcases hin hstops tid id ctx hlive hrequest with hleft | hrow
    · exact (horder tid id ctx hrequest).deletesLeft_iff.mp hleft hdeleted
    · exact hrestorable.elim (hrow c hc).1 (hrow c hc).2
  · intro hnot hstops tid id ctx hlive hrequest
    rw [(horder tid id ctx hrequest).deletesLeft_iff]
    by_cases hdeleted : Deleted id (deeds tid t)
    · refine .inr fun c hc => not_or.mp fun hrestorable => hnot ?_
      exact ⟨hstops, tid, id, ctx, hlive, hrequest, hdeleted, c, hc, hrestorable⟩
    · exact .inl hdeleted

/-- One retirement: it is all or nothing exactly when its transaction comes in time. -/
theorem retiresWhole_iff (h : Run (e :: t)) : RetiresWhole e t ↔ RetiresInTime e t := by
  refine and_congr ?_ (stopsInTime_iff h.tail).symm
  constructor
  · rintro hwhole ⟨tid, id, failed⟩ hr ⟨d, hd, hdeletes⟩
    obtain ⟨hclean, -⟩ := hwhole _ hr
    obtain ⟨result, hend, rfl⟩ := retireEnd_of_retirementOf h hr
    cases hend with
    | refused hnone _ => exact absurd hdeletes (hnone d hd)
    | undeleted hends _ _ _ => exact inTime_of_endsInDeletion h.tail hends
    | asked hdeeds =>
      cases result with
      | ok _ => exact inTime_of_ok h.tail hdeeds
      | error err =>
        have hnot : ¬ EndsInDeletion id (deeds tid t) := by
          rw [hdeeds]
          rintro ⟨d', hd', hlast⟩
          obtain rfl := Option.some.inj hd'
          exact hlast.elim not_false not_false
        exact absurd hdeletes (hclean rfl hnot d hd)
  · rintro hin ⟨tid, id, failed⟩ hr
    obtain ⟨result, hend, rfl⟩ := retireEnd_of_retirementOf h hr
    cases hend with
    | refused hnone _ =>
      refine ⟨fun _ _ => hnone, ?_⟩
      rintro ⟨⟨⟨d, hd, hdeletes⟩, -⟩, -⟩
      exact absurd hdeletes (hnone d hd)
    | @undeleted ckpt hends _ hread hfew =>
      refine ⟨fun _ hnot => absurd hends hnot, ?_⟩
      rintro ⟨hdeleted, -⟩
      rw [hdeleted.2 ckpt hread, List.length_reverse, List.length_map] at hfew
      exact absurd hfew (Nat.lt_irrefl _)
    | asked hdeeds =>
      by_cases hdeletes : ∃ d ∈ deeds tid t, Deletes id d
      · obtain ⟨rfl, hretired⟩ := retired_of_inTime h.tail hdeeds (hin _ hr hdeletes)
        refine ⟨fun hfailed => absurd hfailed (by simp [Except.toOption]), ?_⟩
        rintro ⟨-, c, hc, hrestorable⟩
        rw [hretired c hc] at hrestorable
        exact absurd hrestorable (by decide)
      · refine ⟨fun _ _ d hd hd' => hdeletes ⟨d, hd, hd'⟩, ?_⟩
        rintro ⟨hdeleted, -⟩
        exact hdeletes hdeleted.1

/-- **Retirement is all or nothing** in a run just while the transactions of the retirements come in
time. -/
theorem retires_whole_iff (h : Run t) : EveryStep RetiresWhole t ↔ EveryStep RetiresInTime t := by
  constructor
  · exact fun hall e past hsuffix => (retiresWhole_iff (h.of_suffix hsuffix)).mp (hall e past hsuffix)
  · exact fun hall e past hsuffix => (retiresWhole_iff (h.of_suffix hsuffix)).mpr (hall e past hsuffix)

/-- A checkpoint is captured, its protection is taken away, and it is retired. -/
def Demo.retiredAlone : List (Action (fabric Demo.archive)) :=
  Demo.serially [.capture 7 {} Demo.operator, .checkpointUnprotect 2,
    .checkpointRetire 2 Demo.operator]

/-- Its retirement is all or nothing. -/
theorem retires_whole_alone : EveryStep RetiresWhole (exec Demo.retiredAlone).trace := by
  have hsteps : EveryStep (fun e past => stops e = false ∧ ∀ r ∈ retirementOf e past,
      (∃ d ∈ deeds r.1 past, Deletes r.2.1 d) → InTime r.2.1 (lastOf r.1 past))
      (exec Demo.retiredAlone).trace := by
    decide +kernel
  refine (retires_whole_iff (exec_run Demo.retiredAlone)).mpr (hsteps.mono fun e past h => ?_)
  obtain ⟨hstops, hin⟩ := h
  refine ⟨hin, fun hstopped => ?_⟩
  rw [hstops] at hstopped
  cases hstopped

/-- The checkpoint is restored before it is retired. -/
def Demo.retiredRestored : List (Action (fabric Demo.archive)) :=
  Demo.serially [.capture 7 {} Demo.operator, .checkpointUnprotect 2,
    .restore 2 "n1" {} Demo.operator, .checkpointRetire 2 Demo.operator]

/-- The retirement has its replica deleted; then it is refused, for the checkpoint is RESTORED. -/
theorem restored_loses_replicas : Run (exec Demo.retiredRestored).trace ∧
    ¬ EveryStep RetiresWhole (exec Demo.retiredRestored).trace := by
  refine ⟨exec_run _, fun hwhole => ?_⟩
  obtain ⟨e, past, hsuffix, r, hr, hfailed, hnot, d, hd, hdeletes⟩ :
      ∃ e past, e :: past <:+ (exec Demo.retiredRestored).trace ∧
        ∃ r ∈ retirementOf e past, r.2.2 = true ∧ ¬ EndsInDeletion r.2.1 (deeds r.1 past) ∧
          ∃ d ∈ deeds r.1 past, Deletes r.2.1 d :=
    exists_of_not_everyStep (by decide +kernel)
  obtain ⟨hclean, -⟩ := (hwhole e past hsuffix).1 r hr
  exact hclean hfailed hnot d hd hdeletes

end Runs

end CheckpointFabric.Retirement
