import CheckpointFabric.Footprints.Images
import CheckpointFabric.Properties.Ownership

/-!
# What a stale node keeps

A node whose heartbeats stay away is declared STALE: by a round of the monitor, which revokes its
claims, or by recovery, which does not. Its registration and the workload rows are written by
different calls, so that a node may come back, a claim may be given, or a workload may change hands
while a declaration is under way.

## Main definitions

* `Declaring` — some request is declaring the node STALE
* `overtaken` — a sweep has named the node since the request last found it ACTIVE
* `LosesAuthority` — a declaration leaves the node no workload, and a STALE node is given none
* `Undisturbed` — the declarations are those of the monitor, and nothing interferes with them

## Main results

* `stale_of_declaring`, `overtaken_of_stale` — how a node becomes STALE, and stays it
* `obeys_monitor_end` — a round of the monitor fences every node that it has declared
* `loses_authority` — in undisturbed runs a STALE node loses its authority
-/

set_option autoImplicit false

namespace CheckpointFabric.Staleness

open Concurrency Coordinator Fabric System

variable {settings : Settings} {t t' : List (Event (fabric settings))}
  {e : Event (fabric settings)} {tid : ℕ} {id : Id} {n : NodeId}

section Definitions

/-- The thread of an event and its deed. -/
def deedOf : Event (fabric settings) → Option (ℕ × FabricDeed)
  | .performed tid op input before =>
    some (tid, ⟨op, (World.handle settings.codecs op input before).1⟩)
  | _ => none

/-- The nodes that a sweep has found overdue. -/
def declaredBy : FabricDeed → List NodeId
  | ⟨.db (.nodesSweepStale _), .ok names⟩ => names
  | _ => []

/-- The nodes that a thread has declared STALE. -/
def declared (ds : List FabricDeed) : List NodeId := ds.flatMap declaredBy

/-- The node that a registration or a heartbeat makes ACTIVE. -/
def activates : FabricDeed → Option NodeId
  | ⟨.db (.nodeRegister n _ _ _), .ok _⟩ | ⟨.db (.nodeHeartbeat n _), .ok _⟩ => some n
  | _ => none

/-- The deed has found the node ACTIVE. -/
def findsActive (n : NodeId) : FabricDeed → Bool
  | ⟨.db .nodeList, .ok nodes⟩ => activeIn nodes n
  | ⟨.db (.nodeValidateIdentity n' _), .ok _⟩ => n' == n
  | _ => false

/-- The status of a registered node. -/
def nodeStatus (w : World) (n : NodeId) : Option NodeStatus :=
  (w.store.nodes.get n).map (·.status)

/-- The node is registered, and STALE. -/
def StaleNode (w : World) (n : NodeId) : Prop := nodeStatus w n = some .stale

/-- The request of a live thread has declared the node STALE, and is not answered yet. -/
def Declaring (n : NodeId) (past : List (Event (fabric settings))) : Prop :=
  ∃ tid, Live tid past ∧ n ∈ declared (deeds tid past)

/-- A sweep has named the node since the thread last found it ACTIVE. -/
def overtaken (tid : ℕ) (n : NodeId) : List (Event (fabric settings)) → Bool
  | [] => false
  | e :: past =>
    match deedOf e with
    | some (tid', d) =>
      if tid' = tid ∧ findsActive n d then false
      else decide (n ∈ declaredBy d) || overtaken tid n past
    | none => overtaken tid n past

/-- The row shows a claim that it did not show before. -/
def NewClaim (before : World) (w' : Workload) : Prop :=
  ∀ w ∈ before.workload w'.workloadId,
    ¬ (w.activeNode = w'.activeNode ∧ w.fenceToken = w'.fenceToken ∧
      w.executionEpoch = w'.executionEpoch)

instance (before : World) (w' : Workload) : Decidable (NewClaim before w') := by
  unfold NewClaim
  infer_instance

/-- The request is a round of the monitor. -/
def IsMonitor : Request → Prop
  | .monitor => True
  | _ => False

instance (request : Request) : Decidable (IsMonitor request) := by
  unfold IsMonitor
  split <;> infer_instance

/-- The thread serves a round of the monitor. -/
def Monitors (past : List (Event (fabric settings))) (tid : ℕ) : Prop :=
  ∃ request ∈ requestOf tid past, IsMonitor request

instance (past : List (Event (fabric settings))) (tid : ℕ) : Decidable (Monitors past tid) := by
  unfold Monitors
  infer_instance

/-- The thread that is answered. -/
def answers : Event (fabric settings) → Option ℕ
  | .answered tid _ _ => some tid
  | _ => none

/-- When a request is answered that has declared a node STALE, no workload is with the node, and
those that were with it when it was declared have a later epoch. -/
def Revoked (e : Event (fabric settings)) (past : List (Event (fabric settings))) : Prop :=
  ∀ tid ∈ answers e, ∀ e' past' d, e' :: past' <:+ past → deedOf e' = some (tid, d) →
    ∀ n ∈ declaredBy d,
      (∀ w ∈ (stateOf past).store.workloads.rows, w.activeNode ≠ some n) ∧
        ∀ w ∈ (stateOf past').store.workloads.rows, w.activeNode = some n →
          ∃ w' ∈ (stateOf past).workload w.workloadId, w.executionEpoch < w'.executionEpoch

/-- The event gives no claim to a node that is STALE. -/
def SparesStale (e : Event (fabric settings)) (past : List (Event (fabric settings))) : Prop :=
  ∀ w' ∈ (after e).store.workloads.rows, NewClaim (stateOf past) w' →
    ∀ n ∈ w'.activeNode, ¬ StaleNode (stateOf past) n

/-- A STALE node loses its authority, and gets none. -/
def LosesAuthority (e : Event (fabric settings)) (past : List (Event (fabric settings))) : Prop :=
  Revoked e past ∧ SparesStale e past

/-- The thread that gives a node a claim has found it ACTIVE after the last sweep that named it. -/
def ChecksInTime (e : Event (fabric settings)) (past : List (Event (fabric settings))) : Prop :=
  ∀ a ∈ deedOf e, ∀ w' ∈ (after e).store.workloads.rows, NewClaim (stateOf past) w' →
    ∀ n ∈ w'.activeNode, overtaken a.1 n past = false

instance (e : Event (fabric settings)) (past : List (Event (fabric settings))) :
    Decidable (ChecksInTime e past) := by
  unfold ChecksInTime
  infer_instance

/-- The event makes no node ACTIVE that is being declared STALE. -/
def RevivesNone (e : Event (fabric settings)) (past : List (Event (fabric settings))) : Prop :=
  ∀ a ∈ deedOf e, ∀ n ∈ activates a.2, ¬ Declaring n past

/-- Recovery declares no node STALE that holds a workload. -/
def RecoversIdle (e : Event (fabric settings)) (past : List (Event (fabric settings))) : Prop :=
  ∀ a ∈ deedOf e, Recovers past a.1 → ∀ n ∈ declaredBy a.2,
    ∀ w ∈ (stateOf past).store.workloads.rows, w.activeNode ≠ some n

instance (e : Event (fabric settings)) (past : List (Event (fabric settings))) :
    Decidable (RecoversIdle e past) := by
  unfold RecoversIdle
  infer_instance

/-- The epoch that a fence writes fits its column. -/
def Fits : Op → Prop
  | .db (.workloadBumpFence _ epoch) => epoch + 1 ≤ integerMax
  | _ => True

instance (op : Op) : Decidable (Fits op) := by
  unfold Fits
  split <;> infer_instance

/-- The thread, the operation and the input of an event. -/
def stepOf : Event (fabric settings) → Option (ℕ × Op × Input)
  | .performed tid op input _ => some (tid, op, input)
  | _ => none

/-- The calls of the monitor find the database working, and its epochs fit their column. -/
def SweepsThrough (e : Event (fabric settings)) (past : List (Event (fabric settings))) : Prop :=
  ∀ a ∈ stepOf e, Monitors past a.1 → a.2.2.fault = none ∧ Fits a.2.1

instance (e : Event (fabric settings)) (past : List (Event (fabric settings))) :
    Decidable (SweepsThrough e past) := by
  unfold SweepsThrough
  infer_instance

/-- A workload leaves a node that is being declared STALE under a later epoch only. -/
def FencesOwned (e : Event (fabric settings)) (past : List (Event (fabric settings))) : Prop :=
  ∀ w ∈ (stateOf past).store.workloads.rows, ∀ n ∈ w.activeNode, Declaring n past →
    ∀ w' ∈ (after e).workload w.workloadId, w'.activeNode ≠ some n →
      w.executionEpoch < w'.executionEpoch

/-- The declaration of a node is the monitor's, or costs the node nothing; the monitor gets through;
and meanwhile the node is not heard of, and its workloads are fenced by what takes them. A claim
goes to a node that was found ACTIVE since it was last declared STALE. -/
structure Undisturbed (e : Event (fabric settings)) (past : List (Event (fabric settings))) :
    Prop where
  checks : ChecksInTime e past
  revives : RevivesNone e past
  recovers : RecoversIdle e past
  sweeps : SweepsThrough e past
  fences : FencesOwned e past

end Definitions

section Nodes

/-- What a deed may do to the status of a node. -/
inductive StatusStep (n : NodeId) (d : FabricDeed) : Option NodeStatus → Option NodeStatus → Prop
  | kept {status : Option NodeStatus} : n ∉ declaredBy d → StatusStep n d status status
  | activated {status : Option NodeStatus} : activates d = some n →
    StatusStep n d status (some .active)
  | declared : n ∈ declaredBy d → StatusStep n d (some .active) (some .stale)
  | marked {old status : NodeStatus} : d.op = .db (.nodeSetStatus n status) →
    StatusStep n d (some old) (some status)

/-- A sweep names the nodes that were overdue. -/
theorem mem_nodesSweepStale {store : Store} {before : ℕ} :
    n ∈ (store.nodesSweepStale before).1 ↔
      ∃ row ∈ store.nodes.get n, Store.overdue before row = true := by
  constructor
  · intro h
    obtain ⟨row, hrow, rfl⟩ := List.mem_map.mp h
    obtain ⟨hmem, hoverdue⟩ := List.mem_filter.mp hrow
    exact ⟨row, Table.get_of_mem hmem, hoverdue⟩
  · rintro ⟨row, hrow, hoverdue⟩
    obtain ⟨hmem, rfl⟩ := Table.get_eq_some_iff.mp hrow
    exact List.mem_map_of_mem (List.mem_filter.mpr ⟨hmem, hoverdue⟩)

theorem get_nodesSweepStale {store : Store} {before : ℕ} :
    (store.nodesSweepStale before).2.nodes.get n = (store.nodes.get n).map fun row =>
      if Store.overdue before row then { row with status := .stale } else row := by
  exact Table.get_mapRows _ _ (by intro row; split <;> rfl) n

/-- Every successful call takes such a step. -/
theorem statusStep_of_run {op : StoreOp} {now : ℕ} {store store' : Store} {reply : op.Reply}
    (h : op.run now store = .ok (reply, store')) :
    StatusStep n ⟨.db op, .ok reply⟩ ((store.nodes.get n).map (·.status))
      ((store'.nodes.get n).map (·.status)) := by
  by_cases hwrites : op.writesNodes
  · cases op
    case nodeRegister n' addr bootId resources =>
      have hregister := StoreOp.of_map_ok h
      unfold Store.nodeRegister at hregister
      by_cases hn : n' = n
      · subst hn
        have hactive : (store'.nodes.get n').map (·.status) = some .active := by
          split at hregister
          · rw [← Except.ok.inj hregister, Table.get_insert, if_pos rfl]
            rfl
          · rename_i old hold
            split at hregister
            · rw [← Except.ok.inj hregister, Table.get_modify_self, hold]
              rfl
            · split at hregister
              · rw [← Except.ok.inj hregister, Table.get_modify_self, hold]
                rfl
              · cases hregister
        rw [hactive]
        exact .activated rfl
      · have hkept : store'.nodes.get n = store.nodes.get n := by
          split at hregister
          · rw [← Except.ok.inj hregister, Table.get_insert]
            exact if_neg hn
          · split at hregister
            · rw [← Except.ok.inj hregister, Table.get_modify_of_ne _ _ _ hn]
            · split at hregister
              · rw [← Except.ok.inj hregister, Table.get_modify_of_ne _ _ _ hn]
              · cases hregister
        rw [hkept]
        exact .kept List.not_mem_nil
    case nodeHeartbeat n' resources =>
      rw [Store.nodeHeartbeat_ok (StoreOp.of_map_ok h)]
      by_cases hn : n' = n
      · subst hn
        rw [Table.get_modify_self]
        cases store.nodes.get n' with
        | none => exact .kept List.not_mem_nil
        | some row => exact .activated rfl
      · rw [Table.get_modify_of_ne _ _ _ hn]
        exact .kept List.not_mem_nil
    case nodeSetStatus n' status =>
      rw [← StoreOp.snd_of_ok h, Store.nodeSetStatus]
      by_cases hn : n' = n
      · subst hn
        rw [Table.get_modify_self]
        cases store.nodes.get n' with
        | none => exact .kept List.not_mem_nil
        | some row => exact .marked rfl
      · rw [Table.get_modify_of_ne _ _ _ hn]
        exact .kept List.not_mem_nil
    case nodesSweepStale before =>
      obtain ⟨rfl, rfl⟩ := Prod.mk.inj (Except.ok.inj h)
      show StatusStep n _ _ (((store.nodesSweepStale before).2.nodes.get n).map (·.status))
      rw [get_nodesSweepStale]
      by_cases hn : n ∈ (store.nodesSweepStale before).1
      · obtain ⟨row, hrow, hoverdue⟩ := mem_nodesSweepStale.mp hn
        have hactive : row.status = .active := by
          rw [Store.overdue, Bool.and_eq_true, beq_iff_eq] at hoverdue
          exact hoverdue.1
        rw [Option.mem_def.mp hrow, Option.map_some, Option.map_some, Option.map_some,
          if_pos hoverdue, hactive]
        exact .declared hn
      · have hkept : ((store.nodes.get n).map fun row =>
            if Store.overdue before row then { row with status := .stale } else row) =
              store.nodes.get n := by
          cases hrow : store.nodes.get n with
          | none => rfl
          | some row =>
            rw [Option.map_some, if_neg]
            exact fun hoverdue => hn (mem_nodesSweepStale.mpr ⟨row, hrow, hoverdue⟩)
        rw [hkept]
        exact .kept hn
    all_goals exact absurd hwrites not_false
  · rw [(StoreOp.frame_of_run h).nodes hwrites]
    refine .kept ?_
    cases op with
    | nodesSweepStale => exact absurd trivial hwrites
    | _ => exact List.not_mem_nil

theorem declaredBy_error {op : Op} {err : FabricError} : declaredBy ⟨op, .error err⟩ = [] := by
  cases op with
  | db op => cases op <;> rfl
  | _ => rfl

/-- Every deed takes such a step. -/
theorem statusStep_of_deed {d : FabricDeed} (h : Run (e :: t)) (hd : deedOf e = some (tid, d)) :
    StatusStep n d (nodeStatus (stateOf t) n) (nodeStatus (after e) n) := by
  cases h with
  | @perform _ tid' request op rest input hrun hlive hrequest hfollows =>
    obtain ⟨rfl, rfl⟩ := Prod.mk.inj (Option.some.inj hd)
    have hperformed := hrun.perform input hlive hrequest hfollows
    rw [after, nodeStatus, nodeStatus]
    cases hreply : (World.handle settings.codecs op input (stateOf t)).1 with
    | error err =>
      rw [World.store_handle_of_error hreply]
      exact .kept (declaredBy_error ▸ List.not_mem_nil)
    | ok reply =>
      cases op with
      | db op => exact statusStep_of_run (World.run_of_handle_ok hreply)
      | _ =>
        rcases calls_or_leavesTables hperformed with ⟨_, _, _, -, _, hcalls, -⟩ | ⟨⟨_, hsame⟩, -⟩
        · exact absurd (Event.performed.inj hcalls).2.1 (by simp)
        · rw [after] at hsame
          rw [hsame]
          exact .kept List.not_mem_nil
  | _ => cases hd

/-- Whatever is not a deed leaves the store. -/
theorem store_of_deedOf_eq_none (h : Run (e :: t)) (hd : deedOf e = none) :
    (after e).store = (stateOf t).store := by
  cases h with
  | perform => cases hd
  | move m => exact World.store_move m
  | _ => rfl

end Nodes

section Permits

variable {request : Request} {ds : List FabricDeed}

theorem mem_declared_iff : n ∈ declared ds ↔ Swept ds n := by
  unfold declared
  rw [List.mem_flatMap]
  constructor
  · rintro ⟨⟨op, reply⟩, hd, hn⟩
    cases op with
    | db op =>
      cases op with
      | nodesSweepStale before =>
        cases reply with
        | error err => exact absurd hn List.not_mem_nil
        | ok names => exact ⟨before, names, hd, hn⟩
      | _ => exact absurd hn List.not_mem_nil
    | _ => exact absurd hn List.not_mem_nil
  · rintro ⟨before, names, hd, hn⟩
    exact ⟨_, hd, hn⟩

/-- The call declares nodes STALE, or marks a node. -/
def Marks : StoreOp → Prop
  | .nodesSweepStale _ | .nodeSetStatus _ _ => True
  | _ => False

/-- Nodes are declared STALE by the monitor and by recovery. -/
theorem declarer_of_permits {op : StoreOp} (hop : Marks op)
    (h : request.Permits settings ds (.db op)) :
    request = .monitor ∧ MonitorWrites ds op ∨
      (∃ ctx, request = .recovery ctx) ∧ RecoveryWrites ds op := by
  cases op with
  | nodesSweepStale | nodeSetStatus =>
    cases request with
    | recovery ctx => exact .inr ⟨⟨ctx, rfl⟩, h.resolve_left not_false⟩
    | monitor =>
      obtain ⟨call, hcall, hwrites⟩ := h.resolve_left not_false
      obtain rfl := Op.db.inj hcall
      exact .inl ⟨rfl, hwrites⟩
    | capture | restore | rollback =>
      obtain hreads | ⟨run, hdoes⟩ := h
      · exact absurd hreads not_false
      · exact absurd (hdoes.performs.resolve_left not_false) not_false
    | migrate =>
      obtain ⟨_, hreads | ⟨run, hdoes⟩⟩ | ⟨_, _, hreads | ⟨run, hdoes⟩⟩ := h
      · exact absurd hreads not_false
      · exact absurd (hdoes.performs.resolve_left not_false) not_false
      · exact absurd hreads not_false
      · exact absurd (hdoes.performs.resolve_left not_false) not_false
    | _ => simp [Request.Permits, Forks, Rebinds, Op.Reads, StoreOp.Reads] at h
  | _ => exact absurd hop not_false

/-- Only a node that the request has declared is marked, and it is marked STALE. -/
theorem marks_of_permits {status : NodeStatus}
    (h : request.Permits settings ds (.db (.nodeSetStatus n status))) :
    status = .stale ∧ n ∈ declared ds := by
  rw [mem_declared_iff]
  have hmarks : Marks (.nodeSetStatus n status) := trivial
  rcases declarer_of_permits hmarks h with ⟨-, hwrites⟩ | ⟨-, hwrites⟩
  · exact hwrites
  · exact hwrites

end Permits

section Status

theorem declared_deeds_cons {d : FabricDeed} {tid' : ℕ} (hd : deedOf e = some (tid', d)) :
    declared (deeds tid (e :: t)) =
      if tid' = tid then declaredBy d ++ declared (deeds tid t) else declared (deeds tid t) := by
  cases e with
  | performed tid₀ op input before =>
    obtain ⟨rfl, rfl⟩ := Prod.mk.inj (Option.some.inj hd)
    rw [deeds]
    split <;> rfl
  | _ => cases hd

theorem live_cons_of_deedOf {d : FabricDeed} {tid' : ℕ} (hd : deedOf e = some (tid', d)) :
    Live tid (e :: t) ↔ Live tid t := by
  cases e with
  | performed => exact Iff.rfl
  | _ => cases hd

theorem permits_of_deedOf {d : FabricDeed} (h : Run (e :: t)) (hd : deedOf e = some (tid, d)) :
    ∃ request, requestOf tid t = some request ∧
      request.Permits settings (deeds tid t) d.op := by
  cases e with
  | performed tid₀ op input before =>
    obtain ⟨rfl, rfl⟩ := Prod.mk.inj (Option.some.inj hd)
    exact permitted h
  | _ => cases hd

theorem live_of_deedOf {d : FabricDeed} (h : Run (e :: t)) (hd : deedOf e = some (tid, d)) :
    Live tid t := by
  cases h with
  | perform input hrun hlive =>
    obtain ⟨rfl, -⟩ := Prod.mk.inj (Option.some.inj hd)
    exact hlive
  | _ => cases hd

/-- A node that the list shows as ACTIVE is ACTIVE. -/
theorem active_of_activeIn {w : World} (h : activeIn w.store.nodeList n = true) :
    nodeStatus w n = some .active := by
  obtain ⟨row, hrow, hactive⟩ := List.any_eq_true.mp h
  rw [Bool.and_eq_true, beq_iff_eq, beq_iff_eq] at hactive
  obtain ⟨rfl, hactive⟩ := hactive
  have hmem : row ∈ w.store.nodes.rows := (List.mem_insertionSort _).mp hrow
  rw [nodeStatus, Table.get_of_mem hmem, Option.map_some, hactive]

theorem validates_of_run {now : ℕ} {store store' : Store} {bootId : String} {u : Unit}
    (h : (StoreOp.nodeValidateIdentity n bootId).run now store = .ok (u, store')) :
    store.nodeValidateIdentity n bootId = .ok () := by
  rw [StoreOp.run] at h
  cases hvalid : store.nodeValidateIdentity n bootId with
  | error err =>
    rw [hvalid] at h
    cases h
  | ok u => rfl

/-- A node that is found ACTIVE is ACTIVE. -/
theorem active_of_findsActive {d : FabricDeed} (h : Run (e :: t)) (hd : deedOf e = some (tid, d))
    (hfinds : findsActive n d = true) : nodeStatus (after e) n = some .active := by
  cases h with
  | @perform _ tid' request op rest input hrun hlive hrequest hfollows =>
    obtain ⟨rfl, rfl⟩ := Prod.mk.inj (Option.some.inj hd)
    rw [after]
    generalize hreply : (World.handle settings.codecs op input (stateOf t)).1 = reply at hfinds
    cases op with
    | db op =>
      cases reply with
      | error err => cases op <;> cases hfinds
      | ok reply =>
        have hran := World.run_of_handle_ok hreply
        cases op with
        | nodeList =>
          have hreads : StoreOp.nodeList.Reads := trivial
          rw [nodeStatus, StoreOp.store_of_reads hreads hran]
          obtain ⟨rfl, -⟩ := Prod.mk.inj (Except.ok.inj hran)
          exact active_of_activeIn hfinds
        | nodeValidateIdentity n' bootId =>
          have hreads : (StoreOp.nodeValidateIdentity n' bootId).Reads := trivial
          rw [nodeStatus, StoreOp.store_of_reads hreads hran]
          obtain rfl := eq_of_beq hfinds
          obtain ⟨row, hrow, -, hactive⟩ := Store.nodeValidateIdentity_ok (validates_of_run hran)
          rw [hrow, Option.map_some, hactive]
        | _ => cases hfinds
    | _ => cases reply <;> cases hfinds
  | _ => cases hd

theorem not_declaredBy_of_activates {d : FabricDeed} (h : activates d = some n) :
    n ∉ declaredBy d := by
  obtain ⟨op, reply⟩ := d
  cases op with
  | db op =>
    cases op with
    | nodesSweepStale => cases h
    | _ => exact List.not_mem_nil
  | _ => exact List.not_mem_nil

/-- What is not a deed starts no declaration. -/
theorem declaring_of_deedOf_eq_none (h : Run (e :: t)) (hd : deedOf e = none)
    (hdeclaring : Declaring n (e :: t)) : Declaring n t := by
  obtain ⟨tid, hlive, hn⟩ := hdeclaring
  cases h with
  | @accept _ request hrun =>
    rcases hlive with rfl | hlive
    · have hnone : deeds (admissions t) t = [] :=
        (deeds_eq_nil_of_admissions_le hrun (Nat.le_refl _)).1
      simp only [deeds, hnone] at hn
      exact absurd hn List.not_mem_nil
    · exact ⟨tid, hlive, hn⟩
  | perform => cases hd
  | answer => exact ⟨tid, hlive.2, hn⟩
  | restart => exact absurd hlive not_false
  | move => exact ⟨tid, hlive, hn⟩

/-- While a node is being declared STALE, it is STALE. -/
theorem stale_of_declaring (h : Run t) (hall : EveryStep RevivesNone t)
    (hdeclaring : Declaring n t) : StaleNode (stateOf t) n := by
  induction t generalizing n with
  | nil =>
    obtain ⟨tid, hlive, -⟩ := hdeclaring
    exact absurd hlive not_false
  | cons e t ih =>
    obtain ⟨hrevives, hpast⟩ := everyStep_cons.mp hall
    cases hd : deedOf e with
    | none =>
      have hstale := ih h.tail hpast (declaring_of_deedOf_eq_none h hd hdeclaring)
      rwa [StaleNode, nodeStatus, stateOf_cons, store_of_deedOf_eq_none h hd]
    | some a =>
      obtain ⟨tid', d⟩ := a
      have hstep := statusStep_of_deed (n := n) h hd
      have hold (hn : n ∉ declaredBy d) : Declaring n t := by
        obtain ⟨tid, hlive, hmem⟩ := hdeclaring
        refine ⟨tid, (live_cons_of_deedOf hd).mp hlive, ?_⟩
        rw [declared_deeds_cons hd] at hmem
        split at hmem
        · exact (List.mem_append.mp hmem).resolve_left hn
        · exact hmem
      rw [StaleNode, stateOf_cons]
      generalize hbefore : nodeStatus (stateOf t) n = old at hstep
      generalize nodeStatus (after e) n = new at hstep ⊢
      cases hstep with
      | kept hn => exact hbefore ▸ ih h.tail hpast (hold hn)
      | activated hactivates =>
        exact absurd (hold (not_declaredBy_of_activates hactivates)) (hrevives _ hd n hactivates)
      | declared => rfl
      | marked hop =>
        obtain ⟨request, -, hpermits⟩ := permits_of_deedOf h hd
        rw [hop] at hpermits
        rw [(marks_of_permits hpermits).1]

/-- A node that is STALE was named by a sweep after whoever found it ACTIVE last. -/
theorem overtaken_of_stale (h : Run t) (hall : EveryStep RevivesNone t)
    (hstale : StaleNode (stateOf t) n) (tid : ℕ) : overtaken tid n t = true := by
  induction t with
  | nil => cases hstale
  | cons e t ih =>
    obtain ⟨-, hpast⟩ := everyStep_cons.mp hall
    rw [overtaken]
    cases hd : deedOf e with
    | none =>
      rw [StaleNode, nodeStatus, stateOf_cons, store_of_deedOf_eq_none h hd] at hstale
      exact ih h.tail hpast hstale
    | some a =>
      obtain ⟨tid', d⟩ := a
      have hstep := statusStep_of_deed (n := n) h hd
      dsimp only
      split
      · rename_i hfinds
        rw [StaleNode, stateOf_cons, active_of_findsActive h hd hfinds.2] at hstale
        cases hstale
      · rw [Bool.or_eq_true, decide_eq_true_iff]
        rw [StaleNode, stateOf_cons] at hstale
        rw [hstale] at hstep
        generalize hbefore : nodeStatus (stateOf t) n = old at hstep
        cases hstep with
        | kept => exact .inr (ih h.tail hpast hbefore)
        | declared hn => exact .inl hn
        | marked hop =>
          obtain ⟨request, -, hpermits⟩ := permits_of_deedOf h hd
          rw [hop] at hpermits
          have hdeclaring : Declaring n t :=
            ⟨tid', live_of_deedOf h hd, (marks_of_permits hpermits).2⟩
          exact .inr (ih h.tail hpast (stale_of_declaring h.tail hpast hdeclaring))

end Status

section Window

variable {epoch : ℕ}

/-- The workload is not with the node. -/
def Off (n : NodeId) (id : Id) (w : World) : Prop := ∀ r ∈ w.workload id, r.activeNode ≠ some n

/-- The workload is not with the node, and its epoch is a later one. -/
def Passed (n : NodeId) (id : Id) (epoch : ℕ) (w : World) : Prop :=
  ∃ r ∈ w.workload id, r.activeNode ≠ some n ∧ epoch < r.executionEpoch

/-- The workload is with the node under this epoch. -/
def With (n : NodeId) (id : Id) (epoch : ℕ) (w : World) : Prop :=
  ∃ r ∈ w.workload id, r.activeNode = some n ∧ r.executionEpoch = epoch

/-- **No claim for a STALE node**, where claims are checked in time. -/
theorem sparesStale (h : Run (e :: t)) (hchecks : ChecksInTime e t)
    (hall : EveryStep RevivesNone t) : SparesStale e t := by
  intro w' hw' hnew n hn hstale
  cases hd : deedOf e with
  | none =>
    rw [store_of_deedOf_eq_none h hd] at hw'
    exact hnew w' (Table.get_of_mem hw') ⟨rfl, rfl, rfl⟩
  | some a =>
    have hfresh := hchecks a hd w' hw' hnew n hn
    rw [overtaken_of_stale h.tail hall hstale] at hfresh
    cases hfresh

/-- A row that shows a STALE node showed the same claim before. -/
theorem exists_claim_of_stale {r' : Workload} (hspares : SparesStale e t)
    (hstale : StaleNode (stateOf t) n) (hr' : (after e).workload id = some r')
    (hactive : r'.activeNode = some n) : With n id r'.executionEpoch (stateOf t) := by
  have hold : ¬ NewClaim (stateOf t) r' := fun hnew =>
    hspares r' (Table.mem_of_get hr') hnew n hactive hstale
  rw [NewClaim, World.workloadId_of_row hr'] at hold
  push Not at hold
  obtain ⟨r, hr, hnode, -, hepoch⟩ := hold
  exact ⟨r, hr, hnode.trans hactive, hepoch⟩

theorem off_step (hspares : SparesStale e t) (hstale : StaleNode (stateOf t) n)
    (hoff : Off n id (stateOf t)) : Off n id (after e) := by
  intro r' hr' hactive
  obtain ⟨r, hr, hold, -⟩ := exists_claim_of_stale hspares hstale hr' hactive
  exact hoff r hr hold

theorem passed_step (h : Run (e :: t)) (hspares : SparesStale e t)
    (hstale : StaleNode (stateOf t) n) (hpassed : Passed n id epoch (stateOf t)) :
    Passed n id epoch (after e) := by
  obtain ⟨r, hr, hnode, hepoch⟩ := hpassed
  obtain ⟨r', hr', hlease, -⟩ := lease_step_of_run h hr
  have hoff : Off n id (stateOf t) := by
    intro r₀ hr₀
    obtain rfl := Option.some.inj (hr.symm.trans hr₀)
    exact hnode
  exact ⟨r', hr', off_step hspares hstale hoff r' hr', Nat.lt_of_lt_of_le hepoch hlease.epoch_le⟩

/-- A workload stays with a node that is being declared STALE, or passes on. -/
theorem with_step (h : Run (e :: t)) (hspares : SparesStale e t) (hfences : FencesOwned e t)
    (hdeclaring : Declaring n t) (hstale : StaleNode (stateOf t) n)
    (hwith : With n id epoch (stateOf t)) :
    With n id epoch (after e) ∨ Passed n id epoch (after e) := by
  obtain ⟨r, hr, hactive, rfl⟩ := hwith
  obtain ⟨r', hr', -, -⟩ := lease_step_of_run h hr
  by_cases hactive' : r'.activeNode = some n
  · obtain ⟨r₀, hr₀, -, hepoch⟩ := exists_claim_of_stale hspares hstale hr' hactive'
    obtain rfl := Option.some.inj (hr.symm.trans hr₀)
    exact .inl ⟨r', hr', hactive', hepoch.symm⟩
  · have hmem := Table.mem_of_get hr
    have hid := World.workloadId_of_row hr
    exact .inr ⟨r', hr', hactive', hfences r hmem n hactive hdeclaring r' (hid ▸ hr') hactive'⟩

/-- From the declaration of a node on, as long as its request is live, what every step keeps is
kept. -/
theorem window_induction {P : World → Prop} (h : Run t) (hall : EveryStep Undisturbed t)
    (hlive : Live tid t) (hsuffix : t' <:+ t) (hn : n ∈ declared (deeds tid t'))
    (hstart : P (stateOf t'))
    (hstep : ∀ (e : Event (fabric settings)) (past : List (Event (fabric settings))),
      Run (e :: past) → SparesStale e past → FencesOwned e past → Declaring n past →
        StaleNode (stateOf past) n → P (stateOf past) → P (after e)) :
    P (stateOf t) := by
  refine suffix_induction (P := fun past => P (stateOf past)) hsuffix hstart ?_
  intro e past hlater hpast hP
  have hrun := h.of_suffix hpast
  have hrevives : EveryStep RevivesNone past :=
    (hall.of_suffix ((List.suffix_cons _ _).trans hpast)).mono fun _ _ h => h.revives
  have hdeclaring : Declaring n past := by
    have hmem : n ∈ declared (deeds tid past) := by
      obtain ⟨d, hd, hmem⟩ := List.mem_flatMap.mp hn
      exact List.mem_flatMap.mpr ⟨d, (deeds_suffix hlater).subset hd, hmem⟩
    obtain ⟨d, hd, -⟩ := List.mem_flatMap.mp hmem
    exact ⟨tid, (live_between h hlive ((List.suffix_cons _ _).trans hpast) hd).1, hmem⟩
  exact hstep e past hrun (sparesStale hrun (hall e past hpast).checks hrevives)
    (hall e past hpast).fences hdeclaring (stale_of_declaring hrun.tail hrevives hdeclaring) hP

theorem off_of_window (h : Run t) (hall : EveryStep Undisturbed t) (hlive : Live tid t)
    (hsuffix : t' <:+ t) (hn : n ∈ declared (deeds tid t')) (hoff : Off n id (stateOf t')) :
    Off n id (stateOf t) :=
  window_induction h hall hlive hsuffix hn hoff fun _ _ _ hspares _ _ hstale =>
    off_step hspares hstale

theorem passed_of_window (h : Run t) (hall : EveryStep Undisturbed t) (hlive : Live tid t)
    (hsuffix : t' <:+ t) (hn : n ∈ declared (deeds tid t'))
    (hpassed : Passed n id epoch (stateOf t')) : Passed n id epoch (stateOf t) :=
  window_induction h hall hlive hsuffix hn hpassed fun _ _ hrun hspares _ _ hstale =>
    passed_step hrun hspares hstale

theorem with_of_window (h : Run t) (hall : EveryStep Undisturbed t) (hlive : Live tid t)
    (hsuffix : t' <:+ t) (hn : n ∈ declared (deeds tid t'))
    (hwith : With n id epoch (stateOf t')) :
    With n id epoch (stateOf t) ∨ Passed n id epoch (stateOf t) := by
  refine window_induction (P := fun w => With n id epoch w ∨ Passed n id epoch w) h hall hlive
    hsuffix hn (.inl hwith) ?_
  intro e past hrun hspares hfences hdeclaring hstale hP
  rcases hP with hwith | hpassed
  · exact with_step hrun hspares hfences hdeclaring hstale hwith
  · exact .inr (passed_step hrun hspares hstale hpassed)

end Window

section Sweep

variable {ds start : List FabricDeed} {epoch : ℕ}

/-- A call of the sweep has failed that is not a fence. -/
def Fails : FabricDeed → Prop
  | ⟨.db (.nodesSweepStale _), .error _⟩ | ⟨.db (.nodeSetStatus _ _), .error _⟩
  | ⟨.db (.auditAppend _), .error _⟩ | ⟨.db .workloadList, .error _⟩ | ⟨.now, .error _⟩ => True
  | _ => False

/-- The sweep was broken off. -/
def Broken (ds : List FabricDeed) : Prop := ∃ d ∈ ds, Fails d

/-- After the deeds `start`, the workloads were listed, and the claims of the node revoked. -/
def Fenced (start ds : List FabricDeed) (n : NodeId) : Prop :=
  ∃ (older : List FabricDeed) (workloads : List Workload),
    ⟨.db .workloadList, .ok workloads⟩ :: older <:+ ds ∧ start <:+ older ∧
      ∀ w ∈ workloads, w.activeNode = some n →
        ∃ (older' : List FabricDeed) (reply : FabricResult Unit),
          ⟨.db (.workloadBumpFence w.workloadId w.executionEpoch), reply⟩ :: older' <:+ ds ∧
            ⟨.db .workloadList, .ok workloads⟩ :: older <:+ older'

theorem Broken.mono {ds' : List FabricDeed} (h : ds <:+ ds') (hbroken : Broken ds) :
    Broken ds' := by
  obtain ⟨d, hd, hfails⟩ := hbroken
  exact ⟨d, h.subset hd, hfails⟩

theorem Fenced.mono {ds' : List FabricDeed} (h : ds <:+ ds') (hfenced : Fenced start ds n) :
    Fenced start ds' n := by
  obtain ⟨older, workloads, hlist, hstart, hbumps⟩ := hfenced
  refine ⟨older, workloads, hlist.trans h, hstart, fun w hw hactive => ?_⟩
  obtain ⟨older', reply, hbump, hafter⟩ := hbumps w hw hactive
  exact ⟨older', reply, hbump.trans h, hafter⟩

/-- Each claim of the node is revoked, unless the sweep is broken off. -/
theorem obeys_fenceOwned_end {listed : List FabricDeed} {workloads : List Workload}
    (hlisted : listed <:+ ds) :
    Obeys (fun _ _ => True)
      (fun ds' result => ds <:+ ds' ∧ (Broken ds' ∨ result = .ok () ∧
        ∀ w ∈ workloads, w.activeNode = some n →
          ∃ (older : List FabricDeed) (reply : FabricResult Unit),
            ⟨.db (.workloadBumpFence w.workloadId w.executionEpoch), reply⟩ :: older <:+ ds' ∧
              listed <:+ older))
      ds (fenceOwned n workloads) := by
  unfold fenceOwned
  induction workloads generalizing ds with
  | nil => exact ⟨List.suffix_refl _, .inr ⟨rfl, fun _ hw => absurd hw List.not_mem_nil⟩⟩
  | cons w workloads ih =>
    rw [Program.forEach_cons, obeys_andThen]
    refine obeys_ite (fun hactive => ?_) fun hother => ?_
    · have hbump : Obeys (fun _ _ => True)
          (fun ds' result => result = .ok () ∧ ∃ reply : FabricResult Unit,
            ds' = ⟨.db (.workloadBumpFence w.workloadId w.executionEpoch), reply⟩ :: ds) ds
          (db (.workloadBumpFence w.workloadId w.executionEpoch)).ignore :=
        ⟨trivial, fun reply => ⟨rfl, reply, rfl⟩⟩
      refine obeys_bind.mpr (hbump.weaken fun ds₁ result h => ?_)
      obtain ⟨rfl, reply, rfl⟩ := h
      refine ⟨trivial, fun audited => ?_⟩
      cases audited with
      | error err => exact ⟨List.suffix_append [_, _] ds, .inl ⟨_, .head _, trivial⟩⟩
      | ok u =>
        refine (ih (hlisted.trans (List.suffix_append [_, _] ds))).weaken fun ds₂ result h => ?_
        obtain ⟨hlater, hbroken | ⟨rfl, hbumps⟩⟩ := h
        · exact ⟨(List.suffix_append [_, _] ds).trans hlater, .inl hbroken⟩
        · refine ⟨(List.suffix_append [_, _] ds).trans hlater, .inr ⟨rfl, ?_⟩⟩
          intro w' hw' hactive'
          rcases List.mem_cons.mp hw' with rfl | hw'
          · exact ⟨ds, reply, (List.suffix_cons _ _).trans hlater, hlisted⟩
          · exact hbumps w' hw' hactive'
    · refine (ih hlisted).weaken fun ds₂ result h => ?_
      obtain ⟨hlater, hbroken | ⟨rfl, hbumps⟩⟩ := h
      · exact ⟨hlater, .inl hbroken⟩
      · refine ⟨hlater, .inr ⟨rfl, fun w' hw' hactive' => ?_⟩⟩
        rcases List.mem_cons.mp hw' with rfl | hw'
        · exact absurd hactive' hother
        · exact hbumps w' hw' hactive'

/-- Every node that was declared is fenced, unless the sweep is broken off. -/
theorem obeys_fenceAll {names : List NodeId} (hstart : start <:+ ds) :
    Obeys (fun _ _ => True)
      (fun ds' _ => ds <:+ ds' ∧ (Broken ds' ∨ ∀ n ∈ names, Fenced start ds' n)) ds
      (Program.forEach names fun n => do
        db (.nodeSetStatus n .stale)
        audit "node.stale"
        let workloads : List Workload ← db .workloadList
        fenceOwned n workloads) := by
  induction names generalizing ds with
  | nil => exact ⟨List.suffix_refl _, .inr fun _ hn => absurd hn List.not_mem_nil⟩
  | cons n names ih =>
    rw [Program.forEach_cons, obeys_andThen]
    refine ⟨trivial, fun marked => ?_⟩
    cases marked with
    | error err => exact ⟨List.suffix_cons _ _, .inl ⟨_, .head _, trivial⟩⟩
    | ok u =>
      refine ⟨trivial, fun audited => ?_⟩
      cases audited with
      | error err => exact ⟨List.suffix_append [_, _] ds, .inl ⟨_, .head _, trivial⟩⟩
      | ok u =>
        refine ⟨trivial, fun listed => ?_⟩
        cases listed with
        | error err => exact ⟨List.suffix_append [_, _, _] ds, .inl ⟨_, .head _, trivial⟩⟩
        | ok workloads =>
          refine (obeys_fenceOwned_end (List.suffix_refl _)).weaken fun ds₁ result h => ?_
          obtain ⟨hlater, hfate⟩ := h
          have hsuffix : ds <:+ ds₁ := (List.suffix_append [_, _, _] ds).trans hlater
          cases result with
          | error err =>
            refine ⟨hsuffix, .inl ?_⟩
            rcases hfate with hbroken | ⟨hok, -⟩
            · exact hbroken
            · cases hok
          | ok u =>
            refine (ih (hstart.trans hsuffix)).weaken fun ds₂ result h => ?_
            obtain ⟨hlater', hfate'⟩ := h
            refine ⟨hsuffix.trans hlater', ?_⟩
            rcases hfate, hfate' with ⟨hbroken | ⟨-, hbumps⟩, hbroken' | hfenced⟩
            · exact .inl hbroken'
            · exact .inl (hbroken.mono hlater')
            · exact .inl hbroken'
            · refine .inr fun n' hn' => ?_
              rcases List.mem_cons.mp hn' with rfl | hn'
              · exact Fenced.mono hlater'
                  ⟨_, workloads, hlater, hstart.trans (List.suffix_append [_, _] ds), hbumps⟩
              · exact hfenced n' hn'

/-- Whatever node a sweep has declared is fenced after it, or the round was broken off. -/
def Settled (ds : List FabricDeed) : Prop :=
  ∀ d older, d :: older <:+ ds → ∀ n ∈ declaredBy d, Broken ds ∨ Fenced (d :: older) ds n

theorem Settled.cons {d : FabricDeed} (h : Settled ds) (hd : declaredBy d = []) :
    Settled (d :: ds) := by
  intro d' older hsuffix n hn
  rcases List.suffix_cons_iff.mp hsuffix with heq | hsuffix
  · obtain ⟨rfl, -⟩ := List.cons.inj heq
    rw [hd] at hn
    exact absurd hn List.not_mem_nil
  · rcases h d' older hsuffix n hn with hbroken | hfenced
    · exact .inl (hbroken.mono (List.suffix_cons _ _))
    · exact .inr (hfenced.mono (List.suffix_cons _ _))

theorem suffix_of_declares {d : FabricDeed} {recent older : List FabricDeed}
    (h : d :: older <:+ recent ++ ds) (hnone : ∀ d ∈ recent, declaredBy d = [])
    (hn : n ∈ declaredBy d) : d :: older <:+ ds := by
  induction recent with
  | nil => exact h
  | cons d' recent ih =>
    rcases List.suffix_cons_iff.mp h with heq | hsuffix
    · obtain ⟨rfl, -⟩ := List.cons.inj heq
      rw [hnone d (.head _)] at hn
      exact absurd hn List.not_mem_nil
    · exact ih hsuffix fun d hd => hnone d (.tail _ hd)

/-- A sweep that runs first is settled. -/
theorem obeys_sweepStale_end :
    Obeys (fun _ _ => True) (fun ds _ => Settled ds) [] (sweepStale settings) := by
  have hnow (reply : FabricResult ℕ) : Settled [⟨.now, reply⟩] :=
    Settled.cons (fun d older h => absurd (List.suffix_nil.mp h) (by simp)) rfl
  refine ⟨trivial, fun now => ?_⟩
  cases now with
  | error err => exact hnow _
  | ok now =>
    refine ⟨trivial, fun names => ?_⟩
    cases names with
    | error err => exact (hnow _).cons rfl
    | ok names =>
      have hquiet : Uses (fun op => ∀ reply, declaredBy ⟨op, reply⟩ = [])
          (Program.forEach names fun n => do
            db (.nodeSetStatus n .stale)
            audit "node.stale"
            let workloads : List Workload ← db .workloadList
            fenceOwned n workloads) := by
        refine Uses.forEach fun n _ => Uses.bind (uses_db fun _ => rfl) fun _ => ?_
        refine Uses.bind (uses_db fun _ => rfl) fun _ => ?_
        refine Uses.bind (uses_db fun _ => rfl) fun workloads => Uses.forEach fun w _ => ?_
        refine Uses.ite (Uses.bind (uses_db fun _ => rfl).ignore fun _ => ?_) trivial
        exact uses_db fun _ => rfl
      have hboth := Obeys.and (obeys_fenceAll (List.suffix_refl
        [⟨.db (.nodesSweepStale (now - settings.staleMs)), .ok names⟩, ⟨.now, .ok now⟩]))
        hquiet.obeys_recent
      refine hboth.mono (fun _ _ _ => trivial) fun ds result h => ?_
      obtain ⟨⟨-, hfate⟩, recent, rfl, hnone⟩ := h
      intro d older hsuffix n hn
      have hsweep := suffix_of_declares hsuffix (fun d hd => hnone d hd d.reply) hn
      rcases List.suffix_cons_iff.mp hsweep with heq | hsuffix
      · obtain ⟨rfl, rfl⟩ := List.cons.inj heq
        exact hfate.imp_right fun hfenced => hfenced n hn
      · have hclock : ∀ d ∈ [(⟨.now, .ok now⟩ : FabricDeed)], declaredBy d = [] := by
          intro d hd
          obtain rfl := List.mem_singleton.mp hd
          rfl
        rw [← List.append_nil [_]] at hsuffix
        exact absurd (suffix_of_declares hsuffix hclock hn) (by simp)

/-- The sweep that has declared a node is the only one of its round, and the node is fenced after
it, unless the round is broken off. -/
theorem obeys_monitor_end :
    Obeys (fun _ _ => True) (fun ds _ => Settled ds) [] (monitor settings) := by
  unfold monitor
  refine Obeys.ignore_bind obeys_sweepStale_end fun ds _ hsettled => ?_
  refine ⟨trivial, fun now => ?_⟩
  cases now with
  | error err => exact hsettled.cons rfl
  | ok now => exact ⟨trivial, fun expired => (hsettled.cons rfl).cons rfl⟩

end Sweep

section Runs

variable {d : FabricDeed} {epoch : ℕ}

/-- A call of the monitor met no fault, and the epoch that it writes fits. -/
theorem exists_sound_event {ds : List FabricDeed} (h : Run t) (hall : EveryStep SweepsThrough t)
    (hmonitor : requestOf tid t = some .monitor) (hd : d :: ds <:+ deeds tid t) :
    ∃ input t', .performed tid d.op input (stateOf t') :: t' <:+ t ∧ deeds tid t' = ds ∧
      d.reply = (World.handle settings.codecs d.op input (stateOf t')).1 ∧ input.fault = none ∧
      Fits d.op := by
  obtain ⟨input, t', hsuffix, hdeeds, hreply⟩ := exists_event_of_deed h hd
  have hrun := h.of_suffix hsuffix
  have hmonitors : Monitors t' tid := by
    have hadmitted := lt_admissions_of_live hrun.tail hrun.live
    have hsub : t' <:+ t := (List.suffix_cons _ _).trans hsuffix
    exact ⟨.monitor, (requestOf_of_suffix h hsub hadmitted).symm.trans hmonitor, trivial⟩
  obtain ⟨hfault, hfits⟩ := hall _ _ hsuffix (tid, d.op, input) rfl hmonitors
  exact ⟨input, t', hsuffix, hdeeds, hreply, hfault, hfits⟩

/-- The monitor is not broken off. -/
theorem not_broken (h : Run t) (hall : EveryStep SweepsThrough t)
    (hmonitor : requestOf tid t = some .monitor) : ¬ Broken (deeds tid t) := by
  rintro ⟨d, hd, hfails⟩
  obtain ⟨later, ds, hsplit⟩ := List.append_of_mem hd
  obtain ⟨input, t', -, -, hreply, hfault, -⟩ :=
    exists_sound_event h hall hmonitor ⟨later, hsplit.symm⟩
  obtain ⟨op, reply⟩ := d
  cases reply with
  | ok => cases op with
    | db op => cases op <;> exact hfails
    | _ => exact hfails
  | error err =>
    cases op with
    | db op =>
      rw [World.fst_handle_db, hfault] at hreply
      cases op with
      | nodesSweepStale | nodeSetStatus | auditAppend | workloadList => cases hreply
      | _ => exact hfails
    | now => cases hreply
    | _ => exact hfails

theorem workloadBumpFence_of_row {store : Store} {r : Workload}
    (hr : store.workloads.get id = some r) (hfits : r.executionEpoch + 1 ≤ integerMax) :
    store.workloadBumpFence id r.executionEpoch = .ok { store with
      workloads := store.workloads.modify id fun w =>
        { w with
          executionEpoch := w.executionEpoch + 1
          fenceToken := none
          activeNode := none } } := by
  have hbind : bindInteger [r.executionEpoch + 1] = .ok () :=
    bindInteger_eq_ok_iff.mpr fun v hv => List.mem_singleton.mp hv ▸ hfits
  unfold Store.workloadBumpFence
  rw [hr]
  dsimp only
  rw [if_neg (not_not.mpr rfl), hbind]
  rfl

/-- A fence that meets no fault takes the workload from the node. -/
theorem passed_of_bump {input : Input} {w : World} (hfault : input.fault = none)
    (hfits : epoch + 1 ≤ integerMax) (hwith : With n id epoch w) :
    Passed n id epoch
      (World.handle settings.codecs (.db (.workloadBumpFence id epoch)) input w).2 := by
  obtain ⟨r, hr, hactive, rfl⟩ := hwith
  have hrow : w.store.workloads.get id = some r := hr
  have hrun : (StoreOp.workloadBumpFence id r.executionEpoch).run w.clock w.store = .ok ((), _) :=
    congrArg (Except.map ((), ·)) (workloadBumpFence_of_row hrow hfits)
  rw [Passed, World.workload, World.store_handle_db, hfault]
  unfold StoreOp.execute
  rw [hrun]
  dsimp only
  rw [Table.get_modify_self, hrow]
  exact ⟨_, rfl, by simp, Nat.lt_succ_self _⟩

theorem mem_declared_of_suffix {t₁ t₂ : List (Event (fabric settings))} (h : t₁ <:+ t₂)
    (hn : n ∈ declared (deeds tid t₁)) : n ∈ declared (deeds tid t₂) := by
  obtain ⟨d, hd, hn⟩ := List.mem_flatMap.mp hn
  exact List.mem_flatMap.mpr ⟨d, (deeds_suffix h).subset hd, hn⟩

theorem deeds_of_deedOf (hd : deedOf e = some (tid, d)) :
    deeds tid (e :: t) = d :: deeds tid t := by
  cases e with
  | performed tid' op input before =>
    obtain ⟨rfl, rfl⟩ := Prod.mk.inj (Option.some.inj hd)
    exact if_pos rfl
  | _ => cases hd

/-- A workload that was listed as the node's has passed on at the end: it was still the node's
when the fence came, or had passed on before. -/
theorem passed_of_listed {listed : List FabricDeed} {r : Workload} {reply : FabricResult Unit}
    {older : List FabricDeed} (h : Run t) (hall : EveryStep Undisturbed t) (hlive : Live tid t)
    (hmonitor : requestOf tid t = some .monitor) {t₁ : List (Event (fabric settings))}
    {e₁ : Event (fabric settings)} (hsuffix : e₁ :: t₁ <:+ t) (hlisted : deeds tid t₁ = listed)
    (hn : n ∈ declared (deeds tid t₁)) (hr : (stateOf t₁).workload id = some r)
    (hactive : r.activeNode = some n)
    (hbump : ⟨.db (.workloadBumpFence id r.executionEpoch), reply⟩ :: older <:+ deeds tid t)
    (hafter : d :: listed <:+ older) : Passed n id r.executionEpoch (stateOf t) := by
  have hsweeps : EveryStep SweepsThrough t := hall.mono fun _ _ h => h.sweeps
  obtain ⟨input, t₂, hsuffix₂, hdeeds, -, hfault, hfits⟩ :=
    exists_sound_event h hsweeps hmonitor hbump
  have hrun₂ := h.of_suffix hsuffix₂
  have hsub₂ : t₂ <:+ t := (List.suffix_cons _ _).trans hsuffix₂
  have hlength : (deeds tid t₁).length < (deeds tid t₂).length := by
    rw [hlisted, hdeeds]
    exact Nat.lt_of_lt_of_le (Nat.lt_succ_self _) hafter.length_le
  have hsub₁ : t₁ <:+ t₂ :=
    (List.suffix_cons _ _).trans (suffix_of_length_deeds tid hsuffix hsub₂ hlength)
  have hn₂ := mem_declared_of_suffix hsub₁ hn
  rcases with_of_window hrun₂.tail (hall.of_suffix hsub₂) hrun₂.live hsub₁ hn
    ⟨r, hr, hactive, rfl⟩ with hwith | hpassed
  · have hpassed : Passed n id r.executionEpoch (World.handle settings.codecs
        (.db (.workloadBumpFence id r.executionEpoch)) input (stateOf t₂)).2 :=
      passed_of_bump hfault hfits hwith
    exact passed_of_window h hall hlive hsuffix₂
      (mem_declared_of_suffix (List.suffix_cons _ _) hn₂) hpassed
  · exact passed_of_window h hall hlive hsub₂ hn₂ hpassed

/-- What the monitor has declared and fenced is off the node at the end, and what was with the node
when it was declared has passed on. -/
theorem passed_of_fenced {e' : Event (fabric settings)} (h : Run t) (hall : EveryStep Undisturbed t)
    (hlive : Live tid t) (hmonitor : requestOf tid t = some .monitor) (hsuffix : e' :: t' <:+ t)
    (hd : deedOf e' = some (tid, d)) (hn : n ∈ declaredBy d)
    (hfenced : Fenced (d :: deeds tid t') (deeds tid t) n) :
    Off n id (stateOf t) ∧
      ∀ epoch, With n id epoch (stateOf (e' :: t')) → Passed n id epoch (stateOf t) := by
  obtain ⟨older, workloads, hlist, hstart, hbumps⟩ := hfenced
  have hsweeps : EveryStep SweepsThrough t := hall.mono fun _ _ h => h.sweeps
  obtain ⟨input, t₁, hsuffix₁, hdeeds, hreply, hfault, -⟩ :=
    exists_sound_event h hsweeps hmonitor hlist
  have hrun₁ := h.of_suffix hsuffix₁
  have hsub₁ : t₁ <:+ t := (List.suffix_cons _ _).trans hsuffix₁
  have hlength : (deeds tid t').length < (deeds tid t₁).length := by
    rw [hdeeds]
    exact Nat.lt_of_lt_of_le (Nat.lt_succ_self _) hstart.length_le
  have hsub : e' :: t' <:+ t₁ := suffix_of_length_deeds tid hsuffix hsub₁ hlength
  have hn' : n ∈ declared (deeds tid (e' :: t')) := by
    rw [deeds_of_deedOf hd]
    exact List.mem_append_left _ hn
  have hn₁ := mem_declared_of_suffix hsub hn'
  have hlisted : workloads = (stateOf t₁).store.workloadList := by
    rw [World.fst_handle_db, hfault] at hreply
    exact Except.ok.inj hreply
  have hpassed : ∀ epoch, With n id epoch (stateOf t₁) → Passed n id epoch (stateOf t) := by
    rintro epoch ⟨r, hr, hactive, rfl⟩
    have hmem : r ∈ workloads := by
      rw [hlisted]
      exact (List.mem_insertionSort _).mpr (Table.mem_of_get hr)
    obtain ⟨older', reply, hbump, hafter⟩ := hbumps r hmem hactive
    rw [World.workloadId_of_row hr] at hbump
    exact passed_of_listed h hall hlive hmonitor hsuffix₁ hdeeds hn₁ hr hactive hbump hafter
  constructor
  · by_cases hwith : ∃ epoch, With n id epoch (stateOf t₁)
    · obtain ⟨epoch, hwith⟩ := hwith
      obtain ⟨r, hr, hnode, -⟩ := hpassed epoch hwith
      intro r' hr'
      obtain rfl := Option.some.inj (hr.symm.trans hr')
      exact hnode
    · refine off_of_window h hall hlive hsub₁ hn₁ fun r hr hactive => ?_
      exact hwith ⟨_, r, hr, hactive, rfl⟩
  · intro epoch hwith
    rcases with_of_window hrun₁.tail (hall.of_suffix hsub₁) hrun₁.live hsub hn' hwith with
      hwith | hdone
    · exact hpassed epoch hwith
    · exact passed_of_window h hall hlive hsub₁ hn₁ hdone

theorem exists_sweep_of_declaredBy (hn : n ∈ declaredBy d) :
    ∃ (before : ℕ) (names : List NodeId), d = ⟨.db (.nodesSweepStale before), .ok names⟩ := by
  obtain ⟨op, reply⟩ := d
  cases op with
  | db op =>
    cases op with
    | nodesSweepStale before =>
      cases reply with
      | error err => exact absurd hn List.not_mem_nil
      | ok names => exact ⟨before, names, rfl⟩
    | _ => exact absurd hn List.not_mem_nil
  | _ => exact absurd hn List.not_mem_nil

/-- A sweep leaves the workloads. -/
theorem workload_of_declares (h : Run (e :: t)) (hd : deedOf e = some (tid, d))
    (hn : n ∈ declaredBy d) : (after e).workload id = (stateOf t).workload id := by
  obtain ⟨before, names, rfl⟩ := exists_sweep_of_declaredBy hn
  cases h with
  | @perform _ tid' request op rest input =>
    obtain ⟨rfl, hdeed⟩ := Prod.mk.inj (Option.some.inj hd)
    obtain ⟨rfl, hreply⟩ := Deed.mk.inj hdeed
    have hrun := World.run_of_handle_ok (eq_of_heq hreply)
    have hquiet : ¬ (StoreOp.nodesSweepStale before).writesWorkloads := not_false
    rw [after, World.workload, World.workload, (StoreOp.frame_of_run hrun).workloads hquiet]
  | _ => cases hd

/-- The thread of a sweep serves the monitor or recovery. -/
theorem declarer_of_declares (h : Run (e :: t)) (hd : deedOf e = some (tid, d))
    (hn : n ∈ declaredBy d) : requestOf tid t = some .monitor ∨ Recovers t tid := by
  obtain ⟨request, hrequest, hpermits⟩ := permits_of_deedOf h hd
  obtain ⟨before, names, rfl⟩ := exists_sweep_of_declaredBy hn
  have hmarks : Marks (.nodesSweepStale before) := trivial
  rcases declarer_of_permits hmarks hpermits with ⟨rfl, -⟩ | ⟨⟨ctx, rfl⟩, -⟩
  · exact .inl hrequest
  · right
    rw [Recovers, hrequest]
    trivial

/-- A declaration that is undisturbed leaves the node no workload. -/
theorem revoked (h : Run (e :: t)) (hall : EveryStep Undisturbed t) : Revoked e t := by
  intro tid htid e' t' d hsuffix hd n hn
  have hswept := h.tail.of_suffix hsuffix
  have hn' : n ∈ declared (deeds tid (e' :: t')) := by
    rw [deeds_of_deedOf hd]
    exact List.mem_append_left _ hn
  cases h with
  | @answer _ tid' request result hrun hlive hrequest hfollows =>
    obtain rfl : tid = tid' := (Option.some.inj htid).symm
    suffices hpassed : ∀ id, Off n id (stateOf t) ∧
        ∀ epoch, With n id epoch (stateOf t') → Passed n id epoch (stateOf t) by
      constructor
      · exact fun w hw => (hpassed w.workloadId).1 w (Table.get_of_mem hw)
      · intro w hw hactive
        have hwith : With n w.workloadId w.executionEpoch (stateOf t') :=
          ⟨w, Table.get_of_mem hw, hactive, rfl⟩
        obtain ⟨w', hw', -, hepoch⟩ := (hpassed w.workloadId).2 _ hwith
        exact ⟨w', hw', hepoch⟩
    intro id
    have hsame : (after e').workload id = (stateOf t').workload id :=
      workload_of_declares hswept hd hn
    rcases declarer_of_declares hswept hd hn with hmonitor | hrecovers
    -- The monitor: what it has declared it has fenced.
    · have hsub : t' <:+ t := (List.suffix_cons _ _).trans hsuffix
      have hadmitted := lt_admissions_of_live hswept.tail (live_of_deedOf hswept hd)
      rw [← requestOf_of_suffix hrun hsub hadmitted] at hmonitor
      obtain rfl := Option.some.inj (hrequest.symm.trans hmonitor)
      have hserve : Obeys (fun _ _ => True) (fun ds _ => Settled ds) []
          (Request.monitor.serve settings) := by
        refine obeys_bind.mpr (obeys_monitor_end.weaken fun ds result hsettled => ?_)
        cases result with
        | error err => exact hsettled
        | ok u => exact hsettled
      have hsettled : Settled (deeds tid t) := hserve.of_follows hfollows
      have hdeeds : d :: deeds tid t' <:+ deeds tid t := deeds_of_deedOf hd ▸ deeds_suffix hsuffix
      have hsweeps : EveryStep SweepsThrough t := hall.mono fun _ _ h => h.sweeps
      have hfenced := (hsettled d _ hdeeds n hn).resolve_left (not_broken hrun hsweeps hmonitor)
      have hboth : Off n id (stateOf t) ∧
          ∀ epoch, With n id epoch (stateOf (e' :: t')) → Passed n id epoch (stateOf t) :=
        passed_of_fenced hrun hall hlive hmonitor hsuffix hd hn hfenced
      obtain ⟨hoff, hpassed⟩ := hboth
      refine ⟨hoff, fun epoch hwith => hpassed epoch ?_⟩
      rwa [With, stateOf_cons, hsame]
    -- Recovery: there was nothing to fence, and nothing has been given since.
    · have hidle := (hall e' t' hsuffix).recovers (tid, d) hd hrecovers n hn
      have hoff : Off n id (stateOf t') := fun r hr => hidle r (Table.mem_of_get hr)
      constructor
      · refine off_of_window hrun hall hlive hsuffix hn' ?_
        rwa [Off, stateOf_cons, hsame]
      · rintro epoch ⟨r, hr, hactive, -⟩
        exact absurd hactive (hoff r hr)
  | _ => cases htid

/-- **A STALE node loses its authority**, in every run in which nothing interferes with its
declaration. -/
theorem loses_authority (h : Run t) (hall : EveryStep Undisturbed t) :
    EveryStep LosesAuthority t := by
  intro e past hsuffix
  have hpast := hall.of_suffix ((List.suffix_cons _ _).trans hsuffix)
  have hrun := h.of_suffix hsuffix
  exact ⟨revoked hrun hpast,
    sparesStale hrun (hall e past hsuffix).checks (hpast.mono fun _ _ h => h.revives)⟩

/-- The only node is not heard of for a while, and the monitor declares it STALE. -/
def Demo.sweptByMonitor : List (Action (fabric Demo.settings)) :=
  Demo.created ++ [.move (Move.tick 7000)] ++ Demo.alone 2 .monitor

/-- It loses the workload. -/
theorem loses_authority_monitor :
    EveryStep LosesAuthority (exec Demo.sweptByMonitor).trace := by
  have hsteps : EveryStep (fun e past =>
      ChecksInTime e past ∧ RecoversIdle e past ∧ SweepsThrough e past)
      (exec Demo.sweptByMonitor).trace := by
    decide +kernel
  have hrevives : EveryStep (fun e past => ∀ a ∈ deedOf e, ∀ n ∈ activates a.2,
      ∀ tid < admissions past, n ∉ declared (deeds tid past)) (exec Demo.sweptByMonitor).trace := by
    decide +kernel
  have hfences : EveryStep (fun (e : Event (fabric Demo.settings)) past =>
      ∀ w ∈ (stateOf past).store.workloads.rows, ∀ n ∈ w.activeNode,
        ∀ w' ∈ (after e).workload w.workloadId, w'.activeNode ≠ some n →
          w.executionEpoch < w'.executionEpoch) (exec Demo.sweptByMonitor).trace := by
    decide +kernel
  refine loses_authority (exec_run _) fun e past hsuffix => ?_
  obtain ⟨hchecks, hrecovers, hsweeps⟩ := hsteps e past hsuffix
  have hrun := ((exec_run Demo.sweptByMonitor).of_suffix hsuffix).tail
  refine ⟨hchecks, ?_, hrecovers, hsweeps, fun w hw n hn _ => hfences e past hsuffix w hw n hn⟩
  rintro a ha n hn ⟨tid, hlive, hdeclared⟩
  exact hrevives e past hsuffix a ha n hn tid (lt_admissions_of_live hrun hlive) hdeclared

/-- Recovery declares it STALE instead. -/
def Demo.sweptByRecovery : List (Action (fabric Demo.settings)) :=
  Demo.created ++ [.move (Move.tick 7000)] ++ Demo.alone 2 (.recovery Demo.operator)

/-- It keeps the workload. -/
theorem stale_keeps_workload : Run (exec Demo.sweptByRecovery).trace ∧
    ¬ EveryStep LosesAuthority (exec Demo.sweptByRecovery).trace := by
  refine ⟨exec_run _, fun hloses => ?_⟩
  obtain ⟨e, past, hsuffix, hanswer, hdeclared, w, hw, hactive⟩ :
      ∃ e past, e :: past <:+ (exec Demo.sweptByRecovery).trace ∧ answers e = some 2 ∧
        "n1" ∈ declared (deeds 2 past) ∧
          ∃ w ∈ (stateOf past).store.workloads.rows, w.activeNode = some "n1" :=
    exists_of_not_everyStep (by decide +kernel)
  have hrun := ((exec_run Demo.sweptByRecovery).of_suffix hsuffix).tail
  obtain ⟨d, hd, hn⟩ := List.mem_flatMap.mp hdeclared
  obtain ⟨later, older, hsplit⟩ := List.append_of_mem hd
  obtain ⟨input, t', hevent, -, hreply⟩ := exists_event_of_deed hrun ⟨later, hsplit.symm⟩
  have hdeed : deedOf (.performed 2 d.op input (stateOf t') : Event (fabric Demo.settings)) =
      some (2, d) := by
    obtain ⟨op, reply⟩ := d
    exact congrArg (fun reply => some (2, (⟨op, reply⟩ : FabricDeed))) hreply.symm
  exact ((hloses e past hsuffix).1 2 hanswer _ _ d hevent hdeed "n1" hn).1 w hw hactive

end Runs

end CheckpointFabric.Staleness
