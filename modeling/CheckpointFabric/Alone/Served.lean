import CheckpointFabric.Alone.Restore

/-!
# Requests that are served

A request that runs alone, and whose calls of nodes all succeed: every node that it asks
answers, and has done what it was asked for. Of such a request more is known than how it may
end, as its parts return a value.

## Main definitions

* `Op.succeeds` — which replies are a success
* `Snapshot.Served` — an operation that runs alone and succeeds
* `Snapshot.Unwritten` — nothing was written meanwhile

## Main results

* `delivers_db`, `delivers_read` — calls of the store
* `delivers_callNode`, `delivers_firstActive` — calls of nodes that are ACTIVE
-/

set_option autoImplicit false

namespace CheckpointFabric

open Concurrency Fabric Coordinator

/-- The node has done what it was asked for. -/
def NodeRequest.done : (request : NodeRequest) → request.Result → Bool
  | .capture _, (result : NodeCaptureResult) => result.ok
  | .promote _, (result : NodePromoteResult) => result.ok
  | .resume _, (result : NodeResumeResult) => result.ok
  | .restore _, (result : NodeRestoreResult) => result.ok
  | .verify _, (result : NodeVerifyResult) => result.ok
  | .cleanup _, (result : NodeCleanupResult) => result.error.isNone
  | .replicate _, (result : NodeReplicateResult) => result.ok
  | .probe _, _ | .allowFetch _, _ => true

/-- A call of a node succeeds, and no failpoint fails. -/
def Op.succeeds : (op : Op) → FabricResult op.Reply → Bool
  | .call _ request, .ok result => request.done result
  | .call _ _, .error _ => false
  | .fire _, reply => reply.toOption.isSome
  | _, _ => true

namespace Snapshot

/-- An operation of a request that runs alone, and whose calls of nodes succeed. -/
def Served (op : Op) (s : Snapshot) (reply : FabricResult op.Reply) (s' : Snapshot) : Prop :=
  Step op s reply s' ∧ op.succeeds reply

/-- Nothing was written, and identities may have been drawn. -/
structure Unwritten (s s' : Snapshot) : Prop where
  store : s'.store = s.store
  issued : s.issued ≤ s'.issued

theorem Unwritten.refl (s : Snapshot) : Unwritten s s := ⟨rfl, Nat.le_refl _⟩

theorem Unwritten.trans {s₁ s₂ s₃ : Snapshot} (h : Unwritten s₁ s₂) (h' : Unwritten s₂ s₃) :
    Unwritten s₁ s₃ :=
  ⟨h'.store.trans h.store, h.issued.trans h'.issued⟩

end Snapshot

open Snapshot

/-- The node is ACTIVE. -/
def Store.Active (s : Store) (node : NodeId) : Prop :=
  ∃ n ∈ s.nodeList, n.id = node ∧ n.status = .active

instance (s : Store) (node : NodeId) : Decidable (s.Active node) := by
  unfold Store.Active
  infer_instance

section Parts

variable {s : Snapshot} {α : Type} {node : NodeId}

/-- A call of the store that always succeeds. -/
theorem delivers_db {op : StoreOp} {post : op.Reply → Snapshot → Prop} {reply : ℕ → op.Reply}
    {store : ℕ → Store} (hrun : ∀ now, op.run now s.store = .ok (reply now, store now))
    (h : ∀ now n, s.issued ≤ n → post (reply now) ⟨store now, now, n⟩) :
    Delivers Served post (db op) s := by
  have hends : Delivers Step post (db op) s :=
    ends_db_ok hrun fun now n _ hissued => ⟨_, rfl, h now n hissued⟩
  exact hends.of_step fun _ _ _ _ hserved => hserved.1

theorem delivers_db_bind {β : Type} {op : StoreOp} {post : β → Snapshot → Prop}
    {f : op.Reply → Fabric β} {reply : ℕ → op.Reply} {store : ℕ → Store}
    (hrun : ∀ now, op.run now s.store = .ok (reply now, store now))
    (h : ∀ now n, s.issued ≤ n → Delivers Served post (f (reply now)) ⟨store now, now, n⟩) :
    Delivers Served post (db op >>= f) s := by
  have hop : Delivers Served (fun answer s' => ∃ now n, s.issued ≤ n ∧ answer = reply now ∧
      s' = ⟨store now, now, n⟩) (db op) s :=
    delivers_db hrun fun now n hissued => ⟨now, n, hissued, rfl, rfl⟩
  refine hop.bind fun answer s' hanswer => ?_
  obtain ⟨now, n, hissued, rfl, rfl⟩ := hanswer
  exact h now n hissued

/-- A call of the store that reads. -/
theorem delivers_read {op : StoreOp} {reply : op.Reply}
    (hrun : ∀ now, op.run now s.store = .ok (reply, s.store)) :
    Delivers Served (fun answer s' => answer = reply ∧ Unwritten s s') (db op) s :=
  delivers_db hrun fun _ _ hissued => ⟨rfl, rfl, hissued⟩

theorem delivers_nodeIsActive :
    Delivers Served (fun active s' => (active = true ↔ s.store.Active node) ∧ Unwritten s s')
      (nodeIsActive node) s := by
  refine (delivers_read fun _ => rfl).bind fun nodes s₁ ⟨hnodes, h₁⟩ => delivers_pure ⟨?_, h₁⟩
  rw [hnodes, List.any_eq_true]
  simp only [Bool.and_eq_true, beq_iff_eq]
  rfl

theorem delivers_nodeAddr (h : s.store.Active node) :
    Delivers Served (fun _ s' => Unwritten s s') (nodeAddr node) s := by
  refine (delivers_read fun _ => rfl).bind fun nodes s₁ ⟨hnodes, h₁⟩ => ?_
  split
  · exact delivers_pure h₁
  · rename_i hnone
    obtain ⟨n, hn, hid, -⟩ := h
    rw [hnodes] at hnone
    exact absurd (List.find?_eq_none.mp hnone n hn) (by simp [hid])

/-- A call of an active node. -/
theorem delivers_callNode {request : NodeRequest} (h : s.store.Active node) :
    Delivers Served (fun result s' => request.done result ∧ Unwritten s s')
      (callNode node request) s := by
  refine (delivers_nodeAddr h).bind fun _ s₁ h₁ => ?_
  rintro reply s₂ ⟨hstep, hsucceeds⟩
  cases reply with
  | ok result =>
    exact ⟨result, rfl, hsucceeds, h₁.trans ⟨hstep.store_of_quiet trivial, hstep.issued⟩⟩
  | error e => exact absurd hsucceeds Bool.false_ne_true

theorem delivers_random :
    Delivers Served (fun id s' => s.issued ≤ id ∧ Unwritten s s') random s := by
  rintro reply s' ⟨⟨-, hissued, rfl, -, hstore⟩, -⟩
  exact ⟨_, rfl, Nat.le_refl _, hstore, hissued⟩

theorem delivers_fire {failpoint : String} :
    Delivers Served (fun _ s' => Unwritten s s') (fire failpoint) s := by
  rintro reply s' ⟨hstep, hsucceeds⟩
  cases reply with
  | ok => exact ⟨(), rfl, hstep.store_of_quiet trivial, hstep.issued⟩
  | error e => exact absurd hsucceeds Bool.false_ne_true

/-- The first active node of the locations. -/
theorem delivers_firstActive {locations : List DurableLocation}
    (h : ∃ l ∈ locations, s.store.Active l.node) :
    Delivers Served (fun source s' => ∃ n, source = some n ∧ s.store.Active n ∧ Unwritten s s')
      (firstActive locations) s := by
  induction locations generalizing s with
  | nil =>
    obtain ⟨l, hl, -⟩ := h
    exact absurd hl List.not_mem_nil
  | cons l locations ih =>
    refine delivers_nodeIsActive.attempt.bind fun _ s₁ ⟨active, hanswer, hactive, h₁⟩ => ?_
    subst hanswer
    cases active with
    | true => exact delivers_pure ⟨l.node, rfl, hactive.mp rfl, h₁⟩
    | false =>
      obtain ⟨l', hl', hlive⟩ := h
      have hrest : l' ∈ locations := by
        refine (List.mem_cons.mp hl').resolve_left fun heq => ?_
        exact absurd (hactive.mpr (heq ▸ hlive)) Bool.false_ne_true
      rw [← h₁.store] at hlive
      refine (ih ⟨l', hrest, hlive⟩).weaken fun source s₂ ⟨n, hn, hsource, h₂⟩ => ?_
      exact ⟨n, hn, h₁.store ▸ hsource, h₁.trans h₂⟩

end Parts

end CheckpointFabric
