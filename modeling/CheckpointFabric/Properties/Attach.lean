import CheckpointFabric.Steps.Journal

/-!
# How long an attach holds

A node that attaches a workload holds it under a token until something happens that may take it
away: an epoch bump, its own detach, another attach, a restore. All of these are single
transactions, but a fence is two. It bumps the epoch, which releases the workload, and then
releases it once more from the node that it has read at the start; a node that attaches in
between, under the new epoch, loses the workload to a fence that was over.

## Main definitions

* `Entitled` — the event may take the workload from the node
* `AttachStands` — the node has attached the workload, and nothing was entitled to revoke that
* `FenceReleases` — the second half of a fence takes back an attach that stands

## Main results

* `attach_durable_iff` — attaches hold just while that does not happen
-/

set_option autoImplicit false

namespace CheckpointFabric

open Concurrency Coordinator System

variable {settings : Settings} {t : List (Event (fabric settings))}
  {e : Event (fabric settings)} {tid : ℕ} {id : Id} {node : NodeId} {token : FenceToken}
  {r : Workload}

section Definitions

/-- The workload, the node and the token of an attach that the event accepts. -/
def attachOf : Event (fabric settings) → Option (Id × NodeId × FenceToken)
  | .performed _ (.claim id node fenceEpoch) input before =>
    match (World.handle settings.codecs (.claim id node fenceEpoch) input before).1 with
    | .ok token => some (id, node, token)
    | .error _ => none
  | _ => none

/-- The thread serves the detach of a workload from a node. -/
def Detaches (past : List (Event (fabric settings))) (tid : ℕ) (id : Id) (node : NodeId) : Prop :=
  match requestOf tid past with
  | some (.workloadDetach id' node') => id' = id ∧ node' = node
  | _ => False

/-- The thread serves a fence of the workload. -/
def Fencing (past : List (Event (fabric settings))) (tid : ℕ) (id : Id) : Prop :=
  match requestOf tid past with
  | some (.workloadFence id' _) => id' = id
  | _ => False

instance (past : List (Event (fabric settings))) (tid : ℕ) (id : Id) (node : NodeId) :
    Decidable (Detaches past tid id node) := by
  unfold Detaches
  split <;> infer_instance

instance (past : List (Event (fabric settings))) (tid : ℕ) (id : Id) :
    Decidable (Fencing past tid id) := by
  unfold Fencing
  split <;> infer_instance

/-- The event may take the workload from the node: it bumps the epoch, detaches the node, accepts
an attach, or commits a restore. -/
def Entitled (e : Event (fabric settings)) (past : List (Event (fabric settings))) (id : Id)
    (node : NodeId) : Prop :=
  (∃ a ∈ attachOf e, a.1 = id) ∨
    match callOf e with
    | some (_, .workloadBumpFence id' _) => id' = id
    | some (tid, .workloadRelease id' _) => id' = id ∧ Detaches past tid id node
    | some (_, .restoreCommit ckpt _ _ _ _ _) =>
      ((stateOf past).checkpoint ckpt).map (·.workloadId) = some id
    | _ => False

instance (e : Event (fabric settings)) (past : List (Event (fabric settings))) (id : Id)
    (node : NodeId) : Decidable (Entitled e past id node) := by
  unfold Entitled
  have : Decidable (match callOf e with
    | some (_, .workloadBumpFence id' _) => id' = id
    | some (tid, .workloadRelease id' _) => id' = id ∧ Detaches past tid id node
    | some (_, .restoreCommit ckpt _ _ _ _ _) =>
      ((stateOf past).checkpoint ckpt).map (·.workloadId) = some id
    | _ => False) := by
    split <;> infer_instance
  infer_instance

/-- The node has attached the workload under the token, and nothing has happened since that was
entitled to revoke it. -/
def AttachStands (id : Id) (node : NodeId) (token : FenceToken) :
    List (Event (fabric settings)) → Prop
  | [] => False
  | e :: past =>
    attachOf e = some (id, node, token) ∨
      AttachStands id node token past ∧ ¬ Entitled e past id node

instance decidableAttachStands (id : Id) (node : NodeId) (token : FenceToken) :
    ∀ t : List (Event (fabric settings)), Decidable (AttachStands id node token t)
  | [] => isFalse not_false
  | e :: past =>
    have := decidableAttachStands id node token past
    inferInstanceAs (Decidable (attachOf e = some (id, node, token) ∨
      AttachStands id node token past ∧ ¬ Entitled e past id node))

instance decidableExistsAttachStands (id : Id) (node : NodeId) :
    ∀ t : List (Event (fabric settings)), Decidable (∃ token, AttachStands id node token t)
  | [] => isFalse (by rintro ⟨_, ⟨⟩⟩)
  | e :: past =>
    have := decidableExistsAttachStands id node past
    decidable_of_iff ((∃ a ∈ attachOf e, a.1 = id ∧ a.2.1 = node) ∨
      (∃ token, AttachStands id node token past) ∧ ¬ Entitled e past id node) (by
        constructor
        · rintro (⟨⟨_, _, token⟩, hattach, rfl, rfl⟩ | ⟨⟨token, hstands⟩, hentitled⟩)
          · exact ⟨token, .inl hattach⟩
          · exact ⟨token, .inr ⟨hstands, hentitled⟩⟩
        · rintro ⟨token, hattach | ⟨hstands, hentitled⟩⟩
          · exact .inl ⟨_, hattach, rfl, rfl⟩
          · exact .inr ⟨⟨token, hstands⟩, hentitled⟩)

/-- The release of a fence takes the workload from a node whose attach stands. -/
def FenceReleases (e : Event (fabric settings)) (past : List (Event (fabric settings))) : Prop :=
  match callOf e with
  | some (tid, .workloadRelease id node) =>
    Fencing past tid id ∧ ∃ token, AttachStands id node token past
  | _ => False

instance (e : Event (fabric settings)) (past : List (Event (fabric settings))) :
    Decidable (FenceReleases e past) := by
  unfold FenceReleases
  split <;> infer_instance

/-- The workload is the node's, under the token. -/
def World.HeldUnder (w : World) (id : Id) (node : NodeId) (token : FenceToken) : Prop :=
  (w.workload id).map (fun r => (r.activeNode, r.fenceToken)) = some (some node, some token)

instance (w : World) (id : Id) (node : NodeId) (token : FenceToken) :
    Decidable (w.HeldUnder id node token) := by
  unfold World.HeldUnder
  infer_instance

end Definitions

section Steps

/-- An attach that is accepted gives the node the workload. -/
theorem heldUnder_of_attach (h : Run (e :: t)) (hattach : attachOf e = some (id, node, token)) :
    (after e).HeldUnder id node token := by
  unfold attachOf at hattach
  split at hattach
  · rename_i tid id' node' fenceEpoch input before
    obtain rfl := h.before_eq
    unfold World.HeldUnder after
    generalize stateOf t = w at hattach ⊢
    simp only [World.handle] at hattach ⊢
    cases hfault : input.fault with
    | some err => exact absurd hattach (by simp [hfault])
    | none =>
      cases hclaim : w.store.workloadClaim id' node' w.issued fenceEpoch with
      | error err => exact absurd hattach (by simp [hfault, hclaim])
      | ok s =>
        simp only [hfault, hclaim, Option.some.injEq, Prod.mk.injEq] at hattach ⊢
        obtain ⟨rfl, rfl, rfl⟩ := hattach
        obtain ⟨r, hr, -, -, rfl⟩ := Store.workloadClaim_ok hclaim
        rw [World.workload]
        dsimp only
        rw [Table.get_modify_self, hr]
        rfl
  · exact absurd hattach (by simp)

/-- An event calls the store, has a node attach, or leaves the store. -/
theorem store_cases (h : Run (e :: t)) :
    (∃ tid op reply, Calls e t tid op reply) ∨ (∃ a, attachOf e = some a) ∨
      (after e).store = (stateOf t).store := by
  cases h with
  | @perform _ tid request op rest input =>
    cases hreply : (World.handle settings.codecs op input (stateOf t)).1 with
    | error err => exact .inr (.inr (World.store_handle_of_error hreply))
    | ok reply =>
      cases op with
      | db op => exact .inl ⟨tid, op, reply, input, rfl, hreply⟩
      | claim id node fenceEpoch =>
        refine .inr (.inl ⟨(id, node, reply), ?_⟩)
        rw [attachOf, hreply]
      | call node request => exact .inr (.inr (World.store_handle_call node request input))
      | _ => exact .inr (.inr rfl)
  | move m => exact .inr (.inr (World.store_move m))
  | _ => exact .inr (.inr rfl)

theorem exists_claim_of_attach (h : Run (e :: t)) {a : Id × NodeId × FenceToken}
    (hattach : attachOf e = some a) :
    ∃ tid node fenceEpoch input, e = .performed tid (.claim a.1 node fenceEpoch) input (stateOf t) := by
  unfold attachOf at hattach
  split at hattach
  · rename_i tid id node fenceEpoch input before
    obtain rfl := h.before_eq
    split at hattach
    · obtain rfl := Option.some.inj hattach
      exact ⟨tid, node, fenceEpoch, input, rfl⟩
    · exact absurd hattach (by simp)
  · exact absurd hattach (by simp)

/-- Only a fence and a detach release a workload. -/
theorem request_of_release {request : Request} {ds : List FabricDeed}
    (h : request.Permits settings ds (.db (.workloadRelease id node))) :
    (∃ ctx, request = .workloadFence id ctx) ∨ request = .workloadDetach id node := by
  cases request with
  | workloadFence id' ctx =>
    obtain hreads | ⟨epoch, hop⟩ | ⟨node', hop⟩ := h
    · exact absurd hreads not_false
    · exact absurd hop (by simp)
    · obtain ⟨rfl, rfl⟩ : id = id' ∧ node = node' := by simpa using hop
      exact .inl ⟨ctx, rfl⟩
  | workloadDetach id' node' =>
    obtain ⟨rfl, rfl⟩ : id = id' ∧ node = node' := by simpa [Request.Permits] using h
    exact .inr rfl
  | capture =>
    obtain hreads | ⟨run, hdoes⟩ := h
    · exact absurd hreads not_false
    · exact absurd hdoes.performs (by rintro (h | h) <;> exact h)
  | restore =>
    obtain hreads | ⟨run, hdoes⟩ := h
    · exact absurd hreads not_false
    · exact absurd hdoes.performs (by rintro (h | h) <;> exact h)
  | rollback =>
    obtain hreads | ⟨run, hdoes⟩ := h
    · exact absurd hreads not_false
    · exact absurd hdoes.performs (by rintro (h | h) <;> exact h)
  | migrate =>
    obtain ⟨_, hreads | ⟨run, hdoes⟩⟩ | ⟨_, _, hreads | ⟨run, hdoes⟩⟩ := h
    · exact absurd hreads not_false
    · exact absurd hdoes.performs (by rintro (h | h) <;> exact h)
    · exact absurd hreads not_false
    · exact absurd hdoes.performs (by rintro (h | h) <;> exact h)
  | recovery => exact absurd h (by rintro (h | h) <;> exact h)
  | _ => simp [Request.Permits, Forks, Rebinds, MonitorWrites, Op.Reads, StoreOp.Reads] at h

/-- A workload that is released has been fenced, or detached from the node. -/
theorem fencing_or_detaches (h : Run (e :: t))
    (hcalls : Calls e t tid (.workloadRelease id node) ()) :
    Fencing t tid id ∨ Detaches t tid id node := by
  obtain ⟨input, rfl, -⟩ := hcalls
  obtain ⟨request, hrequest, hpermits⟩ := permitted h
  rcases request_of_release hpermits with ⟨ctx, rfl⟩ | rfl
  · refine .inl ?_
    rw [Fencing, hrequest]
  · refine .inr ?_
    rw [Detaches, hrequest]
    exact ⟨rfl, rfl⟩

/-- An event that is not entitled to revoke an attach leaves it, unless it is a fence's release. -/
theorem heldUnder_step (h : Run (e :: t)) (hholds : (stateOf t).HeldUnder id node token)
    (hentitled : ¬ Entitled e t id node)
    (hfence : ∀ tid, Calls e t tid (.workloadRelease id node) () → ¬ Fencing t tid id) :
    (after e).HeldUnder id node token := by
  obtain ⟨r, hr, hclaim⟩ := Option.map_eq_some_iff.mp hholds
  obtain ⟨hactive, htoken⟩ := Prod.mk.inj hclaim
  rcases store_cases h with ⟨tid, op, reply, hcalls⟩ | ⟨a, hattach⟩ | hstore
  · have hcall := hcalls.callOf_eq
    have hstep : WorkloadStep (stateOf t) id (.db op) ((stateOf t).workload id)
        ((after e).workload id) := by
      obtain ⟨input, rfl, -⟩ := hcalls
      exact World.workloadStep settings.codecs (.db op) input (stateOf t) id
    rw [hr] at hstep
    unfold World.HeldUnder
    generalize (after e).workload id = row at hstep ⊢
    -- What a step can do to the row; a claim by somebody else and a release are entitled to end it.
    cases hstep with
    | kept => exact congrArg some hclaim
    | fenced => exact absurd (.inr (by rw [hcall])) hentitled
    | @released _ node' hnode =>
      obtain rfl := Option.some.inj (hnode.symm.trans hactive)
      -- Only fencing and detaching release a claim.
      rcases fencing_or_detaches h hcalls with hfencing | hdetaches
      · exact absurd hfencing (hfence tid hcalls)
      · refine absurd (.inr ?_) hentitled
        rw [hcall]
        exact ⟨rfl, hdetaches⟩
    | recorded hrecorded =>
      obtain ⟨generation, class_, rfl⟩ := hrecorded
      exact congrArg some hclaim
    | restored hckpt howner =>
      refine absurd (.inr ?_) hentitled
      rw [hcall]
      exact (congrArg _ hckpt).trans (congrArg some howner)
  · obtain ⟨tid, node', fenceEpoch, input, rfl⟩ := exists_claim_of_attach h hattach
    have hstep := World.workloadStep settings.codecs (.claim a.1 node' fenceEpoch) input
      (stateOf t) id
    rw [hr] at hstep
    unfold World.HeldUnder
    dsimp only [after]
    generalize (World.handle settings.codecs (.claim a.1 node' fenceEpoch) input
      (stateOf t)).2.workload id = row at hstep ⊢
    cases hstep with
    | kept => exact congrArg some hclaim
    | claimed => exact absurd (.inl ⟨_, hattach, rfl⟩) hentitled
  · rw [World.HeldUnder, World.workload, hstore]
    exact hholds

theorem exists_of_fenceReleases (h : Run (e :: t)) (hreleases : FenceReleases e t) :
    ∃ tid id node token, Calls e t tid (.workloadRelease id node) () ∧ Fencing t tid id ∧
      AttachStands id node token t := by
  unfold FenceReleases at hreleases
  split at hreleases
  · rename_i tid id node hcall
    obtain ⟨hfencing, token, hstands⟩ := hreleases
    obtain ⟨reply, hcalls⟩ := exists_calls_of_callOf h hcall
    exact ⟨tid, id, node, token, hcalls, hfencing, hstands⟩
  · exact absurd hreleases not_false

/-- A fence's release is not entitled to revoke an attach. -/
theorem not_entitled_of_fencing (hcalls : Calls e t tid (.workloadRelease id node) ())
    (hfencing : Fencing t tid id) : ¬ Entitled e t id node := by
  rintro (⟨a, hattach, -⟩ | hentitled)
  · obtain ⟨input, rfl, -⟩ := hcalls
    exact absurd hattach (by simp [attachOf])
  · rw [hcalls.callOf_eq] at hentitled
    have hdetaches : Detaches t tid id node := hentitled.2
    unfold Fencing at hfencing
    unfold Detaches at hdetaches
    cases hrequest : requestOf tid t with
    | none =>
      rw [hrequest] at hfencing
      exact hfencing
    | some request =>
      rw [hrequest] at hfencing hdetaches
      cases request with
      | workloadDetach id' node' => exact hfencing
      | _ => exact hdetaches

/-- A release takes the workload from the node. -/
theorem not_heldUnder_of_release (hcalls : Calls e t tid (.workloadRelease id node) ()) :
    ¬ (after e).HeldUnder id node token := by
  have hstore := (StoreOp.snd_of_ok hcalls.run).symm
  dsimp only at hstore
  rw [World.HeldUnder, World.workload, hstore]
  dsimp only [Store.workloadRelease]
  rw [Table.get_modify_self]
  cases (stateOf t).store.workloads.get id with
  | none => simp
  | some r =>
    rw [Option.map_some, Option.map_some]
    split
    · simp
    · rename_i hnode
      exact fun h => hnode (Prod.mk.inj (Option.some.inj h)).1

end Steps

/-- **Durable attaches.** In every run, attaches hold until an epoch bump, the node's own detach,
a later attach or a restore, exactly when no fence's release takes one back. -/
theorem attach_durable_iff (h : Run t) :
    (∀ t' : List (Event (fabric settings)), t' <:+ t → ∀ id node token,
      AttachStands id node token t' → (stateOf t').HeldUnder id node token) ↔
    EveryStep (fun e past => ¬ FenceReleases e past) t := by
  constructor
  · intro hdurable e past hpast hreleases
    obtain ⟨tid, id, node, token, hcalls, hfencing, hstands⟩ :=
      exists_of_fenceReleases (h.of_suffix hpast) hreleases
    refine not_heldUnder_of_release hcalls (hdurable (e :: past) hpast id node token ?_)
    exact .inr ⟨hstands, not_entitled_of_fencing hcalls hfencing⟩
  · intro hsteps t' hsuffix
    have hrun := h.of_suffix hsuffix
    replace hsteps := hsteps.of_suffix hsuffix
    clear hsuffix
    -- along the run, since the attach may be anywhere in it
    induction t' with
    | nil => exact fun id node token hstands => absurd hstands not_false
    | cons e past ih =>
      obtain ⟨hstep, hsteps⟩ := everyStep_cons.mp hsteps
      rintro id node token (hattach | ⟨hstands, hentitled⟩)
      · exact heldUnder_of_attach hrun hattach
      · refine heldUnder_step hrun (ih hrun.tail hsteps id node token hstands) hentitled ?_
        intro tid hcalls hfencing
        refine hstep ?_
        rw [FenceReleases, hcalls.callOf_eq]
        exact ⟨hfencing, token, hstands⟩

/-- The workload is fenced, and then its node attaches it again under the new epoch. -/
def Demo.attachedAfter : List (Action (fabric Demo.settings)) :=
  Demo.created ++ Demo.alone 2 (.workloadFence 7 Demo.operator) ++
    Demo.alone 3 (.workloadAttach 7 "n1" "boot" 1 [])

/-- The attach holds. -/
theorem attach_durable_attached : ∃ t : List (Event (fabric Demo.settings)),
    Run t ∧ ∃ token, AttachStands 7 "n1" token t ∧ (stateOf t).HeldUnder 7 "n1" token := by
  obtain ⟨t, hrun, hstands, hnone⟩ : ∃ t : List (Event (fabric Demo.settings)), Run t ∧
      (∃ token < 20, AttachStands 7 "n1" token t) ∧
        EveryStep (fun e past => ¬ FenceReleases e past) t :=
    ⟨_, exec_run Demo.attachedAfter, by decide +kernel, by decide +kernel⟩
  obtain ⟨token, -, hstands⟩ := hstands
  have hdurable := (attach_durable_iff hrun).mpr hnone
  exact ⟨t, hrun, token, hstands, hdurable t (List.suffix_refl t) 7 "n1" token hstands⟩

/-- The fence has bumped the epoch when the node attaches, and then releases the workload from
it. -/
def Demo.attachedWithin : List (Action (fabric Demo.settings)) :=
  Demo.created ++ [.accept (.workloadFence 7 Demo.operator)] ++
    List.replicate 2 (.advance 2 ({} : Input)) ++
    Demo.alone 3 (.workloadAttach 7 "n1" "boot" 1 []) ++ [.advance 2 ({} : Input)]

/-- The attach stands, and nobody holds the workload. -/
theorem attach_revoked :
    Run (exec Demo.attachedWithin).trace ∧
      ∃ token < 20, AttachStands 7 "n1" token (exec Demo.attachedWithin).trace ∧
        ¬ (stateOf (exec Demo.attachedWithin).trace).HeldUnder 7 "n1" token :=
  ⟨exec_run Demo.attachedWithin, by decide +kernel⟩

end CheckpointFabric
