import CheckpointFabric.Concurrency.Lease
import CheckpointFabric.Footprints.Actors
import CheckpointFabric.Steps.Runs

/-!
# Fencing

The authority over a workload is a lease: the active node holds it under the fence
token, in the execution epoch. Every operation of the coordinator changes it as
leases change, so that an authority that was revoked is never accepted again.

## Main definitions

* `Workload.lease` — the lease that a workload row records
* `WellFenced` — token and active node go together, and the token is of this epoch

## Main results

* `wellFenced_of_run` — every row of every reachable store is well fenced
* `lease_step_of_run` — each event of a run takes a lease step
* `fencing` — rows are well fenced, epochs grow, and revoked authority stays revoked
-/

set_option autoImplicit false

namespace CheckpointFabric

open Concurrency Coordinator System

/-- The lease that a workload row records. -/
def Workload.lease (w : Workload) : Lease NodeId where
  epoch := w.executionEpoch
  holder :=
    match w.activeNode, w.fenceToken with
    | some node, some token => some (node, token)
    | _, _ => none

theorem Workload.lease_grants_iff {w : Workload} {node : NodeId} {token : FenceToken} {epoch : ℕ} :
    w.lease.Grants node token epoch ↔
      w.executionEpoch = epoch ∧ w.activeNode = some node ∧ w.fenceToken = some token := by
  unfold lease Lease.Grants
  cases w.activeNode <;> cases w.fenceToken <;> simp

/-- The check that a heartbeat makes is whether the lease is the node's. -/
theorem heartbeatAccepts_iff {w : Workload} {node : NodeId} {hb : HeartbeatWorkload} :
    heartbeatAccepts node hb w = true ↔
      w.lease.Grants node hb.fenceToken hb.executionEpoch := by
  rw [Workload.lease_grants_iff, ← Workload.validateFence_eq_ok_iff]
  unfold heartbeatAccepts
  cases w.validateFence node hb.fenceToken with
  | error e => simp [Except.toOption]
  | ok u =>
    simp only [Except.toOption, Option.isSome_some, Bool.and_true, beq_iff_eq, and_true]
    exact eq_comm

/-- Token and active node go together, and the token is of the current epoch. -/
structure WellFenced (w : Workload) : Prop where
  claimed : w.fenceToken.isSome ↔ w.activeNode.isSome
  current : w.fenceToken.isSome → w.fenceEpoch = w.executionEpoch

section Steps

variable {settings : Settings} {w : World} {id : Id} {op : Op} {row row' : Option Workload}

/-- The rows that the requests create are well fenced. -/
theorem WellFenced.of_created {spec : WorkloadSpec} {claimNode : Option NodeId} {w : Workload}
    (h : Created settings spec claimNode w) : WellFenced w := by
  obtain ⟨id, now, token, rfl⟩ := h.row
  exact ⟨h.claimed, fun _ => rfl⟩

/-- The rows that an operation inserts are well fenced. -/
def InsertsWellFenced : Op → Prop
  | .db (.workloadInsert w) | .db (.workloadInsertFork w _ _ _) => WellFenced w
  | _ => True

theorem WellFenced.step (hstep : WorkloadStep w id op row row') (hop : InsertsWellFenced op)
    (h : ∀ r, row = some r → WellFenced r) : ∀ r, row' = some r → WellFenced r := by
  intro r' hr'
  cases hstep with
  | kept => exact h r' hr'
  | inserted => exact Option.some.inj hr' ▸ hop
  | forked => exact Option.some.inj hr' ▸ hop
  | fenced => exact Option.some.inj hr' ▸ ⟨by simp, by simp⟩
  | claimed => exact Option.some.inj hr' ▸ ⟨by simp, fun _ => rfl⟩
  | released => exact Option.some.inj hr' ▸ ⟨by simp, by simp⟩
  | recorded hrecorded =>
    obtain ⟨generation, class_, rfl⟩ := hrecorded
    have hold := h _ rfl
    exact Option.some.inj hr' ▸ ⟨hold.claimed, hold.current⟩
  | restored => exact Option.some.inj hr' ▸ ⟨by simp, fun _ => rfl⟩

/-- A row is never deleted, and its lease changes as leases do. -/
theorem lease_step {r : Workload} (hstep : WorkloadStep w id op (some r) row') :
    ∃ r', row' = some r' ∧ Lease.Step w.issued r.lease r'.lease := by
  cases hstep with
  | kept => exact ⟨r, rfl, .keep⟩
  | fenced => exact ⟨_, rfl, .advance (Nat.lt_succ_self _)⟩
  | claimed => exact ⟨_, rfl, .grant _ (Nat.le_refl _)⟩
  | released => exact ⟨_, rfl, .release⟩
  | recorded hrecorded =>
    obtain ⟨generation, class_, rfl⟩ := hrecorded
    exact ⟨_, rfl, .keep⟩
  | restored => exact ⟨_, rfl, .advance (by simp only [Workload.lease]; omega)⟩

/-- A token that a row has after an operation was there before, or is used up now. -/
theorem token_lt_issued_handle {codecs : Codecs} {input : Input} {r' : Workload}
    {token : FenceToken}
    (h : ∀ r, w.workload id = some r → r.fenceToken = some token → token < w.issued)
    (hr' : (World.handle codecs op input w).2.workload id = some r')
    (htoken : r'.fenceToken = some token) :
    token < (World.handle codecs op input w).2.issued := by
  have hkept : ∀ r, w.workload id = some r → r.fenceToken = some token →
      token < (World.handle codecs op input w).2.issued := fun r hr ht =>
    Nat.lt_of_lt_of_le (h r hr ht) (World.issued_le_issued_handle op input w)
  have hstep := World.workloadStep codecs op input w id
  rw [hr'] at hstep
  generalize hrow : w.workload id = row at hstep
  cases hstep with
  | kept => exact hkept r' hrow htoken
  | inserted => exact World.lt_issued_of_storedToken (.workloadInsert r') htoken input w
  | forked => exact World.lt_issued_of_storedToken (.workloadInsertFork r' _ _ _) htoken input w
  | fenced => simp at htoken
  | released => simp at htoken
  | recorded hrecorded =>
    obtain ⟨generation, class_, rfl⟩ := hrecorded
    exact hkept _ hrow htoken
  | restored =>
    exact World.lt_issued_of_storedToken (.restoreCommit _ _ _ _ _ _) htoken input w
  | @claimed r node _ =>
    rcases World.claim_cases codecs id node r.executionEpoch input w with heq | hissued
    · rw [heq] at hr'
      exact hkept _ hr' htoken
    · rw [hissued]
      obtain rfl := Option.some.inj htoken
      exact Nat.lt_succ_self _

end Steps

section Runs

variable {settings : Settings} {t : List (Event (fabric settings))}

/-- Whoever inserts a row inserts a well fenced one. -/
theorem insertsWellFenced_of_permits {request : Request} {ds : List FabricDeed} {op : Op}
    (h : request.Permits settings ds op) : InsertsWellFenced op := by
  cases op with
  | db op =>
    cases op with
    | workloadInsert w =>
      obtain ⟨spec, claimNode, hcreated⟩ := created_of_writer (writer_of_permits h id)
      exact .of_created hcreated
    | workloadInsertFork child parent checkpoint detail =>
      obtain ⟨spec, id, now, ancestor, generation, rfl⟩ := forked_of_writer (writer_of_permits h id)
      exact ⟨by simp [newWorkload], by simp [newWorkload]⟩
    | _ => trivial
  | _ => trivial

/-- What is kept of all workload rows: they are well fenced, and their tokens used up. -/
def FencedRows (w : World) : Prop :=
  ∀ id r, w.workload id = some r →
    WellFenced r ∧ ∀ token, r.fenceToken = some token → token < w.issued

theorem fencedRows_of_run (h : Run t) : FencedRows (stateOf t) := by
  refine h.invariant_of_obeys obeys_serve ?_ (fun _ _ => id) ?_ (fun _ => id) ?_
  · exact fun id r hr => nomatch hr
  · intro request ds op input w hpermits hrows id r' hr'
    refine ⟨?_, fun token htoken => ?_⟩
    · exact WellFenced.step (World.workloadStep settings.codecs op input w id)
        (insertsWellFenced_of_permits hpermits) (fun r hr => (hrows id r hr).1) r' hr'
    · exact token_lt_issued_handle (fun r hr => (hrows id r hr).2 token) hr' htoken
  · intro m w hrows id r hr
    simp only [World.workload_move] at hr
    exact ⟨(hrows id r hr).1, by simpa using (hrows id r hr).2⟩

/-- Every row of every reachable store is well fenced. -/
theorem wellFenced_of_run (h : Run t) {id : Id} {r : Workload}
    (hr : (stateOf t).workload id = some r) : WellFenced r :=
  (fencedRows_of_run h id r hr).1

/-- An event leaves every row in place and takes a step of its lease, and used tokens stay
used. -/
theorem lease_step_of_run {e : Event (fabric settings)} (h : Run (e :: t)) {id : Id}
    {r : Workload} (hr : (stateOf t).workload id = some r) :
    ∃ r', (after e).workload id = some r' ∧
      Lease.Step (stateOf t).issued r.lease r'.lease ∧ (stateOf t).issued ≤ (after e).issued := by
  cases h with
  | @perform _ tid request op rest input =>
    have hstep := World.workloadStep settings.codecs op input (stateOf t) id
    rw [hr] at hstep
    obtain ⟨r', hr', hlease⟩ := lease_step hstep
    exact ⟨r', hr', hlease, World.issued_le_issued_handle op input _⟩
  | move m => exact ⟨r, by simpa [after] using hr, .keep, by simp [after]⟩
  | _ => exact ⟨r, hr, .keep, Nat.le_refl _⟩

/-- Epochs never decrease, and rows never go away. -/
theorem epoch_le_of_run {t' : List (Event (fabric settings))} (h : Run t) (hsuffix : t' <:+ t)
    {id : Id} {r : Workload} (hr : (stateOf t').workload id = some r) :
    ∃ r', (stateOf t).workload id = some r' ∧ r.executionEpoch ≤ r'.executionEpoch := by
  refine workload_rel_of_run (R := fun r r' => r.executionEpoch ≤ r'.executionEpoch)
    (fun _ => Nat.le_refl _) (fun _ _ _ => Nat.le_trans) (fun w id op r row hstep => ?_) h hsuffix hr
  obtain ⟨r', hr', hlease⟩ := lease_step hstep
  exact ⟨r', hr', hlease.epoch_le⟩

/-- An authority that has ended stays ended. -/
theorem ended_of_run {t' : List (Event (fabric settings))} (h : Run t) (hsuffix : t' <:+ t)
    {id : Id} {node : NodeId} {token : FenceToken} {epoch : ℕ} {r : Workload}
    (hr : (stateOf t').workload id = some r)
    (hended : r.lease.Ended node token epoch (stateOf t').issued) :
    ∃ r', (stateOf t).workload id = some r' ∧
      r'.lease.Ended node token epoch (stateOf t).issued := by
  refine suffix_induction (P := fun past : List (Event (fabric settings)) => ∃ r', (stateOf past).workload id = some r' ∧
    r'.lease.Ended node token epoch (stateOf past).issued) hsuffix ⟨r, hr, hended⟩ ?_
  rintro e past - hpast ⟨r₁, hr₁, h₁⟩
  obtain ⟨r₂, hr₂, hstep, hissued⟩ := lease_step_of_run (h.of_suffix hpast) hr₁
  exact ⟨r₂, hr₂, h₁.step hstep hissued⟩

/-- The authority check accepts the node's token and epoch for the workload. -/
def Accepts (w : World) (id : Id) (node : NodeId) (token : FenceToken) (epoch : ℕ) : Prop :=
  (w.workload id).any (heartbeatAccepts node ⟨id, token, epoch⟩) = true

instance (w : World) (id : Id) (node : NodeId) (token : FenceToken) (epoch : ℕ) :
    Decidable (Accepts w id node token epoch) :=
  inferInstanceAs (Decidable (_ = true))

theorem accepts_iff {w : World} {id : Id} {node : NodeId} {token : FenceToken} {epoch : ℕ} :
    Accepts w id node token epoch ↔
      ∃ r, w.workload id = some r ∧ r.lease.Grants node token epoch := by
  simp only [Accepts, Option.any_eq_true, heartbeatAccepts_iff]

/-- In every run: token and active node go together and the token is of the current epoch;
epochs never decrease; and an authority that was accepted and later rejected is never
accepted again. -/
theorem fencing (h : Run t) :
    (∀ id r, (stateOf t).workload id = some r →
      (r.fenceToken.isSome ↔ r.activeNode.isSome) ∧
      (r.fenceToken.isSome → r.fenceEpoch = r.executionEpoch)) ∧
    (∀ t', t' <:+ t → ∀ id r, (stateOf t').workload id = some r →
      ∃ r', (stateOf t).workload id = some r' ∧ r.executionEpoch ≤ r'.executionEpoch) ∧
    (∀ t₁ t₂, t₁ <:+ t₂ → t₂ <:+ t → ∀ id node token epoch,
      Accepts (stateOf t₁) id node token epoch → ¬ Accepts (stateOf t₂) id node token epoch →
        ¬ Accepts (stateOf t) id node token epoch) := by
  refine ⟨fun id r hr => ?_, fun t' hsuffix id r => epoch_le_of_run h hsuffix, ?_⟩
  · exact ⟨(wellFenced_of_run h hr).claimed, (wellFenced_of_run h hr).current⟩
  intro t₁ t₂ h₁₂ h₂ id node token epoch hthen hlater
  obtain ⟨r₁, hr₁, hgrants⟩ := accepts_iff.mp hthen
  have hgrant := Workload.lease_grants_iff.mp hgrants
  have hrun₁ := (h.of_suffix h₂).of_suffix h₁₂
  have htoken := (fencedRows_of_run hrun₁ id r₁ hr₁).2 token hgrant.2.2
  obtain ⟨r₂, hr₂, hepoch⟩ := epoch_le_of_run (h.of_suffix h₂) h₁₂ hr₁
  have hissued := issued_le_of_run (h.of_suffix h₂) h₁₂
  -- At the later point the grant was made and is not in force: it has ended.
  have hended : r₂.lease.Ended node token epoch (stateOf t₂).issued :=
    { token_lt := Nat.lt_of_lt_of_le htoken hissued
      epoch_le := hgrant.1.ge.trans hepoch
      not_grants := fun hstill => hlater (accepts_iff.mpr ⟨r₂, hr₂, hstill⟩) }
  obtain ⟨r, hr, hended⟩ := ended_of_run h h₂ hr₂ hended
  intro hagain
  obtain ⟨r', hr', hgrants'⟩ := accepts_iff.mp hagain
  obtain rfl := Option.some.inj (hr'.symm.trans hr)
  exact hended.not_grants hgrants'

end Runs

/-- A claimed workload is fenced and attached again: the first token is rejected for
good, and the second is accepted. -/
theorem fencing_attach_after_fence :
    let fence := Demo.created ++ Demo.alone 2 (.workloadFence 7 Demo.operator)
    let attach := Demo.alone 3 (.workloadAttach 7 "n1" "boot" 1 [])
    let then_ := stateOf (exec Demo.created).trace
    let later := stateOf (exec fence).trace
    let now := stateOf (exec (fence ++ attach)).trace
    Accepts then_ 7 "n1" 0 0 ∧ ¬ Accepts later 7 "n1" 0 0 ∧ ¬ Accepts now 7 "n1" 0 0 ∧
      Accepts now 7 "n1" 1 1 := by
  intro fence attach then_ later now
  have hthen : Accepts then_ 7 "n1" 0 0 := by decide +kernel
  have hlater : ¬ Accepts later 7 "n1" 0 0 := by decide +kernel
  have hnow : Accepts now 7 "n1" 1 1 := by decide +kernel
  exact ⟨hthen, hlater, (fencing (exec_run (fence ++ attach))).2.2 _ _
    (exec_suffix Demo.created _) (exec_suffix fence attach) 7 "n1" 0 0 hthen hlater, hnow⟩

end CheckpointFabric
