import CheckpointFabric.Properties.Attach
import CheckpointFabric.Properties.Fencing
import CheckpointFabric.Steps.Attempts

/-!
# Whom a grant is sent to

A resume message with a token grants a node the authority over a workload. A restore sends one to
its target, with the token that it has committed and the epoch of the row that it reads back.
Recovery sends one to the target of a restore that was committed and not closed, with the token and
the epoch of the row as it is then; whose row that is by now it does not look.

## Main definitions

* `Gives` — the event gives the workload to a node, under a token
* `grantOf`, `sourceOf` — a grant, and the state that it was derived from
* `GoesToOwner` — the grant is the one that was committed for the node it is sent to
* `StaysGiven` — the workload is still where the restore attempt of the grant has left it

## Main results

* `origin_of_grant` — the restore commit behind a grant
* `exists_gives_of_claim` — the token and the epoch of a row were committed together
* `grants_owned_iff` — grants go to the owner just while the workload stays given
-/

set_option autoImplicit false

namespace CheckpointFabric

open Concurrency Coordinator System

variable {settings : Settings} {t t' : List (Event (fabric settings))}
  {e : Event (fabric settings)} {tid : ℕ} {id : Id} {node : NodeId} {token : FenceToken}
  {epoch : ℕ} {req : NodeResumeRequest} {w : Workload}

section Definitions

/-- The event gives the workload to the node under the token: it creates the workload, accepts an
attach, or commits a restore. -/
def Gives (e : Event (fabric settings)) (past : List (Event (fabric settings))) (id : Id)
    (node : NodeId) (token : FenceToken) : Prop :=
  attachOf e = some (id, node, token) ∨
    match callOf e with
    | some (_, .workloadInsert w) =>
      w.workloadId = id ∧ w.activeNode = some node ∧ w.fenceToken = some token
    | some (_, .restoreCommit ckpt _ node' token' _ _) =>
      ((stateOf past).checkpoint ckpt).map (·.workloadId) = some id ∧ node' = node ∧ token' = token
    | _ => False

/-- The thread, the target and the message of a grant: a resume message with a token or an epoch. -/
def grantOf : Event (fabric settings) → Option (ℕ × NodeId × NodeResumeRequest)
  | .performed tid (.call node (.resume req)) _ _ =>
    if req.fenceToken.isSome ∨ req.executionEpoch.isSome then some (tid, node, req) else none
  | _ => none

/-- The trace up to the newest read of a workload row by the thread. -/
def sourceOf (tid : ℕ) : List (Event (fabric settings)) → List (Event (fabric settings))
  | [] => []
  | .performed tid' op input before :: past =>
    if tid' = tid ∧ readsWorkload ⟨op, (World.handle settings.codecs op input before).1⟩ then past
    else sourceOf tid past
  | _ :: past => sourceOf tid past

/-- The state that the commit of a restore attempt has left. -/
def committed (key : AttemptId) : List (Event (fabric settings)) → Option World
  | [] => none
  | e :: past =>
    match callOf e with
    | some (_, .restoreCommit _ key' _ _ _ _) =>
      if key' = key then some (after e) else committed key past
    | _ => committed key past

/-- The thread serves a recovery. -/
def Recovers (past : List (Event (fabric settings))) (tid : ℕ) : Prop :=
  match requestOf tid past with
  | some (.recovery _) => True
  | _ => False

instance (tid : ℕ) (past : List (Event (fabric settings))) : Decidable (Recovers past tid) := by
  unfold Recovers
  split <;> infer_instance

/-- The workload is the node's in the state that the grant was derived from, and some event has
committed the token and the epoch of the grant for that node. -/
def GoesToOwner (e : Event (fabric settings)) (past : List (Event (fabric settings))) : Prop :=
  ∀ tid node req, grantOf e = some (tid, node, req) →
    ∃ token epoch w, req.fenceToken = some token ∧ req.executionEpoch = some epoch ∧
      (stateOf (sourceOf tid past)).workload req.workloadId = some w ∧
      w.lease.Grants node token epoch ∧
      ∃ e' past' w', e' :: past' <:+ sourceOf tid past ∧ Gives e' past' req.workloadId node token ∧
        (after e').workload req.workloadId = some w' ∧ w'.lease.Grants node token epoch

/-- Where the grant was derived from, the workload is with the node that the commit of the attempt
has given it to; and where the restore itself sends the grant, it is under the same token. -/
def StaysGiven (e : Event (fabric settings)) (past : List (Event (fabric settings))) : Prop :=
  ∀ g ∈ grantOf e, ∃ s ∈ committed g.2.2.attemptId (sourceOf g.1 past),
    ∃ given ∈ s.workload g.2.2.workloadId,
      ∃ w ∈ (stateOf (sourceOf g.1 past)).workload g.2.2.workloadId,
        w.activeNode = given.activeNode ∧ (¬ Recovers past g.1 → w.fenceToken = given.fenceToken)

instance (e : Event (fabric settings)) (past : List (Event (fabric settings))) :
    Decidable (StaysGiven e past) := by
  unfold StaysGiven
  infer_instance

end Definitions

section Origin

/-- The newest read of a row, as a deed and as an event. -/
theorem sourceOf_of_lastRead {older : List FabricDeed} (h : Run t)
    (hread : LastRead (deeds tid t) id w older) :
    sourceOf tid t <:+ t ∧ deeds tid (sourceOf tid t) = older ∧
      (stateOf (sourceOf tid t)).workload id = some w := by
  induction h with
  | start =>
    obtain ⟨recent, hdeeds, -⟩ := hread
    exact absurd hdeeds.symm (by simp [deeds])
  | @perform t tid' request op rest input hrun hlive hrequest hfollows ih =>
    by_cases htid : tid' = tid
    · subst htid
      rw [deeds_performed] at hread
      obtain ⟨recent, hdeeds, hrecent⟩ := hread
      cases recent with
      | nil =>
        obtain ⟨hdeed, rfl⟩ := List.cons.inj hdeeds
        obtain ⟨rfl, hreply⟩ := Deed.mk.inj hdeed
        have hhere : sourceOf tid'
            (.performed tid' (.db (.workloadGet id)) input (stateOf t) :: t) = t :=
          if_pos ⟨rfl, rfl⟩
        rw [hhere]
        have hanswered : (World.handle settings.codecs (.db (.workloadGet id)) input
            (stateOf t)).1 = .ok (some w) := eq_of_heq hreply
        have hgot := World.run_of_handle_ok hanswered
        exact ⟨List.suffix_cons _ _, rfl, (Prod.mk.inj (Except.ok.inj hgot)).1⟩
      | cons d recent =>
        obtain ⟨rfl, hrest⟩ := List.cons.inj hdeeds
        have hother := hrecent _ (.head _)
        have hbefore :
            sourceOf tid' (.performed tid' op input (stateOf t) :: t) = sourceOf tid' t :=
          if_neg fun hreads => by simp [hother] at hreads
        obtain ⟨hsuffix, hread⟩ := ih ⟨recent, hrest, fun d hd => hrecent d (.tail _ hd)⟩
        rw [hbefore]
        exact ⟨hsuffix.trans (List.suffix_cons _ _), hread⟩
    · have hbefore : sourceOf tid (.performed tid' op input (stateOf t) :: t) = sourceOf tid t :=
        if_neg fun hreads => htid hreads.1
      rw [deeds, if_neg htid] at hread
      obtain ⟨hsuffix, hrest⟩ := ih hread
      rw [hbefore]
      exact ⟨hsuffix.trans (List.suffix_cons _ _), hrest⟩
  | accept _ _ ih | restart _ ih | move _ _ ih | answer _ _ _ _ ih =>
    obtain ⟨hsuffix, hrest⟩ := ih hread
    exact ⟨hsuffix.trans (List.suffix_cons _ _), hrest⟩

/-- A restore commit gives the workload of its checkpoint to its target, under its token. -/
theorem workload_of_restoreCommit {ckpt : Id} {key : AttemptId} {migration rollback : Bool}
    (hcalls : Calls e t tid (.restoreCommit ckpt key node token migration rollback) ())
    (howner : ((stateOf t).checkpoint ckpt).map (·.workloadId) = some id) :
    ∃ w, (after e).workload id = some w ∧ w.activeNode = some node ∧ w.fenceToken = some token := by
  obtain ⟨c, r, hcommit⟩ := Store.restoreCommit_ok (StoreOp.of_map_ok hcalls.run)
  rw [World.checkpoint, hcommit.found] at howner
  obtain rfl := Option.some.inj howner
  rw [World.workload, hcommit.workloads, Table.get_modify_self, hcommit.owner]
  exact ⟨_, rfl, rfl, rfl⟩

/-- An attempt commits once, so its commit is the newest one. -/
theorem committed_of_calls {ckpt : Id} {key : AttemptId} {migration rollback : Bool} (h : Run t)
    (hpast : e :: t' <:+ t)
    (hcalls : Calls e t' tid (.restoreCommit ckpt key node token migration rollback) ()) :
    committed key t = some (after e) := by
  induction t with
  | nil => cases List.suffix_nil.mp hpast
  | cons e₁ t ih =>
    rw [committed]
    rcases List.suffix_cons_iff.mp hpast with heq | hpast
    · obtain ⟨rfl, rfl⟩ := List.cons.inj heq
      rw [hcalls.callOf_eq]
      exact if_pos rfl
    · split
      · rename_i tid₁ ckpt₁ key₁ node₁ token₁ migration₁ rollback₁ hcall
        refine (if_neg ?_).trans (ih h.tail hpast)
        rintro rfl
        obtain ⟨reply, hcalls₁⟩ := exists_calls_of_callOf h hcall
        have hagain : Restored e₁ t ckpt₁ key₁ := ⟨_, _, _, _, _, hcalls₁⟩
        refine hagain.not_journaled h (journaled_of_suffix h.tail hpast ?_)
        exact (journaled_generationCommitted_iff (h.tail.of_suffix hpast)).mpr
          (.inr ⟨ckpt, _, _, _, _, _, hcalls⟩)
      · exact ih h.tail hpast

/-- What stands behind a grant to the node: the row `w` that it carries the epoch of, and the
commit of its attempt for that node. -/
structure GrantOrigin (t : List (Event (fabric settings))) (tid : ℕ) (node : NodeId)
    (req : NodeResumeRequest) (w : Workload) (e' : Event (fabric settings))
    (t' : List (Event (fabric settings))) (token : FenceToken) : Prop where
  suffix : sourceOf tid t <:+ t
  row : (stateOf (sourceOf tid t)).workload req.workloadId = some w
  epoch : req.executionEpoch = some w.executionEpoch
  past : e' :: t' <:+ sourceOf tid t
  commit : ∃ tid' ckpt migration rollback,
    Calls e' t' tid' (.restoreCommit ckpt req.attemptId node token migration rollback) () ∧
      ((stateOf t').checkpoint ckpt).map (·.workloadId) = some req.workloadId
  token : Recovers t tid ∧ req.fenceToken = w.fenceToken ∨
    ¬ Recovers t tid ∧ req.fenceToken = some token

/-- A row of a checkpoint keeps its workload, so an earlier row and a later one show the same. -/
theorem workloadId_eq_of_rows {t₁ t₂ : List (Event (fabric settings))} {c₁ c₂ : CheckpointObject}
    (h : Run t) (h₁ : t₁ <:+ t) (h₂ : t₂ <:+ t) (hc₁ : (stateOf t₁).checkpoint id = some c₁)
    (hc₂ : (stateOf t₂).checkpoint id = some c₂) : c₁.workloadId = c₂.workloadId := by
  obtain ⟨c, hc, hsame₁⟩ := checkpoint_of_suffix h h₁ hc₁
  obtain ⟨c', hc', hsame₂⟩ := checkpoint_of_suffix h h₂ hc₂
  obtain rfl := Option.some.inj (hc.symm.trans hc')
  exact hsame₁.symm.trans hsame₂

/-- A restore sends its grant after its own commit. -/
theorem origin_of_restore {checkpointId : Id} {target : NodeId} {options : RestoreOptions}
    {start : List FabricDeed} {run : RestoreRun} (h : Run t) (hrecovers : ¬ Recovers t tid)
    (hdoes : RestoreDoes settings checkpointId target options start (deeds tid t)
      (.call node (.resume req)) run) :
    ∃ w e' t' token, GrantOrigin t tid node req w e' t' token := by
  obtain ⟨rfl, hkey, hckpt, hid⟩ := hdoes.performs
  obtain ⟨token, w, older, htoken, hepoch, hread, d, hd, hcommits⟩ := hdoes.backed
  rw [← hid] at hread
  obtain ⟨hsuffix, rfl, hrow⟩ := sourceOf_of_lastRead h hread
  rw [RestoreRun.Commits] at hcommits
  subst hcommits
  obtain ⟨e', t', hpast, hcalls⟩ := exists_calls_of_mem (h.of_suffix hsuffix) hd
  obtain ⟨c, r, hcommit⟩ := Store.restoreCommit_ok (StoreOp.of_map_ok hcalls.run)
  obtain ⟨t₁, row, hsuffix₁, hrow₁, hread₁⟩ := hdoes.admitted.exists_row h
  refine ⟨w, e', t', token, hsuffix, hrow, hepoch, hpast, ⟨tid, _, _, _, hkey ▸ hcalls, ?_⟩,
    .inr ⟨hrecovers, htoken⟩⟩
  have hfound : (stateOf t').checkpoint checkpointId = some c :=
    hdoes.admitted.checkpointId_eq h ▸ hcommit.found
  have hsame := workloadId_eq_of_rows h hsuffix₁
    (((List.suffix_cons e' t').trans hpast).trans hsuffix) hrow₁ hfound
  rw [hdoes.admitted.checkpointId_eq h, hfound, hid, hread₁]
  exact congrArg some hsame.symm

/-- A row of an attempt that a thread has read was there. -/
theorem attempt_of_read {key : AttemptId} {a : AttemptRecord} (h : Run t)
    (hread : ReadAttempt (deeds tid t) key a) :
    ∃ t', t' <:+ t ∧ (stateOf t').attempt key = some a := by
  have hreads : (StoreOp.attemptGet key).Reads := trivial
  obtain ⟨t', hsuffix, -, now, hrun⟩ := exists_store_of_read h hreads hread
  exact ⟨t', hsuffix, (Prod.mk.inj (Except.ok.inj hrun)).1⟩

/-- The row of the attempt of a restore commit names the target of the commit, and the workload of
its checkpoint. -/
theorem attempt_of_restoreCommit {ckpt : Id} {key : AttemptId} {migration rollback : Bool}
    {a : AttemptRecord} {c : CheckpointObject} {t₁ t₂ : List (Event (fabric settings))} (h : Run t)
    (hpast : e :: t₁ <:+ t) (hcalls : Calls e t₁ tid (.restoreCommit ckpt key node token migration
      rollback) ()) (hc : (stateOf t₁).checkpoint ckpt = some c) (hrow : t₂ <:+ t)
    (ha : (stateOf t₂).attempt key = some a) :
    a.node = node ∧ a.workloadId = some c.workloadId := by
  have hrun := h.of_suffix hpast
  have hpast' := (List.suffix_cons e t₁).trans hpast
  constructor
  · obtain ⟨request, hrequest, hwriter⟩ := hcalls.writer hrun not_false
    cases hwriter with
    | restore hdoes hwrites hrestores =>
      obtain ⟨-, rfl, hnode, -⟩ := hwrites
      have hthread := (Restores.of_does hrequest hrestores hdoes).mono h hpast'
      obtain ⟨checkpointId, nonce, hkey⟩ := hthread.isRestore
      rw [hkey] at ha hthread
      obtain ⟨tid', hthread'⟩ := restores_of_attempt (h.of_suffix hrow) ha
      rw [hnode, hdoes.admitted.target]
      exact ((hthread'.mono h hrow).unique h hthread).2
    | capture _ _ hwrites | recovery hwrites | plain hwrites => exact absurd hwrites not_false
  · have hrestored : Restored e t₁ ckpt key := ⟨tid, node, token, migration, rollback, hcalls⟩
    obtain ⟨a₁, ha₁, -, howner⟩ := hrestored.exists_attempt hrun hc
    obtain ⟨a', ha', -, hsame⟩ := attempt_of_suffix h hpast' ha₁
    obtain ⟨a'', ha'', -, hsame'⟩ := attempt_of_suffix h hrow ha
    obtain rfl := Option.some.inj (ha'.symm.trans ha'')
    exact hsame'.symm.trans (hsame.trans howner)

/-- Recovery sends a grant for an attempt whose commit it has found in the journal, to the node that
its row names. -/
theorem origin_of_recovery (h : Run t) (hrecovers : Recovers t tid)
    (hgrants : RecoveryGrants (deeds tid t) node (.resume req)) :
    ∃ w e' t' token, GrantOrigin t tid node req w e' t' token := by
  obtain ⟨a, w, older, hattempt, rfl, howner, hread, hlooked, hsame, hepoch⟩ := hgrants
  obtain ⟨hsuffix, rfl, hrow⟩ := sourceOf_of_lastRead h hread
  have hjournaled := journaled_of_looked (h.of_suffix hsuffix) hlooked
  obtain ⟨e', t', tid', ckpt, node', token', migration, rollback, hpast, hcalls⟩ :=
    exists_restoreCommit_of_journaled (h.of_suffix hsuffix) hjournaled
  obtain ⟨c, r, hcommit⟩ := Store.restoreCommit_ok (StoreOp.of_map_ok hcalls.run)
  obtain ⟨t₂, hsuffix₂, ha⟩ := attempt_of_read h hattempt
  obtain ⟨rfl, howner'⟩ := attempt_of_restoreCommit h (hpast.trans hsuffix) hcalls hcommit.found
    hsuffix₂ ha
  refine ⟨w, e', t', token', hsuffix, hrow, hepoch, hpast, ⟨tid', ckpt, migration, rollback, hcalls,
    ?_⟩, .inl ⟨hrecovers, hsame⟩⟩
  rw [World.checkpoint, hcommit.found]
  exact howner'.symm.trans howner

/-- Every grant goes back to the commit of its attempt for the node it is sent to. -/
theorem origin_of_grant (h : Run (e :: t)) (hgrant : grantOf e = some (tid, node, req)) :
    ∃ w e' t' token, GrantOrigin t tid node req w e' t' token := by
  unfold grantOf at hgrant
  split at hgrant
  swap
  · cases hgrant
  rename_i tid' node' req' input before
  obtain ⟨hcarries, heq⟩ := Option.ite_none_right_eq_some.mp hgrant
  cases heq
  obtain ⟨request, hrequest, hpermits⟩ := permitted h
  cases actor_of_permits hpermits with
  | reads hreads => exact absurd hreads not_false
  | plain hplain => exact absurd hplain not_false
  | capture hcapture =>
    -- A capture resumes its source without a token.
    obtain ⟨_, _, run, -, hdoes⟩ := hcapture
    obtain ⟨-, hnone, hnone'⟩ := hdoes.performs
    rw [hnone, hnone'] at hcarries
    exact absurd hcarries (by decide)
  | restore hrestore =>
    obtain ⟨checkpointId, target, options, start, run, hdoes, hrestores⟩ := hrestore
    refine origin_of_restore h.tail (fun hrecovers => ?_) hdoes
    rw [Recovers, hrequest] at hrecovers
    cases request <;> first | exact hrecovers | exact hrestores
  | recovery hrecovery hrequest' =>
    obtain hplain | hgrants := hrecovery
    · obtain ⟨_, -, -, hnone, hnone'⟩ := hplain
      rw [hnone, hnone'] at hcarries
      exact absurd hcarries (by decide)
    · refine origin_of_recovery h.tail ?_ hgrants
      rw [Recovers, hrequest, hrequest']
      trivial

end Origin

/-- **Tokens and epochs are not mixed.** The token and the epoch of a row were written for its
active node by one event. -/
theorem exists_gives_of_claim (h : Run t) (hw : (stateOf t).workload id = some w)
    (hclaim : w.lease.Grants node token epoch) :
    ∃ e' t' w', e' :: t' <:+ t ∧ Gives e' t' id node token ∧ (after e').workload id = some w' ∧
      w'.lease.Grants node token epoch := by
  induction t generalizing w with
  | nil => cases hw
  | cons e t ih =>
    have hold {r : Workload} (hr : (stateOf t).workload id = some r)
        (hgrants : r.lease.Grants node token epoch) :
        ∃ e' t' w', e' :: t' <:+ e :: t ∧ Gives e' t' id node token ∧
          (after e').workload id = some w' ∧ w'.lease.Grants node token epoch := by
      obtain ⟨e', t', w', hsuffix, hrest⟩ := ih h.tail hr hgrants
      exact ⟨e', t', w', hsuffix.trans (List.suffix_cons e t), hrest⟩
    have hnew (hgives : Gives e t id node token) :
        ∃ e' t' w', e' :: t' <:+ e :: t ∧ Gives e' t' id node token ∧
          (after e').workload id = some w' ∧ w'.lease.Grants node token epoch :=
      ⟨e, t, w, List.suffix_refl _, hgives, hw, hclaim⟩
    obtain ⟨-, hactive, htoken⟩ := Workload.lease_grants_iff.mp hclaim
    rw [stateOf_cons] at hw
    rcases store_cases h with ⟨tid, op, reply, hcalls⟩ | ⟨a, hattach⟩ | hstore
    · have hstep : WorkloadStep (stateOf t) id (.db op) ((stateOf t).workload id)
          ((after e).workload id) := by
        obtain ⟨input, rfl, -⟩ := hcalls
        exact World.workloadStep settings.codecs (.db op) input (stateOf t) id
      rw [hw] at hstep
      generalize hrow : (stateOf t).workload id = row at hstep
      cases hstep with
      | kept => exact hold hrow hclaim
      | inserted hid =>
        refine hnew (.inr ?_)
        rw [hcalls.callOf_eq]
        exact ⟨hid, hactive, htoken⟩
      | forked hid =>
        -- A child starts unclaimed.
        obtain ⟨request, -, hwriter⟩ := hcalls.writer h not_false
        obtain ⟨spec, childId, now, ancestor, generation, rfl⟩ := forked_of_writer hwriter
        cases hactive
      | fenced | released => cases hactive
      | recorded hrecorded =>
        obtain ⟨generation, class_, rfl⟩ := hrecorded
        exact hold hrow hclaim
      | restored hckpt howner =>
        refine hnew (.inr ?_)
        rw [hcalls.callOf_eq]
        refine ⟨?_, Option.some.inj hactive, Option.some.inj htoken⟩
        exact (congrArg _ hckpt).trans (congrArg some howner)
    · obtain ⟨id', node', token'⟩ := a
      have hheld := heldUnder_of_attach h hattach
      obtain ⟨tid, node₁, fenceEpoch, input, rfl⟩ := exists_claim_of_attach h hattach
      have hstep := World.workloadStep settings.codecs (.claim id' node₁ fenceEpoch) input
        (stateOf t) id
      have hw' : (World.handle settings.codecs (.claim id' node₁ fenceEpoch) input
        (stateOf t)).2.workload id = some w := hw
      rw [hw'] at hstep
      generalize hrow : (stateOf t).workload id = row at hstep
      generalize hafter : w = r at hstep
      cases hstep with
      | kept => exact hold hrow (hafter ▸ hclaim)
      | claimed =>
        rw [World.HeldUnder, hw] at hheld
        obtain ⟨hactive', htoken'⟩ := Prod.mk.inj (Option.some.inj hheld)
        obtain rfl := Option.some.inj (hactive'.symm.trans hactive)
        obtain rfl := Option.some.inj (htoken'.symm.trans htoken)
        exact hnew (.inl hattach)
    · rw [World.workload, hstore] at hw
      exact hold hw hclaim

/-- A grant that goes to the owner was derived while the workload stayed given. -/
theorem staysGiven_of_goesToOwner (h : Run (e :: t)) (hgoes : GoesToOwner e t) :
    StaysGiven e t := by
  rintro ⟨tid, node, req⟩ hgrant
  obtain ⟨w, e', t', token', horigin⟩ := origin_of_grant h hgrant
  obtain ⟨tid', ckpt, migration, rollback, hcalls, howner⟩ := horigin.commit
  obtain ⟨given, hgiven, hactive', htoken'⟩ := workload_of_restoreCommit hcalls howner
  obtain ⟨token, epoch, w₁, hreq, -, hw₁, hclaim, -⟩ := hgoes tid node req hgrant
  obtain rfl := Option.some.inj (horigin.row.symm.trans hw₁)
  obtain ⟨-, hactive, htoken⟩ := Workload.lease_grants_iff.mp hclaim
  refine ⟨after e', committed_of_calls (h.tail.of_suffix horigin.suffix) horigin.past hcalls, given,
    hgiven, w, horigin.row, hactive.trans hactive'.symm, fun hrecovers => ?_⟩
  obtain ⟨hrecovers', -⟩ | ⟨-, hown⟩ := horigin.token
  · exact absurd hrecovers' hrecovers
  · rw [htoken, htoken', ← hreq, hown]

/-- A grant that is derived while the workload stays given goes to the owner. -/
theorem goesToOwner_of_staysGiven (h : Run (e :: t)) (hstays : StaysGiven e t) :
    GoesToOwner e t := by
  intro tid node req hgrant
  obtain ⟨w, e', t', token', horigin⟩ := origin_of_grant h hgrant
  have hread := h.tail.of_suffix horigin.suffix
  obtain ⟨tid', ckpt, migration, rollback, hcalls, howner⟩ := horigin.commit
  obtain ⟨given, hgiven, hactive', htoken'⟩ := workload_of_restoreCommit hcalls howner
  obtain ⟨s, hs, given₁, hgiven₁, w₁, hw₁, hsame, hsame'⟩ := hstays _ hgrant
  obtain rfl := Option.some.inj ((committed_of_calls hread horigin.past hcalls).symm.trans hs)
  obtain rfl := Option.some.inj (hgiven.symm.trans hgiven₁)
  obtain rfl := Option.some.inj (horigin.row.symm.trans hw₁)
  have hactive : w.activeNode = some node := hsame.trans hactive'
  obtain ⟨token, htoken⟩ : ∃ token, w.fenceToken = some token := by
    refine Option.isSome_iff_exists.mp ((wellFenced_of_run hread horigin.row).claimed.mpr ?_)
    rw [hactive]
    rfl
  have hreq : req.fenceToken = some token := by
    obtain ⟨-, hcurrent⟩ | ⟨hrecovers, hown⟩ := horigin.token
    · exact hcurrent.trans htoken
    · rw [hown, ← htoken', ← hsame' hrecovers, htoken]
  have hclaim : w.lease.Grants node token w.executionEpoch :=
    Workload.lease_grants_iff.mpr ⟨rfl, hactive, htoken⟩
  exact ⟨token, _, w, hreq, horigin.epoch, horigin.row, hclaim,
    exists_gives_of_claim hread horigin.row hclaim⟩

/-- **Grants go to the owner** in a run just while the workload stays where the commit of the
attempt has left it, until the row is read for the grant. -/
theorem grants_owned_iff (h : Run t) : EveryStep GoesToOwner t ↔ EveryStep StaysGiven t := by
  constructor
  · exact fun hall e past hsuffix =>
      staysGiven_of_goesToOwner (h.of_suffix hsuffix) (hall e past hsuffix)
  · exact fun hall e past hsuffix =>
      goesToOwner_of_staysGiven (h.of_suffix hsuffix) (hall e past hsuffix)

/-- The grant is sent to a node that did not have the workload when the row was read. -/
def Misdirected (e : Event (fabric settings)) (past : List (Event (fabric settings))) : Prop :=
  ∃ g ∈ grantOf e, ((stateOf (sourceOf g.1 past)).workload g.2.2.workloadId).map (·.activeNode) ≠
    some (some g.2.1)

instance (e : Event (fabric settings)) (past : List (Event (fabric settings))) :
    Decidable (Misdirected e past) := by
  unfold Misdirected
  infer_instance

theorem not_goesToOwner_of_misdirected (h : Misdirected e t) : ¬ GoesToOwner e t := by
  obtain ⟨⟨tid, node, req⟩, hgrant, hnode⟩ := h
  intro hgoes
  obtain ⟨token, epoch, w, -, -, hw, hclaim, -⟩ := hgoes tid node req hgrant
  rw [hw] at hnode
  exact hnode (congrArg some (Workload.lease_grants_iff.mp hclaim).2.1)

/-- The workload is captured and restored, and its grant goes to the node that has it. -/
def Demo.restoredOnce : List (Action (fabric Demo.archive)) :=
  Demo.serially [.capture 7 {} operator, .restore 2 "n1" {} operator]

theorem grants_owned_restored : ∃ t : List (Event (fabric Demo.archive)), Run t ∧
    (∃ e ∈ t, (grantOf e).isSome) ∧ EveryStep GoesToOwner t := by
  obtain ⟨t, hrun, hgrant, hstays⟩ : ∃ t : List (Event (fabric Demo.archive)), Run t ∧
      (∃ e ∈ t, (grantOf e).isSome) ∧ EveryStep StaysGiven t :=
    ⟨_, exec_run Demo.restoredOnce, by decide +kernel, by decide +kernel⟩
  exact ⟨t, hrun, hgrant, (grants_owned_iff hrun).mpr hstays⟩

/-- The coordinator stops between the commit of a restore and its grant, and the workload is fenced
and attached to another node before recovery is run. -/
def Demo.movedOn : List (Action (fabric Demo.archive)) :=
  Demo.serially [.capture 7 {} operator] ++ [.accept (.restore 2 "n1" {} operator)] ++
    List.replicate 24 (.advance 4 ({} : Input)) ++
    .restart :: [(5, Request.workloadFence 7 operator), (6, .workloadAttach 7 "n2" "boot" 2 []),
      (7, .recovery operator)].flatMap
      fun (tid, request) => .accept request :: List.replicate 20 (.advance tid ({} : Input))

/-- The first node is granted what was committed for the second one. -/
theorem other_node_granted : ∃ t : List (Event (fabric Demo.archive)), Run t ∧
    ¬ EveryStep GoesToOwner t := by
  obtain ⟨t, hrun, hmisdirected⟩ : ∃ t : List (Event (fabric Demo.archive)), Run t ∧
      ¬ EveryStep (fun e past => ¬ Misdirected e past) t :=
    ⟨_, exec_run Demo.movedOn, by decide +kernel⟩
  refine ⟨t, hrun, fun hall => ?_⟩
  obtain ⟨e, past, hsuffix, h⟩ := exists_of_not_everyStep hmisdirected
  exact not_goesToOwner_of_misdirected h (hall e past hsuffix)

end CheckpointFabric
