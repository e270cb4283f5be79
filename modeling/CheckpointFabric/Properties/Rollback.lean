import CheckpointFabric.Steps.Attempts

/-!
# Rollbacks that are owed

A restore that its target may have applied, and that did not commit, has to be rolled
back. Recovery sends the cleanup for an ACTIVE attempt only, and only when its journal
says that the components were restored; and it finishes the attempt before it sends. So
the rollback is kept exactly as long as nothing but the restore itself ends the attempt.

## Main definitions

* `unrolled` — the restores that may have changed a node and were not cleaned up since
* `Owed` — a later recovery sends the cleanup, or the restore is still running
* `RollbackKept` — every rollback that is pending is owed
* `KeepsRollbacks` — an event that loses no rollback

## Main results

* `rollback_kept` — in a run of such events every pending rollback is owed
* `rollback_lost` — a restart before the journal entry loses a rollback
-/

set_option autoImplicit false

namespace CheckpointFabric

open Concurrency Coordinator System

variable {settings : Settings} {t t' : List (Event (fabric settings))}
  {e : Event (fabric settings)} {tid : ℕ} {p : AttemptId × NodeId}

/-- The attempt and the node of a message to restore, when it may reach the node. -/
def restoreSent : Event (fabric settings) → Option (AttemptId × NodeId)
  | .performed _ (.call node (.restore req)) input _ =>
    match input.delivery with
    | .unsent _ => none
    | _ => some (req.attemptId, node)
  | _ => none

/-- The node has confirmed that it cleaned up. -/
def Confirms (reply : FabricResult NodeCleanupResult) : Bool :=
  match reply with
  | .ok r => r.error.isNone
  | .error _ => false

/-- The event is a cleanup of the restore, and the node has confirmed it. -/
def cleansUp (p : AttemptId × NodeId) : Event (fabric settings) → Bool
  | .performed _ (.call node (.cleanup req)) input before =>
    node == p.2 && req.restoreAttempts.any (·.attemptId == p.1) &&
      Confirms (World.handle settings.codecs (.call node (.cleanup req)) input before).1
  | _ => false

/-- The restores that may have changed a node, and were not cleaned up since. -/
def unrolled : List (Event (fabric settings)) → List (AttemptId × NodeId)
  | [] => []
  | e :: past => (restoreSent e).toList ++ (unrolled past).filter fun p => !cleansUp p e

/-- The rollback of the restore is pending: it may have changed the node, it was not cleaned up
since, and it did not commit. -/
def Pending (t : List (Event (fabric settings))) (p : AttemptId × NodeId) : Prop :=
  p ∈ unrolled t ∧ ¬ Journaled t .restore p.1 .generationCommitted

/-- The attempt is ACTIVE on the node, and a recovery that finds it so sends the cleanup; or the
restore itself is still running. -/
def Owed (t : List (Event (fabric settings))) (p : AttemptId × NodeId) : Prop :=
  ∃ a, (stateOf t).attempt p.1 = some a ∧ a.state = .active ∧ a.node = p.2 ∧
    (Journaled t .restore p.1 .componentsRestored ∨ ∃ tid, Live tid t ∧ Restores t tid p.1 p.2)

/-- Every rollback that is pending is owed. -/
def RollbackKept (t : List (Event (fabric settings))) : Prop := ∀ p, Pending t p → Owed t p

/-- The operations that end a restore in the middle when they panic. -/
def Op.Applies : Op → Prop
  | .call _ (.restore _) | .db (.journalAppend .restore _ .componentsRestored _) => True
  | _ => False

/-- The event loses no rollback. -/
structure KeepsRollbacks (e : Event (fabric settings)) (past : List (Event (fabric settings))) :
    Prop where
  /-- The process stops only when the journal has what is pending. -/
  stopped : ∀ before, e = .restarted before → ∀ p, Pending past p →
    Journaled past .restore p.1 .componentsRestored
  /-- Recovery decides no attempt whose rollback is pending. -/
  undecided : ∀ tid ctx input before p,
    e = .performed tid (.db (.journalHas .restore p.1 .generationCommitted)) input before →
    requestOf tid past = some (.recovery ctx) → ¬ Pending past p
  /-- No node is asked to restore once recovery has decided the attempt. -/
  early : ∀ tid ctx, ∀ p ∈ restoreSent e, requestOf tid past = some (.recovery ctx) →
    ¬ Looked (deeds tid past) .restore p.1 .generationCommitted false
  /-- The handler of a failed restore can read what it decides from. -/
  readable : ∀ tid op input before p, e = .performed tid (.db op) input before → op.Reads →
    Restores past tid p.1 p.2 → Pending past p →
    op = .nodeList ∨ ¬ Journaled past .restore p.1 .componentsRestored → input.fault = none
  /-- The target confirms the cleanup that the handler sends. -/
  confirmed : ∀ tid req input before p, e = .performed tid (.call p.2 (.cleanup req)) input before →
    Restores past tid p.1 p.2 → Pending past p →
    Confirms (World.handle settings.codecs (.call p.2 (.cleanup req)) input before).1
  /-- The restore does not panic where the target may have begun. -/
  unpanicked : ∀ tid op input before err, e = .performed tid op input before → op.Applies →
    (World.handle settings.codecs op input before).1 = .error err → ¬ err.isPanic

section Pending

theorem mem_unrolled_cons :
    p ∈ unrolled (e :: t) ↔ restoreSent e = some p ∨ p ∈ unrolled t ∧ cleansUp p e = false := by
  simp [unrolled, List.mem_append, List.mem_filter, Option.mem_toList]

/-- A message to restore that may reach the node is a deed of its thread. -/
theorem exists_performed_of_sent (hsent : restoreSent e = some p) : ∃ tid req input before,
    e = .performed tid (.call p.2 (.restore req)) input before ∧ req.attemptId = p.1 := by
  unfold restoreSent at hsent
  split at hsent
  · split at hsent
    · exact nomatch hsent
    · obtain rfl := Option.some.inj hsent
      exact ⟨_, _, _, _, rfl, rfl⟩
  · exact nomatch hsent

theorem exists_sent_of_mem (h : p ∈ unrolled t) :
    ∃ e t', e :: t' <:+ t ∧ restoreSent e = some p := by
  induction t with
  | nil => exact absurd h List.not_mem_nil
  | cons e t ih =>
    rcases mem_unrolled_cons.mp h with hsent | ⟨hmem, -⟩
    · exact ⟨e, t, List.suffix_refl _, hsent⟩
    · obtain ⟨e', t', hsuffix, hsent⟩ := ih hmem
      exact ⟨e', t', hsuffix.trans (List.suffix_cons e t), hsent⟩

/-- A rollback was pending before, since the message was sent. -/
theorem Pending.of_suffix (h : Run t) (hpending : Pending t p) (hsuffix : t' <:+ t)
    (hsent : ∀ e past, e :: past <:+ t → restoreSent e = some p → e :: past <:+ t') :
    Pending t' p := by
  refine ⟨?_, fun hj => hpending.2 (journaled_of_suffix h hsuffix hj)⟩
  refine suffix_induction (P := fun past => past <:+ t → p ∈ unrolled past → p ∈ unrolled t')
    hsuffix (fun _ => id) ?_ (List.suffix_refl t) hpending.1
  intro e past hpast _ ih hsuffix' hmem
  rcases mem_unrolled_cons.mp hmem with hnew | ⟨hmem, -⟩
  · have hle := (hsent e past hsuffix' hnew).length_le
    have := hpast.length_le
    rw [List.length_cons] at hle
    omega
  · exact ih ((List.suffix_cons e past).trans hsuffix') hmem

/-- The handler's message cleans up when it is confirmed. -/
theorem cleansUp_of_confirms {checkpointId workloadId : Id} {input : Input} {before : World}
    (h : Confirms (World.handle settings.codecs
      (.call p.2 (restoreCleanup p.1 checkpointId workloadId)) input before).1) :
    cleansUp p (.performed tid (.call p.2 (restoreCleanup p.1 checkpointId workloadId)) input before :
      Event (fabric settings)) = true := by
  unfold restoreCleanup at h ⊢
  simp [cleansUp, h]

/-- What stands behind a restore that may have changed a node. -/
structure Stands (t : List (Event (fabric settings))) (tid : ℕ) (p : AttemptId × NodeId) : Prop where
  restores : Restores t tid p.1 p.2
  opened : ∃ a, (stateOf t).attempt p.1 = some a ∧ a.node = p.2
  registered : (stateOf t).Registered p.2

theorem Stands.mono (h : Run t) (hsuffix : t' <:+ t) (hstands : Stands t' tid p) :
    Stands t tid p := by
  have hrestores := hstands.restores.mono h hsuffix
  refine ⟨hrestores, ?_, registered_of_suffix h hsuffix hstands.registered⟩
  obtain ⟨a, ha, -⟩ := hstands.opened
  obtain ⟨a', ha', -⟩ := attempt_of_suffix h hsuffix ha
  refine ⟨a', ha', ?_⟩
  obtain ⟨checkpointId, nonce, hid⟩ := hrestores.isRestore
  rw [hid] at ha' hrestores
  obtain ⟨tid', hrestores'⟩ := restores_of_attempt h ha'
  exact (hrestores'.unique h hrestores).2

theorem stands_of_sent (h : Run (e :: t)) (hsent : restoreSent e = some p) : ∃ tid req input,
    e = .performed tid (.call p.2 (.restore req)) input (stateOf t) ∧ req.attemptId = p.1 ∧
      Stands t tid p ∧ ¬ Reached restoreTimetable t p.1 2 := by
  obtain ⟨tid, req, input, before, rfl, hkey⟩ := exists_performed_of_sent hsent
  have hasks := asks_of_restore h
  rw [hkey] at hasks
  obtain rfl := h.before_eq
  exact ⟨tid, req, input, rfl, hkey, ⟨hasks.restores, hasks.opened, hasks.registered⟩,
    hasks.unfinished⟩

theorem exists_stands_of_mem (h : Run t) (hmem : p ∈ unrolled t) : ∃ tid, Stands t tid p := by
  obtain ⟨e, t', hsuffix, hsent⟩ := exists_sent_of_mem hmem
  obtain ⟨tid, _, _, -, -, hstands, -⟩ := stands_of_sent (h.of_suffix hsuffix) hsent
  exact ⟨tid, hstands.mono h ((List.suffix_cons e t').trans hsuffix)⟩

end Pending

section Handler

/-- Of two parts of a list, the head of the longer suffix is in the other part. -/
theorem mem_of_suffix_append {α : Type} {x : α} {l r o : List α} (h : x :: l <:+ r ++ o)
    (hlength : o.length ≤ l.length) : x ∈ r := by
  obtain ⟨before, hbefore⟩ := h
  rcases List.append_eq_append_iff.mp hbefore with ⟨as, hr, hxl⟩ | ⟨as, -, ho⟩
  · cases as with
    | nil =>
      have := congrArg List.length hxl
      simp only [List.nil_append, List.length_cons] at this
      omega
    | cons a as =>
      obtain ⟨rfl, -⟩ := List.cons.inj hxl
      rw [hr]
      exact List.mem_append_right _ (.head _)
  · have := congrArg List.length ho
    simp only [List.length_append, List.length_cons] at this
    omega

/-- The thread of a restore asked its target before it did what asks nobody. -/
theorem sent_before {recent older : List FabricDeed} {d : FabricDeed} (h : Run t)
    (hstands : Stands t tid p) (hds : deeds tid t = recent ++ d :: older)
    (hrecent : ∀ d' ∈ recent, d'.op.restoreKey = none) (hd : d.op.restoreKey = none)
    (hsuffix : t' <:+ t) (hdeeds : deeds tid t' = older) :
    ∀ e past, e :: past <:+ t → restoreSent e = some p → e :: past <:+ t' := by
  intro e past hpast hsent
  obtain ⟨tid', req, input, rfl, hkey, hstands', -⟩ := stands_of_sent (h.of_suffix hpast) hsent
  obtain ⟨rfl, -⟩ := (hstands'.restores.mono h ((List.suffix_cons _ past).trans hpast)).unique h
    hstands.restores
  refine suffix_of_length_deeds tid' hpast hsuffix ?_
  by_contra hlength
  rw [hdeeds, Nat.not_lt] at hlength
  have hsplit : deeds tid' t = (recent ++ [d]) ++ older := by rw [hds, List.append_assoc]; rfl
  have hasked := (deeds_performed ▸ deeds_suffix hpast : _ :: deeds tid' past <:+ deeds tid' t)
  rw [hsplit] at hasked
  rcases List.mem_append.mp (mem_of_suffix_append hasked hlength) with hmem | hmem
  · exact nomatch hrecent _ hmem
  · obtain rfl := List.mem_singleton.mp hmem
    exact nomatch hd

variable (h : Run t) (hsteps : EveryStep KeepsRollbacks t)
include h hsteps

/-- Once the target was told to roll back, nothing is pending. -/
theorem not_pending_of_rolledBack {run : RestoreRun} {node : NodeId}
    (hstands : Stands t tid (run.attemptId, node)) (hrolled : run.RolledBack (deeds tid t)) :
    ¬ Pending t (run.attemptId, node) := by
  intro hpending
  obtain ⟨recent, row, older, hds, hrecent, hended⟩ := hrolled
  obtain ⟨e₁, t₁, hsuffix₁, hcalls₁, hdeeds₁⟩ := exists_calls_of_deed h ⟨recent, hds.symm⟩
  have hpast₁ := (List.suffix_cons _ t₁).trans hsuffix₁
  have hsent := sent_before h hstands hds hrecent rfl hpast₁ hdeeds₁
  -- From the read of the row on the rollback is pending.
  have hpending' : ∀ {mid}, t₁ <:+ mid → mid <:+ t → Pending mid (run.attemptId, node) :=
    fun hmid hmidt => hpending.of_suffix h hmidt fun e past hpast hnew =>
      (hsent e past hpast hnew).trans hmid
  have hstands' : ∀ {mid}, t₁ <:+ mid → mid <:+ t → Stands mid tid (run.attemptId, node) := by
    intro mid hmid hmidt
    obtain ⟨tid', hstands'⟩ := exists_stands_of_mem (h.of_suffix hmidt) (hpending' hmid hmidt).1
    obtain ⟨rfl, -⟩ := (hstands'.restores.mono h hmidt).unique h hstands.restores
    exact hstands'
  obtain ⟨a, ha, hnode⟩ := (hstands' (List.suffix_refl t₁) hpast₁).opened
  have hrow : row = some a := (Prod.mk.inj (Except.ok.inj hcalls₁.run)).1.symm.trans ha
  obtain ⟨result, hresult⟩ := hended a hrow
  simp only at hnode
  rw [hnode] at hresult
  -- What the handler did after that read happened after it.
  have hlater : ∀ d ∈ recent, ∃ input t₂, .performed tid d.op input (stateOf t₂) :: t₂ <:+ t ∧
      t₁ <:+ t₂ ∧ d.reply = (World.handle settings.codecs d.op input (stateOf t₂)).1 := by
    intro d hd
    obtain ⟨newer, rest, rfl⟩ := List.append_of_mem hd
    have hdeed : d :: (rest ++ ⟨.db (.attemptGet run.attemptId), .ok row⟩ :: older) <:+
        deeds tid t := ⟨newer, by rw [hds, List.append_assoc, List.cons_append]⟩
    obtain ⟨input, t₂, hsuffix₂, hdeeds₂, hreply₂⟩ := exists_event_of_deed h hdeed
    have hle : (deeds tid t₁).length < (deeds tid t₂).length := by
      rw [hdeeds₁, hdeeds₂]
      simp
      omega
    exact ⟨input, t₂, hsuffix₂, (List.suffix_cons _ t₁).trans (suffix_of_length_deeds tid hsuffix₁
      ((List.suffix_cons _ t₂).trans hsuffix₂) hle), hreply₂⟩
  rcases hresult with hcall | ⟨nodes, hnodes, hunlisted⟩
  · obtain ⟨input, t₂, hsuffix₂, hmid, hreply⟩ := hlater _ hcall
    have hpast₂ := (List.suffix_cons _ t₂).trans hsuffix₂
    have hconfirms := (hsteps _ _ hsuffix₂).confirmed tid _ input (stateOf t₂)
      (run.attemptId, node) rfl (hstands' hmid hpast₂).restores (hpending' hmid hpast₂)
    have hcleaned := (hpending' (hmid.trans (List.suffix_cons _ t₂)) hsuffix₂).1
    rcases mem_unrolled_cons.mp hcleaned with hnew | ⟨-, hnot⟩
    · exact nomatch hnew
    · exact nomatch hnot.symm.trans (cleansUp_of_confirms hconfirms)
  · obtain ⟨input, t₂, hsuffix₂, hmid, hreply⟩ := hlater _ hnodes
    have hpast₂ := (List.suffix_cons _ t₂).trans hsuffix₂
    have hstands₂ := hstands' hmid hpast₂
    have hfault := (hsteps _ _ hsuffix₂).readable tid .nodeList input (stateOf t₂)
      (run.attemptId, node) rfl trivial hstands₂.restores (hpending' hmid hpast₂) (.inl rfl)
    refine hunlisted (stateOf t₂).store.nodeList ?_ (registered_iff_lists.mp hstands₂.registered)
    exact hreply.trans (World.reply_of_run hfault rfl)

end Handler

section Kept

/-- If no message comes after an event, every message came before it. -/
theorem sent_before_of_not_after (hsuffix : e :: t' <:+ t) (hnot : restoreSent e ≠ some p)
    (hafter : ∀ e₁ past, e₁ :: past <:+ t → restoreSent e₁ = some p → ¬ e :: t' <:+ past) :
    ∀ e₁ past, e₁ :: past <:+ t → restoreSent e₁ = some p → e₁ :: past <:+ t' := by
  intro e₁ past hpast hsent
  have hsame : e₁ :: past ≠ e :: t' := fun heq => hnot ((List.cons.inj heq).1 ▸ hsent)
  rcases List.suffix_or_suffix_of_suffix hpast hsuffix with hle | hle
  · exact (List.suffix_cons_iff.mp hle).resolve_left hsame
  · exact absurd ((List.suffix_cons_iff.mp hle).resolve_left hsame.symm) (hafter e₁ past hpast hsent)

theorem restoreSent_of_calls {op : StoreOp} {reply : op.Reply} (hcalls : Calls e t tid op reply) :
    restoreSent e = none := by
  obtain ⟨input, rfl, -⟩ := hcalls
  rfl

variable (h : Run t) (hsteps : EveryStep KeepsRollbacks t)
include h hsteps

/-- An attempt whose rollback is pending is ACTIVE. -/
theorem active_of_pending (hpending : Pending t p) {a : AttemptRecord}
    (ha : (stateOf t).attempt p.1 = some a) : a.state = .active := by
  by_contra hstate
  obtain ⟨tid, hstands⟩ := exists_stands_of_mem h hpending.1
  obtain ⟨checkpointId, nonce, hid⟩ := hstands.restores.isRestore
  obtain ⟨e, t', tid', state, result, error, hsuffix, hcalls⟩ :=
    exists_finish_of_attempt h ha hstate
  have hpast := (List.suffix_cons e t').trans hsuffix
  have hrun := h.of_suffix hpast
  have hfinished : FinishedBy t' tid' p.1 := by
    rw [hid] at hcalls ⊢
    exact finishedBy_of_calls (h.of_suffix hsuffix) hcalls
  cases hfinished with
  | committed hj => exact hpending.2 (journaled_of_suffix h hpast hj)
  | @aborted run node hkey hrestores hrolled =>
    -- The restore asked its target before it came to its last phase.
    have hreached : Reached restoreTimetable (e :: t') p.1 2 := by
      refine ⟨tid', ⟨.db (.attemptFinish p.1 state result error), .ok ()⟩, deeds tid' t', ?_,
        hrestores.drawn, 2, rfl, Nat.le_refl 2⟩
      rw [hcalls.deeds_eq]
    have hpending' : Pending t' p := by
      refine hpending.of_suffix h hpast (sent_before_of_not_after hsuffix ?_ ?_)
      · simp [restoreSent_of_calls hcalls]
      · intro e₁ past hpast₁ hsent hafter
        obtain ⟨_, _, _, -, -, -, hunreached⟩ := stands_of_sent (h.of_suffix hpast₁) hsent
        exact hunreached (hreached.mono hafter)
    obtain ⟨tid₁, hstands'⟩ := exists_stands_of_mem hrun hpending'.1
    obtain ⟨rfl, -⟩ := hstands'.restores.unique hrun hrestores
    have hsame : p = (run.attemptId, p.2) := by rw [hkey]
    rw [hsame] at hpending' hstands'
    exact not_pending_of_rolledBack hrun (hsteps.of_suffix hpast) hstands' hrolled hpending'
  | @recovered ctx hrequest hlooked =>
    obtain ⟨e₂, t₂, hsuffix₂, hcalls₂⟩ := exists_calls_of_mem hrun hlooked
    have hlooked₂ : Looked (deeds tid' (e₂ :: t₂)) .restore p.1 .generationCommitted false := by
      rw [Looked, hcalls₂.deeds_eq]
      exact .head _
    have hadmitted := lt_admissions_of_mem_deeds (hrun.of_suffix hsuffix₂) hlooked₂
    have hrequest₂ : requestOf tid' (e₂ :: t₂) = some (.recovery ctx) :=
      (requestOf_of_suffix hrun hsuffix₂ hadmitted).symm.trans hrequest
    have hpast₂ := (List.suffix_cons e₂ t₂).trans (hsuffix₂.trans hpast)
    have hpending₂ : Pending t₂ p := by
      refine hpending.of_suffix h hpast₂ (sent_before_of_not_after (hsuffix₂.trans hpast) ?_ ?_)
      · simp [restoreSent_of_calls hcalls₂]
      · intro e₁ past hpast₁ hsent hafter
        have hrun₁ := h.of_suffix ((List.suffix_cons e₁ past).trans hpast₁)
        exact (hsteps e₁ past hpast₁).early tid' ctx p hsent
          ((requestOf_of_suffix hrun₁ hafter hadmitted).trans hrequest₂)
          ((deeds_suffix hafter).subset hlooked₂)
    obtain ⟨input, rfl, -⟩ := hcalls₂
    exact (hsteps _ t₂ (hsuffix₂.trans hpast)).undecided tid' ctx input _ p rfl hrequest₂ hpending₂

/-- A thread that has accounted for its restore leaves a pending one in the journal. -/
theorem journaled_of_concluded (hstands : Stands t tid p) (hpending : Pending t p)
    (hconcluded : Concluded (deeds tid t)) : Journaled t .restore p.1 .componentsRestored := by
  obtain ⟨key, node⟩ := p
  obtain ⟨e, past, hsuffix, hsent⟩ := exists_sent_of_mem hpending.1
  obtain ⟨tid', req, input, rfl, hkey, hstands', -⟩ := stands_of_sent (h.of_suffix hsuffix) hsent
  obtain ⟨rfl, -⟩ := (hstands'.restores.mono h ((List.suffix_cons _ past).trans hsuffix)).unique h
    hstands.restores
  have hasked : ⟨.call node (.restore req), _⟩ ∈ deeds tid' t :=
    (deeds_performed ▸ deeds_suffix hsuffix : _ :: deeds tid' past <:+ deeds tid' t).subset (.head _)
  -- A thread that has restored is accounted for in one of five ways.
  rcases hconcluded with hnone | ⟨run, hfor, haccounted⟩
  · exact nomatch hnone _ hasked
  obtain rfl : key = run.attemptId := hkey.symm.trans (hfor _ hasked _ rfl)
  cases haccounted with
  | applied hjournaled =>
    obtain ⟨e', t', hsuffix', hcalls⟩ := exists_calls_of_mem h hjournaled
    exact journaled_of_suffix h hsuffix'
      ((StoreOp.journaled_of_run hcalls.run).mpr (.inr ⟨rfl, rfl, rfl⟩))
  | committed hlooked => exact absurd (journaled_of_looked h hlooked) hpending.2
  | rolledBack hrolled =>
    exact absurd hpending (not_pending_of_rolledBack h hsteps hstands hrolled)
  -- The thread could not read the journal back, though nothing was wrong with the store then.
  | @unread d older hds hunread =>
    by_contra hj
    obtain ⟨op, reply, err, rfl, hreads, hok⟩ : ∃ (op : StoreOp) (reply : World → op.Reply)
        (err : FabricError), d = ⟨.db op, .error err⟩ ∧ op.Reads ∧
          ∀ w : World, op.run w.clock w.store = .ok (reply w, w.store) := by
      obtain ⟨err, rfl | rfl⟩ := hunread
      · exact ⟨_, fun w => _, err, rfl, trivial, fun _ => rfl⟩
      · exact ⟨_, fun w => _, err, rfl, trivial, fun _ => rfl⟩
    obtain ⟨input', t', hsuffix', hdeeds, hreply⟩ := exists_event_of_deed h ⟨[], hds.symm⟩
    have hpast := (List.suffix_cons _ t').trans hsuffix'
    have hpending' := hpending.of_suffix h hpast (sent_before h hstands hds
      (fun _ hd => absurd hd List.not_mem_nil) rfl hpast hdeeds)
    obtain ⟨tid₁, hstands₁⟩ := exists_stands_of_mem (h.of_suffix hpast) hpending'.1
    obtain ⟨rfl, -⟩ := (hstands₁.restores.mono h hpast).unique h hstands.restores
    have hfault := (hsteps _ _ hsuffix').readable tid₁ op input' (stateOf t') _ rfl hreads
      hstands₁.restores hpending' (.inr fun hj' => hj (journaled_of_suffix h hpast hj'))
    have hanswered : (World.handle settings.codecs (.db op) input' (stateOf t')).1 =
        .ok (reply (stateOf t')) := World.reply_of_run hfault (hok _)
    exact nomatch hreply.trans hanswered
  -- A panic of the node would leave the restore as it is; the runs here have none.
  | panicked hd hpanics =>
    obtain ⟨newer, older, hsplit⟩ := List.append_of_mem hd
    obtain ⟨input', t', hsuffix', -, hreply⟩ := exists_event_of_deed h ⟨newer, hsplit.symm⟩
    obtain ⟨err, hpanic, ⟨node', req', -, rfl⟩ | ⟨detail, rfl⟩⟩ := hpanics
    all_goals
      exact absurd hpanic ((hsteps _ _ hsuffix').unpanicked tid' _ input' (stateOf t') err rfl
        trivial hreply.symm)

/-- In a run of events that lose no rollback, every pending rollback is owed, at every point. -/
theorem rollback_kept : ∀ past, past <:+ t → RollbackKept past := by
  intro past hpast
  replace h := h.of_suffix hpast
  replace hsteps := hsteps.of_suffix hpast
  clear hpast
  induction past with
  | nil => exact fun p hpending => absurd hpending.1 List.not_mem_nil
  | cons e t ih =>
    intro p hpending
    have hkept := ih h.tail (hsteps.of_suffix (List.suffix_cons e t))
    obtain ⟨tid, hstands⟩ := exists_stands_of_mem h hpending.1
    obtain ⟨a, ha, hnode⟩ := hstands.opened
    refine ⟨a, ha, active_of_pending h hsteps hpending ha, hnode, ?_⟩
    rcases mem_unrolled_cons.mp hpending.1 with hnew | ⟨hmem, -⟩
    · obtain ⟨tid', req, input, rfl, hkey, hstands', -⟩ := stands_of_sent h hnew
      exact .inr ⟨tid', h.live, hstands'.restores.mono h (List.suffix_cons _ t)⟩
    · have hpending₀ : Pending t p := ⟨hmem, fun hj => hpending.2 (journaled_cons h hj)⟩
      obtain ⟨-, -, -, -, hj | ⟨tid', hlive, hrestores⟩⟩ := hkept p hpending₀
      · exact .inl (journaled_cons h hj)
      have hrestores' := hrestores.mono h (List.suffix_cons e t)
      cases e with
      | admitted => exact .inr ⟨tid', .inr hlive, hrestores'⟩
      | performed => exact .inr ⟨tid', hlive, hrestores'⟩
      | moved => exact .inr ⟨tid', hlive, hrestores'⟩
      | restarted before =>
        exact .inl (journaled_cons h ((hsteps _ t (List.suffix_refl _)).stopped before rfl p
          hpending₀))
      | answered tid₁ result before =>
        by_cases hsame : tid₁ = tid'
        · subst hsame
          obtain ⟨request, -, hconcluded⟩ := h.concluded obeys_serve_concluded
          obtain ⟨tid₂, hstands₂⟩ := exists_stands_of_mem h.tail hmem
          obtain ⟨rfl, -⟩ := hstands₂.restores.unique h.tail hrestores
          exact .inl (journaled_cons h (journaled_of_concluded h.tail
            (hsteps.of_suffix (List.suffix_cons _ t)) hstands₂ hpending₀ hconcluded))
        · exact .inr ⟨tid', ⟨hsame, hlive⟩, hrestores'⟩

end Kept

section Calm

/-- A check of one event: nothing restarts and nothing recovers, the database does not fail, nodes
confirm their cleanups, and no restore panics. -/
def calm : Event (fabric settings) → Bool
  | .restarted _ | .admitted _ (.recovery _) _ => false
  | .performed _ (.db _) input _ => input.fault.isNone
  | .performed _ (.call node (.cleanup req)) input before =>
    Confirms (World.handle settings.codecs (.call node (.cleanup req)) input before).1
  | .performed _ (.call node (.restore req)) input before =>
    match (World.handle settings.codecs (.call node (.restore req)) input before).1 with
    | .ok _ => true
    | .error err => !err.isPanic
  | _ => true

theorem KeepsRollbacks.of_calm (h : ∀ e' ∈ e :: t, calm e' = true) : KeepsRollbacks e t := by
  have he := h e (.head t)
  have hrecovers : ∀ tid ctx, requestOf tid t ≠ some (.recovery ctx) := by
    intro tid ctx hrequest
    obtain ⟨before, hmem⟩ := exists_admitted_of_requestOf hrequest
    exact nomatch h _ (.tail e hmem)
  refine ⟨?_, ?_, ?_, ?_, ?_, ?_⟩
  · rintro before rfl
    exact nomatch he
  · exact fun tid ctx _ _ _ _ hrequest => absurd hrequest (hrecovers tid ctx)
  · exact fun tid ctx _ _ hrequest => absurd hrequest (hrecovers tid ctx)
  · rintro tid op input before p rfl - - - -
    exact Option.isNone_iff_eq_none.mp he
  · rintro tid req input before p rfl - -
    exact he
  · rintro tid op input before err rfl happlies herr
    cases op with
    | call node request =>
      cases request with
      | restore req =>
        simp only [calm, herr] at he
        simpa using he
      | _ => exact absurd happlies not_false
    | db op =>
      cases op with
      | journalAppend kind key state detail =>
        have hanswered : (World.handle settings.codecs (.db (.journalAppend kind key state detail))
            input before).1 = .ok () :=
          World.reply_of_run (Option.isNone_iff_eq_none.mp he) rfl
        exact nomatch herr.symm.trans hanswered
      | _ => exact absurd happlies not_false
    | _ => exact absurd happlies not_false

theorem keepsRollbacks_of_calm (h : ∀ e ∈ t, calm e = true) : EveryStep KeepsRollbacks t :=
  fun _ _ hsuffix => .of_calm fun e' he' => h e' (hsuffix.subset he')

end Calm

/-- The schedule of a restore whose target fails: its handler tells the target to roll back. -/
def Demo.rolledBack : List (Action (fabric Demo.settings)) :=
  Demo.captured ++ .accept (.restore 2 "n1" {} Demo.operator) ::
    List.replicate 16 (.advance 3 ({} : Input)) ++
    .advance 3 { delivery := .answered { failure := some "no space" } } ::
    List.replicate 20 (.advance 3 ({} : Input))

theorem rollback_kept_rolledBack :
    (∃ past ∈ (exec Demo.rolledBack).trace.tails, unrolled past ≠ []) ∧
      ∀ past, past <:+ (exec Demo.rolledBack).trace → RollbackKept past := by
  have hcalm : ∀ e ∈ (exec Demo.rolledBack).trace, calm e = true := by decide +kernel
  exact ⟨by decide +kernel, rollback_kept (exec_run Demo.rolledBack) (keepsRollbacks_of_calm hcalm)⟩

/-- The schedule of a restore that the process stops in, just after the target has applied it and
before that is journaled; recovery follows. -/
def Demo.stoppedRestore : List (Action (fabric Demo.settings)) :=
  Demo.captured ++ .accept (.restore 2 "n1" {} Demo.operator) ::
    List.replicate 17 (.advance 3 ({} : Input)) ++
    .restart :: Demo.alone 4 (.recovery Demo.operator)

/-- Recovery has finished the attempt, and its cleanup is neither sent nor owed. -/
theorem rollback_lost : ¬ ∀ (settings : Settings) (t : List (Event (fabric settings))),
    Run t → RollbackKept t := by
  intro hall
  let t := (exec Demo.stoppedRestore).trace
  have hpending : (.restore 2 3, "n1") ∈ unrolled t ∧
      (stateOf t).store.journalHas .restore (.restore 2 3) .generationCommitted = false ∧
      ∀ a ∈ (stateOf t).attempt (.restore 2 3), a.state ≠ .active := by decide +kernel
  obtain ⟨hmem, hjournal, hfinished⟩ := hpending
  have huncommitted : ¬ Journaled t .restore (.restore 2 3) .generationCommitted := fun hj =>
    nomatch hjournal.symm.trans (Store.journalHas_eq_true_iff.mpr hj)
  obtain ⟨a, ha, hactive, -⟩ :=
    hall Demo.settings t (exec_run Demo.stoppedRestore) (.restore 2 3, "n1") ⟨hmem, huncommitted⟩
  exact hfinished a ha hactive

end CheckpointFabric
