import CheckpointFabric.Steps.Restores

/-!
# Restore attempts along a run

The row of a restore attempt is that of one thread and one target, from the call that
opened it. Whoever finishes it has looked at the journal first.

## Main definitions

* `Restores` — the thread runs the restore of an attempt to a node
* `FinishedBy` — what stands behind the outcome of a restore attempt

## Main results

* `registered_of_suffix` — a registered node stays registered
* `restores_of_attempt` — a row shows the thread and the target it was opened for
* `exists_finish_of_attempt` — an attempt that is not ACTIVE was finished by a call
* `finishedBy_of_calls` — what the call had seen
* `asks_of_restore` — when a node is asked to restore
-/

set_option autoImplicit false

namespace CheckpointFabric

open Concurrency Coordinator System

variable {settings : Settings} {t t' : List (Event (fabric settings))}
  {e : Event (fabric settings)} {tid tid' : ℕ} {key : AttemptId} {node node' : NodeId}

section Nodes

/-- The node is registered. -/
def World.Registered (w : World) (node : NodeId) : Prop := node ∈ w.store.nodes.keys

theorem registered_iff_lists {w : World} : w.Registered node ↔ ListsNode w.store.nodeList node := by
  simp [World.Registered, ListsNode, Store.nodeList, Table.keys]

/-- No call removes a node. -/
theorem StoreOp.nodes_subset_of_run {op : StoreOp} {now : ℕ} {s s' : Store} {reply : op.Reply}
    (h : op.run now s = .ok (reply, s')) : s.nodes.keys ⊆ s'.nodes.keys := by
  by_cases hwrites : op.writesNodes
  · cases op
    case nodeRegister id addr bootId resources =>
      have hregister := StoreOp.of_map_ok h
      unfold Store.nodeRegister at hregister
      split at hregister
      · rw [← Except.ok.inj hregister, Table.keys_insert]
        exact List.subset_append_left _ _
      · split at hregister
        · rw [← Except.ok.inj hregister, Table.keys_modify]
          exact List.Subset.refl _
        · split at hregister
          · rw [← Except.ok.inj hregister, Table.keys_modify]
            exact List.Subset.refl _
          · cases hregister
    case nodeHeartbeat id resources =>
      rw [Store.nodeHeartbeat_ok (StoreOp.of_map_ok h), Table.keys_modify]
      exact List.Subset.refl _
    case nodeSetStatus id status =>
      rw [← StoreOp.snd_of_ok h, Store.nodeSetStatus, Table.keys_modify]
      exact List.Subset.refl _
    case nodesSweepStale before =>
      have hsweep : s'.nodes.keys = s.nodes.keys := by
        rw [← StoreOp.snd_of_ok h]
        simp only [Store.nodesSweepStale, Table.keys, Table.mapRows, List.map_map]
        refine List.map_congr_left fun n _ => ?_
        dsimp only [Function.comp]
        split <;> rfl
      rw [hsweep]
      exact List.Subset.refl _
    all_goals exact absurd hwrites not_false
  · rw [(StoreOp.frame_of_run h).nodes hwrites]
    exact List.Subset.refl _

/-- A registered node stays registered. -/
theorem registered_of_suffix (h : Run t) (hsuffix : t' <:+ t)
    (hnode : (stateOf t').Registered node) : (stateOf t).Registered node := by
  refine suffix_induction (P := fun past : List (Event (fabric settings)) =>
    (stateOf past).Registered node) hsuffix hnode fun e past _ hpast ih => ?_
  rcases calls_or_leavesTables (h.of_suffix hpast) with ⟨_, _, _, -, hcalls⟩ | ⟨⟨_, hsame⟩, -⟩
  · exact StoreOp.nodes_subset_of_run hcalls.run ih
  · rw [stateOf_cons, World.Registered, hsame]
    exact ih

/-- A node that was found in the list is registered. -/
theorem registered_of_listed {nodes : List NodeRecord} (h : Run t)
    (hd : (⟨.db .nodeList, .ok nodes⟩ : FabricDeed) ∈ deeds tid t) (hnode : ListsNode nodes node) :
    (stateOf t).Registered node := by
  have hreads : StoreOp.nodeList.Reads := trivial
  obtain ⟨t', hsuffix, -, now, hrun⟩ := exists_store_of_read h hreads hd
  have hnodes : (stateOf t').store.nodeList = nodes := (Prod.mk.inj (Except.ok.inj hrun)).1
  rw [← hnodes] at hnode
  exact registered_of_suffix h hsuffix (registered_iff_lists.mpr hnode)

end Nodes

section Order

/-- Of two points of a run, the one at which a thread had done more is the later one. -/
theorem suffix_of_length_deeds (tid : ℕ) {t₁ t₂ : List (Event (fabric settings))}
    (h₁ : e :: t₁ <:+ t) (h₂ : t₂ <:+ t) (hlength : (deeds tid t₁).length < (deeds tid t₂).length) : e :: t₁ <:+ t₂ := by
  rcases List.suffix_or_suffix_of_suffix h₁ h₂ with hsuffix | hsuffix
  · exact hsuffix
  · rcases List.suffix_cons_iff.mp hsuffix with rfl | hsuffix
    · exact List.suffix_refl _
    · have hle : (deeds tid t₂).length ≤ (deeds tid t₁).length := (deeds_suffix hsuffix).length_le
      omega

end Order

section Restores

/-- Thread `tid` runs the restore under this attempt, to this node. -/
structure Restores (t : List (Event (fabric settings))) (tid : ℕ) (key : AttemptId)
    (node : NodeId) : Prop where
  request : ∃ request, requestOf tid t = some request ∧ request.Restores node
  drawn : (⟨.random, .ok key.nonce⟩ : FabricDeed) ∈ deeds tid t
  isRestore : ∃ checkpointId nonce, key = .restore checkpointId nonce

theorem Restores.mono (h : Run t) (hsuffix : t' <:+ t) (hrestores : Restores t' tid key node) :
    Restores t tid key node where
  request := by
    have hadmitted := lt_admissions_of_mem_deeds (h.of_suffix hsuffix) hrestores.drawn
    rw [requestOf_of_suffix h hsuffix hadmitted]
    exact hrestores.request
  drawn := (deeds_suffix hsuffix).subset hrestores.drawn
  isRestore := hrestores.isRestore

/-- An attempt has one thread, and one target. -/
theorem Restores.unique (h : Run t) (hrestores : Restores t tid key node)
    (hrestores' : Restores t tid' key node') : tid = tid' ∧ node = node' := by
  obtain ⟨later, ds, hsplit⟩ := List.append_of_mem hrestores.drawn
  obtain ⟨later', ds', hsplit'⟩ := List.append_of_mem hrestores'.drawn
  obtain ⟨rfl, -⟩ := drawn_unique h ⟨later, hsplit.symm⟩ ⟨later', hsplit'.symm⟩
  obtain ⟨request, hrequest, htarget⟩ := hrestores.request
  obtain ⟨request', hrequest', htarget'⟩ := hrestores'.request
  obtain rfl := Option.some.inj (hrequest.symm.trans hrequest')
  exact ⟨rfl, htarget.eq htarget'⟩

theorem Restores.of_does {request : Request} {checkpointId : Id} {targetNode : NodeId}
    {options : RestoreOptions} {start : List FabricDeed} {op : Op} {run : RestoreRun}
    (hrequest : requestOf tid t = some request) (hrestores : request.Restores targetNode)
    (hdoes : RestoreDoes settings checkpointId targetNode options start (deeds tid t) op run) :
    Restores t tid run.attemptId targetNode := by
  obtain ⟨nonce, ds₀, hid, hdrawn, -⟩ := hdoes.admitted.drawn
  refine ⟨⟨request, hrequest, hrestores⟩, ?_, checkpointId, nonce, hid⟩
  rw [hid]
  exact hdrawn.subset (.head _)

/-- A row was opened by a call of the run. -/
theorem exists_begin_of_attempt (h : Run t) {a : AttemptRecord}
    (ha : (stateOf t).attempt key = some a) :
    ∃ e t' tid, e :: t' <:+ t ∧
      Calls e t' tid (.attemptBegin key a.kind a.checkpointId a.workloadId a.node) () := by
  induction t generalizing a with
  | nil => exact nomatch ha
  | cons e t ih =>
    have hold {a₀ : AttemptRecord} (ha₀ : (stateOf t).attempt key = some a₀)
        (hsame : a.kind = a₀.kind ∧ a.checkpointId = a₀.checkpointId ∧
          a.workloadId = a₀.workloadId ∧ a.node = a₀.node) :
        ∃ e' t' tid, e' :: t' <:+ e :: t ∧
          Calls e' t' tid (.attemptBegin key a.kind a.checkpointId a.workloadId a.node) () := by
      obtain ⟨hkind, hckpt, howner, hnode⟩ := hsame
      obtain ⟨e', t', tid, hsuffix, hcalls⟩ := ih h.tail ha₀
      rw [hkind, hckpt, howner, hnode]
      exact ⟨e', t', tid, hsuffix.trans (List.suffix_cons e t), hcalls⟩
    rw [stateOf_cons] at ha
    rcases attemptStep_cases h key with ⟨tid, op, reply, hop, hcalls, hstep⟩ | hsame
    · rw [ha] at hstep
      generalize hrow : (stateOf t).attempt key = row at hstep
      cases hstep with
      | kept => exact hold hrow ⟨rfl, rfl, rfl, rfl⟩
      | opened hid hstate => exact ⟨e, t, tid, List.suffix_refl _, hid ▸ hcalls⟩
      | finished => exact hold hrow ⟨rfl, rfl, rfl, rfl⟩
    · exact hold (hsame.symm.trans ha) ⟨rfl, rfl, rfl, rfl⟩

/-- The row of a restore attempt shows the target of its restore. -/
theorem restores_of_attempt (h : Run t) {a : AttemptRecord} {checkpointId nonce : Id}
    (ha : (stateOf t).attempt (.restore checkpointId nonce) = some a) :
    ∃ tid, Restores t tid (.restore checkpointId nonce) a.node := by
  obtain ⟨e, t', tid, hsuffix, hcalls⟩ := exists_begin_of_attempt h ha
  have hpast := (List.suffix_cons e t').trans hsuffix
  obtain ⟨request, hrequest, hwriter⟩ := hcalls.writer (h.of_suffix hsuffix) not_false
  cases hwriter with
  | capture hasks hdoes hwrites =>
    obtain ⟨workloadId, nonce', ds₀, hdrawn⟩ := (Captures.of_does hrequest hasks hdoes).drawn
    exact nomatch hwrites.1.trans hdrawn.attemptId
  | restore hdoes hwrites hrestores =>
    obtain ⟨hid, -, -, -, hnode⟩ := hwrites
    rw [hid, hnode, hdoes.admitted.target]
    exact ⟨tid, (Restores.of_does hrequest hrestores hdoes).mono h hpast⟩
  | recovery hwrites | plain hwrites => exact absurd hwrites not_false

/-- An attempt that is not ACTIVE was finished by a call. -/
theorem exists_finish_of_attempt (h : Run t) {a : AttemptRecord}
    (ha : (stateOf t).attempt key = some a) (hstate : a.state ≠ .active) :
    ∃ e t' tid state result error, e :: t' <:+ t ∧
      Calls e t' tid (.attemptFinish key state result error) () := by
  induction t generalizing a with
  | nil => exact nomatch ha
  | cons e t ih =>
    have hold (ha₀ : (stateOf t).attempt key = some a) :
        ∃ e' t' tid state result error, e' :: t' <:+ e :: t ∧
          Calls e' t' tid (.attemptFinish key state result error) () := by
      obtain ⟨e', t', tid, state, result, error, hsuffix, hcalls⟩ := ih h.tail ha₀ hstate
      exact ⟨e', t', tid, state, result, error, hsuffix.trans (List.suffix_cons e t), hcalls⟩
    rw [stateOf_cons] at ha
    rcases attemptStep_cases h key with ⟨tid, op, reply, hop, hcalls, hstep⟩ | hsame
    · rw [ha] at hstep
      generalize hrow : (stateOf t).attempt key = row at hstep
      cases hstep with
      | kept => exact hold hrow
      | opened _ hactive => exact absurd hactive hstate
      | finished => exact ⟨e, t, tid, _, _, _, List.suffix_refl _, hcalls⟩
    · exact hold (hsame.symm.trans ha)

/-- An attempt that recovery has listed has a row. -/
theorem exists_attempt_of_listed {a : AttemptRecord} (h : Run t)
    (hlisted : Listed (deeds tid t) a) :
    ∃ t', t' <:+ t ∧ (stateOf t').attempt a.id = some a := by
  obtain ⟨attempts, hmem, ha⟩ := hlisted
  have hreads : (StoreOp.attemptsInState .active).Reads := trivial
  obtain ⟨t', hsuffix, -, now, hread⟩ := exists_store_of_read h hreads hmem
  have hattempts : (stateOf t').store.attemptsInState .active = attempts :=
    (Prod.mk.inj (Except.ok.inj hread)).1
  rw [← hattempts, Store.attemptsInState, List.mem_insertionSort, List.mem_filter] at ha
  exact ⟨t', hsuffix, Table.get_of_mem ha.1⟩

/-- What stands behind the outcome of a restore attempt: its commit; or its own handler, after
the target was told to roll back; or recovery, after it found no commit. -/
inductive FinishedBy (t : List (Event (fabric settings))) (tid : ℕ) (key : AttemptId) : Prop
  | committed : Journaled t .restore key .generationCommitted → FinishedBy t tid key
  | aborted {run : RestoreRun} {node : NodeId} : run.attemptId = key → Restores t tid key node →
    run.RolledBack (deeds tid t) → FinishedBy t tid key
  | recovered {ctx : OperationContext} : requestOf tid t = some (.recovery ctx) →
    Looked (deeds tid t) .restore key .generationCommitted false → FinishedBy t tid key

/-- A commit among the deeds is journaled. -/
theorem journaled_of_commits {run : RestoreRun} {token : FenceToken} {d : FabricDeed} (h : Run t)
    (hd : d ∈ deeds tid t) (hcommits : run.Commits token d) :
    Journaled t .restore run.attemptId .generationCommitted := by
  rw [RestoreRun.Commits] at hcommits
  subst hcommits
  obtain ⟨e, t', hsuffix, hcalls⟩ := exists_calls_of_mem h hd
  exact journaled_of_suffix h hsuffix
    ((StoreOp.journaled_of_run hcalls.run).mpr (.inr (.inl ⟨rfl, rfl, rfl⟩)))

/-- Whoever finishes a restore attempt has looked at the journal first. -/
theorem finishedBy_of_calls {checkpointId nonce : Id} {state : AttemptState}
    {result error : Option String} (h : Run (e :: t))
    (hcalls : Calls e t tid (.attemptFinish (.restore checkpointId nonce) state result error) ()) :
    FinishedBy t tid (.restore checkpointId nonce) := by
  obtain ⟨request, hrequest, hwriter⟩ := hcalls.writer h not_false
  cases hwriter with
  | capture hasks hdoes hwrites =>
    obtain ⟨workloadId, nonce', ds₀, hdrawn⟩ := (Captures.of_does hrequest hasks hdoes).drawn
    exact nomatch (hwrites : _ = _).trans hdrawn.attemptId
  | @restore _ _ _ _ run hdoes hwrites hrestores =>
    have hid : .restore checkpointId nonce = run.attemptId := hwrites
    have hbacked : run.Settles (deeds tid t) state := hdoes.backed
    rw [hid]
    unfold RestoreRun.Settles at hbacked
    split at hbacked
    · exact .aborted rfl (Restores.of_does hrequest hrestores hdoes) hbacked.2
    · rcases hbacked with hlooked | ⟨token, d, hd, hcommits⟩
      · exact .committed (journaled_of_looked h.tail hlooked)
      · exact .committed (journaled_of_commits h.tail hd hcommits)
  | recovery hwrites hrecovery =>
    obtain ⟨a, hlisted, hid, hverdict⟩ := hwrites
    obtain ⟨t', hsuffix, ha⟩ := exists_attempt_of_listed h.tail hlisted
    have hkind : a.kind ≠ .capture := by
      cases opened_of_run (h.tail.of_suffix hsuffix) ha with
      | capture hcaptures hid' =>
        obtain ⟨workloadId, nonce', ds₀, hdrawn⟩ := hcaptures.drawn
        exact nomatch hid.symm.trans (hid'.trans hdrawn.attemptId)
      | restore _ _ hrestore => exact hrestore
    cases hverdict with
    | captured hcapture | notCaptured hcapture => exact absurd hcapture hkind
    | restored _ hlooked => exact .committed (journaled_of_looked h.tail (hid ▸ hlooked))
    | notRestored _ hlooked => exact .recovered (hrecovery ▸ hrequest) (hid ▸ hlooked)
  | plain hwrites => exact absurd hwrites not_false

/-- When a node is asked to restore, its attempt is open for it, and the node is registered. -/
structure Asks (t : List (Event (fabric settings))) (tid : ℕ) (key : AttemptId) (node : NodeId) :
    Prop where
  restores : Restores t tid key node
  opened : ∃ a, (stateOf t).attempt key = some a ∧ a.node = node
  registered : (stateOf t).Registered node
  unfinished : ¬ Reached restoreTimetable t key 2

theorem asks_of_restore {req : NodeRestoreRequest} {input : Input} {before : World}
    (h : System.Run (S := fabric settings)
      (.performed tid (.call node (.restore req)) input before :: t)) :
    Asks t tid req.attemptId node := by
  obtain ⟨request, hrequest, hpermits⟩ := permitted h
  cases actor_of_permits hpermits with
  | reads hreads => exact absurd hreads not_false
  | capture hcapture =>
    obtain ⟨_, _, _, -, hdoes⟩ := hcapture
    exact absurd hdoes.performs not_false
  | recovery hrecovery =>
    exact nomatch (restoreKey_of_recoveryPermits hrecovery : some req.attemptId = none)
  | plain hplain => exact absurd hplain not_false
  | restore hrestore =>
    obtain ⟨checkpointId, target, options, start, run, hdoes, htarget⟩ := hrestore
    obtain ⟨hnode, hkey, -⟩ := hdoes.performs
    have hbegun : run.Begun checkpointId (deeds tid t) := hdoes.begun.resolve_left not_false
    have hrestores := Restores.of_does hrequest htarget hdoes
    obtain ⟨nodes, hnodes, hlisted⟩ := hdoes.backed
    rw [← hdoes.admitted.target, ← hnode, ← hkey] at hrestores
    obtain ⟨a, ha⟩ := exists_attempt_of_opened h.tail hbegun.opened
    rw [← hkey] at ha
    refine ⟨hrestores, ⟨a, ha, ?_⟩, registered_of_listed h.tail hnodes hlisted, fun hreached => ?_⟩
    · obtain ⟨checkpointId', nonce, hid⟩ := hrestores.isRestore
      rw [hid] at ha hrestores
      obtain ⟨tid', hrestores'⟩ := restores_of_attempt h.tail ha
      exact (hrestores'.unique h.tail hrestores).2
    · have hle : 2 ≤ 0 := hreached.le h.tail hrestores.drawn (hkey ▸ hdoes.inTurn) rfl
      exact absurd hle (by decide)

end Restores

end CheckpointFabric
