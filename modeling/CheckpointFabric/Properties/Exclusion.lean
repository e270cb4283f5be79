import CheckpointFabric.Footprints.Requests
import CheckpointFabric.Steps.Identities

/-!
# Single-active exclusion

A restore looks at the claim on its workload once, when it is admitted. The commit of
its generation does not look again, so it is exclusive exactly as long as no other
node acquires the claim in between.

## Main definitions

* `ExclusiveCommit` — a commit that takes the claim from no other node
* `Awaits` — a restore that read its workload and did not commit yet
* `Undisturbed` — an event that leaves the claims alone that a restore awaits

## Main results

* `commit_exclusive` — in a run of undisturbed steps every commit is exclusive
* `commit_takes_over_claim` — a commit that takes over a claim made after admission
-/

set_option autoImplicit false

namespace CheckpointFabric

open Concurrency Coordinator System

variable {settings : Settings} {t : List (Event (fabric settings))}

/-- The successful commit of a restore that is no migration: the checkpoint, the target, and
the world it was made in. -/
def committedRestore : Event (fabric settings) → Option (Id × NodeId × World)
  | .performed _ (.db (.restoreCommit checkpointId attemptId target token false rollback)) input
      before =>
    if (World.handle settings.codecs
        (.db (.restoreCommit checkpointId attemptId target token false rollback)) input
          before).1.toOption.isSome then
      some (checkpointId, target, before)
    else none
  | _ => none

/-- The workload of the checkpoint is claimed by `target` or by nobody, if it is single-active. -/
def FreeFor (w : World) (checkpointId : Id) (target : NodeId) : Prop :=
  ∀ c ∈ w.checkpoint checkpointId, ∀ r ∈ w.workload c.workloadId,
    r.singleActive → r.activeNode = none ∨ r.activeNode = some target

instance (w : World) (checkpointId : Id) (target : NodeId) :
    Decidable (FreeFor w checkpointId target) :=
  inferInstanceAs (Decidable (∀ c ∈ w.checkpoint checkpointId, ∀ r ∈ w.workload c.workloadId,
    r.singleActive → r.activeNode = none ∨ r.activeNode = some target))

/-- A restore that commits here takes the claim from no other node. -/
def ExclusiveCommit (e : Event (fabric settings)) : Prop :=
  ∀ commit ∈ committedRestore e, FreeFor commit.2.2 commit.1 commit.2.1

instance : DecidablePred (@ExclusiveCommit settings) := fun e =>
  inferInstanceAs (Decidable (∀ commit ∈ committedRestore e,
    FreeFor commit.2.2 commit.1 commit.2.1))

/-- The target of a request that restores without migrating. -/
def Request.restoreTarget : Request → Option NodeId
  | restore _ node options _ => if options.migration then none else some node
  | rollback _ node _ => some node
  | _ => none

/-- Thread `tid` restores workload `id` to `target`: it has read the row that admits it, and
has not committed yet. -/
structure Awaits (t : List (Event (fabric settings))) (tid : ℕ) (target : NodeId) (id : Id) :
    Prop where
  live : Live tid t
  request : (requestOf tid t).bind Request.restoreTarget = some target
  read : ∃ w, (⟨.db (.workloadGet id), .ok (some w)⟩ : FabricDeed) ∈ deeds tid t
  uncommitted : Uncommitted (deeds tid t)

/-- The node has the claim on the workload. -/
def World.Holds (w : World) (id : Id) (node : NodeId) : Prop :=
  ∃ r, w.workload id = some r ∧ r.activeNode = some node

/-- The event gives the claim on the workload to the node. -/
def Acquires (e : Event (fabric settings)) (past : List (Event (fabric settings))) (id : Id)
    (node : NodeId) : Prop :=
  (after e).Holds id node ∧ ¬ (stateOf past).Holds id node

/-- The event gives no claim that a restore awaits to a node other than its target, and none
to the reserved name. -/
structure Undisturbed (e : Event (fabric settings)) (past : List (Event (fabric settings))) :
    Prop where
  exclusive : ∀ tid target id node, Awaits past tid target id → Acquires e past id node →
    node = target
  unmarked : ∀ id, ¬ Acquires e past id migratingMarker

section Footprint

theorem restore_of_restorePermits {checkpointId id : Id} {node target : NodeId}
    {options : RestoreOptions} {start ds : List FabricDeed} {attemptId : AttemptId}
    {token : FenceToken} {migration rollback : Bool}
    (h : RestorePermits settings id node options start ds
      (.db (.restoreCommit checkpointId attemptId target token migration rollback))) :
    node = target ∧ options.migration = migration ∧
      ∃ run, RestoreDoes settings id target options start ds
          (.db (.restoreCommit checkpointId attemptId target token migration rollback)) run ∧
        run.ckpt.checkpointId = checkpointId := by
  obtain hreads | ⟨run, hdoes⟩ := h
  · exact absurd hreads not_false
  · obtain hreads | ⟨hid, -, htarget, hmigration, -⟩ := hdoes.performs
    · exact absurd hreads not_false
    · obtain rfl : node = target := hdoes.admitted.target.symm.trans htarget.symm
      exact ⟨rfl, by rw [hmigration, hdoes.admitted.options_eq], run, hdoes, hid.symm⟩

/-- Only a restore commits without migrating: its target is that of the request, and its deeds
admitted it. -/
theorem restore_of_permits {request : Request} {ds : List FabricDeed} {checkpointId : Id}
    {attemptId : AttemptId} {target : NodeId} {token : FenceToken} {rollback : Bool}
    (h : request.Permits settings ds
      (.db (.restoreCommit checkpointId attemptId target token false rollback))) :
    request.restoreTarget = some target ∧
      ∃ id options run, RestoreDoes settings id target options [] ds
          (.db (.restoreCommit checkpointId attemptId target token false rollback)) run ∧
        options.migration = false ∧ run.ckpt.checkpointId = checkpointId := by
  cases request with
  | restore id node options ctx =>
    obtain ⟨rfl, hmigration, run, hdoes, hid⟩ := restore_of_restorePermits h
    exact ⟨by simp [Request.restoreTarget, hmigration], id, options, run, hdoes, hmigration, hid⟩
  | rollback id node ctx =>
    obtain ⟨rfl, hmigration, run, hdoes, hid⟩ := restore_of_restorePermits h
    exact ⟨rfl, id, _, run, hdoes, hmigration, hid⟩
  | migrate depth id node ctx =>
    obtain ⟨workloadId, hreads | ⟨run, hdoes⟩⟩ | ⟨id, start, hrestore⟩ := h
    · exact absurd hreads not_false
    · exact absurd (hdoes.performs.resolve_left not_false) not_false
    · exact absurd (restore_of_restorePermits hrestore).2.1 (by simp)
  | capture workloadId options ctx =>
    obtain hreads | ⟨run, hdoes⟩ := h
    · exact absurd hreads not_false
    · exact absurd (hdoes.performs.resolve_left not_false) not_false
  | _ => simp [Request.Permits, Forks, RecoveryPermits, RecoveryWrites, MonitorWrites, Rebinds,
      Op.Reads, StoreOp.Reads] at h

/-- A restore that goes to its commit has committed nothing. -/
theorem uncommitted_of_restoreDoes {tid : ℕ} {id checkpointId : Id} {target : NodeId}
    {options : RestoreOptions} {attemptId : AttemptId} {token : FenceToken}
    {migration rollback : Bool} {run : RestoreRun} (h : Run t)
    (hdoes : RestoreDoes settings id target options [] (deeds tid t)
      (.db (.restoreCommit checkpointId attemptId target token migration rollback)) run) :
    Uncommitted (deeds tid t) := by
  obtain ⟨nonce, ds₀, hid, hdrawn, hquiet⟩ := hdoes.admitted.drawn
  obtain ⟨recent, hrecent⟩ := hdrawn
  intro d hd hcommits
  rw [← hrecent] at hd
  rcases List.mem_append.mp hd with hd | hd
  · -- Since its nonce was drawn, the restore has only prepared.
    obtain ⟨later, earlier, rfl⟩ := List.append_of_mem hd
    have hsince : d ∈ since (drawsAttempt run.attemptId) (deeds tid t) := by
      have hsuffix : d :: (earlier ++ ⟨.random, .ok nonce⟩ :: ds₀) <:+ deeds tid t :=
        ⟨later, by rw [← hrecent, List.append_assoc, List.cons_append]⟩
      refine mem_since_of_drawn h hsuffix (List.mem_append_right earlier ?_)
      rw [hid]
      exact .head ds₀
    exact absurd (hdoes.inTurn 0 rfl d hsince 1 (restorePhase_of_commits hcommits)) (by decide)
  · rcases List.mem_cons.mp hd with rfl | hd
    · exact hcommits
    · have hreads := (hquiet d hd).resolve_right List.not_mem_nil
      exact nomatch (restorePhase_of_reads hreads).symm.trans (restorePhase_of_commits hcommits)

end Footprint

/-- If no event gives a claim to the reserved name, nothing is ever held under it. -/
theorem not_holds_migratingMarker
    (hsteps : EveryStep Undisturbed t) (id : Id) :
    ¬ (stateOf t).Holds id migratingMarker := by
  refine suffix_induction (P := fun past : List (Event (fabric settings)) =>
    ¬ (stateOf past).Holds id migratingMarker) (List.nil_suffix) ?_ ?_
  · rintro ⟨r, hr, -⟩
    exact nomatch hr
  · intro e past _ hpast hnot hholds
    exact (hsteps e past hpast).unmarked id ⟨hholds, hnot⟩

/-- What the target of a restore may find: nobody has the claim, or the target has it. -/
def KeptFor (w : World) (id : Id) (target : NodeId) : Prop :=
  ∃ r, w.workload id = some r ∧
    (r.singleActive → r.activeNode = none ∨ r.activeNode = some target)

/-- An event that gives the claim to no other node keeps the workload for the target. -/
theorem KeptFor.step {e : Event (fabric settings)} {id : Id} {target : NodeId} (h : Run (e :: t))
    (hkept : KeptFor (stateOf t) id target)
    (hother : ∀ node, Acquires e t id node → node = target) : KeptFor (after e) id target := by
  obtain ⟨r, hr, hactive⟩ := hkept
  obtain ⟨r', hr', hsingle⟩ :
      ∃ r', (after e).workload id = some r' ∧ r'.singleActive = r.singleActive := by
    rcases workloadStep_of_run h id with ⟨_, _, _, -, hstep⟩ | hsame
    · rw [hr] at hstep
      exact hstep.singleActive_eq
    · exact ⟨r, hsame.trans hr, rfl⟩
  refine ⟨r', hr', fun hsingle' => ?_⟩
  cases hnode : r'.activeNode with
  | none => exact .inl rfl
  | some node =>
    -- Whoever holds the claim now held it before, or acquired it here.
    by_cases hbefore : r.activeNode = some node
    · exact hbefore ▸ hactive (hsingle ▸ hsingle')
    · refine .inr (congrArg some (hother node ⟨⟨r', hr', hnode⟩, ?_⟩))
      rintro ⟨r₀, hr₀, hnode₀⟩
      obtain rfl := Option.some.inj (hr₀.symm.trans hr)
      exact hbefore hnode₀

/-- In a run of undisturbed steps every commit is exclusive. -/
theorem commit_exclusive (h : Run t)
    (hsteps : EveryStep Undisturbed t) : ∀ e ∈ t, ExclusiveCommit e := by
  intro e he commit hcommit
  obtain ⟨later, past, rfl⟩ := List.append_of_mem he
  have hsuffix : e :: past <:+ later ++ e :: past := List.suffix_append _ _
  have hrun : Run (e :: past) := h.of_suffix hsuffix
  obtain ⟨tid, checkpointId, attemptId, target, token, rollback, input, before, rfl, rfl⟩ :
      ∃ tid checkpointId attemptId target token rollback input before,
        e = .performed tid
          (.db (.restoreCommit checkpointId attemptId target token false rollback)) input before ∧
        commit = (checkpointId, target, before) := by
    unfold committedRestore at hcommit
    split at hcommit
    · split at hcommit
      · exact ⟨_, _, _, _, _, _, _, _, rfl, (Option.some.inj hcommit).symm⟩
      · exact absurd hcommit (Option.not_mem_none _)
    · exact absurd hcommit (Option.not_mem_none _)
  obtain ⟨request, hrequestOf, hpermits⟩ := permitted hrun
  obtain ⟨htarget, id, options, run, hdoes, hmigration, rfl⟩ := restore_of_permits hpermits
  have hrestore := hdoes.admitted
  have hrequest : (requestOf tid past).bind Request.restoreTarget = some target := by
    rw [hrequestOf]
    exact htarget
  obtain ⟨w, hread, hclaim⟩ := hrestore.claim
  obtain ⟨t₁, hsuffix₁, hdeed₁, hw⟩ := workload_of_read hrun.tail hread
  have hpast : ∀ {mid}, mid <:+ past → mid <:+ later ++ _ := fun hmid =>
    (hmid.trans (List.suffix_cons _ past)).trans hsuffix
  -- From the read of the row on, this restore awaits its commit.
  have hawaits : ∀ mid, t₁ <:+ mid → mid <:+ past →
      Awaits mid tid target run.ckpt.workloadId := by
    intro mid hmid hmidpast
    have hdeed := (deeds_suffix hmid).subset hdeed₁
    obtain ⟨hlive, hsame, hdeeds⟩ := live_between hrun.tail hrun.live hmidpast hdeed
    exact
      { live := hlive
        request := by rw [hsame, hrequest]
        read := ⟨w, hdeed⟩
        uncommitted := fun d hd => uncommitted_of_restoreDoes hrun.tail hdoes d (hdeeds.subset hd) }
  have hread : KeptFor (stateOf t₁) run.ckpt.workloadId target := by
    refine ⟨w, hw, fun hsingle => ?_⟩
    rw [hmigration] at hclaim
    cases hactive : w.activeNode with
    | none => exact .inl rfl
    | some active =>
      have hunmarked : active ≠ migratingMarker := by
        rintro rfl
        exact not_holds_migratingMarker (hsteps.of_suffix (hpast hsuffix₁)) _ ⟨w, hw, hactive⟩
      rcases Restore.validateTargetClaim_eq_ok_iff.mp hclaim hsingle active hactive with rfl | hmark
      · exact .inr rfl
      · exact absurd hmark hunmarked
  have hkept : KeptFor (stateOf past) run.ckpt.workloadId target := by
    refine suffix_induction (P := fun mid : List (Event (fabric settings)) =>
      KeptFor (stateOf mid) run.ckpt.workloadId target) hsuffix₁ hread ?_
    intro e mid hmid hmidpast hkept
    refine hkept.step (hrun.tail.of_suffix hmidpast) fun node hacquires => ?_
    exact (hsteps e mid (hpast hmidpast)).exclusive tid target _ node
      (hawaits mid hmid ((List.suffix_cons e mid).trans hmidpast)) hacquires
  obtain ⟨r, hr, hactive⟩ := hkept
  obtain ⟨t₂, hsuffix₂, -, row, hrow, hckpt⟩ := checkpoint_of_read hrun.tail hrestore.read
  obtain rfl := hrun.before_eq
  intro c hc r' hr' hsingle
  have hkey : run.ckpt.checkpointId = id := by
    rw [hckpt]
    exact (World.checkpointId_of_row hrow : row.checkpointId = id)
  obtain ⟨c', hc', howner⟩ := checkpoint_of_suffix hrun.tail hsuffix₂ hrow
  obtain rfl : c' = c := Option.some.inj (hc'.symm.trans (hkey ▸ hc))
  have howner : c'.workloadId = run.ckpt.workloadId := by
    rw [howner, hckpt]
    rfl
  rw [howner] at hr'
  obtain rfl := Option.some.inj (hr.symm.trans hr')
  exact hactive hsingle

section Settled

/-- The event admits a request for a restore. -/
def asksRestore : Event (fabric settings) → Bool
  | .admitted _ request _ => request.restoreTarget.isSome
  | _ => false

/-- A check of one step: whoever has a claim after it had the claim before, or got it while
nobody had asked for a restore. -/
def Settled (e : Event (fabric settings)) (past : List (Event (fabric settings))) : Prop :=
  ∀ r ∈ (after e).store.workloads.rows, ∀ node ∈ r.activeNode,
    ((stateOf past).workload r.workloadId).bind (·.activeNode) = some node ∨
      node ≠ migratingMarker ∧ ∀ e' ∈ past, asksRestore e' = false

instance (e : Event (fabric settings)) (past : List (Event (fabric settings))) :
    Decidable (Settled e past) :=
  inferInstanceAs (Decidable (∀ r ∈ (after e).store.workloads.rows, ∀ node ∈ r.activeNode,
    ((stateOf past).workload r.workloadId).bind (·.activeNode) = some node ∨
      node ≠ migratingMarker ∧ ∀ e' ∈ past, asksRestore e' = false))

theorem Undisturbed.of_settled {e : Event (fabric settings)}
    {past : List (Event (fabric settings))} (h : Settled e past) : Undisturbed e past := by
  have hnew : ∀ {id node}, Acquires e past id node →
      node ≠ migratingMarker ∧ ∀ e' ∈ past, asksRestore e' = false := by
    rintro id node ⟨⟨r, hr, hactive⟩, hnot⟩
    refine (h r (Table.mem_of_get hr) node hactive).resolve_left fun hbefore => hnot ?_
    obtain ⟨r', hr', hactive'⟩ := Option.bind_eq_some_iff.mp hbefore
    rw [World.workloadId_of_row hr] at hr'
    exact ⟨r', hr', hactive'⟩
  refine ⟨fun tid target id node hawaits hacquires => ?_, fun id hacquires =>
    (hnew hacquires).1 rfl⟩
  obtain ⟨request, hrequest, htarget⟩ := Option.bind_eq_some_iff.mp hawaits.request
  obtain ⟨before, hmem⟩ := exists_admitted_of_requestOf hrequest
  have hasks := (hnew hacquires).2 _ hmem
  simp [asksRestore, htarget] at hasks

end Settled

/-- A captured workload is restored to the node that has the claim. -/
def Demo.restored : List (Action (fabric Demo.settings)) :=
  Demo.captured ++ Demo.alone 3 (.restore 2 "n1" {} Demo.operator)

theorem commit_exclusive_restored :
    (∃ e ∈ (exec Demo.restored).trace, (committedRestore e).isSome) ∧
      ∀ e ∈ (exec Demo.restored).trace, ExclusiveCommit e := by
  have hsettled : EveryStep Settled (exec Demo.restored).trace := by decide +kernel
  have hsteps : EveryStep Undisturbed (exec Demo.restored).trace :=
    hsettled.mono fun _ _ => Undisturbed.of_settled
  exact ⟨by decide +kernel, commit_exclusive (exec_run Demo.restored) hsteps⟩

/-- The schedule of a restore that commits after another node has attached the workload. -/
def Demo.takeover : List (Action (fabric Demo.settings)) :=
  let restore := Request.restore 2 "n1" {} Demo.operator
  Demo.captured ++ Demo.register 3 "n2" ++ Demo.alone 4 (.workloadDetach 7 "n1") ++
    [.accept restore] ++ List.replicate 9 (.advance 5 ({} : Input)) ++
    Demo.alone 6 (.workloadAttach 7 "n2" "boot" 0 []) ++
    List.replicate 30 (.advance 5 ({} : Input))

/-- A commit that takes over a claim made after the restore was admitted. -/
theorem commit_takes_over_claim :
    ¬ ∀ (settings : Settings) (t : List (Event (fabric settings))), Run t →
      ∀ e ∈ t, ExclusiveCommit e := by
  intro hall
  have hbroken : ¬ ∀ e ∈ (exec Demo.takeover).trace, ExclusiveCommit e := by decide +kernel
  exact hbroken (hall Demo.settings _ (exec_run Demo.takeover))

end CheckpointFabric
