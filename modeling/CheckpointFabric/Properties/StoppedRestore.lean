import CheckpointFabric.Alone.Recovery
import CheckpointFabric.Alone.StoppedRestore
import CheckpointFabric.Properties.FailedRestore
import CheckpointFabric.Properties.Reconcile
import CheckpointFabric.Properties.Verdicts

/-!
# A restore that the crash of its coordinator stops

The coordinator may stop between any two operations of a restore, and then recovery decides what
is left from the journal. Either nothing of the restore is left but a FAILED attempt, or its
commit stands.

Recovery does not get there from every point. It puts a checkpoint back only if the components are
journaled as restored, but the checkpoint has left AVAILABLE before that. And it releases the
reservations of ACTIVE attempts only, but a reservation is made before its attempt and released
after it.

## Main definitions

* `RestoreVoided`, `RestoreCompleted` — what recovery is to leave of a restore that was stopped
* `CanRecover` — recovery gets there from where the restore was stopped

## Main results

* `restore_recovered_iff` — recovery leaves one of the two iff it can
-/

set_option autoImplicit false

namespace CheckpointFabric

open Concurrency Coordinator System Fabric

section Definitions

variable (id : Id) (s s' : Store)

/-- No reservation that was made since `s` is held. -/
def AllReleased : Prop :=
  ∀ key r, s.reservations.get key = none → s'.reservations.get key = some r → r.state ≠ .active

/-- The restore of the checkpoint has not committed, and nothing of it is left. -/
structure RestoreVoided : Prop where
  lifecycle : ∀ c, s.checkpoints.get id = some c →
    c.lifecycle = .available ∨ c.lifecycle = .restored → s'.lifecycle id = some c.lifecycle
  workloads : ∀ id, Option.Rel SameAuthority (s.workloads.get id) (s'.workloads.get id)
  attempts : ∀ key a, s.attempts.get key = none → s'.attempts.get key = some a → a.state = .failed
  reservations : AllReleased s s'

/-- The restore of the checkpoint has committed, and it is finished. -/
structure RestoreCompleted : Prop where
  lifecycle : s'.lifecycle id = some .restored
  workload : ∃ c w w', s.checkpoints.get id = some c ∧ s.workloads.get c.workloadId = some w ∧
    s'.workloads.get c.workloadId = some w' ∧ w'.workloadGeneration = w.workloadGeneration + 1
  opened : ∃ key, s.attempts.get key = none ∧ s'.attempts.get key ≠ none
  attempts : ∀ key a, s.attempts.get key = none → s'.attempts.get key = some a →
    a.state ≠ .active ∧ a.state ≠ .failed
  reservations : AllReleased s s'

/-- What the restore has left in `s'` is enough for recovery at the time `now`. The checkpoint is
not on its way through the restore, or an ACTIVE attempt puts it back; and every reservation that
was made and is still held has an ACTIVE attempt, or its time is over. -/
structure CanRecover (now : ℕ) : Prop where
  journaled : ∀ c, s.checkpoints.get id = some c → c.lifecycle = .available →
    s'.lifecycle id = some .restorePending ∨ s'.lifecycle id = some .restoring → s'.Repairable id
  held : ∀ key r, s.reservations.get key = none → s'.reservations.get key = some r →
    r.state = .active → (∃ a, s'.attempts.get key = some a ∧ a.state = .active) ∨ r.expiresMs < now

end Definitions

section Recovery

variable {id : Id} {key : AttemptId} {c : CheckpointObject} {before : ℕ} {s s₁ : Store}
  {s' : Snapshot}

theorem get_reservationsExpire :
    (s.reservationsExpire before).2.reservations.get key = (s.reservations.get key).map fun r =>
      if r.state == .active && decide (r.expiresMs < before) then { r with state := .expired }
      else r := by
  rw [Store.reservationsExpire, Table.get_mapRows]

/-- Recovery leaves a reservation held if it has no ACTIVE attempt and its time is not over. -/
theorem Recovered.held_iff (h : Recovered before s s') :
    (∃ r, s'.store.reservations.get key = some r ∧ r.state = .active) ↔
      (∃ r, s.reservations.get key = some r ∧ r.state = .active ∧ before ≤ r.expiresMs) ∧
        ¬ ∃ a, s.attempts.get key = some a ∧ a.state = .active := by
  by_cases hactive : ∃ a, s.attempts.get key = some a ∧ a.state = .active
  · refine iff_of_false ?_ fun hheld => hheld.2 hactive
    obtain ⟨a, ha, hstate⟩ := hactive
    obtain rfl : a.id = key := Table.key_of_get ha
    rintro ⟨r, hr, hheld⟩
    exact h.released a ⟨ha, hstate⟩ List.not_mem_nil r hr hheld
  · have hkept := (h.kept key fun a ha hid => hactive ⟨a, hid ▸ ha.1, ha.2⟩).2
    rw [hkept, get_reservationsExpire]
    cases s.reservations.get key with
    | none => simp
    | some r =>
      by_cases hheld : r.state = .active
      · rcases Nat.lt_or_ge r.expiresMs before with hexpires | hexpires
        · simp [hheld, hexpires, Nat.not_le.mpr hexpires]
        · simp [hheld, hexpires, Nat.not_lt.mpr hexpires, hactive]
      · simp [hheld]

/-- What was reserved since `s` is released iff recovery can do so. -/
theorem Recovered.allReleased_iff (h : Recovered before s₁ s') :
    AllReleased s s'.store ↔ ∀ key r, s.reservations.get key = none →
      s₁.reservations.get key = some r → r.state = .active →
        (∃ a, s₁.attempts.get key = some a ∧ a.state = .active) ∨ r.expiresMs < before := by
  constructor
  · intro hreleased key r hnew hr hheld
    by_contra hstuck
    rw [not_or] at hstuck
    obtain ⟨r', hr', hheld'⟩ := h.held_iff.mpr ⟨⟨r, hr, hheld, Nat.not_lt.mp hstuck.2⟩, hstuck.1⟩
    exact hreleased key r' hnew hr' hheld'
  · intro hcan key r' hnew hr' hheld'
    obtain ⟨⟨r, hr, hheld, hexpires⟩, hnone⟩ := h.held_iff.mp ⟨r', hr', hheld'⟩
    exact (hcan key r hnew hr hheld).elim hnone (Nat.not_lt.mpr hexpires)

/-- Recovery opens no attempt. -/
theorem Recovered.get_attempts_of_none (h : Recovered before s s')
    (hnone : s.attempts.get key = none) : s'.store.attempts.get key = none := by
  refine (h.kept key fun a ha hid => ?_).1.trans hnone
  have hrow : s.attempts.get a.id = some a := ha.1
  rw [hid, hnone] at hrow
  cases hrow

/-- A checkpoint that is not on its way through a restore keeps its lifecycle. -/
theorem Recovered.lifecycle_of_putBack (h : Recovered before s s') (hsettled : s.Settled id)
    {lifecycle : LifecycleState} (hrow : s.lifecycle id = some lifecycle)
    (hback : lifecycle.putBack = lifecycle) : s'.store.lifecycle id = some lifecycle := by
  obtain ⟨hrepaired, hkept⟩ := h.lifecycles id hsettled
  by_cases hrepairable : s.Repairable id
  · rw [hrepaired hrepairable, hrow, Option.map_some, hback]
  · rw [hkept hrepairable, hrow]

/-- The finished attempt of a restore that recovery has found. -/
theorem Recovered.state_of_restore (h : Recovered before s s') {a a' : AttemptRecord}
    (ha : s.attempts.get key = some a) (hkind : a.kind ≠ .capture)
    (ha' : s'.store.attempts.get key = some a') :
    a.state = .active ∧ a'.state = restoreVerdict s key ∨ a.state ≠ .active ∧ a' = a := by
  obtain rfl : a.id = key := Table.key_of_get ha
  by_cases hactive : a.state = .active
  · exact .inl ⟨hactive, (h.finished a ⟨ha, hactive⟩ List.not_mem_nil a' ha').2 hkind⟩
  · refine .inr ⟨hactive, ?_⟩
    have hkept := (h.kept a.id fun b hb hid => ?_).1
    · exact Option.some.inj (ha'.symm.trans (hkept.trans ha))
    · have hrow : s.attempts.get b.id = some b := hb.1
      rw [hid] at hrow
      exact hactive (Option.some.inj (ha.symm.trans hrow) ▸ hb.2)

/-- A restore has not completed where the workloads are under the same authority. -/
theorem not_completed_of_rel {s s' : Store}
    (h : ∀ id, Option.Rel SameAuthority (s.workloads.get id) (s'.workloads.get id)) :
    ¬ RestoreCompleted id s s' := by
  rintro ⟨-, ⟨c, w, w', -, hw, hw', hgeneration⟩, -⟩
  have hrel := h c.workloadId
  rw [hw, hw'] at hrel
  cases hrel with
  | some hsame => exact absurd (hgeneration.symm.trans hsame.1) (Nat.succ_ne_self _)

end Recovery

section Outcomes

variable {id : Id} {key : AttemptId} {c : CheckpointObject} {before : ℕ} {s s₁ : Store}
  {s' : Snapshot}

/-- What the restore has left, when it is stopped. It has written nothing, or it was opened under a
fresh key. -/
def RestoreStopped (id : Id) (s s' : Store) : Prop :=
  s' = s ∨ ∃ key c, s.attempts.get key = none ∧ s.checkpoints.get id = some c ∧
    (c.lifecycle = .available ∨ c.lifecycle = .restored) ∧ RestoreLeft id key c s s'

theorem Store.SparesOthers.settled (h : s.SparesOthers key s₁) (hsettled : s.Settled id) :
    s₁.Settled id := by
  intro a ha hkind hid
  have hkey : a.id ≠ key := fun hkey => h.restores a (hkey ▸ ha.1) hkind
  have hpending : s.Pending a := ⟨(h.attempts a.id hkey).symm.trans ha.1, ha.2⟩
  exact (h.captures a.id .dbCommitted).mpr (hsettled a hpending hkind hid)

theorem Store.SparesOthers.recoverable (h : s.SparesOthers key s₁)
    (hrecoverable : ∀ a, s.attempts.get a.id = some a → Recoverable s a) (a : AttemptRecord)
    (ha : s₁.attempts.get a.id = some a) : Recoverable s₁ a := by
  by_cases hkey : a.id = key
  · exact fun hkind => absurd hkind (h.restores a (hkey ▸ ha))
  · rw [h.attempts a.id hkey] at ha
    exact (hrecoverable a ha).mono h.rows fun k => (h.captures k .persisted).mp

theorem putBack_of_restorable (h : c.lifecycle = .available ∨ c.lifecycle = .restored) :
    c.lifecycle.putBack = c.lifecycle := by
  rcases h with h | h <;> rw [h] <;> rfl

/-- The new attempts that recovery leaves are those that were there. -/
theorem Recovered.key_of_new (h : Recovered before s₁ s') (hspares : s.SparesOthers key s₁)
    {k : AttemptId} {a : AttemptRecord} (hnew : s.attempts.get k = none)
    (ha : s'.store.attempts.get k = some a) : k = key := by
  by_contra hkey
  have hnone := h.get_attempts_of_none ((hspares.attempts k hkey).trans hnew)
  exact nomatch hnone.symm.trans ha

/-- Recovery voids a restore that has not committed iff it can. -/
theorem voided_iff_of_open (h : Recovered before s₁ s') (hsettled : s₁.Settled id)
    (hc : s.checkpoints.get id = some c)
    (hstate : c.lifecycle = .available ∨ c.lifecycle = .restored)
    (hopen : RestoreOpen id key c s s₁) :
    RestoreVoided id s s'.store ↔ CanRecover id s s₁ before := by
  obtain ⟨c₁, hc₁, -, hunder⟩ := hopen.own
  have hrow : s₁.lifecycle id = some c₁.lifecycle := by rw [Store.lifecycle, hc₁, Option.map_some]
  constructor
  · intro hvoided
    refine ⟨fun c' hc' havailable hpending => ?_, h.allReleased_iff.mp hvoided.reservations⟩
    by_contra hrepairable
    have hsame := (h.lifecycles id hsettled).2 hrepairable
    rw [hvoided.lifecycle c' hc' (.inl havailable), havailable] at hsame
    rcases hpending with hpending | hpending <;> rw [hpending] at hsame <;> cases hsame
  · intro hcan
    refine ⟨fun c' hc' _ => ?_, fun id => hopen.workloads ▸ h.workloads id, fun k a hnew ha => ?_,
      h.allReleased_iff.mpr hcan.held⟩
    · obtain rfl := Option.some.inj (hc.symm.trans hc')
      rcases hunder with ⟨hsame, -⟩ | ⟨havailable, -, hpending⟩
      · exact h.lifecycle_of_putBack hsettled (hsame ▸ hrow) (putBack_of_restorable hstate)
      · have hpending' : s₁.lifecycle id = some .restorePending ∨
            s₁.lifecycle id = some .restoring :=
          hpending.imp (fun h => hrow.trans (congrArg some h)) fun h =>
            hrow.trans (congrArg some h)
        have hrepairable := hcan.journaled c hc havailable hpending'
        rw [(h.lifecycles id hsettled).1 hrepairable, havailable]
        rcases hpending' with hpending | hpending <;> rw [hpending] <;> rfl
    · obtain rfl := h.key_of_new hopen.toSparesOthers hnew ha
      cases ha₁ : s₁.attempts.get k with
      | none =>
        rw [h.get_attempts_of_none ha₁] at ha
        cases ha
      | some a₁ =>
        rcases h.state_of_restore ha₁ (hopen.restores a₁ ha₁) ha with ⟨-, hverdict⟩ | ⟨hne, rfl⟩
        · rw [hverdict, restoreVerdict, if_neg]
          exact fun hj => hopen.uncommitted (Store.journalHas_eq_true_iff.mp hj)
        · exact (hopen.undecided a ha₁).resolve_left hne

/-- Recovery completes a restore that has committed iff it can. -/
theorem completed_iff_of_landed (h : Recovered before s₁ s') (hsettled : s₁.Settled id)
    (hnew : s.attempts.get key = none) (hc : s.checkpoints.get id = some c)
    (hlanded : RestoreLanded id key c s s₁) :
    RestoreCompleted id s s'.store ↔ CanRecover id s s₁ before := by
  obtain ⟨c₁, hc₁, hrestored⟩ := hlanded.restored
  have hrow : s₁.lifecycle id = some .restored := by
    rw [Store.lifecycle, hc₁, Option.map_some, hrestored]
  obtain ⟨a₁, ha₁, hopened⟩ := hlanded.opened
  constructor
  · intro hcompleted
    refine ⟨fun c' _ _ hpending => ?_, h.allReleased_iff.mp hcompleted.reservations⟩
    rw [hrow] at hpending
    rcases hpending with hpending | hpending <;> cases hpending
  · intro hcan
    obtain ⟨w, w₁, hw, hw₁, hgeneration⟩ := hlanded.advanced
    refine ⟨h.lifecycle_of_putBack hsettled hrow rfl, ?_, ⟨key, hnew, ?_⟩, fun k a hnew' ha => ?_,
      h.allReleased_iff.mpr hcan.held⟩
    · have hrel := h.workloads c.workloadId
      generalize hw' : s'.store.workloads.get c.workloadId = row at hrel
      rw [show (s₁.reservationsExpire before).2.workloads.get c.workloadId = some w₁ from hw₁]
        at hrel
      cases hrel with
      | some hsame => exact ⟨c, w, _, hc, hw, hw', hsame.1.trans hgeneration⟩
    · exact h.opened key (by
        rw [show (s₁.reservationsExpire before).2.attempts.get key = some a₁ from ha₁]
        exact Option.some_ne_none _)
    · obtain rfl := h.key_of_new hlanded.toSparesOthers hnew' ha
      rcases h.state_of_restore ha₁ (hlanded.restores a₁ ha₁) ha with ⟨-, hverdict⟩ | ⟨hne, rfl⟩
      · rw [hverdict, restoreVerdict, if_pos (Store.journalHas_eq_true_iff.mpr hlanded.committed)]
        decide
      · exact ⟨hne, hopened⟩

/-- A restore that has committed is not voided. -/
theorem not_voided_of_landed (h : Recovered before s₁ s') (hlanded : RestoreLanded id key c s s₁) :
    ¬ RestoreVoided id s s'.store := by
  intro hvoided
  obtain ⟨w, w₁, hw, hw₁, hgeneration⟩ := hlanded.advanced
  have hrel : Option.Rel SameAuthority (s₁.workloads.get c.workloadId)
    (s'.store.workloads.get c.workloadId) := h.workloads c.workloadId
  have hrel' := hvoided.workloads c.workloadId
  rw [hw₁] at hrel
  rw [hw] at hrel'
  generalize s'.store.workloads.get c.workloadId = row at hrel hrel'
  cases hrel with
  | some hsame =>
    cases hrel' with
    | some hsame' =>
      exact absurd ((hgeneration.symm.trans hsame.1.symm).trans hsame'.1) (Nat.succ_ne_self _)

/-- Recovery finds nothing of a restore that has written nothing. -/
theorem voided_of_unchanged (h : Recovered before s s')
    (hsettled : ∀ c, s.checkpoints.get id = some c →
      c.lifecycle = .available ∨ c.lifecycle = .restored → s.Settled id) :
    RestoreVoided id s s'.store where
  lifecycle := fun c hc hstate => by
    refine h.lifecycle_of_putBack (hsettled c hc hstate) ?_ (putBack_of_restorable hstate)
    rw [Store.lifecycle, hc, Option.map_some]
  workloads := h.workloads
  attempts := fun key a hnew ha => nomatch (h.get_attempts_of_none hnew).symm.trans ha
  reservations := h.allReleased_iff.mpr fun key r hnew hr => nomatch hnew.symm.trans hr

theorem canRecover_of_unchanged : CanRecover id s s before where
  journaled := fun c hc havailable hpending => by
    rw [Store.lifecycle, hc, Option.map_some, havailable] at hpending
    rcases hpending with hpending | hpending <;> cases hpending
  held := fun key r hnew hr => nomatch hnew.symm.trans hr

/-- From wherever the restore is stopped, recovery leaves exactly one of the two outcomes iff it
can. -/
theorem RestoreStopped.recovered_iff (hstopped : RestoreStopped id s s₁)
    (h : Recovered before s₁ s')
    (hsettled : ∀ c, s.checkpoints.get id = some c →
      c.lifecycle = .available ∨ c.lifecycle = .restored → s.Settled id) :
    Xor (RestoreVoided id s s'.store) (RestoreCompleted id s s'.store) ↔
      CanRecover id s s₁ before := by
  rcases hstopped with rfl | ⟨key, c, hnew, hc, hstate, hopen | hlanded⟩
  · exact iff_of_true (.inl ⟨voided_of_unchanged h hsettled, not_completed_of_rel h.workloads⟩)
      canRecover_of_unchanged
  · have hsettled₁ := hopen.toSparesOthers.settled (hsettled c hc hstate)
    have hincomplete : ¬ RestoreCompleted id s s'.store :=
      not_completed_of_rel fun id => hopen.workloads ▸ h.workloads id
    rw [← voided_iff_of_open h hsettled₁ hc hstate hopen]
    exact ⟨fun hxor => (hxor.resolve_right fun hcompleted => hincomplete hcompleted.1).1,
      fun hvoided => .inl ⟨hvoided, hincomplete⟩⟩
  · have hsettled₁ := hlanded.toSparesOthers.settled (hsettled c hc hstate)
    have hunvoided := not_voided_of_landed h hlanded
    rw [← completed_iff_of_landed h hsettled₁ hnew hc hlanded]
    exact ⟨fun hxor => (hxor.resolve_left fun hvoided => hunvoided hvoided.1).1,
      fun hcompleted => .inr ⟨hcompleted, hunvoided⟩⟩

end Outcomes

section Runs

variable {settings : Settings} {t : List (Event (fabric settings))} {id : Id}

/-- Every capture of a checkpoint that can be seen is committed. -/
theorem settled_of_run (h : Run t) {c : CheckpointObject} (hc : (stateOf t).checkpoint id = some c)
    (hvisible : c.lifecycle.Visible) : (stateOf t).store.Settled id := by
  intro a ha hkind hid
  have hcommitted := Verdicts.committed_of_visible h hc hvisible
  have hrow : (stateOf t).attempt a.id = some a := ha.1
  cases opened_of_run h hrow with
  | @capture tid run hcaptures hattempt _ hcheckpoint =>
    obtain rfl : id = run.checkpointId := Option.some.inj (hid.symm.trans hcheckpoint)
    obtain ⟨workloadId, nonce, ds₀, hdrawn⟩ := hcaptures.drawn
    rw [hcaptures.captureAttempt_eq h hc, hdrawn.attemptId] at hcommitted
    rw [hattempt, hdrawn.attemptId]
    exact hcommitted
  | restore _ _ hnot => exact absurd hkind hnot

variable {targetNode : NodeId} {options : RestoreOptions} {ctx : OperationContext} {s : Snapshot}

/-- What a restore has left wherever it is stopped. -/
theorem stays_requestRestore (hfresh : FreshRestores id s)
    (hstate : ∀ c, s.store.checkpoints.get id = some c →
      Restore.validateRestoreRequest (Store.readCheckpoint c) settings.policy = .ok () →
      c.lifecycle = .available ∧ c.integrityState = .valid ∨ c.lifecycle = .restored) :
    Stays (RestoreStopped id s.store) (fun _ _ => True)
      (requestRestore settings id targetNode options ctx) s := by
  have hreading : Stays (RestoreStopped id s.store) (fun _ _ => True)
      (admitRestore settings id targetNode options ctx) s :=
    (stays_quiet (uses_admitRestore.mono fun _ => Op.quiet_of_reads)).weaken (fun _ => .inl)
      fun _ _ _ h => h
  unfold requestRestore
  refine Throughout.bind (hreading.and ends_admitRestore) (fun run s₁ _ h₁ => ?_)
    fun _ _ _ _ => trivial
  obtain ⟨-, hstore, hchosen⟩ := h₁
  obtain ⟨-, ⟨c, hc, hckpt, hrestorable⟩, nonce, hkey, hnonce⟩ := hchosen run rfl
  have hid : run.ckpt.checkpointId = id := by
    rw [hckpt]
    exact (Table.key_of_get hc : c.checkpointId = id)
  have hstates := hstate c hc (hckpt ▸ hrestorable)
  -- The nonce is fresh, so no attempt and no commit bears the key of this restore yet.
  have hattempt : s.store.attempts.get run.attemptId = none := by
    by_contra hrow
    exact absurd (hfresh.attempts nonce (hkey ▸ hrow)) (Nat.not_lt.mpr hnonce)
  have huncommitted : ¬ s.store.Journaled .restore run.attemptId .generationCommitted :=
    fun hj => absurd (hfresh.commits nonce (hkey ▸ hj)) (Nat.not_lt.mpr hnonce)
  subst hid
  have hopen : run.Open c s.store s₁.store := by
    rw [hstore]
    exact restoreOpen_of_fresh hc hattempt huncommitted
  have hleft {s' : Store} (h : run.Left c s.store s') :
      RestoreStopped run.ckpt.checkpointId s.store s' :=
    .inr ⟨run.attemptId, c, hattempt, hc, hstates.imp_left And.left, h⟩
  refine Throughout.bind ((stays_reserveRestore hopen (hstore ▸ hattempt)).weaken
    (fun _ h => hleft (.inl h)) fun _ _ _ h => h) (fun _ s₂ _ h₂ => ?_) fun _ _ _ _ => trivial
  exact (stays_executeOrAbortRestore hstates (h₂ rfl)).weaken (fun _ => hleft) fun _ _ _ => id

/-- After any run a restore of a checkpoint is stopped at any point by a crash of the coordinator,
and a pass of recovery runs alone when it has started again. Then the restore is voided or
completed, and not both, iff what it has left is enough for recovery at the time that the pass
goes by. -/
theorem restore_recovered_iff (h : Run t) {rest : Fabric OperationOutcome} {ctx' : OperationContext}
    {w w' : World} {result : FabricResult RecoveryOutcome}
    (hstop : Reaches (System.AloneStep (S := fabric settings) Op.Sound)
      (requestRestore settings id targetNode options ctx) (stateOf t) rest w)
    (hrecovery : Alone settings (runRecovery ctx') w.restart result w') :
    ∃ now, w.clock ≤ now ∧ now ≤ w'.clock ∧
      (Xor (RestoreVoided id (stateOf t).store w'.store)
          (RestoreCompleted id (stateOf t).store w'.store) ↔
        CanRecover id (stateOf t).store w.store now) := by
  have hstopped : RestoreStopped id (stateOf t).store w.store :=
    ((stays_requestRestore (freshRestores_of_run h) fun c => state_of_restorable h).of_reaches
      (hstop.map fun _ _ _ _ => step_of_aloneStep)).start
  have hrecoverable : ∀ a, w.store.attempts.get a.id = some a → Recoverable w.store a := by
    have hrun : ∀ a, (stateOf t).store.attempts.get a.id = some a →
        Recoverable (stateOf t).store a := fun a ha => recoverable_of_run h ha
    rcases hstopped with hsame | ⟨key, c, -, -, -, hopen | hlanded⟩
    · rwa [hsame]
    · exact hopen.toSparesOthers.recoverable hrun
    · exact hlanded.toSparesOthers.recoverable hrun
  obtain ⟨before, hbefore, hle, hrecovered⟩ :=
    hrecovery.ends (ends_runRecovery_recovers hrecoverable)
  refine ⟨before, hbefore, hle, hstopped.recovered_iff hrecovered fun c hc hstate => ?_⟩
  refine settled_of_run h hc ?_
  rcases hstate with hstate | hstate <;> rw [hstate] <;> trivial

end Runs

/-- The small fabric when its first restore is stopped after `n` operations. -/
def Demo.stopped (n : ℕ) : World :=
  ((requestRestore Demo.settings 2 "n1" {} Demo.operator).stopAfter
    (World.answerAfter Demo.codecs 0) n (stateOf (exec Demo.captured).trace)).2

/-- What recovery makes of it. -/
def Demo.recovered (n : ℕ) : World :=
  ((runRecovery Demo.operator).eval (World.answerAfter Demo.codecs 0)
    (Demo.stopped n).restart).2

theorem Demo.reaches_stopped (n : ℕ) : ∃ rest,
    Reaches (System.AloneStep (S := fabric Demo.settings) Op.Sound)
      (requestRestore Demo.settings 2 "n1" {} Demo.operator)
      (stateOf (exec Demo.captured).trace) rest (Demo.stopped n) :=
  ⟨_, reaches_stopAfter (aloneStep_answerAfter 0) n _ _⟩

/-- Stopped when its components are journaled as restored, the restore of the small fabric is
voided; stopped after its commit, it is completed. -/
theorem restore_recovered_stopped :
    RestoreVoided 2 (stateOf (exec Demo.captured).trace).store (Demo.recovered 18).store ∧
      RestoreCompleted 2 (stateOf (exec Demo.captured).trace).store (Demo.recovered 21).store := by
  have hrecovers (n : ℕ)
      (hback : (Demo.stopped n).store.Repairable 2 ∨
        (Demo.stopped n).store.lifecycle 2 = some .restored)
      (hheld : ∀ r ∈ (Demo.stopped n).store.reservations.rows, r.state = .active →
        ∃ a ∈ (Demo.stopped n).store.attempts.get r.id, a.state = .active) :
      Xor (RestoreVoided 2 (stateOf (exec Demo.captured).trace).store (Demo.recovered n).store)
        (RestoreCompleted 2 (stateOf (exec Demo.captured).trace).store
          (Demo.recovered n).store) := by
    obtain ⟨rest, hreaches⟩ := Demo.reaches_stopped n
    obtain ⟨now, -, -, hiff⟩ :=
      restore_recovered_iff (exec_run Demo.captured) hreaches (alone_eval 0 _ _)
    refine hiff.mpr ⟨fun _ _ _ hpending => hback.resolve_right fun hrestored => ?_,
      fun key r _ hr hactive => .inl ?_⟩
    · rw [hrestored] at hpending
      rcases hpending with hpending | hpending <;> cases hpending
    · obtain rfl : r.id = key := Table.key_of_get hr
      exact hheld r (Table.mem_of_get hr) hactive
  have hrepairable : (Demo.stopped 18).store.Repairable 2 := by
    obtain ⟨a, ha, hactive, hkind, hid, hrestored, huncommitted⟩ :
        ∃ a ∈ (Demo.stopped 18).store.attempts.get (.restore 2 3), a.state = .active ∧
          a.kind ≠ .capture ∧ a.checkpointId = some 2 ∧
          (Demo.stopped 18).store.journalHas .restore (.restore 2 3) .componentsRestored = true ∧
          (Demo.stopped 18).store.journalHas .restore (.restore 2 3) .generationCommitted =
            false := by
      decide +kernel
    obtain hkey : a.id = .restore 2 3 := Table.key_of_get ha
    refine ⟨a, ⟨hkey ▸ ha, hactive⟩, hkind, hid, ?_, fun hj => ?_⟩
    · exact hkey ▸ Store.journalHas_eq_true_iff.mp hrestored
    · rw [hkey, ← Store.journalHas_eq_true_iff, huncommitted] at hj
      cases hj
  refine ⟨(hrecovers 18 (.inl hrepairable) (by decide +kernel)).elim And.left fun h => ?_,
    (hrecovers 21 (.inr (by decide +kernel)) (by decide +kernel)).elim (fun h => ?_) And.left⟩
  · exact absurd h.1.lifecycle (by decide +kernel)
  · obtain ⟨c, hc, havailable⟩ : ∃ c ∈ (stateOf (exec Demo.captured).trace).checkpoint 2,
        c.lifecycle = .available := by decide +kernel
    refine absurd (h.1.lifecycle c hc (.inl havailable)) ?_
    rw [havailable]
    decide +kernel

/-- Stopped when the target is being provisioned, it is neither. The checkpoint stays RESTORING, and
no attempt is ACTIVE. -/
theorem restore_recovered_provisioning : ∃ rest result,
    Reaches (System.AloneStep (S := fabric Demo.settings) Op.Sound)
      (requestRestore Demo.settings 2 "n1" {} Demo.operator)
      (stateOf (exec Demo.captured).trace) rest (Demo.stopped 15) ∧
    Alone Demo.settings (runRecovery Demo.operator) (Demo.stopped 15).restart result
      (Demo.recovered 15) ∧
    (Demo.recovered 15).store.lifecycle 2 = some .restoring ∧
    (∀ key a, (Demo.recovered 15).attempt key = some a → a.state ≠ .active) ∧
    ¬ RestoreVoided 2 (stateOf (exec Demo.captured).trace).store (Demo.recovered 15).store ∧
    ¬ RestoreCompleted 2 (stateOf (exec Demo.captured).trace).store (Demo.recovered 15).store := by
  obtain ⟨rest, hreaches⟩ := Demo.reaches_stopped 15
  have hrestoring : (Demo.recovered 15).store.lifecycle 2 = some .restoring := by decide +kernel
  have hrows : ∀ a ∈ (Demo.recovered 15).store.attempts.rows, a.state ≠ .active := by
    decide +kernel
  obtain ⟨c, hc, havailable⟩ : ∃ c ∈ (stateOf (exec Demo.captured).trace).checkpoint 2,
      c.lifecycle = .available := by decide +kernel
  refine ⟨rest, _, hreaches, alone_eval 0 _ _, hrestoring,
    fun key a ha => hrows a (Table.mem_of_get ha), fun hvoided => ?_, fun hcompleted => ?_⟩
  · have hback := hvoided.lifecycle c hc (.inl havailable)
    rw [hrestoring, havailable] at hback
    cases hback
  · exact nomatch hrestoring.symm.trans hcompleted.lifecycle

end CheckpointFabric
