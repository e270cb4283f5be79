import CheckpointFabric.Footprints.Decisions
import CheckpointFabric.Properties.Reconcile
import CheckpointFabric.Properties.Staleness

/-!
# A dry run of recovery

A request for recovery says whether it is a dry run. Nothing looks at that: the pass of recovery is
the same, and at its end it appends an audit record in any case. Besides, it changes the store
unless there was nothing to do.

## Main definitions

* `Handled` — a request is handled while nothing else runs
* `ChangesNothing` — what a dry run should be
* `NothingToDo` — no attempt is ACTIVE, no reservation's time is over, and no node is overdue

## Main results

* `ends_reconcile_idle` — what a pass does that finds no attempt ACTIVE
* `dryRun_changes` — no request changes nothing, and which ones change the audit trail only
-/

set_option autoImplicit false

namespace CheckpointFabric

open Concurrency Coordinator System Fabric

/-- The request is handled while nothing else runs, with the deeds `ds`. -/
abbrev Handled (settings : Settings) (req : RecoveryRequest) (w : World)
    (result : FabricResult RecoveryOutcome) (w' : World) (ds : List FabricDeed) : Prop :=
  Runs (Recorded (AloneStep (S := fabric settings) Op.Sound)) (serveRecovery settings req) (w, [])
    result (w', ds)

/-- No message was sent to a node. -/
def Untold (ds : List FabricDeed) : Prop :=
  ∀ d ∈ ds, ∀ node request, d.op ≠ .call node request

/-- No audit record was appended. -/
def Unaudited (ds : List FabricDeed) : Prop :=
  ∀ op, ⟨.db (.auditAppend op), .ok ()⟩ ∉ ds

/-- The tables are as they were, and no node was told anything. -/
structure ChangesNothing (s s' : Store) (ds : List FabricDeed) : Prop where
  store : s' = s
  audit : Unaudited ds
  nodes : Untold ds

/-- A pass of recovery at the time `now` finds nothing to do. -/
structure NothingToDo (staleMs now : ℕ) (s : Store) : Prop where
  attempts : ∀ key a, s.attempts.get key = some a → a.state ≠ .active
  reservations : ∀ r ∈ s.reservations.rows, r.state = .active → now ≤ r.expiresMs
  nodes : ∀ n ∈ s.nodes.rows, Store.overdue (now - staleMs) n = false

/-- The operation stays within the coordinator. -/
def Op.Local : Op → Prop
  | .call _ _ => False
  | _ => True

section Local

theorem uses_reconcileAttempt_local {a : AttemptRecord} : Uses Op.Local (reconcileAttempt a) := by
  refine uses_reconcileAttempt.mono fun op hop => ?_
  cases op with
  | call => exact absurd hop not_false
  | _ => trivial

/-- Reconciling sends no message. -/
theorem uses_reconcile_local {ctx : OperationContext} : Uses Op.Local (reconcile ctx) := by
  unfold reconcile
  refine Uses.bind ⟨trivial, fun _ => trivial⟩ fun _ => Uses.bind (uses_db trivial) fun _ => ?_
  refine Uses.bind ⟨trivial, fun _ => trivial⟩ fun _ => Uses.bind (uses_db trivial) fun stale => ?_
  refine Uses.bind ?_ fun _ => Uses.bind (uses_db trivial) fun attempts => ?_
  · exact Uses.forEach fun n _ => Uses.bind (uses_db trivial) fun _ => uses_db trivial
  · exact (Uses.mapEach fun a _ => uses_reconcileAttempt_local).bind fun _ => trivial

/-- Visiting the nodes writes nothing. -/
theorem uses_visitAction_quiet {action : RecoveryAction} : Uses Op.Quiet (visitAction action) :=
  uses_visitAction (fun _ => Op.quiet_of_reads) fun _ _ => trivial

end Local

section Idle

variable {s : Snapshot} {store : Store} {ctx : OperationContext} {staleMs before cutoff : ℕ}

/-- Declaring a node STALE that is STALE changes nothing. -/
theorem nodeSetStatus_of_stale {n : NodeId}
    (h : ∀ row, store.nodes.get n = some row → row.status = .stale) :
    store.nodeSetStatus n .stale = store := by
  unfold Store.nodeSetStatus
  rw [Table.modify_eq_self fun row hrow => ?_]
  rw [← h row hrow]

/-- What a sweep has found overdue is STALE after it. -/
theorem stale_of_mem_nodesSweepStale {n : NodeId} {row : NodeRecord}
    (hn : n ∈ (store.nodesSweepStale cutoff).1)
    (hrow : (store.nodesSweepStale cutoff).2.nodes.get n = some row) : row.status = .stale := by
  obtain ⟨old, hold, hoverdue⟩ := Staleness.mem_nodesSweepStale.mp hn
  rw [Staleness.get_nodesSweepStale, hold, Option.map_some, if_pos hoverdue] at hrow
  rw [← Option.some.inj hrow]

/-- So declaring them STALE again leaves the store as it is. -/
theorem ends_markStale_swept {stale : List NodeId}
    (h : ∀ n ∈ stale, ∀ row, s.store.nodes.get n = some row → row.status = .stale) :
    Ends Snapshot.Step
      (fun result s' => result = .ok () ∧ s'.store = s.store ∧ s.clock ≤ s'.clock)
      (markStale stale) s := by
  refine ends_forEach (fun n hn s₁ h₁ => ?_) ⟨rfl, Nat.le_refl _⟩
  obtain ⟨hstore, hclock⟩ := h₁
  refine ends_db_bind (fun _ => rfl) fun now m hnow _ => ?_
  refine ends_audit.weaken fun result s₂ h₂ => ⟨h₂.1, ?_, (hclock.trans hnow).trans h₂.2.2⟩
  rw [h₂.2.1, hstore]
  exact nodeSetStatus_of_stale (h n hn)

/-- A pass that finds no attempt ACTIVE expires reservations and sweeps nodes. -/
theorem ends_reconcile_idle
    (hnone : ∀ key a, s.store.attempts.get key = some a → a.state ≠ .active) :
    Ends Snapshot.Step (fun _ s' => ∃ before now, s.clock ≤ before ∧ before ≤ now ∧
        now ≤ s'.clock ∧ s'.store =
          ((s.store.reservationsExpire before).2.nodesSweepStale (now - ctx.staleMs)).2)
      (reconcile ctx) s := by
  unfold reconcile
  refine ends_now_bind fun before n₁ hbefore _ => ?_
  refine ends_db_bind (fun _ => rfl) fun now₂ n₂ h₂ _ => ?_
  refine ends_now_bind fun now n₃ h₃ _ => ?_
  refine ends_db_bind (fun _ => rfl) fun now₄ n₄ h₄ _ => ?_
  refine Ends.bind (ends_markStale_swept fun n hn row => stale_of_mem_nodesSweepStale hn)
    (fun _ s₅ h₅ => ?_) ?_
  · refine ends_db_bind (fun _ => rfl) fun now₆ n₆ h₆ _ => ?_
    have hempty : s₅.store.attemptsInState .active = [] := by
      refine List.eq_nil_iff_forall_not_mem.mpr fun a ha => ?_
      obtain ⟨hrow, hactive⟩ := mem_attemptsInState.mp ha
      rw [h₅.2.1] at hrow
      exact hnone a.id a hrow hactive
    rw [hempty]
    exact ⟨before, now, hbefore, h₂.trans h₃, (h₄.trans h₅.2.2).trans h₆, h₅.2.1⟩
  · rintro e s' ⟨h, -⟩
    cases h

/-- This changes nothing iff no reservation's time is over and no node is overdue. -/
theorem sweep_eq_self_iff :
    ((store.reservationsExpire before).2.nodesSweepStale cutoff).2 = store ↔
      (∀ r ∈ store.reservations.rows, r.state = .active → before ≤ r.expiresMs) ∧
        ∀ n ∈ store.nodes.rows, Store.overdue cutoff n = false := by
  have hstores : ((store.reservationsExpire before).2.nodesSweepStale cutoff).2 = store ↔
      (store.reservationsExpire before).2.reservations = store.reservations ∧
        (store.nodesSweepStale cutoff).2.nodes = store.nodes := by
    obtain ⟨⟩ := store
    simp [Store.reservationsExpire, Store.nodesSweepStale, and_comm]
  rw [hstores]
  unfold Store.reservationsExpire Store.nodesSweepStale
  dsimp only
  rw [Table.mapRows_eq_self_iff, Table.mapRows_eq_self_iff]
  refine and_congr ?_ ?_
  · refine forall₂_congr fun r _ => ?_
    obtain ⟨⟩ := r
    dsimp only
    split <;> simp_all
  · refine forall₂_congr fun n _ => ?_
    obtain ⟨⟩ := n
    dsimp only
    split <;> simp_all [Store.overdue]

/-- A node that is not overdue was not overdue before. -/
theorem overdue_eq_false_of_le {cutoff' : ℕ} {n : NodeRecord}
    (h : Store.overdue cutoff' n = false) (hle : cutoff ≤ cutoff') :
    Store.overdue cutoff n = false := by
  simp only [Store.overdue, Bool.and_eq_false_iff, decide_eq_false_iff_not] at h ⊢
  exact h.imp_right fun hlate => by omega

/-- What there is to do stays to be done. -/
theorem NothingToDo.anti {now now' : ℕ} (h : NothingToDo staleMs now' store) (hle : now ≤ now') :
    NothingToDo staleMs now store where
  attempts := h.attempts
  reservations r hr hactive := hle.trans (h.reservations r hr hactive)
  nodes n hn := overdue_eq_false_of_le (h.nodes n hn) (Nat.sub_le_sub_right hle staleMs)

end Idle

section Handled

variable {α : Type} {settings : Settings} {t : List (Event (fabric settings))}
  {ctx : OperationContext} {req : RecoveryRequest} {p : Fabric α} {result : FabricResult α}
  {s s' : World × List FabricDeed}

theorem store_of_runs_quiet (h : Uses Op.Quiet p)
    (hruns : Runs (Recorded (AloneStep (S := fabric settings) Op.Sound)) p s result s') :
    s'.1.store = s.1.store ∧ s.1.clock ≤ s'.1.clock := by
  have hends : Ends Snapshot.Step
      (fun _ s₁ => s₁.store = s.1.store ∧ s.1.clock ≤ s₁.clock) p s.1.snapshot := by
    refine Ends.of_uses h (fun op s₁ reply s₂ hop hstep h₁ => ?_) ⟨rfl, Nat.le_refl _⟩
    exact ⟨(hstep.store_of_quiet hop).trans h₁.1, h₁.2.trans hstep.clock⟩
  exact Alone.ends hruns.of_recorded hends

/-- A pass that is handled after a run has reconciled, and has written nothing afterwards. Without
actions it has done nothing else. -/
theorem exists_reconcile_of_runRecovery (h : Run t) {result : FabricResult RecoveryOutcome}
    (hruns : Runs (Recorded (AloneStep (S := fabric settings) Op.Sound)) (runRecovery ctx)
      (stateOf t, []) result s') :
    ∃ out s₁, Runs (Recorded (AloneStep (S := fabric settings) Op.Sound)) (reconcile ctx)
        (stateOf t, []) (.ok out) s₁ ∧
      s'.1.store = s₁.1.store ∧ s₁.1.clock ≤ s'.1.clock ∧
      (out.actions = [] → result = .ok out ∧ s' = s₁) := by
  rcases runs_bind.mp hruns with ⟨out, s₁, hreconcile, hrest⟩ | ⟨e, hreconcile, rfl⟩
  · refine ⟨out, s₁, hreconcile, ?_⟩
    have hquiet : Uses Op.Quiet
        (Program.forEach out.actions visitAction >>= fun _ => (pure out : Fabric RecoveryOutcome)) :=
      (Uses.forEach fun _ _ => uses_visitAction_quiet).bind fun _ => trivial
    obtain ⟨hstore, hclock⟩ := store_of_runs_quiet hquiet hrest
    refine ⟨hstore, hclock, fun hnone => ?_⟩
    rw [hnone] at hrest
    cases hrest
    exact ⟨rfl, rfl⟩
  · obtain ⟨⟨out, hok⟩, -⟩ := reconcile_decides h hreconcile.of_recorded
    cases hok

/-- So has a request. Without actions, the audit record is appended at the end. -/
theorem Handled.exists_reconcile (h : Run t) {result : FabricResult RecoveryOutcome} {w' : World}
    {ds : List FabricDeed} (hruns : Handled settings req (stateOf t) result w' ds) :
    ∃ out s₁, Runs (Recorded (AloneStep (S := fabric settings) Op.Sound))
        (reconcile (.forAuthority req.authority settings.staleMs)) (stateOf t, []) (.ok out) s₁ ∧
      w'.store = s₁.1.store ∧ s₁.1.clock ≤ w'.clock ∧
      (out.actions = [] → ds = ⟨.db (.auditAppend "coordinator.recovery"), .ok ()⟩ :: s₁.2) := by
  rcases runs_bind.mp hruns with ⟨out', s₂, hrecovery, hrest⟩ | ⟨e, hrecovery, rfl⟩
  · obtain ⟨out, s₁, hreconcile, hstore, hclock, hidle⟩ :=
      exists_reconcile_of_runRecovery h hrecovery
    have hquiet : Uses Op.Quiet ((audit "coordinator.recovery").ignore >>= fun _ =>
        (pure out' : Fabric RecoveryOutcome)) :=
      (Uses.ignore (uses_db trivial)).bind fun _ => trivial
    obtain ⟨hstore', hclock'⟩ := store_of_runs_quiet hquiet hrest
    refine ⟨out, s₁, hreconcile, hstore'.trans hstore, hclock.trans hclock', fun hnone => ?_⟩
    obtain ⟨-, rfl⟩ := hidle hnone
    cases hrest with
    | @perform _ _ reply _ _ s₃ _ hstep hrest =>
      have hreply : reply = .ok () := (congrArg Prod.fst (step_of_aloneStep hstep.1).effect).symm
      cases hrest
      rw [← hreply]
      exact hstep.2
  · obtain ⟨out, s₁, hreconcile, hstore, hclock, hidle⟩ :=
      exists_reconcile_of_runRecovery h hrecovery
    refine ⟨out, s₁, hreconcile, hstore, hclock, fun hnone => ?_⟩
    obtain ⟨herror, -⟩ := hidle hnone
    cases herror

/-- When the store is as it was, no attempt was ACTIVE, so the pass had no actions. -/
theorem idle_of_store_eq (h : Run t) {out : RecoveryOutcome}
    (hruns : Runs (Recorded (AloneStep (S := fabric settings) Op.Sound)) (reconcile ctx)
      (stateOf t, []) (.ok out) s')
    (hstore : s'.1.store = (stateOf t).store) :
    (∀ key a, (stateOf t).attempt key = some a → a.state ≠ .active) := by
  obtain ⟨-, hfinished, -⟩ := reconcile_decides h hruns.of_recorded
  intro key a hrow
  refine hfinished key a ?_
  rw [World.attempt, hstore]
  exact hrow

theorem actions_of_idle {w : World} {out : RecoveryOutcome}
    (hnone : ∀ key a, w.attempt key = some a → a.state ≠ .active)
    (hruns : Runs (Recorded (AloneStep (S := fabric settings) Op.Sound)) (reconcile ctx) (w, [])
      (.ok out) s') :
    out.actions = [] := by
  obtain ⟨⟨out', hok, hactions⟩, -⟩ := reconcile_again hnone hruns.of_recorded
  rwa [Except.ok.inj hok]

/-- Without attempts to decide, the store is as it was iff the sweeps find nothing. -/
theorem sweeps_of_idle {w : World} {out : RecoveryOutcome}
    (hnone : ∀ key a, w.attempt key = some a → a.state ≠ .active)
    (hruns : Runs (Recorded (AloneStep (S := fabric settings) Op.Sound)) (reconcile ctx) (w, [])
      (.ok out) s') :
    (s'.1.store = w.store → NothingToDo ctx.staleMs w.clock w.store) ∧
      (NothingToDo ctx.staleMs s'.1.clock w.store → s'.1.store = w.store) := by
  obtain ⟨before, now, hbefore, hnow, hlast, hstore⟩ :=
    Alone.ends hruns.of_recorded (ends_reconcile_idle hnone)
  have hstore : s'.1.store =
    ((w.store.reservationsExpire before).2.nodesSweepStale (now - ctx.staleMs)).2 := hstore
  have hbefore : w.clock ≤ before := hbefore
  have hlast : now ≤ s'.1.clock := hlast
  rw [hstore, sweep_eq_self_iff]
  constructor
  · rintro ⟨hreservations, hnodes⟩
    refine ⟨hnone, fun r hr hactive => hbefore.trans (hreservations r hr hactive), fun n hn => ?_⟩
    exact overdue_eq_false_of_le (hnodes n hn) (by omega)
  · intro hdone
    have hdone := hdone.anti hlast
    exact ⟨fun r hr hactive => hnow.trans (hdone.reservations r hr hactive), hdone.nodes⟩

theorem untold_of_local (h : Uses Op.Local p)
    (hruns : Runs (Recorded (AloneStep (S := fabric settings) Op.Sound)) p s result s')
    (huntold : Untold s.2) : Untold s'.2 := by
  have hobeys : Obeys (fun _ _ => True) (fun ds _ => Untold ds) s.2 p := by
    refine Obeys.of_uses h (fun ds op hlocal huntold => ⟨trivial, fun reply d hd => ?_⟩) huntold
    rcases List.mem_cons.mp hd with rfl | hd
    · rintro node request rfl
      exact hlocal
    · exact huntold d hd
  exact hobeys.of_runs hruns

end Handled

/-- After any run, every request for a dry run can be handled, and is handled like any other. It
never changes nothing, since it is audited. Apart from that, it leaves the store as it was only if
there was nothing to do when it came; and if there was nothing to do when it was done, it has left
the store as it was and told no node anything. -/
theorem dryRun_changes {settings : Settings} {t : List (Event (fabric settings))} (h : Run t)
    (authority : Authority) :
    (∃ result w' ds, Handled settings ⟨true, authority⟩ (stateOf t) result w' ds) ∧
    ∀ result w' ds, Handled settings ⟨true, authority⟩ (stateOf t) result w' ds →
      Handled settings ⟨false, authority⟩ (stateOf t) result w' ds ∧
      ¬ ChangesNothing (stateOf t).store w'.store ds ∧
      (w'.store = (stateOf t).store →
        NothingToDo settings.staleMs (stateOf t).clock (stateOf t).store) ∧
      (NothingToDo settings.staleMs w'.clock (stateOf t).store →
        w'.store = (stateOf t).store ∧ Untold ds) := by
  constructor
  · have halone : Alone settings (serveRecovery settings ⟨true, authority⟩) (stateOf t) _ _ :=
      alone_eval 0 _ _
    obtain ⟨ds, hruns⟩ := halone.exists_recorded []
    exact ⟨_, _, ds, hruns⟩
  intro result w' ds hruns
  obtain ⟨out, s₁, hreconcile, hstore, hclock, haudited⟩ := Handled.exists_reconcile h hruns
  refine ⟨hruns, fun hnothing => ?_, fun hsame => ?_, fun hdone => ?_⟩
  · have hidle := idle_of_store_eq h hreconcile (hstore.symm.trans hnothing.store)
    refine hnothing.audit "coordinator.recovery" ?_
    rw [haudited (actions_of_idle hidle hreconcile)]
    exact .head _
  · have hidle := idle_of_store_eq h hreconcile (hstore.symm.trans hsame)
    exact (sweeps_of_idle hidle hreconcile).1 (hstore.symm.trans hsame)
  · have hactions := actions_of_idle hdone.attempts hreconcile
    have hsame := (sweeps_of_idle hdone.attempts hreconcile).2 (hdone.anti hclock)
    refine ⟨hstore.trans hsame, fun d hd => ?_⟩
    rw [haudited hactions] at hd
    rcases List.mem_cons.mp hd with rfl | hd
    · rintro node request ⟨⟩
    · exact untold_of_local uses_reconcile_local hreconcile (by rintro _ ⟨⟩) d hd

/-- A dry run after a capture that was cut off finishes its attempt. -/
theorem dryRun_cutOff : ∃ result w' ds,
    Handled Demo.settings ⟨true, ⟨"operator", ["operator"]⟩⟩
      (stateOf (exec (Demo.cutOff 12)).trace) result w' ds ∧
    ((stateOf (exec (Demo.cutOff 12)).trace).attempt (.capture 7 1)).map (·.state) =
      some .active ∧
    (w'.attempt (.capture 7 1)).map (·.state) = some .failed ∧
    ¬ ChangesNothing (stateOf (exec (Demo.cutOff 12)).trace).store w'.store ds := by
  have halone : Alone Demo.settings
      (serveRecovery Demo.settings ⟨true, ⟨"operator", ["operator"]⟩⟩)
      (stateOf (exec (Demo.cutOff 12)).trace) _ _ := alone_eval 0 _ _
  obtain ⟨ds, hruns⟩ := halone.exists_recorded []
  refine ⟨_, _, ds, hruns, by decide +kernel, by decide +kernel, fun hnothing => ?_⟩
  have hsame := congrArg (fun s => (s.attempts.get (.capture 7 1)).map (·.state)) hnothing.store
  revert hsame
  decide +kernel

/-- The capture that was cut off is left by such a run. -/
theorem dryRun_changes_cutOff : ∃ result w' ds,
    Handled Demo.settings ⟨true, ⟨"operator", ["operator"]⟩⟩
      (stateOf (exec (Demo.cutOff 12)).trace) result w' ds ∧
    ¬ ChangesNothing (stateOf (exec (Demo.cutOff 12)).trace).store w'.store ds := by
  obtain ⟨⟨result, w', ds, hruns⟩, hchanges⟩ :=
    dryRun_changes (exec_run (Demo.cutOff 12)) ⟨"operator", ["operator"]⟩
  exact ⟨result, w', ds, hruns, (hchanges result w' ds hruns).2.1⟩

end CheckpointFabric
