import CheckpointFabric.Alone.Recovery
import CheckpointFabric.Steps.Journal

/-!
# Recovery is complete

A pass of recovery that runs alone on any store that a run has left decides every ACTIVE
attempt, and succeeds. A second pass finds no attempt to decide. Time has passed in between, so it
may still find reservations whose time is over, of requests that stopped before their attempt
began.

## Main results

* `recoverable_of_run` — every store that a run has left can be recovered
* `reconcile_complete` — no attempt is left ACTIVE, and a second pass changes nothing but
  reservations whose time is over
* `reconcile_expires` — it does change such a reservation
-/

set_option autoImplicit false

namespace CheckpointFabric

open Concurrency Coordinator System Fabric

section Runs

variable {settings : Settings} {t : List (Event (fabric settings))}

/-- What the decisions of a pass rest on holds on every store that a run has left. -/
theorem recoverable_of_run (h : Run t) {a : AttemptRecord} {key : AttemptId}
    (ha : (stateOf t).attempt key = some a) : Recoverable (stateOf t).store a := by
  intro hkind hj
  have hopened := opened_of_run h ha
  cases hopened with
  | capture hcaptures hid _ hckpt =>
    obtain ⟨⟨tid, run, hcaptures', hid', hupdated⟩, -⟩ := captures_of_persisted h hj
    obtain ⟨rfl, hsame⟩ := hcaptures.unique h hcaptures' (hid.symm.trans hid'.symm)
    obtain ⟨c, hpersisted, hupdate⟩ := hupdated
    obtain ⟨e, t', hsuffix, hcalls⟩ := exists_calls_of_mem h hupdate
    obtain ⟨hrow, -⟩ := Store.checkpointUpdate_ok (StoreOp.of_map_ok hcalls.run)
    obtain ⟨old, hold⟩ := Option.isSome_iff_exists.mp hrow
    obtain ⟨c', hc', -⟩ := checkpoint_of_suffix h ((List.suffix_cons e t').trans hsuffix) hold
    refine ⟨_, hckpt, ?_⟩
    rw [hsame.checkpointId, ← hpersisted.staged.describes.checkpointId]
    exact Option.ne_none_iff_exists'.mpr ⟨c', hc'⟩
  | restore _ _ hrestore => exact absurd hkind hrestore

/-- The row of a reservation. -/
def World.reservation (w : World) (key : AttemptId) : Option Reservation :=
  w.store.reservations.get key

/-- The reservation is as it was, or was ACTIVE and its time is over at `now`. -/
def MayExpire (now : ℕ) (r r' : Reservation) : Prop :=
  r' = r ∨ r.state = .active ∧ r.expiresMs < now ∧ r' = { r with state := .expired }

/-- A pass that runs alone after a run succeeds. It leaves no attempt ACTIVE, and no reservation
of an attempt that was ACTIVE. -/
theorem reconcile_decides (h : Run t) {ctx : OperationContext} {w : World}
    {result : FabricResult RecoveryOutcome}
    (halone : Alone settings (reconcile ctx) (stateOf t) result w) :
    (∃ out, result = .ok out) ∧ (∀ key a, w.attempt key = some a → a.state ≠ .active) ∧
      ∀ key a r, (stateOf t).attempt key = some a → a.state = .active →
        w.reservation key = some r → r.state ≠ .active := by
  obtain ⟨hok, before, -, -, hrecovered⟩ :=
    halone.ends (ends_reconcile_recovers fun a ha => recoverable_of_run h ha)
  refine ⟨hok, fun key a ha => hrecovered.ne_active ha, fun key a r ha hactive hr => ?_⟩
  obtain rfl : a.id = key := Table.key_of_get ha
  exact hrecovered.released a ⟨ha, hactive⟩ List.not_mem_nil r hr

/-- A pass that finds no attempt ACTIVE decides nothing, and changes only nodes and reservations
whose time is over. -/
theorem reconcile_again {ctx : OperationContext} {w w' : World}
    {result : FabricResult RecoveryOutcome}
    (hnone : ∀ key a, w.attempt key = some a → a.state ≠ .active)
    (halone : Alone settings (reconcile ctx) w result w') :
    (∃ out, result = .ok out ∧ out.actions = []) ∧
      w'.store.workloads = w.store.workloads ∧ w'.store.checkpoints = w.store.checkpoints ∧
      w'.store.attempts = w.store.attempts ∧
      ∀ key, Option.Rel (MayExpire w'.clock) (w.reservation key) (w'.reservation key) := by
  have hends : Ends Snapshot.Step (fun result s' =>
      (∃ out, result = .ok out ∧ out.actions = []) ∧
        s'.store.workloads = w.store.workloads ∧ s'.store.checkpoints = w.store.checkpoints ∧
        s'.store.attempts = w.store.attempts ∧
        ∀ key, Option.Rel (MayExpire s'.clock) (w.reservation key)
          (s'.store.reservations.get key))
      (reconcile ctx) w.snapshot := ?_
  · exact halone.ends hends
  refine ends_reconcile fun before now n nodes expired stale _ hle => ?_
  have hempty : (w.store.reservationsExpire before).2.attemptsInState .active = [] := by
    refine List.eq_nil_iff_forall_not_mem.mpr fun a ha => ?_
    obtain ⟨hrow, hactive⟩ := mem_attemptsInState.mp ha
    exact hnone a.id a hrow hactive
  rw [show w.snapshot.store = w.store from rfl, hempty]
  refine ⟨⟨_, rfl, rfl⟩, rfl, rfl, rfl, fun key => ?_⟩
  rw [Store.reservationsExpire, World.reservation, Table.get_mapRows]
  cases w.store.reservations.get key with
  | none => exact .none
  | some r =>
    refine .some ?_
    dsimp only
    split
    · rename_i helapsed
      rw [Bool.and_eq_true, beq_iff_eq, decide_eq_true_iff] at helapsed
      exact .inr ⟨helapsed.1, helapsed.2.trans_le hle, rfl⟩
    · exact .inl rfl

/-- After any run a pass of recovery that runs alone comes to its end and succeeds. It leaves no
attempt ACTIVE and no reservation of an attempt that was ACTIVE. A second pass decides nothing,
and changes no checkpoint, attempt, workload or reservation, but that reservations whose time is
over expire. -/
theorem reconcile_complete (h : Run t) (ctx ctx' : OperationContext) :
    (∃ result w, Alone settings (reconcile ctx) (stateOf t) result w) ∧
    ∀ result w, Alone settings (reconcile ctx) (stateOf t) result w →
      (∃ out, result = .ok out) ∧ (∀ key a, w.attempt key = some a → a.state ≠ .active) ∧
      (∀ key a r, (stateOf t).attempt key = some a → a.state = .active →
        w.reservation key = some r → r.state ≠ .active) ∧
      ∀ result' w', Alone settings (reconcile ctx') w result' w' →
        (∃ out, result' = .ok out ∧ out.actions = []) ∧
          w'.store.workloads = w.store.workloads ∧ w'.store.checkpoints = w.store.checkpoints ∧
          w'.store.attempts = w.store.attempts ∧
          ∀ key, Option.Rel (MayExpire w'.clock) (w.reservation key) (w'.reservation key) := by
  refine ⟨⟨_, _, alone_eval 0 (reconcile ctx) (stateOf t)⟩, fun result w halone => ?_⟩
  obtain ⟨hok, hfinished, hreleased⟩ := reconcile_decides h halone
  exact ⟨hok, hfinished, hreleased, fun _ _ => reconcile_again hfinished⟩

end Runs

/-- A capture of the small fabric is cut off by a crash after `n` operations. -/
def Demo.cutOff (n : ℕ) : List (System.Action (fabric Demo.settings)) :=
  created ++ .accept (.capture 7 {} operator) :: List.replicate n (.advance 2 ({} : Input)) ++
    [.restart]

/-- A capture that is cut off while its attempt is ACTIVE. -/
theorem reconcile_complete_cutOff :
    ((stateOf (exec (Demo.cutOff 12)).trace).attempt (.capture 7 1)).map (·.state) =
      some .active ∧
    ∀ result w, Alone Demo.settings (reconcile Demo.operator)
        (stateOf (exec (Demo.cutOff 12)).trace) result w →
      ∃ out, result = .ok out :=
  ⟨by decide +kernel, fun result w halone =>
    ((reconcile_complete (exec_run (Demo.cutOff 12)) Demo.operator Demo.operator).2
      result w halone).1⟩

/-- A capture that is cut off between its reservation and its attempt leaves a reservation that
the second pass expires, when it comes after the reservation's time. -/
theorem reconcile_expires :
    ¬ ∀ result w, Alone Demo.settings (reconcile Demo.operator)
        (stateOf (exec (Demo.cutOff 9)).trace) result w →
      ∀ result' w', Alone Demo.settings (reconcile Demo.operator) w result' w' →
        ∀ key, w'.reservation key = w.reservation key := by
  intro h
  have hsame := h _ _ (alone_eval 0 _ _) _ _ (alone_eval 700000 _ _) (.capture 7 1)
  revert hsame
  decide +kernel

end CheckpointFabric
