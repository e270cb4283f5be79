import CheckpointFabric.Steps.Checkpoints
import CheckpointFabric.Steps.Workloads

/-!
# The store along a run

A reply that a thread got says something about the store at the event that gave it.
Between that event and now the store may have changed, one step of every row at a
time.

## Main definitions

* `Calls` — the event is a successful call of the store

## Main results

* `exists_run_of_deed` — a call that succeeded did so at some event
* `calls_or_leavesTables` — an event is a successful call of the store, or leaves the tables
* `workload_of_read`, `checkpoint_of_read` — the rows that a thread has read
* `workload_rel_of_run`, `checkpoint_rel_of_run` — what every step of a row respects relates
  the row at any two points of a run
* `issued_le_of_run` — used identities stay used
-/

set_option autoImplicit false

namespace CheckpointFabric

open Concurrency System

variable {settings : Settings} {t : List (Event (fabric settings))} {tid : ℕ}

/-- A call of the store that is answered ran, and its store is the one that is left. -/
theorem World.run_of_handle_ok {codecs : Codecs} {op : StoreOp} {input : Input} {w : World}
    {reply : op.Reply} (h : (World.handle codecs (.db op) input w).1 = .ok reply) :
    op.run w.clock w.store = .ok (reply, (World.handle codecs (.db op) input w).2.store) := by
  rw [World.fst_handle_db] at h
  rw [World.store_handle_db]
  rcases StoreOp.execute_cases w.clock input.fault op w.store with
    ⟨e, he⟩ | ⟨reply', s', -, hrun, he⟩
  · simp [he] at h
  · rw [he] at h ⊢
    exact Except.ok.inj h ▸ hrun

theorem World.run_of_isSome {codecs : Codecs} {op : StoreOp} {input : Input} {w : World}
    (h : (World.handle codecs (.db op) input w).1.toOption.isSome) :
    ∃ reply, op.run w.clock w.store =
      .ok (reply, (World.handle codecs (.db op) input w).2.store) := by
  cases hreply : (World.handle codecs (.db op) input w).1 with
  | error e => simp [hreply, Except.toOption] at h
  | ok reply => exact ⟨reply, World.run_of_handle_ok hreply⟩

/-- A call of the store that meets no fault is answered. -/
theorem World.reply_of_run {codecs : Codecs} {op : StoreOp} {input : Input} {w : World}
    {reply : op.Reply} {s : Store} (hfault : input.fault = none)
    (h : op.run w.clock w.store = .ok (reply, s)) :
    (World.handle codecs (.db op) input w).1 = .ok reply := by
  rw [World.fst_handle_db, hfault]
  unfold StoreOp.execute
  rw [h]

/-- A call of the store that succeeded did so at an event of the run. -/
theorem exists_run_of_deed {op : StoreOp} {reply : op.Reply} {ds : List FabricDeed} (h : Run t)
    (hd : (⟨.db op, .ok reply⟩ : FabricDeed) :: ds <:+ deeds tid t) :
    ∃ input t', .performed tid (.db op) input (stateOf t') :: t' <:+ t ∧
      deeds tid (.performed tid (.db op) input (stateOf t') :: t' : List (Event (fabric settings)))
        = ⟨.db op, .ok reply⟩ :: ds ∧
      op.run (stateOf t').clock (stateOf t').store =
        .ok (reply, (World.handle settings.codecs (.db op) input (stateOf t')).2.store) := by
  obtain ⟨input, t', hsuffix, hds, hreply⟩ := exists_event_of_deed h hd
  refine ⟨input, t', hsuffix, ?_, ?_⟩
  · rw [deeds_performed, hds, ← hreply]
  exact World.run_of_handle_ok hreply.symm

/-- The event is a successful call of the store by the thread. -/
def Calls (e : Event (fabric settings)) (past : List (Event (fabric settings))) (tid : ℕ)
    (op : StoreOp) (reply : op.Reply) : Prop :=
  ∃ input, e = .performed tid (.db op) input (stateOf past) ∧
    (World.handle settings.codecs (.db op) input (stateOf past)).1 = .ok reply

section Calls

variable {e : Event (fabric settings)} {op : StoreOp} {reply : op.Reply}

theorem Calls.run (h : Calls e t tid op reply) :
    op.run (stateOf t).clock (stateOf t).store = .ok (reply, (after e).store) := by
  obtain ⟨input, rfl, hreply⟩ := h
  exact World.run_of_handle_ok hreply

theorem Calls.deeds_eq (h : Calls e t tid op reply) :
    deeds tid (e :: t) = ⟨.db op, .ok reply⟩ :: deeds tid t := by
  obtain ⟨input, rfl, hreply⟩ := h
  rw [deeds_performed, hreply]

/-- An event is one call at most. -/
theorem Calls.op_eq {tid' : ℕ} {op' : StoreOp} {reply' : op'.Reply} (h : Calls e t tid op reply)
    (h' : Calls e t tid' op' reply') : op = op' := by
  obtain ⟨input, rfl, -⟩ := h
  obtain ⟨input', he, -⟩ := h'
  exact Op.db.inj (Event.performed.inj he).2.1

/-- A call that has succeeded did so at an event of the run. -/
theorem exists_calls_of_deed {ds : List FabricDeed} (h : Run t)
    (hd : (⟨.db op, .ok reply⟩ : FabricDeed) :: ds <:+ deeds tid t) :
    ∃ e t', e :: t' <:+ t ∧ Calls e t' tid op reply ∧ deeds tid t' = ds := by
  obtain ⟨input, t', hsuffix, hds, hreply⟩ := exists_event_of_deed h hd
  exact ⟨_, t', hsuffix, ⟨input, rfl, hreply.symm⟩, hds⟩

theorem exists_calls_of_mem (h : Run t) (hd : (⟨.db op, .ok reply⟩ : FabricDeed) ∈ deeds tid t) :
    ∃ e t', e :: t' <:+ t ∧ Calls e t' tid op reply := by
  obtain ⟨later, ds, hsplit⟩ := List.append_of_mem hd
  obtain ⟨e, t', hsuffix, hcalls, -⟩ := exists_calls_of_deed h ⟨later, hsplit.symm⟩
  exact ⟨e, t', hsuffix, hcalls⟩

/-- The call of the store that an event has made, and its thread. -/
def callOf : Event (fabric settings) → Option (ℕ × StoreOp)
  | .performed tid (.db op) input before =>
    if (World.handle settings.codecs (.db op) input before).1.toOption.isSome then some (tid, op)
    else none
  | _ => none

theorem Calls.callOf_eq (h : Calls e t tid op reply) : callOf e = some (tid, op) := by
  obtain ⟨input, rfl, hreply⟩ := h
  rw [callOf, hreply]
  rfl

theorem exists_calls_of_callOf (h : Run (e :: t)) (hcall : callOf e = some (tid, op)) :
    ∃ reply, Calls e t tid op reply := by
  unfold callOf at hcall
  split at hcall
  · rename_i tid' op' input before
    split at hcall
    · rename_i hok
      obtain ⟨rfl, rfl⟩ := Prod.mk.inj (Option.some.inj hcall)
      obtain rfl := h.before_eq
      cases hreply : (World.handle settings.codecs (.db op') input (stateOf t)).1 with
      | error err =>
        rw [hreply] at hok
        exact absurd hok (by simp [Except.toOption])
      | ok reply => exact ⟨reply, input, rfl, hreply⟩
    · exact absurd hcall (by simp)
  · exact absurd hcall (by simp)

/-- A claim changes nothing but who holds a workload. -/
def Claimed (r r' : Workload) : Prop :=
  ∃ activeNode fenceToken fenceEpoch, r' = { r with activeNode, fenceToken, fenceEpoch }

theorem Claimed.refl (r : Workload) : Claimed r r := ⟨_, _, _, rfl⟩

/-- The event leaves every table but that of the workloads, and claims workloads at most. -/
def LeavesTables (e : Event (fabric settings)) (past : List (Event (fabric settings))) : Prop :=
  (∃ workloads, (after e).store = { (stateOf past).store with workloads }) ∧
    ∀ id, Option.Rel Claimed ((stateOf past).workload id) ((after e).workload id)

theorem LeavesTables.of_store_eq (h : (after e).store = (stateOf t).store) : LeavesTables e t := by
  refine ⟨⟨_, h⟩, fun id => ?_⟩
  rw [World.workload, World.workload, h]
  exact Table.rel_refl Claimed.refl _

/-- An event is a successful call of the store, or leaves the tables. -/
theorem calls_or_leavesTables (h : Run (e :: t)) :
    (∃ tid op reply, ¬ op.Reads ∧ Calls e t tid op reply) ∨ LeavesTables e t := by
  cases h with
  | @perform _ tid request op rest input =>
    cases hreply : (World.handle settings.codecs op input (stateOf t)).1 with
    | error err => exact .inr (.of_store_eq (World.store_handle_of_error hreply))
    | ok reply =>
      cases op with
      | db op =>
        by_cases hreads : op.Reads
        · exact .inr (.of_store_eq (StoreOp.store_of_reads hreads (World.run_of_handle_ok hreply)))
        · exact .inl ⟨tid, op, reply, hreads, input, rfl, hreply⟩
      | claim id node fenceEpoch =>
        refine .inr ?_
        simp only [LeavesTables, after, World.workload, World.handle]
        split
        · exact ⟨⟨_, rfl⟩, fun k => Table.rel_refl Claimed.refl _⟩
        · split
          · rename_i hclaim
            obtain ⟨r, -, -, -, rfl⟩ := Store.workloadClaim_ok hclaim
            refine ⟨⟨_, rfl⟩, fun k => ?_⟩
            dsimp only
            exact Table.rel_get_modify Claimed.refl fun _ => ⟨_, _, _, rfl⟩
          · exact ⟨⟨_, rfl⟩, fun k => Table.rel_refl Claimed.refl _⟩
      | call node request => exact .inr (.of_store_eq (World.store_handle_call node request input))
      | _ => exact .inr (.of_store_eq rfl)
  | move m => exact .inr (.of_store_eq (World.store_move m))
  | _ => exact .inr (.of_store_eq rfl)

end Calls

/-- Just after its event a deed is among the deeds, and a read has left the store as it found
it. -/
theorem exists_store_of_read {op : StoreOp} {reply : op.Reply} (h : Run t) (hreads : op.Reads)
    (hd : (⟨.db op, .ok reply⟩ : FabricDeed) ∈ deeds tid t) :
    ∃ t', t' <:+ t ∧ (⟨.db op, .ok reply⟩ : FabricDeed) ∈ deeds tid t' ∧
      ∃ now, op.run now (stateOf t').store = .ok (reply, (stateOf t').store) := by
  obtain ⟨later, ds, hsplit⟩ := List.append_of_mem hd
  obtain ⟨input, t', hsuffix, hds, hrun⟩ := exists_run_of_deed h ⟨later, hsplit.symm⟩
  refine ⟨_, hsuffix, hds ▸ .head _, (stateOf t').clock, ?_⟩
  have hstore := StoreOp.store_of_reads hreads hrun
  rw [← hstore] at hrun
  exact hrun

/-- A workload row that a thread has read was there. -/
theorem workload_of_read {id : Id} {w : Workload} (h : Run t)
    (hd : (⟨.db (.workloadGet id), .ok (some w)⟩ : FabricDeed) ∈ deeds tid t) :
    ∃ t', t' <:+ t ∧ (⟨.db (.workloadGet id), .ok (some w)⟩ : FabricDeed) ∈ deeds tid t' ∧
      (stateOf t').workload id = some w := by
  have hreads : (StoreOp.workloadGet id).Reads := trivial
  obtain ⟨t', hsuffix, hmem, now, hrun⟩ := exists_store_of_read h hreads hd
  exact ⟨t', hsuffix, hmem, (Prod.mk.inj (Except.ok.inj hrun)).1⟩

/-- A checkpoint row that a thread has read was there. -/
theorem checkpoint_of_read {id : Id} {c : CheckpointObject} (h : Run t)
    (hd : (⟨.db (.checkpointGet id), .ok (some c)⟩ : FabricDeed) ∈ deeds tid t) :
    ∃ t', t' <:+ t ∧ (⟨.db (.checkpointGet id), .ok (some c)⟩ : FabricDeed) ∈ deeds tid t' ∧
      ∃ row, (stateOf t').checkpoint id = some row ∧ c = Store.readCheckpoint row := by
  have hreads : (StoreOp.checkpointGet id).Reads := trivial
  obtain ⟨t', hsuffix, hmem, now, hrun⟩ := exists_store_of_read h hreads hd
  obtain ⟨row, hrow, hc⟩ := Option.map_eq_some_iff.mp (Prod.mk.inj (Except.ok.inj hrun)).1
  exact ⟨t', hsuffix, hmem, row, hrow, hc.symm⟩

/-- An event takes a step on the row of every checkpoint, or leaves it. -/
theorem checkpointStep_of_run {e : Event (fabric settings)} (h : Run (e :: t)) (id : Id) :
    (∃ tid op input, e = .performed tid op input (stateOf t) ∧
      CheckpointStep id op ((stateOf t).checkpoint id) ((after e).checkpoint id)) ∨
    (after e).checkpoint id = (stateOf t).checkpoint id := by
  cases h with
  | perform input => exact .inl ⟨_, _, input, rfl, World.checkpointStep _ _ input _ id⟩
  | move m => exact .inr (World.checkpoint_move m _ id)
  | _ => exact .inr rfl

/-- A successful call takes a step on the row of every checkpoint, and nothing else changes one. -/
theorem checkpoint_cases {e : Event (fabric settings)} (h : Run (e :: t)) (id : Id) :
    (∃ tid op reply, ¬ op.Reads ∧ Calls e t tid op reply ∧
      CheckpointStep id (.db op) ((stateOf t).checkpoint id) ((after e).checkpoint id)) ∨
    (after e).checkpoint id = (stateOf t).checkpoint id := by
  rcases calls_or_leavesTables h with ⟨tid, op, reply, hop, hcalls⟩ | ⟨⟨workloads, hsame⟩, -⟩
  · refine .inl ⟨tid, op, reply, hop, hcalls, ?_⟩
    obtain ⟨input, rfl, -⟩ := hcalls
    exact World.checkpointStep settings.codecs (.db op) input (stateOf t) id
  · exact .inr (by rw [World.checkpoint, World.checkpoint, hsame])

/-- A row once there stays, and what every step respects relates it to itself later. -/
theorem checkpoint_rel_of_run {R : CheckpointObject → CheckpointObject → Prop}
    (hrefl : ∀ c, R c c) (htrans : ∀ a b c, R a b → R b c → R a c)
    (hstep : ∀ id op c row, CheckpointStep id op (some c) row → ∃ c', row = some c' ∧ R c c')
    {t' : List (Event (fabric settings))} (h : Run t) (hsuffix : t' <:+ t) {id : Id}
    {c : CheckpointObject} (hc : (stateOf t').checkpoint id = some c) :
    ∃ c', (stateOf t).checkpoint id = some c' ∧ R c c' := by
  refine suffix_induction (P := fun past : List (Event (fabric settings)) =>
    ∃ c', (stateOf past).checkpoint id = some c' ∧ R c c') hsuffix ⟨c, hc, hrefl c⟩ ?_
  rintro e past - hpast ⟨c₁, hc₁, hR₁⟩
  rcases checkpointStep_of_run (h.of_suffix hpast) id with ⟨_, _, _, -, hchange⟩ | hkept
  · rw [hc₁] at hchange
    obtain ⟨c₂, hc₂, hR₂⟩ := hstep _ _ _ _ hchange
    exact ⟨c₂, hc₂, htrans _ _ _ hR₁ hR₂⟩
  · exact ⟨c₁, hkept.trans hc₁, hR₁⟩

/-- A checkpoint stays with its workload. -/
theorem checkpoint_of_suffix {t' : List (Event (fabric settings))} (h : Run t)
    (hsuffix : t' <:+ t) {id : Id} {c : CheckpointObject}
    (hc : (stateOf t').checkpoint id = some c) :
    ∃ c', (stateOf t).checkpoint id = some c' ∧ c'.workloadId = c.workloadId :=
  checkpoint_rel_of_run (R := fun c c' => c'.workloadId = c.workloadId) (fun _ => rfl)
    (fun _ _ _ h h' => h'.trans h) (fun _ _ _ _ => CheckpointStep.workloadId_eq) h hsuffix hc

/-- An event takes a step on the row of every workload, or leaves it. -/
theorem workloadStep_of_run {e : Event (fabric settings)} (h : Run (e :: t)) (id : Id) :
    (∃ tid op input, e = .performed tid op input (stateOf t) ∧
      WorkloadStep (stateOf t) id op ((stateOf t).workload id) ((after e).workload id)) ∨
    (after e).workload id = (stateOf t).workload id := by
  cases h with
  | perform input => exact .inl ⟨_, _, input, rfl, World.workloadStep _ _ input _ id⟩
  | move m => exact .inr (World.workload_move m _ id)
  | _ => exact .inr rfl

/-- A row once there stays, and what every step respects relates it to itself later. -/
theorem workload_rel_of_run {R : Workload → Workload → Prop} (hrefl : ∀ r, R r r)
    (htrans : ∀ a b c, R a b → R b c → R a c)
    (hstep : ∀ w id op r row, WorkloadStep w id op (some r) row → ∃ r', row = some r' ∧ R r r')
    {t' : List (Event (fabric settings))} (h : Run t) (hsuffix : t' <:+ t) {id : Id}
    {r : Workload} (hr : (stateOf t').workload id = some r) :
    ∃ r', (stateOf t).workload id = some r' ∧ R r r' := by
  refine suffix_induction (P := fun past : List (Event (fabric settings)) =>
    ∃ r', (stateOf past).workload id = some r' ∧ R r r') hsuffix ⟨r, hr, hrefl r⟩ ?_
  rintro e past - hpast ⟨r₁, hr₁, hR₁⟩
  rcases workloadStep_of_run (h.of_suffix hpast) id with ⟨_, _, _, -, hchange⟩ | hkept
  · rw [hr₁] at hchange
    obtain ⟨r₂, hr₂, hR₂⟩ := hstep _ _ _ _ _ hchange
    exact ⟨r₂, hr₂, htrans _ _ _ hR₁ hR₂⟩
  · exact ⟨r₁, hkept.trans hr₁, hR₁⟩

/-- Identities that were used stay used. -/
theorem issued_le_of_run {t' : List (Event (fabric settings))} (h : Run t) (hsuffix : t' <:+ t) :
    (stateOf t').issued ≤ (stateOf t).issued :=
  h.related hsuffix (R := fun w w' : World => w.issued ≤ w'.issued) (fun _ => Nat.le_refl _)
    Nat.le_trans (fun _ _ => Nat.le_refl _) World.issued_le_issued_handle
    (fun _ => Nat.le_refl _) fun m w => (World.issued_move m w).ge

/-- The clock never goes back. -/
theorem clock_le_of_run {t' : List (Event (fabric settings))} (h : Run t) (hsuffix : t' <:+ t) :
    (stateOf t').clock ≤ (stateOf t).clock :=
  h.related hsuffix (R := fun w w' : World => w.clock ≤ w'.clock) (fun _ => Nat.le_refl _)
    Nat.le_trans (fun _ _ => Nat.le_refl _) (fun op input _ => (World.clock_handle op input).ge)
    (fun _ => Nat.le_refl _) (World.clock_le_move settings.codecs)

/-- A thread that reads the clock twice reads a later time. -/
theorem now_le_of_deeds {now later : ℕ} {ds : List FabricDeed} (h : Run t)
    (hlater : (⟨.now, .ok later⟩ : FabricDeed) :: ds <:+ deeds tid t)
    (hnow : (⟨.now, .ok now⟩ : FabricDeed) ∈ ds) : now ≤ later := by
  obtain ⟨input, t₁, hsuffix, hdeeds, hreply⟩ := exists_event_of_deed h hlater
  have hrun := (h.of_suffix hsuffix).tail
  obtain ⟨recent, older, hsplit⟩ := List.append_of_mem hnow
  have hold : (⟨.now, .ok now⟩ : FabricDeed) :: older <:+ deeds tid t₁ :=
    hdeeds ▸ ⟨recent, hsplit.symm⟩
  obtain ⟨input', t₂, hsuffix', -, hreply'⟩ := exists_event_of_deed hrun hold
  obtain rfl : later = (stateOf t₁).clock := Except.ok.inj hreply
  obtain rfl : now = (stateOf t₂).clock := Except.ok.inj hreply'
  exact clock_le_of_run hrun ((List.suffix_cons _ t₂).trans hsuffix')

end CheckpointFabric
