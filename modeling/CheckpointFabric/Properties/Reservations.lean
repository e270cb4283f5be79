import CheckpointFabric.Steps.Reservations

/-!
# Reservations exclude each other

A capture reserves its workload, and a restore its checkpoint. While a reservation is ACTIVE there
is no other one of its kind for the same workload or checkpoint. So when there is a second one, the
first one has ended: its own thread has released it, or recovery has, which had found its attempt
ACTIVE, or it was not released in the time it was made for.

## Main definitions

* `World.Exclusive` — no two ACTIVE reservations are of one kind and scope
* `EndsReservation` — the event ends a reservation
* `ReservedAlone` — a reservation is made when the earlier ones for its scope have ended

## Main results

* `reservations_exclusive` — in every state of every run, and for every reservation of it
-/

set_option autoImplicit false

namespace CheckpointFabric

open Concurrency Coordinator System

variable {settings : Settings} {t : List (Event (fabric settings))} {e : Event (fabric settings)}
  {tid : ℕ} {key : AttemptId}

section Exclusive

/-- No two ACTIVE reservations are of one kind and scope. -/
def World.Exclusive (w : World) : Prop :=
  ∀ key key' r r', w.reservation key = some r → w.reservation key' = some r' →
    r.state = .active → r'.state = .active → r.kind = r'.kind → r.workloadId = r'.workloadId →
    r.checkpointId = r'.checkpointId → key = key'

/-- While a reservation is ACTIVE, another one for its scope is refused. -/
theorem not_active_of_calls {kind : ReservationKind} {workloadId checkpointId : Option Id}
    {node : NodeId} {ttlMs : ℕ}
    (hcalls : Calls e t tid (.reservationCreate key kind workloadId checkpointId node ttlMs) ())
    {key' : AttemptId} {r : Reservation} (hr : (stateOf t).reservation key' = some r)
    (hkind : r.kind = kind) (hworkload : r.workloadId = workloadId)
    (hcheckpoint : r.checkpointId = checkpointId) : r.state ≠ .active := by
  intro hactive
  obtain ⟨hnone, -⟩ := Store.reservationCreate_ok (StoreOp.of_map_ok hcalls.run)
  rw [Store.reservationActiveFor, Option.map_eq_none_iff, List.find?_eq_none] at hnone
  refine hnone r (Table.mem_of_get hr) (decide_eq_true ?_)
  exact ⟨hkind, hactive, fun _ => hworkload, fun _ => hcheckpoint⟩

/-- A row that is ACTIVE after an event was ACTIVE before it, or the event has created it. -/
theorem active_of_run (h : Run (e :: t)) {r : Reservation}
    (hr : (after e).reservation key = some r) (hactive : r.state = .active) :
    (stateOf t).reservation key = some r ∨ ∃ tid ttlMs,
      Calls e t tid (.reservationCreate key r.kind r.workloadId r.checkpointId r.node ttlMs) () := by
  rcases reservationStep_cases h key with ⟨tid, op, reply, hop, hcalls, hstep⟩ | hsame
  · rw [hr] at hstep
    generalize hrow : (stateOf t).reservation key = row at hstep
    cases hstep with
    | kept => exact .inl rfl
    | created => exact .inr ⟨tid, _, hcalls⟩
    | released | expired => nomatch hactive
  · exact .inl (hsame.symm.trans hr)

theorem exclusive_of_run (h : Run t) : (stateOf t).Exclusive := by
  induction t with
  | nil => exact fun key key' r r' hr => nomatch hr
  | cons e t ih =>
    intro key key' r r' hr hr' hactive hactive' hkind hworkload hcheckpoint
    rw [stateOf_cons] at hr hr'
    rcases active_of_run h hr hactive with hold | ⟨tid, ttlMs, hcalls⟩
    · rcases active_of_run h hr' hactive' with hold' | ⟨tid, ttlMs, hcalls⟩
      · exact ih h.tail key key' r r' hold hold' hactive hactive' hkind hworkload hcheckpoint
      · exact absurd hactive (not_active_of_calls hcalls hold hkind hworkload hcheckpoint)
    · rcases active_of_run h hr' hactive' with hold' | ⟨tid', ttlMs', hcalls'⟩
      · exact absurd hactive'
          (not_active_of_calls hcalls hold' hkind.symm hworkload.symm hcheckpoint.symm)
      · exact (StoreOp.reservationCreate.inj (hcalls.op_eq hcalls')).1

end Exclusive

section Ends

/-- The thread has drawn the attempt. -/
def Draws (t : List (Event (fabric settings))) (tid : ℕ) (key : AttemptId) : Prop :=
  (⟨.random, .ok key.nonce⟩ : FabricDeed) ∈ deeds tid t

theorem Draws.unique {t' : List (Event (fabric settings))} {tid' : ℕ} (h : Run t)
    (hsuffix : t' <:+ t) (hdraws : Draws t' tid key) (hdraws' : Draws t tid' key) : tid = tid' := by
  obtain ⟨later, ds, hsplit⟩ := List.append_of_mem ((deeds_suffix hsuffix).subset hdraws)
  obtain ⟨later', ds', hsplit'⟩ := List.append_of_mem hdraws'
  exact (drawn_unique h ⟨later, hsplit.symm⟩ ⟨later', hsplit'.symm⟩).1

/-- Whoever reserves has drawn the attempt. -/
theorem draws_of_calls {kind : ReservationKind} {workloadId checkpointId : Option Id}
    {node : NodeId} {ttlMs : ℕ} (h : Run (e :: t))
    (hcalls : Calls e t tid (.reservationCreate key kind workloadId checkpointId node ttlMs) ()) :
    Draws t tid key := by
  obtain ⟨request, hrequest, hwriter⟩ := hcalls.writer h not_false
  cases hwriter with
  | capture hasks hdoes hwrites =>
    rw [hwrites.1]
    exact (Captures.of_does hrequest hasks hdoes).drawn_nonce
  | restore hdoes hwrites hrestores =>
    rw [hwrites.1]
    exact (Restores.of_does hrequest hrestores hdoes).drawn
  | recovery hwrites | plain hwrites => exact absurd hwrites not_false

/-- Whoever releases a reservation has drawn its attempt, or is recovery. -/
theorem releasedBy_of_calls (h : Run (e :: t)) (hcalls : Calls e t tid (.reservationRelease key) ()) :
    Draws t tid key ∨ ∃ ctx a, requestOf tid t = some (.recovery ctx) ∧
      Listed (deeds tid t) a ∧ a.id = key := by
  obtain ⟨request, hrequest, hwriter⟩ := hcalls.writer h not_false
  cases hwriter with
  | @capture _ _ run hasks hdoes hwrites =>
    obtain rfl : key = run.attemptId := hwrites
    exact .inl (Captures.of_does hrequest hasks hdoes).drawn_nonce
  | @restore _ _ _ _ run hdoes hwrites hrestores =>
    obtain rfl : key = run.attemptId := hwrites
    exact .inl (Restores.of_does hrequest hrestores hdoes).drawn
  | recovery hwrites hrecovery =>
    obtain ⟨a, hlisted, hid⟩ := hwrites
    exact .inr ⟨_, a, hrecovery ▸ hrequest, hlisted, hid⟩
  | plain hwrites => exact absurd hwrites not_false

/-- The time by which reservations expire is not in the future. -/
theorem before_le_clock {before n : ℕ} (h : Run (e :: t))
    (hcalls : Calls e t tid (.reservationsExpire before) n) : before ≤ (stateOf t).clock := by
  obtain ⟨input, rfl, -⟩ := hcalls
  obtain ⟨request, -, hexpires⟩ := h.permitted obeys_serve_expiry
  obtain ⟨later, ds, hsplit⟩ := List.append_of_mem (hexpires before rfl)
  obtain ⟨input', t', hsuffix, -, hreply⟩ := exists_event_of_deed h.tail ⟨later, hsplit.symm⟩
  obtain rfl : before = (stateOf t').clock := Except.ok.inj hreply
  exact clock_le_of_run h.tail ((List.suffix_cons _ t').trans hsuffix)

/-- The event ends a reservation that thread `tid` has made for the time until `expiresMs`. -/
inductive EndsReservation (e : Event (fabric settings)) (past : List (Event (fabric settings)))
    (tid : ℕ) (key : AttemptId) (expiresMs : ℕ) : Prop
  | released : Calls e past tid (.reservationRelease key) () → EndsReservation e past tid key expiresMs
  | recovered {tid' : ℕ} {ctx : OperationContext} {a : AttemptRecord} :
    requestOf tid' past = some (.recovery ctx) → Listed (deeds tid' past) a → a.id = key →
    Calls e past tid' (.reservationRelease key) () → EndsReservation e past tid key expiresMs
  | expired {tid' before n : ℕ} : Calls e past tid' (.reservationsExpire before) n →
    expiresMs < before → before ≤ (stateOf past).clock → EndsReservation e past tid key expiresMs

/-- A reservation is made when every earlier one for its scope has ended. -/
def ReservedAlone (e : Event (fabric settings)) (past : List (Event (fabric settings))) : Prop :=
  ∀ tid key kind workloadId checkpointId node ttlMs,
    Calls e past tid (.reservationCreate key kind workloadId checkpointId node ttlMs) () →
    ∀ e₀ past₀ tid₀ key₀ node₀ ttlMs₀, e₀ :: past₀ <:+ past →
      Calls e₀ past₀ tid₀ (.reservationCreate key₀ kind workloadId checkpointId node₀ ttlMs₀) () →
      ∃ e₁ past₁, e₁ :: past₁ <:+ past ∧ e₀ :: past₀ <:+ past₁ ∧
        EndsReservation e₁ past₁ tid₀ key₀ ((stateOf past₀).clock + ttlMs₀)

section Kept

variable {e₀ : Event (fabric settings)} {past₀ : List (Event (fabric settings))} {tid₀ : ℕ}
  {key₀ : AttemptId} {kind : ReservationKind} {workloadId checkpointId : Option Id}
  {node₀ : NodeId} {ttlMs₀ : ℕ}

/-- A reservation is as it was made, until it has ended. -/
theorem ended_or_active (h : Run t) (hsuffix : e₀ :: past₀ <:+ t)
    (hcalls : Calls e₀ past₀ tid₀
      (.reservationCreate key₀ kind workloadId checkpointId node₀ ttlMs₀) ()) :
    (∃ e₁ past₁, e₁ :: past₁ <:+ t ∧ e₀ :: past₀ <:+ past₁ ∧
        EndsReservation e₁ past₁ tid₀ key₀ ((stateOf past₀).clock + ttlMs₀)) ∨
      (stateOf t).reservation key₀ = some ⟨key₀, kind, workloadId, checkpointId, node₀, .active,
        (stateOf past₀).clock, (stateOf past₀).clock + ttlMs₀⟩ := by
  have hdraws := draws_of_calls (h.of_suffix hsuffix) hcalls
  refine suffix_induction (P := fun past : List (Event (fabric settings)) =>
    (∃ e₁ past₁, e₁ :: past₁ <:+ past ∧ e₀ :: past₀ <:+ past₁ ∧
        EndsReservation e₁ past₁ tid₀ key₀ ((stateOf past₀).clock + ttlMs₀)) ∨
      (stateOf past).reservation key₀ = some ⟨key₀, kind, workloadId, checkpointId, node₀, .active,
        (stateOf past₀).clock, (stateOf past₀).clock + ttlMs₀⟩) hsuffix ?_ ?_
  -- The row as the call makes it.
  · obtain ⟨-, r, hnew, rfl, hstore⟩ := Store.reservationCreate_ok (StoreOp.of_map_ok hcalls.run)
    refine .inr ?_
    rw [stateOf_cons, World.reservation, hstore]
    exact (Table.get_insert _ _ hnew _).trans (if_pos rfl)
  · rintro e past hpast hbelow (⟨e₁, past₁, hsuffix₁, hbetween, hends⟩ | hrow)
    · exact .inl ⟨e₁, past₁, hsuffix₁.trans (List.suffix_cons e past), hbetween, hends⟩
    · have hrun := h.of_suffix hbelow
      have hpast₀ := (List.suffix_cons e₀ past₀).trans hpast
      rw [stateOf_cons]
      rcases reservationStep_cases hrun key₀ with ⟨tid, op, reply, hop, hop_calls, hstep⟩ | hsame
      · rw [hrow] at hstep
        generalize hrow' : (after e).reservation key₀ = row at hstep
        cases hstep with
        | kept => exact .inr rfl
        | released =>
          refine .inl ⟨e, past, List.suffix_refl _, hpast, ?_⟩
          -- An attempt is drawn by one thread, so it is the one that has reserved, or recovery.
          rcases releasedBy_of_calls hrun hop_calls with hdraws' | ⟨ctx, a, hrequest, hlisted, hid⟩
          · obtain rfl := hdraws.unique hrun.tail hpast₀ hdraws'
            exact .released hop_calls
          · exact .recovered hrequest hlisted hid hop_calls
        | expired _ hlt =>
          exact .inl ⟨e, past, List.suffix_refl _, hpast,
            .expired hop_calls hlt (before_le_clock hrun hop_calls)⟩
      · exact .inr (hsame.trans hrow)

end Kept

/-- In every state of every run, no two ACTIVE reservations are of one kind and scope. When one is
made, each earlier one for its scope has ended: it was released by its own thread, or by recovery,
or the time it was made for is over, on a clock that is never set back. -/
theorem reservations_exclusive (h : Run t) :
    (stateOf t).Exclusive ∧ EveryStep ReservedAlone t := by
  refine ⟨exclusive_of_run h, fun e past hsuffix => ?_⟩
  intro tid key kind workloadId checkpointId node ttlMs hcalls e₀ past₀ tid₀ key₀ node₀ ttlMs₀
    hsuffix₀ hcalls₀
  have hrun := (h.of_suffix hsuffix).tail
  rcases ended_or_active hrun hsuffix₀ hcalls₀ with hended | hrow
  · exact hended
  · exact absurd rfl (not_active_of_calls hcalls hrow rfl rfl rfl)

end Ends

/-- The reservations that were made. -/
def reservedIds (t : List (Event (fabric settings))) : List AttemptId :=
  t.filterMap fun e =>
    match callOf e with
    | some (_, .reservationCreate key _ _ _ _ _) => some key
    | _ => none

/-- Two captures of a workload, one after the other. -/
theorem reservations_exclusive_captures :
    reservedIds (exec (Demo.serially
        [.capture 7 {} Demo.operator, .capture 7 {} Demo.operator])).trace =
      [.capture 7 3, .capture 7 1] ∧
    EveryStep ReservedAlone (exec (Demo.serially
      [.capture 7 {} Demo.operator, .capture 7 {} Demo.operator])).trace :=
  ⟨by decide +kernel, (reservations_exclusive (exec_run (Demo.serially
    [.capture 7 {} Demo.operator, .capture 7 {} Demo.operator]))).2⟩

end CheckpointFabric
