import CheckpointFabric.Alone.Errors
import CheckpointFabric.Concurrency.Alone
import CheckpointFabric.Footprints.Basic
import CheckpointFabric.Steps.Workloads

/-!
# Requests that run alone

A request that no other request interleaves with, on a store whose calls do not fail on their
own. Time passes and nodes do as they please between any two of its operations; its calls of
nodes are answered, fail or are lost in any way.

What such a request does to the store depends on little: the store, the clock and the number
of the next identity.

## Main definitions

* `Op.Sound` — the inputs of an operation that meets no fault of the database
* `Alone` — a program runs alone, from one world to another
* `Snapshot` — what a request that runs alone depends on

## Main results

* `Alone.ends` — what every run of the snapshots satisfies holds of the worlds
* `alone_eval` — there is always such a run
* `alone_of_undisturbed` — the runs of the fabric in which a request is not disturbed
-/

set_option autoImplicit false

namespace CheckpointFabric

open Concurrency Fabric Coordinator

/-- The error that the delivery of a message reports. -/
def Delivery.error : Delivery → Option FabricError
  | unsent e | replyLost _ e | late e => some e
  | answered _ => none

/-- The inputs of an operation that meets no fault of the database. A call that fails returns
an error; it does not panic. -/
def Op.Sound : Op → Input → Prop
  | .db _, input | .claim _ _ _, input => input.fault = none
  | .call _ _, input => ∀ e ∈ input.delivery.error, ¬ e.isPanic
  | _, _ => True

/-- The program runs alone. -/
abbrev Alone {α : Type} (settings : Settings) (p : Fabric α) (w : World) (result : FabricResult α)
    (w' : World) : Prop :=
  Runs (System.AloneStep (S := fabric settings) Op.Sound) p w result w'

/-- What a request that runs alone depends on. -/
structure Snapshot where
  store : Store
  clock : ℕ
  issued : ℕ

def World.snapshot (w : World) : Snapshot := ⟨w.store, w.clock, w.issued⟩

namespace Snapshot

/-- What an operation does besides letting time pass. -/
def Effect : (op : Op) → Snapshot → FabricResult op.Reply → Snapshot → Prop
  | .db op, s, reply, s' => op.execute s'.clock none s.store = (reply, s'.store)
  | .claim _ _ _, s, reply, s' =>
    NoPanic reply ∧ ∃ workloads, s'.store = { s.store with workloads }
  | .now, s, reply, s' => reply = .ok s'.clock ∧ s'.store = s.store
  | .epoch, s, reply, s' => (∃ n, reply = .ok n) ∧ s'.store = s.store
  | .random, s, reply, s' => reply = .ok s.issued ∧ s.issued < s'.issued ∧ s'.store = s.store
  | .fire failpoint, s, reply, s' =>
    (reply = .ok () ∨ reply = .error (.failPoint failpoint)) ∧ s'.store = s.store
  | .call _ _, s, reply, s' => (∀ e, reply = .error e → ¬ e.isPanic) ∧ s'.store = s.store

/-- The time before an operation does not matter. -/
theorem Effect.of_eq {op : Op} {s s₁ s' : Snapshot} {reply : FabricResult op.Reply}
    (h : Effect op s reply s') (hstore : s.store = s₁.store) (hissued : s.issued = s₁.issued) :
    Effect op s₁ reply s' := by
  cases op <;> simp only [Effect, ← hstore, ← hissued] at h ⊢ <;> exact h

/-- An operation of a request that runs alone. -/
structure Step (op : Op) (s : Snapshot) (reply : FabricResult op.Reply) (s' : Snapshot) : Prop where
  clock : s.clock ≤ s'.clock
  issued : s.issued ≤ s'.issued
  effect : Effect op s reply s'

end Snapshot

/-- The operation does not write to the store. -/
def Op.Quiet : Op → Prop
  | .db op => op.Reads
  | .claim _ _ _ => False
  | _ => True

theorem Op.quiet_of_reads {op : Op} (h : op.Reads) : op.Quiet := by
  cases op with
  | db op => exact h
  | claim => exact absurd h not_false
  | _ => trivial

namespace Snapshot

/-- Without a fault a call of the store runs, and leaves the store as it was when it fails. -/
theorem Step.db_cases {op : StoreOp} {s s' : Snapshot} {reply : FabricResult op.Reply}
    (h : Step (.db op) s reply s') :
    (∃ value, reply = .ok value ∧ op.run s'.clock s.store = .ok (value, s'.store)) ∨
      ∃ e, reply = .error e ∧ op.run s'.clock s.store = .error e ∧ s'.store = s.store := by
  have heffect : op.execute s'.clock none s.store = (reply, s'.store) := h.effect
  unfold StoreOp.execute at heffect
  cases hrun : op.run s'.clock s.store with
  | ok result =>
    rw [hrun] at heffect
    obtain ⟨rfl, hstore⟩ := Prod.mk.inj heffect
    exact .inl ⟨_, rfl, by rw [← hstore]⟩
  | error e =>
    rw [hrun] at heffect
    obtain ⟨rfl, hstore⟩ := Prod.mk.inj heffect
    exact .inr ⟨e, rfl, rfl, hstore.symm⟩

theorem Step.store_of_quiet {op : Op} {s s' : Snapshot} {reply : FabricResult op.Reply}
    (h : Step op s reply s') (hop : op.Quiet) : s'.store = s.store := by
  have heffect := h.effect
  cases op with
  | db op =>
    rcases h.db_cases with ⟨value, -, hrun⟩ | ⟨e, -, -, hstore⟩
    · exact StoreOp.store_of_reads hop hrun
    · exact hstore
  | claim => exact absurd hop not_false
  | now => exact heffect.2
  | epoch => exact heffect.2
  | random => exact heffect.2.2
  | fire => exact heffect.2
  | call => exact heffect.2

/-- An operation of a request that runs alone does not panic. -/
theorem Step.noPanic {op : Op} {s s' : Snapshot} {reply : FabricResult op.Reply}
    (h : Step op s reply s') : NoPanic reply := by
  have heffect := h.effect
  cases op with
  | db op =>
    rcases h.db_cases with ⟨value, rfl, -⟩ | ⟨e, rfl, hrun, -⟩
    · exact noPanic_ok _
    · rintro _ ⟨⟩
      exact StoreOp.noPanic_run _ _ _ _ hrun
  | claim => exact heffect.1
  | now => exact heffect.1 ▸ noPanic_ok _
  | epoch =>
    obtain ⟨⟨n, rfl⟩, -⟩ := heffect
    exact noPanic_ok _
  | random => exact heffect.1 ▸ noPanic_ok _
  | fire =>
    rcases heffect.1 with rfl | rfl
    · exact noPanic_ok _
    · exact noPanic_error rfl
  | call => exact heffect.1

/-- What is journaled stays. -/
theorem Step.journaled {kind : JournalKind} {key : AttemptId} {state : JournalState} {op : Op}
    {s s' : Snapshot} {reply : FabricResult op.Reply} (h : Step op s reply s')
    (hj : s.store.Journaled kind key state) : s'.store.Journaled kind key state := by
  cases op with
  | db op =>
    rcases h.db_cases with ⟨value, -, hrun⟩ | ⟨e, -, -, hstore⟩
    · exact (StoreOp.journaled_of_run hrun).mpr (.inl hj)
    · rwa [hstore]
  | claim id node epoch =>
    obtain ⟨-, workloads, hstore⟩ := h.effect
    rw [hstore]
    exact hj
  | _ =>
    rw [h.store_of_quiet trivial]
    exact hj

end Snapshot

section Worlds

variable {settings : Settings} {α : Type}

theorem snapshot_of_moves {w w' : World}
    (h : System.Moves (S := fabric settings) w w') :
    w'.store = w.store ∧ w'.issued = w.issued ∧ w.clock ≤ w'.clock := by
  induction h with
  | refl => exact ⟨rfl, rfl, Nat.le_refl _⟩
  | tail _ hmove ih =>
    obtain ⟨m, rfl⟩ := hmove
    obtain ⟨hstore, hissued, hclock⟩ := ih
    exact ⟨(World.store_move m).trans hstore, (World.issued_move m _).trans hissued,
      hclock.trans (World.clock_le_move settings.codecs m _)⟩

/-- A reply of a node that fails to parse is no panic. -/
theorem not_isPanic_of_parseReply {request : NodeRequest} {reply : FabricResult request.Result}
    {e : FabricError} (h : World.parseReply request reply = .error e) : ¬ e.isPanic := by
  cases request <;> cases reply <;> simp [World.parseReply] at h <;> subst h <;>
    simp [FabricError.isPanic]

/-- What an operation does, it does to the snapshot. -/
theorem step_of_handle {op : Op} {input : Input} {w : World} (hsound : op.Sound input) :
    Snapshot.Step op w.snapshot (World.handle settings.codecs op input w).1
      (World.handle settings.codecs op input w).2.snapshot := by
  cases op with
  | db op =>
    have hfault : input.fault = none := hsound
    have hclock : (World.handle settings.codecs (.db op) input w).2.clock = w.clock := by
      simp [World.handle]
    refine ⟨hclock.ge, World.issued_le_issued_remember
      { w with store := (op.execute w.clock input.fault w.store).2 } (World.storedToken op), ?_⟩
    simp only [Snapshot.Effect, World.snapshot, hclock, World.store_handle_db,
      World.fst_handle_db, hfault]
  | claim workloadId node fenceEpoch =>
    have hfault : input.fault = none := hsound
    simp only [World.handle, hfault]
    cases hclaim : w.store.workloadClaim workloadId node w.issued fenceEpoch with
    | ok store =>
      obtain ⟨_, -, -, -, rfl⟩ := Store.workloadClaim_ok hclaim
      exact ⟨Nat.le_refl _, Nat.le_succ _, noPanic_ok _, _, rfl⟩
    | error e =>
      refine ⟨Nat.le_refl _, Nat.le_refl _, ?_, _, rfl⟩
      rintro _ ⟨⟩
      exact w.store.noPanic_workloadClaim _ _ _ _ _ hclaim
  | now => exact ⟨Nat.le_refl _, Nat.le_refl _, rfl, rfl⟩
  | epoch => exact ⟨Nat.le_refl _, Nat.le_refl _, ⟨_, rfl⟩, rfl⟩
  | random => exact ⟨Nat.le_refl _, Nat.le_succ _, rfl, Nat.lt_succ_self _, rfl⟩
  | fire failpoint =>
    refine ⟨Nat.le_refl _, Nat.le_refl _, ?_, rfl⟩
    simp only [World.handle]
    split
    · exact .inr rfl
    · exact .inl rfl
  | call node request =>
    have hdelivery : ∀ e ∈ input.delivery.error, ¬ e.isPanic := hsound
    simp only [World.handle]
    generalize input.delivery = delivery at hdelivery
    -- A lost message has an error of the transport, which is no panic.
    cases delivery with
    | answered o =>
      exact ⟨Nat.le_refl _, Nat.le_refl _, fun _ h => not_isPanic_of_parseReply h, rfl⟩
    | unsent e | replyLost o e | late e =>
      refine ⟨Nat.le_refl _, Nat.le_refl _, ?_, rfl⟩
      rintro _ ⟨⟩
      exact hdelivery e rfl

theorem step_of_aloneStep {op : Op} {w w' : World} {reply : FabricResult op.Reply}
    (h : System.AloneStep (S := fabric settings) Op.Sound op w reply w') :
    Snapshot.Step op w.snapshot reply w'.snapshot := by
  obtain ⟨w₁, input, hmoves, hsound, hhandle⟩ := h
  obtain ⟨hstore, hissued, hclock⟩ := snapshot_of_moves hmoves
  have hstep : Snapshot.Step op w₁.snapshot (World.handle settings.codecs op input w₁).1
      (World.handle settings.codecs op input w₁).2.snapshot :=
    step_of_handle hsound
  rw [show World.handle settings.codecs op input w₁ = (reply, w') from hhandle] at hstep
  exact ⟨hclock.trans hstep.clock, hissued.ge.trans hstep.issued,
    hstep.effect.of_eq hstore hissued⟩

/-- What holds of every run of the snapshots holds of the worlds. -/
theorem Alone.ends {p : Fabric α} {w w' : World} {result : FabricResult α}
    {post : FabricResult α → Snapshot → Prop} (hruns : Alone settings p w result w')
    (h : Ends Snapshot.Step post p w.snapshot) : post result w'.snapshot :=
  ends_iff.mp h _ _ (hruns.map fun _ _ _ _ => step_of_aloneStep)

/-- The answer of an operation that meets the plain input, `ms` milliseconds after the last. -/
def World.answerAfter (codecs : Codecs) (ms : ℕ) (op : Op) (w : World) :
    FabricResult op.Reply × World :=
  World.handle codecs op {} (World.move codecs (.tick ms) w)

theorem aloneStep_answerAfter (ms : ℕ) (op : Op) (w : World) :
    System.AloneStep (S := fabric settings) Op.Sound op w
      (World.answerAfter settings.codecs ms op w).1
      (World.answerAfter settings.codecs ms op w).2 := by
  refine ⟨_, {}, Relation.ReflTransGen.single ⟨Move.tick ms, rfl⟩, ?_, rfl⟩
  cases op with
  | call => exact fun e he => absurd he (Option.some_ne_none e).symm
  | db | claim => rfl
  | _ => trivial

/-- A program can run alone with the plain inputs; so it always comes to its end. -/
theorem alone_eval (ms : ℕ) (p : Fabric α) (w : World) :
    Alone settings p w (p.eval (World.answerAfter settings.codecs ms) w).1
      (p.eval (World.answerAfter settings.codecs ms) w).2 :=
  runs_eval (aloneStep_answerAfter ms) p w

/-- A request of a run that is not disturbed between its admission and its answer. -/
theorem alone_of_undisturbed {t recent : List (Event (fabric settings))} {request : Request}
    {result : FabricResult Response} {before : World}
    (h : System.Run (.answered (System.admissions t) result before ::
      (recent ++ .admitted (System.admissions t) request (System.stateOf t) :: t)))
    (hundisturbed : ∀ e ∈ recent,
      System.Undisturbed (S := fabric settings) Op.Sound (System.admissions t) e) :
    ∃ w, Alone settings (request.serve settings) (System.stateOf t) result w ∧
      w.store = before.store := by
  obtain ⟨w, hruns, hmoves⟩ := System.exists_runs_of_undisturbed h hundisturbed
  exact ⟨w, hruns, (snapshot_of_moves hmoves).1.symm⟩

end Worlds

section Rules

variable {α : Type} {s : Snapshot}

theorem ends_db {op : StoreOp} {post : FabricResult op.Reply → Snapshot → Prop}
    (h : ∀ now n, s.clock ≤ now → s.issued ≤ n →
      post (op.execute now none s.store).1 ⟨(op.execute now none s.store).2, now, n⟩) :
    Ends Snapshot.Step post (db op) s := by
  rintro reply ⟨store, now, n⟩ ⟨hclock, hissued, heffect⟩
  have hpost := h now n hclock hissued
  rw [show op.execute now none s.store = (reply, store) from heffect] at hpost
  exact hpost

/-- A call of the store that has succeeded or failed on the store as it was. -/
theorem ends_db_cases {op : StoreOp} {post : FabricResult op.Reply → Snapshot → Prop}
    (hok : ∀ now n reply store, s.clock ≤ now → s.issued ≤ n →
      op.run now s.store = .ok (reply, store) → post (.ok reply) ⟨store, now, n⟩)
    (herror : ∀ now n e, s.clock ≤ now → s.issued ≤ n →
      op.run now s.store = .error e → post (.error e) ⟨s.store, now, n⟩) :
    Ends Snapshot.Step post (db op) s := by
  refine ends_db fun now n hclock hissued => ?_
  unfold StoreOp.execute
  cases hrun : op.run now s.store with
  | ok result => exact hok now n result.1 result.2 hclock hissued hrun
  | error e => exact herror now n e hclock hissued hrun

/-- A call of the store that always succeeds. -/
theorem ends_db_ok {op : StoreOp} {post : FabricResult op.Reply → Snapshot → Prop}
    {reply : ℕ → op.Reply} {store : ℕ → Store}
    (hrun : ∀ now, op.run now s.store = .ok (reply now, store now))
    (h : ∀ now n, s.clock ≤ now → s.issued ≤ n → post (.ok (reply now)) ⟨store now, now, n⟩) :
    Ends Snapshot.Step post (db op) s := by
  refine ends_db fun now n hclock hissued => ?_
  unfold StoreOp.execute
  rw [hrun now]
  exact h now n hclock hissued

theorem ends_db_bind {op : StoreOp} {post : FabricResult α → Snapshot → Prop}
    {f : op.Reply → Fabric α} {reply : ℕ → op.Reply} {store : ℕ → Store}
    (hrun : ∀ now, op.run now s.store = .ok (reply now, store now))
    (h : ∀ now n, s.clock ≤ now → s.issued ≤ n →
      Ends Snapshot.Step post (f (reply now)) ⟨store now, now, n⟩) :
    Ends Snapshot.Step post (db op >>= f) s := by
  rw [Program.bind_def, ends_andThen]
  exact ends_db_ok hrun h

/-- A program that does not write leaves the store as it is. -/
theorem ends_quiet {p : Fabric α} (h : Uses Op.Quiet p) :
    Ends Snapshot.Step (fun _ s' => s'.store = s.store ∧ s.issued ≤ s'.issued) p s := by
  refine Ends.of_uses h (fun op s₁ reply s₂ hop hstep h₁ => ?_)
    (⟨rfl, Nat.le_refl _⟩ : s.store = s.store ∧ s.issued ≤ s.issued)
  exact ⟨(hstep.store_of_quiet hop).trans h₁.1, h₁.2.trans hstep.issued⟩

/-- Time passes. -/
theorem ends_clock {p : Fabric α} :
    Ends Snapshot.Step (fun _ s' => s.clock ≤ s'.clock) p s :=
  Ends.of_uses (Uses.of_true p) (fun _ _ _ _ _ hstep h => h.trans hstep.clock) (Nat.le_refl _)

/-- A failpoint fails without a panic. -/
theorem ends_fire {failpoint : String} :
    Ends Snapshot.Step (fun result s' => s'.store = s.store ∧ NoPanic result) (fire failpoint) s :=
  fun _ _ hstep => ⟨hstep.store_of_quiet trivial, hstep.noPanic⟩

/-- What is journaled stays journaled. -/
theorem ends_journaled {kind : JournalKind} {key : AttemptId} {state : JournalState} {p : Fabric α}
    (h : s.store.Journaled kind key state) :
    Ends Snapshot.Step (fun _ s' => s'.store.Journaled kind key state) p s :=
  Ends.of_uses (Uses.of_true p) (fun _ _ _ _ _ hstep hj => hstep.journaled hj) h

/-- Forgetting the result, the program has succeeded. -/
theorem ends_quiet_ignore {p : Fabric α} (h : Uses Op.Quiet p) :
    Ends Snapshot.Step (fun result s' => result = .ok () ∧ s'.store = s.store) p.ignore s := by
  rw [Program.ignore, ends_andThen]
  exact (ends_quiet h).weaken fun _ _ h' => ⟨rfl, h'.1⟩

theorem ends_quiet_bind {β : Type} {p : Fabric α} {f : α → Fabric β}
    {post : FabricResult β → Snapshot → Prop} (h : Uses Op.Quiet p)
    (hok : ∀ a s', s'.store = s.store → s.issued ≤ s'.issued → Ends Snapshot.Step post (f a) s')
    (herror : ∀ e s', s'.store = s.store → post (.error e) s') :
    Ends Snapshot.Step post (p >>= f) s :=
  Ends.bind (ends_quiet h) (fun a s' h' => hok a s' h'.1 h'.2) fun e s' h' => herror e s' h'.1

/-- A part that writes nothing, in a program that has written nothing since `s₀`. -/
theorem ends_reading_bind {β : Type} {p : Fabric α} {f : α → Fabric β} {s₀ : Snapshot}
    {post : FabricResult β → Snapshot → Prop}
    (herror : ∀ e s', s'.store = s₀.store → post (.error e) s') (hp : Uses Op.Quiet p)
    (hstore : s.store = s₀.store) (hissued : s₀.issued ≤ s.issued)
    (hf : ∀ a s', s'.store = s₀.store → s₀.issued ≤ s'.issued →
      Ends Snapshot.Step post (f a) s') :
    Ends Snapshot.Step post (p >>= f) s := by
  refine ends_quiet_bind hp (fun a s' hstore' hissued' => ?_) fun e s' hstore' => ?_
  · exact hf a s' (hstore'.trans hstore) (hissued.trans hissued')
  · exact herror e s' (hstore'.trans hstore)

theorem ends_requireCheckpoint_bind {id : Id} {c : CheckpointObject}
    {post : FabricResult α → Snapshot → Prop} {f : CheckpointObject → Fabric α}
    (hc : s.store.checkpoints.get id = some c)
    (h : ∀ now n, s.clock ≤ now → s.issued ≤ n →
      Ends Snapshot.Step post (f (Store.readCheckpoint c)) ⟨s.store, now, n⟩) :
    Ends Snapshot.Step post (requireCheckpoint id >>= f) s := by
  rw [Program.bind_def, ends_andThen]
  refine ends_db_bind (fun _ => rfl) fun now n hclock hissued => ?_
  rw [Store.checkpointGet, hc]
  exact h now n hclock hissued

theorem ends_requireCheckpoint_bind_of_none {id : Id} {post : FabricResult α → Snapshot → Prop}
    {f : CheckpointObject → Fabric α} (hnone : s.store.checkpoints.get id = none)
    (herror : ∀ e s', s'.store = s.store → post (.error e) s') :
    Ends Snapshot.Step post (requireCheckpoint id >>= f) s := by
  rw [Program.bind_def, ends_andThen]
  refine ends_db_bind (fun _ => rfl) fun now n _ _ => ?_
  rw [Store.checkpointGet, hnone]
  exact herror _ _ rfl

theorem ends_random_bind {post : FabricResult α → Snapshot → Prop} {f : Id → Fabric α}
    (h : ∀ now n, s.clock ≤ now → s.issued < n →
      Ends Snapshot.Step post (f s.issued) ⟨s.store, now, n⟩) :
    Ends Snapshot.Step post (random >>= f) s := by
  rintro reply ⟨store, now, n⟩ ⟨hclock, -, rfl, hissued, rfl⟩
  exact h now n hclock hissued

theorem ends_now_bind {post : FabricResult α → Snapshot → Prop} {f : ℕ → Fabric α}
    (h : ∀ now n, s.clock ≤ now → s.issued ≤ n →
      Ends Snapshot.Step post (f now) ⟨s.store, now, n⟩) :
    Ends Snapshot.Step post (nowMs >>= f) s := by
  rintro reply ⟨store, now, n⟩ ⟨hclock, hissued, rfl, rfl⟩
  exact h now n hclock hissued

end Rules

section Calm

variable {α : Type} {allowed : Op → Prop}

/-- The operations of the program are allowed, and it does not panic unless one of them does. -/
abbrev Calm (allowed : Op → Prop) (p : Fabric α) : Prop :=
  Contained allowed (fun e : FabricError => ¬ e.isPanic) p

theorem calm_ofExcept {result : FabricResult α} (h : NoPanic result) :
    Calm allowed (Program.ofExcept result) :=
  contained_ofExcept h

theorem calm_ensure {condition : Prop} [Decidable condition] {e : FabricError}
    (h : e.isPanic = false) : Calm allowed (Program.ensure condition e) :=
  contained_ensure (by simp [h])

theorem calm_fail {e : FabricError} (h : e.isPanic = false) :
    Calm allowed (Program.fail e : Fabric α) :=
  contained_fail (by simp [h])

theorem calm_okOr {value : Option α} {e : FabricError} (h : e.isPanic = false) :
    Calm allowed (okOr value e) := by
  cases value with
  | none => exact calm_fail h
  | some a => exact contained_pure

section Lookups

variable (hreads : ∀ op : Op, op.Reads → allowed op)
include hreads

theorem calm_nodeIsActive {node : NodeId} : Calm allowed (nodeIsActive node) :=
  Contained.bind (contained_call (hreads _ trivial)) fun _ => contained_pure

theorem calm_nodeAddr {node : NodeId} : Calm allowed (nodeAddr node) := by
  refine Contained.bind (contained_call (hreads _ trivial)) fun _ => ?_
  split
  · exact contained_pure
  · exact calm_fail rfl

theorem calm_callNode {node : NodeId} {request : NodeRequest}
    (h : allowed (.call node request)) : Calm allowed (callNode node request) :=
  (calm_nodeAddr hreads).bind fun _ => contained_call h

theorem calm_firstActive {locations : List DurableLocation} :
    Calm allowed (firstActive locations) := by
  induction locations with
  | nil => exact contained_pure
  | cons l locations ih =>
    exact (calm_nodeIsActive hreads).attempt.bind fun _ => Contained.ite contained_pure ih

theorem calm_setLifecycle {ckpt : CheckpointObject} {target : LifecycleState}
    (h : allowed (.db (.checkpointSetLifecycle ckpt.checkpointId target .pending))) :
    Calm allowed (setLifecycle ckpt target) :=
  Contained.bind (contained_call (hreads _ trivial)) fun _ =>
    (calm_ofExcept (noPanic_transition _ _)).bind fun _ => contained_call h

end Lookups

/-- A calm program that runs alone returns no panic, and keeps what its operations keep. -/
theorem Calm.ends {p : Fabric α} {inv : Snapshot → Prop} {s : Snapshot} (hp : Calm allowed p)
    (hkeeps : ∀ op s reply s', allowed op → Snapshot.Step op s reply s' → inv s → inv s')
    (h : inv s) : Ends Snapshot.Step (fun result s' => NoPanic result ∧ inv s') p s := by
  exact Ends.of_contained hp (fun op s₁ reply s₂ hop hstep h₁ =>
    ⟨hstep.noPanic, hkeeps op s₁ reply s₂ hop hstep h₁⟩) h

end Calm

namespace Store

/-- Only the rows of checkpoint `id` and of attempt `key` have changed, of the tables that a
capture or restore writes to. -/
structure OnlyRows (id : Id) (key : AttemptId) (s s' : Store) : Prop where
  workloads : s'.workloads = s.workloads
  lineage : s'.lineage = s.lineage
  checkpoints : ∀ k, k ≠ id → s'.checkpoints.get k = s.checkpoints.get k
  attempts : ∀ k, k ≠ key → s'.attempts.get k = s.attempts.get k
  reservations : ∀ k, k ≠ key → s'.reservations.get k = s.reservations.get k

variable {s s' : Store} {id : Id} {key : AttemptId}

theorem OnlyRows.of_checkpoints (h : OnlyRows id key s s')
    {checkpoints : Table CheckpointObject.checkpointId}
    (hrows : ∀ k, k ≠ id → checkpoints.get k = s'.checkpoints.get k) :
    OnlyRows id key s { s' with checkpoints } :=
  { h with checkpoints := fun k hk => (hrows k hk).trans (h.checkpoints k hk) }

theorem OnlyRows.updateCheckpoint (h : OnlyRows id key s s')
    {f : CheckpointObject → CheckpointObject}
    {hf : ∀ c, c.checkpointId = id → (f c).checkpointId = id} :
    OnlyRows id key s (s'.updateCheckpoint id f hf) :=
  h.of_checkpoints fun _ hk => Table.get_modify_of_ne _ _ _ hk.symm

theorem OnlyRows.journalAppend {kind : JournalKind} {key' : AttemptId} {state : JournalState}
    {detail : String} {now : ℕ} (h : OnlyRows id key s s') :
    OnlyRows id key s (s'.journalAppend kind key' state detail now) where
  workloads := by simpa using h.workloads
  lineage := by simpa using h.lineage
  checkpoints := by simpa using h.checkpoints
  attempts := by simpa using h.attempts
  reservations := by simpa using h.reservations

theorem OnlyRows.attemptFinish {state : AttemptState} {result error : Option String} {now : ℕ}
    (h : OnlyRows id key s s') :
    OnlyRows id key s (s'.attemptFinish key state result error now) where
  __ := h
  attempts := fun k hk => (get_attemptFinish.trans (if_neg hk.symm)).trans (h.attempts k hk)

theorem OnlyRows.reservationRelease (h : OnlyRows id key s s') :
    OnlyRows id key s (s'.reservationRelease key) where
  __ := h
  reservations := fun k hk =>
    (get_reservationRelease.trans (if_neg hk.symm)).trans (h.reservations k hk)

/-- The reservation is there afterwards, or nothing has changed. -/
theorem ends_reservationCreate {kind : ReservationKind} {workloadId checkpointId : Option Id}
    {node : NodeId} {ttlMs : ℕ} {s : Snapshot} :
    Ends Snapshot.Step (fun result s' =>
        result = .ok () ∧ (∃ r hnew, (r.id = key ∧ r.state = .active) ∧
          s'.store = { s.store with reservations := s.store.reservations.insert r hnew }) ∨
        (∃ e, result = .error e) ∧ s'.store = s.store)
      (db (.reservationCreate key kind workloadId checkpointId node ttlMs)) s := by
  refine ends_db_cases (fun now n reply store _ _ hrun => ?_)
    fun now n e _ _ _ => .inr ⟨⟨e, rfl⟩, rfl⟩
  obtain ⟨-, r, hnew, rfl, rfl⟩ := Store.reservationCreate_ok (StoreOp.of_map_ok hrun)
  exact .inl ⟨rfl, _, hnew, ⟨rfl, rfl⟩, rfl⟩

/-- Reserving and opening an attempt. -/
theorem onlyRows_of_opened {r : Reservation} {hnew : s.reservations.get r.id = none}
    (hkey : r.id = key) {kind : AttemptKind} {checkpointId workloadId : Option Id} {node : NodeId}
    {now : ℕ} :
    OnlyRows id key s (({ s with reservations := s.reservations.insert r hnew } : Store).attemptBegin
      key kind checkpointId workloadId node now) := by
  have hreserved : OnlyRows id key s { s with reservations := s.reservations.insert r hnew } :=
    { workloads := rfl
      lineage := rfl
      checkpoints := fun _ _ => rfl
      attempts := fun _ _ => rfl
      reservations := fun k hk => by
        dsimp only
        rw [Table.get_insert, if_neg fun h => hk (h.symm.trans hkey)] }
  unfold attemptBegin
  split
  · refine { hreserved with attempts := fun k hk => ?_ }
    dsimp only
    rw [Table.get_insert, if_neg hk.symm]
  · exact hreserved

end Store

end CheckpointFabric
