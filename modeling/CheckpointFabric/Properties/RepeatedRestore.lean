import CheckpointFabric.Alone.ServedRestore
import CheckpointFabric.Properties.FailedRestore
import CheckpointFabric.Properties.Images
import CheckpointFabric.Properties.Reservations

/-!
# A checkpoint is restored once

A restore whose calls all succeed leaves its checkpoint RESTORED, and the validation of a
restore accepts that state. But no edge of the state machine leads from it to
RESTORE_PENDING, which is what the restore needs next. So of several restores of one
checkpoint only the first one goes through, and that one as long as the counters of the
workload fit into their columns.

## Main definitions

* `RestoresInTurn` — successive restores whose calls all succeed
* `Workload.Repeats` — all of them return success, and every one advances the generation

## Main results

* `ends_requestRestore_restored` — a RESTORED checkpoint is not restored
* `restores_repeat_iff` — successive restores all go through iff there is at most one
-/

set_option autoImplicit false

namespace CheckpointFabric

open Concurrency Coordinator System Fabric Snapshot

/-- A RESTORED checkpoint is not restored. -/
theorem Coordinator.ends_requestRestore_restored {settings : Settings} {id : Id} {node : NodeId}
    {options : RestoreOptions} {ctx : OperationContext} {c : CheckpointObject} {s : Snapshot}
    (hc : s.store.checkpoints.get id = some c) (hrestored : c.lifecycle = .restored) :
    Ends Step (fun result _ => ∃ e, result = .error e)
      (requestRestore settings id node options ctx) s := by
  unfold requestRestore
  refine Ends.bind ends_admitRestore (fun run s₁ h₁ => ?_) fun e _ _ => ⟨e, rfl⟩
  obtain ⟨hstore, hchosen⟩ := h₁
  obtain ⟨-, ⟨c', hc', hckpt, -⟩, -⟩ := hchosen run rfl
  obtain rfl := Option.some.inj (hc'.symm.trans hc)
  have hid : run.ckpt.checkpointId = id := by
    rw [hckpt]
    exact (Table.key_of_get hc : c'.checkpointId = id)
  subst hid
  rw [← hstore] at hc
  refine Ends.bind (ends_reserveRestore hc) (fun _ s₂ h₂ => ?_) fun e _ _ => ⟨e, rfl⟩
  obtain ⟨-, hconfined, -⟩ | ⟨⟨e, he⟩, -⟩ := h₂
  · refine Ends.onError ((ends_executeRestore_of_restored hrestored hconfined).weaken
      fun result s₃ h₃ => ?_) fun _ _ _ herror => herror
    obtain ⟨-, e, he, -⟩ := h₃
    exact ⟨e, he⟩
  · cases he

section Fresh

variable {settings : Settings} {t : List (Event (fabric settings))} {key : AttemptId} {id : Id}

/-- Every reservation is of an attempt that a thread has drawn. -/
theorem exists_draws_of_reservation (h : Run t) {r : Reservation}
    (hr : (stateOf t).reservation key = some r) : ∃ tid, Draws t tid key := by
  induction t generalizing r with
  | nil => cases hr
  | cons e t ih =>
    have hlater {tid : ℕ} (hdraws : Draws t tid key) : Draws (e :: t) tid key :=
      (deeds_suffix (List.suffix_cons e t)).subset hdraws
    have hold {r : Reservation} (hr : (stateOf t).reservation key = some r) :
        ∃ tid, Draws (e :: t) tid key := by
      obtain ⟨tid, hdraws⟩ := ih h.tail hr
      exact ⟨tid, hlater hdraws⟩
    rw [stateOf_cons] at hr
    rcases reservationStep_cases h key with ⟨tid, op, reply, hop, hcalls, hstep⟩ | hsame
    · rw [hr] at hstep
      generalize hrow : (stateOf t).reservation key = row at hstep
      cases hstep with
      | kept | released | expired => exact hold hrow
      | created => exact ⟨tid, hlater (draws_of_calls h hcalls)⟩
    · exact hold (hsame.symm.trans hr)

/-- A nonce that is still to be drawn is in no reservation. -/
theorem reservation_eq_none_of_issued_le {nonce : Id} (h : Run t)
    (hnonce : (stateOf t).issued ≤ nonce) : (stateOf t).reservation (.restore id nonce) = none := by
  cases hr : (stateOf t).reservation (.restore id nonce) with
  | none => rfl
  | some r =>
    obtain ⟨tid, hdraws⟩ := exists_draws_of_reservation h hr
    obtain ⟨later, ds, hsplit⟩ := List.append_of_mem hdraws
    exact absurd (lt_issued_of_draw h ⟨later, hsplit.symm⟩) (Nat.not_lt.mpr hnonce)

/-- The manifest of an AVAILABLE checkpoint is anchored. -/
theorem isSome_manifestDigest_of_available {c : CheckpointObject} (h : Run t)
    (hc : (stateOf t).checkpoint id = some c) (havailable : c.lifecycle = .available) :
    c.manifestDigest.isSome := by
  have hvisible : c.lifecycle.Visible := LifecycleState.Committed.visible (.inl havailable)
  obtain ⟨_, _, -, hfull⟩ := full_of_imaged h hc (imaged_of_visible h hc hvisible)
  obtain ⟨m, -, hdigest, -⟩ := hfull.anchored
  exact Option.isSome_iff_exists.mpr ⟨_, hdigest⟩

end Fresh

section Turns

variable {settings : Settings} {id : Id} {node : NodeId} {options : RestoreOptions}
  {ctx : OperationContext} {c : CheckpointObject} {r : Workload} {w w' : World}

/-- An operation of a request that runs alone, and whose calls of nodes succeed. -/
def World.Served (settings : Settings) (op : Op) (w : World) (reply : FabricResult op.Reply)
    (w' : World) : Prop :=
  System.AloneStep (S := fabric settings) Op.Sound op w reply w' ∧ op.succeeds reply

/-- Restores of the checkpoint onto the node, one after the other, each alone and with calls that
succeed; and what they return. -/
inductive RestoresInTurn (settings : Settings) (id : Id) (node : NodeId) (options : RestoreOptions)
    (ctx : OperationContext) : World → List (FabricResult OperationOutcome) → World → Prop
  | nil {w : World} : RestoresInTurn settings id node options ctx w [] w
  | cons {w w' w'' : World} {result : FabricResult OperationOutcome}
      {results : List (FabricResult OperationOutcome)} :
    Runs (World.Served settings) (requestRestore settings id node options ctx) w result w' →
    RestoresInTurn settings id node options ctx w' results w'' →
    RestoresInTurn settings id node options ctx w (result :: results) w''

/-- All the restores have returned success, and every one has advanced the generation of the
workload. -/
def Workload.Repeats (r : Workload) (results : List (FabricResult OperationOutcome)) (w : World) :
    Prop :=
  (∀ result ∈ results, ∃ out, result = .ok out) ∧
    ∃ r' ∈ w.workload r.workloadId, r'.workloadGeneration = r.workloadGeneration + results.length

/-- What holds of every served run of the snapshots holds of the worlds. -/
theorem ends_of_served {α : Type} {p : Fabric α} {result : FabricResult α}
    {post : FabricResult α → Snapshot → Prop} (hruns : Runs (World.Served settings) p w result w')
    (h : Ends Snapshot.Served post p w.snapshot) : post result w'.snapshot :=
  ends_iff.mp h _ _ (hruns.map fun _ _ _ _ ⟨hstep, hsucceeds⟩ =>
    ⟨step_of_aloneStep hstep, hsucceeds⟩)

/-- After the run, a restore of an AVAILABLE checkpoint whose calls all succeed goes through just
when the counters fit. -/
theorem finished_of_served {t : List (Event (fabric settings))}
    {result : FabricResult OperationOutcome} (h : Run t)
    (hrestorable : Restorable settings id node options ctx (stateOf t).store c r)
    (hruns : Runs (World.Served settings) (requestRestore settings id node options ctx) (stateOf t)
      result w) :
    r.Fits options.migration ∧ (∃ out, result = .ok out) ∧
        (∃ c', w.checkpoint id = some c' ∧ c'.lifecycle = .restored) ∧
        (∃ r', w.workload c.workloadId = some r' ∧
          r'.workloadGeneration = r.workloadGeneration + 1) ∨
      ¬ r.Fits options.migration ∧ ∃ e, result = .error e :=
  ends_of_served hruns <| ends_requestRestore_served hrestorable
    (isSome_manifestDigest_of_available h hrestorable.found hrestorable.available)
    fun _ hnonce => reservation_eq_none_of_issued_le h hnonce

/-- A second restore fails. -/
theorem error_of_served {result : FabricResult OperationOutcome}
    (hc : w.checkpoint id = some c) (hrestored : c.lifecycle = .restored)
    (hruns : Runs (World.Served settings) (requestRestore settings id node options ctx) w result
      w') : ∃ e, result = .error e :=
  ends_of_served hruns <|
    (ends_requestRestore_restored (s := w.snapshot) hc hrestored).of_step
      fun _ _ _ _ hserved => hserved.1

theorem Workload.not_repeats_of_error {results : List (FabricResult OperationOutcome)}
    {e : FabricError} (hmem : .error e ∈ results) : ¬ r.Repeats results w := by
  rintro ⟨hall, -⟩
  obtain ⟨out, hout⟩ := hall _ hmem
  cases hout

end Turns

/-- Restores of an AVAILABLE checkpoint, one after the other and with calls that succeed, all return
success and advance the generation by their number just when there is none, or a single one whose
counters fit: the validation accepts a state that has no edge to RESTORE_PENDING. -/
theorem restores_repeat_iff {settings : Settings} {t : List (Event (fabric settings))} {id : Id}
    {node : NodeId} {options : RestoreOptions} {ctx : OperationContext} {c : CheckpointObject}
    {r : Workload} {results : List (FabricResult OperationOutcome)} {w : World} (h : Run t)
    (hrestorable : Restorable settings id node options ctx (stateOf t).store c r)
    (hturns : RestoresInTurn settings id node options ctx (stateOf t) results w) :
    (r.Repeats results w ↔
        results.length = 0 ∨ results.length = 1 ∧ r.Fits options.migration) ∧
      ∀ row : CheckpointObject, Restore.validateRestoreRequest row settings.policy = .ok () →
        (row.lifecycle.canTransition .restorePending ↔ row.lifecycle = .available) := by
  refine ⟨?_, fun row =>
    Restore.canTransition_restorePending_of_validateRestoreRequest_iff⟩
  have hid : r.workloadId = c.workloadId := Table.key_of_get hrestorable.owner
  cases hturns with
  | nil =>
    refine iff_of_true ⟨fun _ hresult => absurd hresult List.not_mem_nil, r, ?_, rfl⟩ (.inl rfl)
    exact hid ▸ hrestorable.owner
  | cons hruns hturns =>
    rcases finished_of_served h hrestorable hruns with
      ⟨hfits, ⟨out, rfl⟩, ⟨c', hc', hrestored⟩, r', hr', hgeneration⟩ | ⟨hfits, e, rfl⟩
    · cases hturns with
      | nil =>
        refine iff_of_true ⟨fun result hresult => ⟨out, ?_⟩, r', hid ▸ hr', hgeneration⟩
          (.inr ⟨rfl, hfits⟩)
        exact List.mem_singleton.mp hresult
      | cons hruns' hturns =>
        obtain ⟨e, rfl⟩ := error_of_served hc' hrestored hruns'
        refine iff_of_false (Workload.not_repeats_of_error (.tail _ (.head _))) ?_
        rintro (hlength | ⟨hlength, -⟩)
        · cases hlength
        · exact absurd (Nat.succ.inj hlength) (Nat.succ_ne_zero _)
    · refine iff_of_false (Workload.not_repeats_of_error (.head _)) ?_
      rintro (hlength | ⟨-, hfits'⟩)
      · cases hlength
      · exact hfits hfits'

/-- The small fabric when its checkpoint is AVAILABLE. -/
def Demo.afterCapture : World := stateOf (exec Demo.captured).trace

/-- A restore of the checkpoint of the small fabric. -/
def Demo.restoring (w : World) : FabricResult OperationOutcome × World :=
  (requestRestore Demo.settings 2 "n1" {} Demo.operator).eval (World.answerAfter Demo.codecs 0) w

theorem Demo.runs_restoring {w : World}
    (hall : (requestRestore Demo.settings 2 "n1" {} Demo.operator).evalAll
      (World.answerAfter Demo.codecs 0) Op.succeeds w) :
    Runs (World.Served Demo.settings) (requestRestore Demo.settings 2 "n1" {} Demo.operator) w
      (Demo.restoring w).1 (Demo.restoring w).2 :=
  runs_evalAll (aloneStep_answerAfter 0) hall

/-- The small fabric restores its checkpoint once. -/
theorem restores_repeat_once : ∃ r ∈ Demo.afterCapture.workload 7,
    r.Repeats [(Demo.restoring Demo.afterCapture).1] (Demo.restoring Demo.afterCapture).2 := by
  obtain ⟨c, -, r, hr, hrestorable, hfits⟩ :
      ∃ c ∈ Demo.afterCapture.checkpoint 2, ∃ r ∈ Demo.afterCapture.workload 7,
        Restorable Demo.settings 2 "n1" {} Demo.operator Demo.afterCapture.store c r ∧
          r.Fits ({} : RestoreOptions).migration := by
    decide +kernel
  have hruns := Demo.runs_restoring (w := Demo.afterCapture) (by decide +kernel)
  exact ⟨r, hr, (restores_repeat_iff (exec_run Demo.captured) hrestorable (.cons hruns .nil)).1.mpr
    (.inr ⟨rfl, hfits⟩)⟩

/-- It does not restore it twice. -/
theorem restores_repeat_twice : ∃ c r results w,
    Restorable Demo.settings 2 "n1" {} Demo.operator Demo.afterCapture.store c r ∧
    RestoresInTurn Demo.settings 2 "n1" {} Demo.operator Demo.afterCapture results w ∧
    results.length = 2 ∧ ¬ r.Repeats results w := by
  obtain ⟨c, -, r, -, hrestorable⟩ :
      ∃ c ∈ Demo.afterCapture.checkpoint 2, ∃ r ∈ Demo.afterCapture.workload 7,
        Restorable Demo.settings 2 "n1" {} Demo.operator Demo.afterCapture.store c r := by
    decide +kernel
  have hruns := Demo.runs_restoring (w := Demo.afterCapture) (by decide +kernel)
  have hruns' := Demo.runs_restoring (w := (Demo.restoring Demo.afterCapture).2)
    (by decide +kernel)
  obtain ⟨e, herror⟩ : ∃ e, (Demo.restoring (Demo.restoring Demo.afterCapture).2).1 = .error e := by
    have hnone : (Demo.restoring (Demo.restoring Demo.afterCapture).2).1.toOption = none := by
      decide +kernel
    generalize (Demo.restoring (Demo.restoring Demo.afterCapture).2).1 = result at hnone ⊢
    cases result with
    | error e => exact ⟨e, rfl⟩
    | ok out => cases hnone
  refine ⟨c, r, _, _, hrestorable, .cons hruns (.cons hruns' .nil), rfl, ?_⟩
  exact Workload.not_repeats_of_error (e := e) (.tail _ (herror ▸ .head _))

end CheckpointFabric
