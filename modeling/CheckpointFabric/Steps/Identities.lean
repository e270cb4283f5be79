import CheckpointFabric.Footprints.Requests
import CheckpointFabric.Steps.Runs

/-!
# Fresh identities

Every draw uses up the identity it returns, so an identity names the one draw it came
from: the thread that made it, and what that thread had done before.

## Main results

* `drawn_unique` — an identity is drawn once
* `Reached.le` — an attempt never goes back to an earlier phase
* `CaptureDrawn.unique`, `CaptureDrawn.unique_of_checkpoint` — an attempt id, or a checkpoint
  id, names one admitted capture
-/

set_option autoImplicit false

namespace CheckpointFabric

open Concurrency Coordinator System

variable {settings : Settings} {t : List (Event (fabric settings))}

/-- A draw returns the next identity. -/
theorem exists_draw {tid : ℕ} {n : Id} {ds : List FabricDeed} (h : Run t)
    (hd : (⟨.random, .ok n⟩ : FabricDeed) :: ds <:+ deeds tid t) :
    ∃ input t', .performed tid .random input (stateOf t') :: t' <:+ t ∧ deeds tid t' = ds ∧
      (stateOf t').issued = n := by
  obtain ⟨input, t', hsuffix, hds, hreply⟩ := exists_event_of_deed h hd
  exact ⟨input, t', hsuffix, hds, (Except.ok.inj hreply).symm⟩

/-- A draw uses up its identity. -/
theorem issued_lt_of_draw {t₁ t₂ : List (Event (fabric settings))} {tid : ℕ} {input : Input}
    (h : Run t₂) (hsuffix : .performed tid .random input (stateOf t₁) :: t₁ <:+ t₂) :
    (stateOf t₁).issued < (stateOf t₂).issued :=
  Nat.lt_of_lt_of_le (Nat.lt_succ_self _) (issued_le_of_run h hsuffix)

/-- An identity is drawn once. -/
theorem drawn_unique {tid tid' : ℕ} {n : Id} {ds ds' : List FabricDeed} (h : Run t)
    (hd : (⟨.random, .ok n⟩ : FabricDeed) :: ds <:+ deeds tid t)
    (hd' : (⟨.random, .ok n⟩ : FabricDeed) :: ds' <:+ deeds tid' t) : tid = tid' ∧ ds = ds' := by
  obtain ⟨input₁, t₁, hsuffix₁, rfl, hn₁⟩ := exists_draw h hd
  obtain ⟨input₂, t₂, hsuffix₂, rfl, hn₂⟩ := exists_draw h hd'
  have hrun₁ := (h.of_suffix hsuffix₁).tail
  have hrun₂ := (h.of_suffix hsuffix₂).tail
  -- Of two draws the later one returns the larger identity, so they are the same event.
  rcases List.suffix_or_suffix_of_suffix hsuffix₁ hsuffix₂ with hsuffix | hsuffix
  · rcases List.suffix_cons_iff.mp hsuffix with heq | hsuffix
    · obtain ⟨hevent, rfl⟩ := List.cons.inj heq
      exact ⟨(Event.performed.inj hevent).1, (Event.performed.inj hevent).1 ▸ rfl⟩
    · have := issued_lt_of_draw hrun₂ hsuffix
      omega
  · rcases List.suffix_cons_iff.mp hsuffix with heq | hsuffix
    · obtain ⟨hevent, rfl⟩ := List.cons.inj heq
      exact ⟨(Event.performed.inj hevent).1.symm, (Event.performed.inj hevent).1 ▸ rfl⟩
    · have := issued_lt_of_draw hrun₁ hsuffix
      omega

section Phases

variable {tid : ℕ} {key : AttemptId} {d : FabricDeed} {older : List FabricDeed}

/-- What a thread did after it drew the nonce of an attempt is since that draw. -/
theorem mem_since_of_drawn (h : Run t) (hd : d :: older <:+ deeds tid t)
    (hdrawn : (⟨.random, .ok key.nonce⟩ : FabricDeed) ∈ older) :
    d ∈ since (drawsAttempt key) (deeds tid t) := by
  obtain ⟨recent, hrecent⟩ := hd
  obtain ⟨later, ds₀, rfl⟩ := List.append_of_mem hdrawn
  have hsplit : deeds tid t = (recent ++ [d]) ++ (later ++ ⟨.random, .ok key.nonce⟩ :: ds₀) := by
    rw [← hrecent]
    simp
  rw [hsplit]
  refine mem_since_append (fun d' hd' => ?_) (List.mem_append_right _ (.head _))
  -- A second draw of the nonce would have other deeds before it.
  by_contra hmark
  have heq := eq_of_drawsId (Bool.not_eq_false _ ▸ hmark)
  obtain ⟨before, after, hafter⟩ := List.append_of_mem hd'
  have hsuffix : (⟨.random, .ok key.nonce⟩ : FabricDeed) ::
      (after ++ (later ++ ⟨.random, .ok key.nonce⟩ :: ds₀)) <:+ deeds tid t := by
    refine ⟨before, ?_⟩
    rw [hsplit, hafter, heq]
    simp
  have hsuffix' : (⟨.random, .ok key.nonce⟩ : FabricDeed) :: ds₀ <:+ deeds tid t := by
    refine ⟨recent ++ [d] ++ later, ?_⟩
    rw [hsplit]
    simp
  have hlength := congrArg List.length (drawn_unique h hsuffix hsuffix').2
  simp only [List.length_append, List.length_cons] at hlength
  omega

/-- The attempt has come to phase `n`, or further. -/
def Reached (timetable : Timetable fabricInterface) (t : List (Event (fabric settings)))
    (key : AttemptId) (n : ℕ) : Prop :=
  ∃ tid d older, d :: older <:+ deeds tid t ∧ (⟨.random, .ok key.nonce⟩ : FabricDeed) ∈ older ∧
    ∃ k ∈ timetable.phase d.op, n ≤ k

theorem Reached.mono {timetable : Timetable fabricInterface} {t' : List (Event (fabric settings))}
    {n : ℕ} (h : Reached timetable t' key n) (hsuffix : t' <:+ t) : Reached timetable t key n := by
  obtain ⟨tid, d, older, hd, hrest⟩ := h
  exact ⟨tid, d, older, hd.trans (deeds_suffix hsuffix), hrest⟩

theorem Reached.earlier {timetable : Timetable fabricInterface} {m n : ℕ}
    (h : Reached timetable t key n) (hle : m ≤ n) : Reached timetable t key m := by
  obtain ⟨tid, d, older, hd, hdrawn, k, hk, hn⟩ := h
  exact ⟨tid, d, older, hd, hdrawn, k, hk, Nat.le_trans hle hn⟩

/-- An attempt never goes back to an earlier phase. -/
theorem Reached.le {timetable : Timetable fabricInterface} {n k : ℕ} {op : Op} (h : Run t)
    (hreached : Reached timetable t key n)
    (hdrawn : (⟨.random, .ok key.nonce⟩ : FabricDeed) ∈ deeds tid t)
    (hturn : InTurn timetable (drawsAttempt key) (deeds tid t) op)
    (hk : timetable.latest op = some k) : n ≤ k := by
  obtain ⟨tid', d, older, hd, hdrawn', k', hk', hle⟩ := hreached
  have htid : tid' = tid := by
    obtain ⟨later, ds, hsplit⟩ := List.append_of_mem hdrawn'
    obtain ⟨later', ds', hsplit'⟩ := List.append_of_mem hdrawn
    have hsuffix : (⟨.random, .ok key.nonce⟩ : FabricDeed) :: ds <:+ d :: older :=
      ⟨d :: later, by simp [hsplit]⟩
    exact (drawn_unique h (hsuffix.trans hd) ⟨later', hsplit'.symm⟩).1
  subst htid
  exact Nat.le_trans hle (hturn k hk d (mem_since_of_drawn h hd hdrawn') k' hk')

end Phases

end CheckpointFabric

namespace CheckpointFabric.Coordinator

open Concurrency System

section Captures

variable {settings : Settings} {t : List (Event (fabric settings))} {tid tid' : ℕ}
  {workloadId workloadId' nonce nonce' : Id}
  {ds₀ ds₀' : List FabricDeed} {run run' : CaptureRun}

/-- Two captures with the same draws are the same, up to what the request asked for. -/
structure SameCapture (run run' : CaptureRun) : Prop where
  workload : run.workload = run'.workload
  checkpointId : run.checkpointId = run'.checkpointId
  checkpointGeneration : run.checkpointGeneration = run'.checkpointGeneration
  attemptId : run.attemptId = run'.attemptId

/-- A row that shows a capture shows every capture that is the same. -/
theorem SameCapture.describes {c : CheckpointObject} (h : SameCapture run run')
    (hdescribes : run.Describes c) : run'.Describes c where
  checkpointId := hdescribes.checkpointId.trans h.checkpointId
  workloadId := h.workload ▸ hdescribes.workloadId
  workloadGeneration := h.workload ▸ hdescribes.workloadGeneration
  checkpointGeneration := hdescribes.checkpointGeneration.trans h.checkpointGeneration
  captureAttempt := hdescribes.captureAttempt.trans h.attemptId

theorem CaptureDrawn.nonce_suffix {ds : List FabricDeed}
    (h : CaptureDrawn workloadId nonce ds₀ ds run) :
    (⟨.random, .ok nonce⟩ : FabricDeed) :: ds₀ <:+ ds := by
  obtain ⟨latest, -, hdraws⟩ := h.draws
  exact (List.suffix_append [_, _] _).trans hdraws

/-- What was read before the draws fixes the workload. -/
theorem CaptureDrawn.workload_eq {ds ds' : List FabricDeed}
    (h : CaptureDrawn workloadId nonce ds₀ ds run)
    (h' : CaptureDrawn workloadId' nonce' ds₀ ds' run') :
    workloadId = workloadId' ∧ run.workload = run'.workload := by
  have hread := h.read.symm.trans h'.read
  simp only [Option.some.injEq, Deed.mk.injEq, Op.db.injEq, StoreOp.workloadGet.injEq] at hread
  obtain ⟨rfl, hreply⟩ := hread
  simpa using hreply

/-- An attempt id names one admitted capture. -/
theorem CaptureDrawn.unique (h : Run t)
    (hdrawn : CaptureDrawn workloadId nonce ds₀ (deeds tid t) run)
    (hdrawn' : CaptureDrawn workloadId' nonce' ds₀' (deeds tid' t) run')
    (hid : run.attemptId = run'.attemptId) : tid = tid' ∧ SameCapture run run' := by
  have hnonce : nonce = nonce' := by
    rw [hdrawn.attemptId, hdrawn'.attemptId] at hid
    exact (AttemptId.capture.inj hid).2
  obtain ⟨rfl, rfl⟩ := drawn_unique h hdrawn.nonce_suffix (hnonce ▸ hdrawn'.nonce_suffix)
  obtain ⟨latest, hgeneration, hdraws⟩ := hdrawn.draws
  obtain ⟨latest', hgeneration', hdraws'⟩ := hdrawn'.draws
  -- Both runs draw the checkpoint id at the same place.
  have heq := (List.suffix_of_suffix_length_le hdraws hdraws' (by simp)).eq_of_length (by simp)
  obtain ⟨hcheckpoint, hrest⟩ := List.cons.inj heq
  have hcheckpoint : run.checkpointId = run'.checkpointId := by simpa using hcheckpoint
  have hlatest : workloadId = workloadId' ∧ latest = latest' := by
    simpa using (List.cons.inj hrest).1
  exact ⟨rfl, (hdrawn.workload_eq hdrawn').2, hcheckpoint,
    by rw [hgeneration, hgeneration', hlatest.2], hid⟩

/-- So does the id of its checkpoint. -/
theorem CaptureDrawn.unique_of_checkpoint (h : Run t)
    (hdrawn : CaptureDrawn workloadId nonce ds₀ (deeds tid t) run)
    (hdrawn' : CaptureDrawn workloadId' nonce' ds₀' (deeds tid' t) run')
    (hid : run.checkpointId = run'.checkpointId) : tid = tid' ∧ SameCapture run run' := by
  obtain ⟨latest, hgeneration, hdraws⟩ := hdrawn.draws
  obtain ⟨latest', hgeneration', hdraws'⟩ := hdrawn'.draws
  obtain ⟨htid, hds⟩ := drawn_unique h hdraws (hid ▸ hdraws')
  obtain ⟨hlatest, hrest⟩ := List.cons.inj hds
  obtain ⟨hnonce, rfl⟩ := List.cons.inj hrest
  obtain ⟨hworkload, hrow⟩ := hdrawn.workload_eq hdrawn'
  obtain rfl : nonce = nonce' := by simpa using hnonce
  have hlatest : workloadId = workloadId' ∧ latest = latest' := by simpa using hlatest
  exact ⟨htid, hrow, hid, by rw [hgeneration, hgeneration', hlatest.2],
    by rw [hdrawn.attemptId, hdrawn'.attemptId, hworkload]⟩

end Captures

section Restores

variable {settings : Settings} {t : List (Event (fabric settings))} {tid tid' : ℕ}
  {checkpointId : Id} {targetNode : NodeId} {options : RestoreOptions} {start : List FabricDeed}
  {run : RestoreRun}

/-- The row that a restore was admitted with was there. -/
theorem RestoreAdmitted.exists_row (h : Run t)
    (hadmitted : RestoreAdmitted settings checkpointId targetNode options start (deeds tid t) run) :
    ∃ t' row, t' <:+ t ∧ (stateOf t').checkpoint checkpointId = some row ∧
      run.ckpt = Store.readCheckpoint row := by
  obtain ⟨t', hsuffix, -, row, hrow, hckpt⟩ := checkpoint_of_read h hadmitted.read
  exact ⟨t', row, hsuffix, hrow, hckpt⟩

theorem RestoreAdmitted.checkpointId_eq (h : Run t)
    (hadmitted : RestoreAdmitted settings checkpointId targetNode options start (deeds tid t) run) :
    run.ckpt.checkpointId = checkpointId := by
  obtain ⟨t', row, -, hrow, hckpt⟩ := hadmitted.exists_row h
  rw [hckpt]
  exact (World.checkpointId_of_row hrow : row.checkpointId = checkpointId)

end Restores

end CheckpointFabric.Coordinator
