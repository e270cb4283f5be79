import CheckpointFabric.Steps.Seals

/-!
# The interval between captures

A policy may ask for a minimum interval between the captures of a workload. A capture is checked
against the latest seal among the AVAILABLE checkpoints, on a list that it reads before it reserves
the workload. A checkpoint that has been restored or retired is not on that list any more, and
neither is one that is committed between the read and the reservation.

## Main definitions

* `Spaced` — the seals of the committed captures of a workload keep the interval
* `Overlooks` — a capture commits that was not checked against another one

## Main results

* `captures_spaced` — the interval is kept in every run in which that does not happen
-/

set_option autoImplicit false

namespace CheckpointFabric

/-- A request that is valid comes an interval after the last capture. -/
theorem Capture.interval_of_validateCaptureRequest {workload : Workload} {options : CaptureOptions}
    {policy : PolicySet} {last now : ℕ}
    (h : Capture.validateCaptureRequest workload options policy (some last) now = .ok ())
    (hpolicy : 0 < policy.minCaptureIntervalMs) : last + policy.minCaptureIntervalMs ≤ now := by
  have hinterval : Capture.validateInterval policy (some last) now = .ok () := by
    unfold Capture.validateCaptureRequest at h
    cases hcheck : Capture.validateInterval policy (some last) now with
    | ok => rfl
    | error err =>
      rw [hcheck] at h
      exact absurd h (by simp [bind, Except.bind])
  simp only [Capture.validateInterval] at hinterval
  split at hinterval
  · exact absurd hinterval (by simp)
  · omega

/-- The latest seal is not before that of any AVAILABLE checkpoint. -/
theorem Coordinator.le_lastSeal {checkpoints : List CheckpointObject} {c : CheckpointObject}
    (hmem : c ∈ checkpoints) (havailable : c.lifecycle = .available) :
    ∃ last, Coordinator.lastSeal checkpoints = some last ∧ c.sealMs ≤ last := by
  have hseal : c.sealMs ∈ (checkpoints.filter fun c => c.lifecycle == .available).map (·.sealMs) :=
    List.mem_map.mpr ⟨c, List.mem_filter.mpr ⟨hmem, by simp [havailable]⟩, rfl⟩
  cases hlast : Coordinator.lastSeal checkpoints with
  | none =>
    rw [Coordinator.lastSeal, List.max?_eq_none_iff] at hlast
    exact absurd hseal (by simp [hlast])
  | some last => exact ⟨last, rfl, (List.max?_eq_some_iff.mp hlast).2 _ hseal⟩

open Concurrency Coordinator System

variable {settings : Settings} {t t' : List (Event (fabric settings))}
  {e : Event (fabric settings)} {id id' : Id} {c c' : CheckpointObject}

section Definitions

/-- The checkpoint whose capture the event commits. -/
def commitOf (e : Event (fabric settings)) : Option Id :=
  match callOf e with
  | some (_, .captureCommit id _) => some id
  | _ => none

/-- The capture of the checkpoint has committed. -/
def Committed (t : List (Event (fabric settings))) (id : Id) : Prop := ∃ e ∈ t, commitOf e = some id

/-- The committed captures of one workload were sealed at least the interval apart. -/
def Spaced (t : List (Event (fabric settings))) : Prop :=
  ∀ id id' c c', id ≠ id' → (stateOf t).checkpoint id = some c →
    (stateOf t).checkpoint id' = some c' → Committed t id → Committed t id' →
    c.workloadId = c'.workloadId →
    c.sealMs + settings.policy.minCaptureIntervalMs ≤ c'.sealMs ∨
      c'.sealMs + settings.policy.minCaptureIntervalMs ≤ c.sealMs

/-- The capture of the second checkpoint was admitted with the first one AVAILABLE. -/
def AdmittedAfter (t : List (Event (fabric settings))) (c c' : CheckpointObject) : Prop :=
  ∃ listed ∈ listedFor c'.captureAttempt.nonce t,
    ∃ a ∈ listed, a.checkpointId = c.checkpointId ∧ a.lifecycle = .available

/-- A capture commits, another one of the workload has committed, and neither was admitted with the
checkpoint of the other AVAILABLE. -/
def Overlooks (e : Event (fabric settings)) (past : List (Event (fabric settings))) : Prop :=
  ∃ id ∈ commitOf e, ∃ c ∈ (stateOf past).checkpoint id,
    ∃ c' ∈ (stateOf past).store.checkpoints.rows, c'.checkpointId ≠ id ∧
      c.workloadId = c'.workloadId ∧ Committed past c'.checkpointId ∧
      ¬ AdmittedAfter past c c' ∧ ¬ AdmittedAfter past c' c

instance (t : List (Event (fabric settings))) (id : Id) : Decidable (Committed t id) :=
  inferInstanceAs (Decidable (∃ e ∈ t, commitOf e = some id))

instance (t : List (Event (fabric settings))) (c c' : CheckpointObject) :
    Decidable (AdmittedAfter t c c') := by
  unfold AdmittedAfter
  infer_instance

instance (e : Event (fabric settings)) (past : List (Event (fabric settings))) :
    Decidable (Overlooks e past) := by
  unfold Overlooks
  infer_instance

end Definitions

section Seals

/-- A capture that was admitted with a checkpoint AVAILABLE is sealed an interval later. -/
theorem le_sealMs_of_admittedAfter (h : Run t) (hpolicy : 0 < settings.policy.minCaptureIntervalMs)
    (hc : (stateOf t).checkpoint id = some c) (hc' : (stateOf t).checkpoint id' = some c')
    (hsealed : SealedRow t c') (hadmitted : AdmittedAfter t c c') :
    c.sealMs + settings.policy.minCaptureIntervalMs ≤ c'.sealMs := by
  obtain ⟨tid, run, asks, workloadId, imaged, hcaptures,
    ⟨answered, sealMs, digest, text, older, holder, hchecked, -, rfl⟩, hid, hseal⟩ := hsealed
  obtain ⟨checkpoints, now, oldest, hreads, hvalid, -, ds₀, hdrawn, hlisted⟩ := hchecked.validated
  have holder' := (List.suffix_cons _ older).trans holder
  -- The list is the one that the capture was admitted with.
  have hattempt : c'.captureAttempt = run.attemptId := by
    rw [World.checkpointId_of_row hc'] at hid
    exact hcaptures.captureAttempt_eq h (hid ▸ hc')
  obtain ⟨listed, hlist, a, ha, hackpt, havailable⟩ := hadmitted
  rw [hattempt, listedFor_of_drawn h (hdrawn.trans holder'), hlisted] at hlist
  obtain rfl := Option.some.inj hlist
  -- The row that was listed still shows the seal.
  have hread : (⟨.db (.checkpointList workloadId), .ok checkpoints⟩ : FabricDeed) ∈ deeds tid t :=
    (hreads.trans holder').subset (.tail _ (.head _))
  have hop : (StoreOp.checkpointList workloadId).Reads := trivial
  obtain ⟨t₁, hsuffix, -, clock, hrun⟩ := exists_store_of_read h hop hread
  have hstored : (stateOf t₁).store.checkpointList workloadId = checkpoints :=
    (Prod.mk.inj (Except.ok.inj hrun)).1
  have hrow := ha
  rw [← hstored, Store.checkpointList, List.mem_map] at hrow
  obtain ⟨row, hrow, rfl⟩ := hrow
  rw [List.mem_insertionSort, List.mem_filter] at hrow
  have hrow₁ : (stateOf t₁).checkpoint row.checkpointId = some row := Table.get_of_mem hrow.1
  have hlate : ¬ row.lifecycle.Preliminary := by
    rw [show row.lifecycle = .available from havailable]
    exact not_false
  obtain ⟨c₂, hc₂, hsame₂⟩ := sameContents_of_late h hsuffix hrow₁ hlate
  have hseal₂ := hsame₂.sealMs
  rw [show row.checkpointId = id from hackpt.trans (World.checkpointId_of_row hc)] at hc₂
  obtain rfl := Option.some.inj (hc₂.symm.trans hc)
  obtain ⟨last, hlast, hle⟩ := le_lastSeal ha havailable
  rw [hlast] at hvalid
  have hinterval := Capture.interval_of_validateCaptureRequest hvalid hpolicy
  have hnow : now ≤ sealMs := now_le_of_deeds h holder (hreads.subset (.head _))
  calc c₂.sealMs + settings.policy.minCaptureIntervalMs
      = row.sealMs + settings.policy.minCaptureIntervalMs := by rw [hseal₂]
    _ ≤ last + settings.policy.minCaptureIntervalMs := Nat.add_le_add_right hle _
    _ ≤ now := hinterval
    _ ≤ sealMs := hnow
    _ = c'.sealMs := hseal.symm

end Seals

section Commits

theorem exists_calls_of_commitOf (h : Run (e :: t)) (hcommit : commitOf e = some id) :
    ∃ tid attemptId, Calls e t tid (.captureCommit id attemptId) () := by
  unfold commitOf at hcommit
  split at hcommit
  · rename_i tid id' attemptId hcall
    obtain rfl := Option.some.inj hcommit
    obtain ⟨reply, hcalls⟩ := exists_calls_of_callOf h hcall
    exact ⟨tid, attemptId, hcalls⟩
  · exact absurd hcommit (by simp)

/-- A committed checkpoint has its full image. -/
theorem exists_row_of_committed (h : Run t) (hcommit : Committed t id) :
    ∃ c, (stateOf t).checkpoint id = some c ∧ Imaged t c.captureAttempt := by
  obtain ⟨e, hmem, hcommit⟩ := hcommit
  obtain ⟨later, past, hsplit⟩ := List.append_of_mem hmem
  have hsuffix : e :: past <:+ t := ⟨later, hsplit.symm⟩
  have hrun := h.of_suffix hsuffix
  obtain ⟨tid, attemptId, hcalls⟩ := exists_calls_of_commitOf hrun hcommit
  obtain ⟨c, w, hok⟩ := Store.captureCommit_ok (StoreOp.of_map_ok hcalls.run)
  obtain ⟨c₁, hc₁, -⟩ := hok.committed
  have hrow : (stateOf (e :: past)).checkpoint id = some c₁ := hc₁
  obtain ⟨-, himaged, -⟩ := persisted_of_captureCommit hrun hcalls hrow
  obtain ⟨c₂, hc₂, hsame⟩ := sameImage_of_suffix h hsuffix hrow
  exact ⟨c₂, hc₂, hsame.captureAttempt ▸ himaged.mono h hsuffix⟩

/-- Of two commits one is later. -/
theorem exists_later_commit (hne : id ≠ id') (hcommit : Committed t id)
    (hcommit' : Committed t id') :
    ∃ e past, e :: past <:+ t ∧ (commitOf e = some id ∧ Committed past id' ∨
      commitOf e = some id' ∧ Committed past id) := by
  induction t with
  | nil =>
    obtain ⟨e, hmem, -⟩ := hcommit
    exact absurd hmem List.not_mem_nil
  | cons e past ih =>
    obtain ⟨e₁, hmem, hid⟩ := hcommit
    obtain ⟨e₂, hmem', hid'⟩ := hcommit'
    rcases List.mem_cons.mp hmem with rfl | hold
    · rcases List.mem_cons.mp hmem' with rfl | hold'
      · exact absurd (Option.some.inj (hid.symm.trans hid')) hne
      · exact ⟨_, past, List.suffix_refl _, .inl ⟨hid, e₂, hold', hid'⟩⟩
    · rcases List.mem_cons.mp hmem' with rfl | hold'
      · exact ⟨_, past, List.suffix_refl _, .inr ⟨hid', e₁, hold, hid⟩⟩
      · obtain ⟨e', past', hsuffix, hrest⟩ := ih ⟨e₁, hold, hid⟩ ⟨e₂, hold', hid'⟩
        exact ⟨e', past', hsuffix.trans (List.suffix_cons e past), hrest⟩

theorem AdmittedAfter.mono {c₀ c₀' : CheckpointObject} (h : AdmittedAfter t' c₀ c₀') (hrun : Run t)
    (hsuffix : t' <:+ t) (hid : c.checkpointId = c₀.checkpointId)
    (hattempt : c'.captureAttempt = c₀'.captureAttempt) : AdmittedAfter t c c' := by
  obtain ⟨listed, hlisted, a, ha, hackpt, havailable⟩ := h
  refine ⟨listed, ?_, a, ha, hackpt.trans hid.symm, havailable⟩
  rw [hattempt]
  exact listedFor_of_suffix hrun hsuffix hlisted

/-- The later commit was not overlooked. -/
theorem admittedAfter_of_commit {past : List (Event (fabric settings))} (h : Run t)
    (hsuffix : e :: past <:+ t) (hkept : ¬ Overlooks e past) (hcommit : commitOf e = some id)
    (hcommit' : Committed past id') (hne : id ≠ id') (hc : (stateOf t).checkpoint id = some c)
    (hc' : (stateOf t).checkpoint id' = some c') (howner : c.workloadId = c'.workloadId) :
    AdmittedAfter t c c' ∨ AdmittedAfter t c' c := by
  have hrun := h.of_suffix hsuffix
  have hpast := (List.suffix_cons e past).trans hsuffix
  obtain ⟨tid, attemptId, hcalls⟩ := exists_calls_of_commitOf hrun hcommit
  obtain ⟨c₀, w, hok⟩ := Store.captureCommit_ok (StoreOp.of_map_ok hcalls.run)
  have hc₀ : (stateOf past).checkpoint id = some c₀ := hok.found
  obtain ⟨c₀', hc₀', -⟩ := exists_row_of_committed hrun.tail hcommit'
  obtain ⟨c₁, hc₁, hsame⟩ := sameImage_of_suffix h hpast hc₀
  obtain rfl := Option.some.inj (hc₁.symm.trans hc)
  obtain ⟨c₁', hc₁', hsame'⟩ := sameImage_of_suffix h hpast hc₀'
  obtain rfl := Option.some.inj (hc₁'.symm.trans hc')
  have hid' := World.checkpointId_of_row hc₀'
  by_contra hnone
  rw [not_or] at hnone
  refine hkept ⟨id, hcommit, c₀, hc₀, c₀', Table.mem_of_get hc₀', ?_, ?_, hid' ▸ hcommit', ?_, ?_⟩
  · rw [hid']
    exact hne.symm
  · rw [← hsame.workloadId, ← hsame'.workloadId, howner]
  · exact fun hadmitted => hnone.1
      (hadmitted.mono h hpast hsame.checkpointId hsame'.captureAttempt)
  · exact fun hadmitted => hnone.2
      (hadmitted.mono h hpast hsame'.checkpointId hsame.captureAttempt)

end Commits

/-- **The interval between captures.** In every run in which no capture commits without a check
against every other committed one of the workload, the seals of any two of them keep the
interval. The clock that they are dated by is never set back. -/
theorem captures_spaced (h : Run t) (hsteps : EveryStep (fun e past => ¬ Overlooks e past) t) :
    Spaced t := by
  intro id id' c c' hne hc hc' hcommit hcommit' howner
  rcases Nat.eq_zero_or_pos settings.policy.minCaptureIntervalMs with hzero | hpolicy
  · rw [hzero]
    exact Nat.le_total _ _
  obtain ⟨c₁, hc₁, himaged⟩ := exists_row_of_committed h hcommit
  obtain rfl := Option.some.inj (hc₁.symm.trans hc)
  obtain ⟨c₁', hc₁', himaged'⟩ := exists_row_of_committed h hcommit'
  obtain rfl := Option.some.inj (hc₁'.symm.trans hc')
  have hadmitted : AdmittedAfter t c₁ c₁' ∨ AdmittedAfter t c₁' c₁ := by
    obtain ⟨e, past, hsuffix, ⟨hid, hpast⟩ | ⟨hid, hpast⟩⟩ :=
      exists_later_commit hne hcommit hcommit'
    · exact admittedAfter_of_commit h hsuffix (hsteps e past hsuffix) hid hpast hne hc hc' howner
    · exact (admittedAfter_of_commit h hsuffix (hsteps e past hsuffix) hid hpast hne.symm hc' hc
        howner.symm).symm
  rcases hadmitted with hadmitted | hadmitted
  · exact .inl (le_sealMs_of_admittedAfter h hpolicy hc hc' (sealedRow_of_imaged h hc' himaged')
      hadmitted)
  · exact .inr (le_sealMs_of_admittedAfter h hpolicy hc' hc (sealedRow_of_imaged h hc himaged)
      hadmitted)

/-- A second between captures. -/
def Demo.paced : Settings := { archive with policy := { minCaptureIntervalMs := 1000 } }

/-- A request is admitted as thread `tid` and runs alone, each operation with the plain input. -/
def Demo.paces (tid : ℕ) (request : Request) : List (Action (fabric Demo.paced)) :=
  .accept request :: List.replicate 50 (.advance tid ({} : Input))

/-- A node registers, and its workload is captured. -/
def Demo.firstCapture : List (Action (fabric Demo.paced)) :=
  .move (Move.adopt "n1" 1) ::
    Demo.paces 0 (.nodeRegister ⟨"n1", "addr", "boot", "/data", runtime, [], 1⟩) ++
    Demo.paces 1 (.workloadCreate spec (some "n1")) ++ Demo.paces 2 (.capture 7 {} operator)

/-- The workload is captured again after a second. -/
def Demo.capturedSpaced : List (Action (fabric Demo.paced)) :=
  Demo.firstCapture ++ [.move (Move.tick 1000)] ++ Demo.paces 3 (.capture 7 {} operator)

/-- The two captures keep the interval. -/
theorem captures_spaced_twice : ∃ t : List (Event (fabric Demo.paced)),
    Run t ∧ Committed t 2 ∧ Committed t 4 ∧ Spaced t := by
  obtain ⟨t, hrun, hcommit, hcommit', hsteps⟩ : ∃ t : List (Event (fabric Demo.paced)), Run t ∧
      Committed t 2 ∧ Committed t 4 ∧ EveryStep (fun e past => ¬ Overlooks e past) t :=
    ⟨_, exec_run Demo.capturedSpaced, by decide +kernel, by decide +kernel, by decide +kernel⟩
  exact ⟨t, hrun, hcommit, hcommit', captures_spaced hrun hsteps⟩

/-- The first checkpoint is restored, and the workload is captured again at once. -/
def Demo.capturedAgain : List (Action (fabric Demo.paced)) :=
  Demo.firstCapture ++ [.move (Move.tick 10)] ++ Demo.paces 3 (.restore 2 "n1" {} operator) ++
    Demo.paces 4 (.capture 7 {} operator)

/-- Both captures commit, ten milliseconds apart. -/
theorem captures_crowded :
    Run (exec Demo.capturedAgain).trace ∧ ¬ Spaced (exec Demo.capturedAgain).trace := by
  refine ⟨exec_run Demo.capturedAgain, fun hspaced => ?_⟩
  obtain ⟨c, hc, hseal⟩ := Option.map_eq_some_iff.mp (show
    ((stateOf (exec Demo.capturedAgain).trace).checkpoint 2).map
      (fun c => (c.sealMs, c.workloadId)) = some (0, 7) by decide +kernel)
  obtain ⟨c', hc', hseal'⟩ := Option.map_eq_some_iff.mp (show
    ((stateOf (exec Demo.capturedAgain).trace).checkpoint 6).map
      (fun c => (c.sealMs, c.workloadId)) = some (10, 7) by decide +kernel)
  obtain ⟨hms, howner⟩ := Prod.mk.inj hseal
  obtain ⟨hms', howner'⟩ := Prod.mk.inj hseal'
  have happart := hspaced 2 6 c c' (by decide) hc hc' (by decide +kernel) (by decide +kernel)
    (howner.trans howner'.symm)
  rw [hms, hms'] at happart
  exact absurd happart (by decide)

end CheckpointFabric
