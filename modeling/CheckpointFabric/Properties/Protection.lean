import CheckpointFabric.Footprints.Images
import CheckpointFabric.Properties.Allocation
import CheckpointFabric.Properties.Marker

/-!
# The protection of a checkpoint

Whether a checkpoint is protected is stored twice, as its protection and as its eligibility for
retirement. Four operations write these columns: the row is inserted bare, its capture writes it in
full, a protection is set or taken away, and a retirement writes the eligibility alone.

## Main definitions

* `Write`, `writeOf` — the operations that write the columns, and those of an event
* `ColumnStep` — what they leave in the columns
* `Parted` — the last of them has left the columns apart
* `Overwritten` — the capture has written the row in full since a protection was set

## Main results

* `captureProtection_of_run` — every capture protects its checkpoint
* `eligibility_agrees_iff` — when the two columns say the same
* `protection_kept_iff` — when the protection that was set last is the one that is stored
-/

set_option autoImplicit false

namespace CheckpointFabric

open Concurrency Coordinator Fabric System

variable {settings : Settings} {t t' : List (Event (fabric settings))}
  {e : Event (fabric settings)} {tid : ℕ} {id workloadId : Id} {c c' : CheckpointObject}

section Marked

/-- The marker of a workload is one of the generations that were given to its checkpoints. -/
theorem marker_le_of_run (h : Run t) {r : Workload} (hr : (stateOf t).workload workloadId = some r) :
    r.checkpointGeneration ≤ ((stateOf t).generations workloadId).length := by
  induction t generalizing r with
  | nil => exact nomatch hr
  | cons e t ih =>
    rw [stateOf_cons] at hr
    have hgrows := (generations_prefix_of_suffix h (List.suffix_cons e t) workloadId).length_le
    have hrow : ∀ id c, (stateOf t).checkpoint id = some c → c.workloadId = workloadId →
        c.checkpointGeneration ≤ ((stateOf t).generations workloadId).length := by
      intro id c hc howner
      have hmem := List.mem_map_of_mem (f := Prod.snd)
        (World.mem_generations.mpr ⟨c, hc, howner, rfl⟩)
      rw [numbered_of_run h.tail workloadId, List.mem_range'_1] at hmem
      omega
    by_cases hcommits : ∃ g, Commits e t workloadId g
    · obtain ⟨g, hcommits⟩ := hcommits
      obtain ⟨tid, id, key, c, hcalls, hc, howner, hgeneration⟩ := id hcommits
      obtain ⟨c', owner, hcommit⟩ := Store.captureCommit_ok (StoreOp.of_map_ok hcalls.run)
      obtain rfl := Option.some.inj (hcommit.found.symm.trans hc)
      have howner' : (stateOf t).workload workloadId = some owner := howner ▸ hcommit.owner
      rw [marker_of_commits hcommits howner' hr]
      exact (max_le (ih h.tail howner') (hgeneration ▸ hrow id _ hc howner)).trans hgrows
    · by_cases hrestores : RestoresOf e t workloadId
      · obtain ⟨id, key, c, hrestored, hc, rfl⟩ := hrestores
        obtain ⟨r', hr', hgeneration⟩ := marker_of_restored hrestored hc
        obtain rfl := Option.some.inj (hr'.symm.trans hr)
        exact hgeneration.le.trans ((hrow id c hc rfl).trans hgrows)
      · rcases marker_of_not_commits h (fun g hg => hcommits ⟨g, hg⟩) hrestores hr with
          ⟨-, hzero⟩ | ⟨r', hr', hsame⟩
        · exact hzero.le.trans (Nat.zero_le _)
        · exact hsame.le.trans ((ih h.tail hr').trans hgrows)

/-- Every capture protects its checkpoint: it reads the marker before the latest generation, and
numbers its checkpoint after that. -/
theorem captureProtection_of_run {options : CaptureOptions} {run : CaptureRun} (h : Run t)
    (hadmitted : CaptureAdmitted workloadId options (deeds tid t) run) :
    captureProtection settings run = .protected_ := by
  obtain ⟨nonce, ds₀, hdrawn⟩ := hadmitted.drawn
  obtain ⟨latest, hgeneration, hdraws⟩ := hdrawn.draws
  obtain ⟨input, t₁, hsuffix, hdeeds, hreply⟩ :=
    exists_event_of_deed h ((List.suffix_cons _ _).trans hdraws)
  have hrun := h.of_suffix hsuffix
  have hread : (⟨.db (.workloadGet workloadId), .ok (some run.workload)⟩ : FabricDeed) ∈
      deeds tid t₁ := hdeeds ▸ .tail _ hdrawn.read_mem
  obtain ⟨t₀, hsuffix₀, -, hrow⟩ := workload_of_read hrun.tail hread
  have hmarker := marker_le_of_run (hrun.tail.of_suffix hsuffix₀) hrow
  have hgrows := (generations_prefix_of_suffix hrun.tail hsuffix₀ workloadId).length_le
  have hlatest : latest = ((stateOf t₁).generations workloadId).length := by
    have hcalls : Calls (.performed tid (.db (.checkpointMaxGeneration workloadId)) input
        (stateOf t₁)) t₁ tid (.checkpointMaxGeneration workloadId) latest :=
      ⟨input, rfl, hreply.symm⟩
    rw [← (numbered_of_run hrun.tail workloadId).checkpointMaxGeneration]
    exact (Prod.mk.inj (Except.ok.inj hcalls.run)).1.symm
  have hle : run.workload.checkpointGeneration + 1 - settings.policy.protectedGenerations ≤
      run.checkpointGeneration := by
    omega
  exact if_pos hle

end Marked

section Columns

/-- The operations that write the protection of a checkpoint, or its eligibility. -/
inductive Write
  | inserted
  | imaged
  | set (p : ProtectionState)
  | retired
  deriving DecidableEq

/-- What a call writes of the checkpoint. -/
def StoreOp.columnWrite (id : Id) : StoreOp → Option Write
  | checkpointInsert c => if c.checkpointId = id then some .inserted else none
  | checkpointUpdate c => if c.checkpointId = id then some .imaged else none
  | checkpointSetProtection id' p => if id' = id then some (.set p) else none
  | checkpointRetire id' => if id' = id then some .retired else none
  | _ => none

/-- What the event writes of the checkpoint. -/
def writeOf (id : Id) (e : Event (fabric settings)) : Option Write :=
  (callOf e).bind fun call => call.2.columnWrite id

/-- What an event that leaves the row `c'` of checkpoint `id` has written of it. -/
inductive ColumnStep (w : World) (id : Id) : Option Write → CheckpointObject → Prop
  | inserted {c' : CheckpointObject} : w.checkpoint id = none → c'.protection = .none →
    c'.retirementEligibility = .notEligible → ColumnStep w id (some .inserted) c'
  | imaged {c c' : CheckpointObject} : w.checkpoint id = some c → c'.protection = .protected_ →
    c'.retirementEligibility = .protected_ → ColumnStep w id (some .imaged) c'
  | set {c c' : CheckpointObject} {p : ProtectionState} : w.checkpoint id = some c →
    c'.protection = p → c'.retirementEligibility = .protected_ → ColumnStep w id (some (.set p)) c'
  | retired {c c' : CheckpointObject} : w.checkpoint id = some c → c.lifecycle = .available →
    c'.protection = c.protection → c'.retirementEligibility = .notEligible →
    ColumnStep w id (some .retired) c'
  | kept {c c' : CheckpointObject} : w.checkpoint id = some c → c'.protection = c.protection →
    c'.retirementEligibility = c.retirementEligibility → ColumnStep w id none c'

/-- The full image of a capture is protected, in both columns. -/
theorem columns_of_update (h : Run (e :: t)) (hcalls : Calls e t tid (.checkpointUpdate c) ()) :
    c.protection = .protected_ ∧ c.retirementEligibility = .protected_ := by
  obtain ⟨input, rfl, -⟩ := hcalls
  obtain ⟨request, -, workloadId, run, imaged, path, hsealed, rfl⟩ := imagePermits_of_run h
  obtain ⟨answered, sealMs, digest, text, older, holder, hchecked, ⟨epoch, created, result, rfl, -⟩,
    rfl⟩ := hsealed
  have hprotection := captureProtection_of_run h.tail
    (hchecked.admitted.mono ((List.suffix_cons _ older).trans holder))
  exact ⟨hprotection, by simp [persistedCheckpoint, answeredCheckpoint, hprotection]⟩

/-- An event that writes none of the columns leaves them. -/
theorem columnStep_of_writeOf_none (h : Run (e :: t)) (hwrite : writeOf id e = none)
    (hc' : (after e).checkpoint id = some c') : ColumnStep (stateOf t) id none c' := by
  rcases checkpoint_cases h id with ⟨tid, op, reply, hop, hcalls, hstep⟩ | hsame
  · rw [writeOf, hcalls.callOf_eq, Option.bind_some] at hwrite
    rw [hc'] at hstep
    generalize hrow : (stateOf t).checkpoint id = row at hstep
    cases hstep with
    | inserted hid | updated hid => simp [StoreOp.columnWrite, hid] at hwrite
    | protectionSet | retired => simp [StoreOp.columnWrite] at hwrite
    | captured _ hlinks | relinked _ _ hlinks =>
      obtain ⟨supersedes, supersededBy, rfl⟩ := hlinks
      exact .kept hrow rfl rfl
    | _ => exact .kept hrow rfl rfl
  · exact .kept (hsame.symm.trans hc') rfl rfl

/-- What an event writes of a checkpoint is found in its row. -/
theorem columnStep_of_run (h : Run (e :: t)) (hc' : (after e).checkpoint id = some c') :
    ColumnStep (stateOf t) id (writeOf id e) c' := by
  cases hwrite : writeOf id e with
  | none => exact columnStep_of_writeOf_none h hwrite hc'
  | some write =>
    obtain ⟨⟨tid, op⟩, hcall, hop⟩ := Option.bind_eq_some_iff.mp hwrite
    obtain ⟨reply, hcalls⟩ := exists_calls_of_callOf h hcall
    have hrun := hcalls.run
    rw [World.checkpoint] at hc'
    -- Four operations write the two columns; the row itself shows what they wrote.
    cases op with
    | checkpointInsert c =>
      obtain ⟨rfl, rfl⟩ : c.checkpointId = id ∧ .inserted = write := by
        simpa [StoreOp.columnWrite] using hop
      obtain ⟨-, hnew, hstore⟩ := Store.checkpointInsert_ok (StoreOp.of_map_ok hrun)
      rw [hstore, Table.get_insert, if_pos rfl] at hc'
      obtain rfl := Option.some.inj hc'
      obtain ⟨input, rfl, -⟩ := hcalls
      obtain ⟨request, -, workloadId, run, epoch, created, -, rfl⟩ := imagePermits_of_run h
      exact .inserted hnew rfl rfl
    | checkpointUpdate c =>
      obtain ⟨rfl, rfl⟩ : c.checkpointId = id ∧ .imaged = write := by
        simpa [StoreOp.columnWrite] using hop
      obtain ⟨-, hstore⟩ := Store.checkpointUpdate_ok (StoreOp.of_map_ok hrun)
      rw [hstore] at hc'
      dsimp only at hc'
      rw [Table.get_modify, if_pos rfl] at hc'
      obtain ⟨old, hold, rfl⟩ := Option.map_eq_some_iff.mp hc'
      obtain ⟨hprotection, heligibility⟩ := columns_of_update h hcalls
      exact .imaged hold hprotection heligibility
    | checkpointSetProtection id' p =>
      obtain ⟨rfl, rfl⟩ : id' = id ∧ .set p = write := by
        simpa [StoreOp.columnWrite] using hop
      have hstore := (StoreOp.snd_of_ok hrun).symm
      dsimp only at hstore
      rw [hstore, Store.checkpointSetProtection, Store.get_updateCheckpoint, if_pos rfl] at hc'
      obtain ⟨c, hc, rfl⟩ := Option.map_eq_some_iff.mp hc'
      exact .set hc rfl rfl
    | checkpointRetire id' =>
      obtain ⟨rfl, rfl⟩ : id' = id ∧ .retired = write := by
        simpa [StoreOp.columnWrite] using hop
      obtain ⟨c, hc, -, havailable, hstore⟩ := Store.checkpointRetire_ok (StoreOp.of_map_ok hrun)
      rw [hstore, Store.get_updateCheckpoint, if_pos rfl, hc] at hc'
      obtain rfl := Option.some.inj hc'
      exact .retired hc havailable rfl rfl
    | _ => cases hop

end Columns

section Agreement

/-- The eligibility is PROTECTED iff the checkpoint is protected or pinned. -/
def CheckpointObject.EligibilityAgrees (c : CheckpointObject) : Prop :=
  c.retirementEligibility = .protected_ ↔ c.protection = .protected_ ∨ c.protection = .pinned

theorem CheckpointObject.eligibilityAgrees_iff :
    c.EligibilityAgrees ↔ (c.retirementEligibility = .protected_ ↔ c.protection ≠ .none) := by
  unfold EligibilityAgrees
  cases c.protection <;> simp

/-- The last write of the columns has left them apart: it has taken a protection away, or retired a
checkpoint that was protected. -/
def Parted (id : Id) : List (Event (fabric settings)) → Prop
  | [] => False
  | e :: past =>
    match writeOf id e with
    | some (.set p) => p = .none
    | some .retired => ((stateOf past).checkpoint id).map (·.protection) ≠ some .none
    | some .inserted | some .imaged => False
    | none => Parted id past

instance decidableParted (id : Id) :
    ∀ t : List (Event (fabric settings)), Decidable (Parted id t)
  | [] => isFalse not_false
  | e :: past =>
    have := decidableParted id past
    match hwrite : writeOf id e with
    | some (.set p) => decidable_of_iff (p = .none) (by rw [Parted, hwrite])
    | some .retired =>
      decidable_of_iff (((stateOf past).checkpoint id).map (·.protection) ≠ some .none)
        (by rw [Parted, hwrite])
    | some .inserted | some .imaged => isFalse (by rw [Parted, hwrite]; exact not_false)
    | none => decidable_of_iff (Parted id past) (by rw [Parted, hwrite])

/-- In every state of every run, the two columns of a checkpoint agree unless the last write has
left them apart. -/
theorem eligibilityAgrees_iff_of_run (h : Run t) (hc : (stateOf t).checkpoint id = some c) :
    c.EligibilityAgrees ↔ ¬ Parted id t := by
  induction t generalizing c with
  | nil => exact nomatch hc
  | cons e t ih =>
    rw [CheckpointObject.eligibilityAgrees_iff, Parted]
    have hstep := columnStep_of_run h hc
    generalize writeOf id e = write at hstep ⊢
    cases hstep with
    | inserted _ hprotection heligibility => simp [hprotection, heligibility]
    | imaged _ hprotection heligibility => simp [hprotection, heligibility]
    | set _ hprotection heligibility => simp [hprotection, heligibility]
    | retired hold _ hprotection heligibility => simp [hold, hprotection, heligibility]
    | kept hold hprotection heligibility =>
      have hrest := ih h.tail hold
      rw [CheckpointObject.eligibilityAgrees_iff] at hrest
      rwa [hprotection, heligibility]

/-- In every state of every run: the columns of all AVAILABLE checkpoints agree, iff no AVAILABLE
checkpoint is one whose protection was taken away since they were last written otherwise, or that
was retired while it was protected. -/
theorem eligibility_agrees_iff (h : Run t) :
    (∀ id c, (stateOf t).checkpoint id = some c → c.lifecycle = .available →
      c.EligibilityAgrees) ↔
    ∀ id c, (stateOf t).checkpoint id = some c → c.lifecycle = .available → ¬ Parted id t := by
  constructor
  · exact fun hall id c hc havailable =>
      (eligibilityAgrees_iff_of_run h hc).mp (hall id c hc havailable)
  · exact fun hall id c hc havailable =>
      (eligibilityAgrees_iff_of_run h hc).mpr (hall id c hc havailable)

/-- The checkpoint of the small fabric is pinned. -/
def Demo.pinnedAfter : List (Action (fabric Demo.settings)) :=
  Demo.captured ++ Demo.alone 3 (.checkpointProtect 2 true)

/-- It is recorded as PROTECTED. -/
theorem eligibility_agrees_pinned :
    ∃ c, (stateOf (exec Demo.pinnedAfter).trace).checkpoint 2 = some c ∧
      c.protection = .pinned ∧ c.EligibilityAgrees := by
  obtain ⟨c, hc, hstate⟩ : ∃ c, (stateOf (exec Demo.pinnedAfter).trace).checkpoint 2 = some c ∧
      (c.lifecycle, c.protection) = (.available, .pinned) :=
    Option.map_eq_some_iff.mp (by decide +kernel)
  obtain ⟨havailable, hpinned⟩ := Prod.mk.inj hstate
  have hrows : ∀ c ∈ (stateOf (exec Demo.pinnedAfter).trace).store.checkpoints.rows,
      ¬ Parted c.checkpointId (exec Demo.pinnedAfter).trace := by
    decide +kernel
  have hagrees := (eligibility_agrees_iff (exec_run Demo.pinnedAfter)).mpr fun id c hc _ =>
    World.checkpointId_of_row hc ▸ hrows c (Table.mem_of_get hc)
  exact ⟨c, hc, hpinned, hagrees 2 c hc havailable⟩

/-- Its protection is taken away instead. -/
def Demo.unprotectedAfter : List (Action (fabric Demo.settings)) :=
  Demo.captured ++ Demo.alone 3 (.checkpointUnprotect 2)

/-- It is recorded as PROTECTED all the same. -/
theorem unprotected_recorded_protected :
    Run (exec Demo.unprotectedAfter).trace ∧
      ∃ c, (stateOf (exec Demo.unprotectedAfter).trace).checkpoint 2 = some c ∧
        c.lifecycle = .available ∧ ¬ c.EligibilityAgrees := by
  obtain ⟨c, hc, hstate⟩ : ∃ c, (stateOf (exec Demo.unprotectedAfter).trace).checkpoint 2 = some c ∧
      (c.lifecycle, c.protection, c.retirementEligibility) = (.available, .none, .protected_) :=
    Option.map_eq_some_iff.mp (by decide +kernel)
  obtain ⟨havailable, hstate⟩ := Prod.mk.inj hstate
  obtain ⟨hprotection, heligibility⟩ := Prod.mk.inj hstate
  refine ⟨exec_run _, c, hc, havailable, fun hagrees => ?_⟩
  have hprotected := hagrees.mp heligibility
  rw [hprotection] at hprotected
  exact absurd hprotected (by decide)

end Agreement

section Concurrent

/-- The protection that was set last since the row was inserted. -/
def lastSet (id : Id) : List (Event (fabric settings)) → Option ProtectionState
  | [] => none
  | e :: past =>
    match writeOf id e with
    | some (.set p) => some p
    | some .inserted => none
    | some .imaged | some .retired | none => lastSet id past

/-- The capture has written the row in full since then. -/
def Overwritten (id : Id) : List (Event (fabric settings)) → Prop
  | [] => False
  | e :: past =>
    match writeOf id e with
    | some .imaged => True
    | some (.set _) | some .inserted => False
    | some .retired | none => Overwritten id past

instance decidableOverwritten (id : Id) :
    ∀ t : List (Event (fabric settings)), Decidable (Overwritten id t)
  | [] => isFalse not_false
  | e :: past =>
    have := decidableOverwritten id past
    match hwrite : writeOf id e with
    | some .imaged => isTrue (by rw [Overwritten, hwrite]; trivial)
    | some (.set p) => isFalse (by rw [Overwritten, hwrite]; exact not_false)
    | some .inserted => isFalse (by rw [Overwritten, hwrite]; exact not_false)
    | some .retired | none => decidable_of_iff (Overwritten id past) (by rw [Overwritten, hwrite])

/-- In every state of every run, whatever protects, unprotects, pins and captures the checkpoint
meanwhile: the protection that was set last is the one that is stored, iff the capture has not
written the row in full since, or it was the protection that every capture writes. -/
theorem protection_kept_iff {p : ProtectionState} (h : Run t)
    (hc : (stateOf t).checkpoint id = some c) (hlast : lastSet id t = some p) :
    c.protection = p ↔ ¬ Overwritten id t ∨ p = .protected_ := by
  induction t generalizing c with
  | nil => cases hlast
  | cons e t ih =>
    rw [lastSet] at hlast
    rw [Overwritten]
    have hstep := columnStep_of_run h hc
    generalize writeOf id e = write at hstep hlast ⊢
    -- The last set is the newest write of the column unless an image was written after it.
    cases hstep with
    | inserted => cases hlast
    | imaged _ hprotection =>
      rw [hprotection]
      simp [eq_comm]
    | set _ hprotection =>
      obtain rfl := Option.some.inj hlast
      exact iff_of_true hprotection (.inl not_false)
    | retired hold _ hprotection =>
      rw [hprotection]
      exact ih h.tail hold hlast
    | kept hold hprotection =>
      rw [hprotection]
      exact ih h.tail hold hlast

/-- A capture has come so far. -/
def Demo.capturing (n : ℕ) : List (Action (fabric Demo.settings)) :=
  Demo.created ++ [.accept (.capture 7 {} Demo.operator)] ++
    List.replicate n (.advance 2 ({} : Input))

/-- Then its checkpoint is pinned, and the capture goes on. -/
def Demo.pinnedDuring (n : ℕ) : List (Action (fabric Demo.settings)) :=
  Demo.capturing n ++ Demo.alone 3 (.checkpointProtect 2 true) ++
    List.replicate 50 (.advance 2 ({} : Input))

/-- When the capture has written its row in full, and is still PERSISTING it, the pin is kept. -/
theorem protection_kept_pinned :
    ((stateOf (exec (Demo.capturing 35)).trace).checkpoint 2).map (·.lifecycle) =
      some .persisting ∧
    ∃ c, (stateOf (exec (Demo.pinnedDuring 35)).trace).checkpoint 2 = some c ∧
      c.lifecycle = .available ∧ c.protection = .pinned := by
  obtain ⟨c, hc, havailable⟩ : ∃ c, (stateOf (exec (Demo.pinnedDuring 35)).trace).checkpoint 2 =
      some c ∧ c.lifecycle = .available :=
    Option.map_eq_some_iff.mp (by decide +kernel)
  have hlast : lastSet 2 (exec (Demo.pinnedDuring 35)).trace = some .pinned := by decide +kernel
  have hkept : ¬ Overwritten 2 (exec (Demo.pinnedDuring 35)).trace := by decide +kernel
  refine ⟨by decide +kernel, c, hc, havailable, ?_⟩
  exact (protection_kept_iff (exec_run _) hc hlast).mpr (.inl hkept)

/-- When its row was inserted, and is not written in full, the checkpoint is no longer pinned in the
end. -/
theorem pin_lost : Run (exec (Demo.pinnedDuring 15)).trace ∧
    lastSet 2 (exec (Demo.pinnedDuring 15)).trace = some .pinned ∧
    ∃ c, (stateOf (exec (Demo.pinnedDuring 15)).trace).checkpoint 2 = some c ∧
      c.lifecycle = .available ∧ c.protection = .protected_ := by
  obtain ⟨c, hc, hstate⟩ :
      ∃ c, (stateOf (exec (Demo.pinnedDuring 15)).trace).checkpoint 2 = some c ∧
        (c.lifecycle, c.protection) = (.available, .protected_) :=
    Option.map_eq_some_iff.mp (by decide +kernel)
  obtain ⟨havailable, hprotected⟩ := Prod.mk.inj hstate
  exact ⟨exec_run _, by decide +kernel, c, hc, havailable, hprotected⟩

end Concurrent

end CheckpointFabric
