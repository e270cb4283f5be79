import CheckpointFabric.Steps.Locations

/-!
# Corruption marks

A verification that fails marks its checkpoint CORRUPT, and no restore is admitted while the mark
is stored. But the integrity of a checkpoint is a column that every change of its lifecycle
writes as well. A restore that was admitted before the mark takes the checkpoint to
RESTORE_PENDING and PENDING, and the handler that cleans up after it back to AVAILABLE and VALID.

## Main definitions

* `MarkStands` — a verification has marked the checkpoint, and none has succeeded since
* `ClearsMark` — another operation writes the integrity of a checkpoint whose mark stands

## Main results

* `corruption_persists_iff` — marks persist just while no such operation happens
-/

set_option autoImplicit false

namespace CheckpointFabric

open Concurrency Coordinator Fabric System

variable {settings : Settings} {t : List (Event (fabric settings))}
  {e : Event (fabric settings)} {tid : ℕ} {id : Id} {c c' : CheckpointObject}

section Definitions

/-- The row of the checkpoint is marked CORRUPT. -/
def World.Corrupt (w : World) (id : Id) : Prop :=
  (w.checkpoint id).map (·.integrityState) = some .corrupt

instance (w : World) (id : Id) : Decidable (w.Corrupt id) := by
  unfold World.Corrupt
  infer_instance

/-- The checkpoint whose verification the event records, and what it says. -/
def verdictOf (e : Event (fabric settings)) (past : List (Event (fabric settings))) :
    Option (Id × IntegrityState) :=
  match callOf e with
  | some (tid, .checkpointSetIntegrity id state) =>
    match requestOf tid past with
    | some (.checkpointVerify id' _) => if id' = id then some (id, state) else none
    | _ => none
  | _ => none

/-- A verification has marked the checkpoint CORRUPT, and no verification of it has succeeded
since. -/
def MarkStands (id : Id) : List (Event (fabric settings)) → Prop
  | [] => False
  | e :: past =>
    verdictOf e past = some (id, .corrupt) ∨
      MarkStands id past ∧ verdictOf e past ≠ some (id, .valid)

instance decidableMarkStands (id : Id) :
    ∀ t : List (Event (fabric settings)), Decidable (MarkStands id t)
  | [] => isFalse not_false
  | e :: past =>
    have := decidableMarkStands id past
    inferInstanceAs (Decidable (verdictOf e past = some (id, .corrupt) ∨
      MarkStands id past ∧ verdictOf e past ≠ some (id, .valid)))

/-- The checkpoint that a call takes another integrity than CORRUPT to. -/
def StoreOp.clears : StoreOp → Option Id
  | checkpointSetLifecycle id _ integrity | checkpointSetIntegrity id integrity =>
    if integrity = .corrupt then none else some id
  | checkpointUpdate c => if c.integrityState = .corrupt then none else some c.checkpointId
  | captureCommit id _ | restoreCommit id _ _ _ _ _ => some id
  | _ => none

/-- Something else than a verification that succeeds writes the integrity of a checkpoint whose
mark stands. -/
def ClearsMark (e : Event (fabric settings)) (past : List (Event (fabric settings))) : Prop :=
  ∃ id ∈ (callOf e).bind (fun call => call.2.clears),
    MarkStands id past ∧ verdictOf e past ≠ some (id, .valid)

instance (e : Event (fabric settings)) (past : List (Event (fabric settings))) :
    Decidable (ClearsMark e past) := by
  unfold ClearsMark
  infer_instance

end Definitions

section Verification

/-- The integrity is written after the checkpoint was read. -/
def ReadFirst (id : Id) (ds : List FabricDeed) (op : Op) : Prop :=
  ∀ id' state, op = .db (.checkpointSetIntegrity id' state) →
    ∃ c : CheckpointObject, ⟨.db (.checkpointGet id), .ok (some c)⟩ ∈ ds

theorem obeys_verifyCheckpoint_read {ctx : OperationContext} {ds : List FabricDeed} :
    Obeys (ReadFirst id) (fun _ _ => True) ds (verifyCheckpoint settings id ctx) := by
  have herror : ∀ (ds : List FabricDeed) (e : FabricError), (fun _ _ => True :
      List FabricDeed → FabricResult NodeVerifyResult → Prop) ds (.error e) := fun _ _ => trivial
  unfold verifyCheckpoint
  refine obeys_ofExcept_bind herror fun _ _ => ?_
  refine Obeys.bind herror (obeys_requireCheckpoint (by rintro id' state ⟨⟩)) ?_
  rintro ds₁ ckpt rfl
  refine (Obeys.extend (Uses.of_true _) fun ds₂ op hsuffix _ => ?_).weaken fun _ _ _ => trivial
  intro id' state _
  exact ⟨ckpt, hsuffix.subset (.head _)⟩

/-- A verification has read the row that it writes the integrity of. -/
theorem exists_row_of_verdict {state : IntegrityState} (h : Run (e :: t))
    (hverdict : verdictOf e t = some (id, state)) :
    ∃ tid, Calls e t tid (.checkpointSetIntegrity id state) () ∧
      ((stateOf t).checkpoint id).isSome := by
  unfold verdictOf at hverdict
  split at hverdict
  · rename_i tid id' state' hcall
    split at hverdict
    · rename_i id₁ ctx hrequest
      split at hverdict
      · rename_i hid
        subst hid
        obtain ⟨rfl, rfl⟩ := Prod.mk.inj (Option.some.inj hverdict)
        obtain ⟨reply, hcalls⟩ := exists_calls_of_callOf h hcall
        refine ⟨tid, hcalls, ?_⟩
        have hserve (request : Request) :
            Obeys (fun ds op => ∀ id ctx, request = .checkpointVerify id ctx → ReadFirst id ds op)
              (fun _ _ => True) [] (request.serve settings) := by
          cases request with
          | checkpointVerify id ctx =>
            refine obeys_answer (obeys_verifyCheckpoint_read.mono ?_ fun _ _ h => h)
            rintro ds op hread _ _ ⟨⟩
            exact hread
          | _ => exact (obeys_serve _).mono (by rintro _ _ - _ _ ⟨⟩) fun _ _ h => h
        obtain ⟨input, rfl, -⟩ := hcalls
        obtain ⟨request, hrequest', hread⟩ := h.permitted hserve
        obtain rfl := Option.some.inj (hrequest.symm.trans hrequest')
        obtain ⟨c, hc⟩ := hread _ _ rfl _ _ rfl
        obtain ⟨t', hsuffix, -, row, hrow, -⟩ := checkpoint_of_read h.tail hc
        obtain ⟨c', hc', -⟩ := checkpoint_of_suffix h.tail hsuffix hrow
        exact Option.isSome_iff_exists.mpr ⟨c', hc'⟩
      · exact absurd hverdict (by simp)
    · exact absurd hverdict (by simp)
  · exact absurd hverdict (by simp)

/-- The mark of a verification is stored. -/
theorem corrupt_of_verdict (h : Run (e :: t)) (hverdict : verdictOf e t = some (id, .corrupt)) :
    (after e).Corrupt id := by
  obtain ⟨tid, hcalls, hrow⟩ := exists_row_of_verdict h hverdict
  obtain ⟨c, hc⟩ := Option.isSome_iff_exists.mp hrow
  have hstore := (StoreOp.snd_of_ok hcalls.run).symm
  dsimp only at hstore
  rw [World.Corrupt, World.checkpoint, hstore, Store.checkpointSetIntegrity,
    Store.get_updateCheckpoint, if_pos rfl]
  rw [World.checkpoint] at hc
  rw [hc]
  rfl

end Verification

section Marks

/-- What writes no other integrity leaves the mark. -/
theorem corrupt_step (h : Run (e :: t)) (hcorrupt : (stateOf t).Corrupt id)
    (hnot : id ∉ (callOf e).bind fun call => call.2.clears) : (after e).Corrupt id := by
  obtain ⟨c, hc, hstate⟩ := Option.map_eq_some_iff.mp hcorrupt
  rcases checkpoint_cases h id with ⟨tid, op, reply, -, hcalls, hstep⟩ | hsame
  · rw [hcalls.callOf_eq, Option.bind_some] at hnot
    rw [hc] at hstep
    unfold World.Corrupt
    generalize (after e).checkpoint id = row at hstep ⊢
    cases hstep with
    | kept => exact congrArg some hstate
    | @updated c' _ hid =>
      by_cases hc' : c'.integrityState = .corrupt
      · exact congrArg some hc'
      · exact absurd (by simp [StoreOp.clears, hc', hid]) hnot
    | @lifecycleSet _ lifecycle integrity =>
      by_cases hintegrity : integrity = .corrupt
      · exact congrArg some hintegrity
      · exact absurd (by simp [StoreOp.clears, hintegrity]) hnot
    | captured => exact absurd rfl hnot
    | relinked _ _ hlinks =>
      obtain ⟨supersedes, supersededBy, rfl⟩ := hlinks
      exact congrArg some hstate
    | restored => exact absurd rfl hnot
    | @integritySet _ integrity =>
      by_cases hintegrity : integrity = .corrupt
      · exact congrArg some hintegrity
      · exact absurd (by simp [StoreOp.clears, hintegrity]) hnot
    | «sealed» | protectionSet | retired | located | rebound => exact congrArg some hstate
  · rw [World.Corrupt, hsame]
    exact hcorrupt

/-- What writes another integrity takes the mark away. -/
theorem not_corrupt_of_clears (h : Run (e :: t))
    (hclears : id ∈ (callOf e).bind fun call => call.2.clears) : ¬ (after e).Corrupt id := by
  obtain ⟨⟨tid, op⟩, hcall, hop⟩ := Option.bind_eq_some_iff.mp hclears
  obtain ⟨reply, hcalls⟩ := exists_calls_of_callOf h hcall
  have hrun := hcalls.run
  rintro hcorrupt
  obtain ⟨c', hc', hstate⟩ := Option.map_eq_some_iff.mp hcorrupt
  rw [World.checkpoint] at hc'
  -- Each of these operations writes an integrity state of its own that is not CORRUPT.
  cases op with
  | checkpointSetLifecycle id' lifecycle integrity =>
    obtain ⟨-, hstore⟩ := Store.checkpointSetLifecycle_ok (StoreOp.of_map_ok hrun)
    simp only [StoreOp.clears, Option.ite_none_left_eq_some, Option.some.injEq] at hop
    obtain ⟨hintegrity, rfl⟩ := hop
    rw [hstore, Store.get_updateCheckpoint, if_pos rfl] at hc'
    obtain ⟨c, -, rfl⟩ := Option.map_eq_some_iff.mp hc'
    exact hintegrity hstate
  | checkpointSetIntegrity id' integrity =>
    have hstore := (StoreOp.snd_of_ok hrun).symm
    dsimp only at hstore
    simp only [StoreOp.clears, Option.ite_none_left_eq_some, Option.some.injEq] at hop
    obtain ⟨hintegrity, rfl⟩ := hop
    rw [hstore, Store.checkpointSetIntegrity, Store.get_updateCheckpoint, if_pos rfl] at hc'
    obtain ⟨c, -, rfl⟩ := Option.map_eq_some_iff.mp hc'
    exact hintegrity hstate
  | checkpointUpdate c =>
    obtain ⟨-, hstore⟩ := Store.checkpointUpdate_ok (StoreOp.of_map_ok hrun)
    simp only [StoreOp.clears, Option.ite_none_left_eq_some, Option.some.injEq] at hop
    obtain ⟨hintegrity, rfl⟩ := hop
    rw [hstore] at hc'
    dsimp only at hc'
    rw [Table.get_modify, if_pos rfl] at hc'
    obtain ⟨old, -, rfl⟩ := Option.map_eq_some_iff.mp hc'
    exact hintegrity hstate
  | captureCommit id' attemptId =>
    obtain rfl := Option.some.inj hop
    obtain ⟨c, w, hcommit⟩ := Store.captureCommit_ok (StoreOp.of_map_ok hrun)
    obtain ⟨c₁, hc₁, supersedes, supersededBy, rfl⟩ := hcommit.committed
    obtain rfl := Option.some.inj (hc₁.symm.trans hc')
    exact absurd hstate (by simp)
  | restoreCommit id' attemptId node token migration rollback =>
    obtain rfl := Option.some.inj hop
    obtain ⟨c, w, hcommit⟩ := Store.restoreCommit_ok (StoreOp.of_map_ok hrun)
    rw [hcommit.checkpoints, Table.get_modify, if_pos rfl] at hc'
    obtain ⟨c₁, -, rfl⟩ := Option.map_eq_some_iff.mp hc'
    exact absurd hstate (by simp)
  | _ => exact absurd hop (by simp [StoreOp.clears])

/-- A checkpoint that a verification has marked CORRUPT stays so until a later verification
succeeds, in every state of a run, just when nothing else writes the integrity of a checkpoint
whose mark stands. -/
theorem corruption_persists_iff (h : Run t) :
    (∀ t', t' <:+ t → ∀ id, MarkStands id t' → (stateOf t').Corrupt id) ↔
      EveryStep (fun e past => ¬ ClearsMark e past) t := by
  constructor
  · rintro hmarks e past hsuffix ⟨id, hclears, hstands, hverdict⟩
    exact not_corrupt_of_clears (h.of_suffix hsuffix) hclears
      (hmarks _ hsuffix id (.inr ⟨hstands, hverdict⟩))
  · intro hsteps t' hsuffix
    have hsteps' := hsteps.of_suffix hsuffix
    have hrun := h.of_suffix hsuffix
    clear hsteps hsuffix h
    induction t' with
    | nil => exact fun id hstands => absurd hstands not_false
    | cons e past ih =>
      obtain ⟨hnot, hpast⟩ := everyStep_cons.mp hsteps'
      rintro id (hverdict | ⟨hstands, hverdict⟩)
      · exact corrupt_of_verdict hrun hverdict
      · refine corrupt_step hrun (ih hpast hrun.tail id hstands) fun hclears => hnot ?_
        exact ⟨id, hclears, hstands, hverdict⟩

/-- A verification of the small fabric's checkpoint as thread `tid`, which the node fails. -/
def Demo.failedVerification (tid : ℕ) : List (Action (fabric Demo.settings)) :=
  [.accept (.checkpointVerify 2 Demo.operator)] ++ List.replicate 3 (.advance tid ({} : Input)) ++
    [.advance tid ({ delivery := .answered { failure := some "bad bytes" } } : Input)] ++
    List.replicate 2 (.advance tid ({} : Input))

/-- A restore is asked for after the mark. -/
def Demo.markedBefore : List (Action (fabric Demo.settings)) :=
  Demo.captured ++ Demo.failedVerification 3 ++ Demo.alone 4 (.restore 2 "n1" {} Demo.operator)

/-- The restore is refused, and the mark stays. -/
theorem corruption_persists_refused : ∃ t : List (Event (fabric Demo.settings)),
    Run t ∧ MarkStands 2 t ∧ (stateOf t).Corrupt 2 := by
  obtain ⟨t, hrun, hstands, hnone⟩ : ∃ t : List (Event (fabric Demo.settings)), Run t ∧
      MarkStands 2 t ∧ EveryStep (fun e past => ¬ ClearsMark e past) t :=
    ⟨_, exec_run Demo.markedBefore, by decide +kernel, by decide +kernel⟩
  have hpersists := (corruption_persists_iff hrun).mpr hnone
  exact ⟨t, hrun, hstands, hpersists t (List.suffix_refl t) 2 hstands⟩

/-- A restore is admitted and reserved; then a verification marks the checkpoint; then the restore
takes the checkpoint out of AVAILABLE. -/
def Demo.markedInFlight : List (Action (fabric Demo.settings)) :=
  Demo.captured ++ [.accept (.restore 2 "n1" {} Demo.operator)] ++
    List.replicate 8 (.advance 3 ({} : Input)) ++ Demo.failedVerification 4 ++
    List.replicate 2 (.advance 3 ({} : Input))

/-- The restore clears the mark. -/
theorem corruption_cleared :
    Run (exec Demo.markedInFlight).trace ∧ MarkStands 2 (exec Demo.markedInFlight).trace ∧
      ¬ (stateOf (exec Demo.markedInFlight).trace).Corrupt 2 :=
  ⟨exec_run Demo.markedInFlight, by decide +kernel, by decide +kernel⟩

end Marks

end CheckpointFabric
