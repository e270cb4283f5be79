import CheckpointFabric.Footprints.Stages
import CheckpointFabric.Steps.Journal

/-!
# The journal lists the stages in order

The recovery journal is append-only, and an entry is made once. So the entries of an attempt
are the stages it has come through, from the first one on and with none left out, whatever
fails, crashes or is recovered.

## Main definitions

* `Store.stages` — the stages that are journaled for an attempt, in the order of the journal

## Main results

* `stages_of_run` — a call journals at most one new stage of an attempt
* `journal_order` — the stages of an attempt are the first ones of its kind
-/

set_option autoImplicit false

namespace CheckpointFabric

open Concurrency Coordinator System

namespace Store

variable {s s' : Store} {kind kind' : JournalKind} {key key' : AttemptId}
  {state : JournalState}

/-- The stages that are journaled for an attempt, in the order of the journal. -/
def stages (s : Store) (kind : JournalKind) (key : AttemptId) : List JournalState :=
  (s.journal.filter fun e => e.kind == kind && e.key == key).map (·.state)

theorem mem_stages : state ∈ s.stages kind key ↔ s.Journaled kind key state := by
  simp [stages, Journaled, and_assoc]

theorem stages_congr (h : s'.journal = s.journal) : s'.stages kind key = s.stages kind key := by
  rw [stages, stages, h]

/-- An append adds a stage that is not there yet. -/
theorem stages_journalAppend {detail : String} {now : ℕ} :
    (s.journalAppend kind' key' state detail now).stages kind key =
      if kind' = kind ∧ key' = key ∧ state ∉ s.stages kind key then s.stages kind key ++ [state]
      else s.stages kind key := by
  unfold journalAppend
  rw [← journalHas]
  by_cases hhas : s.journalHas kind' key' state = true
  · rw [if_pos hhas, if_neg]
    rintro ⟨rfl, rfl, hnew⟩
    exact hnew (mem_stages.mpr (journalHas_eq_true_iff.mp hhas))
  · rw [if_neg hhas]
    by_cases hkey : kind' = kind ∧ key' = key
    · obtain ⟨rfl, rfl⟩ := hkey
      rw [if_pos ⟨rfl, rfl, fun h => hhas (journalHas_eq_true_iff.mpr (mem_stages.mp h))⟩]
      simp [stages]
    · rw [if_neg fun h => hkey ⟨h.1, h.2.1⟩]
      simp [stages, hkey]

/-- The metadata commit journals itself. -/
theorem stages_captureCommit {id : Id} {now : ℕ} (h : s.captureCommit id key' now = .ok s') :
    ∃ linked : Store, linked.journal = s.journal ∧
      s' = linked.journalAppend .capture key' .dbCommitted "metadata committed atomically" now := by
  unfold captureCommit at h
  split at h
  · simp at h
  rename_i c hc
  split at h
  · simp at h
  split at h
  · simp at h
  split at h
  · simp at h
  split at h
  · simp at h
  have hs' := Except.ok.inj h
  obtain ⟨checkpoints, hlinked⟩ := s.linkSupersession_eq id
    (s.previous c.workloadId c.checkpointGeneration) (s.next c.workloadId c.checkpointGeneration)
  rw [hlinked] at hs'
  obtain ⟨lineage, hlineage⟩ := ({ s with checkpoints } : Store).recordSupersession_eq
    c.workloadId id c.checkpointGeneration (s.previous c.workloadId c.checkpointGeneration) now
  rw [hlineage] at hs'
  refine ⟨_, ?_, hs'.symm⟩
  split <;> rfl

/-- The commit of a generation journals itself, and the transfer of a migration. -/
theorem stages_restoreCommit {id : Id} {node : NodeId} {token : FenceToken}
    {migration rollback : Bool} {now : ℕ}
    (h : s.restoreCommit id key' node token migration rollback now = .ok s') :
    ∃ moved : Store, moved.journal = s.journal ∧
      s' = (if migration then
        moved.journalAppend .migration key' .authorityTransferred
          "authority transferred atomically" now
      else moved).journalAppend .restore key' .generationCommitted
        "generation committed atomically" now := by
  unfold restoreCommit at h
  split at h
  · simp at h
  split at h
  · simp at h
  split at h
  · simp at h
  rename_i w hw
  dsimp only at h
  cases hbind : bindInteger [saturatingAdd w.workloadGeneration 1,
      saturatingAdd (saturatingAdd w.executionEpoch 1) migration.toNat] with
  | error e => simp [hbind, bind, Except.bind] at h
  | ok u =>
    simp only [hbind, bind, Except.bind, Except.ok.injEq] at h
    cases migration with
    | false =>
      refine ⟨_, ?_, h.symm⟩
      cases rollback <;> rfl
    | true =>
      refine ⟨_, ?_, h.symm⟩
      cases rollback <;> rfl

end Store

namespace StoreOp

/-- A call journals at most one new stage of an attempt, at the end. -/
theorem stages_of_run {op : StoreOp} {reply : op.Reply} {s s' : Store} {now : ℕ}
    (h : op.run now s = .ok (reply, s')) (kind : JournalKind) (key : AttemptId) :
    s'.stages kind key = s.stages kind key ∨
      ∃ state, op.Marks kind key state ∧ state ∉ s.stages kind key ∧
        s'.stages kind key = s.stages kind key ++ [state] := by
  have happend {moved : Store} {kind' : JournalKind} {key' : AttemptId} {state : JournalState}
      {detail : String} {now : ℕ} (hmoved : moved.stages kind key = s.stages kind key)
      (hmarks : kind' = kind → key' = key → op.Marks kind key state) :
      (moved.journalAppend kind' key' state detail now).stages kind key = s.stages kind key ∨
        ∃ new, op.Marks kind key new ∧ new ∉ s.stages kind key ∧
          (moved.journalAppend kind' key' state detail now).stages kind key =
            s.stages kind key ++ [new] := by
    rw [Store.stages_journalAppend, hmoved]
    split
    · rename_i hnew
      exact .inr ⟨state, hmarks hnew.1 hnew.2.1, hnew.2.2, rfl⟩
    · exact .inl rfl
  by_cases hwrites : op.writesJournal
  · cases op
    case journalAppend kind' key' state detail =>
      rw [← snd_of_ok h]
      exact happend rfl fun hkind hkey => ⟨hkind, hkey, rfl⟩
    case captureCommit id key' =>
      obtain ⟨linked, hlinked, rfl⟩ := Store.stages_captureCommit (of_map_ok h)
      exact happend (Store.stages_congr hlinked) fun hkind hkey => ⟨hkind, hkey, rfl⟩
    case restoreCommit id key' node token migration rollback =>
      obtain ⟨moved, hmoved, rfl⟩ := Store.stages_restoreCommit (of_map_ok h)
      cases migration with
      | false =>
        exact happend (Store.stages_congr hmoved) fun hkind hkey => .inl ⟨hkind, hkey, rfl⟩
      | true =>
        rw [if_pos rfl]
        -- The entries of a migration and of a restore belong to different kinds.
        by_cases hkind : kind = .restore
        · subst hkind
          refine happend ?_ fun hkind hkey => .inl ⟨hkind, hkey, rfl⟩
          rw [Store.stages_journalAppend, if_neg fun h => nomatch h.1]
          exact Store.stages_congr hmoved
        · rw [Store.stages_journalAppend, if_neg fun h => hkind h.1.symm]
          exact happend (Store.stages_congr hmoved) fun hkind hkey => .inr ⟨rfl, hkind, hkey, rfl⟩
    all_goals exact absurd hwrites not_false
  · exact .inl (Store.stages_congr ((frame_of_run h).journal hwrites))

end StoreOp

section Runs

variable {settings : Settings} {t : List (Event (fabric settings))}
  {e : Event (fabric settings)} {tid : ℕ} {kind : JournalKind} {key : AttemptId}
  {state : JournalState}

/-- A new stage continues the first ones when the stage before it is among them. -/
theorem prefix_append_stage {past : List JournalState} (h : past <+: kind.stages)
    (hstage : state ∈ kind.stages) (hnew : state ∉ past)
    (hprevious : ∀ previous ∈ state.previous, previous ∈ past) :
    past ++ [state] <+: kind.stages := by
  have hall : ∀ kind : JournalKind, ∀ past ∈ kind.stages.inits, ∀ state ∈ kind.stages,
      state ∉ past → (∀ previous ∈ state.previous, previous ∈ past) →
        past ++ [state] ∈ kind.stages.inits := by
    intro kind
    cases kind <;> decide
  exact (List.mem_inits _ _).mp
    (hall kind past ((List.mem_inits _ _).mpr h) state hstage hnew hprevious)

/-- A stage that the thread has journaled or found is journaled. -/
theorem journaled_of_shown (h : Run t) (hshown : Shown (deeds tid t) kind key state) :
    Journaled t kind key state := by
  rcases hshown with ⟨op, reply, hmarks, hmem⟩ | hlooked
  · obtain ⟨e, t', hsuffix, hcalls⟩ := exists_calls_of_mem h hmem
    refine journaled_of_suffix h hsuffix ?_
    rw [Journaled, stateOf_cons]
    exact (StoreOp.journaled_of_run hcalls.run).mpr (.inr hmarks)
  · exact journaled_of_looked h hlooked

/-- A call journals a stage only after the stage before it. -/
theorem previous_of_calls {op : StoreOp} {reply : op.Reply} (h : Run (e :: t))
    (hcalls : Calls e t tid op reply) (hmarks : op.Marks kind key state) :
    state ∈ kind.stages ∧ ∀ previous ∈ state.previous, Journaled t kind key previous := by
  have hrun := h
  obtain ⟨input, rfl, -⟩ := hcalls
  obtain ⟨request, -, hpermits⟩ := h.permitted fun request =>
    (obeys_serve_stages request : Obeys StagePermits _ [] (request.serve settings))
  obtain ⟨hstage, hprevious⟩ := hpermits kind key state hmarks
  exact ⟨hstage, fun previous hmem => journaled_of_shown hrun.tail (hprevious previous hmem)⟩

/-- The stages of an attempt are the first ones of its kind. -/
theorem journaled_stages (h : Run t) (kind : JournalKind) (key : AttemptId) :
    (stateOf t).store.stages kind key <+: kind.stages := by
  induction t with
  | nil => exact List.nil_prefix
  | cons e t ih =>
    rw [stateOf_cons]
    rcases calls_or_leavesTables h with ⟨tid, op, reply, -, hcalls⟩ | ⟨⟨workloads, hsame⟩, -⟩
    · rcases StoreOp.stages_of_run hcalls.run kind key with hsame | ⟨state, hmarks, hnew, happend⟩
      · rw [hsame]
        exact ih h.tail
      · obtain ⟨hstage, hprevious⟩ := previous_of_calls h hcalls hmarks
        rw [happend]
        exact prefix_append_stage (ih h.tail) hstage hnew fun previous hmem =>
          Store.mem_stages.mpr (hprevious previous hmem)
    · rw [hsame]
      exact ih h.tail

/-- What is journaled came after the stage before it. -/
theorem journaled_previous (h : Run t) (hj : Journaled t kind key state) :
    ∀ previous ∈ state.previous, Journaled t kind key previous := by
  have hall : ∀ kind : JournalKind, ∀ past ∈ kind.stages.inits, ∀ state ∈ past,
      ∀ previous ∈ state.previous, previous ∈ past := by
    intro kind
    cases kind <;> decide
  intro previous hmem
  exact Store.mem_stages.mp (hall kind _ ((List.mem_inits _ _).mpr (journaled_stages h kind key))
    state (Store.mem_stages.mpr hj) previous hmem)

theorem JournalKind.nodup_stages (kind : JournalKind) : kind.stages.Nodup := by
  cases kind <;> decide

/-- In every run, the stages journaled for an attempt are the first ones of its kind, each
once. -/
theorem journal_order (h : Run t) (key : AttemptId) :
    ((stateOf t).store.stages .capture key <+:
        [.reserved, .sealed, .persisted, .dbCommitted, .resumeDone] ∧
      ((stateOf t).store.stages .capture key).Nodup) ∧
    ((stateOf t).store.stages .restore key <+:
        [.reserved, .provisioned, .componentsRestored, .generationCommitted, .resumed] ∧
      ((stateOf t).store.stages .restore key).Nodup) :=
  have hnodup (kind : JournalKind) : ((stateOf t).store.stages kind key).Nodup :=
    kind.nodup_stages.sublist (journaled_stages h kind key).sublist
  ⟨⟨journaled_stages h .capture key, hnodup .capture⟩,
    ⟨journaled_stages h .restore key, hnodup .restore⟩⟩

/-- The capture of the small fabric comes through all stages. -/
theorem journal_order_captured :
    (∃ e ∈ (stateOf (exec Demo.captured).trace).store.journal,
      (stateOf (exec Demo.captured).trace).store.stages .capture e.key =
        [.reserved, .sealed, .persisted, .dbCommitted, .resumeDone]) ∧
    ∀ key, (stateOf (exec Demo.captured).trace).store.stages .capture key <+:
      [.reserved, .sealed, .persisted, .dbCommitted, .resumeDone] :=
  ⟨by decide +kernel, fun key => (journal_order (exec_run Demo.captured) key).1.1⟩

end Runs

end CheckpointFabric
