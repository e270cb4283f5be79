import CheckpointFabric.Coordinator.Recovery
import CheckpointFabric.Footprints.Rollback

/-!
# The footprint of recovery

Recovery lists the ACTIVE attempts and decides each from its journal. Whatever it
writes or sends is about a listed attempt, and is backed by what it read.

## Main definitions

* `Listed` — an attempt of the list that recovery works on
* `RecoveryPermits` — the operations of recovery, with the reads that back them

## Main results

* `obeys_runRecovery` — recovery performs these operations only
-/

set_option autoImplicit false

namespace CheckpointFabric.Coordinator

open Concurrency Fabric

/-- Recovery has listed the attempt as ACTIVE. -/
def Listed (ds : List FabricDeed) (a : AttemptRecord) : Prop :=
  ∃ attempts : List AttemptRecord,
    ⟨.db (.attemptsInState .active), .ok attempts⟩ ∈ ds ∧ a ∈ attempts

/-- The newest read of the row of a checkpoint showed one of these lifecycle states. -/
def ReadIn (ds : List FabricDeed) (id : Id) (states : LifecycleState → Prop) : Prop :=
  ∃ l, lastSeen id ds = some l ∧ states l

theorem ReadIn.exists_mem {ds : List FabricDeed} {id : Id} {states : LifecycleState → Prop}
    (h : ReadIn ds id states) : ∃ c : CheckpointObject,
      ⟨.db (.checkpointGet id), .ok (some c)⟩ ∈ ds ∧ states c.lifecycle := by
  obtain ⟨l, hseen, hstates⟩ := h
  obtain ⟨c, hmem, rfl⟩ := exists_mem_of_lastSeen hseen
  exact ⟨c, hmem, hstates⟩

theorem ReadIn.of_lastSeen {ds : List FabricDeed} {id : Id} {states : LifecycleState → Prop}
    {l : LifecycleState} (h : ReadIn ds id states) (hseen : lastSeen id ds = some l) :
    states l := by
  obtain ⟨l', hseen', hstates⟩ := h
  exact Option.some.inj (hseen'.symm.trans hseen) ▸ hstates

/-- The entry was looked up and not found, and none of the deeds since is one of `bad`. -/
def MissingSince (ds : List FabricDeed) (kind : JournalKind) (key : AttemptId)
    (state : JournalState) (bad : FabricDeed → Prop) : Prop :=
  ∃ recent older, ds = recent ++ ⟨.db (.journalHas kind key state), .ok false⟩ :: older ∧
    ∀ d ∈ recent, ¬ bad d

/-- A successful metadata commit of an attempt. -/
def CommitsCapture (key : AttemptId) (d : FabricDeed) : Prop :=
  ∃ id : Id, d = ⟨.db (.captureCommit id key), .ok ()⟩

/-- The evidence for the recorded outcome of a listed attempt. -/
inductive Verdict (ds : List FabricDeed) (a : AttemptRecord) : AttemptState → Prop
  | captured : a.kind = .capture →
    (Looked ds .capture a.id .dbCommitted true ∨ ∃ d ∈ ds, CommitsCapture a.id d) →
    Verdict ds a .committed
  | notCaptured : a.kind = .capture →
    MissingSince ds .capture a.id .dbCommitted (CommitsCapture a.id) → Verdict ds a .failed
  | restored : a.kind ≠ .capture → Looked ds .restore a.id .generationCommitted true →
    Verdict ds a .committed
  | notRestored : a.kind ≠ .capture → Looked ds .restore a.id .generationCommitted false →
    Verdict ds a .failed

/-- The calls of the store that recovery makes to write, with the reads behind them. -/
def RecoveryWrites (ds : List FabricDeed) : StoreOp → Prop
  | .reservationsExpire _ | .nodesSweepStale _ => True
  | .nodeSetStatus n status =>
    status = .stale ∧ ∃ (before : ℕ) (names : List NodeId),
      ⟨.db (.nodesSweepStale before), .ok names⟩ ∈ ds ∧ n ∈ names
  | .captureCommit id key =>
    ∃ a, Listed ds a ∧ a.kind = .capture ∧ a.id = key ∧ a.checkpointId = some id ∧
      Looked ds .capture key .persisted true ∧ Looked ds .capture key .dbCommitted false
  | .checkpointSetLifecycle id lifecycle integrity =>
    (lifecycle = .available ∧ integrity = .valid ∧
      ReadIn ds id (fun l => l = .restorePending ∨ l = .restoring) ∧
      ∃ a, Listed ds a ∧ a.kind ≠ .capture ∧ a.checkpointId = some id ∧
        Looked ds .restore a.id .componentsRestored true ∧
        Looked ds .restore a.id .generationCommitted false) ∨
    (lifecycle = .failed ∧ integrity = .corrupt ∧
      ReadIn ds id (fun l => l = .persisting ∨ l = .available) ∧
      ∃ a, Listed ds a ∧ a.kind = .capture ∧ a.checkpointId = some id ∧
        ∃ e, ⟨.db (.captureCommit id a.id), .error e⟩ ∈ ds)
  | .attemptFinish key state _ _ => ∃ a, Listed ds a ∧ a.id = key ∧ Verdict ds a state
  | .reservationRelease key => ∃ a, Listed ds a ∧ a.id = key
  | _ => False

/-- Recovery has tried to commit the metadata of a listed capture, in vain, and has closed the attempt
as FAILED. -/
def CommitRefused (ds : List FabricDeed) (key : AttemptId) : Prop :=
  ∃ a id e, Listed ds a ∧ a.kind = .capture ∧ a.id = key ∧ a.checkpointId = some id ∧
    ⟨.db (.captureCommit id key), .error e⟩ ∈ ds ∧
    ∃ result error, ⟨.db (.attemptFinish key .failed result error), .ok ()⟩ ∈ ds

/-- The row of the attempt was read. -/
def ReadAttempt (ds : List FabricDeed) (key : AttemptId) (a : AttemptRecord) : Prop :=
  ⟨.db (.attemptGet key), .ok (some a)⟩ ∈ ds

/-- The messages without authority that recovery sends, with the reads behind them. -/
def PlainSends (ds : List FabricDeed) (node : NodeId) : NodeRequest → Prop
  | .resume req => ∃ a, ReadAttempt ds req.attemptId a ∧ node = a.node ∧
    req.fenceToken = none ∧ req.executionEpoch = none
  | .cleanup req => ∃ key a, ReadAttempt ds key a ∧ node = a.node ∧
    req.stagingAttempts = [key] ∧
      (req.checkpointIds = [] ∨ req.checkpointIds = a.checkpointId.toList ∧ CommitRefused ds key)
  | _ => False

/-- The grants that recovery sends: to the node of a committed restore attempt, with the authority
in the workload row that was read last. -/
def RecoveryGrants (ds : List FabricDeed) (node : NodeId) : NodeRequest → Prop
  | .resume req => ∃ a w older, ReadAttempt ds req.attemptId a ∧ node = a.node ∧
    a.workloadId = some req.workloadId ∧ LastRead ds req.workloadId w older ∧
    Looked older .restore req.attemptId .generationCommitted true ∧
    req.fenceToken = w.fenceToken ∧ req.executionEpoch = some w.executionEpoch
  | _ => False

/-- The messages that recovery sends. -/
def RecoverySends (ds : List FabricDeed) (node : NodeId) (request : NodeRequest) : Prop :=
  PlainSends ds node request ∨ RecoveryGrants ds node request

/-- What recovery may do after the deeds `ds`. -/
def RecoveryPermits (ds : List FabricDeed) : Op → Prop
  | .db op => op.Reads ∨ RecoveryWrites ds op
  | .claim _ _ _ => False
  | .call node request => RecoverySends ds node request
  | .now | .epoch | .random | .fire _ => True

/-- What an action tells about the deeds that led to it. -/
structure Backed (ds : List FabricDeed) (action : RecoveryAction) : Prop where
  refused : action.kind = .capture → action.state = .failedCleanup → CommitRefused ds action.key
  committed : action.kind = .restore → action.state = .resumeUnverified →
    Looked ds .restore action.key .generationCommitted true

section Mono

variable {ds ds' : List FabricDeed} (h : ds <:+ ds')
include h

theorem Listed.mono {a : AttemptRecord} (hlisted : Listed ds a) : Listed ds' a := by
  obtain ⟨attempts, hmem, ha⟩ := hlisted
  exact ⟨attempts, h.subset hmem, ha⟩

theorem CommitRefused.mono {key : AttemptId} (hrefused : CommitRefused ds key) :
    CommitRefused ds' key := by
  obtain ⟨a, id, e, hlisted, hkind, hid, hckpt, hmem, result, error, hclosed⟩ := hrefused
  exact ⟨a, id, e, hlisted.mono h, hkind, hid, hckpt, h.subset hmem, result, error,
    h.subset hclosed⟩

theorem Backed.mono {action : RecoveryAction} (hbacked : Backed ds action) : Backed ds' action where
  refused hkind hstate := (hbacked.refused hkind hstate).mono h
  committed hkind hstate := h.subset (hbacked.committed hkind hstate)

end Mono

theorem recoveryPermits_of_reads {ds : List FabricDeed} {op : Op} (h : op.Reads) :
    RecoveryPermits ds op := by
  cases op with
  | db op => exact .inl h
  | claim => exact absurd h not_false
  | call => exact absurd h not_false
  | _ => trivial

section Reconcile

variable {ds : List FabricDeed} {a : AttemptRecord}

/-- After reads or failures only, the entry is still missing. -/
theorem MissingSince.cons {kind : JournalKind} {key : AttemptId} {state : JournalState}
    {bad : FabricDeed → Prop} {d : FabricDeed} (h : MissingSince ds kind key state bad)
    (hd : ¬ bad d) : MissingSince (d :: ds) kind key state bad := by
  obtain ⟨recent, older, rfl, hrecent⟩ := h
  refine ⟨d :: recent, older, rfl, fun d' hd' => ?_⟩
  rcases List.mem_cons.mp hd' with rfl | hd'
  · exact hd
  · exact hrecent d' hd'

/-- Closing an attempt for which there is evidence. -/
theorem obeys_closeAttempt {state : AttemptState} {result error : Option String}
    (hlisted : Listed ds a) (hverdict : Verdict ds a state) :
    Obeys RecoveryPermits
      (fun ds' r => ds <:+ ds' ∧ ∀ u, r = .ok u →
        ⟨.db (.attemptFinish a.id state result error), .ok ()⟩ ∈ ds')
      ds (closeAttempt a.id state result error) := by
  refine ⟨.inr ⟨a, hlisted, rfl, hverdict⟩, fun reply => ?_⟩
  cases reply with
  | error e => exact ⟨List.suffix_cons _ _, fun _ h => nomatch h⟩
  | ok u =>
    exact ⟨.inr ⟨a, hlisted.mono (List.suffix_cons _ _), rfl⟩,
      fun _ => ⟨(List.suffix_cons _ _).trans (List.suffix_cons _ _), fun _ _ => .tail _ (.head _)⟩⟩

/-- Close an attempt, perhaps append an audit record, and report. -/
theorem obeys_close_report {state : AttemptState} {result error : Option String}
    {rest : Fabric RecoveryAction} {action : RecoveryAction}
    (hlisted : Listed ds a) (hverdict : Verdict ds a state)
    (hrest : ∀ ds', ds <:+ ds' →
      Obeys RecoveryPermits (fun ds'' r => ds' <:+ ds'' ∧ ∀ b, r = .ok b → b = action) ds' rest)
    (hbacked : ∀ ds', ds <:+ ds' →
      ⟨.db (.attemptFinish a.id state result error), .ok ()⟩ ∈ ds' → Backed ds' action) :
    Obeys RecoveryPermits (fun ds' r => ∀ b, r = .ok b → Backed ds' b) ds (do
      closeAttempt a.id state result error
      rest) := by
  rw [obeys_bind]
  refine (obeys_closeAttempt hlisted hverdict).weaken fun ds₁ r h₁ => ?_
  cases r with
  | error e => exact fun b h => nomatch h
  | ok u =>
    refine (hrest ds₁ h₁.1).weaken fun ds₂ r h₂ b hb => ?_
    rw [h₂.2 b hb]
    exact (hbacked ds₁ h₁.1 (h₁.2 u rfl)).mono h₂.1

theorem obeys_report {action : RecoveryAction} :
    Obeys RecoveryPermits (fun ds' r => ds <:+ ds' ∧ ∀ b, r = .ok b → b = action) ds
      (pure action : Fabric RecoveryAction) :=
  ⟨List.suffix_refl ds, fun _ h => (Except.ok.inj h).symm⟩

theorem obeys_audit_report {op : String} {action : RecoveryAction} :
    Obeys RecoveryPermits (fun ds' r => ds <:+ ds' ∧ ∀ b, r = .ok b → b = action) ds (do
      audit op
      pure action) := by
  refine ⟨.inl trivial, fun reply => ?_⟩
  cases reply with
  | error e => exact ⟨List.suffix_cons _ _, fun _ h => nomatch h⟩
  | ok u => exact ⟨List.suffix_cons _ _, fun _ h => (Except.ok.inj h).symm⟩

theorem MissingSince.looked {kind : JournalKind} {key : AttemptId} {state : JournalState}
    {bad : FabricDeed → Prop} (h : MissingSince ds kind key state bad) :
    Looked ds kind key state false := by
  obtain ⟨recent, older, rfl, -⟩ := h
  exact List.mem_append_right _ (.head _)

theorem obeys_recommitCapture {id : Id} (hlisted : Listed ds a) (hkind : a.kind = .capture)
    (hckpt : a.checkpointId = some id) (hpersisted : Looked ds .capture a.id .persisted true)
    (hmissing : MissingSince ds .capture a.id .dbCommitted (CommitsCapture a.id)) :
    Obeys RecoveryPermits (fun ds' r => ∀ b, r = .ok b → Backed ds' b) ds
      (recommitCapture a.id id) := by
  have herror : ∀ (ds : List FabricDeed) (e : FabricError), ∀ b : RecoveryAction,
      Except.error e = Except.ok b → Backed ds b := fun _ _ _ h => nomatch h
  unfold recommitCapture
  refine Obeys.bind herror (obeys_requireCheckpoint (.inl trivial)) fun ds₁ ckpt hread => ?_
  have hsuffix₁ : ds <:+ ds₁ := hread ▸ List.suffix_cons _ _
  have hseen₁ : lastSeen id ds₁ = some ckpt.lifecycle := by
    rw [hread, lastSeen_cons_of_get]
    rfl
  have hmissing₁ : MissingSince ds₁ .capture a.id .dbCommitted (CommitsCapture a.id) := by
    rw [hread]
    exact hmissing.cons fun ⟨_, h⟩ => nomatch h
  have hlisted₁ := hlisted.mono hsuffix₁
  refine ⟨.inr ⟨a, hlisted₁, hkind, rfl, hckpt, hsuffix₁.subset hpersisted, hmissing₁.looked⟩,
    fun reply => ?_⟩
  cases reply with
  | ok u =>
    refine obeys_close_report (hlisted₁.mono (List.suffix_cons _ _))
      (.captured hkind (.inr ⟨_, .head _, id, rfl⟩)) (fun _ _ => obeys_audit_report) ?_
    exact fun _ _ _ => ⟨nofun, nofun⟩
  | error error =>
    generalize hds₂ : (⟨.db (.captureCommit id a.id), .error error⟩ :: ds₁ : List FabricDeed) = ds₂
    have hsuffix₂ : ds₁ <:+ ds₂ := hds₂ ▸ List.suffix_cons _ _
    have hrefused : ⟨.db (.captureCommit id a.id), .error error⟩ ∈ ds₂ := hds₂ ▸ .head _
    have hmissing₂ : MissingSince ds₂ .capture a.id .dbCommitted (CommitsCapture a.id) := by
      rw [← hds₂]
      exact hmissing₁.cons fun ⟨_, h⟩ => nomatch h
    -- Whether or not the checkpoint is failed first, the attempt is closed as FAILED.
    have hclose : ∀ ds₃, ds₂ <:+ ds₃ →
        MissingSince ds₃ .capture a.id .dbCommitted (CommitsCapture a.id) →
        Obeys RecoveryPermits (fun ds' r => ∀ b, r = .ok b → Backed ds' b) ds₃ (do
          closeAttempt a.id .failed none
            (some s!"persisted checkpoint metadata is incomplete: {error}")
          audit "capture.recovery_rejected"
          pure
            { kind := .capture, key := a.id, state := .failedCleanup
              detail :=
                s!"persisted checkpoint metadata was incomplete and was rejected: {error}" }) := by
      intro ds₃ hsuffix₃ hmissing₃
      have hlisted₃ := (hlisted₁.mono hsuffix₂).mono hsuffix₃
      refine obeys_close_report hlisted₃ (.notCaptured hkind hmissing₃)
        (fun _ _ => obeys_audit_report) fun ds₄ hsuffix₄ hclosed => ⟨fun _ _ => ?_, nofun⟩
      exact ⟨a, id, error, hlisted₃.mono hsuffix₄, hkind, rfl, hckpt,
        hsuffix₄.subset (hsuffix₃.subset hrefused), _, _, hclosed⟩
    refine obeys_ite (fun hstate => ?_) fun _ => hclose _ (List.suffix_refl _) hmissing₂
    · refine obeys_ofExcept_bind herror fun _ _ => ?_
      refine obeys_call_bind herror (.inr (.inr ⟨rfl, rfl, ?_, ?_⟩)) fun _ => ?_
      · refine ⟨ckpt.lifecycle, ?_, by simpa using hstate⟩
        rw [← hds₂, lastSeen_cons_of_not_reads rfl, hseen₁]
      · exact ⟨a, hlisted₁.mono hsuffix₂, hkind, hckpt, error, hrefused⟩
      · exact hclose _ (List.suffix_cons _ _) (hmissing₂.cons fun ⟨_, h⟩ => nomatch h)

theorem obeys_reconcileCapture (hlisted : Listed ds a) (hkind : a.kind = .capture) :
    Obeys RecoveryPermits (fun ds' r => ∀ b, r = .ok b → Backed ds' b) ds
      (reconcileCapture a) := by
  have herror : ∀ (ds : List FabricDeed) (e : FabricError), ∀ b : RecoveryAction,
      Except.error e = Except.ok b → Backed ds b := fun _ _ _ h => nomatch h
  unfold reconcileCapture
  refine obeys_call_bind herror (.inl trivial) fun hasPersisted => ?_
  refine obeys_call_bind herror (.inl trivial) fun hasDb => ?_
  have hlisted₂ := (hlisted.mono (List.suffix_cons (⟨.db (.journalHas .capture a.id .persisted),
    .ok hasPersisted⟩ : FabricDeed) ds)).mono (List.suffix_cons (⟨.db (.journalHas .capture a.id
      .dbCommitted), .ok hasDb⟩ : FabricDeed) _)
  cases hasDb with
  | true =>
    exact obeys_close_report hlisted₂ (.captured hkind (.inl (.head _))) (fun _ _ => obeys_report)
      fun _ _ _ => ⟨nofun, nofun⟩
  | false =>
    have hmissing : MissingSince (⟨.db (.journalHas .capture a.id .dbCommitted), .ok false⟩ ::
        ⟨.db (.journalHas .capture a.id .persisted), .ok hasPersisted⟩ :: ds) .capture a.id
          .dbCommitted (CommitsCapture a.id) := ⟨[], _, rfl, fun _ h => nomatch h⟩
    cases hasPersisted with
    | true =>
      refine obeys_okOr_bind herror fun id hid => ?_
      exact obeys_recommitCapture hlisted₂ hkind hid (.tail _ (.head _)) hmissing
    | false =>
      exact obeys_close_report hlisted₂ (.notCaptured hkind hmissing)
        (fun _ _ => obeys_audit_report) fun _ _ _ => ⟨nofun, nofun⟩

theorem obeys_returnToAvailable {permits : List FabricDeed → Op → Prop} {id : Id}
    (hread : permits ds (.db (.checkpointGet id)))
    (hset : ∀ c : CheckpointObject, c.lifecycle = .restorePending ∨ c.lifecycle = .restoring →
      permits (⟨.db (.checkpointGet id), .ok (some c)⟩ :: ds)
        (.db (.checkpointSetLifecycle id .available .valid))) :
    Obeys permits (fun ds' _ => ds <:+ ds') ds (returnToAvailable id) := by
  refine ⟨hread, fun reply => ?_⟩
  cases reply with
  | error e => exact List.suffix_cons _ _
  | ok row =>
    cases row with
    | none => exact List.suffix_cons _ _
    | some c =>
      refine obeys_ite (fun hstate => ?_) fun _ => List.suffix_cons _ _
      rw [obeys_bind, obeys_ofExcept]
      cases c.lifecycle.transition .available with
      | error e => exact List.suffix_cons _ _
      | ok u =>
        exact ⟨hset c (by simpa using hstate),
          fun _ => (List.suffix_cons _ _).trans (List.suffix_cons _ _)⟩

theorem obeys_reconcileRestore (hlisted : Listed ds a) (hkind : a.kind ≠ .capture) :
    Obeys RecoveryPermits (fun ds' r => ∀ b, r = .ok b → Backed ds' b) ds
      (reconcileRestore a) := by
  have herror : ∀ (ds : List FabricDeed) (e : FabricError), ∀ b : RecoveryAction,
      Except.error e = Except.ok b → Backed ds b := fun _ _ _ h => nomatch h
  unfold reconcileRestore
  refine obeys_call_bind herror (.inl trivial) fun hasRestored => ?_
  refine obeys_call_bind herror (.inl trivial) fun hasCommitted => ?_
  refine obeys_call_bind herror (.inl trivial) fun hasResumed => ?_
  generalize hds₃ : (_ :: _ :: _ :: ds : List FabricDeed) = ds₃
  have hsuffix : ds <:+ ds₃ := hds₃ ▸ List.suffix_append [_, _, _] ds
  have hlisted₃ := hlisted.mono hsuffix
  have hlooked : Looked ds₃ .restore a.id .generationCommitted hasCommitted :=
    hds₃ ▸ .tail _ (.head _)
  have hrestored : Looked ds₃ .restore a.id .componentsRestored hasRestored :=
    hds₃ ▸ .tail _ (.tail _ (.head _))
  -- The journal decides: a commit is closed as committed, anything less is closed as failed.
  cases hasCommitted with
  | true =>
    cases hasResumed with
    | false =>
      exact obeys_close_report hlisted₃ (.restored hkind hlooked) (fun _ _ => obeys_audit_report)
        fun _ hsuffix₄ _ => ⟨nofun, fun _ _ => hsuffix₄.subset hlooked⟩
    | true =>
      exact obeys_close_report hlisted₃ (.restored hkind hlooked) (fun _ _ => obeys_report)
        fun _ _ _ => ⟨nofun, nofun⟩
  | false =>
    cases hasRestored with
    | false =>
      exact obeys_close_report hlisted₃ (.notRestored hkind hlooked) (fun _ _ => obeys_report)
        fun _ _ _ => ⟨nofun, nofun⟩
    | true =>
      -- The components are on the target, which has to be cleaned up, and the checkpoint goes back
      -- to AVAILABLE first.
      have hclose : ∀ ds₄, ds₃ <:+ ds₄ →
          Obeys RecoveryPermits (fun ds' r => ∀ b, r = .ok b → Backed ds' b) ds₄ (do
            closeAttempt a.id .failed none (some "restore interrupted before generation commit")
            audit "restore.cleaned_by_recovery"
            pure
              { kind := .restore, key := a.id, state := .failedCleanup
                detail := "restore interrupted before generation commit; target cleanup required" }) :=
        fun ds₄ hsuffix₄ => obeys_close_report (hlisted₃.mono hsuffix₄)
          (.notRestored hkind (hsuffix₄.subset hlooked)) (fun _ _ => obeys_audit_report)
          fun _ _ _ => ⟨nofun, nofun⟩
      cases hckpt : a.checkpointId with
      | none => exact hclose _ (List.suffix_refl _)
      | some id =>
        have hreturn : Obeys RecoveryPermits (fun ds' _ => ds₃ <:+ ds') ds₃
            (returnToAvailable id) := by
          refine obeys_returnToAvailable (.inl trivial) fun c hc => .inr (.inl ⟨rfl, rfl, ?_⟩)
          have hcons := List.suffix_cons (⟨.db (.checkpointGet id), .ok (some c)⟩ : FabricDeed) ds₃
          exact ⟨⟨c.lifecycle, lastSeen_cons_of_get, hc⟩, a, hlisted₃.mono hcons, hkind, hckpt,
            hcons.subset hrestored, hcons.subset hlooked⟩
        exact Obeys.bind herror (hreturn.weaken fun _ _ h _ _ => h) fun ds₄ _ h => hclose ds₄ h

theorem obeys_reconcileAttempt (hlisted : Listed ds a) :
    Obeys RecoveryPermits (fun ds' r => ∀ b, r = .ok b → Backed ds' b) ds
      (reconcileAttempt a) := by
  unfold reconcileAttempt
  cases hkind : a.kind with
  | capture => exact obeys_reconcileCapture hlisted hkind
  | restore => exact obeys_reconcileRestore hlisted (by simp [hkind])
  | rollback => exact obeys_reconcileRestore hlisted (by simp [hkind])

theorem obeys_markStale {names : List NodeId} {before : ℕ}
    (hswept : ⟨.db (.nodesSweepStale before), .ok names⟩ ∈ ds) :
    Obeys RecoveryPermits (fun ds' _ => ⟨.db (.nodesSweepStale before), .ok names⟩ ∈ ds') ds
      (markStale names) := by
  refine obeys_forEach (fun n hn ds' hds' => ?_) hswept
  refine ⟨.inr ⟨rfl, before, names, hds', hn⟩, fun reply => ?_⟩
  cases reply with
  | error e => exact .tail _ hds'
  | ok u => exact ⟨.inl trivial, fun _ => .tail _ (.tail _ hds')⟩

theorem obeys_reconcile {ctx : OperationContext} :
    Obeys RecoveryPermits
      (fun ds' r => ∀ out : RecoveryOutcome, r = .ok out → ∀ b ∈ out.actions, Backed ds' b) ds
      (reconcile ctx) := by
  have herror : ∀ (ds : List FabricDeed) (e : FabricError), ∀ out : RecoveryOutcome,
      Except.error e = Except.ok out → ∀ b ∈ out.actions, Backed ds b := fun _ _ _ h => nomatch h
  unfold reconcile
  refine obeys_call_bind herror trivial fun now => ?_
  refine obeys_call_bind herror (.inr trivial) fun expired => ?_
  refine obeys_call_bind herror trivial fun now' => ?_
  refine obeys_call_bind herror (.inr trivial) fun names => ?_
  rw [obeys_bind]
  refine (obeys_markStale (.head _)).weaken fun ds₁ marked _ => ?_
  cases marked with
  | error e => exact herror ds₁ e
  | ok u =>
    refine obeys_call_bind herror (.inl trivial) fun attempts => ?_
    refine Obeys.bind herror (obeys_mapEach (fun _ _ _ h hb => hb.mono h) fun a ha ds' hds' =>
      obeys_reconcileAttempt ⟨attempts, hds'.subset (.head _), ha⟩) fun ds₂ actions hactions => ?_
    intro out hout
    rw [← Except.ok.inj hout]
    exact hactions

end Reconcile

section Visit

variable {ds : List FabricDeed} {action : RecoveryAction} {attempt : AttemptRecord}

/-- The reads, and the messages that the deeds `ds` back. -/
def Visits (ds : List FabricDeed) (op : Op) : Prop :=
  op.Reads ∨ ∃ node request, op = .call node request ∧ PlainSends ds node request

theorem PlainSends.mono {ds' : List FabricDeed} (h : ds <:+ ds') {node : NodeId}
    {request : NodeRequest} (hsends : PlainSends ds node request) :
    PlainSends ds' node request := by
  cases request with
  | resume req =>
    obtain ⟨a, hread, hnode, hplain⟩ := hsends
    exact ⟨a, h.subset hread, hnode, hplain⟩
  | cleanup req =>
    obtain ⟨key, a, hread, hnode, hstaging, hids⟩ := hsends
    exact ⟨key, a, h.subset hread, hnode, hstaging,
      hids.imp_right fun hids => ⟨hids.1, hids.2.mono h⟩⟩
  | _ => exact hsends

theorem obeys_of_uses_visits {p : Fabric Unit} (h : Uses (Visits ds) p) :
    Obeys RecoveryPermits (fun ds' _ => ds <:+ ds') ds p := by
  refine Obeys.extend h fun ds' op hsuffix hop => ?_
  rcases hop with hreads | ⟨node, request, rfl, hsends⟩
  · exact recoveryPermits_of_reads hreads
  · exact .inl (hsends.mono hsuffix)

theorem uses_confirmCleanup {node : NodeId} {req : NodeCleanupRequest}
    (h : PlainSends ds node (.cleanup req)) : Uses (Visits ds) (confirmCleanup node req) := by
  refine Uses.bind (uses_callNode (fun _ => .inl) (.inr ⟨_, _, rfl, h⟩)) fun result => ?_
  split <;> trivial

theorem uses_confirmResume {what : String} {node : NodeId} {request : NodeResumeRequest}
    (h : PlainSends ds node (.resume request)) :
    Uses (Visits ds) (confirmResume what node request) :=
  Uses.bind (uses_callNode (fun _ => .inl) (.inr ⟨_, _, rfl, h⟩)) fun _ => uses_ensure.mpr trivial

theorem obeys_confirmGrant {what : String} {node : NodeId} {request : NodeResumeRequest}
    (h : ∀ nodes : List NodeRecord,
      RecoveryGrants (⟨.db .nodeList, .ok nodes⟩ :: ds) node (.resume request)) :
    Obeys RecoveryPermits (fun ds' _ => ds <:+ ds') ds (confirmResume what node request) := by
  unfold confirmResume
  rw [obeys_bind]
  have hcall : Obeys RecoveryPermits (fun ds' _ => ds <:+ ds') ds (callNode node (.resume request)) :=
    obeys_callNode (.inl trivial) (fun _ => List.suffix_cons _ _) fun nodes _ =>
      ⟨.inr (h nodes), fun _ => List.suffix_append [_, _] ds⟩
  refine hcall.weaken fun ds' result h' => ?_
  cases result with
  | error e => exact h'
  | ok result =>
    rw [Program.onValue_ok, obeys_ensure]
    split <;> exact h'

theorem uses_visitCapture (hread : ReadAttempt ds action.key attempt) (hbacked : Backed ds action)
    (hkind : action.kind = .capture) : Uses (Visits ds) (visitCapture action attempt) := by
  have hcleanup : Uses (Visits ds) (confirmCleanup attempt.node
      { stagingAttempts := [action.key]
        restoreAttempts := []
        checkpointIds :=
          if action.state == .failedCleanup then attempt.checkpointId.toList else [] }) := by
    refine uses_confirmCleanup ⟨action.key, attempt, hread, rfl, rfl, ?_⟩
    split
    · rename_i hstate
      exact .inr ⟨rfl, hbacked.refused hkind (by simpa using hstate)⟩
    · exact .inl rfl
  unfold visitCapture
  dsimp only
  split
  · exact Uses.bind (uses_confirmResume ⟨attempt, hread, rfl, rfl, rfl⟩) fun _ => hcleanup
  · exact hcleanup

theorem obeys_visitRestore (hread : ReadAttempt ds action.key attempt) (hbacked : Backed ds action)
    (hkind : action.kind = .restore) :
    Obeys RecoveryPermits (fun ds' _ => ds <:+ ds') ds (visitRestore action attempt) := by
  unfold visitRestore
  split
  · exact obeys_of_uses_visits (uses_confirmCleanup ⟨action.key, attempt, hread, rfl, rfl, .inl rfl⟩)
  · rename_i checkpointId workloadId hstate _ hworkload
    rw [obeys_bind]
    refine (obeys_requireWorkload (.inl trivial)).extends.weaken fun ds₁ result h₁ => ?_
    cases result with
    | error e => exact h₁.1
    | ok w =>
      obtain rfl := h₁.2 w rfl
      refine Obeys.weaken (obeys_confirmGrant fun nodes => ?_) fun _ _ h₂ => h₁.1.trans h₂
      exact ⟨attempt, w, ds, .tail _ (.tail _ hread), rfl, hworkload, .cons rfl .start,
        hbacked.committed hkind hstate, rfl, rfl⟩
  · exact List.suffix_refl ds

theorem obeys_visitAction (hbacked : Backed ds action) :
    Obeys RecoveryPermits (fun ds' _ => ds <:+ ds') ds (visitAction action) := by
  refine ⟨.inl trivial, fun reply => ?_⟩
  cases reply with
  | error e => exact List.suffix_cons _ _
  | ok row =>
    cases row with
    | none => exact List.suffix_cons _ _
    | some attempt =>
      generalize hds₁ : (_ :: ds : List FabricDeed) = ds₁
      have h₁ : ds <:+ ds₁ := hds₁ ▸ List.suffix_cons _ _
      have hread : ReadAttempt ds₁ action.key attempt := hds₁ ▸ .head _
      have hactive : Obeys RecoveryPermits (fun ds' _ => ds₁ <:+ ds') ds₁
          (nodeIsActive attempt.node) :=
        Obeys.extend (uses_nodeIsActive fun _ => id) fun _ _ _ => recoveryPermits_of_reads
      show Obeys _ _ ds₁ (nodeIsActive attempt.node >>= _)
      rw [obeys_bind]
      refine hactive.weaken fun ds₂ result h₂ => ?_
      cases result with
      | error e => exact h₁.trans h₂
      | ok active =>
        refine obeys_ite (fun _ => ?_) fun _ => h₁.trans h₂
        have hbacked₂ := (hbacked.mono h₁).mono h₂
        have hread₂ : ReadAttempt ds₂ action.key attempt := h₂.subset hread
        cases hkind : action.kind with
        | capture =>
          exact (obeys_of_uses_visits (uses_visitCapture hread₂ hbacked₂ hkind)).weaken
            fun _ _ h₃ => (h₁.trans h₂).trans h₃
        | restore =>
          exact (obeys_visitRestore hread₂ hbacked₂ hkind).weaken
            fun _ _ h₃ => (h₁.trans h₂).trans h₃

/-- Recovery performs the operations that its reads back, and no others. -/
theorem obeys_runRecovery {ctx : OperationContext} :
    Obeys RecoveryPermits (fun _ _ => True) ds (runRecovery ctx) := by
  unfold runRecovery
  refine Obeys.bind (fun _ _ => trivial) obeys_reconcile fun ds₁ out hout => ?_
  have hvisits : Obeys RecoveryPermits (fun ds' _ => ds₁ <:+ ds') ds₁
      (Program.forEach out.actions visitAction) :=
    obeys_forEach (fun action haction ds' hds' =>
      (obeys_visitAction ((hout action haction).mono hds')).weaken fun _ _ h => hds'.trans h)
      (List.suffix_refl ds₁)
  rw [obeys_bind]
  refine hvisits.weaken fun ds₂ result _ => ?_
  cases result <;> trivial

end Visit

end CheckpointFabric.Coordinator
