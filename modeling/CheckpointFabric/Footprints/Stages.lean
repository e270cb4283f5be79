import CheckpointFabric.Footprints.Requests

/-!
# The stages of an attempt

An operation journals the stages it has come through, one after the other. Before it journals
a stage its thread has journaled the stage before, or has found it in the journal.

## Main definitions

* `JournalKind.stages`, `JournalState.previous` — the stages in order
* `Shown` — a stage was journaled by the thread, or found
* `StagePermits` — a stage is journaled after the stage before it

## Main results

* `obeys_serve_stages` — every request journals its stages in order
-/

set_option autoImplicit false

namespace CheckpointFabric

open Concurrency

/-- The stages that are journaled for an attempt, in order. The transfer of a migration is a
mark of its own. -/
def JournalKind.stages : JournalKind → List JournalState
  | capture => [.reserved, .sealed, .persisted, .dbCommitted, .resumeDone]
  | restore => [.reserved, .provisioned, .componentsRestored, .generationCommitted, .resumed]
  | migration => [.authorityTransferred]

/-- The stage before. -/
def JournalState.previous : JournalState → Option JournalState
  | reserved | authorityTransferred => none
  | «sealed» | provisioned => some reserved
  | persisted => some «sealed»
  | dbCommitted => some persisted
  | resumeDone => some dbCommitted
  | componentsRestored => some provisioned
  | generationCommitted => some componentsRestored
  | resumed => some generationCommitted

/-- What a capture does besides keeping its own record: it sends messages after its commit or
failure, adds replicas, and fails its checkpoint. -/
def Op.Tends : Op → Prop
  | .db (.checkpointSetLifecycle _ _ _) | .db (.checkpointAddLocation _ _)
  | .call _ (.resume _) | .call _ (.cleanup _) | .call _ (.allowFetch _)
  | .call _ (.replicate _) => True
  | op => op.Reads

/-- The abort of a capture also closes its attempt. -/
def Op.Aborts : Op → Prop
  | .db (.attemptFinish _ _ _ _) | .db (.reservationRelease _) => True
  | op => op.Tends

namespace Coordinator

open Fabric

/-- The thread has journaled the stage, or has found it. -/
def Shown (ds : List FabricDeed) (kind : JournalKind) (key : AttemptId) (state : JournalState) :
    Prop :=
  (∃ op reply, op.Marks kind key state ∧ (⟨.db op, .ok reply⟩ : FabricDeed) ∈ ds) ∨
    Looked ds kind key state true

/-- A stage of an attempt is journaled when the stage before it was shown. -/
def StagePermits (ds : List FabricDeed) : Op → Prop
  | .db op => ∀ kind key state, op.Marks kind key state →
    state ∈ kind.stages ∧ ∀ previous ∈ state.previous, Shown ds kind key previous
  | _ => True

/-- The operation journals nothing. -/
def Silent : Op → Prop
  | .db (.journalAppend _ _ _ _) | .db (.captureCommit _ _)
  | .db (.restoreCommit _ _ _ _ _ _) => False
  | _ => True

/-- The operation journals nothing and records no outcome. -/
def Unmarked : Op → Prop
  | .db (.journalAppend _ _ _ _) | .db (.captureCommit _ _)
  | .db (.restoreCommit _ _ _ _ _ _) | .db (.attemptFinish _ _ _ _) => False
  | _ => True

section Rules

variable {settings : Settings} {α β : Type} {ds ds' : List FabricDeed} {kind : JournalKind}
  {key : AttemptId} {state : JournalState} {op : Op}

theorem Shown.mono (h : Shown ds kind key state) (hsuffix : ds <:+ ds') :
    Shown ds' kind key state := by
  refine h.imp ?_ fun hlooked => hsuffix.subset hlooked
  rintro ⟨op, reply, hmarks, hmem⟩
  exact ⟨op, reply, hmarks, hsuffix.subset hmem⟩

theorem stagePermits_of_silent (h : Silent op) : StagePermits ds op := by
  cases op with
  | db op =>
    intro kind key state hmarks
    cases op with
    | journalAppend | captureCommit | restoreCommit => exact absurd h not_false
    | _ => exact absurd hmarks not_false
  | _ => trivial

theorem silent_of_reads (h : op.Reads) : Silent op := by
  cases op with
  | db op =>
    cases op with
    | journalAppend | captureCommit | restoreCommit => exact absurd h not_false
    | _ => trivial
  | _ => trivial

theorem unmarked_of_reads (h : op.Reads) : Unmarked op := by
  cases op with
  | db op =>
    cases op with
    | journalAppend | captureCommit | restoreCommit | attemptFinish => exact absurd h not_false
    | _ => trivial
  | _ => trivial

theorem silent_of_unmarked (h : Unmarked op) : Silent op := by
  cases op with
  | db op =>
    cases op with
    | journalAppend | captureCommit | restoreCommit => exact absurd h not_false
    | _ => trivial
  | _ => trivial

theorem tends_of_reads (h : op.Reads) : op.Tends := by
  cases op with
  | db op => cases op <;> first | exact h | trivial
  | call => exact absurd h not_false
  | _ => exact h

theorem aborts_of_tends (h : op.Tends) : op.Aborts := by
  cases op with
  | db op => cases op <;> first | exact h | trivial
  | _ => exact h

theorem unmarked_of_tends (h : op.Tends) : Unmarked op := by
  cases op with
  | db op =>
    cases op with
    | journalAppend | captureCommit | restoreCommit | attemptFinish => exact absurd h not_false
    | _ => trivial
  | _ => trivial

theorem silent_of_aborts (h : op.Aborts) : Silent op := by
  cases op with
  | db op =>
    cases op with
    | journalAppend | captureCommit | restoreCommit => exact absurd h not_false
    | _ => trivial
  | _ => trivial

/-- A part that journals nothing needs nothing. -/
theorem obeys_of_silent {p : Fabric α} (h : Uses Silent p) :
    Obeys StagePermits (fun ds' _ => ds <:+ ds') ds p :=
  Obeys.extend h fun _ _ _ => stagePermits_of_silent

theorem obeys_silent_bind {p : Fabric α} {f : α → Fabric β}
    {conclude : List FabricDeed → FabricResult β → Prop} (hp : Uses Silent p)
    (herror : ∀ ds e, conclude ds (.error e))
    (hf : ∀ ds' a, ds <:+ ds' → Obeys StagePermits conclude ds' (f a)) :
    Obeys StagePermits conclude ds (p >>= f) :=
  obeys_uses_bind herror hp (fun _ _ _ => stagePermits_of_silent) hf

/-- Journaling a stage shows it. -/
theorem obeys_journal {detail : String} (hstage : state ∈ kind.stages)
    (hprevious : ∀ previous ∈ state.previous, Shown ds kind key previous) :
    Obeys StagePermits
      (fun ds' result => ds <:+ ds' ∧ ∀ u, result = .ok u → Shown ds' kind key state) ds
      (journal kind key state detail) := by
  refine ⟨?_, fun reply => ⟨List.suffix_cons _ _, fun u hu => ?_⟩⟩
  · rintro kind' key' state' ⟨rfl, rfl, rfl⟩
    exact ⟨hstage, hprevious⟩
  · rw [show reply = .ok () from hu]
    exact .inl ⟨.journalAppend kind key state detail, (), ⟨rfl, rfl, rfl⟩, .head _⟩

theorem obeys_journal_bind {detail : String} {f : Unit → Fabric β}
    {conclude : List FabricDeed → FabricResult β → Prop} (hstage : state ∈ kind.stages)
    (hprevious : ∀ previous ∈ state.previous, Shown ds kind key previous)
    (herror : ∀ ds e, conclude ds (.error e))
    (hf : ∀ ds', ds <:+ ds' → Shown ds' kind key state → Obeys StagePermits conclude ds' (f ())) :
    Obeys StagePermits conclude ds (journal kind key state detail >>= f) := by
  rw [obeys_bind]
  refine (obeys_journal hstage hprevious).weaken fun ds' result h => ?_
  cases result with
  | ok u => exact hf ds' h.1 (h.2 u rfl)
  | error e => exact herror ds' e

/-- A handler that journals nothing changes nothing. -/
theorem obeys_mapErr_of_silent {p : Fabric α} {handler : FabricError → Fabric Unit}
    (hp : Obeys StagePermits (fun _ _ => True) ds p) (hhandler : ∀ e, Uses Silent (handler e)) :
    Obeys StagePermits (fun _ _ => True) ds (mapErr p handler) := by
  unfold mapErr Program.onError
  rw [obeys_andThen]
  refine hp.weaken fun ds' result _ => ?_
  cases result with
  | ok a => trivial
  | error e =>
    refine obeys_andThen.mpr ((obeys_of_silent ?_).weaken fun _ _ _ => trivial)
    exact Uses.ite trivial (hhandler e).ignore

end Rules

section Capture

variable {settings : Settings} {run : CaptureRun} {ds : List FabricDeed}

theorem uses_stageCapture : Uses Unmarked (stageCapture settings run) := by
  unfold stageCapture
  refine Uses.bind (uses_call.mpr trivial) fun epoch => Uses.bind (uses_call.mpr trivial)
    fun now => ?_
  refine Uses.bind (uses_db trivial) fun _ => ?_
  refine Uses.bind (uses_setLifecycle (fun _ => unmarked_of_reads) trivial) fun _ => ?_
  refine Uses.bind (uses_callNode (fun _ => unmarked_of_reads) trivial) fun result => ?_
  refine Uses.bind (uses_ensure.mpr trivial) fun _ => Uses.bind trivial fun _ => ?_
  exact Uses.bind trivial fun _ => trivial

theorem obeys_sealCapture {ckpt : CheckpointObject}
    (h : Shown ds .capture run.attemptId .reserved) :
    Obeys StagePermits
      (fun ds' result => ∀ a, result = .ok a → Shown ds' .capture run.attemptId .sealed) ds
      (sealCapture settings run ckpt) := by
  have herror : ∀ (ds : List FabricDeed) (e : FabricError),
      ∀ a : CheckpointObject × SealedManifest, Except.error e = Except.ok a →
        Shown ds .capture run.attemptId .sealed := fun _ _ _ h => nomatch h
  have hset {ckpt : CheckpointObject} {target : LifecycleState} :
      Uses Silent (setLifecycle ckpt target) :=
    uses_setLifecycle (fun _ => silent_of_reads) trivial
  unfold sealCapture
  refine obeys_silent_bind hset herror fun ds₁ _ h₁ => ?_
  refine obeys_silent_bind hset herror fun ds₂ _ h₂ => ?_
  refine obeys_silent_bind (uses_call.mpr trivial) herror fun ds₃ _ h₃ => ?_
  refine obeys_silent_bind (uses_call.mpr trivial) herror fun ds₄ sealMs h₄ => ?_
  refine obeys_silent_bind (uses_db trivial) herror fun ds₅ _ h₅ => ?_
  refine obeys_silent_bind hset herror fun ds₆ _ h₆ => ?_
  have hreserved := h.mono (((((h₁.trans h₂).trans h₃).trans h₄).trans h₅).trans h₆)
  refine obeys_journal_bind (by decide) (by rintro _ ⟨⟩; exact hreserved) herror
    fun ds₇ _ hsealed => ?_
  refine obeys_silent_bind (uses_db trivial) herror fun ds₈ _ h₈ => ?_
  exact fun _ _ => hsealed.mono h₈

theorem obeys_persistCapture_stages {ckpt : CheckpointObject} {sealed : SealedManifest}
    (h : Shown ds .capture run.attemptId .sealed) :
    Obeys StagePermits
      (fun ds' result => ∀ a, result = .ok a → Shown ds' .capture run.attemptId .persisted) ds
      (persistCapture run ckpt sealed) := by
  have herror : ∀ (ds : List FabricDeed) (e : FabricError), ∀ a : Unit,
      Except.error e = Except.ok a → Shown ds .capture run.attemptId .persisted :=
    fun _ _ _ h => nomatch h
  unfold persistCapture
  refine obeys_silent_bind (uses_setLifecycle (fun _ => silent_of_reads) trivial) herror
    fun ds₁ _ h₁ => ?_
  refine obeys_silent_bind (uses_callNode (fun _ => silent_of_reads) trivial) herror
    fun ds₂ result h₂ => ?_
  refine obeys_silent_bind (uses_ensure.mpr trivial) herror fun ds₃ _ h₃ => ?_
  refine obeys_silent_bind (uses_db trivial) herror fun ds₄ _ h₄ => ?_
  have hsealed := h.mono (((h₁.trans h₂).trans h₃).trans h₄)
  refine (obeys_journal (by decide) (by rintro _ ⟨⟩; exact hsealed)).weaken fun _ _ h₅ => h₅.2

theorem uses_replicateLoop {checkpointId : Id} {targets : List NodeId} {ck : CheckpointObject} :
    Uses Op.Tends (replicateLoop settings checkpointId targets ck) := by
  induction targets generalizing ck with
  | nil => trivial
  | cons target targets ih =>
    unfold replicateLoop
    refine Uses.ite trivial ?_
    split
    · trivial
    · refine Uses.bind (uses_call.mpr trivial) fun token => ?_
      refine Uses.bind (uses_callNode (fun _ => tends_of_reads) trivial) fun _ => ?_
      refine Uses.bind (uses_nodeAddr fun _ => tends_of_reads) fun fromAddr => ?_
      refine Uses.bind (uses_call.mpr trivial) fun nonce => Uses.bind uses_okOr fun _ => ?_
      refine Uses.bind (uses_callNode (fun _ => tends_of_reads) trivial) fun result => ?_
      have hnext : Uses Op.Tends (do
          let ck ← checkpointGet checkpointId
          let ck ← okOr ck (.panicked "called unwrap on a None value")
          replicateLoop settings checkpointId targets ck) :=
        Uses.bind (uses_db trivial) fun _ => Uses.bind uses_okOr fun _ => ih
      exact Uses.ite (Uses.bind (uses_db trivial) fun _ => hnext) hnext

theorem uses_replicateToPolicy {checkpointId : Id} :
    Uses Op.Tends (replicateToPolicy settings checkpointId) := by
  refine Uses.ite trivial ?_
  refine Uses.bind (uses_requireCheckpoint fun _ => tends_of_reads) fun ck => ?_
  refine Uses.bind (uses_db trivial) fun nodes => ?_
  exact Uses.bind uses_replicateLoop fun _ => trivial

theorem obeys_finishCapture_stages {ckpt : CheckpointObject}
    (h : Shown ds .capture run.attemptId .dbCommitted) :
    Obeys StagePermits (fun _ _ => True) ds (finishCapture settings run ckpt) := by
  have herror : ∀ (ds : List FabricDeed) (e : FabricError), (fun _ _ => True :
      List FabricDeed → FabricResult OperationOutcome → Prop) ds (.error e) := fun _ _ => trivial
  unfold finishCapture
  refine obeys_silent_bind (uses_callNode (fun _ => silent_of_reads) trivial) herror
    fun ds₁ result h₁ => obeys_ite (fun _ => ?_) fun _ => ?_
  · refine (obeys_of_silent ?_).weaken fun _ _ _ => trivial
    exact Uses.bind (uses_db trivial) fun _ => trivial
  · refine obeys_journal_bind (by decide) (by rintro _ ⟨⟩; exact h.mono h₁) herror
      fun ds₂ _ _ => ?_
    refine (obeys_of_silent ?_).weaken fun _ _ _ => trivial
    refine Uses.bind (uses_replicateToPolicy.mono fun _ h => silent_of_unmarked (unmarked_of_tends h)) fun _ => ?_
    refine Uses.bind (uses_db trivial) fun _ => Uses.bind (uses_db trivial) fun _ => ?_
    exact Uses.bind (uses_call.mpr trivial) fun _ => trivial

/-- The operations of the abort of a capture: it resumes the source, cleans up, fails the checkpoint
and closes the attempt. -/
theorem uses_abortCaptureAttempt_of {allowed : Op → Prop} {key : AttemptId}
    {checkpointId workloadId : Id} {detail : String} (hreads : ∀ op, Op.Reads op → allowed op)
    (hresume : ∀ node req, allowed (.call node (.resume req)))
    (hcleanup : ∀ node req, allowed (.call node (.cleanup req)))
    (hfail : allowed (.db (.checkpointSetLifecycle checkpointId .failed .pending)))
    (hfinish : ∀ state result error, state ≠ .resumeFailed →
      allowed (.db (.attemptFinish key state result error)))
    (hrelease : allowed (.db (.reservationRelease key))) :
    Uses allowed (abortCaptureAttempt key checkpointId workloadId detail) := by
  have hfailed {committed : Bool} : Uses allowed (failAbortedCheckpoint checkpointId committed) := by
    unfold failAbortedCheckpoint
    refine Uses.bind (uses_db (hreads _ trivial)) fun row => ?_
    cases row with
    | none => trivial
    | some ck => exact Uses.ite (uses_db hfail) trivial
  unfold abortCaptureAttempt
  refine Uses.bind (uses_db (hreads _ trivial)) fun committed => ?_
  refine Uses.bind (uses_db (hreads _ trivial)) fun attempt => ?_
  have hstate : (if committed then AttemptState.committed else .failed) ≠ .resumeFailed := by
    cases committed <;> exact fun h => AttemptState.noConfusion h
  have hrest : Uses allowed (do
      failAbortedCheckpoint checkpointId committed
      attemptFinish key (if committed then .committed else .failed)
        (if committed then some "capture committed before later failure" else none)
        (if committed then none else some detail)
      reservationRelease key) :=
    Uses.bind hfailed fun _ => Uses.bind (uses_db (hfinish _ _ _ hstate)) fun _ => uses_db hrelease
  cases attempt with
  | none => exact hrest
  | some a =>
    refine Uses.bind ?_ fun _ => hrest
    unfold releaseCaptureOnNode
    refine Uses.bind (uses_callNode hreads (hresume _ _)).ignore fun _ => ?_
    exact (uses_callNode hreads (hcleanup _ _)).ignore

theorem uses_abortCaptureAttempt {key : AttemptId} {checkpointId workloadId : Id}
    {detail : String} : Uses Op.Aborts (abortCaptureAttempt key checkpointId workloadId detail) :=
  uses_abortCaptureAttempt_of (fun _ h => aborts_of_tends (tends_of_reads h)) (fun _ _ => trivial)
    (fun _ _ => trivial) trivial (fun _ _ _ _ => trivial) trivial

theorem obeys_executeCapture_stages (h : Shown ds .capture run.attemptId .reserved) :
    Obeys StagePermits (fun _ _ => True) ds (executeCapture settings run) := by
  have herror : ∀ (ds : List FabricDeed) (e : FabricError), (fun _ _ => True :
      List FabricDeed → FabricResult OperationOutcome → Prop) ds (.error e) := fun _ _ => trivial
  unfold executeCapture
  refine obeys_silent_bind (uses_stageCapture.mono fun _ => silent_of_unmarked) herror
    fun ds₁ ckpt h₁ => ?_
  refine Obeys.bind herror (obeys_sealCapture (h.mono h₁)) fun ds₂ sealed hsealed => ?_
  refine Obeys.bind herror (obeys_persistCapture_stages hsealed) fun ds₃ _ hpersisted => ?_
  refine obeys_silent_bind (uses_call.mpr trivial) herror fun ds₄ _ h₄ => ?_
  have hcommits : StagePermits ds₄ (.db (.captureCommit run.checkpointId run.attemptId)) := by
    rintro kind key state ⟨rfl, rfl, rfl⟩
    exact ⟨by decide, by rintro _ ⟨⟩; exact hpersisted.mono h₄⟩
  refine obeys_call_bind herror hcommits fun u => obeys_finishCapture_stages (.inl ?_)
  exact ⟨.captureCommit run.checkpointId run.attemptId, u, ⟨rfl, rfl, rfl⟩, .head _⟩

/-- A capture journals its stages in order. -/
theorem obeys_requestCapture_stages {workloadId : Id} {options : CaptureOptions}
    {ctx : OperationContext} :
    Obeys StagePermits (fun _ _ => True) ds (requestCapture settings workloadId options ctx) := by
  have herror : ∀ (ds : List FabricDeed) (e : FabricError), (fun _ _ => True :
      List FabricDeed → FabricResult OperationOutcome → Prop) ds (.error e) := fun _ _ => trivial
  have hadmitted : Obeys StagePermits _ ds (admitCapture settings workloadId options ctx) :=
    obeys_admitCapture fun _ _ h => stagePermits_of_silent (silent_of_reads h)
  unfold requestCapture
  refine Obeys.bind herror (hadmitted.weaken fun _ _ _ _ _ => trivial) fun ds₁ run (_ : True) => ?_
  have hreserve : Obeys StagePermits
      (fun ds' result => ∀ u, result = .ok u → Shown ds' .capture run.attemptId .reserved) ds₁
      (reserveCapture run workloadId) := by
    have herror : ∀ (ds : List FabricDeed) (e : FabricError), ∀ a : Unit,
        Except.error e = Except.ok a → Shown ds .capture run.attemptId .reserved :=
      fun _ _ _ h => nomatch h
    unfold reserveCapture
    refine obeys_silent_bind (uses_db trivial) herror fun ds₂ _ _ => ?_
    refine obeys_silent_bind (uses_db trivial) herror fun ds₃ _ _ => ?_
    exact (obeys_journal (by decide) (by rintro _ ⟨⟩)).weaken fun _ _ h => h.2
  refine Obeys.bind herror hreserve fun ds₂ _ h₂ => ?_
  exact obeys_mapErr_of_silent (obeys_executeCapture_stages h₂)
    fun _ => uses_abortCaptureAttempt.mono fun _ => silent_of_aborts

end Capture

section Restore

variable {settings : Settings} {run : RestoreRun} {ds : List FabricDeed}

theorem obeys_provisionRestore_stages (h : Shown ds .restore run.attemptId .reserved) :
    Obeys StagePermits
      (fun ds' result => ∀ a, result = .ok a → Shown ds' .restore run.attemptId .provisioned) ds
      (provisionRestore run) := by
  have herror : ∀ (ds : List FabricDeed) (e : FabricError), ∀ a : Unit,
      Except.error e = Except.ok a → Shown ds .restore run.attemptId .provisioned :=
    fun _ _ _ h => nomatch h
  have hset {target : LifecycleState} : Uses Silent (setLifecycle run.ckpt target) :=
    uses_setLifecycle (fun _ => silent_of_reads) trivial
  unfold provisionRestore
  refine obeys_silent_bind hset herror fun ds₁ _ h₁ => ?_
  refine obeys_journal_bind (by decide) (by rintro _ ⟨⟩; exact h.mono h₁) herror
    fun ds₂ _ hprovisioned => ?_
  refine (obeys_of_silent ?_).weaken fun _ _ h₃ _ _ => hprovisioned.mono h₃
  refine Uses.bind (uses_callNode (fun _ => silent_of_reads) trivial) fun result => ?_
  refine Uses.ite hset (Uses.bind ?_ fun _ => hset)
  exact uses_ensureReplica (fun _ => silent_of_reads) (fun _ _ => trivial) (fun _ _ => trivial)
    fun _ => trivial

theorem obeys_applyRestore_stages (h : Shown ds .restore run.attemptId .provisioned) :
    Obeys StagePermits (fun ds' result => ∀ a, result = .ok a →
      Shown ds' .restore run.attemptId .componentsRestored) ds (applyRestore settings run) := by
  have herror : ∀ (ds : List FabricDeed) (e : FabricError), ∀ a : Unit,
      Except.error e = Except.ok a → Shown ds .restore run.attemptId .componentsRestored :=
    fun _ _ _ h => nomatch h
  unfold applyRestore
  refine obeys_silent_bind uses_okOr herror fun ds₁ _ h₁ => ?_
  refine obeys_silent_bind (uses_callNode (fun _ => silent_of_reads) trivial) herror
    fun ds₂ result h₂ => ?_
  refine obeys_silent_bind (uses_ensure.mpr trivial) herror fun ds₃ _ h₃ => ?_
  have hprovisioned := h.mono ((h₁.trans h₂).trans h₃)
  exact (obeys_journal (by decide) (by rintro _ ⟨⟩; exact hprovisioned)).weaken fun _ _ h => h.2

theorem obeys_commitRestore_stages (h : Shown ds .restore run.attemptId .componentsRestored) :
    Obeys StagePermits (fun ds' result => ∀ a, result = .ok a →
      Shown ds' .restore run.attemptId .generationCommitted) ds (commitRestore run) := by
  have herror : ∀ (ds : List FabricDeed) (e : FabricError), ∀ a : FenceToken × Workload,
      Except.error e = Except.ok a → Shown ds .restore run.attemptId .generationCommitted :=
    fun _ _ _ h => nomatch h
  have htoken : Uses Silent (restoreToken run) := by
    unfold restoreToken
    split
    · trivial
    · exact uses_call.mpr trivial
  unfold commitRestore
  refine obeys_silent_bind (uses_call.mpr trivial) herror fun ds₁ _ h₁ => ?_
  refine obeys_silent_bind htoken herror fun ds₂ token h₂ => ?_
  have hcommits : StagePermits ds₂ (.db (.restoreCommit run.ckpt.checkpointId run.attemptId
      run.targetNode token run.options.migration run.options.rollback)) := by
    rintro kind key state (⟨rfl, rfl, rfl⟩ | ⟨-, rfl, rfl, rfl⟩)
    · exact ⟨by decide, by rintro _ ⟨⟩; exact h.mono (h₁.trans h₂)⟩
    · exact ⟨by decide, by rintro _ ⟨⟩⟩
  refine obeys_call_bind herror hcommits fun u => ?_
  have hcommitted : Shown (⟨.db (.restoreCommit run.ckpt.checkpointId run.attemptId run.targetNode
      token run.options.migration run.options.rollback), .ok u⟩ :: ds₂) .restore run.attemptId
      .generationCommitted := .inl ⟨_, u, .inl ⟨rfl, rfl, rfl⟩, .head _⟩
  refine (obeys_of_silent ?_).weaken fun _ _ h₃ _ _ => hcommitted.mono h₃
  refine Uses.bind (uses_db trivial) fun w => Uses.bind uses_okOr fun _ => ?_
  exact Uses.bind (uses_call.mpr trivial) fun _ => trivial

theorem obeys_finishRestore_stages {token : FenceToken} {w : Workload}
    (h : Shown ds .restore run.attemptId .generationCommitted) :
    Obeys StagePermits (fun _ _ => True) ds (finishRestore run token w) := by
  have herror : ∀ (ds : List FabricDeed) (e : FabricError), (fun _ _ => True :
      List FabricDeed → FabricResult OperationOutcome → Prop) ds (.error e) := fun _ _ => trivial
  unfold finishRestore
  refine obeys_silent_bind (uses_callNode (fun _ => silent_of_reads) trivial).attempt herror
    fun ds₁ answer h₁ => ?_
  refine obeys_journal_bind (by decide) (by rintro _ ⟨⟩; exact h.mono h₁) herror fun ds₂ _ _ => ?_
  refine (obeys_of_silent ?_).weaken fun _ _ _ => trivial
  refine Uses.bind (uses_db trivial) fun _ => Uses.bind (uses_db trivial) fun _ => ?_
  exact Uses.bind (uses_call.mpr trivial) fun _ => trivial

theorem obeys_executeRestore_stages (h : Shown ds .restore run.attemptId .reserved) :
    Obeys StagePermits (fun _ _ => True) ds (executeRestore settings run) := by
  have herror : ∀ (ds : List FabricDeed) (e : FabricError), (fun _ _ => True :
      List FabricDeed → FabricResult OperationOutcome → Prop) ds (.error e) := fun _ _ => trivial
  unfold executeRestore
  refine Obeys.bind herror (obeys_provisionRestore_stages h) fun ds₁ _ h₁ => ?_
  refine Obeys.bind herror (obeys_applyRestore_stages h₁) fun ds₂ _ h₂ => ?_
  refine Obeys.bind herror (obeys_commitRestore_stages h₂) fun ds₃ committed h₃ => ?_
  exact obeys_finishRestore_stages h₃

theorem uses_abortRestoreAttempt_silent {detail : String} :
    Uses Silent (abortRestoreAttempt run detail) :=
  uses_abortRestoreAttempt (fun _ => silent_of_reads) trivial (fun _ _ _ _ => trivial) trivial
    fun _ => trivial

/-- A restore journals its stages in order. -/
theorem obeys_requestRestore_stages {checkpointId : Id} {targetNode : NodeId}
    {options : RestoreOptions} {ctx : OperationContext} :
    Obeys StagePermits (fun _ _ => True) ds
      (requestRestore settings checkpointId targetNode options ctx) := by
  have herror : ∀ (ds : List FabricDeed) (e : FabricError), (fun _ _ => True :
      List FabricDeed → FabricResult OperationOutcome → Prop) ds (.error e) := fun _ _ => trivial
  unfold requestRestore
  refine obeys_silent_bind (uses_admitRestore.mono fun _ => silent_of_reads) herror
    fun ds₁ run _ => ?_
  have hreserve : Obeys StagePermits
      (fun ds' result => ∀ u, result = .ok u → Shown ds' .restore run.attemptId .reserved) ds₁
      (reserveRestore run checkpointId) := by
    have herror : ∀ (ds : List FabricDeed) (e : FabricError), ∀ a : Unit,
        Except.error e = Except.ok a → Shown ds .restore run.attemptId .reserved :=
      fun _ _ _ h => nomatch h
    unfold reserveRestore
    refine obeys_silent_bind (uses_db trivial) herror fun ds₂ _ _ => ?_
    refine obeys_silent_bind (uses_db trivial) herror fun ds₃ _ _ => ?_
    exact (obeys_journal (by decide) (by rintro _ ⟨⟩)).weaken fun _ _ h => h.2
  refine Obeys.bind herror hreserve fun ds₂ _ h₂ => ?_
  exact obeys_mapErr_of_silent (obeys_executeRestore_stages h₂)
    fun _ => uses_abortRestoreAttempt_silent

end Restore

section Requests

variable {settings : Settings} {ds : List FabricDeed}

theorem obeys_migrate_stages {depth : ℕ} {checkpointId : Id} {targetNode : NodeId}
    {ctx : OperationContext} :
    Obeys StagePermits (fun _ _ => True) ds
      (Coordinator.migrate settings depth checkpointId targetNode ctx) := by
  have herror : ∀ (ds : List FabricDeed) (e : FabricError), (fun _ _ => True :
      List FabricDeed → FabricResult OperationOutcome → Prop) ds (.error e) := fun _ _ => trivial
  induction depth generalizing checkpointId ds with
  | zero => trivial
  | succ depth ih =>
    unfold Coordinator.migrate
    refine obeys_silent_bind (uses_ofExcept.mpr trivial) herror fun _ _ _ => ?_
    refine obeys_silent_bind (uses_requireCheckpoint fun _ => silent_of_reads) herror
      fun _ ckpt _ => ?_
    refine obeys_silent_bind (uses_requireWorkload fun _ => silent_of_reads) herror
      fun _ workload _ => ?_
    refine obeys_silent_bind (uses_ofExcept.mpr trivial) herror fun _ _ _ => ?_
    refine obeys_ite (fun _ => ?_) fun _ => obeys_requestRestore_stages
    refine obeys_silent_bind (uses_nodeIsActive fun _ => silent_of_reads) herror
      fun _ active _ => ?_
    refine obeys_silent_bind (uses_ensure.mpr trivial) herror fun _ _ _ => ?_
    refine Obeys.bind herror (obeys_requestCapture_stages.weaken fun _ _ _ _ _ => trivial)
      fun _ captured (_ : True) => ?_
    exact obeys_silent_bind uses_okOr herror fun _ newId _ => ih

/-- Recovery journals nothing but the commit of a capture that it found persisted. -/
theorem stagePermits_of_recoveryPermits {op : Op} (h : RecoveryPermits ds op) :
    StagePermits ds op := by
  cases op with
  | db op =>
    cases op with
    | captureCommit id attemptId =>
      obtain hreads | ⟨a, -, -, -, -, hpersisted, -⟩ := h
      · exact absurd hreads not_false
      · rintro kind key state ⟨rfl, rfl, rfl⟩
        exact ⟨by decide, by rintro _ ⟨⟩; exact .inr hpersisted⟩
    | journalAppend | restoreCommit =>
      obtain hreads | hwrites := h
      · exact absurd hreads not_false
      · exact absurd hwrites not_false
    | _ => exact stagePermits_of_silent trivial
  | _ => trivial

/-- The thread of a request journals the stages of its attempts in order. -/
theorem obeys_serve_stages (request : Request) :
    Obeys StagePermits (fun _ _ => True) [] (request.serve settings) := by
  cases request with
  | capture => exact obeys_answer obeys_requestCapture_stages
  | restore => exact obeys_answer obeys_requestRestore_stages
  | rollback checkpointId node ctx =>
    have hrollback : Obeys StagePermits (fun _ _ => True) []
        (requestRollback settings checkpointId node ctx) :=
      obeys_silent_bind (uses_ofExcept.mpr trivial) (fun _ _ => trivial)
        fun _ _ _ => obeys_requestRestore_stages
    exact obeys_answer hrollback
  | migrate => exact obeys_answer obeys_migrate_stages
  | recovery ctx =>
    exact (obeys_serve (.recovery ctx)).mono (fun _ _ => stagePermits_of_recoveryPermits)
      fun _ _ => id
  | _ =>
    refine (obeys_serve _).mono (fun ds op h => ?_) fun _ _ => id
    cases op with
    | db op =>
      cases op with
      | journalAppend | captureCommit | restoreCommit =>
        simp [Request.Permits, Forks, Rebinds, MonitorWrites, Op.Reads, StoreOp.Reads] at h
      | _ => exact stagePermits_of_silent trivial
    | _ => trivial

end Requests

end Coordinator

end CheckpointFabric
