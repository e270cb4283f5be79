import CheckpointFabric.Properties.Attempts
import CheckpointFabric.Properties.Captures
import CheckpointFabric.Properties.Fencing
import CheckpointFabric.Properties.Records
import CheckpointFabric.Steps.Committed

/-!
# The outcome of a restore

Whoever is answered a restore, a rollback or a migration gets an outcome that is true of the run:
the generation was committed by the thread that answers, what is reported of the workload was in
its row after that, and the workload is reported as resumed exactly when its node has said so. A
migration may have replaced the checkpoint by one that it captured itself.

## Main definitions

* `RestoreRun.Reports` — what a restore that comes back has done, by its own deeds
* `Replaced` — the captures by which a migration has come to the checkpoint that it restores
* `RestoreAnswered` — what has happened in the run

## Main results

* `restores_answered` — every outcome of a restore is true
-/

set_option autoImplicit false

namespace CheckpointFabric

open Concurrency Coordinator Fabric System

section Grants

variable {settings : Settings} {workloadId : Id} {ds ds' : List FabricDeed} {op : Op}

/-- The operation does not ask a node to resume what a restore has brought. -/
def Op.Ungranting : Op → Prop
  | .call _ (.resume req) => ∀ id nonce, req.attemptId ≠ .restore id nonce
  | _ => True

/-- No node was asked to resume what a restore has brought. -/
def Ungranted (ds : List FabricDeed) : Prop := ∀ d ∈ ds, d.op.Ungranting

theorem ungranting_of_reads (h : op.Reads) : op.Ungranting := by
  cases op with
  | call => exact absurd h not_false
  | _ => trivial

theorem ungranting_of_brings (h : op.Brings) : op.Ungranting := by
  unfold Op.Brings at h
  split at h <;> first | trivial | exact ungranting_of_reads h

theorem ungranting_of_capturePermits {capture : CaptureOptions}
    (h : CapturePermits settings workloadId capture ds op) : op.Ungranting := by
  obtain hreads | ⟨run, hdoes⟩ := h
  · exact ungranting_of_reads hreads
  cases op with
  | call node request =>
    cases request with
    | resume req =>
      intro id nonce hkey
      obtain ⟨nonce', ds₀, hdrawn⟩ := hdoes.admitted.drawn
      have hattempt : req.attemptId = run.attemptId := hdoes.performs.1
      rw [hkey, hdrawn.attemptId] at hattempt
      cases hattempt
    | _ => trivial
  | _ => trivial

theorem Ungranted.keeps {α : Type} {p : Fabric α} (hds : Ungranted ds)
    (huses : Uses Op.Ungranting p) : Obeys (fun _ _ => True) (fun ds' _ => Ungranted ds') ds p :=
  Obeys.of_uses huses
    (fun _ _ hop h => ⟨trivial, fun _ => List.forall_mem_cons.mpr ⟨hop, h⟩⟩) hds

end Grants

namespace Coordinator

section Deeds

variable {settings : Settings} {checkpointId workloadId : Id} {targetNode : NodeId}
  {options : RestoreOptions} {ctx : OperationContext} {ds ds' older : List FabricDeed}
  {outcome : OperationOutcome} {run : RestoreRun} {token : FenceToken} {w : Workload}

theorem RestoreChecked.mono (h : RestoreChecked settings checkpointId targetNode options ds run)
    (hsuffix : ds <:+ ds') :
    RestoreChecked settings checkpointId targetNode options ds' run := by
  obtain ⟨workload, hread, hclaim⟩ := h.claim
  exact { h with
    read := hsuffix.subset h.read
    claim := ⟨workload, hsuffix.subset hread, hclaim⟩ }

/-- The node was asked to resume the workload, under this token and this epoch, and has said that
it did. -/
def Acknowledged (ds : List FabricDeed) (node : NodeId) (key : AttemptId) (id workloadId : Id)
    (token : FenceToken) (epoch : ℕ) (resume : Bool) : Prop :=
  resume = true ∧ ∃ reply : NodeResumeResult, reply.ok = true ∧
    ⟨.call node (grantResume key id workloadId (some token) epoch resume), .ok reply⟩ ∈ ds

/-- The node of a restore has said that it resumed. -/
abbrev RestoreRun.Acknowledged (run : RestoreRun) (ds : List FabricDeed) (token : FenceToken)
    (epoch : ℕ) : Prop :=
  Coordinator.Acknowledged ds run.targetNode run.attemptId run.ckpt.checkpointId
    run.ckpt.workloadId token epoch run.options.resume

/-- What a restore that comes back with an outcome has done: it has committed with this token, has
then read this row of the workload, and reports it. -/
structure RestoreRun.Reports (run : RestoreRun) (ds : List FabricDeed) (outcome : OperationOutcome)
    (token : FenceToken) (w : Workload) (older : List FabricDeed) : Prop where
  read : ⟨.db (.workloadGet run.ckpt.workloadId), .ok (some w)⟩ :: older <:+ ds
  committed : ∃ d ∈ older, run.Commits token d
  chosen : ∀ given, run.options.targetFenceToken = some given → token = given
  attempt : outcome.attemptId = run.attemptId
  checkpoint : outcome.checkpointId = some run.ckpt.checkpointId
  workload : outcome.workloadId = some run.ckpt.workloadId
  node : outcome.node = some run.targetNode
  generation : outcome.workloadGeneration = some w.workloadGeneration
  epoch : outcome.executionEpoch = some w.executionEpoch
  state : outcome.state = "RESTORED" ∧ run.Acknowledged ds token w.executionEpoch ∨
    outcome.state = "RESTORED_NO_RESUME" ∧ ¬ run.Acknowledged ds token w.executionEpoch

/-- What is said of an outcome says nothing of an error. -/
theorem ok_of_error {α : Type} {P : List FabricDeed → α → Prop} (ds : List FabricDeed)
    (e : FabricError) : ∀ a, Except.error e = Except.ok a → P ds a :=
  fun _ h => nomatch h

/-- The token of the caller, or a fresh one. -/
theorem obeys_restoreToken :
    Obeys (fun _ _ => True)
      (fun ds' result => ds <:+ ds' ∧ ∀ token, result = .ok token →
        ∀ given, run.options.targetFenceToken = some given → token = given)
      ds (restoreToken run) := by
  unfold restoreToken
  cases run.options.targetFenceToken with
  | some given =>
    refine ⟨List.suffix_refl _, fun token htoken given' hgiven => ?_⟩
    exact (Except.ok.inj htoken).symm.trans (Option.some.inj hgiven)
  | none => exact ⟨trivial, fun _ => ⟨List.suffix_cons _ _, fun _ _ _ h => nomatch h⟩⟩

/-- A commit that comes back is the newest deed but for the read of the workload and a failpoint. -/
theorem obeys_commitRestore_read :
    Obeys (fun _ _ => True)
      (fun ds' result => ∀ committed, result = .ok committed → ∃ older,
        ⟨.db (.workloadGet run.ckpt.workloadId), .ok (some committed.2)⟩ :: older <:+ ds' ∧
        (∃ d ∈ older, run.Commits committed.1 d) ∧
        ∀ given, run.options.targetFenceToken = some given → committed.1 = given)
      ds (commitRestore run) := by
  unfold commitRestore
  refine obeys_call_bind ok_of_error trivial fun _ => ?_
  refine Obeys.bind ok_of_error (obeys_restoreToken.weaken fun _ _ h => h.2)
    fun ds₁ token htoken => ?_
  refine obeys_call_bind ok_of_error trivial fun _ => ?_
  refine obeys_call_bind ok_of_error trivial fun row => ?_
  refine obeys_okOr_bind ok_of_error fun w hw => ?_
  subst hw
  refine obeys_call_bind ok_of_error trivial fun _ => ?_
  rintro _ ⟨⟩
  exact ⟨_, List.suffix_cons _ _, ⟨_, .head _, rfl⟩, htoken⟩

theorem acknowledged_cons {d : FabricDeed} {epoch : ℕ}
    (hkey : ∃ id nonce, run.attemptId = .restore id nonce) (hd : d.op.Ungranting) :
    run.Acknowledged (d :: ds) token epoch ↔ run.Acknowledged ds token epoch := by
  obtain ⟨id, nonce, hkey⟩ := hkey
  refine and_congr_right fun _ => exists_congr fun reply => and_congr_right fun _ => ?_
  rw [List.mem_cons, or_iff_right]
  rintro rfl
  exact hd id nonce hkey

/-- A restore asks its node once whether it resumes, and goes by the answer. -/
theorem acknowledged_iff {answer : FabricResult NodeResumeResult}
    (hkey : ∃ id nonce, run.attemptId = .restore id nonce) (hds : Ungranted ds)
    (hasked : (∃ nodes, ds' = ⟨.call run.targetNode (grantResume run.attemptId
        run.ckpt.checkpointId run.ckpt.workloadId (some token) w.executionEpoch
        run.options.resume), answer⟩ :: ⟨.db .nodeList, nodes⟩ :: ds) ∨
      ∃ nodes e, ds' = ⟨.db .nodeList, nodes⟩ :: ds ∧ answer = .error e) :
    run.Acknowledged ds' token w.executionEpoch ↔ resumedBy run answer = true := by
  -- Before this the node was not asked, so the answer is the only one there is.
  have hnot : ¬ run.Acknowledged ds token w.executionEpoch := by
    rintro ⟨-, reply, -, hmem⟩
    obtain ⟨id, nonce, hkey⟩ := hkey
    exact hds _ hmem id nonce hkey
  rcases hasked with ⟨nodes, rfl⟩ | ⟨nodes, e, rfl, rfl⟩
  · constructor
    · rintro ⟨hresume, reply, hok, hmem⟩
      rcases List.mem_cons.mp hmem with heq | hmem
      · obtain ⟨-, hanswer⟩ := Deed.mk.inj heq
        obtain rfl := eq_of_heq hanswer
        exact Bool.and_eq_true_iff.mpr ⟨hresume, hok⟩
      · refine absurd ⟨hresume, reply, hok, ?_⟩ hnot
        exact (List.mem_cons.mp hmem).resolve_left fun heq => by cases heq
    · intro hresumed
      cases answer with
      | error e => cases hresumed
      | ok reply =>
        obtain ⟨hresume, hok⟩ := Bool.and_eq_true_iff.mp hresumed
        exact ⟨hresume, reply, hok, .head _⟩
  · refine iff_of_false (fun h => hnot ?_) Bool.false_ne_true
    rwa [acknowledged_cons hkey] at h
    exact trivial

/-- What a restore does after its commit, and what it reports. -/
theorem obeys_finishRestore_reports (hkey : ∃ id nonce, run.attemptId = .restore id nonce)
    (hds : Ungranted ds)
    (hread : ⟨.db (.workloadGet run.ckpt.workloadId), .ok (some w)⟩ :: older <:+ ds)
    (hcommitted : ∃ d ∈ older, run.Commits token d)
    (hchosen : ∀ given, run.options.targetFenceToken = some given → token = given) :
    Obeys (fun _ _ => True)
      (fun ds' result => ∀ outcome, result = .ok outcome → run.Reports ds' outcome token w older)
      ds (finishRestore run token w) := by
  unfold finishRestore
  refine Obeys.attempt_bind (obeys_callNode_ended run.targetNode (grantResume run.attemptId
    run.ckpt.checkpointId run.ckpt.workloadId (some token) w.executionEpoch run.options.resume))
    fun ds₁ answer hasked => ?_
  refine obeys_call_bind ok_of_error trivial fun _ => ?_
  refine obeys_call_bind ok_of_error trivial fun _ => ?_
  refine obeys_call_bind ok_of_error trivial fun _ => ?_
  refine obeys_call_bind ok_of_error trivial fun _ => ?_
  intro outcome houtcome
  obtain rfl := Except.ok.inj houtcome
  have hsuffix : ds <:+ ds₁ := by
    rcases hasked with ⟨nodes, rfl⟩ | ⟨nodes, e, rfl, -⟩
    · exact (List.suffix_cons _ ds).trans (List.suffix_cons _ _)
    · exact List.suffix_cons _ ds
  have hacknowledged := acknowledged_iff hkey hds
    (hasked.imp id fun ⟨nodes, e, h, hanswer, _⟩ => ⟨nodes, e, h, hanswer⟩)
  exact
    { read := (hread.trans hsuffix).trans (List.suffix_append [_, _, _, _] ds₁)
      committed := hcommitted
      chosen := hchosen
      attempt := rfl
      checkpoint := rfl
      workload := rfl
      node := rfl
      generation := rfl
      epoch := rfl
      state := by
        rw [acknowledged_cons hkey, acknowledged_cons hkey, acknowledged_cons hkey,
          acknowledged_cons hkey, hacknowledged]
        · cases resumedBy run answer <;> simp
        all_goals exact trivial }

/-- A restore that comes back has run to its end. -/
theorem obeys_executeRestore_reports (hkey : ∃ id nonce, run.attemptId = .restore id nonce)
    (hds : Ungranted ds) :
    Obeys (fun _ _ => True)
      (fun ds' result => ∀ outcome, result = .ok outcome →
        ∃ token w older, run.Reports ds' outcome token w older)
      ds (executeRestore settings run) := by
  unfold executeRestore
  -- Nothing up to the commit asks the node to resume.
  refine Obeys.bind ok_of_error ((hds.keeps (uses_provisionRestore_brings.mono fun _ =>
    ungranting_of_brings)).weaken fun _ _ h _ _ => h) fun ds₁ _ hds₁ => ?_
  refine Obeys.bind ok_of_error ((hds₁.keeps (uses_applyRestore_brings.mono fun _ =>
    ungranting_of_brings)).weaken fun _ _ h _ _ => h) fun ds₂ _ hds₂ => ?_
  refine Obeys.bind ok_of_error (((hds₂.keeps (uses_commitRestore_brings.mono fun _ =>
    ungranting_of_brings)).and obeys_commitRestore_read).mono (fun _ _ _ => trivial)
    fun _ _ h committed hcommitted => And.intro h.1 (h.2 committed hcommitted))
    fun ds₃ committed h => ?_
  obtain ⟨hds₃, older, hread, hcommitted, hchosen⟩ := h
  exact (obeys_finishRestore_reports hkey hds₃ hread hcommitted hchosen).weaken
    fun ds' _ h outcome houtcome => ⟨committed.1, committed.2, older, h outcome houtcome⟩

theorem obeys_requestRestore_outcome (hds : Ungranted ds) :
    Obeys (fun _ _ => True)
      (fun ds' result => ∀ outcome, result = .ok outcome → ∃ run token w older,
        RestoreChecked settings checkpointId targetNode options ds' run ∧
          run.Reports ds' outcome token w older)
      ds (requestRestore settings checkpointId targetNode options ctx) := by
  have hreserve (run : RestoreRun) : Uses Op.Ungranting (reserveRestore run checkpointId) :=
    Uses.bind (uses_db trivial) fun _ => Uses.bind (uses_db trivial) fun _ => uses_db trivial
  unfold requestRestore
  refine Obeys.bind ok_of_error (((hds.keeps (uses_admitRestore.mono fun _ =>
    ungranting_of_reads)).and (obeys_admitRestore_checked fun _ _ _ => trivial)).mono
    (fun _ _ _ => trivial) fun _ _ h run hrun => And.intro h.1 (h.2 run hrun)) fun ds₁ run h => ?_
  obtain ⟨hds₁, hchecked, nonce, -, hid, -⟩ := h
  refine Obeys.bind ok_of_error ((hds₁.keeps (hreserve run)).extends.weaken fun _ _ h _ _ => h)
    fun ds₂ _ h₂ => ?_
  refine obeys_mapErr (obeys_executeRestore_reports ⟨_, nonce, hid⟩ h₂.2).extends ?_
    (fun _ _ _ _ _ h => nomatch h) fun _ _ _ _ =>
      (Obeys.extend (Uses.of_true _) fun _ _ _ _ => trivial).weaken fun _ _ _ _ h => nomatch h
  rintro ds₃ outcome ⟨hds₃, hreports⟩ _ ⟨⟩
  obtain ⟨token, w, older, hreports⟩ := hreports outcome rfl
  exact ⟨run, token, w, older, hchecked.mono (h₂.1.trans hds₃), hreports⟩

theorem returns_finishCapture {capture : CaptureRun} {c : CheckpointObject} :
    Returns (fun outcome : OperationOutcome => outcome.checkpointId = some capture.checkpointId)
      (finishCapture settings capture c) := by
  unfold finishCapture
  refine Returns.bind fun answer => ?_
  split
  · exact Returns.bind fun _ => returns_fail
  · refine Returns.bind fun _ => Returns.bind fun _ => Returns.bind fun _ => ?_
    exact Returns.bind fun _ => Returns.bind fun _ => returns_pure rfl

/-- A capture that comes back with a checkpoint has committed it. -/
theorem obeys_executeCapture_commits {capture : CaptureRun} :
    Obeys (fun _ _ => True)
      (fun ds' result => ∀ outcome : OperationOutcome, result = .ok outcome →
        outcome.checkpointId = some capture.checkpointId ∧
        ⟨.db (.captureCommit capture.checkpointId capture.attemptId), .ok ()⟩ ∈ ds')
      ds (executeCapture settings capture) := by
  unfold executeCapture
  refine obeys_uses_bind ok_of_error (Uses.of_true _) (fun _ _ _ _ => trivial) fun ds₁ c _ => ?_
  refine obeys_uses_bind ok_of_error (Uses.of_true _) (fun _ _ _ _ => trivial)
    fun ds₂ sealed _ => ?_
  obtain ⟨c, manifest⟩ := sealed
  refine obeys_uses_bind ok_of_error (Uses.of_true _) (fun _ _ _ _ => trivial) fun ds₃ _ _ => ?_
  refine obeys_call_bind ok_of_error trivial fun _ => ?_
  refine obeys_call_bind ok_of_error trivial fun _ => ?_
  refine ((Obeys.extend (Uses.of_true _) fun _ _ _ _ => trivial).and_returns
    returns_finishCapture).weaken fun ds' result h outcome houtcome => ?_
  exact ⟨h.2 outcome houtcome, h.1.subset (.head _)⟩

theorem obeys_requestCapture_commits {capture : CaptureOptions} :
    Obeys (fun _ _ => True)
      (fun ds' result => ∀ outcome : OperationOutcome, result = .ok outcome →
        ∀ id, outcome.checkpointId = some id →
          ∃ nonce, ⟨.db (.captureCommit id (.capture workloadId nonce)), .ok ()⟩ ∈ ds')
      ds (requestCapture settings workloadId capture ctx) := by
  unfold requestCapture
  refine Obeys.bind ok_of_error (obeys_admitCapture fun _ _ _ => trivial) fun ds₁ run hrun => ?_
  obtain ⟨nonce, ds₀, hdrawn⟩ := hrun.1.drawn
  refine obeys_uses_bind ok_of_error (Uses.of_true _) (fun _ _ _ _ => trivial) fun ds₂ _ _ => ?_
  refine obeys_mapErr obeys_executeCapture_commits ?_ (fun _ _ _ _ _ h => nomatch h)
    fun _ _ _ _ => (Obeys.extend (Uses.of_true _) fun _ _ _ _ => trivial).weaken
      fun _ _ _ _ h => nomatch h
  rintro ds₃ outcome h _ ⟨⟩ id hid
  obtain ⟨hcheckpoint, hcommit⟩ := h outcome rfl
  obtain rfl := Option.some.inj (hcheckpoint.symm.trans hid)
  exact ⟨nonce, hdrawn.attemptId ▸ hcommit⟩

/-- A migration has come from the first checkpoint to the second: it has replaced each on the way
by one that it captured of the same workload. -/
inductive Replaced (ds : List FabricDeed) : Id → Id → Prop
  | refl (id : Id) : Replaced ds id id
  | step {id id' final nonce : Id} {c : CheckpointObject} {w : Workload} :
    ⟨.db (.checkpointGet id), .ok (some c)⟩ ∈ ds →
    ⟨.db (.workloadGet c.workloadId), .ok (some w)⟩ ∈ ds →
    ⟨.db (.captureCommit id' (.capture w.workloadId nonce)), .ok ()⟩ ∈ ds →
    Replaced ds id' final → Replaced ds id final

/-- A migration restores a checkpoint at last. -/
theorem obeys_migrate_outcome {depth : ℕ} (hds : Ungranted ds) :
    Obeys (fun _ _ => True)
      (fun ds' result => ∀ outcome, result = .ok outcome → ∃ final run token w older,
        Replaced ds' checkpointId final ∧
          RestoreChecked settings final targetNode { migration := true } ds' run ∧
          run.Reports ds' outcome token w older)
      ds (Coordinator.migrate settings depth checkpointId targetNode ctx) := by
  induction depth generalizing checkpointId ds with
  | zero => exact fun _ h => nomatch h
  | succ depth ih =>
    unfold Coordinator.migrate
    refine obeys_ofExcept_bind ok_of_error fun _ _ => ?_
    refine Obeys.bind ok_of_error (obeys_requireCheckpoint trivial) fun ds₁ c hc => ?_
    refine Obeys.bind ok_of_error (obeys_requireWorkload trivial) fun ds₂ w hw => ?_
    subst hc hw
    refine obeys_ofExcept_bind ok_of_error fun _ _ => ?_
    have hds₂ : Ungranted (⟨.db (.workloadGet c.workloadId), .ok (some w)⟩ ::
        ⟨.db (.checkpointGet checkpointId), .ok (some c)⟩ :: ds) :=
      List.forall_mem_cons.mpr ⟨trivial, List.forall_mem_cons.mpr ⟨trivial, hds⟩⟩
    -- It captures the workload anew and goes on with that checkpoint, or it restores this one.
    refine obeys_ite (fun _ => ?_) fun _ => ?_
    · refine Obeys.bind ok_of_error ((hds₂.keeps (uses_nodeIsActive fun _ =>
        ungranting_of_reads)).extends.weaken fun _ _ h _ _ => h) fun ds₃ active h₃ => ?_
      refine obeys_ensure_bind ok_of_error fun _ => ?_
      have hpermits : Obeys (CapturePermits settings w.workloadId { quiescence := .none })
          (fun _ _ => True) ds₃ (requestCapture settings w.workloadId { quiescence := .none } ctx) :=
        obeys_requestCapture
      have hcapture := h₃.2.keeps
        (hpermits.mono (fun _ _ => ungranting_of_capturePermits) fun _ _ => id).uses
      refine Obeys.bind ok_of_error ((hcapture.and obeys_requestCapture_commits).extends.mono
        (fun _ _ _ => trivial) fun _ _ h captured hcaptured =>
          And.intro h.1 (And.intro h.2.1 (h.2.2 captured hcaptured))) fun ds₄ captured h₄ => ?_
      refine obeys_okOr_bind ok_of_error fun id hid => ?_
      obtain ⟨hds₄, hungranted, hcommits⟩ := h₄
      obtain ⟨nonce, hcommit⟩ := hcommits id hid
      refine (ih hungranted).extends.weaken fun ds' result h outcome houtcome => ?_
      obtain ⟨final, run, token, row, older, hreplaced, hrest⟩ := h.2 outcome houtcome
      have hsubset := (h₃.1.trans (hds₄.trans h.1)).subset
      exact ⟨final, run, token, row, older, .step (hsubset (.tail _ (.head _)))
        (hsubset (.head _)) (h.1.subset hcommit) hreplaced, hrest⟩
    · refine (obeys_requestRestore_outcome hds₂).weaken fun ds' result h outcome houtcome => ?_
      obtain ⟨run, token, row, older, hrest⟩ := h outcome houtcome
      exact ⟨checkpointId, run, token, row, older, .refl _, hrest⟩

end Deeds

end Coordinator

section Requests

variable {settings : Settings} {request : Request}

/-- The checkpoint that a request asks to restore, and the node it asks to restore it on. -/
def Request.asksRestore : Request → Option (Id × NodeId)
  | restore id node _ _ | rollback id node _ | migrate _ id node _ => some (id, node)
  | _ => none

/-- Only a migration may replace the checkpoint it is asked for. -/
def Request.Migrates : Request → Prop
  | migrate _ _ _ _ => True
  | _ => False

/-- A request that is answered an outcome of a restore has run that restore. -/
theorem obeys_serve_outcome (request : Request) :
    Obeys (fun _ _ => True)
      (fun ds' result => ∀ id node outcome, request.asksRestore = some (id, node) →
        result = .ok (.outcome outcome) → ∃ final run token w older,
          (final = id ∨ request.Migrates ∧ Replaced ds' id final) ∧
          RestoreChecked settings final node request.restoreOptions ds' run ∧
          run.Reports ds' outcome token w older)
      [] (request.serve settings) := by
  have hungranted : Ungranted [] := fun _ h => absurd h List.not_mem_nil
  have herror : ∀ (ds : List FabricDeed) (e : FabricError), ∀ id node outcome,
      request.asksRestore = some (id, node) → Except.error e = Except.ok (Response.outcome outcome) →
        ∃ final run token w older, (final = id ∨ request.Migrates ∧ Replaced ds id final) ∧
          RestoreChecked settings final node request.restoreOptions ds run ∧
          run.Reports ds outcome token w older :=
    fun _ _ _ _ _ _ h => nomatch h
  cases request with
  | restore id node options ctx =>
    refine Obeys.bind herror (obeys_requestRestore_outcome hungranted) fun ds' outcome h => ?_
    rintro _ _ _ ⟨⟩ ⟨⟩
    exact ⟨id, h.imp fun run h => h.imp fun token h => h.imp fun w h => h.imp fun older h =>
      ⟨.inl rfl, h⟩⟩
  | rollback id node ctx =>
    refine Obeys.bind herror (obeys_ofExcept_bind (fun _ _ _ h => nomatch h) fun _ _ =>
      obeys_requestRestore_outcome hungranted) fun ds' outcome h => ?_
    rintro _ _ _ ⟨⟩ ⟨⟩
    exact ⟨id, h.imp fun run h => h.imp fun token h => h.imp fun w h => h.imp fun older h =>
      ⟨.inl rfl, h⟩⟩
  | migrate depth id node ctx =>
    refine Obeys.bind herror (obeys_migrate_outcome hungranted) fun ds' outcome h => ?_
    rintro _ _ _ ⟨⟩ ⟨⟩
    exact h.imp fun final h => h.imp fun run h => h.imp fun token h => h.imp fun w h =>
      h.imp fun older h => ⟨.inr ⟨trivial, h.1⟩, h.2⟩
  | _ =>
    exact (Obeys.extend (Uses.of_true _) fun _ _ _ _ => trivial).weaken
      fun _ _ _ _ _ _ hasks => nomatch hasks

end Requests

section Runs

variable {settings : Settings} {t : List (Event (fabric settings))} {tid : ℕ} {id final : Id}

/-- A checkpoint that was captured of a workload is one of that workload. -/
theorem workloadId_of_captured {workloadId nonce : Id} (h : Run t)
    (hd : (⟨.db (.captureCommit id (.capture workloadId nonce)), .ok ()⟩ : FabricDeed) ∈
      deeds tid t) :
    ∃ c, (stateOf t).checkpoint id = some c ∧ c.workloadId = workloadId := by
  obtain ⟨e, past, hsuffix, hcalls⟩ := exists_calls_of_mem h hd
  have hrun := h.of_suffix hsuffix
  obtain ⟨c, owner, hcommit⟩ := Store.captureCommit_ok (StoreOp.of_map_ok hcalls.run)
  have hc : (stateOf past).checkpoint id = some c := hcommit.found
  have hattempt := captureAttempt_of_calls hrun hcalls hc
  obtain ⟨tid', run, hcaptures, hdescribes⟩ := described_of_run hrun.tail hc
  -- The row read by the capture is that of the workload its attempt is of.
  obtain ⟨workloadId', nonce', ds₀, hdrawn⟩ := hcaptures.drawn
  rw [hdescribes.captureAttempt, hdrawn.attemptId] at hattempt
  obtain ⟨rfl, rfl⟩ := AttemptId.capture.inj hattempt
  obtain ⟨t₁, -, -, hrow⟩ := workload_of_read hrun.tail
    ((hdrawn.nonce_suffix.subset (.tail _ hdrawn.read_mem)))
  obtain ⟨c', hc', hsame⟩ := checkpoint_of_suffix h (suffix_of_cons hsuffix) hc
  exact ⟨c', hc', hsame.trans (hdescribes.workloadId.trans (World.workloadId_of_row hrow))⟩

/-- What a migration has come to is a checkpoint of the same workload, captured by the thread that
migrates. -/
theorem captured_of_replaced (h : Run t) (hreplaced : Replaced (deeds tid t) id final) :
    final = id ∨ (∃ key, (⟨.db (.captureCommit final key), .ok ()⟩ : FabricDeed) ∈ deeds tid t) ∧
      ∃ c c', (stateOf t).checkpoint id = some c ∧ (stateOf t).checkpoint final = some c' ∧
        c.workloadId = c'.workloadId := by
  induction hreplaced with
  | refl id => exact .inl rfl
  | @step id id' final nonce c w hc hw hcommit hreplaced ih =>
    right
    obtain ⟨t₁, hsuffix, -, row, hrow, rfl⟩ := checkpoint_of_read h hc
    obtain ⟨t₂, -, -, hworkload⟩ := workload_of_read h hw
    obtain ⟨c₀, hc₀, howner⟩ := checkpoint_of_suffix h hsuffix hrow
    obtain ⟨c₁, hc₁, howner₁⟩ := workloadId_of_captured h hcommit
    have hsame : c₀.workloadId = c₁.workloadId := by
      rw [howner, howner₁, World.workloadId_of_row hworkload]
      rfl
    rcases ih with rfl | ⟨hcaptured, c, c', hc, hc', hsame'⟩
    · exact ⟨⟨_, hcommit⟩, c₀, c₁, hc₀, hc₁, hsame⟩
    · obtain rfl := Option.some.inj (hc₁.symm.trans hc)
      exact ⟨hcaptured, c₀, c', hc₀, hc', hsame.trans hsame'⟩

/-- What has happened in a run that answers a restore of the checkpoint `id` onto a node: the
thread has committed the generation of the workload `w`, of which `c` is a checkpoint, and has later
read the row `r` that it reports. -/
structure RestoreAnswered (t : List (Event (fabric settings))) (tid : ℕ) (id : Id) (node : NodeId)
    (options : RestoreOptions) (outcome : OperationOutcome) (token : FenceToken)
    (c : CheckpointObject) (w r : Workload) : Prop where
  committed : ∃ e past later, e :: past <:+ later ∧ later <:+ t ∧
    Calls e past tid (.restoreCommit id outcome.attemptId node token options.migration
      options.rollback) () ∧
    (stateOf past).store.RestoreCommitted id outcome.attemptId node token options.migration
      (after e).store c w ∧
    (stateOf later).workload c.workloadId = some r
  generation_lt : w.workloadGeneration < r.workloadGeneration
  epoch_lt : w.executionEpoch < r.executionEpoch
  chosen : ∀ given, options.targetFenceToken = some given → token = given
  checkpoint : outcome.checkpointId = some id
  workload : outcome.workloadId = some c.workloadId
  onto : outcome.node = some node
  generation : outcome.workloadGeneration = some r.workloadGeneration
  epoch : outcome.executionEpoch = some r.executionEpoch
  state :
    outcome.state = "RESTORED" ∧ Acknowledged (deeds tid t) node outcome.attemptId id c.workloadId
      token r.executionEpoch options.resume ∨
    outcome.state = "RESTORED_NO_RESUME" ∧ ¬ Acknowledged (deeds tid t) node outcome.attemptId id
      c.workloadId token r.executionEpoch options.resume

/-- The deeds of a restore that comes back are what has happened. -/
theorem restoreAnswered_of_reports {run : RestoreRun} {node : NodeId} {options : RestoreOptions}
    {outcome : OperationOutcome} {token : FenceToken} {r : Workload} {older : List FabricDeed}
    (h : Run t) (hchecked : RestoreChecked settings id node options (deeds tid t) run)
    (hreports : run.Reports (deeds tid t) outcome token r older) :
    ∃ c w, RestoreAnswered t tid id node options outcome token c w r := by
  obtain rfl := hchecked.target
  obtain rfl := hchecked.options_eq
  -- The checkpoint that was read is the one that is committed.
  obtain ⟨t₁, hsuffix₁, -, row, hrow, hckpt⟩ := checkpoint_of_read h hchecked.read
  have hid : run.ckpt.checkpointId = id := by
    rw [hckpt]
    exact (World.checkpointId_of_row hrow : row.checkpointId = id)
  -- The row that is reported was read after the commit, which lies in its past.
  obtain ⟨e', later, hlater, hread, hdeeds⟩ := exists_calls_of_deed h hreports.read
  have hrun := h.of_suffix hlater
  obtain ⟨d, hd, rfl⟩ := hreports.committed
  obtain ⟨e, past, hsuffix, hcalls⟩ := exists_calls_of_mem hrun.tail (hdeeds ▸ hd)
  rw [hid, ← hreports.attempt] at hcalls
  obtain ⟨c, w, hcommit⟩ := Store.restoreCommit_ok (StoreOp.of_map_ok hcalls.run)
  have hpast := hsuffix.trans (suffix_of_cons hlater)
  have hc : (stateOf past).checkpoint id = some c := hcommit.found
  have howner : c.workloadId = run.ckpt.workloadId := by
    obtain ⟨c₁, hc₁, hsame₁⟩ := checkpoint_of_suffix h hsuffix₁ hrow
    obtain ⟨c₂, hc₂, hsame₂⟩ := checkpoint_of_suffix h (suffix_of_cons hpast) hc
    obtain rfl := Option.some.inj (hc₁.symm.trans hc₂)
    rw [← hsame₂, hsame₁, hckpt]
    rfl
  have hr : (stateOf later).workload c.workloadId = some r :=
    howner ▸ (Prod.mk.inj (Except.ok.inj hread.run)).1
  -- The commit has written the next generation and a later epoch, which only grow.
  have hwritten := congrArg (fun workloads => workloads.get c.workloadId) hcommit.workloads
  simp only [Table.get_modify_self, hcommit.owner, Option.map_some] at hwritten
  obtain ⟨r₁, hr₁, hgeneration⟩ := generation_le_of_run hrun.tail hsuffix hwritten
  obtain ⟨r₂, hr₂, hepoch⟩ := epoch_le_of_run hrun.tail hsuffix hwritten
  obtain rfl := Option.some.inj (hr₁.symm.trans hr)
  obtain rfl := Option.some.inj (hr₂.symm.trans hr)
  dsimp only at hgeneration hepoch
  exact ⟨c, w,
    { committed := ⟨e, past, later, hsuffix, suffix_of_cons hlater, hcalls, hcommit, hr⟩
      generation_lt := hgeneration
      epoch_lt := by omega
      chosen := hreports.chosen
      checkpoint := hid ▸ hreports.checkpoint
      workload := howner ▸ hreports.workload
      onto := hreports.node
      generation := hreports.generation
      epoch := hreports.epoch
      state := by
        rw [howner, hreports.attempt, ← hid]
        exact hreports.state }⟩

/-- In every run: a restore, a rollback or a migration that is answered an outcome has committed
the generation of the checkpoint that the outcome names, on the node that was asked for; the outcome
shows the workload as its row was at a time after the commit, and says RESTORED exactly if the node
has said that it resumed under the token that was committed. The checkpoint is the one that was
asked for, unless a migration has captured another one of the same workload. -/
theorem restores_answered {request : Request} {checkpointId : Id} {node : NodeId}
    {outcome : OperationOutcome} {before : World}
    (h : System.Run (S := fabric settings) (.answered tid (.ok (.outcome outcome)) before :: t))
    (hrequest : requestOf tid t = some request)
    (hasks : request.asksRestore = some (checkpointId, node)) :
    ∃ id token c w r,
      RestoreAnswered t tid id node request.restoreOptions outcome token c w r ∧
      (id = checkpointId ∨ request.Migrates ∧
        (∃ key, (⟨.db (.captureCommit id key), .ok ()⟩ : FabricDeed) ∈ deeds tid t) ∧
        ∃ c₀, (stateOf t).checkpoint checkpointId = some c₀ ∧ c₀.workloadId = c.workloadId) := by
  obtain ⟨request', hrequest', hconclude⟩ := h.concluded obeys_serve_outcome
  obtain rfl := Option.some.inj (hrequest.symm.trans hrequest')
  obtain ⟨id, run, token, r, older, hid, hchecked, hreports⟩ :=
    hconclude checkpointId node outcome hasks rfl
  obtain ⟨c, w, hanswered⟩ := restoreAnswered_of_reports h.tail hchecked hreports
  refine ⟨id, token, c, w, r, hanswered, ?_⟩
  rcases hid with rfl | ⟨hmigrates, hreplaced⟩
  · exact .inl rfl
  rcases captured_of_replaced h.tail hreplaced with rfl | ⟨hcaptured, c₀, c₁, hc₀, hc₁, hsame⟩
  · exact .inl rfl
  obtain ⟨e, past, later, hsuffix, hlater, -, hcommit, -⟩ := hanswered.committed
  have hc : (stateOf past).checkpoint id = some c := hcommit.found
  obtain ⟨c', hc', hsame'⟩ := checkpoint_of_suffix h.tail (suffix_of_cons (hsuffix.trans hlater)) hc
  obtain rfl := Option.some.inj (hc'.symm.trans hc₁)
  exact .inr ⟨hmigrates, hcaptured, c₀, hc₀, hsame.trans hsame'⟩

/-- The newest event answers an outcome to this request. -/
def answersOutcome (tid : ℕ) : List (Event (fabric settings)) → Option (Request × OperationOutcome)
  | .answered tid' (.ok (.outcome outcome)) _ :: t =>
    if tid' = tid then (requestOf tid t).map (·, outcome) else none
  | _ => none

theorem exists_answered {request : Request} {outcome : OperationOutcome}
    (h : answersOutcome tid t = some (request, outcome)) : ∃ before past,
      t = .answered tid (.ok (.outcome outcome)) before :: past ∧
        requestOf tid past = some request := by
  unfold answersOutcome at h
  split at h
  · split at h
    · rename_i before past htid
      obtain ⟨request', hrequest, heq⟩ := Option.map_eq_some_iff.mp h
      obtain ⟨rfl, rfl⟩ := Prod.mk.inj heq
      exact ⟨before, past, htid ▸ rfl, hrequest⟩
    · cases h
  · cases h

end Runs

/-- A checkpoint is retired and then migrated: the migration captures the workload again. -/
def Demo.replaced : List (Action (fabric Demo.archive)) :=
  [.move (Move.boot "n1" "n0" "/data"), .move (Move.boot "n2" "n0" "/data")] ++
    Demo.serially [.capture 7 {} Demo.operator, .checkpointUnprotect 2,
      .checkpointRetire 2 Demo.operator, .migrate 2 2 "n2" Demo.operator] ++
    List.replicate 60 (.advance 6 ({} : Input))

theorem restores_answered_replaced : ∃ (request : Request) (outcome : OperationOutcome)
    (before : World) (t : List (Event (fabric Demo.archive))) (token : FenceToken)
    (c : CheckpointObject) (w r : Workload),
    (exec Demo.replaced).trace = .answered 6 (.ok (.outcome outcome)) before :: t ∧
    request.asksRestore = some (2, "n2") ∧ outcome.state = "RESTORED" ∧ c.workloadId = 7 ∧
    RestoreAnswered t 6 4 "n2" request.restoreOptions outcome token c w r := by
  have hanswers : (answersOutcome 6 (exec Demo.replaced).trace).any (fun a =>
      a.1.asksRestore = some (2, "n2") ∧ a.2.checkpointId = some 4 ∧ a.2.state = "RESTORED" ∧
        a.2.workloadId = some 7) = true := by decide +kernel
  obtain ⟨⟨request, outcome⟩, hanswer, hshows⟩ := (Option.any_eq_true _ _).mp hanswers
  obtain ⟨hasks, hcheckpoint, hstate, howner⟩ := of_decide_eq_true hshows
  obtain ⟨before, t, heq, hrequest⟩ := exists_answered hanswer
  obtain ⟨id, token, c, w, r, hanswered, -⟩ :=
    restores_answered (heq ▸ exec_run Demo.replaced) hrequest hasks
  obtain rfl := Option.some.inj (hanswered.checkpoint.symm.trans hcheckpoint)
  exact ⟨request, outcome, before, t, token, c, w, r, heq, hasks, hstate,
    Option.some.inj (hanswered.workload.symm.trans howner), hanswered⟩

end CheckpointFabric
