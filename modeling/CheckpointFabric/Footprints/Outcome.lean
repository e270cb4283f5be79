import CheckpointFabric.Footprints.Stages

/-!
# What a capture reports after its commit

A capture resumes its source after the commit, replicates and records its outcome. Whatever fails
on the way goes through the handler of failed captures, which records an outcome again: the
outcome that stands is the one recorded last.

## Main definitions

* `lastOutcome` — the outcome that a thread has recorded last for an attempt
* `Resumed`, `ResumeError` — what the source has answered
* `Reported` — the answer and the last outcome say whether the source was resumed
* `FinishedCleanly`, `AbortCutOff` — the two ways to come to such an answer

## Main results

* `obeys_requestCapture_outcome` — there is no other way
-/

set_option autoImplicit false

namespace CheckpointFabric.Coordinator

open Concurrency Fabric

/-- The outcome that the deed records for the attempt: its state, and the detail of the error. -/
def recordedOutcome (key : AttemptId) : FabricDeed → Option (AttemptState × Option String)
  | ⟨.db (.attemptFinish id state _ error), .ok _⟩ => if id = key then some (state, error) else none
  | _ => none

/-- The outcome that was recorded last. -/
def lastOutcome (key : AttemptId) (ds : List FabricDeed) : Option (AttemptState × Option String) :=
  ds.findSome? (recordedOutcome key)

/-- A node answered that the attempt's providers were resumed. -/
def Resumed (key : AttemptId) (ds : List FabricDeed) : Prop :=
  ∃ node req, ∃ answer : NodeResumeResult,
    ⟨.call node (.resume req), .ok answer⟩ ∈ ds ∧ req.attemptId = key ∧ answer.ok

/-- A resume of the attempt has failed, with this error. -/
def ResumeError (key : AttemptId) (ds : List FabricDeed) (text : String) : Prop :=
  ∃ node req, ∃ reply : FabricResult NodeResumeResult,
    ⟨.call node (.resume req), reply⟩ ∈ ds ∧ req.attemptId = key ∧
      ((∃ answer, reply = .ok answer ∧ ¬ answer.ok ∧ text = unwrapOrDefault answer.error) ∨
        ∃ e, reply = .error e ∧ text = toString e)

/-- The caller learns whether the source was resumed, and so does a reader of the attempt. -/
structure Reported {α : Type} (key : AttemptId) (ds : List FabricDeed) (result : FabricResult α) :
    Prop where
  answer : (∃ a, result = .ok a) ↔ Resumed key ds
  committed : Resumed key ds → ∃ error, lastOutcome key ds = some (.committed, error)
  resumeFailed : ¬ Resumed key ds → ∃ before text,
    lastOutcome key ds = some (.resumeFailed, some (before ++ text)) ∧ ResumeError key ds text

/-- RESUME_FAILED was recorded at some time. -/
def Refused (key : AttemptId) (ds : List FabricDeed) : Prop :=
  ∃ d ∈ ds, ∃ error, recordedOutcome key d = some (.resumeFailed, error)

/-- The source was resumed, and nothing after it has failed: the journal, the replication, the
record of the outcome, the release of the reservation, the failpoint. -/
def FinishedCleanly (settings : Settings) (id : Id) (key : AttemptId) (ds : List FabricDeed) :
    Prop :=
  ∃ node req detail result replicated older, ∃ answer : NodeResumeResult,
    req.attemptId = key ∧ answer.ok ∧
    Follows (replicateToPolicy settings id) replicated (.done (.ok ())) ∧
    ds = ⟨.fire "capture.after_commit", .ok ()⟩ :: ⟨.db (.reservationRelease key), .ok ()⟩ ::
      ⟨.db (.attemptFinish key .committed result none), .ok ()⟩ :: (replicated ++
        ⟨.db (.journalAppend .capture key .resumeDone detail), .ok ()⟩ ::
          ⟨.call node (.resume req), .ok answer⟩ :: older)

/-- The source was not resumed, this was recorded, and a call of the store failed before anything
else was recorded. -/
def AbortCutOff (key : AttemptId) (ds : List FabricDeed) : Prop :=
  Refused key ds ∧ ¬ Resumed key ds ∧ ∃ op e older,
    ds = (⟨.db op, .error e⟩ : FabricDeed) :: older ∧ op ≠ .reservationRelease key

/-- The operation neither commits a capture nor records an outcome. -/
def Precommits : Op → Prop
  | .db (.captureCommit _ _) | .db (.attemptFinish _ _ _ _) => False
  | _ => True

/-- The operation neither commits a capture nor records RESUME_FAILED. -/
def Closes : Op → Prop
  | .db (.captureCommit _ _) => False
  | .db (.attemptFinish _ state _ _) => state ≠ .resumeFailed
  | _ => True

/-- The operation commits no other capture. -/
def CommitsOnly (id : Id) (key : AttemptId) : Op → Prop
  | .db (.captureCommit id' key') => id' = id ∧ key' = key
  | _ => True

/-- No capture was committed. -/
def Uncaptured (ds : List FabricDeed) : Prop :=
  ∀ id key, ∀ reply : FabricResult Unit, ⟨.db (.captureCommit id key), reply⟩ ∈ ds →
    ∃ e, reply = .error e

section Rules

variable {settings : Settings} {α : Type} {ds ds' recent : List FabricDeed} {key : AttemptId}
  {id : Id} {d : FabricDeed} {op : Op}

theorem precommits_of_reads (h : op.Reads) : Precommits op := by
  cases op with
  | db op =>
    cases op with
    | captureCommit | attemptFinish => exact absurd h not_false
    | _ => trivial
  | _ => trivial

theorem precommits_of_unmarked (h : Unmarked op) : Precommits op := by
  cases op with
  | db op =>
    cases op with
    | captureCommit | attemptFinish => exact absurd h not_false
    | _ => trivial
  | _ => trivial

theorem closes_of_precommits (h : Precommits op) : Closes op := by
  cases op with
  | db op =>
    cases op with
    | captureCommit | attemptFinish => exact absurd h not_false
    | _ => trivial
  | _ => trivial

theorem commitsOnly_of_closes (h : Closes op) : CommitsOnly id key op := by
  cases op with
  | db op =>
    cases op with
    | captureCommit => exact absurd h not_false
    | _ => trivial
  | _ => trivial

theorem recordedOutcome_of_precommits (h : Precommits d.op) : recordedOutcome key d = none := by
  unfold recordedOutcome
  split
  · exact absurd h not_false
  · rfl

theorem recordedOutcome_of_closes (h : Closes d.op) (error : Option String) :
    recordedOutcome key d ≠ some (.resumeFailed, error) := by
  unfold recordedOutcome
  split
  · rename_i state _ _ _
    have hstate : state ≠ .resumeFailed := h
    split
    · simp [hstate]
    · exact Option.some_ne_none _ ∘ Eq.symm
  · exact Option.some_ne_none _ ∘ Eq.symm

theorem lastOutcome_append (h : ∀ d ∈ recent, Precommits d.op) :
    lastOutcome key (recent ++ ds) = lastOutcome key ds := by
  have hnone : recent.findSome? (recordedOutcome key) = none :=
    List.findSome?_eq_none_iff.mpr fun d hd => recordedOutcome_of_precommits (h d hd)
  rw [lastOutcome, List.findSome?_append, hnone, Option.none_or, lastOutcome]

theorem lastOutcome_eq_none (h : ∀ d ∈ ds, Precommits d.op) : lastOutcome key ds = none :=
  List.findSome?_eq_none_iff.mpr fun d hd => recordedOutcome_of_precommits (h d hd)

theorem refused_of_lastOutcome {error : Option String}
    (h : lastOutcome key ds = some (.resumeFailed, error)) : Refused key ds := by
  obtain ⟨d, hd, hrecorded⟩ := List.exists_of_findSome?_eq_some h
  exact ⟨d, hd, error, hrecorded⟩

theorem not_refused_append (h : ∀ d ∈ recent, Closes d.op) (hds : ¬ Refused key ds) :
    ¬ Refused key (recent ++ ds) := by
  rintro ⟨d, hd, error, hrecorded⟩
  rcases List.mem_append.mp hd with hd | hd
  · exact recordedOutcome_of_closes (h d hd) error hrecorded
  · exact hds ⟨d, hd, error, hrecorded⟩

theorem ResumeError.mono {text : String} (h : ResumeError key ds text) (hsub : ds ⊆ ds') :
    ResumeError key ds' text := by
  obtain ⟨node, req, reply, hmem, hrest⟩ := h
  exact ⟨node, req, reply, hsub hmem, hrest⟩

theorem Uncaptured.append (h : ∀ d ∈ recent, Closes d.op) (hds : Uncaptured ds) :
    Uncaptured (recent ++ ds) := by
  intro id key reply hmem
  rcases List.mem_append.mp hmem with hmem | hmem
  · exact absurd (h _ hmem) not_false
  · exact hds id key reply hmem

theorem FinishedCleanly.resumed (h : FinishedCleanly settings id key ds) : Resumed key ds := by
  obtain ⟨node, req, detail, result, replicated, older, answer, hkey, hok, -, rfl⟩ := h
  exact ⟨node, req, answer, by simp, hkey, hok⟩

theorem FinishedCleanly.lastOutcome_eq (h : FinishedCleanly settings id key ds) :
    lastOutcome key ds = some (.committed, none) := by
  obtain ⟨node, req, detail, result, replicated, older, answer, -, -, -, rfl⟩ := h
  simp only [lastOutcome, List.findSome?_cons, recordedOutcome, if_true]

/-- The newest deed of a clean end is that of the failpoint. -/
theorem FinishedCleanly.head_eq (h : FinishedCleanly settings id key (d :: ds)) :
    d = ⟨.fire "capture.after_commit", .ok ()⟩ := by
  obtain ⟨node, req, detail, result, replicated, older, answer, -, -, -, heq⟩ := h
  exact (List.cons.inj heq).1

theorem reported_ok_iff {a : α} : Reported key ds (.ok a : FabricResult α) ↔
    Resumed key ds ∧ ∃ error, lastOutcome key ds = some (.committed, error) := by
  constructor
  · intro h
    have hresumed := h.answer.mp ⟨a, rfl⟩
    exact ⟨hresumed, h.committed hresumed⟩
  · rintro ⟨hresumed, hlast⟩
    exact ⟨⟨fun _ => hresumed, fun _ => ⟨a, rfl⟩⟩, fun _ => hlast, fun h => absurd hresumed h⟩

theorem reported_error_iff {e : FabricError} : Reported key ds (.error e : FabricResult α) ↔
    ¬ Resumed key ds ∧ ∃ before text,
      lastOutcome key ds = some (.resumeFailed, some (before ++ text)) ∧
        ResumeError key ds text := by
  have hnone : ¬ ∃ a, (.error e : FabricResult α) = .ok a := by
    rintro ⟨a, ha⟩
    cases ha
  constructor
  · intro h
    have hresumed : ¬ Resumed key ds := fun hresumed => hnone (h.answer.mpr hresumed)
    exact ⟨hresumed, h.resumeFailed hresumed⟩
  · rintro ⟨hresumed, hlast⟩
    exact ⟨⟨fun h => absurd h hnone, fun h => absurd h hresumed⟩, fun h => absurd h hresumed,
      fun _ => hlast⟩

theorem lastOutcome_cons {reply : FabricResult (fabricInterface.Reply op)} (h : Precommits op) :
    lastOutcome key (⟨op, reply⟩ :: ds) = lastOutcome key ds := by
  have hall : ∀ d ∈ [(⟨op, reply⟩ : FabricDeed)], Precommits d.op :=
    fun _ hd => List.mem_singleton.mp hd ▸ h
  exact lastOutcome_append hall

theorem not_refused_of_none (h : lastOutcome key ds = none) : ¬ Refused key ds := by
  rintro ⟨d, hd, error, hrecorded⟩
  rw [List.findSome?_eq_none_iff.mp h d hd] at hrecorded
  exact Option.some_ne_none _ hrecorded.symm

/-- A part of a capture before its commit. -/
theorem obeys_precommits_bind {β : Type} {p : Fabric α} {f : α → Fabric β}
    {conclude : List FabricDeed → FabricResult β → Prop} (hp : Uses Precommits p)
    (hds : ∀ d ∈ ds, Precommits d.op)
    (herror : ∀ ds' e, (∀ d ∈ ds', Precommits d.op) → conclude ds' (.error e))
    (hf : ∀ ds' a, (∀ d ∈ ds', Precommits d.op) → Obeys (fun _ _ => True) conclude ds' (f a)) :
    Obeys (fun _ _ => True) conclude ds (p >>= f) := by
  rw [obeys_bind]
  refine hp.obeys_recent.weaken ?_
  rintro ds' result ⟨recent, rfl, hrecent⟩
  have hall : ∀ d ∈ recent ++ ds, Precommits d.op := fun d hd =>
    (List.mem_append.mp hd).elim (hrecent d) (hds d)
  cases result with
  | ok a => exact hf _ a hall
  | error e => exact herror _ e hall

/-- One operation, when it matters where an error comes from. -/
theorem obeys_step_bind {β : Type} {f : fabricInterface.Reply op → Fabric β}
    {conclude : List FabricDeed → FabricResult β → Prop}
    (herror : ∀ e, conclude (⟨op, .error e⟩ :: ds) (.error e))
    (hok : ∀ a, Obeys (fun _ _ => True) conclude (⟨op, .ok a⟩ :: ds) (f a)) :
    Obeys (fun _ _ => True) conclude ds (Program.call op >>= f) := by
  refine ⟨trivial, fun reply => ?_⟩
  cases reply with
  | error e => exact herror e
  | ok a => exact hok a

/-- A handler runs after an error, unless it is a panic, and the error stays. -/
theorem obeys_mapErr {p : Fabric α} {handler : FabricError → Fabric Unit}
    {middle conclude : List FabricDeed → FabricResult α → Prop}
    (hp : Obeys (fun _ _ => True) middle ds p)
    (hok : ∀ ds' a, middle ds' (.ok a) → conclude ds' (.ok a))
    (hpanic : ∀ ds' e, e.isPanic → middle ds' (.error e) → conclude ds' (.error e))
    (hhandler : ∀ ds' e, ¬ e.isPanic → middle ds' (.error e) →
      Obeys (fun _ _ => True) (fun ds'' _ => conclude ds'' (.error e)) ds' (handler e)) :
    Obeys (fun _ _ => True) conclude ds (mapErr p handler) := by
  unfold mapErr Program.onError
  rw [obeys_andThen]
  refine hp.weaken fun ds' result hmiddle => ?_
  cases result with
  | ok a => exact hok ds' a hmiddle
  | error e =>
    rw [obeys_andThen]
    refine obeys_ite (fun h => hpanic ds' e h hmiddle) fun h => ?_
    rw [Program.ignore, obeys_andThen]
    exact hhandler ds' e h hmiddle

end Rules

section Capture

variable {settings : Settings} {run : CaptureRun} {ds : List FabricDeed}
  {ckpt : CheckpointObject} {key : AttemptId} {id workloadId : Id}

/-- How a capture that has committed comes to its result. -/
inductive Finished (settings : Settings) (id : Id) (key : AttemptId) (ds : List FabricDeed) :
    FabricResult OperationOutcome → Prop
  | cleanly {outcome : OperationOutcome} :
    FinishedCleanly settings id key ds → Finished settings id key ds (.ok outcome)
  | refused {e : FabricError} {before text : String} : ¬ e.isPanic →
    lastOutcome key ds = some (.resumeFailed, some (before ++ text)) → ResumeError key ds text →
    Finished settings id key ds (.error e)
  | broken {e : FabricError} : ¬ Refused key ds → ¬ FinishedCleanly settings id key ds →
    Finished settings id key ds (.error e)

/-- What the handler of a failed capture leaves behind: it has recorded an outcome, or a call of
the store has stopped it before. -/
inductive Aborted (key : AttemptId) (ds : List FabricDeed) : List FabricDeed → Prop
  | settled {reply : FabricResult Unit} {older : List FabricDeed} :
    (∀ error, lastOutcome key (⟨.db (.reservationRelease key), reply⟩ :: older) ≠
      some (.resumeFailed, error)) →
    Aborted key ds (⟨.db (.reservationRelease key), reply⟩ :: older)
  | cutOff {op : StoreOp} {e : FabricError} {older : List FabricDeed} :
    op ≠ .reservationRelease key →
    lastOutcome key (⟨.db op, .error e⟩ :: older) = lastOutcome key ds →
    Aborted key ds (⟨.db op, .error e⟩ :: older)

theorem Finished.of_none {e : FabricError} (h : lastOutcome key ds = none) :
    Finished settings id key ds (.error e) := by
  refine .broken (not_refused_of_none h) fun hcleanly => ?_
  exact Option.some_ne_none _ (hcleanly.lastOutcome_eq.symm.trans h)

theorem uses_sealCapture : Uses Precommits (sealCapture settings run ckpt) := by
  have hset {ckpt : CheckpointObject} {target : LifecycleState} :
      Uses Precommits (setLifecycle ckpt target) :=
    uses_setLifecycle (fun _ => precommits_of_reads) trivial
  unfold sealCapture
  refine Uses.bind hset fun _ => Uses.bind hset fun _ => ?_
  refine Uses.bind (uses_call.mpr trivial) fun _ => Uses.bind (uses_call.mpr trivial) fun _ => ?_
  refine Uses.bind (uses_db trivial) fun _ => Uses.bind hset fun _ => ?_
  exact Uses.bind (uses_db trivial) fun _ => Uses.bind (uses_db trivial) fun _ => trivial

theorem uses_persistCapture {sealed : SealedManifest} :
    Uses Precommits (persistCapture run ckpt sealed) := by
  unfold persistCapture
  refine Uses.bind (uses_setLifecycle (fun _ => precommits_of_reads) trivial) fun _ => ?_
  refine Uses.bind (uses_callNode (fun _ => precommits_of_reads) trivial) fun _ => ?_
  exact Uses.bind (uses_ensure.mpr trivial) fun _ => Uses.bind (uses_db trivial) fun _ =>
    uses_db trivial

theorem uses_reserveCapture : Uses Precommits (reserveCapture run workloadId) := by
  unfold reserveCapture
  exact Uses.bind (uses_db trivial) fun _ => Uses.bind (uses_db trivial) fun _ => uses_db trivial

theorem uses_admitCapture {options : CaptureOptions} {ctx : OperationContext} :
    Uses Precommits (admitCapture settings workloadId options ctx) := by
  have hadmitted : Obeys (fun _ => Precommits) _ []
      (admitCapture settings workloadId options ctx) :=
    obeys_admitCapture fun _ _ => precommits_of_reads
  exact hadmitted.uses

/-- The source refuses to resume: this is recorded, with its error. -/
theorem obeys_refused {node : NodeId} {req : NodeResumeRequest} {answer : NodeResumeResult}
    {result : Option String} {before : String} {e : FabricError} (hkey : req.attemptId = key)
    (hanswer : ¬ answer.ok) (hmem : ⟨.call node (.resume req), .ok answer⟩ ∈ ds)
    (hds : lastOutcome key ds = none) (he : ¬ e.isPanic) :
    Obeys (fun _ _ => True) (Finished settings id key) ds (do
      attemptFinish key .resumeFailed result (some (before ++ unwrapOrDefault answer.error))
      Program.fail e) := by
  refine obeys_step_bind (fun _ => .of_none hds) fun u => ?_
  have hlast : lastOutcome key (⟨.db (.attemptFinish key .resumeFailed result
      (some (before ++ unwrapOrDefault answer.error))), .ok u⟩ :: ds) =
      some (.resumeFailed, some (before ++ unwrapOrDefault answer.error)) := by
    simp only [lastOutcome, List.findSome?_cons, recordedOutcome, if_true]
  exact .refused he hlast ⟨node, req, .ok answer, .tail _ hmem, hkey, .inl ⟨answer, rfl, hanswer, rfl⟩⟩

/-- An error after COMMITTED was recorded. -/
theorem Finished.of_committed {d : FabricDeed} {result : Option String} {e : FabricError}
    (recent : List FabricDeed) (hrecent : ∀ d ∈ recent, Closes d.op) (hds : lastOutcome key ds = none)
    (hd : d ≠ ⟨.fire "capture.after_commit", .ok ()⟩) (hcloses : Closes d.op) :
    Finished settings id key (d :: (recent ++
      ⟨.db (.attemptFinish key .committed result none), .ok ()⟩ :: ds)) (.error e) := by
  refine .broken ?_ fun hcleanly => hd hcleanly.head_eq
  have hall : ∀ d' ∈ d :: (recent ++
      [⟨.db (.attemptFinish key .committed result none), .ok ()⟩]), Closes d'.op := by
    intro d' hd'
    simp only [List.mem_cons, List.mem_append, List.not_mem_nil, or_false] at hd'
    rcases hd' with rfl | hd' | rfl
    · exact hcloses
    · exact hrecent d' hd'
    · exact fun h => AttemptState.noConfusion h
  have hrefused := not_refused_append hall (not_refused_of_none hds)
  simpa using hrefused

/-- The source was resumed: the rest of the capture. -/
theorem obeys_closed {node : NodeId} {req : NodeResumeRequest} {answer : NodeResumeResult}
    {detail : String} {result : Option String} {outcome : OperationOutcome}
    (hkey : req.attemptId = key) (hanswer : answer.ok)
    (hds : lastOutcome key (⟨.call node (.resume req), .ok answer⟩ :: ds) = none) :
    Obeys (fun _ _ => True) (Finished settings id key)
      (⟨.call node (.resume req), .ok answer⟩ :: ds) (do
        journal .capture key .resumeDone detail
        replicateToPolicy settings id
        attemptFinish key .committed result none
        reservationRelease key
        fire "capture.after_commit"
        pure outcome) := by
  have hjournaled (reply : FabricResult Unit) : lastOutcome key
      (⟨.db (.journalAppend .capture key .resumeDone detail), reply⟩ ::
        ⟨.call node (.resume req), .ok answer⟩ :: ds) = none :=
    (lastOutcome_cons (by trivial)).trans hds
  refine obeys_step_bind (fun e => .of_none (hjournaled (.error e))) fun u => ?_
  refine obeys_bind.mpr ((obeys_follows (replicateToPolicy settings id)).weaken ?_)
  rintro ds' replied ⟨replicated, rfl, hfollows⟩
  have hprecommits : ∀ d ∈ replicated, Precommits d.op :=
    ((uses_replicateToPolicy.mono fun _ h => precommits_of_unmarked (unmarked_of_tends h)).of_follows
      hfollows).1
  have hreplicated := (lastOutcome_append hprecommits).trans (hjournaled (.ok u))
  cases replied with
  | error e => exact .of_none hreplicated
  | ok _ =>
    refine obeys_step_bind (fun e => .of_none hreplicated) fun _ => ?_
    refine obeys_step_bind (fun e => ?_) fun _ => obeys_step_bind (fun e => ?_) fun _ => ?_
    · exact .of_committed [] (fun _ hd => absurd hd List.not_mem_nil) hreplicated
        (by rintro ⟨⟩) trivial
    · exact .of_committed [⟨.db (.reservationRelease key), .ok ()⟩]
        (fun _ hd => List.mem_singleton.mp hd ▸ trivial) hreplicated (by rintro ⟨⟩) trivial
    · exact .cleanly ⟨node, req, detail, result, replicated, ds, answer, hkey, hanswer,
        hfollows, rfl⟩

theorem obeys_finishCapture_outcome (hds : lastOutcome run.attemptId ds = none) :
    Obeys (fun _ _ => True) (Finished settings run.checkpointId run.attemptId) ds
      (finishCapture settings run ckpt) := by
  unfold finishCapture
  refine obeys_bind.mpr ((obeys_callNode_ended run.node
    (captureResume run.attemptId run.checkpointId run.workload.workloadId)).weaken ?_)
  rintro ds₁ result (⟨nodes, rfl⟩ | ⟨nodes, e, rfl, rfl, -⟩)
  · have hcalled : lastOutcome run.attemptId (⟨.call run.node (captureResume run.attemptId
        run.checkpointId run.workload.workloadId), result⟩ :: ⟨.db .nodeList, nodes⟩ :: ds) =
        none :=
      ((lastOutcome_cons (by trivial)).trans (lastOutcome_cons (by trivial))).trans hds
    cases result with
    | error e => exact .of_none hcalled
    | ok answer =>
      refine obeys_ite (fun hanswer => ?_) fun hanswer => ?_
      · exact obeys_refused rfl hanswer (.head _) hcalled Bool.false_ne_true
      · exact obeys_closed rfl (not_not.mp hanswer) hcalled
  · have hlisted : lastOutcome run.attemptId (⟨.db .nodeList, nodes⟩ :: ds) = none :=
      (lastOutcome_cons (by trivial)).trans hds
    exact .of_none hlisted

/-- A capture that commits ends in one of these ways. -/
theorem obeys_executeCapture_outcome (hds : ∀ d ∈ ds, Precommits d.op) :
    Obeys (fun _ _ => True)
      (fun ds' result => Uncaptured ds' ∨
        Finished settings run.checkpointId run.attemptId ds' result)
      ds (executeCapture settings run) := by
  have herror : ∀ ds' (e : FabricError), (∀ d ∈ ds', Precommits d.op) → Uncaptured ds' ∨
      Finished settings run.checkpointId run.attemptId ds' (.error e) :=
    fun ds' _ hds' => .inl fun id key reply hmem => absurd (hds' _ hmem) not_false
  unfold executeCapture
  refine obeys_precommits_bind (uses_stageCapture.mono fun _ => precommits_of_unmarked) hds herror
    fun ds₁ ckpt h₁ => ?_
  refine obeys_precommits_bind uses_sealCapture h₁ herror fun ds₂ sealed h₂ => ?_
  refine obeys_precommits_bind uses_persistCapture h₂ herror fun ds₃ _ h₃ => ?_
  refine obeys_precommits_bind (uses_call.mpr trivial) h₃ herror fun ds₄ _ h₄ => ?_
  refine ⟨trivial, fun reply => ?_⟩
  cases reply with
  | error e =>
    refine .inl fun id key reply hmem => ?_
    rcases List.mem_cons.mp hmem with heq | hmem
    · cases heq
      exact ⟨e, rfl⟩
    · exact absurd (h₄ _ hmem) not_false
  | ok u =>
    refine (obeys_finishCapture_outcome ?_).weaken fun _ _ => .inr
    have hquiet : lastOutcome run.attemptId ds₄ = none := lastOutcome_eq_none h₄
    simpa only [lastOutcome, List.findSome?_cons, recordedOutcome] using hquiet

/-- Letting go of an attempt always goes on, and records nothing. -/
theorem obeys_releaseCaptureOnNode {node : NodeId} {committed : Bool} :
    Obeys (fun _ _ => True)
      (fun ds' result => result = .ok () ∧ lastOutcome key ds' = lastOutcome key ds) ds
      (releaseCaptureOnNode node key id workloadId committed) := by
  have hcall {request : NodeRequest} {ds : List FabricDeed} : Obeys (fun _ _ => True)
      (fun ds' _ => lastOutcome key ds' = lastOutcome key ds) ds (callNode node request) := by
    have huses : Uses Precommits (callNode node request) :=
      uses_callNode (fun _ => precommits_of_reads) trivial
    refine huses.obeys_recent.weaken ?_
    rintro ds' result ⟨recent, rfl, hrecent⟩
    exact lastOutcome_append hrecent
  unfold releaseCaptureOnNode
  refine Obeys.ignore_bind hcall fun ds₁ _ h₁ => ?_
  rw [Program.ignore, obeys_andThen]
  exact hcall.weaken fun ds₂ _ h₂ => ⟨rfl, h₂.trans h₁⟩

theorem obeys_failAbortedCheckpoint {β : Type} {committed : Bool} {f : Unit → Fabric β}
    (hf : ∀ ds', lastOutcome key ds' = lastOutcome key ds →
      Obeys (fun _ _ => True) (fun ds'' _ => Aborted key ds ds'') ds' (f ()))
    {ds₁ : List FabricDeed} (h₁ : lastOutcome key ds₁ = lastOutcome key ds) :
    Obeys (fun _ _ => True) (fun ds' _ => Aborted key ds ds') ds₁
      (failAbortedCheckpoint id committed >>= f) := by
  unfold failAbortedCheckpoint
  rw [obeys_bind]
  refine obeys_step_bind (fun e => ?_) fun row => ?_
  · exact .cutOff (by rintro ⟨⟩) ((lastOutcome_cons (by trivial)).trans h₁)
  · have hread (row : Option CheckpointObject) :
        lastOutcome key (⟨.db (.checkpointGet id), .ok row⟩ :: ds₁) = lastOutcome key ds :=
      (lastOutcome_cons (by trivial)).trans h₁
    cases row with
    | none => exact hf _ (hread none)
    | some ck =>
      refine obeys_ite (fun _ => ⟨trivial, fun reply => ?_⟩) fun _ => hf _ (hread (some ck))
      have hset : lastOutcome key (⟨.db (.checkpointSetLifecycle id .failed .pending), reply⟩ ::
          ⟨.db (.checkpointGet id), .ok (some ck)⟩ :: ds₁) = lastOutcome key ds :=
        (lastOutcome_cons (by trivial)).trans (hread (some ck))
      cases reply with
      | error e => exact .cutOff (by rintro ⟨⟩) hset
      | ok _ => exact hf _ hset

/-- The handler records another outcome, unless a call of the store stops it. -/
theorem obeys_abortCaptureAttempt_outcome {detail : String} :
    Obeys (fun _ _ => True) (fun ds' _ => Aborted key ds ds') ds
      (abortCaptureAttempt key id workloadId detail) := by
  unfold abortCaptureAttempt
  refine obeys_step_bind (fun e => .cutOff (by rintro ⟨⟩) (lastOutcome_cons (by trivial)))
    fun committed => ?_
  have hlooked : lastOutcome key (⟨.db (.journalHas .capture key .dbCommitted), .ok committed⟩ ::
      ds) = lastOutcome key ds := lastOutcome_cons (by trivial)
  refine obeys_step_bind (fun e => .cutOff (by rintro ⟨⟩)
    ((lastOutcome_cons (by trivial)).trans hlooked)) fun attempt => ?_
  -- Reading the journal and the attempt records no outcome; `attemptFinish` is what does.
  have hfinish (ds₁ : List FabricDeed) (h₁ : lastOutcome key ds₁ = lastOutcome key ds) :
      Obeys (fun _ _ => True) (fun ds' _ => Aborted key ds ds') ds₁ (do
        attemptFinish key (if committed then .committed else .failed)
          (if committed then some "capture committed before later failure" else none)
          (if committed then none else some detail)
        reservationRelease key) := by
    refine ⟨trivial, fun reply => ?_⟩
    cases reply with
    | error e =>
      refine .cutOff (by rintro ⟨⟩) ?_
      simpa only [lastOutcome, List.findSome?_cons, recordedOutcome] using h₁
    | ok _ =>
      refine ⟨trivial, fun reply => .settled fun error => ?_⟩
      rw [lastOutcome_cons (by trivial)]
      simp only [lastOutcome, List.findSome?_cons, recordedOutcome, if_true]
      cases committed <;> simp
  have hrest (ds₁ : List FabricDeed) (h₁ : lastOutcome key ds₁ = lastOutcome key ds) :
      Obeys (fun _ _ => True) (fun ds' _ => Aborted key ds ds') ds₁ (do
        failAbortedCheckpoint id committed
        attemptFinish key (if committed then .committed else .failed)
          (if committed then some "capture committed before later failure" else none)
          (if committed then none else some detail)
        reservationRelease key) :=
    obeys_failAbortedCheckpoint hfinish h₁
  have hgot : lastOutcome key (⟨.db (.attemptGet key), .ok attempt⟩ ::
      ⟨.db (.journalHas .capture key .dbCommitted), .ok committed⟩ :: ds) = lastOutcome key ds :=
    (lastOutcome_cons (by trivial)).trans hlooked
  cases attempt with
  | none => exact hrest _ hgot
  | some a =>
    refine obeys_bind.mpr (obeys_releaseCaptureOnNode.weaken ?_)
    rintro ds₁ result ⟨rfl, h₁⟩
    exact hrest _ (h₁.trans hgot)

theorem uses_abortCaptureAttempt_closes {detail : String} :
    Uses Closes (abortCaptureAttempt key id workloadId detail) := by
  have hunmarked {op : Op} (h : Unmarked op) : Closes op :=
    closes_of_precommits (precommits_of_unmarked h)
  exact uses_abortCaptureAttempt_of (fun _ h => hunmarked (unmarked_of_reads h))
    (fun _ _ => hunmarked trivial) (fun _ _ => hunmarked trivial) (hunmarked trivial)
    (fun _ _ _ hstate => hstate) trivial

/-- A run commits its own capture only. -/
theorem uses_executeCapture_only :
    Uses (CommitsOnly run.checkpointId run.attemptId) (executeCapture settings run) := by
  have honly {op : Op} (h : Precommits op) : CommitsOnly run.checkpointId run.attemptId op :=
    commitsOnly_of_closes (closes_of_precommits h)
  unfold executeCapture
  refine Uses.bind (uses_stageCapture.mono fun _ h => honly (precommits_of_unmarked h))
    fun ckpt => ?_
  refine Uses.bind (uses_sealCapture.mono fun _ => honly) fun sealed => ?_
  refine Uses.bind (uses_persistCapture.mono fun _ => honly) fun _ => ?_
  refine Uses.bind (uses_call.mpr trivial) fun _ => Uses.bind (uses_db ⟨rfl, rfl⟩) fun _ => ?_
  unfold finishCapture
  refine Uses.bind (uses_callNode (fun _ h => honly (precommits_of_reads h)) trivial)
    fun answer => Uses.ite (Uses.bind (uses_db trivial) fun _ => trivial) ?_
  refine Uses.bind (uses_db trivial) fun _ => ?_
  refine Uses.bind (uses_replicateToPolicy.mono fun _ h =>
    honly (precommits_of_unmarked (unmarked_of_tends h)))
    fun _ => ?_
  refine Uses.bind (uses_db trivial) fun _ => Uses.bind (uses_db trivial) fun _ => ?_
  exact Uses.bind (uses_call.mpr trivial) fun _ => trivial

/-- Whether a capture that has committed is reported as it was resumed. -/
def Decided (settings : Settings) (id : Id) (key : AttemptId) (ds : List FabricDeed)
    (result : FabricResult OperationOutcome) : Prop :=
  Reported key ds result ↔ FinishedCleanly settings id key ds ∨ AbortCutOff key ds

theorem decided_of_cleanly {outcome : OperationOutcome}
    (h : FinishedCleanly settings id key ds) : Decided settings id key ds (.ok outcome) :=
  ⟨fun _ => .inl h, fun _ => reported_ok_iff.mpr ⟨h.resumed, none, h.lastOutcome_eq⟩⟩

theorem decided_of_not_refused {e : FabricError} (h : ¬ Refused key ds)
    (hcleanly : ¬ FinishedCleanly settings id key ds) :
    Decided settings id key ds (.error e) := by
  constructor
  · intro hreported
    obtain ⟨-, before, text, hlast, -⟩ := reported_error_iff.mp hreported
    exact absurd (refused_of_lastOutcome hlast) h
  · rintro (hclean | hcut)
    · exact absurd hclean hcleanly
    · exact absurd hcut.1 h

/-- After the handler, an error is reported faithfully only if the handler was cut off. -/
theorem decided_of_aborted {ds' : List FabricDeed} {e : FabricError}
    (hmiddle : Finished settings id key ds (.error e)) (haborted : Aborted key ds ds')
    {recent : List FabricDeed} (hrecent : ∀ d ∈ recent, Closes d.op) (hds' : ds' = recent ++ ds) :
    Decided settings id key ds' (.error e) := by
  cases haborted with
  | settled hlast =>
    constructor
    · intro hreported
      obtain ⟨-, before, text, heq, -⟩ := reported_error_iff.mp hreported
      exact absurd heq (hlast _)
    · rintro (hcleanly | ⟨-, -, op, e', older, heq, hop⟩)
      · cases hcleanly.head_eq
      · cases heq
        exact absurd rfl hop
  | @cutOff op e' older hop hlast =>
    have hnotclean : ¬ FinishedCleanly settings id key (⟨.db op, .error e'⟩ :: older) := by
      intro hcleanly
      cases hcleanly.head_eq
    cases hmiddle with
    | broken hrefused _ =>
      exact decided_of_not_refused (hds' ▸ not_refused_append hrecent hrefused) hnotclean
    | @refused _ before text _ heq herror =>
      have heq' := hlast.trans heq
      constructor
      · intro hreported
        have hresumed := (reported_error_iff.mp hreported).1
        exact .inr ⟨refused_of_lastOutcome heq', hresumed, op, e', older, rfl, hop⟩
      · rintro (hcleanly | ⟨-, hresumed, -⟩)
        · exact absurd hcleanly hnotclean
        · refine reported_error_iff.mpr ⟨hresumed, before, text, heq', herror.mono ?_⟩
          rw [hds']
          exact List.subset_append_right _ _

/-- A capture that commits reports faithfully whether the source was resumed, if it has finished
cleanly, or if its handler was cut off; and not otherwise. -/
theorem obeys_requestCapture_outcome {options : CaptureOptions} {ctx : OperationContext} :
    Obeys (fun _ _ => True)
      (fun ds' result => ∀ id key, ⟨.db (.captureCommit id key), .ok ()⟩ ∈ ds' →
        Decided settings id key ds' result)
      [] (requestCapture settings workloadId options ctx) := by
  have herror : ∀ ds' (e : FabricError), (∀ d ∈ ds', Precommits d.op) → ∀ id key,
      ⟨.db (.captureCommit id key), .ok ()⟩ ∈ ds' → Decided settings id key ds' (.error e) :=
    fun ds' _ hds' _ _ hmem => absurd (hds' _ hmem) not_false
  have hnil : ∀ d ∈ ([] : List FabricDeed), Precommits d.op :=
    fun _ hd => absurd hd List.not_mem_nil
  unfold requestCapture
  refine obeys_precommits_bind uses_admitCapture hnil herror fun ds₁ run h₁ => ?_
  refine obeys_precommits_bind uses_reserveCapture h₁ herror fun ds₂ _ h₂ => ?_
  -- The only capture that is committed is that of the run.
  suffices hrun : Obeys (fun _ _ => True)
      (fun ds' result => Uncaptured ds' ∨
        Decided settings run.checkpointId run.attemptId ds' result) ds₂
      (mapErr (executeCapture settings run) fun e =>
        abortCaptureAttempt run.attemptId run.checkpointId workloadId s!"capture failed: {e}") by
    have honly : Uses (CommitsOnly run.checkpointId run.attemptId)
        (mapErr (executeCapture settings run) fun e =>
          abortCaptureAttempt run.attemptId run.checkpointId workloadId s!"capture failed: {e}") :=
      uses_mapErr uses_executeCapture_only fun _ =>
        uses_abortCaptureAttempt_closes.mono fun _ => commitsOnly_of_closes
    refine (hrun.and honly.obeys_recent).mono (fun _ _ _ => trivial) ?_
    rintro ds' result ⟨hdecided, recent, rfl, hrecent⟩ id key hmem
    rcases List.mem_append.mp hmem with hnew | hold
    · obtain ⟨rfl, rfl⟩ := hrecent _ hnew
      rcases hdecided with hnone | hdecided
      · obtain ⟨e, he⟩ := hnone _ _ _ hmem
        cases he
      · exact hdecided
    · exact absurd (h₂ _ hold) not_false
  refine obeys_mapErr (obeys_executeCapture_outcome h₂) (fun ds' outcome h => ?_)
    (fun ds' e hpanic h => ?_) fun ds' e hpanic h => ?_
  · refine h.imp_right fun hfinished => ?_
    cases hfinished with
    | cleanly hcleanly => exact decided_of_cleanly hcleanly
  · refine h.imp_right fun hfinished => ?_
    cases hfinished with
    | refused hnot => exact absurd hpanic hnot
    | broken hrefused hcleanly => exact decided_of_not_refused hrefused hcleanly
  · refine (obeys_abortCaptureAttempt_outcome.and
      uses_abortCaptureAttempt_closes.obeys_recent).mono (fun _ _ _ => trivial) ?_
    rintro ds'' result ⟨haborted, recent, hds'', hrecent⟩
    rcases h with hnone | hfinished
    · exact .inl (hds'' ▸ hnone.append hrecent)
    · exact .inr (decided_of_aborted hfinished haborted hrecent hds'')

end Capture

end CheckpointFabric.Coordinator
