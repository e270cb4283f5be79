import CheckpointFabric.Coordinator.Restore
import CheckpointFabric.Concurrency.Phases
import CheckpointFabric.Footprints.Basic

/-!
# The footprint of a restore

As for a capture: a restore reads, checks and draws its attempt id. From then on
everything it does is about the admitted run, in the order of the phases of a restore.
It commits once, and grants only what it committed.

## Main definitions

* `RestoreAdmitted` — what the deeds of an admitted restore show
* `RestoreRun.Performs`, `restorePhase` — the operations of an admitted run, and their order
* `RestoreRun.Backed` — the deeds behind an operation
* `RestoreDoes` — all that is known of an operation of a restore

## Main results

* `obeys_executeRestore` — a reserved restore performs the operations of its run, in order
-/

set_option autoImplicit false

namespace CheckpointFabric.Coordinator

open Concurrency Fabric

section Admission

/-- What the reads `ds` of an admission tell about the restore `run` of a checkpoint to a target. -/
structure RestoreChecked (settings : Settings) (checkpointId : Id) (targetNode : NodeId)
    (options : RestoreOptions) (ds : List FabricDeed) (run : RestoreRun) : Prop where
  target : run.targetNode = targetNode
  options_eq : run.options = options
  read : ⟨.db (.checkpointGet checkpointId), .ok (some run.ckpt)⟩ ∈ ds
  restorable : Restore.validateRestoreRequest run.ckpt settings.policy = .ok ()
  claim : ∃ workload : Workload,
    ⟨.db (.workloadGet run.ckpt.workloadId), .ok (some workload)⟩ ∈ ds ∧
    Restore.validateTargetClaim workload targetNode options.migration = .ok ()

/-- The deeds `ds` admitted the restore `run`, in a thread that had done `start` before. -/
structure RestoreAdmitted (settings : Settings) (checkpointId : Id) (targetNode : NodeId)
    (options : RestoreOptions) (start ds : List FabricDeed) (run : RestoreRun) : Prop
    extends RestoreChecked settings checkpointId targetNode options ds run where
  drawn : ∃ nonce ds₀, run.attemptId = .restore checkpointId nonce ∧
    ⟨.random, .ok nonce⟩ :: ds₀ <:+ ds ∧ ∀ d : FabricDeed, d ∈ ds₀ → d.op.Reads ∨ d ∈ start

theorem RestoreAdmitted.mono {settings : Settings} {checkpointId : Id} {targetNode : NodeId}
    {options : RestoreOptions} {start ds ds' : List FabricDeed} {run : RestoreRun}
    (h : RestoreAdmitted settings checkpointId targetNode options start ds run)
    (hsuffix : ds <:+ ds') :
    RestoreAdmitted settings checkpointId targetNode options start ds' run := by
  obtain ⟨nonce, ds₀, hid, hnonce, hquiet⟩ := h.drawn
  obtain ⟨workload, hread, hclaim⟩ := h.claim
  exact { h with
    drawn := ⟨nonce, ds₀, hid, hnonce.trans hsuffix, hquiet⟩
    read := hsuffix.subset h.read
    claim := ⟨workload, hsuffix.subset hread, hclaim⟩ }

end Admission

section Phases

/-- The phases of a restore. It prepares the target, commits the generation, and finishes. -/
def restorePhase : Op → Option ℕ
  | .db (.restoreCommit _ _ _ _ _ _) => some 1
  | .db (.checkpointSetLifecycle _ .available _) | .db (.journalAppend _ _ .resumed _)
  | .db (.attemptFinish _ _ _ _) | .db (.reservationRelease _) | .call _ (.resume _)
  | .call _ (.cleanup _) => some 2
  | .db (.reservationCreate _ _ _ _ _ _) | .db (.attemptBegin _ _ _ _ _)
  | .db (.journalAppend _ _ _ _) | .db (.checkpointSetLifecycle _ _ _)
  | .db (.checkpointAddLocation _ _) | .call _ _ => some 0
  | _ => none

/-- A restore never goes back to an earlier phase, and commits when nothing is committed. -/
def restoreTimetable : Timetable fabricInterface where
  phase := restorePhase
  latest
    | .db (.restoreCommit _ _ _ _ _ _) => some 0
    | op => restorePhase op

theorem restorePhase_le (op : Op) : ∀ k ∈ restorePhase op, k ≤ 2 := by
  intro k hk
  unfold restorePhase at hk
  split at hk <;> simp at hk <;> omega

theorem restorePhase_of_reads {op : Op} (h : op.Reads) : restorePhase op = none := by
  cases op with
  | db op => cases op <;> first | rfl | exact absurd h not_false
  | claim => exact absurd h not_false
  | call => exact absurd h not_false
  | _ => rfl

theorem restorePhase_of_commits {op : Op} (h : op.CommitsRestore) : restorePhase op = some 1 := by
  cases op with
  | db op => cases op <;> first | rfl | exact absurd h not_false
  | _ => exact absurd h not_false

/-- Whatever does not commit belongs to the phase it is in. -/
theorem inPhase_of_restorePhase {op : Op} {n : ℕ} (h : restorePhase op = some n) (hn : n ≠ 1) :
    InPhase restoreTimetable n op := by
  have hlatest : restoreTimetable.latest op = restorePhase op := by
    unfold restoreTimetable
    dsimp only
    split
    · exact absurd (Option.some.inj h).symm hn
    · rfl
  constructor
  · intro k hk
    exact Nat.le_of_eq (Option.some.inj (h.symm.trans (hlatest.symm.trans hk)))
  · intro k hk
    exact Nat.le_of_eq (Option.some.inj (hk.symm.trans h))

end Phases

namespace RestoreRun

variable (checkpointId : Id) (run : RestoreRun)

/-- The calls of the store that an admitted restore of `checkpointId` makes to write. -/
def Writes : StoreOp → Prop
  | .reservationCreate id kind workloadId ckpt node _ =>
    id = run.attemptId ∧ kind = .restore ∧ workloadId = none ∧ ckpt = some checkpointId ∧
      node = run.targetNode
  | .attemptBegin id kind ckpt workloadId node =>
    id = run.attemptId ∧ kind = (if run.options.rollback then .rollback else .restore) ∧
      ckpt = some checkpointId ∧ workloadId = some run.ckpt.workloadId ∧ node = run.targetNode
  | .journalAppend kind key state _ =>
    kind = .restore ∧ key = run.attemptId ∧ (state = .reserved ∨ state = .provisioned ∨
      state = .componentsRestored ∨ state = .resumed)
  | .checkpointSetLifecycle id lifecycle integrity =>
    id = run.ckpt.checkpointId ∧
      ((lifecycle = .restorePending ∨ lifecycle = .restoring) ∧ integrity = .pending ∨
        lifecycle = .available ∧ integrity = .valid)
  | .checkpointAddLocation id location =>
    id = run.ckpt.checkpointId ∧ location.node = run.targetNode
  | .restoreCommit id attemptId node _ migration rollback =>
    id = run.ckpt.checkpointId ∧ attemptId = run.attemptId ∧ node = run.targetNode ∧
      migration = run.options.migration ∧ rollback = run.options.rollback
  | .attemptFinish id _ _ _ => id = run.attemptId
  | .reservationRelease id => id = run.attemptId
  | _ => False

/-- The messages that an admitted restore sends. -/
def Sends : NodeId → NodeRequest → Prop
  | _, .allowFetch req => req.checkpointId = run.ckpt.checkpointId
  | node, .probe req => node = run.targetNode ∧ req.checkpointId = run.ckpt.checkpointId
  | node, .replicate req =>
    node = run.targetNode ∧ req.attemptId = run.attemptId ∧
      req.checkpointId = run.ckpt.checkpointId
  | node, .restore req =>
    node = run.targetNode ∧ req.attemptId = run.attemptId ∧
      req.checkpointId = run.ckpt.checkpointId ∧ req.workloadId = run.ckpt.workloadId
  | node, .resume req =>
    node = run.targetNode ∧ req.attemptId = run.attemptId ∧
      req.checkpointId = run.ckpt.checkpointId ∧ req.workloadId = run.ckpt.workloadId
  | _, .cleanup req =>
    req.stagingAttempts = [run.attemptId] ∧ req.checkpointIds = [] ∧
      req.restoreAttempts =
        [{ attemptId := run.attemptId
           checkpointId := run.ckpt.checkpointId
           workloadId := run.ckpt.workloadId }]
  | _, _ => False

/-- The operations of an admitted restore. -/
def Performs : Op → Prop
  | .db op => op.Reads ∨ run.Writes checkpointId op
  | .claim _ _ _ => False
  | .call node request => run.Sends node request
  | .now | .epoch | .random | .fire _ => True

/-- The deeds reserved the checkpoint and opened the attempt. -/
structure Begun (ds : List FabricDeed) : Prop where
  reserved : ⟨.db (.reservationCreate run.attemptId .restore none (some checkpointId)
    run.targetNode reservationTtlMs), .ok ()⟩ ∈ ds
  opened : ⟨.db (.attemptBegin run.attemptId (if run.options.rollback then .rollback else .restore)
    (some checkpointId) (some run.ckpt.workloadId) run.targetNode), .ok ()⟩ ∈ ds

/-- The deed is the commit of the run, under this token. -/
def Commits (token : FenceToken) (d : FabricDeed) : Prop :=
  d = ⟨.db (.restoreCommit run.ckpt.checkpointId run.attemptId run.targetNode token
    run.options.migration run.options.rollback), .ok ()⟩

/-- Since the row of the attempt was read, its target was told to roll back what the attempt left,
unless it could not be found or there is no attempt. -/
def RolledBack (ds : List FabricDeed) : Prop :=
  ∃ recent row older, ds = recent ++ ⟨.db (.attemptGet run.attemptId), .ok row⟩ :: older ∧
    (∀ d ∈ recent, d.op.restoreKey = none) ∧
    ∀ a : AttemptRecord, row = some a → ∃ result, Ended recent a.node (restoreCleanup run.attemptId
      run.ckpt.checkpointId run.ckpt.workloadId) result

/-- The deeds behind the recorded outcome of the attempt. -/
def Settles (ds : List FabricDeed) (state : AttemptState) : Prop :=
  if state = .failed then
    Looked ds .restore run.attemptId .generationCommitted false ∧ run.RolledBack ds
  else Looked ds .restore run.attemptId .generationCommitted true ∨
    ∃ token, ∃ d ∈ ds, run.Commits token d

/-- The handler of a failed restore could not read what it decides from. -/
def Unread (d : FabricDeed) : Prop :=
  ∃ e, d = ⟨.db (.journalHas .restore run.attemptId .generationCommitted), .error e⟩ ∨
    d = ⟨.db (.attemptGet run.attemptId), .error e⟩

/-- The restore panicked where its target may have begun. -/
def Panics (d : FabricDeed) : Prop :=
  ∃ e : FabricError, e.isPanic ∧
    ((∃ node req, req.attemptId = run.attemptId ∧ d = ⟨.call node (.restore req), .error e⟩) ∨
      ∃ detail, d = ⟨.db (.journalAppend .restore run.attemptId .componentsRestored detail),
        .error e⟩)

/-- How a restore ends that has asked its target to restore: that was journaled, or a commit was
found, or the target was told to roll back; or the handler could not read on, or did not run. -/
inductive Accounted (ds : List FabricDeed) : Prop
  | applied {detail : String} :
    ⟨.db (.journalAppend .restore run.attemptId .componentsRestored detail), .ok ()⟩ ∈ ds →
    Accounted ds
  | committed : Looked ds .restore run.attemptId .generationCommitted true → Accounted ds
  | rolledBack : run.RolledBack ds → Accounted ds
  | unread {d : FabricDeed} {older : List FabricDeed} : ds = d :: older → run.Unread d →
    Accounted ds
  | panicked {d : FabricDeed} : d ∈ ds → run.Panics d → Accounted ds

/-- The grant of the run: the token it committed, and the epoch of the row that was read last,
after the commit. -/
def Grants (ds : List FabricDeed) (req : NodeResumeRequest) : Prop :=
  ∃ token w older, req.fenceToken = some token ∧ req.executionEpoch = some w.executionEpoch ∧
    LastRead ds run.ckpt.workloadId w older ∧ ∃ d ∈ older, run.Commits token d

/-- The deeds behind an operation. -/
def Backed (ds : List FabricDeed) : Op → Prop
  | .db (.checkpointSetLifecycle id .available _) =>
    Looked ds .restore run.attemptId .generationCommitted false ∧
      JustRead ds id fun l => l = .restorePending ∨ l = .restoring
  | .db (.checkpointSetLifecycle id lifecycle _) => JustRead ds id (·.canTransition lifecycle)
  | .db (.journalAppend _ _ .componentsRestored _) =>
    ∃ req answer, answer.ok = true ∧ ⟨.call run.targetNode (.restore req), .ok answer⟩ ∈ ds
  | .db (.restoreCommit _ _ _ _ _ _) => ∃ detail : String,
    ⟨.db (.journalAppend .restore run.attemptId .componentsRestored detail), .ok ()⟩ ∈ ds
  | .db (.journalAppend _ _ .resumed _) => ∃ token, ∃ d ∈ ds, run.Commits token d
  | .db (.attemptFinish _ state _ _) => run.Settles ds state
  | .call node (.restore _) =>
    ∃ nodes : List NodeRecord, ⟨.db .nodeList, .ok nodes⟩ ∈ ds ∧ ListsNode nodes node
  | .call _ (.resume req) => run.Grants ds req
  | .call _ (.cleanup _) => Looked ds .restore run.attemptId .generationCommitted false
  | _ => True

variable {checkpointId run}

theorem RolledBack.cons {ds : List FabricDeed} {d : FabricDeed} (h : run.RolledBack ds)
    (hd : d.op.restoreKey = none) : run.RolledBack (d :: ds) := by
  obtain ⟨recent, row, older, rfl, hrecent, hended⟩ := h
  refine ⟨d :: recent, row, older, rfl, fun d' hd' => ?_, fun a ha => ?_⟩
  · rcases List.mem_cons.mp hd' with rfl | hd'
    · exact hd
    · exact hrecent d' hd'
  · obtain ⟨result, hresult⟩ := hended a ha
    exact ⟨result, hresult.mono (List.subset_cons_self d recent)⟩

theorem Begun.mono {ds ds' : List FabricDeed} (h : run.Begun checkpointId ds)
    (hsuffix : ds <:+ ds') : run.Begun checkpointId ds' where
  reserved := hsuffix.subset h.reserved
  opened := hsuffix.subset h.opened

end RestoreRun

/-- What is known of an operation of the admitted restore `run` after the deeds `ds`. -/
structure RestoreDoes (settings : Settings) (checkpointId : Id) (targetNode : NodeId)
    (options : RestoreOptions) (start ds : List FabricDeed) (op : Op) (run : RestoreRun) : Prop where
  admitted : RestoreAdmitted settings checkpointId targetNode options start ds run
  performs : run.Performs checkpointId op
  inTurn : InTurn restoreTimetable (drawsAttempt run.attemptId) ds op
  begun : op.Opens ∨ run.Begun checkpointId ds
  backed : run.Backed ds op

/-- What a thread that runs a restore may do after the deeds `ds`, when it had done `start` before
that. -/
def RestorePermits (settings : Settings) (checkpointId : Id) (targetNode : NodeId)
    (options : RestoreOptions) (start ds : List FabricDeed) (op : Op) : Prop :=
  op.Reads ∨ ∃ run, RestoreDoes settings checkpointId targetNode options start ds op run

section Parts

variable {settings : Settings} {checkpointId : Id} {targetNode : NodeId} {options : RestoreOptions}
  {run : RestoreRun} {start base ds : List FabricDeed} {n m : ℕ}

open RestoreRun

/-- The deeds continue `base`, and the run is within phase `n`. -/
abbrev RestoreRun.At (run : RestoreRun) (base : List FabricDeed) (n : ℕ) (ds : List FabricDeed) :
    Prop :=
  Concurrency.At restoreTimetable (drawsAttempt run.attemptId) base n ds

theorem RestoreRun.at_cons_of_reads (h : run.At base n ds) (op : Op) (hop : op.Reads)
    (reply : FabricResult op.Reply) : run.At base n (⟨op, reply⟩ :: ds) :=
  h.cons fun _ hk => nomatch (restorePhase_of_reads hop).symm.trans hk

/-- A restore may read at any time. -/
theorem restoreReads (ds : List FabricDeed) (op : Op) (h : run.At base n ds) (hop : op.Reads) :
    RestorePermits settings checkpointId targetNode options start ds op ∧
      ∀ reply, run.At base n (⟨op, reply⟩ :: ds) :=
  ⟨.inl hop, at_cons_of_reads h op hop⟩

section Begun

variable (hadmitted : RestoreAdmitted settings checkpointId targetNode options start base run)
  (hbegun : run.Begun checkpointId base)
include hadmitted hbegun

/-- An operation of the run in its phase. -/
theorem restoreDoes {op : Op} (h : run.At base n ds) (hperforms : run.Performs checkpointId op)
    (hphase : restorePhase op = some n) (hn : n ≠ 1) (hbacked : run.Backed ds op) :
    RestorePermits settings checkpointId targetNode options start ds op ∧
      ∀ reply, run.At base n (⟨op, reply⟩ :: ds) := by
  have hop := inPhase_of_restorePhase hphase hn
  refine ⟨.inr ⟨run, ?_⟩, fun reply => h.cons hop.2⟩
  exact
    { admitted := hadmitted.mono h.suffix
      performs := hperforms
      inTurn := hop.inTurn h.within
      begun := .inr (hbegun.mono h.suffix)
      backed := hbacked }

theorem keeps_restoreWrites {op : StoreOp} (hwrites : run.Writes checkpointId op)
    (hphase : restorePhase (.db op) = some n) (hn : n ≠ 1)
    (hbacked : ∀ ds, base <:+ ds → run.Backed ds (.db op)) :
    Keeps (RestorePermits settings checkpointId targetNode options start) (run.At base n) (db op) :=
  fun ds h => restoreDoes hadmitted hbegun h (.inr hwrites) hphase hn (hbacked ds h.suffix)

theorem keeps_restoreSends {node : NodeId} {request : NodeRequest} (hsends : run.Sends node request)
    (hphase : restorePhase (.call node request) = some n) (hn : n ≠ 1)
    (hbacked : ∀ ds, base <:+ ds → run.Backed ds (.call node request)) :
    Keeps (RestorePermits settings checkpointId targetNode options start) (run.At base n)
      (callNode node request) :=
  keeps_callNode restoreReads fun ds h =>
    restoreDoes hadmitted hbegun h hsends hphase hn (hbacked ds h.suffix)

/-- The lifecycle updates of a running restore. -/
theorem keeps_restoreLifecycle {target : LifecycleState}
    (htarget : target = .restorePending ∨ target = .restoring) :
    Keeps (RestorePermits settings checkpointId targetNode options start) (run.At base 0)
      (setLifecycle run.ckpt target) := by
  refine keeps_setLifecycle restoreReads fun ds h hread => ?_
  have hwrites : run.Performs checkpointId
      (.db (.checkpointSetLifecycle run.ckpt.checkpointId target .pending)) :=
    .inr ⟨rfl, .inl ⟨htarget, rfl⟩⟩
  rcases htarget with rfl | rfl
  all_goals exact restoreDoes hadmitted hbegun h hwrites rfl (by decide) hread

theorem keeps_ensureReplica :
    Keeps (RestorePermits settings checkpointId targetNode options start) (run.At base 0)
      (ensureReplica run) := by
  unfold ensureReplica
  refine Keeps.bind (keeps_of_reads restoreReads (uses_firstActive fun _ => id)) fun _ => ?_
  refine Keeps.bind keeps_okOr fun source => ?_
  refine Keeps.bind (keeps_of_reads restoreReads (uses_call.mpr trivial)) fun _ => ?_
  refine Keeps.bind (keeps_restoreSends hadmitted hbegun rfl rfl (by decide) fun _ _ => trivial)
    fun _ => ?_
  refine Keeps.bind (keeps_of_reads restoreReads (uses_nodeAddr fun _ => id)) fun _ => ?_
  refine Keeps.bind keeps_okOr fun _ => ?_
  refine Keeps.bind (keeps_restoreSends hadmitted hbegun ⟨rfl, rfl, rfl⟩ rfl (by decide)
    fun _ _ => trivial) fun _ => ?_
  exact Keeps.bind keeps_ensure fun _ =>
    keeps_restoreWrites hadmitted hbegun ⟨rfl, rfl⟩ rfl (by decide) fun _ _ => trivial

theorem keeps_provisionRestore :
    Keeps (RestorePermits settings checkpointId targetNode options start) (run.At base 0)
      (provisionRestore run) := by
  have hrestoring : Keeps (RestorePermits settings checkpointId targetNode options start)
      (run.At base 0) (setLifecycle run.ckpt .restoring) :=
    keeps_restoreLifecycle hadmitted hbegun (.inr rfl)
  unfold provisionRestore
  refine Keeps.bind (keeps_restoreLifecycle hadmitted hbegun (.inl rfl)) fun _ => ?_
  refine Keeps.bind (keeps_restoreWrites hadmitted hbegun ⟨rfl, rfl, .inr (.inl rfl)⟩ rfl
    (by decide) fun _ _ => trivial) fun _ => ?_
  refine Keeps.bind (keeps_restoreSends hadmitted hbegun ⟨rfl, rfl⟩ rfl (by decide)
    fun _ _ => trivial) fun _ => ?_
  exact Keeps.ite hrestoring (Keeps.bind (keeps_ensureReplica hadmitted hbegun) fun _ => hrestoring)

end Begun

section Run

variable (hadmitted : RestoreAdmitted settings checkpointId targetNode options start base run)
  (hbegun : run.Begun checkpointId base)
include hadmitted hbegun

/-- Applying ends with the restored components journaled. -/
theorem obeys_applyRestore (h : run.At base 0 ds) :
    Obeys (RestorePermits settings checkpointId targetNode options start)
      (fun ds' result => ∀ u, result = .ok u → run.At base 0 ds' ∧ ∃ detail : String,
        ⟨.db (.journalAppend .restore run.attemptId .componentsRestored detail), .ok ()⟩ ∈ ds')
      ds (applyRestore settings run) := by
  have herror : ∀ (ds' : List FabricDeed) (e : FabricError), ∀ u : Unit,
      Except.error e = Except.ok u → run.At base 0 ds' ∧ ∃ detail : String,
        ⟨.db (.journalAppend .restore run.attemptId .componentsRestored detail), .ok ()⟩ ∈ ds' :=
    fun _ _ _ h => nomatch h
  unfold applyRestore
  refine obeys_okOr_bind herror fun digest _ => ?_
  have hlisted := at_cons_of_reads h (.db .nodeList) trivial
  have hcall : Obeys (RestorePermits settings checkpointId targetNode options start)
      (fun ds' _ => run.At base 0 ds') ds (callNode run.targetNode (.restore
        { attemptId := run.attemptId
          checkpointId := run.ckpt.checkpointId
          workloadId := run.ckpt.workloadId
          expectedManifestDigest := digest
          maxComponentBytes := settings.policy.maxComponentBytes })) :=
    obeys_callNode (.inl trivial) hlisted fun nodes hnode =>
      restoreDoes hadmitted hbegun (hlisted (.ok nodes)) ⟨rfl, rfl, rfl, rfl⟩ rfl (by decide)
        ⟨nodes, .head _, hnode⟩
  rw [obeys_bind]
  refine (hcall.and (obeys_callNode_ended run.targetNode (.restore _))).mono (fun _ _ h => h.1)
    fun ds₁ result h₁ => ?_
  obtain ⟨hat, hended⟩ := h₁
  cases result with
  | error e => exact herror ds₁ e
  | ok answer =>
  rw [Program.onValue_ok]
  refine obeys_ensure_bind herror fun hok => ?_
  -- The node answered, so the answer is the last thing that happened.
  obtain ⟨nodes, hds₁⟩ := hended.resolve_right fun ⟨_, _, _, h, _⟩ => nomatch h
  have hbacked : ∃ (req : NodeRestoreRequest) (answer : NodeRestoreResult), answer.ok = true ∧
      ⟨.call run.targetNode (.restore req), .ok answer⟩ ∈ ds₁ := by
    rw [hds₁]
    exact ⟨_, answer, hok, .head _⟩
  have hjournal : RestorePermits settings checkpointId targetNode options start ds₁
        (.db (.journalAppend .restore run.attemptId .componentsRestored "components restored")) ∧
      ∀ reply, run.At base 0 (⟨.db (.journalAppend .restore run.attemptId .componentsRestored
        "components restored"), reply⟩ :: ds₁) :=
    restoreDoes hadmitted hbegun hat (.inr ⟨rfl, rfl, .inr (.inr (.inl rfl))⟩) rfl (by decide)
      hbacked
  refine ⟨hjournal.1, fun reply u hu => ⟨hjournal.2 reply, "components restored", ?_⟩⟩
  rw [show reply = .ok () from hu]
  exact .head _

/-- The commit, and the row that is read back after it. -/
theorem obeys_commitRestore (h : run.At base 0 ds)
    (happlied : ∃ detail : String,
      ⟨.db (.journalAppend .restore run.attemptId .componentsRestored detail), .ok ()⟩ ∈ base) :
    Obeys (RestorePermits settings checkpointId targetNode options start)
      (fun ds' result => ∀ committed, result = .ok committed → run.At base 1 ds' ∧
        ∃ older, LastRead ds' run.ckpt.workloadId committed.2 older ∧
          ∃ d ∈ older, run.Commits committed.1 d)
      ds (commitRestore run) := by
  have herror : ∀ (ds' : List FabricDeed) (e : FabricError), ∀ committed : FenceToken × Workload,
      Except.error e = Except.ok committed → run.At base 1 ds' ∧
        ∃ older, LastRead ds' run.ckpt.workloadId committed.2 older ∧
          ∃ d ∈ older, run.Commits committed.1 d := fun _ _ _ h => nomatch h
  unfold commitRestore
  refine Obeys.bind herror ((keeps_of_reads restoreReads uses_fire ds h).weaken
    fun _ _ h _ _ => h) fun ds₁ _ h₁ => ?_
  have htoken : Uses Op.Reads (restoreToken run) := by
    unfold restoreToken
    split
    · trivial
    · exact uses_call.mpr trivial
  refine Obeys.bind herror ((keeps_of_reads restoreReads htoken ds₁ h₁).weaken
    fun _ _ h _ _ => h) fun ds₂ token h₂ => ?_
  -- The commit is the one operation that leaves its phase behind.
  have hcommit : RestorePermits settings checkpointId targetNode options start ds₂
      (.db (.restoreCommit run.ckpt.checkpointId run.attemptId run.targetNode token
        run.options.migration run.options.rollback)) := by
    obtain ⟨detail, hdetail⟩ := happlied
    exact .inr ⟨run,
      { admitted := hadmitted.mono h₂.suffix
        performs := .inr ⟨rfl, rfl, rfl, rfl, rfl⟩
        inTurn := fun k hk => Option.some.inj hk ▸ h₂.within
        begun := .inr (hbegun.mono h₂.suffix)
        backed := ⟨detail, h₂.suffix.subset hdetail⟩ }⟩
  refine obeys_call_bind herror hcommit fun u => ?_
  have h₃ : run.At base 1 (⟨.db (.restoreCommit run.ckpt.checkpointId run.attemptId
      run.targetNode token run.options.migration run.options.rollback), .ok u⟩ :: ds₂) :=
    (h₂.mono (by decide)).cons fun k hk => Nat.le_of_eq (Option.some.inj hk).symm
  refine obeys_call_bind herror (.inl trivial) fun row => ?_
  refine obeys_okOr_bind herror fun w hw => ?_
  subst hw
  have h₄ := at_cons_of_reads h₃ (.db (.workloadGet run.ckpt.workloadId)) trivial (.ok (some w))
  refine obeys_call_bind herror (.inl trivial) fun _ => ?_
  intro committed hresult
  obtain rfl := Except.ok.inj hresult
  refine ⟨?_, _, .cons rfl .start, _, .head _, rfl⟩
  exact at_cons_of_reads h₄ (.fire "restore.after_generation_commit") trivial (.ok ())

/-- What follows the answer of the target to its grant. -/
theorem keeps_closeRestore {resumed : Bool} {error : Option String} {outcome : OperationOutcome}
    (hcommitted : ∃ token, ∃ d ∈ base, run.Commits token d) :
    Keeps (RestorePermits settings checkpointId targetNode options start) (run.At base 2) (do
      journal .restore run.attemptId .resumed (if resumed then "resumed" else "not_resumed")
      attemptFinish run.attemptId (if resumed then .committed else .committedNoResume)
        (some (if resumed then "restore committed and resumed"
          else "restore committed without resume"))
        error
      reservationRelease run.attemptId
      fire "restore.after_commit"
      pure outcome) := by
  have hcommits : ∀ ds, base <:+ ds → ∃ token, ∃ d ∈ ds, run.Commits token d := by
    intro ds hsuffix
    obtain ⟨token, d, hd, hcommits⟩ := hcommitted
    exact ⟨token, d, hsuffix.subset hd, hcommits⟩
  refine Keeps.bind (keeps_restoreWrites hadmitted hbegun ⟨rfl, rfl, .inr (.inr (.inr rfl))⟩ rfl
    (by decide) hcommits) fun _ => ?_
  refine Keeps.bind (keeps_restoreWrites hadmitted hbegun rfl rfl (by decide)
    fun ds hsuffix => ?_) fun _ => ?_
  · show run.Settles ds _
    rw [Settles, if_neg (by cases resumed <;> decide)]
    exact .inr (hcommits ds hsuffix)
  · refine Keeps.bind (keeps_restoreWrites hadmitted hbegun rfl rfl (by decide)
      fun _ _ => trivial) fun _ => ?_
    exact Keeps.bind (keeps_of_reads restoreReads uses_fire) fun _ => keeps_done

/-- What follows the commit: the grant, and the closing of the attempt. -/
theorem obeys_finishRestore {token : FenceToken} {w : Workload} {older : List FabricDeed}
    (h : run.At base 2 ds) (hread : LastRead ds run.ckpt.workloadId w older)
    (hcommit : ∃ d ∈ older, run.Commits token d) :
    Obeys (RestorePermits settings checkpointId targetNode options start) (fun _ _ => True) ds
      (finishRestore run token w) := by
  have hcommitted : ∃ token, ∃ d ∈ ds, run.Commits token d := by
    obtain ⟨d, hd, hcommits⟩ := hcommit
    exact ⟨token, d, hread.suffix.subset (.tail _ hd), hcommits⟩
  have hgrant : Obeys (RestorePermits settings checkpointId targetNode options start)
      (fun ds' _ => run.At ds 2 ds') ds (callNode run.targetNode
        (grantResume run.attemptId run.ckpt.checkpointId run.ckpt.workloadId (some token)
          w.executionEpoch run.options.resume)) := by
    have hlisted := at_cons_of_reads (h.here (Nat.le_refl 2)) (.db .nodeList) trivial
    refine obeys_callNode (.inl trivial) hlisted fun nodes _ => ?_
    exact restoreDoes (hadmitted.mono h.suffix) (hbegun.mono h.suffix) (hlisted (.ok nodes))
      ⟨rfl, rfl, rfl, rfl⟩ rfl (by decide)
      ⟨token, w, older, rfl, rfl, .cons rfl hread, hcommit⟩
  unfold finishRestore
  refine Obeys.bind (fun _ _ => trivial) (hgrant.attempt.weaken fun _ _ h _ _ => h)
    fun ds₁ answer h₁ => ?_
  exact (keeps_closeRestore (hadmitted.mono h.suffix) (hbegun.mono h.suffix) hcommitted ds₁
    h₁).weaken fun _ _ _ => trivial

/-- A restore runs through its phases in order. -/
theorem obeys_executeRestore (h : run.At base 0 ds) :
    Obeys (RestorePermits settings checkpointId targetNode options start) (fun _ _ => True) ds
      (executeRestore settings run) := by
  unfold executeRestore
  refine Obeys.bind (fun _ _ => trivial) ((keeps_provisionRestore hadmitted hbegun ds h).weaken
    fun _ _ h _ _ => h) fun ds₁ _ h₁ => ?_
  refine Obeys.bind (fun _ _ => trivial) (obeys_applyRestore hadmitted hbegun h₁)
    fun ds₂ _ h₂ => ?_
  refine Obeys.bind (fun _ _ => trivial) (obeys_commitRestore (hadmitted.mono h₂.1.suffix)
    (hbegun.mono h₂.1.suffix) (h₂.1.here (Nat.le_refl 0)) h₂.2) fun ds₃ committed h₃ => ?_
  obtain ⟨hat, older, hread, hcommit⟩ := h₃
  have hsuffix := h₂.1.suffix.trans hat.suffix
  exact obeys_finishRestore (hadmitted.mono hsuffix) (hbegun.mono hsuffix)
    (hat.here (by decide)) hread hcommit

end Run

end Parts

section Abort

variable {allowed : Op → Prop} {run : RestoreRun} (hreads : ∀ op : Op, op.Reads → allowed op)
include hreads

theorem uses_returnToAvailable {id : Id}
    (hset : allowed (.db (.checkpointSetLifecycle id .available .valid))) :
    Uses allowed (returnToAvailable id) := by
  unfold returnToAvailable
  refine Uses.bind (uses_db (hreads _ trivial)) fun row => ?_
  cases row with
  | none => trivial
  | some c => exact Uses.ite (Uses.bind trivial fun _ => uses_db hset) trivial

/-- The abort puts the checkpoint back, and closes the attempt. -/
theorem uses_abortRestoreAttempt {detail : String}
    (hset : allowed (.db (.checkpointSetLifecycle run.ckpt.checkpointId .available .valid)))
    (hfinish : ∀ state result error, state ≠ .active →
      allowed (.db (.attemptFinish run.attemptId state result error)))
    (hrelease : allowed (.db (.reservationRelease run.attemptId)))
    (hcleanup : ∀ node, allowed (.call node
      (restoreCleanup run.attemptId run.ckpt.checkpointId run.ckpt.workloadId))) :
    Uses allowed (abortRestoreAttempt run detail) := by
  unfold abortRestoreAttempt
  refine Uses.bind (uses_db (hreads _ trivial)) fun committed => Uses.ite ?_ ?_
  · exact Uses.bind (uses_db (hfinish _ _ _ (by decide))) fun _ => uses_db hrelease
  · have hclose : Uses allowed (do
        returnToAvailable run.ckpt.checkpointId
        attemptFinish run.attemptId .failed none (some detail)
        reservationRelease run.attemptId) :=
      Uses.bind (uses_returnToAvailable hreads hset) fun _ =>
        Uses.bind (uses_db (hfinish _ _ _ (by decide))) fun _ => uses_db hrelease
    refine Uses.bind (uses_db (hreads _ trivial)) fun attempt => ?_
    cases attempt with
    | none => exact hclose
    | some a => exact Uses.bind (uses_callNode hreads (hcleanup _)).ignore fun _ => hclose

end Abort

end CheckpointFabric.Coordinator
