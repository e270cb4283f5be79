import CheckpointFabric.Footprints.Recovery

/-!
# How recovery decides an attempt

Recovery decides the attempts that it has listed one after the other, each by operations on this
attempt alone, and closes it as the last of them.

## Main definitions

* `Reconciles` — the operations by which an attempt is decided
* `CommitsFirst` — what is committed has not been finished before

## Main results

* `uses_reconcileAttempt` — an attempt is decided by operations on it
* `obeys_runRecovery_order` — no pass commits an attempt that it has finished
-/

set_option autoImplicit false

namespace CheckpointFabric.Coordinator

open Concurrency Fabric

section Uses

variable {allowed : Op → Prop} {a : AttemptRecord} {key : AttemptId} {state : AttemptState}
  {result error : Option String} {action : RecoveryAction}

/-- The operations by which recovery decides the attempt `a`. -/
def Reconciles (a : AttemptRecord) : Op → Prop
  | .db (.captureCommit _ key) => a.kind = .capture ∧ key = a.id
  | .db (.attemptFinish key _ _ _) | .db (.reservationRelease key) => key = a.id
  | .db (.checkpointSetLifecycle _ _ _) => True
  | op => op.Reads

theorem reconciles_of_reads {op : Op} (h : op.Reads) : Reconciles a op := by
  unfold Reconciles
  split <;> trivial

theorem uses_closing (hfinish : allowed (.db (.attemptFinish key state result error)))
    (hrelease : allowed (.db (.reservationRelease key))) :
    Uses allowed (closeAttempt key state result error >>= fun _ => pure action) :=
  Uses.bind (Uses.bind (uses_db hfinish) fun _ => uses_db hrelease) fun _ => trivial

theorem uses_closing_audit {op : String}
    (hfinish : allowed (.db (.attemptFinish key state result error)))
    (hrelease : allowed (.db (.reservationRelease key)))
    (haudit : allowed (.db (.auditAppend op))) :
    Uses allowed
      (closeAttempt key state result error >>= fun _ => audit op >>= fun _ => pure action) :=
  Uses.bind (Uses.bind (uses_db hfinish) fun _ => uses_db hrelease) fun _ =>
    Uses.bind (uses_db haudit) fun _ => trivial

theorem uses_recommitCapture {id : Id} (hreads : ∀ op : Op, op.Reads → allowed op)
    (hcommit : allowed (.db (.captureCommit id key)))
    (hfail : allowed (.db (.checkpointSetLifecycle id .failed .corrupt)))
    (hfinish : ∀ state result error, allowed (.db (.attemptFinish key state result error)))
    (hrelease : allowed (.db (.reservationRelease key))) :
    Uses allowed (recommitCapture key id) := by
  have haudit {op : String} : allowed (.db (.auditAppend op)) := hreads _ trivial
  unfold recommitCapture
  refine (uses_requireCheckpoint hreads).bind fun c => ?_
  refine Uses.bind (Uses.attempt (uses_db hcommit)) fun committed => ?_
  cases committed with
  | ok => exact uses_closing_audit (hfinish _ _ _) hrelease haudit
  | error e =>
    dsimp only
    split
    · exact Uses.bind trivial fun _ => Uses.bind (uses_db hfail) fun _ =>
        uses_closing_audit (hfinish _ _ _) hrelease haudit
    · exact uses_closing_audit (hfinish _ _ _) hrelease haudit

theorem uses_reconcileCapture (hkind : a.kind = .capture) :
    Uses (Reconciles a) (reconcileCapture a) := by
  unfold reconcileCapture
  refine Uses.bind (uses_db trivial) fun _ => Uses.bind (uses_db trivial) fun _ => ?_
  split
  · exact uses_closing rfl rfl
  split
  · exact uses_okOr.bind fun id => uses_recommitCapture (fun _ => reconciles_of_reads)
      ⟨hkind, rfl⟩ trivial (fun _ _ _ => rfl) rfl
  · exact uses_closing_audit rfl rfl trivial

theorem uses_reconcileRestore : Uses (Reconciles a) (reconcileRestore a) := by
  unfold reconcileRestore
  refine Uses.bind (uses_db trivial) fun _ => Uses.bind (uses_db trivial) fun _ => ?_
  refine Uses.bind (uses_db trivial) fun _ => ?_
  split
  · split
    · exact uses_closing_audit rfl rfl trivial
    · exact uses_closing rfl rfl
  split
  · cases a.checkpointId with
    | none => exact uses_closing_audit rfl rfl trivial
    | some id =>
      exact Uses.bind (uses_returnToAvailable (fun _ => reconciles_of_reads) trivial) fun _ =>
        uses_closing_audit rfl rfl trivial
  · exact uses_closing rfl rfl

/-- Recovery decides an attempt by operations on this attempt, and commits captures only. -/
theorem uses_reconcileAttempt : Uses (Reconciles a) (reconcileAttempt a) := by
  unfold reconcileAttempt
  cases hkind : a.kind with
  | capture => exact uses_reconcileCapture hkind
  | restore | rollback => exact uses_reconcileRestore

/-- Visiting the nodes reads and sends. -/
theorem uses_visitAction (hreads : ∀ op : Op, op.Reads → allowed op)
    (hsends : ∀ node request, allowed (.call node request)) :
    Uses allowed (visitAction action) := by
  have hresume {what : String} {node : NodeId} {request : NodeResumeRequest} :
      Uses allowed (confirmResume what node request) :=
    (uses_callNode hreads (hsends _ _)).bind fun _ => uses_ensure.mpr trivial
  have hcleanup {node : NodeId} {req : NodeCleanupRequest} :
      Uses allowed (confirmCleanup node req) := by
    refine (uses_callNode hreads (hsends _ _)).bind fun result => ?_
    split <;> trivial
  unfold visitAction
  refine Uses.bind (uses_db (hreads _ trivial)) fun row => ?_
  cases row with
  | none => trivial
  | some attempt =>
    refine (uses_nodeIsActive hreads).bind fun active => Uses.ite ?_ trivial
    cases action.kind with
    | capture =>
      unfold visitCapture
      dsimp only
      split
      · exact hresume.bind fun _ => hcleanup
      · exact hcleanup
    | restore =>
      unfold visitRestore
      dsimp only
      split
      · exact hcleanup
      · exact (uses_requireWorkload hreads).bind fun _ => hresume
      · trivial

end Uses

section Order

variable {ds : List FabricDeed} {a : AttemptRecord} {key : AttemptId}

/-- The operation finishes the attempt. -/
def Finishes (key : AttemptId) : Op → Prop
  | .db (.attemptFinish key' _ _ _) => key' = key
  | _ => False

/-- The attempt that the operation commits has not been finished before. -/
def CommitsFirst (ds : List FabricDeed) (op : Op) : Prop :=
  ∀ id key, op = .db (.captureCommit id key) → ∀ d ∈ ds, ¬ Finishes key d.op

/-- The operation commits no capture. -/
def Uncommitting : Op → Prop
  | .db (.captureCommit _ _) => False
  | _ => True

theorem uncommitting_of_reads {op : Op} (h : op.Reads) : Uncommitting op := by
  unfold Uncommitting
  split
  · exact absurd h not_false
  · trivial

theorem commitsFirst_of_uncommitting {op : Op} (h : Uncommitting op) : CommitsFirst ds op := by
  rintro id key rfl
  exact absurd h not_false

theorem obeys_of_uncommitting {α : Type} {p : Fabric α} (h : Uses Uncommitting p) :
    Obeys CommitsFirst (fun _ _ => True) ds p :=
  (Obeys.extend h fun _ _ _ => commitsFirst_of_uncommitting).weaken fun _ _ _ => trivial

theorem obeys_recommitCapture_order {id : Id} (hds : ∀ d ∈ ds, ¬ Finishes key d.op) :
    Obeys CommitsFirst (fun _ _ => True) ds (recommitCapture key id) := by
  unfold recommitCapture
  refine Obeys.bind (fun _ _ => trivial)
    (obeys_requireCheckpoint (commitsFirst_of_uncommitting trivial)) fun ds₁ ckpt hread => ?_
  refine ⟨?_, fun reply => ?_⟩
  · rintro id' key' heq d hd
    obtain ⟨-, rfl⟩ := StoreOp.captureCommit.inj (Op.db.inj heq)
    rcases List.mem_cons.mp (hread ▸ hd) with rfl | hd
    · exact not_false
    · exact hds d hd
  -- After the commit the attempt is closed, whatever came of it.
  · have hclose {state : AttemptState} {result error : Option String} {op : String}
        {action : RecoveryAction} : Uses Uncommitting
          (closeAttempt key state result error >>= fun _ => audit op >>= fun _ => pure action) :=
      uses_closing_audit trivial trivial trivial
    cases reply with
    | ok u => exact obeys_of_uncommitting hclose
    | error e =>
      refine obeys_ite (fun _ => ?_) fun _ => obeys_of_uncommitting hclose
      exact obeys_of_uncommitting
        (Uses.bind trivial fun _ => Uses.bind (uses_db trivial) fun _ => hclose)

/-- An attempt that has not been finished is committed, if at all, before it is finished. -/
theorem obeys_reconcileAttempt_order (hds : ∀ d ∈ ds, ¬ Finishes a.id d.op) :
    Obeys CommitsFirst (fun _ _ => True) ds (reconcileAttempt a) := by
  have hrestore (hkind : a.kind ≠ .capture) :
      Obeys CommitsFirst (fun _ _ => True) ds (reconcileAttempt a) := by
    refine obeys_of_uncommitting (uses_reconcileAttempt.mono fun op hop => ?_)
    unfold Reconciles at hop
    split at hop
    · exact absurd hop.1 hkind
    all_goals first | trivial | exact uncommitting_of_reads hop
  by_cases hkind : a.kind = .capture
  · unfold reconcileAttempt
    rw [hkind]
    show Obeys _ _ _ (reconcileCapture a)
    unfold reconcileCapture
    refine obeys_call_bind (fun _ _ => trivial) (commitsFirst_of_uncommitting trivial)
      fun hasPersisted => ?_
    refine obeys_call_bind (fun _ _ => trivial) (commitsFirst_of_uncommitting trivial)
      fun hasDb => ?_
    refine obeys_ite (fun _ => obeys_of_uncommitting (uses_closing trivial trivial)) fun _ => ?_
    refine obeys_ite (fun _ => ?_) fun _ =>
      obeys_of_uncommitting (uses_closing_audit trivial trivial trivial)
    refine obeys_okOr_bind (fun _ _ => trivial) fun id _ => obeys_recommitCapture_order ?_
    intro d hd
    rcases List.mem_cons.mp hd with rfl | hd
    · exact not_false
    rcases List.mem_cons.mp hd with rfl | hd
    · exact not_false
    · exact hds d hd
  · exact hrestore hkind

/-- The attempts that are left have different keys, and none of them was finished. -/
def Undecided (rest : List AttemptRecord) (ds : List FabricDeed) : Prop :=
  (rest.map (·.id)).Nodup ∧ ∀ a ∈ rest, ∀ d ∈ ds, ¬ Finishes a.id d.op

theorem Undecided.next {rest : List AttemptRecord} {recent : List FabricDeed}
    (h : Undecided (a :: rest) ds) (hrecent : ∀ d ∈ recent, Reconciles a d.op) :
    Undecided rest (recent ++ ds) := by
  obtain ⟨hnodup, hds⟩ := h
  rw [List.map_cons, List.nodup_cons] at hnodup
  refine ⟨hnodup.2, fun b hb d hd hfinishes => ?_⟩
  rcases List.mem_append.mp hd with hd | hd
  · have hop := hrecent d hd
    obtain ⟨op, reply⟩ := d
    dsimp only at hop hfinishes
    unfold Finishes at hfinishes
    split at hfinishes
    · have hsame : b.id = a.id := hfinishes.symm.trans hop
      exact hnodup.1 (hsame ▸ List.mem_map_of_mem hb)
    · exact hfinishes
  · exact hds b (.tail a hb) d hd hfinishes

/-- The attempts are decided one after the other. -/
theorem obeys_mapEach_order {attempts : List AttemptRecord} (h : Undecided attempts ds) :
    Obeys CommitsFirst (fun _ _ => True) ds (Program.mapEach attempts reconcileAttempt) := by
  refine obeys_mapEach_of_rest (fun a rest ds' h' => ?_) h
  refine ((obeys_reconcileAttempt_order (h'.2 a (.head rest))).and
    uses_reconcileAttempt.obeys_recent).mono (fun _ _ h => h.1) ?_
  rintro ds'' result ⟨-, recent, rfl, hrecent⟩
  exact h'.next hrecent

/-- If no listing names an attempt twice, what is committed has not been finished before. -/
def CommitsOnce (ds : List FabricDeed) (op : Op) : Prop :=
  (∀ attempts : List AttemptRecord, ⟨.db (.attemptsInState .active), .ok attempts⟩ ∈ ds →
    (attempts.map (·.id)).Nodup) → CommitsFirst ds op

theorem commitsOnce_of_uncommitting {op : Op} (h : Uncommitting op) : CommitsOnce ds op :=
  fun _ => commitsFirst_of_uncommitting h

/-- The operation neither commits a capture nor finishes an attempt. -/
def Steady (op : Op) : Prop := Uncommitting op ∧ ∀ key, ¬ Finishes key op

theorem obeys_of_steady {α : Type} {p : Fabric α} (h : Uses Steady p)
    (hds : ∀ d ∈ ds, ∀ key, ¬ Finishes key d.op) :
    Obeys CommitsOnce (fun ds' _ => ∀ d ∈ ds', ∀ key, ¬ Finishes key d.op) ds p := by
  have hpermits : Obeys CommitsOnce (fun ds' _ => ds <:+ ds') ds p :=
    Obeys.extend h fun _ _ _ hop => commitsOnce_of_uncommitting hop.1
  refine (hpermits.and h.obeys_recent).mono (fun _ _ hop => hop.1) ?_
  rintro ds' result ⟨-, recent, rfl, hrecent⟩ d hd
  exact (List.mem_append.mp hd).elim (fun hd => (hrecent d hd).2) (hds d)

/-- A pass lists the attempts before it decides any, and decides each of them once. -/
theorem obeys_reconcile_order {ctx : OperationContext} :
    Obeys CommitsOnce (fun _ _ => True) [] (reconcile ctx) := by
  have hstep {op : Op} {reply : FabricResult op.Reply} {ds : List FabricDeed}
      (hop : ∀ key, ¬ Finishes key op) (hds : ∀ d ∈ ds, ∀ key, ¬ Finishes key d.op) :
      ∀ d ∈ (⟨op, reply⟩ :: ds : List FabricDeed), ∀ key, ¬ Finishes key d.op := by
    intro d hd
    rcases List.mem_cons.mp hd with rfl | hd
    · exact hop
    · exact hds d hd
  have hmark {names : List NodeId} : Uses Steady (markStale names) :=
    Uses.forEach fun n _ => Uses.bind (uses_db ⟨trivial, fun _ => not_false⟩) fun _ =>
      uses_db ⟨trivial, fun _ => not_false⟩
  unfold reconcile
  refine obeys_call_bind (fun _ _ => trivial) (commitsOnce_of_uncommitting trivial) fun now => ?_
  refine obeys_call_bind (fun _ _ => trivial) (commitsOnce_of_uncommitting trivial)
    fun expired => ?_
  refine obeys_call_bind (fun _ _ => trivial) (commitsOnce_of_uncommitting trivial) fun now' => ?_
  refine obeys_call_bind (fun _ _ => trivial) (commitsOnce_of_uncommitting trivial) fun names => ?_
  refine Obeys.bind (fun _ _ => trivial) ((obeys_of_steady hmark ?_).weaken fun _ _ h _ _ => h)
    fun ds₁ _ hds₁ => ?_
  · refine hstep (fun _ => not_false) (hstep (fun _ => not_false) (hstep (fun _ => not_false)
      (hstep (fun _ => not_false) fun d hd => absurd hd List.not_mem_nil)))
  refine obeys_call_bind (fun _ _ => trivial) (commitsOnce_of_uncommitting trivial)
    fun attempts => ?_
  have hlisted : ∀ d ∈ (⟨.db (.attemptsInState .active), .ok attempts⟩ :: ds₁ : List FabricDeed),
      ∀ key, ¬ Finishes key d.op := hstep (fun _ => not_false) hds₁
  generalize hds₂ : (_ :: ds₁ : List FabricDeed) = ds₂ at hlisted ⊢
  have hdecide : Obeys CommitsOnce (fun _ _ => True) ds₂
      (Program.mapEach attempts reconcileAttempt) := by
    by_cases hnodup : (attempts.map (·.id)).Nodup
    · have hundecided : Undecided attempts ds₂ := ⟨hnodup, fun a _ d hd => hlisted d hd a.id⟩
      exact (obeys_mapEach_order hundecided).mono (fun _ _ hop _ => hop) fun _ _ _ => trivial
    -- The listing names an attempt twice, so there is nothing to show.
    · refine (Obeys.extend (Uses.of_true _) fun ds' op hsuffix _ hlistings => ?_).weaken
        fun _ _ _ => trivial
      exact absurd (hlistings attempts (hsuffix.subset (hds₂ ▸ .head _))) hnodup
  exact Obeys.bind (fun _ _ => trivial) (hdecide.weaken fun _ _ _ _ _ => (trivial : True))
    fun _ _ _ => trivial

/-- No pass of recovery commits an attempt that it has finished. -/
theorem obeys_runRecovery_order {ctx : OperationContext} :
    Obeys CommitsOnce (fun _ _ => True) [] (runRecovery ctx) := by
  unfold runRecovery
  refine Obeys.bind (fun _ _ => trivial)
    (obeys_reconcile_order.weaken fun _ _ _ _ _ => (trivial : True)) fun ds out _ => ?_
  have hvisits : Uses Uncommitting (Program.forEach out.actions visitAction) :=
    Uses.forEach fun _ _ => uses_visitAction (fun _ => uncommitting_of_reads) fun _ _ => trivial
  refine Obeys.bind (fun _ _ => trivial) ((Obeys.extend hvisits fun _ _ _ =>
    commitsOnce_of_uncommitting).weaken fun _ _ _ _ _ => (trivial : True)) fun _ _ _ => trivial

end Order

end CheckpointFabric.Coordinator
