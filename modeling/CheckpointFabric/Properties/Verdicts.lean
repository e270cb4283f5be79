import CheckpointFabric.Properties.Attempts
import CheckpointFabric.Properties.Images
import CheckpointFabric.Properties.Records

/-!
# Verdicts and commits

An attempt is committed by its own request or, if it is a persisted capture, by recovery; and it
is finished as FAILED by an abort of its request, or by recovery. Whoever fails it has looked its
commit up in the journal before, and nothing keeps another one from committing it in between. Where
that does not happen, the rows of the attempts and the journal agree.
-/

set_option autoImplicit false

namespace CheckpointFabric.Verdicts

open Concurrency Coordinator System

variable {settings : Settings} {t past past' : List (Event (fabric settings))}
  {e e' : Event (fabric settings)} {tid tid' : ℕ} {id : Id} {key : AttemptId}

section Definitions

/-- The journal entry of the commit of an attempt. -/
def commitOf : AttemptId → JournalKind × JournalState
  | .restore _ _ => (.restore, .generationCommitted)
  | .capture _ _ | .replicate _ _ => (.capture, .dbCommitted)

/-- The commit of the attempt is journaled. -/
def Committed (t : List (Event (fabric settings))) (key : AttemptId) : Prop :=
  Journaled t (commitOf key).1 key (commitOf key).2

/-- The attempt that a commit transaction commits. -/
def committedBy : StoreOp → Option AttemptId
  | .captureCommit _ key | .restoreCommit _ key _ _ _ _ => some key
  | _ => none

/-- The attempt that a call finishes as FAILED. -/
def failedBy : StoreOp → Option AttemptId
  | .attemptFinish key .failed _ _ => some key
  | _ => none

/-- The deed has looked the commit of the attempt up in the journal, and has not found it. -/
def findsUncommitted (key : AttemptId) : FabricDeed → Bool
  | ⟨.db (.journalHas kind key' state), .ok found⟩ =>
    key' = key ∧ (kind, state) = commitOf key ∧ found = false
  | _ => false

/-- The deed has listed the attempt as ACTIVE. -/
def listsAttempt (key : AttemptId) : FabricDeed → Bool
  | ⟨.db (.attemptsInState .active), .ok attempts⟩ => key ∈ attempts.map (·.id)
  | _ => false

/-- The look-up of the commit of the attempt in the journal, which does not find it. -/
abbrev missing (key : AttemptId) : FabricDeed :=
  ⟨.db (.journalHas (commitOf key).1 key (commitOf key).2), .ok false⟩

/-- The thread runs the request that has opened the attempt. -/
def Owns (tid : ℕ) (key : AttemptId) (past : List (Event (fabric settings))) : Prop :=
  (deeds tid past).any (drawsAttempt key)

instance : Decidable (Owns tid key past) := by
  unfold Owns
  infer_instance

/-- The thread has judged the attempt uncommitted. -/
def Judges (tid : ℕ) (key : AttemptId) (past : List (Event (fabric settings))) : Prop :=
  (deeds tid past).any (findsUncommitted key)

instance : Decidable (Judges tid key past) := by
  unfold Judges
  infer_instance

/-- The thread has listed the attempt. -/
def Lists (tid : ℕ) (key : AttemptId) (past : List (Event (fabric settings))) : Prop :=
  (deeds tid past).any (listsAttempt key)

instance : Decidable (Lists tid key past) := by
  unfold Lists
  infer_instance

/-- No attempt is committed that its own request has judged uncommitted, or that another request has
which is still at work. -/
def CommitsUnjudged (e : Event (fabric settings)) (past : List (Event (fabric settings))) : Prop :=
  ∀ call ∈ callOf e, ∀ key ∈ committedBy call.2, ∀ tid < admissions past,
    Owns tid key past ∨ tid ≠ call.1 ∧ Live tid past → ¬ Judges tid key past

instance : Decidable (CommitsUnjudged e past) := by
  unfold CommitsUnjudged
  infer_instance

/-- The thread has opened the attempt; or the attempt is a persisted capture, and the thread has
listed it. -/
def MayCommit (tid : ℕ) (key : AttemptId) (past : List (Event (fabric settings))) : Prop :=
  Owns tid key past ∨
    (stateOf past).store.journalHas .capture key .persisted = true ∧ Lists tid key past

instance : Decidable (MayCommit tid key past) := by
  unfold MayCommit
  infer_instance

/-- Where recovery finishes an attempt as FAILED, every other request that may commit it is over. -/
def FailsAbandoned (e : Event (fabric settings)) (past : List (Event (fabric settings))) : Prop :=
  ∀ call ∈ callOf e, ∀ key ∈ failedBy call.2, ∀ tid < admissions past,
    ¬ Owns call.1 key past ∧ tid ≠ call.1 ∧ Live tid past → ¬ MayCommit tid key past

instance : Decidable (FailsAbandoned e past) := by
  unfold FailsAbandoned
  infer_instance

/-- No attempt is committed that was finished as FAILED before. -/
def CommitsUnfailed (e : Event (fabric settings)) (past : List (Event (fabric settings))) : Prop :=
  ∀ call ∈ callOf e, ∀ key ∈ committedBy call.2,
    EveryStep (fun e' _ => ∀ call' ∈ callOf e', key ∉ failedBy call'.2) past

instance : Decidable (CommitsUnfailed e past) := by
  unfold CommitsUnfailed
  infer_instance

/-- The thread that asks a node to clean up, and the checkpoints whose directories are to go. -/
def removalOf : Event (fabric settings) → Option (ℕ × List Id)
  | .performed tid (.call _ (.cleanup req)) _ _ => some (tid, req.checkpointIds)
  | _ => none

/-- The request retires a checkpoint. -/
def retires : Request → Bool
  | .checkpointRetire _ _ => true
  | _ => false

/-- The event asks a node, for a request other than a retirement, to remove the committed directory
of the checkpoint. -/
def Removes (e : Event (fabric settings)) (past : List (Event (fabric settings))) (id : Id) :
    Prop :=
  ∃ removal ∈ removalOf e, id ∈ removal.2 ∧
    ∀ request ∈ requestOf removal.1 past, retires request = false

instance : Decidable (Removes e past id) := by
  unfold Removes
  infer_instance

end Definitions

section Actors

variable {op : StoreOp} {a : AttemptRecord}

theorem owns_iff_draws : Owns tid key t ↔ Draws t tid key := by
  unfold Owns Draws
  rw [List.any_eq_true]
  constructor
  · rintro ⟨d, hd, hdraws⟩
    exact eq_of_drawsId hdraws ▸ hd
  · exact fun hd => ⟨_, hd, by simp [drawsAttempt, drawsId]⟩

theorem Owns.mono (hsuffix : past <:+ t) (h : Owns tid key past) : Owns tid key t :=
  owns_iff_draws.mpr ((owns_iff_draws.mp h).mono hsuffix)

theorem Owns.unique (h : Run t) (howns : Owns tid key t) (howns' : Owns tid' key t) : tid = tid' :=
  (owns_iff_draws.mp howns).unique h (List.suffix_refl t) (owns_iff_draws.mp howns')

/-- A thread that has looked the commit up in vain has judged the attempt. -/
theorem judges_of_looked
    (h : Looked (deeds tid t) (commitOf key).1 key (commitOf key).2 false) : Judges tid key t :=
  List.any_eq_true.mpr ⟨_, h, by simp [findsUncommitted]⟩

/-- No pass of recovery commits a capture that it has finished. -/
theorem not_finishes_of_recovery {ctx : OperationContext} {input : Input} {before : World}
    (h : System.Run (S := fabric settings)
      (.performed tid (.db (.captureCommit id key)) input before :: t))
    (hrequest : requestOf tid t = some (.recovery ctx)) :
    ∀ d ∈ deeds tid t, ¬ Finishes key d.op := by
  have hserve : ∀ request : Request, Obeys
      (fun ds op => ∀ ctx, request = .recovery ctx → CommitsOnce ds op) (fun _ _ => True) []
      (request.serve settings) := by
    intro request
    cases request with
    | recovery ctx =>
      exact (obeys_answer obeys_runRecovery_order).mono (fun _ _ hop _ _ => hop)
        fun _ _ _ => trivial
    | _ =>
      refine (Obeys.extend (Uses.of_true _) fun _ _ _ _ ctx heq => ?_).weaken fun _ _ _ => trivial
      cases heq
  obtain ⟨request, hrequest', honce⟩ := h.permitted hserve
  obtain rfl := Option.some.inj (hrequest.symm.trans hrequest')
  refine honce ctx rfl (fun attempts hlisted => ?_) id key rfl
  have hreads : (StoreOp.attemptsInState .active).Reads := trivial
  obtain ⟨t', -, -, now, hread⟩ := exists_store_of_read h.tail hreads hlisted
  have hattempts : (stateOf t').store.attemptsInState .active = attempts :=
    (Prod.mk.inj (Except.ok.inj hread)).1
  rw [← hattempts, Store.attemptsInState]
  refine ((List.perm_insertionSort _ _).map _).nodup_iff.mpr ?_
  exact (stateOf t').store.attempts.nodup.sublist (List.filter_sublist.map _)

/-- Who commits an attempt. -/
inductive CommitCase (settings : Settings) (t : List (Event (fabric settings))) (tid : ℕ)
    (op : StoreOp) (key : AttemptId) : Prop
  | own : Owns tid key t → (∀ ctx, requestOf tid t ≠ some (.recovery ctx)) →
    (¬ Reached captureTimetable t key 4 ∨ ¬ Reached restoreTimetable t key 2) →
    CommitCase settings t tid op key
  | recovery {ctx : OperationContext} {a : AttemptRecord} {id : Id} :
    requestOf tid t = some (.recovery ctx) → op = .captureCommit id key →
    Listed (deeds tid t) a → a.id = key → a.kind = .capture →
    Looked (deeds tid t) .capture key .persisted true →
    (∀ d ∈ deeds tid t, ¬ Finishes key d.op) → CommitCase settings t tid op key

theorem commit_cases (h : Run (e :: t)) (hcall : callOf e = some (tid, op))
    (hkey : committedBy op = some key) : CommitCase settings t tid op key := by
  obtain ⟨reply, hcalls⟩ := exists_calls_of_callOf h hcall
  have hop : ¬ op.Reads := by
    intro hreads
    cases op <;> first | exact absurd hreads not_false | cases hkey
  obtain ⟨request, hrequest, hwriter⟩ := hcalls.writer h hop
  cases hwriter with
  | @capture _ _ run hasks hdoes hwrites =>
    have hcaptures := Captures.of_does hrequest hasks hdoes
    cases op with
    | captureCommit id key' =>
      obtain rfl := Option.some.inj hkey
      obtain ⟨-, rfl⟩ := hwrites
      refine .own (owns_iff_draws.mpr hcaptures.drawn_nonce) (fun ctx hrecovery => ?_)
        (.inl fun hreached => ?_)
      · obtain rfl := Option.some.inj (hrequest.symm.trans hrecovery)
        exact hasks
      exact absurd (capture_inTurn h.tail hdoes hcaptures rfl hreached) (by decide)
    | restoreCommit => exact absurd hwrites not_false
    | _ => cases hkey
  | @restore _ _ _ _ run hdoes hwrites hrestores =>
    have hdrawn := (Restores.of_does hrequest hrestores hdoes).drawn
    cases op with
    | captureCommit => exact absurd hwrites not_false
    | restoreCommit =>
      obtain rfl := Option.some.inj hkey
      obtain ⟨-, rfl, -⟩ := hwrites
      refine .own (owns_iff_draws.mpr hdrawn) (fun ctx hrecovery => ?_) (.inr fun hreached => ?_)
      · obtain rfl := Option.some.inj (hrequest.symm.trans hrecovery)
        exact hrestores
      exact absurd (hreached.le h.tail hdrawn hdoes.inTurn rfl) (by decide)
    | _ => cases hkey
  | recovery hwrites hrecovery =>
    cases op with
    | captureCommit id key' =>
      obtain rfl := Option.some.inj hkey
      obtain ⟨a, hlisted, hkind, hid, -, hpersisted, -⟩ := hwrites
      obtain ⟨input, rfl, -⟩ := hcalls
      exact .recovery (hrecovery ▸ hrequest) rfl hlisted hid hkind hpersisted
        (not_finishes_of_recovery h (hrecovery ▸ hrequest))
    | restoreCommit => exact absurd hwrites not_false
    | _ => cases hkey
  | plain hwrites =>
    cases op with
    | captureCommit | restoreCommit => exact absurd hwrites not_false
    | _ => cases hkey

theorem eq_of_failedBy (h : failedBy op = some key) :
    ∃ result error, op = .attemptFinish key .failed result error := by
  unfold failedBy at h
  split at h
  · exact ⟨_, _, by rw [Option.some.inj h]⟩
  · cases h

/-- Who finishes an attempt as FAILED. -/
inductive FailCase (settings : Settings) (t : List (Event (fabric settings))) (tid : ℕ)
    (key : AttemptId) : Prop
  | own : Owns tid key t → Looked (deeds tid t) (commitOf key).1 key (commitOf key).2 false →
    (∃ a, (stateOf t).attempt key = some a) → FailCase settings t tid key
  | recovery {ctx : OperationContext} {a : AttemptRecord} :
    requestOf tid t = some (.recovery ctx) → Listed (deeds tid t) a → a.id = key →
    Verdict (deeds tid t) a .failed → FailCase settings t tid key

theorem fail_cases (h : Run (e :: t)) (hcall : callOf e = some (tid, op))
    (hkey : failedBy op = some key) : FailCase settings t tid key := by
  obtain ⟨reply, hcalls⟩ := exists_calls_of_callOf h hcall
  obtain ⟨result, error, rfl⟩ := eq_of_failedBy hkey
  obtain ⟨request, hrequest, hwriter⟩ := hcalls.writer h not_false
  cases hwriter with
  | @capture _ _ run hasks hdoes hwrites =>
    obtain rfl : key = run.attemptId := hwrites
    have hcaptures := Captures.of_does hrequest hasks hdoes
    obtain ⟨workloadId, nonce, ds₀, hdrawn⟩ := hcaptures.drawn
    have hsettles : run.Settles (deeds tid t) .failed := hdoes.backed
    rw [CaptureRun.Settles, if_pos rfl] at hsettles
    have hbegun := hdoes.begun.resolve_left not_false
    refine .own (owns_iff_draws.mpr hcaptures.drawn_nonce) ?_
      (exists_attempt_of_opened h.tail hbegun.opened)
    rw [hdrawn.attemptId] at hsettles ⊢
    exact hsettles
  | @restore _ _ _ _ run hdoes hwrites hrestores =>
    obtain rfl : key = run.attemptId := hwrites
    have hrestoring := Restores.of_does hrequest hrestores hdoes
    obtain ⟨checkpointId, nonce, hid⟩ := hrestoring.isRestore
    have hsettles : run.Settles (deeds tid t) .failed := hdoes.backed
    rw [RestoreRun.Settles, if_pos rfl] at hsettles
    have hbegun := hdoes.begun.resolve_left not_false
    refine .own (owns_iff_draws.mpr hrestoring.drawn) ?_
      (exists_attempt_of_opened h.tail hbegun.opened)
    rw [hid] at hsettles ⊢
    exact hsettles.1
  | recovery hwrites hrecovery =>
    obtain ⟨a, hlisted, hid, hverdict⟩ := hwrites
    exact .recovery (hrecovery ▸ hrequest) hlisted hid hverdict
  | plain hwrites => exact absurd hwrites not_false

end Actors

section Owners

variable {a : AttemptRecord}

/-- An attempt that has a row has an owner, which is no recovery. -/
theorem exists_owner (h : Run t) (ha : (stateOf t).attempt key = some a) :
    ∃ tid, Owns tid key t ∧ ∀ ctx, requestOf tid t ≠ some (.recovery ctx) := by
  obtain ⟨e, t', tid, hsuffix, hcalls⟩ := exists_begin_of_attempt h ha
  have hrun := h.of_suffix hsuffix
  have hdraws := draws_of_begin hrun hcalls
  have hpast := suffix_of_cons hsuffix
  refine ⟨tid, owns_iff_draws.mpr (hdraws.mono hpast), fun ctx hrecovery => ?_⟩
  obtain ⟨request, hrequest, hwriter⟩ := hcalls.writer hrun not_false
  have hadmitted := lt_admissions_of_mem_deeds hrun.tail hdraws
  rw [requestOf_of_suffix h hpast hadmitted, hrequest] at hrecovery
  obtain rfl := Option.some.inj hrecovery
  cases hwriter with
  | capture hasks => exact hasks
  | restore _ _ hrestores => exact hrestores
  | recovery hwrites | plain hwrites => exact absurd hwrites not_false

/-- Recovery does not own what it has listed, and its owner was there before. -/
theorem owner_of_listed (h : Run t) (hlisted : Listed (deeds tid t) a) (hid : a.id = key) :
    ∃ a', (stateOf t).attempt key = some a' ∧ a'.kind = a.kind := by
  obtain ⟨t', hsuffix, ha⟩ := exists_attempt_of_listed h hlisted
  obtain ⟨a', ha', hkind, -⟩ := attempt_of_suffix h hsuffix ha
  exact ⟨a', hid ▸ ha', hkind⟩

/-- The journal entry of the commit goes with the kind of the attempt. -/
theorem commitOf_eq (h : Run t) (ha : (stateOf t).attempt key = some a) :
    commitOf key = a.kind.commit := by
  have hid : a.id = key := Table.key_of_get ha
  cases opened_of_run h ha with
  | capture hcaptures hkey hkind =>
    obtain ⟨workloadId, nonce, ds₀, hdrawn⟩ := hcaptures.drawn
    rw [← hid, hkey, hdrawn.attemptId, hkind]
    rfl
  | restore _ hkey hkind =>
    rw [← hid, hkey]
    cases hk : a.kind with
    | capture => exact absurd hk hkind
    | restore | rollback => rfl

theorem live_of_callOf {op : StoreOp} (h : Run (e :: t)) (hcall : callOf e = some (tid, op)) :
    Live tid t := by
  obtain ⟨reply, input, rfl, -⟩ := exists_calls_of_callOf h hcall
  exact h.live

/-- Of two events of a run, one comes first, unless they are the same. -/
theorem order_cases (h : e :: past <:+ t) (h' : e' :: past' <:+ t) :
    e :: past <:+ past' ∨ e' :: past' <:+ past ∨ e = e' ∧ past = past' := by
  rcases List.suffix_or_suffix_of_suffix h h' with hsuffix | hsuffix
  · rcases List.suffix_cons_iff.mp hsuffix with heq | hsuffix
    · exact .inr (.inr (List.cons.inj heq))
    · exact .inl hsuffix
  · rcases List.suffix_cons_iff.mp hsuffix with heq | hsuffix
    · exact .inr (.inr ⟨(List.cons.inj heq).1.symm, (List.cons.inj heq).2.symm⟩)
    · exact .inr (.inl hsuffix)

end Owners

section Failures

variable {op op' : StoreOp} {a : AttemptRecord}

/-- An attempt that was finished as FAILED is not ACTIVE any more. -/
theorem decided_of_failed (h : Run (e :: t)) (hcall : callOf e = some (tid, op))
    (hkey : failedBy op = some key) (ha : (stateOf t).attempt key = some a) :
    ∃ a', (after e).attempt key = some a' ∧ a'.state = .failed := by
  obtain ⟨reply, hcalls⟩ := exists_calls_of_callOf h hcall
  obtain ⟨result, error, rfl⟩ := eq_of_failedBy hkey
  have hrow : (stateOf t).store.attempts.get key = some a := ha
  have hafter : (after e).attempt key = some { a with
      state := .failed, result, error, finishedMs := some (stateOf t).clock } := by
    rw [World.attempt, ← StoreOp.snd_of_ok hcalls.run, Store.attemptFinish, Table.get_modify_self,
      hrow, Option.map_some]
  exact ⟨_, hafter, rfl⟩

/-- Recovery that is still at work on an attempt which was finished as FAILED has listed it
before. -/
theorem lists_of_failed (h : Run t) (hpast : e :: past <:+ t) (hcall : callOf e = some (tid, op))
    (hkey : failedBy op = some key) (hrow : ∃ a₀, (stateOf past).attempt key = some a₀)
    (hlisted : Listed (deeds tid' t) a) (hid : a.id = key) : Lists tid' key past := by
  obtain ⟨attempts, hmem, ha⟩ := hlisted
  obtain ⟨later, ds, hsplit⟩ := List.append_of_mem hmem
  obtain ⟨input, t', hsuffix, hds, hread⟩ := exists_run_of_deed h ⟨later, hsplit.symm⟩
  have hattempts : (stateOf t').store.attemptsInState .active = attempts :=
    (Prod.mk.inj (Except.ok.inj hread)).1
  have hlists : Lists tid' key
      (.performed tid' (.db (.attemptsInState .active)) input (stateOf t') :: t') := by
    refine List.any_eq_true.mpr ⟨_, by rw [hds]; exact List.mem_cons_self, ?_⟩
    simp only [listsAttempt, decide_eq_true_eq]
    exact List.mem_map.mpr ⟨a, ha, hid⟩
  rcases order_cases hpast hsuffix with hafter | hbefore | ⟨rfl, -⟩
  -- After it was finished, it is not listed as ACTIVE.
  · rw [← hattempts, Store.attemptsInState, List.mem_insertionSort, List.mem_filter] at ha
    have hrow' : (stateOf t').attempt key = some a := hid ▸ Table.get_of_mem ha.1
    obtain ⟨a₀, ha₀⟩ := hrow
    obtain ⟨a₁, ha₁, hfailed⟩ := decided_of_failed (h.of_suffix hpast) hcall hkey ha₀
    obtain ⟨a₂, ha₂, hcontinues⟩ :=
      continues_of_suffix (h.of_suffix (suffix_of_cons hsuffix)) hafter ha₁
    obtain rfl := Option.some.inj (ha₂.symm.trans hrow')
    refine absurd (by simpa using ha.2) (hcontinues.decided ?_)
    rw [hfailed]
    decide
  · obtain ⟨d, hd, hlists⟩ := List.any_eq_true.mp hlists
    exact List.any_eq_true.mpr ⟨d, (deeds_suffix hbefore).subset hd, hlists⟩
  · obtain ⟨reply, input', heq, -⟩ := exists_calls_of_callOf (h.of_suffix hpast) hcall
    obtain rfl := Op.db.inj (Event.performed.inj heq).2.1
    cases hkey

/-- A capture whose request is over when recovery finishes it as FAILED is not persisted later. -/
theorem persisted_of_failed (h : Run t) (hpast : e :: past <:+ t)
    (ha : (stateOf past).attempt key = some a)
    (hover : ∀ tid', Live tid' past → ¬ Owns tid' key past)
    (hj : Journaled t .capture key .persisted) : Journaled past .capture key .persisted := by
  by_contra hnot
  have hsuffix := suffix_of_cons hpast
  obtain ⟨e₁, t₁, tid₁, op, reply, hsuffix₁, hafter, hop, hcalls, hmarks⟩ :=
    exists_calls_of_journaled_since h hsuffix hnot hj
  have hrun := h.of_suffix hsuffix₁
  -- Only the request of the attempt journals it as persisted.
  have howns : Owns tid₁ key t₁ := by
    obtain ⟨request, hrequest, hwriter⟩ := hcalls.writer hrun hop
    cases op with
    | captureCommit => exact nomatch hmarks.2.2
    | restoreCommit => rcases hmarks with ⟨hkind, -⟩ | ⟨-, hkind, -⟩ <;> exact nomatch hkind
    | journalAppend kind' key' state' detail =>
      obtain ⟨rfl, rfl, rfl⟩ := hmarks
      cases hwriter with
      | capture hasks hdoes hwrites =>
        exact owns_iff_draws.mpr (hwrites.2.1 ▸ (Captures.of_does hrequest hasks hdoes).drawn_nonce)
      | restore _ hwrites => exact nomatch hwrites.1
      | recovery hwrites | plain hwrites => exact absurd hwrites not_false
    | _ => exact absurd hmarks not_false
  obtain ⟨tid', howns', -⟩ := exists_owner (h.of_suffix hsuffix) ha
  obtain rfl := howns.unique hrun.tail (howns'.mono hafter)
  have hlive : Live tid₁ t₁ := live_of_callOf hrun hcalls.callOf_eq
  refine hover tid₁ (hlive.of_suffix hrun.tail hafter ?_) howns'
  exact lt_admissions_of_mem_deeds (h.of_suffix hsuffix) (owns_iff_draws.mp howns')

theorem finishes_of_failedBy (h : failedBy op = some key) : Finishes key (.db op) := by
  obtain ⟨result, error, rfl⟩ := eq_of_failedBy h
  exact rfl

/-- Who has finished an attempt has reached its last phase, if it is its own. -/
theorem reached_of_failed (hcall : callOf e = some (tid, op)) (h : Run (e :: t))
    (hkey : failedBy op = some key) (howns : Owns tid key t) :
    Reached captureTimetable (e :: t) key 4 ∧ Reached restoreTimetable (e :: t) key 2 := by
  obtain ⟨reply, hcalls⟩ := exists_calls_of_callOf h hcall
  obtain ⟨result, error, rfl⟩ := eq_of_failedBy hkey
  have hdeeds : (⟨.db (.attemptFinish key .failed result error), .ok reply⟩ : FabricDeed) ::
      deeds tid t <:+ deeds tid (e :: t) := hcalls.deeds_eq ▸ List.suffix_refl _
  have hdrawn := owns_iff_draws.mp howns
  exact ⟨⟨tid, _, _, hdeeds, hdrawn, 4, rfl, Nat.le_refl 4⟩,
    ⟨tid, _, _, hdeeds, hdrawn, 2, rfl, Nat.le_refl 2⟩⟩

/-- No attempt is committed that was finished as FAILED before. -/
theorem unfailed_of_unjudged (h : Run (e :: t)) (hfails : EveryStep FailsAbandoned t)
    (hunjudged : CommitsUnjudged e t) (hcall : callOf e = some (tid, op))
    (hkey : committedBy op = some key) (hpast : e' :: past <:+ t)
    (hcall' : callOf e' = some (tid', op')) : failedBy op' ≠ some key := by
  intro hkey'
  have hrun := h.tail
  have hsuffix := suffix_of_cons hpast
  have hrun' := hrun.of_suffix hpast
  cases fail_cases hrun' hcall' hkey' with
  | own howns' hlooked ha =>
    cases commit_cases h hcall hkey with
    -- A request commits its attempt before it finishes it.
    | own howns _ hphase =>
      obtain ⟨hcapture, hrestore⟩ := reached_of_failed hcall' hrun' hkey' howns'
      exact hphase.elim (absurd (hcapture.mono hpast)) (absurd (hrestore.mono hpast))
    | recovery =>
      have howns := howns'.mono hsuffix
      refine hunjudged _ hcall key hkey tid' ?_ (.inl howns) ?_
      · exact lt_admissions_of_mem_deeds hrun (owns_iff_draws.mp howns)
      · obtain ⟨d, hd, hfinds⟩ := List.any_eq_true.mp (judges_of_looked hlooked)
        exact List.any_eq_true.mpr ⟨d, (deeds_suffix hsuffix).subset hd, hfinds⟩
  | @recovery _ a' hrequest' hlisted' hid' hverdict' =>
    obtain ⟨a₀, ha₀, -⟩ := owner_of_listed hrun'.tail hlisted' hid'
    obtain ⟨owner, howner, hnorecovery⟩ := exists_owner hrun'.tail ha₀
    have hnotowns : ¬ Owns tid' key past := fun howns' =>
      hnorecovery _ (howns'.unique hrun'.tail howner ▸ hrequest')
    have habandoned := hfails e' past hpast _ hcall' key hkey'
    have hlive := live_of_callOf h hcall
    cases commit_cases h hcall hkey with
    | own howns _ hphase =>
      obtain rfl := (howner.mono hsuffix).unique hrun howns
      have hadmitted := lt_admissions_of_mem_deeds hrun'.tail (owns_iff_draws.mp howner)
      refine habandoned owner hadmitted
        ⟨hnotowns, ?_, hlive.of_suffix hrun hsuffix hadmitted⟩ (.inl howner)
      rintro rfl
      exact hnotowns howner
    | recovery hrequest hop hlisted hid hkind hpersisted hfirst =>
      by_cases hne : tid = tid'
      · subst hne
        obtain ⟨reply, hcalls'⟩ := exists_calls_of_callOf hrun' hcall'
        have hd : (⟨.db op', .ok reply⟩ : FabricDeed) ∈ deeds tid t :=
          (deeds_suffix hpast).subset (hcalls'.deeds_eq ▸ List.mem_cons_self)
        exact hfirst _ hd (finishes_of_failedBy hkey')
      · have hlists := lists_of_failed hrun hpast hcall' hkey' ⟨a₀, ha₀⟩ hlisted hid
        obtain ⟨d, hd, -⟩ := List.any_eq_true.mp hlists
        have hadmitted := lt_admissions_of_mem_deeds hrun'.tail hd
        have hlive' := hlive.of_suffix hrun hsuffix hadmitted
        refine habandoned tid hadmitted ⟨hnotowns, hne, hlive'⟩ (.inr ⟨?_, hlists⟩)
        refine Store.journalHas_eq_true_iff.mpr (persisted_of_failed hrun hpast ha₀ ?_
          (journaled_of_looked hrun hpersisted))
        intro tid₁ hlive₁ howns₁
        have hadmitted₁ := lt_admissions_of_mem_deeds hrun'.tail (owns_iff_draws.mp howns₁)
        refine habandoned tid₁ hadmitted₁ ⟨hnotowns, ?_, hlive₁⟩ (.inl howns₁)
        rintro rfl
        exact hnotowns howns₁

/-- A commit that was not journaled at some point was made by a call since then. -/
theorem exists_commit_since (h : Run t) (hsuffix : past <:+ t) (hbefore : ¬ Committed past key)
    (hj : Committed t key) : ∃ e past' tid op, e :: past' <:+ t ∧ past <:+ past' ∧
      callOf e = some (tid, op) ∧ committedBy op = some key ∧
      (commitOf key = (.restore, .generationCommitted) → ∀ id, op ≠ .captureCommit id key) := by
  obtain ⟨e, past', tid, op, reply, hsuffix', hafter, hop, hcalls, hmarks⟩ :=
    exists_calls_of_journaled_since h hsuffix hbefore hj
  refine ⟨e, past', tid, op, hsuffix', hafter, hcalls.callOf_eq, ?_⟩
  cases key with
  | restore checkpointId nonce =>
    obtain ⟨id, node, token, migration, rollback, hcommit⟩ :=
      restoreCommit_of_marks (h.of_suffix hsuffix') hop hcalls hmarks
    obtain rfl := hcalls.op_eq hcommit
    exact ⟨rfl, fun _ _ heq => by cases heq⟩
  | capture | replicate =>
    obtain ⟨id, hcommit⟩ := captureCommit_of_marks (h.of_suffix hsuffix') hop hcalls hmarks
    obtain rfl := hcalls.op_eq hcommit
    exact ⟨rfl, fun heq => by cases heq⟩

/-- Whoever has looked the commit up in vain had done so before it was made. -/
theorem exists_commit_of_looked {older : List FabricDeed} (h : Run t)
    (hlooked : missing key :: older <:+ deeds tid t) (hj : Committed t key) :
    ∃ e past tid' op, e :: past <:+ t ∧ callOf e = some (tid', op) ∧ committedBy op = some key ∧
      missing key :: older <:+ deeds tid past ∧
      (commitOf key = (.restore, .generationCommitted) → ∀ id, op ≠ .captureCommit id key) := by
  obtain ⟨input, t', hsuffix, hds, hread⟩ := exists_run_of_deed h hlooked
  have hmissing : ¬ Committed t' key := by
    intro hj'
    have hfound := Store.journalHas_eq_true_iff.mpr hj'
    exact Bool.false_ne_true ((Prod.mk.inj (Except.ok.inj hread)).1.symm.trans hfound)
  obtain ⟨e, past, tid', op, hpast, hafter, hcall, hkey, honly⟩ :=
    exists_commit_since h (suffix_of_cons hsuffix) hmissing hj
  refine ⟨e, past, tid', op, hpast, hcall, hkey, ?_, honly⟩
  rcases order_cases hsuffix hpast with hbefore | hlater | ⟨rfl, -⟩
  · exact hds ▸ deeds_suffix hbefore
  · have hle := hlater.length_le
    have hle' := hafter.length_le
    rw [List.length_cons] at hle
    omega
  · obtain ⟨reply, input', heq, -⟩ := exists_calls_of_callOf (h.of_suffix hpast) hcall
    obtain rfl := Op.db.inj (Event.performed.inj heq).2.1
    cases hkey

theorem judges_of_suffix {older : List FabricDeed} (h : missing key :: older <:+ deeds tid t) :
    Judges tid key t :=
  judges_of_looked (h.subset List.mem_cons_self)

/-- An attempt that its own request has judged uncommitted is not committed. -/
theorem uncommitted_of_own (h : Run t) (hunjudged : EveryStep CommitsUnjudged t)
    (howns : Owns tid key t)
    (hlooked : Looked (deeds tid t) (commitOf key).1 key (commitOf key).2 false) :
    ¬ Committed t key := by
  intro hj
  obtain ⟨later, older, hsplit⟩ := List.append_of_mem hlooked
  obtain ⟨e, past, tid', op, hpast, hcall, hkey, hlook, -⟩ :=
    exists_commit_of_looked h ⟨later, hsplit.symm⟩ hj
  have hrun := h.of_suffix hpast
  -- At the commit the attempt has an owner already.
  have howns' : Owns tid key past := by
    have howner : ∃ owner, Owns owner key past := by
      cases commit_cases hrun hcall hkey with
      | own howns => exact ⟨tid', howns⟩
      | recovery _ _ hlisted hid =>
        obtain ⟨a, ha, -⟩ := owner_of_listed hrun.tail hlisted hid
        obtain ⟨owner, howner, -⟩ := exists_owner hrun.tail ha
        exact ⟨owner, howner⟩
    obtain ⟨owner, howner⟩ := howner
    exact (howner.mono (suffix_of_cons hpast)).unique h howns ▸ howner
  refine hunjudged e past hpast _ hcall key hkey tid ?_ (.inl howns') (judges_of_suffix hlook)
  exact lt_admissions_of_mem_deeds hrun.tail (owns_iff_draws.mp howns')

/-- What a list has in front of a part of it. -/
theorem mem_of_cons_suffix {α : Type} {d : α} {ds recent older : List α}
    (h : d :: ds <:+ recent ++ older) (holder : older <:+ ds) : d ∈ recent := by
  obtain ⟨between, rfl⟩ := holder
  obtain ⟨newer, heq⟩ := h
  have happend : (newer ++ d :: between) ++ older = recent ++ older := by
    simpa using heq
  rw [← List.append_cancel_right happend]
  simp

/-- An attempt that a recovery at work has judged uncommitted is committed by that recovery only. -/
theorem recommits_of_looked {ctx : OperationContext} {older : List FabricDeed} (h : Run t)
    (hunjudged : EveryStep CommitsUnjudged t) (hrequest : requestOf tid t = some (.recovery ctx))
    (hlive : Live tid t) (hlook : missing key :: older <:+ deeds tid t) (hj : Committed t key) :
    ∃ e past id, e :: past <:+ t ∧ callOf e = some (tid, .captureCommit id key) ∧
      missing key :: older <:+ deeds tid past ∧
      commitOf key ≠ (.restore, .generationCommitted) := by
  obtain ⟨e, past, tid', op, hpast, hcall, hkey, hlook', honly⟩ :=
    exists_commit_of_looked h hlook hj
  have hrun := h.of_suffix hpast
  have hadmitted := lt_admissions_of_mem_deeds hrun.tail (hlook'.subset List.mem_cons_self)
  by_cases hne : tid' = tid
  · subst hne
    have hsame := requestOf_of_suffix h (suffix_of_cons hpast) hadmitted
    cases commit_cases hrun hcall hkey with
    | own _ hnot => exact absurd (hsame.symm.trans hrequest) (hnot _)
    | @recovery _ _ id _ hop =>
      exact ⟨e, past, id, hpast, hop ▸ hcall, hlook', fun hentry => honly hentry id hop⟩
  · have hlive' := hlive.of_suffix h (suffix_of_cons hpast) hadmitted
    exact absurd (judges_of_suffix hlook') (hunjudged e past hpast _ hcall key hkey tid hadmitted
      (.inr ⟨fun heq => hne heq.symm, hlive'⟩))

/-- An attempt that is finished as FAILED is not committed before. -/
theorem uncommitted_of_failed (h : Run (e :: t)) (hunjudged : EveryStep CommitsUnjudged t)
    (hcall : callOf e = some (tid, op)) (hkey : failedBy op = some key) : ¬ Committed t key := by
  have hrun := h.tail
  cases fail_cases h hcall hkey with
  | own howns hlooked => exact uncommitted_of_own hrun hunjudged howns hlooked
  | @recovery _ a hrequest hlisted hid hverdict =>
    obtain ⟨a', ha', hkind'⟩ := owner_of_listed hrun hlisted hid
    have hentry : commitOf key = a.kind.commit := hkind' ▸ commitOf_eq hrun ha'
    have hlive := live_of_callOf h hcall
    intro hj
    cases hverdict with
    | notCaptured hkind hmissing =>
      obtain ⟨recent, older, hsplit, hrecent⟩ := hmissing
      rw [hkind] at hentry
      have hds : deeds tid t = recent ++ missing key :: older := by
        rw [missing, hentry, hsplit, hid]
        rfl
      have hlook : missing key :: older <:+ deeds tid t := hds ▸ List.suffix_append recent _
      obtain ⟨e', past, id, hpast, hcall', hlook', -⟩ :=
        recommits_of_looked hrun hunjudged hrequest hlive hlook hj
      obtain ⟨reply, hcalls'⟩ := exists_calls_of_callOf (hrun.of_suffix hpast) hcall'
      -- The commit came after the look-up, and recovery does not commit what it has not found.
      have hd : (⟨.db (.captureCommit id key), .ok reply⟩ : FabricDeed) :: deeds tid past <:+
          recent ++ missing key :: older := by
        rw [← hcalls'.deeds_eq, ← hds]
        exact deeds_suffix hpast
      exact hrecent _ (mem_of_cons_suffix hd hlook') ⟨id, hid ▸ rfl⟩
    | notRestored hkind hlooked =>
      have hrestore : commitOf key = (.restore, .generationCommitted) := by
        rw [hentry]
        cases hk : a.kind with
        | capture => exact absurd hk hkind
        | restore | rollback => rfl
      obtain ⟨later, older, hsplit⟩ := List.append_of_mem hlooked
      have hlook : missing key :: older <:+ deeds tid t := by
        rw [missing, hrestore, hsplit, hid]
        exact List.suffix_append later _
      obtain ⟨-, -, -, -, -, -, hnot⟩ :=
        recommits_of_looked hrun hunjudged hrequest hlive hlook hj
      exact hnot hrestore

end Failures

section Main

variable {op : StoreOp} {a : AttemptRecord} {c : CheckpointObject}

/-- The commit of an attempt that was finished as FAILED is never journaled. -/
theorem uncommitted_since_failed (h : Run t) (hunjudged : EveryStep CommitsUnjudged t)
    (hfails : EveryStep FailsAbandoned t) (hpast : e :: past <:+ t)
    (hcall : callOf e = some (tid, op)) (hkey : failedBy op = some key) : ¬ Committed t key := by
  intro hj
  have hrun := h.of_suffix hpast
  have hbefore := uncommitted_of_failed hrun (hunjudged.of_suffix (suffix_of_cons hpast)) hcall hkey
  obtain ⟨e', past', tid', op', hpast', hafter, hcall', hkey', -⟩ :=
    exists_commit_since h (suffix_of_cons hpast) hbefore hj
  rcases order_cases hpast hpast' with hlater | hearlier | ⟨rfl, -⟩
  · exact unfailed_of_unjudged (h.of_suffix hpast') (hfails.of_suffix (suffix_of_cons hpast'))
      (hunjudged e' past' hpast') hcall' hkey' hlater hcall hkey
  · have hle := hearlier.length_le
    have hle' := hafter.length_le
    rw [List.length_cons] at hle
    omega
  · obtain ⟨-, rfl⟩ := Prod.mk.inj (Option.some.inj (hcall.symm.trans hcall'))
    obtain ⟨result, error, rfl⟩ := eq_of_failedBy hkey
    cases hkey'

/-- A row that shows FAILED was finished as FAILED. -/
theorem exists_failure_of_attempt (h : Run t) (ha : (stateOf t).attempt key = some a)
    (hstate : a.state = .failed) : ∃ e past tid op, e :: past <:+ t ∧
      callOf e = some (tid, op) ∧ failedBy op = some key := by
  induction t generalizing a with
  | nil => exact nomatch ha
  | cons e t ih =>
    have hold {a : AttemptRecord} (ha : (stateOf t).attempt key = some a)
        (hstate : a.state = .failed) : ∃ e' past tid op, e' :: past <:+ e :: t ∧
          callOf e' = some (tid, op) ∧ failedBy op = some key := by
      obtain ⟨e', past, tid, op, hsuffix, hrest⟩ := ih h.tail ha hstate
      exact ⟨e', past, tid, op, hsuffix.trans (List.suffix_cons e t), hrest⟩
    rw [stateOf_cons] at ha
    rcases leftBy_cases h ha with ⟨tid, op, reply, hcalls, hleft⟩ | hkept
    · cases hleft with
      | kept hkept => exact hold hkept hstate
      | opened _ hactive => exact nomatch hactive.symm.trans hstate
      | finished hop _ heq =>
        subst hop heq
        obtain rfl := hstate
        exact ⟨e, t, tid, _, List.suffix_refl _, hcalls.callOf_eq, rfl⟩
    · exact hold hkept hstate

/-- An attempt that is decided is recorded as committed iff its commit is journaled. -/
theorem committed_iff_of_decided (h : Run t) (hunjudged : EveryStep CommitsUnjudged t)
    (hfails : EveryStep FailsAbandoned t) (ha : (stateOf t).attempt key = some a)
    (hdecided : a.state ≠ .active) : a.state ≠ .failed ↔ Committed t key := by
  have hid : a.id = key := Table.key_of_get ha
  constructor
  · intro hfailed
    have hcommitted := (truthful_of_run h ha).committed hdecided hfailed
    rw [Committed, commitOf_eq h ha, ← hid]
    exact hcommitted
  · intro hcommitted hfailed
    obtain ⟨e, past, tid, op, hpast, hcall, hkey⟩ := exists_failure_of_attempt h ha hfailed
    exact uncommitted_since_failed h hunjudged hfails hpast hcall hkey hcommitted

/-- What can be seen was committed. -/
theorem committed_of_visible (h : Run t) (hc : (stateOf t).checkpoint id = some c)
    (hvisible : c.lifecycle.Visible) : Committed t c.captureAttempt := by
  obtain ⟨e, past, tid, hsuffix, hcalls, -⟩ := commit_of_visible h hc hvisible
  obtain ⟨tid', run, hcaptures, hdescribes⟩ := described_of_run h hc
  obtain ⟨workloadId, nonce, ds₀, hdrawn⟩ := hcaptures.drawn
  have hkey : c.captureAttempt = .capture workloadId nonce :=
    hdescribes.captureAttempt.trans hdrawn.attemptId
  have hjournaled : Journaled t .capture c.captureAttempt .dbCommitted :=
    journaled_of_suffix h hsuffix ((StoreOp.journaled_of_run hcalls.run).mpr (.inr ⟨rfl, rfl, rfl⟩))
  rw [Committed, hkey] at *
  exact hjournaled

theorem eq_of_removalOf {ids : List Id} (h : removalOf e = some (tid, ids)) :
    ∃ node req input before, e = .performed tid (.call node (.cleanup req)) input before ∧
      ids = req.checkpointIds := by
  unfold removalOf at h
  split at h
  · obtain ⟨rfl, rfl⟩ := Prod.mk.inj (Option.some.inj h)
    exact ⟨_, _, _, _, rfl, rfl⟩
  · cases h

/-- Only captures, restores and recovery ask for the removal of a directory, besides retirements. -/
theorem actor_of_cleanup {request : Request} {ds : List FabricDeed} {node : NodeId}
    {req : NodeCleanupRequest} (h : request.Permits settings ds (.call node (.cleanup req)))
    (hrequest : retires request = false) :
    ByCapture settings request ds (.call node (.cleanup req)) ∨
      ByRestore settings request ds (.call node (.cleanup req)) ∨
      RecoverySends ds node (.cleanup req) := by
  cases request with
  | checkpointRetire => exact nomatch hrequest
  | capture workloadId options ctx =>
    rcases h with hreads | ⟨run, hdoes⟩
    · exact absurd hreads not_false
    · exact .inl ⟨workloadId, options, run, rfl, hdoes⟩
  | restore checkpointId target options ctx =>
    rcases h with hreads | ⟨run, hdoes⟩
    · exact absurd hreads not_false
    · exact .inr (.inl ⟨checkpointId, target, options, _, run, hdoes, rfl⟩)
  | rollback checkpointId target ctx =>
    rcases h with hreads | ⟨run, hdoes⟩
    · exact absurd hreads not_false
    · exact .inr (.inl ⟨checkpointId, target, _, _, run, hdoes, rfl⟩)
  | migrate depth checkpointId target ctx =>
    rcases h with ⟨workloadId, hreads | ⟨run, hdoes⟩⟩ | ⟨checkpointId, start, hreads | ⟨run, hdoes⟩⟩
    · exact absurd hreads not_false
    · exact .inl ⟨workloadId, _, run, rfl, hdoes⟩
    · exact absurd hreads not_false
    · exact .inr (.inl ⟨checkpointId, target, _, start, run, hdoes, rfl⟩)
  | recovery ctx => exact .inr (.inr h)
  | _ => simp [Request.Permits, Forks, Rebinds, Op.Reads] at h

/-- The row that recovery has read of a capture it has listed names the capture's checkpoint. -/
theorem captureAttempt_of_read {a' : AttemptRecord} (h : Run t) (hsuffix : past <:+ t)
    (hread : ReadAttempt (deeds tid past) key a) (hlisted : Listed (deeds tid past) a')
    (hkind : a'.kind = .capture) (hid : a'.id = key) (hc : (stateOf t).checkpoint id = some c)
    (hmem : id ∈ a.checkpointId.toList) : c.captureAttempt = key := by
  have hrun := h.of_suffix hsuffix
  have hreads : (StoreOp.attemptGet key).Reads := trivial
  obtain ⟨t', hsuffix', -, now, hget⟩ := exists_store_of_read hrun hreads hread
  have hrow : (stateOf t').attempt key = some a := (Prod.mk.inj (Except.ok.inj hget)).1
  have hkey : a.id = key := Table.key_of_get hrow
  obtain ⟨a₁, ha₁, hkind₁, -⟩ := attempt_of_suffix hrun hsuffix' hrow
  obtain ⟨a₂, ha₂, hkind₂⟩ := owner_of_listed hrun hlisted hid
  obtain rfl := Option.some.inj (ha₁.symm.trans ha₂)
  have hcapture : a.kind = .capture := hkind₁.symm.trans (hkind₂.trans hkind)
  cases opened_of_run (hrun.of_suffix hsuffix') hrow with
  | @capture tid' run hcaptures hattempt _ hcheckpoint =>
    obtain rfl : id = run.checkpointId := by simpa [hcheckpoint] using hmem
    rw [(hcaptures.mono h (hsuffix'.trans hsuffix)).captureAttempt_eq h hc, ← hattempt, hkey]
  | restore _ _ hnot => exact absurd hcapture hnot

/-- The committed directory of a checkpoint that is AVAILABLE was not removed, except by a
retirement. -/
theorem not_removes_of_available (h : Run t) (hunjudged : EveryStep CommitsUnjudged t)
    (hfails : EveryStep FailsAbandoned t) (hc : (stateOf t).checkpoint id = some c)
    (havailable : c.lifecycle = .available) (hpast : e :: past <:+ t) : ¬ Removes e past id := by
  rintro ⟨⟨tid, ids⟩, hremoval, hid, hrequest⟩
  obtain ⟨node, req, input, before, rfl, rfl⟩ := eq_of_removalOf hremoval
  have hcommitted : Committed t c.captureAttempt :=
    committed_of_visible h hc (havailable ▸ trivial)
  have hrun := h.of_suffix hpast
  have hsuffix := suffix_of_cons hpast
  obtain ⟨request, hrequest', hpermits⟩ := permitted hrun
  have hactor := actor_of_cleanup hpermits (hrequest request hrequest')
  rcases hactor with ⟨workloadId, options, run, hasks, hdoes⟩ |
    ⟨_, _, _, _, run, hdoes, -⟩ | hplain | hgrants
  -- A capture that aborts has judged its attempt.
  · have hcaptures := Captures.of_does hrequest' hasks hdoes
    have hsends : run.Sends node (.cleanup req) := hdoes.performs
    have hids : req.checkpointIds = [run.checkpointId] := by
      rcases hsends.2.2 with hnone | hids
      · exact absurd (hnone ▸ hid) List.not_mem_nil
      · exact hids
    obtain rfl : id = run.checkpointId := List.mem_singleton.mp (hids ▸ hid)
    have hlooked : Looked (deeds tid past) .capture run.attemptId .dbCommitted false :=
      hdoes.backed (by rw [hids]; exact List.cons_ne_nil _ _)
    have hkey := (hcaptures.mono h hsuffix).captureAttempt_eq h hc
    obtain ⟨workloadId, nonce, ds₀, hdrawn⟩ := hcaptures.drawn
    have howns : Owns tid run.attemptId t :=
      (owns_iff_draws.mpr hcaptures.drawn_nonce).mono hsuffix
    refine uncommitted_of_own h hunjudged howns ?_ (hkey ▸ hcommitted)
    rw [hdrawn.attemptId] at hlooked ⊢
    exact (deeds_suffix hsuffix).subset hlooked
  -- A restore removes what it has restored only.
  · have hsends : run.Sends node (.cleanup req) := hdoes.performs
    exact List.not_mem_nil (hsends.2.1 ▸ hid)
  -- Recovery has finished the attempt as FAILED.
  · obtain ⟨key, a, hread, -, -, hids⟩ := hplain
    rcases hids with hnone | ⟨hids, hrefused⟩
    · exact List.not_mem_nil (hnone ▸ hid)
    obtain ⟨a', -, -, hlisted, hkind', hid', -, -, result, error, hclosed⟩ := hrefused
    obtain ⟨e', past', hsuffix', hcalls⟩ := exists_calls_of_mem hrun.tail hclosed
    refine uncommitted_since_failed h hunjudged hfails (hsuffix'.trans hsuffix)
      hcalls.callOf_eq rfl ?_
    have hkey := captureAttempt_of_read h hsuffix hread hlisted hkind' hid' hc (hids ▸ hid)
    exact hkey ▸ hcommitted
  · exact hgrants

end Main

/-- In a run where no attempt is committed that was judged uncommitted, and none is failed by a
recovery while its request or another recovery can still commit it, no attempt is committed that
was finished as FAILED; an attempt that is not ACTIVE is recorded as committed just when the journal
holds its commit; and neither an abort nor recovery removes the committed directory of a checkpoint
that is AVAILABLE after it. -/
theorem verdicts_agree (h : Run t) (hunjudged : EveryStep CommitsUnjudged t)
    (hfails : EveryStep FailsAbandoned t) :
    EveryStep CommitsUnfailed t ∧
    (∀ key a, (stateOf t).attempt key = some a → a.state ≠ .active →
      (a.state ≠ .failed ↔ Journaled t a.kind.commit.1 key a.kind.commit.2)) ∧
    ∀ id c, (stateOf t).checkpoint id = some c → c.lifecycle = .available →
      EveryStep (fun e past => ¬ Removes e past id) t := by
  refine ⟨?_, fun key a ha hdecided => ?_, fun id c hc havailable e past hpast => ?_⟩
  · rintro e past hpast ⟨tid, op⟩ hcall key hkey e' past' hpast' ⟨tid', op'⟩ hcall' hkey'
    have hsuffix := suffix_of_cons hpast
    exact unfailed_of_unjudged (h.of_suffix hpast) (hfails.of_suffix hsuffix)
      (hunjudged e past hpast) hcall hkey hpast' hcall' hkey'
  · have hiff := committed_iff_of_decided h hunjudged hfails ha hdecided
    rwa [Committed, commitOf_eq h ha] at hiff
  · exact not_removes_of_available h hunjudged hfails hc havailable hpast

section Runs

/-- The database fails a capture until its request is over, and recovery finishes its attempt. The
next capture has persisted its checkpoint when recovery comes again, and is at work still. -/
def Demo.reconciledTwice : List (Action (fabric Demo.archive)) :=
  let failing : Input := { fault := some (.sqlite "disk I/O error") }
  Demo.serially [] ++
    .accept (.capture 7 {} Demo.operator) :: List.replicate 15 (.advance 3 ({} : Input)) ++
    List.replicate 30 (.advance 3 failing) ++
    .accept (.recovery Demo.operator) :: List.replicate 50 (.advance 4 ({} : Input)) ++
    .accept (.capture 7 {} Demo.operator) :: List.replicate 36 (.advance 5 ({} : Input)) ++
    .accept (.recovery Demo.operator) :: List.replicate 50 (.advance 6 ({} : Input)) ++
    List.replicate 40 (.advance 5 ({} : Input))

/-- The first attempt is finished as FAILED and not committed; the second one is committed by
recovery, and by its request once more. -/
theorem verdicts_agree_twice :
    EveryStep CommitsUnfailed (exec Demo.reconciledTwice).trace ∧
    ¬ Journaled (exec Demo.reconciledTwice).trace .capture (.capture 7 1) .dbCommitted ∧
    Journaled (exec Demo.reconciledTwice).trace .capture (.capture 7 3) .dbCommitted ∧
    EveryStep (fun e past => ¬ Removes e past 4) (exec Demo.reconciledTwice).trace := by
  obtain ⟨hunfailed, hagree, hkept⟩ := verdicts_agree (exec_run Demo.reconciledTwice)
    (by decide +kernel) (by decide +kernel)
  obtain ⟨a, ha, hkind, hfailed⟩ : ∃ a ∈
      (stateOf (exec Demo.reconciledTwice).trace).attempt (.capture 7 1),
      a.kind = .capture ∧ a.state = .failed := by decide +kernel
  obtain ⟨a', ha', hkind', hcommitted⟩ : ∃ a ∈
      (stateOf (exec Demo.reconciledTwice).trace).attempt (.capture 7 3),
      a.kind = .capture ∧ a.state = .committed := by decide +kernel
  obtain ⟨c, hc, havailable⟩ : ∃ c ∈
      (stateOf (exec Demo.reconciledTwice).trace).checkpoint 4, c.lifecycle = .available := by
    decide +kernel
  have hiff := hagree _ a ha (by rw [hfailed]; decide)
  have hiff' := hagree _ a' ha' (by rw [hcommitted]; decide)
  rw [hkind] at hiff
  rw [hkind'] at hiff'
  refine ⟨hunfailed, fun hj => hiff.mpr hj hfailed, hiff'.mp ?_, hkept 4 c hc havailable⟩
  rw [hcommitted]
  decide

/-- Recovery comes when a capture has promoted its checkpoint, and has not journaled that it is
PERSISTED. -/
def Demo.failedAtWork : List (Action (fabric Demo.settings)) :=
  Demo.created ++
    .accept (.capture 7 {} Demo.operator) :: List.replicate 33 (.advance 2 ({} : Input)) ++
    Demo.alone 3 (.recovery Demo.operator) ++ List.replicate 40 (.advance 2 ({} : Input))

/-- Recovery has looked for the commit of a capture when the capture commits and ends. -/
def Demo.overruled : List (Action (fabric Demo.settings)) :=
  Demo.created ++
    .accept (.capture 7 {} Demo.operator) :: List.replicate 33 (.advance 2 ({} : Input)) ++
    .accept (.recovery Demo.operator) :: List.replicate 7 (.advance 3 ({} : Input)) ++
    List.replicate 40 (.advance 2 ({} : Input)) ++ List.replicate 40 (.advance 3 ({} : Input))

/-- The database fails when a capture commits. The process stops when the abort has removed the
committed directory, and recovery follows. -/
def Demo.stoppedAbort : List (Action (fabric Demo.settings)) :=
  Demo.created ++
    .accept (.capture 7 {} Demo.operator) :: List.replicate 36 (.advance 2 ({} : Input)) ++
    .advance 2 { fault := some (.sqlite "disk I/O error") } ::
    List.replicate 6 (.advance 2 ({} : Input)) ++ .restart :: Demo.alone 3 (.recovery Demo.operator)

/-- The capture that recovery has finished as FAILED commits; a committed capture is recorded as
FAILED; and after the abort that was cut off, recovery makes the checkpoint AVAILABLE whose
directory is removed. -/
theorem verdict_contradicted :
    (Run (exec Demo.failedAtWork).trace ∧
      ¬ EveryStep CommitsUnfailed (exec Demo.failedAtWork).trace) ∧
    (Run (exec Demo.overruled).trace ∧
      ((stateOf (exec Demo.overruled).trace).attempt (.capture 7 1)).map (·.state) =
        some .failed ∧
      Journaled (exec Demo.overruled).trace .capture (.capture 7 1) .dbCommitted) ∧
    (Run (exec Demo.stoppedAbort).trace ∧
      ((stateOf (exec Demo.stoppedAbort).trace).checkpoint 2).map (·.lifecycle) =
        some .available ∧
      ¬ EveryStep (fun e past => ¬ Removes e past 2) (exec Demo.stoppedAbort).trace) :=
  ⟨⟨exec_run Demo.failedAtWork, by decide +kernel⟩,
    ⟨exec_run Demo.overruled, by decide +kernel,
      Store.journalHas_eq_true_iff.mp (by decide +kernel)⟩,
    ⟨exec_run Demo.stoppedAbort, by decide +kernel, by decide +kernel⟩⟩

end Runs

end CheckpointFabric.Verdicts
