import CheckpointFabric.Alone.Capture
import CheckpointFabric.Properties.Stages

/-!
# A failed capture changes nothing else

A capture that runs alone and does not come to its metadata commit leaves the workloads, the
lineage and every row that was there before it as they were. What it has added is closed: its
checkpoint and its attempt are FAILED, its reservation is released.

## Main definitions

* `OnlyNew` — a row is as it was, or it is new
* `CaptureFailed` — what a failed capture leaves

## Main results

* `failed_capture` — a capture that does not commit returns an error and leaves no trace but
  closed rows of its own
-/

set_option autoImplicit false

namespace CheckpointFabric

open Concurrency Coordinator System Fabric

/-- The row is as it was, or it is new and has the property. -/
def OnlyNew {ρ : Type} (P : ρ → Prop) (row row' : Option ρ) : Prop :=
  row' = row ∨ row = none ∧ ∃ r, row' = some r ∧ P r

/-- What a capture that did not commit leaves. -/
structure CaptureFailed (s s' : Store) : Prop where
  workloads : s'.workloads = s.workloads
  lineage : s'.lineage = s.lineage
  checkpoints : ∀ id, OnlyNew (·.lifecycle = .failed) (s.checkpoints.get id)
    (s'.checkpoints.get id)
  attempts : ∀ key, OnlyNew (·.state = .failed) (s.attempts.get key) (s'.attempts.get key)
  reservations : ∀ key, OnlyNew (·.state = .released) (s.reservations.get key)
    (s'.reservations.get key)

theorem CaptureFailed.refl (s : Store) : CaptureFailed s s :=
  ⟨rfl, rfl, fun _ => .inl rfl, fun _ => .inl rfl, fun _ => .inl rfl⟩

/-- A row that is not there can only be new. -/
theorem onlyNew_of_none {ρ : Type} {P : ρ → Prop} {row row' : Option ρ} (hnone : row = none)
    (hrow' : ∀ r, row' = some r → P r) : OnlyNew P row row' := by
  cases row' with
  | none => exact .inl hnone.symm
  | some r => exact .inr ⟨hnone, r, rfl, hrow' r rfl⟩

section Fresh

variable {settings : Settings} {t : List (Event (fabric settings))} {tid : ℕ} {id : Id}

theorem lt_issued_of_draw (h : Run t) {ds : List FabricDeed}
    (hd : (⟨.random, .ok id⟩ : FabricDeed) :: ds <:+ deeds tid t) : id < (stateOf t).issued := by
  obtain ⟨input, t', hsuffix, -, rfl⟩ := exists_draw h hd
  exact issued_lt_of_draw h hsuffix

/-- The identity of a checkpoint has been used up. -/
theorem checkpointId_lt_issued (h : Run t) {c : CheckpointObject}
    (hc : (stateOf t).checkpoint id = some c) : id < (stateOf t).issued := by
  obtain ⟨tid, run, hcaptures, hdescribes⟩ := described_of_run h hc
  obtain ⟨workloadId, nonce, ds₀, hdrawn⟩ := hcaptures.drawn
  obtain ⟨latest, -, hdraws⟩ := hdrawn.draws
  have hid : c.checkpointId = id := World.checkpointId_of_row hc
  rw [← hid, hdescribes.checkpointId]
  exact lt_issued_of_draw h hdraws

/-- So has that of the attempt of a capture. -/
theorem captureNonce_lt_issued (h : Run t) {workloadId nonce : Id} {a : AttemptRecord}
    (ha : (stateOf t).attempt (.capture workloadId nonce) = some a) :
    nonce < (stateOf t).issued := by
  have hid : a.id = .capture workloadId nonce := Table.key_of_get ha
  cases opened_of_run h ha with
  | capture hcaptures hattempt =>
    obtain ⟨workloadId', nonce', ds₀, hdrawn⟩ := hcaptures.drawn
    rw [hattempt, hdrawn.attemptId] at hid
    obtain ⟨-, rfl⟩ := AttemptId.capture.inj hid
    exact lt_issued_of_draw h hdrawn.nonce_suffix
  | restore _ hattempt =>
    rw [hattempt] at hid
    cases hid

/-- A capture that is journaled as committed has drawn its nonce. -/
theorem captureNonce_lt_of_committed (h : Run t) {workloadId nonce : Id}
    (hj : Journaled t .capture (.capture workloadId nonce) .dbCommitted) :
    nonce < (stateOf t).issued := by
  have hpersisted := journaled_previous h hj .persisted rfl
  obtain ⟨⟨tid, run, hcaptures, hkey, -⟩, -⟩ := captures_of_persisted h hpersisted
  obtain ⟨workloadId', nonce', ds₀, hdrawn⟩ := hcaptures.drawn
  rw [hdrawn.attemptId] at hkey
  obtain ⟨-, rfl⟩ := AttemptId.capture.inj hkey
  exact lt_issued_of_draw h hdrawn.nonce_suffix

end Fresh

section Request

variable {settings : Settings} {workloadId : Id} {options : CaptureOptions}
  {ctx : OperationContext} {run : CaptureRun} {s₀ : Store} {s : Snapshot}

/-- The admission of a capture has written nothing since `s`, and has drawn fresh identities. -/
def FreshlyAdmitted (workloadId : Id) (s : Snapshot) (result : FabricResult CaptureRun)
    (s' : Snapshot) : Prop :=
  s'.store = s.store ∧ ∀ run, result = .ok run → s.issued ≤ run.checkpointId ∧
    ∃ nonce, run.attemptId = .capture workloadId nonce ∧ s.issued ≤ nonce

theorem ends_admitCapture :
    Ends Snapshot.Step (FreshlyAdmitted workloadId s)
      (admitCapture settings workloadId options ctx) s := by
  have hread {op : StoreOp} (hop : op.Reads) : Uses Op.Quiet (db op) := uses_db hop
  have herror : ∀ (e : FabricError) (s' : Snapshot), s'.store = s.store →
      FreshlyAdmitted workloadId s (.error e) s' :=
    fun e s' hstore => ⟨hstore, by rintro _ ⟨⟩⟩
  unfold admitCapture
  refine ends_reading_bind herror trivial rfl (Nat.le_refl _) fun _ s₁ h₁ hn₁ => ?_
  refine ends_reading_bind herror (uses_call.mpr trivial) h₁ hn₁ fun _ s₂ h₂ hn₂ => ?_
  refine ends_reading_bind herror (uses_requireWorkload fun _ => Op.quiet_of_reads) h₂ hn₂
    fun workload s₃ h₃ hn₃ => ?_
  refine ends_reading_bind herror (hread trivial) h₃ hn₃ fun checkpoints s₄ h₄ hn₄ => ?_
  refine ends_reading_bind herror (uses_call.mpr trivial) h₄ hn₄ fun now s₅ h₅ hn₅ => ?_
  refine ends_reading_bind herror trivial h₅ hn₅ fun _ s₆ h₆ hn₆ => ?_
  refine ends_reading_bind herror trivial h₆ hn₆ fun _ s₇ h₇ hn₇ => ?_
  refine ends_reading_bind herror (uses_pickCaptureNode.mono ?_) h₇ hn₇ fun node s₈ h₈ hn₈ => ?_
  · rintro _ rfl
    exact trivial
  refine ends_random_bind fun now₉ n₉ _ hn₉ => ?_
  refine ends_reading_bind herror (hread trivial) h₈ (hn₈.trans hn₉.le) fun latest s₁₀ h₁₀ hn₁₀ => ?_
  refine ends_random_bind fun now₁₁ n₁₁ _ _ => ⟨h₁₀, ?_⟩
  rintro _ ⟨⟩
  exact ⟨hn₁₀, s₈.issued, rfl, hn₈⟩

/-- A capture whose identities are fresh is confined once it is reserved. -/
theorem confined_of_reserved {r : Reservation} {hnew : s₀.reservations.get r.id = none}
    (hr : r.id = run.attemptId ∧ r.state = .active)
    (hcheckpoint : s₀.checkpoints.get run.checkpointId = none) {kind : AttemptKind}
    {checkpointId workloadId : Option Id} {node : NodeId} {detail : String} {now now' : ℕ} :
    run.Confined s₀
      ((({ s₀ with reservations := s₀.reservations.insert r hnew } : Store).attemptBegin
        run.attemptId kind checkpointId workloadId node now).journalAppend .capture run.attemptId
          .reserved detail now') := by
  refine
    { toOnlyRows := (Store.onlyRows_of_opened hr.1).journalAppend
      own := fun c hc => ?_
      held := fun r' hr' => ?_
      uncommitted := fun key hj => ?_ }
  · rw [Store.checkpoints_journalAppend, Store.checkpoints_attemptBegin] at hc
    exact absurd (hcheckpoint.symm.trans hc) (Option.some_ne_none c).symm
  · rw [Store.reservations_journalAppend, Store.reservations_attemptBegin, Table.get_insert,
      if_pos hr.1] at hr'
    exact Option.some.inj hr' ▸ hr.2
  · rcases Store.journaled_journalAppend.mp hj with hold | ⟨-, -, hstate⟩
    · rwa [Store.Journaled, Store.journal_attemptBegin] at hold
    · cases hstate

/-- Reserving the capture confines it, or it has changed nothing. -/
theorem ends_reserveCapture (hcheckpoint : s.store.checkpoints.get run.checkpointId = none) :
    Ends Snapshot.Step (fun result s' =>
        result = .ok () ∧ run.Confined s.store s'.store ∧
            s.store.reservations.get run.attemptId = none ∨
          (∃ e, result = .error e) ∧ s'.store = s.store)
      (reserveCapture run workloadId) s := by
  unfold reserveCapture
  refine Ends.bind Store.ends_reservationCreate (fun _ s₁ h₁ => ?_) fun e s₁ h₁ => ?_
  · obtain ⟨-, r, hnew, hr, hstore⟩ | ⟨⟨e, he⟩, -⟩ := h₁
    · refine ends_db_bind (fun now => rfl) fun now n _ _ => ?_
      refine ends_db_ok (fun now => rfl) fun now' n' _ _ => .inl ⟨rfl, ?_, hr.1 ▸ hnew⟩
      rw [hstore]
      exact confined_of_reserved hr hcheckpoint
    · cases he
  · obtain ⟨he, -⟩ | ⟨-, hstore⟩ := h₁
    · cases he
    · exact .inr ⟨⟨e, rfl⟩, hstore⟩

/-- The abort runs at every failure but a panic. -/
theorem ends_executeOrAbort (h : run.Confined s₀ s.store) :
    Ends Snapshot.Step (fun result s' =>
        s'.store.Journaled .capture run.attemptId .dbCommitted ∨
          (∃ e, result = .error e) ∧ run.Undone s₀ s'.store)
      (mapErr (executeCapture settings run) fun e => abortCaptureAttempt run.attemptId
        run.checkpointId workloadId s!"capture failed: {e}") s := by
  unfold mapErr Program.onError
  rw [ends_andThen]
  refine (ends_executeCapture h).weaken fun result s₁ h₁ => ?_
  cases result with
  | ok outcome =>
    rcases h₁ with hj | ⟨-, e, he, -⟩
    · exact .inl hj
    · cases he
  | error e =>
    rcases h₁ with hj | ⟨hconfined, e', he, hpanic⟩
    · exact (ends_journaled hj).weaken fun _ _ => .inl
    · obtain rfl := Except.error.inj he
      dsimp only
      rw [if_neg hpanic, Program.ignore, ends_andThen, ends_andThen]
      refine (ends_abortCaptureAttempt hconfined).weaken fun _ s₂ h₂ => ?_
      exact h₂.imp id fun hundone => ⟨⟨e, rfl⟩, hundone⟩

theorem captureFailed_of_undone {s' : Store} (h : run.Undone s₀ s')
    (hcheckpoint : s₀.checkpoints.get run.checkpointId = none)
    (hattempt : s₀.attempts.get run.attemptId = none)
    (hreservation : s₀.reservations.get run.attemptId = none) : CaptureFailed s₀ s' where
  workloads := h.workloads
  lineage := h.lineage
  checkpoints := fun id => by
    by_cases hid : id = run.checkpointId
    · subst hid
      exact onlyNew_of_none hcheckpoint h.failed
    · exact .inl (h.checkpoints id hid)
  attempts := fun key => by
    by_cases hkey : key = run.attemptId
    · subst hkey
      exact onlyNew_of_none hattempt h.finished
    · exact .inl (h.attempts key hkey)
  reservations := fun key => by
    by_cases hkey : key = run.attemptId
    · subst hkey
      exact onlyNew_of_none hreservation h.released
    · exact .inl (h.reservations key hkey)

/-- A capture on a store whose identities are used up commits, or it fails and leaves nothing but
closed rows. -/
theorem ends_requestCapture
    (hcheckpoints : ∀ id, s.store.checkpoints.get id ≠ none → id < s.issued)
    (hattempts : ∀ nonce, s.store.attempts.get (.capture workloadId nonce) ≠ none →
      nonce < s.issued) :
    Ends Snapshot.Step (fun result s' =>
        (∃ nonce, s.issued ≤ nonce ∧
          s'.store.Journaled .capture (.capture workloadId nonce) .dbCommitted) ∨
          (∃ e, result = .error e) ∧ CaptureFailed s.store s'.store)
      (requestCapture settings workloadId options ctx) s := by
  unfold requestCapture
  refine Ends.bind ends_admitCapture (fun run s₁ h₁ => ?_) fun e s₁ h₁ => ?_
  · obtain ⟨hstore, hfresh⟩ := h₁
    obtain ⟨hid, nonce, hkey, hnonce⟩ := hfresh run rfl
    have hcheckpoint : s.store.checkpoints.get run.checkpointId = none := by
      by_contra hrow
      exact absurd (hcheckpoints _ hrow) (Nat.not_lt.mpr hid)
    have hattempt : s.store.attempts.get run.attemptId = none := by
      by_contra hrow
      exact absurd (hattempts nonce (hkey ▸ hrow)) (Nat.not_lt.mpr hnonce)
    rw [← hstore] at hcheckpoint hattempt ⊢
    refine Ends.bind (ends_reserveCapture hcheckpoint) (fun _ s₂ h₂ => ?_)
      fun e s₂ h₂ => ?_
    · obtain ⟨-, hconfined, hreservation⟩ | ⟨⟨e, he⟩, -⟩ := h₂
      · refine (ends_executeOrAbort hconfined).weaken fun result s₃ h₃ => ?_
        refine h₃.imp (fun hj => ⟨nonce, hnonce, hkey ▸ hj⟩) fun hundone => ⟨hundone.1, ?_⟩
        exact captureFailed_of_undone hundone.2 hcheckpoint hattempt hreservation
      · cases he
    · obtain ⟨he, -⟩ | ⟨-, hstore₂⟩ := h₂
      · cases he
      · exact .inr ⟨⟨e, rfl⟩, hstore₂ ▸ CaptureFailed.refl _⟩
  · exact .inr ⟨⟨e, rfl⟩, h₁.1 ▸ CaptureFailed.refl _⟩

/-- A capture that runs alone after any run, and that does not commit, returns an error. It leaves
the workloads, the lineage and the rows that were there as they were; its own checkpoint and
attempt are FAILED, and its reservation is released. -/
theorem failed_capture {t : List (Event (fabric settings))} {w : World}
    {result : FabricResult OperationOutcome} (h : Run t)
    (halone : Alone settings (requestCapture settings workloadId options ctx) (stateOf t) result w)
    (huncommitted : ∀ key, w.store.Journaled .capture key .dbCommitted →
      Journaled t .capture key .dbCommitted) :
    (∃ e, result = .error e) ∧ CaptureFailed (stateOf t).store w.store := by
  have hcheckpoints (id : Id) (hrow : (stateOf t).store.checkpoints.get id ≠ none) :
      id < (stateOf t).issued := by
    obtain ⟨c, hc⟩ := Option.ne_none_iff_exists'.mp hrow
    exact checkpointId_lt_issued h hc
  have hattempts (nonce : Id)
      (hrow : (stateOf t).store.attempts.get (.capture workloadId nonce) ≠ none) :
      nonce < (stateOf t).issued := by
    obtain ⟨a, ha⟩ := Option.ne_none_iff_exists'.mp hrow
    exact captureNonce_lt_issued h ha
  rcases halone.ends (ends_requestCapture hcheckpoints hattempts) with ⟨nonce, hle, hj⟩ | hfailed
  · exact absurd (captureNonce_lt_of_committed h (huncommitted _ hj)) (Nat.not_lt.mpr hle)
  · exact hfailed

end Request

/-- The second capture of the small fabric fails at its node, which knows one manifest only: its
checkpoint is inserted and fails. -/
theorem failed_capture_captured :
    (∃ c, (((requestCapture Demo.settings 7 {} Demo.operator).eval
        (World.answerAfter Demo.codecs 0) (stateOf (exec Demo.captured).trace)).2).checkpoint 4 =
          some c ∧ c.lifecycle = .failed) ∧
    ∃ e, ((requestCapture Demo.settings 7 {} Demo.operator).eval
      (World.answerAfter Demo.codecs 0) (stateOf (exec Demo.captured).trace)).1 = .error e := by
  have hmarks : ∀ e ∈ ((requestCapture Demo.settings 7 {} Demo.operator).eval
      (World.answerAfter Demo.codecs 0) (stateOf (exec Demo.captured).trace)).2.store.journal,
      e.kind = .capture → e.state = .dbCommitted →
        e ∈ (stateOf (exec Demo.captured).trace).store.journal := by
    decide +kernel
  have halone : Alone Demo.settings (requestCapture Demo.settings 7 {} Demo.operator)
      (stateOf (exec Demo.captured).trace)
      ((requestCapture Demo.settings 7 {} Demo.operator).eval
        (World.answerAfter Demo.codecs 0) (stateOf (exec Demo.captured).trace)).1
      ((requestCapture Demo.settings 7 {} Demo.operator).eval
        (World.answerAfter Demo.codecs 0) (stateOf (exec Demo.captured).trace)).2 :=
    alone_eval 0 _ _
  refine ⟨by decide +kernel, (failed_capture (exec_run Demo.captured) halone fun key hj => ?_).1⟩
  obtain ⟨e, he, hkind, hkey, hstate⟩ := hj
  exact ⟨e, hmarks e he hkind hstate, hkind, hkey, hstate⟩

end CheckpointFabric
