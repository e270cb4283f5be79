import CheckpointFabric.Footprints.Outcome
import CheckpointFabric.Steps.Attempts

/-!
# The outcome of a committed capture

After its commit a capture should report whether its source was resumed: by its answer, and by
the outcome in the row of its attempt. It does so when nothing fails after the source was
resumed. When something fails, the handler of failed captures records COMMITTED over whatever
was recorded, unless a call of the store cuts it off.

## Main definitions

* `CameBack` — a thread has just run a part of its program

## Main results

* `row_of_lastOutcome` — the row of an attempt shows the outcome that was recorded last
* `capture_reported` — when a committed capture reports faithfully
* `capture_unreported` — not always
-/

set_option autoImplicit false

namespace CheckpointFabric

open Concurrency Coordinator System

variable {settings : Settings} {t t' : List (Event (fabric settings))}
  {e : Event (fabric settings)} {tid tid' : ℕ} {key : AttemptId}

section Rows

/-- Whoever finishes an attempt has seen it opened. -/
theorem exists_attempt_of_finish {state : AttemptState} {result error : Option String}
    (h : Run (e :: t)) (hcalls : Calls e t tid (.attemptFinish key state result error) ()) :
    ∃ a, (stateOf t).attempt key = some a := by
  obtain ⟨request, hrequest, hwriter⟩ := hcalls.writer h not_false
  cases hwriter with
  | @capture workloadId options run hasks hdoes hwrites =>
    have hbegun : run.Begun workloadId (deeds tid t) := hdoes.begun.resolve_left not_false
    obtain rfl : key = run.attemptId := hwrites
    exact exists_attempt_of_opened h.tail hbegun.opened
  | @restore _ _ _ _ run hdoes hwrites hrestores =>
    have hbegun : run.Begun _ (deeds tid t) := hdoes.begun.resolve_left not_false
    obtain rfl : key = run.attemptId := hwrites
    exact exists_attempt_of_opened h.tail hbegun.opened
  | recovery hwrites hrecovery =>
    obtain ⟨a, hlisted, rfl, -⟩ := hwrites
    obtain ⟨t₁, hsuffix, ha⟩ := exists_attempt_of_listed h.tail hlisted
    obtain ⟨a', ha', -⟩ := attempt_of_suffix h.tail hsuffix ha
    exact ⟨a', ha'⟩
  | plain hwrites => exact absurd hwrites not_false

/-- A record of an outcome is a call. -/
theorem calls_of_recordedOutcome {op : Op} {input : Input} {before : World}
    {outcome : AttemptState × Option String}
    (h : System.Run (S := fabric settings) (.performed tid op input before :: t))
    (hrecorded : recordedOutcome key
      ⟨op, (World.handle settings.codecs op input before).1⟩ = some outcome) :
    ∃ result, Calls (.performed tid op input before) t tid
      (.attemptFinish key outcome.1 result outcome.2) () := by
  obtain rfl := h.before_eq
  generalize hd : (⟨op, (World.handle settings.codecs op input (stateOf t)).1⟩ : FabricDeed) = d
    at hrecorded
  unfold recordedOutcome at hrecorded
  split at hrecorded
  · split at hrecorded
    · rename_i id state result error u hid
      subst hid
      obtain rfl := Option.some.inj hrecorded
      obtain ⟨rfl, hreply⟩ := Deed.mk.inj hd
      exact ⟨result, input, rfl, eq_of_heq hreply⟩
    · exact absurd hrecorded.symm (Option.some_ne_none _)
  · exact absurd hrecorded.symm (Option.some_ne_none _)

/-- What was never recorded was not recorded earlier. -/
theorem lastOutcome_eq_none_of_suffix {ds ds' : List FabricDeed} (hsuffix : ds' <:+ ds)
    (h : lastOutcome key ds = none) : lastOutcome key ds' = none :=
  List.findSome?_eq_none_iff.mpr fun d hd =>
    List.findSome?_eq_none_iff.mp h d (hsuffix.subset hd)

/-- An event that records nothing for the attempt leaves what a thread has recorded last. -/
theorem lastOutcome_of_not_calls (h : Run (e :: t))
    (hcalls : ∀ tid state result error,
      ¬ Calls e t tid (.attemptFinish key state result error) ()) :
    lastOutcome key (deeds tid (e :: t)) = lastOutcome key (deeds tid t) := by
  cases e with
  | performed tid' op input before =>
    rw [deeds]
    split
    · rw [lastOutcome, List.findSome?_cons]
      split
      · rename_i outcome hrecorded
        obtain ⟨result, hcall⟩ := calls_of_recordedOutcome h hrecorded
        exact absurd hcall (hcalls _ _ _ _)
      · rfl
    · rfl
  | _ => rfl

/-- Where one thread only records the outcome of an attempt, its row shows the last one. -/
theorem row_of_lastOutcome (h : Run t)
    (hothers : ∀ tid' ≠ tid, lastOutcome key (deeds tid' t) = none)
    {outcome : AttemptState × Option String}
    (hlast : lastOutcome key (deeds tid t) = some outcome) :
    ∃ a, (stateOf t).attempt key = some a ∧ (a.state, a.error) = outcome := by
  induction t with
  | nil => exact absurd hlast.symm (Option.some_ne_none _)
  | cons e t ih =>
    by_cases hcalls : ∃ tid' state result error,
        Calls e t tid' (.attemptFinish key state result error) ()
    · obtain ⟨tid', state, result, error, hcalls⟩ := hcalls
      have hrecorded : lastOutcome key (deeds tid' (e :: t)) = some (state, error) := by
        rw [hcalls.deeds_eq]
        simp only [lastOutcome, List.findSome?_cons, recordedOutcome, if_true]
      obtain rfl : tid' = tid := by
        by_contra hne
        exact absurd (hrecorded.symm.trans (hothers tid' hne)) (Option.some_ne_none _)
      obtain rfl := Option.some.inj (hrecorded.symm.trans hlast)
      obtain ⟨a, ha⟩ := exists_attempt_of_finish h hcalls
      have hstore := StoreOp.snd_of_ok hcalls.run
      refine ⟨{ a with state, result, error, finishedMs := some (stateOf t).clock }, ?_, rfl⟩
      rw [stateOf_cons, World.attempt, ← hstore]
      have ha : (stateOf t).store.attempts.get key = some a := ha
      rw [Store.get_attemptFinish, if_pos rfl, ha]
      rfl
    · push Not at hcalls
      have hothers' : ∀ tid' ≠ tid, lastOutcome key (deeds tid' t) = none := fun tid' hne =>
        lastOutcome_eq_none_of_suffix (deeds_suffix (List.suffix_cons e t)) (hothers tid' hne)
      rw [lastOutcome_of_not_calls h hcalls] at hlast
      obtain ⟨a, ha, hshows⟩ := ih h.tail hothers' hlast
      rcases attemptStep_cases h key with ⟨tid', op, reply, hop, hcall, hstep⟩ | hsame
      · rw [ha] at hstep
        generalize hafter : (after e).attempt key = row at hstep
        cases hstep with
        | kept => exact ⟨a, hafter, hshows⟩
        | finished => exact absurd hcall (hcalls _ _ _ _)
      · exact ⟨a, hsame.trans ha, hshows⟩

end Rows

section Calls

variable {α : Type} {p : Fabric α} {base recent : List FabricDeed} {result : FabricResult α}

/-- Thread `tid` has just run the part `p` to this result: its deeds before are `base`, those of
the part are `recent`. -/
structure CameBack (t : List (Event (fabric settings))) (tid : ℕ) (p : Fabric α)
    (base recent : List FabricDeed) (result : FabricResult α) : Prop where
  deeds_eq : deeds tid t = recent ++ base
  follows : Follows p recent (.done result)

/-- A thread that has answered a request for a capture has come back from it. -/
theorem cameBack_of_answered {workloadId : Id} {options : CaptureOptions} {ctx : OperationContext}
    {response : FabricResult Response} {before : World}
    (h : System.Run (S := fabric settings) (.answered tid response before :: t))
    (hrequest : requestOf tid t = some (.capture workloadId options ctx)) :
    ∃ outcome, CameBack t tid (requestCapture settings workloadId options ctx) [] (deeds tid t)
      outcome ∧ response = outcome.map .outcome := by
  cases h with
  | answer hrun hlive hrequest' hfollows =>
    obtain rfl := Option.some.inj (hrequest.symm.trans hrequest')
    rcases hfollows.of_andThen with ⟨p', hp', hdone⟩ | ⟨outcome, older, recent, hds, hp, hf⟩
    · cases p' with
      | done outcome =>
        refine ⟨outcome, ⟨(List.append_nil _).symm, hp'⟩, ?_⟩
        cases outcome with
        | ok o => exact (Program.done.inj hdone)
        | error e => exact (Program.done.inj hdone)
      | perform => cases hdone
    · have hlast : Program.onValue (fun a => pure (Response.outcome a)) outcome =
          (.done (outcome.map .outcome) : Fabric Response) := by
        cases outcome <;> rfl
      rw [hlast] at hf
      obtain ⟨rfl, hdone⟩ := hf.of_done
      rw [List.nil_append] at hds
      exact ⟨outcome, ⟨(List.append_nil _).symm, hds ▸ hp⟩, Program.done.inj hdone⟩

variable {workloadId id : Id} {options : CaptureOptions} {ctx : OperationContext}
  {outcome : FabricResult OperationOutcome}

/-- A capture that has passed its commit reports faithfully whether its source was resumed exactly
if nothing has failed after the source was resumed, or if it was not resumed, this was recorded,
and the handler was cut off. What it has recorded last stands in the row of the attempt, unless
another thread has recorded an outcome as well. -/
theorem capture_reported (h : Run t)
    (hback : CameBack t tid (requestCapture settings workloadId options ctx) base recent outcome)
    (hcommit : ⟨.db (.captureCommit id key), .ok ()⟩ ∈ recent) :
    (Reported key recent outcome ↔
      FinishedCleanly settings id key recent ∨ AbortCutOff key recent) ∧
    ((∀ tid' ≠ tid, lastOutcome key (deeds tid' t) = none) →
      ∀ recorded ∈ lastOutcome key recent,
        ∃ a, (stateOf t).attempt key = some a ∧ (a.state, a.error) = recorded) := by
  refine ⟨obeys_requestCapture_outcome.of_follows hback.follows id key hcommit, ?_⟩
  intro hothers recorded hrecorded
  refine row_of_lastOutcome h hothers ?_
  rw [hback.deeds_eq, lastOutcome, List.findSome?_append]
  exact Option.or_eq_some_iff.mpr (.inl hrecorded)

end Calls

section Runs

/-- A capture whose source refuses to resume. -/
def Demo.refusedCapture : List (Action (fabric Demo.settings)) :=
  Demo.created ++ [.accept (.capture 7 {} Demo.operator)] ++
    List.replicate 38 (.advance 2 ({} : Input)) ++
    [.advance 2 ({ delivery := .answered { failure := some "provider" } } : Input)] ++
    List.replicate 20 (.advance 2 ({} : Input))

/-- The newest event answers a request for a capture, with a value or not. -/
def answersCapture (tid : ℕ) : List (Event (fabric settings)) → Option Bool
  | .answered tid' result _ :: t =>
    match requestOf tid t with
    | some (.capture _ _ _) => if tid' = tid then some result.toOption.isSome else none
    | _ => none
  | _ => none

theorem exists_cameBack {isOk : Bool} (h : Run t) (hanswers : answersCapture tid t = some isOk) :
    ∃ workloadId options ctx outcome, Run t.tail ∧
      CameBack t.tail tid (requestCapture settings workloadId options ctx) [] (deeds tid t.tail)
        outcome ∧ outcome.toOption.isSome = isOk := by
  unfold answersCapture at hanswers
  split at hanswers
  · split at hanswers
    · rename_i result before t workloadId options ctx hrequest
      split at hanswers
      · rename_i htid
        subst htid
        obtain ⟨outcome, hback, hresult⟩ := cameBack_of_answered h hrequest
        refine ⟨workloadId, options, ctx, outcome, h.tail, hback, ?_⟩
        rw [← Option.some.inj hanswers, hresult]
        cases outcome <;> rfl
      · exact absurd hanswers.symm (Option.some_ne_none _)
    · exact absurd hanswers.symm (Option.some_ne_none _)
  · exact absurd hanswers.symm (Option.some_ne_none _)

/-- The deed has committed a capture. -/
def commitsCapture (id : Id) (key : AttemptId) : FabricDeed → Bool
  | ⟨.db (.captureCommit id' key'), .ok ()⟩ => id' = id ∧ key' = key
  | _ => false

theorem mem_of_commitsCapture {id : Id} {ds : List FabricDeed}
    (h : ds.any (commitsCapture id key)) : ⟨.db (.captureCommit id key), .ok ()⟩ ∈ ds := by
  obtain ⟨d, hd, hcommits⟩ := List.any_eq_true.mp h
  unfold commitsCapture at hcommits
  split at hcommits
  · obtain ⟨rfl, rfl⟩ := of_decide_eq_true hcommits
    exact hd
  · exact absurd hcommits Bool.false_ne_true

/-- The caller gets an error, and COMMITTED is what was recorded last. -/
theorem cameBack_refusedCapture :
    ∃ workloadId options ctx outcome, Run (exec Demo.refusedCapture).trace.tail ∧
      CameBack (exec Demo.refusedCapture).trace.tail 2
        (requestCapture Demo.settings workloadId options ctx) []
        (deeds 2 (exec Demo.refusedCapture).trace.tail) outcome ∧
      (∃ e, outcome = .error e) ∧
      ⟨.db (.captureCommit 2 (.capture 7 1)), .ok ()⟩ ∈
        deeds 2 (exec Demo.refusedCapture).trace.tail ∧
      lastOutcome (.capture 7 1) (deeds 2 (exec Demo.refusedCapture).trace.tail) =
        some (.committed, none) := by
  have hanswers : answersCapture 2 (exec Demo.refusedCapture).trace = some false := by
    decide +kernel
  have hcommits : (deeds 2 (exec Demo.refusedCapture).trace.tail).any
      (commitsCapture 2 (.capture 7 1)) := by
    decide +kernel
  obtain ⟨workloadId, options, ctx, outcome, hrun, hback, hok⟩ :=
    exists_cameBack (exec_run Demo.refusedCapture) hanswers
  refine ⟨workloadId, options, ctx, outcome, hrun, hback, ?_, mem_of_commitsCapture hcommits,
    by decide +kernel⟩
  cases outcome with
  | ok o => exact absurd hok.symm Bool.false_ne_true
  | error e => exact ⟨e, rfl⟩

/-- When the source refuses to resume, the row of the attempt says COMMITTED. -/
theorem capture_reported_refused :
    ∃ outcome : FabricResult OperationOutcome,
      (Reported (.capture 7 1) (deeds 2 (exec Demo.refusedCapture).trace.tail) outcome ↔
        FinishedCleanly Demo.settings 2 (.capture 7 1)
            (deeds 2 (exec Demo.refusedCapture).trace.tail) ∨
          AbortCutOff (.capture 7 1) (deeds 2 (exec Demo.refusedCapture).trace.tail)) ∧
      ∃ a, (stateOf (exec Demo.refusedCapture).trace.tail).attempt (.capture 7 1) = some a ∧
        (a.state, a.error) = (.committed, none) := by
  obtain ⟨workloadId, options, ctx, outcome, hrun, hback, -, hcommit, hlast⟩ :=
    cameBack_refusedCapture
  obtain ⟨hiff, hrow⟩ := capture_reported hrun hback hcommit
  refine ⟨outcome, hiff, hrow (fun tid' hne => ?_) _ hlast⟩
  have hothers : ∀ tid' < admissions (exec Demo.refusedCapture).trace.tail, tid' ≠ 2 →
      lastOutcome (.capture 7 1) (deeds tid' (exec Demo.refusedCapture).trace.tail) = none := by
    decide +kernel
  rcases Nat.lt_or_ge tid' (admissions (exec Demo.refusedCapture).trace.tail) with hlt | hge
  · exact hothers tid' hlt hne
  · rw [(deeds_eq_nil_of_admissions_le hrun hge).1]
    rfl

/-- So not every capture that has passed its commit reports faithfully. -/
theorem capture_unreported :
    ¬ ∀ (settings : Settings) (t : List (Event (fabric settings))) (tid : ℕ)
      (workloadId : Id) (options : CaptureOptions) (ctx : OperationContext)
      (base recent : List FabricDeed) (outcome : FabricResult OperationOutcome) (id : Id)
      (key : AttemptId), Run t →
      CameBack t tid (requestCapture settings workloadId options ctx) base recent outcome →
      ⟨.db (.captureCommit id key), .ok ()⟩ ∈ recent → Reported key recent outcome := by
  intro hall
  obtain ⟨workloadId, options, ctx, _, hrun, hback, ⟨e, rfl⟩, hcommit, hlast⟩ :=
    cameBack_refusedCapture
  have hreported := hall _ _ _ _ _ _ _ _ _ _ _ hrun hback hcommit
  obtain ⟨-, before, text, hfailed, -⟩ := reported_error_iff.mp hreported
  rw [hlast] at hfailed
  cases hfailed

end Runs

end CheckpointFabric
