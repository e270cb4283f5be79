import CheckpointFabric.Concurrency.History
import Mathlib.Data.List.Infix

/-!
# Interleaved runs of a system

A system serves requests. Every admitted request runs the program of its
operation in a thread of its own, and the threads share one state: one thread
performs one atomic operation at a time, in any order. Besides, the process may
stop and start again, which ends every thread, and the environment may move the
state on its own (a clock that advances, a message that arrives late).

A run is recorded as its trace, newest event first. The state is a function of
the trace, and so is the history of every thread.

## Main definitions

* `System` — the operations, what they do to the state, and the programs served
* `Event`, `System.stateOf`, `System.deeds`, `System.Live` — traces and what they tell
* `System.Since` — one event, and another property from then on
* `System.Run` — the traces of all interleavings
* `System.exec` — the run of a given schedule

## Main results

* `System.Run.permitted`, `System.Run.concluded`, `System.Run.deeds_of_obeys` — what holds of the
  text of the served programs holds of every event, and of every thread
* `System.Run.invariant_of_obeys`, `System.Run.related`, `System.suffix_induction` — from one
  step to whole runs
* `System.exists_event_of_deed` — a deed is an event of the trace
* `System.exec_run` — a schedule yields a run
-/

set_option autoImplicit false

namespace Concurrency

/-- A system: atomic operations on a shared state, and a program for each request. -/
structure System extends Interface where
  Error : Type
  Request : Type
  Response : Type
  State : Type
  /-- What an operation reads from outside: the outcome of a call, a fault. -/
  Input : Type
  /-- What the environment may do to the state. -/
  Move : Type
  initial : State
  handle : (op : Op) → Input → State → Except Error (Reply op) × State
  serve : Request → Program toInterface Error Response
  /-- How the arrival of a request changes the state. -/
  accept : Request → State → State
  /-- What is left of the state when the process starts again. -/
  restart : State → State
  move : Move → State → State

/-- One event of a run, with the state before it. -/
inductive Event (S : System) : Type
  | admitted (tid : ℕ) (request : S.Request) (before : S.State)
  | performed (tid : ℕ) (op : S.Op) (input : S.Input) (before : S.State)
  | answered (tid : ℕ) (result : Except S.Error S.Response) (before : S.State)
  | restarted (before : S.State)
  | moved (move : S.Move) (before : S.State)

namespace System

variable {S : System}

/-- The state that an event leaves. -/
def after : Event S → S.State
  | .admitted _ request before => S.accept request before
  | .performed _ op input before => (S.handle op input before).2
  | .answered _ _ before => before
  | .restarted before => S.restart before
  | .moved move before => S.move move before

/-- The state that a trace leads to. -/
def stateOf : List (Event S) → S.State
  | [] => S.initial
  | e :: _ => after e

@[simp] theorem stateOf_nil : stateOf ([] : List (Event S)) = S.initial := rfl

@[simp] theorem stateOf_cons (e : Event S) (t : List (Event S)) : stateOf (e :: t) = after e := rfl

/-- What thread `tid` has performed, newest first. -/
def deeds (tid : ℕ) : List (Event S) → List (Deed S.toInterface S.Error)
  | [] => []
  | .performed tid' op input before :: t =>
    if tid' = tid then ⟨op, (S.handle op input before).1⟩ :: deeds tid t else deeds tid t
  | _ :: t => deeds tid t

/-- The request that thread `tid` serves. -/
def requestOf (tid : ℕ) : List (Event S) → Option S.Request
  | [] => none
  | .admitted tid' request _ :: t => if tid' = tid then some request else requestOf tid t
  | _ :: t => requestOf tid t

/-- What thread `tid` has answered. -/
def answerOf (tid : ℕ) : List (Event S) → Option (Except S.Error S.Response)
  | [] => none
  | .answered tid' result _ :: t => if tid' = tid then some result else answerOf tid t
  | _ :: t => answerOf tid t

/-- The number of requests admitted so far: the name of the next thread. -/
def admissions : List (Event S) → ℕ
  | [] => 0
  | .admitted _ _ _ :: t => admissions t + 1
  | _ :: t => admissions t

/-- Thread `tid` was admitted, has not answered, and the process has not stopped
since. -/
def Live (tid : ℕ) : List (Event S) → Prop
  | [] => False
  | .admitted tid' _ _ :: t => tid' = tid ∨ Live tid t
  | .answered tid' _ _ :: t => tid' ≠ tid ∧ Live tid t
  | .restarted _ :: _ => False
  | _ :: t => Live tid t

instance decidableLive (tid : ℕ) : ∀ t : List (Event S), Decidable (Live tid t)
  | [] => isFalse not_false
  | .admitted tid' _ _ :: t =>
    have := decidableLive tid t
    inferInstanceAs (Decidable (tid' = tid ∨ Live tid t))
  | .answered tid' _ _ :: t =>
    have := decidableLive tid t
    inferInstanceAs (Decidable (tid' ≠ tid ∧ Live tid t))
  | .restarted _ :: _ => isFalse not_false
  | .performed _ _ _ _ :: t => decidableLive tid t
  | .moved _ _ :: t => decidableLive tid t

/-- The traces of all interleavings. -/
inductive Run : List (Event S) → Prop
  | start : Run []
  | accept {t : List (Event S)} (request : S.Request) :
      Run t → Run (.admitted (admissions t) request (stateOf t) :: t)
  | perform {t : List (Event S)} {tid : ℕ} {request : S.Request} {op : S.Op}
      {rest : Except S.Error (S.Reply op) → Program S.toInterface S.Error S.Response}
      (input : S.Input) : Run t → Live tid t → requestOf tid t = some request →
      Follows (S.serve request) (deeds tid t) (.perform op rest) →
      Run (.performed tid op input (stateOf t) :: t)
  | answer {t : List (Event S)} {tid : ℕ} {request : S.Request}
      {result : Except S.Error S.Response} : Run t → Live tid t →
      requestOf tid t = some request →
      Follows (S.serve request) (deeds tid t) (.done result) →
      Run (.answered tid result (stateOf t) :: t)
  | restart {t : List (Event S)} : Run t → Run (.restarted (stateOf t) :: t)
  | move {t : List (Event S)} (move : S.Move) : Run t → Run (.moved move (stateOf t) :: t)

/-- A state that some run leads to. -/
def Reachable (s : S.State) : Prop := ∃ t : List (Event S), Run t ∧ stateOf t = s

theorem Run.tail {e : Event S} {t : List (Event S)} (h : Run (e :: t)) : Run t := by
  cases h <;> assumption

theorem Run.of_suffix {t t' : List (Event S)} (h : Run t) (hsuffix : t' <:+ t) : Run t' := by
  induction t with
  | nil => exact (List.suffix_nil.mp hsuffix) ▸ h
  | cons e t ih =>
    rcases List.suffix_cons_iff.mp hsuffix with rfl | hsuffix
    · exact h
    · exact ih h.tail hsuffix

section Programs

variable {t : List (Event S)} {tid : ℕ}
  {permits : S.Request → List (Deed S.toInterface S.Error) → S.Op → Prop}
  {conclude : S.Request → List (Deed S.toInterface S.Error) →
    Except S.Error S.Response → Prop}

/-- Whatever the text of the served programs permits is permitted at every
operation of every run. -/
theorem Run.permitted {op : S.Op} {input : S.Input} {before : S.State}
    (h : Run (.performed tid op input before :: t))
    (hobeys : ∀ request, Obeys (permits request) (conclude request) [] (S.serve request)) :
    ∃ request, requestOf tid t = some request ∧ permits request (deeds tid t) op := by
  cases h with
  | perform input hrun hlive hrequest hfollows =>
    exact ⟨_, hrequest, ((hobeys _).of_follows hfollows).1⟩

theorem Run.concluded {result : Except S.Error S.Response} {before : S.State}
    (h : Run (.answered tid result before :: t))
    (hobeys : ∀ request, Obeys (permits request) (conclude request) [] (S.serve request)) :
    ∃ request, requestOf tid t = some request ∧ conclude request (deeds tid t) result := by
  cases h with
  | answer hrun hlive hrequest hfollows => exact ⟨_, hrequest, (hobeys _).of_follows hfollows⟩

theorem Run.live {op : S.Op} {input : S.Input} {before : S.State}
    (h : Run (.performed tid op input before :: t)) : Live tid t := by
  cases h with
  | perform input hrun hlive hrequest hfollows => exact hlive

theorem Run.before_eq {op : S.Op} {input : S.Input} {before : S.State}
    (h : Run (.performed tid op input before :: t)) : before = stateOf t := by
  cases h
  rfl

end Programs

section Deeds

variable {t : List (Event S)} {tid : ℕ}

theorem deeds_performed {op : S.Op} {input : S.Input} {before : S.State} :
    deeds tid (.performed tid op input before :: t) =
      ⟨op, (S.handle op input before).1⟩ :: deeds tid t := by
  simp only [deeds, if_true]

/-- A deed of a thread is an event of the trace, and the deeds before it are the
deeds at that event. -/
theorem exists_event_of_deed {d : Deed S.toInterface S.Error}
    {ds : List (Deed S.toInterface S.Error)} (hrun : Run t) (h : d :: ds <:+ deeds tid t) :
    ∃ input t', .performed tid d.op input (stateOf t') :: t' <:+ t ∧
      deeds tid t' = ds ∧ d.reply = (S.handle d.op input (stateOf t')).1 := by
  induction hrun with
  | start => simp [deeds] at h
  | accept request _ ih =>
    obtain ⟨input, t', hsuffix, hrest⟩ := ih h
    exact ⟨input, t', hsuffix.trans (List.suffix_cons _ _), hrest⟩
  | @perform t₀ tid' request op rest input hrun _ _ _ ih =>
    by_cases htid : tid' = tid
    · subst htid
      simp only [deeds, if_true] at h
      rcases List.suffix_cons_iff.mp h with heq | h
      · obtain ⟨rfl, rfl⟩ := List.cons.inj heq
        exact ⟨input, t₀, List.suffix_refl _, rfl, rfl⟩
      · obtain ⟨input', t', hsuffix, hrest⟩ := ih h
        exact ⟨input', t', hsuffix.trans (List.suffix_cons _ _), hrest⟩
    · simp only [deeds, if_neg htid] at h
      obtain ⟨input', t', hsuffix, hrest⟩ := ih h
      exact ⟨input', t', hsuffix.trans (List.suffix_cons _ _), hrest⟩
  | answer _ _ _ _ ih =>
    obtain ⟨input, t', hsuffix, hrest⟩ := ih h
    exact ⟨input, t', hsuffix.trans (List.suffix_cons _ _), hrest⟩
  | restart _ ih =>
    obtain ⟨input, t', hsuffix, hrest⟩ := ih h
    exact ⟨input, t', hsuffix.trans (List.suffix_cons _ _), hrest⟩
  | move _ _ ih =>
    obtain ⟨input, t', hsuffix, hrest⟩ := ih h
    exact ⟨input, t', hsuffix.trans (List.suffix_cons _ _), hrest⟩

/-- A deed of a thread is a call that it made while it was live. -/
theorem exists_performed_of_mem {d : Deed S.toInterface S.Error} (h : Run t) (hd : d ∈ deeds tid t) :
    ∃ input past, .performed tid d.op input (stateOf past) :: past <:+ t ∧ Live tid past ∧
      d.reply = (S.handle d.op input (stateOf past)).1 := by
  obtain ⟨newer, older, heq⟩ := List.append_of_mem hd
  obtain ⟨input, past, hsuffix, -, hreply⟩ :=
    exists_event_of_deed h (heq ▸ List.suffix_append newer (d :: older))
  exact ⟨input, past, hsuffix, (h.of_suffix hsuffix).live, hreply⟩

end Deeds

theorem suffix_of_cons {t past : List (Event S)} {e : Event S} (h : e :: past <:+ t) : past <:+ t :=
  (List.suffix_cons e past).trans h

/-- An answer is an event of the trace. -/
theorem exists_answered_of_answerOf {t : List (Event S)} {tid : ℕ}
    {result : Except S.Error S.Response} (h : answerOf tid t = some result) :
    ∃ before past, .answered tid result before :: past <:+ t := by
  induction t with
  | nil => exact nomatch h
  | cons e t ih =>
    have hlater (h : answerOf tid t = some result) :
        ∃ before past, .answered tid result before :: past <:+ e :: t := by
      obtain ⟨before, past, hsuffix⟩ := ih h
      exact ⟨before, past, hsuffix.trans (List.suffix_cons e t)⟩
    cases e with
    | answered tid' result' before =>
      rw [answerOf] at h
      split at h
      · rename_i htid
        obtain rfl := Option.some.inj h
        exact ⟨before, t, htid ▸ List.suffix_refl _⟩
      · exact hlater h
    | _ => exact hlater h

/-- What holds of a trace and is kept by every later event holds of every later trace. -/
theorem suffix_induction {P : List (Event S) → Prop} {t₁ t : List (Event S)} (hsuffix : t₁ <:+ t)
    (hstart : P t₁)
    (hstep : ∀ e past, t₁ <:+ past → e :: past <:+ t → P past → P (e :: past)) : P t := by
  induction t with
  | nil => exact (List.suffix_nil.mp hsuffix) ▸ hstart
  | cons e t ih =>
    rcases List.suffix_cons_iff.mp hsuffix with rfl | hsuffix
    · exact hstart
    · exact hstep e t hsuffix (List.suffix_refl _)
        (ih hsuffix fun e' past h h' => hstep e' past h (h'.trans (List.suffix_cons e t)))

/-- A trace before an event is before some event of the trace that ends there. -/
theorem exists_cons_suffix {t t' : List (Event S)} {e : Event S} (h : t' <:+ t) :
    ∃ e', e' :: t' <:+ e :: t := by
  obtain ⟨later, rfl⟩ := h
  induction later generalizing e with
  | nil => exact ⟨e, List.suffix_refl _⟩
  | cons a later ih =>
    obtain ⟨e', hsuffix⟩ := @ih a
    exact ⟨e', hsuffix.trans (List.suffix_cons _ _)⟩

/-- Every event of the trace satisfies `P` together with the trace before it. -/
def EveryStep (P : Event S → List (Event S) → Prop) (t : List (Event S)) : Prop :=
  ∀ e past, e :: past <:+ t → P e past

section EveryStep

variable {P Q : Event S → List (Event S) → Prop} {t t' : List (Event S)}

theorem everyStep_nil : EveryStep P [] := fun _ _ h => absurd (List.suffix_nil.mp h) (by simp)

theorem everyStep_cons {e : Event S} : EveryStep P (e :: t) ↔ P e t ∧ EveryStep P t := by
  constructor
  · exact fun h => ⟨h e t (List.suffix_refl _),
      fun e' past hsuffix => h e' past (hsuffix.trans (List.suffix_cons e t))⟩
  · rintro ⟨he, h⟩ e' past hsuffix
    rcases List.suffix_cons_iff.mp hsuffix with heq | hsuffix
    · obtain ⟨rfl, rfl⟩ := List.cons.inj heq
      exact he
    · exact h e' past hsuffix

theorem EveryStep.of_suffix (h : EveryStep P t) (hsuffix : t' <:+ t) : EveryStep P t' :=
  fun e past hpast => h e past (hpast.trans hsuffix)

theorem EveryStep.mono (himp : ∀ e past, P e past → Q e past) (h : EveryStep P t) :
    EveryStep Q t :=
  fun e past hpast => himp e past (h e past hpast)

/-- Where a property fails it fails at an event. -/
theorem exists_of_not_everyStep (h : ¬ EveryStep (fun e past => ¬ P e past) t) :
    ∃ e past, e :: past <:+ t ∧ P e past := by
  simp only [EveryStep, not_forall, not_not] at h
  obtain ⟨e, past, hsuffix, hP⟩ := h
  exact ⟨e, past, hsuffix, hP⟩

instance decidableEveryStep [∀ e past, Decidable (P e past)] :
    ∀ t : List (Event S), Decidable (EveryStep P t)
  | [] => isTrue everyStep_nil
  | e :: past =>
    have := decidableEveryStep past
    decidable_of_iff (P e past ∧ EveryStep P past) everyStep_cons.symm

end EveryStep

/-- Some event satisfies `P`, and every event since then satisfies `Q`. -/
def Since (P Q : Event S → Prop) : List (Event S) → Prop
  | [] => False
  | e :: t => P e ∨ Q e ∧ Since P Q t

theorem since_iff {P Q : Event S → Prop} {t : List (Event S)} : Since P Q t ↔
    ∃ e past, e :: past <:+ t ∧ P e ∧ ∀ e' later, e' :: later <:+ t → e :: past <:+ later → Q e' := by
  induction t with
  | nil => exact ⟨False.elim, fun ⟨e, past, hsuffix, _⟩ => absurd (List.suffix_nil.mp hsuffix) (by simp)⟩
  | cons a t ih =>
    rw [Since, ih]
    constructor
    · rintro (ha | ⟨hq, e, past, hsuffix, hp, hsince⟩)
      · refine ⟨a, t, List.suffix_refl _, ha, fun e' later hlater hafter => ?_⟩
        have hle := (List.suffix_cons e' later).length_le
        exact absurd (hafter.length_le.trans (Nat.le_of_succ_le_succ hlater.length_le)) (by simp)
      · refine ⟨e, past, hsuffix.trans (List.suffix_cons a t), hp, fun e' later hlater hafter => ?_⟩
        rcases List.suffix_cons_iff.mp hlater with heq | hlater
        · exact (List.cons.inj heq).1 ▸ hq
        · exact hsince e' later hlater hafter
    · rintro ⟨e, past, hsuffix, hp, hsince⟩
      rcases List.suffix_cons_iff.mp hsuffix with heq | hsuffix
      · exact .inl ((List.cons.inj heq).1 ▸ hp)
      · exact .inr ⟨hsince a t (List.suffix_refl _) hsuffix, e, past, hsuffix, hp,
          fun e' later hlater => hsince e' later (hlater.trans (List.suffix_cons a t))⟩

section Threads

variable {t t' : List (Event S)} {tid : ℕ}

theorem deeds_eq_nil_of_admissions_le {t : List (Event S)} {tid : ℕ} (h : Run t)
    (hle : admissions t ≤ tid) : deeds tid t = [] ∧ ¬ Live tid t := by
  induction h with
  | start => exact ⟨rfl, id⟩
  | accept request _ ih =>
    simp only [admissions] at hle
    obtain ⟨hdeeds, hlive⟩ := ih (by omega)
    exact ⟨hdeeds, fun h => h.elim (by omega) hlive⟩
  | perform input _ hlive _ _ ih =>
    obtain ⟨hdeeds, hdead⟩ := ih hle
    refine ⟨?_, hdead⟩
    simp only [deeds]
    split
    · rename_i heq
      exact absurd (heq ▸ hlive) hdead
    · exact hdeeds
  | answer _ _ _ _ ih => exact ⟨(ih hle).1, fun h => (ih hle).2 h.2⟩
  | restart _ ih => exact ⟨(ih hle).1, id⟩
  | move _ _ ih => exact ih hle

theorem lt_admissions_of_live (h : Run t) (hlive : Live tid t) : tid < admissions t := by
  by_contra hle
  exact (deeds_eq_nil_of_admissions_le h (Nat.le_of_not_lt hle)).2 hlive

theorem lt_admissions_of_mem_deeds (h : Run t) {d : Deed S.toInterface S.Error}
    (hd : d ∈ deeds tid t) : tid < admissions t := by
  by_contra hle
  rw [(deeds_eq_nil_of_admissions_le h (Nat.le_of_not_lt hle)).1] at hd
  exact List.not_mem_nil hd

theorem deeds_suffix (hsuffix : t' <:+ t) : deeds tid t' <:+ deeds tid t := by
  refine suffix_induction (P := fun past => deeds tid t' <:+ deeds tid past) hsuffix
    (List.suffix_refl _) fun e past _ _ ih => ?_
  cases e with
  | performed tid' op input before =>
    simp only [deeds]
    split
    · exact ih.trans (List.suffix_cons _ _)
    · exact ih
  | _ => exact ih

theorem admissions_le_of_suffix (hsuffix : t' <:+ t) : admissions t' ≤ admissions t := by
  refine suffix_induction (P := fun past => admissions t' ≤ admissions past) hsuffix
    (Nat.le_refl _) fun e past _ _ ih => ?_
  cases e with
  | admitted => exact Nat.le_succ_of_le ih
  | _ => exact ih

/-- A thread that is live was live ever since it was admitted. -/
theorem Live.of_suffix (h : Run t) (hsuffix : t' <:+ t) (hadmitted : tid < admissions t')
    (hlive : Live tid t) : Live tid t' := by
  induction h with
  | start => exact (List.suffix_nil.mp hsuffix) ▸ hlive
  | accept request _ ih =>
    rcases List.suffix_cons_iff.mp hsuffix with rfl | hsuffix
    · exact hlive
    · rcases hlive with rfl | hlive
      · exact absurd hadmitted (Nat.not_lt.mpr (admissions_le_of_suffix hsuffix))
      · exact ih hsuffix hlive
  | restart _ _ =>
    rcases List.suffix_cons_iff.mp hsuffix with rfl | _
    · exact hlive
    · exact absurd hlive id
  | answer _ _ _ _ ih =>
    rcases List.suffix_cons_iff.mp hsuffix with rfl | hsuffix
    · exact hlive
    · exact ih hsuffix hlive.2
  | _ =>
    rename_i ih
    rcases List.suffix_cons_iff.mp hsuffix with rfl | hsuffix
    · exact hlive
    · exact ih hsuffix hlive

theorem exists_admitted_of_requestOf {request : S.Request} (h : requestOf tid t = some request) :
    ∃ before, .admitted tid request before ∈ t := by
  induction t with
  | nil => exact nomatch h
  | cons e t ih =>
    cases e with
    | admitted tid' request' before =>
      simp only [requestOf] at h
      split at h
      · rename_i htid
        obtain rfl := Option.some.inj h
        exact ⟨before, htid ▸ .head t⟩
      · obtain ⟨before, hmem⟩ := ih h
        exact ⟨before, .tail _ hmem⟩
    | _ =>
      obtain ⟨before, hmem⟩ := ih h
      exact ⟨before, .tail _ hmem⟩

/-- The request of a thread is known from its admission on. -/
theorem requestOf_of_suffix (h : Run t) (hsuffix : t' <:+ t) (hadmitted : tid < admissions t') :
    requestOf tid t = requestOf tid t' := by
  induction h with
  | start => rw [List.suffix_nil.mp hsuffix]
  | accept request _ ih =>
    rcases List.suffix_cons_iff.mp hsuffix with rfl | hsuffix
    · rfl
    · have hle := admissions_le_of_suffix hsuffix
      rw [requestOf, if_neg (by omega), ih hsuffix]
  | _ =>
    rename_i ih
    rcases List.suffix_cons_iff.mp hsuffix with rfl | hsuffix
    · rfl
    · exact ih hsuffix

/-- What a thread has answered it has answered to its request. -/
theorem requestOf_answered {result : Except S.Error S.Response} {before : S.State}
    {past : List (Event S)} (h : Run t) (hsuffix : .answered tid result before :: past <:+ t) :
    requestOf tid past = requestOf tid t := by
  have hlive : Live tid past := by
    cases h.of_suffix hsuffix with
    | answer _ hlive _ _ => exact hlive
  have hpast := suffix_of_cons hsuffix
  exact (requestOf_of_suffix h hpast (lt_admissions_of_live (h.of_suffix hpast) hlive)).symm

/-- Between the deed of a live thread and now the thread was live throughout, and had done
that deed. -/
theorem live_between {d : Deed S.toInterface S.Error} (h : Run t) (hlive : Live tid t)
    (hsuffix : t' <:+ t) (hd : d ∈ deeds tid t') :
    Live tid t' ∧ requestOf tid t' = requestOf tid t ∧ deeds tid t' <:+ deeds tid t :=
  have hadmitted := lt_admissions_of_mem_deeds (h.of_suffix hsuffix) hd
  ⟨hlive.of_suffix h hsuffix hadmitted, (requestOf_of_suffix h hsuffix hadmitted).symm,
    deeds_suffix hsuffix⟩

/-- A thread that is not live any more does nothing more. -/
theorem deeds_eq_of_not_live (h : Run t) (hsuffix : t' <:+ t) (hadmitted : tid < admissions t')
    (hdead : ¬ Live tid t') : deeds tid t = deeds tid t' := by
  refine suffix_induction (P := fun past => deeds tid past = deeds tid t') hsuffix rfl
    fun e past hpast hlater ih => ?_
  cases e with
  | performed tid' op input before =>
    simp only [deeds]
    split
    · rename_i htid
      subst htid
      have hrun := h.of_suffix hlater
      exact absurd (hrun.live.of_suffix hrun.tail hpast hadmitted) hdead
    · exact ih
  | _ => exact ih

/-- A fact about the deeds that holds at every point of the served program holds of the deeds of
a thread, finished or not. -/
theorem Run.deeds_of_obeys {fact : List (Deed S.toInterface S.Error) → Prop} {request : S.Request}
    (h : Run t) (hrequest : requestOf tid t = some request)
    (hobeys : Obeys (fun ds _ => fact ds) (fun ds _ => fact ds) [] (S.serve request)) :
    fact (deeds tid t) := by
  induction h with
  | start => cases hrequest
  | @accept t request' hrun ih =>
    by_cases htid : admissions t = tid
    · have hnone : deeds tid (.admitted (admissions t) request' (stateOf t) :: t) = [] :=
        (deeds_eq_nil_of_admissions_le hrun (Nat.le_of_eq htid)).1
      rw [hnone]
      exact hobeys.fact
    · rw [requestOf, if_neg htid] at hrequest
      exact ih hrequest
  | @perform t tid' request' op rest input hrun hlive hrequest' hfollows ih =>
    by_cases htid : tid' = tid
    · subst htid
      obtain rfl := Option.some.inj (hrequest'.symm.trans hrequest)
      rw [deeds_performed]
      exact ((hobeys.of_follows hfollows).2 _).fact
    · rw [deeds, if_neg htid]
      exact ih hrequest
  | answer _ _ _ _ ih | restart _ ih | move _ _ ih => exact ih hrequest

end Threads

section States

/-- Likewise, when only the operations that the served programs permit keep it. -/
theorem Run.invariant_of_obeys {P : S.State → Prop}
    {permits : S.Request → List (Deed S.toInterface S.Error) → S.Op → Prop}
    {conclude : S.Request → List (Deed S.toInterface S.Error) →
      Except S.Error S.Response → Prop}
    {t : List (Event S)} (h : Run t)
    (hobeys : ∀ request, Obeys (permits request) (conclude request) [] (S.serve request))
    (hinitial : P S.initial) (haccept : ∀ request s, P s → P (S.accept request s))
    (hhandle : ∀ request ds op input s, permits request ds op → P s → P (S.handle op input s).2)
    (hrestart : ∀ s, P s → P (S.restart s)) (hmove : ∀ m s, P s → P (S.move m s)) :
    P (stateOf t) := by
  induction h with
  | start => exact hinitial
  | accept request _ ih => exact haccept request _ ih
  | perform input _ _ _ hfollows ih =>
    exact hhandle _ _ _ input _ ((hobeys _).of_follows hfollows).1 ih
  | answer _ _ _ _ ih => exact ih
  | restart _ ih => exact hrestart _ ih
  | move m _ ih => exact hmove m _ ih

/-- A reflexive and transitive relation that every event respects relates the
states at any two points of a run. -/
theorem Run.related {R : S.State → S.State → Prop} {t t' : List (Event S)} (h : Run t)
    (hsuffix : t' <:+ t) (hrefl : ∀ s, R s s) (htrans : ∀ {a b c}, R a b → R b c → R a c)
    (haccept : ∀ request s, R s (S.accept request s))
    (hhandle : ∀ op input s, R s (S.handle op input s).2)
    (hrestart : ∀ s, R s (S.restart s)) (hmove : ∀ m s, R s (S.move m s)) :
    R (stateOf t') (stateOf t) := by
  induction h with
  | start => exact (List.suffix_nil.mp hsuffix) ▸ hrefl _
  | accept request _ ih =>
    rcases List.suffix_cons_iff.mp hsuffix with rfl | hsuffix
    · exact hrefl _
    · exact htrans (ih hsuffix) (haccept request _)
  | perform input _ _ _ _ ih =>
    rcases List.suffix_cons_iff.mp hsuffix with rfl | hsuffix
    · exact hrefl _
    · exact htrans (ih hsuffix) (hhandle _ input _)
  | answer _ _ _ _ ih =>
    rcases List.suffix_cons_iff.mp hsuffix with rfl | hsuffix
    · exact hrefl _
    · exact ih hsuffix
  | restart _ ih =>
    rcases List.suffix_cons_iff.mp hsuffix with rfl | hsuffix
    · exact hrefl _
    · exact htrans (ih hsuffix) (hrestart _)
  | move m _ ih =>
    rcases List.suffix_cons_iff.mp hsuffix with rfl | hsuffix
    · exact hrefl _
    · exact htrans (ih hsuffix) (hmove m _)

end States

section Schedules

/-- One step of a schedule. -/
inductive Action (S : System) : Type
  | accept (request : S.Request)
  /-- Thread `tid` performs its next operation with this input, or answers. -/
  | advance (tid : ℕ) (input : S.Input)
  | restart
  | move (move : S.Move)

/-- A run under way: its trace, and what every thread has left to do. -/
structure Config (S : System) : Type where
  trace : List (Event S)
  threads : List (Option (Program S.toInterface S.Error S.Response))

/-- The effect of one step of a schedule; a step that is not possible does nothing. -/
def Config.step (c : Config S) : Action S → Config S
  | .accept request =>
    ⟨.admitted c.threads.length request (stateOf c.trace) :: c.trace,
      c.threads ++ [some (S.serve request)]⟩
  | .advance tid input =>
    match c.threads[tid]? with
    | some (some (.done result)) =>
      ⟨.answered tid result (stateOf c.trace) :: c.trace, c.threads.set tid none⟩
    | some (some (.perform op rest)) =>
      ⟨.performed tid op input (stateOf c.trace) :: c.trace,
        c.threads.set tid (some (rest (S.handle op input (stateOf c.trace)).1))⟩
    | _ => c
  | .restart => ⟨.restarted (stateOf c.trace) :: c.trace, c.threads.map fun _ => none⟩
  | .move m => ⟨.moved m (stateOf c.trace) :: c.trace, c.threads⟩

/-- The run of a schedule. -/
def exec (actions : List (Action S)) : Config S := actions.foldl Config.step ⟨[], []⟩

/-- The threads of a configuration are what its trace says they are. -/
structure Config.Faithful (c : Config S) : Prop where
  run : Run c.trace
  length : c.threads.length = admissions c.trace
  thread : ∀ {tid p}, c.threads[tid]? = some (some p) → Live tid c.trace ∧
    ∃ request, requestOf tid c.trace = some request ∧
      Follows (S.serve request) (deeds tid c.trace) p

theorem Config.Faithful.step {c : Config S} (h : c.Faithful) (a : Action S) :
    (c.step a).Faithful := by
  cases a with
  | accept request =>
    refine ⟨?_, by simp [Config.step, admissions, h.length], ?_⟩
    · simp only [Config.step, h.length]
      exact h.run.accept request
    intro tid p hp
    simp only [Config.step, List.getElem?_append] at hp
    -- A thread that was there goes on as before; the new one has done nothing yet.
    by_cases hlt : tid < c.threads.length
    · rw [if_pos hlt] at hp
      obtain ⟨hlive, request', hrequest, hfollows⟩ := h.thread hp
      refine ⟨.inr hlive, request', ?_, hfollows⟩
      simp only [Config.step, requestOf, if_neg (show c.threads.length ≠ tid by omega), hrequest]
    · rw [if_neg hlt] at hp
      have htid : tid = c.threads.length := by
        by_contra hne
        rw [List.getElem?_eq_none (by simp; omega)] at hp
        exact absurd hp (by simp)
      subst htid
      simp only [Nat.sub_self, List.getElem?_cons_zero, Option.some.injEq] at hp
      have hnil : deeds c.threads.length c.trace = [] :=
        (deeds_eq_nil_of_admissions_le h.run h.length.ge).1
      refine ⟨.inl rfl, request, by simp [Config.step, requestOf], ?_⟩
      simp only [Config.step, deeds, hnil]
      exact hp ▸ .start
  | advance tid input =>
    simp only [Config.step]
    split
    · rename_i result hthread
      obtain ⟨hlive, request, hrequest, hfollows⟩ := h.thread hthread
      refine ⟨h.run.answer hlive hrequest hfollows, by simp [admissions, h.length], ?_⟩
      intro tid' p hp
      -- The thread that was answered has no program any more.
      have hne : tid ≠ tid' := by
        rintro rfl
        rw [List.getElem?_set] at hp
        split at hp <;> simp_all
      rw [List.getElem?_set_ne hne] at hp
      obtain ⟨hlive', hrest⟩ := h.thread hp
      exact ⟨⟨hne, hlive'⟩, hrest⟩
    · rename_i op rest hthread
      obtain ⟨hlive, request, hrequest, hfollows⟩ := h.thread hthread
      refine ⟨h.run.perform input hlive hrequest hfollows, by simp [admissions, h.length], ?_⟩
      intro tid' p hp
      -- The thread that took the step has one deed more; the deeds of the others stay.
      by_cases hne : tid = tid'
      · subst hne
        rw [List.getElem?_set_self (List.getElem?_eq_some_iff.mp hthread).1] at hp
        simp only [Option.some.injEq] at hp
        subst hp
        refine ⟨hlive, request, hrequest, ?_⟩
        simp only [deeds, if_true]
        exact hfollows.perform _
      · rw [List.getElem?_set_ne hne] at hp
        obtain ⟨hlive', request', hrequest', hfollows'⟩ := h.thread hp
        refine ⟨hlive', request', hrequest', ?_⟩
        simpa only [deeds, if_neg hne] using hfollows'
    · exact h
  | restart =>
    refine ⟨h.run.restart, by simp [Config.step, admissions, h.length], ?_⟩
    intro tid p hp
    rw [Config.step, List.getElem?_map] at hp
    cases hthread : c.threads[tid]? <;> simp [hthread] at hp
  | move m => exact ⟨h.run.move m, h.length, h.thread⟩

/-- Every schedule yields a run. -/
theorem exec_run (actions : List (Action S)) : Run (exec actions).trace := by
  have hfaithful : ∀ c : Config S, c.Faithful → (actions.foldl Config.step c).Faithful := by
    induction actions with
    | nil => exact fun c h => h
    | cons a actions ih => exact fun c h => ih _ (h.step a)
  exact (hfaithful ⟨[], []⟩ ⟨.start, rfl, by simp⟩).run

theorem suffix_trace_step (c : Config S) (a : Action S) : c.trace <:+ (c.step a).trace := by
  cases a with
  | advance tid input =>
    simp only [Config.step]
    split
    · exact List.suffix_cons _ _
    · exact List.suffix_cons _ _
    · exact List.suffix_refl _
  | _ => exact List.suffix_cons _ _

/-- A longer schedule continues the run of a shorter one. -/
theorem exec_suffix (actions more : List (Action S)) :
    (exec actions).trace <:+ (exec (actions ++ more)).trace := by
  have hfold : ∀ c : Config S, c.trace <:+ (more.foldl Config.step c).trace := by
    induction more with
    | nil => exact fun c => List.suffix_refl _
    | cons a more ih => exact fun c => (suffix_trace_step c a).trans (ih _)
  rw [exec, exec, List.foldl_append]
  exact hfold _

end Schedules

end System

end Concurrency
