import CheckpointFabric.Concurrency.System
import Mathlib.Logic.Relation

/-!
# Programs that run alone

A program that no other program interrupts takes the state from one point to another,
operation after operation. What an operation may do is a relation, so that the same rules
serve the system itself, where an operation also meets an input and the environment moves
before it, and a part of its state that leaves these out.

## Main definitions

* `Runs` — a program runs to its end
* `Program.eval` — the way it runs when the operations are answered by a function
* `Ends` — whatever way it runs, its result and the state at the end satisfy `post`
* `Yields` — likewise for the values that it returns
* `Delivers` — it does return a value, which satisfies `post` with the state at the end
* `Completes` — it can go on at every point, and ends in this way
* `Recorded` — an operation that is also written down
* `Contained` — which operations a program performs, and which errors it returns
* `System.AloneStep` — an operation of the only program that runs
* `System.Undisturbed` — an event of a stretch of a run that belongs to one thread

## Main results

* `ends_iff` — `Ends` speaks about all ways to run
* `Ends.of_uses` — what every operation keeps holds at the end
* `System.exists_runs_of_undisturbed` — a thread that nobody disturbs runs its program alone
-/

set_option autoImplicit false

namespace Concurrency

variable {I : Interface} {ε α β γ σ τ : Type}
  {step : (op : I.Op) → σ → Except ε (I.Reply op) → σ → Prop}

/-- A program runs to its end, one operation after the other. -/
inductive Runs (step : (op : I.Op) → σ → Except ε (I.Reply op) → σ → Prop) :
    Program I ε α → σ → Except ε α → σ → Prop
  | done {result : Except ε α} {s : σ} : Runs step (.done result) s result s
  | perform {op : I.Op} {rest : Except ε (I.Reply op) → Program I ε α}
      {reply : Except ε (I.Reply op)} {result : Except ε α} {s s' s'' : σ} :
      step op s reply s' → Runs step (rest reply) s' result s'' →
      Runs step (.perform op rest) s result s''

/-- Whatever way the program runs, its result and the state it leaves satisfy `post`. -/
def Ends (step : (op : I.Op) → σ → Except ε (I.Reply op) → σ → Prop)
    (post : Except ε α → σ → Prop) : Program I ε α → σ → Prop
  | .done result, s => post result s
  | .perform op rest, s => ∀ reply s', step op s reply s' → Ends step post (rest reply) s'

/-- Whenever the program returns a value, it satisfies `post` with the state it leaves. -/
def Yields (step : (op : I.Op) → σ → Except ε (I.Reply op) → σ → Prop)
    (post : α → σ → Prop) (p : Program I ε α) (s : σ) : Prop :=
  Ends step (fun result s' => ∀ a, result = .ok a → post a s') p s

/-- Whatever way the program runs, it returns a value that satisfies `post` with the state it
leaves. -/
def Delivers (step : (op : I.Op) → σ → Except ε (I.Reply op) → σ → Prop)
    (post : α → σ → Prop) (p : Program I ε α) (s : σ) : Prop :=
  Ends step (fun result s' => ∃ a, result = .ok a ∧ post a s') p s

/-- The program is never stuck, and whatever way it runs, its result and the state it leaves satisfy
`post`. -/
def Completes (step : (op : I.Op) → σ → Except ε (I.Reply op) → σ → Prop)
    (post : Except ε α → σ → Prop) : Program I ε α → σ → Prop
  | .done result, s => post result s
  | .perform op rest, s => (∃ reply s', step op s reply s') ∧
    ∀ reply s', step op s reply s' → Completes step post (rest reply) s'

/-- Every operation of the program is allowed, and it only returns errors of the class `errors`
as long as it only meets such errors. -/
def Contained (allowed : I.Op → Prop) (errors : ε → Prop) : Program I ε α → Prop
  | .done result => ∀ e, result = .error e → errors e
  | .perform op rest =>
    allowed op ∧ ∀ reply, (∀ e, reply = .error e → errors e) →
      Contained allowed errors (rest reply)

section Runs

variable {p : Program I ε α} {result : Except ε α} {s s' : σ}

theorem ends_iff {post : Except ε α → σ → Prop} :
    Ends step post p s ↔ ∀ result s', Runs step p s result s' → post result s' := by
  induction p generalizing s with
  | done result =>
    refine ⟨fun h result' s' hruns => ?_, fun h => h result s .done⟩
    cases hruns
    exact h
  | perform op rest ih =>
    constructor
    · intro h result s' hruns
      cases hruns with
      | perform hstep hrest => exact (ih _).mp (h _ _ hstep) _ _ hrest
    · exact fun h reply s' hstep => (ih reply).mpr fun result s'' hrest =>
        h result s'' (.perform hstep hrest)

/-- The way a program runs when every operation is answered by a function of the state. -/
def Program.eval (answer : (op : I.Op) → σ → Except ε (I.Reply op) × σ) :
    Program I ε α → σ → Except ε α × σ
  | .done result, s => (result, s)
  | .perform op rest, s =>
    Program.eval answer (rest (answer op s).1) (answer op s).2

theorem eval_andThen {answer : (op : I.Op) → σ → Except ε (I.Reply op) × σ} (p : Program I ε α)
    (f : Except ε α → Program I ε β) (s : σ) :
    (p.andThen f).eval answer s = (f (p.eval answer s).1).eval answer (p.eval answer s).2 := by
  induction p generalizing s with
  | done result => rfl
  | perform op rest ih => exact ih _ _

theorem runs_eval {answer : (op : I.Op) → σ → Except ε (I.Reply op) × σ}
    (hanswer : ∀ op s, step op s (answer op s).1 (answer op s).2) (p : Program I ε α) (s : σ) :
    Runs step p s (p.eval answer s).1 (p.eval answer s).2 := by
  induction p generalizing s with
  | done result => exact .done
  | perform op rest ih => exact .perform (hanswer op s) (ih _ _)

/-- Every reply is good that the program gets when its operations are answered by a function. -/
def Program.evalAll (answer : (op : I.Op) → σ → Except ε (I.Reply op) × σ)
    (good : (op : I.Op) → Except ε (I.Reply op) → Bool) : Program I ε α → σ → Bool
  | .done _, _ => true
  | .perform op rest, s =>
    good op (answer op s).1 &&
      Program.evalAll answer good (rest (answer op s).1) (answer op s).2

theorem runs_evalAll {answer : (op : I.Op) → σ → Except ε (I.Reply op) × σ}
    {good : (op : I.Op) → Except ε (I.Reply op) → Bool}
    (hanswer : ∀ op s, step op s (answer op s).1 (answer op s).2) {p : Program I ε α} {s : σ}
    (hall : p.evalAll answer good s) :
    Runs (fun op s reply s' => step op s reply s' ∧ good op reply) p s (p.eval answer s).1
      (p.eval answer s).2 := by
  induction p generalizing s with
  | done result => exact .done
  | perform op rest ih =>
    obtain ⟨hgood, hrest⟩ := (Bool.and_eq_true _ _).mp hall
    exact .perform ⟨hanswer op s, hgood⟩ (ih _ hrest)

theorem Completes.ends {post : Except ε α → σ → Prop} (h : Completes step post p s) :
    Ends step post p s := by
  induction p generalizing s with
  | done result => exact h
  | perform op rest ih => exact fun reply s' hstep => ih reply (h.2 reply s' hstep)

theorem Completes.exists_runs {post : Except ε α → σ → Prop} (h : Completes step post p s) :
    ∃ result s', Runs step p s result s' := by
  induction p generalizing s with
  | done result => exact ⟨result, s, .done⟩
  | perform op rest ih =>
    obtain ⟨⟨reply, s', hstep⟩, hrest⟩ := h
    obtain ⟨result, s'', hruns⟩ := ih reply (hrest reply s' hstep)
    exact ⟨result, s'', .perform hstep hruns⟩

theorem completes_call_bind {op : I.Op} {post : Except ε β → σ → Prop}
    {f : I.Reply op → Program I ε β} {a : I.Reply op} (hstep : step op s (.ok a) s')
    (hok : ∀ a s', step op s (.ok a) s' → Completes step post (f a) s')
    (herror : ∀ e s', ¬ step op s (.error e) s') :
    Completes step post (Program.call op >>= f) s := by
  refine ⟨⟨_, _, hstep⟩, fun reply s₁ hstep₁ => ?_⟩
  cases reply with
  | ok a => exact hok a s₁ hstep₁
  | error e => exact absurd hstep₁ (herror e s₁)

/-- What is left out of the state does not matter. -/
theorem Runs.map {step' : (op : I.Op) → τ → Except ε (I.Reply op) → τ → Prop} {view : σ → τ}
    (hview : ∀ op s reply s', step op s reply s' → step' op (view s) reply (view s'))
    (h : Runs step p s result s') : Runs step' p (view s) result (view s') := by
  induction h with
  | done => exact .done
  | perform hstep _ ih => exact .perform (hview _ _ _ _ hstep) ih

/-- A program that runs to its end has run its first part to the end. -/
theorem runs_andThen {p : Program I ε α} {f : Except ε α → Program I ε β} {result : Except ε β} :
    Runs step (p.andThen f) s result s' ↔
      ∃ first middle, Runs step p s first middle ∧ Runs step (f first) middle result s' := by
  induction p generalizing s with
  | done first =>
    constructor
    · exact fun h => ⟨first, s, .done, h⟩
    · rintro ⟨_, _, hfirst, hrest⟩
      cases hfirst
      exact hrest
  | perform op rest ih =>
    constructor
    · intro h
      cases h with
      | perform hstep hrest =>
        obtain ⟨first, middle, hfirst, hrest⟩ := (ih _).mp hrest
        exact ⟨first, middle, .perform hstep hfirst, hrest⟩
    · rintro ⟨first, middle, hfirst, hrest⟩
      cases hfirst with
      | perform hstep hfirst => exact .perform hstep ((ih _).mpr ⟨first, middle, hfirst, hrest⟩)

theorem runs_bind {p : Program I ε α} {f : α → Program I ε β} {result : Except ε β} :
    Runs step (p >>= f) s result s' ↔
      (∃ a middle, Runs step p s (.ok a) middle ∧ Runs step (f a) middle result s') ∨
        ∃ e, Runs step p s (.error e) s' ∧ result = .error e := by
  rw [Program.bind_def, runs_andThen]
  constructor
  · rintro ⟨first, middle, hfirst, hrest⟩
    cases first with
    | ok a => exact .inl ⟨a, middle, hfirst, hrest⟩
    | error e =>
      cases hrest
      exact .inr ⟨e, hfirst, rfl⟩
  · rintro (⟨a, middle, hfirst, hrest⟩ | ⟨e, hfirst, rfl⟩)
    · exact ⟨.ok a, middle, hfirst, hrest⟩
    · exact ⟨.error e, s', hfirst, .done⟩

end Runs

section Recorded

/-! A run that is written down: next to the state stands what has been performed. -/

variable {p : Program I ε α} {result : Except ε α}

/-- The operation is performed, and written down with the reply it got. -/
def Recorded (step : (op : I.Op) → σ → Except ε (I.Reply op) → σ → Prop) (op : I.Op)
    (s : σ × List (Deed I ε)) (reply : Except ε (I.Reply op)) (s' : σ × List (Deed I ε)) : Prop :=
  step op s.1 reply s'.1 ∧ s'.2 = ⟨op, reply⟩ :: s.2

theorem Runs.of_recorded {s s' : σ × List (Deed I ε)} (h : Runs (Recorded step) p s result s') :
    Runs step p s.1 result s'.1 :=
  h.map fun _ _ _ _ hstep => hstep.1

theorem Runs.exists_recorded {s s' : σ} (h : Runs step p s result s') (ds : List (Deed I ε)) :
    ∃ ds', Runs (Recorded step) p (s, ds) result (s', ds') := by
  induction h generalizing ds with
  | done => exact ⟨ds, .done⟩
  | @perform op rest reply _ _ _ _ hstep _ ih =>
    obtain ⟨ds', hrest⟩ := ih (⟨op, reply⟩ :: ds)
    exact ⟨ds', .perform ⟨hstep, rfl⟩ hrest⟩

/-- What is written down at the end is what the program obeys. -/
theorem Obeys.of_runs {permits : List (Deed I ε) → I.Op → Prop}
    {conclude : List (Deed I ε) → Except ε α → Prop} {s s' : σ × List (Deed I ε)}
    (h : Obeys permits conclude s.2 p) (hruns : Runs (Recorded step) p s result s') :
    conclude s'.2 result := by
  induction hruns with
  | done => exact h
  | perform hstep _ ih =>
    refine ih ?_
    rw [hstep.2]
    exact h.2 _

end Recorded

section Ends

variable {s : σ}

@[simp] theorem ends_done {post : Except ε α → σ → Prop} {result : Except ε α} :
    Ends step post (.done result) s ↔ post result s := Iff.rfl

@[simp] theorem ends_perform {post : Except ε α → σ → Prop} {op : I.Op}
    {rest : Except ε (I.Reply op) → Program I ε α} :
    Ends step post (.perform op rest) s ↔
      ∀ reply s', step op s reply s' → Ends step post (rest reply) s' := Iff.rfl

@[simp] theorem ends_pure {post : Except ε α → σ → Prop} {a : α} :
    Ends step post (pure a : Program I ε α) s ↔ post (.ok a) s := Iff.rfl

@[simp] theorem ends_fail {post : Except ε α → σ → Prop} {e : ε} :
    Ends step post (Program.fail e) s ↔ post (.error e) s := Iff.rfl

@[simp] theorem ends_ofExcept {post : Except ε α → σ → Prop} {result : Except ε α} :
    Ends step post (Program.ofExcept result) s ↔ post result s := Iff.rfl

theorem ends_andThen {post : Except ε β → σ → Prop} {p : Program I ε α}
    {f : Except ε α → Program I ε β} :
    Ends step post (p.andThen f) s ↔ Ends step (fun result => Ends step post (f result)) p s := by
  induction p generalizing s with
  | done result => rfl
  | perform op rest ih => simp only [Program.perform_andThen, ends_perform, ih]

/-- A part over the first interface runs as it does on its own. -/
theorem ends_inl {J : Interface}
    {step : (op : (I.sum J).Op) → σ → Except ε ((I.sum J).Reply op) → σ → Prop}
    {post : Except ε α → σ → Prop} {p : Program I ε α} :
    Ends step post (p.inl : Program (I.sum J) ε α) s ↔ Ends (fun op => step (.inl op)) post p s := by
  induction p generalizing s with
  | done result => rfl
  | perform op rest ih =>
    constructor
    · intro h reply s' hstep
      exact ih reply |>.mp (h reply s' hstep)
    · intro h reply s' hstep
      exact ih reply |>.mpr (h reply s' hstep)

theorem Ends.weaken {post post' : Except ε α → σ → Prop} {p : Program I ε α}
    (h : Ends step post p s) (himp : ∀ result s', post result s' → post' result s') :
    Ends step post' p s := by
  induction p generalizing s with
  | done result => exact himp result s h
  | perform op rest ih => exact fun reply s' hstep => ih reply (h reply s' hstep)

/-- A program whose operations can do less. -/
theorem Ends.of_step {step' : (op : I.Op) → σ → Except ε (I.Reply op) → σ → Prop}
    {post : Except ε α → σ → Prop} {p : Program I ε α} (h : Ends step post p s)
    (hstep : ∀ op s reply s', step' op s reply s' → step op s reply s') : Ends step' post p s := by
  induction p generalizing s with
  | done result => exact h
  | perform op rest ih =>
    intro reply s' hstep'
    exact ih reply (h reply s' (hstep op s reply s' hstep'))

theorem Ends.and {post post' : Except ε α → σ → Prop} {p : Program I ε α}
    (h : Ends step post p s) (h' : Ends step post' p s) :
    Ends step (fun result s' => post result s' ∧ post' result s') p s := by
  induction p generalizing s with
  | done result => exact ⟨h, h'⟩
  | perform op rest ih =>
    exact fun reply s' hstep => ih reply (h reply s' hstep) (h' reply s' hstep)

/-- What a program returns, next to how it ends. -/
theorem Ends.and_returns {post : Except ε α → σ → Prop} {value : α → Prop} {p : Program I ε α}
    (h : Ends step post p s) (hreturns : Returns value p) :
    Ends step (fun result s' => post result s' ∧ ∀ a, result = .ok a → value a) p s := by
  induction p generalizing s with
  | done result => exact ⟨h, hreturns⟩
  | perform op rest ih => exact fun reply s' hstep => ih reply (h reply s' hstep) (hreturns reply)

/-- Sequencing: the second part runs if the first one returns a value. -/
theorem Ends.bind {middle : Except ε α → σ → Prop} {post : Except ε β → σ → Prop}
    {p : Program I ε α} {f : α → Program I ε β} (hp : Ends step middle p s)
    (hok : ∀ a s', middle (.ok a) s' → Ends step post (f a) s')
    (herror : ∀ e s', middle (.error e) s' → post (.error e) s') :
    Ends step post (p >>= f) s := by
  rw [Program.bind_def, ends_andThen]
  refine hp.weaken fun result s' h => ?_
  cases result with
  | ok a => exact hok a s' h
  | error e => exact herror e s' h

/-- An operation, and what follows its reply. -/
theorem ends_call_bind {op : I.Op} {post : Except ε β → σ → Prop} {f : I.Reply op → Program I ε β}
    (hok : ∀ a s', step op s (.ok a) s' → Ends step post (f a) s')
    (herror : ∀ e s', step op s (.error e) s' → post (.error e) s') :
    Ends step post (Program.call op >>= f) s :=
  Ends.bind (fun _ _ hstep => hstep) hok herror

/-- Sequencing after a part whose result is handed over, be it a value or an error. -/
theorem Ends.attempt_bind {middle : Except ε α → σ → Prop} {post : Except ε β → σ → Prop}
    {p : Program I ε α} {f : Except ε α → Program I ε β} (hp : Ends step middle p s)
    (hf : ∀ result s', middle result s' → Ends step post (f result) s') :
    Ends step post (p.attempt >>= f) s := by
  rw [Program.bind_def, Program.attempt, ends_andThen, ends_andThen]
  exact hp.weaken hf

theorem ends_ofExcept_bind {post : Except ε β → σ → Prop} {result : Except ε α}
    {f : α → Program I ε β} :
    Ends step post (Program.ofExcept result >>= f) s ↔
      (∀ a, result = .ok a → Ends step post (f a) s) ∧
        ∀ e, result = .error e → post (.error e) s := by
  cases result with
  | ok a => exact ⟨fun h => ⟨by rintro _ ⟨⟩; exact h, by rintro _ ⟨⟩⟩, fun h => h.1 a rfl⟩
  | error e => exact ⟨fun h => ⟨by rintro _ ⟨⟩, by rintro _ ⟨⟩; exact h⟩, fun h => h.2 e rfl⟩

theorem Ends.ensure {post : Except ε Unit → σ → Prop} {condition : Prop} [Decidable condition]
    {e : ε} (hcondition : condition) (h : post (.ok ()) s) :
    Ends step post (Program.ensure condition e) s := by
  rw [Program.ensure, if_pos hcondition]
  exact h

theorem ends_ensure_bind {post : Except ε β → σ → Prop} {condition : Prop} [Decidable condition]
    {e : ε} {f : Unit → Program I ε β} :
    Ends step post (Program.ensure condition e >>= f) s ↔
      (condition → Ends step post (f ()) s) ∧ (¬ condition → post (.error e) s) := by
  by_cases hcondition : condition
  · rw [Program.ensure, if_pos hcondition]
    exact ⟨fun h => ⟨fun _ => h, fun hnot => absurd hcondition hnot⟩, fun h => h.1 hcondition⟩
  · rw [Program.ensure, if_neg hcondition]
    exact ⟨fun h => ⟨fun hyes => absurd hyes hcondition, fun _ => h⟩, fun h => h.2 hcondition⟩

/-- What every operation of the program keeps holds at the end. -/
theorem Ends.of_uses {allowed : I.Op → Prop} {inv : σ → Prop} {p : Program I ε α}
    (huses : Uses allowed p)
    (hkeeps : ∀ op s reply s', allowed op → step op s reply s' → inv s → inv s') (h : inv s) :
    Ends step (fun _ => inv) p s := by
  induction p generalizing s with
  | done result => exact h
  | perform op rest ih =>
    exact fun reply s' hstep => ih reply (huses.2 reply) (hkeeps op s reply s' huses.1 hstep h)

/-- Likewise for the errors that it returns. -/
theorem Ends.of_contained {allowed : I.Op → Prop} {errors : ε → Prop} {inv : σ → Prop}
    {p : Program I ε α} (hp : Contained allowed errors p)
    (hkeeps : ∀ op s reply s', allowed op → step op s reply s' → inv s →
      (∀ e, reply = .error e → errors e) ∧ inv s') (h : inv s) :
    Ends step (fun result s' => (∀ e, result = .error e → errors e) ∧ inv s') p s := by
  induction p generalizing s with
  | done result => exact ⟨hp, h⟩
  | perform op rest ih =>
    intro reply s' hstep
    obtain ⟨herrors, h'⟩ := hkeeps op s reply s' hp.1 hstep h
    exact ih reply (hp.2 reply herrors) h'

/-- The error of a program stays its result, whatever is done about it. -/
theorem Ends.onError {post : Except ε α → σ → Prop} {p : Program I ε α}
    {handler : ε → Program I ε Unit} (hp : Ends step post p s)
    (herror : ∀ e s' s'', post (.error e) s' → post (.error e) s'') :
    Ends step post (p.onError handler) s := by
  unfold Program.onError
  rw [ends_andThen]
  refine hp.weaken fun result s₁ h₁ => ?_
  cases result with
  | ok a => exact h₁
  | error e =>
    dsimp only
    rw [ends_andThen]
    exact (Ends.of_uses (Uses.of_true _) (fun _ _ _ _ _ _ _ => trivial) trivial).weaken
      fun _ s₂ (_ : True) => herror e s₁ s₂ h₁

theorem ends_forEach {inv : σ → Prop} {as : List γ} {body : γ → Program I ε Unit}
    (hbody : ∀ a ∈ as, ∀ s, inv s → Ends step (fun result s' => result = .ok () ∧ inv s') (body a) s)
    (h : inv s) :
    Ends step (fun result s' => result = .ok () ∧ inv s') (Program.forEach as body) s := by
  induction as generalizing s with
  | nil => exact ⟨rfl, h⟩
  | cons a as ih =>
    rw [Program.forEach_cons, ends_andThen]
    refine (hbody a (.head as) s h).weaken fun result s' ⟨hok, h'⟩ => ?_
    rw [hok]
    exact ih (fun b hb => hbody b (.tail a hb)) h'

/-- Collecting values: `inv` says what is left to be done. -/
theorem ends_mapEach {inv : List γ → σ → Prop} {as : List γ} {body : γ → Program I ε α}
    (hbody : ∀ a rest s, inv (a :: rest) s → Ends step
      (fun result s' => ∃ b, result = .ok b ∧ inv rest s') (body a) s)
    (h : inv as s) :
    Ends step (fun result s' => ∃ bs, result = .ok bs ∧ inv [] s')
      (Program.mapEach as body) s := by
  induction as generalizing s with
  | nil => exact ⟨[], rfl, h⟩
  | cons a as ih =>
    rw [Program.mapEach, ends_andThen]
    refine (hbody a as s h).weaken fun result s' ⟨b, hok, h'⟩ => ?_
    rw [hok, Program.onValue_ok, ends_andThen]
    refine (ih h').weaken fun result s'' ⟨bs, hok', h''⟩ => ?_
    rw [hok']
    exact ⟨b :: bs, rfl, h''⟩

end Ends

section Yields

/-! The rules for a program whose errors need no care. -/

variable {s : σ} {post post' : α → σ → Prop}

theorem yields_iff {p : Program I ε α} :
    Yields step post p s ↔ ∀ a s', Runs step p s (.ok a) s' → post a s' :=
  ends_iff.trans ⟨fun h a s' hruns => h _ s' hruns a rfl, fun h _ s' hruns a hok =>
    h a s' (hok ▸ hruns)⟩

@[simp] theorem yields_pure {a : α} : Yields step post (pure a : Program I ε α) s ↔ post a s :=
  ⟨fun h => h a rfl, fun h _ heq => Except.ok.inj heq ▸ h⟩

theorem yields_fail {e : ε} : Yields step post (Program.fail e : Program I ε α) s :=
  fun _ h => absurd h (by simp)

theorem yields_call {op : I.Op} {post : I.Reply op → σ → Prop} :
    Yields step post (Program.call op : Program I ε (I.Reply op)) s ↔
      ∀ a s', step op s (.ok a) s' → post a s' :=
  ⟨fun h a s' hstep => h _ s' hstep a rfl, fun h _ s' hstep a hok => h a s' (hok ▸ hstep)⟩

theorem Yields.weaken {p : Program I ε α} (h : Yields step post p s)
    (himp : ∀ a s', post a s' → post' a s') : Yields step post' p s :=
  Ends.weaken h fun _ s' hpost a hok => himp a s' (hpost a hok)

theorem Yields.and {p : Program I ε α} (h : Yields step post p s) (h' : Yields step post' p s) :
    Yields step (fun a s' => post a s' ∧ post' a s') p s :=
  (Ends.and h h').weaken fun _ _ hposts a hok => ⟨hposts.1 a hok, hposts.2 a hok⟩

theorem Yields.of_returns {value : α → Prop} {p : Program I ε α} (h : Returns value p) :
    Yields step (fun a _ => value a) p s := by
  induction p generalizing s with
  | done result => exact h
  | perform op rest ih => exact fun reply _ _ => ih reply (h reply)

theorem Yields.bind {middle : α → σ → Prop} {post : β → σ → Prop} {p : Program I ε α}
    {f : α → Program I ε β} (hp : Yields step middle p s)
    (hf : ∀ a s', middle a s' → Yields step post (f a) s') : Yields step post (p >>= f) s :=
  Ends.bind hp (fun a s' h => hf a s' (h a rfl)) fun _ _ _ _ h => absurd h (by simp)

/-- Sequencing after a part whose failure is handled. -/
theorem Yields.attempt_bind {middle : α → σ → Prop} {post : β → σ → Prop}
    {p : Program I ε α} {f : Except ε α → Program I ε β} (hp : Yields step middle p s)
    (hok : ∀ a s', middle a s' → Yields step post (f (.ok a)) s')
    (herror : ∀ e s', Yields step post (f (.error e)) s') :
    Yields step post (p.attempt >>= f) s := by
  refine Ends.attempt_bind hp fun result s' h => ?_
  cases result with
  | ok a => exact hok a s' (h a rfl)
  | error e => exact herror e s'

theorem yields_call_bind {op : I.Op} {post : β → σ → Prop} {f : I.Reply op → Program I ε β}
    (hf : ∀ a s', step op s (.ok a) s' → Yields step post (f a) s') :
    Yields step post (Program.call op >>= f) s :=
  Yields.bind (yields_call.mpr fun _ _ hstep => hstep) hf

theorem yields_ofExcept_bind {post : β → σ → Prop} {result : Except ε α} {f : α → Program I ε β}
    (hf : ∀ a, result = .ok a → Yields step post (f a) s) :
    Yields step post (Program.ofExcept result >>= f) s :=
  ends_ofExcept_bind.mpr ⟨hf, fun _ _ _ h => absurd h (by simp)⟩

end Yields

section Delivers

variable {s : σ} {post post' : α → σ → Prop}

theorem delivers_pure {a : α} (h : post a s) :
    Delivers step post (pure a : Program I ε α) s :=
  ⟨a, rfl, h⟩

theorem Delivers.weaken {p : Program I ε α} (h : Delivers step post p s)
    (himp : ∀ a s', post a s' → post' a s') : Delivers step post' p s :=
  Ends.weaken h fun _ s' ⟨a, hok, hpost⟩ => ⟨a, hok, himp a s' hpost⟩

/-- Sequencing after a part that returns a value. -/
theorem Delivers.ends_bind {post' : Except ε β → σ → Prop} {p : Program I ε α}
    {f : α → Program I ε β} (hp : Delivers step post p s)
    (hf : ∀ a s', post a s' → Ends step post' (f a) s') : Ends step post' (p >>= f) s := by
  refine Ends.bind hp (fun a s' h => ?_) fun e s' h => ?_
  · obtain ⟨_, ⟨⟩, hpost⟩ := h
    exact hf a s' hpost
  · obtain ⟨_, h, -⟩ := h
    cases h

theorem Delivers.bind {post' : β → σ → Prop} {p : Program I ε α} {f : α → Program I ε β}
    (hp : Delivers step post p s) (hf : ∀ a s', post a s' → Delivers step post' (f a) s') :
    Delivers step post' (p >>= f) s :=
  hp.ends_bind hf

theorem delivers_ofExcept_bind {post : β → σ → Prop} {result : Except ε α} {a : α}
    {f : α → Program I ε β} (hok : result = .ok a) (h : Delivers step post (f a) s) :
    Delivers step post (Program.ofExcept result >>= f) s := by
  rw [hok]
  exact h

theorem delivers_ensure_bind {post : β → σ → Prop} {condition : Prop} [Decidable condition] {e : ε}
    {f : Unit → Program I ε β} (hcondition : condition) (h : Delivers step post (f ()) s) :
    Delivers step post (Program.ensure condition e >>= f) s := by
  rw [Program.ensure, if_pos hcondition]
  exact h

/-- The result is handed over as the value that it is. -/
theorem Delivers.attempt {p : Program I ε α} (h : Delivers step post p s) :
    Delivers step (fun result s' => ∃ a, result = .ok a ∧ post a s') p.attempt s := by
  unfold Delivers Program.attempt
  rw [ends_andThen]
  exact Ends.weaken h fun result s' hpost => ⟨result, rfl, hpost⟩

end Delivers

section Contained

variable {allowed : I.Op → Prop} {errors : ε → Prop}

theorem contained_call {op : I.Op} (h : allowed op) :
    Contained allowed errors (Program.call op : Program I ε (I.Reply op)) :=
  ⟨h, fun _ herrors => herrors⟩

theorem contained_pure {a : α} : Contained allowed errors (pure a : Program I ε α) :=
  fun e h => absurd h (by simp)

theorem contained_fail {e : ε} (h : errors e) :
    Contained allowed errors (Program.fail e : Program I ε α) := by
  rintro _ ⟨⟩
  exact h

theorem contained_ofExcept {result : Except ε α} (h : ∀ e, result = .error e → errors e) :
    Contained allowed errors (Program.ofExcept result : Program I ε α) := h

theorem contained_ensure {condition : Prop} [Decidable condition] {e : ε} (h : errors e) :
    Contained allowed errors (Program.ensure condition e : Program I ε Unit) := by
  unfold Program.ensure
  split
  · exact contained_pure
  · exact contained_fail h

theorem Contained.bind {p : Program I ε α} {f : α → Program I ε β}
    (hp : Contained allowed errors p) (hf : ∀ a, Contained allowed errors (f a)) :
    Contained allowed errors (p >>= f) := by
  rw [Program.bind_def]
  induction p with
  | done result =>
    cases result with
    | ok a => exact hf a
    | error e =>
      rintro _ ⟨⟩
      exact hp e rfl
  | perform op rest ih => exact ⟨hp.1, fun reply herrors => ih reply (hp.2 reply herrors)⟩

/-- Handing over the result lets no error through. -/
theorem Contained.attempt {p : Program I ε α} (hp : Contained allowed errors p) :
    Contained allowed errors p.attempt := by
  unfold Program.attempt
  induction p with
  | done result => exact contained_pure
  | perform op rest ih => exact ⟨hp.1, fun reply herrors => ih reply (hp.2 reply herrors)⟩

theorem Contained.ite {condition : Prop} [Decidable condition] {p q : Program I ε α}
    (hp : Contained allowed errors p) (hq : Contained allowed errors q) :
    Contained allowed errors (if condition then p else q) := by
  by_cases h : condition
  · rwa [if_pos h]
  · rwa [if_neg h]

end Contained

namespace System

variable {S : System} (sound : S.Op → S.Input → Prop)

/-- The environment moves any number of times. -/
def Moves : S.State → S.State → Prop :=
  Relation.ReflTransGen fun s s' => ∃ m, s' = S.move m s

/-- An operation of the only program that runs: the environment may move before it, and the
operation meets an input that is sound for it. -/
def AloneStep (op : S.Op) (s : S.State) (reply : Except S.Error (S.Reply op)) (s' : S.State) :
    Prop :=
  ∃ s₁ input, Moves s s₁ ∧ sound op input ∧ S.handle op input s₁ = (reply, s')

/-- An event of a stretch of a run in which only thread `tid` performs operations. -/
def Undisturbed (tid : ℕ) : Event S → Prop
  | .performed tid' op input _ => tid' = tid ∧ sound op input
  | .moved _ _ => True
  | _ => False

variable {sound} {t recent : List (Event S)} {request : S.Request}

/-- A thread that has not been disturbed since it was admitted has run its program alone. -/
theorem runs_of_follows
    (h : Run (recent ++ .admitted (admissions t) request (stateOf t) :: t))
    (hundisturbed : ∀ e ∈ recent, Undisturbed sound (admissions t) e)
    {q : Program S.toInterface S.Error S.Response} (hfollows : Follows (S.serve request)
      (deeds (admissions t) (recent ++ .admitted (admissions t) request (stateOf t) :: t)) q) :
    ∃ s, Moves s (stateOf (recent ++ .admitted (admissions t) request (stateOf t) :: t)) ∧
      ∀ result s', Runs (AloneStep sound) q s result s' →
        Runs (AloneStep sound) (S.serve request) (S.accept request (stateOf t)) result s' := by
  induction recent generalizing q with
  | nil =>
    refine ⟨_, Relation.ReflTransGen.refl, ?_⟩
    have hnew : deeds (admissions t) (.admitted (admissions t) request (stateOf t) :: t) = [] :=
      (deeds_eq_nil_of_admissions_le h.tail (Nat.le_refl _)).1
    rw [List.nil_append, hnew] at hfollows
    cases hfollows
    exact fun result s' hruns => hruns
  | cons e recent ih =>
    have hrecent := fun e' he' => hundisturbed e' (.tail e he')
    cases e with
    | performed tid op input before =>
      obtain ⟨rfl, hsound⟩ := hundisturbed _ (.head recent)
      obtain rfl := h.before_eq
      rw [List.cons_append, deeds_performed] at hfollows
      cases hfollows with
      | perform reply hfollows =>
        obtain ⟨s, hmoves, hruns⟩ := ih h.tail hrecent hfollows
        exact ⟨_, Relation.ReflTransGen.refl, fun result s' hrest =>
          hruns result s' (.perform ⟨_, input, hmoves, hsound, rfl⟩ hrest)⟩
    | moved m before =>
      have hbefore : before = stateOf (recent ++
          .admitted (admissions t) request (stateOf t) :: t) := by
        cases h
        rfl
      obtain ⟨s, hmoves, hruns⟩ := ih h.tail hrecent hfollows
      refine ⟨s, hmoves.tail ⟨m, ?_⟩, hruns⟩
      rw [List.cons_append, stateOf_cons, after, hbefore]
    | admitted | answered | restarted => exact absurd (hundisturbed _ (.head recent)) not_false

/-- So when it answers, it has run its program to the end. -/
theorem exists_runs_of_undisturbed {result : Except S.Error S.Response} {before : S.State}
    (h : Run (.answered (admissions t) result before ::
      (recent ++ .admitted (admissions t) request (stateOf t) :: t)))
    (hundisturbed : ∀ e ∈ recent, Undisturbed sound (admissions t) e) :
    ∃ s, Runs (AloneStep sound) (S.serve request) (S.accept request (stateOf t)) result s ∧
      Moves s before := by
  cases h with
  | answer hrun hlive hrequest hfollows =>
    have hadmitted : requestOf (admissions t)
        (recent ++ .admitted (admissions t) request (stateOf t) :: t) = some request := by
      rw [requestOf_of_suffix hrun (List.suffix_append _ _) (Nat.lt_succ_self _), requestOf,
        if_pos rfl]
    obtain rfl := Option.some.inj (hadmitted.symm.trans hrequest)
    obtain ⟨s, hmoves, hruns⟩ := runs_of_follows hrun hundisturbed hfollows
    exact ⟨s, hruns _ _ .done, hmoves⟩

end System

end Concurrency
