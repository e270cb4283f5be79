import CheckpointFabric.Concurrency.Alone

/-!
# The points of a run

A program that runs alone can be stopped between any two operations. What holds wherever it is
stopped is an invariant of the run; what holds at the end may say more.

## Main definitions

* `Reaches` — the program has come to a point
* `Throughout` — `inv` holds at every point, and `post` at the end

## Main results

* `Throughout.of_reaches` — `Throughout` speaks about all points
* `reaches_stopAfter` — the point after a number of operations
-/

set_option autoImplicit false

namespace Concurrency

variable {I : Interface} {ε α β γ σ τ : Type}
  {step : (op : I.Op) → σ → Except ε (I.Reply op) → σ → Prop}

/-- A part of a run: what is left to do is the last program. -/
inductive Reaches (step : (op : I.Op) → σ → Except ε (I.Reply op) → σ → Prop) :
    Program I ε α → σ → Program I ε α → σ → Prop
  | here {p : Program I ε α} {s : σ} : Reaches step p s p s
  | perform {op : I.Op} {rest : Except ε (I.Reply op) → Program I ε α}
      {reply : Except ε (I.Reply op)} {q : Program I ε α} {s s' s'' : σ} :
      step op s reply s' → Reaches step (rest reply) s' q s'' →
      Reaches step (.perform op rest) s q s''

/-- The state satisfies `inv` wherever the program is stopped, and when it is done, `post` holds
with its result. -/
def Throughout (step : (op : I.Op) → σ → Except ε (I.Reply op) → σ → Prop) (inv : σ → Prop)
    (post : Except ε α → σ → Prop) : Program I ε α → σ → Prop
  | .done result, s => inv s ∧ post result s
  | .perform op rest, s => inv s ∧ ∀ reply s', step op s reply s' →
      Throughout step inv post (rest reply) s'

section Reaches

variable {p q : Program I ε α} {result : Except ε α} {s s' : σ}

/-- A run has come to its end. -/
theorem Runs.reaches (h : Runs step p s result s') : Reaches step p s (.done result) s' := by
  induction h with
  | done => exact .here
  | perform hstep _ ih => exact .perform hstep ih

/-- What is left out of the state does not matter. -/
theorem Reaches.map {step' : (op : I.Op) → τ → Except ε (I.Reply op) → τ → Prop} {view : σ → τ}
    (hview : ∀ op s reply s', step op s reply s' → step' op (view s) reply (view s'))
    (h : Reaches step p s q s') : Reaches step' p (view s) q (view s') := by
  induction h with
  | here => exact .here
  | perform hstep _ ih => exact .perform (hview _ _ _ _ hstep) ih

/-- The point to which a program has come after `n` operations that are answered by a function. -/
def Program.stopAfter (answer : (op : I.Op) → σ → Except ε (I.Reply op) × σ) :
    ℕ → Program I ε α → σ → Program I ε α × σ
  | 0, p, s => (p, s)
  | _ + 1, .done result, s => (.done result, s)
  | n + 1, .perform op rest, s =>
    Program.stopAfter answer n (rest (answer op s).1) (answer op s).2

theorem reaches_stopAfter {answer : (op : I.Op) → σ → Except ε (I.Reply op) × σ}
    (hanswer : ∀ op s, step op s (answer op s).1 (answer op s).2) (n : ℕ) (p : Program I ε α)
    (s : σ) : Reaches step p s (p.stopAfter answer n s).1 (p.stopAfter answer n s).2 := by
  induction n generalizing p s with
  | zero => exact .here
  | succ n ih =>
    cases p with
    | done result => exact .here
    | perform op rest => exact .perform (hanswer op s) (ih _ _)

end Reaches

section Throughout

variable {inv : σ → Prop} {s : σ}

theorem Throughout.start {post : Except ε α → σ → Prop} {p : Program I ε α}
    (h : Throughout step inv post p s) : inv s := by
  cases p with
  | done result => exact h.1
  | perform op rest => exact h.1

theorem Throughout.of_reaches {post : Except ε α → σ → Prop} {p q : Program I ε α} {s' : σ}
    (h : Throughout step inv post p s) (hreaches : Reaches step p s q s') :
    Throughout step inv post q s' := by
  induction hreaches with
  | here => exact h
  | perform hstep _ ih => exact ih (h.2 _ _ hstep)

theorem Throughout.weaken {inv' : σ → Prop} {post post' : Except ε α → σ → Prop}
    {p : Program I ε α} (h : Throughout step inv post p s) (hinv : ∀ s, inv s → inv' s)
    (hpost : ∀ result s, inv s → post result s → post' result s) :
    Throughout step inv' post' p s := by
  induction p generalizing s with
  | done result => exact ⟨hinv s h.1, hpost result s h.1 h.2⟩
  | perform op rest ih =>
    exact ⟨hinv s h.1, fun reply s' hstep => ih reply (h.2 reply s' hstep)⟩

/-- What holds at the end may be shown apart. -/
theorem Throughout.and {post post' : Except ε α → σ → Prop} {p : Program I ε α}
    (h : Throughout step inv post p s) (h' : Ends step post' p s) :
    Throughout step inv (fun result s => post result s ∧ post' result s) p s := by
  induction p generalizing s with
  | done result => exact ⟨h.1, h.2, h'⟩
  | perform op rest ih =>
    exact ⟨h.1, fun reply s' hstep => ih reply (h.2 reply s' hstep) (h' reply s' hstep)⟩

theorem Throughout.andThen {middle : Except ε α → σ → Prop} {post : Except ε β → σ → Prop}
    {p : Program I ε α} {f : Except ε α → Program I ε β} (hp : Throughout step inv middle p s)
    (hf : ∀ result s', inv s' → middle result s' → Throughout step inv post (f result) s') :
    Throughout step inv post (p.andThen f) s := by
  induction p generalizing s with
  | done result => exact hf result s hp.1 hp.2
  | perform op rest ih =>
    exact ⟨hp.1, fun reply s' hstep => ih reply (hp.2 reply s' hstep)⟩

/-- Sequencing: the second part runs if the first one returns a value. -/
theorem Throughout.bind {middle : Except ε α → σ → Prop} {post : Except ε β → σ → Prop}
    {p : Program I ε α} {f : α → Program I ε β} (hp : Throughout step inv middle p s)
    (hok : ∀ a s', inv s' → middle (.ok a) s' → Throughout step inv post (f a) s')
    (herror : ∀ e s', inv s' → middle (.error e) s' → post (.error e) s') :
    Throughout step inv post (p >>= f) s := by
  rw [Program.bind_def]
  refine hp.andThen fun result s' hinv h => ?_
  cases result with
  | ok a => exact hok a s' hinv h
  | error e => exact ⟨hinv, herror e s' hinv h⟩

/-- Sequencing after a part whose result is handed over. -/
theorem Throughout.attempt_bind {middle : Except ε α → σ → Prop} {post : Except ε β → σ → Prop}
    {p : Program I ε α} {f : Except ε α → Program I ε β} (hp : Throughout step inv middle p s)
    (hf : ∀ result s', inv s' → middle result s' → Throughout step inv post (f result) s') :
    Throughout step inv post (p.attempt >>= f) s := by
  rw [Program.bind_def, Program.attempt, Program.andThen_assoc]
  exact hp.andThen hf

theorem throughout_ofExcept_bind {result : Except ε α} {post : Except ε β → σ → Prop}
    {f : α → Program I ε β} (hs : inv s)
    (hok : ∀ a, result = .ok a → Throughout step inv post (f a) s)
    (herror : ∀ e, result = .error e → post (.error e) s) :
    Throughout step inv post (Program.ofExcept result >>= f) s := by
  cases result with
  | ok a => exact hok a rfl
  | error e => exact ⟨hs, herror e rfl⟩

theorem throughout_call_bind {op : I.Op} {post : Except ε β → σ → Prop}
    {f : I.Reply op → Program I ε β} (hs : inv s)
    (hok : ∀ a s', step op s (.ok a) s' → Throughout step inv post (f a) s')
    (herror : ∀ e s', step op s (.error e) s' → inv s' ∧ post (.error e) s') :
    Throughout step inv post (Program.call op >>= f) s := by
  refine ⟨hs, fun reply s' hstep => ?_⟩
  cases reply with
  | ok a => exact hok a s' hstep
  | error e => exact herror e s' hstep

theorem throughout_call_attempt_bind {op : I.Op} {post : Except ε β → σ → Prop}
    {f : Except ε (I.Reply op) → Program I ε β} (hs : inv s)
    (hf : ∀ reply s', step op s reply s' → Throughout step inv post (f reply) s') :
    Throughout step inv post ((Program.call op).attempt >>= f) s :=
  ⟨hs, hf⟩

theorem Throughout.ite {post : Except ε α → σ → Prop} {condition : Prop} [Decidable condition]
    {p q : Program I ε α} (hp : condition → Throughout step inv post p s)
    (hq : ¬ condition → Throughout step inv post q s) :
    Throughout step inv post (if condition then p else q) s := by
  by_cases h : condition
  · rw [if_pos h]
    exact hp h
  · rw [if_neg h]
    exact hq h

/-- What every operation of the program keeps holds at every point. -/
theorem Throughout.of_uses {allowed : I.Op → Prop} {p : Program I ε α} (huses : Uses allowed p)
    (hkeeps : ∀ op s reply s', allowed op → step op s reply s' → inv s → inv s') (h : inv s) :
    Throughout step inv (fun _ _ => True) p s := by
  induction p generalizing s with
  | done result => exact ⟨h, trivial⟩
  | perform op rest ih =>
    exact ⟨h, fun reply s' hstep => ih reply (huses.2 reply) (hkeeps op s reply s' huses.1 hstep h)⟩

/-- Likewise if it only meets errors of the class. -/
theorem Throughout.of_contained {allowed : I.Op → Prop} {errors : ε → Prop} {p : Program I ε α}
    (hp : Contained allowed errors p)
    (hkeeps : ∀ op s reply s', allowed op → step op s reply s' → inv s →
      (∀ e, reply = .error e → errors e) ∧ inv s') (h : inv s) :
    Throughout step inv (fun _ _ => True) p s := by
  induction p generalizing s with
  | done result => exact ⟨h, trivial⟩
  | perform op rest ih =>
    refine ⟨h, fun reply s' hstep => ?_⟩
    obtain ⟨herrors, h'⟩ := hkeeps op s reply s' hp.1 hstep h
    exact ih reply (hp.2 reply herrors) h'

end Throughout

end Concurrency
