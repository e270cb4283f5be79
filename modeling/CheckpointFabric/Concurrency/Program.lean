import Mathlib.Data.Nat.Notation

/-!
# Programs over an interface of atomic operations

A server operation is a program that performs atomic operations one after the
other and decides from each reply what to do next. The interface lists the
operations and the type of each reply; every operation may also fail with an
error, and a program that does not handle the error stops with it.

A program is plain data: what an operation does to the shared state is decided
by whoever runs it (`Concurrency.System`), and between two operations anything
else may happen.

## Main definitions

* `Interface` — operations with the types of their replies
* `Program` — a finished result, or an operation and what follows its reply
* `Program.andThen` — sequencing that sees failures as well as values
* `Program.attempt`, `Program.onError`, `Program.forEach` — control structure
* `Interface.sum`, `Program.inl` — a program as a part of one over more operations
* `Program.mute` — what is left of a program without the operations of the second interface

## Main results

* `Program.andThen_assoc` — sequencing is associative
* `Program.bind_def` — monadic bind is `andThen` that lets errors through
-/

set_option autoImplicit false

namespace Concurrency

/-- The atomic operations of a system, each with the type of its reply. -/
structure Interface where
  Op : Type
  Reply : Op → Type

/-- A program either is done, or performs one operation and continues with its
reply. -/
inductive Program (I : Interface) (ε α : Type) : Type
  | done (result : Except ε α)
  | perform (op : I.Op) (rest : Except ε (I.Reply op) → Program I ε α)

namespace Program

variable {I : Interface} {ε ε' ε'' α β γ : Type}

/-- Run `p`, then continue with its result, be it a value or an error. -/
def andThen : Program I ε α → (Except ε α → Program I ε β) → Program I ε β
  | .done result, f => f result
  | .perform op rest, f => .perform op fun reply => (rest reply).andThen f

@[simp] theorem done_andThen (result : Except ε α) (f : Except ε α → Program I ε β) :
    (done result : Program I ε α).andThen f = f result := rfl

@[simp] theorem perform_andThen (op : I.Op) (rest : Except ε (I.Reply op) → Program I ε α)
    (f : Except ε α → Program I ε β) :
    (perform op rest).andThen f = perform op fun reply => (rest reply).andThen f := rfl

theorem andThen_assoc (p : Program I ε α) (f : Except ε α → Program I ε β)
    (g : Except ε β → Program I ε γ) :
    (p.andThen f).andThen g = p.andThen fun result => (f result).andThen g := by
  induction p with
  | done result => rfl
  | perform op rest ih => simp only [perform_andThen, ih]

/-- Continue with the value of `result`, or stop with its error. -/
def onValue (f : α → Program I ε β) : Except ε α → Program I ε β
  | .ok a => f a
  | .error e => .done (.error e)

@[simp] theorem onValue_ok (f : α → Program I ε β) (a : α) : onValue f (.ok a) = f a := rfl

@[simp] theorem onValue_error (f : α → Program I ε β) (e : ε) :
    onValue f (.error e) = .done (.error e) := rfl

instance : Monad (Program I ε) where
  pure a := .done (.ok a)
  bind p f := p.andThen (onValue f)

theorem bind_def (p : Program I ε α) (f : α → Program I ε β) :
    p >>= f = p.andThen (onValue f) := rfl

/-- Stop with an error. -/
def fail (e : ε) : Program I ε α := .done (.error e)

/-- Take over a result that was computed without any operation. -/
def ofExcept (result : Except ε α) : Program I ε α := .done result

/-- Perform one operation and return its reply. -/
def call (op : I.Op) : Program I ε (I.Reply op) := .perform op .done

/-- Stop with `e` unless `condition` holds. -/
def ensure (condition : Prop) [Decidable condition] (e : ε) : Program I ε Unit :=
  if condition then pure () else fail e

/-- Run `p` and hand over its result instead of stopping at an error. -/
def attempt (p : Program I ε α) : Program I ε (Except ε α) :=
  p.andThen fun result => .done (.ok result)

/-- Run `p`; at an error run `handler` as well, and stop with the error of `p`. -/
def onError (p : Program I ε α) (handler : ε → Program I ε Unit) : Program I ε α :=
  p.andThen fun
    | .ok a => .done (.ok a)
    | .error e => (handler e).andThen fun _ => .done (.error e)

/-- Run `p` with every error rewritten by `f`. -/
def mapError (p : Program I ε α) (f : ε → ε) : Program I ε α :=
  p.andThen fun
    | .ok a => .done (.ok a)
    | .error e => .done (.error (f e))

/-- Run `p` and forget both its value and its error. -/
def ignore (p : Program I ε α) : Program I ε Unit :=
  p.andThen fun _ => .done (.ok ())

/-- Run `body` on every element in turn, stopping at the first error. -/
def forEach : List α → (α → Program I ε Unit) → Program I ε Unit
  | [], _ => .done (.ok ())
  | a :: as, body => (body a).andThen (onValue fun _ => forEach as body)

@[simp] theorem forEach_nil (body : α → Program I ε Unit) :
    forEach [] body = .done (.ok ()) := rfl

@[simp] theorem forEach_cons (a : α) (as : List α) (body : α → Program I ε Unit) :
    forEach (a :: as) body = (body a).andThen (onValue fun _ => forEach as body) := rfl

/-- Run `body` on every element in turn and collect the values. -/
def mapEach : List α → (α → Program I ε β) → Program I ε (List β)
  | [], _ => .done (.ok [])
  | a :: as, body =>
    (body a).andThen (onValue fun b =>
      (mapEach as body).andThen (onValue fun bs => .done (.ok (b :: bs))))

section Translate

variable {J : Interface} (f : (op : I.Op) → Program J ε (I.Reply op))

/-- Run what an operation stands for in its place. -/
def translate : Program I ε α → Program J ε α
  | .done result => .done result
  | .perform op rest => (f op).andThen fun reply => (rest reply).translate

@[simp] theorem translate_done (result : Except ε α) :
    (done result : Program I ε α).translate f = done result := rfl

theorem translate_andThen (p : Program I ε α) (g : Except ε α → Program I ε β) :
    (p.andThen g).translate f = (p.translate f).andThen fun result => (g result).translate f := by
  induction p with
  | done result => rfl
  | perform op rest ih =>
    rw [perform_andThen, translate, translate, andThen_assoc]
    exact congrArg _ (funext ih)

theorem translate_bind (p : Program I ε α) (g : α → Program I ε β) :
    (p >>= g).translate f = p.translate f >>= fun a => (g a).translate f := by
  rw [bind_def, translate_andThen, bind_def]
  refine congrArg _ (funext fun result => ?_)
  cases result <;> rfl

theorem andThen_done (p : Program I ε α) : p.andThen done = p := by
  induction p with
  | done result => rfl
  | perform op rest ih => rw [perform_andThen, funext ih]

theorem translate_call (op : I.Op) : (call op : Program I ε _).translate f = f op :=
  andThen_done (f op)

theorem translate_attempt (p : Program I ε α) :
    p.attempt.translate f = (p.translate f).attempt :=
  translate_andThen f p _

end Translate

end Program

/-- The operations of either interface. -/
@[reducible] def Interface.sum (I J : Interface) : Interface where
  Op := I.Op ⊕ J.Op
  Reply
    | .inl op => I.Reply op
    | .inr op => J.Reply op

/-- A program over the first interface. -/
def Program.inl {I J : Interface} {ε α : Type} : Program I ε α → Program (I.sum J) ε α
  | .done result => .done result
  | .perform op rest => .perform (.inl op) fun reply => (rest reply).inl

/-- What is left of a program when the operations of the second interface are answered at once. -/
def Program.mute {I J : Interface} {ε α : Type} (answer : ∀ op : J.Op, J.Reply op) :
    Program (I.sum J) ε α → Program I ε α
  | .done result => .done result
  | .perform (.inl op) rest => .perform op fun reply => (rest reply).mute answer
  | .perform (.inr op) rest => (rest (.ok (answer op))).mute answer

section Mute

variable {I J : Interface} {ε α β : Type} {answer : ∀ op : J.Op, J.Reply op}

theorem Program.mute_inl (p : Program I ε α) : (p.inl : Program (I.sum J) ε α).mute answer = p := by
  induction p with
  | done result => rfl
  | perform op rest ih =>
    rw [Program.inl, Program.mute]
    congr 1
    funext reply
    exact ih reply

theorem Program.mute_andThen (p : Program (I.sum J) ε α) (f : Except ε α → Program (I.sum J) ε β) :
    (p.andThen f).mute answer = (p.mute answer).andThen fun result => (f result).mute answer := by
  induction p with
  | done result => rfl
  | perform op rest ih =>
    cases op with
    | inl op =>
      rw [perform_andThen, mute, mute, perform_andThen]
      congr 1
      funext reply
      exact ih reply
    | inr op => exact ih _

theorem Program.mute_bind (p : Program (I.sum J) ε α) (f : α → Program (I.sum J) ε β) :
    (p >>= f).mute answer = p.mute answer >>= fun a => (f a).mute answer := by
  rw [bind_def, mute_andThen, bind_def]
  congr 1
  funext result
  cases result with
  | ok a => rfl
  | error e => rfl

end Mute

end Concurrency
