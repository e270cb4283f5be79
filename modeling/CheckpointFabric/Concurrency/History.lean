import CheckpointFabric.Concurrency.Program

/-!
# What a program does, read off its own history

The deeds of a program are the operations it has performed, each with the reply
it got. Replies are unconstrained here, so everything stated in this file holds
whatever other programs do in between: it is a statement about the text of one
program.

`Obeys permits conclude` says that at every point the next operation is
permitted by the deeds so far, and that the final result is one the deeds allow.
The rules below follow the structure of a program, so that a property of a long
operation is proved part by part.

## Main definitions

* `Deed` — an operation together with the reply it got
* `Follows p deeds q` — after `deeds`, what remains of `p` is `q`
* `Obeys` — every operation is permitted by the deeds before it
* `Keeps` — wherever a fact holds of the deeds, the program obeys and keeps it
* `Uses` — every operation of a program belongs to a given class
* `Returns` — every value that a program returns has a property

## Main results

* `Obeys.of_follows` — what an obedient program has left is obedient
* `obeys_andThen` — the rule of sequencing
* `Obeys.of_uses` — a part whose operations all keep a fact about the deeds
-/

set_option autoImplicit false

namespace Concurrency

/-- An operation together with the reply it got. -/
structure Deed (I : Interface) (ε : Type) where
  op : I.Op
  reply : Except ε (I.Reply op)

variable {I : Interface} {ε α β : Type}

/-- After the deeds `ds` (newest first), what remains of the first program is the
second. -/
inductive Follows (p : Program I ε α) : List (Deed I ε) → Program I ε α → Prop
  | start : Follows p [] p
  | perform {ds : List (Deed I ε)} {op : I.Op}
      {rest : Except ε (I.Reply op) → Program I ε α} (reply : Except ε (I.Reply op)) :
      Follows p ds (.perform op rest) → Follows p (⟨op, reply⟩ :: ds) (rest reply)

/-- Every operation of the program is permitted by the deeds before it, and its
result is one that its deeds allow. -/
def Obeys (permits : List (Deed I ε) → I.Op → Prop)
    (conclude : List (Deed I ε) → Except ε α → Prop) :
    List (Deed I ε) → Program I ε α → Prop
  | ds, .done result => conclude ds result
  | ds, .perform op rest =>
    permits ds op ∧ ∀ reply, Obeys permits conclude (⟨op, reply⟩ :: ds) (rest reply)

/-- From all deeds with the fact, the program obeys, and it keeps the fact. -/
def Keeps (permits : List (Deed I ε) → I.Op → Prop) (fact : List (Deed I ε) → Prop)
    (p : Program I ε α) : Prop :=
  ∀ ds, fact ds → Obeys permits (fun ds' _ => fact ds') ds p

/-- Every operation of the program belongs to the class `allowed`. -/
def Uses (allowed : I.Op → Prop) : Program I ε α → Prop
  | .done _ => True
  | .perform op rest => allowed op ∧ ∀ reply, Uses allowed (rest reply)

/-- Every value the program may return satisfies `post`. -/
def Returns (post : α → Prop) : Program I ε α → Prop
  | .done result => ∀ a, result = .ok a → post a
  | .perform _ rest => ∀ reply, Returns post (rest reply)

theorem Uses.of_true (p : Program I ε α) : Uses (fun _ => True) p := by
  induction p with
  | done result => trivial
  | perform op rest ih => exact ⟨trivial, ih⟩

/-- A program that is done performs nothing. -/
theorem Follows.of_done {result : Except ε α} {q : Program I ε α} {ds : List (Deed I ε)}
    (h : Follows (.done result) ds q) : ds = [] ∧ q = .done result := by
  induction h with
  | start => exact ⟨rfl, rfl⟩
  | perform reply _ ih => cases ih.2

/-- A sequence is still in its first part, or the first part has come to its result. -/
theorem Follows.of_andThen {p : Program I ε α} {f : Except ε α → Program I ε β}
    {q : Program I ε β} {ds : List (Deed I ε)} (h : Follows (p.andThen f) ds q) :
    (∃ p', Follows p ds p' ∧ q = p'.andThen f) ∨
      ∃ result older recent, ds = recent ++ older ∧ Follows p older (.done result) ∧
        Follows (f result) recent q := by
  generalize hr : p.andThen f = r at h
  induction h with
  | start => exact .inl ⟨p, .start, hr.symm⟩
  | @perform _ op rest reply _ ih =>
    rcases ih with ⟨p', hp', hq⟩ | ⟨result, older, recent, rfl, hp, hf⟩
    · cases p' with
      | done result =>
        have hstart : Follows (f result) [] (.perform op rest) := by
          rw [hq]
          exact .start
        exact .inr ⟨result, _, [_], rfl, hp', hstart.perform reply⟩
      | perform op' rest' =>
        obtain ⟨rfl, hrest⟩ := Program.perform.inj hq
        exact .inl ⟨rest' reply, hp'.perform reply, congrFun (eq_of_heq hrest) reply⟩
    · exact .inr ⟨result, older, _ :: recent, rfl, hp, hf.perform reply⟩

/-- The deeds of a program belong to its class, and so does what remains of it. -/
theorem Uses.of_follows {allowed : I.Op → Prop} {p q : Program I ε α} {ds : List (Deed I ε)}
    (huses : Uses allowed p) (h : Follows p ds q) : (∀ d ∈ ds, allowed d.op) ∧ Uses allowed q := by
  induction h with
  | start => exact ⟨fun _ hd => absurd hd List.not_mem_nil, huses⟩
  | perform reply _ ih =>
    obtain ⟨hdeeds, hop, hrest⟩ := ih
    refine ⟨fun d hd => ?_, hrest reply⟩
    rcases List.mem_cons.mp hd with rfl | hd
    · exact hop
    · exact hdeeds d hd

/-- The deeds and the rest of a program after `n` operations with fixed replies. -/
def Program.advance (answer : (op : I.Op) → Except ε (I.Reply op)) :
    ℕ → List (Deed I ε) → Program I ε α → List (Deed I ε) × Program I ε α
  | n + 1, ds, .perform op rest => advance answer n (⟨op, answer op⟩ :: ds) (rest (answer op))
  | _, ds, p => (ds, p)

theorem follows_advance {answer : (op : I.Op) → Except ε (I.Reply op)} {p q : Program I ε α}
    {ds : List (Deed I ε)} (n : ℕ) (h : Follows p ds q) :
    Follows p (Program.advance answer n ds q).1 (Program.advance answer n ds q).2 := by
  induction n generalizing ds q with
  | zero => exact h
  | succ n ih =>
    cases q with
    | done result => exact h
    | perform op rest => exact ih (h.perform (answer op))

/-- All these deeds have the fixed replies. -/
theorem reply_of_mem_advance {answer : (op : I.Op) → Except ε (I.Reply op)} {p : Program I ε α}
    {ds : List (Deed I ε)} (n : ℕ) (h : ∀ d ∈ ds, d.reply = answer d.op) :
    ∀ d ∈ (Program.advance answer n ds p).1, d.reply = answer d.op := by
  induction n generalizing ds p with
  | zero => exact h
  | succ n ih =>
    cases p with
    | done result => exact h
    | perform op rest => exact ih (List.forall_mem_cons.mpr ⟨rfl, h⟩)

/-- The result of a program that is done. -/
def Program.result? : Program I ε α → Option (Except ε α)
  | .done result => some result
  | .perform .. => none

theorem Program.eq_done_of_result? {p : Program I ε α} {result : Except ε α}
    (h : p.result? = some result) : p = .done result := by
  cases p with
  | done result' => rw [Option.some.inj h]
  | perform op rest => cases h

section Obeys

variable {permits permits' : List (Deed I ε) → I.Op → Prop}
  {conclude conclude' : List (Deed I ε) → Except ε α → Prop} {ds : List (Deed I ε)}

@[simp] theorem obeys_done {result : Except ε α} :
    Obeys permits conclude ds (.done result) ↔ conclude ds result := Iff.rfl

@[simp] theorem obeys_perform {op : I.Op} {rest : Except ε (I.Reply op) → Program I ε α} :
    Obeys permits conclude ds (.perform op rest) ↔
      permits ds op ∧ ∀ reply, Obeys permits conclude (⟨op, reply⟩ :: ds) (rest reply) := Iff.rfl

@[simp] theorem obeys_call {op : I.Op}
    {conclude : List (Deed I ε) → Except ε (I.Reply op) → Prop} :
    Obeys permits conclude ds (Program.call op) ↔
      permits ds op ∧ ∀ reply, conclude (⟨op, reply⟩ :: ds) reply := Iff.rfl

@[simp] theorem obeys_pure {a : α} :
    Obeys permits conclude ds (pure a : Program I ε α) ↔ conclude ds (.ok a) := Iff.rfl

@[simp] theorem obeys_fail {e : ε} :
    Obeys permits conclude ds (Program.fail e) ↔ conclude ds (.error e) := Iff.rfl

@[simp] theorem obeys_ofExcept {result : Except ε α} :
    Obeys permits conclude ds (Program.ofExcept result) ↔ conclude ds result := Iff.rfl

@[simp] theorem obeys_andThen {p : Program I ε α} {f : Except ε α → Program I ε β}
    {conclude : List (Deed I ε) → Except ε β → Prop} :
    Obeys permits conclude ds (p.andThen f) ↔
      Obeys permits (fun ds result => Obeys permits conclude ds (f result)) ds p := by
  induction p generalizing ds with
  | done result => rfl
  | perform op rest ih => simp only [Program.perform_andThen, obeys_perform, ih]

@[simp] theorem obeys_bind {p : Program I ε α} {f : α → Program I ε β}
    {conclude : List (Deed I ε) → Except ε β → Prop} :
    Obeys permits conclude ds (p >>= f) ↔
      Obeys permits (fun ds result => Obeys permits conclude ds (Program.onValue f result)) ds p :=
  obeys_andThen

@[simp] theorem obeys_ensure {condition : Prop} [Decidable condition] {e : ε}
    {conclude : List (Deed I ε) → Except ε Unit → Prop} :
    Obeys permits conclude ds (Program.ensure condition e) ↔
      if condition then conclude ds (.ok ()) else conclude ds (.error e) := by
  unfold Program.ensure
  split <;> rfl

theorem obeys_ite {condition : Prop} [Decidable condition] {p q : Program I ε α}
    (hp : condition → Obeys permits conclude ds p) (hq : ¬ condition → Obeys permits conclude ds q) :
    Obeys permits conclude ds (if condition then p else q) := by
  split
  · exact hp ‹_›
  · exact hq ‹_›

theorem Obeys.mono {p : Program I ε α} (h : Obeys permits conclude ds p)
    (hpermits : ∀ ds op, permits ds op → permits' ds op)
    (hconclude : ∀ ds result, conclude ds result → conclude' ds result) :
    Obeys permits' conclude' ds p := by
  induction p generalizing ds with
  | done result => exact hconclude _ _ h
  | perform op rest ih => exact ⟨hpermits _ _ h.1, fun reply => ih reply (h.2 reply)⟩

theorem Obeys.weaken {p : Program I ε α} (h : Obeys permits conclude ds p)
    (hconclude : ∀ ds result, conclude ds result → conclude' ds result) :
    Obeys permits conclude' ds p :=
  h.mono (fun _ _ => id) hconclude

theorem Obeys.and {p : Program I ε α} (h : Obeys permits conclude ds p)
    (h' : Obeys permits' conclude' ds p) :
    Obeys (fun ds op => permits ds op ∧ permits' ds op)
      (fun ds result => conclude ds result ∧ conclude' ds result) ds p := by
  induction p generalizing ds with
  | done result => exact ⟨h, h'⟩
  | perform op rest ih => exact ⟨⟨h.1, h'.1⟩, fun reply => ih reply (h.2 reply) (h'.2 reply)⟩

/-- What an obedient program has left after some deeds is still obedient. -/
theorem Obeys.of_follows {p q : Program I ε α} (h : Obeys permits conclude [] p)
    (hfollows : Follows p ds q) : Obeys permits conclude ds q := by
  induction hfollows with
  | start => exact h
  | perform reply _ ih => exact ih.2 reply

/-- A fact that holds of the deeds at every point holds of those so far. -/
theorem Obeys.fact {fact : List (Deed I ε) → Prop} {p : Program I ε α}
    (h : Obeys (fun ds _ => fact ds) (fun ds _ => fact ds) ds p) : fact ds := by
  cases p with
  | done result => exact h
  | perform op rest => exact h.1

/-- A part of a program whose operations are all permitted by a fact about the
deeds, and keep that fact, keeps it throughout. -/
theorem Obeys.of_uses {allowed : I.Op → Prop} {fact : List (Deed I ε) → Prop}
    {p : Program I ε α} (huses : Uses allowed p)
    (hstep : ∀ ds op, allowed op → fact ds →
      permits ds op ∧ ∀ reply, fact (⟨op, reply⟩ :: ds))
    (hfact : fact ds) : Obeys permits (fun ds _ => fact ds) ds p := by
  induction p generalizing ds with
  | done result => exact hfact
  | perform op rest ih =>
    obtain ⟨hpermitted, hkeep⟩ := hstep ds op huses.1 hfact
    exact ⟨hpermitted, fun reply => ih reply (huses.2 reply) (hkeep reply)⟩

/-- What every permitted operation keeps is kept throughout. -/
theorem Obeys.preserves {fact : List (Deed I ε) → Prop} {p : Program I ε α}
    (h : Obeys permits conclude ds p)
    (hstep : ∀ ds op, permits ds op → fact ds → ∀ reply, fact (⟨op, reply⟩ :: ds))
    (hfact : fact ds) : Obeys permits (fun ds' result => conclude ds' result ∧ fact ds') ds p := by
  induction p generalizing ds with
  | done result => exact ⟨h, hfact⟩
  | perform op rest ih =>
    exact ⟨h.1, fun reply => ih reply (h.2 reply) (hstep ds op h.1 hfact reply)⟩

/-- What a part whose operations are always permitted leaves behind: more deeds. -/
theorem Obeys.extend {allowed : I.Op → Prop} {p : Program I ε α} (huses : Uses allowed p)
    (hpermits : ∀ ds' op, ds <:+ ds' → allowed op → permits ds' op) :
    Obeys permits (fun ds' _ => ds <:+ ds') ds p :=
  Obeys.of_uses huses
    (fun ds' op hop hsuffix =>
      ⟨hpermits ds' op hsuffix hop, fun _ => hsuffix.trans (List.suffix_cons _ _)⟩)
    (List.suffix_refl ds)

/-- Deeds are never undone: the deeds at the end extend those at the start. -/
theorem Obeys.extends {p : Program I ε α} (h : Obeys permits conclude ds p) :
    Obeys permits (fun ds' result => ds <:+ ds' ∧ conclude ds' result) ds p := by
  have hsuffix : Obeys (fun _ _ => True) (fun ds' _ => ds <:+ ds') ds p :=
    Obeys.extend (Uses.of_true p) fun _ _ _ _ => trivial
  exact (hsuffix.and h).mono (fun _ _ h => h.2) fun _ _ h => h

/-- A part of a program adds the deeds that it follows to its result. -/
theorem obeys_follows (p : Program I ε α) :
    Obeys (fun _ _ => True)
      (fun ds' result => ∃ recent, ds' = recent ++ ds ∧ Follows p recent (.done result)) ds p := by
  suffices hall : ∀ (recent : List (Deed I ε)) (q : Program I ε α), Follows p recent q →
      Obeys (fun _ _ => True)
        (fun ds' result => ∃ recent, ds' = recent ++ ds ∧ Follows p recent (.done result))
        (recent ++ ds) q from hall [] p .start
  intro recent q h
  induction q generalizing recent with
  | done result => exact ⟨recent, rfl, h⟩
  | perform op rest ih =>
    exact ⟨trivial, fun reply => ih reply (⟨op, reply⟩ :: recent) (h.perform reply)⟩

/-- A part of a program adds deeds of its class. -/
theorem Uses.obeys_recent {allowed : I.Op → Prop} {p : Program I ε α} (huses : Uses allowed p) :
    Obeys (fun _ _ => True)
      (fun ds' _ => ∃ recent, ds' = recent ++ ds ∧ ∀ d ∈ recent, allowed d.op) ds p := by
  refine (obeys_follows p).weaken ?_
  rintro ds' result ⟨recent, rfl, hfollows⟩
  exact ⟨recent, rfl, (huses.of_follows hfollows).1⟩

/-- A program that may do anything of a class has only deeds of the class. -/
theorem Obeys.uses {allowed : I.Op → Prop} {p : Program I ε α}
    (h : Obeys (fun _ op => allowed op) conclude ds p) : Uses allowed p := by
  induction p generalizing ds with
  | done result => trivial
  | perform op rest ih => exact ⟨h.1, fun reply => ih reply (h.2 reply)⟩

section Bind

/-! The rules for the first part of a program, when a failure needs no care. -/

variable {f : α → Program I ε β} {conclude : List (Deed I ε) → Except ε β → Prop}
  (herror : ∀ ds e, conclude ds (.error e))
include herror

theorem Obeys.bind {p : Program I ε α} {middle : List (Deed I ε) → α → Prop}
    (hp : Obeys permits (fun ds result => ∀ a, result = .ok a → middle ds a) ds p)
    (hf : ∀ ds a, middle ds a → Obeys permits conclude ds (f a)) :
    Obeys permits conclude ds (p >>= f) := by
  rw [obeys_bind]
  refine hp.weaken fun ds' result hmiddle => ?_
  cases result with
  | ok a => exact hf ds' a (hmiddle a rfl)
  | error e => exact herror ds' e

theorem obeys_ofExcept_bind {result : Except ε α}
    (h : ∀ a, result = .ok a → Obeys permits conclude ds (f a)) :
    Obeys permits conclude ds (Program.ofExcept result >>= f) := by
  cases result with
  | ok a => exact h a rfl
  | error e => exact herror _ e

theorem obeys_call_bind {op : I.Op} {f : I.Reply op → Program I ε β} (hpermits : permits ds op)
    (h : ∀ a, Obeys permits conclude (⟨op, .ok a⟩ :: ds) (f a)) :
    Obeys permits conclude ds (Program.call op >>= f) := by
  refine ⟨hpermits, fun reply => ?_⟩
  cases reply with
  | ok a => exact h a
  | error e => exact herror _ e

theorem obeys_uses_bind {allowed : I.Op → Prop} {p : Program I ε α} (huses : Uses allowed p)
    (hpermits : ∀ ds' op, ds <:+ ds' → allowed op → permits ds' op)
    (h : ∀ ds' a, ds <:+ ds' → Obeys permits conclude ds' (f a)) :
    Obeys permits conclude ds (p >>= f) :=
  Obeys.bind herror ((Obeys.extend huses hpermits).weaken fun _ _ hsuffix _ _ => hsuffix) h

end Bind

theorem obeys_ensure_bind {condition : Prop} [Decidable condition] {e : ε}
    {f : Unit → Program I ε β} {conclude : List (Deed I ε) → Except ε β → Prop}
    (herror : ∀ ds e, conclude ds (.error e))
    (h : condition → Obeys permits conclude ds (f ())) :
    Obeys permits conclude ds (Program.ensure condition e >>= f) := by
  rw [obeys_bind, obeys_ensure]
  split
  · exact h ‹_›
  · exact herror _ _

/-- Handing over the result keeps what the deeds tell. -/
theorem Obeys.attempt {p : Program I ε α} {fact : List (Deed I ε) → Prop}
    (h : Obeys permits (fun ds _ => fact ds) ds p) :
    Obeys permits (fun ds _ => fact ds) ds p.attempt := by
  rw [Program.attempt, obeys_andThen]
  exact h

/-- Sequencing after a part whose result is handed over, be it a value or an error. -/
theorem Obeys.attempt_bind {p : Program I ε α} {f : Except ε α → Program I ε β}
    {middle : List (Deed I ε) → Except ε α → Prop}
    {conclude : List (Deed I ε) → Except ε β → Prop} (hp : Obeys permits middle ds p)
    (hf : ∀ ds' result, middle ds' result → Obeys permits conclude ds' (f result)) :
    Obeys permits conclude ds (p.attempt >>= f) := by
  rw [obeys_bind, Program.attempt, obeys_andThen]
  exact hp.weaken hf

/-- Sequencing after a part whose result is forgotten. -/
theorem Obeys.ignore_bind {p : Program I ε α} {f : Unit → Program I ε β}
    {middle : List (Deed I ε) → Except ε α → Prop}
    {conclude : List (Deed I ε) → Except ε β → Prop} (hp : Obeys permits middle ds p)
    (hf : ∀ ds' result, middle ds' result → Obeys permits conclude ds' (f ())) :
    Obeys permits conclude ds (p.ignore >>= f) := by
  rw [obeys_bind, Program.ignore, obeys_andThen]
  exact hp.weaken hf

theorem obeys_call_attempt_bind {op : I.Op} {f : Except ε (I.Reply op) → Program I ε β}
    {conclude : List (Deed I ε) → Except ε β → Prop} (hpermits : permits ds op)
    (hf : ∀ reply, Obeys permits conclude (⟨op, reply⟩ :: ds) (f reply)) :
    Obeys permits conclude ds ((Program.call op).attempt >>= f) :=
  ⟨hpermits, hf⟩

/-- Forgetting the result keeps what the deeds tell. -/
theorem Obeys.ignore {p : Program I ε α} {fact : List (Deed I ε) → Prop}
    (h : Obeys permits (fun ds _ => fact ds) ds p) :
    Obeys permits (fun ds _ => fact ds) ds p.ignore := by
  rw [Program.ignore, obeys_andThen]
  exact h

theorem obeys_forEach {γ : Type} {as : List γ} {body : γ → Program I ε Unit}
    {fact : List (Deed I ε) → Prop}
    (hbody : ∀ a ∈ as, ∀ ds, fact ds → Obeys permits (fun ds _ => fact ds) ds (body a))
    (hfact : fact ds) :
    Obeys permits (fun ds _ => fact ds) ds (Program.forEach as body) := by
  induction as generalizing ds with
  | nil => exact hfact
  | cons a as ih =>
    rw [Program.forEach_cons, obeys_andThen]
    refine (hbody a (.head as) ds hfact).weaken fun ds' result h => ?_
    cases result with
    | ok _ => exact ih (fun b hb => hbody b (.tail a hb)) h
    | error e => exact h

/-- Collecting values: each has the property that its part gives it, and keeps it as the
deeds grow. -/
theorem obeys_mapEach {γ : Type} {as : List γ} {body : γ → Program I ε α}
    {post : List (Deed I ε) → α → Prop}
    (hmono : ∀ ds ds' a, ds <:+ ds' → post ds a → post ds' a)
    (hbody : ∀ c ∈ as, ∀ ds', ds <:+ ds' →
      Obeys permits (fun ds'' result => ∀ a, result = .ok a → post ds'' a) ds' (body c)) :
    Obeys permits (fun ds' result => ∀ bs, result = .ok bs → ∀ b ∈ bs, post ds' b) ds
      (Program.mapEach as body) := by
  induction as generalizing ds with
  | nil => exact fun bs h b hb => absurd (Except.ok.inj h ▸ hb) List.not_mem_nil
  | cons c as ih =>
    have herror : ∀ (ds : List (Deed I ε)) (e : ε), ∀ bs : List α,
        Except.error e = Except.ok bs → ∀ b ∈ bs, post ds b := fun _ _ _ h => nomatch h
    refine Obeys.bind herror (((hbody c (.head as) ds (List.suffix_refl ds)).extends).weaken
      fun ds' result h a ha => (⟨h.1, h.2 a ha⟩ : ds <:+ ds' ∧ post ds' a)) fun ds₁ a h₁ => ?_
    refine Obeys.bind herror ((ih fun d hd ds' hds' =>
      hbody d (.tail c hd) ds' (h₁.1.trans hds')).extends.weaken
      fun ds' result h bs hbs => (⟨h.1, h.2 bs hbs⟩ : ds₁ <:+ ds' ∧ ∀ b ∈ bs, post ds' b))
      fun ds₂ bs h₂ => ?_
    intro bs' hbs' b hb
    rw [← Except.ok.inj hbs'] at hb
    rcases List.mem_cons.mp hb with rfl | hb
    · exact hmono _ _ _ h₂.1 h₁.2
    · exact h₂.2 b hb

/-- Collecting values, under a fact about the deeds and the elements that are left. -/
theorem obeys_mapEach_of_rest {γ : Type} {as : List γ} {body : γ → Program I ε α}
    {fact : List γ → List (Deed I ε) → Prop}
    (hbody : ∀ c rest ds', fact (c :: rest) ds' →
      Obeys permits (fun ds'' _ => fact rest ds'') ds' (body c)) (hfact : fact as ds) :
    Obeys permits (fun _ _ => True) ds (Program.mapEach as body) := by
  induction as generalizing ds with
  | nil => trivial
  | cons c as ih =>
    refine Obeys.bind (fun _ _ => trivial) ((hbody c as ds hfact).weaken fun ds' _ h _ _ => h)
      fun ds₁ _ h₁ => Obeys.bind (fun _ _ => trivial)
        ((ih h₁).weaken fun _ _ _ _ _ => (trivial : True)) fun _ _ _ => trivial

end Obeys

section Uses

variable {allowed allowed' : I.Op → Prop}

@[simp] theorem uses_done {result : Except ε α} :
    Uses allowed (.done result : Program I ε α) ↔ True := Iff.rfl

@[simp] theorem uses_perform {op : I.Op} {rest : Except ε (I.Reply op) → Program I ε α} :
    Uses allowed (.perform op rest) ↔ allowed op ∧ ∀ reply, Uses allowed (rest reply) := Iff.rfl

@[simp] theorem uses_call {op : I.Op} :
    Uses allowed (Program.call op : Program I ε (I.Reply op)) ↔ allowed op := by
  simp [Program.call]

@[simp] theorem uses_pure {a : α} : Uses allowed (pure a : Program I ε α) ↔ True := Iff.rfl

@[simp] theorem uses_fail {e : ε} : Uses allowed (Program.fail e : Program I ε α) ↔ True := Iff.rfl

@[simp] theorem uses_ofExcept {result : Except ε α} :
    Uses allowed (Program.ofExcept result : Program I ε α) ↔ True := Iff.rfl

@[simp] theorem uses_ensure {condition : Prop} [Decidable condition] {e : ε} :
    Uses allowed (Program.ensure condition e : Program I ε Unit) ↔ True := by
  unfold Program.ensure
  split <;> exact Iff.rfl

theorem Uses.mono {p : Program I ε α} (h : Uses allowed p)
    (himp : ∀ op, allowed op → allowed' op) : Uses allowed' p := by
  induction p with
  | done result => trivial
  | perform op rest ih => exact ⟨himp op h.1, fun reply => ih reply (h.2 reply)⟩

theorem Uses.andThen {p : Program I ε α} {f : Except ε α → Program I ε β}
    (hp : Uses allowed p) (hf : ∀ result, Uses allowed (f result)) :
    Uses allowed (p.andThen f) := by
  induction p with
  | done result => exact hf result
  | perform op rest ih => exact ⟨hp.1, fun reply => ih reply (hp.2 reply)⟩

theorem Uses.onValue {f : α → Program I ε β} (hf : ∀ a, Uses allowed (f a))
    (result : Except ε α) : Uses allowed (Program.onValue f result) := by
  cases result with
  | ok a => exact hf a
  | error e => trivial

theorem Uses.bind {p : Program I ε α} {f : α → Program I ε β} (hp : Uses allowed p)
    (hf : ∀ a, Uses allowed (f a)) : Uses allowed (p >>= f) :=
  hp.andThen (Uses.onValue hf)

theorem Uses.ite {condition : Prop} [Decidable condition] {p q : Program I ε α}
    (hp : Uses allowed p) (hq : Uses allowed q) : Uses allowed (if condition then p else q) := by
  by_cases h : condition
  · rwa [if_pos h]
  · rwa [if_neg h]

theorem Uses.attempt {p : Program I ε α} (hp : Uses allowed p) : Uses allowed p.attempt :=
  hp.andThen fun _ => trivial

theorem Uses.onError {p : Program I ε α} {handler : ε → Program I ε Unit} (hp : Uses allowed p)
    (hhandler : ∀ e, Uses allowed (handler e)) : Uses allowed (p.onError handler) :=
  hp.andThen fun
    | .ok _ => trivial
    | .error e => (hhandler e).andThen fun _ => trivial

theorem Uses.mapError {p : Program I ε α} {f : ε → ε} (hp : Uses allowed p) :
    Uses allowed (p.mapError f) :=
  hp.andThen fun
    | .ok _ => trivial
    | .error _ => trivial

theorem Uses.ignore {p : Program I ε α} (hp : Uses allowed p) : Uses allowed p.ignore :=
  hp.andThen fun _ => trivial

theorem Uses.translate {J : Interface} {allowed : J.Op → Prop}
    {f : (op : I.Op) → Program J ε (I.Reply op)} (hf : ∀ op, Uses allowed (f op))
    (p : Program I ε α) : Uses allowed (p.translate f) := by
  induction p with
  | done result => trivial
  | perform op rest ih => exact (hf op).andThen fun reply => ih reply

theorem Uses.forEach {γ : Type} {as : List γ} {body : γ → Program I ε Unit}
    (hbody : ∀ a ∈ as, Uses allowed (body a)) : Uses allowed (Program.forEach as body) := by
  induction as with
  | nil => trivial
  | cons a as ih =>
    exact (hbody a (.head as)).andThen
      (Uses.onValue fun _ => ih fun b hb => hbody b (.tail a hb))

theorem Uses.mapEach {γ : Type} {as : List γ} {body : γ → Program I ε α}
    (hbody : ∀ a ∈ as, Uses allowed (body a)) : Uses allowed (Program.mapEach as body) := by
  induction as with
  | nil => trivial
  | cons a as ih =>
    refine (hbody a (.head as)).andThen (Uses.onValue fun _ => ?_)
    exact (ih fun b hb => hbody b (.tail a hb)).andThen (Uses.onValue fun _ => trivial)

end Uses

section Keeps

variable {permits : List (Deed I ε) → I.Op → Prop} {fact : List (Deed I ε) → Prop}

theorem keeps_done {result : Except ε α} :
    Keeps permits fact (.done result : Program I ε α) := fun _ h => h

theorem keeps_ensure {condition : Prop} [Decidable condition] {e : ε} :
    Keeps permits fact (Program.ensure condition e : Program I ε Unit) := by
  unfold Program.ensure
  split <;> exact keeps_done

theorem keeps_call {op : I.Op}
    (h : ∀ ds, fact ds → permits ds op ∧ ∀ reply, fact (⟨op, reply⟩ :: ds)) :
    Keeps permits fact (Program.call op : Program I ε (I.Reply op)) := h

theorem Keeps.andThen {p : Program I ε α} {f : Except ε α → Program I ε β}
    (hp : Keeps permits fact p) (hf : ∀ result, Keeps permits fact (f result)) :
    Keeps permits fact (p.andThen f) := by
  intro ds h
  rw [obeys_andThen]
  exact (hp ds h).weaken fun ds' result h' => hf result ds' h'

theorem keeps_onValue {f : α → Program I ε β} (hf : ∀ a, Keeps permits fact (f a))
    (result : Except ε α) : Keeps permits fact (Program.onValue f result) := by
  cases result with
  | ok a => exact hf a
  | error e => exact keeps_done

theorem Keeps.bind {p : Program I ε α} {f : α → Program I ε β} (hp : Keeps permits fact p)
    (hf : ∀ a, Keeps permits fact (f a)) : Keeps permits fact (p >>= f) :=
  hp.andThen (keeps_onValue hf)

theorem Keeps.ite {condition : Prop} [Decidable condition] {p q : Program I ε α}
    (hp : Keeps permits fact p) (hq : Keeps permits fact q) :
    Keeps permits fact (if condition then p else q) := by
  by_cases h : condition
  · rwa [if_pos h]
  · rwa [if_neg h]

theorem Keeps.ignore {p : Program I ε α} (hp : Keeps permits fact p) :
    Keeps permits fact p.ignore := hp.andThen fun _ => keeps_done

theorem Keeps.of_uses {allowed : I.Op → Prop} {p : Program I ε α} (huses : Uses allowed p)
    (h : ∀ ds op, fact ds → allowed op → permits ds op ∧ ∀ reply, fact (⟨op, reply⟩ :: ds)) :
    Keeps permits fact p :=
  fun _ => Obeys.of_uses huses fun ds op hop hds => h ds op hds hop

/-- A part that keeps a fact also keeps what each of its operations keeps. -/
theorem Keeps.and_uses {allowed : I.Op → Prop} {fact' : List (Deed I ε) → Prop}
    {p : Program I ε α} (h : Keeps permits fact p) (huses : Uses allowed p)
    (hstep : ∀ ds op, allowed op → fact' ds → ∀ reply, fact' (⟨op, reply⟩ :: ds)) :
    Keeps permits (fun ds => fact ds ∧ fact' ds) p := by
  intro ds hds
  have hkeeps : Obeys (fun _ _ => True) (fun ds' _ => fact' ds') ds p :=
    Obeys.of_uses huses (fun ds op hop hfact => ⟨trivial, hstep ds op hop hfact⟩) hds.2
  exact ((h ds hds.1).and hkeeps).mono (fun _ _ h => h.1) fun _ _ h => h

end Keeps

section Returns

variable {post : α → Prop} {post' : β → Prop}

theorem returns_fail {e : ε} : Returns post (Program.fail e : Program I ε α) :=
  fun _ h => nomatch h

theorem returns_pure {a : α} (h : post a) : Returns post (pure a : Program I ε α) :=
  fun _ heq => Except.ok.inj heq ▸ h

theorem Returns.andThen {p : Program I ε α} {f : Except ε α → Program I ε β}
    (hf : ∀ result, (∀ a, result = .ok a → post a) → Returns post' (f result))
    (hp : Returns post p) : Returns post' (p.andThen f) := by
  induction p with
  | done result => exact hf result hp
  | perform op rest ih => exact fun reply => ih reply (hp reply)

theorem Returns.of_true (p : Program I ε α) : Returns (fun _ => True) p := by
  induction p with
  | done result => exact fun _ _ => trivial
  | perform op rest ih => exact ih

theorem Returns.mono {post'' : α → Prop} {p : Program I ε α} (h : Returns post p)
    (himp : ∀ a, post a → post'' a) : Returns post'' p := by
  induction p with
  | done result => exact fun a heq => himp a (h a heq)
  | perform op rest ih => exact fun reply => ih reply (h reply)

/-- The values of a sequence are those of its last part. -/
theorem Returns.bind {p : Program I ε α} {f : α → Program I ε β}
    (hf : ∀ a, Returns post' (f a)) : Returns post' (p >>= f) := by
  refine Returns.andThen (fun result _ => ?_) (Returns.of_true p)
  cases result with
  | ok a => exact hf a
  | error e => exact fun _ h => nomatch h

/-- A handler of errors adds no value. -/
theorem Returns.onError {p : Program I ε α} {handler : ε → Program I ε Unit}
    (h : Returns post p) : Returns post (p.onError handler) := by
  refine Returns.andThen (fun result hresult => ?_) h
  cases result with
  | ok a => exact hresult
  | error e => exact Returns.andThen (fun _ _ => returns_fail) (Returns.of_true _)

theorem returns_ofExcept_bind {result : Except ε α} {f : α → Program I ε β}
    (hf : ∀ a, result = .ok a → Returns post' (f a)) :
    Returns post' (Program.ofExcept result >>= f) := by
  cases result with
  | ok a => exact hf a rfl
  | error e => exact fun _ h => nomatch h

theorem returns_ensure_bind {condition : Prop} [Decidable condition] {e : ε}
    {f : Unit → Program I ε β} (hf : condition → Returns post' (f ())) :
    Returns post' (Program.ensure condition e >>= f) := by
  unfold Program.ensure
  split
  · exact hf ‹_›
  · exact fun _ h => nomatch h

/-- Sequencing, when what follows depends on the value. -/
theorem Uses.bind_of_returns {allowed : I.Op → Prop} {p : Program I ε α}
    {f : α → Program I ε β} (hp : Uses allowed p) (hreturns : Returns post p)
    (hf : ∀ a, post a → Uses allowed (f a)) : Uses allowed (p >>= f) := by
  induction p with
  | done result =>
    cases result with
    | ok a => exact hf a (hreturns a rfl)
    | error e => trivial
  | perform op rest ih => exact ⟨hp.1, fun reply => ih reply (hp.2 reply) (hreturns reply)⟩

/-- What a part returns, next to what its deeds tell. -/
theorem Obeys.and_returns {permits : List (Deed I ε) → I.Op → Prop}
    {conclude : List (Deed I ε) → Except ε α → Prop} {ds : List (Deed I ε)} {p : Program I ε α}
    (h : Obeys permits conclude ds p) (hreturns : Returns post p) :
    Obeys permits (fun ds' result => conclude ds' result ∧ ∀ a, result = .ok a → post a) ds p := by
  induction p generalizing ds with
  | done result => exact ⟨h, hreturns⟩
  | perform op rest ih => exact ⟨h.1, fun reply => ih reply (h.2 reply) (hreturns reply)⟩

end Returns

section Sum

variable {J : Interface} {ds : List (Deed I ε)}

/-- A deed over the first interface. -/
def Deed.inl (d : Deed I ε) : Deed (I.sum J) ε := ⟨.inl d.op, d.reply⟩

theorem mem_map_inl {op : I.Op} {reply : Except ε (I.Reply op)} :
    (⟨.inl op, reply⟩ : Deed (I.sum J) ε) ∈ ds.map Deed.inl ↔ ⟨op, reply⟩ ∈ ds := by
  constructor
  · intro h
    obtain ⟨⟨op', reply'⟩, hmem, heq⟩ := List.mem_map.mp h
    cases heq
    exact hmem
  · exact fun h => List.mem_map_of_mem (f := Deed.inl) h

/-- What holds of the text of a program holds of it over more operations. -/
theorem Obeys.sum_inl {permits : List (Deed I ε) → I.Op → Prop}
    {conclude : List (Deed I ε) → Except ε α → Prop} {p : Program I ε α}
    (h : Obeys permits conclude ds p) :
    Obeys (I := I.sum J)
      (fun ds' op' => ∃ ds op, ds' = ds.map Deed.inl ∧ op' = .inl op ∧ permits ds op)
      (fun ds' result => ∃ ds, ds' = ds.map Deed.inl ∧ conclude ds result)
      (ds.map Deed.inl) p.inl := by
  induction p generalizing ds with
  | done result => exact ⟨ds, rfl, h⟩
  | perform op rest ih => exact ⟨⟨ds, op, rfl, rfl, h.1⟩, fun reply => ih reply (h.2 reply)⟩

end Sum

end Concurrency
