import CheckpointFabric.Concurrency.History

/-!
# Phases of a program

A long operation goes through phases: it prepares, it commits, it cleans up. A
timetable gives operations their phases, and says how far a program may have come when
it performs one. The phases count from a mark, the newest deed of a kind; what a program
did before it does not matter.

## Main definitions

* `Timetable` — the phase of an operation, and the latest phase before it
* `since` — the deeds since the mark
* `Within` — since the mark, no deed is of a phase later than `n`
* `InTurn` — the program has not come too far for the operation
* `At` — the program has gone on from some deeds, and is within phase `n`

## Main results

* `InPhase.inTurn`, `Within.cons` — an operation of a phase is in turn, and leaves the program
  within that phase
-/

set_option autoImplicit false

namespace Concurrency

/-- Phases of operations. An operation may come when no deed is of a phase after `latest`. -/
structure Timetable (I : Interface) where
  latest : I.Op → Option ℕ
  phase : I.Op → Option ℕ

variable {I : Interface} {ε α β : Type} (timetable : Timetable I) (mark : Deed I ε → Bool)

/-- The deeds since the newest one that is marked. -/
def since (ds : List (Deed I ε)) : List (Deed I ε) := ds.takeWhile fun d => !mark d

/-- Since the mark, no deed is of a phase later than `n`. -/
def Within (n : ℕ) (ds : List (Deed I ε)) : Prop :=
  ∀ d ∈ since mark ds, ∀ k ∈ timetable.phase d.op, k ≤ n

/-- The operation belongs to phase `n`, or to none. -/
def InPhase (n : ℕ) (op : I.Op) : Prop :=
  (∀ k ∈ timetable.latest op, n ≤ k) ∧ ∀ k ∈ timetable.phase op, k ≤ n

/-- The program has not come too far for the operation. -/
def InTurn (ds : List (Deed I ε)) (op : I.Op) : Prop :=
  ∀ n ∈ timetable.latest op, Within timetable mark n ds

/-- The deeds continue `base`, and the program is within phase `n`. -/
structure At (base : List (Deed I ε)) (n : ℕ) (ds : List (Deed I ε)) : Prop where
  suffix : base <:+ ds
  within : Within timetable mark n ds

section Since

variable {mark} {d : Deed I ε} {ds recent older : List (Deed I ε)}

theorem since_cons_of_mark (h : mark d = true) : since mark (d :: ds) = [] := by
  simp [since, h]

theorem since_cons_of_not_mark (h : mark d = false) : since mark (d :: ds) = d :: since mark ds := by
  simp [since, h]

/-- Deeds that are newer than every mark are since the mark. -/
theorem mem_since_append (h : ∀ d' ∈ recent, mark d' = false) (hd : d ∈ recent) :
    d ∈ since mark (recent ++ older) := by
  induction recent with
  | nil => exact absurd hd List.not_mem_nil
  | cons d' recent ih =>
    rw [List.cons_append, since_cons_of_not_mark (h d' (.head _))]
    rcases List.mem_cons.mp hd with rfl | hd
    · exact .head _
    · exact .tail _ (ih (fun d'' hd'' => h d'' (.tail _ hd'')) hd)

end Since

section Within

variable {timetable mark} {n m : ℕ} {d : Deed I ε} {ds : List (Deed I ε)}

theorem within_of_mark (h : mark d = true) : Within timetable mark n (d :: ds) := by
  intro d' hd'
  rw [since_cons_of_mark h] at hd'
  exact absurd hd' List.not_mem_nil

theorem Within.mono (h : Within timetable mark n ds) (hle : n ≤ m) : Within timetable mark m ds :=
  fun d hd k hk => Nat.le_trans (h d hd k hk) hle

theorem Within.cons (h : Within timetable mark n ds) (hd : ∀ k ∈ timetable.phase d.op, k ≤ n) :
    Within timetable mark n (d :: ds) := by
  by_cases hmark : mark d = true
  · exact within_of_mark hmark
  · intro d' hd'
    rw [since_cons_of_not_mark (Bool.not_eq_true _ ▸ hmark)] at hd'
    rcases List.mem_cons.mp hd' with rfl | hd'
    · exact hd
    · exact h d' hd'

/-- No deed is later than the last phase there is. -/
theorem within_of_last (h : ∀ op, ∀ k ∈ timetable.phase op, k ≤ n) : Within timetable mark n ds :=
  fun d _ => h d.op

theorem InPhase.inTurn {op : I.Op} (hop : InPhase timetable n op)
    (h : Within timetable mark n ds) : InTurn timetable mark ds op :=
  fun k hk => h.mono (hop.1 k hk)

variable {base : List (Deed I ε)}

theorem At.cons (h : At timetable mark base n ds) (hd : ∀ k ∈ timetable.phase d.op, k ≤ n) :
    At timetable mark base n (d :: ds) where
  suffix := h.suffix.trans (List.suffix_cons d ds)
  within := h.within.cons hd

theorem At.mono (h : At timetable mark base n ds) (hle : n ≤ m) : At timetable mark base m ds where
  suffix := h.suffix
  within := h.within.mono hle

/-- From where the program stands it can go on. -/
theorem At.here (h : At timetable mark base n ds) (hle : n ≤ m) : At timetable mark ds m ds where
  suffix := List.suffix_refl ds
  within := h.within.mono hle

end Within

end Concurrency
