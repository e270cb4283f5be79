import Mathlib.Data.List.Chain
import Mathlib.Data.List.Nodup
import Mathlib.Logic.Relation

/-!
# Walks along a partial function

A partial function sends each place to the next one, to no place at all, or fails. A walk goes
from place to place until there is none to go to. As each place has one next place at most, a walk
that comes to an end never visits a place twice, and where it passes is a matter of reachability.

## Main definitions

* `Link`, `Stops` — one step of a walk, and its end
* `Follows` — the places that a walk visits

## Main results

* `Follows.unique`, `Follows.nodup` — a walk is determined by where it starts, and visits no place
  twice
* `follows_iff` — a walk is a chain of links that stops at its last place
* `exists_follows_mem_iff` — the places that walks pass
-/

set_option autoImplicit false

namespace Walks

variable {α ε : Type*} {next : α → Except ε (Option α)} {a b : α} {current : Option α}
  {visited visited' : List α}

/-- The walk goes from `a` to `b`. -/
def Link (next : α → Except ε (Option α)) (a b : α) : Prop := next a = .ok (some b)

/-- The walk comes to an end at `a`. -/
def Stops (next : α → Except ε (Option α)) (a : α) : Prop := next a = .ok none

/-- The walk that is about to visit `current` goes on through these places and ends. -/
inductive Follows (next : α → Except ε (Option α)) : Option α → List α → Prop
  | done : Follows next none []
  | step {a : α} {current : Option α} {visited : List α} (h : next a = .ok current)
      (rest : Follows next current visited) : Follows next (some a) (a :: visited)

/-- Where a walk starts determines it. -/
theorem Follows.unique (h : Follows next current visited) (h' : Follows next current visited') :
    visited = visited' := by
  induction h generalizing visited' with
  | done =>
    cases h'
    rfl
  | step hnext _ ih =>
    cases h' with
    | step hnext' rest' =>
      obtain rfl := Except.ok.inj (hnext.symm.trans hnext')
      rw [ih rest']

/-- From each place it visits, a walk goes on as if it had started there. -/
theorem Follows.suffix_of_mem (h : Follows next current visited) (hmem : b ∈ visited) :
    ∃ rest, Follows next (some b) rest ∧ rest <:+ visited := by
  induction h with
  | done => cases hmem
  | step hnext rest ih =>
    rcases List.mem_cons.mp hmem with rfl | hmem
    · exact ⟨_, .step hnext rest, List.suffix_rfl⟩
    · obtain ⟨below, hbelow, hsuffix⟩ := ih hmem
      exact ⟨below, hbelow, hsuffix.trans (List.suffix_cons _ _)⟩

/-- A walk that comes to an end visits no place twice. -/
theorem Follows.nodup (h : Follows next current visited) : visited.Nodup := by
  induction h with
  | done => exact List.nodup_nil
  | @step a _ visited hnext rest ih =>
    refine List.nodup_cons.mpr ⟨fun hmem => ?_, ih⟩
    -- A second visit would have to go on like the first one, with fewer places left.
    obtain ⟨below, hbelow, hsuffix⟩ := rest.suffix_of_mem hmem
    have hlength := hsuffix.length_le
    rw [← Follows.unique (.step hnext rest) hbelow, List.length_cons] at hlength
    omega

/-- A walk is a chain of links that starts at the place it is about to visit and stops at the last
one. -/
theorem follows_iff : Follows next current visited ↔
    visited.head? = current ∧ visited.IsChain (Link next) ∧
      ∀ a ∈ visited.getLast?, Stops next a := by
  constructor
  · intro h
    induction h with
    | done => simp
    | @step a current visited hnext rest ih =>
      obtain ⟨rfl, hchain, hstops⟩ := ih
      cases visited with
      | nil => simpa [Stops] using hnext
      | cons b below =>
        refine ⟨rfl, .cons_cons hnext hchain, ?_⟩
        rw [List.getLast?_cons_cons]
        exact hstops
  · rintro ⟨rfl, hchain, hstops⟩
    induction visited with
    | nil => exact .done
    | cons a below ih =>
      cases below with
      | nil => exact .step (hstops a rfl) .done
      | cons b below =>
        obtain ⟨hlink, hbelow⟩ := List.isChain_cons_cons.mp hchain
        rw [List.getLast?_cons_cons] at hstops
        exact .step hlink (ih hbelow hstops)

/-- A place from which a walk comes to an end. -/
theorem exists_follows_iff : (∃ visited, Follows next (some a) visited) ↔
    ∃ last, Relation.ReflTransGen (Link next) a last ∧ Stops next last := by
  constructor
  · rintro ⟨visited, h⟩
    induction visited generalizing a with
    | nil => cases h
    | cons _ below ih =>
      cases h with
      | @step a current _ hnext rest =>
        cases current with
        | none => exact ⟨_, .refl, hnext⟩
        | some b =>
          obtain ⟨last, hreach, hstops⟩ := ih rest
          exact ⟨last, .head hnext hreach, hstops⟩
  · rintro ⟨last, hreach, hstops⟩
    induction hreach using Relation.ReflTransGen.head_induction_on with
    | refl => exact ⟨[last], .step hstops .done⟩
    | head hlink _ ih =>
      obtain ⟨visited, h⟩ := ih
      exact ⟨_, .step hlink h⟩

/-- A walk from `a` passes `b` iff it reaches `b` and comes to an end from there. -/
theorem exists_follows_mem_iff : (∃ visited, Follows next (some a) visited ∧ b ∈ visited) ↔
    Relation.ReflTransGen (Link next) a b ∧
      ∃ last, Relation.ReflTransGen (Link next) b last ∧ Stops next last := by
  rw [← exists_follows_iff]
  constructor
  · rintro ⟨visited, h, hmem⟩
    refine ⟨?_, (h.suffix_of_mem hmem).imp fun _ => And.left⟩
    induction visited generalizing a with
    | nil => cases hmem
    | cons _ below ih =>
      cases h with
      | @step _ current _ hnext rest =>
        rcases List.mem_cons.mp hmem with rfl | hmem
        · exact .refl
        · cases rest with
          | done => cases hmem
          | step hnext' rest' => exact .head hnext (ih (.step hnext' rest') hmem)
  · rintro ⟨hreach, visited, h⟩
    induction hreach using Relation.ReflTransGen.head_induction_on with
    | refl =>
      cases h with
      | step hnext rest => exact ⟨_, .step hnext rest, .head _⟩
    | head hlink _ ih =>
      obtain ⟨below, hbelow, hmem⟩ := ih
      exact ⟨_, .step hlink hbelow, .tail _ hmem⟩

end Walks
