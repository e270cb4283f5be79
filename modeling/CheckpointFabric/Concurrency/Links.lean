import Mathlib.Order.WellFounded
import Mathlib.Data.Option.Basic

/-!
# Links in two directions

Keys are linked to an older and to a newer key. A key is put between two others by
changing at most one link of each. The links stay answered by each other only if nothing
else was linked at that place; whatever order they follow, they go on following it.

## Main definitions

* `Links` — the older and the newer key of each key
* `Links.Reciprocal` — every link is answered by one in the other direction
* `Links.splice` — put a key between two others
* `Links.Fits` — nothing else is linked where a key is put
* `Links.Follows` — the links follow a relation

## Main results

* `Links.reciprocal_splice_iff` — a key is put in without a dangling link exactly where it fits
* `Links.Follows.splice` — putting a key between smaller and larger ones keeps the order
* `Links.Follows.wellFounded_older` — down a well-founded order, links come to an end
-/

set_option autoImplicit false

namespace Concurrency

variable {κ : Type}

/-- The older and the newer key that each key is linked to. -/
@[ext] structure Links (κ : Type) where
  older : κ → Option κ
  newer : κ → Option κ

namespace Links

variable {l : Links κ} {k : κ} {prev next : Option κ} {R R' : κ → κ → Prop}

/-- Every link is answered by one in the other direction. -/
def Reciprocal (l : Links κ) : Prop := ∀ a b, l.older a = some b ↔ l.newer b = some a

/-- The links follow the relation: older keys are below, newer ones above. -/
structure Follows (l : Links κ) (R : κ → κ → Prop) : Prop where
  older : ∀ a b, l.older a = some b → R b a
  newer : ∀ a b, l.newer a = some b → R a b

theorem Follows.mono (h : l.Follows R) (hR : ∀ a b, R a b → R' a b) : l.Follows R' where
  older a b hb := hR b a (h.older a b hb)
  newer a b hb := hR a b (h.newer a b hb)

/-- Down a well-founded relation the older links come to an end. -/
theorem Follows.wellFounded_older (h : l.Follows R) (hR : WellFounded R) :
    WellFounded fun b a => l.older a = some b :=
  Subrelation.wf (fun {b a} hb => h.older a b hb) hR

/-- Up a relation that is well-founded upwards the newer links come to an end. -/
theorem Follows.wellFounded_newer (h : l.Follows R) (hR : WellFounded fun b a => R a b) :
    WellFounded fun b a => l.newer a = some b :=
  Subrelation.wf (fun {b a} hb => h.newer a b hb) hR

variable [DecidableEq κ]

/-- Put `k` between `prev` and `next`: its own links are replaced, and its neighbours' links
towards it. -/
def splice (l : Links κ) (k : κ) (prev next : Option κ) : Links κ where
  older a := if a = k then prev else if next = some a then some k else l.older a
  newer a := if a = k then next else if prev = some a then some k else l.newer a

section

variable {a : κ}

theorem older_splice (a : κ) : (l.splice k prev next).older a =
    if a = k then prev else if next = some a then some k else l.older a := rfl

theorem newer_splice (a : κ) : (l.splice k prev next).newer a =
    if a = k then next else if prev = some a then some k else l.newer a := rfl

@[simp] theorem older_splice_self : (l.splice k prev next).older k = prev := if_pos rfl

@[simp] theorem newer_splice_self : (l.splice k prev next).newer k = next := if_pos rfl

theorem older_splice_of_mem (ha : a ≠ k) (h : a ∈ next) :
    (l.splice k prev next).older a = some k := by
  rw [older_splice, if_neg ha, if_pos (Option.mem_def.mp h)]

theorem newer_splice_of_mem (ha : a ≠ k) (h : a ∈ prev) :
    (l.splice k prev next).newer a = some k := by
  rw [newer_splice, if_neg ha, if_pos (Option.mem_def.mp h)]

theorem older_splice_of_notMem (ha : a ≠ k) (h : a ∉ next) :
    (l.splice k prev next).older a = l.older a := by
  rw [older_splice, if_neg ha, if_neg fun hn => h (Option.mem_def.mpr hn)]

theorem newer_splice_of_notMem (ha : a ≠ k) (h : a ∉ prev) :
    (l.splice k prev next).newer a = l.newer a := by
  rw [newer_splice, if_neg ha, if_neg fun hp => h (Option.mem_def.mpr hp)]

end

/-- Putting a key between smaller and larger ones keeps the order. -/
theorem Follows.splice (h : l.Follows R) (hprev : ∀ b ∈ prev, R b k) (hnext : ∀ b ∈ next, R k b) :
    (l.splice k prev next).Follows R where
  older a b hb := by
    rw [older_splice] at hb
    split at hb
    · rename_i ha
      exact ha ▸ hprev b hb
    · split at hb
      · rename_i ha
        obtain rfl := Option.some.inj hb
        exact hnext a ha
      · exact h.older a b hb
  newer a b hb := by
    rw [newer_splice] at hb
    split at hb
    · rename_i ha
      exact ha ▸ hnext b hb
    · split at hb
      · rename_i ha
        obtain rfl := Option.some.inj hb
        exact hprev a ha
      · exact h.newer a b hb

/-- Where `k` is put nothing else is linked: its own links name its new neighbours, and these are
linked to nothing but each other and `k`. -/
structure Fits (l : Links κ) (k : κ) (prev next : Option κ) : Prop where
  older_self : ∀ b ∈ l.older k, b ∈ prev
  newer_self : ∀ b ∈ l.newer k, b ∈ next
  older : ∀ n ∈ next, ∀ b ∈ l.older n, b = k ∨ b ∈ prev
  newer : ∀ p ∈ prev, ∀ b ∈ l.newer p, b = k ∨ b ∈ next

instance (l : Links κ) (k : κ) (prev next : Option κ) : Decidable (l.Fits k prev next) :=
  decidable_of_iff
    ((∀ b ∈ l.older k, b ∈ prev) ∧ (∀ b ∈ l.newer k, b ∈ next) ∧
      (∀ n ∈ next, ∀ b ∈ l.older n, b = k ∨ b ∈ prev) ∧
      (∀ p ∈ prev, ∀ b ∈ l.newer p, b = k ∨ b ∈ next))
    ⟨fun ⟨h₁, h₂, h₃, h₄⟩ => ⟨h₁, h₂, h₃, h₄⟩, fun ⟨h₁, h₂, h₃, h₄⟩ => ⟨h₁, h₂, h₃, h₄⟩⟩

section Splice

variable (hl : l.Reciprocal) (hself : l.older k ≠ some k) (hprev : prev ≠ some k)
  (hnext : next ≠ some k)
include hl hself hprev hnext

/-- A key that fits leaves no link without an answer. -/
theorem Fits.reciprocal (h : l.Fits k prev next) : (l.splice k prev next).Reciprocal := by
  have hself' : l.newer k ≠ some k := fun hk => hself ((hl k k).mpr hk)
  intro a b
  rw [older_splice, newer_splice]
  by_cases ha : a = k
  · subst ha
    by_cases hb : b = a
    · subst hb
      simp [hprev, hnext]
    · rw [if_pos rfl, if_neg hb]
      split
      · simpa
      · rename_i hb'
        rw [← hl, iff_false_left hb']
        exact fun hold => hb' (h.older_self b hold)
  · rw [if_neg ha]
    by_cases hb : b = k
    · subst hb
      rw [if_pos rfl]
      split
      · simpa
      · rename_i ha'
        rw [hl, iff_false_right ha']
        exact fun hold => ha' (h.newer_self a hold)
    · rw [if_neg hb]
      -- The link between two other keys stays, or both of its halves are replaced.
      split
      · rename_i ha'
        rw [iff_false_left fun hk => hb (Option.some.inj hk).symm]
        split
        · exact fun hk => ha (Option.some.inj hk).symm
        · rename_i hb'
          intro hold
          exact hb' ((h.older a ha' b ((hl a b).mpr hold)).resolve_left hb)
      · rename_i ha'
        split
        · rename_i hb'
          rw [iff_false_right fun hk => ha (Option.some.inj hk).symm]
          intro hold
          exact ha' ((h.newer b hb' a ((hl a b).mp hold)).resolve_left ha)
        · exact hl a b

/-- A key is put in without a dangling link exactly where it fits. -/
theorem reciprocal_splice_iff : (l.splice k prev next).Reciprocal ↔ l.Fits k prev next := by
  refine ⟨fun h => ?_, Fits.reciprocal hl hself hprev hnext⟩
  have hself' : l.newer k ≠ some k := fun hk => hself ((hl k k).mpr hk)
  refine { older_self := ?_, newer_self := ?_, older := ?_, newer := ?_ }
  · intro b hb
    have hbk : b ≠ k := fun hk => hself (hk ▸ hb)
    by_contra hne
    have hb' : (l.splice k prev next).newer b = some k :=
      (newer_splice_of_notMem hbk hne).trans ((hl k b).mp hb)
    exact hne (older_splice_self.symm.trans ((h k b).mpr hb'))
  · intro b hb
    have hbk : b ≠ k := fun hk => hself' (hk ▸ hb)
    by_contra hne
    have hb' : (l.splice k prev next).older b = some k :=
      (older_splice_of_notMem hbk hne).trans ((hl b k).mpr hb)
    exact hne (newer_splice_self.symm.trans ((h b k).mp hb'))
  · intro n hn b hb
    have hnk : n ≠ k := fun hk => hnext (hk ▸ hn)
    by_contra hne
    obtain ⟨hbk, hbp⟩ := not_or.mp hne
    have hb' : (l.splice k prev next).newer b = some n :=
      (newer_splice_of_notMem hbk hbp).trans ((hl n b).mp hb)
    have hn' := (older_splice_of_mem hnk hn).symm.trans ((h n b).mpr hb')
    exact hbk (Option.some.inj hn').symm
  · intro p hp b hb
    have hpk : p ≠ k := fun hk => hprev (hk ▸ hp)
    by_contra hne
    obtain ⟨hbk, hbn⟩ := not_or.mp hne
    have hb' : (l.splice k prev next).older b = some p :=
      (older_splice_of_notMem hbk hbn).trans ((hl b p).mpr hb)
    have hp' := (newer_splice_of_mem hpk hp).symm.trans ((h b p).mp hb')
    exact hbk (Option.some.inj hp').symm

end Splice

end Links

end Concurrency
