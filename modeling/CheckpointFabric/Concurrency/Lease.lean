import Mathlib.Data.Nat.Notation

/-!
# Leases under fencing tokens

A lease says who may act, under which token, and in which epoch. It changes in
three ways: the epoch advances, and then anyone may hold it or no one; the holder
is removed; or within the epoch it is granted under a token that was never used.

A grant that has ended never comes back, because neither its token nor its epoch
does.

## Main definitions

* `Lease`, `Lease.Grants` — the holder of a lease
* `Lease.Step` — the changes a lease undergoes
* `Lease.Ended` — a grant whose token is used up and which is not in force

## Main results

* `Lease.Ended.step` — a grant that has ended stays ended
-/

set_option autoImplicit false

namespace Concurrency

/-- Who holds the lease, under which token, and in which epoch. -/
structure Lease (Holder : Type) where
  epoch : ℕ
  holder : Option (Holder × ℕ)

namespace Lease

variable {Holder : Type} {l l' : Lease Holder} {used used' : ℕ}

/-- The lease is `h`'s under token `token` in epoch `epoch`. -/
def Grants (l : Lease Holder) (h : Holder) (token epoch : ℕ) : Prop :=
  l.epoch = epoch ∧ l.holder = some (h, token)

/-- How a lease changes while the tokens below `used` are used up. -/
inductive Step (used : ℕ) : Lease Holder → Lease Holder → Prop
  | keep {l : Lease Holder} : Step used l l
  | advance {l l' : Lease Holder} : l.epoch < l'.epoch → Step used l l'
  | release {l : Lease Holder} : Step used l ⟨l.epoch, none⟩
  | grant {l : Lease Holder} (h : Holder) {token : ℕ} : used ≤ token →
    Step used l ⟨l.epoch, some (h, token)⟩

theorem Step.epoch_le (h : Step used l l') : l.epoch ≤ l'.epoch := by
  cases h with
  | keep => exact Nat.le_refl _
  | advance h => exact Nat.le_of_lt h
  | release => exact Nat.le_refl _
  | grant => exact Nat.le_refl _

/-- The grant was made, and is not in force. -/
structure Ended (h : Holder) (token epoch used : ℕ) (l : Lease Holder) : Prop where
  token_lt : token < used
  epoch_le : epoch ≤ l.epoch
  not_grants : ¬ l.Grants h token epoch

/-- A grant that has ended stays ended. -/
theorem Ended.step {h : Holder} {token epoch : ℕ} (hended : l.Ended h token epoch used)
    (hstep : Step used l l') (hused : used ≤ used') : l'.Ended h token epoch used' where
  token_lt := Nat.lt_of_lt_of_le hended.token_lt hused
  epoch_le := Nat.le_trans hended.epoch_le hstep.epoch_le
  not_grants := by
    rintro ⟨hepoch, hholder⟩
    cases hstep with
    | keep => exact hended.not_grants ⟨hepoch, hholder⟩
    | advance hlt =>
      -- The epoch of the grant is behind the lease for good.
      have := hended.epoch_le
      omega
    | release => simp at hholder
    | grant h' hfresh =>
      have htoken := hended.token_lt
      simp only [Option.some.injEq, Prod.mk.injEq] at hholder
      omega

end Lease

end Concurrency
