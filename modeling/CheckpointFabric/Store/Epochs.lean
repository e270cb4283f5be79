import CheckpointFabric.Concurrency.Table
import CheckpointFabric.Errors
import Mathlib.Algebra.Ring.Nat

/-!
# Coordinator epochs

A coordinator that starts claims an epoch of the store: one that it asks for, or the next one.
The store keeps the last epoch as a decimal text in its `meta` table.

A sequence of claims returns increasing epochs until the epoch that the store holds is the
largest number of 64 bits. From then on the next epoch is the same one again.

## Main results

* `epoch_put` — the text of an epoch stands for this epoch
* `claims_increase_iff` — exactly when the claims on a store increase
-/

set_option autoImplicit false

namespace CheckpointFabric

open Concurrency

/-- A row of the `meta` table. -/
structure MetaRow where
  key : String
  value : String
  deriving DecidableEq, Repr

abbrev MetaTable := Table MetaRow.key

/-- The table of a new store. -/
def MetaTable.fresh : MetaTable := Table.empty

/-- The characters after a plus sign. -/
def dropPlus : List Char → List Char
  | '+' :: digits => digits
  | digits => digits

/-- No digit is a plus sign. -/
theorem dropPlus_of_digits {digits : List Char} (h : digits.all Char.isDigit) :
    dropPlus digits = digits := by
  unfold dropPlus
  split
  · simp at h
  · rfl

/-- The number of 64 bits that a decimal text stands for; a leading plus sign is allowed. -/
def parseU64 (text : String) : Option UInt64 :=
  let digits := dropPlus text.toList
  if digits ≠ [] ∧ digits.all Char.isDigit ∧ Nat.ofDigitChars 10 digits 0 < 2 ^ 64 then
    some (UInt64.ofNat (Nat.ofDigitChars 10 digits 0))
  else none

/-- The next number, or the same one if there is no next one. -/
def saturatingSucc (n : UInt64) : UInt64 := UInt64.ofNat (min (n.toNat + 1) (2 ^ 64 - 1))

theorem toNat_saturatingSucc (n : UInt64) :
    (saturatingSucc n).toNat = min (n.toNat + 1) (2 ^ 64 - 1) :=
  UInt64.toNat_ofNat_of_lt' (show min (n.toNat + 1) (2 ^ 64 - 1) < 2 ^ 64 by omega)

namespace MetaTable

variable (t : MetaTable)

/-- Insert a row, or change the one with this key. -/
def put (key value : String) : MetaTable :=
  if h : t.get key = none then t.insert ⟨key, value⟩ h
  else t.modify key (fun _ => ⟨key, value⟩) fun _ _ => rfl

/-- The epoch that the store holds. -/
def storedEpoch : UInt64 :=
  (((t.get "coordinator_epoch").map MetaRow.value).bind parseU64).getD 0

/-- Claim the requested epoch, which must be a later one, or the next one. -/
def claimCoordinatorEpoch (requested : Option UInt64) : FabricResult UInt64 × MetaTable :=
  let stored := t.storedEpoch
  let epoch : FabricResult UInt64 :=
    match requested with
    | some v =>
      if stored < v then .ok v
      else .error (.staleCoordinatorEpoch (saturatingSucc stored).toNat v.toNat)
    | none => .ok (saturatingSucc stored)
  match epoch with
  | .ok epoch => (.ok epoch, t.put "coordinator_epoch" (toString epoch.toNat))
  | .error e => (.error e, t)

end MetaTable

/-- A claim, and the failure of the database that it meets. -/
structure EpochClaim where
  requested : Option UInt64
  fault : Option FabricError := none

/-- The claim asks for the next epoch and reaches the database. -/
def EpochClaim.Automatic (c : EpochClaim) : Prop := c.requested = none ∧ c.fault = none

namespace MetaTable

/-- A claim is one transaction: when the database fails, nothing happens. -/
def claim (t : MetaTable) (c : EpochClaim) : FabricResult UInt64 × MetaTable :=
  match c.fault with
  | some e => (.error e, t)
  | none => t.claimCoordinatorEpoch c.requested

/-- The store after a sequence of claims. -/
def afterClaims (t : MetaTable) : List EpochClaim → MetaTable
  | [] => t
  | c :: claims => (t.claim c).2.afterClaims claims

/-- The epochs that a sequence of claims returns. -/
def returned (t : MetaTable) : List EpochClaim → List UInt64
  | [] => []
  | c :: claims => (t.claim c).1.toOption.toList ++ (t.claim c).2.returned claims

section Claims

variable {t : MetaTable} {c : EpochClaim}

theorem get_put (key value : String) : (t.put key value).get key = some ⟨key, value⟩ := by
  unfold put
  split
  · rw [Table.get_insert, if_pos rfl]
  · rename_i h
    obtain ⟨row, hrow⟩ := Option.ne_none_iff_exists'.mp h
    rw [Table.get_modify_self, hrow]
    rfl

theorem parseU64_toString (n : UInt64) : parseU64 (toString n.toNat) = some n := by
  have hdigits : (toString n.toNat).toList = Nat.toDigits 10 n.toNat := Nat.toList_repr
  have hall : (Nat.toDigits 10 n.toNat).all Char.isDigit :=
    List.all_eq_true.mpr fun ch hch => Nat.isDigit_of_mem_toDigits (by decide) (by decide) hch
  have hvalue : Nat.ofDigitChars 10 (Nat.toDigits 10 n.toNat) 0 = n.toNat :=
    Nat.ofDigitChars_ten_toDigits
  have hnonempty : Nat.toDigits 10 n.toNat ≠ [] := Nat.toDigits_ne_nil
  have hbound : Nat.ofDigitChars 10 (Nat.toDigits 10 n.toNat) 0 < 2 ^ 64 := by
    rw [hvalue]
    exact n.toNat_lt
  unfold parseU64
  rw [hdigits, dropPlus_of_digits hall, if_pos ⟨hnonempty, hall, hbound⟩, hvalue,
    UInt64.ofNat_toNat]

theorem epoch_put (epoch : UInt64) :
    (t.put "coordinator_epoch" (toString epoch.toNat)).storedEpoch = epoch := by
  rw [storedEpoch, get_put]
  change (parseU64 (toString epoch.toNat)).getD 0 = epoch
  rw [parseU64_toString]
  rfl

/-- What a claim does: it fails and the store stays, or the store holds the epoch it returns, and
that is a later one unless the claim asks for the next epoch of the largest one. -/
theorem claim_cases (t : MetaTable) (c : EpochClaim) :
    (∃ e, t.claim c = (.error e, t) ∧ ¬ c.Automatic) ∨
      ∃ epoch t', t.claim c = (.ok epoch, t') ∧ t'.storedEpoch = epoch ∧
        (t.storedEpoch < epoch ↔ (c.Automatic → t.storedEpoch.toNat < 2 ^ 64 - 1)) := by
  obtain ⟨requested, fault⟩ := c
  cases fault with
  | some e => exact .inl ⟨e, rfl, fun h => by cases h.2⟩
  | none =>
    cases requested with
    | some v =>
      have hexplicit : ¬ EpochClaim.Automatic ⟨some v, none⟩ := fun h => by cases h.1
      by_cases hv : t.storedEpoch < v
      · have hclaim : t.claim ⟨some v, none⟩ =
            (.ok v, t.put "coordinator_epoch" (toString v.toNat)) := by
          simp only [claim, claimCoordinatorEpoch, if_pos hv]
        exact .inr ⟨v, _, hclaim, epoch_put v, iff_of_true hv fun h => absurd h hexplicit⟩
      · refine .inl ⟨.staleCoordinatorEpoch (saturatingSucc t.storedEpoch).toNat v.toNat, ?_,
          hexplicit⟩
        simp only [claim, claimCoordinatorEpoch, if_neg hv]
    | none =>
      have hclaim : t.claim ⟨none, none⟩ = (.ok (saturatingSucc t.storedEpoch),
          t.put "coordinator_epoch" (toString (saturatingSucc t.storedEpoch).toNat)) := rfl
      refine .inr ⟨_, _, hclaim, epoch_put _, ?_⟩
      rw [UInt64.lt_iff_toNat_lt, toNat_saturatingSucc]
      constructor
      · intro hlt _
        omega
      · intro hauto
        have hlt := hauto ⟨rfl, rfl⟩
        omega

/-- The claims return increasing epochs, all of them later than the one that the store holds, which
is the last one returned before. -/
def Increasing (t : MetaTable) (claims : List EpochClaim) : Prop :=
  (t.storedEpoch :: t.returned claims).Pairwise (· < ·)

/-- Every automatic claim meets an epoch that has a next one. -/
def NeverExhausted (t : MetaTable) (claims : List EpochClaim) : Prop :=
  ∀ earlier c later, claims = earlier ++ c :: later → c.Automatic →
    (t.afterClaims earlier).storedEpoch.toNat < 2 ^ 64 - 1

theorem increasing_nil : t.Increasing [] := List.pairwise_singleton _ _

theorem neverExhausted_nil : t.NeverExhausted [] := by
  intro earlier c later heq
  simp at heq

theorem increasing_cons_error {e : FabricError} {claims : List EpochClaim}
    (h : t.claim c = (.error e, t)) : t.Increasing (c :: claims) ↔ t.Increasing claims := by
  rw [Increasing, returned, h]
  rfl

theorem increasing_cons_ok {epoch : UInt64} {t' : MetaTable} {claims : List EpochClaim}
    (h : t.claim c = (.ok epoch, t')) (hstored : t'.storedEpoch = epoch) :
    t.Increasing (c :: claims) ↔ t.storedEpoch < epoch ∧ t'.Increasing claims := by
  rw [Increasing, returned, h, Increasing, hstored]
  change List.Pairwise (· < ·) (t.storedEpoch :: epoch :: t'.returned claims) ↔ _
  rw [List.pairwise_cons]
  constructor
  · rintro ⟨hall, hrest⟩
    exact ⟨hall epoch (.head _), hrest⟩
  · rintro ⟨hlt, hrest⟩
    refine ⟨fun later hlater => ?_, hrest⟩
    rcases List.mem_cons.mp hlater with rfl | hlater
    · exact hlt
    · exact UInt64.lt_trans hlt (List.rel_of_pairwise_cons hrest hlater)

theorem neverExhausted_cons {claims : List EpochClaim} :
    t.NeverExhausted (c :: claims) ↔
      (c.Automatic → t.storedEpoch.toNat < 2 ^ 64 - 1) ∧ (t.claim c).2.NeverExhausted claims := by
  constructor
  · intro h
    refine ⟨h [] c claims rfl, fun earlier c' later heq => ?_⟩
    exact h (c :: earlier) c' later (by rw [heq, List.cons_append])
  · rintro ⟨hhead, hrest⟩ earlier c' later heq
    cases earlier with
    | nil =>
      obtain ⟨rfl, -⟩ := List.cons.inj heq
      exact hhead
    | cons first earlier =>
      obtain ⟨rfl, hclaims⟩ := List.cons.inj heq
      exact hrest earlier c' later hclaims

end Claims

end MetaTable

/-- The claims on a store return increasing epochs iff none of them asks for the next epoch while
the store holds the largest one. -/
theorem claims_increase_iff (t : MetaTable) (claims : List EpochClaim) :
    t.Increasing claims ↔ t.NeverExhausted claims := by
  induction claims generalizing t with
  | nil => exact iff_of_true MetaTable.increasing_nil MetaTable.neverExhausted_nil
  | cons c claims ih =>
    rw [MetaTable.neverExhausted_cons]
    rcases t.claim_cases c with ⟨e, hclaim, hexplicit⟩ | ⟨epoch, t', hclaim, hstored, hlater⟩
    · rw [MetaTable.increasing_cons_error hclaim, ih, hclaim]
      exact (and_iff_right fun h => absurd h hexplicit).symm
    · rw [MetaTable.increasing_cons_ok hclaim hstored, ih, hclaim]
      exact and_congr_left' hlater

/-- The largest epoch there is. -/
def maxEpoch : UInt64 := UInt64.ofNat (2 ^ 64 - 1)

/-- The largest epoch can be claimed, and then the next claim returns it again. -/
theorem epoch_claimed_twice :
    MetaTable.fresh.returned [⟨some maxEpoch, none⟩, ⟨none, none⟩] = [maxEpoch, maxEpoch] ∧
      ¬ MetaTable.fresh.Increasing [⟨some maxEpoch, none⟩, ⟨none, none⟩] := by
  have hreturned : MetaTable.fresh.returned [⟨some maxEpoch, none⟩, ⟨none, none⟩] =
      [maxEpoch, maxEpoch] := by
    decide +kernel
  refine ⟨hreturned, fun hincreasing => ?_⟩
  rw [MetaTable.Increasing, hreturned] at hincreasing
  have hlater := (List.pairwise_cons.mp (List.pairwise_cons.mp hincreasing).2).1
  exact UInt64.lt_irrefl _ (hlater _ (.head _))

end CheckpointFabric
