import Mathlib.Algebra.Ring.Nat
import Mathlib.Data.List.Induction
import Mathlib.Data.Nat.Notation

/-!
# Numbers in network byte order

A number below `256 ^ width` is `width` bytes, the most significant one first.

## Main results

* `fromBytes_toBytes`, `toBytes_fromBytes` — reading and writing undo each other
* `length_toBytes` — a word has its width
-/

set_option autoImplicit false

namespace Wire

/-- The last `width` bytes of a number. -/
def toBytes : (width : ℕ) → ℕ → List UInt8
  | 0, _ => []
  | width + 1, n => toBytes width (n / 256) ++ [UInt8.ofNat n]

/-- The number that bytes stand for. -/
def fromBytes (bytes : List UInt8) : ℕ := bytes.foldl (fun n b => 256 * n + b.toNat) 0

@[simp] theorem length_toBytes (width n : ℕ) : (toBytes width n).length = width := by
  induction width generalizing n with
  | zero => rfl
  | succ width ih => rw [toBytes, List.length_append, ih, List.length_singleton]

theorem fromBytes_append_singleton (bytes : List UInt8) (b : UInt8) :
    fromBytes (bytes ++ [b]) = 256 * fromBytes bytes + b.toNat := by
  rw [fromBytes, List.foldl_append]
  rfl

theorem fromBytes_toBytes {width n : ℕ} (h : n < 256 ^ width) :
    fromBytes (toBytes width n) = n := by
  induction width generalizing n with
  | zero =>
    have hzero : n = 0 := by simpa using h
    rw [hzero]
    rfl
  | succ width ih =>
    have hquot : n / 256 < 256 ^ width := by
      apply Nat.div_lt_of_lt_mul
      rwa [← Nat.pow_succ']
    rw [toBytes, fromBytes_append_singleton, ih hquot, UInt8.toNat_ofNat']
    exact Nat.div_add_mod n 256

theorem toBytes_fromBytes (bytes : List UInt8) : toBytes bytes.length (fromBytes bytes) = bytes := by
  induction bytes using List.reverseRecOn with
  | nil => rfl
  | append_singleton bytes b ih =>
    have hlt := b.toNat_lt
    have hlow : UInt8.ofNat (256 * fromBytes bytes + b.toNat) = b := by
      rw [← UInt8.toNat_inj, UInt8.toNat_ofNat']
      omega
    have hhigh : (256 * fromBytes bytes + b.toNat) / 256 = fromBytes bytes := by omega
    rw [List.length_append, List.length_singleton, toBytes, fromBytes_append_singleton, hlow, hhigh,
      ih]

theorem fromBytes_lt (bytes : List UInt8) : fromBytes bytes < 256 ^ bytes.length := by
  induction bytes using List.reverseRecOn with
  | nil => exact Nat.one_pos
  | append_singleton bytes b ih =>
    have hlt := b.toNat_lt
    rw [fromBytes_append_singleton, List.length_append, List.length_singleton, Nat.pow_succ]
    omega

end Wire
