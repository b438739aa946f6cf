import Mathlib.Algebra.Order.Ring.Nat
import Mathlib.Tactic.Ring
import HdProvision.Bytes.Basic

/-!
# Octet strings as numbers

A number is below the power that its width gives, and writing it in that width gives the string
back, in either byte order; a number below that power is read back from what it is written as.
-/

set_option autoImplicit false

namespace HdProvision.Bytes

theorem toNatLE_lt (bs : Bytes) : toNatLE bs < 256 ^ bs.length := by
  induction bs with
  | nil => simp [toNatLE]
  | cons b bs ih =>
    have hb : b.toNat < 256 := b.toNat_lt
    rw [toNatLE, List.length_cons, pow_succ]
    omega

theorem ofNatLE_toNatLE (bs : Bytes) : ofNatLE bs.length (toNatLE bs) = bs := by
  induction bs with
  | nil => rfl
  | cons b bs ih =>
    have hb : b.toNat < 256 := b.toNat_lt
    have hdiv : (b.toNat + 256 * toNatLE bs) / 256 = toNatLE bs := by omega
    have hmod : UInt8.ofNat (b.toNat + 256 * toNatLE bs) = b := by
      rw [← UInt8.toNat_inj, UInt8.toNat_ofNat']
      omega
    rw [toNatLE, List.length_cons, ofNatLE, hdiv, hmod, ih]

/-- A number that fits its width is read back. -/
theorem toNatLE_ofNatLE {width n : Nat} (h : n < 256 ^ width) : toNatLE (ofNatLE width n) = n := by
  induction width generalizing n with
  | zero =>
    rw [pow_zero, Nat.lt_one_iff] at h
    rw [h]
    rfl
  | succ w ih =>
    rw [pow_succ] at h
    rw [ofNatLE, toNatLE, ih (by omega), UInt8.toNat_ofNat']
    omega

theorem toNatBE_eq (bs : Bytes) : toNatBE bs = toNatLE bs.reverse := by
  have h : ∀ cs : Bytes, toNatBE cs.reverse = toNatLE cs := by
    intro cs
    induction cs with
    | nil => rfl
    | cons b cs ih =>
      rw [toNatBE, List.reverse_cons, List.foldl_append, ← toNatBE, ih, toNatLE]
      simp only [List.foldl_cons, List.foldl_nil]
      ring
  rw [← h bs.reverse, List.reverse_reverse]

theorem toNatBE_lt (bs : Bytes) : toNatBE bs < 256 ^ bs.length := by
  rw [toNatBE_eq, ← List.length_reverse]
  exact toNatLE_lt _

theorem ofNatBE_toNatBE (bs : Bytes) : ofNatBE bs.length (toNatBE bs) = bs := by
  rw [ofNatBE, toNatBE_eq, ← List.length_reverse, ofNatLE_toNatLE, List.reverse_reverse]

theorem toNatBE_ofNatBE {width n : Nat} (h : n < 256 ^ width) : toNatBE (ofNatBE width n) = n := by
  rw [toNatBE_eq, ofNatBE, List.reverse_reverse, toNatLE_ofNatLE h]

end HdProvision.Bytes
