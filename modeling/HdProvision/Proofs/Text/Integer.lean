import Mathlib.Algebra.Order.Ring.Nat
import Mathlib.Data.List.Induction
import HdProvision.Json.Reader

/-!
# Decimal text of numbers

The digits of a number spell it, start with a zero only for zero, and are as many as the number asks
for.
-/

set_option autoImplicit false

namespace HdProvision.Text.Integer

open Json.Reader (isDigit digitsValue)

/-- The character of a decimal digit. -/
def digitChar (d : Nat) : Char := Char.ofNat (48 + d)

theorem toNat_digitChar : ∀ d, d < 10 → (digitChar d).toNat = 48 + d := by decide

theorem isDigit_digitChar {d : Nat} (h : d < 10) : isDigit (digitChar d) = true := by
  simp only [isDigit, toNat_digitChar d h, Bool.and_eq_true, decide_eq_true_eq]
  omega

theorem digitsRev_of_lt {fuel n : Nat} (h : n < fuel) : digitsRev fuel n = digitsRev (n + 1) n := by
  induction n using Nat.strongRecOn generalizing fuel with
  | _ n ih =>
    obtain ⟨f, rfl⟩ : ∃ f, fuel = f + 1 := ⟨fuel - 1, by omega⟩
    rw [digitsRev, digitsRev]
    split
    · rfl
    · rw [ih (n / 10) (by omega) (show n / 10 < f by omega),
        ih (n / 10) (by omega) (show n / 10 < n by omega)]

/-- The last digit stands behind the digits of the tenth part. -/
theorem natChars_of_le {n : Nat} (h : 10 ≤ n) :
    natChars n = natChars (n / 10) ++ [digitChar (n % 10)] := by
  rw [natChars, digitsRev, if_neg (by omega), List.reverse_cons,
    digitsRev_of_lt (show n / 10 < n by omega), natChars, digitChar]

theorem natChars_of_lt {n : Nat} (h : n < 10) : natChars n = [digitChar n] := by
  rw [natChars, digitsRev, if_pos h, Nat.mod_eq_of_lt h]
  rfl

theorem natChars_induction {P : Nat → List Char → Prop}
    (small : ∀ n, n < 10 → P n [digitChar n])
    (large : ∀ n, 10 ≤ n → P (n / 10) (natChars (n / 10)) →
      P n (natChars (n / 10) ++ [digitChar (n % 10)])) (n : Nat) : P n (natChars n) := by
  induction n using Nat.strongRecOn with
  | _ n ih =>
    by_cases h : n < 10
    · rw [natChars_of_lt h]
      exact small n h
    · rw [natChars_of_le (by omega)]
      exact large n (by omega) (ih (n / 10) (by omega))

theorem isDigit_natChars (n : Nat) : ∀ c ∈ natChars n, isDigit c = true := by
  apply natChars_induction (P := fun _ cs => ∀ c ∈ cs, isDigit c = true)
  · intro n hn c hc
    rw [List.mem_singleton.mp hc]
    exact isDigit_digitChar hn
  · intro n _ ih c hc
    rcases List.mem_append.mp hc with hc | hc
    · exact ih c hc
    · rw [List.mem_singleton.mp hc]
      exact isDigit_digitChar (Nat.mod_lt _ (by decide))

theorem digitsValue_append_singleton (cs : List Char) (c : Char) :
    digitsValue (cs ++ [c]) = 10 * digitsValue cs + (c.toNat - 48) := by
  rw [digitsValue, List.foldl_append, ← digitsValue]
  rfl

theorem digitsValue_lt {ds : List Char} (h : ∀ c ∈ ds, isDigit c = true) :
    digitsValue ds < 10 ^ ds.length := by
  induction ds using List.reverseRecOn with
  | nil => decide
  | append_singleton ds d ih =>
    have hd := h d (by simp)
    have hds := ih fun c hc => h c (by simp [hc])
    simp only [isDigit, Bool.and_eq_true, decide_eq_true_eq] at hd
    rw [digitsValue_append_singleton, List.length_append, List.length_singleton,
      pow_succ]
    omega

/-- Zeros behind digits multiply their number by a power of ten. -/
theorem digitsValue_append_zeros (cs : List Char) (z : Nat) :
    digitsValue (cs ++ List.replicate z '0') = digitsValue cs * 10 ^ z := by
  induction z with
  | zero => simp
  | succ z ih =>
    have hzero : '0'.toNat - 48 = 0 := rfl
    rw [List.replicate_succ', ← List.append_assoc, digitsValue_append_singleton, ih, hzero,
      Nat.add_zero, Nat.pow_succ, Nat.mul_comm 10, Nat.mul_assoc]

/-- Zeros in front of digits change nothing. -/
theorem digitsValue_zeros_append (z : Nat) (cs : List Char) :
    digitsValue (List.replicate z '0' ++ cs) = digitsValue cs := by
  rw [digitsValue, List.foldl_append, ← digitsValue]
  have hzeros := digitsValue_append_zeros [] z
  rw [List.nil_append] at hzeros
  rw [hzeros, digitsValue, List.foldl_nil, Nat.zero_mul, digitsValue]

theorem digitsValue_natChars (n : Nat) : digitsValue (natChars n) = n := by
  apply natChars_induction (P := fun n cs => digitsValue cs = n)
  · intro n hn
    have := digitsValue_append_singleton [] (digitChar n)
    rw [List.nil_append, toNat_digitChar n hn] at this
    rw [this, digitsValue, List.foldl_nil]
    omega
  · intro n _ ih
    rw [digitsValue_append_singleton, ih, toNat_digitChar _ (Nat.mod_lt _ (by decide))]
    omega

/-- The digits of a number above zero do not start with a zero. -/
theorem natChars_cons {n : Nat} (h : 0 < n) :
    ∃ d ds, natChars n = d :: ds ∧ isDigit d = true ∧ d ≠ '0' := by
  have key : ∀ m, 0 < m → ∃ d ds, natChars m = d :: ds ∧ d ≠ '0' := by
    apply natChars_induction (P := fun m cs => 0 < m → ∃ d ds, cs = d :: ds ∧ d ≠ '0')
    · intro m hm hpos
      refine ⟨_, _, rfl, fun hzero => ?_⟩
      have := toNat_digitChar m hm
      rw [hzero] at this
      simp at this
      omega
    · intro m hm ih _
      obtain ⟨d, ds, heq, hd⟩ := ih (by omega)
      exact ⟨d, ds ++ [_], by rw [heq, List.cons_append], hd⟩
  obtain ⟨d, ds, heq, hd⟩ := key n h
  exact ⟨d, ds, heq, isDigit_natChars n d (by rw [heq]; exact List.mem_cons_self), hd⟩

/-- Digits that do not start with a zero. -/
structure Leads (cs : List Char) : Prop where
  digits : ∀ c ∈ cs, isDigit c = true
  head : ∃ d ds, cs = d :: ds ∧ d ≠ '0'

theorem leads_natChars {n : Nat} (h : 0 < n) : Leads (natChars n) := by
  obtain ⟨d, ds, heq, -, hd⟩ := natChars_cons h
  exact ⟨isDigit_natChars n, d, ds, heq, hd⟩

theorem natChars_ne_nil (n : Nat) : natChars n ≠ [] := by
  apply natChars_induction (P := fun _ cs => cs ≠ [])
  · simp
  · simp

theorem pow_length_natChars_le {n : Nat} (h : 0 < n) : 10 ^ ((natChars n).length - 1) ≤ n := by
  have key : ∀ m, 0 < m → 10 ^ ((natChars m).length - 1) ≤ m := by
    apply natChars_induction (P := fun m cs => 0 < m → 10 ^ (cs.length - 1) ≤ m)
    · intro m _ hpos
      exact hpos
    · intro m hm ih _
      have hne : 0 < (natChars (m / 10)).length := List.length_pos_iff.mpr (natChars_ne_nil _)
      have hlength : (natChars (m / 10)).length + 1 - 1 = ((natChars (m / 10)).length - 1) + 1 := by
        omega
      have hdiv := ih (by omega)
      rw [List.length_append, List.length_singleton, hlength, pow_succ]
      omega
  exact key n h

/-- A number below a power of ten has no more digits than the power says. -/
theorem length_natChars_le {n k : Nat} (hk : 0 < k) (h : n < 10 ^ k) : (natChars n).length ≤ k := by
  by_cases hn : n = 0
  · subst hn
    exact hk
  · by_contra hlt
    have hle := pow_length_natChars_le (Nat.pos_of_ne_zero hn)
    have hmono : 10 ^ k ≤ 10 ^ ((natChars n).length - 1) :=
      Nat.pow_le_pow_right (by decide) (by omega)
    omega

end HdProvision.Text.Integer
