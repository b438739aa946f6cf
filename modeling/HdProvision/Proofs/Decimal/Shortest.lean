import Mathlib.Data.List.TakeWhile
import Mathlib.Tactic.Ring
import HdProvision.Decimal.Shortest
import HdProvision.Proofs.Decimal.Rounding
import HdProvision.Proofs.Text.Integer

/-!
# The shortest text

The interval that rounds to a number of 53 bits is wider than a step of its seventeenth digit, so a
text for it is found. The digits found start with no zero, and what they spell lies in the interval
and is rounded to the number again.
-/

set_option autoImplicit false

namespace HdProvision.Decimal

open Binary64 (Canonical)
open Json.Reader (isDigit digitsValue)
open Text.Integer (natChars)

namespace Interval

variable {i : Interval}

/-- The ends lie strictly around a positive value. -/
structure Proper (i : Interval) : Prop where
  low_pos : 0 < i.low
  low_lt : i.low < i.value
  lt_high : i.value < i.high
  unit_pos : 0 < i.unit

theorem contains_of_between {x : Nat} (hlow : i.low < x) (hhigh : x < i.high) :
    i.contains x = true := by
  rw [contains]
  split
  · simp [hlow.le, hhigh.le]
  · simp [hlow, hhigh]

/-- A unit that is shorter than the interval has a multiple in it, next to the value. -/
theorem multiple?_isSome (h : i.Proper) (hunit : i.unit < i.high - i.low) :
    i.multiple?.isSome = true := by
  have hdiv := Nat.div_add_mod i.value i.unit
  have hmod := Nat.mod_lt i.value h.unit_pos
  have hlow := h.low_lt
  have hhigh := h.lt_high
  rw [Nat.mul_comm] at hdiv
  have hnext : (i.value / i.unit + 1) * i.unit = i.value / i.unit * i.unit + i.unit := by ring
  rw [multiple?]
  by_cases hup : (i.value / i.unit + 1) * i.unit < i.high
  · have : i.contains ((i.value / i.unit + 1) * i.unit) = true :=
      contains_of_between (by omega) hup
    simp only [this, Bool.and_true, if_true]
    split <;> rfl
  · have : i.contains (i.value / i.unit * i.unit) = true :=
      contains_of_between (by omega) (by omega)
    simp only [this, Bool.true_and, if_true]
    split <;> rfl

/-- The multiple is not zero, because zero lies outside. -/
theorem multiple?_pos (h : 0 < i.low) {a : Nat} (ha : i.multiple? = some a) : 0 < a := by
  have hzero : i.contains 0 = false := by
    rw [contains]
    split
    · simp
      omega
    · simp
  have hle := Binary64.le_nearest i.value i.unit
  rw [multiple?] at ha
  generalize i.value / i.unit = q at ha hle
  have hq : i.contains (q * i.unit) = true → 0 < q := by
    intro hdown
    by_contra hzero'
    rw [Nat.eq_zero_of_not_pos hzero', Nat.zero_mul, hzero] at hdown
    cases hdown
  split at ha
  · next hboth =>
    cases ha
    exact (hq (Bool.and_eq_true_iff.mp hboth).1).trans_le hle
  · split at ha
    · next hdown =>
      cases ha
      exact hq hdown
    · split at ha
      · cases ha
        exact Nat.succ_pos q
      · cases ha

theorem contains_of_multiple? {a : Nat} (ha : i.multiple? = some a) :
    i.contains (a * i.unit) = true := by
  rw [multiple?] at ha
  split at ha
  · next hboth =>
    obtain ⟨hdown, hup⟩ := Bool.and_eq_true_iff.mp hboth
    cases ha
    rcases Binary64.nearest_cases i.value i.unit with h | h <;> rwa [h]
  · split at ha
    · next hdown =>
      cases ha
      exact hdown
    · split at ha
      · next hup =>
        cases ha
        exact hup
      · cases ha

theorem leadingZeros_spec (fuel : Nat) (i : Interval) (h : i.unit ≤ i.value * 10 ^ fuel) :
    i.unit ≤ i.value * 10 ^ i.leadingZeros fuel := by
  induction fuel generalizing i with
  | zero => exact h
  | succ fuel ih =>
    rw [leadingZeros]
    split
    · rw [pow_zero, Nat.mul_one]
      assumption
    · have hstep := ih { i with value := 10 * i.value } (by
        rw [pow_succ] at h
        calc
          i.unit ≤ i.value * (10 ^ fuel * 10) := h
          _ = 10 * i.value * 10 ^ fuel := by ring)
      calc
        i.unit ≤ 10 * i.value * 10 ^ leadingZeros { i with value := 10 * i.value } fuel := hstep
        _ = i.value * 10 ^ (1 + leadingZeros { i with value := 10 * i.value } fuel) := by ring

/-- Scaled to its seventeenth digit, the value has at least 10 ^ 16 units. -/
theorem le_value_scale (h : 0 < i.unit) (hsmall : i.unit ≤ i.value * 10 ^ 400) :
    10 ^ 16 * (i.scale (17 - i.point)).unit ≤ (i.scale (17 - i.point)).value := by
  simp only [scale, Nat.pow_eq]
  by_cases hle : i.unit ≤ i.value
  · have hpos : 0 < i.value / i.unit := Nat.div_pos hle h
    have hdigits := Text.Integer.pow_length_natChars_le hpos
    have hvalue : 10 ^ ((natChars (i.value / i.unit)).length - 1) * i.unit ≤ i.value :=
      (Nat.mul_le_mul_right _ hdigits).trans (Nat.div_mul_le_self _ _)
    have hlength : 0 < (natChars (i.value / i.unit)).length :=
      List.length_pos_iff.mpr (Text.Integer.natChars_ne_nil _)
    rw [point, if_pos hle]
    generalize (natChars (i.value / i.unit)).length = k at hvalue hlength ⊢
    have hup : (17 - (k : Int)).toNat = 17 - k := by omega
    have hdown : (-(17 - (k : Int))).toNat = k - 17 := by omega
    rw [hup, hdown]
    calc
      10 ^ 16 * (i.unit * 10 ^ (k - 17)) = 10 ^ (16 + (k - 17)) * i.unit := by ring
      _ = 10 ^ ((k - 1) + (17 - k)) * i.unit := by
        rw [show 16 + (k - 17) = (k - 1) + (17 - k) by omega]
      _ = 10 ^ (k - 1) * i.unit * 10 ^ (17 - k) := by ring
      _ ≤ i.value * 10 ^ (17 - k) := Nat.mul_le_mul_right _ hvalue
  · have hzeros := leadingZeros_spec 400 i hsmall
    rw [point, if_neg hle]
    generalize i.leadingZeros 400 = z at hzeros ⊢
    have hup : (17 - (1 - (z : Int))).toNat = 16 + z := by omega
    have hdown : (-(17 - (1 - (z : Int)))).toNat = 0 := by omega
    rw [hup, hdown]
    calc
      10 ^ 16 * (i.unit * 10 ^ 0) = 10 ^ 16 * i.unit := by ring
      _ ≤ 10 ^ 16 * (i.value * 10 ^ z) := Nat.mul_le_mul_left _ hzeros
      _ = i.value * 10 ^ (16 + z) := by ring

theorem proper_scale (h : i.Proper) (places : Int) : (i.scale places).Proper := by
  have hup : 0 < Nat.pow 10 places.toNat := Nat.pow_pos (by decide)
  have hdown : 0 < Nat.pow 10 (-places).toNat := Nat.pow_pos (by decide)
  exact ⟨Nat.mul_pos h.low_pos hup, Nat.mul_lt_mul_of_pos_right h.low_lt hup,
    Nat.mul_lt_mul_of_pos_right h.lt_high hup, Nat.mul_pos h.unit_pos hdown⟩

variable {m e : Nat}

theorem proper_ofFinite (hm : 0 < m) : (ofFinite m e).Proper := by
  have he : 0 < 2 ^ e := Nat.two_pow_pos e
  refine ⟨?_, ?_, ?_, show 0 < 4 <<< 1074 by decide⟩ <;> simp only [ofFinite, Nat.shiftLeft_eq]
  · exact Nat.mul_pos (by split <;> omega) he
  · exact Nat.mul_lt_mul_of_pos_right (by split <;> omega) he
  · exact Nat.mul_lt_mul_of_pos_right (by omega) he

theorem two_pow_le_ten_pow {k places : Nat} (h : k ≤ 3 * places) : 2 ^ k ≤ 10 ^ places := by
  calc
    2 ^ k ≤ 2 ^ (3 * places) := Nat.pow_le_pow_right (by decide) h
    _ = 8 ^ places := by rw [Nat.pow_mul]
    _ ≤ 10 ^ places := Nat.pow_le_pow_left (by decide) places

theorem unit_ofFinite_le {places : Nat} (h : 1076 ≤ 3 * places) :
    (ofFinite m e).unit ≤ 10 ^ places := by
  have hshift : ∀ k, 4 <<< k = 2 ^ (k + 2) := by
    intro k
    rw [Nat.shiftLeft_eq, Nat.pow_add, Nat.mul_comm]
  exact (hshift 1074).trans_le (two_pow_le_ten_pow h)

theorem unit_le_ofFinite (hm : 0 < m) {places : Nat} (h : 1076 ≤ 3 * places) :
    (ofFinite m e).unit ≤ (ofFinite m e).value * 10 ^ places :=
  (unit_ofFinite_le h).trans
    (Nat.le_mul_of_pos_left _ ((Nat.zero_le _).trans_lt (proper_ofFinite hm).low_lt))

/-- A step of the seventeenth digit is shorter than the interval. -/
theorem unit_lt_ofFinite (hm : 0 < m) (hlt : m < 2 ^ 53) {places : Int}
    (h : 10 ^ 16 * ((ofFinite m e).scale places).unit ≤ ((ofFinite m e).scale places).value) :
    ((ofFinite m e).scale places).unit <
      ((ofFinite m e).scale places).high - ((ofFinite m e).scale places).low := by
  have hmax : m < 9007199254740992 := hlt
  have hpos : 0 < 2 ^ e * 10 ^ places.toNat :=
    Nat.mul_pos (Nat.two_pow_pos e) (Nat.pow_pos (by decide))
  simp only [scale, ofFinite] at h ⊢
  generalize 4 <<< 1074 * Nat.pow 10 (-places).toNat = u at h ⊢
  simp only [Nat.shiftLeft_eq, Nat.pow_eq, Nat.mul_assoc] at h ⊢
  generalize 2 ^ e * 10 ^ places.toNat = p at h hpos ⊢
  have hvalue : m * p ≤ 9007199254740991 * p := Nat.mul_le_mul_right p (by omega)
  have hhigh : (4 * m + 2) * p = 4 * (m * p) + 2 * p := by ring
  split
  · next hleast =>
    simp only [Bool.and_eq_true, decide_eq_true_eq] at hleast
    have hm' : m = 4503599627370496 := hleast.1
    subst hm'
    omega
  · have hlow : (4 * m - 2) * p = 4 * (m * p) - 2 * p := by
      rw [Nat.sub_mul]
      ring_nf
    omega

theorem multiple?_ofFinite (hm : 0 < m) (hlt : m < 2 ^ 53) :
    ((ofFinite m e).scale (17 - (ofFinite m e).point)).multiple?.isSome = true := by
  have hproper := proper_ofFinite (e := e) hm
  exact multiple?_isSome (proper_scale hproper _)
    (unit_lt_ofFinite hm hlt (le_value_scale hproper.unit_pos (unit_le_ofFinite hm (by decide))))

theorem digitsFrom_eq (fuel n : Nat)
    (h : ∃ k, k < fuel ∧ (i.scale ((n + k : Nat) - i.point)).multiple?.isSome = true) :
    ∃ (n' a : Nat), (i.scale (n' - i.point)).multiple? = some a ∧
      i.digitsFrom fuel n = ⟨((natChars a).reverse.dropWhile (· = '0')).reverse,
        i.point + ((natChars a).length - n')⟩ := by
  induction fuel generalizing n with
  | zero =>
    obtain ⟨k, hk, -⟩ := h
    omega
  | succ fuel ih =>
    cases hm : (i.scale (n - i.point)).multiple? with
    | some a =>
      refine ⟨n, a, hm, ?_⟩
      rw [digitsFrom, hm]
    | none =>
      obtain ⟨k, hk, hsome⟩ := h
      obtain ⟨k', rfl⟩ : ∃ k', k = k' + 1 := by
        refine ⟨k - 1, ?_⟩
        have hne : k ≠ 0 := by
          rintro rfl
          rw [Nat.add_zero, hm] at hsome
          cases hsome
        omega
      obtain ⟨n', a, ha, hdigits⟩ := ih (n + 1) ⟨k', by omega, by
        rwa [show n + 1 + k' = n + (k' + 1) by omega]⟩
      refine ⟨n', a, ha, ?_⟩
      rw [digitsFrom, hm]
      exact hdigits

/-- A quotient that lies between the ends. -/
def Within (i : Interval) (num den : Nat) : Prop :=
  i.low * den ≤ num * i.unit ∧ num * i.unit ≤ i.high * den ∧
    (i.closed = false → i.low * den < num * i.unit ∧ num * i.unit < i.high * den)

/-- A number `n * 10 ^ places` that lies between the ends. -/
def Holds (i : Interval) (n : Nat) (places : Int) : Prop :=
  i.Within (n * 10 ^ places.toNat) (10 ^ (-places).toNat)

theorem Within.of_mul {num den k : Nat} (hk : 0 < k) (h : i.Within (num * k) (den * k)) :
    i.Within num den := by
  obtain ⟨hlow, hhigh, hopen⟩ := h
  have hnum : num * k * i.unit = num * i.unit * k := by ring
  simp only [hnum, ← Nat.mul_assoc] at hlow hhigh hopen
  refine ⟨Nat.le_of_mul_le_mul_right hlow hk, Nat.le_of_mul_le_mul_right hhigh hk, fun h => ?_⟩
  obtain ⟨hlow, hhigh⟩ := hopen h
  exact ⟨Nat.lt_of_mul_lt_mul_right hlow, Nat.lt_of_mul_lt_mul_right hhigh⟩

theorem Within.mul {num den : Nat} (h : i.Within num den) {k : Nat} (hk : 0 < k) :
    i.Within (num * k) (den * k) := by
  obtain ⟨hlow, hhigh, hopen⟩ := h
  have hnum : num * k * i.unit = num * i.unit * k := by ring
  simp only [Within, hnum, ← Nat.mul_assoc]
  refine ⟨Nat.mul_le_mul_right k hlow, Nat.mul_le_mul_right k hhigh, fun h => ?_⟩
  obtain ⟨hlow, hhigh⟩ := hopen h
  exact ⟨Nat.mul_lt_mul_of_pos_right hlow hk, Nat.mul_lt_mul_of_pos_right hhigh hk⟩

/-- Zeros behind the digits count like a larger exponent. -/
theorem holds_mul_pow (n z : Nat) (places : Int) :
    i.Holds (n * 10 ^ z) places ↔ i.Holds n (places + z) := by
  -- Both quotients are brought to the denominator that has the factors of both.
  have hnum : ∀ p q, places.toNat + z + q = (places + z).toNat + p →
      n * 10 ^ z * 10 ^ places.toNat * 10 ^ q = n * 10 ^ (places + z).toNat * 10 ^ p := by
    intro p q hpq
    calc
      n * 10 ^ z * 10 ^ places.toNat * 10 ^ q = n * 10 ^ (places.toNat + z + q) := by ring
      _ = n * 10 ^ ((places + z).toNat + p) := by rw [hpq]
      _ = n * 10 ^ (places + z).toNat * 10 ^ p := by ring
  have hsame : ∃ p q, places.toNat + z + q = (places + z).toNat + p ∧
      (-places).toNat + q = (-(places + z)).toNat + p :=
    ⟨(-places).toNat, (-(places + z)).toNat, by omega, by omega⟩
  obtain ⟨p, q, hpq, hden⟩ := hsame
  have hpow : ∀ k, 0 < 10 ^ k := fun k => Nat.pow_pos (by decide)
  rw [Holds, Holds]
  constructor
  · intro h
    have hmul := h.mul (hpow q)
    rw [hnum p q hpq, ← Nat.pow_add, hden, Nat.pow_add] at hmul
    exact hmul.of_mul (hpow p)
  · intro h
    have hmul := h.mul (hpow p)
    rw [← hnum p q hpq, ← Nat.pow_add, ← hden, Nat.pow_add] at hmul
    exact hmul.of_mul (hpow q)

theorem holds_of_contains {a : Nat} {places : Int}
    (h : (i.scale places).contains (a * (i.scale places).unit) = true) : i.Holds a (-places) := by
  have hnum : a * (i.unit * 10 ^ (-places).toNat) = a * 10 ^ (-places).toNat * i.unit := by ring
  simp only [contains, scale, Nat.pow_eq, hnum] at h
  rw [Holds, Int.neg_neg]
  split at h
  · next hclosed =>
    simp only [Bool.and_eq_true, decide_eq_true_eq] at h
    refine ⟨h.1, h.2, fun hopen => ?_⟩
    rw [hopen] at hclosed
    cases hclosed
  · simp only [Bool.and_eq_true, decide_eq_true_eq] at h
    exact ⟨h.1.le, h.2.le, fun _ => h⟩

theorem closed_ofFinite (m e : Nat) : (ofFinite m e).closed = false ↔ m % 2 = 1 := by
  simp only [ofFinite, decide_eq_false_iff_not]
  omega

/-- Every quotient between the ends is rounded to the number. -/
theorem ofQuotient_of_within (negative : Bool) (hm : Canonical m e) {num den : Nat}
    (hden : 0 < den) (h : (ofFinite m e).Within num den) :
    Binary64.ofQuotient negative num den = .finite negative m e := by
  obtain ⟨hlow, hhigh, hopen⟩ := h
  rw [closed_ofFinite] at hopen
  simp only [ofFinite] at hlow hhigh hopen
  have hunit : ∀ k, num * 4 <<< k = 4 * num <<< k := by
    intro k
    simp only [Nat.shiftLeft_eq]
    ring
  have hend : ∀ k, k <<< e * den = k * den <<< e := by
    intro k
    simp only [Nat.shiftLeft_eq]
    ring
  rw [hunit, hend] at hlow hhigh
  simp only [hunit, hend] at hopen
  have hstep : 0 < den <<< e := by
    rw [Nat.shiftLeft_eq]
    exact Nat.mul_pos hden (Nat.two_pow_pos e)
  by_cases hbelow : 0 < e ∧ num <<< 1074 < 2 ^ 52 * den <<< e
  · -- The quotient is below the numbers of this exponent, and next to the least of them.
    obtain ⟨hpos, hlt⟩ := hbelow
    have hleast : m = 2 ^ 52 := by
      refine Nat.le_antisymm (Nat.not_lt.mp fun hgt => ?_) (hm.le_mantissa hpos)
      have hmul : (2 ^ 52 + 1) * den <<< e ≤ m * den <<< e := Nat.mul_le_mul_right _ hgt
      have hne : ¬(decide (m = 1 <<< 52) && decide (0 < e)) = true := by
        rw [decide_eq_false (show m ≠ 1 <<< 52 from Nat.ne_of_gt hgt)]
        exact Bool.false_ne_true
      rw [if_neg hne, Nat.sub_mul, Nat.mul_assoc] at hlow
      omega
    obtain ⟨k, rfl⟩ : ∃ k, e = k + 1 := ⟨e - 1, by omega⟩
    have hdouble : den <<< (k + 1) = 2 * den <<< k := by
      simp only [Nat.shiftLeft_eq]
      ring
    subst hleast
    rw [hdouble] at hlow hlt
    rw [if_pos (by simp)] at hlow
    refine Binary64.ofQuotient_of_below negative hm.exponent_le hden ?_ ?_ <;> omega
  · -- The interval may be narrower below; half a step is enough here.
    have hends : (4 * m - 2) * den <<< e ≤
        (if (decide (m = 1 <<< 52) && decide (0 < e)) = true then 4 * m - 1 else 4 * m - 2) *
          den <<< e :=
      Nat.mul_le_mul_right _ (by split <;> omega)
    rw [Nat.sub_mul, Nat.mul_assoc] at hends
    rw [Nat.add_mul, Nat.mul_assoc] at hhigh hopen
    refine Binary64.ofQuotient_of_near negative hm hden ⟨?_, ?_, fun hodd => ?_⟩ ?_
    · rw [Nat.mul_assoc]
      omega
    · rw [Nat.mul_assoc]
      omega
    · rw [Nat.mul_assoc]
      have := hopen hodd
      omega
    · intro hpos
      exact Nat.not_lt.mp fun hlt => hbelow ⟨hpos, hlt⟩

/-- A number that is not too small for its power of ten to be computed. -/
theorem small_of_holds (hpos : 0 < m) {count n : Nat} {places : Int} (hcount : n < 10 ^ count)
    (h : (ofFinite m e).Holds n places) : 0 < n ∧ -400 ≤ places + count := by
  have hleast : 10 ^ (-places).toNat ≤ n * 10 ^ places.toNat * (ofFinite m e).unit :=
    (Nat.le_mul_of_pos_left _ (proper_ofFinite hpos).low_pos).trans h.1
  have hn : 0 < n := by
    by_contra hzero
    rw [Nat.eq_zero_of_not_pos hzero, Nat.zero_mul, Nat.zero_mul] at hleast
    exact absurd (Nat.pow_pos (by decide)) (Nat.not_lt.mpr hleast)
  refine ⟨hn, Int.not_lt.mp fun hlt => ?_⟩
  rw [show places.toNat = 0 by omega, Nat.pow_zero, Nat.mul_one] at hleast
  obtain ⟨k, hk, hunit⟩ : ∃ k, k = 400 ∧ (ofFinite m e).unit ≤ 10 ^ k :=
    ⟨_, rfl, unit_ofFinite_le (by decide)⟩
  have hpow : 10 ^ (-places).toNat < 10 ^ (count + k) := by
    rw [Nat.pow_add]
    exact hleast.trans_lt (Nat.mul_lt_mul_of_lt_of_le hcount hunit (Nat.pow_pos (by decide)))
  have := (Nat.pow_lt_pow_iff_right (by decide : 1 < 10)).mp hpow
  omega

/-- A number that is not too large for its power of ten to be computed. -/
theorem large_of_holds (hm : Canonical m e) {n : Nat} {places : Int} (hn : 0 < n)
    (h : (ofFinite m e).Holds n places) : places ≤ 400 := by
  refine Int.not_lt.mp fun hlt => ?_
  have hhigh := h.2.1
  rw [show (-places).toNat = 0 by omega, Nat.pow_zero, Nat.mul_one] at hhigh
  have hshift : ∀ k, 2 ^ k ≤ 4 <<< k := fun k => by
    rw [Nat.shiftLeft_eq]
    exact Nat.le_mul_of_pos_left _ (by decide)
  obtain ⟨k, hk, hunit⟩ : ∃ k, k = 1074 ∧ 2 ^ k ≤ (ofFinite m e).unit := ⟨_, rfl, hshift 1074⟩
  have htop : (ofFinite m e).high < 2 ^ (55 + e) := by
    have := hm.mantissa_lt
    simp only [ofFinite, Nat.shiftLeft_eq]
    rw [Nat.pow_add]
    exact Nat.mul_lt_mul_of_pos_right (by omega) (Nat.two_pow_pos e)
  have hexponent := hm.exponent_le
  refine absurd hhigh (Nat.not_le.mpr (htop.trans_le ?_))
  calc
    2 ^ (55 + e) ≤ 2 ^ (3 * places.toNat + k) := Nat.pow_le_pow_right (by decide) (by omega)
    _ = 2 ^ (3 * places.toNat) * 2 ^ k := Nat.pow_add _ _ _
    _ ≤ 10 ^ places.toNat * (ofFinite m e).unit :=
      Nat.mul_le_mul (two_pow_le_ten_pow (Nat.le_refl _)) hunit
    _ ≤ n * 10 ^ places.toNat * (ofFinite m e).unit :=
      Nat.mul_le_mul_right _ (Nat.le_mul_of_pos_left _ hn)

/-- A decimal number between the ends is rounded to the number. -/
theorem ofDecimal_of_holds (negative : Bool) (hm : Canonical m e) (hpos : 0 < m) {count n : Nat}
    {places : Int} (hcount : n < 10 ^ count) (h : (ofFinite m e).Holds n places) :
    Binary64.ofDecimal negative count n places = .finite negative m e := by
  obtain ⟨hn, hsmall⟩ := small_of_holds hpos hcount h
  have hlarge := large_of_holds hm hn h
  have hten : 0 < 10 ^ (-places).toNat := Nat.pow_pos (by decide)
  rw [Binary64.ofDecimal, if_neg (by simp; omega), if_neg (by omega)]
  rw [Holds] at h
  split
  · next hle =>
    rw [show (-places).toNat = 0 by omega] at h
    exact ofQuotient_of_within negative hm (by decide) h
  · rw [show places.toNat = 0 by omega, Nat.pow_zero, Nat.mul_one] at h
    exact ofQuotient_of_within negative hm hten h

end Interval

open Text.Integer (Leads)

/-- Digits are those without the zeros at the end and these zeros. -/
theorem dropZeros_append (cs : List Char) :
    ∃ z, cs = (cs.reverse.dropWhile (· = '0')).reverse ++ List.replicate z '0' := by
  refine ⟨(cs.reverse.takeWhile (· = '0')).length, ?_⟩
  have hzeros : cs.reverse.takeWhile (· = '0') =
      List.replicate (cs.reverse.takeWhile (· = '0')).length '0' := by
    refine List.eq_replicate_of_mem fun c hc => ?_
    simpa using List.mem_takeWhile_imp hc
  have hsplit := List.takeWhile_append_dropWhile (p := (· = '0')) (l := cs.reverse)
  calc
    cs = (cs.reverse.takeWhile (· = '0') ++ cs.reverse.dropWhile (· = '0')).reverse := by
      rw [hsplit, List.reverse_reverse]
    _ = (cs.reverse.dropWhile (· = '0')).reverse ++
        List.replicate (cs.reverse.takeWhile (· = '0')).length '0' := by
      rw [hzeros, List.reverse_append, List.reverse_replicate, List.length_replicate]

/-- Digits keep their first one when zeros behind them are dropped. -/
theorem leads_dropZeros {cs : List Char} (h : Leads cs) :
    Leads (cs.reverse.dropWhile (· = '0')).reverse := by
  obtain ⟨d, ds, rfl, hd⟩ := h.head
  have heq : ((d :: ds).reverse.dropWhile (· = '0')).reverse =
      d :: (ds.reverse.dropWhile (· = '0')).reverse := by
    rw [List.reverse_cons, List.dropWhile_append]
    split
    · next hempty =>
      rw [List.isEmpty_iff.mp hempty]
      simp [hd]
    · simp
  refine ⟨fun c hc => h.digits c ?_, d, _, heq, hd⟩
  exact List.mem_reverse.mp (List.dropWhile_subset _ (List.mem_reverse.mp hc))

/-- The shortest text of a number has digits and no zero in front of them, and spells a number that
is rounded to it. -/
theorem shortest_spec {m e : Nat} (hm : 0 < m) (hlt : m < 2 ^ 53) :
    Leads (shortest m e).digits ∧ (Interval.ofFinite m e).Holds
      (digitsValue (shortest m e).digits)
      ((shortest m e).point - (shortest m e).digits.length) := by
  obtain ⟨n, a, ha, hdigits⟩ := Interval.digitsFrom_eq 17 1
    ⟨16, by decide, Interval.multiple?_ofFinite (e := e) hm hlt⟩
  have hpos :=
    Interval.multiple?_pos (Interval.proper_scale (Interval.proper_ofFinite hm) _).low_pos ha
  have hholds := Interval.holds_of_contains (Interval.contains_of_multiple? ha)
  obtain ⟨z, hz⟩ := dropZeros_append (natChars a)
  rw [shortest, hdigits]
  refine ⟨leads_dropZeros (Text.Integer.leads_natChars hpos), ?_⟩
  dsimp only
  generalize (List.dropWhile (fun x => decide (x = '0')) (natChars a).reverse).reverse = ds at hz
  have hvalue : a = digitsValue ds * 10 ^ z := by
    rw [← Text.Integer.digitsValue_append_zeros, ← hz, Text.Integer.digitsValue_natChars]
  have hlength : (natChars a).length = ds.length + z := by
    rw [hz, List.length_append, List.length_replicate]
  rw [hvalue, Interval.holds_mul_pow] at hholds
  rw [hlength]
  refine (congrArg (Interval.Holds _ _) ?_).mp hholds
  omega

end HdProvision.Decimal
