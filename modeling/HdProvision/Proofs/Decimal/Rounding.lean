import Mathlib.Algebra.Order.Ring.Nat
import Mathlib.Tactic.Ring
import HdProvision.Decimal.Binary64

/-!
# Rounded numbers

Rounding a decimal number gives a mantissa and an exponent in their ranges, and every quotient that
is no further from a number than half of the way to its neighbours is rounded to it.
-/

set_option autoImplicit false

namespace HdProvision.Binary64

/-- A mantissa of at most 53 bits, the first of which is set unless the exponent is zero, and an
exponent that is not too large. -/
structure Canonical (m e : Nat) : Prop where
  mantissa_lt : m < 2 ^ 53
  le_mantissa : 0 < e → 2 ^ 52 ≤ m
  exponent_le : e ≤ 2045

/-- A number whose mantissa and exponent are in their ranges, if it is finite. -/
def Sound : Binary64 → Prop
  | finite _ m e => Canonical m e
  | _ => True

theorem canonical_zero : Canonical 0 0 :=
  ⟨by decide, fun h => absurd h (by decide), by decide⟩

theorem nearest_le {num den k : Nat} (h : num < k * den) : nearest num den ≤ k := by
  have hden : 0 < den := by
    by_contra h0
    rw [Nat.eq_zero_of_not_pos h0, Nat.mul_zero] at h
    omega
  have hq : num / den < k := (Nat.div_lt_iff_lt_mul hden).mpr h
  rw [nearest]
  split
  · omega
  · split <;> omega

theorem le_nearest (num den : Nat) : num / den ≤ nearest num den := by
  rw [nearest]
  split
  · omega
  · split <;> omega

theorem nearest_cases (num den : Nat) :
    nearest num den = num / den ∨ nearest num den = num / den + 1 := by
  rw [nearest]
  split
  · exact Or.inl rfl
  · split <;> omega

/-- A quotient that is at most one half away from an integer, and less if that is odd. -/
structure Near (num den m : Nat) : Prop where
  low : 2 * m * den ≤ 2 * num + den
  high : 2 * num ≤ 2 * m * den + den
  odd : m % 2 = 1 → 2 * m * den < 2 * num + den ∧ 2 * num < 2 * m * den + den

theorem Near.nearest_eq {num den m : Nat} (h : Near num den m) (hden : 0 < den) :
    nearest num den = m := by
  have hdiv := Nat.div_add_mod num den
  have hmod := Nat.mod_lt num hden
  rw [nearest]
  generalize num / den = q at hdiv
  generalize num % den = r at hdiv hmod
  have hlow := h.low
  have hhigh := h.high
  have hodd := h.odd
  have hq : q ≤ m := by
    refine Nat.le_of_lt_succ ((Nat.mul_lt_mul_left hden).mp ?_)
    calc
      den * q ≤ num := by omega
      _ < m * den + den := by
        rw [Nat.mul_assoc] at hhigh
        omega
      _ = den * (m + 1) := by ring
  have hm : m ≤ q + 1 := by
    refine Nat.le_of_lt_succ ((Nat.mul_lt_mul_left hden).mp ?_)
    calc
      den * m ≤ num + den := by
        rw [Nat.mul_assoc, Nat.mul_comm m] at hlow
        omega
      _ < den * q + den + den := by omega
      _ = den * (q + 1 + 1) := by ring
  -- What is left over tells which of the two integers around the quotient is meant.
  rcases (show m = q ∨ m = q + 1 by omega) with rfl | rfl
  · have hstep : 2 * m * den = 2 * (den * m) := by ring
    rw [hstep] at hlow hhigh hodd
    have htie : 2 * r = den → m % 2 = 0 := fun hr => by
      by_contra hne
      have := hodd (by omega)
      omega
    split
    · rfl
    · split <;> omega
  · have hstep : 2 * (q + 1) * den = 2 * (den * q) + 2 * den := by ring
    rw [hstep] at hlow hhigh hodd
    have htie : 2 * r = den → q % 2 = 1 := fun hr => by
      by_contra hne
      have := hodd (by omega)
      omega
    split
    · omega
    · split <;> omega

theorem ofQuotient_eq (negative : Bool) (num den : Nat) :
    ofQuotient negative num den =
      let e := Nat.log2 (num <<< 1074 / den) - 52
      let m := nearest (num <<< 1074) (den <<< e)
      if m = 2 ^ 53 then
        if 2045 < e + 1 then infinite negative else finite negative (2 ^ 52) (e + 1)
      else if 2045 < e then infinite negative else finite negative m e := by
  have h53 : 1 <<< 53 = 2 ^ 53 := rfl
  have h52 : 1 <<< 52 = 2 ^ 52 := rfl
  simp only [ofQuotient, h53, h52]
  split <;> rfl

theorem sound_ofQuotient (negative : Bool) (num : Nat) {den : Nat} (hden : 0 < den) :
    Sound (ofQuotient negative num den) := by
  have hfinite : ∀ m e : Nat, m < 2 ^ 53 → (0 < e → 2 ^ 52 ≤ m) →
      Sound (if 2045 < e then infinite negative else finite negative m e) := by
    intro m e hlt hle
    split
    · exact trivial
    · exact ⟨hlt, hle, by omega⟩
  rw [ofQuotient_eq]
  generalize num <<< 1074 = x
  have hlog : x / den < 2 ^ (Nat.log2 (x / den) + 1) := Nat.lt_log2_self
  have hlt : x < 2 ^ 53 * (den <<< (Nat.log2 (x / den) - 52)) := by
    have hpow : 2 ^ (Nat.log2 (x / den) + 1) ≤ 2 ^ (53 + (Nat.log2 (x / den) - 52)) :=
      Nat.pow_le_pow_right (by decide) (by omega)
    have hmul := (Nat.div_lt_iff_lt_mul hden).mp (hlog.trans_le hpow)
    rwa [Nat.pow_add, Nat.mul_assoc, Nat.mul_comm _ den, ← Nat.shiftLeft_eq] at hmul
  have hge : 0 < Nat.log2 (x / den) - 52 →
      2 ^ 52 ≤ nearest x (den <<< (Nat.log2 (x / den) - 52)) := by
    intro hpos
    have hne : x / den ≠ 0 := by
      intro hzero
      rw [hzero] at hpos
      exact absurd hpos (by decide)
    have hle := Nat.log2_self_le hne
    refine Nat.le_trans ?_ (le_nearest _ _)
    rw [Nat.shiftLeft_eq, ← Nat.div_div_eq_div_mul,
      Nat.le_div_iff_mul_le (Nat.two_pow_pos _), ← Nat.pow_add]
    rwa [show 52 + (Nat.log2 (x / den) - 52) = Nat.log2 (x / den) by omega]
  have hle := nearest_le hlt
  dsimp only
  split
  · exact hfinite _ _ (by decide) fun _ => Nat.le_refl _
  · next hne => exact hfinite _ _ (Nat.lt_of_le_of_ne hle hne) hge

theorem ofDecimal_zero (negative : Bool) (count : Nat) (e : Int) :
    ofDecimal negative count 0 e = finite negative 0 0 := by
  simp [ofDecimal]

theorem sound_ofDecimal (negative : Bool) (count n : Nat) (e : Int) :
    Sound (ofDecimal negative count n e) := by
  rw [ofDecimal]
  split
  · exact canonical_zero
  · split
    · exact trivial
    · split
      · exact sound_ofQuotient _ _ (by decide)
      · exact sound_ofQuotient _ _ (Nat.pow_pos (by decide))

variable {m e num den : Nat}

theorem log2_eq_of_between {x k : Nat} (hlow : 2 ^ k ≤ x) (hhigh : x < 2 ^ (k + 1)) :
    Nat.log2 x = k := by
  have hx : x ≠ 0 := fun h => absurd (h ▸ hlow) (Nat.not_le.mpr (Nat.two_pow_pos k))
  exact (Nat.log2_eq_iff hx).mpr ⟨hlow, hhigh⟩

/-- Near to a number that has no more distant neighbour the exponent is that of the number. -/
theorem ofQuotient_of_near (negative : Bool) (hm : Canonical m e) (hden : 0 < den)
    (hnear : Near (num <<< 1074) (den <<< e) m)
    (hlow : 0 < e → 2 ^ 52 * (den <<< e) ≤ num <<< 1074) :
    ofQuotient negative num den = finite negative m e := by
  have hlt := hm.mantissa_lt
  have hexponent := hm.exponent_le
  have hstep : 0 < den <<< e := by
    rw [Nat.shiftLeft_eq]
    exact Nat.mul_pos hden (Nat.two_pow_pos e)
  have hnearest := hnear.nearest_eq hstep
  rw [ofQuotient_eq]
  generalize num <<< 1074 = x at *
  have hhigh : x / den < 2 ^ (53 + e) := by
    rw [Nat.div_lt_iff_lt_mul hden, Nat.pow_add, Nat.mul_assoc, Nat.mul_comm _ den,
      ← Nat.shiftLeft_eq]
    have hmul : (m + 1) * den <<< e ≤ 2 ^ 53 * den <<< e := Nat.mul_le_mul_right _ hlt
    have hx := hnear.high
    rw [Nat.mul_assoc] at hx
    rw [Nat.add_mul] at hmul
    omega
  have hlog : Nat.log2 (x / den) - 52 = e := by
    rcases Nat.eq_zero_or_pos e with rfl | hpos
    · have : Nat.log2 (x / den) < 53 := by
        rcases Nat.eq_zero_or_pos (x / den) with hzero | hne
        · rw [hzero]
          decide
        · exact (Nat.log2_lt (Nat.ne_of_gt hne)).mpr hhigh
      omega
    · rw [log2_eq_of_between (k := 52 + e) ?_ (by rwa [show 52 + e + 1 = 53 + e by omega])]
      · omega
      · rw [Nat.le_div_iff_mul_le hden, Nat.pow_add, Nat.mul_assoc, Nat.mul_comm _ den,
          ← Nat.shiftLeft_eq]
        exact hlow hpos
  simp only [hlog, hnearest]
  rw [if_neg (Nat.ne_of_lt hlt), if_neg (Nat.not_lt.mpr hexponent)]

/-- Just below the least number of an exponent the one below is taken, and the mantissa is rounded
up to the next power of two. -/
theorem ofQuotient_of_below (negative : Bool) (he : e + 1 ≤ 2045) (hden : 0 < den)
    (hlow : (2 ^ 54 - 1) * (den <<< e) ≤ 2 * (num <<< 1074))
    (hhigh : num <<< 1074 < 2 ^ 53 * (den <<< e)) :
    ofQuotient negative num den = finite negative (2 ^ 52) (e + 1) := by
  have hstep : 0 < den <<< e := by
    rw [Nat.shiftLeft_eq]
    exact Nat.mul_pos hden (Nat.two_pow_pos e)
  rw [ofQuotient_eq]
  generalize num <<< 1074 = x at *
  have hnear : Near x (den <<< e) (2 ^ 53) := by
    refine ⟨?_, ?_, fun hodd => absurd hodd (by decide)⟩ <;> omega
  have hlog : Nat.log2 (x / den) - 52 = e := by
    rw [log2_eq_of_between (k := 52 + e)]
    · omega
    · rw [Nat.le_div_iff_mul_le hden, Nat.pow_add, Nat.mul_assoc, Nat.mul_comm _ den,
        ← Nat.shiftLeft_eq]
      omega
    · rw [Nat.div_lt_iff_lt_mul hden, show 52 + e + 1 = 53 + e by omega, Nat.pow_add,
        Nat.mul_assoc, Nat.mul_comm _ den, ← Nat.shiftLeft_eq]
      exact hhigh
  simp only [hlog, hnear.nearest_eq hstep]
  rw [if_pos trivial, if_neg (by omega)]

end HdProvision.Binary64
