/-!
# Binary floating point numbers of 64 bits

A finite number is a mantissa of at most 53 bits times a power of two that is at least the least
one. A decimal number is rounded to the nearest, and of two equally near ones to the one with an
even mantissa.
-/

set_option autoImplicit false

namespace HdProvision

/-- A number of 64 bits. A finite one is `mantissa * 2 ^ exponent / 2 ^ 1074`, with its sign; its
mantissa has 53 bits unless the exponent is zero. -/
inductive Binary64
  | nan
  | infinite (negative : Bool)
  | finite (negative : Bool) (mantissa exponent : Nat)
  deriving DecidableEq, Repr

namespace Binary64

/-- The integer nearest to a quotient; of two nearest ones the even one. -/
def nearest (num den : Nat) : Nat :=
  let q := num / den
  let r := num % den
  if 2 * r < den then q else if den < 2 * r then q + 1 else q + q % 2

/-- The number nearest to `num / den`. -/
def ofQuotient (negative : Bool) (num den : Nat) : Binary64 :=
  let scaled := num <<< 1074
  let e := Nat.log2 (scaled / den) - 52
  let m := nearest scaled (den <<< e)
  let (m, e) := if m = 1 <<< 53 then (1 <<< 52, e + 1) else (m, e)
  if 2045 < e then infinite negative else finite negative m e

/-- The number nearest to `n * 10 ^ e`, where `n` has `count` decimal digits. Far outside the range
no power is computed. -/
def ofDecimal (negative : Bool) (count n : Nat) (e : Int) : Binary64 :=
  if n = 0 || e + count < -400 then finite negative 0 0
  else if 400 < e then infinite negative
  else if 0 ≤ e then ofQuotient negative (n * Nat.pow 10 e.toNat) 1
  else ofQuotient negative n (Nat.pow 10 (-e).toNat)

end Binary64
end HdProvision
