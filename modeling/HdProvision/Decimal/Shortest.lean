import HdProvision.Decimal.Binary64
import HdProvision.Text.Integer

/-!
# The shortest decimal text

A finite number is written with the fewest digits that read back as it, and of those texts the
nearest. Numbers from 10 ^ 16 up and below 10 ^ -4 are written with an exponent.
-/

set_option autoImplicit false

namespace HdProvision.Decimal

/-- A decimal number `0.d₁d₂… * 10 ^ point`. -/
structure Digits where
  digits : List Char
  point : Int
  deriving DecidableEq, Repr

/-- A positive number `value / unit` and the ends of the interval that rounds to it, all over the
same denominator. The ends belong to it if `closed`. -/
structure Interval where
  value : Nat
  low : Nat
  high : Nat
  unit : Nat
  closed : Bool
  deriving DecidableEq, Repr

namespace Interval

/-- The interval of a mantissa and an exponent. Below the least mantissa the neighbour is nearer. -/
def ofFinite (m e : Nat) : Interval :=
  { value := (4 * m) <<< e
    low := (if m = 1 <<< 52 && 0 < e then 4 * m - 1 else 4 * m - 2) <<< e
    high := (4 * m + 2) <<< e
    unit := 4 <<< 1074
    closed := m % 2 = 0 }

def contains (i : Interval) (x : Nat) : Bool :=
  if i.closed then i.low ≤ x && x ≤ i.high else i.low < x && x < i.high

/-- The interval with everything multiplied so that one unit is a step of `10 ^ -places`. -/
def scale (i : Interval) (places : Int) : Interval :=
  let up := Nat.pow 10 places.toNat
  let down := Nat.pow 10 (-places).toNat
  { i with
    value := i.value * up
    low := i.low * up
    high := i.high * up
    unit := i.unit * down }

/-- The multiple of the unit in the interval, if one of the two neighbours of the value is; the
nearer of both, and of two equally near ones the even one. -/
def multiple? (i : Interval) : Option Nat :=
  let a := i.value / i.unit
  let down := i.contains (a * i.unit)
  let up := i.contains ((a + 1) * i.unit)
  if down && up then some (Binary64.nearest i.value i.unit)
  else if down then some a
  else if up then some (a + 1)
  else none

/-- How often a value below one can be multiplied by ten until it is not; at most `fuel` times. -/
def leadingZeros (i : Interval) : (fuel : Nat) → Nat
  | 0 => 0
  | fuel + 1 =>
    if i.unit ≤ i.value then 0 else 1 + leadingZeros { i with value := 10 * i.value } fuel

/-- The exponent of the power of ten just above the value. -/
def point (i : Interval) : Int :=
  if i.unit ≤ i.value then (Text.Integer.natChars (i.value / i.unit)).length
  else 1 - (i.leadingZeros 400 : Int)

/-- The digits for the first digit count from `n` on with a text in the interval. -/
def digitsFrom (i : Interval) : (fuel n : Nat) → Digits
  | 0, _ => ⟨[], 0⟩
  | fuel + 1, n =>
    match (i.scale (n - i.point)).multiple? with
    | some a =>
      let ds := Text.Integer.natChars a
      ⟨(ds.reverse.dropWhile (· = '0')).reverse, i.point + (ds.length - n)⟩
    | none => digitsFrom i fuel (n + 1)

end Interval

/-- The digits of a positive number. -/
def shortest (m e : Nat) : Digits := (Interval.ofFinite m e).digitsFrom 17 1

/-- The text of digits with an exponent of at least two digits. -/
def scientific (d : Digits) : List Char :=
  let mantissa := match d.digits with
    | [] => []
    | [c] => [c]
    | c :: cs => c :: '.' :: cs
  let e := d.point - 1
  let digits := Text.Integer.natChars e.natAbs
  mantissa ++ 'e' :: (if e < 0 then '-' else '+') ::
    (if digits.length < 2 then '0' :: digits else digits)

/-- The text of digits without an exponent. -/
def positional (d : Digits) : List Char :=
  let count : Int := d.digits.length
  if d.point ≤ 0 then '0' :: '.' :: List.replicate (-d.point).toNat '0' ++ d.digits
  else if count ≤ d.point then d.digits ++ List.replicate (d.point - count).toNat '0' ++ ['.', '0']
  else d.digits.take d.point.toNat ++ '.' :: d.digits.drop d.point.toNat

/-- The text of a finite number. -/
def finiteChars (negative : Bool) (m e : Nat) : List Char :=
  let body :=
    if m = 0 then ['0', '.', '0']
    else
      let d := shortest m e
      if -4 < d.point && d.point ≤ 16 then positional d else scientific d
  if negative then '-' :: body else body

end HdProvision.Decimal
