import HdProvision.Text.Blank
import HdProvision.Text.Table
import HdProvision.Text.Tables.Digits

/-!
# Integers in text

An integer text is a run of decimal digits of any script, with single underscores allowed between
digits and an optional sign in front. White space at both ends does not count, but the information
separators are no such white space. A text of more than 4300 digits is refused.
-/

set_option autoImplicit false

namespace HdProvision.Text.Integer

/-- The most digits that are read, leading zeros included. -/
def maxDigits : Nat := 4300

/-- The zeros of all scripts. -/
def zeros : List Nat := (Table.entries Tables.digitZeros).filterMap List.head?

/-- The value of a decimal digit. -/
def digit? (c : Char) : Option Nat :=
  if c.toNat < 0x80 then
    if 48 ≤ c.toNat && c.toNat ≤ 57 then some (c.toNat - 48) else none
  else (zeros.find? fun z => z ≤ c.toNat && c.toNat < z + 10).map fun z => c.toNat - z

/-- Reads the digits left, after `count` digits with the value `acc`; `ready` tells that the
character before was a digit. -/
def digitsFrom (acc count : Nat) (ready : Bool) : List Char → Option Nat
  | [] => if ready && count ≤ maxDigits then some acc else none
  | c :: cs =>
    match digit? c with
    | some d => digitsFrom (10 * acc + d) (count + 1) true cs
    | none => if c = '_' && ready then digitsFrom acc count false cs else none

/-- White space that may stand around an integer. -/
def isPadding (c : Char) : Bool := isBlank c && !(0x1C ≤ c.toNat && c.toNat < 0x20)

/-- The integer that a list of characters spells. -/
def ofChars? (cs : List Char) : Option Int :=
  match trim isPadding cs with
  | '-' :: rest => (digitsFrom 0 0 false rest).map fun n => -(n : Int)
  | '+' :: rest => (digitsFrom 0 0 false rest).map fun n => (n : Int)
  | rest => (digitsFrom 0 0 false rest).map fun n => (n : Int)

/-- The integer that a text spells. -/
def ofString? (s : String) : Option Int := ofChars? s.toList

/-- The decimal digits of a number, least significant first. Stops after `fuel` digits. -/
def digitsRev : (fuel n : Nat) → List Char
  | 0, _ => []
  | fuel + 1, n =>
    Char.ofNat (48 + n % 10) :: (if n < 10 then [] else digitsRev fuel (n / 10))

/-- The decimal digits of a number. -/
def natChars (n : Nat) : List Char := (digitsRev (n + 1) n).reverse

/-- The decimal text of an integer. -/
def chars : Int → List Char
  | .ofNat n => natChars n
  | .negSucc n => '-' :: natChars (n + 1)

/-- The decimal text of an integer. -/
def text (i : Int) : String := String.ofList (chars i)

end HdProvision.Text.Integer
