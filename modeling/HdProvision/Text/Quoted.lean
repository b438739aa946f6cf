import HdProvision.Bytes.Utf8
import HdProvision.Text.Table
import HdProvision.Text.Tables.Unprintable

/-!
# Quoted text

A text shown as a literal: between single quotes, or between double quotes when it holds a single
quote and no double quote. The quote in use and the backslash are escaped, and what has no visible
form is written as a short escape or by its number.
-/

set_option autoImplicit false

namespace HdProvision.Text.Quoted

/-- The ranges of code points without a visible form. -/
def unprintable : List (Nat × Nat × Nat) := Table.ranges Tables.unprintableRanges

def isPrintable (code : Nat) : Bool :=
  if code < 0x7F then 0x20 ≤ code else (Table.valueIn? code unprintable).isNone

/-- How one code point is written between the quotes `quote`. -/
def escape (quote : Char) (code : Nat) : List Char :=
  if code = quote.toNat then ['\\', quote]
  else if code = 0x5C then ['\\', '\\']
  else if code = 0x0A then ['\\', 'n']
  else if code = 0x0D then ['\\', 'r']
  else if code = 0x09 then ['\\', 't']
  else if isPrintable code then [Char.ofNat code]
  else if code < 0x100 then '\\' :: 'x' :: Utf8.hexDigits 2 code
  else if code < 0x10000 then '\\' :: 'u' :: Utf8.hexDigits 4 code
  else '\\' :: 'U' :: Utf8.hexDigits 8 code

/-- The quote that suits a text. -/
def quoteFor (codes : List Nat) : Char :=
  if codes.contains 0x27 && !codes.contains 0x22 then '"' else '\''

/-- The literal of a list of code points, which may include surrogates. -/
def ofCodes (codes : List Nat) : List Char :=
  let quote := quoteFor codes
  quote :: codes.flatMap (escape quote) ++ [quote]

/-- The literal of a text. -/
def quote (s : String) : String := String.ofList (ofCodes (s.toList.map Char.toNat))

end HdProvision.Text.Quoted
