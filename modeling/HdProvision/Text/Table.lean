/-!
# Reading character tables

A table is written as entries of hexadecimal numbers, blanks between the numbers and commas between
the entries of a line. Entries about single characters are grouped into pages of 256 code points, so
that a look up goes through one page only. A table is read once and kept as numbers.
-/

set_option autoImplicit false

namespace HdProvision.Text.Table

/-- The value of an upper case hexadecimal digit. -/
def digitValue (c : Char) : Nat := if c.toNat < 65 then c.toNat - 48 else c.toNat - 55

/-- Reads entries; `num` is the number being read and `entry` the numbers before it in its entry,
last first. -/
def entriesFrom (num : Nat) (entry : List Nat) : List Char → List (List Nat)
  | [] => [(num :: entry).reverse]
  | c :: cs =>
    if c = ',' then (num :: entry).reverse :: entriesFrom 0 [] cs
    else if c = ' ' then entriesFrom 0 (num :: entry) cs
    else entriesFrom (16 * num + digitValue c) entry cs

/-- The entries of a table, given by its lines. -/
def entries (lines : List String) : List (List Nat) :=
  lines.flatMap fun line => entriesFrom 0 [] line.toList

/-- The numbers after `n` in the entry that starts with it. -/
def after? (n : Nat) : List (List Nat) → Option (List Nat)
  | [] => none
  | e :: es => match e with
    | [] => after? n es
    | m :: rest => if m = n then some rest else after? n es

/-- The entries of a paged table, by page. -/
abbrev Pages := List (Nat × List (List Nat))

/-- Reads a paged table, given by the lines of its pages. -/
def pages (written : List (Nat × List String)) : Pages :=
  written.map fun page => (page.1, entries page.2)

/-- The entries that may be about a character. -/
def entriesOf (table : Pages) (c : Char) : List (List Nat) :=
  (table.lookup (c.toNat / 256)).getD []

/-- What a paged table says about a character. -/
def find? (table : Pages) (c : Char) : Option (List Char) :=
  (after? c.toNat (entriesOf table c)).map fun codes => codes.map Char.ofNat

/-- Ranges with their first and last number, and the third number of an entry or zero. -/
def ranges (lines : List String) : List (Nat × Nat × Nat) :=
  (entries lines).filterMap fun
    | [a, b] => some (a, b, 0)
    | [a, b, v] => some (a, b, v)
    | _ => none

/-- The value of the range that holds a number; ranges are in ascending order. -/
def valueIn? (n : Nat) : List (Nat × Nat × Nat) → Option Nat
  | [] => none
  | (a, b, v) :: rest => if n < a then none else if n ≤ b then some v else valueIn? n rest

end HdProvision.Text.Table
