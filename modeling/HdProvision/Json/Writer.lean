import HdProvision.Bytes.Utf8
import HdProvision.Decimal.Shortest
import HdProvision.Json.Value

/-!
# Writing JSON

Every item stands on a line of its own, two blanks deeper than what holds it; empty arrays and
objects are two brackets. The text is printable ASCII: other units are escaped one by one. Each part
is written in front of what follows it, and what follows does not change it (`value_append`).
-/

set_option autoImplicit false

namespace HdProvision.Json.Writer

/-- How one unit is written. -/
def unit (u : UInt16) : List Char :=
  if u = 0x22 then ['\\', '"']
  else if u = 0x5C then ['\\', '\\']
  else if u = 0x0A then ['\\', 'n']
  else if u = 0x0D then ['\\', 'r']
  else if u = 0x09 then ['\\', 't']
  else if u = 0x0C then ['\\', 'f']
  else if u = 0x08 then ['\\', 'b']
  else if 0x20 ≤ u && u < 0x7F then [Char.ofNat u.toNat]
  else '\\' :: 'u' :: Utf8.hexDigits 4 u.toNat

/-- A text between its quotes, in front of what follows. -/
def text (us : Units) (rest : List Char) : List Char := '"' :: us.flatMap unit ++ '"' :: rest

/-- The words for numbers that are none or not finite. -/
def real : Binary64 → List Char
  | .nan => "NaN".toList
  | .infinite true => "-Infinity".toList
  | .infinite false => "Infinity".toList
  | .finite negative m e => Decimal.finiteChars negative m e

/-- The start of a line. -/
def line (depth : Nat) : List Char := '\n' :: List.replicate (2 * depth) ' '

mutual

/-- The text of a value whose line is indented `depth` times, in front of what follows. -/
def value (depth : Nat) (v : Value) (rest : List Char) : List Char :=
  match v with
  | .null => "null".toList ++ rest
  | .bool b => (if b then "true".toList else "false".toList) ++ rest
  | .int n => Text.Integer.chars n ++ rest
  | .real x => real x ++ rest
  | .text us => text us rest
  | .array [] => '[' :: ']' :: rest
  | .array (v :: vs) =>
    '[' :: line (depth + 1) ++
      value (depth + 1) v (values (depth + 1) vs (line depth ++ ']' :: rest))
  | .object [] => '{' :: '}' :: rest
  | .object ((name, v) :: fs) =>
    '{' :: line (depth + 1) ++ text name (':' :: ' ' ::
      value (depth + 1) v (members (depth + 1) fs (line depth ++ '}' :: rest)))

/-- The items behind the first of an array, each on a line behind a comma. -/
def values (depth : Nat) (vs : List Value) (rest : List Char) : List Char :=
  match vs with
  | [] => rest
  | v :: vs => ',' :: line depth ++ value depth v (values depth vs rest)

/-- The fields behind the first of an object, each on a line behind a comma. -/
def members (depth : Nat) (fs : List (Units × Value)) (rest : List Char) : List Char :=
  match fs with
  | [] => rest
  | (name, v) :: fs =>
    ',' :: line depth ++ text name (':' :: ' ' :: value depth v (members depth fs rest))

end

theorem text_append (us : Units) (rest : List Char) : text us rest = text us [] ++ rest := by
  simp [text]

mutual

/-- What follows a value does not change its text. -/
theorem value_append (depth : Nat) (v : Value) (rest : List Char) :
    value depth v rest = value depth v [] ++ rest := by
  match v with
  | .null | .bool _ | .int _ | .real _ | .array [] | .object [] => simp [value]
  | .text us => simpa [value] using text_append us rest
  | .array (v :: vs) =>
    rw [value, value, value_append (depth + 1) v, values_append (depth + 1) vs,
      value_append (depth + 1) v (values _ _ _), values_append (depth + 1) vs (line depth ++ [']'])]
    simp
  | .object ((name, v) :: fs) =>
    rw [value, value, text_append, value_append (depth + 1) v, members_append (depth + 1) fs,
      text_append name (_ :: _ :: value _ _ _), value_append (depth + 1) v (members _ _ _),
      members_append (depth + 1) fs (line depth ++ ['}'])]
    simp

theorem values_append (depth : Nat) (vs : List Value) (rest : List Char) :
    values depth vs rest = values depth vs [] ++ rest := by
  match vs with
  | [] => simp [values]
  | v :: vs =>
    rw [values, values, value_append depth v, values_append depth vs,
      value_append depth v (values depth vs [])]
    simp

theorem members_append (depth : Nat) (fs : List (Units × Value)) (rest : List Char) :
    members depth fs rest = members depth fs [] ++ rest := by
  match fs with
  | [] => simp [members]
  | (name, v) :: fs =>
    rw [members, members, text_append, value_append depth v, members_append depth fs,
      text_append name (_ :: _ :: value _ _ _), value_append depth v (members depth fs [])]
    simp

end

end HdProvision.Json.Writer

namespace HdProvision.Json

/-- The text of a value. -/
def write (v : Value) : List Char := Writer.value 0 v []

/-- What is said about a value with too many brackets inside each other. -/
def Writer.depthMessage : String := "maximum recursion depth exceeded"

/-- The text of a value, unless there are too many brackets inside each other to be written. -/
def write? [Nesting] (v : Value) : Option (List Char) :=
  if v.depth ≤ Nesting.writing then some (write v) else none

end HdProvision.Json
