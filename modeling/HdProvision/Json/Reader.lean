import HdProvision.Json.Value
import HdProvision.Text.Integer

/-!
# Reading JSON

A value with white space around it. Beside the numbers of the format the words `NaN`, `Infinity`
and `-Infinity` are read. Of several fields with one name the last value counts, in the place of the
first. A text holds no control characters; an integer has at most 4300 digits; and only so many
brackets may stand inside each other.
-/

set_option autoImplicit false

namespace HdProvision.Json

/-- What the brackets of a value are those of. -/
inductive Bracket
  | array
  | object
  deriving DecidableEq, Repr

def Bracket.word : Bracket → String
  | array => "array"
  | object => "object"

/-- Why a text was not read. -/
inductive ReadFault
  | malformed
  | tooManyDigits (count : Nat)
  | tooDeep (kind : Bracket)
  deriving DecidableEq, Repr

namespace ReadFault

/-- What is said about an integer that is too long. -/
def digitsMessage (count : Nat) : String :=
  "Exceeds the limit (4300 digits) for integer string conversion: value has " ++
    Text.Integer.text count ++ " digits; use sys.set_int_max_str_digits() to increase the limit"

/-- What is said about brackets that there is no room for. -/
def depthMessage (kind : Bracket) : String :=
  "maximum recursion depth exceeded while decoding a JSON " ++ kind.word ++ " from a unicode string"

end ReadFault

namespace Reader

def isSpace (c : Char) : Bool := c = ' ' || c = '\t' || c = '\n' || c = '\r'

def skip (cs : List Char) : List Char := cs.dropWhile isSpace

/-- The value of a hexadecimal digit. -/
def hexValue? (c : Char) : Option Nat :=
  let n := c.toNat
  if 48 ≤ n && n ≤ 57 then some (n - 48)
  else if 97 ≤ n && n ≤ 102 then some (n - 87)
  else if 65 ≤ n && n ≤ 70 then some (n - 55)
  else none

/-- The unit that four hexadecimal digits name. -/
def unit? (a b c d : Char) : Option UInt16 := do
  let a ← hexValue? a
  let b ← hexValue? b
  let c ← hexValue? c
  let d ← hexValue? d
  return UInt16.ofNat (4096 * a + 256 * b + 16 * c + d)

/-- The unit that a letter behind a backslash stands for. -/
def shortEscape? (c : Char) : Option UInt16 :=
  match c with
  | '"' => some 0x22
  | '\\' => some 0x5C
  | '/' => some 0x2F
  | 'b' => some 8
  | 'f' => some 12
  | 'n' => some 10
  | 'r' => some 13
  | 't' => some 9
  | _ => none

/-- Reads a text up to its closing quote, which is read too; `before` holds the units read, last
first. -/
def textUnits (before : Units) : List Char → Option (Units × List Char)
  | [] => none
  | '"' :: cs => some (before.reverse, cs)
  | '\\' :: 'u' :: a :: b :: c :: d :: cs =>
    match unit? a b c d with
    | some u => textUnits (u :: before) cs
    | none => none
  | '\\' :: c :: cs =>
    match shortEscape? c with
    | some u => textUnits (u :: before) cs
    | none => none
  | c :: cs =>
    if c = '\\' || c.toNat < 0x20 then none
    else textUnits ((Units.ofChar c).reverse ++ before) cs

def isDigit (c : Char) : Bool := 48 ≤ c.toNat && c.toNat ≤ 57

/-- The number that decimal digits spell. -/
def digitsValue (ds : List Char) : Nat := ds.foldl (fun n c => 10 * n + (c.toNat - 48)) 0

/-- The digits at the front, and what follows. -/
def digits (cs : List Char) : List Char × List Char := cs.span isDigit

/-- The digits behind a point, if any; a point without digits is left. -/
def fraction (cs : List Char) : List Char × List Char :=
  match cs with
  | '.' :: r =>
    let (ds, rest) := digits r
    if ds = [] then ([], cs) else (ds, rest)
  | _ => ([], cs)

/-- The exponent behind its letter, if any; a letter without digits is left. -/
def exponent? (cs : List Char) : Option (Int × List Char) :=
  match cs with
  | e :: r =>
    if e = 'e' || e = 'E' then
      let (negative, r) := match r with
        | '-' :: r => (true, r)
        | '+' :: r => (false, r)
        | _ => (false, r)
      let (ds, rest) := digits r
      if ds = [] then none
      else some (if negative then -(digitsValue ds : Int) else digitsValue ds, rest)
    else none
  | [] => none

/-- Reads a number behind its sign. -/
def unsigned (negative : Bool) (cs : List Char) : Except ReadFault (Value × List Char) :=
  let (whole, r) := match cs with
    | '0' :: r => (['0'], r)
    | _ => digits cs
  if whole = [] then .error .malformed
  else
    let (frac, r) := fraction r
    let e := exponent? r
    if frac = [] && e.isNone then
      if Text.Integer.maxDigits < whole.length then .error (.tooManyDigits whole.length)
      else
        let n : Int := digitsValue whole
        .ok (.int (if negative then -n else n), r)
    else
      let ds := whole ++ frac
      let (x, rest) := e.getD (0, r)
      .ok (.real (Binary64.ofDecimal negative ds.length (digitsValue ds) (x - frac.length)), rest)

/-- Reads what starts with neither a quote nor a bracket. -/
def scalar (cs : List Char) : Except ReadFault (Value × List Char) :=
  match cs with
  | 'n' :: 'u' :: 'l' :: 'l' :: r => .ok (.null, r)
  | 't' :: 'r' :: 'u' :: 'e' :: r => .ok (.bool true, r)
  | 'f' :: 'a' :: 'l' :: 's' :: 'e' :: r => .ok (.bool false, r)
  | 'N' :: 'a' :: 'N' :: r => .ok (.real .nan, r)
  | 'I' :: 'n' :: 'f' :: 'i' :: 'n' :: 'i' :: 't' :: 'y' :: r => .ok (.real (.infinite false), r)
  | '-' :: 'I' :: 'n' :: 'f' :: 'i' :: 'n' :: 'i' :: 't' :: 'y' :: r =>
    .ok (.real (.infinite true), r)
  | '-' :: r => unsigned true r
  | _ => unsigned false cs

mutual

/-- Reads a value that starts at the first character; `room` is how many brackets inside each other
may still be opened. -/
def value : (fuel room : Nat) → List Char → Except ReadFault (Value × List Char)
  | 0, _, _ => .error .malformed
  | fuel + 1, room, cs =>
    match cs with
    | '"' :: r =>
      match textUnits [] r with
      | some (us, rest) => .ok (.text us, rest)
      | none => .error .malformed
    | '[' :: r =>
      match room with
      | 0 => .error (.tooDeep .array)
      | room + 1 =>
        match skip r with
        | ']' :: rest => .ok (.array [], rest)
        | r => items fuel room [] r
    | '{' :: r =>
      match room with
      | 0 => .error (.tooDeep .object)
      | room + 1 =>
        match skip r with
        | '}' :: rest => .ok (.object [], rest)
        | r => members fuel room [] r
    | _ => scalar cs

/-- Reads the items left of an array; `before` holds those read, last first. -/
def items : (fuel room : Nat) → (before : List Value) → List Char →
    Except ReadFault (Value × List Char)
  | 0, _, _, _ => .error .malformed
  | fuel + 1, room, before, cs =>
    match value fuel room cs with
    | .error fault => .error fault
    | .ok (v, r) =>
      match skip r with
      | ']' :: rest => .ok (.array (v :: before).reverse, rest)
      | ',' :: rest => items fuel room (v :: before) (skip rest)
      | _ => .error .malformed

/-- Reads the members left of an object; `before` holds the fields read. -/
def members : (fuel room : Nat) → (before : Fields) → List Char →
    Except ReadFault (Value × List Char)
  | 0, _, _, _ => .error .malformed
  | fuel + 1, room, before, cs =>
    match cs with
    | '"' :: r =>
      match textUnits [] r with
      | none => .error .malformed
      | some (name, r) =>
        match skip r with
        | ':' :: r =>
          match value fuel room (skip r) with
          | .error fault => .error fault
          | .ok (v, r) =>
            let fields := before.set name v
            match skip r with
            | '}' :: rest => .ok (.object fields, rest)
            | ',' :: rest => members fuel room fields (skip rest)
            | _ => .error .malformed
        | _ => .error .malformed
    | _ => .error .malformed

end

end Reader

/-- The value that a text spells. -/
def read [Nesting] (cs : List Char) : Except ReadFault Value :=
  match Reader.value (cs.length + 1) Nesting.reading (Reader.skip cs) with
  | .error fault => .error fault
  | .ok (v, rest) => if Reader.skip rest = [] then .ok v else .error .malformed

end HdProvision.Json
