import HdProvision.Bytes.Utf8
import HdProvision.Decimal.Binary64

/-!
# JSON values

Integers are exact and other numbers are rounded. A text in a document is a list of 16 bit code
units, because an escape may name half of a pair alone; a text that a caller gives is a list of code
points, two of which may be halves side by side. The fields of an object keep their order; a field
that is set again keeps its place.
-/

set_option autoImplicit false

namespace HdProvision.Json

/-- A text by its code points. Halves of pairs are code points, too. -/
abbrev Points := List (Fin 0x110000)

namespace Points

/-- The code point of a character. -/
def ofChar (c : Char) : Fin 0x110000 :=
  ⟨c.toNat, by
    have h := c.valid
    simp only [UInt32.isValidChar, Nat.isValidChar] at h
    change c.val.toNat < _
    omega⟩

def ofString (s : String) : Points := s.toList.map ofChar

end Points

/-- A text by its code units. -/
abbrev Units := List UInt16

namespace Units

/-- The units of one character. -/
def ofChar (c : Char) : Units :=
  let n := c.toNat
  if n < 0x10000 then [UInt16.ofNat n]
  else [UInt16.ofNat (0xD800 + (n - 0x10000) / 1024), UInt16.ofNat (0xDC00 + (n - 0x10000) % 1024)]

def ofString (s : String) : Units := s.toList.flatMap ofChar

/-- The units of one code point; a half counts as itself. -/
def ofPoint (p : Fin 0x110000) : Units :=
  if p.val < 0x10000 then [UInt16.ofNat p.val]
  else
    [ UInt16.ofNat (0xD800 + (p.val - 0x10000) / 1024),
      UInt16.ofNat (0xDC00 + (p.val - 0x10000) % 1024) ]

/-- The units that a text of a caller is written by. -/
def ofPoints (ps : Points) : Units := ps.flatMap ofPoint

def isHigh (u : UInt16) : Bool := 0xD800 ≤ u && u < 0xDC00

def isLow (u : UInt16) : Bool := 0xDC00 ≤ u && u < 0xE000

/-- The code points of a text; halves that stand alone count as themselves. -/
def codes : Units → List Nat
  | [] => []
  | [u] => [u.toNat]
  | u :: v :: rest =>
    if isHigh u && isLow v then
      (0x10000 + (u.toNat - 0xD800) * 1024 + (v.toNat - 0xDC00)) :: codes rest
    else u.toNat :: codes (v :: rest)

/-- The text as it can be printed: a half that stands alone is shown by its escape. -/
def visible (us : Units) : String :=
  String.ofList ((codes us).flatMap fun n =>
    if n.isValidChar then [Char.ofNat n] else '\\' :: 'u' :: Utf8.hexDigits 4 n)

/-- The text with a replacement character for every half that stands alone. -/
def toString (us : Units) : String :=
  String.ofList ((codes us).map fun n => if n.isValidChar then Char.ofNat n else '\uFFFD')

end Units

/-- A JSON value. -/
inductive Value
  | null
  | bool (b : Bool)
  | int (n : Int)
  | real (x : Binary64)
  | text (s : Units)
  | array (items : List Value)
  | object (fields : List (Units × Value))
  deriving Repr, Inhabited

namespace Value

mutual

/-- How many brackets stand inside each other at most. -/
def depth : Value → Nat
  | .array vs => depthAll vs + 1
  | .object fs => depthFields fs + 1
  | _ => 0

def depthAll : List Value → Nat
  | [] => 0
  | v :: vs => max v.depth (depthAll vs)

def depthFields : List (Units × Value) → Nat
  | [] => 0
  | (_, v) :: fs => max v.depth (depthFields fs)

end

end Value

/-- How many brackets may stand inside each other where a value is read and where one is written. It
depends on the machine how many these are, but two always may. -/
class Nesting where
  reading : Nat
  writing : Nat
  two_le_reading : 2 ≤ reading
  two_le_writing : 2 ≤ writing

/-- What there usually is room for. -/
scoped instance Nesting.usual : Nesting := ⟨991, 992, by decide, by decide⟩

/-- The fields of an object. -/
abbrev Fields := List (Units × Value)

namespace Fields

/-- The value of a field. -/
def get? (fs : Fields) (name : Units) : Option Value := fs.lookup name

/-- Sets a field in its place, or behind all others. -/
def set (fs : Fields) (name : Units) (v : Value) : Fields :=
  match fs with
  | [] => [(name, v)]
  | (k, w) :: rest => if k = name then (k, v) :: rest else (k, w) :: set rest name v

/-- The fields without one. -/
def erase (fs : Fields) (name : Units) : Fields := fs.filter fun f => f.1 ≠ name

theorem get?_set_self (fs : Fields) (name : Units) (v : Value) :
    get? (set fs name v) name = some v := by
  induction fs with
  | nil => simp [set, get?]
  | cons f fs ih =>
    obtain ⟨k, w⟩ := f
    by_cases h : k = name
    · simp [set, get?, h]
    · simp only [set, h, if_false, get?, List.lookup_cons, beq_false_of_ne (Ne.symm h)]
      exact ih

theorem get?_set_of_ne (fs : Fields) {name other : Units} (v : Value) (h : other ≠ name) :
    get? (set fs name v) other = get? fs other := by
  induction fs with
  | nil => simp [set, get?, List.lookup_cons, beq_false_of_ne h]
  | cons f fs ih =>
    obtain ⟨k, w⟩ := f
    by_cases hk : k = name
    · subst hk
      simp [set, get?, List.lookup_cons, beq_false_of_ne h]
    · simp only [set, hk, if_false, get?, List.lookup_cons] at ih ⊢
      cases hb : other == k
      · exact ih
      · rfl

end Fields
end HdProvision.Json
