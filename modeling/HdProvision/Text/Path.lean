import HdProvision.Text.Split

/-!
# Path text

A path is the slashes it starts with and its parts. Empty parts and parts that are a single dot
vanish when a path is read; two leading slashes are kept, three or more count as one.
-/

set_option autoImplicit false

namespace HdProvision

/-- What a path starts from. -/
inductive Anchor
  | here
  | root
  | doubleRoot
  deriving DecidableEq, Repr

/-- A path; those that are read from text are in normal form. -/
structure Path where
  anchor : Anchor
  parts : List (List Char)
  deriving DecidableEq, Repr

namespace Path

/-- Whether a part stays in the normal form. -/
def isPart (p : List Char) : Bool := p ≠ [] && p ≠ ['.']

/-- What the leading slashes of a text stand for. -/
def anchorOf : List Char → Anchor
  | '/' :: '/' :: '/' :: _ => .root
  | '/' :: '/' :: _ => .doubleRoot
  | '/' :: _ => .root
  | _ => .here

/-- The path that a list of characters spells. -/
def ofChars (cs : List Char) : Path := ⟨anchorOf cs, (Text.split '/' cs).filter isPart⟩

/-- The path that a text spells. -/
def ofString (s : String) : Path := ofChars s.toList

def anchorChars : Anchor → List Char
  | .here => []
  | .root => ['/']
  | .doubleRoot => ['/', '/']

/-- The text of a path; the path that starts here and has no parts is a single dot. -/
def chars (p : Path) : List Char :=
  if p.anchor = .here && p.parts = [] then ['.']
  else anchorChars p.anchor ++ List.intercalate ['/'] p.parts

/-- The text of a path. -/
def text (p : Path) : String := String.ofList p.chars

/-- The path of an entry in a directory. -/
def child (p : Path) (name : String) : Path := { p with parts := p.parts ++ [name.toList] }

/-- `q` as seen from the directory `p`. -/
def resolve (p q : Path) : Path :=
  if q.anchor = .here then { p with parts := p.parts ++ q.parts } else q

/-- The directory that holds the entry. -/
def parent (p : Path) : Path := { p with parts := p.parts.dropLast }

end Path
end HdProvision
