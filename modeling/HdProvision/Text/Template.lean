/-!
# Templates with braces

A template is text in which a field name stands between braces and a brace of the text itself is
written twice. Escaping doubles the braces of a text, so that the template stands for the text
itself and names no field.
-/

set_option autoImplicit false

namespace HdProvision.Text.Template

/-- A piece of a template. -/
inductive Piece
  | letter (c : Char)
  | field (name : List Char)
  deriving DecidableEq, Repr

/-- Why a text is no template. -/
inductive Fault
  | loneBrace
  | unclosedField
  deriving DecidableEq, Repr

/-- Reads the pieces of a template. Inside a field, the first argument holds the characters of its
name, last first. -/
def piecesFrom : Option (List Char) → List Char → Except Fault (List Piece)
  | none, [] => .ok []
  | some _, [] => .error .unclosedField
  | some n, c :: cs =>
    if c = '}' then (piecesFrom none cs).map (.field n.reverse :: ·)
    else if c = '{' then .error .unclosedField
    else piecesFrom (some (c :: n)) cs
  | none, '{' :: '{' :: cs => (piecesFrom none cs).map (.letter '{' :: ·)
  | none, '}' :: '}' :: cs => (piecesFrom none cs).map (.letter '}' :: ·)
  | none, c :: cs =>
    if c = '{' then piecesFrom (some []) cs
    else if c = '}' then .error .loneBrace
    else (piecesFrom none cs).map (.letter c :: ·)

/-- The pieces of a template. -/
def pieces (template : List Char) : Except Fault (List Piece) := piecesFrom none template

/-- The text of a piece, where `fields` gives the texts of fields. -/
def Piece.render? (fields : List (String × String)) : Piece → Option (List Char)
  | .letter c => some [c]
  | .field name => (fields.lookup (String.ofList name)).map String.toList

/-- The text that a template stands for; none if it is no template or names an unknown field. -/
def render? (template : String) (fields : List (String × String)) : Option String :=
  match pieces template.toList with
  | .error _ => none
  | .ok ps => (ps.mapM (Piece.render? fields)).map fun parts => String.ofList parts.flatten

/-- How one character is written in a template. -/
def escapeChar (c : Char) : List Char := if c = '{' || c = '}' then [c, c] else [c]

/-- The template that stands for a text. -/
def escape (s : String) : String := String.ofList (s.toList.flatMap escapeChar)

/-- The pieces of an escaped text are its characters. -/
theorem pieces_escape (cs : List Char) :
    pieces (cs.flatMap escapeChar) = .ok (cs.map Piece.letter) := by
  induction cs with
  | nil => rfl
  | cons c cs ih =>
    unfold pieces at ih ⊢
    by_cases ho : c = '{'
    · subst ho; simp [escapeChar, piecesFrom, ih, Except.map]
    · by_cases hc : c = '}'
      · subst hc; simp [escapeChar, piecesFrom, ih, Except.map]
      · simp [escapeChar, ho, hc, piecesFrom, ih, Except.map]

end HdProvision.Text.Template
