import HdProvision.Text.Table
import HdProvision.Text.Tables.Identifier

/-!
# Identifiers

What may be used as a name: a letter or low line, and then letters, digits, marks and low lines, of
any script. Some words have a meaning of their own and name nothing else.
-/

set_option autoImplicit false

namespace HdProvision.Text

namespace Identifier

/-- The ranges of characters that an identifier may start with. -/
def startRanges : List (Nat × Nat × Nat) := Table.ranges Tables.identifierStartRanges

/-- The ranges of characters that only follow in an identifier. -/
def tailRanges : List (Nat × Nat × Nat) := Table.ranges Tables.identifierTailRanges

def isStart (c : Char) : Bool := (Table.valueIn? c.toNat startRanges).isSome

def isTail (c : Char) : Bool := isStart c || (Table.valueIn? c.toNat tailRanges).isSome

end Identifier

/-- Whether a list of characters is an identifier. -/
def isIdentifier : List Char → Bool
  | [] => false
  | c :: cs => Identifier.isStart c && cs.all Identifier.isTail

/-- The words with a meaning of their own. -/
def reservedWords : List String :=
  ["False", "None", "True", "and", "as", "assert", "async", "await", "break", "class", "continue",
    "def", "del", "elif", "else", "except", "finally", "for", "from", "global", "if", "import",
    "in", "is", "lambda", "nonlocal", "not", "or", "pass", "raise", "return", "try", "while",
    "with", "yield"]

end HdProvision.Text
