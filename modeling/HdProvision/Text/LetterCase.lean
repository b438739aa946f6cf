import HdProvision.Text.Table
import HdProvision.Text.Tables.CaseFolding
import HdProvision.Text.Tables.Lowercase
import HdProvision.Text.Tables.Cased

/-!
# Letter case

Case folding, for comparison without regard to case, and lower case, where a capital sigma that ends
a word becomes the final small sigma.
-/

set_option autoImplicit false

namespace HdProvision.Text

/-- The case foldings of characters beyond ASCII. -/
def foldingTable : Table.Pages := Table.pages Tables.caseFoldingPages

/-- The case folding of one character. -/
def foldChar (c : Char) : List Char :=
  if c.isUpper then [c.toLower]
  else if c.toNat < 0x80 then [c]
  else (Table.find? foldingTable c).getD [c]

/-- The case folding of a text. -/
def caseFold (s : String) : String := String.ofList (s.toList.flatMap foldChar)

/-- The lower case of characters beyond ASCII. -/
def lowercaseTable : Table.Pages := Table.pages Tables.lowercasePages

/-- The lower case of one character, whatever stands around it. -/
def lowerChar (c : Char) : List Char :=
  if c.isUpper then [c.toLower]
  else if c.toNat < 0x80 then [c]
  else (Table.find? lowercaseTable c).getD [c]

/-- The ranges of characters that have case. -/
def casedRanges : List (Nat × Nat × Nat) := Table.ranges Tables.casedRanges

/-- The ranges of characters that are skipped when the case around a place is asked for. -/
def caseIgnorableRanges : List (Nat × Nat × Nat) := Table.ranges Tables.caseIgnorableRanges

def isCased (c : Char) : Bool := (Table.valueIn? c.toNat casedRanges).isSome

def isCaseIgnorable (c : Char) : Bool := (Table.valueIn? c.toNat caseIgnorableRanges).isSome

/-- Whether the first character that is not skipped has case. -/
def startsCased (cs : List Char) : Bool :=
  match cs.dropWhile isCaseIgnorable with
  | c :: _ => isCased c
  | [] => false

/-- Lower case of the characters left, with the characters before them, last first. -/
def lowerFrom (before : List Char) : List Char → List Char
  | [] => []
  | c :: cs =>
    let lower :=
      if c = 'Σ' then [if startsCased before && !startsCased cs then 'ς' else 'σ']
      else lowerChar c
    lower ++ lowerFrom (c :: before) cs

/-- The lower case of a text. -/
def lower (s : String) : String := String.ofList (lowerFrom [] s.toList)

end HdProvision.Text
