import HdProvision.Mnemonic.Language
import HdProvision.Mnemonic.Lists.ChineseSimplified
import HdProvision.Mnemonic.Lists.ChineseTraditional
import HdProvision.Mnemonic.Lists.Czech
import HdProvision.Mnemonic.Lists.English
import HdProvision.Mnemonic.Lists.French
import HdProvision.Mnemonic.Lists.Italian
import HdProvision.Mnemonic.Lists.Japanese
import HdProvision.Mnemonic.Lists.Korean
import HdProvision.Mnemonic.Lists.Portuguese
import HdProvision.Mnemonic.Lists.Spanish

/-!
# Word lists

The words of a language, each at its number. A word is found by its compatibility decomposition.
Beside the lists of the languages there are lists that no phrase is made from; of these the name
and the size are known here, and their words are not held.
-/

set_option autoImplicit false

namespace HdProvision.Mnemonic

namespace Lists

/-- The words on the lines of a list. -/
def wordsOf (lines : List String) : List String :=
  lines.flatMap fun line => (Text.split ' ' line.toList).map String.ofList

def englishWords : List String := wordsOf english

def chineseSimplifiedWords : List String := wordsOf chineseSimplified

def chineseTraditionalWords : List String := wordsOf chineseTraditional

def frenchWords : List String := wordsOf french

def italianWords : List String := wordsOf italian

def japaneseWords : List String := wordsOf japanese

def koreanWords : List String := wordsOf korean

def spanishWords : List String := wordsOf spanish

def czechWords : List String := wordsOf czech

def portugueseWords : List String := wordsOf portuguese

end Lists

namespace Language

/-- The words of a language, decomposed. -/
def words : Language → List String
  | english => Lists.englishWords
  | chineseSimplified => Lists.chineseSimplifiedWords
  | chineseTraditional => Lists.chineseTraditionalWords
  | french => Lists.frenchWords
  | italian => Lists.italianWords
  | japanese => Lists.japaneseWords
  | korean => Lists.koreanWords
  | spanish => Lists.spanishWords
  | czech => Lists.czechWords
  | portuguese => Lists.portugueseWords

/-- The word with a given number. -/
def word (l : Language) (i : Nat) : String := l.words.getD i ""

/-- The number of a decomposed word. -/
def index? (l : Language) (w : String) : Option Nat := l.words.idxOf? w

/-- What stands between the words of a phrase that is shown. -/
def separator : Language → String
  | japanese => "\u3000"
  | _ => " "

end Language

namespace Lists

/-- The number of words in every list. -/
def size : Nat := 2048

/-- The names of the lists whose words are not held. -/
def notHeld : List String := ["russian", "turkish"]

/-- Why words of a list are not given. -/
inductive Fault
  | unknown
  | notHeld (name : String)
  deriving DecidableEq, Repr

def Fault.message : Fault → String
  | .unknown => "Language not detected"
  | .notHeld name => "The words of the list '" ++ name ++ "' are not held"

/-- The place in a list that a number means: below zero it counts from the end. -/
def place (i : Int) : Nat := min (if i < 0 then (i + size).toNat else i.toNat) size

/-- The words of a named list from one place up to another. Where no place lies between the two
there are no words to give, whatever the list holds. -/
def between (name : String) (first last : Int) : Except Fault (List String) :=
  let start := place first
  let stop := place last
  match Language.ofIdentifier? name with
  | some l => .ok ((l.words.drop start).take (stop - start))
  | none =>
    if !notHeld.contains name then .error .unknown
    else if stop ≤ start then .ok []
    else .error (.notHeld name)

end Lists
end HdProvision.Mnemonic
