import HdProvision.Text.Blank
import HdProvision.Text.LetterCase
import HdProvision.Text.Normal
import HdProvision.Text.Split

/-!
# Languages of recovery phrases

The languages that have a word list, and how an operator may name them: by identifier or by native
name, whatever the letter case and the white space around it.
-/

set_option autoImplicit false

namespace HdProvision.Mnemonic

/-- A language with a word list. -/
inductive Language
  | english
  | chineseSimplified
  | chineseTraditional
  | french
  | italian
  | japanese
  | korean
  | spanish
  | czech
  | portuguese
  deriving DecidableEq, Repr

namespace Language

/-- All languages, in the order in which they are offered. -/
def all : List Language :=
  [.english, .chineseSimplified, .chineseTraditional, .french, .italian, .japanese, .korean,
    .spanish, .czech, .portuguese]

/-- The name of the word list. -/
def identifier : Language → String
  | english => "english"
  | chineseSimplified => "chinese_simplified"
  | chineseTraditional => "chinese_traditional"
  | french => "french"
  | italian => "italian"
  | japanese => "japanese"
  | korean => "korean"
  | spanish => "spanish"
  | czech => "czech"
  | portuguese => "portuguese"

/-- The name of the language in the language itself. -/
def nativeName : Language → String
  | english => "English"
  | chineseSimplified => "简体中文"
  | chineseTraditional => "繁體中文"
  | french => "Français"
  | italian => "Italiano"
  | japanese => "日本語"
  | korean => "한국어"
  | spanish => "Español"
  | czech => "Čeština"
  | portuguese => "Português"

/-- The form in which names are compared. -/
def fold (name : String) : String := Text.caseFold (Text.strip (Text.nfc name))

/-- Whether a folded name is one of the two names of a language. -/
def isNamed (folded : String) (l : Language) : Bool :=
  folded = fold l.identifier || folded = fold l.nativeName

/-- The language with a given name. -/
def find? (name : String) : Option Language := all.find? (isNamed (fold name))

/-- The language whose word list has exactly this name. -/
def ofIdentifier? (name : String) : Option Language := all.find? fun l => l.identifier = name

/-- What is said about a name that belongs to no language. -/
def unknownMessage (name : String) : String :=
  "'" ++ name ++ "' is not a supported mnemonic language; options are " ++
    Text.join ", " (all.map identifier)

theorem mem_all (l : Language) : l ∈ all := by cases l <;> decide

end Language
end HdProvision.Mnemonic
