import HdProvision.Text.Blank
import HdProvision.Text.LetterCase
import HdProvision.Text.Quoted

/-!
# Truth values in text

The words that stand for yes and for no, in any letter case. A variable of the environment that is
set to anything else is an error and no silent default.
-/

set_option autoImplicit false

namespace HdProvision.Settings

/-- The variables of the environment. -/
abbrev Environment := List (String × String)

namespace Flag

def truthy : List String := ["y", "yes", "t", "true", "on", "1"]

def falsy : List String := ["n", "no", "f", "false", "off", "0"]

/-- The form in which words are compared. -/
def canonical (s : String) : String := Text.lower (Text.strip s)

/-- The truth value that a text stands for; the error is the text in its compared form. -/
def ofString (s : String) : Except String Bool :=
  let word := canonical s
  if truthy.contains word then .ok true
  else if falsy.contains word then .ok false
  else .error word

/-- What is said about a word that stands for neither. -/
def invalidMessage (word : String) : String := "Invalid truth value " ++ Text.Quoted.quote word

/-- The truth value of a variable, if it is set. -/
def inEnvironment? (env : Environment) (name : String) : Except String (Option Bool) :=
  match env.lookup name with
  | some value => (ofString value).map some
  | none => .ok none

/-- The truth value of a variable, or `dflt` if it is not set. -/
def ofVariable (env : Environment) (name : String) (dflt : Bool) : Except String Bool :=
  (inEnvironment? env name).map fun b => b.getD dflt

end Flag
end HdProvision.Settings
