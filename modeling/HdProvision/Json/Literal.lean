import HdProvision.Decimal.Shortest
import HdProvision.Json.Value
import HdProvision.Text.Quoted

/-!
# Values in messages

How a JSON value is shown in a message: a text as it is, and anything else as a literal.
-/

set_option autoImplicit false

namespace HdProvision.Json

/-- Parts with a comma and a blank between each two. -/
def Literal.separated : List (List Char) → List Char
  | [] => []
  | [p] => p
  | p :: ps => p ++ ',' :: ' ' :: separated ps

def Literal.real : Binary64 → List Char
  | .nan => "nan".toList
  | .infinite true => "-inf".toList
  | .infinite false => "inf".toList
  | .finite negative m e => Decimal.finiteChars negative m e

mutual

/-- The literal of a value. -/
def literal : Value → List Char
  | .null => "None".toList
  | .bool b => if b then "True".toList else "False".toList
  | .int n => Text.Integer.chars n
  | .real x => Literal.real x
  | .text us => Text.Quoted.ofCodes us.codes
  | .array vs => '[' :: Literal.separated (literals vs) ++ [']']
  | .object fs => '\x7b' :: Literal.separated (fieldLiterals fs) ++ ['\x7d']

def literals : List Value → List (List Char)
  | [] => []
  | v :: vs => literal v :: literals vs

def fieldLiterals : List (Units × Value) → List (List Char)
  | [] => []
  | (name, v) :: fs =>
    (Text.Quoted.ofCodes name.codes ++ ':' :: ' ' :: literal v) :: fieldLiterals fs

end

/-- A value as it is shown in a message. -/
def shown : Value → Units
  | .text us => us
  | v => Units.ofString (String.ofList (literal v))

end HdProvision.Json
