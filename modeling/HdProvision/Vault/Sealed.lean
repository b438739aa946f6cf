import HdProvision.Bytes.Hex
import HdProvision.Json.Value
import HdProvision.Text.Integer
import HdProvision.Vault.KeyMaterial

/-!
# Secrets sealed under a password

A sealed secret is the wrapped octets and the two salts that lead from the password to the wrapping
key. It is stored as an object with three hexadecimal texts. `lock` makes one, `unlock` reads a stored
value and undoes it: the first salt is read and the password stretched before the other fields are
looked at.
-/

set_option autoImplicit false

namespace HdProvision.Vault

/-- A secret under a password. -/
structure Sealed where
  ciphertext : Bytes
  passwordSalt : Bytes
  wrapperSalt : Bytes
  deriving DecidableEq, Repr

/-- The random octets that sealing takes, in the order in which they are drawn. -/
structure Salts where
  password : Bytes
  wrapper : Bytes
  nonce : Bytes
  deriving DecidableEq, Repr

def saltSize : Nat := 32

/-- What a JSON value is called in a message. -/
def kindName : Json.Value → String
  | .null => "NoneType"
  | .bool _ => "bool"
  | .int _ => "int"
  | .real _ => "float"
  | .text _ => "str"
  | .array _ => "list"
  | .object _ => "dict"

/-- Why a stored value was not opened. -/
inductive OpenFault
  | missing (field : String)
  | notFields (kind : Json.Value)
  | notText (kind : Json.Value)
  | notHex (position : Nat)
  | stretch (fault : StretchFault)
  | wrongKey

namespace OpenFault

/-- What is said about a value that has no fields. -/
def notFieldsMessage : Json.Value → String
  | .array _ => "list indices must be integers or slices, not str"
  | .text _ => "string indices must be integers, not 'str'"
  | v => "'" ++ kindName v ++ "' object is not subscriptable"

/-- What is said about a field that is no text. -/
def notTextMessage : Json.Value → String
  | .null => "fromhex() argument must be str, not None"
  | v => "fromhex() argument must be str, not " ++ kindName v

def message : OpenFault → String
  | missing field => "'" ++ field ++ "'"
  | notFields v => notFieldsMessage v
  | notText v => notTextMessage v
  | notHex position =>
    "non-hexadecimal number found in fromhex() arg at position " ++ Text.Integer.text position
  | stretch fault => fault.message
  | wrongKey => ""

end OpenFault

namespace Sealed

/-- A secret sealed with key material and the salts that belong to it. -/
def ofMaterial (salts : Salts) (material secret : Bytes) : Sealed :=
  ⟨wrap material salts.wrapper salts.nonce secret, salts.password, salts.wrapper⟩

/-- Seals a secret under a password. -/
def lock (s : Stretcher) (salts : Salts) (secret : Bytes) (password : String) :
    Except StretchFault Sealed :=
  (s.run (Utf8.encode password) salts.password).map fun material => ofMaterial salts material secret

/-- The stored form of a sealed secret. -/
def toFields (s : Sealed) : Json.Fields :=
  [ (Json.Units.ofString "ciphertext", .text (Json.Units.ofString (Hex.encode s.ciphertext))),
    (Json.Units.ofString "password_salt", .text (Json.Units.ofString (Hex.encode s.passwordSalt))),
    (Json.Units.ofString "wrapper_salt", .text (Json.Units.ofString (Hex.encode s.wrapperSalt))) ]

/-- The octets in a field of a stored value. -/
def octets (stored : Json.Value) (field : String) : Except OpenFault Bytes :=
  match stored with
  | .object fields =>
    match Json.Fields.get? fields (Json.Units.ofString field) with
    | none => .error (.missing field)
    | some (.text us) =>
      match Hex.decode us.toString with
      | .ok bs => .ok bs
      | .error position => .error (.notHex position)
    | some v => .error (.notText v)
  | v => .error (.notFields v)

/-- The secret in a stored value, if the password is the one it was sealed under. -/
def unlock (s : Stretcher) (stored : Json.Value) (password : String) : Except OpenFault Bytes := do
  let passwordSalt ← octets stored "password_salt"
  let material ← (s.run (Utf8.encode password) passwordSalt).mapError .stretch
  let wrapperSalt ← octets stored "wrapper_salt"
  let ciphertext ← octets stored "ciphertext"
  match unwrap? material wrapperSalt ciphertext with
  | some secret => .ok secret
  | none => .error .wrongKey

end Sealed
end HdProvision.Vault
