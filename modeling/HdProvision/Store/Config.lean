import HdProvision.Json.Literal
import HdProvision.Json.Reader
import HdProvision.Json.Writer
import HdProvision.Store.Disk
import HdProvision.Vault.Sealed

/-!
# The configuration file

The file holds one JSON object with the version of its format. Reading it takes the version out and
checks it; writing puts it behind all other fields. A missing file reads as an object without
fields. An update reads the file, sets one field, and writes the file anew: the file is emptied, and
only then it turns out whether the fields can be written.
-/

set_option autoImplicit false

namespace HdProvision.Store

/-- Why the configuration could not be used, as it is reported to the operator. -/
inductive StorageFault
  | malformed (file : Path)
  | unreadable (file : Path) (e : SystemError)
  | notObject (file : Path)
  | wrongVersion (file : Path) (version : Json.Value)
  | unwritable (file : Path) (e : SystemError)
  | otherPassword
  | noPassword
  | wrongPassword
  | seedExists (file : Path)

namespace StorageFault

/-- What kind of fault it is. -/
def kind : StorageFault → String
  | otherPassword | noPassword | wrongPassword => "PasswordMismatch"
  | seedExists _ => "SeedExists"
  | _ => "StorageError"

/-- What is said about a file of another version. The version may be a text that cannot be printed,
so the message is made of code units. -/
def versionMessage (file : Path) (version : Json.Value) : Json.Units :=
  Json.Units.ofString ("Configuration file at " ++ file.text ++ " is version ") ++
    Json.shown version ++ Json.Units.ofString "; expected version 1"

/-- The message as it is printed. -/
def message : StorageFault → String
  | malformed file => "Invalid JSON in configuration file at " ++ file.text
  | unreadable file e => "Cannot read configuration file at " ++ file.text ++ ": " ++ e.message
  | notObject file => "Configuration file at " ++ file.text ++ " does not hold a JSON object"
  | wrongVersion file version => (versionMessage file version).visible
  | unwritable file e => "Cannot write configuration file at " ++ file.text ++ ": " ++ e.message
  | otherPassword => "A different database password has already been recorded"
  | noPassword => "The database password must be recorded before the seed"
  | wrongPassword => "Incorrect database password"
  | seedExists file => "A mnemonic seed is already recorded in " ++ file.text

/-- The message by its code units. -/
def units : StorageFault → Json.Units
  | wrongVersion file version => versionMessage file version
  | fault => Json.Units.ofString fault.message

end StorageFault

/-- Everything that can go wrong with the configuration. Beside the faults that are reported as such
there are an integer that is too long to read, brackets that are too many to read or to write, a
sealed value that does not open, a secret that is not sealed, and a path that the system gives no
answer about. -/
inductive StoreError
  | storage (fault : StorageFault)
  | digits (count : Nat)
  | tooDeep (kind : Json.Bracket)
  | tooDeepToWrite
  | sealedValue (fault : Vault.OpenFault)
  | stretch (fault : Vault.StretchFault)
  | system (e : SystemError)

namespace StoreError

def message : StoreError → String
  | storage fault => fault.message
  | digits count => Json.ReadFault.digitsMessage count
  | tooDeep kind => Json.ReadFault.depthMessage kind
  | tooDeepToWrite => Json.Writer.depthMessage
  | sealedValue fault => fault.message
  | stretch fault => fault.message
  | system e => e.message

/-- A refusal to write the file. A path that the system is not asked about is no fault of the
storage. -/
def ofWriting (file : Path) (e : SystemError) : StoreError :=
  if e.fault = .zeroOctet then .system e else .storage (.unwritable file e)

end StoreError

namespace Config

variable [Json.Nesting]

/-- The name of the file in its directory. -/
def fileName : String := "wallets.json"

/-- The version of the format. -/
def version : Int := 1

def versionField : Json.Units := Json.Units.ofString "version"

def checkField : Json.Units := Json.Units.ofString "password_check"

def seedField : Json.Units := Json.Units.ofString "seed"

def consumingField : Json.Units := Json.Units.ofString "consuming_wallet_derivation_path"

def earningField : Json.Units := Json.Units.ofString "earning_wallet_address"

/-- What is sealed to recognise the password by. -/
def checkText : Bytes := Utf8.encode "walletforge-password-check"

/-- Whether a value counts as the version: as an integer, as a number, or as a truth value. -/
def isVersion : Json.Value → Bool
  | .int n => n = version
  | .bool b => b
  | .real (.finite false m e) => m <<< e = 1 <<< 1074
  | _ => false

/-- The fields of a value, without the version, if it has the right one. -/
def fieldsOf (file : Path) (v : Json.Value) : Except StorageFault Json.Fields :=
  match v with
  | .object fields =>
    let found := (Json.Fields.get? fields versionField).getD .null
    if isVersion found then .ok (Json.Fields.erase fields versionField)
    else .error (.wrongVersion file found)
  | _ => .error (.notObject file)

/-- The fields in the octets of a file. -/
def parse (file : Path) (content : Bytes) : Except StoreError Json.Fields :=
  match Utf8.decode? content with
  | none => .error (.storage (.malformed file))
  | some cs =>
    match Json.read cs with
    | .error .malformed => .error (.storage (.malformed file))
    | .error (.tooManyDigits n) => .error (.digits n)
    | .error (.tooDeep kind) => .error (.tooDeep kind)
    | .ok v => (fieldsOf file v).mapError .storage

/-- The object that holds some fields in the file. -/
def versioned (fields : Json.Fields) : Json.Value :=
  .object (fields ++ [(versionField, .int version)])

/-- The octets of a file with some fields. -/
def render (fields : Json.Fields) : Bytes := Utf8.encodeChars (Json.write (versioned fields))

/-- The octets of a file with some fields, unless the fields cannot be written. -/
def render? (fields : Json.Fields) : Option Bytes :=
  (Json.write? (versioned fields)).map Utf8.encodeChars

/-- The fields in the file. -/
def load (d : Disk) (file : Path) : Except StoreError Json.Fields :=
  match d.look file with
  | .error e => .error (.system e)
  | .ok none => .ok []
  | .ok (some _) =>
    match d.read file with
    | .error e => .error (.storage (.unreadable file e))
    | .ok content => parse file content

/-- Writes fields to the file, and makes its directory. Directories that were made stay when the file
itself cannot be written, and the file stays empty when the fields cannot. -/
def save (d : Disk) (file : Path) (fields : Json.Fields) : Except StoreError Unit × Disk :=
  match d.makeDirectories file.parent with
  | (.error e, d) => (.error (.ofWriting file e), d)
  | (.ok (), d) =>
    match d.create file with
    | .error e => (.error (.ofWriting file e), d)
    | .ok d =>
      match render? fields with
      | none => (.error .tooDeepToWrite, d)
      | some content =>
        match d.fill file content with
        | .error e => (.error (.ofWriting file e), d)
        | .ok d => (.ok (), d)

/-- Sets one field. -/
def update (d : Disk) (file : Path) (name : Json.Units) (v : Json.Value) :
    Except StoreError Unit × Disk :=
  match load d file with
  | .error e => (.error e, d)
  | .ok fields => save d file (fields.set name v)

/-- Whether a seed is recorded, whatever its value is. -/
def seedExists (d : Disk) (file : Path) : Except StoreError Bool :=
  (load d file).map fun fields => (Json.Fields.get? fields seedField).isSome

/-- Whether a password is the recorded one; none if none is recorded. -/
def checkPassword (s : Vault.Stretcher) (d : Disk) (file : Path) (password : String) :
    Except StoreError (Option Bool) :=
  match load d file with
  | .error e => .error e
  | .ok fields =>
    match Json.Fields.get? fields checkField with
    | none => .ok none
    | some stored =>
      match Vault.Sealed.unlock s stored password with
      | .ok secret => .ok (some (secret = checkText))
      | .error .wrongKey => .ok (some false)
      | .error fault => .error (.sealedValue fault)

/-- The recorded seed. -/
def seed (s : Vault.Stretcher) (d : Disk) (file : Path) (password : String) :
    Except StoreError (Option Bytes) :=
  match load d file with
  | .error e => .error e
  | .ok fields =>
    match Json.Fields.get? fields seedField with
    | none => .ok none
    | some stored =>
      match Vault.Sealed.unlock s stored password with
      | .ok secret => .ok (some secret)
      | .error .wrongKey => .error (.storage .wrongPassword)
      | .error fault => .error (.sealedValue fault)

/-- The value of a field. -/
def field (d : Disk) (file : Path) (name : Json.Units) : Except StoreError (Option Json.Value) :=
  (load d file).map fun fields => Json.Fields.get? fields name

end Config
end HdProvision.Store
