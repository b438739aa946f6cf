import HdProvision.Session.Basic
import HdProvision.Store.Config

/-!
# Recording in the configuration

What a session records in the configuration file: the password, by something sealed under it; the
seed, sealed under the recorded password and never replaced; a path and an address. What was
recorded of secrets is logged without them.
-/

set_option autoImplicit false

namespace HdProvision.Store

/-- The configuration at a path. -/
structure Configuration where
  file : Path
  deriving DecidableEq, Repr

namespace Configuration

/-- The source of its log events. -/
def source : String := "LocalPersistentConfiguration"

/-- The configuration in a directory. -/
def inDirectory (root : Path) : Configuration := ⟨root.child Config.fileName⟩

/-- The configuration as it is shown. -/
def inspect (c : Configuration) : String :=
  "LocalPersistentConfiguration(filepath=" ++ c.file.text ++ ")"

variable [Json.Nesting]

/-- A question about the configuration. -/
def asks {α : Type} (question : Vault.Stretcher → Disk → Except StoreError α) :
    Program StoreError α := do
  let s ← get
  Program.ofExcept (question s.stretcher s.disk)

def seedExists (c : Configuration) : Program StoreError Bool :=
  asks fun _ d => Config.seedExists d c.file

def checkPassword (c : Configuration) (password : String) : Program StoreError (Option Bool) :=
  asks fun s d => Config.checkPassword s d c.file password

def seed (c : Configuration) (password : String) : Program StoreError (Option Bytes) :=
  asks fun s d => Config.seed s d c.file password

def field (c : Configuration) (name : Json.Units) : Program StoreError (Option Json.Value) :=
  asks fun _ d => Config.field d c.file name

/-- Seals a secret with random salts. The nonce is drawn when the password has been stretched. -/
def sealSecret (secret : Bytes) (password : String) : Program StoreError Vault.Sealed := do
  let passwordSalt ← Session.draw Vault.saltSize
  let wrapperSalt ← Session.draw Vault.saltSize
  let s ← get
  match s.stretcher.run (Utf8.encode password) passwordSalt with
  | .error fault => throw (.stretch fault)
  | .ok material =>
    let nonce ← Session.draw SecretBox.nonceSize
    return Vault.Sealed.ofMaterial ⟨passwordSalt, wrapperSalt, nonce⟩ material secret

/-- Sets one field of the file. -/
def update (c : Configuration) (name : Json.Units) (v : Json.Value) : Program StoreError Unit := do
  let s ← get
  let (r, d) := Config.update s.disk c.file name v
  set { s with disk := d }
  Program.ofExcept r

/-- Records the password, unless it is recorded already. -/
def recordPassword (c : Configuration) (password : String) : Program StoreError Unit := do
  match ← c.checkPassword password with
  | some false => throw (.storage .otherPassword)
  | some true => return ()
  | none =>
    let sealedCheck ← sealSecret Config.checkText password
    c.update Config.checkField (.object sealedCheck.toFields)
    Session.note .info source ("Recorded database password check in " ++ c.file.text)

/-- Records the seed under the recorded password. -/
def recordSeed (c : Configuration) (secret : Bytes) (password : String) :
    Program StoreError Unit := do
  if ← c.seedExists then throw (.storage (.seedExists c.file))
  match ← c.checkPassword password with
  | some true =>
    let sealedSeed ← sealSecret secret password
    c.update Config.seedField (.object sealedSeed.toFields)
    Session.note .info source ("Recorded encrypted mnemonic seed in " ++ c.file.text)
  | _ => throw (.storage .noPassword)

def recordConsumingPath (c : Configuration) (path : Json.Points) : Program StoreError Unit :=
  c.update Config.consumingField (.text (Json.Units.ofPoints path))

def recordEarningAddress (c : Configuration) (address : Json.Points) : Program StoreError Unit :=
  c.update Config.earningField (.text (Json.Units.ofPoints address))

end Configuration
end HdProvision.Store
