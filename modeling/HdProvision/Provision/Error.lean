import HdProvision.Mnemonic.Phrase
import HdProvision.Store.Config
import HdProvision.Wallet.Identity

/-!
# Why provisioning stopped

Some causes the operator can mend and try again, some are faults of the surroundings, and some are
values that could not be obtained. The message and the exit code of each cause are told here.
-/

set_option autoImplicit false

namespace HdProvision.Provision

/-- What a wallet is for. -/
inductive Role
  | consuming
  | earning
  deriving DecidableEq, Repr

def Role.name : Role → String
  | consuming => "consuming"
  | earning => "earning"

/-- What was to be read from the console. -/
inductive Question
  | passphrase
  | confirmation
  | acknowledgement
  | phrase
  | dbPassword
  deriving DecidableEq, Repr

def Question.name : Question → String
  | passphrase => "mnemonic passphrase"
  | confirmation => "mnemonic passphrase confirmation"
  | acknowledgement => "acknowledgement"
  | phrase => "mnemonic phrase"
  | dbPassword => "database password"

/-- A value that provisioning needs. -/
inductive Parameter
  | seed
  | language
  | mnemonic
  | passphrase
  | dbPassword
  deriving DecidableEq, Repr

def Parameter.name : Parameter → String
  | seed => "seed"
  | language => "language"
  | mnemonic => "mnemonic"
  | passphrase => "mnemonic-passphrase"
  | dbPassword => "db-password"

/-- A value that could not be obtained, and why. -/
inductive ConfigFault
  | unknownLanguage (name : String)
  | notSupplied (p : Parameter)
  | blankPassword
  | storage (p : Parameter) (fault : Store.StorageFault)

namespace ConfigFault

def parameter : ConfigFault → Parameter
  | unknownLanguage _ => .language
  | notSupplied p => p
  | blankPassword => .dbPassword
  | storage p _ => p

/-- How a parameter and a text are put together. -/
def compose (parameter text : String) : String := parameter ++ ": " ++ text

/-- How the kind of an error and its message are put together. -/
def ofKind (kind message : String) : String := kind ++ ": " ++ message

/-- What is said about the parameter. -/
def text : ConfigFault → String
  | unknownLanguage name => Mnemonic.Language.unknownMessage name
  | notSupplied _ => "not supplied and there is no way to prompt for it"
  | blankPassword => "database password must not be blank"
  | storage _ fault => ofKind fault.kind fault.message

def message (f : ConfigFault) : String := compose f.parameter.name f.text

/-- The message by its code units. -/
def units : ConfigFault → Json.Units
  | storage p fault => Json.Units.ofString (compose p.name (ofKind fault.kind "")) ++ fault.units
  | f => Json.Units.ofString f.message

end ConfigFault

/-- Why provisioning stopped. -/
inductive Error
  | config (fault : ConfigFault)
  | alreadyProvisioned
  | mnemonicRejected (r : Mnemonic.Rejection)
  | earningAddressRejected (text : String)
  | seedCollision
  | malformedPath (role : Role) (path : String)
  | retriesExhausted (attempts : Nat)
  | inputFailed (what : Question)
  | wordCount (n : Int)
  | store (e : Store.StoreError)

/-- What is said when there is a seed already. -/
def seedExistsMessage : String := "mnemonic seed has already been created"

namespace Error

def message : Error → String
  | config fault => fault.message
  | alreadyProvisioned => "Can't recover wallets: " ++ seedExistsMessage
  | mnemonicRejected r => r.message
  | earningAddressRejected text => Wallet.EarningAddress.invalidMessage text
  | seedCollision => "Can't generate wallets: " ++ seedExistsMessage
  | malformedPath role path =>
    "Couldn't make key pair from " ++ role.name ++ " derivation path '" ++ path ++ "'"
  | retriesExhausted attempts =>
    "Mnemonic passphrases did not match after " ++ toString attempts ++ " attempts"
  | inputFailed what => "Failed to read the " ++ what.name ++ " from the console"
  | wordCount n => Mnemonic.WordCount.unknownMessage n
  | store e => e.message

/-- How a stopped run is told apart from others in the log, and the code it exits with: one when the
operator can mend the input, 70 when something else broke. Other causes are no end of a run. -/
def ending? : Error → Option (String × Nat)
  | alreadyProvisioned => some ("AlreadyProvisioned", 1)
  | mnemonicRejected _ => some ("MnemonicRejected", 1)
  | earningAddressRejected _ => some ("EarningAddressRejected", 1)
  | seedCollision => some ("SeedCollision", 70)
  | malformedPath _ _ => some ("MalformedDerivationPath", 70)
  | retriesExhausted _ => some ("PassphraseRetriesExhausted", 70)
  | inputFailed _ => some ("InteractiveInputFailed", 70)
  | config _ | wordCount _ | store _ => none

end Error
end HdProvision.Provision
