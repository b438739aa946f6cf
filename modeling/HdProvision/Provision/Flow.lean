import HdProvision.Mnemonic.Seed
import HdProvision.Provision.Collect
import HdProvision.Provision.Guard
import HdProvision.Provision.Outcome

/-!
# Provisioning

Two ways to a set of wallets: `generate` makes a new phrase, `recover` takes a known one. Both go
through the same stages, and what a stage needs is asked for in that stage only: the guard, the
language, the earning wallet, the phrase, the passphrase, the database password, and the wallets at
the consuming and the earning path.
-/

set_option autoImplicit false

namespace HdProvision.Provision

open Console (Emitter)
open Mnemonic (Language)
open Wallet (EarningWallet Identity)

/-- An earning wallet as it was given: as text, or understood already. -/
inductive EarningChoice
  | text (s : String)
  | wallet (w : EarningWallet)
  deriving DecidableEq, Repr

def defaultConsumingPath : String := "m/44'/60'/0'/0/0"

def defaultEarningPath : String := "m/44'/60'/0'/0/1"

/-- What both ways of provisioning are asked with. Secrets that are missing are asked for, if that
is possible. -/
structure Request where
  dbPassword : Option String
  language : String
  consumingPath : String
  earning : EarningChoice
  passphrase : Option String
  owner : Owner
  emitter : Emitter
  interactive : Bool

/-- Where the phrase of a new set of wallets comes from. A prepared phrase is taken as it is, and
that it was asked for is noted. -/
inductive PhraseSource
  | fresh
  | prepared (phrase : String)
  deriving DecidableEq, Repr

namespace Flow

/-- The source of its log events. -/
def source : String := "provisioning"

/-- The language with a name. -/
def language (name : String) : Program Error Language :=
  (Language.find? name).elim (throw (.config (.unknownLanguage name))) pure

/-- The earning wallet that was chosen. -/
def earningWallet : EarningChoice → Program Error EarningWallet
  | .wallet w => pure w
  | .text s =>
    match EarningWallet.ofString s with
    | .ok w => pure w
    | .error text => throw (.earningAddressRejected text)

/-- Goes on only if the operator can be asked. -/
def require (interactive : Bool) (p : Parameter) : Program Error Unit :=
  if interactive then pure () else throw (.config (.notSupplied p))

/-- A phrase for a new set of wallets. -/
def newPhrase (origin : PhraseSource) (wordCount : Int) (l : Language) : Program Error String :=
  match origin with
  | .prepared phrase => do
    modify fun s => { s with phraseRequests := s.phraseRequests ++ [(wordCount, l)] }
    return phrase
  | .fresh =>
    match Mnemonic.WordCount.ofInt? wordCount with
    | none => throw (.wordCount wordCount)
    | some count => do
      let entropy ← Session.draw count.entropySize
      return Mnemonic.display l (Mnemonic.ofEntropy l entropy)

/-- The words of a known phrase, asked for if they are missing. -/
def knownWords (r : Request) : Option (List String) → Program Error (List String)
  | some words => pure words
  | none => do
    require r.interactive .mnemonic
    Collect.words r.emitter

/-- The phrase that words make. -/
def knownPhrase (l : Language) (words : List String) : Program Error String :=
  match Mnemonic.validate l words with
  | .ok phrase => pure phrase
  | .error rejection => do
    Session.note .warn source
      ("Rejected " ++ l.identifier ++ " mnemonic phrase: " ++ rejection.reason.text)
    throw (.mnemonicRejected rejection)

/-- The passphrase, asked for if it is missing. -/
def passphrase (r : Request) (request : Collect.PassphraseRequest) : Program Error String := do
  match r.passphrase with
  | some p =>
    Session.note .debug source
      "Using the mnemonic passphrase supplied on the command line or environment"
    return p
  | none =>
    require r.interactive .passphrase
    Collect.passphrase r.emitter request Collect.maxAttempts

/-- Whether a password has nothing but white space. -/
def isBlankPassword (password : String) : Bool := Text.strip password = ""

/-- The database password, asked for if it is missing; a blank one is refused. -/
def dbPassword (r : Request) : Program Error String := do
  let password ← match r.dbPassword with
    | some p => pure p
    | none => do
      require r.interactive .dbPassword
      Collect.dbPassword r.emitter true (some Collect.dbPasswordVariable)
  if isBlankPassword password then throw (.config .blankPassword)
  return password

/-- A wallet at a path of the seed, with the path it was derived along. -/
structure DerivedWallet where
  identity : Identity
  isDerived : identity.isDerived = true

/-- The wallet at a path of the seed. -/
def derive (seed : Bytes) (path : String) (role : Role) : Program Error DerivedWallet :=
  match Identity.derive seed path with
  | .error _ => throw (.malformedPath role path)
  | .ok w =>
    if h : w.isDerived = true then do
      Session.note .info source
        ("Derived " ++ role.name ++ " wallet " ++ w.address ++ " at " ++ path)
      return ⟨w, h⟩
    else throw (.malformedPath role path)

/-- The earning wallet itself. -/
def earning (seed : Bytes) : EarningWallet → Program Error Identity
  | .derived path => do
    let w ← derive seed path .earning
    return w.identity
  | .external e => do
    Session.note .info source ("Using external earning wallet " ++ e.wallet.address)
    return e.wallet

/-- What the stages before are needed for. -/
structure Parts where
  phrase : String
  passphrase : String
  language : Language
  earning : EarningWallet
  dbPassword : String

/-- Derives the wallets. The phrase goes into the outcome only if it is to be shown. -/
def assemble (r : Request) (p : Parts) (showPhrase : Bool) : Program Error Outcome := do
  let seed := Mnemonic.seed p.phrase p.passphrase
  let consuming ← derive seed r.consumingPath .consuming
  let earningIdentity ← earning seed p.earning
  return {
    seed := seed
    language := p.language.identifier
    consuming := consuming.identity
    earning := earningIdentity
    dbPassword := p.dbPassword
    owner := r.owner
    phrase := if showPhrase then some p.phrase else none
    consuming_isDerived := consuming.isDerived }

variable [Json.Nesting]

/-- Makes a new set of wallets. -/
def generate (c : Store.Configuration) (r : Request) (wordCount : Int) (origin : PhraseSource) :
    Program Error Outcome := do
  (Guard.check c).mapError (GuardFault.toError .seedCollision)
  let l ← language r.language
  let e ← earningWallet r.earning
  let phrase ← newPhrase origin wordCount l
  Session.note .info source
    ("Generated a " ++ Text.Integer.text wordCount ++ " word " ++ l.identifier ++
      " mnemonic phrase")
  let passphrase ← passphrase r Collect.newPassphrase
  let dbPassword ← dbPassword r
  assemble r ⟨phrase, passphrase, l, e, dbPassword⟩ true

/-- Takes a known phrase to its wallets. -/
def recover (c : Store.Configuration) (r : Request) (words : Option (List String)) :
    Program Error Outcome := do
  (Guard.check c).mapError (GuardFault.toError .alreadyProvisioned)
  let l ← language r.language
  let e ← earningWallet r.earning
  let words ← knownWords r words
  let phrase ← knownPhrase l words
  let passphrase ← passphrase r Collect.knownPassphrase
  let dbPassword ← dbPassword r
  assemble r ⟨phrase, passphrase, l, e, dbPassword⟩ false

end Flow
end HdProvision.Provision
