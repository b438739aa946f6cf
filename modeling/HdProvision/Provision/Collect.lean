import HdProvision.Console.Emitter
import HdProvision.Provision.Error

/-!
# Asking for secrets

What is asked of the operator when a secret was not supplied: the passphrase with its confirmation,
the words of a phrase, and the database password. Answers are not shown.
-/

set_option autoImplicit false

namespace HdProvision.Provision.Collect

open Console (Emitter)

/-- A question as the console of a session shows it. -/
def prompt (s : Session) (text : String) : String := s.displayed (text.toList ++ [':']) ++ " "

/-- What is printed before a passphrase is asked for, and the question itself. -/
structure PassphraseRequest where
  notice : String
  question : String
  deriving DecidableEq, Repr

/-- The request for the passphrase of a new phrase. -/
def newPassphrase : PassphraseRequest :=
  { notice :=
      "\nPlease provide an extra mnemonic passphrase to ensure your wallet is unique\n" ++
      "(NOTE: This passphrase cannot be changed later and still produce the same addresses).\n" ++
      "You will encrypt your wallet in a following step..."
    question := "  Mnemonic passphrase (recommended)" }

/-- The request for the passphrase of a known phrase. -/
def knownPassphrase : PassphraseRequest :=
  { notice :=
      "\nPlease enter the passphrase for your mnemonic, or Enter if there is none.\n" ++
      "You will encrypt your wallet in a following step..."
    question := "  Mnemonic passphrase" }

def confirmQuestion : String := "  Confirm mnemonic passphrase"

def passphrasesDiffer : String := "\nPassphrases do not match. Try again."

def noPassphraseWarning : String :=
  "\nWhile ill-advised, proceeding with no mnemonic passphrase."

def acknowledgeQuestion : String := "Press Enter to continue..."

/-- How often the exchange for a passphrase is begun at most. -/
def maxAttempts : Int := 3

/-- Waits for a line after a warning. -/
def acknowledge : Program Error Unit := do
  match ← Session.converse (Console.visible acknowledgeQuestion) with
  | some _ => return ()
  | none => throw (.inputFailed .acknowledgement)

/-- Asks for the passphrase and its confirmation. An empty one has to be acknowledged. -/
def passphrase (e : Emitter) (request : PassphraseRequest) (limit : Int) :
    Program Error String := do
  e.say .white request.notice
  let s ← get
  let dialog : Console.Confirmation :=
    ⟨prompt s request.question, prompt s confirmQuestion, e.said s.colors .red passphrasesDiffer⟩
  match ← Session.converse (Console.passphrase dialog limit 0 none) with
  | .noPassphrase => throw (.inputFailed .passphrase)
  | .noConfirmation => throw (.inputFailed .confirmation)
  | .exhausted attempts => throw (.retriesExhausted attempts)
  | .agreed p attempts =>
    Emitter.note .debug
      ("Mnemonic passphrase confirmed after " ++ toString attempts ++ " attempt(s)")
    if p = "" then
      e.say .yellow noPassphraseWarning
      acknowledge
    return p

def phraseInstructions : String :=
  "\nPlease provide your wallet's mnemonic phrase.\n" ++
  "It must be 12, 15, 18, 21, or 24 words long."

def phraseQuestion : String := "Mnemonic phrase"

/-- Asks for a phrase and splits it into its words. -/
def words (e : Emitter) : Program Error (List String) := do
  e.say .white phraseInstructions
  let s ← get
  match ← Session.converse (Console.filled (prompt s phraseQuestion)) with
  | some phrase => return Text.words phrase
  | none => throw (.inputFailed .phrase)

def repeatQuestion : String := "Repeat for confirmation"

def passwordsDiffer : String := "Error: The two entered values do not match.\n"

/-- The value of the variable that may hold a password. -/
def passwordVariable (name : Option String) : Program Error (Option String) := do
  match name with
  | none | some "" => return none
  | some n => Session.lookup n

/-- Takes a password from a variable, or asks for it; none if the input ended. -/
def password (question : String) (place : Option String) (confirm : Bool) :
    Program Error (Option String) := do
  match ← passwordVariable place with
  | some p => return some p
  | none =>
    let s ← get
    if confirm then
      Session.converse (Console.twice
        ⟨prompt s question, prompt s repeatQuestion, passwordsDiffer⟩ none)
    else Session.converse (Console.filled (prompt s question))

def dbPasswordNotice : String :=
  "\nPlease provide a password to encrypt your wallet configuration.\n" ++
  "Do not forget this password, and ideally store it using a password manager.\n"

def dbPasswordQuestion : String := "Enter database password"

/-- The variable that may hold the database password. -/
def dbPasswordVariable : String := "WALLETFORGE_DB_PASSWORD"

/-- Asks for the database password, unless a variable holds it. -/
def dbPassword (e : Emitter) (confirm : Bool) (place : Option String) :
    Program Error String := do
  let given ← passwordVariable place
  if confirm && given.isNone then e.say .white dbPasswordNotice
  match ← password dbPasswordQuestion place confirm with
  | some p => return p
  | none => throw (.inputFailed .dbPassword)

end HdProvision.Provision.Collect
