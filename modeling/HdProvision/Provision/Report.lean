import HdProvision.Console.Emitter
import HdProvision.Provision.Outcome

/-!
# The report

What the operator is shown of an outcome, as JSON or as lines of text. The phrase of a new set of
wallets is printed whatever the verbosity, and exactly once.
-/

set_option autoImplicit false

namespace HdProvision.Provision.Report

open Console (Emitter)

variable {ε : Type}

def recordPhraseNotice : String :=
  "\n\nRecord the following mnemonic recovery phrase in the sequence provided\n" ++
  "and keep it secret! You cannot recover your wallet without these words\n" ++
  "plus your mnemonic passphrase if you provided one.\n"

/-- A path as it is shown; a missing one is named so. -/
def pathText (path : Option String) : String := path.getD "None"

def consumingLine (w : Wallet.Identity) : String :=
  "Consuming Wallet (" ++ pathText w.derivationPath ++ "): " ++ w.address

def earningLine (w : Wallet.Identity) : String :=
  match w.derivationPath with
  | some path => "  Earning Wallet (" ++ path ++ "): " ++ w.address
  | none => "  Earning Wallet: " ++ w.address

/-- Prints the report as JSON. -/
def paintJson (o : Outcome) : Program ε Unit :=
  Emitter.secret none (some (String.ofList (Json.write o.report))) true

/-- Prints the report as text. -/
def paintText (e : Emitter) (o : Outcome) : Program ε Unit := do
  if let some phrase := o.phrase then
    e.say .yellow recordPhraseNotice
    Emitter.secret (some .cyan) (some phrase) true
    e.echo (.plain .white) none true 0
  e.say .white (consumingLine o.consuming)
  e.say .white (earningLine o.earning)

/-- Prints one of both reports. -/
def paint (e : Emitter) (o : Outcome) (json : Bool) : Program ε Unit :=
  if json then paintJson o else paintText e o

end HdProvision.Provision.Report
