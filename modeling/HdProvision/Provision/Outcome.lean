import HdProvision.Json.Writer
import HdProvision.Provision.Owner
import HdProvision.Text.Quoted
import HdProvision.Wallet.Identity

/-!
# What provisioning produced

The seed, the two wallets and what protects them, handed on as one unit. The phrase is there only
when it was made by the run itself. `report` is what the operator is shown; `inspect` shows no
secret.
-/

set_option autoImplicit false

namespace HdProvision.Provision

open Wallet (Identity)

/-- A finished provisioning; its consuming wallet is derived from the seed. -/
structure Outcome where
  seed : Bytes
  language : String
  consuming : Identity
  earning : Identity
  dbPassword : String
  owner : Owner
  phrase : Option String
  consuming_isDerived : consuming.isDerived = true

namespace Outcome

/-- What is said about a consuming wallet that is not derived. -/
def notDerivedMessage : String := "The consuming wallet must be derived from the mnemonic seed"

/-- An outcome of its parts, if the consuming wallet is derived. -/
def ofParts? (seed : Bytes) (language : String) (consuming earning : Identity)
    (dbPassword : String) (owner : Owner) (phrase : Option String) : Option Outcome :=
  if h : consuming.isDerived = true then
    some ⟨seed, language, consuming, earning, dbPassword, owner, phrase, h⟩
  else none

/-- Whether the run made the phrase. -/
def generated (o : Outcome) : Bool := o.phrase.isSome

/-- A field of a report. -/
def entry (name value : String) : Json.Units × Json.Value :=
  (Json.Units.ofString name, .text (Json.Units.ofString value))

/-- What is reported of a wallet. -/
def walletEntry (w : Identity) : Json.Value :=
  match w.derivationPath with
  | some path => .object [entry "derivationPath" path, entry "address" w.address]
  | none => .object [entry "address" w.address]

/-- What the operator is shown. -/
def report (o : Outcome) : Json.Value :=
  .object (((o.phrase.map (entry "mnemonicPhrase")).toList) ++
    [ (Json.Units.ofString "consumingWallet", walletEntry o.consuming),
      (Json.Units.ofString "earningWallet", walletEntry o.earning) ])

/-- A literal, or the word for what is missing. -/
def literal? : Option String → String
  | some s => Text.Quoted.quote s
  | none => "None"

def inspectWallet (w : Identity) : String :=
  "WalletIdentity(address=" ++ Text.Quoted.quote w.address ++ ", derivation_path=" ++
    literal? w.derivationPath ++ ", public_key=" ++ literal? w.publicKey ++ ")"

def inspectNumber : Option Int → String
  | some n => Text.Integer.text n
  | none => "None"

def inspectOwner (o : Owner) : String :=
  let home := match o.home with
    | some p => "PosixPath(" ++ Text.Quoted.quote p.text ++ ")"
    | none => "None"
  "RealUser(uid=" ++ inspectNumber o.uid ++ ", gid=" ++ inspectNumber o.gid ++ ", home_dir=" ++
    home ++ ")"

/-- The outcome without its secrets. -/
def inspect (o : Outcome) : String :=
  "ProvisioningResult(language=" ++ Text.Quoted.quote o.language ++ ", consuming_wallet=" ++
    inspectWallet o.consuming ++ ", earning_wallet=" ++ inspectWallet o.earning ++
    ", real_user=" ++ inspectOwner o.owner ++ ")"

end Outcome
end HdProvision.Provision
