import HdProvision.Text.Blank
import HdProvision.Wallet.Address
import HdProvision.Wallet.ExtendedKey

/-!
# Wallets

A wallet as far as provisioning is concerned: an address, and for a wallet derived from the seed its
path and public key. `derive` makes the wallet at a path of a seed. An earning wallet is named by a
path or by an address; `EarningWallet.ofString` tells which.
-/

set_option autoImplicit false

namespace HdProvision.Wallet

/-- A wallet by its address, with its path and public key when it is derived. -/
structure Identity where
  address : String
  derivationPath : Option String
  publicKey : Option String
  deriving DecidableEq, Repr

namespace Identity

def isDerived (w : Identity) : Bool := w.derivationPath.isSome

/-- The wallet of a private key, at the path it was derived along. -/
def ofKey (path : String) (key : Nat) : Identity :=
  let point := Secp256k1.publicPoint key
  { address := (Address.ofPoint point).text
    derivationPath := some path
    publicKey := some ("0x" ++ Hex.encode (Address.uncompressed point)) }

/-- The wallet at a path of a seed. -/
def derive (seed : Bytes) (path : String) : Except PathFault Identity :=
  match DerivationPath.ofString path with
  | .error fault => .error fault
  | .ok children =>
    match (ExtendedKey.ofSeed seed).descend? children with
    | none => .error .tooBig
    | some k => .ok (ofKey path k.key)

end Identity

/-- An address of an earning wallet that is not derived from the seed, as it was given. -/
structure EarningAddress where
  text : String
  address : Address
  deriving DecidableEq, Repr

namespace EarningAddress

/-- The address that a text spells, if it is one. -/
def ofString? (s : String) : Option EarningAddress := (Address.ofString? s).map fun a => ⟨s, a⟩

/-- What is said about a text that is no address. -/
def invalidMessage (s : String) : String := "'" ++ s ++ "' is not a valid earning wallet address"

/-- The wallet at an address. -/
def wallet (e : EarningAddress) : Identity := ⟨e.address.text, none, none⟩

end EarningAddress

/-- Where the earning wallet comes from. -/
inductive EarningWallet
  | external (e : EarningAddress)
  | derived (path : String)
  deriving DecidableEq, Repr

namespace EarningWallet

/-- A path if the text starts like one, else an address; the error is the text that is none. -/
def ofString (s : String) : Except String EarningWallet :=
  let cs := Text.stripChars s.toList
  let value := String.ofList cs
  match cs with
  | 'm' :: '/' :: _ => .ok (.derived value)
  | _ =>
    match EarningAddress.ofString? value with
    | some e => .ok (.external e)
    | none => .error value

end EarningWallet
end HdProvision.Wallet
