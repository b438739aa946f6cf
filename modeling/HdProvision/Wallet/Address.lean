import HdProvision.Bytes.Hex
import HdProvision.Curve.Secp256k1
import HdProvision.Hash.Keccak

/-!
# Account addresses

An address is twenty octets: the end of the digest of a public key. It is written with forty digits
behind `0x`, where the letter case of each digit depends on the digest of the digits in lower case.
It is read from digits of any case, with or without a mark in front.
-/

set_option autoImplicit false

namespace HdProvision.Wallet

/-- The octets of an address. -/
structure Address where
  octets : Bytes
  deriving DecidableEq, Repr

namespace Address

/-- The 64 octets of a public point. -/
def uncompressed (a : Secp256k1.Affine) : Bytes := Bytes.ofNatBE 32 a.x ++ Bytes.ofNatBE 32 a.y

/-- The address of a public point. -/
def ofPoint (a : Secp256k1.Affine) : Address := ⟨(Keccak.digest (uncompressed a)).drop 12⟩

/-- The digits of an octet string as numbers. -/
def nibbles (bs : Bytes) : List Nat := bs.flatMap fun b => [b.toNat / 16, b.toNat % 16]

/-- Lower case digits with the letter case that the digits of their digest tell. -/
def checksummed (ds : List Char) : List Char :=
  List.zipWith (fun d n => if 8 ≤ n then d.toUpper else d) ds
    (nibbles (Keccak.digest (Utf8.encodeChars ds)))

/-- The text of an address, as a list of characters. -/
def chars (a : Address) : List Char := '0' :: 'x' :: checksummed (Hex.encodeChars a.octets)

/-- The text of an address. -/
def text (a : Address) : String := String.ofList a.chars

/-- The digits behind the mark, if there is one. -/
def digitsOf : List Char → List Char
  | '0' :: 'x' :: ds => ds
  | '0' :: 'X' :: ds => ds
  | ds => ds

/-- The address that a list of characters spells. -/
def ofChars? (cs : List Char) : Option Address :=
  let ds := digitsOf cs
  if ds.length = 40 && ds.all fun d => (Hex.value? d).isSome then
    match Hex.decodeChars ds with
    | .ok bs => some ⟨bs⟩
    | .error _ => none
  else none

/-- The address that a text spells. -/
def ofString? (s : String) : Option Address := ofChars? s.toList

end Address
end HdProvision.Wallet
