import HdProvision.Bytes.Utf8
import HdProvision.Curve.Secp256k1
import HdProvision.Hash.Keyed
import HdProvision.Wallet.DerivationPath

/-!
# Private keys derived from a seed

A key comes with a chain code. A child's key is its parent's key plus a number that the chain code
authenticates; what is authenticated holds the parent's public key for a soft child and the private
key for a hardened one.
-/

set_option autoImplicit false

namespace HdProvision.Wallet

/-- A private key and its chain code. -/
structure ExtendedKey where
  key : Nat
  chainCode : Bytes
  deriving DecidableEq, Repr

namespace ExtendedKey

/-- Splits 64 octets into a number and a chain code. -/
def ofDigest (digest : Bytes) : ExtendedKey := ⟨Bytes.toNatBE (digest.take 32), digest.drop 32⟩

/-- The key that a seed stands for. -/
def ofSeed (seed : Bytes) : ExtendedKey :=
  ofDigest (BlockHash.sha512.mac (Utf8.encode "Bitcoin seed") seed)

/-- The public point in 33 octets: the parity of `y`, then `x`. -/
def compressed (a : Secp256k1.Affine) : Bytes := UInt8.ofNat (2 + a.y % 2) :: Bytes.ofNatBE 32 a.x

/-- What is authenticated for a child, without its number. -/
def authenticated (k : ExtendedKey) : ChildKind → Bytes
  | .soft => compressed (Secp256k1.publicPoint k.key)
  | .hardened => 0 :: Bytes.ofNatBE 32 k.key

/-- The key of a child; none if the child has no number of four octets. -/
def child? (k : ExtendedKey) (c : Child) : Option ExtendedKey :=
  if numberLimit ≤ c.childNumber then none
  else
    let d := ofDigest (BlockHash.sha512.mac k.chainCode
      (k.authenticated c.kind ++ Bytes.ofNatBE 4 c.childNumber))
    some { d with key := (d.key + k.key) % Secp256k1.order }

/-- The key at the end of a path. -/
def descend? (k : ExtendedKey) : DerivationPath → Option ExtendedKey
  | [] => some k
  | c :: cs => (k.child? c).bind fun next => next.descend? cs

end ExtendedKey
end HdProvision.Wallet
