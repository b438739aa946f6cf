import HdProvision.Bytes.Basic

/-!
# Padding of hashed messages

The padding that SHA-256 and SHA-512 share: a one bit, zero bits up to the length field, and the
message length in bits, most significant octet first.
-/

set_option autoImplicit false

namespace HdProvision.Hash

/-- The message followed by its padding; `block` is the block size and `field` the size of the
length field, both in octets. -/
def strengthen (block field : Nat) (msg : Bytes) : Bytes :=
  let zeros := (block - (msg.length + 1 + field) % block) % block
  msg ++ 0x80 :: List.replicate zeros 0 ++ Bytes.ofNatBE field (8 * msg.length)

end HdProvision.Hash
