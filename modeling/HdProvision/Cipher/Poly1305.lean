import HdProvision.Bytes.Basic

/-!
# Poly1305

The one time authenticator: the message, cut into pieces of sixteen octets, is a polynomial that is
evaluated at the clamped first half of the key modulo `2 ^ 130 - 5`; the second half masks the
value.
-/

set_option autoImplicit false

namespace HdProvision.Poly1305

/-- The prime modulus, 2 ^ 130 - 5. -/
def modulus : Nat := 0x3fffffffffffffffffffffffffffffffb

/-- The bits of the evaluation point that may be set. -/
def clampMask : Nat := 0x0ffffffc0ffffffc0ffffffc0fffffff

/-- A piece of the message as a coefficient: its number with a one above its last octet. -/
def coefficient (piece : Bytes) : Nat := Bytes.toNatLE piece + 1 <<< (8 * piece.length)

/-- The tag of a message under a key of 32 octets. -/
def tag (key msg : Bytes) : Bytes :=
  let r := Bytes.toNatLE (key.take 16) &&& clampMask
  let s := Bytes.toNatLE (key.drop 16)
  let acc := (Bytes.chunks 16 msg).foldl (fun a c => (a + coefficient c) * r % modulus) 0
  Bytes.ofNatLE 16 (acc + s)

theorem length_tag (key msg : Bytes) : (tag key msg).length = 16 := Bytes.length_ofNatLE _ _

end HdProvision.Poly1305
