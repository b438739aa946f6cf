import HdProvision.Cipher.Salsa20
import HdProvision.Cipher.Poly1305

/-!
# Secret box

Authenticated encryption of octet strings. A sealed box is the nonce, the tag and the masked
octets, in this order; opening recomputes the tag and refuses any other.
-/

set_option autoImplicit false

namespace HdProvision.SecretBox

def nonceSize : Nat := 24

def tagSize : Nat := 16

/-- The key stream for a message of `n` octets: the first 32 octets key the authenticator, the
rest masks the message. -/
structure Mask where
  authKey : Bytes
  pad : Bytes

def mask (key nonce : Bytes) (n : Nat) : Mask :=
  let s := Salsa20.stream key nonce (32 + n)
  ⟨s.take 32, s.drop 32⟩

/-- The sealed box of a message. -/
def encrypt (key nonce msg : Bytes) : Bytes :=
  let m := mask key nonce msg.length
  let body := Bytes.xor msg m.pad
  nonce ++ Poly1305.tag m.authKey body ++ body

/-- The message in a sealed box, if the box is long enough and its tag is right. -/
def decrypt? (key box : Bytes) : Option Bytes :=
  if box.length < nonceSize + tagSize then none
  else
    let nonce := box.take nonceSize
    let tag := (box.drop nonceSize).take tagSize
    let body := box.drop (nonceSize + tagSize)
    let m := mask key nonce body.length
    if Poly1305.tag m.authKey body = tag then some (Bytes.xor body m.pad) else none

end HdProvision.SecretBox
