import HdProvision.Bytes.Utf8
import HdProvision.Cipher.SecretBox
import HdProvision.Hash.Scrypt

/-!
# Key material from passwords

A password is stretched with a salt to key material, which takes time and memory by design. From
key material and another salt comes the key that wraps one secret.
-/

set_option autoImplicit false

namespace HdProvision.Vault

/-- What stretches passwords: how many states its table has, and the code with which a run on a salt
fails, if it does. -/
structure Stretcher where
  states : Nat
  failure : Bytes → Option Nat

/-- Why a password was not stretched. -/
inductive StretchFault
  | outOfMemory
  | engine
  /-- A table of one state stretches nothing, and others have a power of two. -/
  | states
  deriving DecidableEq, Repr

/-- The cost that is asked for: 2 ^ 20 states of sixteen blocks, one lane, 32 octets. -/
def cost : Scrypt.Cost := ⟨1048576, 8, 1, 32⟩

/-- The code with which a run fails for want of memory. -/
def outOfMemoryCode : Nat := 65

/-- The memory that a run at full cost needs, in millions of octets. -/
def requiredMemory : Nat := 128 * cost.n * cost.r / 1000000

def StretchFault.message : StretchFault → String
  | outOfMemory =>
    "Scrypt key derivation requires at least " ++ toString requiredMemory ++
      " MB of memory. Please free up some memory and try again."
  | engine => "scrypt failed"
  | states => "n must be greater than 1 and be a power of 2."

/-- A stretcher at full cost. -/
def Stretcher.full : Stretcher := ⟨cost.n, fun _ => none⟩

/-- The key material of a password and a salt. -/
def Stretcher.run (s : Stretcher) (password salt : Bytes) : Except StretchFault Bytes :=
  if s.states < 2 || !s.states.isPowerOfTwo then .error .states
  else
    match s.failure salt with
    | none => .ok (Scrypt.derive password salt s.states cost.r)
    | some code => .error (if code = outOfMemoryCode then .outOfMemory else .engine)

/-- What the wrapping key is for. -/
def wrappingPurpose : String := "WalletForge-SeedWrap"

/-- The key that wraps a secret, from key material and a salt. -/
def wrappingKey (material salt : Bytes) : Bytes :=
  BlockHash.blake2b512.hkdf material salt (Utf8.encode wrappingPurpose) 32

/-- Wraps a secret. -/
def wrap (material salt nonce secret : Bytes) : Bytes :=
  SecretBox.encrypt (wrappingKey material salt) nonce secret

/-- The secret that was wrapped, if the key is the right one and nothing was changed. -/
def unwrap? (material salt box : Bytes) : Option Bytes :=
  SecretBox.decrypt? (wrappingKey material salt) box

end HdProvision.Vault
