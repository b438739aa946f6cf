import HdProvision.Hash.Sha256
import HdProvision.Hash.Sha512
import HdProvision.Hash.Blake2b

/-!
# Keyed hashing and the key derivations built on it

HMAC over any block hash, and on top of it PBKDF2 and HKDF. Everything depends on a key only
through its block: the key itself when it fits, its digest when it does not, filled up with zero
octets.
-/

set_option autoImplicit false

namespace HdProvision

/-- A hash function that reads its message in blocks of `blockSize` octets. -/
structure BlockHash where
  digest : Bytes → Bytes
  blockSize : Nat

namespace BlockHash

def sha256 : BlockHash := ⟨Sha256.digest, 64⟩

def sha512 : BlockHash := ⟨Sha512.digest, 128⟩

def blake2b512 : BlockHash := ⟨Blake2b.digest, 128⟩

/-- The block that stands for a key. -/
def keyBlock (H : BlockHash) (key : Bytes) : Bytes :=
  let k := if key.length > H.blockSize then H.digest key else key
  k ++ List.replicate (H.blockSize - k.length) 0

/-- A key block masked for the inner and for the outer hash. -/
structure Pads where
  inner : Bytes
  outer : Bytes

def pads (block : Bytes) : Pads := ⟨block.map (· ^^^ 0x36), block.map (· ^^^ 0x5c)⟩

/-- The message authentication code under a key whose pads are known. -/
def macWith (H : BlockHash) (p : Pads) (msg : Bytes) : Bytes :=
  H.digest (p.outer ++ H.digest (p.inner ++ msg))

/-- HMAC. -/
def mac (H : BlockHash) (key msg : Bytes) : Bytes := H.macWith (pads (H.keyBlock key)) msg

/-- The exclusive or of `acc` with the next `count` links of the chain that starts at `u`. -/
def chain (H : BlockHash) (p : Pads) : (count : Nat) → (u acc : Bytes) → Bytes
  | 0, _, acc => acc
  | n + 1, u, acc =>
    let v := H.macWith p u
    chain H p n v (Bytes.xor acc v)

/-- Block number `i`, counted from one, of the PBKDF2 output. -/
def pbkdf2Block (H : BlockHash) (p : Pads) (salt : Bytes) (iterations i : Nat) : Bytes :=
  let u := H.macWith p (salt ++ Bytes.ofNatBE 4 i)
  chain H p (iterations - 1) u u

/-- PBKDF2: the first `blocks` output blocks, joined. -/
def pbkdf2 (H : BlockHash) (password salt : Bytes) (iterations blocks : Nat) : Bytes :=
  let p := pads (H.keyBlock password)
  (List.range blocks).flatMap fun i => H.pbkdf2Block p salt iterations (i + 1)

/-- HKDF for an output of at most one digest, the first `size` octets of the first block. An empty
salt stands for zero octets, as many as a digest has. -/
def hkdf (H : BlockHash) (material salt info : Bytes) (size : Nat) : Bytes :=
  (H.mac (H.mac salt material) (info ++ [1])).take size

/-- A key enters PBKDF2 only through its block. -/
theorem pbkdf2_congr (H : BlockHash) {p q : Bytes} (h : H.keyBlock p = H.keyBlock q)
    (salt : Bytes) (iterations blocks : Nat) :
    H.pbkdf2 p salt iterations blocks = H.pbkdf2 q salt iterations blocks := by
  simp only [pbkdf2, h]

end BlockHash
end HdProvision
