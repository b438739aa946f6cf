import HdProvision.Hash.Keyed
import HdProvision.Cipher.Salsa20

/-!
# Scrypt

Memory hard key derivation with one lane. The password is stretched to `2 * r` blocks, mixed through
a table of `n` intermediate states, and stretched again to the key.
-/

set_option autoImplicit false

namespace HdProvision.Scrypt

open Salsa20 (Block)

/-- A state of the mixer: `2 * r` blocks. -/
abbrev Mix := List Block

/-- Cuts words into blocks of sixteen. -/
def blocksFrom : (fuel : Nat) → List UInt32 → Mix
  | 0, _ => []
  | _ + 1, [] => []
  | fuel + 1, w :: ws => Block.ofWords ((w :: ws).take 16) :: blocksFrom fuel ((w :: ws).drop 16)

/-- The state that an octet string spells. -/
def Mix.ofBytes (bs : Bytes) : Mix := blocksFrom bs.length (Salsa20.words bs)

def Mix.toBytes (m : Mix) : Bytes := m.flatMap Block.toBytes

/-- Runs the blocks through the core function, each added to the result before it. The results at
even places come first, then those at odd places; both are collected in reverse. -/
def mixFrom (x : Block) (evens odds : Mix) : Mix → Mix
  | [] => evens.reverse ++ odds.reverse
  | [b] => (((x.xor b).core 4) :: evens).reverse ++ odds.reverse
  | b :: c :: rest =>
    let y := (x.xor b).core 4
    let z := (y.xor c).core 4
    mixFrom z (y :: evens) (z :: odds) rest

/-- One pass of the block mixer, started from the last block. -/
def blockMix (m : Mix) : Mix :=
  match m.getLast? with
  | some x => mixFrom x [] [] m
  | none => []

/-- The table of `n` successive states, and the state after them. -/
def fill : (n : Nat) → Mix → Array Mix → Mix × Array Mix
  | 0, m, table => (m, table)
  | n + 1, m, table => fill n (blockMix m) (table.push m)

/-- The number that a state selects in the table: the low 64 bits of its last block. -/
def Mix.selector (m : Mix) : Nat :=
  match m.getLast? with
  | some b => b.x0.toNat + b.x1.toNat <<< 32
  | none => 0

/-- `count` steps through the table. -/
def walk (table : Array Mix) (n : Nat) : (count : Nat) → Mix → Mix
  | 0, m => m
  | k + 1, m =>
    let v := table.getD (m.selector % n) []
    walk table n k (blockMix (List.zipWith Block.xor m v))

/-- The mixer with a table of `n` states. -/
def roMix (n : Nat) (m : Mix) : Mix :=
  let (m, table) := fill n m #[]
  walk table n n m

/-- The cost parameters; there is always one lane. -/
structure Cost where
  n : Nat
  r : Nat
  p : Nat
  length : Nat
  deriving DecidableEq, Repr

/-- A key of 32 octets from a password and a salt, with `n` table states of `2 * r` blocks. -/
def derive (password salt : Bytes) (n r : Nat) : Bytes :=
  let b := BlockHash.sha256.pbkdf2 password salt 1 (4 * r)
  BlockHash.sha256.pbkdf2 password (roMix n (Mix.ofBytes b)).toBytes 1 1

/-- Passwords with the same key block derive the same key. -/
theorem derive_congr {p q : Bytes} (h : BlockHash.sha256.keyBlock p = BlockHash.sha256.keyBlock q)
    (salt : Bytes) (n r : Nat) : derive p salt n r = derive q salt n r := by
  simp only [derive, BlockHash.pbkdf2_congr _ h]

end HdProvision.Scrypt
