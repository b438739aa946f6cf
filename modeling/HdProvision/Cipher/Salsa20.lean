import HdProvision.Bytes.Basic

/-!
# Salsa20

The core permutation on sixteen words, the stream cipher, and the variant with a nonce of 24
octets, whose first sixteen derive a key of their own.
-/

set_option autoImplicit false

namespace HdProvision.Salsa20

/-- Sixteen words, row by row. -/
structure Block where
  (x0 x1 x2 x3 x4 x5 x6 x7 x8 x9 x10 x11 x12 x13 x14 x15 : UInt32)
  deriving DecidableEq, Repr

@[inline] def rotl (x n : UInt32) : UInt32 := (x <<< n) ||| (x >>> (32 - n))

/-- Two rounds at a time: the columns, then the rows. -/
def rounds (pairs : Nat)
    (x0 x1 x2 x3 x4 x5 x6 x7 x8 x9 x10 x11 x12 x13 x14 x15 : UInt32) : Block :=
  match pairs with
  | 0 => ⟨x0, x1, x2, x3, x4, x5, x6, x7, x8, x9, x10, x11, x12, x13, x14, x15⟩
  | n + 1 =>
    let x4 := x4 ^^^ rotl (x0 + x12) 7
    let x8 := x8 ^^^ rotl (x4 + x0) 9
    let x12 := x12 ^^^ rotl (x8 + x4) 13
    let x0 := x0 ^^^ rotl (x12 + x8) 18
    let x9 := x9 ^^^ rotl (x5 + x1) 7
    let x13 := x13 ^^^ rotl (x9 + x5) 9
    let x1 := x1 ^^^ rotl (x13 + x9) 13
    let x5 := x5 ^^^ rotl (x1 + x13) 18
    let x14 := x14 ^^^ rotl (x10 + x6) 7
    let x2 := x2 ^^^ rotl (x14 + x10) 9
    let x6 := x6 ^^^ rotl (x2 + x14) 13
    let x10 := x10 ^^^ rotl (x6 + x2) 18
    let x3 := x3 ^^^ rotl (x15 + x11) 7
    let x7 := x7 ^^^ rotl (x3 + x15) 9
    let x11 := x11 ^^^ rotl (x7 + x3) 13
    let x15 := x15 ^^^ rotl (x11 + x7) 18
    let x1 := x1 ^^^ rotl (x0 + x3) 7
    let x2 := x2 ^^^ rotl (x1 + x0) 9
    let x3 := x3 ^^^ rotl (x2 + x1) 13
    let x0 := x0 ^^^ rotl (x3 + x2) 18
    let x6 := x6 ^^^ rotl (x5 + x4) 7
    let x7 := x7 ^^^ rotl (x6 + x5) 9
    let x4 := x4 ^^^ rotl (x7 + x6) 13
    let x5 := x5 ^^^ rotl (x4 + x7) 18
    let x11 := x11 ^^^ rotl (x10 + x9) 7
    let x8 := x8 ^^^ rotl (x11 + x10) 9
    let x9 := x9 ^^^ rotl (x8 + x11) 13
    let x10 := x10 ^^^ rotl (x9 + x8) 18
    let x12 := x12 ^^^ rotl (x15 + x14) 7
    let x13 := x13 ^^^ rotl (x12 + x15) 9
    let x14 := x14 ^^^ rotl (x13 + x12) 13
    let x15 := x15 ^^^ rotl (x14 + x13) 18
    rounds n x0 x1 x2 x3 x4 x5 x6 x7 x8 x9 x10 x11 x12 x13 x14 x15

/-- The block after `2 * pairs` rounds. -/
def Block.permute (b : Block) (pairs : Nat) : Block :=
  rounds pairs b.x0 b.x1 b.x2 b.x3 b.x4 b.x5 b.x6 b.x7 b.x8 b.x9 b.x10 b.x11 b.x12 b.x13 b.x14
    b.x15

/-- Word by word sum. -/
def Block.add (a b : Block) : Block :=
  ⟨a.x0 + b.x0, a.x1 + b.x1, a.x2 + b.x2, a.x3 + b.x3, a.x4 + b.x4, a.x5 + b.x5, a.x6 + b.x6,
    a.x7 + b.x7, a.x8 + b.x8, a.x9 + b.x9, a.x10 + b.x10, a.x11 + b.x11, a.x12 + b.x12,
    a.x13 + b.x13, a.x14 + b.x14, a.x15 + b.x15⟩

/-- Word by word exclusive or. -/
def Block.xor (a b : Block) : Block :=
  ⟨a.x0 ^^^ b.x0, a.x1 ^^^ b.x1, a.x2 ^^^ b.x2, a.x3 ^^^ b.x3, a.x4 ^^^ b.x4, a.x5 ^^^ b.x5,
    a.x6 ^^^ b.x6, a.x7 ^^^ b.x7, a.x8 ^^^ b.x8, a.x9 ^^^ b.x9, a.x10 ^^^ b.x10, a.x11 ^^^ b.x11,
    a.x12 ^^^ b.x12, a.x13 ^^^ b.x13, a.x14 ^^^ b.x14, a.x15 ^^^ b.x15⟩

/-- The core function: the permuted block added to the block itself. -/
def Block.core (b : Block) (pairs : Nat) : Block := (b.permute pairs).add b

def Block.words (b : Block) : List UInt32 :=
  [b.x0, b.x1, b.x2, b.x3, b.x4, b.x5, b.x6, b.x7, b.x8, b.x9, b.x10, b.x11, b.x12, b.x13, b.x14,
    b.x15]

/-- The octets of a word, least significant first. -/
def wordBytes (w : UInt32) : Bytes :=
  [w.toUInt8, (w >>> 8).toUInt8, (w >>> 16).toUInt8, (w >>> 24).toUInt8]

def Block.toBytes (b : Block) : Bytes := b.words.flatMap wordBytes

/-- The words that an octet string spells, least significant octet first. -/
def words : Bytes → List UInt32
  | a :: b :: c :: d :: rest =>
    (a.toUInt32 ||| b.toUInt32 <<< 8 ||| c.toUInt32 <<< 16 ||| d.toUInt32 <<< 24) :: words rest
  | _ => []

/-- The block of the first sixteen words in a list; missing words are zero. -/
def Block.ofWords : List UInt32 → Block
  | [x0, x1, x2, x3, x4, x5, x6, x7, x8, x9, x10, x11, x12, x13, x14, x15] =>
    ⟨x0, x1, x2, x3, x4, x5, x6, x7, x8, x9, x10, x11, x12, x13, x14, x15⟩
  | ws =>
    let w (i : Nat) : UInt32 := ws.getD i 0
    ⟨w 0, w 1, w 2, w 3, w 4, w 5, w 6, w 7, w 8, w 9, w 10, w 11, w 12, w 13, w 14, w 15⟩

/-- The block for a key of eight words and an input of four words. -/
def seedBlock (key input : List UInt32) : Block :=
  let k (i : Nat) : UInt32 := key.getD i 0
  let n (i : Nat) : UInt32 := input.getD i 0
  ⟨0x61707865, k 0, k 1, k 2, k 3, 0x3320646e, n 0, n 1, n 2, n 3, 0x79622d32, k 4, k 5, k 6, k 7,
    0x6b206574⟩

/-- The key of 32 octets that a key and sixteen octets of nonce derive. -/
def deriveKey (key nonce : Bytes) : Bytes :=
  let b := (seedBlock (words key) (words nonce)).permute 10
  [b.x0, b.x5, b.x10, b.x15, b.x6, b.x7, b.x8, b.x9].flatMap wordBytes

/-- Block number `i` of the key stream for a key and eight octets of nonce. -/
def streamBlock (key nonce : Bytes) (i : Nat) : Bytes :=
  let counter := [UInt32.ofNat i, UInt32.ofNat (i >>> 32)]
  ((seedBlock (words key) (words nonce ++ counter)).core 10).toBytes

/-- The first `n` octets of the key stream for a key and a nonce of 24 octets. -/
def stream (key nonce : Bytes) (n : Nat) : Bytes :=
  let sub := deriveKey key (nonce.take 16)
  ((List.range ((n + 63) / 64)).flatMap fun i => streamBlock sub (nonce.drop 16) i).take n

end HdProvision.Salsa20
