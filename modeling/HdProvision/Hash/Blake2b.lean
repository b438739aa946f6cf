import HdProvision.Bytes.Basic

/-!
# BLAKE2b with a digest of 64 octets and no key

The message is cut into blocks of 128 octets, the last one filled up with zeros; each block is
folded into eight chaining words by twelve rounds over sixteen working words.
-/

set_option autoImplicit false

namespace HdProvision.Blake2b

/-- The initialisation vector, shared with SHA-512. -/
def iv : List UInt64 :=
  [0x6a09e667f3bcc908, 0xbb67ae8584caa73b, 0x3c6ef372fe94f82b, 0xa54ff53a5f1d36f1,
    0x510e527fade682d1, 0x9b05688c2b3e6c1f, 0x1f83d9abfb41bd6b, 0x5be0cd19137e2179]

/-- The order in which the ten distinct rounds read the message words. -/
def sigma : List (List Nat) :=
  [[0, 1, 2, 3, 4, 5, 6, 7, 8, 9, 10, 11, 12, 13, 14, 15],
    [14, 10, 4, 8, 9, 15, 13, 6, 1, 12, 0, 2, 11, 7, 5, 3],
    [11, 8, 12, 0, 5, 2, 15, 13, 10, 14, 3, 6, 7, 1, 9, 4],
    [7, 9, 3, 1, 13, 12, 11, 14, 2, 6, 5, 10, 4, 0, 15, 8],
    [9, 0, 5, 7, 2, 4, 10, 15, 14, 1, 11, 12, 6, 8, 3, 13],
    [2, 12, 6, 10, 0, 11, 8, 3, 4, 13, 7, 5, 15, 14, 1, 9],
    [12, 5, 1, 15, 14, 13, 4, 10, 0, 7, 6, 3, 9, 2, 8, 11],
    [13, 11, 7, 14, 12, 1, 3, 9, 5, 0, 15, 4, 8, 6, 2, 10],
    [6, 15, 14, 9, 11, 3, 0, 8, 12, 2, 13, 7, 1, 4, 10, 5],
    [10, 2, 8, 4, 7, 6, 1, 5, 15, 11, 9, 14, 3, 12, 13, 0]]

/-- The twelve rounds: the ten orders, then the first two again. -/
def schedule : List (List Nat) := sigma ++ sigma.take 2

/-- A column or a diagonal of the working words. -/
structure Quarter where
  (a b c d : UInt64)

def rotr (x n : UInt64) : UInt64 := (x >>> n) ||| (x <<< (64 - n))

/-- The mixing function, with the two message words `x` and `y`. -/
def mix (q : Quarter) (x y : UInt64) : Quarter :=
  let a := q.a + q.b + x
  let d := rotr (q.d ^^^ a) 32
  let c := q.c + d
  let b := rotr (q.b ^^^ c) 24
  let a := a + b + y
  let d := rotr (d ^^^ a) 16
  let c := c + d
  let b := rotr (b ^^^ c) 63
  ⟨a, b, c, d⟩

/-- The working words as four columns. -/
structure Work where
  (q0 q1 q2 q3 : Quarter)

/-- One round: the columns, then the diagonals. -/
def round (m : List UInt64) (w : Work) (order : List Nat) : Work :=
  let x (i : Nat) : UInt64 := m.getD (order.getD i 0) 0
  let p0 := mix w.q0 (x 0) (x 1)
  let p1 := mix w.q1 (x 2) (x 3)
  let p2 := mix w.q2 (x 4) (x 5)
  let p3 := mix w.q3 (x 6) (x 7)
  let d0 := mix ⟨p0.a, p1.b, p2.c, p3.d⟩ (x 8) (x 9)
  let d1 := mix ⟨p1.a, p2.b, p3.c, p0.d⟩ (x 10) (x 11)
  let d2 := mix ⟨p2.a, p3.b, p0.c, p1.d⟩ (x 12) (x 13)
  let d3 := mix ⟨p3.a, p0.b, p1.c, p2.d⟩ (x 14) (x 15)
  ⟨⟨d0.a, d3.b, d2.c, d1.d⟩, ⟨d1.a, d0.b, d3.c, d2.d⟩, ⟨d2.a, d1.b, d0.c, d3.d⟩,
    ⟨d3.a, d2.b, d1.c, d0.d⟩⟩

/-- The words that a block spells, least significant octet first, filled up with zeros. -/
def words (block : Bytes) : List UInt64 :=
  (List.range 16).map fun i => UInt64.ofNat (Bytes.toNatLE ((block.drop (8 * i)).take 8))

/-- Folds a block into the chaining words; `counter` is the number of message octets read so far
and `last` marks the final block. -/
def compress (h : List UInt64) (block : Bytes) (counter : Nat) (last : Bool) : List UInt64 :=
  let v (i : Nat) : UInt64 := h.getD i 0
  let k (i : Nat) : UInt64 := iv.getD i 0
  let t0 := UInt64.ofNat counter
  let t1 := UInt64.ofNat (counter >>> 64)
  let flag : UInt64 := if last then 0xffffffffffffffff else 0
  let start : Work :=
    ⟨⟨v 0, v 4, k 0, k 4 ^^^ t0⟩, ⟨v 1, v 5, k 1, k 5 ^^^ t1⟩, ⟨v 2, v 6, k 2, k 6 ^^^ flag⟩,
      ⟨v 3, v 7, k 3, k 7⟩⟩
  let w := schedule.foldl (round (words block)) start
  [v 0 ^^^ w.q0.a ^^^ w.q0.c, v 1 ^^^ w.q1.a ^^^ w.q1.c, v 2 ^^^ w.q2.a ^^^ w.q2.c,
    v 3 ^^^ w.q3.a ^^^ w.q3.c, v 4 ^^^ w.q0.b ^^^ w.q0.d, v 5 ^^^ w.q1.b ^^^ w.q1.d,
    v 6 ^^^ w.q2.b ^^^ w.q2.d, v 7 ^^^ w.q3.b ^^^ w.q3.d]

/-- The chaining words before the first block: the vector with the digest size mixed in. -/
def initial : List UInt64 :=
  match iv with
  | v :: vs => (v ^^^ 0x01010040) :: vs
  | [] => []

/-- Folds the blocks of a message in; an empty message is one empty block. -/
def absorb (h : List UInt64) (counter : Nat) : List Bytes → List UInt64
  | [] => compress h [] counter true
  | [b] => compress h b (counter + b.length) true
  | b :: bs => absorb (compress h b (counter + b.length) false) (counter + b.length) bs

/-- The digest of a message. -/
def digest (msg : Bytes) : Bytes :=
  (absorb initial 0 (Bytes.chunks 128 msg)).flatMap fun w => Bytes.ofNatLE 8 w.toNat

end HdProvision.Blake2b
