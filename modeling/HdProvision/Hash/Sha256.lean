import HdProvision.Hash.Padding

/-!
# SHA-256

The message is padded, cut into blocks of 64 octets and folded through the compression
function. A block is compressed in one pass over the round constants; the sixteen message words
still to be used travel with the eight working words.
-/

set_option autoImplicit false

namespace HdProvision.Sha256

/-- The chaining value: eight words. -/
structure State where
  (a b c d e f g h : UInt32)
  deriving DecidableEq, Repr

/-- The chaining value before the first block. -/
def initial : State where
  a := 0x6a09e667
  b := 0xbb67ae85
  c := 0x3c6ef372
  d := 0xa54ff53a
  e := 0x510e527f
  f := 0x9b05688c
  g := 0x1f83d9ab
  h := 0x5be0cd19

/-- One constant for each round. -/
def roundConstants : List UInt32 :=
  [0x428a2f98, 0x71374491, 0xb5c0fbcf, 0xe9b5dba5, 0x3956c25b, 0x59f111f1,
    0x923f82a4, 0xab1c5ed5, 0xd807aa98, 0x12835b01, 0x243185be, 0x550c7dc3,
    0x72be5d74, 0x80deb1fe, 0x9bdc06a7, 0xc19bf174, 0xe49b69c1, 0xefbe4786,
    0x0fc19dc6, 0x240ca1cc, 0x2de92c6f, 0x4a7484aa, 0x5cb0a9dc, 0x76f988da,
    0x983e5152, 0xa831c66d, 0xb00327c8, 0xbf597fc7, 0xc6e00bf3, 0xd5a79147,
    0x06ca6351, 0x14292967, 0x27b70a85, 0x2e1b2138, 0x4d2c6dfc, 0x53380d13,
    0x650a7354, 0x766a0abb, 0x81c2c92e, 0x92722c85, 0xa2bfe8a1, 0xa81a664b,
    0xc24b8b70, 0xc76c51a3, 0xd192e819, 0xd6990624, 0xf40e3585, 0x106aa070,
    0x19a4c116, 0x1e376c08, 0x2748774c, 0x34b0bcb5, 0x391c0cb3, 0x4ed8aa4a,
    0x5b9cca4f, 0x682e6ff3, 0x748f82ee, 0x78a5636f, 0x84c87814, 0x8cc70208,
    0x90befffa, 0xa4506ceb, 0xbef9a3f7, 0xc67178f2]

/-- The rotations that mix the working words. -/
@[inline] def bigSigma0 (x : UInt32) : UInt32 :=
  ((x >>> 2) ||| (x <<< 30)) ^^^ ((x >>> 13) ||| (x <<< 19)) ^^^ ((x >>> 22) ||| (x <<< 10))

@[inline] def bigSigma1 (x : UInt32) : UInt32 :=
  ((x >>> 6) ||| (x <<< 26)) ^^^ ((x >>> 11) ||| (x <<< 21)) ^^^ ((x >>> 25) ||| (x <<< 7))

/-- The rotations and shifts that extend the message schedule. -/
@[inline] def smallSigma0 (x : UInt32) : UInt32 :=
  ((x >>> 7) ||| (x <<< 25)) ^^^ ((x >>> 18) ||| (x <<< 14)) ^^^ (x >>> 3)

@[inline] def smallSigma1 (x : UInt32) : UInt32 :=
  ((x >>> 17) ||| (x <<< 15)) ^^^ ((x >>> 19) ||| (x <<< 13)) ^^^ (x >>> 10)

/-- The remaining rounds: one for each constant left, with the window of sixteen message words
that starts at the current round. -/
def rounds (ks : List UInt32) (a b c d e f g h : UInt32)
    (w0 w1 w2 w3 w4 w5 w6 w7 w8 w9 w10 w11 w12 w13 w14 w15 : UInt32) : State :=
  match ks with
  | [] => ⟨a, b, c, d, e, f, g, h⟩
  | k :: ks =>
    let choice := (e &&& f) ^^^ ((e ^^^ (-1)) &&& g)
    let majority := (a &&& b) ^^^ (a &&& c) ^^^ (b &&& c)
    let t := h + bigSigma1 e + choice + k + w0
    rounds ks (t + bigSigma0 a + majority) a b c (d + t) e f g
      w1 w2 w3 w4 w5 w6 w7 w8 w9 w10 w11 w12 w13 w14 w15
      (smallSigma1 w14 + w9 + smallSigma0 w1 + w0)

/-- The words that a block spells, most significant octet first. -/
def words : Bytes → List UInt32
  | b0 :: b1 :: b2 :: b3 :: rest =>
    (b0.toUInt32 <<< 24 ||| b1.toUInt32 <<< 16 ||| b2.toUInt32 <<< 8 ||| b3.toUInt32) :: words rest
  | _ => []

/-- Folds one block into the chaining value. -/
def compress (s : State) (block : Bytes) : State :=
  match words block with
  | [w0, w1, w2, w3, w4, w5, w6, w7, w8, w9, w10, w11, w12, w13, w14, w15] =>
    let t := rounds roundConstants s.a s.b s.c s.d s.e s.f s.g s.h
      w0 w1 w2 w3 w4 w5 w6 w7 w8 w9 w10 w11 w12 w13 w14 w15
    ⟨s.a + t.a, s.b + t.b, s.c + t.c, s.d + t.d, s.e + t.e, s.f + t.f, s.g + t.g, s.h + t.h⟩
  | _ => s

/-- The octets of one word, most significant first. -/
def wordBytes (x : UInt32) : Bytes :=
  [(x >>> 24).toUInt8, (x >>> 16).toUInt8, (x >>> 8).toUInt8, x.toUInt8]

/-- The octets of a chaining value. -/
def State.toBytes (s : State) : Bytes :=
  wordBytes s.a ++ wordBytes s.b ++ wordBytes s.c ++ wordBytes s.d ++
    wordBytes s.e ++ wordBytes s.f ++ wordBytes s.g ++ wordBytes s.h

/-- The digest of a message. -/
def digest (msg : Bytes) : Bytes :=
  ((Bytes.chunks 64 (Hash.strengthen 64 8 msg)).foldl compress initial).toBytes

theorem length_digest (msg : Bytes) : (digest msg).length = 32 := rfl

end HdProvision.Sha256
