import HdProvision.Hash.Padding

/-!
# SHA-512

The message is padded, cut into blocks of 128 octets and folded through the compression
function. A block is compressed in one pass over the round constants; the sixteen message words
still to be used travel with the eight working words.
-/

set_option autoImplicit false

namespace HdProvision.Sha512

/-- The chaining value: eight words. -/
structure State where
  (a b c d e f g h : UInt64)
  deriving DecidableEq, Repr

/-- The chaining value before the first block. -/
def initial : State where
  a := 0x6a09e667f3bcc908
  b := 0xbb67ae8584caa73b
  c := 0x3c6ef372fe94f82b
  d := 0xa54ff53a5f1d36f1
  e := 0x510e527fade682d1
  f := 0x9b05688c2b3e6c1f
  g := 0x1f83d9abfb41bd6b
  h := 0x5be0cd19137e2179

/-- One constant for each round. -/
def roundConstants : List UInt64 :=
  [0x428a2f98d728ae22, 0x7137449123ef65cd, 0xb5c0fbcfec4d3b2f,
    0xe9b5dba58189dbbc, 0x3956c25bf348b538, 0x59f111f1b605d019,
    0x923f82a4af194f9b, 0xab1c5ed5da6d8118, 0xd807aa98a3030242,
    0x12835b0145706fbe, 0x243185be4ee4b28c, 0x550c7dc3d5ffb4e2,
    0x72be5d74f27b896f, 0x80deb1fe3b1696b1, 0x9bdc06a725c71235,
    0xc19bf174cf692694, 0xe49b69c19ef14ad2, 0xefbe4786384f25e3,
    0x0fc19dc68b8cd5b5, 0x240ca1cc77ac9c65, 0x2de92c6f592b0275,
    0x4a7484aa6ea6e483, 0x5cb0a9dcbd41fbd4, 0x76f988da831153b5,
    0x983e5152ee66dfab, 0xa831c66d2db43210, 0xb00327c898fb213f,
    0xbf597fc7beef0ee4, 0xc6e00bf33da88fc2, 0xd5a79147930aa725,
    0x06ca6351e003826f, 0x142929670a0e6e70, 0x27b70a8546d22ffc,
    0x2e1b21385c26c926, 0x4d2c6dfc5ac42aed, 0x53380d139d95b3df,
    0x650a73548baf63de, 0x766a0abb3c77b2a8, 0x81c2c92e47edaee6,
    0x92722c851482353b, 0xa2bfe8a14cf10364, 0xa81a664bbc423001,
    0xc24b8b70d0f89791, 0xc76c51a30654be30, 0xd192e819d6ef5218,
    0xd69906245565a910, 0xf40e35855771202a, 0x106aa07032bbd1b8,
    0x19a4c116b8d2d0c8, 0x1e376c085141ab53, 0x2748774cdf8eeb99,
    0x34b0bcb5e19b48a8, 0x391c0cb3c5c95a63, 0x4ed8aa4ae3418acb,
    0x5b9cca4f7763e373, 0x682e6ff3d6b2b8a3, 0x748f82ee5defb2fc,
    0x78a5636f43172f60, 0x84c87814a1f0ab72, 0x8cc702081a6439ec,
    0x90befffa23631e28, 0xa4506cebde82bde9, 0xbef9a3f7b2c67915,
    0xc67178f2e372532b, 0xca273eceea26619c, 0xd186b8c721c0c207,
    0xeada7dd6cde0eb1e, 0xf57d4f7fee6ed178, 0x06f067aa72176fba,
    0x0a637dc5a2c898a6, 0x113f9804bef90dae, 0x1b710b35131c471b,
    0x28db77f523047d84, 0x32caab7b40c72493, 0x3c9ebe0a15c9bebc,
    0x431d67c49c100d4c, 0x4cc5d4becb3e42b6, 0x597f299cfc657e2a,
    0x5fcb6fab3ad6faec, 0x6c44198c4a475817]

/-- The rotations that mix the working words. -/
@[inline] def bigSigma0 (x : UInt64) : UInt64 :=
  ((x >>> 28) ||| (x <<< 36)) ^^^ ((x >>> 34) ||| (x <<< 30)) ^^^ ((x >>> 39) ||| (x <<< 25))

@[inline] def bigSigma1 (x : UInt64) : UInt64 :=
  ((x >>> 14) ||| (x <<< 50)) ^^^ ((x >>> 18) ||| (x <<< 46)) ^^^ ((x >>> 41) ||| (x <<< 23))

/-- The rotations and shifts that extend the message schedule. -/
@[inline] def smallSigma0 (x : UInt64) : UInt64 :=
  ((x >>> 1) ||| (x <<< 63)) ^^^ ((x >>> 8) ||| (x <<< 56)) ^^^ (x >>> 7)

@[inline] def smallSigma1 (x : UInt64) : UInt64 :=
  ((x >>> 19) ||| (x <<< 45)) ^^^ ((x >>> 61) ||| (x <<< 3)) ^^^ (x >>> 6)

/-- The remaining rounds: one for each constant left, with the window of sixteen message words
that starts at the current round. -/
def rounds (ks : List UInt64) (a b c d e f g h : UInt64)
    (w0 w1 w2 w3 w4 w5 w6 w7 w8 w9 w10 w11 w12 w13 w14 w15 : UInt64) : State :=
  match ks with
  | [] => ⟨a, b, c, d, e, f, g, h⟩
  | k :: ks =>
    let choice := (e &&& f) ^^^ ((e ^^^ (-1)) &&& g)
    let majority := (a &&& b) ^^^ (a &&& c) ^^^ (b &&& c)
    let t := h + bigSigma1 e + choice + k + w0
    rounds ks (t + bigSigma0 a + majority) a b c (d + t) e f g
      w1 w2 w3 w4 w5 w6 w7 w8 w9 w10 w11 w12 w13 w14 w15
      (smallSigma1 w14 + w9 + smallSigma0 w1 + w0)

/-- The words that a block spells, most significant octet first. -/
def words : Bytes → List UInt64
  | b0 :: b1 :: b2 :: b3 :: b4 :: b5 :: b6 :: b7 :: rest =>
    (b0.toUInt64 <<< 56 ||| b1.toUInt64 <<< 48 ||| b2.toUInt64 <<< 40 ||| b3.toUInt64 <<< 32 |||
      b4.toUInt64 <<< 24 ||| b5.toUInt64 <<< 16 ||| b6.toUInt64 <<< 8 ||| b7.toUInt64) :: words rest
  | _ => []

/-- Folds one block into the chaining value. -/
def compress (s : State) (block : Bytes) : State :=
  match words block with
  | [w0, w1, w2, w3, w4, w5, w6, w7, w8, w9, w10, w11, w12, w13, w14, w15] =>
    let t := rounds roundConstants s.a s.b s.c s.d s.e s.f s.g s.h
      w0 w1 w2 w3 w4 w5 w6 w7 w8 w9 w10 w11 w12 w13 w14 w15
    ⟨s.a + t.a, s.b + t.b, s.c + t.c, s.d + t.d, s.e + t.e, s.f + t.f, s.g + t.g, s.h + t.h⟩
  | _ => s

/-- The octets of one word, most significant first. -/
def wordBytes (x : UInt64) : Bytes :=
  [(x >>> 56).toUInt8, (x >>> 48).toUInt8, (x >>> 40).toUInt8, (x >>> 32).toUInt8,
    (x >>> 24).toUInt8, (x >>> 16).toUInt8, (x >>> 8).toUInt8, x.toUInt8]

/-- The octets of a chaining value. -/
def State.toBytes (s : State) : Bytes :=
  wordBytes s.a ++ wordBytes s.b ++ wordBytes s.c ++ wordBytes s.d ++
    wordBytes s.e ++ wordBytes s.f ++ wordBytes s.g ++ wordBytes s.h

/-- The digest of a message. -/
def digest (msg : Bytes) : Bytes :=
  ((Bytes.chunks 128 (Hash.strengthen 128 16 msg)).foldl compress initial).toBytes

theorem length_digest (msg : Bytes) : (digest msg).length = 64 := rfl

end HdProvision.Sha512
