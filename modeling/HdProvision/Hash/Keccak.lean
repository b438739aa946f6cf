import HdProvision.Bytes.Basic

/-!
# Keccak-256

The sponge over 1600 bits with a rate of 136 octets, a digest of 32 octets and the plain padding: a
single one bit after the message and another at the end of the last block.
-/

set_option autoImplicit false

namespace HdProvision.Keccak

/-- Twenty-five lanes; lane `x + 5 * y` stands in column `x` of row `y`. -/
abbrev Lanes := List UInt64

/-- One constant for each of the twenty-four rounds. -/
def roundConstants : List UInt64 :=
  [0x0000000000000001, 0x0000000000008082, 0x800000000000808a, 0x8000000080008000,
    0x000000000000808b, 0x0000000080000001, 0x8000000080008081, 0x8000000000008009,
    0x000000000000008a, 0x0000000000000088, 0x0000000080008009, 0x000000008000000a,
    0x000000008000808b, 0x800000000000008b, 0x8000000000008089, 0x8000000000008003,
    0x8000000000008002, 0x8000000000000080, 0x000000000000800a, 0x800000008000000a,
    0x8000000080008081, 0x8000000000008080, 0x0000000080000001, 0x8000000080008008]

/-- How far each lane is rotated. -/
def offsets : List Nat :=
  [0, 1, 62, 28, 27, 36, 44, 6, 55, 20, 3, 10, 43, 25, 39, 41, 45, 15, 21, 8, 18, 2, 61, 56, 14]

def rotl (x : UInt64) (n : Nat) : UInt64 :=
  if n = 0 then x else (x <<< UInt64.ofNat n) ||| (x >>> UInt64.ofNat (64 - n))

/-- The lane at a position. -/
def lane (s : Lanes) (i : Nat) : UInt64 := s.getD i 0

/-- Adds to each lane the parities of two neighbouring columns. -/
def theta (s : Lanes) : Lanes :=
  let c := (List.range 5).map fun x =>
    lane s x ^^^ lane s (x + 5) ^^^ lane s (x + 10) ^^^ lane s (x + 15) ^^^ lane s (x + 20)
  let d := (List.range 5).map fun x => lane c ((x + 4) % 5) ^^^ rotl (lane c ((x + 1) % 5)) 1
  (List.range 25).map fun i => lane s i ^^^ lane d (i % 5)

/-- Rotates each lane and moves it to its new place. -/
def rhoPi (s : Lanes) : Lanes :=
  let r := List.zipWith rotl s offsets
  (List.range 25).map fun i =>
    let x := i % 5
    let y := i / 5
    lane r ((x + 3 * y) % 5 + 5 * x)

/-- Mixes each row. -/
def chi (s : Lanes) : Lanes :=
  (List.range 25).map fun i =>
    let x := i % 5
    let y := i / 5
    lane s i ^^^ ((lane s ((x + 1) % 5 + 5 * y) ^^^ (-1)) &&& lane s ((x + 2) % 5 + 5 * y))

def round (s : Lanes) (k : UInt64) : Lanes :=
  match chi (rhoPi (theta s)) with
  | l :: ls => (l ^^^ k) :: ls
  | [] => []

def permute (s : Lanes) : Lanes := roundConstants.foldl round s

/-- The message followed by its padding. -/
def pad (msg : Bytes) : Bytes :=
  let missing := 136 - msg.length % 136
  if missing = 1 then msg ++ [0x81]
  else msg ++ 0x01 :: List.replicate (missing - 2) 0 ++ [0x80]

/-- Adds a block to the state and permutes it. -/
def absorb (s : Lanes) (block : Bytes) : Lanes :=
  permute ((List.range 25).map fun i =>
    lane s i ^^^ UInt64.ofNat (Bytes.toNatLE ((block.drop (8 * i)).take 8)))

/-- The digest of a message. -/
def digest (msg : Bytes) : Bytes :=
  let s := (Bytes.chunks 136 (pad msg)).foldl absorb (List.replicate 25 0)
  (s.take 4).flatMap fun w => Bytes.ofNatLE 8 w.toNat

end HdProvision.Keccak
