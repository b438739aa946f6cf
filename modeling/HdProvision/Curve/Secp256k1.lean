/-!
# The curve secp256k1

The points of `y ^ 2 = x ^ 3 + 7` over the integers modulo `p`, and multiples of the base point.
Points are kept as `(x / z ^ 2, y / z ^ 3)`, so that only the last step divides; `z = 0` stands for
the neutral point. All numbers are below `p`.
-/

set_option autoImplicit false

namespace HdProvision.Secp256k1

/-- The modulus of the coordinates, 2 ^ 256 - 2 ^ 32 - 977. -/
def p : Nat := 0xfffffffffffffffffffffffffffffffffffffffffffffffffffffffefffffc2f

/-- The order of the base point. -/
def order : Nat := 0xFFFFFFFFFFFFFFFFFFFFFFFFFFFFFFFEBAAEDCE6AF48A03BBFD25E8CD0364141

def baseX : Nat := 0x79BE667EF9DCBBAC55A06295CE870B07029BFCDB2DCE28D959F2815B16F81798

def baseY : Nat := 0x483ADA7726A3C4655DA4FBFC0E1108A8FD17B448A68554199C47D08FFB10D4B8

def add (a b : Nat) : Nat := (a + b) % p

def sub (a b : Nat) : Nat := (a + (p - b)) % p

def mul (a b : Nat) : Nat := a * b % p

/-- A point by its scaled coordinates. -/
structure Point where
  x : Nat
  y : Nat
  z : Nat
  deriving DecidableEq, Repr

namespace Point

def neutral : Point := ⟨1, 1, 0⟩

def generator : Point := ⟨baseX, baseY, 1⟩

def double (a : Point) : Point :=
  let yy := mul a.y a.y
  let s := mul 4 (mul a.x yy)
  let m := mul 3 (mul a.x a.x)
  let x := sub (mul m m) (add s s)
  ⟨x, sub (mul m (sub s x)) (mul 8 (mul yy yy)), mul 2 (mul a.y a.z)⟩

def plus (a b : Point) : Point :=
  if a.z = 0 then b
  else if b.z = 0 then a
  else
    let za := mul a.z a.z
    let zb := mul b.z b.z
    let u := mul a.x zb
    let h := sub (mul b.x za) u
    let s := mul a.y (mul zb b.z)
    let r := sub (mul b.y (mul za a.z)) s
    if h = 0 then (if r = 0 then double a else neutral)
    else
      let hh := mul h h
      let hhh := mul hh h
      let v := mul u hh
      let x := sub (mul r r) (add hhh (add v v))
      ⟨x, sub (mul r (sub v x)) (mul s hhh), mul h (mul a.z b.z)⟩

/-- The multiple by the last `bits` bits of a number. -/
def times : (bits k : Nat) → Point → Point
  | 0, _, _ => neutral
  | b + 1, k, a =>
    let half := double (times b (k / 2) a)
    if k % 2 = 1 then plus half a else half

end Point

/-- The power by the last `bits` bits of a number. -/
def power (a : Nat) : (bits k : Nat) → Nat
  | 0, _ => 1
  | b + 1, k =>
    let half := power a b (k / 2)
    let square := mul half half
    if k % 2 = 1 then mul square a else square

/-- The inverse of a number that `p` does not divide. -/
def inverse (a : Nat) : Nat := power a 256 (p - 2)

/-- The coordinates of a point other than the neutral one. -/
structure Affine where
  x : Nat
  y : Nat
  deriving DecidableEq, Repr

def Point.toAffine (a : Point) : Affine :=
  let i := inverse a.z
  let ii := mul i i
  ⟨mul a.x ii, mul a.y (mul ii i)⟩

/-- The public point of a private key. -/
def publicPoint (key : Nat) : Affine := (Point.generator.times 256 key).toAffine

end HdProvision.Secp256k1
