/-!
# Byte strings

A byte string is a list of octets. Numbers are written into it and read from it in either byte
order, with a fixed width that the caller names.
-/

set_option autoImplicit false

namespace HdProvision

/-- A finite string of octets. -/
abbrev Bytes := List UInt8

namespace Bytes

/-- The number whose base 256 digits, most significant first, are the given octets. -/
def toNatBE (bs : Bytes) : Nat := bs.foldl (fun n b => n * 256 + b.toNat) 0

/-- The number whose base 256 digits, least significant first, are the given octets. -/
def toNatLE : Bytes → Nat
  | [] => 0
  | b :: bs => b.toNat + 256 * toNatLE bs

/-- The lowest `width` base 256 digits of a number, least significant first. -/
def ofNatLE : (width n : Nat) → Bytes
  | 0, _ => []
  | w + 1, n => UInt8.ofNat n :: ofNatLE w (n / 256)

/-- The lowest `width` base 256 digits of a number, most significant first. -/
def ofNatBE (width n : Nat) : Bytes := (ofNatLE width n).reverse

/-- Octet by octet exclusive or, as long as the shorter operand. -/
def xor (a b : Bytes) : Bytes := List.zipWith (· ^^^ ·) a b

/-- Consecutive pieces of `size` octets; the last one may be shorter. Stops when `fuel` pieces
have been cut, which `chunks` makes large enough for the whole string. -/
def chunksFrom (size : Nat) : (fuel : Nat) → Bytes → List Bytes
  | 0, _ => []
  | _ + 1, [] => []
  | fuel + 1, b :: bs => (b :: bs).take size :: chunksFrom size fuel ((b :: bs).drop size)

/-- The string cut into pieces of `size` octets. -/
def chunks (size : Nat) (bs : Bytes) : List Bytes := chunksFrom size bs.length bs

theorem length_ofNatLE (width n : Nat) : (ofNatLE width n).length = width := by
  induction width generalizing n with
  | zero => rfl
  | succ w ih => simp [ofNatLE, ih]

theorem length_ofNatBE (width n : Nat) : (ofNatBE width n).length = width := by
  simp [ofNatBE, length_ofNatLE]

end Bytes
end HdProvision
