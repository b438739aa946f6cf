import HdProvision.Bytes.Basic

/-!
# Text as octets

The UTF-8 form of a text, and its reading. Reading refuses overlong forms, surrogates and
anything above U+10FFFF; `display` shows each octet that belongs to no character as `\xNN`.
-/

set_option autoImplicit false

namespace HdProvision.Utf8

/-- The octets of a list of characters. -/
def encodeChars (cs : List Char) : Bytes := cs.flatMap String.utf8EncodeChar

/-- The octets of a text. -/
def encode (s : String) : Bytes := encodeChars s.toList

/-- Whether an octet continues a character. -/
def isTail (b : UInt8) : Bool := 0x80 ≤ b && b < 0xC0

/-- The low six bits that a continuing octet carries. -/
def tailBits (b : UInt8) : Nat := b.toNat % 64

/-- The character in a two octet form, if it is one. -/
def two? (a b : UInt8) : Option Char :=
  if 0xC2 ≤ a && a < 0xE0 && isTail b then
    some (Char.ofNat (a.toNat % 32 * 64 + tailBits b))
  else none

/-- The character in a three octet form, if it is one. -/
def three? (a b c : UInt8) : Option Char :=
  let n := a.toNat % 16 * 4096 + tailBits b * 64 + tailBits c
  if 0xE0 ≤ a && a < 0xF0 && isTail b && isTail c && 0x800 ≤ n && !(0xD800 ≤ n && n < 0xE000) then
    some (Char.ofNat n)
  else none

/-- The character in a four octet form, if it is one. -/
def four? (a b c d : UInt8) : Option Char :=
  let n := a.toNat % 8 * 262144 + tailBits b * 4096 + tailBits c * 64 + tailBits d
  if 0xF0 ≤ a && a < 0xF8 && isTail b && isTail c && isTail d && 0x10000 ≤ n && n < 0x110000 then
    some (Char.ofNat n)
  else none

/-- The character at the front, and how many octets behind the first belong to it. -/
def front? : Bytes → Option (Char × Nat)
  | [] => none
  | a :: r =>
    if a < 0x80 then some (Char.ofNat a.toNat, 0)
    else
      match r with
      | [] => none
      | b :: r₂ =>
        match two? a b with
        | some ch => some (ch, 1)
        | none =>
          match r₂ with
          | [] => none
          | c :: r₃ =>
            match three? a b c with
            | some ch => some (ch, 2)
            | none =>
              match r₃ with
              | [] => none
              | d :: _ => (four? a b c d).map fun ch => (ch, 3)

/-- Reads octets as characters, after `skip` octets that have been read. An octet that starts no
character is handed to `onBad`, whose characters take its place, or whose `none` ends the reading. -/
def decodeFrom (onBad : UInt8 → Option (List Char)) : (skip : Nat) → Bytes → Option (List Char)
  | _, [] => some []
  | skip + 1, _ :: r => decodeFrom onBad skip r
  | 0, a :: r =>
    match front? (a :: r) with
    | some (c, size) => (decodeFrom onBad size r).map (c :: ·)
    | none =>
      match onBad a with
      | some cs => (decodeFrom onBad 0 r).map (cs ++ ·)
      | none => none

/-- The characters of a well formed octet string. -/
def decode? (bs : Bytes) : Option (List Char) := decodeFrom (fun _ => none) 0 bs

/-- A lower case hexadecimal digit; the argument is below sixteen. -/
def hexDigit (n : Nat) : Char := Char.ofNat (if n < 10 then 48 + n else 87 + n)

/-- The last `width` hexadecimal digits of a number. -/
def hexDigits : (width n : Nat) → List Char
  | 0, _ => []
  | w + 1, n => hexDigits w (n / 16) ++ [hexDigit (n % 16)]

/-- Any octet string as text: an octet outside every character is shown as `\xNN`. -/
def display (bs : Bytes) : String :=
  String.ofList ((decodeFrom (fun b =>
    some ['\\', 'x', hexDigit (b.toNat / 16), hexDigit (b.toNat % 16)]) 0 bs).getD [])

theorem decode?_ascii (b : UInt8) (bs : Bytes) (h : b < 0x80) :
    decode? (b :: bs) = (decode? bs).map (Char.ofNat b.toNat :: ·) := by
  simp [decode?, decodeFrom, front?, h]

end HdProvision.Utf8
