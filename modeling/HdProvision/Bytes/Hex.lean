import HdProvision.Bytes.Utf8

/-!
# Hexadecimal text

Two digits per octet, lower case when written. Reading takes digits of either case and skips
ASCII white space between pairs, never inside one; a refusal names the position of the first
character that does not fit.
-/

set_option autoImplicit false

namespace HdProvision.Hex

/-- The two digits of one octet. -/
def digits (b : UInt8) : List Char := [Utf8.hexDigit (b.toNat / 16), Utf8.hexDigit (b.toNat % 16)]

/-- The digits of an octet string. -/
def encodeChars (bs : Bytes) : List Char := bs.flatMap digits

/-- The text of an octet string. -/
def encode (bs : Bytes) : String := String.ofList (encodeChars bs)

/-- The value of a digit of either case. -/
def value? (c : Char) : Option Nat :=
  let n := c.toNat
  if 48 ≤ n && n ≤ 57 then some (n - 48)
  else if 97 ≤ n && n ≤ 102 then some (n - 87)
  else if 65 ≤ n && n ≤ 70 then some (n - 55)
  else none

/-- White space that may stand between two pairs. -/
def isGap (c : Char) : Bool := c = ' ' || (9 ≤ c.toNat && c.toNat ≤ 13)

/-- Reads pairs from the character at `pos` on; an error is the position that does not fit. -/
def decodeFrom : (pos : Nat) → List Char → Except Nat Bytes
  | _, [] => .ok []
  | pos, c :: r =>
    if isGap c then decodeFrom (pos + 1) r
    else match value? c with
      | none => .error pos
      | some hi => match r with
        | [] => .error (pos + 1)
        | d :: r' => match value? d with
          | none => .error (pos + 1)
          | some lo => (decodeFrom (pos + 2) r').map (UInt8.ofNat (16 * hi + lo) :: ·)

/-- The octets that a list of characters stands for. A character above U+007F is reported before
any other fault. -/
def decodeChars (cs : List Char) : Except Nat Bytes :=
  match cs.findIdx? (fun c => c.toNat > 127) with
  | some pos => .error pos
  | none => decodeFrom 0 cs

/-- The octets that a text stands for. -/
def decode (s : String) : Except Nat Bytes := decodeChars s.toList

theorem value?_hexDigit : ∀ n, n < 16 → value? (Utf8.hexDigit n) = some n := by decide

theorem isGap_hexDigit : ∀ n, n < 16 → isGap (Utf8.hexDigit n) = false := by decide

theorem hexDigit_le : ∀ n, n < 16 → (Utf8.hexDigit n).toNat ≤ 127 := by decide

theorem decodeFrom_encodeChars (bs : Bytes) (pos : Nat) :
    decodeFrom pos (encodeChars bs) = .ok bs := by
  induction bs generalizing pos with
  | nil => rfl
  | cons b bs ih =>
    have hb : b.toNat < 256 := b.toNat_lt
    have hhi : b.toNat / 16 < 16 := by omega
    have hlo : b.toNat % 16 < 16 := by omega
    have hsum : 16 * (b.toNat / 16) + b.toNat % 16 = b.toNat := by omega
    show decodeFrom pos (Utf8.hexDigit _ :: Utf8.hexDigit _ :: encodeChars bs) = _
    simp [decodeFrom, isGap_hexDigit _ hhi, value?_hexDigit _ hhi, value?_hexDigit _ hlo, ih, hsum,
      Except.map]

/-- Reading the digits of an octet string gives it back. -/
theorem decodeChars_encodeChars (bs : Bytes) : decodeChars (encodeChars bs) = .ok bs := by
  have h : (encodeChars bs).findIdx? (fun c => c.toNat > 127) = none := by
    rw [List.findIdx?_eq_none_iff]
    intro c hc
    obtain ⟨b, -, hb⟩ := List.mem_flatMap.1 hc
    have hlt : b.toNat < 256 := b.toNat_lt
    simp only [digits, List.mem_cons, List.not_mem_nil, or_false] at hb
    rcases hb with rfl | rfl
    · simpa using hexDigit_le _ (by omega)
    · simpa using hexDigit_le _ (by omega)
  simp [decodeChars, h, decodeFrom_encodeChars]

end HdProvision.Hex
