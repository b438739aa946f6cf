import Mathlib.Data.List.DropRight
import HdProvision.Hash.Keyed
import HdProvision.Proofs.Bytes.Utf8

/-!
# Keys with the same block

A key that fits into a block is filled up with zero octets, so keys that differ in zero octets at
their end have one block, and no other short keys have. Zero octets at the end of a text are its zero
characters.
-/

set_option autoImplicit false

namespace HdProvision

/-- A zero octet. -/
def isZero (b : UInt8) : Bool := b = 0

namespace BlockHash

variable {H : BlockHash} {p q : Bytes}

theorem rdropWhile_append_zeros (p : Bytes) (n : Nat) :
    (p ++ List.replicate n 0).rdropWhile isZero = p.rdropWhile isZero := by
  induction n with
  | zero => simp
  | succ n ih =>
    rw [List.replicate_succ', ← List.append_assoc, List.rdropWhile_concat_pos _ _ _ rfl, ih]

/-- What is taken off the end of a key are zero octets. -/
theorem eq_append_zeros (p : Bytes) :
    ∃ n, p = p.rdropWhile isZero ++ List.replicate n 0 := by
  induction p using List.reverseRecOn with
  | nil => exact ⟨0, rfl⟩
  | append_singleton p b ih =>
    by_cases hb : isZero b = true
    · obtain ⟨n, hp⟩ := ih
      obtain rfl : b = 0 := by simpa [isZero] using hb
      refine ⟨n + 1, ?_⟩
      rw [List.rdropWhile_concat_pos _ _ _ hb, List.replicate_succ', ← List.append_assoc, ← hp]
    · exact ⟨0, by rw [List.rdropWhile_concat_neg _ _ _ hb]; simp⟩

theorem keyBlock_of_short (h : p.length ≤ H.blockSize) :
    H.keyBlock p = p ++ List.replicate (H.blockSize - p.length) 0 := by
  rw [keyBlock, if_neg (Nat.not_lt.mpr h)]

/-- Zero octets at the end of a key are as good as the filling. -/
theorem keyBlock_rdropWhile (h : p.length ≤ H.blockSize) :
    H.keyBlock (p.rdropWhile isZero) = H.keyBlock p := by
  obtain ⟨n, hp⟩ := eq_append_zeros p
  have hlength : p.length = (p.rdropWhile isZero).length + n := by
    conv_lhs => rw [hp]
    simp
  rw [keyBlock_of_short h, keyBlock_of_short (by omega)]
  conv_rhs => rw [hp]
  rw [List.append_assoc, List.replicate_append_replicate, ← hp]
  congr 2
  omega

/-- Keys that fit into a block have one block when they differ in zero octets at their end. -/
theorem keyBlock_eq_iff (hp : p.length ≤ H.blockSize) (hq : q.length ≤ H.blockSize) :
    H.keyBlock p = H.keyBlock q ↔ p.rdropWhile isZero = q.rdropWhile isZero := by
  constructor
  · intro h
    rw [keyBlock_of_short hp, keyBlock_of_short hq] at h
    rw [← rdropWhile_append_zeros p, h, rdropWhile_append_zeros]
  · intro h
    rw [← keyBlock_rdropWhile hp, h, keyBlock_rdropWhile hq]

end BlockHash

namespace Utf8

/-- The zero character. -/
def isNul (c : Char) : Bool := c = '\x00'

theorem isZero_tail (n : Nat) : isZero (tail n) = false := by
  have hne : tail n ≠ 0 := by
    intro h
    have hnat : (tail n).toNat = 0 := by rw [h]; rfl
    rw [tail, UInt8.toNat_ofNat'] at hnat
    omega
  simp [isZero, hne]

theorem isNul_of_le {c : Char} (h : 0x80 ≤ c.toNat) : isNul c = false := by
  have hne : c ≠ '\x00' := by
    rintro rfl
    exact absurd h (by decide)
  simp [isNul, hne]

/-- The last octet of a character is zero for the zero character only. -/
theorem last_of_encode (c : Char) : ∃ front b, String.utf8EncodeChar c = front ++ [b] ∧
    isZero b = isNul c := by
  have hval : c.val.toNat = c.toNat := rfl
  unfold String.utf8EncodeChar
  simp only [hval]
  split
  · next hlow =>
    refine ⟨[], _, rfl, ?_⟩
    have hzero : UInt8.ofNat c.toNat = 0 ↔ c = '\x00' := by
      rw [← UInt8.toNat_inj, UInt8.toNat_ofNat', Char.ext_iff, ← UInt32.toNat_inj, hval]
      simp
      omega
    simp only [isZero, isNul, hzero]
  · have hnul := isNul_of_le (c := c) (by omega)
    split
    · exact ⟨[_], tail c.toNat, rfl, by rw [isZero_tail, hnul]⟩
    · split
      · exact ⟨[_, _], tail c.toNat, rfl, by rw [isZero_tail, hnul]⟩
      · exact ⟨[_, _, _], tail c.toNat, rfl, by rw [isZero_tail, hnul]⟩

theorem encodeChars_concat (cs : List Char) (c : Char) :
    encodeChars (cs ++ [c]) = encodeChars cs ++ String.utf8EncodeChar c := by
  simp [encodeChars]

theorem rdropWhile_encodeChars (cs : List Char) :
    (encodeChars cs).rdropWhile isZero = encodeChars (cs.rdropWhile isNul) := by
  induction cs using List.reverseRecOn with
  | nil => rfl
  | append_singleton cs c ih =>
    by_cases hc : isNul c = true
    · obtain rfl : c = '\x00' := by simpa [isNul] using hc
      have hzero : encodeChars (cs ++ ['\x00']) = encodeChars cs ++ [0] := encodeChars_concat cs _
      rw [List.rdropWhile_concat_pos _ _ _ hc, hzero, List.rdropWhile_concat_pos _ _ _ rfl, ih]
    · obtain ⟨front, b, hfront, hb⟩ := last_of_encode c
      rw [List.rdropWhile_concat_neg _ _ _ hc, encodeChars_concat, hfront, ← List.append_assoc,
        List.rdropWhile_concat_neg _ _ _ (hb ▸ hc)]

theorem encodeChars_inj {cs ds : List Char} : encodeChars cs = encodeChars ds ↔ cs = ds := by
  constructor
  · intro h
    rw [← Option.some_inj, ← decode?_encodeChars cs, h, decode?_encodeChars]
  · exact congrArg encodeChars

end Utf8
end HdProvision
