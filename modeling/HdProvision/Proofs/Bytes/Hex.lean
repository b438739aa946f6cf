import Mathlib.Data.List.Induction
import Mathlib.Data.List.Range
import HdProvision.Bytes.Hex

/-!
# Digits of either case

An even number of hexadecimal digits is read whatever the case of each digit, and what is read is
written with the same digits in lower case.
-/

set_option autoImplicit false

namespace HdProvision.Hex

/-- The digits, in both cases. -/
def alphabet : List Char := "0123456789abcdefABCDEF".toList

theorem mem_alphabet_of_value? {c : Char} (h : (value? c).isSome) : c ∈ alphabet := by
  have hcodes : ∀ n ∈ List.range' 48 10 ++ List.range' 97 6 ++ List.range' 65 6,
      Char.ofNat n ∈ alphabet := by decide
  have hc := hcodes c.toNat
  rw [Char.ofNat_toNat] at hc
  apply hc
  by_cases hdigit : 48 ≤ c.toNat ∧ c.toNat ≤ 57
  · simp [List.mem_range'_1]
    omega
  by_cases hlower : 97 ≤ c.toNat ∧ c.toNat ≤ 102
  · simp [List.mem_range'_1]
    omega
  by_cases hupper : 65 ≤ c.toNat ∧ c.toNat ≤ 70
  · simp [List.mem_range'_1]
    omega
  simp [value?, hdigit, hlower, hupper] at h

/-- What is checked of each digit holds of the digits. -/
theorem of_alphabet (P : Char → Prop) [DecidablePred P] (h : (alphabet.all fun d => P d) = true) :
    ∀ d ∈ alphabet, P d := fun d hd => of_decide_eq_true (List.all_eq_true.mp h d hd)

/-- A digit has a value, and its lower case is the digit that the value is written with. -/
theorem value?_of_mem : ∀ d ∈ alphabet, ∃ v, v < 16 ∧ value? d = some v ∧
    Utf8.hexDigit v = d.toLower := of_alphabet _ (by decide)

theorem value?_isSome_iff (c : Char) : (value? c).isSome ↔ c ∈ alphabet := by
  constructor
  · exact mem_alphabet_of_value?
  · intro h
    obtain ⟨v, -, hv, -⟩ := value?_of_mem c h
    simp [hv]

theorem isGap_of_mem : ∀ d ∈ alphabet, isGap d = false := of_alphabet _ (by decide)

theorem toNat_of_mem : ∀ d ∈ alphabet, d.toNat ≤ 127 := of_alphabet _ (by decide)

theorem toLower_toUpper : ∀ d ∈ alphabet, d.toUpper.toLower = d.toLower :=
  of_alphabet _ (by decide)

theorem toUpper_mem : ∀ d ∈ alphabet, d.toUpper ∈ alphabet := of_alphabet _ (by decide)

theorem hexDigit_mem : ∀ n, n < 16 → Utf8.hexDigit n ∈ alphabet := by decide

theorem decodeFrom_of_alphabet (ds : List Char) (pos : Nat) (hds : ∀ d ∈ ds, d ∈ alphabet)
    (heven : ds.length % 2 = 0) :
    ∃ bs, decodeFrom pos ds = .ok bs ∧ encodeChars bs = ds.map Char.toLower := by
  induction ds using List.twoStepInduction generalizing pos with
  | nil => exact ⟨[], rfl, rfl⟩
  | singleton d => simp at heven
  | cons_cons d d' ds ih _ =>
    simp only [List.mem_cons, forall_eq_or_imp] at hds
    obtain ⟨hd, hd', hds⟩ := hds
    obtain ⟨hi, hhi, hvalue, hlower⟩ := value?_of_mem d hd
    obtain ⟨lo, hlo, hvalue', hlower'⟩ := value?_of_mem d' hd'
    obtain ⟨bs, hbs, hdigits⟩ := ih (pos + 2) hds (by simp at heven; omega)
    have hfirst : (16 * hi + lo) % 256 / 16 = hi := by omega
    have hsecond : (16 * hi + lo) % 256 % 16 = lo := by omega
    refine ⟨UInt8.ofNat (16 * hi + lo) :: bs, ?_, ?_⟩
    · simp [decodeFrom, isGap_of_mem d hd, hvalue, hvalue', hbs, Except.map]
    · rw [encodeChars, List.flatMap_cons, ← encodeChars, hdigits]
      simp [digits, hfirst, hsecond, hlower, hlower']

theorem decodeChars_of_alphabet {ds : List Char} (hds : ∀ d ∈ ds, d ∈ alphabet)
    (heven : ds.length % 2 = 0) :
    ∃ bs, decodeChars ds = .ok bs ∧ encodeChars bs = ds.map Char.toLower := by
  have hascii : ds.findIdx? (fun c => c.toNat > 127) = none := by
    simp only [List.findIdx?_eq_none_iff, decide_eq_false_iff_not, not_lt]
    exact fun d hd => toNat_of_mem d (hds d hd)
  simpa [decodeChars, hascii] using decodeFrom_of_alphabet ds 0 hds heven

theorem encodeChars_mem (bs : Bytes) : ∀ d ∈ encodeChars bs, d ∈ alphabet := by
  induction bs with
  | nil => simp [encodeChars]
  | cons b bs ih =>
    have hb := b.toNat_lt
    rw [encodeChars, List.flatMap_cons, ← encodeChars]
    simp only [digits, List.cons_append, List.nil_append, List.mem_cons, forall_eq_or_imp]
    exact ⟨hexDigit_mem _ (by omega), hexDigit_mem _ (by omega), ih⟩

theorem length_encodeChars (bs : Bytes) : (encodeChars bs).length = 2 * bs.length := by
  induction bs with
  | nil => rfl
  | cons b bs ih =>
    rw [encodeChars, List.flatMap_cons, ← encodeChars]
    simp [digits, ih]
    omega

/-- Digits are written in lower case. -/
theorem map_toLower_encodeChars (bs : Bytes) :
    (encodeChars bs).map Char.toLower = encodeChars bs := by
  obtain ⟨bs', hbs, hlower⟩ := decodeChars_of_alphabet (encodeChars_mem bs)
    (by rw [length_encodeChars]; omega)
  rw [decodeChars_encodeChars, Except.ok.injEq] at hbs
  rw [← hlower, hbs]

theorem encodeChars_injective : Function.Injective encodeChars := by
  intro bs bs' h
  have hread := decodeChars_encodeChars bs
  rw [h, decodeChars_encodeChars] at hread
  simpa using hread.symm

end HdProvision.Hex
