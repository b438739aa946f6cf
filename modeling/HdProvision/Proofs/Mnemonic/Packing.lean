import Mathlib.Data.List.Induction
import HdProvision.Mnemonic.Phrase
import HdProvision.Proofs.Bytes.Numbers

/-!
# Entropy as digits

Entropy and its checksum fill their digits exactly, so the number that the digits spell is the one
that was packed, and cutting it apart gives the entropy and its checksum back.
-/

set_option autoImplicit false

namespace HdProvision.Mnemonic

theorem number_append_singleton (ds : List Nat) (d : Nat) :
    number (ds ++ [d]) = number ds * 2048 + d := by
  rw [number, List.foldl_append, ← number]
  rfl

theorem number_digits {count n : Nat} (h : n < 2048 ^ count) : number (digits count n) = n := by
  induction count generalizing n with
  | zero =>
    rw [pow_zero, Nat.lt_one_iff] at h
    rw [h]
    rfl
  | succ c ih =>
    rw [pow_succ] at h
    rw [digits, number_append_singleton, ih (by omega)]
    omega

theorem lt_of_mem_digits {count n d : Nat} (h : d ∈ digits count n) : d < 2048 := by
  induction count generalizing n with
  | zero => simp [digits] at h
  | succ c ih =>
    rcases List.mem_append.mp h with h | h
    · exact ih h
    · rw [List.mem_singleton.mp h]
      exact Nat.mod_lt _ (by decide)

theorem number_lt {ds : List Nat} (h : ∀ d ∈ ds, d < 2048) : number ds < 2048 ^ ds.length := by
  induction ds using List.reverseRecOn with
  | nil => exact Nat.one_pos
  | append_singleton ds d ih =>
    have hds := ih fun e he => h e (List.mem_append_left _ he)
    have hd := h d (List.mem_append_right _ (List.mem_singleton_self d))
    rw [number_append_singleton, List.length_append, List.length_singleton, pow_succ]
    omega

theorem digits_number {ds : List Nat} (h : ∀ d ∈ ds, d < 2048) :
    digits ds.length (number ds) = ds := by
  induction ds using List.reverseRecOn with
  | nil => rfl
  | append_singleton ds d ih =>
    have hd := h d (List.mem_append_right _ (List.mem_singleton_self d))
    have hdiv : (number ds * 2048 + d) / 2048 = number ds := by omega
    have hmod : (number ds * 2048 + d) % 2048 = d := by omega
    rw [List.length_append, List.length_singleton, number_append_singleton, digits, hdiv, hmod,
      ih fun e he => h e (List.mem_append_left _ he)]

/-- A checksum has one bit for every four octets. -/
theorem checksum_lt (entropy : Bytes) (h : entropy.length / 4 ≤ 256) :
    checksum entropy < 2 ^ (entropy.length / 4) := by
  have hdigest := Bytes.toNatBE_lt (Sha256.digest entropy)
  rw [Sha256.length_digest] at hdigest
  rw [checksum, Nat.shiftRight_eq_div_pow, Nat.div_lt_iff_lt_mul (Nat.two_pow_pos _), ← pow_add,
    Nat.add_sub_of_le h]
  exact hdigest.trans_eq (by norm_num)

variable {entropy : Bytes} {groups : Nat}

theorem checksum_lt_of_length (h : entropy.length = 4 * groups) (hg : groups ≤ 256) :
    checksum entropy < 2 ^ groups := by
  have hquot : entropy.length / 4 = groups := by omega
  have hsum := checksum_lt entropy (by omega)
  rwa [hquot] at hsum

theorem packed_eq (h : entropy.length = 4 * groups) :
    packed entropy = Bytes.toNatBE entropy * 2 ^ groups + checksum entropy := by
  rw [packed, Nat.shiftLeft_eq, show entropy.length / 4 = groups by omega]

theorem packed_lt (h : entropy.length = 4 * groups) (hg : groups ≤ 256) :
    packed entropy < 2048 ^ (3 * groups) := by
  have hsum := checksum_lt_of_length h hg
  have hentropy := Bytes.toNatBE_lt entropy
  calc
    packed entropy < Bytes.toNatBE entropy * 2 ^ groups + 2 ^ groups := by
      rw [packed_eq h]
      omega
    _ = (Bytes.toNatBE entropy + 1) * 2 ^ groups := by ring
    _ ≤ 256 ^ (4 * groups) * 2 ^ groups := by
      rw [← h]
      exact Nat.mul_le_mul_right _ hentropy
    _ = 2048 ^ (3 * groups) := by
      rw [pow_mul, ← mul_pow, pow_mul]
      norm_num

/-- The first bits of packed entropy are the entropy. -/
theorem ofNatBE_packed (h : entropy.length = 4 * groups) (hg : groups ≤ 256) :
    Bytes.ofNatBE (4 * groups) (packed entropy >>> groups) = entropy := by
  have hdiv : packed entropy / 2 ^ groups = Bytes.toNatBE entropy := by
    rw [packed_eq h, Nat.mul_comm, Nat.mul_add_div (Nat.two_pow_pos _),
      Nat.div_eq_of_lt (checksum_lt_of_length h hg), Nat.add_zero]
  rw [Nat.shiftRight_eq_div_pow, hdiv, ← h, Bytes.ofNatBE_toNatBE]

/-- Packed entropy carries its own checksum. -/
theorem sumsUp_packed (h : entropy.length = 4 * groups) (hg : groups ≤ 256) :
    sumsUp groups (packed entropy) = true := by
  have hmod : packed entropy % 2 ^ groups = checksum entropy := by
    rw [packed_eq h, Nat.mul_add_mod_self_right, Nat.mod_eq_of_lt (checksum_lt_of_length h hg)]
  rw [sumsUp, Nat.one_shiftLeft, hmod, ofNatBE_packed h hg]
  exact decide_eq_true rfl

/-- A number that sums up is packed entropy: that of its first bits. -/
theorem packed_of_sumsUp {n : Nat} (hn : n < 2048 ^ (3 * groups)) (h : sumsUp groups n = true) :
    packed (Bytes.ofNatBE (4 * groups) (n >>> groups)) = n := by
  have hlength : (Bytes.ofNatBE (4 * groups) (n >>> groups)).length = 4 * groups :=
    Bytes.length_ofNatBE _ _
  have hfits : n >>> groups < 256 ^ (4 * groups) := by
    rw [Nat.shiftRight_eq_div_pow, Nat.div_lt_iff_lt_mul (Nat.two_pow_pos _)]
    calc
      n < 2048 ^ (3 * groups) := hn
      _ = 256 ^ (4 * groups) * 2 ^ groups := by
        rw [pow_mul, pow_mul, ← mul_pow]
        norm_num
  rw [sumsUp, Nat.one_shiftLeft, decide_eq_true_eq] at h
  rw [packed_eq hlength, Bytes.toNatBE_ofNatBE hfits, ← h, Nat.shiftRight_eq_div_pow]
  exact Nat.div_add_mod' n _

/-- Entropy of one length is told apart by what it is packed into. -/
theorem packed_inj {entropy' : Bytes} (h : entropy.length = 4 * groups)
    (h' : entropy'.length = 4 * groups) (hg : groups ≤ 256)
    (hpacked : packed entropy = packed entropy') : entropy = entropy' := by
  rw [← ofNatBE_packed h hg, ← ofNatBE_packed h' hg, hpacked]

end HdProvision.Mnemonic
