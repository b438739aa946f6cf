import HdProvision.Proofs.Hash.KeyBlock
import HdProvision.Proofs.Vault.Sealed

/-!
# Passwords that open the same secrets

A password is stretched through its key block, so passwords with one key block open the same
secrets. For passwords that fit into a block these are the ones that differ in zero characters at
their end; a longer password shares its block with the text of its digest, if there is one. Any other
password opens a sealed secret only if sealing something under it makes the same box.
-/

set_option autoImplicit false

namespace HdProvision.Vault

open Utf8 (isNul)

variable {p q : String}

/-- Passwords that one key block stands for. -/
def Alike (p q : String) : Prop :=
  BlockHash.sha256.keyBlock (Utf8.encode p) = BlockHash.sha256.keyBlock (Utf8.encode q)

/-- Passwords that fit into a block are alike when they differ in zero characters at their end. -/
theorem alike_iff_of_short (hp : (Utf8.encode p).length ≤ 64) (hq : (Utf8.encode q).length ≤ 64) :
    Alike p q ↔ p.toList.rdropWhile isNul = q.toList.rdropWhile isNul := by
  rw [Alike, BlockHash.keyBlock_eq_iff hp hq, Utf8.encode, Utf8.encode, Utf8.rdropWhile_encodeChars,
    Utf8.rdropWhile_encodeChars, Utf8.encodeChars_inj]

/-- No password that leaves room in a block is the only one of its kind. -/
theorem exists_alike (h : (Utf8.encode p).length < 64) : ∃ q, q ≠ p ∧ Alike p q := by
  have hchars : (p.push '\x00').toList = p.toList ++ ['\x00'] := String.toList_push _
  refine ⟨p.push '\x00', ?_, (alike_iff_of_short h.le ?_).mpr ?_⟩
  · intro heq
    have hlength := congrArg List.length hchars
    simp [heq] at hlength
  · rw [Utf8.encode, hchars, Utf8.encodeChars_concat, List.length_append]
    exact h
  · rw [hchars, List.rdropWhile_concat_pos _ _ _ rfl]

/-- A password that does not fit into a block is alike to a text that spells its digest. -/
theorem alike_of_digest (hp : 64 < (Utf8.encode p).length)
    (hq : Utf8.encode q = Sha256.digest (Utf8.encode p)) : Alike p q := by
  have hlong : BlockHash.sha256.blockSize < (Utf8.encode p).length := hp
  have hshort : (Utf8.encode q).length ≤ BlockHash.sha256.blockSize := by
    rw [hq, Sha256.length_digest]
    decide
  rw [Alike, BlockHash.keyBlock_of_short hshort, hq, BlockHash.keyBlock, if_pos hlong]
  rfl

theorem Stretcher.run_congr (s : Stretcher) (h : Alike p q) (salt : Bytes) :
    s.run (Utf8.encode p) salt = s.run (Utf8.encode q) salt := by
  simp only [run, Scrypt.derive_congr h]

namespace Sealed

variable {s : Stretcher} {salts : Salts} {secret : Bytes} {x : Sealed}

theorem lock_congr (h : Alike p q) (salts : Salts) (secret : Bytes) :
    lock s salts secret p = lock s salts secret q := by
  rw [lock, lock, s.run_congr h]

/-- A password opens what was sealed exactly when something seals to the same under it, with the
salts that were drawn. All others are refused. -/
theorem unlock_cases (h : lock s salts secret p = .ok x)
    (hnonce : salts.nonce.length = SecretBox.nonceSize) (q : String) :
    (∃ found, lock s salts found q = .ok x ∧ unlock s (.object x.toFields) q = .ok found) ∨
      (∀ found, lock s salts found q ≠ .ok x) ∧
        unlock s (.object x.toFields) q = .error .wrongKey := by
  obtain ⟨own, hown, rfl⟩ := lock_eq_ok_iff.mp h
  obtain ⟨material, hrun⟩ := Stretcher.run_of_run hown (Utf8.encode q)
  have hunlock := unlock_toFields (ofMaterial salts own secret) hrun
  cases hopen : unwrap? material salts.wrapper (wrap own salts.wrapper salts.nonce secret) with
  | some found =>
    rw [ofMaterial, hopen, Option.elim_some] at hunlock
    -- The box starts with the nonce that was drawn, so what is found in it seals to it again.
    have hwrap := (SecretBox.decrypt?_eq_some_iff.mp hopen).2
    rw [wrap, SecretBox.take_encrypt _ hnonce] at hwrap
    have hsame : ofMaterial salts material found = ofMaterial salts own secret := by
      rw [ofMaterial, wrap, hwrap]
      rfl
    exact Or.inl ⟨found, lock_eq_ok_iff.mpr ⟨material, hrun, hsame⟩, hunlock⟩
  | none =>
    rw [ofMaterial, hopen, Option.elim_none] at hunlock
    refine Or.inr ⟨fun found hfound => ?_, hunlock⟩
    obtain ⟨material', hrun', hsame⟩ := lock_eq_ok_iff.mp hfound
    obtain rfl := Except.ok.inj (hrun.symm.trans hrun')
    have hbox := congrArg Sealed.ciphertext hsame
    simp only [ofMaterial] at hbox
    rw [← hbox, unwrap?_wrap _ _ hnonce] at hopen
    cases hopen

end Sealed
end HdProvision.Vault
