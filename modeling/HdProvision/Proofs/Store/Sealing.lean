import Mathlib.Logic.ExistsUnique
import HdProvision.Proofs.Store.Record

/-!
# Sealing is a faithful code

What is sealed under a password opens to the same octets, as it stands and out of a configuration file.
A box opens only if it is the one that sealing its content makes: it cannot be changed without being
refused, and for a key, a nonce and a content there is one box.
-/

set_option autoImplicit false

namespace HdProvision.Vault

variable {material salt nonce box secret : Bytes}

theorem unwrap?_eq_some_iff : unwrap? material salt box = some secret ↔
    40 ≤ box.length ∧ wrap material salt (box.take 24) secret = box :=
  SecretBox.decrypt?_eq_some_iff

/-- A box is refused when it is none that sealing makes, whatever its length. -/
theorem unwrap?_eq_none_iff : unwrap? material salt box = none ↔
    ∀ nonce secret : Bytes, nonce.length = 24 → wrap material salt nonce secret ≠ box := by
  constructor
  · rintro hnone nonce secret hnonce rfl
    rw [unwrap?_wrap material salt hnonce secret] at hnone
    cases hnone
  · intro hforeign
    cases hopen : unwrap? material salt box with
    | none => rfl
    | some secret =>
      obtain ⟨hlength, hwrap⟩ := unwrap?_eq_some_iff.mp hopen
      have hnonce : (box.take 24).length = 24 := by
        rw [List.length_take]
        omega
      exact absurd hwrap (hforeign _ secret hnonce)

/-- For a key, a nonce and a content one box is accepted. -/
theorem existsUnique_box (material salt : Bytes) (hnonce : nonce.length = 24) (secret : Bytes) :
    ∃! box : Bytes, box.take 24 = nonce ∧ unwrap? material salt box = some secret := by
  refine ⟨wrap material salt nonce secret,
    ⟨SecretBox.take_encrypt _ hnonce secret, unwrap?_wrap material salt hnonce secret⟩, ?_⟩
  rintro box ⟨rfl, hopen⟩
  exact (unwrap?_eq_some_iff.mp hopen).2.symm

end HdProvision.Vault

namespace HdProvision.Store.Configuration

open Config (Storable seedField versionField)
open Json (Fields Units)
open Vault (Sealed)

variable {s : Session}

/-- Any session whose stretcher works seals any secret under any password. -/
theorem sealSecret_of_works (hworks : s.stretcher.Works) (secret : Bytes) (password : String) :
    ∃ x, (sealSecret secret password).start s = (.ok x, s.sealing) ∧
      Sealed.unlock s.stretcher (.object x.toFields) password = .ok secret := by
  obtain ⟨x, hlock⟩ := Sealed.lock_of_works hworks s.salts secret password
  have hseal := start_sealSecret secret password s
  rw [show s.lock secret password = .ok x from hlock] at hseal
  have hnonce : s.salts.nonce.length = SecretBox.nonceSize := Session.length_upcoming _ _
  exact ⟨x, hseal, Sealed.unlock_lock hlock hnonce⟩

section Files

variable [Json.Nesting]

/-- A sealed secret is read back from the file that it was put into. -/
theorem parse_sealed (file : Path) {fields : Fields} {name : Units} (hfields : Storable fields)
    (hname : name ≠ versionField) (x : Sealed) :
    ∃ stored, Config.parse file (Config.render (fields.set name (.object x.toFields))) =
        .ok stored ∧
      Json.Fields.get? stored name = some (.object x.toFields) :=
  ⟨_, Config.parse_render file (hfields.set hname (recordable_sealed x)),
    Json.Fields.get?_set_self _ _ _⟩

/-- Sealing loses nothing and hides no change. What is sealed opens to the secret under its password,
also out of a file that it was written to; a box opens to a secret exactly when it is long enough and
sealing the secret with its first 24 octets for a nonce makes that very box, and it is refused
otherwise; and for a key, a nonce and a secret one box opens. -/
theorem sealing_faithful :
    (∀ (s : Session) (secret : Bytes) (password : String), s.stretcher.Works →
      ∃ x, (sealSecret secret password).start s = (.ok x, s.sealing) ∧
        Sealed.unlock s.stretcher (.object x.toFields) password = .ok secret ∧
        ∀ (file : Path) (fields : Fields) (name : Units), Storable fields → name ≠ versionField →
          ∃ stored v,
            Config.parse file (Config.render (fields.set name (.object x.toFields))) = .ok stored ∧
              Json.Fields.get? stored name = some v ∧
              Sealed.unlock s.stretcher v password = .ok secret) ∧
    (∀ material salt box secret : Bytes, Vault.unwrap? material salt box = some secret ↔
      40 ≤ box.length ∧ Vault.wrap material salt (box.take 24) secret = box) ∧
    (∀ material salt box : Bytes, Vault.unwrap? material salt box = none ↔
      ∀ nonce secret : Bytes, nonce.length = 24 → Vault.wrap material salt nonce secret ≠ box) ∧
    (∀ material salt nonce secret : Bytes, nonce.length = 24 →
      ∃! box : Bytes, box.take 24 = nonce ∧ Vault.unwrap? material salt box = some secret) := by
  refine ⟨?_, fun _ _ _ _ => Vault.unwrap?_eq_some_iff, fun _ _ _ => Vault.unwrap?_eq_none_iff,
    fun material salt _ secret hnonce => Vault.existsUnique_box material salt hnonce secret⟩
  intro s secret password hworks
  obtain ⟨x, hseal, hopen⟩ := sealSecret_of_works hworks secret password
  refine ⟨x, hseal, hopen, fun file fields name hfields hname => ?_⟩
  obtain ⟨stored, hparse, hget⟩ := parse_sealed file hfields hname x
  exact ⟨stored, _, hparse, hget, hopen⟩

end Files

open scoped Json.Nesting

/-- The empty secret under the empty password, put into a new file; and a nonce of zeros. -/
theorem sealing_faithful_empty :
    (Session.bare []).stretcher.Works ∧ Storable [] ∧ seedField ≠ versionField ∧
      (List.replicate 24 (0 : UInt8)).length = 24 ∧
      (∃ x, (sealSecret [] "").start (.bare []) = (.ok x, (Session.bare []).sealing) ∧
        ∃ stored v, Config.parse ⟨.root, []⟩
              (Config.render (Json.Fields.set [] seedField (.object x.toFields))) = .ok stored ∧
            Json.Fields.get? stored seedField = some v ∧
            Sealed.unlock (Session.bare []).stretcher v "" = .ok []) ∧
      ∃! box : Bytes, box.take 24 = List.replicate 24 0 ∧ Vault.unwrap? [] [] box = some [] := by
  have hworks : (Session.bare []).stretcher.Works := ⟨by decide, fun _ => rfl⟩
  have hname : seedField ≠ versionField := by decide
  have hnonce : (List.replicate 24 (0 : UInt8)).length = 24 := rfl
  obtain ⟨hseals, -, -, hunique⟩ := sealing_faithful
  obtain ⟨x, hseal, -, hfile⟩ := hseals (.bare []) [] "" hworks
  exact ⟨hworks, .nil, hname, hnonce, ⟨x, hseal, hfile ⟨.root, []⟩ [] seedField .nil hname⟩,
    hunique [] [] _ [] hnonce⟩

end HdProvision.Store.Configuration
