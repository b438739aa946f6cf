import HdProvision.Proofs.Store.Damage
import HdProvision.Proofs.Vault.Alike

/-!
# Which passwords open the configuration

After a password and a seed were recorded, a password is accepted exactly when the check seals to the
same box under it, and it opens the seed exactly when something seals to the seed's box under it. All
passwords that are alike to the recorded one are accepted, and these are not only the recorded one: a
short password is alike to the one with a zero character behind it.
-/

set_option autoImplicit false

namespace HdProvision.Store.Configuration

open Config (checkField checkText seedField)
open Json (Fields)
open Vault (Alike Salts Sealed Stretcher)

variable {c : Configuration} {s t u : Session} {secret : Bytes} {p q : String}

section Opening

variable [Json.Nesting]

/-- A password that is taken for the recorded one. -/
structure Accepts (c : Configuration) (s : Session) (password : String) : Prop where
  known : (c.checkPassword password).start s = (.ok (some true), s)
  recorded : (c.recordPassword password).start s = (.ok (), s)

/-- A password that is told from the recorded one. -/
structure Rejects (c : Configuration) (s : Session) (password : String) : Prop where
  unknown : (c.checkPassword password).start s = (.ok (some false), s)
  refused : (c.recordPassword password).start s = (.error (.storage .otherPassword), s)

theorem start_seed (c : Configuration) (password : String) (s : Session) :
    (c.seed password).start s = (Config.seed s.stretcher s.disk c.file password, s) := rfl

theorem accepts_of_checkPassword
    (h : Config.checkPassword s.stretcher s.disk c.file q = .ok (some true)) : c.Accepts s q :=
  ⟨by rw [start_checkPassword, h], by rw [start_recordPassword, h]⟩

theorem rejects_of_checkPassword
    (h : Config.checkPassword s.stretcher s.disk c.file q = .ok (some false)) : c.Rejects s q :=
  ⟨by rw [start_checkPassword, h], by rw [start_recordPassword, h]⟩

/-- Fields with a check and a seed that were sealed under one password. -/
structure Locked (k : Stretcher) (fields : Fields) (salts salts' : Salts) (secret : Bytes)
    (password : String) (check kept : Sealed) : Prop where
  check_eq : Sealed.lock k salts checkText password = .ok check
  seed_eq : Sealed.lock k salts' secret password = .ok kept
  check_field : Json.Fields.get? fields checkField = some (.object check.toFields)
  seed_field : Json.Fields.get? fields seedField = some (.object kept.toFields)

/-- What two recordings put into a file where no password is recorded. -/
theorem locked_of_recorded (hnone : Config.field s.disk c.file checkField = .ok none)
    (hpassword : (c.recordPassword p).start s = (.ok (), t))
    (hseed : (c.recordSeed secret p).start t = (.ok (), u)) :
    ∃ check kept fields, Config.load u.disk c.file = .ok fields ∧ u.stretcher = s.stretcher ∧
      u.stretcher = t.stretcher ∧ Locked u.stretcher fields s.salts t.salts secret p check kept := by
  obtain ⟨hfree, -, hkeepSeed⟩ := recordSeed_cases hseed
  obtain ⟨later, hlater, -⟩ := Config.load_of_map hfree
  rcases recordPassword_cases hpassword with ⟨hknown, -⟩ | ⟨-, hkeepCheck⟩
  · obtain ⟨fields, hload, hget⟩ := Config.load_of_map hnone
    obtain ⟨stored, hstored, -⟩ := Config.check_of_checkPassword hload hknown
    rw [hget] at hstored
    cases hstored
  · obtain ⟨check, hcheck, hupdate, ht⟩ := update_of_keep hkeepCheck
    obtain ⟨fields, -, hstores⟩ := Config.stores_of_update_of_load (by decide)
      (recordable_sealed check) hupdate hlater
    obtain ⟨kept, fields', d, hkept, hload, hstored, hu⟩ :=
      keep_ok hstores.accessible (by decide) hkeepSeed
    obtain rfl := Except.ok.inj (hstores.load.symm.trans hload)
    have hne : checkField ≠ seedField := by decide
    have hstretcher : t.stretcher = s.stretcher := by rw [ht]; rfl
    have hsame : u.stretcher = t.stretcher := by rw [hu]; rfl
    refine ⟨check, kept, _, ?_, hsame.trans hstretcher, hsame, ?_, hsame ▸ hkept, ?_,
      Json.Fields.get?_set_self (fields.set checkField (.object check.toFields)) _ _⟩
    · rw [hu]
      exact hstored.load
    · rw [hsame, hstretcher]
      exact hcheck
    · rw [Json.Fields.get?_set_of_ne _ _ hne, Json.Fields.get?_set_self]

variable {k : Stretcher} {fields : Fields} {salts salts' : Salts} {check kept : Sealed} {d : Disk}
  {file : Path}

/-- A password is the recorded one when the check seals to the same under it. -/
theorem Locked.checkPassword (h : Locked k fields salts salts' secret p check kept)
    (hload : Config.load d file = .ok fields)
    (hnonce : salts.nonce.length = SecretBox.nonceSize) (q : String) :
    Config.checkPassword k d file q =
      .ok (some (decide (Sealed.lock k salts checkText q = .ok check))) := by
  simp only [Config.checkPassword, hload, h.check_field]
  rcases Sealed.unlock_cases h.check_eq hnonce q with ⟨found, hlock, hopen⟩ | ⟨hnone, hopen⟩
  · have hiff : found = checkText ↔ Sealed.lock k salts checkText q = .ok check := by
      constructor
      · rintro rfl
        exact hlock
      · intro hcheck
        have hcheck' := Sealed.unlock_lock hcheck hnonce
        exact Except.ok.inj (hopen.symm.trans hcheck')
    simp only [hopen, hiff]
  · simp only [hopen, hnone, decide_false]

/-- A password opens the seed when something seals to the same box under it. -/
theorem Locked.seed (h : Locked k fields salts salts' secret p check kept)
    (hload : Config.load d file = .ok fields)
    (hnonce : salts'.nonce.length = SecretBox.nonceSize) (q : String) :
    (∀ found, Sealed.lock k salts' found q = .ok kept → Config.seed k d file q = .ok (some found)) ∧
      ((∀ found, Sealed.lock k salts' found q ≠ .ok kept) →
        Config.seed k d file q = .error (.storage .wrongPassword)) := by
  simp only [Config.seed, hload, h.seed_field]
  constructor
  · intro found hfound
    simp only [Sealed.unlock_lock hfound hnonce]
  · intro hnone
    rcases Sealed.unlock_cases h.seed_eq hnonce q with ⟨found, hlock, -⟩ | ⟨-, hopen⟩
    · exact absurd hlock (hnone found)
    · simp only [hopen]

/-- Passwords that are alike to the recorded one open everything. -/
theorem opened_of_alike (hnone : Config.field s.disk c.file checkField = .ok none)
    (hpassword : (c.recordPassword p).start s = (.ok (), t))
    (hseed : (c.recordSeed secret p).start t = (.ok (), u)) (h : Alike p q) :
    c.Accepts u q ∧ (c.seed q).start u = (.ok (some secret), u) := by
  obtain ⟨check, kept, fields, hload, -, -, hlocked⟩ := locked_of_recorded hnone hpassword hseed
  have hcheck := hlocked.check_eq
  have hkept := hlocked.seed_eq
  rw [Sealed.lock_congr h] at hcheck hkept
  have hknown := hlocked.checkPassword hload (Session.length_upcoming _ _) q
  have hopens := (hlocked.seed hload (Session.length_upcoming _ _) q).1 secret hkept
  rw [decide_eq_true hcheck] at hknown
  exact ⟨accepts_of_checkPassword hknown, by rw [start_seed, hopens]⟩

/-- A password and a seed were recorded where none was. Then a password is accepted if the check
seals to the recorded box under it, with the salts that were drawn, and rejected if not; it opens the
seed to what seals to the recorded box under it, and is wrong if nothing does. The passwords that are
alike to the recorded one are accepted and open the seed. -/
theorem opened_by_sealing (hnone : Config.field s.disk c.file checkField = .ok none)
    (hpassword : (c.recordPassword p).start s = (.ok (), t))
    (hseed : (c.recordSeed secret p).start t = (.ok (), u)) :
    ∃ check kept, s.lock checkText p = .ok check ∧ t.lock secret p = .ok kept ∧
      (∀ q, (s.lock checkText q = .ok check → c.Accepts u q) ∧
        (s.lock checkText q ≠ .ok check → c.Rejects u q)) ∧
      (∀ q, (∀ found, t.lock found q = .ok kept → (c.seed q).start u = (.ok (some found), u)) ∧
        ((∀ found, t.lock found q ≠ .ok kept) →
          (c.seed q).start u = (.error (.storage .wrongPassword), u))) ∧
      ∀ q, Alike p q → c.Accepts u q ∧ (c.seed q).start u = (.ok (some secret), u) := by
  obtain ⟨check, kept, fields, hload, hs, ht, hlocked⟩ :=
    locked_of_recorded hnone hpassword hseed
  have hchecks : ∀ q, s.lock checkText q = Sealed.lock u.stretcher s.salts checkText q := by
    intro q
    rw [hs, Session.lock]
  have hseeds : ∀ found q, t.lock found q = Sealed.lock u.stretcher t.salts found q := by
    intro found q
    rw [ht, Session.lock]
  simp only [hchecks, hseeds]
  refine ⟨check, kept, hlocked.check_eq, hlocked.seed_eq, fun q => ?check, fun q => ?seed,
    fun q halike => opened_of_alike hnone hpassword hseed halike⟩
  case check =>
    have hknown := hlocked.checkPassword hload (Session.length_upcoming _ _) q
    constructor
    · intro hsame
      exact accepts_of_checkPassword (by rw [hknown, decide_eq_true hsame])
    · intro hother
      exact rejects_of_checkPassword (by rw [hknown, decide_eq_false hother])
  case seed =>
    simp only [start_seed, Prod.mk.injEq, and_true]
    exact hlocked.seed hload (Session.length_upcoming _ _) q

/-- A configuration without a file takes any password and any seed. -/
theorem recorded_nearby (secret : Bytes) (p : String) : ∃ t u,
    (nearby.recordPassword p).start (Session.bare []) = (.ok (), t) ∧
      (nearby.recordSeed secret p).start t = (.ok (), u) := by
  obtain ⟨t, fields, hpassword, hsame, hstores, hfree, hcheck⟩ := recordPassword_nearby p
  have hworks : t.stretcher.Works := by
    rw [hsame]
    exact ⟨by decide, fun _ => rfl⟩
  rw [← hsame] at hcheck
  obtain ⟨u, hseed⟩ := recordSeed_of_stores secret hworks hstores hfree hcheck
  exact ⟨t, u, hpassword, hseed⟩

theorem field_nearby : Config.field (Session.bare []).disk nearby.file checkField = .ok none := by
  rw [Config.field, Config.load_of_absent place_nearby rfl]
  rfl

end Opening

open scoped Json.Nesting

/-- The recorded password itself opens a new configuration. -/
theorem opened_by_sealing_plain : ∃ t u,
    Config.field (Session.bare []).disk nearby.file checkField = .ok none ∧
      (nearby.recordPassword "password").start (Session.bare []) = (.ok (), t) ∧
      (nearby.recordSeed [0] "password").start t = (.ok (), u) ∧
      nearby.Accepts u "password" ∧ (nearby.seed "password").start u = (.ok (some [0]), u) := by
  obtain ⟨t, u, hpassword, hseed⟩ := recorded_nearby [0] "password"
  obtain ⟨check, kept, -, -, -, -, halike⟩ := opened_by_sealing field_nearby hpassword hseed
  exact ⟨t, u, field_nearby, hpassword, hseed, halike "password" rfl⟩

/-- A password of one character and a zero character opens what was recorded under the character. -/
theorem opened_by_other : ∃ t u,
    (nearby.recordPassword "a").start (Session.bare []) = (.ok (), t) ∧
      (nearby.recordSeed [0] "a").start t = (.ok (), u) ∧ "a\x00" ≠ "a" ∧
      nearby.Accepts u "a\x00" ∧ (nearby.seed "a\x00").start u = (.ok (some [0]), u) := by
  have halike : Alike "a" "a\x00" := (Vault.alike_iff_of_short (by decide) (by decide)).mpr rfl
  obtain ⟨t, u, hpassword, hseed⟩ := recorded_nearby [0] "a"
  exact ⟨t, u, hpassword, hseed, by decide, opened_of_alike field_nearby hpassword hseed halike⟩

end HdProvision.Store.Configuration
