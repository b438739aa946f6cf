import HdProvision.Proofs.Session.Effects
import HdProvision.Proofs.Store.Config
import HdProvision.Proofs.Vault.Sealed
import HdProvision.Store.Record

/-!
# Recording secrets

What each way of recording does to a session. A secret is sealed with salts that are drawn for it, put
into its field, and logged without saying it.
-/

set_option autoImplicit false

namespace HdProvision.Session

variable {ε : Type}

/-- The session with another disk. -/
def storing (s : Session) (d : Store.Disk) : Session := { s with disk := d }

theorem disk_storing (s : Session) (d : Store.Disk) : (s.storing d).disk = d := rfl

/-- The salts and the nonce that are drawn next. -/
def salts (s : Session) : Vault.Salts where
  password := s.upcoming Vault.saltSize
  wrapper := (s.withDrawn Vault.saltSize).upcoming Vault.saltSize
  nonce := ((s.withDrawn Vault.saltSize).withDrawn Vault.saltSize).upcoming SecretBox.nonceSize

/-- The session after the salts were drawn. -/
def salted (s : Session) : Session := (s.withDrawn Vault.saltSize).withDrawn Vault.saltSize

/-- The session after a secret was sealed. -/
def sealing (s : Session) : Session := s.salted.withDrawn SecretBox.nonceSize

/-- A secret as it would be sealed next. -/
def lock (s : Session) (secret : Bytes) (password : String) : Except Vault.StretchFault Vault.Sealed :=
  Vault.Sealed.lock s.stretcher s.salts secret password

end HdProvision.Session

namespace HdProvision.Store.Configuration

open Config (Recordable Rewritable Stores Takes checkField checkText consumingField earningField
  seedField versionField)
open Json (Fields)
open Vault (Sealed Stretcher)

theorem recordable_sealed (x : Sealed) : Recordable (.object x.toFields) :=
  ⟨x.sound_toFields, x.depth_toFields.le⟩

/-- Wraps a secret if the password was stretched. The salts were drawn before, the nonce was not. -/
def wrapDrawn (passwordSalt wrapperSalt secret : Bytes) :
    Except Vault.StretchFault Bytes → Program StoreError Sealed
  | .error fault => throw (.stretch fault)
  | .ok material => do
    let nonce ← Session.draw SecretBox.nonceSize
    return Sealed.ofMaterial ⟨passwordSalt, wrapperSalt, nonce⟩ material secret

theorem start_sealSecret (secret : Bytes) (password : String) (s : Session) :
    (sealSecret secret password).start s = match s.lock secret password with
      | .ok x => (.ok x, s.sealing)
      | .error fault => (.error (.stretch fault), s.salted) := by
  have hstart : (sealSecret secret password).start s =
      (wrapDrawn s.salts.password s.salts.wrapper secret
        (s.stretcher.run (Utf8.encode password) s.salts.password)).start s.salted := rfl
  rw [hstart, Session.lock, Sealed.lock]
  cases s.stretcher.run (Utf8.encode password) s.salts.password <;> rfl

variable [Json.Nesting] {c : Configuration} {s t : Session} {name : Json.Units} {secret : Bytes}
  {password message : String}

theorem start_seedExists (c : Configuration) (s : Session) :
    c.seedExists.start s = (Config.seedExists s.disk c.file, s) := rfl

theorem start_checkPassword (c : Configuration) (password : String) (s : Session) :
    (c.checkPassword password).start s =
      (Config.checkPassword s.stretcher s.disk c.file password, s) := rfl

theorem start_update (c : Configuration) (name : Json.Units) (v : Json.Value) (s : Session) :
    (c.update name v).start s = ((Config.update s.disk c.file name v).1,
      s.storing (Config.update s.disk c.file name v).2) := rfl

/-- Seals a secret, puts it into a field and says so. -/
def keep (c : Configuration) (name : Json.Units) (secret : Bytes) (password message : String) :
    Program StoreError Unit := do
  let x ← sealSecret secret password
  c.update name (.object x.toFields)
  Session.note .info source message

theorem start_keep (c : Configuration) (name : Json.Units) (secret : Bytes)
    (password message : String) (s : Session) :
    (c.keep name secret password message).start s = match s.lock secret password with
      | .error fault => (.error (.stretch fault), s.salted)
      | .ok x => match Config.update s.disk c.file name (.object x.toFields) with
        | (.error e, d) => (.error e, s.sealing.storing d)
        | (.ok (), d) => (.ok (), (s.sealing.storing d).noted .info source message) := by
  have hseal := start_sealSecret secret password s
  cases hlock : s.lock secret password with
  | error fault =>
    rw [hlock] at hseal
    rw [keep, Program.start_bind_of_error hseal]
  | ok x =>
    rw [hlock] at hseal
    have hupdate := start_update c name (.object x.toFields) s.sealing
    rw [show s.sealing.disk = s.disk from rfl] at hupdate
    rw [keep, Program.start_bind_of_ok hseal]
    rcases hdisk : Config.update s.disk c.file name (.object x.toFields) with ⟨e | a, d⟩
    · rw [hdisk] at hupdate
      simp only [Program.start_bind_of_error hupdate, hdisk]
    · rw [hdisk] at hupdate
      simp only [Program.start_bind_of_ok hupdate, hdisk]
      rfl

theorem untouched_keep {e : StoreError} (hrewritable : Rewritable s.disk c.file)
    (h : (c.keep name secret password message).start s = (.error e, t)) :
    s.disk.Untouched t.disk := by
  rw [start_keep] at h
  split at h
  · cases h
    exact .refl _
  · split at h
    · next hupdate =>
      cases h
      exact Config.untouched_update hrewritable (recordable_sealed _) hupdate
    · cases h

/-- A secret that is kept was sealed, and its field was set. -/
theorem update_of_keep (h : (c.keep name secret password message).start s = (.ok (), t)) :
    ∃ x, s.lock secret password = .ok x ∧
      Config.update s.disk c.file name (.object x.toFields) = (.ok (), t.disk) ∧
      t = (s.sealing.storing t.disk).noted .info source message := by
  rw [start_keep] at h
  split at h
  · cases h
  · next x hlock =>
    split at h
    · cases h
    · next d hupdate =>
      cases h
      exact ⟨x, hlock, hupdate, rfl⟩

theorem keep_ok (haccess : s.disk.Accessible c.file) (hname : name ≠ versionField)
    (h : (c.keep name secret password message).start s = (.ok (), t)) :
    ∃ x fields d, s.lock secret password = .ok x ∧ Config.load s.disk c.file = .ok fields ∧
      Stores d c.file (fields.set name (.object x.toFields)) ∧
      t = (s.sealing.storing d).noted .info source message := by
  obtain ⟨x, hlock, hupdate, ht⟩ := update_of_keep h
  obtain ⟨fields, hload, hstores⟩ :=
    Config.stores_of_update haccess.readable hname (recordable_sealed x) hupdate
  exact ⟨x, fields, _, hlock, hload, hstores, ht⟩

/-- When passwords can be stretched, a file whose fields can be set takes a secret. -/
theorem keep_of_takes (secret : Bytes) (password message : String) {fields : Fields}
    (hworks : s.stretcher.Works) (htakes : Takes s.disk c.file fields)
    (hname : name ≠ versionField) :
    ∃ x d, s.lock secret password = .ok x ∧ (c.keep name secret password message).start s =
      (.ok (), (s.sealing.storing d).noted .info source message) ∧
      Stores d c.file (fields.set name (.object x.toFields)) := by
  obtain ⟨x, hlock⟩ := Sealed.lock_of_works hworks s.salts secret password
  obtain ⟨d, hupdate, hstores⟩ := htakes.set name _ hname (recordable_sealed x)
  refine ⟨x, d, hlock, ?_, hstores⟩
  rw [start_keep, show s.lock secret password = .ok x from hlock]
  simp only [hupdate]

/-- A file whose fields can be set takes any field. -/
theorem update_of_takes {fields : Fields} {v : Json.Value} (htakes : Takes s.disk c.file fields)
    (hname : name ≠ versionField) (hv : Recordable v) :
    ∃ d, (c.update name v).start s = (.ok (), s.storing d) ∧
      Stores d c.file (fields.set name v) := by
  obtain ⟨d, hupdate, hstored⟩ := htakes.set name v hname hv
  refine ⟨d, ?_, hstored⟩
  rw [start_update, hupdate]

/-- A file in which a field was set could be read. -/
theorem load_of_update {v : Json.Value} (h : (c.update name v).start s = (.ok (), t)) :
    ∃ fields, Config.load s.disk c.file = .ok fields := by
  rw [start_update, Config.update] at h
  cases hload : Config.load s.disk c.file with
  | error e =>
    rw [hload] at h
    cases h
  | ok fields => exact ⟨fields, rfl⟩

def passwordMessage (c : Configuration) : String :=
  "Recorded database password check in " ++ c.file.text

def seedMessage (c : Configuration) : String :=
  "Recorded encrypted mnemonic seed in " ++ c.file.text

/-- The password is recorded if the file knows none; otherwise it is compared. -/
theorem start_recordPassword (c : Configuration) (password : String) (s : Session) :
    (c.recordPassword password).start s =
      match Config.checkPassword s.stretcher s.disk c.file password with
      | .error e => (.error e, s)
      | .ok (some false) => (.error (.storage .otherPassword), s)
      | .ok (some true) => (.ok (), s)
      | .ok none => (c.keep checkField checkText password c.passwordMessage).start s := by
  have hcheck := start_checkPassword c password s
  cases hanswer : Config.checkPassword s.stretcher s.disk c.file password with
  | error e =>
    rw [hanswer] at hcheck
    rw [recordPassword, Program.start_bind_of_error hcheck]
  | ok answer =>
    rw [hanswer] at hcheck
    rw [recordPassword, Program.start_bind_of_ok hcheck]
    match answer with
    | none => rfl
    | some false => rfl
    | some true => rfl

/-- A password that is recorded was known already, or none was known and it is kept. -/
theorem recordPassword_cases (h : (c.recordPassword password).start s = (.ok (), t)) :
    Config.checkPassword s.stretcher s.disk c.file password = .ok (some true) ∧ t = s ∨
      Config.checkPassword s.stretcher s.disk c.file password = .ok none ∧
        (c.keep checkField checkText password c.passwordMessage).start s = (.ok (), t) := by
  rw [start_recordPassword] at h
  split at h
  · cases h
  · cases h
  · next hcheck =>
    cases h
    exact .inl ⟨hcheck, rfl⟩
  · next hcheck => exact .inr ⟨hcheck, h⟩

/-- The seed is recorded if there is none and the password is the recorded one. -/
theorem start_recordSeed (c : Configuration) (secret : Bytes) (password : String) (s : Session) :
    (c.recordSeed secret password).start s =
      match Config.seedExists s.disk c.file with
      | .error e => (.error e, s)
      | .ok true => (.error (.storage (.seedExists c.file)), s)
      | .ok false =>
        match Config.checkPassword s.stretcher s.disk c.file password with
        | .error e => (.error e, s)
        | .ok (some true) => (c.keep seedField secret password c.seedMessage).start s
        | .ok _ => (.error (.storage .noPassword), s) := by
  have hexists := start_seedExists c s
  have hcheck := start_checkPassword c password s
  cases hseed : Config.seedExists s.disk c.file with
  | error e =>
    rw [hseed] at hexists
    rw [recordSeed, Program.start_bind_of_error hexists]
  | ok there =>
    rw [hseed] at hexists
    rw [recordSeed, Program.start_bind_of_ok hexists]
    cases there with
    | true => rfl
    | false =>
      simp only [Bool.false_eq_true, if_false]
      cases hanswer : Config.checkPassword s.stretcher s.disk c.file password with
      | error e =>
        rw [hanswer] at hcheck
        rw [Program.start_bind_of_error hcheck]
      | ok answer =>
        rw [hanswer] at hcheck
        rw [Program.start_bind_of_ok hcheck]
        match answer with
        | none => rfl
        | some false => rfl
        | some true => rfl

/-- A seed that is recorded is the first one, and is kept under the password that was known. -/
theorem recordSeed_cases (h : (c.recordSeed secret password).start s = (.ok (), t)) :
    Config.seedExists s.disk c.file = .ok false ∧
      Config.checkPassword s.stretcher s.disk c.file password = .ok (some true) ∧
      (c.keep seedField secret password c.seedMessage).start s = (.ok (), t) := by
  rw [start_recordSeed] at h
  split at h
  · cases h
  · cases h
  · next hfree =>
    split at h
    · cases h
    · next hcheck => exact ⟨hfree, hcheck, h⟩
    · cases h

end HdProvision.Store.Configuration
