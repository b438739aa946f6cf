import HdProvision.Proofs.Store.Record

/-!
# Recorded seeds

A recorded seed opens under its password. Updates of other fields keep it, and everything that would
replace it is refused.
-/

set_option autoImplicit false

namespace HdProvision.Store.Config

open Json (Fields)
open Vault (Sealed Stretcher)

/-- Fields with a password check and a seed that open under one password. -/
structure Recorded (k : Stretcher) (fields : Fields) (secret : Bytes) (password : String)
    (x : Sealed) : Prop where
  check : ∃ v, Json.Fields.get? fields checkField = some v ∧
    Sealed.unlock k v password = .ok checkText
  seed : Json.Fields.get? fields seedField = some (.object x.toFields)
  opens : Sealed.unlock k (.object x.toFields) password = .ok secret

variable {k : Stretcher} {fields : Fields} {secret : Bytes} {password : String} {x : Sealed}
  {d : Disk} {file : Path} {name : Json.Units}

/-- Setting another field keeps the seed. -/
theorem Recorded.update (h : Recorded k fields secret password x) (hcheck : name ≠ checkField)
    (hseed : name ≠ seedField) (v : Json.Value) :
    Recorded k (fields.set name v) secret password x := by
  obtain ⟨stored, hget, hunlock⟩ := h.check
  refine ⟨⟨stored, ?_, hunlock⟩, ?_, h.opens⟩
  · rw [Json.Fields.get?_set_of_ne fields v hcheck.symm, hget]
  · rw [Json.Fields.get?_set_of_ne fields v hseed.symm, h.seed]

variable [Json.Nesting]

theorem Recorded.seedExists (h : Recorded k fields secret password x)
    (hload : load d file = .ok fields) : seedExists d file = .ok true := by
  rw [Config.seedExists, hload, Except.map, h.seed, Option.isSome_some]

theorem Recorded.field_seed (h : Recorded k fields secret password x)
    (hload : load d file = .ok fields) :
    field d file seedField = .ok (some (.object x.toFields)) := by
  rw [field, hload, Except.map, h.seed]

theorem Recorded.seed_eq (h : Recorded k fields secret password x)
    (hload : load d file = .ok fields) : Config.seed k d file password = .ok (some secret) := by
  simp only [Config.seed, hload, h.seed, h.opens]

theorem Recorded.checkPassword (h : Recorded k fields secret password x)
    (hload : load d file = .ok fields) :
    checkPassword k d file password = .ok (some true) := by
  obtain ⟨stored, hget, hunlock⟩ := h.check
  simp only [Config.checkPassword, hload, hget, hunlock, decide_true]

/-- A password is known, so none is recorded any more. -/
theorem Recorded.checkPassword_ne_none (h : Recorded k fields secret password x)
    (hload : load d file = .ok fields) (k' : Stretcher) (other : String) :
    Config.checkPassword k' d file other ≠ .ok none := by
  obtain ⟨stored, hget, -⟩ := h.check
  simp only [Config.checkPassword, hload, hget]
  split <;> nofun

/-- A password that is known opens the check. -/
theorem check_of_checkPassword (hload : load d file = .ok fields)
    (h : Config.checkPassword k d file password = .ok (some true)) :
    ∃ stored, Json.Fields.get? fields checkField = some stored ∧
      Sealed.unlock k stored password = .ok checkText := by
  simp only [Config.checkPassword, hload] at h
  split at h
  · cases h
  · next stored hget =>
    split at h
    · next text hunlock =>
      have htext : text = checkText := by simpa using h
      exact ⟨stored, hget, htext ▸ hunlock⟩
    · cases h
    · cases h

/-- A steady stretcher that a password is known with does not fail. -/
theorem works_of_checkPassword (hsteady : k.Steady)
    (h : Config.checkPassword k d file password = .ok (some true)) : k.Works := by
  cases hload : load d file with
  | error e =>
    simp only [Config.checkPassword, hload] at h
    cases h
  | ok fields =>
    obtain ⟨stored, -, hunlock⟩ := check_of_checkPassword hload h
    obtain ⟨salt, material, _, _, -, hrun, -⟩ := Sealed.unlock_ok hunlock
    exact hsteady.works hrun

/-- What is said about the fields was read in them. -/
theorem load_of_map {α : Type} {f : Fields → α} {a : α} (h : (load d file).map f = .ok a) :
    ∃ fields, load d file = .ok fields ∧ f fields = a := by
  cases hload : load d file with
  | error e =>
    rw [hload] at h
    cases h
  | ok fields =>
    rw [hload] at h
    exact ⟨fields, rfl, Except.ok.inj h⟩

theorem get?_seed_of_not_exists (hload : load d file = .ok fields)
    (h : Config.seedExists d file = .ok false) : Json.Fields.get? fields seedField = none := by
  rw [Config.seedExists, hload, Except.map] at h
  simpa using h

end HdProvision.Store.Config

namespace HdProvision.Store.Configuration

open Config (Recorded Rewritable Stores checkField seedField checkText)
open Json (Fields)
open Vault (Sealed)

variable [Json.Nesting]

/-- The file holds a seed that opens under a password, as a sealed secret. -/
def Keeps (c : Configuration) (k : Vault.Stretcher) (d : Disk) (secret : Bytes) (password : String)
    (x : Sealed) : Prop :=
  ∃ fields, Stores d c.file fields ∧ Recorded k fields secret password x

variable {c : Configuration} {s t : Session} {k : Vault.Stretcher} {d : Disk} {secret : Bytes}
  {password : String} {x : Sealed}

theorem Keeps.seedExists (h : c.Keeps k d secret password x) :
    Config.seedExists d c.file = .ok true := by
  obtain ⟨fields, hstores, hrecorded⟩ := h
  exact hrecorded.seedExists hstores.load

theorem untouched_recordPassword {e : StoreError} (hrewritable : Rewritable s.disk c.file)
    (h : (c.recordPassword password).start s = (.error e, t)) : s.disk.Untouched t.disk := by
  rw [start_recordPassword] at h
  split at h
  · cases h
    exact .refl _
  · cases h
    exact .refl _
  · cases h
  · exact untouched_keep hrewritable h

theorem untouched_recordSeed {e : StoreError} (hrewritable : Rewritable s.disk c.file)
    (h : (c.recordSeed secret password).start s = (.error e, t)) : s.disk.Untouched t.disk := by
  rw [start_recordSeed] at h
  split at h
  · cases h
    exact .refl _
  · cases h
    exact .refl _
  · split at h
    · cases h
      exact .refl _
    · exact untouched_keep hrewritable h
    · cases h
      exact .refl _

/-- A password that is recorded is known already, or the file knows it from then on. -/
theorem recordPassword_ok (haccess : s.disk.Accessible c.file)
    (h : (c.recordPassword password).start s = (.ok (), t)) :
    Config.checkPassword s.stretcher s.disk c.file password = .ok (some true) ∧ t = s ∨
      t.stretcher = s.stretcher ∧
        Config.checkPassword s.stretcher t.disk c.file password = .ok (some true) ∧
        (Config.seedExists s.disk c.file = .ok false → Config.seedExists t.disk c.file = .ok false) ∧
        ∃ fields, Stores t.disk c.file fields := by
  rcases recordPassword_cases h with hknown | ⟨-, hkeep⟩
  · exact Or.inl hknown
  · obtain ⟨x, fields, d, hlock, hload, hstores, rfl⟩ := keep_ok haccess (by decide) hkeep
    have hopens := Sealed.unlock_lock hlock (Session.length_upcoming _ _)
    refine Or.inr ⟨rfl, ?_, fun hseed => ?_, _, hstores⟩
    · change Config.checkPassword s.stretcher d c.file password = _
      simp only [Config.checkPassword, hstores.load, Json.Fields.get?_set_self, hopens,
        decide_true]
    · change Config.seedExists d c.file = _
      have hnone := Config.get?_seed_of_not_exists hload hseed
      have hne : seedField ≠ checkField := by decide
      rw [Config.seedExists, hstores.load, Except.map, Json.Fields.get?_set_of_ne fields _ hne,
        hnone]
      rfl

theorem checkPassword_of_absent {file : Path} {q : Place} (hplace : d.place file = .ok q)
    (hnone : d.node? q = none) (password : String) :
    Config.checkPassword k d file password = .ok none := by
  simp only [Config.checkPassword, Config.load_of_absent hplace hnone]
  rfl

/-- A file that is not there takes a password. -/
theorem recordPassword_of_absent {q : Place} (hworks : s.stretcher.Works)
    (hparent : s.disk.isDirectory c.file.parent = true) (hplace : s.disk.place c.file = .ok q)
    (hnone : s.disk.node? q = none) (password : String) :
    ∃ t, (c.recordPassword password).start s = (.ok (), t) := by
  obtain ⟨sealedCheck, hlock⟩ := Sealed.lock_of_works hworks s.salts checkText password
  obtain ⟨d, hupdate, -⟩ := Config.update_of_absent hparent hplace hnone
    (show checkField ≠ Config.versionField by decide) (recordable_sealed sealedCheck)
  rw [start_recordPassword, checkPassword_of_absent hplace hnone]
  simp only [start_keep, show s.lock checkText password = .ok sealedCheck from hlock, hupdate]
  exact ⟨_, rfl⟩

/-- A seed that was recorded opens under its password. -/
theorem recordSeed_ok (haccess : s.disk.Accessible c.file)
    (h : (c.recordSeed secret password).start s = (.ok (), t)) :
    t.stretcher = s.stretcher ∧
      ∃ x, s.lock secret password = .ok x ∧ c.Keeps s.stretcher t.disk secret password x := by
  obtain ⟨-, hcheck, hkeep⟩ := recordSeed_cases h
  obtain ⟨x, fields, d, hlock, hload, hstores, rfl⟩ := keep_ok haccess (by decide) hkeep
  have hopens := Sealed.unlock_lock hlock (Session.length_upcoming _ _)
  obtain ⟨stored, hget, hunlock⟩ := Config.check_of_checkPassword hload hcheck
  have hne : checkField ≠ seedField := by decide
  refine ⟨rfl, x, hlock, _, hstores, ⟨stored, ?_, hunlock⟩, ?_, hopens⟩
  · rw [Json.Fields.get?_set_of_ne fields _ hne, hget]
  · exact Json.Fields.get?_set_self fields _ _

/-- A file that was written and knows the password takes a seed. -/
theorem recordSeed_of_stores (secret : Bytes) {fields : Fields} (hworks : s.stretcher.Works)
    (hstores : Stores s.disk c.file fields)
    (hseed : Config.seedExists s.disk c.file = .ok false)
    (hcheck : Config.checkPassword s.stretcher s.disk c.file password = .ok (some true)) :
    ∃ t, (c.recordSeed secret password).start s = (.ok (), t) := by
  obtain ⟨x, d, -, hkeep, -⟩ := keep_of_takes secret password c.seedMessage hworks hstores.takes
    (show seedField ≠ Config.versionField by decide)
  exact ⟨_, by rw [start_recordSeed, hseed, hcheck, hkeep]⟩

/-- No other seed is recorded, and nothing happens. -/
theorem Keeps.start_recordSeed (h : c.Keeps k s.disk secret password x) (other : Bytes)
    (password' : String) : (c.recordSeed other password').start s =
      (.error (.storage (.seedExists c.file)), s) := by
  rw [Configuration.start_recordSeed, h.seedExists]

/-- No other password is recorded, and nothing happens. -/
theorem Keeps.start_recordPassword (h : c.Keeps k s.disk secret password x) (other : String) :
    ((c.recordPassword other).start s).2 = s := by
  obtain ⟨fields, hstores, hrecorded⟩ := h
  rw [Configuration.start_recordPassword]
  split
  · rfl
  · rfl
  · rfl
  · next hnone =>
    exact absurd hnone (hrecorded.checkPassword_ne_none hstores.load s.stretcher other)

/-- Setting another field keeps the seed, and does not fail. -/
theorem Keeps.update (h : c.Keeps k s.disk secret password x) {name : Json.Units}
    (hversion : name ≠ Config.versionField) (hcheck : name ≠ checkField)
    (hseed : name ≠ seedField) {v : Json.Value} (hv : Config.Recordable v) :
    ∃ d, (c.update name v).start s = (.ok (), s.storing d) ∧ c.Keeps k d secret password x := by
  obtain ⟨fields, hstores, hrecorded⟩ := h
  obtain ⟨d, hstart, hstored⟩ := update_of_takes hstores.takes hversion hv
  exact ⟨d, hstart, _, hstored, hrecorded.update hcheck hseed v⟩

theorem Keeps.recordConsumingPath (h : c.Keeps k s.disk secret password x)
    (path : Json.Points) : ∃ d, (c.recordConsumingPath path).start s = (.ok (), s.storing d) ∧
      c.Keeps k d secret password x :=
  h.update (by decide) (by decide) (by decide) (Config.recordable_text _)

theorem Keeps.recordEarningAddress (h : c.Keeps k s.disk secret password x)
    (address : Json.Points) :
    ∃ d, (c.recordEarningAddress address).start s = (.ok (), s.storing d) ∧
      c.Keeps k d secret password x :=
  h.update (by decide) (by decide) (by decide) (Config.recordable_text _)

end HdProvision.Store.Configuration
