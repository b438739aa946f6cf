import HdProvision.Proofs.Store.Seed
import HdProvision.Provision.Save

/-!
# Saving an outcome

Recording an outcome is all or nothing: when it fails every file is as it was, and when it does not the
file holds the seed under the password, the path and the address. After the first of the four writes
nothing fails any more, if what the file held can be written again and all passwords are stretched or
none is.
-/

set_option autoImplicit false

namespace HdProvision.Provision.Save

open Json (Fields)
open Store (Configuration Disk StoreError)
open Store.Config (Recorded Stores Usable recordable_text)
open Vault (Sealed)

/-- Fields that hold all there is to record of an outcome. -/
structure Saved (k : Vault.Stretcher) (fields : Fields) (o : Outcome) : Prop where
  recorded : ∃ x, Recorded k fields o.seed o.dbPassword x
  consuming : Json.Fields.get? fields Store.Config.consumingField =
    some (.text (Json.Units.ofString (o.consuming.derivationPath.getD "")))
  earning : Json.Fields.get? fields Store.Config.earningField =
    some (.text (Json.Units.ofString o.earning.address))

variable [Json.Nesting] {c : Configuration} {o : Outcome} {s t u : Session}

/-- Recording the path and the address. -/
def recordWallets (c : Configuration) (o : Outcome) : Program StoreError Unit :=
  Program.sequence
    [ c.recordConsumingPath (.ofString (o.consuming.derivationPath.getD "")),
      c.recordEarningAddress (.ofString o.earning.address) ]

theorem start_recordConsumingPath (c : Configuration) (path : String) (s : Session) :
    (c.recordConsumingPath (.ofString path)).start s =
      (c.update Store.Config.consumingField (.text (Json.Units.ofString path))).start s := by
  rw [Configuration.recordConsumingPath, Json.Units.ofPoints_ofString]

theorem start_recordEarningAddress (c : Configuration) (address : String) (s : Session) :
    (c.recordEarningAddress (.ofString address)).start s =
      (c.update Store.Config.earningField (.text (Json.Units.ofString address))).start s := by
  rw [Configuration.recordEarningAddress, Json.Units.ofPoints_ofString]

theorem record_eq (c : Configuration) (o : Outcome) : record c o = (do
    c.recordPassword o.dbPassword
    c.recordSeed o.seed o.dbPassword
    recordWallets c o) := rfl

/-- A file with a seed takes the path and the address. -/
theorem recordWallets_of_keeps {k : Vault.Stretcher} {x : Sealed}
    (h : c.Keeps k s.disk o.seed o.dbPassword x) :
    ∃ d fields, (recordWallets c o).start s = (.ok (), s.storing d) ∧ Stores d c.file fields ∧
      Recorded k fields o.seed o.dbPassword x ∧ Saved k fields o := by
  obtain ⟨fields, hstores, hrecorded⟩ := h
  obtain ⟨d₁, hpath, hstores₁⟩ := Store.Configuration.update_of_takes
    (v := .text (Json.Units.ofString (o.consuming.derivationPath.getD ""))) hstores.takes
    (show Store.Config.consumingField ≠ Store.Config.versionField by decide) (recordable_text _)
  obtain ⟨d₂, haddress, hstores₂⟩ := Store.Configuration.update_of_takes (s := s.storing d₁)
    (v := .text (Json.Units.ofString o.earning.address)) hstores₁.takes
    (show Store.Config.earningField ≠ Store.Config.versionField by decide) (recordable_text _)
  rw [← start_recordConsumingPath] at hpath
  rw [← start_recordEarningAddress] at haddress
  have hrecorded₁ := hrecorded.update
    (show Store.Config.consumingField ≠ Store.Config.checkField by decide) (by decide)
    (.text (Json.Units.ofString (o.consuming.derivationPath.getD "")))
  have hrecorded₂ := hrecorded₁.update
    (show Store.Config.earningField ≠ Store.Config.checkField by decide) (by decide)
    (.text (Json.Units.ofString o.earning.address))
  have hne : Store.Config.consumingField ≠ Store.Config.earningField := by decide
  refine ⟨d₂, _, ?_, hstores₂, hrecorded₂, ⟨x, hrecorded₂⟩, ?_, ?_⟩
  · exact (Program.start_bind_of_ok hpath _).trans (Program.start_bind_of_ok haddress _)
  · rw [Json.Fields.get?_set_of_ne _ _ hne, Json.Fields.get?_set_self]
  · exact Json.Fields.get?_set_self _ _ _

/-- Once the seed is recorded nothing fails. -/
theorem record_of_recordSeed (haccess : s.disk.Accessible c.file)
    (hpassword : (c.recordPassword o.dbPassword).start s = (.ok (), t))
    (hseed : (c.recordSeed o.seed o.dbPassword).start t = (.ok (), u)) :
    ∃ d fields x, (record c o).start s = (.ok (), u.storing d) ∧
      t.lock o.seed o.dbPassword = .ok x ∧ Stores d c.file fields ∧
      Recorded s.stretcher fields o.seed o.dbPassword x ∧ Saved s.stretcher fields o := by
  have haccess' : t.disk.Accessible c.file ∧ t.stretcher = s.stretcher := by
    rcases Store.Configuration.recordPassword_ok haccess hpassword with
      ⟨-, rfl⟩ | ⟨hstretcher, -, -, fields, hstores⟩
    · exact ⟨haccess, rfl⟩
    · exact ⟨hstores.accessible, hstretcher⟩
  obtain ⟨-, x, hlock, hkeeps⟩ := Store.Configuration.recordSeed_ok haccess'.1 hseed
  obtain ⟨d, fields, hstart, hstores, hrecorded, hsaved⟩ := recordWallets_of_keeps hkeeps
  rw [haccess'.2] at hrecorded hsaved
  refine ⟨d, fields, x, ?_, hlock, hstores, hrecorded, hsaved⟩
  rw [record_eq, Program.start_bind_of_ok hpassword, Program.start_bind_of_ok hseed, hstart]

/-- A file that is not there takes an outcome. -/
theorem record_of_absent {q : Store.Place} (hworks : s.stretcher.Works)
    (hparent : s.disk.isDirectory c.file.parent = true) (hplace : s.disk.place c.file = .ok q)
    (hnone : s.disk.node? q = none) (o : Outcome) : ∃ t, (record c o).start s = (.ok (), t) := by
  have haccess : s.disk.Accessible c.file := Store.Disk.accessible_of_absent fun content mode h => by
    rw [← Store.Disk.place_ok hplace, hnone] at h
    cases h
  have hfree : Store.Config.seedExists s.disk c.file = .ok false := by
    rw [Store.Config.seedExists, Store.Config.load_of_absent hplace hnone]
    rfl
  obtain ⟨t, hpassword⟩ :=
    Store.Configuration.recordPassword_of_absent hworks hparent hplace hnone o.dbPassword
  rcases Store.Configuration.recordPassword_ok haccess hpassword with
    ⟨hknown, -⟩ | ⟨hstretcher, hcheck, hnone', fields, hstores⟩
  · rw [Store.Configuration.checkPassword_of_absent hplace hnone] at hknown
    cases hknown
  · rw [← hstretcher] at hcheck hworks
    obtain ⟨u, hseed⟩ := Store.Configuration.recordSeed_of_stores o.seed hworks hstores
      (hnone' hfree) hcheck
    obtain ⟨d, -, -, hrecord, -⟩ := record_of_recordSeed haccess hpassword hseed
    exact ⟨_, hrecord⟩

/-- What is recorded of an outcome is all there afterwards. -/
theorem saved_of_record (haccess : s.disk.Accessible c.file)
    (h : (record c o).start s = (.ok (), t)) :
    ∃ fields, Stores t.disk c.file fields ∧ Saved s.stretcher fields o := by
  have hrecord := h
  rw [record_eq] at h
  obtain ⟨_, u, hpassword, h⟩ := Program.start_bind_ok.mp h
  obtain ⟨_, v, hseed, -⟩ := Program.start_bind_ok.mp h
  obtain ⟨d, fields, x, hstart, -, hstores, -, hsaved⟩ :=
    record_of_recordSeed haccess hpassword hseed
  rw [hrecord] at hstart
  cases hstart
  exact ⟨fields, hstores, hsaved⟩

/-- An outcome that is not recorded leaves every file as it was. -/
theorem untouched_record {e : StoreError} (hsteady : s.stretcher.Steady)
    (husable : Usable s.disk c.file)
    (hnone : Store.Config.seedExists s.disk c.file = .ok false)
    (h : (record c o).start s = (.error e, t)) : s.disk.Untouched t.disk := by
  have hrecord := h
  have haccess := husable.accessible
  have hrewritable := husable.rewritable
  rw [record_eq] at h
  rcases Program.start_bind_error.mp h with hpassword | ⟨_, u, hpassword, h⟩
  · exact Store.Configuration.untouched_recordPassword hrewritable hpassword
  · rcases Program.start_bind_error.mp h with hseed | ⟨_, v, hseed, -⟩
    · rcases Store.Configuration.recordPassword_ok haccess hpassword with
        ⟨-, rfl⟩ | ⟨hstretcher, hcheck, hnone', fields, hstores⟩
      · exact Store.Configuration.untouched_recordSeed hrewritable hseed
      · have hworks := Store.Config.works_of_checkPassword hsteady hcheck
        rw [← hstretcher] at hworks hcheck
        obtain ⟨v, hok⟩ := Store.Configuration.recordSeed_of_stores o.seed hworks hstores
          (hnone' hnone) hcheck
        rw [hok] at hseed
        cases hseed
    · obtain ⟨d, -, -, hok, -⟩ := record_of_recordSeed haccess hpassword hseed
      rw [hrecord] at hok
      cases hok

end HdProvision.Provision.Save
