import HdProvision.Proofs.Bytes.Utf8
import HdProvision.Proofs.Json.Soundness
import HdProvision.Proofs.Store.Disk
import HdProvision.Store.Config

/-!
# Updates of the configuration file

Fields that are written are read back. An update sets its field and keeps all others, or it fails
and leaves every file as it was, unless the fields nest so deep that they can be read and not be
written. Once a file has been written no update of it fails.
-/

set_option autoImplicit false

namespace HdProvision.Json.Fields

theorem get?_append (fs gs : Fields) (name : Units) :
    get? (fs ++ gs) name = (get? fs name).or (get? gs name) := by
  rw [get?, List.lookup_append]
  rfl

theorem get?_of_not_mem {fs : Fields} {name : Units} (h : name ∉ fs.map Prod.fst) :
    get? fs name = none := by
  induction fs with
  | nil => rfl
  | cons f fs ih =>
    rw [List.map_cons, List.mem_cons, not_or] at h
    rw [get?, List.lookup_cons, beq_false_of_ne h.1]
    exact ih h.2

end HdProvision.Json.Fields

namespace HdProvision.Store.Config

open Json (Fields Nesting Units)

/-- A value that is recorded: a text, or an object of texts. -/
structure Recordable (v : Json.Value) : Prop where
  sound : v.Sound
  shallow : v.depth ≤ 1

theorem recordable_text (us : Units) : Recordable (.text us) := ⟨trivial, Nat.zero_le 1⟩

/-- The version nests no deeper than the fields. -/
theorem depth_versioned (fields : Fields) :
    (versioned fields).depth = Json.Value.depthFields fields + 1 := by
  rw [versioned, Json.Value.depth, Json.Fields.depthFields_append]
  exact congrArg (· + 1) (Nat.max_zero _)

variable [Nesting]

/-- Fields that the file can hold: they can be written and read, and none is the version. -/
structure Storable (fields : Fields) : Prop where
  sound : fields.Sound
  unversioned : versionField ∉ fields.map Prod.fst
  shallow : (versioned fields).depth ≤ Nesting.reading

theorem Storable.nil : Storable [] :=
  ⟨⟨trivial, List.nodup_nil⟩, List.not_mem_nil, by
    have hroom := Nesting.two_le_reading
    rw [depth_versioned, Json.Value.depthFields]
    omega⟩

theorem Storable.set {fields : Fields} {name : Units} {v : Json.Value} (h : Storable fields)
    (hname : name ≠ versionField) (hv : Recordable v) : Storable (fields.set name v) := by
  refine ⟨h.sound.set hv.sound name, ?_, ?_⟩
  · rw [Json.Fields.mem_names_set, not_or]
    exact ⟨hname.symm, h.unversioned⟩
  · have hroom := Nesting.two_le_reading
    have hshallow := h.shallow
    rw [depth_versioned] at hshallow ⊢
    have hfields : Json.Value.depthFields fields ≤ Nesting.reading - 1 := by omega
    have hset := Json.Fields.depthFields_set hfields (hv.shallow.trans (by omega)) name
    omega

/-- The object in the file can be written and read. -/
theorem Storable.versioned {fields : Fields} (h : Storable fields) :
    (Config.versioned fields).Sound := by
  refine ⟨Json.Value.soundFields_iff.mpr fun f hf => ?_, ?_⟩
  · rcases List.mem_append.mp hf with hf | hf
    · exact Json.Value.soundFields_iff.mp h.sound.1 f hf
    · rw [List.mem_singleton.mp hf]
      exact (by decide : (Text.Integer.natChars 1).length ≤ Text.Integer.maxDigits)
  · rw [List.map_append, List.nodup_append]
    refine ⟨h.sound.2, by simp, fun a ha b hb heq => ?_⟩
    rw [heq, List.mem_singleton.mp hb] at ha
    exact h.unversioned ha

/-- Fields are read back from the octets they are written as. -/
theorem parse_render (file : Path) {fields : Fields} (h : Storable fields) :
    parse file (render fields) = .ok fields := by
  have hversion : Json.Fields.get? (fields ++ [(versionField, .int version)]) versionField =
      some (.int version) := by
    rw [Json.Fields.get?_append, Json.Fields.get?_of_not_mem h.unversioned]
    simp [Json.Fields.get?]
  have herase : Json.Fields.erase (fields ++ [(versionField, .int version)]) versionField =
      fields := by
    rw [Json.Fields.erase, List.filter_append, ← Json.Fields.erase,
      Json.Fields.erase_of_not_mem h.unversioned]
    simp
  simp only [parse, render, Utf8.decode?_encodeChars, Json.read_write h.versioned h.shallow]
  simp only [Config.versioned, fieldsOf, hversion, Option.getD_some, herase]
  rfl

theorem parse_storable {file : Path} {content : Bytes} {fields : Fields}
    (h : parse file content = .ok fields) : Storable fields := by
  rw [parse] at h
  split at h
  · cases h
  · split at h
    · cases h
    · cases h
    · cases h
    · next v hv =>
      have hsound := Json.read_sound hv
      have hdepth := Json.depth_of_read hv
      cases v with
      | object all =>
        rw [fieldsOf] at h
        split at h
        · cases h
          refine ⟨Json.Fields.Sound.erase hsound versionField, Json.Fields.not_mem_erase all _, ?_⟩
          rw [depth_versioned]
          exact (Nat.succ_le_succ (Json.Fields.depthFields_erase_le all _)).trans hdepth
        · cases h
      | _ => cases h

theorem load_storable {d : Disk} {file : Path} {fields : Fields} (h : load d file = .ok fields) :
    Storable fields := by
  rw [load] at h
  split at h
  · cases h
  · cases h
    exact .nil
  · split at h
    · cases h
    · exact parse_storable h

variable {d d' : Disk} {file : Path} {fields : Fields} {name : Units} {v : Json.Value}

/-- Fields that do not nest too deep to be written. -/
def Fits (fields : Fields) : Prop := (versioned fields).depth ≤ Nesting.writing

theorem fits_nil : Fits [] := by
  have hroom := Nesting.two_le_writing
  rw [Fits, depth_versioned, Json.Value.depthFields]
  omega

theorem Fits.set (h : Fits fields) (name : Units) (hv : v.depth ≤ 1) :
    Fits (fields.set name v) := by
  have hroom := Nesting.two_le_writing
  rw [Fits, depth_versioned] at h ⊢
  have hfields : Json.Value.depthFields fields ≤ Nesting.writing - 1 := by omega
  have hset := Json.Fields.depthFields_set hfields (hv.trans (by omega)) name
  omega

/-- Whether a field can be set depends on the other fields. -/
theorem fits_set_iff (h : Storable fields) (name : Units) (hv : v.depth ≤ 1) :
    Fits (fields.set name v) ↔ Fits (fields.erase name) := by
  have hroom := Nesting.two_le_writing
  rw [Fits, Fits, depth_versioned, depth_versioned, Json.Fields.depthFields_set_eq h.sound.2]
  omega

/-- A field that is set for the first time makes nothing fit that did not. -/
theorem Fits.of_set (h : Fits (fields.set name v)) (hfresh : Json.Fields.get? fields name = none) :
    Fits fields := by
  rw [Fits, depth_versioned] at h ⊢
  exact (Nat.succ_le_succ (Json.Fields.depthFields_le_set hfresh v)).trans h

theorem render?_of_fits (h : Fits fields) : render? fields = some (render fields) := by
  rw [Fits] at h
  rw [render?, Json.write?, if_pos h, Option.map_some, render]

theorem render?_of_not_fits (h : ¬ Fits fields) : render? fields = none := by
  rw [Fits] at h
  rw [render?, Json.write?, if_neg h, Option.map_none]

/-- Fields that fit are saved by one write of the file. -/
theorem save_of_fits (h : Fits fields) : save d file fields =
    match d.makeDirectories file.parent with
    | (.error e, made) => (.error (.ofWriting file e), made)
    | (.ok (), made) =>
      match made.write file (render fields) with
      | .error e => (.error (.ofWriting file e), made)
      | .ok d' => (.ok (), d') := by
  rcases hmake : d.makeDirectories file.parent with ⟨e | _, made⟩
  · simp only [save, hmake]
  · cases hcreate : made.create file with
    | error e => simp only [save, hmake, Disk.write, hcreate]
    | ok opened =>
      obtain ⟨d', hfill⟩ := Disk.fill_of_create hcreate (render fields)
      simp only [save, hmake, Disk.write, hcreate, hfill, render?_of_fits h]

/-- What is not saved leaves every file as it was, unless it does not fit. -/
theorem untouched_or_tooDeep {e : StoreError} (h : save d file fields = (.error e, d')) :
    d.Untouched d' ∨ ¬ Fits fields ∧ e = .tooDeepToWrite := by
  have hmade := Disk.untouched_makeDirectories d file.parent
  rw [save] at h
  split at h
  · next hmake =>
    cases h
    rw [hmake] at hmade
    exact .inl hmade
  · next hmake =>
    rw [hmake] at hmade
    split at h
    · cases h
      exact .inl hmade
    · next opened hcreate =>
      by_cases hfits : Fits fields
      · obtain ⟨filled, hfill⟩ := Disk.fill_of_create hcreate (render fields)
        simp only [render?_of_fits hfits, hfill] at h
        cases h
      · rw [render?_of_not_fits hfits] at h
        cases h
        exact .inr ⟨hfits, rfl⟩

theorem untouched_save (hfits : Fits fields) {e : StoreError}
    (h : save d file fields = (.error e, d')) : d.Untouched d' :=
  (untouched_or_tooDeep h).resolve_right fun hdeep => hdeep.1 hfits

/-- Only fields that fit are saved. -/
theorem fits_of_save (h : save d file fields = (.ok (), d')) : Fits fields := by
  by_contra hfits
  rw [save] at h
  split at h
  · cases h
  · split at h
    · cases h
    · rw [render?_of_not_fits hfits] at h
      cases h

/-- Fields are saved when they fit, the directory is made and the file is written. -/
theorem save_eq_ok : save d file fields = (.ok (), d') ↔ Fits fields ∧ ∃ made, d.Untouched made ∧
    d.makeDirectories file.parent = (.ok (), made) ∧ made.write file (render fields) = .ok d' := by
  have hmade := Disk.untouched_makeDirectories d file.parent
  constructor
  · intro h
    have hfits := fits_of_save h
    rw [save_of_fits hfits] at h
    split at h
    · cases h
    · next made hmake =>
      rw [hmake] at hmade
      split at h
      · cases h
      · next hwrite =>
        cases h
        exact ⟨hfits, made, hmade, hmake, hwrite⟩
  · rintro ⟨hfits, made, -, hmake, hwrite⟩
    simp only [save_of_fits hfits, hmake, hwrite]

theorem holds_of_save (hreadable : d.Readable file) (h : save d file fields = (.ok (), d')) :
    d'.Holds file (render fields) := by
  obtain ⟨-, made, hmade, hmake, hwrite⟩ := save_eq_ok.mp h
  exact Disk.holds_of_write (Disk.makeDirectories_ok hmake) (hmade.readable_iff.mpr hreadable)
    hwrite

/-- Where some fields were saved all that fit can be saved. -/
theorem save_again (h : save d file fields = (.ok (), d')) {other : Fields} (hfits : Fits other) :
    ∃ d'', save d file other = (.ok (), d'') := by
  obtain ⟨-, made, hmade, hmake, hwrite⟩ := save_eq_ok.mp h
  obtain ⟨d'', hagain⟩ := Disk.write_again hwrite (render other)
  exact ⟨d'', save_eq_ok.mpr ⟨hfits, made, hmade, hmake, hagain⟩⟩

/-- A file that can be read after it was saved could be read before. -/
theorem readable_of_save (h : save d file fields = (.ok (), d')) {later : Fields}
    (hload : load d' file = .ok later) : d.Readable file := by
  obtain ⟨-, made, hmade, -, hwrite⟩ := save_eq_ok.mp h
  obtain ⟨q, mode, -, hplace, hnode, -, hread⟩ := Disk.write_ok hwrite
  rw [← hmade.readable_iff, hread]
  simp only [load, Disk.look, hplace, hnode, Disk.read] at hload
  split at hload
  · cases hload
  · next hok =>
    split at hok
    · assumption
    · cases hok

theorem save_of_holds {content : Bytes} (h : d.Holds file content) (hfits : Fits fields) :
    ∃ d', save d file fields = (.ok (), d') ∧ d'.Holds file (render fields) := by
  obtain ⟨d', hwrite, hholds⟩ := Disk.write_of_holds h (render fields)
  obtain ⟨q, mode, hat⟩ := h
  refine ⟨d', ?_, hholds⟩
  simp only [save_of_fits hfits, Disk.makeDirectories_of_isDirectory hat.parent, hwrite]

/-- Fields that do not fit are not written, although the file can be. -/
theorem save_of_not_fits {content : Bytes} (h : d.Holds file content) (hfits : ¬ Fits fields) :
    (save d file fields).1 = .error .tooDeepToWrite := by
  obtain ⟨d', hwrite, -⟩ := Disk.write_of_holds h []
  obtain ⟨q, mode, hat⟩ := h
  cases hcreate : d.create file with
  | error e =>
    rw [Disk.write, hcreate] at hwrite
    cases hwrite
  | ok opened =>
    simp only [save, Disk.makeDirectories_of_isDirectory hat.parent, hcreate,
      render?_of_not_fits hfits]

/-- The file holds some fields, and can be read and written. -/
structure Stores (d : Disk) (file : Path) (fields : Fields) : Prop where
  holds : ∃ content, d.Holds file content ∧ parse file content = .ok fields
  fits : Fits fields

theorem Stores.load (h : Stores d file fields) : load d file = .ok fields := by
  obtain ⟨content, hholds, hparse⟩ := h.holds
  obtain ⟨n, hlook⟩ := Disk.look_of_holds hholds
  simp only [Config.load, hlook, Disk.read_of_holds hholds, hparse]

theorem Stores.accessible (h : Stores d file fields) : d.Accessible file := by
  obtain ⟨content, hholds, -⟩ := h.holds
  exact hholds.accessible

theorem stores_of_holds (hfields : Storable fields) (hfits : Fits fields)
    (h : d.Holds file (render fields)) : Stores d file fields :=
  ⟨⟨render fields, h, parse_render file hfields⟩, hfits⟩

/-- An update that succeeds sets its field. -/
theorem stores_of_update (hreadable : d.Readable file) (hname : name ≠ versionField)
    (hv : Recordable v) (h : update d file name v = (.ok (), d')) :
    ∃ fields, Config.load d file = .ok fields ∧
      Stores d' file (fields.set name v) := by
  rw [update] at h
  split at h
  · cases h
  · next fields hload =>
    exact ⟨fields, hload, stores_of_holds ((load_storable hload).set hname hv) (fits_of_save h)
      (holds_of_save hreadable h)⟩

/-- So it does if the file can be read afterwards. -/
theorem stores_of_update_of_load (hname : name ≠ versionField) (hv : Recordable v)
    (h : update d file name v = (.ok (), d')) {later : Fields}
    (hlater : Config.load d' file = .ok later) :
    ∃ fields, Config.load d file = .ok fields ∧ Stores d' file (fields.set name v) := by
  have hreadable : d.Readable file := by
    rw [update] at h
    split at h
    · cases h
    · exact readable_of_save h hlater
  exact stores_of_update hreadable hname hv h

/-- What is read from the file can be written to it. -/
def Rewritable (d : Disk) (file : Path) : Prop :=
  ∀ fields, Config.load d file = .ok fields → Fits fields

/-- A file that stands where the path leads can be reached and read, and what is read from it can be
written again. -/
structure Usable (d : Disk) (file : Path) : Prop where
  accessible : d.Accessible file
  fits : ∀ content mode, d.node? (d.target file) = some (.file content mode) →
    ∀ fields, parse file content = .ok fields → Fits fields

theorem Usable.rewritable (h : Usable d file) : Rewritable d file := by
  intro fields hload
  rw [Config.load] at hload
  split at hload
  · cases hload
  · cases hload
    exact fits_nil
  · split at hload
    · cases hload
    · next content hread =>
      obtain ⟨q, mode, hplace, hnode, -⟩ := Disk.read_eq_ok.mp hread
      obtain rfl := Disk.place_ok hplace
      exact h.fits content mode hnode fields hload

theorem usable_of_absent
    (h : ∀ content mode, d.node? (d.target file) ≠ some (.file content mode)) : Usable d file :=
  ⟨Disk.accessible_of_absent h, fun content mode hnode => absurd hnode (h content mode)⟩

/-- An update that fails leaves every file as it was, if what was read can be written. -/
theorem untouched_update (hrewritable : Rewritable d file) (hv : Recordable v) {e : StoreError}
    (h : update d file name v = (.error e, d')) : d.Untouched d' := by
  rw [update] at h
  split at h
  · cases h
    exact .refl d
  · next fields hload => exact untouched_save ((hrewritable fields hload).set name hv.shallow) h

/-- A file whose fields can be read and set. -/
structure Takes (d : Disk) (file : Path) (fields : Fields) : Prop where
  load : Config.load d file = .ok fields
  fits : Fits fields
  set : ∀ name v, name ≠ versionField → Recordable v →
    ∃ d', Config.update d file name v = (.ok (), d') ∧ Stores d' file (fields.set name v)

/-- A file in which a field was set for the first time, and which can be read then, could be read
before and takes any other field. -/
theorem takes_of_update (hname : name ≠ versionField) (hv : Recordable v)
    (hfresh : ∀ fields, Config.load d file = .ok fields → Json.Fields.get? fields name = none)
    (h : update d file name v = (.ok (), d')) {later : Fields}
    (hlater : Config.load d' file = .ok later) :
    ∃ fields, Takes d file fields ∧ later = fields.set name v := by
  rw [update] at h
  split at h
  · cases h
  · next fields hload =>
    have hreadable := readable_of_save h hlater
    have hstorable := load_storable hload
    have hset := fits_of_save h
    have hstores := stores_of_holds (hstorable.set hname hv) hset (holds_of_save hreadable h)
    have hfits := hset.of_set (hfresh fields hload)
    refine ⟨fields, ⟨hload, hfits, fun name' v' hname' hv' => ?_⟩, ?_⟩
    · have hset' := hfits.set name' hv'.shallow
      obtain ⟨d'', hagain⟩ := save_again h hset'
      exact ⟨d'', by simp only [update, hload, hagain],
        stores_of_holds (hstorable.set hname' hv') hset' (holds_of_save hreadable hagain)⟩
    · rw [hstores.load] at hlater
      exact (Except.ok.inj hlater).symm

/-- A file that was written is updated. -/
theorem Stores.update (h : Stores d file fields) (hname : name ≠ versionField)
    (hv : Recordable v) : ∃ d', Config.update d file name v = (.ok (), d') ∧
      Stores d' file (fields.set name v) := by
  obtain ⟨content, hholds, -⟩ := h.holds
  have hset := h.fits.set name hv.shallow
  obtain ⟨d', hsave, hsaved⟩ := save_of_holds hholds hset
  refine ⟨d', ?_, stores_of_holds ((load_storable h.load).set hname hv) hset hsaved⟩
  simp only [Config.update, h.load, hsave]

theorem Stores.takes (h : Stores d file fields) : Takes d file fields :=
  ⟨h.load, h.fits, fun _ _ => h.update⟩

theorem load_of_absent {q : Place} (hplace : d.place file = .ok q) (hnone : d.node? q = none) :
    Config.load d file = .ok [] := by
  simp only [Config.load, Disk.look, hplace, hnone]

/-- A file that is not there takes a field. -/
theorem update_of_absent {q : Place} (hparent : d.isDirectory file.parent = true)
    (hplace : d.place file = .ok q) (hnone : d.node? q = none) (hname : name ≠ versionField)
    (hv : Recordable v) : ∃ d', Config.update d file name v = (.ok (), d') ∧
      Stores d' file (Json.Fields.set [] name v) := by
  have hload := load_of_absent hplace hnone
  have hset := fits_nil.set name hv.shallow
  obtain ⟨d', hwrite, hholds⟩ :=
    Disk.write_of_absent hparent hplace hnone (render (Json.Fields.set [] name v))
  refine ⟨d', ?_, stores_of_holds (Storable.nil.set hname hv) hset hholds⟩
  simp only [Config.update, hload, save_of_fits hset, Disk.makeDirectories_of_isDirectory hparent,
    hwrite]

end HdProvision.Store.Config
