import HdProvision.Proofs.Store.Refusals

/-!
# What a recording leaves alone

A recording reads the whole file and writes it anew. What is read back afterwards are the fields
that were there before, in their order, with one of them set; the text holds them with the version
behind. A text that was recorded is read back as it was given, unless two halves of a pair stood
side by side in it. Two fields that are both there can be set in either order.
-/

set_option autoImplicit false

namespace HdProvision.Json.Fields

/-- A field keeps its place, or comes behind all others. -/
theorem names_set (fs : Fields) (name : Units) (v : Value) :
    (fs.set name v).map Prod.fst =
      if name ∈ fs.map Prod.fst then fs.map Prod.fst else fs.map Prod.fst ++ [name] := by
  induction fs with
  | nil => rfl
  | cons f fs ih =>
    obtain ⟨k, w⟩ := f
    by_cases hk : k = name
    · simp [set, hk]
    · simp only [set, hk, if_false, List.map_cons, ih, List.mem_cons, Ne.symm hk, false_or]
      split <;> rfl

/-- Fields that are there are set in either order. -/
theorem set_comm {fs : Fields} {a b : Units} (hne : a ≠ b) (ha : a ∈ fs.map Prod.fst)
    (hb : b ∈ fs.map Prod.fst) (v w : Value) :
    (fs.set a v).set b w = (fs.set b w).set a v := by
  induction fs with
  | nil => cases ha
  | cons f fs ih =>
    obtain ⟨k, x⟩ := f
    by_cases hka : k = a
    · subst hka
      simp [set, hne]
    · by_cases hkb : k = b
      · subst hkb
        simp [set, hka]
      · simp only [List.map_cons, List.mem_cons, Ne.symm hka, Ne.symm hkb, false_or] at ha hb
        simp [set, hka, hkb, ih ha hb]

/-- Fields in which one was set: it has its new value, all others have theirs, and the order is the
one that they had, with a new field behind. -/
structure Sets (before after : Fields) (name : Units) (v : Value) : Prop where
  value : get? after name = some v
  others : ∀ other, other ≠ name → get? after other = get? before other
  names : after.map Prod.fst = if name ∈ before.map Prod.fst then before.map Prod.fst
    else before.map Prod.fst ++ [name]

theorem sets_set (fs : Fields) (name : Units) (v : Value) : Sets fs (fs.set name v) name v :=
  ⟨get?_set_self fs name v, fun _ h => get?_set_of_ne fs v h, names_set fs name v⟩

end HdProvision.Json.Fields

namespace HdProvision.Store

open Config (Recordable Storable checkField checkText consumingField earningField render seedField
  versionField)
open Json (Fields Units)

variable {c : Configuration} {s t u : Session} {d d' : Disk} {file : Path} {content : Bytes}
  {fields : Fields} {name : Units} {v : Json.Value}

theorem Disk.readable_of_read (h : d.read file = .ok content) : d.Readable file := by
  obtain ⟨q, mode, hplace, hnode, hread⟩ := Disk.read_eq_ok.mp h
  intro content' mode' hnode'
  rw [← Disk.place_ok hplace, hnode] at hnode'
  cases hnode'
  exact hread

namespace Config

variable [Json.Nesting]

/-- The file was written with some fields and the version behind them, and they are read back. -/
structure Written (d : Disk) (file : Path) (fields : Fields) : Prop where
  load : load d file = .ok fields
  text : d.read file = .ok (Utf8.encodeChars (Json.write (versioned fields)))
  reads : Json.read (Json.write (versioned fields)) = .ok (versioned fields)
  unversioned : versionField ∉ fields.map Prod.fst

theorem written_of_holds (hfields : Storable fields) (h : d.Holds file (render fields)) :
    Written d file fields :=
  ⟨(load_of_read (Disk.read_of_holds h)).trans (parse_render file hfields), Disk.read_of_holds h,
    Json.read_write hfields.versioned hfields.shallow, hfields.unversioned⟩

theorem holds_of_update (hreadable : d.Readable file) (hload : Config.load d file = .ok fields)
    (h : update d file name v = (.ok (), d')) : d'.Holds file (render (fields.set name v)) := by
  rw [update, hload] at h
  exact holds_of_save hreadable h

/-- An update changes one field and nothing else. -/
theorem written_of_update (hreadable : d.Readable file) (hload : Config.load d file = .ok fields)
    (hname : name ≠ versionField) (hv : Recordable v) (h : update d file name v = (.ok (), d')) :
    Written d' file (fields.set name v) :=
  written_of_holds ((load_storable hload).set hname hv) (holds_of_update hreadable hload h)

/-- Two fields that are there are set in either order, with the same text, if each can be set
first. -/
theorem update_comm {a b : Units} {w : Json.Value} {d'' : Disk} (hne : a ≠ b)
    (ha : a ∈ fields.map Prod.fst) (hb : b ∈ fields.map Prod.fst) (ha' : a ≠ versionField)
    (hb' : b ≠ versionField) (hv : Recordable v) (hw : Recordable w) (hreadable : d.Readable file)
    (hload : Config.load d file = .ok fields) (hfits : Fits (fields.set b w))
    (hfirst : update d file a v = (.ok (), d')) (hsecond : update d' file b w = (.ok (), d'')) :
    ∃ e' e'', update d file b w = (.ok (), e') ∧ update e' file a v = (.ok (), e'') ∧
      e''.read file = d''.read file := by
  have hstorable := load_storable hload
  have hholds := holds_of_update hreadable hload hfirst
  have hwritten := hfirst
  rw [update, hload] at hwritten
  have hstores := stores_of_holds (hstorable.set ha' hv) (fits_of_save hwritten) hholds
  have hlast := holds_of_update hstores.accessible.readable hstores.load hsecond
  -- Whether the file can be written does not hang on which fields are written.
  obtain ⟨e', hagain⟩ := save_again hwritten hfits
  have hother : update d file b w = (.ok (), e') := by rw [update, hload, ← hagain]
  have hstores' := stores_of_holds (hstorable.set hb' hw) hfits
    (holds_of_update hreadable hload hother)
  obtain ⟨e'', hthen, -⟩ := hstores'.update ha' hv
  have hend := holds_of_update hstores'.accessible.readable hstores'.load hthen
  refine ⟨e', e'', hother, hthen, ?_⟩
  rw [Disk.read_of_holds hend, Disk.read_of_holds hlast, Json.Fields.set_comm hne ha hb]

end Config

namespace Recording

/-- The field that a recording is about. -/
def field : Recording → Units
  | password _ => checkField
  | seed _ _ => seedField
  | consumingPath _ => consumingField
  | earningAddress _ => earningField

/-- What is put into the field; a secret is sealed with the salts that are drawn next. -/
def value (s : Session) : Recording → Except Vault.StretchFault Json.Value
  | password p => (s.lock checkText p).map fun x => .object x.toFields
  | seed secret p => (s.lock secret p).map fun x => .object x.toFields
  | consumingPath path => .ok (.text (Units.ofPoints path))
  | earningAddress address => .ok (.text (Units.ofPoints address))

variable [Json.Nesting]

/-- The recording of a password that the file knows already. -/
def Idle (c : Configuration) (s : Session) : Recording → Prop
  | password p => Config.checkPassword s.stretcher s.disk c.file p = .ok (some true)
  | _ => False

omit [Json.Nesting] in
theorem field_ne_version (x : Recording) : x.field ≠ versionField := by
  cases x <;> simp only [field] <;> decide

theorem update_of_keep {secret : Bytes} {password message : String}
    (h : (c.keep name secret password message).start s = (.ok (), t)) :
    ∃ v, (s.lock secret password).map (fun x => Json.Value.object x.toFields) = .ok v ∧
      Recordable v ∧ Config.update s.disk c.file name v = (.ok (), t.disk) := by
  obtain ⟨x, hlock, hupdate, -⟩ := Configuration.update_of_keep h
  exact ⟨_, by rw [hlock]; rfl, Configuration.recordable_sealed x, hupdate⟩

theorem update_of_start (h : (c.update name v).start s = (.ok (), t)) :
    Config.update s.disk c.file name v = (.ok (), t.disk) := by
  rw [Configuration.start_update] at h
  obtain ⟨hok, rfl⟩ := Prod.mk.inj h
  exact Prod.ext hok rfl

/-- A recording that succeeds sets its field, unless there was nothing to do. -/
theorem update_of_record (x : Recording) (h : (x.record c).start s = (.ok (), t)) :
    (x.Idle c s ∧ t = s) ∨ ∃ v, x.value s = .ok v ∧ Recordable v ∧
      Config.update s.disk c.file x.field v = (.ok (), t.disk) := by
  cases x with
  | password p =>
    rcases Configuration.recordPassword_cases h with hknown | ⟨-, hkeep⟩
    · exact Or.inl hknown
    · exact Or.inr (update_of_keep hkeep)
  | seed secret p =>
    obtain ⟨-, -, hkeep⟩ := Configuration.recordSeed_cases h
    exact Or.inr (update_of_keep hkeep)
  | consumingPath path => exact Or.inr ⟨_, rfl, Config.recordable_text _, update_of_start h⟩
  | earningAddress address => exact Or.inr ⟨_, rfl, Config.recordable_text _, update_of_start h⟩

end Recording

namespace Configuration

section Recordings

variable [Json.Nesting]

/-- Updates of two fields that are there can change places, if each can be the first. -/
theorem update_update {a b : Units} {w : Json.Value} (hne : a ≠ b) (ha : a ∈ fields.map Prod.fst)
    (hb : b ∈ fields.map Prod.fst) (ha' : a ≠ versionField) (hb' : b ≠ versionField)
    (hv : Recordable v) (hw : Recordable w) (hreadable : s.disk.Readable c.file)
    (hload : Config.load s.disk c.file = .ok fields) (hfits : Config.Fits (fields.set b w))
    (h : (do c.update a v; c.update b w).start s = (.ok (), u)) :
    ∃ u', (do c.update b w; c.update a v).start s = (.ok (), u') ∧
      u'.disk.read c.file = u.disk.read c.file := by
  obtain ⟨_, t, hfirst, hsecond⟩ := Program.start_bind_ok.mp h
  obtain ⟨e', e'', hother, hthen, hsame⟩ := Config.update_comm hne ha hb ha' hb' hv hw hreadable
    hload hfits (Recording.update_of_start hfirst) (Recording.update_of_start hsecond)
  refine ⟨(s.storing e').storing e'', Program.start_bind_ok.mpr ⟨(), s.storing e', ?_, ?_⟩, hsame⟩
  · rw [start_update, hother]
  · rw [start_update, Session.disk_storing, hthen]

/-- A field that was set first could be written. -/
theorem fits_of_update_bind {p : Program StoreError Unit}
    (hload : Config.load s.disk c.file = .ok fields)
    (h : (do c.update name v; p).start s = (.ok (), u)) : Config.Fits (fields.set name v) := by
  obtain ⟨_, t, hfirst, -⟩ := Program.start_bind_ok.mp h
  have hupdate := Recording.update_of_start hfirst
  rw [Config.update, hload] at hupdate
  exact Config.fits_of_save hupdate

/-- What was recorded reads back as the fields that were there with one of them set, and the text of
the file holds them with the version behind. A text reads back by the code points that were given exactly when
no first half of a pair stands in front of a second half. A path and an address that are there already
are replaced in either order, with the same text; when what was there can be written again, one order
succeeds if the other does. -/
theorem record_sets (hread : s.disk.read c.file = .ok content)
    (hparse : Config.parse c.file content = .ok fields) :
    (∀ (x : Recording) (t : Session), (x.record c).start s = (.ok (), t) →
      (x.Idle c s ∧ t = s) ∨ ∃ v after, x.value s = .ok v ∧
        Json.Fields.Sets fields after x.field v ∧ Config.Written t.disk c.file after) ∧
    (∀ ps : Json.Points, (Units.ofPoints ps).codes = ps.map Fin.val ↔ ps.Unpaired) ∧
    (∀ (name us : Units) (t : Session), name ≠ versionField →
      (c.update name (.text us)).start s = (.ok (), t) →
      ∃ after, Json.Fields.Sets fields after name (.text us) ∧
        Config.Written t.disk c.file after) ∧
    (consumingField ∈ fields.map Prod.fst → earningField ∈ fields.map Prod.fst →
      ∀ path address : Json.Points,
        (∀ u u',
          (do c.recordConsumingPath path; c.recordEarningAddress address).start s = (.ok (), u) →
          (do c.recordEarningAddress address; c.recordConsumingPath path).start s = (.ok (), u') →
          u'.disk.read c.file = u.disk.read c.file) ∧
        (Config.Fits fields → ∀ text : Bytes,
          (∃ u, (do c.recordConsumingPath path; c.recordEarningAddress address).start s =
            (.ok (), u) ∧ u.disk.read c.file = .ok text) ↔
          ∃ u, (do c.recordEarningAddress address; c.recordConsumingPath path).start s =
            (.ok (), u) ∧ u.disk.read c.file = .ok text)) := by
  have hload : Config.load s.disk c.file = .ok fields := (Config.load_of_read hread).trans hparse
  have hreadable := Disk.readable_of_read hread
  refine ⟨fun x t h => ?recording, Units.codes_ofPoints_iff, fun name us t hname h => ?text,
    fun hpath haddress => ?order⟩
  case recording =>
    rcases Recording.update_of_record x h with hidle | ⟨v, hvalue, hrecordable, hupdate⟩
    · exact Or.inl hidle
    · exact Or.inr ⟨v, _, hvalue, Json.Fields.sets_set fields x.field v,
        Config.written_of_update hreadable hload x.field_ne_version hrecordable hupdate⟩
  case text =>
    exact ⟨_, Json.Fields.sets_set fields name (.text us), Config.written_of_update hreadable hload
      hname (Config.recordable_text us) (Recording.update_of_start h)⟩
  case order =>
    intro path address
    have hne : consumingField ≠ earningField := by decide
    have hswap {u} := update_update (c := c) (u := u) hne hpath haddress (by decide) (by decide)
      (Config.recordable_text (.ofPoints path)) (Config.recordable_text (.ofPoints address))
      hreadable hload
    have hswap' {u} := update_update (c := c) (u := u) hne.symm haddress hpath (by decide)
      (by decide) (Config.recordable_text (.ofPoints address))
      (Config.recordable_text (.ofPoints path)) hreadable hload
    constructor
    · intro u u' hstart hstart'
      obtain ⟨u'', hstart'', hsame⟩ := hswap (fits_of_update_bind hload hstart') hstart
      cases hstart'.symm.trans hstart''
      exact hsame
    · intro hfits text
      constructor
      · rintro ⟨u, hstart, htext⟩
        obtain ⟨u', hstart', hsame⟩ := hswap (hfits.set _ (Nat.zero_le 1)) hstart
        exact ⟨u', hstart', hsame.trans htext⟩
      · rintro ⟨u, hstart, htext⟩
        obtain ⟨u', hstart', hsame⟩ := hswap' (hfits.set _ (Nat.zero_le 1)) hstart
        exact ⟨u', hstart', hsame.trans htext⟩

/-- Fields with a path and an address, and a number between them. -/
def walletFields : Fields :=
  [(consumingField, .text []), (Units.ofString "n", .int 5), (earningField, .text [])]

theorem storable_walletFields : Storable walletFields := by
  have hnumber : (Json.Value.int 5).Sound :=
    (by decide : (Text.Integer.natChars 5).length ≤ Text.Integer.maxDigits)
  have htext : Recordable (.text []) := Config.recordable_text []
  have hpath := Storable.nil.set (show consumingField ≠ versionField by decide) htext
  have hother := hpath.set (show Units.ofString "n" ≠ versionField by decide)
    ⟨hnumber, Nat.zero_le 1⟩
  exact hother.set (show earningField ≠ versionField by decide) htext

theorem fits_walletFields : Config.Fits walletFields := by
  have hpath := Config.fits_nil.set consumingField (v := .text []) (Nat.zero_le 1)
  have hother := hpath.set (Units.ofString "n") (v := .int 5) (Nat.zero_le 1)
  exact hother.set earningField (v := .text []) (Nat.zero_le 1)

/-- A session that finds these fields. -/
def walletSession : Session := finding (render walletFields)

theorem stores_walletFields : Config.Stores walletSession.disk nearby.file walletFields :=
  Config.stores_of_holds storable_walletFields fits_walletFields (holds_finding _)

end Recordings

open scoped Json.Nesting

/-- A new path in a file that has one, and a new address, in either order. -/
theorem record_sets_wallets : ∃ t after u u',
    (nearby.recordConsumingPath (.ofString "m")).start walletSession = (.ok (), t) ∧
      Json.Fields.Sets walletFields after consumingField (.text (Units.ofString "m")) ∧
      Config.Written t.disk nearby.file after ∧
      (do nearby.recordConsumingPath (.ofString "m");
          nearby.recordEarningAddress (.ofString "0")).start walletSession = (.ok (), u) ∧
      (do nearby.recordEarningAddress (.ofString "0");
          nearby.recordConsumingPath (.ofString "m")).start walletSession = (.ok (), u') ∧
      u'.disk.read nearby.file = u.disk.read nearby.file := by
  obtain ⟨content, hholds, hparse⟩ := stores_walletFields.holds
  obtain ⟨hrecords, -, -, horder⟩ := record_sets (Disk.read_of_holds hholds) hparse
  obtain ⟨d, hpath, hstores⟩ : ∃ d, (nearby.recordConsumingPath (.ofString "m")).start
      walletSession = (.ok (), walletSession.storing d) ∧
      Config.Stores d nearby.file (walletFields.set consumingField (.text (Units.ofString "m"))) :=
    update_of_takes stores_walletFields.takes (by decide) (Config.recordable_text _)
  obtain ⟨d', haddress, hstores'⟩ : ∃ d', (nearby.recordEarningAddress (.ofString "0")).start
      (walletSession.storing d) = (.ok (), (walletSession.storing d).storing d') ∧
      Config.Stores d' nearby.file ((walletFields.set consumingField
        (.text (Units.ofString "m"))).set earningField (.text (Units.ofString "0"))) :=
    update_of_takes hstores.takes (by decide) (Config.recordable_text _)
  obtain ⟨text, htext, -⟩ := hstores'.holds
  have hread := Disk.read_of_holds htext
  have hboth : (do nearby.recordConsumingPath (.ofString "m");
                   nearby.recordEarningAddress (.ofString "0")).start walletSession =
      (.ok (), (walletSession.storing d).storing d') :=
    Program.start_bind_ok.mpr ⟨(), _, hpath, haddress⟩
  obtain ⟨-, hswaps⟩ := horder (by decide) (by decide) (.ofString "m") (.ofString "0")
  obtain ⟨u', hswapped, hsame⟩ := (hswaps fits_walletFields text).mp ⟨_, hboth, hread⟩
  rcases hrecords (.consumingPath (.ofString "m")) _ hpath with
    ⟨hidle, -⟩ | ⟨v, after, hvalue, hsets, hwritten⟩
  · exact hidle.elim
  · obtain rfl := Except.ok.inj hvalue
    exact ⟨_, after, _, u', hpath, hsets, hwritten, hboth, hswapped, hsame.trans hread.symm⟩

/-- Two halves of a pair that were given side by side are read back as one character. -/
theorem recorded_halves_join : ∃ t us,
    (nearby.recordEarningAddress [0xD83D, 0xDE00]).start walletSession = (.ok (), t) ∧
      Config.field t.disk nearby.file earningField = .ok (some (.text us)) ∧
      us.codes = [0x1F600] := by
  obtain ⟨d, hstart, hstores⟩ : ∃ d, (nearby.recordEarningAddress [0xD83D, 0xDE00]).start
      walletSession = (.ok (), walletSession.storing d) ∧
      Config.Stores d nearby.file
        (walletFields.set earningField (.text (Units.ofPoints [0xD83D, 0xDE00]))) :=
    update_of_takes stores_walletFields.takes (by decide) (Config.recordable_text _)
  refine ⟨_, Units.ofPoints [0xD83D, 0xDE00], hstart, ?_, by decide⟩
  change Config.field d nearby.file earningField = _
  rw [Config.field, hstores.load, Except.map, Json.Fields.get?_set_self]

end Configuration
end HdProvision.Store
