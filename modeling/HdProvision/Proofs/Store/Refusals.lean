import HdProvision.Proofs.Json.Truncation
import HdProvision.Proofs.Store.Damage
import HdProvision.Proofs.Store.Jobs

/-!
# Writes that the system refuses

The file is written in three steps: its directory is made, the file is opened and emptied, and its
text, if there is one, is stored. What the file held stays if the system refuses one of the first two.
If it refuses the last one the file holds as much of the new text as was stored, and is malformed
unless that was all. Where there is no text, because the fields nest too deep, the file stays empty.
-/

set_option autoImplicit false

namespace HdProvision.Store

open Config (Recordable Storable render render? seedField versionField)
open Json (Fields)

namespace Disk

variable {d d' : Disk} {p : Path} {content new : Bytes}

theorem Untouched.read (h : Untouched d d') (hread : d.read p = .ok content) :
    d'.read p = .ok content := by
  obtain ⟨q, mode, hplace, hnode, hreadable⟩ := read_eq_ok.mp hread
  exact read_eq_ok.mpr
    ⟨q, mode, h.toKeepsDirectories.place hplace, (h.files q content mode).mpr hnode, hreadable⟩

theorem read_withNode {q : Place} {mode : Nat} (hplace : d.place p = .ok q)
    (hnode : d.node? q ≠ some .directory) (hreadable : mayRead mode = true) (new : Bytes) :
    (d.withNode q (.file new mode)).read p = .ok new := by
  have hkeeps := keepsDirectories_withNode new mode hnode
  refine read_eq_ok.mpr ⟨q, mode, hkeeps.place hplace, ?_, hreadable⟩
  rw [node?_withNode d (ne_nil_of_node? hnode), if_pos rfl]

/-- A file that is opened to be written is empty, and can be read as before. -/
theorem read_create (hread : d.read p = .ok content) (h : d.create p = .ok d') :
    d'.read p = .ok [] := by
  obtain ⟨q, mode, hplace, hnode, hreadable⟩ := read_eq_ok.mp hread
  simp only [create, hplace, hnode] at h
  split at h
  · cases h
    refine read_withNode hplace (by rw [hnode]; exact fun h => by cases h) ?_ []
    rw [mayRead_openedMode, hreadable]
  · cases h

theorem read_fill (hread : d.read p = .ok content) (h : d.fill p new = .ok d') :
    d'.read p = .ok new := by
  obtain ⟨q, mode, hplace, hnode, hreadable⟩ := read_eq_ok.mp hread
  simp only [fill, hplace, hnode] at h
  cases h
  exact read_withNode hplace (by rw [hnode]; exact fun h => by cases h) hreadable new

end Disk

/-- What the system does to write the file. -/
inductive Effect
  | directories
  | opening
  /-- Some octets of the text may be stored before the rest is refused. -/
  | filling (stored : Nat)

/-- An effect that the system refuses, and what it says. -/
structure Refusal where
  effect : Effect
  error : SystemError
  asked : error.fault ≠ .zeroOctet

section Refused

variable [Json.Nesting]

/-- Writes fields to the file where the system refuses an effect. The effects before it are done. A
directory that is there is left alone, and so nothing is made when making the directories is refused
for a file that is there. -/
def Refusal.save (r : Refusal) (d : Disk) (file : Path) (fields : Fields) :
    Except StoreError Unit × Disk :=
  match r.effect with
  | .directories => (.error (.ofWriting file r.error), d)
  | .opening =>
    match d.makeDirectories file.parent with
    | (.error e, d) => (.error (.ofWriting file e), d)
    | (.ok (), d) => (.error (.ofWriting file r.error), d)
  | .filling stored =>
    match d.makeDirectories file.parent with
    | (.error e, d) => (.error (.ofWriting file e), d)
    | (.ok (), d) =>
      match d.create file with
      | .error e => (.error (.ofWriting file e), d)
      | .ok d =>
        match render? fields with
        | none => (.error .tooDeepToWrite, d)
        | some content =>
          match d.fill file (content.take stored) with
          | .error e => (.error (.ofWriting file e), d)
          | .ok d => (.error (.ofWriting file r.error), d)

/-- Writes fields to the file; the system may refuse an effect. -/
def saver : Option Refusal → Saver
  | none => Config.save
  | some r => r.save

namespace Config

variable {d d' : Disk} {file : Path} {content : Bytes} {fields : Fields} {e : StoreError}

theorem load_of_read (hread : d.read file = .ok content) : load d file = parse file content := by
  obtain ⟨q, mode, hplace, hnode, -⟩ := Disk.read_eq_ok.mp hread
  simp only [load, Disk.look, hplace, hnode, hread]

/-- The text of the file is malformed when it was cut off. -/
theorem parse_cut (file : Path) (h : Storable fields) {n : Nat} (hn : n < (render fields).length) :
    parse file ((render fields).take n) = .error (.storage (.malformed file)) := by
  rw [parse]
  split
  · rfl
  · next part hpart =>
    obtain ⟨more, hcut, hmore⟩ := Utf8.decode?_cut hn hpart
    rw [Json.read_of_cut h.versioned h.shallow hcut hmore]

omit [Json.Nesting] in
theorem ofWriting_ne_tooDeepToWrite (file : Path) (e : SystemError) :
    StoreError.ofWriting file e ≠ .tooDeepToWrite := by
  rw [StoreError.ofWriting]
  split <;> nofun

/-- Fields that cannot be written leave an empty file, which was opened before that turned out. -/
theorem emptied_of_tooDeep (hread : d.read file = .ok content)
    (h : save d file fields = (.error .tooDeepToWrite, d')) : d'.read file = .ok [] := by
  have hmade := (Disk.untouched_makeDirectories d file.parent).read hread
  have hother : ∀ e (made : Disk), ((.error (.ofWriting file e), made) :
      Except StoreError Unit × Disk) ≠ (.error .tooDeepToWrite, d') := fun e made heq =>
    ofWriting_ne_tooDeepToWrite file e (Except.error.inj (Prod.mk.inj heq).1)
  rw [save] at h
  split at h
  · exact absurd h (hother _ _)
  · next made hmake =>
    rw [hmake] at hmade
    split at h
    · exact absurd h (hother _ _)
    · next opened hcreate =>
      have hopened := Disk.read_create hmade hcreate
      split at h
      · cases h
        exact hopened
      · split at h
        · exact absurd h (hother _ _)
        · cases h

/-- A write that fails leaves what the file held, unless the fields cannot be written or storing the
text was refused. -/
theorem read_of_refused {r : Option Refusal} (hread : d.read file = .ok content)
    (hwritten : e ≠ .tooDeepToWrite)
    (h : saver r d file fields = (.error e, d')) :
    d'.read file = .ok content ∨ ∃ refusal stored, r = some refusal ∧
      refusal.effect = .filling stored ∧ d'.read file = .ok ((render fields).take stored) := by
  have hmade := (Disk.untouched_makeDirectories d file.parent).read hread
  cases r with
  | none =>
    have huntouched := (untouched_or_tooDeep h).resolve_right fun hdeep => hwritten hdeep.2
    exact .inl (huntouched.read hread)
  | some r =>
    rw [saver, Refusal.save] at h
    cases heffect : r.effect with
    | directories =>
      rw [heffect] at h
      cases h
      exact .inl hread
    | opening =>
      rw [heffect] at h
      dsimp only at h
      refine .inl ?_
      split at h
      all_goals
        next hmake =>
          cases h
          rwa [hmake] at hmade
    | filling stored =>
      rw [heffect] at h
      dsimp only at h
      split at h
      · next hmake =>
        cases h
        rw [hmake] at hmade
        exact .inl hmade
      · next made hmake =>
        rw [hmake] at hmade
        split at h
        · cases h
          exact .inl hmade
        · next opened hcreate =>
          have hopened := Disk.read_create hmade hcreate
          by_cases hfits : Fits fields
          · obtain ⟨filled, hfill⟩ := Disk.fill_of_create hcreate ((render fields).take stored)
            simp only [render?_of_fits hfits, hfill] at h
            cases h
            exact .inr ⟨r, stored, rfl, heffect, Disk.read_fill hopened hfill⟩
          · rw [render?_of_not_fits hfits] at h
            cases h
            exact absurd rfl hwritten

end Config

namespace Recording

variable {c : Configuration} {s t : Session} {fields : Fields} {e : SystemError} {write : Saver}

/-- A job that sets a field fails with what refuses the write, if nothing behind it fails. -/
theorem refused_update {name : Json.Units} (v : Json.Value) (next : Job)
    (hname : name ≠ versionField) (hv : Recordable v)
    (hnext : ∀ s e, (next.run write c s).1 ≠ .error e)
    (hload : Config.load s.disk c.file = .ok fields)
    (h : (Job.update name v next).run write c s = (.error (.storage (.unwritable c.file e)), t)) :
    ∃ name v, name ≠ versionField ∧ Recordable v ∧ write s.disk c.file (fields.set name v) =
      (.error (.storage (.unwritable c.file e)), t.disk) := by
  rw [Job.update, Job.run, hload] at h
  dsimp only at h
  rw [Job.run] at h
  split at h
  · exact absurd (congrArg Prod.fst h) (hnext _ _)
  · next d hwrite =>
    cases h
    exact ⟨name, v, hname, hv, hwrite⟩

theorem refused_keep {name : Json.Units} {secret : Bytes} {password message : String}
    (hname : name ≠ versionField) (hload : Config.load s.disk c.file = .ok fields)
    (h : (Job.keep name secret password message).run write c s =
      (.error (.storage (.unwritable c.file e)), t)) :
    ∃ name v, name ≠ versionField ∧ Recordable v ∧ write s.disk c.file (fields.set name v) =
      (.error (.storage (.unwritable c.file e)), t.disk) := by
  rw [Job.keep, Job.run] at h
  split at h
  · next x _ =>
    refine refused_update _ _ (s := s.sealing) hname (Configuration.recordable_sealed x) ?_ hload h
    intro s e hended
    cases hended
  · cases h

/-- A recording that is refused by the system is refused when it writes the file with one more field
set. -/
theorem refused (x : Recording) (hload : Config.load s.disk c.file = .ok fields)
    (h : (x.job c).run write c s = (.error (.storage (.unwritable c.file e)), t)) :
    ∃ name v, name ≠ versionField ∧ Recordable v ∧ write s.disk c.file (fields.set name v) =
      (.error (.storage (.unwritable c.file e)), t.disk) := by
  cases x with
  | password p =>
    rw [job, Job.recordPassword, Job.run, hload] at h
    dsimp only at h
    split at h
    · next hverdict =>
      obtain ⟨fault, rfl⟩ := Config.verdict_eq_error hverdict
      cases h
    · cases h
    · cases h
    · exact refused_keep (by decide) hload h
  | seed secret p =>
    rw [job, Job.recordSeed, Job.run, hload] at h
    dsimp only at h
    split at h
    · cases h
    · rw [Job.whenKnown, Job.run, hload] at h
      dsimp only at h
      split at h
      · next hverdict =>
        obtain ⟨fault, rfl⟩ := Config.verdict_eq_error hverdict
        cases h
      · exact refused_keep (by decide) hload h
      · cases h
  | consumingPath path =>
    refine refused_update (.text (Json.Units.ofPoints path)) (.ended (.ok ())) (by decide)
      (Config.recordable_text _) ?_ hload h
    intro s e hended
    cases hended
  | earningAddress address =>
    refine refused_update (.text (Json.Units.ofPoints address)) (.ended (.ok ())) (by decide)
      (Config.recordable_text _) ?_ hload h
    intro s e hended
    cases hended

/-- When the system refuses to write a file that can be read, the file keeps its octets, its fields
and the seed in them. Only if storing the text was refused the file holds as much of the new text as
was stored, and nothing is read from it if that was not all. -/
theorem keeps_or_cuts {content : Bytes} {r : Option Refusal} (x : Recording)
    (hread : s.disk.read c.file = .ok content) (hparse : Config.parse c.file content = .ok fields)
    (h : (x.job c).run (saver r) c s = (.error (.storage (.unwritable c.file e)), t)) :
    (t.disk.read c.file = .ok content ∧ Config.load t.disk c.file = .ok fields ∧
      ∀ k password,
        Config.seed k t.disk c.file password = Config.seed k s.disk c.file password) ∨
    ∃ refusal stored name v, r = some refusal ∧ refusal.effect = .filling stored ∧
      t.disk.read c.file = .ok ((render (fields.set name v)).take stored) ∧
      (stored < (render (fields.set name v)).length →
        Config.load t.disk c.file = .error (.storage (.malformed c.file))) := by
  have hload : Config.load s.disk c.file = .ok fields := (Config.load_of_read hread).trans hparse
  obtain ⟨name, v, hname, hv, hrefused⟩ := refused x hload h
  rcases Config.read_of_refused hread (by nofun) hrefused with hkept | ⟨refusal, stored, hr, heffect, hcut⟩
  · have hload' := (Config.load_of_read hkept).trans hparse
    refine .inl ⟨hkept, hload', fun k password => ?_⟩
    rw [Config.seed, Config.seed, hload, hload']
  · refine .inr ⟨refusal, stored, name, v, hr, heffect, hcut, fun hstored => ?_⟩
    rw [Config.load_of_read hcut]
    exact Config.parse_cut c.file ((Config.load_storable hload).set hname hv) hstored

end Recording

/-- A file that can be written is not written when an effect is refused. -/
theorem Refusal.save_of_holds (r : Refusal) {d : Disk} {file : Path} {content : Bytes}
    (h : d.Holds file content) {fields : Fields} (hfits : Config.Fits fields) :
    ∃ d', r.save d file fields = (.error (.storage (.unwritable file r.error)), d') ∧
      ∀ stored, r.effect = .filling stored →
        d'.read file = .ok ((render fields).take stored) := by
  have hfault : StoreError.ofWriting file r.error = .storage (.unwritable file r.error) :=
    if_neg r.asked
  obtain ⟨q, mode, hat⟩ := id h
  have hmake := Disk.makeDirectories_of_isDirectory hat.parent
  rw [Refusal.save, ← hfault]
  cases r.effect with
  | directories => exact ⟨d, rfl, nofun⟩
  | opening =>
    dsimp only
    rw [hmake]
    exact ⟨d, rfl, nofun⟩
  | filling stored =>
    have hnode : d.node? q ≠ some .directory := by
      rw [hat.node]
      nofun
    have hcreate : d.create file = .ok (d.withNode q (.file [] (Disk.openedMode mode))) := by
      simp only [Disk.create, hat.place, hat.node, if_pos hat.writable]
      rfl
    have hopened := Disk.read_create (Disk.read_of_holds h) hcreate
    obtain ⟨filled, hfill⟩ := Disk.fill_of_create hcreate ((render fields).take stored)
    refine ⟨filled, ?_, fun stored' heffect => ?_⟩
    · simp only [hmake, hcreate, Config.render?_of_fits hfits, hfill]
    · cases heffect
      exact Disk.read_fill hopened hfill

/-- A path is not recorded when an effect is refused. -/
theorem Recording.run_consumingPath {c : Configuration} {s : Session} {fields : Fields}
    (r : Refusal) (hstores : Config.Stores s.disk c.file fields) (path : Json.Points) :
    ∃ t, ((Recording.consumingPath path).job c).run (saver (some r)) c s =
        (.error (.storage (.unwritable c.file r.error)), t) ∧
      ∀ stored, r.effect = .filling stored → t.disk.read c.file = .ok ((render (fields.set
        Config.consumingField (.text (Json.Units.ofPoints path)))).take stored) := by
  obtain ⟨content, hholds, -⟩ := hstores.holds
  have hset := hstores.fits.set Config.consumingField (v := .text (Json.Units.ofPoints path))
    (Nat.zero_le 1)
  obtain ⟨d, hsave, hcut⟩ := r.save_of_holds hholds hset
  refine ⟨s.storing d, ?_, hcut⟩
  rw [Recording.job, Job.recordConsumingPath, Job.update, Job.run, hstores.load]
  dsimp only
  rw [Job.run, saver, hsave]

end Refused

namespace Configuration

open scoped Json.Nesting

/-- The system denies an effect of writing the file. -/
def denying (effect : Effect) : Refusal := ⟨effect, ⟨.denied, nearby.file⟩, by decide⟩

/-- A file with a seed that cannot be opened to be written keeps the seed. -/
theorem keeps_or_cuts_opening : ∃ t,
    ((Recording.consumingPath (.ofString "m")).job nearby).run (saver (some (denying .opening))) nearby
        ((Session.bare []).storing seeded) =
      (.error (.storage (.unwritable nearby.file ⟨.denied, nearby.file⟩)), t) ∧
    Config.seed (Session.bare []).stretcher t.disk nearby.file "password" = .ok (some [0]) := by
  obtain ⟨x, fields, hstores, hrecorded⟩ := seeded_file
  have hseeded : Config.Stores ((Session.bare []).storing seeded).disk nearby.file fields := by
    rwa [Session.disk_storing]
  obtain ⟨t, hrun, -⟩ := Recording.run_consumingPath (denying .opening) hseeded (.ofString "m")
  obtain ⟨content, hholds, hparse⟩ := hseeded.holds
  refine ⟨t, hrun, ?_⟩
  rcases Recording.keeps_or_cuts (.consumingPath (.ofString "m"))
    (Disk.read_of_holds hholds) hparse hrun with
    ⟨-, -, hkept⟩ | ⟨refusal, stored, name, v, hr, heffect, -⟩
  · rw [hkept, Session.disk_storing]
    exact hrecorded.seed_eq hstores.load
  · cases hr
    cases heffect

/-- A seed is lost when the system does not store the new text of its file. -/
theorem seed_lost : ∃ t,
    ((Recording.consumingPath (.ofString "m")).job nearby).run (saver (some (denying (.filling 0)))) nearby
        ((Session.bare []).storing seeded) =
      (.error (.storage (.unwritable nearby.file ⟨.denied, nearby.file⟩)), t) ∧
    Config.seed (Session.bare []).stretcher seeded nearby.file "password" = .ok (some [0]) ∧
    Config.seed (Session.bare []).stretcher t.disk nearby.file "password" =
      .error (.storage (.malformed nearby.file)) := by
  obtain ⟨x, fields, hstores, hrecorded⟩ := seeded_file
  have hseeded : Config.Stores ((Session.bare []).storing seeded).disk nearby.file fields := by
    rwa [Session.disk_storing]
  obtain ⟨t, hrun, hcut⟩ := Recording.run_consumingPath (denying (.filling 0)) hseeded (.ofString "m")
  have hempty := hcut 0 rfl
  rw [List.take_zero] at hempty
  have hmalformed : Config.load t.disk nearby.file = .error (.storage (.malformed nearby.file)) :=
    Config.load_of_read hempty
  refine ⟨t, hrun, hrecorded.seed_eq hstores.load, ?_⟩
  rw [Config.seed, hmalformed]

end Configuration
end HdProvision.Store
