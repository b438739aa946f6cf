import HdProvision.Proofs.Provision.Saving
import HdProvision.Proofs.Store.Damage
import HdProvision.Proofs.Store.Jobs

/-!
# Saving that was interrupted

Every step of saving an outcome takes the file to the next of five stages, and the steps that are
left take it from any stage to the last. Saving can be started again as long as no seed is recorded;
once there is one it is refused, and nothing is written.
-/

set_option autoImplicit false

namespace HdProvision.Provision.Save

open Json (Fields)
open Store (Configuration Disk StoreError)
open Store.Config (Recorded Takes checkField consumingField earningField seedField verdict)
open Vault (Sealed Stretcher)

/-- The fields that the steps set, in their order. -/
def ownFields : List Json.Units := [checkField, seedField, consumingField, earningField]

/-- Fields that are the same but for some of them. -/
def SameBut (names : List Json.Units) (before fields : Fields) : Prop :=
  ∀ name, name ∉ names → Json.Fields.get? fields name = Json.Fields.get? before name

namespace SameBut

variable {before between fields : Fields} {names : List Json.Units} {n : Nat}

theorem refl (names : List Json.Units) (fields : Fields) : SameBut names fields fields :=
  fun _ _ => rfl

theorem trans (h : SameBut names before between) (h' : SameBut names between fields) :
    SameBut names before fields :=
  fun name hname => (h' name hname).trans (h name hname)

theorem mono (h : SameBut (ownFields.take n) before fields) {m : Nat} (hle : n ≤ m) :
    SameBut (ownFields.take m) before fields :=
  fun name hname => h name fun hmem => hname (List.take_subset_take_left ownFields hle hmem)

/-- The field of the next step may differ, too. -/
theorem set (h : SameBut (ownFields.take n) before fields) (hn : n < ownFields.length)
    (v : Json.Value) : SameBut (ownFields.take (n + 1)) before (fields.set ownFields[n] v) := by
  intro name hname
  rw [← List.take_concat_get' _ _ hn, List.mem_append, List.mem_singleton, not_or] at hname
  rw [Json.Fields.get?_set_of_ne fields v hname.2, h name hname.1]

end SameBut

/-- What fields hold after some of the four steps. -/
structure Stage (k : Stretcher) (o : Outcome) (n : Nat) (fields : Fields) : Prop where
  known : n = 0 ∧ verdict k fields o.dbPassword = .ok none ∨
    verdict k fields o.dbPassword = .ok (some true)
  free : n < 2 → Json.Fields.get? fields seedField = none
  seed : 2 ≤ n → ∃ x : Sealed,
    Json.Fields.get? fields seedField = some (.object x.toFields) ∧
      Sealed.unlock k (.object x.toFields) o.dbPassword = .ok o.seed
  consuming : 3 ≤ n → Json.Fields.get? fields consumingField =
    some (.text (Json.Units.ofString (o.consuming.derivationPath.getD "")))
  earning : 4 ≤ n → Json.Fields.get? fields earningField =
    some (.text (Json.Units.ofString o.earning.address))

namespace Stage

variable {k : Stretcher} {o : Outcome} {n : Nat} {fields : Fields}

theorem knows (h : Stage k o n fields) (hn : 1 ≤ n) :
    verdict k fields o.dbPassword = .ok (some true) :=
  h.known.resolve_left fun hzero => by omega

/-- Before the seed is recorded nothing is asked of the path and the address. -/
theorem of_free (hn : n < 2) (hfree : Json.Fields.get? fields seedField = none)
    (hknown : n = 0 ∧ verdict k fields o.dbPassword = .ok none ∨
      verdict k fields o.dbPassword = .ok (some true)) : Stage k o n fields where
  known := hknown
  free := fun _ => hfree
  seed := fun hle => by omega
  consuming := fun hle => by omega
  earning := fun hle => by omega

/-- Without a seed saving is where it started. -/
theorem restart (h : Stage k o n fields) (hn : n < 2) : Stage k o 0 fields :=
  of_free (by decide) (h.free hn) (h.known.imp_left fun hnone => ⟨rfl, hnone.2⟩)

theorem recorded (h : Stage k o n fields) (hn : 2 ≤ n) :
    ∃ x, Recorded k fields o.seed o.dbPassword x := by
  obtain ⟨x, hget, hopens⟩ := h.seed hn
  exact ⟨x, Store.Config.verdict_eq_true.mp (h.knows (by omega)), hget, hopens⟩

theorem set_check (h : Stage k o 0 fields) {x : Sealed}
    (hopens : Sealed.unlock k (.object x.toFields) o.dbPassword = .ok Store.Config.checkText) :
    Stage k o 1 (fields.set checkField (.object x.toFields)) := by
  refine of_free (by decide) ?_ (.inr (Store.Config.verdict_set_check fields hopens))
  rw [Json.Fields.get?_set_of_ne fields _ (show seedField ≠ checkField by decide),
    h.free (by decide)]

theorem set_seed (h : Stage k o 1 fields) {x : Sealed}
    (hopens : Sealed.unlock k (.object x.toFields) o.dbPassword = .ok o.seed) :
    Stage k o 2 (fields.set seedField (.object x.toFields)) where
  known := .inr ((Store.Config.verdict_set_of_ne fields _ (by decide)).trans (h.knows (by decide)))
  free := fun hlt => absurd hlt (by decide)
  seed := fun _ => ⟨x, Json.Fields.get?_set_self fields _ _, hopens⟩
  consuming := fun hle => absurd hle (by decide)
  earning := fun hle => absurd hle (by decide)

theorem set_consuming (h : Stage k o 2 fields) :
    Stage k o 3 (fields.set consumingField
      (.text (Json.Units.ofString (o.consuming.derivationPath.getD "")))) where
  known := .inr ((Store.Config.verdict_set_of_ne fields _ (by decide)).trans (h.knows (by decide)))
  free := fun hlt => absurd hlt (by decide)
  seed := fun _ => by
    rw [Json.Fields.get?_set_of_ne fields _ (show seedField ≠ consumingField by decide)]
    exact h.seed (by decide)
  consuming := fun _ => Json.Fields.get?_set_self fields _ _
  earning := fun hle => absurd hle (by decide)

theorem set_earning (h : Stage k o 3 fields) :
    Stage k o 4 (fields.set earningField (.text (Json.Units.ofString o.earning.address))) where
  known := .inr ((Store.Config.verdict_set_of_ne fields _ (by decide)).trans (h.knows (by decide)))
  free := fun hlt => absurd hlt (by decide)
  seed := fun _ => by
    rw [Json.Fields.get?_set_of_ne fields _ (show seedField ≠ earningField by decide)]
    exact h.seed (by decide)
  consuming := fun _ => by
    rw [Json.Fields.get?_set_of_ne fields _ (show consumingField ≠ earningField by decide)]
    exact h.consuming (by decide)
  earning := fun _ => Json.Fields.get?_set_self fields _ _

end Stage

section Runs

variable [Json.Nesting]

/-- A disk whose file can be used, is at a stage, and differs only in the fields of the steps that were
taken. -/
def Reached (k : Stretcher) (c : Configuration) (o : Outcome) (before : Fields) (n : Nat)
    (d : Disk) : Prop :=
  ∃ fields, Takes d c.file fields ∧ SameBut (ownFields.take n) before fields ∧
    Stage k o n fields

/-- A session that can stretch passwords, with such a disk. -/
structure Underway (k : Stretcher) (c : Configuration) (o : Outcome) (before : Fields) (n : Nat)
    (s : Session) : Prop where
  stretcher : s.stretcher = k
  works : k.Works
  reached : Reached k c o before n s.disk

namespace Underway

variable {k : Stretcher} {c : Configuration} {o : Outcome} {before : Fields} {n : Nat}
  {s t : Session}

/-- Sealing something under the password does not fail, and it can be opened. -/
theorem keep (h : Underway k c o before n s) {fields : Fields} (htakes : Takes s.disk c.file fields)
    (name : Json.Units) (hname : name ≠ Store.Config.versionField) (secret : Bytes)
    (message : String) :
    ∃ t, ∃ x : Sealed, (c.keep name secret o.dbPassword message).start s = (.ok (), t) ∧
      t.stretcher = k ∧ Takes t.disk c.file (fields.set name (.object x.toFields)) ∧
      Sealed.unlock k (.object x.toFields) o.dbPassword = .ok secret := by
  obtain ⟨x, d, hlock, hkeep, hstores⟩ := Store.Configuration.keep_of_takes secret o.dbPassword
    message (h.stretcher ▸ h.works) htakes hname
  have hopens := Sealed.unlock_lock hlock (Session.length_upcoming _ _)
  rw [h.stretcher] at hopens
  exact ⟨_, x, hkeep, h.stretcher, hstores.takes, hopens⟩

theorem recordPassword (h : Underway k c o before 0 s) :
    ∃ t, (c.recordPassword o.dbPassword).start s = (.ok (), t) ∧ Underway k c o before 1 t := by
  obtain ⟨fields, htakes, hsame, hstage⟩ := h.reached
  have hcheck := Store.Config.checkPassword_of_load k htakes.load o.dbPassword
  rcases hstage.known with ⟨-, hnone⟩ | hknown
  · obtain ⟨t, x, hkeep, hstretcher, htakes', hopens⟩ :=
      h.keep htakes checkField (by decide) Store.Config.checkText c.passwordMessage
    refine ⟨t, ?_, hstretcher, h.works, _, htakes', ?_, hstage.set_check hopens⟩
    · rw [Store.Configuration.start_recordPassword, h.stretcher, hcheck, hnone]
      exact hkeep
    · exact hsame.set (by decide) _
  · refine ⟨s, ?_, h.stretcher, h.works, fields, htakes, hsame.mono (by decide),
      .of_free (by decide) (hstage.free (by decide)) (.inr hknown)⟩
    rw [Store.Configuration.start_recordPassword, h.stretcher, hcheck, hknown]

theorem recordSeed (h : Underway k c o before 1 s) :
    ∃ t, (c.recordSeed o.seed o.dbPassword).start s = (.ok (), t) ∧
      Underway k c o before 2 t := by
  obtain ⟨fields, htakes, hsame, hstage⟩ := h.reached
  have hcheck := Store.Config.checkPassword_of_load k htakes.load o.dbPassword
  have hfree : Store.Config.seedExists s.disk c.file = .ok false := by
    rw [Store.Config.seedExists, htakes.load, Except.map, hstage.free (by decide)]
    rfl
  obtain ⟨t, x, hkeep, hstretcher, htakes', hopens⟩ :=
    h.keep htakes seedField (by decide) o.seed c.seedMessage
  refine ⟨t, ?_, hstretcher, h.works, _, htakes', ?_, hstage.set_seed hopens⟩
  · rw [Store.Configuration.start_recordSeed, hfree, h.stretcher, hcheck, hstage.knows (by decide)]
    exact hkeep
  · exact hsame.set (by decide) _

/-- Setting the field of the next step to a text succeeds. -/
theorem update (h : Underway k c o before n s) (hn : n < ownFields.length)
    (hversion : ownFields[n] ≠ Store.Config.versionField) (text : String)
    (hset : ∀ {fields}, Stage k o n fields →
      Stage k o (n + 1) (fields.set ownFields[n] (.text (Json.Units.ofString text)))) :
    ∃ t, (c.update ownFields[n] (.text (Json.Units.ofString text))).start s = (.ok (), t) ∧
      Underway k c o before (n + 1) t := by
  obtain ⟨fields, htakes, hsame, hstage⟩ := h.reached
  obtain ⟨d, hstart, hstores⟩ := Store.Configuration.update_of_takes
    (v := .text (Json.Units.ofString text)) htakes hversion (Store.Config.recordable_text _)
  exact ⟨_, hstart, h.stretcher, h.works, _, hstores.takes, hsame.set hn _, hset hstage⟩

theorem recordConsumingPath (h : Underway k c o before 2 s) :
    ∃ t, (c.recordConsumingPath (.ofString (o.consuming.derivationPath.getD ""))).start s =
      (.ok (), t) ∧ Underway k c o before 3 t := by
  rw [start_recordConsumingPath]
  exact h.update (by decide) (by decide) _ Stage.set_consuming

theorem recordEarningAddress (h : Underway k c o before 3 s) :
    ∃ t, (c.recordEarningAddress (.ofString o.earning.address)).start s = (.ok (), t) ∧
      Underway k c o before 4 t := by
  rw [start_recordEarningAddress]
  exact h.update (by decide) (by decide) _ Stage.set_earning

/-- Each step succeeds at its stage and takes the file to the next one. -/
theorem step (h : Underway k c o before n s) (hn : n < (steps c o).length) :
    ∃ t, ((steps c o)[n]).start s = (.ok (), t) ∧ Underway k c o before (n + 1) t := by
  match n, hn with
  | 0, _ => exact h.recordPassword
  | 1, _ => exact h.recordSeed
  | 2, _ => exact h.recordConsumingPath
  | 3, _ => exact h.recordEarningAddress

/-- The next steps succeed one after another, as many as are taken. -/
theorem run (h : Underway k c o before n s) (m : Nat) (hm : n + m ≤ 4) :
    ∃ t, (Program.sequence (((steps c o).drop n).take m)).start s = (.ok (), t) ∧
      Underway k c o before (n + m) t := by
  induction m generalizing n s with
  | zero => exact ⟨s, rfl, h⟩
  | succ m ih =>
    have hn : n < (steps c o).length := show n < 4 by omega
    obtain ⟨t, hstep, hnext⟩ := h.step hn
    obtain ⟨u, hrun, hlast⟩ := ih hnext (by omega)
    refine ⟨u, ?_, by rwa [show n + (m + 1) = n + 1 + m by omega]⟩
    rw [List.drop_eq_getElem_cons hn, List.take_succ_cons]
    exact (Program.start_bind_of_ok hstep _).trans hrun

/-- The steps that are left succeed. -/
theorem finish (h : Underway k c o before n s) (hn : n ≤ 4) :
    ∃ t, (Program.sequence ((steps c o).drop n)).start s = (.ok (), t) ∧
      Underway k c o before 4 t := by
  obtain ⟨t, hrun, hlast⟩ := h.run (4 - n) (by omega)
  rw [List.take_of_length_le (by rw [List.length_drop]; exact Nat.le_refl _)] at hrun
  rw [show n + (4 - n) = 4 by omega] at hlast
  exact ⟨t, hrun, hlast⟩

/-- As long as no seed is recorded all steps can be taken again. -/
theorem again (h : Underway k c o before n s) (hn : n < 2) :
    ∃ t, (record c o).start s = (.ok (), t) ∧ Underway k c o before 4 t := by
  obtain ⟨fields, htakes, hsame, hstage⟩ := h.reached
  have hstart : Underway k c o fields 0 s :=
    ⟨h.stretcher, h.works, fields, htakes, .refl _ _, hstage.restart hn⟩
  obtain ⟨t, hrecord, hlast⟩ := hstart.finish (by decide)
  obtain ⟨fields', htakes', hsame', hstage'⟩ := hlast.reached
  exact ⟨t, hrecord, hlast.stretcher, h.works, fields', htakes',
    (hsame.mono (by omega)).trans hsame', hstage'⟩

end Underway

variable {c : Configuration} {o : Outcome} {s t u v : Session}

/-- An outcome can only be saved in a file that is at the first stage. -/
theorem underway_of_record (hsteady : s.stretcher.Steady) (h : (record c o).start s = (.ok (), u)) :
    ∃ before, Store.Config.load s.disk c.file = .ok before ∧
      Underway s.stretcher c o before 0 s := by
  rw [record_eq] at h
  obtain ⟨_, t, hpassword, h⟩ := Program.start_bind_ok.mp h
  obtain ⟨_, t', hseed, hwallets⟩ := Program.start_bind_ok.mp h
  obtain ⟨_, _, hpath, -⟩ := Program.start_bind_ok.mp hwallets
  obtain ⟨later, hlater⟩ := Store.Configuration.load_of_update hpath
  obtain ⟨hfree, hcheck, hkeep⟩ := Store.Configuration.recordSeed_cases hseed
  obtain ⟨x, -, hupdate, -⟩ := Store.Configuration.update_of_keep hkeep
  have hnone : ∀ fields, Store.Config.load t.disk c.file = .ok fields →
      Json.Fields.get? fields seedField = none := fun _ hload =>
    Store.Config.get?_seed_of_not_exists hload hfree
  obtain ⟨fields, htakes, -⟩ := Store.Config.takes_of_update (by decide)
    (Store.Configuration.recordable_sealed x) hnone hupdate hlater
  have hfresh := hnone fields htakes.load
  have hknown := hcheck
  rw [Store.Config.checkPassword_of_load _ htakes.load] at hknown
  rcases Store.Configuration.recordPassword_cases hpassword with ⟨-, rfl⟩ | ⟨hunknown, hkept⟩
  · exact ⟨fields, htakes.load, rfl, Store.Config.works_of_checkPassword hsteady hcheck, fields, htakes,
      .refl _ _, .of_free (by decide) hfresh (.inr hknown)⟩
  · obtain ⟨y, -, hupdate', ht⟩ := Store.Configuration.update_of_keep hkept
    have hstretcher : t.stretcher = s.stretcher := by
      rw [ht]
      rfl
    have hworks := Store.Config.works_of_checkPassword hsteady (hstretcher ▸ hcheck)
    have hunchecked : ∀ before, Store.Config.load s.disk c.file = .ok before →
        Json.Fields.get? before checkField = none := fun before hload => by
      rw [Store.Config.checkPassword_of_load _ hload] at hunknown
      exact Store.Config.verdict_eq_none.mp hunknown
    obtain ⟨before, htakes', rfl⟩ := Store.Config.takes_of_update (by decide)
      (Store.Configuration.recordable_sealed y) hunchecked hupdate' htakes.load
    rw [Store.Config.checkPassword_of_load _ htakes'.load] at hunknown
    rw [Json.Fields.get?_set_of_ne before _ (show seedField ≠ checkField by decide)] at hfresh
    exact ⟨before, htakes'.load, rfl, hworks, before, htakes', .refl _ _,
      .of_free (by decide) hfresh (.inl ⟨rfl, hunknown⟩)⟩

/-- What the file holds once an outcome is saved: the seed under the password, the path and the
address, and everything else as before. -/
structure Complete (k : Stretcher) (c : Configuration) (o : Outcome) (start d : Disk) : Prop where
  seed : Store.Config.seed k d c.file o.dbPassword = .ok (some o.seed)
  check : Store.Config.checkPassword k d c.file o.dbPassword = .ok (some true)
  consuming : Store.Config.field d c.file consumingField =
    .ok (some (.text (Json.Units.ofString (o.consuming.derivationPath.getD ""))))
  earning : Store.Config.field d c.file earningField =
    .ok (some (.text (Json.Units.ofString o.earning.address)))
  others : ∀ name, name ∉ ownFields →
    Store.Config.field d c.file name = Store.Config.field start c.file name

theorem Underway.complete {k : Stretcher} {before : Fields} {start : Disk}
    (h : Underway k c o before 4 s) (hbefore : Store.Config.load start c.file = .ok before) :
    Complete k c o start s.disk := by
  obtain ⟨fields, htakes, hsame, hstage⟩ := h.reached
  obtain ⟨x, hrecorded⟩ := hstage.recorded (by decide)
  have hfield : ∀ name, Store.Config.field s.disk c.file name =
      .ok (Json.Fields.get? fields name) := fun name => by
    rw [Store.Config.field, htakes.load]
    rfl
  refine ⟨hrecorded.seed_eq htakes.load, hrecorded.checkPassword htakes.load, ?_, ?_, ?_⟩
  · rw [hfield, hstage.consuming (by decide)]
  · rw [hfield, hstage.earning (by decide)]
  · intro name hname
    rw [hfield, hsame name hname, Store.Config.field, hbefore]
    rfl

/-- With a seed in the file saving is refused, and nothing happens. -/
theorem Underway.refused {k : Stretcher} {before : Fields} {n : Nat}
    (h : Underway k c o before n s) (hn : 2 ≤ n) :
    (record c o).start s = (.error (.storage (.seedExists c.file)), s) := by
  obtain ⟨fields, htakes, hsame, hstage⟩ := h.reached
  obtain ⟨x, hrecorded⟩ := hstage.recorded hn
  have hcheck := hrecorded.checkPassword htakes.load
  have hpassword : (c.recordPassword o.dbPassword).start s = (.ok (), s) := by
    rw [Store.Configuration.start_recordPassword, h.stretcher, hcheck]
  have hseed : (c.recordSeed o.seed o.dbPassword).start s =
      (.error (.storage (.seedExists c.file)), s) := by
    rw [Store.Configuration.start_recordSeed, hrecorded.seedExists htakes.load]
  rw [record_eq, Program.start_bind_of_ok hpassword]
  exact Program.start_bind_of_error hseed _

/-- Saving that stopped between two of its steps had not failed up to there. While no seed is
recorded it can be started again, and what the file holds then is what it holds after saving that was
not interrupted. Once there is a seed it is refused, and the file stays as it is. The steps that are
left complete it in any case. -/
theorem record_resumed (hsteady : s.stretcher.Steady)
    (hrecord : (record c o).start s = (.ok (), u)) {n : Nat} (hn : n ≤ 4)
    {r : Except StoreError Unit}
    (hstopped : (Program.sequence ((steps c o).take n)).start s = (r, t))
    (hdisk : v.disk = t.disk) (hstretcher : v.stretcher = s.stretcher) :
    Complete s.stretcher c o s.disk u.disk ∧ r = .ok () ∧
      (n < 2 → ∃ w, (record c o).start v = (.ok (), w) ∧
        Complete s.stretcher c o s.disk w.disk) ∧
      (2 ≤ n → (record c o).start v = (.error (.storage (.seedExists c.file)), v)) ∧
      ∃ w, (Program.sequence ((steps c o).drop n)).start v = (.ok (), w) ∧
        Complete s.stretcher c o s.disk w.disk := by
  obtain ⟨before, hbefore, hstart⟩ := underway_of_record hsteady hrecord
  obtain ⟨u', hwhole, hlast⟩ := hstart.again (by decide)
  rw [hrecord] at hwhole
  cases hwhole
  obtain ⟨t', hrun, hreached⟩ := hstart.run n (by omega)
  rw [List.drop_zero, hstopped] at hrun
  rw [Nat.zero_add] at hreached
  cases hrun
  -- Only the disk is left of the session that stopped.
  have hv : Underway s.stretcher c o before n v :=
    ⟨hstretcher, hreached.works, hdisk ▸ hreached.reached⟩
  refine ⟨hlast.complete hbefore, rfl, fun hlt => ?_, hv.refused, ?_⟩
  · obtain ⟨w, hagain, hw⟩ := hv.again hlt
    exact ⟨w, hagain, hw.complete hbefore⟩
  · obtain ⟨w, hfinish, hw⟩ := hv.finish hn
    exact ⟨w, hfinish, hw.complete hbefore⟩

end Runs

open scoped Json.Nesting

/-- An outcome with an earning wallet that is not derived. -/
def plainOutcome : Outcome where
  seed := [0]
  language := "english"
  consuming := ⟨"0x0000000000000000000000000000000000000001", some "m/44'/60'/0'/0/0", none⟩
  earning := ⟨"0x0000000000000000000000000000000000000002", none, none⟩
  dbPassword := "password"
  owner := .null
  phrase := none
  consuming_isDerived := rfl

theorem steady_bare : (Session.bare []).stretcher.Steady := .inl fun _ => rfl

theorem record_plain :
    ∃ u, (record Configuration.nearby plainOutcome).start (.bare []) = (.ok (), u) :=
  record_of_absent ⟨by decide, fun _ => rfl⟩ rfl (q := [['w']]) rfl rfl plainOutcome

/-- The session after some of the steps of saving that outcome. -/
def stopped (n : Nat) : Session :=
  ((Program.sequence ((steps Configuration.nearby plainOutcome).take n)).start (.bare [])).2

theorem underway_stopped {n : Nat} (hn : n ≤ 4) :
    (Program.sequence ((steps Configuration.nearby plainOutcome).take n)).start (.bare []) =
        (.ok (), stopped n) ∧
      Underway (Session.bare []).stretcher Configuration.nearby plainOutcome [] n (stopped n) := by
  obtain ⟨u, hrecord⟩ := record_plain
  obtain ⟨before, hbefore, hstart⟩ := underway_of_record steady_bare hrecord
  obtain rfl : before = [] := (Except.ok.inj hbefore).symm
  obtain ⟨t, hrun, hreached⟩ := hstart.run n (by omega)
  rw [List.drop_zero] at hrun
  rw [Nat.zero_add] at hreached
  have ht : stopped n = t := by rw [stopped, hrun]
  exact ⟨ht ▸ hrun, ht ▸ hreached⟩

/-- Saving that stopped after the password is started again. -/
theorem record_resumed_password :
    (Session.bare []).stretcher.Steady ∧
    (Program.sequence ((steps Configuration.nearby plainOutcome).take 1)).start (.bare []) =
        (.ok (), stopped 1) ∧
      ∃ w, (record Configuration.nearby plainOutcome).start (stopped 1) = (.ok (), w) ∧
        Complete (Session.bare []).stretcher Configuration.nearby plainOutcome
          (Session.bare []).disk w.disk := by
  obtain ⟨u, hrecord⟩ := record_plain
  obtain ⟨hstopped, hunderway⟩ := underway_stopped (show 1 ≤ 4 by decide)
  obtain ⟨-, -, hagain, -, -⟩ :=
    record_resumed steady_bare hrecord (show 1 ≤ 4 by decide) hstopped rfl hunderway.stretcher
  exact ⟨steady_bare, hstopped, hagain (by decide)⟩

/-- Saving that stopped after the seed cannot be started again, and no path is recorded. -/
theorem record_refused_seed :
    (∃ u, (record Configuration.nearby plainOutcome).start (.bare []) = (.ok (), u)) ∧
      (Program.sequence ((steps Configuration.nearby plainOutcome).take 2)).start (.bare []) =
        (.ok (), stopped 2) ∧
      (record Configuration.nearby plainOutcome).start (stopped 2) =
        (.error (.storage (.seedExists Configuration.nearby.file)), stopped 2) ∧
      Store.Config.field (stopped 2).disk Configuration.nearby.file consumingField = .ok none := by
  obtain ⟨hstopped, hunderway⟩ := underway_stopped (show 2 ≤ 4 by decide)
  obtain ⟨fields, htakes, hsame, -⟩ := hunderway.reached
  refine ⟨record_plain, hstopped, hunderway.refused (by decide), ?_⟩
  rw [Store.Config.field, htakes.load, Except.map, hsame consumingField (by decide)]
  rfl

end HdProvision.Provision.Save
