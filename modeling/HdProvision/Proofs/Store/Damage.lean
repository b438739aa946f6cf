import HdProvision.Proofs.Store.Seed

/-!
# Damaged files

Whatever octets the file holds, an operation on it succeeds or fails with a fault of the storage, but
for three kinds of damage: an integer that is too long to be read, brackets that are too many to be
read or written, and a sealed value that does not have its three hexadecimal texts.
-/

set_option autoImplicit false

namespace HdProvision.Vault.Sealed

/-- A stored value from which the salts and the ciphertext can be read. -/
structure WellFormed (stored : Json.Value) : Prop where
  passwordSalt : ∃ bs, octets stored "password_salt" = .ok bs
  wrapperSalt : ∃ bs, octets stored "wrapper_salt" = .ok bs
  ciphertext : ∃ bs, octets stored "ciphertext" = .ok bs

variable {k : Stretcher} {stored : Json.Value} {fault : OpenFault}

theorem octets_ne_wrongKey (stored : Json.Value) (field : String) :
    octets stored field ≠ .error .wrongKey := by
  unfold octets
  split
  · split
    · intro h
      cases h
    · split
      · intro h
        cases h
      · intro h
        cases h
    · intro h
      cases h
  · intro h
    cases h

/-- Opens a stored value with key material. -/
def openWith (material : Bytes) (stored : Json.Value) : Except OpenFault Bytes := do
  let wrapperSalt ← octets stored "wrapper_salt"
  let ciphertext ← octets stored "ciphertext"
  (unwrap? material wrapperSalt ciphertext).elim (.error .wrongKey) .ok

theorem unlock_eq_openWith {password : String} {passwordSalt material : Bytes}
    (hpassword : octets stored "password_salt" = .ok passwordSalt)
    (hrun : k.run (Utf8.encode password) passwordSalt = .ok material) :
    unlock k stored password = openWith material stored := by
  rw [unlock, hpassword]
  change ((k.run (Utf8.encode password) passwordSalt).mapError OpenFault.stretch >>= _) = _
  rw [hrun]
  change (octets stored "wrapper_salt" >>= _) = _
  rw [openWith]
  refine bind_congr fun wrapperSalt => bind_congr fun ciphertext => ?_
  cases unwrap? material wrapperSalt ciphertext <;> rfl

theorem openWith_ne_error {material : Bytes}
    (hwrapper : ∃ bs, octets stored "wrapper_salt" = .ok bs)
    (hciphertext : ∃ bs, octets stored "ciphertext" = .ok bs)
    (h : openWith material stored = .error fault) : fault = .wrongKey := by
  obtain ⟨wrapperSalt, hwrapper⟩ := hwrapper
  obtain ⟨ciphertext, hciphertext⟩ := hciphertext
  rw [openWith, hwrapper] at h
  change (octets stored "ciphertext" >>= _) = _ at h
  rw [hciphertext] at h
  change (unwrap? material wrapperSalt ciphertext).elim _ _ = _ at h
  cases hunwrap : unwrap? material wrapperSalt ciphertext with
  | some secret =>
    rw [hunwrap] at h
    cases h
  | none =>
    rw [hunwrap] at h
    cases h
    rfl

theorem eq_wrongKey_of_ok (secret : Bytes) (fault : OpenFault)
    (h : (.ok secret : Except OpenFault Bytes) = .error fault) : fault = .wrongKey := by
  cases h

theorem forall_error_iff (fault : OpenFault) :
    (∀ other, (.error fault : Except OpenFault Bytes) = .error other → other = .wrongKey) ↔
      fault = .wrongKey := by
  constructor
  · intro h
    exact h fault rfl
  · rintro rfl other h
    cases h
    rfl

/-- When passwords can be stretched, a well-formed value is opened or refused for its password, and any
other one for its form. -/
theorem wellFormed_iff (hworks : k.Works) (password : String) :
    WellFormed stored ↔ ∀ fault, unlock k stored password = .error fault → fault = .wrongKey := by
  constructor
  · rintro ⟨⟨passwordSalt, hpassword⟩, hwrapper, hciphertext⟩ fault h
    obtain ⟨material, hrun⟩ := hworks.run_ok (Utf8.encode password) passwordSalt
    rw [unlock_eq_openWith hpassword hrun] at h
    exact openWith_ne_error hwrapper hciphertext h
  · intro h
    have hreadable : ∀ field, (∀ fault, octets stored field = .error fault →
        unlock k stored password = .error fault) → ∃ bs, octets stored field = .ok bs := by
      intro field hfails
      cases hfield : octets stored field with
      | ok bs => exact ⟨bs, rfl⟩
      | error fault =>
        obtain rfl := h fault (hfails fault hfield)
        exact absurd hfield (octets_ne_wrongKey stored field)
    -- The fields are read one after another, and the first that cannot be read ends it.
    obtain ⟨passwordSalt, hpassword⟩ := hreadable "password_salt" fun fault hfault => by
      rw [unlock, hfault]
      rfl
    obtain ⟨material, hrun⟩ := hworks.run_ok (Utf8.encode password) passwordSalt
    rw [unlock_eq_openWith hpassword hrun] at hreadable
    obtain ⟨wrapperSalt, hwrapper⟩ := hreadable "wrapper_salt" fun fault hfault => by
      rw [openWith, hfault]
      rfl
    refine ⟨⟨passwordSalt, hpassword⟩, ⟨wrapperSalt, hwrapper⟩, ?_⟩
    refine hreadable "ciphertext" fun fault hfault => ?_
    rw [openWith, hwrapper]
    change (octets stored "ciphertext" >>= _) = _
    rw [hfault]
    rfl

end HdProvision.Vault.Sealed

namespace HdProvision.Store

open Config (Stores checkField checkText consumingField earningField parse seedField)
open Json (Fields)
open Vault (Sealed)

variable {α : Type}

/-- What went wrong, if anything did, is a fault of the storage. -/
def Reported (r : Except StoreError α) : Prop := ∀ e, r = .error e → ∃ fault, e = .storage fault

theorem reported_ok (a : α) : Reported (.ok a : Except StoreError α) := by
  intro e h
  cases h

theorem reported_storage (fault : StorageFault) :
    Reported (.error (.storage fault) : Except StoreError α) := by
  rintro e h
  cases h
  exact ⟨fault, rfl⟩

theorem reported_error_iff (e : StoreError) :
    Reported (.error e : Except StoreError α) ↔ ∃ fault, e = .storage fault := by
  constructor
  · intro h
    exact h e rfl
  · rintro ⟨fault, rfl⟩
    exact reported_storage fault

theorem not_reported_sealedValue (fault : Vault.OpenFault) :
    ¬ Reported (.error (.sealedValue fault) : Except StoreError α) := by
  intro h
  obtain ⟨_, h⟩ := h _ rfl
  cases h

theorem not_reported_tooDeepToWrite : ¬ Reported (.error .tooDeepToWrite : Except StoreError α) := by
  intro h
  obtain ⟨_, h⟩ := h _ rfl
  cases h

/-- What an operation answers that opens a stored value: a wrong password has an answer of its own,
and any other fault is handed on. -/
def answered (f : Bytes → α) (w : Except StoreError α) :
    Except Vault.OpenFault Bytes → Except StoreError α
  | .ok secret => .ok (f secret)
  | .error .wrongKey => w
  | .error fault => .error (.sealedValue fault)

theorem reported_answered (f : Bytes → α) {w : Except StoreError α} (hw : Reported w)
    (opened : Except Vault.OpenFault Bytes) :
    Reported (answered f w opened) ↔ ∀ fault, opened = .error fault → fault = .wrongKey := by
  cases opened with
  | ok secret => exact iff_of_true (reported_ok _) (Sealed.eq_wrongKey_of_ok secret)
  | error fault =>
    rw [Sealed.forall_error_iff]
    cases fault with
    | wrongKey => exact iff_of_true hw rfl
    | _ =>
      refine iff_of_false (not_reported_sealedValue _) ?_
      intro h
      cases h

section Operations

variable [Json.Nesting]

/-- The octets spell no integer with more digits than are read, and do not nest deeper than is
read. -/
structure Legible (file : Path) (content : Bytes) : Prop where
  countable : ∀ n, parse file content ≠ .error (.digits n)
  shallow : ∀ kind, parse file content ≠ .error (.tooDeep kind)

variable {file : Path} {content : Bytes} {fields : Fields} {d : Disk} {k : Vault.Stretcher}

theorem parse_error {e : StoreError} (h : parse file content = .error e) :
    (∃ fault, e = .storage fault) ∨ (∃ n, e = .digits n) ∨ ∃ kind, e = .tooDeep kind := by
  rw [parse] at h
  split at h
  · cases h
    exact Or.inl ⟨_, rfl⟩
  · split at h
    · cases h
      exact Or.inl ⟨_, rfl⟩
    · cases h
      exact Or.inr (Or.inl ⟨_, rfl⟩)
    · cases h
      exact Or.inr (Or.inr ⟨_, rfl⟩)
    · next v _ =>
      cases hv : Config.fieldsOf file v with
      | error fault =>
        rw [hv] at h
        cases h
        exact Or.inl ⟨fault, rfl⟩
      | ok fields =>
        rw [hv] at h
        cases h

theorem load_of_holds (h : d.Holds file content) : Config.load d file = parse file content := by
  obtain ⟨n, hlook⟩ := Disk.look_of_holds h
  simp only [Config.load, hlook, Disk.read_of_holds h]

/-- What cannot be read as fields is reported unless there is too much of it. -/
theorem reported_parse_iff : Reported (parse file content) ↔ Legible file content := by
  constructor
  · intro hreported
    constructor
    · intro n h
      obtain ⟨_, h⟩ := hreported _ h
      cases h
    · intro kind h
      obtain ⟨_, h⟩ := hreported _ h
      cases h
  · rintro ⟨hcountable, hshallow⟩ e h
    rcases parse_error h with hfault | ⟨n, rfl⟩ | ⟨kind, rfl⟩
    · exact hfault
    · exact absurd h (hcountable n)
    · exact absurd h (hshallow kind)

theorem reported_iff_of_error {e : StoreError} (h : parse file content = .error e) :
    Reported (.error e : Except StoreError α) ↔ Legible file content := by
  rw [← reported_parse_iff, h]
  exact (reported_error_iff e).trans (reported_error_iff e).symm

theorem legible_of_ok (h : parse file content = .ok fields) : Legible file content := by
  rw [← reported_parse_iff, h]
  exact reported_ok fields

/-- What the file has under a name, if it has fields and one of them is that, is well formed. -/
def Sane (file : Path) (content : Bytes) (name : Json.Units) : Prop :=
  ∀ fields v, parse file content = .ok fields → Json.Fields.get? fields name = some v →
    Sealed.WellFormed v

/-- The file has something under a name, whatever it is. -/
def Has (file : Path) (content : Bytes) (name : Json.Units) : Prop :=
  ∃ fields v, parse file content = .ok fields ∧ Json.Fields.get? fields name = some v

/-- The file knows a password: it opens the check that the file has. -/
def Knows (k : Vault.Stretcher) (file : Path) (content : Bytes) (password : String) : Prop :=
  ∃ fields v, parse file content = .ok fields ∧ Json.Fields.get? fields checkField = some v ∧
    Sealed.unlock k v password = .ok checkText

/-- The fields that stay when one is set can be written again. -/
def Rewrites (file : Path) (content : Bytes) (name : Json.Units) : Prop :=
  ∀ fields, parse file content = .ok fields → Config.Fits (fields.erase name)

theorem sane_of_error {e : StoreError} (h : parse file content = .error e) (name : Json.Units) :
    Sane file content name := by
  intro fields v hfields
  rw [h] at hfields
  cases hfields

theorem sane_of_none {name : Json.Units} (h : parse file content = .ok fields)
    (hget : Json.Fields.get? fields name = none) : Sane file content name := by
  intro fields' v hfields hv
  rw [h] at hfields
  cases hfields
  rw [hget] at hv
  cases hv

theorem sane_iff_of_some {name : Json.Units} {v : Json.Value} (h : parse file content = .ok fields)
    (hget : Json.Fields.get? fields name = some v) :
    Sane file content name ↔ Sealed.WellFormed v := by
  constructor
  · intro hsane
    exact hsane fields v h hget
  · intro hv fields' v' hfields hget'
    rw [h] at hfields
    cases hfields
    rw [hget] at hget'
    cases hget'
    exact hv

theorem has_iff {name : Json.Units} (h : parse file content = .ok fields) :
    Has file content name ↔ ∃ v, Json.Fields.get? fields name = some v := by
  constructor
  · rintro ⟨fields', v, hfields, hv⟩
    cases h.symm.trans hfields
    exact ⟨v, hv⟩
  · rintro ⟨v, hv⟩
    exact ⟨fields, v, h, hv⟩

theorem rewrites_of_error {e : StoreError} (h : parse file content = .error e)
    (name : Json.Units) : Rewrites file content name := by
  intro fields hfields
  cases h.symm.trans hfields

theorem rewrites_iff {name : Json.Units} (h : parse file content = .ok fields) :
    Rewrites file content name ↔ Config.Fits (fields.erase name) := by
  constructor
  · intro hrewrites
    exact hrewrites fields h
  · intro hfits fields' hfields
    cases h.symm.trans hfields
    exact hfits

theorem reported_seedExists (h : d.Holds file content) :
    Reported (Config.seedExists d file) ↔ Legible file content := by
  rw [Config.seedExists, load_of_holds h]
  cases hparse : parse file content with
  | error e => exact reported_iff_of_error hparse
  | ok fields => exact iff_of_true (reported_ok _) (legible_of_ok hparse)

/-- What opens the value under a name, if there is any, is reported unless the value is damaged. -/
theorem reported_opening (hworks : k.Works) (password : String) {name : Json.Units}
    {r : Except StoreError α} (f : Bytes → α) (w : Except StoreError α)
    (herror : ∀ e, parse file content = .error e → r = .error e)
    (hnone : ∀ fields, parse file content = .ok fields → Json.Fields.get? fields name = none →
      Reported r)
    (hsome : ∀ fields v, parse file content = .ok fields → Json.Fields.get? fields name = some v →
      r = answered f w (Sealed.unlock k v password))
    (hw : Reported w) : Reported r ↔ Legible file content ∧ Sane file content name := by
  cases hparse : parse file content with
  | error e =>
    rw [and_iff_left (sane_of_error hparse name), herror e hparse]
    exact reported_iff_of_error hparse
  | ok fields =>
    rw [and_iff_right (legible_of_ok hparse)]
    cases hget : Json.Fields.get? fields name with
    | none => exact iff_of_true (hnone fields hparse hget) (sane_of_none hparse hget)
    | some v =>
      rw [sane_iff_of_some hparse hget, Sealed.wellFormed_iff hworks password,
        hsome fields v hparse hget]
      exact reported_answered f hw _

theorem reported_checkPassword (hworks : k.Works) (h : d.Holds file content) (password : String) :
    Reported (Config.checkPassword k d file password) ↔
      Legible file content ∧ Sane file content checkField := by
  simp only [Config.checkPassword, load_of_holds h]
  refine reported_opening hworks password (fun secret => some (decide (secret = checkText)))
    (.ok (some false)) (fun e hparse => ?_) (fun fields hparse hget => ?_)
    (fun fields v hparse hget => ?_) (reported_ok _)
  · simp only [hparse]
  · simp only [hparse, hget]
    exact reported_ok _
  · simp only [hparse, hget]
    rfl

theorem reported_seed (hworks : k.Works) (h : d.Holds file content) (password : String) :
    Reported (Config.seed k d file password) ↔
      Legible file content ∧ Sane file content seedField := by
  simp only [Config.seed, load_of_holds h]
  refine reported_opening hworks password some (.error (.storage .wrongPassword))
    (fun e hparse => ?_) (fun fields hparse hget => ?_) (fun fields v hparse hget => ?_)
    (reported_storage _)
  · simp only [hparse]
  · simp only [hparse, hget]
    exact reported_ok _
  · simp only [hparse, hget]
    rfl

/-- Whether a field can be set is reported depends on the fields that stay. -/
theorem reported_update_of_ok (h : d.Holds file content) (hparse : parse file content = .ok fields)
    {name : Json.Units} {v : Json.Value} (hv : Config.Recordable v) :
    Reported (Config.update d file name v).1 ↔ Rewrites file content name := by
  have hstorable : Config.Storable fields := Config.parse_storable hparse
  rw [rewrites_iff hparse, ← Config.fits_set_iff hstorable name hv.shallow]
  simp only [Config.update, load_of_holds h, hparse]
  by_cases hfits : Config.Fits (fields.set name v)
  · obtain ⟨d', hsave, -⟩ := Config.save_of_holds h hfits
    rw [hsave]
    exact iff_of_true (reported_ok _) hfits
  · rw [Config.save_of_not_fits h hfits]
    exact iff_of_false not_reported_tooDeepToWrite hfits

theorem reported_update (h : d.Holds file content) {name : Json.Units} {v : Json.Value}
    (hv : Config.Recordable v) : Reported (Config.update d file name v).1 ↔
      Legible file content ∧ Rewrites file content name := by
  cases hparse : parse file content with
  | error e =>
    rw [and_iff_left (rewrites_of_error hparse name)]
    simp only [Config.update, load_of_holds h, hparse]
    exact reported_iff_of_error hparse
  | ok fields =>
    rw [and_iff_right (legible_of_ok hparse)]
    exact reported_update_of_ok h hparse hv

/-- An operation on the configuration. -/
inductive Operation
  | seedExists
  | checkPassword (password : String)
  | recordPassword (password : String)
  | recordSeed (secret : Bytes) (password : String)
  | seed (password : String)
  | recordConsumingPath (path : Json.Points)
  | recordEarningAddress (address : Json.Points)

namespace Operation

/-- In a session the operation succeeds or fails with a fault of the storage. -/
def Reported (c : Configuration) (s : Session) : Operation → Prop
  | .seedExists => Store.Reported (c.seedExists.start s).1
  | .checkPassword password => Store.Reported ((c.checkPassword password).start s).1
  | .recordPassword password => Store.Reported ((c.recordPassword password).start s).1
  | .recordSeed secret password => Store.Reported ((c.recordSeed secret password).start s).1
  | .seed password => Store.Reported ((c.seed password).start s).1
  | .recordConsumingPath path => Store.Reported ((c.recordConsumingPath path).start s).1
  | .recordEarningAddress address => Store.Reported ((c.recordEarningAddress address).start s).1

/-- What the operation opens is not damaged. A password check is not opened by what records a seed if
there is a seed already. -/
def Tolerates (file : Path) (content : Bytes) : Operation → Prop
  | .seedExists | .recordConsumingPath _ | .recordEarningAddress _ => True
  | .checkPassword _ | .recordPassword _ => Sane file content checkField
  | .recordSeed _ _ => Has file content seedField ∨ Sane file content checkField
  | .seed _ => Sane file content seedField

/-- What the operation writes, if it writes anything, does not nest too deep. A password is written
when none is known, and a seed when there is none and its password is known. -/
def Fits (k : Vault.Stretcher) (file : Path) (content : Bytes) : Operation → Prop
  | .seedExists | .checkPassword _ | .seed _ => True
  | .recordPassword _ => Has file content checkField ∨ Rewrites file content checkField
  | .recordSeed _ password => Has file content seedField ∨ ¬ Knows k file content password ∨
      Rewrites file content seedField
  | .recordConsumingPath _ => Rewrites file content consumingField
  | .recordEarningAddress _ => Rewrites file content earningField

end Operation

namespace Configuration

variable {c : Configuration} {s : Session} {secret : Bytes} {password message : String}

/-- Keeping a secret fails when its field cannot be set. -/
theorem reported_keep (hworks : s.stretcher.Works) (h : s.disk.Holds c.file content)
    (hparse : parse c.file content = .ok fields) {name : Json.Units} :
    Reported ((c.keep name secret password message).start s).1 ↔
      Rewrites c.file content name := by
  obtain ⟨x, hlock⟩ := Sealed.lock_of_works hworks s.salts secret password
  have hlock : s.lock secret password = .ok x := hlock
  rw [← reported_update_of_ok h hparse (recordable_sealed x), start_keep, hlock]
  dsimp only
  rcases Config.update s.disk c.file name (.object x.toFields) with ⟨e | _, d⟩
  · exact (reported_error_iff e).trans (reported_error_iff e).symm
  · exact iff_of_true (reported_ok _) (reported_ok _)

/-- A password is known when it opens the check. -/
theorem knows_iff (h : s.disk.Holds c.file content) (password : String) :
    Knows s.stretcher c.file content password ↔
      Config.checkPassword s.stretcher s.disk c.file password = .ok (some true) := by
  have hload := load_of_holds h
  constructor
  · rintro ⟨fields, v, hparse, hget, hunlock⟩
    simp only [Config.checkPassword, hload, hparse, hget, hunlock, decide_true]
  · intro hcheck
    cases hparse : parse c.file content with
    | error e =>
      simp only [Config.checkPassword, hload, hparse] at hcheck
      cases hcheck
    | ok fields =>
      obtain ⟨v, hget, hunlock⟩ := Config.check_of_checkPassword (hload.trans hparse) hcheck
      exact ⟨fields, v, hparse, hget, hunlock⟩

/-- No password is known to a file without a check, and to no other. -/
theorem checkPassword_eq_none_iff (h : s.disk.Holds c.file content)
    (hparse : parse c.file content = .ok fields) (password : String) :
    Config.checkPassword s.stretcher s.disk c.file password = .ok none ↔
      ¬ Has c.file content checkField := by
  rw [has_iff hparse]
  simp only [Config.checkPassword, load_of_holds h, hparse]
  cases Json.Fields.get? fields checkField with
  | none => exact iff_of_true rfl (by rintro ⟨_, ⟨⟩⟩)
  | some v =>
    refine iff_of_false ?_ (not_not_intro ⟨v, rfl⟩)
    dsimp only
    split <;> exact fun h => by cases h

theorem reported_recordPassword (hworks : s.stretcher.Works) (h : s.disk.Holds c.file content)
    (password : String) : Reported ((c.recordPassword password).start s).1 ↔
      Legible c.file content ∧ Sane c.file content checkField ∧
        (Has c.file content checkField ∨ Rewrites c.file content checkField) := by
  have hreported := reported_checkPassword hworks h password
  rw [start_recordPassword, ← and_assoc, ← hreported]
  cases hparse : parse c.file content with
  | error e =>
    rw [and_iff_left (.inr (rewrites_of_error hparse _))]
    simp only [Config.checkPassword, load_of_holds h, hparse]
    exact (reported_error_iff e).trans (reported_error_iff e).symm
  | ok fields =>
    have hnone := checkPassword_eq_none_iff h hparse password
    cases hcheck : Config.checkPassword s.stretcher s.disk c.file password with
    | error e =>
      rw [hcheck] at hnone
      have hhas : Has c.file content checkField := by
        by_contra hno
        cases hnone.mpr hno
      rw [and_iff_left (.inl hhas)]
      exact (reported_error_iff e).trans (reported_error_iff e).symm
    | ok answer =>
      rw [and_iff_right (reported_ok _)]
      rw [hcheck] at hnone
      cases answer with
      | none =>
        rw [or_iff_right (hnone.mp rfl)]
        exact reported_keep hworks h hparse
      | some known =>
        have hhas : Has c.file content checkField := by
          by_contra hno
          cases hnone.mpr hno
        refine iff_of_true ?_ (.inl hhas)
        cases known with
        | false => exact reported_storage _
        | true => exact reported_ok _

theorem reported_recordSeed (hworks : s.stretcher.Works) (h : s.disk.Holds c.file content)
    (secret : Bytes) (password : String) :
    Reported ((c.recordSeed secret password).start s).1 ↔ Legible c.file content ∧
      (Has c.file content seedField ∨ Sane c.file content checkField) ∧
        (Has c.file content seedField ∨ ¬ Knows s.stretcher c.file content password ∨
          Rewrites c.file content seedField) := by
  rw [start_recordSeed]
  cases hparse : parse c.file content with
  | error e =>
    have hexists : Config.seedExists s.disk c.file = .error e := by
      simp only [Config.seedExists, load_of_holds h, hparse]
      rfl
    rw [hexists, and_iff_left ⟨.inr (sane_of_error hparse _),
      .inr (.inr (rewrites_of_error hparse _))⟩]
    exact reported_iff_of_error hparse
  | ok fields =>
    have hexists : Config.seedExists s.disk c.file =
        .ok (Json.Fields.get? fields seedField).isSome := by
      simp only [Config.seedExists, load_of_holds h, hparse]
      rfl
    rw [hexists, and_iff_right (legible_of_ok hparse), has_iff hparse]
    cases hget : Json.Fields.get? fields seedField with
    | some v => exact iff_of_true (reported_storage _) ⟨.inl ⟨v, rfl⟩, .inl ⟨v, rfl⟩⟩
    | none =>
      have hfree : ¬ ∃ v, (none : Option Json.Value) = some v := by rintro ⟨_, ⟨⟩⟩
      have hcheck := reported_checkPassword hworks h password
      rw [and_iff_right (legible_of_ok hparse)] at hcheck
      rw [or_iff_right hfree, or_iff_right hfree, ← hcheck, knows_iff h password]
      cases Config.checkPassword s.stretcher s.disk c.file password with
      | error e =>
        rw [and_iff_left (.inl (by intro h; cases h))]
        exact (reported_error_iff e).trans (reported_error_iff e).symm
      | ok answer =>
        rw [and_iff_right (reported_ok _)]
        rcases answer with - | - | -
        · exact iff_of_true (reported_storage _) (.inl (by intro h; cases h))
        · exact iff_of_true (reported_storage _) (.inl (by intro h; cases h))
        · rw [or_iff_right (not_not_intro rfl)]
          exact reported_keep hworks h hparse

/-- An operation on a file succeeds or fails with a fault of the storage unless an integer in the file
is too long, the file nests too deep to be read, what the operation opens is damaged, or what it
writes nests too deep to be written. -/
theorem reported_iff (op : Operation) (hworks : s.stretcher.Works)
    (h : s.disk.Holds c.file content) :
    op.Reported c s ↔ Legible c.file content ∧ op.Tolerates c.file content ∧
      op.Fits s.stretcher c.file content := by
  cases op with
  | seedExists =>
    rw [Operation.Tolerates, Operation.Fits, and_true, and_true]
    exact reported_seedExists h
  | checkPassword password =>
    rw [Operation.Fits, and_true]
    exact reported_checkPassword hworks h password
  | recordPassword password => exact reported_recordPassword hworks h password
  | recordSeed secret password => exact reported_recordSeed hworks h secret password
  | seed password =>
    rw [Operation.Fits, and_true]
    exact reported_seed hworks h password
  | recordConsumingPath path =>
    rw [Operation.Tolerates, true_and]
    exact reported_update h (Config.recordable_text _)
  | recordEarningAddress address =>
    rw [Operation.Tolerates, true_and]
    exact reported_update h (Config.recordable_text _)

/-- A configuration in the directory where paths start. -/
def nearby : Configuration := ⟨⟨.here, [['w']]⟩⟩

omit [Json.Nesting] in
theorem place_nearby : (Session.bare []).disk.place nearby.file = .ok [['w']] := rfl

/-- A configuration without a file takes any password. -/
theorem recordPassword_nearby (password : String) : ∃ t fields,
    (nearby.recordPassword password).start (Session.bare []) = (.ok (), t) ∧
      t.stretcher = (Session.bare []).stretcher ∧ Stores t.disk nearby.file fields ∧
      Config.seedExists t.disk nearby.file = .ok false ∧
      Config.checkPassword (Session.bare []).stretcher t.disk nearby.file password =
        .ok (some true) := by
  have hworks : (Session.bare []).stretcher.Works := ⟨by decide, fun _ => rfl⟩
  have haccess : (Session.bare []).disk.Accessible nearby.file :=
    Disk.accessible_of_absent fun content mode h => by cases h
  obtain ⟨t, hstart⟩ := recordPassword_of_absent hworks rfl place_nearby rfl password
  rcases recordPassword_ok haccess hstart with
    ⟨hcheck, -⟩ | ⟨hsame, hcheck, hfree, fields, hstores⟩
  · rw [checkPassword_of_absent place_nearby rfl] at hcheck
    cases hcheck
  · exact ⟨t, fields, hstart, hsame, hstores, hfree rfl, hcheck⟩

/-- A disk with a file in which a password was recorded. -/
def knowing : Disk :=
  ((nearby.recordPassword "password").start (Session.bare [])).2.disk

theorem knowing_file : (∃ fields, Stores knowing nearby.file fields) ∧
    Config.seedExists knowing nearby.file = .ok false ∧
    Config.checkPassword (Session.bare []).stretcher knowing nearby.file
      "password" = .ok (some true) := by
  obtain ⟨t, fields, hstart, -, hstores, hfree, hcheck⟩ := recordPassword_nearby "password"
  have hdisk : knowing = t.disk := by rw [knowing, hstart]
  rw [hdisk]
  exact ⟨⟨fields, hstores⟩, hfree, hcheck⟩

/-- The disk after a seed was recorded in that file. -/
def seededBy (s : Session) : Disk := ((nearby.recordSeed [0] "password").start s).2.disk

theorem keeps_seededBy {fields : Json.Fields} (hworks : s.stretcher.Works)
    (hstores : Stores s.disk nearby.file fields)
    (hfree : Config.seedExists s.disk nearby.file = .ok false)
    (hcheck : Config.checkPassword s.stretcher s.disk nearby.file "password" = .ok (some true)) :
    ∃ x, nearby.Keeps s.stretcher (seededBy s) [0] "password" x := by
  obtain ⟨t, hstart⟩ := recordSeed_of_stores [0] hworks hstores hfree hcheck
  obtain ⟨-, x, -, hkeeps⟩ := recordSeed_ok hstores.accessible hstart
  rw [seededBy, hstart]
  exact ⟨x, hkeeps⟩

/-- A disk with a file in which a seed was recorded, too. -/
def seeded : Disk := seededBy ((Session.bare []).storing knowing)

theorem seeded_file : ∃ x, nearby.Keeps (Session.bare []).stretcher seeded [0] "password" x := by
  obtain ⟨⟨fields, hstores⟩, hfree, hcheck⟩ := knowing_file
  -- The session is a variable: comparing its disk with the known one would carry out a recording.
  have hkeeps : ∀ s : Session, s.disk = knowing → s.stretcher = (Session.bare []).stretcher →
      ∃ x, nearby.Keeps (Session.bare []).stretcher (seededBy s) [0] "password" x := by
    intro s hdisk hstretcher
    rw [← hdisk] at hstores hfree hcheck
    rw [← hstretcher] at hcheck ⊢
    exact keeps_seededBy (hstretcher ▸ ⟨by decide, fun _ => rfl⟩) hstores hfree hcheck
  exact hkeeps _ (Session.disk_storing _ knowing) rfl

/-- A session that finds octets in the file of that configuration. -/
def finding (content : Bytes) : Session :=
  { Session.bare [] with disk := ⟨[([['w']], .file content 0o600)], []⟩ }

omit [Json.Nesting] in
theorem holds_finding (content : Bytes) : (finding content).disk.Holds nearby.file content :=
  ⟨[['w']], 0o600, rfl, rfl, rfl, by decide, by decide⟩

end Configuration

end Operations

namespace Configuration

open scoped Json.Nesting

/-- The password is recorded in a file without fields. -/
theorem reported_iff_empty :
    (Operation.recordPassword "password").Reported nearby (finding (Config.render [])) := by
  have hparse : parse nearby.file (Config.render []) = .ok [] := Config.parse_render _ .nil
  exact (reported_iff _ ⟨by decide, fun _ => rfl⟩ (holds_finding _)).mpr
    ⟨legible_of_ok hparse, sane_of_none hparse rfl,
      .inr ((rewrites_iff hparse).mpr Config.fits_nil)⟩

/-- A password check that is no object is not reported as a fault of the storage. -/
theorem not_reported_null : ¬ Reported ((nearby.checkPassword "password").start
    (finding (Config.render [(checkField, .null)]))).1 := by
  have hparse : parse nearby.file (Config.render [(checkField, .null)]) =
      .ok [(checkField, .null)] :=
    Config.parse_render _ (Config.Storable.nil.set (by decide) ⟨trivial, Nat.zero_le 1⟩)
  rw [start_checkPassword, Config.checkPassword, load_of_holds (holds_finding _), hparse]
  exact not_reported_sealedValue (.notFields .null)

end Configuration
end HdProvision.Store
