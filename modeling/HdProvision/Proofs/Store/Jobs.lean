import HdProvision.Proofs.Store.Seed

/-!
# Recordings, one use of the file after another

A recording reads the whole file some times and writes it once. What is left to do of a recording is
a job; carrying it out is the recording itself, however the writing is done. One access takes a job
up to its next use of the file.
-/

set_option autoImplicit false

namespace HdProvision.Store

open Config (checkField checkText consumingField earningField seedField)
open Json (Fields)
open Vault (Sealed Stretcher)

namespace Config

variable {k : Stretcher} {password : String}

/-- Whether a password is the one that fields were checked with; none if they know none. -/
def verdict (k : Stretcher) (fields : Fields) (password : String) :
    Except StoreError (Option Bool) :=
  match Json.Fields.get? fields checkField with
  | none => .ok none
  | some stored =>
    match Sealed.unlock k stored password with
    | .ok secret => .ok (some (secret = checkText))
    | .error .wrongKey => .ok (some false)
    | .error fault => .error (.sealedValue fault)

/-- Fields know a password when it opens the check that they hold. -/
theorem verdict_eq_true {fields : Fields} : verdict k fields password = .ok (some true) ↔
    ∃ stored, Json.Fields.get? fields checkField = some stored ∧
      Sealed.unlock k stored password = .ok checkText := by
  rw [verdict]
  constructor
  · intro h
    split at h
    · cases h
    · next stored hget =>
      split at h
      · next secret hunlock =>
        have hsecret : secret = checkText := by simpa using h
        exact ⟨stored, hget, hsecret ▸ hunlock⟩
      · cases h
      · cases h
  · rintro ⟨stored, hget, hunlock⟩
    simp only [hget, hunlock, decide_true]

/-- Fields know no password when they hold no check. -/
theorem verdict_eq_none {fields : Fields} : verdict k fields password = .ok none ↔
    Json.Fields.get? fields checkField = none := by
  rw [verdict]
  constructor
  · intro h
    split at h
    · next hget => exact hget
    · split at h <;> cases h
  · intro hget
    rw [hget]

/-- A verdict that cannot be given is the fault of the stored check. -/
theorem verdict_eq_error {fields : Fields} {e : StoreError}
    (h : verdict k fields password = .error e) : ∃ fault, e = .sealedValue fault := by
  rw [verdict] at h
  split at h
  · cases h
  · split at h
    · cases h
    · cases h
    · next fault _ _ =>
      cases h
      exact ⟨fault, rfl⟩

/-- Only the check tells which password is known. -/
theorem verdict_set_of_ne (fields : Fields) {name : Json.Units} (v : Json.Value)
    (h : name ≠ checkField) :
    verdict k (fields.set name v) password = verdict k fields password := by
  rw [verdict, Json.Fields.get?_set_of_ne fields v h.symm, ← verdict]

/-- A check that was sealed with a password knows the password. -/
theorem verdict_set_check (fields : Fields) {x : Sealed}
    (h : Sealed.unlock k (.object x.toFields) password = .ok checkText) :
    verdict k (fields.set checkField (.object x.toFields)) password = .ok (some true) :=
  verdict_eq_true.mpr ⟨_, Json.Fields.get?_set_self fields _ _, h⟩

variable [Json.Nesting]

theorem checkPassword_eq (k : Stretcher) (d : Disk) (file : Path) (password : String) :
    checkPassword k d file password = match load d file with
      | .error e => .error e
      | .ok fields => verdict k fields password := rfl

theorem checkPassword_of_load (k : Stretcher) {d : Disk} {file : Path} {fields : Fields}
    (h : load d file = .ok fields) (password : String) :
    checkPassword k d file password = verdict k fields password := by
  rw [checkPassword_eq, h]

end Config

/-- What is left to do of a recording. -/
inductive Job
  | ended (r : Except StoreError Unit)
  | load (next : Stretcher → Fields → Job)
  | conceal (secret : Bytes) (password : String) (next : Sealed → Job)
  | save (fields : Fields) (next : Job)
  | note (message : String) (next : Job)

/-- A way to write fields to a file. -/
abbrev Saver := Disk → Path → Fields → Except StoreError Unit × Disk

namespace Job

/-- Reads the file, sets a field and writes the file. -/
def update (name : Json.Units) (v : Json.Value) (next : Job) : Job :=
  load fun _ fields => save (fields.set name v) next

/-- Seals a secret, puts it into a field and says so. -/
def keep (name : Json.Units) (secret : Bytes) (password message : String) : Job :=
  conceal secret password fun x =>
    update name (.object x.toFields) (note message (ended (.ok ())))

def recordPassword (c : Configuration) (password : String) : Job :=
  load fun k fields =>
    match Config.verdict k fields password with
    | .error e => ended (.error e)
    | .ok (some false) => ended (.error (.storage .otherPassword))
    | .ok (some true) => ended (.ok ())
    | .ok none => keep checkField checkText password c.passwordMessage

/-- Goes on only if the fields know the password. -/
def whenKnown (password : String) (next : Job) : Job :=
  load fun k fields =>
    match Config.verdict k fields password with
    | .error e => ended (.error e)
    | .ok (some true) => next
    | .ok _ => ended (.error (.storage .noPassword))

def recordSeed (c : Configuration) (secret : Bytes) (password : String) : Job :=
  load fun _ fields =>
    if (Json.Fields.get? fields seedField).isSome then
      ended (.error (.storage (.seedExists c.file)))
    else whenKnown password (keep seedField secret password c.seedMessage)

def recordConsumingPath (path : Json.Points) : Job :=
  update consumingField (.text (Json.Units.ofPoints path)) (ended (.ok ()))

def recordEarningAddress (address : Json.Points) : Job :=
  update earningField (.text (Json.Units.ofPoints address)) (ended (.ok ()))

variable [Json.Nesting]

/-- Carries out a job. -/
def run (saver : Saver) (c : Configuration) : Job → Session → Except StoreError Unit × Session
  | ended r, s => (r, s)
  | load next, s =>
    match Config.load s.disk c.file with
    | .ok fields => run saver c (next s.stretcher fields) s
    | .error e => (.error e, s)
  | conceal secret password next, s =>
    match s.lock secret password with
    | .ok x => run saver c (next x) s.sealing
    | .error fault => (.error (.stretch fault), s.salted)
  | save fields next, s =>
    match saver s.disk c.file fields with
    | (.ok (), d) => run saver c next (s.storing d)
    | (.error e, d) => (.error e, s.storing d)
  | note message next, s => run saver c next (s.noted .info Configuration.source message)

/-- What a job does without the file, up to its next use of it. -/
def settle : Job → Session → Job × Session
  | conceal secret password next, s =>
    match s.lock secret password with
    | .ok x => settle (next x) s.sealing
    | .error fault => (ended (.error (.stretch fault)), s.salted)
  | note message next, s => settle next (s.noted .info Configuration.source message)
  | j, s => (j, s)

/-- One use of the file, and what follows it without the file. -/
def access (c : Configuration) : Job → Session → Job × Session
  | load next, s =>
    match Config.load s.disk c.file with
    | .ok fields => settle (next s.stretcher fields) s
    | .error e => (ended (.error e), s)
  | save fields next, s =>
    match Config.save s.disk c.file fields with
    | (.ok (), d) => settle next (s.storing d)
    | (.error e, d) => (ended (.error e), s.storing d)
  | j, s => settle j s

variable {c : Configuration}

/-- What a job does without the file comes before all else that it does. -/
theorem run_settle (saver : Saver) (c : Configuration) (j : Job) (s : Session) :
    run saver c (settle j s).1 (settle j s).2 = run saver c j s := by
  induction j generalizing s with
  | ended r => rfl
  | load next ih => rfl
  | save fields next ih => rfl
  | note message next ih => exact ih _
  | conceal secret password next ih =>
    rw [settle, run]
    cases s.lock secret password with
    | ok x => exact ih x _
    | error fault => rfl

/-- Going on after one access comes to the same as carrying out the job. -/
theorem run_access (c : Configuration) (j : Job) (s : Session) :
    run Config.save c (access c j s).1 (access c j s).2 = run Config.save c j s := by
  cases j with
  | load next =>
    rw [access, run]
    cases Config.load s.disk c.file with
    | ok fields => exact run_settle _ c _ s
    | error e => rfl
  | save fields next =>
    rw [access, run]
    rcases Config.save s.disk c.file fields with ⟨e | a, d⟩
    · rfl
    · exact run_settle _ c _ _
  | _ => exact run_settle _ c _ s

theorem run_update (c : Configuration) (name : Json.Units) (v : Json.Value) (s : Session) :
    run Config.save c (update name v (ended (.ok ()))) s = (c.update name v).start s := by
  rw [Configuration.start_update, update, run, Config.update]
  cases Config.load s.disk c.file with
  | error e => rfl
  | ok fields =>
    dsimp only
    rw [run]
    rcases Config.save s.disk c.file (fields.set name v) with ⟨e | a, d⟩ <;> rfl

theorem run_keep (c : Configuration) (name : Json.Units) (secret : Bytes)
    (password message : String) (s : Session) :
    run Config.save c (keep name secret password message) s =
      (c.keep name secret password message).start s := by
  rw [Configuration.start_keep, keep, run]
  cases s.lock secret password with
  | error fault => rfl
  | ok x =>
    dsimp only
    rw [update, run, Config.update, show s.sealing.disk = s.disk from rfl]
    cases Config.load s.disk c.file with
    | error e => rfl
    | ok fields =>
      dsimp only
      rw [run, show s.sealing.disk = s.disk from rfl]
      rcases Config.save s.disk c.file (fields.set name (.object x.toFields)) with ⟨e | a, d⟩
      · rfl
      · rfl

theorem run_recordPassword (c : Configuration) (password : String) (s : Session) :
    run Config.save c (recordPassword c password) s = (c.recordPassword password).start s := by
  rw [Configuration.start_recordPassword, recordPassword, run, Config.checkPassword_eq]
  cases Config.load s.disk c.file with
  | error e => rfl
  | ok fields =>
    dsimp only
    cases Config.verdict s.stretcher fields password with
    | error e => rfl
    | ok answer =>
      cases answer with
      | none => exact run_keep c _ _ _ _ s
      | some known => cases known <;> rfl

theorem run_recordSeed (c : Configuration) (secret : Bytes) (password : String) (s : Session) :
    run Config.save c (recordSeed c secret password) s =
      (c.recordSeed secret password).start s := by
  rw [Configuration.start_recordSeed, recordSeed, run, Config.seedExists, Config.checkPassword_eq]
  cases hload : Config.load s.disk c.file with
  | error e => rfl
  | ok fields =>
    dsimp only [Except.map]
    cases (Json.Fields.get? fields seedField).isSome with
    | true => rfl
    | false =>
      rw [if_neg (by decide), whenKnown, run, hload]
      dsimp only
      cases Config.verdict s.stretcher fields password with
      | error e => rfl
      | ok answer =>
        cases answer with
        | none => rfl
        | some known =>
          cases known with
          | false => rfl
          | true => exact run_keep c _ _ _ _ s

end Job

/-- What is recorded by one call. -/
inductive Recording
  | password (password : String)
  | seed (secret : Bytes) (password : String)
  | consumingPath (path : Json.Points)
  | earningAddress (address : Json.Points)

namespace Recording

variable [Json.Nesting]

/-- The program that records it. -/
def record (c : Configuration) : Recording → Program StoreError Unit
  | password p => c.recordPassword p
  | seed secret p => c.recordSeed secret p
  | consumingPath path => c.recordConsumingPath path
  | earningAddress address => c.recordEarningAddress address

/-- The same, one use of the file after another. -/
def job (c : Configuration) : Recording → Job
  | password p => .recordPassword c p
  | seed secret p => .recordSeed c secret p
  | consumingPath path => .recordConsumingPath path
  | earningAddress address => .recordEarningAddress address

/-- A recording does what its job does. -/
theorem run_job (x : Recording) (c : Configuration) (s : Session) :
    (x.job c).run Config.save c s = (x.record c).start s := by
  cases x with
  | password p => exact Job.run_recordPassword c p s
  | seed secret p => exact Job.run_recordSeed c secret p s
  | consumingPath path => exact Job.run_update c _ _ s
  | earningAddress address => exact Job.run_update c _ _ s

end Recording
end HdProvision.Store
