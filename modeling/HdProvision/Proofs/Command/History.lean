import HdProvision.Proofs.Command.Execution

/-!
# Histories of a configuration

A configuration is used by one turn after another, each in surroundings of its own: only the disk is
handed on. A turn that fails leaves every file as it was, and no turn replaces a seed that is recorded
or makes it unreadable.
-/

set_option autoImplicit false

namespace HdProvision.Command

open Provision (Error)
open Store (Configuration Disk StoreError)
open Store.Config (Stores Usable recordable_text seedField)
open Vault (Sealed)

/-- What a turn does: one operation of the configuration, or a whole command line. -/
inductive Act
  | recordPassword (password : String)
  | recordSeed (secret : Bytes) (password : String)
  | recordConsumingPath (path : Json.Points)
  | recordEarningAddress (address : Json.Points)
  | checkPassword (password : String)
  | seed (password : String)
  | seedExists
  | command (d : Defaults) (args : List String)

/-- An operation of the configuration as a program that ends with code zero. -/
def operation {α : Type} (p : Program StoreError α) : Program Error Nat := do
  let _ ← p.mapError Error.store
  return 0

section Histories

variable [Json.Nesting]

/-- The program of an act. -/
def Act.program (c : Configuration) : Act → Program Error Nat
  | .recordPassword password => operation (c.recordPassword password)
  | .recordSeed secret password => operation (c.recordSeed secret password)
  | .recordConsumingPath path => operation (c.recordConsumingPath path)
  | .recordEarningAddress address => operation (c.recordEarningAddress address)
  | .checkPassword password => operation (c.checkPassword password)
  | .seed password => operation (c.seed password)
  | .seedExists => operation c.seedExists
  | .command d args => run d args

/-- An act in its surroundings, whose disk is not looked at. -/
structure Turn where
  act : Act
  surroundings : Session

namespace Turn

/-- The session in which a turn begins on a disk. -/
def session (x : Turn) (d : Disk) : Session := { x.surroundings with disk := d }

/-- What comes of a turn: an exit code or an error. -/
def result (x : Turn) (c : Configuration) (d : Disk) : Except Error Nat :=
  ((x.act.program c).start (x.session d)).1

/-- The disk after a turn. -/
def disk (x : Turn) (c : Configuration) (d : Disk) : Disk :=
  ((x.act.program c).start (x.session d)).2.disk

end Turn

variable {c : Configuration} {d : Disk} {x : Turn} {states : Nat}

omit [Json.Nesting] in
theorem leaves_notify (d : Defaults) (n : Notice) :
    Program.Leaves (notify d n : Program Error Unit) := by
  cases n with
  | version => exact Program.leaves_echo _
  | configPath => exact Program.leaves_get.bind fun _ => Program.leaves_echo _
  | loggingPath => exact Program.leaves_get.bind fun _ => Program.leaves_echo _
  | help => exact Program.leaves_echo _

/-- A command line either runs a command or leaves the disk alone. -/
theorem run_cases (d : Defaults) (args : List String) (s : Session) :
    (∃ v i, Order.ofArguments s.environment args = .ok (.run v i) ∧
        (run d args).start s = (execute d v i).start s) ∨
      ((run d args).start s).2.disk = s.disk := by
  rw [run, Program.start_bind_of_ok (Program.start_get s)]
  split
  · exact Or.inr (leaves_refuse _ s).disk
  · exact Or.inr (((leaves_notify d _).bind fun _ => Program.leaves_pure _) s).disk
  · exact Or.inr (((Program.leaves_echo _).bind fun _ => Program.leaves_pure _) s).disk
  · next v i horder => exact Or.inl ⟨v, i, horder, rfl⟩

namespace Turn

variable {k : Vault.Stretcher} {secret : Bytes} {password : String} {value : Sealed}

end Turn

/-- The stretcher of all turns when stretching does not fail. -/
def sane (states : Nat) : Vault.Stretcher := ⟨states, fun _ => none⟩

/-- In a session a recorded seed is seen and not recorded again; while passwords can be stretched it
is read, and its password is known and not recorded again. -/
structure Kept (c : Configuration) (s : Session) (states : Nat) (secret : Bytes) (password : String)
    (value : Json.Value) : Prop where
  seedExists : c.seedExists.start s = (.ok true, s)
  field_seed : (c.field seedField).start s = (.ok (some value), s)
  recordSeed : ∀ other password', (c.recordSeed other password').start s =
    (.error (.storage (.seedExists c.file)), s)
  seed : s.stretcher = sane states → (c.seed password).start s = (.ok (some secret), s)
  checkPassword : s.stretcher = sane states →
    (c.checkPassword password).start s = (.ok (some true), s)
  recordPassword : s.stretcher = sane states → (c.recordPassword password).start s = (.ok (), s)

end Histories

open scoped Json.Nesting

end HdProvision.Command
