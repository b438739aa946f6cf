import HdProvision.Console.Dialog
import HdProvision.Console.Style
import HdProvision.Log.Journal
import HdProvision.Mnemonic.Language
import HdProvision.Settings.Flag
import HdProvision.Store.Disk
import HdProvision.Vault.Sealed

/-!
# Sessions

A session is everything that a program reads and changes: random octets, the environment, the
console, the journal and the disk. A program is a function of the session that may fail; what it did
before it failed stays done.
-/

set_option autoImplicit false

namespace HdProvision

/-- The world around a program. -/
structure Session where
  /-- The random octets, by the order in which they are drawn. -/
  randomAt : Nat → UInt8
  /-- How many random octets were drawn. -/
  drawn : Nat
  stretcher : Vault.Stretcher
  /-- The effective user. -/
  euid : Int
  environment : Settings.Environment
  /-- What time stamps say. -/
  stamp : String
  /-- The lines of the input that were not read. -/
  input : List String
  /-- Whether the console shows colors. -/
  colors : Bool
  output : String
  errors : String
  journal : Log.Journal
  disk : Store.Disk
  /-- The files that were given away, with their new user and group. -/
  handedOver : List (Path × Int × Int)
  /-- The phrases that were asked for: the word count and the language. -/
  phraseRequests : List (Int × Mnemonic.Language)

/-- A program with a result, or with an error, that works on a session. -/
abbrev Program (ε α : Type) := ExceptT ε (StateM Session) α

namespace Program

variable {ε δ α β : Type}

/-- Runs a program. -/
def start (p : Program ε α) (s : Session) : Except ε α × Session := ExceptT.run p s

/-- The program with its errors seen as others. -/
def mapError (f : ε → δ) (p : Program ε α) : Program δ α := ExceptT.adapt f p

/-- Gives a value or fails. -/
def ofExcept (r : Except ε α) : Program ε α := ExceptT.mk (pure r)

/-- Goes on with what came of another program, whether it failed or not. -/
def handle (p : Program ε α) (f : Except ε α → Program δ β) : Program δ β :=
  ExceptT.mk (ExceptT.run p >>= fun r => ExceptT.run (f r))

/-- Runs programs one after another, up to the first that fails. -/
def sequence : List (Program ε Unit) → Program ε Unit
  | [] => pure ()
  | p :: ps => do
    p
    sequence ps

end Program

namespace Session

variable {ε : Type}

/-- The next random octets. -/
def draw (size : Nat) : Program ε Bytes := do
  let s ← get
  set { s with drawn := s.drawn + size }
  return (List.range size).map fun i => s.randomAt (s.drawn + i)

/-- Prints text as it is. -/
def print (text : String) : Program ε Unit := modify fun s => { s with output := s.output ++ text }

/-- Prints text where errors go. -/
def printError (text : String) : Program ε Unit :=
  modify fun s => { s with errors := s.errors ++ text }

/-- A text as the console of a session shows it. -/
def displayed (s : Session) (cs : List Char) : String := String.ofList (Console.shown s.colors cs)

/-- Prints text as the console shows it. -/
def echo (cs : List Char) : Program ε Unit := do
  let s ← get
  print (s.displayed cs)

/-- Has a dialog over the input. -/
def converse {α : Type} (dialog : List String → Console.Dialog α) : Program ε α := do
  let s ← get
  let d := dialog s.input
  set { s with input := d.rest, output := s.output ++ d.printed }
  return d.result

/-- Changes the journal; what the change prints goes to the output. -/
def record (change : Log.Journal → Log.Journal × String) : Program ε Unit :=
  modify fun s =>
    let (journal, printed) := change s.journal
    { s with journal := journal, output := s.output ++ printed }

/-- Logs a message. -/
def note (level : Log.Level) (source message : String) : Program ε Unit := do
  let s ← get
  record (Log.Journal.note s.stamp level source (some message))

/-- The value of a variable of the environment. -/
def lookup (name : String) : Program ε (Option String) := do
  let s ← get
  return s.environment.lookup name

end Session
end HdProvision
