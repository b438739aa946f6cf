import HdProvision.Command.Run
import Std.Time

/-!
# The program

Brings the system and the library together: the command line, the environment, random octets, the
input and the configuration file go into a session; what the session printed, logged and stored
comes out of it.

A command line is carried out anew whenever another line was typed. As long as it would read a line
that nobody typed, only what it prints up to there is shown. Nothing is stored before it reads no
more, and until then passwords are stretched at the least cost, since no question depends on that.

The program runs without privileges, so it gives no file away.
-/

set_option autoImplicit false

namespace HdProvision.Main

open Store (Disk Node Place)
open scoped Json.Nesting

/-- The variables that take part in a run. -/
def variableNames : List String :=
  [Command.Invocation.mnemonicVariable, Command.Invocation.passphraseVariable,
    Provision.Collect.dbPasswordVariable, "WALLETFORGE_FILE_LOGS", "WALLETFORGE_JSON_LOGS"]

def environment : IO Settings.Environment := do
  let found ← variableNames.mapM fun name => do return (← IO.getEnv name).map fun v => (name, v)
  return found.filterMap id

/-- A directory named by a variable, or one below a directory of the user. -/
def directory (name base userBase : String) (entries : List String) : IO Path := do
  match ← IO.getEnv name with
  | some text => return Path.ofString text
  | none =>
    let home := (← IO.getEnv "HOME").getD "/"
    let start := (← IO.getEnv base).getD (home ++ userBase)
    return entries.foldl Path.child (Path.ofString start)

/-- What the surroundings decide; the error is a text that is no truth value. -/
def defaults (env : Settings.Environment) : IO (Except String Command.Defaults) := do
  let configRoot ←
    directory "WALLETFORGE_CONFIG_ROOT" "XDG_DATA_HOME" "/.local/share" ["walletforge"]
  let logRoot ←
    directory "WALLETFORGE_USER_LOG_DIR" "XDG_CACHE_HOME" "/.cache" ["walletforge", "log"]
  return do
    let fileLogs ← Settings.Flag.ofVariable env "WALLETFORGE_FILE_LOGS" true
    let jsonLogs ← Settings.Flag.ofVariable env "WALLETFORGE_JSON_LOGS" false
    return ⟨configRoot, logRoot, fileLogs, jsonLogs⟩

def placeText (p : Place) : String := (Path.mk .root p).text

/-- What the system has at a place. -/
def nodeAt (p : Place) : IO (Option Node) := do
  let file := (← IO.currentDir) / placeText p
  if ← file.isDir then return some .directory
  else if ← file.pathExists then
    return some (.file (← IO.FS.readBinFile file).data.toList Disk.privateMode)
  else return none

/-- The places on the way along some names. -/
def placesFrom (p : Place) : List (List Char) → List Place
  | [] => [p]
  | name :: rest => p :: placesFrom (Disk.step p name) rest

/-- The disk as far as a file and the way to it are concerned. -/
def diskAround (file : Path) : IO Disk := do
  let workdir := (Path.ofString (← IO.currentDir).toString).parts
  let start := if file.anchor = .here then workdir else []
  let places := (placesFrom [] workdir ++ placesFrom start file.parts).eraseDups
  let nodes ← places.mapM fun p => do return (← nodeAt p).map fun n => (p, n)
  return ⟨nodes.filterMap id, workdir⟩

/-- Stores what a disk has beside another one. -/
def store (former new : Disk) : IO Unit := do
  for (p, n) in new.nodes do
    if former.nodes.lookup p ≠ some n then
      let name := placeText p
      match n with
      | .directory =>
        IO.FS.createDir name
        IO.setAccessRights name { user := { read := true, write := true, execution := true } }
      | .file content _ =>
        if (former.nodes.lookup p).isNone then
          IO.FS.writeBinFile name ByteArray.empty
          IO.setAccessRights name { user := { read := true, write := true } }
        IO.FS.writeBinFile name ⟨content.toArray⟩

/-- Adds to a log. -/
def addToLog (root : Path) (name : String) (content : Bytes) : IO Unit := do
  IO.FS.createDirAll root.text
  let log ← IO.FS.Handle.mk (root.child name).text .append
  log.write ⟨content.toArray⟩

def addToLogs (root : Path) (files : Log.Files) : IO Unit := do
  if let some content := files.text then addToLog root "walletforge.log" content
  if let some events := files.json then
    addToLog root "walletforge.json" (Utf8.encode (String.join (events.map Log.Event.jsonLines)))

/-- A line that nobody types. -/
def untyped : String := "\x00"

/-- What two outputs start with alike, up to the line breaks after it. -/
def sharedOutput (a b : String) : List Char :=
  let shared := a.toList.take (Text.commonStart a.toList b.toList)
  (shared.reverse.dropWhile (· = '\n')).reverse

/-- A command line and what it is carried out on, all but the input. -/
structure Job where
  defaults : Command.Defaults
  args : List String
  session : Session

/-- Carries the command line out. -/
def Job.run (j : Job) (s : Vault.Stretcher) (input : List String) :
    Except Provision.Error Nat × Session :=
  (Command.run j.defaults j.args).start { j.session with stretcher := s, input := input }

/-- A stretcher of the least cost. -/
def quickStretcher : Vault.Stretcher := ⟨2, fun _ => none⟩

/-- Prints all but what was printed before. -/
def printAfter (count : Nat) (text : String) : IO Unit := do
  IO.print (String.ofList (text.toList.drop count))
  (← IO.getStdout).flush

/-- Reads lines as long as they are asked for. The result is the input and how much was printed. -/
partial def converse (j : Job) (input : List String) (printed : Nat) : IO (List String × Nat) := do
  let (_, more) := j.run quickStretcher (input ++ [untyped])
  if more.input.contains untyped then return (input, printed)
  let (_, ended) := j.run quickStretcher input
  let shown := sharedOutput more.output ended.output
  printAfter printed (String.ofList shown)
  let line ← (← IO.getStdin).getLine
  if line.isEmpty then return (input, shown.length)
  converse j (input ++ [line]) shown.length

/-- The program with its defaults. -/
def start (env : Settings.Environment) (d : Command.Defaults) (args : List String) :
    IO UInt32 := do
  let file := match Command.Order.ofArguments env args with
    | .ok (.run _ i) => (i.configuration d).file
    | _ => d.configRoot
  let disk ← diskAround file
  let random := (← IO.getRandomBytes 4096).data
  let now ← Std.Time.DateTime.now
  let colors ← (← IO.getStdout).isTty
  let session : Session :=
    { randomAt := fun i => random.getD i 0
      drawn := 0
      stretcher := .full
      euid := 1
      environment := env
      stamp := now.format "uuuu-MM-dd'T'HH:mm:ssZ"
      input := []
      colors := colors
      output := ""
      errors := ""
      journal := .initial
      disk := disk
      handedOver := []
      phraseRequests := [] }
  let job : Job := ⟨d, args, session⟩
  let (input, printed) ← converse job [] 0
  let (ending, s) := job.run .full input
  store disk s.disk
  addToLogs d.logRoot s.journal.files
  printAfter printed s.output
  IO.eprint s.errors
  match ending with
  | .ok code => return code.toUInt32
  | .error cause =>
    IO.eprintln cause.message
    return 1

end HdProvision.Main

/-- Runs the program. -/
def main (args : List String) : IO UInt32 := do
  let env ← HdProvision.Main.environment
  match ← HdProvision.Main.defaults env with
  | .ok d => HdProvision.Main.start env d args
  | .error word =>
    IO.eprintln (HdProvision.Settings.Flag.invalidMessage word)
    return 1
