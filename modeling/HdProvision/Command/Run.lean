import HdProvision.Command.Help
import HdProvision.Command.Order
import HdProvision.Provision.Report
import HdProvision.Provision.Save

/-!
# Running a command line

`run` carries out what a command line asks for and ends with an exit code: 0 when that was done, 2
when the command line is at fault, 1 or the code of the cause when provisioning stopped. In debug
mode a cause leaves the program as an error, as do causes that nobody foresaw.
-/

set_option autoImplicit false

namespace HdProvision.Command

open Console (Emitter)
open Provision (Error Outcome)

/-- What the surroundings decide for a run. -/
structure Defaults where
  /-- The directory of the configuration file. -/
  configRoot : Path
  /-- The directory of the logs. -/
  logRoot : Path
  /-- Whether a text log is written when no option says so. -/
  fileLogs : Bool
  /-- Whether a JSON log is written when no option says so. -/
  jsonLogs : Bool
  deriving DecidableEq, Repr

/-- Exit code when the operator can mend the command line. -/
def usageCode : Nat := 2

/-- Exit code when a value could not be obtained or stored. -/
def failureCode : Nat := 1

variable {ε : Type}

/-- Prints where errors go, as the console shows it. -/
def echoError (text : String) : Program ε Unit := do
  let s ← get
  Session.printError (s.displayed text.toList)

/-- Tells what is wrong with the command line. -/
def refuse : Refusal → Program Error Nat
  | .nothing => do
    echoError Scope.program.helpText
    return usageCode
  | .usage scope fault => do
    echoError (fault.report scope)
    return usageCode
  | .system e => throw (.store (.system e))

/-- An absolute path to the same place. -/
def absolute (s : Session) (p : Path) : Path := Path.resolve ⟨.root, s.disk.workdir⟩ p

/-- Prints a styled line. -/
def echoStyled (style : Console.Style) (text : String) : Program ε Unit :=
  Session.echo (style.apply text.toList ++ ['\n'])

/-- Gives a notice. -/
def notify (d : Defaults) : Notice → Program ε Unit
  | .version => echoStyled bannerStyle banner
  | .configPath => do echoStyled pathStyle (absolute (← get) d.configRoot).text
  | .loggingPath => do echoStyled pathStyle (absolute (← get) d.logRoot).text
  | .help => Session.echo Scope.program.helpText.toList

/-- How much the operator is told. -/
def Switches.verbosity (w : Switches) : Int := if w.verbose then 2 else if w.quiet then 0 else 1

/-- The logs that are written. -/
structure Logs where
  console : Bool
  text : Bool
  json : Bool
  level : Log.Level
  deriving DecidableEq, Repr

/-- The logs that switches ask for. Debug mode wants all that people read, whatever else is said. -/
def Invocation.logs (i : Invocation) (d : Defaults) : Logs :=
  let w := i.switches
  { console := !w.noLogs && (w.debug || w.consoleLogs)
    text := !w.noLogs && (w.debug || w.fileLogs.getD d.fileLogs)
    json := !w.noLogs && w.jsonLogs.getD d.jsonLogs
    level := if w.debug then .debug else i.logLevel }

/-- Starts a sink if it is wanted. -/
def startSink (wanted : Bool) (k : Log.Kind) (j : Log.Journal) : Log.Journal :=
  if wanted then j.start k else j

/-- The journal with the logs started. -/
def Logs.open (l : Logs) (j : Log.Journal) : Log.Journal :=
  startSink l.json .json (startSink l.text .text (startSink l.console .console
    (j.setThreshold l.level)))

def verboseNotice : String := "Verbose mode is enabled"

variable [Json.Nesting]

/-- Provisions as commanded. -/
def provision (c : Store.Configuration) (e : Emitter) (v : Verb) (i : Invocation) :
    Program Error Outcome :=
  let request : Provision.Request :=
    { dbPassword := i.dbPassword
      language := i.language.identifier
      consumingPath := i.consumingPath
      earning := .text i.earning
      passphrase := i.passphrase
      owner := i.owner
      emitter := e
      interactive := true }
  match v with
  | .generate => Provision.Flow.generate c request i.wordCount.toNat .fresh
  | .recover => Provision.Flow.recover c request i.words

/-- Tells that a value could not be obtained or stored. -/
def reportFault (f : Provision.ConfigFault) : Program ε Nat := do
  echoError ("Error: " ++ f.message ++ "\n")
  return failureCode

/-- Ends a run that stopped. The message may name a rejected phrase, so it is printed and not
logged. -/
def stop (e : Emitter) (v : Verb) (debug : Bool) : Error → Program Error Nat
  | .config f => reportFault f
  | cause =>
    match cause.ending? with
    | none => throw cause
    | some (name, code) => do
      if debug then throw cause
      e.say .red cause.message
      Emitter.note .warn ("Wallet " ++ v.done ++ " stopped: " ++ name)
      return code

/-- Shows an outcome and saves it. -/
def finish (c : Store.Configuration) (e : Emitter) (v : Verb) (json : Bool) (o : Outcome) :
    Program Error Nat := do
  Provision.Report.paint e o json
  (Provision.Save.save e c o v.done json).handle fun
    | .ok () => return 0
    | .error (.storage fault) => reportFault (.storage .seed fault)
    | .error fault => throw (.store fault)

/-- The configuration that a command works on. -/
def Invocation.configuration (i : Invocation) (d : Defaults) : Store.Configuration :=
  .inDirectory (i.configRoot.getD d.configRoot)

/-- Runs a command. Switches that contradict each other end it before anything is done. -/
def execute (d : Defaults) (v : Verb) (i : Invocation) : Program Error Nat := do
  let w := i.switches
  let e : Emitter := ⟨w.verbosity⟩
  if w.verbose && w.quiet then return ← refuse (.usage (.command v) .verboseAndQuiet)
  if w.verbose then e.message (.plain .blue) (some verboseNotice) 1
  if w.debug && w.noLogs then return ← refuse (.usage (.command v) .debugWithoutLogs)
  Session.record fun j => ((i.logs d).open j, "")
  let c := i.configuration d
  (provision c e v i).handle fun
    | .ok o => finish c e v w.json o
    | .error cause => stop e v w.debug cause

/-- Carries out a command line. -/
def run (d : Defaults) (args : List String) : Program Error Nat := do
  let s ← get
  match Order.ofArguments s.environment args with
  | .error r => refuse r
  | .ok (.notice n) => do
    notify d n
    return 0
  | .ok (.help v) => do
    Session.echo (Scope.command v).helpText.toList
    return 0
  | .ok (.run v i) => execute d v i

end HdProvision.Command
