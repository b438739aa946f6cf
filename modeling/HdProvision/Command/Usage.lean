import HdProvision.Command.Options
import HdProvision.Text.Quoted

/-!
# Usage errors

What is wrong with a command line, and how the operator is told. Most faults are told together with
the usage of what was to be run.
-/

set_option autoImplicit false

namespace HdProvision.Command

/-- The name of the program. -/
def programName : String := "walletforge"

/-- What a command line is read for: the program, or one command of it. -/
inductive Scope
  | program
  | command (v : Verb)
  deriving DecidableEq, Repr

namespace Scope

/-- What is typed to run it. -/
def title : Scope → String
  | program => programName
  | command v => programName ++ " " ++ v.name

/-- How it is used. -/
def usage (s : Scope) : String :=
  "Usage: " ++ s.title ++ " [OPTIONS]" ++
    match s with
    | program => " COMMAND [ARGS]..."
    | command _ => ""

/-- Where help is found. -/
def hint (s : Scope) : String := "Try '" ++ s.title ++ " --help' for help."

end Scope

/-- What is wrong with a command line. -/
inductive UsageFault
  | unreadable (fault : ReadFault)
  | invalid (s : Setting) (message : String)
  | extra (args : List String)
  | noCommand
  | unknownCommand (name : String) (close : List String)
  | verboseAndQuiet
  | debugWithoutLogs
  deriving DecidableEq, Repr

/-- What is added about names that may have been meant. -/
def suggestion : List String → String
  | [] => ""
  | [name] => " Did you mean " ++ Text.Quoted.quote name ++ "?"
  | names => " (Did you mean one of: " ++ Text.join ", " (names.map Text.Quoted.quote) ++ "?)"

def ReadFault.message : ReadFault → String
  | unknown name close =>
    "No such option " ++ Text.Quoted.quote name ++ "." ++ suggestion close
  | noValue name => "Option " ++ Text.Quoted.quote name ++ " requires an argument."
  | unwantedValue name => "Option " ++ Text.Quoted.quote name ++ " does not take a value."

namespace UsageFault

def message : UsageFault → String
  | unreadable fault => fault.message
  | invalid s message => "Invalid value for '" ++ s.long ++ "': " ++ message
  | extra [arg] => "Got unexpected extra argument (" ++ arg ++ ")"
  | extra args => "Got unexpected extra arguments (" ++ Text.join " " args ++ ")"
  | noCommand => "Missing command."
  | unknownCommand name close =>
    "No such command " ++ Text.Quoted.quote name ++ "." ++ suggestion close
  | verboseAndQuiet =>
    "--verbose and --quiet are mutually exclusive and cannot be used at the same time."
  | debugWithoutLogs => "--debug and --no-logs cannot be used at the same time."

/-- Whether the usage is told, too. An option with a value too few or too many speaks for itself. -/
def tellsUsage : UsageFault → Bool
  | unreadable (.noValue _) | unreadable (.unwantedValue _) => false
  | _ => true

/-- Everything that the operator is told. -/
def report (scope : Scope) (f : UsageFault) : String :=
  (if f.tellsUsage then scope.usage ++ "\n" ++ scope.hint ++ "\n\n" else "") ++
    "Error: " ++ f.message ++ "\n"

end UsageFault
end HdProvision.Command
