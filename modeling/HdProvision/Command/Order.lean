import HdProvision.Command.Invocation
import HdProvision.Command.Usage

/-!
# Orders

What a whole command line asks for: a notice, the help of a command, or to run it. A request for
help or a notice counts before any value is looked at; the first one given wins.
-/

set_option autoImplicit false

namespace HdProvision.Command

open Settings (Environment)

/-- What a command line asks for. -/
inductive Order
  | notice (n : Notice)
  | help (v : Verb)
  | run (v : Verb) (i : Invocation)

/-- Why a command line asks for nothing. -/
inductive Refusal
  /-- There is nothing at all on it. -/
  | nothing
  | usage (scope : Scope) (fault : UsageFault)
  /-- It names something that the system cannot be asked about. -/
  | system (e : Store.SystemError)

/-- Reads what follows the name of a command. -/
def Verb.order (v : Verb) (env : Environment) (args : List String) : Except Refusal Order :=
  let fail (f : UsageFault) : Except Refusal Order := .error (.usage (.command v) f)
  match read v.options true args with
  | .error fault => fail (.unreadable fault)
  | .ok r =>
    if (flags r.given).contains .help then .ok (.help v)
    else
      match Invocation.ofGiven env r.given with
      | .error (s, .invalid message) => fail (.invalid s message)
      | .error (_, .system e) => .error (.system e)
      | .ok i => if r.plain = [] then .ok (.run v i) else fail (.extra r.plain)

/-- The names of the commands that an unknown name may stand for. -/
def closeCommands (name : String) : List String := Text.closest name (Verb.all.map Verb.name)

/-- Reads a name that is no command, with all that follows it. A name that looks like an option is
read as one. -/
def misnamed (name : String) (args : List String) : Except Refusal Order :=
  let unknown : Except Refusal Order :=
    .error (.usage .program (.unknownCommand name (closeCommands name)))
  if name.toList.head? = some '-' then
    match read noticeOptions false (name :: args) with
    | .error fault => .error (.usage .program (.unreadable fault))
    | .ok r =>
      match flags r.given with
      | n :: _ => .ok (.notice n)
      | [] => unknown
  else unknown

/-- What a command line asks for. -/
def Order.ofArguments (env : Environment) (args : List String) : Except Refusal Order :=
  if args = [] then .error .nothing
  else
    match read noticeOptions false args with
    | .error fault => .error (.usage .program (.unreadable fault))
    | .ok r =>
      match flags r.given, r.plain with
      | n :: _, _ => .ok (.notice n)
      | [], [] => .error (.usage .program .noCommand)
      | [], name :: rest =>
        match Verb.ofName? name with
        | some v => v.order env rest
        | none => misnamed name rest

end HdProvision.Command
