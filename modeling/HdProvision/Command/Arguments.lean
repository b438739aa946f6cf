import HdProvision.Text.Resemblance
import HdProvision.Text.Split

/-!
# Reading a command line

An option is either a flag or takes a value. Long names start with two dashes and are given in full;
a value follows as the next argument, whatever that looks like, or behind an equals sign. Flags may
have a short name of one character; several short names may stand behind one dash. Everything else
is a plain argument, and so is all that follows two dashes.

`read` goes from left to right and stops at the first fault.
-/

set_option autoImplicit false

namespace HdProvision.Command

variable {φ ν : Type}

/-- An option that is known. -/
inductive Known (φ ν : Type)
  | flag (long : String) (short : Option Char) (f : φ)
  | value (long : String) (v : ν)
  deriving Repr

namespace Known

def long : Known φ ν → String
  | flag l _ _ => l
  | value l _ => l

/-- The flag with a short name, if it is this one. -/
def flagOf? (c : Char) : Known φ ν → Option φ
  | flag _ (some s) f => if s = c then some f else none
  | _ => none

end Known

/-- An option that was given. -/
inductive Given (φ ν : Type)
  | flag (f : φ)
  | value (v : ν) (text : String)
  deriving Repr

/-- Why a command line cannot be read. -/
inductive ReadFault
  | unknown (name : String) (close : List String)
  | noValue (name : String)
  | unwantedValue (name : String)
  deriving DecidableEq, Repr

/-- What a command line gives. -/
structure Reading (φ ν : Type) where
  given : List (Given φ ν)
  plain : List String

namespace Reading

/-- The reading with more options in front. -/
def withGiven (os : List (Given φ ν)) (r : Reading φ ν) : Reading φ ν :=
  { r with given := os ++ r.given }

/-- The reading with a plain argument in front. -/
def withPlain (a : String) (r : Reading φ ν) : Reading φ ν := { r with plain := a :: r.plain }

end Reading

/-- What a single argument is. -/
inductive Argument (φ ν : Type)
  | plain
  /-- After it there are only plain arguments. -/
  | stop
  | complete (os : List (Given φ ν))
  /-- An option whose value is the next argument. -/
  | open (name : String) (v : ν)
  | faulty (fault : ReadFault)

/-- The flags that the characters behind one dash stand for. -/
def shortFlags (known : List (Known φ ν)) : List Char → Except ReadFault (List (Given φ ν))
  | [] => .ok []
  | c :: cs =>
    match known.findSome? (Known.flagOf? c) with
    | none => .error (.unknown (String.ofList ['-', c]) [])
    | some f => (shortFlags known cs).map (.flag f :: ·)

/-- The name and the value of an option, if both are one argument. -/
def nameAndValue (arg : List Char) : String × Option String :=
  match Text.cut? '=' arg with
  | some (name, value) => (String.ofList name, some (String.ofList value))
  | none => (String.ofList arg, none)

/-- An option by its long name. -/
def longOption (o : Known φ ν) (value : Option String) : Argument φ ν :=
  match o, value with
  | .flag _ _ f, none => .complete [.flag f]
  | .flag long _ _, some _ => .faulty (.unwantedValue long)
  | .value long v, none => .open long v
  | .value _ v, some text => .complete [.value v text]

/-- What an argument that starts with a dash is. Long names go first, also behind a single dash. -/
def optionArgument (known : List (Known φ ν)) (arg : List Char) : Argument φ ν :=
  let (name, value) := nameAndValue arg
  match known.find? fun o => o.long = name with
  | some o => longOption o value
  | none =>
    if arg.take 2 = ['-', '-'] then
      .faulty (.unknown name (Text.closest name (known.map Known.long)))
    else
      match shortFlags known arg.tail with
      | .ok os => .complete os
      | .error fault => .faulty fault

/-- What an argument is. A single dash is a plain argument. -/
def Argument.ofString (known : List (Known φ ν)) (arg : String) : Argument φ ν :=
  match arg.toList with
  | ['-', '-'] => .stop
  | '-' :: c :: cs => optionArgument known ('-' :: c :: cs)
  | _ => .plain

/-- Reads a command line. Options are looked for behind plain arguments only if these are mixed. -/
def read (known : List (Known φ ν)) (mixed : Bool) :
    List String → Except ReadFault (Reading φ ν)
  | [] => .ok ⟨[], []⟩
  | arg :: rest =>
    match Argument.ofString known arg with
    | .faulty fault => .error fault
    | .stop => .ok ⟨[], rest⟩
    | .plain =>
      if mixed then (read known mixed rest).map (Reading.withPlain arg)
      else .ok ⟨[], arg :: rest⟩
    | .complete os => (read known mixed rest).map (Reading.withGiven os)
    | .open name v =>
      match rest with
      | [] => .error (.noValue name)
      | text :: rest => (read known mixed rest).map (Reading.withGiven [.value v text])

end HdProvision.Command
