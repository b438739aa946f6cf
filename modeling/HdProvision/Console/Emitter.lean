import HdProvision.Session.Basic

/-!
# The emitter

What the operator is told. A message is also logged; what is echoed is not; a secret is printed
whatever the verbosity and is never logged.
-/

set_option autoImplicit false

namespace HdProvision.Console

/-- Tells the operator as much as its verbosity allows. -/
structure Emitter where
  verbosity : Int
  deriving DecidableEq, Repr

namespace Emitter

variable {ε : Type}

/-- The source of its log events. -/
def source : String := "stdoutemitter"

def defaultColor : Color := .white

/-- The end of what is printed. -/
def ending (newline : Bool) : List Char := if newline then ['\n'] else []

/-- Prints a text with a style. A text that is missing has none. -/
def styled (style : Style) (text : Option String) (newline : Bool) : Program ε Unit :=
  Session.echo (((text.map fun t => style.apply t.toList).getD []) ++ ending newline)

/-- Whether something that asks for some verbosity is printed. -/
def prints (e : Emitter) (needed : Int) : Bool := needed ≤ e.verbosity

def echo (e : Emitter) (style : Style) (text : Option String) (newline : Bool) (needed : Int) :
    Program ε Unit :=
  if e.prints needed then styled style text newline else pure ()

/-- Prints and logs a message. Details are logged for those who look for errors. -/
def message (e : Emitter) (style : Style) (text : Option String) (needed : Int) :
    Program ε Unit := do
  e.echo style text true needed
  let s ← get
  Session.record (Log.Journal.note s.stamp (if 1 < needed then .debug else .info) source text)

/-- Prints a secret. -/
def secret (color : Option Color) (text : Option String) (newline : Bool) : Program ε Unit :=
  styled ⟨color, none⟩ text newline

/-- Prints a banner as it is. -/
def banner (e : Emitter) (text : Option String) : Program ε Unit :=
  if 1 ≤ e.verbosity then Session.echo ((text.map String.toList).getD [] ++ ['\n']) else pure ()

/-- Greets with a banner, unless there is none to show. -/
def greet (e : Emitter) (text : Option String) : Program ε Unit :=
  if text.getD "" = "" then pure () else e.banner text

/-- Prints and logs an error. -/
def error (e : Emitter) (text : String) : Program ε Unit := do
  if 1 ≤ e.verbosity then styled ⟨some .red, none⟩ (some text) true
  Session.note .error source text

/-- Echoes a line in plain weight. -/
def say (e : Emitter) (color : Color) (text : String) : Program ε Unit :=
  e.echo (.plain color) (some text) true 0

/-- Logs without printing. -/
def note (level : Log.Level) (text : String) : Program ε Unit := Session.note level source text

/-- What `say` prints, with its line break. -/
def said (e : Emitter) (colors : Bool) (color : Color) (text : String) : String :=
  if e.prints 0 then
    String.ofList (shown colors ((Style.plain color).apply text.toList ++ ['\n']))
  else ""

end Emitter

/-- A color that nobody knows. -/
structure UnknownColor where
  name : String
  deriving DecidableEq, Repr

def UnknownColor.message (u : UnknownColor) : String :=
  "Unknown color " ++ Text.Quoted.quote u.name

/-- A color by its name. -/
def colorNamed (name : String) : Except UnknownColor Color :=
  match Color.ofName? name with
  | some c => .ok c
  | none => .error ⟨name⟩

/-- The color that a name stands for where an empty name stands for the usual one. -/
def colorOrDefault (name : Option String) : Except UnknownColor Color :=
  match name with
  | none | some "" => .ok Emitter.defaultColor
  | some n => colorNamed n

/-- Something to emit, with colors by name. -/
inductive Request
  | message (text color : Option String) (bold : Option Bool) (needed : Int)
  | echo (text color : Option String) (bold : Option Bool) (newline : Bool) (needed : Int)
  | secret (text color : Option String) (newline : Bool)
  | banner (text : Option String)
  | error (text : String)
  deriving DecidableEq, Repr

/-- The color of a text; a name is looked at only if there is a text to print. -/
def Request.color? (wanted : Bool) (color : Except UnknownColor Color) :
    Program UnknownColor Color :=
  if wanted then Program.ofExcept color else pure Emitter.defaultColor

/-- Emits what is asked for. -/
def Emitter.perform (e : Emitter) : Request → Program UnknownColor Unit
  | .message text color bold needed => do
    let c ← Request.color? (e.prints needed && text.isSome) (colorOrDefault color)
    e.message ⟨some c, bold⟩ text needed
  | .echo text color bold newline needed => do
    let c ← Request.color? (e.prints needed && text.isSome) (colorOrDefault color)
    e.echo ⟨some c, bold⟩ text newline needed
  | .secret text none newline => Emitter.secret none text newline
  | .secret text (some color) newline => do
    let c ← Request.color? text.isSome (colorNamed color)
    Emitter.secret (some c) text newline
  | .banner text => e.banner text
  | .error text => e.error text

end HdProvision.Console
