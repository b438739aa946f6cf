import HdProvision.Json.Writer
import HdProvision.Text.Template

/-!
# Log events

An event is a template with its fields; its text is what the template stands for. The text of a
message is turned into a template that names no field, so that any message can be logged.
-/

set_option autoImplicit false

namespace HdProvision.Log

/-- How important an event is. -/
inductive Level
  | debug
  | info
  | warn
  | error
  | critical
  deriving DecidableEq, Repr

namespace Level

def all : List Level := [.debug, .info, .warn, .error, .critical]

def name : Level → String
  | debug => "debug"
  | info => "info"
  | warn => "warn"
  | error => "error"
  | critical => "critical"

def rank : Level → Nat
  | debug => 0
  | info => 1
  | warn => 2
  | error => 3
  | critical => 4

/-- Whether an event of level `l` passes the threshold `t`. -/
def passes (l t : Level) : Bool := t.rank ≤ l.rank

def ofName? (s : String) : Option Level := all.find? fun l => l.name = s

end Level

/-- Something that happened. -/
structure Event where
  level : Level
  source : String
  template : String
  fields : List (String × String)
  deriving DecidableEq, Repr

namespace Event

/-- The text of a message that may be missing. -/
def messageText (message : Option String) : String := message.getD "None"

/-- The event of a message, which is logged as it is, whatever fields go with it. -/
def ofMessage (level : Level) (source : String) (message : Option String)
    (fields : List (String × String) := []) : Event :=
  ⟨level, source, Text.Template.escape (messageText message), fields⟩

/-- The event of a message that is the only field of a template. -/
def ofField (level : Level) (source : String) (message : Option String) : Event :=
  ⟨level, source, "\x7bmessage\x7d", [("message", messageText message)]⟩

/-- The text of an event. A template may name its fields and nothing more: one with a conversion, a
format, an attribute or a call, which a template of a foreign event may have, and a text that is no
template at all have no text here. The program itself logs no such template. -/
def text (e : Event) : String := (Text.Template.render? e.template e.fields).getD ""

/-- A line break goes on with a tab. -/
def continued (cs : List Char) : List Char :=
  cs.flatMap fun c => if c = '\n' then ['\n', '\t'] else [c]

/-- The line of an event in a log that people read. An event without text has none. -/
def line (stamp : String) (e : Event) : String :=
  if e.text = "" then ""
  else
    String.ofList (continued
      (stamp ++ " [" ++ e.source ++ "#" ++ e.level.name ++ "] " ++ e.text).toList) ++ "\n"

/-- The event as a JSON value, without its fields. -/
def record (e : Event) : Json.Value :=
  let entry (name value : String) : Json.Units × Json.Value :=
    (Json.Units.ofString name, .text (Json.Units.ofString value))
  .object [entry "level" e.level.name, entry "source" e.source, entry "template" e.template]

/-- The lines of the event in a log of JSON values. -/
def jsonLines (e : Event) : String := String.ofList (Json.write e.record) ++ "\n"

end Event
end HdProvision.Log
