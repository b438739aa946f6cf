import HdProvision.Bytes.Utf8
import HdProvision.Log.Event

/-!
# The journal

The journal hands every event to its observers, in the order in which they were attached. Besides,
it keeps a register of the sinks that it was told to start, with at most one of each kind; a sink
passes only events at or above the threshold. A sink that writes to a file does so at a place of its
own, which starts at the end of the file: two sinks of one file write over each other.

`pausedWhile` takes all observers away while something runs, and puts them back when it ends well.
-/

set_option autoImplicit false

namespace HdProvision.Log

/-- A kind of sink. -/
inductive Kind
  | console
  | text
  | json
  deriving DecidableEq, Repr

namespace Kind

def all : List Kind := [.console, .text, .json]

def name : Kind → String
  | console => "console"
  | text => "text"
  | json => "json"

def ofName? (s : String) : Option Kind := all.find? fun k => k.name = s

end Kind

/-- What an observer does with events. A place in the text log counts octets, one in the other log
counts records. -/
inductive Target
  | collector
  | console
  | text (place : Nat)
  | json (place : Nat)
  deriving DecidableEq, Repr

/-- An observer, told apart from others by its number. -/
structure Observer where
  id : Nat
  target : Target
  deriving DecidableEq, Repr

/-- The files that sinks write; a file is there once a sink of its kind was started. -/
structure Files where
  text : Option Bytes
  json : Option (List Event)
  deriving DecidableEq, Repr

/-- All that there is about logging. -/
structure Journal where
  threshold : Level
  observers : List Observer
  running : List (Kind × Nat)
  nextId : Nat
  collected : List Event
  files : Files
  deriving DecidableEq, Repr

/-- Writes over what stands at a place. -/
def overwrite {α : Type} (old : List α) (place : Nat) (new : List α) : List α :=
  old.take place ++ new ++ old.drop (place + new.length)

namespace Journal

/-- A journal whose only observer collects everything. -/
def initial : Journal := ⟨.info, [⟨0, .collector⟩], [], 1, [], ⟨none, none⟩⟩

def setThreshold (j : Journal) (l : Level) : Journal := { j with threshold := l }

/-- Sets the threshold to the level with a name. A name that no level has is given back. -/
def setLevel (name : String) (j : Journal) : Except String Unit × Journal :=
  match Level.ofName? name with
  | some l => (.ok (), j.setThreshold l)
  | none => (.error name, j)

/-- Attaches an observer behind all others. -/
def attach (j : Journal) (o : Observer) : Journal := { j with observers := j.observers ++ [o] }

/-- Detaches the observer with a number. -/
def detach (j : Journal) (id : Nat) : Journal :=
  { j with observers := j.observers.filter fun o => o.id ≠ id }

/-- The target of a new sink, and the files with the file of that kind. -/
def openTarget (files : Files) : Kind → Target × Files
  | .console => (.console, files)
  | .text =>
    let content := files.text.getD []
    (.text content.length, { files with text := some content })
  | .json =>
    let records := files.json.getD []
    (.json records.length, { files with json := some records })

/-- Starts a sink of a kind, unless one is registered. -/
def start (j : Journal) (kind : Kind) : Journal :=
  if (j.running.lookup kind).isSome then j
  else
    let (target, files) := openTarget j.files kind
    { j with
      observers := j.observers ++ [⟨j.nextId, target⟩]
      running := j.running ++ [(kind, j.nextId)]
      nextId := j.nextId + 1
      files := files }

/-- Stops the registered sink of a kind. -/
def stop (j : Journal) (kind : Kind) : Journal :=
  match j.running.lookup kind with
  | none => j
  | some id => { j.detach id with running := j.running.filter fun r => r.1 ≠ kind }

/-- Stops all registered sinks. -/
def stopAll (j : Journal) : Journal := (j.running.map (·.1)).foldl stop j

/-- The kinds of the registered sinks, in the order of their start. -/
def kinds (j : Journal) : List Kind := j.running.map (·.1)

/-- What an event changes at one observer: the observer, what was collected, the files, and what is
printed. -/
structure Delivery where
  observer : Observer
  collected : List Event
  files : Files
  printed : String

/-- Hands an event to one observer. A file of a sink only grows: that a long one is set aside for a
new one is left out, so this is what happens as long as the files stay below that length. -/
def deliver (threshold : Level) (stamp : String) (e : Event) (o : Observer) (collected : List Event)
    (files : Files) : Delivery :=
  match o.target with
  | .collector => ⟨o, collected ++ [e], files, ""⟩
  | .console =>
    ⟨o, collected, files, if e.level.passes threshold then e.line stamp else ""⟩
  | .text place =>
    if e.level.passes threshold then
      let new := Utf8.encode (e.line stamp)
      let content := overwrite (files.text.getD []) place new
      ⟨{ o with target := .text (place + new.length) }, collected,
        { files with text := some content }, ""⟩
    else ⟨o, collected, files, ""⟩
  | .json place =>
    if e.level.passes threshold then
      let records := overwrite (files.json.getD []) place [e]
      ⟨{ o with target := .json (place + 1) }, collected, { files with json := some records }, ""⟩
    else ⟨o, collected, files, ""⟩

/-- Hands an event to observers, one after another. -/
def deliverAll (threshold : Level) (stamp : String) (e : Event) :
    List Observer → List Event → Files → List Observer × List Event × Files × String
  | [], collected, files => ([], collected, files, "")
  | o :: os, collected, files =>
    let d := deliver threshold stamp e o collected files
    let (os, collected, files, printed) := deliverAll threshold stamp e os d.collected d.files
    (d.observer :: os, collected, files, d.printed ++ printed)

/-- Hands an event to all observers; the second part of the result is what is printed. -/
def publish (stamp : String) (e : Event) (j : Journal) : Journal × String :=
  let (observers, collected, files, printed) :=
    deliverAll j.threshold stamp e j.observers j.collected j.files
  ({ j with observers := observers, collected := collected, files := files }, printed)

/-- Logs a message of the program itself, with fields of its own, if its level reaches the
threshold. -/
def emit (stamp : String) (level : Level) (source : String) (message : Option String)
    (fields : List (String × String)) (j : Journal) : Journal × String :=
  if level.passes j.threshold then publish stamp (Event.ofMessage level source message fields) j
  else (j, "")

/-- Logs a message that has no fields. -/
def note (stamp : String) (level : Level) (source : String) (message : Option String)
    (j : Journal) : Journal × String :=
  emit stamp level source message [] j

/-- The journal without observers and registered sinks. -/
def silenced (j : Journal) : Journal := { j with observers := [], running := [] }

/-- The journal with the observers and the register of a former one put back. Observers that are
still attached stay, in front of them. -/
def restored (former j : Journal) : Journal :=
  { j with observers := j.observers ++ former.observers, running := former.running }

/-- Runs `body` without the observers there are. They come back only if it ends without an error. -/
def pausedWhile {ε α : Type} (body : Journal → Except ε α × Journal) (j : Journal) :
    Except ε α × Journal :=
  match body j.silenced with
  | (.ok a, j') => (.ok a, restored j j')
  | (.error e, j') => (.error e, j')

end Journal
end HdProvision.Log
