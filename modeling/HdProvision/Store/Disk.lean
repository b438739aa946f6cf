import HdProvision.Bytes.Utf8
import HdProvision.Text.Path
import HdProvision.Text.Quoted

/-!
# The disk

Directories, and files with their octets and permissions, by their place: the names on the way from
the root. A path is followed name by name, and every name but the last has to be a directory. Names
and whole paths have a greatest length. Everything belongs to the user who works on the disk, so of
the permissions those of the owner count.
-/

set_option autoImplicit false

namespace HdProvision.Store

/-- The names on the way from the root. -/
abbrev Place := List (List Char)

/-- What stands at a place. -/
inductive Node
  | directory
  | file (content : Bytes) (mode : Nat)
  deriving DecidableEq, Repr

/-- All that is on the disk, and the directory that paths start from. -/
structure Disk where
  nodes : List (Place × Node)
  workdir : Place
  deriving DecidableEq, Repr

/-- Why the system refused something. -/
inductive SystemFault
  | noEntry
  | denied
  | exists
  | notDirectory
  | isDirectory
  | nameTooLong
  /-- A path ends for the system at a zero octet, so it is not asked about one that holds any. -/
  | zeroOctet
  deriving DecidableEq, Repr

namespace SystemFault

/-- The number of a refusal; what the system is not asked about has none. -/
def code? : SystemFault → Option Nat
  | noEntry => some 2
  | denied => some 13
  | .exists => some 17
  | notDirectory => some 20
  | isDirectory => some 21
  | nameTooLong => some 36
  | zeroOctet => none

def text : SystemFault → String
  | noEntry => "No such file or directory"
  | denied => "Permission denied"
  | .exists => "File exists"
  | notDirectory => "Not a directory"
  | isDirectory => "Is a directory"
  | nameTooLong => "File name too long"
  | zeroOctet => "embedded null byte"

end SystemFault

/-- A refusal and the path it is about. -/
structure SystemError where
  fault : SystemFault
  path : Path
  deriving DecidableEq, Repr

def SystemError.message (e : SystemError) : String :=
  match e.fault.code? with
  | some code =>
    "[Errno " ++ toString code ++ "] " ++ e.fault.text ++ ": " ++ Text.Quoted.quote e.path.text
  | none => e.fault.text

namespace Disk

/-- What stands at a place. The root is a directory. -/
def node? (d : Disk) (p : Place) : Option Node :=
  if p = [] then some .directory else d.nodes.lookup p

/-- Goes one name on. -/
def step (p : Place) (name : List Char) : Place :=
  if name = ['.', '.'] then p.dropLast else p ++ [name]

/-- How many octets a name may have. -/
def maxNameSize : Nat := 255

/-- How many octets a whole path may have. -/
def maxPathSize : Nat := 4095

/-- The octets of a text. -/
def size (cs : List Char) : Nat := (Utf8.encodeChars cs).length

/-- Follows names from a place; all but the last have to be directories. The length of a name counts
when its turn comes. -/
def walk (d : Disk) (p : Place) : List (List Char) → Except SystemFault Place
  | [] => .ok p
  | name :: rest =>
    if maxNameSize < size name then .error .nameTooLong
    else if rest = [] then .ok (step p name)
    else
      match d.node? (step p name) with
      | none => .error .noEntry
      | some (.file _ _) => .error .notDirectory
      | some .directory => walk d (step p name) rest

/-- The place that a path leads to. -/
def place (d : Disk) (p : Path) : Except SystemFault Place :=
  if p.chars.contains '\x00' then .error .zeroOctet
  else if maxPathSize < size p.chars then .error .nameTooLong
  else d.walk (if p.anchor = .here then d.workdir else []) p.parts

/-- What a path leads to. -/
def find? (d : Disk) (p : Path) : Option Node :=
  match d.place p with
  | .ok q => d.node? q
  | .error _ => none

/-- What the system says about a path: what stands there, if anything. When the way to it ends early
there is nothing, but a name that is too long gets no answer. -/
def look (d : Disk) (p : Path) : Except SystemError (Option Node) :=
  match d.place p with
  | .ok q => .ok (d.node? q)
  | .error .nameTooLong => .error ⟨.nameTooLong, p⟩
  | .error _ => .ok none

def isDirectory (d : Disk) (p : Path) : Bool := d.find? p = some .directory

/-- Puts something at a place, instead of what stood there. -/
def put : List (Place × Node) → Place → Node → List (Place × Node)
  | [], p, n => [(p, n)]
  | (q, m) :: rest, p, n => if q = p then (p, n) :: rest else (q, m) :: put rest p n

/-- Makes a directory. -/
def makeDirectory (d : Disk) (p : Path) : Except SystemFault Disk :=
  match d.place p with
  | .error fault => .error fault
  | .ok q =>
    match d.node? q with
    | some _ => .error .exists
    | none => .ok { d with nodes := put d.nodes q .directory }

/-- Makes a directory. If `lenient`, it may be there already. -/
def ensureDirectory (d : Disk) (lenient : Bool) (p : Path) : Except SystemError Unit × Disk :=
  match d.makeDirectory p with
  | .ok d => (.ok (), d)
  | .error fault => (if lenient && d.isDirectory p then .ok () else .error ⟨fault, p⟩, d)

/-- Makes a directory, and first those that it needs. `fuel` bounds how many are made; a path has no
more than it has parts. What was made stays when a later one cannot be made. -/
def makeDirectoriesFrom (d : Disk) :
    (fuel : Nat) → (lenient : Bool) → Path → Except SystemError Unit × Disk
  | 0, _, p => (.error ⟨.noEntry, p⟩, d)
  | fuel + 1, lenient, p =>
    match d.ensureDirectory lenient p with
    | (.error ⟨.noEntry, q⟩, d) =>
      if p.parts = [] then (.error ⟨.noEntry, q⟩, d)
      else
        match makeDirectoriesFrom d fuel true p.parent with
        | (.ok (), d) => d.ensureDirectory lenient p
        | failed => failed
    | ended => ended

/-- Makes a directory unless it is there, and first those that it needs. -/
def makeDirectories (d : Disk) (p : Path) : Except SystemError Unit × Disk :=
  d.makeDirectoriesFrom (p.parts.length + 1) true p

/-- Makes a directory that must not be there, and first those that it needs. -/
def makeNewDirectory (d : Disk) (p : Path) : Except SystemError Unit × Disk :=
  d.makeDirectoriesFrom (p.parts.length + 1) false p

/-- Permissions of a file that only its owner reads and writes. -/
def privateMode : Nat := 0o600

/-- Whether permissions let the owner read. -/
def mayRead (mode : Nat) : Bool := mode &&& 0o400 ≠ 0

/-- Whether permissions let the owner write. -/
def mayWrite (mode : Nat) : Bool := mode &&& 0o200 ≠ 0

/-- The permissions of a file when it is opened to be written: it does not run in the name of its
owner any more, nor in that of its group if the group may run it. -/
def openedMode (mode : Nat) : Nat :=
  let mode := if mode &&& 0o4000 = 0 then mode else mode - 0o4000
  if mode &&& 0o2010 = 0o2010 then mode - 0o2000 else mode

/-- The octets of a file. -/
def read (d : Disk) (p : Path) : Except SystemError Bytes :=
  match d.place p with
  | .error fault => .error ⟨fault, p⟩
  | .ok q =>
    match d.node? q with
    | none => .error ⟨.noEntry, p⟩
    | some .directory => .error ⟨.isDirectory, p⟩
    | some (.file content mode) => if mayRead mode then .ok content else .error ⟨.denied, p⟩

/-- Opens a file to be written, and empties it. A new one is private, an old one keeps its
permissions to read and write. -/
def create (d : Disk) (p : Path) : Except SystemError Disk :=
  match d.place p with
  | .error fault => .error ⟨fault, p⟩
  | .ok q =>
    match d.node? q with
    | none => .ok { d with nodes := put d.nodes q (.file [] privateMode) }
    | some .directory => .error ⟨.isDirectory, p⟩
    | some (.file _ mode) =>
      if mayWrite mode then .ok { d with nodes := put d.nodes q (.file [] (openedMode mode)) }
      else .error ⟨.denied, p⟩

/-- Gives a file its content. -/
def fill (d : Disk) (p : Path) (content : Bytes) : Except SystemError Disk :=
  match d.place p with
  | .error fault => .error ⟨fault, p⟩
  | .ok q =>
    match d.node? q with
    | none => .error ⟨.noEntry, p⟩
    | some .directory => .error ⟨.isDirectory, p⟩
    | some (.file _ mode) => .ok { d with nodes := put d.nodes q (.file content mode) }

/-- Writes a file: it is emptied first and then filled. -/
def write (d : Disk) (p : Path) (content : Bytes) : Except SystemError Disk :=
  match d.create p with
  | .error e => .error e
  | .ok d => d.fill p content

/-- Gives a file other permissions. -/
def setMode (d : Disk) (p : Path) (mode : Nat) : Except SystemError Disk :=
  match d.place p with
  | .error fault => .error ⟨fault, p⟩
  | .ok q =>
    match d.node? q with
    | some (.file content _) => .ok { d with nodes := put d.nodes q (.file content mode) }
    | some .directory => .ok d
    | none => .error ⟨.noEntry, p⟩

/-- Takes a file away. -/
def remove (d : Disk) (p : Path) : Except SystemError Disk :=
  match d.place p with
  | .error fault => .error ⟨fault, p⟩
  | .ok q =>
    match d.node? q with
    | none => .error ⟨.noEntry, p⟩
    | some .directory => .error ⟨.isDirectory, p⟩
    | some (.file _ _) => .ok { d with nodes := d.nodes.filter fun e => e.1 ≠ q }

/-- The permissions of a file. -/
def mode? (d : Disk) (p : Path) : Option Nat :=
  match d.find? p with
  | some (.file _ mode) => some mode
  | _ => none

end Disk
end HdProvision.Store
