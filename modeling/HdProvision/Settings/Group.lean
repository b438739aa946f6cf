import HdProvision.Text.Identifier
import HdProvision.Text.Normal
import HdProvision.Text.Quoted

/-!
# Grouping options

Options that belong together are taken out of all options given and handed on as one group, in the
order of their names. The group and its members have to be named by identifiers; the names are
looked at before the options. Members are known by the composed compatibility form of their names,
so that no two may share that form, and a name in another form is not known.
-/

set_option autoImplicit false

namespace HdProvision.Settings

universe u

/-- Options taken together, and those left. -/
structure Grouping (α : Type u) where
  members : List (String × α)
  rest : List (String × α)

/-- Why options were not grouped. -/
inductive GroupFault
  /-- A member has the name that the group itself goes by. -/
  | taken
  | notIdentifier (name : String)
  | reserved (name : String)
  | underscore (name : String)
  | sameForm (form : String)
  | missing (name : String)
  | notKnown (name : String)
  deriving DecidableEq, Repr

namespace GroupFault

/-- The name that a group is handed on by. -/
def takenName : String := "option_class"

/-- What is said about the options of a group. -/
def message (group : String) : GroupFault → String
  | taken => "group_options() got multiple values for argument '" ++ takenName ++ "'"
  | notIdentifier name =>
    "Type names and field names must be valid identifiers: " ++ Text.Quoted.quote name
  | reserved name => "Type names and field names cannot be a keyword: " ++ Text.Quoted.quote name
  | underscore name => "Field names cannot start with an underscore: " ++ Text.Quoted.quote name
  | sameForm form =>
    "duplicate argument '" ++ form ++ "' in function definition (<string>, line 1)"
  | missing name =>
    "When trying to group CLI options into " ++ group ++ ", " ++ name ++
      " was not found among arguments"
  | notKnown name => group ++ ".__new__() got an unexpected keyword argument '" ++ name ++ "'"

end GroupFault

namespace Grouping

variable {α : Type u}

/-- What is wrong with a name by itself. -/
def nameFault? (name : String) : Option GroupFault :=
  if !Text.isIdentifier name.toList then some (.notIdentifier name)
  else if Text.reservedWords.contains name then some (.reserved name)
  else none

/-- The first form that a name shares with one before it. -/
def sharedForm? : (before : List String) → List String → Option String
  | _, [] => none
  | before, name :: names =>
    let form := Text.nfkc name
    if before.contains form then some form else sharedForm? (form :: before) names

/-- What is wrong with the names of a group and its members. -/
def namesFault? (group : String) (names : List String) : Option GroupFault :=
  if names.contains GroupFault.takenName then some .taken
  else
    ((group :: names).findSome? nameFault?).or
      (((names.find? fun n => n.toList.head? = some '_').map .underscore).or
        ((sharedForm? [] names).map .sameForm))

/-- Takes the named options out; the error is the first name without a value. -/
def take : List String → List (String × α) → Except GroupFault (Grouping α)
  | [], given => .ok ⟨[], given⟩
  | name :: names, given =>
    match given.lookup name with
    | none => .error (.missing name)
    | some v => do
      let g ← take names (given.filter fun o => o.1 ≠ name)
      return { g with members := (name, v) :: g.members }

/-- The group of the named options. An option with the name of the group gives way to it. -/
def ofOptions (group : String) (names : List String) (given : List (String × α)) :
    Except GroupFault (Grouping α) :=
  let names := names.eraseDups.mergeSort (· ≤ ·)
  match namesFault? group names with
  | some fault => .error fault
  | none => do
    let g ← take names given
    match names.find? fun n => Text.nfkc n ≠ n with
    | some name => .error (.notKnown name)
    | none => return { g with rest := g.rest.filter fun o => o.1 ≠ group }

end Grouping
end HdProvision.Settings
