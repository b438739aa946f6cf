import HdProvision.Text.Integer
import HdProvision.Text.Path
import HdProvision.Text.Split

/-!
# Owners of provisioned files

The operator's account: a user, a group and a home directory, each of which may be missing. An owner
is written as three parts with colons between them; the home may hold colons of its own.
-/

set_option autoImplicit false

namespace HdProvision.Provision

/-- The account that provisioned files are handed over to. -/
structure Owner where
  uid : Option Int
  gid : Option Int
  home : Option Path
  deriving DecidableEq, Repr

/-- Why a text is no owner. -/
inductive OwnerFault
  | parts
  | notInteger
  deriving DecidableEq, Repr

/-- What is said about a text that is no owner. -/
def OwnerFault.message (value : String) : OwnerFault → String
  | parts =>
    "'" ++ value ++ "' is not a real user descriptor; expected <uid>:<gid>:<home directory>"
  | notInteger => "'" ++ value ++ "' is not a real user descriptor; uid and gid must be integers"

namespace Owner

/-- Nobody in particular. -/
def null : Owner := ⟨none, none, none⟩

def isNull (o : Owner) : Bool := o = null

/-- A number that may be missing. -/
def number (cs : List Char) : Except OwnerFault (Option Int) :=
  if cs = [] then .ok none
  else
    match Text.Integer.ofChars? cs with
    | some n => .ok (some n)
    | none => .error .notInteger

/-- The owner that a list of characters spells. -/
def ofChars (cs : List Char) : Except OwnerFault Owner :=
  match Text.cut? ':' cs with
  | none => .error .parts
  | some (uid, rest) =>
    match Text.cut? ':' rest with
    | none => .error .parts
    | some (gid, home) => do
      let uid ← number uid
      let gid ← number gid
      return ⟨uid, gid, if home = [] then none else some (Path.ofChars home)⟩

/-- The owner that a text spells. -/
def ofString (s : String) : Except OwnerFault Owner := ofChars s.toList

def numberChars : Option Int → List Char
  | none => []
  | some n => Text.Integer.chars n

/-- An owner as a list of characters. -/
def chars (o : Owner) : List Char :=
  numberChars o.uid ++ ':' :: numberChars o.gid ++ ':' :: (o.home.map Path.chars).getD []

/-- The text of an owner. -/
def text (o : Owner) : String := String.ofList o.chars

/-- The user and the group that files are given to. Only a process with all privileges gives files
away, and never to nobody; a missing number is -1. -/
def handOver? (o : Owner) (euid : Int) : Option (Int × Int) :=
  if o.isNull || euid ≠ 0 then none else some (o.uid.getD (-1), o.gid.getD (-1))

end Owner
end HdProvision.Provision
