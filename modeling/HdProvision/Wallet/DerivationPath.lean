import HdProvision.Text.Integer
import HdProvision.Text.Split

/-!
# Derivation paths

A path starts with `m` or `M` and names one child after another, separated by slashes. A child is an
integer, marked with `'` or `H` when it is hardened.

`ofString` reads a path; `childNumber` is the number that stands for a child in derivation. A soft
child may have the index 2 ^ 31, whose number is that of the first hardened one; a hardened child
with this index has no number.
-/

set_option autoImplicit false

namespace HdProvision.Wallet

/-- Whether a child is derived from the public or from the private key of its parent. -/
inductive ChildKind
  | soft
  | hardened
  deriving DecidableEq, Repr

/-- A child of a key. -/
structure Child where
  kind : ChildKind
  index : Nat
  deriving DecidableEq, Repr

/-- What is wrong with one component of a path. -/
inductive ComponentFault
  | empty
  | notInteger (text : String)
  | outOfRange (kind : ChildKind) (value : Int)
  deriving DecidableEq, Repr

/-- Why a text is no path that can be derived. -/
inductive PathFault
  | empty
  | noRoot
  | component (text : String) (fault : ComponentFault)
  | tooBig
  deriving DecidableEq, Repr

namespace ComponentFault

/-- How a kind of child is named in a message. -/
def kindName : ChildKind → String
  | .soft => "<class 'eth_account.hdaccount.deterministic.SoftNode'>"
  | .hardened => "<class 'eth_account.hdaccount.deterministic.HardNode'>"

def message : ComponentFault → String
  | empty => "Cannot use empty string"
  | notInteger t => "'" ++ t ++ "' is not a valid node index."
  | outOfRange kind n =>
    kindName kind ++ " cannot be initialized with value " ++ Text.Integer.text n

end ComponentFault

/-- What is said about a path that cannot be derived. -/
def PathFault.reason (path : String) : PathFault → String
  | .empty => "Cannot parse path from empty string."
  | .noRoot => "Path is not valid: \"" ++ path ++ "\". Must start with \"m\""
  | .component part fault =>
    "Path \"" ++ path ++ "\" is not valid. Issue with node \"" ++ part ++ "\": " ++ fault.message
  | .tooBig => "int too big to convert"

def PathFault.message (path : String) (f : PathFault) : String :=
  "'" ++ path ++ "' is not a derivable path: " ++ f.reason path

/-- The number of the first hardened child, 2 ^ 31. -/
def hardenedOffset : Nat := 2147483648

/-- What all numbers of four octets are below, 2 ^ 32. -/
def numberLimit : Nat := 4294967296

namespace Child

/-- The kind of a component and the text of its index. -/
def mark (cs : List Char) : ChildKind × List Char :=
  match cs.getLast? with
  | some c => if c = '\'' || c = 'H' then (.hardened, cs.dropLast) else (.soft, cs)
  | none => (.soft, cs)

/-- The child that a component names. -/
def ofChars (cs : List Char) : Except ComponentFault Child :=
  if cs = [] then .error .empty
  else
    let (kind, index) := mark cs
    match Text.Integer.ofChars? index with
    | none => .error (.notInteger (String.ofList index))
    | some n =>
      if n < 0 || hardenedOffset < n then .error (.outOfRange kind n)
      else .ok ⟨kind, n.toNat⟩

/-- The number that stands for a child in derivation. -/
def childNumber (c : Child) : Nat :=
  match c.kind with
  | .soft => c.index
  | .hardened => c.index + hardenedOffset

end Child

/-- The children that a path names, one after another. -/
abbrev DerivationPath := List Child

namespace DerivationPath

/-- The children named by the components behind the root. -/
def ofComponents : List (List Char) → Except PathFault DerivationPath
  | [] => .ok []
  | part :: rest =>
    match Child.ofChars part with
    | .error fault => .error (.component (String.ofList part) fault)
    | .ok child => (ofComponents rest).map (child :: ·)

/-- The path that a list of characters spells. -/
def ofChars (cs : List Char) : Except PathFault DerivationPath :=
  if cs = [] then .error .empty
  else
    match Text.split '/' cs with
    | root :: rest => if root = ['m'] || root = ['M'] then ofComponents rest else .error .noRoot
    | [] => .error .noRoot

/-- The path that a text spells. -/
def ofString (s : String) : Except PathFault DerivationPath := ofChars s.toList

/-- The numbers of the children on a path. -/
def childNumbers (path : DerivationPath) : List Nat := path.map Child.childNumber

end DerivationPath
end HdProvision.Wallet
