import HdProvision.Text.Table
import HdProvision.Text.Tables.Canonical
import HdProvision.Text.Tables.Compatibility
import HdProvision.Text.Tables.Composition
import HdProvision.Text.Tables.CombiningClass

/-!
# Normal forms of text

Decomposition replaces every character by its full decomposition and then puts the marks that follow
a base into the order of their combining classes. Composition joins a base with the marks that it
composes with. Hangul syllables are taken apart and put together by arithmetic.
-/

set_option autoImplicit false

namespace HdProvision.Text

/-- Which decompositions apply. -/
inductive Decomposition
  | canonical
  | compatibility
  deriving DecidableEq, Repr

namespace Hangul

def base : Nat := 0xAC00

def leadBase : Nat := 0x1100

def vowelBase : Nat := 0x1161

def tailBase : Nat := 0x11A7

/-- The letters of a syllable. -/
def letters? (c : Char) : Option (List Char) :=
  let n := c.toNat
  if base ≤ n && n < base + 11172 then
    let i := n - base
    let lead := Char.ofNat (leadBase + i / 588)
    let vowel := Char.ofNat (vowelBase + i % 588 / 28)
    some (if i % 28 = 0 then [lead, vowel] else [lead, vowel, Char.ofNat (tailBase + i % 28)])
  else none

/-- The syllable, or the longer syllable, that two characters make. -/
def join? (a b : Char) : Option Char :=
  let x := a.toNat
  let y := b.toNat
  if leadBase ≤ x && x < leadBase + 19 && vowelBase ≤ y && y < vowelBase + 21 then
    some (Char.ofNat (base + (x - leadBase) * 588 + (y - vowelBase) * 28))
  else if base ≤ x && x < base + 11172 && (x - base) % 28 = 0 &&
      tailBase < y && y < tailBase + 28 then
    some (Char.ofNat (x + (y - tailBase)))
  else none

end Hangul

/-- The characters with a canonical decomposition, and what they decompose to. -/
def canonicalTable : Table.Pages := Table.pages Tables.canonicalPages

/-- The characters that compatibility decomposition takes apart in another way. -/
def compatibilityTable : Table.Pages := Table.pages Tables.compatibilityPages

/-- The full decomposition of one character. Characters below U+00A0 have none of their own. -/
def decompose (form : Decomposition) (c : Char) : List Char :=
  if c.toNat < 0xA0 then [c]
  else
    let canonical := (Hangul.letters? c).orElse fun _ => Table.find? canonicalTable c
    match form with
    | .canonical => canonical.getD [c]
    | .compatibility =>
      ((Table.find? compatibilityTable c).orElse fun _ => canonical).getD [c]

/-- The ranges of characters with a combining class above zero. -/
def classRanges : List (Nat × Nat × Nat) := Table.ranges Tables.combiningClassRanges

/-- The canonical combining class. -/
def combiningClass (c : Char) : Nat :=
  if c.toNat < 0x300 then 0 else (Table.valueIn? c.toNat classRanges).getD 0

/-- Puts a character in front of ordered ones: it moves behind the marks of a lower class. -/
def place (c : Char) : List Char → List Char
  | [] => [c]
  | d :: ds =>
    if 0 < combiningClass d && combiningClass d < combiningClass c then d :: place c ds
    else c :: d :: ds

/-- Marks in the order of their classes; marks of one class keep theirs. -/
def reorder : List Char → List Char
  | [] => []
  | c :: cs => place c (reorder cs)

/-- The decomposed form of a list of characters. -/
def decomposed (form : Decomposition) (cs : List Char) : List Char :=
  reorder (cs.flatMap (decompose form))

/-- The pairs of characters that compose, by the first of them, and their composites. -/
def compositionTable : Table.Pages := Table.pages Tables.compositionPages

/-- The composite of two characters. -/
def composite? (a b : Char) : Option Char :=
  (Hangul.join? a b).orElse fun _ =>
    (Table.entriesOf compositionTable a).findSome? fun
      | [x, y, z] => if x = a.toNat && y = b.toNat then some (Char.ofNat z) else none
      | _ => none

/-- Composes the marks that follow a base. `marks` are those that stay behind it, last first; one of
them blocks a later mark of the same or a lower class. -/
def composeFrom (starter : Char) (marks : List Char) : List Char → List Char
  | [] => starter :: marks.reverse
  | c :: cs =>
    let blocked := match marks with
      | [] => false
      | m :: _ => combiningClass c ≤ combiningClass m
    match if blocked then none else composite? starter c with
    | some p => composeFrom p marks cs
    | none =>
      if combiningClass c = 0 then starter :: marks.reverse ++ composeFrom c [] cs
      else composeFrom starter (c :: marks) cs

/-- The composed form of characters in canonical order. -/
def compose : List Char → List Char
  | [] => []
  | c :: cs => if combiningClass c = 0 then composeFrom c [] cs else c :: compose cs

/-- Canonical decomposition. -/
def nfd (s : String) : String := String.ofList (decomposed .canonical s.toList)

/-- Compatibility decomposition. -/
def nfkd (s : String) : String := String.ofList (decomposed .compatibility s.toList)

/-- Compatibility decomposition, composed again. -/
def nfkc (s : String) : String := String.ofList (compose (decomposed .compatibility s.toList))

/-- Canonical composition. -/
def nfc (s : String) : String := String.ofList (compose (decomposed .canonical s.toList))

end HdProvision.Text
