/-!
# Resemblance of texts

How much two texts have in common: the longest block that stands in both, and the same again to the
left and to the right of it. Two texts are close when what they have in common makes at least three
fifths of both; `closest` picks what may have been meant by a misspelled word.
-/

set_option autoImplicit false

namespace HdProvision.Text

/-- A block that stands in two texts: where it starts in either, and its length. -/
structure Block where
  left : Nat
  right : Nat
  size : Nat
  deriving DecidableEq, Repr

/-- How many characters two texts start with alike. -/
def commonStart : List Char → List Char → Nat
  | a :: as, b :: bs => if a = b then commonStart as bs + 1 else 0
  | _, _ => 0

/-- The best block so far or a longer one that stands at the start of `a`, which is at `i`, and
somewhere in the characters from `j` on. -/
def longestAt (a : List Char) (i : Nat) : (j : Nat) → List Char → Block → Block
  | _, [], best => best
  | j, b :: bs, best =>
    let size := commonStart a (b :: bs)
    longestAt a i (j + 1) bs (if best.size < size then ⟨i, j, size⟩ else best)

/-- The best block so far or a longer one that stands in `b` and in the characters from `i` on. -/
def longestFrom (b : List Char) : (i : Nat) → List Char → Block → Block
  | _, [], best => best
  | i, a :: as, best => longestFrom b (i + 1) as (longestAt (a :: as) i 0 b best)

/-- The longest block of two texts; of several the one that is leftmost in `a`, and then in `b`. -/
def longestBlock (a b : List Char) : Block := longestFrom b 0 a ⟨0, 0, 0⟩

/-- How many characters two texts have in common, for a text `a` of at most `fuel` characters. -/
def matchedFrom : (fuel : Nat) → (a b : List Char) → Nat
  | 0, _, _ => 0
  | fuel + 1, a, b =>
    let k := longestBlock a b
    if k.size = 0 then 0
    else
      k.size + matchedFrom fuel (a.take k.left) (b.take k.right) +
        matchedFrom fuel (a.drop (k.left + k.size)) (b.drop (k.right + k.size))

def matched (a b : List Char) : Nat := matchedFrom a.length a b

/-- A candidate with what it has in common with a word: the ratio of `common` to `total`. -/
structure Candidate where
  text : String
  common : Nat
  total : Nat
  deriving DecidableEq, Repr

namespace Candidate

/-- Whether a share of `common` in `total` characters is enough. -/
def isEnough (common total : Nat) : Bool := 3 * total ≤ 10 * common

/-- The candidate, if it is close to the word. A text whose length alone rules that out is not
compared. -/
def ofText? (word : List Char) (text : String) : Option Candidate :=
  let cs := text.toList
  let total := cs.length + word.length
  if isEnough (min cs.length word.length) total then
    let common := matched cs word
    if isEnough common total then some ⟨text, common, total⟩ else none
  else none

/-- Whether `c` ranks before `d`: by the larger share, and then by the later name. -/
def ranksBefore (c d : Candidate) : Bool :=
  if c.common * d.total = d.common * c.total then d.text ≤ c.text
  else d.common * c.total < c.common * d.total

end Candidate

/-- How many candidates are suggested at most. -/
def closestLimit : Nat := 3

/-- The candidates that are closest to a word, by name. -/
def closest (word : String) (candidates : List String) : List String :=
  let close := candidates.filterMap (Candidate.ofText? word.toList)
  let best := (close.mergeSort Candidate.ranksBefore).take closestLimit
  (best.map Candidate.text).mergeSort (· ≤ ·)

end HdProvision.Text
