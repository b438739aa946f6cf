/-!
# White space

The characters that count as white space, cutting them off both ends of a text, and splitting a text
at them.
-/

set_option autoImplicit false

namespace HdProvision.Text

/-- White space: the ASCII controls from tab to carriage return and from file separator on, and the
spaces and separators of other scripts. -/
def isBlank (c : Char) : Bool :=
  let n := c.toNat
  (9 ≤ n && n ≤ 13) || (0x1C ≤ n && n ≤ 0x20) || n = 0x85 || n = 0xA0 || n = 0x1680 ||
    (0x2000 ≤ n && n ≤ 0x200A) || n = 0x2028 || n = 0x2029 || n = 0x202F || n = 0x205F || n = 0x3000

/-- The characters without those at both ends that `p` holds of. -/
def trim (p : Char → Bool) (cs : List Char) : List Char :=
  ((cs.dropWhile p).reverse.dropWhile p).reverse

/-- The characters without the white space at both ends. -/
def stripChars (cs : List Char) : List Char := trim isBlank cs

/-- The text without the white space at both ends. -/
def strip (s : String) : String := String.ofList (stripChars s.toList)

/-- Collects words; `word` holds the characters of the word being read, last first. -/
def wordsFrom (word : List Char) : List Char → List (List Char)
  | [] => if word = [] then [] else [word.reverse]
  | c :: cs =>
    if isBlank c then
      if word = [] then wordsFrom [] cs else word.reverse :: wordsFrom [] cs
    else wordsFrom (c :: word) cs

/-- The words of a text: its longest pieces without white space. -/
def words (s : String) : List String := (wordsFrom [] s.toList).map String.ofList

/-- What core counts as white space counts here too. -/
theorem isBlank_of_isWhitespace (c : Char) (h : c.isWhitespace = true) : isBlank c = true := by
  simp only [Char.isWhitespace, Bool.or_eq_true, decide_eq_true_eq] at h
  rcases h with ((rfl | rfl) | rfl) | rfl <;> decide

end HdProvision.Text
