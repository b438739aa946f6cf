import HdProvision.Hash.Sha256
import HdProvision.Mnemonic.WordList

/-!
# Recovery phrases

A phrase spells entropy and a checksum of it: one bit for each 32 bits of entropy, taken from the
front of the digest. Both together are a number, written in base 2048 with words for digits.

`ofEntropy` makes the words from entropy. `validate` judges words without making any: it packs their
numbers, cuts the checksum off, and compares it with the checksum of what is left.
-/

set_option autoImplicit false

namespace HdProvision.Mnemonic

/-- How many words a phrase has. -/
inductive WordCount
  | twelve
  | fifteen
  | eighteen
  | twentyOne
  | twentyFour
  deriving DecidableEq, Repr

namespace WordCount

def all : List WordCount := [.twelve, .fifteen, .eighteen, .twentyOne, .twentyFour]

def toNat : WordCount → Nat
  | twelve => 12
  | fifteen => 15
  | eighteen => 18
  | twentyOne => 21
  | twentyFour => 24

/-- Octets of entropy: four for every three words. -/
def entropySize : WordCount → Nat
  | twelve => 16
  | fifteen => 20
  | eighteen => 24
  | twentyOne => 28
  | twentyFour => 32

def ofInt? (n : Int) : Option WordCount := all.find? fun c => (c.toNat : Int) = n

/-- What is said about a number that is no word count. -/
def unknownMessage (n : Int) : String :=
  "Word count must be one of [" ++ Text.join ", " (all.map fun c => toString c.toNat) ++
    "], got " ++ toString n

end WordCount

/-- The last `count` digits of a number in base 2048, most significant first. -/
def digits : (count n : Nat) → List Nat
  | 0, _ => []
  | c + 1, n => digits c (n / 2048) ++ [n % 2048]

/-- The number with the given digits in base 2048. -/
def number (ds : List Nat) : Nat := ds.foldl (fun n d => n * 2048 + d) 0

/-- The checksum of entropy: as many bits from the front of its digest as it has groups of four
octets. -/
def checksum (entropy : Bytes) : Nat :=
  Bytes.toNatBE (Sha256.digest entropy) >>> (256 - entropy.length / 4)

/-- Entropy followed by its checksum, as one number. -/
def packed (entropy : Bytes) : Nat :=
  Bytes.toNatBE entropy <<< (entropy.length / 4) + checksum entropy

/-- The words that spell entropy. -/
def ofEntropy (l : Language) (entropy : Bytes) : List String :=
  (digits (entropy.length / 4 * 3) (packed entropy)).map l.word

/-- Words as they are shown to the operator. -/
def display (l : Language) (words : List String) : String := Text.join l.separator words

/-- Whether the last bits of `3 * groups` digits are the checksum of the bits before them. -/
def sumsUp (groups n : Nat) : Bool :=
  n % (1 <<< groups) = checksum (Bytes.ofNatBE (4 * groups) (n >>> groups))

/-- Whether a phrase, read after decomposition, has a right checksum. -/
def isSound (l : Language) (phrase : String) : Bool :=
  let words := (Text.split ' ' (Text.nfkd phrase).toList).map String.ofList
  match words.mapM l.index? with
  | some ds => (WordCount.ofInt? ds.length).isSome && sumsUp (ds.length / 3) (number ds)
  | none => false

/-- Why words are no phrase. -/
inductive Reason
  | wordCount (n : Nat)
  | unknownWord
  | checksum
  deriving DecidableEq, Repr

def Reason.text : Reason → String
  | wordCount n => "invalid number of words in phrase: " ++ toString n
  | unknownWord => "invalid word in phrase"
  | checksum => "invalid checksum"

/-- A phrase that was refused. -/
structure Rejection where
  phrase : String
  language : Language
  reason : Reason
  deriving DecidableEq, Repr

def Rejection.message (r : Rejection) : String :=
  "\"" ++ r.phrase ++ "\" is not valid for " ++ r.language.nativeName ++
    " (" ++ r.reason.text ++ ")"

/-- The phrase that words make, with single spaces between them, or the first rule they break. -/
def validate (l : Language) (words : List String) : Except Rejection String :=
  let phrase := Text.join " " words
  if (WordCount.ofInt? words.length).isNone then .error ⟨phrase, l, .wordCount words.length⟩
  else if words.any fun w => (l.index? (Text.nfkd w)).isNone then .error ⟨phrase, l, .unknownWord⟩
  else if isSound l phrase then .ok phrase
  else .error ⟨phrase, l, .checksum⟩

theorem length_digits (count n : Nat) : (digits count n).length = count := by
  induction count generalizing n with
  | zero => rfl
  | succ c ih => simp [digits, ih]

theorem WordCount.entropySize_mul_three (c : WordCount) : c.entropySize * 3 = c.toNat * 4 := by
  cases c <;> rfl

end HdProvision.Mnemonic
