import HdProvision.Proofs.Text.Images
import HdProvision.Proofs.Text.Inert
import HdProvision.Proofs.Text.Numeral
import HdProvision.Text.LetterCase

/-!
# Entries of the tables of case and canonical form

What the tables of case folding, canonical decomposition, composition and combining classes have to
do with each other, checked entry by entry.
-/

set_option autoImplicit false

namespace HdProvision.Text

open Table

def isSyllable (n : Nat) : Bool := Hangul.base ≤ n && n < Hangul.base + 11172

/-- The code point of a character that is no syllable. -/
def isLone (n : Nat) : Bool := n.isValidChar && !isSyllable n

def isBlankCode (n : Nat) : Bool := (mask blankCodes).testBit n

/-- The letters of scripts without case that languages are named in. -/
def isUncased (n : Nat) : Bool := isJamo n || isIdeograph n

/-- Where the characters lie that compose with one before them. -/
def isSecond (n : Nat) : Bool :=
  (0x300 ≤ n && n < 0x1E00) || n = 0x3099 || n = 0x309A || 0x11000 ≤ n

/-- ASCII and the accents. -/
def isLatinCode (n : Nat) : Bool := n < 0x80 || (0x300 ≤ n && n < 0x340)

/-- The first two letters of what ligatures fold to. -/
def ligatures : List (Nat × Nat) :=
  [(0x66, 0x66), (0x66, 0x69), (0x66, 0x6C), (0x73, 0x73), (0x73, 0x74)]

/-- What folds to ASCII and accents is a capital, the long s or a ligature. -/
def spellsLatin (n : Nat) : List Nat → Bool
  | [] => false
  | [d] => !isLatinCode d || n = 0x17F || (n < 0x80 && d = n + 0x20)
  | d :: e :: _ => !(isLatinCode d && isLatinCode e) || ligatures.contains (d, e)

/-- Checks a canonical decomposition. -/
def canonicalEntry (dec : Nat → List Nat) (n : Nat) (ds : List Nat) : Bool :=
  0xA0 ≤ n && !ds.isEmpty && (ds.all fun d => isLone d && dec d == [d]) &&
    (if isBlankCode n then ds.length = 1 && ds.all isBlankCode else ds.all (!isBlankCode ·)) &&
    (!ds.contains 0x17F || ds.contains 0x307)

/-- Checks how a character folds that has a canonical decomposition. -/
def partsEntry (dec fold : Nat → List Nat) (n : Nat) (ds : List Nat) : Bool :=
  (!ds.contains 0x345 || (fold n).contains 0x3B9) &&
    ((fold n == [n] && ds.all fun d => fold d == [d]) ||
      (fold n).flatMap dec == (ds.flatMap fold).flatMap dec)

/-- Checks a case folding. -/
def foldingEntry (fold : Nat → List Nat) (n : Nat) (ds : List Nat) : Bool :=
  !isBlankCode n && !ds.isEmpty &&
    (ds.all fun d => isLone d && fold d == [d] && !isBlankCode d && !isUncased d) &&
    (!isSecond n || ds.all (0x80 ≤ ·)) && (0x80 ≤ n || (0x41 ≤ n && n ≤ 0x5A))

/-- Checks the case folding of a character that has no canonical decomposition. -/
def wholeEntry (dec : Nat → List Nat) (n : Nat) (ds : List Nat) : Bool :=
  dec n != [n] || (spellsLatin n ds && ds.all fun d => dec d == [d])

/-- Foldings of one character to one. -/
def foldings : List (Nat × Nat) :=
  [(0xC7, 0xE7), (0xD1, 0xF1), (0x10C, 0x10D), (0x160, 0x161), (0xCA, 0xEA), (0x17F, 0x73),
    (0x345, 0x3B9), (0x302, 0x302), (0x303, 0x303), (0x307, 0x307), (0x30C, 0x30C), (0x327, 0x327)]

def capitals : List (Nat × Nat) := (List.range' 0x41 26).map fun n => (n, n + 0x20)

noncomputable def checkCanonical (canonical : Pages) : Bool :=
  let dec := probe (trees canonical)
  every canonical (canonicalEntry dec) && dec 0x17F == [0x17F]

noncomputable def checkParts (canonical folding : Pages) : Bool :=
  every canonical (partsEntry (probe (trees canonical)) (probe (trees folding)))

noncomputable def checkFolding (folding : Pages) : Bool :=
  let fold := probe (trees folding)
  every folding (foldingEntry fold) && (foldings ++ capitals).all fun p => fold p.1 == [p.2]

noncomputable def checkWhole (canonical folding : Pages) : Bool :=
  every folding (wholeEntry (probe (trees canonical)))

/-- The composite of two code points. -/
def pair? (table : Pages) (x y : Nat) : Option Nat :=
  ((table.lookup (x / 256)).getD []).findSome? fun
    | [a, b, z] => if a = x && b = y then some z else none
    | _ => none

/-- Checks what a character composes to with another one. -/
def compositionEntry (dec : Nat → List Nat) (x : Nat) : List Nat → Bool
  | [y, z] => isLone x && isLone y && isLone z && !isBlankCode x && !isBlankCode y &&
      isSecond y && dec y == [y] && dec z == dec x ++ [y]
  | _ => true

/-- Composites of ASCII letters, and a letter without one. -/
def composites : List (Nat × Nat × Option Nat) :=
  [(0x63, 0x327, some 0xE7), (0x43, 0x327, some 0xC7), (0x6E, 0x303, some 0xF1),
    (0x4E, 0x303, some 0xD1), (0x63, 0x30C, some 0x10D), (0x43, 0x30C, some 0x10C),
    (0x73, 0x30C, some 0x161), (0x53, 0x30C, some 0x160), (0x65, 0x302, some 0xEA),
    (0x45, 0x302, some 0xCA), (0x17F, 0x30C, none)]

noncomputable def checkComposition (canonical composition : Pages) : Bool :=
  every composition (compositionEntry (probe (trees canonical))) &&
    composites.all fun p => pair? composition p.1 p.2.1 == p.2.2

/-- No character that folds has a class but the iota below, and white space has none. -/
def checkClasses (folding : Pages) (ranges : List (Nat × Nat × Nat)) : Bool :=
  avoid ((keys folding).filter (· ≠ 0x345)) ranges && avoid blankCodes ranges &&
    (valueIn? 0x30C ranges).any (0 < ·)

/-- The checks of tables. -/
structure Checked (decs folds pairs : Pages) (ranges : List (Nat × Nat × Nat)) : Prop where
  decsFound : finds decs = true
  foldsFound : finds folds = true
  canonical : checkCanonical decs = true
  parts : checkParts decs folds = true
  folding : checkFolding folds = true
  whole : checkWhole decs folds = true
  composition : checkComposition decs pairs = true
  classes : checkClasses folds ranges = true

set_option maxRecDepth 20000

theorem checked :
    Checked canonicalTable foldingTable compositionTable classRanges := by
  apply Spelling.check Checked
  · unfold Tables.canonicalPages
    repeat
      first
      | exact Spelling.written_nil
      | apply Spelling.written_cons
        · repeat apply spelled_cons
          exact spelled_nil
  · unfold Tables.caseFoldingPages
    repeat
      first
      | exact Spelling.written_nil
      | apply Spelling.written_cons
        · repeat apply spelled_cons
          exact spelled_nil
  · unfold Tables.compositionPages
    repeat
      first
      | exact Spelling.written_nil
      | apply Spelling.written_cons
        · repeat apply spelled_cons
          exact spelled_nil
  · repeat apply spelled_cons
    exact spelled_nil
  · constructor
    case decsFound => decide +kernel
    case foldsFound => decide +kernel
    case canonical => decide +kernel
    case parts => decide +kernel
    case folding => decide +kernel
    case whole => decide +kernel
    case composition => decide +kernel
    case classes => decide +kernel

theorem checked_canonical :
    every canonicalTable (canonicalEntry (image canonicalTable)) = true ∧
      image canonicalTable 0x17F = [0x17F] := by
  have hall := checked.canonical
  simp only [checkCanonical, probe_trees checked.decsFound, Bool.and_eq_true, beq_iff_eq] at hall
  exact hall

theorem checked_parts :
    every canonicalTable (partsEntry (image canonicalTable) (image foldingTable)) = true := by
  have hall := checked.parts
  simp only [checkParts, probe_trees checked.decsFound, probe_trees checked.foldsFound] at hall
  exact hall

theorem checked_folding :
    every foldingTable (foldingEntry (image foldingTable)) = true ∧
      ∀ p ∈ foldings ++ capitals, image foldingTable p.1 = [p.2] := by
  have hall := checked.folding
  simp only [checkFolding, probe_trees checked.foldsFound, Bool.and_eq_true, List.all_eq_true,
    beq_iff_eq] at hall
  exact hall

theorem checked_whole :
    every foldingTable (wholeEntry (image canonicalTable)) = true := by
  have hall := checked.whole
  simp only [checkWhole, probe_trees checked.decsFound] at hall
  exact hall

theorem checked_composition :
    every compositionTable (compositionEntry (image canonicalTable)) = true ∧
    ∀ p ∈ composites, pair? compositionTable p.1 p.2.1 = p.2.2 := by
  have hall := checked.composition
  simp only [checkComposition, probe_trees checked.decsFound, Bool.and_eq_true, List.all_eq_true,
    beq_iff_eq] at hall
  exact hall

theorem checked_classes :
    (avoid ((keys foldingTable).filter (· ≠ 0x345)) classRanges = true ∧
      avoid blankCodes classRanges = true) ∧
    (valueIn? 0x30C classRanges).any (0 < ·) = true := by
  have hall := checked.classes
  simp only [checkClasses, Bool.and_eq_true] at hall
  exact hall

/-- What is known of a character that has a canonical decomposition. -/
structure Decomposes (n : Nat) : Prop where
  high : 0xA0 ≤ n
  ne_nil : image canonicalTable n ≠ []
  stay : ∀ d ∈ image canonicalTable n, isLone d = true ∧ image canonicalTable d = [d]
  blank : isBlankCode n = true → ∃ d, image canonicalTable n = [d] ∧ isBlankCode d = true
  ink : isBlankCode n = false → ∀ d ∈ image canonicalTable n, isBlankCode d = false
  iota : 0x345 ∈ image canonicalTable n → 0x3B9 ∈ image foldingTable n
  longS : 0x17F ∈ image canonicalTable n → 0x307 ∈ image canonicalTable n
  folds : (image foldingTable n).flatMap (image canonicalTable) =
    ((image canonicalTable n).flatMap (image foldingTable)).flatMap (image canonicalTable)

/-- What is known of a character that has a case folding. -/
structure Folds (n : Nat) : Prop where
  ink : isBlankCode n = false
  ne_nil : image foldingTable n ≠ []
  stay : ∀ d ∈ image foldingTable n, isLone d = true ∧ image foldingTable d = [d]
  inked : ∀ d ∈ image foldingTable n, isBlankCode d = false
  cased : ∀ d ∈ image foldingTable n, isUncased d = false
  latin : image canonicalTable n = [n] → spellsLatin n (image foldingTable n) = true
  stable : image canonicalTable n = [n] →
    ∀ d ∈ image foldingTable n, image canonicalTable d = [d]
  second : isSecond n = true → ∀ d ∈ image foldingTable n, 0x80 ≤ d
  ascii : n < 0x80 → 0x41 ≤ n ∧ n ≤ 0x5A

/-- What is known of two characters and their composite. -/
structure Composes (x y z : Nat) : Prop where
  lone : isLone x = true ∧ isLone y = true ∧ isLone z = true
  inkFirst : isBlankCode x = false
  inkSecond : isBlankCode y = false
  second : isSecond y = true
  stay : image canonicalTable y = [y]
  parts : image canonicalTable z = image canonicalTable x ++ [y]

theorem decomposes_or (n : Nat) : Decomposes n ∨ image canonicalTable n = [n] := by
  refine (entry_or_image_eq canonicalTable n).imp_left fun h => ?_
  have hentry := h.check checked_canonical.1
  simp only [canonicalEntry, Bool.and_eq_true, Bool.or_eq_true, decide_eq_true_eq,
    List.all_eq_true, beq_iff_eq, Bool.not_eq_true', List.contains_eq_mem,
    List.isEmpty_eq_false_iff, decide_eq_false_iff_not] at hentry
  obtain ⟨⟨⟨⟨hhigh, hne⟩, hstay⟩, hblank⟩, hlong⟩ := hentry
  have hparts := h.check checked_parts
  simp only [partsEntry, Bool.and_eq_true, Bool.or_eq_true, decide_eq_true_eq, List.all_eq_true,
    beq_iff_eq, Bool.not_eq_true', List.contains_eq_mem, decide_eq_false_iff_not] at hparts
  obtain ⟨hiota, hfold⟩ := hparts
  refine ⟨hhigh, hne, hstay, fun hn => ?_, fun hn d hd => ?_,
    fun hi => hiota.resolve_left (not_not_intro hi),
    fun hi => hlong.resolve_left (not_not_intro hi), ?_⟩
  · simp only [hn, if_true, Bool.and_eq_true, decide_eq_true_eq, List.all_eq_true] at hblank
    obtain ⟨d, hd⟩ := List.length_eq_one_iff.mp hblank.1
    exact ⟨d, hd, hblank.2 d (by simp [hd])⟩
  · simp only [hn, Bool.false_eq_true, if_false, List.all_eq_true, Bool.not_eq_true'] at hblank
    exact hblank d hd
  · rcases hfold with ⟨hn, hds⟩ | hfold
    · -- nothing of it folds
      have hparts : (image canonicalTable n).flatMap (image foldingTable) =
          image canonicalTable n := by
        rw [List.flatMap_congr hds, List.flatMap_singleton']
      have hwhole : (image canonicalTable n).flatMap (image canonicalTable) =
          image canonicalTable n := by
        rw [List.flatMap_congr fun d hd => (hstay d hd).2, List.flatMap_singleton']
      rw [hn, hparts, hwhole, List.flatMap_singleton]
    · exact hfold

theorem folds_or (n : Nat) : Folds n ∨ image foldingTable n = [n] := by
  refine (entry_or_image_eq foldingTable n).imp_left fun h => ?_
  have hentry := h.check checked_folding.1
  simp only [foldingEntry, Bool.and_eq_true, Bool.or_eq_true, decide_eq_true_eq,
    List.all_eq_true, beq_iff_eq, Bool.not_eq_true', List.isEmpty_eq_false_iff] at hentry
  obtain ⟨⟨⟨⟨hink, hne⟩, hall⟩, hsecond⟩, hascii⟩ := hentry
  have hwhole := h.check checked_whole
  simp only [wholeEntry, Bool.and_eq_true, Bool.or_eq_true, bne_iff_ne, List.all_eq_true,
    beq_iff_eq] at hwhole
  exact
    { ink := hink
      ne_nil := hne
      stay := fun d hd => (hall d hd).1.1
      inked := fun d hd => (hall d hd).1.2
      cased := fun d hd => (hall d hd).2
      latin := fun hn => (hwhole.resolve_left (not_not_intro hn)).1
      stable := fun hn => (hwhole.resolve_left (not_not_intro hn)).2
      second := fun hn => hsecond.resolve_left (by simp [hn])
      ascii := fun hn => hascii.resolve_left (by omega) }

theorem image_folding {n m : Nat} (h : (n, m) ∈ foldings ++ capitals) :
    image foldingTable n = [m] :=
  checked_folding.2 _ h

theorem image_longS : image canonicalTable 0x17F = [0x17F] := checked_canonical.2

theorem composes_of_pair? {x y z : Nat} (h : pair? compositionTable x y = some z) :
    Composes x y z := by
  obtain ⟨e, he, hpair⟩ := List.exists_of_findSome?_eq_some h
  split at hpair
  · next a b w =>
    split at hpair
    · next hab =>
      simp only [Bool.and_eq_true, decide_eq_true_eq] at hab
      obtain ⟨rfl, rfl⟩ := hab
      obtain ⟨rfl⟩ := hpair
      have hentry : Entry compositionTable a [b, z] := by
        cases hpage : compositionTable.lookup (a / 256) with
        | none => simp [hpage] at he
        | some es =>
          rw [hpage] at he
          exact ⟨_, mem_of_lookup hpage, he⟩
      have hcheck := hentry.check checked_composition.1
      simp only [compositionEntry, Bool.and_eq_true, Bool.not_eq_true', beq_iff_eq] at hcheck
      obtain ⟨⟨⟨⟨⟨⟨⟨hx, hy⟩, hz⟩, hfirst⟩, hsecond⟩, hrange⟩, hstay⟩, hparts⟩ := hcheck
      exact ⟨⟨hx, hy, hz⟩, hfirst, hsecond, hrange, hstay, hparts⟩
    · cases hpair
  · cases hpair

theorem pair?_composites {x y : Nat} {z : Option Nat} (h : (x, y, z) ∈ composites) :
    pair? compositionTable x y = z :=
  checked_composition.2 _ h

theorem valueIn?_folding {n : Nat} (h : image foldingTable n ≠ [n]) (hn : n ≠ 0x345) :
    valueIn? n classRanges = none := by
  have hkey : n ∈ keys foldingTable := by
    by_contra hkey
    exact h (image_of_not_mem_keys hkey)
  exact valueIn?_of_avoid checked_classes.1.1 (List.mem_filter.mpr ⟨hkey, by simpa using hn⟩)

theorem valueIn?_blank {n : Nat} (h : n ∈ blankCodes) : valueIn? n classRanges = none :=
  valueIn?_of_avoid checked_classes.1.2 h

theorem valueIn?_caron : (valueIn? 0x30C classRanges).any (0 < ·) = true := checked_classes.2

end HdProvision.Text
