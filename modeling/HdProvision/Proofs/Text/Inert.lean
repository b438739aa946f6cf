import HdProvision.Proofs.Text.Decomposition
import HdProvision.Proofs.Text.Tables
import HdProvision.Text.Blank

/-!
# Characters that decompose to themselves

The letters and marks that word lists are written with stay as they are under compatibility
decomposition, and no letter of them has a combining class. White space decomposes to text with
white space in it.
-/

set_option autoImplicit false
set_option maxRecDepth 4000

namespace HdProvision.Text

/-- The kana without a voicing mark that words are written with. -/
def kana : List Nat :=
  [0x3042, 0x3043, 0x3044, 0x3046, 0x3048, 0x304A, 0x304B, 0x304D, 0x304F, 0x3051, 0x3053, 0x3055,
    0x3057, 0x3059, 0x305B, 0x305D, 0x305F, 0x3061, 0x3063, 0x3064, 0x3066, 0x3068, 0x306A, 0x306B,
    0x306C, 0x306D, 0x306E, 0x306F, 0x3072, 0x3075, 0x3078, 0x307B, 0x307E, 0x307F, 0x3080, 0x3081,
    0x3082, 0x3083, 0x3084, 0x3085, 0x3086, 0x3087, 0x3088, 0x3089, 0x308A, 0x308B, 0x308C, 0x308D,
    0x308F, 0x3093]

/-- The marks of voicing. -/
def voicing : List Nat := [0x3099, 0x309A]

/-- The accents. -/
def accents : List Nat := [0x300, 0x301, 0x303]

def isJamo (n : Nat) : Bool := 0x1100 ≤ n && n < 0x1200

def isLatin (n : Nat) : Bool := 0x61 ≤ n && n < 0x7B

def isIdeograph (n : Nat) : Bool := 0x4E00 ≤ n && n < 0xA000

/-- The letters that words are written with. -/
def isLetter (c : Char) : Bool :=
  let n := c.toNat
  isLatin n || isJamo n || isIdeograph n || kana.contains n

/-- The marks that stand behind letters. -/
def isMark (c : Char) : Bool := accents.contains c.toNat || voicing.contains c.toNat

/-- The line and paragraph separators, which are white space and stay. -/
def lineEnds : List Nat := [0x2028, 0x2029]

/-- The spaces of one page, which decompose to an ordinary one. -/
def wideSpaces : List Nat :=
  [0x2000, 0x2001, 0x2002, 0x2003, 0x2004, 0x2005, 0x2006, 0x2007, 0x2008, 0x2009, 0x200A, 0x202F,
    0x205F]

/-- Entries that take some characters to an ordinary space. -/
def toSpace (codes : List Nat) (es : List (List Nat)) : Bool :=
  codes.all fun n => Table.after? n es = some [0x20]

/-- What the pages of the tables say about letters, marks and white space. -/
structure PageFacts : Prop where
  canonicalKana : Table.Page Tables.canonicalPages 0x30 (Table.silent (kana ++ voicing))
  compatibleKana : Table.Page Tables.compatibilityPages 0x30 fun es =>
    Table.silent (kana ++ voicing) es && toSpace [0x3000] es
  canonicalAccents : Table.Page Tables.canonicalPages 0x3 (Table.silent accents)
  compatibleAccents : Table.Page Tables.compatibilityPages 0x3 (Table.silent accents)
  canonicalLineEnds : Table.Page Tables.canonicalPages 0x20 (Table.silent lineEnds)
  compatibleSpaces : Table.Page Tables.compatibilityPages 0x20 fun es =>
    Table.silent lineEnds es && toSpace wideSpaces es
  compatibleLatin : Table.Page Tables.compatibilityPages 0x0 (toSpace [0xA0])

theorem pageFacts : PageFacts := by
  constructor
  all_goals
    apply Table.page_of_spelled rfl
    · repeat apply Table.spelled_cons
      exact Table.spelled_nil
    · decide +kernel

/-- The pages about which no table says anything: jamo, ideographs, and one with a blank. -/
def emptyPages : List Nat := 0x11 :: 0x16 :: List.range' 0x4E 0x52

theorem lookup_emptyPages : ∀ k ∈ emptyPages,
    Tables.canonicalPages.lookup k = none ∧ Tables.compatibilityPages.lookup k = none := by
  decide +kernel

/-- No table says anything about the character. -/
def Unlisted (c : Char) : Prop :=
  Table.find? canonicalTable c = none ∧ Table.find? compatibilityTable c = none

theorem unlisted_of_emptyPage {c : Char} (h : c.toNat / 256 ∈ emptyPages) : Unlisted c := by
  obtain ⟨h₁, h₂⟩ := lookup_emptyPages _ h
  exact ⟨Table.find?_of_no_page h₁, Table.find?_of_no_page h₂⟩

theorem unlisted_of_page_kana {c : Char} (h : c.toNat ∈ kana ++ voicing) : Unlisted c := by
  have hk : ∀ n ∈ kana ++ voicing, n / 256 = 0x30 := by decide
  obtain ⟨es, hes, hfind⟩ := pageFacts.compatibleKana.find?_eq
  obtain ⟨hs, -⟩ := Bool.and_eq_true_iff.mp hes
  have hnone := List.all_eq_true.mp hs _ h
  refine ⟨pageFacts.canonicalKana.find?_of_silent (hk _ h) h, ?_⟩
  rw [compatibilityTable, hfind c (hk _ h)]
  simpa using hnone

theorem unlisted_of_accent {c : Char} (h : c.toNat ∈ accents) : Unlisted c := by
  have hk : ∀ n ∈ accents, n / 256 = 0x3 := by decide
  exact ⟨pageFacts.canonicalAccents.find?_of_silent (hk _ h) h,
    pageFacts.compatibleAccents.find?_of_silent (hk _ h) h⟩

theorem unlisted_of_letter {c : Char} (h : isLetter c = true) (hc : 0xA0 ≤ c.toNat) :
    Unlisted c := by
  simp only [isLetter, isLatin, isJamo, isIdeograph, Bool.or_eq_true, Bool.and_eq_true, decide_eq_true_eq,
    List.contains_iff_mem] at h
  rcases h with ((h | h) | h) | h
  · omega
  · exact unlisted_of_emptyPage (by rw [show c.toNat / 256 = 0x11 by omega]; decide)
  · refine unlisted_of_emptyPage (List.mem_cons_of_mem _ (List.mem_cons_of_mem _ ?_))
    rw [List.mem_range'_1]
    omega
  · exact unlisted_of_page_kana (List.mem_append_left _ h)

theorem unlisted_of_mark {c : Char} (h : isMark c = true) : Unlisted c := by
  simp only [isMark, Bool.or_eq_true, List.contains_iff_mem] at h
  rcases h with h | h
  · exact unlisted_of_accent h
  · exact unlisted_of_page_kana (List.mem_append_right _ h)

/-- A character that is no syllable and in no table is its own decomposition. -/
theorem decompose_of_unlisted {c : Char} (h : Unlisted c) (hc : c.toNat < Hangul.base)
    (form : Decomposition) : decompose form c = [c] := by
  have hl : Hangul.letters? c = none := by
    have : ¬ Hangul.base ≤ c.toNat := by omega
    simp [Hangul.letters?, this]
  unfold decompose
  split
  · rfl
  · cases form <;> simp [hl, h.1, h.2]

/-- Letters and marks of words are their own decompositions. -/
theorem decompose_letter_or_mark {c : Char} (h : isLetter c = true ∨ isMark c = true) :
    decompose .compatibility c = [c] := by
  by_cases hc : 0xA0 ≤ c.toNat
  · have hlt : c.toNat < Hangul.base := by
      have hkana : ∀ n ∈ kana, n < Hangul.base := by decide
      have hmark : ∀ n ∈ accents ++ voicing, n < Hangul.base := by decide
      rcases h with h | h
      · simp only [isLetter, isLatin, isJamo, isIdeograph, Bool.or_eq_true, Bool.and_eq_true,
          decide_eq_true_eq, List.contains_iff_mem] at h
        rcases h with ((h | h) | h) | h
        · omega
        · exact lt_trans h.2 (by decide)
        · exact lt_trans h.2 (by decide)
        · exact hkana _ h
      · simp only [isMark, Bool.or_eq_true, List.contains_iff_mem] at h
        exact hmark _ (List.mem_append.mpr h)
    have hu : Unlisted c := h.elim (unlisted_of_letter · hc) unlisted_of_mark
    exact decompose_of_unlisted hu hlt _
  · simp [decompose, show c.toNat < 0xA0 by omega]

/-- Which blocks of letters the ranges with a combining class miss. -/
def missesLetters (ranges : List (Nat × Nat × Nat)) : Bool :=
  Table.Misses 0x1100 0x11FF ranges && Table.Misses 0x4E00 0x9FFF ranges &&
    Table.Misses 0x3041 0x3096 ranges

theorem missesLetters_classRanges : missesLetters classRanges = true := by
  apply Table.ranges_of_spelled
  · repeat apply Table.spelled_cons
    exact Table.spelled_nil
  · decide +kernel

theorem combiningClass_of_misses {lo hi : Nat} (h : Table.Misses lo hi classRanges = true)
    {c : Char} (hlo : lo ≤ c.toNat) (hhi : c.toNat ≤ hi) : combiningClass c = 0 := by
  simp [combiningClass, Table.valueIn?_of_misses h hlo hhi]

/-- Letters have no combining class. -/
theorem combiningClass_letter {c : Char} (h : isLetter c = true) : combiningClass c = 0 := by
  have hkana : ∀ n ∈ kana, 0x3041 ≤ n ∧ n ≤ 0x3096 := by decide
  have hm := missesLetters_classRanges
  simp only [missesLetters, Bool.and_eq_true] at hm
  obtain ⟨⟨hjamo, hideograph⟩, hkanaMiss⟩ := hm
  simp only [isLetter, isLatin, isJamo, isIdeograph, Bool.or_eq_true, Bool.and_eq_true, decide_eq_true_eq,
    List.contains_iff_mem] at h
  rcases h with ((h | h) | h) | h
  · simp [combiningClass, show c.toNat < 0x300 by omega]
  · exact combiningClass_of_misses hjamo h.1 (by omega)
  · exact combiningClass_of_misses hideograph h.1 (by omega)
  · exact combiningClass_of_misses hkanaMiss (hkana _ h).1 (hkana _ h).2

/-- Letters and marks are no white space. -/
theorem isBlank_letter_or_mark {c : Char} (h : isLetter c = true ∨ isMark c = true) :
    isBlank c = false := by
  have hkana : ∀ n ∈ kana, 0x3041 ≤ n := by decide
  have hmark : ∀ n ∈ accents ++ voicing, n = 0x300 ∨ n = 0x301 ∨ n = 0x303 ∨ 0x3041 ≤ n := by
    decide
  have hn : (0x61 ≤ c.toNat ∧ c.toNat < 0x7B) ∨ (0x300 ≤ c.toNat ∧ c.toNat < 0x1200) ∨
      0x3041 ≤ c.toNat := by
    simp only [isLetter, isLatin, isJamo, isIdeograph, isMark, Bool.or_eq_true, Bool.and_eq_true,
      decide_eq_true_eq, List.contains_iff_mem, ← List.mem_append] at h
    rcases h with (((h | h) | h) | h) | h
    · exact Or.inl h
    · omega
    · omega
    · exact Or.inr (Or.inr (hkana _ h))
    · have := hmark _ h
      omega
  simp only [isBlank, Bool.or_eq_false_iff, Bool.and_eq_false_iff, decide_eq_false_iff_not]
  omega

theorem decompose_of_toSpace {k : Nat} {codes : List Nat}
    (h : Table.Page Tables.compatibilityPages k (toSpace codes)) {c : Char}
    (hk : c.toNat / 256 = k) (hc : c.toNat ∈ codes) (hle : 0xA0 ≤ c.toNat) :
    decompose .compatibility c = [' '] := by
  obtain ⟨es, hes, hfind⟩ := h.find?_eq
  have hspace := of_decide_eq_true (List.all_eq_true.mp hes _ hc)
  have hf : Table.find? compatibilityTable c = some [' '] := by
    rw [compatibilityTable, hfind c hk, hspace]
    rfl
  simp [decompose, Nat.not_lt.mpr hle, hf]

theorem decompose_ideographicSpace : decompose .compatibility '\u3000' = [' '] :=
  decompose_of_toSpace
    (pageFacts.compatibleKana.imp fun _ h => (Bool.and_eq_true_iff.mp h).2)
    (by decide) (by decide) (by decide)

theorem decompose_wideSpace {c : Char} (h : c.toNat ∈ wideSpaces) :
    decompose .compatibility c = [' '] := by
  have hpage : ∀ n ∈ wideSpaces, n / 256 = 0x20 := by decide
  have hle : ∀ n ∈ wideSpaces, 0xA0 ≤ n := by decide
  exact decompose_of_toSpace
    (pageFacts.compatibleSpaces.imp fun _ h => (Bool.and_eq_true_iff.mp h).2)
    (hpage _ h) h (hle _ h)

theorem unlisted_of_lineEnd {c : Char} (h : c.toNat ∈ lineEnds) : Unlisted c := by
  have hpage : ∀ n ∈ lineEnds, n / 256 = 0x20 := by decide
  exact ⟨pageFacts.canonicalLineEnds.find?_of_silent (hpage _ h) h,
    (pageFacts.compatibleSpaces.imp
      fun _ h => (Bool.and_eq_true_iff.mp h).1).find?_of_silent (hpage _ h) h⟩

/-- White space decomposes to itself or to an ordinary space. -/
theorem decompose_blank {c : Char} (h : isBlank c = true) :
    decompose .compatibility c = [c] ∨ decompose .compatibility c = [' '] := by
  by_cases hlow : c.toNat < 0xA0
  · exact Or.inl (by simp [decompose, hlow])
  have hcode : c.toNat = 0xA0 ∨ c.toNat = 0x1680 ∨ c.toNat ∈ lineEnds ∨ c.toNat ∈ wideSpaces ∨
      c.toNat = 0x3000 := by
    simp only [isBlank, Bool.or_eq_true, Bool.and_eq_true, decide_eq_true_eq] at h
    simp only [lineEnds, wideSpaces, List.mem_cons, List.not_mem_nil, or_false]
    omega
  have hbase : 0x3000 < Hangul.base := by decide
  rcases hcode with h | h | h | h | h
  · exact Or.inr (decompose_of_toSpace pageFacts.compatibleLatin (by rw [h]) (by simp [h]) h.ge)
  · have hu : Unlisted c := unlisted_of_emptyPage (by rw [h]; decide)
    exact Or.inl (decompose_of_unlisted hu (by omega) _)
  · have hle : ∀ n ∈ lineEnds, n < 0x3000 := by decide
    exact Or.inl (decompose_of_unlisted (unlisted_of_lineEnd h) ((hle _ h).trans hbase) _)
  · exact Or.inr (decompose_wideSpace h)
  · obtain rfl : c = '\u3000' := Char.toNat_inj.mp h
    exact Or.inr decompose_ideographicSpace

theorem exists_blank_decompose {c : Char} (h : isBlank c = true) :
    ∃ d ∈ decompose .compatibility c, isBlank d = true := by
  rcases decompose_blank h with hc | hc <;> rw [hc]
  · exact ⟨c, by simp, h⟩
  · exact ⟨' ', by simp, by decide⟩

end HdProvision.Text
