import Mathlib.Data.List.DropRight
import Mathlib.Data.List.TakeWhile
import HdProvision.Proofs.Text.Tables
import HdProvision.Text.Integer

/-!
# Reading integers

An integer text holds digits, low lines, a sign and padding, and nothing else. White space behind it
is padding if the text is read at all, and can be left out.
-/

set_option autoImplicit false

namespace HdProvision.Text

variable {p : Char → Bool} {c : Char} {cs : List Char}

theorem trim_append_of_pos (h : p c = true) (cs : List Char) : trim p (cs ++ [c]) = trim p cs := by
  rw [trim, trim, List.dropWhile_append]
  by_cases hcs : cs.dropWhile p = [] <;> simp [hcs, h]

theorem trim_append {front back : List Char} (hfront : ∀ c ∈ front, p c = true)
    (hback : ∀ c ∈ back, p c = true) (cs : List Char) :
    trim p (front ++ cs ++ back) = trim p cs := by
  have hfirst : trim p (front ++ cs) = trim p cs := by
    rw [trim, List.dropWhile_append_of_pos hfront, ← trim]
  rw [← hfirst]
  induction back using List.reverseRecOn with
  | nil => rw [List.append_nil]
  | append_singleton back c ih =>
    rw [← List.append_assoc, trim_append_of_pos (hback c (by simp))]
    exact ih fun d hd => hback d (by simp [hd])

theorem trim_append_of_neg (h : p c = false) (cs : List Char) :
    ∃ front, trim p (cs ++ [c]) = front ++ [c] := by
  rw [trim, List.dropWhile_append]
  by_cases hcs : cs.dropWhile p = []
  · exact ⟨[], by simp [hcs, h]⟩
  · exact ⟨cs.dropWhile p, by simp [hcs, h]⟩

/-- Behind something that is not trimmed only the end is. -/
theorem trim_cons_of_neg (h : p c = false) (cs : List Char) :
    trim p (c :: cs) = (c :: cs).rdropWhile p := by
  rw [trim, List.dropWhile_cons_of_neg (by simp [h])]
  rfl

theorem trim_eq_self (h : ∀ c ∈ cs, p c = false) : trim p cs = cs := by
  cases cs with
  | nil => rfl
  | cons c cs =>
    rw [trim_cons_of_neg (h c (by simp)), List.rdropWhile_eq_self_iff]
    intro hne
    simp [h _ (List.getLast_mem hne)]

theorem exists_trim (p : Char → Bool) (cs : List Char) : ∃ front back,
    cs = front ++ trim p cs ++ back ∧ (∀ c ∈ front, p c = true) ∧ ∀ c ∈ back, p c = true := by
  refine ⟨cs.takeWhile p, ((cs.dropWhile p).reverse.takeWhile p).reverse, ?_, ?_, ?_⟩
  · rw [List.append_assoc, trim, ← List.reverse_append, List.takeWhile_append_dropWhile,
      List.reverse_reverse, List.takeWhile_append_dropWhile]
  · exact fun c hc => List.mem_takeWhile_imp hc
  · exact fun c hc => List.mem_takeWhile_imp (List.mem_reverse.mp hc)

/-- Trimming takes away what is trimmed and nothing else. -/
theorem mem_trim_or (p : Char → Bool) (h : c ∈ cs) : c ∈ trim p cs ∨ p c = true := by
  obtain ⟨front, back, hcs, hfront, hback⟩ := exists_trim p cs
  rw [hcs, List.mem_append, List.mem_append] at h
  rcases h with (h | h) | h
  · exact Or.inr (hfront c h)
  · exact Or.inl h
  · exact Or.inr (hback c h)

theorem trim_eq_nil_iff : trim p cs = [] ↔ ∀ c ∈ cs, p c = true := by
  constructor
  · intro h
    obtain ⟨front, back, hcs, hfront, hback⟩ := exists_trim p cs
    rw [h, List.append_nil] at hcs
    rw [hcs]
    exact fun c hc => (List.mem_append.mp hc).elim (hfront c) (hback c)
  · intro h
    have htrim : trim p (cs ++ [] ++ []) = trim p [] := trim_append h (by simp) []
    simpa [trim] using htrim

/-- White space by its code points. -/
def blankCodes : List Nat :=
  [0x09, 0x0A, 0x0B, 0x0C, 0x0D, 0x1C, 0x1D, 0x1E, 0x1F, 0x20, 0x85, 0xA0, 0x1680, 0x2000, 0x2001,
    0x2002, 0x2003, 0x2004, 0x2005, 0x2006, 0x2007, 0x2008, 0x2009, 0x200A, 0x2028, 0x2029, 0x202F,
    0x205F, 0x3000]

/-- What lies between bounds is listed if all between them are. -/
theorem mem_of_between {codes : List Nat} {lo n : Nat} (count : Nat)
    (hall : ∀ m ∈ List.range' lo count, m ∈ codes) (hlo : lo ≤ n) (hhi : n < lo + count) :
    n ∈ codes :=
  hall n (List.mem_range'_1.mpr ⟨hlo, hhi⟩)

theorem mem_blankCodes (h : isBlank c = true) : c.toNat ∈ blankCodes := by
  simp only [isBlank, Bool.or_eq_true, Bool.and_eq_true, decide_eq_true_eq] at h
  rcases h with (((((((((h | h) | h) | h) | h) | h) | h) | h) | h) | h) | h
  any_goals
    rw [h]
    decide
  · exact mem_of_between 5 (by decide) h.1 (by omega)
  · exact mem_of_between 5 (by decide) h.1 (by omega)
  · exact mem_of_between 11 (by decide) h.1 (by omega)

/-- What holds of the listed characters holds of all white space. -/
theorem of_blank (P : Char → Prop) (hall : ∀ n ∈ blankCodes, P (Char.ofNat n))
    (h : isBlank c = true) : P c := by
  have hc := hall _ (mem_blankCodes h)
  rwa [Char.ofNat_toNat] at hc

namespace Integer

/-- A character that an integer text may hold between its padding. -/
def Writes (c : Char) : Prop := (digit? c).isSome ∨ c = '_' ∨ c = '-' ∨ c = '+'

instance (c : Char) : Decidable (Writes c) := by
  unfold Writes
  infer_instance

/-- Whether some numbers are no digits, given by the zeros of the digits. -/
def digitless (codes zeros : List Nat) : Bool :=
  zeros.all fun z => codes.all fun n => n < z || z + 10 ≤ n

theorem digitless_blankCodes : digitless blankCodes zeros = true := by
  apply Table.entries_of_spelled fun es => digitless blankCodes (es.filterMap List.head?)
  · repeat apply Table.spelled_cons
    exact Table.spelled_nil
  · decide +kernel

theorem digit?_of_digitless {codes : List Nat} (h : digitless codes zeros = true)
    (hascii : ∀ n ∈ codes, n < 48 ∨ 57 < n) (hc : c.toNat ∈ codes) : digit? c = none := by
  rw [digit?]
  split
  · have := hascii _ hc
    rw [if_neg (by simp only [Bool.and_eq_true, decide_eq_true_eq]; omega)]
  · rw [Option.map_eq_none_iff, List.find?_eq_none]
    intro z hz
    have := List.all_eq_true.mp (List.all_eq_true.mp h z hz) _ hc
    simp only [Bool.or_eq_true, Bool.and_eq_true, decide_eq_true_eq] at this ⊢
    omega

theorem not_writes_of_blank (h : isBlank c = true) : ¬ Writes c := by
  rintro (hdigit | rfl | rfl | rfl)
  · rw [digit?_of_digitless digitless_blankCodes (by decide) (mem_blankCodes h)] at hdigit
    cases hdigit
  · exact absurd h (by decide)
  · exact absurd h (by decide)
  · exact absurd h (by decide)

/-- Digits that are read are digits and low lines. -/
theorem writes_of_digitsFrom {acc count : Nat} {ready : Bool} {n : Nat}
    (h : digitsFrom acc count ready cs = some n) : ∀ d ∈ cs, Writes d := by
  induction cs generalizing acc count ready with
  | nil => simp
  | cons c cs ih =>
    rw [digitsFrom] at h
    rw [List.forall_mem_cons]
    split at h
    · next hdigit => exact ⟨Or.inl (by simp [hdigit]), ih h⟩
    · split at h
      · next hline =>
        simp only [Bool.and_eq_true, decide_eq_true_eq] at hline
        exact ⟨Or.inr (Or.inl hline.1), ih h⟩
      · cases h

/-- An integer text is digits behind a sign or behind none, with padding around them. -/
theorem ofChars?_cases {n : Int} (h : ofChars? cs = some n) :
    ∃ sign digits m, trim isPadding cs = sign ++ digits ∧ digitsFrom 0 0 false digits = some m ∧
      ∀ d ∈ sign, Writes d := by
  have hread : ∀ (f : Int → Int) (digits : List Char),
      ((digitsFrom 0 0 false digits).bind fun m => some (m : Int)).map f = some n →
        ∃ m, digitsFrom 0 0 false digits = some m := by
    intro f digits hmap
    cases hdigits : digitsFrom 0 0 false digits with
    | none => simp [hdigits] at hmap
    | some m => exact ⟨m, rfl⟩
  rw [ofChars?] at h
  split at h
  · next rest htrim =>
    obtain ⟨m, hm⟩ := hread _ rest h
    exact ⟨['-'], rest, m, htrim, hm, by simp [Writes]⟩
  · next rest htrim =>
    obtain ⟨m, hm⟩ := hread _ rest h
    exact ⟨['+'], rest, m, htrim, hm, by simp [Writes]⟩
  · obtain ⟨m, hm⟩ := hread _ _ h
    exact ⟨[], _, m, rfl, hm, by simp⟩

theorem writes_or_padding {n : Int} (h : ofChars? cs = some n) :
    ∀ d ∈ cs, Writes d ∨ isPadding d = true := by
  obtain ⟨sign, digits, m, htrim, hdigits, hsign⟩ := ofChars?_cases h
  intro d hd
  rcases mem_trim_or isPadding hd with hinner | hpadding
  · rw [htrim, List.mem_append] at hinner
    exact Or.inl (hinner.elim (hsign d) (writes_of_digitsFrom hdigits d))
  · exact Or.inr hpadding

/-- Padding behind an integer changes nothing. -/
theorem ofChars?_append_padding (h : isPadding c = true) (cs : List Char) :
    ofChars? (cs ++ [c]) = ofChars? cs := by
  rw [ofChars?, trim_append_of_pos h, ← ofChars?]

/-- White space that stands behind an integer is padding. -/
theorem isPadding_of_blank {n : Int} (hblank : isBlank c = true)
    (h : ofChars? (cs ++ [c]) = some n) : isPadding c = true := by
  by_contra hpadding
  rw [Bool.not_eq_true] at hpadding
  obtain ⟨front, hfront⟩ := trim_append_of_neg hpadding cs
  obtain ⟨sign, digits, m, htrim, hdigits, hsign⟩ := ofChars?_cases h
  rw [hfront] at htrim
  have hwrites : Writes c := by
    have hmem : c ∈ sign ++ digits := by simp [← htrim]
    exact (List.mem_append.mp hmem).elim (hsign c) (writes_of_digitsFrom hdigits c)
  exact not_writes_of_blank hblank hwrites

/-- White space behind an integer can be left out. -/
theorem ofChars?_of_append_blank {n : Int} (hblank : isBlank c = true)
    (h : ofChars? (cs ++ [c]) = some n) : ofChars? cs = some n := by
  rwa [ofChars?_append_padding (isPadding_of_blank hblank h)] at h

end Integer
end HdProvision.Text
