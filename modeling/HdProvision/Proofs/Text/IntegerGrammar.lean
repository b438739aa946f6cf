import HdProvision.Proofs.Text.Integer
import HdProvision.Proofs.Text.Numeral

/-!
# Which texts are integers

The grammar of integers, apart from the reader: digits with single low lines between them, behind a
sign or behind none, with padding around. The reader takes exactly these texts, as long as the digits
are not too many, and it reads what is written for an integer.
-/

set_option autoImplicit false

namespace HdProvision.Text

namespace Integer

/-- Digits with single low lines between them, how many digits they are, and their number. -/
inductive Digits : List Char → Nat → Nat → Prop
  | first {c : Char} {d : Nat} (h : digit? c = some d) : Digits [c] 1 d
  | next {cs : List Char} {count n : Nat} {c : Char} {d : Nat} (hcs : Digits cs count n)
      (h : digit? c = some d) : Digits (cs ++ [c]) (count + 1) (10 * n + d)
  | line {cs : List Char} {count n : Nat} {c : Char} {d : Nat} (hcs : Digits cs count n)
      (h : digit? c = some d) : Digits (cs ++ ['_', c]) (count + 1) (10 * n + d)

/-- What a sign makes of a number. -/
inductive Sign : List Char → Nat → Int → Prop
  | none (n : Nat) : Sign [] n n
  | plus (n : Nat) : Sign ['+'] n n
  | minus (n : Nat) : Sign ['-'] n (-n)

/-- A text and the integer that it spells. -/
inductive Spells : List Char → Int → Prop
  | intro {front sign digits back : List Char} {count n : Nat} {i : Int}
      (hfront : ∀ c ∈ front, isPadding c = true) (hback : ∀ c ∈ back, isPadding c = true)
      (hsign : Sign sign n i) (hdigits : Digits digits count n) (hcount : count ≤ maxDigits) :
      Spells (front ++ (sign ++ digits) ++ back) i

variable {cs digits sign : List Char} {count n : Nat} {i : Int}

theorem digit?_lt {c : Char} {d : Nat} (h : digit? c = some d) : d < 10 := by
  rw [digit?] at h
  split at h
  · split at h
    · next hrange =>
      simp only [Bool.and_eq_true, decide_eq_true_eq] at hrange
      cases h
      omega
    · cases h
  · obtain ⟨z, hz, rfl⟩ := Option.map_eq_some_iff.mp h
    have hrange := List.find?_some hz
    simp only [Bool.and_eq_true, decide_eq_true_eq] at hrange
    omega

theorem Digits.lt (h : Digits digits count n) : n < 10 ^ count := by
  induction h with
  | first h => simpa using digit?_lt h
  | next _ h ih =>
    have hd := digit?_lt h
    rw [pow_succ]
    omega
  | line _ h ih =>
    have hd := digit?_lt h
    rw [pow_succ]
    omega

theorem Digits.pos (h : Digits digits count n) : 0 < count := by
  cases h <;> omega

theorem Digits.head (h : Digits digits count n) : ∃ c ds d, digits = c :: ds ∧ digit? c = some d := by
  induction h with
  | first h => exact ⟨_, [], _, rfl, h⟩
  | next _ _ ih =>
    obtain ⟨c, ds, d, rfl, hc⟩ := ih
    exact ⟨c, _, d, rfl, hc⟩
  | line _ _ ih =>
    obtain ⟨c, ds, d, rfl, hc⟩ := ih
    exact ⟨c, _, d, rfl, hc⟩

/-- Behind digits that were read the rest is read with their number. -/
theorem Digits.digitsFrom_append (h : Digits digits count n) (rest : List Char) :
    digitsFrom 0 0 false (digits ++ rest) = digitsFrom n count true rest := by
  have hline : digit? '_' = none := by decide
  induction h generalizing rest with
  | first h => simp [digitsFrom, h]
  | next _ h ih => simp [ih, digitsFrom, h]
  | line _ h ih => simp [ih, digitsFrom, h, hline]

/-- What was read before: digits, digits and a low line, or nothing. -/
inductive Before : List Char → Nat → Nat → Bool → Prop
  | nothing : Before [] 0 0 false
  | digits {cs : List Char} {count n : Nat} (h : Digits cs count n) : Before cs count n true
  | line {cs : List Char} {count n : Nat} (h : Digits cs count n) :
      Before (cs ++ ['_']) count n false

theorem Before.digit {ready : Bool} {c : Char} {d : Nat} (h : Before cs count n ready)
    (hc : digit? c = some d) : Digits (cs ++ [c]) (count + 1) (10 * n + d) := by
  cases h with
  | nothing => simpa using Digits.first hc
  | digits h => exact h.next hc
  | line h => simpa using h.line hc

theorem Before.digits_of_digitsFrom {before : List Char} {ready : Bool} {m : Nat}
    (hbefore : Before before count n ready) (h : digitsFrom n count ready cs = some m) :
    ∃ total, Digits (before ++ cs) total m ∧ total ≤ maxDigits := by
  induction cs generalizing before count n ready with
  | nil =>
    rw [digitsFrom] at h
    split at h
    · next hready =>
      simp only [Bool.and_eq_true, decide_eq_true_eq] at hready
      obtain ⟨rfl, hcount⟩ := hready
      cases hbefore with
      | digits hdigits =>
        cases h
        exact ⟨count, by simpa using hdigits, hcount⟩
    · cases h
  | cons c cs ih =>
    rw [digitsFrom] at h
    split at h
    · next d hd =>
      obtain ⟨total, hdigits, htotal⟩ := ih (.digits (hbefore.digit hd)) h
      exact ⟨total, by simpa using hdigits, htotal⟩
    · split at h
      · next hline =>
        simp only [Bool.and_eq_true, decide_eq_true_eq] at hline
        obtain ⟨rfl, rfl⟩ := hline
        cases hbefore with
        | digits hdigits =>
          obtain ⟨total, hdigits, htotal⟩ := ih (.line hdigits) h
          exact ⟨total, by simpa using hdigits, htotal⟩
      · cases h

theorem digitsFrom_eq_some_iff {m : Nat} :
    digitsFrom 0 0 false cs = some m ↔ ∃ count, Digits cs count m ∧ count ≤ maxDigits := by
  constructor
  · exact fun h => Before.nothing.digits_of_digitsFrom h
  · rintro ⟨count, hdigits, hcount⟩
    have hread := hdigits.digitsFrom_append []
    rw [List.append_nil] at hread
    simp [hread, digitsFrom, hcount]

/-- Nothing that an integer is written with is padding. -/
theorem isPadding_of_writes {c : Char} (h : Writes c) : isPadding c = false := by
  by_contra hpadding
  rw [Bool.not_eq_false, isPadding, Bool.and_eq_true] at hpadding
  exact not_writes_of_blank hpadding.1 h

theorem trim_of_spelled {front back : List Char} (hfront : ∀ c ∈ front, isPadding c = true)
    (hback : ∀ c ∈ back, isPadding c = true) (hsign : Sign sign n i)
    (hdigits : Digits digits count n) (hcount : count ≤ maxDigits) :
    trim isPadding (front ++ (sign ++ digits) ++ back) = sign ++ digits := by
  rw [trim_append hfront hback]
  apply trim_eq_self
  intro c hc
  apply isPadding_of_writes
  have hread := digitsFrom_eq_some_iff.mpr ⟨count, hdigits, hcount⟩
  rcases List.mem_append.mp hc with hc | hc
  · cases hsign <;> simp_all [Writes]
  · exact writes_of_digitsFrom hread c hc

/-- The reader takes the texts that spell an integer, and no others. -/
theorem ofChars?_eq_some_iff : ofChars? cs = some i ↔ Spells cs i := by
  constructor
  · intro h
    obtain ⟨front, back, hcs, hfront, hback⟩ := exists_trim isPadding cs
    have hread : ∀ {sign digits : List Char} {f : Int → Int}, (∀ m : Nat, Sign sign m (f m)) →
        trim isPadding cs = sign ++ digits →
        ((digitsFrom 0 0 false digits).bind fun m => some (m : Int)).map f = some i →
        Spells cs i := by
      intro sign digits f hsign htrim hmap
      obtain ⟨j, hj, rfl⟩ := Option.map_eq_some_iff.mp hmap
      obtain ⟨m, hm, hmj⟩ := Option.bind_eq_some_iff.mp hj
      cases hmj
      obtain ⟨count, hdigits, hcount⟩ := digitsFrom_eq_some_iff.mp hm
      rw [hcs, htrim]
      exact .intro hfront hback (hsign m) hdigits hcount
    rw [ofChars?] at h
    split at h
    · next htrim => exact hread .minus htrim h
    · next htrim => exact hread .plus htrim h
    · exact hread .none (List.nil_append _).symm h
  · rintro ⟨hfront, hback, hsign, hdigits, hcount⟩
    have hread := digitsFrom_eq_some_iff.mpr ⟨_, hdigits, hcount⟩
    have hminus : digit? '-' = none := by decide
    have hplus : digit? '+' = none := by decide
    rw [ofChars?, trim_of_spelled hfront hback hsign hdigits hcount]
    cases hsign with
    | none n =>
      obtain ⟨c, ds, d, rfl, hc⟩ := hdigits.head
      have hc₁ : c ≠ '-' := by rintro rfl; simp [hminus] at hc
      have hc₂ : c ≠ '+' := by rintro rfl; simp [hplus] at hc
      simp [hread, hc₁, hc₂]
    | plus n => simp [hread]
    | minus n => simp [hread]

/-- An integer has no more digits than the text that spells it. -/
def Fits (i : Int) : Prop := (natChars i.natAbs).length ≤ maxDigits

theorem fits_of_spells (h : Spells cs i) : Fits i := by
  obtain ⟨hfront, hback, hsign, hdigits, hcount⟩ := h
  have hlength := length_natChars_le hdigits.pos hdigits.lt
  cases hsign <;> simp only [Fits, Int.natAbs_neg, Int.natAbs_natCast] <;> omega

theorem digit?_digitChar : ∀ d, d < 10 → digit? (digitChar d) = some d := by decide

theorem digits_natChars (n : Nat) : Digits (natChars n) (natChars n).length n := by
  apply natChars_induction (P := fun n cs => Digits cs cs.length n)
  · exact fun n hn => .first (digit?_digitChar n hn)
  · intro n _ ih
    have hnext := ih.next (digit?_digitChar (n % 10) (Nat.mod_lt n (by decide)))
    rw [Nat.div_add_mod] at hnext
    simpa using hnext

/-- What is written for an integer spells it. -/
theorem spells_chars (h : Fits i) : Spells (chars i) i := by
  have hspells : ∀ {sign : List Char} {n : Nat}, Sign sign n i → n = i.natAbs →
      Spells (sign ++ natChars n) i := by
    intro sign n hsign hn
    subst hn
    have hpadded : Spells ([] ++ (sign ++ natChars i.natAbs) ++ []) i :=
      .intro (by simp) (by simp) hsign (digits_natChars _) h
    simpa using hpadded
  cases i with
  | ofNat n => exact hspells (.none n) rfl
  | negSucc n => exact hspells (.minus (n + 1)) rfl

/-- A character that no integer is written with does not stand in its text. -/
theorem not_mem_chars {c : Char} (hminus : c ≠ '-') (hdigit : Json.Reader.isDigit c = false) :
    c ∉ chars i := by
  have hnat : ∀ n, c ∉ natChars n := by
    intro n hc
    rw [isDigit_natChars n c hc] at hdigit
    cases hdigit
  cases i with
  | ofNat n => exact hnat n
  | negSucc n => simp [chars, hminus, hnat]

end Integer
end HdProvision.Text
