import HdProvision.Proofs.Text.Caseless

/-!
# Accented names

A name of ASCII letters and letters with an accent is found again behind every text that folds to
its decomposed form, if each accent finds a letter to compose with. The long s is the only letter
that folds to an ASCII letter and does not compose as that letter does.
-/

set_option autoImplicit false

namespace HdProvision.Text

open Table

variable {c d k t : Char} {more xs ys name : List Char}

section Latin

theorem foldChar_longS : foldChar 'ſ' = ['s'] := foldChar_singleton (n := 0x17F) (by decide)

/-- Of the single characters that fold to a letter or an accent: itself, the long s or the
capital. -/
def FoldsLatin (c k : Char) : Prop :=
  c = k ∨ (c = 'ſ' ∧ k = 's') ∨ (c.toNat < 0x80 ∧ k.toNat = c.toNat + 0x20)

/-- An accent has no capital. -/
theorem FoldsLatin.eq_accent (h : FoldsLatin c k) (hk : 0x300 ≤ k.toNat) : c = k := by
  rcases h with h | ⟨-, rfl⟩ | h
  · exact h
  · exact absurd hk (by decide)
  · omega

/-- The other characters that fold to ASCII letters are ligatures. -/
theorem eq_of_foldChar (hc : decompose .canonical c = [c]) (h : foldChar c = k :: more)
    (hk : isLatinCode k.toNat = true)
    (hmore : ∀ e ∈ more.head?, isLatinCode e.toNat = true ∧ (k.toNat, e.toNat) ∉ ligatures) :
    more = [] ∧ FoldsLatin c k := by
  by_cases hself : foldChar c = [c]
  · rw [hself] at h
    obtain ⟨rfl, rfl⟩ := List.cons.inj h
    exact ⟨rfl, .inl rfl⟩
  have hf := (folds_or_foldChar c).resolve_right hself
  have hs : isSyllable c.toNat = false := by
    by_contra hs
    exact hself (foldChar_syllable (by simpa using hs))
  have hlatin := hf.latin (image_of_decompose hs hc)
  have hcodes := h
  rw [foldChar_eq] at hcodes
  -- the codes of `k` and of what stands behind it
  obtain ⟨n, ns, himage, rfl, rfl⟩ := List.map_eq_cons_iff.mp hcodes
  have hlone : ∀ m ∈ n :: ns, isLone m = true := fun m hm => (hf.stay m (himage ▸ hm)).1
  rw [FoldsLatin]
  rw [toNat_ofNat_of_lone (hlone n List.mem_cons_self)] at hk hmore ⊢
  rw [himage] at hlatin
  cases ns with
  | nil =>
    refine ⟨rfl, .inr ?_⟩
    simp only [spellsLatin, hk, Bool.or_eq_true, Bool.not_true, Bool.false_eq_true, false_or,
      decide_eq_true_eq, Bool.and_eq_true] at hlatin
    refine hlatin.imp_left fun hlong => ?_
    obtain rfl : c = 'ſ' := Char.toNat_inj.mp hlong
    rw [foldChar_longS] at h
    exact ⟨rfl, (List.cons.inj h).1.symm⟩
  | cons e ns =>
    -- only ligatures fold to two letters
    obtain ⟨he, hpair⟩ := hmore (Char.ofNat e) rfl
    rw [toNat_ofNat_of_lone (hlone e (by simp))] at he hpair
    simp [spellsLatin, hk, he, hpair] at hlatin

end Latin

section Letters

/-- An ASCII letter with an accent. -/
structure AccentedLetter where
  base : Char
  capital : Char
  accent : Char
  letter : Char
  capitalLetter : Char

/-- The accented letters that languages are named with. -/
def accentedLetters : List AccentedLetter :=
  [⟨'c', 'C', '\u0327', 'ç', 'Ç'⟩, ⟨'n', 'N', '\u0303', 'ñ', 'Ñ'⟩, ⟨'c', 'C', '\u030C', 'č', 'Č'⟩,
    ⟨'s', 'S', '\u030C', 'š', 'Š'⟩, ⟨'e', 'E', '\u0302', 'ê', 'Ê'⟩]

/-- What a letter consists of. -/
def letterParts (t : Char) : List Char :=
  match accentedLetters.find? (·.letter = t) with
  | some a => [a.base, a.accent]
  | none => [t]

/-- The small letter of a capital. -/
def smallLetter (c : Char) : Char :=
  match accentedLetters.find? (·.capitalLetter = c) with
  | some a => a.letter
  | none => c.toLower

theorem composite?_of_mem {x y : Nat} {z : Option Nat} (h : (x, y, z) ∈ composites) :
    composite? (Char.ofNat x) (Char.ofNat y) = z.map Char.ofNat := by
  have hlone : ∀ e ∈ composites,
      isLone e.1 = true ∧ isLone e.2.1 = true ∧ e.1 < Hangul.leadBase := by
    decide +kernel
  obtain ⟨hx, hy, hlow⟩ := hlone _ h
  have hjoin : Hangul.join? (Char.ofNat x) (Char.ofNat y) = none := by
    have hbase : ¬ Hangul.base ≤ x := by
      have : Hangul.leadBase < Hangul.base := by decide
      omega
    simp only [Hangul.join?, toNat_ofNat_of_lone hx, hbase, Nat.not_le.mpr hlow]
    rfl
  rw [composite?_eq, hjoin, toNat_ofNat_of_lone hx, toNat_ofNat_of_lone hy, pair?_composites h]
  rfl

/-- What is known of an accented letter. -/
structure AccentedLetter.Known (a : AccentedLetter) : Prop where
  composite : composite? a.base a.accent = some a.letter
  capitalComposite : composite? a.capital a.accent = some a.capitalLetter
  fold : foldChar a.letter = [a.letter]
  capitalFold : foldChar a.capitalLetter = [a.letter]
  accentFold : foldChar a.accent = [a.accent]
  codes : a.base.toNat < 0x80 ∧ a.base.toNat = a.capital.toNat + 0x20 ∧
    0x300 ≤ a.accent.toNat ∧ a.accent.toNat < 0x340

theorem AccentedLetter.known {a : AccentedLetter} (ha : a ∈ accentedLetters) : a.Known := by
  have hcodes : ∀ a ∈ accentedLetters,
      (a.base.toNat, a.accent.toNat, some a.letter.toNat) ∈ composites ∧
        (a.capital.toNat, a.accent.toNat, some a.capitalLetter.toNat) ∈ composites ∧
        (a.capitalLetter.toNat, a.letter.toNat) ∈ foldings ∧
        (a.accent.toNat, a.accent.toNat) ∈ foldings ∧
        a.base.toNat < 0x80 ∧ a.base.toNat = a.capital.toNat + 0x20 ∧
        0x300 ≤ a.accent.toNat ∧ a.accent.toNat < 0x340 := by
    decide
  obtain ⟨hsmall, hcapital, hfold, haccent, hrange⟩ := hcodes a ha
  have h₁ := composite?_of_mem hsmall
  have h₂ := composite?_of_mem hcapital
  have h₃ := foldChar_singleton hfold
  have h₄ := foldChar_singleton haccent
  simp only [Char.ofNat_toNat, Option.map_some] at h₁ h₂ h₃ h₄
  exact ⟨h₁, h₂, foldChar_foldChar (by simp [h₃] : a.letter ∈ foldChar a.capitalLetter), h₃, h₄,
    hrange⟩

end Letters

section Names

theorem decompose_ascii (h : c.toNat < 0x80) : decompose .canonical c = [c] := by
  simp [decompose, show c.toNat < 0xA0 by omega]

theorem AccentedLetter.Known.parts {a : AccentedLetter} (h : a.Known) :
    decompose .canonical a.letter = [a.base, a.accent] := by
  rw [(composing h.composite).parts, decompose_ascii h.codes.1]
  rfl

/-- What holds of the ASCII codes holds of the ASCII characters. -/
theorem forall_ascii {P : Char → Prop} (h : ∀ n < 0x80, P (Char.ofNat n)) (hc : c.toNat < 0x80) :
    P c := by
  have hall := h c.toNat hc
  rwa [Char.ofNat_toNat] at hall

theorem toLower_ascii (h : c.toNat < 0x80) : c.toLower.toNat < 0x80 :=
  forall_ascii (P := fun c => c.toLower.toNat < 0x80) (by decide) h

theorem foldChar_ascii (h : c.toNat < 0x80) : foldChar c = [c.toLower] :=
  forall_ascii (P := fun c => foldChar c = [c.toLower]) (by decide +kernel) h

/-- Text in ASCII. -/
def Ascii (cs : List Char) : Prop := ∀ c ∈ cs, c.toNat < 0x80

instance (cs : List Char) : Decidable (Ascii cs) := List.decidableBAll _ cs

theorem folded_ascii (h : Ascii xs) : folded xs = xs.map Char.toLower := by
  rw [folded, List.flatMap_congr fun c hc => foldChar_ascii (h c hc), ← List.map_eq_flatMap]

/-- ASCII letters and accented ones. -/
def Lettered (name : List Char) : Prop :=
  ∀ t ∈ name, t.toNat < 0x80 ∨ ∃ a ∈ accentedLetters, t = a.letter

instance (name : List Char) : Decidable (Lettered name) := List.decidableBAll _ name

/-- The first two letters of no ligature stand side by side. -/
def Unligated (cs : List Char) : Prop := cs.IsChain fun c d => (c.toNat, d.toNat) ∉ ligatures

instance (cs : List Char) : Decidable (Unligated cs) :=
  inferInstanceAs (Decidable (List.IsChain _ cs))

theorem Lettered.flatMap_eq (h : Lettered name) :
    name.flatMap (decompose .canonical) = name.flatMap letterParts := by
  have hhigh : ∀ a ∈ accentedLetters, 0x80 ≤ a.letter.toNat := by decide
  have hletter : ∀ a ∈ accentedLetters, letterParts a.letter = [a.base, a.accent] := by decide
  refine List.flatMap_congr fun t ht => ?_
  rcases h t ht with hlow | ⟨a, ha, rfl⟩
  · have hnone : accentedLetters.find? (·.letter = t) = none := by
      rw [List.find?_eq_none]
      intro a ha heq
      have := hhigh a ha
      rw [of_decide_eq_true heq] at this
      omega
    rw [decompose_ascii hlow, letterParts, hnone]
  · rw [(AccentedLetter.known ha).parts, hletter a ha]

theorem foldChar_letter
    (h : c.toNat < 0x80 ∨ ∃ a ∈ accentedLetters, c = a.letter ∨ c = a.capitalLetter) :
    foldChar c = [smallLetter c] := by
  have hhigh : ∀ a ∈ accentedLetters, 0x80 ≤ a.capitalLetter.toNat := by decide
  have hsmall : ∀ a ∈ accentedLetters,
      smallLetter a.letter = a.letter ∧ smallLetter a.capitalLetter = a.letter := by decide
  rcases h with hlow | ⟨a, ha, rfl | rfl⟩
  · have hnone : accentedLetters.find? (·.capitalLetter = c) = none := by
      rw [List.find?_eq_none]
      intro a ha heq
      have := hhigh a ha
      rw [of_decide_eq_true heq] at this
      omega
    rw [foldChar_ascii hlow, smallLetter, hnone]
  · rw [(AccentedLetter.known ha).fold, (hsmall a ha).1]
  · rw [(AccentedLetter.known ha).capitalFold, (hsmall a ha).2]

theorem Lettered.latin (h : Lettered name) :
    ∀ d ∈ name.flatMap (decompose .canonical), isLatinCode d.toNat = true := by
  intro d hd
  obtain ⟨t, ht, hdt⟩ := List.mem_flatMap.mp hd
  rcases h t ht with hlow | ⟨a, ha, rfl⟩
  · rw [decompose_ascii hlow, List.mem_singleton] at hdt
    simp [hdt, isLatinCode, hlow]
  · have hk := AccentedLetter.known ha
    obtain ⟨hbase, -, haccent⟩ := hk.codes
    rw [hk.parts] at hdt
    simp only [List.mem_cons, List.not_mem_nil, or_false] at hdt
    rcases hdt with rfl | rfl <;> simp [isLatinCode, *]

/-- What stands in front of a text whose first letter folds to the first one of a name. -/
theorem exists_of_folded_eq_cons (hy : Stable ys) (h : folded ys = k :: xs)
    (hlatin : ∀ d ∈ k :: xs, isLatinCode d.toNat = true) (hlig : Unligated (k :: xs)) :
    ∃ c cs, ys = c :: cs ∧ foldChar c = [k] ∧ folded cs = xs ∧ FoldsLatin c k := by
  cases ys with
  | nil => cases h
  | cons c cs =>
    obtain ⟨l, more, hfold⟩ := List.exists_cons_of_ne_nil (foldChar_ne_nil c)
    rw [folded, List.flatMap_cons, hfold, List.cons_append] at h
    obtain ⟨rfl, hrest⟩ := List.cons.inj h
    have hmore : ∀ e ∈ more.head?,
        isLatinCode e.toNat = true ∧ (l.toNat, e.toNat) ∉ ligatures := by
      intro e he
      cases more with
      | nil => cases he
      | cons e' more =>
        obtain ⟨rfl⟩ := he
        rw [← hrest] at hlatin hlig
        exact ⟨hlatin _ (by simp), (List.isChain_cons_cons.mp hlig).1⟩
    obtain ⟨rfl, hc⟩ :=
      eq_of_foldChar (hy c List.mem_cons_self) hfold (hlatin l List.mem_cons_self) hmore
    exact ⟨c, cs, rfl, hfold, hrest, hc⟩

theorem head_inert (h : folded ys = xs) (hxs : ∀ d ∈ xs.head?, d.toNat < 0x80) :
    ∀ c ∈ ys.head?, Inert c := by
  intro c hc
  cases ys with
  | nil => cases hc
  | cons c' ys =>
    obtain rfl : c' = c := Option.some.inj hc
    obtain ⟨l, more, hfold⟩ := List.exists_cons_of_ne_nil (foldChar_ne_nil c')
    have hl : l ∈ xs.head? := by
      rw [← h, folded, List.flatMap_cons, hfold]
      rfl
    exact inert_of_foldChar (hfold ▸ List.mem_cons_self) (hxs l hl)

theorem Lettered.head_ascii (h : Lettered name) :
    ∀ d ∈ (name.flatMap (decompose .canonical)).head?, d.toNat < 0x80 := by
  intro d hd
  cases name with
  | nil => cases hd
  | cons t name =>
    rcases h t List.mem_cons_self with hlow | ⟨a, ha, rfl⟩
    · rw [List.flatMap_cons, decompose_ascii hlow] at hd
      obtain ⟨rfl⟩ := hd
      exact hlow
    · have hk := AccentedLetter.known ha
      rw [List.flatMap_cons, hk.parts] at hd
      obtain ⟨rfl⟩ := hd
      exact hk.codes.1

theorem Lettered.tail (h : Lettered (t :: name)) : Lettered name :=
  fun d hd => h d (List.mem_cons_of_mem _ hd)

theorem longS_base : ∀ a ∈ accentedLetters, a.base = 's' → a.letter = 'š' := by
  decide

/-- What folds to the base of a letter composes with the accent as the base does, unless it is the
long s. -/
theorem AccentedLetter.Known.exists_composite {a : AccentedLetter} (h : a.Known)
    (hc : FoldsLatin c a.base) (hlong : a.base = 's' → c ≠ 'ſ') :
    ∃ p, composite? c a.accent = some p ∧ foldChar p = [a.letter] := by
  obtain ⟨-, hcapital, -⟩ := h.codes
  rcases hc with rfl | ⟨rfl, hs⟩ | ⟨-, hc⟩
  · exact ⟨_, h.composite, h.fold⟩
  · exact absurd rfl (hlong hs)
  · obtain rfl : c = a.capital := Char.toNat_inj.mp (by omega)
    exact ⟨_, h.capitalComposite, h.capitalFold⟩

/-- What composes to one letter is told apart from a rest that starts anew. -/
theorem folded_compose_append {p : Char} (hx : compose xs = [p]) (hp : foldChar p = [t])
    (hy : ∀ c ∈ ys.head?, Inert c) :
    folded (compose (xs ++ ys)) = t :: folded (compose ys) := by
  rw [compose_append_of_head hy, hx, folded, List.singleton_append, List.flatMap_cons, hp]
  rfl

/-- A text that folds to the decomposed form of a name composes to what folds to the name, as long
as no long s stands in the place of one with an accent. -/
theorem folded_compose (hname : Lettered name)
    (hlig : Unligated (name.flatMap (decompose .canonical))) (hy : Stable ys)
    (hlong : 'š' ∈ name → 'ſ' ∉ ys)
    (h : folded ys = name.flatMap (decompose .canonical)) : folded (compose ys) = name := by
  induction name generalizing ys with
  | nil =>
    cases ys with
    | nil => rfl
    | cons c ys =>
      obtain ⟨l, more, hfold⟩ := List.exists_cons_of_ne_nil (foldChar_ne_nil c)
      rw [folded, List.flatMap_cons, hfold] at h
      cases h
  | cons t name ih =>
    have hlatin := hname.latin
    rcases hname t List.mem_cons_self with hlow | ⟨a, ha, rfl⟩
    · -- an ASCII letter
      rw [List.flatMap_cons, decompose_ascii hlow, List.singleton_append] at h hlig hlatin
      obtain ⟨c, cs, rfl, hfold, hrest, -⟩ := exists_of_folded_eq_cons hy h hlatin hlig
      have hc : Inert c := inert_of_foldChar (hfold ▸ List.mem_cons_self) hlow
      have hone : compose [c] = [c] := compose_of_inert (by simpa using hc)
      have hcs := ih hname.tail hlig.of_cons (fun d hd => hy d (by simp [hd]))
        (fun hs hmem => hlong (by simp [hs]) (by simp [hmem])) hrest
      rw [← List.singleton_append,
        folded_compose_append hone hfold (head_inert hrest hname.tail.head_ascii), hcs]
    · -- a letter and its accent
      have hk := AccentedLetter.known ha
      obtain ⟨hbase, -, haccent, -⟩ := hk.codes
      rw [List.flatMap_cons, hk.parts, List.cons_append, List.singleton_append] at h hlig hlatin
      obtain ⟨c, cs, rfl, hfold, hrest, hc⟩ := exists_of_folded_eq_cons hy h hlatin hlig
      have hcs : Stable cs := fun d hd => hy d (by simp [hd])
      obtain ⟨m, ms, rfl, -, hrest', hm⟩ := exists_of_folded_eq_cons hcs hrest
        (fun d hd => hlatin d (List.mem_cons_of_mem _ hd)) hlig.of_cons
      obtain rfl := hm.eq_accent haccent
      have hms := ih hname.tail hlig.of_cons.of_cons (fun d hd => hcs d (by simp [hd]))
        (fun hs hmem => hlong (by simp [hs]) (by simp [hmem])) hrest'
      obtain ⟨p, hp, hpfold⟩ := hk.exists_composite hc fun hs hlongS =>
        hlong (by simp [longS_base a ha hs]) (by simp [hlongS])
      have hstart : Inert c := inert_of_foldChar (hfold ▸ List.mem_cons_self) hbase
      have hpair : compose [c, a.accent] = [p] := compose_pair hstart.unclassed hp
      have happend := folded_compose_append hpair hpfold (head_inert hrest' hname.tail.head_ascii)
      rwa [hms] at happend

end Names

end HdProvision.Text
