import HdProvision.Proofs.Text.Entries

/-!
# Case folding beside decomposition and composition

What case folding, canonical decomposition and composition do to a single character, and what they
leave alone.
-/

set_option autoImplicit false

namespace HdProvision.Text

open Table

variable {a b c d p : Char} {codes : List Nat}

section Codes

/-- The characters of code points. -/
def chars (codes : List Nat) : List Char := codes.map Char.ofNat

theorem toNat_ofNat_of_lone {n : Nat} (h : isLone n = true) : (Char.ofNat n).toNat = n := by
  have hvalid : n.isValidChar := by
    simp only [isLone, Bool.and_eq_true] at h
    exact of_decide_eq_true h.1
  rw [Char.ofNat, dif_pos hvalid]
  rfl

theorem isSyllable_of_lone {n : Nat} (h : isLone n = true) : isSyllable n = false := by
  simp only [isLone, Bool.and_eq_true, Bool.not_eq_true'] at h
  exact h.2

theorem isLone_toNat (h : isSyllable c.toNat = false) : isLone c.toNat = true := by
  have hvalid : c.toNat.isValidChar := c.valid
  simp [isLone, hvalid, h]

theorem isBlank_eq (c : Char) : isBlank c = isBlankCode c.toNat := by
  rw [isBlankCode, testBit_mask, Bool.eq_iff_iff, decide_eq_true_eq]
  refine ⟨mem_blankCodes, fun h => ?_⟩
  have hall : ∀ n ∈ blankCodes, isBlank (Char.ofNat n) = true := by decide +kernel
  simpa using hall _ h

/-- Only the characters below the first key are told apart from a look into the table. -/
theorem decompose_eq (h : isSyllable c.toNat = false) :
    decompose .canonical c = chars (image canonicalTable c.toNat) := by
  have hletters : Hangul.letters? c = none := by
    simp only [isSyllable] at h
    simp [Hangul.letters?, h]
  rw [decompose]
  split
  · next hlow =>
    have himage := (decomposes_or c.toNat).resolve_left fun hd => absurd hd.high (by omega)
    simp [himage, chars]
  · simp only [hletters, Option.orElse_none]
    exact find?_eq_image canonicalTable c

theorem isUpper_iff : c.isUpper = true ↔ 0x41 ≤ c.toNat ∧ c.toNat ≤ 0x5A := by
  have h : c.isUpper = true ↔ c.val ≥ 65 ∧ c.val ≤ 90 := decide_eq_true_iff
  rw [h]
  exact Iff.rfl

theorem foldChar_eq (c : Char) : foldChar c = chars (image foldingTable c.toNat) := by
  rw [foldChar]
  split
  · next hupper =>
    have hcode : c.toNat ∈ List.range' 0x41 26 := by
      rw [isUpper_iff] at hupper
      rw [List.mem_range'_1]
      omega
    have hlower : ∀ n ∈ List.range' 0x41 26, (Char.ofNat n).toLower = Char.ofNat (n + 0x20) := by
      decide
    have himage : image foldingTable c.toNat = [c.toNat + 0x20] :=
      image_folding (List.mem_append_right _ (List.mem_map.mpr ⟨_, hcode, rfl⟩))
    have := hlower _ hcode
    rw [Char.ofNat_toNat] at this
    rw [himage, this]
    rfl
  · split
    · next hupper hlow =>
      have himage := (folds_or c.toNat).resolve_left fun hf =>
        hupper (isUpper_iff.mpr (hf.ascii hlow))
      simp [himage, chars]
    · exact find?_eq_image foldingTable c

theorem flatMap_decompose_chars (h : ∀ n ∈ codes, isLone n = true) :
    (chars codes).flatMap (decompose .canonical) =
      chars (codes.flatMap (image canonicalTable)) := by
  induction codes with
  | nil => rfl
  | cons n codes ih =>
    obtain ⟨hn, hcodes⟩ := List.forall_mem_cons.mp h
    have hsyllable : isSyllable (Char.ofNat n).toNat = false := by
      rw [toNat_ofNat_of_lone hn, isSyllable_of_lone hn]
    rw [chars, List.map_cons, List.flatMap_cons, decompose_eq hsyllable, toNat_ofNat_of_lone hn,
      ← chars, ih hcodes, List.flatMap_cons]
    simp [chars]

theorem flatMap_foldChar_chars (h : ∀ n ∈ codes, isLone n = true) :
    (chars codes).flatMap foldChar = chars (codes.flatMap (image foldingTable)) := by
  induction codes with
  | nil => rfl
  | cons n codes ih =>
    obtain ⟨hn, hcodes⟩ := List.forall_mem_cons.mp h
    rw [chars, List.map_cons, List.flatMap_cons, foldChar_eq, toNat_ofNat_of_lone hn,
      ← chars, ih hcodes, List.flatMap_cons]
    simp [chars]

theorem isLone_image_canonical {n : Nat} (h : isLone n = true) :
    ∀ d ∈ image canonicalTable n, isLone d = true := by
  rcases decomposes_or n with hd | hn
  · exact fun d hmem => (hd.stay d hmem).1
  · simpa [hn] using h

theorem isLone_image_folding {n : Nat} (h : isLone n = true) :
    ∀ d ∈ image foldingTable n, isLone d = true := by
  rcases folds_or n with hf | hn
  · exact fun d hmem => (hf.stay d hmem).1
  · simpa [hn] using h

end Codes

section Syllables

/-- The pages of the folding table without an entry: jamo, ideographs and syllables. -/
theorem lookup_caseFolding :
    ∀ k ∈ 0x11 :: List.range' 0x4E 0x52 ++ List.range' 0xAC 0x2C,
      Tables.caseFoldingPages.lookup k = none := by
  decide +kernel

theorem foldChar_of_no_page (h : Tables.caseFoldingPages.lookup (c.toNat / 256) = none) :
    foldChar c = [c] := by
  have hpage : foldingTable.lookup (c.toNat / 256) = none := by
    rw [foldingTable, lookup_pages, h]
    rfl
  rw [foldChar_eq, image_of_no_page hpage]
  simp [chars]

theorem isUncased_iff {n : Nat} :
    isUncased n = true ↔ (0x1100 ≤ n ∧ n < 0x1200) ∨ (0x4E00 ≤ n ∧ n < 0xA000) := by
  simp [isUncased, isJamo, isIdeograph]

theorem isSyllable_iff {n : Nat} : isSyllable n = true ↔ 0xAC00 ≤ n ∧ n < 0xD7A4 := by
  rw [isSyllable, Bool.and_eq_true, decide_eq_true_eq, decide_eq_true_eq]
  rfl

theorem foldChar_uncased (h : isUncased c.toNat = true) : foldChar c = [c] := by
  rw [isUncased_iff] at h
  apply foldChar_of_no_page
  apply lookup_caseFolding
  simp only [List.cons_append, List.mem_append, List.mem_cons, List.mem_range'_1]
  omega

theorem foldChar_syllable (h : isSyllable c.toNat = true) : foldChar c = [c] := by
  rw [isSyllable_iff] at h
  apply foldChar_of_no_page
  apply lookup_caseFolding
  simp only [List.cons_append, List.mem_append, List.mem_cons, List.mem_range'_1]
  omega

theorem decompose_uncased (h : isUncased c.toNat = true) : decompose .canonical c = [c] := by
  rw [isUncased_iff] at h
  have hpage : c.toNat / 256 ∈ emptyPages := by
    simp only [emptyPages, List.mem_cons, List.mem_range'_1]
    omega
  exact decompose_of_unlisted (unlisted_of_emptyPage hpage) (by simp only [Hangul.base]; omega) _

/-- The letter that stands some places behind the first of its kind. -/
theorem toNat_jamo {first i : Nat} (hi : first + i < 0x1200) :
    (Char.ofNat (first + i)).toNat = first + i := by
  apply toNat_ofNat_of_lone
  have hvalid : (first + i).isValidChar := .inl (by omega)
  have hlow : ¬ Hangul.base ≤ first + i := by simp only [Hangul.base]; omega
  simp [isLone, hvalid, isSyllable, hlow]

/-- The letters of a syllable by its place among the syllables. -/
def syllableLetters (i : Nat) : List Char :=
  let lead := Char.ofNat (Hangul.leadBase + i / 588)
  let vowel := Char.ofNat (Hangul.vowelBase + i % 588 / 28)
  if i % 28 = 0 then [lead, vowel] else [lead, vowel, Char.ofNat (Hangul.tailBase + i % 28)]

theorem decompose_of_letters? {ls : List Char} (hhigh : ¬ c.toNat < 0xA0)
    (h : Hangul.letters? c = some ls) : decompose .canonical c = ls := by
  rw [decompose, if_neg hhigh]
  simp only [h, Option.orElse_some, Option.getD_some]

theorem decompose_syllable (h : isSyllable c.toNat = true) :
    decompose .canonical c = syllableLetters (c.toNat - Hangul.base) := by
  have hrange := isSyllable_iff.mp h
  apply decompose_of_letters? (by omega)
  rw [isSyllable] at h
  simp only [Hangul.letters?, syllableLetters, h, if_true]

/-- The letters of a syllable have no case. -/
theorem isUncased_syllableLetters {i : Nat} (hi : i < 11172) :
    ∀ d ∈ syllableLetters i, isUncased d.toNat = true := by
  have hjamo : ∀ k < 0x100, isUncased (Char.ofNat (0x1100 + k)).toNat = true := by
    intro k hk
    rw [toNat_jamo (by omega), isUncased_iff]
    omega
  have hlead := hjamo (i / 588) (by omega)
  have hvowel := hjamo (0x61 + i % 588 / 28) (by omega)
  have htail := hjamo (0xA7 + i % 28) (by omega)
  rw [← Nat.add_assoc] at hvowel htail
  rw [syllableLetters]
  split
  · simpa using ⟨hlead, hvowel⟩
  · simpa using ⟨hlead, hvowel, htail⟩

theorem isUncased_decompose_syllable (h : isSyllable c.toNat = true) :
    ∀ d ∈ decompose .canonical c, isUncased d.toNat = true := by
  have hrange := isSyllable_iff.mp h
  rw [decompose_syllable h]
  exact isUncased_syllableLetters (by simp only [Hangul.base]; omega)

end Syllables

section Laws

theorem decompose_ofNat {n : Nat} (h : isLone n = true) :
    decompose .canonical (Char.ofNat n) = chars (image canonicalTable n) := by
  rw [decompose_eq, toNat_ofNat_of_lone h]
  rw [toNat_ofNat_of_lone h, isSyllable_of_lone h]

theorem foldChar_ofNat {n : Nat} (h : isLone n = true) :
    foldChar (Char.ofNat n) = chars (image foldingTable n) := by
  rw [foldChar_eq, toNat_ofNat_of_lone h]

theorem mem_chars : d ∈ chars codes ↔ ∃ n ∈ codes, Char.ofNat n = d := List.mem_map

theorem toNat_mem_of_mem_chars (hlone : ∀ n ∈ codes, isLone n = true) (h : d ∈ chars codes) :
    d.toNat ∈ codes := by
  obtain ⟨n, hn, rfl⟩ := mem_chars.mp h
  rw [toNat_ofNat_of_lone (hlone n hn)]
  exact hn

/-- How a character decomposes. -/
inductive Decomposing (c : Char) : Prop
  | stays (h : decompose .canonical c = [c])
  | listed (hc : isSyllable c.toNat = false) (h : Decomposes c.toNat)
  | syllable (hc : isSyllable c.toNat = true)

theorem decomposing (c : Char) : Decomposing c := by
  cases hc : isSyllable c.toNat with
  | true => exact .syllable hc
  | false =>
    rcases decomposes_or c.toNat with h | h
    · exact .listed hc h
    · exact .stays (by rw [decompose_eq hc, h]; simp [chars])

/-- A character folds to itself or has an entry. -/
theorem folds_or_foldChar (c : Char) : Folds c.toNat ∨ foldChar c = [c] :=
  (folds_or c.toNat).imp_right fun h => by rw [foldChar_eq, h]; simp [chars]

theorem decompose_ne_nil (c : Char) : decompose .canonical c ≠ [] := by
  rcases decomposing c with h | ⟨hc, h⟩ | hc
  · simp [h]
  · simpa [decompose_eq hc, chars] using h.ne_nil
  · rw [decompose_syllable hc, syllableLetters]
    split <;> simp

/-- What a character decomposes to decomposes no further. -/
theorem decompose_decompose (hd : d ∈ decompose .canonical c) : decompose .canonical d = [d] := by
  rcases decomposing c with h | ⟨hc, h⟩ | hc
  · rw [h, List.mem_singleton] at hd
    rwa [hd]
  · rw [decompose_eq hc] at hd
    obtain ⟨n, hn, rfl⟩ := mem_chars.mp hd
    obtain ⟨hlone, hstay⟩ := h.stay n hn
    rw [decompose_ofNat hlone, hstay]
    rfl
  · exact decompose_uncased (isUncased_decompose_syllable hc d hd)

theorem foldChar_ne_nil (c : Char) : foldChar c ≠ [] := by
  rcases folds_or_foldChar c with h | h
  · simpa [foldChar_eq, chars] using h.ne_nil
  · simp [h]

/-- What a character folds to folds no further. -/
theorem foldChar_foldChar (hd : d ∈ foldChar c) : foldChar d = [d] := by
  rcases folds_or_foldChar c with h | h
  · rw [foldChar_eq] at hd
    obtain ⟨n, hn, rfl⟩ := mem_chars.mp hd
    obtain ⟨hlone, hstay⟩ := h.stay n hn
    rw [foldChar_ofNat hlone, hstay]
    rfl
  · rw [h, List.mem_singleton] at hd
    rwa [hd]

theorem image_of_decompose (hc : isSyllable c.toNat = false) (h : decompose .canonical c = [c]) :
    image canonicalTable c.toNat = [c.toNat] := by
  have hlone := isLone_image_canonical (isLone_toNat hc)
  rw [decompose_eq hc, chars, List.map_eq_singleton_iff] at h
  obtain ⟨n, hn, rfl⟩ := h
  rw [hn] at hlone ⊢
  rw [toNat_ofNat_of_lone (hlone n (List.mem_singleton_self n))]

/-- What does not decompose folds to what does not. -/
theorem decompose_foldChar (hc : decompose .canonical c = [c]) (hd : d ∈ foldChar c) :
    decompose .canonical d = [d] := by
  cases hs : isSyllable c.toNat with
  | true =>
    rw [foldChar_syllable hs, List.mem_singleton] at hd
    rwa [hd]
  | false =>
    rcases folds_or_foldChar c with h | h
    · rw [foldChar_eq] at hd
      obtain ⟨n, hn, rfl⟩ := mem_chars.mp hd
      rw [decompose_ofNat (h.stay n hn).1, h.stable (image_of_decompose hs hc) n hn]
      rfl
    · rw [h, List.mem_singleton] at hd
      rwa [hd]

/-- A character and what it decomposes to fold to the same decomposed text. -/
theorem flatMap_decompose_foldChar (c : Char) :
    (foldChar c).flatMap (decompose .canonical) =
      ((decompose .canonical c).flatMap foldChar).flatMap (decompose .canonical) := by
  rcases decomposing c with h | ⟨hc, h⟩ | hc
  · rw [h, List.flatMap_singleton]
  · have hlone := isLone_toNat hc
    have hparts : ∀ n ∈ (image canonicalTable c.toNat).flatMap (image foldingTable),
        isLone n = true := by
      intro n hn
      obtain ⟨m, hm, hnm⟩ := List.mem_flatMap.mp hn
      exact isLone_image_folding (h.stay m hm).1 n hnm
    rw [foldChar_eq, decompose_eq hc, flatMap_decompose_chars (isLone_image_folding hlone),
      flatMap_foldChar_chars fun n hn => (h.stay n hn).1, flatMap_decompose_chars hparts, h.folds]
  · have hls := isUncased_decompose_syllable hc
    have hfold : (decompose .canonical c).flatMap foldChar = decompose .canonical c := by
      rw [List.flatMap_congr fun d hd => foldChar_uncased (hls d hd), List.flatMap_singleton']
    have hstay : (decompose .canonical c).flatMap (decompose .canonical) =
        decompose .canonical c := by
      rw [List.flatMap_congr fun d hd => decompose_uncased (hls d hd), List.flatMap_singleton']
    rw [foldChar_syllable hc, List.flatMap_singleton, hfold, hstay]

/-- No mark folds but the iota below. -/
theorem foldChar_of_class (h : combiningClass c ≠ 0) (hc : c ≠ '\u0345') : foldChar c = [c] := by
  have hcode : c.toNat ≠ 0x345 := fun hn => hc (Char.toNat_inj.mp hn)
  by_contra hfold
  have himage : image foldingTable c.toNat ≠ [c.toNat] := by
    intro hself
    rw [foldChar_eq, hself] at hfold
    exact hfold (by simp [chars])
  apply h
  rw [combiningClass, valueIn?_folding himage hcode]
  split <;> rfl

theorem foldChar_singleton {n m : Nat} (h : (n, m) ∈ foldings) :
    foldChar (Char.ofNat n) = [Char.ofNat m] := by
  have hlone : ∀ p ∈ foldings, isLone p.1 = true := by decide +kernel
  rw [foldChar_ofNat (hlone _ h), image_folding (List.mem_append_left _ h)]
  rfl

theorem foldChar_iota_of_mem (h : '\u0345' ∈ decompose .canonical c) : 'ι' ∈ foldChar c := by
  have hiota : foldChar '\u0345' = ['ι'] := foldChar_singleton (n := 0x345) (by decide)
  rcases decomposing c with hc | ⟨hc, hd⟩ | hc
  · rw [hc, List.mem_singleton] at h
    simp [← h, hiota]
  · rw [decompose_eq hc] at h
    have hmem : 0x345 ∈ image canonicalTable c.toNat :=
      toNat_mem_of_mem_chars (fun n hn => (hd.stay n hn).1) h
    rw [foldChar_eq]
    exact mem_chars.mpr ⟨0x3B9, hd.iota hmem, rfl⟩
  · exact absurd (isUncased_decompose_syllable hc _ h) (by decide)

/-- Only the long s and what has a dot above decompose to the long s. -/
theorem eq_longS_or_dot (h : 'ſ' ∈ decompose .canonical c) :
    c = 'ſ' ∨ '\u0307' ∈ decompose .canonical c := by
  rcases decomposing c with hc | ⟨hc, hd⟩ | hc
  · rw [hc, List.mem_singleton] at h
    exact .inl h.symm
  · rw [decompose_eq hc] at h ⊢
    have hmem : 0x17F ∈ image canonicalTable c.toNat :=
      toNat_mem_of_mem_chars (fun n hn => (hd.stay n hn).1) h
    exact .inr (mem_chars.mpr ⟨0x307, hd.longS hmem, rfl⟩)
  · exact absurd (isUncased_decompose_syllable hc _ h) (by decide)

theorem decompose_longS : decompose .canonical 'ſ' = ['ſ'] := by
  rw [decompose_eq (by decide)]
  exact congrArg chars image_longS

/-- Nothing else folds to letters without case. -/
theorem foldChar_of_uncased (h : ∀ d ∈ foldChar c, isUncased d.toNat = true) :
    foldChar c = [c] := by
  refine (folds_or_foldChar c).resolve_left fun hf => ?_
  obtain ⟨n, hn⟩ := List.exists_mem_of_ne_nil _ hf.ne_nil
  have hd := h (Char.ofNat n) (foldChar_eq c ▸ mem_chars.mpr ⟨n, hn, rfl⟩)
  rw [toNat_ofNat_of_lone (hf.stay n hn).1, hf.cased n hn] at hd
  cases hd

theorem combiningClass_uncased (h : isUncased c.toNat = true) : combiningClass c = 0 := by
  have hmiss := missesLetters_classRanges
  simp only [missesLetters, Bool.and_eq_true] at hmiss
  rcases isUncased_iff.mp h with ⟨hlo, hhi⟩ | ⟨hlo, hhi⟩
  · exact combiningClass_of_misses hmiss.1.1 hlo (by omega)
  · exact combiningClass_of_misses hmiss.1.2 hlo (by omega)

theorem combiningClass_caron : combiningClass '\u030C' ≠ 0 := by
  have hcaron := valueIn?_caron
  have hclass : combiningClass '\u030C' = (valueIn? 0x30C classRanges).getD 0 :=
    if_neg (by decide)
  rw [hclass]
  cases hvalue : valueIn? 0x30C classRanges with
  | none => simp [hvalue] at hcaron
  | some v =>
    rw [hvalue, Option.any_some, decide_eq_true_eq] at hcaron
    exact Nat.ne_of_gt hcaron

end Laws

section Blanks

theorem isBlank_ofNat {n : Nat} (h : isLone n = true) :
    isBlank (Char.ofNat n) = isBlankCode n := by
  rw [isBlank_eq, toNat_ofNat_of_lone h]

theorem not_isBlank_uncased (h : isUncased c.toNat = true) : isBlank c = false := by
  rw [isUncased_iff] at h
  simp only [isBlank, Bool.or_eq_false_iff, Bool.and_eq_false_iff, decide_eq_false_iff_not]
  omega

theorem not_isBlank_syllable (h : isSyllable c.toNat = true) : isBlank c = false := by
  rw [isSyllable_iff] at h
  simp only [isBlank, Bool.or_eq_false_iff, Bool.and_eq_false_iff, decide_eq_false_iff_not]
  omega

/-- White space decomposes to white space. -/
theorem decompose_canonical_blank (h : isBlank c = true) :
    ∃ b, decompose .canonical c = [b] ∧ isBlank b = true := by
  rcases decomposing c with hc | ⟨hc, hd⟩ | hc
  · exact ⟨c, hc, h⟩
  · rw [isBlank_eq] at h
    obtain ⟨n, hn, hblank⟩ := hd.blank h
    have hlone := (hd.stay n (by simp [hn])).1
    exact ⟨Char.ofNat n, by rw [decompose_eq hc, hn]; rfl, by rwa [isBlank_ofNat hlone]⟩
  · simp [not_isBlank_syllable hc] at h

theorem not_isBlank_decompose (h : isBlank c = false) :
    ∀ d ∈ decompose .canonical c, isBlank d = false := by
  intro d hmem
  rcases decomposing c with hc | ⟨hc, hd⟩ | hc
  · rw [hc, List.mem_singleton] at hmem
    rwa [hmem]
  · rw [decompose_eq hc] at hmem
    obtain ⟨n, hn, rfl⟩ := mem_chars.mp hmem
    rw [isBlank_eq] at h
    rw [isBlank_ofNat (hd.stay n hn).1]
    exact hd.ink h n hn
  · exact not_isBlank_uncased (isUncased_decompose_syllable hc d hmem)

theorem foldChar_blank (h : isBlank c = true) : foldChar c = [c] := by
  refine (folds_or_foldChar c).resolve_left fun hf => ?_
  rw [isBlank_eq, hf.ink] at h
  cases h

theorem not_isBlank_foldChar (h : isBlank c = false) : ∀ d ∈ foldChar c, isBlank d = false := by
  intro d hmem
  rcases folds_or_foldChar c with hf | hc
  · rw [foldChar_eq] at hmem
    obtain ⟨n, hn, rfl⟩ := mem_chars.mp hmem
    rw [isBlank_ofNat (hf.stay n hn).1]
    exact hf.inked n hn
  · rw [hc, List.mem_singleton] at hmem
    rwa [hmem]

theorem combiningClass_blank (h : isBlank c = true) : combiningClass c = 0 := by
  rw [combiningClass, valueIn?_blank (mem_blankCodes h)]
  split <;> rfl

end Blanks

section Composites

/-- The composite of two characters is known by arithmetic or by the table. -/
theorem composite?_eq (a b : Char) : composite? a b =
    (Hangul.join? a b).orElse fun _ =>
      (pair? compositionTable a.toNat b.toNat).map Char.ofNat := by
  rw [composite?, pair?, entriesOf, List.map_findSome?]
  congr
  funext _
  congr
  funext e
  simp only [Function.comp_apply]
  split <;> simp [apply_ite]

/-- What is known of two characters and their composite. -/
structure Composing (a b p : Char) : Prop where
  parts : decompose .canonical p = decompose .canonical a ++ [b]
  stay : decompose .canonical b = [b]
  second : isSecond b.toNat = true
  inkFirst : isBlank a = false
  inkSecond : isBlank b = false

theorem decompose_syllableAt {i : Nat} (hi : i < 11172) :
    decompose .canonical (Char.ofNat (Hangul.base + i)) = syllableLetters i := by
  have hvalid : (Hangul.base + i).isValidChar := by
    simp only [Nat.isValidChar, Hangul.base]
    omega
  have hcode : (Char.ofNat (Hangul.base + i)).toNat = Hangul.base + i := by
    rw [Char.ofNat, dif_pos hvalid]
    rfl
  have hsyllable : isSyllable (Char.ofNat (Hangul.base + i)).toNat = true := by
    rw [hcode]
    simp [isSyllable, hi]
  rw [decompose_syllable hsyllable, hcode, Nat.add_sub_cancel_left]

/-- The letters of a syllable that ends with its vowel. -/
theorem syllableLetters_open {i j : Nat} (hj : j < 21) : syllableLetters (i * 588 + j * 28) =
    [Char.ofNat (Hangul.leadBase + i), Char.ofNat (Hangul.vowelBase + j)] := by
  have hlead : (i * 588 + j * 28) / 588 = i := by omega
  have hvowel : (i * 588 + j * 28) % 588 / 28 = j := by omega
  rw [syllableLetters, if_pos (by omega), hlead, hvowel]

/-- A last letter stands behind the others. -/
theorem syllableLetters_closed {i j : Nat} (hi : i % 28 = 0) (hpos : 0 < j) (hj : j < 28) :
    syllableLetters (i + j) = syllableLetters i ++ [Char.ofNat (Hangul.tailBase + j)] := by
  have hlead : (i + j) / 588 = i / 588 := by omega
  have hvowel : (i + j) % 588 / 28 = i % 588 / 28 := by omega
  have htail : (i + j) % 28 = j := by omega
  rw [syllableLetters, syllableLetters, if_pos hi, if_neg (by omega), hlead, hvowel, htail]
  rfl

/-- The vowels and last letters compose with what stands before them. -/
theorem second_jamo (hlo : Hangul.vowelBase ≤ b.toNat) (hhi : b.toNat < 0x1200) :
    isUncased b.toNat = true ∧ isSecond b.toNat = true := by
  simp only [Hangul.vowelBase] at hlo
  constructor
  · rw [isUncased_iff]
    omega
  · simp only [isSecond, Bool.or_eq_true, Bool.and_eq_true, decide_eq_true_eq]
    omega

/-- Letters put together by arithmetic are taken apart again. -/
theorem composing_of_join? (h : Hangul.join? a b = some p) : Composing a b p := by
  simp only [Hangul.join?, Bool.and_eq_true, decide_eq_true_eq] at h
  split at h
  · next hrange =>
    -- a first letter and a vowel
    obtain ⟨⟨⟨hx, hx'⟩, hy⟩, hy'⟩ := hrange
    obtain ⟨i, hi⟩ := Nat.exists_eq_add_of_le hx
    obtain ⟨j, hj⟩ := Nat.exists_eq_add_of_le hy
    rw [hi, hj, Nat.add_sub_cancel_left, Nat.add_sub_cancel_left, Nat.add_assoc,
      Option.some.injEq] at h
    have ha : isUncased a.toNat = true := by
      rw [isUncased_iff]
      simp only [Hangul.leadBase] at hx hx'
      omega
    obtain ⟨hb, hsecond⟩ := second_jamo hy (by simp only [Hangul.vowelBase] at hy'; omega)
    refine ⟨?_, decompose_uncased hb, hsecond, not_isBlank_uncased ha, not_isBlank_uncased hb⟩
    rw [← h, decompose_syllableAt (by omega), syllableLetters_open (by omega), ← hi, ← hj,
      Char.ofNat_toNat, Char.ofNat_toNat, decompose_uncased ha]
    rfl
  · split at h
    · next hrange =>
      -- a syllable without a last letter and that letter
      obtain ⟨⟨⟨⟨hx, hx'⟩, hlast⟩, hy⟩, hy'⟩ := hrange
      obtain ⟨i, hi⟩ := Nat.exists_eq_add_of_le hx
      obtain ⟨j, hj⟩ := Nat.exists_eq_add_of_le (Nat.le_of_lt hy)
      rw [hi, Nat.add_sub_cancel_left] at hlast
      rw [hi, hj, Nat.add_sub_cancel_left, Nat.add_assoc, Option.some.injEq] at h
      have ha : isSyllable a.toNat = true := by simp [isSyllable, hx, hx']
      obtain ⟨hb, hsecond⟩ : isUncased b.toNat = true ∧ isSecond b.toNat = true := by
        simp only [Hangul.tailBase] at hy hy'
        exact second_jamo (by simp only [Hangul.vowelBase]; omega) (by omega)
      refine ⟨?_, decompose_uncased hb, hsecond, not_isBlank_syllable ha, not_isBlank_uncased hb⟩
      rw [← h, decompose_syllableAt (by omega), decompose_syllable ha, hi,
        Nat.add_sub_cancel_left, syllableLetters_closed hlast (by omega) (by omega), ← hj,
        Char.ofNat_toNat]
    · cases h

theorem composing (h : composite? a b = some p) : Composing a b p := by
  rw [composite?_eq] at h
  cases hjoin : Hangul.join? a b with
  | some q =>
    rw [hjoin] at h
    obtain ⟨rfl⟩ := h
    exact composing_of_join? hjoin
  | none =>
    rw [hjoin] at h
    obtain ⟨z, hz, rfl⟩ := Option.map_eq_some_iff.mp h
    have hc := composes_of_pair? hz
    obtain ⟨hfirst, hsecond, hlone⟩ := hc.lone
    refine ⟨?_, ?_, hc.second, by rw [isBlank_eq, hc.inkFirst], by rw [isBlank_eq, hc.inkSecond]⟩
    · rw [decompose_ofNat hlone, hc.parts, decompose_eq (isSyllable_of_lone hfirst)]
      simp [chars]
    · rw [decompose_eq (isSyllable_of_lone hsecond), hc.stay]
      simp [chars]

/-- No character composes with one below the accents. -/
theorem composite?_of_lt (h : b.toNat < 0x300) (a : Char) : composite? a b = none := by
  cases hp : composite? a b with
  | none => rfl
  | some p =>
    have := (composing hp).second
    simp only [isSecond, Bool.or_eq_true, Bool.and_eq_true, decide_eq_true_eq] at this
    omega

theorem composite?_blank_left (h : isBlank a = true) (b : Char) : composite? a b = none := by
  cases hp : composite? a b with
  | none => rfl
  | some p => exact absurd (composing hp).inkFirst (by simp [h])

theorem composite?_blank_right (h : isBlank b = true) (a : Char) : composite? a b = none := by
  cases hp : composite? a b with
  | none => rfl
  | some p => exact absurd (composing hp).inkSecond (by simp [h])

/-- A character that starts anew whatever stands before it. -/
structure Inert (c : Char) : Prop where
  unclassed : combiningClass c = 0
  apart : ∀ a, composite? a c = none

theorem inert_blank (h : isBlank c = true) : Inert c :=
  ⟨combiningClass_blank h, composite?_blank_right h⟩

theorem inert_of_lt (h : c.toNat < 0x300) : Inert c :=
  ⟨by simp [combiningClass, h], composite?_of_lt h⟩

/-- What folds to ASCII starts anew. -/
theorem inert_of_foldChar (hd : d ∈ foldChar c) (hlow : d.toNat < 0x80) : Inert c := by
  have hsecond : isSecond c.toNat = false := by
    by_contra hs
    rw [Bool.not_eq_false] at hs
    rcases folds_or_foldChar c with hf | hc
    · rw [foldChar_eq] at hd
      obtain ⟨n, hn, rfl⟩ := mem_chars.mp hd
      rw [toNat_ofNat_of_lone (hf.stay n hn).1] at hlow
      have := hf.second hs n hn
      omega
    · rw [hc, List.mem_singleton] at hd
      subst hd
      simp only [isSecond, Bool.or_eq_true, Bool.and_eq_true, decide_eq_true_eq] at hs
      omega
  refine ⟨?_, fun a => ?_⟩
  · by_contra hclass
    have hiota : c ≠ '\u0345' := by
      rintro rfl
      exact absurd hsecond (by decide)
    rw [foldChar_of_class hclass hiota, List.mem_singleton] at hd
    subst hd
    exact hclass (by simp [combiningClass, show d.toNat < 0x300 by omega])
  · cases hp : composite? a c with
    | none => rfl
    | some p => exact absurd (composing hp).second (by simp [hsecond])

end Composites

end HdProvision.Text
