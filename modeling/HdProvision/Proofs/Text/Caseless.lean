import HdProvision.Proofs.Text.Composition

/-!
# Canonical caseless matching

Two texts match if they are the same when they are decomposed, folded and decomposed again. The
composed form is folded to a text that decomposes so too, as long as there is no iota below: it
folds to a letter, and the marks around it keep it from the letter's place.
-/

set_option autoImplicit false

namespace HdProvision.Text

variable {c : Char} {xs ys cs : List Char} {g : List Char → List Char}

/-- The text without white space around it in the form in which caseless texts match. -/
def caseless (s : String) : String := nfd (caseFold (nfd (strip s)))

/-- A canonical caseless match, up to white space at both ends. -/
def CaselessMatch (a b : String) : Prop := caseless a = caseless b

instance (a b : String) : Decidable (CaselessMatch a b) := inferInstanceAs (Decidable (_ = _))

/-- The case folding of characters. -/
def folded (cs : List Char) : List Char := cs.flatMap foldChar

section Folding

theorem folded_folded (cs : List Char) : folded (folded cs) = folded cs := by
  have hself : ∀ d ∈ folded cs, foldChar d = [d] := by
    intro d hd
    obtain ⟨c, -, hdc⟩ := List.mem_flatMap.mp hd
    exact foldChar_foldChar hdc
  rw [folded, List.flatMap_congr hself, List.flatMap_singleton']

theorem Stable.folded (h : Stable xs) : Stable (folded xs) := by
  intro d hd
  obtain ⟨c, hc, hdc⟩ := List.mem_flatMap.mp hd
  exact decompose_foldChar (h c hc) hdc

theorem reorder_flatMap_place {r : Char → List Char}
    (hr : ∀ d ∈ c :: ys, combiningClass d ≠ 0 → r d = [d]) :
    reorder ((place c ys).flatMap r) = reorder ((c :: ys).flatMap r) := by
  induction ys with
  | nil => rfl
  | cons d ys ih =>
    by_cases h : 0 < combiningClass d ∧ combiningClass d < combiningClass c
    · -- both are marks, which stay as they are
      have hc : r c = [c] := hr c (by simp) (by omega)
      have hd : r d = [d] := hr d (by simp) (by omega)
      have hrest := ih fun e he => hr e (by simp only [List.mem_cons] at he ⊢; tauto)
      rw [List.flatMap_cons, hc, List.singleton_append, reorder] at hrest
      rw [place_cons_of_pos h, List.flatMap_cons, hd, List.singleton_append, reorder, hrest,
        ← place_comm h.1 h.2, List.flatMap_cons, List.flatMap_cons, hc, hd]
      rfl
    · rw [place_cons_of_neg h]

/-- Where marks stay as they are, it does not matter whether they were in order before. -/
theorem reorder_flatMap_reorder {r : Char → List Char}
    (hr : ∀ c ∈ xs, combiningClass c ≠ 0 → r c = [c]) :
    reorder ((reorder xs).flatMap r) = reorder (xs.flatMap r) := by
  induction xs with
  | nil => rfl
  | cons c xs ih =>
    have hrest : ∀ d ∈ c :: reorder xs, combiningClass d ≠ 0 → r d = [d] := by
      intro d hd
      rw [List.mem_cons, (reorder_perm xs).mem_iff, ← List.mem_cons] at hd
      exact hr d hd
    rw [reorder, reorder_flatMap_place hrest, List.flatMap_cons, List.flatMap_cons]
    exact reorder_append_right (ih fun d hd => hr d (List.mem_cons_of_mem _ hd)) _

/-- What a character folds to, decomposed. -/
def foldedParts (c : Char) : List Char := (foldChar c).flatMap (decompose .canonical)

theorem decomposed_folded_eq (cs : List Char) :
    decomposed .canonical (folded cs) = reorder (cs.flatMap foldedParts) := by
  rw [decomposed, folded, List.flatMap_assoc]
  rfl

/-- Without an iota below, folding a text and folding its decomposed form come to the same. -/
theorem decomposed_folded (h : '\u0345' ∉ decomposed .canonical cs) :
    decomposed .canonical (folded cs) =
      decomposed .canonical (folded (decomposed .canonical cs)) := by
  have hmarks : ∀ c ∈ cs.flatMap (decompose .canonical), combiningClass c ≠ 0 →
      foldedParts c = [c] := by
    intro c hc hclass
    rw [decomposed, (reorder_perm _).mem_iff] at h
    obtain ⟨a, -, hac⟩ := List.mem_flatMap.mp hc
    have hfold := foldChar_of_class hclass fun hiota => h (hiota ▸ hc)
    rw [foldedParts, hfold, List.flatMap_singleton, decompose_decompose hac]
  have hparts : ∀ c ∈ cs, foldedParts c = (decompose .canonical c).flatMap foldedParts := by
    intro c _
    rw [foldedParts, flatMap_decompose_foldChar c, List.flatMap_assoc]
    rfl
  calc
    decomposed .canonical (folded cs) = reorder (cs.flatMap foldedParts) := decomposed_folded_eq cs
    _ = reorder ((cs.flatMap (decompose .canonical)).flatMap foldedParts) := by
      rw [List.flatMap_congr hparts, List.flatMap_assoc]
    _ = reorder ((decomposed .canonical cs).flatMap foldedParts) :=
      (reorder_flatMap_reorder hmarks).symm
    _ = _ := (decomposed_folded_eq _).symm

/-- The letter that the iota below folds to shows where there was one. -/
theorem iota_mem_folded (h : '\u0345' ∈ decomposed .canonical cs) :
    'ι' ∈ decomposed .canonical (folded cs) := by
  obtain ⟨c, hc, hiota⟩ := mem_decomposed.mp h
  have hfold : 'ι' ∈ foldChar '\u0345' := foldChar_iota_of_mem (by
    rw [decompose_decompose hiota]
    exact List.mem_singleton_self _)
  have hstay := decompose_foldChar (decompose_decompose hiota) hfold
  have hmem : 'ι' ∈ folded cs := List.mem_flatMap.mpr ⟨c, hc, foldChar_iota_of_mem hiota⟩
  exact mem_decomposed.mpr ⟨'ι', hmem, by simp [hstay]⟩

/-- For a form without an iota it does not matter whether a text is decomposed before folding. -/
theorem decomposed_folded_iff (hk : 'ι' ∉ ys) :
    decomposed .canonical (folded cs) = ys ↔
      decomposed .canonical (folded (decomposed .canonical cs)) = ys := by
  by_cases h : '\u0345' ∈ decomposed .canonical cs
  · have hagain : '\u0345' ∈ decomposed .canonical (decomposed .canonical cs) := by
      rwa [decomposed_decomposed]
    exact iff_of_false (fun heq => hk (heq ▸ iota_mem_folded h))
      fun heq => hk (heq ▸ iota_mem_folded hagain)
  · rw [decomposed_folded h]

end Folding

section Stripping

/-- No white space at either end. -/
structure Trimmed (cs : List Char) : Prop where
  first : ∀ c ∈ cs.head?, isBlank c = false
  last : ∀ c ∈ cs.getLast?, isBlank c = false

theorem Trimmed.strip_eq (h : Trimmed cs) : stripChars cs = cs := by
  cases cs with
  | nil => rfl
  | cons c cs =>
    rw [stripChars, trim_cons_of_neg (h.first c rfl), List.rdropWhile_eq_self_iff]
    intro hne
    have := h.last _ (List.getLast?_eq_some_getLast hne)
    simp [this]

theorem mem_of_mem_strip (h : c ∈ stripChars cs) : c ∈ cs := by
  obtain ⟨front, back, hcs, -, -⟩ := exists_trim isBlank cs
  rw [hcs]
  exact List.mem_append_left _ (List.mem_append_right _ h)

theorem mem_strip (h : c ∈ cs) (hc : isBlank c = false) : c ∈ stripChars cs :=
  (mem_trim_or isBlank h).resolve_right (by simp [hc])

theorem trimmed_strip (cs : List Char) : Trimmed (stripChars cs) := by
  have hdrop : stripChars cs = (cs.dropWhile isBlank).rdropWhile isBlank := rfl
  rw [hdrop]
  constructor
  · intro c hc
    obtain ⟨back, hback⟩ := List.rdropWhile_prefix isBlank (cs.dropWhile isBlank)
    have hhead : (cs.dropWhile isBlank).head? = some c := by
      rw [← hback, List.head?_append, hc]
      rfl
    have hne : cs.dropWhile isBlank ≠ [] := by
      rintro hnil
      simp [hnil] at hhead
    have hnot := List.head_dropWhile_not isBlank hne
    rw [List.head?_eq_some_head hne, Option.some.injEq] at hhead
    rwa [hhead] at hnot
  · intro c hc
    have hne : (cs.dropWhile isBlank).rdropWhile isBlank ≠ [] := by
      rintro hnil
      simp [hnil] at hc
    have hnot := List.rdropWhile_last_not isBlank (cs.dropWhile isBlank) hne
    rw [List.getLast?_eq_some_getLast hne, Option.mem_def, Option.some.injEq] at hc
    simpa [hc] using hnot

/-- A change of texts that is made word by word and leaves white space where it is. -/
structure Wordwise (g : List Char → List Char) : Prop where
  nil : g [] = []
  parts : ∀ b, isBlank b = true →
    ∃ b', isBlank b' = true ∧ ∀ xs ys, g (xs ++ b :: ys) = g xs ++ b' :: g ys
  ne_nil : ∀ w ≠ [], g w ≠ []
  ink : ∀ w, (∀ c ∈ w, isBlank c = false) → ∀ c ∈ g w, isBlank c = false

/-- A text is one word or goes on behind white space. -/
theorem word_or_blank (cs : List Char) : (∀ c ∈ cs, isBlank c = false) ∨
    ∃ w b ys, cs = w ++ b :: ys ∧ (∀ c ∈ w, isBlank c = false) ∧ isBlank b = true := by
  induction cs with
  | nil => exact .inl (by simp)
  | cons c cs ih =>
    cases hc : isBlank c with
    | true => exact .inr ⟨[], c, cs, rfl, by simp, hc⟩
    | false =>
      refine ih.imp (fun h => List.forall_mem_cons.mpr ⟨hc, h⟩) ?_
      rintro ⟨w, b, ys, rfl, hw, hb⟩
      exact ⟨c :: w, b, ys, rfl, List.forall_mem_cons.mpr ⟨hc, hw⟩, hb⟩

namespace Wordwise

variable (hg : Wordwise g)

include hg

theorem blank_append (h : ∀ c ∈ xs, isBlank c = true) :
    ∃ bs, (∀ c ∈ bs, isBlank c = true) ∧ ∀ ys, g (xs ++ ys) = bs ++ g ys := by
  induction xs with
  | nil => exact ⟨[], by simp, fun ys => rfl⟩
  | cons b xs ih =>
    obtain ⟨hb, hxs⟩ := List.forall_mem_cons.mp h
    obtain ⟨bs, hbs, hrest⟩ := ih hxs
    obtain ⟨b', hb', hparts⟩ := hg.parts b hb
    refine ⟨b' :: bs, List.forall_mem_cons.mpr ⟨hb', hbs⟩, fun ys => ?_⟩
    have h := hparts [] (xs ++ ys)
    rwa [hg.nil, hrest, List.nil_append, List.nil_append] at h

theorem append_blank (h : ∀ c ∈ ys, isBlank c = true) :
    ∃ bs, (∀ c ∈ bs, isBlank c = true) ∧ ∀ xs, g (xs ++ ys) = g xs ++ bs := by
  cases ys with
  | nil => exact ⟨[], by simp, fun xs => by simp⟩
  | cons b ys =>
    obtain ⟨hb, hys⟩ := List.forall_mem_cons.mp h
    obtain ⟨b', hb', hparts⟩ := hg.parts b hb
    obtain ⟨bs, hbs, hrest⟩ := hg.blank_append hys
    have hys : g ys = bs := by
      have := hrest []
      rwa [List.append_nil, hg.nil, List.append_nil] at this
    exact ⟨b' :: bs, List.forall_mem_cons.mpr ⟨hb', hbs⟩, fun xs => by rw [hparts, hys]⟩

theorem first (h : ∀ c ∈ cs.head?, isBlank c = false) : ∀ c ∈ (g cs).head?, isBlank c = false := by
  rcases word_or_blank cs with hword | ⟨w, b, ys, rfl, hw, hb⟩
  · exact fun c hc => hg.ink cs hword c (List.mem_of_mem_head? hc)
  · have hne : w ≠ [] := by
      rintro rfl
      simp [hb] at h
    obtain ⟨b', -, hparts⟩ := hg.parts b hb
    intro c hc
    rw [hparts, List.head?_append_of_ne_nil _ (hg.ne_nil w hne)] at hc
    exact hg.ink w hw c (List.mem_of_mem_head? hc)

theorem last (cs : List Char) (h : ∀ c ∈ cs.getLast?, isBlank c = false) :
    ∀ c ∈ (g cs).getLast?, isBlank c = false := by
  rcases word_or_blank cs with hword | ⟨w, b, ys, hcs, -, hb⟩
  · exact fun c hc => hg.ink cs hword c (List.mem_of_mem_getLast? hc)
  · have hne : ys ≠ [] := by
      rintro rfl
      simp [hcs, hb] at h
    obtain ⟨b', -, hparts⟩ := hg.parts b hb
    have hlast : ∀ vs d us, us ≠ [] → (vs ++ d :: us : List Char).getLast? = us.getLast? := by
      intro vs d us hus
      rw [List.getLast?_append_cons, List.getLast?_cons_of_ne_nil hus]
    rw [hcs, hlast w b ys hne] at h
    rw [hcs, hparts, hlast _ b' _ (hg.ne_nil ys hne)]
    exact last ys h
termination_by cs.length
decreasing_by
  rw [hcs]
  simp
  omega

theorem trimmed (h : Trimmed cs) : Trimmed (g cs) := ⟨hg.first h.first, hg.last cs h.last⟩

/-- Stripping before or after the change comes to the same. -/
theorem strip (cs : List Char) : stripChars (g cs) = g (stripChars cs) := by
  obtain ⟨front, back, hcs, hfront, hback⟩ := exists_trim isBlank cs
  obtain ⟨fs, hfs, hleft⟩ := hg.blank_append hfront
  obtain ⟨bs, hbs, hright⟩ := hg.append_blank hback
  rw [← stripChars] at hcs
  calc
    stripChars (g cs) = stripChars (fs ++ g (stripChars cs) ++ bs) := by
      conv_lhs => rw [hcs, hright, hleft]
    _ = stripChars (g (stripChars cs)) := trim_append hfs hbs _
    _ = g (stripChars cs) := (hg.trimmed (trimmed_strip cs)).strip_eq

end Wordwise

theorem wordwise_folded : Wordwise folded where
  nil := rfl
  parts b hb := ⟨b, hb, fun xs ys => by
    rw [folded, List.flatMap_append, List.flatMap_cons, foldChar_blank hb]
    rfl⟩
  ne_nil w hw hnil := by
    obtain ⟨c, cs, rfl⟩ := List.exists_cons_of_ne_nil hw
    rw [folded, List.flatMap_cons, List.append_eq_nil_iff] at hnil
    exact foldChar_ne_nil c hnil.1
  ink w hw c hc := by
    obtain ⟨d, hd, hcd⟩ := List.mem_flatMap.mp hc
    exact not_isBlank_foldChar (hw d hd) c hcd

theorem wordwise_composed : Wordwise composed where
  nil := rfl
  parts b hb := by
    obtain ⟨b', hdecompose, hb'⟩ := decompose_canonical_blank hb
    have hinert := inert_blank hb'
    refine ⟨b', hb', fun xs ys => ?_⟩
    rw [composed, decomposed_append_cons hdecompose hinert.unclassed, compose_append hinert,
      compose, if_pos hinert.unclassed, composeFrom_of_alone (composite?_blank_left hb')]
    rfl
  ne_nil w hw hnil := by
    have h := decomposed_composed w
    rw [hnil] at h
    obtain ⟨c, cs, rfl⟩ := List.exists_cons_of_ne_nil hw
    obtain ⟨d, hd⟩ := List.exists_mem_of_ne_nil _ (decompose_ne_nil c)
    have hmem : d ∈ decomposed .canonical (c :: cs) := mem_decomposed.mpr ⟨c, by simp, hd⟩
    rw [← h] at hmem
    cases hmem
  ink w hw c hc := by
    by_contra hblank
    rw [Bool.not_eq_false] at hblank
    obtain ⟨b, hdecompose, hb⟩ := decompose_canonical_blank hblank
    have hmem : b ∈ decomposed .canonical (composed w) :=
      mem_decomposed.mpr ⟨c, hc, by simp [hdecompose]⟩
    rw [decomposed_composed] at hmem
    obtain ⟨d, hd, hbd⟩ := mem_decomposed.mp hmem
    simp [not_isBlank_decompose (hw d hd) b hbd] at hb

end Stripping

section Matching

variable {s : String}

/-- The characters of a text, stripped and decomposed. -/
def parts (s : String) : List Char := decomposed .canonical (stripChars s.toList)

theorem stable_parts (s : String) : Stable (parts s) := stable_decomposed _

theorem toList_caseless (s : String) :
    (caseless s).toList = decomposed .canonical (folded (parts s)) := by
  simp [caseless, nfd, caseFold, strip, folded, parts]

theorem caselessMatch_iff {a b : String} :
    CaselessMatch a b ↔ (caseless a).toList = (caseless b).toList := String.toList_inj.symm

/-- The text that is folded once it is composed and stripped. -/
theorem toList_fold_nfc (s : String) :
    (caseFold (strip (nfc s))).toList = folded (compose (parts s)) := by
  rw [caseFold, strip, String.toList_ofList, String.toList_ofList, toList_nfc,
    wordwise_composed.strip]
  rfl

/-- A caseless form in which no marks stand together is what the decomposed text folds to. -/
theorem folded_parts_iff (hapart : Apart ys) :
    folded (parts s) = ys ↔ (caseless s).toList = ys := by
  rw [toList_caseless, (stable_parts s).folded.decomposed_eq]
  exact ⟨fun h => by rw [h, reorder_eq_self hapart], fun h => eq_of_reorder h hapart⟩

/-- The folded composed text has the caseless form of the text. -/
theorem decomposed_fold_nfc_iff (hk : 'ι' ∉ ys) :
    decomposed .canonical (caseFold (strip (nfc s))).toList = ys ↔ (caseless s).toList = ys := by
  have hcomposed : compose (parts s) = composed (stripChars s.toList) := rfl
  rw [toList_fold_nfc, hcomposed, decomposed_folded_iff hk, decomposed_composed, toList_caseless,
    parts]

/-- Folding a text does not change its caseless form. -/
theorem caseless_caseFold_iff (hk : 'ι' ∉ ys) :
    (caseless (caseFold s)).toList = ys ↔ (caseless s).toList = ys := by
  have hfold : (caseFold s).toList = folded s.toList := String.toList_ofList
  rw [toList_caseless, toList_caseless, parts, parts, hfold, wordwise_folded.strip,
    ← decomposed_folded_iff hk, folded_folded, decomposed_folded_iff hk]

/-- What holds of the characters of a text holds of those of its caseless form, if decomposing and
folding keep it. -/
theorem forall_mem_caseless {P Q : Char → Prop} (hs : ∀ c ∈ s.toList, P c)
    (hdecompose : ∀ c, P c → ∀ d ∈ decompose .canonical c, Q d)
    (hfold : ∀ c, Q c → ∀ d ∈ foldChar c, Q d)
    (hstay : ∀ c, Q c → ∀ d ∈ decompose .canonical c, Q d) :
    ∀ d ∈ (caseless s).toList, Q d := by
  intro d hd
  rw [toList_caseless] at hd
  obtain ⟨e, he, hde⟩ := mem_decomposed.mp hd
  obtain ⟨f, hf, hef⟩ := List.mem_flatMap.mp he
  obtain ⟨c, hc, hfc⟩ := mem_decomposed.mp hf
  exact hstay e (hfold f (hdecompose c (hs c (mem_of_mem_strip hc)) f hfc) e hef) d hde

end Matching

end HdProvision.Text
