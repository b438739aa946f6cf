import Mathlib.Data.Bool.AllAny
import HdProvision.Command.Invocation
import HdProvision.Mnemonic.Language
import HdProvision.Proofs.Text.Accents

/-!
# Names of languages

A language is found by every text that is a canonical caseless match of one of its names, but for
one kind of spelling. A name is composed before it is folded, and the long s has no composite with
the caron: a Czech name that is spelled with it keeps the caron apart when the s is folded, and no
language has that name.
-/

set_option autoImplicit false

namespace HdProvision.Mnemonic.Language

open Text

variable {a n : String}

/-- A spelling of the Czech name with a long s. -/
def LongS (s : String) : Prop := CaselessMatch s czech.nativeName ∧ 'ſ' ∈ s.toList

instance (s : String) : Decidable (LongS s) := inferInstanceAs (Decidable (_ ∧ _))

/-- A name that is found by what matches it caselessly. -/
structure Regular (n : String) : Prop where
  apart : Apart (caseless n).toList
  iota : 'ι' ∉ (caseless n).toList
  caron : '\u030C' ∉ (fold n).toList
  fold_eq : ∀ a, CaselessMatch a n → ¬ LongS a → fold a = fold n

section Plain

theorem apart_of_unclassed {cs : List Char} (h : ∀ c ∈ cs, combiningClass c = 0) : Apart cs := by
  induction cs with
  | nil => exact .nil
  | cons c cs ih =>
    obtain ⟨hc, hcs⟩ := List.forall_mem_cons.mp h
    cases cs with
    | nil => exact .singleton c
    | cons d cs => exact .cons_cons (.inl hc) (ih hcs)

theorem decomposed_ascii {cs : List Char} (h : Ascii cs) : decomposed .canonical cs = cs :=
  decomposed_eq_self (fun c hc => decompose_ascii (h c hc))
    (apart_of_unclassed fun c hc => (inert_of_lt (by have := h c hc; omega)).unclassed)

/-- Of ASCII text nothing is left to compare but its small letters. -/
theorem caseless_ascii (h : Ascii n.toList) :
    (caseless n).toList = (stripChars n.toList).map Char.toLower := by
  have hstrip : Ascii (stripChars n.toList) := fun c hc => h c (mem_of_mem_strip hc)
  have hlower : Ascii ((stripChars n.toList).map Char.toLower) := by
    intro d hd
    obtain ⟨c, hc, rfl⟩ := List.mem_map.mp hd
    exact toLower_ascii (hstrip c hc)
  rw [toList_caseless, parts, decomposed_ascii hstrip, folded_ascii hstrip,
    decomposed_ascii hlower]

theorem ascii_caseless (h : Ascii n.toList) : Ascii (caseless n).toList := by
  intro d hd
  rw [caseless_ascii h] at hd
  obtain ⟨c, hc, rfl⟩ := List.mem_map.mp hd
  exact toLower_ascii (h c (mem_of_mem_strip hc))

/-- What does not decompose further is in the caseless form if it is in the folded name. -/
theorem mem_caseless_of_mem_fold {c : Char} (hk : 'ι' ∉ (caseless n).toList)
    (hc : decompose .canonical c = [c]) (h : c ∈ (fold n).toList) : c ∈ (caseless n).toList := by
  rw [← (decomposed_fold_nfc_iff hk).mpr rfl]
  exact mem_decomposed.mpr ⟨c, h, by simp [hc]⟩

theorem decompose_caron : decompose .canonical '\u030C' = ['\u030C'] := by
  have hmem : (⟨'c', 'C', '\u030C', 'č', 'Č'⟩ : AccentedLetter) ∈ accentedLetters := by
    simp [accentedLetters]
  exact (composing (AccentedLetter.known hmem).composite).stay

theorem regular_of_ascii (h : Ascii n.toList) : Regular n := by
  have hascii := ascii_caseless h
  have hapart : Apart (caseless n).toList :=
    apart_of_unclassed fun c hc => (inert_of_lt (by have := hascii c hc; omega)).unclassed
  have hiota : 'ι' ∉ (caseless n).toList := fun hmem => absurd (hascii _ hmem) (by decide)
  -- a text that matches composes with nothing
  have hfold : ∀ a, CaselessMatch a n → (fold a).toList = (caseless n).toList := by
    intro a ha
    have hparts := (folded_parts_iff hapart).mpr (caselessMatch_iff.mp ha)
    have hinert : ∀ c ∈ parts a, Inert c := by
      intro c hc
      obtain ⟨d, hd⟩ := List.exists_mem_of_ne_nil _ (foldChar_ne_nil c)
      have hmem : d ∈ folded (parts a) := List.mem_flatMap.mpr ⟨c, hc, hd⟩
      exact inert_of_foldChar hd (hascii d (hparts ▸ hmem))
    rw [fold, toList_fold_nfc, compose_of_inert hinert, hparts]
  exact ⟨hapart, hiota, fun hmem => absurd (hascii _ (hfold n rfl ▸ hmem)) (by decide),
    fun a ha _ => String.toList_inj.mp ((hfold a ha).trans (hfold n rfl).symm)⟩

/-- Text in scripts without case. -/
def Uncased (cs : List Char) : Prop :=
  ∀ c ∈ cs, isUncased c.toNat = true ∨ isSyllable c.toNat = true

instance (cs : List Char) : Decidable (Uncased cs) := List.decidableBAll _ cs

theorem uncased_caseless (h : Uncased n.toList) :
    ∀ d ∈ (caseless n).toList, isUncased d.toNat = true := by
  have hstay : ∀ c : Char, isUncased c.toNat = true →
      ∀ d ∈ decompose .canonical c, isUncased d.toNat = true := by
    intro c hc d hd
    rw [decompose_uncased hc, List.mem_singleton] at hd
    rwa [hd]
  refine forall_mem_caseless h (fun c hc => ?_) (fun c hc d hd => ?_) hstay
  · exact hc.elim (hstay c) isUncased_decompose_syllable
  · rw [foldChar_uncased hc, List.mem_singleton] at hd
    rwa [hd]

theorem regular_of_uncased (h : Uncased n.toList) : Regular n := by
  have huncased := uncased_caseless h
  have hapart : Apart (caseless n).toList :=
    apart_of_unclassed fun c hc => combiningClass_uncased (huncased c hc)
  have hiota : 'ι' ∉ (caseless n).toList := fun hmem => absurd (huncased _ hmem) (by decide)
  -- a text that matches has the same decomposed form
  have hparts : ∀ a, CaselessMatch a n → parts a = (caseless n).toList := by
    intro a ha
    have hfolded := (folded_parts_iff hapart).mpr (caselessMatch_iff.mp ha)
    have hself : ∀ c ∈ parts a, foldChar c = [c] := by
      intro c hc
      refine foldChar_of_uncased fun d hd => huncased d ?_
      rw [← hfolded]
      exact List.mem_flatMap.mpr ⟨c, hc, hd⟩
    rw [← hfolded, folded, List.flatMap_congr hself, List.flatMap_singleton']
  refine ⟨hapart, hiota, fun hmem => ?_, fun a ha _ => ?_⟩
  · exact absurd (huncased _ (mem_caseless_of_mem_fold hiota decompose_caron hmem)) (by decide)
  · apply String.toList_inj.mp
    rw [fold, fold, toList_fold_nfc, toList_fold_nfc, hparts a ha, hparts n rfl]

end Plain

section Accented

/-- A name that folds to ASCII letters and accented ones, none of them alike to a ligature. -/
structure Spelling (n : String) (name : List Char) : Prop where
  ink : ∀ c ∈ n.toList, isBlank c = false
  letters : ∀ c ∈ n.toList,
    c.toNat < 0x80 ∨ ∃ a ∈ accentedLetters, c = a.letter ∨ c = a.capitalLetter
  small : n.toList.map smallLetter = name
  lettered : Lettered name
  unligated : Unligated (name.flatMap letterParts)
  spaced : (name.flatMap letterParts).IsChain fun c d => c.toNat < 0x300 ∨ d.toNat < 0x300
  others : ∀ c ∈ name.flatMap letterParts, c ≠ 'ι' ∧ c ≠ '\u0307'
  composed : '\u030C' ∉ name

variable {name : List Char}

theorem apart_of_low {cs : List Char}
    (h : cs.IsChain fun c d => c.toNat < 0x300 ∨ d.toNat < 0x300) : Apart cs :=
  h.imp fun _ _ =>
    Or.imp (fun hc => (inert_of_lt hc).unclassed) fun hd => (inert_of_lt hd).unclassed

theorem Spelling.apart (h : Spelling n name) : Apart (name.flatMap letterParts) :=
  apart_of_low h.spaced

theorem Spelling.iota (h : Spelling n name) : 'ι' ∉ name.flatMap letterParts :=
  fun hmem => (h.others _ hmem).1 rfl

theorem Spelling.caseless_eq (h : Spelling n name) :
    (caseless n).toList = name.flatMap letterParts := by
  have hstrip : stripChars n.toList = n.toList := trim_eq_self h.ink
  have hfolds : folded n.toList = name := by
    rw [← h.small, folded, List.flatMap_congr fun c hc => foldChar_letter (h.letters c hc),
      ← List.map_eq_flatMap]
  rw [toList_caseless, parts, hstrip, ← decomposed_folded_iff h.iota, hfolds, decomposed,
    h.lettered.flatMap_eq, reorder_eq_self h.apart]

/-- A long s is no part of another character here, since the dot is none of the marks. -/
theorem longS_mem_parts {ys : List Char} (h : folded (parts a) = ys) (hdot : '\u0307' ∉ ys) :
    'ſ' ∈ parts a ↔ 'ſ' ∈ a.toList := by
  constructor
  · intro hmem
    obtain ⟨c, hc, hcs⟩ := mem_decomposed.mp hmem
    rcases eq_longS_or_dot hcs with rfl | hcdot
    · exact mem_of_mem_strip hc
    · have hparts : '\u0307' ∈ parts a := mem_decomposed.mpr ⟨c, hc, hcdot⟩
      have hfold : foldChar '\u0307' = ['\u0307'] := foldChar_singleton (n := 0x307) (by decide)
      refine absurd (List.mem_flatMap.mpr ⟨_, hparts, ?_⟩) (h ▸ hdot)
      simp [hfold]
  · intro hmem
    have hink : isBlank 'ſ' = false := by decide
    exact mem_decomposed.mpr ⟨'ſ', mem_strip hmem hink, by simp [decompose_longS]⟩

theorem Spelling.fold_eq (h : Spelling n name) (ha : CaselessMatch a n)
    (hlong : 'š' ∈ name → 'ſ' ∉ a.toList) : (fold a).toList = name := by
  have hparts := (folded_parts_iff h.apart).mpr
    ((caselessMatch_iff.mp ha).trans h.caseless_eq)
  have hlong' : 'š' ∈ name → 'ſ' ∉ parts a := by
    intro hs
    rw [longS_mem_parts hparts fun hmem => (h.others _ hmem).2 rfl]
    exact hlong hs
  rw [fold, toList_fold_nfc]
  apply folded_compose h.lettered _ (stable_parts a) hlong' _
  · rw [h.lettered.flatMap_eq]
    exact h.unligated
  · rw [hparts, h.lettered.flatMap_eq]

theorem Spelling.regular (h : Spelling n name) (hn : 'ſ' ∉ n.toList)
    (hczech : 'š' ∈ name → CaselessMatch n czech.nativeName) : Regular n := by
  have hself : (fold n).toList = name := h.fold_eq rfl fun _ => hn
  refine ⟨h.caseless_eq ▸ h.apart, h.caseless_eq ▸ h.iota, hself ▸ h.composed, fun a ha hlong => ?_⟩
  apply String.toList_inj.mp
  rw [hself]
  refine h.fold_eq ha fun hs hmem => hlong ⟨?_, hmem⟩
  exact Eq.trans ha (hczech hs)

end Accented

theorem spelling_french : Spelling french.nativeName "français".toList := by
  constructor <;> first | exact List.all_iff_forall_prop.mp (by decide) | decide

theorem spelling_spanish : Spelling spanish.nativeName "español".toList := by
  constructor <;> first | exact List.all_iff_forall_prop.mp (by decide) | decide

theorem spelling_czech : Spelling czech.nativeName "čeština".toList := by
  constructor <;> first | exact List.all_iff_forall_prop.mp (by decide) | decide

theorem spelling_portuguese : Spelling portuguese.nativeName "português".toList := by
  constructor <;> first | exact List.all_iff_forall_prop.mp (by decide) | decide

/-- Every name of a language is found by what matches it. -/
theorem regular (l : Language) : Regular l.identifier ∧ Regular l.nativeName := by
  cases l
  case english => exact ⟨regular_of_ascii (by decide), regular_of_ascii (by decide)⟩
  case chineseSimplified => exact ⟨regular_of_ascii (by decide), regular_of_uncased (by decide)⟩
  case chineseTraditional => exact ⟨regular_of_ascii (by decide), regular_of_uncased (by decide)⟩
  case french =>
    exact ⟨regular_of_ascii (by decide), spelling_french.regular (by decide) (by decide)⟩
  case italian => exact ⟨regular_of_ascii (by decide), regular_of_ascii (by decide)⟩
  case japanese => exact ⟨regular_of_ascii (by decide), regular_of_uncased (by decide)⟩
  case korean => exact ⟨regular_of_ascii (by decide), regular_of_uncased (by decide)⟩
  case spanish =>
    exact ⟨regular_of_ascii (by decide), spelling_spanish.regular (by decide) (by decide)⟩
  case czech =>
    exact ⟨regular_of_ascii (by decide), spelling_czech.regular (by decide) fun _ => rfl⟩
  case portuguese =>
    exact ⟨regular_of_ascii (by decide), spelling_portuguese.regular (by decide) (by decide)⟩

section LongS

theorem compose_longS (xs : List Char) : '\u030C' ∈ compose ('ſ' :: '\u030C' :: xs) := by
  have hnone : composite? 'ſ' '\u030C' = none :=
    composite?_of_mem (x := 0x17F) (y := 0x30C) (z := none) (by decide)
  have hinert : Inert 'ſ' := inert_of_lt (by decide)
  rw [compose, if_pos hinert.unclassed, composeFrom_cons, hnone, ite_self]
  simp only [if_neg combiningClass_caron]
  exact mem_composeFrom List.mem_cons_self _ _

/-- The caron that the long s leaves alone is still there when the name is folded. -/
theorem LongS.caron_mem_fold (h : LongS a) : '\u030C' ∈ (fold a).toList := by
  have hletters : "čeština".toList.flatMap letterParts =
      ['c', '\u030C', 'e'] ++ 's' :: '\u030C' :: ['t', 'i', 'n', 'a'] := by decide
  have hfolded := (folded_parts_iff spelling_czech.apart).mpr
    ((caselessMatch_iff.mp h.1).trans spelling_czech.caseless_eq)
  have hmem : 'ſ' ∈ parts a :=
    (longS_mem_parts hfolded fun hdot => (spelling_czech.others _ hdot).2 rfl).mpr h.2
  -- the name has one s only, so that the long s stands in its place
  obtain ⟨front, back, hparts⟩ := List.append_of_mem hmem
  have hback : folded back = '\u030C' :: ['t', 'i', 'n', 'a'] := by
    rw [hletters, hparts, folded, List.flatMap_append, List.flatMap_cons, foldChar_longS] at hfolded
    exact ((List.append_cons_inj_of_notMem (by decide) (by decide)).mp hfolded.symm).2.2.symm
  have hstable : Stable back := fun d hd => stable_parts a d (by simp [hparts, hd])
  obtain ⟨m, ms, rfl, -, -, hm⟩ :=
    exists_of_folded_eq_cons hstable hback (List.all_iff_forall_prop.mp (by decide)) (by decide)
  obtain rfl := hm.eq_accent (by decide)
  have hinert : Inert 'ſ' := inert_of_lt (by decide)
  rw [fold, toList_fold_nfc, hparts, compose_append hinert]
  refine List.mem_flatMap.mpr ⟨'\u030C', List.mem_append_right _ (compose_longS ms), ?_⟩
  rw [foldChar_singleton (n := 0x30C) (m := 0x30C) (by decide)]
  exact List.mem_singleton_self _

theorem caseless_longS :
    (caseless "čeſ\u030Ctina").toList = (caseless czech.nativeName).toList := by
  have hletters : Lettered ['č', 'e'] ∧ Lettered ['t', 'i', 'n', 'a'] := by decide
  have hdecompose : ∀ xs ys : List Char,
      (xs ++ 'ſ' :: '\u030C' :: ys).flatMap (decompose .canonical) =
        xs.flatMap (decompose .canonical) ++
          'ſ' :: '\u030C' :: ys.flatMap (decompose .canonical) := by
    simp [decompose_longS, decompose_caron]
  have hfold : ∀ xs ys zs : List Char,
      folded (xs ++ '\u030C' :: (ys ++ 'ſ' :: '\u030C' :: zs)) =
        folded xs ++ '\u030C' :: (folded ys ++ 's' :: '\u030C' :: folded zs) := by
    simp [folded, foldChar_longS, foldChar_singleton (n := 0x30C) (m := 0x30C) (by decide)]
  have hstrip : stripChars "čeſ\u030Ctina".toList =
      ['č', 'e'] ++ 'ſ' :: '\u030C' :: ['t', 'i', 'n', 'a'] := by decide
  have hparts : parts "čeſ\u030Ctina" =
      ['c'] ++ '\u030C' :: (['e'] ++ 'ſ' :: '\u030C' :: ['t', 'i', 'n', 'a']) := by
    rw [parts, hstrip, decomposed, hdecompose, hletters.1.flatMap_eq, hletters.2.flatMap_eq]
    exact reorder_eq_self (apart_of_low (by decide))
  rw [spelling_czech.caseless_eq, ← folded_parts_iff spelling_czech.apart, hparts, hfold,
    folded_ascii (by decide), folded_ascii (by decide), folded_ascii (by decide)]
  decide

end LongS

section Lookup

/-- The text is folded to the folded name exactly if it matches and has no long s for the caron. -/
theorem Regular.fold_eq_iff (hn : Regular n) (a : String) :
    fold a = fold n ↔ CaselessMatch a n ∧ ¬ LongS a := by
  refine ⟨fun h => ⟨?_, fun hlong => ?_⟩, fun ⟨hmatch, hlong⟩ => hn.fold_eq a hmatch hlong⟩
  · have hname := (decomposed_fold_nfc_iff (s := n) hn.iota).mpr rfl
    have hfold : decomposed .canonical (fold a).toList = (caseless n).toList := by
      rw [h]
      exact hname
    exact caselessMatch_iff.mpr ((decomposed_fold_nfc_iff hn.iota).mp hfold)
  · exact hn.caron (h ▸ hlong.caron_mem_fold)

/-- The language with a name that the text matches. -/
def matching? (a : String) : Option Language :=
  all.find? fun l => CaselessMatch a l.identifier ∨ CaselessMatch a l.nativeName

theorem isNamed_iff (a : String) (l : Language) : isNamed (fold a) l = true ↔
    (CaselessMatch a l.identifier ∨ CaselessMatch a l.nativeName) ∧ ¬ LongS a := by
  obtain ⟨hidentifier, hnative⟩ := regular l
  rw [isNamed, Bool.or_eq_true, decide_eq_true_eq, decide_eq_true_eq, hidentifier.fold_eq_iff,
    hnative.fold_eq_iff, or_and_right]

/-- A language is looked up by caseless matching, and the long s is not found. -/
theorem find?_eq (a : String) : find? a = if LongS a then none else matching? a := by
  rw [find?]
  split
  · next hlong =>
    refine List.find?_eq_none.mpr fun l _ h => ?_
    exact ((isNamed_iff a l).mp h).2 hlong
  · next hlong =>
    refine congrArg (all.find? ·) (funext fun l => ?_)
    rw [Bool.eq_iff_iff, isNamed_iff, decide_eq_true_eq, and_iff_left hlong]

theorem matching?_congr {a b : String} (h : CaselessMatch a b) : matching? a = matching? b := by
  have hiff : ∀ n, CaselessMatch a n ↔ CaselessMatch b n := fun n => by
    rw [CaselessMatch, CaselessMatch, h]
  exact congrArg (all.find? ·) (funext fun l => decide_eq_decide.mpr (or_congr (hiff _) (hiff _)))

theorem matching?_of_longS (h : LongS a) : matching? a ≠ none := by
  rw [Ne, matching?, List.find?_eq_none]
  exact fun hall => hall czech (mem_all czech) (by simp [h.1])

/-- The iota below is in no name, so that a text may as well be folded before it is looked up. -/
theorem matching?_caseFold (a : String) : matching? (caseFold a) = matching? a := by
  have hiff : ∀ n, Regular n → (CaselessMatch (caseFold a) n ↔ CaselessMatch a n) := by
    intro n hn
    rw [caselessMatch_iff, caselessMatch_iff, caseless_caseFold_iff hn.iota]
  exact congrArg (all.find? ·) (funext fun l =>
    decide_eq_decide.mpr (or_congr (hiff _ (regular l).1) (hiff _ (regular l).2)))

theorem not_longS_caseFold (a : String) : ¬ LongS (caseFold a) := by
  intro h
  have hmem : 'ſ' ∈ folded a.toList := by
    have := h.2
    rwa [caseFold, String.toList_ofList] at this
  obtain ⟨c, -, hc⟩ := List.mem_flatMap.mp hmem
  have hself := foldChar_foldChar hc
  rw [foldChar_longS] at hself
  exact absurd hself (by decide)

theorem find?_eq_iff {a b : String} (h : CaselessMatch a b) :
    find? a = find? b ↔ (LongS a ↔ LongS b) := by
  have hsome : LongS a ∨ LongS b → matching? b ≠ none := by
    rintro (ha | hb)
    · rw [← matching?_congr h]
      exact matching?_of_longS ha
    · exact matching?_of_longS hb
  rw [find?_eq, find?_eq, matching?_congr h]
  by_cases ha : LongS a <;> by_cases hb : LongS b <;> simp [ha, hb]
  · exact (hsome (.inl ha)).symm
  · exact hsome (.inr hb)

theorem toOption_languageOfText (text : String) :
    (Command.languageOfText text).toOption = find? text := by
  -- the name alone is unfolded, since the lookup would be evaluated next to the text
  have hname : Command.languageOfText = Command.languageOfText := rfl
  conv_rhs at hname => delta Command.languageOfText
  rw [hname]
  beta_reduce
  generalize find? text = found
  cases found <;> rfl

theorem identifier_injective : Function.Injective identifier := by
  intro l m h
  cases l <;> cases m <;> first | rfl | simp [identifier] at h

/-- Texts that match are looked up alike, also as a value of the command line, unless just one of
them spells the Czech name with a long s; and so are a text and its case folding. -/
theorem found_alike (a : String) :
    (∀ b, CaselessMatch a b →
      (find? a = find? b ↔ (LongS a ↔ LongS b)) ∧
      ((Command.languageOfText a).toOption.map identifier =
          (Command.languageOfText b).toOption.map identifier ↔ (LongS a ↔ LongS b))) ∧
    (find? (caseFold a) = find? a ↔ ¬ LongS a) := by
  refine ⟨fun b h => ⟨find?_eq_iff h, ?_⟩, ?_⟩
  · rw [toOption_languageOfText, toOption_languageOfText,
      (Option.map_injective identifier_injective).eq_iff, find?_eq_iff h]
  · rw [find?_eq, if_neg (not_longS_caseFold a), matching?_caseFold, find?_eq]
    by_cases ha : LongS a
    · simp [ha, matching?_of_longS ha]
    · simp [ha]

theorem found_alike_english : CaselessMatch " English\n" "ENGLISH" ∧
    find? " English\n" = find? "ENGLISH" := by
  have hmatch : CaselessMatch " English\n" "ENGLISH" := by
    rw [caselessMatch_iff, caseless_ascii (by decide), caseless_ascii (by decide)]
    decide
  refine ⟨hmatch, ((found_alike _).1 _ hmatch).1.mpr (iff_of_false ?_ ?_)⟩
  · exact fun h => absurd h.2 (by decide)
  · exact fun h => absurd h.2 (by decide)

/-- The Czech name with a long s is found only once it is folded. -/
theorem longS_not_found : CaselessMatch "čeſ\u030Ctina" czech.nativeName ∧
    find? "čeſ\u030Ctina" = none ∧ find? czech.nativeName ≠ none ∧
      find? (caseFold "čeſ\u030Ctina") ≠ none := by
  have hmatch := caselessMatch_iff.mpr caseless_longS
  have hlong : LongS "čeſ\u030Ctina" := ⟨hmatch, by decide⟩
  refine ⟨hmatch, ?_, ?_, ?_⟩
  · rw [find?_eq, if_pos hlong]
  · rw [find?_eq, if_neg fun h => absurd h.2 (by decide), ← matching?_congr hmatch]
    exact matching?_of_longS hlong
  · rw [find?_eq, if_neg (not_longS_caseFold _), matching?_caseFold]
    exact matching?_of_longS hlong

end Lookup

end HdProvision.Mnemonic.Language
