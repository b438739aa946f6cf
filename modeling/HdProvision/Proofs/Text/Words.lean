import HdProvision.Text.Blank
import HdProvision.Text.Split

/-!
# Words, separators and white space

Joining pieces that hold no separator and splitting the result again gives the pieces back; so does
splitting at white space, however much of it stands around the words.
-/

set_option autoImplicit false

namespace HdProvision.Text

theorem splitFrom_append {sep : Char} (piece a cs : List Char) (h : sep ∉ a) :
    splitFrom sep piece (a ++ cs) = splitFrom sep (a.reverse ++ piece) cs := by
  induction a generalizing piece with
  | nil => rfl
  | cons c a ih =>
    obtain ⟨hc, ha⟩ := not_or.mp (mt List.mem_cons.mpr h)
    rw [List.cons_append, splitFrom, if_neg (Ne.symm hc), ih _ ha]
    simp

theorem split_of_not_mem {sep : Char} {a : List Char} (h : sep ∉ a) : split sep a = [a] := by
  have := splitFrom_append [] a [] h
  simpa [split, splitFrom] using this

theorem split_append_cons {sep : Char} {a : List Char} (cs : List Char) (h : sep ∉ a) :
    split sep (a ++ sep :: cs) = a :: split sep cs := by
  rw [split, splitFrom_append [] a _ h]
  simp [splitFrom, split]

/-- Pieces with a separator between each two. -/
def joinChars (sep : List Char) : List (List Char) → List Char
  | [] => []
  | [a] => a
  | a :: b :: rest => a ++ sep ++ joinChars sep (b :: rest)

theorem toList_join (sep : String) (ws : List String) :
    (join sep ws).toList = joinChars sep.toList (ws.map String.toList) := by
  induction ws with
  | nil => rfl
  | cons w ws ih =>
    cases ws with
    | nil => rfl
    | cons v ws => simp [join, joinChars, ih]

theorem split_joinChars {sep : Char} {ps : List (List Char)} (hne : ps ≠ [])
    (h : ∀ p ∈ ps, sep ∉ p) : split sep (joinChars [sep] ps) = ps := by
  induction ps with
  | nil => exact absurd rfl hne
  | cons p ps ih =>
    cases ps with
    | nil => exact split_of_not_mem (h p (by simp))
    | cons q ps =>
      have hp := h p (by simp)
      rw [joinChars, List.append_assoc, List.singleton_append, split_append_cons _ hp,
        ih (by simp) (fun r hr => h r (by simp [hr]))]

/-- The pieces of a text, each but the first behind a separator, are the text again. -/
theorem splitFrom_cases (sep : Char) (piece cs : List Char) :
    ∃ a ps, splitFrom sep piece cs = (piece.reverse ++ a) :: ps ∧
      cs = a ++ ps.flatMap (sep :: ·) ∧ sep ∉ a ∧ ∀ p ∈ ps, sep ∉ p := by
  induction cs generalizing piece with
  | nil => exact ⟨[], [], by simp [splitFrom]⟩
  | cons c cs ih =>
    by_cases hc : c = sep
    · obtain ⟨a, ps, hsplit, hcs, ha, hps⟩ := ih []
      refine ⟨[], a :: ps, ?_, ?_, by simp, ?_⟩
      · simp [splitFrom, hc, hsplit]
      · simp [hc, hcs]
      · simpa using ⟨ha, hps⟩
    · obtain ⟨a, ps, hsplit, hcs, ha, hps⟩ := ih (c :: piece)
      refine ⟨c :: a, ps, ?_, by simp [hcs], ?_, hps⟩
      · simp [splitFrom, hc, hsplit]
      · simp [Ne.symm hc, ha]

/-- Splitting gives the pieces without separators that the text is put together from. -/
theorem split_eq_cons_iff {sep : Char} {cs a : List Char} {ps : List (List Char)} :
    split sep cs = a :: ps ↔ cs = a ++ ps.flatMap (sep :: ·) ∧ sep ∉ a ∧ ∀ p ∈ ps, sep ∉ p := by
  constructor
  · intro h
    obtain ⟨b, qs, hsplit, hcs, hb, hqs⟩ := splitFrom_cases sep [] cs
    rw [split, hsplit] at h
    obtain ⟨rfl, rfl⟩ := List.cons.inj h
    exact ⟨hcs, hb, hqs⟩
  · rintro ⟨rfl, ha, hps⟩
    induction ps generalizing a with
    | nil => simpa using split_of_not_mem ha
    | cons p ps ih =>
      obtain ⟨hp, hrest⟩ := List.forall_mem_cons.mp hps
      rw [List.flatMap_cons, List.cons_append, split_append_cons _ ha, ih hp hrest]

theorem exists_split (sep : Char) (cs : List Char) : ∃ a ps, split sep cs = a :: ps := by
  obtain ⟨a, ps, hsplit, -⟩ := splitFrom_cases sep [] cs
  exact ⟨_, ps, hsplit⟩

/-- The pieces on both sides of a separator. -/
theorem split_append_sep (sep : Char) (a cs : List Char) :
    split sep (a ++ sep :: cs) = split sep a ++ split sep cs := by
  obtain ⟨p, ps, hleft⟩ := exists_split sep a
  obtain ⟨q, qs, hright⟩ := exists_split sep cs
  rw [hleft, hright, List.cons_append]
  obtain ⟨rfl, hp, hps⟩ := split_eq_cons_iff.mp hleft
  obtain ⟨rfl, hq, hqs⟩ := split_eq_cons_iff.mp hright
  apply split_eq_cons_iff.mpr
  refine ⟨by simp, hp, ?_⟩
  simpa [or_imp, forall_and] using ⟨hps, hq, hqs⟩

theorem wordsFrom_append (word w cs : List Char) (h : ∀ c ∈ w, isBlank c = false) :
    wordsFrom word (w ++ cs) = wordsFrom (w.reverse ++ word) cs := by
  induction w generalizing word with
  | nil => rfl
  | cons c w ih =>
    simp only [List.cons_append, wordsFrom, h c (by simp), Bool.false_eq_true, if_false]
    rw [ih _ (fun d hd => h d (by simp [hd]))]
    simp

theorem wordsFrom_nil_append (gap cs : List Char) (h : ∀ c ∈ gap, isBlank c = true) :
    wordsFrom [] (gap ++ cs) = wordsFrom [] cs := by
  induction gap with
  | nil => rfl
  | cons c gap ih =>
    simp only [List.cons_append, wordsFrom, h c (by simp), if_true]
    exact ih fun d hd => h d (by simp [hd])

/-- A word that ends where the text ends or where white space follows it. -/
theorem wordsFrom_word {w cs : List Char} (hne : w ≠ []) (hw : ∀ c ∈ w, isBlank c = false)
    (hcs : ∀ c, cs.head? = some c → isBlank c = true) :
    wordsFrom [] (w ++ cs) = w :: wordsFrom [] cs := by
  rw [wordsFrom_append _ _ _ hw, List.append_nil]
  cases cs with
  | nil => simp [wordsFrom, hne]
  | cons c cs =>
    have hc := hcs c rfl
    simp [wordsFrom, hc, hne]

/-- Text that consists of some words with white space before, between and behind them. -/
inductive Spaced : List String → List Char → Prop
  | blank (gap : List Char) (h : ∀ c ∈ gap, isBlank c = true) : Spaced [] gap
  | word (gap : List Char) (w : String) (ws : List String) (cs : List Char)
      (hgap : ∀ c ∈ gap, isBlank c = true) (hcs : ∀ c, cs.head? = some c → isBlank c = true)
      (hrest : Spaced ws cs) : Spaced (w :: ws) (gap ++ w.toList ++ cs)

/-- A word that splitting at white space leaves whole. -/
def IsWord (w : String) : Prop := w.toList ≠ [] ∧ ∀ c ∈ w.toList, isBlank c = false

theorem words_of_spaced {ws : List String} {cs : List Char} (h : Spaced ws cs)
    (hw : ∀ w ∈ ws, IsWord w) : (wordsFrom [] cs).map String.ofList = ws := by
  induction h with
  | blank gap hgap =>
    have := wordsFrom_nil_append gap [] hgap
    simp only [List.append_nil] at this
    simp [this, wordsFrom]
  | word gap w ws cs hgap hcs hrest ih =>
    obtain ⟨hne, hb⟩ := hw w (by simp)
    rw [List.append_assoc, wordsFrom_nil_append _ _ hgap, wordsFrom_word hne hb hcs, List.map_cons,
      ih fun v hv => hw v (by simp [hv]), String.ofList_toList]

/-- White space in front of such a text belongs to its first gap. -/
theorem Spaced.blank_append {ws : List String} {cs gap : List Char} (h : Spaced ws cs)
    (hgap : ∀ c ∈ gap, isBlank c = true) : Spaced ws (gap ++ cs) := by
  cases h with
  | blank gap' hgap' =>
    exact Spaced.blank _ fun c hc => (List.mem_append.mp hc).elim (hgap c) (hgap' c)
  | word gap' w ws cs hgap' hcs hrest =>
    rw [← List.append_assoc, ← List.append_assoc]
    exact Spaced.word _ w ws cs
      (fun c hc => (List.mem_append.mp hc).elim (hgap c) (hgap' c)) hcs hrest

theorem spaced_joinChars (sep : Char) (hsep : isBlank sep = true) (ws : List String) :
    Spaced ws (joinChars [sep] (ws.map String.toList)) := by
  induction ws with
  | nil => exact Spaced.blank [] (by simp)
  | cons w ws ih =>
    cases ws with
    | nil =>
      have := Spaced.word [] w [] [] (by simp) (by simp) (Spaced.blank [] (by simp))
      simpa [joinChars] using this
    | cons v ws =>
      have hgap : ∀ c ∈ [sep], isBlank c = true := by simp [hsep]
      have hrest := ih.blank_append hgap
      have := Spaced.word [] w (v :: ws) _ (by simp) (by simp [hsep]) hrest
      simpa [joinChars] using this

/-- Words that are joined by white space and split again are the same words. -/
theorem words_join (sep : Char) (hsep : isBlank sep = true) (ws : List String)
    (hw : ∀ w ∈ ws, IsWord w) : words (join (String.ofList [sep]) ws) = ws := by
  rw [words, toList_join, String.toList_ofList]
  exact words_of_spaced (spaced_joinChars sep hsep ws) hw

/-- A joined text has no white space but what its words are joined with. -/
theorem mem_joinChars {sep : List Char} {c : Char} (ps : List (List Char))
    (h : c ∈ joinChars sep ps) : c ∈ sep ∨ ∃ p ∈ ps, c ∈ p := by
  induction ps with
  | nil => cases h
  | cons p ps ih =>
    cases ps with
    | nil => exact .inr ⟨p, List.mem_cons_self, h⟩
    | cons q ps =>
      rw [joinChars, List.append_assoc, List.mem_append, List.mem_append] at h
      rcases h with hp | hsep | hrest
      · exact .inr ⟨p, List.mem_cons_self, hp⟩
      · exact .inl hsep
      · rcases ih hrest with hsep | ⟨p', hp', hc⟩
        · exact .inl hsep
        · exact .inr ⟨p', List.mem_cons_of_mem _ hp', hc⟩

end HdProvision.Text
