import HdProvision.Proofs.Mnemonic.Reading

/-!
# The grammar of phrases

Words are accepted exactly when their decompositions are the words of some entropy, and no other
entropy has the same words. Words that are not accepted break the first of three rules: on their
number, on each of them, and on their checksum.
-/

set_option autoImplicit false

namespace HdProvision.Mnemonic

open Text (IsWord nfkd)

variable {l : Language} {ws : List String} {entropy entropy' : Bytes}

/-- Words, however they are typed, are those of entropy in one of the five sizes. -/
structure Spells (l : Language) (ws : List String) (entropy : Bytes) : Prop where
  size : entropy.length ∈ [16, 20, 24, 28, 32]
  words : ws.map nfkd = ofEntropy l entropy

theorem WordCount.exists_entropySize {n : Nat} (h : n ∈ [16, 20, 24, 28, 32]) :
    ∃ count : WordCount, n = count.entropySize := by
  simp only [List.mem_cons, List.not_mem_nil, or_false] at h
  rcases h with rfl | rfl | rfl | rfl | rfl
  · exact ⟨.twelve, rfl⟩
  · exact ⟨.fifteen, rfl⟩
  · exact ⟨.eighteen, rfl⟩
  · exact ⟨.twentyOne, rfl⟩
  · exact ⟨.twentyFour, rfl⟩

theorem WordCount.entropySize_mem (count : WordCount) :
    count.entropySize ∈ [16, 20, 24, 28, 32] := by
  cases count <;> decide

theorem WordCount.ofInt?_eq_some {n : Nat} {count : WordCount} (h : ofInt? n = some count) :
    n = count.toNat := by
  have hfound := List.find?_some h
  simpa using (decide_eq_true_eq.mp hfound).symm

/-- A number is a word count if some word count has it. -/
theorem WordCount.isSome_ofInt? (n : Nat) :
    (ofInt? n).isSome = true ↔ n ∈ [12, 15, 18, 21, 24] := by
  constructor
  · intro h
    obtain ⟨count, hcount⟩ := Option.isSome_iff_exists.mp h
    rw [ofInt?_eq_some hcount]
    cases count <;> decide
  · intro h
    simp only [List.mem_cons, List.not_mem_nil, or_false] at h
    rcases h with rfl | rfl | rfl | rfl | rfl <;> rfl

/-- A number that is found belongs to the word. -/
theorem Language.word_of_index? {w : String} {i : Nat} (h : l.index? w = some i) :
    i < Lists.size ∧ l.word i = w := by
  obtain ⟨hlt, heq, -⟩ := List.idxOf?_eq_some_iff.mp h
  have hsize : i < Lists.size := by rwa [l.regular_words.length_eq] at hlt
  obtain ⟨_, hword⟩ := l.word_eq hsize
  exact ⟨hsize, hword.trans heq⟩

/-- Words that are all found are those with the numbers that were found. -/
theorem map_word_of_mapM {ws : List String} {ds : List Nat} (h : ws.mapM l.index? = some ds) :
    (∀ d ∈ ds, d < Lists.size) ∧ ds.map l.word = ws := by
  induction ws generalizing ds with
  | nil =>
    cases h
    exact ⟨nofun, rfl⟩
  | cons w ws ih =>
    rw [List.mapM_cons] at h
    obtain ⟨d, hd, h⟩ := Option.bind_eq_some_iff.mp h
    obtain ⟨ds, hds, h⟩ := Option.bind_eq_some_iff.mp h
    cases h
    obtain ⟨hlt, hword⟩ := Language.word_of_index? hd
    obtain ⟨hall, hwords⟩ := ih hds
    exact ⟨List.forall_mem_cons.mpr ⟨hlt, hall⟩, by rw [List.map_cons, hword, hwords]⟩

theorem isWord_of_mem {w : String} (h : w ∈ l.words) : IsWord w :=
  Lists.isWord_of_isPlain (l.regular_words.plain w h)

theorem length_of_spells (h : Spells l ws entropy) :
    ∃ count : WordCount, entropy.length = count.entropySize ∧ ws.length = count.toNat := by
  obtain ⟨count, hcount⟩ := WordCount.exists_entropySize h.size
  refine ⟨count, hcount, ?_⟩
  rw [← length_ofEntropy (l := l) hcount, ← h.words, List.length_map]

/-- The words of entropy are on the list. -/
theorem mem_words_of_spells (h : Spells l ws entropy) : ∀ w ∈ ws, nfkd w ∈ l.words := by
  intro w hw
  obtain ⟨i, hi, heq⟩ := mem_ofEntropy (h.words ▸ List.mem_map_of_mem hw)
  obtain ⟨hlt, hword⟩ := l.word_eq hi
  rw [← heq, hword]
  exact List.getElem_mem hlt

/-- No two pieces of entropy have the same words. -/
theorem spells_inj (h : Spells l ws entropy) (h' : Spells l ws entropy') : entropy = entropy' := by
  obtain ⟨count, hsize, hcount⟩ := length_of_spells h
  obtain ⟨count', hsize', hcount'⟩ := length_of_spells h'
  have hsame : entropy'.length = entropy.length := by
    have hthree := count.entropySize_mul_three
    have hthree' := count'.entropySize_mul_three
    omega
  obtain ⟨groups, hg, hgroups, -⟩ := count.entropySize_eq
  have hlength : entropy.length = 4 * groups := hsize.trans hgroups
  have hdigits : digits (groups * 3) (packed entropy) = digits (groups * 3) (packed entropy') := by
    have hquot : entropy.length / 4 = groups := by omega
    have hfound : (ws.map nfkd).mapM l.index? = some (digits (groups * 3) (packed entropy)) := by
      rw [h.words, mapM_index?_ofEntropy, hquot]
    have hfound' : (ws.map nfkd).mapM l.index? = some (digits (groups * 3) (packed entropy')) := by
      rw [h'.words, mapM_index?_ofEntropy, hsame, hquot]
    exact Option.some.inj (hfound.symm.trans hfound')
  have hpacked := congrArg number hdigits
  rw [Nat.mul_comm, number_digits (packed_lt hlength (by omega)),
    number_digits (packed_lt (hsame.trans hlength) (by omega))] at hpacked
  exact packed_inj hlength (hsame.trans hlength) (by omega) hpacked

/-- What the checksum is taken of: as the words are on the list, no white space comes out of them. -/
theorem isSound_iff (hne : ws ≠ []) (hknown : ∀ w ∈ ws, nfkd w ∈ l.words) :
    isSound l (Text.join " " ws) = true ↔ ∃ ds, (ws.map nfkd).mapM l.index? = some ds ∧
      (WordCount.ofInt? ds.length).isSome = true ∧ sumsUp (ds.length / 3) (number ds) = true := by
  have hwords : ∀ w ∈ ws.map nfkd, IsWord w := by
    intro w hw
    obtain ⟨v, hv, rfl⟩ := List.mem_map.mp hw
    exact isWord_of_mem (hknown v hv)
  have hsplit := Text.split_join (by simpa using hne : ws.map nfkd ≠ []) hwords
  rw [isSound, show (" " : String) = String.ofList [' '] from rfl, Text.nfkd_join Text.parts_space,
    hsplit]
  cases (ws.map nfkd).mapM l.index? with
  | none => simp
  | some ds => simp

/-- Words that sum up are those of the entropy that is in front of their checksum. -/
theorem spells_of_isSound (hcount : ws.length ∈ [12, 15, 18, 21, 24])
    (hknown : ∀ w ∈ ws, nfkd w ∈ l.words) (h : isSound l (Text.join " " ws) = true) :
    ∃ entropy, Spells l ws entropy := by
  have hne : ws ≠ [] := by
    rintro rfl
    simp at hcount
  obtain ⟨ds, hds, -, hsum⟩ := (isSound_iff hne hknown).mp h
  obtain ⟨hlt, hwords⟩ := map_word_of_mapM hds
  obtain ⟨count, hofInt⟩ := Option.isSome_iff_exists.mp ((WordCount.isSome_ofInt? _).mpr hcount)
  obtain ⟨groups, -, hsize, hthree⟩ := count.entropySize_eq
  have hlength : ds.length = 3 * groups := by
    rw [← hthree, ← WordCount.ofInt?_eq_some hofInt, ← List.length_map nfkd, ← hwords,
      List.length_map]
  rw [hlength, Nat.mul_div_cancel_left _ (by decide)] at hsum
  have hpacked := packed_of_sumsUp (hlength ▸ number_lt hlt) hsum
  refine ⟨Bytes.ofNatBE (4 * groups) (number ds >>> groups), ?_, ?_⟩
  · rw [Bytes.length_ofNatBE, ← hsize]
    exact count.entropySize_mem
  · rw [ofEntropy, hpacked, Bytes.length_ofNatBE, Nat.mul_div_cancel_left _ (by decide),
      Nat.mul_comm, ← hlength, digits_number hlt, hwords]

theorem isSound_of_spells (h : Spells l ws entropy) : isSound l (Text.join " " ws) = true := by
  obtain ⟨count, hsize, -⟩ := length_of_spells h
  exact isSound_join hsize h.words

/-- The rules that words break when they are refused for a reason. The second is judged when the first
is kept, and the third when the second is. -/
def Breaks (l : Language) (ws : List String) : Reason → Prop
  | .wordCount n => n = ws.length ∧ ws.length ∉ [12, 15, 18, 21, 24]
  | .unknownWord => ws.length ∈ [12, 15, 18, 21, 24] ∧ ∃ w ∈ ws, nfkd w ∉ l.words
  | .checksum => ws.length ∈ [12, 15, 18, 21, 24] ∧ (∀ w ∈ ws, nfkd w ∈ l.words) ∧
      ¬ ∃ entropy, Spells l ws entropy

theorem any_isNone_index? (l : Language) (ws : List String) :
    (ws.any fun w => (l.index? (nfkd w)).isNone) = true ↔ ∃ w ∈ ws, nfkd w ∉ l.words := by
  simp only [List.any_eq_true, Option.isNone_iff_eq_none, Language.index?, List.idxOf?_eq_none_iff]

/-- Words are accepted as they are, or refused for the one rule that they break. -/
theorem validate_cases (l : Language) (ws : List String) :
    (validate l ws = .ok (Text.join " " ws) ∧ ∃ entropy, Spells l ws entropy) ∨
    ∃ reason, validate l ws = .error ⟨Text.join " " ws, l, reason⟩ ∧ Breaks l ws reason := by
  rw [validate]
  by_cases hcount : ws.length ∈ [12, 15, 18, 21, 24]
  · have hnone : (WordCount.ofInt? ws.length).isNone = false := by
      rw [Option.isNone_eq_false_iff]
      exact (WordCount.isSome_ofInt? _).mpr hcount
    simp only [hnone, Bool.false_eq_true, if_false]
    by_cases hunknown : ∃ w ∈ ws, nfkd w ∉ l.words
    · rw [if_pos ((any_isNone_index? l ws).mpr hunknown)]
      exact Or.inr ⟨_, rfl, hcount, hunknown⟩
    · rw [if_neg (mt (any_isNone_index? l ws).mp hunknown)]
      push Not at hunknown
      by_cases hsound : isSound l (Text.join " " ws) = true
      · rw [if_pos hsound]
        exact Or.inl ⟨rfl, spells_of_isSound hcount hunknown hsound⟩
      · rw [if_neg hsound]
        refine Or.inr ⟨_, rfl, hcount, hunknown, ?_⟩
        rintro ⟨entropy, hspells⟩
        exact hsound (isSound_of_spells hspells)
  · have hnone : (WordCount.ofInt? ws.length).isNone = true := by
      rw [Option.isNone_iff_eq_none, ← Option.not_isSome_iff_eq_none]
      exact mt (WordCount.isSome_ofInt? _).mp hcount
    simp only [hnone, if_true]
    exact Or.inr ⟨_, rfl, rfl, hcount⟩

/-- Words that break a rule are of no entropy. -/
theorem not_spells_of_breaks {reason : Reason} (h : Breaks l ws reason) :
    ¬ ∃ entropy, Spells l ws entropy := by
  rintro ⟨entropy, hspells⟩
  cases reason with
  | wordCount n =>
    obtain ⟨count, -, hcount⟩ := length_of_spells hspells
    refine h.2 ?_
    rw [hcount]
    cases count <;> decide
  | unknownWord =>
    obtain ⟨-, w, hw, hunknown⟩ := h
    exact hunknown (mem_words_of_spells hspells w hw)
  | checksum => exact h.2.2 ⟨entropy, hspells⟩

/-- Words break no two rules. -/
theorem breaks_unique {reason reason' : Reason} (h : Breaks l ws reason)
    (h' : Breaks l ws reason') : reason = reason' := by
  cases reason with
  | wordCount n =>
    cases reason' with
    | wordCount n' => rw [h.1, h'.1]
    | unknownWord => exact absurd h'.1 h.2
    | checksum => exact absurd h'.1 h.2
  | unknownWord =>
    obtain ⟨w, hw, hunknown⟩ := h.2
    cases reason' with
    | wordCount n' => exact absurd h.1 h'.2
    | unknownWord => rfl
    | checksum => exact absurd (h'.2.1 w hw) hunknown
  | checksum =>
    cases reason' with
    | wordCount n' => exact absurd h.1 h'.2
    | unknownWord =>
      obtain ⟨w, hw, hunknown⟩ := h'.2
      exact absurd (h.2.1 w hw) hunknown
    | checksum => rfl

theorem validate_ok_iff (l : Language) (ws : List String) (phrase : String) :
    validate l ws = .ok phrase ↔ phrase = Text.join " " ws ∧ ∃ entropy, Spells l ws entropy := by
  rcases validate_cases l ws with ⟨hok, hspells⟩ | ⟨reason, herror, hbreaks⟩
  · rw [hok, Except.ok.injEq, eq_comm]
    exact (and_iff_left hspells).symm
  · rw [herror]
    exact iff_of_false nofun fun h => not_spells_of_breaks hbreaks h.2

theorem validate_error_iff (l : Language) (ws : List String) (r : Rejection) :
    validate l ws = .error r ↔
      r.phrase = Text.join " " ws ∧ r.language = l ∧ Breaks l ws r.reason := by
  obtain ⟨phrase, language, reason'⟩ := r
  rcases validate_cases l ws with ⟨hok, hspells⟩ | ⟨reason, herror, hbreaks⟩
  · rw [hok]
    exact iff_of_false nofun fun h => not_spells_of_breaks h.2.2 hspells
  · rw [herror]
    constructor
    · intro h
      cases h
      exact ⟨rfl, rfl, hbreaks⟩
    · rintro ⟨hphrase, hlanguage, hbreaks'⟩
      simp only at hphrase hlanguage hbreaks'
      rw [hphrase, hlanguage, breaks_unique hbreaks hbreaks']

/-- What is said about words that break a rule. -/
theorem text_of_breaks {reason : Reason} (h : Breaks l ws reason) :
    reason.text = if ws.length ∉ [12, 15, 18, 21, 24] then
        "invalid number of words in phrase: " ++ toString ws.length
      else if ∃ w ∈ ws, nfkd w ∉ l.words then "invalid word in phrase"
      else "invalid checksum" := by
  cases reason with
  | wordCount n =>
    rw [if_pos h.2, ← h.1]
    rfl
  | unknownWord =>
    rw [if_neg (not_not.mpr h.1), if_pos h.2]
    rfl
  | checksum =>
    have hknown : ¬ ∃ w ∈ ws, nfkd w ∉ l.words := by
      rintro ⟨w, hw, hunknown⟩
      exact hunknown (h.2.1 w hw)
    rw [if_neg (not_not.mpr h.1), if_neg hknown]
    rfl

/-- Words are accepted exactly when some entropy, and then no other, has them; the phrase is made of
them as they are. Words that are refused break the rule that is named, the first of the three that
they break. -/
theorem validate_spells (l : Language) (ws : List String) :
    (∀ phrase, validate l ws = .ok phrase ↔
      phrase = Text.join " " ws ∧ ∃ entropy, Spells l ws entropy) ∧
    (∀ entropy entropy', Spells l ws entropy → Spells l ws entropy' → entropy = entropy') ∧
    (∀ r, validate l ws = .error r ↔
      r.phrase = Text.join " " ws ∧ r.language = l ∧ Breaks l ws r.reason) ∧
    ∀ r, validate l ws = .error r → r.reason.text =
      if ws.length ∉ [12, 15, 18, 21, 24] then
        "invalid number of words in phrase: " ++ toString ws.length
      else if ∃ w ∈ ws, nfkd w ∉ l.words then "invalid word in phrase"
      else "invalid checksum" :=
  ⟨validate_ok_iff l ws, fun _ _ => spells_inj, validate_error_iff l ws,
    fun r hr => text_of_breaks ((validate_error_iff l ws r).mp hr).2.2⟩

/-- Words of entropy are accepted. -/
theorem validate_spells_zero :
    validate .english (ofEntropy .english (List.replicate 16 0)) =
      .ok (Text.join " " (ofEntropy .english (List.replicate 16 0))) :=
  ((validate_spells _ _).1 _).mpr ⟨rfl, _, by decide, map_nfkd_ofEntropy⟩

end HdProvision.Mnemonic
