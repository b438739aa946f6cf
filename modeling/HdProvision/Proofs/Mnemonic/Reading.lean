import HdProvision.Mnemonic.Seed
import HdProvision.Proofs.Mnemonic.Lists
import HdProvision.Proofs.Mnemonic.Packing

/-!
# Reading a made phrase back

The words of a phrase that was made from entropy are accepted in whatever form they are typed, as
long as their decompositions are the same, and they lead to the seed of the phrase as it was shown.
-/

set_option autoImplicit false

namespace HdProvision.Text

theorem toList_nfkd (s : String) : (nfkd s).toList = decomposed .compatibility s.toList := by
  rw [nfkd, String.toList_ofList]

/-- A separator of a shown phrase: white space that decomposes to a single space. -/
structure Parts (sep : Char) : Prop where
  blank : isBlank sep = true
  decompose_eq : decompose .compatibility sep = [' ']

theorem parts_space : Parts ' ' := ⟨by decide, by simp [decompose]⟩

theorem parts_ideographicSpace : Parts '\u3000' := ⟨by decide, decompose_ideographicSpace⟩

variable {sep : Char}

theorem decomposed_joinChars (h : Parts sep) (ps : List (List Char)) :
    decomposed .compatibility (joinChars [sep] ps) =
      joinChars [' '] (ps.map (decomposed .compatibility)) := by
  have hclass : combiningClass ' ' = 0 := by simp [combiningClass]
  induction ps with
  | nil => rfl
  | cons p ps ih =>
    cases ps with
    | nil => rfl
    | cons q ps =>
      rw [joinChars, List.append_assoc, List.singleton_append,
        decomposed_append_cons h.decompose_eq hclass, ih]
      simp [joinChars]

/-- Decomposing joined words decomposes every word and makes the separators spaces. -/
theorem nfkd_join (h : Parts sep) (ws : List String) :
    nfkd (join (String.ofList [sep]) ws) = join " " (ws.map nfkd) := by
  have hwords : ws.map (decomposed .compatibility ∘ String.toList) =
      ws.map (String.toList ∘ nfkd) :=
    List.map_congr_left fun w _ => (toList_nfkd w).symm
  rw [← String.toList_inj, toList_nfkd, toList_join, toList_join, String.toList_ofList,
    decomposed_joinChars h, List.map_map, List.map_map, hwords]
  rfl

/-- Decomposing neither adds white space to a text without it nor takes any away. -/
theorem isWord_of_nfkd {w : String} (h : IsWord (nfkd w)) : IsWord w := by
  obtain ⟨hne, hblank⟩ := h
  rw [toList_nfkd] at hne hblank
  refine ⟨fun hw => hne (by rw [hw]; rfl), fun c hc => ?_⟩
  rw [← Bool.not_eq_true]
  intro hb
  obtain ⟨d, hd, hdb⟩ := exists_blank_decompose hb
  exact absurd hdb (by rw [hblank d (mem_decomposed.mpr ⟨c, hc, hd⟩)]; decide)

theorem not_mem_of_isWord {w : String} (h : IsWord w) : ' ' ∉ w.toList :=
  fun hmem => absurd (h.2 ' ' hmem) (by decide)

/-- Words with single spaces between them are split into the same words. -/
theorem split_join {ws : List String} (hne : ws ≠ []) (h : ∀ w ∈ ws, IsWord w) :
    (split ' ' (join " " ws).toList).map String.ofList = ws := by
  rw [toList_join, show " ".toList = [' '] from rfl, split_joinChars (by simpa using hne)]
  · simp
  · intro p hp
    obtain ⟨w, hw, rfl⟩ := List.mem_map.mp hp
    exact not_mem_of_isWord (h w hw)

end HdProvision.Text

namespace HdProvision.Mnemonic

open Text (IsWord nfkd)

theorem Language.parts_separator (l : Language) :
    ∃ sep, Text.Parts sep ∧ l.separator = String.ofList [sep] := by
  cases l
  case japanese => exact ⟨_, Text.parts_ideographicSpace, rfl⟩
  all_goals exact ⟨_, Text.parts_space, rfl⟩

theorem Language.word_eq (l : Language) {i : Nat} (h : i < Lists.size) :
    ∃ hlt : i < l.words.length, l.word i = l.words[i] := by
  have hlt : i < l.words.length := by rwa [l.regular_words.length_eq]
  exact ⟨hlt, by rw [Language.word, List.getD_eq_getElem?_getD, List.getElem?_eq_getElem hlt,
    Option.getD_some]⟩

theorem Language.isPlain_word (l : Language) {i : Nat} (h : i < Lists.size) :
    Lists.isPlain (l.word i).toList = true := by
  obtain ⟨hlt, heq⟩ := l.word_eq h
  rw [heq]
  exact l.regular_words.plain _ (List.getElem_mem hlt)

/-- Every word is found at its number. -/
theorem Language.index?_word (l : Language) {i : Nat} (h : i < Lists.size) :
    l.index? (l.word i) = some i := by
  obtain ⟨hlt, heq⟩ := l.word_eq h
  rw [Language.index?, heq, List.idxOf?_eq_some_iff]
  refine ⟨hlt, rfl, fun j hj hsame => ?_⟩
  exact absurd (l.regular_words.nodup.getElem_inj_iff.mp hsame) (by omega)

theorem Language.nfkd_word (l : Language) {i : Nat} (h : i < Lists.size) :
    nfkd (l.word i) = l.word i := by
  rw [nfkd, Lists.decomposed_of_isPlain (l.isPlain_word h), String.ofList_toList]

variable {l : Language} {entropy : Bytes} {count : WordCount} {ws : List String}

theorem mem_ofEntropy {w : String} (h : w ∈ ofEntropy l entropy) :
    ∃ i, i < Lists.size ∧ l.word i = w := by
  obtain ⟨i, hi, rfl⟩ := List.mem_map.mp h
  exact ⟨i, lt_of_mem_digits hi, rfl⟩

theorem isWord_ofEntropy : ∀ w ∈ ofEntropy l entropy, IsWord w := by
  intro w hw
  obtain ⟨i, hi, rfl⟩ := mem_ofEntropy hw
  exact Lists.isWord_of_isPlain (l.isPlain_word hi)

theorem nfkd_ofEntropy : ∀ w ∈ ofEntropy l entropy, nfkd w = w := by
  intro w hw
  obtain ⟨i, hi, rfl⟩ := mem_ofEntropy hw
  exact l.nfkd_word hi

theorem map_nfkd_ofEntropy : (ofEntropy l entropy).map nfkd = ofEntropy l entropy :=
  (List.map_congr_left nfkd_ofEntropy).trans (List.map_id _)

theorem length_ofEntropy (h : entropy.length = count.entropySize) :
    (ofEntropy l entropy).length = count.toNat := by
  rw [ofEntropy, List.length_map, length_digits, h]
  cases count <;> rfl

theorem mapM_index?_word {ds : List Nat} (h : ∀ d ∈ ds, d < Lists.size) :
    (ds.map l.word).mapM l.index? = some ds := by
  induction ds with
  | nil => rfl
  | cons d ds ih =>
    rw [List.map_cons, List.mapM_cons, l.index?_word (h d (by simp)),
      ih fun e he => h e (by simp [he])]
    rfl

theorem mapM_index?_ofEntropy :
    (ofEntropy l entropy).mapM l.index? =
      some (digits (entropy.length / 4 * 3) (packed entropy)) :=
  mapM_index?_word fun _ hd => lt_of_mem_digits hd

/-- Splitting a shown phrase at white space gives its words. -/
theorem words_display : Text.words (display l (ofEntropy l entropy)) = ofEntropy l entropy := by
  obtain ⟨sep, hsep, heq⟩ := l.parts_separator
  rw [display, heq, Text.words_join sep hsep.blank _ isWord_ofEntropy]

theorem WordCount.ofInt?_toNat (count : WordCount) : ofInt? count.toNat = some count := by
  cases count <;> rfl

theorem WordCount.entropySize_eq (count : WordCount) :
    ∃ groups, groups ≤ 8 ∧ count.entropySize = 4 * groups ∧ count.toNat = 3 * groups := by
  cases count
  · exact ⟨4, by decide⟩
  · exact ⟨5, by decide⟩
  · exact ⟨6, by decide⟩
  · exact ⟨7, by decide⟩
  · exact ⟨8, by decide⟩

theorem ofEntropy_ne_nil (h : entropy.length = count.entropySize) : ofEntropy l entropy ≠ [] := by
  rw [ne_eq, ← List.length_eq_zero_iff, length_ofEntropy h]
  cases count <;> decide

theorem isSound_join (he : entropy.length = count.entropySize)
    (hw : ws.map nfkd = ofEntropy l entropy) : isSound l (Text.join " " ws) = true := by
  obtain ⟨groups, hg, hsize, hcount⟩ := count.entropySize_eq
  have hlength : entropy.length = 4 * groups := he.trans hsize
  have hquot : entropy.length / 4 = groups := by omega
  have hsplit := Text.split_join (ofEntropy_ne_nil he) (isWord_ofEntropy (l := l))
  have hnumber : number (digits (groups * 3) (packed entropy)) = packed entropy :=
    number_digits (by rw [Nat.mul_comm]; exact packed_lt hlength (by omega))
  have hdigits : (digits (groups * 3) (packed entropy)).length = count.toNat := by
    rw [length_digits, hcount, Nat.mul_comm]
  rw [isSound, show (" " : String) = String.ofList [' '] from rfl, Text.nfkd_join Text.parts_space,
    hw, hsplit, mapM_index?_ofEntropy, hquot]
  simp only [hnumber, hdigits, count.ofInt?_toNat, Option.isSome_some, Bool.true_and]
  rw [hcount, Nat.mul_div_cancel_left _ (by decide)]
  exact sumsUp_packed hlength (by omega)

/-- The words of a made phrase are accepted, however they are typed. -/
theorem validate_of_nfkd (he : entropy.length = count.entropySize)
    (hw : ws.map nfkd = ofEntropy l entropy) : validate l ws = .ok (Text.join " " ws) := by
  have hlength : ws.length = count.toNat := by
    rw [← length_ofEntropy (l := l) he, ← hw, List.length_map]
  have hknown : (ws.any fun w => (l.index? (nfkd w)).isNone) = false := by
    rw [List.any_eq_false]
    intro w hmem
    obtain ⟨i, hi, heq⟩ := mem_ofEntropy (hw ▸ List.mem_map_of_mem hmem)
    rw [← heq, l.index?_word hi]
    simp
  rw [validate]
  simp [hlength, count.ofInt?_toNat, hknown, isSound_join he hw]

/-- A made phrase has one seed, as it is shown and as it is typed. -/
theorem seed_join (hw : ws.map nfkd = ofEntropy l entropy) (passphrase : String) :
    seed (Text.join " " ws) passphrase = seed (display l (ofEntropy l entropy)) passphrase := by
  obtain ⟨sep, hsep, heq⟩ := l.parts_separator
  refine seed_congr ?_ passphrase
  rw [display, heq, Text.nfkd_join hsep, map_nfkd_ofEntropy,
    show (" " : String) = String.ofList [' '] from rfl, Text.nfkd_join Text.parts_space, hw]

end HdProvision.Mnemonic
