import HdProvision.Proofs.Text.IntegerGrammar
import HdProvision.Proofs.Text.Path
import HdProvision.Provision.Owner

/-!
# Owners and their text

The grammar of owners, apart from the reader: two numbers, each of which may be left out, and a home,
with a colon behind each number. The reader takes exactly these texts, and the text of an owner is read
as that owner again.
-/

set_option autoImplicit false

namespace HdProvision

theorem Text.cut?_append {sep : Char} {a : List Char} (h : sep ∉ a) (b : List Char) :
    Text.cut? sep (a ++ sep :: b) = some (a, b) := by
  induction a with
  | nil => simp [Text.cut?]
  | cons c a ih =>
    obtain ⟨hc, ha⟩ := not_or.mp (mt List.mem_cons.mpr h)
    simp [Text.cut?, Ne.symm hc, ih ha]

theorem Text.not_mem_of_cut? {sep : Char} {cs : List Char} (h : Text.cut? sep cs = none) :
    sep ∉ cs := by
  induction cs with
  | nil => simp
  | cons c cs ih =>
    by_cases hc : c = sep
    · simp [Text.cut?, hc] at h
    · simp only [Text.cut?, hc, if_false, Option.map_eq_none_iff] at h
      simp [Ne.symm hc, ih h]

namespace Provision.Owner

open Text (Integer.Fits Integer.Spells cut? cut?_append cut?_eq_some not_mem_of_cut?)

variable {cs uid gid home : List Char} {n : Option Int} {o : Owner}

/-- A number that is left out, or spelled. -/
inductive SpellsNumber : List Char → Option Int → Prop
  | missing : SpellsNumber [] none
  | given {cs : List Char} {i : Int} (h : Integer.Spells cs i) : SpellsNumber cs (some i)

/-- Something where a number should stand. -/
def Misspelled (cs : List Char) : Prop := cs ≠ [] ∧ ∀ i, ¬ Integer.Spells cs i

/-- The home that the rest of a text names. -/
def homeOf (cs : List Char) : Option Path := if cs = [] then none else some (Path.ofChars cs)

/-- Two parts without colons and a rest, with a colon between each two. -/
structure Parts (cs uid gid home : List Char) : Prop where
  eq : cs = uid ++ ':' :: (gid ++ ':' :: home)
  uid : ':' ∉ uid
  gid : ':' ∉ gid

/-- A text and the owner that it spells. -/
def Spells (cs : List Char) (o : Owner) : Prop :=
  ∃ uid gid home, Parts cs uid gid home ∧ SpellsNumber uid o.uid ∧ SpellsNumber gid o.gid ∧
    o.home = homeOf home

/-- An owner that has a text: its numbers do not have too many digits, and its home is a path in
normal form. -/
structure Sound (o : Owner) : Prop where
  uid : ∀ i ∈ o.uid, Integer.Fits i
  gid : ∀ i ∈ o.gid, Integer.Fits i
  home : ∀ p ∈ o.home, p.Normal

theorem number_eq_ok_iff : number cs = .ok n ↔ SpellsNumber cs n := by
  rw [number]
  constructor
  · intro h
    split at h
    · next hcs =>
      cases h
      rw [hcs]
      exact .missing
    · split at h
      · next i hi =>
        cases h
        exact .given (Text.Integer.ofChars?_eq_some_iff.mp hi)
      · cases h
  · intro h
    cases h with
    | missing => simp
    | given hspells =>
      have hread := Text.Integer.ofChars?_eq_some_iff.mpr hspells
      by_cases hcs : cs = []
      · subst hcs
        exact absurd hread (by simp [Text.Integer.ofChars?, Text.trim, Text.Integer.digitsFrom])
      · simp [hcs, hread]

theorem number_cases (cs : List Char) :
    (∃ n, number cs = .ok n) ∧ ¬ Misspelled cs ∨ number cs = .error .notInteger ∧ Misspelled cs := by
  simp only [number, Misspelled, ← Text.Integer.ofChars?_eq_some_iff]
  by_cases hcs : cs = []
  · simp [hcs]
  · cases hread : Text.Integer.ofChars? cs <;> simp [hcs]

/-- What the reader makes of the three parts. -/
theorem ofChars_of_parts (h : Parts cs uid gid home) : ofChars cs = (do
    let u ← number uid
    let g ← number gid
    return ⟨u, g, homeOf home⟩) := by
  rw [ofChars, h.eq, cut?_append h.uid]
  simp only [cut?_append h.gid]
  rfl

theorem two_le_count (h : Parts cs uid gid home) : 2 ≤ cs.count ':' := by
  rw [h.eq, List.count_append, List.count_cons_self, List.count_append, List.count_cons_self]
  omega

/-- A text with two colons has its parts; any other is refused for that. -/
theorem parts_cases (cs : List Char) :
    (∃ uid gid home, Parts cs uid gid home) ∨ cs.count ':' < 2 ∧ ofChars cs = .error .parts := by
  rw [ofChars]
  cases hfirst : cut? ':' cs with
  | none =>
    right
    exact ⟨by simp [List.count_eq_zero.mpr (not_mem_of_cut? hfirst)], rfl⟩
  | some cut =>
    obtain ⟨uid, rest⟩ := cut
    obtain ⟨rfl, huid⟩ := cut?_eq_some hfirst
    cases hsecond : cut? ':' rest with
    | none =>
      right
      simp [hsecond, List.count_eq_zero.mpr huid, List.count_eq_zero.mpr (not_mem_of_cut? hsecond)]
    | some cut =>
      obtain ⟨gid, home⟩ := cut
      obtain ⟨rfl, hgid⟩ := cut?_eq_some hsecond
      exact Or.inl ⟨uid, gid, home, rfl, huid, hgid⟩

theorem numbers_eq_ok_iff : (do
    let u ← number uid
    let g ← number gid
    return (⟨u, g, homeOf home⟩ : Owner)) = .ok o ↔
      SpellsNumber uid o.uid ∧ SpellsNumber gid o.gid ∧ o.home = homeOf home := by
  obtain ⟨u', g', h'⟩ := o
  simp only [← number_eq_ok_iff]
  cases number uid with
  | error fault => simp [bind, Except.bind]
  | ok u =>
    cases number gid with
    | error fault => simp [bind, Except.bind]
    | ok g => simp [bind, Except.bind, pure, Except.pure, eq_comm]

/-- The reader takes the texts that spell an owner, and no others. -/
theorem ofChars_eq_ok_iff : ofChars cs = .ok o ↔ Spells cs o := by
  constructor
  · intro h
    rcases parts_cases cs with ⟨uid, gid, home, hparts⟩ | ⟨-, hfault⟩
    · rw [ofChars_of_parts hparts, numbers_eq_ok_iff] at h
      exact ⟨uid, gid, home, hparts, h⟩
    · rw [hfault] at h
      cases h
  · rintro ⟨uid, gid, home, hparts, h⟩
    rw [ofChars_of_parts hparts, numbers_eq_ok_iff]
    exact h

theorem numbers_eq_error_iff {fault : OwnerFault} : (do
    let u ← number uid
    let g ← number gid
    return (⟨u, g, homeOf home⟩ : Owner)) = .error fault ↔
      fault = .notInteger ∧ (Misspelled uid ∨ Misspelled gid) := by
  rcases number_cases uid with ⟨⟨u, hu⟩, hspelled⟩ | ⟨hu, hmisspelled⟩
  · rcases number_cases gid with ⟨⟨g, hg⟩, hspelled'⟩ | ⟨hg, hmisspelled⟩
    · simp [hu, hg, hspelled, hspelled', bind, Except.bind, pure, Except.pure]
    · simp [hu, hg, hmisspelled, bind, Except.bind, eq_comm]
  · simp [hu, hmisspelled, bind, Except.bind, eq_comm]

theorem ofChars_eq_parts_iff : ofChars cs = .error .parts ↔ cs.count ':' < 2 := by
  rcases parts_cases cs with ⟨uid, gid, home, hparts⟩ | ⟨hcount, hfault⟩
  · have hcount := two_le_count hparts
    rw [ofChars_of_parts hparts, numbers_eq_error_iff]
    simp
    omega
  · simp [hcount, hfault]

theorem ofChars_eq_notInteger_iff : ofChars cs = .error .notInteger ↔
    ∃ uid gid home, Parts cs uid gid home ∧ (Misspelled uid ∨ Misspelled gid) := by
  constructor
  · intro h
    rcases parts_cases cs with ⟨uid, gid, home, hparts⟩ | ⟨-, hfault⟩
    · rw [ofChars_of_parts hparts, numbers_eq_error_iff] at h
      exact ⟨uid, gid, home, hparts, h.2⟩
    · rw [hfault] at h
      cases h
  · rintro ⟨uid, gid, home, hparts, h⟩
    rw [ofChars_of_parts hparts, numbers_eq_error_iff]
    exact ⟨rfl, h⟩

theorem fits_of_spellsNumber (h : SpellsNumber cs n) : ∀ i ∈ n, Integer.Fits i := by
  cases h with
  | missing => simp
  | given h => simpa using Text.Integer.fits_of_spells h

theorem sound_of_spells (h : Spells cs o) : o.Sound := by
  obtain ⟨uid, gid, home, -, huid, hgid, hhome⟩ := h
  refine ⟨fits_of_spellsNumber huid, fits_of_spellsNumber hgid, ?_⟩
  intro p hp
  rw [hhome, homeOf] at hp
  split at hp
  · cases hp
  · cases hp
    exact Path.normal_ofChars home

theorem spellsNumber_numberChars (h : ∀ i ∈ n, Integer.Fits i) : SpellsNumber (numberChars n) n := by
  cases n with
  | none => exact .missing
  | some i => exact .given (Text.Integer.spells_chars (h i rfl))

theorem colon_not_mem_numberChars (n : Option Int) : ':' ∉ numberChars n := by
  cases n with
  | none => simp [numberChars]
  | some i => exact Text.Integer.not_mem_chars (by decide) (by decide)

theorem parts_chars (o : Owner) : Parts o.chars (numberChars o.uid) (numberChars o.gid)
    ((o.home.map Path.chars).getD []) :=
  ⟨by simp [chars], colon_not_mem_numberChars o.uid, colon_not_mem_numberChars o.gid⟩

theorem Sound.spells (h : o.Sound) : Spells o.chars o := by
  refine ⟨_, _, _, parts_chars o, spellsNumber_numberChars h.uid, spellsNumber_numberChars h.gid, ?_⟩
  cases hhome : o.home with
  | none => simp [homeOf]
  | some p =>
    have hnormal := h.home p hhome
    simp [homeOf, Path.chars_ne_nil hnormal, Path.ofChars_chars hnormal]

theorem ofString_text (h : o.Sound) : ofString o.text = .ok o := by
  rw [ofString, text, String.toList_ofList]
  exact ofChars_eq_ok_iff.mpr h.spells

/-- The text of nobody is two colons, and no other owner has it. -/
theorem Sound.isNull_iff (h : o.Sound) : o.isNull = true ↔ o.text = "::" := by
  have hnull : null.Sound := ⟨by simp [null], by simp [null], by simp [null]⟩
  have hcolons : null.text = "::" := rfl
  rw [isNull, decide_eq_true_eq]
  constructor
  · rintro rfl
    exact hcolons
  · intro htext
    have hread := ofString_text h
    rw [htext, ← hcolons, ofString_text hnull] at hread
    simpa using hread.symm

/-- The text of an owner is read as that owner, for every owner that was read and for any numbers and
any path that have a text; only nobody is written as two colons. A text is refused when it has fewer
than two colons or when a number is misspelled, and every other text spells the owner that is read.
The home has no part in this, whatever stands there. -/
theorem text_survives :
    (∀ s o, ofString s = .ok o → ofString o.text = .ok o ∧
      (ofString o.text).map text = .ok o.text ∧ (o.isNull = true ↔ o.text = "::")) ∧
    (∀ o : Owner, o.Sound → ofString o.text = .ok o ∧ (o.isNull = true ↔ o.text = "::")) ∧
    (∀ s o, ofString s = .ok o ↔ Spells s.toList o) ∧
    (∀ s, (ofString s = .error .parts ↔ s.toList.count ':' < 2) ∧
      (ofString s = .error .notInteger ↔ ∃ uid gid home, Parts s.toList uid gid home ∧
        (Misspelled uid ∨ Misspelled gid))) ∧
    ∀ uid gid home : List Char, ':' ∉ uid → ':' ∉ gid →
      ofChars (uid ++ ':' :: (gid ++ ':' :: home)) =
        (ofChars (uid ++ ':' :: (gid ++ [':']))).map fun o => { o with home := homeOf home } := by
  refine ⟨?read, fun o h => ⟨ofString_text h, h.isNull_iff⟩, fun s o => ofChars_eq_ok_iff,
    fun s => ⟨ofChars_eq_parts_iff, ofChars_eq_notInteger_iff⟩, ?home⟩
  case read =>
    intro s o hs
    have hsound := sound_of_spells (ofChars_eq_ok_iff.mp hs)
    have hread := ofString_text hsound
    exact ⟨hread, by rw [hread, Except.map], hsound.isNull_iff⟩
  case home =>
    intro uid gid home huid hgid
    rw [ofChars_of_parts ⟨rfl, huid, hgid⟩, ofChars_of_parts ⟨rfl, huid, hgid⟩]
    cases number uid with
    | error fault => rfl
    | ok u => cases number gid <;> rfl

/-- A text with digits of another script, padding, a low line and colons in the home. -/
theorem text_survives_colons : ∃ o, ofString " +1_0:٣://a//./b:c/" = .ok o ∧
    o.text = "10:3://a/b:c" ∧ ofString "10:3://a/b:c" = .ok o ∧
    ofString "1_:2:" = .error .notInteger ∧ ofString "1:2" = .error .parts := by
  obtain ⟨hread, -, -, hrefused, -⟩ := text_survives
  obtain ⟨o, ho, htext⟩ : ∃ o, ofString " +1_0:٣://a//./b:c/" = .ok o ∧
      o.text = "10:3://a/b:c" :=
    ⟨⟨some 10, some 3, some ⟨.doubleRoot, ["a".toList, "b:c".toList]⟩⟩, by decide +kernel,
      by decide +kernel⟩
  have hagain := (hread _ o ho).1
  rw [htext] at hagain
  have hline : ∀ i, ¬ Integer.Spells ['1', '_'] i := by
    intro i hi
    have hread := Text.Integer.ofChars?_eq_some_iff.mpr hi
    rw [show Text.Integer.ofChars? ['1', '_'] = none by decide +kernel] at hread
    cases hread
  refine ⟨o, ho, htext, hagain, ?_, (hrefused "1:2").1.mpr (by decide)⟩
  refine (hrefused "1_:2:").2.mpr ⟨['1', '_'], ['2'], [], ⟨rfl, by decide, by decide⟩, Or.inl ?_⟩
  exact ⟨by simp, hline⟩

end Provision.Owner
end HdProvision
