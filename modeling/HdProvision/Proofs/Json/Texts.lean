import Mathlib.Tactic.SplitIfs
import HdProvision.Proofs.Json.Numbers

/-!
# Reading written texts and gaps

A text is got back from its code units, unless it had two halves of a pair side by side. Every code
unit is read back from the way it is written, so a text is read back whole. The gaps that are written
between values are skipped.
-/

set_option autoImplicit false

namespace HdProvision.Json.Points

/-- A code point that is the first half of a pair. -/
def IsFirst (p : Fin 0x110000) : Prop := 0xD800 ≤ p.val ∧ p.val < 0xDC00

/-- A code point that is the second half of a pair. -/
def IsSecond (p : Fin 0x110000) : Prop := 0xDC00 ≤ p.val ∧ p.val < 0xE000

/-- No first half of a pair stands directly in front of a second half. -/
def Unpaired (ps : Points) : Prop := ps.IsChain fun p q => ¬ (IsFirst p ∧ IsSecond q)

theorem not_isFirst_ofChar (c : Char) : ¬ IsFirst (ofChar c) := by
  have hc : c.toNat < 0xD800 ∨ 0xDFFF < c.toNat ∧ c.toNat < 0x110000 := c.valid
  rintro ⟨hfirst, hlast⟩
  simp only [ofChar] at hfirst hlast
  omega

theorem unpaired_cons_iff {p : Fin 0x110000} (h : ¬ IsFirst p) (ps : Points) :
    Unpaired (p :: ps) ↔ Unpaired ps := by
  cases ps with
  | nil => exact iff_of_true (.singleton p) .nil
  | cons q qs =>
    rw [Unpaired, List.isChain_cons_cons, ← Unpaired]
    exact and_iff_right fun hpair => h hpair.1

end HdProvision.Json.Points

namespace HdProvision.Json.Units

open Points (IsFirst IsSecond Unpaired)

theorem isHigh_iff (u : UInt16) : isHigh u = true ↔ 0xD800 ≤ u.toNat ∧ u.toNat < 0xDC00 := by
  simp only [isHigh, Bool.and_eq_true, decide_eq_true_eq, UInt16.le_iff_toNat_le,
    UInt16.lt_iff_toNat_lt]
  exact Iff.rfl

theorem isLow_iff (u : UInt16) : isLow u = true ↔ 0xDC00 ≤ u.toNat ∧ u.toNat < 0xE000 := by
  simp only [isLow, Bool.and_eq_true, decide_eq_true_eq, UInt16.le_iff_toNat_le,
    UInt16.lt_iff_toNat_lt]
  exact Iff.rfl

theorem codes_cons {u : UInt16} (h : isHigh u = false) (us : Units) :
    codes (u :: us) = u.toNat :: codes us := by
  cases us with
  | nil => rfl
  | cons v us => simp [codes, h]

/-- A unit in front of one that is no second half stands for itself. -/
theorem codes_cons_cons {v : UInt16} (h : isLow v = false) (u : UInt16) (us : Units) :
    codes (u :: v :: us) = u.toNat :: codes (v :: us) := by
  rw [codes, if_neg (by simp [h])]

theorem codes_pair {u v : UInt16} (hu : isHigh u = true) (hv : isLow v = true) (us : Units) :
    codes (u :: v :: us) =
      (0x10000 + (u.toNat - 0xD800) * 1024 + (v.toNat - 0xDC00)) :: codes us := by
  rw [codes, if_pos (by simp [hu, hv])]

theorem ofPoint_of_lt {p : Fin 0x110000} (h : p.val < 0x10000) :
    ∃ u : UInt16, ofPoint p = [u] ∧ u.toNat = p.val :=
  ⟨UInt16.ofNat p.val, if_pos h, UInt16.toNat_ofNat_of_lt' h⟩

/-- A code point beyond the first ones is a pair. -/
theorem ofPoint_of_le {p : Fin 0x110000} (h : 0x10000 ≤ p.val) :
    ∃ u v : UInt16, ofPoint p = [u, v] ∧ isHigh u = true ∧ isLow v = true ∧
      0x10000 + (u.toNat - 0xD800) * 1024 + (v.toNat - 0xDC00) = p.val := by
  have hp := p.isLt
  have hhigh : (UInt16.ofNat (0xD800 + (p.val - 0x10000) / 1024)).toNat =
      0xD800 + (p.val - 0x10000) / 1024 := UInt16.toNat_ofNat_of_lt' (by rw [UInt16.size]; omega)
  have hlow : (UInt16.ofNat (0xDC00 + (p.val - 0x10000) % 1024)).toNat =
      0xDC00 + (p.val - 0x10000) % 1024 := UInt16.toNat_ofNat_of_lt' (by rw [UInt16.size]; omega)
  refine ⟨_, _, if_neg (by omega), (isHigh_iff _).mpr ?_, (isLow_iff _).mpr ?_, ?_⟩ <;>
    simp only [hhigh, hlow] <;> omega

/-- A code point that is no first half is got back from its units, whatever follows. -/
theorem codes_ofPoint_append {p : Fin 0x110000} (h : ¬ IsFirst p) (us : Units) :
    codes (ofPoint p ++ us) = p.val :: codes us := by
  by_cases hp : p.val < 0x10000
  · obtain ⟨u, hu, hval⟩ := ofPoint_of_lt hp
    have hhigh : isHigh u = false := by
      rw [← Bool.not_eq_true, isHigh_iff, hval]
      exact h
    rw [hu, List.singleton_append, codes_cons hhigh, hval]
  · obtain ⟨u, v, hpair, hhigh, hlow, hval⟩ := ofPoint_of_le (Nat.not_lt.mp hp)
    rw [hpair, List.cons_append, List.singleton_append, codes_pair hhigh hlow, hval]

theorem codes_ofChar_append (c : Char) (us : Units) :
    codes (ofChar c ++ us) = c.toNat :: codes us :=
  codes_ofPoint_append (Points.not_isFirst_ofChar c) us

/-- The units of a code point start with a second half only if it is one. -/
theorem ofPoint_head (q : Fin 0x110000) :
    ∃ v vs, ofPoint q = v :: vs ∧ (isLow v = true ↔ IsSecond q) := by
  by_cases hq : q.val < 0x10000
  · obtain ⟨v, hv, hval⟩ := ofPoint_of_lt hq
    refine ⟨v, [], hv, ?_⟩
    rw [isLow_iff, hval]
    exact Iff.rfl
  · obtain ⟨v, w, hpair, hhigh, -, -⟩ := ofPoint_of_le (Nat.not_lt.mp hq)
    rw [isHigh_iff] at hhigh
    refine ⟨v, [w], hpair, iff_of_false ?_ ?_⟩
    · rw [isLow_iff]
      omega
    · exact fun hsecond => hq (hsecond.2.trans (by decide))

variable {p q : Fin 0x110000}

/-- A first half in front of anything but a second half is got back. -/
theorem codes_ofPoints_first (hp : IsFirst p) (hq : ¬ IsSecond q) (qs : Points) :
    codes (ofPoints (p :: q :: qs)) = p.val :: codes (ofPoints (q :: qs)) := by
  obtain ⟨u, hu, hval⟩ := ofPoint_of_lt (hp.2.trans (by decide))
  obtain ⟨v, vs, hv, hsecond⟩ := ofPoint_head q
  have hlow : isLow v = false := by
    rw [← Bool.not_eq_true, hsecond]
    exact hq
  simp only [ofPoints, List.flatMap_cons, hu, hv, List.cons_append, List.nil_append]
  rw [codes_cons_cons hlow, hval]

/-- Two halves side by side are joined to a code point that is neither of them. -/
theorem codes_ofPoints_pair (hp : IsFirst p) (hq : IsSecond q) (qs : Points) :
    ∃ joined, 0x10000 ≤ joined ∧
      codes (ofPoints (p :: q :: qs)) = joined :: codes (ofPoints qs) := by
  obtain ⟨u, hu, huval⟩ := ofPoint_of_lt (hp.2.trans (by decide))
  obtain ⟨v, hv, hvval⟩ := ofPoint_of_lt (hq.2.trans (by decide))
  have hhigh : isHigh u = true := by
    rw [isHigh_iff, huval]
    exact hp
  have hlow : isLow v = true := by
    rw [isLow_iff, hvval]
    exact hq
  simp only [ofPoints, List.flatMap_cons, hu, hv, List.cons_append, List.nil_append]
  exact ⟨_, Nat.le_add_right_of_le (Nat.le_add_right _ _), codes_pair hhigh hlow _⟩

/-- The code points of a text are got back from its units exactly when no two of them are the halves
of a pair, in their order. -/
theorem codes_ofPoints_iff (ps : Points) :
    codes (ofPoints ps) = ps.map Fin.val ↔ ps.Unpaired := by
  induction ps with
  | nil => exact iff_of_true rfl .nil
  | cons p ps ih =>
    by_cases hfirst : IsFirst p
    · cases ps with
      | nil =>
        obtain ⟨u, hu, hval⟩ := ofPoint_of_lt (hfirst.2.trans (by decide))
        refine iff_of_true ?_ (.singleton p)
        rw [ofPoints, List.flatMap_singleton, hu, codes, hval, List.map_singleton]
      | cons q qs =>
        rw [Unpaired, List.isChain_cons_cons, ← Unpaired, ← ih, List.map_cons]
        by_cases hsecond : IsSecond q
        · obtain ⟨joined, hjoined, hcodes⟩ := codes_ofPoints_pair hfirst hsecond qs
          rw [hcodes, List.cons.injEq]
          refine iff_of_false (fun heq => ?_) fun h => h.1 ⟨hfirst, hsecond⟩
          have hlast := hfirst.2
          omega
        · rw [codes_ofPoints_first hfirst hsecond, List.cons.injEq, and_iff_right rfl,
            and_iff_right fun h => hsecond h.2]
    · rw [Points.unpaired_cons_iff hfirst, ← ih, ofPoints, List.flatMap_cons,
        codes_ofPoint_append hfirst, ← ofPoints, List.map_cons, List.cons.injEq,
        and_iff_right rfl]

/-- Characters are written as the code points that they are. -/
theorem ofPoints_ofString (s : String) : ofPoints (Points.ofString s) = ofString s :=
  List.flatMap_map _ _ _

theorem codes_ofString (s : String) : codes (ofString s) = s.toList.map Char.toNat := by
  rw [ofString]
  induction s.toList with
  | nil => rfl
  | cons c cs ih => rw [List.flatMap_cons, codes_ofChar_append, ih, List.map_cons]

/-- A text is got back from its units. -/
theorem toString_ofString (s : String) : (ofString s).toString = s := by
  have hchar : ∀ c : Char, (if c.toNat.isValidChar then Char.ofNat c.toNat else '\uFFFD') = c := by
    intro c
    have hc : c.toNat.isValidChar := c.valid
    rw [if_pos hc, Char.ofNat_toNat]
  rw [toString, codes_ofString, List.map_map]
  refine String.toList_inj.mp ?_
  rw [String.toList_ofList]
  refine (List.map_congr_left fun c _ => hchar c).trans ?_
  simp

end HdProvision.Json.Units

namespace HdProvision.Json.Reader

theorem hexValue?_hexDigit : ∀ n, n < 16 → hexValue? (Utf8.hexDigit n) = some n := by decide

theorem unit?_hexDigits (u : UInt16) :
    ∃ a b c d, Utf8.hexDigits 4 u.toNat = [a, b, c, d] ∧ unit? a b c d = some u := by
  have hu : u.toNat < 65536 := u.toNat_lt
  refine ⟨_, _, _, _, rfl, ?_⟩
  have hcode : 4096 * (u.toNat / 16 / 16 / 16 % 16) + 256 * (u.toNat / 16 / 16 % 16) +
      16 * (u.toNat / 16 % 16) + u.toNat % 16 = u.toNat := by omega
  simp only [unit?, hexValue?_hexDigit _ (Nat.mod_lt _ (by decide : 0 < 16))]
  exact congrArg some (by rw [hcode, UInt16.ofNat_toNat])

theorem ofChar_ofNat {n : Nat} (h : n < 0xD800) : Units.ofChar (Char.ofNat n) = [UInt16.ofNat n] := by
  have hn : (Char.ofNat n).toNat = n := by
    rw [Char.ofNat, dif_pos (Or.inl h)]
    rfl
  simp [Units.ofChar, hn, show n < 0x10000 by omega]

/-- A character that stands for itself. -/
theorem textUnits_cons {before : Units} {c : Char} (hquote : c ≠ '"') (hslash : c ≠ '\\')
    (hcontrol : 0x20 ≤ c.toNat) (cs : List Char) :
    textUnits before (c :: cs) = textUnits ((Units.ofChar c).reverse ++ before) cs := by
  rw [textUnits]
  · simp [hslash, Nat.not_lt.mpr hcontrol]
  · exact hquote
  · intro _ _ _ _ _ h
    exact absurd h hslash
  · intro _ _ h
    exact absurd h hslash

/-- A unit is written as a letter behind a backslash, as itself, or by its number. -/
theorem unit_cases (u : UInt16) :
    (∃ c, Writer.unit u = ['\\', c] ∧ c ≠ 'u' ∧ shortEscape? c = some u) ∨
      (Writer.unit u = [Char.ofNat u.toNat] ∧ 0x20 ≤ u.toNat ∧ u.toNat < 0x7F ∧
        u.toNat ≠ 0x22 ∧ u.toNat ≠ 0x5C) ∨
      Writer.unit u = '\\' :: 'u' :: Utf8.hexDigits 4 u.toNat := by
  unfold Writer.unit
  split_ifs with hquote hslash h₁ h₂ h₃ h₄ h₅ hplain
  · exact Or.inl ⟨_, rfl, by decide, hquote ▸ rfl⟩
  · exact Or.inl ⟨_, rfl, by decide, hslash ▸ rfl⟩
  · exact Or.inl ⟨_, rfl, by decide, h₁ ▸ rfl⟩
  · exact Or.inl ⟨_, rfl, by decide, h₂ ▸ rfl⟩
  · exact Or.inl ⟨_, rfl, by decide, h₃ ▸ rfl⟩
  · exact Or.inl ⟨_, rfl, by decide, h₄ ▸ rfl⟩
  · exact Or.inl ⟨_, rfl, by decide, h₅ ▸ rfl⟩
  · simp only [Bool.and_eq_true, decide_eq_true_eq, UInt16.le_iff_toNat_le,
      UInt16.lt_iff_toNat_lt] at hplain
    refine Or.inr (Or.inl ⟨rfl, hplain.1, hplain.2, ?_, ?_⟩)
    · exact fun h => hquote (UInt16.toNat_inj.mp h)
    · exact fun h => hslash (UInt16.toNat_inj.mp h)
  · exact Or.inr (Or.inr rfl)

theorem textUnits_unit (before : Units) (u : UInt16) (cs : List Char) :
    textUnits before (Writer.unit u ++ cs) = textUnits (u :: before) cs := by
  rcases unit_cases u with ⟨c, hunit, hc, hu⟩ | ⟨hunit, hlow, hhigh, hquote, hslash⟩ | hunit
  · rw [hunit, List.cons_append, List.singleton_append, textUnits]
    · simp only [hu]
    · intro _ _ _ _ _ h
      exact absurd h hc
  · have hn : (Char.ofNat u.toNat).toNat = u.toNat := by
      rw [Char.ofNat, dif_pos (Or.inl (by omega))]
      rfl
    rw [hunit, List.singleton_append, textUnits_cons, ofChar_ofNat (by omega), UInt16.ofNat_toNat]
    · rfl
    · exact fun h => hquote (by rw [← hn, h]; rfl)
    · exact fun h => hslash (by rw [← hn, h]; rfl)
    · omega
  · obtain ⟨a, b, c, d, hdigits, hu⟩ := unit?_hexDigits u
    rw [hunit, hdigits]
    simp only [List.cons_append, List.nil_append, textUnits, hu]

theorem textUnits_text (before us : Units) (rest : List Char) :
    textUnits before (us.flatMap Writer.unit ++ '"' :: rest) = some (before.reverse ++ us, rest) := by
  induction us generalizing before with
  | nil => simp [textUnits]
  | cons u us ih =>
    rw [List.flatMap_cons, List.append_assoc, textUnits_unit, ih]
    simp

theorem skip_of_not_space {c : Char} (h : isSpace c = false) (cs : List Char) :
    skip (c :: cs) = c :: cs := by
  simp [skip, h]

theorem skip_line (depth : Nat) (cs : List Char) : skip (Writer.line depth ++ cs) = skip cs := by
  have hspaces : ∀ c ∈ Writer.line depth, isSpace c = true := by
    intro c hc
    rcases List.mem_cons.mp hc with rfl | hc
    · decide
    · rw [List.eq_of_mem_replicate hc]
      decide
  rw [skip, skip, List.dropWhile_append_of_pos hspaces]

end HdProvision.Json.Reader
