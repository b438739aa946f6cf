import HdProvision.Proofs.Text.Words
import HdProvision.Text.Path

/-!
# Paths and their text

A path that was read is in normal form: no part is empty, a single dot, or holds a slash. The text of
a path in normal form is read as that path again.
-/

set_option autoImplicit false

namespace HdProvision

open Text (joinChars split split_append_cons split_eq_cons_iff split_joinChars)

theorem Text.joinChars_eq_intercalate (sep : List Char) (ps : List (List Char)) :
    joinChars sep ps = List.intercalate sep ps := by
  induction ps with
  | nil => rfl
  | cons p ps ih =>
    cases ps with
    | nil => simp [joinChars, List.intercalate]
    | cons q ps => rw [joinChars, ih, List.intercalate_cons_cons, List.append_assoc]

theorem Text.not_mem_of_mem_split {sep : Char} {cs part : List Char} (h : part ∈ split sep cs) :
    sep ∉ part := by
  obtain ⟨a, ps, hsplit⟩ := Text.exists_split sep cs
  obtain ⟨-, ha, hps⟩ := split_eq_cons_iff.mp hsplit
  rw [hsplit] at h
  rcases List.mem_cons.mp h with rfl | h
  · exact ha
  · exact hps part h

namespace Path

variable {p : Path}

/-- No part vanishes when the text of the path is read. -/
def Normal (p : Path) : Prop := ∀ part ∈ p.parts, isPart part = true ∧ '/' ∉ part

theorem normal_ofChars (cs : List Char) : (ofChars cs).Normal := by
  intro part hpart
  obtain ⟨hmem, hkept⟩ := List.mem_filter.mp hpart
  exact ⟨hkept, Text.not_mem_of_mem_split hmem⟩

theorem ne_nil_of_isPart {part : List Char} (h : isPart part = true) : part ≠ [] := by
  rintro rfl
  simp [isPart] at h

/-- The parts with slashes between them do not start with a slash. -/
theorem Normal.head?_ne (h : p.Normal) : (joinChars ['/'] p.parts).head? ≠ some '/' := by
  cases hparts : p.parts with
  | nil => simp [joinChars]
  | cons part parts =>
    obtain ⟨hkept, hslash⟩ := h part (by simp [hparts])
    cases hpart : part with
    | nil => exact absurd hpart (ne_nil_of_isPart hkept)
    | cons c cs =>
      have hc : c ≠ '/' := fun heq => hslash (by simp [hpart, heq])
      cases parts <;> simpa [joinChars] using hc

theorem Normal.filter_split (h : p.Normal) :
    (split '/' (joinChars ['/'] p.parts)).filter isPart = p.parts := by
  by_cases hparts : p.parts = []
  · rw [hparts]
    decide
  · rw [split_joinChars hparts fun part hpart => (h part hpart).2]
    exact List.filter_eq_self.mpr fun part hpart => (h part hpart).1

theorem anchorOf_of_head? {cs : List Char} (h : cs.head? ≠ some '/') (anchor : Anchor) :
    anchorOf (anchorChars anchor ++ cs) = anchor := by
  cases cs with
  | nil => cases anchor <;> rfl
  | cons c cs =>
    have hc : c ≠ '/' := by simpa using h
    cases anchor <;> simp [anchorChars, anchorOf, hc]

/-- The slashes in front add no parts. -/
theorem filter_split_anchor (anchor : Anchor) (cs : List Char) :
    (split '/' (anchorChars anchor ++ cs)).filter isPart = (split '/' cs).filter isPart := by
  have hslash : ∀ cs, (split '/' ('/' :: cs)).filter isPart = (split '/' cs).filter isPart := by
    intro cs
    have hsplit : split '/' ([] ++ '/' :: cs) = [] :: split '/' cs :=
      split_append_cons cs (by simp)
    rw [List.nil_append] at hsplit
    simp [hsplit, isPart]
  cases anchor <;> simp [anchorChars, hslash]

theorem chars_eq (p : Path) : p.chars =
    if p.anchor = .here ∧ p.parts = [] then ['.']
    else anchorChars p.anchor ++ joinChars ['/'] p.parts := by
  simp only [chars, Text.joinChars_eq_intercalate, Bool.and_eq_true, decide_eq_true_eq]

/-- The text of a path in normal form is read as that path. -/
theorem ofChars_chars (h : p.Normal) : ofChars p.chars = p := by
  rw [chars_eq]
  by_cases hdot : p.anchor = .here ∧ p.parts = []
  · obtain ⟨anchor, parts⟩ := p
    obtain ⟨rfl, rfl⟩ := hdot
    decide
  · rw [if_neg hdot, ofChars, anchorOf_of_head? h.head?_ne, filter_split_anchor, h.filter_split]

theorem chars_ne_nil (h : p.Normal) : p.chars ≠ [] := by
  rw [chars_eq]
  split
  · simp
  · next hdot =>
    intro hnil
    obtain ⟨hanchor, hparts⟩ := List.append_eq_nil_iff.mp hnil
    have hhere : p.anchor = .here := by
      cases hp : p.anchor <;> simp_all [anchorChars]
    have hempty := h.filter_split
    rw [hparts] at hempty
    exact hdot ⟨hhere, hempty.symm⟩

end Path
end HdProvision
