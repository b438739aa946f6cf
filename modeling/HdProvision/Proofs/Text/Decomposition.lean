import Mathlib.Data.List.Chain
import HdProvision.Text.Normal

/-!
# Decomposition of joined texts

A character without a combining class keeps marks from moving past it. So the decomposed form of a
text with such a character in it is put together from the forms of what stands before and behind it.
-/

set_option autoImplicit false

namespace HdProvision.Text

theorem place_of_class_zero {c : Char} (h : combiningClass c = 0) (ds : List Char) :
    place c ds = c :: ds := by
  cases ds with
  | nil => rfl
  | cons d ds => simp [place, h]

theorem place_append_cons (c : Char) {b : Char} (hb : combiningClass b = 0) (xs ys : List Char) :
    place c (xs ++ b :: ys) = place c xs ++ b :: ys := by
  induction xs with
  | nil => simp [place, hb]
  | cons d xs ih =>
    simp only [List.cons_append, place]
    split
    · rw [ih, List.cons_append]
    · rfl

theorem reorder_append_cons {b : Char} (hb : combiningClass b = 0) (xs ys : List Char) :
    reorder (xs ++ b :: ys) = reorder xs ++ b :: reorder ys := by
  induction xs with
  | nil => simp [reorder, place_of_class_zero hb]
  | cons c xs ih => rw [List.cons_append, reorder, ih, place_append_cons c hb, reorder]

/-- A character that decomposes to one without a class parts a text for decomposition. -/
theorem decomposed_append_cons {form : Decomposition} {sep b : Char}
    (hsep : decompose form sep = [b]) (hb : combiningClass b = 0) (xs ys : List Char) :
    decomposed form (xs ++ sep :: ys) = decomposed form xs ++ b :: decomposed form ys := by
  simp only [decomposed, List.flatMap_append, List.flatMap_cons, hsep, List.singleton_append]
  exact reorder_append_cons hb _ _

theorem place_perm (c : Char) (ds : List Char) : (place c ds).Perm (c :: ds) := by
  induction ds with
  | nil => exact List.Perm.refl _
  | cons d ds ih =>
    rw [place]
    split
    · exact (ih.cons d).trans (List.Perm.swap c d ds)
    · exact List.Perm.refl _

theorem reorder_perm (cs : List Char) : (reorder cs).Perm cs := by
  induction cs with
  | nil => exact List.Perm.refl _
  | cons c cs ih => exact (place_perm c _).trans (ih.cons c)

theorem mem_decomposed {form : Decomposition} {cs : List Char} {d : Char} :
    d ∈ decomposed form cs ↔ ∃ c ∈ cs, d ∈ decompose form c := by
  rw [decomposed, (reorder_perm _).mem_iff, List.mem_flatMap]

/-- Characters of which no two neighbours have a class are in canonical order. -/
theorem reorder_eq_self {cs : List Char}
    (h : cs.IsChain fun c d => combiningClass c = 0 ∨ combiningClass d = 0) : reorder cs = cs := by
  induction cs with
  | nil => rfl
  | cons c cs ih =>
    rw [reorder, ih h.of_cons]
    cases cs with
    | nil => rfl
    | cons d cs =>
      rcases (List.isChain_cons_cons.mp h).1 with hc | hd
      · exact place_of_class_zero hc _
      · simp [place, hd]

/-- A text whose characters stay as they are and are in order is its own decomposed form. -/
theorem decomposed_eq_self {form : Decomposition} {cs : List Char}
    (hstay : ∀ c ∈ cs, decompose form c = [c])
    (h : cs.IsChain fun c d => combiningClass c = 0 ∨ combiningClass d = 0) :
    decomposed form cs = cs := by
  have hflat : cs.flatMap (decompose form) = cs := by
    calc
      cs.flatMap (decompose form) = cs.flatMap fun c => [c] := List.flatMap_congr hstay
      _ = cs := by simp
  rw [decomposed, hflat, reorder_eq_self h]

end HdProvision.Text
