/-!
# Cutting text at a separator

A text with `n` separators has `n + 1` pieces, some of which may be empty.
-/

set_option autoImplicit false

namespace HdProvision.Text

/-- The pieces left; `piece` holds the characters of the one being read, last first. -/
def splitFrom (sep : Char) (piece : List Char) : List Char → List (List Char)
  | [] => [piece.reverse]
  | c :: cs =>
    if c = sep then piece.reverse :: splitFrom sep [] cs else splitFrom sep (c :: piece) cs

/-- The pieces between separators. -/
def split (sep : Char) (cs : List Char) : List (List Char) := splitFrom sep [] cs

/-- What stands before and after the first separator. -/
def cut? (sep : Char) : List Char → Option (List Char × List Char)
  | [] => none
  | c :: cs => if c = sep then some ([], cs) else (cut? sep cs).map fun (a, b) => (c :: a, b)

/-- Texts with a separator between each two. -/
def join (sep : String) : List String → String
  | [] => ""
  | [s] => s
  | s :: rest => s ++ sep ++ join sep rest

/-- What stands around the first separator puts the text together again. -/
theorem cut?_eq_some {sep : Char} {cs a b : List Char} (h : cut? sep cs = some (a, b)) :
    cs = a ++ sep :: b ∧ sep ∉ a := by
  induction cs generalizing a with
  | nil => simp [cut?] at h
  | cons c cs ih =>
    by_cases hc : c = sep
    · simp only [cut?, hc, if_true, Option.some.injEq, Prod.mk.injEq] at h
      obtain ⟨rfl, rfl⟩ := h
      simp [hc]
    · simp only [cut?, hc, if_false, Option.map_eq_some_iff, Prod.mk.injEq, Prod.exists] at h
      obtain ⟨x, y, hx, rfl, rfl⟩ := h
      obtain ⟨h1, h2⟩ := ih hx
      exact ⟨by simp [h1], by simp [h2, Ne.symm hc]⟩

end HdProvision.Text
