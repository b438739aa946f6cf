import HdProvision.Console.Dialog

/-!
# Answers of dialogs

A dialog leaves the lines behind those that it read, and an answer is the text of a line.
-/

set_option autoImplicit false

namespace HdProvision.Console

/-- Some line has the text. -/
def Typed (ls : List String) (p : String) : Prop := ∃ l ∈ ls, lineText l = p

theorem Typed.cons {ls : List String} {p : String} (h : Typed ls p) (l : String) :
    Typed (l :: ls) p := by
  obtain ⟨l', hl', heq⟩ := h
  exact ⟨l', List.mem_cons_of_mem l hl', heq⟩

theorem Typed.of_suffix {ls ls' : List String} {p : String} (h : Typed ls p) (hs : ls <:+ ls') :
    Typed ls' p := by
  obtain ⟨l, hl, heq⟩ := h
  exact ⟨l, hs.subset hl, heq⟩

theorem rest_visible (prompt : String) (ls : List String) : (visible prompt ls).rest <:+ ls := by
  cases ls with
  | nil => exact List.suffix_refl _
  | cons l ls => exact List.suffix_cons l ls

theorem rest_filled (prompt : String) (ls : List String) : (filled prompt ls).rest <:+ ls := by
  induction ls with
  | nil => exact List.suffix_refl _
  | cons l ls ih =>
    rw [filled]
    split
    · exact ih.trans (List.suffix_cons l ls)
    · exact List.suffix_cons l ls

theorem rest_twice (c : Confirmation) (typed : Option String) (ls : List String) :
    (twice c typed ls).rest <:+ ls := by
  induction ls generalizing typed with
  | nil => exact List.suffix_refl _
  | cons l ls ih =>
    have hcons := List.suffix_cons l ls
    cases typed with
    | none =>
      rw [twice]
      exact (ih _).trans hcons
    | some p =>
      rw [twice]
      split
      · exact (ih _).trans hcons
      · split
        · exact hcons
        · exact (ih _).trans hcons

theorem typed_twice {c : Confirmation} {typed : Option String} {p : String} {ls : List String}
    (h : (twice c typed ls).result = some p) : Typed ls p := by
  induction ls generalizing typed with
  | nil => cases h
  | cons l ls ih =>
    cases typed with
    | none =>
      rw [twice] at h
      exact (ih h).cons l
    | some q =>
      rw [twice] at h
      split at h
      · exact (ih h).cons l
      · split at h
        · next heq => exact ⟨l, List.mem_cons_self, heq.trans (Option.some.inj h)⟩
        · exact (ih h).cons l

theorem rest_passphrase (c : Confirmation) (limit : Int) (attempts : Nat) (typed : Option String)
    (ls : List String) : (passphrase c limit attempts typed ls).rest <:+ ls := by
  induction ls generalizing attempts typed with
  | nil => rw [passphrase]; split <;> exact List.suffix_refl _
  | cons l ls ih =>
    have hcons := List.suffix_cons l ls
    cases typed with
    | none =>
      rw [passphrase]
      exact (ih _ _).trans hcons
    | some p =>
      rw [passphrase]
      split
      · exact hcons
      · split
        · exact hcons
        · exact (ih _ _).trans hcons

theorem typed_passphrase {c : Confirmation} {limit : Int} {attempts n : Nat}
    {typed : Option String} {p : String} {ls : List String}
    (h : (passphrase c limit attempts typed ls).result = .agreed p n) : Typed ls p := by
  induction ls generalizing attempts typed with
  | nil =>
    rw [passphrase] at h
    split at h <;> cases h
  | cons l ls ih =>
    cases typed with
    | none =>
      rw [passphrase] at h
      exact (ih h).cons l
    | some q =>
      rw [passphrase] at h
      split at h
      · next heq =>
        obtain ⟨hp, -⟩ := PassphraseEnd.agreed.inj h
        exact ⟨l, List.mem_cons_self, heq.trans hp⟩
      · split at h
        · cases h
        · exact (ih h).cons l

end HdProvision.Console
