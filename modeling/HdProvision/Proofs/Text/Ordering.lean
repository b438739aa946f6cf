import HdProvision.Proofs.Text.Decomposition

/-!
# Canonical order

Reordering puts a text into canonical order, leaves a text in that order alone, and does not ask how
two neighbouring marks of different classes stood. So what a text reorders to can be told from what
its parts reorder to. Where no two marks stand together nothing moves at all.
-/

set_option autoImplicit false

namespace HdProvision.Text

variable {c d : Char} {xs ys zs : List Char}

/-- Behind a mark comes a character without a class or one of a class that is no lower. -/
def InOrder (cs : List Char) : Prop :=
  cs.IsChain fun c d => combiningClass d = 0 ∨ combiningClass c ≤ combiningClass d

/-- Of two neighbours one has no class. -/
def Apart (cs : List Char) : Prop :=
  cs.IsChain fun c d => combiningClass c = 0 ∨ combiningClass d = 0

theorem place_cons_of_pos (h : 0 < combiningClass d ∧ combiningClass d < combiningClass c)
    (ds : List Char) : place c (d :: ds) = d :: place c ds := by
  simp [place, h]

theorem place_cons_of_neg (h : ¬ (0 < combiningClass d ∧ combiningClass d < combiningClass c))
    (ds : List Char) : place c (d :: ds) = c :: d :: ds := by
  simpa [place] using fun h₁ h₂ => absurd ⟨h₁, h₂⟩ h

/-- Of two marks of different classes it does not matter which is placed first. -/
theorem place_comm (hd : 0 < combiningClass d) (hlt : combiningClass d < combiningClass c)
    (ds : List Char) : place c (place d ds) = place d (place c ds) := by
  induction ds with
  | nil => simp [place, hd, hlt, Nat.lt_asymm hlt]
  | cons e ds ih =>
    by_cases hde : 0 < combiningClass e ∧ combiningClass e < combiningClass d
    · -- both go past `e`
      have hce : 0 < combiningClass e ∧ combiningClass e < combiningClass c := by omega
      rw [place_cons_of_pos hde, place_cons_of_pos hce, place_cons_of_pos hce,
        place_cons_of_pos hde, ih]
    · rw [place_cons_of_neg hde, place_cons_of_pos ⟨hd, hlt⟩]
      by_cases hce : 0 < combiningClass e ∧ combiningClass e < combiningClass c
      · rw [place_cons_of_pos hce, place_cons_of_neg hde]
      · rw [place_cons_of_neg hce, place_cons_of_neg (by omega)]

theorem reorder_append (xs ys : List Char) : reorder (xs ++ ys) = xs.foldr place (reorder ys) := by
  induction xs with
  | nil => rfl
  | cons c xs ih => rw [List.cons_append, reorder, ih, List.foldr_cons]

/-- Behind a text only the order counts. -/
theorem reorder_append_right (h : reorder ys = reorder zs) (xs : List Char) :
    reorder (xs ++ ys) = reorder (xs ++ zs) := by
  rw [reorder_append, reorder_append, h]

theorem reorder_place_append (c : Char) (xs ys : List Char) :
    reorder (place c xs ++ ys) = reorder (c :: xs ++ ys) := by
  induction xs with
  | nil => rfl
  | cons d xs ih =>
    by_cases h : 0 < combiningClass d ∧ combiningClass d < combiningClass c
    · rw [place_cons_of_pos h, List.cons_append, reorder, ih]
      exact (place_comm h.1 h.2 _).symm
    · rw [place_cons_of_neg h]

/-- Ordering a part of a text first changes nothing. -/
theorem reorder_reorder_append (xs ys : List Char) :
    reorder (reorder xs ++ ys) = reorder (xs ++ ys) := by
  induction xs with
  | nil => rfl
  | cons c xs ih =>
    rw [reorder, reorder_place_append, List.cons_append, reorder, ih]
    rfl

theorem reorder_reorder (cs : List Char) : reorder (reorder cs) = reorder cs := by
  have h := reorder_reorder_append cs []
  rwa [List.append_nil, List.append_nil] at h

/-- A mark may go in front of marks of lower classes. -/
theorem reorder_move (h : ∀ m ∈ xs, 0 < combiningClass m ∧ combiningClass m < combiningClass c)
    (ys : List Char) : reorder (xs ++ c :: ys) = reorder (c :: xs ++ ys) := by
  induction xs with
  | nil => rfl
  | cons m xs ih =>
    have hm := h m List.mem_cons_self
    rw [List.cons_append, reorder, ih fun m' hm' => h m' (List.mem_cons_of_mem _ hm')]
    exact (place_comm hm.1 hm.2 _).symm

theorem InOrder.place (h : InOrder xs) (c : Char) : InOrder (place c xs) := by
  induction xs with
  | nil => exact List.IsChain.singleton c
  | cons d xs ih =>
    by_cases hpast : 0 < combiningClass d ∧ combiningClass d < combiningClass c
    · rw [place_cons_of_pos hpast]
      have hrest := ih h.of_cons
      -- the next one after `d` is `c` or was there before
      cases xs with
      | nil => exact List.IsChain.cons_cons (Or.inr (Nat.le_of_lt hpast.2)) hrest
      | cons e xs =>
        by_cases he : 0 < combiningClass e ∧ combiningClass e < combiningClass c
        · rw [place_cons_of_pos he] at hrest ⊢
          exact List.IsChain.cons_cons (List.isChain_cons_cons.mp h).1 hrest
        · rw [place_cons_of_neg he] at hrest ⊢
          exact List.IsChain.cons_cons (Or.inr (Nat.le_of_lt hpast.2)) hrest
    · rw [place_cons_of_neg hpast]
      exact List.IsChain.cons_cons (by omega) h

theorem inOrder_reorder (cs : List Char) : InOrder (reorder cs) := by
  induction cs with
  | nil => exact List.IsChain.nil
  | cons c cs ih => exact ih.place c

theorem InOrder.reorder_eq (h : InOrder xs) : reorder xs = xs := by
  induction xs with
  | nil => rfl
  | cons c xs ih =>
    rw [reorder, ih h.of_cons]
    cases xs with
    | nil => rfl
    | cons d xs =>
      have hcd := (List.isChain_cons_cons.mp h).1
      exact place_cons_of_neg (by omega) xs

theorem Apart.place (h : Apart (place c xs)) : place c xs = c :: xs := by
  cases xs with
  | nil => rfl
  | cons d xs =>
    refine place_cons_of_neg (fun hpast => ?_) xs
    rw [place_cons_of_pos hpast] at h
    -- what follows `d` now has a class as well
    cases xs with
    | nil =>
      have := (List.isChain_cons_cons.mp h).1
      omega
    | cons e xs =>
      by_cases he : 0 < combiningClass e ∧ combiningClass e < combiningClass c
      · rw [place_cons_of_pos he] at h
        have := (List.isChain_cons_cons.mp h).1
        omega
      · rw [place_cons_of_neg he] at h
        have := (List.isChain_cons_cons.mp h).1
        omega

/-- If no two marks stand together in the end, nothing was moved. -/
theorem eq_of_reorder (h : reorder xs = ys) (hapart : Apart ys) : xs = ys := by
  subst h
  induction xs with
  | nil => rfl
  | cons c xs ih =>
    have hplace : place c (reorder xs) = c :: reorder xs := Apart.place hapart
    rw [reorder, hplace] at hapart ⊢
    exact congrArg (c :: ·) (ih hapart.of_cons)

end HdProvision.Text
