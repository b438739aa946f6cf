import HdProvision.Proofs.Text.Folding
import HdProvision.Proofs.Text.Ordering

/-!
# Composition

Composing a text and decomposing it again gives the decomposed text back, so that the composed form
of a text decomposes as the text itself does. A character that starts anew parts a text for
composition.
-/

set_option autoImplicit false

namespace HdProvision.Text

variable {b c s p : Char} {xs ys marks rest : List Char}

/-- Every character decomposes to itself. -/
def Stable (cs : List Char) : Prop := ∀ c ∈ cs, decompose .canonical c = [c]

theorem Stable.flatMap_eq (h : Stable xs) : xs.flatMap (decompose .canonical) = xs := by
  rw [List.flatMap_congr h, List.flatMap_singleton']

theorem stable_decomposed (cs : List Char) : Stable (decomposed .canonical cs) := by
  intro d hd
  obtain ⟨c, -, hdc⟩ := mem_decomposed.mp hd
  exact decompose_decompose hdc

theorem Stable.decomposed_eq (h : Stable xs) : decomposed .canonical xs = reorder xs := by
  rw [decomposed, h.flatMap_eq]

theorem decomposed_decomposed (cs : List Char) :
    decomposed .canonical (decomposed .canonical cs) = decomposed .canonical cs := by
  rw [(stable_decomposed cs).decomposed_eq, decomposed, reorder_reorder]

/-- Marks that stay behind a starter, last first, and the characters that are still to come. -/
structure Kept (marks rest : List Char) : Prop where
  classed : ∀ m ∈ marks, 0 < combiningClass m
  ascending : ∀ l ∈ marks.head?, ∀ m ∈ marks, combiningClass m ≤ combiningClass l
  before : ∀ c ∈ rest.head?, combiningClass c ≠ 0 →
    ∀ m ∈ marks, combiningClass m ≤ combiningClass c
  inOrder : InOrder rest

theorem InOrder.le_head (h : InOrder (c :: rest)) :
    ∀ d ∈ rest.head?, combiningClass d ≠ 0 → combiningClass c ≤ combiningClass d := by
  intro d hd hclass
  cases rest with
  | nil => cases hd
  | cons e rest =>
    obtain ⟨rfl⟩ := hd
    exact (List.isChain_cons_cons.mp h).1.resolve_left hclass

theorem Kept.nil (h : InOrder rest) : Kept [] rest := ⟨by simp, by simp, by simp, h⟩

/-- A mark that composes is gone. -/
theorem Kept.drop (h : Kept marks (c :: rest)) (hc : combiningClass c ≠ 0) : Kept marks rest :=
  { classed := h.classed
    ascending := h.ascending
    before := fun d hd hclass m hm =>
      (h.before c rfl hc m hm).trans (h.inOrder.le_head d hd hclass)
    inOrder := h.inOrder.of_cons }

/-- A mark that does not compose is kept. -/
theorem Kept.push (h : Kept marks (c :: rest)) (hc : combiningClass c ≠ 0) :
    Kept (c :: marks) rest := by
  have hle := h.before c rfl hc
  have hnext := h.inOrder.le_head
  refine ⟨?_, ?_, ?_, h.inOrder.of_cons⟩
  · exact List.forall_mem_cons.mpr ⟨Nat.pos_of_ne_zero hc, h.classed⟩
  · rintro l ⟨rfl⟩
    exact List.forall_mem_cons.mpr ⟨le_refl _, hle⟩
  · intro d hd hclass
    exact List.forall_mem_cons.mpr
      ⟨hnext d hd hclass, fun m hm => (hle m hm).trans (hnext d hd hclass)⟩

/-- Whether a mark that stays behind the starter keeps a character from composing. -/
def blocked (marks : List Char) (c : Char) : Bool :=
  match marks with
  | [] => false
  | m :: _ => combiningClass c ≤ combiningClass m

theorem composeFrom_cons (s : Char) (marks : List Char) (c : Char) (rest : List Char) :
    composeFrom s marks (c :: rest) =
      match if blocked marks c then none else composite? s c with
      | some p => composeFrom p marks rest
      | none =>
        if combiningClass c = 0 then s :: marks.reverse ++ composeFrom c [] rest
        else composeFrom s (c :: marks) rest := by
  cases marks <;> rfl

/-- Marks that do not block a character have lower classes. -/
theorem Kept.lt_of_not_blocked (h : Kept marks rest) (hb : blocked marks c = false) :
    ∀ m ∈ marks, 0 < combiningClass m ∧ combiningClass m < combiningClass c := by
  intro m hm
  cases marks with
  | nil => cases hm
  | cons l marks =>
    have hl : combiningClass l < combiningClass c := by simpa [blocked] using hb
    exact ⟨h.classed m hm, (h.ascending l rfl m hm).trans_lt hl⟩

/-- Composition can be undone: a mark that composed goes back behind the marks that were kept. -/
theorem reorder_composeFrom (h : Kept marks rest) (hstable : Stable (marks ++ rest)) (s : Char) :
    reorder ((composeFrom s marks rest).flatMap (decompose .canonical)) =
      reorder (decompose .canonical s ++ marks.reverse ++ rest) := by
  induction rest generalizing s marks with
  | nil =>
    have hmarks : Stable marks.reverse := fun m hm => hstable m (by simpa using hm)
    rw [composeFrom, List.flatMap_cons, hmarks.flatMap_eq, List.append_nil]
  | cons c rest ih =>
    have hmarks : Stable marks.reverse := fun m hm => hstable m (by simp [List.mem_reverse.mp hm])
    have hc : decompose .canonical c = [c] := hstable c (by simp)
    have hrest : Stable rest := fun d hd => hstable d (by simp [hd])
    have hboth : Stable (marks ++ rest) := fun d hd => hstable d (by
      simp only [List.mem_append, List.mem_cons] at hd ⊢
      tauto)
    rw [composeFrom_cons]
    split
    · next p hp =>
      -- `c` joins the starter
      obtain ⟨hblocked, hp⟩ : blocked marks c = false ∧ composite? s c = some p := by
        cases hb : blocked marks c with
        | true => simp [hb] at hp
        | false => exact ⟨rfl, by simpa [hb] using hp⟩
      have hlt := h.lt_of_not_blocked hblocked
      have hkept : Kept marks rest := by
        by_cases hclass : combiningClass c = 0
        · cases marks with
          | nil => exact .nil h.inOrder.of_cons
          | cons m marks =>
            have := hlt m List.mem_cons_self
            omega
        · exact h.drop hclass
      have hback : reorder (marks.reverse ++ c :: rest) = reorder (c :: marks.reverse ++ rest) :=
        reorder_move (fun m hm => hlt m (List.mem_reverse.mp hm)) rest
      calc
        _ = reorder (decompose .canonical p ++ marks.reverse ++ rest) :=
          ih hkept hboth p
        _ = reorder (decompose .canonical s ++ (c :: marks.reverse ++ rest)) := by
          rw [(composing hp).parts]
          simp
        _ = reorder (decompose .canonical s ++ (marks.reverse ++ c :: rest)) :=
          reorder_append_right hback.symm _
        _ = _ := by rw [List.append_assoc]
    · split
      · next hclass =>
        -- `c` is the next starter
        have hnext := ih (Kept.nil h.inOrder.of_cons) (by simpa using hrest) c
        rw [List.flatMap_append, List.flatMap_cons, hmarks.flatMap_eq]
        apply reorder_append_right
        simpa [hc] using hnext
      · next hclass =>
        -- `c` is kept as a mark
        rw [ih (h.push hclass) (fun d hd => hstable d (by simp at hd ⊢; tauto)) s]
        simp

/-- A decomposed text is the decomposed form of what it composes to. -/
theorem decomposed_compose (horder : InOrder xs) (hstable : Stable xs) :
    decomposed .canonical (compose xs) = xs := by
  suffices decomposed .canonical (compose xs) = reorder xs by rwa [horder.reorder_eq] at this
  induction xs with
  | nil => rfl
  | cons c xs ih =>
    obtain ⟨hc, hxs⟩ := List.forall_mem_cons.mp hstable
    rw [compose]
    split
    · have h := reorder_composeFrom (Kept.nil horder.of_cons) (List.nil_append xs ▸ hxs) c
      simpa [decomposed, hc] using h
    · have hrest : reorder ((compose xs).flatMap (decompose .canonical)) = reorder xs :=
        ih horder.of_cons hxs
      rw [decomposed, List.flatMap_cons, hc, List.singleton_append, reorder, hrest, reorder]

/-- The composed form of characters. -/
def composed (cs : List Char) : List Char := compose (decomposed .canonical cs)

theorem toList_nfc (s : String) : (nfc s).toList = composed s.toList := String.toList_ofList

/-- The composed form decomposes as the text does. -/
theorem decomposed_composed (cs : List Char) :
    decomposed .canonical (composed cs) = decomposed .canonical cs :=
  decomposed_compose (inOrder_reorder _) (stable_decomposed cs)

/-- Behind a kept mark or a composite a character that starts anew is the next starter. -/
theorem composeFrom_append (hb : Inert b) (s : Char) (marks xs ys : List Char) :
    composeFrom s marks (xs ++ b :: ys) = composeFrom s marks xs ++ composeFrom b [] ys := by
  induction xs generalizing s marks with
  | nil =>
    rw [List.nil_append, composeFrom_cons, hb.apart, ite_self]
    simp only [hb.unclassed, if_true]
    rfl
  | cons c xs ih =>
    rw [List.cons_append, composeFrom_cons, composeFrom_cons]
    split
    · exact ih _ _
    · split
      · rw [ih, List.append_assoc]
      · exact ih _ _

theorem compose_append (hb : Inert b) (xs ys : List Char) :
    compose (xs ++ b :: ys) = compose xs ++ compose (b :: ys) := by
  have hstart : compose (b :: ys) = composeFrom b [] ys := by
    rw [compose, if_pos hb.unclassed]
  rw [hstart]
  induction xs with
  | nil => exact hstart
  | cons c xs ih =>
    rw [List.cons_append, compose, compose]
    split
    · exact composeFrom_append hb _ _ _ _
    · rw [ih, List.cons_append]

theorem compose_append_of_head (h : ∀ c ∈ ys.head?, Inert c) (xs : List Char) :
    compose (xs ++ ys) = compose xs ++ compose ys := by
  cases ys with
  | nil => simp [compose]
  | cons b ys => exact compose_append (h b rfl) xs ys

theorem compose_pair {m : Char} (hc : combiningClass c = 0) (hp : composite? c m = some p) :
    compose [c, m] = [p] := by
  rw [compose, if_pos hc, composeFrom_cons]
  simp [blocked, hp, composeFrom]

/-- A mark that is kept stays in the text. -/
theorem mem_composeFrom {m : Char} (h : m ∈ marks) (s : Char) (xs : List Char) :
    m ∈ composeFrom s marks xs := by
  induction xs generalizing s marks with
  | nil => simp [composeFrom, h]
  | cons c xs ih =>
    rw [composeFrom_cons]
    split
    · exact ih h _
    · split
      · simp [h]
      · exact ih (List.mem_cons_of_mem c h) _

/-- A starter that composes with nothing stays in front of the composed rest. -/
theorem composeFrom_of_alone (halone : ∀ c, composite? s c = none) (marks xs : List Char) :
    composeFrom s marks xs = s :: marks.reverse ++ compose xs := by
  induction xs generalizing marks with
  | nil => simp [composeFrom, compose]
  | cons c xs ih =>
    rw [composeFrom_cons, halone, ite_self, compose]
    by_cases hc : combiningClass c = 0
    · simp [hc]
    · simp [hc, ih]

/-- Nothing composes where every character starts anew. -/
theorem compose_of_inert (h : ∀ c ∈ xs, Inert c) : compose xs = xs := by
  induction xs using List.reverseRecOn with
  | nil => rfl
  | append_singleton xs b ih =>
    have hb : Inert b := h b (by simp)
    rw [compose_append hb, ih fun c hc => h c (by simp [hc]), compose, if_pos hb.unclassed,
      composeFrom]
    rfl

end HdProvision.Text
