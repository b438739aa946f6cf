import HdProvision.Proofs.Json.Soundness

/-!
# Reading on

What was read up to a mark that ends it is read in the same way when more text follows.
-/

set_option autoImplicit false

namespace HdProvision.Json.Reader

variable {cs r more : List Char}

theorem skip_append (h : skip cs ≠ []) (more : List Char) :
    skip (cs ++ more) = skip cs ++ more := by
  simp only [skip] at h ⊢
  induction cs with
  | nil => exact absurd rfl h
  | cons c cs ih =>
    rw [List.dropWhile_cons] at h ⊢
    rw [List.cons_append, List.dropWhile_cons]
    split
    · next hspace =>
      rw [if_pos hspace] at h
      exact ih h
    · rfl

theorem digits_more (h : (digits cs).2 ≠ []) (more : List Char) :
    digits (cs ++ more) = ((digits cs).1, (digits cs).2 ++ more) := by
  rw [digits, List.span_eq_takeWhile_dropWhile] at h ⊢
  rw [digits, List.span_eq_takeWhile_dropWhile]
  induction cs with
  | nil => exact absurd rfl h
  | cons c cs ih =>
    rw [List.cons_append, List.takeWhile_cons, List.dropWhile_cons, List.takeWhile_cons,
      List.dropWhile_cons]
    rw [List.dropWhile_cons] at h
    split
    · next hdigit =>
      rw [if_pos hdigit] at h
      obtain ⟨htake, hdrop⟩ := Prod.mk.inj (ih h)
      rw [htake, hdrop]
    · rfl

theorem whole_more (h : (whole cs).2 ≠ []) (more : List Char) :
    whole (cs ++ more) = ((whole cs).1, (whole cs).2 ++ more) := by
  cases cs with
  | nil => exact absurd rfl h
  | cons c cs =>
    by_cases hc : c = '0'
    · subst hc
      rfl
    · have hwhole : ∀ r, whole (c :: r) = digits (c :: r) := by
        intro r
        rw [whole]
        exact fun _ heq => hc (List.cons.inj heq).1
      rw [hwhole] at h ⊢
      rw [List.cons_append, hwhole]
      exact digits_more h more

/-- Text that stops a value: it is there, and no number goes on with it. -/
structure Stops (cs : List Char) : Prop where
  ends : Ends cs
  ne_nil : cs ≠ []

theorem Stops.ends_append (h : Stops cs) (more : List Char) : Ends (cs ++ more) := by
  obtain ⟨c, r, rfl⟩ := List.exists_cons_of_ne_nil h.ne_nil
  exact ends_cons (h.ends c rfl) _

/-- The sign of an exponent and what stands behind it. -/
def afterSign (cs : List Char) : Bool × List Char :=
  match cs with
  | '-' :: r => (true, r)
  | '+' :: r => (false, r)
  | _ => (false, cs)

theorem afterSign_more (h : cs ≠ []) (more : List Char) :
    afterSign (cs ++ more) = ((afterSign cs).1, (afterSign cs).2 ++ more) := by
  obtain ⟨c, r, rfl⟩ := List.exists_cons_of_ne_nil h
  by_cases hminus : c = '-'
  · subst hminus
    rfl
  · by_cases hplus : c = '+'
    · subst hplus
      rfl
    · have hnone : ∀ r, afterSign (c :: r) = (false, c :: r) := by
        intro r
        rw [afterSign]
        · exact fun _ heq => hminus (List.cons.inj heq).1
        · exact fun _ heq => hplus (List.cons.inj heq).1
      rw [List.cons_append, hnone, hnone]
      rfl

theorem exponent?_eq {e : Char} (he : (e = 'e' || e = 'E') = true) (r : List Char) :
    exponent? (e :: r) = if (digits (afterSign r).2).1 = [] then none
      else some (signed (afterSign r).1 (digits (afterSign r).2).1,
        (digits (afterSign r).2).2) := by
  rw [exponent?.eq_def]
  exact if_pos he

theorem exponent?_eq_none {e : Char} (he : ¬ (e = 'e' || e = 'E') = true) (r : List Char) :
    exponent? (e :: r) = none := by
  rw [exponent?.eq_def]
  exact if_neg he

/-- What is left behind the exponent, if there is one. -/
def behindExponent (cs : List Char) : List Char := ((exponent? cs).getD (0, cs)).2

theorem behindExponent_nil : behindExponent [] = [] := rfl

theorem exponent?_more (h : Stops (behindExponent cs)) (more : List Char) :
    exponent? (cs ++ more) = (exponent? cs).map fun e => (e.1, e.2 ++ more) := by
  rw [behindExponent] at h
  cases hexponent : exponent? cs with
  | none =>
    rw [hexponent] at h
    exact exponent?_of_ends (h.ends_append more)
  | some found =>
    rw [hexponent] at h
    cases cs with
    | nil => cases hexponent
    | cons e r =>
      by_cases he : (e = 'e' || e = 'E') = true
      · rw [exponent?_eq he] at hexponent
        split at hexponent
        · cases hexponent
        · next hdigits =>
          cases hexponent
          have hr : r ≠ [] := by
            rintro rfl
            exact hdigits rfl
          rw [List.cons_append, exponent?_eq he, afterSign_more hr, digits_more h.ne_nil,
            if_neg hdigits]
          rfl
      · rw [exponent?_eq_none he] at hexponent
        cases hexponent

theorem fraction_point (r : List Char) :
    fraction ('.' :: r) = if (digits r).1 = [] then ([], '.' :: r) else digits r := rfl

theorem fraction_more (h : Stops (behindExponent (fraction cs).2)) (more : List Char) :
    fraction (cs ++ more) = ((fraction cs).1, (fraction cs).2 ++ more) := by
  cases cs with
  | nil => exact absurd rfl h.ne_nil
  | cons c r =>
    by_cases hc : c = '.'
    · subst hc
      rw [fraction_point] at h ⊢
      rw [List.cons_append, fraction_point]
      by_cases hdigits : (digits r).1 = []
      · -- A point that is left would not stop the number.
        rw [if_pos hdigits] at h
        exact absurd rfl (h.ends '.' rfl).2.1
      · rw [if_neg hdigits] at h
        have hleft : (digits r).2 ≠ [] := by
          intro hnil
          rw [hnil] at h
          exact h.ne_nil behindExponent_nil
        rw [digits_more hleft, if_neg hdigits, if_neg hdigits]
    · have hnone : ∀ r, fraction (c :: r) = ([], c :: r) := by
        intro r
        rw [fraction]
        exact fun _ heq => hc (List.cons.inj heq).1
      rw [List.cons_append, hnone, hnone]
      rfl

/-- A number that was read up to text that stops it is read in the same way when more follows. -/
theorem unsigned_more {negative : Bool} {v : Value} (h : unsigned negative cs = .ok (v, r))
    (hr : Stops r) (more : List Char) : unsigned negative (cs ++ more) = .ok (v, r ++ more) := by
  -- What is left stands behind the last part, so that each part has something behind it.
  have hleft : r = behindExponent (fraction (whole cs).2).2 := by
    rw [unsigned_eq] at h
    split at h
    · cases h
    · split at h
      · next hplain =>
        rw [Bool.and_eq_true, Option.isNone_iff_eq_none] at hplain
        split at h
        · cases h
        · cases h
          rw [behindExponent, hplain.2, Option.getD_none]
      · cases h
        rfl
  rw [hleft] at hr
  have hwhole : (whole cs).2 ≠ [] := by
    intro hnil
    rw [hnil] at hr
    exact hr.ne_nil rfl
  rw [unsigned_eq] at h ⊢
  rw [whole_more hwhole, fraction_more hr]
  dsimp only
  rw [exponent?_more hr, Option.isNone_map]
  split at h
  · cases h
  · next hdigits =>
    rw [if_neg hdigits]
    split at h
    · next hplain =>
      rw [if_pos hplain]
      split at h
      · cases h
      · next hlength =>
        cases h
        rw [if_neg hlength]
    · next hplain =>
      rw [if_neg hplain]
      cases h
      cases exponent? (fraction (whole cs).2).2 with
      | none => rfl
      | some e => rfl

/-- A number starts with a digit. -/
theorem head_of_unsigned {negative : Bool} {v : Value} (h : unsigned negative cs = .ok (v, r)) :
    ∃ d cs', cs = d :: cs' ∧ isDigit d = true := by
  have hwhole : (whole cs).1 ≠ [] := by
    rw [unsigned_eq] at h
    split at h
    · cases h
    · next hne => exact hne
  cases cs with
  | nil => exact absurd rfl hwhole
  | cons c cs =>
    refine ⟨c, cs, rfl, ?_⟩
    by_cases hc : c = '0'
    · subst hc
      decide
    · rw [whole, digits, List.span_eq_takeWhile_dropWhile, List.takeWhile_cons] at hwhole
      · split at hwhole
        · next hdigit => exact hdigit
        · exact absurd rfl hwhole
      · exact fun _ heq => hc (List.cons.inj heq).1

/-- What starts with neither a quote nor a bracket is read in the same way when more follows. -/
theorem scalar_more {v : Value} (h : scalar cs = .ok (v, r)) (hr : Stops r) (more : List Char) :
    scalar (cs ++ more) = .ok (v, r ++ more) := by
  rw [scalar.eq_def cs] at h
  split at h
  all_goals first
    | (cases h; rfl)
    | skip
  · obtain ⟨d, cs', rfl, hd⟩ := head_of_unsigned h
    rw [List.cons_append, List.cons_append, scalar_minus hd]
    exact unsigned_more h hr more
  · obtain ⟨d, cs', rfl, hd⟩ := head_of_unsigned h
    rw [List.cons_append, scalar_digit hd]
    exact unsigned_more h hr more

theorem textUnits_more {before us : Units} (h : textUnits before cs = some (us, r))
    (more : List Char) : textUnits before (cs ++ more) = some (us, r ++ more) := by
  fun_induction textUnits before cs with
  | case1 before => cases h
  | case2 before cs =>
    cases h
    rfl
  | case3 before a b c d cs u hunit ih =>
    simp only [List.cons_append, textUnits, hunit]
    exact ih h
  | case4 before a b c d cs hunit => cases h
  | case5 before c cs hshort u hescape ih =>
    have hc : c ≠ 'u' := by
      rintro rfl
      cases hescape
    rw [List.cons_append, List.cons_append, textUnits]
    · simp only [hescape]
      exact ih h
    · intro _ _ _ _ _ heq
      exact absurd heq hc
  | case6 => cases h
  | case7 => cases h
  | case8 before c cs hquote hlong hshort hplain ih =>
    simp only [Bool.or_eq_true, decide_eq_true_eq, not_or, Nat.not_lt] at hplain
    rw [List.cons_append, textUnits_cons hquote hplain.1 hplain.2]
    exact ih h

/-- A mark that ends a value or parts it from the next one stops it. -/
theorem stops_of_skip {c : Char} (h : skip cs = c :: r) (hc : c = ',' ∨ c = ']' ∨ c = '}') :
    Stops cs := by
  cases cs with
  | nil => cases h
  | cons d cs =>
    refine ⟨ends_cons ?_ cs, List.cons_ne_nil d cs⟩
    by_cases hspace : isSpace d = true
    · simp only [isSpace, Bool.or_eq_true, decide_eq_true_eq] at hspace
      rcases hspace with ((rfl | rfl) | rfl) | rfl <;> decide
    · rw [skip_of_not_space (Bool.eq_false_iff.mpr hspace)] at h
      cases h
      rcases hc with rfl | rfl | rfl <;> decide

/-- The first character of a text, an array or an object, which end with a mark of their own. -/
def Opens (cs : List Char) : Prop := ∃ c r, cs = c :: r ∧ (c = '"' ∨ c = '[' ∨ c = '{')

theorem value_nil (fuel room : Nat) : value fuel room [] = .error .malformed := by
  cases fuel <;> rfl

theorem items_nil (fuel room : Nat) (before : List Value) :
    items fuel room before [] = .error .malformed := by
  cases fuel with
  | zero => rfl
  | succ fuel => rw [items, value_nil]

theorem members_nil (fuel room : Nat) (before : Fields) :
    members fuel room before [] = .error .malformed := by
  cases fuel <;> rfl

mutual

/-- A value that was read up to text that stops it is read in the same way when more follows. -/
theorem value_more {fuel fuel' room : Nat} {cs r : List Char} {v : Value}
    (h : value fuel room cs = .ok (v, r)) (hle : fuel ≤ fuel') (hr : Opens cs ∨ Stops r)
    (more : List Char) :
    value fuel' room (cs ++ more) = .ok (v, r ++ more) := by
  match fuel, fuel' with
  | 0, _ => cases h
  | fuel + 1, fuel' + 1 =>
    have hle := Nat.le_of_succ_le_succ hle
    rw [value.eq_def] at h
    dsimp only at h
    split at h
    · next cs =>
      split at h
      · next us rest htext =>
        cases h
        rw [List.cons_append, value, textUnits_more htext]
      · cases h
    · next cs =>
      split at h
      · cases h
      · next room =>
        split at h
        · next rest hskip =>
          cases h
          rw [List.cons_append, value, skip_append (by rw [hskip]; simp), hskip]
          rfl
        · next hskip =>
          have hne : skip cs ≠ [] := by
            intro hnil
            rw [hnil, items_nil] at h
            cases h
          have hitems := items_more h hle more
          -- The bracket is not closed at once, and with more text behind it is not either.
          obtain ⟨c, cs', hcs⟩ := List.exists_cons_of_ne_nil hne
          rw [List.cons_append, value, skip_append hne, hcs, List.cons_append]
          rw [hcs] at hskip hitems
          split
          · next heq =>
            cases heq
            exact absurd rfl (hskip cs')
          · exact hitems
    · next cs =>
      split at h
      · cases h
      · next room =>
        split at h
        · next rest hskip =>
          cases h
          rw [List.cons_append, value, skip_append (by rw [hskip]; simp), hskip]
          rfl
        · next hskip =>
          have hne : skip cs ≠ [] := by
            intro hnil
            rw [hnil, members_nil] at h
            cases h
          have hmembers := members_more h hle more
          obtain ⟨c, cs', hcs⟩ := List.exists_cons_of_ne_nil hne
          rw [List.cons_append, value, skip_append hne, hcs, List.cons_append]
          rw [hcs] at hskip hmembers
          split
          · next heq =>
            cases heq
            exact absurd rfl (hskip cs')
          · exact hmembers
    · next hquote harray hobject =>
      -- Nothing tells the end of a scalar but what stops it.
      have hopens : ¬ Opens cs := by
        rintro ⟨c, cs', rfl, rfl | rfl | rfl⟩
        · exact hquote cs' rfl
        · exact harray cs' rfl
        · exact hobject cs' rfl
      have hscalar := scalar_more h (hr.resolve_left hopens) more
      rw [value_scalar (scalar_head hscalar).2, hscalar]

theorem items_more {fuel fuel' room : Nat} {cs r : List Char} {v : Value} {before : List Value}
    (h : items fuel room before cs = .ok (v, r)) (hle : fuel ≤ fuel') (more : List Char) :
    items fuel' room before (cs ++ more) = .ok (v, r ++ more) := by
  match fuel, fuel' with
  | 0, _ => cases h
  | fuel + 1, fuel' + 1 =>
    have hle := Nat.le_of_succ_le_succ hle
    rw [items] at h ⊢
    split at h
    · cases h
    · next w rest hvalue =>
      split at h
      · next last hskip =>
        cases h
        rw [value_more hvalue hle (.inr (stops_of_skip hskip (by simp)))]
        dsimp only
        rw [skip_append (by rw [hskip]; simp), hskip]
        rfl
      · next last hskip =>
        have hne : skip last ≠ [] := by
          intro hnil
          rw [hnil, items_nil] at h
          cases h
        rw [value_more hvalue hle (.inr (stops_of_skip hskip (by simp)))]
        dsimp only
        rw [skip_append (by rw [hskip]; simp), hskip]
        simp only [List.cons_append]
        rw [skip_append hne]
        exact items_more h hle more
      · cases h

theorem members_more {fuel fuel' room : Nat} {cs r : List Char} {v : Value} {before : Fields}
    (h : members fuel room before cs = .ok (v, r)) (hle : fuel ≤ fuel') (more : List Char) :
    members fuel' room before (cs ++ more) = .ok (v, r ++ more) := by
  match fuel, fuel' with
  | 0, _ => cases h
  | fuel + 1, fuel' + 1 =>
    have hle := Nat.le_of_succ_le_succ hle
    rw [members.eq_def] at h
    dsimp only at h
    split at h
    · next cs =>
      split at h
      · cases h
      · next name rest htext =>
        split at h
        · next behind hcolon =>
          split at h
          · cases h
          · next w left hvalue =>
            have hne : skip behind ≠ [] := by
              intro hnil
              rw [hnil, value_nil] at hvalue
              cases hvalue
            rw [List.cons_append, members, textUnits_more htext]
            dsimp only
            rw [skip_append (by rw [hcolon]; simp), hcolon]
            simp only [List.cons_append]
            rw [skip_append hne]
            split at h
            · next last hskip =>
              cases h
              rw [value_more hvalue hle (.inr (stops_of_skip hskip (by simp)))]
              dsimp only
              rw [skip_append (by rw [hskip]; simp), hskip]
              rfl
            · next last hskip =>
              have hlast : skip last ≠ [] := by
                intro hnil
                rw [hnil, members_nil] at h
                cases h
              rw [value_more hvalue hle (.inr (stops_of_skip hskip (by simp)))]
              dsimp only
              rw [skip_append (by rw [hskip]; simp), hskip]
              simp only [List.cons_append]
              rw [skip_append hlast]
              exact members_more h hle more
            · cases h
        · cases h
    · cases h

end

end HdProvision.Json.Reader
