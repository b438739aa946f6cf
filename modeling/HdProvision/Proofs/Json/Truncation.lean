import HdProvision.Proofs.Json.Extension

/-!
# Texts that were cut off

The text of an object that was cut off is malformed: it is not read, because the whole would be read
in the same way, and it exceeds no bound, because the whole text does not.
-/

set_option autoImplicit false

namespace HdProvision.Json.Reader

variable {cs r : List Char}

/-- What was not read is malformed: no integer is too long, and no bracket has no room. -/
def Bounded {α : Type} (x : Except ReadFault α) : Prop :=
  ∀ fault, x = .error fault → fault = .malformed

theorem bounded_ok {α : Type} (a : α) : Bounded (.ok a) := fun _ => nofun

theorem bounded_malformed {α : Type} : Bounded (.error .malformed : Except ReadFault α) :=
  fun _ h => (Except.error.inj h).symm

/-- How many digits stand at the front, behind a sign. -/
def run (cs : List Char) : Nat :=
  match cs with
  | '-' :: r => (digits r).1.length
  | _ => (digits cs).1.length

theorem run_of_ne {c : Char} (hc : c ≠ '-') (cs : List Char) :
    run (c :: cs) = (digits (c :: cs)).1.length := by
  rw [run]
  exact fun _ heq => hc (List.cons.inj heq).1

theorem run_minus (cs : List Char) : run ('-' :: cs) = (digits cs).1.length := rfl

theorem length_digits_mono (cs more : List Char) :
    (digits cs).1.length ≤ (digits (cs ++ more)).1.length := by
  rw [digits, List.span_eq_takeWhile_dropWhile, digits, List.span_eq_takeWhile_dropWhile]
  induction cs with
  | nil => exact Nat.zero_le _
  | cons c cs ih =>
    rw [List.cons_append, List.takeWhile_cons, List.takeWhile_cons]
    split
    · exact Nat.succ_le_succ ih
    · exact Nat.le_refl _

theorem run_mono (cs more : List Char) : run cs ≤ run (cs ++ more) := by
  cases cs with
  | nil => exact Nat.zero_le _
  | cons c cs =>
    by_cases hc : c = '-'
    · subst hc
      exact length_digits_mono cs more
    · rw [List.cons_append, run_of_ne hc, run_of_ne hc]
      exact length_digits_mono (c :: cs) more

theorem length_digits_le (ds : List Char) {rest : List Char}
    (hrest : ∀ c, rest.head? = some c → isDigit c = false) :
    (digits (ds ++ rest)).1.length ≤ ds.length := by
  rw [digits, List.span_eq_takeWhile_dropWhile]
  induction ds with
  | nil =>
    cases rest with
    | nil => exact Nat.le_refl _
    | cons c rest =>
      rw [List.nil_append, List.takeWhile_cons, hrest c rfl]
      exact Nat.le_refl _
  | cons d ds ih =>
    rw [List.cons_append, List.takeWhile_cons]
    split
    · exact Nat.succ_le_succ ih
    · exact Nat.zero_le _

theorem bounded_unsigned (negative : Bool)
    (h : (digits cs).1.length ≤ Text.Integer.maxDigits) : Bounded (unsigned negative cs) := by
  intro fault htoo
  have hwhole : (whole cs).1.length ≤ Text.Integer.maxDigits := by
    rw [whole.eq_def]
    split
    · exact (by decide : 1 ≤ 4300)
    · exact h
  rw [unsigned_eq] at htoo
  split at htoo
  · exact (Except.error.inj htoo).symm
  · split at htoo
    · split at htoo
      · next hlong => omega
      · cases htoo
    · cases htoo

theorem bounded_scalar (h : run cs ≤ Text.Integer.maxDigits) : Bounded (scalar cs) := by
  intro fault htoo
  rw [scalar.eq_def] at htoo
  split at htoo
  all_goals first
    | cases htoo
    | skip
  · exact bounded_unsigned true h fault htoo
  · next hminus =>
    refine bounded_unsigned false ?_ fault htoo
    rw [run.eq_def] at h
    split at h
    · exact absurd rfl (hminus _)
    · exact h

theorem run_positional {d : Decimal.Digits} (hpoint : d.point ≤ 16) (rest : List Char) :
    (digits (Decimal.positional d ++ rest)).1.length ≤ 16 := by
  have hmark : ∀ r c, ('.' :: r : List Char).head? = some c → isDigit c = false := by
    intro r c hc
    rw [← Option.some.inj hc]
    decide
  rw [Decimal.positional]
  split
  · exact (by decide : 1 ≤ 16)
  · split
    · rw [List.append_assoc]
      refine (length_digits_le _ (hmark _)).trans ?_
      rw [List.length_append, List.length_replicate]
      omega
    · rw [List.append_assoc]
      refine (length_digits_le _ (hmark _)).trans ?_
      rw [List.length_take]
      omega

theorem run_scientific (d : Decimal.Digits) (rest : List Char) :
    (digits (Decimal.scientific d ++ rest)).1.length ≤ 16 := by
  have hmark : ∀ c r, c = '.' ∨ c = 'e' → ∀ x, (c :: r : List Char).head? = some x →
      isDigit x = false := by
    intro c r hc x hx
    rw [← Option.some.inj hx]
    rcases hc with rfl | rfl <;> decide
  rw [Decimal.scientific, List.append_assoc, List.cons_append]
  split
  · exact (length_digits_le [] (hmark 'e' _ (.inr rfl))).trans (Nat.zero_le 16)
  · next c _ =>
    exact (length_digits_le [c] (hmark 'e' _ (.inr rfl))).trans (show 1 ≤ 16 by decide)
  · next c cs _ _ =>
    exact (length_digits_le [c] (hmark '.' _ (.inl rfl))).trans (show 1 ≤ 16 by decide)

theorem run_finiteChars (m e : Nat) (rest : List Char) :
    (digits (Decimal.finiteChars false m e ++ rest)).1.length ≤ 16 := by
  rw [Decimal.finiteChars, if_neg (by decide)]
  split
  · exact (by decide : 1 ≤ 16)
  · dsimp only
    split
    · next hpoint =>
      simp only [Bool.and_eq_true, decide_eq_true_eq] at hpoint
      exact run_positional hpoint.2 rest
    · exact run_scientific _ rest

theorem run_digits (h : ∃ d r, cs = d :: r ∧ isDigit d = true) :
    run cs = (digits cs).1.length := by
  obtain ⟨d, r, rfl, hd⟩ := h
  exact run_of_ne (ne_of_isDigit hd (by decide)) r

theorem run_int {n : Int} {rest : List Char} (h : (Value.int n).Sound) (hrest : Ends rest) :
    run (Text.Integer.chars n ++ rest) ≤ Text.Integer.maxDigits := by
  have hdigits : ∀ k : Nat, (digits (Text.Integer.natChars k ++ rest)).1.length ≤
      (Text.Integer.natChars k).length :=
    fun k => length_digits_le _ fun c hc => (hrest c hc).1
  cases n with
  | negSucc k => exact (hdigits (k + 1)).trans h
  | ofNat k =>
    obtain ⟨c, r, hr⟩ := List.exists_cons_of_ne_nil (Text.Integer.natChars_ne_nil k)
    have hc : isDigit c = true := Text.Integer.isDigit_natChars k c (by rw [hr]; simp)
    rw [Text.Integer.chars, run_digits ⟨c, r ++ rest, by rw [hr, List.cons_append], hc⟩]
    exact (hdigits k).trans h

theorem run_real {x : Binary64} (h : x.Sound) (rest : List Char) :
    run (Writer.real x ++ rest) ≤ Text.Integer.maxDigits := by
  have hmax : 16 ≤ Text.Integer.maxDigits := by decide
  cases x with
  | nan => exact Nat.zero_le _
  | infinite negative => cases negative <;> exact Nat.zero_le _
  | finite negative m e =>
    have hdigits := run_finiteChars m e rest
    cases negative with
    | true =>
      have hminus : Writer.real (.finite true m e) = '-' :: Decimal.finiteChars false m e := rfl
      rw [hminus, List.cons_append, run_minus]
      exact hdigits.trans hmax
    | false =>
      obtain ⟨d, r, hr, hd⟩ := (reads_finiteChars h).1
      have hplain : Writer.real (.finite false m e) = Decimal.finiteChars false m e := rfl
      rw [hplain, run_digits ⟨d, r ++ rest, by rw [hr, List.cons_append], hd⟩]
      exact hdigits.trans hmax

theorem bounded_scalar_cut {w : Value × List Char} {whole p more : List Char} (fuel room : Nat)
    (hscalar : scalar whole = .ok w) (hrun : run whole ≤ Text.Integer.maxDigits)
    (hcut : whole = p ++ more) : Bounded (value fuel room p) := by
  cases fuel with
  | zero => exact bounded_malformed
  | succ fuel =>
    subst hcut
    cases p with
    | nil => exact bounded_malformed
    | cons c p =>
      have hhead := (scalar_head hscalar).2 c rfl
      have hscalar : value (fuel + 1) room (c :: p) = scalar (c :: p) := by
        refine value_scalar ?_
        rintro d hd
        rwa [← Option.some.inj hd]
      rw [hscalar]
      exact bounded_scalar ((run_mono _ _).trans hrun)

/-- What is read of a value and some text behind it, when that text was cut off. -/
theorem stops_of_next {c : Char} {v : Value} (hc : c = ',' ∨ c = ']' ∨ c = '}') {fuel room depth : Nat}
    {w : Value} {p tail more left : List Char} (hv : v.Sound) (hroom : v.depth ≤ room)
    (htail : Ends tail) (hcut : Writer.value depth v tail = p ++ more) (hvalue : value fuel room p = .ok (w, r))
    (hskip : skip r = c :: left) : skip tail = c :: (left ++ more) := by
  have hstops := stops_of_skip hskip hc
  have hmore := value_more hvalue (Nat.le_max_left _ v.size) (.inr hstops) more
  rw [← hcut, value_written _ room depth v tail hv (Nat.le_max_right _ _) hroom htail] at hmore
  have htail' : tail = r ++ more := (Prod.mk.inj (Except.ok.inj hmore)).2
  rw [htail', skip_append (by rw [hskip]; simp), hskip, List.cons_append]

/-- What is left of a gap that was cut off, and of what stands behind it. -/
theorem cut_gap {p more whole : List Char} (hgap : skip cs = whole) (hcut : cs = p ++ more) :
    skip p = [] ∨ whole = skip p ++ more := by
  by_cases hne : skip p = []
  · exact .inl hne
  · rw [hcut, skip_append hne] at hgap
    exact .inr hgap.symm

theorem cut_line {depth : Nat} {p more whole : List Char} (hstarts : StartsValue whole)
    (hcut : Writer.line depth ++ whole = p ++ more) : skip p = [] ∨ whole = skip p ++ more :=
  cut_gap ((skip_line depth whole).trans (skip_value hstarts)) hcut

theorem bounded_no_items {fuel room : Nat} {p tail more : List Char}
    (hcut : '[' :: ']' :: tail = p ++ more) : Bounded (value (fuel + 1) (room + 1) p) := by
  cases p with
  | nil => exact bounded_malformed
  | cons c p =>
    obtain ⟨rfl, hbehind⟩ := List.cons.inj hcut
    rw [value]
    split
    · exact bounded_ok _
    · next hopen =>
      cases p with
      | nil => exact items_nil fuel room [] ▸ bounded_malformed
      | cons c p =>
        obtain rfl : ']' = c := (List.cons.inj hbehind).1
        exact absurd rfl (hopen p)

theorem bounded_no_members {fuel room : Nat} {p tail more : List Char}
    (hcut : '{' :: '}' :: tail = p ++ more) : Bounded (value (fuel + 1) (room + 1) p) := by
  cases p with
  | nil => exact bounded_malformed
  | cons c p =>
    obtain ⟨rfl, hbehind⟩ := List.cons.inj hcut
    rw [value]
    split
    · exact bounded_ok _
    · next hopen =>
      cases p with
      | nil => exact members_nil fuel room [] ▸ bounded_malformed
      | cons c p =>
        obtain rfl : '}' = c := (List.cons.inj hbehind).1
        exact absurd rfl (hopen p)

mutual

/-- Reading the text of a value that was cut off exceeds no bound. -/
theorem bounded_value (fuel room depth : Nat) (v : Value) (tail : List Char) (hv : v.Sound)
    (hroom : v.depth ≤ room) (htail : Ends tail) (p more : List Char) (hcut : Writer.value depth v tail = p ++ more) :
    Bounded (value fuel room p) := by
  match fuel, room, v with
  | 0, _, _ => exact bounded_malformed
  | fuel + 1, _, .null => exact bounded_scalar_cut _ _ (w := (.null, tail)) rfl (Nat.zero_le _) hcut
  | fuel + 1, _, .bool true =>
    exact bounded_scalar_cut _ _ (w := (.bool true, tail)) rfl (Nat.zero_le _) hcut
  | fuel + 1, _, .bool false =>
    exact bounded_scalar_cut _ _ (w := (.bool false, tail)) rfl (Nat.zero_le _) hcut
  | fuel + 1, _, .int n =>
    exact bounded_scalar_cut _ _ (scalar_int hv htail) (run_int hv htail) hcut
  | fuel + 1, _, .real x =>
    exact bounded_scalar_cut _ _ (scalar_real hv htail) (run_real hv tail) hcut
  | fuel + 1, _, .text us =>
    cases p with
    | nil => exact bounded_malformed
    | cons c p =>
      obtain rfl : '"' = c := (List.cons.inj hcut).1
      rw [value]
      split
      · exact bounded_ok _
      · exact bounded_malformed
  | fuel + 1, 0, .array _ | fuel + 1, 0, .object _ => exact absurd hroom (Nat.not_succ_le_zero _)
  | fuel + 1, room + 1, .array [] => exact bounded_no_items hcut
  | fuel + 1, room + 1, .array (v :: vs) =>
    cases p with
    | nil => exact bounded_malformed
    | cons c p =>
      rw [Writer.value, List.cons_append, List.cons_append] at hcut
      obtain ⟨rfl, hbehind⟩ := List.cons.inj hcut
      have hstarts := startsValue_value (depth + 1) hv.1
        (ends_values (depth + 1) vs (ends_line depth (']' :: tail)))
      rw [value]
      split
      · exact bounded_ok _
      · rcases cut_line hstarts hbehind with hnil | hrest
        · rw [hnil, items_nil]
          exact bounded_malformed
        · exact bounded_items fuel room (depth + 1) depth v vs [] tail hv
            (Nat.le_of_succ_le_succ hroom) _ more hrest
  | fuel + 1, room + 1, .object [] => exact bounded_no_members hcut
  | fuel + 1, room + 1, .object ((name, v) :: fs) =>
    cases p with
    | nil => exact bounded_malformed
    | cons c p =>
      rw [Writer.value, List.cons_append, List.cons_append] at hcut
      obtain ⟨rfl, hbehind⟩ := List.cons.inj hcut
      have hstarts : StartsValue (Writer.text name (':' :: ' ' :: Writer.value (depth + 1) v
          (Writer.members (depth + 1) fs (Writer.line depth ++ '}' :: tail)))) :=
        startsValue_cons (by decide) _
      rw [value]
      split
      · exact bounded_ok _
      · rcases cut_line hstarts hbehind with hnil | hrest
        · rw [hnil, members_nil]
          exact bounded_malformed
        · exact bounded_members fuel room (depth + 1) depth name v fs [] tail hv.1
            (Nat.le_of_succ_le_succ hroom) _ more hrest

theorem bounded_items (fuel room depth outer : Nat) (v : Value) (vs before : List Value)
    (tail : List Char) (h : Value.SoundAll (v :: vs)) (hroom : Value.depthAll (v :: vs) ≤ room)
    (p more : List Char)
    (hcut : Writer.value depth v (Writer.values depth vs (Writer.line outer ++ ']' :: tail)) =
      p ++ more) : Bounded (items fuel room before p) := by
  have hends := ends_values depth vs (ends_line outer (']' :: tail))
  have hdepth : v.depth ≤ room ∧ Value.depthAll vs ≤ room := Nat.max_le.mp hroom
  match fuel with
  | 0 => exact bounded_malformed
  | fuel + 1 =>
    rw [items]
    have hvalue := bounded_value fuel room depth v _ h.1 hdepth.1 hends p more hcut
    split
    · next fault hfault =>
      rw [hfault] at hvalue
      exact hvalue
    · next w r hread =>
      split
      · exact bounded_ok _
      · next left hskip =>
        have hnext := stops_of_next (.inl rfl) h.1 hdepth.1 hends hcut hread hskip
        match vs with
        | [] =>
          rw [Writer.values, skip_line, skip_of_not_space (by decide)] at hnext
          cases hnext
        | w' :: vs =>
          rw [Writer.values, List.cons_append, skip_of_not_space (by decide)] at hnext
          have hstarts := startsValue_value depth h.2.1
            (ends_values depth vs (ends_line outer (']' :: tail)))
          rcases cut_line hstarts (List.cons.inj hnext).2 with hnil | hrest
          · rw [hnil, items_nil]
            exact bounded_malformed
          · exact bounded_items fuel room depth outer w' vs _ tail h.2 hdepth.2 _ more hrest
      · exact bounded_malformed

theorem bounded_members (fuel room depth outer : Nat) (name : Units) (v : Value)
    (fs before : Fields) (tail : List Char) (h : Value.SoundFields ((name, v) :: fs))
    (hroom : Value.depthFields ((name, v) :: fs) ≤ room) (p more : List Char)
    (hcut : Writer.text name (':' :: ' ' ::
        Writer.value depth v (Writer.members depth fs (Writer.line outer ++ '}' :: tail))) =
      p ++ more) : Bounded (members fuel room before p) := by
  have hends := ends_members depth fs (ends_line outer ('}' :: tail))
  have hdepth : v.depth ≤ room ∧ Value.depthFields fs ≤ room := Nat.max_le.mp hroom
  match fuel with
  | 0 => exact bounded_malformed
  | fuel + 1 =>
    cases p with
    | nil => exact bounded_malformed
    | cons c p =>
      rw [Writer.text, List.cons_append, List.cons_append] at hcut
      obtain ⟨rfl, hbehind⟩ := List.cons.inj hcut
      rw [members]
      split
      · exact bounded_malformed
      · next found r htext =>
        -- What follows the name was cut off from what follows it in the whole text.
        have hwhole := textUnits_more htext more
        rw [← hbehind, textUnits_text] at hwhole
        have hrest : ':' :: ' ' :: Writer.value depth v (Writer.members depth fs
            (Writer.line outer ++ '}' :: tail)) = r ++ more :=
          (Prod.mk.inj (Option.some.inj hwhole)).2
        split
        · next behind hcolon =>
          have hcolons := congrArg skip hrest
          rw [skip_append (by rw [hcolon]; simp), hcolon, skip_of_not_space (by decide),
            List.cons_append] at hcolons
          have hbehind : ' ' :: Writer.value depth v (Writer.members depth fs
              (Writer.line outer ++ '}' :: tail)) = behind ++ more := (List.cons.inj hcolons).2
          have hgap : skip (' ' :: Writer.value depth v (Writer.members depth fs
              (Writer.line outer ++ '}' :: tail))) = Writer.value depth v (Writer.members depth fs
                (Writer.line outer ++ '}' :: tail)) :=
            skip_value (startsValue_value depth h.1 hends)
          rcases cut_gap hgap hbehind with hnil | hpart
          · rw [hnil, value_nil]
            exact bounded_malformed
          · have hvalue := bounded_value fuel room depth v _ h.1 hdepth.1 hends _ more hpart
            split
            · next fault hfault =>
              rw [hfault] at hvalue
              exact hvalue
            · next w r hread =>
              dsimp only
              split
              · exact bounded_ok _
              · next left hskip =>
                have hnext := stops_of_next (.inl rfl) h.1 hdepth.1 hends hpart hread hskip
                match fs with
                | [] =>
                  rw [Writer.members, skip_line, skip_of_not_space (by decide)] at hnext
                  cases hnext
                | (other, w') :: fs =>
                  rw [Writer.members, List.cons_append, skip_of_not_space (by decide)] at hnext
                  have hstarts : StartsValue (Writer.text other (':' :: ' ' ::
                      Writer.value depth w' (Writer.members depth fs
                        (Writer.line outer ++ '}' :: tail)))) := startsValue_cons (by decide) _
                  rcases cut_line hstarts (List.cons.inj hnext).2 with hnil | hlast
                  · rw [hnil, members_nil]
                    exact bounded_malformed
                  · exact bounded_members fuel room depth outer other w' fs _ tail h.2 hdepth.2 _ more
                      hlast
              · exact bounded_malformed
        · exact bounded_malformed

end

end HdProvision.Json.Reader

namespace HdProvision.Json

/-- The text of an object that was cut off is malformed. -/
theorem read_of_cut [Nesting] {fs : Fields} (hsound : (Value.object fs).Sound)
    (hdepth : (Value.object fs).depth ≤ Nesting.reading) {cs more : List Char}
    (hcut : write (.object fs) = cs ++ more) (hmore : more ≠ []) : read cs = .error .malformed := by
  have hopens : ∃ r, write (.object fs) = '{' :: r := by
    cases fs with
    | nil => exact ⟨_, rfl⟩
    | cons f fs => exact ⟨_, rfl⟩
  obtain ⟨r, hr⟩ := hopens
  cases cs with
  | nil => rfl
  | cons c cs =>
    obtain rfl : c = '{' := (List.cons.inj (hcut.symm.trans hr)).1
    have hbounded :=
      Reader.bounded_value (cs.length + 1 + 1) _ 0 _ [] hsound hdepth Reader.ends_nil _ more hcut
    rw [read, Reader.skip_of_not_space (by decide), List.length_cons]
    cases hvalue : Reader.value (cs.length + 1 + 1) Nesting.reading ('{' :: cs) with
    | error fault =>
      obtain rfl := hbounded fault hvalue
      rfl
    | ok found =>
      -- The whole text would be read as the part was, and something of it would be left over.
      have hwhole := Reader.value_more hvalue (Nat.le_max_left _ (Value.object fs).size)
        (.inl ⟨'{', cs, rfl, by simp⟩) more
      rw [← hcut, write, Reader.value_written _ _ 0 _ [] hsound (Nat.le_max_right _ _) hdepth
        Reader.ends_nil] at hwhole
      have hnil : ([] : List Char) = found.2 ++ more := (Prod.mk.inj (Except.ok.inj hwhole)).2
      exact absurd (List.append_eq_nil_iff.mp hnil.symm).2 hmore

end HdProvision.Json
