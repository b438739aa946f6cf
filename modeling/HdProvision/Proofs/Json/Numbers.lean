import Mathlib.Data.List.TakeDrop
import HdProvision.Json.Writer
import HdProvision.Proofs.Decimal.Shortest

/-!
# Reading written numbers

An integer is read back from its digits, and any other number from its shortest text, with whatever
follows left over.
-/

set_option autoImplicit false

namespace HdProvision.Json.Reader

open Text.Integer (Leads)

/-- Text that cannot go on with a number. -/
def Ends (rest : List Char) : Prop :=
  ∀ c, rest.head? = some c → isDigit c = false ∧ c ≠ '.' ∧ c ≠ 'e' ∧ c ≠ 'E'

theorem ends_nil : Ends [] := fun _ h => nomatch h

theorem ends_cons {c : Char} (h : isDigit c = false ∧ c ≠ '.' ∧ c ≠ 'e' ∧ c ≠ 'E')
    (rest : List Char) : Ends (c :: rest) := by
  intro d hd
  rwa [← Option.some.inj hd]

theorem digits_append {ds rest : List Char} (hds : ∀ c ∈ ds, isDigit c = true)
    (hrest : ∀ c, rest.head? = some c → isDigit c = false) : digits (ds ++ rest) = (ds, rest) := by
  rw [digits, List.span_eq_takeWhile_dropWhile, List.takeWhile_append_of_pos hds,
    List.dropWhile_append_of_pos hds]
  cases rest with
  | nil => simp
  | cons c rest => simp [hrest c rfl]

/-- Digits before a point: a single zero, or digits that do not start with one. -/
def Whole (ds : List Char) : Prop := ds = ['0'] ∨ Leads ds

theorem Whole.ne_nil {ds : List Char} (h : Whole ds) : ds ≠ [] := by
  rcases h with rfl | h
  · simp
  · obtain ⟨d, ds', rfl, -⟩ := h.head
    simp

/-- What stands in front of a point or an exponent, and the rest. -/
def whole (cs : List Char) : List Char × List Char :=
  match cs with
  | '0' :: r => (['0'], r)
  | _ => digits cs

theorem whole_append {ds rest : List Char} (h : Whole ds)
    (hrest : ∀ c, rest.head? = some c → isDigit c = false) : whole (ds ++ rest) = (ds, rest) := by
  rcases h with rfl | h
  · rfl
  · obtain ⟨d, ds', rfl, hd⟩ := h.head
    rw [List.cons_append, whole]
    · exact digits_append h.digits hrest
    · intro r hr
      exact hd (List.cons.inj hr).1

theorem unsigned_eq (negative : Bool) (cs : List Char) :
    unsigned negative cs =
      if (whole cs).1 = [] then .error .malformed
      else if (fraction (whole cs).2).1 = [] && (exponent? (fraction (whole cs).2).2).isNone then
        if Text.Integer.maxDigits < (whole cs).1.length then
          .error (.tooManyDigits (whole cs).1.length)
        else .ok (.int (if negative then -(digitsValue (whole cs).1 : Int)
          else digitsValue (whole cs).1), (fraction (whole cs).2).2)
      else
        .ok (.real (Binary64.ofDecimal negative ((whole cs).1 ++ (fraction (whole cs).2).1).length
          (digitsValue ((whole cs).1 ++ (fraction (whole cs).2).1))
          (((exponent? (fraction (whole cs).2).2).getD (0, (fraction (whole cs).2).2)).1 -
            (fraction (whole cs).2).1.length)),
          ((exponent? (fraction (whole cs).2).2).getD (0, (fraction (whole cs).2).2)).2) := rfl

theorem fraction_of_ends {rest : List Char} (h : Ends rest) : fraction rest = ([], rest) := by
  cases rest with
  | nil => rfl
  | cons c rest =>
    rw [fraction]
    intro r hr
    exact (h c rfl).2.1 (List.cons.inj hr).1

theorem fraction_exponent (rest : List Char) : fraction ('e' :: rest) = ([], 'e' :: rest) := rfl

theorem isDigit_head_exponent (rest : List Char) :
    ∀ c, ('e' :: rest).head? = some c → isDigit c = false := by
  intro c hc
  rw [← Option.some.inj hc]
  decide

theorem fraction_append {fs rest : List Char} (hne : fs ≠ []) (hfs : ∀ c ∈ fs, isDigit c = true)
    (hrest : ∀ c, rest.head? = some c → isDigit c = false) :
    fraction ('.' :: (fs ++ rest)) = (fs, rest) := by
  simp only [fraction, digits_append hfs hrest, if_neg hne]

theorem exponent?_of_ends {rest : List Char} (h : Ends rest) : exponent? rest = none := by
  cases rest with
  | nil => rfl
  | cons c rest =>
    obtain ⟨-, -, he, hE⟩ := h c rfl
    simp [exponent?, he, hE]

/-- The sign of an exponent and its value. -/
def signed (negative : Bool) (es : List Char) : Int :=
  if negative then -(digitsValue es : Int) else digitsValue es

theorem exponent?_append (negative : Bool) {es rest : List Char} (hne : es ≠ [])
    (hes : ∀ c ∈ es, isDigit c = true) (hrest : Ends rest) :
    exponent? ('e' :: (if negative then '-' else '+') :: (es ++ rest)) =
      some (signed negative es, rest) := by
  have hdigits := digits_append hes fun c hc => (hrest c hc).1
  cases negative
  · simp [exponent?, hdigits, hne, signed]
  · simp [exponent?, hdigits, hne, signed]

variable {ds fs es rest : List Char}

/-- An integer of not too many digits is read. -/
theorem unsigned_int (negative : Bool) (h : Whole ds) (hlength : ds.length ≤ Text.Integer.maxDigits)
    (hrest : Ends rest) :
    unsigned negative (ds ++ rest) =
      .ok (.int (if negative then -(digitsValue ds : Int) else digitsValue ds), rest) := by
  rw [unsigned_eq, whole_append h fun c hc => (hrest c hc).1]
  simp only [if_neg h.ne_nil, fraction_of_ends hrest, exponent?_of_ends hrest,
    if_neg (Nat.not_lt.mpr hlength)]
  rfl

theorem unsigned_fraction (negative : Bool) (h : Whole ds) (hne : fs ≠ [])
    (hfs : ∀ c ∈ fs, isDigit c = true) (hrest : Ends rest) :
    unsigned negative (ds ++ '.' :: (fs ++ rest)) =
      .ok (.real (Binary64.ofDecimal negative (ds ++ fs).length (digitsValue (ds ++ fs))
        (0 - fs.length)), rest) := by
  rw [unsigned_eq, whole_append h fun c hc => by rw [← Option.some.inj hc]; decide]
  simp only [if_neg h.ne_nil, fraction_append hne hfs fun c hc => (hrest c hc).1,
    exponent?_of_ends hrest, hne]
  rfl

theorem unsigned_exponent (negative down : Bool) (h : Whole ds) (hne : es ≠ [])
    (hes : ∀ c ∈ es, isDigit c = true) (hrest : Ends rest) :
    unsigned negative (ds ++ 'e' :: (if down then '-' else '+') :: (es ++ rest)) =
      .ok (.real (Binary64.ofDecimal negative (ds ++ []).length (digitsValue (ds ++ []))
        (signed down es - 0)), rest) := by
  rw [unsigned_eq, whole_append h (isDigit_head_exponent _)]
  simp only [if_neg h.ne_nil, fraction_exponent, exponent?_append down hne hes hrest]
  rfl

theorem unsigned_fraction_exponent (negative down : Bool) (h : Whole ds) (hfne : fs ≠ [])
    (hfs : ∀ c ∈ fs, isDigit c = true) (hne : es ≠ []) (hes : ∀ c ∈ es, isDigit c = true)
    (hrest : Ends rest) :
    unsigned negative (ds ++ '.' :: (fs ++ 'e' :: (if down then '-' else '+') :: (es ++ rest))) =
      .ok (.real (Binary64.ofDecimal negative (ds ++ fs).length (digitsValue (ds ++ fs))
        (signed down es - fs.length)), rest) := by
  rw [unsigned_eq, whole_append h fun c hc => by rw [← Option.some.inj hc]; decide]
  simp only [if_neg h.ne_nil, fraction_append hfne hfs (isDigit_head_exponent _),
    exponent?_append down hne hes hrest, hfne]
  rfl

/-- Text that reads as the number `n * 10 ^ places`, and not as an integer. -/
structure Spells (cs : List Char) (n : Nat) (places : Int) : Prop where
  head : ∃ d r, cs = d :: r ∧ isDigit d = true
  reads : ∃ count, n < 10 ^ count ∧ ∀ negative rest, Ends rest →
    unsigned negative (cs ++ rest) =
      .ok (.real (Binary64.ofDecimal negative count n places), rest)

theorem Whole.isDigit (h : Whole ds) : ∀ c ∈ ds, isDigit c = true := by
  rcases h with rfl | h
  · exact List.forall_mem_singleton.mpr rfl
  · exact h.digits

theorem Whole.head {ds : List Char} (h : Whole ds) (rest : List Char) :
    ∃ d r, ds ++ rest = d :: r ∧ Reader.isDigit d = true := by
  rcases h with rfl | h
  · exact ⟨'0', rest, rfl, by decide⟩
  · obtain ⟨d, ds', rfl, -⟩ := h.head
    exact ⟨d, ds' ++ rest, rfl, h.digits d (by simp)⟩

theorem isDigit_append {as bs : List Char} (ha : ∀ c ∈ as, isDigit c = true)
    (hb : ∀ c ∈ bs, isDigit c = true) : ∀ c ∈ as ++ bs, isDigit c = true :=
  fun c hc => (List.mem_append.mp hc).elim (ha c) (hb c)

theorem spells_fraction (h : Whole ds) (hne : fs ≠ []) (hfs : ∀ c ∈ fs, isDigit c = true) :
    Spells (ds ++ '.' :: fs) (digitsValue (ds ++ fs)) (0 - fs.length) := by
  refine ⟨h.head _, _, Text.Integer.digitsValue_lt (isDigit_append h.isDigit hfs), ?_⟩
  intro negative rest hrest
  exact (congrArg (unsigned negative) (by simp)).trans (unsigned_fraction negative h hne hfs hrest)

theorem spells_exponent (down : Bool) (h : Whole ds) (hne : es ≠ [])
    (hes : ∀ c ∈ es, isDigit c = true) :
    Spells (ds ++ 'e' :: (if down then '-' else '+') :: es) (digitsValue ds) (signed down es) := by
  refine ⟨h.head _, _, Text.Integer.digitsValue_lt h.isDigit, fun negative rest hrest => ?_⟩
  have hunsigned := unsigned_exponent negative down h hne hes hrest
  rw [List.append_nil, Int.sub_zero] at hunsigned
  exact (congrArg (unsigned negative) (by simp)).trans hunsigned

theorem spells_fraction_exponent (down : Bool) (h : Whole ds) (hfne : fs ≠ [])
    (hfs : ∀ c ∈ fs, isDigit c = true) (hne : es ≠ []) (hes : ∀ c ∈ es, isDigit c = true) :
    Spells (ds ++ '.' :: (fs ++ 'e' :: (if down then '-' else '+') :: es)) (digitsValue (ds ++ fs))
      (signed down es - fs.length) := by
  refine ⟨h.head _, _, Text.Integer.digitsValue_lt (isDigit_append h.isDigit hfs), ?_⟩
  intro negative rest hrest
  exact (congrArg (unsigned negative) (by simp)).trans
    (unsigned_fraction_exponent negative down h hfne hfs hne hes hrest)

theorem isDigit_replicate_zero (n : Nat) : ∀ c ∈ List.replicate n '0', isDigit c = true := by
  intro c hc
  rw [List.eq_of_mem_replicate hc]
  decide

theorem Leads.append_digits (h : Leads ds) (hfs : ∀ c ∈ fs, isDigit c = true) :
    Leads (ds ++ fs) := by
  obtain ⟨d, ds', heq, hd⟩ := h.head
  exact ⟨isDigit_append h.digits hfs, d, ds' ++ fs, by rw [heq, List.cons_append], hd⟩

/-- Digits without an exponent spell their number, up to zeros behind them. -/
theorem spells_positional {d : Decimal.Digits} (h : Leads d.digits) :
    ∃ (z : Nat) (places : Int),
      Spells (Decimal.positional d) (digitsValue d.digits * 10 ^ z) places ∧
      places + z = d.point - d.digits.length := by
  obtain ⟨c, cs, hcs, hc⟩ := h.head
  rw [Decimal.positional]
  split
  · have hdigits := isDigit_append (isDigit_replicate_zero (-d.point).toNat) h.digits
    have hspells := spells_fraction (Or.inl rfl) (by simp [hcs]) hdigits
    rw [← List.append_assoc, ← List.replicate_one, List.replicate_append_replicate,
      Text.Integer.digitsValue_zeros_append] at hspells
    refine ⟨0, _, by rwa [Nat.pow_zero, Nat.mul_one], ?_⟩
    rw [List.length_append, List.length_replicate]
    omega
  · split
    · have hzeros := Leads.append_digits h
        (isDigit_replicate_zero (d.point - d.digits.length).toNat)
      have hlast : ∀ c ∈ ['0'], isDigit c = true := List.forall_mem_singleton.mpr rfl
      have hspells := spells_fraction (Or.inr hzeros) (by simp) hlast
      have hvalue : digitsValue (d.digits ++
          List.replicate (d.point - d.digits.length).toNat '0' ++ ['0']) =
            digitsValue d.digits * 10 ^ ((d.point - d.digits.length).toNat + 1) := by
        rw [List.append_assoc, ← List.replicate_succ', Text.Integer.digitsValue_append_zeros]
      rw [hvalue] at hspells
      refine ⟨_, _, hspells, ?_⟩
      rw [List.length_singleton]
      omega
    · next hpos hlt =>
      have hspells : Spells (d.digits.take d.point.toNat ++ '.' :: d.digits.drop d.point.toNat)
          (digitsValue (d.digits.take d.point.toNat ++ d.digits.drop d.point.toNat))
          (0 - (d.digits.drop d.point.toNat).length) := by
        refine spells_fraction (Or.inr ⟨fun x hx => h.digits x (List.mem_of_mem_take hx), ?_⟩) ?_
          fun x hx => h.digits x (List.mem_of_mem_drop hx)
        · obtain ⟨k, hk⟩ : ∃ k, d.point.toNat = k + 1 := ⟨d.point.toNat - 1, by omega⟩
          exact ⟨c, cs.take k, by rw [hk, hcs, List.take_succ_cons], hc⟩
        · rw [ne_eq, List.drop_eq_nil_iff]
          omega
      rw [List.take_append_drop] at hspells
      refine ⟨0, _, by rwa [Nat.pow_zero, Nat.mul_one], ?_⟩
      rw [List.length_drop]
      omega

/-- The digits of an exponent, of which there are at least two. -/
theorem exponent_digits (n : Nat) :
    let es := if (Text.Integer.natChars n).length < 2 then '0' :: Text.Integer.natChars n
      else Text.Integer.natChars n
    es ≠ [] ∧ (∀ x ∈ es, isDigit x = true) ∧ digitsValue es = n := by
  intro es
  have hvalue := Text.Integer.digitsValue_natChars n
  by_cases h : (Text.Integer.natChars n).length < 2
  · rw [show es = '0' :: Text.Integer.natChars n from if_pos h]
    refine ⟨by simp, List.forall_mem_cons.mpr ⟨by decide, ?_⟩, ?_⟩
    · exact Text.Integer.isDigit_natChars n
    · exact (Text.Integer.digitsValue_zeros_append 1 _).trans hvalue
  · rw [show es = Text.Integer.natChars n from if_neg h]
    exact ⟨Text.Integer.natChars_ne_nil n, Text.Integer.isDigit_natChars n, hvalue⟩

/-- Digits with an exponent spell their number. -/
theorem spells_scientific {d : Decimal.Digits} (h : Leads d.digits) :
    Spells (Decimal.scientific d) (digitsValue d.digits) (d.point - d.digits.length) := by
  obtain ⟨c, cs, hcs, hc⟩ := h.head
  have hfirst : Whole [c] := Or.inr ⟨fun x hx => h.digits x (by
    rw [hcs, List.mem_singleton.mp hx]
    exact List.mem_cons_self), c, [], rfl, hc⟩
  have hrest : ∀ x ∈ cs, isDigit x = true := fun x hx => h.digits x (by
    rw [hcs]
    exact List.mem_cons_of_mem c hx)
  obtain ⟨hne, hdigits, hvalue⟩ := exponent_digits (d.point - 1).natAbs
  have hsigned : signed (decide (d.point - 1 < 0))
      (if (Text.Integer.natChars (d.point - 1).natAbs).length < 2 then
        '0' :: Text.Integer.natChars (d.point - 1).natAbs
      else Text.Integer.natChars (d.point - 1).natAbs) = d.point - 1 := by
    rw [signed, hvalue]
    simp only [decide_eq_true_eq]
    split <;> omega
  simp only [Decimal.scientific, hcs]
  cases cs with
  | nil =>
    have hspells := spells_exponent (decide (d.point - 1 < 0)) hfirst hne hdigits
    rw [hsigned] at hspells
    simpa using hspells
  | cons x xs =>
    have hspells := spells_fraction_exponent (decide (d.point - 1 < 0)) hfirst (by simp) hrest hne
      hdigits
    rw [hsigned, show d.point - 1 - ((x :: xs).length : Int) = d.point - (c :: x :: xs).length by
      simp only [List.length_cons]
      omega] at hspells
    simpa using hspells

/-- The text of a finite number reads as the number. -/
theorem reads_finiteChars {m e : Nat} (hm : Binary64.Canonical m e) :
    (∃ d r, Decimal.finiteChars false m e = d :: r ∧ isDigit d = true) ∧
      ∀ negative rest, Ends rest → unsigned negative (Decimal.finiteChars false m e ++ rest) =
        .ok (.real (.finite negative m e), rest) := by
  have hspells : ∀ {cs : List Char} {n : Nat} {places : Int}, Spells cs n places → 0 < m →
      (Decimal.Interval.ofFinite m e).Holds n places →
      (∃ d r, cs = d :: r ∧ isDigit d = true) ∧ ∀ negative rest, Ends rest →
        unsigned negative (cs ++ rest) = .ok (.real (.finite negative m e), rest) := by
    intro cs n places h hpos hholds
    obtain ⟨count, hcount, hreads⟩ := h.reads
    refine ⟨h.head, fun negative rest hrest => ?_⟩
    rw [hreads negative rest hrest,
      Decimal.Interval.ofDecimal_of_holds negative hm hpos hcount hholds]
  simp only [Decimal.finiteChars, Bool.false_eq_true, if_false]
  split
  · next hzero =>
    obtain rfl : e = 0 := by
      by_contra hne
      have := hm.le_mantissa (Nat.pos_of_ne_zero hne)
      omega
    subst hzero
    refine ⟨⟨'0', ['.', '0'], rfl, by decide⟩, fun negative rest hrest => ?_⟩
    rw [← Binary64.ofDecimal_zero negative]
    exact unsigned_fraction negative (Or.inl rfl) (by simp) (List.forall_mem_singleton.mpr rfl)
      hrest
  · next hne =>
    have hpos := Nat.pos_of_ne_zero hne
    obtain ⟨hleads, hholds⟩ := Decimal.shortest_spec (e := e) hpos hm.mantissa_lt
    split
    · obtain ⟨z, places, hplain, hplaces⟩ := spells_positional hleads
      refine hspells hplain hpos ((Decimal.Interval.holds_mul_pow _ _ _).mpr ?_)
      rwa [hplaces]
    · exact hspells (spells_scientific hleads) hpos hholds

end HdProvision.Json.Reader
