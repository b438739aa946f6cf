import HdProvision.Proofs.Console.Exchange

/-!
# A password that is typed twice, line by line

Of the lines that the dialog reads only those that are not empty count, and these are taken by twos, as
in the exchange for a passphrase. The dialog ends with the first two that are equal, or with the lines.
What it prints is a piece for each line, and one more after each two that differ.
-/

set_option autoImplicit false

namespace HdProvision.Console

/-- The lines that are not empty. -/
def filledLines (ls : List String) : List String := ls.filter fun l => lineText l ≠ ""

/-- What the dialog prints, one piece after another. -/
inductive Piece
  | question
  | again
  | differ
  deriving DecidableEq, Repr

def Piece.text (c : Confirmation) : Piece → String
  | question => hiddenLine c.prompt
  | again => hiddenLine c.again
  | differ => c.differ

def told (c : Confirmation) : List Piece → String
  | [] => ""
  | p :: ps => p.text c ++ told c ps

/-- What is printed while lines are read and the password is not settled; `waits` tells that one was
typed and waits for its repetition. -/
def pieces (waits : Bool) : List String → List Piece
  | [] => []
  | l :: ls =>
    if lineText l = "" then (if waits then .again else .question) :: pieces waits ls
    else if waits then .again :: .differ :: pieces false ls
    else .question :: pieces true ls

/-- Lines are read that do not settle the password. A line may wait for its repetition before, and one
may wait after. -/
inductive Reads : Option String → List String → Option String → Prop
  | nil (a : Option String) : Reads a [] a
  | blank {a b : Option String} {l : String} {ls : List String} (hl : lineText l = "")
      (hrest : Reads a ls b) : Reads a (l :: ls) b
  | first {b : Option String} {l : String} {ls : List String} (hl : lineText l ≠ "")
      (hrest : Reads (some l) ls b) : Reads none (l :: ls) b
  | second {b : Option String} {a l : String} {ls : List String} (hl : lineText l ≠ "")
      (hne : lineText l ≠ lineText a) (hrest : Reads none ls b) : Reads (some a) (l :: ls) b

variable {c : Confirmation} {a b : Option String} {l : String} {ls front : List String} {k : Nat}
  {p : String}

theorem filledLines_of_blank (hl : lineText l = "") : filledLines (l :: ls) = filledLines ls := by
  simp [filledLines, hl]

theorem filledLines_of_filled (hl : lineText l ≠ "") :
    filledLines (l :: ls) = l :: filledLines ls := by
  simp [filledLines, hl]

theorem filledLines_append (ls ls' : List String) :
    filledLines (ls ++ ls') = filledLines ls ++ filledLines ls' := List.filter_append ..

/-- Once for each two lines that are not empty it is said that they differ. -/
theorem count_differ_pieces (waits : Bool) (ls : List String) : (pieces waits ls).count .differ =
    ((if waits then 1 else 0) + (filledLines ls).length) / 2 := by
  induction ls generalizing waits with
  | nil => cases waits <;> rfl
  | cons l ls ih =>
    by_cases hl : lineText l = ""
    · rw [filledLines_of_blank hl, ← ih]
      cases waits <;> simp [pieces, hl]
    · rw [filledLines_of_filled hl, List.length_cons]
      cases waits
      · simp [pieces, hl, ih]
        omega
      · simp [pieces, hl, ih]
        omega

theorem twice_of_reads (h : Reads a front b) (rest : List String) : twice c (a.map lineText) (front ++ rest) =
    (twice c (b.map lineText) rest).after (told c (pieces a.isSome front)) := by
  induction h with
  | nil a => simp [pieces, told, after_empty]
  | @blank a b l ls hl _ ih =>
    cases a <;> simp_all [twice, pieces, told, Piece.text, after_after]
  | first hl _ ih => simp_all [twice, pieces, told, Piece.text, after_after]
  | second hl hne _ ih =>
    simp_all [twice, pieces, told, Piece.text, after_after, String.append_assoc]

/-- Lines that do not settle the password differ by twos, up to the one that waits. -/
theorem exchanges_of_reads (h : Reads a front b) : ∃ m,
    (a.toList ++ filledLines front).length = 2 * m + b.toList.length ∧
    ∀ ls, Differ m (a.toList ++ filledLines front ++ ls) ∧
      (exchanges (a.toList ++ filledLines front ++ ls)).drop m = exchanges (b.toList ++ ls) := by
  induction h with
  | nil a => exact ⟨0, by simp [filledLines], fun ls => ⟨by simp [Differ], by simp [filledLines]⟩⟩
  | blank hl _ ih => rwa [filledLines_of_blank hl]
  | first hl _ ih => simpa [filledLines_of_filled hl] using ih
  | @second b a l front hl hne _ ih =>
    obtain ⟨m, hlength, hrest⟩ := ih
    rw [Option.toList_none, List.nil_append] at hlength
    refine ⟨m + 1, by simp [filledLines_of_filled hl, hlength]; omega, fun ls => ?_⟩
    obtain ⟨hdiffer, hdrop⟩ := hrest ls
    rw [filledLines_of_filled hl]
    constructor
    · intro i hi
      cases i with
      | zero => exact ⟨_, rfl, hne.symm⟩
      | succ i => exact hdiffer i (by omega)
    · simpa [exchanges] using hdrop

/-- Reading goes on to the end, or to a line that repeats the one that waits. -/
theorem reads_cases (a : Option String) (ls : List String) : (∃ b, Reads a ls b) ∨
    ∃ front d l back, ls = front ++ l :: back ∧ Reads a front (some d) ∧ lineText l ≠ "" ∧
      lineText l = lineText d := by
  induction ls generalizing a with
  | nil => exact Or.inl ⟨a, .nil a⟩
  | cons l ls ih =>
    have hstep : ∀ {a' : Option String}, (∀ {front b}, Reads a' front b → Reads a (l :: front) b) →
        (∃ b, Reads a (l :: ls) b) ∨ ∃ front d l' back, l :: ls = front ++ l' :: back ∧
          Reads a front (some d) ∧ lineText l' ≠ "" ∧ lineText l' = lineText d := by
      intro a' hread
      rcases ih a' with ⟨b, hb⟩ | ⟨front, d, l', back, rfl, hfront, hl', heq⟩
      · exact Or.inl ⟨b, hread hb⟩
      · exact Or.inr ⟨l :: front, d, l', back, rfl, hread hfront, hl', heq⟩
    by_cases hl : lineText l = ""
    · exact hstep (.blank hl)
    · cases a with
      | none => exact hstep (.first hl)
      | some d =>
        by_cases heq : lineText l = lineText d
        · exact Or.inr ⟨[], d, l, ls, rfl, .nil _, hl, heq⟩
        · exact hstep (.second hl heq)

theorem AgreesFirst.unique {k' : Nat} {p' : String} (h : AgreesFirst ls k p)
    (h' : AgreesFirst ls k' p') : k = k' ∧ p = p' := by
  have hle : ∀ {k k' p p'}, AgreesFirst ls k p → AgreesFirst ls k' p' → ¬ k < k' := by
    intro k k' p p' h h' hlt
    obtain ⟨q, hq, hne⟩ := h'.before k hlt
    rw [h.agreed] at hq
    cases hq
    exact hne rfl
  obtain rfl : k = k' := by
    have hlt := hle h h'
    have hgt := hle h' h
    omega
  have hagreed := h.agreed.symm.trans h'.agreed
  simp only [Option.some.injEq, Prod.mk.injEq] at hagreed
  exact ⟨rfl, hagreed.1⟩

theorem not_agreesFirst_of_differ (h : Differ (ls.length / 2) ls) : ¬ AgreesFirst ls k p := by
  intro hagrees
  obtain ⟨hlt, -⟩ := List.getElem?_eq_some_iff.mp hagrees.agreed
  rw [length_exchanges] at hlt
  obtain ⟨q, hq, hne⟩ := h k hlt
  rw [hagrees.agreed] at hq
  cases hq
  exact hne rfl

/-- The dialog up to the line that repeats a password. -/
theorem twice_settled {d : String} (hread : Reads none front (some d)) (hl : lineText l ≠ "")
    (heq : lineText l = lineText d) (back : List String) : ∃ k,
      AgreesFirst (filledLines (front ++ l :: back)) k (lineText l) ∧
      (filledLines front).length = 2 * k + 1 ∧
      twice c none (front ++ l :: back) =
        ⟨some (lineText l), told c (pieces false front) ++ hiddenLine c.again, back⟩ := by
  obtain ⟨m, hlength, hrest⟩ := exchanges_of_reads hread
  obtain ⟨hdiffer, hdrop⟩ := hrest (l :: filledLines back)
  simp only [Option.toList_none, List.nil_append] at hlength hdiffer hdrop
  rw [filledLines_append, filledLines_of_filled hl]
  refine ⟨m, ⟨?_, hdiffer⟩, by simpa using hlength, ?_⟩
  · have hhead := congrArg List.head? hdrop
    simpa [exchanges, heq] using hhead
  · have hdialog := twice_of_reads (c := c) hread (l :: back)
    have hd : lineText d ≠ "" := heq ▸ hl
    simpa [twice, hd, heq, Dialog.after] using hdialog

/-- The dialog when the lines end before a password is repeated. -/
theorem twice_ended (hread : Reads none ls b) :
    Differ ((filledLines ls).length / 2) (filledLines ls) ∧
      twice c none ls = ⟨none, told c (pieces false ls) ++
        hiddenEnd (if (filledLines ls).length % 2 = 0 then c.prompt else c.again), []⟩ := by
  obtain ⟨m, hlength, hrest⟩ := exchanges_of_reads hread
  obtain ⟨hdiffer, -⟩ := hrest []
  simp only [Option.toList_none, List.nil_append, List.append_nil] at hlength hdiffer
  have hdialog := twice_of_reads (c := c) hread []
  rw [List.append_nil] at hdialog
  cases b with
  | none =>
    have heven : (filledLines ls).length = 2 * m := by simpa using hlength
    refine ⟨by simpa [heven] using hdiffer, ?_⟩
    simpa [twice, Dialog.after, heven] using hdialog
  | some d =>
    have hodd : (filledLines ls).length = 2 * m + 1 := by simpa using hlength
    have hhalf : (2 * m + 1) / 2 = m := by omega
    refine ⟨by simpa [hodd, hhalf] using hdiffer, ?_⟩
    simpa [twice, Dialog.after, hodd, Nat.add_mod] using hdialog

end HdProvision.Console
