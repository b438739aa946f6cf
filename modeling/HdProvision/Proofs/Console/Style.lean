import HdProvision.Console.Style
import HdProvision.Proofs.Text.Integer

/-!
# Styled text on a console

What a console shows of a styled text that holds no control sequences itself. A console with colors is
told how the text starts and is reset behind it; without colors the text is all that is left.
-/

set_option autoImplicit false

namespace HdProvision.Console

/-- The numbers of the control sequences in front of a text. -/
def Style.codes (s : Style) : List Nat :=
  (s.color.map Color.code).toList ++ (s.bold.map fun b => if b then 1 else 22).toList

/-- What stands in front of a text. -/
def Style.start (s : Style) : List Char := s.codes.flatMap sequence

theorem Style.apply_eq (s : Style) (text : List Char) :
    s.apply text = s.start ++ (text ++ sequence 0) := by
  obtain ⟨color, bold⟩ := s
  cases color <;> cases bold <;> simp [apply, start, codes]

theorem stripFrom_nil (fuel : Nat) : stripFrom fuel [] = [] := by cases fuel <;> rfl

theorem stripFrom_append {cs : List Char} (h : escapeChar ∉ cs) (fuel : Nat) (rest : List Char) :
    stripFrom (cs.length + fuel) (cs ++ rest) = cs ++ stripFrom fuel rest := by
  induction cs with
  | nil => rw [List.length_nil, Nat.zero_add]; rfl
  | cons c cs ih =>
    rw [List.mem_cons, not_or] at h
    rw [List.length_cons, Nat.add_right_comm, List.cons_append, stripFrom, if_neg (Ne.symm h.1),
      ih h.2]
    rfl

theorem isParameter_of_isDigit {c : Char} (h : Json.Reader.isDigit c = true) :
    isParameter c = true := by
  simp only [Json.Reader.isDigit, isParameter, Bool.and_eq_true, decide_eq_true_eq] at h ⊢
  omega

theorem afterSequence?_sequence (n : Nat) (rest : List Char) :
    afterSequence? ('[' :: (Text.Integer.natChars n ++ 'm' :: rest)) = some rest := by
  rw [afterSequence?, List.dropWhile_append_of_pos fun c hc =>
    isParameter_of_isDigit (Text.Integer.isDigit_natChars n c hc)]
  rfl

/-- The whole of a control sequence is taken out at once. -/
theorem stripFrom_sequence (fuel n : Nat) (rest : List Char) :
    stripFrom (fuel + 1) (sequence n ++ rest) = stripFrom fuel rest := by
  have hsplit : sequence n ++ rest = escapeChar :: '[' :: (Text.Integer.natChars n ++ 'm' :: rest) := by
    simp [sequence]
  rw [hsplit, stripFrom, if_pos rfl, afterSequence?_sequence]

theorem stripFrom_sequences (ns : List Nat) (fuel : Nat) (rest : List Char) :
    stripFrom (ns.length + fuel) (ns.flatMap sequence ++ rest) = stripFrom fuel rest := by
  induction ns with
  | nil => rw [List.length_nil, Nat.zero_add]; rfl
  | cons n ns ih =>
    rw [List.length_cons, Nat.add_right_comm, List.flatMap_cons, List.append_assoc,
      stripFrom_sequence, ih]

theorem length_le_sequences (ns : List Nat) : ns.length ≤ (ns.flatMap sequence).length := by
  induction ns with
  | nil => exact Nat.le_refl _
  | cons n ns ih =>
    have hone : 1 ≤ (sequence n).length := Nat.le_add_left 1 _
    rw [List.length_cons, List.flatMap_cons, List.length_append]
    omega

/-- A line of any style, as consoles show it. -/
theorem shown_styled {text : List Char} (h : escapeChar ∉ text) (s : Style) (colors : Bool) :
    shown colors (s.apply text ++ ['\n']) =
      (if colors then s.start else []) ++ text ++ (if colors then sequence 0 else []) ++ ['\n'] := by
  have hline : s.apply text ++ ['\n'] = s.start ++ (text ++ (sequence 0 ++ ['\n'])) := by
    simp only [Style.apply_eq, List.append_assoc]
  rw [hline]
  cases colors with
  | true => simp [shown]
  | false =>
    have hcodes := length_le_sequences s.codes
    -- The fuel is the length of the line, more than a step for each sequence and each character.
    obtain ⟨fuel, hfuel⟩ : ∃ fuel, (s.start ++ (text ++ (sequence 0 ++ ['\n']))).length =
        s.codes.length + (text.length + (fuel + 1 + 1)) := by
      refine ⟨s.start.length - s.codes.length + 3, ?_⟩
      rw [List.length_append, List.length_append, show (sequence 0 ++ ['\n']).length = 5 from rfl]
      have hstart : s.codes.length ≤ s.start.length := hcodes
      omega
    rw [shown, if_neg Bool.false_ne_true, strip, hfuel, Style.start, stripFrom_sequences,
      stripFrom_append h, stripFrom_sequence, stripFrom, if_neg (by decide), stripFrom_nil]
    simp

end HdProvision.Console
