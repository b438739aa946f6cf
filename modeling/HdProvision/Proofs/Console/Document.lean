import HdProvision.Console.Style
import HdProvision.Proofs.Json.Soundness

/-!
# A JSON document on the console

When what is printed is one JSON document with a line break, and when it is not. A document that
stands behind something else, or in front of a control sequence, is not read. Written texts hold no
control sequences, so a console without colors shows them as they are.
-/

set_option autoImplicit false

namespace HdProvision.Json

open Reader (Ends)

variable [Nesting]

/-- A text is one JSON document and a line break, and the document reads as the value. -/
def IsDocument (text : String) (v : Value) : Prop :=
  ∃ doc, text.toList = doc ++ ['\n'] ∧ read doc = .ok v

/-- With more behind it than white space a written value is not read. -/
theorem read_write_append {v : Value} (h : v.Sound) (hdepth : v.depth ≤ Nesting.reading) {rest : List Char}
    (hends : Ends rest) (hrest : Reader.skip rest ≠ []) :
    read (write v ++ rest) = .error .malformed := by
  have hsize : v.size ≤ (Writer.value 0 v rest).length + 1 :=
    Nat.le_trans (Nat.le_add_right _ _) (Writer.size_le 0 v rest)
  rw [write, ← Writer.value_append, read, Reader.skip_value (Reader.startsValue_value 0 h hends),
    Reader.value_written _ _ 0 v rest h hsize hdepth hends]
  exact if_neg hrest

/-- No value starts with a letter of this kind or with a control sequence. -/
theorem read_of_head {c : Char} (hc : c = 'V' ∨ c = Console.escapeChar) (cs : List Char) :
    read (c :: cs) = .error .malformed := by
  rcases hc with rfl | rfl <;> rfl

theorem not_isDocument_of_head {text : String} {c : Char} {cs : List Char}
    (hc : c = 'V' ∨ c = Console.escapeChar) (htext : text.toList = c :: cs) (v : Value) :
    ¬ IsDocument text v := by
  rintro ⟨doc, hdoc, hread⟩
  cases doc with
  | nil =>
    rw [htext] at hdoc
    obtain rfl : c = '\n' := (List.cons.inj hdoc).1
    rcases hc with hc | hc <;> exact absurd hc (by decide)
  | cons c' doc =>
    rw [htext] at hdoc
    obtain rfl : c = c' := (List.cons.inj hdoc).1
    rw [read_of_head hc] at hread
    cases hread

/-- A written value is a document for itself alone. -/
theorem isDocument_write_iff {v : Value} (h : v.Sound) (hdepth : v.depth ≤ Nesting.reading)
    (w : Value) :
    IsDocument (String.ofList (write v ++ ['\n'])) w ↔ w = v := by
  constructor
  · rintro ⟨doc, hdoc, hread⟩
    rw [String.toList_ofList] at hdoc
    rw [← List.append_cancel_right hdoc, read_write h hdepth] at hread
    cases hread
    rfl
  · rintro rfl
    exact ⟨write w, String.toList_ofList, read_write h hdepth⟩

/-- Behind a written value stands a control sequence. -/
theorem not_isDocument_sequence {v : Value} (h : v.Sound) (hdepth : v.depth ≤ Nesting.reading)
    (n : Nat) (w : Value) : ¬ IsDocument (String.ofList (write v ++ Console.sequence n ++ ['\n'])) w := by
  rintro ⟨doc, hdoc, hread⟩
  rw [String.toList_ofList] at hdoc
  obtain rfl := (List.append_cancel_right hdoc).symm
  have hends : Ends (Console.sequence n) := Reader.ends_cons (by decide) _
  have hskip : Reader.skip (Console.sequence n) = Console.sequence n :=
    Reader.skip_of_not_space (by decide) _
  rw [read_write_append h hdepth hends (hskip ▸ nofun)] at hread
  cases hread

end HdProvision.Json

namespace HdProvision.Json.Writer

open Console (escapeChar)

theorem escape_not_mem_hexDigits (width n : Nat) : escapeChar ∉ Utf8.hexDigits width n := by
  have hdigit : ∀ d, d < 16 → escapeChar ≠ Utf8.hexDigit d := by decide
  induction width generalizing n with
  | zero => exact List.not_mem_nil
  | succ width ih =>
    rw [Utf8.hexDigits, List.mem_append, List.mem_singleton, not_or]
    exact ⟨ih _, hdigit _ (Nat.mod_lt _ (by decide))⟩

theorem escape_not_mem_unit (u : UInt16) : escapeChar ∉ unit u := by
  rcases Reader.unit_cases u with ⟨c, hunit, -, hc⟩ | ⟨hunit, hlow, hhigh, -⟩ | hunit
  · have hne : escapeChar ≠ c := by
      rintro rfl
      cases hc
    rw [hunit, List.mem_cons, List.mem_singleton, not_or]
    exact ⟨by decide, hne⟩
  · have hne : escapeChar ≠ Char.ofNat u.toNat := by
      intro heq
      have hcode : (Char.ofNat u.toNat).toNat = u.toNat := by
        rw [Char.ofNat, dif_pos (Or.inl (by omega))]
        rfl
      have hescape : u.toNat = 27 := hcode.symm.trans (congrArg Char.toNat heq.symm)
      omega
    rwa [hunit, List.mem_singleton]
  · rw [hunit, List.mem_cons, List.mem_cons, not_or, not_or]
    exact ⟨by decide, by decide, escape_not_mem_hexDigits 4 u.toNat⟩

/-- A text adds no control sequence to what follows it. -/
theorem escape_mem_text (us : Units) (rest : List Char) :
    escapeChar ∈ text us rest ↔ escapeChar ∈ rest := by
  have hunits : escapeChar ∉ us.flatMap unit := fun hmem => by
    obtain ⟨u, -, hu⟩ := List.mem_flatMap.mp hmem
    exact escape_not_mem_unit u hu
  have hquote : escapeChar ≠ '"' := by decide
  simp only [text, List.cons_append, List.mem_cons, List.mem_append, hunits, hquote, false_or]

theorem escape_not_mem_line (depth : Nat) : escapeChar ∉ line depth := by
  rw [line, List.mem_cons, List.mem_replicate, not_or, not_and]
  exact ⟨by decide, fun _ => by decide⟩

end HdProvision.Json.Writer
