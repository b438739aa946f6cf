import Mathlib.Data.List.Basic
import HdProvision.Proofs.Session.Peers

/-!
# Messages are logged as they are

A template reads as the letters of a text, and names no field, exactly when it is the escaped text.
So whatever braces a message has, and whatever fields go with it, the event that observers receive
says the message, and two messages never share a template.
-/

set_option autoImplicit false

namespace HdProvision.Text.Template

/-- A text in which every `b` is written twice. -/
def doubled (b : Char) (cs : List Char) : List Char :=
  cs.flatMap fun c => if c = b then [c, c] else [c]

/-- The two kinds of braces may be doubled one after the other. -/
theorem toList_escape (s : String) : (escape s).toList = doubled '}' (doubled '{' s.toList) := by
  rw [escape, String.toList_ofList, doubled, doubled, List.flatMap_assoc]
  refine List.flatMap_congr fun c _ => ?_
  by_cases ho : c = '{'
  · subst ho
    simp [escapeChar]
  · by_cases hc : c = '}' <;> simp [escapeChar, ho, hc]

theorem map_eq_ok {p : Piece} {r : Except Fault (List Piece)} {ps : List Piece}
    (h : r.map (p :: ·) = .ok ps) : ∃ rest, r = .ok rest ∧ ps = p :: rest := by
  cases r with
  | error e => cases h
  | ok rest => exact ⟨rest, rfl, (Except.ok.inj h).symm⟩

/-- Inside a field the next piece is that field. -/
theorem field_of_piecesFrom {n cs : List Char} {ps : List Piece}
    (h : piecesFrom (some n) cs = .ok ps) : ∃ name rest, ps = .field name :: rest := by
  induction cs generalizing n with
  | nil => cases h
  | cons c cs ih =>
    rw [piecesFrom] at h
    split at h
    · obtain ⟨rest, -, rfl⟩ := map_eq_ok h
      exact ⟨_, rest, rfl⟩
    · split at h
      · cases h
      · exact ih h

/-- A letter in front of letters stands for itself. -/
theorem letters_cons {c : Char} {r : Except Fault (List Piece)} {cs : List Char}
    (h : r.map (.letter c :: ·) = .ok (cs.map .letter)) :
    ∃ cs', cs = c :: cs' ∧ r = .ok (cs'.map .letter) := by
  obtain ⟨rest, hr, heq⟩ := map_eq_ok h
  cases cs with
  | nil => cases heq
  | cons d cs =>
    obtain ⟨hd, hrest⟩ := List.cons.inj heq
    exact ⟨cs, by rw [Piece.letter.inj hd], hrest ▸ hr⟩

/-- A brace that is not doubled opens a field or is refused; any other letter stands for itself. -/
theorem piecesFrom_cons {c : Char} {cs : List Char} (ho : ∀ t, c = '{' → cs ≠ '{' :: t)
    (hc : ∀ t, c = '}' → cs ≠ '}' :: t) : piecesFrom none (c :: cs) =
      if c = '{' then piecesFrom (some []) cs
      else if c = '}' then .error .loneBrace
      else (piecesFrom none cs).map (.letter c :: ·) := by
  rw [piecesFrom]
  · exact ho
  · exact hc

/-- A template that names no field is the escaped text of its letters. -/
theorem eq_escape_of_pieces {t cs : List Char} (h : pieces t = .ok (cs.map .letter)) :
    t = cs.flatMap escapeChar := by
  rw [pieces] at h
  -- by the reader's own recursion; a brace that is not doubled leads to a field or to a fault
  generalize hn : (none : Option (List Char)) = n at h
  induction n, t using piecesFrom.induct generalizing cs with
  | case1 =>
    cases cs with
    | nil => rfl
    | cons c cs => cases h
  | case2 | case3 | case4 | case5 => cases hn
  | case6 t ih | case7 t ih =>
    rw [piecesFrom] at h
    obtain ⟨cs', rfl, hr⟩ := letters_cons h
    rw [ih rfl hr]
    rfl
  | case8 t ho hc =>
    rw [piecesFrom_cons ho hc, if_pos rfl] at h
    obtain ⟨name, rest, hfield⟩ := field_of_piecesFrom h
    cases cs with
    | nil => cases hfield
    | cons c cs => cases hfield
  | case9 t ho hc hne =>
    rw [piecesFrom_cons ho hc, if_neg hne, if_pos rfl] at h
    cases h
  | case10 c t ho hc hopen hclose ih =>
    rw [piecesFrom_cons ho hc, if_neg hopen, if_neg hclose] at h
    obtain ⟨cs', rfl, hr⟩ := letters_cons h
    rw [ih rfl hr]
    simp [escapeChar, hopen, hclose]

theorem pieces_eq_letters_iff {t cs : List Char} :
    pieces t = .ok (cs.map .letter) ↔ t = cs.flatMap escapeChar :=
  ⟨eq_escape_of_pieces, fun h => h ▸ pieces_escape cs⟩

theorem mapM_render?_letters (fields : List (String × String)) (cs : List Char) :
    (cs.map Piece.letter).mapM (Piece.render? fields) = some (cs.map ([·])) := by
  induction cs with
  | nil => rfl
  | cons c cs ih =>
    rw [List.map_cons, List.mapM_cons, ih]
    rfl

/-- An escaped text stands for the text, whatever fields there are. -/
theorem render?_escape (s : String) (fields : List (String × String)) :
    render? (escape s) fields = some s := by
  have hflat : (s.toList.map ([·])).flatten = s.toList := by
    rw [← List.flatMap_def, List.flatMap_singleton']
  rw [render?, escape, String.toList_ofList, pieces_escape]
  simp only [mapM_render?_letters, Option.map_some, hflat, String.ofList_toList]

theorem escape_eq_iff {s t : String} : escape s = escape t ↔ s = t := by
  refine ⟨fun h => ?_, congrArg escape⟩
  have hsame : render? (escape s) [] = render? (escape t) [] := by rw [h]
  rw [render?_escape, render?_escape] at hsame
  exact Option.some.inj hsame

end HdProvision.Text.Template

namespace HdProvision.Log

open Text.Template (doubled escape escape_eq_iff pieces pieces_eq_letters_iff render? render?_escape
  toList_escape)

namespace Event

variable (level : Level) (source : String) (message : Option String)
  (fields : List (String × String))

theorem text_ofMessage : (ofMessage level source message fields).text = messageText message := by
  rw [text, ofMessage, Text.Template.render?_escape]
  rfl

end Event

namespace Journal

/-- How many observers collect events. -/
def collectors (os : List Observer) : Nat := os.countP fun o => o.target = .collector

/-- Every observer that collects gets an event once, and no other observer adds to what is
collected. -/
theorem collected_deliverAll_eq (threshold : Level) (stamp : String) (e : Event)
    (os : List Observer) (collected : List Event) (files : Files) :
    (deliverAll threshold stamp e os collected files).2.1 =
      collected ++ List.replicate (collectors os) e := by
  induction os generalizing collected files with
  | nil => simp [deliverAll, collectors]
  | cons o os ih =>
    obtain ⟨id, target⟩ := o
    rw [deliverAll]
    simp only [ih]
    cases target with
    | collector => simp [deliver, collectors, List.replicate_succ]
    | console => simp [deliver, collectors]
    | text place | json place =>
      by_cases hpasses : e.level.passes threshold <;> simp [deliver, collectors, hpasses]

theorem printedBy_empty (os : List Bool) : printedBy "" os = "" := by
  induction os with
  | nil => rfl
  | cons prints os ih => simp [printedBy, ih]

section Emit

variable (stamp : String) (level : Level) (source : String) (message : Option String)
  (fields : List (String × String)) (j : Journal)

theorem collected_emit : (j.emit stamp level source message fields).1.collected =
    j.collected ++ List.replicate (if level.passes j.threshold then collectors j.observers else 0)
      (.ofMessage level source message fields) := by
  rw [emit]
  split
  · exact collected_deliverAll_eq ..
  · simp

theorem printed_emit : (j.emit stamp level source message fields).2 =
    printedBy (if level.passes j.threshold then
      (Event.ofMessage level source message fields).line stamp else "")
      (j.observers.map Observer.prints) := by
  rw [emit]
  split
  · next hpasses =>
    have hshown : shown j.threshold stamp (.ofMessage level source message fields) =
        (Event.ofMessage level source message fields).line stamp := if_pos hpasses
    rw [← hshown]
    exact (printed_deliverAll ..).1
  · exact (printedBy_empty _).symm

end Emit

/-- Escaping a text doubles its braces, one kind after the other. Of all templates the escaped text
alone reads as the letters of the text: it is well formed, names no field, and stands for the text
whatever fields there are; other texts have other templates. An event that is logged, with any
fields and in any journal, says its message: every observer that collects gets it once if its level
passes and not at all otherwise, and what the observers print are lines of it. -/
theorem logged_verbatim (text : String) :
    (escape text).toList = doubled '}' (doubled '{' text.toList) ∧
    (∀ template : String,
      pieces template.toList = .ok (text.toList.map .letter) ↔ template = escape text) ∧
    (∀ fields, render? (escape text) fields = some text) ∧
    (∀ other, escape other = escape text ↔ other = text) ∧
    ∀ (j : Journal) (stamp : String) (level : Level) (source : String) (message : Option String)
      (fields : List (String × String)), ∃ e : Event,
      e.level = level ∧ e.source = source ∧ e.fields = fields ∧
      e.template = escape (Event.messageText message) ∧ e.text = Event.messageText message ∧
      (j.emit stamp level source message fields).1.collected = j.collected ++
        List.replicate (if level.passes j.threshold then collectors j.observers else 0) e ∧
      (j.emit stamp level source message fields).2 =
        printedBy (if level.passes j.threshold then e.line stamp else "")
          (j.observers.map Observer.prints) := by
  refine ⟨toList_escape text, fun template => ?_, render?_escape text,
    fun other => escape_eq_iff, fun j stamp level source message fields => ?_⟩
  · rw [pieces_eq_letters_iff, escape, ← String.toList_inj, String.toList_ofList]
  · refine ⟨.ofMessage level source message fields, rfl, rfl, rfl, rfl,
      Event.text_ofMessage level source message fields, ?_, ?_⟩
    · exact collected_emit stamp level source message fields j
    · exact printed_emit stamp level source message fields j

end Journal
end HdProvision.Log
