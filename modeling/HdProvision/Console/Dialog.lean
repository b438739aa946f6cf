import HdProvision.Text.Split

/-!
# Dialogs

Questions to the operator, answered by the lines of the input. A dialog is a function of the lines:
it has a result, prints something, and leaves the lines that it did not read. Every dialog reads a
line per question and ends when the lines do.

`passphrase` is the exchange that asks for a passphrase and its confirmation, at most a given number
of times; `twice` asks for a password until it was typed twice in a row.
-/

set_option autoImplicit false

namespace HdProvision.Console

/-- What came of a dialog. -/
structure Dialog (α : Type) where
  result : α
  printed : String
  rest : List String
  deriving DecidableEq, Repr

namespace Dialog

/-- The dialog that printed something before. -/
def after {α : Type} (text : String) (d : Dialog α) : Dialog α :=
  { d with printed := text ++ d.printed }

end Dialog

/-- The lines of a text, each with its line break if it has one. -/
def linesFrom (line : List Char) : List Char → List String
  | [] => if line = [] then [] else [String.ofList line.reverse]
  | c :: cs =>
    if c = '\n' then String.ofList (c :: line).reverse :: linesFrom [] cs
    else linesFrom (c :: line) cs

def lines (s : String) : List String := linesFrom [] s.toList

/-- The text of a line without its break. -/
def lineText (line : String) : String :=
  String.ofList (line.toList.reverse.dropWhile fun c => c = '\n' || c = '\r').reverse

/-- What a question prints when its answer is not shown. -/
def hiddenLine (prompt : String) : String := prompt ++ "\n"

/-- What a question prints when there is no answer any more. -/
def hiddenEnd (prompt : String) : String := prompt ++ "\n\n"

/-- Asks once; any line is an answer. -/
def once (prompt : String) : List String → Dialog (Option String)
  | [] => ⟨none, hiddenEnd prompt, []⟩
  | l :: ls => ⟨some (lineText l), hiddenLine prompt, ls⟩

/-- Asks once and shows the answer. -/
def visible (prompt : String) : List String → Dialog (Option String)
  | [] => ⟨none, prompt, []⟩
  | l :: ls => ⟨some (lineText l), prompt ++ lineText l ++ "\n", ls⟩

/-- Asks until a line is not empty. -/
def filled (prompt : String) : List String → Dialog (Option String)
  | [] => ⟨none, hiddenEnd prompt, []⟩
  | l :: ls =>
    if lineText l = "" then (filled prompt ls).after (hiddenLine prompt)
    else ⟨some (lineText l), hiddenLine prompt, ls⟩

/-- What is asked for a password and its repetition, and what is printed when they differ. -/
structure Confirmation where
  prompt : String
  again : String
  differ : String
  deriving DecidableEq, Repr

/-- Asks for a password until it is typed twice in a row; empty lines do not count. `typed` is the
password that waits for its repetition. -/
def twice (c : Confirmation) (typed : Option String) : List String → Dialog (Option String)
  | [] => ⟨none, hiddenEnd (if typed.isSome then c.again else c.prompt), []⟩
  | l :: ls =>
    match typed with
    | none =>
      (twice c (if lineText l = "" then none else some (lineText l)) ls).after (hiddenLine c.prompt)
    | some p =>
      if lineText l = "" then (twice c (some p) ls).after (hiddenLine c.again)
      else if lineText l = p then ⟨some p, hiddenLine c.again, ls⟩
      else (twice c none ls).after (hiddenLine c.again ++ c.differ)

/-- How the exchange for a passphrase ended. -/
inductive PassphraseEnd
  | agreed (passphrase : String) (attempts : Nat)
  | exhausted (attempts : Nat)
  | noPassphrase
  | noConfirmation
  deriving DecidableEq, Repr

/-- Asks for a passphrase and its confirmation, anew when they differ, until `limit` attempts have
failed. An empty passphrase is an answer like any other. `attempts` counts those begun, and `typed`
is the passphrase that waits for its confirmation. -/
def passphrase (c : Confirmation) (limit : Int) (attempts : Nat) (typed : Option String) :
    List String → Dialog PassphraseEnd
  | [] =>
    if typed.isSome then ⟨.noConfirmation, hiddenEnd c.again, []⟩
    else ⟨.noPassphrase, hiddenEnd c.prompt, []⟩
  | l :: ls =>
    match typed with
    | none => (passphrase c limit (attempts + 1) (some (lineText l)) ls).after (hiddenLine c.prompt)
    | some p =>
      if lineText l = p then ⟨.agreed p attempts, hiddenLine c.again, ls⟩
      else if limit ≤ attempts then ⟨.exhausted attempts, hiddenLine c.again, ls⟩
      else (passphrase c limit attempts none ls).after (hiddenLine c.again ++ c.differ)

end HdProvision.Console
