import HdProvision.Proofs.Console.Dialog
import HdProvision.Proofs.Session.Effects
import HdProvision.Provision.Collect

/-!
# What asking comes to

The programs that ask for secrets, as functions of the session: what they print, which dialog they
have, and what they do with its result. An answer is the text of a line.
-/

set_option autoImplicit false

namespace HdProvision.Provision.Collect

open Console (Confirmation Dialog Emitter PassphraseEnd Typed)

/-- A question as a console shows it. -/
def promptShown (colors : Bool) (text : String) : String :=
  String.ofList (Console.shown colors (text.toList ++ [':'])) ++ " "

/-- The session after something was printed and a dialog was had. -/
def asked {α : Type} (s : Session) (notice : String) (dialog : List String → Dialog α) : Session :=
  (s.printed notice).conversed (dialog s.input)

/-- The texts of the exchange for a passphrase. -/
def PassphraseRequest.confirmation (request : PassphraseRequest) (e : Emitter) (colors : Bool) :
    Confirmation :=
  ⟨promptShown colors request.question, promptShown colors confirmQuestion,
    e.said colors .red passphrasesDiffer⟩

/-- The exchange for a passphrase. -/
def PassphraseRequest.dialog (request : PassphraseRequest) (e : Emitter) (limit : Int)
    (colors : Bool) : List String → Dialog PassphraseEnd :=
  Console.passphrase (request.confirmation e colors) limit 0 none

/-- What is logged when a passphrase was confirmed. -/
def confirmedNote (attempts : Nat) : String :=
  "Mnemonic passphrase confirmed after " ++ toString attempts ++ " attempt(s)"

/-- Takes a confirmed passphrase; an empty one has to be acknowledged. -/
def accept (e : Emitter) (p : String) : Program Error String := do
  if p = "" then
    e.say .yellow noPassphraseWarning
    acknowledge
  return p

variable {e : Emitter} {s t : Session} {p : String}

theorem start_acknowledge (s : Session) : acknowledge.start s =
    (if s.input = [] then .error (.inputFailed .acknowledgement) else .ok (),
      s.conversed (Console.visible acknowledgeQuestion s.input)) := by
  rw [acknowledge, Program.start_bind_of_ok (Session.start_converse _ s)]
  cases s.input with
  | nil => rfl
  | cons l ls => rfl

theorem start_accept (e : Emitter) (p : String) (s : Session) : (accept e p).start s =
    if p = "" then
      (if s.input = [] then .error (.inputFailed .acknowledgement) else .ok p,
        asked s (e.said s.colors .yellow noPassphraseWarning)
          (Console.visible acknowledgeQuestion))
    else (.ok p, s) := by
  rw [accept]
  split
  · rw [Program.start_bind_of_ok (Emitter.start_say e _ _ s), Program.start_bind,
      start_acknowledge, asked, Session.printed]
    by_cases hinput : s.input = []
    · simp only [if_pos hinput]
    · simp only [if_neg hinput]
      rfl
  · rfl

theorem start_passphrase (e : Emitter) (request : PassphraseRequest) (limit : Int) (s : Session) :
    (passphrase e request limit).start s =
      match (request.dialog e limit s.colors s.input).result with
      | .noPassphrase => (.error (.inputFailed .passphrase),
          asked s (e.said s.colors .white request.notice) (request.dialog e limit s.colors))
      | .noConfirmation => (.error (.inputFailed .confirmation),
          asked s (e.said s.colors .white request.notice) (request.dialog e limit s.colors))
      | .exhausted attempts => (.error (.retriesExhausted attempts),
          asked s (e.said s.colors .white request.notice) (request.dialog e limit s.colors))
      | .agreed p attempts => (accept e p).start
          ((asked s (e.said s.colors .white request.notice) (request.dialog e limit s.colors)).noted
            .debug Emitter.source (confirmedNote attempts)) := by
  rw [passphrase, Program.start_bind_of_ok (Emitter.start_say e _ _ s),
    Program.start_bind_of_ok (Program.start_get _),
    Program.start_bind_of_ok (Session.start_converse _ _)]
  change (match (request.dialog e limit s.colors s.input).result with
    | .noPassphrase => _
    | .noConfirmation => _
    | .exhausted attempts => _
    | .agreed p attempts => _ : Program Error String).start _ = _
  split <;> rfl

theorem start_words (e : Emitter) (s : Session) : (words e).start s =
    (match (Console.filled (promptShown s.colors phraseQuestion) s.input).result with
      | some phrase => .ok (Text.words phrase)
      | none => .error (.inputFailed .phrase),
      asked s (e.said s.colors .white phraseInstructions)
        (Console.filled (promptShown s.colors phraseQuestion))) := by
  rw [words, Program.start_bind_of_ok (Emitter.start_say e _ _ s),
    Program.start_bind_of_ok (Program.start_get _),
    Program.start_bind_of_ok (Session.start_converse _ _)]
  change (match (Console.filled (promptShown s.colors phraseQuestion) s.input).result with
    | some phrase => _
    | none => _ : Program Error (List String)).start _ = _
  split <;> rfl

/-- The texts of the exchange for the database password. -/
def passwordConfirmation (colors : Bool) : Confirmation :=
  ⟨promptShown colors dbPasswordQuestion, promptShown colors repeatQuestion, passwordsDiffer⟩

theorem start_dbPassword_of_some (h : s.environment.lookup dbPasswordVariable = some p) :
    (dbPassword e true (some dbPasswordVariable)).start s = (.ok p, s) := by
  have hvariable : (passwordVariable (some dbPasswordVariable)).start s = (.ok (some p), s) := by
    rw [← h]
    rfl
  have hpassword : (password dbPasswordQuestion (some dbPasswordVariable) true).start s =
      (.ok (some p), s) := by
    rw [password, Program.start_bind_of_ok hvariable]
    rfl
  rw [dbPassword, Program.start_bind_of_ok hvariable]
  exact Program.start_bind_of_ok hpassword _

theorem start_dbPassword_of_none (h : s.environment.lookup dbPasswordVariable = none) :
    (dbPassword e true (some dbPasswordVariable)).start s =
      (match (Console.twice (passwordConfirmation s.colors) none s.input).result with
        | some p => .ok p
        | none => .error (.inputFailed .dbPassword),
        asked s (e.said s.colors .white dbPasswordNotice)
          (Console.twice (passwordConfirmation s.colors) none)) := by
  have hvariable : ∀ u : Session, u.environment = s.environment →
      (passwordVariable (some dbPasswordVariable)).start u = (.ok none, u) := by
    intro u hu
    rw [← h, ← hu]
    rfl
  have hpassword : (password dbPasswordQuestion (some dbPasswordVariable) true).start
      (s.printed (e.said s.colors .white dbPasswordNotice)) =
      (.ok (Console.twice (passwordConfirmation s.colors) none s.input).result,
        asked s (e.said s.colors .white dbPasswordNotice)
          (Console.twice (passwordConfirmation s.colors) none)) := by
    rw [password, Program.start_bind_of_ok (hvariable (s.printed _) rfl)]
    rfl
  rw [dbPassword, Program.start_bind_of_ok (hvariable s rfl)]
  change ((e.say .white dbPasswordNotice : Program Error Unit) >>= _).start s = _
  rw [Program.start_bind_of_ok (Emitter.start_say e _ _ s), Program.start_bind_of_ok hpassword]
  cases (Console.twice (passwordConfirmation s.colors) none s.input).result with
  | none => rfl
  | some p => rfl

theorem typed_of_passphrase {request : PassphraseRequest} {limit : Int}
    (h : (passphrase e request limit).start s = (.ok p, t)) : Typed s.input p := by
  rw [start_passphrase] at h
  split at h
  · cases h
  · cases h
  · cases h
  · next q attempts hagreed =>
    have htyped := Console.typed_passphrase hagreed
    rw [start_accept] at h
    split at h
    · split at h
      · cases h
      · cases h
        exact htyped
    · cases h
      exact htyped

theorem typed_of_dbPassword (hnone : s.environment.lookup dbPasswordVariable = none)
    (h : (dbPassword e true (some dbPasswordVariable)).start s = (.ok p, t)) :
    Typed s.input p := by
  rw [start_dbPassword_of_none hnone] at h
  cases htwice : (Console.twice (passwordConfirmation s.colors) none s.input).result with
  | none =>
    rw [htwice] at h
    cases h
  | some q =>
    rw [htwice] at h
    cases h
    exact Console.typed_twice htwice

end HdProvision.Provision.Collect
