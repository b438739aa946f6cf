import HdProvision.Proofs.Console.Repetition
import HdProvision.Proofs.Provision.Collecting
import HdProvision.Proofs.Provision.Stages
import HdProvision.Proofs.Text.Numeral

/-!
# How asking for the database password ends

Asking for the database password ends by what was typed alone: with the first password that is typed
twice in a row, empty lines left out, or with the end of the input. For both ends it is told which
lines were read and what was printed. A password of nothing but white space is refused afterwards.
-/

set_option autoImplicit false

namespace HdProvision.Provision

open Console (AgreesFirst Emitter count_differ_pieces filledLines hiddenEnd hiddenLine lineText
  pieces told)
open Text (isBlank)

namespace Collect

variable {e : Emitter} {s : Session} {k : Nat} {p : String}

/-- What is printed before the password is asked for, and while it is not settled. -/
def passwordText (e : Emitter) (s : Session) (ls : List String) : String :=
  e.said s.colors .white dbPasswordNotice ++ told (passwordConfirmation s.colors) (pieces false ls)

/-- The session after the password was asked for. -/
def afterPassword (e : Emitter) (s : Session) : Session :=
  asked s (e.said s.colors .white dbPasswordNotice)
    (Console.twice (passwordConfirmation s.colors) none)

theorem start_dbPassword_settled (hunset : s.environment.lookup dbPasswordVariable = none)
    (hfirst : AgreesFirst (filledLines s.input) k p) :
    ∃ front l, (dbPassword e true (some dbPasswordVariable)).start s = (.ok p, afterPassword e s) ∧
      s.input = front ++ l :: (afterPassword e s).input ∧ lineText l = p ∧
      (filledLines front).length = 2 * k + 1 ∧
      (afterPassword e s).output = s.output ++ (passwordText e s front ++
        hiddenLine (promptShown s.colors repeatQuestion)) := by
  rcases Console.reads_cases none s.input with
    ⟨b, hread⟩ | ⟨front, d, l, back, hinput, hread, hl, heq⟩
  · obtain ⟨hdiffer, -⟩ := Console.twice_ended (c := passwordConfirmation s.colors) hread
    exact absurd hfirst (Console.not_agreesFirst_of_differ hdiffer)
  · obtain ⟨m, hagrees, hlength, hdialog⟩ :=
      Console.twice_settled (c := passwordConfirmation s.colors) hread hl heq back
    rw [← hinput] at hagrees hdialog
    obtain ⟨rfl, rfl⟩ := hagrees.unique hfirst
    refine ⟨front, l, ?_, ?_, rfl, hlength, ?_⟩
    · rw [start_dbPassword_of_none hunset, hdialog]
      rfl
    · simpa [afterPassword, asked, Session.conversed, hdialog] using hinput
    · simp [afterPassword, asked, Session.conversed, Session.printed, hdialog, passwordText,
        String.append_assoc]
      rfl

theorem start_dbPassword_ended (hunset : s.environment.lookup dbPasswordVariable = none)
    (hnone : ∀ k p, ¬ AgreesFirst (filledLines s.input) k p) :
    (dbPassword e true (some dbPasswordVariable)).start s =
        (.error (.inputFailed .dbPassword), afterPassword e s) ∧ (afterPassword e s).input = [] ∧
      (afterPassword e s).output = s.output ++ (passwordText e s s.input ++
        hiddenEnd (promptShown s.colors (if (filledLines s.input).length % 2 = 0 then
          dbPasswordQuestion else repeatQuestion))) := by
  rcases Console.reads_cases none s.input with
    ⟨b, hread⟩ | ⟨front, d, l, back, hinput, hread, hl, heq⟩
  · obtain ⟨-, hdialog⟩ := Console.twice_ended (c := passwordConfirmation s.colors) hread
    refine ⟨?_, ?_, ?_⟩
    · rw [start_dbPassword_of_none hunset, hdialog]
      rfl
    · simp [afterPassword, asked, Session.conversed, hdialog]
    · by_cases heven : (filledLines s.input).length % 2 = 0 <;>
        simp only [afterPassword, asked, Session.conversed, Session.printed, hdialog, passwordText, heven,
          String.append_assoc, if_true, if_false] <;> rfl
  · obtain ⟨m, hagrees, -⟩ :=
      Console.twice_settled (c := passwordConfirmation s.colors) hread hl heq back
    rw [← hinput] at hagrees
    exact absurd hagrees (hnone _ _)

end Collect

namespace Flow

variable {q : Request} {s t : Session}

/-- A password is blank when it has nothing but white space. -/
theorem isBlankPassword_eq (p : String) : isBlankPassword p = p.toList.all isBlank := by
  rw [Bool.eq_iff_iff, isBlankPassword, decide_eq_true_eq, Text.strip, ← String.toList_inj,
    String.toList_ofList, List.all_eq_true]
  exact Text.trim_eq_nil_iff

theorem start_refusal (p : String) (s : Session) :
    (do
      if isBlankPassword p then throw (.config .blankPassword)
      return p : Program Error String).start s =
    (if p.toList.all isBlank then .error (.config .blankPassword) else .ok p, s) := by
  rw [isBlankPassword_eq]
  by_cases hblank : p.toList.all isBlank
  · rw [if_pos hblank, if_pos hblank]
    rfl
  · rw [if_neg hblank, if_neg hblank]
    rfl

/-- A password that was asked for is refused when it is blank. -/
theorem start_dbPassword_of_asked {r : Except Error String} (hmissing : q.dbPassword = none)
    (hinteractive : q.interactive = true)
    (hasked : (Collect.dbPassword q.emitter true (some Collect.dbPasswordVariable)).start s =
      (r, t)) : (dbPassword q).start s = (r.bind fun p =>
        if p.toList.all isBlank then .error (.config .blankPassword) else .ok p, t) := by
  have hrequire : (require q.interactive .dbPassword).start s = (.ok (), s) := by
    rw [require, if_pos hinteractive]
    rfl
  rw [dbPassword, hmissing]
  dsimp only
  rw [Program.start_bind_of_ok hrequire]
  cases r with
  | error fault =>
    rw [Program.start_bind_of_error hasked]
    rfl
  | ok p =>
    rw [Program.start_bind_of_ok hasked]
    exact start_refusal p t

end Flow

open Collect (dbPasswordQuestion dbPasswordVariable passwordText promptShown repeatQuestion)

/-- How asking for the database password ends when it was not supplied and its variable is not set. The
lines that are not empty are taken by twos. If the texts of the `k`-th two are the first that are
equal, the text is the password, and nothing behind the second of these lines was read; if no two are
equal, all input was read and asking fails. That the texts differ is said once for each two before, and
nothing else is printed but the notice and a question for each line. The password is then refused if it
has nothing but white space, and taken else. -/
theorem Collect.password_exchange {e : Emitter} {q : Request} {s t : Session}
    {r : Except Error String} (hunset : s.environment.lookup dbPasswordVariable = none)
    (hmissing : q.dbPassword = none) (hinteractive : q.interactive = true) (hemitter : q.emitter = e)
    (hrun : (Collect.dbPassword e true (some dbPasswordVariable)).start s = (r, t)) :
    (∀ k p, AgreesFirst (filledLines s.input) k p → r = .ok p ∧
      ∃ front l, s.input = front ++ l :: t.input ∧ lineText l = p ∧
        (filledLines front).length = 2 * k + 1 ∧ (pieces false front).count .differ = k ∧
        t.output = s.output ++ (passwordText e s front ++
          hiddenLine (promptShown s.colors repeatQuestion))) ∧
    ((∀ k p, ¬ AgreesFirst (filledLines s.input) k p) →
      r = .error (.inputFailed .dbPassword) ∧ t.input = [] ∧
        (pieces false s.input).count .differ = (filledLines s.input).length / 2 ∧
        t.output = s.output ++ (passwordText e s s.input ++
          hiddenEnd (promptShown s.colors (if (filledLines s.input).length % 2 = 0 then
            dbPasswordQuestion else repeatQuestion)))) ∧
    (∀ p, r = .ok p → (Flow.dbPassword q).start s =
      (if p.toList.all isBlank then .error (.config .blankPassword) else .ok p, t)) ∧
    ∀ fault, r = .error fault → (Flow.dbPassword q).start s = (.error fault, t) := by
  have htaken := Flow.start_dbPassword_of_asked hmissing hinteractive (hemitter ▸ hrun)
  refine ⟨?settled, ?ended, ?_, ?_⟩
  case settled =>
    intro k p hfirst
    obtain ⟨front, l, hstart, hinput, hl, hlength, houtput⟩ :=
      Collect.start_dbPassword_settled (e := e) hunset hfirst
    obtain ⟨rfl, rfl⟩ := Prod.mk.inj (hrun.symm.trans hstart)
    refine ⟨rfl, front, l, hinput, hl, hlength, ?_, houtput⟩
    rw [count_differ_pieces, hlength]
    simp
    omega
  case ended =>
    intro hnone
    obtain ⟨hstart, hinput, houtput⟩ := Collect.start_dbPassword_ended (e := e) hunset hnone
    obtain ⟨rfl, rfl⟩ := Prod.mk.inj (hrun.symm.trans hstart)
    refine ⟨rfl, hinput, ?_, houtput⟩
    rw [count_differ_pieces]
    simp
  · rintro p rfl
    exact htaken
  · rintro fault rfl
    exact htaken

/-- Somebody types one letter a line, and now and then nothing. -/
def letters : List String := ["\n", "a\n", "b\n", "c\n", "\n", "c\n", "d\n"]

/-- A request without a password, which may be asked for. -/
def asking : Request where
  dbPassword := none
  language := "english"
  consumingPath := defaultConsumingPath
  earning := .text defaultEarningPath
  passphrase := some ""
  owner := .null
  emitter := ⟨1⟩
  interactive := true

theorem agreesFirst_letters : AgreesFirst (filledLines letters) 1 "c" := by
  have hexchanges : Console.exchanges (filledLines letters) = [("a", "b"), ("c", "c")] := by decide
  refine ⟨congrArg (fun qs => qs[1]?) hexchanges, fun i hi => ?_⟩
  obtain rfl : i = 0 := Nat.lt_one_iff.mp hi
  exact ⟨("a", "b"), congrArg (fun qs => qs[0]?) hexchanges, by decide⟩

/-- The second two of the letters are equal, and the line behind them is not read. -/
theorem Collect.password_exchange_letters : ∃ t,
    (Session.bare letters).environment.lookup dbPasswordVariable = none ∧
      asking.dbPassword = none ∧ asking.interactive = true ∧ asking.emitter = ⟨1⟩ ∧
      (Collect.dbPassword ⟨1⟩ true (some dbPasswordVariable)).start (.bare letters) = (.ok "c", t) ∧
      t.input = ["d\n"] ∧ (Flow.dbPassword asking).start (.bare letters) = (.ok "c", t) := by
  obtain ⟨r, t, hrun⟩ : ∃ r t, (Collect.dbPassword ⟨1⟩ true (some dbPasswordVariable)).start
      (.bare letters) = (r, t) := ⟨_, _, rfl⟩
  obtain ⟨hsettled, -, htaken, -⟩ := Collect.password_exchange (q := asking) rfl rfl rfl rfl hrun
  obtain ⟨rfl, -⟩ := hsettled 1 "c" agreesFirst_letters
  have hrest : t.input = ["d\n"] := by
    rw [Collect.start_dbPassword_of_none rfl] at hrun
    rw [← (Prod.mk.inj hrun).2]
    decide
  have hflow := htaken "c" rfl
  rw [if_neg (by decide)] at hflow
  exact ⟨t, rfl, rfl, rfl, rfl, hrun, hrest, hflow⟩

end HdProvision.Provision
