import HdProvision.Proofs.Console.Pattern
import HdProvision.Proofs.Provision.Collecting
import HdProvision.Proofs.Session.Script

/-!
# Scripts of asking

What is printed and logged when a secret is asked for. The script is made from lines that stand for
those that were typed; only the line that was typed to go on after a warning is shown as it is.
-/

set_option autoImplicit false

namespace HdProvision.Provision

open Console (Dialog Emitter PassphraseEnd Stands put lineText)
open Session (Filling Piece Says)

variable {α : Type} {f : Filling} {s t : Session} {texts behind lines : List String}
  {σ : String → String}

/-- Lines that stand for those which a session has left, up to the ones that are never read. -/
def Follows (texts : List String) (σ : String → String) (behind : List String) (s : Session)
    (lines : List String) : Prop :=
  ∃ ls, s.input = ls ++ behind ∧ (∀ l ∈ ls, lineText l ∈ texts) ∧ lines = put σ ls

/-- What a dialog leaves, apart from the lines that are never read. -/
theorem Follows.rest {d : Dialog α} (h : Follows texts σ behind s lines)
    (hrest : d.rest <:+ s.input) (hbehind : behind <:+ d.rest) :
    ∃ ls rest, s.input = ls ++ behind ∧ (∀ l ∈ ls, lineText l ∈ texts) ∧ lines = put σ ls ∧
      d.rest = rest ++ behind ∧ ∀ l ∈ rest, lineText l ∈ texts := by
  obtain ⟨ls, hinput, hls, hlines⟩ := h
  obtain ⟨rest, hrest'⟩ := hbehind
  rw [hinput, ← hrest'] at hrest
  have hsuffix : rest <:+ ls := by
    obtain ⟨before, hbefore⟩ := hrest
    rw [← List.append_assoc] at hbefore
    exact ⟨before, List.append_cancel_right hbefore⟩
  exact ⟨ls, rest, hinput, hls, hlines, hrest'.symm, fun l hl => hls l (hsuffix.subset hl)⟩

namespace Collect

/-- The script of asking for a phrase. -/
def phraseScript (e : Emitter) (colors : Bool) (lines : List String) : List Piece :=
  [ .print (e.said colors .white phraseInstructions),
    .print (Console.filled (promptShown colors phraseQuestion) lines).printed ]

/-- The lines that are left when a phrase was asked for. -/
def phraseRest (colors : Bool) (lines : List String) : List String :=
  (Console.filled (promptShown colors phraseQuestion) lines).rest

theorem says_words (hσ : Stands texts σ) (h : Follows texts σ behind s lines) (e : Emitter)
    (hbehind : behind <:+ ((words e).start s).2.input) :
    Says f s ((words e).start s).2 (phraseScript e s.colors lines) ∧
      Follows texts σ behind ((words e).start s).2 (phraseRest s.colors lines) := by
  rw [start_words] at hbehind ⊢
  obtain ⟨ls, rest, hinput, hls, rfl, hrest, hkept⟩ := h.rest (Console.rest_filled _ _) hbehind
  rw [hinput] at hrest
  have hput := Console.filled_put hσ (promptShown s.colors phraseQuestion) hrest
  constructor
  · rw [phraseScript, hput, ← hinput]
    exact ⟨rfl, rfl, rfl, rfl⟩
  · rw [phraseRest, hput]
    refine ⟨rest, ?_, hkept, rfl⟩
    rw [← hinput] at hrest
    exact hrest

/-- After how many attempts a passphrase was confirmed. -/
def attemptsOf : PassphraseEnd → Option Nat
  | .agreed _ n => some n
  | _ => none

/-- Whether the confirmed passphrase is empty. -/
def confirmedEmpty : PassphraseEnd → Bool
  | .agreed p _ => p = ""
  | _ => false

theorem confirmedEmpty_map (hσ : Stands texts σ) (r : PassphraseEnd) :
    confirmedEmpty (r.map σ) = confirmedEmpty r := by
  cases r with
  | agreed p n => exact decide_eq_decide.mpr (hσ.empty p)
  | _ => rfl

/-- The text of the first line. -/
def firstText (lines : List String) : String := (lines.head?.map lineText).getD ""

/-- The script of accepting a passphrase that was confirmed. -/
def acceptScript (e : Emitter) (colors isEmpty passed : Bool) : List Piece :=
  if isEmpty then
    [.print (e.said colors .yellow noPassphraseWarning), .print acknowledgeQuestion] ++
      (if passed then [.acknowledgement] else [])
  else []

/-- The script of asking for a passphrase. -/
def passphraseScript (e : Emitter) (colors : Bool) (request : PassphraseRequest)
    (attempts : Option Nat) (passed : Bool) (lines : List String) : List Piece :=
  [ .print (e.said colors .white request.notice),
    .print (request.dialog e maxAttempts colors lines).printed ] ++
    match attempts with
    | none => []
    | some n => .note .debug Emitter.source (confirmedNote n) ::
        acceptScript e colors
          (confirmedEmpty (request.dialog e maxAttempts colors lines).result) passed

/-- The lines that are left when a passphrase was asked for. -/
def passphraseRest (e : Emitter) (colors : Bool) (request : PassphraseRequest)
    (lines : List String) : List String :=
  let d := request.dialog e maxAttempts colors lines
  if confirmedEmpty d.result then d.rest.tail else d.rest

theorem says_accept (e : Emitter) (p : String) (s : Session)
    (hf : f.acknowledgement = firstText s.input) :
    Says f s ((accept e p).start s).2
      (acceptScript e s.colors (p = "") ((accept e p).start s).1.isOk) := by
  rw [start_accept, acceptScript]
  by_cases hempty : p = ""
  · simp only [if_pos hempty, decide_eq_true hempty, if_true]
    cases hinput : s.input with
    | nil =>
      simp only [if_true]
      refine ⟨?_, rfl, rfl, rfl⟩
      change Session.Voice.mk (s.output ++ _ ++ (Console.visible acknowledgeQuestion s.input).printed)
        _ _ = _
      rw [hinput]
      rfl
    | cons l ls =>
      simp only [List.cons_ne_nil, if_false]
      refine ⟨?_, rfl, rfl, rfl⟩
      rw [hinput] at hf
      change Session.Voice.mk (s.output ++ _ ++ (Console.visible acknowledgeQuestion s.input).printed)
        _ _ = Session.Voice.mk (s.output ++ _ ++ acknowledgeQuestion ++ (f.acknowledgement ++ "\n")) _ _
      rw [hinput, hf]
      simp only [Console.visible, firstText, List.head?_cons, Option.map_some, Option.getD_some,
        String.append_assoc]
      rfl
  · simp only [if_neg hempty, decide_eq_false hempty, Bool.false_eq_true, if_false]
    exact .refl s

theorem input_accept (e : Emitter) (p : String) (s : Session) :
    ((accept e p).start s).2.input <:+ s.input := by
  rw [start_accept]
  split
  · exact Console.rest_visible _ _
  · exact List.suffix_refl _

theorem says_asked (s : Session) (notice : String) (dialog : List String → Dialog α) :
    Says f s (asked s notice dialog) [.print notice, .print (dialog s.input).printed] :=
  ⟨rfl, rfl, rfl, rfl⟩

/-- An empty passphrase takes a line to go on. -/
theorem follows_accept {e : Emitter} {p q : String} {rest : List String}
    (h : (accept e p).start s = (.ok q, t)) (hbehind : behind <:+ ((accept e p).start s).2.input)
    (hinput : s.input = rest ++ behind) (hrest : ∀ l ∈ rest, lineText l ∈ texts) :
    Follows texts σ behind t (if decide (p = "") then (put σ rest).tail else put σ rest) := by
  rw [h] at hbehind
  rw [start_accept] at h
  by_cases hempty : p = ""
  · rw [if_pos (decide_eq_true hempty)]
    rw [if_pos hempty] at h
    obtain ⟨hok, rfl⟩ := Prod.mk.inj h
    have hleft : (asked s (e.said s.colors .yellow noPassphraseWarning)
        (Console.visible acknowledgeQuestion)).input = s.input.tail := by
      change (Console.visible acknowledgeQuestion s.input).rest = _
      cases s.input <;> rfl
    rw [hleft, hinput] at hbehind
    cases rest with
    | nil =>
      cases behind with
      | nil =>
        rw [if_pos (show s.input = [] from hinput)] at hok
        cases hok
      | cons l ls => exact absurd hbehind.length_le (by simp)
    | cons l rest =>
      refine ⟨rest, ?_, fun l hl => hrest l (List.mem_cons_of_mem _ hl), rfl⟩
      rw [hleft, hinput]
      rfl
  · rw [if_neg (by simpa using hempty)]
    rw [if_neg hempty] at h
    cases h
    exact ⟨rest, hinput, hrest, rfl⟩

theorem says_passphrase (hσ : Stands texts σ) (h : Follows texts σ behind s lines) (e : Emitter)
    (request : PassphraseRequest)
    (hf : f.acknowledgement = firstText (request.dialog e maxAttempts s.colors s.input).rest)
    (hbehind : behind <:+ ((passphrase e request maxAttempts).start s).2.input) :
    Says f s ((passphrase e request maxAttempts).start s).2
        (passphraseScript e s.colors request
          (attemptsOf (request.dialog e maxAttempts s.colors s.input).result)
          ((passphrase e request maxAttempts).start s).1.isOk lines) ∧
      ∀ p t, (passphrase e request maxAttempts).start s = (.ok p, t) →
        Follows texts σ behind t (passphraseRest e s.colors request lines) := by
  have hkeeps : ((passphrase e request maxAttempts).start s).2.input <:+
      (request.dialog e maxAttempts s.colors s.input).rest := by
    rw [start_passphrase]
    split
    · exact List.suffix_refl _
    · exact List.suffix_refl _
    · exact List.suffix_refl _
    · exact input_accept e _ _
  obtain ⟨ls, rest, hinput, hls, rfl, hrest, hkept⟩ :=
    h.rest (Console.rest_passphrase _ _ _ _ _) (hbehind.trans hkeeps)
  have hput := Console.passphrase_put hσ (request.confirmation e s.colors) maxAttempts 0 none hls
    (hinput ▸ hrest)
  rw [Option.map_none, ← hinput] at hput
  change request.dialog e maxAttempts s.colors (put σ ls) =
    ⟨(request.dialog e maxAttempts s.colors s.input).result.map σ,
      (request.dialog e maxAttempts s.colors s.input).printed, put σ rest⟩ at hput
  unfold passphraseScript
  rw [passphraseRest, hput, confirmedEmpty_map hσ]
  rw [start_passphrase] at hbehind ⊢
  have hasked := says_asked (f := f) s (e.said s.colors .white request.notice)
    (request.dialog e maxAttempts s.colors)
  cases hresult : (request.dialog e maxAttempts s.colors s.input).result with
  | noPassphrase => exact ⟨hasked, nofun⟩
  | noConfirmation => exact ⟨hasked, nofun⟩
  | exhausted n => exact ⟨hasked, nofun⟩
  | agreed p n =>
    refine ⟨hasked.trans ((Says.note _ _ _ _).trans (says_accept e p _ hf)), fun q t hstart => ?_⟩
    rw [hresult] at hbehind
    exact follows_accept hstart hbehind hrest hkept

/-- The script of asking for the database password. -/
def passwordScript (e : Emitter) (colors : Bool) (lines : List String) : List Piece :=
  [ .print (e.said colors .white dbPasswordNotice),
    .print (Console.twice (passwordConfirmation colors) none lines).printed ]

/-- The lines that are left when the database password was asked for. -/
def passwordRest (colors : Bool) (lines : List String) : List String :=
  (Console.twice (passwordConfirmation colors) none lines).rest

theorem says_dbPassword (hσ : Stands texts σ) (h : Follows texts σ behind s lines) (e : Emitter)
    (hbehind :
      behind <:+ ((dbPassword e true (some dbPasswordVariable)).start s).2.input) :
    Says f s ((dbPassword e true (some dbPasswordVariable)).start s).2
        (if (s.environment.lookup dbPasswordVariable).isSome then []
          else passwordScript e s.colors lines) ∧
      Follows texts σ behind ((dbPassword e true (some dbPasswordVariable)).start s).2
        (if (s.environment.lookup dbPasswordVariable).isSome then lines
          else passwordRest s.colors lines) := by
  cases hvariable : s.environment.lookup dbPasswordVariable with
  | some p =>
    rw [start_dbPassword_of_some hvariable]
    exact ⟨.refl s, h⟩
  | none =>
    rw [start_dbPassword_of_none hvariable] at hbehind ⊢
    obtain ⟨ls, rest, hinput, hls, rfl, hrest, hkept⟩ :=
      h.rest (Console.rest_twice _ _ _) hbehind
    rw [hinput] at hrest
    have hput := Console.twice_put hσ (passwordConfirmation s.colors) none hls hrest
    rw [Option.map_none] at hput
    simp only [Option.isSome_none, Bool.false_eq_true, if_false]
    constructor
    · rw [passwordScript, hput, ← hinput]
      exact ⟨rfl, rfl, rfl, rfl⟩
    · rw [passwordRest, hput]
      refine ⟨rest, ?_, hkept, rfl⟩
      rw [← hinput] at hrest
      exact hrest

end Collect

end HdProvision.Provision
