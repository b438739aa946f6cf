import HdProvision.Proofs.Command.Agreement
import HdProvision.Proofs.Provision.Twins

/-!
# Scripts of runs

What a run prints and logs around provisioning, as scripts that are written down without secrets: when it
starts, when its switches contradict each other, when it stops, and when it shows and saves an outcome.
-/

set_option autoImplicit false

namespace HdProvision.Command

open Console (Emitter)
open Provision (Error Outcome)
open Session (Filling Gap Piece Says)
open Store (Configuration StoreError)

variable {ε : Type} {f f' : Filling} {d : Defaults} {v : Verb} {i i' : Invocation}
  {s s' t t' : Session}

/-- The script of a message where errors go. -/
def errorScript (colors : Bool) (text : String) : List Piece :=
  [.error (String.ofList (Console.shown colors text.toList))]

theorem says_echoError (text : String) (s : Session) :
    Says f s ((echoError text : Program ε Unit).start s).2 (errorScript s.colors text) :=
  ⟨rfl, rfl, rfl, rfl⟩

namespace Invocation

/-- The script of greeting. -/
def greetScript (i : Invocation) (colors : Bool) : List Piece :=
  if i.switches.verbose then
    [ .print (i.emitter.echoed colors (.plain .blue) (some verboseNotice) true 1),
      .note (Emitter.messageLevel 1) Emitter.source verboseNotice ]
  else []

theorem says_greeted (i : Invocation) (s : Session) :
    Says f s (i.greeted s) (i.greetScript s.colors) := by
  rw [greeted, greet, greetScript]
  cases i.switches.verbose
  · exact .refl s
  · rw [if_pos rfl, if_pos rfl, Emitter.start_message]
    exact ⟨rfl, rfl, rfl, rfl⟩

/-- The script of what a run does before it provisions. -/
def prepareScript (i : Invocation) (d : Defaults) (colors : Bool) : List Piece :=
  i.greetScript colors ++ [.journal (i.logs d).open]

theorem says_prepared (i : Invocation) (d : Defaults) (s : Session) :
    Says f s (i.prepared d s) (i.prepareScript d s.colors) := by
  refine (says_greeted i s).trans ⟨?_, rfl, rfl, rfl⟩
  rw [prepared, Session.voice, Session.voice]
  exact congrArg (fun text => Session.Voice.mk text _ _) String.append_empty

theorem gaps_prepareScript (i : Invocation) (d : Defaults) (colors : Bool) :
    Session.gaps (i.prepareScript d colors) = [] := by
  rw [prepareScript, greetScript]
  cases i.switches.verbose <;> rfl

end Invocation

/-- The rest of a message about a rejected phrase, behind the phrase. -/
def rejectionAfter (r : Mnemonic.Rejection) : String :=
  "\" is not valid for " ++ r.language.nativeName ++ " (" ++ r.reason.text ++ ")"

/-- The script of telling a cause. -/
def causeScript (e : Emitter) (colors : Bool) : Error → List Piece
  | .mnemonicRejected r =>
    [.secret .rejected (.plain .red) "\"".toList false (rejectionAfter r).toList]
  | cause => [.print (e.said colors .red cause.message)]

/-- The script of stopping for a cause with the name and the code that the cause has. -/
def stopAsScript (e : Emitter) (v : Verb) (colors : Bool) (cause : Error) :
    Option (String × Nat) → List Piece
  | none => []
  | some (name, _) => causeScript e colors cause ++
      [.note .warn Emitter.source ("Wallet " ++ v.done ++ " stopped: " ++ name)]

/-- The script of a run that stops. -/
def stopScript (e : Emitter) (v : Verb) (colors : Bool) : Error → List Piece
  | .config fault => errorScript colors ("Error: " ++ fault.message ++ "\n")
  | cause => stopAsScript e v colors cause cause.ending?

/-- How a run ends that stops for a cause with a name and a code. -/
def stopAsEnd (cause : Error) : Option (String × Nat) → Except Error Nat
  | none => .error cause
  | some (_, code) => .ok code

/-- How a run ends that stops. -/
def stopEnd : Error → Except Error Nat
  | .config _ => .ok failureCode
  | cause => stopAsEnd cause cause.ending?

theorem start_stopAs_some (e : Emitter) (v : Verb) (cause : Error) (name : String) (code : Nat)
    (s : Session) : (stopAs e v false cause (some (name, code))).start s =
      (.ok code, (s.printed (e.said s.colors .red cause.message)).noted .warn Emitter.source
        ("Wallet " ++ v.done ++ " stopped: " ++ name)) := by
  change ((e.say .red cause.message : Program Error Unit) >>= fun _ => _).start s = _
  rw [Program.start_bind_of_ok (Emitter.start_say e _ _ s)]
  rfl

theorem message_rejected (r : Mnemonic.Rejection) :
    (Error.mnemonicRejected r).message = "\"" ++ r.phrase ++ rejectionAfter r := by
  have hassoc : ∀ a b c x y z : String, a ++ b ++ c ++ x ++ y ++ z = a ++ (b ++ c ++ x ++ y ++ z) := by
    intro a b c x y z
    simp only [String.append_assoc]
  exact hassoc _ _ _ _ _ _

theorem says_cause {e : Emitter} (he : e.prints 0 = true) (cause : Error)
    (hf : ∀ r, cause = .mnemonicRejected r → f.rejected = r.phrase) (s : Session) :
    Says f s (s.printed (e.said s.colors .red cause.message))
      (causeScript e s.colors cause.masked) := by
  by_cases hrejected : ∃ r, cause = .mnemonicRejected r
  · obtain ⟨r, rfl⟩ := hrejected
    have hsaid : e.said s.colors .red (Error.mnemonicRejected r).message =
        Session.styledLine s.colors (.plain .red)
          ("\"".toList ++ Session.spell false f.rejected ++ (rejectionAfter r).toList) := by
      rw [Emitter.said, if_pos he, message_rejected, hf r rfl, String.toList_append,
        String.toList_append]
      rfl
    rw [hsaid]
    exact ⟨rfl, rfl, rfl, rfl⟩
  · have hprint : causeScript e s.colors cause.masked =
        [.print (e.said s.colors .red cause.message)] := by
      cases cause with
      | mnemonicRejected r => exact absurd ⟨r, rfl⟩ hrejected
      | _ => rfl
    rw [hprint]
    exact .print s _

/-- A run that stops ends in its way and tells its script. -/
theorem says_stop {e : Emitter} (he : e.prints 0 = true) (v : Verb) (cause : Error)
    (hf : ∀ r, cause = .mnemonicRejected r → f.rejected = r.phrase) (s : Session) :
    ((stop e v false cause).start s).1 = stopEnd cause.masked ∧
      Says f s ((stop e v false cause).start s).2 (stopScript e v s.colors cause.masked) := by
  by_cases hconfig : ∃ fault, cause = .config fault
  · obtain ⟨fault, rfl⟩ := hconfig
    exact ⟨rfl, says_echoError (ε := Error) _ s⟩
  · rw [stop_of_not_config e v false (not_exists.mp hconfig)]
    have hscript : stopScript e v s.colors cause.masked =
        stopAsScript e v s.colors cause.masked cause.ending? := by
      cases cause with
      | config fault => exact absurd ⟨fault, rfl⟩ hconfig
      | _ => rfl
    have hend : stopEnd cause.masked = stopAsEnd cause cause.ending? := by
      cases cause with
      | config fault => exact absurd ⟨fault, rfl⟩ hconfig
      | _ => rfl
    rw [hscript, hend]
    cases hending : cause.ending? with
    | none => exact ⟨rfl, .refl s⟩
    | some ending =>
      obtain ⟨name, code⟩ := ending
      rw [start_stopAs_some]
      exact ⟨rfl, (says_cause he cause hf s).trans (.note _ _ _ _)⟩

/-- The script of telling what went wrong when an outcome was recorded. -/
def storeScript (colors : Bool) : StoreError → List Piece
  | .storage fault =>
    errorScript colors ("Error: " ++ (Provision.ConfigFault.storage .seed fault).message ++ "\n")
  | _ => []

theorem says_reportStore (fault : StoreError) (s : Session) :
    Says f s ((reportStore fault).start s).2 (storeScript s.colors fault) := by
  cases fault with
  | storage fault => exact says_echoError (ε := Error) _ s
  | _ => exact .refl s

/-- How a run ends that recorded an outcome as far as it could. -/
def recordedEnd : Option StoreError → Except Error Nat
  | none => .ok 0
  | some (.storage _) => .ok failureCode
  | some fault => .error (.store fault)

/-- The script of what follows when an outcome was recorded as far as it could be. -/
def endScript (c : Configuration) (e : Emitter) (v : Verb) (json colors : Bool) (euid : Int)
    (o : Outcome) : Option StoreError → List Piece
  | none => Provision.Save.handScript c o.owner euid ++
      Provision.Save.successScript e colors (Provision.Save.successMessage v.done c.file) json
  | some fault => storeScript colors fault

/-- The script of a run that shows an outcome and saves it. -/
def finishScript (c : Configuration) (e : Emitter) (v : Verb) (json colors : Bool) (euid : Int)
    (o : Outcome) (r : Provision.Save.Recording) : List Piece :=
  Provision.Report.script colors o json ++ (Provision.Save.recordScript c r ++
    endScript c e v json colors euid o r.fault)

/-- What becomes of recording an outcome that was shown. -/
def Invocation.recording [Json.Nesting] (i : Invocation) (c : Configuration) (o : Outcome) (s : Session) :
    Provision.Save.Recording :=
  Provision.Save.recording c o (i.painted o s)

theorem says_finish [Json.Nesting] (c : Configuration) (v : Verb) (i : Invocation) (o : Outcome)
    (hf : f.phrase = o.phrase.getD "") (s : Session) :
    ((finish c i.emitter v i.switches.json o).start s).1 = recordedEnd (i.recording c o s).fault ∧
      Says f s ((finish c i.emitter v i.switches.json o).start s).2
        (finishScript c i.emitter v i.switches.json s.colors s.euid o.masked
          (i.recording c o s)) := by
  have hpaint := Provision.Report.says_paint (ε := Error) (s := s) (prints_emitter i)
    i.switches.json hf
  rw [Provision.Report.start_paint (prints_emitter i)] at hpaint
  have hrecord := Provision.Save.says_record (f := f) c o (i.painted o s)
  have hfault := Provision.Save.fault_recording c o (i.painted o s)
  have hboth := Says.trans hpaint hrecord
  rw [start_finish]
  rcases hstart : (Provision.Save.record c o).start (i.painted o s) with ⟨fault | a, u⟩
  · rw [hstart] at hfault hboth
    have hnone : (i.recording c o s).fault = some fault := hfault
    rw [finishScript, hnone, ← List.append_assoc]
    refine ⟨?_, hboth.trans ?_⟩
    · cases fault <;> rfl
    · have hreport := says_reportStore (f := f) fault u
      rw [hboth.colors] at hreport
      exact hreport
  · rw [hstart] at hfault hboth
    have hnone : (i.recording c o s).fault = none := hfault
    rw [finishScript, hnone, ← List.append_assoc]
    refine ⟨rfl, hboth.trans ?_⟩
    have hhanded := Provision.Save.says_handed (f := f) c o.owner u
    have htold := Provision.Save.says_told (f := f) i.emitter
      (Provision.Save.successMessage v.done c.file) i.switches.json
      (Provision.Save.handed c o.owner u)
    rw [hhanded.colors, hboth.colors] at htold
    rw [hboth.euid] at hhanded
    exact hhanded.trans htold

/-- The script of a run whose switches contradict each other. -/
def Invocation.contradictionScript (i : Invocation) (v : Verb) (colors : Bool) : List Piece :=
  if i.switches.verbose && i.switches.quiet then
    errorScript colors ((UsageFault.verboseAndQuiet).report (.command v))
  else i.greetScript colors ++ errorScript colors ((UsageFault.debugWithoutLogs).report (.command v))

theorem says_contradiction (i : Invocation) (v : Verb) (s : Session) :
    ((i.contradiction v).start s).1 = .ok usageCode ∧
      Says f s ((i.contradiction v).start s).2 (i.contradictionScript v s.colors) := by
  rw [Invocation.contradiction, Invocation.contradictionScript]
  split
  · exact ⟨rfl, says_echoError (ε := Error) _ s⟩
  · rw [Program.start_bind_of_ok (start_greet i s)]
    have hgreeted := Invocation.says_greeted (f := f) i s
    have hrefused := says_echoError (ε := Error) (f := f)
      ((UsageFault.debugWithoutLogs).report (.command v)) (i.greeted s)
    rw [hgreeted.colors] at hrefused
    exact ⟨rfl, hgreeted.trans hrefused⟩

theorem gaps_contradictionScript (i : Invocation) (v : Verb) (colors : Bool) :
    Session.gaps (i.contradictionScript v colors) = [] := by
  rw [Invocation.contradictionScript]
  split
  · rfl
  · rw [Session.gaps_append, Invocation.greetScript]
    cases i.switches.verbose <;> rfl

/-- The secrets that are told of how provisioning ended. -/
def toldOf : Except Error Outcome → List Gap
  | .ok o => if o.phrase.isSome then [.phrase] else []
  | .error (.mnemonicRejected _) => [.rejected]
  | .error _ => []

theorem gaps_stopScript (e : Emitter) (v : Verb) (colors : Bool) (cause : Error) :
    Session.gaps (stopScript e v colors cause) = toldOf (.error cause) := by
  cases cause <;> rfl

theorem gaps_finishScript (c : Configuration) (e : Emitter) (v : Verb) (json colors : Bool)
    (euid : Int) (o : Outcome) (r : Provision.Save.Recording) :
    Session.gaps (finishScript c e v json colors euid o r) = toldOf (.ok o) := by
  have hreport : Session.gaps (Provision.Report.script colors o json) = toldOf (.ok o) := by
    rw [Provision.Report.script, toldOf]
    cases json <;> cases o.phrase <;> rfl
  have hrecord : Session.gaps (Provision.Save.recordScript c r) = [] := by
    rw [Provision.Save.recordScript]
    cases r.password <;> cases r.seed <;> rfl
  have hrest : Session.gaps (endScript c e v json colors euid o r.fault) = [] := by
    cases r.fault with
    | none =>
      rw [endScript, Provision.Save.handScript, Provision.Save.successScript]
      cases (o.owner.handOver? euid).isSome <;> cases json <;> rfl
    | some fault => cases fault <;> rfl
  rw [finishScript, Session.gaps_append, Session.gaps_append, hreport, hrecord, hrest]
  rw [List.append_nil, List.append_nil]

theorem toldOf_masked (r : Except Error Outcome) :
    toldOf (Provision.maskedEnding r) = toldOf r := by
  rcases r with e | o
  · cases e <;> rfl
  · change toldOf (.ok o.masked) = toldOf (.ok o)
    rw [toldOf, toldOf, Outcome.masked, Option.isSome_map]

end HdProvision.Command
