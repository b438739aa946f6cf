import HdProvision.Proofs.Provision.Report
import HdProvision.Proofs.Provision.Saving
import HdProvision.Proofs.Session.Script

/-!
# Scripts of the report and of saving

What is told of an outcome, from what may be known of it: the addresses and the paths of its wallets,
and which secrets were recorded. The phrase is printed in one place of the report and nowhere else.
-/

set_option autoImplicit false

namespace HdProvision.Provision

open Console (Emitter)
open Session (Filling Piece Says spell styledLine)
open Store (Configuration StoreError)

/-- A wallet without its key. -/
def maskedWallet (w : Wallet.Identity) : Wallet.Identity := { w with publicKey := none }

/-- An outcome without its secrets; whether it has a phrase can still be seen. -/
def Outcome.masked (o : Outcome) : Outcome where
  seed := []
  language := o.language
  consuming := maskedWallet o.consuming
  earning := maskedWallet o.earning
  dbPassword := ""
  owner := o.owner
  phrase := o.phrase.map fun _ => ""
  consuming_isDerived := o.consuming_isDerived

variable {f : Filling} {s t : Session} {o : Outcome}

namespace Report

/-- The start of a JSON report, up to its phrase. -/
def jsonBefore : List Char :=
  '{' :: Json.Writer.line 1 ++ Json.Writer.text (Json.Units.ofString "mnemonicPhrase") [':', ' ', '"']

/-- The rest of a JSON report, behind its phrase. -/
def jsonAfter (o : Outcome) : List Char :=
  '"' :: Json.Writer.members 1
    [ (Json.Units.ofString "consumingWallet", Outcome.walletEntry o.consuming),
      (Json.Units.ofString "earningWallet", Outcome.walletEntry o.earning) ]
    (Json.Writer.line 0 ++ ['}'])

/-- The script of a report. -/
def script (colors : Bool) (o : Outcome) (json : Bool) : List Piece :=
  if json then
    if o.phrase.isSome then [.secret .phrase ⟨none, none⟩ jsonBefore true (jsonAfter o)]
    else [.print (painted colors o true)]
  else
    (if o.phrase.isSome then
      [ .print (line colors .yellow recordPhraseNotice),
        .secret .phrase ⟨some .cyan, none⟩ [] false [],
        .print (String.ofList (Console.shown colors ['\n'])) ]
    else []) ++ [.print (walletsPainted colors o)]

theorem write_report {phrase : String} (h : o.phrase = some phrase) :
    Json.write o.report = jsonBefore ++ spell true phrase ++ jsonAfter o := by
  rw [Json.write, Outcome.report, h]
  simp [Json.Writer.value, Json.Writer.text, Outcome.entry, jsonBefore, jsonAfter, spell]

theorem report_masked (h : o.phrase = none) : o.masked.report = o.report := by
  rw [Outcome.report, Outcome.report, Outcome.masked, h]
  rfl

theorem says_paint {e : Emitter} {ε : Type} (he : e.prints 0 = true) (json : Bool)
    (hf : f.phrase = o.phrase.getD "") :
    Says f s ((paint e o json : Program ε Unit).start s).2 (script s.colors o.masked json) := by
  have hmasked : o.masked.phrase = o.phrase.map fun _ => "" := rfl
  rw [start_paint he, script, hmasked, Option.isSome_map]
  cases hphrase : o.phrase with
  | none =>
    cases json with
    | true =>
      have hsame : painted s.colors o.masked true = painted s.colors o true := by
        rw [painted, painted, if_pos rfl, if_pos rfl, report_masked hphrase]
      simp only [Option.isSome_none, Bool.false_eq_true, if_true, if_false, hsame]
      exact Says.print s _
    | false =>
      have hpainted : painted s.colors o false = walletsPainted s.colors o := by
        simp [painted, hphrase]
      simp only [Option.isSome_none, Bool.false_eq_true, if_false, List.nil_append, hpainted]
      exact Says.print s _
  | some phrase =>
    rw [hphrase, Option.getD_some] at hf
    cases json with
    | true =>
      have hpainted : painted s.colors o true =
          styledLine s.colors ⟨none, none⟩ (jsonBefore ++ spell true f.phrase ++ jsonAfter o) := by
        rw [painted, if_pos rfl, write_report hphrase, Emitter.secretShown, hf,
          String.toList_ofList]
        rfl
      simp only [Option.isSome_some, if_true, hpainted]
      exact Says.secret s .phrase _ jsonBefore true (jsonAfter o)
    | false =>
      have hpainted : s.printed (painted s.colors o false) =
          (((s.printed (line s.colors .yellow recordPhraseNotice)).printed
            (styledLine s.colors ⟨some .cyan, none⟩ ([] ++ spell false f.phrase ++ []))).printed
            (String.ofList (Console.shown s.colors ['\n']))).printed (walletsPainted s.colors o) := by
        rw [painted, hphrase, hf, Session.printed_printed, Session.printed_printed,
          Session.printed_printed, List.nil_append, List.append_nil, ← String.append_assoc,
          ← String.append_assoc]
        rfl
      simp only [Option.isSome_some, Bool.false_eq_true, if_true, if_false, hpainted]
      exact (((Says.print s _).trans (.secret _ .phrase _ [] false [])).trans
        (.print _ _)).trans (.print _ _)

end Report

namespace Save

/-- Which secrets were recorded, and what was in the way of the rest. -/
structure Recording where
  password : Bool
  seed : Bool
  fault : Option StoreError

variable [Json.Nesting]

/-- Whether a configuration knows a password already. -/
def knows (c : Configuration) (s : Session) (password : String) : Bool :=
  match Store.Config.checkPassword s.stretcher s.disk c.file password with
  | .ok (some true) => true
  | _ => false

/-- What becomes of recording an outcome. -/
def recording (c : Configuration) (o : Outcome) (s : Session) : Recording :=
  match (c.recordPassword o.dbPassword).start s with
  | (.error e, _) => ⟨false, false, some e⟩
  | (.ok (), t) =>
    match (c.recordSeed o.seed o.dbPassword).start t with
    | (.error e, _) => ⟨!knows c s o.dbPassword, false, some e⟩
    | (.ok (), u) =>
      match (recordWallets c o).start u with
      | (.error e, _) => ⟨!knows c s o.dbPassword, true, some e⟩
      | (.ok (), _) => ⟨!knows c s o.dbPassword, true, none⟩

/-- The script of recording an outcome. -/
def recordScript (c : Configuration) (r : Recording) : List Piece :=
  (if r.password then [.note .info Configuration.source c.passwordMessage] else []) ++
    (if r.seed then [.note .info Configuration.source c.seedMessage] else [])

variable {c : Configuration}

theorem says_keep (c : Configuration) (name : Json.Units) (secret : Bytes)
    (password message : String) (s : Session) :
    Says f s ((c.keep name secret password message).start s).2
      (match ((c.keep name secret password message).start s).1 with
        | .ok _ => [.note .info Configuration.source message]
        | .error _ => []) := by
  rw [Configuration.start_keep]
  split
  · exact ⟨rfl, rfl, rfl, rfl⟩
  · split
    · exact ⟨rfl, rfl, rfl, rfl⟩
    · exact ⟨rfl, rfl, rfl, rfl⟩

theorem says_recordPassword (c : Configuration) (password : String) (s : Session) :
    Says f s ((c.recordPassword password).start s).2
      (match ((c.recordPassword password).start s).1 with
        | .ok _ => if !knows c s password then
            [.note .info Configuration.source c.passwordMessage] else []
        | .error _ => []) := by
  rw [Configuration.start_recordPassword]
  split
  · exact .refl s
  · exact .refl s
  · next hcheck =>
    have hknows : knows c s password = true := by rw [knows, hcheck]
    simp only [hknows, Bool.not_true, Bool.false_eq_true, if_false]
    exact .refl s
  · next hcheck =>
    have hknows : knows c s password = false := by rw [knows, hcheck]
    simp only [hknows, Bool.not_false, if_true]
    exact says_keep c _ _ _ _ s

theorem says_recordSeed (c : Configuration) (secret : Bytes) (password : String) (s : Session) :
    Says f s ((c.recordSeed secret password).start s).2
      (match ((c.recordSeed secret password).start s).1 with
        | .ok _ => [.note .info Configuration.source c.seedMessage]
        | .error _ => []) := by
  rw [Configuration.start_recordSeed]
  split
  · exact .refl s
  · exact .refl s
  · split
    · exact .refl s
    · exact says_keep c _ _ _ _ s
    · exact .refl s

theorem says_recordWallets (c : Configuration) (o : Outcome) (s : Session) :
    Says f s ((recordWallets c o).start s).2 [] := by
  have hupdate : ∀ (name : Json.Units) (v : Json.Value) (u : Session),
      Says f u ((c.update name v).start u).2 [] := fun name v u => ⟨rfl, rfl, rfl, rfl⟩
  refine (hupdate _ _ s).bind (q := fun _ => []) (fun _ t _ => ?_) fun _ _ _ => rfl
  exact (hupdate _ _ t).bind (q := fun _ => []) (fun _ u _ => .refl u) fun _ _ _ => rfl

theorem says_record (c : Configuration) (o : Outcome) (s : Session) :
    Says f s ((record c o).start s).2 (recordScript c (recording c o s)) := by
  have hpassword := says_recordPassword (f := f) c o.dbPassword s
  rw [record_eq, recording, Program.start_bind]
  rcases hp : (c.recordPassword o.dbPassword).start s with ⟨e | a, t⟩
  · rw [hp] at hpassword
    exact hpassword
  · rw [hp] at hpassword
    have hseed := says_recordSeed (f := f) c o.seed o.dbPassword t
    simp only [Program.start_bind]
    rcases hs : (c.recordSeed o.seed o.dbPassword).start t with ⟨e | b, u⟩
    · rw [hs] at hseed
      exact hpassword.trans hseed
    · rw [hs] at hseed
      have hwallets := says_recordWallets (f := f) c o u
      have hall := (hpassword.trans hseed).trans hwallets
      rw [List.append_nil] at hall
      rcases hw : (recordWallets c o).start u with ⟨e | d, w⟩ <;>
      · rw [hw] at hall
        simp only [hw]
        exact hall

/-- The fault that is in the way is the one that recording ends with. -/
theorem fault_recording (c : Configuration) (o : Outcome) (s : Session) :
    (recording c o s).fault = match ((record c o).start s).1 with
      | .ok _ => none
      | .error e => some e := by
  rw [record_eq, recording, Program.start_bind]
  rcases (c.recordPassword o.dbPassword).start s with ⟨e | a, t⟩
  · rfl
  · simp only [Program.start_bind]
    rcases (c.recordSeed o.seed o.dbPassword).start t with ⟨e | b, u⟩
    · rfl
    · dsimp only
      rcases (recordWallets c o).start u with ⟨e | d, w⟩ <;> rfl

omit [Json.Nesting]

/-- The script of handing the file over. -/
def handScript (c : Configuration) (owner : Owner) (euid : Int) : List Piece :=
  if (owner.handOver? euid).isSome then
    [.note .info Emitter.source ("Handed " ++ c.file.text ++ " over to " ++ owner.text)]
  else []

theorem says_handed (c : Configuration) (owner : Owner) (s : Session) :
    Says f s (handed c owner s) (handScript c owner s.euid) := by
  rw [handed, handScript]
  cases owner.handOver? s.euid with
  | none => exact .refl s
  | some ids => exact ⟨rfl, rfl, rfl, rfl⟩

/-- The script of telling of a success. -/
def successScript (e : Emitter) (colors : Bool) (success : String) (json : Bool) : List Piece :=
  (if json then [] else [.print (e.echoed colors (.plain .green) (some success) true 1)]) ++
    [.note .info Emitter.source success]

theorem says_told (e : Emitter) (success : String) (json : Bool) (s : Session) :
    Says f s (told e success json s) (successScript e s.colors success json) := by
  cases json with
  | true => exact .note s _ _ _
  | false => exact (Says.print s _).trans (.note _ _ _ _)

end Save
end HdProvision.Provision
