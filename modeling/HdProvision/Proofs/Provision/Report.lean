import HdProvision.Proofs.Json.Soundness
import HdProvision.Proofs.Session.Effects
import HdProvision.Provision.Report
import HdProvision.Provision.Save

/-!
# What a run tells at its end

The report of an outcome as one text, and the session after an outcome was recorded: the file is handed
over and the operator is told. A report that is printed as JSON reads as the report.
-/

set_option autoImplicit false

namespace HdProvision.Session

theorem printed_printed (s : Session) (a b : String) :
    (s.printed a).printed b = s.printed (a ++ b) := by
  rw [printed, printed, printed, String.append_assoc]

end HdProvision.Session

namespace HdProvision.Provision

open Console (Emitter)
open Json (Units)
open Store (Configuration StoreError)

namespace Report

variable {ε : Type}

/-- A line of a color, as a console shows it. -/
def line (colors : Bool) (color : Console.Color) (text : String) : String :=
  String.ofList (Console.shown colors ((Console.Style.plain color).apply text.toList ++ ['\n']))

/-- The lines about the wallets. -/
def walletsPainted (colors : Bool) (o : Outcome) : String :=
  line colors .white (consumingLine o.consuming) ++ line colors .white (earningLine o.earning)

/-- The lines about the phrase. -/
def phrasePainted (colors : Bool) (phrase : String) : String :=
  line colors .yellow recordPhraseNotice ++ Emitter.secretShown colors (some .cyan) phrase ++
    String.ofList (Console.shown colors ['\n'])

/-- What is printed of an outcome, whatever the verbosity. -/
def painted (colors : Bool) (o : Outcome) (json : Bool) : String :=
  if json then Emitter.secretShown colors none (String.ofList (Json.write o.report))
  else ((o.phrase.map (phrasePainted colors)).getD "") ++ walletsPainted colors o

variable {e : Emitter}

theorem start_line (he : e.prints 0 = true) (color : Console.Color) (text : String) (s : Session) :
    (e.say color text : Program ε Unit).start s = (.ok (), s.printed (line s.colors color text)) := by
  rw [Emitter.start_say, Emitter.said, if_pos he]
  rfl

theorem start_wallets (he : e.prints 0 = true) (o : Outcome) (s : Session) : (do
    e.say .white (consumingLine o.consuming)
    e.say .white (earningLine o.earning) : Program ε Unit).start s =
      (.ok (), s.printed (walletsPainted s.colors o)) := by
  rw [Program.start_bind_of_ok (start_line he _ _ s), start_line he, Session.printed_printed]
  rfl

theorem start_paint (he : e.prints 0 = true) (o : Outcome) (json : Bool) (s : Session) :
    (paint e o json : Program ε Unit).start s = (.ok (), s.printed (painted s.colors o json)) := by
  cases json with
  | true => rfl
  | false =>
    change (paintText e o).start s = _
    rw [paintText, painted]
    cases o.phrase with
    | none =>
      simp only [Bool.false_eq_true, if_false, Option.map_none, Option.getD_none,
        String.empty_append]
      exact start_wallets he o s
    | some phrase =>
      have hblank := Emitter.start_echo (ε := ε) e (.plain .white) none true 0
      simp only [Emitter.echoed, he, if_true] at hblank
      simp only [Bool.false_eq_true, if_false, Option.map_some, Option.getD_some]
      rw [Program.start_bind_of_ok (start_line he _ _ s),
        Program.start_bind_of_ok (Emitter.start_secret _ _ _), Program.start_bind_of_ok (hblank _),
        start_wallets he, Session.printed_printed, Session.printed_printed,
        Session.printed_printed, phrasePainted, String.append_assoc, String.append_assoc]
      rfl

theorem sound_walletEntry (w : Wallet.Identity) : (Outcome.walletEntry w).Sound := by
  rw [Outcome.walletEntry]
  split
  · have hnames : [Units.ofString "derivationPath", Units.ofString "address"].Nodup := by decide
    exact ⟨⟨trivial, trivial, trivial⟩, hnames⟩
  · exact ⟨⟨trivial, trivial⟩, List.nodup_cons.mpr ⟨List.not_mem_nil, List.nodup_nil⟩⟩

theorem sound_report (o : Outcome) : o.report.Sound := by
  have hwallets := And.intro (sound_walletEntry o.consuming) (sound_walletEntry o.earning)
  have hnames : [Units.ofString "mnemonicPhrase", Units.ofString "consumingWallet",
      Units.ofString "earningWallet"].Nodup := by decide
  rw [Outcome.report]
  cases o.phrase with
  | none => exact ⟨⟨hwallets.1, hwallets.2, trivial⟩, (List.nodup_cons.mp hnames).2⟩
  | some phrase => exact ⟨⟨trivial, hwallets.1, hwallets.2, trivial⟩, hnames⟩

theorem depth_walletEntry (w : Wallet.Identity) : (Outcome.walletEntry w).depth = 1 := by
  rw [Outcome.walletEntry]
  split <;> rfl

/-- The wallets are objects in the report, and nothing nests deeper. -/
theorem depth_report (o : Outcome) : o.report.depth = 2 := by
  rw [Outcome.report]
  cases o.phrase <;>
    simp [Json.Value.depth, Json.Value.depthFields, depth_walletEntry, Outcome.entry]

variable [Json.Nesting]

theorem depth_report_le (o : Outcome) : o.report.depth ≤ Json.Nesting.reading :=
  (depth_report o).le.trans Json.Nesting.two_le_reading

/-- A report that is printed as JSON reads as the report. -/
theorem read_report (o : Outcome) : Json.read (Json.write o.report) = .ok o.report :=
  Json.read_write (sound_report o) (depth_report_le o)

end Report

namespace Save

/-- The session after the file was handed over. -/
def handed (c : Configuration) (owner : Owner) (s : Session) : Session :=
  match owner.handOver? s.euid with
  | none => s
  | some (uid, gid) =>
    Session.noted { s with handedOver := s.handedOver ++ [(c.file, uid, gid)] } .info Emitter.source
      ("Handed " ++ c.file.text ++ " over to " ++ owner.text)

theorem start_handOver (c : Configuration) (owner : Owner) (s : Session) :
    (handOver c owner).start s = (.ok (), handed c owner s) := by
  rw [handOver, Program.start_bind_of_ok (Program.start_get s), handed]
  cases owner.handOver? s.euid with
  | none => rfl
  | some ids => rfl

/-- The session after the operator was told of a success. -/
def told (e : Emitter) (success : String) (json : Bool) (s : Session) : Session :=
  if json then s.noted .info Emitter.source success
  else (s.printed (e.echoed s.colors (.plain .green) (some success) true 1)).noted .info
    Emitter.source success

theorem start_save [Json.Nesting] (e : Emitter) (c : Configuration) (o : Outcome) (flow : String)
    (json : Bool) (s : Session) : (save e c o flow json).start s = match (record c o).start s with
      | (.error fault, t) => (.error fault, t)
      | (.ok (), t) =>
        (.ok (), told e (successMessage flow c.file) json (handed c o.owner t)) := by
  rcases hrecord : (record c o).start s with ⟨fault | a, t⟩
  · rw [save, Program.start_bind_of_error hrecord]
  · rw [save, Program.start_bind_of_ok hrecord,
      Program.start_bind_of_ok (start_handOver c o.owner t)]
    cases json with
    | true => rfl
    | false => exact Emitter.start_message e _ _ _ _

theorem disk_handed (c : Configuration) (owner : Owner) (s : Session) :
    (handed c owner s).disk = s.disk := by
  rw [handed]
  split <;> rfl

theorem disk_told (e : Emitter) (success : String) (json : Bool) (s : Session) :
    (told e success json s).disk = s.disk := by
  cases json <;> rfl

end Save
end HdProvision.Provision
