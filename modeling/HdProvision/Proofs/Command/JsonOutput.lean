import HdProvision.Proofs.Command.Completion
import HdProvision.Proofs.Command.RunScript
import HdProvision.Proofs.Console.Document

/-!
# What a run prints that reports JSON

A run that is given all secrets asks nothing, and what it logs is not printed when no log goes to the
console. It prints its report, and before that a notice if it is to be verbose; a console with colors is
reset behind the report. So the output is the report alone unless the run is verbose or the console has
colors.
-/

set_option autoImplicit false

namespace HdProvision.Provision

open Session (Prints)

variable [Json.Nesting] {w : Way} {c : Store.Configuration} {r : Request} {p : Position} {o : Outcome}
  {s t : Session}

/-- As long as no stage asks nothing is printed. -/
theorem Way.prints_of_reaches (hasks : ∀ q, Position.asks w r q = false) (hsilent : s.journal.Silent)
    (h : w.Reaches c r s p t) : Prints s t "" := by
  induction h with
  | start => exact .refl hsilent
  | @next p q t u _ _ hstep ih =>
    have hsays := Way.says_quiet (c := c) (s := t) (f := ⟨"", "", ""⟩) (hasks p)
    have hprints := hsays.prints (w.isNote_script r p _) ih.silent
    rw [hstep] at hprints
    exact ih.trans hprints

/-- A run that returns has reached its outcome. -/
theorem Way.reaches_of_ok (h : (w.provision c r).start s = (.ok o, t)) :
    w.Reaches c r s (.finished o) t := by
  obtain ⟨q, u, hreaches, hstage⟩ :=
    Way.exists_reached (Way.returns_iff.mp ⟨o, t, h⟩) 8 (Nat.le_refl 8)
  obtain ⟨o', rfl⟩ := Position.exists_finished hstage
  have hstart := Way.start_of_reaches hreaches
  rw [h] at hstart
  cases hstart
  exact hreaches

namespace Save

omit [Json.Nesting] in
theorem isNote_recordScript (c : Store.Configuration) (r : Recording) :
    (recordScript c r).all Session.Piece.isNote = true := by
  rw [recordScript]
  cases r.password <;> cases r.seed <;> rfl

omit [Json.Nesting] in
theorem isNote_handScript (c : Store.Configuration) (owner : Owner) (euid : Int) :
    (handScript c owner euid).all Session.Piece.isNote = true := by
  rw [handScript]
  cases (owner.handOver? euid).isSome <;> rfl

end Save

end HdProvision.Provision

namespace HdProvision.Command

open Console (Emitter)
open Json (IsDocument)
open Provision (Outcome Way)
open Session (Prints)

variable {d : Defaults} {v : Verb} {i : Invocation} {o : Outcome} {s t u : Session}

theorem silent_open {l : Logs} {j : Log.Journal} (hconsole : l.console = false) (h : j.Silent) :
    (l.open j).Silent := by
  have hsink : ∀ (wanted : Bool) {kind : Log.Kind} {j : Log.Journal}, kind ≠ .console → j.Silent →
      (startSink wanted kind j).Silent := by
    intro wanted kind j hkind h
    cases wanted
    · exact h
    · exact h.start hkind
  rw [Logs.open, hconsole]
  exact hsink _ (by decide) (hsink _ (by decide) h)

/-- What a run prints that is to be verbose, before anything else. -/
def Invocation.greeting (i : Invocation) (colors : Bool) : String :=
  if i.switches.verbose then i.emitter.echoed colors (.plain .blue) (some verboseNotice) true 1 else ""

theorem Invocation.greeting_of_verbose (h : i.switches.verbose = true) (colors : Bool) :
    i.greeting colors = String.ofList
      (Console.shown colors ((Console.Style.plain .blue).apply verboseNotice.toList ++ ['\n'])) := by
  have hverbosity : i.emitter.verbosity = 2 := by
    change (if i.switches.verbose = true then 2 else _) = (2 : Int)
    rw [if_pos h]
  have hprints : i.emitter.prints 1 = true := by
    rw [Emitter.prints, hverbosity]
    rfl
  rw [greeting, if_pos h, Emitter.echoed, if_pos hprints]
  rfl

/-- What starts with the notice is no document. -/
theorem Invocation.not_isDocument_of_verbose [Json.Nesting] (h : i.switches.verbose = true) (colors : Bool)
    (text : String) (w : Json.Value) : ¬ IsDocument (i.greeting colors ++ text) w := by
  have hlist : (i.greeting colors ++ text).toList =
      Console.shown colors ((Console.Style.plain .blue).apply verboseNotice.toList ++ ['\n']) ++
        text.toList := by
    rw [greeting_of_verbose h, String.toList_append, String.toList_ofList]
  -- With colors the first character is that of a control sequence, else that of the notice.
  cases colors with
  | false => exact Json.not_isDocument_of_head (.inl rfl) hlist w
  | true => exact Json.not_isDocument_of_head (.inr rfl) hlist w

theorem Invocation.prints_prepared (hconsole : (i.logs d).console = false)
    (h : s.journal.Silent) : Prints s (i.prepared d s) (i.greeting s.colors) := by
  have hgreeted : Prints s (i.greeted s) (i.greeting s.colors) := by
    rw [greeted, greet, greeting]
    cases i.switches.verbose
    · exact .refl h
    · rw [if_pos rfl, if_pos rfl, Emitter.start_message]
      have hprint := Prints.print h
        (i.emitter.echoed s.colors (.plain .blue) (some verboseNotice) true 1)
      have hnoted := hprint.trans (.noted hprint.silent (Emitter.messageLevel 1) Emitter.source
        verboseNotice)
      rwa [String.append_empty] at hnoted
  refine ⟨silent_open hconsole hgreeted.silent, ?_⟩
  rw [← hgreeted.output]
  exact String.append_empty

/-- A command that misses no secret asks for none. -/
theorem Invocation.asks_eq_false (h : ∀ k ∈ v.secrets, i.missing k = false)
    (q : Provision.Position) : q.asks (i.way v) i.request = false := by
  have hpassphrase : i.passphrase.isNone = false := h .passphrase (by cases v <;> decide)
  have hpassword : i.dbPassword.isNone = false := h .dbPassword (by cases v <;> decide)
  have hwords : (i.way v).lacksWords = false := by
    cases v with
    | generate => rfl
    | recover =>
      have hwords : i.words.isNone = false := h .phrase (by decide)
      rw [way]
      cases hgiven : i.words with
      | none =>
        rw [hgiven] at hwords
        cases hwords
      | some words => rfl
  cases q with
  | phrase l e => rw [Provision.Position.asks, hwords, Bool.false_and]
  | passphrase l e phrase =>
    change (i.passphrase.isNone && _) = false
    rw [hpassphrase, Bool.false_and]
  | dbPassword l e phrase passphrase =>
    change (i.dbPassword.isNone && _) = false
    rw [hpassword, Bool.false_and]
  | _ => rfl

section Runs

variable [Json.Nesting]

/-- A run that ends with code zero prints its report, and before it a notice if it is to be verbose. -/
theorem prints_execute (hmissing : ∀ k ∈ v.secrets, i.missing k = false)
    (hjson : i.switches.json = true) (hconsole : (i.logs d).console = false)
    (hsilent : s.journal.Silent) (h : (execute d v i).start s = (.ok 0, t)) :
    ∃ o u, (provision (i.configuration d) i.emitter v i).start (i.prepared d s) = (.ok o, u) ∧
      Prints s t (i.greeting s.colors ++ Provision.Report.painted s.colors o true) := by
  obtain ⟨o, u, w, hprovision, hrecord, rfl⟩ := execute_zero h
  refine ⟨o, u, hprovision, ?_⟩
  have hleaves := leaves_provision (i.configuration d) i.emitter v i (i.prepared d s)
  rw [hprovision] at hleaves
  have hcolors : u.colors = s.colors := ((same_prepared i d s).trans hleaves).colors
  have hprepared := i.prints_prepared (d := d) hconsole hsilent
  rw [provision_way] at hprovision
  -- One text for each phase of the run; only greeting and painting print one.
  have hprovisioned := Way.prints_of_reaches (Invocation.asks_eq_false hmissing) hprepared.silent
    (Way.reaches_of_ok hprovision)
  have hpainted : Prints u (i.painted o u) (Provision.Report.painted s.colors o true) := by
    rw [Invocation.painted, hjson, hcolors]
    exact .print hprovisioned.silent _
  have hrecorded := (Provision.Save.says_record (f := ⟨"", "", ""⟩) (i.configuration d) o
    (i.painted o u)).prints (Provision.Save.isNote_recordScript _ _) hpainted.silent
  rw [hrecord] at hrecorded
  have hhanded := (Provision.Save.says_handed (f := ⟨"", "", ""⟩) (i.configuration d) o.owner
    w).prints (Provision.Save.isNote_handScript _ _ _) hrecorded.silent
  have htold := (Provision.Save.says_told (f := ⟨"", "", ""⟩) i.emitter
    (Provision.Save.successMessage v.done (i.configuration d).file) true _).prints rfl hhanded.silent
  have hall := hprepared.trans (hprovisioned.trans (hpainted.trans
    (hrecorded.trans (hhanded.trans htold))))
  rw [Invocation.finished, hjson]
  simpa only [String.empty_append, String.append_empty] using hall

/-- A run that is given all secrets, wants JSON and no log on the console, and ends with code zero
prints the report of its outcome, as JSON, and little else: a notice in front of it if the run is to
be verbose, and a reset behind it on a console with colors. So it prints one JSON document if and only
if neither is the case, and the document is the report. -/
theorem json_output {rest : List String} (horder : v.order s.environment rest = .ok (.run v i))
    (hgives : ∀ k ∈ v.secrets, v.Gives s.environment rest k)
    (hjson : i.switches.json = true) (hconsole : (i.logs d).console = false)
    (hsilent : s.journal.Silent) (h : (run d (v.name :: rest)).start s = (.ok 0, t)) :
    ∃ o u printed,
      (provision (i.configuration d) i.emitter v i).start (i.prepared d s) = (.ok o, u) ∧
      t.output = s.output ++ printed ∧
      printed = i.greeting s.colors ++ String.ofList
        (Json.write o.report ++ (if s.colors then Console.sequence 0 else []) ++ ['\n']) ∧
      ∀ value, IsDocument printed value ↔
        value = o.report ∧ i.switches.verbose = false ∧ s.colors = false := by
  have hrun := start_run (d := d) ((Order.ofArguments_name v s.environment rest).trans horder)
  rw [hrun] at h
  obtain ⟨o, u, hprovision, hprints⟩ :=
    prints_execute (fun k hk => Verb.missing_of_order (hgives k hk) horder) hjson hconsole hsilent h
  refine ⟨o, u, _, hprovision, hprints.output, by rw [Provision.Report.painted_json], fun value => ?_⟩
  have hsound := Provision.Report.sound_report o
  have hdepth := Provision.Report.depth_report_le o
  rw [Provision.Report.painted_json]
  cases hverbose : i.switches.verbose with
  | true =>
    exact ⟨fun hdoc => absurd hdoc (Invocation.not_isDocument_of_verbose hverbose _ _ _), nofun⟩
  | false =>
    rw [Invocation.greeting, hverbose, if_neg Bool.false_ne_true, String.empty_append]
    cases s.colors with
    | true =>
      exact ⟨fun hdoc => absurd hdoc (Json.not_isDocument_sequence hsound hdepth 0 value), nofun⟩
    | false =>
      rw [if_neg Bool.false_ne_true, List.append_nil, Json.isDocument_write_iff hsound hdepth]
      exact ⟨fun hvalue => ⟨hvalue, rfl, rfl⟩, And.left⟩

end Runs

open scoped Json.Nesting

/-- What follows the name of a command that leaves nothing to ask for and wants JSON. -/
def jsonArguments (more : List String) : List String := more ++ "--json" :: plainArguments.tail

/-- The switches for JSON, and for a run that is to be verbose. -/
def jsonSwitches (verbose : Bool) : Switches := { Switches.initial with json := true, verbose }

theorem run_switched {rest : List String} {w : Switches}
    (horder : Verb.generate.order [] rest = .ok (.run .generate (plainInvocation.switched w)))
    (hswitches : w.contradict = false) :
    ∃ t, (run plainDefaults (Verb.generate.name :: rest)).start (.bare []) = (.ok 0, t) := by
  have hrun := start_run (d := plainDefaults) (s := .bare [])
    ((Order.ofArguments_name .generate [] rest).trans horder)
  exact ⟨_, Prod.ext ((congrArg Prod.fst hrun).trans (execute_switched hswitches)) rfl⟩

theorem gives_plain (more : List String) {r : Reading Flag Setting}
    (hread : read Verb.generate.options true (jsonArguments more) = .ok r)
    (hvalues : (values r.given).map Prod.fst =
      [.passphrase, .dbPassword, .consumingWallet, .earningWallet]) :
    ∀ k ∈ Verb.generate.secrets, Verb.generate.Gives [] (jsonArguments more) k := by
  have hsettings : ∀ k ∈ Verb.generate.secrets, k.setting ∈
      [Setting.passphrase, .dbPassword, .consumingWallet, .earningWallet] := by decide
  exact fun k hk => .inr fun hfree => hfree r hread (hvalues ▸ hsettings k hk)

theorem json_output_plain : ∃ t o,
    Verb.generate.order [] (jsonArguments []) =
      .ok (.run .generate (plainInvocation.switched (jsonSwitches false))) ∧
    (∀ k ∈ Verb.generate.secrets, Verb.generate.Gives [] (jsonArguments []) k) ∧
    ((plainInvocation.switched (jsonSwitches false)).logs plainDefaults).console = false ∧
    (Session.bare []).journal.Silent ∧
    (run plainDefaults (Verb.generate.name :: jsonArguments [])).start (.bare []) = (.ok 0, t) ∧
    IsDocument t.output (Outcome.report o) := by
  have horder : Verb.generate.order [] (jsonArguments []) =
    .ok (.run .generate (plainInvocation.switched (jsonSwitches false))) := rfl
  have hgives := gives_plain [] rfl rfl
  have hsilent : (Session.bare []).journal.Silent := nofun
  obtain ⟨t, hrun⟩ := run_switched horder rfl
  obtain ⟨o, u, printed, -, houtput, -, hdoc⟩ :=
    json_output (d := plainDefaults) (s := .bare []) horder hgives rfl rfl hsilent hrun
  refine ⟨t, o, horder, hgives, rfl, hsilent, hrun, ?_⟩
  rw [houtput]
  exact String.empty_append.symm ▸ (hdoc o.report).mpr ⟨rfl, rfl, rfl⟩

/-- A run that is to be verbose ends with code zero too, and prints no JSON document. -/
theorem verbose_no_document : ∃ t,
    Verb.generate.order [] (jsonArguments ["--verbose"]) =
      .ok (.run .generate (plainInvocation.switched (jsonSwitches true))) ∧
    (∀ k ∈ Verb.generate.secrets, Verb.generate.Gives [] (jsonArguments ["--verbose"]) k) ∧
    ((plainInvocation.switched (jsonSwitches true)).logs plainDefaults).console = false ∧
    (Session.bare []).journal.Silent ∧
    (run plainDefaults (Verb.generate.name :: jsonArguments ["--verbose"])).start (.bare []) =
      (.ok 0, t) ∧
    ∀ value, ¬ IsDocument t.output value := by
  have horder : Verb.generate.order [] (jsonArguments ["--verbose"]) =
    .ok (.run .generate (plainInvocation.switched (jsonSwitches true))) := rfl
  have hgives := gives_plain ["--verbose"] rfl rfl
  have hsilent : (Session.bare []).journal.Silent := nofun
  obtain ⟨t, hrun⟩ := run_switched horder rfl
  have hexecute := hrun
  rw [start_run (d := plainDefaults) (s := .bare [])
    ((Order.ofArguments_name .generate [] _).trans horder)] at hexecute
  obtain ⟨o, u, -, hprints⟩ := prints_execute
    (fun k hk => Verb.missing_of_order (hgives k hk) horder) rfl rfl hsilent hexecute
  refine ⟨t, horder, hgives, rfl, hsilent, hrun, fun value => ?_⟩
  rw [hprints.output, show (Session.bare []).output = "" from rfl, String.empty_append]
  exact Invocation.not_isDocument_of_verbose rfl false _ value

end HdProvision.Command
