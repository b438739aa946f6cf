import HdProvision.Proofs.Command.History
import HdProvision.Proofs.Provision.Outcome
import HdProvision.Proofs.Provision.Reported
import HdProvision.Proofs.Provision.SavingScript

/-!
# Completed runs

A command run is all or nothing. If it ends with code zero, the file holds what the report shows: the
seed that comes from the phrase, under the password, and the wallets of that seed. If it ends in any
other way, every file is as it was.
-/

set_option autoImplicit false

namespace HdProvision.Command

open Provision (Made Outcome)
open Store (Configuration)
open Store.Config (consumingField earningField)
open Wallet (Identity)

/-- What a command asks provisioning for. -/
def Invocation.request (i : Invocation) : Provision.Request where
  dbPassword := i.dbPassword
  language := i.language.identifier
  consumingPath := i.consumingPath
  earning := .text i.earning
  passphrase := i.passphrase
  owner := i.owner
  emitter := i.emitter
  interactive := true

section Runs

variable [Json.Nesting]

theorem provision_eq (c : Configuration) (v : Verb) (i : Invocation) :
    provision c i.emitter v i = match v with
      | .generate => Provision.Flow.generate c i.request i.wordCount.toNat .fresh
      | .recover => Provision.Flow.recover c i.request i.words := rfl

/-- The phrase that the report of a command shows. -/
def Verb.shownPhrase (v : Verb) (p : Provision.Flow.Parts) : Option String :=
  match v with
  | .generate => some p.phrase
  | .recover => none

/-- What the report of a command says: the phrase if it was made, and the wallets at their paths. -/
def Verb.content (v : Verb) (i : Invocation) (p : Provision.Flow.Parts) (o : Outcome) :
    Provision.Report.Content where
  phrase := v.shownPhrase p
  consumingPath := i.consumingPath
  consumingAddress := o.consuming.address
  earningPath := o.earning.derivationPath
  earningAddress := o.earning.address

/-- A run from one session to another has made an outcome of its parts. As soon as it was made it was
reported, and the file of the configuration holds all of it. -/
structure Completed (d : Defaults) (v : Verb) (i : Invocation) (s t : Session)
    (p : Provision.Flow.Parts) (o : Outcome) : Prop where
  made : Made i.request s p o
  reported : ∃ u printed after,
    (provision (i.configuration d) i.emitter v i).start (i.prepared d s) = (.ok o, u) ∧
    (v.content i p o).PrintedAs s.colors i.switches.json printed ∧
    t.output = u.output ++ printed ++ after
  checkPassword :
    Store.Config.checkPassword s.stretcher t.disk (i.configuration d).file o.dbPassword =
      .ok (some true)
  seed : Store.Config.seed s.stretcher t.disk (i.configuration d).file o.dbPassword =
    .ok (some o.seed)
  consuming : Store.Config.field t.disk (i.configuration d).file consumingField =
    .ok (some (.text (Json.Units.ofString i.consumingPath)))
  consuming_derived : Identity.derive o.seed i.consumingPath = .ok o.consuming
  earning : Store.Config.field t.disk (i.configuration d).file earningField =
    .ok (some (.text (Json.Units.ofString o.earning.address)))
  earning_derived : ∀ path, o.earning.derivationPath = some path →
    Identity.derive o.seed path = .ok o.earning

variable {d : Defaults} {v : Verb} {i : Invocation} {s t u : Session} {o : Outcome}

theorem made_of_provision {c : Configuration}
    (h : (provision c i.emitter v i).start s = (.ok o, t)) :
    ∃ p, Made i.request s p o ∧ o.phrase = v.shownPhrase p := by
  rw [provision_eq] at h
  cases v with
  | generate => exact Provision.Flow.made_of_generate h
  | recover => exact Provision.Flow.made_of_recover h

/-- A phrase that a command shows holds no control sequences. -/
theorem escape_not_mem_phrase {c : Configuration}
    (h : (provision c i.emitter v i).start s = (.ok o, t)) :
    ∀ phrase ∈ o.phrase, Console.escapeChar ∉ phrase.toList := by
  intro phrase hphrase
  rw [provision_eq] at h
  cases v with
  | generate =>
    obtain ⟨l, entropy, hshown⟩ := Provision.Flow.phrase_of_generate h
    obtain rfl := Option.some.inj (hshown.symm.trans hphrase)
    exact Mnemonic.escape_not_mem_display l entropy
  | recover =>
    obtain ⟨p, -, hnone⟩ := Provision.Flow.made_of_recover h
    cases hnone.symm.trans hphrase

omit [Json.Nesting] in
/-- A derived earning wallet is that of the seed. -/
theorem derive_of_identity {seed : Bytes} {e : Wallet.EarningWallet} {w : Identity}
    (h : e.identity seed = .ok w) {path : String} (hpath : w.derivationPath = some path) :
    Identity.derive seed path = .ok w := by
  cases e with
  | external e =>
    cases h
    cases hpath
  | derived path' =>
    have hderived : Identity.derive seed path' = .ok w := h
    rw [Identity.derive_path hderived] at hpath
    cases hpath
    exact hderived

theorem completed_of_execute (husable : Store.Config.Usable s.disk (i.configuration d).file)
    (h : (execute d v i).start s = (.ok 0, t)) : ∃ p o, Completed d v i s t p o := by
  obtain ⟨o, u, w, hprovision, hrecord, rfl⟩ := execute_zero h
  obtain ⟨p, hmade, hphrase⟩ := made_of_provision hprovision
  have hleaves := leaves_provision (i.configuration d) i.emitter v i (i.prepared d s)
  rw [hprovision] at hleaves
  have hsame := (same_prepared i d s).trans hleaves
  have hdisk : (i.painted o u).disk = s.disk := hsame.disk
  have hstretcher : (i.painted o u).stretcher = s.stretcher := hsame.stretcher
  obtain ⟨fields, hstores, hsaved⟩ :=
    Provision.Save.saved_of_record (hdisk.symm ▸ husable.accessible) hrecord
  rw [hstretcher] at hsaved
  rw [← disk_finished i (i.configuration d) v o w] at hstores
  obtain ⟨x, hrecorded⟩ := hsaved.recorded
  have hload := hstores.load
  have hpath : o.consuming.derivationPath = some i.consumingPath :=
    Identity.derive_path hmade.consuming_eq
  refine ⟨p, o, hmade.of_same (same_prepared i d s), ?_, hrecorded.checkPassword hload,
    hrecorded.seed_eq hload, ?_, hmade.consuming_eq, ?_, ?_⟩
  · have hrecordSays := Provision.Save.says_record (f := ⟨"", "", ""⟩) (i.configuration d) o
      (i.painted o u)
    rw [hrecord] at hrecordSays
    obtain ⟨after, hafter⟩ := ((hrecordSays.trans (Provision.Save.says_handed _ o.owner w)).trans
      (Provision.Save.says_told i.emitter (Provision.Save.successMessage v.done _)
        i.switches.json _)).output
    have hprinted := Provision.Report.printedAs_painted hpath
      (Provision.Report.bare_content hmade.consuming_eq hmade.earning_eq
        (escape_not_mem_phrase hprovision)) s.colors i.switches.json
    rw [Provision.Report.content, hphrase] at hprinted
    refine ⟨u, _, after, hprovision, hprinted, hafter.trans ?_⟩
    rw [← hsame.colors]
    rfl
  · rw [Store.Config.field, hload, Except.map, hsaved.consuming, hpath, Option.getD_some]
  · rw [Store.Config.field, hload, Except.map, hsaved.earning]
  · intro path hearning
    exact derive_of_identity hmade.earning_eq hearning

/-- A command line that orders no run leaves the disk as it is. -/
theorem disk_run_of_no_run {args : List String}
    (h : ∀ v i, Order.ofArguments s.environment args ≠ .ok (.run v i)) :
    ((run d args).start s).2.disk = s.disk := by
  rcases run_cases d args s with ⟨v, i, horder, -⟩ | hsame
  · exact absurd horder (h v i)
  · exact hsame

/-- A command line is all or nothing: it orders a run that ends with code zero and has stored what it
reported, or else every file is left as it was. The file must be usable, so that what it holds can be
written again, and the memory must not run out between the two secrets that are sealed. -/
theorem run_all_or_nothing {args : List String} (hsteady : s.stretcher.Steady)
    (husable : ∀ v i, Order.ofArguments s.environment args = .ok (.run v i) →
      Store.Config.Usable s.disk (i.configuration d).file) :
    (∃ v i, Order.ofArguments s.environment args = .ok (.run v i) ∧
        ((run d args).start s).1 = .ok 0 ∧
        ∃ p o, Completed d v i s ((run d args).start s).2 p o) ∨
      (∀ v i, Order.ofArguments s.environment args = .ok (.run v i) →
          ((run d args).start s).1 ≠ .ok 0) ∧
        s.disk.Untouched ((run d args).start s).2.disk := by
  by_cases hruns : ∃ v i, Order.ofArguments s.environment args = .ok (.run v i)
  · obtain ⟨v, i, horder⟩ := hruns
    have hstart := start_run (d := d) horder
    by_cases hzero : ((execute d v i).start s).1 = .ok 0
    · left
      rw [hstart]
      exact ⟨v, i, horder, hzero, completed_of_execute (husable v i horder) (Prod.ext hzero rfl)⟩
    · right
      rw [hstart]
      exact ⟨fun _ _ _ => hzero, untouched_execute hsteady (husable v i horder) hzero⟩
  · simp only [not_exists] at hruns
    right
    refine ⟨fun v i horder => absurd horder (hruns v i), ?_⟩
    rw [disk_run_of_no_run hruns]
    exact .refl _

end Runs

open scoped Json.Nesting

/-- Surroundings whose directories are the root directory. -/
def plainDefaults : Defaults := ⟨⟨.root, []⟩, ⟨.root, []⟩, false, false⟩

/-- A command line that leaves nothing to ask for. -/
def plainArguments : List String :=
  ["generate-wallet", "--mnemonic-passphrase", "", "--db-password", "password",
    "--consuming-wallet", "m/0", "--earning-wallet", "m/1"]

def plainInvocation : Invocation :=
  { Invocation.ofEnvironment [] with
    passphrase := some ""
    consumingPath := "m/0"
    earning := "m/1"
    dbPassword := some "password" }

/-- The same with other switches. -/
def Invocation.switched (i : Invocation) (w : Switches) : Invocation := { i with switches := w }

/-- Where the file is not there yet and passwords can be stretched, an outcome is all that a run needs
to end with code zero. -/
theorem execute_of_provision {v : Verb} {i : Invocation} {s u : Session} {o : Outcome}
    (hswitches : i.switches.contradict = false) (hfile : i.configuration plainDefaults = plain)
    (hdisk : s.disk = (Session.bare []).disk) (hworks : s.stretcher.Works)
    (h : (provision plain i.emitter v i).start (i.prepared plainDefaults s) = (.ok o, u)) :
    ((execute plainDefaults v i).start s).1 = .ok 0 := by
  have hleaves := leaves_provision plain i.emitter v i (i.prepared plainDefaults s)
  rw [h] at hleaves
  have hsame := (same_prepared i plainDefaults s).trans hleaves
  have hdisk' : (i.painted o u).disk = (Session.bare []).disk := hsame.disk.trans hdisk
  have hstretcher : (i.painted o u).stretcher = s.stretcher := hsame.stretcher
  obtain ⟨u', hrecord⟩ := Provision.Save.record_of_absent (s := i.painted o u) (c := plain)
    (hstretcher.symm ▸ hworks) (hdisk'.symm ▸ by decide) (hdisk'.symm ▸ place_plain)
    (hdisk'.symm ▸ rfl) o
  rw [start_execute hswitches, hfile, h]
  change ((finish (i.configuration plainDefaults) i.emitter v i.switches.json o).start u).1 = _
  rw [hfile, start_finish, hrecord]

theorem unseeded_plain {s : Session} (i : Invocation) (hdisk : s.disk = (Session.bare []).disk) :
    Store.Config.seedExists (i.prepared plainDefaults s).disk plain.file = .ok false := by
  rw [disk_prepared, hdisk, Store.Config.seedExists, Store.Config.load_of_absent place_plain rfl]
  rfl

theorem find?_english :
    Mnemonic.Language.find? Mnemonic.Language.english.identifier = some .english := by
  simp [Mnemonic.Language.find?, Mnemonic.Language.all, Mnemonic.Language.isNamed]

/-- With any switches that do not contradict each other the run ends with code zero. -/
theorem execute_switched {w : Switches} (hswitches : w.contradict = false) :
    ((execute plainDefaults .generate (plainInvocation.switched w)).start (.bare [])).1 = .ok 0 := by
  have hconsuming : ∀ seed, ∃ w, Identity.derive seed "m/0" = .ok w :=
    Identity.derive_of_path
      (show Wallet.DerivationPath.ofString "m/0" = .ok [⟨.soft, 0⟩] from rfl) (by decide)
  have hearning : ∀ seed, ∃ w, Identity.derive seed "m/1" = .ok w :=
    Identity.derive_of_path
      (show Wallet.DerivationPath.ofString "m/1" = .ok [⟨.soft, 1⟩] from rfl) (by decide)
  obtain ⟨o, u, hprovision⟩ := Provision.Flow.generate_of_ok (c := plain)
    (r := (plainInvocation.switched w).request) (e := .derived "m/1") (unseeded_plain _ rfl)
    find?_english (show (Provision.EarningChoice.text "m/1").chosen = .ok (.derived "m/1") from rfl)
    (show Mnemonic.WordCount.ofInt? 12 = some .twelve by decide) rfl rfl (by decide)
    hconsuming hearning
  exact execute_of_provision hswitches rfl rfl ⟨by decide, fun _ => rfl⟩ hprovision

theorem execute_plain :
    ((execute plainDefaults .generate plainInvocation).start (.bare [])).1 = .ok 0 :=
  execute_switched (w := .initial) rfl

theorem run_all_or_nothing_plain : ∃ p o,
    Order.ofArguments (Session.bare []).environment plainArguments =
      .ok (.run .generate plainInvocation) ∧
    (Session.bare []).stretcher.Steady ∧
    Store.Config.Usable (Session.bare []).disk (plainInvocation.configuration plainDefaults).file ∧
    ((run plainDefaults plainArguments).start (.bare [])).1 = .ok 0 ∧
    Completed plainDefaults .generate plainInvocation (.bare [])
      ((run plainDefaults plainArguments).start (.bare [])).2 p o := by
  have horder : Order.ofArguments (Session.bare []).environment plainArguments =
      .ok (.run .generate plainInvocation) := rfl
  have hzero : ((run plainDefaults plainArguments).start (.bare [])).1 = .ok 0 := by
    rw [start_run horder]
    exact execute_plain
  have husable : ∀ v i, Order.ofArguments (Session.bare []).environment plainArguments =
      .ok (.run v i) → Store.Config.Usable (Session.bare []).disk (i.configuration plainDefaults).file := by
    intro v i hi
    rw [horder] at hi
    cases hi
    exact usable_plain
  have hsteady : (Session.bare []).stretcher.Steady := .inl fun _ => rfl
  rcases run_all_or_nothing (d := plainDefaults) hsteady husable with
    ⟨v, i, hi, -, p, o, hcompleted⟩ | ⟨hne, -⟩
  · rw [horder] at hi
    cases hi
    exact ⟨p, o, horder, hsteady, usable_plain, hzero, hcompleted⟩
  · exact absurd hzero (hne _ _ horder)

end HdProvision.Command
