import HdProvision.Command.Run
import HdProvision.Proofs.Provision.Report
import HdProvision.Proofs.Provision.Saving
import HdProvision.Proofs.Provision.Stages
import HdProvision.Proofs.Provision.Surroundings

/-!
# Command runs

A run whose switches agree opens its logs, provisions, and then either finishes or stops. Only what
finishes ends with code zero; whatever ends in another way leaves every file as it was.
-/

set_option autoImplicit false

namespace HdProvision.Command

open Console (Emitter)
open Provision (Error Outcome)
open Program (Leaves)

variable {ε : Type}

theorem leaves_printError (text : String) : Leaves (Session.printError text : Program ε Unit) :=
  fun _ => ⟨rfl, rfl, rfl, rfl, rfl, rfl, rfl, List.suffix_refl _⟩

theorem leaves_echoError (text : String) : Leaves (echoError text : Program ε Unit) :=
  Program.leaves_get.bind fun _ => leaves_printError _

theorem leaves_refuse (r : Refusal) : Leaves (refuse r) := by
  cases r with
  | nothing => exact (leaves_echoError _).bind fun _ => Program.leaves_pure _
  | usage scope fault => exact (leaves_echoError _).bind fun _ => Program.leaves_pure _
  | system e => exact Program.leaves_throw _

theorem leaves_reportFault (f : Provision.ConfigFault) :
    Leaves (reportFault f : Program ε Nat) :=
  (leaves_echoError _).bind fun _ => Program.leaves_pure _

/-- Ends a run for a cause with the name and the code that the cause has. -/
def stopAs (e : Emitter) (v : Verb) (debug : Bool) (cause : Error) :
    Option (String × Nat) → Program Error Nat
  | none => throw cause
  | some (name, code) => do
    if debug then throw cause
    e.say .red cause.message
    Emitter.note .warn ("Wallet " ++ v.done ++ " stopped: " ++ name)
    return code

theorem stop_of_not_config (e : Emitter) (v : Verb) (debug : Bool) {cause : Error}
    (h : ∀ f, cause ≠ .config f) : stop e v debug cause = stopAs e v debug cause cause.ending? := by
  cases cause with
  | config f => exact absurd rfl (h f)
  | _ => rfl

theorem leaves_stopAs (e : Emitter) (v : Verb) (debug : Bool) (cause : Error)
    (ending : Option (String × Nat)) : Leaves (stopAs e v debug cause ending) := by
  cases ending with
  | none => exact Program.leaves_throw _
  | some ending =>
    have hsay : Leaves (do
        e.say .red cause.message
        Emitter.note .warn ("Wallet " ++ v.done ++ " stopped: " ++ ending.1)
        return ending.2 : Program Error Nat) :=
      (Emitter.leaves_say _ _ _).bind fun _ => (Emitter.leaves_note _ _).bind fun _ =>
        Program.leaves_pure _
    cases debug
    · exact hsay
    · exact (Program.leaves_throw _).bind fun _ => hsay

theorem leaves_stop (e : Emitter) (v : Verb) (debug : Bool) (cause : Error) :
    Leaves (stop e v debug cause) := by
  by_cases hconfig : ∃ f, cause = .config f
  · obtain ⟨f, rfl⟩ := hconfig
    exact leaves_reportFault f
  · rw [stop_of_not_config e v debug (not_exists.mp hconfig)]
    exact leaves_stopAs _ _ _ _ _

/-- A run that stopped does not end with code zero. -/
theorem stop_ne_zero {e : Emitter} {v : Verb} {debug : Bool} {cause : Error} {s t : Session}
    (h : (stop e v debug cause).start s = (.ok 0, t)) : False := by
  have hcode : ∀ (name : String) (code : Nat), cause.ending? = some (name, code) → code ≠ 0 := by
    intro name code hending
    cases cause <;> cases hending <;> decide
  by_cases hconfig : ∃ f, cause = .config f
  · obtain ⟨f, rfl⟩ := hconfig
    cases h
  · rw [stop_of_not_config e v debug (not_exists.mp hconfig)] at h
    cases hending : cause.ending? with
    | none =>
      rw [hending] at h
      cases h
    | some ending =>
      obtain ⟨name, code⟩ := ending
      rw [hending] at h
      cases debug
      · obtain ⟨_, u, -, h⟩ := Program.start_bind_ok.mp h
        obtain ⟨_, w, -, h⟩ := Program.start_bind_ok.mp h
        cases h
        exact hcode _ _ hending rfl
      · cases h

/-- The switches contradict each other. -/
def Switches.contradict (w : Switches) : Bool := w.verbose && w.quiet || w.debug && w.noLogs

/-- The emitter of a run. -/
def Invocation.emitter (i : Invocation) : Emitter := ⟨i.switches.verbosity⟩

/-- What a run says when it is to be verbose. -/
def Invocation.greet (i : Invocation) : Program ε Unit :=
  if i.switches.verbose then i.emitter.message (.plain .blue) (some verboseNotice) 1 else pure ()

theorem leaves_greet (i : Invocation) : Leaves (i.greet : Program ε Unit) := by
  rw [Invocation.greet]
  cases i.switches.verbose
  · exact Program.leaves_pure _
  · exact Emitter.leaves_message _ _ _ _

variable {d : Defaults} {v : Verb} {i : Invocation} {s t : Session}

/-- Tells what went wrong when an outcome was recorded. -/
def reportStore : Store.StoreError → Program Error Nat
  | .storage fault => reportFault (.storage .seed fault)
  | fault => throw (.store fault)

theorem leaves_reportStore (fault : Store.StoreError) : Leaves (reportStore fault) := by
  cases fault with
  | storage fault => exact leaves_reportFault _
  | _ => exact Program.leaves_throw _

theorem reportStore_ne_zero {fault : Store.StoreError}
    (h : (reportStore fault).start s = (.ok 0, t)) : False := by
  cases fault <;> cases h

/-- The session after a run has greeted. -/
def Invocation.greeted (i : Invocation) (s : Session) : Session :=
  ((i.greet : Program Error Unit).start s).2

/-- The session in which a run provisions. -/
def Invocation.prepared (i : Invocation) (d : Defaults) (s : Session) : Session :=
  (i.greeted s).recorded fun j => ((i.logs d).open j, "")

theorem start_greet (i : Invocation) (s : Session) :
    (i.greet : Program Error Unit).start s = (.ok (), i.greeted s) := by
  rw [Invocation.greeted, Invocation.greet]
  cases i.switches.verbose
  · rfl
  · cases hprints : i.emitter.prints 1
    · simp only [Emitter.message, Emitter.echo, hprints]
      rfl
    · simp only [Emitter.message, Emitter.echo, hprints]
      rfl

theorem prints_emitter (i : Invocation) : i.emitter.prints 0 = true := by
  rw [Emitter.prints, Invocation.emitter, Switches.verbosity]
  cases i.switches.verbose <;> cases i.switches.quiet <;> rfl

theorem same_prepared (i : Invocation) (d : Defaults) (s : Session) :
    s.SameSurroundings (i.prepared d s) := by
  have hgreet : s.SameSurroundings (i.greeted s) := leaves_greet (ε := Error) i s
  exact ⟨hgreet.disk, hgreet.stretcher, hgreet.environment, hgreet.euid, hgreet.stamp, hgreet.colors,
    hgreet.randomAt, hgreet.input⟩

theorem disk_prepared (i : Invocation) (d : Defaults) (s : Session) :
    (i.prepared d s).disk = s.disk :=
  (same_prepared i d s).disk

/-- The session in which an outcome is recorded. -/
def Invocation.painted (i : Invocation) (o : Outcome) (s : Session) : Session :=
  s.printed (Provision.Report.painted s.colors o i.switches.json)

/-- The session at the end of a run that recorded an outcome. -/
def Invocation.finished (i : Invocation) (c : Store.Configuration) (v : Verb) (o : Outcome)
    (s : Session) : Session :=
  Provision.Save.told i.emitter (Provision.Save.successMessage v.done c.file) i.switches.json
    (Provision.Save.handed c o.owner s)

theorem disk_finished (i : Invocation) (c : Store.Configuration) (v : Verb) (o : Outcome)
    (s : Session) : (i.finished c v o s).disk = s.disk := by
  rw [Invocation.finished, Provision.Save.disk_told, Provision.Save.disk_handed]

section Runs

variable [Json.Nesting]

/-- What a run does with what came of provisioning. -/
def conclude (d : Defaults) (v : Verb) (i : Invocation) : Except Error Outcome → Program Error Nat
  | .ok o => finish (i.configuration d) i.emitter v i.switches.json o
  | .error cause => stop i.emitter v i.switches.debug cause

theorem execute_eq (d : Defaults) (v : Verb) (i : Invocation) : execute d v i =
    (if i.switches.verbose && i.switches.quiet then
      refuse (.usage (.command v) .verboseAndQuiet) >>= pure
    else do
      i.greet
      if i.switches.debug && i.switches.noLogs then
        refuse (.usage (.command v) .debugWithoutLogs) >>= pure
      else do
        Session.record fun j => ((i.logs d).open j, "")
        (provision (i.configuration d) i.emitter v i).handle (conclude d v i)) := by
  rw [execute, Invocation.greet]
  cases i.switches.verbose <;> rfl

/-- Switches that contradict each other end a run with the code for the command line. -/
theorem execute_of_contradict (h : i.switches.contradict = true) (s : Session) :
    ∃ t, (execute d v i).start s = (.ok usageCode, t) ∧ s.SameSurroundings t := by
  have hrefuse : ∀ (fault : UsageFault) (u : Session), ∃ t,
      (refuse (.usage (.command v) fault) >>= pure).start u = (.ok usageCode, t) ∧
        u.SameSurroundings t := by
    intro fault u
    have hleaves := ((leaves_refuse (.usage (.command v) fault)).bind
      fun code => Program.leaves_pure code) u
    exact ⟨_, rfl, hleaves⟩
  rw [execute_eq]
  split
  · exact hrefuse _ s
  · next hquiet =>
    have hlogs : (i.switches.debug && i.switches.noLogs) = true := by
      rw [Switches.contradict, Bool.eq_false_iff.mpr hquiet, Bool.false_or] at h
      exact h
    obtain ⟨t, hstart, hsame⟩ := hrefuse .debugWithoutLogs (i.greeted s)
    have hgreet : s.SameSurroundings (i.greeted s) := leaves_greet (ε := Error) i s
    refine ⟨t, ?_, hgreet.trans hsame⟩
    rw [Program.start_bind_of_ok (start_greet i s), if_pos hlogs, hstart]

/-- A run whose switches agree provisions, and finishes or stops. -/
theorem start_execute (h : i.switches.contradict = false) (s : Session) :
    (execute d v i).start s =
      (conclude d v i
        ((provision (i.configuration d) i.emitter v i).start (i.prepared d s)).1).start
        ((provision (i.configuration d) i.emitter v i).start (i.prepared d s)).2 := by
  obtain ⟨hquiet, hlogs⟩ := Bool.or_eq_false_iff.mp h
  have hopen : (Session.record fun j => ((i.logs d).open j, "") : Program Error Unit).start
      (i.greeted s) = (.ok (), i.prepared d s) := rfl
  rw [execute_eq, hquiet, if_neg Bool.false_ne_true, Program.start_bind_of_ok (start_greet i s),
    hlogs, if_neg Bool.false_ne_true, Program.start_bind_of_ok hopen, Program.start_handle]

theorem leaves_provision (c : Store.Configuration) (e : Emitter) (v : Verb) (i : Invocation) :
    Leaves (provision c e v i) := by
  cases v with
  | generate => exact Provision.Flow.leaves_generate _ _ _ _
  | recover => exact Provision.Flow.leaves_recover _ _ _

/-- What provisions found no seed. -/
theorem seedExists_of_provision {c : Store.Configuration} {e : Emitter} {o : Outcome}
    (h : (provision c e v i).start s = (.ok o, t)) :
    Store.Config.seedExists s.disk c.file = .ok false := by
  cases v with
  | generate =>
    obtain ⟨_, _, hguard, -⟩ := Program.start_bind_ok.mp h
    exact (Provision.Guard.seedExists_of_check (Program.start_mapError_ok.mp hguard)).1
  | recover =>
    obtain ⟨_, _, hguard, -⟩ := Program.start_bind_ok.mp h
    exact (Provision.Guard.seedExists_of_check (Program.start_mapError_ok.mp hguard)).1

theorem start_finish (c : Store.Configuration) (v : Verb) (i : Invocation) (o : Outcome)
    (s : Session) : (finish c i.emitter v i.switches.json o).start s =
      match (Provision.Save.record c o).start (i.painted o s) with
      | (.ok (), t) => (.ok 0, i.finished c v o t)
      | (.error fault, t) => (reportStore fault).start t := by
  rw [finish, Program.start_bind_of_ok (Provision.Report.start_paint (prints_emitter i) _ _ s),
    Program.start_handle, Provision.Save.start_save, Invocation.painted]
  rcases (Provision.Save.record c o).start
    (s.printed (Provision.Report.painted s.colors o i.switches.json)) with ⟨fault | a, t⟩
  · cases fault <;> rfl
  · rfl

/-- A run that ends with code zero provisioned and recorded an outcome. -/
theorem execute_zero (h : (execute d v i).start s = (.ok 0, t)) :
    ∃ o u w, (provision (i.configuration d) i.emitter v i).start (i.prepared d s) = (.ok o, u) ∧
      (Provision.Save.record (i.configuration d) o).start (i.painted o u) = (.ok (), w) ∧
      t = i.finished (i.configuration d) v o w := by
  cases hswitches : i.switches.contradict with
  | true =>
    obtain ⟨t', hrefused, -⟩ := execute_of_contradict hswitches s
    rw [hrefused] at h
    cases h
  | false =>
    rw [start_execute hswitches] at h
    rcases hprovision : (provision (i.configuration d) i.emitter v i).start (i.prepared d s) with
      ⟨cause | o, u⟩
    · rw [hprovision] at h
      exact (stop_ne_zero h).elim
    · rw [hprovision] at h
      change (finish _ _ _ _ _).start u = _ at h
      rw [start_finish] at h
      split at h
      · next w hrecord =>
        cases h
        exact ⟨o, u, w, rfl, hrecord, rfl⟩
      · exact (reportStore_ne_zero h).elim

/-- A run that ends in any other way leaves every file as it was. -/
theorem untouched_execute (hsteady : s.stretcher.Steady)
    (husable : Store.Config.Usable s.disk (i.configuration d).file)
    (hne : ((execute d v i).start s).1 ≠ .ok 0) :
    s.disk.Untouched ((execute d v i).start s).2.disk := by
  cases hswitches : i.switches.contradict with
  | true =>
    obtain ⟨t, hrefused, hsame⟩ := execute_of_contradict hswitches s
    rw [hrefused, hsame.disk]
    exact .refl _
  | false =>
    rw [start_execute hswitches] at hne ⊢
    have hleaves := (same_prepared i d s).trans
      (leaves_provision (i.configuration d) i.emitter v i (i.prepared d s))
    rcases hprovision : (provision (i.configuration d) i.emitter v i).start (i.prepared d s) with
      ⟨cause | o, u⟩
    · rw [hprovision] at hleaves
      change s.disk.Untouched ((stop i.emitter v i.switches.debug cause).start u).2.disk
      rw [(leaves_stop _ _ _ _ u).disk, hleaves.disk]
      exact .refl _
    · have hnone := seedExists_of_provision hprovision
      rw [disk_prepared] at hnone
      rw [hprovision] at hne hleaves
      change ((finish _ _ _ _ _).start u).1 ≠ _ at hne
      change s.disk.Untouched ((finish _ _ _ _ _).start u).2.disk
      rw [start_finish] at hne ⊢
      have hdisk : (i.painted o u).disk = s.disk := hleaves.disk
      have hstretcher : (i.painted o u).stretcher = s.stretcher := hleaves.stretcher
      rcases hrecord : (Provision.Save.record (i.configuration d) o).start (i.painted o u) with
        ⟨fault | a, w⟩
      · dsimp only
        rw [(leaves_reportStore fault w).disk, ← hdisk]
        exact Provision.Save.untouched_record (hstretcher.symm ▸ hsteady) (hdisk.symm ▸ husable)
          (hdisk.symm ▸ hnone) hrecord
      · rw [hrecord] at hne
        exact absurd rfl hne

/-- A command line that orders a run executes it. -/
theorem start_run {args : List String}
    (h : Order.ofArguments s.environment args = .ok (.run v i)) :
    (run d args).start s = (execute d v i).start s := by
  rw [run, Program.start_bind_of_ok (Program.start_get s)]
  simp only [h]

end Runs

/-- A configuration in the root directory. -/
def plain : Store.Configuration := .inDirectory ⟨.root, []⟩

theorem place_plain :
    (Session.bare []).disk.place plain.file = .ok [Store.Config.fileName.toList] := rfl

theorem usable_plain [Json.Nesting] : Store.Config.Usable (Session.bare []).disk plain.file :=
  Store.Config.usable_of_absent fun content mode h => by
    rw [Store.Disk.node?] at h
    split at h <;> cases h

end HdProvision.Command
