import HdProvision.Proofs.Command.Completion
import HdProvision.Proofs.Command.RunScript
import HdProvision.Proofs.Mnemonic.Reading

/-!
# Confinement of secrets

What a run prints and logs hangs on what may be known of it, and on a secret only where the report shows
a new phrase and where a message names a phrase that was rejected. Two runs of which the same is known
are compared piece by piece.
-/

set_option autoImplicit false

namespace HdProvision.Command

open Console (Emitter)
open Provision (Error Outcome Reader)
open Session (Filling Gap Twins)
open Store (Configuration)

variable {f f' : Filling} {d : Defaults} {v : Verb} {i i' : Invocation} {s s' t t' : Session}

/-- The same may be known of what two runs start with: everything but secrets, and which secrets are
given. -/
structure SameStart (i i' : Invocation) (s s' : Session) : Prop where
  unsecret : i'.unsecret = i.unsecret
  missing : ∀ k, i'.missing k = i.missing k
  inVariable : (s'.environment.lookup Provision.Collect.dbPasswordVariable).isSome =
    (s.environment.lookup Provision.Collect.dbPasswordVariable).isSome
  colors : s'.colors = s.colors
  stamp : s'.stamp = s.stamp
  euid : s'.euid = s.euid
  journal : s'.journal = s.journal

namespace SameStart

variable (h : SameStart i i' s s')

include h

theorem same {α : Type} (what : Invocation → α) (hwhat : ∀ j, what j.unsecret = what j) :
    what i' = what i := by
  rw [← hwhat i', h.unsecret, hwhat]

theorem kindred (v : Verb) :
    Provision.Kindred (i.way v) (i'.way v) i.request i'.request where
  way x := h.same (fun j => (j.way v).given x) fun j => by cases v <;> rfl
  request x := h.same (fun j => j.request.given x) fun _ => rfl
  lacksWords := by
    cases v with
    | generate => rfl
    | recover =>
      rw [Invocation.way, Invocation.way, Provision.Way.lacksWords_recover,
        Provision.Way.lacksWords_recover]
      exact h.missing .phrase
  passphrase := by
    have hmissing := h.missing .passphrase
    change i'.passphrase.isNone = i.passphrase.isNone at hmissing
    change i'.passphrase.isSome = i.passphrase.isSome
    rw [← Option.not_isNone, ← Option.not_isNone, hmissing]
  dbPassword := by
    have hmissing := h.missing .dbPassword
    change i'.dbPassword.isNone = i.dbPassword.isNone at hmissing
    change i'.dbPassword.isSome = i.dbPassword.isSome
    rw [← Option.not_isNone, ← Option.not_isNone, hmissing]

end SameStart

theorem Invocation.input_prepared (i : Invocation) (d : Defaults) (s : Session) :
    (i.prepared d s).input = s.input := by
  have hgreeted : (i.greeted s).input = s.input := by
    rw [greeted, greet]
    cases i.switches.verbose
    · rfl
    · rw [if_pos rfl, Emitter.start_message]
      rfl
  exact hgreeted

section Runs

variable [Json.Nesting]

/-- What comes of provisioning for a command. -/
def Invocation.provisioned (i : Invocation) (d : Defaults) (v : Verb) (s : Session) :
    Except Error Outcome × Session :=
  (provision (i.configuration d) i.emitter v i).start (i.prepared d s)

theorem start_execute_provisioned (h : i.switches.contradict = false) (s : Session) :
    (execute d v i).start s =
      (conclude d v i (i.provisioned d v s).1).start (i.provisioned d v s).2 :=
  start_execute h s

/-- The same may be known of how two runs went: how provisioning ended, with which wallets and after
how many attempts for a passphrase, and what was answered when the outcome was recorded. -/
structure SameCourse (d : Defaults) (v : Verb) (i i' : Invocation) (s s' : Session) : Prop where
  known : (i.way v).SameKnown (i'.way v) (i.configuration d) i.request i'.request (i.prepared d s)
    (i'.prepared d s')
  recording : ∀ o u o' u', i.provisioned d v s = (.ok o, u) → i'.provisioned d v s' = (.ok o', u') →
    i'.recording (i.configuration d) o' u' = i.recording (i.configuration d) o u

/-- The lines that a run reads. -/
def Invocation.linesRead (i : Invocation) (d : Defaults) (v : Verb) (s : Session) : List String :=
  s.input.take (s.input.length - (i.provisioned d v s).2.input.length)

/-- A filling has the secrets of a run: the phrase that was generated, the one that was rejected, and
the line that was typed to go on without a passphrase. -/
structure Fits (d : Defaults) (v : Verb) (i : Invocation) (s : Session) (f : Filling) : Prop where
  phrase : ∀ o u, i.provisioned d v s = (.ok o, u) → f.phrase = o.phrase.getD ""
  rejected : ∀ r u, i.provisioned d v s = (.error (.mnemonicRejected r), u) → f.rejected = r.phrase
  acknowledgement : (i.way v).Acknowledges (i.configuration d) i.request (i.prepared d s)
    f.acknowledgement

/-- The secrets that a command tells of how provisioning ended: a phrase that it generated, and a phrase
that it rejected. -/
def Verb.told : Verb → Except Error Outcome → List Gap
  | .generate, .ok _ => [.phrase]
  | .recover, .ok _ => []
  | _, .error (.mnemonicRejected _) => [.rejected]
  | _, .error _ => []

/-- The secrets that a run tells. -/
def Invocation.told (i : Invocation) (d : Defaults) (v : Verb) (s : Session) : List Gap :=
  if i.switches.contradict then [] else v.told (i.provisioned d v s).1

theorem toldOf_provisioned (i : Invocation) (d : Defaults) (v : Verb) (s : Session) :
    toldOf (i.provisioned d v s).1 = v.told (i.provisioned d v s).1 := by
  rcases h : i.provisioned d v s with ⟨e | o, u⟩
  · cases v <;> cases e <;> rfl
  · obtain ⟨p, -, hphrase⟩ := made_of_provision h
    change toldOf (.ok o) = v.told (.ok o)
    rw [toldOf, hphrase]
    cases v <;> rfl

/-- How the lines are seen that a run reads: which of them are empty, and which are equal. -/
def Invocation.reader (i : Invocation) (d : Defaults) (v : Verb) (s : Session) : Reader where
  texts := (i.linesRead d v s).map Console.lineText
  stand text := Console.bar (Console.rank ((i.linesRead d v s).map Console.lineText) text)
  stands := Console.stands_rank _
  behind := (i.provisioned d v s).2.input

theorem Invocation.follows_reader (i : Invocation) (d : Defaults) (v : Verb) (s : Session) :
    Provision.Follows (i.reader d v s).texts (i.reader d v s).stand (i.reader d v s).behind
      (i.prepared d s) (Console.standIns (Console.pattern (i.linesRead d v s))) := by
  have hsuffix : (i.provisioned d v s).2.input <:+ s.input := by
    have hrun := (leaves_provision (i.configuration d) i.emitter v i (i.prepared d s)).input
    exact hrun.trans (same_prepared i d s).input
  refine ⟨i.linesRead d v s, ?_, fun l hl => List.mem_map_of_mem hl, ?_⟩
  · rw [input_prepared]
    exact (List.suffix_iff_eq_append.mp hsuffix).symm
  · rw [Console.standIns, Console.pattern, List.map_map]
    rfl

/-- Runs of which the same is known end in the same way and tell twin scripts when they conclude. -/
theorem twins_conclude (hstart : SameStart i i' s s') (hdebug : i.switches.debug = false)
    (hcourse : SameCourse d v i i' s s') (hf : Fits d v i s f) (hf' : Fits d v i' s' f')
    (pattern : Prop) (hcolors : (i'.provisioned d v s').2.colors = (i.provisioned d v s).2.colors)
    (heuid : (i'.provisioned d v s').2.euid = (i.provisioned d v s).2.euid) :
    ((conclude d v i' (i'.provisioned d v s').1).start (i'.provisioned d v s').2).1 =
        ((conclude d v i (i.provisioned d v s).1).start (i.provisioned d v s).2).1 ∧
      Twins pattern (toldOf (i.provisioned d v s).1) f f' (i.provisioned d v s).2
        (i'.provisioned d v s').2
        ((conclude d v i (i.provisioned d v s).1).start (i.provisioned d v s).2).2
        ((conclude d v i' (i'.provisioned d v s').1).start (i'.provisioned d v s').2).2 := by
  have hconfiguration : i'.configuration d = i.configuration d :=
    hstart.same (fun j => j.configuration d) fun _ => rfl
  have hemitter : i'.emitter = i.emitter := hstart.same (fun j => j.emitter) fun _ => rfl
  have hjson : i'.switches.json = i.switches.json :=
    hstart.same (fun j => j.switches.json) fun _ => rfl
  have hdebug' : i'.switches.debug = false :=
    (hstart.same (fun j => j.switches.debug) fun _ => rfl).trans hdebug
  have hending : Provision.maskedEnding (i'.provisioned d v s').1 =
      Provision.maskedEnding (i.provisioned d v s).1 := by
    have hknown := hcourse.known.ending
    rw [← provision_way, ← hconfiguration, ← provision_way, hconfiguration] at hknown
    rw [Invocation.provisioned, Invocation.provisioned, hconfiguration]
    exact hknown
  rcases hend : i.provisioned d v s with ⟨e | o, u⟩ <;>
    rcases hend' : i'.provisioned d v s' with ⟨e' | o', u'⟩
  · -- both stopped, for the same reason but for a secret in it
    rw [hend, hend'] at hcolors hending
    have hshown : u'.colors = u.colors := hcolors
    have hmasked : e'.masked = e.masked := by
      injection hending
    obtain ⟨hresult, hspoken⟩ := says_stop (f := f) (prints_emitter i) v e
      (fun r hr => hf.rejected r u (hr ▸ hend)) u
    obtain ⟨hresult', hspoken'⟩ := says_stop (f := f') (prints_emitter i') v e'
      (fun r hr => hf'.rejected r u' (hr ▸ hend')) u'
    rw [hmasked] at hresult'
    rw [hmasked, hshown] at hspoken'
    change ((stop i'.emitter v i'.switches.debug e').start u').1 =
        ((stop i.emitter v i.switches.debug e).start u).1 ∧
      Twins pattern (toldOf (.error e)) f f' u u' ((stop i.emitter v i.switches.debug e).start u).2
        ((stop i'.emitter v i'.switches.debug e').start u').2
    rw [hdebug, hdebug', hemitter]
    rw [hemitter] at hresult' hspoken'
    refine ⟨hresult'.trans hresult.symm, ?_⟩
    have htold : toldOf (.error e) = Session.gaps (stopScript i.emitter v u.colors e.masked) := by
      rw [gaps_stopScript]
      exact (toldOf_masked (.error e)).symm
    rw [htold]
    exact .of_same hspoken hspoken'
  · rw [hend, hend'] at hending
    cases hending
  · rw [hend, hend'] at hending
    cases hending
  · -- both have an outcome, and what is recorded of it succeeds or fails alike
    have hrecording := hcourse.recording o u o' u' hend hend'
    rw [hend, hend'] at hcolors heuid hending
    have hshown : u'.colors = u.colors := hcolors
    have huser : u'.euid = u.euid := heuid
    have hmasked : o'.masked = o.masked := Except.ok.inj hending
    obtain ⟨hresult, hspoken⟩ := says_finish (f := f) (i.configuration d) v i o (hf.phrase o u hend) u
    obtain ⟨hresult', hspoken'⟩ :=
      says_finish (f := f') (i.configuration d) v i' o' (hf'.phrase o' u' hend') u'
    rw [hrecording] at hresult'
    rw [hrecording, hmasked, hshown, huser, hemitter, hjson] at hspoken'
    change ((finish (i'.configuration d) i'.emitter v i'.switches.json o').start u').1 =
        ((finish (i.configuration d) i.emitter v i.switches.json o).start u).1 ∧
      Twins pattern (toldOf (.ok o)) f f' u u'
        ((finish (i.configuration d) i.emitter v i.switches.json o).start u).2
        ((finish (i'.configuration d) i'.emitter v i'.switches.json o').start u').2
    rw [hconfiguration]
    refine ⟨hresult'.trans hresult.symm, ?_⟩
    have htold : toldOf (.ok o) = Session.gaps (finishScript (i.configuration d) i.emitter v
        i.switches.json u.colors u.euid o.masked (i.recording (i.configuration d) o u)) := by
      rw [gaps_finishScript]
      exact (toldOf_masked (.ok o)).symm
    rw [htold, hemitter, hjson]
    exact .of_same hspoken hspoken'

/-- The pattern of the lines that are read is the same in two runs. -/
def SamePattern (d : Defaults) (v : Verb) (i i' : Invocation) (s s' : Session) : Prop :=
  Console.pattern (i'.linesRead d v s') = Console.pattern (i.linesRead d v s)

/-- Provisioning of which the same is known tells twin scripts. -/
theorem twins_provisioned (hstart : SameStart i i' s s') (hcourse : SameCourse d v i i' s s')
    (hf : Fits d v i s f) (hf' : Fits d v i' s' f') :
    Twins (SamePattern d v i i' s s') [] f f' (i.prepared d s) (i'.prepared d s')
      (i.provisioned d v s).2 (i'.provisioned d v s').2 := by
  have hconfiguration : i'.configuration d = i.configuration d :=
    hstart.same (fun j => j.configuration d) fun _ => rfl
  have hsame := same_prepared i d s
  have hsame' := same_prepared i' d s'
  have hpaired : Provision.Paired (SamePattern d v i i' s s') (i.reader d v s) (i'.reader d v s')
      (i.prepared d s) (i'.prepared d s')
      (Console.standIns (Console.pattern (i.linesRead d v s)))
      (Console.standIns (Console.pattern (i'.linesRead d v s'))) :=
    ⟨by rw [hsame.colors, hsame'.colors, hstart.colors],
      by rw [hsame.environment, hsame'.environment, hstart.inVariable],
      i.follows_reader d v s, i'.follows_reader d v s', fun h => congrArg Console.standIns h⟩
  have hack' := hf'.acknowledgement
  rw [hconfiguration] at hack'
  have htwins := (hstart.kindred v).twins_of_reaches (c := i.configuration d) hcourse.known
    hf.acknowledgement hack'
    (by rw [← provision_way]; exact List.suffix_refl _)
    (by rw [← hconfiguration, ← provision_way]; exact List.suffix_refl _)
    8 rfl .guard .start .start hpaired
  rw [← provision_way, ← hconfiguration, ← provision_way, hconfiguration] at htwins
  rw [Invocation.provisioned, Invocation.provisioned, hconfiguration]
  exact htwins

/-- Secrets leave a run only through the report of a new phrase and the message about a phrase that was
rejected. Two runs that are not in debug mode, and of which the same may be known, end in the same way
and log the same; their consoles show the same script, if the lines that were read have the same
pattern. A script has a gap for the new phrase when it was generated, one for the phrase that was
rejected, and no other for a secret; else it shows the line that was typed to go on without a
passphrase. -/
theorem secrets_confined {args args' : List String}
    (horder : Order.ofArguments s.environment args = .ok (.run v i))
    (horder' : Order.ofArguments s'.environment args' = .ok (.run v i'))
    (hdebug : i.switches.debug = false) (hstart : SameStart i i' s s')
    (hcourse : i.switches.contradict = false → SameCourse d v i i' s s')
    (hf : Fits d v i s f) (hf' : Fits d v i' s' f') :
    ((run d args').start s').1 = ((run d args).start s).1 ∧
      ((run d args').start s').2.journal = ((run d args).start s).2.journal ∧
      Twins (SamePattern d v i i' s s') (i.told d v s) f f' s s' ((run d args).start s).2
        ((run d args').start s').2 := by
  -- Twins that start with one journal log the same, so that only the scripts have to be compared.
  suffices h : ((execute d v i').start s').1 = ((execute d v i).start s).1 ∧
      Twins (SamePattern d v i i' s s') (i.told d v s) f f' s s' ((execute d v i).start s).2
        ((execute d v i').start s').2 by
    rw [start_run horder, start_run horder']
    exact ⟨h.1, h.2.journal hstart.journal hstart.stamp, h.2⟩
  have hcontradict : i'.switches.contradict = i.switches.contradict :=
    hstart.same (fun j => j.switches.contradict) fun _ => rfl
  rw [Invocation.told]
  cases hswitches : i.switches.contradict with
  | true =>
    rw [hswitches] at hcontradict
    have hcontradiction : i'.contradiction v = i.contradiction v :=
      hstart.same (fun j => j.contradiction v) fun _ => rfl
    obtain ⟨hresult, hspoken⟩ := says_contradiction (f := f) i v s
    obtain ⟨hresult', hspoken'⟩ := says_contradiction (f := f') i v s'
    rw [execute_eq_contradiction hswitches, execute_eq_contradiction hcontradict, hcontradiction]
    rw [hstart.colors] at hspoken'
    refine ⟨hresult'.trans hresult.symm, ?_⟩
    rw [if_pos rfl, ← gaps_contradictionScript i v s.colors]
    exact .of_same hspoken hspoken'
  | false =>
    rw [hswitches] at hcontradict
    have hknown := hcourse hswitches
    have hprepare : Twins (SamePattern d v i i' s s') [] f f' s s' (i.prepared d s)
        (i'.prepared d s') := by
      have hscript : i'.prepareScript d s'.colors = i.prepareScript d s.colors := by
        rw [hstart.colors]
        exact hstart.same (fun j => j.prepareScript d s.colors) fun _ => rfl
      rw [← i.gaps_prepareScript d s.colors]
      exact .of_same (i.says_prepared d s) (hscript ▸ i'.says_prepared d s')
    have hprovisioned := twins_provisioned hstart hknown hf hf'
    have hleaves := leaves_provision (i.configuration d) i.emitter v i (i.prepared d s)
    have hleaves' := leaves_provision (i'.configuration d) i'.emitter v i' (i'.prepared d s')
    have hsame := (same_prepared i d s).trans hleaves
    have hsame' := (same_prepared i' d s').trans hleaves'
    obtain ⟨hresult, hconclude⟩ := twins_conclude hstart hdebug hknown hf hf'
      (SamePattern d v i i' s s')
      (hsame'.colors.trans (hstart.colors.trans hsame.colors.symm))
      (hsame'.euid.trans (hstart.euid.trans hsame.euid.symm))
    rw [start_execute_provisioned hswitches, start_execute_provisioned hcontradict,
      if_neg Bool.false_ne_true, ← toldOf_provisioned]
    exact ⟨hresult, (hprepare.trans hprovisioned).trans hconclude⟩

end Runs

open scoped Json.Nesting

/-- What a recovery from a single word is run with. -/
def wordInvocation (word : String) : Invocation :=
  { Invocation.ofEnvironment [] with words := some [word] }

/-- A single word is rejected. -/
theorem fails_word (word : String) : ∃ p u t,
    ((wordInvocation word).way .recover).Reaches plain (wordInvocation word).request
      ((wordInvocation word).prepared plainDefaults (.bare [])) p u ∧ p.stage = 3 ∧
    ((wordInvocation word).way .recover).step plain (wordInvocation word).request p u =
      (.error (.mnemonicRejected ⟨word, .english, .wordCount 1⟩), t) := by
  have hrejected : ∀ s, ((wordInvocation word).way .recover).step plain
      (wordInvocation word).request (.phrase .english (.derived Provision.defaultEarningPath)) s =
      (.error (.mnemonicRejected ⟨word, .english, .wordCount 1⟩),
        s.noted .warn Provision.Flow.source
          (Provision.Way.rejectedNote .english (.wordCount 1))) := fun _ => rfl
  exact ⟨_, _, _, Provision.Way.reaches_phrase rfl find?_english chosen_default, rfl, hrejected _⟩

theorem provisioned_word (word : String) : ∃ u,
    (wordInvocation word).provisioned plainDefaults .recover (.bare []) =
      (.error (.mnemonicRejected ⟨word, .english, .wordCount 1⟩), u) := by
  obtain ⟨p, u, t, hreaches, -, hfails⟩ := fails_word word
  have hstart := Provision.Way.start_of_fails hreaches hfails
  rw [← provision_way] at hstart
  exact ⟨t, hstart⟩

theorem stage_le_word {word : String} {p : Provision.Position} {u : Session}
    (h : ((wordInvocation word).way .recover).Reaches plain (wordInvocation word).request
      ((wordInvocation word).prepared plainDefaults (.bare [])) p u) : p.stage ≤ 3 := by
  obtain ⟨q, v, t, hreaches, hstage, hfails⟩ := fails_word word
  exact hstage ▸ Provision.Way.stage_le_of_fails hreaches hfails h

theorem fits_word (word : String) :
    Fits plainDefaults .recover (wordInvocation word) (.bare []) ⟨"", word, ""⟩ where
  phrase o u h := by
    obtain ⟨t, ht⟩ := provisioned_word word
    rw [ht] at h
    cases h
  rejected r u h := by
    obtain ⟨t, ht⟩ := provisioned_word word
    rw [ht] at h
    cases h
    rfl
  acknowledgement _ _ _ _ h := absurd (stage_le_word h) (by decide : ¬4 ≤ 3)

theorem sameCourse_word (word word' : String) :
    SameCourse plainDefaults .recover (wordInvocation word) (wordInvocation word') (.bare [])
      (.bare []) := by
  obtain ⟨t, ht⟩ := provisioned_word word
  obtain ⟨t', ht'⟩ := provisioned_word word'
  have hprovision := ht
  have hprovision' := ht'
  rw [Invocation.provisioned, provision_way] at hprovision hprovision'
  have hending : Provision.maskedEnding ((((wordInvocation word').way .recover).provision plain
      (wordInvocation word').request).start
        ((wordInvocation word').prepared plainDefaults (.bare []))).1 =
      Provision.maskedEnding ((((wordInvocation word).way .recover).provision plain
        (wordInvocation word).request).start
          ((wordInvocation word).prepared plainDefaults (.bare []))).1 := by
    rw [show plain = (wordInvocation word').configuration plainDefaults from rfl, hprovision']
    rw [show (wordInvocation word').configuration plainDefaults =
      (wordInvocation word).configuration plainDefaults from rfl, hprovision]
    rfl
  refine ⟨⟨hending, fun _ _ _ _ _ _ _ _ _ h _ => absurd (stage_le_word h) (by decide : ¬4 ≤ 3),
    fun _ _ _ _ _ _ h _ => absurd (stage_le_word h) (by decide : ¬7 ≤ 3)⟩, fun o u o' u' h _ => ?_⟩
  rw [ht] at h
  cases h

/-- Two recoveries from different words that are rejected. -/
theorem secrets_confined_words :
    ((run plainDefaults ["recover-wallet", "--mnemonic", "y"]).start (.bare [])).1 =
        ((run plainDefaults ["recover-wallet", "--mnemonic", "x"]).start (.bare [])).1 ∧
      ((run plainDefaults ["recover-wallet", "--mnemonic", "y"]).start (.bare [])).2.journal =
        ((run plainDefaults ["recover-wallet", "--mnemonic", "x"]).start (.bare [])).2.journal ∧
      Twins (SamePattern plainDefaults .recover (wordInvocation "x") (wordInvocation "y") (.bare [])
          (.bare []))
        ((wordInvocation "x").told plainDefaults .recover (.bare [])) ⟨"", "x", ""⟩ ⟨"", "y", ""⟩
        (.bare []) (.bare [])
        ((run plainDefaults ["recover-wallet", "--mnemonic", "x"]).start (.bare [])).2
        ((run plainDefaults ["recover-wallet", "--mnemonic", "y"]).start (.bare [])).2 := by
  have hstart : SameStart (wordInvocation "x") (wordInvocation "y") (.bare []) (.bare []) := by
    refine ⟨rfl, fun k => ?_, rfl, rfl, rfl, rfl, rfl⟩
    cases k <;> rfl
  exact secrets_confined rfl rfl rfl hstart (fun _ => sameCourse_word "x" "y") (fits_word "x")
    (fits_word "y")

/-- A command line for a recovery that gives only a passphrase, and asks for all log messages. -/
def askingArguments : List String :=
  ["recover-wallet", "--mnemonic-passphrase", "p", "--log-level", "debug"]

/-- What the recovery is run with. -/
def askingInvocation : Invocation :=
  { Invocation.ofEnvironment [] with passphrase := some "p", logLevel := .debug }

theorem order_asking (input : List String) :
    Order.ofArguments (Session.bare input).environment askingArguments =
      .ok (.run .recover askingInvocation) := rfl

theorem reaches_asking (input : List String) :
    (askingInvocation.way .recover).Reaches plain askingInvocation.request
      (askingInvocation.prepared plainDefaults (.bare input))
      (.phrase .english (.derived Provision.defaultEarningPath))
      ((askingInvocation.prepared plainDefaults (.bare input)).noted .debug Provision.Guard.source
        "No persisted mnemonic seed found") :=
  Provision.Way.reaches_phrase rfl find?_english chosen_default

theorem provisioned_of_no_line :
    ∃ u, askingInvocation.provisioned plainDefaults .recover (.bare []) =
      (.error (.inputFailed .phrase), u) ∧ ∀ text message,
        ((u.printed text).noted .warn Console.Emitter.source message).journal.collected.length = 2 :=
  ⟨_, (provision_way _ _ _).symm ▸ Provision.Way.start_of_fails (reaches_asking []) rfl,
    fun _ _ => rfl⟩

theorem provisioned_of_one_line :
    ∃ u, askingInvocation.provisioned plainDefaults .recover
        (.bare [Console.typedLine zeroPhrase]) = (.error (.inputFailed .dbPassword), u) ∧
      ∀ text message,
        ((u.printed text).noted .warn Console.Emitter.source message).journal.collected.length = 3 := by
  have hreaches := reaches_asking [Console.typedLine zeroPhrase]
  have hwords : ∀ s : Session, s.input = [Console.typedLine zeroPhrase] →
      (askingInvocation.way .recover).step plain askingInvocation.request
        (.phrase .english (.derived Provision.defaultEarningPath)) s =
      (.ok (.passphrase .english (.derived Provision.defaultEarningPath) zeroPhrase),
        (Provision.Collect.asked s (askingInvocation.emitter.said s.colors .white
          Provision.Collect.phraseInstructions)
          (Console.filled (Provision.Collect.promptShown s.colors
            Provision.Collect.phraseQuestion)))) := by
    intro s hinput
    change Provision.Step.asking true .mnemonic (Provision.Collect.words askingInvocation.emitter) s
      (Provision.Step.words .english (.derived Provision.defaultEarningPath)) = _
    rw [Provision.Step.asking, if_pos rfl, Provision.Collect.start_words, hinput,
      Console.filled_typed typable_zeroPhrase]
    dsimp only
    rw [Provision.Step.words, validate_zeroPhrase]
  have hgiven : ∀ (phrase : String) (s : Session),
      (askingInvocation.way .recover).step plain askingInvocation.request
        (.passphrase .english (.derived Provision.defaultEarningPath) phrase) s =
      (.ok (.dbPassword .english (.derived Provision.defaultEarningPath) phrase "p"),
        s.noted .debug Provision.Flow.source
          "Using the mnemonic passphrase supplied on the command line or environment") :=
    fun _ _ => rfl
  have hread : ∀ (s : Session) (notice prompt message : String),
      s.input = [Console.typedLine zeroPhrase] →
      ((Provision.Collect.asked s notice (Console.filled prompt)).noted .debug Provision.Flow.source
        message).input = [] := by
    intro s notice prompt message hinput
    change (Console.filled prompt s.input).rest = []
    rw [hinput, Console.filled_typed typable_zeroPhrase]
  have hroom : ∀ (s : Session) (notice message : String)
      (dialog : List String → Console.Dialog (Option String)), s.environment = [] →
      ((Provision.Collect.asked s notice dialog).noted .debug Provision.Flow.source
        message).environment = [] := fun _ _ _ _ h => h
  have hphrase := hreaches.next (by decide) (hwords _ rfl)
  have hpassphrase := hphrase.next (by decide) (hgiven _ _)
  have hfails := Provision.Way.start_of_fails hpassphrase
    (Provision.Way.step_dbPassword_of_end rfl rfl (hread _ _ _ _ rfl) (hroom _ _ _ _ rfl) _ _ _ _)
  rw [← provision_way] at hfails
  exact ⟨_, hfails, fun _ _ => rfl⟩

theorem conclude_asking (q : Provision.Question) (s : Session) :
    (conclude plainDefaults .recover askingInvocation (.error (.inputFailed q))).start s =
      (.ok 70, (s.printed (askingInvocation.emitter.said s.colors .red
        (Error.inputFailed q).message)).noted .warn Emitter.source
          ("Wallet " ++ Verb.recover.done ++ " stopped: " ++ "InteractiveInputFailed")) :=
  start_stopAs_some _ _ _ _ _ _

theorem collected_of_no_line :
    ((run plainDefaults askingArguments).start (.bare [])).2.journal.collected.length = 2 := by
  obtain ⟨u, hu, hcollected⟩ := provisioned_of_no_line
  rw [start_run (order_asking _), start_execute_provisioned rfl, hu, conclude_asking]
  exact hcollected _ _

theorem collected_of_one_line : ((run plainDefaults askingArguments).start
    (.bare [Console.typedLine zeroPhrase])).2.journal.collected.length = 3 := by
  obtain ⟨u, hu, hcollected⟩ := provisioned_of_one_line
  rw [start_run (order_asking _), start_execute_provisioned rfl, hu, conclude_asking]
  exact hcollected _ _

/-- What a generation without options is run with. -/
def bareInvocation : Invocation := Invocation.ofEnvironment []

/-- The lines of an operator who wants no passphrase and goes on with a line. -/
def goingOn (line : String) : List String := ["\n", "\n", Console.typedLine line]

theorem reaches_goingOn : ∃ (s : Session) (phrase : String), s.environment = [] ∧
    ∀ input, (bareInvocation.way .generate).Reaches plain bareInvocation.request
      (bareInvocation.prepared plainDefaults (.bare input))
      (.passphrase .english (.derived Provision.defaultEarningPath) phrase)
      { s with input := input } := by
  have hphrase : ∀ s, (bareInvocation.way .generate).step plain bareInvocation.request
      (.phrase .english (.derived Provision.defaultEarningPath)) s =
      (.ok (.passphrase .english (.derived Provision.defaultEarningPath)
          (Mnemonic.display .english (Mnemonic.ofEntropy .english (s.upcoming 16)))),
        (s.withDrawn 16).noted .info Provision.Flow.source
          (Provision.Way.generatedNote 12 .english)) := fun _ => rfl
  let s := (bareInvocation.prepared plainDefaults (.bare [])).noted .debug Provision.Guard.source
    "No persisted mnemonic seed found"
  refine ⟨(s.withDrawn 16).noted .info Provision.Flow.source
    (Provision.Way.generatedNote 12 .english),
    Mnemonic.display .english (Mnemonic.ofEntropy .english (s.upcoming 16)), rfl, fun input => ?_⟩
  have hreaches : (bareInvocation.way .generate).Reaches plain bareInvocation.request
      (bareInvocation.prepared plainDefaults (.bare input))
      (.phrase .english (.derived Provision.defaultEarningPath))
      ((bareInvocation.prepared plainDefaults (.bare input)).noted .debug Provision.Guard.source
        "No persisted mnemonic seed found") :=
    Provision.Way.reaches_phrase rfl find?_english chosen_default
  exact hreaches.next (by decide) (hphrase _)

/-- The exchange for a passphrase when none is wanted. -/
theorem dialog_goingOn (e : Emitter) (request : Provision.Collect.PassphraseRequest)
    (colors : Bool) (line : String) :
    request.dialog e Provision.Collect.maxAttempts colors (goingOn line) =
      ⟨.agreed "" 1, Console.hiddenLine (request.confirmation e colors).prompt ++
        Console.hiddenLine (request.confirmation e colors).again, [Console.typedLine line]⟩ := by
  have hblank : Console.lineText "\n" = "" := by decide
  rw [Provision.Collect.PassphraseRequest.dialog, goingOn, Console.passphrase_repeated, hblank]

/-- The line is shown behind the question that it answers. -/
theorem passphrase_goingOn (e : Emitter) (request : Provision.Collect.PassphraseRequest)
    (s : Session) : ∃ (u : Session) (before : String), u.environment = s.environment ∧
      ∀ line, Console.Typable line →
        (Provision.Collect.passphrase e request Provision.Collect.maxAttempts).start
          { s with input := goingOn line } =
        (.ok "", { u with input := [], output :=
          before ++ (Provision.Collect.acknowledgeQuestion ++ line ++ "\n") }) := by
  let u := ((s.printed (e.said s.colors .white request.notice)).printed
    (Console.hiddenLine (request.confirmation e s.colors).prompt ++
      Console.hiddenLine (request.confirmation e s.colors).again)).noted .debug
        Emitter.source (Provision.Collect.confirmedNote 1)
  refine ⟨u, u.output ++ e.said s.colors .yellow Provision.Collect.noPassphraseWarning, rfl,
    fun line hline => ?_⟩
  have hshown : Console.visible Provision.Collect.acknowledgeQuestion [Console.typedLine line] =
      ⟨some line, Provision.Collect.acknowledgeQuestion ++ line ++ "\n", []⟩ := by
    rw [Console.visible, Console.lineText_typedLine hline]
  rw [Provision.Collect.start_passphrase]
  simp only [Provision.Collect.asked, Session.printed, dialog_goingOn]
  rw [Provision.Collect.start_accept, if_pos rfl]
  simp only [Provision.Collect.asked, Session.printed, Session.conversed, Session.noted,
    Session.recorded, hshown]
  rfl

/-- The generation gets to the password, of which it finds no line. -/
theorem fails_goingOn : ∃ (s u : Session) (phrase before after : String), u.input = [] ∧
    ∀ line, Console.Typable line →
      (bareInvocation.way .generate).Reaches plain bareInvocation.request
        (bareInvocation.prepared plainDefaults (.bare (goingOn line)))
        (.passphrase .english (.derived Provision.defaultEarningPath) phrase)
        { s with input := goingOn line } ∧
      (∀ q v, (bareInvocation.way .generate).Reaches plain bareInvocation.request
        (bareInvocation.prepared plainDefaults (.bare (goingOn line))) q v → q.stage ≤ 5) ∧
      bareInvocation.provisioned plainDefaults .generate (.bare (goingOn line)) =
        (.error (.inputFailed .dbPassword), { u with output :=
          before ++ (Provision.Collect.acknowledgeQuestion ++ line ++ "\n") ++ after }) := by
  obtain ⟨s, phrase, henvironment, hreaches⟩ := reaches_goingOn
  obtain ⟨u, before, hkept, hasked⟩ := passphrase_goingOn bareInvocation.emitter
    (bareInvocation.way .generate).passphraseRequest s
  refine ⟨s, { u with input := [] }, phrase, before,
    bareInvocation.emitter.said u.colors .white Provision.Collect.dbPasswordNotice ++
      Console.hiddenEnd (Provision.Collect.passwordConfirmation u.colors).prompt, rfl,
    fun line hline => ?_⟩
  have hpassphrase : (bareInvocation.way .generate).step plain bareInvocation.request
      (.passphrase .english (.derived Provision.defaultEarningPath) phrase)
      { s with input := goingOn line } =
      (.ok (.dbPassword .english (.derived Provision.defaultEarningPath) phrase ""),
        { u with input := [], output :=
          before ++ (Provision.Collect.acknowledgeQuestion ++ line ++ "\n") }) := by
    have hnone : bareInvocation.request.passphrase = none := rfl
    have hasks : bareInvocation.request.interactive = true := rfl
    have hemitter : bareInvocation.request.emitter = bareInvocation.emitter := rfl
    rw [Provision.Way.step_passphrase_asking hnone hasks, hemitter, hasked line hline,
      Provision.Step.through]
  have hpassword := (hreaches (goingOn line)).next (show 4 < 8 by decide) hpassphrase
  have hends := Provision.Way.step_dbPassword_of_end (w := bareInvocation.way .generate) (c := plain)
    (r := bareInvocation.request) (s := { u with input := [], output :=
      before ++ (Provision.Collect.acknowledgeQuestion ++ line ++ "\n") })
    rfl rfl rfl (hkept.trans henvironment) .english (.derived Provision.defaultEarningPath) phrase ""
  have hfails := Provision.Way.start_of_fails hpassword hends
  rw [← provision_way] at hfails
  refine ⟨hreaches _, fun q v hq => Provision.Way.stage_le_of_fails hpassword hends hq,
    hfails.trans ?_⟩
  simp only [Provision.Collect.asked, Session.printed, Session.conversed, Console.twice,
    String.append_assoc]
  rfl

theorem order_goingOn (input : List String) :
    Order.ofArguments (Session.bare input).environment ["generate-wallet"] =
      .ok (.run .generate bareInvocation) := rfl

/-- The line makes no difference to the course of the generation. -/
theorem sameCourse_goingOn {line line' : String} (hline : Console.Typable line)
    (hline' : Console.Typable line') :
    SameCourse plainDefaults .generate bareInvocation bareInvocation (.bare (goingOn line))
      (.bare (goingOn line')) := by
  obtain ⟨s, u, phrase, before, after, -, hall⟩ := fails_goingOn
  obtain ⟨hreaches, hstages, hprovisioned⟩ := hall line hline
  obtain ⟨hreaches', -, hprovisioned'⟩ := hall line' hline'
  refine ⟨⟨?_, ?_, fun _ _ _ _ _ _ h _ => absurd (hstages _ _ h) (by decide : ¬7 ≤ 5)⟩,
    fun o v o' v' h _ => ?_⟩
  · have hprovision := hprovisioned
    have hprovision' := hprovisioned'
    rw [Invocation.provisioned, provision_way] at hprovision hprovision'
    rw [hprovision', hprovision]
  · intro l e p t l' e' p' t' _ hpassphrase hpassphrase'
    obtain ⟨-, rfl⟩ := Provision.Way.reaches_unique hreaches hpassphrase rfl
    obtain ⟨-, rfl⟩ := Provision.Way.reaches_unique hreaches' hpassphrase' rfl
    rw [Provision.Way.attempts, Provision.Way.attempts, dialog_goingOn, dialog_goingOn]
  · rw [hprovisioned] at h
    cases h

theorem samePattern_goingOn :
    SamePattern plainDefaults .generate bareInvocation bareInvocation (.bare (goingOn "x"))
      (.bare (goingOn "y")) := by
  obtain ⟨s, u, phrase, before, after, hinput, hall⟩ := fails_goingOn
  have hread : ∀ line, Console.Typable line →
      bareInvocation.linesRead plainDefaults .generate (.bare (goingOn line)) = goingOn line := by
    intro line hline
    rw [Invocation.linesRead, (hall line hline).2.2]
    change (goingOn line).take (3 - u.input.length) = goingOn line
    rw [hinput]
    rfl
  rw [SamePattern, hread "x" ⟨by decide, by decide, by decide⟩,
    hread "y" ⟨by decide, by decide, by decide⟩]
  decide

/-- The output has the line in it, and hangs on it in no other way. -/
theorem output_goingOn : ∃ before after : String, ∀ line, Console.Typable line →
    ((run plainDefaults ["generate-wallet"]).start (.bare (goingOn line))).2.output =
      before ++ line ++ after := by
  obtain ⟨s, u, phrase, before, after, -, hall⟩ := fails_goingOn
  have hconclude : ∀ v : Session,
      (conclude plainDefaults .generate bareInvocation (.error (.inputFailed .dbPassword))).start v =
        (.ok 70, (v.printed (bareInvocation.emitter.said v.colors .red
          (Error.inputFailed .dbPassword).message)).noted .warn Emitter.source
            ("Wallet " ++ Verb.generate.done ++ " stopped: " ++ "InteractiveInputFailed")) :=
    fun v => start_stopAs_some _ _ _ _ _ _
  refine ⟨before ++ Provision.Collect.acknowledgeQuestion, "\n" ++ after ++
    bareInvocation.emitter.said u.colors .red (Error.inputFailed .dbPassword).message ++
      (Log.Journal.note u.stamp .warn Emitter.source
        (some ("Wallet " ++ Verb.generate.done ++ " stopped: " ++ "InteractiveInputFailed"))
          u.journal).2, fun line hline => ?_⟩
  rw [start_run (order_goingOn _), start_execute_provisioned rfl, (hall line hline).2.2, hconclude]
  simp only [Session.printed, Session.noted, Session.recorded, String.append_assoc]

/-- What may be known of two runs has to include where the input ended, and what they show hangs on the
line that was typed to go on without a passphrase. Two recoveries are run with the same options and the
same secrets given, neither asks for a passphrase, and both fail for want of a line; but one of them
gets past the phrase and logs that a passphrase was supplied. And two generations go the same course,
read lines of the same pattern and tell no secret, but show different lines. -/
theorem confinement_wants_more :
    (SameStart askingInvocation askingInvocation (.bare [])
        (.bare [Console.typedLine zeroPhrase]) ∧
      askingInvocation.missing .passphrase = false ∧
      (∃ q u, askingInvocation.provisioned plainDefaults .recover (.bare []) =
        (.error (.inputFailed q), u)) ∧
      (∃ q u, askingInvocation.provisioned plainDefaults .recover
        (.bare [Console.typedLine zeroPhrase]) = (.error (.inputFailed q), u)) ∧
      ((run plainDefaults askingArguments).start
          (.bare [Console.typedLine zeroPhrase])).2.journal.collected ≠
        ((run plainDefaults askingArguments).start (.bare [])).2.journal.collected) ∧
    SameStart bareInvocation bareInvocation (.bare (goingOn "x")) (.bare (goingOn "y")) ∧
      SameCourse plainDefaults .generate bareInvocation bareInvocation (.bare (goingOn "x"))
        (.bare (goingOn "y")) ∧
      SamePattern plainDefaults .generate bareInvocation bareInvocation (.bare (goingOn "x"))
        (.bare (goingOn "y")) ∧
      bareInvocation.told plainDefaults .generate (.bare (goingOn "x")) = [] ∧
      ((run plainDefaults ["generate-wallet"]).start (.bare (goingOn "y"))).2.output ≠
        ((run plainDefaults ["generate-wallet"]).start (.bare (goingOn "x"))).2.output := by
  obtain ⟨u, hu, -⟩ := provisioned_of_no_line
  obtain ⟨w, hw, -⟩ := provisioned_of_one_line
  have hx : Console.Typable "x" := ⟨by decide, by decide, by decide⟩
  have hy : Console.Typable "y" := ⟨by decide, by decide, by decide⟩
  refine ⟨⟨⟨rfl, fun _ => rfl, rfl, rfl, rfl, rfl, rfl⟩, rfl, ⟨_, u, hu⟩, ⟨_, w, hw⟩, fun hsame => ?_⟩,
    ⟨rfl, fun _ => rfl, rfl, rfl, rfl, rfl, rfl⟩, sameCourse_goingOn hx hy, samePattern_goingOn, ?_,
    fun hsame => ?_⟩
  · have hlong := collected_of_one_line
    rw [hsame, collected_of_no_line] at hlong
    cases hlong
  · obtain ⟨s, v, phrase, before, after, -, hall⟩ := fails_goingOn
    rw [Invocation.told, (hall "x" hx).2.2]
    rfl
  · obtain ⟨before, after, houtput⟩ := output_goingOn
    rw [houtput "x" hx, houtput "y" hy] at hsame
    have hchars := congrArg String.toList hsame
    simp at hchars

end HdProvision.Command
