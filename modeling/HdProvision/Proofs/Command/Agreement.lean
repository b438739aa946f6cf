import HdProvision.Proofs.Command.Completion
import HdProvision.Proofs.Command.Execution
import HdProvision.Proofs.Command.Supply
import HdProvision.Proofs.Provision.Provided

/-!
# The ways of supplying secrets agree

Whether the secrets of a command are given by options, by variables or are typed, a run ends in the same
way and with the same files, and tells the same behind what it has asked and logged.
-/

set_option autoImplicit false

namespace HdProvision.Command

open Console (Emitter Typable typedLine)
open Program (Blind)
open Provision (Error Outcome Secrets Way)
open Session (Alike Peers)

variable {ε : Type}

theorem blind_echoError (text : String) : Blind (echoError text : Program ε Unit) := by
  refine Program.blind_get (fun s s' h => ?_) fun s => Program.blind_printError _
  rw [Session.displayed, Session.displayed, h.colors]

theorem blind_refuse (r : Refusal) : Blind (refuse r) := by
  cases r with
  | nothing => exact (blind_echoError _).bind fun _ => Program.blind_pure _
  | usage scope fault => exact (blind_echoError _).bind fun _ => Program.blind_pure _
  | system e => exact Program.blind_throw _

theorem blind_reportFault (f : Provision.ConfigFault) : Blind (reportFault f : Program ε Nat) :=
  (blind_echoError _).bind fun _ => Program.blind_pure _

theorem blind_notify (d : Defaults) (n : Notice) : Blind (notify d n : Program ε Unit) := by
  cases n with
  | version => exact Program.blind_echo _
  | help => exact Program.blind_echo _
  | configPath =>
    refine Program.blind_get (fun s s' h => ?_) fun s => Program.blind_echo _
    rw [absolute, absolute, h.disk]
  | loggingPath =>
    refine Program.blind_get (fun s s' h => ?_) fun s => Program.blind_echo _
    rw [absolute, absolute, h.disk]

theorem blind_stopAs (e : Emitter) (v : Verb) (debug : Bool) (cause : Error)
    (ending : Option (String × Nat)) : Blind (stopAs e v debug cause ending) := by
  cases ending with
  | none => exact Program.blind_throw _
  | some ending =>
    have hsay : Blind (do
        e.say .red cause.message
        Emitter.note .warn ("Wallet " ++ v.done ++ " stopped: " ++ ending.1)
        return ending.2 : Program Error Nat) :=
      (Emitter.blind_say _ _ _).bind fun _ => (Program.blind_note _ _ _).bind fun _ =>
        Program.blind_pure _
    cases debug
    · exact hsay
    · exact (Program.blind_throw _).bind fun _ => hsay

theorem blind_stop (e : Emitter) (v : Verb) (debug : Bool) (cause : Error) :
    Blind (stop e v debug cause) := by
  by_cases hconfig : ∃ f, cause = .config f
  · obtain ⟨f, rfl⟩ := hconfig
    exact blind_reportFault f
  · rw [stop_of_not_config e v debug (not_exists.mp hconfig)]
    exact blind_stopAs _ _ _ _ _

theorem blind_finish [Json.Nesting] (c : Store.Configuration) (e : Emitter) (v : Verb) (json : Bool)
    (o : Outcome) : Blind (finish c e v json o) := by
  refine (Provision.Report.blind_paint _ _ _).bind fun _ =>
    (Provision.Save.blind_save _ _ _ _ _).handle fun r => ?_
  cases r with
  | ok a => exact Program.blind_pure _
  | error fault =>
    cases fault with
    | storage fault => exact blind_reportFault _
    | _ => exact Program.blind_throw _

theorem blind_conclude [Json.Nesting] (d : Defaults) (v : Verb) (i : Invocation) (r : Except Error Outcome) :
    Blind (conclude d v i r) := by
  cases r with
  | ok o => exact blind_finish _ _ _ _ _
  | error cause => exact blind_stop _ _ _ _

theorem blind_greet (i : Invocation) : Blind (i.greet : Program ε Unit) := by
  rw [Invocation.greet]
  cases i.switches.verbose
  · exact Program.blind_pure _
  · exact Emitter.blind_message _ _ _ _

/-- What is done for a command line by what it orders. -/
def carryOut [Json.Nesting] (d : Defaults) : Except Refusal Order → Program Error Nat
  | .error r => refuse r
  | .ok (.notice n) => do
    notify d n
    return 0
  | .ok (.help v) => do
    Session.echo (Scope.command v).helpText.toList
    return 0
  | .ok (.run v i) => execute d v i

theorem start_run_eq [Json.Nesting] (d : Defaults) (args : List String) (s : Session) :
    (run d args).start s = (carryOut d (Order.ofArguments s.environment args)).start s := by
  rw [run, Program.start_bind_of_ok (Program.start_get s)]
  rcases Order.ofArguments s.environment args with r | o
  · rfl
  · cases o <;> rfl

/-- No command is to be run. -/
def Idle (r : Except Refusal Order) : Prop := ∀ v i, r ≠ .ok (.run v i)

theorem Idle.map_withSecrets {r : Except Refusal Order} (h : Idle r) (texts : Secret → String)
    (ks : List Secret) : r.map (Order.withSecrets texts ks) = r := by
  rcases r with r | o
  · rfl
  · cases o with
    | run v i => exact absurd rfl (h v i)
    | _ => rfl

theorem blind_carryOut [Json.Nesting] {d : Defaults} {r : Except Refusal Order} (h : Idle r) :
    Blind (carryOut d r) := by
  rcases r with r | o
  · exact blind_refuse r
  · cases o with
    | notice n => exact (blind_notify d n).bind fun _ => Program.blind_pure 0
    | help v => exact (Program.blind_echo _).bind fun _ => Program.blind_pure 0
    | run v i => exact absurd rfl (h v i)

/-- A run whose switches contradict each other. -/
def Invocation.contradiction (i : Invocation) (v : Verb) : Program Error Nat :=
  if i.switches.verbose && i.switches.quiet then refuse (.usage (.command v) .verboseAndQuiet)
  else do
    i.greet
    refuse (.usage (.command v) .debugWithoutLogs)

theorem execute_eq_contradiction [Json.Nesting] {d : Defaults} {v : Verb} {i : Invocation}
    (h : i.switches.contradict = true) : execute d v i = i.contradiction v := by
  rw [execute_eq, Invocation.contradiction]
  cases hquiet : i.switches.verbose && i.switches.quiet with
  | true => exact bind_pure _
  | false =>
    rw [Switches.contradict, hquiet, Bool.false_or] at h
    simp only [h, if_true, bind_pure, Bool.false_eq_true, if_false]

theorem blind_contradiction (i : Invocation) (v : Verb) : Blind (i.contradiction v) := by
  rw [Invocation.contradiction]
  split
  · exact blind_refuse _
  · exact (blind_greet i).bind fun _ => blind_refuse _

/-- How a run ends does not depend on its secrets. -/
theorem conclude_unsecret [Json.Nesting] (d : Defaults) (v : Verb) (i : Invocation) (r : Except Error Outcome) :
    conclude d v i.unsecret r = conclude d v i r := by
  cases r <;> rfl

/-- The way that a command provisions. -/
def Invocation.way (i : Invocation) : Verb → Way
  | .generate => .generate i.wordCount.toNat .fresh
  | .recover => .recover i.words

theorem provision_way [Json.Nesting] (c : Store.Configuration) (v : Verb) (i : Invocation) :
    provision c i.emitter v i = (i.way v).provision c i.request := by
  cases v <;> rfl

/-- What a run has printed when it is about to tell how provisioning ended: questions, notices and what
is logged until then. -/
def asides [Json.Nesting] (d : Defaults) (args : List String) (s : Session) : String :=
  match Order.ofArguments s.environment args with
  | .ok (.run v i) =>
    if i.switches.contradict then s.output
    else ((provision (i.configuration d) i.emitter v i).start (i.prepared d s)).2.output
  | _ => s.output

theorem asides_of_idle [Json.Nesting] {d : Defaults} {args : List String} {s : Session}
    (h : Idle (Order.ofArguments s.environment args)) : asides d args s = s.output := by
  rw [asides]
  split
  · next v i horder => exact absurd horder (h v i)
  · rfl

/-- Two command lines, each in a session of its own, end in the same way and with the same files, and
tell the same behind their asides. -/
structure Agree [Json.Nesting] (d : Defaults) (args args' : List String) (s s' : Session) : Prop where
  result : ((run d args').start s').1 = ((run d args).start s).1
  disk : ((run d args').start s').2.disk = ((run d args).start s).2.disk
  handedOver : ((run d args').start s').2.handedOver = ((run d args).start s).2.handedOver
  errors : ((run d args').start s').2.errors = ((run d args).start s).2.errors
  told : ∃ text, ((run d args).start s).2.output = asides d args s ++ text ∧
    ((run d args').start s').2.output = asides d args' s' ++ text

theorem agree_of_alike [Json.Nesting] {d : Defaults} {args args' : List String} {s s' : Session}
    (hresult : ((run d args').start s').1 = ((run d args).start s).1)
    (halike : Alike (asides d args s) (asides d args' s') ((run d args).start s).2
      ((run d args').start s').2) : Agree d args args' s s' :=
  ⟨hresult, halike.disk, halike.handedOver, halike.errors, halike.said⟩

/-- A text for each secret, and the way that each of them is supplied. -/
structure Supplies where
  texts : Secret → String
  supply : Secret → Supply

namespace Supplies

/-- The secrets of a command that are supplied in some way. -/
def supplied (x : Supplies) (v : Verb) (by_ : Supply) : List Secret :=
  v.secrets.filter fun k => x.supply k = by_

/-- How often a secret is typed. -/
def times : Secret → Nat
  | .phrase => 1
  | .passphrase => 2
  | .dbPassword => 2

/-- The command line, with options for secrets in front of all others. -/
def arguments (x : Supplies) (v : Verb) (rest : List String) : List String :=
  v.name :: (Verb.optionsFor x.texts (x.supplied v .option) ++ rest)

/-- The lines that are typed. -/
def lines (x : Supplies) (v : Verb) : List String :=
  (x.supplied v .typed).flatMap fun k => List.replicate (times k) (typedLine (x.texts k))

/-- The session with variables for secrets, and with lines in front of all others. -/
def session (x : Supplies) (v : Verb) (s : Session) : Session :=
  { s with
    environment := Verb.variablesFor x.texts (x.supplied v .environment) ++ s.environment
    input := x.lines v ++ s.input }

variable {x : Supplies} {v : Verb} {i : Invocation} {k : Secret}

theorem mem_supplied {how : Supply} : k ∈ x.supplied v how ↔ k ∈ v.secrets ∧ x.supply k = how := by
  rw [supplied, List.mem_filter, decide_eq_true_iff]

/-- What a command is run with, when that has none of its secrets, with those that are not typed. -/
def invocation (x : Supplies) (v : Verb) (i : Invocation) : Invocation :=
  (i.withSecrets x.texts (x.supplied v .environment)).withSecrets x.texts (x.supplied v .option)

/-- The secrets of a run. -/
def secrets (x : Supplies) : Secrets := ⟨x.texts .phrase, x.texts .passphrase, x.texts .dbPassword⟩

theorem unsecret_invocation (x : Supplies) (v : Verb) (i : Invocation) :
    (x.invocation v i).unsecret = i.unsecret :=
  (Invocation.unsecret_withSecrets _ _ _).trans (Invocation.unsecret_withSecrets _ _ _)

theorem holds_invocation (hk : k ∈ v.secrets) (h : x.supply k ≠ .typed) :
    (x.invocation v i).Holds (x.texts k) k := by
  refine Invocation.holds_withSecrets ?_
  cases hsupply : x.supply k with
  | option => exact .inl (mem_supplied.mpr ⟨hk, hsupply⟩)
  | environment => exact .inr (Invocation.holds_withSecrets (.inl (mem_supplied.mpr ⟨hk, hsupply⟩)))
  | typed => exact absurd hsupply h

theorem lacks_invocation (h : x.supply k = .typed) (hi : i.Lacks k) :
    (x.invocation v i).Lacks k := by
  have hnot : ∀ how, how ≠ .typed → k ∉ x.supplied v how := fun how hne hmem =>
    hne ((mem_supplied.mp hmem).2.symm.trans h)
  exact Invocation.lacks_withSecrets (hnot _ (by decide))
    (Invocation.lacks_withSecrets (hnot _ (by decide)) hi)

/-- What a command line orders when secrets are supplied. -/
theorem order_arguments {rest : List String} {s : Session}
    (htyp : ∀ k ∈ v.secrets, Typable (x.texts k)) (hfree : ∀ k ∈ v.secrets, v.FreeOf k rest) :
    Order.ofArguments (x.session v s).environment (x.arguments v rest) =
      ((v.order s.environment rest).map
        (Order.withSecrets x.texts (x.supplied v .environment))).map
          (Order.withSecrets x.texts (x.supplied v .option)) := by
  have hmem : ∀ how, ∀ k ∈ x.supplied v how, k ∈ v.secrets := fun how k hk =>
    (mem_supplied.mp hk).1
  have henvironment : v.order (x.session v s).environment rest =
      (v.order s.environment rest).map
        (Order.withSecrets x.texts (x.supplied v .environment)) :=
    Verb.order_variablesFor (fun k hk => (htyp k (hmem _ k hk)).filled)
      fun k hk => hfree k (hmem _ k hk)
  rw [arguments, Order.ofArguments_name, ← henvironment]
  exact Verb.order_optionsFor (v.nodup_secrets.filter _) (hmem _) fun k hk => hfree k (hmem _ k hk)

theorem order_arguments_run {rest : List String} {s : Session}
    (htyp : ∀ k ∈ v.secrets, Typable (x.texts k)) (hfree : ∀ k ∈ v.secrets, v.FreeOf k rest)
    (h : v.order s.environment rest = .ok (.run v i)) :
    Order.ofArguments (x.session v s).environment (x.arguments v rest) =
      .ok (.run v (x.invocation v i)) := by
  rw [order_arguments htyp hfree, h]
  rfl

/-- A run is prepared the same whatever is typed and whatever the environment is. -/
theorem prepared_session (d : Defaults) (i : Invocation) (x : Supplies) (v : Verb) (s : Session) :
    i.prepared d (x.session v s) = x.session v (i.prepared d s) := by
  have hgreeted : i.greeted (x.session v s) = x.session v (i.greeted s) := by
    rw [Invocation.greeted, Invocation.greeted, Invocation.greet]
    cases i.switches.verbose
    · rfl
    · cases hprints : i.emitter.prints 1
      · simp only [Emitter.message, Emitter.echo, hprints]
        rfl
      · simp only [Emitter.message, Emitter.echo, hprints]
        rfl
  rw [Invocation.prepared, hgreeted]
  rfl

theorem prepared_invocation (x : Supplies) (d : Defaults) (v : Verb) (i : Invocation)
    (s : Session) : (x.invocation v i).prepared d (x.session v s) = x.session v (i.prepared d s) := by
  have hsame : (x.invocation v i).prepared d = i.prepared d :=
    congrArg (fun j => j.prepared d) (x.unsecret_invocation v i)
  rw [hsame, prepared_session]

theorem peers_session (x x' : Supplies) (v : Verb) (s : Session) :
    Peers (x.session v s) (x'.session v s) :=
  ⟨rfl, rfl, rfl, rfl, rfl, rfl, rfl, rfl, rfl, .refl _⟩

theorem provided_passphrase (hk : Secret.passphrase ∈ v.secrets)
    (htyp : Typable (x.texts .passphrase)) (hi : i.Lacks .passphrase) :
    Provision.Provided (x.invocation v i).passphrase (x.texts .passphrase) := by
  by_cases h : x.supply .passphrase = .typed
  · exact .inr ⟨lacks_invocation h hi, htyp⟩
  · exact .inl (holds_invocation hk h)

theorem provided_dbPassword (hk : Secret.dbPassword ∈ v.secrets)
    (htyp : Typable (x.texts .dbPassword)) (hi : i.Lacks .dbPassword) :
    Provision.Provided (x.invocation v i).dbPassword (x.texts .dbPassword) := by
  by_cases h : x.supply .dbPassword = .typed
  · exact .inr ⟨lacks_invocation h hi, htyp⟩
  · exact .inl (holds_invocation hk h)

/-- Exactly the secrets that are typed are missing. -/
theorem missing_invocation (hk : k ∈ v.secrets) (hi : i.Lacks k) :
    (x.invocation v i).missing k = decide (x.supply k = .typed) := by
  by_cases h : x.supply k = .typed
  · rw [decide_eq_true h]
    exact (lacks_invocation h hi).missing
  · rw [decide_eq_false h]
    exact (holds_invocation hk h).missing

theorem lines_eq (x : Supplies) (v : Verb) : x.lines v = v.secrets.flatMap fun k =>
    if x.supply k = .typed then List.replicate (times k) (typedLine (x.texts k)) else [] := by
  rw [lines, supplied]
  induction v.secrets with
  | nil => rfl
  | cons k ks ih =>
    rw [List.flatMap_cons, ← ih, List.filter_cons]
    by_cases h : x.supply k = .typed <;> simp [h]

/-- The lines that are typed are those that provisioning asks for. -/
theorem lines_eq_pending (hi : ∀ k ∈ v.secrets, i.Lacks k) :
    x.lines v = ((x.invocation v i).way v).pending ((x.invocation v i).request) x.secrets
      .guard := by
  have hmissing : ∀ k ∈ v.secrets, (x.supply k = .typed) =
      ((x.invocation v i).missing k = true) := by
    intro k hk
    rw [missing_invocation hk (hi k hk), decide_eq_true_eq]
  rw [lines_eq]
  cases v with
  | generate =>
    have hpassphrase := hmissing .passphrase (by decide)
    have hpassword := hmissing .dbPassword (by decide)
    simp only [Verb.secrets, List.flatMap_cons, List.flatMap_nil, List.append_nil, hpassphrase,
      hpassword]
    rfl
  | recover =>
    have hphrase := hmissing .phrase (by decide)
    have hpassphrase := hmissing .passphrase (by decide)
    have hpassword := hmissing .dbPassword (by decide)
    simp only [Verb.secrets, List.flatMap_cons, List.flatMap_nil, List.append_nil, hphrase,
      hpassphrase, hpassword]
    rw [Way.pending, Way.phraseLines, Invocation.way, Way.lacksWords_recover]
    rfl

theorem provides_invocation (htyp : ∀ k ∈ v.secrets, Typable (x.texts k))
    (hi : ∀ k ∈ v.secrets, i.Lacks k) :
    Provision.Provides ((x.invocation v i).way v) ((x.invocation v i).request) x.secrets := by
  have hpassphrase : Secret.passphrase ∈ v.secrets := by cases v <;> decide
  have hpassword : Secret.dbPassword ∈ v.secrets := by cases v <;> decide
  refine ⟨rfl, ?_, ?_, provided_passphrase hpassphrase (htyp _ hpassphrase) (hi _ hpassphrase),
    provided_dbPassword hpassword (htyp _ hpassword) (hi _ hpassword)⟩
  · intro given hway
    cases v with
    | generate => cases hway
    | recover =>
      have hwords : (x.invocation .recover i).words = some given := by
        injection hway
      have hphrase : Secret.phrase ∈ Verb.recover.secrets := by decide
      by_cases h : x.supply .phrase = .typed
      · have hlacks : (x.invocation .recover i).words = none :=
          lacks_invocation h (hi _ hphrase)
        rw [hlacks] at hwords
        cases hwords
      · have hholds : (x.invocation .recover i).words = some (Text.words (x.texts .phrase)) :=
          holds_invocation hphrase h
        exact Option.some.inj (hwords.symm.trans hholds)
  · intro hlacks
    cases v with
    | generate => cases hlacks
    | recover => exact htyp _ (by decide)

theorem ready_invocation {s : Session}
    (henv : ∀ k ∈ v.secrets, s.environment.lookup k.variableName = none)
    (hi : ∀ k ∈ v.secrets, i.Lacks k) :
    Provision.Ready ((x.invocation v i).way v) ((x.invocation v i).request) x.secrets s.input
      .guard (x.session v s) := by
  have hpassword : Secret.dbPassword ∈ v.secrets := by cases v <;> decide
  refine ⟨?_, fun hnone => ?_⟩
  · rw [← lines_eq_pending hi]
    rfl
  · have htyped : x.supply .dbPassword = .typed := by
      have hmissing := missing_invocation (x := x) hpassword (hi _ hpassword)
      rw [show (x.invocation v i).missing .dbPassword = true from
        Option.isNone_iff_eq_none.mpr hnone] at hmissing
      exact of_decide_eq_true hmissing.symm
    have hnot : ∀ k ∈ x.supplied v .environment, k.variableName ≠
        Provision.Collect.dbPasswordVariable := by
      intro k hk heq
      rw [show k = .dbPassword from Secret.variableName_injective heq, mem_supplied, htyped] at hk
      cases hk.2
    exact (Verb.lookup_variablesFor hnot).trans (henv _ hpassword)

/-- What a run is given beside its secrets is the same, however these are supplied. -/
theorem given_invocation (x x' : Supplies) (v : Verb) (i : Invocation) :
    ((x'.invocation v i).way v).given x.secrets = ((x.invocation v i).way v).given x.secrets ∧
      ((x'.invocation v i).request).given x.secrets =
        ((x.invocation v i).request).given x.secrets := by
  have hsame : (x'.invocation v i).unsecret = (x.invocation v i).unsecret :=
    (unsecret_invocation x' v i).trans (unsecret_invocation x v i).symm
  have hway : ∀ j : Invocation, (j.way v).given x.secrets =
      (j.unsecret.way v).given x.secrets := by
    intro j
    cases v <;> rfl
  have hrequest : ∀ j : Invocation, (j.request).given x.secrets =
      (j.unsecret.request).given x.secrets := fun j => rfl
  rw [hway, hrequest, hsame, ← hway, ← hrequest]
  exact ⟨rfl, rfl⟩

/-- Provisioning ends alike, however secrets are supplied. -/
theorem provision_agrees [Json.Nesting] {x' : Supplies} (htexts : x'.texts = x.texts)
    (htyp : ∀ k ∈ v.secrets, Typable (x.texts k)) (hi : ∀ k ∈ v.secrets, i.Lacks k)
    (c : Store.Configuration) {s : Session}
    (henv : ∀ k ∈ v.secrets, s.environment.lookup k.variableName = none) :
    ((provision c (x'.invocation v i).emitter v (x'.invocation v i)).start (x'.session v s)).1 =
        ((provision c (x.invocation v i).emitter v (x.invocation v i)).start (x.session v s)).1 ∧
      Peers ((provision c (x.invocation v i).emitter v (x.invocation v i)).start (x.session v s)).2
        ((provision c (x'.invocation v i).emitter v (x'.invocation v i)).start (x'.session v s)).2 := by
  have hsecrets : x'.secrets = x.secrets := by rw [secrets, secrets, htexts]
  have hprovides' := provides_invocation (x := x') (htexts ▸ htyp) hi
  have hready' := ready_invocation (x := x') henv hi
  rw [hsecrets] at hprovides' hready'
  obtain ⟨hway, hrequest⟩ := given_invocation x x' v i
  have hfresh : ∀ n origin, ((x.invocation v i).way v).given x.secrets = .generate n origin →
      origin = .fresh := by
    intro n origin h
    cases v <;> cases h
    rfl
  rw [provision_way, provision_way]
  exact Way.provision_agrees hfresh hway hrequest (provides_invocation htyp hi) hprovides'
    (ready_invocation henv hi) hready' (peers_session x x' v s)

end Supplies

section Runs

variable [Json.Nesting] {d : Defaults} {v : Verb} {i i' : Invocation} {args args' : List String}
  {s s' : Session}

/-- Runs of what differs in secrets only agree, if provisioning does. -/
theorem agree_of_provision (hargs : Order.ofArguments s.environment args = .ok (.run v i))
    (hargs' : Order.ofArguments s'.environment args' = .ok (.run v i'))
    (hsame : i'.unsecret = i.unsecret) (hpeers : Peers s s')
    (hprovision : ((provision (i.configuration d) i'.emitter v i').start (i'.prepared d s')).1 =
        ((provision (i.configuration d) i.emitter v i).start (i.prepared d s)).1 ∧
      Peers ((provision (i.configuration d) i.emitter v i).start (i.prepared d s)).2
        ((provision (i.configuration d) i'.emitter v i').start (i'.prepared d s')).2) :
    Agree d args args' s s' := by
  have hconfiguration : i'.configuration d = i.configuration d :=
    congrArg (fun j => j.configuration d) hsame
  have hcontradict : i'.switches.contradict = i.switches.contradict :=
    congrArg (fun j => j.switches.contradict) hsame
  have hasides : ∀ {args : List String} {s : Session} {i : Invocation},
      Order.ofArguments s.environment args = .ok (.run v i) → asides d args s =
        if i.switches.contradict then s.output
        else ((provision (i.configuration d) i.emitter v i).start (i.prepared d s)).2.output := by
    intro args s i h
    simp only [asides, h]
  cases hswitches : i.switches.contradict with
  | true =>
    rw [hswitches] at hcontradict
    have hcontradiction : i'.contradiction v = i.contradiction v :=
      congrArg (fun j => j.contradiction v) hsame
    obtain ⟨hresult, halike⟩ := blind_contradiction i v _ _ s s' hpeers.alike
    refine agree_of_alike ?_ ?_ <;>
      rw [start_run hargs, start_run hargs', execute_eq_contradiction hswitches,
        execute_eq_contradiction hcontradict, hcontradiction]
    · exact hresult
    · rw [hasides hargs, hasides hargs', hswitches, hcontradict, if_pos rfl, if_pos rfl]
      exact halike
  | false =>
    rw [hswitches] at hcontradict
    have hconclude : conclude d v i' = conclude d v i := by
      funext r
      exact (conclude_unsecret d v i' r).symm.trans (hsame ▸ conclude_unsecret d v i r)
    obtain ⟨hresult, hsessions⟩ := hprovision
    obtain ⟨hend, halike⟩ := blind_conclude d v i
      ((provision (i.configuration d) i.emitter v i).start (i.prepared d s)).1 _ _ _ _
      hsessions.alike
    refine agree_of_alike ?_ ?_ <;>
      rw [start_run hargs, start_run hargs', start_execute hswitches, start_execute hcontradict,
        hconfiguration, hconclude, hresult]
    · exact hend
    · rw [hasides hargs, hasides hargs', hswitches, hcontradict, if_neg Bool.false_ne_true,
        if_neg Bool.false_ne_true, hconfiguration]
      exact halike

/-- Command lines that order the same, and no run, agree. -/
theorem agree_of_idle (h : Idle (Order.ofArguments s.environment args))
    (hsame : Order.ofArguments s'.environment args' = Order.ofArguments s.environment args)
    (hpeers : Peers s s') : Agree d args args' s s' := by
  obtain ⟨hresult, halike⟩ := blind_carryOut (d := d) h _ _ s s' hpeers.alike
  refine agree_of_alike ?_ ?_ <;> rw [start_run_eq, start_run_eq, hsame]
  · exact hresult
  · rw [asides_of_idle h, asides_of_idle (hsame ▸ h)]
    exact halike

/-- However each of the secrets of a command is supplied, by an option, by its variable or typed, a run
ends in the same way and with the same files, and tells the same behind its questions and notices. -/
theorem supplies_agree (d : Defaults) (v : Verb) (rest : List String) (s : Session)
    (x x' : Supplies) (htexts : x'.texts = x.texts)
    (htyp : ∀ k ∈ v.secrets, Typable (x.texts k))
    (hfree : ∀ k ∈ v.secrets, v.FreeOf k rest)
    (henv : ∀ k ∈ v.secrets, s.environment.lookup k.variableName = none) :
    Agree d (x.arguments v rest) (x'.arguments v rest) (x.session v s) (x'.session v s) := by
  have hpeers := Supplies.peers_session x x' v s
  by_cases hrun : ∃ v' i, v.order s.environment rest = .ok (.run v' i)
  · obtain ⟨v', i, hbase⟩ := hrun
    obtain ⟨rfl, hlacks⟩ := Verb.lacks_of_order hbase
    have hi : ∀ k ∈ v'.secrets, i.Lacks k := fun k hk => hlacks k (henv k hk) (hfree k hk)
    refine agree_of_provision (x.order_arguments_run htyp hfree hbase)
      (x'.order_arguments_run (htexts ▸ htyp) hfree hbase)
      ((x'.unsecret_invocation v' i).trans (x.unsecret_invocation v' i).symm) hpeers ?_
    rw [x.prepared_invocation, x'.prepared_invocation]
    refine Supplies.provision_agrees htexts htyp hi _ fun k hk => ?_
    rw [(same_prepared i d s).environment]
    exact henv k hk
  · have horder := x.order_arguments (s := s) htyp hfree
    have horder' := x'.order_arguments (s := s) (htexts ▸ htyp) hfree
    have hidle : Idle (v.order s.environment rest) := fun v' i h => hrun ⟨v', i, h⟩
    rw [hidle.map_withSecrets, hidle.map_withSecrets] at horder horder'
    exact agree_of_idle (horder ▸ hidle) (horder'.trans horder.symm) hpeers

end Runs

open scoped Json.Nesting

/-- A phrase of twelve words. -/
def zeroPhrase : String := Text.join " " (Mnemonic.ofEntropy .english (List.replicate 16 0))

theorem typable_zeroPhrase : Console.Typable zeroPhrase :=
  have hlength : (List.replicate 16 (0 : UInt8)).length = Mnemonic.WordCount.twelve.entropySize := rfl
  Console.typable_join (Mnemonic.ofEntropy_ne_nil hlength) Mnemonic.isWord_ofEntropy

theorem validate_zeroPhrase :
    Mnemonic.validate .english (Text.words zeroPhrase) = .ok zeroPhrase := by
  have hwords : Text.words zeroPhrase = Mnemonic.ofEntropy .english (List.replicate 16 0) :=
    Text.words_join ' ' (by decide) _ Mnemonic.isWord_ofEntropy
  have hlength : (List.replicate 16 (0 : UInt8)).length = Mnemonic.WordCount.twelve.entropySize := rfl
  rw [hwords]
  exact Mnemonic.validate_of_nfkd hlength Mnemonic.map_nfkd_ofEntropy

theorem chosen_default : (Provision.EarningChoice.text Provision.defaultEarningPath).chosen =
    .ok (.derived Provision.defaultEarningPath) := rfl

/-- A phrase that is accepted, a passphrase and a password, all supplied in one way. -/
def Supplies.plain (how : Supply) : Supplies where
  texts
    | .phrase => zeroPhrase
    | .passphrase => "legal winner"
    | .dbPassword => "password"
  supply _ := how

/-- A recovery that is given these secrets by options ends with code zero. -/
theorem execute_options :
    ((execute plainDefaults .recover ((Supplies.plain .option).invocation .recover
      (.ofEnvironment []))).start ((Supplies.plain .option).session .recover (.bare []))).1 = .ok 0 := by
  have hwallet : ∀ (path : String) {children : Wallet.DerivationPath},
      Wallet.DerivationPath.ofString path = .ok children →
      (∀ child ∈ children, child.childNumber < Wallet.numberLimit) →
      ∀ seed, ∃ w, Wallet.Identity.derive seed path = .ok w :=
    fun _ => Wallet.Identity.derive_of_path
  obtain ⟨w, hconsuming⟩ := hwallet Provision.defaultConsumingPath rfl (by decide)
    (Mnemonic.seed zeroPhrase "legal winner")
  obtain ⟨e, hearning⟩ := hwallet Provision.defaultEarningPath rfl (by decide)
    (Mnemonic.seed zeroPhrase "legal winner")
  let i := (Supplies.plain .option).invocation .recover (.ofEnvironment [])
  obtain ⟨o, u, hprovision, -⟩ := Provision.Flow.recover_of_ok (c := plain) (r := i.request)
    (s := i.prepared plainDefaults ((Supplies.plain .option).session .recover (.bare [])))
    (unseeded_plain _ rfl) find?_english chosen_default validate_zeroPhrase rfl rfl (by decide)
    hconsuming hearning
  exact execute_of_provision rfl rfl rfl ⟨by decide, fun _ => rfl⟩ hprovision

/-- A recovery that is typed all of its secrets ends as one that is given them by options: with code
zero. -/
theorem supplies_agree_plain :
    Agree plainDefaults ((Supplies.plain .option).arguments .recover [])
      ((Supplies.plain .typed).arguments .recover [])
      ((Supplies.plain .option).session .recover (.bare []))
      ((Supplies.plain .typed).session .recover (.bare [])) ∧
    ((run plainDefaults ((Supplies.plain .typed).arguments .recover [])).start
      ((Supplies.plain .typed).session .recover (.bare []))).1 = .ok 0 := by
  have htypable : ∀ k ∈ Verb.recover.secrets, Typable ((Supplies.plain .option).texts k) := by
    intro k _
    cases k with
    | phrase => exact typable_zeroPhrase
    | passphrase => exact ⟨by decide, by decide, by decide⟩
    | dbPassword => exact ⟨by decide, by decide, by decide⟩
  have hfree : ∀ k, Verb.recover.FreeOf k [] := by
    intro k r hr
    cases hr
    exact List.not_mem_nil
  have hagree := supplies_agree plainDefaults .recover [] (.bare []) (.plain .option)
    (.plain .typed) rfl htypable (fun k _ => hfree k) fun _ _ => rfl
  have horder := (Supplies.plain .option).order_arguments_run (s := .bare []) htypable
    (fun k _ => hfree k) (show Verb.recover.order [] [] = .ok (.run .recover (.ofEnvironment [])) from rfl)
  refine ⟨hagree, ?_⟩
  rw [hagree.result, start_run horder]
  exact execute_options

end HdProvision.Command
