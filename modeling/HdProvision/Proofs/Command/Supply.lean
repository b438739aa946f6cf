import Mathlib.Data.List.Basic
import HdProvision.Command.Order

/-!
# Supplying secrets

A secret is given by an option, by a variable of the environment, or it is typed. On the command line
and in the environment it ends up in the same place of what a command is run with.
-/

set_option autoImplicit false

namespace HdProvision.Command

open Settings (Environment)

/-- How a secret is supplied. -/
inductive Supply
  | option
  | environment
  | typed
  deriving DecidableEq, Repr

/-- A secret that is supplied. -/
inductive Secret
  | phrase
  | passphrase
  | dbPassword
  deriving DecidableEq, Repr

namespace Secret

/-- The setting for a secret. -/
def setting : Secret → Setting
  | phrase => .mnemonic
  | passphrase => .passphrase
  | dbPassword => .dbPassword

/-- The variable for a secret. -/
def variableName : Secret → String
  | phrase => Invocation.mnemonicVariable
  | passphrase => Invocation.passphraseVariable
  | dbPassword => Provision.Collect.dbPasswordVariable

theorem setting_injective {k k' : Secret} (h : k.setting = k'.setting) : k = k' := by
  cases k <;> cases k' <;> first | rfl | cases h

theorem variableName_injective {k k' : Secret} (h : k.variableName = k'.variableName) :
    k = k' := by
  revert h
  cases k <;> cases k' <;> decide

end Secret

/-- The secrets of a command. -/
def Verb.secrets : Verb → List Secret
  | generate => [.passphrase, .dbPassword]
  | recover => [.phrase, .passphrase, .dbPassword]

theorem Verb.nodup_secrets (v : Verb) : v.secrets.Nodup := by
  cases v <;> decide

namespace Invocation

/-- What a command is run with when a secret is given. -/
def withSecret (i : Invocation) (k : Secret) (text : String) : Invocation :=
  match k with
  | .phrase => { i with words := some (Text.words text) }
  | .passphrase => { i with passphrase := some text }
  | .dbPassword => { i with dbPassword := some text }

/-- What a command is run with when some secrets are given. -/
def withSecrets (i : Invocation) (texts : Secret → String) (ks : List Secret) : Invocation :=
  ks.foldr (fun k i => i.withSecret k (texts k)) i

variable {i : Invocation} {k : Secret} {texts : Secret → String}

theorem set_secret (i : Invocation) (k : Secret) (text : String) :
    i.set text k.setting = .ok (i.withSecret k text) := by
  cases k <;> rfl

theorem map_mapError {ε δ α β γ : Type} (r : Except ε α) (f : α → β) (g : β → γ) (e : ε → δ) :
    (((r.map f).mapError e).map g) = (r.map fun a => g (f a)).mapError e := by
  cases r <;> rfl

/-- Any other setting is changed beside a secret. -/
theorem set_withSecret {setting : Setting} (h : setting ≠ k.setting) (i : Invocation)
    (secret text : String) : (i.withSecret k secret).set text setting =
      (i.set text setting).map (·.withSecret k secret) := by
  cases setting with
  | wordCount | language | realUser | logLevel =>
    rw [set, set, map_mapError]
    cases k <;> rfl
  | configRoot =>
    rw [set, set]
    cases pathOfText text <;> cases k <;> rfl
  | mnemonic | passphrase | dbPassword => cases k <;> first | rfl | exact absurd rfl h
  | consumingWallet | earningWallet => cases k <;> rfl

theorem setAll_withSecret {settings : List (Setting × String)}
    (h : ∀ p ∈ settings, p.1 ≠ k.setting) (i : Invocation) (secret : String) :
    (i.withSecret k secret).setAll settings =
      (i.setAll settings).map (·.withSecret k secret) := by
  induction settings generalizing i with
  | nil => rfl
  | cons p settings ih =>
    obtain ⟨hp, hrest⟩ := List.forall_mem_cons.mp h
    obtain ⟨setting, text⟩ := p
    rw [setAll, setAll, set_withSecret hp]
    cases i.set text setting with
    | error fault => rfl
    | ok i' => exact ih hrest i'

theorem filledVariable_cons_of_ne {name other : String} (h : other ≠ name) (text : String)
    (env : Environment) : filledVariable ((name, text) :: env) other = filledVariable env other := by
  rw [filledVariable, filledVariable, List.lookup_cons, beq_false_of_ne h]

theorem filledVariable_cons_self {name text : String} (h : text ≠ "") (env : Environment) :
    filledVariable ((name, text) :: env) name = some text := by
  rw [filledVariable, List.lookup_cons, beq_self_eq_true]
  simp [h]

/-- A variable gives its secret. -/
theorem ofEnvironment_cons (k : Secret) {text : String} (h : text ≠ "") (env : Environment) :
    ofEnvironment ((k.variableName, text) :: env) = (ofEnvironment env).withSecret k text := by
  cases k with
  | phrase =>
    simp only [ofEnvironment, withSecret, Secret.variableName, filledVariable_cons_self h,
      filledVariable_cons_of_ne (show passphraseVariable ≠ mnemonicVariable by decide),
      filledVariable_cons_of_ne
        (show Provision.Collect.dbPasswordVariable ≠ mnemonicVariable by decide), Option.map_some]
  | passphrase =>
    simp only [ofEnvironment, withSecret, Secret.variableName, filledVariable_cons_self h,
      filledVariable_cons_of_ne (show mnemonicVariable ≠ passphraseVariable by decide),
      filledVariable_cons_of_ne
        (show Provision.Collect.dbPasswordVariable ≠ passphraseVariable by decide)]
  | dbPassword =>
    simp only [ofEnvironment, withSecret, Secret.variableName, filledVariable_cons_self h,
      filledVariable_cons_of_ne
        (show mnemonicVariable ≠ Provision.Collect.dbPasswordVariable by decide),
      filledVariable_cons_of_ne
        (show passphraseVariable ≠ Provision.Collect.dbPasswordVariable by decide)]

theorem withSecret_switches (i : Invocation) (k : Secret) (text : String) (w : Switches) :
    { i.withSecret k text with switches := w } = { i with switches := w }.withSecret k text := by
  cases k <;> rfl

/-- A secret is among what a command is run with. -/
def Holds (i : Invocation) (text : String) : Secret → Prop
  | .phrase => i.words = some (Text.words text)
  | .passphrase => i.passphrase = some text
  | .dbPassword => i.dbPassword = some text

/-- A secret is not among what a command is run with. -/
def Lacks (i : Invocation) : Secret → Prop
  | .phrase => i.words = none
  | .passphrase => i.passphrase = none
  | .dbPassword => i.dbPassword = none

/-- Whether a secret is not among what a command is run with. -/
def missing (i : Invocation) : Secret → Bool
  | .phrase => i.words.isNone
  | .passphrase => i.passphrase.isNone
  | .dbPassword => i.dbPassword.isNone

theorem Holds.missing {text : String} (h : i.Holds text k) : i.missing k = false := by
  cases k <;> exact congrArg Option.isNone h

theorem lacks_iff : i.Lacks k ↔ i.missing k = true := by
  cases k <;> exact Option.isNone_iff_eq_none.symm

theorem Lacks.missing (h : i.Lacks k) : i.missing k = true := lacks_iff.mp h

/-- What a command is run with, without secrets. -/
def unsecret (i : Invocation) : Invocation :=
  { i with words := none, passphrase := none, dbPassword := none }

theorem unsecret_withSecrets (i : Invocation) (texts : Secret → String) (ks : List Secret) :
    (i.withSecrets texts ks).unsecret = i.unsecret := by
  induction ks with
  | nil => rfl
  | cons k ks ih => cases k <;> exact ih

theorem holds_withSecret (i : Invocation) (k : Secret) (text : String) :
    (i.withSecret k text).Holds text k := by
  cases k <;> rfl

theorem holds_withSecret_of_ne {k' : Secret} {text text' : String} (h : k ≠ k') :
    (i.withSecret k' text').Holds text k ↔ i.Holds text k := by
  cases k <;> cases k' <;> first | exact Iff.rfl | exact absurd rfl h

theorem lacks_withSecret_of_ne {k' : Secret} {text' : String} (h : k ≠ k') :
    (i.withSecret k' text').Lacks k ↔ i.Lacks k := by
  cases k <;> cases k' <;> first | exact Iff.rfl | exact absurd rfl h

/-- A secret that was there or is given is there. -/
theorem holds_withSecrets {ks : List Secret} (h : k ∈ ks ∨ i.Holds (texts k) k) :
    (i.withSecrets texts ks).Holds (texts k) k := by
  induction ks with
  | nil => exact h.resolve_left List.not_mem_nil
  | cons k' ks ih =>
    change ((i.withSecrets texts ks).withSecret k' (texts k')).Holds (texts k) k
    by_cases heq : k = k'
    · subst heq
      exact holds_withSecret _ _ _
    · rw [holds_withSecret_of_ne heq]
      exact ih (h.imp_left fun hmem => (List.mem_cons.mp hmem).resolve_left heq)

theorem lacks_withSecrets {ks : List Secret} (hk : k ∉ ks) (h : i.Lacks k) :
    (i.withSecrets texts ks).Lacks k := by
  induction ks with
  | nil => exact h
  | cons k' ks ih =>
    rw [List.mem_cons, not_or] at hk
    exact (lacks_withSecret_of_ne hk.1).mpr (ih hk.2)

theorem exists_of_map_mapError {ε δ α β : Type} {r : Except ε α} {f : α → β} {e : ε → δ} {b : β}
    (h : (r.map f).mapError e = .ok b) : ∃ a, b = f a := by
  cases r with
  | error fault => cases h
  | ok a =>
    cases h
    exact ⟨a, rfl⟩

/-- Any other setting leaves a secret in, or out. -/
theorem missing_set {i' : Invocation} {setting : Setting} {text : String}
    (hne : setting ≠ k.setting) (h : i.set text setting = .ok i') : i'.missing k = i.missing k := by
  cases setting with
  | wordCount | language | realUser | logLevel =>
    rw [Invocation.set] at h
    obtain ⟨a, rfl⟩ := exists_of_map_mapError h
    cases k <;> rfl
  | configRoot =>
    rw [Invocation.set] at h
    cases hpath : pathOfText text with
    | error fault =>
      rw [hpath] at h
      cases h
    | ok p =>
      rw [hpath] at h
      cases h
      cases k <;> rfl
  | consumingWallet | earningWallet =>
    cases h
    cases k <;> rfl
  | mnemonic | passphrase | dbPassword =>
    cases h
    cases k <;> first | rfl | exact absurd rfl hne

theorem Lacks.set {i' : Invocation} {setting : Setting} {text : String} (hi : i.Lacks k)
    (hne : setting ≠ k.setting) (h : i.set text setting = .ok i') : i'.Lacks k :=
  lacks_iff.mpr ((missing_set hne h).trans hi.missing)

/-- A secret that was there or is among the settings is there. -/
theorem missing_setAll {i' : Invocation} {settings : List (Setting × String)}
    (h : i.setAll settings = .ok i')
    (hk : i.missing k = false ∨ k.setting ∈ settings.map Prod.fst) : i'.missing k = false := by
  induction settings generalizing i with
  | nil =>
    cases h
    exact hk.resolve_right List.not_mem_nil
  | cons p settings ih =>
    obtain ⟨setting, text⟩ := p
    rw [Invocation.setAll] at h
    cases hset : i.set text setting with
    | error fault =>
      rw [hset] at h
      cases h
    | ok j =>
      rw [hset] at h
      refine ih h ?_
      by_cases heq : setting = k.setting
      · rw [heq, set_secret] at hset
        cases hset
        exact .inl (holds_withSecret i k text).missing
      · rw [missing_set heq hset]
        exact hk.imp_right fun hmem => (List.mem_cons.mp hmem).resolve_left (Ne.symm heq)

theorem Lacks.setAll {i' : Invocation} {settings : List (Setting × String)} (hi : i.Lacks k)
    (hne : ∀ p ∈ settings, p.1 ≠ k.setting) (h : i.setAll settings = .ok i') : i'.Lacks k := by
  induction settings generalizing i with
  | nil =>
    cases h
    exact hi
  | cons p settings ih =>
    obtain ⟨hp, hrest⟩ := List.forall_mem_cons.mp hne
    obtain ⟨setting, text⟩ := p
    rw [Invocation.setAll] at h
    cases hset : i.set text setting with
    | error fault =>
      rw [hset] at h
      cases h
    | ok j =>
      rw [hset] at h
      exact ih (hi.set hp hset) hrest h

/-- A secret is in the environment if its variable has content. -/
theorem missing_ofEnvironment (env : Environment) (k : Secret) :
    (ofEnvironment env).missing k = (filledVariable env k.variableName).isNone := by
  cases k with
  | phrase => exact Option.isNone_map
  | passphrase => rfl
  | dbPassword => rfl

theorem lacks_ofEnvironment {env : Environment} (h : env.lookup k.variableName = none) :
    (ofEnvironment env).Lacks k := by
  rw [lacks_iff, missing_ofEnvironment, filledVariable, h]
  rfl

end Invocation

/-- No option gives the secret. -/
def Free (k : Secret) (given : List (Given Flag Setting)) : Prop :=
  k.setting ∉ (values given).map Prod.fst

variable {k : Secret} {given : List (Given Flag Setting)}

theorem fst_mem_of_settings {p : Setting × String} (h : p ∈ settings given) :
    p.1 ∈ (values given).map Prod.fst := by
  rw [settings] at h
  obtain ⟨s, hs, hp⟩ := List.mem_filterMap.mp h
  obtain ⟨text, -, rfl⟩ := Option.map_eq_some_iff.mp hp
  exact List.mem_eraseDups.mp hs

/-- Whatever is given has a value in the end. -/
theorem mem_settings {s : Setting} (h : s ∈ (values given).map Prod.fst) :
    s ∈ (settings given).map Prod.fst := by
  obtain ⟨p, hp, rfl⟩ := List.mem_map.mp h
  have hsome : ((values given).reverse.lookup p.1).isSome :=
    List.lookup_isSome_iff.mpr ⟨p, List.mem_reverse.mpr hp, beq_self_eq_true p.1⟩
  obtain ⟨text, htext⟩ := Option.isSome_iff_exists.mp hsome
  refine List.mem_map.mpr ⟨(p.1, text), ?_, rfl⟩
  exact List.mem_filterMap.mpr ⟨p.1, List.mem_eraseDups.mpr h, by rw [htext]; rfl⟩

theorem Free.ne_of_settings (h : Free k given) : ∀ p ∈ settings given, p.1 ≠ k.setting := by
  intro p hp heq
  exact h (heq ▸ fst_mem_of_settings hp)

theorem lookup_append_of_mem {vs : List (Setting × String)} {s : Setting}
    (h : s ∈ vs.map Prod.fst) (ws : List (Setting × String)) :
    (vs ++ ws).lookup s = vs.lookup s := by
  induction vs with
  | nil => cases h
  | cons p vs ih =>
    obtain ⟨s', text⟩ := p
    rw [List.cons_append, List.lookup_cons, List.lookup_cons]
    cases hs : s == s' with
    | true => rfl
    | false =>
      rcases List.mem_cons.mp h with heq | hmem
      · rw [heq, beq_self_eq_true] at hs
        cases hs
      · exact ih hmem

theorem lookup_append_of_not_mem {vs : List (Setting × String)} {s : Setting}
    (h : s ∉ vs.map Prod.fst) (ws : List (Setting × String)) :
    (vs ++ ws).lookup s = ws.lookup s := by
  induction vs with
  | nil => rfl
  | cons p vs ih =>
    obtain ⟨s', text⟩ := p
    rw [List.map_cons, List.mem_cons, not_or] at h
    rw [List.cons_append, List.lookup_cons, beq_false_of_ne h.1]
    exact ih h.2

/-- A setting that comes up once, in front, keeps its value and its place. -/
theorem settings_cons {s : Setting} (text : String) (h : s ∉ (values given).map Prod.fst) :
    settings (.value s text :: given) = (s, text) :: settings given := by
  have hvalues : values (.value s text :: given) = (s, text) :: values given := rfl
  have hnames : ((values given).map Prod.fst).filter (fun b => !b == s) =
      (values given).map Prod.fst := by
    refine List.filter_eq_self.mpr fun b hb => ?_
    simp only [Bool.not_eq_true', beq_eq_false_iff_ne]
    rintro rfl
    exact h hb
  have hreverse : ∀ name, (((s, text) :: values given).reverse).lookup name =
      ((values given).reverse ++ [(s, text)]).lookup name := by
    intro name
    rw [List.reverse_cons]
  have hself : (((s, text) :: values given).reverse).lookup s = some text := by
    rw [hreverse, lookup_append_of_not_mem (by simpa using h)]
    simp
  rw [settings, hvalues, List.map_cons, List.eraseDups_cons, hnames, List.filterMap_cons, hself]
  dsimp only [Option.map_some]
  rw [settings]
  congr 1
  refine List.filterMap_congr fun name hname => ?_
  have hmem := List.mem_eraseDups.mp hname
  rw [hreverse, lookup_append_of_mem (by simpa using hmem)]

namespace Invocation

/-- A secret that an option gives. -/
theorem ofGiven_value {env : Environment} (text : String) (h : Free k given) :
    ofGiven env (.value k.setting text :: given) =
      (ofGiven env given).map (·.withSecret k text) := by
  rw [ofGiven, ofGiven, settings_cons text h, setAll, set_secret]
  exact setAll_withSecret h.ne_of_settings _ text

/-- A secret that nothing gives is not there. -/
theorem lacks_ofGiven {env : Environment} {i : Invocation}
    (henv : env.lookup k.variableName = none) (h : Free k given)
    (hi : ofGiven env given = .ok i) : i.Lacks k := by
  have hinitial : Lacks { ofEnvironment env with switches := .ofFlags (flags given) } k := by
    have hlacks := lacks_ofEnvironment henv
    cases k <;> exact hlacks
  exact hinitial.setAll h.ne_of_settings hi

/-- A secret that a variable or an option gives is there. -/
theorem missing_ofGiven {env : Environment} {i : Invocation}
    (hk : (filledVariable env k.variableName).isNone = false ∨ ¬ Free k given)
    (hi : ofGiven env given = .ok i) : i.missing k = false := by
  refine missing_setAll hi (hk.imp (fun hfilled => ?_) fun hgiven => ?_)
  · rw [← missing_ofEnvironment] at hfilled
    cases k <;> exact hfilled
  · exact mem_settings (Classical.not_not.mp hgiven)

/-- A secret that a variable gives. -/
theorem ofGiven_variable {env : Environment} {text : String} (htext : text ≠ "") (h : Free k given) :
    ofGiven ((k.variableName, text) :: env) given =
      (ofGiven env given).map (·.withSecret k text) := by
  rw [ofGiven, ofGiven, ofEnvironment_cons k htext, withSecret_switches]
  exact setAll_withSecret h.ne_of_settings _ text

end Invocation

namespace Verb

variable {v : Verb} {env : Environment}

/-- The option of a secret takes the next argument. -/
theorem read_option (hk : k ∈ v.secrets) (text : String) (rest : List String) :
    read v.options true (k.setting.long :: text :: rest) =
      (read v.options true rest).map (Reading.withGiven [.value k.setting text]) := by
  have hopen : Argument.ofString v.options k.setting.long =
      .open k.setting.long k.setting := by
    cases v with
    | recover => cases k <;> rfl
    | generate =>
      cases k with
      | phrase => exact absurd hk (by decide)
      | passphrase => rfl
      | dbPassword => rfl
  rw [read, hopen]

/-- What follows the name of a command gives none of its secrets. -/
def FreeOf (v : Verb) (k : Secret) (rest : List String) : Prop :=
  ∀ r, read v.options true rest = .ok r → Free k r.given

/-- A variable with content or an option gives a secret of a command. -/
def Gives (v : Verb) (env : Environment) (rest : List String) (k : Secret) : Prop :=
  (Invocation.filledVariable env k.variableName).isSome ∨ ¬ v.FreeOf k rest

end Verb

namespace Order

/-- The order with a secret for a run. -/
def withSecret (k : Secret) (text : String) : Order → Order
  | .run v i => .run v (i.withSecret k text)
  | o => o

/-- The order with some secrets for a run. -/
def withSecrets (texts : Secret → String) (ks : List Secret) : Order → Order
  | .run v i => .run v (i.withSecrets texts ks)
  | o => o

theorem map_withSecrets_nil (texts : Secret → String) (r : Except Refusal Order) :
    r.map (withSecrets texts []) = r := by
  cases r with
  | error refusal => rfl
  | ok o => cases o <;> rfl

theorem map_withSecrets_cons (texts : Secret → String) (k : Secret) (ks : List Secret)
    (r : Except Refusal Order) :
    r.map (withSecrets texts (k :: ks)) =
      (r.map (withSecrets texts ks)).map (withSecret k (texts k)) := by
  cases r with
  | error refusal => rfl
  | ok o => cases o <;> rfl

end Order

namespace Verb

variable {v : Verb} {env env' : Environment} {text : String} {rest rest' : List String}

/-- Two command lines with the same switches and plain arguments order the same, but for a secret that
one of them gives. -/
theorem order_of_reading (f : Reading Flag Setting → Reading Flag Setting)
    (hread : read v.options true rest' = (read v.options true rest).map f)
    (hplain : ∀ r, (f r).plain = r.plain) (hflags : ∀ r, flags (f r).given = flags r.given)
    (hgiven : ∀ r, read v.options true rest = .ok r →
      Invocation.ofGiven env' (f r).given =
        (Invocation.ofGiven env r.given).map (·.withSecret k text)) :
    v.order env' rest' = (v.order env rest).map (Order.withSecret k text) := by
  rw [order, order, hread]
  cases hr : read v.options true rest with
  | error fault => rfl
  | ok r =>
    simp only [Except.map, hflags, hplain, hgiven r hr]
    cases (flags r.given).contains .help with
    | true => rfl
    | false =>
      simp only [Bool.false_eq_true, if_false]
      rcases Invocation.ofGiven env r.given with ⟨s, fault⟩ | i
      · cases fault <;> rfl
      · dsimp only [Except.map]
        split <;> rfl

theorem order_option (hk : k ∈ v.secrets) (hfree : v.FreeOf k rest) (text : String) :
    v.order env (k.setting.long :: text :: rest) =
      (v.order env rest).map (Order.withSecret k text) :=
  order_of_reading _ (read_option hk text rest) (fun _ => rfl) (fun _ => rfl)
    fun r hr => Invocation.ofGiven_value text (hfree r hr)

theorem order_variable (htext : text ≠ "") (hfree : v.FreeOf k rest) :
    v.order ((k.variableName, text) :: env) rest =
      (v.order env rest).map (Order.withSecret k text) :=
  order_of_reading id (by cases read v.options true rest <;> rfl) (fun _ => rfl) (fun _ => rfl)
    fun r hr => Invocation.ofGiven_variable htext (hfree r hr)

/-- The options that give some secrets. -/
def optionsFor (texts : Secret → String) (ks : List Secret) : List String :=
  ks.flatMap fun k => [k.setting.long, texts k]

/-- The variables that give some secrets. -/
def variablesFor (texts : Secret → String) (ks : List Secret) : Environment :=
  ks.map fun k => (k.variableName, texts k)

theorem lookup_variablesFor {texts : Secret → String} {ks : List Secret} {name : String}
    (h : ∀ k ∈ ks, k.variableName ≠ name) :
    (variablesFor texts ks ++ env).lookup name = env.lookup name := by
  induction ks with
  | nil => rfl
  | cons k ks ih =>
    obtain ⟨hk, hks⟩ := List.forall_mem_cons.mp h
    change ((k.variableName, texts k) :: (variablesFor texts ks ++ env)).lookup name = _
    rw [List.lookup_cons, beq_false_of_ne hk.symm]
    exact ih hks

/-- Options of other secrets do not give a secret. -/
theorem freeOf_options {texts : Secret → String} {ks : List Secret}
    (hks : ∀ k ∈ ks, k ∈ v.secrets) (hk : k ∉ ks) (hfree : v.FreeOf k rest) :
    v.FreeOf k (optionsFor texts ks ++ rest) := by
  induction ks with
  | nil => exact hfree
  | cons k' ks ih =>
    obtain ⟨hmem, hks⟩ := List.forall_mem_cons.mp hks
    rw [List.mem_cons, not_or] at hk
    intro r hr
    change read v.options true (k'.setting.long :: texts k' :: (optionsFor texts ks ++ rest)) = _
      at hr
    rw [read_option hmem] at hr
    cases hread : read v.options true (optionsFor texts ks ++ rest) with
    | error fault =>
      rw [hread] at hr
      cases hr
    | ok r' =>
      rw [hread] at hr
      cases hr
      have hothers := ih hks hk.2 r' hread
      intro hin
      rcases List.mem_cons.mp hin with heq | hin
      · exact hk.1 (Secret.setting_injective heq)
      · exact hothers hin

/-- Secrets that options give. -/
theorem order_optionsFor {texts : Secret → String} {ks : List Secret} (hnodup : ks.Nodup)
    (hks : ∀ k ∈ ks, k ∈ v.secrets) (hfree : ∀ k ∈ ks, v.FreeOf k rest) :
    v.order env (optionsFor texts ks ++ rest) =
      (v.order env rest).map (Order.withSecrets texts ks) := by
  induction ks with
  | nil => exact (Order.map_withSecrets_nil texts _).symm
  | cons k ks ih =>
    obtain ⟨hk, hnodup⟩ := List.nodup_cons.mp hnodup
    obtain ⟨hmem, hks⟩ := List.forall_mem_cons.mp hks
    obtain ⟨hfreek, hfree⟩ := List.forall_mem_cons.mp hfree
    change v.order env (k.setting.long :: texts k :: (optionsFor texts ks ++ rest)) = _
    rw [order_option hmem (freeOf_options hks hk hfreek), ih hnodup hks hfree,
      Order.map_withSecrets_cons]

/-- Secrets that variables give. -/
theorem order_variablesFor {texts : Secret → String} {ks : List Secret}
    (htexts : ∀ k ∈ ks, texts k ≠ "") (hfree : ∀ k ∈ ks, v.FreeOf k rest) :
    v.order (variablesFor texts ks ++ env) rest =
      (v.order env rest).map (Order.withSecrets texts ks) := by
  induction ks with
  | nil => exact (Order.map_withSecrets_nil texts _).symm
  | cons k ks ih =>
    obtain ⟨htext, htexts⟩ := List.forall_mem_cons.mp htexts
    obtain ⟨hfreek, hfree⟩ := List.forall_mem_cons.mp hfree
    change v.order ((k.variableName, texts k) :: (variablesFor texts ks ++ env)) rest = _
    rw [order_variable htext hfreek, ih htexts hfree, Order.map_withSecrets_cons]

end Verb

/-- What the order for a command is run with is what was given. -/
theorem Verb.ofGiven_of_order {v v' : Verb} {env : Environment} {rest : List String}
    {i : Invocation} (h : v.order env rest = .ok (.run v' i)) : v' = v ∧ ∃ r,
      read v.options true rest = .ok r ∧ Invocation.ofGiven env r.given = .ok i := by
  rw [order] at h
  cases hread : read v.options true rest with
  | error fault =>
    rw [hread] at h
    cases h
  | ok r =>
    rw [hread] at h
    dsimp only at h
    split at h
    · cases h
    · rcases hgiven : Invocation.ofGiven env r.given with ⟨s, fault⟩ | j
      · rw [hgiven] at h
        cases fault <;> cases h
      · rw [hgiven] at h
        dsimp only at h
        split at h
        · cases h
          exact ⟨rfl, r, rfl, hgiven⟩
        · cases h

/-- What the order for a command is run with has none of the secrets that nothing gives. -/
theorem Verb.lacks_of_order {v v' : Verb} {env : Environment} {rest : List String} {i : Invocation}
    (h : v.order env rest = .ok (.run v' i)) : v' = v ∧ ∀ k : Secret,
      env.lookup k.variableName = none → v.FreeOf k rest → i.Lacks k := by
  obtain ⟨hverb, r, hread, hgiven⟩ := ofGiven_of_order h
  exact ⟨hverb, fun k henv hfree => Invocation.lacks_ofGiven henv (hfree r hread) hgiven⟩

/-- It has all secrets that something gives. -/
theorem Verb.missing_of_order {v v' : Verb} {env : Environment} {rest : List String}
    {i : Invocation} {k : Secret} (hgives : v.Gives env rest k)
    (h : v.order env rest = .ok (.run v' i)) : i.missing k = false := by
  obtain ⟨-, r, hread, hgiven⟩ := ofGiven_of_order h
  refine Invocation.missing_ofGiven (hgives.imp (fun hfilled => ?_) fun hfree hnone => ?_) hgiven
  · rwa [Option.isNone_eq_false_iff]
  · refine hfree fun r' hr' => ?_
    rw [hread] at hr'
    cases hr'
    exact hnone

/-- A command line that starts with the name of a command is an order for it. -/
theorem Order.ofArguments_name (v : Verb) (env : Environment) (args : List String) :
    ofArguments env (v.name :: args) = v.order env args := by
  cases v <;> rfl

end HdProvision.Command
