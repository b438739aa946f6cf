import HdProvision.Proofs.Provision.AskingScript
import HdProvision.Proofs.Provision.Failures
import HdProvision.Proofs.Provision.Provided
import HdProvision.Proofs.Provision.SavingScript
import HdProvision.Proofs.Session.Silence

/-!
# Twin runs

What a stage prints and logs, as a script that can be written down without secrets. Two runs of which
the same may be known tell twin scripts, stage by stage.
-/

set_option autoImplicit false

namespace HdProvision.Provision

open Console (Emitter Stands)
open Provision.Flow (DerivedWallet Parts)
open Mnemonic (Language)
open Session (Filling Piece Says Twin Twins)
open Store (Configuration)
open Wallet (EarningWallet Identity)

/-- What a stage logs when it does not ask, by what comes of it. -/
def Way.script (w : Way) (r : Request) : Position → Except Error Position → List Piece
  | .guard, .ok _ => [.note .debug Guard.source "No persisted mnemonic seed found"]
  | .guard, .error .alreadyProvisioned | .guard, .error .seedCollision =>
    [.note .warn Guard.source
      "Refusing to provision wallets: a mnemonic seed is already persisted"]
  | .phrase l _, .ok _ =>
    match w with
    | .generate wordCount _ => [.note .info Flow.source (generatedNote wordCount l)]
    | .recover _ => []
  | .phrase l _, .error (.mnemonicRejected rejection) =>
    [.note .warn Flow.source (rejectedNote l rejection.reason)]
  | .passphrase _ _ _, .ok _ =>
    if r.passphrase.isSome then [.note .debug Flow.source
      "Using the mnemonic passphrase supplied on the command line or environment"]
    else []
  | .consumingPath _, .ok (.earningPath _ consuming) =>
    [.note .info Flow.source (Flow.derivedNote .consuming r.consumingPath consuming.identity)]
  | .earningPath p _, .ok (.finished o) =>
    [.note .info Flow.source (Flow.earningNote p.earning o.earning)]
  | _, _ => []

/-- After how many attempts a passphrase is confirmed that is asked for in a session. -/
def Way.attempts (w : Way) (r : Request) (s : Session) : Option Nat :=
  Collect.attemptsOf
    (w.passphraseRequest.dialog r.emitter Collect.maxAttempts s.colors s.input).result

/-- The line that is typed to go on without a passphrase. -/
def Way.acknowledgement (w : Way) (r : Request) (s : Session) : String :=
  Collect.firstText (w.passphraseRequest.dialog r.emitter Collect.maxAttempts s.colors s.input).rest

/-- What is printed and logged when a stage asks. -/
def Way.askScript (w : Way) (r : Request) (s : Session) (lines : List String) (passed : Bool) :
    Position → List Piece
  | .phrase _ _ => Collect.phraseScript r.emitter s.colors lines
  | .passphrase _ _ _ => Collect.passphraseScript r.emitter s.colors w.passphraseRequest
      (w.attempts r s) passed lines
  | .dbPassword _ _ _ _ =>
    if (s.environment.lookup Collect.dbPasswordVariable).isSome then []
    else Collect.passwordScript r.emitter s.colors lines
  | _ => []

/-- The lines that are left when a stage has asked. -/
def Way.askRest (w : Way) (r : Request) (s : Session) (lines : List String) :
    Position → List String
  | .phrase _ _ => Collect.phraseRest s.colors lines
  | .passphrase _ _ _ => Collect.passphraseRest r.emitter s.colors w.passphraseRequest lines
  | .dbPassword _ _ _ _ =>
    if (s.environment.lookup Collect.dbPasswordVariable).isSome then lines
    else Collect.passwordRest s.colors lines
  | _ => lines

variable {w w' : Way} {c : Configuration} {r r' : Request} {p p' q q' : Position}
  {s s' t t' : Session} {f f' : Filling} {texts behind lines : List String} {σ : String → String}

namespace Step

theorem says_words (r : Request) (given : Option (List String)) (l : Language) (e : EarningWallet)
    (ws : List String) (s : Session) : Says f s (words l e ws s).2
      ((Way.recover given).script r (.phrase l e) (words l e ws s).1) := by
  rw [words]
  cases Mnemonic.validate l ws with
  | ok phrase => exact .refl s
  | error rejection => exact .note s _ _ _

theorem input_words (l : Language) (e : EarningWallet) (ws : List String) (s : Session) :
    (words l e ws s).2.input = s.input := by
  rw [words]
  cases Mnemonic.validate l ws <;> rfl

end Step

/-- What a stage that does not ask logs. -/
theorem Way.says_quiet [Json.Nesting] (hasks : p.asks w r = false) :
    Says f s (w.step c r p s).2 (w.script r p (w.step c r p s).1) := by
  cases p with
  | guard =>
    rw [step, Step.guard]
    rcases Store.Config.seedExists s.disk c.file with fault | _ | _
    · have hsilent : w.script r .guard (.error ((Guard.unanswered fault).toError w.existing)) =
          [] := by
        cases fault <;> rfl
      dsimp only
      rw [hsilent]
      exact .refl s
    · exact .note s _ _ _
    · cases w <;> exact .note s _ _ _
  | language =>
    rw [step, Step.language]
    cases Language.find? r.language <;> exact .refl s
  | earning l =>
    rw [step, Step.earning]
    cases r.earning.chosen <;> exact .refl s
  | phrase l e =>
    cases w with
    | generate n origin =>
      cases origin with
      | prepared phrase => exact ⟨rfl, rfl, rfl, rfl⟩
      | fresh =>
        rw [step, Step.newPhrase]
        cases Mnemonic.WordCount.ofInt? n with
        | none => exact .refl s
        | some count => exact ⟨rfl, rfl, rfl, rfl⟩
    | recover given =>
      cases given with
      | some given => exact Step.says_words r _ l e given s
      | none =>
        have hinteractive : r.interactive = false := hasks
        rw [step, Step.knownPhrase, Step.asking, hinteractive]
        exact .refl s
  | passphrase l e phrase =>
    rw [step, Step.passphrase]
    cases hgiven : r.passphrase with
    | some given =>
      dsimp only
      rw [script, hgiven]
      exact .note s _ _ _
    | none =>
      have hinteractive : r.interactive = false := by
        rw [Position.asks, hgiven] at hasks
        exact hasks
      dsimp only
      rw [Step.asking, hinteractive]
      exact .refl s
  | dbPassword l e phrase passphrase =>
    have hsilent : ∀ a, w.script r (.dbPassword l e phrase passphrase) a = [] := by
      intro a
      cases a <;> rfl
    rw [step, hsilent, Step.dbPassword]
    cases hgiven : r.dbPassword with
    | some given => exact .refl s
    | none =>
      have hinteractive : r.interactive = false := by
        rw [Position.asks, hgiven] at hasks
        exact hasks
      dsimp only
      rw [Step.asking, hinteractive]
      exact .refl s
  | consumingPath p =>
    rw [step, Step.consumingPath]
    split
    · exact .note s _ _ _
    · exact .refl s
  | earningPath p consuming =>
    rw [step, Step.earningPath]
    cases hearning : p.earning with
    | derived path =>
      dsimp only
      cases Identity.derive (Mnemonic.seed p.phrase p.passphrase) path with
      | ok v =>
        dsimp only
        rw [script, hearning]
        exact .note s _ _ _
      | error fault => exact .refl s
    | external e =>
      dsimp only
      rw [script, hearning]
      exact .note s _ _ _
  | finished o => exact .refl s

/-- The stage at a position prints and logs its questions and what comes of it, and if it is passed it
leaves the lines that it did not read. -/
def Way.SpeaksAsking [Json.Nesting] (w : Way) (c : Configuration) (r : Request) (f : Filling)
    (texts : List String) (σ : String → String) (behind lines : List String) (p : Position)
    (s : Session) : Prop :=
  Says f s (w.step c r p s).2 (w.askScript r s lines (w.step c r p s).1.isOk p ++
      w.script r p (w.step c r p s).1) ∧
    ∀ q t, w.step c r p s = (.ok q, t) → Follows texts σ behind t (w.askRest r s lines p)

section Asking

variable [Json.Nesting] {l : Language} {e : EarningWallet} {phrase passphrase : String}

theorem Way.speaks_phrase (hσ : Stands texts σ) (h : Follows texts σ behind s lines)
    (hinteractive : r.interactive = true)
    (hbehind : behind <:+ ((recover none).step c r (.phrase l e) s).2.input) :
    (recover none).SpeaksAsking c r f texts σ behind lines (.phrase l e) s := by
  have hstep := step_phrase_asking (c := c) hinteractive l e s
  rw [SpeaksAsking]
  rw [hstep] at hbehind ⊢
  rcases hstart : (Collect.words r.emitter).start s with ⟨error | ws, u⟩
  · rw [Step.asking_of_error hstart] at hbehind ⊢
    obtain ⟨hspoken, -⟩ := Collect.says_words (f := f) hσ h r.emitter (hstart ▸ hbehind)
    rw [hstart] at hspoken
    have hsilent : (recover none).script r (.phrase l e) (.error error) = [] := by
      rw [Collect.start_words] at hstart
      obtain ⟨hresult, -⟩ := Prod.mk.inj hstart
      split at hresult
      · cases hresult
      · cases hresult
        rfl
    refine ⟨?_, fun q t hok => ?_⟩
    · rw [hsilent, List.append_nil]
      exact hspoken
    · cases hok
  · rw [Step.asking_of_ok hstart] at hbehind ⊢
    rw [Step.input_words] at hbehind
    obtain ⟨hspoken, hfollows⟩ := Collect.says_words (f := f) hσ h r.emitter (hstart ▸ hbehind)
    rw [hstart] at hspoken hfollows
    refine ⟨hspoken.trans (Step.says_words r none l e ws u), fun q t hok => ?_⟩
    obtain ⟨ls, hinput, hls, hlines⟩ := hfollows
    have ht : (Step.words l e ws u).2 = t := congrArg Prod.snd hok
    exact ⟨ls, (ht ▸ Step.input_words l e ws u).trans hinput, hls, hlines⟩

theorem Way.speaks_passphrase (hσ : Stands texts σ) (h : Follows texts σ behind s lines)
    (hgiven : r.passphrase = none) (hinteractive : r.interactive = true)
    (hf : f.acknowledgement = w.acknowledgement r s)
    (hbehind : behind <:+ (w.step c r (.passphrase l e phrase) s).2.input) :
    w.SpeaksAsking c r f texts σ behind lines (.passphrase l e phrase) s := by
  have hsilent : ∀ a, w.script r (.passphrase l e phrase) a = [] := by
    intro a
    cases a with
    | error e => rfl
    | ok q =>
      rw [script, hgiven]
      rfl
  rw [SpeaksAsking, hsilent, List.append_nil]
  rw [step_passphrase_asking hgiven hinteractive, Step.session_through] at hbehind
  rw [step_passphrase_asking hgiven hinteractive, Step.session_through, Step.isOk_through]
  obtain ⟨hspoken, hfollows⟩ := Collect.says_passphrase (f := f) hσ h r.emitter
    w.passphraseRequest hf hbehind
  refine ⟨hspoken, fun q t hok => ?_⟩
  rcases hstart : (Collect.passphrase r.emitter w.passphraseRequest Collect.maxAttempts).start s with
    ⟨error | a, u⟩
  · rw [hstart] at hok
    cases hok
  · rw [hstart] at hok
    cases hok
    exact hfollows a _ hstart

theorem Way.speaks_dbPassword (hσ : Stands texts σ) (h : Follows texts σ behind s lines)
    (hgiven : r.dbPassword = none) (hinteractive : r.interactive = true)
    (hbehind : behind <:+ (w.step c r (.dbPassword l e phrase passphrase) s).2.input) :
    w.SpeaksAsking c r f texts σ behind lines (.dbPassword l e phrase passphrase) s := by
  have hsession : (w.step c r (.dbPassword l e phrase passphrase) s).2 =
      ((Collect.dbPassword r.emitter true (some Collect.dbPasswordVariable)).start s).2 := by
    rw [step_dbPassword_asking hgiven hinteractive]
    exact Step.asking_session (fun _ _ => rfl) _ s
  have hsilent : ∀ a, w.script r (.dbPassword l e phrase passphrase) a = [] := by
    intro a
    cases a <;> rfl
  rw [hsession] at hbehind
  obtain ⟨hspoken, hfollows⟩ := Collect.says_dbPassword (f := f) hσ h r.emitter hbehind
  rw [SpeaksAsking, hsilent, List.append_nil, hsession]
  refine ⟨hspoken, fun q t hok => ?_⟩
  have ht : t = ((Collect.dbPassword r.emitter true
      (some Collect.dbPasswordVariable)).start s).2 := by
    rw [← hsession, hok]
  rw [ht]
  exact hfollows

end Asking

/-- What a stage that asks prints and logs, and what it leaves of the lines. -/
theorem Way.says_asking [Json.Nesting] (hσ : Stands texts σ) (h : Follows texts σ behind s lines)
    (hasks : p.asks w r = true) (hf : p.stage = 4 → f.acknowledgement = w.acknowledgement r s)
    (hbehind : behind <:+ (w.step c r p s).2.input) :
    w.SpeaksAsking c r f texts σ behind lines p s := by
  cases p with
  | phrase l e =>
    cases w with
    | generate n origin => cases hasks
    | recover given =>
      cases given with
      | some given => cases hasks
      | none => exact speaks_phrase hσ h hasks hbehind
  | passphrase l e phrase =>
    obtain ⟨hgiven, hinteractive⟩ := Bool.and_eq_true_iff.mp hasks
    rw [Option.isNone_iff_eq_none] at hgiven
    exact speaks_passphrase hσ h hgiven hinteractive (hf rfl) hbehind
  | dbPassword l e phrase passphrase =>
    obtain ⟨hgiven, hinteractive⟩ := Bool.and_eq_true_iff.mp hasks
    rw [Option.isNone_iff_eq_none] at hgiven
    exact speaks_dbPassword hσ h hgiven hinteractive hbehind
  | _ => cases hasks

/-- An error without a secret in it. -/
def Error.masked : Error → Error
  | .mnemonicRejected rejection => .mnemonicRejected { rejection with phrase := "" }
  | e => e

/-- How a provisioning ended, without the secrets in it. -/
def maskedEnding : Except Error Outcome → Except Error Outcome
  | .ok o => .ok o.masked
  | .error e => .error e.masked

theorem Error.stage_masked (e : Error) : e.masked.stage = e.stage := by
  cases e <;> rfl

/-- Positions of two runs in the same stage, where the same is known apart from secrets. -/
inductive Position.Similar : Position → Position → Prop
  | guard : Similar .guard .guard
  | language : Similar .language .language
  | earning (l : Language) : Similar (.earning l) (.earning l)
  | phrase (l : Language) (e : EarningWallet) : Similar (.phrase l e) (.phrase l e)
  | passphrase (l : Language) (e : EarningWallet) (phrase phrase' : String) :
    Similar (.passphrase l e phrase) (.passphrase l e phrase')
  | dbPassword (l : Language) (e : EarningWallet) (phrase passphrase phrase' passphrase' : String) :
    Similar (.dbPassword l e phrase passphrase) (.dbPassword l e phrase' passphrase')
  | consumingPath {p p' : Parts} (h : p'.earning = p.earning) :
    Similar (.consumingPath p) (.consumingPath p')
  | earningPath {p p' : Parts} (h : p'.earning = p.earning) (x x' : DerivedWallet) :
    Similar (.earningPath p x) (.earningPath p' x')
  | finished (o o' : Outcome) : Similar (.finished o) (.finished o')

theorem Position.Similar.stage_eq (h : p.Similar p') : p'.stage = p.stage := by
  cases h <;> rfl

/-- Two ways and their requests are the same apart from secrets, and the same secrets are given. -/
structure Kindred (w w' : Way) (r r' : Request) : Prop where
  way : ∀ x, w'.given x = w.given x
  request : ∀ x, r'.given x = r.given x
  lacksWords : w'.lacksWords = w.lacksWords
  passphrase : r'.passphrase.isSome = r.passphrase.isSome
  dbPassword : r'.dbPassword.isSome = r.dbPassword.isSome

namespace Kindred

variable (h : Kindred w w' r r')

include h

theorem generate {n : Int} {origin : PhraseSource} (hw : w = .generate n origin) :
    w' = .generate n origin := by
  subst hw
  have hway := h.way ⟨"", "", ""⟩
  cases w' with
  | generate n' origin' => exact hway
  | recover given => cases hway

theorem recover {given : Option (List String)} (hw : w = .recover given) :
    ∃ given', w' = .recover given' := by
  subst hw
  have hway := h.way ⟨"", "", ""⟩
  cases w' with
  | generate n' origin' => cases hway
  | recover given' => exact ⟨given', rfl⟩

theorem passphraseRequest : w'.passphraseRequest = w.passphraseRequest := by
  cases hw : w with
  | generate n origin => rw [h.generate hw]
  | recover given =>
    obtain ⟨given', hw'⟩ := h.recover hw
    rw [hw']
    rfl

theorem request_eq {α : Type} (field : Request → α) (hfield : ∀ r x, field (Request.given r x) = field r) :
    field r' = field r := by
  rw [← hfield r' ⟨"", "", ""⟩, h.request, hfield]

theorem emitter : r'.emitter = r.emitter := h.request_eq (fun r => r.emitter) fun _ _ => rfl

theorem interactive : r'.interactive = r.interactive := h.request_eq (fun r => r.interactive) fun _ _ => rfl

theorem languageName : r'.language = r.language := h.request_eq (fun r => r.language) fun _ _ => rfl

theorem earning : r'.earning = r.earning := h.request_eq (fun r => r.earning) fun _ _ => rfl

theorem consumingPath : r'.consumingPath = r.consumingPath := h.request_eq (fun r => r.consumingPath) fun _ _ => rfl

theorem asks_eq (hsimilar : p.Similar p') : p'.asks w' r' = p.asks w r := by
  have hnone : ∀ {x y : Option String}, x.isSome = y.isSome → x.isNone = y.isNone := by
    intro x y hxy
    rw [← Option.not_isSome, ← Option.not_isSome, hxy]
  cases hsimilar with
  | phrase l e => rw [Position.asks, Position.asks, h.lacksWords, h.interactive]
  | passphrase l e phrase phrase' =>
    rw [Position.asks, Position.asks, hnone h.passphrase, h.interactive]
  | dbPassword l e phrase passphrase phrase' passphrase' =>
    rw [Position.asks, Position.asks, hnone h.dbPassword, h.interactive]
  | _ => rfl

/-- Stages that are passed lead from similar positions to similar ones. -/
theorem similar_step [Json.Nesting] (hsimilar : p.Similar p') (hstep : w.step c r p s = (.ok q, t))
    (hstep' : w'.step c r' p' s' = (.ok q', t')) : q.Similar q' := by
  cases hsimilar with
  | guard =>
    obtain ⟨_, rfl⟩ := Step.next_of_through (Step.guard_eq w.existing c s) hstep
    obtain ⟨_, rfl⟩ := Step.next_of_through (Step.guard_eq w'.existing c s') hstep'
    exact .language
  | language =>
    rw [Way.step, Step.language] at hstep hstep'
    rw [h.languageName] at hstep'
    cases hfound : Language.find? r.language with
    | none =>
      rw [hfound] at hstep
      cases hstep
    | some l =>
      rw [hfound] at hstep hstep'
      cases hstep
      cases hstep'
      exact .earning l
  | earning l =>
    rw [Way.step, Step.earning] at hstep hstep'
    rw [h.earning] at hstep'
    cases hchosen : r.earning.chosen with
    | error text =>
      rw [hchosen] at hstep
      cases hstep
    | ok e =>
      rw [hchosen] at hstep hstep'
      cases hstep
      cases hstep'
      exact .phrase l e
  | phrase l e =>
    cases hw : w with
    | generate n origin =>
      rw [hw] at hstep
      rw [h.generate hw] at hstep'
      obtain ⟨phrase, rfl⟩ := Step.next_of_through (Step.newPhrase_eq n origin r l e s) hstep
      obtain ⟨phrase', rfl⟩ := Step.next_of_through (Step.newPhrase_eq n origin r' l e s') hstep'
      exact .passphrase l e phrase phrase'
    | recover given =>
      obtain ⟨given', hw'⟩ := h.recover hw
      rw [hw] at hstep
      rw [hw'] at hstep'
      obtain ⟨phrase, rfl⟩ := Step.next_of_through (Step.knownPhrase_eq given r l e s) hstep
      obtain ⟨phrase', rfl⟩ := Step.next_of_through (Step.knownPhrase_eq given' r' l e s') hstep'
      exact .passphrase l e phrase phrase'
  | passphrase l e phrase phrase' =>
    obtain ⟨a, rfl⟩ := Step.next_of_through (Step.passphrase_eq r _ l e phrase s) hstep
    obtain ⟨a', rfl⟩ := Step.next_of_through (Step.passphrase_eq r' _ l e phrase' s') hstep'
    exact .dbPassword l e phrase a phrase' a'
  | dbPassword l e phrase passphrase phrase' passphrase' =>
    obtain ⟨a, rfl⟩ :=
      Step.next_of_through (Step.dbPassword_eq r l e phrase passphrase s) hstep
    obtain ⟨a', rfl⟩ :=
      Step.next_of_through (Step.dbPassword_eq r' l e phrase' passphrase' s') hstep'
    exact .consumingPath rfl
  | consumingPath hearning =>
    obtain ⟨x, rfl⟩ := Step.next_of_through (Step.consumingPath_eq r _ s) hstep
    obtain ⟨x', rfl⟩ := Step.next_of_through (Step.consumingPath_eq r' _ s') hstep'
    exact .earningPath hearning x x'
  | earningPath hearning x x' =>
    obtain ⟨v, rfl⟩ := Step.next_of_through (Step.earningPath_eq r _ _ x s) hstep
    obtain ⟨v', rfl⟩ := Step.next_of_through (Step.earningPath_eq r' _ _ x' s') hstep'
    exact .finished _ _
  | finished o o' =>
    cases hstep
    cases hstep'
    exact .finished o o'

end Kindred

/-- What comes of two stages is the same apart from secrets. -/
inductive Matched : Except Error Position → Except Error Position → Prop
  | ok {q q' : Position} (h : q.Similar q') : Matched (.ok q) (.ok q')
  | error {e e' : Error} (h : e'.masked = e.masked) : Matched (.error e) (.error e')

variable {a a' : Except Error Position}

theorem Matched.isOk_eq (h : Matched a a') : a'.isOk = a.isOk := by
  cases h <;> rfl

/-- The addresses of the wallets that come of a stage are the same. -/
structure SameWallets (a a' : Except Error Position) : Prop where
  consuming : ∀ p p' x x', a = .ok (.earningPath p x) → a' = .ok (.earningPath p' x') →
    x'.identity.address = x.identity.address
  earning : ∀ o o', a = .ok (.finished o) → a' = .ok (.finished o') →
    o'.earning.address = o.earning.address

theorem SameWallets.of_error (e e' : Error) : SameWallets (.error e) (.error e') where
  consuming _ _ _ _ h := by cases h
  earning _ _ h := by cases h

theorem Way.script_masked (w w' : Way) (r r' : Request) (p : Position) (e : Error) :
    w.script r p (.error e) = w'.script r' p (.error e.masked) := by
  cases p <;> cases e <;> rfl

theorem Way.script_error_similar (hsimilar : p.Similar p') (w : Way) (r : Request) (e : Error) :
    w.script r p' (.error e) = w.script r p (.error e) := by
  cases hsimilar <;> cases e <;> rfl

theorem Flow.derivedNote_congr (role : Role) (path : String) {v v' : Identity}
    (h : v'.address = v.address) : derivedNote role path v' = derivedNote role path v := by
  rw [derivedNote, derivedNote, h]

theorem Flow.earningNote_congr (e : EarningWallet) {v v' : Identity} (h : v'.address = v.address) :
    Flow.earningNote e v' = Flow.earningNote e v := by
  cases e with
  | derived path => exact derivedNote_congr .earning path h
  | external x => exact congrArg (fun address => "Using external earning wallet " ++ address) h

/-- What a stage logs when it does not ask is the same in two runs. -/
theorem Kindred.script_eq (h : Kindred w w' r r') (hsimilar : p.Similar p') (hmatched : Matched a a')
    (hwallets : SameWallets a a') : w'.script r' p' a' = w.script r p a := by
  cases hmatched with
  | @error e e' hmasked =>
    rw [Way.script_error_similar hsimilar, Way.script_masked w' w r' r p e',
      Way.script_masked w w r r p e, hmasked]
  | ok hnext =>
    cases hsimilar with
    | phrase l e =>
      cases hw : w with
      | generate n origin => rw [h.generate hw]; rfl
      | recover given =>
        obtain ⟨given', hw'⟩ := h.recover hw
        rw [hw']
        rfl
    | passphrase l e phrase phrase' => rw [Way.script, Way.script, h.passphrase]
    | consumingPath hearning =>
      cases hnext with
      | earningPath _ x x' =>
        have haddress := hwallets.consuming _ _ x x' rfl rfl
        rw [Way.script, Way.script, h.consumingPath, Flow.derivedNote_congr _ _ haddress]
      | _ => rfl
    | earningPath hearning x x' =>
      cases hnext with
      | finished o o' =>
        have haddress := hwallets.earning o o' rfl rfl
        rw [Way.script, Way.script, hearning, Flow.earningNote_congr _ haddress]
      | _ => rfl
    | _ => rfl

/-- How the lines that a run reads are seen: texts that stand for them, and the lines that are never
read. -/
structure Reader where
  texts : List String
  stand : String → String
  stands : Stands texts stand
  behind : List String

/-- Two sessions of twin runs, with the lines that stand for those that are still to be read. They are
the same lines if a pattern is. -/
structure Paired (pattern : Prop) (x x' : Reader) (s s' : Session) (lines lines' : List String) :
    Prop where
  colors : s'.colors = s.colors
  inVariable : (s'.environment.lookup Collect.dbPasswordVariable).isSome =
    (s.environment.lookup Collect.dbPasswordVariable).isSome
  follows : Follows x.texts x.stand x.behind s lines
  follows' : Follows x'.texts x'.stand x'.behind s' lines'
  same : pattern → lines' = lines

variable {pattern : Prop} {x x' : Reader} {lines' : List String}

theorem Collect.gaps_passphraseScript (e : Emitter) (colors : Bool) (request : PassphraseRequest)
    (attempts : Option Nat) (passed : Bool) (lines : List String) :
    Session.gaps (passphraseScript e colors request attempts passed lines) = [] := by
  unfold passphraseScript
  cases attempts with
  | none => rfl
  | some n =>
    dsimp only
    rw [acceptScript]
    cases confirmedEmpty (request.dialog e maxAttempts colors lines).result <;>
      cases passed <;> rfl

theorem Collect.logs_passphraseScript (e : Emitter) (colors : Bool) (request : PassphraseRequest)
    (attempts : Option Nat) (passed : Bool) (lines : List String) :
    (passphraseScript e colors request attempts passed lines).filter Piece.logs =
      (attempts.map fun n => Piece.note .debug Emitter.source (confirmedNote n)).toList := by
  unfold passphraseScript
  cases attempts with
  | none => rfl
  | some n =>
    dsimp only
    rw [acceptScript]
    cases confirmedEmpty (request.dialog e maxAttempts colors lines).result <;>
      cases passed <;> rfl

/-- A stage that does not ask logs messages only. -/
theorem Way.isNote_script (w : Way) (r : Request) (p : Position) (a : Except Error Position) :
    (w.script r p a).all Piece.isNote = true := by
  cases p with
  | passphrase l e phrase =>
    cases a with
    | error e => cases e <;> rfl
    | ok q =>
      rw [script]
      cases r.passphrase <;> rfl
  | phrase l e =>
    cases a with
    | error e => cases e <;> rfl
    | ok q => cases w <;> rfl
  | _ =>
    rcases a with e | q
    · cases e <;> rfl
    · cases q <;> rfl

theorem Way.gaps_script (w : Way) (r : Request) (p : Position) (a : Except Error Position) :
    Session.gaps (w.script r p a) = [] :=
  Session.gaps_of_isNote (w.isNote_script r p a)

/-- What stages ask is the same in two runs, if the pattern of the lines is. What they log is. -/
theorem Kindred.twin_askScript (h : Kindred w w' r r') (hsimilar : p.Similar p')
    (hpaired : Paired pattern x x' s s' lines lines')
    (hattempts : p.stage = 4 → w'.attempts r' s' = w.attempts r s) (passed : Bool) :
    Twin pattern [] (w.askScript r s lines passed p) (w'.askScript r' s' lines' passed p') := by
  cases hsimilar with
  | phrase l e =>
    rw [Way.askScript, Way.askScript, Collect.phraseScript, Collect.phraseScript, h.emitter,
      hpaired.colors]
    exact .asked _ fun hsame => by rw [hpaired.same hsame]
  | passphrase l e phrase phrase' =>
    rw [Way.askScript, Way.askScript, h.emitter, h.passphraseRequest, hpaired.colors,
      hattempts rfl]
    refine ⟨Collect.gaps_passphraseScript _ _ _ _ _ _, Collect.gaps_passphraseScript _ _ _ _ _ _,
      ?_, fun hsame => by rw [hpaired.same hsame]⟩
    rw [Collect.logs_passphraseScript, Collect.logs_passphraseScript]
  | dbPassword l e phrase passphrase phrase' passphrase' =>
    rw [Way.askScript, Way.askScript, h.emitter, hpaired.colors, hpaired.inVariable]
    split
    · exact .refl []
    · exact .asked _ fun hsame => by rw [hpaired.same hsame]
  | _ => exact .refl []

theorem Kindred.askRest_eq (h : Kindred w w' r r') (hsimilar : p.Similar p')
    (hpaired : Paired pattern x x' s s' lines lines') (hsame : pattern) :
    w'.askRest r' s' lines' p' = w.askRest r s lines p := by
  rw [hpaired.same hsame]
  cases hsimilar with
  | phrase l e => rw [Way.askRest, Way.askRest, hpaired.colors]
  | passphrase l e phrase phrase' =>
    rw [Way.askRest, Way.askRest, h.emitter, h.passphraseRequest, hpaired.colors]
  | dbPassword l e phrase passphrase phrase' passphrase' =>
    rw [Way.askRest, Way.askRest, hpaired.colors, hpaired.inVariable]
  | _ => rfl

section Runs

variable [Json.Nesting]

/-- Stages of twin runs tell twin scripts. -/
theorem Kindred.twins_step (h : Kindred w w' r r') (hsimilar : p.Similar p')
    (hpaired : Paired pattern x x' s s' lines lines')
    (hmatched : Matched (w.step c r p s).1 (w'.step c r' p' s').1)
    (hwallets : SameWallets (w.step c r p s).1 (w'.step c r' p' s').1)
    (hattempts : p.stage = 4 → p.asks w r = true → w'.attempts r' s' = w.attempts r s)
    (hf : p.stage = 4 → f.acknowledgement = w.acknowledgement r s)
    (hf' : p'.stage = 4 → f'.acknowledgement = w'.acknowledgement r' s')
    (hbehind : x.behind <:+ (w.step c r p s).2.input)
    (hbehind' : x'.behind <:+ (w'.step c r' p' s').2.input) :
    Twins pattern [] f f' s s' (w.step c r p s).2 (w'.step c r' p' s').2 ∧
      ∀ q t q' t', w.step c r p s = (.ok q, t) → w'.step c r' p' s' = (.ok q', t') →
        ∃ ls ls', Paired pattern x x' t t' ls ls' := by
  have hasks := h.asks_eq hsimilar
  have hscript := h.script_eq hsimilar hmatched hwallets
  have hsame := Way.same_of_step w c r p s
  have hsame' := Way.same_of_step w' c r' p' s'
  have hcolors : (w'.step c r' p' s').2.colors = (w.step c r p s).2.colors := by
    rw [hsame.colors, hsame'.colors, hpaired.colors]
  have hvariable : ((w'.step c r' p' s').2.environment.lookup Collect.dbPasswordVariable).isSome =
      ((w.step c r p s).2.environment.lookup Collect.dbPasswordVariable).isSome := by
    rw [hsame.environment, hsame'.environment, hpaired.inVariable]
  cases hcase : p.asks w r with
  | false =>
    rw [hcase] at hasks
    have hspoken := Way.says_quiet (c := c) (s := s) (f := f) hcase
    have hspoken' := Way.says_quiet (c := c) (s := s') (f := f') hasks
    rw [hscript] at hspoken'
    refine ⟨Way.gaps_script w r p (w.step c r p s).1 ▸ Twins.of_same hspoken hspoken', ?_⟩
    intro q t q' t' hok hok'
    have hinput := Way.step_input (c := c) (s := s) hcase
    have hinput' := Way.step_input (c := c) (s := s') hasks
    rw [hok] at hcolors hvariable hinput
    rw [hok'] at hcolors hvariable hinput'
    obtain ⟨ls, hls, hrest⟩ := hpaired.follows
    obtain ⟨ls', hls', hrest'⟩ := hpaired.follows'
    exact ⟨lines, lines', hcolors, hvariable, ⟨ls, hinput.trans hls, hrest⟩,
      ⟨ls', hinput'.trans hls', hrest'⟩, hpaired.same⟩
  | true =>
    rw [hcase] at hasks
    obtain ⟨hspoken, hfollows⟩ := Way.says_asking (f := f) x.stands hpaired.follows hcase hf hbehind
    obtain ⟨hspoken', hfollows'⟩ :=
      Way.says_asking (f := f') x'.stands hpaired.follows' hasks hf' hbehind'
    rw [hscript, hmatched.isOk_eq] at hspoken'
    have htwin := (h.twin_askScript hsimilar hpaired (fun hp => hattempts hp hcase)
      (w.step c r p s).1.isOk).append (Twin.refl (w.script r p (w.step c r p s).1))
    rw [Way.gaps_script, List.append_nil] at htwin
    refine ⟨⟨_, _, htwin, hspoken, hspoken'⟩, ?_⟩
    intro q t q' t' hok hok'
    rw [hok] at hcolors hvariable
    rw [hok'] at hcolors hvariable
    exact ⟨_, _, hcolors, hvariable, hfollows q t hok, hfollows' q' t' hok',
      h.askRest_eq hsimilar hpaired⟩

/-- What is left to do at a position puts no line back. -/
theorem Way.input_rest (m : Nat) (hm : p.stage + m = 8) :
    ((w.rest c r p).start s).2.input <:+ s.input := by
  induction m generalizing p s with
  | zero =>
    obtain ⟨o, rfl⟩ := Position.exists_finished hm
    exact List.suffix_refl _
  | succ m ih =>
    have hinput := (same_of_step w c r p s).input
    rw [start_rest]
    rcases hstep : w.step c r p s with ⟨e | q, t⟩
    · rw [hstep] at hinput
      exact hinput
    · rw [hstep] at hinput
      have hstage := stage_step (by omega) hstep
      exact (ih (by omega)).trans hinput

/-- A text is the line that a run reads to go on without a passphrase, if it reads one. -/
def Way.Acknowledges (w : Way) (c : Configuration) (r : Request) (s : Session) (text : String) :
    Prop :=
  ∀ l e phrase t, w.Reaches c r s (.passphrase l e phrase) t → text = w.acknowledgement r t

/-- The same may be known of two runs: how they ended, after how many attempts a passphrase was
confirmed, and the address of the consuming wallet. -/
structure Way.SameKnown (w w' : Way) (c : Configuration) (r r' : Request) (s s' : Session) :
    Prop where
  ending : maskedEnding ((w'.provision c r').start s').1 =
    maskedEnding ((w.provision c r).start s).1
  attempts : ∀ l e phrase t l' e' phrase' t', r.passphrase = none →
    w.Reaches c r s (.passphrase l e phrase) t → w'.Reaches c r' s' (.passphrase l' e' phrase') t' →
      w'.attempts r' t' = w.attempts r t
  consuming : ∀ p a t p' a' t', w.Reaches c r s (.earningPath p a) t →
    w'.Reaches c r' s' (.earningPath p' a') t' → a'.identity.address = a.identity.address

/-- A run that fails in a stage does not end as one does that passes it. -/
theorem Way.ending_ne (hsame : p'.stage = p.stage) {e : Error} (hp : p.stage < 8)
    (hstep : w.step c r p s = (.error e, t)) (hstep' : w'.step c r' p' s' = (.ok q', t')) :
    maskedEnding ((w'.rest c r' q').start t').1 ≠ .error e.masked := by
  intro hending
  have hstage := stage_of_step_error hstep
  have hnext := stage_step (hsame ▸ hp) hstep'
  rw [hsame] at hnext
  rcases hrest : (w'.rest c r' q').start t' with ⟨e' | o, u⟩
  · rw [hrest] at hending
    have hmasked : e'.masked = e.masked := by
      injection hending
    have hlate := stage_le_of_error (7 - p.stage) (by omega) hrest
    rw [← Error.stage_masked, hmasked, Error.stage_masked] at hlate
    omega
  · rw [hrest] at hending
    cases hending

variable {u u' : Session}

theorem Way.SameKnown.sameWallets (h : w.SameKnown w' c r r' s s') (hreaches : w.Reaches c r s q t)
    (hreaches' : w'.Reaches c r' s' q' t') : SameWallets (.ok q) (.ok q') where
  consuming p p' a a' hq hq' := by
    cases hq
    cases hq'
    exact h.consuming p a t p' a' t' hreaches hreaches'
  earning o o' hq hq' := by
    cases hq
    cases hq'
    have hending := h.ending
    rw [start_of_reaches hreaches, start_of_reaches hreaches'] at hending
    have hmasked : o'.masked = o.masked := Except.ok.inj hending
    have haddress : o'.masked.earning.address = o.masked.earning.address := by rw [hmasked]
    exact haddress

/-- Runs of which the same is known tell twin scripts from any position on. -/
theorem Kindred.twins_of_reaches (h : Kindred w w' r r') (hknown : w.SameKnown w' c r r' s s')
    (hf : w.Acknowledges c r s f.acknowledgement) (hf' : w'.Acknowledges c r' s' f'.acknowledgement)
    (hbehind : x.behind <:+ ((w.provision c r).start s).2.input)
    (hbehind' : x'.behind <:+ ((w'.provision c r').start s').2.input) (n : Nat)
    (hn : p.stage + n = 8) (hsimilar : p.Similar p') (hreaches : w.Reaches c r s p u)
    (hreaches' : w'.Reaches c r' s' p' u') (hpaired : Paired pattern x x' u u' lines lines') :
    Twins pattern [] f f' u u' ((w.provision c r).start s).2 ((w'.provision c r').start s').2 := by
  -- on the stages that are left
  induction n generalizing p p' u u' lines lines' with
  | zero =>
    obtain ⟨o, rfl⟩ := Position.exists_finished hn
    obtain ⟨o', rfl⟩ := Position.exists_finished (hsimilar.stage_eq.trans hn)
    rw [Way.start_of_reaches hreaches, Way.start_of_reaches hreaches']
    exact .refl u u'
  | succ n ih =>
    have hp : p.stage < 8 := by omega
    have hp' : p'.stage < 8 := hsimilar.stage_eq ▸ hp
    have hattempts : p.stage = 4 → p.asks w r = true → w'.attempts r' u' = w.attempts r u := by
      intro hstage hasks
      cases hsimilar with
      | passphrase l e phrase phrase' =>
        have hnone := Option.isNone_iff_eq_none.mp (Bool.and_eq_true_iff.mp hasks).1
        exact hknown.attempts _ _ _ _ _ _ _ _ hnone hreaches hreaches'
      | _ => cases hstage
    have hack : p.stage = 4 → f.acknowledgement = w.acknowledgement r u := by
      intro hstage
      cases hsimilar with
      | passphrase l e phrase phrase' => exact hf _ _ _ _ hreaches
      | _ => cases hstage
    have hack' : p'.stage = 4 → f'.acknowledgement = w'.acknowledgement r' u' := by
      intro hstage
      cases hsimilar with
      | passphrase l e phrase phrase' => exact hf' _ _ _ _ hreaches'
      | _ => cases hstage
    -- The runs end alike, so that the stage fails in both of them or in none.
    rcases hstep : w.step c r p u with ⟨e | q, v⟩ <;>
      rcases hstep' : w'.step c r' p' u' with ⟨e' | q', v'⟩
    · have hending := hknown.ending
      rw [Way.start_of_fails hreaches hstep] at hbehind hending ⊢
      rw [Way.start_of_fails hreaches' hstep'] at hbehind' hending ⊢
      have hmasked : e'.masked = e.masked := by
        injection hending
      have htwins := h.twins_step (c := c) hsimilar hpaired
        (hstep ▸ hstep' ▸ .error hmasked) (hstep ▸ hstep' ▸ .of_error e e') hattempts hack hack'
        (hstep ▸ hbehind) (hstep' ▸ hbehind')
      rw [hstep, hstep'] at htwins
      exact htwins.1
    · have hending := hknown.ending
      rw [Way.start_of_fails hreaches hstep,
        Way.start_of_reaches (hreaches'.next hp' hstep')] at hending
      exact absurd hending (Way.ending_ne hsimilar.stage_eq hp hstep hstep')
    · have hending := hknown.ending
      rw [Way.start_of_fails hreaches' hstep',
        Way.start_of_reaches (hreaches.next hp hstep)] at hending
      exact absurd hending.symm (Way.ending_ne hsimilar.stage_eq.symm hp' hstep' hstep)
    · have hnext := hreaches.next hp hstep
      have hnext' := hreaches'.next hp' hstep'
      have hsimilar' := h.similar_step hsimilar hstep hstep'
      have hstage := Way.stage_step hp hstep
      have hinput : x.behind <:+ v.input := by
        rw [Way.start_of_reaches hnext] at hbehind
        exact hbehind.trans (Way.input_rest n (by omega))
      have hinput' : x'.behind <:+ v'.input := by
        rw [Way.start_of_reaches hnext'] at hbehind'
        exact hbehind'.trans (Way.input_rest n (by rw [hsimilar'.stage_eq]; omega))
      obtain ⟨htwins, hpairs⟩ := h.twins_step (c := c) hsimilar hpaired
        (hstep ▸ hstep' ▸ .ok hsimilar') (hstep ▸ hstep' ▸ hknown.sameWallets hnext hnext')
        hattempts hack hack' (hstep ▸ hinput) (hstep' ▸ hinput')
      obtain ⟨ls, ls', hpaired'⟩ := hpairs q v q' v' hstep hstep'
      rw [hstep, hstep'] at htwins
      exact htwins.trans (ih (by omega) hsimilar' hnext hnext' hpaired')

end Runs

end HdProvision.Provision
