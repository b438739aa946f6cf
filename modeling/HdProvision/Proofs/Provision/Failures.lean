import HdProvision.Proofs.Provision.Staging

/-!
# Stages in which errors come up

Every error of provisioning belongs to one stage, and a stage fails with its own errors only. So the
error that ends a run tells how far it got.
-/

set_option autoImplicit false

namespace HdProvision.Provision

open Mnemonic (Language)
open Store (Configuration)
open Wallet (EarningWallet Identity)

/-- The stage in which an error comes up. -/
def Error.stage : Error → Nat
  | .config (.unknownLanguage _) => 1
  | .earningAddressRejected _ => 2
  | .wordCount _ | .config (.notSupplied .mnemonic) | .inputFailed .phrase | .mnemonicRejected _ => 3
  | .config (.notSupplied .passphrase) | .inputFailed .passphrase | .inputFailed .confirmation
  | .inputFailed .acknowledgement | .retriesExhausted _ => 4
  | .config (.notSupplied .dbPassword) | .config .blankPassword | .inputFailed .dbPassword => 5
  | .malformedPath .consuming _ => 6
  | .malformedPath .earning _ => 7
  | _ => 0

/-- The errors of a program come up in one stage. -/
def FailsAt {α : Type} (n : Nat) (p : Program Error α) : Prop :=
  ∀ s e t, p.start s = (.error e, t) → e.stage = n

variable {α β : Type} {n : Nat}

theorem FailsAt.bind {p : Program Error α} {g : α → Program Error β} (hp : FailsAt n p)
    (hg : ∀ a, FailsAt n (g a)) : FailsAt n (p >>= g) := by
  intro s e t h
  rcases Program.start_bind_error.mp h with hfirst | ⟨a, u, -, hsecond⟩
  · exact hp s e t hfirst
  · exact hg a u e t hsecond

theorem failsAt_of_ok {p : Program Error α} (h : ∀ s, ∃ a t, p.start s = (.ok a, t)) :
    FailsAt n p := by
  intro s e t hstart
  obtain ⟨a, u, hok⟩ := h s
  rw [hok] at hstart
  cases hstart

theorem failsAt_note (level : Log.Level) (source message : String) :
    FailsAt n (Session.note level source message) :=
  failsAt_of_ok fun s => ⟨_, _, Session.start_note level source message s⟩

theorem failsAt_pure (a : α) : FailsAt n (pure a : Program Error α) :=
  failsAt_of_ok fun s => ⟨_, _, Program.start_pure a s⟩

theorem failsAt_check [Json.Nesting] (c : Configuration) {existing : Error} (hexisting : existing.stage = 0) :
    FailsAt 0 ((Guard.check c).mapError (GuardFault.toError existing)) := by
  intro s e t h
  rw [Program.start_mapError] at h
  cases hseed : Store.Config.seedExists s.disk c.file with
  | error fault =>
    rw [Guard.start_check_of_error hseed] at h
    cases h
    cases fault <;> rfl
  | ok there =>
    cases there with
    | true =>
      rw [Guard.start_check_of_true hseed] at h
      cases h
      exact hexisting
    | false =>
      rw [Guard.start_check_of_false hseed] at h
      cases h

namespace Flow

theorem failsAt_language (name : String) : FailsAt 1 (language name) := by
  intro s e t h
  rw [language] at h
  cases hfind : Language.find? name with
  | none =>
    rw [hfind] at h
    cases h
    rfl
  | some l =>
    rw [hfind] at h
    cases h

theorem failsAt_earningWallet (x : EarningChoice) : FailsAt 2 (earningWallet x) := by
  intro s e t h
  cases x with
  | wallet w => cases h
  | text text =>
    rw [earningWallet] at h
    cases hchosen : EarningWallet.ofString text with
    | error text =>
      rw [hchosen] at h
      cases h
      rfl
    | ok w =>
      rw [hchosen] at h
      cases h

theorem failsAt_newPhrase (origin : PhraseSource) (n : Int) (l : Language) :
    FailsAt 3 (newPhrase origin n l) := by
  intro s e t h
  cases origin with
  | prepared phrase => cases h
  | fresh =>
    rw [newPhrase] at h
    cases hcount : Mnemonic.WordCount.ofInt? n with
    | none =>
      rw [hcount] at h
      cases h
      rfl
    | some count =>
      rw [hcount] at h
      cases h

theorem failsAt_require (interactive : Bool) (p : Parameter) :
    FailsAt (Error.stage (.config (.notSupplied p))) (require interactive p) := by
  intro s e t h
  cases interactive with
  | true => cases h
  | false =>
    cases h
    rfl

theorem failsAt_knownWords (r : Request) (words : Option (List String)) :
    FailsAt 3 (knownWords r words) := by
  cases words with
  | some words => exact failsAt_pure _
  | none =>
    refine (failsAt_require _ .mnemonic).bind fun _ => ?_
    intro s e t h
    rw [Collect.start_words] at h
    obtain ⟨hresult, -⟩ := Prod.mk.inj h
    split at hresult
    · cases hresult
    · cases hresult
      rfl

theorem failsAt_knownPhrase (l : Language) (words : List String) :
    FailsAt 3 (knownPhrase l words) := by
  intro s e t h
  rw [knownPhrase] at h
  cases hvalid : Mnemonic.validate l words with
  | ok phrase =>
    rw [hvalid] at h
    cases h
  | error rejection =>
    rw [hvalid] at h
    cases h
    rfl

theorem failsAt_passphrase (r : Request) (request : Collect.PassphraseRequest) :
    FailsAt 4 (passphrase r request) := by
  rw [passphrase]
  cases r.passphrase with
  | some p => exact (failsAt_note _ _ _).bind fun _ => failsAt_pure _
  | none =>
    refine (failsAt_require _ .passphrase).bind fun _ => ?_
    intro s e t h
    rw [Collect.start_passphrase] at h
    split at h
    · cases h
      rfl
    · cases h
      rfl
    · cases h
      rfl
    · rw [Collect.start_accept] at h
      split at h
      · split at h
        · cases h
          rfl
        · cases h
      · cases h

theorem failsAt_dbPassword (r : Request) : FailsAt 5 (dbPassword r) := by
  have htaken : ∀ p : String, FailsAt 5 (do
      if isBlankPassword p then throw (.config .blankPassword)
      return p : Program Error String) := by
    intro p s e t h
    cases hblank : isBlankPassword p
    · rw [hblank] at h
      cases h
    · rw [hblank] at h
      cases h
      rfl
  have hasks : FailsAt 5
      (Collect.dbPassword r.emitter true (some Collect.dbPasswordVariable)) := by
    intro s e t h
    cases hvariable : s.environment.lookup Collect.dbPasswordVariable with
    | some p =>
      rw [Collect.start_dbPassword_of_some hvariable] at h
      cases h
    | none =>
      rw [Collect.start_dbPassword_of_none hvariable] at h
      obtain ⟨hresult, -⟩ := Prod.mk.inj h
      split at hresult
      · cases hresult
      · cases hresult
        rfl
  rw [dbPassword]
  cases r.dbPassword with
  | some p => exact (failsAt_pure p).bind htaken
  | none =>
    exact (failsAt_require _ .dbPassword).bind fun _ => hasks.bind htaken

theorem failsAt_derive (seed : Bytes) (path : String) (role : Role) :
    FailsAt (Error.stage (.malformedPath role path)) (derive seed path role) := by
  intro s e t h
  cases hderive : Identity.derive seed path with
  | error fault =>
    rw [start_derive_of_error hderive] at h
    cases h
    rfl
  | ok w =>
    rw [start_derive_of_ok hderive] at h
    cases h

theorem failsAt_earning (seed : Bytes) (e : EarningWallet) : FailsAt 7 (earning seed e) := by
  cases e with
  | derived path => exact (failsAt_derive seed path .earning).bind fun _ => failsAt_pure _
  | external e => exact (failsAt_note _ _ _).bind fun _ => failsAt_pure _

end Flow

theorem Step.stage_of_error {y : Step} {next : α → Position} {p : Program Error α} {s t : Session}
    {e : Error} (hy : y = through next (p.start s)) (hp : FailsAt n p) (h : y = (.error e, t)) :
    e.stage = n := by
  rw [hy] at h
  rcases hstart : p.start s with ⟨e' | a, u⟩
  · rw [hstart] at h
    cases h
    exact hp s e t hstart
  · rw [hstart] at h
    cases h

variable [Json.Nesting] {w : Way} {c : Configuration} {r : Request} {p : Position} {s t : Session}
  {e : Error}

/-- A stage fails with errors of its own. -/
theorem Way.stage_of_step_error (h : w.step c r p s = (.error e, t)) : e.stage = p.stage := by
  cases p with
  | guard =>
    exact Step.stage_of_error (Step.guard_eq _ c s) (failsAt_check c (by cases w <;> rfl)) h
  | language => exact Step.stage_of_error (Step.language_eq r s) (Flow.failsAt_language _) h
  | earning l => exact Step.stage_of_error (Step.earning_eq r l s) (Flow.failsAt_earningWallet _) h
  | phrase l e =>
    cases w with
    | generate m origin =>
      exact Step.stage_of_error (Step.newPhrase_eq m origin r l e s)
        ((Flow.failsAt_newPhrase _ _ _).bind fun _ => (failsAt_note _ _ _).bind fun _ =>
          failsAt_pure _) h
    | recover words =>
      exact Step.stage_of_error (Step.knownPhrase_eq words r l e s)
        ((Flow.failsAt_knownWords _ _).bind fun _ => Flow.failsAt_knownPhrase _ _) h
  | passphrase l e phrase =>
    exact Step.stage_of_error (Step.passphrase_eq r _ l e phrase s) (Flow.failsAt_passphrase _ _) h
  | dbPassword l e phrase passphrase =>
    exact Step.stage_of_error (Step.dbPassword_eq r l e phrase passphrase s)
      (Flow.failsAt_dbPassword _) h
  | consumingPath p =>
    exact Step.stage_of_error (Step.consumingPath_eq r p s) (Flow.failsAt_derive _ _ .consuming) h
  | earningPath p consuming =>
    exact Step.stage_of_error (Step.earningPath_eq r _ p consuming s) (Flow.failsAt_earning _ _) h
  | finished o => cases h

/-- What is left to do at a position does not fail with an error of an earlier stage. -/
theorem Way.stage_le_of_error (m : Nat) (hm : p.stage + m = 8)
    (h : (w.rest c r p).start s = (.error e, t)) : p.stage ≤ e.stage := by
  induction m generalizing p s with
  | zero =>
    obtain ⟨o, rfl⟩ := Position.exists_finished hm
    cases h
  | succ m ih =>
    rw [start_rest] at h
    rcases hstep : w.step c r p s with ⟨e' | q, u⟩
    · rw [hstep] at h
      cases h
      exact (stage_of_step_error hstep).ge
    · rw [hstep] at h
      have hstage := stage_step (by omega) hstep
      have hrest := ih (by omega) h
      omega

/-- A run gets to the phrase when the guard lets it go on, the language is known and the earning wallet
is understood. -/
theorem Way.reaches_phrase {w : Way} {c : Configuration} {r : Request} {s t : Session} {l : Language}
    {e : EarningWallet} (hguard : w.step c r .guard s = (.ok .language, t))
    (hl : Language.find? r.language = some l) (he : r.earning.chosen = .ok e) :
    w.Reaches c r s (.phrase l e) t := by
  have hlanguage : w.step c r .language t = (.ok (.earning l), t) := by
    rw [step, Step.language, hl, Option.elim_some]
  have hearning : w.step c r (.earning l) t = (.ok (.phrase l e), t) := by
    rw [step, Step.earning, he]
  exact .next (.next (.next .start (by decide) hguard) (by decide) hlanguage) (show 2 < 8 by decide)
    hearning

/-- A run ends at the password if nothing gives it and no line is left. -/
theorem Way.step_dbPassword_of_end {w : Way} {c : Configuration} {r : Request} {s : Session}
    (hasks : r.interactive = true) (hgiven : r.dbPassword = none) (hinput : s.input = [])
    (henvironment : s.environment = []) (l : Language) (e : EarningWallet)
    (phrase passphrase : String) :
    w.step c r (.dbPassword l e phrase passphrase) s = (.error (.inputFailed .dbPassword),
      Collect.asked s (r.emitter.said s.colors .white Collect.dbPasswordNotice)
        (Console.twice (Collect.passwordConfirmation s.colors) none)) := by
  have hnone : s.environment.lookup Collect.dbPasswordVariable = none := by
    rw [henvironment]
    rfl
  rw [step_dbPassword_asking hgiven hasks, Step.asking_of_error]
  rw [Collect.start_dbPassword_of_none hnone, hinput]
  rfl

end HdProvision.Provision
