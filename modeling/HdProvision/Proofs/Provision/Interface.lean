import HdProvision.Proofs.Provision.Failures
import HdProvision.Proofs.Store.Damage

/-!
# The errors that callers are told of

Provisioning announces three kinds of errors: values that could not be obtained, causes that the
operator can mend, and faults of the surroundings. One error is of no such kind: a new phrase is
asked for with a number of words that no phrase has.
-/

set_option autoImplicit false

namespace HdProvision.Mnemonic.WordCount

/-- A number is no word count if no word count has it. -/
theorem ofInt?_eq_none {n : Int} :
    ofInt? n = none ↔ ∀ count : WordCount, (count.toNat : Int) ≠ n := by
  rw [ofInt?, List.find?_eq_none]
  refine ⟨fun h count => ?_, fun h count _ => ?_⟩
  · have hmem : count ∈ all := by cases count <;> decide
    simpa using h count hmem
  · simpa using h count

end HdProvision.Mnemonic.WordCount

namespace HdProvision.Provision

open Mnemonic (Language)
open Store (Configuration)
open Wallet (EarningWallet)

/-- The errors of the three kinds that are announced. -/
def Error.isAnnounced : Error → Bool
  | .config _ => true
  | e => e.ending?.isSome

/-- An error that is not announced belongs to a word count, or to a file that cannot be opened. -/
theorem Error.cases_of_unannounced {e : Error} (h : e.isAnnounced = false) :
    (∃ n, e = .wordCount n) ∨ ∃ fault, e = .store fault := by
  cases e with
  | wordCount n => exact .inl ⟨n, rfl⟩
  | store fault => exact .inr ⟨fault, rfl⟩
  | _ => cases h

/-- The session in which the guard has let pass. -/
def Guard.passed (s : Session) : Session :=
  s.noted .debug source "No persisted mnemonic seed found"

section Runs

variable [Json.Nesting]

/-- A new phrase is asked for with a number of words that no phrase has, and nothing before the
phrase is in the way. -/
structure Way.Miscounts (w : Way) (c : Configuration) (r : Request) (s : Session) (n : Int) :
    Prop where
  generate : w = .generate n .fresh
  count : ∀ count : Mnemonic.WordCount, (count.toNat : Int) ≠ n
  unseeded : Store.Config.seedExists s.disk c.file = .ok false
  language : ∃ l, Language.find? r.language = some l
  earning : ∃ e, r.earning.chosen = .ok e

variable {w : Way} {c : Configuration} {r : Request} {s t : Session} {e : Error}

namespace Way

theorem step_guard_of_unseeded (h : Store.Config.seedExists s.disk c.file = .ok false) :
    w.step c r .guard s = (.ok .language, Guard.passed s) := by
  rw [step, Step.guard, h]
  rfl

/-- A run that miscounts ends at the phrase. -/
theorem Miscounts.start_provision {n : Int} (h : w.Miscounts c r s n) :
    (w.provision c r).start s = (.error (.wordCount n), Guard.passed s) := by
  obtain ⟨l, hl⟩ := h.language
  obtain ⟨wallet, hwallet⟩ := h.earning
  have hreaches := reaches_phrase (step_guard_of_unseeded (w := w) h.unseeded) hl hwallet
  refine start_of_fails hreaches ?_
  rw [h.generate, step, Step.newPhrase, Mnemonic.WordCount.ofInt?_eq_none.mpr h.count]

/-- The guard fails with an error that is announced. -/
theorem isAnnounced_of_step_guard
    (hstate : Store.Reported (Store.Config.seedExists s.disk c.file))
    (h : w.step c r .guard s = (.error e, t)) : e.isAnnounced = true := by
  rw [step, Step.guard] at h
  cases hseed : Store.Config.seedExists s.disk c.file with
  | error fault =>
    obtain ⟨fault, rfl⟩ := hstate _ hseed
    rw [hseed] at h
    cases h
    rfl
  | ok there =>
    rw [hseed] at h
    cases there with
    | true =>
      cases h
      cases w <;> rfl
    | false => cases h

/-- What a run has found when it gets to the phrase. -/
theorem Reaches.found {l : Language} {wallet : EarningWallet}
    (h : w.Reaches c r s (.phrase l wallet) t) :
    Store.Config.seedExists s.disk c.file = .ok false ∧
      (∃ l, Language.find? r.language = some l) ∧ ∃ e, r.earning.chosen = .ok e := by
  -- A stage before that fails would be the last one reached.
  have hpasses : ∀ {p : Position} {u v : Session} {e : Error}, w.Reaches c r s p u →
      w.step c r p u = (.error e, v) → 3 ≤ p.stage :=
    fun hreaches hfails => stage_le_of_fails hreaches hfails h
  have hguard : w.Reaches c r s .guard s := .start
  have hseed : Store.Config.seedExists s.disk c.file = .ok false := by
    cases hseed : Store.Config.seedExists s.disk c.file with
    | error fault =>
      exact absurd (hpasses hguard (by rw [step, Step.guard, hseed])) (by decide)
    | ok there =>
      cases there with
      | true => exact absurd (hpasses hguard (by rw [step, Step.guard, hseed])) (by decide)
      | false => rfl
  have hlanguage : w.Reaches c r s .language (Guard.passed s) :=
    hguard.next (by decide) (step_guard_of_unseeded hseed)
  have hknown : ∃ l, Language.find? r.language = some l := by
    refine Option.ne_none_iff_exists'.mp fun hnone => ?_
    exact absurd (hpasses hlanguage (by rw [step, Step.language, hnone, Option.elim_none]))
      (by decide)
  obtain ⟨l, hl⟩ := hknown
  have hearning : w.Reaches c r s (.earning l) (Guard.passed s) :=
    hlanguage.next (by decide) (by rw [step, Step.language, hl, Option.elim_some])
  refine ⟨hseed, ⟨l, hl⟩, ?_⟩
  cases hchosen : r.earning.chosen with
  | error text =>
    have hstage := hpasses hearning (by rw [step, Step.earning, hchosen])
    exact absurd hstage (show ¬ 3 ≤ 2 by decide)
  | ok wallet => exact ⟨wallet, rfl⟩

/-- The phrase fails for its word count only if it is a new one and no word count has the number. -/
theorem wordCount_of_step {l : Language} {wallet : EarningWallet} {n : Int}
    (h : w.step c r (.phrase l wallet) s = (.error (.wordCount n), t)) :
    w = .generate n .fresh ∧ ∀ count : Mnemonic.WordCount, (count.toNat : Int) ≠ n := by
  cases w with
  | generate m origin =>
    cases origin with
    | prepared phrase => cases h
    | fresh =>
      rw [step, Step.newPhrase] at h
      cases hcount : Mnemonic.WordCount.ofInt? m with
      | some count =>
        rw [hcount] at h
        cases h
      | none =>
        rw [hcount] at h
        cases h
        exact ⟨rfl, Mnemonic.WordCount.ofInt?_eq_none.mp hcount⟩
  | recover given =>
    have hwords : ∀ (words : List String) (u : Session),
        Step.words l wallet words u ≠ (.error (.wordCount n), t) := by
      intro words u h
      rw [Step.words] at h
      split at h <;> cases h
    cases given with
    | some words => exact absurd h (hwords words s)
    | none =>
      cases hasks : r.interactive with
      | false =>
        rw [step, Step.knownPhrase, hasks] at h
        cases h
      | true =>
        have hstart := Collect.start_words r.emitter s
        cases hanswer : (Console.filled (Collect.promptShown s.colors Collect.phraseQuestion)
            s.input).result with
        | none =>
          rw [hanswer] at hstart
          rw [step_phrase_asking hasks, Step.asking_of_error hstart] at h
          cases h
        | some phrase =>
          rw [hanswer] at hstart
          rw [step_phrase_asking hasks, Step.asking_of_ok hstart] at h
          exact absurd h (hwords _ _)

/-- A run ends with an error that is not announced exactly if it miscounts, provided that the file
can be looked into or the storage says why it cannot. -/
theorem unannounced_iff
    (hstate : Store.Reported (Store.Config.seedExists s.disk c.file)) :
    (w.provision c r).start s = (.error e, t) ∧ e.isAnnounced = false ↔
      ∃ n, w.Miscounts c r s n ∧ e = .wordCount n ∧ t = Guard.passed s := by
  constructor
  · rintro ⟨hrun, hunannounced⟩
    obtain ⟨p, u, hreaches, hstep⟩ := fails_iff.mp hrun
    have hstage := stage_of_step_error hstep
    rcases Error.cases_of_unannounced hunannounced with ⟨n, hwordCount⟩ | ⟨fault, hstore⟩
    · subst hwordCount
      cases p with
      | phrase l wallet =>
        obtain ⟨hgenerate, hcount⟩ := wordCount_of_step hstep
        obtain ⟨hseed, hlanguage, hearning⟩ := hreaches.found
        have hmiscounts : w.Miscounts c r s n := ⟨hgenerate, hcount, hseed, hlanguage, hearning⟩
        rw [hmiscounts.start_provision] at hrun
        exact ⟨n, hmiscounts, rfl, (Prod.mk.inj hrun).2.symm⟩
      | _ => cases hstage
    · subst hstore
      cases p with
      | guard =>
        obtain ⟨-, rfl⟩ := reaches_unique hreaches .start rfl
        rw [isAnnounced_of_step_guard hstate hstep] at hunannounced
        cases hunannounced
      | _ => cases hstage
  · rintro ⟨n, hmiscounts, rfl, rfl⟩
    exact ⟨hmiscounts.start_provision, rfl⟩

end Way

end Runs

namespace Way

open scoped Json.Nesting

/-- Thirteen words are asked for where nothing else is in the way. -/
theorem miscounts_thirteen : (Way.generate 13 .fresh).Miscounts Store.Configuration.nearby
    (Flow.plainRequest "x") (Session.bare []) 13 where
  generate := rfl
  count count := by cases count <;> decide
  unseeded := rfl
  language := by
    refine ⟨.english, ?_⟩
    simp [Language.find?, Language.all, Language.isNamed, Flow.plainRequest]
  earning := ⟨.derived "m", rfl⟩

/-- Thirteen words end a run with an error that is not announced. -/
theorem unannounced_thirteen :
    ((Way.generate 13 .fresh).provision Store.Configuration.nearby (Flow.plainRequest "x")).start
        (Session.bare []) = (.error (.wordCount 13), Guard.passed (Session.bare [])) ∧
      (Error.wordCount 13).isAnnounced = false := by
  have hstate : Store.Reported (Store.Config.seedExists (Session.bare []).disk
      Store.Configuration.nearby.file) := Store.reported_ok false
  exact (unannounced_iff hstate).mpr ⟨13, miscounts_thirteen, rfl, rfl⟩

/-- The errors of the three kinds are not all that end a run. -/
theorem not_announced_thirteen :
    ¬ ∀ e t, ((Way.generate 13 .fresh).provision Store.Configuration.nearby
        (Flow.plainRequest "x")).start (Session.bare []) = (.error e, t) →
      e.isAnnounced = true := by
  intro h
  exact absurd (h _ _ miscounts_thirteen.start_provision) (by decide)

end Way
end HdProvision.Provision
