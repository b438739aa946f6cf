import HdProvision.Proofs.Mnemonic.Reading
import HdProvision.Proofs.Provision.Stages

/-!
# Recovering what was generated

A phrase that was generated leads back to the same wallets: the words are accepted as they are typed,
and the seed does not depend on how they are spaced or composed.
-/

set_option autoImplicit false

namespace HdProvision.Provision.Flow

open Mnemonic (Language)
open Store (Configuration)
open Wallet (EarningWallet Identity)

variable {c : Configuration} {r : Request} {n : Int} {origin : PhraseSource} {s t : Session}
  {o : Outcome}

/-- What is said about a new phrase. -/
def generatedNote (n : Int) (l : Language) : String :=
  "Generated a " ++ Text.Integer.text n ++ " word " ++ l.identifier ++ " mnemonic phrase"

/-- The session of a generation when its passphrase is due: the guard let pass, and the phrase was
drawn and noted. -/
def phraseMade (s : Session) (n : Int) (l : Language) (count : Mnemonic.WordCount) : Session :=
  ((s.noted .debug Guard.source "No persisted mnemonic seed found").withDrawn
    count.entropySize).noted .info source (generatedNote n l)

section Runs

variable [Json.Nesting]

/-- The stages of a generation that succeeds. -/
theorem generate_ok (h : (generate c r n origin).start s = (.ok o, t)) :
    ∃ l e phrase p pw s₁ s₂ s₃,
      Store.Config.seedExists s.disk c.file = .ok false ∧
      Language.find? r.language = some l ∧ r.earning.chosen = .ok e ∧
      (newPhrase origin n l).start
        (s.noted .debug Guard.source "No persisted mnemonic seed found") = (.ok phrase, s₁) ∧
      (passphrase r Collect.newPassphrase).start (s₁.noted .info source (generatedNote n l)) =
        (.ok p, s₂) ∧
      (dbPassword r).start s₂ = (.ok pw, s₃) ∧
      (assemble r ⟨phrase, p, l, e, pw⟩ true).start s₃ = (.ok o, t) := by
  obtain ⟨_, s₀, hguard, h⟩ := Program.start_bind_ok.mp h
  obtain ⟨l, s₁, hl, h⟩ := Program.start_bind_ok.mp h
  obtain ⟨e, s₂, he, h⟩ := Program.start_bind_ok.mp h
  obtain ⟨phrase, s₃, hphrase, h⟩ := Program.start_bind_ok.mp h
  obtain ⟨_, s₄, hnote, h⟩ := Program.start_bind_ok.mp h
  obtain ⟨p, s₅, hp, h⟩ := Program.start_bind_ok.mp h
  obtain ⟨pw, s₆, hpw, hassemble⟩ := Program.start_bind_ok.mp h
  obtain ⟨hfree, rfl⟩ := Guard.seedExists_of_check (Program.start_mapError_ok.mp hguard)
  obtain ⟨hfind, rfl⟩ := language_ok.mp hl
  obtain ⟨hchosen, rfl⟩ := earningWallet_ok.mp he
  rw [Session.start_note, Prod.mk.injEq] at hnote
  obtain ⟨-, rfl⟩ := hnote
  exact ⟨l, e, phrase, p, pw, s₃, s₅, s₆, hfree, hfind, hchosen, hphrase, hp, hpw, hassemble⟩

/-- A generation for which nothing has to be asked succeeds if its paths can be derived. -/
theorem generate_of_ok {l : Language} {e : EarningWallet} {count : Mnemonic.WordCount}
    {p pw : String} (hfree : Store.Config.seedExists s.disk c.file = .ok false)
    (hl : Language.find? r.language = some l) (he : r.earning.chosen = .ok e)
    (hcount : Mnemonic.WordCount.ofInt? n = some count) (hp : r.passphrase = some p)
    (hpw : r.dbPassword = some pw) (hblank : isBlankPassword pw = false)
    (hw : ∀ seed, ∃ w, Identity.derive seed r.consumingPath = .ok w)
    (hv : ∀ seed, ∃ v, e.identity seed = .ok v) :
    ∃ o t, (generate c r n .fresh).start s = (.ok o, t) := by
  have hguard := Program.start_mapError_ok (f := GuardFault.toError .seedCollision) |>.mpr
    (Guard.start_check_of_false hfree)
  have hphrase : ∀ u : Session, (newPhrase .fresh n l).start u =
      (.ok (Mnemonic.display l (Mnemonic.ofEntropy l (u.upcoming count.entropySize))),
        u.withDrawn count.entropySize) := by
    intro u
    rw [newPhrase, hcount]
    rfl
  rw [generate, Program.start_bind_of_ok hguard, Program.start_bind_of_ok (language_ok.mpr ⟨hl, rfl⟩),
    Program.start_bind_of_ok (earningWallet_ok.mpr ⟨he, rfl⟩), Program.start_bind_of_ok (hphrase _),
    Program.start_bind_of_ok (Session.start_note _ _ _ _),
    Program.start_bind_of_ok (start_passphrase_of_some hp _ _),
    Program.start_bind_of_ok (start_dbPassword_of_some hpw hblank _)]
  obtain ⟨w, hw⟩ := hw (Mnemonic.seed (Mnemonic.display l (Mnemonic.ofEntropy l _)) p)
  obtain ⟨v, hv⟩ := hv (Mnemonic.seed (Mnemonic.display l (Mnemonic.ofEntropy l _)) p)
  obtain ⟨o, t, ho, -, -⟩ := assemble_of_ok (p := ⟨_, p, l, e, pw⟩) hw hv true _
  exact ⟨o, t, ho⟩

/-- Words that are accepted are recovered from, when nothing has to be asked for. -/
theorem recover_of_ok {ws : List String} {l : Language} {e : EarningWallet}
    {phrase p pw : String} {w v : Identity}
    (hfree : Store.Config.seedExists s.disk c.file = .ok false)
    (hl : Language.find? r.language = some l) (he : r.earning.chosen = .ok e)
    (hphrase : Mnemonic.validate l ws = .ok phrase) (hp : r.passphrase = some p)
    (hpw : r.dbPassword = some pw) (hblank : isBlankPassword pw = false)
    (hw : Identity.derive (Mnemonic.seed phrase p) r.consumingPath = .ok w)
    (hv : e.identity (Mnemonic.seed phrase p) = .ok v) :
    ∃ o t, (recover c r (some ws)).start s = (.ok o, t) ∧
      Assembled r ⟨phrase, p, l, e, pw⟩ o ∧ o.phrase = none ∧ o.consuming = w ∧ o.earning = v := by
  have hguard := Program.start_mapError_ok (f := GuardFault.toError .alreadyProvisioned) |>.mpr
    (Guard.start_check_of_false hfree)
  have hknown : ∀ u, (knownPhrase l ws).start u = (.ok phrase, u) := by
    intro u
    rw [knownPhrase, hphrase]
    rfl
  rw [recover, Program.start_bind_of_ok hguard, Program.start_bind_of_ok (language_ok.mpr ⟨hl, rfl⟩),
    Program.start_bind_of_ok (earningWallet_ok.mpr ⟨he, rfl⟩), knownWords,
    Program.start_bind_of_ok (Program.start_pure _ _), Program.start_bind_of_ok (hknown _),
    Program.start_bind_of_ok (start_passphrase_of_some hp _ _),
    Program.start_bind_of_ok (start_dbPassword_of_some hpw hblank _)]
  obtain ⟨o, t, ho, hoc, hoe⟩ := assemble_of_ok (r := r) (p := ⟨phrase, p, l, e, pw⟩) hw hv false _
  obtain ⟨hassembled, hnone, -⟩ := assemble_ok ho
  exact ⟨o, t, ho, hassembled, hnone, hoc, hoe⟩

/-- Whatever was generated, with the passphrase that was given or that the run was told when it asked,
is recovered from its words, typed in any form with the same decompositions and spaced in any way:
the seed and the wallets are the same. -/
theorem recover_generated (h : (generate c r n .fresh).start s = (.ok o, t)) :
    ∃ l count phrase p, Language.find? r.language = some l ∧
      Mnemonic.WordCount.ofInt? n = some count ∧ o.phrase = some phrase ∧
      o.seed = Mnemonic.seed phrase p ∧
      (∃ u, (passphrase r Collect.newPassphrase).start (phraseMade s n l count) = (.ok p, u)) ∧
      ∀ ws : List String, ws.map Text.nfkd = (Text.words phrase).map Text.nfkd →
        (∀ text : String, Text.Spaced ws text.toList → Text.words text = ws) ∧
        ∀ (c' : Configuration) (r' : Request) (s' : Session),
          Store.Config.seedExists s'.disk c'.file = .ok false →
          Language.find? r'.language = Language.find? r.language →
          r'.passphrase = some p → r'.dbPassword = some o.dbPassword →
          r'.consumingPath = r.consumingPath → r'.earning = r.earning →
          ∃ o' t', (recover c' r' (some ws)).start s' = (.ok o', t') ∧
            o'.seed = o.seed ∧ o'.language = o.language ∧ o'.consuming = o.consuming ∧
            o'.earning = o.earning ∧ o'.phrase = none := by
  obtain ⟨l, e, phrase, p, pw, s₁, s₂, s₃, -, hl, he, hphrase, hp, hpw, hassemble⟩ := generate_ok h
  obtain ⟨count, hcount, rfl, rfl⟩ := newPhrase_fresh_ok hphrase
  obtain ⟨hmade, hshown, -⟩ := assemble_ok hassemble
  have hsize := Session.length_upcoming
    (s.noted .debug Guard.source "No persisted mnemonic seed found") count.entropySize
  refine ⟨l, count, _, p, hl, hcount, hshown, hmade.seed_eq, ⟨_, hp⟩, fun ws hws => ?_⟩
  rw [Mnemonic.words_display, Mnemonic.map_nfkd_ofEntropy] at hws
  have hwords : ∀ w ∈ ws, Text.IsWord w := fun w hw =>
    Text.isWord_of_nfkd (Mnemonic.isWord_ofEntropy _ (hws ▸ List.mem_map_of_mem hw))
  refine ⟨fun text htext => Text.words_of_spaced htext hwords, ?_⟩
  intro c' r' s' hfree hlanguage hp' hpw' hpath hearning
  have hseed : Mnemonic.seed (Text.join " " ws) p = o.seed :=
    (Mnemonic.seed_join hws p).trans hmade.seed_eq.symm
  obtain ⟨o', t', hrun, hmade', hnone, hconsuming, hearned⟩ := recover_of_ok (c := c') (r := r')
    (w := o.consuming) (v := o.earning) hfree (hlanguage.trans hl) (hearning ▸ he)
    (Mnemonic.validate_of_nfkd hsize hws) hp' hpw'
    (by rw [hmade.dbPassword_eq]; exact dbPassword_ok hpw)
    (by rw [hseed, hpath]; exact hmade.consuming_eq) (by rw [hseed]; exact hmade.earning_eq)
  exact ⟨o', t', hrun, hmade'.seed_eq.trans hseed,
    hmade'.language_eq.trans hmade.language_eq.symm, hconsuming, hearned, hnone⟩

/-- A request for which nothing has to be asked. -/
def plainRequest (dbPassword : String) : Request where
  dbPassword := some dbPassword
  language := Language.english.identifier
  consumingPath := "m"
  earning := .wallet (.derived "m")
  passphrase := some ""
  owner := .null
  emitter := ⟨1⟩
  interactive := false

end Runs

open scoped Json.Nesting

theorem recover_generated_plain : ∃ o t phrase o' t',
    (generate ⟨⟨.here, [['w']]⟩⟩ (plainRequest "x") 12 .fresh).start (Session.bare []) = (.ok o, t) ∧
      (recover ⟨⟨.here, [['w']]⟩⟩ (plainRequest o.dbPassword)
        (some (Text.words phrase))).start (Session.bare []) = (.ok o', t') ∧
      o.phrase = some phrase ∧ o'.seed = o.seed := by
  have hfree : Store.Config.seedExists (Session.bare []).disk ⟨.here, [['w']]⟩ = .ok false := by
    rfl
  have hl : Language.find? (plainRequest "x").language = some .english := by
    simp [Language.find?, Language.all, Language.isNamed, plainRequest]
  have hpath : ∀ seed, ∃ w, Identity.derive seed "m" = .ok w :=
    fun seed => Identity.derive_of_path rfl (List.forall_mem_nil _) seed
  have hcount : Mnemonic.WordCount.ofInt? 12 = some .twelve := by decide
  obtain ⟨o, t, hrun⟩ := generate_of_ok (c := ⟨⟨.here, [['w']]⟩⟩) hfree hl rfl hcount rfl rfl
    (by decide) hpath hpath
  obtain ⟨_, _, phrase, p, -, -, hphrase, -, ⟨u, hp⟩, hrecover⟩ := recover_generated hrun
  rw [start_passphrase_of_some rfl] at hp
  obtain ⟨-, hall⟩ := hrecover _ rfl
  obtain ⟨o', t', hrun', hseed, -⟩ := hall ⟨⟨.here, [['w']]⟩⟩ (plainRequest o.dbPassword)
    (Session.bare []) hfree rfl (congrArg some (Except.ok.inj (Prod.mk.inj hp).1)) rfl rfl rfl
  exact ⟨o, t, phrase, o', t', hrun, hrun', hphrase, hseed⟩

end HdProvision.Provision.Flow
