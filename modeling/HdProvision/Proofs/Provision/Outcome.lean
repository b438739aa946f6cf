import HdProvision.Proofs.Provision.Collecting
import HdProvision.Proofs.Provision.Recovery
import HdProvision.Proofs.Provision.Surroundings

/-!
# What an outcome is made of

The seed of an outcome comes from its phrase and the passphrase that was used, its wallets from its
seed. The secrets that were used were given, or else they were typed.
-/

set_option autoImplicit false

namespace HdProvision.Provision

open Console (Typed)
open Mnemonic (Language)
open Store (Configuration)
open Wallet (EarningWallet Identity)

/-- A secret as it was given, or a line that was typed if none was given. -/
def Supplied (given : Option String) (input : List String) (p : String) : Prop :=
  match given with
  | some q => p = q
  | none => Typed input p

theorem Supplied.of_suffix {given : Option String} {input input' : List String} {p : String}
    (h : Supplied given input p) (hs : input <:+ input') : Supplied given input' p := by
  cases given with
  | some q => exact h
  | none => exact Typed.of_suffix h hs

/-- The database password that is given to a request, by itself or by a variable. -/
def Request.givenPassword (r : Request) (s : Session) : Option String :=
  r.dbPassword.or (s.environment.lookup Collect.dbPasswordVariable)

/-- An outcome as its parts make it, with secrets that were given or typed in the session. -/
structure Made (r : Request) (s : Session) (p : Flow.Parts) (o : Outcome) : Prop
    extends Flow.Assembled r p o where
  passphrase : Supplied r.passphrase s.input p.passphrase
  dbPassword : Supplied (r.givenPassword s) s.input p.dbPassword

variable {c : Configuration} {r : Request} {s t u : Session} {o : Outcome} {n : Int}

/-- Lines that were left in the end were there in the beginning. -/
theorem Made.of_same {p : Flow.Parts} (h : Made r t p o) (hsame : s.SameSurroundings t) :
    Made r s p o := by
  refine ⟨h.toAssembled, h.passphrase.of_suffix hsame.input, ?_⟩
  have hpassword := h.dbPassword.of_suffix hsame.input
  rw [Request.givenPassword, hsame.environment] at hpassword
  exact hpassword

namespace Flow

theorem supplied_passphrase {request : Collect.PassphraseRequest} {p : String}
    (h : (passphrase r request).start s = (.ok p, t)) : Supplied r.passphrase s.input p := by
  cases hp : r.passphrase with
  | some q =>
    rw [start_passphrase_of_some hp] at h
    cases h
    rfl
  | none =>
    rw [passphrase, hp] at h
    obtain ⟨_, u, hrequire, h⟩ := Program.start_bind_ok.mp h
    have hinput := (leaves_require r.interactive .passphrase s).input
    rw [hrequire] at hinput
    exact (Collect.typed_of_passphrase h).of_suffix hinput

theorem supplied_dbPassword {p : String} (h : (dbPassword r).start s = (.ok p, t)) :
    Supplied (r.givenPassword s) s.input p := by
  have htaken : ∀ {q : String} {u : Session},
      (if isBlankPassword q then throw (.config .blankPassword) else pure q :
        Program Error String).start u = (.ok p, t) → q = p := by
    intro q u hq
    split at hq
    · cases hq
    · cases hq
      rfl
  rw [dbPassword] at h
  rw [Request.givenPassword]
  cases hp : r.dbPassword with
  | some q =>
    simp only [hp, pure_bind] at h
    exact (htaken h).symm
  | none =>
    rw [hp] at h
    obtain ⟨_, u, hrequire, h⟩ := Program.start_bind_ok.mp h
    obtain ⟨q, v, hasked, h⟩ := Program.start_bind_ok.mp h
    obtain rfl := htaken h
    have hsame := leaves_require r.interactive .dbPassword s
    rw [hrequire] at hsame
    rw [Option.none_or]
    cases hvariable : s.environment.lookup Collect.dbPasswordVariable with
    | some p =>
      rw [Collect.start_dbPassword_of_some (hsame.environment ▸ hvariable)] at hasked
      cases hasked
      rfl
    | none =>
      exact (Collect.typed_of_dbPassword (hsame.environment ▸ hvariable) hasked).of_suffix
        hsame.input

/-- What both ways of provisioning end with. -/
theorem made_of_stages {request : Collect.PassphraseRequest} {phrase p pw : String} {l : Language}
    {e : EarningWallet} {showPhrase : Bool} {v w : Session}
    (hp : (passphrase r request).start s = (.ok p, v)) (hpw : (dbPassword r).start v = (.ok pw, w))
    (hassemble : (assemble r ⟨phrase, p, l, e, pw⟩ showPhrase).start w = (.ok o, t)) :
    Made r s ⟨phrase, p, l, e, pw⟩ o ∧ o.phrase = if showPhrase then some phrase else none := by
  obtain ⟨hassembled, hphrase, -⟩ := assemble_ok hassemble
  have hsame := leaves_passphrase r request s
  rw [hp] at hsame
  have hpassword := (supplied_dbPassword hpw).of_suffix hsame.input
  rw [Request.givenPassword, hsame.environment] at hpassword
  exact ⟨⟨hassembled, supplied_passphrase hp, hpassword⟩, hphrase⟩

variable [Json.Nesting]

theorem made_of_generate {origin : PhraseSource}
    (h : (generate c r n origin).start s = (.ok o, t)) :
    ∃ p, Made r s p o ∧ o.phrase = some p.phrase := by
  obtain ⟨l, e, phrase, p, pw, s₁, s₂, s₃, -, -, -, hphrase, hp, hpw, hassemble⟩ := generate_ok h
  obtain ⟨hmade, hshown⟩ := made_of_stages hp hpw hassemble
  have hsame := leaves_newPhrase origin n l
    (s.noted .debug Guard.source "No persisted mnemonic seed found")
  rw [hphrase] at hsame
  exact ⟨_, hmade.of_same (((Session.SameSurroundings.noted s _ _ _).trans hsame).trans
    (.noted s₁ _ _ _)), hshown⟩

/-- The phrase of a fresh set of wallets is made of words of a list. -/
theorem phrase_of_generate (h : (generate c r n .fresh).start s = (.ok o, t)) :
    ∃ l entropy, o.phrase = some (Mnemonic.display l (Mnemonic.ofEntropy l entropy)) := by
  obtain ⟨l, e, phrase, p, pw, s₁, s₂, s₃, -, -, -, hphrase, -, -, hassemble⟩ := generate_ok h
  obtain ⟨count, -, rfl, -⟩ := newPhrase_fresh_ok hphrase
  obtain ⟨-, hshown, -⟩ := assemble_ok hassemble
  exact ⟨l, _, hshown⟩

/-- The stages of a recovery that succeeds. -/
theorem recover_ok {words : Option (List String)} (h : (recover c r words).start s = (.ok o, t)) :
    ∃ l e ws phrase p pw s₁ s₂ s₃,
      Store.Config.seedExists s.disk c.file = .ok false ∧
      Language.find? r.language = some l ∧ r.earning.chosen = .ok e ∧
      (knownWords r words).start
        (s.noted .debug Guard.source "No persisted mnemonic seed found") = (.ok ws, s₁) ∧
      Mnemonic.validate l ws = .ok phrase ∧
      (passphrase r Collect.knownPassphrase).start s₁ = (.ok p, s₂) ∧
      (dbPassword r).start s₂ = (.ok pw, s₃) ∧
      (assemble r ⟨phrase, p, l, e, pw⟩ false).start s₃ = (.ok o, t) := by
  obtain ⟨_, s₀, hguard, h⟩ := Program.start_bind_ok.mp h
  obtain ⟨l, s₁, hl, h⟩ := Program.start_bind_ok.mp h
  obtain ⟨e, s₂, he, h⟩ := Program.start_bind_ok.mp h
  obtain ⟨ws, s₃, hwords, h⟩ := Program.start_bind_ok.mp h
  obtain ⟨phrase, s₄, hphrase, h⟩ := Program.start_bind_ok.mp h
  obtain ⟨p, s₅, hp, h⟩ := Program.start_bind_ok.mp h
  obtain ⟨pw, s₆, hpw, hassemble⟩ := Program.start_bind_ok.mp h
  obtain ⟨hfree, rfl⟩ := Guard.seedExists_of_check (Program.start_mapError_ok.mp hguard)
  obtain ⟨hfind, rfl⟩ := language_ok.mp hl
  obtain ⟨hchosen, rfl⟩ := earningWallet_ok.mp he
  rw [knownPhrase] at hphrase
  cases hvalid : Mnemonic.validate l ws with
  | error rejection =>
    rw [hvalid] at hphrase
    cases hphrase
  | ok accepted =>
    rw [hvalid] at hphrase
    cases hphrase
    exact ⟨l, e, ws, phrase, p, pw, s₃, s₅, s₆, hfree, hfind, hchosen, hwords, hvalid, hp,
      hpw, hassemble⟩

theorem made_of_recover {words : Option (List String)}
    (h : (recover c r words).start s = (.ok o, t)) :
    ∃ p, Made r s p o ∧ o.phrase = none := by
  obtain ⟨l, e, ws, phrase, p, pw, s₁, s₂, s₃, -, -, -, hwords, -, hp, hpw, hassemble⟩ :=
    recover_ok h
  obtain ⟨hmade, hshown⟩ := made_of_stages hp hpw hassemble
  have hsame := leaves_knownWords r words
    (s.noted .debug Guard.source "No persisted mnemonic seed found")
  rw [hwords] at hsame
  exact ⟨_, hmade.of_same ((Session.SameSurroundings.noted s _ _ _).trans hsame), hshown⟩

end Flow
end HdProvision.Provision
