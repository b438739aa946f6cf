import HdProvision.Proofs.Session.Effects
import HdProvision.Proofs.Wallet.Identity
import HdProvision.Provision.Flow

/-!
# Stages of provisioning

What each stage needs for its result and what it says. A flow succeeds when all of its stages do, and
then its outcome is put together from their results.
-/

set_option autoImplicit false

namespace HdProvision.Provision

open Mnemonic (Language)
open Wallet (EarningWallet Identity)

/-- The earning wallet that was chosen, or the text that names none. -/
def EarningChoice.chosen : EarningChoice → Except String EarningWallet
  | .wallet w => .ok w
  | .text s => EarningWallet.ofString s

namespace Guard

variable [Json.Nesting]

theorem start_check_of_false {c : Store.Configuration} {s : Session}
    (h : Store.Config.seedExists s.disk c.file = .ok false) :
    (check c).start s = (.ok (), s.noted .debug source "No persisted mnemonic seed found") := by
  have hasks : c.seedExists.start s = (.ok false, s) := by
    rw [← h]
    rfl
  rw [check, Program.start_handle, hasks]
  rfl

theorem start_check_of_true {c : Store.Configuration} {s : Session}
    (h : Store.Config.seedExists s.disk c.file = .ok true) :
    (check c).start s = (.error .seedExists, s.noted .warn source
      "Refusing to provision wallets: a mnemonic seed is already persisted") := by
  have hasks : c.seedExists.start s = (.ok true, s) := by
    rw [← h]
    rfl
  rw [check, Program.start_handle, hasks]
  rfl

/-- The fault of a guard that was given no answer. -/
def unanswered : Store.StoreError → GuardFault
  | .storage fault => .config (.storage .seed fault)
  | e => .store e

theorem start_check_of_error {c : Store.Configuration} {s : Session} {e : Store.StoreError}
    (h : Store.Config.seedExists s.disk c.file = .error e) :
    (check c).start s = (.error (unanswered e), s) := by
  have hasks : c.seedExists.start s = (.error e, s) := by
    rw [← h]
    rfl
  rw [check, Program.start_handle, hasks]
  cases e <;> rfl

/-- The guard lets pass only if there is no seed. -/
theorem seedExists_of_check {c : Store.Configuration} {s t : Session} {a : Unit}
    (h : (check c).start s = (.ok a, t)) :
    Store.Config.seedExists s.disk c.file = .ok false ∧
      t = s.noted .debug source "No persisted mnemonic seed found" := by
  cases hasks : Store.Config.seedExists s.disk c.file with
  | error e =>
    rw [start_check_of_error hasks] at h
    cases h
  | ok b =>
    cases b
    · rw [start_check_of_false hasks] at h
      cases h
      exact ⟨rfl, rfl⟩
    · rw [start_check_of_true hasks] at h
      cases h

end Guard

namespace Flow

theorem language_ok {name : String} {l : Language} {s t : Session} :
    (language name).start s = (.ok l, t) ↔ Language.find? name = some l ∧ t = s := by
  rw [language]
  cases Language.find? name with
  | none => simp
  | some m => simp [eq_comm]

theorem earningWallet_ok {x : EarningChoice} {e : EarningWallet} {s t : Session} :
    (earningWallet x).start s = (.ok e, t) ↔ x.chosen = .ok e ∧ t = s := by
  cases x with
  | wallet w => simp [earningWallet, EarningChoice.chosen, eq_comm]
  | text text =>
    rw [earningWallet, EarningChoice.chosen]
    cases EarningWallet.ofString text with
    | error text => simp
    | ok w => simp [eq_comm]

/-- What is said about a derived wallet. -/
def derivedNote (role : Role) (path : String) (w : Identity) : String :=
  "Derived " ++ role.name ++ " wallet " ++ w.address ++ " at " ++ path

/-- What is said about an earning wallet. -/
def earningNote : EarningWallet → Identity → String
  | .derived path, w => derivedNote .earning path w
  | .external _, w => "Using external earning wallet " ++ w.address

variable {seed : Bytes} {path : String} {role : Role} {w : Identity}

theorem start_derive_of_ok (h : Identity.derive seed path = .ok w) (role : Role) (s : Session) :
    (derive seed path role).start s =
      (.ok ⟨w, Identity.derive_isDerived h⟩, s.noted .info source (derivedNote role path w)) := by
  rw [derive, h]
  simp only [dif_pos (Identity.derive_isDerived h)]
  rfl

theorem start_derive_of_error {fault : Wallet.PathFault}
    (h : Identity.derive seed path = .error fault) (role : Role) (s : Session) :
    (derive seed path role).start s = (.error (.malformedPath role path), s) := by
  rw [derive, h]
  rfl

theorem derive_ok {d : DerivedWallet} {s t : Session}
    (h : (derive seed path role).start s = (.ok d, t)) :
    Identity.derive seed path = .ok d.identity ∧
      t = s.noted .info source (derivedNote role path d.identity) := by
  cases hd : Identity.derive seed path with
  | error fault =>
    rw [start_derive_of_error hd] at h
    cases h
  | ok w =>
    rw [start_derive_of_ok hd] at h
    cases h
    exact ⟨rfl, rfl⟩

theorem start_earning_of_ok {e : EarningWallet} (h : e.identity seed = .ok w) (s : Session) :
    (earning seed e).start s = (.ok w, s.noted .info source (earningNote e w)) := by
  cases e with
  | derived path =>
    rw [earning, Program.start_bind_of_ok (start_derive_of_ok h .earning s)]
    rfl
  | external e =>
    obtain rfl := Except.ok.inj h
    rfl

theorem earning_ok {e : EarningWallet} {s t : Session}
    (h : (earning seed e).start s = (.ok w, t)) :
    e.identity seed = .ok w ∧ t = s.noted .info source (earningNote e w) := by
  cases e with
  | derived path =>
    obtain ⟨d, u, hd, hpure⟩ := Program.start_bind_ok.mp h
    obtain ⟨hok, rfl⟩ := derive_ok hd
    cases hpure
    exact ⟨hok, rfl⟩
  | external e =>
    cases h
    exact ⟨rfl, rfl⟩

/-- An outcome as its parts make it. -/
structure Assembled (r : Request) (p : Parts) (o : Outcome) : Prop where
  seed_eq : o.seed = Mnemonic.seed p.phrase p.passphrase
  language_eq : o.language = p.language.identifier
  consuming_eq : Identity.derive o.seed r.consumingPath = .ok o.consuming
  earning_eq : p.earning.identity o.seed = .ok o.earning
  dbPassword_eq : o.dbPassword = p.dbPassword
  owner_eq : o.owner = r.owner

/-- The session after the wallets of an outcome were derived. -/
def noteWallets (s : Session) (r : Request) (p : Parts) (o : Outcome) : Session :=
  (s.noted .info source (derivedNote .consuming r.consumingPath o.consuming)).noted .info source
    (earningNote p.earning o.earning)

theorem assemble_ok {r : Request} {p : Parts} {showPhrase : Bool} {o : Outcome} {s t : Session}
    (h : (assemble r p showPhrase).start s = (.ok o, t)) :
    Assembled r p o ∧ o.phrase = (if showPhrase then some p.phrase else none) ∧
      t = noteWallets s r p o := by
  obtain ⟨d, s₁, hconsuming, h⟩ := Program.start_bind_ok.mp h
  obtain ⟨e, s₂, hearning, h⟩ := Program.start_bind_ok.mp h
  obtain ⟨hd, rfl⟩ := derive_ok hconsuming
  obtain ⟨he, rfl⟩ := earning_ok hearning
  rw [Program.start_pure, Prod.mk.injEq, Except.ok.injEq] at h
  obtain ⟨rfl, rfl⟩ := h
  -- Projections first: unification would rather unfold the stretching of the seed.
  refine ⟨⟨?_, rfl, ?_, ?_, rfl, rfl⟩, rfl, rfl⟩ <;> dsimp only
  · exact hd
  · exact he

/-- Wallets that can be derived are put together, in whatever session. -/
theorem assemble_of_ok {r : Request} {p : Parts} {e : Identity}
    (hconsuming : Identity.derive (Mnemonic.seed p.phrase p.passphrase) r.consumingPath = .ok w)
    (hearning : p.earning.identity (Mnemonic.seed p.phrase p.passphrase) = .ok e)
    (showPhrase : Bool) (s : Session) :
    ∃ o t, (assemble r p showPhrase).start s = (.ok o, t) ∧ o.consuming = w ∧ o.earning = e := by
  rw [assemble, Program.start_bind_of_ok (start_derive_of_ok hconsuming .consuming s),
    Program.start_bind_of_ok (start_earning_of_ok hearning _)]
  exact ⟨_, _, rfl, rfl, rfl⟩

/-- The phrase of a fresh set of wallets spells random octets. -/
theorem newPhrase_fresh_ok {n : Int} {l : Language} {phrase : String} {s t : Session}
    (h : (newPhrase .fresh n l).start s = (.ok phrase, t)) :
    ∃ count, Mnemonic.WordCount.ofInt? n = some count ∧
      phrase = Mnemonic.display l (Mnemonic.ofEntropy l (s.upcoming count.entropySize)) ∧
      t = s.withDrawn count.entropySize := by
  rw [newPhrase] at h
  cases hcount : Mnemonic.WordCount.ofInt? n with
  | none =>
    rw [hcount] at h
    cases h
  | some count =>
    rw [hcount] at h
    cases h
    exact ⟨count, rfl, rfl, rfl⟩

theorem start_passphrase_of_some {r : Request} {p : String} (h : r.passphrase = some p)
    (request : Collect.PassphraseRequest) (s : Session) :
    (passphrase r request).start s = (.ok p, s.noted .debug source
      "Using the mnemonic passphrase supplied on the command line or environment") := by
  rw [passphrase, h]
  rfl

theorem start_dbPassword_of_some {r : Request} {p : String} (h : r.dbPassword = some p)
    (hb : isBlankPassword p = false) (s : Session) :
    (dbPassword r).start s = (.ok p, s) := by
  rw [dbPassword, h]
  simp [hb]

theorem dbPassword_ok {r : Request} {p : String} {s t : Session}
    (h : (dbPassword r).start s = (.ok p, t)) : isBlankPassword p = false := by
  have htaken : ∀ (q : String) (u : Session),
      (if isBlankPassword q then throw (.config .blankPassword) else pure q :
        Program Error String).start u = (.ok p, t) → isBlankPassword p = false := by
    intro q u hq
    cases hb : isBlankPassword q
    · rw [hb] at hq
      cases hq
      exact hb
    · rw [hb] at hq
      cases hq
  rw [dbPassword] at h
  cases hp : r.dbPassword with
  | some q =>
    simp only [hp, pure_bind] at h
    exact htaken q s h
  | none =>
    rw [hp] at h
    obtain ⟨-, u, -, h⟩ := Program.start_bind_ok.mp h
    obtain ⟨q, v, -, h⟩ := Program.start_bind_ok.mp h
    exact htaken q v h

end Flow
end HdProvision.Provision
