import HdProvision.Proofs.Provision.Collecting
import HdProvision.Proofs.Provision.Recovery
import HdProvision.Proofs.Provision.Surroundings

/-!
# Strict staging

Both ways of provisioning as one machine. Its positions are the stages with what is known there, and
a step is one stage: it goes on to the next position, or it fails. A run follows the steps up to the
first that fails, and ends in the session which that step leaves.
-/

set_option autoImplicit false

namespace HdProvision.Provision

open Provision.Flow (DerivedWallet Parts)
open Mnemonic (Language)
open Store (Configuration)
open Wallet (EarningWallet Identity)

/-- A way of provisioning, with what is given for it only. -/
inductive Way
  | generate (wordCount : Int) (origin : PhraseSource)
  | recover (words : Option (List String))

/-- How far provisioning got, and what is known there. -/
inductive Position
  | guard
  | language
  | earning (l : Language)
  | phrase (l : Language) (e : EarningWallet)
  | passphrase (l : Language) (e : EarningWallet) (phrase : String)
  | dbPassword (l : Language) (e : EarningWallet) (phrase passphrase : String)
  | consumingPath (p : Parts)
  | earningPath (p : Parts) (consuming : DerivedWallet)
  | finished (o : Outcome)

/-- What comes of a step: the next position or an error, and the session after it. -/
abbrev Step := Except Error Position × Session

namespace Way

/-- Provisions. -/
def provision [Json.Nesting] (c : Configuration) (r : Request) : Way → Program Error Outcome
  | generate wordCount origin => Flow.generate c r wordCount origin
  | recover words => Flow.recover c r words

/-- The error for a seed that is recorded already. -/
def existing : Way → Error
  | generate _ _ => .seedCollision
  | recover _ => .alreadyProvisioned

/-- How the passphrase is asked for. -/
def passphraseRequest : Way → Collect.PassphraseRequest
  | generate _ _ => Collect.newPassphrase
  | recover _ => Collect.knownPassphrase

/-- Whether the phrase is new. A new phrase is part of the outcome. -/
def makesPhrase : Way → Bool
  | generate _ _ => true
  | recover _ => false

/-- What is said about a new phrase. -/
def generatedNote (wordCount : Int) (l : Language) : String :=
  "Generated a " ++ Text.Integer.text wordCount ++ " word " ++ l.identifier ++ " mnemonic phrase"

/-- What is said about words that are no phrase. -/
def rejectedNote (l : Language) (reason : Mnemonic.Reason) : String :=
  "Rejected " ++ l.identifier ++ " mnemonic phrase: " ++ reason.text

/-- The phrase of the way. -/
def phrase (r : Request) (l : Language) : Way → Program Error String
  | generate wordCount origin => do
    let phrase ← Flow.newPhrase origin wordCount l
    Session.note .info Flow.source (generatedNote wordCount l)
    return phrase
  | recover words => do
    let words ← Flow.knownWords r words
    Flow.knownPhrase l words

end Way

namespace Step

/-- The guard lets pass only if there is no seed. -/
def guard [Json.Nesting] (existing : Error) (c : Configuration) (s : Session) : Step :=
  match Store.Config.seedExists s.disk c.file with
  | .ok false =>
    (.ok .language, s.noted .debug Guard.source "No persisted mnemonic seed found")
  | .ok true => (.error existing, s.noted .warn Guard.source
      "Refusing to provision wallets: a mnemonic seed is already persisted")
  | .error e => (.error ((Guard.unanswered e).toError existing), s)

/-- The language has to be known. Nothing happens. -/
def language (r : Request) (s : Session) : Step :=
  (Language.find? r.language).elim (.error (.config (.unknownLanguage r.language)), s)
    fun l => (.ok (.earning l), s)

/-- The earning wallet has to be understood. Nothing happens. -/
def earning (r : Request) (l : Language) (s : Session) : Step :=
  match r.earning.chosen with
  | .ok e => (.ok (.phrase l e), s)
  | .error text => (.error (.earningAddressRejected text), s)

/-- A new phrase takes random octets. -/
def newPhrase (wordCount : Int) (l : Language) (e : EarningWallet) (s : Session) :
    PhraseSource → Step
  | .prepared phrase => (.ok (.passphrase l e phrase),
      { s with phraseRequests := s.phraseRequests ++ [(wordCount, l)] }.noted .info Flow.source
        (Way.generatedNote wordCount l))
  | .fresh =>
    match Mnemonic.WordCount.ofInt? wordCount with
    | some count =>
      (.ok (.passphrase l e
          (Mnemonic.display l (Mnemonic.ofEntropy l (s.upcoming count.entropySize)))),
        (s.withDrawn count.entropySize).noted .info Flow.source (Way.generatedNote wordCount l))
    | none => (.error (.wordCount wordCount), s)

/-- Words have to be a phrase. -/
def words (l : Language) (e : EarningWallet) (words : List String) (s : Session) : Step :=
  match Mnemonic.validate l words with
  | .ok phrase => (.ok (.passphrase l e phrase), s)
  | .error rejection => (.error (.mnemonicRejected rejection),
      s.noted .warn Flow.source (Way.rejectedNote l rejection.reason))

/-- What is missing is asked for if that is possible. -/
def asking {α : Type} (interactive : Bool) (p : Parameter) (asks : Program Error α) (s : Session)
    (next : α → Session → Step) : Step :=
  if interactive then
    match asks.start s with
    | (.ok a, t) => next a t
    | (.error e, t) => (.error e, t)
  else (.error (.config (.notSupplied p)), s)

/-- Words that are not given are asked for. -/
def knownPhrase (r : Request) (l : Language) (e : EarningWallet) (s : Session) :
    Option (List String) → Step
  | some given => words l e given s
  | none => asking r.interactive .mnemonic (Collect.words r.emitter) s (words l e)

/-- A passphrase that is not given is asked for. -/
def passphrase (r : Request) (request : Collect.PassphraseRequest) (l : Language)
    (e : EarningWallet) (phrase : String) (s : Session) : Step :=
  match r.passphrase with
  | some p => (.ok (.dbPassword l e phrase p), s.noted .debug Flow.source
      "Using the mnemonic passphrase supplied on the command line or environment")
  | none => asking r.interactive .passphrase
      (Collect.passphrase r.emitter request Collect.maxAttempts) s
      fun p t => (.ok (.dbPassword l e phrase p), t)

/-- A password must not be blank. -/
def password (l : Language) (e : EarningWallet) (phrase passphrase p : String) (s : Session) :
    Step :=
  (if Flow.isBlankPassword p then .error (.config .blankPassword)
    else .ok (.consumingPath ⟨phrase, passphrase, l, e, p⟩), s)

/-- A password that is not given is asked for. -/
def dbPassword (r : Request) (l : Language) (e : EarningWallet) (phrase passphrase : String)
    (s : Session) : Step :=
  match r.dbPassword with
  | some p => password l e phrase passphrase p s
  | none => asking r.interactive .dbPassword
      (Collect.dbPassword r.emitter true (some Collect.dbPasswordVariable)) s
      (password l e phrase passphrase)

/-- The consuming path has to lead to a wallet. -/
def consumingPath (r : Request) (p : Parts) (s : Session) : Step :=
  match h : Identity.derive (Mnemonic.seed p.phrase p.passphrase) r.consumingPath with
  | .ok w => (.ok (.earningPath p ⟨w, Identity.derive_isDerived h⟩),
      s.noted .info Flow.source (Flow.derivedNote .consuming r.consumingPath w))
  | .error _ => (.error (.malformedPath .consuming r.consumingPath), s)

/-- The outcome of parts, the wallet at the consuming path and the earning wallet. -/
def outcome (r : Request) (showPhrase : Bool) (p : Parts) (consuming : DerivedWallet)
    (earning : Identity) : Outcome where
  seed := Mnemonic.seed p.phrase p.passphrase
  language := p.language.identifier
  consuming := consuming.identity
  earning := earning
  dbPassword := p.dbPassword
  owner := r.owner
  phrase := if showPhrase then some p.phrase else none
  consuming_isDerived := consuming.isDerived

/-- The earning path has to lead to a wallet, if there is one. -/
def earningPath (r : Request) (showPhrase : Bool) (p : Parts) (consuming : DerivedWallet)
    (s : Session) : Step :=
  match p.earning with
  | .derived path =>
    match Identity.derive (Mnemonic.seed p.phrase p.passphrase) path with
    | .ok w => (.ok (.finished (outcome r showPhrase p consuming w)),
        s.noted .info Flow.source (Flow.earningNote (.derived path) w))
    | .error _ => (.error (.malformedPath .earning path), s)
  | .external e => (.ok (.finished (outcome r showPhrase p consuming e.wallet)),
      s.noted .info Flow.source (Flow.earningNote (.external e) e.wallet))

end Step

/-- What comes of the stage at a position. -/
def Way.step [Json.Nesting] (w : Way) (c : Configuration) (r : Request) : Position → Session → Step
  | .guard, s => Step.guard w.existing c s
  | .language, s => Step.language r s
  | .earning l, s => Step.earning r l s
  | .phrase l e, s =>
    match w with
    | .generate wordCount origin => Step.newPhrase wordCount l e s origin
    | .recover words => Step.knownPhrase r l e s words
  | .passphrase l e phrase, s => Step.passphrase r w.passphraseRequest l e phrase s
  | .dbPassword l e phrase passphrase, s => Step.dbPassword r l e phrase passphrase s
  | .consumingPath p, s => Step.consumingPath r p s
  | .earningPath p consuming, s => Step.earningPath r w.makesPhrase p consuming s
  | .finished o, s => (.ok (.finished o), s)

/-- The last stages. -/
def Way.settle (w : Way) (r : Request) (l : Language) (e : EarningWallet) (phrase : String) :
    Program Error Outcome := do
  let passphrase ← Flow.passphrase r w.passphraseRequest
  let dbPassword ← Flow.dbPassword r
  Flow.assemble r ⟨phrase, passphrase, l, e, dbPassword⟩ w.makesPhrase

/-- What is left to do at a position. -/
def Way.rest [Json.Nesting] (w : Way) (c : Configuration) (r : Request) : Position → Program Error Outcome
  | .guard => w.provision c r
  | .language => do
    let l ← Flow.language r.language
    let e ← Flow.earningWallet r.earning
    let phrase ← w.phrase r l
    w.settle r l e phrase
  | .earning l => do
    let e ← Flow.earningWallet r.earning
    let phrase ← w.phrase r l
    w.settle r l e phrase
  | .phrase l e => do
    let phrase ← w.phrase r l
    w.settle r l e phrase
  | .passphrase l e phrase => w.settle r l e phrase
  | .dbPassword l e phrase passphrase => do
    let dbPassword ← Flow.dbPassword r
    Flow.assemble r ⟨phrase, passphrase, l, e, dbPassword⟩ w.makesPhrase
  | .consumingPath p => Flow.assemble r p w.makesPhrase
  | .earningPath p consuming => do
    let e ← Flow.earning (Mnemonic.seed p.phrase p.passphrase) p.earning
    return Step.outcome r w.makesPhrase p consuming e
  | .finished o => pure o

/-- What comes of the rest when a step was made. -/
def Way.onward [Json.Nesting] (w : Way) (c : Configuration) (r : Request) : Step → Except Error Outcome × Session
  | (.ok p, t) => (w.rest c r p).start t
  | (.error e, t) => (.error e, t)

/-- The step that a run is, when its result leads to the next position. -/
def Step.through {α : Type} (next : α → Position) : Except Error α × Session → Step
  | (.ok a, t) => (.ok (next a), t)
  | (.error e, t) => (.error e, t)

variable {α : Type} {w : Way} {c : Configuration} {r : Request} {s t : Session}

theorem Way.onward_through [Json.Nesting] (q : Program Error α) {f : α → Program Error Outcome}
    {next : α → Position} (hrest : ∀ a, w.rest c r (next a) = f a) (s : Session) :
    w.onward c r (Step.through next (q.start s)) = (q >>= f).start s := by
  rw [Program.start_bind]
  rcases q.start s with ⟨e | a, t⟩
  · rfl
  · exact congrArg (fun p => p.start t) (hrest a)

namespace Step

theorem guard_eq [Json.Nesting] (existing : Error) (c : Configuration) (s : Session) :
    guard existing c s = through (fun _ => .language)
      (((Guard.check c).mapError (GuardFault.toError existing)).start s) := by
  rw [Program.start_mapError, guard]
  cases hseed : Store.Config.seedExists s.disk c.file with
  | error e =>
    rw [Guard.start_check_of_error hseed]
    rfl
  | ok there =>
    cases there with
    | true =>
      rw [Guard.start_check_of_true hseed]
      rfl
    | false =>
      rw [Guard.start_check_of_false hseed]
      rfl

theorem elim_eq (found : Option Language) (e : Error) (s : Session) :
    found.elim (.error e, s) (fun l => (.ok (.earning l), s)) =
      through .earning ((found.elim (throw e) pure : Program Error Language).start s) := by
  cases found <;> rfl

theorem language_eq (r : Request) (s : Session) :
    language r s = through .earning ((Flow.language r.language).start s) :=
  elim_eq _ _ s

theorem earning_eq (r : Request) (l : Language) (s : Session) :
    earning r l s = through (.phrase l) ((Flow.earningWallet r.earning).start s) := by
  rw [earning]
  cases r.earning with
  | wallet e => rfl
  | text text =>
    rw [Flow.earningWallet, EarningChoice.chosen]
    cases EarningWallet.ofString text <;> rfl

theorem start_phrase_of_ok {wordCount : Int} {origin : PhraseSource} {l : Language}
    {phrase : String} (h : (Flow.newPhrase origin wordCount l).start s = (.ok phrase, t)) :
    ((Way.generate wordCount origin).phrase r l).start s =
      (.ok phrase, t.noted .info Flow.source (Way.generatedNote wordCount l)) := by
  rw [Way.phrase, Program.start_bind_of_ok h,
    Program.start_bind_of_ok (Session.start_note _ _ _ t), Program.start_pure]

theorem newPhrase_eq (wordCount : Int) (origin : PhraseSource) (r : Request) (l : Language)
    (e : EarningWallet) (s : Session) : newPhrase wordCount l e s origin =
      through (.passphrase l e) (((Way.generate wordCount origin).phrase r l).start s) := by
  cases origin with
  | prepared phrase =>
    have hstart : (Flow.newPhrase (.prepared phrase) wordCount l).start s =
        (.ok phrase, { s with phraseRequests := s.phraseRequests ++ [(wordCount, l)] }) := rfl
    rw [newPhrase, start_phrase_of_ok hstart, through]
  | fresh =>
    rw [newPhrase]
    cases hcount : Mnemonic.WordCount.ofInt? wordCount with
    | none =>
      have hstart : (Flow.newPhrase .fresh wordCount l).start s =
          (.error (.wordCount wordCount), s) := by
        rw [Flow.newPhrase, hcount]
        rfl
      rw [Way.phrase, Program.start_bind_of_error hstart, through]
    | some count =>
      have hstart : (Flow.newPhrase .fresh wordCount l).start s =
          (.ok (Mnemonic.display l (Mnemonic.ofEntropy l (s.upcoming count.entropySize))),
            s.withDrawn count.entropySize) := by
        rw [Flow.newPhrase, hcount]
        rfl
      rw [start_phrase_of_ok hstart, through]

theorem words_eq (l : Language) (e : EarningWallet) (given : List String) (s : Session) :
    words l e given s = through (.passphrase l e) ((Flow.knownPhrase l given).start s) := by
  rw [words, Flow.knownPhrase]
  cases Mnemonic.validate l given <;> rfl

/-- Asking is what the stage does that has to ask. -/
theorem asking_eq {β : Type} (interactive : Bool) (p : Parameter) (asks : Program Error α)
    (f : α → Program Error β) (next : β → Position) (s : Session) :
    asking interactive p asks s (fun a t => through next ((f a).start t)) =
      through next ((do
        Flow.require interactive p
        let a ← asks
        f a).start s) := by
  cases interactive with
  | false => rfl
  | true =>
    rw [asking, if_pos rfl]
    change _ = through next ((asks >>= f).start s)
    rw [Program.start_bind]
    rcases asks.start s with ⟨e | a, t⟩ <;> rfl

theorem knownPhrase_eq (given : Option (List String)) (r : Request) (l : Language)
    (e : EarningWallet) (s : Session) : knownPhrase r l e s given =
      through (.passphrase l e) (((Way.recover given).phrase r l).start s) := by
  cases given with
  | some given => exact words_eq l e given s
  | none =>
    have hwords : words l e = fun given t =>
        through (.passphrase l e) ((Flow.knownPhrase l given).start t) := by
      funext given t
      exact words_eq l e given t
    rw [knownPhrase, hwords, asking_eq, Way.phrase, Flow.knownWords, bind_assoc]

theorem passphrase_eq (r : Request) (request : Collect.PassphraseRequest) (l : Language)
    (e : EarningWallet) (phrase : String) (s : Session) : passphrase r request l e phrase s =
      through (.dbPassword l e phrase) ((Flow.passphrase r request).start s) := by
  rw [passphrase, Flow.passphrase]
  cases r.passphrase with
  | some p => rfl
  | none =>
    have hasks := asking_eq r.interactive .passphrase
      (Collect.passphrase r.emitter request Collect.maxAttempts) pure (.dbPassword l e phrase) s
    rw [bind_pure] at hasks
    exact hasks

theorem password_eq (l : Language) (e : EarningWallet) (phrase passphrase p : String)
    (s : Session) : password l e phrase passphrase p s =
      through (fun q => .consumingPath ⟨phrase, passphrase, l, e, q⟩)
        ((do
          if Flow.isBlankPassword p then throw (.config .blankPassword)
          return p : Program Error String).start s) := by
  rw [password]
  cases Flow.isBlankPassword p <;> rfl

theorem dbPassword_eq (r : Request) (l : Language) (e : EarningWallet)
    (phrase passphrase : String) (s : Session) : dbPassword r l e phrase passphrase s =
      through (fun p => .consumingPath ⟨phrase, passphrase, l, e, p⟩)
        ((Flow.dbPassword r).start s) := by
  have hpassword : password l e phrase passphrase = fun p t =>
      through (fun q => .consumingPath ⟨phrase, passphrase, l, e, q⟩)
        ((do
          if Flow.isBlankPassword p then throw (.config .blankPassword)
          return p : Program Error String).start t) := by
    funext p t
    exact password_eq l e phrase passphrase p t
  rw [dbPassword, Flow.dbPassword, hpassword]
  cases r.dbPassword with
  | some p => simp only [pure_bind]
  | none =>
    exact asking_eq r.interactive .dbPassword _ _ _ s

theorem consumingPath_eq (r : Request) (p : Parts) (s : Session) : consumingPath r p s =
    through (.earningPath p) ((Flow.derive (Mnemonic.seed p.phrase p.passphrase) r.consumingPath
      .consuming).start s) := by
  rw [consumingPath]
  split
  · next w h => rw [Flow.start_derive_of_ok h]; rfl
  · next fault h => rw [Flow.start_derive_of_error h]; rfl

theorem earningPath_eq (r : Request) (showPhrase : Bool) (p : Parts)
    (consuming : DerivedWallet) (s : Session) : earningPath r showPhrase p consuming s =
      through (fun e => .finished (outcome r showPhrase p consuming e))
        ((Flow.earning (Mnemonic.seed p.phrase p.passphrase) p.earning).start s) := by
  rw [earningPath]
  cases p.earning with
  | external e => rfl
  | derived path =>
    dsimp only
    cases h : Identity.derive (Mnemonic.seed p.phrase p.passphrase) path with
    | ok w =>
      have hidentity : (EarningWallet.derived path).identity
          (Mnemonic.seed p.phrase p.passphrase) = .ok w := h
      rw [Flow.start_earning_of_ok hidentity, through]
    | error fault =>
      rw [Flow.earning, Program.start_bind_of_error (Flow.start_derive_of_error h .earning s),
        through]

end Step

theorem Way.provision_eq [Json.Nesting] (w : Way) (c : Configuration) (r : Request) :
    w.provision c r = (do
      (Guard.check c).mapError (GuardFault.toError w.existing)
      w.rest c r .language) := by
  cases w with
  | generate wordCount origin =>
    simp only [rest, phrase, bind_assoc, pure_bind]
    rfl
  | recover words =>
    simp only [rest, phrase, bind_assoc]
    rfl

theorem assemble_eq (r : Request) (p : Parts) (showPhrase : Bool) :
    Flow.assemble r p showPhrase = (do
      let consuming ← Flow.derive (Mnemonic.seed p.phrase p.passphrase) r.consumingPath .consuming
      let e ← Flow.earning (Mnemonic.seed p.phrase p.passphrase) p.earning
      return Step.outcome r showPhrase p consuming e) := rfl

/-- A run goes one step, and then it goes on or has ended. -/
theorem Way.start_rest [Json.Nesting] (w : Way) (c : Configuration) (r : Request) (p : Position) (s : Session) :
    (w.rest c r p).start s = w.onward c r (w.step c r p s) := by
  cases p with
  | guard =>
    rw [step, Step.guard_eq, onward_through _ (fun _ => rfl), rest, provision_eq]
  | language =>
    rw [step, Step.language_eq, onward_through _ (fun _ => rfl)]
    rfl
  | earning l =>
    rw [step, Step.earning_eq, onward_through _ (fun _ => rfl)]
    rfl
  | phrase l e =>
    cases w with
    | generate wordCount origin =>
      rw [step, Step.newPhrase_eq wordCount origin r, onward_through _ (fun _ => rfl)]
      rfl
    | recover words =>
      rw [step, Step.knownPhrase_eq, onward_through _ (fun _ => rfl)]
      rfl
  | passphrase l e phrase =>
    rw [step, Step.passphrase_eq, onward_through _ (fun _ => rfl)]
    rfl
  | dbPassword l e phrase passphrase =>
    rw [step, Step.dbPassword_eq, onward_through _ (fun _ => rfl)]
    rfl
  | consumingPath p =>
    rw [step, Step.consumingPath_eq, onward_through _ (fun _ => by rw [rest]), rest, assemble_eq]
  | earningPath p consuming =>
    rw [step, Step.earningPath_eq, onward_through _ (fun _ => by rw [rest]), rest]
  | finished o => rfl

/-- The number of the stage at a position. -/
def Position.stage : Position → Nat
  | guard => 0
  | language => 1
  | earning _ => 2
  | phrase _ _ => 3
  | passphrase _ _ _ => 4
  | dbPassword _ _ _ _ => 5
  | consumingPath _ => 6
  | earningPath _ _ => 7
  | finished _ => 8

theorem Position.exists_finished {p : Position} (h : p.stage = 8) : ∃ o, p = finished o := by
  cases p with
  | finished o => exact ⟨o, rfl⟩
  | _ => cases h

theorem Step.stage_of_through {y : Step} {next : α → Position} {x : Except Error α × Session}
    (hy : y = through next x) {n : Nat} (hnext : ∀ a, (next a).stage = n) {q : Position}
    (h : y = (.ok q, t)) : q.stage = n := by
  rw [hy] at h
  rcases x with ⟨e | a, u⟩
  · cases h
  · cases h
    exact hnext a

section Runs

variable [Json.Nesting]

/-- A run that starts in a session gets to a position, in another session, and no stage before has
failed. -/
inductive Way.Reaches (w : Way) (c : Configuration) (r : Request) (s : Session) :
    Position → Session → Prop
  | start : Reaches w c r s .guard s
  | next {p q : Position} {t u : Session} (h : Reaches w c r s p t) (hp : p.stage < 8)
      (hstep : w.step c r p t = (.ok q, u)) : Reaches w c r s q u

/-- A stage that is passed leads to the next one. -/
theorem Way.stage_step {p q : Position} (hp : p.stage < 8) (h : w.step c r p s = (.ok q, t)) :
    q.stage = p.stage + 1 := by
  cases p with
  | guard => exact Step.stage_of_through (Step.guard_eq w.existing c s) (fun _ => rfl) h
  | language => exact Step.stage_of_through (Step.language_eq r s) (fun _ => rfl) h
  | earning l => exact Step.stage_of_through (Step.earning_eq r l s) (fun _ => rfl) h
  | phrase l e =>
    cases w with
    | generate wordCount origin =>
      exact Step.stage_of_through (Step.newPhrase_eq wordCount origin r l e s) (fun _ => rfl) h
    | recover words =>
      exact Step.stage_of_through (Step.knownPhrase_eq words r l e s) (fun _ => rfl) h
  | passphrase l e phrase =>
    exact Step.stage_of_through (Step.passphrase_eq r w.passphraseRequest l e phrase s)
      (fun _ => rfl) h
  | dbPassword l e phrase passphrase =>
    exact Step.stage_of_through (Step.dbPassword_eq r l e phrase passphrase s) (fun _ => rfl) h
  | consumingPath p =>
    exact Step.stage_of_through (Step.consumingPath_eq r p s) (fun _ => rfl) h
  | earningPath p consuming =>
    exact Step.stage_of_through (Step.earningPath_eq r w.makesPhrase p consuming s)
      (fun _ => rfl) h
  | finished o => exact absurd hp (Nat.lt_irrefl 8)

/-- A run comes to what is left to do at any position that it reaches. -/
theorem Way.start_of_reaches {p : Position} (h : w.Reaches c r s p t) :
    (w.provision c r).start s = (w.rest c r p).start t := by
  induction h with
  | start => rfl
  | next h hp hstep ih => rw [ih, start_rest, hstep, onward]

theorem Way.start_of_fails {p : Position} {e : Error} {u : Session} (h : w.Reaches c r s p t)
    (hstep : w.step c r p t = (.error e, u)) : (w.provision c r).start s = (.error e, u) := by
  rw [start_of_reaches h, start_rest, hstep, onward]

/-- A run reaches a stage in one way only. -/
theorem Way.reaches_unique {p q : Position} {u : Session} (hp : w.Reaches c r s p t)
    (hq : w.Reaches c r s q u) (hstage : p.stage = q.stage) : p = q ∧ t = u := by
  induction hp generalizing q u with
  | start =>
    cases hq with
    | start => exact ⟨rfl, rfl⟩
    | next hq hlt hstep =>
      rw [stage_step hlt hstep] at hstage
      cases hstage
  | next hp hlt hstep ih =>
    cases hq with
    | start =>
      rw [stage_step hlt hstep] at hstage
      cases hstage
    | next hq hlt' hstep' =>
      rw [stage_step hlt hstep, stage_step hlt' hstep'] at hstage
      obtain ⟨rfl, rfl⟩ := ih hq (Nat.succ.inj hstage)
      rw [hstep] at hstep'
      cases hstep'
      exact ⟨rfl, rfl⟩

/-- No stage is reached behind one that fails. -/
theorem Way.stage_le_of_fails {p q : Position} {e : Error} {t u v : Session}
    (hp : w.Reaches c r s p u) (hfails : w.step c r p u = (.error e, t))
    (hq : w.Reaches c r s q v) : q.stage ≤ p.stage := by
  induction hq with
  | start => exact Nat.zero_le _
  | next hq hlt hstep ih =>
    rw [stage_step hlt hstep]
    refine Nat.lt_of_le_of_ne ih fun hsame => ?_
    obtain ⟨rfl, rfl⟩ := reaches_unique hq hp hsame
    rw [hstep] at hfails
    cases hfails

/-- When no stage fails every stage is reached. -/
theorem Way.exists_reached
    (h : ∀ p u e t, w.Reaches c r s p u → w.step c r p u ≠ (.error e, t)) (n : Nat) (hn : n ≤ 8) :
    ∃ p u, w.Reaches c r s p u ∧ p.stage = n := by
  induction n with
  | zero => exact ⟨.guard, s, .start, rfl⟩
  | succ n ih =>
    obtain ⟨p, u, hreaches, hstage⟩ := ih (Nat.le_of_succ_le hn)
    rcases hstep : w.step c r p u with ⟨e | q, t⟩
    · exact absurd hstep (h p u e t hreaches)
    · have hp : p.stage < 8 := by omega
      exact ⟨q, t, hreaches.next hp hstep, by rw [stage_step hp hstep, hstage]⟩

/-- A run returns exactly when no stage that it reaches fails. -/
theorem Way.returns_iff : (∃ o t, (w.provision c r).start s = (.ok o, t)) ↔
    ∀ p u e t, w.Reaches c r s p u → w.step c r p u ≠ (.error e, t) := by
  constructor
  · rintro ⟨o, t, hok⟩ p u e t' hreaches hstep
    rw [start_of_fails hreaches hstep] at hok
    cases hok
  · intro h
    obtain ⟨p, u, hreaches, hstage⟩ := exists_reached h 8 (Nat.le_refl 8)
    obtain ⟨o, rfl⟩ := Position.exists_finished hstage
    exact ⟨o, u, start_of_reaches hreaches⟩

/-- A run fails exactly as the stage does that it reaches and that fails. -/
theorem Way.fails_iff {e : Error} : (w.provision c r).start s = (.error e, t) ↔
    ∃ p u, w.Reaches c r s p u ∧ w.step c r p u = (.error e, t) := by
  constructor
  · intro h
    refine Classical.byContradiction fun hnone => ?_
    have hreturns : ∃ o t, (w.provision c r).start s = (.ok o, t) := by
      refine returns_iff.mpr fun p u e' t' hreaches hstep => hnone ⟨p, u, hreaches, ?_⟩
      rw [start_of_fails hreaches hstep] at h
      cases h
      exact hstep
    obtain ⟨o, u, hok⟩ := hreturns
    rw [hok] at h
    cases h
  · rintro ⟨p, u, hreaches, hstep⟩
    exact start_of_fails hreaches hstep

end Runs

/-- Whether the words of the phrase are missing. -/
def Way.lacksWords : Way → Bool
  | recover none => true
  | _ => false

/-- Whether the stage at a position may draw random octets. -/
def Position.draws (w : Way) : Position → Bool
  | phrase _ _ => w.makesPhrase
  | _ => false

/-- Whether the stage at a position asks the operator: only for a secret that was not given, and only
if that is possible. -/
def Position.asks (w : Way) (r : Request) : Position → Bool
  | phrase _ _ => w.lacksWords && r.interactive
  | passphrase _ _ _ => r.passphrase.isNone && r.interactive
  | dbPassword _ _ _ _ => r.dbPassword.isNone && r.interactive
  | _ => false

/-- What the stage at a position may do to a session. One that neither draws nor asks logs at most one
message. -/
structure Position.Confines (w : Way) (r : Request) (p : Position) (s t : Session) : Prop where
  same : s.SameSurroundings t
  quiet : p.draws w = false → p.asks w r = false →
    t = s ∨ ∃ level source message, t = s.noted level source message
  input : p.asks w r = false → t.input = s.input
  drawn : p.draws w = false → t.drawn = s.drawn

namespace Step

theorem asking_of_ok {asks : Program Error α} {a : α} (h : asks.start s = (.ok a, t))
    (p : Parameter) (next : α → Session → Step) : asking true p asks s next = next a t := by
  rw [asking, if_pos rfl, h]

theorem asking_of_error {asks : Program Error α} {e : Error} (h : asks.start s = (.error e, t))
    (p : Parameter) (next : α → Session → Step) :
    asking true p asks s next = (.error e, t) := by
  rw [asking, if_pos rfl, h]

theorem asking_through (p : Parameter) (asks : Program Error α) (next : α → Position)
    (s : Session) : asking true p asks s (fun a t => (.ok (next a), t)) =
      through next (asks.start s) := by
  rcases h : asks.start s with ⟨e | a, t⟩
  · rw [asking_of_error h, through]
  · rw [asking_of_ok h, through]

theorem session_through (next : α → Position) (x : Except Error α × Session) :
    (through next x).2 = x.2 := by
  rcases x with ⟨e | a, t⟩ <;> rfl

theorem isOk_through (next : α → Position) (x : Except Error α × Session) :
    (through next x).1.isOk = x.1.isOk := by
  rcases x with ⟨e | a, t⟩ <;> rfl

theorem asking_session {asks : Program Error α} {next : α → Session → Step}
    (hnext : ∀ a t, (next a t).2 = t) (p : Parameter) (s : Session) :
    (asking true p asks s next).2 = (asks.start s).2 := by
  rcases h : asks.start s with ⟨e | a, t⟩
  · rw [asking_of_error h]
  · rw [asking_of_ok h, hnext]

theorem asking_of_not {β : Type} {interactive : Bool} (h : interactive = false) (p : Parameter)
    (asks : Program Error β) (s : Session) (next : β → Session → Step) :
    (asking interactive p asks s next).2 = s := by
  rw [asking, h]
  rfl

theorem asking_drawn {β : Type} {interactive : Bool} {p : Parameter} {asks : Program Error β}
    {next : β → Session → Step} (hasks : (asks.start s).2.drawn = s.drawn)
    (hnext : ∀ b t, (next b t).2.drawn = t.drawn) :
    (asking interactive p asks s next).2.drawn = s.drawn := by
  cases interactive with
  | false => rfl
  | true =>
    rcases hstart : asks.start s with ⟨e | b, t⟩
    · rw [hstart] at hasks
      rw [asking_of_error hstart]
      exact hasks
    · rw [hstart] at hasks
      rw [asking_of_ok hstart]
      exact (hnext b t).trans hasks

theorem words_session (l : Language) (e : EarningWallet) (given : List String) (s : Session) :
    (words l e given s).2 = s ∨
      ∃ level source message, (words l e given s).2 = s.noted level source message := by
  rw [words]
  cases Mnemonic.validate l given with
  | ok phrase => exact Or.inl rfl
  | error rejection => exact Or.inr ⟨_, _, _, rfl⟩

theorem kept_of_session {t : Session}
    (h : t = s ∨ ∃ level source message, t = s.noted level source message) :
    t.drawn = s.drawn ∧ t.input = s.input ∧ t.environment = s.environment := by
  rcases h with rfl | ⟨level, source, message, rfl⟩
  · exact ⟨rfl, rfl, rfl⟩
  · exact ⟨rfl, rfl, rfl⟩

end Step

namespace Collect

theorem drawn_words (e : Console.Emitter) (s : Session) :
    ((words e).start s).2.drawn = s.drawn := by
  rw [start_words]
  rfl

theorem drawn_accept (e : Console.Emitter) (p : String) (s : Session) :
    ((accept e p).start s).2.drawn = s.drawn := by
  rw [start_accept]
  split
  · rfl
  · rfl

theorem drawn_passphrase (e : Console.Emitter) (request : PassphraseRequest) (limit : Int)
    (s : Session) : ((passphrase e request limit).start s).2.drawn = s.drawn := by
  rw [start_passphrase]
  split
  · rfl
  · rfl
  · rfl
  · exact drawn_accept _ _ _

theorem drawn_dbPassword (e : Console.Emitter) (s : Session) :
    ((dbPassword e true (some dbPasswordVariable)).start s).2.drawn = s.drawn := by
  cases h : s.environment.lookup dbPasswordVariable with
  | some p => rw [start_dbPassword_of_some h]
  | none =>
    rw [start_dbPassword_of_none h]
    rfl

end Collect

namespace Way

section Runs

variable [Json.Nesting]

theorem step_phrase_asking (hinteractive : r.interactive = true) (l : Language)
    (e : EarningWallet) (s : Session) : (recover none).step c r (.phrase l e) s =
      Step.asking true .mnemonic (Collect.words r.emitter) s (Step.words l e) := by
  rw [step, Step.knownPhrase, hinteractive]

theorem step_passphrase_asking (hgiven : r.passphrase = none) (hinteractive : r.interactive = true)
    (w : Way) (l : Language) (e : EarningWallet) (phrase : String) (s : Session) :
    w.step c r (.passphrase l e phrase) s = Step.through (.dbPassword l e phrase)
      ((Collect.passphrase r.emitter w.passphraseRequest Collect.maxAttempts).start s) := by
  rw [step, Step.passphrase, hgiven, hinteractive]
  exact Step.asking_through _ _ _ s

theorem step_dbPassword_asking (hgiven : r.dbPassword = none) (hinteractive : r.interactive = true)
    (w : Way) (l : Language) (e : EarningWallet) (phrase passphrase : String) (s : Session) :
    w.step c r (.dbPassword l e phrase passphrase) s = Step.asking true .dbPassword
      (Collect.dbPassword r.emitter true (some Collect.dbPasswordVariable)) s
      (Step.password l e phrase passphrase) := by
  rw [step, Step.dbPassword, hgiven, hinteractive]

/-- A stage that neither draws nor asks logs at most one message. -/
theorem step_quiet {p : Position} (hdraws : p.draws w = false) (hasks : p.asks w r = false) :
    (w.step c r p s).2 = s ∨
      ∃ level source message, (w.step c r p s).2 = s.noted level source message := by
  cases p with
  | guard =>
    rw [step, Step.guard]
    split
    · exact Or.inr ⟨_, _, _, rfl⟩
    · exact Or.inr ⟨_, _, _, rfl⟩
    · exact Or.inl rfl
  | language =>
    refine Or.inl ?_
    rw [step, Step.language]
    cases Language.find? r.language <;> rfl
  | earning l =>
    refine Or.inl ?_
    rw [step, Step.earning]
    cases r.earning.chosen <;> rfl
  | phrase l e =>
    cases w with
    | generate wordCount origin => cases hdraws
    | recover given =>
      cases given with
      | some given => exact Step.words_session l e given s
      | none => exact Or.inl (Step.asking_of_not hasks _ _ _ _)
  | passphrase l e phrase =>
    rw [Position.asks] at hasks
    rw [step, Step.passphrase]
    cases hp : r.passphrase with
    | some p => exact Or.inr ⟨_, _, _, rfl⟩
    | none =>
      rw [hp] at hasks
      exact Or.inl (Step.asking_of_not hasks _ _ _ _)
  | dbPassword l e phrase passphrase =>
    rw [Position.asks] at hasks
    refine Or.inl ?_
    rw [step, Step.dbPassword]
    cases hp : r.dbPassword with
    | some p => rfl
    | none =>
      rw [hp] at hasks
      exact Step.asking_of_not hasks _ _ _ _
  | consumingPath p =>
    rw [step, Step.consumingPath]
    split
    · exact Or.inr ⟨_, _, _, rfl⟩
    · exact Or.inl rfl
  | earningPath p consuming =>
    rw [step, Step.earningPath]
    split
    · split
      · exact Or.inr ⟨_, _, _, rfl⟩
      · exact Or.inl rfl
    · exact Or.inr ⟨_, _, _, rfl⟩
  | finished o => exact Or.inl rfl

theorem step_drawn {p : Position} (hdraws : p.draws w = false) :
    (w.step c r p s).2.drawn = s.drawn := by
  by_cases hasks : p.asks w r = false
  · exact (Step.kept_of_session (step_quiet hdraws hasks)).1
  · cases p with
    | phrase l e =>
      cases w with
      | generate wordCount origin => cases hdraws
      | recover given =>
        cases given with
        | some given => exact absurd rfl hasks
        | none => exact Step.asking_drawn (Collect.drawn_words _ s) fun given t =>
            (Step.kept_of_session (Step.words_session l e given t)).1
    | passphrase l e phrase =>
      rw [step, Step.passphrase]
      cases r.passphrase with
      | some p => rfl
      | none => exact Step.asking_drawn (Collect.drawn_passphrase _ _ _ s) fun _ _ => rfl
    | dbPassword l e phrase passphrase =>
      rw [step, Step.dbPassword]
      cases r.dbPassword with
      | some p => rfl
      | none => exact Step.asking_drawn (Collect.drawn_dbPassword _ s) fun _ _ => rfl
    | _ => exact absurd rfl hasks

theorem step_input {p : Position} (hasks : p.asks w r = false) :
    (w.step c r p s).2.input = s.input := by
  by_cases hdraws : p.draws w = false
  · exact (Step.kept_of_session (step_quiet hdraws hasks)).2.1
  · cases p with
    | phrase l e =>
      cases w with
      | recover given => exact absurd rfl hdraws
      | generate wordCount origin =>
        cases origin with
        | prepared phrase => rfl
        | fresh =>
          rw [step, Step.newPhrase]
          cases Mnemonic.WordCount.ofInt? wordCount <;> rfl
    | _ => exact absurd rfl hdraws

theorem same_of_step (w : Way) (c : Configuration) (r : Request) (p : Position) (s : Session) :
    s.SameSurroundings (w.step c r p s).2 := by
  have hthrough : ∀ {α : Type} {y : Step} {next : α → Position} {q : Program Error α},
      y = Step.through next (q.start s) → Program.Leaves q → s.SameSurroundings y.2 := by
    intro α y next q hy hleaves
    have h := hleaves s
    rw [hy]
    rcases hstart : q.start s with ⟨e | a, t⟩
    · rw [hstart] at h
      exact h
    · rw [hstart] at h
      exact h
  cases p with
  | guard =>
    exact hthrough (Step.guard_eq w.existing c s) ((Guard.leaves_check c).mapError _)
  | language => exact hthrough (Step.language_eq r s) (Flow.leaves_language _)
  | earning l => exact hthrough (Step.earning_eq r l s) (Flow.leaves_earningWallet _)
  | phrase l e =>
    cases w with
    | generate wordCount origin =>
      exact hthrough (Step.newPhrase_eq wordCount origin r l e s)
        ((Flow.leaves_newPhrase _ _ _).bind fun _ => (Program.leaves_note _ _ _).bind fun _ =>
          Program.leaves_pure _)
    | recover words =>
      exact hthrough (Step.knownPhrase_eq words r l e s)
        ((Flow.leaves_knownWords _ _).bind fun _ => Flow.leaves_knownPhrase _ _)
  | passphrase l e phrase =>
    exact hthrough (Step.passphrase_eq r w.passphraseRequest l e phrase s)
      (Flow.leaves_passphrase _ _)
  | dbPassword l e phrase passphrase =>
    exact hthrough (Step.dbPassword_eq r l e phrase passphrase s) (Flow.leaves_dbPassword _)
  | consumingPath p =>
    exact hthrough (Step.consumingPath_eq r p s) (Flow.leaves_derive _ _ _)
  | earningPath p consuming =>
    exact hthrough (Step.earningPath_eq r w.makesPhrase p consuming s) (Flow.leaves_earning _ _)
  | finished o => exact .refl s

theorem confines_step (w : Way) (c : Configuration) (r : Request) (p : Position) (s : Session) :
    p.Confines w r s (w.step c r p s).2 where
  same := same_of_step w c r p s
  quiet := step_quiet
  input := step_input
  drawn := step_drawn

/-- Provisioning is strictly staged. A run returns exactly when no stage that it reaches fails, and it
fails as the stage that it reaches and that fails; no stage does anything that is not its own. With a
recorded seed, or a file that cannot be read, it ends in the guard. -/
theorem provision_staged (w : Way) (c : Configuration) (r : Request) (s : Session) :
    ((∃ o t, (w.provision c r).start s = (.ok o, t)) ↔
      ∀ p u e t, w.Reaches c r s p u → w.step c r p u ≠ (.error e, t)) ∧
    (∀ e t, (w.provision c r).start s = (.error e, t) ↔
      ∃ p u, w.Reaches c r s p u ∧ w.step c r p u = (.error e, t)) ∧
    (∀ p u e t, w.Reaches c r s p u → w.step c r p u = (.error e, t) →
      ∀ q v, w.Reaches c r s q v → q.stage ≤ p.stage) ∧
    (∀ (p : Position) (u : Session), p.Confines w r u (w.step c r p u).2) ∧
    (Store.Config.seedExists s.disk c.file = .ok true →
      (w.provision c r).start s = (.error w.existing, s.noted .warn Guard.source
        "Refusing to provision wallets: a mnemonic seed is already persisted")) ∧
    ∀ fault, Store.Config.seedExists s.disk c.file = .error (.storage fault) →
      (w.provision c r).start s = (.error (.config (.storage .seed fault)), s) := by
  refine ⟨returns_iff, fun e t => fails_iff, fun p u e t hp hfails q v hq =>
    stage_le_of_fails hp hfails hq, confines_step w c r, ?_, ?_⟩
  · intro hseed
    refine start_of_fails .start ?_
    rw [step, Step.guard, hseed]
  · intro fault hseed
    refine start_of_fails .start ?_
    rw [step, Step.guard, hseed]
    rfl

end Runs

open scoped Json.Nesting

/-- Words that are not given and cannot be asked for end a recovery when the guard has spoken. -/
theorem provision_staged_wordless :
    ((recover none).provision ⟨⟨.here, [['w']]⟩⟩ (Flow.plainRequest "")).start (Session.bare []) =
      (.error (.config (.notSupplied .mnemonic)),
        (Session.bare []).noted .debug Guard.source "No persisted mnemonic seed found") := by
  have hl : Language.find? (Flow.plainRequest "").language = some .english := by
    simp [Language.find?, Language.all, Language.isNamed, Flow.plainRequest]
  have hlanguage : ∀ s, (recover none).step ⟨⟨.here, [['w']]⟩⟩ (Flow.plainRequest "") .language s =
      (.ok (.earning .english), s) := by
    intro s
    rw [step, Step.language, hl, Option.elim_some]
  refine ((provision_staged _ _ _ _).2.1 _ _).mpr ⟨.phrase .english (.derived "m"), _, ?_, rfl⟩
  refine .next (.next (.next .start (by decide) rfl) (by decide) (hlanguage _)) (by decide) rfl

end Way

end HdProvision.Provision
