import HdProvision.Proofs.Provision.Blindness
import HdProvision.Proofs.Provision.Staging
import HdProvision.Proofs.Text.Words

/-!
# Secrets that are given or typed

A secret that is typed, as often as it is asked for, takes provisioning to where it gets when the secret
is given: to the same result, and to a session that differs only in what was read and said.
-/

set_option autoImplicit false

namespace HdProvision.Console

/-- A text as it is typed on a line. -/
def typedLine (text : String) : String := text ++ "\n"

/-- A text that can be typed as an answer. -/
structure Typable (text : String) : Prop where
  filled : text ≠ ""
  newline : '\n' ∉ text.toList
  carriageReturn : '\r' ∉ text.toList

theorem lineText_typedLine {text : String} (h : Typable text) : lineText (typedLine text) = text := by
  have hbreak : ∀ c ∈ text.toList.reverse, (decide (c = '\n') || decide (c = '\r')) = false := by
    intro c hc
    have hmem := List.mem_reverse.mp hc
    rw [Bool.or_eq_false_iff, decide_eq_false_iff_not, decide_eq_false_iff_not]
    refine ⟨?_, ?_⟩
    · rintro rfl
      exact h.newline hmem
    · rintro rfl
      exact h.carriageReturn hmem
  have hdrop : text.toList.reverse.dropWhile (fun c => decide (c = '\n') || decide (c = '\r')) =
      text.toList.reverse := by
    cases hchars : text.toList.reverse with
    | nil => rfl
    | cons c cs =>
      rw [List.dropWhile_cons, hbreak c (hchars ▸ List.mem_cons_self)]
      rfl
  rw [lineText, typedLine, String.toList_append, List.reverse_append]
  change String.ofList (List.dropWhile _ ('\n' :: text.toList.reverse)).reverse = text
  rw [List.dropWhile_cons]
  simp only [decide_true, Bool.true_or, if_true, hdrop, List.reverse_reverse, String.ofList_toList]

/-- Words can be typed on one line. -/
theorem typable_join {ws : List String} (hne : ws ≠ []) (hws : ∀ w ∈ ws, Text.IsWord w) :
    Typable (Text.join " " ws) := by
  have hwords : Text.words (Text.join " " ws) = ws := Text.words_join ' ' (by decide) ws hws
  have hbreak : ∀ c : Char, c ≠ ' ' → Text.isBlank c = true → c ∉ (Text.join " " ws).toList := by
    intro c hspace hblank hc
    rw [Text.toList_join] at hc
    rcases Text.mem_joinChars _ hc with hsep | ⟨p, hp, hcp⟩
    · exact hspace (List.mem_singleton.mp hsep)
    · obtain ⟨w, hw, rfl⟩ := List.mem_map.mp hp
      rw [(hws w hw).2 c hcp] at hblank
      cases hblank
  refine ⟨?_, hbreak _ (by decide) (by decide), hbreak _ (by decide) (by decide)⟩
  intro hempty
  rw [hempty] at hwords
  exact hne hwords.symm

/-- A line that is typed twice is the passphrase. -/
theorem passphrase_repeated (c : Confirmation) (limit : Int) (l : String) (ls : List String) :
    passphrase c limit 0 none (l :: l :: ls) =
      ⟨.agreed (lineText l) 1, hiddenLine c.prompt ++ hiddenLine c.again, ls⟩ := by
  simp only [passphrase, if_true, Dialog.after, Nat.zero_add]

variable {text : String} (h : Typable text) (ls : List String)

include h

theorem filled_typed (prompt : String) :
    filled prompt (typedLine text :: ls) = ⟨some text, hiddenLine prompt, ls⟩ := by
  rw [filled, lineText_typedLine h, if_neg h.filled]

theorem twice_typed (c : Confirmation) :
    (twice c none (typedLine text :: typedLine text :: ls)).result = some text ∧
      (twice c none (typedLine text :: typedLine text :: ls)).rest = ls := by
  simp only [twice, lineText_typedLine h, h.filled, if_false, if_true, Dialog.after, and_self]

theorem passphrase_typed (c : Confirmation) (limit : Int) :
    (passphrase c limit 0 none (typedLine text :: typedLine text :: ls)).result = .agreed text 1 ∧
      (passphrase c limit 0 none (typedLine text :: typedLine text :: ls)).rest = ls := by
  rw [passphrase_repeated, lineText_typedLine h]
  exact ⟨rfl, rfl⟩

end HdProvision.Console

namespace HdProvision.Provision

open Console (Typable typedLine)
open Session (Peers)
open Store (Configuration)

namespace Collect

variable {α : Type} {s : Session}

theorem peers_asked (notice : String) (dialog : List String → Console.Dialog α) :
    Peers s (asked s notice dialog) :=
  (Peers.printed s notice).trans (.conversed _ _)

variable {text : String} {ls : List String} (h : Typable text)

include h

theorem words_typed (e : Console.Emitter) (hinput : s.input = typedLine text :: ls) :
    ∃ t, (words e).start s = (.ok (Text.words text), t) ∧ Peers s t ∧ t.input = ls ∧
      t.environment = s.environment := by
  rw [start_words, hinput, Console.filled_typed h]
  refine ⟨_, rfl, peers_asked _ _, ?_, rfl⟩
  change (Console.filled _ s.input).rest = ls
  rw [hinput, Console.filled_typed h]

theorem passphrase_typed (e : Console.Emitter) (request : PassphraseRequest) (limit : Int)
    (hinput : s.input = typedLine text :: typedLine text :: ls) :
    ∃ t, (passphrase e request limit).start s = (.ok text, t) ∧ Peers s t ∧ t.input = ls ∧
      t.environment = s.environment := by
  obtain ⟨hresult, hrest⟩ := Console.passphrase_typed h ls (request.confirmation e s.colors) limit
  rw [← hinput] at hresult hrest
  rw [start_passphrase]
  simp only [PassphraseRequest.dialog, hresult]
  rw [start_accept, if_neg h.filled]
  exact ⟨_, rfl, (peers_asked _ _).trans (.noted _ _ _ _), hrest, rfl⟩

theorem dbPassword_typed (e : Console.Emitter)
    (hnone : s.environment.lookup dbPasswordVariable = none)
    (hinput : s.input = typedLine text :: typedLine text :: ls) :
    ∃ t, (dbPassword e true (some dbPasswordVariable)).start s = (.ok text, t) ∧ Peers s t ∧
      t.input = ls ∧ t.environment = s.environment := by
  obtain ⟨hresult, hrest⟩ := Console.twice_typed h ls (passwordConfirmation s.colors)
  rw [← hinput] at hresult hrest
  rw [start_dbPassword_of_none hnone, hresult]
  exact ⟨_, rfl, peers_asked _ _, hrest, rfl⟩

end Collect

/-- The secrets of a run. -/
structure Secrets where
  phrase : String
  passphrase : String
  dbPassword : String

/-- The way with the phrase given. -/
def Way.given (x : Secrets) : Way → Way
  | .generate wordCount origin => .generate wordCount origin
  | .recover _ => .recover (some (Text.words x.phrase))

theorem Way.lacksWords_recover (given : Option (List String)) :
    (Way.recover given).lacksWords = given.isNone := by
  cases given <;> rfl

/-- The request with the other secrets given. -/
def Request.given (r : Request) (x : Secrets) : Request :=
  { r with passphrase := some x.passphrase, dbPassword := some x.dbPassword }

/-- A secret is given, or else it can be typed. -/
def Provided (given : Option String) (text : String) : Prop :=
  given = some text ∨ given = none ∧ Typable text

/-- All secrets are given, or else they can be typed. -/
structure Provides (w : Way) (r : Request) (x : Secrets) : Prop where
  interactive : r.interactive = true
  words : ∀ given, w = .recover (some given) → given = Text.words x.phrase
  phrase : w.lacksWords = true → Typable x.phrase
  passphrase : Provided r.passphrase x.passphrase
  dbPassword : Provided r.dbPassword x.dbPassword

/-- The lines on which a secret is typed twice, if it is not given. -/
def linesFor (given : Option String) (text : String) : List String :=
  if given.isNone then [typedLine text, typedLine text] else []

/-- The lines on which the phrase is typed, if it is not given. -/
def Way.phraseLines (w : Way) (x : Secrets) : List String :=
  if w.lacksWords then [typedLine x.phrase] else []

/-- The lines that are typed from a position on. -/
def Way.pending (w : Way) (r : Request) (x : Secrets) : Position → List String
  | .guard | .language | .earning _ | .phrase _ _ =>
    w.phraseLines x ++ (linesFor r.passphrase x.passphrase ++ linesFor r.dbPassword x.dbPassword)
  | .passphrase _ _ _ => linesFor r.passphrase x.passphrase ++ linesFor r.dbPassword x.dbPassword
  | .dbPassword _ _ _ _ => linesFor r.dbPassword x.dbPassword
  | .consumingPath _ | .earningPath _ _ | .finished _ => []

/-- The lines that are typed from a position on come next, and no variable stands for the password. -/
structure Ready (w : Way) (r : Request) (x : Secrets) (rest : List String) (p : Position)
    (s : Session) : Prop where
  input : s.input = w.pending r x p ++ rest
  environment : r.dbPassword = none → s.environment.lookup Collect.dbPasswordVariable = none

variable {w w' : Way} {c : Configuration} {r r' : Request} {x : Secrets} {rest rest' : List String}
  {p q : Position} {s s' t : Session}

/-- What a stage comes to does not depend on what was read and said. -/
structure Step.Matches (y z : Step) : Prop where
  result : y.1 = z.1
  peers : Peers z.2 y.2

theorem Step.Matches.refl (y : Step) : Matches y y := ⟨rfl, .refl _⟩

theorem Step.Matches.symm {y z : Step} (h : Matches y z) : Matches z y :=
  ⟨h.result.symm, h.peers.symm⟩

theorem Step.Matches.trans {x y z : Step} (h : Matches x y) (h' : Matches y z) : Matches x z :=
  ⟨h.result.trans h'.result, h'.peers.trans h.peers⟩

theorem Step.matches_of_blind {α : Type} {y y' : Step} {next : α → Position} {b : Program Error α}
    (hy : y = through next (b.start s)) (hy' : y' = through next (b.start s'))
    (hb : Program.Blind b) (h : Peers s s') : Matches y' y := by
  obtain ⟨hresult, hpeers⟩ := hb.peers h
  rw [hy, hy']
  rcases hstart : b.start s with ⟨r, t⟩
  rcases hstart' : b.start s' with ⟨r', t'⟩
  rw [hstart, hstart'] at hresult hpeers
  obtain rfl : r' = r := hresult
  cases r' <;> exact ⟨rfl, hpeers⟩

theorem Step.next_of_through {α : Type} {y : Step} {next : α → Position}
    {z : Except Error α × Session} (hy : y = through next z) (h : y = (.ok q, t)) :
    ∃ a, q = next a := by
  rw [hy] at h
  rcases z with ⟨e | a, u⟩
  · cases h
  · cases h
    exact ⟨a, rfl⟩

theorem Step.words_matches (l : Mnemonic.Language) (e : Wallet.EarningWallet) (given : List String)
    (h : Peers s s') : Matches (words l e given s') (words l e given s) :=
  matches_of_blind (words_eq l e given s) (words_eq l e given s') (Flow.blind_knownPhrase _ _) h

theorem Step.password_matches (l : Mnemonic.Language) (e : Wallet.EarningWallet)
    (phrase passphrase p : String) (h : Peers s s') :
    Matches (password l e phrase passphrase p s') (password l e phrase passphrase p s) :=
  matches_of_blind (password_eq l e phrase passphrase p s)
    (password_eq l e phrase passphrase p s') (Flow.blind_takePassword p) h

/-- When nothing is left to be typed, the lines are the last ones. -/
theorem Ready.of_input (hinput : t.input = w.pending r x q ++ rest)
    (h : Ready w r x rest p s) (henvironment : t.environment = s.environment) :
    Ready w r x rest q t :=
  ⟨hinput, fun hnone => henvironment ▸ h.environment hnone⟩

section Runs

variable [Json.Nesting]

/-- When all secrets are given a stage does the same in peers. -/
theorem Way.step_peers (hfresh : ∀ n origin, w = .generate n origin → origin = .fresh)
    (h : Peers s s') (p : Position) :
    Step.Matches ((w.given x).step c (r.given x) p s') ((w.given x).step c (r.given x) p s) := by
  cases p with
  | guard =>
    exact Step.matches_of_blind (Step.guard_eq _ c s) (Step.guard_eq _ c s')
      ((Guard.blind_check c).mapError _) h
  | language =>
    exact Step.matches_of_blind (Step.language_eq _ s) (Step.language_eq _ s')
      (Flow.blind_language _) h
  | earning l =>
    exact Step.matches_of_blind (Step.earning_eq _ l s) (Step.earning_eq _ l s')
      (Flow.blind_earningWallet _) h
  | phrase l e =>
    cases w with
    | generate n origin =>
      obtain rfl := hfresh n origin rfl
      exact Step.matches_of_blind (Step.newPhrase_eq n .fresh r l e s)
        (Step.newPhrase_eq n .fresh r l e s')
        ((Flow.blind_newPhrase n l).bind fun _ => (Program.blind_note _ _ _).bind fun _ =>
          Program.blind_pure _) h
    | recover given => exact Step.words_matches l e _ h
  | passphrase l e phrase =>
    exact ⟨rfl, ((Peers.noted s _ _ _).symm.trans h).trans (.noted s' _ _ _)⟩
  | dbPassword l e phrase passphrase => exact Step.password_matches l e phrase passphrase _ h
  | consumingPath p =>
    exact Step.matches_of_blind (Step.consumingPath_eq _ p s) (Step.consumingPath_eq _ p s')
      (Flow.blind_derive _ _ _) h
  | earningPath p consuming =>
    exact Step.matches_of_blind (Step.earningPath_eq _ _ p consuming s)
      (Step.earningPath_eq _ _ p consuming s') (Flow.blind_earning _ _) h
  | finished o => exact ⟨rfl, h⟩

/-- A stage that asks nothing keeps the lines that are to be typed. -/
theorem Ready.of_quiet (h : Ready w r x rest p s) (hasks : p.asks w r = false)
    (hpending : w.pending r x q = w.pending r x p) (hstep : w.step c r p s = (.ok q, t)) :
    Ready w r x rest q t := by
  have hinput := Way.step_input (c := c) (s := s) hasks
  have hsame := Way.same_of_step w c r p s
  rw [hstep] at hinput hsame
  exact ⟨hinput.trans (by rw [h.input, hpending]), fun hnone => hsame.environment ▸ h.environment hnone⟩

/-- What a stage comes to is what it comes to when all secrets are given, and the lines that are to be
typed next come next. -/
def Way.Simulates (w : Way) (c : Configuration) (r : Request) (x : Secrets) (rest : List String)
    (p : Position) (s : Session) : Prop :=
  Step.Matches (w.step c r p s) ((w.given x).step c (r.given x) p s) ∧
    ∀ q t, w.step c r p s = (.ok q, t) → Ready w r x rest q t

theorem Way.simulates_phrase (hprovides : Provides w r x) (l : Mnemonic.Language)
    (e : Wallet.EarningWallet) (hready : Ready w r x rest (.phrase l e) s) :
    w.Simulates c r x rest (.phrase l e) s := by
  cases w with
  | generate n origin =>
    refine ⟨.refl _, fun q t hstep => ?_⟩
    obtain ⟨phrase, rfl⟩ := Step.next_of_through (Step.newPhrase_eq n origin r l e s) hstep
    exact hready.of_quiet rfl rfl hstep
  | recover given =>
    cases given with
    | some given =>
      obtain rfl := hprovides.words given rfl
      refine ⟨.refl _, fun q t hstep => ?_⟩
      obtain ⟨phrase, rfl⟩ := Step.next_of_through (Step.words_eq l e _ s) hstep
      exact hready.of_quiet rfl rfl hstep
    | none =>
      obtain ⟨t, hwords, hpeers, hinput, henvironment⟩ :=
        Collect.words_typed (hprovides.phrase rfl) r.emitter hready.input
      have hstep : (recover none).step c r (.phrase l e) s =
          Step.words l e (Text.words x.phrase) t := by
        rw [step_phrase_asking hprovides.interactive, Step.asking_of_ok hwords]
      refine ⟨?_, fun q u hok => ?_⟩
      · rw [hstep]
        exact Step.words_matches l e _ hpeers
      · rw [hstep] at hok
        obtain ⟨phrase, rfl⟩ := Step.next_of_through (Step.words_eq l e _ t) hok
        have hsession := Step.kept_of_session (Step.words_session l e (Text.words x.phrase) t)
        rw [hok] at hsession
        exact .of_input (hsession.2.1.trans hinput) hready (hsession.2.2.trans henvironment)

theorem Way.simulates_passphrase (hprovides : Provides w r x) (l : Mnemonic.Language)
    (e : Wallet.EarningWallet) (phrase : String)
    (hready : Ready w r x rest (.passphrase l e phrase) s) :
    w.Simulates c r x rest (.passphrase l e phrase) s := by
  rcases hprovides.passphrase with hgiven | ⟨hnone, htypable⟩
  · have hstep : w.step c r (.passphrase l e phrase) s =
        (w.given x).step c (r.given x) (.passphrase l e phrase) s := by
      rw [step, Step.passphrase, hgiven]
      rfl
    refine ⟨hstep ▸ .refl _, fun q t hok => ?_⟩
    obtain ⟨p, rfl⟩ := Step.next_of_through (Step.passphrase_eq r _ l e phrase s) hok
    refine hready.of_quiet ?_ ?_ hok
    · rw [Position.asks, hgiven]
      rfl
    · rw [pending, pending, hgiven]
      rfl
  · have hinput : s.input = typedLine x.passphrase :: typedLine x.passphrase ::
        (linesFor r.dbPassword x.dbPassword ++ rest) := by
      rw [hready.input, pending, hnone]
      rfl
    obtain ⟨t, hasked, hpeers, hrest, henvironment⟩ := Collect.passphrase_typed htypable r.emitter
      w.passphraseRequest Collect.maxAttempts hinput
    have hstep : w.step c r (.passphrase l e phrase) s =
        (.ok (.dbPassword l e phrase x.passphrase), t) := by
      rw [step_passphrase_asking hnone hprovides.interactive, hasked, Step.through]
    refine ⟨?_, fun q u hok => ?_⟩
    · rw [hstep]
      exact ⟨rfl, (Peers.noted s _ _ _).symm.trans hpeers⟩
    · rw [hstep] at hok
      cases hok
      exact .of_input hrest hready henvironment

theorem Way.simulates_dbPassword (hprovides : Provides w r x) (l : Mnemonic.Language)
    (e : Wallet.EarningWallet) (phrase passphrase : String)
    (hready : Ready w r x rest (.dbPassword l e phrase passphrase) s) :
    w.Simulates c r x rest (.dbPassword l e phrase passphrase) s := by
  rcases hprovides.dbPassword with hgiven | ⟨hnone, htypable⟩
  · have hstep : w.step c r (.dbPassword l e phrase passphrase) s =
        (w.given x).step c (r.given x) (.dbPassword l e phrase passphrase) s := by
      rw [step, Step.dbPassword, hgiven]
      rfl
    refine ⟨hstep ▸ .refl _, fun q t hok => ?_⟩
    obtain ⟨p, rfl⟩ := Step.next_of_through (Step.dbPassword_eq r l e phrase passphrase s) hok
    refine hready.of_quiet ?_ ?_ hok
    · rw [Position.asks, hgiven]
      rfl
    · rw [pending, pending, hgiven]
      rfl
  · have hinput : s.input = typedLine x.dbPassword :: typedLine x.dbPassword :: rest := by
      rw [hready.input, pending, hnone]
      rfl
    obtain ⟨t, hasked, hpeers, hrest, henvironment⟩ := Collect.dbPassword_typed htypable r.emitter
      (hready.environment hnone) hinput
    have hstep : w.step c r (.dbPassword l e phrase passphrase) s =
        Step.password l e phrase passphrase x.dbPassword t := by
      rw [step_dbPassword_asking hnone hprovides.interactive, Step.asking_of_ok hasked]
    refine ⟨?_, fun q u hok => ?_⟩
    · rw [hstep]
      exact Step.password_matches l e phrase passphrase _ hpeers
    · rw [hstep] at hok
      obtain ⟨p, rfl⟩ := Step.next_of_through (Step.password_eq l e phrase passphrase _ t) hok
      have hsession : u = t := congrArg Prod.snd hok.symm
      exact .of_input (hsession ▸ hrest) hready (hsession ▸ henvironment)

/-- A stage does what it does when all secrets are given. -/
theorem Way.simulates_step (hprovides : Provides w r x) (hready : Ready w r x rest p s) :
    w.Simulates c r x rest p s := by
  cases p with
  | guard =>
    have hstep : w.step c r .guard s = (w.given x).step c (r.given x) .guard s := by
      cases w <;> rfl
    refine ⟨hstep ▸ .refl _, fun q t hok => ?_⟩
    obtain ⟨a, rfl⟩ := Step.next_of_through (Step.guard_eq w.existing c s) hok
    exact hready.of_quiet rfl rfl hok
  | language =>
    refine ⟨.refl _, fun q t hok => ?_⟩
    obtain ⟨l, rfl⟩ := Step.next_of_through (Step.language_eq r s) hok
    exact hready.of_quiet rfl rfl hok
  | earning l =>
    refine ⟨.refl _, fun q t hok => ?_⟩
    obtain ⟨e, rfl⟩ := Step.next_of_through (Step.earning_eq r l s) hok
    exact hready.of_quiet rfl rfl hok
  | phrase l e => exact simulates_phrase hprovides l e hready
  | passphrase l e phrase => exact simulates_passphrase hprovides l e phrase hready
  | dbPassword l e phrase passphrase =>
    exact simulates_dbPassword hprovides l e phrase passphrase hready
  | consumingPath p =>
    refine ⟨.refl _, fun q t hok => ?_⟩
    obtain ⟨consuming, rfl⟩ := Step.next_of_through (Step.consumingPath_eq r p s) hok
    exact hready.of_quiet rfl rfl hok
  | earningPath p consuming =>
    have hstep : w.step c r (.earningPath p consuming) s =
        (w.given x).step c (r.given x) (.earningPath p consuming) s := by
      cases w <;> rfl
    refine ⟨hstep ▸ .refl _, fun q t hok => ?_⟩
    obtain ⟨e, rfl⟩ := Step.next_of_through (Step.earningPath_eq r _ p consuming s) hok
    exact hready.of_quiet rfl rfl hok
  | finished o =>
    refine ⟨.refl _, fun q t hok => ?_⟩
    cases hok
    exact hready

/-- Two ways that have the same secrets, from one position on: they end alike. -/
theorem Way.rest_agrees (hfresh : ∀ n origin, w.given x = .generate n origin → origin = .fresh)
    (hway : w'.given x = w.given x) (hrequest : r'.given x = r.given x)
    (hprovides : Provides w r x) (hprovides' : Provides w' r' x) (n : Nat) {p : Position}
    (hn : p.stage + n = 8) {s s' : Session} (hready : Ready w r x rest p s)
    (hready' : Ready w' r' x rest' p s') (hpeers : Peers s s') :
    ((w'.rest c r' p).start s').1 = ((w.rest c r p).start s).1 ∧
      Peers ((w.rest c r p).start s).2 ((w'.rest c r' p).start s').2 := by
  induction n generalizing p s s' with
  | zero =>
    obtain ⟨o, rfl⟩ := Position.exists_finished hn
    exact ⟨rfl, hpeers⟩
  | succ n ih =>
    obtain ⟨hmatches, hnext⟩ := simulates_step (c := c) hprovides hready
    obtain ⟨hmatches', hnext'⟩ := simulates_step (c := c) hprovides' hready'
    rw [hway, hrequest] at hmatches'
    have hfresh' : ∀ n origin, w = .generate n origin → origin = .fresh := by
      rintro n origin rfl
      exact hfresh n origin rfl
    obtain ⟨hresult, hsessions⟩ := hmatches'.trans
      ((step_peers hfresh' hpeers p).trans hmatches.symm)
    rw [start_rest, start_rest]
    rcases hstep : w.step c r p s with ⟨a, t⟩
    rcases hstep' : w'.step c r' p s' with ⟨a', t'⟩
    rw [hstep, hstep'] at hresult hsessions
    obtain rfl : a' = a := hresult
    cases a' with
    | error e => exact ⟨rfl, hsessions⟩
    | ok q =>
      have hstage := stage_step (by omega) hstep
      exact ih (by omega) (hnext q t hstep) (hnext' q t' hstep') hsessions

/-- Provisioning ends alike, whether secrets are given or typed. -/
theorem Way.provision_agrees
    (hfresh : ∀ n origin, w.given x = .generate n origin → origin = .fresh)
    (hway : w'.given x = w.given x) (hrequest : r'.given x = r.given x)
    (hprovides : Provides w r x) (hprovides' : Provides w' r' x)
    (hready : Ready w r x rest .guard s) (hready' : Ready w' r' x rest' .guard s')
    (hpeers : Peers s s') :
    ((w'.provision c r').start s').1 = ((w.provision c r).start s).1 ∧
      Peers ((w.provision c r).start s).2 ((w'.provision c r').start s').2 :=
  rest_agrees hfresh hway hrequest hprovides hprovides' 8 rfl hready hready' hpeers

end Runs

end HdProvision.Provision
