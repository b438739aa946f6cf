import HdProvision.Proofs.Console.Exchange
import HdProvision.Proofs.Provision.Collecting

/-!
# How asking for a passphrase ends

Asking for a passphrase ends by what was typed alone: with the first passphrase that was confirmed in
time, with all attempts failed, or with the end of the input. For each end it is told which lines were
read and what was printed, to the last character.
-/

set_option autoImplicit false

namespace HdProvision.Session

/-- What a message prints when it is logged in a session. -/
def heard (s : Session) (level : Log.Level) (source message : String) : String :=
  (Log.Journal.note s.stamp level source (some message) s.journal).2

/-- From one session to another so many lines were read, and a text was printed. -/
structure Talks (s t : Session) (count : Nat) (text : String) : Prop where
  enough : count ≤ s.input.length
  input : t.input = s.input.drop count
  output : t.output = s.output ++ text

variable {s t : Session} {count : Nat} {text : String}

theorem Talks.noted (h : s.Talks t count text) (level : Log.Level) (source message : String) :
    s.Talks (t.noted level source message) count (text ++ t.heard level source message) := by
  refine ⟨h.enough, h.input, ?_⟩
  rw [← String.append_assoc, ← h.output]
  rfl

theorem Talks.printed (h : s.Talks t count text) (more : String) :
    s.Talks (t.printed more) count (text ++ more) := by
  refine ⟨h.enough, h.input, ?_⟩
  rw [← String.append_assoc, ← h.output]
  rfl

end HdProvision.Session

namespace HdProvision.Provision.Collect

open Console (AgreesFirst Differ Dialog Emitter PassphraseEnd asking cutShort lineText refusals)

variable {e : Emitter} {request : PassphraseRequest} {limit : Int} {s t : Session} {k m : Nat}
  {p : String} {r : Except Error String}

/-- What is printed until a passphrase was confirmed in exchange `k`. -/
def agreedText (e : Emitter) (request : PassphraseRequest) (k : Nat) (s : Session) : String :=
  e.said s.colors .white request.notice ++
    (refusals (request.confirmation e s.colors) k ++ asking (request.confirmation e s.colors)) ++
    s.heard .debug Emitter.source (confirmedNote (k + 1))

/-- What is printed when the confirmed passphrase is empty. -/
def emptyText (e : Emitter) (s : Session) : String :=
  e.said s.colors .yellow noPassphraseWarning ++ acknowledgeQuestion

theorem talks_asked {α : Type} {dialog : List String → Dialog α} {count : Nat}
    (s : Session) (notice : String) (henough : count ≤ s.input.length)
    (hrest : (dialog s.input).rest = s.input.drop count) :
    s.Talks (asked s notice dialog) count (notice ++ (dialog s.input).printed) := by
  refine ⟨henough, hrest, ?_⟩
  rw [← String.append_assoc]
  rfl

/-- A passphrase that was confirmed in time is taken, when the dialog for it was had. -/
theorem start_passphrase_of_agreesFirst (e : Emitter) (request : PassphraseRequest)
    (hfirst : AgreesFirst s.input k p) (hk : k < (max 1 limit).toNat) : ∃ u,
      (passphrase e request limit).start s = (accept e p).start u ∧
        s.Talks u (2 * k + 2) (agreedText e request k s) ∧ u.colors = s.colors := by
  obtain ⟨henough, hdialog⟩ := Console.passphrase_of_agreesFirst
    (c := request.confirmation e s.colors) hfirst hk
  have hrest := congrArg Dialog.rest hdialog
  have htalks := (talks_asked s (e.said s.colors .white request.notice) henough hrest).noted
    .debug Emitter.source (confirmedNote (k + 1))
  rw [congrArg Dialog.printed hdialog] at htalks
  refine ⟨_, ?_, htalks, rfl⟩
  rw [start_passphrase, show request.dialog e limit s.colors s.input = _ from hdialog]
  rfl

/-- The acknowledgement of an empty passphrase takes one line more. -/
theorem start_accept_empty {count : Nat} {text : String} {u : Session}
    (h : s.Talks u count text) (hcolors : u.colors = s.colors) :
    (s.input.length = count → ((accept e "").start u).1 = .error (.inputFailed .acknowledgement) ∧
      s.Talks ((accept e "").start u).2 count (text ++ emptyText e s)) ∧
    (∀ l, s.input[count]? = some l → ((accept e "").start u).1 = .ok "" ∧
      s.Talks ((accept e "").start u).2 (count + 1)
        (text ++ emptyText e s ++ (lineText l ++ "\n"))) := by
  have hwarned := h.printed (e.said u.colors .yellow noPassphraseWarning)
  rw [hcolors] at hwarned
  rw [start_accept, if_pos rfl, hcolors]
  constructor
  · intro hend
    have hnone : u.input = [] := by
      rw [h.input, ← hend, List.drop_length]
    refine ⟨if_pos hnone, h.enough, ?_, ?_⟩
    · rw [asked, Session.conversed, hnone, ← hend, List.drop_length]
      rfl
    · have hprinted : (asked u (e.said s.colors .yellow noPassphraseWarning)
          (Console.visible acknowledgeQuestion)).output =
          (u.printed (e.said s.colors .yellow noPassphraseWarning)).output ++
            acknowledgeQuestion := by
        rw [asked, Session.conversed, hnone]
        rfl
      rw [hprinted, hwarned.output, emptyText]
      simp only [String.append_assoc]
  · intro l hl
    obtain ⟨hlt, rfl⟩ := List.getElem?_eq_some_iff.mp hl
    have hcons : u.input = s.input[count] :: s.input.drop (count + 1) := by
      rw [h.input, List.drop_eq_getElem_cons hlt]
    refine ⟨if_neg (hcons ▸ List.cons_ne_nil _ _), hlt, ?_, ?_⟩
    · rw [asked, Session.conversed, hcons]
      rfl
    · have hprinted : (asked u (e.said s.colors .yellow noPassphraseWarning)
          (Console.visible acknowledgeQuestion)).output =
          (u.printed (e.said s.colors .yellow noPassphraseWarning)).output ++
            (acknowledgeQuestion ++ lineText s.input[count] ++ "\n") := by
        rw [asked, Session.conversed, hcons]
        rfl
      rw [hprinted, hwarned.output, emptyText]
      simp only [String.append_assoc]

/-- What is printed until `m` attempts have failed. -/
def exhaustedText (e : Emitter) (request : PassphraseRequest) (m : Nat) (s : Session) : String :=
  e.said s.colors .white request.notice ++
    (refusals (request.confirmation e s.colors) (m - 1) ++
      asking (request.confirmation e s.colors))

theorem start_passphrase_of_exhausted (e : Emitter) (request : PassphraseRequest)
    (hm : m = (max 1 limit).toNat) (hdiffer : Differ m s.input) :
    ((passphrase e request limit).start s).1 = .error (.retriesExhausted m) ∧
      s.Talks ((passphrase e request limit).start s).2 (2 * m) (exhaustedText e request m s) := by
  have hdialog := Console.passphrase_of_exhausted (c := request.confirmation e s.colors) hm hdiffer
  have htalks := talks_asked s (e.said s.colors .white request.notice) hdiffer.length_le
    (congrArg Dialog.rest hdialog)
  rw [congrArg Dialog.printed hdialog] at htalks
  rw [start_passphrase, show request.dialog e limit s.colors s.input = _ from hdialog]
  exact ⟨rfl, htalks⟩

/-- What is printed until the input ended. -/
def endedText (e : Emitter) (request : PassphraseRequest) (s : Session) : String :=
  e.said s.colors .white request.notice ++
    (refusals (request.confirmation e s.colors) (s.input.length / 2) ++
      (cutShort (request.confirmation e s.colors) (s.input.length % 2 = 0)).printed)

theorem start_passphrase_of_ended (e : Emitter) (request : PassphraseRequest)
    (hdiffer : Differ (s.input.length / 2) s.input)
    (hshort : s.input.length / 2 < (max 1 limit).toNat) :
    ((passphrase e request limit).start s).1 =
        .error (.inputFailed (if s.input.length % 2 = 0 then .passphrase else .confirmation)) ∧
      s.Talks ((passphrase e request limit).start s).2 s.input.length (endedText e request s) := by
  have hdialog : request.dialog e limit s.colors s.input = _ :=
    Console.passphrase_of_ended hdiffer hshort
  have hrest : (request.dialog e limit s.colors s.input).rest = s.input.drop s.input.length := by
    rw [List.drop_length, congrArg Dialog.rest hdialog]
    exact Console.cutShort_rest _ _
  have htalks := talks_asked s (e.said s.colors .white request.notice) (Nat.le_refl _) hrest
  rw [congrArg Dialog.printed hdialog] at htalks
  rw [start_passphrase, hdialog]
  by_cases heven : s.input.length % 2 = 0
  · simp only [cutShort, heven, Dialog.after, decide_true, if_true]
    exact ⟨trivial, htalks⟩
  · simp only [cutShort, heven, Dialog.after, decide_false, Bool.false_eq_true, if_false]
    exact ⟨trivial, htalks⟩

/-- How asking for a passphrase ends. The lines are taken by twos, and `m` is the number of attempts,
one at least. If the first two equal texts come in time, they are the passphrase, and an empty one
takes one line more; if `m` twos are there and all differ, the attempts are exhausted; else the input
ends at the question that is due. For each end it is told how many lines were read and what was
printed: that the texts differ is said once after each two of them that do, but not after the `m`-th. -/
theorem passphrase_exchange (hm : m = (max 1 limit).toNat)
    (hrun : (passphrase e request limit).start s = (r, t)) :
    (∀ k p, AgreesFirst s.input k p → k < m →
      (p ≠ "" → r = .ok p ∧ s.Talks t (2 * k + 2) (agreedText e request k s)) ∧
      (p = "" →
        (s.input.length = 2 * k + 2 → r = .error (.inputFailed .acknowledgement) ∧
          s.Talks t (2 * k + 2) (agreedText e request k s ++ emptyText e s)) ∧
        ∀ l, s.input[2 * k + 2]? = some l → r = .ok "" ∧
          s.Talks t (2 * k + 3)
            (agreedText e request k s ++ emptyText e s ++ (lineText l ++ "\n")))) ∧
    (Differ m s.input → r = .error (.retriesExhausted m) ∧
      s.Talks t (2 * m) (exhaustedText e request m s)) ∧
    ((∀ k p, AgreesFirst s.input k p → ¬ k < m) → ¬ Differ m s.input →
      r = .error (.inputFailed (if s.input.length % 2 = 0 then .passphrase else .confirmation)) ∧
        s.input.length / 2 < m ∧ s.Talks t s.input.length (endedText e request s)) := by
  refine ⟨fun k p hfirst hk => ?_, fun hdiffer => ?_, fun hagrees hdiffer => ?_⟩
  · obtain ⟨u, haccept, htalks, hcolors⟩ :=
      start_passphrase_of_agreesFirst e request hfirst (hm ▸ hk)
    rw [hrun] at haccept
    refine ⟨fun hp => ?_, fun hp => ?_⟩
    · rw [start_accept, if_neg hp] at haccept
      cases haccept
      exact ⟨rfl, htalks⟩
    · subst hp
      have hempty := start_accept_empty (e := e) htalks hcolors
      rwa [← haccept] at hempty
  · have hexhausted := start_passphrase_of_exhausted e request hm hdiffer
    rwa [hrun] at hexhausted
  · obtain ⟨hall, hshort⟩ := Console.differ_of_not hagrees hdiffer
    have hended := start_passphrase_of_ended e request hall (hm ▸ hshort)
    rw [hrun] at hended
    exact ⟨hended.1, hshort, hended.2⟩

/-- The second two of three texts typed are equal; the last line is not read. -/
theorem passphrase_exchange_second : ∃ r t,
    AgreesFirst (Session.bare ["a\n", "b\n", "c\n", "c\n", "d\n"]).input 1 "c" ∧
      (passphrase ⟨1⟩ newPassphrase maxAttempts).start
        (.bare ["a\n", "b\n", "c\n", "c\n", "d\n"]) = (r, t) ∧
      r = .ok "c" ∧ t.input = ["d\n"] := by
  have hexchanges : Console.exchanges ["a\n", "b\n", "c\n", "c\n", "d\n"] =
      [("a", "b"), ("c", "c")] := by decide
  have hfirst : AgreesFirst (Session.bare ["a\n", "b\n", "c\n", "c\n", "d\n"]).input 1 "c" := by
    refine ⟨congrArg (fun qs => qs[1]?) hexchanges, fun i hi => ?_⟩
    obtain rfl : i = 0 := Nat.lt_one_iff.mp hi
    exact ⟨("a", "b"), congrArg (fun qs => qs[0]?) hexchanges, by decide⟩
  obtain ⟨r, t, hrun⟩ : ∃ r t, (passphrase ⟨1⟩ newPassphrase maxAttempts).start
      (.bare ["a\n", "b\n", "c\n", "c\n", "d\n"]) = (r, t) := ⟨_, _, rfl⟩
  have hm : 3 = (max 1 maxAttempts).toNat := by decide
  obtain ⟨hagreed, -, -⟩ := passphrase_exchange hm hrun
  obtain ⟨hresult, htalks⟩ := (hagreed 1 "c" hfirst (by decide)).1 (by decide)
  exact ⟨r, t, hfirst, hrun, hresult, htalks.input⟩

end HdProvision.Provision.Collect
