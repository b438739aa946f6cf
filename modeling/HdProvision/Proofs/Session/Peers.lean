import HdProvision.Proofs.Session.Effects

/-!
# Peers

Sessions that may differ in what was read and said so far, but in nothing that comes later. A program
that is blind to what was read and said does the same in both, and says the same in addition.
-/

set_option autoImplicit false

namespace HdProvision.Log

/-- Whether an observer prints events. -/
def Observer.prints (o : Observer) : Bool := decide (o.target = .console)

namespace Journal

/-- What observers print when those that print print a text. -/
def printedBy (text : String) : List Bool → String
  | [] => ""
  | prints :: rest => (if prints then text else "") ++ printedBy text rest

/-- What is printed of an event by an observer that prints. -/
def shown (threshold : Level) (stamp : String) (e : Event) : String :=
  if e.level.passes threshold then e.line stamp else ""

theorem printed_deliver (threshold : Level) (stamp : String) (e : Event) (o : Observer)
    (collected : List Event) (files : Files) :
    (deliver threshold stamp e o collected files).printed =
        (if o.prints then shown threshold stamp e else "") ∧
      (deliver threshold stamp e o collected files).observer.prints = o.prints := by
  obtain ⟨id, target⟩ := o
  cases target with
  | collector => exact ⟨rfl, rfl⟩
  | console => exact ⟨rfl, rfl⟩
  | text place => cases hpasses : e.level.passes threshold <;> simp [deliver, hpasses, Observer.prints]
  | json place => cases hpasses : e.level.passes threshold <;> simp [deliver, hpasses, Observer.prints]

theorem printed_deliverAll (threshold : Level) (stamp : String) (e : Event) (os : List Observer)
    (collected : List Event) (files : Files) :
    (deliverAll threshold stamp e os collected files).2.2.2 =
        printedBy (shown threshold stamp e) (os.map Observer.prints) ∧
      (deliverAll threshold stamp e os collected files).1.map Observer.prints =
        os.map Observer.prints := by
  induction os generalizing collected files with
  | nil => exact ⟨rfl, rfl⟩
  | cons o os ih =>
    obtain ⟨hprinted, hprints⟩ := printed_deliver threshold stamp e o collected files
    obtain ⟨hrest, hkept⟩ := ih (deliver threshold stamp e o collected files).collected
      (deliver threshold stamp e o collected files).files
    rw [deliverAll]
    refine ⟨?_, ?_⟩
    · rw [List.map_cons, printedBy, ← hprinted, ← hrest]
    · rw [List.map_cons, List.map_cons, hprints, hkept]

/-- The second journal passes and prints what the first does, whatever both have heard. -/
structure Hears (j j' : Journal) : Prop where
  threshold : j'.threshold = j.threshold
  printing : j'.observers.map Observer.prints = j.observers.map Observer.prints

variable {j j' : Journal}

theorem Hears.refl (j : Journal) : Hears j j := ⟨rfl, rfl⟩

theorem Hears.symm (h : Hears j j') : Hears j' j := ⟨h.threshold.symm, h.printing.symm⟩

theorem Hears.trans {j'' : Journal} (h : Hears j j') (h' : Hears j' j'') : Hears j j'' :=
  ⟨h'.threshold.trans h.threshold, h'.printing.trans h.printing⟩

/-- What is printed when a message is logged. -/
def notePrinted (stamp : String) (level : Level) (source : String) (message : Option String)
    (j : Journal) : String :=
  if level.passes j.threshold then
    printedBy (shown j.threshold stamp (Event.ofMessage level source message))
      (j.observers.map Observer.prints)
  else ""

theorem note_spec (stamp : String) (level : Level) (source : String) (message : Option String)
    (j : Journal) : (note stamp level source message j).2 =
        notePrinted stamp level source message j ∧
      Hears j (note stamp level source message j).1 := by
  rw [note, emit, notePrinted]
  split
  · obtain ⟨hprinted, hprints⟩ := printed_deliverAll j.threshold stamp
      (Event.ofMessage level source message) j.observers j.collected j.files
    exact ⟨hprinted, rfl, hprints⟩
  · exact ⟨rfl, .refl j⟩

theorem Hears.notePrinted_eq (h : Hears j j') (stamp : String) (level : Level) (source : String)
    (message : Option String) :
    notePrinted stamp level source message j' = notePrinted stamp level source message j := by
  rw [notePrinted, notePrinted, h.threshold, h.printing]

/-- Of a message the same is printed, and the journals go on alike. -/
theorem Hears.note (h : Hears j j') (stamp : String) (level : Level) (source : String)
    (message : Option String) :
    (Journal.note stamp level source message j').2 = (Journal.note stamp level source message j).2 ∧
      Hears (Journal.note stamp level source message j).1
        (Journal.note stamp level source message j').1 := by
  obtain ⟨hprinted, hkept⟩ := note_spec stamp level source message j
  obtain ⟨hprinted', hkept'⟩ := note_spec stamp level source message j'
  exact ⟨hprinted'.trans ((h.notePrinted_eq _ _ _ _).trans hprinted.symm),
    (hkept.symm.trans h).trans hkept'⟩

end Journal
end HdProvision.Log

namespace HdProvision.Session

/-- The second session is as the first, but for what was read and said so far. -/
structure Peers (s s' : Session) : Prop where
  randomAt : s'.randomAt = s.randomAt
  drawn : s'.drawn = s.drawn
  stretcher : s'.stretcher = s.stretcher
  euid : s'.euid = s.euid
  stamp : s'.stamp = s.stamp
  colors : s'.colors = s.colors
  errors : s'.errors = s.errors
  disk : s'.disk = s.disk
  handedOver : s'.handedOver = s.handedOver
  hears : s.journal.Hears s'.journal

namespace Peers

variable {s s' s'' : Session}

theorem refl (s : Session) : Peers s s :=
  ⟨rfl, rfl, rfl, rfl, rfl, rfl, rfl, rfl, rfl, .refl _⟩

theorem symm (h : Peers s s') : Peers s' s :=
  ⟨h.randomAt.symm, h.drawn.symm, h.stretcher.symm, h.euid.symm, h.stamp.symm, h.colors.symm,
    h.errors.symm, h.disk.symm, h.handedOver.symm, h.hears.symm⟩

theorem trans (h : Peers s s') (h' : Peers s' s'') : Peers s s'' :=
  ⟨h'.randomAt.trans h.randomAt, h'.drawn.trans h.drawn, h'.stretcher.trans h.stretcher,
    h'.euid.trans h.euid, h'.stamp.trans h.stamp, h'.colors.trans h.colors,
    h'.errors.trans h.errors, h'.disk.trans h.disk, h'.handedOver.trans h.handedOver,
    h.hears.trans h'.hears⟩

theorem printed (s : Session) (text : String) : Peers s (s.printed text) :=
  ⟨rfl, rfl, rfl, rfl, rfl, rfl, rfl, rfl, rfl, .refl _⟩

theorem noted (s : Session) (level : Log.Level) (source message : String) :
    Peers s (s.noted level source message) :=
  ⟨rfl, rfl, rfl, rfl, rfl, rfl, rfl, rfl, rfl, (Log.Journal.note_spec _ _ _ _ _).2⟩

theorem conversed {α : Type} (s : Session) (d : Console.Dialog α) : Peers s (s.conversed d) :=
  ⟨rfl, rfl, rfl, rfl, rfl, rfl, rfl, rfl, rfl, .refl _⟩

end Peers

/-- Peers that have said the same since each of them had said what is given here. -/
structure Alike (before before' : String) (s s' : Session) : Prop extends Peers s s' where
  said : ∃ text, s.output = before ++ text ∧ s'.output = before' ++ text

theorem Peers.alike {s s' : Session} (h : Peers s s') : Alike s.output s'.output s s' :=
  ⟨h, "", String.append_empty.symm, String.append_empty.symm⟩

variable {before before' : String} {s s' : Session}

theorem Alike.printed (h : Alike before before' s s') (text : String) :
    Alike before before' (s.printed text) (s'.printed text) := by
  obtain ⟨old, hold, hold'⟩ := h.said
  refine ⟨((Peers.printed s text).symm.trans h.toPeers).trans (.printed s' text), old ++ text, ?_, ?_⟩
  · rw [Session.printed, hold, String.append_assoc]
  · rw [Session.printed, hold', String.append_assoc]

theorem Alike.noted (h : Alike before before' s s') (level : Log.Level) (source message : String) :
    Alike before before' (s.noted level source message) (s'.noted level source message) := by
  obtain ⟨old, hold, hold'⟩ := h.said
  have hnote := h.hears.note s.stamp level source (some message)
  refine ⟨((Peers.noted s _ _ _).symm.trans h.toPeers).trans (.noted s' _ _ _),
    old ++ (Log.Journal.note s.stamp level source (some message) s.journal).2, ?_, ?_⟩
  · rw [← String.append_assoc, ← hold]
    rfl
  · rw [← String.append_assoc, ← hold', ← hnote.1, ← h.stamp]
    rfl

end HdProvision.Session

namespace HdProvision.Program

open Session (Alike Peers)

variable {ε δ α β : Type}

/-- The program does not look at what was read and said: it does and says the same in peers. -/
def Blind (p : Program ε α) : Prop := ∀ before before' s s', Alike before before' s s' →
  (p.start s').1 = (p.start s).1 ∧ Alike before before' (p.start s).2 (p.start s').2

theorem Blind.peers {p : Program ε α} (hp : Blind p) {s s' : Session} (h : Peers s s') :
    (p.start s').1 = (p.start s).1 ∧ Peers (p.start s).2 (p.start s').2 := by
  obtain ⟨hresult, halike⟩ := hp _ _ s s' h.alike
  exact ⟨hresult, halike.toPeers⟩

theorem blind_pure (a : α) : Blind (pure a : Program ε α) := fun _ _ _ _ h => ⟨rfl, h⟩

theorem blind_throw (e : ε) : Blind (throw e : Program ε α) := fun _ _ _ _ h => ⟨rfl, h⟩

theorem blind_ofExcept (r : Except ε α) : Blind (ofExcept r) := fun _ _ _ _ h => ⟨rfl, h⟩

theorem Blind.bind {p : Program ε α} {f : α → Program ε β} (hp : Blind p)
    (hf : ∀ a, Blind (f a)) : Blind (p >>= f) := by
  intro before before' s s' h
  obtain ⟨hresult, halike⟩ := hp before before' s s' h
  rw [start_bind, start_bind]
  rcases hs : p.start s with ⟨r, t⟩
  rcases hs' : p.start s' with ⟨r', t'⟩
  rw [hs, hs'] at hresult halike
  obtain rfl : r' = r := hresult
  cases r' with
  | error e => exact ⟨rfl, halike⟩
  | ok a => exact hf a before before' t t' halike

theorem Blind.handle {p : Program ε α} {f : Except ε α → Program δ β} (hp : Blind p)
    (hf : ∀ r, Blind (f r)) : Blind (p.handle f) := by
  intro before before' s s' h
  obtain ⟨hresult, halike⟩ := hp before before' s s' h
  rw [start_handle, start_handle, hresult]
  exact hf _ before before' _ _ halike

theorem Blind.mapError {p : Program ε α} (hp : Blind p) (f : ε → δ) : Blind (p.mapError f) := by
  intro before before' s s' h
  obtain ⟨hresult, halike⟩ := hp before before' s s' h
  rw [start_mapError, start_mapError, hresult]
  exact ⟨rfl, halike⟩

/-- A program may look at what peers have in common. -/
theorem blind_get {f : Session → Program ε α} (hsame : ∀ s s', Peers s s' → f s' = f s)
    (hf : ∀ s, Blind (f s)) : Blind (get >>= f) := by
  intro before before' s s' h
  rw [start_bind_of_ok (start_get s), start_bind_of_ok (start_get s'), hsame s s' h.toPeers]
  exact hf s before before' s s' h

theorem blind_print (text : String) : Blind (Session.print text : Program ε Unit) :=
  fun _ _ _ _ h => ⟨rfl, h.printed text⟩

theorem blind_printError (text : String) : Blind (Session.printError text : Program ε Unit) := by
  intro before before' s s' h
  refine ⟨rfl, ⟨h.randomAt, h.drawn, h.stretcher, h.euid, h.stamp, h.colors, ?_, h.disk,
    h.handedOver, h.hears⟩, h.said⟩
  exact congrArg (· ++ text) h.errors

theorem blind_echo (cs : List Char) : Blind (Session.echo cs : Program ε Unit) := by
  refine blind_get (fun s s' h => ?_) fun s => blind_print _
  rw [Session.displayed, Session.displayed, h.colors]

theorem blind_note (level : Log.Level) (source message : String) :
    Blind (Session.note level source message : Program ε Unit) :=
  fun _ _ _ _ h => ⟨rfl, h.noted level source message⟩

theorem blind_draw (size : Nat) : Blind (Session.draw size : Program ε Bytes) := by
  intro before before' s s' h
  rw [Session.start_draw, Session.start_draw]
  refine ⟨?_, ⟨h.randomAt, ?_, h.stretcher, h.euid, h.stamp, h.colors, h.errors, h.disk,
    h.handedOver, h.hears⟩, h.said⟩
  · rw [Session.upcoming, Session.upcoming, h.randomAt, h.drawn]
  · exact congrArg (· + size) h.drawn

theorem blind_sequence {ps : List (Program ε Unit)} (h : ∀ p ∈ ps, Blind p) :
    Blind (sequence ps) := by
  induction ps with
  | nil => exact blind_pure ()
  | cons p ps ih =>
    obtain ⟨hp, hps⟩ := List.forall_mem_cons.mp h
    exact hp.bind fun _ => ih hps

end HdProvision.Program

namespace HdProvision.Console.Emitter

open Program (Blind)

variable {ε : Type}

theorem blind_echo (e : Emitter) (style : Style) (text : Option String) (newline : Bool)
    (needed : Int) : Blind (e.echo style text newline needed : Program ε Unit) := by
  rw [echo]
  split
  · exact Program.blind_echo _
  · exact Program.blind_pure _

theorem blind_say (e : Emitter) (color : Color) (text : String) :
    Blind (e.say color text : Program ε Unit) :=
  blind_echo _ _ _ _ _

theorem blind_secret (color : Option Color) (text : Option String) (newline : Bool) :
    Blind (secret color text newline : Program ε Unit) :=
  Program.blind_echo _

theorem blind_message (e : Emitter) (style : Style) (text : String) (needed : Int) :
    Blind (e.message style (some text) needed : Program ε Unit) :=
  (blind_echo _ _ _ _ _).bind fun _ => Program.blind_note _ _ _

end HdProvision.Console.Emitter
