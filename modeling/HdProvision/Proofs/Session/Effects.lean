import HdProvision.Console.Emitter
import HdProvision.Proofs.Session.Program

/-!
# What programs do to a session

The basic programs as functions of the session, and what they leave alone: printing, logging, reading
and drawing change nothing of the surroundings, neither the disk nor anything that was there before
the session.
-/

set_option autoImplicit false

namespace HdProvision.Session

variable {ε δ α β : Type}

/-- A session on an empty disk whose random octets are zero. -/
def bare (input : List String) : Session where
  randomAt := fun _ => 0
  drawn := 0
  stretcher := ⟨2, fun _ => none⟩
  euid := 1000
  environment := []
  stamp := ""
  input := input
  colors := false
  output := ""
  errors := ""
  journal := .initial
  disk := ⟨[], []⟩
  handedOver := []
  phraseRequests := []

/-- The session with some text printed. -/
def printed (s : Session) (text : String) : Session := { s with output := s.output ++ text }

/-- The session with its journal changed. -/
def recorded (s : Session) (change : Log.Journal → Log.Journal × String) : Session :=
  { s with journal := (change s.journal).1, output := s.output ++ (change s.journal).2 }

/-- The session with a message logged. -/
def noted (s : Session) (level : Log.Level) (source message : String) : Session :=
  s.recorded (Log.Journal.note s.stamp level source (some message))

/-- The session after a dialog. -/
def conversed (s : Session) (d : Console.Dialog α) : Session :=
  { s with input := d.rest, output := s.output ++ d.printed }

/-- The random octets that come next. -/
def upcoming (s : Session) (size : Nat) : Bytes :=
  (List.range size).map fun i => s.randomAt (s.drawn + i)

/-- The session after some random octets were drawn. -/
def withDrawn (s : Session) (size : Nat) : Session := { s with drawn := s.drawn + size }

theorem length_upcoming (s : Session) (size : Nat) : (s.upcoming size).length = size := by
  simp [upcoming]

theorem printed_empty (s : Session) : s.printed "" = s := by
  rw [printed, String.append_empty]

theorem start_draw (size : Nat) (s : Session) :
    (draw size : Program ε Bytes).start s = (.ok (s.upcoming size), s.withDrawn size) := rfl

theorem start_converse (dialog : List String → Console.Dialog α) (s : Session) :
    (converse dialog : Program ε α).start s =
      (.ok (dialog s.input).result, s.conversed (dialog s.input)) := rfl

theorem start_note (level : Log.Level) (source message : String) (s : Session) :
    (note level source message : Program ε Unit).start s =
      (.ok (), s.noted level source message) := rfl

/-- The second session has the surroundings of the first: it may have said, read and drawn more. The
lines that it has left are the last ones that the first had. -/
structure SameSurroundings (s t : Session) : Prop where
  disk : t.disk = s.disk
  stretcher : t.stretcher = s.stretcher
  environment : t.environment = s.environment
  euid : t.euid = s.euid
  stamp : t.stamp = s.stamp
  colors : t.colors = s.colors
  randomAt : t.randomAt = s.randomAt
  input : t.input <:+ s.input

namespace SameSurroundings

theorem refl (s : Session) : SameSurroundings s s :=
  ⟨rfl, rfl, rfl, rfl, rfl, rfl, rfl, List.suffix_refl _⟩

theorem trans {s t u : Session} (h : SameSurroundings s t) (h' : SameSurroundings t u) :
    SameSurroundings s u :=
  ⟨h'.disk.trans h.disk, h'.stretcher.trans h.stretcher, h'.environment.trans h.environment,
    h'.euid.trans h.euid, h'.stamp.trans h.stamp, h'.colors.trans h.colors,
    h'.randomAt.trans h.randomAt, h'.input.trans h.input⟩

theorem noted (s : Session) (level : Log.Level) (source message : String) :
    SameSurroundings s (s.noted level source message) :=
  ⟨rfl, rfl, rfl, rfl, rfl, rfl, rfl, List.suffix_refl _⟩

end SameSurroundings
end HdProvision.Session

namespace HdProvision.Program

open Session (SameSurroundings)

variable {ε δ α β : Type}

/-- The program leaves the surroundings of every session as they are. -/
def Leaves (p : Program ε α) : Prop := ∀ s, SameSurroundings s (p.start s).2

theorem leaves_pure (a : α) : Leaves (pure a : Program ε α) := fun s => .refl s

theorem leaves_throw (e : ε) : Leaves (throw e : Program ε α) := fun s => .refl s

theorem leaves_get : Leaves (get : Program ε Session) := fun s => .refl s

theorem leaves_ofExcept (r : Except ε α) : Leaves (ofExcept r) := fun s => .refl s

theorem Leaves.bind {p : Program ε α} {f : α → Program ε β} (hp : Leaves p)
    (hf : ∀ a, Leaves (f a)) : Leaves (p >>= f) := by
  intro s
  have h := hp s
  rw [start_bind]
  rcases hstart : p.start s with ⟨e | a, t⟩
  · rwa [hstart] at h
  · rw [hstart] at h
    exact h.trans (hf a t)

theorem Leaves.handle {p : Program ε α} {f : Except ε α → Program δ β} (hp : Leaves p)
    (hf : ∀ r, Leaves (f r)) : Leaves (p.handle f) :=
  fun s => (hp s).trans (hf _ _)

theorem Leaves.mapError {p : Program ε α} (hp : Leaves p) (f : ε → δ) :
    Leaves (p.mapError f) := by
  intro s
  rw [start_mapError]
  exact hp s

theorem leaves_print (text : String) : Leaves (Session.print text : Program ε Unit) :=
  fun _ => ⟨rfl, rfl, rfl, rfl, rfl, rfl, rfl, List.suffix_refl _⟩

theorem leaves_record (change : Log.Journal → Log.Journal × String) :
    Leaves (Session.record change : Program ε Unit) :=
  fun _ => ⟨rfl, rfl, rfl, rfl, rfl, rfl, rfl, List.suffix_refl _⟩

theorem leaves_draw (size : Nat) : Leaves (Session.draw size : Program ε Bytes) :=
  fun _ => ⟨rfl, rfl, rfl, rfl, rfl, rfl, rfl, List.suffix_refl _⟩

theorem leaves_converse {dialog : List String → Console.Dialog α}
    (h : ∀ ls, (dialog ls).rest <:+ ls) : Leaves (Session.converse dialog : Program ε α) :=
  fun s => ⟨rfl, rfl, rfl, rfl, rfl, rfl, rfl, h s.input⟩

theorem leaves_lookup (name : String) : Leaves (Session.lookup name : Program ε (Option String)) :=
  fun s => .refl s

theorem leaves_echo (cs : List Char) : Leaves (Session.echo cs : Program ε Unit) :=
  leaves_get.bind fun _ => leaves_print _

theorem leaves_note (level : Log.Level) (source message : String) :
    Leaves (Session.note level source message : Program ε Unit) :=
  leaves_get.bind fun _ => leaves_record _

end HdProvision.Program

namespace HdProvision.Console.Emitter

open Program (Leaves)

variable {ε : Type}

theorem leaves_styled (style : Style) (text : Option String) (newline : Bool) :
    Leaves (styled style text newline : Program ε Unit) :=
  Program.leaves_echo _

theorem leaves_echo (e : Emitter) (style : Style) (text : Option String) (newline : Bool)
    (needed : Int) : Leaves (e.echo style text newline needed : Program ε Unit) := by
  rw [echo]
  split
  · exact leaves_styled _ _ _
  · exact Program.leaves_pure _

theorem leaves_say (e : Emitter) (color : Color) (text : String) :
    Leaves (e.say color text : Program ε Unit) :=
  leaves_echo _ _ _ _ _

theorem leaves_message (e : Emitter) (style : Style) (text : Option String) (needed : Int) :
    Leaves (e.message style text needed : Program ε Unit) :=
  (leaves_echo _ _ _ _ _).bind fun _ => Program.leaves_get.bind fun _ => Program.leaves_record _

theorem leaves_note (level : Log.Level) (text : String) :
    Leaves (note level text : Program ε Unit) :=
  Program.leaves_note _ _ _

/-- What an echo prints. -/
def echoed (e : Emitter) (colors : Bool) (style : Style) (text : Option String) (newline : Bool)
    (needed : Int) : String :=
  if e.prints needed then
    String.ofList (shown colors (((text.map fun t => style.apply t.toList).getD []) ++ ending newline))
  else ""

theorem start_echo (e : Emitter) (style : Style) (text : Option String) (newline : Bool)
    (needed : Int) (s : Session) : (e.echo style text newline needed : Program ε Unit).start s =
      (.ok (), s.printed (e.echoed s.colors style text newline needed)) := by
  rw [echo, echoed]
  split
  · rfl
  · rw [Session.printed_empty, Program.start_pure]

theorem start_say (e : Emitter) (color : Color) (text : String) (s : Session) :
    (e.say color text : Program ε Unit).start s = (.ok (), s.printed (e.said s.colors color text)) :=
  start_echo e _ _ _ _ s

/-- The level at which a message is logged. -/
def messageLevel (needed : Int) : Log.Level := if 1 < needed then .debug else .info

theorem start_message (e : Emitter) (style : Style) (text : String) (needed : Int) (s : Session) :
    (e.message style (some text) needed : Program ε Unit).start s =
      (.ok (), (s.printed (e.echoed s.colors style (some text) true needed)).noted
        (messageLevel needed) source text) := by
  rw [message, Program.start_bind_of_ok (start_echo e style (some text) true needed s)]
  rfl

/-- What is printed of a secret. -/
def secretShown (colors : Bool) (color : Option Color) (text : String) : String :=
  String.ofList (shown colors (Style.apply ⟨color, none⟩ text.toList ++ ['\n']))

theorem start_secret (color : Option Color) (text : String) (s : Session) :
    (secret color (some text) true : Program ε Unit).start s =
      (.ok (), s.printed (secretShown s.colors color text)) := rfl

end HdProvision.Console.Emitter
