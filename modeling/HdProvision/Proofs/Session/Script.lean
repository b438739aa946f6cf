import HdProvision.Json.Writer
import HdProvision.Proofs.Session.Effects

/-!
# Scripts

What a run prints and logs, as a list of pieces that can be written down without its secrets. Where a
secret is printed a piece has a gap: it says which secret goes there, and what stands around it.
-/

set_option autoImplicit false

namespace HdProvision.Session

/-- The part of a session that leaves a run. -/
structure Voice where
  output : String
  errors : String
  journal : Log.Journal

def voice (s : Session) : Voice := ⟨s.output, s.errors, s.journal⟩

/-- A secret that a run prints. -/
inductive Gap
  | phrase
  | rejected
  deriving DecidableEq

/-- What the gaps are filled with: the phrase that was generated, the one that was rejected, and the
line that was typed to go on after a warning. -/
structure Filling where
  phrase : String
  rejected : String
  acknowledgement : String

/-- The text for a gap. -/
def Filling.text (f : Filling) : Gap → String
  | .phrase => f.phrase
  | .rejected => f.rejected

/-- Something that is printed or logged, or a change of the journal. -/
inductive Piece
  | print (text : String)
  | error (text : String)
  | journal (change : Log.Journal → Log.Journal)
  | note (level : Log.Level) (source message : String)
  /-- A styled line with a secret in it, which may be spelled as in JSON. -/
  | secret (gap : Gap) (style : Console.Style) (before : List Char) (escaped : Bool)
      (after : List Char)
  | acknowledgement

namespace Piece

/-- The secret that a piece prints. -/
def gap? : Piece → Option Gap
  | secret gap _ _ _ _ => some gap
  | _ => none

/-- Whether a piece goes into the journal. -/
def logs : Piece → Bool
  | journal _ => true
  | note _ _ _ => true
  | _ => false

end Piece

/-- A secret as it is spelled. -/
def spell (escaped : Bool) (text : String) : List Char :=
  if escaped then (Json.Units.ofString text).flatMap Json.Writer.unit else text.toList

/-- A styled line, as a console shows it. -/
def styledLine (colors : Bool) (style : Console.Style) (text : List Char) : String :=
  String.ofList (Console.shown colors (style.apply text ++ ['\n']))

namespace Voice

/-- The voice with some text printed. -/
def printed (v : Voice) (text : String) : Voice := { v with output := v.output ++ text }

/-- The voice after a piece. -/
def tell (stamp : String) (colors : Bool) (f : Filling) (v : Voice) : Piece → Voice
  | .print text => v.printed text
  | .error text => { v with errors := v.errors ++ text }
  | .journal change => { v with journal := change v.journal }
  | .note level source message =>
    { v with
      output := v.output ++ (Log.Journal.note stamp level source (some message) v.journal).2
      journal := (Log.Journal.note stamp level source (some message) v.journal).1 }
  | .secret gap style before escaped after =>
    v.printed (styledLine colors style (before ++ spell escaped (f.text gap) ++ after))
  | .acknowledgement => v.printed (f.acknowledgement ++ "\n")

/-- The voice after a script. -/
def tellAll (stamp : String) (colors : Bool) (f : Filling) (v : Voice) (ps : List Piece) : Voice :=
  ps.foldl (tell stamp colors f) v

variable {stamp : String} {colors : Bool} {f : Filling}

theorem tellAll_append (v : Voice) (ps qs : List Piece) :
    v.tellAll stamp colors f (ps ++ qs) =
      (v.tellAll stamp colors f ps).tellAll stamp colors f qs :=
  List.foldl_append

theorem output_tell (stamp : String) (colors : Bool) (f : Filling) (v : Voice) (p : Piece) :
    ∃ text, (v.tell stamp colors f p).output = v.output ++ text := by
  cases p with
  | error text => exact ⟨"", String.append_empty.symm⟩
  | journal change => exact ⟨"", String.append_empty.symm⟩
  | _ => exact ⟨_, rfl⟩

/-- A script takes nothing back that was printed. -/
theorem output_tellAll (stamp : String) (colors : Bool) (f : Filling) (v : Voice) (ps : List Piece) :
    ∃ text, (v.tellAll stamp colors f ps).output = v.output ++ text := by
  induction ps generalizing v with
  | nil => exact ⟨"", String.append_empty.symm⟩
  | cons p ps ih =>
    obtain ⟨first, hfirst⟩ := output_tell stamp colors f v p
    obtain ⟨rest, hrest⟩ := ih (v.tell stamp colors f p)
    exact ⟨first ++ rest, hrest.trans (by rw [hfirst, String.append_assoc])⟩

/-- The journal after a piece. -/
def journalAfter (stamp : String) (j : Log.Journal) : Piece → Log.Journal
  | .journal change => change j
  | .note level source message => (Log.Journal.note stamp level source (some message) j).1
  | _ => j

theorem journal_tell (v : Voice) (p : Piece) :
    (v.tell stamp colors f p).journal = journalAfter stamp v.journal p := by
  cases p <;> rfl

/-- The journal hears nothing but what is logged. -/
theorem journal_tellAll (v : Voice) (ps : List Piece) :
    (v.tellAll stamp colors f ps).journal =
      (ps.filter Piece.logs).foldl (journalAfter stamp) v.journal := by
  induction ps generalizing v with
  | nil => rfl
  | cons p ps ih =>
    have hrest := ih (v.tell stamp colors f p)
    rw [journal_tell] at hrest
    cases p <;> exact hrest

end Voice

/-- From one session to the next a script was told. -/
structure Says (f : Filling) (s t : Session) (ps : List Piece) : Prop where
  voice : t.voice = s.voice.tellAll s.stamp s.colors f ps
  stamp : t.stamp = s.stamp
  colors : t.colors = s.colors
  euid : t.euid = s.euid

namespace Says

variable {f : Filling} {s t u : Session} {ps qs : List Piece}

theorem refl (s : Session) : Says f s s [] := ⟨rfl, rfl, rfl, rfl⟩

theorem trans (h : Says f s t ps) (h' : Says f t u qs) : Says f s u (ps ++ qs) := by
  refine ⟨?_, h'.stamp.trans h.stamp, h'.colors.trans h.colors, h'.euid.trans h.euid⟩
  rw [h'.voice, h.voice, h.stamp, h.colors, Voice.tellAll_append]

theorem print (s : Session) (text : String) : Says f s (s.printed text) [.print text] :=
  ⟨rfl, rfl, rfl, rfl⟩

theorem note (s : Session) (level : Log.Level) (source message : String) :
    Says f s (s.noted level source message) [.note level source message] :=
  ⟨rfl, rfl, rfl, rfl⟩

theorem secret (s : Session) (gap : Gap) (style : Console.Style) (before : List Char)
    (escaped : Bool) (after : List Char) :
    Says f s (s.printed (styledLine s.colors style
      (before ++ spell escaped (f.text gap) ++ after))) [.secret gap style before escaped after] :=
  ⟨rfl, rfl, rfl, rfl⟩

/-- A composed program tells the script of its first part, and then a script that hangs on how it
ends. Nothing follows if the first part fails. -/
theorem bind {ε α β : Type} {p : Program ε α} {g : α → Program ε β} {q : Except ε β → List Piece}
    (hp : Says f s (p.start s).2 ps)
    (hok : ∀ a t, p.start s = (.ok a, t) →
      Says f t ((g a).start t).2 (q ((g a).start t).1))
    (herror : ∀ e t, p.start s = (.error e, t) → q (.error e) = []) :
    Says f s ((p >>= g).start s).2 (ps ++ q ((p >>= g).start s).1) := by
  rw [Program.start_bind]
  rcases hstart : p.start s with ⟨e | a, t⟩
  · rw [hstart] at hp
    rw [herror e t hstart, List.append_nil]
    exact hp
  · rw [hstart] at hp
    exact hp.trans (hok a t hstart)

/-- What was printed before stays in front. -/
theorem output (h : Says f s t ps) : ∃ text, t.output = s.output ++ text := by
  obtain ⟨text, htext⟩ := Voice.output_tellAll s.stamp s.colors f s.voice ps
  exact ⟨text, (congrArg Voice.output h.voice).trans htext⟩

end Says

/-- The secrets that a script prints, one after another. -/
def gaps (ps : List Piece) : List Gap := ps.filterMap Piece.gap?

theorem gaps_append (ps qs : List Piece) : gaps (ps ++ qs) = gaps ps ++ gaps qs :=
  List.filterMap_append

/-- Two scripts that print the same secrets and log the same. They are the same script when a pattern
is. -/
structure Twin (pattern : Prop) (secrets : List Gap) (ps ps' : List Piece) : Prop where
  gaps : gaps ps = secrets
  gaps' : Session.gaps ps' = secrets
  logs : ps'.filter Piece.logs = ps.filter Piece.logs
  same : pattern → ps' = ps

namespace Twin

variable {pattern : Prop} {xs ys : List Gap} {ps ps' qs qs' : List Piece}

theorem refl (ps : List Piece) : Twin pattern (Session.gaps ps) ps ps :=
  ⟨rfl, rfl, rfl, fun _ => rfl⟩

theorem append (h : Twin pattern xs ps ps') (h' : Twin pattern ys qs qs') :
    Twin pattern (xs ++ ys) (ps ++ qs) (ps' ++ qs') := by
  refine ⟨?_, ?_, ?_, fun hsame => ?_⟩
  · rw [gaps_append, h.gaps, h'.gaps]
  · rw [gaps_append, h.gaps', h'.gaps']
  · rw [List.filter_append, List.filter_append, h.logs, h'.logs]
  · rw [h.same hsame, h'.same hsame]

/-- What is printed behind a notice may be different if the pattern is. -/
theorem asked (notice : String) {text text' : String} (h : pattern → text' = text) :
    Twin pattern [] [.print notice, .print text] [.print notice, .print text'] :=
  ⟨rfl, rfl, rfl, fun hsame => by rw [h hsame]⟩

end Twin

/-- From two sessions to the next ones twin scripts were told. -/
def Twins (pattern : Prop) (secrets : List Gap) (f f' : Filling) (s s' t t' : Session) : Prop :=
  ∃ ps ps', Twin pattern secrets ps ps' ∧ Says f s t ps ∧ Says f' s' t' ps'

namespace Twins

variable {pattern : Prop} {xs ys : List Gap} {f f' : Filling} {s s' t t' u u' : Session}

theorem refl (s s' : Session) : Twins pattern [] f f' s s' s s' :=
  ⟨[], [], .refl [], .refl s, .refl s'⟩

theorem trans (h : Twins pattern xs f f' s s' t t') (h' : Twins pattern ys f f' t t' u u') :
    Twins pattern (xs ++ ys) f f' s s' u u' := by
  obtain ⟨ps, ps', htwin, hspoken, hspoken'⟩ := h
  obtain ⟨qs, qs', htwin', hnext, hnext'⟩ := h'
  exact ⟨ps ++ qs, ps' ++ qs', htwin.append htwin', hspoken.trans hnext, hspoken'.trans hnext'⟩

/-- Two runs that tell the same script. -/
theorem of_same {ps : List Piece} (h : Says f s t ps) (h' : Says f' s' t' ps) :
    Twins pattern (gaps ps) f f' s s' t t' :=
  ⟨ps, ps, .refl ps, h, h'⟩

/-- Twins that start with the same journal log the same. -/
theorem journal (h : Twins pattern xs f f' s s' t t') (hjournal : s'.journal = s.journal)
    (hstamp : s'.stamp = s.stamp) : t'.journal = t.journal := by
  obtain ⟨ps, ps', htwin, hspoken, hspoken'⟩ := h
  have hvoice := congrArg Voice.journal hspoken.voice
  have hvoice' := congrArg Voice.journal hspoken'.voice
  rw [Voice.journal_tellAll] at hvoice hvoice'
  refine hvoice'.trans (Eq.trans ?_ hvoice.symm)
  change (ps'.filter Piece.logs).foldl (Voice.journalAfter s'.stamp) s'.journal = _
  rw [htwin.logs, hstamp, hjournal]
  rfl

end Twins
end HdProvision.Session
