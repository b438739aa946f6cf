import HdProvision.Proofs.Session.Script

/-!
# Silent journals

A journal is silent when no observer shows events on the console. Whatever is logged then, nothing is
printed, and the journal stays silent.
-/

set_option autoImplicit false

namespace HdProvision.Log.Journal

/-- No observer shows events on the console. -/
def Silent (j : Journal) : Prop := ∀ o ∈ j.observers, o.target ≠ .console

variable {j : Journal} {kind : Kind}

theorem deliver_silent {o : Observer} (h : o.target ≠ .console) (t : Level) (stamp : String)
    (e : Event) (collected : List Event) (files : Files) :
    (deliver t stamp e o collected files).printed = "" ∧
      (deliver t stamp e o collected files).observer.target ≠ .console := by
  rw [deliver]
  split
  · exact ⟨rfl, h⟩
  · next hconsole => exact absurd hconsole h
  · split
    · exact ⟨rfl, nofun⟩
    · exact ⟨rfl, h⟩
  · split
    · exact ⟨rfl, nofun⟩
    · exact ⟨rfl, h⟩

theorem deliverAll_silent {os : List Observer} (h : ∀ o ∈ os, o.target ≠ .console) (t : Level)
    (stamp : String) (e : Event) (collected : List Event) (files : Files) :
    (deliverAll t stamp e os collected files).2.2.2 = "" ∧
      ∀ o ∈ (deliverAll t stamp e os collected files).1, o.target ≠ .console := by
  induction os generalizing collected files with
  | nil => exact ⟨rfl, nofun⟩
  | cons o os ih =>
    obtain ⟨ho, hos⟩ := List.forall_mem_cons.mp h
    obtain ⟨hprinted, hobserver⟩ := deliver_silent ho t stamp e collected files
    obtain ⟨hmore, hobservers⟩ := ih hos (deliver t stamp e o collected files).collected
      (deliver t stamp e o collected files).files
    rw [deliverAll]
    refine ⟨?_, List.forall_mem_cons.mpr ⟨hobserver, hobservers⟩⟩
    dsimp only
    rw [hprinted, hmore, String.append_empty]

theorem Silent.publish (h : j.Silent) (stamp : String) (e : Event) :
    (j.publish stamp e).2 = "" ∧ (j.publish stamp e).1.Silent :=
  deliverAll_silent h j.threshold stamp e j.collected j.files

theorem Silent.note (h : j.Silent) (stamp : String) (level : Level) (source : String)
    (message : Option String) :
    (Journal.note stamp level source message j).2 = "" ∧
      (Journal.note stamp level source message j).1.Silent := by
  rw [Journal.note, Journal.emit]
  split
  · exact h.publish stamp _
  · exact ⟨rfl, h⟩

theorem Silent.start (h : j.Silent) (hkind : kind ≠ .console) : (j.start kind).Silent := by
  rw [Journal.start]
  split
  · exact h
  · refine List.forall_mem_append.mpr ⟨h, List.forall_mem_singleton.mpr ?_⟩
    cases kind with
    | console => exact absurd rfl hkind
    | text => nofun
    | json => nofun

end HdProvision.Log.Journal

namespace HdProvision.Session

/-- Whether a piece of a script is a message for the log. -/
def Piece.isNote : Piece → Bool
  | .note _ _ _ => true
  | _ => false

/-- From one session to another a text was printed, and no log event. -/
structure Prints (s t : Session) (text : String) : Prop where
  silent : t.journal.Silent
  output : t.output = s.output ++ text

variable {f : Filling} {s t u : Session} {ps : List Piece} {text more : String}

theorem Prints.refl (h : s.journal.Silent) : Prints s s "" := ⟨h, String.append_empty.symm⟩

theorem Prints.print (h : s.journal.Silent) (text : String) : Prints s (s.printed text) text :=
  ⟨h, rfl⟩

theorem Prints.noted (h : s.journal.Silent) (level : Log.Level) (source message : String) :
    Prints s (s.noted level source message) "" := by
  obtain ⟨hprinted, hsilent⟩ := h.note s.stamp level source (some message)
  exact ⟨hsilent, congrArg (s.output ++ ·) hprinted⟩

theorem Prints.trans (h : Prints s t text) (h' : Prints t u more) : Prints s u (text ++ more) :=
  ⟨h'.silent, by rw [h'.output, h.output, String.append_assoc]⟩

/-- Messages print no secrets. -/
theorem gaps_of_isNote (hnotes : ps.all Piece.isNote = true) : gaps ps = [] := by
  refine List.filterMap_eq_nil_iff.mpr fun p hp => ?_
  have hnote := List.all_eq_true.mp hnotes p hp
  cases p with
  | note level source message => rfl
  | _ => cases hnote

/-- A script of messages for a silent journal prints nothing. -/
theorem Voice.tellAll_notes {stamp : String} {colors : Bool} {v : Voice}
    (hnotes : ps.all Piece.isNote = true) (h : v.journal.Silent) :
    (v.tellAll stamp colors f ps).journal.Silent ∧
      (v.tellAll stamp colors f ps).output = v.output := by
  induction ps generalizing v with
  | nil => exact ⟨h, rfl⟩
  | cons p ps ih =>
    rw [List.all_cons, Bool.and_eq_true] at hnotes
    obtain ⟨hp, hps⟩ := hnotes
    cases p with
    | note level source message =>
      obtain ⟨hprinted, hsilent⟩ := h.note stamp level source (some message)
      obtain ⟨hrest, houtput⟩ :=
        ih (v := v.tell stamp colors f (.note level source message)) hps hsilent
      refine ⟨hrest, houtput.trans ?_⟩
      change v.output ++ _ = v.output
      rw [hprinted, String.append_empty]
    | _ => cases hp

theorem Says.prints (h : Says f s t ps) (hnotes : ps.all Piece.isNote = true)
    (hsilent : s.journal.Silent) : Prints s t "" := by
  obtain ⟨hjournal, houtput⟩ := Voice.tellAll_notes (v := s.voice) hnotes hsilent
  rw [← h.voice] at hjournal houtput
  exact ⟨hjournal, houtput.trans String.append_empty.symm⟩

end HdProvision.Session
