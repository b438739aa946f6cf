import HdProvision.Session.Basic

/-!
# Runs of programs

How a run of a composed program is made of runs of its parts, and relations between the session
before a run and the session after it that hold of a program when they hold of its parts.
-/

set_option autoImplicit false

namespace HdProvision.Program

variable {ε δ α β : Type}

@[simp] theorem start_pure (a : α) (s : Session) : (pure a : Program ε α).start s = (.ok a, s) := rfl

@[simp] theorem start_throw (e : ε) (s : Session) :
    (throw e : Program ε α).start s = (.error e, s) := rfl

@[simp] theorem start_get (s : Session) : (get : Program ε Session).start s = (.ok s, s) := rfl

@[simp] theorem start_set (t s : Session) : (set t : Program ε PUnit).start s = (.ok ⟨⟩, t) := rfl

@[simp] theorem start_modify (f : Session → Session) (s : Session) :
    (modify f : Program ε PUnit).start s = (.ok ⟨⟩, f s) := rfl

theorem start_bind (p : Program ε α) (f : α → Program ε β) (s : Session) :
    (p >>= f).start s = match p.start s with
      | (.ok a, t) => (f a).start t
      | (.error e, t) => (.error e, t) := by
  simp only [start, ExceptT.run_bind]
  change (match (p.run s).1 with
    | .ok a => (f a).run
    | .error e => pure (.error e)) (p.run s).2 = _
  rcases p.run s with ⟨_ | _, _⟩ <;> rfl

theorem start_bind_of_ok {p : Program ε α} {s t : Session} {a : α} (h : p.start s = (.ok a, t))
    (f : α → Program ε β) : (p >>= f).start s = (f a).start t := by
  rw [start_bind, h]

theorem start_bind_of_error {p : Program ε α} {s t : Session} {e : ε}
    (h : p.start s = (.error e, t)) (f : α → Program ε β) :
    (p >>= f).start s = (.error e, t) := by
  rw [start_bind, h]

/-- A composed program succeeds when both parts do. -/
theorem start_bind_ok {p : Program ε α} {f : α → Program ε β} {s u : Session} {b : β} :
    (p >>= f).start s = (.ok b, u) ↔
      ∃ a t, p.start s = (.ok a, t) ∧ (f a).start t = (.ok b, u) := by
  rw [start_bind]
  rcases p.start s with ⟨e | a, t⟩
  · simp
  · simp only [Prod.mk.injEq, Except.ok.injEq]
    constructor
    · intro h
      exact ⟨a, t, ⟨rfl, rfl⟩, h⟩
    · rintro ⟨_, _, ⟨rfl, rfl⟩, h⟩
      exact h

/-- A composed program fails in its first part or in its second one. -/
theorem start_bind_error {p : Program ε α} {f : α → Program ε β} {s u : Session} {e : ε} :
    (p >>= f).start s = (.error e, u) ↔
      p.start s = (.error e, u) ∨
        ∃ a t, p.start s = (.ok a, t) ∧ (f a).start t = (.error e, u) := by
  rw [start_bind]
  rcases p.start s with ⟨e' | a, t⟩
  · simp
  · simp only [Prod.mk.injEq, Except.ok.injEq, reduceCtorEq, false_and, false_or]
    constructor
    · intro h
      exact ⟨a, t, ⟨rfl, rfl⟩, h⟩
    · rintro ⟨_, _, ⟨rfl, rfl⟩, h⟩
      exact h

theorem start_mapError (f : ε → δ) (p : Program ε α) (s : Session) :
    (mapError f p).start s = ((p.start s).1.mapError f, (p.start s).2) := by
  rcases h : p.start s with ⟨_ | _, _⟩ <;>
    · change (match p.start s with
        | (r, t) => (r.mapError f, t)) = _
      rw [h]

theorem start_mapError_ok {f : ε → δ} {p : Program ε α} {s t : Session} {a : α} :
    (mapError f p).start s = (.ok a, t) ↔ p.start s = (.ok a, t) := by
  rw [start_mapError]
  rcases p.start s with ⟨e | a', t'⟩
  · constructor <;> nofun
  · constructor
    · intro h
      cases h
      rfl
    · intro h
      cases h
      rfl

theorem start_handle (p : Program ε α) (f : Except ε α → Program δ β) (s : Session) :
    (p.handle f).start s = (f (p.start s).1).start (p.start s).2 := rfl

end HdProvision.Program
