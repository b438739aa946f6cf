import Mathlib.Data.List.Basic
import HdProvision.Proofs.Console.Dialog

/-!
# Patterns of typed lines

Of lines whose answers are not shown only the pattern can be seen: which are empty and which are equal.
A dialog goes the same way on lines that stand for them, and it looks at no line that it does not read.
-/

set_option autoImplicit false

namespace HdProvision.Console

/-- A line that stands for a number. -/
def bar (n : Nat) : String := String.ofList (List.replicate n 'x')

/-- The number of a text among others: zero for the empty text, and else the place where the text comes
first. -/
def rank (texts : List String) (text : String) : Nat :=
  if text = "" then 0 else texts.idxOf text + 1

/-- The pattern of lines. -/
def pattern (ls : List String) : List Nat := ls.map fun l => rank (ls.map lineText) (lineText l)

/-- Lines of a pattern. -/
def standIns (ns : List Nat) : List String := ns.map bar

theorem bar_inj {m n : Nat} (h : bar m = bar n) : m = n := by
  have hlength := congrArg (fun s => s.toList.length) h
  simpa [bar] using hlength

theorem lineText_bar (n : Nat) : lineText (bar n) = bar n := by
  have hkept : (List.replicate n 'x').dropWhile (fun c => c = '\n' || c = '\r') =
      List.replicate n 'x' := by
    cases n with
    | zero => rfl
    | succ n => rfl
  rw [lineText, bar, String.toList_ofList, List.reverse_replicate, hkept, List.reverse_replicate]

/-- Texts put for other texts: the empty one for itself, and equal ones for equal ones only. -/
structure Stands (texts : List String) (σ : String → String) : Prop where
  line : ∀ text, lineText (σ text) = σ text
  empty : ∀ text, σ text = "" ↔ text = ""
  inj : ∀ text ∈ texts, ∀ other, σ text = σ other ↔ text = other

theorem stands_rank (texts : List String) : Stands texts fun text => bar (rank texts text) where
  line text := lineText_bar _
  empty text := by
    constructor
    · intro h
      have hzero : rank texts text = 0 := bar_inj h
      rw [rank] at hzero
      split at hzero
      · assumption
      · cases hzero
    · rintro rfl
      rfl
  inj text htext other := by
    constructor
    · intro h
      have hrank : rank texts text = rank texts other := bar_inj h
      rw [rank, rank] at hrank
      split at hrank
      · split at hrank
        · next hempty hempty' => rw [hempty, hempty']
        · cases hrank
      · split at hrank
        · cases hrank
        · exact (List.idxOf_inj htext).mp (Nat.succ.inj hrank)
    · rintro rfl
      rfl

variable {texts : List String} {σ : String → String} {rest behind : List String}

/-- The lines that stand for others. -/
def put (σ : String → String) (ls : List String) : List String := ls.map fun l => σ (lineText l)

theorem length_filled (prompt : String) (l : String) (ls : List String) :
    (filled prompt (l :: ls)).rest.length ≤ ls.length := by
  rw [filled]
  split
  · exact (rest_filled prompt ls).length_le
  · exact Nat.le_refl _

theorem filled_put (hσ : Stands texts σ) (prompt : String) {ls : List String}
    (h : (filled prompt (ls ++ behind)).rest = rest ++ behind) :
    filled prompt (put σ ls) =
      ⟨(filled prompt (ls ++ behind)).result.map σ, (filled prompt (ls ++ behind)).printed,
        put σ rest⟩ := by
  induction ls with
  | nil =>
    cases behind with
    | nil =>
      obtain rfl : rest = [] := by simpa [filled] using h.symm
      rfl
    | cons l ls =>
      have hlength := length_filled prompt l ls
      rw [List.nil_append] at h
      rw [h, List.length_append, List.length_cons] at hlength
      omega
  | cons l ls ih =>
    rw [List.cons_append, filled] at h
    rw [put, List.map_cons, filled, List.cons_append, filled, hσ.line]
    by_cases hempty : lineText l = ""
    · rw [if_pos hempty] at h
      rw [if_pos hempty, if_pos ((hσ.empty _).mpr hempty)]
      have hih := ih h
      rw [put] at hih
      rw [hih]
      rfl
    · rw [if_neg hempty] at h
      rw [if_neg hempty, if_neg fun heq => hempty ((hσ.empty _).mp heq)]
      obtain rfl := List.append_cancel_right h
      rfl

theorem length_twice (c : Confirmation) (typed : Option String) (l : String) (ls : List String) :
    (twice c typed (l :: ls)).rest.length ≤ ls.length := by
  cases typed with
  | none =>
    rw [twice]
    exact (rest_twice c _ ls).length_le
  | some p =>
    rw [twice]
    split
    · exact (rest_twice c _ ls).length_le
    · split
      · exact Nat.le_refl _
      · exact (rest_twice c _ ls).length_le

theorem twice_put (hσ : Stands texts σ) (c : Confirmation) (typed : Option String)
    {ls : List String} (hls : ∀ l ∈ ls, lineText l ∈ texts)
    (h : (twice c typed (ls ++ behind)).rest = rest ++ behind) :
    twice c (typed.map σ) (put σ ls) =
      ⟨(twice c typed (ls ++ behind)).result.map σ, (twice c typed (ls ++ behind)).printed,
        put σ rest⟩ := by
  induction ls generalizing typed with
  | nil =>
    cases behind with
    | nil =>
      obtain rfl : rest = [] := by simpa [twice] using h.symm
      simp [put, twice]
    | cons l ls =>
      -- a line behind would be read, and not all of them be left
      have hlength := length_twice c typed l ls
      rw [List.nil_append] at h
      rw [h, List.length_append, List.length_cons] at hlength
      omega
  | cons l ls ih =>
    obtain ⟨hl, hls⟩ := List.forall_mem_cons.mp hls
    have hrest : ∀ typed', (twice c typed' (ls ++ behind)).rest = rest ++ behind →
        twice c (typed'.map σ) (ls.map fun l => σ (lineText l)) =
          ⟨(twice c typed' (ls ++ behind)).result.map σ,
            (twice c typed' (ls ++ behind)).printed, put σ rest⟩ :=
      fun typed' h' => ih typed' hls h'
    cases typed with
    | none =>
      rw [List.cons_append, twice] at h
      rw [put, List.map_cons, Option.map_none, twice, List.cons_append, twice, hσ.line]
      by_cases hempty : lineText l = ""
      · rw [if_pos hempty] at h
        have hih := hrest none h
        rw [Option.map_none] at hih
        rw [if_pos hempty, if_pos ((hσ.empty _).mpr hempty), hih]
        rfl
      · rw [if_neg hempty] at h
        have hih := hrest (some (lineText l)) h
        rw [Option.map_some] at hih
        rw [if_neg hempty, if_neg fun heq => hempty ((hσ.empty _).mp heq), hih]
        rfl
    | some p =>
      rw [List.cons_append, twice] at h
      rw [put, List.map_cons, Option.map_some, twice, List.cons_append, twice, hσ.line]
      by_cases hempty : lineText l = ""
      · rw [if_pos hempty] at h
        have hih := hrest (some p) h
        rw [Option.map_some] at hih
        rw [if_pos hempty, if_pos ((hσ.empty _).mpr hempty), hih]
        rfl
      · rw [if_neg hempty] at h
        rw [if_neg hempty, if_neg fun heq => hempty ((hσ.empty _).mp heq)]
        -- What differs still differs when it is put differently.
        by_cases hsame : lineText l = p
        · rw [if_pos hsame] at h
          rw [if_pos hsame, if_pos ((hσ.inj _ hl p).mpr hsame)]
          obtain rfl := List.append_cancel_right h
          rfl
        · rw [if_neg hsame] at h
          have hih := hrest none h
          rw [Option.map_none] at hih
          rw [if_neg hsame, if_neg fun heq => hsame ((hσ.inj _ hl p).mp heq), hih]
          rfl

/-- An end of the exchange for a passphrase with another text for the passphrase. -/
def PassphraseEnd.map (σ : String → String) : PassphraseEnd → PassphraseEnd
  | .agreed p n => .agreed (σ p) n
  | .exhausted n => .exhausted n
  | .noPassphrase => .noPassphrase
  | .noConfirmation => .noConfirmation

theorem length_passphrase (c : Confirmation) (limit : Int) (attempts : Nat) (typed : Option String)
    (l : String) (ls : List String) :
    (passphrase c limit attempts typed (l :: ls)).rest.length ≤ ls.length := by
  cases typed with
  | none =>
    rw [passphrase]
    exact (rest_passphrase c limit _ _ ls).length_le
  | some p =>
    rw [passphrase]
    split
    · exact Nat.le_refl _
    · split
      · exact Nat.le_refl _
      · exact (rest_passphrase c limit _ _ ls).length_le

theorem passphrase_put (hσ : Stands texts σ) (c : Confirmation) (limit : Int) (attempts : Nat)
    (typed : Option String) {ls : List String} (hls : ∀ l ∈ ls, lineText l ∈ texts)
    (h : (passphrase c limit attempts typed (ls ++ behind)).rest = rest ++ behind) :
    passphrase c limit attempts (typed.map σ) (put σ ls) =
      ⟨(passphrase c limit attempts typed (ls ++ behind)).result.map σ,
        (passphrase c limit attempts typed (ls ++ behind)).printed, put σ rest⟩ := by
  -- on the lines that are put differently, with any count of attempts
  induction ls generalizing attempts typed with
  | nil =>
    cases behind with
    | nil =>
      have hnone : rest = [] := by
        rw [List.append_nil, passphrase] at h
        split at h <;> simpa using h.symm
      subst hnone
      cases typed <;> rfl
    | cons l ls =>
      have hlength := length_passphrase c limit attempts typed l ls
      rw [List.nil_append] at h
      rw [h, List.length_append, List.length_cons] at hlength
      omega
  | cons l ls ih =>
    obtain ⟨hl, hls⟩ := List.forall_mem_cons.mp hls
    have hrest : ∀ attempts' typed',
        (passphrase c limit attempts' typed' (ls ++ behind)).rest = rest ++ behind →
        passphrase c limit attempts' (typed'.map σ) (ls.map fun l => σ (lineText l)) =
          ⟨(passphrase c limit attempts' typed' (ls ++ behind)).result.map σ,
            (passphrase c limit attempts' typed' (ls ++ behind)).printed, put σ rest⟩ :=
      fun attempts' typed' h' => ih attempts' typed' hls h'
    cases typed with
    | none =>
      rw [List.cons_append, passphrase] at h
      have hih := hrest (attempts + 1) (some (lineText l)) h
      rw [Option.map_some] at hih
      rw [put, List.map_cons, Option.map_none, passphrase, List.cons_append, passphrase, hσ.line,
        hih]
      rfl
    | some p =>
      rw [List.cons_append, passphrase] at h
      rw [put, List.map_cons, Option.map_some, passphrase, List.cons_append, passphrase, hσ.line]
      by_cases hsame : lineText l = p
      · rw [if_pos hsame] at h
        rw [if_pos hsame, if_pos ((hσ.inj _ hl p).mpr hsame)]
        obtain rfl := List.append_cancel_right h
        rfl
      · rw [if_neg hsame] at h
        rw [if_neg hsame, if_neg fun heq => hsame ((hσ.inj _ hl p).mp heq)]
        by_cases hlimit : limit ≤ attempts
        · rw [if_pos hlimit] at h
          rw [if_pos hlimit, if_pos hlimit]
          obtain rfl := List.append_cancel_right h
          rfl
        · rw [if_neg hlimit] at h
          have hih := hrest attempts none h
          rw [Option.map_none] at hih
          rw [if_neg hlimit, if_neg hlimit, hih]
          rfl

end HdProvision.Console
