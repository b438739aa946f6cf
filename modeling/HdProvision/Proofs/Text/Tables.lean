import HdProvision.Text.Table

/-!
# Looking into written tables

The lines of a table are literals. `spelled_cons` takes one literal after another for the list of its
characters, so that a fact about a table can be evaluated on lists of characters.
-/

set_option autoImplicit false

namespace HdProvision.Text.Table

theorem spelled_nil : ([] : List String) = ([] : List (List Char)).map String.ofList := rfl

theorem spelled_cons {lines : List String} {spelled : List (List Char)} (cs : List Char)
    (h : lines = spelled.map String.ofList) :
    String.ofList cs :: lines = (cs :: spelled).map String.ofList := by
  rw [h, List.map_cons]

theorem entries_spelled (spelled : List (List Char)) :
    entries (spelled.map String.ofList) = spelled.flatMap (entriesFrom 0 []) := by
  simp [entries, List.flatMap_map]

theorem lookup_pages (written : List (Nat × List String)) (k : Nat) :
    (pages written).lookup k = (written.lookup k).map entries := by
  induction written with
  | nil => rfl
  | cons page written ih =>
    rw [pages, List.map_cons, List.lookup_cons, List.lookup_cons]
    cases k == page.1
    · exact ih
    · rfl

/-- A table says nothing about the characters of a page that it does not have. -/
theorem find?_of_no_page {written : List (Nat × List String)} {c : Char}
    (h : written.lookup (c.toNat / 256) = none) : find? (pages written) c = none := by
  simp [find?, entriesOf, lookup_pages, h, after?]

theorem find?_of_page {written : List (Nat × List String)} {spelled : List (List Char)} {c : Char}
    (h : written.lookup (c.toNat / 256) = some (spelled.map String.ofList)) :
    find? (pages written) c =
      (after? c.toNat (spelled.flatMap (entriesFrom 0 []))).map fun codes => codes.map Char.ofNat := by
  simp [find?, entriesOf, lookup_pages, h, entries_spelled]

/-- A page whose lines are spelled out in a way that some check accepts. -/
def Page (written : List (Nat × List String)) (k : Nat) (check : List (List Nat) → Bool) : Prop :=
  ∃ spelled : List (List Char), written.lookup k = some (spelled.map String.ofList) ∧
    check (spelled.flatMap (entriesFrom 0 [])) = true

theorem page_of_spelled {written : List (Nat × List String)} {k : Nat}
    {check : List (List Nat) → Bool} {lines : List String} {spelled : List (List Char)}
    (h : written.lookup k = some lines) (hs : lines = spelled.map String.ofList)
    (hc : check (spelled.flatMap (entriesFrom 0 [])) = true) : Page written k check :=
  ⟨spelled, hs ▸ h, hc⟩

theorem Page.imp {written : List (Nat × List String)} {k : Nat} {p q : List (List Nat) → Bool}
    (h : Page written k p) (hpq : ∀ es, p es = true → q es = true) : Page written k q := by
  obtain ⟨spelled, hpage, hcheck⟩ := h
  exact ⟨spelled, hpage, hpq _ hcheck⟩

theorem Page.find?_eq {written : List (Nat × List String)} {k : Nat}
    {check : List (List Nat) → Bool} (h : Page written k check) :
    ∃ es, check es = true ∧ ∀ c : Char, c.toNat / 256 = k →
      find? (pages written) c = (after? c.toNat es).map fun codes => codes.map Char.ofNat := by
  obtain ⟨spelled, hpage, hcheck⟩ := h
  refine ⟨_, hcheck, fun c hc => ?_⟩
  subst hc
  exact find?_of_page hpage

/-- Entries that say nothing about some characters. -/
def silent (codes : List Nat) (es : List (List Nat)) : Bool :=
  codes.all fun n => after? n es = none

theorem Page.find?_of_silent {written : List (Nat × List String)} {k : Nat} {codes : List Nat}
    (h : Page written k (silent codes)) {c : Char} (hk : c.toNat / 256 = k)
    (hc : c.toNat ∈ codes) : find? (pages written) c = none := by
  obtain ⟨es, hsilent, hfind⟩ := h.find?_eq
  have := List.all_eq_true.mp hsilent _ hc
  rw [hfind c hk]
  simpa using this

/-- What is computed from the entries of lines that are spelled out holds of the lines. -/
theorem entries_of_spelled (check : List (List Nat) → Bool) {lines : List String}
    {spelled : List (List Char)} (hs : lines = spelled.map String.ofList)
    (hc : check (spelled.flatMap (entriesFrom 0 [])) = true) : check (entries lines) = true := by
  rw [hs, entries_spelled, hc]

/-- No range of a list holds a number that lies between two bounds. -/
def Misses (lo hi : Nat) (ranges : List (Nat × Nat × Nat)) : Bool :=
  ranges.all fun r => r.2.1 < lo || hi < r.1

theorem valueIn?_of_misses {lo hi n : Nat} {ranges : List (Nat × Nat × Nat)}
    (h : Misses lo hi ranges = true) (hlo : lo ≤ n) (hhi : n ≤ hi) : valueIn? n ranges = none := by
  induction ranges with
  | nil => rfl
  | cons r ranges ih =>
    obtain ⟨a, b, v⟩ := r
    simp only [Misses, List.all_cons, Bool.and_eq_true, Bool.or_eq_true, decide_eq_true_eq] at h
    rw [valueIn?]
    split
    · rfl
    · rw [if_neg (by omega)]
      exact ih h.2

/-- The range that an entry tells. -/
def rangeOf? : List Nat → Option (Nat × Nat × Nat)
  | [a, b] => some (a, b, 0)
  | [a, b, v] => some (a, b, v)
  | _ => none

theorem ranges_eq (lines : List String) : ranges lines = (entries lines).filterMap rangeOf? := rfl

theorem ranges_of_spelled {lines : List String} {check : List (Nat × Nat × Nat) → Bool}
    {spelled : List (List Char)} (hs : lines = spelled.map String.ofList)
    (hc : check ((spelled.flatMap (entriesFrom 0 [])).filterMap rangeOf?) = true) :
    check (ranges lines) = true :=
  entries_of_spelled (fun es => check (es.filterMap rangeOf?)) hs hc

end HdProvision.Text.Table
