import Mathlib.Data.List.Forall2
import HdProvision.Proofs.Text.Numeral
import HdProvision.Proofs.Text.Words
import HdProvision.Wallet.Identity

/-!
# Which texts are derivation paths

The grammar of paths, apart from the reader: a root, and behind it every component with a slash in
front. The reader takes exactly the texts that spell a path whose indices are in range. The range
ends one too far for soft children: the index 2 ^ 31 is taken, whose number belongs to the first
hardened child. Paths without this child are told apart by the numbers of their children.
-/

set_option autoImplicit false

namespace HdProvision.Wallet

open Text (split split_eq_cons_iff)

/-- A component of a path and the child that it names: an integer that is not negative, with a mark
behind it if the child is hardened. -/
inductive Component : List Char → Child → Prop
  | soft {digits : List Char} {index : Nat}
      (h : Text.Integer.ofChars? digits = some (index : Int)) : Component digits ⟨.soft, index⟩
  | hardened {digits : List Char} {index : Nat} {mark : Char} (hmark : mark = '\'' ∨ mark = 'H')
      (h : Text.Integer.ofChars? digits = some (index : Int)) :
      Component (digits ++ [mark]) ⟨.hardened, index⟩

/-- A text and the path that it spells: a root, and every component behind a slash. -/
def Spells (cs : List Char) (path : DerivationPath) : Prop :=
  ∃ root parts, (root = 'm' ∨ root = 'M') ∧ cs = root :: parts.flatMap ('/' :: ·) ∧
    List.Forall₂ Component parts path

/-- A part of a text between a slash and the next one, or the end. -/
def HasComponent (cs part : List Char) : Prop :=
  '/' ∉ part ∧ ∃ before behind, cs = before ++ '/' :: (part ++ behind) ∧
    (behind = [] ∨ behind.head? = some '/')

namespace Child

/-- A child whose index is below 2 ^ 31. -/
def Regular (c : Child) : Prop := c.index < hardenedOffset

/-- The soft child whose index is one too large. -/
def stray : Child := ⟨.soft, hardenedOffset⟩

/-- A child that a key can be derived for. -/
def Taken (c : Child) : Prop := c.Regular ∨ c = stray

theorem taken_iff {c : Child} : c.Taken ↔ c.index ≤ hardenedOffset ∧ c.childNumber < numberLimit := by
  obtain ⟨kind, index⟩ := c
  cases kind <;> simp [Taken, Regular, stray, childNumber, hardenedOffset, numberLimit] <;> omega

/-- Regular children have numbers of their own. -/
theorem eq_of_childNumber {c d : Child} (hc : c.Regular) (hd : d.Regular)
    (h : c.childNumber = d.childNumber) : c = d := by
  obtain ⟨kind, index⟩ := c
  obtain ⟨kind', index'⟩ := d
  simp only [Regular] at hc hd
  cases kind <;> cases kind' <;> simp [childNumber] at h ⊢ <;> omega

/-- So a path of regular children is told by their numbers. -/
theorem eq_of_childNumbers {path path' : DerivationPath} (h : ∀ child ∈ path, child.Regular)
    (h' : ∀ child ∈ path', child.Regular) (hnumbers : path.childNumbers = path'.childNumbers) :
    path = path' := by
  induction path generalizing path' with
  | nil => simpa [DerivationPath.childNumbers, eq_comm] using hnumbers
  | cons c path ih =>
    cases path' with
    | nil => simp [DerivationPath.childNumbers] at hnumbers
    | cons d path' =>
      obtain ⟨hc, hpath⟩ := List.forall_mem_cons.mp h
      obtain ⟨hd, hpath'⟩ := List.forall_mem_cons.mp h'
      obtain ⟨hfirst, hrest⟩ := List.cons.inj hnumbers
      rw [eq_of_childNumber hc hd hfirst, ih hpath hpath' hrest]

theorem mark_append {c : Char} (hc : c = '\'' ∨ c = 'H') (cs : List Char) :
    mark (cs ++ [c]) = (.hardened, cs) := by
  rcases hc with rfl | rfl <;> simp [mark]

theorem mark_cases (cs : List Char) : mark cs = (.soft, cs) ∨
    ∃ digits c, (c = '\'' ∨ c = 'H') ∧ cs = digits ++ [c] := by
  induction cs using List.reverseRecOn with
  | nil => exact Or.inl rfl
  | append_singleton digits c _ =>
    by_cases hc : c = '\'' ∨ c = 'H'
    · exact Or.inr ⟨digits, c, hc, rfl⟩
    · rw [not_or] at hc
      exact Or.inl (by simp [mark, hc])

/-- An integer text ends with no mark. -/
theorem mark_of_integer {cs : List Char} {n : Int} (h : Text.Integer.ofChars? cs = some n) :
    mark cs = (.soft, cs) := by
  rcases mark_cases cs with hsoft | ⟨digits, c, hc, rfl⟩
  · exact hsoft
  · have hlast := Text.Integer.writes_or_padding h c (by simp)
    rcases hc with rfl | rfl <;> exact absurd hlast (by decide)

end Child

/-- A component is read by its mark. -/
theorem component_iff {part : List Char} {child : Child} : Component part child ↔
    ∃ digits, Child.mark part = (child.kind, digits) ∧
      Text.Integer.ofChars? digits = some (child.index : Int) := by
  constructor
  · rintro (h | ⟨hmark, h⟩)
    · exact ⟨_, Child.mark_of_integer h, h⟩
    · exact ⟨_, Child.mark_append hmark _, h⟩
  · rintro ⟨digits, hmark, h⟩
    obtain ⟨kind, index⟩ := child
    rcases Child.mark_cases part with hsoft | ⟨front, c, hc, rfl⟩
    · rw [hsoft] at hmark
      cases hmark
      exact .soft h
    · rw [Child.mark_append hc] at hmark
      cases hmark
      exact .hardened hc h

theorem Component.unique {part : List Char} {c d : Child} (hc : Component part c)
    (hd : Component part d) : c = d := by
  obtain ⟨digits, hmark, h⟩ := component_iff.mp hc
  obtain ⟨digits', hmark', h'⟩ := component_iff.mp hd
  rw [hmark] at hmark'
  obtain ⟨hkind, rfl⟩ := Prod.mk.inj hmark'
  rw [h, Option.some_inj, Int.natCast_inj] at h'
  cases c
  cases d
  simp_all

/-- What names a child holds nothing but what integers and the marks of hardened children do. -/
theorem Component.mem {part : List Char} {child : Child} (h : Component part child) :
    ∀ c ∈ part, Text.Integer.Writes c ∨ Text.Integer.isPadding c = true ∨ c = '\'' ∨ c = 'H' := by
  intro c hc
  cases h with
  | soft h => exact (Text.Integer.writes_or_padding h c hc).imp_right .inl
  | hardened hmark h =>
    rcases List.mem_append.mp hc with hdigits | hlast
    · exact (Text.Integer.writes_or_padding h c hdigits).imp_right .inl
    · exact .inr (.inr (List.mem_singleton.mp hlast ▸ hmark))

theorem Component.slash_not_mem {part : List Char} {child : Child} (h : Component part child) :
    '/' ∉ part := fun hmem => absurd (h.mem '/' hmem) (by decide)

/-- A component is taken when it names a child whose index is not above 2 ^ 31. -/
theorem Child.ofChars_eq_ok_iff {part : List Char} {child : Child} :
    ofChars part = .ok child ↔ Component part child ∧ child.index ≤ hardenedOffset := by
  rw [component_iff, ofChars]
  by_cases hpart : part = []
  · simp [hpart, mark, show Text.Integer.ofChars? [] = none from rfl]
  · rw [if_neg hpart]
    rcases mark part with ⟨kind, digits⟩
    dsimp only
    cases hn : Text.Integer.ofChars? digits with
    | none => simp_all
    | some n =>
      obtain ⟨kind', index⟩ := child
      by_cases hrange : n < 0 ∨ (hardenedOffset : Int) < n
      · have hout : n = index → hardenedOffset < index := by omega
        simp_all
      · have hlow : ¬ n < 0 := fun h => hrange (Or.inl h)
        have hhigh : ¬ (hardenedOffset : Int) < n := fun h => hrange (Or.inr h)
        have hindex : n.toNat = index ↔ n = index ∧ index ≤ hardenedOffset := by omega
        simp [hn, hlow, hhigh, hindex, and_assoc]

theorem DerivationPath.ofComponents_eq_ok_iff {parts : List (List Char)} {path : DerivationPath} :
    ofComponents parts = .ok path ↔
      List.Forall₂ Component parts path ∧ ∀ child ∈ path, child.index ≤ hardenedOffset := by
  induction parts generalizing path with
  | nil => cases path <;> simp [ofComponents]
  | cons part parts ih =>
    have hcons : ofComponents (part :: parts) = .ok path ↔ ∃ child rest,
        Child.ofChars part = .ok child ∧ ofComponents parts = .ok rest ∧ path = child :: rest := by
      rw [ofComponents]
      cases Child.ofChars part <;> cases ofComponents parts <;> simp [Except.map, eq_comm]
    rw [hcons, List.forall₂_cons_left_iff]
    simp only [ih, Child.ofChars_eq_ok_iff]
    constructor
    · rintro ⟨child, rest, ⟨hchild, hindex⟩, ⟨hrest, hindices⟩, rfl⟩
      exact ⟨⟨child, rest, hchild, hrest, rfl⟩, List.forall_mem_cons.mpr ⟨hindex, hindices⟩⟩
    · rintro ⟨⟨child, rest, hchild, hrest, rfl⟩, hall⟩
      obtain ⟨hindex, hindices⟩ := List.forall_mem_cons.mp hall
      exact ⟨child, rest, ⟨hchild, hindex⟩, ⟨hrest, hindices⟩, rfl⟩

/-- Every part of a path names one of its children. -/
theorem exists_component {parts : List (List Char)} {path : DerivationPath}
    (h : List.Forall₂ Component parts path) :
    ∀ part ∈ parts, ∃ child ∈ path, Component part child := by
  induction h with
  | nil => simp
  | @cons part child parts path hpart _ ih =>
    intro other hother
    rcases List.mem_cons.mp hother with rfl | hmem
    · exact ⟨child, List.mem_cons_self, hpart⟩
    · obtain ⟨d, hd, hcomponent⟩ := ih other hmem
      exact ⟨d, List.mem_cons_of_mem child hd, hcomponent⟩

/-- What spells a path holds nothing but its root, slashes and what names children. -/
theorem Spells.mem {cs : List Char} {path : DerivationPath} (h : Spells cs path) :
    ∀ c ∈ cs, c = 'm' ∨ c = 'M' ∨ c = '/' ∨ Text.Integer.Writes c ∨
      Text.Integer.isPadding c = true ∨ c = '\'' ∨ c = 'H' := by
  obtain ⟨root, parts, hroot, rfl, hparts⟩ := h
  intro c hc
  rcases List.mem_cons.mp hc with rfl | hc
  · rcases hroot with rfl | rfl
    · exact .inl rfl
    · exact .inr (.inl rfl)
  · obtain ⟨part, hpart, hc⟩ := List.mem_flatMap.mp hc
    obtain ⟨child, -, hcomponent⟩ := exists_component hparts part hpart
    rcases List.mem_cons.mp hc with rfl | hc
    · exact .inr (.inr (.inl rfl))
    · exact .inr (.inr (.inr (hcomponent.mem c hc)))

theorem Spells.parts {cs : List Char} {path : DerivationPath} (h : Spells cs path) :
    ∃ root parts, (root = 'm' ∨ root = 'M') ∧ split '/' cs = [root] :: parts ∧
      List.Forall₂ Component parts path := by
  obtain ⟨root, parts, hroot, rfl, hparts⟩ := h
  refine ⟨root, parts, hroot, ?_, hparts⟩
  have hslash : '/' ∉ [root] := by rcases hroot with rfl | rfl <;> decide
  have hslashes : ∀ part ∈ parts, '/' ∉ part := by
    intro part hpart
    obtain ⟨child, -, hcomponent⟩ := exists_component hparts part hpart
    exact hcomponent.slash_not_mem
  exact split_eq_cons_iff.mpr ⟨rfl, hslash, hslashes⟩

/-- What stands between two slashes, or behind the last one, is one of the parts. -/
theorem HasComponent.mem {cs root part : List Char} {parts : List (List Char)}
    (h : HasComponent cs part) (hsplit : split '/' cs = root :: parts) : part ∈ parts := by
  obtain ⟨hslash, before, behind, rfl, hbehind⟩ := h
  obtain ⟨rest, hrest⟩ : ∃ rest, split '/' (part ++ behind) = part :: rest := by
    rcases behind with - | ⟨c, behind⟩
    · exact ⟨[], by rw [List.append_nil, Text.split_of_not_mem hslash]⟩
    · obtain rfl : c = '/' := by simpa using hbehind
      exact ⟨_, Text.split_append_cons behind hslash⟩
  obtain ⟨front, others, hfront⟩ := Text.exists_split '/' before
  rw [Text.split_append_sep, hfront, hrest, List.cons_append] at hsplit
  obtain ⟨-, rfl⟩ := List.cons.inj hsplit
  simp

/-- Every component of a text that spells a path names a child of the path. -/
theorem Spells.component {cs part : List Char} {path : DerivationPath} (h : Spells cs path)
    (hpart : HasComponent cs part) : ∃ child ∈ path, Component part child := by
  obtain ⟨root, parts, -, hsplit, hparts⟩ := h.parts
  exact exists_component hparts part (hpart.mem hsplit)

/-- A text spells one path at most. -/
theorem Spells.unique {cs : List Char} {path path' : DerivationPath} (h : Spells cs path)
    (h' : Spells cs path') : path = path' := by
  obtain ⟨root, parts, -, hsplit, hparts⟩ := h.parts
  obtain ⟨root', parts', -, hsplit', hparts'⟩ := h'.parts
  rw [hsplit] at hsplit'
  obtain ⟨-, rfl⟩ := List.cons.inj hsplit'
  exact List.right_unique_forall₂' (fun _ _ _ hc hd => hc.unique hd) hparts hparts'

/-- A text is taken when it spells a path whose indices are not above 2 ^ 31. -/
theorem DerivationPath.ofChars_eq_ok_iff {cs : List Char} {path : DerivationPath} :
    ofChars cs = .ok path ↔ Spells cs path ∧ ∀ child ∈ path, child.index ≤ hardenedOffset := by
  have hread : ofChars cs = .ok path ↔ ∃ root parts, (root = 'm' ∨ root = 'M') ∧
      split '/' cs = [root] :: parts ∧ ofComponents parts = .ok path := by
    rw [ofChars]
    by_cases hcs : cs = []
    · simp [hcs, split, Text.splitFrom]
    · rw [if_neg hcs]
      rcases split '/' cs with - | ⟨first, parts⟩
      · simp
      · by_cases hroot : first = ['m'] ∨ first = ['M']
        · rcases hroot with rfl | rfl <;> simp
        · rw [not_or] at hroot
          simp [hroot]
  rw [hread]
  simp only [ofComponents_eq_ok_iff]
  constructor
  · rintro ⟨root, parts, hroot, hsplit, hparts, hindices⟩
    obtain ⟨hcs, -, -⟩ := split_eq_cons_iff.mp hsplit
    exact ⟨⟨root, parts, hroot, hcs, hparts⟩, hindices⟩
  · rintro ⟨hspells, hindices⟩
    obtain ⟨root, parts, hroot, hsplit, hparts⟩ := hspells.parts
    exact ⟨root, parts, hroot, hsplit, hparts, hindices⟩

end HdProvision.Wallet
