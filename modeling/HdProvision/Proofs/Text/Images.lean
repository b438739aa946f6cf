import Mathlib.Data.Tree.Basic
import HdProvision.Proofs.Text.Tables

/-!
# Whole tables

A table takes a number to what its entry says, and a number without an entry to itself. What is to
hold of every entry is checked on the table with its lines spelled out. The entries of a page are put
into a search tree for that, and a table is checked to find all its entries so.
-/

set_option autoImplicit false

namespace HdProvision.Text.Table

variable {table : Pages} {n : Nat} {codes : List Nat}

/-- Reads entries by the recursor, which takes the kernel fewer steps than a recursion by patterns. -/
noncomputable def entriesBy (cs : List Char) : Nat → List Nat → List (List Nat) :=
  cs.rec (fun num entry => [(num :: entry).reverse]) fun c _ rest num entry =>
    bif Nat.beq c.toNat 44 then (num :: entry).reverse :: rest 0 []
    else bif Nat.beq c.toNat 32 then rest 0 (num :: entry)
    else rest (16 * num + digitValue c) entry

theorem natBeq_eq (m n : Nat) : Nat.beq m n = (m == n) := by
  rw [Bool.eq_iff_iff, Nat.beq_eq, beq_iff_eq]

theorem natBeq_toNat (c d : Char) : Nat.beq c.toNat d.toNat = (c == d) := by
  rw [natBeq_eq, Bool.eq_iff_iff, beq_iff_eq, beq_iff_eq, Char.toNat_inj]

theorem entriesBy_eq (cs : List Char) (num : Nat) (entry : List Nat) :
    entriesBy cs num entry = entriesFrom num entry cs := by
  induction cs generalizing num entry with
  | nil => rfl
  | cons c cs ih =>
    change (bif Nat.beq c.toNat ','.toNat then (num :: entry).reverse :: entriesBy cs 0 []
      else bif Nat.beq c.toNat ' '.toNat then entriesBy cs 0 (num :: entry)
      else entriesBy cs (16 * num + digitValue c) entry) = _
    rw [natBeq_toNat, natBeq_toNat, ih, ih, ih, entriesFrom]
    by_cases hcomma : c = ','
    · rw [if_pos hcomma, beq_iff_eq.mpr hcomma, cond_true]
    · rw [if_neg hcomma, beq_eq_false_iff_ne.mpr hcomma, cond_false]
      by_cases hspace : c = ' '
      · rw [if_pos hspace, beq_iff_eq.mpr hspace, cond_true]
      · rw [if_neg hspace, beq_eq_false_iff_ne.mpr hspace, cond_false]

/-- The entries of lines that are spelled out. -/
noncomputable def entriesIn (spelled : List (List Char)) : List (List Nat) :=
  spelled.flatMap fun cs => entriesBy cs 0 []

theorem entries_eq_entriesIn (spelled : List (List Char)) :
    entries (spelled.map String.ofList) = entriesIn spelled := by
  simp only [entriesIn, entriesBy_eq, entries_spelled]

/-- The pages of a table whose lines are spelled out. -/
abbrev Spelling := List (Nat × List (List Char))

namespace Spelling

def written (s : Spelling) : List (Nat × List String) :=
  s.map fun page => (page.1, page.2.map String.ofList)

noncomputable def read (s : Spelling) : Pages := s.map fun page => (page.1, entriesIn page.2)

theorem written_nil : [] = written [] := rfl

theorem written_cons {k : Nat} {lines : List String} {spelled : List (List Char)}
    {rest : List (Nat × List String)} {s : Spelling} (h : lines = spelled.map String.ofList)
    (hrest : rest = s.written) : (k, lines) :: rest = written ((k, spelled) :: s) := by
  rw [h, hrest]
  rfl

theorem pages_written (s : Spelling) : pages s.written = s.read := by
  simp [pages, written, read, entries_eq_entriesIn]

/-- What holds of tables that are spelled out holds of the tables. -/
theorem check {w₁ w₂ w₃ : List (Nat × List String)} {s₁ s₂ s₃ : Spelling} {lines : List String}
    {spelled : List (List Char)} (p : Pages → Pages → Pages → List (Nat × Nat × Nat) → Prop)
    (h₁ : w₁ = s₁.written) (h₂ : w₂ = s₂.written) (h₃ : w₃ = s₃.written)
    (hlines : lines = spelled.map String.ofList)
    (hp : p s₁.read s₂.read s₃.read ((entriesIn spelled).filterMap rangeOf?)) :
    p (pages w₁) (pages w₂) (pages w₃) (ranges lines) := by
  rw [h₁, h₂, h₃, hlines, pages_written, pages_written, pages_written, ranges_eq,
    entries_eq_entriesIn]
  exact hp

end Spelling

/-- What a table takes a number to. -/
def image (table : Pages) (n : Nat) : List Nat :=
  (after? n ((table.lookup (n / 256)).getD [])).getD [n]

/-- The table has an entry that takes the number to the codes. -/
def Entry (table : Pages) (n : Nat) (codes : List Nat) : Prop :=
  ∃ page ∈ table, n :: codes ∈ page.2

def keys (table : Pages) : List Nat := table.flatMap fun page => page.2.filterMap List.head?

theorem mem_of_after? {es : List (List Nat)} (h : after? n es = some codes) : n :: codes ∈ es := by
  induction es with
  | nil => cases h
  | cons e es ih =>
    cases e with
    | nil => exact List.mem_cons_of_mem _ (ih h)
    | cons m rest =>
      simp only [after?] at h
      split at h
      · next hm =>
        obtain ⟨rfl⟩ := h
        rw [hm]
        exact List.mem_cons_self
      · exact List.mem_cons_of_mem _ (ih h)

theorem not_mem_of_after? {es : List (List Nat)} (h : after? n es = none) (codes : List Nat) :
    n :: codes ∉ es := by
  induction es with
  | nil => exact List.not_mem_nil
  | cons e es ih =>
    cases e with
    | nil => exact List.not_mem_cons_of_ne_of_not_mem (List.cons_ne_nil n codes) (ih h)
    | cons m rest =>
      simp only [after?] at h
      split at h
      · cases h
      · next hm =>
        refine List.not_mem_cons_of_ne_of_not_mem (fun he => hm ?_) (ih h)
        exact (List.cons.inj he).1.symm

theorem mem_of_lookup {k : Nat} {es : List (List Nat)} (h : table.lookup k = some es) :
    (k, es) ∈ table := by
  induction table with
  | nil => cases h
  | cons page table ih =>
    rw [List.lookup_cons] at h
    split at h
    · next hk =>
      obtain ⟨rfl⟩ := h
      rw [beq_iff_eq.mp hk]
      exact List.mem_cons_self
    · exact List.mem_cons_of_mem _ (ih h)

/-- A number has an entry or goes to itself. -/
theorem entry_or_image_eq (table : Pages) (n : Nat) :
    Entry table n (image table n) ∨ image table n = [n] := by
  cases hafter : after? n ((table.lookup (n / 256)).getD []) with
  | none => exact .inr (by rw [image, hafter]; rfl)
  | some codes =>
    cases hpage : table.lookup (n / 256) with
    | none => simp [hpage, after?] at hafter
    | some es =>
      rw [image, hafter]
      rw [hpage] at hafter
      exact .inl ⟨_, mem_of_lookup hpage, mem_of_after? hafter⟩

theorem Entry.mem_keys (h : Entry table n codes) : n ∈ keys table := by
  obtain ⟨page, hpage, hentry⟩ := h
  exact List.mem_flatMap.mpr ⟨page, hpage, List.mem_filterMap.mpr ⟨_, hentry, rfl⟩⟩

theorem image_of_not_mem_keys (h : n ∉ keys table) : image table n = [n] :=
  (entry_or_image_eq table n).resolve_left fun he => h he.mem_keys

theorem image_of_no_page (h : table.lookup (n / 256) = none) : image table n = [n] := by
  simp [image, h, after?]

theorem find?_eq_image (table : Pages) (c : Char) :
    (find? table c).getD [c] = (image table c.toNat).map Char.ofNat := by
  rw [find?, entriesOf, image]
  cases after? c.toNat ((table.lookup (c.toNat / 256)).getD []) <;> simp

/-- A check of all entries. -/
def every (table : Pages) (check : Nat → List Nat → Bool) : Bool :=
  table.all fun page => page.2.all fun
    | [] => true
    | n :: codes => check n codes

theorem Entry.check {check : Nat → List Nat → Bool} (he : Entry table n codes)
    (h : every table check = true) : check n codes = true := by
  obtain ⟨page, hpage, hentry⟩ := he
  exact List.all_eq_true.mp (List.all_eq_true.mp h page hpage) _ hentry

/-- Numbers as the bits of one number. -/
def mask (ns : List Nat) : Nat := ns.foldl (fun m n => m ||| 1 <<< n) 0

theorem testBit_mask (ns : List Nat) (n : Nat) : (mask ns).testBit n = decide (n ∈ ns) := by
  suffices ∀ m : Nat, (ns.foldl (fun m n => m ||| 1 <<< n) m).testBit n =
      (m.testBit n || decide (n ∈ ns)) by simpa [mask] using this 0
  intro m
  induction ns generalizing m with
  | nil => simp
  | cons k ns ih =>
    rw [List.foldl_cons, ih, Nat.testBit_or, Nat.one_shiftLeft, Nat.testBit_two_pow]
    simp [Bool.or_assoc, eq_comm]

/-- A search tree of entries that are in order, and the entries that are too many for its depth. -/
def grow : Nat → List (List Nat) → BinaryTree (List Nat) × List (List Nat)
  | 0, es => (.nil, es)
  | depth + 1, es =>
    match grow depth es with
    | (left, []) => (left, [])
    | (left, e :: rest) => (.node e left (grow depth rest).1, (grow depth rest).2)

/-- What a tree says of a number, or the number if it says nothing. -/
noncomputable def search (n : Nat) (tree : BinaryTree (List Nat)) : List Nat :=
  tree.rec [n] fun e _ _ left right => e.rec [n] fun m codes _ =>
    bif Nat.beq n m then codes else bif Nat.blt n m then left else right

theorem grow_subset (depth : Nat) (es : List (List Nat)) : (grow depth es).2 ⊆ es := by
  induction depth generalizing es with
  | zero => exact List.Subset.refl es
  | succ depth ih =>
    have hleft := ih es
    rw [grow]
    split
    · exact List.nil_subset es
    · next left e rest hgrow =>
      rw [hgrow] at hleft
      exact List.Subset.trans (ih rest) (List.Subset.trans (List.subset_cons_self e rest) hleft)

/-- What a tree says of a number stands in an entry, in order or not. -/
theorem search_grow (n depth : Nat) (es : List (List Nat)) :
    search n (grow depth es).1 = [n] ∨ n :: search n (grow depth es).1 ∈ es := by
  induction depth generalizing es with
  | zero => exact .inl rfl
  | succ depth ih =>
    have hleft := ih es
    have hrest := grow_subset depth es
    rw [grow]
    split
    · next left hgrow =>
      rw [hgrow] at hleft
      exact hleft
    · next left e rest hgrow =>
      rw [hgrow] at hleft hrest
      cases e with
      | nil => exact .inl rfl
      | cons m codes =>
        change (bif Nat.beq n m then codes else bif Nat.blt n m then search n left else
            search n (grow depth rest).1) = [n] ∨
          n :: (bif Nat.beq n m then codes else bif Nat.blt n m then search n left else
            search n (grow depth rest).1) ∈ es
        cases hn : Nat.beq n m with
        | true =>
          rw [Nat.eq_of_beq_eq_true hn]
          exact .inr (hrest List.mem_cons_self)
        | false =>
          cases Nat.blt n m with
          | true => exact hleft
          | false => exact (ih rest).imp_right fun h => hrest (List.mem_cons_of_mem _ h)

/-- The tree of a page, which has at most 256 entries. -/
def pageTree (es : List (List Nat)) : BinaryTree (List Nat) := (grow 9 es).1

/-- The trees of a table, by page. -/
def trees (table : Pages) : List (Nat × BinaryTree (List Nat)) :=
  table.map fun page => (page.1, pageTree page.2)

noncomputable def treeOn (k : Nat) (planted : List (Nat × BinaryTree (List Nat))) :
    BinaryTree (List Nat) :=
  planted.rec .nil fun page _ rest => bif Nat.beq k page.1 then page.2 else rest

theorem treeOn_trees (k : Nat) (table : Pages) :
    treeOn k (trees table) = ((table.lookup k).map pageTree).getD .nil := by
  induction table with
  | nil => rfl
  | cons page table ih =>
    change (bif Nat.beq k page.1 then pageTree page.2 else treeOn k (trees table)) = _
    rw [List.lookup_cons, ih, natBeq_eq]
    cases k == page.1 <;> rfl

/-- Looks a number up in the tree of its page. -/
noncomputable def probe (planted : List (Nat × BinaryTree (List Nat))) (n : Nat) : List Nat :=
  search n (treeOn (n / 256) planted)

/-- Every entry is found in the tree of its page. -/
noncomputable def finds (table : Pages) : Bool :=
  table.all fun page => page.2.all fun
    | [] => true
    | n :: codes => search n (pageTree page.2) == codes

theorem probe_trees (h : finds table = true) : probe (trees table) = image table := by
  funext n
  rw [probe, treeOn_trees, image]
  cases hpage : table.lookup (n / 256) with
  | none => rfl
  | some es =>
    change search n (pageTree es) = (after? n es).getD [n]
    cases hafter : after? n es with
    | none => exact (search_grow n 9 es).resolve_right (not_mem_of_after? hafter _)
    | some codes =>
      have hes := List.all_eq_true.mp h _ (mem_of_lookup hpage)
      exact beq_iff_eq.mp (List.all_eq_true.mp hes _ (mem_of_after? hafter))

/-- None of the bits from one number to another is set. -/
def clear (m lo hi : Nat) : Bool := (m >>> lo) % 1 <<< (hi + 1 - lo) = 0

theorem testBit_of_clear {m lo hi : Nat} (h : clear m lo hi = true) (hlo : lo ≤ n) (hhi : n ≤ hi) :
    m.testBit n = false := by
  have hbit := Nat.testBit_mod_two_pow (m >>> lo) (hi + 1 - lo) (n - lo)
  rw [← Nat.one_shiftLeft, of_decide_eq_true h, Nat.zero_testBit, Nat.testBit_shiftRight,
    Nat.add_sub_cancel' hlo, decide_eq_true (show n - lo < hi + 1 - lo by omega),
    Bool.true_and] at hbit
  exact hbit.symm

theorem mem_of_valueIn? {ranges : List (Nat × Nat × Nat)} {v : Nat}
    (h : valueIn? n ranges = some v) : ∃ r ∈ ranges, r.1 ≤ n ∧ n ≤ r.2.1 := by
  induction ranges with
  | nil => cases h
  | cons r ranges ih =>
    obtain ⟨a, b, w⟩ := r
    rw [valueIn?] at h
    split at h
    · cases h
    · split at h
      · exact ⟨_, List.mem_cons_self, by omega, ‹_›⟩
      · obtain ⟨r, hr, hn⟩ := ih h
        exact ⟨r, List.mem_cons_of_mem _ hr, hn⟩

/-- Ranges that hold none of some numbers. -/
def avoid (ns : List Nat) (ranges : List (Nat × Nat × Nat)) : Bool :=
  let m := mask ns
  ranges.all fun r => clear m r.1 r.2.1

theorem valueIn?_of_avoid {ns : List Nat} {ranges : List (Nat × Nat × Nat)}
    (h : avoid ns ranges = true) (hn : n ∈ ns) : valueIn? n ranges = none := by
  cases hv : valueIn? n ranges with
  | none => rfl
  | some v =>
    obtain ⟨r, hr, hlo, hhi⟩ := mem_of_valueIn? hv
    have hclear := testBit_of_clear (List.all_eq_true.mp h r hr) hlo hhi
    simp [testBit_mask, hn] at hclear

end HdProvision.Text.Table
