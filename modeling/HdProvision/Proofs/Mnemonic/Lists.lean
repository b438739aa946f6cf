import Mathlib.Data.List.Nodup
import HdProvision.Mnemonic.WordList
import HdProvision.Proofs.Text.Inert
import HdProvision.Proofs.Text.Words

/-!
# What the word lists have in common

Every list has 2048 different words. A word is made of letters with at most one mark behind each, so
that it is its own decomposed form and no white space cuts it.
-/

set_option autoImplicit false
set_option maxRecDepth 4000

namespace HdProvision.Mnemonic

open Text (isLetter isMark isBlank IsWord)

namespace Lists

/-- Letters with at most one mark behind each; `marked` tells that no mark may come first. -/
def isPlainFrom (marked : Bool) : List Char → Bool
  | [] => true
  | c :: cs =>
    if isMark c then !marked && isPlainFrom true cs
    else isLetter c && isPlainFrom false cs

/-- A word of letters and marks. -/
def isPlain (cs : List Char) : Bool := !cs.isEmpty && isPlainFrom true cs

/-- A number for a word. -/
def key (cs : List Char) : Nat := cs.foldl (fun n c => 0x110000 * n + c.toNat) 1

/-- Whether every number falls into a slot of its own; the bits of `taken` are the slots taken. -/
def spreadFrom (slots taken : Nat) : List Nat → Bool
  | [] => true
  | n :: ns => !taken.testBit (n % slots) && spreadFrom slots (taken ||| 1 <<< (n % slots)) ns

/-- Whether words are plain and different, and as many as a list has. -/
def isRegular (slots : Nat) (ws : List (List Char)) : Bool :=
  ws.length == size && ws.all isPlain && spreadFrom slots 0 (ws.map key)

theorem testBit_take (taken r s : Nat) :
    (taken ||| 1 <<< r).testBit s = (taken.testBit s || decide (r = s)) := by
  rw [Nat.testBit_or, Nat.one_shiftLeft, Nat.testBit_two_pow]

theorem spread_of_spreadFrom {slots taken : Nat} {ns : List Nat}
    (h : spreadFrom slots taken ns = true) :
    (∀ n ∈ ns, taken.testBit (n % slots) = false) ∧ ns.Nodup := by
  induction ns generalizing taken with
  | nil => simp
  | cons n ns ih =>
    simp only [spreadFrom, Bool.and_eq_true, Bool.not_eq_true'] at h
    obtain ⟨hfree, hrest⟩ := ih h.2
    simp only [testBit_take, Bool.or_eq_false_iff, decide_eq_false_iff_not] at hfree
    refine ⟨List.forall_mem_cons.mpr ⟨h.1, fun m hm => (hfree m hm).1⟩, ?_⟩
    refine List.nodup_cons.mpr ⟨fun hn => ?_, hrest⟩
    exact (hfree n hn).2 rfl

theorem isPlainFrom_cons {marked : Bool} {c : Char} {cs : List Char}
    (h : isPlainFrom marked (c :: cs) = true) :
    (isMark c = true ∧ marked = false ∧ isPlainFrom true cs = true) ∨
      (isLetter c = true ∧ isPlainFrom false cs = true) := by
  rw [isPlainFrom] at h
  split at h
  · next hm =>
    simp only [Bool.and_eq_true, Bool.not_eq_true'] at h
    exact Or.inl ⟨hm, h⟩
  · simp only [Bool.and_eq_true] at h
    exact Or.inr h

theorem letter_or_mark {cs : List Char} {marked : Bool} (h : isPlainFrom marked cs = true) :
    ∀ c ∈ cs, isLetter c = true ∨ isMark c = true := by
  induction cs generalizing marked with
  | nil => simp
  | cons c cs ih =>
    rcases isPlainFrom_cons h with ⟨hm, -, hrest⟩ | ⟨hl, hrest⟩
    · exact List.forall_mem_cons.mpr ⟨Or.inr hm, ih hrest⟩
    · exact List.forall_mem_cons.mpr ⟨Or.inl hl, ih hrest⟩

/-- Of two neighbours at most one is a mark. -/
theorem isChain_class {cs : List Char} {marked : Bool} (h : isPlainFrom marked cs = true) :
    cs.IsChain fun c d => Text.combiningClass c = 0 ∨ Text.combiningClass d = 0 := by
  induction cs generalizing marked with
  | nil => exact List.IsChain.nil
  | cons c cs ih =>
    cases cs with
    | nil => exact List.IsChain.singleton c
    | cons d cs =>
      rcases isPlainFrom_cons h with ⟨-, -, hrest⟩ | ⟨hl, hrest⟩
      · rcases isPlainFrom_cons hrest with ⟨-, hfalse, -⟩ | ⟨hl, -⟩
        · exact absurd hfalse (by simp)
        · exact List.IsChain.cons_cons (Or.inr (Text.combiningClass_letter hl)) (ih hrest)
      · exact List.IsChain.cons_cons (Or.inl (Text.combiningClass_letter hl)) (ih hrest)

theorem decomposed_of_isPlain {cs : List Char} (h : isPlain cs = true) :
    Text.decomposed .compatibility cs = cs := by
  simp only [isPlain, Bool.and_eq_true] at h
  exact Text.decomposed_eq_self
    (fun c hc => Text.decompose_letter_or_mark (letter_or_mark h.2 c hc)) (isChain_class h.2)

theorem isWord_of_isPlain {w : String} (h : isPlain w.toList = true) : IsWord w := by
  simp only [isPlain, Bool.and_eq_true, Bool.not_eq_true', List.isEmpty_eq_false_iff] at h
  exact ⟨h.1, fun c hc => Text.isBlank_letter_or_mark (letter_or_mark h.2 c hc)⟩

/-- What every list of words is. -/
structure Regular (ws : List String) : Prop where
  length_eq : ws.length = size
  nodup : ws.Nodup
  plain : ∀ w ∈ ws, isPlain w.toList = true

theorem wordsOf_spelled (spelled : List (List Char)) :
    wordsOf (spelled.map String.ofList) =
      (spelled.flatMap (Text.split ' ')).map String.ofList := by
  simp [wordsOf, List.flatMap_map, List.map_flatMap]

theorem regular_of_spelled (slots : Nat) {lines : List String} {spelled : List (List Char)}
    (hs : lines = spelled.map String.ofList)
    (h : isRegular slots (spelled.flatMap (Text.split ' ')) = true) : Regular (wordsOf lines) := by
  subst hs
  rw [wordsOf_spelled]
  simp only [isRegular, Bool.and_eq_true, beq_iff_eq] at h
  obtain ⟨⟨hlength, hplain⟩, hdiffer⟩ := h
  refine ⟨by rw [List.length_map, hlength], ?_, ?_⟩
  · have hkeys := (spread_of_spreadFrom hdiffer).2
    exact hkeys.of_map.map fun _ _ => String.ofList_injective
  · intro w hw
    obtain ⟨cs, hcs, rfl⟩ := List.mem_map.mp hw
    rw [String.toList_ofList]
    exact List.all_eq_true.mp hplain cs hcs

end Lists

/-- Every list is regular. The lists are checked one behind the other, each with a number of slots that
tells its words apart. -/
theorem Language.regular_words (l : Language) : Lists.Regular l.words := by
  cases l with
  | english =>
    apply Lists.regular_of_spelled 227381
    · repeat apply Text.Table.spelled_cons
      exact Text.Table.spelled_nil
    · decide +kernel
  | chineseSimplified =>
    apply Lists.regular_of_spelled 19862
    · repeat apply Text.Table.spelled_cons
      exact Text.Table.spelled_nil
    · decide +kernel
  | chineseTraditional =>
    apply Lists.regular_of_spelled 19710
    · repeat apply Text.Table.spelled_cons
      exact Text.Table.spelled_nil
    · decide +kernel
  | french =>
    apply Lists.regular_of_spelled 222466
    · repeat apply Text.Table.spelled_cons
      exact Text.Table.spelled_nil
    · decide +kernel
  | italian =>
    apply Lists.regular_of_spelled 225501
    · repeat apply Text.Table.spelled_cons
      exact Text.Table.spelled_nil
    · decide +kernel
  | japanese =>
    apply Lists.regular_of_spelled 187753
    · repeat apply Text.Table.spelled_cons
      exact Text.Table.spelled_nil
    · decide +kernel
  | korean =>
    apply Lists.regular_of_spelled 246315
    · repeat apply Text.Table.spelled_cons
      exact Text.Table.spelled_nil
    · decide +kernel
  | spanish =>
    apply Lists.regular_of_spelled 242918
    · repeat apply Text.Table.spelled_cons
      exact Text.Table.spelled_nil
    · decide +kernel
  | czech =>
    apply Lists.regular_of_spelled 255197
    · repeat apply Text.Table.spelled_cons
      exact Text.Table.spelled_nil
    · decide +kernel
  | portuguese =>
    apply Lists.regular_of_spelled 204277
    · repeat apply Text.Table.spelled_cons
      exact Text.Table.spelled_nil
    · decide +kernel

end HdProvision.Mnemonic
