import HdProvision.Console.Dialog

/-!
# The exchange for a passphrase, line by line

The lines of the exchange are taken by twos, a passphrase and its confirmation. The exchange ends with
the first two that are equal, or when as many differ as attempts are allowed, or with the lines. What it
prints and which lines it leaves is told for each of these ends.
-/

set_option autoImplicit false

namespace HdProvision.Console

/-- The texts of lines by twos; a last line without a partner is left out. -/
def exchanges : List String → List (String × String)
  | a :: b :: ls => (lineText a, lineText b) :: exchanges ls
  | [_] => []
  | [] => []

theorem length_exchanges (ls : List String) : (exchanges ls).length = ls.length / 2 := by
  induction ls using exchanges.induct with
  | case1 a b ls ih =>
    rw [exchanges, List.length_cons, ih, List.length_cons, List.length_cons]
    omega
  | case2 a => simp [exchanges]
  | case3 => simp [exchanges]

/-- The first `n` exchanges are there, and in each of them the texts differ. -/
def Differ (n : Nat) (ls : List String) : Prop :=
  ∀ i < n, ∃ q, (exchanges ls)[i]? = some q ∧ q.1 ≠ q.2

/-- Exchange `k` is the first whose texts are equal, and `p` is the text. -/
structure AgreesFirst (ls : List String) (k : Nat) (p : String) : Prop where
  agreed : (exchanges ls)[k]? = some (p, p)
  before : Differ k ls

theorem Differ.length_le {n : Nat} {ls : List String} (h : Differ n ls) : 2 * n ≤ ls.length := by
  cases n with
  | zero => exact Nat.zero_le _
  | succ n =>
    obtain ⟨q, hq, -⟩ := h n (Nat.lt_succ_self n)
    obtain ⟨hn, -⟩ := List.getElem?_eq_some_iff.mp hq
    rw [length_exchanges] at hn
    omega

theorem Differ.mono {n n' : Nat} {ls : List String} (h : Differ n ls) (hle : n' ≤ n) :
    Differ n' ls :=
  fun i hi => h i (Nat.lt_of_lt_of_le hi hle)

/-- Where exchanges differ there are two lines for the first of them. -/
theorem Differ.cases {n : Nat} {ls : List String} (h : Differ (n + 1) ls) :
    ∃ a b rest, ls = a :: b :: rest ∧ lineText b ≠ lineText a ∧ Differ n rest := by
  obtain ⟨q, hq, hne⟩ := h 0 (Nat.succ_pos n)
  match ls, hq with
  | a :: b :: rest, hq =>
    obtain rfl : (lineText a, lineText b) = q := Option.some.inj hq
    exact ⟨a, b, rest, rfl, hne.symm, fun i hi => h (i + 1) (Nat.succ_lt_succ hi)⟩

/-- What one exchange prints. -/
def asking (c : Confirmation) : String := hiddenLine c.prompt ++ hiddenLine c.again

/-- What `n` exchanges print when after each of them it is said that the texts differ. -/
def refusals (c : Confirmation) : (n : Nat) → String
  | 0 => ""
  | n + 1 => asking c ++ c.differ ++ refusals c n

variable {c : Confirmation} {limit : Int} {ls : List String}

theorem after_after {α : Type} (d : Dialog α) (a b : String) :
    (d.after b).after a = d.after (a ++ b) := by
  rw [Dialog.after, Dialog.after, Dialog.after, String.append_assoc]

theorem after_empty {α : Type} (d : Dialog α) : d.after "" = d := by
  rw [Dialog.after, String.empty_append]

/-- One exchange: it ends the dialog or is followed by the rest of it. -/
theorem passphrase_exchange_cons (c : Confirmation) (limit : Int) (attempts : Nat) (a b : String)
    (rest : List String) : passphrase c limit attempts none (a :: b :: rest) =
      if lineText b = lineText a then ⟨.agreed (lineText a) (attempts + 1), asking c, rest⟩
      else if limit ≤ (attempts + 1 : Nat) then ⟨.exhausted (attempts + 1), asking c, rest⟩
      else (passphrase c limit (attempts + 1) none rest).after (asking c ++ c.differ) := by
  rw [passphrase, passphrase]
  split
  · rfl
  · split
    · rfl
    · rw [after_after, asking, String.append_assoc]

/-- Exchanges that differ are passed while attempts are left. -/
theorem passphrase_of_differ {n attempts : Nat} (hdiffer : Differ n ls)
    (hlimit : ∀ i < n, ¬ limit ≤ ((attempts + i + 1 : Nat) : Int)) :
    passphrase c limit attempts none ls =
      (passphrase c limit (attempts + n) none (ls.drop (2 * n))).after (refusals c n) := by
  -- The dialog counts attempts up, so the count is general in the induction on what is passed.
  induction n generalizing attempts ls with
  | zero => rw [refusals, after_empty]; rfl
  | succ n ih =>
    obtain ⟨a, b, rest, rfl, hne, hrest⟩ := hdiffer.cases
    have hnext : ∀ i < n, ¬ limit ≤ ((attempts + 1 + i + 1 : Nat) : Int) := by
      intro i hi
      have hstep := hlimit (i + 1) (Nat.succ_lt_succ hi)
      rwa [show attempts + 1 + i + 1 = attempts + (i + 1) + 1 by omega]
    have hfirst : ¬ limit ≤ (attempts + 1 : Nat) := hlimit 0 (Nat.succ_pos n)
    rw [passphrase_exchange_cons, if_neg hne, if_neg hfirst, ih hrest hnext, after_after,
      show attempts + 1 + n = attempts + (n + 1) by omega]
    rfl

/-- Fewer differing exchanges than attempts are allowed leave an attempt. -/
theorem passphrase_of_differ_lt {n : Nat} (hdiffer : Differ n ls) (hn : n < (max 1 limit).toNat) :
    passphrase c limit 0 none ls =
      (passphrase c limit n none (ls.drop (2 * n))).after (refusals c n) := by
  have hlimit : ∀ i < n, ¬ limit ≤ ((0 + i + 1 : Nat) : Int) := fun i hi => by omega
  have hpassed := passphrase_of_differ (c := c) hdiffer hlimit
  rwa [Nat.zero_add] at hpassed

theorem exchanges_drop (n : Nat) (ls : List String) :
    exchanges (ls.drop (2 * n)) = (exchanges ls).drop n := by
  induction n generalizing ls with
  | zero => rfl
  | succ n ih =>
    match ls with
    | [] => rfl
    | [a] => simp [exchanges, Nat.mul_succ]
    | a :: b :: rest => exact ih rest

/-- The exchange ends with the first two equal texts, if an attempt was left for them. -/
theorem passphrase_of_agreesFirst {k : Nat} {p : String} (h : AgreesFirst ls k p)
    (hk : k < (max 1 limit).toNat) : 2 * k + 2 ≤ ls.length ∧ passphrase c limit 0 none ls =
      ⟨.agreed p (k + 1), refusals c k ++ asking c, ls.drop (2 * k + 2)⟩ := by
  have hfirst : (exchanges (ls.drop (2 * k)))[0]? = some (p, p) := by
    rw [exchanges_drop, List.getElem?_drop]
    exact h.agreed
  have hdrop : ls.drop (2 * k + 2) = (ls.drop (2 * k)).drop 2 := by rw [List.drop_drop]
  rw [passphrase_of_differ_lt h.before hk, hdrop]
  match hrest : ls.drop (2 * k), hfirst with
  | a :: b :: rest, hfirst =>
    obtain ⟨rfl, hb⟩ := Prod.mk.inj (Option.some.inj hfirst)
    have hlength := congrArg List.length hrest
    rw [List.length_drop, List.length_cons, List.length_cons] at hlength
    refine ⟨by omega, ?_⟩
    rw [passphrase_exchange_cons, if_pos hb]
    rfl

/-- As many differing exchanges as attempts are allowed exhaust them; after the last it is not said
that they differ. -/
theorem passphrase_of_exhausted {m : Nat} (hm : m = (max 1 limit).toNat) (h : Differ m ls) :
    passphrase c limit 0 none ls =
      ⟨.exhausted m, refusals c (m - 1) ++ asking c, ls.drop (2 * m)⟩ := by
  obtain ⟨n, rfl⟩ : ∃ n, m = n + 1 := ⟨m - 1, by omega⟩
  have hlast : Differ 1 (ls.drop (2 * n)) := by
    intro i hi
    rw [exchanges_drop, List.getElem?_drop]
    exact h _ (by omega)
  obtain ⟨a, b, rest, hrest, hne, -⟩ := hlast.cases
  have hlimit : limit ≤ (n + 1 : Nat) := by omega
  rw [passphrase_of_differ_lt (h.mono (Nat.le_succ n)) (by omega), hrest,
    passphrase_exchange_cons, if_neg hne, if_pos hlimit, Nat.mul_succ, ← List.drop_drop, hrest]
  rfl

/-- The question that meets the end of the input, and what was asked before it. -/
def cutShort (c : Confirmation) (even : Bool) : Dialog PassphraseEnd :=
  if even then ⟨.noPassphrase, hiddenEnd c.prompt, []⟩
  else ⟨.noConfirmation, hiddenLine c.prompt ++ hiddenEnd c.again, []⟩

theorem cutShort_rest (c : Confirmation) (even : Bool) : (cutShort c even).rest = [] := by
  cases even <;> rfl

/-- Lines that end before two are equal and before the attempts are exhausted end the exchange. -/
theorem passphrase_of_ended (h : Differ (ls.length / 2) ls)
    (hn : ls.length / 2 < (max 1 limit).toNat) :
    passphrase c limit 0 none ls =
      (cutShort c (ls.length % 2 = 0)).after (refusals c (ls.length / 2)) := by
  have hlength : (ls.drop (2 * (ls.length / 2))).length = ls.length % 2 := by
    rw [List.length_drop]
    omega
  rw [passphrase_of_differ_lt h hn, ← hlength]
  match ls.drop (2 * (ls.length / 2)), hlength with
  | [], _ => rfl
  | [a], _ => rfl
  | a :: b :: rest, hlength =>
    rw [List.length_cons, List.length_cons] at hlength
    omega

/-- If no two texts are equal in time and the attempts are not exhausted, the lines have ended. -/
theorem differ_of_not {m : Nat} (hagrees : ∀ k p, AgreesFirst ls k p → ¬ k < m)
    (hdiffer : ¬ Differ m ls) : Differ (ls.length / 2) ls ∧ ls.length / 2 < m := by
  have hall : ∀ n ≤ m, n ≤ ls.length / 2 → Differ n ls := by
    intro n
    induction n with
    | zero => exact fun _ _ i hi => absurd hi (Nat.not_lt_zero i)
    | succ n ih =>
      intro hnm hn i hi
      have hbefore := ih (Nat.le_of_succ_le hnm) (Nat.le_of_succ_le hn)
      rcases Nat.lt_succ_iff_lt_or_eq.mp hi with hi | rfl
      · exact hbefore i hi
      · have hpresent : i < (exchanges ls).length := by
          rw [length_exchanges]
          exact hn
        refine ⟨(exchanges ls)[i], List.getElem?_eq_getElem hpresent, fun heq => ?_⟩
        have hagreed : (exchanges ls)[i]? = some ((exchanges ls)[i].1, (exchanges ls)[i].1) := by
          rw [List.getElem?_eq_getElem hpresent]
          exact congrArg some (Prod.ext rfl heq.symm)
        exact hagrees i _ ⟨hagreed, hbefore⟩ hnm
  have hshort : ls.length / 2 < m :=
    Nat.lt_of_not_le fun hle => hdiffer (hall m (Nat.le_refl m) hle)
  exact ⟨hall _ (Nat.le_of_lt hshort) (Nat.le_refl _), hshort⟩

end HdProvision.Console
