import HdProvision.Bytes.Utf8

/-!
# Reading written text

Every character is read back from its octets, whatever follows them, and so is every text.
-/

set_option autoImplicit false

namespace HdProvision.Utf8

theorem ofNat_toNat (c : Char) {n : Nat} (h : n = c.toNat) : Char.ofNat n = c := by
  rw [h, Char.ofNat_toNat]

/-- The octet that continues a character with some low bits. -/
def tail (n : Nat) : UInt8 := UInt8.ofNat (n % 64 + 0x80)

theorem isTail_tail (n : Nat) : isTail (tail n) = true := by
  simp only [isTail, tail, Bool.and_eq_true, decide_eq_true_eq, UInt8.le_iff_toNat_le,
    UInt8.lt_iff_toNat_lt, UInt8.toNat_ofNat', UInt8.reduceToNat]
  omega

theorem tailBits_tail (n : Nat) : tailBits (tail n) = n % 64 := by
  simp only [tailBits, tail, UInt8.toNat_ofNat']
  omega

theorem two?_of_le {a : UInt8} (h : 0xE0 ≤ a.toNat) (b : UInt8) : two? a b = none := by
  have : ¬ a < 0xE0 := by
    simp only [UInt8.lt_iff_toNat_lt, UInt8.reduceToNat]
    omega
  simp [two?, this]

theorem three?_of_le {a : UInt8} (h : 0xF0 ≤ a.toNat) (b c : UInt8) : three? a b c = none := by
  have : ¬ a < 0xF0 := by
    simp only [UInt8.lt_iff_toNat_lt, UInt8.reduceToNat]
    omega
  simp [three?, this]

theorem two?_lead (c : Char) (hlow : 0x80 ≤ c.toNat) (hhigh : c.toNat < 0x800) :
    two? (UInt8.ofNat (c.toNat / 64 % 0x20 + 0xC0)) (tail c.toNat) = some c := by
  have hlead : (UInt8.ofNat (c.toNat / 64 % 0x20 + 0xC0)).toNat = c.toNat / 64 + 0xC0 := by
    rw [UInt8.toNat_ofNat']
    omega
  have hge : (0xC2 : UInt8) ≤ UInt8.ofNat (c.toNat / 64 % 0x20 + 0xC0) := by
    simp only [UInt8.le_iff_toNat_le, hlead, UInt8.reduceToNat]
    omega
  have hlt : UInt8.ofNat (c.toNat / 64 % 0x20 + 0xC0) < 0xE0 := by
    simp only [UInt8.lt_iff_toNat_lt, hlead, UInt8.reduceToNat]
    omega
  rw [two?, isTail_tail, tailBits_tail, hlead]
  simp only [hge, hlt, decide_true, Bool.and_self, if_true]
  rw [ofNat_toNat c (by omega)]

theorem three?_lead (c : Char) (hlow : 0x800 ≤ c.toNat) (hhigh : c.toNat < 0x10000)
    (hvalid : c.toNat < 0xD800 ∨ 0xE000 ≤ c.toNat) :
    three? (UInt8.ofNat (c.toNat / 4096 % 0x10 + 0xE0)) (tail (c.toNat / 64)) (tail c.toNat) =
      some c := by
  have hlead : (UInt8.ofNat (c.toNat / 4096 % 0x10 + 0xE0)).toNat = c.toNat / 4096 + 0xE0 := by
    rw [UInt8.toNat_ofNat']
    omega
  have hge : (0xE0 : UInt8) ≤ UInt8.ofNat (c.toNat / 4096 % 0x10 + 0xE0) := by
    simp only [UInt8.le_iff_toNat_le, hlead, UInt8.reduceToNat]
    omega
  have hlt : UInt8.ofNat (c.toNat / 4096 % 0x10 + 0xE0) < 0xF0 := by
    simp only [UInt8.lt_iff_toNat_lt, hlead, UInt8.reduceToNat]
    omega
  have hcode : (c.toNat / 4096 + 0xE0) % 16 * 4096 + c.toNat / 64 % 64 * 64 + c.toNat % 64 =
      c.toNat := by omega
  have hsurrogate : (decide (0xD800 ≤ c.toNat) && decide (c.toNat < 0xE000)) = false := by
    rw [Bool.and_eq_false_iff, decide_eq_false_iff_not, decide_eq_false_iff_not]
    omega
  simp only [three?, isTail_tail, tailBits_tail, hlead, hcode, hge, hlt, hlow, hsurrogate,
    decide_true, Bool.not_false, Bool.and_self, if_true, Char.ofNat_toNat]

theorem four?_lead (c : Char) (hlow : 0x10000 ≤ c.toNat) (hhigh : c.toNat < 0x110000) :
    four? (UInt8.ofNat (c.toNat / 262144 % 0x08 + 0xF0)) (tail (c.toNat / 4096))
      (tail (c.toNat / 64)) (tail c.toNat) = some c := by
  have hlead : (UInt8.ofNat (c.toNat / 262144 % 0x08 + 0xF0)).toNat = c.toNat / 262144 + 0xF0 := by
    rw [UInt8.toNat_ofNat']
    omega
  have hge : (0xF0 : UInt8) ≤ UInt8.ofNat (c.toNat / 262144 % 0x08 + 0xF0) := by
    simp only [UInt8.le_iff_toNat_le, hlead, UInt8.reduceToNat]
    omega
  have hlt : UInt8.ofNat (c.toNat / 262144 % 0x08 + 0xF0) < 0xF8 := by
    simp only [UInt8.lt_iff_toNat_lt, hlead, UInt8.reduceToNat]
    omega
  have hcode : (c.toNat / 262144 + 0xF0) % 8 * 262144 + c.toNat / 4096 % 64 * 4096 +
      c.toNat / 64 % 64 * 64 + c.toNat % 64 = c.toNat := by omega
  simp only [four?, isTail_tail, tailBits_tail, hlead, hcode, hge, hlt, hlow, hhigh,
    decide_true, Bool.and_self, if_true, Char.ofNat_toNat]

/-- The octets of a character are a first one and others that continue it, and reading them gives the
character back. -/
theorem front?_encode (c : Char) (rest : Bytes) :
    ∃ a tail, String.utf8EncodeChar c = a :: tail ∧
      front? (a :: (tail ++ rest)) = some (c, tail.length) := by
  have hvalid : c.toNat < 0xD800 ∨ (0xDFFF < c.toNat ∧ c.toNat < 0x110000) := c.valid
  have hval : c.val.toNat = c.toNat := rfl
  unfold String.utf8EncodeChar
  simp only [hval]
  split
  · refine ⟨_, [], rfl, ?_⟩
    have hlt : UInt8.ofNat c.toNat < 0x80 := by
      simp only [UInt8.lt_iff_toNat_lt, UInt8.toNat_ofNat', UInt8.reduceToNat]
      omega
    rw [List.nil_append, front?.eq_def]
    simp only [if_pos hlt, UInt8.toNat_ofNat', ofNat_toNat c (show c.toNat % 2 ^ 8 = _ by omega),
      List.length_nil]
  · have hnot : ∀ n, 0x80 ≤ n → n < 0x100 → ¬ UInt8.ofNat n < 0x80 := by
      intro n hn hn'
      simp only [UInt8.lt_iff_toNat_lt, UInt8.toNat_ofNat', UInt8.reduceToNat]
      omega
    split
    · refine ⟨_, [tail c.toNat], rfl, ?_⟩
      rw [List.singleton_append, front?.eq_def]
      simp only [if_neg (hnot (c.toNat / 64 % 0x20 + 0xC0) (by omega) (by omega)), two?_lead c (by omega) (by omega), List.length_singleton]
    · split
      · have hlead : 0xE0 ≤ (UInt8.ofNat (c.toNat / 4096 % 0x10 + 0xE0)).toNat := by
          rw [UInt8.toNat_ofNat']
          omega
        refine ⟨_, [tail (c.toNat / 64), tail c.toNat], rfl, ?_⟩
        rw [List.cons_append, List.singleton_append, front?.eq_def]
        simp only [if_neg (hnot (c.toNat / 4096 % 0x10 + 0xE0) (by omega) (by omega)),
          two?_of_le hlead, three?_lead c (by omega) (by omega) (by omega)]
        rfl
      · have hlead : 0xF0 ≤ (UInt8.ofNat (c.toNat / 262144 % 0x08 + 0xF0)).toNat := by
          rw [UInt8.toNat_ofNat']
          omega
        refine ⟨_, [tail (c.toNat / 4096), tail (c.toNat / 64), tail c.toNat], rfl, ?_⟩
        rw [List.cons_append, List.cons_append, List.singleton_append, front?.eq_def]
        simp only [if_neg (hnot (c.toNat / 262144 % 0x08 + 0xF0) (by omega) (by omega)),
          two?_of_le (Nat.le_trans (by decide) hlead), three?_of_le hlead,
          four?_lead c (by omega) (by omega), Option.map_some]
        rfl

theorem decodeFrom_skip (onBad : UInt8 → Option (List Char)) (tail rest : Bytes) :
    decodeFrom onBad tail.length (tail ++ rest) = decodeFrom onBad 0 rest := by
  induction tail with
  | nil => rfl
  | cons b tail ih => rw [List.length_cons, List.cons_append, decodeFrom, ih]

theorem decodeFrom_encode (onBad : UInt8 → Option (List Char)) (c : Char) (rest : Bytes) :
    decodeFrom onBad 0 (String.utf8EncodeChar c ++ rest) =
      (decodeFrom onBad 0 rest).map (c :: ·) := by
  obtain ⟨a, tail, hc, hfront⟩ := front?_encode c rest
  rw [hc, List.cons_append, decodeFrom, hfront]
  simp only [decodeFrom_skip]

/-- Text that was written as octets is read back. -/
theorem decode?_encodeChars (cs : List Char) : decode? (encodeChars cs) = some cs := by
  rw [decode?]
  induction cs with
  | nil => rfl
  | cons c cs ih =>
    rw [encodeChars, List.flatMap_cons, decodeFrom_encode, ← encodeChars, ih, Option.map_some]

/-- A character at the front is there too when more octets follow. -/
theorem front?_append {a : UInt8} {r : Bytes} {c : Char} {size : Nat}
    (h : front? (a :: r) = some (c, size)) (more : Bytes) :
    front? (a :: (r ++ more)) = some (c, size) ∧ size ≤ r.length := by
  rw [front?.eq_def] at h ⊢
  dsimp only at h ⊢
  split at h
  · next hlow =>
    cases h
    rw [if_pos hlow]
    exact ⟨rfl, Nat.zero_le _⟩
  · next hhigh =>
    rw [if_neg hhigh]
    -- Longer forms are tried only when the octets of the shorter ones are there and are not one.
    match r with
    | [] => cases h
    | b :: r₂ =>
      simp only [List.cons_append] at h ⊢
      cases htwo : two? a b with
      | some ch =>
        rw [htwo] at h
        cases h
        exact ⟨rfl, by simp⟩
      | none =>
        rw [htwo] at h
        match r₂ with
        | [] => cases h
        | c₃ :: r₃ =>
          simp only [List.cons_append] at h ⊢
          cases hthree : three? a b c₃ with
          | some ch =>
            rw [hthree] at h
            cases h
            exact ⟨rfl, by simp⟩
          | none =>
            rw [hthree] at h
            match r₃ with
            | [] => cases h
            | d :: r₄ =>
              simp only [List.cons_append] at h ⊢
              refine ⟨h, ?_⟩
              obtain ⟨ch, -, hsize⟩ := Option.map_eq_some_iff.mp h
              cases hsize
              simp

/-- Octets that are read as text are read so too when more of them follow. -/
theorem decodeFrom_append {skip : Nat} {bs : Bytes} {cs : List Char} (hskip : skip ≤ bs.length)
    (h : decodeFrom (fun _ => none) skip bs = some cs) (more : Bytes) :
    decodeFrom (fun _ => none) skip (bs ++ more) =
      (decodeFrom (fun _ => none) 0 more).map (cs ++ ·) := by
  induction bs generalizing skip cs with
  | nil =>
    obtain rfl : skip = 0 := Nat.le_zero.mp hskip
    cases h
    simp
  | cons a bs ih =>
    cases skip with
    | succ skip =>
      rw [decodeFrom] at h
      rw [List.cons_append, decodeFrom]
      exact ih (Nat.le_of_succ_le_succ hskip) h
    | zero =>
      rw [decodeFrom] at h
      rw [List.cons_append, decodeFrom]
      cases hfront : front? (a :: bs) with
      | none =>
        rw [hfront] at h
        cases h
      | some found =>
        obtain ⟨c, size⟩ := found
        obtain ⟨hmore, hsize⟩ := front?_append hfront more
        rw [hfront] at h
        obtain ⟨rest, hrest, rfl⟩ := Option.map_eq_some_iff.mp h
        rw [hmore]
        dsimp only
        rw [ih hsize hrest, Option.map_map]
        rfl

/-- There are no characters in no octets only. -/
theorem eq_nil_of_decode? {bs : Bytes} (h : decode? bs = some []) : bs = [] := by
  cases bs with
  | nil => rfl
  | cons a bs =>
    rw [decode?, decodeFrom] at h
    split at h
    · obtain ⟨rest, -, hnil⟩ := Option.map_eq_some_iff.mp h
      cases hnil
    · cases h

/-- Octets of a text that were cut off are no text, or a part of the text. -/
theorem decode?_cut {cs part : List Char} {n : Nat} (hn : n < (encodeChars cs).length)
    (h : decode? ((encodeChars cs).take n) = some part) :
    ∃ more, cs = part ++ more ∧ more ≠ [] := by
  have hwhole := decode?_encodeChars cs
  rw [← List.take_append_drop n (encodeChars cs), decode?,
    decodeFrom_append (Nat.zero_le _) h] at hwhole
  obtain ⟨more, hmore, hcs⟩ := Option.map_eq_some_iff.mp hwhole
  refine ⟨more, hcs.symm, ?_⟩
  rintro rfl
  have hdrop : (encodeChars cs).drop n = [] := eq_nil_of_decode? hmore
  rw [List.drop_eq_nil_iff] at hdrop
  omega

end HdProvision.Utf8
