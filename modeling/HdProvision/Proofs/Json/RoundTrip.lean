import HdProvision.Proofs.Json.Texts

/-!
# Reading written values

A value is read back from its text as it was, if it has distinct names in every object, integers of
at most 4300 digits, rounded numbers, and no more brackets inside each other than may be read.
-/

set_option autoImplicit false

namespace HdProvision.Json

open Reader (Ends isDigit isSpace)

namespace Value

mutual

/-- A value that can be written and read again. -/
def Sound : Value → Prop
  | .int n => (Text.Integer.natChars n.natAbs).length ≤ Text.Integer.maxDigits
  | .real x => x.Sound
  | .array vs => SoundAll vs
  | .object fs => SoundFields fs ∧ (fs.map Prod.fst).Nodup
  | _ => True

def SoundAll : List Value → Prop
  | [] => True
  | v :: vs => Sound v ∧ SoundAll vs

def SoundFields : List (Units × Value) → Prop
  | [] => True
  | (_, v) :: fs => Sound v ∧ SoundFields fs

end

mutual

/-- How deep and how far reading a value goes. -/
def size : Value → Nat
  | .array vs => 1 + sizeAll vs
  | .object fs => 1 + sizeFields fs
  | _ => 1

def sizeAll : List Value → Nat
  | [] => 0
  | v :: vs => 1 + size v + sizeAll vs

def sizeFields : List (Units × Value) → Nat
  | [] => 0
  | (_, v) :: fs => 1 + size v + sizeFields fs

end

theorem size_pos (v : Value) : 0 < v.size := by
  cases v <;> simp [size]

end Value

namespace Reader

theorem ne_of_isDigit {c d : Char} (h : isDigit d = true) (hc : isDigit c = false) : d ≠ c := by
  rintro rfl
  rw [h] at hc
  cases hc

theorem scalar_digit {d : Char} (h : isDigit d = true) (cs : List Char) :
    scalar (d :: cs) = unsigned false (d :: cs) := by
  rw [scalar]
  all_goals
    intro _ hd
    exact ne_of_isDigit h (by decide) (List.cons.inj hd).1

theorem scalar_minus {d : Char} (h : isDigit d = true) (cs : List Char) :
    scalar ('-' :: d :: cs) = unsigned true (d :: cs) := by
  rw [scalar]
  all_goals
    intro _ hd
    exact ne_of_isDigit h (by decide) (List.cons.inj hd).1

/-- Behind the first character of a value it is clear which kind of value is read. -/
theorem value_scalar {fuel room : Nat} {cs : List Char}
    (h : ∀ c, cs.head? = some c → c ≠ '"' ∧ c ≠ '[' ∧ c ≠ '{') :
    value (fuel + 1) room cs = scalar cs := by
  cases cs with
  | nil => rfl
  | cons c cs =>
    obtain ⟨hquote, harray, hobject⟩ := h c rfl
    rw [value]
    · exact fun _ hc => hquote (List.cons.inj hc).1
    · exact fun _ hc => harray (List.cons.inj hc).1
    · exact fun _ hc => hobject (List.cons.inj hc).1

variable {rest : List Char}

theorem scalar_int {n : Int} (h : (Value.int n).Sound) (hrest : Ends rest) :
    scalar (Text.Integer.chars n ++ rest) = .ok (.int n, rest) := by
  have hwhole : ∀ k : Nat, Whole (Text.Integer.natChars k) := by
    intro k
    rcases Nat.eq_zero_or_pos k with rfl | hk
    · exact Or.inl rfl
    · exact Or.inr (Text.Integer.leads_natChars hk)
  cases n with
  | ofNat k =>
    obtain ⟨d, r, heq, hd⟩ := (hwhole k).head rest
    rw [Text.Integer.chars, heq, scalar_digit hd, ← heq, unsigned_int false (hwhole k) h hrest,
      Text.Integer.digitsValue_natChars]
    rfl
  | negSucc k =>
    obtain ⟨d, r, heq, hd⟩ := (hwhole (k + 1)).head rest
    rw [Text.Integer.chars, List.cons_append, heq, scalar_minus hd, ← heq,
      unsigned_int true (hwhole (k + 1)) h hrest, Text.Integer.digitsValue_natChars]
    rfl

theorem scalar_finite (negative : Bool) {m e : Nat} (hm : Binary64.Canonical m e)
    (hrest : Ends rest) :
    scalar (Decimal.finiteChars negative m e ++ rest) =
      .ok (.real (.finite negative m e), rest) := by
  obtain ⟨⟨d, r, heq, hd⟩, hreads⟩ := reads_finiteChars hm
  have hscalar := hreads negative rest hrest
  cases negative
  · rw [heq] at hscalar ⊢
    rw [List.cons_append, scalar_digit hd]
    exact hscalar
  · have hminus : Decimal.finiteChars true m e = '-' :: Decimal.finiteChars false m e := rfl
    rw [heq] at hscalar hminus
    rw [hminus, List.cons_append, List.cons_append, scalar_minus hd]
    exact hscalar

/-- A rounded number is read back from its text. -/
theorem scalar_real {x : Binary64} (h : x.Sound) (hrest : Ends rest) :
    scalar (Writer.real x ++ rest) = .ok (.real x, rest) := by
  cases x with
  | nan => rfl
  | infinite negative => cases negative <;> rfl
  | finite negative m e => exact scalar_finite negative h hrest

/-- What starts a value: no gap, and no bracket that ends an array. -/
def StartsValue (cs : List Char) : Prop := ∃ c r, cs = c :: r ∧ isSpace c = false ∧ c ≠ ']'

theorem scalar_head {cs : List Char} {r : Value × List Char} (h : scalar cs = .ok r) :
    StartsValue cs ∧ ∀ c, cs.head? = some c → c ≠ '"' ∧ c ≠ '[' ∧ c ≠ '{' := by
  cases cs with
  | nil => cases h
  | cons c cs =>
    have hne : ∀ d, scalar (d :: cs) = .error .malformed → c ≠ d := by
      rintro d hd rfl
      rw [hd] at h
      cases h
    refine ⟨⟨c, cs, rfl, ?_, hne _ rfl⟩, ?_⟩
    · simp only [isSpace, Bool.or_eq_false_iff, decide_eq_false_iff_not]
      exact ⟨⟨⟨hne _ rfl, hne _ rfl⟩, hne _ rfl⟩, hne _ rfl⟩
    · intro d hd
      rw [← Option.some.inj hd]
      exact ⟨hne _ rfl, hne _ rfl, hne _ rfl⟩

theorem skip_value {cs : List Char} (h : StartsValue cs) : skip cs = cs := by
  obtain ⟨c, r, rfl, hc, -⟩ := h
  exact skip_of_not_space hc r

theorem startsValue_cons {c : Char} (h : isSpace c = false ∧ c ≠ ']') (cs : List Char) :
    StartsValue (c :: cs) :=
  ⟨c, cs, rfl, h.1, h.2⟩

theorem startsValue_value (depth : Nat) {v : Value} (hv : v.Sound) (hrest : Ends rest) :
    StartsValue (Writer.value depth v rest) := by
  cases v with
  | null => exact startsValue_cons (by decide) _
  | bool b => cases b <;> exact startsValue_cons (by decide) _
  | int n => exact (scalar_head (scalar_int hv hrest)).1
  | real x => exact (scalar_head (scalar_real hv hrest)).1
  | text us => exact startsValue_cons (by decide) _
  | array vs =>
    cases vs with
    | nil => exact startsValue_cons (by decide) _
    | cons v vs => exact startsValue_cons (by decide) _
  | object fs =>
    cases fs with
    | nil => exact startsValue_cons (by decide) _
    | cons f fs => exact startsValue_cons (by decide) _

theorem ends_line (depth : Nat) (rest : List Char) : Ends (Writer.line depth ++ rest) :=
  ends_cons (by decide) _

theorem ends_values (depth : Nat) (vs : List Value) (hrest : Ends rest) :
    Ends (Writer.values depth vs rest) := by
  cases vs with
  | nil => exact hrest
  | cons v vs => exact ends_cons (by decide) _

theorem ends_members (depth : Nat) (fs : Fields) (hrest : Ends rest) :
    Ends (Writer.members depth fs rest) := by
  cases fs with
  | nil => exact hrest
  | cons f fs => exact ends_cons (by decide) _

theorem value_written_scalar {v : Value} {fuel room depth : Nat}
    (h : scalar (Writer.value depth v rest) = .ok (v, rest)) :
    value (fuel + 1) room (Writer.value depth v rest) = .ok (v, rest) := by
  rw [value_scalar (scalar_head h).2, h]

theorem set_of_not_mem {fs : Fields} {name : Units} (h : name ∉ fs.map Prod.fst) (v : Value) :
    fs.set name v = fs ++ [(name, v)] := by
  induction fs with
  | nil => rfl
  | cons f fs ih =>
    rw [List.map_cons, List.mem_cons, not_or] at h
    rw [Fields.set, if_neg (Ne.symm h.1), ih h.2, List.cons_append]

theorem value_array {cs : List Char} (h : StartsValue cs) (fuel room depth : Nat) :
    value (fuel + 1) (room + 1) ('[' :: (Writer.line depth ++ cs)) = items fuel room [] cs := by
  rw [value, skip_line, skip_value h]
  obtain ⟨c, r, rfl, -, hc⟩ := h
  split
  · next heq => exact absurd (List.cons.inj heq).1 hc
  · rfl

theorem value_object (fuel room depth : Nat) (cs : List Char) :
    value (fuel + 1) (room + 1) ('{' :: (Writer.line depth ++ '"' :: cs)) = members fuel room [] ('"' :: cs) := by
  rw [value, skip_line, skip_of_not_space (by decide)]
  rfl

/-- The last item of an array. -/
theorem items_last {fuel room depth : Nat} {w : Value} {cs : List Char} (before : List Value)
    (h : value fuel room cs = .ok (w, Writer.line depth ++ ']' :: rest)) :
    items (fuel + 1) room before cs = .ok (.array (w :: before).reverse, rest) := by
  simp only [items, h, skip_line]
  rw [skip_of_not_space (by decide)]
  rfl

/-- An item of an array that is not the last. -/
theorem items_next {fuel room depth : Nat} {w : Value} {cs r : List Char} (before : List Value)
    (h : value fuel room cs = .ok (w, ',' :: (Writer.line depth ++ r))) (hr : StartsValue r) :
    items (fuel + 1) room before cs = items fuel room (w :: before) r := by
  simp only [items, h]
  rw [skip_of_not_space (by decide)]
  simp only [skip_line, skip_value hr]

/-- What is read behind a member decides how the object goes on. -/
theorem members_text {fuel room : Nat} {w : Value} {cs : List Char} (before : Fields) (name : Units)
    (hcs : StartsValue cs) (h : value fuel room cs = .ok (w, rest)) :
    members (fuel + 1) room before (Writer.text name (':' :: ' ' :: cs)) =
      match skip rest with
      | '}' :: r => .ok (.object (before.set name w), r)
      | ',' :: r => members fuel room (before.set name w) (skip r)
      | _ => .error .malformed := by
  have htext : textUnits [] (name.flatMap Writer.unit ++ '"' :: ':' :: ' ' :: cs) =
      some (name, ':' :: ' ' :: cs) := textUnits_text [] name _
  have hskip : skip (' ' :: cs) = cs := skip_value hcs
  simp only [Writer.text, List.cons_append, members, htext]
  rw [skip_of_not_space (by decide)]
  simp only [hskip]
  generalize value fuel room cs = read at h
  subst h
  rfl

theorem members_last {fuel room depth : Nat} {w : Value} {cs : List Char} (before : Fields)
    (name : Units) (hcs : StartsValue cs)
    (h : value fuel room cs = .ok (w, Writer.line depth ++ '}' :: rest)) :
    members (fuel + 1) room before (Writer.text name (':' :: ' ' :: cs)) =
      .ok (.object (before.set name w), rest) := by
  rw [members_text before name hcs h, skip_line, skip_of_not_space (by decide)]
  rfl

theorem members_next {fuel room depth : Nat} {w : Value} {cs r : List Char} (before : Fields)
    (name other : Units) (hcs : StartsValue cs)
    (h : value fuel room cs = .ok (w, ',' :: (Writer.line depth ++ Writer.text other r))) :
    members (fuel + 1) room before (Writer.text name (':' :: ' ' :: cs)) =
      members fuel room (before.set name w) (Writer.text other r) := by
  have hskip : skip (Writer.text other r) = Writer.text other r := by
    rw [Writer.text, List.cons_append, skip_of_not_space (by decide)]
  rw [members_text before name hcs h, skip_of_not_space (by decide)]
  simp only [skip_line, hskip]

mutual

/-- A written value is read. -/
theorem value_written (fuel room depth : Nat) (v : Value) (rest : List Char) (hv : v.Sound)
    (hfuel : v.size ≤ fuel) (hroom : v.depth ≤ room) (hrest : Ends rest) :
    value fuel room (Writer.value depth v rest) = .ok (v, rest) := by
  match fuel, room, v with
  | 0, _, v => exact absurd hfuel (Nat.not_le.mpr v.size_pos)
  | fuel + 1, _, .null => exact value_written_scalar rfl
  | fuel + 1, _, .bool true => exact value_written_scalar rfl
  | fuel + 1, _, .bool false => exact value_written_scalar rfl
  | fuel + 1, _, .int n => exact value_written_scalar (scalar_int hv hrest)
  | fuel + 1, _, .real x => exact value_written_scalar (scalar_real hv hrest)
  | fuel + 1, _, .text us =>
    have htext : textUnits [] (us.flatMap Writer.unit ++ '"' :: rest) = some (us, rest) :=
      textUnits_text [] us rest
    simp only [Writer.value, Writer.text, List.cons_append, value, htext]
  | fuel + 1, 0, .array _ | fuel + 1, 0, .object _ => exact absurd hroom (Nat.not_succ_le_zero _)
  | fuel + 1, room + 1, .array [] => rfl
  | fuel + 1, room + 1, .array (v :: vs) =>
    have hstarts := startsValue_value (depth + 1) hv.1
      (ends_values (depth + 1) vs (ends_line depth (']' :: rest)))
    have hsize : Value.sizeAll (v :: vs) ≤ fuel := by
      rw [Value.size] at hfuel
      omega
    rw [Writer.value, List.cons_append, value_array hstarts,
      items_written fuel room (depth + 1) depth v vs [] rest hv hsize (Nat.le_of_succ_le_succ hroom)]
    rfl
  | fuel + 1, room + 1, .object [] => rfl
  | fuel + 1, room + 1, .object ((name, v) :: fs) =>
    have hsize : Value.sizeFields ((name, v) :: fs) ≤ fuel := by
      rw [Value.size] at hfuel
      omega
    have hmembers := members_written fuel room (depth + 1) depth name v fs [] rest hv.1 hv.2 hsize
      (Nat.le_of_succ_le_succ hroom)
    rw [Writer.text, List.cons_append] at hmembers
    rw [Writer.value, Writer.text, List.cons_append, List.cons_append, value_object, hmembers]
    rfl

theorem items_written (fuel room depth outer : Nat) (v : Value) (vs before : List Value)
    (rest : List Char) (h : Value.SoundAll (v :: vs)) (hfuel : Value.sizeAll (v :: vs) ≤ fuel)
    (hroom : Value.depthAll (v :: vs) ≤ room) :
    items fuel room before
        (Writer.value depth v (Writer.values depth vs (Writer.line outer ++ ']' :: rest))) =
      .ok (.array (before.reverse ++ v :: vs), rest) := by
  have hends := ends_values depth vs (ends_line outer (']' :: rest))
  have hdepth : v.depth ≤ room ∧ Value.depthAll vs ≤ room := Nat.max_le.mp hroom
  match fuel, vs with
  | 0, vs =>
    rw [Value.sizeAll] at hfuel
    omega
  | fuel + 1, [] =>
    have hsize : v.size ≤ fuel := by
      rw [Value.sizeAll] at hfuel
      omega
    rw [Writer.values, items_last before (value_written fuel room depth v _ h.1 hsize hdepth.1 hends),
      List.reverse_cons]
  | fuel + 1, w :: vs =>
    have hsize : v.size ≤ fuel ∧ Value.sizeAll (w :: vs) ≤ fuel := by
      rw [Value.sizeAll] at hfuel
      omega
    have hstarts := startsValue_value depth h.2.1
      (ends_values depth vs (ends_line outer (']' :: rest)))
    rw [Writer.values, List.cons_append,
      items_next before (value_written fuel room depth v _ h.1 hsize.1 hdepth.1 hends) hstarts,
      items_written fuel room depth outer w vs (v :: before) rest h.2 hsize.2 hdepth.2,
      List.reverse_cons, List.append_assoc]
    rfl

theorem members_written (fuel room depth outer : Nat) (name : Units) (v : Value)
    (fs before : Fields) (rest : List Char) (h : Value.SoundFields ((name, v) :: fs))
    (hnames : (before.map Prod.fst ++ name :: fs.map Prod.fst).Nodup)
    (hfuel : Value.sizeFields ((name, v) :: fs) ≤ fuel)
    (hroom : Value.depthFields ((name, v) :: fs) ≤ room) :
    members fuel room before (Writer.text name (':' :: ' ' ::
        Writer.value depth v (Writer.members depth fs (Writer.line outer ++ '}' :: rest)))) =
      .ok (.object (before ++ (name, v) :: fs), rest) := by
  have hends := ends_members depth fs (ends_line outer ('}' :: rest))
  have hstarts := startsValue_value depth h.1 hends
  have hdepth : v.depth ≤ room ∧ Value.depthFields fs ≤ room := Nat.max_le.mp hroom
  have hfresh : name ∉ before.map Prod.fst := fun hmem =>
    (List.nodup_append.mp hnames).2.2 name hmem name List.mem_cons_self rfl
  match fuel, fs with
  | 0, fs =>
    rw [Value.sizeFields] at hfuel
    omega
  | fuel + 1, [] =>
    have hsize : v.size ≤ fuel := by
      rw [Value.sizeFields] at hfuel
      omega
    rw [Writer.members] at hends hstarts ⊢
    rw [members_last before name hstarts
        (value_written fuel room depth v _ h.1 hsize hdepth.1 hends),
      set_of_not_mem hfresh]
  | fuel + 1, (other, w) :: fs =>
    have hsize : v.size ≤ fuel ∧ Value.sizeFields ((other, w) :: fs) ≤ fuel := by
      rw [Value.sizeFields] at hfuel
      omega
    rw [Writer.members, List.cons_append] at hends hstarts ⊢
    have hmore := members_written fuel room depth outer other w fs (before ++ [(name, v)]) rest
      h.2 (by simpa using hnames) hsize.2 hdepth.2
    rw [members_next before name other hstarts
        (value_written fuel room depth v _ h.1 hsize.1 hdepth.1 hends),
      set_of_not_mem hfresh, hmore, List.append_assoc]
    rfl

end

end Reader

namespace Writer

theorem length_le_value (depth : Nat) (v : Value) (rest : List Char) :
    rest.length ≤ (value depth v rest).length := by
  rw [value_append, List.length_append]
  omega

theorem length_text (us : Units) (rest : List Char) :
    rest.length + 2 ≤ (text us rest).length := by
  simp only [text, List.length_append, List.length_cons]
  omega

theorem length_line (depth : Nat) (cs : List Char) : cs.length < (line depth ++ cs).length := by
  simp only [line, List.length_append, List.length_cons]
  omega

mutual

/-- The text of a value is long enough for what it takes to read it. -/
theorem size_le (depth : Nat) (v : Value) (rest : List Char) :
    v.size + rest.length ≤ (value depth v rest).length + 1 := by
  match v with
  | .null | .bool _ | .int _ | .real _ | .text _ | .array [] | .object [] =>
    have := length_le_value depth
    simp only [Value.size, Value.sizeAll, Value.sizeFields]
    grind
  | .array (v :: vs) =>
    have hvalue := size_le (depth + 1) v (values (depth + 1) vs (line depth ++ ']' :: rest))
    have hvalues := sizeAll_le (depth + 1) vs (line depth ++ ']' :: rest)
    have hline := length_line (depth + 1)
      (value (depth + 1) v (values (depth + 1) vs (line depth ++ ']' :: rest)))
    have hend := length_line depth (']' :: rest)
    simp only [value, Value.size, Value.sizeAll, List.cons_append, List.length_cons] at *
    omega
  | .object ((name, v) :: fs) =>
    have hvalue := size_le (depth + 1) v (members (depth + 1) fs (line depth ++ '}' :: rest))
    have hmembers := sizeFields_le (depth + 1) fs (line depth ++ '}' :: rest)
    have htext := length_text name (':' :: ' ' ::
      value (depth + 1) v (members (depth + 1) fs (line depth ++ '}' :: rest)))
    have hline := length_line (depth + 1) (text name (':' :: ' ' ::
      value (depth + 1) v (members (depth + 1) fs (line depth ++ '}' :: rest))))
    have hend := length_line depth ('}' :: rest)
    simp only [value, Value.size, Value.sizeFields, List.cons_append, List.length_cons] at *
    omega

theorem sizeAll_le (depth : Nat) (vs : List Value) (rest : List Char) :
    Value.sizeAll vs + rest.length ≤ (values depth vs rest).length := by
  match vs with
  | [] => simp [values, Value.sizeAll]
  | v :: vs =>
    have hvalue := size_le depth v (values depth vs rest)
    have hvalues := sizeAll_le depth vs rest
    have hline := length_line depth (value depth v (values depth vs rest))
    simp only [values, Value.sizeAll, List.cons_append, List.length_cons]
    omega

theorem sizeFields_le (depth : Nat) (fs : Fields) (rest : List Char) :
    Value.sizeFields fs + rest.length ≤ (members depth fs rest).length := by
  match fs with
  | [] => simp [members, Value.sizeFields]
  | (name, v) :: fs =>
    have hvalue := size_le depth v (members depth fs rest)
    have hmembers := sizeFields_le depth fs rest
    have htext := length_text name (':' :: ' ' :: value depth v (members depth fs rest))
    have hline := length_line depth
      (text name (':' :: ' ' :: value depth v (members depth fs rest)))
    simp only [members, Value.sizeFields, List.cons_append, List.length_cons] at *
    omega

end

end Writer

/-- The text of a value reads as the value. -/
theorem read_write [Nesting] {v : Value} (h : v.Sound) (hdepth : v.depth ≤ Nesting.reading) :
    read (write v) = .ok v := by
  have hsize : v.size ≤ (Writer.value 0 v []).length + 1 := Writer.size_le 0 v []
  rw [read, write, Reader.skip_value (Reader.startsValue_value 0 h Reader.ends_nil),
    Reader.value_written _ _ 0 v [] h hsize hdepth Reader.ends_nil]
  rfl

end HdProvision.Json
