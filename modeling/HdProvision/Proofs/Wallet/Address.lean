import HdProvision.Proofs.Bytes.Hex
import HdProvision.Proofs.Wallet.Roles

/-!
# The canonical text of an address

A text is read as an address when it has forty digits, of either case, behind a mark or behind none.
The address is the one whose digits are these digits in lower case. It is written with the same digits
again, each in the case that the digest tells; so what is written for an address is read as that
address, whether the address was read from a text or made from a public key.
-/

set_option autoImplicit false

namespace HdProvision.Keccak

theorem length_round (s : Lanes) (k : UInt64) : (round s k).length = 25 := by
  have hchi : (chi (rhoPi (theta s))).length = 25 := by simp [chi]
  rw [round]
  cases h : chi (rhoPi (theta s)) with
  | nil => simp [h] at hchi
  | cons l ls => simpa [h] using hchi

theorem length_rounds (s : Lanes) (ks : List UInt64) (hs : s.length = 25) :
    (ks.foldl round s).length = 25 := by
  induction ks generalizing s with
  | nil => exact hs
  | cons k ks ih => exact ih _ (length_round s k)

theorem length_absorbed (s : Lanes) (blocks : List Bytes) (hs : s.length = 25) :
    (blocks.foldl absorb s).length = 25 := by
  induction blocks generalizing s with
  | nil => exact hs
  | cons block blocks ih =>
    apply ih
    rw [absorb, permute]
    exact length_rounds _ _ (by simp)

theorem length_digest (msg : Bytes) : (digest msg).length = 32 := by
  have hs := length_absorbed (List.replicate 25 0) (Bytes.chunks 136 (pad msg)) (by simp)
  simp only [digest, List.length_flatMap, Bytes.length_ofNatLE, List.map_const',
    List.sum_replicate_nat, List.length_take, hs]
  decide

end HdProvision.Keccak

namespace HdProvision.Wallet

open Text (isBlank stripChars)

variable {cs ds : List Char} {a : Address} {seed : Bytes} {path : String} {w : Identity}

namespace Address

/-- What may stand in front of the digits. -/
def marks : List (List Char) := [[], ['0', 'x'], ['0', 'X']]

/-- Forty digits behind a mark. -/
structure Writes (cs ds : List Char) : Prop where
  marked : ∃ mark ∈ marks, cs = mark ++ ds
  digits : ∀ d ∈ ds, d ∈ Hex.alphabet
  length : ds.length = 40

theorem exists_mark (cs : List Char) : ∃ mark ∈ marks, cs = mark ++ digitsOf cs := by
  fun_cases digitsOf cs <;> simp [marks]

/-- Digits are not taken for a mark. -/
theorem digitsOf_of_alphabet (h : ∀ d ∈ ds, d ∈ Hex.alphabet) : digitsOf ds = ds := by
  have hx : 'x' ∉ Hex.alphabet := by decide
  have hX : 'X' ∉ Hex.alphabet := by decide
  fun_cases digitsOf ds <;> simp_all

theorem Writes.digitsOf_eq (h : Writes cs ds) : digitsOf cs = ds := by
  obtain ⟨mark, hmark, rfl⟩ := h.marked
  simp only [marks, List.mem_cons, List.not_mem_nil, or_false] at hmark
  rcases hmark with rfl | rfl | rfl
  · exact digitsOf_of_alphabet h.digits
  · rfl
  · rfl

/-- A text is read when it writes forty digits, and then as the address of these digits. -/
theorem ofChars?_eq_some_iff :
    ofChars? cs = some a ↔ ∃ ds, Writes cs ds ∧ Hex.encodeChars a.octets = ds.map Char.toLower := by
  constructor
  · intro h
    rw [ofChars?] at h
    split at h
    · next hread =>
      simp only [Bool.and_eq_true, decide_eq_true_eq, List.all_eq_true,
        Hex.value?_isSome_iff] at hread
      obtain ⟨hlength, hdigits⟩ := hread
      obtain ⟨bs, hbs, hlower⟩ := Hex.decodeChars_of_alphabet hdigits (by omega)
      simp only [hbs, Option.some.injEq] at h
      subst h
      exact ⟨_, ⟨exists_mark cs, hdigits, hlength⟩, hlower⟩
    · cases h
  · rintro ⟨ds, hwrites, hlower⟩
    have hlength := hwrites.length
    obtain ⟨bs, hbs, hsame⟩ := Hex.decodeChars_of_alphabet hwrites.digits (by omega)
    obtain rfl : bs = a.octets := Hex.encodeChars_injective (hsame.trans hlower.symm)
    have hall : (ds.all fun d => (Hex.value? d).isSome) = true := by
      simpa [Hex.value?_isSome_iff] using hwrites.digits
    simp [ofChars?, hwrites.digitsOf_eq, hlength, hall, hbs]

theorem octets_eq_of_lower {b : Address} (h : Hex.encodeChars a.octets = Hex.encodeChars b.octets) :
    a = b := by
  cases a
  cases b
  simpa using Hex.encodeChars_injective h

theorem length_nibbles (bs : Bytes) : (nibbles bs).length = 2 * bs.length := by
  induction bs with
  | nil => rfl
  | cons b bs ih =>
    rw [nibbles, List.flatMap_cons, ← nibbles]
    simp [ih]
    omega

/-- Digits in some case, told for each one. -/
def cased (ds : List Char) (ns : List Nat) : List Char :=
  List.zipWith (fun d n => if 8 ≤ n then d.toUpper else d) ds ns

theorem cased_mem (ns : List Nat) (hds : ∀ d ∈ ds, d ∈ Hex.alphabet) :
    ∀ d ∈ cased ds ns, d ∈ Hex.alphabet := by
  induction ds generalizing ns with
  | nil => simp [cased]
  | cons d ds ih =>
    cases ns with
    | nil => simp [cased]
    | cons n ns =>
      simp only [List.mem_cons, forall_eq_or_imp] at hds
      simp only [cased, List.zipWith_cons_cons, List.mem_cons, forall_eq_or_imp]
      refine ⟨?_, ih ns hds.2⟩
      by_cases hn : 8 ≤ n
      · simpa [hn] using Hex.toUpper_mem d hds.1
      · simpa [hn] using hds.1

/-- An address is written with digits and a mark. -/
theorem mem_text : ∀ c ∈ a.text.toList, c ∈ Hex.alphabet ∨ c = 'x' := by
  intro c hc
  rw [text, String.toList_ofList, chars, List.mem_cons, List.mem_cons] at hc
  rcases hc with rfl | rfl | hc
  · exact .inl (by decide)
  · exact .inr rfl
  · exact .inl (cased_mem _ (Hex.encodeChars_mem a.octets) c hc)

/-- The case of a digit does not count in lower case. -/
theorem cased_toLower (ns : List Nat) (hds : ∀ d ∈ ds, d ∈ Hex.alphabet)
    (hlength : ds.length ≤ ns.length) : (cased ds ns).map Char.toLower = ds.map Char.toLower := by
  induction ds generalizing ns with
  | nil => simp [cased]
  | cons d ds ih =>
    cases ns with
    | nil => simp at hlength
    | cons n ns =>
      simp only [List.mem_cons, forall_eq_or_imp] at hds
      have hrest := ih ns hds.2 (by simpa using hlength)
      rw [cased] at hrest
      by_cases hn : 8 ≤ n <;> simp [cased, hn, hrest, Hex.toLower_toUpper d hds.1]

/-- What is written for twenty octets is their digits, behind the mark. -/
theorem writes_chars (h : a.octets.length = 20) :
    Writes a.chars (checksummed (Hex.encodeChars a.octets)) ∧
      (checksummed (Hex.encodeChars a.octets)).map Char.toLower = Hex.encodeChars a.octets := by
  have hdigits := Hex.encodeChars_mem a.octets
  have hlength := Hex.length_encodeChars a.octets
  have hnibbles := length_nibbles (Keccak.digest (Utf8.encodeChars (Hex.encodeChars a.octets)))
  rw [Keccak.length_digest] at hnibbles
  refine ⟨⟨⟨['0', 'x'], by simp [marks], rfl⟩, cased_mem _ hdigits, ?_⟩, ?_⟩
  · simp [checksummed, hlength, hnibbles, h]
  · conv_rhs => rw [← Hex.map_toLower_encodeChars]
    exact cased_toLower _ hdigits (by omega)

theorem length_octets_of_ofChars? (h : ofChars? cs = some a) : a.octets.length = 20 := by
  obtain ⟨ds, hwrites, hlower⟩ := ofChars?_eq_some_iff.mp h
  have hlength := congrArg List.length hlower
  rw [Hex.length_encodeChars, List.length_map, hwrites.length] at hlength
  omega

theorem length_octets_ofPoint (point : Secp256k1.Affine) : (ofPoint point).octets.length = 20 := by
  simp [ofPoint, Keccak.length_digest]

/-- What is written for an address is read as that address. -/
theorem ofString?_text (h : a.octets.length = 20) : ofString? a.text = some a := by
  obtain ⟨hwrites, hlower⟩ := writes_chars h
  rw [ofString?, text, String.toList_ofList]
  exact ofChars?_eq_some_iff.mpr ⟨_, hwrites, hlower.symm⟩

end Address

namespace EarningAddress

variable {t t' : String} {e e' : EarningAddress} {ds' : List Char}

theorem exists_ofString?_iff :
    (∃ e, ofString? t = some e) ↔ ∃ ds, Address.Writes t.toList ds := by
  constructor
  · rintro ⟨e, he⟩
    obtain ⟨a, ha, -⟩ := Option.map_eq_some_iff.mp he
    obtain ⟨ds, hwrites, -⟩ := Address.ofChars?_eq_some_iff.mp ha
    exact ⟨ds, hwrites⟩
  · rintro ⟨ds, hwrites⟩
    obtain ⟨bs, -, hlower⟩ := Hex.decodeChars_of_alphabet hwrites.digits
      (by rw [hwrites.length])
    have ha : Address.ofString? t = some ⟨bs⟩ :=
      Address.ofChars?_eq_some_iff.mpr ⟨ds, hwrites, hlower⟩
    exact ⟨_, by rw [ofString?, ha, Option.map_some]⟩

/-- An accepted text has the address of its digits. -/
theorem address_of_writes (h : ofString? t = some e) (hds : Address.Writes t.toList ds) :
    Hex.encodeChars e.address.octets = ds.map Char.toLower ∧ e.address.octets.length = 20 := by
  obtain ⟨a, ha, rfl⟩ := Option.map_eq_some_iff.mp h
  obtain ⟨ds', hds', hlower⟩ := Address.ofChars?_eq_some_iff.mp ha
  obtain rfl : ds' = ds := hds'.digitsOf_eq.symm.trans hds.digitsOf_eq
  exact ⟨hlower, Address.length_octets_of_ofChars? ha⟩

theorem ofString?_text {a : Address} (h : a.octets.length = 20) :
    ofString? a.text = some ⟨a.text, a⟩ := by
  rw [ofString?, Address.ofString?_text h, Option.map_some]

theorem wallet_eq_iff (h : ofString? t = some e) (h' : ofString? t' = some e')
    (hds : Address.Writes t.toList ds) (hds' : Address.Writes t'.toList ds') :
    e.wallet = e'.wallet ↔ ds.map Char.toLower = ds'.map Char.toLower := by
  obtain ⟨hlower, hlength⟩ := address_of_writes h hds
  obtain ⟨hlower', hlength'⟩ := address_of_writes h' hds'
  constructor
  · intro hwallet
    have htext : e.address.text = e'.address.text := congrArg Identity.address hwallet
    have hread := Address.ofString?_text hlength
    rw [htext, Address.ofString?_text hlength', Option.some.injEq] at hread
    rw [← hlower, ← hlower', hread]
  · intro hsame
    have haddress : e.address = e'.address :=
      Address.octets_eq_of_lower (hlower.trans (hsame.trans hlower'.symm))
    rw [wallet, wallet, haddress]

end EarningAddress

/-- White space around a text of an earning wallet does not count. -/
theorem EarningWallet.ofString_append {front back : String}
    (hfront : ∀ c ∈ front.toList, isBlank c = true) (hback : ∀ c ∈ back.toList, isBlank c = true)
    (t : String) : EarningWallet.ofString (front ++ t ++ back) = EarningWallet.ofString t := by
  have hstrip : stripChars (front ++ t ++ back).toList = stripChars t.toList := by
    rw [String.toList_append, String.toList_append]
    exact Text.trim_append hfront hback t.toList
  simp only [EarningWallet.ofString, hstrip]

/-- A text is accepted as an address when it writes forty digits. Its wallet is written with these
digits, in the case that the digest tells; so two accepted texts have one wallet exactly when their
digits are the same but for the case, and the address that is written is accepted and has that wallet
too. The address of a wallet that was derived is accepted and stays as it is, also with white space
around it. -/
theorem EarningAddress.wallet_canonical :
    (∀ t, (∃ e, ofString? t = some e) ↔ ∃ ds, Address.Writes t.toList ds) ∧
    (∀ t e ds, ofString? t = some e → Address.Writes t.toList ds →
      ∃ shown, e.wallet = ⟨"0x" ++ String.ofList shown, none, none⟩ ∧ shown.length = 40 ∧
        shown = Address.checksummed (ds.map Char.toLower) ∧
        shown.map Char.toLower = ds.map Char.toLower) ∧
    (∀ t t' e e' ds ds', ofString? t = some e → ofString? t' = some e' →
      Address.Writes t.toList ds → Address.Writes t'.toList ds' →
      (e.wallet = e'.wallet ↔ ds.map Char.toLower = ds'.map Char.toLower)) ∧
    (∀ t e, ofString? t = some e →
      ∃ e', ofString? e.wallet.address = some e' ∧ e'.wallet = e.wallet) ∧
    ∀ seed path w, Identity.derive seed path = .ok w →
      ∃ e, ofString? w.address = some e ∧ e.wallet.address = w.address ∧
        ∀ front back : String, (∀ c ∈ front.toList, isBlank c = true) →
          (∀ c ∈ back.toList, isBlank c = true) →
          EarningWallet.ofString (front ++ w.address ++ back) = .ok (.external e) := by
  refine ⟨fun t => exists_ofString?_iff, ?shown, fun t t' e e' ds ds' => wallet_eq_iff, ?fixed,
    ?derived⟩
  case shown =>
    intro t e ds he hds
    obtain ⟨hlower, hlength⟩ := address_of_writes he hds
    obtain ⟨hwrites, hsame⟩ := Address.writes_chars hlength
    rw [hlower] at hwrites hsame
    refine ⟨_, ?_, hwrites.length, rfl, hsame⟩
    rw [wallet, Address.text, Address.chars, hlower]
    simp [← String.toList_inj]
  case fixed =>
    intro t e he
    obtain ⟨a, ha, rfl⟩ := Option.map_eq_some_iff.mp he
    exact ⟨_, ofString?_text (Address.length_octets_of_ofChars? ha), rfl⟩
  case derived =>
    intro seed path w hw
    obtain ⟨-, k, -, -, rfl⟩ := Identity.derive_eq_ok hw
    have hlength := Address.length_octets_ofPoint (Secp256k1.publicPoint k.key)
    refine ⟨_, ofString?_text hlength, rfl, fun front back hfront hback => ?_⟩
    rw [EarningWallet.ofString_append hfront hback]
    exact EarningWallet.ofString_of_address (Address.ofString?_text hlength)

/-- A text with the other mark and capitals, one without a mark, and the wallet of the root. -/
theorem EarningAddress.wallet_canonical_capitals : ∃ e e' w e'',
    ofString? "0XABCDEFABCDEFABCDEFABCDEFABCDEFABCDEFABCD" = some e ∧
    ofString? "abcdefABCDEFabcdefABCDEFabcdefABCDEFabcd" = some e' ∧ e.wallet = e'.wallet ∧
    ofString? e.wallet.address = some e'' ∧ e''.wallet = e.wallet ∧
    Identity.derive [0] "m" = .ok w ∧
    ∃ d, EarningWallet.ofString (" " ++ w.address ++ "\n") = .ok (.external d) ∧
      d.wallet.address = w.address := by
  obtain ⟨haccepted, -, hsame, hfixed, hderived⟩ := wallet_canonical
  have hcapital : "ABCDEFABCDEFABCDEFABCDEFABCDEFABCDEFABCD".toList ⊆ Hex.alphabet := by decide
  have hmixed : "abcdefABCDEFabcdefABCDEFabcdefABCDEFabcd".toList ⊆ Hex.alphabet := by decide
  have hds : Address.Writes "0XABCDEFABCDEFABCDEFABCDEFABCDEFABCDEFABCD".toList
      "ABCDEFABCDEFABCDEFABCDEFABCDEFABCDEFABCD".toList :=
    ⟨⟨['0', 'X'], by simp [Address.marks], rfl⟩, fun d hd => hcapital hd, rfl⟩
  have hds' : Address.Writes "abcdefABCDEFabcdefABCDEFabcdefABCDEFabcd".toList
      "abcdefABCDEFabcdefABCDEFabcdefABCDEFabcd".toList :=
    ⟨⟨[], by simp [Address.marks], rfl⟩, fun d hd => hmixed hd, rfl⟩
  obtain ⟨e, he⟩ := (haccepted _).mpr ⟨_, hds⟩
  obtain ⟨e', he'⟩ := (haccepted _).mpr ⟨_, hds'⟩
  obtain ⟨e'', he'', hwallet⟩ := hfixed _ e he
  have hroot : Spells "m".toList [] := ⟨'m', [], Or.inl rfl, rfl, .nil⟩
  obtain ⟨w, hw⟩ : ∃ w, Identity.derive [0] "m" = .ok w :=
    Identity.exists_derive_iff.mpr ⟨_, hroot, List.forall_mem_nil _⟩
  obtain ⟨d, -, haddress, hblank⟩ := hderived [0] "m" w hw
  refine ⟨e, e', w, e'', he, he', (hsame _ _ _ _ _ _ he he' hds hds').mpr (by decide), he'',
    hwallet, hw, d, ?_, haddress⟩
  exact hblank " " "\n" (List.all_eq_true.mp (by decide)) (List.all_eq_true.mp (by decide))

end HdProvision.Wallet
