import HdProvision.Proofs.Wallet.Identity

/-!
# One text for both wallets

A text that names the consuming wallet may be given for the earning wallet too. White space behind
it is taken off there, which does not change the path. But only a root that is written `m` with a
component behind it is seen to be a path; a path of any other look is read as an address, and
refused.
-/

set_option autoImplicit false

namespace HdProvision.Wallet

open Text (isBlank stripChars)

variable {cs : List Char} {path : DerivationPath}

theorem not_blank_root {root : Char} (h : root = 'm' ∨ root = 'M') : isBlank root = false := by
  rcases h with rfl | rfl <;> decide

/-- Without white space at its end a component names the same child. -/
theorem Component.of_append_blank {digits : List Char} {c : Char} {child : Child}
    (hc : isBlank c = true) (h : Component (digits ++ [c]) child) : Component digits child := by
  obtain ⟨kind, index⟩ := child
  obtain ⟨rest, hmark, hindex⟩ := component_iff.mp h
  rcases Child.mark_cases (digits ++ [c]) with hsoft | ⟨front, mark, hhard, heq⟩
  · rw [hsoft] at hmark
    obtain ⟨rfl, rfl⟩ := Prod.mk.inj hmark
    exact .soft (Text.Integer.ofChars?_of_append_blank hc hindex)
  · obtain ⟨-, rfl⟩ := List.append_singleton_inj.mp heq
    rcases hhard with rfl | rfl <;> exact absurd hc (by decide)

/-- White space at the end of a path belongs to its last component. -/
theorem Components.of_append_blank {front : List (List Char)} {digits : List Char} {c : Char}
    (hc : isBlank c = true) (h : List.Forall₂ Component (front ++ [digits ++ [c]]) path) :
    List.Forall₂ Component (front ++ [digits]) path := by
  induction front generalizing path with
  | nil =>
    obtain ⟨child, rest, hchild, hrest, rfl⟩ := List.forall₂_cons_left_iff.mp h
    exact .cons (hchild.of_append_blank hc) hrest
  | cons part front ih =>
    obtain ⟨child, rest, hchild, hrest, rfl⟩ := List.forall₂_cons_left_iff.mp h
    exact .cons hchild (ih hrest)

theorem Spells.of_append_blank {c : Char} (hc : isBlank c = true) (h : Spells (cs ++ [c]) path) :
    Spells cs path := by
  obtain ⟨root, parts, hroot, hcs, hparts⟩ := h
  -- The last character of the text is the last one of the last component, which is not empty.
  induction parts using List.reverseRecOn with
  | nil =>
    obtain ⟨-, rfl⟩ : cs = [] ∧ c = root := by simpa using List.append_singleton_inj.mp hcs
    rw [not_blank_root hroot] at hc
    cases hc
  | append_singleton front part _ =>
    induction part using List.reverseRecOn with
    | nil =>
      obtain ⟨child, -, hchild⟩ := exists_component hparts [] (by simp)
      obtain ⟨digits, hmark, hdigits⟩ := component_iff.mp hchild
      obtain ⟨-, rfl⟩ := Prod.mk.inj hmark
      cases hdigits
    | append_singleton digits d _ =>
      have hends : cs ++ [c] = (root :: (front ++ [digits]).flatMap ('/' :: ·)) ++ [d] := by
        simpa using hcs
      obtain ⟨hfront, rfl⟩ := List.append_singleton_inj.mp hends
      exact ⟨root, front ++ [digits], hroot, hfront, Components.of_append_blank hc hparts⟩

/-- A path is spelled without the white space behind it too. -/
theorem Spells.rdropWhile (h : Spells cs path) : Spells (cs.rdropWhile isBlank) path := by
  induction cs using List.reverseRecOn with
  | nil => exact h
  | append_singleton cs c ih =>
    by_cases hc : isBlank c = true
    · rw [List.rdropWhile_concat_pos _ _ _ hc]
      exact ih (h.of_append_blank hc)
    · rwa [List.rdropWhile_concat_neg _ _ _ hc]

theorem Spells.stripChars_eq (h : Spells cs path) : stripChars cs = cs.rdropWhile isBlank := by
  obtain ⟨root, parts, hroot, rfl, -⟩ := h
  exact Text.trim_cons_of_neg (not_blank_root hroot) _

/-- A slash follows the root when there are children. -/
theorem Spells.start_iff (h : Spells cs path) :
    ['m', '/'] <+: cs ↔ cs.head? = some 'm' ∧ path ≠ [] := by
  obtain ⟨root, parts, hroot, rfl, hparts⟩ := h
  cases hparts <;> simp [eq_comm]

/-- A path that starts otherwise has no children or the other root. -/
theorem Spells.of_not_start (h : Spells cs path) (hstart : ¬ ['m', '/'] <+: cs) :
    cs = ['m'] ∨ cs.head? = some 'M' := by
  obtain ⟨root, parts, hroot, rfl, hparts⟩ := h
  rcases hroot with rfl | rfl
  · cases hparts with
    | nil => exact Or.inl rfl
    | cons => exact absurd (by simp) hstart
  · exact Or.inr rfl

/-- What a path starts with is not taken off. -/
theorem Spells.strip (h : Spells cs path) :
    Spells (stripChars cs) path ∧ (['m', '/'] <+: stripChars cs ↔ ['m', '/'] <+: cs) := by
  have hstripped : Spells (stripChars cs) path := h.stripChars_eq ▸ h.rdropWhile
  refine ⟨hstripped, ?_⟩
  have hhead : (stripChars cs).head? = cs.head? := by
    have hfront : stripChars cs <+: cs := h.stripChars_eq ▸ List.rdropWhile_prefix _ _
    obtain ⟨root, parts, -, hcs, -⟩ := hstripped
    obtain ⟨behind, hbehind⟩ := hfront
    have hhead : cs.head? = (stripChars cs ++ behind).head? := by rw [hbehind]
    rw [hhead, hcs]
    rfl
  rw [hstripped.start_iff, h.start_iff, hhead]

theorem Address.mem_digitsOf {c : Char} (h : c ∈ cs) :
    c ∈ digitsOf cs ∨ c = '0' ∨ c = 'x' ∨ c = 'X' := by
  fun_cases digitsOf cs <;> simp_all <;> tauto

/-- An address is written with digits, one of two letters and nothing else. -/
theorem Address.mem_of_ofChars? {a : Address} (h : Address.ofChars? cs = some a) :
    ∀ c ∈ cs, (Hex.value? c).isSome ∨ c = 'x' ∨ c = 'X' := by
  have hdigits : ∀ d ∈ digitsOf cs, (Hex.value? d).isSome := by
    by_contra hnot
    rw [ofChars?, if_neg (by simpa using fun _ => hnot)] at h
    cases h
  intro c hc
  rcases mem_digitsOf hc with hdigit | rfl | hmark
  · exact Or.inl (hdigits c hdigit)
  · exact Or.inl rfl
  · exact Or.inr hmark

/-- White space is not part of an address. -/
theorem Address.not_blank {c : Char} (h : (Hex.value? c).isSome ∨ c = 'x' ∨ c = 'X') :
    isBlank c = false := by
  by_contra hblank
  rw [Bool.not_eq_false] at hblank
  exact Text.of_blank (fun c => ¬ ((Hex.value? c).isSome ∨ c = 'x' ∨ c = 'X'))
    (by decide +kernel) hblank h

theorem Address.stripChars_eq {a : Address} (h : Address.ofChars? cs = some a) :
    stripChars cs = cs := by
  exact Text.trim_eq_self fun c hc => not_blank (mem_of_ofChars? h c hc)

/-- What spells a path is no address. -/
theorem Spells.no_address (h : Spells cs path) : Address.ofChars? cs = none := by
  by_contra haddress
  obtain ⟨a, ha⟩ := Option.ne_none_iff_exists'.mp haddress
  obtain ⟨root, parts, hroot, rfl, -⟩ := h
  have hmem := Address.mem_of_ofChars? ha root (by simp)
  rcases hroot with rfl | rfl <;> exact absurd hmem (by decide)

namespace EarningWallet

theorem ofString_of_start {t : String} (h : ['m', '/'] <+: stripChars t.toList) :
    EarningWallet.ofString t = .ok (.derived (String.ofList (stripChars t.toList))) := by
  obtain ⟨rest, hrest⟩ := h
  rw [EarningWallet.ofString, ← hrest]
  rfl

/-- What does not start like a path is looked up as an address. -/
theorem ofString_of_not_start {t : String} {found : Option EarningAddress}
    (h : ¬ ['m', '/'] <+: stripChars t.toList)
    (hfound : EarningAddress.ofString? (String.ofList (stripChars t.toList)) = found) :
    EarningWallet.ofString t =
      found.elim (.error (String.ofList (stripChars t.toList))) fun e => .ok (.external e) := by
  rw [EarningWallet.ofString]
  split
  · next rest hrest => exact absurd ⟨rest, hrest.symm⟩ h
  · rw [hfound]
    cases found <;> rfl

theorem ofString_of_address {t : String} {a : Address} (h : Address.ofString? t = some a) :
    EarningWallet.ofString t = .ok (.external ⟨t, a⟩) := by
  have hstrip : stripChars t.toList = t.toList := Address.stripChars_eq h
  have hstart : ¬ ['m', '/'] <+: stripChars t.toList := by
    rw [hstrip]
    intro hfront
    have hm := Address.mem_of_ofChars? h 'm' (List.IsPrefix.subset hfront (by simp))
    exact absurd hm (by decide)
  have hfound : EarningAddress.ofString? (String.ofList (stripChars t.toList)) = some ⟨t, a⟩ := by
    rw [hstrip, String.ofList_toList, EarningAddress.ofString?, h, Option.map_some]
  exact ofString_of_not_start hstart hfound

/-- A text that a consuming wallet is derived for is a path for the earning wallet too, with the same
key, if it starts with `m` and a slash; the only other ones are `m` alone and those with the root
`M`, and these are refused. An address is taken for the earning wallet only. -/
theorem roles_agree (seed : Bytes) (t : String) :
    (∀ w, Identity.derive seed t = .ok w →
      (['m', '/'] <+: t.toList → ∃ path w', EarningWallet.ofString t = .ok (.derived path) ∧
        identity seed (.derived path) = .ok w' ∧ w'.address = w.address ∧
        w'.publicKey = w.publicKey) ∧
      (¬ ['m', '/'] <+: t.toList → (t = "m" ∨ t.toList.head? = some 'M') ∧
        ∃ text, EarningWallet.ofString t = .error text)) ∧
    ∀ e, EarningAddress.ofString? t = some e →
      EarningWallet.ofString t = .ok (.external e) ∧
        ∃ fault, Identity.derive seed t = .error fault := by
  constructor
  · intro w hw
    obtain ⟨children, hspells, -⟩ := Identity.exists_derive_iff.mp ⟨w, hw⟩
    obtain ⟨hstripped, hstart⟩ := hspells.strip
    constructor
    · intro hpath
      have hsame : Spells (String.ofList (stripChars t.toList)).toList children := by
        rwa [String.toList_ofList]
      obtain ⟨w', hw', hkey⟩ := Identity.derive_of_same_path hspells hsame hw
      exact ⟨_, w', ofString_of_start (hstart.mpr hpath), hw', hkey⟩
    · intro hpath
      have hform : t = "m" ∨ t.toList.head? = some 'M' := by
        simpa [← String.toList_inj] using hspells.of_not_start hpath
      have hnone : EarningAddress.ofString? (String.ofList (stripChars t.toList)) = none := by
        rw [EarningAddress.ofString?, Address.ofString?, String.toList_ofList,
          hstripped.no_address, Option.map_none]
      exact ⟨hform, _, ofString_of_not_start (mt hstart.mp hpath) hnone⟩
  · intro e he
    obtain ⟨a, ha, rfl⟩ := Option.map_eq_some_iff.mp he
    refine ⟨ofString_of_address ha, ?_⟩
    cases hderive : Identity.derive seed t with
    | error fault => exact ⟨fault, rfl⟩
    | ok w =>
      obtain ⟨children, hspells, -⟩ := Identity.exists_derive_iff.mp ⟨w, hderive⟩
      rw [Address.ofString?, hspells.no_address] at ha
      cases ha

/-- A path with white space behind it, and an address. -/
theorem roles_agree_padded :
    (∃ path w w', Identity.derive [0] "m/44 " = .ok w ∧
      EarningWallet.ofString "m/44 " = .ok (.derived path) ∧
      identity [0] (.derived path) = .ok w' ∧ w'.address = w.address ∧
      w'.publicKey = w.publicKey) ∧
    ∃ e fault,
      EarningWallet.ofString "0000000000000000000000000000000000000000" = .ok (.external e) ∧
      Identity.derive [0] "0000000000000000000000000000000000000000" = .error fault := by
  constructor
  · have hspells : Spells "m/44 ".toList [⟨.soft, 44⟩] :=
      ⟨'m', [['4', '4', ' ']], Or.inl rfl, rfl, .cons (.soft (by decide)) .nil⟩
    obtain ⟨w, hw⟩ := Identity.exists_derive_iff.mpr ⟨_, hspells, by
      simp [Child.Taken, Child.Regular, hardenedOffset]⟩
    obtain ⟨path, w', hpath, hw', hkey⟩ :=
      ((roles_agree [0] "m/44 ").1 w hw).1 ⟨['4', '4', ' '], rfl⟩
    exact ⟨path, w, w', hw, hpath, hw', hkey⟩
  · obtain ⟨e, he⟩ : ∃ e,
        EarningAddress.ofString? "0000000000000000000000000000000000000000" = some e :=
      Option.isSome_iff_exists.mp (by decide +kernel)
    obtain ⟨hchosen, fault, hfault⟩ := (roles_agree [0] _).2 e he
    exact ⟨e, fault, hchosen, hfault⟩

/-- A path with the other root, and the path of no children, name a consuming wallet only. -/
theorem roles_differ :
    (∃ w, Identity.derive [0] "M/0" = .ok w) ∧ EarningWallet.ofString "M/0" = .error "M/0" ∧
    (∃ w, Identity.derive [0] "m" = .ok w) ∧ EarningWallet.ofString "m" = .error "m" := by
  have hzero : Spells "M/0".toList [⟨.soft, 0⟩] :=
    ⟨'M', [['0']], Or.inr rfl, rfl, .cons (.soft (by decide)) .nil⟩
  have hroot : Spells "m".toList [] := ⟨'m', [], Or.inl rfl, rfl, .nil⟩
  refine ⟨Identity.exists_derive_iff.mpr ⟨_, hzero, ?_⟩, rfl,
    Identity.exists_derive_iff.mpr ⟨_, hroot, List.forall_mem_nil _⟩, rfl⟩
  simp [Child.Taken, Child.Regular, hardenedOffset]

end EarningWallet
end HdProvision.Wallet
