import HdProvision.Proofs.Wallet.DerivationPath

/-!
# Which paths have a wallet

Every seed has a wallet at a path whose children have numbers of four octets, and at no other path.
The wallet's key comes from the kinds and numbers of the children; as long as no child is the stray
one the numbers tell the kinds.
-/

set_option autoImplicit false

namespace HdProvision.Wallet

variable {seed : Bytes} {path : String} {children : DerivationPath} {w : Identity}

/-- A wallet that was derived knows its path. -/
theorem Identity.derive_path (h : Identity.derive seed path = .ok w) :
    w.derivationPath = some path := by
  rw [Identity.derive] at h
  split at h
  · cases h
  · split at h
    · cases h
    · obtain rfl := Except.ok.inj h
      rfl

theorem Identity.derive_isDerived (h : Identity.derive seed path = .ok w) :
    w.isDerived = true := by
  rw [Identity.isDerived, Identity.derive_path h, Option.isSome_some]

theorem ExtendedKey.descend?_isSome (k : ExtendedKey)
    (h : ∀ child ∈ children, child.childNumber < numberLimit) :
    ∃ d, k.descend? children = some d := by
  induction children generalizing k with
  | nil => exact ⟨k, rfl⟩
  | cons child path ih =>
    obtain ⟨hchild, hrest⟩ := List.forall_mem_cons.mp h
    obtain ⟨next, hnext⟩ : ∃ next, k.child? child = some next := by
      rw [ExtendedKey.child?, if_neg (by omega)]
      exact ⟨_, rfl⟩
    obtain ⟨d, hd⟩ := ih next hrest
    exact ⟨d, by rw [ExtendedKey.descend?, hnext, Option.bind_some, hd]⟩

/-- A key is found only along children that have numbers. -/
theorem ExtendedKey.childNumber_lt_of_descend? {k d : ExtendedKey}
    (h : k.descend? children = some d) : ∀ child ∈ children, child.childNumber < numberLimit := by
  induction children generalizing k with
  | nil => simp
  | cons child path ih =>
    rw [ExtendedKey.descend?, Option.bind_eq_some_iff] at h
    obtain ⟨next, hnext, hrest⟩ := h
    have hchild : child.childNumber < numberLimit := by
      by_contra hlarge
      rw [ExtendedKey.child?, if_pos (Nat.not_lt.mp hlarge)] at hnext
      cases hnext
    exact List.forall_mem_cons.mpr ⟨hchild, ih hrest⟩

/-- At a path whose children have numbers every seed has a wallet. -/
theorem Identity.derive_of_path (hpath : DerivationPath.ofString path = .ok children)
    (h : ∀ child ∈ children, child.childNumber < numberLimit) (seed : Bytes) :
    ∃ w, Identity.derive seed path = .ok w := by
  obtain ⟨k, hk⟩ := (ExtendedKey.ofSeed seed).descend?_isSome h
  refine ⟨ofKey path k.key, ?_⟩
  rw [Identity.derive, hpath]
  simp only [hk]

/-- A wallet is that of the key at the end of its path. -/
theorem Identity.derive_eq_ok (h : Identity.derive seed path = .ok w) :
    ∃ children k, DerivationPath.ofString path = .ok children ∧
      (ExtendedKey.ofSeed seed).descend? children = some k ∧ w = ofKey path k.key := by
  rw [Identity.derive] at h
  split at h
  · cases h
  · next children hchildren =>
    split at h
    · cases h
    · next k hk => exact ⟨children, k, hchildren, hk, (Except.ok.inj h).symm⟩

/-- A text has a wallet when it spells a path of children that can be taken. -/
theorem Identity.exists_derive_iff :
    (∃ w, Identity.derive seed path = .ok w) ↔
      ∃ children, Spells path.toList children ∧ ∀ child ∈ children, child.Taken := by
  simp only [Child.taken_iff]
  constructor
  · rintro ⟨w, h⟩
    obtain ⟨children, k, hpath, hk, -⟩ := derive_eq_ok h
    obtain ⟨hspells, hindices⟩ := DerivationPath.ofChars_eq_ok_iff.mp hpath
    have hnumbers := ExtendedKey.childNumber_lt_of_descend? hk
    exact ⟨children, hspells, fun child hchild => ⟨hindices child hchild, hnumbers child hchild⟩⟩
  · rintro ⟨children, hspells, hall⟩
    have hpath : DerivationPath.ofString path = .ok children :=
      DerivationPath.ofChars_eq_ok_iff.mpr ⟨hspells, fun child hchild => (hall child hchild).1⟩
    exact derive_of_path hpath (fun child hchild => (hall child hchild).2) seed

/-- The children on the path of a wallet. -/
theorem Identity.derive_of_spells (hspells : Spells path.toList children)
    (h : Identity.derive seed path = .ok w) :
    ∃ k, (ExtendedKey.ofSeed seed).descend? children = some k ∧ w = ofKey path k.key := by
  obtain ⟨children', k, hpath, hk, rfl⟩ := derive_eq_ok h
  obtain ⟨hspells', -⟩ := DerivationPath.ofChars_eq_ok_iff.mp hpath
  obtain rfl := hspells.unique hspells'
  exact ⟨k, hk, rfl⟩

/-- Where two texts spell the same path, their wallets have the same key. -/
theorem Identity.derive_of_same_path {path' : String} (hspells : Spells path.toList children)
    (hspells' : Spells path'.toList children) (h : Identity.derive seed path = .ok w) :
    ∃ w', Identity.derive seed path' = .ok w' ∧ w'.address = w.address ∧
      w'.publicKey = w.publicKey := by
  obtain ⟨children', hother, htaken⟩ := exists_derive_iff.mp ⟨w, h⟩
  obtain rfl := hspells.unique hother
  obtain ⟨w', h'⟩ : ∃ w', Identity.derive seed path' = .ok w' :=
    exists_derive_iff.mpr ⟨children, hspells', htaken⟩
  obtain ⟨k, hk, rfl⟩ := derive_of_spells hspells h
  obtain ⟨k', hk', rfl⟩ := derive_of_spells hspells' h'
  obtain rfl : k = k' := Option.some.inj (hk.symm.trans hk')
  exact ⟨_, h', rfl, rfl⟩

/-- A wallet is derived for the texts that spell a path of regular children and, one too many, of
stray ones. A component that names no such child has the text refused, whatever stands beside it.
Wallets at paths of regular children with the same numbers have the same key. -/
theorem Identity.derive_by_numbers (seed : Bytes) :
    (∀ path, (∃ w, derive seed path = .ok w) ↔
      ∃ children, Spells path.toList children ∧ ∀ child ∈ children, child.Taken) ∧
    (∀ path part, HasComponent path.toList part →
      (∀ child, Component part child → ¬ child.Taken) → ∃ fault, derive seed path = .error fault) ∧
    ∀ path path' children children' w w',
      Spells path.toList children → Spells path'.toList children' →
      derive seed path = .ok w → derive seed path' = .ok w' →
      (∀ child ∈ children, child.Regular) → (∀ child ∈ children', child.Regular) →
      DerivationPath.childNumbers children = DerivationPath.childNumbers children' →
      w.address = w'.address ∧ w.publicKey = w'.publicKey := by
  refine ⟨fun path => exists_derive_iff, ?refused, ?numbers⟩
  case refused =>
    intro path part hpart hnone
    cases hderive : derive seed path with
    | error fault => exact ⟨fault, rfl⟩
    | ok w =>
      obtain ⟨children, hspells, htaken⟩ := exists_derive_iff.mp ⟨w, hderive⟩
      obtain ⟨child, hchild, hcomponent⟩ := hspells.component hpart
      exact absurd (htaken child hchild) (hnone child hcomponent)
  case numbers =>
    intro path path' children children' w w' hspells hspells' hw hw' hregular hregular' hnumbers
    obtain rfl := Child.eq_of_childNumbers hregular hregular' hnumbers
    obtain ⟨other, hother, hsame⟩ := derive_of_same_path hspells' hspells hw'
    obtain rfl : other = w := Except.ok.inj (hother.symm.trans hw)
    exact hsame

/-- Two roots and two marks, and a component that is empty. -/
theorem Identity.derive_by_numbers_marks :
    (∃ w w', derive [0] "m/44'" = .ok w ∧ derive [0] "M/44H" = .ok w' ∧ w.address = w'.address ∧
      w.publicKey = w'.publicKey) ∧ ∃ fault, derive [0] "m//44'" = .error fault := by
  obtain ⟨htaken, hrefused, hnumbers⟩ := derive_by_numbers [0]
  have hinteger : Text.Integer.ofChars? ['4', '4'] = some ((44 : Nat) : Int) := by decide
  have hregular : ∀ child ∈ [(⟨.hardened, 44⟩ : Child)], child.Regular := by
    simp [Child.Regular, hardenedOffset]
  have hplain : Spells "m/44'".toList [⟨.hardened, 44⟩] :=
    ⟨'m', [['4', '4', '\'']], Or.inl rfl, rfl, .cons (.hardened (Or.inl rfl) hinteger) .nil⟩
  have hupper : Spells "M/44H".toList [⟨.hardened, 44⟩] :=
    ⟨'M', [['4', '4', 'H']], Or.inr rfl, rfl, .cons (.hardened (Or.inr rfl) hinteger) .nil⟩
  obtain ⟨w, hw⟩ := (htaken "m/44'").mpr ⟨_, hplain, fun child h => Or.inl (hregular child h)⟩
  obtain ⟨w', hw'⟩ := (htaken "M/44H").mpr ⟨_, hupper, fun child h => Or.inl (hregular child h)⟩
  have hsame := hnumbers _ _ _ _ w w' hplain hupper hw hw' hregular hregular rfl
  have hempty : HasComponent "m//44'".toList [] :=
    ⟨by simp, ['m'], ['/', '4', '4', '\''], rfl, Or.inr rfl⟩
  have hnothing : ∀ child, Component [] child → ¬ child.Taken := by
    intro child hchild
    obtain ⟨digits, hmark, hdigits⟩ := component_iff.mp hchild
    obtain ⟨-, rfl⟩ := Prod.mk.inj hmark
    cases hdigits
  exact ⟨⟨w, w', hw, hw', hsame⟩, hrefused _ [] hempty hnothing⟩

set_option maxRecDepth 100000 in
/-- A soft index that is one too large is taken, though the text spells no path of regular children.
Its number is that of the first hardened child, whose key is another one. -/
theorem Identity.derive_stray :
    (∃ w, derive [0] "m/2147483648" = .ok w) ∧
    (¬ ∃ children, Spells "m/2147483648".toList children ∧ ∀ child ∈ children, child.Regular) ∧
    (derive [0] "m/2147483648").toOption.map Identity.publicKey ≠
      (derive [0] "m/0'").toOption.map Identity.publicKey := by
  have hinteger : Text.Integer.ofChars? "2147483648".toList =
      some ((hardenedOffset : Nat) : Int) := by decide
  have hspells : Spells "m/2147483648".toList [Child.stray] :=
    ⟨'m', ["2147483648".toList], Or.inl rfl, rfl, .cons (.soft hinteger) .nil⟩
  refine ⟨exists_derive_iff.mpr ⟨_, hspells, by simp [Child.Taken]⟩, ?_, by decide +kernel⟩
  rintro ⟨children, hother, hregular⟩
  obtain rfl := hspells.unique hother
  exact absurd (hregular Child.stray (by simp)) (by simp [Child.Regular, Child.stray])

/-- The earning wallet of a seed. -/
def EarningWallet.identity (seed : Bytes) : EarningWallet → Except PathFault Identity
  | .derived path => Identity.derive seed path
  | .external e => .ok e.wallet

end HdProvision.Wallet
